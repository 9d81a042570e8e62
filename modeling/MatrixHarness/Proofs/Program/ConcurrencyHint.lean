import MatrixHarness.Plan
import MatrixHarness.Proofs.Arguments.Exactness
import MatrixHarness.Proofs.Settings.RoundTrip
import MatrixHarness.Resolution

/-! # The hint of concurrency

Where the hint that servers are told comes from.  The command line refuses 0 and the default is 2,
but the settings file may hold 0, and nothing behind it looks at the bound again.  So a 0 in the
file is the one hint below 1 that reaches a server. -/
namespace MatrixHarness.Resolution

variable {env : Environment} {directory : RawText} {i : Invocation} {s : Settings}
  {m : MatrixSettings}

theorem resolve_ok_iff : resolve env directory i s = .ok m ↔
    ∃ path, testRunner env directory i.testRunner s.testRunner = .ok path ∧
      m = ⟨i.memcached,path,(i.smp <|> s.smp).getD MatrixSettings.defaultSmp,i.fast || s.fast⟩ := by
  rw [resolve]
  rcases testRunner env directory i.testRunner s.testRunner with f | path
  · simp
  · simp [eq_comm]

/-- Of the three sources of a hint only the file can hold 0. -/
theorem smp_eq_zero_iff (hi : ∀ n ∈ i.smp, 1 ≤ n.toNat) :
    ((i.smp <|> s.smp).getD MatrixSettings.defaultSmp).toNat = 0 ↔
      i.smp = none ∧ s.smp = some 0 := by
  rcases hgiven : i.smp with _ | n
  · rcases hfile : s.smp with _ | n
    · simp [MatrixSettings.defaultSmp]
    · simp [← UInt32.toNat_inj]
  · have hn := hi n hgiven
    show n.toNat = 0 ↔ _
    refine iff_of_false (by omega) ?_
    simp

theorem serverCommandLine_of_make? {variants : List Variant} {configs : List PassConfig}
    (h : Plan.make? m variants = some configs) :
    ∀ c ∈ configs, c.serverCommandLine =
      [m.server,RawText.ofString ("--smp=" ++ toString m.smp.toNat)] := by
  rw [Plan.make?] at h
  split_ifs at h
  obtain rfl := Option.some.inj h
  intro c hc
  obtain ⟨v,-,rfl⟩ := List.mem_map.mp hc
  rfl

/-- Whatever the command line, the settings and the environment are, the hint that every server is
told is at least 1, unless the command line gives none and the settings file holds 0. -/
theorem planned_hint {words : List RawText} {lang : Option String}
    (hread : Arguments.read words = .run i lang) (h : resolve env directory i s = .ok m) :
    (m.smp.toNat = 0 ↔ i.smp = none ∧ s.smp = some 0) ∧
      ∀ variants configs, Plan.make? m variants = some configs → ∀ c ∈ configs,
        c.serverCommandLine =
          [i.memcached,RawText.ofString ("--smp=" ++ toString m.smp.toNat)] := by
  obtain ⟨path,-,rfl⟩ := resolve_ok_iff.mp h
  refine ⟨smp_eq_zero_iff (Arguments.tellable_of_read hread).smp,?_⟩
  intro variants configs hplan
  exact serverCommandLine_of_make? hplan

theorem planned_hint_file :
    let i : Invocation := { memcached := RawText.ofString "./srv" }
    let m : MatrixSettings :=
      ⟨RawText.ofString "./srv",RawText.ofString "/opt/test_memcached.py",3,false⟩
    Arguments.read (["memcached-matrix","--memcached=./srv"].map RawText.ofString) =
        .run i none ∧
      resolve .empty (RawText.ofString "/opt") i { smp := some 3 } = .ok m ∧ m.smp.toNat ≠ 0 := by
  intro i m
  have hline : Arguments.Line (Arguments.items i none) [RawText.ofString "--memcached=./srv"] :=
    .item (.joined (f := .memcached) i.memcached rfl) .done
  have htellable : Arguments.Tellable i := ⟨by decide,by simp [i],by simp [i],by simp [i]⟩
  have hread : Arguments.read (["memcached-matrix","--memcached=./srv"].map RawText.ofString) =
      .run i none := Arguments.read_items htellable (.refl _) hline
  have h : resolve .empty (RawText.ofString "/opt") i { smp := some 3 } = .ok m := rfl
  refine ⟨hread,h,?_⟩
  rw [Ne,(planned_hint hread h).1]
  simp

/-- A settings file that holds 0 is read, and servers are told 0. -/
theorem planned_hint_zero :
    ∃ i s m, Arguments.read (["memcached-matrix","--memcached=./srv","--config=settings.toml"].map
        RawText.ofString) = .run i none ∧
      Settings.read "smp = 0\n" = .ok s ∧
      resolve .empty (RawText.ofString "/opt") i s = .ok m ∧ ¬1 ≤ m.smp.toNat ∧
      (Plan.make? m Variant.builtIn).map (·.map PassConfig.serverCommandLine) =
        some [["./srv","--smp=0"].map RawText.ofString,
          ["./srv","--smp=0"].map RawText.ofString] := by
  let i : Invocation :=
    { memcached := RawText.ofString "./srv", config := some (RawText.ofString "settings.toml") }
  have hline : Arguments.Line (Arguments.items i none)
      (["--memcached=./srv","--config=settings.toml"].map RawText.ofString) :=
    .item (.joined (f := .memcached) i.memcached rfl)
      (.item (.joined (f := .config) (RawText.ofString "settings.toml") rfl) .done)
  have htellable : Arguments.Tellable i := ⟨by decide,by simp [i],by simp [i],by simp [i]; decide⟩
  have hread : Arguments.read (["memcached-matrix","--memcached=./srv",
      "--config=settings.toml"].map RawText.ofString) = .run i none :=
    Arguments.read_items htellable (.refl _) hline
  have hsettings : Settings.read "smp = 0\n" = .ok { smp := some 0 } :=
    Settings.read_line (Settings.smpLine 0) (Settings.takes_smpLine 0)
  exact ⟨i,_,⟨RawText.ofString "./srv",RawText.ofString "/opt/test_memcached.py",0,false⟩,hread,
    hsettings,rfl,by decide,rfl⟩

end MatrixHarness.Resolution
