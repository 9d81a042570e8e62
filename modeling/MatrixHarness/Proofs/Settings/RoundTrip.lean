import MatrixHarness.Proofs.Settings.Options
import MatrixHarness.Proofs.Text.Raw
import MatrixHarness.Settings.Written

/-! # Settings written and read back

Settings are written as a document of single lines, one for each option that is set and one for the
flag.  Read again, each line sets its option to the same value, and an option without a line stays
unset. -/
namespace MatrixHarness.Settings

open Toml (Assignment IsBareKey)

/-! ## The lines of a document -/

theorem isBareKey_option {name : String} (h : name ∈ ["language","test_runner","smp","fast"]) :
    IsBareKey name := by
  simp only [List.mem_cons,List.not_mem_nil,or_false] at h
  rcases h with rfl | rfl | rfl | rfl <;> simp [IsBareKey,Toml.isBareKeyChar]

def languageLine (language : String) : Assignment :=
  .ofString "language" (isBareKey_option (by simp)) language

def testRunnerLine (path : String) : Assignment :=
  .ofString "test_runner" (isBareKey_option (by simp)) path

def smpLine (smp : UInt32) : Assignment :=
  .ofNat "smp" (isBareKey_option (by simp)) smp.toNat
    (Nat.le_trans (Nat.le_of_lt smp.toNat_lt) (by decide))

def fastLine (fast : Bool) : Assignment := .ofBoolean "fast" (isBareKey_option (by simp)) fast

/-- The lines of the options that are set; the path of the test-runner is text. -/
def lines (s : Settings) (testRunner : Option String) : List Assignment :=
  s.language.toList.map languageLine ++ testRunner.toList.map testRunnerLine ++
    s.smp.toList.map smpLine ++ [fastLine s.fast]

theorem optionLine_eq {α : Type} (line : α → Assignment) (name : String) (value : α → List Char)
    (h : ∀ a, (line a).text = Settings.line name (value a)) (o : Option α) :
    optionLine name (o.map value) = (o.toList.map line).flatMap Assignment.text := by
  cases o with
  | none => rfl
  | some a => simp [optionLine,h]

theorem write?_eq (s : Settings) {testRunner : Option String}
    (h : s.testRunner = testRunner.map RawText.ofString) :
    s.write? = some (String.ofList ((s.lines testRunner).flatMap Assignment.text)) := by
  have hdocument : optionLine "language" (s.language.map fun t => Toml.writeString t.toList) ++
      optionLine "test_runner" (testRunner.map fun t => Toml.writeString t.toList) ++
      optionLine "smp" (s.smp.map fun n => Toml.writeNat n.toNat) ++
      line "fast" (Toml.writeBoolean s.fast) = (s.lines testRunner).flatMap Assignment.text := by
    have hlanguage := optionLine_eq languageLine "language" (fun t => Toml.writeString t.toList)
      (fun _ => rfl) s.language
    have htestRunner := optionLine_eq testRunnerLine "test_runner"
      (fun t => Toml.writeString t.toList) (fun _ => rfl) testRunner
    have hsmp := optionLine_eq smpLine "smp" (fun n => Toml.writeNat n.toNat) (fun _ => rfl) s.smp
    rw [hlanguage,htestRunner,hsmp,lines]
    simp only [List.flatMap_append,List.flatMap_singleton]
    rfl
  cases testRunner with
  | none =>
    rw [write?,h]
    exact congrArg (fun cs => some (String.ofList cs)) hdocument
  | some path =>
    rw [write?,h]
    simp only [Option.map_some,RawText.text?_ofString]
    exact congrArg (fun cs => some (String.ofList cs)) hdocument

theorem nodup_lines (s : Settings) (testRunner : Option String) :
    ((s.lines testRunner).map Assignment.name).Nodup := by
  rcases s with ⟨language,_,smp,fast⟩
  have hl (t : String) : (languageLine t).name = "language" := rfl
  have ht (t : String) : (testRunnerLine t).name = "test_runner" := rfl
  have hs (n : UInt32) : (smpLine n).name = "smp" := rfl
  have hf (b : Bool) : (fastLine b).name = "fast" := rfl
  rcases language with _ | language <;> rcases testRunner with _ | testRunner <;>
    rcases smp with _ | smp <;> simp [lines,hl,ht,hs,hf]

/-! ## Reading the lines -/

theorem takes_smpLine (n : UInt32) :
    Takes "smp" (smpLine n).value fun s => { s with smp := some n } := by
  have hn : (0 : Int) ≤ n.toNat ∧ (n.toNat : Int) < 4294967296 := by
    have hlt := n.toNat_lt
    omega
  have hvalue : UInt32.ofNat (n.toNat : Int).toNat = n := by
    rw [Int.toNat_natCast,UInt32.ofNat_toNat]
  have h := Takes.smp hn
  rwa [hvalue] at h

theorem takesAll_lines (s : Settings) {testRunner : Option String}
    (h : s.testRunner = testRunner.map RawText.ofString) :
    TakesAll ((s.lines testRunner).map Assignment.pair) {} s := by
  rcases s with ⟨language,_,smp,fast⟩
  obtain rfl := h
  have hlanguage : TakesAll ((language.toList.map languageLine).map Assignment.pair) {}
      { language := language } := by
    cases language with
    | none => exact .nil _
    | some t => exact .cons (.language t) (.nil _)
  have htestRunner : TakesAll ((testRunner.toList.map testRunnerLine).map Assignment.pair)
      { language := language }
      { language := language, testRunner := testRunner.map RawText.ofString } := by
    cases testRunner with
    | none => exact .nil _
    | some t => exact .cons (.testRunner t) (.nil _)
  have hsmp : TakesAll ((smp.toList.map smpLine).map Assignment.pair)
      { language := language, testRunner := testRunner.map RawText.ofString }
      { language := language, testRunner := testRunner.map RawText.ofString, smp := smp } := by
    cases smp with
    | none => exact .nil _
    | some n => exact .cons (takes_smpLine n) (.nil _)
  have hfast : TakesAll ([fastLine fast].map Assignment.pair)
      { language := language, testRunner := testRunner.map RawText.ofString, smp := smp }
      ⟨language,testRunner.map RawText.ofString,smp,fast⟩ := .cons (.fast fast) (.nil _)
  simp only [lines,List.map_append]
  exact ((hlanguage.append htestRunner).append hsmp).append hfast

theorem read_document {as : List Assignment} {s : Settings} (hn : (as.map Assignment.name).Nodup)
    (h : TakesAll (as.map Assignment.pair) {} s) :
    read (String.ofList (as.flatMap Assignment.text)) = .ok s := by
  obtain ⟨es,hread,hpairs⟩ := Toml.read?_lines as hn
  have hentries : ofEntries es = .ok s := by
    refine ofEntries_ok (List.Perm.of_eq hpairs.symm) ?_ h
    rwa [List.map_map]
  rw [read,hread]
  simp only [hentries]

theorem read_line (a : Assignment) {change : Settings → Settings}
    (h : Takes a.name a.value change) :
    read (String.ofList a.text) = .ok (change {}) := by
  have hread : read (String.ofList ([a].flatMap Assignment.text)) = .ok (change {}) :=
    read_document (by simp) (.cons h (.nil _))
  rwa [List.flatMap_singleton] at hread

/-- Settings are written as a document that is read as the same settings, whatever texts and values
they hold.  A path that is no text has no written form. -/
theorem read_written (s : Settings) :
    ((∀ path ∈ s.testRunner, path.text?.isSome = true) →
      ∃ document, s.write? = some document ∧ read document = .ok s) ∧
    (∀ path ∈ s.testRunner, path.text? = none → s.write? = none) := by
  constructor
  · intro htext
    have hpath : ∃ testRunner : Option String, s.testRunner = testRunner.map RawText.ofString := by
      cases hs : s.testRunner with
      | none => exact ⟨none,rfl⟩
      | some path =>
        obtain ⟨t,ht⟩ := Option.isSome_iff_exists.mp (htext path hs)
        exact ⟨some t,by rw [Option.map_some,RawText.ofString_of_text? ht]⟩
    obtain ⟨testRunner,hs⟩ := hpath
    exact ⟨_,write?_eq s hs,read_document (nodup_lines s testRunner) (takesAll_lines s hs)⟩
  · intro path hs hnone
    rw [write?,hs]
    simp [hnone]

theorem read_written_awkward :
    let s : Settings :=
      { language := some "\x22\x22\x22\x22'''\\\r\n\t\x07\x7f\u00e9",
        testRunner := some (RawText.ofString "C:\\it's"), smp := some 4294967295, fast := true }
    (∀ path ∈ s.testRunner, path.text?.isSome = true) ∧
      ∃ document, s.write? = some document ∧ read document = .ok s := by
  intro s
  have h : ∀ path ∈ s.testRunner, path.text?.isSome = true := by
    rintro _ ⟨⟩
    rw [RawText.text?_ofString]
    rfl
  exact ⟨h,(read_written s).1 h⟩

end MatrixHarness.Settings
