import MatrixHarness.Proofs.Arguments.Exactness
import MatrixHarness.Proofs.Program.ExitCode
import MatrixHarness.Proofs.Settings.RoundTrip

/-! # One locale

The locale that is active when the program executes a command line, and the locale that it passes
on.  A glance at the command line chooses the first, and the settings file may choose again; each
choice makes a locale the active one and hands it out.  However it is chosen, both are the same in
the end, and a source that names a language hides those behind it. -/
namespace MatrixHarness.Program

variable {σ : Type}

/-- The first source that names a language, or English. -/
def language (P : Program σ) (lang : Option String) (s : Settings) : String :=
  (lang <|> s.language <|> Locale.ofEnvironment? P.environment).getD "en"

variable {P : Program σ} {words : List RawText} {i : Invocation} {lang : Option String}
  {s : Settings}

theorem settledLocale_eq :
    P.settledLocale lang s (Locale.choose lang P.environment) =
      Locale.resolve (P.language lang s) := by
  rcases lang with _ | l
  · rcases hs : s.language with _ | l <;>
      simp [settledLocale,hs,language,Locale.choose,Locale.fallback]
  · rfl

/-- The locale that is spoken is that of the first source that names one. -/
theorem spoken_eq (hglance : Arguments.glanceLanguage (words.map RawText.lossy) = lang) :
    P.spoken words lang s = Locale.resolve (P.language lang s) := by
  rw [spoken,hglance,settledLocale_eq]

/-- A language of the command line hides all other sources, and one of the settings file hides the
system. -/
theorem language_congr {τ : Type} (Q : Program τ) {t : Settings}
    (h : lang.isSome = true ∨ s.language.isSome = true ∧ t.language = s.language) :
    Q.language lang t = P.language lang s := by
  rcases lang with _ | l
  · rcases h with h | ⟨h,ht⟩
    · cases h
    · obtain ⟨l,hl⟩ := Option.isSome_iff_exists.mp h
      rw [language,language,ht,hl]
      rfl
  · rfl

/-- When a command line is accepted and its settings are loaded, the program executes it in one
locale: the one that is active and the one that is passed on are both that of the first source that
names a language.  No other program that reads the same command line, whatever its environment and
its settings file, speaks another, if the command line names the language, or if it does not and the
settings files agree on one. -/
theorem prepare_oneLocale (P : Program σ) (words : List RawText) (before : String)
    (hname : ∀ first ∈ words.head?, first ≠ RawText.ofString "--lang" ∧
      ¬(RawText.ofString "--lang=").bytes <+: first.bytes)
    (h : Arguments.read words = .run i lang) (hs : P.settings i = .ok s) :
    let locale := Locale.resolve (P.language lang s)
    (P.prepare words).run before = (.ready ⟨i,s,locale⟩,locale) ∧
    (∀ r, P.run words r =
      P.conclude locale (P.execute locale ⟨locale,P.environment.styled⟩ i s r)) ∧
    ∀ (τ : Type) (Q : Program τ) (t : Settings) (earlier : String), Q.settings i = .ok t →
      lang.isSome = true ∨ s.language.isSome = true ∧ t.language = s.language →
      (Q.prepare words).run earlier = (.ready ⟨i,t,locale⟩,locale) := by
  intro locale
  have hglance : Arguments.glanceLanguage (words.map RawText.lossy) = lang := by
    obtain ⟨is,last,hl,ht,-,rfl⟩ := Arguments.read_run h
    rcases words with _ | ⟨first,words⟩
    · simp [Arguments.read,Arguments.readFrom,Arguments.finish,Arguments.settle] at h
    · obtain ⟨hn,hp⟩ := hname first rfl
      exact Arguments.glanceLanguage_line (Arguments.silent_of_bytes hn hp) hl ht
  have hspoken : P.spoken words lang s = locale := spoken_eq hglance
  refine ⟨hspoken ▸ prepare_ready h hs before,hspoken ▸ run_ready h hs,?_⟩
  intro τ Q t earlier ht hsame
  rw [prepare_ready h ht earlier,spoken_eq hglance,language_congr Q hsame]

def abroad : Program Unit where
  host := {
    spawn := fun _ _ w => (.error .notText,w)
    poll := fun _ w => (.error .notText,w)
    signal := fun _ _ w => (.error .notText,w)
    pause := id
    hear := fun _ w => w
    print := fun _ _ w => w
    listen := fun _ w => w
    interrupted := fun _ => false
    now := fun _ => default }
  environment := ⟨[("LANG",RawText.ofString "en_US.UTF-8")]⟩
  directory := RawText.ofString "/opt"
  contentsOf := fun _ => .ok (RawText.ofString "language = \x22zh-CN\x22\n")
  patience := 1

theorem prepare_oneLocale_abroad :
    let words := ["memcached-matrix","--memcached=./srv","-c","settings.toml"].map RawText.ofString
    let i : Invocation :=
      { memcached := RawText.ofString "./srv", config := some (RawText.ofString "settings.toml") }
    Arguments.read words = .run i none ∧ abroad.settings i = .ok { language := some "zh-CN" } ∧
      (abroad.prepare words).run "en" =
        (.ready ⟨i,{ language := some "zh-CN" },"zh-CN"⟩,"zh-CN") := by
  intro words i
  have hname : ∀ first ∈ words.head?, first ≠ RawText.ofString "--lang" ∧
      ¬(RawText.ofString "--lang=").bytes <+: first.bytes := by
    rintro _ ⟨⟩
    decide
  have hline : Arguments.Line (Arguments.items i none) words.tail :=
    .item (.joined (f := .memcached) i.memcached rfl)
      (.item (.letteredApart (v := RawText.ofString "settings.toml") rfl) .done)
  have htellable : Arguments.Tellable i := ⟨by decide,by simp [i],by simp [i],by simp [i]; decide⟩
  have h : Arguments.read words = .run i none :=
    Arguments.read_items htellable (.refl _) hline
  have hread : Settings.read "language = \x22zh-CN\x22\n" = .ok { language := some "zh-CN" } :=
    Settings.read_line (Settings.languageLine "zh-CN") (.language "zh-CN")
  have hs : abroad.settings i = .ok { language := some "zh-CN" } := by
    show Settings.ofContents _ (RawText.ofString "language = \x22zh-CN\x22\n") = _
    rw [Settings.ofContents,RawText.text?_ofString]
    simp only [hread]
  exact ⟨h,hs,(prepare_oneLocale abroad words "en" hname h hs).1⟩

end MatrixHarness.Program
