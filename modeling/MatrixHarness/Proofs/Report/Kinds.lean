import Mathlib.Data.List.Basic
import MatrixHarness.Report
import MatrixHarness.Proofs.Report.Plain

/-! # Kinds of texts on the console

One who reads the console can tell from the beginning of a text what it says, in each language and
with each styling.  The beginnings are given here word by word; no one is the beginning of another,
and each text that is printed has the one of its kind. -/
namespace MatrixHarness

namespace Console

inductive Kind where
  /-- The banner of the matrix. -/
  | opening
  /-- The banner of a variant. -/
  | variant
  | started
  | running
  | killing
  | killed
  | summary
  | failure
  deriving DecidableEq

namespace Kind

def all : List Kind := [opening,variant,started,running,killing,killed,summary,failure]

theorem mem_all (k : Kind) : k ∈ all := by cases k <;> decide

def style : Kind → Style
  | opening => .cyan
  | variant => .bold
  | started => .blue
  | running => .blue
  | killing => .blue
  | killed => .blue
  | summary => .bold
  | failure => .boldRed

def spaced : Kind → Bool
  | variant => true
  | summary => true
  | failure => true
  | _ => false

def beginning : Language → Kind → String
  | .english, opening => "Running "
  | .english, variant => "=== Variant '"
  | .english, started => "Memcached started."
  | .english, running => "Running: "
  | .english, killing => "Killing memcached..."
  | .english, killed => "Memcached killed."
  | .english, summary => "--- Matrix Summary ---"
  | .english, failure => "MATRIX FAILED"
  | .chinese, opening => "正在针对 "
  | .chinese, variant => "=== 变体 '"
  | .chinese, started => "Memcached 已启动。"
  | .chinese, running => "正在运行: "
  | .chinese, killing => "正在终止 memcached..."
  | .chinese, killed => "Memcached 已终止。"
  | .chinese, summary => "--- 矩阵摘要 ---"
  | .chinese, failure => "矩阵运行失败"

def head (language : Language) (styled : Bool) (k : Kind) : List Char :=
  (if k.spaced then ['\n'] else []) ++ ((if styled then k.style.start else []) ++
    (k.beginning language).toList)

/-- No kind of text begins as another one does. -/
theorem eq_of_head_prefix {language : Language} {styled : Bool} {k l : Kind}
    (h : k.head language styled <+: l.head language styled) : k = l := by
  have hall : all.all (fun k => all.all fun l =>
      (k == l) || !(k.head language styled).isPrefixOf (l.head language styled)) = true := by
    cases language <;> cases styled <;> decide
  have hkl := List.all_eq_true.mp (List.all_eq_true.mp hall k k.mem_all) l l.mem_all
  simpa [List.isPrefixOf_iff_prefix.mpr h] using hkl

theorem plain_beginning (language : Language) (k : Kind) :
    Text.Plain (k.beginning language) := by
  cases language <;> cases k <;> exact Text.plain_ofList (by decide)

end Kind

def kind? (c : Console) (text : String) : Option Kind :=
  Kind.all.find? fun k => (k.head (Language.ofLocale c.locale) c.styled).isPrefixOf text.toList

theorem kind?_eq {c : Console} {text : String} {k : Kind}
    (h : k.head (Language.ofLocale c.locale) c.styled <+: text.toList) : c.kind? text = some k := by
  have hsome : (c.kind? text).isSome := by
    rw [kind?,List.find?_isSome]
    exact ⟨k,k.mem_all,List.isPrefixOf_iff_prefix.mpr h⟩
  obtain ⟨l,hl⟩ := Option.isSome_iff_exists.mp hsome
  have hfound := List.find?_some (p := fun k : Kind =>
    (k.head (Language.ofLocale c.locale) c.styled).isPrefixOf text.toList) hl
  have hprefix := List.isPrefixOf_iff_prefix.mp hfound
  have heq : k = l := by
    rcases List.prefix_or_prefix_of_prefix h hprefix with hle | hle
    · exact Kind.eq_of_head_prefix hle
    · exact (Kind.eq_of_head_prefix hle).symm
  rw [hl,heq]

end Console

namespace Style

/-- Text without control sequences stays as it is. -/
theorem keepAfterReset_append (st : Style) {words : List Char} (h : '\x1b' ∉ words)
    (rest : List Char) : st.keepAfterReset (words ++ rest) = words ++ st.keepAfterReset rest := by
  induction words with
  | nil => rfl
  | cons c words ih =>
    have hc : c ≠ '\x1b' := fun he => h (by simp [he])
    have hwords : '\x1b' ∉ words := fun hm => h (by simp [hm])
    rw [List.cons_append,keepAfterReset,ih hwords]
    · rfl
    · simp [hc]

theorem prefix_paint (styled : Bool) (st : Style) (width : Nat) {words : List Char} {s : String}
    (hw : '\x1b' ∉ words) (h : words <+: s.toList) :
    (if styled then st.start else []) ++ words <+: (st.paint styled width s).toList := by
  obtain ⟨rest,hrest⟩ := h
  cases styled with
  | false => simp [paint,← hrest]
  | true => simp [paint,← hrest,keepAfterReset_append st hw]

end Style

namespace Message

def kind? : Message → Option Console.Kind
  | matrixBanner _ _ => some .opening
  | variantBanner _ => some .variant
  | serverStarted => some .started
  | running _ => some .running
  | killingServer => some .killing
  | serverKilled => some .killed
  | summaryBanner => some .summary
  | failureBanner => some .failure
  | _ => none

theorem prefix_append {words s : String} (h : words.toList <+: s.toList) (rest : String) :
    words.toList <+: (s ++ rest).toList := by
  rw [String.toList_append]
  exact h.trans (List.prefix_append _ _)

theorem prefix_text {m : Message} {k : Console.Kind} (h : m.kind? = some k) (locale : String) :
    (k.beginning (Language.ofLocale locale)).toList <+: (m.text locale).toList := by
  rw [text]
  generalize Language.ofLocale locale = language
  cases m <;> obtain ⟨⟩ := h
  case matrixBanner count server =>
    cases language
    · exact prefix_append (prefix_append (prefix_append List.prefix_rfl _) _) _
    · exact prefix_append (prefix_append (prefix_append (prefix_append List.prefix_rfl _) _) _) _
  case variantBanner name =>
    cases language <;> exact prefix_append (prefix_append List.prefix_rfl _) _
  case running command => cases language <;> exact prefix_append List.prefix_rfl _
  all_goals cases language <;> exact List.prefix_rfl

end Message

def PassState.kind? : PassState → Option Console.Kind
  | serverStarting => some .variant
  | serverRunning => some .started
  | testRunning => some .running
  | serverStopping => some .killing
  | serverStopped => some .killed
  | _ => none

namespace Console

theorem prefix_say (c : Console) {m : Message} {k : Kind} (h : m.kind? = some k) :
    (if c.styled then k.style.start else []) ++
      (k.beginning (Language.ofLocale c.locale)).toList <+: (c.say k.style m).toList :=
  Style.prefix_paint c.styled k.style 0 (Kind.plain_beginning _ k)
    (Message.prefix_text h c.locale)

theorem kind?_line (c : Console) {m : Message} {k : Kind} (h : m.kind? = some k)
    (hk : k.spaced = false) : c.kind? (line (c.say k.style m)) = some k := by
  refine kind?_eq ?_
  rw [Kind.head,hk,line,String.toList_append]
  exact (c.prefix_say h).trans (List.prefix_append _ _)

theorem kind?_banner (c : Console) {m : Message} {k : Kind} (h : m.kind? = some k)
    (hk : k.spaced = true) (rest : String) :
    c.kind? (c.banner k.style m ++ rest) = some k := by
  refine kind?_eq ?_
  rw [Kind.head,hk,banner,line,String.append_assoc,String.append_assoc,String.toList_append,
    String.toList_append]
  exact (List.prefix_append_right_inj ['\n']).mpr
    ((c.prefix_say h).trans (List.prefix_append _ _))

theorem kind?_empty (c : Console) : c.kind? "" = none := by
  rw [kind?]
  generalize Language.ofLocale c.locale = language
  generalize c.styled = styled
  cases language <;> cases styled <;> decide

theorem kind?_stateText (c : Console) (config : PassConfig) (state : PassState) :
    c.kind? (c.stateText config state) = state.kind? := by
  cases state with
  | serverStarting =>
    have h := c.kind?_banner (m := .variantBanner config.variant.name) (k := .variant) rfl rfl ""
    rwa [String.append_empty] at h
  | serverRunning => exact c.kind?_line (m := .serverStarted) (k := .started) rfl rfl
  | testRunning =>
    exact c.kind?_line (m := .running config.testRunnerCommandLine.shown) (k := .running) rfl rfl
  | serverStopping => exact c.kind?_line (m := .killingServer) (k := .killing) rfl rfl
  | serverStopped => exact c.kind?_line (m := .serverKilled) (k := .killed) rfl rfl
  | _ => exact c.kind?_empty

theorem stateText_eq_empty (c : Console) (config : PassConfig) {state : PassState}
    (h : state.kind? = none) : c.stateText config state = "" := by
  cases state <;> first | rfl | cases h

theorem stateText_ne_empty (c : Console) (config : PassConfig) {state : PassState} {k : Kind}
    (h : state.kind? = some k) : c.stateText config state ≠ "" := by
  intro he
  have hk := c.kind?_stateText config state
  simp [he,c.kind?_empty,h] at hk

theorem kind?_opening (c : Console) (count : Nat) (server : RawText) :
    c.kind? (c.opening count server) = some .opening :=
  c.kind?_line (m := .matrixBanner count server.lossy) (k := .opening) rfl rfl

theorem kind?_summary (c : Console) (results : List PassResult) :
    c.kind? (c.summary results) = some .summary := by
  rw [summary,String.append_assoc]
  exact c.kind?_banner (m := .summaryBanner) (k := .summary) rfl rfl _

theorem kind?_failure (c : Console) (t : Trail) : c.kind? (c.failure t) = some .failure := by
  rw [failure,String.append_assoc]
  exact c.kind?_banner (m := .failureBanner) (k := .failure) rfl rfl _

end Console
end MatrixHarness
