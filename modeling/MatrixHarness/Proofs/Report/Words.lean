import MatrixHarness.Proofs.Report.Colours

/-! # The words on the console

What a console shows of a matrix, word by word in each language: its banner, the lines of the steps
of a pass, and its end.  A row says how a pass ended, which variant it was for, and how long it took
or why it failed. -/
namespace MatrixHarness

open Text

namespace Console

/-- The words of one language.  How a pass ended is said in a column of ten characters. -/
structure Wording where
  opening : Nat → String → String
  variant : String → String
  started : String
  running : String
  killing : String
  killed : String
  passed : String
  failed : String
  summary : String
  allPassed : String
  failure : String
  reason : Reason → String

def wording : Language → Wording
  | .english => {
    opening := fun count server => "Running " ++ toString count ++ " variant(s) against " ++ server
    variant := fun name => "=== Variant '" ++ name ++ "' ==="
    started := "Memcached started."
    running := "Running: "
    killing := "Killing memcached..."
    killed := "Memcached killed."
    passed := "Passed    "
    failed := "Failed    "
    summary := "--- Matrix Summary ---"
    allPassed := "ALL VARIANTS PASSED"
    failure := "MATRIX FAILED"
    reason := fun
      | .spawn => "Spawn Failure"
      | .testFailed => "Test Failure"
      | .interrupted => "Interrupted"
      | .fault => "Orchestration Fault" }
  | .chinese => {
    opening := fun count server => "正在针对 " ++ server ++ " 运行 " ++ toString count ++ " 个变体"
    variant := fun name => "=== 变体 '" ++ name ++ "' ==="
    started := "Memcached 已启动。"
    running := "正在运行: "
    killing := "正在终止 memcached..."
    killed := "Memcached 已终止。"
    passed := "通过        "
    failed := "失败        "
    summary := "--- 矩阵摘要 ---"
    allPassed := "所有变体均已通过"
    failure := "矩阵运行失败"
    reason := fun
      | .spawn => "启动失败"
      | .testFailed => "测试失败"
      | .interrupted => "已中断"
      | .fault => "编排错误" }

variable (c : Console)

def words : Wording := wording (Language.ofLocale c.locale)

def tint (parameters words : String) : String :=
  if c.styled then "\x1b[" ++ parameters ++ "m" ++ words ++ "\x1b[0m" else words

def spaces (n : Nat) : String := String.ofList (List.replicate n ' ')

def openingLine (count : Nat) (server : String) : String :=
  c.tint "36" (c.words.opening count server) ++ "\n"

/-- The line of a step, if there is one. -/
def stateLine (config : PassConfig) : PassState → Option String
  | .serverStarting => some ("\n" ++ c.tint "1" (c.words.variant config.variant.name) ++ "\n")
  | .serverRunning => some (c.tint "34" c.words.started ++ "\n")
  | .testRunning =>
    some (c.tint "34" (c.words.running ++ config.testRunnerCommandLine.shown) ++ "\n")
  | .serverStopping => some (c.tint "34" c.words.killing ++ "\n")
  | .serverStopped => some (c.tint "34" c.words.killed ++ "\n")
  | .notStarted | .testPassed | .testFailed => none

def tableRow (parameters status variant rest : String) : String :=
  "  - " ++ c.tint parameters status ++ " | " ++ variant ++ spaces (16 - variant.length) ++ " | " ++
    rest ++ "\n"

def passedRow (variant : String) (time : Duration) : String :=
  c.tableRow "32" c.words.passed variant (spaces (10 - time.text.length) ++ time.text)

def failedRow (variant : String) (reason : Reason) : String :=
  c.tableRow "31" c.words.failed variant (c.words.reason reason)

def dashes : String :=
  "--------------------------------------------------------------------------------"

/-- The line of a command.  A command that sets a style of its own is said in the style of the line,
which is set again behind each reset. -/
structure RunningLine (command text : String) : Prop where
  said : text = line (c.say .blue (.running command))
  words : c.styled = false ∨ '\x1b' ∉ command.toList →
    text = c.tint "34" (c.words.running ++ command) ++ "\n"

variable {c}

theorem paint_eq_tint (st : Style) (width : Nat) {s : String} (h : c.styled = false ∨ Plain s) :
    st.paint c.styled width s = c.tint st.parameters (s ++ spaces (width - s.length)) := by
  rw [tint]
  rcases hc : c.styled
  · rfl
  · have hplain : Plain s := by simpa [hc] using h
    refine String.toList_inj.mp ?_
    rw [Style.paint_plain st width hplain]
    simp [Style.paint,Style.start,Style.reset,spaces]

theorem say_eq_tint (st : Style) {m : Message}
    (h : c.styled = false ∨ ∀ s ∈ m.inserted, Plain s) :
    c.say st m = c.tint st.parameters (m.text c.locale) := by
  rw [say,paint_eq_tint st 0 (h.imp_right fun hm => Message.plain_text hm c.locale)]
  simp [spaces]

theorem banner_eq (st : Style) {m : Message} (h : c.styled = false ∨ ∀ s ∈ m.inserted, Plain s) :
    c.banner st m = "\n" ++ c.tint st.parameters (m.text c.locale) ++ "\n" := by
  rw [banner,line,say_eq_tint st h,String.append_assoc]

variable (c)

theorem text_eq_words {m : Message} {w : Wording → String} (hen : m.english = w (wording .english))
    (hzh : m.chinese = w (wording .chinese)) : m.text c.locale = w c.words := by
  rw [words,Message.text]
  cases Language.ofLocale c.locale
  · exact hen
  · exact hzh

theorem column_passed : (Message.statusPassed.text c.locale ++
    spaces (10 - (Message.statusPassed.text c.locale).length)) = c.words.passed := by
  rw [words,Message.text]
  cases Language.ofLocale c.locale <;> rfl

theorem column_failed : (Message.statusFailed.text c.locale ++
    spaces (10 - (Message.statusFailed.text c.locale).length)) = c.words.failed := by
  rw [words,Message.text]
  cases Language.ofLocale c.locale <;> rfl

theorem label_eq (reason : Reason) : reason.label c.locale = c.words.reason reason := by
  rw [words,Reason.label,Message.text]
  cases Language.ofLocale c.locale <;> cases reason <;> rfl

theorem resultRow_eq (p : PassResult) : c.resultRow p = c.passedRow p.variant p.duration := by
  have hplain := Message.plain_text (m := .statusPassed) (by simp [Message.inserted]) c.locale
  rw [resultRow,row,paint_eq_tint .green 10 (.inr hplain),column_passed]
  simp only [passedRow,tableRow,line,alignLeft,alignRight,blanks,spaces,String.append_assoc]
  rfl

theorem failureRow_eq (f : PassFailure) : c.failureRow f = c.failedRow f.variant f.reason := by
  have hplain := Message.plain_text (m := .statusFailed) (by simp [Message.inserted]) c.locale
  rw [failureRow,row,paint_eq_tint .red 10 (.inr hplain),column_failed,label_eq]
  simp only [failedRow,tableRow,line,alignLeft,blanks,spaces,String.append_assoc]
  rfl

theorem summary_eq (results : List PassResult) : c.summary results =
    "\n" ++ c.tint "1" c.words.summary ++ "\n" ++
      String.join (results.map fun p => c.passedRow p.variant p.duration) ++
      "\n" ++ c.tint "1;32" c.words.allPassed ++ "\n" := by
  have hsummary := c.text_eq_words (m := .summaryBanner) (w := Wording.summary) rfl rfl
  have hpassed := c.text_eq_words (m := .allPassed) (w := Wording.allPassed) rfl rfl
  have hrows : results.map c.resultRow = results.map fun p => c.passedRow p.variant p.duration :=
    List.map_congr_left fun p _ => c.resultRow_eq p
  rw [summary,banner_eq .bold (.inr (by simp [Message.inserted])),
    banner_eq .boldGreen (.inr (by simp [Message.inserted])),hsummary,hpassed,hrows]
  simp only [Style.parameters,String.append_assoc]

theorem rule_eq : rule = dashes := rfl

theorem failure_eq {t : Trail} {f : PassFailure} (h : t.failure? = some f) : c.failure t =
    "\n" ++ c.tint "1;31" c.words.failure ++ "\n" ++ dashes ++ "\n" ++
      c.failedRow f.variant f.reason := by
  have hfailure := c.text_eq_words (m := .failureBanner) (w := Wording.failure) rfl rfl
  rw [failure,banner_eq .boldRed (.inr (by simp [Message.inserted])),hfailure,rule_eq,h,line]
  simp only [Style.parameters,c.failureRow_eq,String.append_assoc]

theorem opening_eq (count : Nat) {server : RawText} (h : c.styled = false ∨ Plain server.lossy) :
    c.opening count server = c.openingLine count server.lossy := by
  have htext := c.text_eq_words (m := .matrixBanner count server.lossy)
    (w := fun w => w.opening count server.lossy) rfl rfl
  rw [opening,line,say_eq_tint .cyan (by simpa [Message.inserted] using h),htext]
  rfl

theorem runningLine (command : String) :
    c.RunningLine command (line (c.say .blue (.running command))) where
  said := rfl
  words h := by
    have htext := c.text_eq_words (m := .running command) (w := fun w => w.running ++ command)
      rfl rfl
    rw [line,say_eq_tint .blue (by simpa [Message.inserted,Plain] using h),htext]
    rfl

/-- A step whose message is said in a line of its own. -/
theorem line_said {m : Message} {w : Wording → String} (hen : m.english = w (wording .english))
    (hzh : m.chinese = w (wording .chinese)) (h : m.inserted = []) :
    line (c.say .blue m) = c.tint "34" (w c.words) ++ "\n" := by
  rw [line,say_eq_tint .blue (.inr (by simp [h])),c.text_eq_words hen hzh]
  rfl

/-- The line of a step is printed in its words, unless what is put into them sets a style. -/
theorem stateLine_eq {config : PassConfig} (h : c.styled = false ∨
      (Plain config.variant.name ∧ Plain config.testRunnerCommandLine.shown)) (state : PassState) :
    c.stateLine config state = state.kind?.map fun _ => c.stateText config state := by
  cases state with
  | serverStarting =>
    have htext := c.text_eq_words (m := .variantBanner config.variant.name)
      (w := fun w => w.variant config.variant.name) rfl rfl
    have hbanner := banner_eq .bold (m := .variantBanner config.variant.name)
      (h.imp_right fun hc => by simpa [Message.inserted] using hc.1)
    rw [htext] at hbanner
    exact congrArg some hbanner.symm
  | testRunning =>
    have hwords := (c.runningLine config.testRunnerCommandLine.shown).words (h.imp_right And.right)
    exact congrArg some hwords.symm
  | serverRunning =>
    exact congrArg some (c.line_said (w := Wording.started) rfl rfl rfl).symm
  | serverStopping =>
    exact congrArg some (c.line_said (w := Wording.killing) rfl rfl rfl).symm
  | serverStopped =>
    exact congrArg some (c.line_said (w := Wording.killed) rfl rfl rfl).symm
  | _ => rfl

end Console
end MatrixHarness
