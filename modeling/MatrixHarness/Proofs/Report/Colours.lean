import MatrixHarness.Proofs.Report.Kinds
import MatrixHarness.Proofs.Report.Plain

/-! # Colours

Styles never change what a console says.  A styled text shows a plain one if just that is left of it
without the sequences that set and reset styles, whatever stands behind it.  Texts that show others
can be put one behind another, and so all that two consoles say is compared, of which one has styles
and the other has none. -/
namespace MatrixHarness

open Text

namespace Style

/-! ## What is left of a text -/

theorem strip_nil : strip [] = [] := by rw [strip]

theorem strip_cons {c : Char} (hc : c ≠ '\x1b') (rest : List Char) :
    strip (c :: rest) = c :: strip rest := by
  rw [strip]
  simp [hc]

theorem strip_append {words : List Char} (h : '\x1b' ∉ words) (rest : List Char) :
    strip (words ++ rest) = words ++ strip rest := by
  induction words with
  | nil => rfl
  | cons c words ih =>
    have hc : c ≠ '\x1b' := fun he => h (by simp [he])
    have hwords : '\x1b' ∉ words := fun hm => h (by simp [hm])
    rw [List.cons_append,strip_cons hc,ih hwords,List.cons_append]

def isParameter (c : Char) : Bool := c.isDigit || c = ';'

theorem sequenceRest?_append {ps : List Char} (h : ps.all isParameter = true)
    (rest : List Char) : sequenceRest? (ps ++ 'm' :: rest) = some rest := by
  induction ps with
  | nil => rfl
  | cons c ps ih =>
    obtain ⟨hc,hps⟩ : isParameter c = true ∧ ps.all isParameter = true := by
      rwa [List.all_cons,Bool.and_eq_true] at h
    have hm : c ≠ 'm' := by
      rintro rfl
      exact absurd hc (by decide)
    have hread : (c.isDigit || c = ';') = true := hc
    rw [List.cons_append,sequenceRest?,if_neg hm,if_pos hread,ih hps]

theorem strip_sequence {ps : List Char} (h : ps.all isParameter = true) (rest : List Char) :
    strip ('\x1b' :: '[' :: (ps ++ 'm' :: rest)) = strip rest := by
  have hrest := sequenceRest?_append h rest
  rw [strip]
  -- the sequence comes to its end, so only one case is left
  split
  · rename_i u hu
    rw [hrest] at hu
    rw [Option.some.inj hu]
  · rename_i hu
    rw [hrest] at hu
    cases hu

theorem strip_start (st : Style) (rest : List Char) : strip (st.start ++ rest) = strip rest := by
  have hps : st.parameters.toList.all isParameter = true := by
    cases st <;> decide
  have hsequence := strip_sequence hps rest
  rw [start,List.append_assoc]
  exact hsequence

theorem strip_reset (rest : List Char) : strip (reset ++ rest) = strip rest := by
  have hzero : ['0'].all isParameter = true := rfl
  exact strip_sequence hzero rest

/-! ## Texts that show others -/

/-- Of the styled text just the plain one is left, whatever stands behind it. -/
structure Shows (styled plain : String) : Prop where
  isPlain : Plain plain
  left : ∀ rest, strip (styled.toList ++ rest) = plain.toList ++ strip rest

namespace Shows

variable {s p t q : String}

theorem of_plain (h : Plain s) : Shows s s := ⟨h,strip_append h⟩

theorem words {cs : List Char} (h : '\x1b' ∉ cs) :
    Shows (String.ofList cs) (String.ofList cs) := of_plain (plain_ofList h)

theorem append (hs : Shows s p) (ht : Shows t q) : Shows (s ++ t) (p ++ q) where
  isPlain := hs.isPlain.append ht.isPlain
  left rest := by
    rw [String.toList_append,List.append_assoc,hs.left,ht.left,String.toList_append,
      List.append_assoc]

theorem join {α : Type} {xs : List α} {f g : α → String} (h : ∀ x ∈ xs, Shows (f x) (g x)) :
    Shows (String.join (xs.map f)) (String.join (xs.map g)) := by
  induction xs with
  | nil => exact words (by decide)
  | cons x xs ih =>
    have hx : Shows (f x) (g x) := h x (by simp)
    have hxs := ih fun y hy => h y (by simp [hy])
    simpa using hx.append hxs

theorem strip_eq (h : Shows s p) : strip s.toList = p.toList := by
  have hs := h.left []
  rwa [List.append_nil,strip_nil,List.append_nil] at hs

end Shows

/-- A plain text in a style stands between its sequences as it does without, with the blanks of its
column. -/
theorem paint_plain (st : Style) (width : Nat) {s : String} (h : Plain s) :
    (st.paint true width s).toList = st.start ++ (st.paint false width s).toList ++ reset := by
  have hkeep : st.keepAfterReset s.toList = s.toList := by
    have happend := keepAfterReset_append st h []
    rwa [keepAfterReset,List.append_nil] at happend
  simp [paint,hkeep,String.length_toList]

theorem shows_paint (st : Style) (width : Nat) {s : String} (h : Plain s) :
    Shows (st.paint true width s) (st.paint false width s) where
  isPlain := h.alignLeft width
  left rest := by
    have hwords : Plain (st.paint false width s) := h.alignLeft width
    rw [paint_plain st width h,List.append_assoc,List.append_assoc,strip_start,
      strip_append hwords,strip_reset]

end Style

open Style

namespace Console

/-! ## All that is said -/

inductive Report where
  | opening (count : Nat) (server : RawText)
  | notice (n : Notice)
  | interrupt
  | summary (results : List PassResult)
  | failure (t : Trail)

def Report.inserted : Report → List RawText
  | opening _ server => [server]
  | notice (.entered config .serverStarting) => [.ofString config.variant.name]
  | notice (.entered config .testRunning) => config.testRunnerCommandLine
  | notice (.entered _ _) => []
  | notice (.cleanupFailed _ e) => [.ofString e.text]
  | interrupt => []
  | summary results => results.map fun p => .ofString p.variant
  | failure t => t.failure?.toList.map fun f => .ofString f.variant

def prints (c : Console) : Report → List (Stream × String)
  | .opening count server => [(.out,c.opening count server)]
  | .notice n => c.notice n
  | .interrupt => [(.out,c.interrupt)]
  | .summary results => [(.out,c.summary results)]
  | .failure t => [(.out,c.failure t)]

/-- What stands on a stream once all this is printed. -/
def onStream (stream : Stream) (ps : List (Stream × String)) : String :=
  String.join ((ps.filter fun p => p.1 = stream).map Prod.snd)

def transcript (c : Console) (stream : Stream) (reports : List Report) : String :=
  onStream stream (reports.flatMap c.prints)

section streams

variable (stream : Stream)

theorem onStream_append (ps qs : List (Stream × String)) :
    onStream stream (ps ++ qs) = onStream stream ps ++ onStream stream qs := by
  rw [onStream,List.filter_append,List.map_append,String.join_append]
  rfl

theorem onStream_single (place : Stream) (s : String) :
    onStream stream [(place,s)] = if place = stream then s else "" := by
  by_cases h : place = stream <;> simp [onStream,h]

theorem onStream_entered (c : Console) (config : PassConfig) (state : PassState) :
    onStream stream (c.notice (.entered config state)) =
      onStream stream [(.out,c.stateText config state)] := by
  by_cases h : c.stateText config state = ""
  · rw [onStream_single]
    simp [notice,onStream,h]
  · simp [notice,h]

@[simp] theorem transcript_nil (c : Console) : c.transcript stream [] = "" := rfl

theorem transcript_cons (c : Console) (report : Report) (reports : List Report) :
    c.transcript stream (report :: reports) =
      onStream stream (c.prints report) ++ c.transcript stream reports :=
  onStream_append stream _ _

theorem shows_onStream {s p : String} (h : Shows s p) (place : Stream) :
    Shows (onStream stream [(place,s)]) (onStream stream [(place,p)]) := by
  rw [onStream_single,onStream_single]
  split
  · exact h
  · exact .words (by decide)

end streams

section shows

variable (locale : String)

theorem shows_say (st : Style) {m : Message} (h : ∀ s ∈ m.inserted, Plain s) :
    Shows (say ⟨locale,true⟩ st m) (say ⟨locale,false⟩ st m) :=
  shows_paint st 0 (m.plain_text h locale)

theorem shows_line {s p : String} (h : Shows s p) : Shows (line s) (line p) :=
  h.append (.words (by decide))

theorem shows_banner (st : Style) {m : Message} (h : ∀ s ∈ m.inserted, Plain s) :
    Shows (banner ⟨locale,true⟩ st m) (banner ⟨locale,false⟩ st m) :=
  (Shows.words (by decide)).append (shows_line (shows_say locale st h))

/-- A row shows the row without styles, each column in its place. -/
theorem shows_row (st : Style) {status : Message} {variant rest : String}
    (hs : ∀ s ∈ status.inserted, Plain s) (hv : Plain variant) (hr : Plain rest) :
    Shows (row ⟨locale,true⟩ st status variant rest)
      (row ⟨locale,false⟩ st status variant rest) := by
  have hbar : Shows " | " " | " := .words (by decide)
  have hbegin : Shows "  - " "  - " := .words (by decide)
  have hstatus := hbegin.append (shows_paint st 10 (status.plain_text hs locale))
  have hvariant := (hstatus.append hbar).append (.of_plain (hv.alignLeft 16))
  exact shows_line ((hvariant.append hbar).append (.of_plain hr))

theorem shows_stateText (config : PassConfig) (state : PassState)
    (h : ∀ t ∈ (Report.notice (.entered config state)).inserted, 0x1b ∉ t.bytes) :
    Shows (stateText ⟨locale,true⟩ config state) (stateText ⟨locale,false⟩ config state) := by
  cases state with
  | serverStarting =>
    have hname : Plain config.variant.name := plain_of_bytes (h _ (by simp [Report.inserted]))
    exact shows_banner locale .bold (m := .variantBanner config.variant.name)
      (List.forall_mem_singleton.mpr hname)
  | testRunning =>
    have hshown : Plain config.testRunnerCommandLine.shown := CommandLine.plain_shown h
    exact shows_line (shows_say locale .blue
      (m := .running config.testRunnerCommandLine.shown) (List.forall_mem_singleton.mpr hshown))
  | serverRunning =>
    exact shows_line (shows_say locale .blue (m := .serverStarted) (List.forall_mem_nil _))
  | serverStopping =>
    exact shows_line (shows_say locale .blue (m := .killingServer) (List.forall_mem_nil _))
  | serverStopped =>
    exact shows_line (shows_say locale .blue (m := .serverKilled) (List.forall_mem_nil _))
  | _ => exact .words (by decide)

theorem shows_summary {results : List PassResult} (h : ∀ p ∈ results, Plain p.variant) :
    Shows (summary ⟨locale,true⟩ results) (summary ⟨locale,false⟩ results) := by
  have hrow : ∀ p ∈ results, Shows (resultRow ⟨locale,true⟩ p) (resultRow ⟨locale,false⟩ p) := by
    intro p hp
    exact shows_row locale .green (List.forall_mem_nil _) (h p hp)
      (p.duration.plain_text.alignRight 10)
  have hbanner := shows_banner locale .bold (m := .summaryBanner) (List.forall_mem_nil _)
  have hend := shows_banner locale .boldGreen (m := .allPassed) (List.forall_mem_nil _)
  exact (hbanner.append (.join hrow)).append hend

theorem shows_failure {t : Trail} (h : ∀ f ∈ t.failure?, Plain f.variant) :
    Shows (failure ⟨locale,true⟩ t) (failure ⟨locale,false⟩ t) := by
  have hbanner := shows_banner locale .boldRed (m := .failureBanner) (List.forall_mem_nil _)
  have hrule : Plain rule := plain_ofList fun h => absurd (List.eq_of_mem_replicate h) (by decide)
  refine (hbanner.append (shows_line (.of_plain hrule))).append ?_
  rcases hf : t.failure? with _ | f
  · exact .words (by decide)
  · have hlabel : Plain (f.reason.label locale) := by
      refine Message.plain_text ?_ locale
      cases f.reason <;> exact List.forall_mem_nil _
    exact shows_row locale .red (List.forall_mem_nil _) (h f hf) hlabel

/-- What is printed for a report shows what is printed without styles, stream by stream. -/
theorem shows_prints (stream : Stream) {report : Report}
    (h : ∀ t ∈ report.inserted, 0x1b ∉ t.bytes) :
    Shows (onStream stream (prints ⟨locale,true⟩ report))
      (onStream stream (prints ⟨locale,false⟩ report)) := by
  cases report with
  | opening count server =>
    have hserver : Plain server.lossy := plain_lossy (h server (by simp [Report.inserted]))
    have hsay := shows_say locale .cyan (m := .matrixBanner count server.lossy)
      (List.forall_mem_singleton.mpr hserver)
    exact shows_onStream stream (shows_line hsay) .out
  | notice n =>
    cases n with
    | entered config state =>
      rw [prints,prints,onStream_entered,onStream_entered]
      exact shows_onStream stream (shows_stateText locale config state h) .out
    | cleanupFailed config e =>
      have he : Plain e.text := plain_of_bytes (h _ (by simp [Report.inserted]))
      have hsay := shows_say locale .yellow (m := .cleanupFailed e.text)
        (List.forall_mem_singleton.mpr he)
      exact shows_onStream stream (shows_line hsay) .err
  | interrupt =>
    have hbanner := shows_banner locale .yellow (m := .interruptReceived) (List.forall_mem_nil _)
    exact shows_onStream stream hbanner .out
  | summary results =>
    have hnames : ∀ p ∈ results, Plain p.variant := by
      intro p hp
      exact plain_of_bytes (h _ (List.mem_map_of_mem hp))
    exact shows_onStream stream (shows_summary locale hnames) .out
  | failure t =>
    have hnames : ∀ f ∈ t.failure?, Plain f.variant := by
      intro f hf
      exact plain_of_bytes (h _ (List.mem_map_of_mem (Option.mem_toList.mpr hf)))
    exact shows_onStream stream (shows_failure locale hnames) .out

theorem shows_transcript (stream : Stream) {reports : List Report}
    (h : ∀ report ∈ reports, ∀ t ∈ report.inserted, 0x1b ∉ t.bytes) :
    Shows (transcript ⟨locale,true⟩ stream reports) (transcript ⟨locale,false⟩ stream reports) := by
  induction reports with
  | nil =>
    rw [transcript_nil,transcript_nil]
    exact .words (by decide)
  | cons report reports ih =>
    have hfirst := shows_prints locale stream (h report (by simp))
    have hrest := ih fun later hlater => h later (by simp [hlater])
    rw [transcript_cons,transcript_cons]
    exact hfirst.append hrest

end shows

/-- Colours never change a text.  Whatever is reported on a console, in any order and any locale,
what stands on a stream without the sequences that set and reset styles is what a console without
styles puts there, to the last blank, and no sequence is left in it; provided that no escape comes
from the texts put in from outside. -/
theorem strip_transcript (locale : String) (reports : List Report) (stream : Stream)
    (h : ∀ report ∈ reports, ∀ t ∈ report.inserted, 0x1b ∉ t.bytes) :
    let styled : Console := ⟨locale,true⟩
    let unstyled : Console := ⟨locale,false⟩
    strip (styled.transcript stream reports).toList = (unstyled.transcript stream reports).toList ∧
      '\x1b' ∉ (unstyled.transcript stream reports).toList := by
  intro styled unstyled
  have hshows := shows_transcript locale stream h
  exact ⟨hshows.strip_eq,hshows.isPlain⟩

/-- A path that is no text, an argument that looks like the end of a sequence, and an error of the
cleanup: both streams without the sequences. -/
theorem strip_transcript_awkward :
    let config : PassConfig :=
      { server := .ofString "./srv", serverArguments := [], testRunner := ⟨[0x2e,0x2f,0xff]⟩,
        fast := false, variant := ⟨"udp",["[0m"]⟩ }
    let reports : List Report := [.notice (.entered config .testRunning),
      .notice (.cleanupFailed config .noSuchProcess),
      .failure (Pass.failed config .interrupted none)]
    (∀ report ∈ reports, ∀ t ∈ report.inserted, 0x1b ∉ t.bytes) ∧
      strip (transcript ⟨"zh-CN",true⟩ .out reports).toList =
        ("正在运行: './\uFFFD' '[0m'\n\n矩阵运行失败\n" ++ rule ++
          "\n  - 失败         | udp              | 已中断\n").toList ∧
      strip (transcript ⟨"zh-CN",true⟩ .err reports).toList =
        "未能干净地停止 memcached: No such process (os error 3)\n".toList := by
  intro config reports
  have h : ∀ report ∈ reports, ∀ t ∈ report.inserted, 0x1b ∉ t.bytes := by
    intro report hreport t ht
    simp only [reports,List.mem_cons,List.not_mem_nil,or_false] at hreport
    rcases hreport with rfl | rfl | rfl
    · obtain rfl | rfl : t = ⟨[0x2e,0x2f,0xff]⟩ ∨ t = .ofString "[0m" := by
        simpa [Report.inserted,config,PassConfig.testRunnerCommandLine,
          Plan.testRunnerCommandLine] using ht
      · decide
      · decide
    · obtain rfl : t = .ofString IoError.noSuchProcess.text := by simpa [Report.inserted] using ht
      decide +kernel
    · obtain rfl : t = .ofString "udp" := by simpa [Report.inserted,config] using ht
      decide
  have hout : transcript ⟨"zh-CN",false⟩ .out reports =
      "正在运行: './\uFFFD' '[0m'\n\n矩阵运行失败\n" ++ rule ++
        "\n  - 失败         | udp              | 已中断\n" := by decide +kernel
  have herr : transcript ⟨"zh-CN",false⟩ .err reports =
      "未能干净地停止 memcached: No such process (os error 3)\n" := by decide +kernel
  refine ⟨h,?_,?_⟩
  · rw [(strip_transcript "zh-CN" reports .out h).1,hout]
  · rw [(strip_transcript "zh-CN" reports .err h).1,herr]

end Console
end MatrixHarness
