import MatrixHarness.Proofs.Matrix.Passes
import MatrixHarness.Proofs.Pass.Failures

/-! # The first failure of a matrix

A matrix that fails has the error of its last pass, which is the first that failed, and in that
pass of the first stage that did. -/
namespace MatrixHarness

open Acts

namespace PassRun

variable {σ : Type} {H : Harness σ} {r next : Run σ} {p : PassRun}

theorem Runs.failsAt {t : Trail} (h : p.Runs H r next) (ht : p.result = some (.error t)) :
    ∃ stage later, FailsAt H.locale p.config p.acts t stage later := by
  obtain ⟨finish,duration,he,hcourse⟩ := h.finished ht
  exact hcourse.failsAt he

theorem Runs.failedStages (h : p.Runs H r next) (hp : p.Succeeded) :
    Acts.failedStages p.acts = [] ∧ Acts.cleanups p.acts = [] := by
  obtain ⟨result,hr⟩ := hp
  obtain ⟨finish,duration,he,hcourse⟩ := h.finished hr
  exact hcourse.failedStages_of_ok he

end PassRun

namespace Harness

variable {σ : Type}

/-- Whenever a matrix fails, whatever the host answers and whenever the run is cancelled, its error
is that of the first pass in order that failed, and of the first stage of that pass that did: it
names the variant and the reason, carries a status just if the test failed, and keeps its cause.
The passes before did not fail at any stage.  A server that could not be stopped after another
stage had failed does not enter the error, and is told to the listener once. -/
theorem runAll_firstFailure (H : Harness σ) (configs : List PassConfig) (r : Run σ) {t : Trail}
    (h : (H.runAll configs r).1 = some (.error t)) :
    ∃ before p rest, H.passes configs r = before ++ [p] ∧
      configs = before.map PassRun.config ++ p.config :: rest ∧
      (H.runAll configs r).2.history = r.history ++ (before ++ [p]).flatMap PassRun.acts ∧
      (∀ q ∈ before, q.Succeeded ∧ failedStages q.acts = [] ∧ cleanups q.acts = []) ∧
      p.result = some (.error t) ∧
      ∃ stage later, FailsAt H.locale p.config p.acts t stage later := by
  obtain ⟨hanswer,hmatrix⟩ := H.runAll_course configs r
  obtain ⟨before,p,after,hps,hp,hbefore⟩ := error_of_conclusion (hanswer.symm.trans h)
  rw [hps] at hmatrix
  obtain ⟨-,s,next,rest,hconfigs,hruns,hafter⟩ := hmatrix.split
  have hfailed : ¬p.Succeeded := by
    rintro ⟨result,hr⟩
    simp [hp] at hr
  have hnil : after = [] := by
    rcases hafter with ⟨hs,-⟩ | ⟨-,hnil⟩
    · exact absurd hs hfailed
    · exact hnil
  subst hnil
  refine ⟨before,p,rest,hps,hconfigs,hmatrix.continues.history,?_,hp,hruns.failsAt hp⟩
  intro q hq
  obtain ⟨s,next,hq'⟩ := hmatrix.course q (by simp [hq])
  exact ⟨hbefore q hq,hq'.failedStages (hbefore q hq)⟩

/-- The host counts the children that it reaped.  One test-runner and its server end well; another
test-runner cannot be started, and the server that runs by then cannot be waited for. -/
def unattended : Harness Nat where
  host := {
    spawn := fun role _ reaped =>
      match role with
      | .server => (.ok ⟨1,by decide⟩,reaped)
      | .testRunner => (if reaped = 0 then .ok ⟨3,by decide⟩ else .error .noSuchFile,reaped)
    poll := fun _ reaped =>
      if reaped < 2 then (.ok (some (.ofExit 0)),reaped + 1) else (.error .noChild,reaped)
    signal := fun _ _ reaped => (.ok (),reaped)
    pause := id
    hear := fun _ reaped => reaped
    print := fun _ _ reaped => reaped
    listen := fun _ reaped => reaped
    interrupted := fun _ => false
    now := fun _ => default }
  locale := "en"
  listener := fun _ => []
  patience := 1

/-- The second of three passes fails, at two stages. -/
theorem runAll_firstFailure_unattended :
    let config (name : String) : PassConfig :=
      Plan.configFor ⟨RawText.ofString "./srv",RawText.ofString "./test",2,false⟩ ⟨name,[]⟩
    let configs := [config "default",config "udp",config "tls"]
    let message : Message := .testRunnerNotStarted "./test"
    let t : Trail := ⟨[.failure ⟨"udp",.spawn,none⟩,.worded (message.text "en")],.io .noSuchFile⟩
    (unattended.runAll configs ⟨0,false,[]⟩).1 = some (.error t) ∧
      ∃ first p, unattended.passes configs ⟨0,false,[]⟩ = [first,p] ∧
        first.config = config "default" ∧ first.Succeeded ∧ p.config = config "udp" ∧
        FailsAt "en" p.config p.acts t (.testRunner .noSuchFile) [.stop .noChild] := by
  intro config configs message t
  have h : (unattended.runAll configs ⟨0,false,[]⟩).1 = some (.error t) := by decide +kernel
  obtain ⟨before,p,rest,hps,hconfigs,-,hbefore,-,stage,later,hfails⟩ :=
    runAll_firstFailure unattended _ _ h
  have hstages : (unattended.passes configs ⟨0,false,[]⟩).map (fun p => failedStages p.acts) =
      [[]] ++ [[.testRunner .noSuchFile,.stop .noChild]] := by decide +kernel
  rw [hps,List.map_append,List.map_singleton,hfails.stages] at hstages
  obtain ⟨hlength,hlast⟩ := List.append_inj' hstages rfl
  obtain ⟨first,rfl,-⟩ := List.map_eq_singleton_iff.mp hlength
  simp only [List.cons.injEq,and_true] at hlast
  obtain ⟨rfl,rfl⟩ := hlast
  simp only [List.map_singleton,List.singleton_append,configs,List.cons.injEq] at hconfigs
  exact ⟨h,first,p,hps,hconfigs.1.symm,(hbefore first (by simp)).1,hconfigs.2.1.symm,hfails⟩

end Harness
end MatrixHarness
