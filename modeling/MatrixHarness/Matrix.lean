import MatrixHarness.Pass

/-! # The matrix

The passes, one after another. -/
namespace MatrixHarness.Harness

variable {σ : Type}

/-- Runs the passes in order.  The first that fails is the end of the matrix. -/
def runAll (H : Harness σ) : List PassConfig → Run σ →
    Option (Except Trail (List PassResult)) × Run σ
  | [], r => (some (.ok []),r)
  | config :: configs, r =>
    match H.runPass config r with
    | (none,r) => (none,r)
    | (some (.error t),r) => (some (.error t),r)
    | (some (.ok result),r) =>
      match H.runAll configs r with
      | (some (.ok results),r) => (some (.ok (result :: results)),r)
      | (answer,r) => (answer,r)

/-- The end of a pass among others. -/
structure PassReport where
  result : Option (Except Trail PassResult)
  notices : List Notice
  /-- The run is cancelled behind the pass. -/
  cancelled : Bool

/-- Runs every pass, also after one that failed. -/
def runEach (H : Harness σ) : List PassConfig → Run σ → List PassReport × Run σ
  | [], r => ([],r)
  | config :: configs, r =>
    let (result,after) := H.runPass config r
    let (reports,last) := H.runEach configs after
    (⟨result,after.notices.drop r.notices.length,after.cancelled⟩ :: reports,last)

end MatrixHarness.Harness
