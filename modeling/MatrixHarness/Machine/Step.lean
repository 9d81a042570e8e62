import MatrixHarness.Machine.FileChange
import MatrixHarness.Machine.State

/-! # Steps

What the machine answers to each request of a process.  A request that cannot be answered yet leaves
all as it is. -/
namespace MatrixHarness.Machine

/-- How long requests take, in nanoseconds: most of them, a new process, and a new program; and how
long it is until a new process begins. -/
def usualCost : Nat := 5000
def forkCost : Nat := 100000
def becomeCost : Nat := 500000
def beginCost : Nat := 400000

def advance (pid cost : Nat) (c : Course) (m : Machine) : Machine :=
  m.update pid fun p => { p with course := c, wakes := m.clock + cost }

def advanceUsual (pid : Nat) (c : Course) (m : Machine) : Machine := m.advance pid usualCost c

def filesOf (m : Machine) (p : Process) : Files := { m.files with place := p.place }

def setFiles (fs : Files) (m : Machine) : Machine :=
  { m with files := { fs with place := m.files.place } }

def finish (pid : Nat) (status : WaitStatus) (m : Machine) : Machine :=
  m.affect pid (Process.finish status)

def openedBy (m : Machine) (p : Process) (descriptor : Nat) : Option (Nat × Opened) :=
  (p.handle? descriptor).bind fun h => (m.opened[h]?).map fun o => (h,o)

/-- How much a pipe holds before one who writes has to wait. -/
def pipeRoom : Nat := 65536

/-- What can be read; none if it is still to come. -/
def readOpened (m : Machine) (handle : Nat) (o : Opened) (most : Nat) :
    Option (Except IoError RawText × Machine) :=
  if !o.access.reads then some (.error .badDescriptor,m)
  else
    match o.target with
    | .file path =>
      match m.files.find? path with
      | some (.regular _ contents) =>
        let text : RawText := ⟨(contents.bytes.drop o.position).take most⟩
        some (.ok text,
          m.setOpened handle { o with position := o.position + text.bytes.length })
      | _ => some (.ok ⟨[]⟩,m)
    | .directory => some (.error .isADirectory,m)
    | .device .zero => some (.ok ⟨List.replicate most 0⟩,m)
    | .device .full => some (.ok ⟨List.replicate most 0⟩,m)
    | .device _ => some (.ok ⟨[]⟩,m)
    | .pipe number _ =>
      let held := (m.pipes[number]?).getD ⟨[]⟩
      if held.bytes.isEmpty then
        if m.holdsPipe number true then none else some (.ok ⟨[]⟩,m)
      else
        some (.ok ⟨held.bytes.take most⟩,
          { m with pipes := m.pipes.setIfInBounds number ⟨held.bytes.drop most⟩ })
    | .stream _ => some (.error .badDescriptor,m)

/-- Writes a text; none if there is no room yet. -/
def writeOpened (m : Machine) (handle : Nat) (o : Opened) (text : RawText) :
    Option (Except IoError Unit × Machine) :=
  if !o.access.writes then some (.error .badDescriptor,m)
  else
    match o.target with
    | .file path =>
      match m.files.find? path with
      | some (.regular mode contents) =>
        let position := if o.access.appends then contents.bytes.length else o.position
        let m := m.setFiles (m.files.put path
          (.regular mode ⟨Files.overwrite contents.bytes position text.bytes⟩))
        some (.ok (),m.setOpened handle { o with position := position + text.bytes.length })
      | _ => some (.ok (),m)
    | .directory => some (.error .badDescriptor,m)
    | .device .full => some (.error .noSpace,m)
    | .device _ => some (.ok (),m)
    | .pipe number _ =>
      if !m.holdsPipe number false then some (.error .brokenPipe,m)
      else
        let held := (m.pipes[number]?).getD ⟨[]⟩
        if pipeRoom ≤ held.bytes.length then none
        else some (.ok (),{ m with pipes := m.pipes.setIfInBounds number (held ++ text) })
    | .stream s => some (.ok (),m.print s text)

/-- What a file leads to once it is opened. -/
def targetOf (path : Path) : File → Target
  | .directory => .directory
  | .device d => .device d
  | _ => .file path

def openFor (m : Machine) (p : Process) (path : RawText) (access : Access) :
    Except IoError Nat × Machine :=
  match (m.filesOf p).prepare access (0o666 - (0o666 &&& p.mask)) path with
  | .error e => (.error e,m)
  | .ok (_,.device .terminal,_) => (.error .noSuchDevice,m)
  | .ok (_,.device (.descriptor n),_) =>
    match p.handle? n with
    | none => (.error .noSuchFile,m)
    | some h =>
      let d := p.free 0
      (.ok d,m.update p.pid (Process.lead d h))
  | .ok (at',f,fs) =>
    let (h,m) := (m.setFiles fs).addOpened ⟨targetOf at' f,access,0⟩
    let d := p.free 0
    (.ok d,m.update p.pid (Process.lead d h))

def pipeFor (m : Machine) (p : Process) : (Nat × Nat) × Machine :=
  let number := m.pipes.size
  let m := { m with pipes := m.pipes.push ⟨[]⟩ }
  let (out,m) := m.addOpened ⟨.pipe number false,{ reads := true },0⟩
  let (into,m) := m.addOpened ⟨.pipe number true,{ writes := true },0⟩
  let d := p.free 0
  let p := p.lead d out
  let e := p.free 0
  ((d,e),m.update p.pid fun _ => p.lead e into)

def forkFor (m : Machine) (p : Process) (c : Course) : Nat × Machine :=
  let pid := m.nextPid.number
  let child : Process :=
    { p with
      pid := pid, parent := p.pid, course := c, pending := [], held := []
      wakes := m.clock + beginCost }
  (pid,{ m with processes := m.processes ++ [child], started := m.started + 1 })

def awaits (a : Awaited) (parent : Nat) (q : Process) : Bool :=
  q.parent == parent && match a with
    | .any => true
    | .child pid => q.pid == pid

/-- Waits for a child; none if there is still something to wait for. -/
def waitFor (m : Machine) (p : Process) (a : Awaited) (blocks alert : Bool) :
    Option (Except IoError (Option (Nat × WaitStatus)) × Machine) :=
  let children := m.processes.filter (awaits a p.pid)
  match children.findSome? fun q => q.ended.map fun s => (q.pid,s) with
  | some (pid,status) =>
    some (.ok (some (pid,status)),
      { m with processes := m.processes.filter (·.pid != pid) }.tidy)
  | none =>
    if children.isEmpty then some (.error .noChild,m)
    else if !blocks then some (.ok none,m)
    else if alert && !p.pending.isEmpty then some (.error .interruptedCall,m)
    else none

/-- Sends a signal to one process, or to all if the number is zero or minus one. -/
def signalFor (m : Machine) (target : Int) (s : Signal) : Except IoError Unit × Machine :=
  if target = harnessPid then (.ok (),if s = .int then m.interrupt else m)
  else if target = firstPid then (.ok (),m)
  else if target = 0 || target = -1 then
    (.ok (),m.processes.foldl (fun m q => m.deliver q.pid s) m)
  else if 0 < target && m.isThere target.toNat then (.ok (),m.deliver target.toNat s)
  else (.error .noSuchProcess,m)

/-- One step of a process; none if its request cannot be answered yet. -/
def step (m : Machine) (p : Process) : Option Machine :=
  match p.course with
  | .exit code => some (m.finish p.pid (.ofExit code))
  | .self k => some (m.advanceUsual p.pid (k ⟨p.pid,p.parent,p.mask⟩))
  | .clock k => some (m.advanceUsual p.pid (k m.clock))
  | .sleep n k => some (m.advance p.pid n (k ()))
  | .read d most k =>
    match m.openedBy p d with
    | none => some (m.advanceUsual p.pid (k (.error .badDescriptor)))
    | some (h,o) =>
      (m.readOpened h o most).map fun r => r.2.advanceUsual p.pid (k r.1)
  | .write d text k =>
    match m.openedBy p d with
    | none => some (m.advanceUsual p.pid (k (.error .badDescriptor)))
    | some (h,o) =>
      (m.writeOpened h o text).map fun r =>
        let next := r.2.advanceUsual p.pid (k r.1)
        match r.1 with
        | .error e => if e = .brokenPipe then next.deliver p.pid .pipe else next
        | .ok () => next
  | .openFile path access k =>
    let (answer,m) := m.openFor p path access
    some (m.advanceUsual p.pid (k answer))
  | .duplicate d copy k =>
    match p.handle? d with
    | none => some (m.advanceUsual p.pid (k (.error .badDescriptor)))
    | some h => some ((m.update p.pid (Process.lead copy h)).advanceUsual p.pid (k (.ok ())))
  | .keep d least k =>
    match p.handle? d with
    | none => some (m.advanceUsual p.pid (k (.error .badDescriptor)))
    | some h =>
      let copy := p.free least
      some ((m.update p.pid (Process.lead copy h)).advanceUsual p.pid (k (.ok copy)))
  | .close d k => some ((m.update p.pid (Process.close d)).advanceUsual p.pid (k ()))
  | .pipe k =>
    let (ends,m) := m.pipeFor p
    some (m.advanceUsual p.pid (k ends))
  | .files change k =>
    let fs := m.filesOf p
    some ((m.setFiles (change fs)).advanceUsual p.pid (k fs))
  | .enter path k =>
    let fs := m.filesOf p
    match fs.lookUp path, fs.locate true path with
    | .error e, _ => some (m.advanceUsual p.pid (k (.error e)))
    | _, .error e => some (m.advanceUsual p.pid (k (.error e)))
    | .ok .directory, .ok place =>
      some ((m.update p.pid fun p => { p with place := place }).advanceUsual p.pid (k (.ok ())))
    | .ok _, .ok _ => some (m.advanceUsual p.pid (k (.error .notADirectory)))
  | .setMask mask k =>
    some ((m.update p.pid fun p => { p with mask := mask }).advanceUsual p.pid (k ()))
  | .fork child k =>
    let (pid,m) := m.forkFor p (child ())
    some (m.advance p.pid forkCost (k pid))
  | .become path words env k =>
    match execute (m.filesOf p) path words with
    | .error e => some (m.advanceUsual p.pid (k e))
    | .ok pr =>
      let next := courseOf pr env
      some ((m.update p.pid (Process.become next)).advance p.pid becomeCost next)
  | .wait awaited blocks alert k =>
    (m.waitFor p awaited blocks alert).map fun r => r.2.advanceUsual p.pid (k r.1)
  | .signal target s k =>
    let (answer,m) := m.signalFor target s
    some (m.advanceUsual p.pid (k answer))
  | .dispose s d k =>
    some ((m.update p.pid (Process.setDisposition s d)).advanceUsual p.pid (k (p.disposition s)))
  | .caught k =>
    some ((m.update p.pid fun p => { p with pending := [] }).advanceUsual p.pid (k p.pending))

end MatrixHarness.Machine
