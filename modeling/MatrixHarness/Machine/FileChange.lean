import MatrixHarness.Machine.Course

/-! # Changing files

What can be done to the files of a machine.  Each change names the error for which it is refused;
what every system has cannot be taken away. -/
namespace MatrixHarness.Machine.Files

/-- The path of a file that is opened, and the files then. -/
def prepare (fs : Files) (a : Access) (mode : Nat) (path : RawText) :
    Except IoError (Path × File × Files) :=
  match fs.locate true path with
  | .error e => .error e
  | .ok p =>
    match fs.find? p with
    | some .directory => if a.writes then .error .isADirectory else .ok (p,.directory,fs)
    | some (.regular m contents) =>
      if wantsDirectory path then .error .notADirectory
      else if a.fresh then .error .fileExists
      else
        let f := File.regular m (if a.truncates then ⟨[]⟩ else contents)
        .ok (p,f,if a.truncates then fs.put p f else fs)
    | some f => .ok (p,f,fs)
    | none =>
      if !a.creates then .error .noSuchFile
      else if wantsDirectory path then .error .isADirectory
      else .ok (p,.regular mode ⟨[]⟩,fs.put p (.regular mode ⟨[]⟩))

def makeDirectory (path : RawText) (fs : Files) : Except IoError Files :=
  match fs.locate false path with
  | .error e => .error e
  | .ok p => if (fs.find? p).isSome then .error .fileExists else .ok (fs.put p .directory)

/-- Takes a file away, unless every system has it. -/
def take (p : Path) (fs : Files) : Except IoError Files :=
  if standard.any (·.1 == p) then .error .notPermitted
  else .ok { fs with entries := fs.entries.filter (·.1 != p) }

def removeFile (path : RawText) (fs : Files) : Except IoError Files :=
  match fs.look false path with
  | .error e => .error e
  | .ok .directory => .error .isADirectory
  | .ok _ =>
    match fs.locate false path with
    | .error e => .error e
    | .ok p => fs.take p

def removeDirectory (path : RawText) (fs : Files) : Except IoError Files :=
  match fs.look false path with
  | .error e => .error e
  | .ok .directory =>
    match fs.locate false path with
    | .error e => .error e
    | .ok p =>
      if (names path).getLast? == some upward then .error .notEmpty
      else if names path == [] then .error .invalidArgument
      else if fs.listing p == [] then fs.take p
      else .error .notEmpty
  | .ok _ => .error .notADirectory

def removeAll (path : RawText) (fs : Files) : Except IoError Files :=
  match fs.look false path, fs.locate false path with
  | .error e, _ => .error e
  | _, .error e => .error e
  | .ok _, .ok p =>
    if standard.any (·.1 == p) then .error .notPermitted
    else .ok { fs with entries := fs.entries.filter fun e => !p.isPrefixOf e.1 }

/-- Gives a file, with all that lies in it, another path. -/
def moveTo (source target : Path) (fs : Files) : Files :=
  let moved := fs.entries.filterMap fun e =>
    if source.isPrefixOf e.1 then some (target ++ e.1.drop source.length,e.2) else none
  { fs with entries := moved ++ fs.entries.filter fun e =>
      !source.isPrefixOf e.1 && e.1 != target }

def rename (source target : RawText) (fs : Files) : Except IoError Files :=
  match fs.look false source, fs.locate false source, fs.locate false target with
  | .error e, _, _ => .error e
  | _, .error e, _ => .error e
  | _, _, .error e => .error e
  | .ok f, .ok p, .ok q =>
    if standard.any (·.1 == p) then .error .notPermitted
    else if p == q then .ok fs
    else if p.isPrefixOf q then .error .invalidArgument
    else
      match f, fs.find? q with
      | .directory, some .directory =>
        if fs.listing q == [] then .ok (fs.moveTo p q) else .error .notEmpty
      | .directory, some _ => .error .notADirectory
      | _, some .directory => .error .isADirectory
      | _, _ => if wantsDirectory target then .error .notADirectory else .ok (fs.moveTo p q)

def makeLink (target path : RawText) (fs : Files) : Except IoError Files :=
  match fs.locate false path with
  | .error e => .error e
  | .ok p => if (fs.find? p).isSome then .error .fileExists else .ok (fs.put p (.link target))

def setMode (mode : Nat → Nat) (path : RawText) (fs : Files) : Except IoError Files :=
  match fs.lookUp path, fs.locate true path with
  | .error e, _ => .error e
  | _, .error e => .error e
  | .ok (.regular m contents), .ok p => .ok (fs.put p (.regular (mode m) contents))
  | .ok _, .ok _ => .ok fs

def setContents (p : Path) (contents : RawText) (fs : Files) : Files :=
  match fs.find? p with
  | some (.regular m _) => fs.put p (.regular m contents)
  | _ => fs

end MatrixHarness.Machine.Files
