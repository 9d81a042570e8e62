import MatrixHarness.Machine.FileChange
import MatrixHarness.Machine.Permission
import MatrixHarness.Tool.Basic

/-! # Tools for files

Each tool makes, moves or takes away files, or tells where they are. -/
namespace MatrixHarness.Tool

open Machine Shell

/-- Does something with each of several files; the complaint tells what could not be done. -/
def changeEach (c : Call) (what : String) (files : List (List Char))
    (change : RawText → Files → Except IoError Files) : Doing Nat := do
  if files.isEmpty then missingOperand c
  else
    let statuses ← files.mapM fun file => do
      match ← Doing.change (change (RawText.ofOctets file)) with
      | .ok () => return succeeded
      | .error e =>
        fail c (what.toList ++ ' ' :: quotedFile file ++ ": ".toList ++ e.plainText.toList)
    return statuses.foldl max 0

def touch (c : Call) : Doing Nat :=
  withOptions c { flags := ['a','m','c','f'], valued := ['d','r','t'] } fun o => do
    if o.words.isEmpty then misused c failed "missing file operand".toList
    else
      let statuses ← o.words.mapM fun file => do
        let path := RawText.ofOctets file
        if (← Doing.files).has path then return succeeded
        else if o.has 'c' then return succeeded
        else
          match ← Doing.openFile path { writes := true, creates := true } with
          | .ok n =>
            Doing.close n
            return succeeded
          | .error e =>
            fail c ("cannot touch ".toList ++ quotedFile file ++ ": ".toList ++ e.plainText.toList)
      return statuses.foldl max 0

def rm (c : Call) : Doing Nat :=
  withOptions c { flags := ['f','r','R','d','v','i'] } fun o => do
    let forced := o.has 'f'
    if o.words.isEmpty then if forced then return succeeded else missingOperand c
    else
      let files ← Doing.files
      let there := o.words.filter fun w =>
        !(forced && (files.look false (RawText.ofOctets w)).toOption.isNone)
      if there.isEmpty then return succeeded
      else
        changeEach c "cannot remove" there fun path =>
          if o.has 'r' || o.has 'R' then Files.removeAll path else Files.removeFile path

def makeAll (path : RawText) (fs : Files) : Except IoError Files :=
  let parts := path.bytes.splitOnP (· == slash)
  let starts := (List.range parts.length).map fun n =>
    RawText.mk (List.intercalate [slash] (parts.take (n + 1)))
  starts.foldlM (fun fs start =>
    if start.bytes.isEmpty then .ok fs
    else
      match fs.lookUp start with
      | .ok .directory => .ok fs
      | .ok _ => .error (if start == path then .fileExists else .notADirectory)
      | .error _ => Files.makeDirectory start fs) fs

def mkdir (c : Call) : Doing Nat :=
  withOptions c { flags := ['p','v'], valued := ['m'] } fun o =>
    changeEach c "cannot create directory" o.words fun path =>
      if o.has 'p' then makeAll path else Files.makeDirectory path

def rmdir (c : Call) : Doing Nat :=
  withOptions c { flags := ['p','v'] } fun o =>
    changeEach c "failed to remove" o.words Files.removeDirectory

def inside (directory file : List Char) : List Char :=
  let bare := (file.reverse.dropWhile (· == '/')).reverse
  let name := (bare.reverse.takeWhile (· != '/')).reverse
  (if directory.getLast? == some '/' then directory else directory ++ ['/']) ++ name

def isDirectory (fs : Files) (path : List Char) : Bool :=
  match fs.lookUp (RawText.ofOctets path) with
  | .ok .directory => true
  | _ => false

/-- Does something with each source and its target: the last word, or a file in the directory that
it names. -/
def eachTarget (c : Call) (plainly : Bool) (words : List (List Char))
    (act : List Char → List Char → Doing Nat) : Doing Nat := do
  match words.reverse with
  | [] => misused c failed "missing file operand".toList
  | [w] => misused c failed ("missing destination file operand after ".toList ++ quoted w)
  | target :: sources =>
    let toDirectory := !plainly && isDirectory (← Doing.files) target
    if sources.length > 1 && !toDirectory then
      fail c ("target ".toList ++ quotedFile target ++ ": ".toList ++
        ((match (← Doing.files).lookUp (RawText.ofOctets target) with
          | .error e => e
          | .ok _ => .notADirectory).plainText.toList))
    else
      let statuses ← sources.reverse.mapM fun source =>
        act source (if toDirectory then inside target source else target)
      return statuses.foldl max 0

def mv (c : Call) : Doing Nat :=
  withOptions c { flags := ['f','n','v','T','i'] } fun o =>
    eachTarget c (o.has 'T') o.words fun source target => do
      let fs ← Doing.files
      match fs.look false (RawText.ofOctets source) with
      | .error e =>
        fail c ("cannot stat ".toList ++ quotedFile source ++ ": ".toList ++ e.plainText.toList)
      | .ok _ =>
        match ← Doing.change (Files.rename (RawText.ofOctets source) (RawText.ofOctets target)) with
        | .ok () => return succeeded
        | .error e =>
          fail c ("cannot move ".toList ++ quotedFile source ++ " to ".toList ++
            quotedFile target ++ ": ".toList ++ e.plainText.toList)

def copyAll (whole : Bool) : Nat → RawText → RawText → Files → Except IoError Files
  | 0, _, _, fs => .ok fs
  | deep + 1, source, target, fs =>
    match fs.lookUp source with
    | .error e => .error e
    | .ok .directory =>
      if !whole then .error .isADirectory
      else
        let made : Except IoError Files := match fs.lookUp target with
          | .ok .directory => .ok fs
          | _ => Files.makeDirectory target fs
        match made, fs.locate true source with
        | .error e, _ => .error e
        | _, .error e => .error e
        | .ok fs, .ok p =>
          (fs.listing p).foldlM (fun fs entry =>
            let below (path : RawText) : RawText := path ++ RawText.ofString "/" ++ entry.1
            copyAll whole deep (below source) (below target) fs) fs
    | .ok (.regular mode contents) =>
      let access : Access := { writes := true, creates := true, truncates := true }
      match fs.prepare access mode target with
      | .error e => .error e
      | .ok (p,.regular _ _,fs) => .ok (fs.setContents p contents)
      | .ok (_,_,fs) => .ok fs
    | .ok (.link _) => .error .tooManyLinks
    | .ok (.device _) => .ok fs

def deepestCopy : Nat := 1000

def cp (c : Call) : Doing Nat :=
  withOptions c { flags := ['f','r','R','a','p','v','T','n'] } fun o =>
    let whole := o.has 'r' || o.has 'R' || o.has 'a'
    eachTarget c (o.has 'T') o.words fun source target => do
      let fs ← Doing.files
      match fs.lookUp (RawText.ofOctets source) with
      | .error e =>
        fail c ("cannot stat ".toList ++ quotedFile source ++ ": ".toList ++ e.plainText.toList)
      | .ok file =>
        if file = .directory && !whole then
          fail c ("-r not specified; omitting directory ".toList ++ quotedFile source)
        else
          let source := RawText.ofOctets source
          match ← Doing.change (copyAll whole deepestCopy source (RawText.ofOctets target)) with
          | .ok () => return succeeded
          | .error e =>
            fail c ("cannot create regular file ".toList ++ quotedFile target ++ ": ".toList ++
              e.plainText.toList)

/-- Gives a file one more name.  What is written under one name is not seen under the other. -/
def nameAgain (source path : RawText) (fs : Files) : Except IoError Files :=
  match fs.look false source with
  | .error e => .error e
  | .ok .directory => .error .notPermitted
  | .ok _ =>
    if fs.has path then .error .fileExists else copyAll false deepestCopy source path fs

def ln (c : Call) : Doing Nat :=
  withOptions c { flags := ['s','f','n','v','T'] } fun o =>
    let words := match o.words with
      | [w] => [w,['.']]
      | ws => ws
    eachTarget c (o.has 'T') words fun source target => do
      let from' := RawText.ofOctets source
      let path := RawText.ofOctets target
      let fs ← Doing.files
      if !o.has 's' && (fs.look false from').toOption.isNone then
        fail c ("failed to access ".toList ++ quotedFile source ++ ": ".toList ++
          IoError.noSuchFile.plainText.toList)
      else
        if o.has 'f' then
          let _ ← Doing.change (Files.removeFile path)
        match ← Doing.change (if o.has 's' then Files.makeLink from' path else nameAgain from' path)
          with
        | .ok () => return succeeded
        | .error e =>
          fail c ("failed to create ".toList ++
            (if o.has 's' then "symbolic link ".toList else "hard link ".toList) ++
            quotedFile target ++ ": ".toList ++ e.plainText.toList)

def chmod (c : Call) : Doing Nat := do
  let words := c.words.filter fun w => !(w ∈ [['-','f'],['-','R'],['-','v'],['-','-']])
  match words with
  | [] => missingOperand c
  | [w] => misused c failed ("missing operand after ".toList ++ quoted w)
  | mode :: files =>
    match permissionChange? mode with
    | none => misused c failed ("invalid mode: ".toList ++ quoted mode)
    | some change => changeEach c "cannot access" files (Files.setMode change)

def ordered (fs : List (List Char × File)) : List (List Char × File) :=
  fs.mergeSort fun a b => String.ofList a.1 ≤ String.ofList b.1

def longLine (e : List Char × File) : List Char :=
  let (kind,mode,size,behind) : Char × Nat × Nat × List Char := match e.2 with
    | .directory => ('d',0o755,4096,[])
    | .regular mode contents => ('-',mode,contents.bytes.length,[])
    | .link target => ('l',0o777,target.bytes.length," -> ".toList ++ target.octets)
    | .device _ => ('c',0o666,0,[])
  kind :: permissionLetters mode ++ " 1 root root ".toList ++ digits size ++
    " Jan  1 00:00 ".toList ++ e.1 ++ behind ++ ['\n']

def listed (o : Options) (fs : Files) (p : Path) : List (List Char × File) :=
  let dots : List (List Char × File) :=
    if o.has 'a' then [(['.'],.directory),(['.','.'],.directory)] else []
  dots ++ ordered (((fs.listing p).map fun e => (e.1.octets,e.2)).filter fun e =>
    o.has 'a' || o.has 'A' || e.1.head? != some '.')

def ls (c : Call) : Doing Nat :=
  withOptions c { flags := ['1','a','A','d','l','r','t'] } fun o => do
    let fs ← Doing.files
    let shown (es : List (List Char × File)) : List Char :=
      es.flatMap fun e => if o.has 'l' then longLine e else e.1 ++ ['\n']
    let paths := if o.words.isEmpty then [['.']] else o.words
    let found ← paths.mapM fun path => do
      match fs.look false (RawText.ofOctets path) with
      | .error e =>
        complain c ("cannot access ".toList ++ quotedFile path ++ ": ".toList ++ e.plainText.toList)
        return none
      | .ok f => return some (path,f)
    let there := found.filterMap fun f => f
    let opens (e : List Char × File) : Bool := e.2 = .directory && !o.has 'd'
    let files := there.filter (!opens ·)
    let blocks := (there.filter opens).map fun d =>
      let inside := match fs.locate true (RawText.ofOctets d.1) with
        | .ok p => listed o fs p
        | .error _ => []
      (if paths.length > 1 then d.1 ++ [':','\n'] else []) ++ shown inside
    let status ← print c (joined ['\n'] ((if files.isEmpty then [] else [shown files]) ++ blocks))
    return if found.all Option.isSome then status else 2

/-- A name in which letters stand for the last marks. -/
def filledName (form : List Char) (n : Nat) : List Char :=
  let marks := (form.reverse.takeWhile (· == 'X')).length
  let ds := digits n
  form.take (form.length - marks) ++ List.replicate (marks - ds.length) 'a' ++ ds

/-- Makes a file or a directory with a name that none has. -/
def mktemp (c : Call) : Doing Nat :=
  withOptions c { flags := ['d','q','t','u'], valued := ['p'] } fun o => do
    let self ← Doing.self
    let directory := (o.value? 'p').getD "/tmp".toList
    let form := match o.words with
      | [] => directory ++ "/tmp.XXXXXXXXXX".toList
      | w :: _ => if o.has 't' then directory ++ '/' :: w else w
    let name := filledName form self.pid
    let path := RawText.ofOctets name
    let made ← Doing.change fun fs =>
      if o.has 'd' then Files.makeDirectory path fs
      else if fs.has path then .error .fileExists
      else
        (fs.prepare { writes := true, creates := true } 0o600 path).map fun p => p.2.2
    match made with
    | .ok () => print c (name ++ ['\n'])
    | .error e =>
      fail c ("failed to create file via template ".toList ++ quoted form ++ ": ".toList ++
        e.plainText.toList)

def written (p : Path) : List Char := '/' :: joined ['/'] (p.map RawText.octets)

def readlink (c : Call) : Doing Nat :=
  withOptions c { flags := ['f','e','m','n','q','s'] } fun o => do
    let fs ← Doing.files
    match o.words with
    | [] => missingOperand c
    | path :: _ =>
      let raw := RawText.ofOctets path
      let ends : List Char := if o.has 'n' then [] else ['\n']
      if o.has 'f' || o.has 'e' || o.has 'm' then
        match fs.locate true raw with
        | .ok p => print c (written p ++ ends)
        | .error _ => return failed
      else
        match fs.look false raw with
        | .ok (.link target) => print c (target.octets ++ ends)
        | _ => return failed

def pwd (c : Call) : Doing Nat := do
  print c (written (← Doing.files).place ++ ['\n'])

end MatrixHarness.Tool
