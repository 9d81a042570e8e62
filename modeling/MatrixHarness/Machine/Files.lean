import MatrixHarness.System.IoError
import MatrixHarness.Text.Raw

/-! # Files

The files of a machine: what every system has, and over it what was put there.  A path is a list of
names from the root; in a written path names that are empty or a dot alone lead nowhere, two dots
lead back, and links lead on.  Whoever asks may read and write every file. -/
namespace MatrixHarness.Machine

abbrev Path := List RawText

/-- A file without contents of its own. -/
inductive Device where
  /-- Swallows all and yields nothing. -/
  | null
  | zero
  /-- Has no room. -/
  | full
  /-- Belongs to no one here. -/
  | terminal
  /-- A descriptor of the one who opens it. -/
  | descriptor (n : Nat)
  deriving DecidableEq

inductive File where
  | directory
  | regular (mode : Nat) (contents : RawText)
  | link (target : RawText)
  | device (d : Device)
  deriving DecidableEq

def slash : UInt8 := 0x2f

def isAbsolute (path : RawText) : Bool := path.bytes.head? == some slash

def upward : RawText := RawText.ofString ".."

def names (path : RawText) : Path :=
  ((path.bytes.splitOnP (· == slash)).map RawText.mk).filter fun n =>
    !n.bytes.isEmpty && n != RawText.ofString "."

/-- A path that ends in a slash or a dot must lead to a directory. -/
def wantsDirectory (path : RawText) : Bool :=
  ((path.bytes.splitOnP (· == slash)).getLast?.map fun p =>
    p.isEmpty || p == [0x2e] || p == [0x2e,0x2e]).getD false

/-- The greatest length of a name, and of a path with the byte that ends it. -/
def longestName : Nat := 255
def longestPath : Nat := 4096

/-- How many names a way may have, those that links put into it included. -/
def longestWay : Nat := 8192

def workplace : Path := ["tmp","matrix"].map RawText.ofString

/-- The programs that every system has. -/
def programNames : List String :=
  ["[","basename","bash","cat","chmod","cp","cut","dash","date","dirname","echo","env",
   "expr","false","grep","head","id","kill","ln","ls","mkdir","mktemp","mv","nice",
   "nohup","printenv","printf","pwd","readlink","rm","rmdir","seq","setsid","sh","sleep",
   "sort","tail","tee","test","timeout","touch","tr","true","uname","uniq","wc","which",
   "whoami","yes"]

/-- The first bytes of a program; they begin no text. -/
def imageMark : List UInt8 := [0x7f,0x45,0x4c,0x46,0xff]

def image (name : String) : RawText := ⟨imageMark ++ (RawText.ofString name).bytes⟩

/-- What every system has, by its path. -/
def standard : List (Path × File) :=
  let at' (path : String) : Path := names (RawText.ofString path)
  let directories := ["/","/boot","/dev","/dev/fd","/etc","/home","/media","/mnt","/opt",
    "/proc","/root","/run","/srv","/sys","/tmp","/usr","/usr/bin","/usr/lib","/usr/local",
    "/usr/local/bin","/usr/local/sbin","/usr/sbin","/usr/share","/var","/var/log","/var/tmp"]
  let links := [("/bin","usr/bin"),("/lib","usr/lib"),("/sbin","usr/sbin")]
  let texts := [("/etc/group","root:x:0:\n"),("/etc/hostname","localhost\n"),
    ("/etc/hosts","127.0.0.1\tlocalhost\n"),("/etc/passwd","root:x:0:0:root:/root:/bin/bash\n")]
  let devices := [("/dev/null",.null),("/dev/zero",.zero),("/dev/full",.full),
    ("/dev/tty",.terminal),("/dev/stdin",.descriptor 0),("/dev/stdout",.descriptor 1),
    ("/dev/stderr",.descriptor 2)]
  directories.map (fun d => (at' d,.directory)) ++ [(workplace,.directory)] ++
    links.map (fun l => (at' l.1,.link (RawText.ofString l.2))) ++
    texts.map (fun t => (at' t.1,.regular 0o644 (RawText.ofString t.2))) ++
    devices.map (fun d => (at' d.1,.device d.2)) ++
    (List.range 10).map (fun n => (at' ("/dev/fd/" ++ toString n),.device (.descriptor n))) ++
    programNames.map fun n => (at' ("/usr/bin/" ++ n),.regular 0o755 (image n))

/-- The files by their paths, the newest first, and the directory from which paths are read. -/
structure Files where
  entries : List (Path × File) := []
  place : Path := workplace

namespace Files

def find? (fs : Files) (p : Path) : Option File :=
  match fs.entries.find? (·.1 == p) with
  | some e => some e.2
  | none => (standard.find? (·.1 == p)).map (·.2)

/-- Goes along names from a directory, the way so far being read backwards.  The last name need not
be there; if it is a link it is followed on demand. -/
def walk (fs : Files) (follow : Bool) : Nat → Path → Path → Except IoError Path
  | 0, _, _ => .error .tooManyLinks
  | _ + 1, done, [] => .ok done.reverse
  | turns + 1, done, n :: ns =>
    match fs.find? done.reverse with
    | none => .error .noSuchFile
    | some .directory =>
      if n == upward then walk fs follow turns done.tail ns
      else if n.bytes.length > longestName then .error .nameTooLong
      else
        match fs.find? (n :: done).reverse with
        | some (.link target) =>
          if ns.isEmpty && !follow then .ok (n :: done).reverse
          else walk fs follow turns (if isAbsolute target then [] else done) (names target ++ ns)
        | _ => walk fs follow turns (n :: done) ns
    | some _ => .error .notADirectory

def locate (fs : Files) (follow : Bool) (path : RawText) : Except IoError Path :=
  if path.bytes.contains 0 then .error .nulInPath
  else if path.bytes.isEmpty then .error .noSuchFile
  else if path.bytes.length ≥ longestPath then .error .nameTooLong
  else fs.walk follow longestWay (if isAbsolute path then [] else fs.place.reverse)
    (names path)

def look (fs : Files) (follow : Bool) (path : RawText) : Except IoError File :=
  match fs.locate (follow || wantsDirectory path) path with
  | .error e => .error e
  | .ok p =>
    match fs.find? p with
    | none => .error .noSuchFile
    | some .directory => .ok .directory
    | some f => if wantsDirectory path then .error .notADirectory else .ok f

def lookUp (fs : Files) (path : RawText) : Except IoError File := fs.look true path

def read (fs : Files) (path : RawText) : Except IoError RawText :=
  match fs.lookUp path with
  | .error e => .error e
  | .ok .directory => .error .isADirectory
  | .ok (.regular _ contents) => .ok contents
  | .ok (.device .terminal) => .error .noSuchDevice
  | .ok _ => .ok ⟨[]⟩

def has (fs : Files) (path : RawText) : Bool := (fs.lookUp path).toOption.isSome

def put (fs : Files) (p : Path) (f : File) : Files :=
  { fs with entries := (p,f) :: fs.entries.filter (·.1 != p) }

def makeParents (fs : Files) (p : Path) : Files :=
  (List.range p.length).foldl (fun fs n =>
    if (fs.find? (p.take n)).isSome then fs else fs.put (p.take n) .directory) fs

/-- A path as it is written, whatever is there. -/
def plainly (fs : Files) (path : RawText) : Path :=
  (names path).foldl (fun p n => if n == upward then p.dropLast else p ++ [n])
    (if isAbsolute path then [] else fs.place)

def add (fs : Files) (path : RawText) (f : File) : Files :=
  (fs.makeParents (fs.plainly path)).put (fs.plainly path) f

def nameIn? (directory : Path) (p : Path) : Option RawText :=
  if p.dropLast == directory then p.getLast? else none

/-- What lies in a directory, the oldest first. -/
def listing (fs : Files) (directory : Path) : List (RawText × File) :=
  let own := fs.entries.reverse.filterMap fun e => (nameIn? directory e.1).map (·,e.2)
  let others := standard.filterMap fun e => (nameIn? directory e.1).map (·,e.2)
  own ++ others.filter fun e => own.all (·.1 != e.1)

def overwrite (contents : List UInt8) (position : Nat) (text : List UInt8) : List UInt8 :=
  contents.take position ++ List.replicate (position - contents.length) 0 ++ text ++
    contents.drop (position + text.length)

end Files
end MatrixHarness.Machine
