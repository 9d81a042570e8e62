import MatrixHarness.Shell.Builtin.Options

/-! # Commands about variables

Each command gets the words behind its name and answers with its status. -/
namespace MatrixHarness.Shell.Builtin

def listed (before : List Char) (v : Variable) : List Char :=
  before ++ v.name ++ (match v.value with
    | some value => '=' :: singleQuote value
    | none => []) ++ ['\n']

def byName (vs : List Variable) : List Variable :=
  vs.mergeSort fun a b => String.ofList a.name ≤ String.ofList b.name

def badName {α : Type} (name : List Char) : Sh α := fail (name ++ ": bad variable name".toList)

def mark (change : Variable → Variable) (words : List (List Char)) : Sh Unit :=
  words.forM fun w => do
    let (name,value) := nameAndValue w
    if !isName name then badName name
    else
      match value with
      | some value => assign name value
      | none => pure ()
      modify fun s => s.put (change ((s.named? name).getD { name := name }))

def markCommand (name : String) (marked : Variable → Bool) (change : Variable → Variable)
    (words : List (List Char)) : Sh Nat := do
  let g ← given ['p'] [] words
  if g.words.isEmpty || g.has 'p' then
    let s ← get
    let lines := (byName (s.bindings.filter marked)).map (listed (name.toList ++ [' ']))
    say 1 lines.flatten
  else mark change g.words
  return 0

def exportAll : List (List Char) → Sh Nat :=
  markCommand "export" (·.exported) fun v => { v with exported := true }

def readonly : List (List Char) → Sh Nat :=
  markCommand "readonly" (·.fixed) fun v => { v with fixed := true }

def unset (words : List (List Char)) : Sh Nat := do
  let g ← given ['v','f'] [] words
  g.words.forM fun name => do
    let s ← get
    if g.has 'f' then
      set { s with functions := s.functions.filter (·.1 != name) }
    else if !isName name then badName name
    else
      heed name []
      modify fun s => { s with bindings := s.bindings.filter (·.name != name) }
  return 0

def makeLocal (words : List (List Char)) : Sh Nat := do
  words.forM fun w => do
    let s ← get
    match s.locals with
    | [] => failWith "not in a function"
    | here :: outer =>
      let (name,value) := nameAndValue w
      if w == ['-'] then pure ()
      else if !isName name then badName name
      else
        if !here.any (·.1 == name) then
          set { s with locals := ((name,s.named? name) :: here) :: outer }
        match value with
        | some value => assign name value
        | none => pure ()
  return 0

/-- The options of a shell by their names.  The last two have letters that cannot be typed. -/
def optionNames : List (String × Char) :=
  [("errexit",'e'),("noglob",'f'),("ignoreeof",'I'),("interactive",'i'),("monitor",'m'),
   ("noexec",'n'),("stdin",'s'),("xtrace",'x'),("verbose",'v'),("vi",'V'),("emacs",'E'),
   ("noclobber",'C'),("allexport",'a'),("notify",'b'),("nounset",'u'),
   ("privileged",'p'),("nolog",'\x01'),("debug",'\x02')]

def setOption (on : Bool) (letter : Char) : Sh Unit := modify fun s =>
  let rest := s.options.filter (· != letter)
  { s with options := if on then rest ++ [letter] else rest }

def optionList (s : State) : List Char :=
  "Current option settings\n".toList ++ optionNames.flatMap fun o =>
    o.1.toList ++ List.replicate (16 - o.1.length) ' ' ++
      (if s.hasOption o.2 then "on" else "off").toList ++ ['\n']

def optionWords (s : State) : List Char :=
  optionNames.flatMap fun o =>
    "set ".toList ++ (if s.hasOption o.2 then '-' else '+') :: "o ".toList ++ o.1.toList ++ ['\n']

/-- Sets an option by its name, the first word; without a name all options are told. -/
def setNamed (on : Bool) : List (List Char) → Sh (List (List Char))
  | [] => do
    let s ← get
    say 1 (if on then optionList s else optionWords s)
    return []
  | name :: ws =>
    match optionNames.find? fun o => o.1.toList == name with
    | some o => do
      setOption on o.2
      return ws
    | none => fail ("Illegal option -o ".toList ++ name)

/-- Sets the options that letters tell, and answers with the words that are left; some letters are
of no account. -/
def setLetters (on : Bool) (idle : List Char) :
    List Char → List (List Char) → Sh (List (List Char))
  | [], ws => return ws
  | c :: cs, ws => do
    if c == 'o' then setLetters on idle cs (← setNamed on ws)
    else
      if idle.contains c then pure ()
      else if c.isAlpha && optionNames.any (·.2 == c) then setOption on c
      else fail ("Illegal option -".toList ++ [c])
      setLetters on idle cs ws

/-- Sets options; what is left are arguments, if there were two dashes or any words. -/
def setWords : Nat → List (List Char) → Sh (Option (List (List Char)))
  | 0, ws => return some ws
  | _ + 1, [] => return none
  | fuel + 1, w :: ws => do
    match w with
    | ['-','-'] => return some ws
    | ['-'] => do
      setOption false 'x'
      setOption false 'v'
      return if ws.isEmpty then none else some ws
    | sign :: c :: cs =>
      if sign == '-' || sign == '+' then
        setWords fuel (← setLetters (sign == '-') [] (c :: cs) ws)
      else return some (w :: ws)
    | w => return some (w :: ws)

def setAll (words : List (List Char)) : Sh Nat := do
  if words.isEmpty then
    say 1 ((byName (← get).bindings).flatMap fun v =>
      if v.value.isSome then listed [] v else [])
  else
    match ← setWords (words.length + 1) words with
    | some arguments => modify fun s => { s with arguments := arguments, walk := {} }
    | none => pure ()
  return 0

def shift (words : List (List Char)) : Sh Nat := do
  let n ← match words with
    | [] => pure 1
    | w :: _ => natural w
  let s ← get
  if s.arguments.length < n then failWith "can't shift that many"
  else
    set { s with arguments := s.arguments.drop n, walk := {} }
    return 0

/-- Splits a line for several variables; the last one gets all that is left.  A covered character
does not split. -/
def splitLine (separators : List Char) : Nat → List (Bool × Char) → List (List Char)
  | 0, _ => []
  | n + 1, line =>
    let isBlank (g : Bool × Char) : Bool := !g.1 && separators.contains g.2 && isSpace g.2
    let parts (g : Bool × Char) : Bool := !g.1 && separators.contains g.2
    let line := line.dropWhile isBlank
    if n = 0 then [((line.reverse.dropWhile isBlank).reverse).map (·.2)]
    else
      let word := line.takeWhile (!parts ·)
      let rest := (line.dropWhile (!parts ·)).dropWhile isBlank
      let rest := match rest with
        | g :: r => if parts g then r else g :: r
        | [] => []
      word.map (·.2) :: splitLine separators n rest

/-- The characters of a line, each with whether a backslash covers it, and whether the line was
ended.  A backslash before a line end takes it away. -/
def readCovered (plain : Bool) : Nat → Sh (List (Bool × Char) × Bool)
  | 0 => return ([],false)
  | fuel + 1 => do
    match ← act (.read 0 1) with
    | .error _ => return ([],false)
    | .ok text =>
      match text.octets with
      | [] => return ([],false)
      | c :: _ =>
        if c == '\n' then return ([],true)
        else if c == '\\' && !plain then
          match ← act (.read 0 1) with
          | .error _ => return ([],false)
          | .ok text =>
            match text.octets with
            | [] => return ([],false)
            | '\n' :: _ => readCovered plain fuel
            | d :: _ =>
              let p ← readCovered plain fuel
              return ((true,d) :: p.1,p.2)
        else if c == '\x00' then readCovered plain fuel
        else
          let p ← readCovered plain fuel
          return ((false,c) :: p.1,p.2)

def longestLine : Nat := 1000000

def read (words : List (List Char)) : Sh Nat := do
  let g ← given ['r'] ['p'] words
  if g.words.isEmpty then failWith "arg count"
  else
    let (line,ended) ← readCovered (g.has 'r') longestLine
    let texts := splitLine (← get).separators g.words.length line
    (g.words.zipIdx).forM fun w =>
      if isName w.1 then assign w.1 ((texts[w.2]?).getD []) else badName w.1
    return if ended then 0 else 1

def setAliases (words : List (List Char)) : Sh Nat := do
  let shown (a : List Char × List Char) : List Char := a.1 ++ '=' :: singleQuote a.2 ++ ['\n']
  if words.isEmpty then
    say 1 ((← get).aliases.flatMap shown)
    return 0
  else
    let results ← words.mapM fun w => do
      let s ← get
      match nameAndValue w with
      | (name,some value) =>
        set { s with aliases := (name,value) :: s.aliases.filter (·.1 != name) }
        return 0
      | (name,none) =>
        match s.aliases.find? (·.1 == name) with
        | some a =>
          say 1 (shown a)
          return 0
        | none =>
          say 2 ("alias: ".toList ++ name ++ " not found\n".toList)
          return 1
    return results.foldl max 0

def dropAliases (words : List (List Char)) : Sh Nat := do
  let g ← given ['a'] [] words
  if g.has 'a' then
    modify fun s => { s with aliases := [] }
    return 0
  else
    let results ← g.words.mapM fun name => do
      let s ← get
      if s.aliases.any (·.1 == name) then
        set { s with aliases := s.aliases.filter (·.1 != name) }
        return 0
      else
        say 2 ("unalias: ".toList ++ name ++ " not found\n".toList)
        return 1
    return results.foldl max 0

end MatrixHarness.Shell.Builtin
