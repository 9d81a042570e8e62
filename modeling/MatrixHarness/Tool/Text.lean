import MatrixHarness.Shell.Format
import MatrixHarness.Shell.Pattern
import MatrixHarness.Tool.Basic

/-! # Tools for text

Each tool reads lines or words and prints what it makes of them. -/
namespace MatrixHarness.Tool

open Machine Shell

/-- The options in front of the words of `echo`: whether a line end follows and escapes count. -/
def echoOptions : List (List Char) → Bool × Bool × List (List Char)
  | [] => (true,false,[])
  | w :: ws =>
    match w with
    | '-' :: c :: cs =>
      if (c :: cs).all fun c => c == 'n' || c == 'e' || c == 'E' then
        let (ends,escapes,rest) := echoOptions ws
        (ends && !(c :: cs).contains 'n',escapes || (c :: cs).contains 'e',rest)
      else (true,false,w :: ws)
    | _ => (true,false,w :: ws)

def echo (c : Call) : Doing Nat :=
  let (ends,escapes,ws) := echoOptions c.words
  if escapes then print c (Format.echoWords ends ws)
  else print c (spaced ws ++ if ends then ['\n'] else [])

def printf (c : Call) : Doing Nat := do
  match c.words with
  | [] => missingOperand c
  | format :: rest =>
    let p := Format.printf format rest
    let status ← print c p.printed
    (p.complaints ++ p.fatal.toList).forM (complain c)
    return if p.failed || p.fatal.isSome then failed else status

def numbered (ls : List (List Char)) : List Char :=
  ls.zipIdx.flatMap fun l =>
    let n := digits (l.2 + 1)
    List.replicate (6 - n.length) ' ' ++ n ++ '\t' :: l.1 ++ ['\n']

def cat (c : Call) : Doing Nat :=
  withOptions c { flags := ['n','u'] } fun o => do
    if o.has 'n' then
      let (text,status) ← gather c failed "" o.words
      return max status (← print c (numbered (lines text)))
    else
      eachFile o.words fun file text? => do
        match text? with
        | .ok text => print c text
        | .error e =>
          complain c (aboutFile file e)
          if file == ['-'] && e = .badDescriptor then
            complain c ("closing standard input: ".toList ++ e.plainText.toList)
          return failed

/-- The count that an option tells, `-n` or `-c`, and whether bytes are counted; a number behind a
dash counts lines. -/
def countOf (c : Call) (use : Options → Bool → List Char → Doing Nat) : Doing Nat :=
  let words := match c.words with
    | ('-' :: d :: ds) :: ws => if (d :: ds).all Char.isDigit then ['-','n'] :: (d :: ds) :: ws
      else c.words
    | ws => ws
  withOptions { c with words := words }
      { flags := ['q','v','f','F'], valued := ['n','c'] } fun o =>
    match o.value? 'c', o.value? 'n' with
    | some n, _ => use o true n
    | none, some n => use o false n
    | none, none => use o false ['1','0']

def badCount (c : Call) (bytes : Bool) (n : List Char) : Doing Nat :=
  fail c ("invalid number of ".toList ++ (if bytes then "bytes" else "lines").toList ++
    ": ".toList ++ quoted n)

/-- The first characters of a text up to the end of a number of lines. -/
def takeLines : Nat → List Char → List Char
  | 0, _ => []
  | _ + 1, [] => []
  | n + 1, '\n' :: r => '\n' :: takeLines n r
  | n + 1, c :: r => c :: takeLines (n + 1) r

/-- Uses what files hold, one after another; several files are told apart by a line before each. -/
def eachTitled (c : Call) (enough : List Char → Bool) (files : List (List Char))
    (use : List Char → Doing Nat) : Doing Nat :=
  fromFile false (if files.isEmpty then [['-']] else files)
where
  /-- The title of a file; a blank line parts it from what is above. -/
  title (blank : Bool) (file : List Char) : Doing Unit := do
    if 1 < files.length then
      let name := if file == ['-'] then "standard input".toList else file
      let _ ← print c ((if blank then ['\n'] else []) ++ "==> ".toList ++ name ++ " <==\n".toList)
  fromFile (blank : Bool) : List (List Char) → Doing Nat
    | [] => return succeeded
    | file :: rest => do
      match ← contentsUntil enough file with
      | .ok text =>
        title blank file
        let status ← use text
        return max status (← fromFile true rest)
      | .error e =>
        let what := if e = .isADirectory then "error reading ".toList else "cannot open ".toList
        let behind := if e = .isADirectory then ": ".toList else " for reading: ".toList
        if e = .isADirectory then title blank file
        let status ← fail c (what ++ quotedFile file ++ behind ++ e.plainText.toList)
        return max status (← fromFile (blank || e = .isADirectory) rest)

def head (c : Call) : Doing Nat :=
  countOf c fun o bytes n =>
    let (back,ds) := match n with
      | '-' :: ds => (true,ds)
      | ds => (false,ds)
    match number? ds with
    | none => badCount c bytes n
    | some k =>
      let enough (text : List Char) : Bool :=
        !back && k ≤ if bytes then text.length else text.count '\n'
      eachTitled c enough o.words fun text =>
      let size := if bytes then text.length else (lines text).length
      let k := if back then size - k else k
      print c (if bytes then text.take k else takeLines k text)

def tail (c : Call) : Doing Nat :=
  countOf c fun o bytes n =>
    let (front,ds) := match n with
      | '+' :: ds => (true,ds)
      | '-' :: ds => (false,ds)
      | ds => (false,ds)
    match number? ds with
    | none => badCount c bytes n
    | some k => eachTitled c (fun _ => false) o.words fun text =>
      let size := if bytes then text.length else (lines text).length
      let skipped := if front then k - 1 else size - k
      print c (text.drop (if bytes then skipped else (takeLines skipped text).length))

def wordCount (text : List Char) : Nat := ((text.splitOnP isSpace).filter (!·.isEmpty)).length

def counts (o : Options) (text : List Char) : List Nat :=
  let all := ['l','w','c','m'].all (!o.has ·)
  (if all || o.has 'l' then [text.count '\n'] else []) ++
    (if all || o.has 'w' then [wordCount text] else []) ++
    (if all || o.has 'c' || o.has 'm' then [text.length] else [])

def columns (width : Nat) (ns : List Nat) (name : List Char) : List Char :=
  let padded := ns.map fun n => List.replicate (width - (digits n).length) ' ' ++ digits n
  spaced padded ++ (if name.isEmpty then [] else ' ' :: name) ++ ['\n']

def wc (c : Call) : Doing Nat :=
  withOptions c { flags := ['l','w','c','m'] } fun o => do
    let files := if o.words.isEmpty then [['-']] else o.words
    let parts ← files.mapM fun file => do
      match ← contents file with
      | .error e =>
        complain c (aboutFile file e)
        return (file,none)
      | .ok text => return (file,some (counts o text))
    let found := parts.filterMap fun p => p.2.map fun ns => (p.1,ns)
    let total := found.foldl (fun t p => (t.zipWith (· + ·) p.2)) ((counts o []).map fun _ => 0)
    let width :=
      if total.length = 1 && files.length = 1 then 1
      else if o.words.isEmpty || o.words.contains ['-'] then 7
      else (total.map fun n => (digits n).length).foldl max 1
    let status ← print c (found.flatMap fun p =>
      columns width p.2 (if o.words.isEmpty then [] else p.1))
    if files.length > 1 then
      let _ ← print c (columns width total "total".toList)
    return if found.length = parts.length then status else failed

def tee (c : Call) : Doing Nat :=
  withOptions c { flags := ['a','i'] } fun o => do
    let access : Access :=
      { writes := true, creates := true, truncates := !o.has 'a', appends := o.has 'a' }
    let opened ← o.words.mapM fun file => do
      match ← Doing.openFile (RawText.ofOctets file) access with
      | .ok n => return some n
      | .error e =>
        complain c (aboutFile file e)
        return none
    match ← readAll 0 with
    | .error e => fail c ("-: ".toList ++ e.plainText.toList)
    | .ok text =>
      let status ← print c text
      (opened.filterMap fun v => v).forM fun n => do
        let _ ← Doing.write n (RawText.ofOctets text)
        Doing.close n
      return if opened.all Option.isSome then status else failed

def integer? (w : List Char) : Option Int := wholeNumber? false w

def numbers (first step last : Int) : List Int :=
  if step = 0 then []
  else
    let count := (last - first).fdiv step + 1
    (List.range count.toNat).map fun (k : Nat) => first + step * (k : Int)

def seq (c : Call) : Doing Nat :=
  let run (ws : List (List Char)) (between : List Char) : Doing Nat := do
    match ws.drop 3, ws.find? fun w => (integer? w).isNone with
    | w :: _, _ => misused c failed ("extra operand ".toList ++ quoted w)
    | [], some w => misused c failed ("invalid floating point argument: ".toList ++ quoted w)
    | [], none =>
      let shown (ns : List Int) : List Char :=
        if ns.isEmpty then [] else joined between (ns.map integerText) ++ ['\n']
      match ws.filterMap integer? with
      | [last] => print c (shown (numbers 1 1 last))
      | [first,last] => print c (shown (numbers first 1 last))
      | [first,step,last] =>
        if step = 0 then misused c failed "invalid Zero increment value: '0'".toList
        else print c (shown (numbers first step last))
      | _ => missingOperand c
  match c.words with
  | ['-','s'] :: between :: ws => run ws between
  | ('-' :: 's' :: between) :: ws => run ws between
  | ws => run ws ['\n']

def setOf : List Char → List Char
  | '[' :: ':' :: r =>
    let name := r.takeWhile (· != ':')
    ((List.range 256).map Char.ofNat).filter fun c =>
      (Pattern.intervalsOf name).any fun i => i.1 ≤ c && c ≤ i.2
  | s => ranges s
where
  /-- A dash between two characters stands for all between them. -/
  ranges : List Char → List Char
    | a :: '-' :: b :: r =>
      ((List.range (b.toNat + 1 - a.toNat)).map fun k => Char.ofNat (a.toNat + k)) ++ ranges r
    | '\\' :: c :: r => ((Format.letterChar? c).getD c) :: ranges r
    | c :: r => c :: ranges r
    | [] => []

def squeeze (set : List Char) : List Char → List Char
  | a :: b :: r =>
    if a == b && set.contains a then squeeze set (b :: r) else a :: squeeze set (b :: r)
  | r => r

def tr (c : Call) : Doing Nat :=
  withOptions c { flags := ['d','s','c','C'], ordered := true } fun o => do
    match o.words with
    | [] => missingOperand c
    | first :: rest =>
      let named := setOf first
      let isIn (c : Char) : Bool := named.contains c != (o.has 'c' || o.has 'C')
      match ← readAll 0 with
      | .error e => fail c ("read error: ".toList ++ e.plainText.toList)
      | .ok text =>
        if o.has 'd' then print c (text.filter (!isIn ·))
        else
          match rest with
          | [] =>
            if o.has 's' then print c (squeeze (text.filter isIn) text)
            else missingOperand c
          | second :: _ =>
            let targets := setOf second
            let replaced := text.map fun c =>
              if !isIn c then c
              else
                let i := if named.contains c then named.idxOf c else targets.length
                (targets[i]?.orElse fun _ => targets.getLast?).getD c
            print c (if o.has 's' then squeeze targets replaced else replaced)

/-- The number at the front of a line, by which lines are sorted on demand. -/
def leadingNumber (line : List Char) : Int :=
  let line := line.dropWhile isSpace
  let (negative,line) := match line with
    | '-' :: r => (true,r)
    | r => (false,r)
  let n := (number? (line.takeWhile Char.isDigit)).getD 0
  if negative then -(n : Int) else n

def distinct : List (List Char) → List (List Char)
  | a :: b :: r => if a == b then distinct (b :: r) else a :: distinct (b :: r)
  | r => r

def sort (c : Call) : Doing Nat :=
  withOptions c { flags := ['r','n','u'] } fun o => do
    let (text,status) ← gather c 2 "cannot read: " o.words
    let before (a b : List Char) : Bool :=
      let x := leadingNumber a
      let y := leadingNumber b
      if o.has 'n' && x != y then decide (x ≤ y)
      else decide (String.ofList a ≤ String.ofList b)
    let sorted := (lines text).mergeSort before
    let sorted := if o.has 'u' then distinct sorted else sorted
    let printed ← print c (unlines (if o.has 'r' then sorted.reverse else sorted))
    return max status printed

def runs : List (List Char) → List (Nat × List Char)
  | [] => []
  | l :: ls =>
    match runs ls with
    | (n,m) :: r => if l == m then (n + 1,m) :: r else (1,l) :: (n,m) :: r
    | [] => [(1,l)]

def uniq (c : Call) : Doing Nat :=
  withOptions c { flags := ['c','d','u'] } fun o => do
    let (text,status) ← gather c failed "" (o.words.take 1)
    let kept := (runs (lines text)).filter fun r =>
      (!o.has 'd' || r.1 > 1) && (!o.has 'u' || r.1 == 1)
    let printed ← print c (kept.flatMap fun r =>
      (if o.has 'c' then
        List.replicate (7 - (digits r.1).length) ' ' ++ digits r.1 ++ [' '] else []) ++
        r.2 ++ ['\n'])
    return max status printed

/-- Prints a line again and again, until no one reads it. -/
def repeatLine (text : RawText) : Nat → Doing Nat
  | 0 => return succeeded
  | fuel + 1 => do
    match ← Doing.write 1 text with
    | .error _ => return failed
    | .ok () => repeatLine text fuel

def yes (c : Call) : Doing Nat :=
  let line := (if c.words.isEmpty then ['y'] else spaced c.words) ++ ['\n']
  repeatLine (RawText.ofOctets (List.replicate 1000 line).flatten) longestFile

def withoutSlashes (path : List Char) : List Char :=
  (path.reverse.dropWhile (· == '/')).reverse

def basename (c : Call) : Doing Nat := do
  match c.words with
  | [] => missingOperand c
  | path :: rest =>
    let bare := withoutSlashes path
    let name := (bare.reverse.takeWhile (· != '/')).reverse
    let name := if bare.isEmpty && !path.isEmpty then ['/'] else name
    let ending := rest.headD []
    let cut :=
      if !ending.isEmpty && ending.isSuffixOf name && ending != name then
        name.take (name.length - ending.length)
      else name
    print c (cut ++ ['\n'])

def dirname (c : Call) : Doing Nat := do
  match c.words with
  | [] => missingOperand c
  | ws => print c (ws.flatMap fun path =>
      let bare := withoutSlashes path
      let directory := withoutSlashes (bare.reverse.dropWhile (· != '/')).reverse
      let shown : List Char :=
        if bare.contains '/' then if directory.isEmpty then ['/'] else directory
        else if bare.isEmpty && !path.isEmpty then ['/'] else ['.']
      shown ++ ['\n'])

end MatrixHarness.Tool
