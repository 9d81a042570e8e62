import MatrixHarness.Shell.Source

/-! # The words of a script

A script as words, operators and line ends.  Blanks part words, quotes and backslashes take the
meaning from the characters they cover, and a dollar begins what is put in later.  Commands inside a
word are read by the reader of commands, which is a parameter here. -/
namespace MatrixHarness.Shell

open Reading

/-- How commands inside a word are read: up to a closing parenthesis, or up to the end. -/
structure Inner where
  closed : Reading Command
  whole : Reading Command

/-- In what a stretch of text stands. -/
inductive Place where
  | bare
  | doubleQuotes
  | braces
  | quotedBraces
  /-- A calculation, with the parentheses that are open. -/
  | calculation (opened : Nat)
  /-- A text on lines of its own. -/
  | lines
  deriving DecidableEq

def Place.quoted : Place → Bool
  | bare => false
  | braces => false
  | _ => true

def endsWord (c : Char) : Bool := c ∈ [' ','\t','\n',';','&','|','(',')','<','>']

/-- The characters that a backslash covers; before others it stands for itself. -/
def Place.covers : Place → Char → Bool
  | bare, _ => true
  | braces, _ => true
  | doubleQuotes, c => c ∈ ['$','\x60','\x22','\\']
  | quotedBraces, c => c ∈ ['$','\x60','\x22','\\','\x7d']
  | calculation _, c => c ∈ ['$','\x60','\x22','\\']
  | lines, c => c ∈ ['$','\x60','\\']

def missingBrace : String := "Syntax error: Missing '\x7d'"
def missingQuote : String := "Syntax error: Unterminated quoted string"

/-- What is wrong if the script, or a text on lines of its own, ends at a place. -/
def Place.unclosed? (inLines : Bool) : Place → Option String
  | bare => none
  | doubleQuotes => some (if inLines then missingBrace else missingQuote)
  | braces => some missingBrace
  | quotedBraces => some (if inLines then missingBrace else missingQuote)
  | calculation _ => some "Syntax error: Missing '))'"
  | lines => none

def special? (c : Char) : Option Parameter :=
  if c = '*' then some .together
  else if c = '@' then some .each
  else if c = '#' then some .count
  else if c = '?' then some .status
  else if c = '$' then some .self
  else if c = '!' then some .background
  else if c = '-' then some .options
  else if c.isDigit then some (.argument (c.toNat - '0'.toNat))
  else none

/-- The name or number of a parameter between braces, if one stands here. -/
def namedParameter? : Reading (Option Parameter) := do
  match ← peek with
  | none => return none
  | some c =>
    if isNameStart c then return some (.variable (← takeJoined isNameRest))
    else if c.isDigit then return (number? (← takeJoined Char.isDigit)).map .argument
    else
      match special? c with
      | none => return none
      | some p =>
        skip
        return some p

/-- Whether the value's length is asked for: a number sign that is not itself the parameter. -/
def asksLength (s : List Char) : Bool :=
  match s with
  | '#' :: c :: d :: _ => c.isAlphanum || c == '_' || ((special? c).isSome && d == '\x7d')
  | _ => false

/-- The text of a command between backquotes, in which backslashes cover backquotes. -/
def backquoted (quoted : Bool) : Nat → Reading (List Char)
  | 0 => tooDeep
  | fuel + 1 => do
    match ← peek with
    | none => fail "Syntax error: EOF in backquote substitution"
    | some '\x60' =>
      skip
      return []
    | some '\\' =>
      skip
      match ← peek with
      | none => return '\\' :: (← backquoted quoted fuel)
      | some c =>
        skip
        if c == '\n' then backquoted quoted fuel
        else if c ∈ ['\\','\x60','$'] || (quoted && c == '\x22') then
          return c :: (← backquoted quoted fuel)
        else return '\\' :: c :: (← backquoted quoted fuel)
    | some c =>
      skip
      return c :: (← backquoted quoted fuel)

def singleQuoted : Reading (List Char) := do
  let cs ← takeWhile (· != '\x27')
  match ← peek with
  | none => fail missingQuote
  | some _ =>
    skip
    return cs

/-- How a substitute is told, and whether an empty value counts as none. -/
def substitute? : List Char → Option (Substitute × Bool × Nat)
  | '-' :: _ => some (.default,false,1)
  | '=' :: _ => some (.assigned,false,1)
  | '?' :: _ => some (.complaint,false,1)
  | '+' :: _ => some (.alternative,false,1)
  | ':' :: '-' :: _ => some (.default,true,2)
  | ':' :: '=' :: _ => some (.assigned,true,2)
  | ':' :: '?' :: _ => some (.complaint,true,2)
  | ':' :: '+' :: _ => some (.alternative,true,2)
  | _ => none

def trim? : List Char → Option (Bool × Bool × Nat)
  | '%' :: '%' :: _ => some (true,true,2)
  | '%' :: _ => some (true,false,1)
  | '#' :: '#' :: _ => some (false,true,2)
  | '#' :: _ => some (false,false,1)
  | _ => none

def drop (n : Nat) : Reading Unit := modify fun s => { s with rest := s.rest.drop n }

mutual

def stretches (inner : Inner) : Nat → Place → Reading Word
  | 0, _ => tooDeep
  | fuel + 1, at' => do
    skipJoins
    match ← peek with
    | none =>
      let s ← get
      match at'.unclosed? s.below.isSome with
      | none => return []
      | some complaint =>
        set { s with line := s.line + s.below.getD 0 }
        fail complaint
    | some c =>
      if at' = .bare && endsWord c then return []
      else if at' = .doubleQuotes && c == '\x22' then
        skip
        return []
      else if (at' = .braces || at' = .quotedBraces) && c == '\x7d' then
        skip
        return []
      else
        skip
        if c == '\\' then
          match ← peek with
          | none => return [.text true ['\\']]
          | some d =>
            if at'.covers d then
              skip
              return .text true [d] :: (← stretches inner fuel at')
            else return .text at'.quoted ['\\'] :: (← stretches inner fuel at')
        else if c == '$' && !(← get).inMark then
          let w ← dollar inner fuel at'.quoted
          return w ++ (← stretches inner fuel at')
        else if c == '\x60' && !(← get).inMark then
          let text ← backquoted at'.quoted fuel
          let command ← within text inner.whole
          return .output at'.quoted command :: (← stretches inner fuel at')
        else
          match at' with
          | .calculation opened =>
            if c == '(' then
              return .text true [c] :: (← stretches inner fuel (.calculation (opened + 1)))
            else if c == ')' then
              match opened with
              | n + 1 => return .text true [c] :: (← stretches inner fuel (.calculation n))
              | 0 =>
                if ← skipIf [')'] then return []
                else return .text true [c] :: (← stretches inner fuel at')
            else return .text true [c] :: (← stretches inner fuel at')
          | .lines => return .text true [c] :: (← stretches inner fuel at')
          | .doubleQuotes => return .text true [c] :: (← stretches inner fuel at')
          | _ =>
            if c == '\x22' then
              let w ← stretches inner fuel .doubleQuotes
              let w := if w.isEmpty then [.text true []] else w
              return w ++ (← stretches inner fuel at')
            else if c == '\x27' && at' ≠ .quotedBraces then
              let cs ← singleQuoted
              return .text true cs :: (← stretches inner fuel at')
            else return .text at'.quoted [c] :: (← stretches inner fuel at')

def dollar (inner : Inner) : Nat → Bool → Reading Word
  | 0, _ => tooDeep
  | fuel + 1, quoted => do
    if ← skipIf ['('] then
      if ← skipIf ['('] then
        return [.calculation quoted (← stretches inner fuel (.calculation 0))]
      else return [.output quoted (← inner.closed)]
    else if ← skipIf ['\x7b'] then braced inner fuel quoted
    else
      match ← peek with
      | none => return [.text quoted ['$']]
      | some c =>
        if isNameStart c then
          return [.parameter quoted (.variable (← takeJoined isNameRest)) .value]
        else
          match special? c with
          | none => return [.text quoted ['$']]
          | some p =>
            skip
            return [.parameter quoted p .value]

def braced (inner : Inner) : Nat → Bool → Reading Word
  | 0, _ => tooDeep
  | fuel + 1, quoted => do
    skipJoins
    let long := asksLength (← get).rest
    if long then skip
    let place : Place := if quoted then .quotedBraces else .braces
    match ← namedParameter? with
    | none =>
      if (← peek) != some '\x7d' then drop 1
      let _ ← stretches inner fuel place
      return [.parameter quoted .status .wrong]
    | some p =>
      skipJoins
      let rest := (← get).rest
      if rest.head? == some '\x7d' then
        skip
        return [.parameter quoted p (if long then .length else .value)]
      else
        match substitute? rest, trim? rest with
        | some (kind,empty,n), _ =>
          drop n
          let w ← stretches inner fuel place
          return [.parameter quoted p (if long then .wrong else .substitute empty kind w)]
        | none, some (atBack,longest,n) =>
          drop n
          let w ← stretches inner fuel .braces
          return [.parameter quoted p (if long then .wrong else .trimmed atBack longest w)]
        | none, none =>
          if !long && ":\x7d".toList.isPrefixOf rest then
            drop 2
            return .parameter quoted p .value :: (← stretches inner fuel place)
          else
            drop (if long then 0 else if rest.head? == some ':' then 2 else 1)
            let _ ← stretches inner fuel place
            return [.parameter quoted p .wrong]

end

def merged : Word → Word
  | .text q cs :: w =>
    match merged w with
    | .text q' cs' :: w' =>
      if q == q' then .text q (cs ++ cs') :: w' else .text q cs :: .text q' cs' :: w'
    | w' => .text q cs :: w'
  | s :: w => s :: merged w
  | [] => []

def arrow (out : Bool) : Reading Arrow := do
  if out then
    if ← skipIf ['>'] then return .file .append
    else if ← skipIf ['|'] then return .file .forced
    else if ← skipIf ['&'] then return .duplicate
    else return .file .output
  else if ← skipIf ['<'] then
    if ← skipIf ['-'] then return .text true else return .text false
  else if ← skipIf ['>'] then return .file .both
  else if ← skipIf ['&'] then return .duplicate
  else return .file .input

/-- An operator of one character, or of two if it is doubled. -/
def operator (c : Char) : Reading Token := do
  skip
  if c ∈ ['&','|',';'] then
    if ← skipIf [c] then return .operator (String.ofList [c,c])
  return .operator (String.ofList [c])

def skipBlanks : Nat → Reading Unit
  | 0 => return
  | fuel + 1 => do
    skipJoins
    match ← peek with
    | some ' ' => skip; skipBlanks fuel
    | some '\t' => skip; skipBlanks fuel
    | some '#' =>
      let _ ← takeWhile (· != '\n')
    | _ => return

def token (inner : Inner) (fuel : Nat) : Reading Token := do
  skipBlanks fuel
  match ← peekTwo with
  | [] => return .scriptEnd
  | c :: cs =>
    if c == '\n' then
      skip
      return .lineEnd
    else if c ∈ ['&','|',';','(',')'] then operator c
    else if c ∈ ['<','>'] then
      skip
      return .redirect (if c == '>' then 1 else 0) (← arrow (c == '>'))
    else if c.isDigit && (cs == ['<'] || cs == ['>']) then
      skip
      skip
      return .redirect (c.toNat - '0'.toNat) (← arrow (cs == ['>']))
    else return .word (merged (← stretches inner fuel .bare))

/-- A text on lines of its own. -/
structure Block where
  text : List Char := []
  /-- What is behind it, and how many line ends are before that. -/
  rest : List Char := []
  lines : Nat := 0
  /-- Its mark was found. -/
  ended : Bool := false

/-- Whether a line goes on in the next one: a backslash stands at its end that none covers. -/
def goesOn (line : List Char) : Bool := (line.reverse.takeWhile (· == '\\')).length % 2 == 1

/-- The text up to a line that is its mark.  What goes on from the line above is no mark. -/
def linesUpTo (strips joins : Bool) (mark : List Char) : Nat → Bool → List Char → Block
  | 0, _, s => { rest := s }
  | fuel + 1, fresh, s =>
    let line := s.takeWhile (· != '\n')
    let shown := if strips && fresh then line.dropWhile (· == '\t') else line
    let isMark := fresh && shown == mark
    match s.dropWhile (· != '\n') with
    | [] => if isMark then { ended := true } else { text := shown }
    | _ :: r =>
      if isMark then { rest := r, lines := 1, ended := true }
      else
        let fresh := !(joins && goesOn line) || (fresh && line == ['\\'])
        let b := linesUpTo strips joins mark fuel fresh r
        { b with text := shown ++ '\n' :: b.text, lines := b.lines + 1 }

def takeLines (inner : Inner) (fuel : Nat) (strips : Bool) (mark : Word) : Reading Word := do
  let s ← get
  let here := s.rest.takeWhile (· != '\n')
  match s.rest.dropWhile (· != '\n') with
  | [] => return []
  | _ :: behind =>
    let b := linesUpTo strips (!hasQuotes mark) (bareText mark) (behind.length + 1) true behind
    set { s with rest := here ++ '\n' :: b.rest, taken := s.taken + b.lines }
    if hasQuotes mark then return [.text true b.text]
    else
      let s' ← get
      set { s' with line := s.line + s.taken + 1 }
      let w ← within b.text do
        modify fun s => { s with below := some (if b.ended then 1 else 0) }
        stretches inner (fuel + b.text.length) .lines
      set s'
      return merged w

end MatrixHarness.Shell
