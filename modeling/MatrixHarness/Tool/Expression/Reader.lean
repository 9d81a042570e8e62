import MatrixHarness.Tool.Expression

/-! # Reading expressions

The written form of an expression.  In the plain form a backslash makes signs of brackets, bars and
counts; in the extended form it takes that meaning from them. -/
namespace MatrixHarness.Tool.Expression

open Shell

/-- What is left of the text, and how many groups there were. -/
structure Source where
  rest : List Char
  groups : Nat := 0
  /-- The groups that have been closed. -/
  closed : List Nat := []

abbrev Reading := StateT Source (Except String)

def complaint {α : Type} (text : String) : Reading α := fun _ => .error text

def peek : Reading (List Char) := return (← get).rest

def goTo (rest : List Char) : Reading Unit := modify fun s => { s with rest := rest }

/-- A sign at the front of a text, and the text behind it. -/
def sign? (extended : Bool) : List Char → Option (Char × List Char)
  | '\\' :: c :: r =>
    if !extended && c ∈ ['(',')','|','\x7b','\x7d','+','?'] then some (c,r) else none
  | c :: r => if extended && c ∈ ['(',')','|','\x7b','\x7d','+','?'] then some (c,r) else none
  | [] => none

def setOf? (c : Char) : Option Atom :=
  let letters := ('_','_') :: Pattern.intervalsOf "alnum".toList
  let blanks := Pattern.intervalsOf "space".toList
  match c with
  | 'w' => some (.among false letters)
  | 'W' => some (.among true letters)
  | 's' => some (.among false blanks)
  | 'S' => some (.among true blanks)
  | _ => none

def edgeOf? (c : Char) : Option Edge :=
  match c with
  | '<' => some .wordStart
  | '>' => some .wordEnd
  | 'b' => some .wordEdge
  | 'B' => some .noWordEdge
  | _ => none

def bracketed (r : List Char) : Reading Expression := do
  let negated := r.head? == some '^'
  let inside := (if negated then r.tail else r).map fun c => (false,c)
  match Pattern.intervals? (r.length + 1) true inside with
  | none => complaint "Invalid regular expression"
  | some (is,rest) =>
    if is.any fun i => i.2 < i.1 then complaint "Invalid range end"
    else
      goTo (rest.map (·.2))
      return one (.among negated is)

/-- What stands for one character or one place; the backslash is gone. -/
def covered (c : Char) (r : List Char) : Reading Expression := do
  goTo r
  match setOf? c, edgeOf? c with
  | some a, _ => return one a
  | none, some e => return edge e
  | none, none =>
    if c.isDigit && c != '0' then
      let n := c.toNat - '0'.toNat
      if !(← get).closed.contains n then complaint "Invalid back reference" else return again n
    else return one (.char c)

/-- The counts behind an opening brace, and what is behind the closing one; none if they are
none. -/
def counts? (extended : Bool) (r : List Char) : Option (Nat × Option Nat × List Char) :=
  let least := (r.takeWhile Char.isDigit)
  let close (n : Nat) (m : Option Nat) (s : List Char) : Option (Nat × Option Nat × List Char) :=
    match sign? extended s with
    | some ('\x7d',s) => some (n,m,s)
    | _ => none
  match r.dropWhile Char.isDigit with
  | ',' :: s =>
    let most := s.takeWhile Char.isDigit
    close ((number? least).getD 0) (number? most) (s.dropWhile Char.isDigit)
  | s => (number? least).bind fun n => close n (some n) s

def counted (extended : Bool) : Nat → Expression → Reading Expression
  | 0, e => return e
  | fuel + 1, e => do
    match ← peek with
    | '*' :: r =>
      goTo r
      counted extended fuel (several 0 none e)
    | s =>
      match sign? extended s with
      | some ('+',r) =>
        goTo r
        counted extended fuel (several 1 none e)
      | some ('?',r) =>
        goTo r
        counted extended fuel (several 0 (some 1) e)
      | some ('\x7b',r) =>
        match counts? extended r with
        | some (n,m,r) =>
          if m.any (· < n) then complaint "Invalid content of \\\x7b\\\x7d"
          else
            goTo r
            counted extended fuel (several n m e)
        | none => if extended then return e else complaint "Unmatched \\\x7b"
      | _ => return e

def behindCount? : List Char → Option (List Char)
  | '*' :: r => some r
  | '+' :: r => some r
  | '?' :: r => some r
  | '\x7b' :: r => (counts? true r).map (·.2.2)
  | _ => none

def endsBehind (extended : Bool) (r : List Char) : Bool :=
  extended || r.isEmpty || ((sign? extended r).any fun p => p.1 == ')' || p.1 == '|')

mutual

def alternatives (extended : Bool) : Nat → Bool → Reading Expression
  | 0, _ => complaint "Regular expression too big"
  | fuel + 1, inside => do
    let e ← pieces extended fuel inside true
    match sign? extended (← peek) with
    | some ('|',r) =>
      goTo r
      return either e (← alternatives extended fuel inside)
    | _ => return e

/-- Expressions one behind another; at the start some signs stand for themselves. -/
def pieces (extended : Bool) : Nat → Bool → Bool → Reading Expression
  | 0, _, _ => complaint "Regular expression too big"
  | fuel + 1, inside, start => do
    match ← peek with
    | [] => return nothing
    | c :: r =>
      match sign? extended (c :: r) with
      | some ('|',_) => return nothing
      | some (')',r) =>
        if inside then return nothing
        else if extended then
          goTo r
          piece extended fuel inside (one (.char ')'))
        else complaint "Unmatched ) or \\)"
      | some ('(',r) =>
        let n := (← get).groups + 1
        modify fun s => { s with rest := r, groups := n }
        let e ← alternatives extended fuel true
        match sign? extended (← peek) with
        | some (')',r) =>
          modify fun s => { s with rest := r, closed := n :: s.closed }
          piece extended fuel inside (group n e)
        | _ => complaint "Unmatched ( or \\("
      | _ =>
        if c == '^' && (extended || start) then
          goTo r
          if extended then piece extended fuel inside (edge .front)
          else return sequence (edge .front) (← pieces extended fuel inside true)
        else if c == '$' && endsBehind extended r then
          goTo r
          piece extended fuel inside (edge .ending)
        else if start && extended && (behindCount? (c :: r)).isSome then
          goTo ((behindCount? (c :: r)).getD r)
          pieces extended fuel inside true
        else if start && !extended && c == '*' then
          goTo r
          piece extended fuel inside (one (.char c))
        else if c == '.' then
          goTo r
          piece extended fuel inside (one .one)
        else if c == '[' then
          let e ← bracketed r
          piece extended fuel inside e
        else if c == '\\' then
          match r with
          | [] => complaint "Trailing backslash"
          | d :: r =>
            let e ← covered d r
            piece extended fuel inside e
        else
          goTo r
          piece extended fuel inside (one (.char c))

/-- An expression with its counts, and those behind it. -/
def piece (extended : Bool) : Nat → Bool → Expression → Reading Expression
  | 0, _, _ => complaint "Regular expression too big"
  | fuel + 1, inside, e => do
    let e ← counted extended fuel e
    return sequence e (← pieces extended fuel inside false)

end

def read (extended : Bool) (text : List Char) : Except String Expression :=
  ((alternatives extended (4 * text.length + 8) false).run { rest := text }).map (·.1)

end MatrixHarness.Tool.Expression
