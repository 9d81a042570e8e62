import MatrixHarness.Number.Decimal
import MatrixHarness.Number.Places
import MatrixHarness.Shell.Calculation

/-! # Formatted text

Escapes as `echo` and `printf` know them, and the formats of `printf`. -/
namespace MatrixHarness.Shell.Format

def isOctalDigit (c : Char) : Bool := '0' ≤ c && c ≤ '7'

/-- The character with an octal number; only its last eight bits count. -/
def octalChar (ds : List Char) : Char :=
  Char.ofNat (ds.foldl (fun n c => 8 * n + digitValue c) 0 % 256)

def letterChar? (c : Char) : Option Char :=
  match c with
  | 'a' => some '\x07'
  | 'b' => some '\x08'
  | 'e' => some '\x1b'
  | 'f' => some '\x0c'
  | 'n' => some '\n'
  | 'r' => some '\r'
  | 't' => some '\t'
  | 'v' => some '\x0b'
  | '\\' => some '\\'
  | _ => none

/-- The octal digits at the front, three at most. -/
def octalDigits (s : List Char) : List Char := (s.take 3).takeWhile isOctalDigit

/-- The character that an escape stands for, what is behind the backslash being given; and the rest.
A backslash that begins no escape stands for itself. -/
def escape (s : List Char) : Char × List Char :=
  match s with
  | [] => ('\\',[])
  | c :: r =>
    match letterChar? c with
    | some d => (d,r)
    | none =>
      if isOctalDigit c then (octalChar (octalDigits s),s.drop (octalDigits s).length)
      else ('\\',s)

/-- The text of a word with escapes; a zero may stand before octal digits, and nothing is printed
behind `\c`. -/
def unescape : Nat → List Char → List Char × Bool
  | 0, _ => ([],true)
  | _ + 1, [] => ([],true)
  | fuel + 1, '\\' :: r =>
    match r with
    | 'c' :: _ => ([],false)
    | '0' :: ds =>
      let run := octalDigits ds
      let p := unescape fuel (ds.drop run.length)
      (octalChar run :: p.1,p.2)
    | r =>
      let e := escape r
      let p := unescape fuel e.2
      (e.1 :: p.1,p.2)
  | fuel + 1, c :: r =>
    let p := unescape fuel r
    (c :: p.1,p.2)

def unescaped (s : List Char) : List Char × Bool := unescape (s.length + 1) s

def echoWords (ends : Bool) : List (List Char) → List Char
  | [] => if ends then ['\n'] else []
  | w :: ws =>
    let p := unescaped w
    if !p.2 then p.1
    else if ws.isEmpty then p.1 ++ if ends then ['\n'] else []
    else p.1 ++ ' ' :: echoWords ends ws

def echo : List (List Char) → List Char
  | ['-','n'] :: ws => echoWords false ws
  | ws => echoWords true ws

/-- How a value is set in a format. -/
structure Setting where
  left : Bool := false
  plus : Bool := false
  blank : Bool := false
  other : Bool := false
  zeros : Bool := false
  width : Nat := 0
  precision : Option Nat := none

def Setting.fill (f : Setting) (sign text : List Char) (number : Bool) : List Char :=
  let missing := f.width - (sign.length + text.length)
  if f.left then sign ++ text ++ List.replicate missing ' '
  else if f.zeros && number then sign ++ List.replicate missing '0' ++ text
  else List.replicate missing ' ' ++ sign ++ text

/-- A number in a base, with as many digits as are asked for. -/
def Setting.digits (f : Setting) (base : Nat) (n : Nat) : List Char :=
  let ds := if n = 0 && f.precision = some 0 then [] else Nat.toDigits base n
  List.replicate (f.precision.getD 1 - ds.length) '0' ++ ds

def Setting.number (f : Setting) (kind : Char) (n : Int) : List Char :=
  let f := if f.precision.isSome then { f with zeros := false } else f
  let bits := (n % 18446744073709551616).toNat
  let sign : List Char :=
    if n < 0 then ['-'] else if f.plus then ['+'] else if f.blank then [' '] else []
  match kind with
  | 'u' => f.fill [] (f.digits 10 bits) true
  | 'o' =>
    let ds := f.digits 8 bits
    f.fill [] (if f.other && ds.head? != some '0' then '0' :: ds else ds) true
  | 'x' => f.fill (if f.other && bits != 0 then ['0','x'] else []) (f.digits 16 bits) true
  | 'X' =>
    f.fill (if f.other && bits != 0 then ['0','X'] else [])
      ((f.digits 16 bits).map Char.toUpper) true
  | _ => f.fill sign (f.digits 10 n.natAbs) true

def Setting.text (f : Setting) (s : List Char) : List Char :=
  f.fill [] (match f.precision with
    | some n => s.take n
    | none => s) false

/-- What was printed so far, the words that are left, the complaints, and whether all is over. -/
structure Progress where
  words : List (List Char)
  printed : List Char := []
  complaints : List (List Char) := []
  /-- The complaint after which nothing more is printed. -/
  fatal : Option (List Char) := none
  /-- A word was used. -/
  used : Bool := false
  ended : Bool := false
  failed : Bool := false

def Progress.print (text : List Char) (p : Progress) : Progress :=
  { p with printed := p.printed ++ text }

def Progress.word (p : Progress) : Option (List Char) × Progress :=
  (p.words.head?,{ p with words := p.words.tail, used := p.used || !p.words.isEmpty })

/-- A sign at the front of a text, and the rest. -/
def sign : List Char → Bool × List Char
  | '-' :: r => (true,r)
  | '+' :: r => (false,r)
  | r => (false,r)

/-- What is wrong with a number, if something stands behind it or it is too large. -/
def complaint? (rest : List Char) (fits : Bool) : Option String :=
  if !rest.isEmpty then some "not completely converted"
  else if !fits then some "Numerical result out of range"
  else none

def greatestUnsigned : Int := 18446744073709551615

/-- The number that a word tells, and what is wrong with it. -/
def numberOf (unsigned : Bool) (w : List Char) : Int × Option String :=
  match w with
  | '\x22' :: c :: _ => ((c.toNat : Int),none)
  | '\x27' :: c :: _ => ((c.toNat : Int),none)
  | w =>
    let (negative,t) := sign (w.dropWhile isSpace)
    match numeral t with
    | none => (0,some "expected numeric value")
    | some (n,rest) =>
      let value : Int := if negative then -(n : Int) else n
      let (least,greatest) :=
        if unsigned then (-greatestUnsigned,greatestUnsigned) else (leastNumber,greatestNumber)
      let bounded :=
        if unsigned && value < least then greatest else max least (min value greatest)
      (bounded,complaint? rest (least ≤ value && value ≤ greatest))

/-- A number with a point. -/
structure Fraction where
  negative : Bool := false
  numerator : Nat := 0
  denominator : Nat := 1

/-- The number with a point that a word tells, and what is wrong with it. -/
def fractionOf (w : List Char) : Fraction × Option String :=
  match w with
  | '\x22' :: c :: _ => ({ numerator := c.toNat },none)
  | '\x27' :: c :: _ => ({ numerator := c.toNat },none)
  | w =>
    let (negative,t) := sign (w.dropWhile isSpace)
    match Number.decimal? t with
    | none => ({},some "expected numeric value")
    | some ((n,e),rest) =>
      match Binary64.ofDecimal? negative n e with
      | none => ({ negative := negative },complaint? rest false)
      | some x =>
        let (num,den) := Binary64.scaled x.mantissa 2 x.exponent
        (⟨negative,num,den⟩,complaint? rest true)

def Setting.fraction (f : Setting) (kind : Char) (x : Fraction) : List Char :=
  let sign : List Char :=
    if x.negative then ['-'] else if f.plus then ['+'] else if f.blank then [' '] else []
  let size := f.precision.getD 6
  let text := match kind.toLower with
    | 'e' => Number.withExponent f.other size x.numerator x.denominator
    | 'g' => Number.generally f.other size x.numerator x.denominator
    | _ => Number.plainly f.other size x.numerator x.denominator
  f.fill sign (if kind.isUpper then text.map Char.toUpper else text) true

/-- The next word, read in some way; one that is not there counts as nothing. -/
def Progress.value {α : Type} (none' : α) (read : List Char → α × Option String) (p : Progress) :
    α × Progress :=
  match p.word with
  | (none,p) => (none',p)
  | (some w,p) =>
    match read w with
    | (a,none) => (a,p)
    | (a,some what) =>
      let complaint := w ++ ": ".toList ++ what.toList
      (a,{ p with complaints := p.complaints ++ [complaint], failed := true })

def Progress.number (unsigned : Bool) (p : Progress) : Int × Progress :=
  p.value 0 (numberOf unsigned)

def flags : Setting → List Char → Setting × List Char
  | f, '-' :: r => flags { f with left := true } r
  | f, '+' :: r => flags { f with plus := true } r
  | f, ' ' :: r => flags { f with blank := true } r
  | f, '#' :: r => flags { f with other := true } r
  | f, '0' :: r => flags { f with zeros := true } r
  | f, r => (f,r)

def size (s : List Char) (p : Progress) : Option Int × List Char × Progress :=
  match s with
  | '*' :: r =>
    let (n,p) := p.number false
    (some n,r,p)
  | s =>
    let ds := s.takeWhile Char.isDigit
    (if ds.isEmpty then none else (number? ds).map Int.ofNat,s.drop ds.length,p)

/-- The setting at the front of a conversion, and the rest. -/
def setting (s : List Char) (p : Progress) : Setting × List Char × Progress :=
  let (f,s) := flags {} s
  let (width,s,p) := size s p
  let f := match width with
    | some n => { f with width := n.natAbs, left := f.left || n < 0 }
    | none => f
  match s with
  | '.' :: r =>
    let (n,r,p) := size r p
    ({ f with precision := if n.getD 0 < 0 then none else some (n.getD 0).toNat },r,p)
  | s => (f,s,p)

def convert (s : List Char) (p : Progress) : List Char × Progress :=
  let (f,rest,p) := setting s p
  match rest with
  | [] => ([],{ p with fatal := some "missing format character".toList, ended := true })
  | c :: r =>
    if c == '%' && rest.length = s.length then (r,p.print ['%'])
    else if c == 'c' then
      let (w,p) := p.word
      (r,p.print (f.fill [] [((w.getD []).head?).getD '\x00'] false))
    else if c == 's' then
      let (w,p) := p.word
      (r,p.print (f.text (w.getD [])))
    else if c == 'b' then
      let (w,p) := p.word
      let (text,goesOn) := unescaped (w.getD [])
      (r,{ p.print (f.text text) with ended := p.ended || !goesOn })
    else if c ∈ ['d','i','o','u','x','X'] then
      let (n,p) := p.number !(c == 'd' || c == 'i')
      (r,p.print (f.number c n))
    else if c ∈ ['e','E','f','F','g','G'] then
      let (x,p) := p.value {} fractionOf
      (r,p.print (f.fraction c x))
    else
      let shown := '%' :: s.take (s.length - r.length)
      ([],{ p with fatal := some (shown ++ ": invalid directive".toList), ended := true })

def once : Nat → List Char → Progress → Progress
  | 0, _, p => p
  | _ + 1, [], p => p
  | fuel + 1, c :: s, p =>
    if p.ended then p
    else if c == '%' then
      let (rest,p) := convert s p
      once fuel rest p
    else if c == '\\' then
      match s with
      | 'c' :: _ => { p with ended := true }
      | s =>
        let e := escape s
        once fuel e.2 (p.print [e.1])
    else once fuel s (p.print [c])

/-- Goes through a format until no words are left. -/
def often (format : List Char) : Nat → Progress → Progress
  | 0, p => p
  | fuel + 1, p =>
    let p := once (format.length + 1) format { p with used := false }
    if p.words.isEmpty || p.ended || !p.used then p else often format fuel p

def printf (format : List Char) (words : List (List Char)) : Progress :=
  often format (words.length + 1) { words := words }

end MatrixHarness.Shell.Format
