/-! # Permissions

Who may read, write and execute a file: three bits each for its owner, its group and all others.  A
change of permissions is told in octal digits, or by letters that add bits and take them away. -/
namespace MatrixHarness.Machine

/-- The bits that letters for groups of users stand for; without letters all count. -/
def usersBits (who : List Char) : Nat :=
  let group (letter : Char) (bits : Nat) : Nat :=
    if who.isEmpty || who.contains 'a' || who.contains letter then bits else 0
  group 'u' 0o700 ||| group 'g' 0o070 ||| group 'o' 0o007

def rightsBits (letters : List Char) : Nat :=
  (if letters.contains 'r' then 0o444 else 0) ||| (if letters.contains 'w' then 0o222 else 0) |||
    (if letters.contains 'x' then 0o111 else 0)

def clause? (part : List Char) : Option (Nat → Nat) :=
  let isUser (c : Char) : Bool := c ∈ ['u','g','o','a']
  match part.dropWhile isUser with
  | sign :: letters =>
    let users := usersBits (part.takeWhile isUser)
    let bits := users &&& rightsBits letters
    if !letters.all (· ∈ ['r','w','x','X','s','t']) then none
    else if sign == '+' then some (· ||| bits)
    else if sign == '-' then some fun mode => mode &&& (0o7777 - bits)
    else if sign == '=' then some fun mode => mode &&& (0o7777 - users) ||| bits
    else none
  | [] => none

/-- What clauses between commas make of permissions, one after another. -/
def clauses? (w : List Char) : Option (Nat → Nat) :=
  (w.splitOnP (· == ',')).foldlM (fun change part => (clause? part).map (· ∘ change)) id

def isOctal (w : List Char) : Bool := !w.isEmpty && w.all fun c => '0' ≤ c && c ≤ '7'

def octalValue (w : List Char) : Nat := w.foldl (fun n c => 8 * n + (c.toNat - '0'.toNat)) 0

def permissionChange? (w : List Char) : Option (Nat → Nat) :=
  if isOctal w then some fun _ => octalValue w % 4096 else clauses? w

/-- The letters of the bits of one group of users, which stand some bits to the left. -/
def rightsLetters (shift mode : Nat) : List Char :=
  [('r',4),('w',2),('x',1)].map fun l =>
    if mode >>> shift &&& l.2 = 0 then '-' else l.1

def permissionLetters (mode : Nat) : List Char :=
  rightsLetters 6 mode ++ rightsLetters 3 mode ++ rightsLetters 0 mode

end MatrixHarness.Machine
