/-! # Characters, blanks and strings of TOML

Every reader takes what is left of the text and answers with what it read and what is left then, or
not at all.  No text of a document holds a control character other than a tab; a line ends with a
line feed, or with a carriage return and a line feed. -/
namespace MatrixHarness.Toml

def isPlain (c : Char) : Bool := c == '\t' || (' ' ≤ c && c != '\x7f')

def isBlank (c : Char) : Bool := c == ' ' || c == '\t'

def skipBlank (s : List Char) : List Char := s.dropWhile isBlank

theorem skipBlank_length_le (s : List Char) : (skipBlank s).length ≤ s.length :=
  (List.dropWhile_sublist _).length_le

def skipComment : List Char → Option (List Char)
  | [] => some []
  | '\n' :: r => some ('\n' :: r)
  | '\r' :: '\n' :: r => some ('\r' :: '\n' :: r)
  | c :: r => if isPlain c then skipComment r else none

def endLine? (s : List Char) : Option (List Char) :=
  let s := skipBlank s
  let s := match s with
    | '#' :: r => skipComment r
    | s => some s
  match s with
  | some [] => some []
  | some ('\n' :: r) => some r
  | some ('\r' :: '\n' :: r) => some r
  | _ => none

/-- Behind blanks, line ends and comments; the flag tells that a comment is open. -/
def skipFiller : Bool → List Char → Option (List Char)
  | _, [] => some []
  | _, '\n' :: r => skipFiller false r
  | _, '\r' :: '\n' :: r => skipFiller false r
  | true, c :: r => if isPlain c then skipFiller true r else none
  | false, '#' :: r => skipFiller true r
  | false, c :: r => if isBlank c then skipFiller false r else some (c :: r)

def hexValue? (c : Char) : Option Nat :=
  if c.isDigit then some (c.toNat - '0'.toNat)
  else if 'a' ≤ c ∧ c ≤ 'f' then some (c.toNat - 'a'.toNat + 10)
  else if 'A' ≤ c ∧ c ≤ 'F' then some (c.toNat - 'A'.toNat + 10)
  else none

def hexNumber? (cs : List Char) : Option Nat :=
  cs.foldl (fun n c =>
    match n, hexValue? c with
    | some n, some d => some (16 * n + d)
    | _, _ => none) (some 0)

/-- The character with a number; surrogates and numbers beyond the last have none. -/
def charOf? (n : Nat) : Option Char :=
  if h : n.isValidChar then some (Char.ofNatAux n h) else none

/-- The character that the digits tell, and what is left. -/
def numbered? (digits : Nat) (s : List Char) : Option (Char × List Char) :=
  if s.length < digits then none
  else
    match (hexNumber? (s.take digits)).bind charOf? with
    | some c => some (c,s.drop digits)
    | none => none

/-- The character that an escape stands for; the text begins behind the backslash. -/
def unescape? : List Char → Option (Char × List Char)
  | 'b' :: r => some ('\x08',r)
  | 't' :: r => some ('\t',r)
  | 'n' :: r => some ('\n',r)
  | 'f' :: r => some ('\x0c',r)
  | 'r' :: r => some ('\r',r)
  | 'e' :: r => some ('\x1b',r)
  | '\x22' :: r => some ('\x22',r)
  | '\\' :: r => some ('\\',r)
  | 'x' :: r => numbered? 2 r
  | 'u' :: r => numbered? 4 r
  | 'U' :: r => numbered? 8 r
  | _ => none

theorem numbered?_length {n : Nat} {s : List Char} {p : Char × List Char}
    (h : numbered? n s = some p) : p.2.length ≤ s.length := by
  simp only [numbered?] at h
  split at h
  · simp at h
  · split at h
    · simp only [Option.some.injEq] at h; subst h; simp
    · simp at h

theorem unescape?_length {s : List Char} {p : Char × List Char}
    (h : unescape? s = some p) : p.2.length < s.length := by
  unfold unescape? at h
  split at h
  all_goals first
    | (simp only [Option.some.injEq] at h; subst h; simp)
    | (have hn := numbered?_length h; simp only [List.length_cons]; omega)
    | simp at h

/-- Puts a character before what a string holds. -/
def prepend (c : Char) (r : Option (List Char × List Char)) : Option (List Char × List Char) :=
  r.map fun p => (c :: p.1,p.2)

def basicBody : List Char → Option (List Char × List Char)
  | [] => none
  | c :: r =>
    if c = '\x22' then some ([],r)
    else if c = '\\' then
      match _h : unescape? r with
      | some p => prepend p.1 (basicBody p.2)
      | none => none
    else if isPlain c then prepend c (basicBody r)
    else none
termination_by s => s.length
decreasing_by
  · have := unescape?_length _h; simp only [List.length_cons]; omega
  · simp

def literalBody : List Char → Option (List Char × List Char)
  | [] => none
  | c :: r =>
    if c = '\x27' then some ([],r)
    else if isPlain c then prepend c (literalBody r)
    else none

/-- Behind a line end that a backslash hides, and all blanks and line ends after it. -/
def hiddenEnd? (s : List Char) : Option (List Char) :=
  match skipBlank s with
  | '\n' :: r => some (skipLines r)
  | '\r' :: '\n' :: r => some (skipLines r)
  | _ => none
where
  /-- Blanks and line ends. -/
  skipLines : List Char → List Char
    | '\r' :: '\n' :: r => skipLines r
    | '\n' :: r => skipLines r
    | c :: r => if isBlank c then skipLines r else c :: r
    | [] => []

theorem hiddenEnd?.skipLines_length (s : List Char) : (skipLines s).length ≤ s.length := by
  fun_induction skipLines s <;> simp_all <;> omega

theorem hiddenEnd?_length {s r : List Char} (h : hiddenEnd? s = some r) : r.length < s.length := by
  have hb := skipBlank_length_le s
  simp only [hiddenEnd?] at h
  split at h
  · rename_i t ht
    have := hiddenEnd?.skipLines_length t
    simp only [Option.some.injEq] at h; subst h
    rw [ht] at hb; simp only [List.length_cons] at hb; omega
  · rename_i t ht
    have := hiddenEnd?.skipLines_length t
    simp only [Option.some.injEq] at h; subst h
    rw [ht] at hb; simp only [List.length_cons] at hb; omega
  · simp at h

/-- The rest of a string between triple quotes of the given kind, if it ends here: up to two quotes
may stand before the last three. -/
def closing? (q : Char) : List Char → Option (List Char × List Char)
  | a :: b :: c :: r =>
    if a = q ∧ b = q ∧ c = q then
      match r with
      | d :: e :: t =>
        if d = q then if e = q then some ([q,q],t) else some ([q],e :: t)
        else some ([],r)
      | [d] => if d = q then some ([q],[]) else some ([],r)
      | [] => some ([],[])
    else none
  | _ => none

def longBasicBody : List Char → Option (List Char × List Char)
  | [] => none
  | c :: r =>
    match closing? '\x22' (c :: r) with
    | some p => some p
    | none =>
      if c = '\\' then
        match _h : hiddenEnd? r with
        | some t => longBasicBody t
        | none =>
          match _h' : unescape? r with
          | some p => prepend p.1 (longBasicBody p.2)
          | none => none
      else
        match c, r with
        | '\r', '\n' :: t => prepend '\r' (prepend '\n' (longBasicBody t))
        | c, r => if c = '\n' || isPlain c then prepend c (longBasicBody r) else none
termination_by s => s.length
decreasing_by
  · have := hiddenEnd?_length _h; simp only [List.length_cons]; omega
  · have := unescape?_length _h'; simp only [List.length_cons]; omega
  · simp only [List.length_cons]; omega
  · simp

def longLiteralBody : List Char → Option (List Char × List Char)
  | [] => none
  | c :: r =>
    match closing? '\x27' (c :: r) with
    | some p => some p
    | none =>
      match c, r with
      | '\r', '\n' :: t => prepend '\r' (prepend '\n' (longLiteralBody t))
      | c, r => if c = '\n' || isPlain c then prepend c (longLiteralBody r) else none
termination_by s => s.length
decreasing_by
  · simp only [List.length_cons]; omega
  · simp

/-- A line end right behind an opening triple quote is not part of the string. -/
def dropFirstEnd : List Char → List Char
  | '\n' :: r => r
  | '\r' :: '\n' :: r => r
  | r => r

def shortString? : List Char → Option (List Char × List Char)
  | '\x22' :: r => basicBody r
  | '\x27' :: r => literalBody r
  | _ => none

def string? : List Char → Option (List Char × List Char)
  | '\x22' :: '\x22' :: '\x22' :: r => longBasicBody (dropFirstEnd r)
  | '\x27' :: '\x27' :: '\x27' :: r => longLiteralBody (dropFirstEnd r)
  | s => shortString? s

end MatrixHarness.Toml
