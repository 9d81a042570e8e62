import MatrixHarness.Text.Raw

/-! # Quoting for a shell

A word is cut into chunks, and each chunk is written plainly, between single or between double
quotes, the first of these that suits all its characters.  A chunk reaches as far as some manner
suits all of it.  A caret is quoted singly and begins a chunk. -/
namespace MatrixHarness.CommandLine

/-- How a chunk is written. -/
inductive Manner where
  | plain
  | single
  | double
  deriving DecidableEq

namespace Manner

def suits : Manner → Char → Bool
  | plain, c => c.isAlphanum || c ∈ ['+','-','.','/',':','@',']','_']
  | single, c => !(c ∈ ['\x27','^','\\'])
  | double, c => !(c ∈ ['\x60','$','!','^'])

/-- The manners that may write a chunk with this first character, the best first. -/
def forFirst (c : Char) : List Manner :=
  if c = '^' then [single] else [plain,single,double].filter (·.suits c)

def escapeInDouble (c : Char) : List Char :=
  if c ∈ ['$','\x60','\x22','\\'] then ['\\',c] else [c]

def write : Manner → List Char → List Char
  | plain, cs => cs
  | single, cs => '\x27' :: cs ++ ['\x27']
  | double, cs => '\x22' :: cs.flatMap escapeInDouble ++ ['\x22']

end Manner

/-- Goes on with a chunk while one of the manners suits: the manners left, the chunk, the rest. -/
def extend (ok : List Manner) : List Char → List Manner × List Char × List Char
  | [] => (ok,[],[])
  | c :: cs =>
    match ok.filter (·.suits c) with
    | [] => (ok,[],c :: cs)
    | m :: ms =>
      let r := extend (m :: ms) cs
      (r.1,c :: r.2.1,r.2.2)

theorem extend_rest_le (ok : List Manner) (cs : List Char) :
    (extend ok cs).2.2.length ≤ cs.length := by
  induction cs generalizing ok with
  | nil => simp [extend]
  | cons c cs ih =>
    simp only [extend]
    split
    · simp
    · exact Nat.le_succ_of_le (ih _)

theorem extend_append (ok : List Manner) (cs : List Char) :
    (extend ok cs).2.1 ++ (extend ok cs).2.2 = cs := by
  induction cs generalizing ok with
  | nil => rfl
  | cons c cs ih =>
    simp only [extend]
    split
    · rfl
    · simp only [List.cons_append]; rw [ih]

def chunks : List Char → List (Manner × List Char)
  | [] => []
  | c :: cs =>
    let r := extend (Manner.forFirst c) cs
    (r.1.headD .single,c :: r.2.1) :: chunks r.2.2
termination_by cs => cs.length
decreasing_by
  have := extend_rest_le (Manner.forFirst c) cs
  simp only [List.length_cons]
  omega

/-- A word as a shell reads it; the empty word is a pair of quotes. -/
def quoteWord (word : List Char) : List Char :=
  if word.isEmpty then ['\x27','\x27']
  else (chunks word).flatMap fun p => p.1.write p.2

def spaced (words : List String) : String := String.intercalate " " words

/-- Words as a shell reads them; no shell can be given a NUL. -/
def quote? (words : List String) : Option String :=
  if words.any fun w => w.toList.contains '\x00' then none
  else some (spaced (words.map fun w => String.ofList (quoteWord w.toList)))

end MatrixHarness.CommandLine

namespace MatrixHarness

abbrev CommandLine := List RawText

namespace CommandLine

/-- For the eyes of a user: quoted for a shell, or as it is if it holds a NUL. -/
def shown (cl : CommandLine) : String :=
  let words := cl.map RawText.lossy
  (quote? words).getD (spaced words)

/-- The program; an empty command line names none. -/
def program (cl : CommandLine) : RawText := cl.headD ⟨[]⟩

def arguments (cl : CommandLine) : List RawText := cl.tail

end CommandLine
end MatrixHarness
