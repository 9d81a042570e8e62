import MatrixHarness.Shell.Pattern
import MatrixHarness.Shell.State

/-! # Expansion

What the words of a command mean: parameters, the output of commands and calculations are put in;
what came in that way outside quotes is split; patterns become the names of the files that fit.  How
a command inside a word is run is a parameter here. -/
namespace MatrixHarness.Shell

open Machine

/-- What a word is made of once everything is put in. -/
inductive Piece where
  /-- A character; a soft one was put in outside quotes and may split the word. -/
  | char (quoted soft : Bool) (c : Char)
  /-- Quotes stand here, so there is a word even if it is empty. -/
  | mark
  /-- A word ends here. -/
  | split
  deriving DecidableEq

/-- The text of a piece where words are not split, with what stands between words. -/
def Piece.glyphs (between : List Char) : Piece → List Glyph
  | char quoted _ c => [(quoted,c)]
  | mark => []
  | split => between.map (true,·)

def Piece.soften : Piece → Piece
  | char false _ c => char false true c
  | p => p

def quotedPieces (cs : List Char) : List Piece := .mark :: cs.map (.char true false)
def softPieces (cs : List Char) : List Piece := cs.map (.char false true)

def pieces (quoted : Bool) (cs : List Char) : List Piece :=
  if quoted then quotedPieces cs else softPieces cs

/-- The value of a parameter: one text, or several. -/
inductive Value where
  | one (cs : List Char)
  | each (texts : List (List Char))

def State.between (s : State) : List Char := s.separators.take 1

def optionLetters (s : State) : List Char := "pubaCEVvxsnmiIfe".toList.filter s.hasOption

def State.parameter? (s : State) : Parameter → Option Value
  | .variable name => (s.value? name).map .one
  | .argument 0 => some (.one s.name)
  | .argument (n + 1) => (s.arguments[n]?).map .one
  | .together => some (.each s.arguments)
  | .each => some (.each s.arguments)
  | .count => some (.one (digits s.arguments.length))
  | .status => some (.one (digits s.status))
  | .self => some (.one (digits s.self))
  | .background => s.background.map fun n => .one (digits n)
  | .options => some (.one (optionLetters s))

def Parameter.shown : Parameter → List Char
  | .variable name => name
  | .argument n => digits n
  | .together => ['*']
  | .each => ['@']
  | .count => ['#']
  | .status => ['?']
  | .self => ['$']
  | .background => ['!']
  | .options => ['-']

def valuePieces (s : State) (quoted : Bool) (p : Parameter) : Value → List Piece
  | .one cs => pieces quoted cs
  | .each texts =>
    if quoted && p = .together then
      quotedPieces (joined s.between texts)
    else List.intercalate [.split] (texts.map (pieces quoted))

def valueText (s : State) : Value → List Char
  | .one cs => cs
  | .each texts => joined s.between texts

def isEmptyValue : Value → Bool
  | .one cs => cs.isEmpty
  | .each texts => texts.all List.isEmpty

/-- Output without the line ends behind it; a NUL is no part of a text. -/
def trimOutput (cs : List Char) : List Char :=
  ((cs.filter (· != '\x00')).reverse.dropWhile (· == '\n')).reverse

def glyphs (s : State) (ps : List Piece) : List Glyph := ps.flatMap (Piece.glyphs s.between)

def textOf (s : State) (ps : List Piece) : List Char := (glyphs s ps).map (·.2)

def homeOf? (s : State) (name : List Char) : Option (List Char) :=
  if name.isEmpty then s.value? "HOME".toList
  else if name == "root".toList then some "/root".toList
  else none

/-- Puts in the directory for a tilde at the front of a text that a stretch goes on behind. -/
def tildeText (s : State) (last : Bool) (cs : List Char) : Word :=
  match cs with
  | '~' :: r =>
    let name := r.takeWhile (· != '/')
    let rest := r.dropWhile (· != '/')
    if rest.isEmpty && !last then [.text false cs]
    else
      match homeOf? s name with
      | some home => [.text true home,.text false rest]
      | none => [.text false cs]
  | cs => [.text false cs]

def tilde (s : State) (w : Word) : Word :=
  match w with
  | .text false cs :: rest => tildeText s rest.isEmpty cs ++ rest
  | w => w

/-- A value that is assigned, with the directories for the tildes behind its colons. -/
def tildes (s : State) (w : Word) : Word :=
  match w with
  | .text false cs :: rest =>
    let parts := cs.splitOnP (· == ':')
    let last := parts.length - 1
    let shown := parts.zipIdx.map fun p => tildeText s (p.2 < last || rest.isEmpty) p.1
    List.intercalate [.text false [':']] shown ++ rest
  | w => w

section

variable (run : Command → Sh (List Char))

def calculate (text : List Char) : Sh (List Char) := do
  let s ← get
  match Calculation.evaluate s.value? text with
  | .error e => fail e
  | .ok (n,values) =>
    values.reverse.forM fun v => assign v.1 (integerText v.2)
    return integerText n

/-- The complaint about a parameter without a value. -/
def complainOf {α : Type} (p : Parameter) (empty : Bool) (text : Option (List Char)) : Sh α :=
  fail (p.shown ++ ": ".toList ++
    text.getD ("parameter not set".toList ++ if empty then " or null".toList else []))

/-- The pieces of a parameter.  `expand` puts in what stands in a word that goes with it. -/
def parameterPieces (expand : Word → Sh (List Piece)) (quoted : Bool) (p : Parameter) (use : Use) :
    Sh (List Piece) := do
  let s ← get
  let value := s.parameter? p
  let known ← match value with
    | some v => pure v
    | none =>
      match use with
      | .substitute _ _ _ => pure (.one [])
      | _ => if s.hasOption 'u' then complainOf p false none else pure (.one [])
  match use with
  | .wrong => failWith "Bad substitution"
  | .value => return if value.isNone then pieces quoted [] else valuePieces s quoted p known
  | .length =>
    return pieces quoted (digits (valueText s known).length)
  | .trimmed atBack longest w =>
    let pattern := Pattern.ofGlyphs (glyphs s (← expand (tilde s w)))
    let trim := Pattern.trim atBack longest pattern
    return valuePieces s quoted p (match known with
      | .one cs => .one (trim cs)
      | .each texts => .each (texts.map trim))
  | .substitute empty kind w =>
    let missing := value.isNone || (empty && isEmptyValue known)
    if kind = .alternative then
      if missing then return if quoted then [.mark] else []
      else
        let ps ← expand (tilde s w)
        return (if quoted then [.mark] else []) ++ ps.map Piece.soften
    else if !missing then return valuePieces s quoted p known
    else
      let ps ← expand (tilde s w)
      match kind with
      | .complaint => complainOf p empty (if w.isEmpty then none else some (textOf s ps))
      | .assigned =>
        match p with
        | .variable name =>
          assign name (textOf s ps)
          return pieces quoted (textOf s ps)
        | p => fail (p.shown ++ ": bad variable name".toList)
      | _ => return (if quoted then [.mark] else []) ++ ps.map Piece.soften

def deepestWord : Nat := 10000

def piecesOf : Nat → Word → Sh (List Piece)
  | 0, _ => failWith "nested too deeply"
  | deep + 1, w => do
    let parts ← w.mapM fun
      | .text quoted cs => pure (if quoted then quotedPieces cs else cs.map (.char false false))
      | .parameter quoted p use => parameterPieces (piecesOf deep) quoted p use
      | .output quoted c => do
        let text ← run c
        pure (pieces quoted (trimOutput text))
      | .calculation quoted w => do
        let ps ← piecesOf deep w
        let text ← calculate (textOf (← get) ps)
        pure (pieces quoted text)
    return parts.flatten

def wholeText (w : Word) : Sh (List Char) := do
  let ps ← piecesOf run deepestWord (tilde (← get) w)
  return textOf (← get) ps

def assignedText (w : Word) : Sh (List Char) := do
  let ps ← piecesOf run deepestWord (tildes (← get) w)
  return textOf (← get) ps

def patternOf (w : Word) : Sh Pattern := do
  let ps ← piecesOf run deepestWord (tilde (← get) w)
  return Pattern.ofGlyphs (glyphs (← get) ps)

end

/-- Where the splitting of a word stands. -/
inductive Field where
  /-- Nothing of a word was seen. -/
  | start
  | open (gs : List Glyph)
  /-- Behind blanks that ended a word. -/
  | gap
  /-- Behind a sign that ended a word. -/
  | cut

def Field.add (g : List Glyph) : Field → Field
  | .open gs => .open (gs ++ g)
  | _ => .open g

def fields (separators : List Char) : Field → List Piece → List (List Glyph)
  | .open gs, [] => [gs]
  | _, [] => []
  | f, .mark :: ps => fields separators (f.add []) ps
  | .open gs, .split :: ps => gs :: fields separators .start ps
  | _, .split :: ps => fields separators .start ps
  | f, .char quoted soft c :: ps =>
    if soft && separators.contains c then
      if isSpace c then
        match f with
        | .open gs => gs :: fields separators .gap ps
        | f => fields separators f ps
      else
        match f with
        | .open gs => gs :: fields separators .cut ps
        | .gap => fields separators .cut ps
        | _ => [] :: fields separators .cut ps
    else fields separators (f.add [(quoted,c)]) ps

def sortedNames (ns : List (List Char)) : List (List Char) :=
  ns.mergeSort fun a b => String.ofList a ≤ String.ofList b

/-- The paths that fit the parts of a pattern, from a path that is already found. -/
def fitting (fs : Files) : List (List Glyph) → List Char → List (List Char)
  | [], found => [found]
  | part :: parts, found =>
    let p := Pattern.ofGlyphs part
    let behind : List Char := if parts.isEmpty then [] else ['/']
    if p.isPlain then
      let path := found ++ p.text ++ behind
      if (fs.look false (RawText.ofOctets path)).toOption.isSome then fitting fs parts path else []
    else
      let directory := RawText.ofOctets (if found.isEmpty then ['.'] else found)
      match fs.lookUp directory, fs.locate true directory with
      | .ok .directory, .ok here =>
        let dots : List (List Char) := [['.'],['.','.']]
        let all := dots ++ (fs.listing here).map (·.1.octets)
        let hidden (n : List Char) : Bool := n.head? == some '.' && p.head? != some (.char '.')
        let found' := (sortedNames all).filter fun n => p.fits n && !hidden n
        found'.flatMap fun n =>
          let path := found ++ n ++ behind
          if parts.isEmpty || fs.has (RawText.ofOctets path) then fitting fs parts path else []
      | _, _ => []

/-- The files that fit a word, or the word itself if none does. -/
def fileNames (fs : Files) (gs : List Glyph) : List (List Char) :=
  let found := fitting fs (gs.splitOnP (·.2 == '/')) []
  if found.isEmpty then [gs.map (·.2)] else sortedNames found

def wordsOf (ps : List Piece) : Sh (List (List Char)) := do
  let s ← get
  let found := fields s.separators .start ps
  if s.hasOption 'f' || found.all (fun gs => (Pattern.ofGlyphs gs).isPlain) then
    return found.map (·.map (·.2))
  else
    let fs ← act .files
    return found.flatMap fun gs =>
      if (Pattern.ofGlyphs gs).isPlain then [gs.map (·.2)] else fileNames fs gs

def expandWord (run : Command → Sh (List Char)) (w : Word) : Sh (List (List Char)) := do
  wordsOf (← piecesOf run deepestWord (tilde (← get) w))

end MatrixHarness.Shell
