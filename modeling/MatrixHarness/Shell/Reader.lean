import MatrixHarness.Shell.Lexer

/-! # Reading a script

The commands of a script, one line at a time, so that what is wrong further down does not keep the
commands above from running.  Every reader has an allowance, which is ample when it exceeds a few
times the length of the script. -/
namespace MatrixHarness.Shell

open Reading

/-- The built-in commands that no function may hide. -/
def specialNames : List String :=
  [".",":","break","continue","eval","exec","exit","export","local","readonly","return",
   "set","shift","times","trap","unset"]

def endsList : Token → Bool
  | .scriptEnd => true
  | .operator o => o ∈ [")",";;"]
  | .keyword k => k ∈ ["do","done","elif","else","esac","fi","then","\x7d"]
  | _ => false

def isOperator (o : String) : Token → Bool
  | .operator p => o == p
  | _ => false

def isKeyword (k : String) : Token → Bool
  | .keyword l => k == l
  | _ => false

/-- The name and the value in a word that begins with a name and an equals sign. -/
def assignment? (w : Word) : Option (List Char × Word) :=
  match w with
  | .text false cs :: rest =>
    match cs.dropWhile (· != '=') with
    | _ :: value =>
      let name := cs.takeWhile (· != '=')
      if isName name then some (name,if value.isEmpty then rest else .text false value :: rest)
      else none
    | [] => none
  | _ => none

/-- The word that stands for a plain word, unless that is just what is being replaced. -/
def alias? (s : Source) (name : List Char) : Option (List Char) :=
  if s.replaced.any fun r => r.1 == name && r.2 < s.rest.length then none
  else (s.aliases.find? (·.1 == name)).map (·.2)

/-- The next token, behind line ends on demand; plain words may be keywords or stand for others. -/
def next (inner : Inner) (lines names others : Bool) : Nat → Reading Token
  | 0 => tooDeep
  | fuel + 1 => do
    let t ← match (← get).kept with
      | some t => do
        modify fun s => { s with kept := none }
        pure t
      | none => token inner fuel
    match t with
    | .lineEnd => if lines then next inner lines names others fuel else return .lineEnd
    | .word w =>
      match plain? w with
      | none => return t
      | some text =>
        if names && String.ofList text ∈ keywords then return .keyword (String.ofList text)
        else
          let s ← get
          match if others then alias? s text else none with
          | none => return t
          | some other =>
            modify fun s => { s with
              rest := other ++ s.rest, replaced := (text,s.rest.length) :: s.replaced }
            next inner lines names others fuel
    | _ => return t

def redirection (inner : Inner) (fuel descriptor : Nat) (arrow : Arrow) : Reading Redirect := do
  let ofText := match arrow with
    | .text _ => true
    | _ => false
  modify fun s => { s with inMark := ofText }
  let t ← next inner false false false fuel
  modify fun s => { s with inMark := false }
  match t with
  | .word w =>
    match arrow with
    | .file opening => return .file descriptor opening w
    | .duplicate => return .duplicate descriptor w
    | .text strips => return .text descriptor (← takeLines inner fuel strips w)
  | t => unexpected t

def redirections (inner : Inner) : Nat → Reading (List Redirect)
  | 0 => tooDeep
  | fuel + 1 => do
    match ← next inner false true true fuel with
    | .redirect descriptor arrow =>
      let r ← redirection inner fuel descriptor arrow
      return r :: (← redirections inner fuel)
    | t =>
      back t
      return []

def wordsOfLoop (inner : Inner) : Nat → Reading (List Word)
  | 0 => tooDeep
  | fuel + 1 => do
    match ← next inner false false false fuel with
    | .word w => return w :: (← wordsOfLoop inner fuel)
    | .lineEnd => return []
    | t => if isOperator ";" t then return [] else unexpected t

/-- The patterns before the body of an arm.  What is no word fits nothing but the empty text. -/
def patterns (inner : Inner) : Nat → Reading (List Word)
  | 0 => tooDeep
  | fuel + 1 => do
    let w : Word := match ← next inner false false false fuel with
      | .word w => w
      | _ => []
    let t ← next inner false false false fuel
    if isOperator "|" t then return w :: (← patterns inner fuel)
    else if isOperator ")" t then return [w]
    else expected (quotedName ")") t

def around (line : Nat) (c : Command) (rs : List Redirect) : Command :=
  match c with
  | .subshell l c rs' => .subshell l c (rs' ++ rs)
  | c => if rs.isEmpty then c else .redirected line c rs

/-- How a list of commands ends. -/
inductive Ending where
  /-- At the end of the line. -/
  | line
  /-- At a word or sign that closes it; there must be a command. -/
  | closed
  /-- So too, but there need not be one. -/
  | optional
  deriving DecidableEq

mutual

/-- How commands inside a word are read.  Between backquotes, what closes a list ends it. -/
def innerOf : Nat → Inner
  | 0 => ⟨tooDeep,tooDeep⟩
  | fuel + 1 =>
    { closed := do
        let c ← list fuel .optional false .nothing
        let t ← next (innerOf fuel) false false false fuel
        if isOperator ")" t then return c else expected (quotedName ")") t
      whole := list fuel .optional false .nothing }

def list : Nat → Ending → Bool → Command → Reading Command
  | 0, _, _, _ => tooDeep
  | fuel + 1, ending, some', before => do
    let t ← next (innerOf fuel) (ending ≠ .line) true true fuel
    match t with
    | .lineEnd => return before
    | .scriptEnd =>
      back t
      return before
    | t =>
      back t
      if (some' || ending = .optional) && ending ≠ .line && endsList t then return before
      else
        let line := (← get).line
        let c ← chain fuel
        let t ← next (innerOf fuel) false true true fuel
        let c := if isOperator "&" t then .background line c else c
        let all := match before with
          | .nothing => c
          | before => .sequence before c
        match t with
        | .lineEnd =>
          back t
          list fuel ending true all
        | .scriptEnd =>
          back t
          list fuel ending true all
        | t =>
          if isOperator "&" t || isOperator ";" t then list fuel ending true all
          else if ending = .line then unexpected t
          else
            back t
            return all

/-- Commands that hang on the status of those before. -/
def chain : Nat → Reading Command
  | 0 => tooDeep
  | fuel + 1 => do
    let c ← pipeline fuel false
    chainOn fuel c

def chainOn : Nat → Command → Reading Command
  | 0, _ => tooDeep
  | fuel + 1, c => do
    let t ← next (innerOf fuel) false true true fuel
    if isOperator "&&" t || isOperator "||" t then
      let d ← pipeline fuel true
      chainOn fuel (.chain (isOperator "&&" t) c d)
    else
      back t
      return c

/-- Commands of which each reads what the one before prints. -/
def pipeline : Nat → Bool → Reading Command
  | 0, _ => tooDeep
  | fuel + 1, lines => do
    let t ← next (innerOf fuel) lines true true fuel
    let negated := isKeyword "!" t
    if !negated then back t
    let c ← command fuel false
    let stages ← stagesOn fuel
    let all := if stages.isEmpty then c else .pipeline (c :: stages)
    return if negated then .negate all else all

def stagesOn : Nat → Reading (List Command)
  | 0 => tooDeep
  | fuel + 1 => do
    let t ← next (innerOf fuel) false true true fuel
    if isOperator "|" t then
      let c ← command fuel true
      return c :: (← stagesOn fuel)
    else
      back t
      return []

def command : Nat → Bool → Reading Command
  | 0, _ => tooDeep
  | fuel + 1, lines => do
    let inner := innerOf fuel
    let t ← next inner lines true true fuel
    let line := (← get).line
    match t with
    | .keyword k =>
      if k == "if" then
        let c ← branch fuel
        return around line c (← redirections inner fuel)
      else if k == "while" || k == "until" then
        let condition ← list fuel .closed false .nothing
        let t ← next inner false true true fuel
        if !isKeyword "do" t then expected (quotedName "do") t
        else
          let c ← body fuel "done"
          return around line (.loop (k == "while") condition c) (← redirections inner fuel)
      else if k == "for" then
        let c ← eachLoop fuel line
        return around line c (← redirections inner fuel)
      else if k == "case" then
        let c ← selection fuel line
        return around line c (← redirections inner fuel)
      else if k == "\x7b" then
        let c ← body fuel "\x7d"
        return around line c (← redirections inner fuel)
      else unexpected t
    | .operator "(" =>
      let c ← list fuel .closed false .nothing
      let t ← next inner false true true fuel
      if isOperator ")" t then return around line (.subshell line c []) (← redirections inner fuel)
      else expected (quotedName ")") t
    | .word _ =>
      back t
      simple fuel line true [] [] []
    | .redirect _ _ =>
      back t
      simple fuel line true [] [] []
    | t => unexpected t

def body : Nat → String → Reading Command
  | 0, _ => tooDeep
  | fuel + 1, close => do
    let c ← list fuel .closed false .nothing
    let t ← next (innerOf fuel) false true true fuel
    if isKeyword close t then return c else expected (quotedName close) t

/-- A condition, what to do if it holds, and what else. -/
def branch : Nat → Reading Command
  | 0 => tooDeep
  | fuel + 1 => do
    let inner := innerOf fuel
    let condition ← list fuel .closed false .nothing
    let t ← next inner false true true fuel
    if !isKeyword "then" t then expected (quotedName "then") t
    else
      let yes ← list fuel .closed false .nothing
      let t ← next inner false true true fuel
      if isKeyword "elif" t then return .choose condition yes (← branch fuel)
      else if isKeyword "else" t then return .choose condition yes (← body fuel "fi")
      else if isKeyword "fi" t then return .choose condition yes .nothing
      else expected (quotedName "fi") t

def eachLoop : Nat → Nat → Reading Command
  | 0, _ => tooDeep
  | fuel + 1, line => do
    let inner := innerOf fuel
    match ← next inner false false false fuel with
    | .word w =>
      match (plain? w).filter isName with
      | none => fail "Syntax error: Bad for loop variable"
      | some name =>
        let t ← next inner true true true fuel
        let words ← if isKeyword "in" t then (wordsOfLoop inner fuel).map some
          else do
            if !isOperator ";" t then back t
            pure none
        let t ← next inner true true true fuel
        if !isKeyword "do" t then expected (quotedName "do") t
        else return .each line name words (← body fuel "done")
    | _ => fail "Syntax error: Bad for loop variable"

def selection : Nat → Nat → Reading Command
  | 0, _ => tooDeep
  | fuel + 1, line => do
    let inner := innerOf fuel
    match ← next inner false false false fuel with
    | .word subject =>
      let t ← next inner true true true fuel
      if isKeyword "in" t then return .select line subject (← arms fuel)
      else expected (quotedName "in") t
    | t => expected "word" t

def arms : Nat → Reading (List (List Word × Command))
  | 0 => tooDeep
  | fuel + 1 => do
    let inner := innerOf fuel
    let t ← next inner true true false fuel
    if isKeyword "esac" t then return []
    else
      if !isOperator "(" t then
        back (match t with
          | .keyword k => .word [.text false k.toList]
          | t => t)
      let ps ← patterns inner fuel
      let c ← list fuel .optional false .nothing
      let t ← next inner true true false fuel
      if isOperator ";;" t then return (ps,c) :: (← arms fuel)
      else if isKeyword "esac" t then return [(ps,c)]
      else expected (quotedName ";;") t

/-- A simple command, or the definition of a function; what is in hand is in backward order. -/
def simple : Nat → Nat → Bool → List (List Char × Word) → List Word → List Redirect →
    Reading Command
  | 0, _, _, _, _, _ => tooDeep
  | fuel + 1, line, first, assignments, words, redirects => do
    let inner := innerOf fuel
    let done : Command :=
      .simple line assignments.reverse words.reverse redirects.reverse
    match ← next inner false false first fuel with
    | .word w =>
      match if first then assignment? w else none with
      | some a => simple fuel line true (a :: assignments) words redirects
      | none => simple fuel line false assignments (w :: words) redirects
    | .redirect descriptor arrow =>
      let r ← redirection inner fuel descriptor arrow
      simple fuel line first assignments words (r :: redirects)
    | .operator "(" =>
      match words, assignments, redirects with
      | [w], [], [] =>
        let t ← next inner false false false fuel
        if !isOperator ")" t then expected (quotedName ")") t
        else
          match (plain? w).filter fun n => isName n && !specialNames.contains (String.ofList n) with
          | none => fail "Syntax error: Bad function name"
          | some name =>
            let line := (← get).line
            return .define line name (← command fuel true)
      | _, _, _ =>
        back (.operator "(")
        return done
    | t =>
      back t
      return done

end

def allowance (s : Source) : Nat := 12 * s.rest.length + 200

/-- What the next line of a script says; none at its end. -/
inductive Line where
  | command (c : Command)
  | ended

def readLine (s : Source) : Except Misread (Line × Source) :=
  match (list (allowance s) .line false .nothing).run { s with kept := none } with
  | .error e => .error e
  | .ok (c,s) =>
    match c, s.kept with
    | .nothing, some .scriptEnd => .ok (.ended,s)
    | c, _ => .ok (.command c,s)

end MatrixHarness.Shell
