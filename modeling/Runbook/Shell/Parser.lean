import Runbook.Shell.Script

/-!
# Reading scripts

Recursive descent over tokens. Reserved words count only where a command may begin. A script is
read one line of commands at a time, since the lines before a fault are still to be run.
-/

namespace Runbook.Shell

/-- Reads something at the start of tokens. -/
abbrev Parser (α : Type) := List Lexeme → Except SyntaxError (α × List Lexeme)

namespace Parser

/-- The words that mean something where a command may begin. -/
def reserved : List String :=
  ["if", "then", "elif", "else", "fi", "while", "until", "for", "do", "done", "case", "esac", "in",
    "\x7b", "\x7d", "!"]

/-- The reserved word at the start of tokens. -/
def keyword? : List Lexeme → Option String
  | ⟨_, .word w⟩ :: _ =>
    match Word.bare? w with
    | some cs => if reserved.contains (String.ofList cs) then some (String.ofList cs) else none
    | none => none
  | _ => none

/-- The operator at the start of tokens. -/
def operator? : List Lexeme → Option String
  | ⟨_, .operator op⟩ :: _ => some op
  | _ => none

/-- What a message calls the start of tokens. -/
def describe (ts : List Lexeme) : String :=
  match ts with
  | [] => "end of file"
  | ⟨_, .operator "\n"⟩ :: _ => "newline"
  | ⟨_, .operator op⟩ :: _ =>
    if ["<", ">", "<<", "<<-", ">>", "<&", ">&", "<>", ">|"].contains op then "redirection"
    else "\"" ++ op ++ "\""
  | ts =>
    match keyword? ts with
    | some k => "\"" ++ k ++ "\""
    | none => "word"

/-- The tokens cannot go on as they do; the text says what could have gone on. -/
def refused {α : Type} (line : Nat) (ts : List Lexeme) (wanted : Option String) :
    Except SyntaxError α :=
  let line := (ts.head?.map Lexeme.line).getD line
  match ts, wanted with
  | ⟨_, .fault message⟩ :: _, _ => .error ⟨line, message⟩
  | ts, none => .error ⟨line, describe ts ++ " unexpected"⟩
  | ts, some w => .error ⟨line, describe ts ++ " unexpected (expecting \"" ++ w ++ "\")"⟩

/-- The tokens cannot go on as they do. -/
def unexpected {α : Type} (line : Nat) (ts : List Lexeme) : Except SyntaxError α :=
  refused line ts none

/-- Something is missing before the tokens. -/
def missing {α : Type} (line : Nat) (ts : List Lexeme) (wanted : String) : Except SyntaxError α :=
  refused line ts (some wanted)

/-- The tokens behind line ends. -/
def skipLines : List Lexeme → List Lexeme
  | ⟨l, .operator op⟩ :: rest => if op = "\n" then skipLines rest else ⟨l, .operator op⟩ :: rest
  | ts => ts

/-- Takes a reserved word. -/
def expect (line : Nat) (word : String) (ts : List Lexeme) : Except SyntaxError (List Lexeme) :=
  if keyword? ts = some word then .ok ts.tail else missing line ts word

/-- A character of a name. -/
def isNameChar (c : Char) : Bool := c.isAlphanum || c == '_'

/-- The text is a name. -/
def isName (cs : List Char) : Bool :=
  match cs with
  | [] => false
  | c :: _ => !c.isDigit && cs.all isNameChar

/-- The bare characters at the start of a word. -/
def leading : Word → List Char
  | .bare c :: rest => c :: leading rest
  | _ => []

/-- A word that assigns a value to a name. -/
def assignment? (w : Word) : Option (String × Word) :=
  let name := (leading w).takeWhile (· ≠ '=')
  if isName name ∧ (leading w).contains '=' then
    some (String.ofList name, w.drop (name.length + 1))
  else none

/-- What a redirection operator does, and on which descriptor if none is written. -/
def redirectKind? : String → Option (RedirectKind × Nat)
  | "<" => some (.input, 0)
  | ">" | ">|" => some (.output, 1)
  | ">>" => some (.append, 1)
  | "<>" => some (.both, 0)
  | ">&" => some (.duplicate, 1)
  | "<&" => some (.duplicate, 0)
  | _ => none

/-- Takes a redirection, if one starts here. -/
def redirect? (line : Nat) (ts : List Lexeme) :
    Except SyntaxError (Option (Redirect × List Lexeme)) :=
  let (given, behind) := match ts with
    | ⟨_, .descriptor n⟩ :: rest => (some n, rest)
    | ts => (none, ts)
  match behind with
  | ⟨_, .operator op⟩ :: rest =>
    match redirectKind? op with
    | none => .ok none
    | some (kind, default) =>
      match rest with
      | ⟨_, .word target⟩ :: rest => .ok (some (⟨given.getD default, kind, target⟩, rest))
      | rest => unexpected line rest
  | _ => .ok none

/-- Takes all redirections that start here. -/
def redirects (line : Nat) : (fuel : Nat) → Parser (List Redirect)
  | 0, ts => .ok ([], ts)
  | fuel + 1, ts => do
    match ← redirect? line ts with
    | none => return ([], ts)
    | some (r, rest) =>
      let (more, rest) ← redirects line fuel rest
      return (r :: more, rest)

/-- The parts of a simple command that have been read, last first. -/
structure Parts where
  assigned : List (String × Word)
  words : List Word
  redirects : List Redirect

/-- Takes the rest of a simple command. -/
def simpleRest (line : Nat) : (fuel : Nat) → Parts → Parser Parts
  | 0, p, ts => .ok (p, ts)
  | fuel + 1, p, ts => do
    match ← redirect? line ts with
    | some (r, rest) => simpleRest line fuel { p with redirects := r :: p.redirects } rest
    | none =>
      match ts with
      | ⟨_, .word w⟩ :: rest =>
        match if p.words.isEmpty then assignment? w else none with
        | some a => simpleRest line fuel { p with assigned := a :: p.assigned } rest
        | none => simpleRest line fuel { p with words := w :: p.words } rest
      | ts => return (p, ts)

/-- Takes words up to the end of a line or a semicolon, which is taken as well. -/
def wordList (line : Nat) : List Lexeme → Except SyntaxError (List Word × List Lexeme)
  | ⟨_, .word w⟩ :: rest => do
    let (ws, rest) ← wordList line rest
    return (w :: ws, rest)
  | ⟨l, .operator op⟩ :: rest =>
    if op = "\n" ∨ op = ";" then .ok ([], rest) else unexpected line (⟨l, .operator op⟩ :: rest)
  | ts => unexpected line ts

/-- Takes the patterns of a branch and the parenthesis behind them. -/
def patternList (line : Nat) : List Lexeme → Except SyntaxError (List Word × List Lexeme)
  | ⟨_, .word w⟩ :: rest =>
    match rest with
    | ⟨_, .operator "|"⟩ :: rest => do
      let (ws, rest) ← patternList line rest
      return (w :: ws, rest)
    | ⟨_, .operator ")"⟩ :: rest => .ok ([w], rest)
    | rest => missing line rest ")"
  | ts => missing line ts ")"

/-- The tokens end a list of commands here. -/
def endsList (ts : List Lexeme) : Bool :=
  match ts with
  | [] => true
  | ts =>
    (operator? ts == some ")") || (operator? ts == some ";;") ||
    match keyword? ts with
    | some k => ["then", "elif", "else", "fi", "do", "done", "esac", "\x7d"].contains k
    | none => false

mutual

/-- Takes commands up to the end of a list, at least one if `needed`. -/
def list (line : Nat) : (fuel : Nat) → (needed : Bool) → Parser Script
  | 0, _, ts => unexpected line ts
  | fuel + 1, needed, ts => do
    let ts := skipLines ts
    if endsList ts then
      if needed ∧ !ts.isEmpty then unexpected line ts else return (.nothing, ts)
    else
      let (a, rest) ← andOr line fuel ts
      match operator? rest with
      | some "&" =>
        let (b, rest) ← list line fuel false rest.tail
        return (.sequence (.background a) b, rest)
      | some ";" | some "\n" =>
        let (b, rest) ← list line fuel false rest.tail
        return (if b = .nothing then a else .sequence a b, rest)
      | _ => if endsList rest then return (a, rest) else unexpected line rest

/-- Takes pipelines that are joined by success or failure. -/
def andOr (line : Nat) : (fuel : Nat) → Parser Script
  | 0, ts => unexpected line ts
  | fuel + 1, ts => do
    let (a, rest) ← pipeline line fuel ts
    joined line fuel a rest

/-- Takes what is joined to a pipeline. -/
def joined (line : Nat) : (fuel : Nat) → Script → Parser Script
  | 0, a, ts => .ok (a, ts)
  | fuel + 1, a, ts => do
    match operator? ts with
    | some "&&" =>
      let (b, rest) ← pipeline line fuel (skipLines ts.tail)
      joined line fuel (.both a b) rest
    | some "||" =>
      let (b, rest) ← pipeline line fuel (skipLines ts.tail)
      joined line fuel (.either a b) rest
    | _ => return (a, ts)

/-- Takes commands that are joined by pipes. -/
def pipeline (line : Nat) : (fuel : Nat) → Parser Script
  | 0, ts => unexpected line ts
  | fuel + 1, ts => do
    if keyword? ts = some "!" then
      let (a, rest) ← pipeline line fuel ts.tail
      return (.negate a, rest)
    else
      let (a, rest) ← command line fuel ts
      if operator? rest = some "|" then
        let (b, rest) ← pipeline line fuel (skipLines rest.tail)
        return (.pipe a b, rest)
      else return (a, rest)

/-- Takes a command. -/
def command (line : Nat) : (fuel : Nat) → Parser Script
  | 0, ts => unexpected line ts
  | fuel + 1, ts => do
    let line := (ts.head?.map Lexeme.line).getD line
    let closed (make : List Redirect → Script) (rest : List Lexeme) :
        Except SyntaxError (Script × List Lexeme) := do
      let (rs, rest) ← redirects line rest.length rest
      return (make rs, rest)
    if operator? ts = some "(" then
      let (a, rest) ← list line fuel true ts.tail
      if operator? rest = some ")" then closed (.nested a) rest.tail
      else missing line rest ")"
    else match keyword? ts with
    | some "\x7b" =>
      let (a, rest) ← list line fuel true ts.tail
      closed (.group a) (← expect line "\x7d" rest)
    | some "if" =>
      let (make, rest) ← conditional line fuel ts.tail
      closed make rest
    | some "while" | some "until" =>
      let (condition, rest) ← list line fuel true ts.tail
      let (body, rest) ← list line fuel true (← expect line "do" rest)
      closed (.loop (keyword? ts == some "until") condition body) (← expect line "done" rest)
    | some "for" => do
      match ts.tail with
      | ⟨_, .word w⟩ :: rest =>
        let name := (Word.bare? w).getD []
        if !isName name then .error ⟨line, "Bad for loop variable"⟩
        else
          let (items, rest) ← (do
            if keyword? (skipLines rest) = some "in" then
              let (ws, rest) ← wordList line (skipLines rest).tail
              return (some ws, rest)
            else if operator? rest = some ";" then return (none, rest.tail)
            else return (none, rest) : Except SyntaxError (Option (List Word) × List Lexeme))
          let (body, rest) ← list line fuel true (← expect line "do" (skipLines rest))
          closed (.each (String.ofList name) items body) (← expect line "done" rest)
      | _ => .error ⟨line, "Bad for loop variable"⟩
    | some "case" => do
      match ts.tail with
      | ⟨_, .word w⟩ :: rest =>
        let (a, rest) ← branches line fuel w (skipLines (← expect line "in" (skipLines rest)))
        closed (.group a) rest
      | rest => unexpected line rest
    | some "\x7d" | some "then" | some "elif" | some "else" | some "fi" | some "do" | some "done"
    | some "esac" | some "in" => unexpected line ts
    | _ =>
      match ts with
      | ⟨_, .word w⟩ :: ⟨_, .operator "("⟩ :: rest =>
        if operator? rest ≠ some ")" then missing line rest ")"
        else match Word.bare? w with
          | some name =>
            if isName name then
              let (body, rest) ← command line fuel (skipLines rest.tail)
              return (.define (String.ofList name) body, rest)
            else .error ⟨line, "Bad function name"⟩
          | none => .error ⟨line, "Bad function name"⟩
      | ts =>
        let (p, rest) ← simpleRest line (ts.length + 1) ⟨[], [], []⟩ ts
        if p.words.isEmpty ∧ p.assigned.isEmpty ∧ p.redirects.isEmpty then unexpected line rest
        else return (.simple line p.assigned.reverse p.words.reverse p.redirects.reverse, rest)

/-- Takes a condition with its branches, up to the end of all of them. -/
def conditional (line : Nat) : (fuel : Nat) → Parser (List Redirect → Script)
  | 0, ts => unexpected line ts
  | fuel + 1, ts => do
    let (condition, rest) ← list line fuel true ts
    let (yes, rest) ← list line fuel true (← expect line "then" rest)
    match keyword? rest with
    | some "elif" =>
      let (make, rest) ← conditional line fuel rest.tail
      return (.choose condition yes (make []), rest)
    | some "else" =>
      let (no, rest) ← list line fuel true rest.tail
      return (.choose condition yes no, ← expect line "fi" rest)
    | _ => return (.choose condition yes .nothing, ← expect line "fi" rest)

/-- Takes the branches for a word, up to the end of all of them. -/
def branches (line : Nat) : (fuel : Nat) → Word → Parser Script
  | 0, _, ts => unexpected line ts
  | fuel + 1, subject, ts => do
    if keyword? ts = some "esac" then return (.nothing, ts.tail)
    else
      let (patterns, rest) ← patternList line (if operator? ts = some "(" then ts.tail else ts)
      let (body, rest) ← list line fuel false rest
      if operator? rest = some ";;" then
        let (others, rest) ← branches line fuel subject (skipLines rest.tail)
        return (.branch subject patterns body others, rest)
      else
        if keyword? rest = some "esac" then
          return (.branch subject patterns body .nothing, rest.tail)
        else missing line rest ";;"

end

/-- Takes the commands up to the end of a line. -/
def commandLine (last fuel : Nat) (ts : List Lexeme) :
    Except SyntaxError (Script × List Lexeme) := do
  let (a, rest) ← andOr last fuel ts
  match operator? rest with
  | some "\n" => return (a, rest.tail)
  | some op =>
    if op = ";" ∨ op = "&" then
      let a := if op = "&" then Script.background a else a
      match rest.tail with
      | [] => return (a, [])
      | ⟨_, .operator "\n"⟩ :: behind => return (a, behind)
      | behind =>
        match fuel with
        | 0 => unexpected last behind
        | fuel + 1 =>
          let (b, rest) ← commandLine last fuel behind
          return (.sequence a b, rest)
    else unexpected last rest
  | none => if rest.isEmpty then return (a, rest) else unexpected last rest

/-- The lines of a script, up to the first that is none. -/
def commandLines : (fuel : Nat) → List Lexeme → List Script × Option SyntaxError
  | 0, _ => ([], none)
  | fuel + 1, ts =>
    match skipLines ts with
    | [] => ([], none)
    | ts =>
      let last := (ts.getLast?.map Lexeme.line).getD 1
      match commandLine last (20 * (ts.length + 1)) ts with
      | .error e => ([], some e)
      | .ok (a, rest) =>
        let (more, e) := commandLines fuel rest
        (a :: more, e)

end Parser

/-- The lines of a script that can be run, and what is wrong behind them. -/
def parse (script : String) : List Script × Option SyntaxError :=
  Parser.commandLines (script.length + 1) (tokens script)

end Runbook.Shell
