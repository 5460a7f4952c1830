import Runbook.Glob.Pattern
import Runbook.Shell.Arithmetic
import Runbook.Shell.Machine

/-!
# Expanding words

A word becomes any number of fields. Parameters, the output of scripts and arithmetic are put in;
what they put in outside of quotes is split at the characters of `IFS`; and a field with wildcards
outside of quotes becomes the paths that it matches, if it matches any.
-/

namespace Runbook.Shell

/-- A character of an expanded word and whether it is kept from being a wildcard. -/
structure Glyph where
  char : Char
  quoted : Bool
deriving DecidableEq, Repr

/-- Part of an expanded word. -/
inductive Piece where
  | glyph (g : Glyph)
  /-- Quotes were here, so there is a field. -/
  | held
  /-- A field ends here. -/
  | border
deriving DecidableEq, Repr

/-! ### Fields -/

/-- The fields of pieces; `current` is the field that is being read, last character first. -/
def fieldsOf (current : Option (List Glyph)) : List Piece → List (List Glyph)
  | [] => (current.map List.reverse).toList
  | .glyph g :: rest => fieldsOf (some (g :: current.getD [])) rest
  | .held :: rest => fieldsOf (some (current.getD [])) rest
  | .border :: rest => (current.map List.reverse).toList ++ fieldsOf none rest

/-- The characters of glyphs. -/
def glyphText (gs : List Glyph) : String := String.ofList (gs.map Glyph.char)

/-- The characters of pieces as one field. -/
def glyphsOf (ps : List Piece) : List Glyph :=
  ps.filterMap fun
    | .glyph g => some g
    | _ => none

/-- A text that was between quotes. -/
def quotedPieces (text : String) : List Piece := text.toList.map fun c => .glyph ⟨c, true⟩

/-- A blank of `IFS`. -/
def isSplitBlank (ifs : List Char) (c : Char) : Bool :=
  ifs.contains c && [' ', '\t', '\n'].contains c

/-- A text that was not between quotes: runs of blanks of `IFS` are borders, and each other
character of it ends a field, together with the blanks around it. -/
def splitPieces (ifs : List Char) : (fuel : Nat) → List Char → List Piece
  | 0, _ => []
  | _ + 1, [] => []
  | fuel + 1, c :: cs =>
    if ifs.contains c then
      match (c :: cs).dropWhile (isSplitBlank ifs) with
      | d :: rest =>
        if ifs.contains d then
          .held :: .border :: splitPieces ifs fuel (rest.dropWhile (isSplitBlank ifs))
        else .border :: splitPieces ifs fuel (d :: rest)
      | [] => [.border]
    else .glyph ⟨c, false⟩ :: splitPieces ifs fuel cs

/-! ### Patterns -/

/-- The pattern that glyphs make. -/
def patternOf : (fuel : Nat) → List Glyph → List Glob.Token
  | 0, _ => []
  | _ + 1, [] => []
  | fuel + 1, g :: rest =>
    if g.quoted then .char g.char :: patternOf fuel rest
    else match g.char with
      | '*' => .anySequence :: patternOf fuel (rest.dropWhile fun g => g.char == '*' && !g.quoted)
      | '?' => .anyChar :: patternOf fuel rest
      | '[' =>
        let (negated, body) := match rest with
          | ⟨'!', false⟩ :: more => (true, more)
          | more => (false, more)
        match body with
        | first :: more =>
          let members := first :: more.takeWhile fun g => g.char != ']' || g.quoted
          match more.dropWhile fun g => g.char != ']' || g.quoted with
          | _ :: behind =>
            let set := Glob.setMembers (members.map Glyph.char)
            (if negated then Glob.Token.except set else .within set) :: patternOf fuel behind
          | [] => .char '[' :: patternOf fuel rest
        | [] => [.char '[']
      | c => .char c :: patternOf fuel rest

/-- The glyphs match a whole text as a pattern. -/
def matchesPattern (gs : List Glyph) (text : List Char) : Bool :=
  Glob.matchesName (patternOf (gs.length + 1) gs) text

/-- A glyph that is a wildcard. -/
def Glyph.isWildcard (g : Glyph) : Bool := !g.quoted && ['*', '?', '['].contains g.char

/-- The components of a field. -/
def componentsOf : List Glyph → List (List Glyph)
  | [] => [[]]
  | g :: rest =>
    if g.char = '/' then [] :: componentsOf rest
    else match componentsOf rest with
      | c :: cs => (g :: c) :: cs
      | [] => [[g]]

/-- The paths that go on with a component. -/
def goOn (files : FileTree) (component : List Glyph) (path : String) : List String :=
  if component.any Glyph.isWildcard then
    match files.locate? (if path = "" then "." else path) with
    | some loc =>
      if files.at? loc = some .directory then
        let hidden := component.head?.map Glyph.char = some '.'
        ((if hidden then [".", ".."] else []) ++ files.children loc).filterMap fun name =>
          if name.startsWith "." ∧ !hidden then none
          else if matchesPattern component name.toList then some (path ++ name) else none
      else []
    | none => []
  else [path ++ glyphText component]

/-- The paths that a field matches, or its text if there are none. -/
def pathsOf (files : FileTree) (field : List Glyph) : List String :=
  if field.any Glyph.isWildcard then
    match componentsOf field with
    | first :: rest =>
      let found := rest.foldl
        (fun paths c => paths.flatMap fun p => goOn files c (p ++ "/")) (goOn files first "")
      let found := found.filter files.exists?
      if found.isEmpty then [glyphText field] else found.mergeSort (· ≤ ·)
    | [] => [glyphText field]
  else [glyphText field]

/-! ### Parameters -/

/-- The value of a parameter other than the list of all. -/
def parameter? (m : Machine) (name : String) : Option String :=
  match name with
  | "?" => some (toString m.status)
  | "$" => some Machine.processNumber
  | "#" => some (toString m.parameters.length)
  | "!" => none
  | "-" => some (if m.stopOnFailure then "e" else "")
  | "0" => some m.name
  | name =>
    match natural? name with
    | some n => m.parameters[n - 1]?
    | none => m.values.get? name

/-- The first character of `IFS`, which joins parameters. -/
def joiner (m : Machine) : String :=
  match m.values.get? "IFS" with
  | some ifs => ((ifs.toList.head?).map Char.toString).getD ""
  | none => " "

/-- A value as pieces. -/
def valuePieces (m : Machine) (quoted split : Bool) (value : String) : List Piece :=
  if quoted ∨ !split then quotedPieces value
  else splitPieces ((m.values.get? "IFS").getD " \t\n").toList (value.length + 1) value.toList

/-- All parameters as pieces. -/
def allParameters (m : Machine) (separate quoted split : Bool) : List Piece :=
  if separate ∧ split then
    List.flatten <| (m.parameters.map fun p =>
      (if quoted then [.held] else []) ++ valuePieces m quoted split p).intersperse [.border]
  else valuePieces m quoted split ((joiner m).intercalate m.parameters)

/-- The longest or the shortest part that a pattern cuts off at the start of a text. -/
def cutStart (longest : Bool) (pattern : List Glyph) (text : List Char) : List Char :=
  let sizes := List.range (text.length + 1)
  match (if longest then sizes.reverse else sizes).find? fun n =>
    matchesPattern pattern (text.take n) with
  | some n => text.drop n
  | none => text

/-- The longest or the shortest part that a pattern cuts off at the end of a text. -/
def cutEnd (longest : Bool) (pattern : List Glyph) (text : List Char) : List Char :=
  let sizes := List.range (text.length + 1)
  match (if longest then sizes else sizes.reverse).find? fun n =>
    matchesPattern pattern (text.drop n) with
  | some n => text.take n
  | none => text

/-- The name of a parameter at the start of a text. -/
def parameterName (cs : List Char) : List Char :=
  let isNameChar (c : Char) : Bool := c.isAlphanum || c == '_'
  match cs with
  | c :: _ =>
    if c.isDigit then cs.takeWhile Char.isDigit
    else if isNameChar c then cs.takeWhile isNameChar
    else if ['?', '$', '#', '@', '*', '!', '-'].contains c then [c] else []
  | [] => []

/-- The name of a parameter behind a dollar without braces. -/
def bareParameterName (cs : List Char) : List Char :=
  match parameterName cs with
  | c :: rest => if c.isDigit then [c] else c :: rest
  | [] => []

/-! ### Words -/

/-- The characters of marks that are quoted as little as the first, up to one that is not. -/
def sameKind (quoted : Bool) : List Mark → List Char
  | .bare c :: rest => if quoted then [] else c :: sameKind quoted rest
  | .soft c :: rest => if quoted then c :: sameKind quoted rest else []
  | _ => []

/-- The marks of the text inside braces. -/
def innerMarks (quoted : Bool) (text : List Char) : List Mark :=
  ((if quoted then Reader.within [.double] else { Reader.start with fresh := false }).read text).2

/-- A parameter that must be set. -/
def setOrRefuse (name : String) (value : Option String) : Action String := do
  match value with
  | some v => return v
  | none => if (← get).refuseUnset then abort (name ++ ": parameter not set") else return ""

/-- The value of an expression; a fault ends the shell. -/
def evaluated (text : List Char) : Action String := do
  let m ← get
  let value (name : String) : Int :=
    (integer? ((m.values.get? name).getD "0")).getD 0
  match Arithmetic.evaluate value text with
  | .ok n => return toString n
  | .error e =>
    abort ("arithmetic expression: " ++ e.message ++ ": \"" ++ String.ofList text ++ "\"")

/-- The expression that an expansion of a script in double parentheses is. -/
def expression? (text : List Char) : Option (List Char) :=
  match text, text.getLast? with
  | '(' :: rest, some ')' => some rest.dropLast
  | _, _ => none

mutual

/-- The pieces of marks. `output` runs a script for its output; borders come only if `split`. -/
def expandMarks (output : String → Action String) (split : Bool) : (fuel : Nat) → List Mark →
    Action (List Piece)
  | 0, _ => throw .exhausted
  | _ + 1, [] => return []
  | fuel + 1, m :: rest => do
    match m with
    | .quote => return .held :: (← expandMarks output split fuel rest)
    | .hard c => return .glyph ⟨c, true⟩ :: (← expandMarks output split fuel rest)
    | .inner _ | .closes => expandMarks output split fuel rest
    | .opens b quoted => expandBrackets output split fuel b quoted rest
    | .bare '$' => expandDollar output split fuel false rest
    | .soft '$' => expandDollar output split fuel true rest
    | .bare c => return .glyph ⟨c, false⟩ :: (← expandMarks output split fuel rest)
    | .soft c => return .glyph ⟨c, true⟩ :: (← expandMarks output split fuel rest)

/-- What stands behind a dollar. -/
def expandDollar (output : String → Action String) (split : Bool) : (fuel : Nat) →
    (quoted : Bool) → List Mark → Action (List Piece)
  | 0, _, _ => throw .exhausted
  | fuel + 1, quoted, rest => do
    match rest with
    | .opens b q :: rest => expandBrackets output split fuel b q rest
    | rest =>
      let name := bareParameterName (sameKind quoted rest)
      if name.isEmpty then
        return .glyph ⟨'$', true⟩ :: (← expandMarks output split fuel rest)
      else
        let m ← get
        let pieces ←
          if name = ['@'] ∨ name = ['*'] then
            pure (allParameters m (name == ['@'] || !quoted) quoted split)
          else do
            let value ← setOrRefuse (String.ofList name) (parameter? m (String.ofList name))
            pure (valuePieces m quoted split value)
        return pieces ++ (← expandMarks output split fuel (rest.drop name.length))

/-- What stands in brackets, and what is behind them. -/
def expandBrackets (output : String → Action String) (split : Bool) : (fuel : Nat) → Bracket →
    (quoted : Bool) → List Mark → Action (List Piece)
  | 0, _, _, _ => throw .exhausted
  | fuel + 1, b, quoted, rest => do
    let (text, behind) := Word.bracketed rest
    let pieces ← match b with
      | .brace => expandParameter output split fuel quoted text
      | .backquote => do
        let value ← output (String.ofList text)
        pure (valuePieces (← get) quoted split value)
      | .command =>
        match expression? text with
        | some e => do
          let marks := innerMarks true e
          let gs := glyphsOf (← expandMarks output false fuel marks)
          let value ← evaluated (gs.map Glyph.char)
          pure (valuePieces (← get) quoted split value)
        | none => do
          let value ← output (String.ofList text)
          pure (valuePieces (← get) quoted split value)
    return pieces ++ (← expandMarks output split fuel behind)

/-- A parameter in braces. -/
def expandParameter (output : String → Action String) (split : Bool) : (fuel : Nat) →
    (quoted : Bool) → List Char → Action (List Piece)
  | 0, _, _ => throw .exhausted
  | fuel + 1, quoted, text => do
    let m ← get
    match text with
    | '#' :: c :: rest =>
      let value ← setOrRefuse (String.ofList (c :: rest)) (parameter? m (String.ofList (c :: rest)))
      return valuePieces m quoted split (toString value.length)
    | text =>
      let name := String.ofList (parameterName text)
      let behind := text.drop name.length
      let value := if name = "@" ∨ name = "*" then
          if m.parameters.isEmpty then none else some ((joiner m).intercalate m.parameters)
        else parameter? m name
      let shown (v : String) : List Piece :=
        if name = "@" ∨ name = "*" then allParameters m (name == "@" || !quoted) quoted split
        else valuePieces m quoted split v
      let word (split : Bool) (cs : List Char) : Action (List Piece) :=
        expandMarks output split fuel (innerMarks quoted cs)
      if name = "" then abort "Bad substitution" else
      let (colon, behind) := match behind with
        | ':' :: more => (true, more)
        | more => (false, more)
      let present := match value with
        | some v => if colon ∧ v = "" then none else some v
        | none => none
      match behind with
      | [] => if colon then abort "Bad substitution" else return shown (← setOrRefuse name value)
      | '-' :: cs =>
        match present with
        | some v => return shown v
        | none => word split cs
      | '=' :: cs =>
        match present with
        | some v => return shown v
        | none => do
          let v := glyphText (glyphsOf (← word false cs))
          modify fun m => m.assign name v
          return valuePieces (← get) quoted split v
      | '+' :: cs => if present.isSome then word split cs else return []
      | '?' :: cs =>
        match present with
        | some v => return shown v
        | none => do
          let reason := glyphText (glyphsOf (← word false cs))
          abort (name ++ ": " ++ if cs.isEmpty then
            if colon then "parameter not set or null" else "parameter not set" else reason)
      | '%' :: '%' :: cs => do
        let p := glyphsOf (← expandMarks output false fuel (innerMarks false cs))
        return valuePieces m quoted split (String.ofList (cutEnd true p (value.getD "").toList))
      | '%' :: cs => do
        let p := glyphsOf (← expandMarks output false fuel (innerMarks false cs))
        return valuePieces m quoted split (String.ofList (cutEnd false p (value.getD "").toList))
      | '#' :: '#' :: cs => do
        let p := glyphsOf (← expandMarks output false fuel (innerMarks false cs))
        return valuePieces m quoted split (String.ofList (cutStart true p (value.getD "").toList))
      | '#' :: cs => do
        let p := glyphsOf (← expandMarks output false fuel (innerMarks false cs))
        return valuePieces m quoted split (String.ofList (cutStart false p (value.getD "").toList))
      | _ => abort "Bad substitution"

end

/-- The marks of a word with the home directory put in for a tilde at its start. -/
def withHome (m : Machine) (w : Word) : List Mark :=
  let home (rest : List Mark) : List Mark :=
    match m.values.get? "HOME" with
    | some dir => dir.toList.map .hard ++ rest
    | none => .bare '~' :: rest
  match w with
  | [.bare '~'] => home []
  | .bare '~' :: .bare '/' :: rest => home (.bare '/' :: rest)
  | w => w

/-- Steps enough for a word. -/
def wordFuel (w : Word) : Nat := 10 * w.length + 10

/-- The fields of a word. -/
def expandFields (output : String → Action String) (w : Word) : Action (List String) := do
  let m ← get
  if w = [.quote, .soft '$', .soft '@'] ∧ m.parameters.isEmpty then return [] else
  let pieces ← expandMarks output true (wordFuel w) (withHome m w)
  let files := (← get).files
  return (fieldsOf none pieces).flatMap (pathsOf files)

/-- The glyphs of a word that is not split. -/
def expandGlyphs (output : String → Action String) (w : Word) : Action (List Glyph) := do
  return glyphsOf (← expandMarks output false (wordFuel w) (withHome (← get) w))

/-- The text of a word that is not split. -/
def expandText (output : String → Action String) (w : Word) : Action String := do
  return glyphText (← expandGlyphs output w)

end Runbook.Shell
