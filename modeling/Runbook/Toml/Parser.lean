import Runbook.Toml.Quotes
import Runbook.Toml.Scalar
import Runbook.Toml.Table

/-!
# Reading TOML

A document is read line by line: blank lines, comments, headers, and keys with values, which alone
may run over several lines. The fuel of each reader is the length of the text, since every round
uses at least one character.
-/

namespace Runbook.Toml

/-- A character of a key without quotes. -/
def isBare (c : Char) : Bool := c.isAlphanum || c == '-' || c == '_'

/-- Reads one part of a key. -/
def keyPart? (cs : List Char) : Option (String × List Char) :=
  match cs with
  | '"' :: rest => (basicBody (rest.length + 1) rest).map fun (k, r) => (String.ofList k, r)
  | '\'' :: rest => (literalBody rest).map fun (k, r) => (String.ofList k, r)
  | cs =>
    let name := cs.takeWhile isBare
    if name.isEmpty then none else some (String.ofList name, cs.dropWhile isBare)

/-- Reads a key, whose parts stand between dots, with blanks around each. -/
def key? : (fuel : Nat) → List Char → Option (List String × List Char)
  | 0, _ => none
  | fuel + 1, cs =>
    match keyPart? (skipBlanks cs) with
    | none => none
    | some (part, rest) =>
      match skipBlanks rest with
      | '.' :: rest => (key? fuel rest).map fun (parts, rest) => (part :: parts, rest)
      | rest => some ([part], rest)

/-- The text behind a comment, at the end of its line. -/
def comment? (cs : List Char) : Option (List Char) :=
  let rest := cs.dropWhile fun c => !isControl c
  match rest with
  | [] => some []
  | rest => if (newline? rest).isSome then some rest else none

/-- The text behind blanks, ends of lines and comments. -/
def skipFiller : (fuel : Nat) → List Char → Option (List Char)
  | 0, _ => none
  | fuel + 1, cs =>
    match skipBlanks cs with
    | '#' :: rest =>
      match comment? rest with
      | some rest => skipFiller fuel rest
      | none => none
    | cs =>
      match newline? cs with
      | some rest => skipFiller fuel rest
      | none => some cs

/-- A character that ends a word. -/
def endsWord (c : Char) : Bool :=
  [' ', '\t', '\n', '\r', ',', ']', '}', '#', '=', '[', '{', '"', '\''].contains c

/-- Reads a word; behind a date a blank may lead to its time. -/
def word (cs : List Char) : List Char × List Char :=
  let first := cs.takeWhile (!endsWord ·)
  let rest := cs.dropWhile (!endsWord ·)
  match rest with
  | ' ' :: c :: more =>
    if c.isDigit ∧ ((date? first).map (·.2)) = some [] then
      (first ++ ' ' :: (c :: more).takeWhile (!endsWord ·), (c :: more).dropWhile (!endsWord ·))
    else (first, rest)
  | rest => (first, rest)

/-- How deep values may be nested. -/
def depthMax : Nat := 80

mutual

/-- Reads a value. -/
def value? : (fuel depth : Nat) → List Char → Option (Json × List Char)
  | 0, _, _ => none
  | fuel + 1, depth, cs =>
    match cs, depth with
    | '"' :: _, _ | '\'' :: _, _ =>
      (string? cs).map fun (s, rest) => (.str (String.ofList s), rest)
    | '[' :: _, 0 | '{' :: _, 0 => none
    | '[' :: rest, depth + 1 =>
      (items? fuel depth rest).map fun (js, rest) => (.arr js, rest)
    | '{' :: rest, depth + 1 =>
      (members? fuel depth (.new .header) rest).map fun (t, rest) => (t.value, rest)
    | cs, _ =>
      let (first, rest) := word cs
      (scalarOfWord? first).map (·, rest)

/-- Reads the items of an array up to its bracket; a comma may follow the last one. -/
def items? : (fuel depth : Nat) → List Char → Option (List Json × List Char)
  | 0, _, _ => none
  | fuel + 1, depth, cs =>
    match skipFiller (cs.length + 1) cs with
    | none => none
    | some (']' :: rest) => some ([], rest)
    | some cs =>
      match value? fuel depth cs with
      | none => none
      | some (j, rest) =>
        match skipFiller (rest.length + 1) rest with
        | some (',' :: rest) => (items? fuel depth rest).map fun (js, rest) => (j :: js, rest)
        | some (']' :: rest) => some ([j], rest)
        | _ => none

/-- Reads the members of a table between braces; a comma may follow the last one. -/
def members? : (fuel depth : Nat) → Table → List Char → Option (Table × List Char)
  | 0, _, _, _ => none
  | fuel + 1, depth, t, cs =>
    match skipFiller (cs.length + 1) cs with
    | none => none
    | some ('}' :: rest) => some (t, rest)
    | some cs =>
      match keyValue? fuel depth t cs with
      | none => none
      | some (t, rest) =>
        match skipFiller (rest.length + 1) rest with
        | some (',' :: rest) => members? fuel depth t rest
        | some ('}' :: rest) => some (t, rest)
        | _ => none

/-- Reads a key and its value into a table. -/
def keyValue? : (fuel depth : Nat) → Table → List Char → Option (Table × List Char)
  | 0, _, _, _ => none
  | fuel + 1, depth, t, cs =>
    match key? (cs.length + 1) cs with
    | some (path, '=' :: rest) =>
      match value? fuel depth (skipBlanks rest), path.getLast? with
      | some (j, rest), some key => (t.add? path.dropLast key j).map (·, rest)
      | _, _ => none
    | _ => none

end

/-- A header: the path of its table, and whether it stands in double brackets. -/
structure Header where
  path : List String
  name : String
  isRow : Bool

/-- A document that is being read: what was finished, and the table that lines go into. -/
structure Progress where
  root : Table
  header : Option Header
  current : Table

namespace Progress

/-- Before the first line. -/
def start : Progress := ⟨.new .header, none, .new .header⟩

/-- Puts the current table where its header says. -/
def finish? (p : Progress) : Option Table :=
  match p.header with
  | none => some p.current
  | some h =>
    Table.change? .passage (fun t =>
      if h.isRow then
        match t.get? h.name with
        | none => some (t.set h.name (.tables [p.current.entries]))
        | some (.tables rows) => some (t.set h.name (.tables (p.current.entries :: rows)))
        | some _ => none
      else match t.get? h.name with
        | none => some (t.set h.name (.table .header p.current.entries))
        | some _ => none) h.path p.root

/-- Goes on with the table of another header. A table that so far only stood on the way to others
keeps what it holds. -/
def enter? (p : Progress) (h : Header) : Option Progress := do
  let root ← p.finish?
  let (found, root) ← root.open? h.path h.name
  if h.isRow then
    match found with
    | none | some (.tables _) => return ⟨root, some h, .new .header⟩
    | some _ => none
  else
    match found with
    | none => return ⟨root, some h, .new .header⟩
    | some (.table .passage entries) =>
      let root ← Table.change? .passage (fun t => some (t.remove h.name)) h.path root
      return ⟨root, some h, ⟨.header, entries⟩⟩
    | some _ => none

end Progress

/-- Reads a header behind its opening brackets. -/
def header? (isRow : Bool) (cs : List Char) : Option (Header × List Char) :=
  match key? (cs.length + 1) cs with
  | none => none
  | some (path, rest) =>
    let rest := match isRow, rest with
      | true, ']' :: ']' :: rest => some rest
      | false, ']' :: rest => some rest
      | _, _ => none
    match rest, path.getLast? with
    | some rest, some name => some (⟨path.dropLast, name, isRow⟩, rest)
    | _, _ => none

/-- The text behind the end of a line, before which only blanks and a comment may stand. -/
def endLine? (cs : List Char) : Option (List Char) :=
  let rest := match skipBlanks cs with
    | '#' :: rest => comment? rest
    | rest => some rest
  match rest with
  | some [] => some []
  | some rest => newline? rest
  | none => none

/-- Reads the lines of a document. -/
def lines? : (fuel : Nat) → Progress → List Char → Option Progress
  | 0, _, _ => none
  | fuel + 1, p, cs =>
    match skipBlanks cs with
    | [] => some p
    | '[' :: '[' :: rest =>
      match header? true rest with
      | none => none
      | some (h, rest) =>
        match p.enter? h, endLine? rest with
        | some p, some rest => lines? fuel p rest
        | _, _ => none
    | '[' :: rest =>
      match header? false rest with
      | none => none
      | some (h, rest) =>
        match p.enter? h, endLine? rest with
        | some p, some rest => lines? fuel p rest
        | _, _ => none
    | cs =>
      match endLine? cs with
      | some rest => lines? fuel p rest
      | none =>
        match keyValue? (2 * cs.length + 2) depthMax p.current cs with
        | none => none
        | some (t, rest) =>
          match endLine? rest with
          | some rest => lines? fuel { p with current := t } rest
          | none => none

/-- The value of a document, an object; a byte order mark may stand before it. -/
def parse? (text : String) : Option Json :=
  let cs := match text.toList with
    | '\ufeff' :: rest => rest
    | cs => cs
  ((lines? (cs.length + 1) .start cs).bind Progress.finish?).map Table.value

end Runbook.Toml
