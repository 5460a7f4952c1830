import Runbook.Decimal.Shortest
import Runbook.Json.Basic

/-!
# Writing TOML

An object becomes a document: its plain members come first, each on a line, then its tables under
headers. A list of tables becomes tables in double brackets. Lists of two items and more run over
several lines. Null has no place in a document.
-/

namespace Runbook.Toml

open Decimal (Binary64)

/-- The longest run of a character. -/
def longestRun (c : Char) (cs : List Char) : Nat :=
  (cs.foldl (fun (longest, run) d =>
    let run := if d = c then run + 1 else 0
    (max longest run, run)) (0, 0)).1

/-- The ways to write a string. -/
inductive StringStyle where
  | basic | literal | basicLines | literalLines
deriving DecidableEq, Repr

/-- The first style, in order of preference, that shows the text without escapes. -/
def chooseStyle (cs : List Char) : StringStyle :=
  let controls := cs.any fun c => c.toNat == 127 || (c.toNat < 32 && c != '\t' && c != '\n')
  let newline := cs.contains '\n'
  let backslash := cs.contains '\\'
  let doubles := longestRun '"' cs
  let singles := longestRun '\'' cs
  if !controls && !backslash && doubles == 0 && !newline then .basic
  else if !controls && singles == 0 && !newline then .literal
  else if !controls && !backslash && doubles ≤ 2 then .basicLines
  else if !controls && singles ≤ 2 then .literalLines
  else if newline then .basicLines
  else .basic

/-- Four upper-case hexadecimal digits. -/
def hex4 (n : Nat) : List Char :=
  let ds := (Nat.toDigits 16 n).map Char.toUpper
  List.replicate (4 - ds.length) '0' ++ ds

/-- Escapes a text; `quotes` double quotes may stand next to each other as they are. -/
def escaped (lines : Bool) (quotes : Nat) : (run : Nat) → List Char → List Char
  | _, [] => []
  | run, c :: cs =>
    if c = '"' then
      if quotes < run + 1 then '\\' :: '"' :: escaped lines quotes 0 cs
      else '"' :: escaped lines quotes (run + 1) cs
    else
      let text := match c with
        | '\x08' => ['\\', 'b']
        | '\t' => ['\\', 't']
        | '\n' => if lines then ['\n'] else ['\\', 'n']
        | '\x0c' => ['\\', 'f']
        | '\r' => ['\\', 'r']
        | '\\' => ['\\', '\\']
        | c => if c.toNat < 32 || c.toNat == 127 then '\\' :: 'u' :: hex4 c.toNat else [c]
      text ++ escaped lines quotes 0 cs

/-- A string in the style that suits it. -/
def stringText (s : String) : String :=
  let cs := s.toList
  let opening := if cs.contains '\n' then "\n" else ""
  match chooseStyle cs with
  | .basic => "\"" ++ String.ofList (escaped false 0 0 cs) ++ "\""
  | .literal => "'" ++ s ++ "'"
  | .basicLines => "\"\"\"" ++ opening ++ String.ofList (escaped true 2 0 cs) ++ "\"\"\""
  | .literalLines => "'''" ++ opening ++ s ++ "'''"

/-- A key, without quotes if all its characters allow that. -/
def keyText (key : String) : String :=
  let cs := key.toList
  let plain := cs.all fun c => !(c.toNat == 127 || (c.toNat < 32 && c != '\t'))
  if !cs.isEmpty && cs.all (fun c => c.isAlphanum || c == '-' || c == '_') then key
  else if plain && !cs.contains '\\' && !cs.contains '"' then
    "\"" ++ String.ofList (escaped false 0 0 cs) ++ "\""
  else if plain && !cs.contains '\'' then "'" ++ key ++ "'"
  else "\"" ++ String.ofList (escaped false 0 0 cs) ++ "\""

/-- A double in positional notation with the fewest digits that read back. -/
def floatText (x : Binary64) : String :=
  let sign := if x.negative then "-" else ""
  if x.isNaN then sign ++ "nan"
  else if !x.isFinite then sign ++ "inf"
  else
    let s := x.shortest
    let ds := Nat.toDigits 10 s.coefficient
    let point : Int := ds.length + s.exponent
    let text :=
      if s.coefficient = 0 then ['0', '.', '0']
      else if point ≤ 0 then '0' :: '.' :: (List.replicate (-point).toNat '0' ++ ds)
      else if ds.length ≤ point.toNat then
        ds ++ List.replicate (point.toNat - ds.length) '0' ++ ['.', '0']
      else ds.take point.toNat ++ '.' :: ds.drop point.toNat
    sign ++ String.ofList text

mutual

/-- A value on the right of a key; none for null. -/
def valueText? : Json → Option String
  | .null => none
  | .bool b => some (if b then "true" else "false")
  | .int n => some (toString n)
  | .float x => some (floatText x)
  | .str s => some (stringText s)
  | .arr items =>
    (itemTexts? items).map fun texts =>
      match texts with
      | [] => "[]"
      | [t] => "[" ++ t ++ "]"
      | texts => "[\n" ++ String.join (texts.map fun t => "    " ++ t ++ ",\n") ++ "]"
  | .obj members =>
    (memberTexts? members).map fun texts =>
      if texts.isEmpty then "\x7b\x7d" else "\x7b " ++ ", ".intercalate texts ++ " \x7d"
termination_by structural j => j

/-- The items of a list. -/
def itemTexts? : List Json → Option (List String)
  | [] => some []
  | j :: rest =>
    match valueText? j, itemTexts? rest with
    | some t, some ts => some (t :: ts)
    | _, _ => none
termination_by structural js => js

/-- The members of a table between braces. -/
def memberTexts? : List (String × Json) → Option (List String)
  | [] => some []
  | (key, j) :: rest =>
    match valueText? j, memberTexts? rest with
    | some t, some ts => some ((keyText key ++ " = " ++ t) :: ts)
    | _, _ => none
termination_by structural ms => ms

end

/-- The value is a table. -/
def isTable : Json → Bool
  | .obj _ => true
  | _ => false

/-- The value is written on a line of its own rather than under headers. -/
def isPlain : Json → Bool
  | .obj _ => false
  | .arr items => items.isEmpty || !items.all isTable
  | _ => true

/-- The lines of the plain members of a table. -/
def bodyText? (members : List (String × Json)) : Option String := do
  let lines ← (members.filter (isPlain ·.2)).mapM fun (key, j) =>
    (valueText? j).map fun t => keyText key ++ " = " ++ t ++ "\n"
  return String.join lines

/-- The path of a header. -/
def pathText (path : List String) : String := ".".intercalate (path.map keyText)

/-- A table with its header; without members of its own a table that others stand in has none. -/
def section? (path : List String) (isRow : Bool) (members : List (String × Json)) :
    Option (List String) := do
  let body ← bodyText? members
  let header :=
    if path.isEmpty then ""
    else if isRow then "[[" ++ pathText path ++ "]]\n" else "[" ++ pathText path ++ "]\n"
  let hidden := body.isEmpty && !isRow && (path.isEmpty || members.any (!isPlain ·.2))
  return if hidden then [] else [header ++ body]

mutual

/-- The tables that a value under a path is written as, in order. -/
def tables? (path : List String) : Json → Option (List String)
  | .obj members => do
    let own ← section? path false members
    let inner ← membersTables? path members
    return own ++ inner
  | .arr items => rowsTables? path items
  | _ => some []
termination_by structural j => j

/-- The tables of the rows of a list. -/
def rowsTables? (path : List String) : List Json → Option (List String)
  | [] => some []
  | .obj members :: rest => do
    let own ← section? path true members
    let inner ← membersTables? path members
    let others ← rowsTables? path rest
    return own ++ inner ++ others
  | _ :: _ => none
termination_by structural js => js

/-- The tables of the members that are not plain. -/
def membersTables? (path : List String) : List (String × Json) → Option (List String)
  | [] => some []
  | (key, j) :: rest => do
    let inner ← if isPlain j then some [] else tables? (path ++ [key]) j
    let others ← membersTables? path rest
    return inner ++ others
termination_by structural ms => ms

end

/-- The document of an object, with a blank line between its tables. -/
def print? (j : Json) : Option String := (tables? [] j).map ("\n".intercalate ·)

end Runbook.Toml
