import Runbook.Json.Number

/-!
# Reading JSON

A reader takes the characters that are left and returns what it read with the rest of them. A
value may be nested 127 levels deep. The fuel of the recursion is taken from the length of the
text: every value and every separator uses at least one character.
-/

namespace Runbook.Json

/-- Blanks between tokens. -/
def isSpace (c : Char) : Bool := c == ' ' || c == '\n' || c == '\t' || c == '\r'

/-- The text from the first token on. -/
def skipSpace (cs : List Char) : List Char := cs.dropWhile isSpace

/-- The value of a hexadecimal digit of either case. -/
def hexValue? (c : Char) : Option Nat :=
  if '0' ≤ c ∧ c ≤ '9' then some (c.toNat - '0'.toNat)
  else if 'a' ≤ c ∧ c ≤ 'f' then some (c.toNat - 'a'.toNat + 10)
  else if 'A' ≤ c ∧ c ≤ 'F' then some (c.toNat - 'A'.toNat + 10)
  else none

/-- The number that four hexadecimal digits write. -/
def unit? (a b c d : Char) : Option Nat := do
  let a ← hexValue? a
  let b ← hexValue? b
  let c ← hexValue? c
  let d ← hexValue? d
  return ((a * 16 + b) * 16 + c) * 16 + d

/-- The character that a single unit stands for; surrogates stand for none. -/
def singleUnit? (u : Nat) : Option Char :=
  if 0xD800 ≤ u ∧ u < 0xE000 then none else some (Char.ofNat u)

/-- The character that a pair of surrogates stands for. -/
def unitPair? (high low : Nat) : Option Char :=
  if 0xD800 ≤ high ∧ high < 0xDC00 ∧ 0xDC00 ≤ low ∧ low < 0xE000 then
    some (Char.ofNat (0x10000 + (high - 0xD800) * 0x400 + (low - 0xDC00)))
  else none

/-- The character behind a backslash that has a name of one letter. -/
def namedEscape? (c : Char) : Option Char :=
  match c with
  | '"' => some '"'
  | '\\' => some '\\'
  | '/' => some '/'
  | 'b' => some '\x08'
  | 'f' => some '\x0c'
  | 'n' => some '\n'
  | 'r' => some '\r'
  | 't' => some '\t'
  | _ => none

/-- The characters of a string up to its closing quote, with the text behind that quote. -/
def stringBody : List Char → Option (List Char × List Char)
  | [] => none
  | '"' :: rest => some ([], rest)
  | '\\' :: 'u' :: a :: b :: c :: d :: rest =>
    match unit? a b c d with
    | none => none
    | some u =>
      match singleUnit? u with
      | some ch => (stringBody rest).map fun (s, r) => (ch :: s, r)
      | none =>
        match rest with
        | '\\' :: 'u' :: e :: f :: g :: h :: rest =>
          match (unit? e f g h).bind (unitPair? u) with
          | some ch => (stringBody rest).map fun (s, r) => (ch :: s, r)
          | none => none
        | _ => none
  | '\\' :: c :: rest =>
    match namedEscape? c with
    | some ch => (stringBody rest).map fun (s, r) => (ch :: s, r)
    | none => none
  | c :: rest =>
    if c.toNat < 32 ∨ c = '\\' then none
    else (stringBody rest).map fun (s, r) => (c :: s, r)
termination_by structural cs => cs

/-- The text behind a word that must stand here. -/
def word? : (word : List Char) → List Char → Option (List Char)
  | [], cs => some cs
  | _ :: _, [] => none
  | w :: ws, c :: cs => if w = c then word? ws cs else none

mutual

/-- Reads a value that starts here and may hold `depth` further levels. -/
def value (depth : Nat) : (fuel : Nat) → List Char → Option (Json × List Char)
  | 0, _ => none
  | fuel + 1, cs =>
    match cs with
    | [] => none
    | 'n' :: rest => (word? ['u', 'l', 'l'] rest).map (Json.null, ·)
    | 't' :: rest => (word? ['r', 'u', 'e'] rest).map (Json.bool true, ·)
    | 'f' :: rest => (word? ['a', 'l', 's', 'e'] rest).map (Json.bool false, ·)
    | '"' :: rest => (stringBody rest).map fun (s, r) => (.str (String.ofList s), r)
    | '[' :: rest =>
      match depth with
      | 0 => none
      | depth + 1 =>
        match skipSpace rest with
        | ']' :: rest => some (.arr [], rest)
        | rest => (items depth fuel rest).map fun (js, r) => (.arr js, r)
    | '{' :: rest =>
      match depth with
      | 0 => none
      | depth + 1 =>
        match skipSpace rest with
        | '}' :: rest => some (.obj [], rest)
        | rest => (members depth fuel rest).map fun (ms, r) => (.obj ms, r)
    | c :: rest => if c = '-' ∨ c.isDigit then number (c :: rest) else none
termination_by structural fuel => fuel

/-- Reads one item or more, up to the closing bracket. -/
def items (depth : Nat) : (fuel : Nat) → List Char → Option (List Json × List Char)
  | 0, _ => none
  | fuel + 1, cs =>
    match value depth fuel cs with
    | none => none
    | some (j, rest) =>
      match skipSpace rest with
      | ']' :: rest => some ([j], rest)
      | ',' :: rest => (items depth fuel (skipSpace rest)).map fun (js, r) => (j :: js, r)
      | _ => none
termination_by structural fuel => fuel

/-- Reads one member or more, up to the closing brace. -/
def members (depth : Nat) : (fuel : Nat) → List Char → Option (List (String × Json) × List Char)
  | 0, _ => none
  | fuel + 1, cs =>
    match cs with
    | '"' :: rest =>
      match stringBody rest with
      | none => none
      | some (name, rest) =>
        match skipSpace rest with
        | ':' :: rest =>
          match value depth fuel (skipSpace rest) with
          | none => none
          | some (j, rest) =>
            match skipSpace rest with
            | '}' :: rest => some ([(String.ofList name, j)], rest)
            | ',' :: rest =>
              (members depth fuel (skipSpace rest)).map
                fun (ms, r) => ((String.ofList name, j) :: ms, r)
            | _ => none
        | _ => none
    | _ => none
termination_by structural fuel => fuel

end

/-- How many levels of arrays and objects a text may have. -/
def depthMax : Nat := 127

/-- The value that a reader finds in a text, if it reads all of it; blanks may stand around it. -/
def whole? (read : (fuel : Nat) → List Char → Option (Json × List Char)) (text : String) :
    Option Json :=
  match read (2 * text.length + 2) (skipSpace text.toList) with
  | some (j, rest) => if skipSpace rest = [] then some j else none
  | none => none

/-- The value a text writes, members named twice included. -/
def parse? (text : String) : Option Json := whole? (value depthMax) text

/-- The value a text writes, each member once. -/
def read? (text : String) : Option Json := (parse? text).map merged

end Runbook.Json
