import Runbook.Json.Basic
import Runbook.Decimal.Shortest

/-!
# Writing JSON

A value is written either compactly, without any blank, or over several lines with two blanks of
indent for each level. Doubles have the fewest digits that read back, in positional notation from
`0.00001` up to 16 digits before the point.
-/

namespace Runbook.Json

open Decimal

/-- Four lower-case hexadecimal digits. -/
def hex4 (n : Nat) : List Char :=
  let ds := Nat.toDigits 16 n
  List.replicate (4 - ds.length) '0' ++ ds

/-- One character inside a string: quotes, backslashes and controls are escaped, nothing else. -/
def escapeChar (c : Char) : List Char :=
  match c with
  | '"' => ['\\', '"']
  | '\\' => ['\\', '\\']
  | '\x08' => ['\\', 'b']
  | '\x0c' => ['\\', 'f']
  | '\n' => ['\\', 'n']
  | '\r' => ['\\', 'r']
  | '\t' => ['\\', 't']
  | c => if c.toNat < 32 then '\\' :: 'u' :: hex4 c.toNat else [c]

/-- A string with its quotes. -/
def stringChars (text : String) : List Char :=
  '"' :: (text.toList.flatMap escapeChar ++ ['"'])

/-- An integer in decimal. -/
def intChars : Int → List Char
  | .ofNat n => Nat.toDigits 10 n
  | .negSucc n => '-' :: Nat.toDigits 10 (n + 1)

/-- Digits with a decimal point behind the first `point` of them, padded by zeros. -/
def positional (digits : List Char) (point : Int) : List Char :=
  if point ≤ 0 then '0' :: '.' :: (List.replicate (-point).toNat '0' ++ digits)
  else if digits.length ≤ point.toNat then
    digits ++ List.replicate (point.toNat - digits.length) '0' ++ ['.', '0']
  else digits.take point.toNat ++ '.' :: digits.drop point.toNat

/-- One digit before the point and a signed exponent. -/
def exponential (digits : List Char) (exponent : Int) : List Char :=
  let mantissa := match digits with
    | d :: e :: rest => d :: '.' :: e :: rest
    | ds => ds
  mantissa ++ 'e' :: (if 0 ≤ exponent then '+' :: Nat.toDigits 10 exponent.toNat
    else '-' :: Nat.toDigits 10 (-exponent).toNat)

/-- A decimal, positional where the point falls from five places before the first digit up to 16
places behind it. -/
def scientificChars (s : Scientific) : List Char :=
  if s.coefficient = 0 then ['0', '.', '0'] else
  let digits := Nat.toDigits 10 s.coefficient
  let point : Int := digits.length + s.exponent
  if -5 < point ∧ point ≤ 16 then positional digits point
  else exponential digits (point - 1)

/-- A double; what is not finite has no number and is written as null. -/
def floatChars (x : Binary64) : List Char :=
  if x.isFinite then (if x.negative then ['-'] else []) ++ scientificChars x.shortest
  else ['n', 'u', 'l', 'l']

mutual

/-- The compact text of a value. -/
def compactChars : Json → List Char
  | .null => ['n', 'u', 'l', 'l']
  | .bool true => ['t', 'r', 'u', 'e']
  | .bool false => ['f', 'a', 'l', 's', 'e']
  | .int n => intChars n
  | .float x => floatChars x
  | .str s => stringChars s
  | .arr [] => ['[', ']']
  | .arr (j :: rest) => '[' :: (compactChars j ++ compactItems rest)
  | .obj [] => ['{', '}']
  | .obj ((n, v) :: rest) =>
    '{' :: (stringChars n ++ ':' :: (compactChars v ++ compactMembers rest))
termination_by structural j => j

/-- The items behind the first one, up to the closing bracket. -/
def compactItems : List Json → List Char
  | [] => [']']
  | j :: rest => ',' :: (compactChars j ++ compactItems rest)
termination_by structural js => js

/-- The members behind the first one, up to the closing brace. -/
def compactMembers : List (String × Json) → List Char
  | [] => ['}']
  | (n, v) :: rest =>
    ',' :: (stringChars n ++ ':' :: (compactChars v ++ compactMembers rest))
termination_by structural ms => ms

end

/-- The value on one line without blanks. -/
def compact (j : Json) : String := String.ofList j.compactChars

/-- A new line indented to a level. -/
def lineAt (level : Nat) : List Char := '\n' :: List.replicate (2 * level) ' '

mutual

/-- The text of a value over several lines, for a value at the given level. -/
def prettyChars (level : Nat) : Json → List Char
  | .arr [] => ['[', ']']
  | .arr (j :: rest) =>
    '[' :: (lineAt (level + 1) ++ prettyChars (level + 1) j ++ prettyItems level rest)
  | .obj [] => ['{', '}']
  | .obj ((n, v) :: rest) =>
    '{' :: (lineAt (level + 1) ++ stringChars n ++ ':' :: ' ' ::
      (prettyChars (level + 1) v ++ prettyMembers level rest))
  | .null => ['n', 'u', 'l', 'l']
  | .bool b => compactChars (.bool b)
  | .int n => intChars n
  | .float x => floatChars x
  | .str s => stringChars s
termination_by structural j => j

/-- The items behind the first one, each on a line of its own. -/
def prettyItems (level : Nat) : List Json → List Char
  | [] => lineAt level ++ [']']
  | j :: rest =>
    ',' :: (lineAt (level + 1) ++ prettyChars (level + 1) j ++ prettyItems level rest)
termination_by structural js => js

/-- The members behind the first one, each on a line of its own. -/
def prettyMembers (level : Nat) : List (String × Json) → List Char
  | [] => lineAt level ++ ['}']
  | (n, v) :: rest =>
    ',' :: (lineAt (level + 1) ++ stringChars n ++ ':' :: ' ' ::
      (prettyChars (level + 1) v ++ prettyMembers level rest))
termination_by structural ms => ms

end

/-- The value over several lines, two blanks of indent for each level. -/
def pretty (j : Json) : String := String.ofList (prettyChars 0 j)

end Runbook.Json
