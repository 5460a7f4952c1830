import Runbook.Json.Parser

/-!
# Passing over JSON

A reader that expects an object with certain members takes no notice of the others. It passes over
their values and checks only their form: a number may be out of range, an escape in a string may
stand for no character, and there is no limit to the depth. A function that passes over something
returns the text behind it.

The reader of such objects is `record`, and `recordList` reads a list of them. Both keep the members
they expect and leave the others out.
-/

namespace Runbook.Json

/-! ### Values that do not matter -/

/-- The text behind the closing quote of a string. Behind `\u` four digits must stand, whatever
they write. -/
def skipString : List Char → Option (List Char)
  | [] => none
  | '"' :: rest => some rest
  | '\\' :: 'u' :: a :: b :: c :: d :: rest =>
    if (unit? a b c d).isSome then skipString rest else none
  | '\\' :: c :: rest => if (namedEscape? c).isSome then skipString rest else none
  | c :: rest => if c.toNat < 32 ∨ c = '\\' then none else skipString rest
termination_by structural cs => cs

/-- The text behind one digit or more. -/
def skipDigits (cs : List Char) : Option (List Char) :=
  if cs.takeWhile Char.isDigit = [] then none else some (cs.dropWhile Char.isDigit)

/-- The text behind the exponent, if there is one. -/
def skipExponent : List Char → Option (List Char)
  | c :: cs =>
    if c = 'e' ∨ c = 'E' then skipDigits (sign true cs).2 else some (c :: cs)
  | [] => some []

/-- The text behind the places behind the point, if there are any, and the exponent. -/
def skipFraction : List Char → Option (List Char)
  | '.' :: r => (skipDigits r).bind skipExponent
  | rest => skipExponent rest

/-- The text behind a number; a leading zero is followed by no digit. -/
def skipNumber (cs : List Char) : Option (List Char) :=
  let cs := (sign false cs).2
  let digits := cs.takeWhile Char.isDigit
  if digits = [] ∨ (digits.head? = some '0' ∧ 1 < digits.length) then none
  else skipFraction (cs.dropWhile Char.isDigit)

mutual

/-- The text behind a value that starts here. -/
def skip : (fuel : Nat) → List Char → Option (List Char)
  | 0, _ => none
  | fuel + 1, cs =>
    match cs with
    | [] => none
    | 'n' :: rest => word? ['u', 'l', 'l'] rest
    | 't' :: rest => word? ['r', 'u', 'e'] rest
    | 'f' :: rest => word? ['a', 'l', 's', 'e'] rest
    | '"' :: rest => skipString rest
    | '[' :: rest =>
      match skipSpace rest with
      | ']' :: rest => some rest
      | rest => skipItems fuel rest
    | '{' :: rest =>
      match skipSpace rest with
      | '}' :: rest => some rest
      | rest => skipMembers fuel rest
    | c :: rest => if c = '-' ∨ c.isDigit then skipNumber (c :: rest) else none
termination_by structural fuel => fuel

/-- The text behind one item or more and the closing bracket. -/
def skipItems : (fuel : Nat) → List Char → Option (List Char)
  | 0, _ => none
  | fuel + 1, cs =>
    match skip fuel cs with
    | none => none
    | some rest =>
      match skipSpace rest with
      | ']' :: rest => some rest
      | ',' :: rest => skipItems fuel (skipSpace rest)
      | _ => none
termination_by structural fuel => fuel

/-- The text behind one member or more and the closing brace. -/
def skipMembers : (fuel : Nat) → List Char → Option (List Char)
  | 0, _ => none
  | fuel + 1, cs =>
    match cs with
    | '"' :: rest =>
      match skipString rest with
      | none => none
      | some rest =>
        match skipSpace rest with
        | ':' :: rest =>
          match skip fuel (skipSpace rest) with
          | none => none
          | some rest =>
            match skipSpace rest with
            | '}' :: rest => some rest
            | ',' :: rest => skipMembers fuel (skipSpace rest)
            | _ => none
        | _ => none
    | _ => none
termination_by structural fuel => fuel

end

/-! ### Objects with members that are expected -/

/-- Reads the value of a member, if its name is among those expected, and passes over it if not. -/
def member (names : List String) (depth fuel : Nat) (name : String) (cs : List Char) :
    Option (List (String × Json) × List Char) :=
  if name ∈ names then (value depth fuel cs).map fun (j, r) => ([(name, j)], r)
  else (skip fuel cs).map ([], ·)

/-- Reads one member or more, up to the closing brace. -/
def recordMembers (names : List String) (depth : Nat) :
    (fuel : Nat) → List Char → Option (List (String × Json) × List Char)
  | 0, _ => none
  | fuel + 1, cs =>
    match cs with
    | '"' :: rest =>
      match stringBody rest with
      | none => none
      | some (name, rest) =>
        match skipSpace rest with
        | ':' :: rest =>
          match member names depth fuel (String.ofList name) (skipSpace rest) with
          | none => none
          | some (ms, rest) =>
            match skipSpace rest with
            | '}' :: rest => some (ms, rest)
            | ',' :: rest =>
              (recordMembers names depth fuel (skipSpace rest)).map
                fun (more, r) => (ms ++ more, r)
            | _ => none
        | _ => none
    | _ => none

/-- Reads a value that starts here; of an object only the members whose names are expected. -/
def record (names : List String) : (depth fuel : Nat) → List Char → Option (Json × List Char)
  | depth + 1, fuel + 1, '{' :: rest =>
    match skipSpace rest with
    | '}' :: rest => some (.obj [], rest)
    | rest => (recordMembers names depth fuel rest).map fun (ms, r) => (.obj ms, r)
  | depth, fuel, cs => value depth fuel cs

/-- Reads one item or more, up to the closing bracket. -/
def recordItems (names : List String) (depth : Nat) :
    (fuel : Nat) → List Char → Option (List Json × List Char)
  | 0, _ => none
  | fuel + 1, cs =>
    match record names depth fuel cs with
    | none => none
    | some (j, rest) =>
      match skipSpace rest with
      | ']' :: rest => some ([j], rest)
      | ',' :: rest =>
        (recordItems names depth fuel (skipSpace rest)).map fun (js, r) => (j :: js, r)
      | _ => none

/-- Reads a value that starts here; in an array it takes the items as records. -/
def recordList (names : List String) : (depth fuel : Nat) → List Char → Option (Json × List Char)
  | depth + 1, fuel + 1, '[' :: rest =>
    match skipSpace rest with
    | ']' :: rest => some (.arr [], rest)
    | rest => (recordItems names depth fuel rest).map fun (js, r) => (.arr js, r)
  | depth, fuel, cs => value depth fuel cs

/-- The value a text writes, less the members of an object that are not expected. -/
def record? (names : List String) (text : String) : Option Json :=
  whole? (record names depthMax) text

/-- The value a text writes, less the members that are not expected of the objects in a list. -/
def recordList? (names : List String) (text : String) : Option Json :=
  whole? (recordList names depthMax) text

end Runbook.Json
