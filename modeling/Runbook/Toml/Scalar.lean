import Runbook.Json.Basic

/-!
# TOML numbers and dates

A scalar without quotes is a word: a truth value, a number or a date. Integers fit 128 bits; a date
stands for an object that holds its text under a name of its own.
-/

namespace Runbook.Toml

open Decimal (Binary64)

/-- The name under which an object holds the text of a date. -/
def dateKey : String := "$__toml_private_datetime"

/-- The value of a digit of the base. -/
def digit? (base : Nat) (c : Char) : Option Nat :=
  let value :=
    if '0' ≤ c ∧ c ≤ '9' then some (c.toNat - '0'.toNat)
    else if 'a' ≤ c ∧ c ≤ 'f' then some (c.toNat - 'a'.toNat + 10)
    else if 'A' ≤ c ∧ c ≤ 'F' then some (c.toNat - 'A'.toNat + 10)
    else none
  value.bind fun v => if v < base then some v else none

/-- The digits of a number in which underscores stand between digits. -/
def digits? (base : Nat) : List Char → Option (List Nat)
  | [] => none
  | [c] => (digit? base c).map ([·])
  | c :: '_' :: rest =>
    match digit? base c, digits? base rest with
    | some d, some ds => some (d :: ds)
    | _, _ => none
  | c :: rest =>
    match digit? base c, digits? base rest with
    | some d, some ds => some (d :: ds)
    | _, _ => none

/-- The number that digits write. -/
def ofDigits (base : Nat) (ds : List Nat) : Nat := ds.foldl (fun n d => n * base + d) 0

/-- A number of decimal digits without a leading zero. -/
def decimal? (cs : List Char) : Option Nat :=
  if 1 < cs.length ∧ cs.head? = some '0' then none else (digits? 10 cs).map (ofDigits 10)

/-- Splits a sign off; the first part is true for a minus. -/
def signed : List Char → Bool × List Char
  | '-' :: rest => (true, rest)
  | '+' :: rest => (false, rest)
  | rest => (false, rest)

/-- The integer, if 128 bits hold it, with or without a sign. -/
def bounded? (n : Int) : Option Int :=
  if -0x80000000000000000000000000000000 ≤ n ∧ n < 0x100000000000000000000000000000000 then some n
  else none

/-- Reads an integer. -/
def integer? (word : List Char) : Option Int :=
  match word with
  | '0' :: 'x' :: rest => (digits? 16 rest).bind fun ds => bounded? (ofDigits 16 ds)
  | '0' :: 'o' :: rest => (digits? 8 rest).bind fun ds => bounded? (ofDigits 8 ds)
  | '0' :: 'b' :: rest => (digits? 2 rest).bind fun ds => bounded? (ofDigits 2 ds)
  | word =>
    let (negative, rest) := signed word
    (decimal? rest).bind fun n => bounded? (if negative then -(n : Int) else n)

/-- The exponent of a number, read behind its letter. -/
def exponent? (cs : List Char) : Option Int :=
  let (negative, rest) := signed cs
  (digits? 10 rest).map fun ds =>
    let n : Int := ofDigits 10 ds
    if negative then -n else n

/-- Exponents are cut off at this size, far beyond the range of doubles. -/
def exponentBound : Int := 20000

/-- Reads a number with a fraction or an exponent, or one of the special numbers. -/
def float? (word : List Char) : Option Binary64 :=
  let (negative, rest) := signed word
  if rest = ['i', 'n', 'f'] then some (Binary64.infinity negative)
  else if rest = ['n', 'a', 'n'] then
    some (if negative then ⟨Binary64.nan.bits + 0x8000000000000000⟩ else Binary64.nan)
  else
    let isMark (c : Char) : Bool := c == 'e' || c == 'E'
    let mantissa := rest.takeWhile (!isMark ·)
    let power := rest.dropWhile (!isMark ·)
    let whole := mantissa.takeWhile (· ≠ '.')
    let places := mantissa.dropWhile (· ≠ '.')
    let exponent := match power with
      | [] => if places.isEmpty then none else some 0
      | _ :: digits => exponent? digits
    let fraction := match places with
      | [] => some []
      | _ :: digits => digits? 10 digits
    match decimal? whole, fraction, exponent with
    | some n, some ds, some e =>
      let e := max (-exponentBound) (min exponentBound e)
      let coefficient := n * Nat.pow 10 ds.length + ofDigits 10 ds
      let x := Binary64.ofDecimal negative coefficient (e - ds.length)
      if x.isFinite then some x else none
    | _, _, _ => none

/-- A number written with exactly the given count of digits, at most the bound. -/
def field? (count low high : Nat) (cs : List Char) : Option (Nat × List Char) :=
  let front := cs.take count
  if front.length = count ∧ front.all Char.isDigit then
    let n := front.foldl (fun n d => n * 10 + (d.toNat - '0'.toNat)) 0
    if low ≤ n ∧ n ≤ high then some (n, cs.drop count) else none
  else none

/-- The days of a month. -/
def daysOfMonth (year month : Nat) : Nat :=
  if month = 2 then
    if year % 4 = 0 ∧ (year % 100 ≠ 0 ∨ year % 400 = 0) then 29 else 28
  else if [4, 6, 9, 11].contains month then 30 else 31

/-- A number in decimal, padded by zeros. -/
def padded (width n : Nat) : List Char :=
  let ds := Nat.toDigits 10 n
  List.replicate (width - ds.length) '0' ++ ds

/-- Reads a date, and gives its text. -/
def date? (cs : List Char) : Option (List Char × List Char) := do
  let (year, rest) ← field? 4 0 9999 cs
  let '-' :: rest := rest | none
  let (month, rest) ← field? 2 1 12 rest
  let '-' :: rest := rest | none
  let (day, rest) ← field? 2 1 (daysOfMonth year month) rest
  return (padded 4 year ++ '-' :: padded 2 month ++ '-' :: padded 2 day, rest)

/-- The text of a fraction of a second: at most nine digits, none of them a zero at the end. -/
def fractionText (digits : List Char) : List Char :=
  let kept := (((digits.take 9).reverse.dropWhile (· = '0')).reverse)
  if kept.isEmpty then [] else '.' :: kept

/-- Reads a time, and gives its text; seconds may be left out. -/
def time? (cs : List Char) : Option (List Char × List Char) := do
  let (hour, rest) ← field? 2 0 23 cs
  let ':' :: rest := rest | none
  let (minute, rest) ← field? 2 0 59 rest
  let text := padded 2 hour ++ ':' :: padded 2 minute
  match rest with
  | ':' :: rest =>
    let (second, rest) ← field? 2 0 60 rest
    let text := text ++ ':' :: padded 2 second
    match rest with
    | '.' :: rest =>
      let digits := rest.takeWhile Char.isDigit
      if digits.isEmpty then none
      else return (text ++ fractionText digits, rest.dropWhile Char.isDigit)
    | rest => return (text, rest)
  | rest => return (text, rest)

/-- Reads the offset of a time, and gives its text; there may be none. -/
def offset? (cs : List Char) : Option (List Char × List Char) :=
  match cs with
  | 'Z' :: rest | 'z' :: rest => some (['Z'], rest)
  | c :: rest =>
    if c = '+' ∨ c = '-' then do
      let (hours, rest) ← field? 2 0 23 rest
      let ':' :: rest := rest | none
      let (minutes, rest) ← field? 2 0 59 rest
      let sign := if hours = 0 ∧ minutes = 0 then '+' else c
      return (sign :: padded 2 hours ++ ':' :: padded 2 minutes, rest)
    else some ([], c :: rest)
  | [] => some ([], [])

/-- The text of a word that is a date, a time, or both. -/
def dateText? (word : List Char) : Option (List Char) := do
  match date? word with
  | some (date, []) => return date
  | some (date, mark :: rest) =>
    if mark = 'T' ∨ mark = 't' ∨ mark = ' ' then
      let (time, rest) ← time? rest
      let (offset, rest) ← offset? rest
      if rest = [] then return date ++ 'T' :: time ++ offset else none
    else none
  | none =>
    let (time, rest) ← time? word
    if rest = [] then return time else none

/-- The value of a word. -/
def scalarOfWord? (word : List Char) : Option Json :=
  if word = ['t', 'r', 'u', 'e'] then some (.bool true)
  else if word = ['f', 'a', 'l', 's', 'e'] then some (.bool false)
  else match integer? word with
    | some n => some (.int n)
    | none =>
      match float? word with
      | some x => some (.float x)
      | none => (dateText? word).map fun text => .obj [(dateKey, .str (String.ofList text))]

end Runbook.Toml
