import Runbook.Json.Basic

/-!
# Reading JSON numbers

A number without fraction and exponent is an integer as long as 64 bits hold it, with or without
sign. Otherwise the digits are gathered into 64 bits as long as they fit, the others only move the
exponent, and the result is scaled by powers of ten up to `10 ^ 308` at a time, each step rounded.
-/

namespace Runbook.Json

open Decimal (Binary64)

/-- The value of a decimal digit. -/
def digitValue (c : Char) : Nat := c.toNat - '0'.toNat

/-- The largest number that 64 bits hold without sign. -/
def wordMax : Nat := Nat.pow 2 64 - 1

/-- Digits gathered as long as 64 bits hold them, with the digits left over. -/
def gather : (acc : Nat) → List Char → Nat × List Char
  | acc, [] => (acc, [])
  | acc, c :: cs =>
    if acc * 10 + digitValue c ≤ wordMax then gather (acc * 10 + digitValue c) cs
    else (acc, c :: cs)

/-- Powers of ten up to this one are applied in one step. -/
def stepMax : Nat := 308

/-- The power of ten as a double. -/
def powerOfTen (n : Nat) : Binary64 := Binary64.ofDecimal false 1 n

/-- Multiplies by a power of ten, in steps; nothing if the result leaves the range. The number of
steps is bounded because a number below `10 ^ 20` is zero after two divisions by `10 ^ 308`. -/
def scaled (x : Binary64) (exponent : Int) : (fuel : Nat) → Option Binary64
  | 0 => some (Binary64.zero x.negative)
  | fuel + 1 =>
    if exponent.natAbs ≤ stepMax then
      if 0 ≤ exponent then
        let y := x.scaleUp (powerOfTen exponent.toNat)
        if y.isFinite then some y else none
      else some (x.scaleDown (powerOfTen (-exponent).toNat))
    else if x.isZero then some x
    else if 0 ≤ exponent then none
    else scaled (x.scaleDown (powerOfTen stepMax)) (exponent + stepMax) fuel

/-- The double for gathered digits and an exponent of ten. -/
def float? (negative : Bool) (significand : Nat) (exponent : Int) : Option Json :=
  (scaled (Binary64.ofRatio negative significand 1) exponent 4).map .float

/-- Exponents beyond this bound are not counted further. -/
def exponentMax : Nat := Nat.pow 2 31 - 1

/-- Whether a minus stands here, and the text behind the sign. A plus is one where `plus` holds. -/
def sign (plus : Bool) : List Char → Bool × List Char
  | '-' :: cs => (true, cs)
  | '+' :: cs => (false, if plus then cs else '+' :: cs)
  | cs => (false, cs)

/-- Reads the exponent behind `e`, if there is one, and builds the double. -/
def withExponent (negative : Bool) (significand : Nat) (exponent : Int) :
    List Char → Option (Json × List Char)
  | c :: cs =>
    if c = 'e' ∨ c = 'E' then
      let (down, cs) := sign true cs
      let digits := cs.takeWhile Char.isDigit
      let rest := cs.dropWhile Char.isDigit
      if digits = [] then none else
      let e := digits.foldl (fun n d => n * 10 + digitValue d) 0
      if exponentMax < e then
        if significand ≠ 0 ∧ down = false then none
        else some (.float (Binary64.zero negative), rest)
      else (float? negative significand (if down then exponent - e else exponent + e)).map (·, rest)
    else (float? negative significand exponent).map (·, c :: cs)
  | [] => (float? negative significand exponent).map (·, [])

/-- The whole number `± n` as an integer where 64 bits hold it, as a double otherwise. -/
def whole (negative : Bool) (n : Nat) : Json :=
  if negative then
    if 1 ≤ n ∧ n ≤ Nat.pow 2 63 then .int (-(n : Int)) else .float (Binary64.ofRatio true n 1)
  else .int n

/-- Reads a number; a leading zero is followed by no digit. -/
def number (cs : List Char) : Option (Json × List Char) :=
  let (negative, cs) := sign false cs
  let digits := cs.takeWhile Char.isDigit
  let rest := cs.dropWhile Char.isDigit
  if digits = [] ∨ (digits.head? = some '0' ∧ 1 < digits.length) then none else
  let (significand, left) := gather 0 digits
  match rest with
  | '.' :: r =>
    let places := r.takeWhile Char.isDigit
    let rest := r.dropWhile Char.isDigit
    if places = [] then none
    else if left = [] then
      let (significand, unused) := gather significand places
      withExponent negative significand ((unused.length : Int) - places.length) rest
    else
      let (significand, unused) := gather significand places
      withExponent negative significand
        ((left.length : Int) + unused.length - places.length) rest
  | rest =>
    if left = [] ∧ rest.head? ≠ some 'e' ∧ rest.head? ≠ some 'E' then
      some (whole negative significand, rest)
    else withExponent negative significand left.length rest

end Runbook.Json
