/-!
# Double-precision numbers

A number is held as its 64 bits, so that equality is decidable and every operation is exact
arithmetic on natural numbers followed by one rounding to the nearest double, a half going to the
even neighbour.
-/

namespace Runbook.Decimal

/-- A double-precision number, held as its bits: sign, eleven bits of exponent, 52 of fraction. -/
structure Binary64 where
  bits : UInt64
deriving DecidableEq, Repr, Inhabited

/-- The integer nearest to `num / den`; a half goes to the even neighbour. -/
def roundHalfEven (num den : Nat) : Nat :=
  let q := num / den
  let r := num % den
  if 2 * r < den then q
  else if den < 2 * r then q + 1
  else if q % 2 = 0 then q else q + 1

namespace Binary64

/-- The sign bit is set. -/
def negative (x : Binary64) : Bool := x.bits.toNat / Nat.pow 2 63 % 2 == 1

/-- The eleven bits of exponent. -/
def exponentField (x : Binary64) : Nat := x.bits.toNat / Nat.pow 2 52 % 2048

/-- The 52 bits of fraction. -/
def fraction (x : Binary64) : Nat := x.bits.toNat % Nat.pow 2 52

/-- Neither infinite nor a NaN. -/
def isFinite (x : Binary64) : Bool := x.exponentField != 2047

/-- Not a number. -/
def isNaN (x : Binary64) : Bool := x.exponentField == 2047 && x.fraction != 0

/-- The integer `m` of a finite number `± m · 2 ^ scale`. -/
def significand (x : Binary64) : Nat :=
  if x.exponentField = 0 then x.fraction else x.fraction + Nat.pow 2 52

/-- The exponent of a finite number `± significand · 2 ^ scale`. -/
def scale (x : Binary64) : Int :=
  if x.exponentField = 0 then -1074 else (x.exponentField : Int) - 1075

/-- The number with the given sign and remaining bits. -/
def ofFields (negative : Bool) (rest : Nat) : Binary64 :=
  ⟨UInt64.ofNat ((if negative then Nat.pow 2 63 else 0) + rest)⟩

/-- Zero of either sign. -/
def zero (negative : Bool) : Binary64 := ofFields negative 0

/-- Infinity of either sign. -/
def infinity (negative : Bool) : Binary64 := ofFields negative (2047 * Nat.pow 2 52)

/-- The quiet NaN. -/
def nan : Binary64 := ofFields false (2047 * Nat.pow 2 52 + Nat.pow 2 51)

/-- The double nearest to `± num / den`, infinite where that is out of range. -/
def ofRatio (negative : Bool) (num den : Nat) : Binary64 :=
  if num = 0 then zero negative else
  let guess : Int := (num.log2 : Int) - den.log2 - 52
  let small := if 0 ≤ guess then num / (den * Nat.pow 2 guess.toNat) < Nat.pow 2 52
    else num * Nat.pow 2 (-guess).toNat / den < Nat.pow 2 52
  let e := max (if small then guess - 1 else guess) (-1074)
  let q := if 0 ≤ e then roundHalfEven num (den * Nat.pow 2 e.toNat)
    else roundHalfEven (num * Nat.pow 2 (-e).toNat) den
  let (q, e) := if q = Nat.pow 2 53 then (Nat.pow 2 52, e + 1) else (q, e)
  if 971 < e then infinity negative
  else if q < Nat.pow 2 52 then ofFields negative q
  else ofFields negative ((e + 1075).toNat * Nat.pow 2 52 + (q - Nat.pow 2 52))

/-- The double nearest to `± significand · 10 ^ exponent`. -/
def ofDecimal (negative : Bool) (significand : Nat) (exponent : Int) : Binary64 :=
  if 0 ≤ exponent then ofRatio negative (significand * Nat.pow 10 exponent.toNat) 1
  else ofRatio negative significand (Nat.pow 10 (-exponent).toNat)

/-- The absolute value of a finite number as a fraction. -/
def ratio (x : Binary64) : Nat × Nat :=
  if 0 ≤ x.scale then (x.significand * Nat.pow 2 x.scale.toNat, 1)
  else (x.significand, Nat.pow 2 (-x.scale).toNat)

/-- The product of two finite numbers, rounded once; its sign is that of the first. -/
def scaleUp (x y : Binary64) : Binary64 :=
  ofRatio x.negative (x.ratio.1 * y.ratio.1) (x.ratio.2 * y.ratio.2)

/-- The quotient of two finite numbers, rounded once; its sign is that of the first. -/
def scaleDown (x y : Binary64) : Binary64 :=
  ofRatio x.negative (x.ratio.1 * y.ratio.2) (x.ratio.2 * y.ratio.1)

/-- The number is zero, of either sign. -/
def isZero (x : Binary64) : Bool := x.bits.toNat % Nat.pow 2 63 == 0

/-- Equality of numbers: the two zeros are equal, a NaN equals nothing. -/
def same (x y : Binary64) : Bool := !x.isNaN && (x == y || (x.isZero && y.isZero))

end Binary64

end Runbook.Decimal
