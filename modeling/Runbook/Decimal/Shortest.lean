import Runbook.Decimal.Binary64

/-!
# The shortest decimal that reads back

The decimals that round to a double fill an interval around it. Of the grids with 1, 2, … 17
digits the first with a point in that interval is taken, and on it the point nearest to the
double.
-/

namespace Runbook.Decimal

/-- The number `coefficient · 10 ^ exponent`. -/
structure Scientific where
  coefficient : Nat
  exponent : Int
deriving DecidableEq, Repr

/-- Without trailing zeros in the coefficient; fuel bounds how many are taken off. -/
def Scientific.normalize : Nat → Scientific → Scientific
  | 0, s => s
  | fuel + 1, s =>
    if s.coefficient ≠ 0 ∧ s.coefficient % 10 = 0 then
      Scientific.normalize fuel ⟨s.coefficient / 10, s.exponent + 1⟩
    else s

/-- The fraction `n · 2 ^ q / 10 ^ k`, as numerator and denominator. -/
def gridRatio (n : Nat) (q k : Int) : Nat × Nat :=
  let (num, den) := if 0 ≤ q then (n * Nat.pow 2 q.toNat, 1) else (n, Nat.pow 2 (-q).toNat)
  if 0 ≤ k then (num, den * Nat.pow 10 k.toNat) else (num * Nat.pow 10 (-k).toNat, den)

/-- The interval of a double with significand `m` and scale `q`, in quarters of a unit of the
last place: below a power of two the doubles lie twice as close. -/
def interval (m : Nat) (q : Int) : Nat × Nat :=
  (if m = Nat.pow 2 52 ∧ -1074 < q then 4 * m - 1 else 4 * m - 2, 4 * m + 2)

/-- The point of the grid of `10 ^ k` that reads back as `m · 2 ^ q` and is nearest to it. -/
def gridPoint? (m : Nat) (q k : Int) : Option Nat :=
  let (low, high) := interval m q
  let (num, den) := gridRatio (4 * m) (q - 2) k
  let (lowNum, _) := gridRatio low (q - 2) k
  let (highNum, _) := gridRatio high (q - 2) k
  let inside (c : Nat) : Bool :=
    if m % 2 = 0 then lowNum ≤ c * den && c * den ≤ highNum
    else lowNum < c * den && c * den < highNum
  let below := num / den
  let above := below + 1
  let lower := 0 < below && inside below
  if lower && inside above then
    let down := num - below * den
    let up := above * den - num
    if down < up then some below
    else if up < down then some above
    else if below % 2 = 0 then some below else some above
  else if lower then some below
  else if inside above then some above
  else none

/-- The largest `k` with `10 ^ k ≤ m · 2 ^ q`, searched from an estimate. -/
def magnitude (m : Nat) (q : Int) : Int :=
  let guess := ((m.log2 : Int) + q) * 30103 / 100000 + 1
  let fits (k : Int) : Bool := let (num, den) := gridRatio m q k; den ≤ num
  if fits guess then guess else if fits (guess - 1) then guess - 1
  else if fits (guess - 2) then guess - 2 else guess - 3

/-- The first grid with a point, from `digits` digits on. -/
def shortestFrom (m : Nat) (q top : Int) : (fuel digits : Nat) → Scientific
  | 0, _ => ⟨m, q⟩
  | fuel + 1, digits =>
    let k := top - digits + 1
    match gridPoint? m q k with
    | some c => Scientific.normalize 20 ⟨c, k⟩
    | none => shortestFrom m q top fuel (digits + 1)

/-- The shortest decimal that reads back as a finite number, its sign left out. -/
def Binary64.shortest (x : Binary64) : Scientific :=
  if x.significand = 0 then ⟨0, 0⟩
  else shortestFrom x.significand x.scale (magnitude x.significand x.scale) 17 1

end Runbook.Decimal
