import Mathlib.Data.List.Basic

/-!
# Grids

A grid combines every item of one list with every item of another one, row by row: the items of the
second list change fastest. It has as many entries as both lengths multiplied, and the number of an
entry, divided by the length of a row, gives its row and its column.
-/

namespace Runbook

variable {α β γ : Type}

/-- The number of entries of a grid. -/
theorem length_grid (f : α → β → γ) (xs : List α) (ys : List β) :
    (xs.flatMap fun x => ys.map (f x)).length = xs.length * ys.length := by
  induction xs with
  | nil => simp
  | cons x xs ih =>
    rw [List.flatMap_cons, List.length_append, List.length_map, ih, List.length_cons, Nat.succ_mul,
      Nat.add_comm]

/-- The entry of a row and a column. -/
theorem getElem?_grid (f : α → β → γ) (xs : List α) {ys : List β} {j : Nat} (hj : j < ys.length)
    (i : Nat) :
    (xs.flatMap fun x => ys.map (f x))[i * ys.length + j]? =
      xs[i]?.bind fun x => ys[j]?.map (f x) := by
  induction xs generalizing i with
  | nil => simp
  | cons x xs ih =>
    rw [List.flatMap_cons, List.getElem?_append, List.length_map]
    cases i with
    | zero => simp [hj]
    | succ i =>
      have hpast : ¬ (i + 1) * ys.length + j < ys.length := by
        rw [Nat.succ_mul]
        omega
      have hrow : (i + 1) * ys.length + j - ys.length = i * ys.length + j := by
        rw [Nat.succ_mul]
        omega
      rw [if_neg hpast, hrow, ih, List.getElem?_cons_succ]

/-- The entry of a number. -/
theorem getElem?_grid_div_mod (f : α → β → γ) (xs : List α) {ys : List β} (hys : 0 < ys.length)
    (n : Nat) :
    (xs.flatMap fun x => ys.map (f x))[n]? =
      xs[n / ys.length]?.bind fun x => ys[n % ys.length]?.map (f x) := by
  have hn : n = n / ys.length * ys.length + n % ys.length := (Nat.div_add_mod' n ys.length).symm
  conv_lhs => rw [hn]
  exact getElem?_grid f xs (Nat.mod_lt n hys) (n / ys.length)

end Runbook
