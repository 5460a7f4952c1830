import Runbook.Proofs.Decimal.Rounding

/-!
# The shortest decimal reads back

`Binary64.shortest` looks for a point of a decimal grid in the interval of a double. A point that it
takes lies there (`within_of_gridPoint?`), and the grid with 17 digits always has one
(`isSome_gridPoint?`), so the decimal that is found is rounded to the double (`ofDecimal_eq`).
-/

namespace Runbook.Decimal

/-! ### Grids -/

/-- The fraction `2 ^ q / 10 ^ k`, as numerator and denominator. -/
def gridUnit (q k : ℤ) : ℕ × ℕ := (2 ^ q.toNat * 10 ^ (-k).toNat, 2 ^ (-q).toNat * 10 ^ k.toNat)

theorem gridRatio_eq (n : ℕ) (q k : ℤ) :
    gridRatio n q k = (n * (gridUnit q k).1, (gridUnit q k).2) := by
  have hneg {e : ℤ} (he : 0 ≤ e) : (-e).toNat = 0 := by omega
  have hpos {e : ℤ} (he : ¬0 ≤ e) : e.toNat = 0 := by omega
  rw [gridRatio, gridUnit]
  by_cases hq : 0 ≤ q <;> by_cases hk : 0 ≤ k <;> simp [hq, hk, hneg, hpos, Nat.mul_assoc]

theorem zpow_eq_div (b : ℚ) (e : ℤ) : b ^ e = b ^ e.toNat / b ^ (-e).toNat := by
  by_cases he : 0 ≤ e
  · obtain ⟨n, rfl⟩ := Int.eq_ofNat_of_zero_le he
    simp
  · obtain ⟨n, rfl⟩ : ∃ n : ℕ, e = -n := ⟨(-e).toNat, by omega⟩
    simp

theorem gridUnit_pos (q k : ℤ) : 0 < (gridUnit q k).2 := by
  rw [gridUnit]
  positivity

theorem gridUnit_ratio (q k : ℤ) :
    ((gridUnit q k).1 : ℚ) / (gridUnit q k).2 = 2 ^ q / 10 ^ k := by
  rw [gridUnit, zpow_eq_div 2 q, zpow_eq_div 10 k]
  push_cast
  field_simp

/-- Points of the grid are compared with multiples of a power of two. -/
theorem mul_gridUnit_le_iff {n c : ℕ} {q k : ℤ} :
    n * (gridUnit q k).1 ≤ c * (gridUnit q k).2 ↔ (n : ℚ) * 2 ^ q ≤ c * 10 ^ k := by
  have hpos : (0 : ℚ) < (gridUnit q k).2 := by exact_mod_cast gridUnit_pos q k
  rw [← div_le_iff₀ (zpow_pos (by norm_num) k), mul_div_assoc, ← gridUnit_ratio, ← mul_div_assoc,
    div_le_iff₀ hpos]
  exact_mod_cast Iff.rfl

theorem le_mul_gridUnit_iff {n c : ℕ} {q k : ℤ} :
    c * (gridUnit q k).2 ≤ n * (gridUnit q k).1 ↔ (c : ℚ) * 10 ^ k ≤ n * 2 ^ q := by
  have hpos : (0 : ℚ) < (gridUnit q k).2 := by exact_mod_cast gridUnit_pos q k
  rw [← le_div_iff₀ (zpow_pos (by norm_num) k), mul_div_assoc, ← gridUnit_ratio, ← mul_div_assoc,
    le_div_iff₀ hpos]
  exact_mod_cast Iff.rfl

/-! ### Points in the interval of a double -/

open Binary64 (Within)

/-- The point of the grid below the double. -/
def gridBelow (m : ℕ) (q k : ℤ) : ℕ := 4 * m * (gridUnit (q - 2) k).1 / (gridUnit (q - 2) k).2

/-- The test for a point of the grid. -/
def isInside (m : ℕ) (q k : ℤ) (c : ℕ) : Bool :=
  if m % 2 = 0 then (interval m q).1 * (gridUnit (q - 2) k).1 ≤ c * (gridUnit (q - 2) k).2 &&
    c * (gridUnit (q - 2) k).2 ≤ (interval m q).2 * (gridUnit (q - 2) k).1
  else (interval m q).1 * (gridUnit (q - 2) k).1 < c * (gridUnit (q - 2) k).2 &&
    c * (gridUnit (q - 2) k).2 < (interval m q).2 * (gridUnit (q - 2) k).1

theorem isInside_iff {m : ℕ} {q k : ℤ} {c : ℕ} :
    isInside m q k c = true ↔ Within m q (c * 10 ^ k) := by
  rw [isInside, Within]
  split
  · rw [Bool.and_eq_true, decide_eq_true_eq, decide_eq_true_eq, mul_gridUnit_le_iff,
      le_mul_gridUnit_iff]
  · rw [Bool.and_eq_true, decide_eq_true_eq, decide_eq_true_eq, ← not_le, ← not_le,
      mul_gridUnit_le_iff, le_mul_gridUnit_iff, not_le, not_le]

theorem gridPoint?_eq (m : ℕ) (q k : ℤ) : gridPoint? m q k =
    let below := gridBelow m q k
    let down := 4 * m * (gridUnit (q - 2) k).1 - below * (gridUnit (q - 2) k).2
    let up := (below + 1) * (gridUnit (q - 2) k).2 - 4 * m * (gridUnit (q - 2) k).1
    let lower := decide (0 < below) && isInside m q k below
    if lower && isInside m q k (below + 1) then
      if down < up then some below
      else if up < down then some (below + 1)
      else if below % 2 = 0 then some below else some (below + 1)
    else if lower then some below
    else if isInside m q k (below + 1) then some (below + 1)
    else none := by
  simp only [gridPoint?, gridRatio_eq]
  rfl

/-- The point that is taken lies in the interval of the double. -/
theorem within_of_gridPoint? {m c : ℕ} {q k : ℤ} (h : gridPoint? m q k = some c) :
    Within m q (c * 10 ^ k) := by
  rw [gridPoint?_eq] at h
  extract_lets below down up lower at h
  have hlower : lower = true → isInside m q k below = true :=
    fun hlower => (Bool.and_eq_true_iff.mp hlower).2
  rw [← isInside_iff]
  split at h
  · next hboth =>
    obtain ⟨hbelow, habove⟩ := Bool.and_eq_true_iff.mp hboth
    split_ifs at h <;> rw [← Option.some.inj h]
    · exact hlower hbelow
    · exact habove
    · exact hlower hbelow
    · exact habove
  · split at h
    · next hbelow =>
      rw [← Option.some.inj h]
      exact hlower hbelow
    · split at h
      · next habove =>
        rw [← Option.some.inj h]
        exact habove
      · cases h

/-- Of two points around a double that are close enough to each other one lies in its interval. -/
theorem within_or_within {m : ℕ} {q : ℤ} {v u : ℚ} (hm : m ≠ 0)
    (hbelow : v ≤ (4 * m : ℕ) * 2 ^ (q - 2)) (habove : (4 * m : ℕ) * 2 ^ (q - 2) < v + u)
    (hfine : u < (((interval m q).2 : ℚ) - (interval m q).1) * 2 ^ (q - 2)) :
    Within m q v ∨ Within m q (v + u) := by
  have hpos : (0 : ℚ) < 2 ^ (q - 2) := zpow_pos two_pos _
  have hlow : ((interval m q).1 : ℚ) * 2 ^ (q - 2) < (4 * m : ℕ) * 2 ^ (q - 2) := by
    refine mul_lt_mul_of_pos_right ?_ hpos
    rw [interval]
    split <;> exact_mod_cast (by omega)
  have hhigh : ((4 * m : ℕ) : ℚ) * 2 ^ (q - 2) < (interval m q).2 * 2 ^ (q - 2) := by
    refine mul_lt_mul_of_pos_right ?_ hpos
    rw [interval]
    exact_mod_cast (by omega)
  rw [sub_mul] at hfine
  rw [Within, Within]
  split
  · by_cases hv : ((interval m q).1 : ℚ) * 2 ^ (q - 2) ≤ v
    · exact .inl ⟨hv, by linarith⟩
    · exact .inr ⟨by linarith, by linarith⟩
  · by_cases hv : ((interval m q).1 : ℚ) * 2 ^ (q - 2) < v
    · exact .inl ⟨hv, by linarith⟩
    · exact .inr ⟨by linarith, by linarith⟩

/-- There is a point to take if the grid is fine enough. -/
theorem isSome_gridPoint? {m : ℕ} {q k : ℤ} (hm : m ≠ 0) (hlow : (10 : ℚ) ^ k ≤ m * 2 ^ q)
    (hfine : (10 : ℚ) ^ k < (((interval m q).2 : ℚ) - (interval m q).1) * 2 ^ (q - 2)) :
    (gridPoint? m q k).isSome = true := by
  have hunit := gridUnit_pos (q - 2) k
  have hquarter : ((4 * m : ℕ) : ℚ) * 2 ^ (q - 2) = m * 2 ^ q := by
    rw [Binary64.zpow_sub_two]
    push_cast
    ring
  have hbelow : (gridBelow m q k : ℚ) * 10 ^ k ≤ (4 * m : ℕ) * 2 ^ (q - 2) :=
    le_mul_gridUnit_iff.mp (Nat.div_mul_le_self _ _)
  have habove : ((4 * m : ℕ) : ℚ) * 2 ^ (q - 2) < gridBelow m q k * 10 ^ k + 10 ^ k := by
    have hdiv := Nat.lt_mul_div_succ (4 * m * (gridUnit (q - 2) k).1) hunit
    rw [Nat.mul_comm (gridUnit (q - 2) k).2] at hdiv
    have hlt := not_le.mp (mt le_mul_gridUnit_iff.mpr (not_le.mpr hdiv))
    rwa [Nat.cast_add_one, add_one_mul] at hlt
  have hpos : 0 < gridBelow m q k := by
    rw [gridBelow, Nat.div_pos_iff]
    refine ⟨hunit, ?_⟩
    have hone := (@le_mul_gridUnit_iff (4 * m) 1 (q - 2) k).mpr (by rw [hquarter]; simpa using hlow)
    simpa using hone
  have hinside := within_or_within hm hbelow habove hfine
  rw [← add_one_mul, ← Nat.cast_add_one, ← isInside_iff, ← isInside_iff] at hinside
  rw [gridPoint?_eq]
  simp only [hpos, decide_true, Bool.true_and]
  obtain hinside | hinside := hinside
  · rw [hinside, Bool.true_and]
    split
    · split_ifs <;> rfl
    · rfl
  · rw [hinside, Bool.and_true]
    split
    · split_ifs <;> rfl
    · rfl

/-! ### Seventeen digits -/

theorem ten_pow_le_two_pow : ∀ n < 1025, 10 ^ (n * 30103 / 100000 - 2) ≤ 2 ^ n := by
  decide +kernel

theorem two_pow_le_ten_pow : ∀ n < 1075, 2 ^ n ≤ 10 ^ (n * 30103 / 100000 + 2) := by
  decide +kernel

/-- The estimate of the number of digits is at most three too high. -/
theorem ten_zpow_le_two_zpow {e : ℤ} (hlow : -1075 < e) (hhigh : e < 1025) :
    (10 : ℚ) ^ (e * 30103 / 100000 - 2) ≤ 2 ^ e := by
  obtain ⟨n, rfl | rfl⟩ := e.eq_nat_or_neg
  · have htable := ten_pow_le_two_pow n (by omega)
    calc (10 : ℚ) ^ ((n : ℤ) * 30103 / 100000 - 2) ≤
          10 ^ ((n * 30103 / 100000 - 2 : ℕ) : ℤ) :=
          zpow_le_zpow_right₀ (by norm_num) (by omega)
      _ ≤ 2 ^ (n : ℤ) := by exact_mod_cast htable
  · have htable := two_pow_le_ten_pow n (by omega)
    calc (10 : ℚ) ^ (-(n : ℤ) * 30103 / 100000 - 2) ≤
          10 ^ (-((n * 30103 / 100000 + 2 : ℕ) : ℤ)) :=
          zpow_le_zpow_right₀ (by norm_num) (by omega)
      _ ≤ 2 ^ (-(n : ℤ)) := by
          rw [zpow_neg, zpow_neg]
          exact inv_anti₀ (zpow_pos two_pos _) (by exact_mod_cast htable)

theorem magnitude_le {m : ℕ} {q : ℤ} (hm : m ≠ 0) (hlow : -1075 < m.log2 + q)
    (hhigh : m.log2 + q < 1025) : (10 : ℚ) ^ magnitude m q ≤ m * 2 ^ q := by
  have hfits {k : ℤ} (h : (gridRatio m q k).2 ≤ (gridRatio m q k).1) :
      (10 : ℚ) ^ k ≤ m * 2 ^ q := by
    rw [gridRatio_eq, ← Nat.one_mul (gridUnit q k).2] at h
    simpa using le_mul_gridUnit_iff.mp h
  have hlog : ((2 ^ m.log2 : ℕ) : ℚ) ≤ m := by exact_mod_cast Nat.log2_self_le hm
  have hlowest : (10 : ℚ) ^ ((m.log2 + q) * 30103 / 100000 - 2) ≤ m * 2 ^ q := by
    refine (ten_zpow_le_two_zpow hlow hhigh).trans ?_
    rw [zpow_add₀ two_ne_zero, zpow_natCast]
    exact mul_le_mul_of_nonneg_right (by exact_mod_cast hlog) (zpow_nonneg zero_le_two q)
  rw [magnitude]
  split
  · next h => exact hfits (of_decide_eq_true h)
  · split
    · next h => exact hfits (of_decide_eq_true h)
    · split
      · next h => exact hfits (of_decide_eq_true h)
      · rwa [add_sub_assoc]

/-- Grids with 16 digits behind the first are fine enough. -/
theorem lt_interval_width {m : ℕ} (hm : m < 2 ^ 53) (q : ℤ) :
    4 * (m : ℚ) < (((interval m q).2 : ℚ) - (interval m q).1) * 10 ^ 16 := by
  have hm' : (m : ℚ) < 9007199254740992 := by exact_mod_cast hm
  rw [interval]
  split
  · next h =>
    obtain ⟨rfl, -⟩ := h
    norm_num
  · obtain rfl | hpos := m.eq_zero_or_pos
    · norm_num
    · rw [Nat.cast_sub (by omega)]
      push_cast
      linarith

/-- Some grid up to the one with the last number of digits has a point. -/
theorem shortestFrom_eq {m : ℕ} {q top : ℤ} {fuel digits n : ℕ} (hn : n < fuel)
    (h : (gridPoint? m q (top - (digits + n : ℕ) + 1)).isSome = true) :
    ∃ c k, gridPoint? m q k = some c ∧
      shortestFrom m q top fuel digits = Scientific.normalize 20 ⟨c, k⟩ := by
  induction fuel generalizing digits n with
  | zero => exact absurd hn (Nat.not_lt_zero n)
  | succ fuel ih =>
    rw [shortestFrom]
    cases hpoint : gridPoint? m q (top - digits + 1) with
    | some c => exact ⟨c, _, hpoint, rfl⟩
    | none =>
      cases n with
      | zero =>
        rw [Nat.add_zero, hpoint] at h
        cases h
      | succ n =>
        refine ih (Nat.lt_of_succ_lt_succ hn) ?_
        rwa [Nat.add_right_comm, Nat.add_assoc]

/-- Taking zeros off the end leaves the number as it is. -/
theorem normalize_value (fuel : ℕ) (s : Scientific) :
    ((Scientific.normalize fuel s).coefficient : ℚ) * 10 ^ (Scientific.normalize fuel s).exponent =
      s.coefficient * 10 ^ s.exponent := by
  induction fuel generalizing s with
  | zero => rfl
  | succ fuel ih =>
    rw [Scientific.normalize]
    split
    · next h =>
      rw [ih]
      obtain ⟨c, hc⟩ := Nat.dvd_of_mod_eq_zero h.2
      rw [hc, Nat.mul_div_cancel_left c (by norm_num), zpow_add_one₀ (by norm_num)]
      push_cast
      ring
    · rfl

namespace Binary64

/-- The shortest decimal lies in the interval of its double. -/
theorem within_shortest {x : Binary64} (hfinite : x.isFinite = true) (hne : x.significand ≠ 0) :
    Within x.significand x.scale (x.shortest.coefficient * 10 ^ x.shortest.exponent) := by
  have hlog : x.significand.log2 < 53 := (Nat.log2_lt hne).mpr x.significand_lt
  have hscale := x.scale_ge
  have hscale' := scale_le hfinite
  have htop := magnitude_le hne (by omega : -1075 < (x.significand.log2 : ℤ) + x.scale) (by omega)
  have hpos : (0 : ℚ) < 2 ^ x.scale := zpow_pos two_pos _
  have hgrid : (10 : ℚ) ^ (magnitude x.significand x.scale - (1 + 16 : ℕ) + 1) * 10 ^ 16 ≤
      x.significand * 2 ^ x.scale := by
    refine le_of_eq_of_le ?_ htop
    rw [← zpow_natCast, ← zpow_add₀ (by norm_num)]
    congr 1
    push_cast
    ring
  have hlow := (le_mul_of_one_le_right (zpow_nonneg (by norm_num : (0 : ℚ) ≤ 10) _)
    (by norm_num)).trans hgrid
  have hfine : (10 : ℚ) ^ (magnitude x.significand x.scale - (1 + 16 : ℕ) + 1) <
      (((interval x.significand x.scale).2 : ℚ) - (interval x.significand x.scale).1) *
        2 ^ (x.scale - 2) := by
    have hwidth := mul_lt_mul_of_pos_right (lt_interval_width x.significand_lt x.scale) hpos
    rw [← mul_lt_mul_iff_of_pos_right (by norm_num : (0 : ℚ) < 10 ^ 16), zpow_sub_two]
    exact hgrid.trans_lt (by linarith)
  obtain ⟨c, k, hpoint, hshortest⟩ := @shortestFrom_eq x.significand x.scale
    (magnitude x.significand x.scale) 17 1 16 (by decide) (isSome_gridPoint? hne hlow hfine)
  rw [shortest, if_neg hne, hshortest, normalize_value]
  exact within_of_gridPoint? hpoint

theorem eq_zero_of_significand {x : Binary64} (h : x.significand = 0) : zero x.negative = x := by
  have hfields := x.ofFields_fields
  rw [significand] at h
  split at h
  · next hfield => rwa [hfield, h] at hfields
  · simp at h

/-- **However the shortest decimal is written, it is rounded to its double.** -/
theorem ofDecimal_eq {x : Binary64} (hfinite : x.isFinite = true) {c : ℕ} {e : ℤ}
    (h : (c : ℚ) * 10 ^ e = x.shortest.coefficient * 10 ^ x.shortest.exponent) :
    ofDecimal x.negative c e = x := by
  by_cases hne : x.significand = 0
  · have hc : c = 0 := by
      rw [shortest, if_pos hne] at h
      simpa [zpow_ne_zero] using h
    have hzero (den : ℕ) : ofRatio x.negative 0 den = x := by
      rw [ofRatio, if_pos rfl, eq_zero_of_significand hne]
    rw [ofDecimal, hc, Nat.zero_mul]
    split <;> exact hzero _
  · have hwithin := within_shortest hfinite hne
    rw [← h] at hwithin
    rw [ofDecimal]
    split
    · next he =>
      obtain ⟨n, rfl⟩ := Int.eq_ofNat_of_zero_le he
      refine ofRatio_eq_of_within hfinite hne one_ne_zero ?_
      simpa using hwithin
    · next he =>
      obtain ⟨n, rfl⟩ : ∃ n : ℕ, e = -n := ⟨(-e).toNat, by omega⟩
      refine ofRatio_eq_of_within hfinite hne (Nat.pow_pos (by norm_num)).ne' ?_
      simpa [div_eq_mul_inv] using hwithin

end Binary64

end Runbook.Decimal
