import Mathlib.Data.Rat.Cast.Order
import Mathlib.Tactic.FieldSimp
import Mathlib.Tactic.Linarith
import Mathlib.Tactic.Positivity
import Mathlib.Tactic.Ring
import Runbook.Decimal.Shortest

/-!
# Rounding to the nearest double

The fractions around a finite double that are rounded to it fill the interval `Within`. It reaches
halfway to the next double on either side, both ends included if the significand is even
(`ofRatio_eq_of_within`).
-/

namespace Runbook.Decimal

/-! ### The nearest integer -/

/-- The integer is the nearest one, and the even one of two that are. -/
def Rounds (v : ℚ) (n : ℕ) : Prop :=
  (n : ℚ) - 1 / 2 ≤ v ∧ v ≤ n + 1 / 2 ∧ (n % 2 = 0 ∨ (n : ℚ) - 1 / 2 < v ∧ v < n + 1 / 2)

theorem roundHalfEven_eq {num den n : ℕ} (hden : 0 < den) (h : Rounds ((num : ℚ) / den) n) :
    roundHalfEven num den = n := by
  have hden' : (0 : ℚ) < den := by exact_mod_cast hden
  obtain ⟨hlow, hhigh, heven⟩ := h
  rw [le_div_iff₀ hden'] at hlow
  rw [div_le_iff₀ hden'] at hhigh
  rw [lt_div_iff₀ hden', div_lt_iff₀ hden'] at heven
  have hlow' : 2 * (n * den) ≤ 2 * num + den := by
    exact_mod_cast (by linarith : 2 * ((n : ℚ) * den) ≤ 2 * num + den)
  have hhigh' : 2 * num ≤ 2 * (n * den) + den := by
    exact_mod_cast (by linarith : 2 * (num : ℚ) ≤ 2 * (n * den) + den)
  have heven' : n % 2 = 0 ∨ 2 * (n * den) < 2 * num + den ∧ 2 * num < 2 * (n * den) + den := by
    refine heven.imp_right fun h => ⟨?_, ?_⟩
    · exact_mod_cast (by linarith : 2 * ((n : ℚ) * den) < 2 * num + den)
    · exact_mod_cast (by linarith : 2 * (num : ℚ) < 2 * (n * den) + den)
  have hdiv := Nat.div_add_mod num den
  have hmod := Nat.mod_lt num hden
  rw [roundHalfEven]
  generalize num / den = q at *
  generalize num % den = r at *
  have hcases : n = q ∨ n = q + 1 := by
    have hle : n ≤ q + 1 := by nlinarith
    have hge : q ≤ n := by nlinarith
    omega
  rw [Nat.mul_comm den q] at hdiv
  obtain rfl | rfl := hcases
  · generalize n * den = product at *
    split_ifs <;> omega
  · rw [Nat.add_mul, Nat.one_mul] at hlow' hhigh' heven'
    generalize q * den = product at *
    split_ifs <;> omega

/-! ### Fractions and powers of two -/

/-- `num / den / 2 ^ e`, as numerator and denominator. -/
def scaled (num den : ℕ) (e : ℤ) : ℕ × ℕ :=
  if 0 ≤ e then (num, den * 2 ^ e.toNat) else (num * 2 ^ (-e).toNat, den)

theorem scaled_pos {num den : ℕ} (hden : 0 < den) (e : ℤ) : 0 < (scaled num den e).2 := by
  rw [scaled]
  split <;> positivity

theorem scaled_ratio (num den : ℕ) (e : ℤ) :
    ((scaled num den e).1 : ℚ) / (scaled num den e).2 = num / den / 2 ^ e := by
  rw [scaled]
  split
  · next he =>
    obtain ⟨n, rfl⟩ := Int.eq_ofNat_of_zero_le he
    simp [div_div]
  · next he =>
    obtain ⟨n, rfl⟩ : ∃ n : ℕ, e = -n := ⟨(-e).toNat, by omega⟩
    simp
    ring

theorem scaled_div_lt {num den : ℕ} (hden : 0 < den) (e : ℤ) (n : ℕ) :
    (scaled num den e).1 / (scaled num den e).2 < n ↔ (num : ℚ) / den < n * 2 ^ e := by
  have hpos := @scaled_pos num den hden e
  rw [Nat.div_lt_iff_lt_mul hpos, ← div_lt_iff₀ (zpow_pos two_pos e), ← scaled_ratio,
    div_lt_iff₀ (by exact_mod_cast hpos)]
  exact_mod_cast Iff.rfl

/-! ### The parts of rounding -/

namespace Binary64

/-- The exponent with which the fraction has 53 bits before the point. -/
def leading (num den : ℕ) : ℤ :=
  let guess : ℤ := (num.log2 : ℤ) - den.log2 - 52
  if (scaled num den guess).1 / (scaled num den guess).2 < 2 ^ 52 then guess - 1 else guess

/-- The double `± n · 2 ^ e` with at most 53 bits in `n`, or the next one above them. -/
def pack (negative : Bool) (n : ℕ) (e : ℤ) : Binary64 :=
  let (n, e) := if n = 2 ^ 53 then (2 ^ 52, e + 1) else (n, e)
  if 971 < e then infinity negative
  else if n < 2 ^ 52 then ofFields negative n
  else ofFields negative ((e + 1075).toNat * 2 ^ 52 + (n - 2 ^ 52))

theorem ofRatio_eq (negative : Bool) {num den : ℕ} (hnum : num ≠ 0) :
    ofRatio negative num den =
      pack negative (roundHalfEven (scaled num den (max (leading num den) (-1074))).1
        (scaled num den (max (leading num den) (-1074))).2) (max (leading num den) (-1074)) := by
  rw [ofRatio, if_neg hnum]
  extract_lets guess small e n
  have hsmall : small ↔ (scaled num den guess).1 / (scaled num den guess).2 < 2 ^ 52 := by
    simp only [small, scaled]
    split <;> rfl
  have he : e = max (leading num den) (-1074) := by
    simp only [e, leading, hsmall]
    rfl
  have hn : n = roundHalfEven (scaled num den e).1 (scaled num den e).2 := by
    simp only [n, scaled]
    split <;> rfl
  rw [← he, ← hn]
  rfl

theorem le_leading_lt {num den : ℕ} (hnum : num ≠ 0) (hden : den ≠ 0) :
    (2 : ℚ) ^ (52 + leading num den) ≤ num / den ∧
      (num : ℚ) / den < 2 ^ (53 + leading num den) := by
  have hden' : (0 : ℚ) < den := by exact_mod_cast Nat.pos_of_ne_zero hden
  have hnumlow : (2 : ℚ) ^ (num.log2 : ℤ) ≤ num := by exact_mod_cast Nat.log2_self_le hnum
  have hnumhigh : (num : ℚ) < 2 ^ ((num.log2 : ℤ) + 1) := by
    exact_mod_cast Nat.lt_log2_self (n := num)
  have hdenlow : (2 : ℚ) ^ (den.log2 : ℤ) ≤ den := by exact_mod_cast Nat.log2_self_le hden
  have hdenhigh : (den : ℚ) < 2 ^ ((den.log2 : ℤ) + 1) := by
    exact_mod_cast Nat.lt_log2_self (n := den)
  have hhigh : (num : ℚ) / den < 2 ^ ((num.log2 : ℤ) + 1 - den.log2) := by
    rw [zpow_sub₀ two_ne_zero]
    exact div_lt_div₀ hnumhigh hdenlow (zpow_nonneg zero_le_two _) (zpow_pos two_pos _)
  have hlow : (2 : ℚ) ^ ((num.log2 : ℤ) - (den.log2 + 1)) ≤ num / den := by
    rw [zpow_sub₀ two_ne_zero]
    exact div_le_div₀ (by positivity) hnumlow hden' hdenhigh.le
  obtain ⟨guess, hguess⟩ : ∃ guess, guess = (num.log2 : ℤ) - den.log2 - 52 := ⟨_, rfl⟩
  rw [leading, ← hguess]
  have hsmall := @scaled_div_lt num den (Nat.pos_of_ne_zero hden) guess (2 ^ 52)
  rw [Nat.cast_pow, Nat.cast_ofNat, ← zpow_natCast, ← zpow_add₀ two_ne_zero] at hsmall
  split
  · next hlt =>
    have hexponent : (53 : ℤ) + (guess - 1) = 52 + guess := by ring
    refine ⟨le_of_eq_of_le (congrArg _ ?_) hlow, ?_⟩
    · omega
    · rw [hexponent]
      exact hsmall.mp hlt
  · next hge =>
    refine ⟨not_lt.mp (mt hsmall.mpr hge), lt_of_lt_of_eq hhigh (congrArg _ ?_)⟩
    omega

theorem leading_eq {num den : ℕ} {e : ℤ} (hnum : num ≠ 0) (hden : den ≠ 0)
    (hlow : (2 : ℚ) ^ (52 + e) ≤ num / den) (hhigh : (num : ℚ) / den < 2 ^ (53 + e)) :
    leading num den = e := by
  obtain ⟨hlow', hhigh'⟩ := le_leading_lt hnum hden
  have h₁ := (zpow_lt_zpow_iff_right₀ (by norm_num : (1 : ℚ) < 2)).mp (hlow.trans_lt hhigh')
  have h₂ := (zpow_lt_zpow_iff_right₀ (by norm_num : (1 : ℚ) < 2)).mp (hlow'.trans_lt hhigh)
  omega

theorem leading_le {num den : ℕ} {e : ℤ} (hnum : num ≠ 0) (hden : den ≠ 0)
    (hhigh : (num : ℚ) / den < 2 ^ (53 + e)) : leading num den ≤ e := by
  obtain ⟨hlow', -⟩ := le_leading_lt hnum hden
  have h := (zpow_lt_zpow_iff_right₀ (by norm_num : (1 : ℚ) < 2)).mp (hlow'.trans_lt hhigh)
  omega

/-! ### The fields of a double -/

theorem fraction_lt (x : Binary64) : x.fraction < 2 ^ 52 :=
  Nat.mod_lt _ (by decide)

theorem ofFields_fields (x : Binary64) :
    ofFields x.negative (x.exponentField * 2 ^ 52 + x.fraction) = x := by
  obtain ⟨bits⟩ := x
  have hlt := bits.toNat_lt
  have hbits : (if negative ⟨bits⟩ then Nat.pow 2 63 else 0) +
      (exponentField ⟨bits⟩ * 2 ^ 52 + fraction ⟨bits⟩) = bits.toNat := by
    simp only [negative, exponentField, fraction, Nat.pow_eq, beq_iff_eq]
    split <;> omega
  rw [ofFields, hbits, UInt64.ofNat_toNat]

theorem significand_lt (x : Binary64) : x.significand < 2 ^ 53 := by
  have := x.fraction_lt
  rw [significand]
  split
  · omega
  · exact Nat.add_lt_add_right this (2 ^ 52)

theorem scale_ge (x : Binary64) : -1074 ≤ x.scale := by
  rw [scale]
  split <;> omega

theorem exponentField_lt {x : Binary64} (h : x.isFinite = true) : x.exponentField < 2047 := by
  have hlt : x.exponentField < 2048 := Nat.mod_lt _ (by decide)
  have hne : x.exponentField ≠ 2047 := bne_iff_ne.mp h
  omega

theorem scale_le {x : Binary64} (h : x.isFinite = true) : x.scale ≤ 971 := by
  have := exponentField_lt h
  rw [scale]
  split <;> omega

/-- Above the smallest scale all 53 bits are used. -/
theorem le_significand {x : Binary64} (h : -1074 < x.scale) : 2 ^ 52 ≤ x.significand := by
  rw [scale] at h
  rw [significand]
  split at h
  · exact absurd h (lt_irrefl _)
  · next hfield =>
    rw [if_neg hfield]
    exact Nat.le_add_left _ _

theorem pack_significand {x : Binary64} (h : x.isFinite = true) :
    pack x.negative x.significand x.scale = x := by
  have hfraction := x.fraction_lt
  rw [pack, if_neg (Nat.ne_of_lt x.significand_lt)]
  simp only
  rw [if_neg (not_lt.mpr (scale_le h))]
  rw [significand, scale]
  split
  · next hfield =>
    have hfields := x.ofFields_fields
    rwa [hfield, Nat.zero_mul, Nat.zero_add] at hfields
  · next hfield =>
    rw [Nat.pow_eq, if_neg (not_lt.mpr (Nat.le_add_left _ _)), Nat.add_sub_cancel]
    have hexponent : ((x.exponentField : ℤ) - 1075 + 1075).toNat = x.exponentField := by omega
    rw [hexponent, ofFields_fields]

/-! ### The fractions that are rounded to a double -/

/-- The fraction lies in the interval of the double `m · 2 ^ q`, to which the ends belong if `m` is
even. -/
def Within (m : ℕ) (q : ℤ) (v : ℚ) : Prop :=
  if m % 2 = 0 then
    (interval m q).1 * (2 : ℚ) ^ (q - 2) ≤ v ∧ v ≤ (interval m q).2 * (2 : ℚ) ^ (q - 2)
  else (interval m q).1 * (2 : ℚ) ^ (q - 2) < v ∧ v < (interval m q).2 * (2 : ℚ) ^ (q - 2)

theorem zpow_sub_two (q : ℤ) : (2 : ℚ) ^ (q - 2) = 2 ^ q / 4 := by
  rw [zpow_sub₀ two_ne_zero]
  norm_num

theorem interval_bounds {m : ℕ} (hm : m ≠ 0) (q : ℤ) :
    4 * (m : ℚ) - 2 ≤ (interval m q).1 ∧ ((interval m q).2 : ℚ) = 4 * m + 2 := by
  have hsub {k : ℕ} (hk : k ≤ 4 * m) : ((4 * m - k : ℕ) : ℚ) = 4 * m - k := by
    rw [Nat.cast_sub hk]
    norm_num
  rw [interval]
  refine ⟨?_, by norm_num⟩
  split
  · rw [hsub (by omega)]
    norm_num
    linarith
  · rw [hsub (by omega)]
    norm_num

/-- What lies in the interval is nearest to the significand. -/
theorem Within.rounds {m : ℕ} {q : ℤ} {v : ℚ} (hm : m ≠ 0) (h : Within m q v) :
    Rounds (v / 2 ^ q) m := by
  have hpos : (0 : ℚ) < 2 ^ q := zpow_pos two_pos q
  obtain ⟨hlow, hhigh⟩ := interval_bounds hm q
  rw [Within, zpow_sub_two, hhigh] at h
  rw [Rounds, le_div_iff₀ hpos, div_le_iff₀ hpos, lt_div_iff₀ hpos, div_lt_iff₀ hpos]
  have hle := mul_le_mul_of_nonneg_right hlow (div_nonneg hpos.le (by norm_num : (0 : ℚ) ≤ 4))
  split at h
  · next heven => exact ⟨by linarith [h.1], by linarith [h.2], .inl heven⟩
  · exact ⟨by linarith [h.1], by linarith [h.2], .inr ⟨by linarith [h.1], by linarith [h.2]⟩⟩

theorem Within.pos {m : ℕ} {q : ℤ} {v : ℚ} (hm : m ≠ 0) (h : Within m q v) : 0 < v := by
  have hlow := (h.rounds hm).1
  have hm' : (1 : ℚ) ≤ m := by exact_mod_cast Nat.one_le_iff_ne_zero.mpr hm
  rw [le_div_iff₀ (zpow_pos two_pos q)] at hlow
  exact (mul_pos (by linarith) (zpow_pos two_pos q)).trans_le hlow

theorem Within.lt {m : ℕ} {q : ℤ} {v : ℚ} (hm : m ≠ 0) (hlt : m < 2 ^ 53) (h : Within m q v) :
    v < 2 ^ (53 + q) := by
  have hhigh := (h.rounds hm).2.1
  have hle : (m : ℚ) ≤ 9007199254740991 := by exact_mod_cast Nat.le_of_lt_succ hlt
  rw [zpow_add₀ two_ne_zero, ← div_lt_iff₀ (zpow_pos two_pos q)]
  exact hhigh.trans_lt (by norm_num; linarith)

/-- Only the interval of a power of two goes on below it. -/
theorem Within.eq_of_lt {m : ℕ} {q : ℤ} {v : ℚ} (hge : 2 ^ 52 ≤ m) (h : Within m q v)
    (hv : v < 2 ^ (52 + q)) : m = 2 ^ 52 := by
  have hlow := (h.rounds (by omega)).1
  rw [zpow_add₀ two_ne_zero, ← div_lt_iff₀ (zpow_pos two_pos q)] at hv
  have hlt : (m : ℚ) < (2 ^ 52 + 1 : ℕ) := by
    push_cast
    norm_num at hv
    linarith
  exact le_antisymm (Nat.lt_succ_iff.mp (by exact_mod_cast hlt)) hge

/-- What lies below a power of two, in its interval, has one more bit, and is rounded up to the
power. The interval reaches only half as far there. -/
theorem Within.carry {q : ℤ} {v : ℚ} (hq : -1074 < q) (h : Within (2 ^ 52) q v)
    (hv : v < 2 ^ (52 + q)) :
    2 ^ (52 + (q - 1)) ≤ v ∧ Rounds (v / 2 ^ (q - 1)) (2 ^ 53) := by
  have hpos : (0 : ℚ) < 2 ^ (q - 1) := zpow_pos two_pos _
  have hlow : (2 ^ 53 - 1 / 2) * (2 : ℚ) ^ (q - 1) ≤ v := by
    rw [Within, if_pos (by norm_num), zpow_sub_two, interval, if_pos ⟨rfl, hq⟩] at h
    have hlow := h.1
    rw [zpow_sub_one₀ two_ne_zero]
    norm_num at hlow ⊢
    linarith
  have hhigh : v < 2 ^ 53 * (2 : ℚ) ^ (q - 1) := by
    refine hv.trans_eq ?_
    rw [zpow_add₀ two_ne_zero, zpow_sub_one₀ two_ne_zero]
    norm_num
    ring
  refine ⟨?_, ?_, ?_, .inl (by norm_num)⟩
  · rw [zpow_add₀ two_ne_zero]
    norm_num at hlow ⊢
    linarith
  · rw [le_div_iff₀ hpos]
    exact_mod_cast hlow
  · rw [div_le_iff₀ hpos]
    push_cast
    linarith

theorem pack_carry (negative : Bool) (q : ℤ) :
    pack negative (2 ^ 53) (q - 1) = pack negative (2 ^ 52) q := by
  simp [pack]

theorem ofRatio_eq_of_rounds (negative : Bool) {num den n : ℕ} {e : ℤ} (hnum : num ≠ 0)
    (hden : den ≠ 0) (he : max (leading num den) (-1074) = e)
    (hn : Rounds ((num : ℚ) / den / 2 ^ e) n) :
    ofRatio negative num den = pack negative n e := by
  rw [← scaled_ratio] at hn
  rw [ofRatio_eq _ hnum, he, roundHalfEven_eq (scaled_pos (Nat.pos_of_ne_zero hden) e) hn]

/-- **A fraction in the interval of a double is rounded to it.** -/
theorem ofRatio_eq_of_within {x : Binary64} (hfinite : x.isFinite = true)
    (hne : x.significand ≠ 0) {num den : ℕ} (hden : den ≠ 0)
    (h : Within x.significand x.scale (num / den)) : ofRatio x.negative num den = x := by
  have hnum : num ≠ 0 := by
    rintro rfl
    simpa using h.pos hne
  by_cases hcarry : -1074 < x.scale ∧ (num : ℚ) / den < 2 ^ (52 + x.scale)
  · obtain ⟨hscale, hlt⟩ := hcarry
    have hpower := h.eq_of_lt (le_significand hscale) hlt
    obtain ⟨hlow, hrounds⟩ := Within.carry hscale (hpower ▸ h) hlt
    have hleading : leading num den = x.scale - 1 := by
      refine leading_eq hnum hden hlow (hlt.trans_eq (congrArg _ ?_))
      ring
    rw [ofRatio_eq_of_rounds _ hnum hden (by omega) hrounds, pack_carry, ← hpower,
      pack_significand hfinite]
  · refine (ofRatio_eq_of_rounds _ hnum hden ?_ (h.rounds hne)).trans (pack_significand hfinite)
    have hhigh := h.lt hne x.significand_lt
    obtain hscale | hscale := x.scale_ge.eq_or_lt
    · rw [← hscale] at hhigh ⊢
      exact max_eq_right (leading_le hnum hden hhigh)
    · have hlow := not_lt.mp fun hlt => hcarry ⟨hscale, hlt⟩
      rw [leading_eq hnum hden hlow hhigh]
      exact max_eq_left hscale.le

end Binary64

end Runbook.Decimal
