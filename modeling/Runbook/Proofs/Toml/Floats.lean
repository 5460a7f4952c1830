import Mathlib.Data.List.TakeWhile
import Runbook.Proofs.Decimal.Shortest
import Runbook.Proofs.Toml.Numbers

/-!
# TOML doubles written and read again

A double is written with the digits of its shortest decimal around a point, with zeros where it
needs them. However the digits stand, they are read as that decimal, which is rounded to the double
(`scalarOfWord?_float`).
-/

namespace Runbook.Toml

open Decimal (Binary64 Scientific)

/-- Digits in front of a point and behind it, as they may stand in a number. -/
structure Positional (whole places : List Char) : Prop where
  whole_ne : whole ≠ []
  places_ne : places ≠ []
  isDigit : ∀ c ∈ whole ++ places, c.isDigit = true
  head : 1 < whole.length → whole.head? ≠ some '0'

/-- The number that digits with a point in them write. -/
def positionalValue (whole places : List Char) : ℚ :=
  Nat.ofDigitChars 10 (whole ++ places) 0 * 10 ^ (-(places.length : ℤ))

/-- How the absolute value of a finite double is written. -/
def pointChars (s : Scientific) : List Char :=
  let ds := Nat.toDigits 10 s.coefficient
  let point : Int := ds.length + s.exponent
  if s.coefficient = 0 then ['0', '.', '0']
  else if point ≤ 0 then '0' :: '.' :: (List.replicate (-point).toNat '0' ++ ds)
  else if ds.length ≤ point.toNat then
    ds ++ List.replicate (point.toNat - ds.length) '0' ++ ['.', '0']
  else ds.take point.toNat ++ '.' :: ds.drop point.toNat

theorem floatText_of_isFinite {x : Binary64} (h : x.isFinite = true) :
    (floatText x).toList = (if x.negative then ['-'] else []) ++ pointChars x.shortest := by
  have hnan : x.isNaN = false := by
    rw [Binary64.isFinite, bne_iff_ne] at h
    simp [Binary64.isNaN, h]
  rw [floatText, hnan, h]
  cases x.negative <;> simp [pointChars]

/-! ### The digits of a decimal -/

/-- Zeros in front of digits do not count. -/
theorem ofDigitChars_zeros (n : ℕ) (cs : List Char) :
    Nat.ofDigitChars 10 (List.replicate n '0' ++ cs) 0 = Nat.ofDigitChars 10 cs 0 := by
  induction n with
  | zero => rfl
  | succ n ih => rw [List.replicate_succ, List.cons_append, Json.ofDigitChars_cons, ← ih]; rfl

/-- Zeros behind digits are factors of ten. -/
theorem ofDigitChars_append_zeros (n : ℕ) (cs : List Char) :
    Nat.ofDigitChars 10 (cs ++ List.replicate n '0') 0 = Nat.ofDigitChars 10 cs 0 * 10 ^ n := by
  rw [Nat.ofDigitChars_append]
  generalize Nat.ofDigitChars 10 cs 0 = acc
  induction n generalizing acc with
  | zero => exact (Nat.mul_one acc).symm
  | succ n ih =>
    have hzero : Json.digitValue '0' = 0 := rfl
    rw [List.replicate_succ, Json.ofDigitChars_cons, hzero, ih]
    ring

theorem isDigit_zeros (n : ℕ) : ∀ c ∈ List.replicate n '0', c.isDigit = true :=
  fun c hc => by rw [List.eq_of_mem_replicate hc]; rfl

section Placing

variable {ds : List Char} (hne : ds ≠ []) (hdigits : ∀ c ∈ ds, c.isDigit = true)
include hne hdigits

theorem positional_front (n : ℕ) : Positional ['0'] (List.replicate n '0' ++ ds) where
  whole_ne := by simp
  places_ne := by simp [hne]
  isDigit := by
    rw [List.singleton_append, List.forall_mem_cons, List.forall_mem_append]
    exact ⟨rfl, isDigit_zeros n, hdigits⟩
  head := by simp

theorem positional_behind (hhead : ds.head? ≠ some '0') (n : ℕ) :
    Positional (ds ++ List.replicate n '0') ['0'] where
  whole_ne := by simp [hne]
  places_ne := by simp
  isDigit := by
    rw [List.forall_mem_append, List.forall_mem_append, List.forall_mem_singleton]
    exact ⟨⟨hdigits, isDigit_zeros n⟩, rfl⟩
  head _ := by rwa [List.head?_append_of_ne_nil _ hne]

theorem positional_cut (hhead : ds.head? ≠ some '0') {n : ℕ} (hpos : 0 < n) (hlt : n < ds.length) :
    Positional (ds.take n) (ds.drop n) where
  whole_ne := by
    simp [hne]
    omega
  places_ne := by
    simp
    omega
  isDigit := by rwa [List.take_append_drop]
  head _ := by rwa [List.head?_take, if_neg (by omega)]

end Placing

theorem positionalValue_front (n : ℕ) (ds : List Char) :
    positionalValue ['0'] (List.replicate n '0' ++ ds) =
      Nat.ofDigitChars 10 ds 0 * 10 ^ (-((n : ℤ) + ds.length)) := by
  have hzeros := ofDigitChars_zeros (n + 1) ds
  rw [List.replicate_succ, List.cons_append] at hzeros
  rw [positionalValue, List.singleton_append, hzeros, List.length_append, List.length_replicate,
    Nat.cast_add]

theorem positionalValue_behind (n : ℕ) (ds : List Char) :
    positionalValue (ds ++ List.replicate n '0') ['0'] =
      Nat.ofDigitChars 10 ds 0 * 10 ^ (n : ℤ) := by
  have hzeros := ofDigitChars_append_zeros (n + 1) ds
  rw [List.replicate_succ', ← List.append_assoc] at hzeros
  rw [positionalValue, hzeros, zpow_natCast, pow_succ]
  push_cast
  norm_num
  ring

theorem positionalValue_cut {n : ℕ} {ds : List Char} (h : n ≤ ds.length) :
    positionalValue (ds.take n) (ds.drop n) =
      Nat.ofDigitChars 10 ds 0 * 10 ^ ((n : ℤ) - ds.length) := by
  rw [positionalValue, List.take_append_drop, List.length_drop, Nat.cast_sub h, neg_sub]

/-- A decimal is written with its value. -/
theorem exists_positional (s : Scientific) :
    ∃ whole places, pointChars s = whole ++ '.' :: places ∧ Positional whole places ∧
      positionalValue whole places = s.coefficient * 10 ^ s.exponent := by
  have hdigits := isDigit_toDigits s.coefficient
  have hvalue : Nat.ofDigitChars 10 (Nat.toDigits 10 s.coefficient) 0 = s.coefficient :=
    Nat.ofDigitChars_ten_toDigits
  have hne : Nat.toDigits 10 s.coefficient ≠ [] := Nat.toDigits_ne_nil
  have hhead (h : s.coefficient ≠ 0) : (Nat.toDigits 10 s.coefficient).head? ≠ some '0' :=
    Json.head?_toDigits (Nat.pos_of_ne_zero h)
  rw [pointChars]
  generalize Nat.toDigits 10 s.coefficient = ds at *
  by_cases hzero : s.coefficient = 0
  · refine ⟨['0'], ['0'], by simp [hzero], ⟨by simp, by simp, by simp [Char.isDigit], by simp⟩, ?_⟩
    simp [positionalValue, hzero, Nat.ofDigitChars]
  by_cases hsmall : (ds.length : ℤ) + s.exponent ≤ 0
  · refine ⟨_, _, by simp [hzero, hsmall],
      positional_front hne hdigits (-(ds.length + s.exponent)).toNat, ?_⟩
    rw [positionalValue_front, hvalue]
    congr 2
    omega
  by_cases hlarge : ds.length ≤ (ds.length + s.exponent).toNat
  · refine ⟨_, _, by simp [hzero, hsmall, hlarge], positional_behind hne hdigits (hhead hzero)
      ((ds.length + s.exponent).toNat - ds.length), ?_⟩
    rw [positionalValue_behind, hvalue]
    congr 2
    omega
  · refine ⟨_, _, by simp [hzero, hsmall, hlarge], positional_cut hne hdigits (hhead hzero)
      (n := (ds.length + s.exponent).toNat) (by omega) (by omega), ?_⟩
    rw [positionalValue_cut (by omega), hvalue]
    congr 2
    omega

/-! ### Reading them -/

namespace Positional

variable {whole places : List Char} (h : Positional whole places)
include h

theorem isDigit_or_point : ∀ c ∈ whole ++ '.' :: places, c.isDigit = true ∨ c = '.' := by
  intro c hc
  obtain hc | hc := List.mem_append.mp hc
  · exact .inl (h.isDigit c (List.mem_append_left places hc))
  · exact (List.mem_cons.mp hc).symm.imp_left
      fun hc => h.isDigit c (List.mem_append_right whole hc)

/-- No mark of an exponent is among them. -/
theorem not_mark : ∀ c ∈ whole ++ '.' :: places, (!(c == 'e' || c == 'E')) = true := by
  intro c hc
  obtain hc | rfl := h.isDigit_or_point c hc
  · rw [Bool.not_eq_true', Bool.eq_false_iff]
    intro hmark
    rw [Bool.or_eq_true, beq_iff_eq, beq_iff_eq] at hmark
    obtain rfl | rfl := hmark <;> exact absurd hc (by decide)
  · rfl

theorem ne_point : ∀ c ∈ whole, decide (c ≠ '.') = true := by
  intro c hc
  refine decide_eq_true ?_
  rintro rfl
  exact absurd (h.isDigit '.' (List.mem_append_left _ hc)) (by decide)

theorem decimal?_whole : decimal? whole = some (Nat.ofDigitChars 10 whole 0) := by
  rw [decimal?, if_neg fun hzero => h.head hzero.1 hzero.2,
    digits?_of_isDigit h.whole_ne (fun c hc => h.isDigit c (List.mem_append_left _ hc)),
    Option.map_some, ofDigits_map]

theorem digits?_places : digits? 10 places = some (places.map Json.digitValue) :=
  digits?_of_isDigit h.places_ne fun c hc => h.isDigit c (List.mem_append_right _ hc)

end Positional

/-- The digits in front of the point and those behind it make one number. -/
theorem ofDigitChars_point (whole places : List Char) :
    Nat.ofDigitChars 10 whole 0 * Nat.pow 10 (places.map Json.digitValue).length +
      ofDigits 10 (places.map Json.digitValue) = Nat.ofDigitChars 10 (whole ++ places) 0 := by
  rw [ofDigits_map, List.length_map, Nat.ofDigitChars_append,
    @Nat.ofDigitChars_eq_ofDigitChars_zero places (Nat.ofDigitChars 10 whole 0), Nat.pow_eq,
    Nat.mul_comm]

/-- Digits with a point are read as the decimal they write. -/
theorem float?_positional {whole places : List Char} (h : Positional whole places)
    (negative : Bool) {x : Binary64}
    (hx : Binary64.ofDecimal negative (Nat.ofDigitChars 10 (whole ++ places) 0)
      (-(places.length : ℤ)) = x) (hfinite : x.isFinite = true) :
    float? ((if negative then ['-'] else []) ++ (whole ++ '.' :: places)) = some x := by
  have hstart : ∀ c ∈ (whole ++ '.' :: places).head?, c.isDigit = true := by
    rw [List.head?_append_of_ne_nil _ h.whole_ne]
    exact fun c hc => h.isDigit c (List.mem_append_left _ (List.mem_of_head? hc))
  have hletter {c : Char} (hc : c.isDigit = false) (cs : List Char) :
      whole ++ '.' :: places ≠ c :: cs := by
    intro heq
    have := hstart c (by rw [heq]; rfl)
    rw [hc] at this
    cases this
  have hexponent : max (-exponentBound) (min exponentBound 0) -
      ((places.map Json.digitValue).length : ℤ) = -(places.length : ℤ) := by
    simp [exponentBound]
  rw [float?, signed_digits negative hstart]
  simp only [if_neg (hletter (by decide : 'i'.isDigit = false) _),
    if_neg (hletter (by decide : 'n'.isDigit = false) _),
    List.takeWhile_eq_self_iff.mpr h.not_mark, List.dropWhile_eq_nil_iff.mpr h.not_mark,
    List.takeWhile_append_of_pos h.ne_point, List.dropWhile_append_of_pos h.ne_point]
  simp only [List.takeWhile_cons, List.dropWhile_cons, ne_eq, not_true_eq_false, decide_false,
    Bool.false_eq_true, if_false, List.append_nil, h.decimal?_whole, h.digits?_places,
    List.isEmpty_cons, ofDigitChars_point]
  rw [hexponent, hx, if_pos hfinite]

/-- No number of any base has a point among its digits. -/
theorem digits?_point {base : ℕ} {cs : List Char} (h : '.' ∈ cs) : digits? base cs = none := by
  have hpoint : digit? base '.' = none := rfl
  fun_induction digits? base cs with
  | case1 => cases h
  | case2 c =>
    obtain rfl := List.mem_singleton.mp h
    rfl
  | case3 c rest d ds hrest hc ih | case5 c rest _ _ d ds hrest hc ih => grind
  | case4 | case6 => rfl

theorem integer?_point {cs : List Char} (h : '.' ∈ cs) : integer? cs = none := by
  have hsigned : '.' ∈ (signed cs).2 := by
    rw [signed.eq_def]
    split <;> simp_all
  rw [integer?.eq_def]
  split
  · rw [digits?_point (by simpa using h), Option.bind_none]
  · rw [digits?_point (by simpa using h), Option.bind_none]
  · rw [digits?_point (by simpa using h), Option.bind_none]
  · simp only [decimal?, digits?_point hsigned]
    split <;> rfl

/-- The characters of a finite double, none of which ends a word. -/
theorem exists_floatText {x : Binary64} (h : x.isFinite = true) :
    ∃ c cs, (floatText x).toList = c :: cs ∧
      ∀ d ∈ c :: cs, (d.isDigit = true ∨ d = '-') ∨ d = '.' := by
  obtain ⟨whole, places, hchars, hpositional, -⟩ := exists_positional x.shortest
  have htext := floatText_of_isFinite h
  rw [hchars] at htext
  obtain ⟨c, cs, hcons⟩ : ∃ c cs, (floatText x).toList = c :: cs :=
    List.exists_cons_of_ne_nil (by rw [htext]; simp)
  refine ⟨c, cs, hcons, fun d hd => ?_⟩
  rw [← hcons, htext] at hd
  obtain hd | hd := List.mem_append.mp hd
  · cases hnegative : x.negative <;> simp_all
  · exact (hpositional.isDigit_or_point d hd).imp_left .inl

/-- **A finite double is read back from its text.** -/
theorem scalarOfWord?_float {x : Binary64} (h : x.isFinite = true) :
    scalarOfWord? (floatText x).toList = some (.float x) := by
  obtain ⟨whole, places, hchars, hpositional, hvalue⟩ := exists_positional x.shortest
  have hfloat := float?_positional hpositional x.negative (Binary64.ofDecimal_eq h hvalue) h
  have hinteger : integer? ((if x.negative then ['-'] else []) ++ (whole ++ '.' :: places)) =
      none := integer?_point (by simp)
  obtain ⟨c, cs, hcons, hword⟩ := exists_floatText h
  have hletter {d : Char} (hd : ¬((d.isDigit = true ∨ d = '-') ∨ d = '.')) (ds : List Char) :
      (floatText x).toList ≠ d :: ds := by
    rw [hcons]
    intro heq
    obtain ⟨rfl, -⟩ := List.cons.inj heq
    exact hd (hword c List.mem_cons_self)
  rw [scalarOfWord?, if_neg (hletter (by decide) _), if_neg (hletter (by decide) _),
    floatText_of_isFinite h, hchars, hinteger, hfloat]

end Runbook.Toml
