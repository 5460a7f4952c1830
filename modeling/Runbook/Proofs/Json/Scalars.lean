import Runbook.Json.Parser
import Runbook.Json.Printer

/-!
# Strings and integers in JSON

What is written of a string or of an integer is read as that string or integer, whatever stands
behind it. Of the text behind an integer one thing has to be known: it must not go on with the
number (`Ends`).
-/

namespace Runbook.Json

/-! ### Strings -/

/-- A control character is written by four digits, and they stand for it. -/
theorem unit?_hex4 : ∀ n < 32,
    hex4 n = ['0', '0', Nat.digitChar (n / 16), Nat.digitChar (n % 16)] ∧
      unit? '0' '0' (Nat.digitChar (n / 16)) (Nat.digitChar (n % 16)) = some n ∧
      singleUnit? n = some (Char.ofNat n) := by
  decide

/-- A character is read back from how it is written. -/
theorem stringBody_escapeChar (c : Char) (rest : List Char) :
    stringBody (escapeChar c ++ rest) = (stringBody rest).map fun (s, r) => (c :: s, r) := by
  unfold escapeChar
  split
  · rfl
  · rfl
  · rfl
  · rfl
  · rfl
  · rfl
  · rfl
  · split
    · rename_i hcontrol
      obtain ⟨hhex, hunit, hsingle⟩ := unit?_hex4 c.toNat hcontrol
      rw [hhex]
      simp [stringBody, hunit, hsingle]
    · rename_i hquote hbackslash _ _ _ _ _ hcontrol
      have hplain : ¬(c.toNat < 32 ∨ c = '\\') := by
        rintro (h | h)
        · exact hcontrol h
        · exact hbackslash h
      rw [List.singleton_append, stringBody]
      · rw [if_neg hplain]
      all_goals simp_all

theorem stringBody_flatMap (cs rest : List Char) :
    stringBody (cs.flatMap escapeChar ++ '"' :: rest) = some (cs, rest) := by
  induction cs with
  | nil => rfl
  | cons c cs ih =>
    rw [List.flatMap_cons, List.append_assoc, stringBody_escapeChar, ih]
    rfl

/-! ### Integers -/

/-- The text does not go on with a number. -/
def Ends (cs : List Char) : Prop :=
  ∀ c ∈ cs.head?, c.isDigit = false ∧ c ≠ '.' ∧ c ≠ 'e' ∧ c ≠ 'E'

/-- An integer that 64 bits hold, with or without sign. -/
def IsWord (n : Int) : Prop := -0x8000000000000000 ≤ n ∧ n ≤ 0xFFFFFFFFFFFFFFFF

theorem takeWhile_digits {ds rest : List Char} (hds : ∀ c ∈ ds, c.isDigit) (hrest : Ends rest) :
    (ds ++ rest).takeWhile Char.isDigit = ds ∧ (ds ++ rest).dropWhile Char.isDigit = rest := by
  have hnil : rest.takeWhile Char.isDigit = [] ∧ rest.dropWhile Char.isDigit = rest := by
    cases rest with
    | nil => exact ⟨rfl, rfl⟩
    | cons c rest =>
      have hc := (hrest c rfl).1
      simp [hc]
  rw [List.takeWhile_append_of_pos hds, List.dropWhile_append_of_pos hds, hnil.1, hnil.2,
    List.append_nil]
  exact ⟨rfl, rfl⟩

/-- Only zero is written with a leading zero. -/
theorem head?_toDigits {n : Nat} (h : 0 < n) : (Nat.toDigits 10 n).head? ≠ some '0' := by
  induction n using Nat.strongRecOn with
  | ind n ih =>
    rw [Nat.toDigits_eq_if (by decide)]
    split
    · simp [Nat.digitChar_eq_zero]
      omega
    · rw [List.head?_append, Option.or_of_isSome (by simp)]
      exact ih (n / 10) (by omega) (by omega)

theorem ofDigitChars_cons (c : Char) (cs : List Char) (acc : Nat) :
    Nat.ofDigitChars 10 (c :: cs) acc = Nat.ofDigitChars 10 cs (acc * 10 + digitValue c) := by
  rw [Nat.ofDigitChars_eq_foldl, Nat.ofDigitChars_eq_foldl, List.foldl_cons, Nat.mul_comm]
  rfl

/-- All digits of a number that fits are gathered. -/
theorem gather_eq {ds : List Char} {acc : Nat} (h : Nat.ofDigitChars 10 ds acc ≤ wordMax) :
    gather acc ds = (Nat.ofDigitChars 10 ds acc, []) := by
  induction ds generalizing acc with
  | nil => rfl
  | cons c ds ih =>
    rw [ofDigitChars_cons] at h ⊢
    have hfits : acc * 10 + digitValue c ≤ wordMax := by
      refine Nat.le_trans ?_ h
      rw [Nat.ofDigitChars_eq_ofDigitChars_zero]
      exact Nat.le_add_right_of_le (Nat.le_mul_of_pos_left _ (Nat.pow_pos (by decide : 0 < 10)))
    rw [gather, if_pos hfits, ih h]

/-- The digits of a number are read whole, behind a sign or without one. -/
theorem number_digits (negative : Bool) {n : Nat} (h : n ≤ wordMax) {rest : List Char}
    (hrest : Ends rest) :
    number ((if negative then ['-'] else []) ++ (Nat.toDigits 10 n ++ rest)) =
      some (whole negative n, rest) := by
  have hdigits : ∀ c ∈ Nat.toDigits 10 n, c.isDigit :=
    fun c hc => Nat.isDigit_of_mem_toDigits (by decide) (by decide) hc
  obtain ⟨htake, hdrop⟩ := takeWhile_digits hdigits hrest
  have hzero : ¬((Nat.toDigits 10 n).head? = some '0' ∧ 1 < (Nat.toDigits 10 n).length) := by
    rintro ⟨hhead, hlength⟩
    cases n with
    | zero => simp at hlength
    | succ n => exact head?_toDigits (Nat.succ_pos n) hhead
  have hgather : gather 0 (Nat.toDigits 10 n) = (n, []) := by
    have hvalue : Nat.ofDigitChars 10 (Nat.toDigits 10 n) 0 = n := Nat.ofDigitChars_ten_toDigits
    rw [gather_eq (by rwa [hvalue]), hvalue]
  unfold number
  split
  rename_i minus cs hsign
  obtain ⟨rfl, rfl⟩ : minus = negative ∧ cs = Nat.toDigits 10 n ++ rest := by
    cases negative with
    | true => exact Prod.mk.inj hsign.symm
    | false =>
      unfold sign at hsign
      split at hsign
      · -- no digit is a sign
        rename_i r hminus
        have hhead : '-' ∈ (Nat.toDigits 10 n ++ rest).head? := by
          rw [show Nat.toDigits 10 n ++ rest = '-' :: r from hminus]
          rfl
        rw [List.head?_append, Option.or_of_isSome (by simp)] at hhead
        exact absurd (hdigits _ (List.mem_of_mem_head? hhead)) (by decide)
      · rename_i r hplus
        rw [show Nat.toDigits 10 n ++ rest = '+' :: r from hplus]
        exact Prod.mk.inj hsign.symm
      · exact Prod.mk.inj hsign.symm
  simp only [htake, hdrop, hgather]
  rw [if_neg (by simpa using hzero)]
  cases rest with
  | nil => rfl
  | cons c rest =>
    obtain ⟨-, hpoint, hlower, hupper⟩ := hrest c rfl
    simp [hpoint, hlower, hupper]

/-- An integer is read back from how it is written. -/
theorem number_intChars {n : Int} (h : IsWord n) {rest : List Char} (hrest : Ends rest) :
    number (intChars n ++ rest) = some (.int n, rest) := by
  obtain ⟨hlow, hhigh⟩ := h
  cases n with
  | ofNat n =>
    have hn : n ≤ wordMax := by
      have hmax : wordMax = 0xFFFFFFFFFFFFFFFF := rfl
      rw [Int.ofNat_eq_natCast] at hhigh
      omega
    exact number_digits false hn hrest
  | negSucc n =>
    have hn : n + 1 ≤ Nat.pow 2 63 := by
      have hpow : Nat.pow 2 63 = 0x8000000000000000 := rfl
      omega
    have hmax : n + 1 ≤ wordMax := Nat.le_trans hn (by decide)
    have hwhole : whole true (n + 1) = .int (Int.negSucc n) := by
      have hword : 1 ≤ n + 1 ∧ n + 1 ≤ Nat.pow 2 63 := ⟨Nat.succ_pos n, hn⟩
      rw [whole, if_pos rfl, if_pos hword]
      rfl
    have hnumber := number_digits true hmax hrest
    rw [hwhole] at hnumber
    exact hnumber

end Runbook.Json
