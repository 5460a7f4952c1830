import Runbook.Proofs.Json.Layout
import Runbook.Toml.Parser
import Runbook.Toml.Printer

/-!
# TOML words written and read again

Truth values and integers are written as words, which go on up to a character that ends them. Each
is read back from its word (`scalarOfWord?_int`), and the word is read whole in front of whatever
may stand behind a value (`value?_word`).
-/

namespace Runbook.Toml

/-! ### Digits -/

theorem digit?_of_isDigit {c : Char} (h : c.isDigit = true) :
    digit? 10 c = some (Json.digitValue c) := by
  obtain ⟨hlow, hhigh⟩ := Char.isDigit_iff_toNat.mp h
  have hrange : '0' ≤ c ∧ c ≤ '9' := ⟨Char.le_def.mpr hlow, Char.le_def.mpr hhigh⟩
  have hlt : c.toNat - '0'.toNat < 10 := by
    have hnine : '9'.toNat = '0'.toNat + 9 := rfl
    omega
  rw [digit?, if_pos hrange, Option.bind_some, if_pos hlt]
  rfl

/-- Digits without underscores are read as their values. -/
theorem digits?_of_isDigit {cs : List Char} (hne : cs ≠ []) (h : ∀ d ∈ cs, d.isDigit = true) :
    digits? 10 cs = some (cs.map Json.digitValue) := by
  induction cs with
  | nil => exact absurd rfl hne
  | cons c cs ih =>
    obtain ⟨hc, hcs⟩ := List.forall_mem_cons.mp h
    cases cs with
    | nil =>
      rw [digits?, digit?_of_isDigit hc]
      rfl
    | cons d cs =>
      rw [digits?, digit?_of_isDigit hc, ih (by simp) hcs]
      · rfl
      · simp
      · intro rest hrest
        obtain ⟨rfl, -⟩ := List.cons.inj hrest
        exact absurd (hcs '_' List.mem_cons_self) (by decide)

theorem ofDigits_map (cs : List Char) :
    ofDigits 10 (cs.map Json.digitValue) = Nat.ofDigitChars 10 cs 0 := by
  rw [ofDigits, List.foldl_map, Nat.ofDigitChars_eq_foldl]
  simp only [Nat.mul_comm]
  rfl

theorem isDigit_toDigits (n : Nat) : ∀ c ∈ Nat.toDigits 10 n, c.isDigit = true :=
  fun _ hc => Nat.isDigit_of_mem_toDigits (by decide) (by decide) hc

/-- A number is read back from its digits. -/
theorem decimal?_toDigits (n : Nat) : decimal? (Nat.toDigits 10 n) = some n := by
  have hzero : ¬(1 < (Nat.toDigits 10 n).length ∧ (Nat.toDigits 10 n).head? = some '0') := by
    rintro ⟨hlength, hhead⟩
    cases n with
    | zero => simp at hlength
    | succ n => exact Json.head?_toDigits (Nat.succ_pos n) hhead
  rw [decimal?, if_neg hzero, digits?_of_isDigit Nat.toDigits_ne_nil (isDigit_toDigits n),
    Option.map_some, ofDigits_map, Nat.ofDigitChars_ten_toDigits]

/-! ### Integers -/

/-- The characters of digits behind a sign, or without one. -/
theorem isDigit_or_minus {negative : Bool} {cs : List Char} (h : ∀ c ∈ cs, c.isDigit = true) :
    ∀ c ∈ (if negative then ['-'] else []) ++ cs, c.isDigit = true ∨ c = '-' := by
  intro c hc
  obtain hc | hc := List.mem_append.mp hc
  · cases negative with
    | true => exact .inr (List.mem_singleton.mp hc)
    | false => cases hc
  · exact .inl (h c hc)

/-- A sign is split off where a digit follows. -/
theorem signed_digits (negative : Bool) {cs : List Char} (h : ∀ c ∈ cs.head?, c.isDigit = true) :
    signed ((if negative then ['-'] else []) ++ cs) = (negative, cs) := by
  cases negative with
  | true => rfl
  | false =>
    rw [if_neg (by decide), List.nil_append, signed]
    · rintro rest rfl
      exact absurd (h '-' rfl) (by decide)
    · rintro rest rfl
      exact absurd (h '+' rfl) (by decide)

theorem integer?_digits (negative : Bool) (n : Nat) :
    integer? ((if negative then ['-'] else []) ++ Nat.toDigits 10 n) =
      bounded? (if negative then -(n : Int) else n) := by
  -- no letter stands in the word, so it is no number of another base
  have hother {d : Char} (hd : d.isDigit = false ∧ d ≠ '-') (rest : List Char) :
      (if negative then ['-'] else []) ++ Nat.toDigits 10 n ≠ '0' :: d :: rest := by
    intro heq
    have hmem : d ∈ (if negative then ['-'] else []) ++ Nat.toDigits 10 n := heq ▸ by simp
    obtain hdigit | hminus := isDigit_or_minus (isDigit_toDigits n) d hmem
    · rw [hd.1] at hdigit
      cases hdigit
    · exact hd.2 hminus
  rw [integer?, signed_digits negative fun c hc => isDigit_toDigits n c (List.mem_of_head? hc)]
  · simp only [decimal?_toDigits, Option.bind_some]
  · exact fun rest heq => hother (by decide) rest heq
  · exact fun rest heq => hother (by decide) rest heq
  · exact fun rest heq => hother (by decide) rest heq

/-- An integer is read back from its word. -/
theorem integer?_intChars {n : Int} (h : Json.IsWord n) :
    integer? (Json.intChars n) = some n := by
  obtain ⟨hlow, hhigh⟩ := h
  have hbounded : bounded? n = some n := by rw [bounded?, if_pos ⟨by omega, by omega⟩]
  cases n with
  | ofNat n => exact (integer?_digits false n).trans hbounded
  | negSucc n => exact (integer?_digits true (n + 1)).trans hbounded

theorem toList_toString (n : Int) : (toString n).toList = Json.intChars n := by
  cases n with
  | ofNat n => exact String.toList_ofList
  | negSucc n =>
    have htext : toString (Int.negSucc n) = "-" ++ String.ofList (Nat.toDigits 10 (n + 1)) := rfl
    simp [htext, Json.intChars]

theorem scalarOfWord?_int {n : Int} (h : Json.IsWord n) :
    scalarOfWord? (toString n).toList = some (.int n) := by
  have hletter {c : Char} {cs : List Char} (hc : c ≠ '-' ∧ c.isDigit = false) :
      Json.intChars n ≠ c :: cs := by
    obtain ⟨d, ds, hd, hstart⟩ := Json.intChars_cons n
    rw [hd]
    intro heq
    exact Json.ne_of_startsNumber hstart hc (List.cons.inj heq).1
  rw [toList_toString, scalarOfWord?, if_neg (hletter (by decide)), if_neg (hletter (by decide)),
    integer?_intChars h]

/-! ### Words -/

/-- What may stand behind a value. -/
inductive EndsValue : List Char → Prop where
  | line (rest : List Char) : EndsValue ('\n' :: rest)
  | comma (rest : List Char) : EndsValue (',' :: rest)
  | bracket (rest : List Char) : EndsValue (']' :: rest)
  | brace (rest : List Char) : EndsValue (' ' :: '}' :: rest)

theorem isDigit_intChars (n : Int) : ∀ c ∈ Json.intChars n, c.isDigit = true ∨ c = '-' := by
  cases n with
  | ofNat n => exact fun c hc => .inl (isDigit_toDigits n c hc)
  | negSucc n => exact @isDigit_or_minus true _ (isDigit_toDigits (n + 1))

theorem endsWord_of_isDigit {c : Char} (h : c.isDigit = true ∨ c = '-') : endsWord c = false := by
  rw [endsWord, Bool.eq_false_iff]
  intro hmem
  simp only [List.contains_cons, List.contains_nil, Bool.or_false, Bool.or_eq_true,
    beq_iff_eq] at hmem
  obtain rfl | rfl | rfl | rfl | rfl | rfl | rfl | rfl | rfl | rfl | rfl | rfl | rfl := hmem <;>
    exact absurd h (by decide)

/-- A word goes on up to what stands behind the value. -/
theorem word_append {cs rest : List Char} (h : ∀ c ∈ cs, endsWord c = false)
    (hrest : EndsValue rest) : word (cs ++ rest) = (cs, rest) := by
  have hend : rest.takeWhile (!endsWord ·) = [] ∧ rest.dropWhile (!endsWord ·) = rest := by
    cases hrest <;> exact ⟨rfl, rfl⟩
  have hcs : ∀ c ∈ cs, (!endsWord c) = true := fun c hc => by rw [h c hc]; rfl
  have htake : (cs ++ rest).takeWhile (!endsWord ·) = cs := by
    rw [List.takeWhile_append_of_pos hcs, hend.1, List.append_nil]
  have hdrop : (cs ++ rest).dropWhile (!endsWord ·) = rest := by
    rw [List.dropWhile_append_of_pos hcs, hend.2]
  simp only [word, htake, hdrop]
  cases hrest with
  | line | comma | bracket => rfl
  | brace => exact if_neg fun h => absurd h.1 (by decide)

/-- A word that is no string, array or table is read as its value. -/
theorem value?_word {c : Char} {cs rest : List Char} {j : Json} (fuel depth : Nat)
    (h : ∀ d ∈ c :: cs, endsWord d = false) (hj : scalarOfWord? (c :: cs) = some j)
    (hrest : EndsValue rest) : value? (fuel + 1) depth (c :: cs ++ rest) = some (j, rest) := by
  have hne {d : Char} (hd : endsWord d = true) : c ≠ d := by
    rintro rfl
    rw [h c List.mem_cons_self] at hd
    cases hd
  have hread : (fun w : List Char × List Char => (scalarOfWord? w.1).map (·, w.2))
      (word (c :: cs ++ rest)) = some (j, rest) := by
    rw [word_append h hrest]
    simp [hj]
  have hdouble : c ≠ '"' := hne (by decide)
  have hsingle : c ≠ '\'' := hne (by decide)
  have hbracket : c ≠ '[' := hne (by decide)
  have hbrace : c ≠ '{' := hne (by decide)
  rw [List.cons_append] at hread ⊢
  rw [value?]
  · exact hread
  all_goals simp [hdouble, hsingle, hbracket, hbrace]

end Runbook.Toml
