import Runbook.Regex.Basic
import Mathlib.Data.List.Basic

/-!
# What an expression matches

`Regex.Spans` says between which places of a text an expression matches, without regard to how a
match is found. The matcher follows sets of places instead, and a repetition without bound only as
often as the text has characters. Both agree (`Regex.follows_reach`): a round of a repetition goes
forward or stays where it is, and rounds that stay can be left out.

For classes of characters the places can be forgotten. What such an expression matches is a piece
of the text (`Stands`) with characters of the class (`Regex.spans_char_iff`,
`Regex.spans_run_iff`).
-/

namespace Runbook.Regex

variable {text : Array Char} {R : Nat → Nat → Prop} {step : Places → Places}

/-- From one place to another in a number of steps. -/
inductive Steps (R : Nat → Nat → Prop) : (n i j : Nat) → Prop where
  /-- No step. -/
  | done (i : Nat) : Steps R 0 i i
  /-- A first step, and others behind it. -/
  | more {n i j k : Nat} : R i j → Steps R n j k → Steps R (n + 1) i k

/-- The expression matches the text between the two places. -/
def Spans (text : Array Char) : Regex → (i j : Nat) → Prop
  | .empty, i, j => i = j
  | .char allowed, i, j => ∃ c, text[i]? = some c ∧ allowed.contains c = true ∧ i + 1 = j
  | .start, i, j => i = 0 ∧ i = j
  | .finish, i, j => i = text.size ∧ i = j
  | .seq first second, i, j => ∃ m, Spans text first i m ∧ Spans text second m j
  | .alt first second, i, j => Spans text first i j ∨ Spans text second i j
  | .repeated body least most, i, j =>
    ∃ n, (∀ m, most = some m → n ≤ m - least) ∧ Steps (Spans text body) (least + n) i j

/-! ### Steps -/

theorem steps_zero_iff {i j : Nat} : Steps R 0 i j ↔ i = j := by
  constructor
  · intro h
    cases h
    rfl
  · rintro rfl
    exact .done i

theorem steps_succ_iff {n i k : Nat} : Steps R (n + 1) i k ↔ ∃ j, R i j ∧ Steps R n j k := by
  constructor
  · intro h
    cases h with
    | more hstep hrest => exact ⟨_, hstep, hrest⟩
  · rintro ⟨j, hstep, hrest⟩
    exact .more hstep hrest

theorem steps_add_iff {n m i k : Nat} :
    Steps R (n + m) i k ↔ ∃ j, Steps R n i j ∧ Steps R m j k := by
  induction n generalizing i with
  | zero => simp [steps_zero_iff]
  | succ n ih =>
    rw [Nat.add_right_comm, steps_succ_iff]
    simp only [ih, steps_succ_iff]
    constructor
    · rintro ⟨x, hx, j, hxj, hjk⟩
      exact ⟨j, ⟨x, hx, hxj⟩, hjk⟩
    · rintro ⟨j, ⟨x, hx, hxj⟩, hjk⟩
      exact ⟨x, hx, j, hxj, hjk⟩

/-- Steps that may also stay in place are steps of which some are left out. -/
theorem steps_or_eq_iff {n i k : Nat} :
    Steps (fun i j => i = j ∨ R i j) n i k ↔ ∃ m ≤ n, Steps R m i k := by
  induction n generalizing i with
  | zero => simp [steps_zero_iff]
  | succ n ih =>
    simp only [steps_succ_iff, ih]
    constructor
    · rintro ⟨j, rfl | hstep, m, hm, hrest⟩
      · exact ⟨m, Nat.le_succ_of_le hm, hrest⟩
      · exact ⟨m + 1, Nat.succ_le_succ hm, .more hstep hrest⟩
    · rintro ⟨m, hm, h⟩
      cases h with
      | done => exact ⟨_, .inl rfl, 0, Nat.zero_le n, .done _⟩
      | more hstep hrest => exact ⟨_, .inr hstep, _, Nat.le_of_succ_le_succ hm, hrest⟩

/-- A step goes forward in the text or stays where it is. -/
def Forward (bound : Nat) (R : Nat → Nat → Prop) : Prop :=
  ∀ i j, R i j → i = j ∨ i < j ∧ j ≤ bound

theorem Forward.steps {bound : Nat} (hR : Forward bound R) (n : Nat) :
    Forward bound (Steps R n) := by
  intro i j h
  induction h with
  | done => exact .inl rfl
  | more hstep _ ih =>
    have hfirst := hR _ _ hstep
    omega

/-- No more steps are needed than there are places ahead. -/
theorem Forward.exists_le {bound : Nat} (hR : Forward bound R) {n i j : Nat} (h : Steps R n i j) :
    ∃ m ≤ bound - i, Steps R m i j := by
  induction h with
  | done i => exact ⟨0, Nat.zero_le _, .done i⟩
  | more hstep _ ih =>
    obtain ⟨m, hm, hrest⟩ := ih
    obtain rfl | ⟨hlt, hle⟩ := hR _ _ hstep
    · exact ⟨m, hm, hrest⟩
    · exact ⟨m + 1, by omega, .more hstep hrest⟩

theorem forward_spans (text : Array Char) (r : Regex) : Forward text.size (Spans text r) := by
  induction r with
  | empty => exact fun i j h => .inl h
  | char allowed =>
    rintro i j ⟨c, hc, -, rfl⟩
    have hi : i < text.size := (Array.getElem?_eq_some_iff.mp hc).1
    exact .inr ⟨Nat.lt_succ_self i, hi⟩
  | start => exact fun i j h => .inl h.2
  | finish => exact fun i j h => .inl h.2
  | seq first second ihfirst ihsecond =>
    rintro i j ⟨m, hfirst, hsecond⟩
    have him := ihfirst _ _ hfirst
    have hmj := ihsecond _ _ hsecond
    omega
  | alt first second ihfirst ihsecond =>
    rintro i j (h | h)
    · exact ihfirst _ _ h
    · exact ihsecond _ _ h
  | repeated body least most ih =>
    rintro i j ⟨n, -, h⟩
    exact ih.steps (least + n) i j h

/-! ### Sets of places -/

theorem mem_union {a b : Places} {i : Nat} : i ∈ Places.union a b ↔ i ∈ a ∨ i ∈ b := by
  by_cases h : i ∈ a <;> simp [Places.union, h]

/-- The function leads from a set of places to where the relation leads from one of them. -/
def Follows (step : Places → Places) (R : Nat → Nat → Prop) : Prop :=
  ∀ ps j, j ∈ step ps ↔ ∃ i ∈ ps, R i j

theorem Follows.times (h : Follows step R) (n : Nat) : Follows (times step n) (Steps R n) := by
  intro ps j
  induction n generalizing ps with
  | zero => simp [Regex.times, steps_zero_iff]
  | succ n ih =>
    rw [Regex.times, ih]
    simp only [h ps, steps_succ_iff]
    constructor
    · rintro ⟨m, ⟨i, hi, him⟩, hrest⟩
      exact ⟨i, hi, m, him, hrest⟩
    · rintro ⟨i, hi, m, him, hrest⟩
      exact ⟨m, ⟨i, hi, him⟩, hrest⟩

theorem Follows.union (h : Follows step R) :
    Follows (fun ps => Places.union ps (step ps)) fun i j => i = j ∨ R i j := by
  intro ps j
  rw [mem_union, h ps]
  constructor
  · rintro (hj | ⟨i, hi, hij⟩)
    · exact ⟨j, hj, .inl rfl⟩
    · exact ⟨i, hi, .inr hij⟩
  · rintro ⟨i, hi, rfl | hij⟩
    · exact .inl hi
    · exact .inr ⟨i, hi, hij⟩

theorem Follows.upTo (h : Follows step R) (n : Nat) :
    Follows (upTo step n) fun i j => ∃ m ≤ n, Steps R m i j := by
  intro ps j
  induction n generalizing ps with
  | zero => simp [Regex.upTo, steps_zero_iff]
  | succ n ih =>
    rw [Regex.upTo, mem_union, ih]
    simp only [h ps]
    constructor
    · rintro (hj | ⟨m, ⟨i, hi, him⟩, k, hk, hrest⟩)
      · exact ⟨j, hj, 0, Nat.zero_le _, .done j⟩
      · exact ⟨i, hi, k + 1, Nat.succ_le_succ hk, .more him hrest⟩
    · rintro ⟨i, hi, k, hk, hsteps⟩
      cases hsteps with
      | done => exact .inl hi
      | more him hrest => exact .inr ⟨_, ⟨i, hi, him⟩, _, Nat.le_of_succ_le_succ hk, hrest⟩

/-- **The matcher leads from a place to the ends of the matches from there.** -/
theorem follows_reach (text : Array Char) (r : Regex) : Follows (reach text r) (Spans text r) := by
  induction r with
  | empty =>
    intro ps j
    simp [reach, Spans]
  | char allowed =>
    intro ps j
    rw [reach, List.mem_filterMap]
    refine exists_congr fun i => and_congr_right fun _ => ?_
    rw [Spans]
    cases text[i]? with
    | none => simp
    | some c => by_cases hc : allowed.contains c = true <;> simp [hc]
  | start =>
    intro ps j
    simp [reach, Spans]
  | finish =>
    intro ps j
    simp [reach, Spans]
  | seq first second ihfirst ihsecond =>
    intro ps j
    rw [reach, ihsecond]
    simp only [ihfirst ps, Spans]
    constructor
    · rintro ⟨m, ⟨i, hi, him⟩, hmj⟩
      exact ⟨i, hi, m, him, hmj⟩
    · rintro ⟨i, hi, m, him, hmj⟩
      exact ⟨m, ⟨i, hi, him⟩, hmj⟩
  | alt first second ihfirst ihsecond =>
    intro ps j
    rw [reach, mem_union, ihfirst ps, ihsecond ps, ← exists_or]
    simp only [← and_or_left]
    rfl
  | repeated body least most ih =>
    intro ps j
    cases most with
    | some most =>
      have hmore := ih.upTo (most - least) (times (reach text body) least ps) j
      rw [reach, hmore]
      simp only [ih.times least ps, Spans, steps_add_iff, Option.some_inj]
      constructor
      · rintro ⟨m, ⟨i, hi, him⟩, n, hn, hmj⟩
        exact ⟨i, hi, n, fun _ heq => heq ▸ hn, m, him, hmj⟩
      · rintro ⟨i, hi, n, hn, m, him, hmj⟩
        exact ⟨m, ⟨i, hi, him⟩, n, hn most rfl, hmj⟩
    | none =>
      have hmore := ih.union.times text.size (times (reach text body) least ps) j
      simp only [steps_or_eq_iff] at hmore
      rw [reach, hmore]
      simp only [ih.times least ps, Spans, steps_add_iff]
      constructor
      · rintro ⟨m, ⟨i, hi, him⟩, n, -, hmj⟩
        exact ⟨i, hi, n, by simp, m, him, hmj⟩
      · rintro ⟨i, hi, n, -, m, him, hmj⟩
        obtain ⟨k, hk, hsteps⟩ := (forward_spans text body).exists_le hmj
        exact ⟨m, ⟨i, hi, him⟩, k, Nat.le_trans hk (Nat.sub_le _ _), hsteps⟩

/-- A text is matched if the expression matches between any two of its places. -/
theorem isMatch_iff (r : Regex) (text : String) :
    r.isMatch text = true ↔
      ∃ i ≤ text.toList.length, ∃ j, r.Spans text.toList.toArray i j := by
  have hreach := r.follows_reach text.toList.toArray
  unfold isMatch
  rw [Bool.not_eq_true', List.isEmpty_eq_false_iff_exists_mem]
  simp only [hreach _ _, List.mem_range, List.size_toArray, Nat.lt_succ_iff]
  constructor
  · rintro ⟨j, i, hi, hij⟩
    exact ⟨i, hi, j, hij⟩
  · rintro ⟨i, hi, j, hij⟩
    exact ⟨j, i, hi, hij⟩

/-! ### Pieces of a text -/

/-- The piece stands in the text between the two places. -/
def Stands (text : Array Char) (i : Nat) (piece : List Char) (j : Nat) : Prop :=
  text.toList.drop i = piece ++ text.toList.drop j ∧ i + piece.length = j

theorem Stands.unique {i j : Nat} {piece other : List Char} (h : Stands text i piece j)
    (h' : Stands text i other j) : piece = other := by
  have hlength : piece.length = other.length := by
    have hpiece := h.2
    have hother := h'.2
    omega
  exact (List.append_inj (h.1.symm.trans h'.1) hlength).1

theorem stands_of_drop_eq {i : Nat} {piece rest : List Char}
    (h : text.toList.drop i = piece ++ rest) : Stands text i piece (i + piece.length) := by
  refine ⟨?_, rfl⟩
  rw [← List.drop_drop, h, List.drop_left]

/-- Between any two places a piece of the text stands. -/
theorem exists_stands {i j : Nat} (hij : i ≤ j) (hj : j ≤ text.size) :
    ∃ piece, Stands text i piece j := by
  refine ⟨(text.toList.drop i).take (j - i), ?_, ?_⟩
  · have hdrop : text.toList.drop j = (text.toList.drop i).drop (j - i) := by
      rw [List.drop_drop, Nat.add_sub_cancel' hij]
    rw [hdrop, List.take_append_drop]
  · rw [List.length_take, List.length_drop, Array.length_toList]
    omega

theorem stands_append_iff {i k : Nat} {first second : List Char} :
    Stands text i (first ++ second) k ↔ ∃ j, Stands text i first j ∧ Stands text j second k := by
  constructor
  · rintro ⟨htext, hk⟩
    rw [List.length_append] at hk
    have hrest : text.toList.drop (i + first.length) = second ++ text.toList.drop k := by
      rw [← List.drop_drop, htext, List.append_assoc, List.drop_left]
    exact ⟨i + first.length, ⟨by rw [hrest, htext, List.append_assoc], rfl⟩, hrest, by omega⟩
  · rintro ⟨j, ⟨hfirst, hj⟩, hsecond, hk⟩
    refine ⟨by rw [hfirst, hsecond, List.append_assoc], ?_⟩
    rw [List.length_append]
    omega

theorem stands_singleton_iff {i j : Nat} {c : Char} :
    Stands text i [c] j ↔ text[i]? = some c ∧ i + 1 = j := by
  rw [Stands, ← Array.getElem?_toList, List.singleton_append, List.length_singleton]
  refine and_congr_left ?_
  rintro rfl
  constructor
  · intro h
    rw [← List.head?_drop, h, List.head?_cons]
  · intro h
    obtain ⟨hi, rfl⟩ := List.getElem?_eq_some_iff.mp h
    exact List.drop_eq_getElem_cons hi

theorem spans_seq_iff {first second : Regex} {i k : Nat} :
    Spans text (.seq first second) i k ↔ ∃ j, Spans text first i j ∧ Spans text second j k :=
  Iff.rfl

theorem spans_empty_iff {i j : Nat} : Spans text .empty i j ↔ i = j := Iff.rfl

/-- A class matches one character of it. -/
theorem spans_char_iff {allowed : CharClass} {i j : Nat} :
    Spans text (.char allowed) i j ↔ ∃ c, Stands text i [c] j ∧ allowed.contains c = true := by
  simp only [Spans, stands_singleton_iff]
  constructor
  · rintro ⟨c, hc, hallowed, hij⟩
    exact ⟨c, ⟨hc, hij⟩, hallowed⟩
  · rintro ⟨c, ⟨hc, hij⟩, hallowed⟩
    exact ⟨c, hc, hallowed, hij⟩

theorem steps_char_iff {allowed : CharClass} {n i k : Nat} :
    Steps (Spans text (.char allowed)) n i k ↔ ∃ piece, piece.length = n ∧
      Stands text i piece k ∧ ∀ c ∈ piece, allowed.contains c = true := by
  induction n generalizing i with
  | zero =>
    rw [steps_zero_iff]
    constructor
    · rintro rfl
      exact ⟨[], rfl, ⟨rfl, rfl⟩, by simp⟩
    · rintro ⟨piece, hlength, hstands, -⟩
      rw [← hstands.2, hlength, Nat.add_zero]
  | succ n ih =>
    simp only [steps_succ_iff, ih, spans_char_iff]
    constructor
    · rintro ⟨j, ⟨c, hc, hallowed⟩, piece, hlength, hpiece, hall⟩
      have hwhole : Stands text i ([c] ++ piece) k := stands_append_iff.mpr ⟨j, hc, hpiece⟩
      exact ⟨c :: piece, by rw [List.length_cons, hlength], hwhole,
        List.forall_mem_cons.mpr ⟨hallowed, hall⟩⟩
    · rintro ⟨piece, hlength, hpiece, hall⟩
      obtain ⟨c, piece, rfl⟩ := List.exists_cons_of_length_eq_add_one hlength
      obtain ⟨hallowed, hall⟩ := List.forall_mem_cons.mp hall
      have hwhole : Stands text i ([c] ++ piece) k := hpiece
      obtain ⟨j, hc, hrest⟩ := stands_append_iff.mp hwhole
      exact ⟨j, ⟨c, hc, hallowed⟩, piece, Nat.succ.inj hlength, hrest, hall⟩

/-- A range from a character to itself has only this character. -/
theorem contains_range_self {c d : Char} : ClassItem.contains (.range c c) d = (d == c) := by
  rw [ClassItem.contains, Bool.eq_iff_iff, Bool.and_eq_true, decide_eq_true_iff,
    decide_eq_true_iff, beq_iff_eq]
  exact ⟨fun h => Char.le_antisymm h.2 h.1, fun h => h ▸ ⟨Char.le_refl d, Char.le_refl d⟩⟩

/-- A class repeated at least once matches characters of it. -/
theorem spans_run_iff {allowed : CharClass} {i j : Nat} :
    Spans text (.repeated (.char allowed) 1 none) i j ↔
      ∃ piece, piece ≠ [] ∧ Stands text i piece j ∧ ∀ c ∈ piece, allowed.contains c = true := by
  rw [Spans]
  simp only [steps_char_iff]
  constructor
  · rintro ⟨n, -, piece, hlength, hpiece, hall⟩
    refine ⟨piece, ?_, hpiece, hall⟩
    rintro rfl
    rw [List.length_nil] at hlength
    omega
  · rintro ⟨piece, hne, hpiece, hall⟩
    have hpos : 0 < piece.length := List.length_pos_iff.mpr hne
    exact ⟨piece.length - 1, by simp, piece, by omega, hpiece, hall⟩

end Runbook.Regex
