import Runbook.Proofs.Regex.Fixed
import Runbook.Regex.Parser
import Runbook.Text.Uuid

/-!
# Identifiers in a text

An identifier has groups of 8, 4, 4, 4 and 12 hexadecimal digits (`IsIdentifier`), and stands at a
place of a text if the window of 36 characters there is one (`StandsAt`). Identifiers may overlap,
so which of them are found depends on where the search goes on: `Leftmost` takes the first one that
stands at or behind the end of the one before, until none is left. Scanning finds these
(`leftmost_windows`), and everything about their order and what lies between them follows from this
rule alone (`Leftmost.pairwise`, `Leftmost.exists_mem`). The windows of a text are the matches of
the usual regular expression for such identifiers (`spans_pattern_iff`).
-/

namespace Runbook.Text.Uuid

open Regex (CharClass Fits Stands)

/-! ### The form of an identifier -/

/-- So many hexadecimal digits, all in lower case. -/
def IsDigits (n : Nat) (group : List Char) : Prop :=
  group.length = n ∧ ∀ c ∈ group, '0' ≤ c ∧ c ≤ '9' ∨ 'a' ≤ c ∧ c ≤ 'f'

/-- Five groups of digits with hyphens between them. The third one begins with the version, which
is 4, and the fourth one with the variant. -/
inductive IsIdentifier : List Char → Prop where
  | groups {first second third fourth fifth : List Char} {variant : Char} :
      IsDigits 8 first → IsDigits 4 second → IsDigits 3 third →
      variant ∈ ['8', '9', 'a', 'b', 'A', 'B'] → IsDigits 3 fourth → IsDigits 12 fifth →
      IsIdentifier (first ++ '-' :: (second ++ '-' :: '4' :: (third ++ '-' :: variant ::
        (fourth ++ '-' :: fifth))))

/-- The characters of a text from a place on, as many as an identifier has. -/
def window (text : List Char) (i : Nat) : List Char := (text.drop i).take width

/-- An identifier stands at the place. -/
def StandsAt (text : List Char) (i : Nat) : Prop := IsIdentifier (window text i)

/-- The places at which identifiers are found from some place on: each one is the first at or behind
the end of the one before. -/
inductive Leftmost (text : List Char) : (start : Nat) → List Nat → Prop where
  /-- No identifier is left. -/
  | done {start : Nat} : (∀ i, start ≤ i → ¬ StandsAt text i) → Leftmost text start []
  /-- The next identifier, and those found behind it. -/
  | next {start i : Nat} {places : List Nat} : start ≤ i → StandsAt text i →
      (∀ j, start ≤ j → j < i → ¬ StandsAt text j) → Leftmost text (i + width) places →
      Leftmost text start (i :: places)

/-- The usual regular expression for identifiers. -/
def pattern : String :=
  "[a-f0-9]{8}-[a-f0-9]{4}-4[a-f0-9]{3}-[89aAbB][a-f0-9]{3}-[a-f0-9]{12}"

/-! ### Windows -/

variable {text : List Char}

theorem isHex_iff {c : Char} : isHex c = true ↔ '0' ≤ c ∧ c ≤ '9' ∨ 'a' ≤ c ∧ c ≤ 'f' := by
  simp [isHex]

/-- The piece passes the tests, in order. -/
def Passes (tests : List (Char → Bool)) (piece : List Char) : Prop :=
  List.Forall₂ (fun test c => test c = true) tests piece

theorem passes_hex_iff {n : Nat} {piece : List Char} :
    Passes (List.replicate n isHex) piece ↔ IsDigits n piece := by
  induction n generalizing piece with
  | zero =>
    rw [List.replicate_zero, Passes, List.forall₂_nil_left_iff, IsDigits, List.length_eq_zero_iff]
    exact ⟨fun h => ⟨h, by simp [h]⟩, fun h => h.1⟩
  | succ n ih =>
    rw [List.replicate_succ, Passes, List.forall₂_cons_left_iff]
    constructor
    · rintro ⟨c, rest, hc, hrest, rfl⟩
      obtain ⟨hlength, hall⟩ := ih.mp hrest
      exact ⟨by rw [List.length_cons, hlength],
        List.forall_mem_cons.mpr ⟨isHex_iff.mp hc, hall⟩⟩
    · rintro ⟨hlength, hall⟩
      obtain ⟨c, rest, rfl⟩ := List.exists_cons_of_length_eq_add_one hlength
      obtain ⟨hc, hall⟩ := List.forall_mem_cons.mp hall
      exact ⟨c, rest, isHex_iff.mpr hc, ih.mpr ⟨Nat.succ.inj hlength, hall⟩, rfl⟩

theorem passes_append_iff {tests more : List (Char → Bool)} {piece : List Char} :
    Passes (tests ++ more) piece ↔
      ∃ front rest, piece = front ++ rest ∧ Passes tests front ∧ Passes more rest :=
  Regex.forall₂_append_iff

theorem passes_cons_iff {test : Char → Bool} {tests : List (Char → Bool)} {piece : List Char} :
    Passes (test :: tests) piece ↔
      ∃ c rest, test c = true ∧ Passes tests rest ∧ piece = c :: rest :=
  List.forall₂_cons_left_iff

/-- What passes the tests of an identifier is one. -/
theorem passes_shape_iff {piece : List Char} : Passes shape piece ↔ IsIdentifier piece := by
  have hshape : shape = List.replicate 8 isHex ++ (· == '-') :: (List.replicate 4 isHex ++
      (· == '-') :: (· == '4') :: (List.replicate 3 isHex ++ (· == '-') :: isVariant ::
        (List.replicate 3 isHex ++ (· == '-') :: List.replicate 12 isHex))) := rfl
  rw [hshape]
  simp only [passes_append_iff, passes_cons_iff, passes_hex_iff, beq_iff_eq]
  constructor
  · rintro ⟨first, _, rfl, hfirst, _, _, rfl, ⟨second, _, rfl, hsecond, _, _, rfl,
      ⟨_, _, rfl, ⟨third, _, rfl, hthird, _, _, rfl, ⟨variant, _, hvariant, ⟨fourth, _, rfl,
        hfourth, _, fifth, rfl, hfifth, rfl⟩, rfl⟩, rfl⟩, rfl⟩, rfl⟩, rfl⟩
    exact .groups hfirst hsecond hthird (List.contains_iff_mem.mp hvariant) hfourth hfifth
  · rintro (⟨hfirst, hsecond, hthird, hvariant, hfourth, hfifth⟩)
    exact ⟨_, _, rfl, hfirst, _, _, rfl, ⟨_, _, rfl, hsecond, _, _, rfl, ⟨_, _, rfl,
      ⟨_, _, rfl, hthird, _, _, rfl, ⟨_, _, List.contains_iff_mem.mpr hvariant, ⟨_, _, rfl,
        hfourth, _, _, rfl, hfifth, rfl⟩, rfl⟩, rfl⟩, rfl⟩, rfl⟩, rfl⟩

theorem IsIdentifier.length_eq {piece : List Char} (h : IsIdentifier piece) :
    piece.length = width :=
  (List.Forall₂.length_eq (passes_shape_iff.mpr h)).symm

theorem startsWith_iff {tests : List (Char → Bool)} {cs : List Char} :
    startsWith tests cs = true ↔ Passes tests (cs.take tests.length) := by
  induction tests generalizing cs with
  | nil => simp [startsWith, Passes]
  | cons test tests ih =>
    cases cs with
    | nil => simp [startsWith, Passes]
    | cons c cs =>
      rw [startsWith, Bool.and_eq_true, ih, List.length_cons, List.take_succ_cons]
      simp only [Passes, List.forall₂_cons]

/-- The test for a window is right. -/
theorem isWindow_drop_iff {i : Nat} : isWindow (text.drop i) = true ↔ StandsAt text i := by
  rw [isWindow, startsWith_iff, passes_shape_iff]
  rfl

theorem StandsAt.lt_length {i : Nat} (h : StandsAt text i) : i < text.length := by
  have hlength := h.length_eq
  rw [window, List.length_take, List.length_drop, width] at hlength
  omega

/-! ### The regular expression -/

/-- The class of the digits. -/
def hexClass : CharClass := ⟨[.range 'a' 'f', .range '0' '9'], false, false⟩

/-- The class of a single character. -/
def lone (c : Char) : CharClass := ⟨[.range c c], false, false⟩

/-- The class of the variants. -/
def variantClass : CharClass :=
  ⟨['8', '9', 'a', 'A', 'b', 'B'].map fun c => .range c c, false, false⟩

/-- The classes of the characters of an identifier. -/
def classes : List CharClass :=
  List.replicate 8 hexClass ++ [lone '-'] ++ List.replicate 4 hexClass ++ [lone '-'] ++
  [lone '4'] ++ List.replicate 3 hexClass ++ [lone '-'] ++
  [variantClass] ++ List.replicate 3 hexClass ++ [lone '-'] ++ List.replicate 12 hexClass

theorem contains_hexClass : hexClass.contains = isHex := by
  funext c
  simp [CharClass.contains, hexClass, Regex.ClassItem.contains, isHex, Bool.or_comm]

theorem contains_lone (c : Char) : (lone c).contains = (· == c) := by
  funext d
  simp [CharClass.contains, lone, Regex.contains_range_self]

theorem contains_variantClass : variantClass.contains = isVariant := by
  funext c
  rw [Bool.eq_iff_iff]
  simp [CharClass.contains, variantClass, Regex.contains_range_self, isVariant]
  tauto

theorem shape_eq : shape = classes.map CharClass.contains := by
  simp only [shape, classes, List.map_append, List.map_replicate, List.map_singleton,
    contains_hexClass, contains_lone, contains_variantClass]

theorem fits_classes_iff {piece : List Char} : Fits classes piece ↔ IsIdentifier piece := by
  rw [← passes_shape_iff, shape_eq, Passes, List.forall₂_map_left_iff]
  rfl

/-- The expression asks for these classes, one after the other. -/
theorem parse?_pattern : ∃ r, Regex.parse? pattern = some r ∧ r.classes? = some classes :=
  ⟨_, rfl, rfl⟩

/-- The matches of the expression are the windows of the identifiers. -/
theorem spans_pattern_iff {r : Regex} (h : r.classes? = some classes) {i j : Nat} :
    r.Spans text.toArray i j ↔ StandsAt text i ∧ j = i + width := by
  rw [Regex.spans_classes_iff h]
  simp only [fits_classes_iff]
  constructor
  · rintro ⟨piece, ⟨htext, hj⟩, hpiece⟩
    have hlength := hpiece.length_eq
    have hwindow : window text i = piece := by
      rw [window, ← hlength, htext, List.take_left]
    exact ⟨by rw [StandsAt, hwindow]; exact hpiece, by rw [← hj, hlength]⟩
  · rintro ⟨hstands, rfl⟩
    refine ⟨window text i, ⟨?_, by rw [hstands.length_eq]⟩, hstands⟩
    rw [window, ← List.drop_drop]
    exact (List.take_append_drop width _).symm

/-- The expression matches the texts with an identifier at some place. -/
theorem isMatch_iff_standsAt {r : Regex} (h : r.classes? = some classes) {text : String} :
    r.isMatch text = true ↔ ∃ i, StandsAt text.toList i := by
  rw [Regex.isMatch_iff]
  simp only [spans_pattern_iff h]
  constructor
  · rintro ⟨i, -, _, hi, -⟩
    exact ⟨i, hi⟩
  · rintro ⟨i, hi⟩
    exact ⟨i, Nat.le_of_lt hi.lt_length, _, hi, rfl⟩

/-! ### What is found -/

variable {start : Nat} {places others : List Nat}

/-- The rule determines the places. -/
theorem Leftmost.unique (h : Leftmost text start places) (h' : Leftmost text start others) :
    places = others := by
  induction h generalizing others with
  | done hnone =>
    cases h' with
    | done => rfl
    | next hle hstands => exact absurd hstands (hnone _ hle)
  | @next start i places hle hstands hfirst _ ih =>
    cases h' with
    | done hnone => exact absurd hstands (hnone i hle)
    | @next _ j others hle' hstands' hfirst' hrest' =>
      -- neither of the two stands before the other
      obtain rfl : i = j := by
        rcases Nat.lt_trichotomy i j with hlt | heq | hgt
        · exact absurd hstands (hfirst' i hle hlt)
        · exact heq
        · exact absurd hstands' (hfirst j hle' hgt)
      rw [ih hrest']

theorem Leftmost.forall_mem (h : Leftmost text start places) :
    ∀ i ∈ places, start ≤ i ∧ StandsAt text i := by
  induction h with
  | done => simp
  | next hle hstands _ _ ih =>
    refine List.forall_mem_cons.mpr ⟨⟨hle, hstands⟩, fun j hj => ⟨?_, (ih j hj).2⟩⟩
    have hbehind := (ih j hj).1
    omega

/-- Each of the places lies behind the windows of those before. -/
theorem Leftmost.pairwise (h : Leftmost text start places) :
    places.Pairwise fun i j => i + width ≤ j := by
  induction h with
  | done => exact .nil
  | next _ _ _ hrest ih => exact .cons (fun j hj => (hrest.forall_mem j hj).1) ih

/-- Every identifier begins in the window of one of the places. -/
theorem Leftmost.exists_mem (h : Leftmost text start places) {j : Nat} (hj : start ≤ j)
    (hstands : StandsAt text j) : ∃ i ∈ places, i ≤ j ∧ j < i + width := by
  induction h with
  | done hnone => exact absurd hstands (hnone j hj)
  | @next start i places _ _ hfirst _ ih =>
    rcases Nat.lt_or_ge j i with hlt | hge
    · exact absurd hstands (hfirst j hj hlt)
    · rcases Nat.lt_or_ge j (i + width) with hinside | hbehind
      · exact ⟨i, List.mem_cons_self, hge, hinside⟩
      · obtain ⟨k, hk, hjk⟩ := ih hbehind
        exact ⟨k, List.mem_cons_of_mem i hk, hjk⟩

/-- Something is found if there is an identifier at all. -/
theorem Leftmost.ne_nil_iff (h : Leftmost text start places) :
    places ≠ [] ↔ ∃ i, start ≤ i ∧ StandsAt text i := by
  cases h with
  | done hnone => simpa using hnone
  | next hle hstands => exact ⟨fun _ => ⟨_, hle, hstands⟩, fun _ => List.cons_ne_nil _ _⟩

/-- Where no identifier stands, the search may as well begin one place further on. -/
theorem Leftmost.of_succ (h : Leftmost text (start + 1) places) (hnone : ¬ StandsAt text start) :
    Leftmost text start places := by
  have hskip {i : Nat} (hi : start ≤ i) (hstands : StandsAt text i) : start + 1 ≤ i := by
    rcases Nat.eq_or_lt_of_le hi with rfl | hlt
    · exact absurd hstands hnone
    · exact hlt
  cases h with
  | done hrest => exact .done fun i hi hstands => hrest i (hskip hi hstands) hstands
  | next hle hstands hfirst hrest =>
    exact .next (Nat.le_of_succ_le hle) hstands
      (fun j hj hlt hj' => hfirst j (hskip hj hj') hlt hj') hrest

/-- Scanning what is left from a place on finds the identifiers by the rule. -/
theorem leftmost_windows (text : List Char) (start : Nat) :
    ∃ places, Leftmost text start places ∧
      windows (text.drop start) = places.map (window text) := by
  generalize hcs : text.drop start = cs
  induction cs using windows.induct generalizing start with
  | case1 =>
    refine ⟨[], .done fun i hi hstands => ?_, by rw [windows, List.map_nil]⟩
    have hend := List.drop_eq_nil_iff.mp hcs
    have hlt := hstands.lt_length
    omega
  | case2 c cs hwindow ih =>
    have hbehind : text.drop (start + width) = cs.drop (width - 1) := by
      rw [← List.drop_drop, hcs]
      rfl
    have hstands : StandsAt text start := isWindow_drop_iff.mp (hcs ▸ hwindow)
    obtain ⟨places, hplaces, heq⟩ := ih _ hbehind
    refine ⟨start :: places, .next (Nat.le_refl start) hstands ?_ hplaces, ?_⟩
    · intro j hj hlt
      omega
    · rw [windows, if_pos hwindow, heq, List.map_cons, window, hcs]
  | case3 c cs hwindow ih =>
    have hnext : text.drop (start + 1) = cs := by
      rw [← List.drop_drop, hcs, List.drop_one, List.tail_cons]
    have hnone : ¬ StandsAt text start := by
      rw [← isWindow_drop_iff, hcs]
      exact hwindow
    obtain ⟨places, hplaces, heq⟩ := ih _ hnext
    exact ⟨places, hplaces.of_succ hnone, by rw [windows, if_neg hwindow, heq]⟩

theorem occurs_iff (text : List Char) : occurs text = true ↔ ∃ i, StandsAt text i := by
  have hempty (i : Nat) : ¬ StandsAt [] i := fun h => Nat.not_lt_zero i h.lt_length
  induction text with
  | nil => simp [occurs, hempty]
  | cons c cs ih =>
    have hfirst : isWindow (c :: cs) = true ↔ StandsAt (c :: cs) 0 :=
      @isWindow_drop_iff (c :: cs) 0
    rw [occurs, Bool.or_eq_true, or_congr hfirst ih]
    constructor
    · rintro (h | ⟨i, h⟩)
      · exact ⟨0, h⟩
      · exact ⟨i + 1, h⟩
    · rintro ⟨_ | i, h⟩
      · exact .inl h
      · exact .inr ⟨i, h⟩

/-- **Scanning finds the identifiers that stand leftmost, each behind the one before.** The places
are the only ones that follow this rule. No two of the windows share a character, and every
identifier of the text begins in one of them, so none lies before, between or behind them. Something
is found exactly if the regular expression, whose matches are the windows of the identifiers,
matches the text. -/
theorem scan_leftmost (text : String) :
    (∃ places, Leftmost text.toList 0 places ∧
      (∀ others, Leftmost text.toList 0 others → others = places) ∧
      scan text = places.map (fun i => String.ofList (window text.toList i)) ∧
      (∀ i ∈ places, StandsAt text.toList i) ∧
      places.Pairwise (fun i j => i + width ≤ j) ∧
      ∀ j, StandsAt text.toList j → ∃ i ∈ places, i ≤ j ∧ j < i + width) ∧
    (scan text ≠ [] ↔ occursIn text = true) ∧
    ∃ r, Regex.parse? pattern = some r ∧
      (∀ i j, r.Spans text.toList.toArray i j ↔ StandsAt text.toList i ∧ j = i + width) ∧
      (scan text ≠ [] ↔ r.isMatch text = true) := by
  obtain ⟨places, hplaces, heq⟩ := leftmost_windows text.toList 0
  obtain ⟨r, hr, hclasses⟩ := parse?_pattern
  have hscan : scan text = places.map fun i => String.ofList (window text.toList i) := by
    rw [scan, ← List.drop_zero (l := text.toList), heq, List.map_map]
    rfl
  have hfound : scan text ≠ [] ↔ ∃ i, StandsAt text.toList i := by
    rw [hscan, Ne, List.map_eq_nil_iff]
    simpa using hplaces.ne_nil_iff
  exact ⟨⟨places, hplaces, fun _ hothers => hothers.unique hplaces, hscan,
    fun i hi => (hplaces.forall_mem i hi).2, hplaces.pairwise,
    fun j hj => hplaces.exists_mem (Nat.zero_le j) hj⟩,
    by rw [hfound, occursIn, occurs_iff], r, hr, fun i j => spans_pattern_iff hclasses,
    by rw [hfound, isMatch_iff_standsAt hclasses]⟩

end Runbook.Text.Uuid
