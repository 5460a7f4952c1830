import Runbook.Proofs.Regex.Spans
import Mathlib.Data.List.Forall2

/-!
# Expressions without choice

An expression that has no alternatives, and repeats nothing but a fixed number of times, asks for
one class of characters after the other (`Regex.classes?`). It matches the pieces of a text that
have a character of each class in its place (`Regex.spans_classes_iff`), so all of its matches are
of one length.
-/

namespace Runbook.Regex

/-- The classes of the characters of a match, if the expression leaves no choice about them. -/
def classes? : Regex → Option (List CharClass)
  | .empty => some []
  | .char allowed => some [allowed]
  | .seq first second => (classes? first).bind fun ks => (classes? second).map (ks ++ ·)
  | .repeated body least most =>
    if most = some least then (classes? body).map fun ks => (List.replicate least ks).flatten
    else none
  | .start | .finish | .alt _ _ => none

/-- The piece has a character of each class, in order. -/
def Fits (ks : List CharClass) (piece : List Char) : Prop :=
  List.Forall₂ (fun k c => k.contains c = true) ks piece

/-- What two lists side by side are related to falls into a part for each of them. -/
theorem forall₂_append_iff {α β : Type} {R : α → β → Prop} {xs ys : List α} {zs : List β} :
    List.Forall₂ R (xs ++ ys) zs ↔
      ∃ us vs, zs = us ++ vs ∧ List.Forall₂ R xs us ∧ List.Forall₂ R ys vs := by
  constructor
  · intro h
    exact ⟨_, _, (List.take_append_drop xs.length zs).symm,
      by simpa using List.forall₂_take xs.length h, by simpa using List.forall₂_drop xs.length h⟩
  · rintro ⟨us, vs, rfl, hus, hvs⟩
    exact List.rel_append hus hvs

variable {text : Array Char} {r : Regex} {ks ls : List CharClass}

/-- What matches one expression and then another one has its pieces side by side. -/
theorem exists_fits_append {i k : Nat} :
    (∃ j, (∃ piece, Stands text i piece j ∧ Fits ks piece) ∧
      ∃ piece, Stands text j piece k ∧ Fits ls piece) ↔
    ∃ piece, Stands text i piece k ∧ Fits (ks ++ ls) piece := by
  constructor
  · rintro ⟨j, ⟨first, hfirst, hks⟩, second, hsecond, hls⟩
    exact ⟨first ++ second, stands_append_iff.mpr ⟨j, hfirst, hsecond⟩, List.rel_append hks hls⟩
  · rintro ⟨piece, hpiece, hfits⟩
    obtain ⟨first, second, rfl, hks, hls⟩ := forall₂_append_iff.mp hfits
    obtain ⟨j, hfirst, hsecond⟩ := stands_append_iff.mp hpiece
    exact ⟨j, ⟨first, hfirst, hks⟩, second, hsecond, hls⟩

/-- Nothing stands between a place and itself. -/
theorem exists_fits_nil {i j : Nat} :
    (∃ piece, Stands text i piece j ∧ Fits [] piece) ↔ i = j := by
  constructor
  · rintro ⟨piece, hpiece, hfits⟩
    obtain rfl := List.forall₂_nil_left_iff.mp hfits
    exact hpiece.2
  · rintro rfl
    exact ⟨[], ⟨rfl, rfl⟩, .nil⟩

/-- Rounds that each match a piece match the pieces side by side. -/
theorem steps_classes_iff
    (h : ∀ i j, Spans text r i j ↔ ∃ piece, Stands text i piece j ∧ Fits ks piece) {n i j : Nat} :
    Steps (Spans text r) n i j ↔
      ∃ piece, Stands text i piece j ∧ Fits (List.replicate n ks).flatten piece := by
  induction n generalizing i with
  | zero => rw [steps_zero_iff, List.replicate_zero, List.flatten_nil, exists_fits_nil]
  | succ n ih =>
    rw [List.replicate_succ, List.flatten_cons, ← exists_fits_append, steps_succ_iff]
    simp only [h, ih]

/-- **An expression without choice matches the pieces with a character of each of its classes.** -/
theorem spans_classes_iff (h : r.classes? = some ks) {i j : Nat} :
    Spans text r i j ↔ ∃ piece, Stands text i piece j ∧ Fits ks piece := by
  induction r generalizing ks i j with
  | empty =>
    cases h
    rw [spans_empty_iff, exists_fits_nil]
  | char allowed =>
    cases h
    rw [spans_char_iff]
    constructor
    · rintro ⟨c, hc, hallowed⟩
      exact ⟨[c], hc, .cons hallowed .nil⟩
    · rintro ⟨piece, hpiece, hfits⟩
      obtain ⟨c, rest, hallowed, hrest, rfl⟩ := List.forall₂_cons_left_iff.mp hfits
      obtain rfl := List.forall₂_nil_left_iff.mp hrest
      exact ⟨c, hpiece, hallowed⟩
  | start | finish | alt => cases h
  | seq first second ihfirst ihsecond =>
    obtain ⟨ks, hks, hrest⟩ := Option.bind_eq_some_iff.mp h
    obtain ⟨ls, hls, rfl⟩ := Option.map_eq_some_iff.mp hrest
    rw [spans_seq_iff, ← exists_fits_append]
    simp only [ihfirst hks, ihsecond hls]
  | repeated body least most ih =>
    rw [classes?] at h
    split at h
    · next hmost =>
      obtain ⟨ks, hks, rfl⟩ := Option.map_eq_some_iff.mp h
      subst hmost
      rw [← steps_classes_iff fun _ _ => ih hks, Spans]
      -- there is no room for more rounds than the least number
      constructor
      · rintro ⟨n, hn, hsteps⟩
        obtain rfl : n = 0 := by
          have hle := hn least rfl
          omega
        exact hsteps
      · exact fun hsteps => ⟨0, fun _ _ => Nat.zero_le _, hsteps⟩
    · cases h

end Runbook.Regex
