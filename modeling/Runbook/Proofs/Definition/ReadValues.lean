import Runbook.Proofs.Definition.Rereading
import Runbook.Proofs.Json.Data

/-!
# Values that were read

The list of a single string is read as a reference, so it stands in no value that was read
(`holdsLoneString_of_ofJson?`). Such a value comes back as it was when it is written and read again.
-/

namespace Runbook.Value

theorem ofJsonItems?_eq_some_iff {js : List Json} {vs : List Value} :
    ofJsonItems? js = some vs ↔ List.Forall₂ (fun j v => ofJson? j = some v) js vs := by
  induction js generalizing vs with
  | nil => cases vs <;> simp [ofJsonItems?]
  | cons j js ih =>
    rw [ofJsonItems?]
    constructor
    · intro h
      split at h
      · next hj hjs =>
        cases h
        exact .cons hj (ih.mp hjs)
      · cases h
    · rintro (_ | ⟨hj, hjs⟩)
      rw [hj, ih.mpr hjs]

/-- What an array is read as. -/
theorem ofJson?_arr {js : List Json} {v : Value} (h : ofJson? (.arr js) = some v) :
    (∃ name, v = .ref name) ∨
      (∀ s, js ≠ [.str s]) ∧ ∃ vs, ofJsonItems? js = some vs ∧ v = .list vs := by
  by_cases hlone : ∃ s, js = [.str s]
  · obtain ⟨s, rfl⟩ := hlone
    cases h
    exact .inl ⟨s, rfl⟩
  · have hne : ∀ s, js ≠ [.str s] := fun s hs => hlone ⟨s, hs⟩
    rw [ofJson?] at h
    · obtain ⟨vs, hvs, rfl⟩ := Option.map_eq_some_iff.mp h
      exact .inr ⟨hne, vs, hvs, rfl⟩
    · exact hne

/-- What an object is read as. -/
theorem ofJson?_obj {ms : List (String × Json)} {v : Value}
    (h : ofJson? (.obj ms) = some v) : ∃ name, v = .ref name := by
  rw [ofJson?] at h
  split at h
  · cases h
    exact ⟨_, rfl⟩
  · cases h

/-- Only a string is read as a string. -/
theorem eq_str_of_ofJson? {j : Json} {s : String} (h : ofJson? j = some (.str s)) :
    j = .str s := by
  cases j with
  | str t => cases h; rfl
  | null | bool | float => cases h
  | int n =>
    obtain ⟨w, -, hw⟩ := Option.map_eq_some_iff.mp h
    cases hw
  | arr js =>
    obtain ⟨name, hname⟩ | ⟨-, vs, -, hvs⟩ := ofJson?_arr h
    · cases hname
    · cases hvs
  | obj ms =>
    obtain ⟨name, hname⟩ := ofJson?_obj h
    cases hname

/-- No value that is read holds the list of a single string: that is read as a reference. -/
theorem holdsLoneString_of_ofJson? {j : Json} {v : Value} (h : ofJson? j = some v) :
    v.holdsLoneString = false := by
  induction j using Json.partInduction generalizing v with
  | null | bool | str => cases h; rfl
  | int n =>
    obtain ⟨w, -, rfl⟩ := Option.map_eq_some_iff.mp h
    rfl
  | float x => cases h
  | arr js ih =>
    obtain ⟨name, rfl⟩ | ⟨hne, vs, hvs, rfl⟩ := ofJson?_arr h
    · rfl
    · rw [ofJsonItems?_eq_some_iff] at hvs
      rw [holdsLoneString_list, List.any_eq_false]
      · intro v hv
        obtain ⟨j, hj, hjv⟩ := exists_left_of_mem hvs hv
        simp [ih j hj hjv]
      · rintro ⟨s, rfl⟩
        obtain _ | ⟨hj, hnil⟩ := hvs
        cases hnil
        exact hne s (by rw [eq_str_of_ofJson? hj])
  | obj ms =>
    obtain ⟨name, rfl⟩ := ofJson?_obj h
    rfl

end Runbook.Value
