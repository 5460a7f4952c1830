import Runbook.Definition.Fields
import Runbook.Proofs.Outcome
import Mathlib.Logic.Basic

/-!
# What fields hold

A definition is read field by field, and the first field that cannot be used ends the reading. Of a
reading that succeeds, a field that was read as a text holds it (`Fields.text?_eq_of_ok`): what is
not given has no text either. A field that can be left out or has a text is never the fault of a
reading that fails (`textFaults`); only names and lists are.
-/

namespace Runbook

namespace Value

variable {v : Value}

theorem isTruthy_iff : v.isTruthy = true ↔ v ≠ .nil ∧ v ≠ .bool false := by
  cases v with
  | bool flag => cases flag <;> simp [isTruthy]
  | nil | int | str | ref | list => simp [isTruthy]

theorem text?_of_not_isTruthy (h : ¬ v.isTruthy = true) : v.text? = none := by
  rw [isTruthy_iff, not_and_or, not_not, not_not] at h
  obtain rfl | rfl := h <;> rfl

end Value

namespace Fields

/-- A text that was read is that of the value at the place, if there is one. -/
theorem text?_eq_of_ok {f : Fields} {i : Nat} {field : String} {t : Option String}
    (h : f.text? i field = .ok t) : t = f.values[i]?.bind Value.text? := by
  have hvalue : t = (f.value i).text? := by
    unfold text? at h
    by_cases htruthy : (f.value i).isTruthy = true
    · cases htext : (f.value i).text? with
      | none => simp [htruthy, htext] at h
      | some s => simpa [htruthy, htext] using h.symm
    · simpa [htruthy, Value.text?_of_not_isTruthy htruthy] using h.symm
  rw [hvalue, value]
  cases f.values[i]? <;> rfl

/-- A listing that was read has the texts of its values. -/
theorem texts_eq_of_ok {f : Fields} {i : Nat} {field : String} {ts : List (Option String)}
    (h : f.texts i field = .ok ts) : ts = (f.nested i).map Value.text? := by
  rw [texts, mapM_eq_ok_iff, List.forall₂_iff_get] at h
  obtain ⟨hlength, hread⟩ := h
  have hsame : ts.length = (f.nested i).length := by simpa using hlength.symm
  refine List.ext_getElem (by simp [hsame]) fun j hj _ => ?_
  have hnested : j < (f.nested i).length := by omega
  have hj' : j < (List.range (f.nested i).length).length := by simpa using hnested
  simpa [hnested] using text?_eq_of_ok (hread j hj' hj)

/-- A text that may be left out is read back from the value that stands for it. -/
theorem text?_ofText? {f : Fields} {i : Nat} {t : Option String} (h : f.value i = .ofText? t)
    (field : String) : f.text? i field = .ok t := by
  simp only [text?, h]
  cases t <;> rfl

/-- A nested listing of strings has these texts. -/
theorem texts_of_nested {f : Fields} {i : Nat} {names : List String}
    (h : f.nested i = names.map .str) (field : String) :
    f.texts i field = .ok (names.map some) := by
  simp only [texts, h, mapM_eq_ok_iff, List.length_map]
  rw [List.forall₂_iff_get]
  refine ⟨by simp, fun j hj hj' => ?_⟩
  have hlt : j < names.length := by simpa using hj'
  have hvalue : value ⟨f.scope, f.what, names.map .str⟩ j = .str names[j] := by
    simp [value, hlt]
  simp only [List.get_eq_getElem, List.getElem_range, List.getElem_map, text?, hvalue]
  rfl

/-! ### Fields that cannot be read -/

/-- The field is not there, or nil or false stands in its place. -/
def isUnset : Option Value → Bool
  | none | some .nil | some (.bool false) => true
  | _ => false

/-- The field is a string, an integer or true. -/
def isTextual : Option Value → Bool
  | some (.str _) | some (.int _) | some (.bool true) => true
  | _ => false

/-- What is wrong with a field of which a text may be asked. -/
def textFaults (what field : String) (o : Option Value) : List DefinitionError :=
  if isUnset o || isTextual o then [] else [.invalidField what field (o.getD .nil).display]

theorem textFaults_eq_nil_iff {what field : String} {o : Option Value} :
    textFaults what field o = [] ↔ isUnset o = true ∨ isTextual o = true := by
  unfold textFaults
  split <;> simp_all

theorem isSome_text?_iff (o : Option Value) :
    (o.bind Value.text?).isSome = true ↔ isTextual o = true := by
  rcases o with _ | _ | (_ | _) | _ | _ | _ | _ <;> exact Iff.rfl

theorem stopsAt_text? (f : Fields) (i : Nat) (field : String) :
    StopsAt (f.text? i field) (textFaults f.what field f.values[i]?) := by
  unfold text? value
  rcases f.values[i]? with _ | _ | (_ | _) | _ | _ | _ | _
  · exact .ok none
  · exact .ok none
  · exact .ok none
  · exact .ok (some "true")
  · exact .ok (some _)
  · exact .ok (some _)
  · exact rfl
  · exact rfl

/-- A listing is read value by value. -/
theorem stopsAt_texts (f : Fields) (i : Nat) (field : String) :
    StopsAt (f.texts i field)
      ((f.nested i).flatMap fun v => textFaults f.what field (some v)) := by
  have hvalues : (f.nested i).map some =
      (List.range (f.nested i).length).map fun j => (f.nested i)[j]? := by
    refine List.ext_getElem (by simp) fun j hj _ => ?_
    have hlt : j < (f.nested i).length := by simpa using hj
    simp [hlt]
  have hfaults : ((f.nested i).flatMap fun v => textFaults f.what field (some v)) =
      (List.range (f.nested i).length).flatMap fun j =>
        textFaults f.what field (f.nested i)[j]? := by
    have hmap := congrArg (List.flatMap (textFaults f.what field)) hvalues
    rwa [List.flatMap_map, List.flatMap_map] at hmap
  rw [hfaults, texts]
  exact .mapM fun j _ => stopsAt_text? ⟨f.scope, f.what, f.nested i⟩ j field

/-- Only what a definition resolves to is read. -/
theorem ofValue_eq {scope : Scope} {what : String} {d d' : Value}
    (h : scope.resolve d = scope.resolve d') : ofValue scope what d = ofValue scope what d' := by
  rw [ofValue, ofValue, h]

end Fields

end Runbook
