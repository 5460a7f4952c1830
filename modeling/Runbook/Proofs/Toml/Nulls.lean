import Runbook.Proofs.Json.Data
import Runbook.Toml.Printer

/-!
# What can be written as a document

Null has no place in a document, and is all that has none: a table is written exactly if nothing in
it is null (`isSome_print?_iff`).
-/

namespace Runbook

namespace Json

mutual

/-- Somewhere in the value is a null. -/
def holdsNull : Json → Bool
  | .null => true
  | .arr items => anyHoldsNull items
  | .obj members => anyMemberHoldsNull members
  | _ => false
termination_by structural j => j

/-- `Json.holdsNull` for some item of an array. -/
def anyHoldsNull : List Json → Bool
  | [] => false
  | j :: rest => j.holdsNull || anyHoldsNull rest
termination_by structural js => js

/-- `Json.holdsNull` for the value of some member. -/
def anyMemberHoldsNull : List (String × Json) → Bool
  | [] => false
  | (_, j) :: rest => j.holdsNull || anyMemberHoldsNull rest
termination_by structural ms => ms

end

theorem holdsNull_arr_eq_false_iff {js : List Json} :
    (Json.arr js).holdsNull = false ↔ ∀ j ∈ js, j.holdsNull = false := by
  rw [holdsNull]
  induction js with
  | nil => simp [anyHoldsNull]
  | cons j js ih => rw [anyHoldsNull, Bool.or_eq_false_iff, ih, List.forall_mem_cons]

theorem holdsNull_obj_eq_false_iff {ms : List (String × Json)} :
    (Json.obj ms).holdsNull = false ↔ ∀ m ∈ ms, m.2.holdsNull = false := by
  rw [holdsNull]
  induction ms with
  | nil => simp [anyMemberHoldsNull]
  | cons m ms ih => rw [anyMemberHoldsNull, Bool.or_eq_false_iff, ih, List.forall_mem_cons]

end Json

namespace Toml

theorem isSome_itemTexts?_iff {js : List Json} :
    (itemTexts? js).isSome = true ↔ ∀ j ∈ js, (valueText? j).isSome = true := by
  induction js with
  | nil => simp [itemTexts?]
  | cons j js ih =>
    rw [itemTexts?, List.forall_mem_cons, ← ih]
    cases valueText? j <;> cases itemTexts? js <;> simp

theorem isSome_memberTexts?_iff {ms : List (String × Json)} :
    (memberTexts? ms).isSome = true ↔ ∀ m ∈ ms, (valueText? m.2).isSome = true := by
  induction ms with
  | nil => simp [memberTexts?]
  | cons m ms ih =>
    rw [memberTexts?, List.forall_mem_cons, ← ih]
    cases valueText? m.2 <;> cases memberTexts? ms <;> simp

/-- A value that stands behind a key. -/
theorem isSome_valueText?_iff (j : Json) :
    (valueText? j).isSome = true ↔ j.holdsNull = false := by
  induction j using Json.partInduction with
  | null => simp [valueText?, Json.holdsNull]
  | bool | int | float | str => simp [valueText?, Json.holdsNull]
  | arr js ih =>
    rw [valueText?, Option.isSome_map, isSome_itemTexts?_iff, Json.holdsNull_arr_eq_false_iff]
    exact forall₂_congr ih
  | obj ms ih =>
    rw [valueText?, Option.isSome_map, isSome_memberTexts?_iff, Json.holdsNull_obj_eq_false_iff]
    exact forall₂_congr ih

theorem isSome_mapM_iff {α β : Type} {f : α → Option β} {xs : List α} :
    (xs.mapM f).isSome = true ↔ ∀ x ∈ xs, (f x).isSome = true := by
  induction xs with
  | nil => simp
  | cons x xs ih =>
    rw [List.mapM_cons, List.forall_mem_cons, ← ih]
    cases f x <;> cases xs.mapM f <;> simp

/-- The lines of the plain members of a table. -/
theorem isSome_bodyText?_iff {ms : List (String × Json)} :
    (bodyText? ms).isSome = true ↔ ∀ m ∈ ms, isPlain m.2 = true → m.2.holdsNull = false := by
  have hmap : bodyText? ms = ((ms.filter (isPlain ·.2)).mapM fun m =>
      (valueText? m.2).map fun t => keyText m.1 ++ " = " ++ t ++ "\n").map String.join := by
    rw [bodyText?, Option.map_eq_bind]
    rfl
  rw [hmap, Option.isSome_map, isSome_mapM_iff]
  simp only [Option.isSome_map, isSome_valueText?_iff, List.mem_filter, and_imp]

theorem isSome_section? (path : List String) (isRow : Bool) (ms : List (String × Json)) :
    (section? path isRow ms).isSome = (bodyText? ms).isSome := by
  rw [section?]
  cases bodyText? ms <;> rfl

theorem isSome_tables?_obj (path : List String) (ms : List (String × Json)) :
    (tables? path (.obj ms)).isSome =
      ((bodyText? ms).isSome && (membersTables? path ms).isSome) := by
  rw [tables?, ← isSome_section? path false]
  cases section? path false ms <;> cases membersTables? path ms <;> rfl

theorem isSome_membersTables?_iff {path : List String} {ms : List (String × Json)} :
    (membersTables? path ms).isSome = true ↔
      ∀ m ∈ ms, isPlain m.2 = false → (tables? (path ++ [m.1]) m.2).isSome = true := by
  induction ms with
  | nil => simp [membersTables?]
  | cons m ms ih =>
    rw [membersTables?, List.forall_mem_cons, ← ih]
    cases isPlain m.2 <;> cases tables? (path ++ [m.1]) m.2 <;>
      cases membersTables? path ms <;> simp

theorem isSome_rowsTables?_iff {path : List String} {js : List Json}
    (h : ∀ j ∈ js, isTable j = true) :
    (rowsTables? path js).isSome = true ↔ ∀ j ∈ js, (tables? path j).isSome = true := by
  induction js with
  | nil => simp [rowsTables?]
  | cons j js ih =>
    obtain ⟨hj, hjs⟩ := List.forall_mem_cons.mp h
    cases j with
    | obj ms =>
      rw [rowsTables?, List.forall_mem_cons, ← ih hjs, isSome_tables?_obj,
        ← isSome_section? path true]
      cases section? path true ms <;> cases membersTables? path ms <;>
        cases rowsTables? path js <;> simp
    | null | bool | int | float | str | arr => cases hj

/-- A value that stands under a header. -/
theorem isSome_tables?_iff (j : Json) (hplain : isPlain j = false) (path : List String) :
    (tables? path j).isSome = true ↔ j.holdsNull = false := by
  induction j using Json.partInduction generalizing path with
  | null | bool | int | float | str => cases hplain
  | arr js ih =>
    rw [isPlain, Bool.or_eq_false_iff, Bool.not_eq_false', List.all_eq_true] at hplain
    rw [tables?, isSome_rowsTables?_iff hplain.2, Json.holdsNull_arr_eq_false_iff]
    refine forall₂_congr fun j hj => ih j hj ?_ path
    have htable := hplain.2 j hj
    cases j with
    | obj => rfl
    | null | bool | int | float | str | arr => cases htable
  | obj ms ih =>
    rw [isSome_tables?_obj, Bool.and_eq_true, isSome_bodyText?_iff, isSome_membersTables?_iff,
      Json.holdsNull_obj_eq_false_iff, ← forall₂_and]
    refine forall₂_congr fun m hm => ?_
    cases hm' : isPlain m.2 with
    | true => simp
    | false => simp [ih m hm hm']

/-- **A table is written exactly if nothing in it is null.** -/
theorem isSome_print?_iff (ms : List (String × Json)) :
    (print? (.obj ms)).isSome = true ↔ (Json.obj ms).holdsNull = false := by
  rw [print?, Option.isSome_map, isSome_tables?_iff _ rfl]

end Toml

end Runbook
