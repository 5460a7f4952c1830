import Runbook.Proofs.Json.Data
import Runbook.Toml.Printer

/-!
# The order of a written document

A document writes the plain members of a table before those that have headers, in either group in
order. `arranged` is the value in that order, which is what the document is read as. It is the same
value as before (`IsData.same_arranged`), and of the same kind (`IsData.arranged`).
-/

namespace Runbook.Toml

mutual

/-- The value with the plain members of every table that has headers moved to the front. -/
def arranged : Json → Json
  | .arr items => .arr (if isPlain (.arr items) then items else arrangedItems items)
  | .obj members => .obj (members.filter (isPlain ·.2) ++ arrangedTables members)
  | j => j
termination_by structural j => j

/-- `arranged` for the rows of a list. -/
def arrangedItems : List Json → List Json
  | [] => []
  | j :: rest => arranged j :: arrangedItems rest
termination_by structural js => js

/-- `arranged` for the members that are not plain. -/
def arrangedTables : List (String × Json) → List (String × Json)
  | [] => []
  | (name, j) :: rest =>
    if isPlain j then arrangedTables rest else (name, arranged j) :: arrangedTables rest
termination_by structural ms => ms

end

/-- The members of a table in the order of a document. -/
def arrangedMembers (members : List (String × Json)) : List (String × Json) :=
  members.filter (isPlain ·.2) ++ arrangedTables members

theorem arranged_obj (ms : List (String × Json)) :
    arranged (.obj ms) = .obj (arrangedMembers ms) :=
  rfl

theorem arrangedItems_eq (js : List Json) : arrangedItems js = js.map arranged := by
  induction js with
  | nil => rfl
  | cons j js ih => rw [arrangedItems, ih, List.map_cons]

theorem arrangedTables_eq (ms : List (String × Json)) :
    arrangedTables ms = (ms.filter (!isPlain ·.2)).map fun m => (m.1, arranged m.2) := by
  induction ms with
  | nil => rfl
  | cons m ms ih =>
    rw [arrangedTables, ih, List.filter_cons]
    cases isPlain m.2 <;> rfl

/-- A plain value is written as it is. -/
theorem arranged_of_isPlain {j : Json} (h : isPlain j = true) : arranged j = j := by
  cases j with
  | arr js => rw [arranged, if_pos h]
  | obj => cases h
  | null | bool | int | float | str => rfl

/-- A list of tables is written row by row. -/
theorem arranged_arr {js : List Json} (h : isPlain (.arr js) = false) :
    arranged (.arr js) = .arr (js.map arranged) := by
  rw [arranged, if_neg (by simp [h]), arrangedItems_eq]

/-- Members come in another order, each with its value arranged. -/
theorem arrangedMembers_perm (ms : List (String × Json)) :
    (arrangedMembers ms).Perm (ms.map fun m => (m.1, arranged m.2)) := by
  have hplain : ms.filter (isPlain ·.2) =
      (ms.filter (isPlain ·.2)).map fun m => (m.1, arranged m.2) := by
    refine ((List.map_congr_left fun m hm => ?_).trans (List.map_id _)).symm
    rw [arranged_of_isPlain (List.mem_filter.mp hm).2]
    rfl
  rw [arrangedMembers, arrangedTables_eq, hplain, ← List.map_append]
  exact (List.filter_append_perm _ ms).map _

/-- Plain members stay in order. -/
theorem arrangedMembers_of_isPlain {ms : List (String × Json)}
    (h : ∀ m ∈ ms, isPlain m.2 = true) : arrangedMembers ms = ms := by
  have hnone : ms.filter (!isPlain ·.2) = [] :=
    List.filter_eq_nil_iff.mpr fun m hm => by simp [h m hm]
  rw [arrangedMembers, arrangedTables_eq, hnone, List.map_nil, List.append_nil]
  exact List.filter_eq_self.mpr h

/-- Tables stay in order. -/
theorem arrangedMembers_of_not_isPlain {ms : List (String × Json)}
    (h : ∀ m ∈ ms, isPlain m.2 = false) :
    arrangedMembers ms = ms.map fun m => (m.1, arranged m.2) := by
  have hnone : ms.filter (isPlain ·.2) = [] :=
    List.filter_eq_nil_iff.mpr fun m hm => by simp [h m hm]
  have hall : ms.filter (!isPlain ·.2) = ms :=
    List.filter_eq_self.mpr fun m hm => by simp [h m hm]
  rw [arrangedMembers, arrangedTables_eq, hnone, hall, List.nil_append]

theorem names_arrangedMembers (ms : List (String × Json)) :
    ((arrangedMembers ms).map (·.1)).Perm (ms.map (·.1)) := by
  have hperm := (arrangedMembers_perm ms).map (·.1)
  rwa [List.map_map] at hperm

end Runbook.Toml

namespace Runbook.Json

/-- Rearranged data is data. -/
theorem IsData.arranged {j : Json} (h : IsData j) : IsData (Toml.arranged j) := by
  induction h with
  | null => exact .null
  | bool b => exact .bool b
  | int hword => exact .int hword
  | float hfinite => exact .float hfinite
  | str s => exact .str s
  | @arr js hjs ih =>
    cases hplain : Toml.isPlain (.arr js) with
    | true =>
      rw [Toml.arranged_of_isPlain hplain]
      exact .arr hjs
    | false =>
      rw [Toml.arranged_arr hplain]
      exact .arr (List.forall_mem_map.mpr ih)
  | @obj ms hnodup _ ih =>
    refine .obj ((Toml.names_arrangedMembers ms).nodup_iff.mpr hnodup) fun m hm => ?_
    obtain ⟨k, hk, rfl⟩ := List.mem_map.mp ((Toml.arrangedMembers_perm ms).mem_iff.mp hm)
    exact ih k hk

/-- Data is the same as itself: none of its doubles is a NaN. -/
theorem IsData.same_self {j : Json} (h : IsData j) : j.same j = true := by
  induction h with
  | null => rfl
  | bool | int | str => simp [same]
  | float hfinite =>
    rw [Decimal.Binary64.isFinite, bne_iff_ne] at hfinite
    simp [same, Decimal.Binary64.same, Decimal.Binary64.isNaN, hfinite]
  | arr _ ih => exact same_arr_iff.mpr (List.forall₂_same.mpr ih)
  | obj hnodup _ ih =>
    exact same_obj_of_perm (f := id) hnodup (by simp) ih

/-- **Rearranging data leaves it the same.** -/
theorem IsData.same_arranged {j : Json} (h : IsData j) : j.same (Toml.arranged j) = true := by
  induction h with
  | null => rfl
  | bool b => exact (IsData.bool b).same_self
  | int hword => exact (IsData.int hword).same_self
  | float hfinite => exact (IsData.float hfinite).same_self
  | str s => exact (IsData.str s).same_self
  | @arr js hjs ih =>
    cases hplain : Toml.isPlain (.arr js) with
    | true =>
      rw [Toml.arranged_of_isPlain hplain]
      exact (IsData.arr hjs).same_self
    | false =>
      rw [Toml.arranged_arr hplain, same_arr_iff, List.forall₂_map_right_iff, List.forall₂_same]
      exact ih
  | obj hnodup _ ih => exact same_obj_of_perm hnodup (Toml.arrangedMembers_perm _) ih

end Runbook.Json
