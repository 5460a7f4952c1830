import Mathlib.Data.List.Perm.Basic
import Runbook.Presets.Reading
import Runbook.Proofs.Json.Scalars
import Runbook.Proofs.Outcome

/-!
# Plain data

`IsData` says of a value what a template of contexts can be: its integers fit 64 bits, its doubles
are finite, and no object has a name twice. Templates are read by `Presets.storable?` and `merged`;
what comes out is data (`isData_merged`), and on data neither changes anything
(`IsData.storable?_eq`, `IsData.merged_eq`).

Equality of values passes over the order of members, so an object is the same as any
rearrangement of it (`same_obj_of_perm`).
-/

namespace Runbook.Json

open Decimal (Binary64)

/-- Induction over a value, with the hypothesis for every item of an array and for the value of
every member of an object. -/
@[elab_as_elim]
theorem partInduction {motive : Json → Prop} (null : motive .null)
    (bool : ∀ b, motive (.bool b)) (int : ∀ n, motive (.int n)) (float : ∀ x, motive (.float x))
    (str : ∀ s, motive (.str s)) (arr : ∀ js, (∀ j ∈ js, motive j) → motive (.arr js))
    (obj : ∀ ms, (∀ m ∈ ms, motive m.2) → motive (.obj ms)) (j : Json) : motive j :=
  @Json.rec motive (fun js => ∀ j ∈ js, motive j) (fun ms => ∀ m ∈ ms, motive m.2)
    (fun m => motive m.2) null bool int float str arr obj
    (fun _ h => absurd h List.not_mem_nil) (fun _ _ hj hjs => List.forall_mem_cons.mpr ⟨hj, hjs⟩)
    (fun _ h => absurd h List.not_mem_nil) (fun _ _ hm hms => List.forall_mem_cons.mpr ⟨hm, hms⟩)
    (fun _ _ h => h) j

/-- Integers fit 64 bits, doubles are finite, and no object has a name twice. -/
inductive IsData : Json → Prop where
  | null : IsData .null
  | bool (b : Bool) : IsData (.bool b)
  | int {n : Int} : IsWord n → IsData (.int n)
  | float {x : Binary64} : x.isFinite = true → IsData (.float x)
  | str (s : String) : IsData (.str s)
  | arr {js : List Json} : (∀ j ∈ js, IsData j) → IsData (.arr js)
  | obj {ms : List (String × Json)} : (ms.map (·.1)).Nodup → (∀ m ∈ ms, IsData m.2) →
      IsData (.obj ms)

/-! ### Members by name -/

theorem lookup?_eq_some_of_mem {ms : List (String × Json)} (hnodup : (ms.map (·.1)).Nodup)
    {m : String × Json} (h : m ∈ ms) : lookup? m.1 ms = some m.2 := by
  induction ms with
  | nil => cases h
  | cons k ms ih =>
    rw [List.map_cons, List.nodup_cons] at hnodup
    obtain rfl | h := List.mem_cons.mp h
    · simp [lookup?]
    · have hne : k.1 ≠ m.1 := fun heq => hnodup.1 (heq ▸ List.mem_map_of_mem h)
      simpa [lookup?, hne] using ih hnodup.2 h

/-- Where no name stands twice, each member is found. -/
theorem lookup?_eq_some_iff {ms : List (String × Json)} (hnodup : (ms.map (·.1)).Nodup)
    {name : String} {j : Json} : lookup? name ms = some j ↔ (name, j) ∈ ms := by
  constructor
  · intro h
    rw [lookup?, Option.map_eq_some_iff] at h
    obtain ⟨m, hm, rfl⟩ := h
    have hname : m.1 = name := by simpa using List.find?_some hm
    subst hname
    exact List.mem_of_find?_eq_some hm
  · intro h
    exact lookup?_eq_some_of_mem hnodup h

/-! ### Merging -/

theorem mergedItems_eq (js : List Json) : mergedItems js = js.map merged := by
  induction js with
  | nil => rfl
  | cons j js ih => rw [mergedItems, ih, List.map_cons]

theorem mergedMembers_eq (ms : List (String × Json)) :
    mergedMembers ms = ms.map fun m => (m.1, m.2.merged) := by
  induction ms with
  | nil => rfl
  | cons m ms ih => rw [mergedMembers, ih, List.map_cons]

theorem mem_put {name : String} {j : Json} {ms : List (String × Json)} {m : String × Json}
    (h : m ∈ put name j ms) : m = (name, j) ∨ m ∈ ms := by
  induction ms with
  | nil => exact .inl (List.mem_singleton.mp h)
  | cons k ms ih =>
    rw [put] at h
    split at h
    · next heq =>
      obtain rfl | h := List.mem_cons.mp h
      · exact .inl (by rw [heq])
      · exact .inr (List.mem_cons_of_mem k h)
    · obtain rfl | h := List.mem_cons.mp h
      · exact .inr List.mem_cons_self
      · exact (ih h).imp id (List.mem_cons_of_mem k)

/-- Setting a member adds no name but its own. -/
theorem names_put {name : String} {j : Json} {ms : List (String × Json)} {n : String} :
    n ∈ (put name j ms).map (·.1) ↔ n = name ∨ n ∈ ms.map (·.1) := by
  induction ms with
  | nil => simp [put]
  | cons k ms ih =>
    rw [put]
    split
    · next heq => simp [heq]
    · rw [List.map_cons, List.map_cons, List.mem_cons, List.mem_cons, ih]
      tauto

theorem nodup_put {name : String} {j : Json} {ms : List (String × Json)}
    (h : (ms.map (·.1)).Nodup) : ((put name j ms).map (·.1)).Nodup := by
  induction ms with
  | nil => simp [put]
  | cons k ms ih =>
    rw [put]
    split
    · exact h
    · next hne =>
      rw [List.map_cons, List.nodup_cons] at h ⊢
      exact ⟨fun hmem => (names_put.mp hmem).elim hne h.1, ih h.2⟩

theorem put_of_not_mem {name : String} {j : Json} {ms : List (String × Json)}
    (h : name ∉ ms.map (·.1)) : put name j ms = ms ++ [(name, j)] := by
  induction ms with
  | nil => rfl
  | cons k ms ih =>
    rw [List.map_cons, List.mem_cons, not_or] at h
    rw [put, if_neg (Ne.symm h.1), ih h.2, List.cons_append]

/-- Members that are set one after the other: each name is there once, and nothing is there that
was not set. -/
theorem putAll_spec (ms : List (String × Json)) :
    ((putAll ms).map (·.1)).Nodup ∧ ∀ m ∈ putAll ms, m ∈ ms := by
  have hgo : ∀ (ms acc : List (String × Json)), (acc.map (·.1)).Nodup →
      ((ms.foldl (fun acc m => put m.1 m.2 acc) acc).map (·.1)).Nodup ∧
        ∀ m ∈ ms.foldl (fun acc m => put m.1 m.2 acc) acc, m ∈ acc ∨ m ∈ ms := by
    intro ms
    induction ms with
    | nil => exact fun acc hacc => ⟨hacc, fun m hm => .inl hm⟩
    | cons k ms ih =>
      intro acc hacc
      obtain ⟨hnodup, hmem⟩ := ih (put k.1 k.2 acc) (nodup_put hacc)
      refine ⟨hnodup, fun m hm => ?_⟩
      obtain hm | hm := hmem m hm
      · exact (mem_put hm).elim (fun h => .inr (h ▸ List.mem_cons_self)) .inl
      · exact .inr (List.mem_cons_of_mem k hm)
  obtain ⟨hnodup, hmem⟩ := hgo ms [] List.nodup_nil
  exact ⟨hnodup, fun m hm => (hmem m hm).resolve_left List.not_mem_nil⟩

/-- Members whose names differ are set as they are. -/
theorem putAll_of_nodup {ms : List (String × Json)} (h : (ms.map (·.1)).Nodup) :
    putAll ms = ms := by
  have hgo : ∀ (ms acc : List (String × Json)), ((acc ++ ms).map (·.1)).Nodup →
      ms.foldl (fun acc m => put m.1 m.2 acc) acc = acc ++ ms := by
    intro ms
    induction ms with
    | nil => exact fun acc _ => (List.append_nil acc).symm
    | cons k ms ih =>
      intro acc hacc
      have hk : k.1 ∉ acc.map (·.1) := by
        rw [List.map_append, List.nodup_append] at hacc
        exact fun hmem => hacc.2.2 _ hmem _ (List.mem_map_of_mem List.mem_cons_self) rfl
      rw [List.foldl_cons, put_of_not_mem hk, ih _ (by simpa using hacc), List.append_assoc]
      rfl
  exact hgo ms [] h

/-! ### Data -/

theorem storableItems?_eq_some_iff {js ks : List Json} :
    Presets.storableItems? js = some ks ↔
      List.Forall₂ (fun j k => Presets.storable? j = some k) js ks := by
  induction js generalizing ks with
  | nil => cases ks <;> simp [Presets.storableItems?]
  | cons j js ih =>
    rw [Presets.storableItems?]
    constructor
    · intro h
      split at h
      · next hj hjs =>
        cases h
        exact .cons hj (ih.mp hjs)
      · cases h
    · rintro (_ | ⟨hj, hjs⟩)
      rw [hj, ih.mpr hjs]

theorem storableMembers?_eq_some_iff {ms ks : List (String × Json)} :
    Presets.storableMembers? ms = some ks ↔
      List.Forall₂ (fun m k => k.1 = m.1 ∧ Presets.storable? m.2 = some k.2) ms ks := by
  induction ms generalizing ks with
  | nil => cases ks <;> simp [Presets.storableMembers?]
  | cons m ms ih =>
    rw [Presets.storableMembers?]
    constructor
    · intro h
      split at h
      · next hm hms =>
        cases h
        exact .cons ⟨rfl, hm⟩ (ih.mp hms)
      · cases h
    · rintro (_ | ⟨⟨hname, hm⟩, hms⟩)
      rw [hm, ih.mpr hms, ← hname]

/-- Data is stored as it is. -/
theorem IsData.storable?_eq {j : Json} (h : IsData j) : Presets.storable? j = some j := by
  induction h with
  | null | bool | str => rfl
  | int hword => rw [Presets.storable?, if_pos ⟨hword.1, by have := hword.2; omega⟩]
  | float hfinite => rw [Presets.storable?, if_pos hfinite]
  | arr _ ih =>
    rw [Presets.storable?, storableItems?_eq_some_iff.mpr (List.forall₂_same.mpr ih)]
    rfl
  | obj _ _ ih =>
    rw [Presets.storable?, storableMembers?_eq_some_iff.mpr
      (List.forall₂_same.mpr fun m hm => ⟨rfl, ih m hm⟩)]
    rfl

/-- Merging leaves data as it is. -/
theorem IsData.merged_eq {j : Json} (h : IsData j) : j.merged = j := by
  induction h with
  | null | bool | int | float | str => rfl
  | arr _ ih => rw [merged, mergedItems_eq, List.map_congr_left ih, List.map_id']
  | @obj ms hnodup _ ih =>
    have hmembers : (ms.map fun m => (m.1, m.2.merged)) = ms.map id :=
      List.map_congr_left fun m hm => Prod.ext rfl (ih m hm)
    rw [merged, mergedMembers_eq, hmembers, List.map_id, putAll_of_nodup hnodup]

/-- **What is stored and merged is data.** -/
theorem isData_merged {j k : Json} (h : Presets.storable? j = some k) : IsData k.merged := by
  induction j using partInduction generalizing k with
  | null => cases h; exact .null
  | bool b => cases h; exact .bool b
  | str s => cases h; exact .str s
  | int n =>
    rw [Presets.storable?] at h
    split at h
    · next hrange =>
      cases h
      exact .int ⟨hrange.1, by omega⟩
    · cases h
  | float x =>
    rw [Presets.storable?] at h
    cases h
    split
    · next hfinite => exact .float hfinite
    · exact .null
  | arr js ih =>
    rw [Presets.storable?, Option.map_eq_some_iff] at h
    obtain ⟨ks, hks, rfl⟩ := h
    rw [merged, mergedItems_eq]
    refine .arr (List.forall_mem_map.mpr fun k hk => ?_)
    obtain ⟨j, hj, hjk⟩ := exists_left_of_mem (storableItems?_eq_some_iff.mp hks) hk
    exact ih j hj hjk
  | obj ms ih =>
    rw [Presets.storable?, Option.map_eq_some_iff] at h
    obtain ⟨ks, hks, rfl⟩ := h
    rw [merged, mergedMembers_eq]
    refine .obj (putAll_spec _).1 fun m hm => ?_
    obtain ⟨k, hk, rfl⟩ := List.mem_map.mp ((putAll_spec _).2 m hm)
    obtain ⟨m, hm, -, hmk⟩ := exists_left_of_mem (storableMembers?_eq_some_iff.mp hks) hk
    exact ih m hm hmk

/-! ### Equality -/

theorem sameItems_iff {js ks : List Json} :
    sameItems js ks = true ↔ List.Forall₂ (fun j k => j.same k = true) js ks := by
  induction js generalizing ks with
  | nil => cases ks <;> simp [sameItems]
  | cons j js ih => cases ks <;> simp [sameItems, ih]

theorem sameMembers_iff {ms ks : List (String × Json)} :
    sameMembers ms ks = true ↔
      ∀ m ∈ ms, ∃ k, lookup? m.1 ks = some k ∧ m.2.same k = true := by
  induction ms with
  | nil => simp [sameMembers]
  | cons m ms ih =>
    rw [sameMembers, Bool.and_eq_true, ih, List.forall_mem_cons]
    refine and_congr_left fun _ => ?_
    cases lookup? m.1 ks <;> simp

/-- Arrays are the same item by item. -/
theorem same_arr_iff {js ks : List Json} :
    (Json.arr js).same (.arr ks) = true ↔ List.Forall₂ (fun j k => j.same k = true) js ks := by
  rw [same, sameItems_iff]

/-- Objects with the same names in the same order are the same member by member. -/
theorem same_obj_iff_of_names {ms ks : List (String × Json)}
    (hnames : ms.map (·.1) = ks.map (·.1)) (hnodup : (ks.map (·.1)).Nodup) :
    (Json.obj ms).same (.obj ks) = true ↔
      List.Forall₂ (fun m k => m.2.same k.2 = true) ms ks := by
  have hlength : ms.length = ks.length := by simpa using congrArg List.length hnames
  have hlookup : ∀ i (hm : i < ms.length) (hk : i < ks.length),
      lookup? ms[i].1 ks = some ks[i].2 := by
    intro i hm hk
    have hname : ms[i].1 = ks[i].1 := by
      simpa [hm, hk] using congrArg (·[i]?) hnames
    rw [hname]
    exact lookup?_eq_some_of_mem hnodup (List.getElem_mem hk)
  rw [same, Bool.and_eq_true, beq_iff_eq, sameMembers_iff, List.forall₂_iff_get]
  refine and_congr_right fun _ => ⟨fun h i hm hk => ?_, fun h m hmem => ?_⟩
  · obtain ⟨k, hfind, hsame⟩ := h ms[i] (List.getElem_mem hm)
    rw [hlookup i hm hk] at hfind
    cases hfind
    exact hsame
  · obtain ⟨i, hm, rfl⟩ := List.getElem_of_mem hmem
    exact ⟨_, hlookup i hm (hlength ▸ hm), h i hm (hlength ▸ hm)⟩

/-- An object is the same as one whose members, in any order, are the same as its own. -/
theorem same_obj_of_perm {ms ks : List (String × Json)} {f : Json → Json}
    (hnodup : (ms.map (·.1)).Nodup) (hperm : ks.Perm (ms.map fun m => (m.1, f m.2)))
    (hsame : ∀ m ∈ ms, m.2.same (f m.2) = true) : (Json.obj ms).same (.obj ks) = true := by
  have hnodup' : (ks.map (·.1)).Nodup := by
    rw [(hperm.map (·.1)).nodup_iff, List.map_map]
    exact hnodup
  rw [same, Bool.and_eq_true, beq_iff_eq, sameMembers_iff]
  refine ⟨by simpa using hperm.length_eq.symm, fun m hm => ⟨f m.2, ?_, hsame m hm⟩⟩
  exact lookup?_eq_some_of_mem hnodup' (hperm.mem_iff.mpr (List.mem_map_of_mem hm))

end Runbook.Json
