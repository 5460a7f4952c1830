import Runbook.Rows.Members
import Mathlib.Data.List.Basic

/-!
# How the members of members are visited

The tree of an id is built by visiting its members one after the other, each with its own members,
and the texts of all ids met so far are handed on from one to the next. The program bounds the depth
by the number of listed members. `Visits` is the same procedure without a bound, as a relation, and
the bound is never felt (`visits_visitAll`): ids are collected before any of them is visited, and
between the collection of an id and the collection of its members another listed text was met. That
is so even if a sibling has met the id in the meantime, though then nothing new is met on entry.

What is met is what was met before, with all keys of the trees (`Visits.mem_met_iff`), and no key of
a tree was met when the ids were collected (`Visits.not_mem_of_mem_keys`).
-/

namespace Runbook.Rows

/-! ### Keys of a tree -/

mutual

/-- The names of an object, of the objects under them, and so on. -/
def keys : Json → List String
  | .obj members => keysOf members
  | _ => []
termination_by structural j => j

/-- `keys` for the members of an object. -/
def keysOf : List (String × Json) → List String
  | [] => []
  | (name, below) :: rest => name :: (keys below ++ keysOf rest)
termination_by structural members => members

end

@[simp] theorem keys_obj (members : List (String × Json)) :
    keys (.obj members) = keysOf members := rfl

@[simp] theorem keysOf_nil : keysOf [] = [] := rfl

@[simp] theorem keysOf_cons (name : String) (below : Json) (rest : List (String × Json)) :
    keysOf ((name, below) :: rest) = name :: (keys below ++ keysOf rest) := rfl

/-- The names of an object are among its keys. -/
theorem mem_keysOf_of_mem {t : String} {members : List (String × Json)}
    (h : t ∈ members.map (·.1)) : t ∈ keysOf members := by
  induction members with
  | nil => cases h
  | cons m rest ih =>
    rcases List.mem_cons.mp h with rfl | hrest
    · exact List.mem_cons_self
    · exact List.mem_cons_of_mem _ (List.mem_append_right _ (ih hrest))

/-! ### Ids that were not met -/

theorem of_mem_unmet {met : List String} {ids : List Json} {c : String × Json}
    (h : c ∈ unmet met ids) : c.1 = idText c.2 ∧ c.2 ∈ ids ∧ c.1 ∉ met := by
  induction ids generalizing met with
  | nil => cases h
  | cons id rest ih =>
    rw [unmet] at h
    split at h
    case isTrue hmet =>
      obtain ⟨htext, hmem, hnot⟩ := ih h
      exact ⟨htext, List.mem_cons_of_mem _ hmem, hnot⟩
    case isFalse hmet =>
      rcases List.mem_cons.mp h with rfl | hrest
      · exact ⟨rfl, List.mem_cons_self, by simpa using hmet⟩
      · obtain ⟨htext, hmem, hnot⟩ := ih hrest
        exact ⟨htext, List.mem_cons_of_mem _ hmem, fun h => hnot (List.mem_cons_of_mem _ h)⟩

/-- Every id was met before or its text is kept. -/
theorem mem_unmet_of_mem {met : List String} {ids : List Json} {id : Json} (h : id ∈ ids) :
    idText id ∈ met ∨ idText id ∈ (unmet met ids).map (·.1) := by
  induction ids generalizing met with
  | nil => cases h
  | cons first rest ih =>
    rw [unmet]
    split
    case isTrue hmet =>
      rcases List.mem_cons.mp h with rfl | hrest
      · exact .inl (by simpa using hmet)
      · exact ih hrest
    case isFalse hmet =>
      rcases List.mem_cons.mp h with rfl | hrest
      · exact .inr List.mem_cons_self
      · rcases @ih (idText first :: met) hrest with hmem | hmem
        · rcases List.mem_cons.mp hmem with heq | hmem
          · exact .inr (List.mem_cons.mpr (.inl heq))
          · exact .inl hmem
        · exact .inr (List.mem_cons_of_mem _ hmem)

/-- Each text is kept once. -/
theorem nodup_unmet (met : List String) (ids : List Json) :
    ((unmet met ids).map (·.1)).Nodup := by
  induction ids generalizing met with
  | nil => exact .nil
  | cons id rest ih =>
    rw [unmet]
    split
    case isTrue => exact ih met
    case isFalse =>
      refine List.nodup_cons.mpr ⟨fun hmem => ?_, ih _⟩
      obtain ⟨c, hc, htext⟩ := List.mem_map.mp hmem
      exact (of_mem_unmet hc).2.2 (htext ▸ List.mem_cons_self)

/-- A member of an id is listed by some row. -/
theorem listed_of_mem_memberIds {rows : List Json} {id member : Json}
    (h : member ∈ memberIds rows id) : member ∈ rows.flatMap listedIds := by
  obtain ⟨row, hrow, hlisted⟩ := List.mem_flatMap.mp h
  exact List.mem_flatMap.mpr ⟨row, (List.mem_filter.mp hrow).1, hlisted⟩

/-! ### Visits -/

/-- Ids with their texts are visited one after the other: `trees` are the trees below them, and the
texts that were met grow from `met` to `met'`. -/
inductive Visits (rows : List Json) : (ids : List (String × Json)) → (met : List String) →
    (trees : List (String × Json)) → (met' : List String) → Prop where
  /-- No id is left. -/
  | nil (met : List String) : Visits rows [] met [] met
  /-- The members of the first id that were not met are collected and visited, and then the other
  ids are. -/
  | cons {id : Json} {rest below others : List (String × Json)} {met met₁ met₂ : List String} :
      Visits rows (unmet (idText id :: met) (memberIds rows id)) (idText id :: met) below met₁ →
        Visits rows rest met₁ others met₂ →
        Visits rows ((idText id, id) :: rest) met ((idText id, .obj below) :: others) met₂

variable {rows : List Json} {ids trees : List (String × Json)} {met met' : List String}

/-- Each id has its tree under its text. -/
theorem Visits.map_fst (h : Visits rows ids met trees met') :
    trees.map (·.1) = ids.map (·.1) := by
  induction h with
  | nil met => rfl
  | cons _ _ _ ih => rw [List.map_cons, List.map_cons, ih]

/-- The first id is visited before the others. -/
theorem Visits.exists_of_cons {text : String} {id : Json} {rest : List (String × Json)}
    (h : Visits rows ((text, id) :: rest) met trees met') :
    ∃ below others met₁, trees = (text, .obj below) :: others ∧
      Visits rows (unmet (idText id :: met) (memberIds rows id)) (idText id :: met) below met₁ ∧
      Visits rows rest met₁ others met' := by
  generalize hids : (text, id) :: rest = ids at h
  cases h with
  | nil => cases hids
  | cons hbelow hrest =>
    obtain ⟨hfirst, rfl⟩ := List.cons.inj hids
    obtain ⟨rfl, rfl⟩ := Prod.mk.inj hfirst
    exact ⟨_, _, _, rfl, hbelow, hrest⟩

/-- The texts that were met afterwards are those from before and the keys of the trees. -/
theorem Visits.mem_met_iff (h : Visits rows ids met trees met') {t : String} :
    t ∈ met' ↔ t ∈ met ∨ t ∈ keysOf trees := by
  induction h with
  | nil met => simp
  | cons _ _ ihbelow ihrest =>
    rw [ihrest, ihbelow, keysOf_cons, keys_obj, List.mem_cons, List.mem_cons, List.mem_append]
    tauto

/-- No text is forgotten. -/
theorem Visits.subset (h : Visits rows ids met trees met') : met ⊆ met' :=
  fun _ ht => h.mem_met_iff.mpr (.inl ht)

/-- Where none of the ids was met when they were collected, no key of their trees was. -/
theorem Visits.not_mem_of_mem_keys (h : Visits rows ids met trees met') {start : List String}
    (hstart : start ⊆ met) (hids : ∀ c ∈ ids, c.1 ∉ start) {t : String} (ht : t ∈ keysOf trees) :
    t ∉ start := by
  induction h with
  | nil met => cases ht
  | @cons id rest below others met met₁ met₂ hbelow _ ihbelow ihrest =>
    rw [keysOf_cons, keys_obj, List.mem_cons, List.mem_append] at ht
    have hmembers : ∀ c ∈ unmet (idText id :: met) (memberIds rows id), c.1 ∉ start :=
      fun c hc hmem => (of_mem_unmet hc).2.2 (List.mem_cons_of_mem _ (hstart hmem))
    rcases ht with rfl | ht | ht
    · exact hids _ List.mem_cons_self
    · exact ihbelow (List.subset_cons_of_subset _ hstart) hmembers ht
    · exact ihrest (List.Subset.trans (List.subset_cons_of_subset _ hstart) hbelow.subset)
        (fun c hc => hids c (List.mem_cons_of_mem _ hc)) ht

/-! ### The depth that is left -/

/-- How many of the listed members were not met. -/
def remaining (rows : List Json) (met : List String) : Nat :=
  ((rows.flatMap listedIds).map idText).countP fun t => !met.contains t

theorem remaining_anti (rows : List Json) {met met' : List String} (h : met ⊆ met') :
    remaining rows met' ≤ remaining rows met :=
  List.countP_mono_left fun t _ ht => by
    simp only [Bool.not_eq_true', List.contains_eq_mem, decide_eq_false_iff_not] at ht ⊢
    exact fun hmem => ht (h hmem)

/-- Meeting a listed text that was not met leaves fewer. -/
theorem remaining_cons_lt {rows : List Json} {met : List String} {member : Json}
    (hlisted : member ∈ rows.flatMap listedIds) (hmet : idText member ∉ met) :
    remaining rows (idText member :: met) < remaining rows met := by
  have hmem : idText member ∈ (rows.flatMap listedIds).map idText := List.mem_map_of_mem hlisted
  rw [remaining, remaining]
  generalize (rows.flatMap listedIds).map idText = texts at hmem
  obtain ⟨before, after, rfl⟩ := List.append_of_mem hmem
  have hmono : ∀ ts : List String, (ts.countP fun t => !(idText member :: met).contains t) ≤
      ts.countP fun t => !met.contains t := fun ts =>
    List.countP_mono_left fun t _ ht => by
      simp only [Bool.not_eq_true', List.contains_eq_mem, decide_eq_false_iff_not,
        List.mem_cons, not_or] at ht ⊢
      exact ht.2
  have hbefore := hmono before
  have hafter := hmono after
  simp only [List.countP_append, List.countP_cons]
  have hnow : (!met.contains (idText member)) = true := by simpa using hmet
  have hthen : (!(idText member :: met).contains (idText member)) = false := by simp
  rw [hnow, hthen]
  simp only [if_true, Bool.false_eq_true, if_false]
  omega

theorem visit_succ (rows : List Json) (fuel : Nat) (id : Json) (met : List String) :
    visit rows (fuel + 1) id met =
      visitAll rows fuel (unmet (idText id :: met) (memberIds rows id)) (idText id :: met) := by
  rw [visit]

/-- The bound on the depth is never felt as long as it is above what is left at each id. -/
theorem visits_visitAll (rows : List Json) (fuel : Nat) :
    ∀ (ids : List (String × Json)) (met : List String),
      (∀ c ∈ ids, c.1 = idText c.2 ∧ remaining rows (c.1 :: met) < fuel) →
        Visits rows ids met (visitAll rows fuel ids met).1 (visitAll rows fuel ids met).2 := by
  induction fuel with
  | zero =>
    intro ids met h
    cases ids with
    | nil =>
      rw [visitAll]
      exact .nil met
    | cons c rest => exact absurd (h c List.mem_cons_self).2 (Nat.not_lt_zero _)
  | succ fuel ihfuel =>
    intro ids
    induction ids with
    | nil =>
      intro met _
      rw [visitAll]
      exact .nil met
    | cons c rest ihrest =>
      intro met h
      obtain ⟨text, id⟩ := c
      obtain ⟨htext, hleft⟩ := h _ List.mem_cons_self
      obtain rfl : text = idText id := htext
      dsimp only at hleft
      -- between the id and its members one more listed text was met
      have hbelow := ihfuel (unmet (idText id :: met) (memberIds rows id)) (idText id :: met)
        fun c hc => by
          obtain ⟨htext, hmember, hnot⟩ := of_mem_unmet hc
          rw [htext] at hnot ⊢
          have hlt := remaining_cons_lt (listed_of_mem_memberIds hmember) hnot
          exact ⟨rfl, by omega⟩
      rw [← visit_succ] at hbelow
      have hrest := ihrest (visit rows (fuel + 1) id met).2 fun c hc => by
        obtain ⟨htext, hlt⟩ := h c (List.mem_cons_of_mem _ hc)
        have hmono := remaining_anti rows (List.cons_subset_cons c.1
          (List.Subset.trans (List.subset_cons_self (idText id) met) hbelow.subset))
        exact ⟨htext, Nat.lt_of_le_of_lt hmono hlt⟩
      rw [visitAll]
      exact .cons hbelow hrest

/-- The bound is enough for any id, whatever was met before. -/
theorem visits_visit {rows : List Json} {fuel : Nat} (hfuel : depthBound rows ≤ fuel) (id : Json)
    (met : List String) :
    Visits rows (unmet (idText id :: met) (memberIds rows id)) (idText id :: met)
      (visit rows fuel id met).1 (visit rows fuel id met).2 := by
  rw [depthBound] at hfuel
  obtain ⟨fuel, rfl⟩ : ∃ n, fuel = n + 1 := ⟨fuel - 1, by omega⟩
  rw [visit_succ]
  refine visits_visitAll rows _ _ _ fun c hc => ?_
  obtain ⟨htext, hmember, hnot⟩ := of_mem_unmet hc
  have hlt := remaining_cons_lt (listed_of_mem_memberIds hmember) (htext ▸ hnot)
  have hle : remaining rows (idText id :: met) ≤ (rows.flatMap listedIds).length := by
    rw [remaining, ← List.length_map idText]
    exact List.countP_le_length
  rw [htext]
  exact ⟨rfl, by omega⟩

/-- The tree of an id holds what visiting its members gives. -/
theorem exists_visits_memberTree (rows : List Json) (id : Json) :
    ∃ trees met', memberTree rows id = .obj trees ∧
      Visits rows (unmet [idText id] (memberIds rows id)) [idText id] trees met' :=
  ⟨_, _, rfl, visits_visit (Nat.le_refl _) id []⟩

end Runbook.Rows
