import Runbook.Proofs.Json.Data
import Runbook.Proofs.Rows.Visiting
import Mathlib.Data.List.Dedup
import Mathlib.Data.List.Perm.Subperm

/-!
# Paths through a member tree

Visiting an id comes to an end whatever was met before, and in one way (`Visits.unique`). A member
may be visited that one of its siblings has met by then, so that no text is met on its entry; but
its own members are collected with its text among those that were met, and so are the members of
all ids below it. Hence no text stands twice on a path down the tree (`Visits.nodup_path`), though
it may stand in the tree more than once, and a path is no longer than there are texts of members.
-/

namespace Runbook.Rows

/-! ### Paths -/

/-- The keys on the way from the top of a tree to some place in it. -/
inductive Path : Json → List String → Prop where
  /-- The way ends here. -/
  | nil (j : Json) : Path j []
  /-- The way goes on below a member. -/
  | cons {name : String} {below : Json} {members : List (String × Json)} {path : List String} :
      (name, below) ∈ members → Path below path → Path (.obj members) (name :: path)

mutual

/-- How many objects with members stand below one another. -/
def nesting : Json → Nat
  | .obj members => nestingOf members
  | _ => 0
termination_by structural j => j

/-- `nesting` for the members of an object. -/
def nestingOf : List (String × Json) → Nat
  | [] => 0
  | (_, below) :: rest => max (nesting below + 1) (nestingOf rest)
termination_by structural members => members

end

theorem nestingOf_le_iff {members : List (String × Json)} {n : Nat} :
    nestingOf members ≤ n ↔ ∀ m ∈ members, nesting m.2 + 1 ≤ n := by
  induction members with
  | nil => simp [nestingOf]
  | cons m rest ih => rw [nestingOf, Nat.max_le, ih, List.forall_mem_cons]

theorem path_obj_iff {members : List (String × Json)} {path : List String} :
    Path (.obj members) path ↔
      path = [] ∨ ∃ m ∈ members, ∃ rest, path = m.1 :: rest ∧ Path m.2 rest := by
  constructor
  · intro h
    cases h with
    | nil => exact .inl rfl
    | cons hmem hbelow => exact .inr ⟨_, hmem, _, rfl, hbelow⟩
  · rintro (rfl | ⟨m, hm, rest, rfl, hrest⟩)
    · exact .nil _
    · exact .cons hm hrest

/-- A tree is nested as deep as its longest path. -/
theorem nesting_le_iff {j : Json} {n : Nat} :
    nesting j ≤ n ↔ ∀ path, Path j path → path.length ≤ n := by
  induction j using Json.partInduction generalizing n with
  | obj members ih =>
    rw [nesting, nestingOf_le_iff]
    constructor
    · intro h path hpath
      rcases path_obj_iff.mp hpath with rfl | ⟨m, hm, rest, rfl, hrest⟩
      · exact Nat.zero_le n
      · have hlength := (ih m hm).mp (Nat.le_refl _) rest hrest
        have hm := h m hm
        rw [List.length_cons]
        omega
    · intro h m hm
      have hfirst := h [m.1] (.cons hm (.nil m.2))
      obtain ⟨n, rfl⟩ : ∃ k, n = k + 1 := ⟨n - 1, by rw [List.length_singleton] at hfirst; omega⟩
      refine Nat.succ_le_succ ((ih m hm).mpr fun path hpath => ?_)
      exact Nat.le_of_succ_le_succ (h (m.1 :: path) (.cons hm hpath))
  | null | bool | int | float | str | arr =>
    refine iff_of_true (Nat.zero_le n) fun path hpath => ?_
    cases hpath
    exact Nat.zero_le n

theorem keys_subset_keysOf {name : String} {below : Json} {members : List (String × Json)}
    (h : (name, below) ∈ members) : keys below ⊆ keysOf members := by
  induction members with
  | nil => cases h
  | cons m rest ih =>
    obtain ⟨first, tree⟩ := m
    rw [keysOf_cons]
    rcases List.mem_cons.mp h with heq | hrest
    · obtain ⟨-, rfl⟩ := Prod.mk.inj heq
      exact List.subset_cons_of_subset _ (List.subset_append_left _ _)
    · exact List.subset_cons_of_subset _ (List.subset_append_of_subset_right _ (ih hrest))

/-- On a path stand keys of the tree. -/
theorem Path.subset_keys {j : Json} {path : List String} (h : Path j path) : path ⊆ keys j := by
  induction h with
  | nil => exact List.nil_subset _
  | cons hmem _ ih =>
    refine List.cons_subset.mpr ⟨mem_keysOf_of_mem (List.mem_map_of_mem hmem), ?_⟩
    exact List.Subset.trans ih (keys_subset_keysOf hmem)

/-! ### Paths of visits -/

variable {rows : List Json} {ids trees : List (String × Json)} {met met' : List String}

/-- Visiting ends in one way. -/
theorem Visits.unique (h : Visits rows ids met trees met') {trees₂ : List (String × Json)}
    {met₂ : List String} (h₂ : Visits rows ids met trees₂ met₂) : trees₂ = trees ∧ met₂ = met' := by
  induction h generalizing trees₂ met₂ with
  | nil met =>
    cases h₂
    exact ⟨rfl, rfl⟩
  | cons _ _ ihbelow ihrest =>
    obtain ⟨below, others, met₁, rfl, hbelow, hrest⟩ := h₂.exists_of_cons
    obtain ⟨rfl, rfl⟩ := ihbelow hbelow
    obtain ⟨rfl, rfl⟩ := ihrest hrest
    exact ⟨rfl, rfl⟩

/-- Visiting an id comes to trees of what stands below it, and to the texts that are met by then. -/
def VisitsBelow (rows : List Json) (id : Json) (met : List String)
    (result : List (String × Json) × List String) : Prop :=
  Visits rows (unmet (idText id :: met) (memberIds rows id)) (idText id :: met) result.1 result.2

theorem VisitsBelow.unique {id : Json} {r r' : List (String × Json) × List String}
    (h : VisitsBelow rows id met r) (h' : VisitsBelow rows id met r') : r' = r :=
  Prod.ext (Visits.unique h h').1 (Visits.unique h h').2

/-- The keys of a tree are texts of listed members. -/
theorem Visits.keys_subset (h : Visits rows ids met trees met')
    (hids : ∀ c ∈ ids, c.2 ∈ rows.flatMap listedIds) :
    keysOf trees ⊆ (rows.flatMap listedIds).map idText := by
  induction h with
  | nil => exact List.nil_subset _
  | @cons id rest below others met met₁ met₂ _ _ ihbelow ihrest =>
    have hbelow := ihbelow fun c hc => listed_of_mem_memberIds (of_mem_unmet hc).2.1
    have hrest := ihrest fun c hc => hids c (List.mem_cons_of_mem _ hc)
    have hid : idText id ∈ (rows.flatMap listedIds).map idText :=
      List.mem_map_of_mem (hids _ List.mem_cons_self)
    rw [keysOf_cons, keys_obj]
    exact List.cons_subset.mpr ⟨hid, List.append_subset.mpr ⟨hbelow, hrest⟩⟩

/-- On no path stands a key twice. -/
theorem Visits.nodup_path (h : Visits rows ids met trees met') {path : List String}
    (hpath : Path (.obj trees) path) : path.Nodup := by
  induction h generalizing path with
  | nil met =>
    rcases path_obj_iff.mp hpath with rfl | ⟨m, hm, -⟩
    · exact List.nodup_nil
    · cases hm
  | @cons id rest below others met met₁ met₂ hbelow _ ihbelow ihrest =>
    rcases path_obj_iff.mp hpath with rfl | ⟨m, hm, path, rfl, htail⟩
    · exact List.nodup_nil
    · rcases List.mem_cons.mp hm with rfl | hm
      · -- the id is among what was met when what stands below it was collected
        refine List.nodup_cons.mpr ⟨fun hself => ?_, ihbelow htail⟩
        exact hbelow.not_mem_of_mem_keys (List.Subset.refl _) (fun c hc => (of_mem_unmet hc).2.2)
          (htail.subset_keys hself) List.mem_cons_self
      · exact ihrest (.cons hm htail)

/-- **A member tree is built in finitely many steps, from whatever rows, and no path through it
comes to the same text twice or back to the root.** Visiting any id ends in one way, whatever was
met, and the depth that is allowed for it is enough. -/
theorem memberTree_paths (rows : List Json) (root : Json) :
    (∀ id met, ∃ result : List (String × Json) × List String,
      (∀ r, VisitsBelow rows id met r ↔ r = result) ∧
      ∀ fuel, depthBound rows ≤ fuel → visit rows fuel id met = result) ∧
    idText root ∉ keys (memberTree rows root) ∧
    (∀ path, Path (memberTree rows root) path → path.Nodup) ∧
    nesting (memberTree rows root) ≤ ((rows.flatMap listedIds).map idText).dedup.length := by
  obtain ⟨trees, met', htree, hv⟩ := exists_visits_memberTree rows root
  have hpaths {path : List String} (hpath : Path (memberTree rows root) path) : path.Nodup :=
    hv.nodup_path (htree ▸ hpath)
  refine ⟨fun id met => ?_, ?_, fun path => hpaths, nesting_le_iff.mpr fun path hpath => ?_⟩
  · have hend : VisitsBelow rows id met (visit rows (depthBound rows) id met) :=
      visits_visit (Nat.le_refl (depthBound rows)) id met
    refine ⟨visit rows (depthBound rows) id met, fun r => ⟨hend.unique, ?_⟩, ?_⟩
    · rintro rfl
      exact hend
    · exact fun fuel hfuel => hend.unique (visits_visit hfuel id met)
  · rw [htree, keys_obj]
    exact fun hmem => hv.not_mem_of_mem_keys (List.Subset.refl _)
      (fun c hc => (of_mem_unmet hc).2.2) hmem List.mem_cons_self
  · have hlisted : keysOf trees ⊆ (rows.flatMap listedIds).map idText :=
      hv.keys_subset fun c hc => listed_of_mem_memberIds (of_mem_unmet hc).2.1
    have hkeys : path ⊆ keysOf trees := by
      have hsubset := hpath.subset_keys
      rwa [htree, keys_obj] at hsubset
    refine ((hpaths hpath).subperm fun t ht => ?_).length_le
    exact List.mem_dedup.mpr (hlisted (hkeys ht))

end Runbook.Rows
