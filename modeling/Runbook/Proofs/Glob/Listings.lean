import Runbook.Glob.Expand
import Runbook.Proofs.Outcome

/-!
# Listings that are expanded again

A listing is expanded entry by entry (`Spreads`), and no entry is lost: each becomes one entry or
more. So the expansion of an expansion gives the same listing exactly if every one of its entries
becomes itself (`expandAll_eq_self_iff`). Entries that are no patterns always do, and so do patterns
that match nothing. What is left are the paths that a pattern found, for a path may have the
characters of a pattern in its name: read as a pattern it may match other paths, or none, or be no
pattern at all (`expandAll_again_iff`).
-/

namespace Runbook.Glob

variable {tree : FileTree}

/-- What becomes of one entry of a listing. -/
inductive Spreads (tree : FileTree) : Option String → List (Option String) → Prop where
  /-- Nothing is given. -/
  | absent : Spreads tree none [none]
  /-- The path is no pattern. -/
  | literal {path : String} (h : hasWildcard path = false) : Spreads tree (some path) [some path]
  /-- A pattern that matches nothing is kept. -/
  | kept {path : String} (h : hasWildcard path = true) (hfound : expand tree path = .ok []) :
      Spreads tree (some path) [some path]
  /-- A pattern gives the paths that it matches. -/
  | matched {path : String} {found : List String} (h : hasWildcard path = true)
      (hfound : expand tree path = .ok found) (hne : found ≠ []) :
      Spreads tree (some path) (found.map some)

/-- The first entry of a listing and the others. -/
theorem expandAll_cons_eq_ok_iff {entry : Option String} {rest r : List (Option String)} :
    expandAll tree (entry :: rest) = .ok r ↔ ∃ part others, Spreads tree entry part ∧
      expandAll tree rest = .ok others ∧ part ++ others = r := by
  constructor
  · intro h
    cases entry with
    | none =>
      rw [expandAll, map_eq_ok_iff] at h
      obtain ⟨others, hothers, rfl⟩ := h
      exact ⟨[none], others, .absent, hothers, rfl⟩
    | some path =>
      rw [expandAll] at h
      split at h
      · next hwild =>
        simp only [bind_eq_ok_iff] at h
        obtain ⟨found, hfound, others, hothers, hr⟩ := h
        cases hr
        by_cases hempty : found = []
        · subst hempty
          exact ⟨[some path], others, .kept hwild hfound, hothers, rfl⟩
        · refine ⟨found.map some, others, .matched hwild hfound hempty, hothers, ?_⟩
          simp [hempty]
      · next hwild =>
        rw [map_eq_ok_iff] at h
        obtain ⟨others, hothers, rfl⟩ := h
        exact ⟨[some path], others, .literal (by simpa using hwild), hothers, rfl⟩
  · rintro ⟨part, others, hpart, hothers, rfl⟩
    cases hpart with
    | absent =>
      rw [expandAll, hothers]
      rfl
    | literal hwild =>
      rw [expandAll, if_neg (by simp [hwild]), hothers]
      rfl
    | kept hwild hfound =>
      rw [expandAll, if_pos hwild, hfound, hothers]
      rfl
    | matched hwild hfound hne =>
      rw [expandAll, if_pos hwild, hfound, hothers]
      simp [bind, Except.bind, pure, Except.pure, hne]

/-- **A listing is expanded entry by entry.** -/
theorem expandAll_eq_ok_iff {paths r : List (Option String)} :
    expandAll tree paths = .ok r ↔ ∃ parts, List.Forall₂ (Spreads tree) paths parts ∧
      parts.flatten = r := by
  induction paths generalizing r with
  | nil =>
    constructor
    · intro h
      cases h
      exact ⟨[], .nil, rfl⟩
    · rintro ⟨parts, hparts, rfl⟩
      cases hparts
      rfl
  | cons entry rest ih =>
    rw [expandAll_cons_eq_ok_iff]
    constructor
    · rintro ⟨part, others, hpart, hothers, rfl⟩
      obtain ⟨parts, hparts, rfl⟩ := ih.mp hothers
      exact ⟨part :: parts, .cons hpart hparts, rfl⟩
    · rintro ⟨parts, hparts, rfl⟩
      cases hparts with
      | cons hpart hrest => exact ⟨_, _, hpart, ih.mpr ⟨_, hrest, rfl⟩, rfl⟩

/-! ### Entries that become themselves -/

theorem Spreads.ne_nil {entry : Option String} {part : List (Option String)}
    (h : Spreads tree entry part) : part ≠ [] := by
  cases h with
  | matched hwild hfound hne => simpa using hne
  | absent | literal | kept => simp

/-- A given path becomes given paths. -/
theorem Spreads.eq_map_some {path : String} {part : List (Option String)}
    (h : Spreads tree (some path) part) : ∃ paths : List String, part = paths.map some := by
  cases h with
  | matched => exact ⟨_, rfl⟩
  | literal | kept => exact ⟨[path], rfl⟩

/-- A listing in which every path is given becomes one in which every path is given. -/
theorem exists_eq_map_some {paths : List String} {r : List (Option String)}
    (h : expandAll tree (paths.map some) = .ok r) : ∃ found : List String, r = found.map some := by
  induction paths generalizing r with
  | nil =>
    cases h
    exact ⟨[], rfl⟩
  | cons path rest ih =>
    rw [List.map_cons, expandAll_cons_eq_ok_iff] at h
    obtain ⟨part, others, hpart, hothers, rfl⟩ := h
    obtain ⟨first, rfl⟩ := hpart.eq_map_some
    obtain ⟨more, rfl⟩ := ih hothers
    exact ⟨first ++ more, List.map_append.symm⟩

/-- In the place of a path, read as a pattern, nothing but the path itself is found. -/
def NamesItself (tree : FileTree) (path : String) : Prop :=
  hasWildcard path = true → expand tree path = .ok [] ∨ expand tree path = .ok [path]

theorem spreads_self_iff {entry : Option String} :
    Spreads tree entry [entry] ↔ ∀ path, entry = some path → NamesItself tree path := by
  constructor
  · rintro h path rfl hwild
    generalize hpart : [some path] = part at h
    cases h with
    | literal hliteral => exact absurd hwild (by simp [hliteral])
    | kept _ hfound => exact .inl hfound
    | matched _ hfound _ =>
      have hself : [path] = _ := (List.map_inj_right fun _ _ => Option.some.inj).mp hpart
      exact .inr (hself ▸ hfound)
  · intro h
    cases entry with
    | none => exact .absent
    | some path =>
      cases hwild : hasWildcard path with
      | false => exact .literal hwild
      | true =>
        obtain hnone | hself := h path rfl hwild
        · exact .kept hwild hnone
        · exact .matched hwild hself (by simp)

theorem length_le_length_flatten {α β : Type} {xs : List α} {parts : List (List β)}
    (h : List.Forall₂ (fun _ part => part ≠ []) xs parts) :
    xs.length ≤ parts.flatten.length := by
  induction h with
  | nil => simp
  | cons hpart _ ih =>
    have hpos := List.length_pos_iff.mpr hpart
    simp only [List.length_cons, List.flatten_cons, List.length_append]
    omega

/-- Parts without an empty one that together are a list, one for each item, are its items. -/
theorem eq_map_singleton_of_flatten_eq {α : Type} {xs : List α} {parts : List (List α)}
    (h : List.Forall₂ (fun _ part => part ≠ []) xs parts) (hflatten : parts.flatten = xs) :
    parts = xs.map ([·]) := by
  induction h with
  | nil => rfl
  | @cons x part xs parts hpart hrest ih =>
    cases part with
    | nil => exact absurd rfl hpart
    | cons y more =>
      obtain ⟨rfl, hmore⟩ := List.cons.inj hflatten
      have hlength := length_le_length_flatten hrest
      have hempty : more = [] := by
        have htotal : more.length + parts.flatten.length = xs.length := by
          rw [← List.length_append]
          exact congrArg List.length hmore
        exact List.length_eq_zero_iff.mp (by omega)
      subst hempty
      rw [ih hmore]
      rfl

/-- The expansion of a listing is the listing itself if every entry becomes itself, and only
then. -/
theorem expandAll_eq_self_iff {r : List (Option String)} :
    expandAll tree r = .ok r ↔ ∀ path, some path ∈ r → NamesItself tree path := by
  rw [expandAll_eq_ok_iff]
  constructor
  · rintro ⟨parts, hparts, hflatten⟩ path hpath
    rw [eq_map_singleton_of_flatten_eq (hparts.imp fun _ _ h => h.ne_nil) hflatten,
      List.forall₂_map_right_iff, List.forall₂_same] at hparts
    exact spreads_self_iff.mp (hparts _ hpath) path rfl
  · intro h
    refine ⟨r.map ([·]), ?_, List.flatMap_singleton' r⟩
    rw [List.forall₂_map_right_iff, List.forall₂_same]
    intro entry hentry
    exact spreads_self_iff.mpr fun path hpath => h path (hpath ▸ hentry)

/-! ### Expanding again -/

/-- A pattern of the listing matches the path. -/
def Finds (tree : FileTree) (paths : List (Option String)) (path : String) : Prop :=
  ∃ pattern found, some pattern ∈ paths ∧ hasWildcard pattern = true ∧
    expand tree pattern = .ok found ∧ path ∈ found

/-- What stands in an expansion was found, or becomes itself. -/
theorem Spreads.finds_or_namesItself {entry : Option String} {part : List (Option String)}
    (h : Spreads tree entry part) {path : String} (hpath : some path ∈ part) :
    Finds tree [entry] path ∨ NamesItself tree path := by
  cases h with
  | absent => simp at hpath
  | literal hliteral =>
    obtain rfl : path = _ := by simpa using hpath
    exact .inr fun hwild => absurd hwild (by simp [hliteral])
  | kept _ hfound =>
    obtain rfl : path = _ := by simpa using hpath
    exact .inr fun _ => .inl hfound
  | matched hwild hfound _ =>
    exact .inl ⟨_, _, List.mem_singleton_self _, hwild, hfound, by simpa using hpath⟩

/-- Every path that a pattern matches stands in the expansion. -/
theorem Spreads.mem_of_finds {entry : Option String} {part : List (Option String)}
    (h : Spreads tree entry part) {path : String} (hpath : Finds tree [entry] path) :
    some path ∈ part := by
  obtain ⟨pattern, found, hentry, hwild, hfound, hmem⟩ := hpath
  obtain rfl := List.mem_singleton.mp hentry
  cases h with
  | literal hliteral => exact absurd hwild (by simp [hliteral])
  | kept _ hnone =>
    rw [hfound] at hnone
    cases hnone
    cases hmem
  | matched _ hfound' _ =>
    rw [hfound] at hfound'
    cases hfound'
    exact List.mem_map_of_mem hmem

theorem finds_cons_iff {entry : Option String} {rest : List (Option String)} {path : String} :
    Finds tree (entry :: rest) path ↔ Finds tree [entry] path ∨ Finds tree rest path := by
  simp only [Finds, List.mem_cons, List.not_mem_nil, or_false, or_and_right, exists_or]

/-- **An expansion is expanded to itself exactly if every path that was found names itself.** -/
theorem expandAll_again_iff {paths r : List (Option String)} (h : expandAll tree paths = .ok r) :
    expandAll tree r = .ok r ↔ ∀ path, Finds tree paths path → NamesItself tree path := by
  rw [expandAll_eq_self_iff]
  obtain ⟨parts, hparts, rfl⟩ := expandAll_eq_ok_iff.mp h
  clear h
  induction hparts with
  | nil => simp [Finds]
  | @cons entry part rest parts hpart _ ih =>
    have hentry : (∀ path, some path ∈ part → NamesItself tree path) ↔
        ∀ path, Finds tree [entry] path → NamesItself tree path :=
      ⟨fun h path hpath => h path (hpart.mem_of_finds hpath),
        fun h path hpath => (hpart.finds_or_namesItself hpath).elim (h path) id⟩
    have hfinds : ∀ path, Finds tree (entry :: rest) path ↔
        Finds tree [entry] path ∨ Finds tree rest path := fun _ => finds_cons_iff
    simp only [List.flatten_cons, List.mem_append, hfinds, or_imp, forall_and, ih, hentry]

end Runbook.Glob
