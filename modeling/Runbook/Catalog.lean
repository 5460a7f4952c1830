/-!
# Catalogs

A catalog holds one thing for each name, in ascending order of the names. Because the order is
part of the type, two catalogs with the same things under the same names are the same catalog
(`Catalog.ext_find?`), however they came about.
-/

namespace Runbook

/-- Things by name, names ascending. -/
structure Catalog (α : Type) where
  entries : List (String × α)
  ascending : entries.Pairwise (·.1 < ·.1)
deriving DecidableEq

namespace Catalog

variable {α β : Type}

/-- The catalog without names. -/
def empty : Catalog α := ⟨[], .nil⟩

instance : Inhabited (Catalog α) := ⟨empty⟩

/-- The names, ascending. -/
def names (c : Catalog α) : List String := c.entries.map (·.1)

/-- The number of names. -/
def size (c : Catalog α) : Nat := c.entries.length

/-- Looks a name up in a list of entries. -/
def lookup? (name : String) (entries : List (String × α)) : Option α :=
  (entries.find? (·.1 == name)).map (·.2)

/-- The thing under a name. -/
def find? (c : Catalog α) (name : String) : Option α := lookup? name c.entries

/-- The name is taken. -/
def contains (c : Catalog α) (name : String) : Bool := (c.find? name).isSome

/-- Puts an entry in its place, over an older one of the same name. -/
def insertEntry (name : String) (a : α) : List (String × α) → List (String × α)
  | [] => [(name, a)]
  | e :: rest =>
    if name < e.1 then (name, a) :: e :: rest
    else if e.1 < name then e :: insertEntry name a rest
    else (name, a) :: rest

/-- What stands in the list after an insertion was there before or is the new entry. -/
theorem mem_insertEntry {name : String} {a : α} {es : List (String × α)} {x : String × α}
    (h : x ∈ insertEntry name a es) : x = (name, a) ∨ x ∈ es := by
  induction es with
  | nil => simpa [insertEntry] using h
  | cons e rest ih =>
    unfold insertEntry at h
    split at h
    · simpa using h
    · split at h
      · rcases List.mem_cons.1 h with rfl | h
        · exact .inr (by simp)
        · exact (ih h).imp id (List.mem_cons_of_mem _)
      · rcases List.mem_cons.1 h with rfl | h
        · exact .inl rfl
        · exact .inr (List.mem_cons_of_mem _ h)

/-- Neither below nor above another name, a name is that name. -/
theorem eq_of_not_lt {a b : String} (h : ¬a < b) (k : ¬b < a) : a = b :=
  String.le_antisymm (String.not_lt.1 k) (String.not_lt.1 h)

/-- Insertion keeps the names ascending. -/
theorem pairwise_insertEntry (name : String) (a : α) {es : List (String × α)}
    (h : es.Pairwise (·.1 < ·.1)) : (insertEntry name a es).Pairwise (·.1 < ·.1) := by
  induction es with
  | nil => simp [insertEntry]
  | cons e rest ih =>
    have hr := List.pairwise_cons.1 h
    unfold insertEntry
    split
    · rename_i lt
      refine List.pairwise_cons.2 ⟨fun x hx => ?_, h⟩
      rcases List.mem_cons.1 hx with rfl | hx
      · exact lt
      · exact String.lt_trans lt (hr.1 x hx)
    · split
      · rename_i gt
        refine List.pairwise_cons.2 ⟨fun x hx => ?_, ih hr.2⟩
        rcases mem_insertEntry hx with rfl | hx
        · exact gt
        · exact hr.1 x hx
      · rename_i nlt ngt
        have : name = e.1 := eq_of_not_lt nlt ngt
        exact List.pairwise_cons.2 ⟨fun x hx => this ▸ hr.1 x hx, hr.2⟩

/-- Sets the thing under a name. -/
def insert (c : Catalog α) (name : String) (a : α) : Catalog α :=
  ⟨insertEntry name a c.entries, pairwise_insertEntry name a c.ascending⟩

/-- Sets all entries in order, so that the last one of a name stays. -/
def insertAll (c : Catalog α) (entries : List (String × α)) : Catalog α :=
  entries.foldl (fun acc e => acc.insert e.1 e.2) c

/-- The catalog of the entries; the last one of a name stays. -/
def ofList (entries : List (String × α)) : Catalog α := empty.insertAll entries

/-- The same names with other things. -/
def map (f : α → β) (c : Catalog α) : Catalog β :=
  ⟨c.entries.map fun e => (e.1, f e.2), by
    have := c.ascending
    rw [List.pairwise_map]
    exact this⟩

/-- An entry that was set is found under its name. -/
theorem lookup?_insertEntry (name : String) (a : α) (es : List (String × α)) (n : String)
    (h : es.Pairwise (·.1 < ·.1)) :
    lookup? n (insertEntry name a es) = if name = n then some a else lookup? n es := by
  induction es with
  | nil => by_cases k : name = n <;> simp [insertEntry, lookup?, k]
  | cons e rest ih =>
    have hr := List.pairwise_cons.1 h
    unfold insertEntry
    split
    · by_cases k : name = n <;> simp [lookup?, k]
    · split
      · rename_i gt
        have ih := ih hr.2
        by_cases k : e.1 = n
        · have ne : name ≠ n := by
            rintro rfl
            exact String.lt_irrefl _ (k ▸ gt)
          simp [lookup?, k, ne]
        · simpa [lookup?, k] using ih
      · rename_i nlt ngt
        have eq : name = e.1 := eq_of_not_lt nlt ngt
        by_cases k : name = n
        · simp [lookup?, k]
        · have : e.1 ≠ n := fun h => k (eq.trans h)
          simp [lookup?, k, this]

/-- After `insert` the name leads to the new thing, and all other names to what they led to. -/
@[simp] theorem find?_insert (c : Catalog α) (name : String) (a : α) (n : String) :
    (c.insert name a).find? n = if name = n then some a else c.find? n :=
  lookup?_insertEntry name a c.entries n c.ascending

/-- Without names, nothing is found. -/
@[simp] theorem find?_empty (n : String) : (empty : Catalog α).find? n = none := rfl

/-- A name is looked up in the first list, and in the second if it is not there. -/
theorem lookup?_append (n : String) (es fs : List (String × α)) :
    lookup? n (es ++ fs) = (lookup? n es).or (lookup? n fs) := by
  rw [lookup?, List.find?_append, Option.map_or]
  rfl

/-- Something is found exactly under the names of the entries. -/
theorem isSome_lookup?_iff {n : String} {es : List (String × α)} :
    (lookup? n es).isSome = true ↔ n ∈ es.map (·.1) := by
  simp only [lookup?, Option.isSome_map, List.find?_isSome, List.mem_map, beq_iff_eq]

/-- A name that no entry has is not found. -/
theorem lookup?_eq_none_iff {n : String} {es : List (String × α)} :
    lookup? n es = none ↔ n ∉ es.map (·.1) := by
  rw [← isSome_lookup?_iff, ← Option.isNone_iff_eq_none, ← Option.not_isSome, Bool.not_eq_true',
    Bool.not_eq_true]

/-- After entries are set, a name leads to the last of them that has it, and if there is none to
what it led to. -/
theorem find?_insertAll (c : Catalog α) (entries : List (String × α)) (n : String) :
    (c.insertAll entries).find? n = (lookup? n entries.reverse).or (c.find? n) := by
  induction entries generalizing c with
  | nil => rfl
  | cons e rest ih =>
    have hstep : c.insertAll (e :: rest) = (c.insert e.1 e.2).insertAll rest := rfl
    have hsingle : lookup? n [e] = if e.1 = n then some e.2 else none := by
      by_cases h : e.1 = n <;> simp [lookup?, h]
    rw [hstep, ih, find?_insert, List.reverse_cons, lookup?_append, Option.or_assoc, hsingle]
    by_cases h : e.1 = n <;> simp [h]

/-- Entries of other names change nothing. -/
theorem find?_insertAll_of_not_mem {entries : List (String × α)} {n : String}
    (hn : n ∉ entries.map (·.1)) (c : Catalog α) : (c.insertAll entries).find? n = c.find? n := by
  have hnone : lookup? n entries.reverse = none := lookup?_eq_none_iff.2 (by simpa using hn)
  rw [find?_insertAll, hnone, Option.none_or]

/-- Entries are set one list after the other. -/
theorem insertAll_append (c : Catalog α) (es fs : List (String × α)) :
    c.insertAll (es ++ fs) = (c.insertAll es).insertAll fs :=
  List.foldl_append

/-- After entries with different names are set, each of them is found under its name. -/
theorem find?_insertAll_of_mem {entries : List (String × α)}
    (hnodup : (entries.map (·.1)).Nodup) {e : String × α} (he : e ∈ entries) (c : Catalog α) :
    (c.insertAll entries).find? e.1 = some e.2 := by
  induction entries generalizing c with
  | nil => cases he
  | cons f rest ih =>
    rw [List.map_cons, List.nodup_cons] at hnodup
    have hstep : c.insertAll (f :: rest) = (c.insert f.1 f.2).insertAll rest := rfl
    rw [hstep]
    rcases List.mem_cons.mp he with rfl | hrest
    · rw [find?_insertAll_of_not_mem hnodup.1, find?_insert, if_pos rfl]
    · exact ih hnodup.2 hrest _

/-- In a catalog of entries with different names, each entry is found under its name. -/
theorem find?_ofList {entries : List (String × α)}
    (hnodup : (entries.map (·.1)).Nodup) {e : String × α} (he : e ∈ entries) :
    (ofList entries).find? e.1 = some e.2 :=
  find?_insertAll_of_mem hnodup he empty

/-- The names of a catalog ascend. -/
theorem pairwise_names (c : Catalog α) : c.names.Pairwise (· < ·) := by
  rw [names, List.pairwise_map]
  exact c.ascending

/-- The names of a catalog are all different. -/
theorem nodup_names (c : Catalog α) : c.names.Nodup :=
  c.pairwise_names.imp fun h => String.ne_of_lt h

/-- Something is found exactly under the names of the catalog. -/
theorem mem_names_iff {c : Catalog α} {n : String} : n ∈ c.names ↔ (c.find? n).isSome = true :=
  isSome_lookup?_iff.symm

/-- A name under which something is found is a name of the catalog. -/
theorem mem_names_of_find? {c : Catalog α} {n : String} {a : α} (h : c.find? n = some a) :
    n ∈ c.names :=
  mem_names_iff.2 (Option.isSome_of_eq_some h)

/-- Nothing is found under other names. -/
theorem find?_eq_none_iff {c : Catalog α} {n : String} : c.find? n = none ↔ n ∉ c.names :=
  lookup?_eq_none_iff

/-- The names of a catalog are those that are taken. -/
theorem contains_iff {c : Catalog α} {n : String} : c.contains n = true ↔ n ∈ c.names :=
  mem_names_iff.symm

/-- The names after entries are set are those of the entries and those from before. -/
theorem mem_names_insertAll {c : Catalog α} {entries : List (String × α)} {n : String} :
    n ∈ (c.insertAll entries).names ↔ n ∈ entries.map (·.1) ∨ n ∈ c.names := by
  rw [mem_names_iff, find?_insertAll, Option.isSome_or, Bool.or_eq_true, ← mem_names_iff,
    isSome_lookup?_iff, List.map_reverse, List.mem_reverse]

/-- Other things keep the names. -/
@[simp] theorem names_map (f : α → β) (c : Catalog α) : (c.map f).names = c.names := by
  simp [names, map]

/-- The same things under the names are the same catalog. -/
@[simp] theorem map_id (c : Catalog α) : c.map id = c := by
  obtain ⟨entries, ascending⟩ := c
  simp [map]

/-- In entries with other things, a name leads to what was made of the thing that it led to. -/
theorem lookup?_map (f : α → β) (es : List (String × α)) (n : String) :
    lookup? n (es.map fun e => (e.1, f e.2)) = (lookup? n es).map f := by
  simp only [lookup?, List.find?_map, Option.map_map]
  rfl

/-- Under a name stands what was made of the thing that stood there. -/
theorem find?_map (f : α → β) (c : Catalog α) (name : String) :
    (c.map f).find? name = (c.find? name).map f :=
  lookup?_map f c.entries name

/-- A name behind all others is put at the end. -/
theorem insertEntry_of_forall_lt {name : String} {a : α} {es : List (String × α)}
    (h : ∀ e ∈ es, e.1 < name) : insertEntry name a es = es ++ [(name, a)] := by
  induction es with
  | nil => rfl
  | cons e rest ih =>
    have hlt : e.1 < name := h e List.mem_cons_self
    rw [insertEntry, if_neg (String.lt_asymm hlt), if_pos hlt,
      ih fun x hx => h x (List.mem_cons_of_mem e hx)]
    rfl

/-- Entries whose names ascend further are put behind the others. -/
theorem entries_insertAll {c : Catalog α} {entries : List (String × α)}
    (h : (c.entries ++ entries).Pairwise (·.1 < ·.1)) :
    (c.insertAll entries).entries = c.entries ++ entries := by
  induction entries generalizing c with
  | nil => simp [insertAll]
  | cons e rest ih =>
    have hlt : ∀ x ∈ c.entries, x.1 < e.1 := fun x hx =>
      (List.pairwise_append.1 h).2.2 x hx e List.mem_cons_self
    have hinsert : (c.insert e.1 e.2).entries = c.entries ++ [e] := insertEntry_of_forall_lt hlt
    have hstep : c.insertAll (e :: rest) = (c.insert e.1 e.2).insertAll rest := rfl
    rw [hstep, ih (by simpa [hinsert] using h), hinsert, List.append_assoc]
    rfl

/-- A catalog of entries in ascending order holds these entries. -/
theorem entries_ofList {entries : List (String × α)} (h : entries.Pairwise (·.1 < ·.1)) :
    (ofList entries).entries = entries :=
  entries_insertAll (c := empty) h

/-- A catalog is the catalog of its entries. -/
theorem ofList_entries (c : Catalog α) : ofList c.entries = c := by
  have h := entries_ofList c.ascending
  obtain ⟨entries, ascending⟩ := c
  generalize ofList entries = d at h
  obtain ⟨_, _⟩ := d
  cases h
  rfl

/-- The last entry of a name in a catalog is the only one. -/
theorem lookup?_reverse_entries (c : Catalog α) (n : String) :
    lookup? n c.entries.reverse = c.find? n := by
  have h := find?_insertAll empty c.entries n
  rw [find?_empty, Option.or_none] at h
  rw [← h]
  exact congrArg (find? · n) c.ofList_entries

/-- Nothing is found below the first name. -/
theorem lookup?_eq_none {n : String} {es : List (String × α)} (h : ∀ e ∈ es, n < e.1) :
    lookup? n es = none := by
  rw [lookup?_eq_none_iff, List.mem_map]
  rintro ⟨e, he, rfl⟩
  exact String.lt_irrefl _ (h e he)

/-- Ascending lists in which every name leads to the same thing are equal. -/
theorem entries_ext : {es fs : List (String × α)} → es.Pairwise (·.1 < ·.1) →
    fs.Pairwise (·.1 < ·.1) → (∀ n, lookup? n es = lookup? n fs) → es = fs
  | [], [], _, _, _ => rfl
  | [], f :: fs, _, _, h => by simpa [lookup?] using h f.1
  | e :: es, [], _, _, h => by simpa [lookup?] using h e.1
  | e :: es, f :: fs, he, hf, h => by
    have pe := List.pairwise_cons.1 he
    have pf := List.pairwise_cons.1 hf
    have le : ∀ {x y : String × α} {xs ys : List (String × α)}, (∀ z ∈ xs, x.1 < z.1) →
        lookup? y.1 (x :: xs) = lookup? y.1 (y :: ys) → ¬y.1 < x.1 := by
      intro x y xs ys px k lt
      have : lookup? y.1 (x :: xs) = none := lookup?_eq_none fun z hz => by
        rcases List.mem_cons.1 hz with rfl | hz
        · exact lt
        · exact String.lt_trans lt (px z hz)
      rw [this] at k
      simp [lookup?] at k
    have name : e.1 = f.1 := eq_of_not_lt (le pf.1 (h e.1).symm) (le pe.1 (h f.1))
    have thing : e.2 = f.2 := by simpa [lookup?, name] using h e.1
    have rest : ∀ n, lookup? n es = lookup? n fs := by
      intro n
      by_cases k : e.1 = n
      · rw [lookup?_eq_none fun x hx => k ▸ pe.1 x hx,
          lookup?_eq_none fun x hx => k ▸ name ▸ pf.1 x hx]
      · have k' : f.1 ≠ n := name ▸ k
        simpa [lookup?, k, k'] using h n
    rw [entries_ext pe.2 pf.2 rest, Prod.ext name thing]

/-- An entry of a catalog of entries is one of them. -/
theorem mem_of_mem_entries_ofList {entries : List (String × α)} {e : String × α}
    (h : e ∈ (ofList entries).entries) : e ∈ entries := by
  have hgo : ∀ (c : Catalog α), e ∈ (c.insertAll entries).entries →
      e ∈ c.entries ∨ e ∈ entries := by
    clear h
    induction entries with
    | nil => exact fun c h => .inl h
    | cons f rest ih =>
      intro c h
      obtain h | h := ih (c.insert f.1 f.2) h
      · exact (mem_insertEntry h).elim (fun h => .inr (h ▸ List.mem_cons_self)) .inl
      · exact .inr (List.mem_cons_of_mem f h)
  exact (hgo empty h).resolve_left List.not_mem_nil

/-- Catalogs with the same things under the same names are equal. -/
theorem ext_find? {c d : Catalog α} (h : ∀ n, c.find? n = d.find? n) : c = d := by
  obtain ⟨es, he⟩ := c
  obtain ⟨fs, hf⟩ := d
  have : es = fs := entries_ext he hf h
  subst this
  rfl

/-- The catalog of the entries of a catalog, in any order, is that catalog. -/
theorem ofList_of_perm {entries : List (String × α)} {c : Catalog α}
    (h : entries.Perm c.entries) : ofList entries = c := by
  have hnames : (entries.map (·.1)).Perm c.names := h.map (·.1)
  have hnodup : (entries.map (·.1)).Nodup := hnames.nodup_iff.mpr c.nodup_names
  rw [← ofList_entries c]
  refine ext_find? fun n => ?_
  by_cases hn : n ∈ entries.map (·.1)
  · obtain ⟨e, he, rfl⟩ := List.mem_map.mp hn
    rw [find?_ofList hnodup he, find?_ofList c.nodup_names (h.mem_iff.mp he)]
  · have hn' : n ∉ c.entries.map (·.1) := fun hmem => hn (hnames.mem_iff.mpr hmem)
    rw [ofList, ofList, find?_insertAll_of_not_mem hn, find?_insertAll_of_not_mem hn']

end Catalog

end Runbook
