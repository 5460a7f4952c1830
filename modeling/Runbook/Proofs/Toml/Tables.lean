import Mathlib.Data.List.Nodup
import Runbook.Toml.Parser

/-!
# Tables that grow

While a document is read its tables grow, each at the path of a header or of a key. A change at a
path can be made in two steps (`change?_split`), a change below a path is a change at that path
(`change?_append`), and a table is opened where it would be changed (`open?_of_change?`).
-/

namespace Runbook.Toml.Table

/-! ### Entries -/

theorem setIn_of_not_mem {key : String} {e : Entry} {es : List (String × Entry)}
    (h : key ∉ es.map (·.1)) : setIn key e es = es ++ [(key, e)] := by
  induction es with
  | nil => rfl
  | cons f es ih =>
    rw [List.map_cons, List.mem_cons, not_or] at h
    rw [setIn, if_neg (Ne.symm h.1), ih h.2, List.cons_append]

theorem get?_eq_none_iff {t : Table} {key : String} :
    t.get? key = none ↔ key ∉ t.entries.map (·.1) := by
  simp [get?]
  grind

theorem setIn_setIn (key : String) (e f : Entry) (es : List (String × Entry)) :
    setIn key f (setIn key e es) = setIn key f es := by
  induction es with
  | nil => simp [setIn]
  | cons g es ih =>
    by_cases h : g.1 = key
    · simp [setIn, h]
    · simp [setIn, h, ih]

theorem set_set (t : Table) (key : String) (e f : Entry) :
    (t.set key e).set key f = t.set key f := by
  rw [set, set, set, setIn_setIn]

theorem get?_set (t : Table) (key : String) (e : Entry) : (t.set key e).get? key = some e := by
  obtain ⟨origin, es⟩ := t
  rw [get?, set]
  induction es with
  | nil => simp [setIn]
  | cons f es ih =>
    by_cases h : f.1 = key
    · simp [setIn, h]
    · simpa [setIn, h] using ih

/-- A new key stands at the end. -/
theorem set_of_get?_eq_none {t : Table} {key : String} (h : t.get? key = none) (e : Entry) :
    t.set key e = ⟨t.origin, t.entries ++ [(key, e)]⟩ := by
  rw [set, setIn_of_not_mem (get?_eq_none_iff.mp h)]

/-! ### Changes at a path -/

/-- The table that a key leads to on the way to a header, and what the key leads to once that table
has been changed. -/
def focus? (t : Table) (key : String) : Option (Table × (Table → Entry)) :=
  match t.get? key with
  | none => some (new .passage, fun u => .table u.origin u.entries)
  | some (.table origin entries) => some (⟨origin, entries⟩, fun u => .table u.origin u.entries)
  | some (.tables (row :: rows)) => some (⟨.header, row⟩, fun u => .tables (u.entries :: rows))
  | some (.tables []) | some (.value _) => none

/-- The table that an entry is on the way to a header. -/
def inside? : Entry → Option Table
  | .table origin entries => some ⟨origin, entries⟩
  | .tables (row :: _) => some ⟨.header, row⟩
  | .tables [] | .value _ => none

theorem change?_cons (f : Table → Option Table) (key : String) (path : List String) (t : Table) :
    change? .passage f (key :: path) t = (t.focus? key).bind fun (u, put) =>
      (change? .passage f path u).map fun u' => t.set key (put u') := by
  rw [change?, focus?]
  rcases t.get? key with _ | (_ | ⟨origin, entries⟩ | (_ | ⟨row, rows⟩)) <;> simp

/-- A changed table is found where it was put. -/
theorem inside?_of_focus? {t u u' : Table} {key : String} {put : Table → Entry}
    (h : t.focus? key = some (u, put)) (horigin : u'.origin = u.origin) :
    inside? (put u') = some u' := by
  rw [focus?] at h
  split at h
  · cases h; rfl
  · cases h; rfl
  · cases h
    obtain ⟨origin, entries⟩ := u'
    cases horigin
    rfl
  · cases h
  · cases h

/-- A key leads to the table that was put under it, to be put back in the same way. -/
theorem focus?_set {t u u' : Table} {key : String} {put : Table → Entry}
    (h : t.focus? key = some (u, put)) (horigin : u'.origin = u.origin) :
    (t.set key (put u')).focus? key = some (u', put) := by
  have hget := get?_set t key (put u')
  rw [focus?] at h
  split at h
  · cases h; rw [focus?, hget]
  · cases h; rw [focus?, hget]
  · cases h
    obtain ⟨origin, entries⟩ := u'
    cases horigin
    rw [focus?, hget]
  · cases h
  · cases h

/-- A change at a path succeeds if the table there can be found and changed. -/
theorem change?_cons_eq_some_iff {f : Table → Option Table} {key : String} {path : List String}
    {t t' : Table} : change? .passage f (key :: path) t = some t' ↔ ∃ u put u',
      t.focus? key = some (u, put) ∧ change? .passage f path u = some u' ∧
        t.set key (put u') = t' := by
  rw [change?_cons]
  simp only [Option.bind_eq_some_iff, Option.map_eq_some_iff, Prod.exists]
  grind

theorem origin_change? {f : Table → Option Table}
    (hf : ∀ u u', f u = some u' → u'.origin = u.origin) {path : List String} {t t' : Table}
    (h : change? .passage f path t = some t') : t'.origin = t.origin := by
  cases path with
  | nil => exact hf t t' h
  | cons key path =>
    obtain ⟨u, put, u', -, -, rfl⟩ := change?_cons_eq_some_iff.mp h
    rfl

/-- A change in two steps is made at a path in two steps. -/
theorem change?_split {f g h : Table → Option Table}
    (hf : ∀ u u', f u = some u' → ∃ v, g u = some v ∧ v.origin = u.origin ∧ h v = some u')
    {path : List String} {t t' : Table} (ht : change? .passage f path t = some t') :
    ∃ s, change? .passage g path t = some s ∧ s.origin = t.origin ∧
      change? .passage h path s = some t' := by
  induction path generalizing t t' with
  | nil => exact hf t t' ht
  | cons key path ih =>
    obtain ⟨u, put, u', hfocus, hu, rfl⟩ := change?_cons_eq_some_iff.mp ht
    obtain ⟨v, hgv, horigin, hhv⟩ := ih hu
    refine ⟨t.set key (put v), change?_cons_eq_some_iff.mpr ⟨u, put, v, hfocus, hgv, rfl⟩, rfl, ?_⟩
    exact change?_cons_eq_some_iff.mpr ⟨v, put, u', focus?_set hfocus horigin, hhv, set_set _ _ _ _⟩

theorem change?_imp {f g : Table → Option Table} (h : ∀ u u', f u = some u' → g u = some u')
    {path : List String} {t t' : Table} (ht : change? .passage f path t = some t') :
    change? .passage g path t = some t' := by
  induction path generalizing t t' with
  | nil => exact h t t' ht
  | cons key path ih =>
    obtain ⟨u, put, u', hfocus, hu, rfl⟩ := change?_cons_eq_some_iff.mp ht
    exact change?_cons_eq_some_iff.mpr ⟨u, put, u', hfocus, ih hu, rfl⟩

/-- A change below a path is a change of the table at the path. -/
theorem change?_append (f : Table → Option Table) (path path' : List String) (t : Table) :
    change? .passage f (path ++ path') t =
      change? .passage (change? .passage f path') path t := by
  induction path generalizing t with
  | nil => rfl
  | cons key path ih => simp only [List.cons_append, change?_cons, ih]

/-- Where a change can be made at a path, the table there can be opened. -/
theorem open?_of_change? {f : Table → Option Table} {path : List String} {t t' : Table}
    (h : change? .passage f path t = some t') (key : String) :
    ∃ u u' s, f u = some u' ∧ change? .passage some path t = some s ∧
      t.open? path key = some (u.get? key, s) := by
  -- the table at the end of the path is the one that the search in `open?` arrives at
  have hgo : ∀ {path : List String} {t t' : Table}, change? .passage f path t = some t' →
      ∃ u u' s, f u = some u' ∧ change? .passage some path t = some s ∧
        path.foldl (fun (u : Option Table) k => u.bind fun u => (u.get? k).bind inside?) (some s) =
          some u := by
    intro path
    induction path with
    | nil => exact fun {t t'} h => ⟨t, t', t, h, rfl, rfl⟩
    | cons key path ih =>
      intro t t' h
      obtain ⟨v, put, v', hfocus, hv, -⟩ := change?_cons_eq_some_iff.mp h
      obtain ⟨u, u', s, hu, hs, hfold⟩ := ih hv
      have horigin : s.origin = v.origin := origin_change? (fun _ _ h => by cases h; rfl) hs
      refine ⟨u, u', t.set key (put s), hu,
        change?_cons_eq_some_iff.mpr ⟨v, put, s, hfocus, hs, rfl⟩, ?_⟩
      rw [List.foldl_cons, Option.bind_some, get?_set, Option.bind_some,
        inside?_of_focus? hfocus horigin, hfold]
  obtain ⟨u, u', s, hu, hs, hfold⟩ := hgo h
  refine ⟨u, u', s, hu, hs, ?_⟩
  rw [open?, hs]
  refine congrArg (fun found : Option Table => some (found.bind (·.get? key), s))
    (Eq.trans ?_ hfold)
  congr 1
  funext v k
  cases v with
  | none => rfl
  | some v =>
    rw [Option.bind_some, Option.bind_some]
    rcases v.get? k with _ | (_ | ⟨origin, entries⟩ | (_ | ⟨row, rows⟩)) <;> rfl

/-! ### Adding entries and rows -/

/-- Adds entries under names that are all new. -/
def append? (es : List (String × Entry)) (t : Table) : Option Table :=
  if (es.map (·.1)).Nodup ∧ ∀ e ∈ es, t.get? e.1 = none then some ⟨t.origin, t.entries ++ es⟩
  else none

/-- Adds a row to the tables under a key, which may have none yet. -/
def pushRow? (key : String) (row : List (String × Entry)) (t : Table) : Option Table :=
  match t.get? key with
  | none => some (t.set key (.tables [row]))
  | some (.tables rows) => some (t.set key (.tables (row :: rows)))
  | some _ => none

/-- Adds rows one after the other. -/
def pushRows? (key : String) : List (List (String × Entry)) → Table → Option Table
  | [], t => some t
  | row :: rows, t => (pushRow? key row t).bind (pushRows? key rows)

theorem append?_eq_some_iff {es : List (String × Entry)} {t t' : Table} :
    append? es t = some t' ↔ ((es.map (·.1)).Nodup ∧ ∀ e ∈ es, t.get? e.1 = none) ∧
      ⟨t.origin, t.entries ++ es⟩ = t' := by
  rw [append?]
  split
  · next h => exact ⟨fun heq => ⟨h, Option.some.inj heq⟩, fun heq => congrArg some heq.2⟩
  · next h => exact ⟨fun heq => (by cases heq), fun heq => absurd heq.1 h⟩

theorem append?_singleton_eq_some_iff {key : String} {e : Entry} {t t' : Table} :
    append? [(key, e)] t = some t' ↔ t.get? key = none ∧ t.set key e = t' := by
  rw [append?_eq_some_iff]
  constructor
  · rintro ⟨⟨-, hnew⟩, rfl⟩
    have hkey := hnew _ List.mem_cons_self
    exact ⟨hkey, set_of_get?_eq_none hkey e⟩
  · rintro ⟨hkey, rfl⟩
    exact ⟨⟨by simp, by simpa using hkey⟩, (set_of_get?_eq_none hkey e).symm⟩

/-- To add entries and then others is to add them together. -/
theorem append?_split {es fs : List (String × Entry)} {t t' : Table}
    (h : append? (es ++ fs) t = some t') :
    ∃ s, append? es t = some s ∧ s.origin = t.origin ∧ append? fs s = some t' := by
  obtain ⟨⟨hnodup, hnew⟩, rfl⟩ := append?_eq_some_iff.mp h
  rw [List.map_append, List.nodup_append] at hnodup
  obtain ⟨hes, hfs, hdisjoint⟩ := hnodup
  refine ⟨⟨t.origin, t.entries ++ es⟩, append?_eq_some_iff.mpr ⟨⟨hes, fun e he =>
    hnew e (List.mem_append_left fs he)⟩, rfl⟩, rfl, append?_eq_some_iff.mpr ⟨⟨hfs, ?_⟩, by simp⟩⟩
  intro e he
  have hold := get?_eq_none_iff.mp (hnew e (List.mem_append_right es he))
  rw [get?_eq_none_iff, List.map_append, List.mem_append, not_or]
  exact ⟨hold, fun hmem => hdisjoint _ hmem _ (List.mem_map_of_mem he) rfl⟩

/-- Entries are added to a table that has others, if no name is there twice. -/
theorem append?_entries {origin : Origin} {es fs : List (String × Entry)}
    (h : ((es ++ fs).map (·.1)).Nodup) :
    append? fs ⟨origin, es⟩ = some ⟨origin, es ++ fs⟩ := by
  rw [List.map_append, List.nodup_append] at h
  refine append?_eq_some_iff.mpr ⟨⟨h.2.1, fun e he => get?_eq_none_iff.mpr fun hmem => ?_⟩, rfl⟩
  exact h.2.2 _ hmem _ (List.mem_map_of_mem he) rfl

/-- To add a table is to add it with some of its entries, and then the others to it. -/
theorem append?_table_split {key : String} {origin : Origin} {es fs : List (String × Entry)}
    (hnodup : ((es ++ fs).map (·.1)).Nodup) {t t' : Table}
    (h : append? [(key, .table origin (es ++ fs))] t = some t') :
    ∃ s, append? [(key, .table origin es)] t = some s ∧ s.origin = t.origin ∧
      change? .passage (append? fs) [key] s = some t' := by
  obtain ⟨hkey, rfl⟩ := append?_singleton_eq_some_iff.mp h
  refine ⟨t.set key (.table origin es), append?_singleton_eq_some_iff.mpr ⟨hkey, rfl⟩, rfl, ?_⟩
  have hfocus : (t.set key (.table origin es)).focus? key =
      some (⟨origin, es⟩, fun u => .table u.origin u.entries) := by rw [focus?, get?_set]
  exact change?_cons_eq_some_iff.mpr ⟨_, _, _, hfocus, append?_entries hnodup, set_set _ _ _ _⟩

/-- A table that stands on the way to others is added with the entries that are added to it. -/
theorem append?_passage {key : String} {es : List (String × Entry)}
    (hnodup : (es.map (·.1)).Nodup) {t t' : Table}
    (h : append? [(key, .table .passage es)] t = some t') :
    change? .passage (append? es) [key] t = some t' := by
  obtain ⟨hkey, rfl⟩ := append?_singleton_eq_some_iff.mp h
  have hfocus : t.focus? key = some (new .passage, fun u => .table u.origin u.entries) := by
    rw [focus?, hkey]
  have hnew : append? es (new .passage) = some ⟨.passage, es⟩ := append?_entries hnodup
  exact change?_cons_eq_some_iff.mpr ⟨_, _, _, hfocus, hnew, rfl⟩

/-- To add a row is to add it with some of its entries, and then the others to it. -/
theorem pushRow?_split {key : String} {es fs : List (String × Entry)}
    (hnodup : ((es ++ fs).map (·.1)).Nodup) {t t' : Table}
    (h : pushRow? key (es ++ fs) t = some t') :
    ∃ s, pushRow? key es t = some s ∧ s.origin = t.origin ∧
      change? .passage (append? fs) [key] s = some t' := by
  have hput : ∀ rows, t.set key (.tables ((es ++ fs) :: rows)) = t' →
      change? .passage (append? fs) [key] (t.set key (.tables (es :: rows))) = some t' := by
    rintro rows rfl
    have hfocus : (t.set key (.tables (es :: rows))).focus? key =
        some (⟨.header, es⟩, fun u => .tables (u.entries :: rows)) := by rw [focus?, get?_set]
    exact change?_cons_eq_some_iff.mpr ⟨_, _, _, hfocus, append?_entries hnodup, set_set _ _ _ _⟩
  rw [pushRow?] at h ⊢
  split at h
  · exact ⟨_, rfl, rfl, hput [] (Option.some.inj h)⟩
  · next rows _ => exact ⟨_, rfl, rfl, hput rows (Option.some.inj h)⟩
  · cases h

theorem origin_pushRow? {key : String} {row : List (String × Entry)} {t t' : Table}
    (h : pushRow? key row t = some t') : t'.origin = t.origin := by
  rw [pushRow?] at h
  split at h <;> cases h <;> rfl

/-- Rows are added one after the other to the rows that are there. -/
theorem pushRows?_set {key : String} (rows others : List (List (String × Entry))) (t : Table) :
    pushRows? key rows (t.set key (.tables others)) =
      some (t.set key (.tables (rows.reverse ++ others))) := by
  induction rows generalizing others with
  | nil => rfl
  | cons row rows ih =>
    rw [pushRows?, pushRow?, get?_set]
    simp only [Option.bind_some, set_set, ih, List.reverse_cons, List.append_assoc,
      List.singleton_append]

/-- To add a list of tables is to add its rows one after the other. -/
theorem pushRows?_of_append? {key : String} {rows : List (List (String × Entry))} (hne : rows ≠ [])
    {t t' : Table} (h : append? [(key, .tables rows.reverse)] t = some t') :
    pushRows? key rows t = some t' := by
  obtain ⟨hkey, rfl⟩ := append?_singleton_eq_some_iff.mp h
  obtain ⟨row, rows, rfl⟩ := List.exists_cons_of_ne_nil hne
  rw [pushRows?, pushRow?, hkey, Option.bind_some, pushRows?_set, List.reverse_cons]

end Runbook.Toml.Table
