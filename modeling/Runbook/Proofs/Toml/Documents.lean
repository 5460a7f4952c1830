import Runbook.Proofs.Outcome
import Runbook.Proofs.Toml.Arrangement
import Runbook.Proofs.Toml.Lines

/-!
# TOML documents written and read again

A document is written as blocks: the body of the document and a block for each header. `Leads bs f`
says that reading the blocks `bs` changes the document as `f` does. Each value with headers adds
its entry (`Tabular.leadsTo`), so the document is read as the value that was written, in the order
of the document (`parse?_print?`). No line may be nested deeper than the reader goes.
-/

namespace Runbook.Toml

/-! ### What a value with headers is read as -/

/-- How the table of an object comes to be: its own header is left out if it has plain members none,
but others that make it. -/
def originOf (ms : List (String × Json)) : Origin :=
  if (ms.filter (isPlain ·.2)).isEmpty && ms.any (!isPlain ·.2) then .passage else .header

mutual

/-- The entry of a value that is not plain. -/
def entryOf : Json → Entry
  | .obj ms => .table (originOf ms) (valueEntries (ms.filter (isPlain ·.2)) ++ tableEntries ms)
  | .arr js => .tables (rowEntries js).reverse
  | j => .value j
termination_by structural j => j

/-- The entries of each row of a list. -/
def rowEntries : List Json → List (List (String × Entry))
  | [] => []
  | .obj ms :: js => (valueEntries (ms.filter (isPlain ·.2)) ++ tableEntries ms) :: rowEntries js
  | _ :: js => rowEntries js
termination_by structural js => js

/-- The entries of the members that are not plain. -/
def tableEntries : List (String × Json) → List (String × Entry)
  | [] => []
  | (key, j) :: ms =>
    if isPlain j then tableEntries ms else (key, entryOf j) :: tableEntries ms
termination_by structural ms => ms

end

/-- The entries of the members of a table. -/
def entriesOf (ms : List (String × Json)) : List (String × Entry) :=
  valueEntries (ms.filter (isPlain ·.2)) ++ tableEntries ms

theorem tableEntries_eq (ms : List (String × Json)) :
    tableEntries ms = (ms.filter (!isPlain ·.2)).map fun m => (m.1, entryOf m.2) := by
  induction ms with
  | nil => rfl
  | cons m ms ih =>
    rw [tableEntries, ih, List.filter_cons]
    cases isPlain m.2 <;> rfl

theorem rowEntries_cons (ms : List (String × Json)) (js : List Json) :
    rowEntries (.obj ms :: js) = entriesOf ms :: rowEntries js :=
  rfl

theorem valuesOf_append (es fs : List (String × Entry)) :
    Table.valuesOf (es ++ fs) = Table.valuesOf es ++ Table.valuesOf fs := by
  induction es with
  | nil => rfl
  | cons e es ih => rw [List.cons_append, Table.valuesOf, Table.valuesOf, ih, List.cons_append]

theorem rowsOf_eq (rows : List (List (String × Entry))) :
    Table.rowsOf rows = rows.map fun row => .obj (Table.valuesOf row) := by
  induction rows with
  | nil => rfl
  | cons row rows ih => rw [Table.rowsOf, ih, List.map_cons]

theorem valuesOf_entriesOf {ms : List (String × Json)}
    (h : ∀ m ∈ ms, isPlain m.2 = false → Table.valueOf (entryOf m.2) = arranged m.2) :
    Table.valuesOf (entriesOf ms) = arrangedMembers ms := by
  have htables : Table.valuesOf (tableEntries ms) = arrangedTables ms := by
    induction ms with
    | nil => rfl
    | cons m ms ih =>
      rw [List.forall_mem_cons] at h
      rw [tableEntries, arrangedTables]
      cases hplain : isPlain m.2 with
      | true => exact ih h.2
      | false =>
        rw [if_neg Bool.false_ne_true, if_neg Bool.false_ne_true, Table.valuesOf, h.1 hplain,
          ih h.2]
  rw [entriesOf, valuesOf_append, valuesOf_valueEntries, htables, arrangedMembers]

/-- The entry stands for the value, in the order of the document. -/
theorem valueOf_entryOf {j : Json} (h : isPlain j = false) :
    Table.valueOf (entryOf j) = arranged j := by
  induction j using Json.partInduction with
  | null => cases h
  | bool => cases h
  | int => cases h
  | float => cases h
  | str => cases h
  | obj ms ih => exact congrArg Json.obj (valuesOf_entriesOf ih)
  | arr js ih =>
    have htables : ∀ j ∈ js, isTable j = true := by
      rw [isPlain, Bool.or_eq_false_iff, Bool.not_eq_false'] at h
      exact List.all_eq_true.mp h.2
    rw [arranged_arr h, entryOf, Table.valueOf, rowsOf_eq, List.map_reverse, List.reverse_reverse]
    refine congrArg Json.arr ?_
    clear h
    induction js with
    | nil => rfl
    | cons j js ihs =>
      rw [List.forall_mem_cons] at ih htables
      cases j with
      | obj ms =>
        rw [rowEntries_cons, List.map_cons, List.map_cons, ihs ih.2 htables.2]
        exact congrArg (· :: _) (ih.1 rfl)
      | null | bool | int | float | str | arr => cases htables.1

/-- The names of the entries are those of the members. -/
theorem names_entriesOf (ms : List (String × Json)) :
    ((entriesOf ms).map (·.1)).Perm (ms.map (·.1)) := by
  have hnames : (entriesOf ms).map (·.1) =
      (ms.filter (isPlain ·.2)).map (·.1) ++ (ms.filter (!isPlain ·.2)).map (·.1) := by
    rw [entriesOf, tableEntries_eq, valueEntries, List.map_append, List.map_map, List.map_map]
    rfl
  rw [hnames, ← List.map_append]
  exact (List.filter_append_perm _ ms).map _

/-! ### Blocks that lead from a document to another -/

/-- Blocks, each behind a blank line. -/
def blockChars (bs : List String) : List Char := bs.flatMap fun b => '\n' :: b.toList

/-- The blocks start with headers, and reading them changes the document as the function does. -/
structure Leads (bs : List String) (f : Table → Option Table) : Prop where
  starts : ∀ b ∈ bs, ∃ cs, b.toList = '[' :: cs
  reads : ∀ {p : Progress} {t t' : Table}, p.finish? = some t → f t = some t' →
    ∃ p' : Progress, p'.finish? = some t' ∧
      ∀ {cs r}, Reads p' cs r → Reads p (blockChars bs ++ cs) r

theorem Leads.nil : Leads [] some where
  starts := List.forall_mem_nil _
  reads := by
    rintro p t t' hp ⟨⟩
    exact ⟨p, hp, id⟩

/-- Blocks and then others lead in two steps to where they lead. -/
theorem Leads.append {bs cs : List String} {f g h : Table → Option Table} (hbs : Leads bs g)
    (hcs : Leads cs h) (hf : ∀ t t', f t = some t' → ∃ s, g t = some s ∧ h s = some t') :
    Leads (bs ++ cs) f where
  starts := List.forall_mem_append.mpr ⟨hbs.starts, hcs.starts⟩
  reads := by
    intro p t t' hp ht
    obtain ⟨s, hs, ht'⟩ := hf t t' ht
    obtain ⟨q, hq, hread⟩ := hbs.reads hp hs
    obtain ⟨p', hp', hread'⟩ := hcs.reads hq ht'
    refine ⟨p', hp', fun {ds r} hrest => ?_⟩
    rw [blockChars, List.flatMap_append, List.append_assoc]
    exact hread (hread' hrest)

theorem Leads.imp {bs : List String} {f g : Table → Option Table} (h : Leads bs g)
    (hf : ∀ t t', f t = some t' → g t = some t') : Leads bs f where
  starts := h.starts
  reads hp ht := h.reads hp (hf _ _ ht)

/-! ### The block of a header -/

namespace Table

/-- Puts a table where its header says. -/
def placed? (isRow : Bool) (key : String) (es : List (String × Entry)) : Table → Option Table :=
  if isRow then pushRow? key es else append? [(key, .table .header es)]

/-- Adds entries to the table at a path, which need not be there if there are none. -/
def addAt? (path : List String) (es : List (String × Entry)) : Table → Option Table :=
  if es.isEmpty then some else change? .passage (append? es) path

/-- Adds rows to the tables at a path, which need not be there if there are none. -/
def pushAt? (path : List String) (key : String) (rows : List (List (String × Entry))) :
    Table → Option Table :=
  if rows.isEmpty then some else change? .passage (pushRows? key rows) path

variable {path : List String} {key : String} {es fs : List (String × Entry)} {t t' : Table}

/-- Only where nothing else has the name a table is put. -/
theorem get?_of_placed? {isRow : Bool} (h : placed? isRow key es t = some t') :
    t.get? key = none ∨ isRow = true ∧ ∃ rows, t.get? key = some (.tables rows) := by
  cases isRow with
  | false => exact .inl (append?_singleton_eq_some_iff.mp h).1
  | true =>
    rw [placed?, if_pos rfl, pushRow?] at h
    split at h
    · next hget => exact .inl hget
    · next rows hget => exact .inr ⟨rfl, rows, hget⟩
    · cases h

/-- A table is put with some of its entries, and then the others are added. -/
theorem placed?_split {isRow : Bool} (hnodup : ((es ++ fs).map (·.1)).Nodup)
    (h : placed? isRow key (es ++ fs) t = some t') :
    ∃ s, placed? isRow key es t = some s ∧ s.origin = t.origin ∧
      change? .passage (append? fs) [key] s = some t' := by
  cases isRow with
  | false => exact append?_table_split hnodup h
  | true => exact pushRow?_split hnodup h

theorem addAt?_append (h : addAt? path (es ++ fs) t = some t') :
    ∃ s, addAt? path es t = some s ∧ addAt? path fs s = some t' := by
  cases es with
  | nil => exact ⟨t, rfl, h⟩
  | cons e es =>
    cases fs with
    | nil => exact ⟨t', by rwa [List.append_nil] at h, rfl⟩
    | cons f fs =>
      obtain ⟨s, hs, -, ht'⟩ := change?_split (fun _ _ => append?_split) h
      exact ⟨s, hs, ht'⟩

/-- `placed?_split` at a path. -/
theorem addAt?_of_placed? {isRow : Bool} (hnodup : ((es ++ fs).map (·.1)).Nodup)
    (h : change? .passage (placed? isRow key (es ++ fs)) path t = some t') :
    ∃ s, change? .passage (placed? isRow key es) path t = some s ∧
      addAt? (path ++ [key]) fs s = some t' := by
  cases fs with
  | nil => exact ⟨t', by rwa [List.append_nil] at h, rfl⟩
  | cons f fs =>
    obtain ⟨s, hs, -, ht'⟩ := change?_split (fun _ _ => placed?_split hnodup) h
    rw [← change?_append] at ht'
    exact ⟨s, hs, ht'⟩

/-- A table that has no header is made by the entries that are added to it. -/
theorem addAt?_of_passage (hne : es ≠ []) (hnodup : (es.map (·.1)).Nodup)
    (h : change? .passage (append? [(key, .table .passage es)]) path t = some t') :
    addAt? (path ++ [key]) es t = some t' := by
  rw [addAt?, if_neg (by simpa using hne), change?_append]
  exact change?_imp (fun _ _ => append?_passage hnodup) h

/-- Rows are added one after the other. -/
theorem pushAt?_cons {row : List (String × Entry)} {rows : List (List (String × Entry))}
    (h : pushAt? path key (row :: rows) t = some t') :
    ∃ s, change? .passage (pushRow? key row) path t = some s ∧
      pushAt? path key rows s = some t' := by
  cases rows with
  | nil =>
    refine ⟨t', change?_imp (fun u u' hu => ?_) h, rfl⟩
    obtain ⟨v, hv, hu'⟩ := Option.bind_eq_some_iff.mp hu
    cases hu'
    exact hv
  | cons row' rows =>
    obtain ⟨s, hs, -, ht'⟩ := change?_split (fun u u' hu => by
      obtain ⟨v, hv, hu'⟩ := Option.bind_eq_some_iff.mp hu
      exact ⟨v, hv, origin_pushRow? hv, hu'⟩) h
    exact ⟨s, hs, ht'⟩

end Table

namespace Progress

variable {p : Progress} {path : List String} {key : String} {isRow : Bool}
  {es : List (String × Entry)} {t t' : Table}

theorem finish?_eq (root current : Table) :
    finish? ⟨root, some ⟨path, key, isRow⟩, current⟩ =
      Table.change? .passage (Table.placed? isRow key current.entries) path root := by
  refine congrArg (fun f => Table.change? .passage f path root) (funext fun u => ?_)
  cases isRow with
  | true => rfl
  | false =>
    rw [if_neg Bool.false_ne_true, Table.placed?, if_neg Bool.false_ne_true]
    cases hget : u.get? key with
    | none => exact (Table.append?_singleton_eq_some_iff.mpr ⟨hget, rfl⟩).symm
    | some e => simp [Table.append?, hget]

/-- Where a table can be put, its header can be entered. -/
theorem enter?_of_placed? (hp : p.finish? = some t)
    (h : Table.change? .passage (Table.placed? isRow key es) path t = some t') :
    ∃ s, p.enter? ⟨path, key, isRow⟩ = some ⟨s, some ⟨path, key, isRow⟩, .new .header⟩ ∧
      finish? ⟨s, some ⟨path, key, isRow⟩, ⟨.header, es⟩⟩ = some t' := by
  obtain ⟨u, u', s, hu, hs, hopen⟩ := Table.open?_of_change? h key
  obtain ⟨s', hs', -, ht'⟩ := Table.change?_split (g := some)
    (fun v v' hv => ⟨v, rfl, rfl, hv⟩) h
  obtain rfl : s' = s := Option.some.inj (hs'.symm.trans hs)
  refine ⟨s', ?_, (finish?_eq s' ⟨.header, es⟩).trans ht'⟩
  rw [enter?, hp]
  obtain hget | ⟨rfl, rows, hget⟩ := Table.get?_of_placed? hu
  · cases isRow <;> simp [hopen, hget]
  · simp [hopen, hget]

end Progress

/-! ### The lines of a table -/

/-- A table whose plain members can be written and read again, and so on in its tables. -/
inductive Tabular : Json → Prop where
  | table {ms : List (String × Json)} : (ms.map (·.1)).Nodup →
      (∀ m ∈ ms, isPlain m.2 = true → Fits depthMax m.2) →
      (∀ m ∈ ms, isPlain m.2 = false → Tabular m.2) → Tabular (.obj ms)
  | rows {js : List Json} : isPlain (.arr js) = false → (∀ j ∈ js, Tabular j) → Tabular (.arr js)

mutual

/-- The levels of the deepest value that is written on a line. -/
def lineLevels : Json → Nat
  | .obj ms => memberLineLevels ms
  | .arr js => if isPlain (.arr js) then levels (.arr js) else itemLineLevels js
  | _ => 0
termination_by structural j => j

/-- `lineLevels` of the rows of a list. -/
def itemLineLevels : List Json → Nat
  | [] => 0
  | j :: js => max (lineLevels j) (itemLineLevels js)
termination_by structural js => js

/-- `lineLevels` of the members of a table. -/
def memberLineLevels : List (String × Json) → Nat
  | [] => 0
  | (_, j) :: ms => max (lineLevels j) (memberLineLevels ms)
termination_by structural ms => ms

end

theorem itemLineLevels_le_iff {js : List Json} {d : Nat} :
    itemLineLevels js ≤ d ↔ ∀ j ∈ js, lineLevels j ≤ d := by
  induction js with
  | nil => simp [itemLineLevels]
  | cons j js ih => rw [itemLineLevels, Nat.max_le, ih, List.forall_mem_cons]

theorem memberLineLevels_le_iff {ms : List (String × Json)} {d : Nat} :
    memberLineLevels ms ≤ d ↔ ∀ m ∈ ms, lineLevels m.2 ≤ d := by
  induction ms with
  | nil => simp [memberLineLevels]
  | cons m ms ih => rw [memberLineLevels, Nat.max_le, ih, List.forall_mem_cons]

theorem lineLevels_of_isPlain {j : Json} (h : isPlain j = true) : lineLevels j = levels j := by
  cases j with
  | arr js => rw [lineLevels, if_pos h]
  | obj => cases h
  | null | bool | int | float | str => rfl

/-- Data without nulls can be written and read again if no line of it is too deep. -/
theorem tabular_of_isData {j : Json} (h : Json.IsData j) (hnull : j.holdsNull = false)
    (hd : lineLevels j ≤ depthMax) (hplain : isPlain j = false) : Tabular j := by
  induction h with
  | null | bool | int | float | str => cases hplain
  | @arr js _ ih =>
    have hrows : ∀ j ∈ js, isPlain j = false := by
      rw [isPlain, Bool.or_eq_false_iff, Bool.not_eq_false', List.all_eq_true] at hplain
      intro j hj
      cases j with
      | obj => rfl
      | null | bool | int | float | str | arr => cases hplain.2 _ hj
    rw [Json.holdsNull_arr_eq_false_iff] at hnull
    rw [lineLevels, hplain, if_neg Bool.false_ne_true, itemLineLevels_le_iff] at hd
    exact .rows hplain fun j hj => ih j hj (hnull j hj) (hd j hj) (hrows j hj)
  | obj hnodup hdata ih =>
    rw [Json.holdsNull_obj_eq_false_iff] at hnull
    rw [lineLevels, memberLineLevels_le_iff] at hd
    refine .table hnodup (fun m hm hm' => ?_) fun m hm => ih m hm (hnull m hm) (hd m hm)
    exact fits_of_levels_le (hdata m hm) (hnull m hm) (lineLevels_of_isPlain hm' ▸ hd m hm)

theorem bodyText?_eq (ms : List (String × Json)) :
    bodyText? ms = (memberTexts? (ms.filter (isPlain ·.2))).map fun ts =>
      String.join (ts.map (· ++ "\n")) := by
  rw [bodyText?]
  generalize ms.filter (isPlain ·.2) = ms
  have hlines : (ms.mapM fun m => (valueText? m.2).map fun t => keyText m.1 ++ " = " ++ t ++ "\n") =
      (memberTexts? ms).map (List.map (· ++ "\n")) := by
    induction ms with
    | nil => rfl
    | cons m ms ih =>
      rw [List.mapM_cons, ih, memberTexts?]
      cases valueText? m.2 <;> cases memberTexts? ms <;> rfl
  refine (congrArg (Option.bind · _) hlines).trans ?_
  cases memberTexts? ms <;> rfl

/-- The lines of the plain members. -/
theorem exists_of_bodyText? {ms : List (String × Json)}
    (h : ∀ m ∈ ms, isPlain m.2 = true → Fits depthMax m.2) {body : String}
    (hbody : bodyText? ms = some body) :
    ∃ ts, List.Forall₂ (IsMember depthMax) (ms.filter (isPlain ·.2)) ts ∧
      body.toList = bodyChars ts := by
  rw [bodyText?_eq] at hbody
  obtain ⟨ts, hts, rfl⟩ := Option.map_eq_some_iff.mp hbody
  refine ⟨ts, ?_, by simp [bodyChars, String.toList_join, List.flatMap_map]⟩
  have hlines := (List.forall₂_and_left _ _).mpr ⟨fun m hm => List.mem_filter.mp hm,
    memberTexts?_eq_some_iff.mp hts⟩
  refine hlines.imp ?_
  rintro m t ⟨⟨hm, hplain⟩, v, hv, ht⟩
  exact ⟨v, (h m hm hplain).isRead hv, ht⟩

/-- Reading the block of a header puts its table where the header says. -/
theorem leads_block {path : List String} {key : String} {isRow : Bool} {ms : List (String × Json)}
    (hnodup : (ms.map (·.1)).Nodup) (h : ∀ m ∈ ms, isPlain m.2 = true → Fits depthMax m.2)
    {body : String} (hbody : bodyText? ms = some body) :
    Leads [headerText (path ++ [key]) isRow ++ body] (Table.change? .passage
      (Table.placed? isRow key (valueEntries (ms.filter (isPlain ·.2)))) path) where
  starts := by
    rw [List.forall_mem_singleton, String.toList_append, toList_headerText]
    cases isRow <;> exact ⟨_, rfl⟩
  reads := by
    intro p t t' hp ht
    obtain ⟨ts, hts, htext⟩ := exists_of_bodyText? h hbody
    obtain ⟨s, henter, hfinish⟩ := Progress.enter?_of_placed? hp ht
    refine ⟨_, hfinish, fun {cs r} hrest => ?_⟩
    have hchars : blockChars [headerText (path ++ [key]) isRow ++ body] ++ cs =
        '\n' :: ((headerText (path ++ [key]) isRow).toList ++ (bodyChars ts ++ cs)) := by
      simp [blockChars, htext]
    have hplain : ((ms.filter (isPlain ·.2)).map (·.1)).Nodup :=
      hnodup.sublist (List.filter_sublist.map _)
    rw [hchars, reads_line_iff]
    refine Reads.header henter (Reads.members hts ?_ ?_)
    · simpa [Table.new] using hplain
    · simpa [Table.new] using hrest

/-- The blocks of a value that is not plain add its entry. -/
def LeadsTo (j : Json) : Prop :=
  ∀ {path : List String} {key : String} {bs : List String}, tables? (path ++ [key]) j = some bs →
    Leads bs (Table.change? .passage (Table.append? [(key, entryOf j)]) path)

theorem membersTables?_cons (path : List String) (m : String × Json) (ms : List (String × Json)) :
    membersTables? path (m :: ms) =
      (if isPlain m.2 then some [] else tables? (path ++ [m.1]) m.2).bind fun inner =>
        (membersTables? path ms).map (inner ++ ·) := by
  rw [membersTables?]
  cases isPlain m.2 <;> cases membersTables? path ms <;> cases tables? (path ++ [m.1]) m.2 <;> rfl

/-- The blocks of the members that are not plain add their entries. -/
theorem leads_membersTables {path : List String} {ms : List (String × Json)} {bs : List String}
    (h : ∀ m ∈ ms, isPlain m.2 = false → LeadsTo m.2) (hbs : membersTables? path ms = some bs) :
    Leads bs (Table.addAt? path (tableEntries ms)) := by
  induction ms generalizing bs with
  | nil =>
    cases hbs
    exact .nil
  | cons m ms ih =>
    rw [List.forall_mem_cons] at h
    rw [membersTables?_cons, Option.bind_eq_some_iff] at hbs
    obtain ⟨inner, hinner, hbs⟩ := hbs
    obtain ⟨others, hothers, rfl⟩ := Option.map_eq_some_iff.mp hbs
    rw [tableEntries]
    cases hplain : isPlain m.2 with
    | true =>
      rw [hplain, if_pos rfl] at hinner
      cases hinner
      exact ih h.2 hothers
    | false =>
      rw [hplain, if_neg Bool.false_ne_true] at hinner
      rw [if_neg Bool.false_ne_true]
      exact (h.1 hplain hinner).append (ih h.2 hothers) fun t t' ht =>
        @Table.addAt?_append path [(m.1, entryOf m.2)] _ t t' ht

/-- Members that can be written and read again as a table. -/
structure Reread (ms : List (String × Json)) : Prop where
  nodup : (ms.map (·.1)).Nodup
  plain : ∀ m ∈ ms, isPlain m.2 = true → Fits depthMax m.2
  tables : ∀ m ∈ ms, isPlain m.2 = false → LeadsTo m.2

/-- Under a header of its own a table is written as a block, with its tables behind it. -/
theorem Reread.leads {ms : List (String × Json)} (h : Reread ms) {path : List String}
    {key : String} {isRow : Bool} {body : String} (hbody : bodyText? ms = some body)
    {bs : List String} (hbs : membersTables? (path ++ [key]) ms = some bs) :
    Leads ([headerText (path ++ [key]) isRow ++ body] ++ bs)
      (Table.change? .passage (Table.placed? isRow key (entriesOf ms)) path) :=
  (leads_block h.nodup h.plain hbody).append (leads_membersTables h.tables hbs) fun _ _ =>
    Table.addAt?_of_placed? ((names_entriesOf ms).nodup_iff.mpr h.nodup)

/-! ### The blocks of a document -/

theorem isEmpty_body {ms : List (String × Json)} {body : String} (h : bodyText? ms = some body) :
    body.isEmpty = (ms.filter (isPlain ·.2)).isEmpty := by
  rw [bodyText?_eq] at h
  obtain ⟨ts, hts, rfl⟩ := Option.map_eq_some_iff.mp h
  rw [memberTexts?_eq_some_iff] at hts
  generalize ms.filter (isPlain ·.2) = ms at hts ⊢
  cases hts with
  | nil => rfl
  | cons hm _ =>
    obtain ⟨v, -, rfl⟩ := hm
    simp [memberText]

theorem section?_header (path : List String) (key : String) (isRow : Bool)
    (ms : List (String × Json)) : section? (path ++ [key]) isRow ms =
      (bodyText? ms).map fun body =>
        if !isRow && (originOf ms == .passage) then []
        else [headerText (path ++ [key]) isRow ++ body] := by
  rw [section?]
  cases hbody : bodyText? ms with
  | none => rfl
  | some body =>
    have hpath : (path ++ [key]).isEmpty = false := by simp
    have hhidden : (body.isEmpty && !isRow && (false || ms.any (!isPlain ·.2))) =
        (!isRow && (originOf ms == .passage)) := by
      rw [isEmpty_body hbody, originOf]
      generalize (ms.filter (isPlain ·.2)).isEmpty = isBare
      generalize ms.any (!isPlain ·.2) = isPassed
      cases isBare <;> cases isPassed <;> cases isRow <;> rfl
    refine congrArg some ?_
    rw [← hhidden, hpath]
    rfl

theorem section?_root (ms : List (String × Json)) : section? [] false ms =
    (bodyText? ms).map fun body => if body.isEmpty then [] else [body] := by
  rw [section?]
  cases bodyText? ms <;> simp

theorem tables?_obj (path : List String) (ms : List (String × Json)) :
    tables? path (.obj ms) = (section? path false ms).bind fun own =>
      (membersTables? path ms).map (own ++ ·) := by
  rw [tables?]
  cases section? path false ms <;> cases membersTables? path ms <;> rfl

theorem rowsTables?_cons (path : List String) (ms : List (String × Json)) (js : List Json) :
    rowsTables? path (.obj ms :: js) = (section? path true ms).bind fun own =>
      (membersTables? path ms).bind fun inner =>
        (rowsTables? path js).map (own ++ inner ++ ·) := by
  rw [rowsTables?]
  cases section? path true ms <;> cases membersTables? path ms <;> cases rowsTables? path js <;> rfl

/-- The blocks of rows add them one after the other. -/
theorem leads_rowsTables {path : List String} {key : String} {js : List Json} {bs : List String}
    (h : ∀ ms, .obj ms ∈ js → Reread ms) (hbs : rowsTables? (path ++ [key]) js = some bs) :
    Leads bs (Table.pushAt? path key (rowEntries js)) := by
  induction js generalizing bs with
  | nil =>
    cases hbs
    exact .nil
  | cons j js ih =>
    cases j with
    | obj ms =>
      rw [rowsTables?_cons, section?_header] at hbs
      simp only [Option.bind_eq_some_iff, Option.map_eq_some_iff] at hbs
      obtain ⟨_, ⟨body, hbody, rfl⟩, inner, hinner, others, hothers, rfl⟩ := hbs
      have hrow := @Reread.leads ms (h ms List.mem_cons_self) path key true body hbody _ hinner
      exact hrow.append (ih (fun ms hms => h ms (List.mem_cons_of_mem _ hms)) hothers)
        fun _ _ => Table.pushAt?_cons
    | null | bool | int | float | str | arr => cases hbs

theorem of_originOf_eq_passage {ms : List (String × Json)} (h : originOf ms = .passage) :
    ms.filter (isPlain ·.2) = [] ∧ tableEntries ms ≠ [] := by
  rw [originOf] at h
  split at h
  · next hhidden =>
    rw [Bool.and_eq_true, List.isEmpty_iff, List.any_eq_true] at hhidden
    obtain ⟨hempty, m, hm, htable⟩ := hhidden
    refine ⟨hempty, fun hnil => ?_⟩
    rw [tableEntries_eq, List.map_eq_nil_iff, List.filter_eq_nil_iff] at hnil
    exact hnil m hm htable
  · cases h

/-- The blocks of a table add it. -/
theorem Reread.leadsTo {ms : List (String × Json)} (h : Reread ms) : LeadsTo (.obj ms) := by
  intro path key bs hbs
  rw [tables?_obj, section?_header] at hbs
  simp only [Option.bind_eq_some_iff, Option.map_eq_some_iff] at hbs
  obtain ⟨_, ⟨body, hbody, rfl⟩, inner, hinner, rfl⟩ := hbs
  have hnodup := (names_entriesOf ms).nodup_iff.mpr h.nodup
  rw [entryOf, ← entriesOf]
  cases horigin : originOf ms with
  | header => exact @Reread.leads ms h path key false body hbody _ hinner
  | passage =>
    obtain ⟨hempty, htables⟩ := of_originOf_eq_passage horigin
    have hentries : entriesOf ms = tableEntries ms := by simp [entriesOf, hempty, valueEntries]
    rw [hentries] at hnodup ⊢
    exact (leads_membersTables h.tables hinner).imp fun _ _ =>
      Table.addAt?_of_passage htables hnodup
  | dotted =>
    rw [originOf] at horigin
    split at horigin <;> cases horigin

/-- The blocks of a list of tables add it. -/
theorem leadsTo_arr {js : List Json} (h : ∀ ms, .obj ms ∈ js → Reread ms)
    (hjs : isPlain (.arr js) = false) : LeadsTo (.arr js) := by
  intro path key bs hbs
  have hrows : rowEntries js ≠ [] := by
    cases js with
    | nil => cases hjs
    | cons j js =>
      cases j with
      | obj ms => exact List.cons_ne_nil _ _
      | null | bool | int | float | str | arr => cases hjs
  refine (leads_rowsTables h hbs).imp fun t t' ht => ?_
  rw [Table.pushAt?, if_neg (by simpa using hrows)]
  exact Table.change?_imp (fun _ _ => Table.pushRows?_of_append? hrows) ht

theorem Tabular.leadsTo {j : Json} (h : Tabular j) :
    LeadsTo j ∧ ∀ ms, j = .obj ms → Reread ms := by
  induction h with
  | table hnodup hplain _ ih =>
    have hms : Reread _ := ⟨hnodup, hplain, fun m hm hm' => (ih m hm hm').1⟩
    exact ⟨hms.leadsTo, fun ms heq => by cases heq; exact hms⟩
  | rows hjs _ ih =>
    exact ⟨leadsTo_arr (fun ms hms => (ih _ hms).2 ms rfl) hjs, fun ms heq => by cases heq⟩

/-! ### Documents -/

theorem toList_intercalate (b : String) (bs : List String) :
    ("\n".intercalate (b :: bs)).toList = b.toList ++ blockChars bs := by
  induction bs generalizing b with
  | nil => simp [blockChars]
  | cons b' bs ih =>
    rw [String.intercalate_cons_cons, String.toList_append, String.toList_append, ih]
    simp [blockChars]

/-- A text is read as it is if it starts with no byte order mark. -/
theorem parse?_of_reads {text : String} (hmark : text.toList.head? ≠ some '\ufeff') {r : Progress}
    (h : Reads .start text.toList r) {t : Table} (ht : r.finish? = some t) :
    parse? text = some t.value := by
  rw [parse?]
  split
  · next heq => exact absurd (congrArg List.head? heq) hmark
  · rw [h _ (Nat.lt_succ_self _), Option.bind_some, ht, Option.map_some]

/-- The document with its body in front is read on from the start. -/
theorem Reread.exists_reads {ms : List (String × Json)} (h : Reread ms) {ts bs : List String}
    (hts : List.Forall₂ (IsMember depthMax) (ms.filter (isPlain ·.2)) ts)
    (hbs : membersTables? [] ms = some bs) :
    ∃ r : Progress, Reads .start (bodyChars ts ++ blockChars bs) r ∧
      r.finish? = some ⟨.header, entriesOf ms⟩ := by
  have hnodup := (names_entriesOf ms).nodup_iff.mpr h.nodup
  have hadd : Table.addAt? [] (tableEntries ms) ⟨.header, valueEntries (ms.filter (isPlain ·.2))⟩ =
      some ⟨.header, entriesOf ms⟩ := by
    rw [entriesOf] at hnodup ⊢
    rw [Table.addAt?]
    split
    · next hempty => rw [List.isEmpty_iff.mp hempty, List.append_nil]
    · exact Table.append?_entries hnodup
  obtain ⟨r, hr, hread⟩ := (leads_membersTables h.tables hbs).reads
    (p := ⟨.new .header, none, ⟨.header, valueEntries (ms.filter (isPlain ·.2))⟩⟩) rfl hadd
  refine ⟨r, Reads.members hts ?_ ?_, hr⟩
  · simpa using h.nodup.sublist (List.filter_sublist.map _)
  · simpa using hread (Reads.nil r)

/-- The first line of a table starts with a key. -/
theorem exists_cons_bodyChars {depth : Nat} {ms : List (String × Json)} {ts : List String}
    (h : List.Forall₂ (IsMember depth) ms ts) (hne : bodyChars ts ≠ []) :
    ∃ c cs, bodyChars ts = c :: cs ∧ (isBare c = true ∨ c = '"' ∨ c = '\'') := by
  cases h with
  | nil => exact absurd rfl hne
  | cons hm _ =>
    obtain ⟨c, cs, ht, hc⟩ := hm.cons
    exact ⟨c, _, by rw [bodyChars, List.flatMap_cons, ht]; rfl, hc⟩

/-- **A document that was written is read as its value**, in the order of the document. -/
theorem parse?_print? {ms : List (String × Json)} (h : Json.IsData (.obj ms))
    (hlevels : lineLevels (.obj ms) ≤ depthMax) {text : String}
    (htext : print? (.obj ms) = some text) : parse? text = some (arranged (.obj ms)) := by
  have hnull : (Json.obj ms).holdsNull = false :=
    (isSome_print?_iff ms).mp (by rw [htext]; rfl)
  have hms := (tabular_of_isData h hnull hlevels rfl).leadsTo.2 ms rfl
  obtain ⟨bs, hbs, rfl⟩ := Option.map_eq_some_iff.mp htext
  rw [tables?_obj, section?_root] at hbs
  simp only [Option.bind_eq_some_iff, Option.map_eq_some_iff] at hbs
  obtain ⟨_, ⟨body, hbody, rfl⟩, inner, hinner, rfl⟩ := hbs
  obtain ⟨ts, hts, htext⟩ := exists_of_bodyText? hms.plain hbody
  obtain ⟨r, hread, hfinish⟩ := hms.exists_reads hts hinner
  have hvalue : Table.value ⟨.header, entriesOf ms⟩ = arranged (.obj ms) :=
    congrArg Json.obj (valuesOf_entriesOf fun _ _ => valueOf_entryOf)
  rw [← hvalue]
  rw [← htext] at hread
  split
  · next hempty =>
    obtain rfl : body = "" := by simpa using hempty
    cases inner with
    | nil => exact @parse?_of_reads "" (by simp) r hread _ hfinish
    | cons b bs =>
      obtain ⟨cs, hb⟩ := (leads_membersTables hms.tables hinner).starts b List.mem_cons_self
      refine parse?_of_reads ?_ ?_ hfinish
      · simp [hb]
      · rw [List.nil_append, toList_intercalate]
        exact reads_line_iff.mp hread
  · next hne =>
    obtain ⟨c, cs, hcons, hc⟩ := exists_cons_bodyChars hts (by simpa [← htext] using hne)
    have hmark : c ≠ '\ufeff' := ne_of_startsKey hc (by decide)
    refine parse?_of_reads ?_ ?_ hfinish
    · simp [htext, hcons, hmark]
    · rwa [List.singleton_append, toList_intercalate]

end Runbook.Toml
