import Runbook.Proofs.Json.Data
import Runbook.Rows.Basic
import Mathlib.Data.List.Induction
import Mathlib.Data.List.Permutation

/-!
# Queries that agree

Two queries look at all columns of a row, two others at one column. A row passes a query over all
columns exactly if it passes the one over some column (`any_columns_iff`), as long as no name stands
twice in it (`HasNames`); rows that are read have no name twice (`hasNames_of_read?`). All queries
look at each row by itself, so that what they keep stays in order and as often as it stands there
(`IsFilter`).

Several columns are selected into one object for each row. It has each name once, in the order in
which the names are first mentioned (`names_putAll`), with what the column alone gives
(`lookup?_putAll_map`): a name that is mentioned again gives the same value again, and it is put in
the place that it has.
-/

namespace Runbook

namespace Json

/-! ### Members that are set one after the other -/

/-- A name that is there keeps its place. -/
theorem names_put_of_mem {name : String} {j : Json} {ms : List (String × Json)}
    (h : name ∈ ms.map (·.1)) : (put name j ms).map (·.1) = ms.map (·.1) := by
  induction ms with
  | nil => cases h
  | cons m ms ih =>
    rw [put]
    split
    case isTrue heq => rfl
    case isFalse hne =>
      have hrest : name ∈ ms.map (·.1) := (List.mem_cons.mp h).resolve_left (Ne.symm hne)
      rw [List.map_cons, List.map_cons, ih hrest]

/-- Each name is there once, where it is mentioned first. -/
theorem names_putAll (ms : List (String × Json)) :
    (putAll ms).map (·.1) = (ms.map (·.1)).eraseDups := by
  induction ms using List.reverseRecOn with
  | nil => rfl
  | append_singleton ms m ih =>
    have hput : putAll (ms ++ [m]) = put m.1 m.2 (putAll ms) := by
      rw [putAll, List.foldl_append]
      rfl
    rw [hput, List.map_append, List.map_singleton, List.eraseDups_append]
    by_cases hm : m.1 ∈ ms.map (·.1)
    · have hthere : m.1 ∈ (putAll ms).map (·.1) := by rwa [ih, List.mem_eraseDups]
      rw [names_put_of_mem hthere, ih]
      simp [List.removeAll, hm]
    · have hnew : m.1 ∉ (putAll ms).map (·.1) := by rwa [ih, List.mem_eraseDups]
      rw [put_of_not_mem hnew, List.map_append, ih]
      simp [List.removeAll, hm, List.eraseDups_cons]

/-- Where what is set depends on the name alone, a name has that value however often it is set. -/
theorem lookup?_putAll_map (f : String → Json) {names : List String} {name : String}
    (h : name ∈ names) : lookup? name (putAll (names.map fun n => (n, f n))) = some (f name) := by
  obtain ⟨hnodup, hmem⟩ := putAll_spec (names.map fun n => (n, f n))
  have hname : name ∈ (putAll (names.map fun n => (n, f n))).map (·.1) := by
    rw [names_putAll, List.mem_eraseDups, List.map_map]
    simpa using h
  obtain ⟨m, hm, rfl⟩ := List.mem_map.mp hname
  have hvalue : m.2 = f m.1 := by
    obtain ⟨n, -, rfl⟩ := List.mem_map.mp (hmem m hm)
    rfl
  rw [lookup?_eq_some_iff hnodup, ← hvalue]
  exact hm

end Json

namespace Rows

/-! ### What a row has in its columns -/

/-- No name stands twice in the row. -/
def HasNames (row : Json) : Prop := ((columns row).map (·.1)).Nodup

instance : DecidablePred HasNames := fun row =>
  inferInstanceAs (Decidable ((columns row).map (·.1)).Nodup)

variable {row : Json} {rows : List Json}

/-- Rows that are read have each name once, also where a text has it twice. -/
theorem hasNames_of_read? {text : String} (h : Json.read? text = some (.arr rows)) :
    ∀ row ∈ rows, HasNames row := by
  have hmerged (j : Json) : HasNames j.merged := by
    cases j with
    | obj ms => exact (Json.putAll_spec _).1
    | null | bool | int | float | str | arr => exact List.nodup_nil
  obtain ⟨j, -, hj⟩ := Option.map_eq_some_iff.mp h
  cases j with
  | arr items =>
    rw [Json.merged, Json.mergedItems_eq, Json.arr.injEq] at hj
    rw [← hj]
    exact List.forall_mem_map.mpr fun item _ => hmerged item
  | null | bool | int | float | str | obj => cases hj

theorem get?_eq_some_iff (h : HasNames row) {name : String} {value : Json} :
    row.get? name = some value ↔ (name, value) ∈ columns row := by
  cases row with
  | obj ms => exact Json.lookup?_eq_some_iff h
  | null | bool | int | float | str | arr =>
    exact iff_of_false (Option.some_ne_none value ∘ Eq.symm) List.not_mem_nil

/-- Something in the row passes exactly if what a column gives does. -/
theorem any_columns_iff (h : HasNames row) (test : Json → Bool) :
    ((columns row).any fun c => test c.2) = true ↔
      ∃ name value, row.get? name = some value ∧ test value = true := by
  rw [List.any_eq_true]
  constructor
  · rintro ⟨⟨name, value⟩, hmem, htest⟩
    exact ⟨name, value, (get?_eq_some_iff h).mpr hmem, htest⟩
  · rintro ⟨name, value, hget, htest⟩
    exact ⟨(name, value), (get?_eq_some_iff h).mp hget, htest⟩

/-! ### What queries keep -/

theorem mem_whereColumn_iff {name : String} {value : Json} :
    row ∈ whereColumn name value rows ↔
      row ∈ rows ∧ ∃ v, row.get? name = some v ∧ v.same value = true := by
  rw [whereColumn, List.mem_filter, holds]
  cases row.get? name <;> simp

theorem mem_whereColumnMatches_iff {name : String} {pattern : Regex} :
    row ∈ whereColumnMatches name pattern rows ↔
      row ∈ rows ∧ ∃ v, row.get? name = some v ∧ textMatches pattern v = true := by
  rw [whereColumnMatches, List.mem_filter]
  cases row.get? name <;> simp

theorem mem_whereValue_iff (hrows : ∀ row ∈ rows, HasNames row) {value : Json} :
    row ∈ whereValue value rows ↔ ∃ name, row ∈ whereColumn name value rows := by
  simp only [mem_whereColumn_iff, exists_and_left]
  rw [whereValue, List.mem_filter]
  exact and_congr_right fun hrow => any_columns_iff (hrows row hrow) fun v => v.same value

theorem mem_whereValueMatches_iff (hrows : ∀ row ∈ rows, HasNames row) {pattern : Regex} :
    row ∈ whereValueMatches pattern rows ↔
      ∃ name, row ∈ whereColumnMatches name pattern rows := by
  simp only [mem_whereColumnMatches_iff, exists_and_left]
  rw [whereValueMatches, List.mem_filter]
  exact and_congr_right fun hrow => any_columns_iff (hrows row hrow) (textMatches pattern)

/-- Each row is looked at by itself, and kept as it is or dropped. What is kept stays in its order,
and as often as it stands there. -/
structure IsFilter (query : List Json → List Json) : Prop where
  /-- Rows are looked at one after the other. -/
  append (rows others : List Json) : query (rows ++ others) = query rows ++ query others
  /-- A row is kept or dropped. -/
  single (row : Json) : query [row] = [row] ∨ query [row] = []

theorem isFilter_filter (test : Json → Bool) : IsFilter (List.filter test) where
  append _ _ := List.filter_append _ _
  single row := by
    by_cases h : test row = true
    · exact .inl (List.filter_cons_of_pos h)
    · exact .inr (List.filter_cons_of_neg h)

/-! ### What is selected -/

/-- One object for each row: its names are the selected ones, each once and in the order in which
they are first mentioned, and under each stands what the column alone gives for the row, null if
the row lacks it. -/
structure Selects (names : List String) (rows objects : List Json) : Prop where
  length_eq : objects.length = rows.length
  entries (i : Nat) (row : Json) : rows[i]? = some row →
    ∃ members, objects[i]? = some (.obj members) ∧ members.map (·.1) = names.eraseDups ∧
      ∀ name ∈ names, Json.lookup? name members = (selectColumn (some name) rows)[i]? ∧
        Json.lookup? name members = some ((row.get? name).getD .null)

theorem selects_selectColumns (names : List String) (rows : List Json) :
    Selects names rows (selectColumns (some names) rows) where
  length_eq := List.length_map _
  entries i row hrow := by
    refine ⟨Json.putAll (names.map fun name => (name, column name row)), ?_, ?_, ?_⟩
    · rw [selectColumns, List.getElem?_map, hrow]
      rfl
    · rw [Json.names_putAll, List.map_map]
      exact congrArg List.eraseDups (List.map_id' names)
    · intro name hname
      rw [Json.lookup?_putAll_map (fun n => column n row) hname, selectColumn, List.getElem?_map,
        hrow]
      exact ⟨rfl, rfl⟩

/-- **The queries over rows agree.** A row passes a query over all columns exactly if it passes the
query over some column, and what is selected of several columns is what is selected of each. -/
theorem queries_agree (hrows : ∀ row ∈ rows, HasNames row) :
    (∀ value row, row ∈ whereValue value rows ↔ ∃ name, row ∈ whereColumn name value rows) ∧
    (∀ pattern row, row ∈ whereValueMatches pattern rows ↔
      ∃ name, row ∈ whereColumnMatches name pattern rows) ∧
    (∀ (name : String) (value : Json) (pattern : Regex), IsFilter (whereColumn name value) ∧
      IsFilter (whereColumnMatches name pattern) ∧ IsFilter (whereValue value) ∧
      IsFilter (whereValueMatches pattern) ∧ IsFilter (whereNameMatches pattern)) ∧
    ∀ query : List Json → List Json,
      (∀ names, Selects names (query rows) (selectColumns (some names) (query rows))) ∧
      selectColumn none (query rows) = query rows ∧ selectColumns none (query rows) = query rows :=
  ⟨fun _ _ => mem_whereValue_iff hrows, fun _ _ => mem_whereValueMatches_iff hrows,
    fun _ _ _ => ⟨isFilter_filter _, isFilter_filter _, isFilter_filter _, isFilter_filter _,
      isFilter_filter _⟩,
    fun query => ⟨fun names => selects_selectColumns names (query rows), rfl, rfl⟩⟩

/-- A row whose id is written twice, one that is no object, and one without a name. -/
def staffText : String :=
  "[\x7b\"id\":\"a\",\"name\":\"b\",\"id\":\"c\"\x7d,\"c\",\x7b\"id\":\"c\"\x7d]"

/-- The rows of the text. -/
def staff : List Json :=
  [.obj [("id", .str "c"), ("name", .str "b")], .str "c", .obj [("id", .str "c")]]

/-- Some column finds each row in which a value stands, and a name that is selected twice is in the
objects once. -/
theorem queries_agree_staff :
    Json.read? staffText = some (.arr staff) ∧ (∀ row ∈ staff, HasNames row) ∧
      (∀ row ∈ whereValue (.str "c") staff, ∃ name, row ∈ whereColumn name (.str "c") staff) ∧
      Selects ["name", "id", "name"] (whereColumn "id" (.str "c") staff)
        [.obj [("name", .str "b"), ("id", .str "c")],
          .obj [("name", .null), ("id", .str "c")]] := by
  have hread : Json.read? staffText = some (.arr staff) := by decide +kernel
  have hrows := hasNames_of_read? hread
  have hselected :
      selectColumns (some ["name", "id", "name"]) (whereColumn "id" (.str "c") staff) =
        [.obj [("name", .str "b"), ("id", .str "c")],
          .obj [("name", .null), ("id", .str "c")]] := by decide +kernel
  obtain ⟨hvalue, -, -, hselect⟩ := queries_agree hrows
  refine ⟨hread, hrows, fun row hrow => (hvalue _ row).mp hrow, ?_⟩
  rw [← hselected]
  exact (hselect (whereColumn "id" (.str "c"))).1 ["name", "id", "name"]

end Rows

end Runbook
