import Mathlib.Data.List.Forall2
import Mathlib.Data.List.Perm.Basic
import Runbook.Proofs.Definition.ReadValues
import Runbook.Proofs.Outcome
import Runbook.Proofs.Toml.Arrangement

/-!
# Presets written as a document and read out of it

A document leaves out what an entry of presets does not have (`given`), and puts the members of a
table in an order of its own (`Toml.arranged`). Neither is noticed by the reader of presets
(`ofJson?_arranged_document`): everything is read as it was written, only the members of a context
template come in the order of the document.
-/

namespace Runbook.Presets

/-! ### Members that may be left out -/

/-- The members that are there. -/
def given (parts : List (String × Option Json)) : List (String × Json) :=
  parts.filterMap fun part => part.2.map (part.1, ·)

theorem given_cons (name : String) (j? : Option Json) (parts : List (String × Option Json)) :
    given ((name, j?) :: parts) = j?.toList.map (name, ·) ++ given parts := by
  cases j? <;> rfl

/-- Under a name that is none of the names of the parts nothing is given. -/
theorem filter_given_of_not_mem {parts : List (String × Option Json)} {name : String}
    (h : name ∉ parts.map (·.1)) : (given parts).filter (·.1 == name) = [] := by
  rw [List.filter_eq_nil_iff]
  intro m hm hname
  obtain ⟨part, hpart, hmap⟩ := List.mem_filterMap.mp hm
  obtain ⟨j, -, rfl⟩ := Option.map_eq_some_iff.mp hmap
  exact h (List.mem_map.mpr ⟨part, hpart, beq_iff_eq.mp hname⟩)

/-- Under the name of a part stands the part, if it is there. -/
theorem filter_given {parts : List (String × Option Json)} (hnodup : (parts.map (·.1)).Nodup)
    {part : String × Option Json} (h : part ∈ parts) :
    (given parts).filter (·.1 == part.1) = part.2.toList.map (part.1, ·) := by
  induction parts with
  | nil => cases h
  | cons first parts ih =>
    rw [List.map_cons, List.nodup_cons] at hnodup
    rw [given_cons, List.filter_append]
    obtain rfl | h := List.mem_cons.mp h
    · rw [filter_given_of_not_mem hnodup.1, List.append_nil]
      cases part.2 <;> simp
    · have hne : first.1 ≠ part.1 := fun heq => hnodup.1 (heq ▸ List.mem_map_of_mem h)
      rw [ih hnodup.2 h]
      cases first.2 <;> simp [hne]

/-- What is given is read, and what is left out is read as missing. -/
theorem fields?_given (spare : Nat) {parts : List (String × Option Json)}
    (hnodup : (parts.map (·.1)).Nodup) :
    fields? (parts.map (·.1)) spare (.obj (given parts)) = some (parts.map (·.2)) := by
  rw [fields?, mapM_eq_some_iff, List.forall₂_map_left_iff, List.forall₂_map_right_iff,
    List.forall₂_same]
  intro part hpart
  rw [filter_given hnodup hpart]
  cases part.2 <;> rfl

theorem given_map (f : Json → Json) (parts : List (String × Option Json)) :
    (given parts).map (fun m => (m.1, f m.2)) =
      given (parts.map fun part => (part.1, part.2.map f)) := by
  induction parts with
  | nil => rfl
  | cons part parts ih =>
    rw [given_cons, List.map_append, ih, List.map_cons, given_cons]
    cases part.2 <;> rfl

/-! ### Entries -/

theorem optionalText?_map_str (text : Option String) :
    optionalText? (text.map .str) = some text := by
  cases text <;> rfl

theorem optionalPort?_map_int (port : Option UInt16) :
    optionalPort? (port.map fun p => .int p.toNat) = some port := by
  cases port with
  | none => rfl
  | some p =>
    have hp := p.toNat_lt
    simp [optionalPort?]
    omega

/-- An object of plain members is written as it is. -/
theorem arranged_given {parts : List (String × Option Json)}
    (h : ∀ part ∈ parts, ∀ j ∈ part.2, Toml.isPlain j = true) :
    Toml.arranged (.obj (given parts)) = .obj (given parts) := by
  rw [Toml.arranged_obj, Toml.arrangedMembers_of_isPlain]
  intro m hm
  obtain ⟨part, hpart, hmap⟩ := List.mem_filterMap.mp hm
  obtain ⟨j, hj, rfl⟩ := Option.map_eq_some_iff.mp hmap
  exact h part hpart j hj

/-- The members of a database entry, without those that it does not have. -/
def databaseParts (e : DatabaseEntry) : List (String × Option Json) :=
  [("name", some (.str e.name)), ("user", some (.str e.user)), ("password", e.password.map .str),
    ("host", some (.str e.host)), ("port", e.port.map fun p => .int p.toNat)]

theorem filter_databaseMembers (e : DatabaseEntry) :
    (databaseMembers e).filter isGiven = given (databaseParts e) := by
  rcases e with ⟨name, user, _ | password, host, _ | port⟩ <;> rfl

theorem databaseOfJson?_arranged (e : DatabaseEntry) :
    databaseOfJson? (Toml.arranged (.obj ((databaseMembers e).filter isGiven))) = some e := by
  have hplain : ∀ part ∈ databaseParts e, ∀ j ∈ part.2, Toml.isPlain j = true := by
    rcases e with ⟨name, user, _ | password, host, _ | port⟩ <;> simp [databaseParts, Toml.isPlain]
  have hfields : fields? ["name", "user", "password", "host", "port"] 0
      (.obj (given (databaseParts e))) = some ((databaseParts e).map (·.2)) :=
    fields?_given 0 (by simp [databaseParts])
  rw [filter_databaseMembers, arranged_given hplain, databaseOfJson?, hfields]
  simp [databaseParts, requiredText?, optionalText?_map_str, optionalPort?_map_int]

/-- The members of a place, without those that it does not have. -/
def placeParts (e : S3.Path) : List (String × Option Json) :=
  [("bucket", some (.str e.bucket)), ("region", e.region.map .str), ("path", some (.str e.path)),
    ("is_dir", some (.bool e.isDirectory)), ("exclude", e.excluded.map .str),
    ("include", e.included.map .str)]

theorem filter_placeMembers (e : S3.Path) :
    (placeMembers e).filter isGiven = given (placeParts e) := by
  rcases e with ⟨bucket, _ | region, path, directory, _ | excluded, _ | included⟩ <;> rfl

theorem placeOfJson?_arranged (e : S3.Path) :
    placeOfJson? (Toml.arranged (.obj ((placeMembers e).filter isGiven))) = some e := by
  have hplain : ∀ part ∈ placeParts e, ∀ j ∈ part.2, Toml.isPlain j = true := by
    rcases e with ⟨bucket, _ | region, path, directory, _ | excluded, _ | included⟩ <;>
      simp [placeParts, Toml.isPlain]
  have hfields : fields? ["bucket", "region", "path", "is_dir", "exclude", "include"] 0
      (.obj (given (placeParts e))) = some ((placeParts e).map (·.2)) :=
    fields?_given 0 (by simp [placeParts])
  rw [filter_placeMembers, arranged_given hplain, placeOfJson?, hfields]
  simp [placeParts, requiredText?, optionalText?_map_str, flag?]

theorem textsOfJson?_arranged (texts : List String) :
    textsOfJson? (Toml.arranged (.arr (texts.map .str))) = some texts := by
  have hplain : Toml.isPlain (.arr (texts.map .str)) = true := by
    cases texts <;> simp [Toml.isPlain, Toml.isTable]
  rw [Toml.arranged_of_isPlain hplain, textsOfJson?, mapM_eq_some_iff, List.forall₂_map_left_iff,
    List.forall₂_same]
  exact fun _ _ => rfl

/-- A value is written in order: the only tables in it hold one member each. -/
theorem arranged_toJson (v : Value) : Toml.arranged v.toJson = v.toJson := by
  cases v with
  | list vs =>
    rw [Value.toJson, Value.toJsonItems_eq]
    cases hplain : Toml.isPlain (.arr (vs.map Value.toJson)) with
    | true => exact Toml.arranged_of_isPlain hplain
    | false =>
      rw [Toml.arranged_arr hplain, List.map_map]
      refine congrArg Json.arr (List.map_congr_left fun v hv => ?_)
      simp only [Toml.isPlain, Bool.or_eq_false_iff, Bool.not_eq_false', List.all_eq_true,
        List.forall_mem_map] at hplain
      have htable := hplain.2 v hv
      cases v with
      | ref => rfl
      | nil | bool | int | str | list => cases htable
  | nil | bool | int | str | ref => rfl

/-- A value is no doubles. -/
theorem isData_toJson (v : Value) : Json.IsData v.toJson := by
  induction v using Value.itemInduction with
  | nil => exact .null
  | bool b => exact .bool b
  | int n => exact .int (Value.isWord_toInt n)
  | str s => exact .str s
  | ref n => exact .obj (by simp) (List.forall_mem_singleton.mpr (.str n))
  | list vs ih =>
    rw [Value.toJson, Value.toJsonItems_eq]
    exact .arr (List.forall_mem_map.mpr ih)

theorem definitionOfJson?_arranged {v : Value} (h : v.holdsLoneString = false) :
    definitionOfJson? (Toml.arranged v.toJson) = some v := by
  rw [arranged_toJson, definitionOfJson?, (isData_toJson v).storable?_eq, Option.bind_some,
    Value.ofJson?_toJson, (Value.reread_eq_iff v).mpr h]

/-- Templates are read with their members in the order of the document. -/
theorem templatesOfJson?_arranged {rows : List (List (String × Json))}
    (h : ∀ row ∈ rows, Json.IsData (.obj row)) :
    templatesOfJson? (Toml.arranged (.arr (rows.map .obj))) =
      some (rows.map Toml.arrangedMembers) := by
  have harranged : Toml.arranged (.arr (rows.map .obj)) =
      .arr ((rows.map Toml.arrangedMembers).map .obj) := by
    cases rows with
    | nil => rfl
    | cons row rows =>
      rw [Toml.arranged_arr (by simp [Toml.isPlain, Toml.isTable]), List.map_map, List.map_map]
      rfl
  rw [harranged, templatesOfJson?, mapM_eq_some_iff, List.forall₂_map_left_iff,
    List.forall₂_same, List.forall_mem_map]
  intro row hrow
  have hdata : Json.IsData (.obj (Toml.arrangedMembers row)) := (h row hrow).arranged
  rw [hdata.storable?_eq, Option.bind_some, hdata.merged_eq]
  rfl

/-! ### Sections -/

/-- A section, if it has names. -/
def section? {α : Type} (f : α → Json) (c : Catalog α) : Option Json :=
  if c.entries.isEmpty then none else some (.obj (c.map f).entries)

theorem sectionOf_append_given {α : Type} (name : String) (f : α → Json) (c : Catalog α)
    (parts : List (String × Option Json)) :
    sectionOf name f c ++ given parts = given ((name, section? f c) :: parts) := by
  rw [given_cons, sectionOf, section?]
  cases c.entries.isEmpty <;> rfl

/-- A section is read entry by entry, in whatever order the document has them. -/
theorem sectionOfJson?_arranged {α : Type} {f : Json → Option α} {g : α → Json} (k : α → α)
    {c : Catalog α} (h : ∀ e ∈ c.entries, f (Toml.arranged (g e.2)) = some (k e.2)) :
    sectionOfJson? f ((section? g c).map Toml.arranged) = some (c.map k) := by
  rw [section?]
  split
  · next hempty =>
    rw [List.isEmpty_iff] at hempty
    obtain ⟨entries, ascending⟩ := c
    subst hempty
    rfl
  · have hentries : List.Forall₂ (fun (m : String × Json) (e : String × α) =>
        (f m.2).map (fun a => (m.1, a)) = some e)
        ((c.map g).entries.map fun m => (m.1, Toml.arranged m.2)) (c.map k).entries := by
      simp only [Catalog.map, List.map_map, List.forall₂_map_left_iff,
        List.forall₂_map_right_iff, List.forall₂_same]
      intro e he
      rw [Function.comp_apply, h e he]
      rfl
    obtain ⟨entries, hread, hperm⟩ :=
      List.perm_comp_forall₂ (Toml.arrangedMembers_perm (c.map g).entries) hentries
    rw [Option.map_some, Toml.arranged_obj, sectionOfJson?, mapM_eq_some_iff.mpr hread,
      Option.map_some, Catalog.ofList_of_perm hperm]

theorem sectionOfJson?_arranged_self {α : Type} {f : Json → Option α} {g : α → Json}
    {c : Catalog α} (h : ∀ e ∈ c.entries, f (Toml.arranged (g e.2)) = some e.2) :
    sectionOfJson? f ((section? g c).map Toml.arranged) = some c := by
  simpa using sectionOfJson?_arranged id h

/-- What stands in a section that was read was read. -/
theorem exists_of_mem_sectionOfJson? {α : Type} {f : Json → Option α} {j? : Option Json}
    {c : Catalog α} (h : sectionOfJson? f j? = some c) {e : String × α} (he : e ∈ c.entries) :
    ∃ j, f j = some e.2 := by
  rw [sectionOfJson?.eq_def] at h
  split at h
  · cases h
    cases he
  · next members =>
    obtain ⟨entries, hentries, rfl⟩ := Option.map_eq_some_iff.mp h
    obtain ⟨m, -, hm⟩ := exists_left_of_mem (mapM_eq_some_iff.mp hentries)
      (Catalog.mem_of_mem_entries_ofList he)
    obtain ⟨a, ha, rfl⟩ := Option.map_eq_some_iff.mp hm
    exact ⟨m.2, ha⟩
  · cases h

/-! ### Documents -/

/-- The sections with their names; `entry` says how an entry with its members is written. -/
def parts (entry : List (String × Json) → Json) (p : Presets) : List (String × Option Json) :=
  [("psql_db", section? (fun e => entry (databaseMembers e)) p.databases),
    ("s3_path", section? (fun e => entry (placeMembers e)) p.places),
    ("dumps", section? (fun ts => .arr (ts.map .str)) p.dumps),
    ("queries", section? (fun ts => .arr (ts.map .str)) p.queries),
    ("definitions", section? Value.toJson p.definitions),
    ("contexts", section? (fun rows => .arr (rows.map .obj)) p.contexts)]

theorem sections_eq (entry : List (String × Json) → Json) (p : Presets) :
    p.sections entry = given (p.parts entry) := by
  have hnil : given [] = [] := rfl
  simp only [sections, parts, ← sectionOf_append_given, hnil, List.append_nil, List.append_assoc]

/-- An entry without the members that it does not have. -/
def writtenEntry (members : List (String × Json)) : Json := .obj (members.filter isGiven)

/-- What is written of presets. -/
def document (p : Presets) : Json := .obj (p.sections writtenEntry)

theorem text?_eq (p : Presets) : p.text? = Toml.print? p.document := rfl

/-- The document with the order of members that it is read with. -/
theorem arranged_document (p : Presets) :
    Toml.arranged p.document = .obj (given ((p.parts writtenEntry).map fun part =>
      (part.1, part.2.map Toml.arranged))) := by
  have htable {α : Type} (f : α → Json) (c : Catalog α) :
      ∀ j ∈ section? f c, Toml.isPlain j = false := by
    rw [section?]
    cases c.entries.isEmpty <;> simp [Toml.isPlain]
  rw [document, sections_eq, Toml.arranged_obj, Toml.arrangedMembers_of_not_isPlain, given_map]
  intro m hm
  obtain ⟨part, hpart, hmap⟩ := List.mem_filterMap.mp hm
  obtain ⟨j, hj, rfl⟩ := Option.map_eq_some_iff.mp hmap
  simp only [parts, List.mem_cons, List.not_mem_nil, or_false] at hpart
  obtain rfl | rfl | rfl | rfl | rfl | rfl := hpart <;> exact htable _ _ j hj

/-- Presets are read section by section. -/
theorem ofJson?_eq_some_iff {j : Json} {p : Presets} :
    ofJson? j = some p ↔ ∃ databases places dumps queries definitions contexts,
      fields? ["psql_db", "s3_path", "dumps", "queries", "definitions", "contexts"] 6 j =
        some [databases, places, dumps, queries, definitions, contexts] ∧
      sectionOfJson? databaseOfJson? databases = some p.databases ∧
      sectionOfJson? placeOfJson? places = some p.places ∧
      sectionOfJson? textsOfJson? dumps = some p.dumps ∧
      sectionOfJson? textsOfJson? queries = some p.queries ∧
      sectionOfJson? definitionOfJson? definitions = some p.definitions ∧
      sectionOfJson? templatesOfJson? contexts = some p.contexts := by
  rw [ofJson?]
  constructor
  · intro h
    obtain ⟨fields, hfields, h⟩ := Option.bind_eq_some_iff.mp h
    split at h
    · simp only [Option.bind_eq_bind, Option.bind_eq_some_iff] at h
      obtain ⟨_, h₁, _, h₂, _, h₃, _, h₄, _, h₅, _, h₆, h⟩ := h
      cases h
      exact ⟨_, _, _, _, _, _, hfields, h₁, h₂, h₃, h₄, h₅, h₆⟩
    · cases h
  · rintro ⟨databases, places, dumps, queries, definitions, contexts, hfields, h₁, h₂, h₃, h₄, h₅,
      h₆⟩
    simp [hfields, h₁, h₂, h₃, h₄, h₅, h₆]

/-- Presets that a document can hold: no definition has the list of a single string in it, and all
that the templates hold is data. -/
structure Documented (p : Presets) : Prop where
  definitions : ∀ e ∈ p.definitions.entries, e.2.holdsLoneString = false
  contexts : ∀ e ∈ p.contexts.entries, ∀ row ∈ e.2, Json.IsData (.obj row)

/-- The templates with the order of members that they are read with. -/
def arranged (p : Presets) : Presets :=
  { p with contexts := p.contexts.map (List.map Toml.arrangedMembers) }

/-- **Presets are read out of their document**, the members of templates in another order. -/
theorem ofJson?_arranged_document {p : Presets} (h : p.Documented) :
    ofJson? (Toml.arranged p.document) = some p.arranged := by
  have hfields : fields? ["psql_db", "s3_path", "dumps", "queries", "definitions", "contexts"] 6
      (Toml.arranged p.document) =
        some ((p.parts writtenEntry).map fun part => part.2.map Toml.arranged) := by
    rw [arranged_document]
    refine (fields?_given 6 (by simp [parts])).trans ?_
    rw [List.map_map]
    rfl
  refine ofJson?_eq_some_iff.mpr ⟨_, _, _, _, _, _, hfields, ?_, ?_, ?_, ?_, ?_, ?_⟩
  · exact sectionOfJson?_arranged_self fun e _ => databaseOfJson?_arranged e.2
  · exact sectionOfJson?_arranged_self fun e _ => placeOfJson?_arranged e.2
  · exact sectionOfJson?_arranged_self fun e _ => textsOfJson?_arranged e.2
  · exact sectionOfJson?_arranged_self fun e _ => textsOfJson?_arranged e.2
  · exact sectionOfJson?_arranged_self fun e he => definitionOfJson?_arranged (h.definitions e he)
  · exact sectionOfJson?_arranged _ fun e he => templatesOfJson?_arranged (h.contexts e he)

/-! ### What a document holds -/

theorem names_given (parts : List (String × Option Json)) :
    ((given parts).map (·.1)).Sublist (parts.map (·.1)) := by
  induction parts with
  | nil => exact .slnil
  | cons part parts ih =>
    rw [given_cons]
    cases part.2 with
    | none => exact ih.cons _
    | some j => exact ih.cons_cons _

theorem isData_given {parts : List (String × Option Json)} (hnodup : (parts.map (·.1)).Nodup)
    (h : ∀ part ∈ parts, ∀ j ∈ part.2, Json.IsData j) : Json.IsData (.obj (given parts)) := by
  refine .obj ((names_given parts).nodup hnodup) fun m hm => ?_
  obtain ⟨part, hpart, hmap⟩ := List.mem_filterMap.mp hm
  obtain ⟨j, hj, rfl⟩ := Option.map_eq_some_iff.mp hmap
  exact h part hpart j hj

theorem isData_section? {α : Type} {f : α → Json} {c : Catalog α}
    (h : ∀ e ∈ c.entries, Json.IsData (f e.2)) : ∀ j ∈ section? f c, Json.IsData j := by
  rw [section?]
  split
  · exact fun _ hj => (by cases hj)
  · rintro _ ⟨⟩
    exact .obj (c.map f).nodup_names (List.forall_mem_map.mpr h)

theorem isData_texts (texts : List String) : Json.IsData (.arr (texts.map .str)) :=
  .arr (List.forall_mem_map.mpr fun s _ => .str s)

theorem isData_optional {α : Type} {f : α → Json} (h : ∀ a, Json.IsData (f a)) (a? : Option α) :
    ∀ j ∈ a?.map f, Json.IsData j := by
  intro j hj
  obtain ⟨a, -, rfl⟩ := Option.map_eq_some_iff.mp hj
  exact h a

theorem isData_databaseMembers (e : DatabaseEntry) :
    Json.IsData (writtenEntry (databaseMembers e)) := by
  have htext := isData_optional Json.IsData.str
  have hport (port : UInt16) : Json.IsData (.int port.toNat) := by
    have := port.toNat_lt
    exact .int ⟨by omega, by omega⟩
  rw [writtenEntry, filter_databaseMembers]
  refine isData_given (by simp [databaseParts]) ?_
  simp only [databaseParts, List.forall_mem_cons]
  exact ⟨htext (some _), htext (some _), htext _, htext (some _), isData_optional hport _,
    List.forall_mem_nil _⟩

theorem isData_placeMembers (e : S3.Path) : Json.IsData (writtenEntry (placeMembers e)) := by
  have htext := isData_optional Json.IsData.str
  rw [writtenEntry, filter_placeMembers]
  refine isData_given (by simp [placeParts]) ?_
  simp only [placeParts, List.forall_mem_cons]
  exact ⟨htext (some _), htext _, htext (some _), isData_optional Json.IsData.bool (some _),
    htext _, htext _, List.forall_mem_nil _⟩

/-- What is written is data. -/
theorem isData_document {p : Presets} (h : p.Documented) : Json.IsData p.document := by
  rw [document, sections_eq]
  refine isData_given (by simp [parts]) ?_
  simp only [parts, List.forall_mem_cons]
  exact ⟨isData_section? fun e _ => isData_databaseMembers e.2,
    isData_section? fun e _ => isData_placeMembers e.2, isData_section? fun e _ => isData_texts e.2,
    isData_section? fun e _ => isData_texts e.2, isData_section? fun e _ => isData_toJson e.2,
    isData_section? fun e he => .arr (List.forall_mem_map.mpr (h.contexts e he)),
    List.forall_mem_nil _⟩

/-! ### The same presets -/

/-- Parts of which the same are there are the same part by part. -/
theorem same_given_iff {ps qs : List (String × Option Json)}
    (h : List.Forall₂ (fun p q => p.1 = q.1 ∧ p.2.isSome = q.2.isSome) ps qs)
    (hnodup : (qs.map (·.1)).Nodup) :
    (Json.obj (given ps)).same (.obj (given qs)) = true ↔
      List.Forall₂ (fun p q => ∀ j ∈ p.2, ∀ k ∈ q.2, j.same k = true) ps qs := by
  have hnames : (given ps).map (·.1) = (given qs).map (·.1) := by
    clear hnodup
    induction h with
    | nil => rfl
    | @cons p q ps qs hpq _ ih =>
      rcases p with ⟨name, _ | j⟩ <;> rcases q with ⟨name', _ | k⟩ <;> simp_all [given_cons]
  rw [Json.same_obj_iff_of_names hnames ((names_given qs).nodup hnodup)]
  clear hnodup hnames
  induction h with
  | nil => exact ⟨fun _ => .nil, fun _ => .nil⟩
  | @cons p q ps qs hpq _ ih =>
    rcases p with ⟨name, _ | j⟩ <;> rcases q with ⟨name', _ | k⟩ <;> simp_all [given_cons]

theorem isEmpty_of_names {α : Type} {c d : Catalog α} (hnames : c.names = d.names) :
    c.entries.isEmpty = d.entries.isEmpty := by
  simpa [Catalog.names] using congrArg List.isEmpty hnames

theorem isSome_section? {α : Type} (f : α → Json) {c d : Catalog α} (hnames : c.names = d.names) :
    (section? f c).isSome = (section? f d).isSome := by
  rw [section?, section?, isEmpty_of_names hnames]
  cases d.entries.isEmpty <;> rfl

/-- Sections with the same names are the same thing by thing. -/
theorem same_section?_iff {α : Type} {f : α → Json} {c d : Catalog α} (hnames : c.names = d.names) :
    (∀ j ∈ section? f c, ∀ k ∈ section? f d, j.same k = true) ↔
      List.Forall₂ (fun e e' => (f e.2).same (f e'.2) = true) c.entries d.entries := by
  rw [section?, section?, isEmpty_of_names hnames]
  cases hempty : d.entries.isEmpty with
  | true =>
    have hc := (isEmpty_of_names hnames).trans hempty
    rw [List.isEmpty_iff] at hempty hc
    simp [hempty, hc]
  | false =>
    have hmap : (c.map f).names = (d.map f).names := by
      rw [Catalog.names_map, Catalog.names_map, hnames]
    have hsame := Json.same_obj_iff_of_names hmap (d.map f).nodup_names
    simpa [Catalog.map, List.forall₂_map_left_iff, List.forall₂_map_right_iff] using hsame

theorem entries_eq_of_forall₂ {α : Type} {es es' : List (String × α)}
    (hnames : es.map (·.1) = es'.map (·.1)) (h : List.Forall₂ (fun e e' => e.2 = e'.2) es es') :
    es = es' := by
  induction h with
  | nil => rfl
  | cons hthing _ ih =>
    rw [List.map_cons, List.map_cons, List.cons.injEq] at hnames
    rw [ih hnames.2, Prod.ext hnames.1 hthing]

/-- Where things are the same only if they are equal, sections are. -/
theorem same_section?_iff_eq {α : Type} {f : α → Json} {c d : Catalog α}
    (hf : ∀ a b, (f a).same (f b) = true ↔ a = b) (hnames : c.names = d.names) :
    (∀ j ∈ section? f c, ∀ k ∈ section? f d, j.same k = true) ↔ c = d := by
  rw [same_section?_iff hnames]
  simp only [hf]
  constructor
  · intro h
    rw [← c.ofList_entries, entries_eq_of_forall₂ hnames h, d.ofList_entries]
  · rintro rfl
    exact List.forall₂_same.mpr fun _ _ => rfl

/-- A section is the same as one with things made of its own that are the same. -/
theorem same_section?_map {α : Type} {f : α → Json} {g : α → α} {c : Catalog α}
    (h : ∀ e ∈ c.entries, (f e.2).same (f (g e.2)) = true) :
    ∀ j ∈ section? f c, ∀ k ∈ section? f (c.map g), j.same k = true := by
  rw [same_section?_iff (Catalog.names_map g c).symm]
  exact List.forall₂_map_right_iff.mpr (List.forall₂_same.mpr h)

theorem same_textOrNull_iff {text text' : Option String} :
    (textOrNull text).same (textOrNull text') = true ↔ text = text' := by
  cases text <;> cases text' <;> simp [textOrNull, Json.same]

theorem same_databaseMembers_iff (e e' : DatabaseEntry) :
    (Json.obj (databaseMembers e)).same (.obj (databaseMembers e')) = true ↔ e = e' := by
  have hnames : (databaseMembers e).map (·.1) = (databaseMembers e').map (·.1) := rfl
  have hport (p p' : UInt16) : (Json.int p.toNat).same (.int p'.toNat) = true ↔ p = p' := by
    rw [Json.same, beq_iff_eq, Int.natCast_inj, UInt16.toNat_inj]
  rw [Json.same_obj_iff_of_names hnames (by simp [databaseMembers])]
  simp only [databaseMembers, List.forall₂_cons, same_textOrNull_iff]
  rcases e with ⟨name, user, password, host, _ | port⟩ <;>
    rcases e' with ⟨name', user', password', host', _ | port'⟩ <;>
    simp only [hport] <;>
    simp [Json.same]

theorem same_placeMembers_iff (e e' : S3.Path) :
    (Json.obj (placeMembers e)).same (.obj (placeMembers e')) = true ↔ e = e' := by
  have hnames : (placeMembers e).map (·.1) = (placeMembers e').map (·.1) := rfl
  rw [Json.same_obj_iff_of_names hnames (by simp [placeMembers])]
  simp only [placeMembers, List.forall₂_cons, same_textOrNull_iff]
  cases e
  cases e'
  simp [Json.same]

theorem same_texts_iff (texts texts' : List String) :
    (Json.arr (texts.map .str)).same (.arr (texts'.map .str)) = true ↔ texts = texts' := by
  rw [Json.same_arr_iff, List.forall₂_map_left_iff, List.forall₂_map_right_iff]
  simp [Json.same, List.forall₂_eq_eq_eq]

/-- **Presets are the same as those that are read out of their document** with the same databases,
places and dumps, and only then. -/
theorem same_iff {p q : Presets} (h : p.Documented) (hqueries : q.queries = p.queries)
    (hdefinitions : q.definitions = p.definitions) (hcontexts : q.contexts = p.arranged.contexts)
    (hnames : p.databases.names = q.databases.names ∧ p.places.names = q.places.names ∧
      p.dumps.names = q.dumps.names) :
    p.same q = true ↔ p.databases = q.databases ∧ p.places = q.places ∧ p.dumps = q.dumps := by
  have hqueries' : ∀ j ∈ section? (fun ts => Json.arr (ts.map .str)) p.queries,
      ∀ k ∈ section? (fun ts => Json.arr (ts.map .str)) q.queries, j.same k = true := by
    rw [hqueries, same_section?_iff_eq same_texts_iff rfl]
  have hdefinitions' : ∀ j ∈ section? Value.toJson p.definitions,
      ∀ k ∈ section? Value.toJson q.definitions, j.same k = true := by
    rw [hdefinitions, same_section?_iff rfl, List.forall₂_same]
    exact fun e _ => (isData_toJson e.2).same_self
  have hcontexts' : ∀ j ∈ section? (fun rows => Json.arr (rows.map .obj)) p.contexts,
      ∀ k ∈ section? (fun rows => Json.arr (rows.map .obj)) q.contexts, j.same k = true := by
    rw [hcontexts]
    refine same_section?_map fun e he => ?_
    rw [Json.same_arr_iff, List.map_map, List.forall₂_map_left_iff, List.forall₂_map_right_iff,
      List.forall₂_same]
    exact fun row hrow => (h.contexts e he row hrow).same_arranged
  have hparts : List.Forall₂ (fun p q => p.1 = q.1 ∧ p.2.isSome = q.2.isSome) (p.parts .obj)
      (q.parts .obj) := by
    have hcontextNames : p.contexts.names = q.contexts.names := by
      rw [hcontexts, arranged, Catalog.names_map]
    exact .cons ⟨rfl, isSome_section? _ hnames.1⟩ (.cons ⟨rfl, isSome_section? _ hnames.2.1⟩
      (.cons ⟨rfl, isSome_section? _ hnames.2.2⟩ (.cons ⟨rfl, by rw [hqueries]⟩
        (.cons ⟨rfl, by rw [hdefinitions]⟩ (.cons ⟨rfl, isSome_section? _ hcontextNames⟩ .nil)))))
  rw [same, toJson, toJson, sections_eq, sections_eq, same_given_iff hparts (by simp [parts])]
  simp only [parts, List.forall₂_cons, List.forall₂_nil_left_iff, and_true,
    same_section?_iff_eq same_databaseMembers_iff hnames.1,
    same_section?_iff_eq same_placeMembers_iff hnames.2.1,
    same_section?_iff_eq same_texts_iff hnames.2.2]
  exact ⟨fun h => ⟨h.1, h.2.1, h.2.2.1⟩,
    fun h => ⟨h.1, h.2.1, h.2.2, hqueries', hdefinitions', hcontexts'⟩⟩

end Runbook.Presets
