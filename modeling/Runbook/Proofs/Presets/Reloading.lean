import Runbook.Proofs.Presets.Document
import Runbook.Proofs.Presets.Texts
import Runbook.Proofs.Toml.Documents

/-!
# Presets that are written and loaded again

What was loaded has its texts expanded, and loading a document of it expands them once more. So the
same presets come back exactly if that changes nothing (`Settled`): every text stands for itself,
and every dump path for a text which, read as a pattern, gives that path alone.
-/

namespace Runbook

variable {env : Environment} {files : FileTree}

namespace Presets

/-- In no definition and in no template of contexts is a null. -/
def HoldsNoNull (p : Presets) : Prop :=
  (∀ e ∈ p.definitions.entries, e.2.toJson.holdsNull = false) ∧
    ∀ e ∈ p.contexts.entries, ∀ row ∈ e.2, (Json.obj row).holdsNull = false

/-- Expanding the texts once more changes nothing. -/
structure Settled (env : Environment) (files : FileTree) (p : Presets) : Prop where
  databases : ∀ e ∈ p.databases.entries, ∀ s ∈ databaseTexts e.2, env.expand s = .ok s
  places : ∀ e ∈ p.places.entries, ∀ s ∈ placeTexts e.2, env.expand s = .ok s
  dumps : ∀ e ∈ p.dumps.entries, ∀ s ∈ e.2, ∃ s', env.expand s = .ok s' ∧
    Glob.Spreads files (some s') [some s]

/-! ### Expanding once more -/

theorem expandsDatabase_self_iff {e : DatabaseEntry} :
    ExpandsDatabase env e e ↔ ∀ s ∈ databaseTexts e, env.expand s = .ok s := by
  simp only [databaseTexts, List.forall_mem_append, List.forall_mem_cons, ← stands_self_iff]
  constructor
  · exact fun h => ⟨⟨h.name, h.user, h.host, List.forall_mem_nil _⟩, h.password⟩
  · rintro ⟨⟨hname, huser, hhost, -⟩, hpassword⟩
    exact ⟨hname, huser, hpassword, hhost, rfl⟩

theorem expandsPlace_self_iff {e : S3.Path} :
    ExpandsPlace env Eq e e ↔ ∀ s ∈ placeTexts e, env.expand s = .ok s := by
  simp only [placeTexts, List.forall_mem_append, List.forall_mem_cons, ← stands_self_iff]
  constructor
  · exact fun h => ⟨⟨h.bucket, h.path, List.forall_mem_nil _⟩, h.region⟩
  · rintro ⟨⟨hbucket, hpath, -⟩, hregion⟩
    exact ⟨hbucket, hregion, hpath, rfl, rfl, rfl⟩

/-- What dump paths name, path by path. -/
theorem expandsDumps_iff {paths found : List String} :
    ExpandsDumps env files paths found ↔ ∃ parts,
      List.Forall₂ (fun path part => ∃ path', env.expand path = .ok path' ∧
        Glob.Spreads files (some path') part) paths parts ∧
      parts.flatten = found.map some := by
  simp only [ExpandsDumps, Psql.expandPaths_eq_ok_iff, Glob.expandAll_eq_ok_iff,
    List.forall₂_map_left_iff, ← exists_forall₂_and_iff]
  constructor
  · rintro ⟨expanded, hexpanded, parts, hparts, hflatten⟩
    exact ⟨parts, ⟨expanded, hexpanded, hparts⟩, hflatten⟩
  · rintro ⟨parts, ⟨expanded, hexpanded, hparts⟩, hflatten⟩
    exact ⟨expanded, hexpanded, parts, hparts, hflatten⟩

/-- A listing of dump paths is expanded to itself if each path is, and only then: no path may
become several, since none becomes nothing. -/
theorem expandsDumps_self_iff {paths : List String} :
    ExpandsDumps env files paths paths ↔ ∀ s ∈ paths, ∃ s', env.expand s = .ok s' ∧
      Glob.Spreads files (some s') [some s] := by
  rw [expandsDumps_iff]
  constructor
  · rintro ⟨parts, hparts, hflatten⟩
    have hne : List.Forall₂ (fun _ part => part ≠ []) (paths.map some) parts := by
      refine List.forall₂_map_left_iff.mpr (hparts.imp ?_)
      rintro _ _ ⟨_, _, h⟩
      exact h.ne_nil
    rw [Glob.eq_map_singleton_of_flatten_eq hne hflatten, List.map_map,
      List.forall₂_map_right_iff, List.forall₂_same] at hparts
    exact hparts
  · intro h
    refine ⟨(paths.map some).map ([·]), ?_, List.flatMap_singleton' _⟩
    rw [List.map_map, List.forall₂_map_right_iff, List.forall₂_same]
    exact h

/-- A section is expanded to itself if each of its things is. -/
theorem related_self_iff {α : Type} {R : α → α → Prop} {c : Catalog α} :
    Related R c c ↔ ∀ e ∈ c.entries, R e.2 e.2 := by
  simp only [Related, List.forall₂_same, true_and]

theorem Related.names_eq {α : Type} {R : α → α → Prop} {c d : Catalog α} (h : Related R c d) :
    c.names = d.names := by
  rw [Related] at h
  rw [Catalog.names, Catalog.names]
  generalize c.entries = es at h ⊢
  generalize d.entries = es' at h ⊢
  induction h with
  | nil => rfl
  | cons hentry _ ih => rw [List.map_cons, List.map_cons, hentry.1, ih]

theorem settled_iff {p : Presets} :
    Settled env files p ↔ Related (ExpandsDatabase env) p.databases p.databases ∧
      Related (ExpandsPlace env Eq) p.places p.places ∧
      Related (ExpandsDumps env files) p.dumps p.dumps := by
  simp only [related_self_iff, expandsDatabase_self_iff, expandsPlace_self_iff,
    expandsDumps_self_iff]
  exact ⟨fun h => ⟨h.databases, h.places, h.dumps⟩, fun h => ⟨h.1, h.2.1, h.2.2⟩⟩

/-! ### What was loaded -/

theorem eq_obj_of_members? {j : Json} {ms : List (String × Json)} (h : j.members? = some ms) :
    j = .obj ms := by
  cases j with
  | obj => cases h; rfl
  | null | bool | int | float | str | arr => cases h

theorem exists_of_templatesOfJson? {j : Json} {rows : List (List (String × Json))}
    (h : templatesOfJson? j = some rows) :
    ∃ js, List.Forall₂ (fun j row => (storable? j).bind (·.merged.members?) = some row) js
      rows := by
  cases j with
  | arr js => exact ⟨js, mapM_eq_some_iff.mp h⟩
  | null | bool | int | float | str | obj => cases h

/-- What was written is held by a document. -/
theorem documented_of_written? {text : String} {w : Presets} (h : written? text = some w) :
    w.Documented := by
  obtain ⟨j, -, hj⟩ := Option.bind_eq_some_iff.mp h
  obtain ⟨_, _, _, _, _, _, -, -, -, -, -, hdefinitions, hcontexts⟩ := ofJson?_eq_some_iff.mp hj
  refine ⟨fun e he => ?_, fun e he row hrow => ?_⟩
  · obtain ⟨j, hj⟩ := exists_of_mem_sectionOfJson? hdefinitions he
    obtain ⟨-, -, hv⟩ := Option.bind_eq_some_iff.mp hj
    exact Value.holdsLoneString_of_ofJson? hv
  · obtain ⟨j, hj⟩ := exists_of_mem_sectionOfJson? hcontexts he
    obtain ⟨js, hrows⟩ := exists_of_templatesOfJson? hj
    obtain ⟨j, -, hread⟩ := exists_left_of_mem hrows hrow
    obtain ⟨k, hk, hmembers⟩ := Option.bind_eq_some_iff.mp hread
    rw [← eq_obj_of_members? hmembers]
    exact Json.isData_merged hk

theorem documented_of_parse {text : String} {p : Presets} (h : parse env files text = .ok p) :
    p.Documented := by
  obtain ⟨w, hw, hexpands⟩ := parse_eq_ok_iff.mp h
  obtain ⟨hdefinitions, hcontexts⟩ := documented_of_written? hw
  exact ⟨hexpands.definitions ▸ hdefinitions, hexpands.contexts ▸ hcontexts⟩

/-! ### Written and loaded again -/

theorem holdsNull_given_iff {parts : List (String × Option Json)} :
    (Json.obj (given parts)).holdsNull = false ↔
      ∀ part ∈ parts, ∀ j ∈ part.2, j.holdsNull = false := by
  rw [Json.holdsNull_obj_eq_false_iff]
  induction parts with
  | nil => simp [given]
  | cons part parts ih =>
    rw [given_cons, List.forall_mem_append, List.forall_mem_cons, ih]
    cases part.2 <;> simp

theorem holdsNull_section?_iff {α : Type} {f : α → Json} {c : Catalog α} :
    (∀ j ∈ section? f c, j.holdsNull = false) ↔ ∀ e ∈ c.entries, (f e.2).holdsNull = false := by
  rw [section?]
  split
  · next hempty =>
    rw [List.isEmpty_iff] at hempty
    simp [hempty]
  · simp only [Option.mem_def, Option.some.injEq, forall_eq', Json.holdsNull_obj_eq_false_iff,
      Catalog.map, List.forall_mem_map]

/-- A text or number that an entry does not have is left out. -/
theorem holdsNull_writtenEntry_database (e : DatabaseEntry) :
    (writtenEntry (databaseMembers e)).holdsNull = false := by
  rcases e with ⟨name, user, _ | password, host, _ | port⟩ <;> rfl

theorem holdsNull_writtenEntry_place (e : S3.Path) :
    (writtenEntry (placeMembers e)).holdsNull = false := by
  rcases e with ⟨bucket, _ | region, path, directory, _ | excluded, _ | included⟩ <;> rfl

theorem holdsNull_texts (texts : List String) :
    (Json.arr (texts.map .str)).holdsNull = false := by
  rw [Json.holdsNull_arr_eq_false_iff, List.forall_mem_map]
  exact fun _ _ => rfl

/-- **Presets are written exactly if nothing in them is null.** -/
theorem isSome_text?_iff (p : Presets) : p.text?.isSome = true ↔ p.HoldsNoNull := by
  rw [text?_eq, document, Toml.isSome_print?_iff, sections_eq, holdsNull_given_iff]
  simp only [parts, List.forall_mem_cons, holdsNull_section?_iff, holdsNull_writtenEntry_database,
    holdsNull_writtenEntry_place, holdsNull_texts, Json.holdsNull_arr_eq_false_iff,
    List.forall_mem_map]
  simp [HoldsNoNull]

/-- Presets that are read out of a document are those of the document exactly if they are
settled. -/
theorem expand_arranged_same_iff {p : Presets} (h : p.Documented) :
    (∃ q, p.arranged.expand env files = .ok q ∧ p.same q = true) ↔ Settled env files p := by
  rw [settled_iff]
  simp only [expand_eq_ok_iff]
  constructor
  · rintro ⟨q, hq, hsame⟩
    rw [same_iff h hq.queries hq.definitions hq.contexts
      ⟨hq.databases.names_eq, hq.places.names_eq, hq.dumps.names_eq⟩] at hsame
    obtain ⟨hdatabases, hplaces, hdumps⟩ := hsame
    exact ⟨hdatabases ▸ hq.databases, hplaces ▸ hq.places, hdumps ▸ hq.dumps⟩
  · rintro ⟨hdatabases, hplaces, hdumps⟩
    have hsame : p.same p.arranged = true := by
      refine (same_iff h ?_ ?_ ?_ ⟨?_, ?_, ?_⟩).mpr ⟨?_, ?_, ?_⟩ <;> rfl
    exact ⟨p.arranged, ⟨hdatabases, hplaces, hdumps, rfl, rfl, rfl⟩, hsame⟩

/-- **Loaded presets are written exactly if nothing in them is null, and loading what was written
gives the same presets exactly if they are settled**, as long as no line is nested deeper than TOML
is read. -/
theorem parse_text_same_iff {text : String} {p : Presets} (h : parse env files text = .ok p) :
    (p.text?.isSome = true ↔ p.HoldsNoNull) ∧
      ∀ printed, p.text? = some printed → Toml.lineLevels p.document ≤ Toml.depthMax →
        ((∃ q, parse env files printed = .ok q ∧ p.same q = true) ↔ Settled env files p) := by
  have hp := documented_of_parse h
  refine ⟨isSome_text?_iff p, fun printed hprinted hlevels => ?_⟩
  have hread : Toml.parse? printed = some (Toml.arranged p.document) :=
    Toml.parse?_print? (isData_document hp) hlevels hprinted
  have hparse : parse env files printed = p.arranged.expand env files := by
    rw [parse, hread, Option.bind_some, ofJson?_arranged_document hp]
  rw [hparse, expand_arranged_same_iff hp]

/-- Presets that hold a single place. -/
def placeAlone (bucket : String) : Presets :=
  { empty with places := .ofList [("x", ⟨bucket, none, "p", false, none, none⟩)] }

/-- A place in a bucket. -/
def bText : String := "[s3_path.x]\nbucket=\"b\"\npath=\"p\"\n"

/-- The place as it is written. -/
def bPrinted : String := "[s3_path.x]\nbucket = \"b\"\npath = \"p\"\nis_dir = false\n"

/-- A place with nothing to expand comes back as it was. -/
theorem parse_text_same_place :
    parse [] ⟨[], []⟩ bText = .ok (placeAlone "b") ∧
      (placeAlone "b").text? = some bPrinted ∧
      Toml.lineLevels (placeAlone "b").document ≤ Toml.depthMax ∧
      ∃ q, parse [] ⟨[], []⟩ bPrinted = .ok q ∧ (placeAlone "b").same q = true := by
  have hwritten : written? bText = some (placeAlone "b") := by decide +kernel
  have hparse : parse [] ⟨[], []⟩ bText = .ok (placeAlone "b") := by
    rw [parse, ← written?, hwritten]
    rfl
  have hprinted : (placeAlone "b").text? = some bPrinted := by decide +kernel
  have hlevels : Toml.lineLevels (placeAlone "b").document ≤ Toml.depthMax := by decide
  have hsettled : Settled [] ⟨[], []⟩ (placeAlone "b") :=
    ⟨by decide, by decide, fun _ he => absurd he List.not_mem_nil⟩
  exact ⟨hparse, hprinted, hlevels,
    ((parse_text_same_iff hparse).2 bPrinted hprinted hlevels).mpr hsettled⟩

/-- A bucket that is written by two dollars in the place of one. -/
def dollarsText : String := "[s3_path.x]\nbucket=\"$$A\"\npath=\"p\"\n"

/-- What was loaded of it, written: the bucket goes by a variable now. -/
def dollarPrinted : String := "[s3_path.x]\nbucket = \"$A\"\npath = \"p\"\nis_dir = false\n"

/-- A template with a number that is read as null. -/
def nanText : String := "[[contexts.x]]\na=nan\n"

/-- Presets were loaded that cannot be written. -/
def isUnwritable : Except PresetsError Presets → Bool
  | .ok p => p.text?.isNone
  | .error _ => false

/-- What was loaded comes back otherwise where its text is expanded further, and does not come
back at all where it holds a null. -/
theorem parse_text_other :
    (parse [("A", "b")] ⟨[], []⟩ dollarsText = .ok (placeAlone "$A") ∧
      (placeAlone "$A").text? = some dollarPrinted ∧
      parse [("A", "b")] ⟨[], []⟩ dollarPrinted = .ok (placeAlone "b") ∧
      (placeAlone "$A").same (placeAlone "b") = false) ∧
    ∃ p, parse [] ⟨[], []⟩ nanText = .ok p ∧ p.text? = none := by
  have hdollars : written? dollarsText = some (placeAlone "$$A") := by decide +kernel
  have hdollar : written? dollarPrinted = some (placeAlone "$A") := by decide +kernel
  refine ⟨⟨?_, by decide +kernel, ?_, by decide⟩, ?_⟩
  · rw [parse, ← written?, hdollars]
    rfl
  · rw [parse, ← written?, hdollar]
    rfl
  · have hnan : isUnwritable (parse [] ⟨[], []⟩ nanText) = true := by decide +kernel
    cases hp : parse [] ⟨[], []⟩ nanText with
    | error e =>
      rw [hp] at hnan
      cases hnan
    | ok p =>
      rw [hp] at hnan
      exact ⟨p, rfl, Option.isNone_iff_eq_none.mp hnan⟩

end Presets

end Runbook
