import Runbook.Definition.Builtin
import Runbook.Presets.Basic
import Runbook.Proofs.Definition.Fields
import Runbook.Proofs.Definition.Resolution

/-!
# Registered presets

Presets have five sections whose things are defined in a registry, all under names of the one table
of presets there. So a name may stand in several sections, in the registry already, and among the
generators. Of the sections the last one wins: `entryOf?` gives the entry that a name leads to,
looking through the sections in the order of precedence, and `find?_register` says that registering
puts exactly these entries over what the registry has.

A database or a place is registered as a list of values, with nil for what is not set. Nothing is
lost on the way, as no text is read as nil or false, so what is read under its name is the database
or the place itself (`ofValue_of_resolve`).
-/

namespace Runbook

/-! ### Definitions of databases and places -/

theorem Psql.Database.ofValue_of_resolve {scope : Scope} {v : Value} {d : Database}
    (h : scope.resolve v = d.toValue.elements) : ofValue scope v = .ok d := by
  have hvalues : Fields.ofValue scope databaseNoun v =
      ⟨scope, databaseNoun, d.toValue.elements⟩ := by
    rw [Fields.ofValue, h]
  simp only [ofValue, hvalues, bind_eq_ok_iff]
  exact ⟨d.name, Fields.text?_ofText? rfl _, d.user, Fields.text?_ofText? rfl _,
    d.password, Fields.text?_ofText? rfl _, d.host, Fields.text?_ofText? rfl _,
    d.port, Fields.text?_ofText? rfl _, rfl⟩

theorem S3.Path.ofValue_of_resolve {scope : Scope} {v : Value} {p : Path}
    (h : scope.resolve v = p.toValue.elements) : ofValue scope v = .ok p := by
  have hvalues : Fields.ofValue scope "aws_s3_path" v =
      ⟨scope, "aws_s3_path", p.toValue.elements⟩ := by
    rw [Fields.ofValue, h]
  have hflag : (Fields.mk scope "aws_s3_path" p.toValue.elements).flag 3 = p.isDirectory := by
    simp only [Fields.flag, Fields.value, toValue, Value.elements, List.getElem?_cons_succ,
      List.getElem?_cons_zero, Option.getD_some]
    cases p.isDirectory <;> rfl
  simp only [ofValue, hvalues, hflag, bind_eq_ok_iff]
  exact ⟨p.bucket, rfl, p.region, Fields.text?_ofText? rfl _, p.path, rfl,
    p.excluded, Fields.text?_ofText? rfl _, p.included, Fields.text?_ofText? rfl _, rfl⟩

namespace Presets

/-! ### What a name leads to -/

/-- A thing of presets that is registered. -/
inductive Entry where
  | definition (v : Value)
  | queries (texts : List String)
  | dumps (paths : List String)
  | place (path : S3.Path)
  | database (e : DatabaseEntry)

/-- The value as which a thing is registered. -/
def Entry.value : Entry → Value
  | .definition v => v
  | .queries texts => .strings texts
  | .dumps paths => .strings paths
  | .place path => path.toValue
  | .database e => e.database.toValue

/-- The first thing of a name among definitions, queries, dumps, places and databases. -/
def entryOf? (p : Presets) (name : String) : Option Entry :=
  ((p.definitions.find? name).map .definition).or <|
    ((p.queries.find? name).map .queries).or <|
    ((p.dumps.find? name).map .dumps).or <|
    ((p.places.find? name).map .place).or <|
    (p.databases.find? name).map .database

/-- All values that are registered, in the order in which they are. -/
def values (p : Presets) : List (String × Value) :=
  (p.databases.map fun e => e.database.toValue).entries ++
    (p.places.map S3.Path.toValue).entries ++ (p.dumps.map Value.strings).entries ++
    (p.queries.map Value.strings).entries ++ p.definitions.entries

/-- The last value that is registered under a name is that of the first thing in the order of
precedence. -/
theorem lookup?_reverse_values (p : Presets) (name : String) :
    Catalog.lookup? name p.values.reverse = (p.entryOf? name).map Entry.value := by
  simp only [values, List.reverse_append, Catalog.lookup?_append, Catalog.lookup?_reverse_entries,
    Catalog.find?_map, entryOf?, Option.map_or, Option.map_map]
  congr 1
  cases p.definitions.find? name <;> rfl

theorem mem_names_values {p : Presets} {name : String} :
    name ∈ p.values.map (·.1) ↔ name ∈ p.definitions.names ∨ name ∈ p.queries.names ∨
      name ∈ p.dumps.names ∨ name ∈ p.places.names ∨ name ∈ p.databases.names := by
  have hsections : p.values.map (·.1) = p.databases.names ++ p.places.names ++ p.dumps.names ++
      p.queries.names ++ p.definitions.names := by
    simp only [values, List.map_append]
    rw [← Catalog.names_map (fun e : DatabaseEntry => e.database.toValue) p.databases,
      ← Catalog.names_map S3.Path.toValue p.places, ← Catalog.names_map Value.strings p.dumps,
      ← Catalog.names_map Value.strings p.queries]
    rfl
  simp only [hsections, List.mem_append]
  tauto

end Presets

/-! ### Registering -/

/-- Definitions are set one after the other. -/
theorem Registry.foldl_define (r : Registry) (values : List (String × Value)) :
    values.foldl (fun r e => r.define e.1 e.2) r =
      { r with presets := r.presets.insertAll (values.map fun e => (e.1, .fixed e.2)) } := by
  induction values generalizing r with
  | nil => rfl
  | cons e rest ih =>
    rw [List.foldl_cons, ih]
    rfl

namespace Presets

variable {r : Registry}

theorem register_eq (p : Presets) (r : Registry) :
    p.register r =
      { r with presets := r.presets.insertAll (p.values.map fun e => (e.1, .fixed e.2)) } :=
  Registry.foldl_define r p.values

/-- A name leads to the thing that it has in the presets, and if there is none to what it led to. -/
theorem find?_register (p : Presets) (r : Registry) (name : String) :
    (p.register r).presets.find? name =
      ((p.entryOf? name).map fun e => .fixed e.value).or (r.presets.find? name) := by
  rw [register_eq, Catalog.find?_insertAll, ← List.map_reverse, Catalog.lookup?_map,
    lookup?_reverse_values, Option.map_map]
  rfl

theorem mem_names_register {p : Presets} {name : String} :
    name ∈ (p.register r).presets.names ↔ name ∈ r.presets.names ∨ name ∈ p.definitions.names ∨
      name ∈ p.queries.names ∨ name ∈ p.dumps.names ∨ name ∈ p.places.names ∨
      name ∈ p.databases.names := by
  rw [register_eq, Catalog.mem_names_insertAll, List.map_map, or_comm]
  exact or_congr_right mem_names_values

/-- The name of a registered thing resolves to the elements of its value. -/
theorem resolves_of_entryOf? {p : Presets} {name : String} {e : Entry}
    (hg : r.generators.contains name = false) (he : p.entryOf? name = some e) :
    (p.register r).Resolves (.ref name) e.value.elements := by
  have hfixed : (p.register r).presets.find? name = some (.fixed e.value) := by
    rw [find?_register, he]
    rfl
  have hg' : (p.register r).generators.contains name = false := by
    rw [register_eq]
    exact hg
  exact (Registry.resolves_ref_iff hg' hfixed).mpr ⟨_, .fixed _, rfl⟩

/-- **What a name stands for once presets are registered.** The name of a generator stands for
itself, any other name for the first thing that it has among definitions, queries, dumps, places and
databases; a name without one for what the producer that the registry had comes to in the registry
as it is now, or for itself. No other names are added, those of templates least of all, and no
generators. A database or a place that wins is read back under its name as it was. -/
theorem register_precedence (p : Presets) (r : Registry) (name : String) :
    (r.generators.contains name = true → (p.register r).Resolves (.ref name) [.str name]) ∧
    (r.generators.contains name = false →
      (∀ e, p.entryOf? name = some e → (p.register r).Resolves (.ref name) e.value.elements) ∧
      (p.entryOf? name = none →
        (∀ producer, r.presets.find? name = some producer → ∀ vs,
          (p.register r).Resolves (.ref name) vs ↔
            ∃ v, (p.register r).Yields producer v ∧ v.elements = vs) ∧
        (r.presets.find? name = none → (p.register r).Resolves (.ref name) [.str name])) ∧
      (∀ files e, p.entryOf? name = some (.database e) →
        Psql.Database.ofValue ((p.register r).scope files) (.ref name) = .ok e.database) ∧
      (∀ files path, p.entryOf? name = some (.place path) →
        S3.Path.ofValue ((p.register r).scope files) (.ref name) = .ok path)) ∧
    (name ∈ (p.register r).presets.names ↔ name ∈ r.presets.names ∨ name ∈ p.definitions.names ∨
      name ∈ p.queries.names ∨ name ∈ p.dumps.names ∨ name ∈ p.places.names ∨
      name ∈ p.databases.names) ∧
    (p.register r).generators = r.generators ∧
    ∀ contexts, ({ p with contexts } : Presets).register r = p.register r := by
  have hgenerators : (p.register r).generators = r.generators := by rw [register_eq]
  refine ⟨fun hg => ⟨0, Registry.resolveWithin_generator (by rw [hgenerators]; exact hg) 0⟩,
    fun hg => ?_, mem_names_register, hgenerators, fun contexts => rfl⟩
  refine ⟨fun e he => resolves_of_entryOf? hg he, fun hnone => ?_, fun files e he => ?_,
    fun files path hpath => ?_⟩
  · have hfind : (p.register r).presets.find? name = r.presets.find? name := by
      rw [find?_register, hnone]
      rfl
    refine ⟨fun producer hproducer vs => ?_, fun hunknown => ?_⟩
    · exact Registry.resolves_ref_iff (by rw [hgenerators]; exact hg) (hfind.trans hproducer)
    · exact ⟨0, Registry.resolveWithin_unknown (hfind.trans hunknown) 0⟩
  · exact Psql.Database.ofValue_of_resolve (resolves_of_entryOf? hg he).resolve_eq
  · exact S3.Path.ofValue_of_resolve (resolves_of_entryOf? hg hpath).resolve_eq

/-- A registry with a preset that leads to a database by its name and to the name of a generator. -/
def leading : Registry :=
  Registry.builtin.produce "all" (.concat [.ref "local", .ref "psql-drop-owned"])

/-- A database whose texts look as if they were not set. -/
def oddEntry : DatabaseEntry := ⟨"nil", "", some "false", ":host", some 5432⟩

/-- Presets in which one name stands in three sections and one is that of a generator. -/
def colliding : Presets where
  databases := .ofList [("local", oddEntry), ("shared", oddEntry)]
  places := .empty
  dumps := .empty
  queries := .ofList [("shared", ["SELECT 1"])]
  definitions := .ofList [("psql-drop-owned", .nil), ("shared", .ref "local")]
  contexts := .empty

/-- The definition wins over the database and the generator over the definition; the older preset
follows the name of the database that was registered after it. -/
theorem register_precedence_colliding :
    (colliding.register leading).Resolves (.ref "psql-drop-owned") [.str "psql-drop-owned"] ∧
      (colliding.register leading).Resolves (.ref "shared") [.ref "local"] ∧
      Psql.Database.ofValue ((colliding.register leading).scope ⟨[], []⟩) (.ref "local") =
        .ok ⟨some "nil", some "", some "false", some ":host", some "5432"⟩ ∧
      (colliding.register leading).Resolves (.ref "all")
        [.str "nil", .str "", .str "false", .str ":host", .str "5432", .str "psql-drop-owned"] := by
  obtain ⟨hgenerator, -⟩ := register_precedence colliding leading "psql-drop-owned"
  obtain ⟨-, hshared, -⟩ := register_precedence colliding leading "shared"
  obtain ⟨-, hlocal, -⟩ := register_precedence colliding leading "local"
  obtain ⟨-, hall, -⟩ := register_precedence colliding leading "all"
  have hdatabase := (hlocal (by decide)).1 (.database oddEntry) rfl
  refine ⟨hgenerator (by decide), (hshared (by decide)).1 (.definition (.ref "local")) rfl,
    (hlocal (by decide)).2.2.1 ⟨[], []⟩ oddEntry rfl, ?_⟩
  refine (((hall (by decide)).2.1 rfl).1 _ rfl _).mpr ⟨_, .concat (.cons hdatabase (.cons
    (hgenerator (by decide)) .nil)), rfl⟩

end Presets

end Runbook
