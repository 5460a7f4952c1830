import Runbook.Proofs.Presets.Registering

/-!
# Definitions that are read back

A database and a place in S3 can be written as a definition, a list with nil for what is not set,
and are read from any definition that resolves to such a list. `ReadsBack` says that nothing is lost
on the way: a part that is set stays set, whatever its text is, as only nil and false are read as
not set and no text is written as either. It holds as soon as the reader looks at nothing but what
a definition resolves to (`ReadsBack.of_resolve`).
-/

namespace Runbook

/-- What is written as a definition is read back from it. -/
structure ReadsBack {α : Type} (read : Scope → Value → Except DefinitionError α)
    (write : α → Value) : Prop where
  /-- From the definition itself, in any registry. -/
  written (r : Registry) (files : FileTree) (a : α) : read (r.scope files) (write a) = .ok a
  /-- From a name that stands for the definition. -/
  named (r : Registry) (files : FileTree) (name : String) (a : α) : r.Names name (write a) →
    read (r.scope files) (.ref name) = .ok a
  /-- From the name of a preset that is defined as it, unless that is the name of a generator. -/
  defined (r : Registry) (files : FileTree) (name : String) (a : α) :
    r.generators.contains name = false →
      read ((r.define name (write a)).scope files) (.ref name) = .ok a
  /-- What was read from any value, in any registry, is written and read again as it was. -/
  again (r r' : Registry) (files files' : FileTree) (v : Value) (a : α) :
    read (r.scope files) v = .ok a → read (r'.scope files') (write a) = .ok a

/-- A name that is given to a value stands for it, unless a generator has that name. -/
theorem Registry.names_define {r : Registry} {name : String}
    (h : r.generators.contains name = false) (v : Value) : (r.define name v).Names name v where
  noGenerator := h
  preset := ⟨.fixed v, by rw [define, produce, Catalog.find?_insert, if_pos rfl], .fixed v⟩

/-- A reader that needs no more than what a definition resolves to reads back what is written as a
list. -/
theorem ReadsBack.of_resolve {α : Type} {read : Scope → Value → Except DefinitionError α}
    {write : α → Value} (hlist : ∀ a, ∃ vs, write a = .list vs)
    (hread : ∀ {scope : Scope} {v : Value} {a : α}, scope.resolve v = (write a).elements →
      read scope v = .ok a) : ReadsBack read write := by
  have hwritten (r : Registry) (files : FileTree) (a : α) :
      read (r.scope files) (write a) = .ok a := by
    refine hread (Registry.resolve_of_not_ref fun name => ?_)
    obtain ⟨vs, hvs⟩ := hlist a
    simp [hvs]
  have hnamed (r : Registry) (files : FileTree) (name : String) (a : α)
      (h : r.Names name (write a)) : read (r.scope files) (.ref name) = .ok a :=
    hread h.resolve_eq
  exact {
    written := hwritten
    named := hnamed
    defined := fun r files name a h => hnamed _ files name a (r.names_define h (write a))
    again := fun _ r' _ files' _ a _ => hwritten r' files' a }

/-- **Databases and places in S3 are read back from their definitions**, whatever texts they are
made of and whichever of their parts are set. -/
theorem readsBack_database_and_path :
    ReadsBack Psql.Database.ofValue Psql.Database.toValue ∧
      ReadsBack S3.Path.ofValue S3.Path.toValue :=
  ⟨.of_resolve (fun _ => ⟨_, rfl⟩) Psql.Database.ofValue_of_resolve,
    .of_resolve (fun _ => ⟨_, rfl⟩) S3.Path.ofValue_of_resolve⟩

/-- A database whose texts look as if nothing were set. -/
def Psql.Database.looksUnset : Database := ⟨some "", some "nil", none, some "false", some ":port"⟩

/-- A place whose texts look as if nothing were set. -/
def S3.Path.looksUnset : Path := ⟨"", some "nil", "false", false, none, some ":include"⟩

/-- A registry with both of them. -/
def looksUnset : Registry :=
  (Registry.empty.define "db" Psql.Database.looksUnset.toValue).define "place"
    S3.Path.looksUnset.toValue

/-- Both come back from their names, and what is read from numbers and flags comes back too. -/
theorem readsBack_looksUnset :
    Psql.Database.ofValue (looksUnset.scope ⟨[], []⟩) (.ref "db") =
        .ok Psql.Database.looksUnset ∧
      S3.Path.ofValue (looksUnset.scope ⟨[], []⟩) (.ref "place") = .ok S3.Path.looksUnset ∧
      Psql.Database.ofValue (looksUnset.scope ⟨[], []⟩)
        (.list [.int 7, .bool true, .bool false]) = .ok ⟨some "7", some "true", none, none, none⟩ ∧
      Psql.Database.ofValue (Registry.empty.scope ⟨[], []⟩)
        (.list [.str "7", .str "true", .nil, .nil, .nil]) =
          .ok ⟨some "7", some "true", none, none, none⟩ := by
  obtain ⟨hdatabase, hplace⟩ := readsBack_database_and_path
  have hnumbers : Psql.Database.ofValue (looksUnset.scope ⟨[], []⟩)
      (.list [.int 7, .bool true, .bool false]) =
        .ok ⟨some "7", some "true", none, none, none⟩ := rfl
  refine ⟨hdatabase.named _ _ "db" _ ⟨rfl, .fixed _, ?_, .fixed _⟩,
    hplace.defined _ _ "place" _ rfl, hnumbers, hdatabase.again _ _ _ _ _ _ hnumbers⟩
  simp [looksUnset, Registry.define, Registry.produce, Registry.empty]

end Runbook
