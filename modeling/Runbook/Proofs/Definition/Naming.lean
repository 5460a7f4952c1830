import Runbook.Definition.Builtin
import Runbook.Proofs.Definition.Fields
import Runbook.Proofs.Definition.Resolution

/-!
# Names in the place of values

The name of a preset may stand wherever a definition is read, in the place of what it names. Where
that is depends on the generator: `Form` says how a value is read, `argumentForms` gives the forms
of the arguments of each built-in generator, and `Renamed` relates a definition to one in which
the name stands at any of these places.

A function of the program keeps to a form if it gives the same for renamed values. For one
definition that is so because nothing but what it resolves to is read (`Renamed.resolve_eq`), for
the values of a definition because each is read in its own form (`Alike`).
-/

namespace Runbook

/-- How a value is read where it stands. -/
inductive Form where
  /-- As it is. -/
  | data
  /-- As a definition, whose values are data. -/
  | listing
  /-- As a definition, whose values have these forms; further values are data. -/
  | record (fields : List Form)

/-- The form of the value at a place. -/
def formAt (fields : List Form) (i : Nat) : Form := fields[i]?.getD .data

/-- The second value is the first one, with the name in the place of the value `v` at any number of
places that are read as definitions. -/
inductive Renamed (scope : Scope) (name : String) (v : Value) : Form → Value → Value → Prop where
  /-- Nothing is replaced. -/
  | same (form : Form) (d : Value) : Renamed scope name v form d d
  /-- The whole definition is replaced. -/
  | here {form : Form} (hform : form ≠ .data) : Renamed scope name v form v (.ref name)
  /-- Something is replaced in the values of the definition. -/
  | inside {fields : List Form} {d d' : Value}
      (hlength : (scope.resolve d).length = (scope.resolve d').length)
      (hvalues : ∀ (i : Nat) (x y : Value), (scope.resolve d)[i]? = some x →
        (scope.resolve d')[i]? = some y → Renamed scope name v (formAt fields i) x y) :
      Renamed scope name v (.record fields) d d'

/-- Two lists of values are the same up to renaming, each value in the form of its place. -/
structure Alike (scope : Scope) (name : String) (v : Value) (fields : List Form)
    (vs ws : List Value) : Prop where
  length_eq : vs.length = ws.length
  renamed : ∀ (i : Nat) (x y : Value), vs[i]? = some x → ws[i]? = some y →
    Renamed scope name v (formAt fields i) x y

/-- At one place of a definition, a renamed value. -/
theorem Renamed.place {scope : Scope} {name : String} {v d d' x y : Value} {fields : List Form}
    (before after : List Value) (hd : scope.resolve d = before ++ x :: after)
    (hd' : scope.resolve d' = before ++ y :: after)
    (h : Renamed scope name v (formAt fields before.length) x y) :
    Renamed scope name v (.record fields) d d' := by
  refine .inside (by simp [hd, hd']) fun i p q hp hq => ?_
  rw [hd, List.getElem?_append] at hp
  rw [hd', List.getElem?_append] at hq
  have hsplit : i < before.length ∨ i = before.length ∨ ∃ k, i - before.length = k + 1 := by
    rcases Nat.lt_trichotomy i before.length with hlt | heq | hgt
    · exact .inl hlt
    · exact .inr (.inl heq)
    · exact .inr (.inr ⟨i - before.length - 1, by omega⟩)
  obtain hlt | rfl | ⟨k, hk⟩ := hsplit
  · rw [if_pos hlt] at hp hq
    rw [Option.some.inj (hp.symm.trans hq)]
    exact .same ..
  · rw [if_neg (Nat.lt_irrefl _), Nat.sub_self, List.getElem?_cons_zero] at hp hq
    rwa [← Option.some.inj hp, ← Option.some.inj hq]
  · rw [if_neg (by omega), hk, List.getElem?_cons_succ] at hp hq
    rw [Option.some.inj (hp.symm.trans hq)]
    exact .same ..

/-- The outcome of a generator with arguments of these forms is the same under a name. -/
def Generator.Reads (g : Generator) (fields : List Form) : Prop :=
  ∀ (scope : Scope) (name : String) (v : Value) (args args' : List Value),
    scope.resolve (.ref name) = scope.resolve v → Alike scope name v fields args args' →
      g scope args = g scope args'

variable {scope : Scope} {name what : String} {v d d' : Value} {fields : List Form}
  {vs ws : List Value}

/-! ### Values by place -/

theorem Alike.refl (vs : List Value) : Alike scope name v fields vs vs where
  length_eq := rfl
  renamed i x y hx hy := by
    rw [hx] at hy
    cases hy
    exact .same ..

theorem Renamed.data_eq (h : Renamed scope name v .data d d') : d = d' := by
  cases h with
  | same => rfl
  | here hform => exact absurd rfl hform

theorem Renamed.resolve_eq (hname : scope.resolve (.ref name) = scope.resolve v)
    (h : Renamed scope name v .listing d d') : scope.resolve d = scope.resolve d' := by
  cases h with
  | same => rfl
  | here => exact hname.symm

theorem Renamed.alike (hname : scope.resolve (.ref name) = scope.resolve v)
    (h : Renamed scope name v (.record fields) d d') :
    Alike scope name v fields (scope.resolve d) (scope.resolve d') := by
  cases h with
  | same => exact Alike.refl _
  | here =>
    rw [hname]
    exact Alike.refl _
  | inside hlength hvalues => exact ⟨hlength, hvalues⟩

/-- At each place both lists have a value, or neither has. -/
theorem Alike.getElem? (h : Alike scope name v fields vs ws) (i : Nat) :
    vs[i]? = none ∧ ws[i]? = none ∨
      ∃ x y, vs[i]? = some x ∧ ws[i]? = some y ∧ Renamed scope name v (formAt fields i) x y := by
  have hlength := h.length_eq
  rcases Nat.lt_or_ge i vs.length with hi | hi
  · have hx := List.getElem?_eq_getElem hi
    have hy := List.getElem?_eq_getElem (hlength ▸ hi)
    exact .inr ⟨_, _, hx, hy, h.renamed i _ _ hx hy⟩
  · exact .inl ⟨List.getElem?_eq_none hi, List.getElem?_eq_none (hlength ▸ hi)⟩

theorem Alike.of_cons {f : Form} {x y : Value}
    (h : Alike scope name v (f :: fields) (x :: vs) (y :: ws)) :
    Renamed scope name v f x y ∧ Alike scope name v fields vs ws :=
  ⟨h.renamed 0 x y rfl rfl,
    by simpa using h.length_eq, fun i => h.renamed (i + 1)⟩

theorem Alike.argument (h : Alike scope name v fields vs ws) (i : Nat) :
    Renamed scope name v (formAt fields i) (argument vs i) (argument ws i) := by
  unfold Runbook.argument
  obtain ⟨hx, hy⟩ | ⟨x, y, hx, hy, hrenamed⟩ := h.getElem? i
  · rw [hx, hy]
    exact .same ..
  · rw [hx, hy]
    exact hrenamed

theorem Alike.value_eq (h : Alike scope name v fields vs ws) (i : Nat)
    (hform : formAt fields i = .data) :
    (Fields.mk scope what vs).value i = (Fields.mk scope what ws).value i :=
  (hform ▸ h.argument i).data_eq

theorem Alike.text?_eq (h : Alike scope name v fields vs ws) (i : Nat)
    (hform : formAt fields i = .data) (field : String) :
    (Fields.mk scope what vs).text? i field = (Fields.mk scope what ws).text? i field := by
  unfold Fields.text?
  rw [h.value_eq i hform]

theorem Alike.text_eq (h : Alike scope name v fields vs ws) (i : Nat)
    (hform : formAt fields i = .data) (field : String) :
    (Fields.mk scope what vs).text i field = (Fields.mk scope what ws).text i field := by
  unfold Fields.text
  rw [h.text?_eq i hform]

theorem Alike.flag_eq (h : Alike scope name v fields vs ws) (i : Nat)
    (hform : formAt fields i = .data) :
    (Fields.mk scope what vs).flag i = (Fields.mk scope what ws).flag i := by
  unfold Fields.flag
  rw [h.value_eq i hform]

section

variable (hname : scope.resolve (.ref name) = scope.resolve v)
include hname

theorem Alike.resolve_value_eq (h : Alike scope name v fields vs ws) (i : Nat)
    (hform : formAt fields i = .listing) :
    scope.resolve ((Fields.mk scope what vs).value i) =
      scope.resolve ((Fields.mk scope what ws).value i) :=
  (hform ▸ h.argument i).resolve_eq hname

theorem Alike.nested_eq (h : Alike scope name v fields vs ws) (i : Nat)
    (hform : formAt fields i = .listing) :
    (Fields.mk scope what vs).nested i = (Fields.mk scope what ws).nested i := by
  unfold Fields.nested
  obtain ⟨hx, hy⟩ | ⟨x, y, hx, hy, hrenamed⟩ := h.getElem? i
  · rw [hx, hy]
  · rw [hx, hy]
    exact (hform ▸ hrenamed).resolve_eq hname

theorem Alike.texts_eq (h : Alike scope name v fields vs ws) (i : Nat)
    (hform : formAt fields i = .listing) (field : String) :
    (Fields.mk scope what vs).texts i field = (Fields.mk scope what ws).texts i field := by
  unfold Fields.texts
  rw [h.nested_eq hname i hform]

end

/-! ### What is read out of a definition -/

theorem Psql.Database.ofValue_eq (h : scope.resolve d = scope.resolve d') :
    Psql.Database.ofValue scope d = Psql.Database.ofValue scope d' := by
  unfold Psql.Database.ofValue
  rw [Fields.ofValue_eq h]

theorem S3.Path.ofValue_eq (h : scope.resolve d = scope.resolve d') :
    S3.Path.ofValue scope d = S3.Path.ofValue scope d' := by
  unfold S3.Path.ofValue
  rw [Fields.ofValue_eq h]

theorem Git.Subcommand.listing_eq (h : scope.resolve d = scope.resolve d') :
    Git.Subcommand.listing scope d = Git.Subcommand.listing scope d' := by
  unfold Git.Subcommand.listing
  rw [h]

/-- Target, backup paths, apply paths, options and source of a replacement. -/
def Psql.Replacement.forms : List Form := [.listing, .listing, .listing, .data, .listing]

theorem Psql.Replacement.ofValue_eq (hname : scope.resolve (.ref name) = scope.resolve v)
    (h : Renamed scope name v (.record Psql.Replacement.forms) d d') :
    Psql.Replacement.ofValue scope d = Psql.Replacement.ofValue scope d' := by
  have hvalues := h.alike hname
  simp only [Psql.Replacement.ofValue, Fields.ofValue,
    Psql.Database.ofValue_eq (hvalues.resolve_value_eq hname 0 rfl),
    hvalues.texts_eq hname 1 rfl, hvalues.texts_eq hname 2 rfl, hvalues.text?_eq 3 rfl,
    hvalues.nested_eq hname 4 rfl]

/-! ### What the generators read -/

namespace Generator

theorem cliOrQueries_reads : cliOrQueries.Reads [.listing, .listing] := by
  intro scope name v args args' hname h
  simp only [cliOrQueries, Psql.Database.ofValue_eq (h.resolve_value_eq hname 0 rfl),
    h.texts_eq hname 1 rfl, h.length_eq]

theorem queriesMethod_reads : queriesMethod.Reads [.listing, .listing] := by
  intro scope name v args args' hname h
  simp only [queriesMethod, Psql.Database.ofValue_eq (h.resolve_value_eq hname 0 rfl),
    h.texts_eq hname 1 rfl]

theorem dropOwned_reads : dropOwned.Reads [.listing] := by
  intro scope name v args args' hname h
  simp only [dropOwned, Psql.Database.ofValue_eq ((h.argument 0).resolve_eq hname)]

/-- Both generators of dumps read their arguments alike. -/
theorem dumpArguments_eq {scope : Scope} {name : String} {v : Value} {args args' : List Value}
    (what : String) (hname : scope.resolve (.ref name) = scope.resolve v)
    (h : Alike scope name v [.listing, .listing] args args') :
    dumpArguments what scope args = dumpArguments what scope args' := by
  simp only [dumpArguments, Psql.Database.ofValue_eq (h.resolve_value_eq hname 0 rfl),
    h.texts_eq hname 1 rfl, h.text?_eq 2 rfl, h.length_eq]

theorem applyDumps_reads : applyDumps.Reads [.listing, .listing] := by
  intro scope name v args args' hname h
  simp only [applyDumps, dumpArguments_eq _ hname h]

theorem generateDumps_reads : generateDumps.Reads [.listing, .listing] := by
  intro scope name v args args' hname h
  simp only [generateDumps, dumpArguments_eq _ hname h]

theorem dumpReplace_reads : dumpReplace.Reads [.record Psql.Replacement.forms] := by
  intro scope name v args args' hname h
  simp only [dumpReplace, Psql.Replacement.ofValue_eq hname (h.argument 0)]

theorem restoreList_reads : restoreList.Reads [] := by
  intro scope name v args args' _ h
  simp only [restoreList, h.text_eq _ rfl]

theorem fetch_reads : fetch.Reads [.listing] := by
  intro scope name v args args' hname h
  simp only [fetch, S3.Path.ofValue_eq (h.resolve_value_eq hname 0 rfl), h.text_eq 1 rfl]

theorem fetchListed_reads : fetchListed.Reads [.listing] := by
  intro scope name v args args' hname h
  simp only [fetchListed, S3.Path.ofValue_eq (h.resolve_value_eq hname 0 rfl), h.text_eq 1 rfl,
    h.flag_eq 2 rfl]

theorem onObjects_reads : onObjects.Reads [.listing, .listing] := by
  intro scope name v args args' hname h
  simp only [onObjects, Git.Subcommand.listing_eq (h.resolve_value_eq hname 0 rfl),
    h.texts_eq hname 1 rfl]

end Generator

/-! ### Definitions of built-in generators -/

/-- The forms of the arguments of a generator by its name. -/
def argumentForms : String → List Form
  | "psql-cli-or-queries" | "psql-queries-method" | "psql-apply-dumps" | "psql-generate-dumps"
  | "git-on-objects" => [.listing, .listing]
  | "psql-drop-owned" | "s3-fetch" | "s3-fetch-to-local" => [.listing]
  | "psql-dump-replace" => [.record Psql.Replacement.forms]
  | _ => []

/-- The form of a definition that starts with the name of a generator. -/
def definitionForm (generator : String) : Form := .record (.data :: argumentForms generator)

namespace Registry

theorem builtin_reads {e : String × Generator} (he : e ∈ builtinGenerators) :
    e.2.Reads (argumentForms e.1) := by
  simp only [builtinGenerators, List.mem_cons, List.not_mem_nil, or_false] at he
  rcases he with rfl | rfl | rfl | rfl | rfl | rfl | rfl | rfl | rfl | rfl
  · exact Generator.cliOrQueries_reads
  · exact Generator.queriesMethod_reads
  · exact Generator.dropOwned_reads
  · exact Generator.applyDumps_reads
  · exact Generator.generateDumps_reads
  · exact Generator.dumpReplace_reads
  · exact Generator.restoreList_reads
  · exact Generator.fetch_reads
  · exact Generator.fetchListed_reads
  · exact Generator.onObjects_reads

/-- **The name of a preset is as good as what it names**, wherever a built-in generator reads a
definition. -/
theorem batch_renamed {r : Registry} {files : FileTree} {name generator : String} {v d d' : Value}
    (hbuiltin : ∀ e ∈ builtinGenerators, r.generators.find? e.1 = some e.2)
    (hgenerator : generator ∈ builtinGenerators.map (·.1))
    (hhead : (r.resolve d).head?.bind Value.name? = some generator)
    (hv : ∀ n, v ≠ .ref n) (hname : r.Names name v)
    (h : Renamed (r.scope files) name v (definitionForm generator) d d') :
    r.batch files d = r.batch files d' := by
  have hresolve : (r.scope files).resolve (.ref name) = (r.scope files).resolve v :=
    hname.resolve_eq.trans (resolve_of_not_ref hv).symm
  obtain ⟨e, he, rfl⟩ := List.mem_map.mp hgenerator
  have hvalues : Alike (r.scope files) name v _ (r.resolve d) (r.resolve d') := h.alike hresolve
  unfold batch
  cases hd : r.resolve d with
  | nil => simp [hd] at hhead
  | cons head args =>
    rw [hd] at hvalues hhead
    cases hd' : r.resolve d' with
    | nil =>
      rw [hd'] at hvalues
      cases hvalues.length_eq
    | cons head' args' =>
      rw [hd'] at hvalues
      obtain ⟨hsame, hargs⟩ := hvalues.of_cons
      obtain rfl := hsame.data_eq
      have hlookup : head.name? = some e.1 := hhead
      simp only [hlookup, hbuiltin e he]
      exact builtin_reads he _ _ _ _ _ hresolve hargs

/-- A registry in which a database has a name. -/
def staged : Registry := builtin.define "staging" Psql.Database.sample.toValue

theorem builtin_generators {e : String × Generator} (he : e ∈ builtinGenerators) :
    builtin.generators.find? e.1 = some e.2 :=
  Catalog.find?_ofList (by simp [builtinGenerators]) he

theorem staged_names : staged.Names "staging" Psql.Database.sample.toValue where
  noGenerator := by
    have hfind : builtin.generators.find? "staging" = none :=
      Catalog.find?_insertAll_of_not_mem (by simp [builtinGenerators]) _
    exact congrArg Option.isSome hfind
  preset := ⟨_, by simp [staged, define, produce], .fixed _⟩

theorem scope_resolve_list (r : Registry) (files : FileTree) (vs : List Value) :
    (r.scope files).resolve (.list vs) = vs :=
  resolve_list vs

/-- The target of a replacement by its name. -/
theorem batch_renamed_target :
    staged.batch ⟨[], []⟩ (.list [.str "psql-dump-replace",
      .list [Psql.Database.sample.toValue, .strings ["/b.sql"], .strings ["/a.sql"]]]) =
    staged.batch ⟨[], []⟩ (.list [.str "psql-dump-replace",
      .list [.ref "staging", .strings ["/b.sql"], .strings ["/a.sql"]]]) := by
  have hgenerator : "psql-dump-replace" ∈ builtinGenerators.map (·.1) := by simp [builtinGenerators]
  have htarget : formAt Psql.Replacement.forms 0 ≠ .data := by simp [formAt, Psql.Replacement.forms]
  refine batch_renamed (fun _ he => builtin_generators he) hgenerator ?_ ?_ staged_names ?_
  · rw [resolve_list]
    rfl
  · simp [Psql.Database.toValue]
  · refine .place [.str "psql-dump-replace"] [] (scope_resolve_list ..) (scope_resolve_list ..) ?_
    exact .place [] _ (scope_resolve_list ..) (scope_resolve_list ..) (.here htarget)

end Registry

end Runbook
