import Runbook.Definition.Argument
import Runbook.Definition.Builtin
import Runbook.Proofs.Presets.Registering

/-!
# Sequences of registrations

A registry comes about by registering presets and generators, one after the other, among them all
that a presets file holds. What it is in the end depends on the last preset and the last generator
of each name alone (`last?`, `performAll_congr`), because a catalog does not remember in which order
its names were set.

Producers are not run when they are registered: what the last producer of a name comes to is a
question to the registry as it is in the end (`resolves_performAll`), so it sees presets that are
defined after it, and the last definition of each.
-/

namespace Runbook.Registry

/-- What is done to a registry. -/
inductive Registration where
  /-- Names a preset. -/
  | preset (name : String) (p : Producer)
  /-- Names a generator. -/
  | generator (name : String) (g : Generator)
  /-- Names all that a presets file holds. -/
  | presets (p : Presets)

namespace Registration

/-- The presets that are named, in order. -/
def producers : Registration → List (String × Producer)
  | .preset name p => [(name, p)]
  | .generator _ _ => []
  | .presets p => p.values.map fun e => (e.1, .fixed e.2)

/-- The generators that are named, in order. -/
def generators : Registration → List (String × Generator)
  | .generator name g => [(name, g)]
  | .preset _ _ | .presets _ => []

/-- No preset is named by both, and no generator. -/
structure Apart (a b : Registration) : Prop where
  producers : ∀ name ∈ a.producers.map (·.1), name ∉ b.producers.map (·.1)
  generators : ∀ name ∈ a.generators.map (·.1), name ∉ b.generators.map (·.1)

end Registration

/-- The registry after a registration. -/
def perform (r : Registry) : Registration → Registry
  | .preset name p => r.produce name p
  | .generator name g => r.register name g
  | .presets p => p.register r

/-- The registry after registrations, one after the other. -/
def performAll (r : Registry) (steps : List Registration) : Registry := steps.foldl perform r

variable {α : Type} {r : Registry}

/-- The last thing that is registered under a name; `f` says what a registration puts there. -/
def last? (f : Registration → List (String × α)) (steps : List Registration) (name : String) :
    Option α :=
  Catalog.lookup? name (steps.flatMap f).reverse

/-! ### The registry after registrations -/

theorem perform_eq (r : Registry) (step : Registration) :
    r.perform step =
      ⟨r.presets.insertAll step.producers, r.generators.insertAll step.generators⟩ := by
  cases step with
  | preset name p => rfl
  | generator name g => rfl
  | presets p => exact Presets.register_eq p r

theorem performAll_eq (r : Registry) (steps : List Registration) :
    r.performAll steps = ⟨r.presets.insertAll (steps.flatMap Registration.producers),
      r.generators.insertAll (steps.flatMap Registration.generators)⟩ := by
  induction steps generalizing r with
  | nil => rfl
  | cons step rest ih =>
    have hstep : r.performAll (step :: rest) = (r.perform step).performAll rest := rfl
    rw [hstep, ih, perform_eq]
    simp only [List.flatMap_cons, Catalog.insertAll_append]

/-- The last preset of a name is what the name leads to, and if none was registered what it led
to. -/
theorem find?_presets_performAll (r : Registry) (steps : List Registration) (name : String) :
    (r.performAll steps).presets.find? name =
      (last? Registration.producers steps name).or (r.presets.find? name) := by
  rw [performAll_eq, Catalog.find?_insertAll]
  rfl

theorem find?_generators_performAll (r : Registry) (steps : List Registration) (name : String) :
    (r.performAll steps).generators.find? name =
      (last? Registration.generators steps name).or (r.generators.find? name) := by
  rw [performAll_eq, Catalog.find?_insertAll]
  rfl

/-- A generator that was registered stays, whatever else is registered before or after it. -/
theorem contains_generators_performAll {steps : List Registration} {name : String} {g : Generator}
    (h : .generator name g ∈ steps) : (r.performAll steps).generators.contains name = true := by
  rw [performAll_eq, Catalog.contains_iff, Catalog.mem_names_insertAll]
  refine .inl (List.mem_map.mpr ⟨(name, g), List.mem_flatMap.mpr ⟨_, h, ?_⟩, rfl⟩)
  exact List.mem_singleton.mpr rfl

/-- Registrations that agree on the last preset and the last generator of each name lead to the same
registry. -/
theorem performAll_congr {steps steps' : List Registration}
    (hproducers : ∀ name, last? Registration.producers steps name =
      last? Registration.producers steps' name)
    (hgenerators : ∀ name, last? Registration.generators steps name =
      last? Registration.generators steps' name) :
    r.performAll steps = r.performAll steps' := by
  have hpresets : (r.performAll steps).presets = (r.performAll steps').presets := by
    refine Catalog.ext_find? fun name => ?_
    rw [find?_presets_performAll, find?_presets_performAll, hproducers]
  have hnames : (r.performAll steps).generators = (r.performAll steps').generators := by
    refine Catalog.ext_find? fun name => ?_
    rw [find?_generators_performAll, find?_generators_performAll, hgenerators]
  calc r.performAll steps
      = ⟨(r.performAll steps).presets, (r.performAll steps).generators⟩ := rfl
    _ = r.performAll steps' := by rw [hpresets, hnames]

/-! ### The order of registrations -/

theorem last?_append (f : Registration → List (String × α)) (steps later : List Registration)
    (name : String) :
    last? f (steps ++ later) name = (last? f later name).or (last? f steps name) := by
  rw [last?, List.flatMap_append, List.reverse_append, Catalog.lookup?_append]
  rfl

/-- Nothing is registered under a name that the registration does not name. -/
theorem last?_singleton_eq_none {f : Registration → List (String × α)} {a : Registration}
    {name : String} (h : name ∉ (f a).map (·.1)) : last? f [a] name = none := by
  rw [last?, List.flatMap_singleton, Catalog.lookup?_eq_none_iff]
  simpa using h

/-- Two registrations that name different things may change places. -/
theorem last?_swap {f : Registration → List (String × α)} {a b : Registration}
    (hapart : ∀ name ∈ (f a).map (·.1), name ∉ (f b).map (·.1)) (before after : List Registration)
    (name : String) :
    last? f (before ++ [a, b] ++ after) name = last? f (before ++ [b, a] ++ after) name := by
  have hpair : last? f [a, b] name = last? f [b, a] name := by
    have hab : last? f [a, b] name = (last? f [b] name).or (last? f [a] name) :=
      last?_append f [a] [b] name
    have hba : last? f [b, a] name = (last? f [a] name).or (last? f [b] name) :=
      last?_append f [b] [a] name
    rw [hab, hba]
    by_cases ha : name ∈ (f a).map (·.1)
    · rw [last?_singleton_eq_none (hapart name ha), Option.none_or, Option.or_none]
    · rw [last?_singleton_eq_none ha, Option.none_or, Option.or_none]
  simp only [last?_append, hpair]

/-- What a name resolves to in the end: what its last producer comes to there. -/
theorem resolves_performAll {steps : List Registration} {name : String} {p : Producer}
    (hlast : last? Registration.producers steps name = some p)
    (hg : (r.performAll steps).generators.contains name = false) {vs : List Value} :
    (r.performAll steps).Resolves (.ref name) vs ↔
      ∃ v, (r.performAll steps).Yields p v ∧ v.elements = vs := by
  have hfind : (r.performAll steps).presets.find? name = some p := by
    rw [find?_presets_performAll, hlast, Option.some_or]
  exact resolves_ref_iff hg hfind

/-! ### What a registry answers -/

/-- What a registry may be asked. -/
inductive Query where
  /-- What a value resolves to, the name of a preset included. -/
  | resolve (v : Value)
  /-- The batch of a definition. -/
  | batch (definition : Value)
  /-- The batch of a definition on a command line. -/
  | batchOfArguments (args : List String)
  | isPreset (name : String)
  | isGenerator (name : String)
  | presetNames
  | generatorNames
  | description

/-- What it answers. -/
inductive Answer where
  | values (vs : List Value)
  | batch (outcome : Except DefinitionError Batch)
  | flag (b : Bool)
  | names (ns : List String)
  | text (s : String)

/-- The answer to a query, with the files that there are. -/
def answer (r : Registry) (files : FileTree) : Query → Answer
  | .resolve v => .values (r.resolve v)
  | .batch definition => .batch (r.batch files definition)
  | .batchOfArguments args => .batch (r.batch files (.ofArguments args))
  | .isPreset name => .flag (r.presets.contains name)
  | .isGenerator name => .flag (r.generators.contains name)
  | .presetNames => .names r.presets.names
  | .generatorNames => .names r.generators.names
  | .description => .text r.describe

/-- **A registry is what was last registered under each name.** Registrations that agree on the last
preset and the last generator of each name lead to the same answers, to values whose resolution ends
and to any others. So registrations under different names may change places, and a name resolves to
what its last producer comes to in the registry of the end. The names of presets and of generators
ascend, and none stands twice. -/
theorem performAll_last (r : Registry) (steps : List Registration) :
    (∀ steps',
      (∀ name, last? Registration.producers steps name =
        last? Registration.producers steps' name) →
      (∀ name, last? Registration.generators steps name =
        last? Registration.generators steps' name) →
      (∀ v vs, (r.performAll steps).Resolves v vs ↔ (r.performAll steps').Resolves v vs) ∧
        ∀ files q, (r.performAll steps).answer files q = (r.performAll steps').answer files q) ∧
    (∀ before a b after, steps = before ++ [a, b] ++ after → a.Apart b → ∀ files q,
      (r.performAll steps).answer files q =
        (r.performAll (before ++ [b, a] ++ after)).answer files q) ∧
    (∀ name p, last? Registration.producers steps name = some p →
      (r.performAll steps).generators.contains name = false → ∀ vs,
        (r.performAll steps).Resolves (.ref name) vs ↔
          ∃ v, (r.performAll steps).Yields p v ∧ v.elements = vs) ∧
    ((r.performAll steps).presets.names.Pairwise (· < ·) ∧
      (r.performAll steps).presets.names.Nodup) ∧
    (r.performAll steps).generators.names.Pairwise (· < ·) ∧
      (r.performAll steps).generators.names.Nodup := by
  refine ⟨fun steps' hproducers hgenerators => ?_, fun before a b after hsteps hapart => ?_,
    fun name p hlast hg vs => resolves_performAll hlast hg,
    ⟨Catalog.pairwise_names _, Catalog.nodup_names _⟩,
    Catalog.pairwise_names _, Catalog.nodup_names _⟩
  · have hsame : r.performAll steps = r.performAll steps' :=
      performAll_congr hproducers hgenerators
    exact ⟨fun v vs => by rw [hsame], fun files q => by rw [hsame]⟩
  · -- the registries are equal, so no question tells them apart, whether it ends or not
    have hsame : r.performAll steps = r.performAll (before ++ [b, a] ++ after) := by
      rw [hsteps]
      exact performAll_congr (last?_swap hapart.producers before after)
        (last?_swap hapart.generators before after)
    exact fun files q => by rw [hsame]

/-- A preset that leads to another one, which is defined twice afterwards. -/
def redefined : List Registration :=
  [.preset "all" (.concat [.ref "one", .ref "one"]), .generator "say" Generator.echo,
    .preset "one" (.fixed (.str "old")), .preset "one" (.fixed (.str "new"))]

/-- The other preset is defined once, and before. -/
def definedOnce : List Registration :=
  [.preset "one" (.fixed (.str "new")), .generator "say" Generator.echo,
    .preset "all" (.concat [.ref "one", .ref "one"])]

/-- Both lead to the same answers, and the preset to the later definition of the other. -/
theorem performAll_last_redefined :
    (∀ files q, (empty.performAll redefined).answer files q =
      (empty.performAll definedOnce).answer files q) ∧
      (empty.performAll redefined).Resolves (.ref "all") [.str "new", .str "new"] ∧
      (empty.performAll redefined).presets.names = ["all", "one"] ∧
      (empty.performAll redefined).presets.names.Nodup := by
  obtain ⟨hsame, -, hlast, ⟨-, hnodup⟩, -⟩ := performAll_last empty redefined
  have hproducers : ∀ name, last? Registration.producers redefined name =
      last? Registration.producers definedOnce name := by
    intro name
    by_cases hone : name = "one"
    · rw [hone]
      rfl
    · by_cases hall : name = "all"
      · rw [hall]
        rfl
      · simp [last?, redefined, definedOnce, Registration.producers, Catalog.lookup?,
          Ne.symm hone, Ne.symm hall]
  have hone : (empty.performAll redefined).Resolves (.ref "one") [.str "new"] :=
    (hlast "one" (.fixed (.str "new")) rfl (by decide) _).mpr ⟨_, .fixed _, rfl⟩
  refine ⟨(hsame definedOnce hproducers fun name => rfl).2, ?_, by decide, hnodup⟩
  exact (hlast "all" _ rfl (by decide) _).mpr ⟨_, .concat (.cons hone (.cons hone .nil)), rfl⟩

end Runbook.Registry
