import Runbook.Proofs.Definition.Registration

/-!
# The names of generators in resolution

Resolution never runs a generator: it asks whether a name is that of a generator, and if so takes
the name as text. So it does not matter what the generators do (`resolveWithin_congr`), nor whether
a producer holds such a name as a reference or as the text that it stands for (`spelled`), at any
depth at which producers lead to each other. The table of generators is asked first, so a preset of
the same name is passed over, no matter which of the two was registered first.
-/

namespace Runbook

/-- The producer with each definition that it resolves changed. -/
def Producer.mapParts (f : Value → Value) : Producer → Producer
  | .fixed v => .fixed v
  | .concat parts => .concat (parts.map f)
  | .count v => .count (f v)

theorem Producer.mapParts_id (p : Producer) : p.mapParts id = p := by
  cases p <;> simp [mapParts]

/-- The name of a generator as text; any other value as it is. -/
def Value.spelled (isGenerator : String → Bool) : Value → Value
  | .ref name => if isGenerator name then .str name else .ref name
  | v => v

namespace Registry

/-- The registry in which producers hold the names of generators as texts. -/
def spelled (r : Registry) : Registry :=
  { r with presets := r.presets.map (Producer.mapParts (Value.spelled r.generators.contains)) }

variable {r r' : Registry}

/-- Two registries with the same names of generators resolve alike, at every depth, if they have the
same presets up to a change of definitions that the second does not tell from the original. -/
theorem resolveWithin_congr {f : Value → Value}
    (hgenerators : ∀ name, r'.generators.contains name = r.generators.contains name)
    (hpresets : ∀ name, r'.presets.find? name = (r.presets.find? name).map (Producer.mapParts f))
    (hf : ∀ depth v, r'.resolveWithin depth (f v) = r'.resolveWithin depth v) (depth : Nat)
    (v : Value) : r'.resolveWithin depth v = r.resolveWithin depth v := by
  -- only `concat` and `count` go down a level, so the depth is split there and not at the start
  induction depth using Nat.strong_induction_on generalizing v with
  | _ depth ih =>
    cases v with
    | nil | bool | int | str | list =>
      rw [resolveWithin_of_not_ref (by simp), resolveWithin_of_not_ref (by simp)]
    | ref name =>
      have hg' := hgenerators name
      have hp' := hpresets name
      cases hg : r.generators.contains name with
      | true =>
        rw [hg] at hg'
        rw [resolveWithin_generator hg, resolveWithin_generator hg']
      | false =>
        rw [hg] at hg'
        cases hp : r.presets.find? name with
        | none =>
          rw [hp] at hp'
          rw [resolveWithin_unknown hp, resolveWithin_unknown hp']
        | some p =>
          rw [hp] at hp'
          cases p with
          | fixed v => rw [resolveWithin_fixed hg hp, resolveWithin_fixed hg' hp']
          | concat parts =>
            cases depth with
            | zero => simp [resolveWithin, hg, hg', hp, hp', Producer.mapParts]
            | succ depth =>
              -- the parts are resolved one level below, where the registries agree
              have hparts : (parts.map f).mapM (r'.resolveWithin depth) =
                  parts.mapM (r.resolveWithin depth) := by
                rw [List.mapM_map]
                congr 1
                funext part
                exact (hf depth part).trans (ih depth (Nat.lt_succ_self depth) part)
              rw [resolveWithin_concat hg hp, resolveWithin_concat hg' hp', hparts]
          | count v =>
            cases depth with
            | zero => simp [resolveWithin, hg, hg', hp, hp', Producer.mapParts]
            | succ depth =>
              rw [resolveWithin_count hg hp, resolveWithin_count hg' hp', hf,
                ih depth (Nat.lt_succ_self depth)]

/-- What the generators do is never asked for. -/
theorem resolves_of_same_names (hpresets : r.presets = r'.presets)
    (hgenerators : ∀ name, r.generators.contains name = r'.generators.contains name) {v : Value}
    {vs : List Value} (h : r.Resolves v vs) : r'.Resolves v vs := by
  obtain ⟨depth, hdepth⟩ := h
  refine ⟨depth, ?_⟩
  rw [← hdepth]
  refine resolveWithin_congr (f := id) (fun name => (hgenerators name).symm) (fun name => ?_)
    (fun _ _ => rfl) depth v
  rw [hpresets]
  cases r'.presets.find? name with
  | none => rfl
  | some p => rw [Option.map_some, Producer.mapParts_id]

/-- A name of a generator resolves to the same as the text of that name. -/
theorem resolveWithin_spelled (r : Registry) (depth : Nat) (v : Value) :
    r.spelled.resolveWithin depth (v.spelled r.generators.contains) =
      r.spelled.resolveWithin depth v := by
  cases v with
  | nil | bool | int | str | list => rfl
  | ref name =>
    cases hg : r.generators.contains name with
    | true =>
      have htext : (Value.ref name).spelled r.generators.contains = .str name := by
        simp [Value.spelled, hg]
      rw [htext, resolveWithin_of_not_ref (by simp),
        resolveWithin_generator (r := r.spelled) hg]
      rfl
    | false =>
      have hname : (Value.ref name).spelled r.generators.contains = .ref name := by
        simp [Value.spelled, hg]
      rw [hname]

theorem spelled_resolves_iff {v : Value} {vs : List Value} :
    r.spelled.Resolves v vs ↔ r.Resolves v vs := by
  have hgenerators : ∀ name, r.spelled.generators.contains name = r.generators.contains name :=
    fun _ => rfl
  have hpresets : ∀ name, r.spelled.presets.find? name = (r.presets.find? name).map
      (Producer.mapParts (Value.spelled r.generators.contains)) :=
    fun name => Catalog.find?_map _ r.presets name
  simp only [Resolves, resolveWithin_congr hgenerators hpresets (resolveWithin_spelled r)]

/-- **Resolution never runs a generator.** Registries with the same presets and the same names of
generators resolve every value to the same, whatever their generators do. Once a generator is
registered its name resolves to itself as text, whatever else is registered under that name, before
or after. And so it does inside producers: with its name written as text wherever a producer leads
to it, every value resolves to the same. -/
theorem resolves_without_generators (r : Registry) :
    (∀ r' : Registry, r.presets = r'.presets →
      (∀ name, r.generators.contains name = r'.generators.contains name) →
      ∀ v vs, (r.Resolves v vs ↔ r'.Resolves v vs) ∧
        (r.Resolves v vs → r.resolve v = vs ∧ r'.resolve v = vs)) ∧
    (∀ steps name g, .generator name g ∈ steps →
      (r.performAll steps).Resolves (.ref name) [.str name]) ∧
    ∀ v vs, r.spelled.Resolves v vs ↔ r.Resolves v vs := by
  refine ⟨fun r' hpresets hgenerators v vs => ?_, fun steps name g hmem => ?_,
    fun v vs => spelled_resolves_iff⟩
  · have hto : r.Resolves v vs → r'.Resolves v vs := resolves_of_same_names hpresets hgenerators
    have hfrom : r'.Resolves v vs → r.Resolves v vs :=
      resolves_of_same_names hpresets.symm fun name => (hgenerators name).symm
    exact ⟨⟨hto, hfrom⟩, fun h => ⟨h.resolve_eq, (hto h).resolve_eq⟩⟩
  · exact ⟨0, resolveWithin_generator (contains_generators_performAll hmem) 0⟩

/-- A generator and a preset of its name, in either order, and producers that lead to the name. -/
def shadowing (g : Generator) : List Registration :=
  [.preset "say" (.fixed (.str "hidden")), .generator "say" g,
    .preset "say" (.concat [.str "hidden"]), .preset "inner" (.concat [.ref "say", .nil]),
    .preset "outer" (.concat [.ref "inner", .ref "say"])]

/-- What the generator does makes no difference, and its name stays, two producers deep. -/
theorem resolves_without_generators_shadowing :
    (empty.performAll (shadowing Generator.echo)).Resolves (.ref "say") [.str "say"] ∧
      (empty.performAll (shadowing Generator.echo)).Resolves (.ref "outer")
        [.str "say", .nil, .str "say"] ∧
      (empty.performAll (shadowing Generator.dropOwned)).resolve (.ref "outer") =
        [.str "say", .nil, .str "say"] ∧
      (empty.performAll (shadowing Generator.echo)).spelled.Resolves (.ref "outer")
        [.str "say", .nil, .str "say"] := by
  obtain ⟨hsame, -, hspelled⟩ :=
    resolves_without_generators (empty.performAll (shadowing Generator.echo))
  obtain ⟨-, hname, -⟩ := resolves_without_generators empty
  have houter : (empty.performAll (shadowing Generator.echo)).Resolves (.ref "outer")
      [.str "say", .nil, .str "say"] := ⟨2, by rfl⟩
  have hgenerators : ∀ name,
      (empty.performAll (shadowing Generator.echo)).generators.contains name =
        (empty.performAll (shadowing Generator.dropOwned)).generators.contains name := by
    intro name
    rw [performAll_eq, performAll_eq]
    by_cases h : "say" = name <;>
      simp [shadowing, Registration.generators, Catalog.insertAll, Catalog.contains, h]
  refine ⟨hname _ "say" Generator.echo (by simp [shadowing]), houter, ?_, (hspelled _ _).mpr houter⟩
  exact ((hsame (empty.performAll (shadowing Generator.dropOwned)) rfl hgenerators _ _).2 houter).2

end Registry

end Runbook
