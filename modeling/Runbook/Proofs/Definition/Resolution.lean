import Runbook.Definition.Registry
import Runbook.Proofs.Outcome
import Mathlib.Data.Fintype.Card
import Mathlib.Data.List.Forall2
import Mathlib.Data.List.Perm.Subperm
import Mathlib.Data.Nat.Find

/-!
# How deep resolution goes

A producer may resolve other definitions, and those may lead to further producers. `Resolves` says
that the resolution of a value ends, however deep it goes. Where it ends, no more producers are
nested than there are presets, so the depth at which a registry gives up is never met
(`resolves_iff`). The argument is that a value which needs exactly some depth leads to a preset
that needs exactly one level less, so all smaller depths have a preset of their own.

`Names` says for which value the name of a preset stands.
-/

namespace Runbook.Registry

variable {r : Registry}

/-- The resolution of a value ends with these values. -/
def Resolves (r : Registry) (v : Value) (vs : List Value) : Prop :=
  ∃ depth, r.resolveWithin depth v = some vs

/-! ### One level -/

/-- A value that is no name resolves to its elements. -/
theorem resolveWithin_of_not_ref {v : Value} (h : ∀ name, v ≠ .ref name) (depth : Nat) :
    r.resolveWithin depth v = some v.elements := by
  rw [resolveWithin]
  exact h

/-- The name of a generator resolves to itself as text. -/
theorem resolveWithin_generator {name : String} (hg : r.generators.contains name = true)
    (depth : Nat) : r.resolveWithin depth (.ref name) = some [.str name] := by
  unfold resolveWithin
  rw [if_pos hg]

/-- A name that nothing has resolves to itself as text. -/
theorem resolveWithin_unknown {name : String} (hp : r.presets.find? name = none) (depth : Nat) :
    r.resolveWithin depth (.ref name) = some [.str name] := by
  simp [resolveWithin, hp]

section

variable {name : String} (hg : r.generators.contains name = false)
include hg

theorem resolveWithin_fixed {v : Value} (hp : r.presets.find? name = some (.fixed v))
    (depth : Nat) : r.resolveWithin depth (.ref name) = some v.elements := by
  simp [resolveWithin, hg, hp]

theorem resolveWithin_concat {parts : List Value}
    (hp : r.presets.find? name = some (.concat parts)) (depth : Nat) :
    r.resolveWithin (depth + 1) (.ref name) =
      (parts.mapM (r.resolveWithin depth)).map List.flatten := by
  simp [resolveWithin, hg, hp]

theorem resolveWithin_count {v : Value} (hp : r.presets.find? name = some (.count v))
    (depth : Nat) :
    r.resolveWithin (depth + 1) (.ref name) =
      (r.resolveWithin depth v).map fun vs => [.int (Int64.ofNat vs.length)] := by
  simp [resolveWithin, hg, hp]

end

/-- A value resolves to the same at every depth, or it is the name of a preset that makes its own
values of what its parts resolve to one level below. -/
theorem resolveWithin_cases (r : Registry) (v : Value) :
    (∃ vs, ∀ depth, r.resolveWithin depth v = some vs) ∨
    ∃ (name : String) (parts : List Value) (make : List (List Value) → List Value),
      v = .ref name ∧ name ∈ r.presets.names ∧ r.resolveWithin 0 v = none ∧
      ∀ depth vs, r.resolveWithin (depth + 1) v = some vs ↔
        ∃ vss, List.Forall₂ (fun part ws => r.resolveWithin depth part = some ws) parts vss ∧
          make vss = vs := by
  cases v with
  | ref name =>
    cases hg : r.generators.contains name with
    | true => exact .inl ⟨[.str name], resolveWithin_generator hg⟩
    | false =>
      cases hp : r.presets.find? name with
      | none => exact .inl ⟨[.str name], resolveWithin_unknown hp⟩
      | some p =>
        cases p with
        | fixed v => exact .inl ⟨v.elements, resolveWithin_fixed hg hp⟩
        | concat parts =>
          refine .inr ⟨name, parts, List.flatten, rfl, Catalog.mem_names_of_find? hp,
            by simp [resolveWithin, hg, hp], fun depth vs => ?_⟩
          simp [resolveWithin_concat hg hp, mapM_eq_some_iff]
        | count v =>
          refine .inr ⟨name, [v], fun vss => [.int (Int64.ofNat vss.flatten.length)], rfl,
            Catalog.mem_names_of_find? hp, by simp [resolveWithin, hg, hp], fun depth vs => ?_⟩
          rw [resolveWithin_count hg hp, Option.map_eq_some_iff]
          constructor
          · rintro ⟨ws, hws, rfl⟩
            exact ⟨[ws], .cons hws .nil, by simp⟩
          · rintro ⟨vss, hvss, rfl⟩
            cases hvss with
            | cons hws hnil =>
              cases hnil
              exact ⟨_, hws, by simp⟩
  | nil | bool | int | str | list => exact .inl ⟨_, resolveWithin_of_not_ref (by simp)⟩

/-- Going deeper keeps what is resolved. -/
theorem resolveWithin_mono {v : Value} {vs : List Value} {d e : Nat} (hde : d ≤ e)
    (h : r.resolveWithin d v = some vs) : r.resolveWithin e v = some vs := by
  induction d generalizing v vs e with
  | zero =>
    obtain ⟨ws, hws⟩ | ⟨_, _, _, -, -, hzero, -⟩ := resolveWithin_cases r v
    · rw [hws] at h ⊢
      exact h
    · rw [hzero] at h
      cases h
  | succ d ih =>
    obtain ⟨ws, hws⟩ | ⟨_, _, _, -, -, -, hsucc⟩ := resolveWithin_cases r v
    · rw [hws] at h ⊢
      exact h
    · obtain ⟨e, rfl⟩ : ∃ m, e = m + 1 := ⟨e - 1, by omega⟩
      obtain ⟨vss, hvss, hmake⟩ := (hsucc d vs).mp h
      exact (hsucc e vs).mpr ⟨vss, hvss.imp fun _ _ hw => ih (by omega) hw, hmake⟩

/-! ### The depth that is enough -/

/-- The depth at which the resolution of a value ends. -/
structure EndsAt (r : Registry) (v : Value) (d : Nat) : Prop where
  isSome : (r.resolveWithin d v).isSome = true
  eq_none : ∀ e < d, r.resolveWithin e v = none

theorem EndsAt.unique {v : Value} {d e : Nat} (hd : r.EndsAt v d) (he : r.EndsAt v e) : d = e := by
  have hle {a b : Nat} (ha : r.EndsAt v a) (hb : r.EndsAt v b) : a ≤ b := by
    by_contra hlt
    have hsome := hb.isSome
    rw [ha.eq_none b (by omega)] at hsome
    cases hsome
  exact Nat.le_antisymm (hle hd he) (hle he hd)

/-- Where no more levels are needed, none are used. -/
theorem resolveWithin_of_not_endsAt {v : Value} {vs : List Value} {d : Nat}
    (h : r.resolveWithin (d + 1) v = some vs) (hends : ¬ r.EndsAt v (d + 1)) :
    r.resolveWithin d v = some vs := by
  cases hd : r.resolveWithin d v with
  | some ws =>
    rw [← h, resolveWithin_mono (Nat.le_succ d) hd]
  | none =>
    refine absurd ⟨by rw [h]; rfl, fun e he => ?_⟩ hends
    cases hsome : r.resolveWithin e v with
    | none => rfl
    | some ws =>
      rw [resolveWithin_mono (Nat.le_of_lt_succ he) hsome] at hd
      cases hd

/-- What ends below the first level is the name of a preset, and some part of that preset ends one
level less deep, unless none is left. -/
theorem EndsAt.below {v : Value} {d : Nat} (h : r.EndsAt v (d + 1)) :
    (∃ name ∈ r.presets.names, v = .ref name) ∧ (d ≠ 0 → ∃ w, r.EndsAt w d) := by
  obtain ⟨ws, hws⟩ | ⟨name, parts, make, rfl, hname, -, hsucc⟩ := resolveWithin_cases r v
  · have hnone := h.eq_none 0 (Nat.succ_pos d)
    rw [hws] at hnone
    cases hnone
  · refine ⟨⟨name, hname, rfl⟩, fun hd => ?_⟩
    obtain ⟨d, rfl⟩ : ∃ m, d = m + 1 := ⟨d - 1, by omega⟩
    obtain ⟨vs, hvs⟩ := Option.isSome_iff_exists.mp h.isSome
    obtain ⟨vss, hvss, hmake⟩ := (hsucc (d + 1) vs).mp hvs
    by_contra hno
    -- if no part needed all of the levels, the preset would not either
    have hless := (hsucc d vs).mpr
      ⟨vss, hvss.imp fun w _ hw => resolveWithin_of_not_endsAt hw fun hends => hno ⟨w, hends⟩,
        hmake⟩
    rw [h.eq_none (d + 1) (Nat.lt_succ_self _)] at hless
    cases hless

/-- Every level up to the depth at which a value ends is needed by some preset. -/
theorem EndsAt.exists_name {v : Value} {d : Nat} (h : r.EndsAt v d) {i : Nat} (hi : i < d) :
    ∃ name ∈ r.presets.names, r.EndsAt (.ref name) (i + 1) := by
  induction d generalizing v with
  | zero => omega
  | succ d ih =>
    obtain ⟨⟨name, hname, rfl⟩, hbelow⟩ := h.below
    obtain rfl | hlt : i = d ∨ i < d := by omega
    · exact ⟨name, hname, h⟩
    · obtain ⟨w, hw⟩ := hbelow (by omega)
      exact ih hw hlt

theorem EndsAt.le_size {v : Value} {d : Nat} (h : r.EndsAt v d) : d ≤ r.presets.size := by
  choose name hname hends using fun i : Fin d => h.exists_name i.isLt
  have hinjective : Function.Injective name := by
    intro i j hij
    have hi := hends i
    rw [hij] at hi
    have := hi.unique (hends j)
    omega
  have hnodup : (List.ofFn name).Nodup := List.nodup_ofFn.mpr hinjective
  have hsubset : List.ofFn name ⊆ r.presets.names := by
    intro n hn
    obtain ⟨i, rfl⟩ := List.mem_ofFn.mp hn
    exact hname i
  have hlength := (hnodup.subperm hsubset).length_le
  rwa [List.length_ofFn, Catalog.names, List.length_map] at hlength

/-- A depth of the number of presets is enough. -/
theorem resolves_iff {v : Value} {vs : List Value} :
    r.Resolves v vs ↔ r.resolveWithin r.presets.size v = some vs := by
  constructor
  · rintro ⟨d, hd⟩
    have hex : ∃ d, (r.resolveWithin d v).isSome = true := ⟨d, by rw [hd]; rfl⟩
    have hends : r.EndsAt v (Nat.find hex) :=
      ⟨Nat.find_spec hex, fun e he => by simpa using Nat.find_min hex he⟩
    obtain ⟨ws, hws⟩ := Option.isSome_iff_exists.mp hends.isSome
    have hsame : ws = vs := by
      have hw := resolveWithin_mono (Nat.find_min' hex (by rw [hd]; rfl)) hws
      rw [hd] at hw
      exact (Option.some.inj hw).symm
    rw [← hsame]
    exact resolveWithin_mono hends.le_size hws
  · exact fun h => ⟨_, h⟩

/-- Resolution that ends has the values it ends with. -/
theorem Resolves.resolve_eq {v : Value} {vs : List Value} (h : r.Resolves v vs) :
    r.resolve v = vs := by
  rw [resolve, resolves_iff.mp h, Option.getD_some]

/-- A value that is no name resolves to its elements. -/
theorem resolve_of_not_ref {v : Value} (h : ∀ name, v ≠ .ref name) : r.resolve v = v.elements :=
  Resolves.resolve_eq ⟨0, resolveWithin_of_not_ref h 0⟩

theorem resolve_list (vs : List Value) : r.resolve (.list vs) = vs :=
  resolve_of_not_ref fun _ => by simp

/-! ### What a name stands for -/

/-- The value that a producer comes to. -/
inductive Yields (r : Registry) : Producer → Value → Prop where
  /-- A fixed value. -/
  | fixed (v : Value) : Yields r (.fixed v) v
  /-- The list of what all parts resolve to. -/
  | concat {parts : List Value} {vss : List (List Value)} : List.Forall₂ r.Resolves parts vss →
      Yields r (.concat parts) (.list vss.flatten)
  /-- The number of values that a definition resolves to. -/
  | count {v : Value} {vs : List Value} : r.Resolves v vs →
      Yields r (.count v) (.int (Int64.ofNat vs.length))

/-- The name stands for the value: it is that of a preset which comes to the value, and of no
generator. -/
structure Names (r : Registry) (name : String) (v : Value) : Prop where
  noGenerator : r.generators.contains name = false
  preset : ∃ p, r.presets.find? name = some p ∧ r.Yields p v

/-- The name of a preset, which is that of no generator, resolves to the elements of what the preset
comes to, if it comes to anything. -/
theorem resolves_ref_iff {name : String} {p : Producer} {vs : List Value}
    (hg : r.generators.contains name = false) (hp : r.presets.find? name = some p) :
    r.Resolves (.ref name) vs ↔ ∃ v, r.Yields p v ∧ v.elements = vs := by
  constructor
  · rintro ⟨depth, h⟩
    -- a producer that resolves others has used up a level
    replace h := resolveWithin_mono (Nat.le_succ depth) h
    cases p with
    | fixed v =>
      rw [resolveWithin_fixed hg hp] at h
      exact ⟨v, .fixed v, Option.some.inj h⟩
    | concat parts =>
      rw [resolveWithin_concat hg hp, Option.map_eq_some_iff] at h
      obtain ⟨vss, hparts, rfl⟩ := h
      exact ⟨_, .concat ((mapM_eq_some_iff.mp hparts).imp fun _ _ h => ⟨depth, h⟩), rfl⟩
    | count v =>
      rw [resolveWithin_count hg hp, Option.map_eq_some_iff] at h
      obtain ⟨ws, hws, rfl⟩ := h
      exact ⟨_, .count ⟨depth, hws⟩, rfl⟩
  · rintro ⟨v, hyields, rfl⟩
    cases hyields with
    | fixed v => exact ⟨0, resolveWithin_fixed hg hp 0⟩
    | @concat parts vss hparts =>
      have hall := mapM_eq_some_iff.mpr (hparts.imp fun _ _ h => resolves_iff.mp h)
      exact ⟨r.presets.size + 1, by rw [resolveWithin_concat hg hp, hall]; rfl⟩
    | @count v vs hv =>
      exact ⟨r.presets.size + 1, by rw [resolveWithin_count hg hp, resolves_iff.mp hv]; rfl⟩

theorem Names.resolve_eq {name : String} {v : Value} (h : r.Names name v) :
    r.resolve (.ref name) = v.elements := by
  obtain ⟨hg, p, hp, hyields⟩ := h
  exact ((resolves_ref_iff hg hp).mpr ⟨v, hyields, rfl⟩).resolve_eq

end Runbook.Registry
