import Runbook.Proofs.Contexts.Combinations
import Runbook.Proofs.Contexts.Filling
import Runbook.Proofs.Json.Data
import Mathlib.Data.Multiset.Bind

/-!
# The order of keys

A context maps keys to values, so the order of its members does not count (`unordered`). The order
of the keys of a template decides in which order its contexts come, but not which ones: they are the
same mappings, each as often (`Template.expand_perm`).

Choosing one candidate for each key does not depend on the order of the keys
(`Template.choices_perm`). What was chosen decides the values (`Template.substitute_perm`): a format
looks names up among the plain values, where of different keys each is found, wherever it stands,
and no derived value is (`Template.Shows`).
-/

namespace Runbook.Contexts

/-- The members of a mapping, in no order. -/
def unordered {α : Type} (members : List (String × α)) : Multiset (String × α) := members

theorem unordered_eq_iff {α : Type} {members members' : List (String × α)} :
    unordered members = unordered members' ↔ members.Perm members' :=
  Multiset.coe_eq_coe

/-! ### Candidates that a text can write -/

/-- A candidate that can be written down: a value, or a format. -/
inductive Candidate.IsWritten : Candidate → Prop where
  | plain (value : Json) : IsWritten (.plain value)
  | format (template : String) : IsWritten (.format template)

variable {context context' : Context}

theorem Candidate.IsWritten.value_congr {c : Candidate} (hc : c.IsWritten)
    (h : ∀ name, Json.lookup? name context = Json.lookup? name context') :
    c.value context = c.value context' := by
  cases hc with
  | plain value => rfl
  | format template => exact congrArg Json.str (fill_congr h template)

namespace Template

variable {t t' : Template} {x y : List (String × Candidate)}

/-! ### Choosing -/

/-- A combination chooses one candidate for each key. -/
theorem mem_combinations_iff :
    x ∈ t.combinations ↔ List.Forall₂ (fun choice e => choice.1 = e.1 ∧ choice.2 ∈ e.2) x t := by
  induction t generalizing x with
  | nil => rw [combinations, List.mem_singleton, List.forall₂_nil_right_iff]
  | cons e rest ih =>
    obtain ⟨key, candidates⟩ := e
    rw [combinations, List.mem_flatMap, List.forall₂_cons_right_iff]
    constructor
    · rintro ⟨c, hc, hx⟩
      obtain ⟨y, hy, rfl⟩ := List.mem_map.mp hx
      exact ⟨(key, c), y, ⟨rfl, hc⟩, ih.mp hy, rfl⟩
    · rintro ⟨⟨_, c⟩, y, ⟨rfl, hc⟩, hy, rfl⟩
      exact ⟨c, hc, List.mem_map.mpr ⟨y, ih.mpr hy, rfl⟩⟩

theorem map_fst_of_mem_combinations (h : x ∈ t.combinations) : x.map (·.1) = t.keys := by
  have hchosen := mem_combinations_iff.mp h
  induction hchosen with
  | nil => rfl
  | cons hfirst hrest ih =>
    rw [List.map_cons, keys_cons, hfirst.1, ih (mem_combinations_iff.mpr hrest)]

/-- What holds of all candidates holds of those that are chosen. -/
theorem forall_of_mem_combinations {p : Candidate → Prop} (h : x ∈ t.combinations)
    (ht : ∀ e ∈ t, ∀ c ∈ e.2, p c) : ∀ choice ∈ x, p choice.2 := by
  have hchosen := mem_combinations_iff.mp h
  intro choice hchoice
  obtain ⟨i, hi, rfl⟩ := List.mem_iff_getElem.mp hchoice
  have hi' : i < t.length := hchosen.length_eq ▸ hi
  exact ht t[i] (List.getElem_mem hi') _ (hchosen.get hi hi').2

/-- The choices that a template leaves, in no order, and the members of each in no order. -/
def choices (t : Template) : Multiset (Multiset (String × Candidate)) :=
  (t.combinations.map unordered : List _)

theorem choices_cons (e : String × List Candidate) (rest : Template) :
    choices (e :: rest) =
      (e.2 : Multiset Candidate).bind fun c => (choices rest).map ((e.1, c) ::ₘ ·) := by
  simp only [choices, combinations, Multiset.map_coe, Multiset.coe_bind, List.map_flatMap,
    List.map_map]
  rfl

/-- Candidates may be chosen for the keys in any order. -/
theorem choices_perm (h : t.Perm t') : t.choices = t'.choices := by
  induction h with
  | nil => rfl
  | cons e _ ih => rw [choices_cons, choices_cons, ih]
  | swap e e' rest =>
    simp only [choices_cons, Multiset.map_bind, Multiset.map_map]
    rw [Multiset.bind_bind]
    refine Multiset.bind_congr fun c _ => Multiset.bind_congr fun c' _ => ?_
    refine Multiset.map_congr rfl fun x _ => ?_
    exact Multiset.cons_swap _ _ _
  | trans _ _ ih ih' => exact ih.trans ih'

/-! ### Substituting -/

theorem mem_plainPart_iff {key : String} {v : Json} :
    (key, v) ∈ plainPart x ↔ (key, .plain v) ∈ x := by
  rw [plainPart, List.mem_filterMap]
  constructor
  · rintro ⟨⟨k, c⟩, hmem, hvalue⟩
    cases c with
    | plain w =>
      cases hvalue
      exact hmem
    | derived produce => cases hvalue
  · intro hmem
    exact ⟨_, hmem, rfl⟩

theorem map_fst_plainPart_sublist (x : List (String × Candidate)) :
    ((plainPart x).map (·.1)).Sublist (x.map (·.1)) := by
  induction x with
  | nil => exact List.Sublist.refl _
  | cons choice rest ih =>
    obtain ⟨key, c⟩ := choice
    cases c with
    | plain v => exact ih.cons_cons key
    | derived produce => exact ih.cons key

/-- A mapping holds the plain values that were chosen, and nothing else. -/
def Shows (seen : Context) (x : List (String × Candidate)) : Prop :=
  ∀ key v, Json.lookup? key seen = some v ↔ (key, .plain v) ∈ x

theorem shows_plainPart (hkeys : (x.map (·.1)).Nodup) : Shows (plainPart x) x := by
  intro key v
  rw [← mem_plainPart_iff]
  exact Json.lookup?_eq_some_iff ((map_fst_plainPart_sublist x).nodup hkeys)

theorem Shows.of_perm (hshows : Shows context x) (h : x.Perm y) : Shows context y := by
  intro key v
  rw [hshows key v, h.mem_iff]

theorem Shows.lookup?_eq (h : Shows context x) (h' : Shows context' x) (name : String) :
    Json.lookup? name context = Json.lookup? name context' := by
  refine Option.ext fun v => ?_
  rw [h name v, h' name v]

/-- The placeholder of a derived value is left as it is. -/
theorem Shows.valueText_derived (hshows : Shows context x) (hkeys : (x.map (·.1)).Nodup)
    {key : String} {produce : Context → Json} (h : (key, .derived produce) ∈ x) :
    valueText context key = "\x7b" ++ key ++ "\x7d" := by
  have hnone : Json.lookup? key context = none := by
    rw [Option.eq_none_iff_forall_ne_some]
    intro v hv
    cases List.inj_on_of_nodup_map hkeys h ((hshows key v).mp hv) rfl
  rw [valueText, hnone]

theorem substitute_eq_map (x : List (String × Candidate)) :
    substitute x = x.map fun choice => (choice.1, choice.2.value (plainPart x)) := by
  refine List.map_congr_left fun choice _ => ?_
  obtain ⟨key, c⟩ := choice
  cases c <;> rfl

/-- The values do not depend on the order in which the candidates were chosen. -/
theorem substitute_perm (hkeys : (x.map (·.1)).Nodup)
    (hwritten : ∀ choice ∈ x, choice.2.IsWritten) (h : x.Perm y) :
    (substitute x).Perm (substitute y) := by
  have hplain : ∀ name, Json.lookup? name (plainPart x) = Json.lookup? name (plainPart y) :=
    ((shows_plainPart hkeys).of_perm h).lookup?_eq (shows_plainPart ((h.map _).nodup hkeys))
  have hvalues : substitute x = x.map fun choice => (choice.1, choice.2.value (plainPart y)) := by
    rw [substitute_eq_map]
    refine List.map_congr_left fun choice hchoice => ?_
    rw [(hwritten choice hchoice).value_congr hplain]
  rw [hvalues, substitute_eq_map y]
  exact h.map _

theorem map_fst_substitute (x : List (String × Candidate)) :
    (substitute x).map (·.1) = x.map (·.1) := by
  rw [substitute_eq_map, List.map_map]
  rfl

/-- What a format gives is filled out of the plain values, in whatever order they are seen. -/
theorem Shows.lookup?_format (hshows : Shows context x) (hkeys : (x.map (·.1)).Nodup)
    {key template : String} (h : (key, .format template) ∈ x) :
    Json.lookup? key (substitute x) = some (.str (fill template context)) := by
  have hmem : (key, Json.str (fill template (plainPart x))) ∈ substitute x := by
    rw [substitute_eq_map]
    exact List.mem_map.mpr ⟨_, h, rfl⟩
  rw [fill_congr (hshows.lookup?_eq (shows_plainPart hkeys))]
  exact (Json.lookup?_eq_some_iff (map_fst_substitute x ▸ hkeys)).mpr hmem

/-! ### Expanding -/

/-- The values of choices in no order. -/
noncomputable def values (choice : Multiset (String × Candidate)) : Multiset (String × Json) :=
  unordered (substitute choice.toList)

theorem unordered_substitute (hkeys : (x.map (·.1)).Nodup)
    (hwritten : ∀ choice ∈ x, choice.2.IsWritten) :
    unordered (substitute x) = values (unordered x) := by
  have hperm : x.Perm (unordered x).toList := unordered_eq_iff.mp (Multiset.coe_toList _).symm
  exact unordered_eq_iff.mpr (substitute_perm hkeys hwritten hperm)

theorem unordered_expand (hkeys : t.keys.Nodup) (hwritten : ∀ e ∈ t, ∀ c ∈ e.2, c.IsWritten) :
    (t.expand.map unordered : Multiset (Multiset (String × Json))) = t.choices.map values := by
  have hvalues : ∀ x ∈ t.combinations, unordered (substitute x) = values (unordered x) := by
    intro x hx
    refine unordered_substitute ?_ (forall_of_mem_combinations hx hwritten)
    rw [map_fst_of_mem_combinations hx]
    exact hkeys
  rw [expand, List.map_map, choices, Multiset.map_coe, List.map_map]
  exact congrArg _ (List.map_congr_left hvalues)

/-- **The order of the keys does not count.** When they are rearranged, the same mappings come out,
each as often. What a format gives is filled out of the plain values that were chosen with it, in
whatever order these are seen, and the placeholder of a derived value stays. -/
theorem expand_perm (hkeys : t.keys.Nodup) (hwritten : ∀ e ∈ t, ∀ c ∈ e.2, c.IsWritten)
    (hperm : t.Perm t') :
    (t.expand.map unordered).Perm (t'.expand.map unordered) ∧
    ∀ x ∈ t.combinations, (substitute x).map (·.1) = t.keys ∧ Shows (plainPart x) x ∧
      ∀ seen, Shows seen x →
        (∀ key template, (key, .format template) ∈ x →
          Json.lookup? key (substitute x) = some (.str (fill template seen))) ∧
        ∀ key produce, (key, .derived produce) ∈ x →
          valueText seen key = "\x7b" ++ key ++ "\x7d" := by
  constructor
  · have hkeys' : t'.keys.Nodup := (hperm.map _).nodup hkeys
    have hwritten' : ∀ e ∈ t', ∀ c ∈ e.2, c.IsWritten :=
      fun e he => hwritten e (hperm.mem_iff.mpr he)
    rw [← Multiset.coe_eq_coe, unordered_expand hkeys hwritten, unordered_expand hkeys' hwritten',
      choices_perm hperm]
  · intro x hx
    have hnames : x.map (·.1) = t.keys := map_fst_of_mem_combinations hx
    have hnodup : (x.map (·.1)).Nodup := hnames ▸ hkeys
    refine ⟨(map_fst_substitute x).trans hnames, shows_plainPart hnodup, fun seen hseen => ?_⟩
    exact ⟨fun _ _ h => hseen.lookup?_format hnodup h, fun _ _ h =>
      hseen.valueText_derived hnodup h⟩

/-- A format that stands before the key that it mentions, with a value that is given twice. -/
theorem expand_perm_label :
    let format : Candidate := .format "\x7bn\x7d"
    let one : Candidate := .plain (.str "one")
    let t : Template := [("label", [format]), ("n", [one, one])]
    let t' : Template := [("n", [one, one]), ("label", [format])]
    t.keys.Nodup ∧ (∀ e ∈ t, ∀ c ∈ e.2, c.IsWritten) ∧ t.Perm t' ∧
      (t.expand.map unordered).Perm (t'.expand.map unordered) ∧
      Json.lookup? "label" (substitute [("label", format), ("n", one)]) = some (.str "one") := by
  intro format one t t'
  have hkeys : t.keys.Nodup := by decide
  have hwritten : ∀ e ∈ t, ∀ c ∈ e.2, c.IsWritten := by
    intro e he c hc
    rcases List.mem_pair.mp he with rfl | rfl
    · rw [List.mem_singleton.mp hc]
      exact .format _
    · rcases List.mem_pair.mp hc with rfl | rfl <;> exact .plain _
  have hperm : t.Perm t' := .swap _ _ _
  obtain ⟨hexpand, hvalues⟩ := expand_perm hkeys hwritten hperm
  have hx : [("label", format), ("n", one)] ∈ t.combinations := List.mem_cons_self
  obtain ⟨-, hshows, hseen⟩ := hvalues _ hx
  have hlabel := (hseen _ hshows).1 "label" "\x7bn\x7d" List.mem_cons_self
  have hname : IsName "n".toList := isName_singleton.mpr (by decide +kernel)
  have hfill : fill "\x7bn\x7d" [("n", .str "one")] = "one" := fill_mark hname _
  refine ⟨hkeys, hwritten, hperm, hexpand, hlabel.trans ?_⟩
  exact congrArg (fun text => some (Json.str text)) hfill

end Template

end Runbook.Contexts
