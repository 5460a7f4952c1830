import Runbook.Proofs.Rows.Reachability
import Mathlib.Data.List.Nodup

/-!
# Which ids a member tree repeats

No id stands twice below one and the same id of a member tree, but an id may stand in several places
(`memberTree_repeats_member`): members are collected before they are visited, so a member that an
earlier one leads to is listed below that one, and once more in its own turn.

That is the only way in which an id is repeated. All keys are different exactly if no key directly
below an id stands also below an earlier one there (`Orderly`). In terms of the rows, where texts
tell ids apart: exactly if none of the members collected for an id is led to by an earlier one
outside of what was met when they were collected (`Apart`).
-/

namespace Runbook.Rows

variable {rows : List Json} {root : Json} {ids trees : List (String × Json)}
  {met met' : List String}

/-! ### Visits in parts -/

theorem keysOf_append (ts us : List (String × Json)) :
    keysOf (ts ++ us) = keysOf ts ++ keysOf us := by
  induction ts with
  | nil => rfl
  | cons t ts ih =>
    obtain ⟨name, below⟩ := t
    rw [List.cons_append, keysOf_cons, keysOf_cons, ih, List.cons_append, List.append_assoc]

theorem Visits.append {ids' trees' : List (String × Json)} {met'' : List String}
    (h : Visits rows ids met trees met') (h' : Visits rows ids' met' trees' met'') :
    Visits rows (ids ++ ids') met (trees ++ trees') met'' := by
  induction h with
  | nil met => exact h'
  | cons hbelow _ _ ihrest => exact .cons hbelow (ihrest h')

theorem Visits.exists_parts {before after : List (String × Json)}
    (h : Visits rows (before ++ after) met trees met') :
    ∃ trees₁ met₁ trees₂, trees = trees₁ ++ trees₂ ∧ Visits rows before met trees₁ met₁ ∧
      Visits rows after met₁ trees₂ met' := by
  induction before generalizing met trees with
  | nil => exact ⟨[], met, trees, rfl, .nil met, h⟩
  | cons c before ih =>
    cases h with
    | cons hbelow hrest =>
      obtain ⟨trees₁, met₁, trees₂, rfl, hbefore, hafter⟩ := ih hrest
      exact ⟨_ :: trees₁, met₁, trees₂, rfl, .cons hbelow hbefore, hafter⟩

/-- Only what was met matters, not its order. -/
theorem unmet_congr (h : ∀ t, t ∈ met ↔ t ∈ met') (ids : List Json) :
    unmet met ids = unmet met' ids := by
  induction ids generalizing met met' with
  | nil => rfl
  | cons id rest ih =>
    have hcontains : met.contains (idText id) = met'.contains (idText id) := by
      rw [Bool.eq_iff_iff, List.contains_iff_mem, List.contains_iff_mem, h]
    have hcons : ∀ t, t ∈ idText id :: met ↔ t ∈ idText id :: met' := fun t => by
      rw [List.mem_cons, List.mem_cons, h]
    rw [unmet, unmet, hcontains, ih h, ih hcons]

theorem LeadsTo.congr (h : ∀ t, t ∈ met ↔ t ∈ met') {x : Json} {t : String} :
    LeadsTo rows met x t ↔ LeadsTo rows met' x t :=
  ⟨fun ⟨y, hy, hyt⟩ => ⟨y, hy.anti fun _ hm => (h _).mpr hm, hyt⟩,
    fun ⟨y, hy, hyt⟩ => ⟨y, hy.anti fun _ hm => (h _).mp hm, hyt⟩⟩

/-! ### Below one and the same id -/

/-- A link stands at the top, or its key was not met before. -/
theorem Visits.of_mem_links (h : Visits rows ids met trees met') {above p t : String}
    (hlink : (p, t) ∈ linksOf above trees) :
    (p = above ∧ t ∈ ids.map (·.1)) ∨ (p ∈ keysOf trees ∧ t ∈ keysOf trees ∧ t ∉ met) := by
  induction h generalizing above with
  | nil met => cases hlink
  | @cons id rest below others met met₁ met₂ hbelow _ ihbelow ihrest =>
    rw [linksOf_cons, links_obj, List.mem_cons, List.mem_append] at hlink
    simp only [keysOf_cons, keys_obj, List.mem_cons, List.mem_append, List.map_cons]
    rcases hlink with heq | hlink | hlink
    · obtain ⟨rfl, rfl⟩ := Prod.mk.inj heq
      exact .inl ⟨rfl, .inl rfl⟩
    · rcases ihbelow hlink with ⟨rfl, ht⟩ | ⟨hp, ht, hnew⟩
      · obtain ⟨c, hc, rfl⟩ := List.mem_map.mp ht
        have hkey := mem_keysOf_of_mem (hbelow.map_fst ▸ ht)
        exact .inr ⟨.inl rfl, .inr (.inl hkey),
          fun hmem => (of_mem_unmet hc).2.2 (List.mem_cons_of_mem _ hmem)⟩
      · exact .inr ⟨.inr (.inl hp), .inr (.inl ht), fun hmem => hnew (List.mem_cons_of_mem _ hmem)⟩
    · rcases ihrest hlink with ⟨rfl, ht⟩ | ⟨hp, ht, hnew⟩
      · exact .inl ⟨rfl, .inr ht⟩
      · exact .inr ⟨.inr (.inr hp), .inr (.inr ht),
          fun hmem => hnew (hbelow.subset (List.mem_cons_of_mem _ hmem))⟩

/-- No key stands twice below one and the same key. -/
theorem Visits.nodup_links (h : Visits rows ids met trees met') {above : String}
    (habove : above ∈ met) (hids : (ids.map (·.1)).Nodup) (hother : above ∉ ids.map (·.1)) :
    (linksOf above trees).Nodup := by
  induction h generalizing above with
  | nil met => exact .nil
  | @cons id rest below others met met₁ met₂ hbelow hrest ihbelow ihrest =>
    obtain ⟨hfirst, hids⟩ := List.nodup_cons.mp hids
    obtain ⟨hne, hother⟩ := not_or.mp (mt List.mem_cons.mpr hother)
    have hmembers : ∀ c ∈ unmet (idText id :: met) (memberIds rows id), c.1 ∉ idText id :: met :=
      fun c hc => (of_mem_unmet hc).2.2
    have hself : idText id ∉ (unmet (idText id :: met) (memberIds rows id)).map (·.1) :=
      fun hmem => by
        obtain ⟨c, hc, heq⟩ := List.mem_map.mp hmem
        exact hmembers c hc (heq ▸ List.mem_cons_self)
    -- the key above was met, so it is none of the keys below
    have hnotBelow : ∀ {t : String}, (above, t) ∉ linksOf (idText id) below := fun hlink => by
      rcases hbelow.of_mem_links hlink with ⟨heq, -⟩ | ⟨hp, -, -⟩
      · exact hne heq
      · exact hbelow.not_mem_of_mem_keys (List.Subset.refl _) hmembers hp
          (List.mem_cons_of_mem _ habove)
    rw [linksOf_cons, links_obj, List.nodup_cons, List.mem_append, List.nodup_append']
    refine ⟨?_, ihbelow List.mem_cons_self (nodup_unmet _ _) hself,
      ihrest (hbelow.subset (List.mem_cons_of_mem _ habove)) hids hother, ?_⟩
    · rintro (hlink | hlink)
      · exact hnotBelow hlink
      · rcases hrest.of_mem_links hlink with ⟨-, hmem⟩ | ⟨-, -, hnew⟩
        · exact hfirst hmem
        · exact hnew (hbelow.subset List.mem_cons_self)
    · rintro ⟨p, t⟩ hin hout
      rcases hrest.of_mem_links hout with ⟨rfl, -⟩ | ⟨-, -, hnew⟩
      · exact hnotBelow hin
      · refine hnew (hbelow.mem_met_iff.mpr (.inr ?_))
        rcases hbelow.of_mem_links hin with ⟨-, ht⟩ | ⟨-, ht, -⟩
        · exact mem_keysOf_of_mem (hbelow.map_fst ▸ ht)
        · exact ht

/-! ### Repeated keys -/

mutual

/-- In the object, and in all objects below it, no name is also a key below an earlier name. -/
def Orderly : Json → Prop
  | .obj members => OrderlyAll members
  | _ => True
termination_by structural j => j

/-- `Orderly` for the members of an object. -/
def OrderlyAll : List (String × Json) → Prop
  | [] => True
  | (_, below) :: rest =>
    Orderly below ∧ (∀ m ∈ rest, m.1 ∉ keys below) ∧ OrderlyAll rest
termination_by structural members => members

end

/-- A key is one of the ids or was not met before. -/
theorem Visits.mem_ids_or_not_mem (h : Visits rows ids met trees met') {t : String}
    (ht : t ∈ keysOf trees) : t ∈ ids.map (·.1) ∨ t ∉ met := by
  by_cases hids : t ∈ ids.map (·.1)
  · exact .inl hids
  right
  induction h with
  | nil met => cases ht
  | @cons id rest below others met met₁ met₂ hbelow _ _ ihrest =>
    obtain ⟨hne, hids⟩ := not_or.mp (mt List.mem_cons.mpr hids)
    rw [keysOf_cons, keys_obj, List.mem_cons, List.mem_append] at ht
    rcases ht with heq | ht | ht
    · exact absurd heq hne
    · have hnew := hbelow.not_mem_of_mem_keys (List.Subset.refl _)
        (fun c hc => (of_mem_unmet hc).2.2) ht
      exact fun hmem => hnew (List.mem_cons_of_mem _ hmem)
    · exact fun hmem => ihrest ht hids (hbelow.subset (List.mem_cons_of_mem _ hmem))

/-- The keys of a tree are all different if those below are, the others are, and no other id was
met below. -/
theorem Visits.nodup_cons_iff {id : Json} {rest below others : List (String × Json)}
    {met met₁ met₂ : List String}
    (hbelow : Visits rows (unmet (idText id :: met) (memberIds rows id)) (idText id :: met) below
      met₁) (hrest : Visits rows rest met₁ others met₂) (hid : idText id ∉ rest.map (·.1)) :
    (keysOf ((idText id, .obj below) :: others)).Nodup ↔
      (keysOf below).Nodup ∧ (∀ c ∈ rest, c.1 ∉ keysOf below) ∧ (keysOf others).Nodup := by
  have hself : idText id ∉ keysOf below := fun hmem =>
    hbelow.not_mem_of_mem_keys (List.Subset.refl _) (fun c hc => (of_mem_unmet hc).2.2) hmem
      List.mem_cons_self
  have hothers : idText id ∉ keysOf others := fun hmem =>
    (hrest.mem_ids_or_not_mem hmem).elim hid fun hnew =>
      hnew (hbelow.subset List.mem_cons_self)
  rw [keysOf_cons, keys_obj, List.nodup_cons, List.mem_append, List.nodup_append']
  constructor
  · rintro ⟨-, hbelowNodup, hothersNodup, hdisjoint⟩
    refine ⟨hbelowNodup, fun c hc hmem => hdisjoint hmem ?_, hothersNodup⟩
    exact mem_keysOf_of_mem (hrest.map_fst ▸ List.mem_map_of_mem hc)
  · rintro ⟨hbelowNodup, hnot, hothersNodup⟩
    refine ⟨fun hmem => hmem.elim hself hothers, hbelowNodup, hothersNodup, fun t hin hout => ?_⟩
    rcases hrest.mem_ids_or_not_mem hout with hmem | hnew
    · obtain ⟨c, hc, rfl⟩ := List.mem_map.mp hmem
      exact hnot c hc hin
    · exact hnew (hbelow.mem_met_iff.mpr (.inr hin))

theorem Visits.nodup_iff_orderly (h : Visits rows ids met trees met')
    (hids : (ids.map (·.1)).Nodup) : (keysOf trees).Nodup ↔ OrderlyAll trees := by
  induction h with
  | nil met => exact iff_of_true .nil trivial
  | @cons id rest below others met met₁ met₂ hbelow hrest ihbelow ihrest =>
    obtain ⟨hfirst, hids⟩ := List.nodup_cons.mp hids
    have hnames : (∀ m ∈ others, m.1 ∉ keysOf below) ↔ ∀ c ∈ rest, c.1 ∉ keysOf below := by
      rw [← List.forall_mem_map (P := fun t => t ∉ keysOf below), hrest.map_fst,
        List.forall_mem_map]
    rw [Visits.nodup_cons_iff hbelow hrest hfirst, OrderlyAll, Orderly, keys_obj, hnames,
      ihbelow (nodup_unmet _ _), ihrest hids]

/-! ### Repeated ids -/

/-- The building of a tree enters the id `x` when the texts `met` were met: the root first of all,
and a member collected for an entered id when everything that the earlier ones lead to was met. -/
inductive Enters (rows : List Json) (root : Json) : (x : Json) → (met : List String) → Prop where
  /-- The root. -/
  | root : Enters rows root root []
  /-- A member of an entered id. -/
  | member {x c : Json} {met met' : List String} {before after : List (String × Json)} :
      Enters rows root x met →
        unmet (idText x :: met) (memberIds rows x) = before ++ (idText c, c) :: after →
        (∀ t, t ∈ met' ↔
          t ∈ idText x :: met ∨ ∃ b ∈ before, LeadsTo rows (idText x :: met) b.2 t) →
        Enters rows root c met'

/-- No member collected for an entered id is led to by an earlier one. -/
def Apart (rows : List Json) (root : Json) : Prop :=
  ∀ x met, Enters rows root x met → ∀ before c after,
    unmet (idText x :: met) (memberIds rows x) = before ++ c :: after →
      ∀ b ∈ before, ¬LeadsTo rows (idText x :: met) b.2 c.1

/-- The members that are collected are ids. -/
theorem mem_allIds_of_mem_unmet {x : Json} {c : String × Json}
    (h : c ∈ unmet met (memberIds rows x)) : c.2 ∈ allIds rows root :=
  (mem_memberIds_iff.mp (of_mem_unmet h).2.1).mem_allIds

/-- Below an id that is entered, nothing is repeated if nothing is in the whole tree. -/
theorem Enters.exists_visits (h : ToldApart rows root)
    (hnodup : (keys (memberTree rows root)).Nodup) {x : Json} (hx : Enters rows root x met) :
    ∃ met₀ trees met', (∀ t, t ∈ met₀ ↔ t ∈ met) ∧
      Visits rows (unmet (idText x :: met₀) (memberIds rows x)) (idText x :: met₀) trees met' ∧
      (keysOf trees).Nodup := by
  induction hx with
  | root =>
    obtain ⟨trees, met', htree, hv⟩ := exists_visits_memberTree rows root
    rw [htree, keys_obj] at hnodup
    exact ⟨[], trees, met', fun _ => Iff.rfl, hv, hnodup⟩
  | @member x c met met' before after _ hmembers hmet ih =>
    obtain ⟨met₀, trees, metEnd, hmet₀, hv, hkeys⟩ := ih
    have hcons : ∀ t, t ∈ idText x :: met₀ ↔ t ∈ idText x :: met := fun t => by
      rw [List.mem_cons, List.mem_cons, hmet₀]
    rw [unmet_congr hcons, hmembers] at hv
    obtain ⟨trees₁, met₁, trees₂, rfl, hbefore, hafter⟩ := hv.exists_parts
    have hids : ∀ b ∈ before, b.2 ∈ allIds rows root := fun b hb =>
      mem_allIds_of_mem_unmet (hmembers ▸ List.mem_append_left _ hb)
    obtain ⟨below, others, met₂, rfl, hbelow, -⟩ := hafter.exists_of_cons
    refine ⟨met₁, below, met₂, fun t => ?_, hbelow, ?_⟩
    · rw [hbefore.mem_met_iff_leads h hids, hmet, hcons]
      simp only [LeadsTo.congr hcons]
    · rw [keysOf_append, keysOf_cons, keys_obj] at hkeys
      exact (List.nodup_cons.mp hkeys.of_append_right).2.of_append_left

theorem apart_of_nodup (h : ToldApart rows root) (hnodup : (keys (memberTree rows root)).Nodup) :
    Apart rows root := by
  intro x met hx before c after hmembers b hb hlead
  obtain ⟨met₀, trees, met', hmet₀, hv, hkeys⟩ := hx.exists_visits h hnodup
  have hcons : ∀ t, t ∈ idText x :: met₀ ↔ t ∈ idText x :: met := fun t => by
    rw [List.mem_cons, List.mem_cons, hmet₀]
  rw [unmet_congr hcons, hmembers] at hv
  obtain ⟨trees₁, met₁, trees₂, rfl, hbefore, hafter⟩ := hv.exists_parts
  have hmem : ∀ {d : String × Json}, d ∈ before ++ c :: after →
      d ∈ unmet (idText x :: met) (memberIds rows x) := fun hd => hmembers ▸ hd
  -- the member is a key of the trees before it, and a key in its own turn
  have hmet₁ : c.1 ∈ met₁ := (hbefore.mem_met_iff_leads h fun d hd =>
    mem_allIds_of_mem_unmet (hmem (List.mem_append_left _ hd))).mpr
      (.inr ⟨b, hb, (LeadsTo.congr hcons).mpr hlead⟩)
  have hnew : c.1 ∉ idText x :: met₀ := fun hc =>
    (of_mem_unmet (hmem (List.mem_append_right _ List.mem_cons_self))).2.2 ((hcons _).mp hc)
  have hearlier : c.1 ∈ keysOf trees₁ := (hbefore.mem_met_iff.mp hmet₁).resolve_left hnew
  have hown : c.1 ∈ keysOf trees₂ :=
    mem_keysOf_of_mem (hafter.map_fst ▸ List.mem_cons_self)
  rw [keysOf_append] at hkeys
  exact List.disjoint_of_nodup_append hkeys hearlier hown

/-- Below an id that is entered, the members that are left repeat nothing. -/
theorem Visits.nodup_of_apart (h : ToldApart rows root) (hapart : Apart rows root)
    (hv : Visits rows ids met trees met') {x : Json} {met₀ : List String}
    {before treesBefore : List (String × Json)} (hx : Enters rows root x met₀)
    (hmembers : unmet (idText x :: met₀) (memberIds rows x) = before ++ ids)
    (hbefore : Visits rows before (idText x :: met₀) treesBefore met) :
    (keysOf trees).Nodup := by
  induction hv generalizing x met₀ before treesBefore with
  | nil met => exact .nil
  | @cons id rest below others met met₁ met₂ hbelow hrest ihbelow ihrest =>
    have hmem : ∀ {d : String × Json}, d ∈ before ++ (idText id, id) :: rest →
        d ∈ unmet (idText x :: met₀) (memberIds rows x) := fun hd => hmembers ▸ hd
    have hentered : Enters rows root id met := .member hx hmembers fun t =>
      hbefore.mem_met_iff_leads h fun d hd =>
        mem_allIds_of_mem_unmet (hmem (List.mem_append_left _ hd))
    have hfirst : idText id ∉ rest.map (·.1) := by
      have hnodup := nodup_unmet (idText x :: met₀) (memberIds rows x)
      rw [hmembers, List.map_append, List.map_cons] at hnodup
      exact (List.nodup_cons.mp hnodup.of_append_right).1
    have hmembers' : unmet (idText x :: met₀) (memberIds rows x) =
        (before ++ [(idText id, id)]) ++ rest := by
      rw [hmembers, List.append_assoc, List.singleton_append]
    have hfar := hbefore.append (.cons hbelow (.nil met₁))
    refine (Visits.nodup_cons_iff hbelow hrest hfirst).mpr
      ⟨ihbelow hentered rfl (.nil _), fun c hc hkey => ?_, ihrest hx hmembers' hfar⟩
    -- a member met below this one would be led to by it or by an earlier one
    have hmet₁ : c.1 ∈ met₁ := hbelow.mem_met_iff.mpr (.inr hkey)
    rcases (hfar.mem_met_iff_leads h fun d hd => mem_allIds_of_mem_unmet
      (hmembers' ▸ List.mem_append_left _ hd)).mp hmet₁ with hmem₀ | ⟨b, hb, hlead⟩
    · exact (of_mem_unmet (hmem (List.mem_append_right _ (List.mem_cons_of_mem _ hc)))).2.2 hmem₀
    · obtain ⟨between, after, rfl⟩ := List.append_of_mem hc
      refine hapart x met₀ hx (before ++ (idText id, id) :: between) c after ?_ b ?_ hlead
      · rw [hmembers, List.append_assoc, List.cons_append]
      · rcases List.mem_append.mp hb with hb | hb
        · exact List.mem_append_left _ hb
        · obtain rfl := List.mem_singleton.mp hb
          exact List.mem_append_right _ List.mem_cons_self

/-- **A member tree repeats an id exactly where it stands directly below an id and also below an
earlier member of that id, and never twice below one and the same id.** -/
theorem memberTree_repeats (rows : List Json) (root : Json) :
    (links (idText root) (memberTree rows root)).Nodup ∧
    ((keys (memberTree rows root)).Nodup ↔ Orderly (memberTree rows root)) ∧
    (ToldApart rows root → ((keys (memberTree rows root)).Nodup ↔ Apart rows root)) := by
  obtain ⟨trees, met', htree, hv⟩ := exists_visits_memberTree rows root
  have hroot : idText root ∉ (unmet [idText root] (memberIds rows root)).map (·.1) :=
    fun hmem => by
      obtain ⟨c, hc, heq⟩ := List.mem_map.mp hmem
      exact (of_mem_unmet hc).2.2 (heq ▸ List.mem_cons_self)
  refine ⟨?_, ?_, fun h => ⟨apart_of_nodup h, fun hapart => ?_⟩⟩
  · rw [htree, links_obj]
    exact hv.nodup_links List.mem_cons_self (nodup_unmet _ _) hroot
  · rw [htree, keys_obj, Orderly]
    exact hv.nodup_iff_orderly (nodup_unmet _ _)
  · rw [htree, keys_obj]
    exact hv.nodup_of_apart h hapart .root rfl (.nil _)

/-- A team without a row stands twice among these teams, once below each team that lists it: the
later one among the members of the first is led to by the earlier one. -/
theorem memberTree_repeats_teams :
    ToldApart teams (.str "a") ∧ (links "a" (memberTree teams (.str "a"))).Nodup ∧
      ¬Orderly (memberTree teams (.str "a")) ∧ ¬Apart teams (.str "a") := by
  have htold : ToldApart teams (.str "a") := by
    unfold ToldApart
    decide +kernel
  obtain ⟨hlinks, horderly, hapart⟩ := memberTree_repeats teams (.str "a")
  have hkeys : keys (memberTree teams (.str "a")) = ["b", "7", "c", "c"] := by cbv
  have hrepeats : ¬(keys (memberTree teams (.str "a"))).Nodup := hkeys ▸ by decide
  exact ⟨htold, hlinks, mt horderly.mpr hrepeats, mt (hapart htold).mpr hrepeats⟩

/-- An id that is a member of the root and of an earlier member of the root stands in two
places. -/
theorem memberTree_repeats_member :
    keys (memberTree [team (.int 1) [.int 2, .int 3], team (.int 2) [.int 3]] (.int 1)) =
        ["2", "3", "3"] ∧
      ¬(keys (memberTree [team (.int 1) [.int 2, .int 3], team (.int 2) [.int 3]]
        (.int 1))).Nodup := by
  have hkeys : keys (memberTree [team (.int 1) [.int 2, .int 3], team (.int 2) [.int 3]]
      (.int 1)) = ["2", "3", "3"] := by cbv
  exact ⟨hkeys, hkeys ▸ by decide⟩

end Runbook.Rows
