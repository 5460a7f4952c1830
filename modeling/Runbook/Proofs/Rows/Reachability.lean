import Runbook.Proofs.Rows.Visiting
import Mathlib.Data.List.Permutation
import Mathlib.Logic.Relation

/-!
# Which ids a member tree holds

Ids are JSON values, and the keys of a member tree are texts. Where the texts tell the ids apart
(`ToldApart`), the tree of a root holds exactly the ids other than the root that can be reached from
it by member steps, and below each id stand members of that id.

Members are collected before any of them is visited, so one of them may be met while an earlier one
is visited. What is met nevertheless depends on reachability alone: visiting ids meets what can be
reached from them outside of what was met before (`Visits.mem_met_iff_leads`). A path that runs into
something met in the meantime goes on from there, and was followed from there.
-/

namespace Runbook.Rows

/-! ### Member steps -/

/-- Some row with the id `x` lists the member id `y`. -/
def Lists (rows : List Json) (x y : Json) : Prop :=
  ∃ row ∈ rows, ∃ id, row.get? "id" = some id ∧ id.same x = true ∧ y ∈ listedIds row

/-- One member step or more lead from `x` to an id equal to `y`. -/
def Reaches (rows : List Json) (x y : Json) : Prop :=
  ∃ member, Relation.TransGen (Lists rows) x member ∧ member.same y = true

/-- The root, the ids of the rows and the ids of their members. -/
def allIds (rows : List Json) (root : Json) : List Json :=
  root :: (rows.filterMap (·.get? "id") ++ rows.flatMap listedIds)

/-- Ids are equal exactly if their texts are. -/
def ToldApart (rows : List Json) (root : Json) : Prop :=
  ∀ x ∈ allIds rows root, ∀ y ∈ allIds rows root, x.same y = true ↔ idText x = idText y

theorem mem_memberIds_iff {rows : List Json} {x y : Json} :
    y ∈ memberIds rows x ↔ Lists rows x y := by
  simp only [memberIds, whereColumn, holds, List.mem_flatMap, List.mem_filter, Lists]
  constructor
  · rintro ⟨row, ⟨hrow, hholds⟩, hlisted⟩
    split at hholds
    · next id hid => exact ⟨row, hrow, id, hid, hholds, hlisted⟩
    · cases hholds
  · rintro ⟨row, hrow, id, hid, hsame, hlisted⟩
    exact ⟨row, ⟨hrow, by rw [hid]; exact hsame⟩, hlisted⟩

variable {rows : List Json} {root : Json}

theorem root_mem_allIds : root ∈ allIds rows root := List.mem_cons_self

theorem Lists.mem_allIds {x y : Json} (h : Lists rows x y) : y ∈ allIds rows root := by
  obtain ⟨row, hrow, -, -, -, hlisted⟩ := h
  exact List.mem_cons_of_mem _ (List.mem_append_right _
    (List.mem_flatMap.mpr ⟨row, hrow, hlisted⟩))

/-- Ids with one text have the same members. -/
theorem ToldApart.lists_congr (h : ToldApart rows root) {x x' y : Json}
    (hx : x ∈ allIds rows root) (hx' : x' ∈ allIds rows root) (htext : idText x = idText x')
    (hy : Lists rows x y) : Lists rows x' y := by
  obtain ⟨row, hrow, id, hid, hsame, hlisted⟩ := hy
  have hidMem : id ∈ allIds rows root := List.mem_cons_of_mem _ (List.mem_append_left _
    (List.mem_filterMap.mpr ⟨row, hrow, hid⟩))
  refine ⟨row, hrow, id, hid, ?_, hlisted⟩
  rw [h id hidMem x' hx', ← htext]
  exact (h id hidMem x hx).mp hsame

/-! ### What is met -/

/-- Member steps lead from `x` to `y`, none of them to an id that was met. -/
def Leads (rows : List Json) (met : List String) : Json → Json → Prop :=
  Relation.ReflTransGen fun x y => Lists rows x y ∧ idText y ∉ met

theorem Leads.anti {met met' : List String} (hsub : met ⊆ met') {x y : Json}
    (h : Leads rows met' x y) : Leads rows met x y := by
  have hstep : (fun x y => Lists rows x y ∧ idText y ∉ met') ≤
      fun x y => Lists rows x y ∧ idText y ∉ met :=
    fun _ _ hxy => ⟨hxy.1, fun hmem => hxy.2 (hsub hmem)⟩
  exact Relation.ReflTransGen.mono hstep x y h

theorem Leads.mem_allIds {met : List String} {x y : Json} (h : Leads rows met x y)
    (hx : x ∈ allIds rows root) : y ∈ allIds rows root := by
  cases h with
  | refl => exact hx
  | tail _ hstep => exact hstep.1.mem_allIds

/-- A text that can be reached from an id outside of what was met. -/
def LeadsTo (rows : List Json) (met : List String) (x : Json) (t : String) : Prop :=
  ∃ y, Leads rows met x y ∧ idText y = t

theorem LeadsTo.self (met : List String) (x : Json) : LeadsTo rows met x (idText x) :=
  ⟨x, .refl, rfl⟩

/-- What an id leads to is met with it, or one of its members that were not met leads there. -/
theorem ToldApart.leadsTo_iff (h : ToldApart rows root) {x : Json} (hx : x ∈ allIds rows root)
    {met : List String} {t : String} :
    LeadsTo rows met x t ↔ t = idText x ∨
      ∃ c ∈ unmet (idText x :: met) (memberIds rows x), LeadsTo rows (idText x :: met) c.2 t := by
  constructor
  · rintro ⟨y, hy, rfl⟩
    induction hy with
    | refl => exact .inl rfl
    | @tail y z hxy hyz ih =>
      by_cases hback : idText z = idText x
      · exact .inl hback
      have hnew : idText z ∉ idText x :: met := by
        rw [List.mem_cons]
        exact fun hmem => hmem.elim hback hyz.2
      have hyMem : y ∈ allIds rows root := Leads.mem_allIds hxy hx
      rcases ih with hyx | ⟨c, hc, w, hw, hwy⟩
      · -- the path is back at the id, and its next step is one of the members
        have hmember := mem_memberIds_iff.mpr (h.lists_congr hyMem hx hyx hyz.1)
        obtain ⟨c, hc, hcz⟩ := List.mem_map.mp ((mem_unmet_of_mem hmember).resolve_left hnew)
        obtain ⟨hctext, -, -⟩ := of_mem_unmet hc
        exact .inr ⟨c, hc, c.2, .refl, hctext ▸ hcz⟩
      · obtain ⟨-, hcmember, -⟩ := of_mem_unmet hc
        have hwMem : w ∈ allIds rows root :=
          hw.mem_allIds (mem_memberIds_iff.mp hcmember).mem_allIds
        exact .inr ⟨c, hc, z, hw.tail ⟨h.lists_congr hyMem hwMem hwy.symm hyz.1, hnew⟩, rfl⟩
  · rintro (rfl | ⟨c, hc, y, hy, rfl⟩)
    · exact .self met x
    · obtain ⟨hctext, hcmember, hcnew⟩ := of_mem_unmet hc
      rw [hctext] at hcnew
      have hfirst : Leads rows met x c.2 := .single ⟨mem_memberIds_iff.mp hcmember,
        fun hmem => hcnew (List.mem_cons_of_mem _ hmem)⟩
      exact ⟨y, hfirst.trans (hy.anti (List.subset_cons_self _ _)), rfl⟩

/-- Behind what one id leads to, another id leads to nothing else than before. -/
theorem ToldApart.leadsTo_behind (h : ToldApart rows root) {x c : Json}
    (hx : x ∈ allIds rows root) (hc : c ∈ allIds rows root) {met met₁ : List String}
    (hmet : ∀ t, t ∈ met₁ ↔ t ∈ met ∨ LeadsTo rows met x t) {t : String} :
    t ∈ met₁ ∨ LeadsTo rows met₁ c t ↔ t ∈ met ∨ LeadsTo rows met x t ∨ LeadsTo rows met c t := by
  have hsub : met ⊆ met₁ := fun t ht => (hmet t).mpr (.inl ht)
  constructor
  · rintro (hmem | ⟨y, hy, rfl⟩)
    · exact ((hmet t).mp hmem).imp_right .inl
    · exact .inr (.inr ⟨y, hy.anti hsub, rfl⟩)
  · rintro (hmem | hlead | ⟨y, hy, rfl⟩)
    · exact .inl (hsub hmem)
    · exact .inl ((hmet t).mpr (.inr hlead))
    · -- where the path first comes to something met, it goes on as a path from `x`
      have hpath : Leads rows met₁ c y ∨ LeadsTo rows met x (idText y) := by
        induction hy with
        | refl => exact .inl .refl
        | @tail y z hcy hyz ih =>
          have hyMem : y ∈ allIds rows root := Leads.mem_allIds hcy hc
          rcases ih with hy | ⟨w, hw, hwy⟩
          · by_cases hz : idText z ∈ met₁
            · exact .inr (((hmet _).mp hz).resolve_left hyz.2)
            · exact .inl (hy.tail ⟨hyz.1, hz⟩)
          · have hwMem : w ∈ allIds rows root := hw.mem_allIds hx
            exact .inr ⟨z, hw.tail ⟨h.lists_congr hyMem hwMem hwy.symm hyz.1, hyz.2⟩, rfl⟩
      exact hpath.elim (fun hy => .inr ⟨y, hy, rfl⟩) fun hlead => .inl ((hmet _).mpr (.inr hlead))

/-- Visiting ids meets what they lead to outside of what was met before. -/
theorem Visits.mem_met_iff_leads {ids trees : List (String × Json)} {met met' : List String}
    (hv : Visits rows ids met trees met') (h : ToldApart rows root)
    (hids : ∀ c ∈ ids, c.2 ∈ allIds rows root) {t : String} :
    t ∈ met' ↔ t ∈ met ∨ ∃ c ∈ ids, LeadsTo rows met c.2 t := by
  induction hv generalizing t with
  | nil met => simp
  | @cons id rest below others met met₁ met₂ _ _ ihbelow ihrest =>
    have hid : id ∈ allIds rows root := hids _ List.mem_cons_self
    have hrest : ∀ c ∈ rest, c.2 ∈ allIds rows root :=
      fun c hc => hids c (List.mem_cons_of_mem _ hc)
    have hmet : ∀ t, t ∈ met₁ ↔ t ∈ met ∨ LeadsTo rows met id t := by
      intro t
      rw [ihbelow fun c hc => (mem_memberIds_iff.mp (of_mem_unmet hc).2.1).mem_allIds,
        h.leadsTo_iff hid, List.mem_cons]
      tauto
    have hbehind : ∀ c ∈ rest, (t ∈ met₁ ∨ LeadsTo rows met₁ c.2 t ↔
        t ∈ met ∨ LeadsTo rows met id t ∨ LeadsTo rows met c.2 t) :=
      fun c hc => h.leadsTo_behind hid (hrest c hc) hmet
    rw [ihrest hrest, List.exists_mem_cons_iff]
    constructor
    · rintro (hmem | ⟨c, hc, hlead⟩)
      · exact ((hmet t).mp hmem).imp_right .inl
      · rcases (hbehind c hc).mp (.inr hlead) with hmem | hlead | hlead
        · exact .inl hmem
        · exact .inr (.inl hlead)
        · exact .inr (.inr ⟨c, hc, hlead⟩)
    · rintro (hmem | hlead | ⟨c, hc, hlead⟩)
      · exact .inl ((hmet t).mpr (.inl hmem))
      · exact .inl ((hmet t).mpr (.inr hlead))
      · rcases (hbehind c hc).mpr (.inr (.inr hlead)) with hmem | hlead
        · exact .inl hmem
        · exact .inr ⟨c, hc, hlead⟩

/-! ### Keys and what stands below them -/

mutual

/-- The keys of a tree, each with the key that it stands directly below; `above` stands above the
whole tree. -/
def links (above : String) : Json → List (String × String)
  | .obj members => linksOf above members
  | _ => []
termination_by structural j => j

/-- `links` for the members of an object. -/
def linksOf (above : String) : List (String × Json) → List (String × String)
  | [] => []
  | (name, below) :: rest => (above, name) :: (links name below ++ linksOf above rest)
termination_by structural members => members

end

@[simp] theorem links_obj (above : String) (members : List (String × Json)) :
    links above (.obj members) = linksOf above members := rfl

@[simp] theorem linksOf_nil (above : String) : linksOf above [] = [] := rfl

@[simp] theorem linksOf_cons (above name : String) (below : Json) (rest : List (String × Json)) :
    linksOf above ((name, below) :: rest) =
      (above, name) :: (links name below ++ linksOf above rest) := rfl

/-- Directly below an id stand members of it. -/
theorem Visits.exists_lists {ids trees : List (String × Json)} {met met' : List String}
    (hv : Visits rows ids met trees met') {x : Json} (hx : x ∈ allIds rows root)
    (hids : ∀ c ∈ ids, Lists rows x c.2) {p t : String}
    (hlink : (p, t) ∈ linksOf (idText x) trees) :
    ∃ x' ∈ allIds rows root, idText x' = p ∧ ∃ y, Lists rows x' y ∧ idText y = t := by
  induction hv generalizing x with
  | nil met => cases hlink
  | @cons id rest below others met met₁ met₂ _ _ ihbelow ihrest =>
    have hid : Lists rows x id := hids _ List.mem_cons_self
    rw [linksOf_cons, links_obj, List.mem_cons, List.mem_append] at hlink
    rcases hlink with heq | hlink | hlink
    · obtain ⟨rfl, rfl⟩ := Prod.mk.inj heq
      exact ⟨x, hx, rfl, id, hid, rfl⟩
    · exact ihbelow hid.mem_allIds (fun c hc => mem_memberIds_iff.mp (of_mem_unmet hc).2.1) hlink
    · exact ihrest hx (fun c hc => hids c (List.mem_cons_of_mem _ hc)) hlink

/-- From an id to another one than itself lead member steps, if any do, that do not come back. -/
theorem ToldApart.leadsTo_of_reaches (h : ToldApart rows root) {x y : Json}
    (hx : x ∈ allIds rows root) (hxy : Relation.TransGen (Lists rows) x y) :
    LeadsTo rows [] x (idText y) := by
  induction hxy with
  | single hstep => exact ⟨_, .single ⟨hstep, List.not_mem_nil⟩, rfl⟩
  | @tail y z hxy hyz ih =>
    obtain ⟨w, hw, hwy⟩ := ih
    have hyMem : y ∈ allIds rows root := by
      cases hxy with
      | single hstep => exact hstep.mem_allIds
      | tail _ hstep => exact hstep.mem_allIds
    have hstep := h.lists_congr hyMem (hw.mem_allIds hx) hwy.symm hyz
    exact ⟨z, hw.tail ⟨hstep, List.not_mem_nil⟩, rfl⟩

/-- A key of the tree of a root is another text than the root's that the root leads to. -/
theorem ToldApart.mem_keys_iff_leadsTo (h : ToldApart rows root) {t : String} :
    t ∈ keys (memberTree rows root) ↔ t ≠ idText root ∧ LeadsTo rows [] root t := by
  obtain ⟨trees, met', htree, hv⟩ := exists_visits_memberTree rows root
  have hroot : ∀ t ∈ keysOf trees, t ≠ idText root := fun t ht heq =>
    hv.not_mem_of_mem_keys (fun _ h => h) (fun c hc => (of_mem_unmet hc).2.2) ht
      (heq ▸ List.mem_cons_self)
  have hmet : t ∈ met' ↔ t ∈ [idText root] ∨
      ∃ c ∈ unmet [idText root] (memberIds rows root), LeadsTo rows [idText root] c.2 t :=
    hv.mem_met_iff_leads h fun c hc => (mem_memberIds_iff.mp (of_mem_unmet hc).2.1).mem_allIds
  rw [hv.mem_met_iff] at hmet
  rw [htree, keys_obj, h.leadsTo_iff root_mem_allIds]
  rw [List.mem_singleton] at hmet
  constructor
  · exact fun ht => ⟨hroot t ht, hmet.mp (.inr ht)⟩
  · exact fun ht => (hmet.mpr ht.2).resolve_left ht.1

/-- **A member tree holds the ids other than its root that can be reached from the root, and below
each id members of that id.** -/
theorem memberTree_holds_reachable (h : ToldApart rows root) :
    (∀ y ∈ allIds rows root, y.same root = false →
      (idText y ∈ keys (memberTree rows root) ↔ Reaches rows root y)) ∧
    (∀ t ∈ keys (memberTree rows root),
      ∃ y ∈ allIds rows root, y.same root = false ∧ idText y = t) ∧
    ∀ p t, (p, t) ∈ links (idText root) (memberTree rows root) →
      ∀ x ∈ allIds rows root, idText x = p → ∃ y, Lists rows x y ∧ idText y = t := by
  refine ⟨fun y hy hne => ?_, fun t ht => ?_, fun p t hlink x hx hxp => ?_⟩
  · have htext : idText y ≠ idText root := fun heq => by
      rw [(h y hy root root_mem_allIds).mpr heq] at hne
      cases hne
    rw [h.mem_keys_iff_leadsTo]
    constructor
    · rintro ⟨-, z, hz, hzy⟩
      have hsteps : Relation.ReflTransGen (Lists rows) root z :=
        Relation.ReflTransGen.mono (fun _ _ hstep => hstep.1) root z hz
      rcases Relation.reflTransGen_iff_eq_or_transGen.mp hsteps with rfl | hsteps
      · exact absurd hzy.symm htext
      · exact ⟨z, hsteps, (h z (hz.mem_allIds root_mem_allIds) y hy).mpr hzy⟩
    · rintro ⟨z, hz, hzy⟩
      have hzMem : z ∈ allIds rows root := by
        cases hz with
        | single hstep => exact hstep.mem_allIds
        | tail _ hstep => exact hstep.mem_allIds
      refine ⟨htext, ?_⟩
      rw [← (h z hzMem y hy).mp hzy]
      exact h.leadsTo_of_reaches root_mem_allIds hz
  · obtain ⟨hne, y, hy, rfl⟩ := h.mem_keys_iff_leadsTo.mp ht
    have hyMem : y ∈ allIds rows root := hy.mem_allIds root_mem_allIds
    refine ⟨y, hyMem, ?_, rfl⟩
    rw [← Bool.not_eq_true]
    exact fun hsame => hne ((h y hyMem root root_mem_allIds).mp hsame)
  · obtain ⟨trees, met', htree, hv⟩ := exists_visits_memberTree rows root
    rw [htree, links_obj] at hlink
    obtain ⟨x', hx', hxp', y, hy, hyt⟩ := hv.exists_lists root_mem_allIds
      (fun c hc => mem_memberIds_iff.mp (of_mem_unmet hc).2.1) hlink
    exact ⟨y, h.lists_congr hx' hx (hxp'.trans hxp.symm) hy, hyt⟩

/-- A row with an id and the ids of its members. -/
def team (id : Json) (members : List Json) : Json :=
  .obj [("id", id), ("members", .arr (members.map fun m => .obj [("id", m)]))]

/-- Teams that are members of each other, one that stands in two rows, and one that has no row. -/
def teams : List Json :=
  [team (.str "a") [.str "b", .str "c"], team (.str "b") [.int 7, .str "a"],
    team (.int 7) [.str "c"], team (.int 7) [.str "b"]]

/-- The tree of a team holds all others, the one without a row included. -/
theorem memberTree_holds_reachable_teams :
    ToldApart teams (.str "a") ∧
      Reaches teams (.str "a") (.int 7) ∧ Reaches teams (.str "a") (.str "c") ∧
      ∃ y, Lists teams (.int 7) y ∧ idText y = "c" := by
  have h : ToldApart teams (.str "a") := by
    unfold ToldApart
    decide +kernel
  obtain ⟨hreach, -, hlink⟩ := memberTree_holds_reachable h
  have hmem : Json.int 7 ∈ allIds teams (.str "a") ∧ Json.str "c" ∈ allIds teams (.str "a") := by
    simp [allIds, teams, team, Json.get?, Json.members?, Json.lookup?, listedIds]
  have htree : memberTree teams (.str "a") =
      .obj [("b", .obj [("7", .obj [("c", .obj [])])]), ("c", .obj [])] := by cbv
  rw [htree] at hreach hlink
  exact ⟨h, (hreach _ hmem.1 rfl).mp (by decide +kernel), (hreach _ hmem.2 rfl).mp (by decide),
    hlink "7" "c" (by decide) _ hmem.1 (by decide +kernel)⟩

end Runbook.Rows
