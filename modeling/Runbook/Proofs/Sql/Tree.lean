import Runbook.Proofs.Sql.Conjunction

/-!
# The tree of a rendered condition

A text is cut at the blanks that stand outside of all parentheses. The pieces of a rendered
condition are its operands, or its members in parentheses, with the operator between each two of
them (`Condition.pieces`), so the tree can be read out of the text again (`Condition.read`): every
other piece is an operand or a member, and a parenthesis at its beginning tells which. What is lost
is the operator of one operand or of one member, which is not printed (`Condition.erased`).

The argument needs that no piece is cut apart. `Whole` says so of a text at some depth: parentheses
around a text that is whole one level deeper make a whole text, and below the top level a blank is
whole too, so rendered conditions are whole there.
-/

namespace Runbook.Sql

/-! ### Cutting a text -/

/-- The depth behind a character. -/
def depthAfter (depth : Nat) (c : Char) : Nat :=
  if c = '(' then depth + 1 else if c = ')' then depth - 1 else depth

/-- The pieces between the blanks outside of parentheses. -/
def cut (depth : Nat) (piece : List Char) : List Char → List (List Char)
  | [] => [piece]
  | c :: cs =>
    if c = ' ' ∧ depth = 0 then piece :: cut 0 [] cs
    else cut (depthAfter depth c) (piece ++ [c]) cs

/-- From this depth on, the text is not cut and leads back to the depth. -/
def Whole (depth : Nat) (cs : List Char) : Prop :=
  ∀ piece rest, cut depth piece (cs ++ rest) = cut depth (piece ++ cs) rest

variable {depth : Nat}

theorem whole_nil : Whole depth [] := fun piece rest => by rw [List.nil_append, List.append_nil]

theorem Whole.append {cs ds : List Char} (hcs : Whole depth cs) (hds : Whole depth ds) :
    Whole depth (cs ++ ds) := fun piece rest => by
  rw [List.append_assoc, hcs, hds, List.append_assoc]

/-- A character that neither cuts nor changes the depth. -/
theorem whole_singleton {c : Char} (hcut : ¬ (c = ' ' ∧ depth = 0)) (hopen : c ≠ '(')
    (hclose : c ≠ ')') : Whole depth [c] := fun piece rest => by
  rw [List.singleton_append, cut, if_neg hcut, depthAfter, if_neg hopen, if_neg hclose]

/-- Free of blanks and parentheses. -/
def IsPlain (cs : List Char) : Prop := ∀ c ∈ cs, c ≠ ' ' ∧ c ≠ '(' ∧ c ≠ ')'

instance : DecidablePred IsPlain := fun cs => List.decidableBAll _ cs

theorem IsPlain.whole {cs : List Char} (h : IsPlain cs) : Whole depth cs := by
  induction cs with
  | nil => exact whole_nil
  | cons c cs ih =>
    obtain ⟨hblank, hopen, hclose⟩ := h c List.mem_cons_self
    exact (whole_singleton (fun hcut => hblank hcut.1) hopen hclose).append
      (ih fun d hd => h d (List.mem_cons_of_mem c hd))

/-- The text in parentheses. -/
def enclosed (cs : List Char) : List Char := '(' :: (cs ++ [')'])

theorem Whole.enclosed {cs : List Char} (h : Whole (depth + 1) cs) : Whole depth (enclosed cs) := by
  intro piece rest
  have hopen : cut depth piece ('(' :: (cs ++ ')' :: rest)) =
      cut (depth + 1) (piece ++ ['(']) (cs ++ ')' :: rest) := by
    rw [cut, if_neg (by simp), depthAfter, if_pos rfl]
  have hclose (front : List Char) : cut (depth + 1) front (')' :: rest) =
      cut depth (front ++ [')']) rest := by
    rw [cut, if_neg (by simp), depthAfter, if_neg (by decide), if_pos rfl, Nat.add_sub_cancel]
  have htext : Sql.enclosed cs ++ rest = '(' :: (cs ++ ')' :: rest) := by simp [Sql.enclosed]
  rw [htext, hopen, h, hclose]
  simp [Sql.enclosed]

/-- Below the top level, blanks do not cut. -/
theorem Whole.intercalate {parts : List (List Char)} (h : ∀ p ∈ parts, Whole (depth + 1) p) :
    Whole (depth + 1) ([' '].intercalate parts) := by
  induction parts with
  | nil => exact whole_nil
  | cons p parts ih =>
    have hp := h p List.mem_cons_self
    have hblank : Whole (depth + 1) [' '] := whole_singleton (by simp) (by decide) (by decide)
    cases parts with
    | nil => simpa using hp
    | cons q parts =>
      rw [List.intercalate_cons_cons]
      exact (hp.append hblank).append (ih fun r hr => h r (List.mem_cons_of_mem p hr))

/-- At the top level, the blanks between whole pieces cut. -/
theorem cut_intercalate {parts : List (List Char)} (hne : parts ≠ [])
    (h : ∀ p ∈ parts, Whole 0 p) : cut 0 [] ([' '].intercalate parts) = parts := by
  induction parts with
  | nil => exact absurd rfl hne
  | cons p parts ih =>
    have hp := h p List.mem_cons_self
    cases parts with
    | nil => simpa [cut] using hp [] []
    | cons q parts =>
      have hblank (cs : List Char) : cut 0 p (' ' :: cs) = p :: cut 0 [] cs := by
        rw [cut, if_pos ⟨rfl, rfl⟩]
      rw [List.intercalate_cons_cons, List.append_assoc, hp, List.nil_append,
        List.singleton_append, hblank,
        ih (List.cons_ne_nil _ _) fun r hr => h r (List.mem_cons_of_mem p hr)]

/-! ### Joined items -/

theorem length_le_intercalate {sep p : List Char} {parts : List (List Char)} (h : p ∈ parts) :
    p.length ≤ (sep.intercalate parts).length := by
  induction parts with
  | nil => cases h
  | cons q parts ih =>
    cases parts with
    | nil => simp [List.mem_singleton.mp h]
    | cons r parts =>
      rw [List.intercalate_cons_cons, List.length_append, List.length_append]
      rcases List.mem_cons.mp h with rfl | hrest
      · omega
      · have hle := ih hrest
        omega

/-- The items at even places. -/
def everyOther {α : Type} : List α → List α
  | a :: _ :: rest => a :: everyOther rest
  | as => as

theorem everyOther_intersperse {α : Type} (s : α) (xs : List α) :
    everyOther (xs.intersperse s) = xs := by
  induction xs with
  | nil => rfl
  | cons x xs ih =>
    cases xs with
    | nil => rfl
    | cons y ys => rw [List.intersperse_cons_cons, everyOther, ih]

theorem mem_intersperse {α : Type} {s x : α} {xs : List α} (h : x ∈ xs.intersperse s) :
    x ∈ xs ∨ x = s := by
  obtain ⟨i, hi⟩ := List.mem_iff_getElem?.mp h
  rw [List.getElem?_intersperse] at hi
  split at hi
  · exact .inl (List.mem_of_getElem? hi)
  · split at hi
    · exact .inr (Option.some.inj hi).symm
    · cases hi

/-- The operator between items may be joined like an item. -/
theorem intercalate_intersperse (sep operator : List Char) (items : List (List Char)) :
    (sep ++ operator ++ sep).intercalate items = sep.intercalate (items.intersperse operator) := by
  induction items with
  | nil => rfl
  | cons x xs ih =>
    cases xs with
    | nil => rfl
    | cons y ys =>
      have hne : (y :: ys).intersperse operator ≠ [] := by cases ys <;> simp
      rw [List.intercalate_cons_cons, ih, List.intersperse_cons_cons, List.intercalate_cons_cons,
        List.intercalate_cons_of_ne_nil hne]
      simp only [List.append_assoc]

/-! ### Trees -/

/-- The operator, if it stands between any two items. -/
def printed {α : Type} (items : List α) (operator : String) : String :=
  if items.length ≤ 1 then "" else operator

theorem printed_map {α β : Type} (f : α → β) (items : List α) (operator : String) :
    printed (items.map f) operator = printed items operator := by
  rw [printed, printed, List.length_map]

theorem intercalate_printed (items : List String) (operator : String) :
    (" " ++ printed items operator ++ " ").intercalate items =
      (" " ++ operator ++ " ").intercalate items := by
  rw [printed]
  by_cases hone : items.length ≤ 1
  · obtain _ | ⟨a, _ | ⟨b, rest⟩⟩ := items
    · rfl
    · rfl
    · simp at hone
  · rw [if_neg hone]

namespace Condition

/-- Conditions that can be read back: no comparison is without operands, no group without members,
and blanks and parentheses stand in no operand and in no operator. -/
inductive Printable : Condition → Prop where
  /-- A comparison. -/
  | compare {operands : List String} {operator : String} : operands ≠ [] →
      (∀ a ∈ operands, IsPlain a.toList) → IsPlain operator.toList →
      Printable (.compare operands operator)
  /-- A group. -/
  | group {conditions : List Condition} {operator : String} : conditions ≠ [] →
      IsPlain operator.toList → (∀ c ∈ conditions, Printable c) →
      Printable (.group conditions operator)

mutual

/-- The condition without the operators that are not printed. -/
def erased : Condition → Condition
  | .compare operands operator => .compare operands (printed operands operator)
  | .group conditions operator => .group (erasedMembers conditions) (printed conditions operator)
termination_by structural c => c

/-- The members of a group without the operators that are not printed. -/
def erasedMembers : List Condition → List Condition
  | [] => []
  | c :: cs => c.erased :: erasedMembers cs
termination_by structural cs => cs

end

theorem erasedMembers_eq (cs : List Condition) : erasedMembers cs = cs.map erased := by
  induction cs with
  | nil => rfl
  | cons c cs ih => rw [erasedMembers, ih, List.map_cons]

/-- The operands, or the members in parentheses. -/
def items : Condition → List (List Char)
  | .compare operands _ => operands.map String.toList
  | .group conditions _ => conditions.map fun c => enclosed c.render.toList

/-- The operator at the top. -/
def operator : Condition → String
  | .compare _ operator | .group _ operator => operator

/-- The items with the operator between each two of them. -/
def pieces (c : Condition) : List (List Char) := c.items.intersperse c.operator.toList

theorem toList_render_items (c : Condition) :
    c.render.toList = (' ' :: (c.operator.toList ++ [' '])).intercalate c.items := by
  cases c with
  | compare operands operator => simp [render, items, Condition.operator, String.toList_intercalate]
  | group conditions operator =>
    simp [render, renderMembers_eq, items, Condition.operator, String.toList_intercalate, enclosed,
      Function.comp_def]

theorem toList_render (c : Condition) : c.render.toList = [' '].intercalate c.pieces := by
  rw [toList_render_items, pieces, ← intercalate_intersperse]
  rfl

/-- Reads a condition back, no deeper than the fuel. -/
def readWithin : (fuel : Nat) → List Char → Condition
  | 0, _ => .compare [] ""
  | fuel + 1, cs =>
    let pieces := cut 0 [] cs
    let items := everyOther pieces
    let operator := String.ofList (pieces[1]?.getD [])
    if items.all (·.head? = some '(') then
      .group (items.map fun item => readWithin fuel item.tail.dropLast) operator
    else .compare (items.map String.ofList) operator

/-- Reads a condition back. -/
def read (text : String) : Condition := readWithin (text.toList.length + 1) text.toList

variable {c : Condition}

theorem Printable.whole_pieces (h : c.Printable) :
    ∀ (depth : Nat), ∀ p ∈ c.pieces, Whole depth p := by
  induction h with
  | @compare operands operator hne hoperands hoperator =>
    intro depth p hp
    obtain hitem | rfl := mem_intersperse hp
    · obtain ⟨a, ha, rfl⟩ := List.mem_map.mp hitem
      exact (hoperands a ha).whole
    · exact hoperator.whole
  | @group conditions operator hne hoperator _ ih =>
    intro depth p hp
    obtain hitem | rfl := mem_intersperse hp
    · obtain ⟨c, hc, rfl⟩ := List.mem_map.mp hitem
      refine Whole.enclosed ?_
      rw [toList_render]
      exact Whole.intercalate (ih c hc (depth + 1))
    · exact hoperator.whole

theorem Printable.items_ne_nil (h : c.Printable) : c.items ≠ [] := by
  cases h with
  | compare hne | group hne => simpa [items] using hne

theorem everyOther_pieces (c : Condition) : everyOther c.pieces = c.items :=
  everyOther_intersperse ..

theorem Printable.cut_render (h : c.Printable) : cut 0 [] c.render.toList = c.pieces := by
  rw [toList_render]
  refine cut_intercalate (fun hnil => h.items_ne_nil ?_) (h.whole_pieces 0)
  rw [← everyOther_pieces, hnil]
  rfl

theorem operator_pieces (c : Condition) :
    String.ofList (c.pieces[1]?.getD []) = printed c.items c.operator := by
  have hlength : 1 < 2 * c.items.length - 1 ↔ ¬ c.items.length ≤ 1 := by omega
  rw [pieces, List.getElem?_intersperse, if_neg (by decide), printed]
  by_cases hone : c.items.length ≤ 1
  · rw [if_neg (by omega), if_pos hone]
    rfl
  · rw [if_pos (by omega), if_neg hone]
    exact String.ofList_toList

theorem length_item_lt {item : List Char} (h : enclosed item ∈ c.items) :
    item.length < c.render.toList.length := by
  have hle : (enclosed item).length ≤ c.render.toList.length := by
    rw [toList_render_items]
    exact length_le_intercalate h
  rw [enclosed, List.length_cons, List.length_append] at hle
  omega

theorem Printable.readWithin_succ (h : c.Printable) (fuel : Nat) :
    readWithin (fuel + 1) c.render.toList =
      if c.items.all (·.head? = some '(') then
        .group (c.items.map fun item => readWithin fuel item.tail.dropLast)
          (printed c.items c.operator)
      else .compare (c.items.map String.ofList) (printed c.items c.operator) := by
  simp only [readWithin, h.cut_render, everyOther_pieces, operator_pieces]

theorem Printable.readWithin_render (h : c.Printable) {fuel : Nat}
    (hfuel : c.render.toList.length < fuel) : readWithin fuel c.render.toList = c.erased := by
  induction h generalizing fuel with
  | @compare operands operator hne hoperands hoperator =>
    have hprintable : (Condition.compare operands operator).Printable :=
      .compare hne hoperands hoperator
    obtain ⟨fuel, rfl⟩ : ∃ n, fuel = n + 1 := ⟨fuel - 1, by omega⟩
    obtain ⟨a, ha⟩ := List.exists_mem_of_ne_nil operands hne
    have hword : ¬ (items (.compare operands operator)).all (·.head? = some '(') = true := by
      intro hall
      have hhead := List.all_eq_true.mp hall a.toList (List.mem_map_of_mem ha)
      exact (hoperands a ha '(' (List.mem_of_head? (of_decide_eq_true hhead))).2.1 rfl
    rw [hprintable.readWithin_succ, if_neg hword]
    simp [items, Condition.operator, erased, printed, Function.comp_def]
  | @group conditions operator hne hoperator hmembers ih =>
    have hprintable : (Condition.group conditions operator).Printable :=
      .group hne hoperator hmembers
    obtain ⟨fuel, rfl⟩ : ∃ n, fuel = n + 1 := ⟨fuel - 1, by omega⟩
    have hmember : ∀ c ∈ conditions,
        readWithin fuel (enclosed c.render.toList).tail.dropLast = c.erased := by
      intro c hc
      have hlt : c.render.toList.length <
          (Condition.group conditions operator).render.toList.length :=
        length_item_lt (List.mem_map_of_mem hc)
      rw [enclosed, List.tail_cons, List.dropLast_concat]
      exact ih c hc (by omega)
    have hgroup : (items (.group conditions operator)).all (·.head? = some '(') = true := by
      simp [items, enclosed]
    rw [hprintable.readWithin_succ, if_pos hgroup, erased, erasedMembers_eq, items, List.map_map,
      printed_map]
    exact congrArg (Condition.group · (printed conditions operator)) (List.map_congr_left hmember)

/-- What is not printed makes no difference. -/
theorem Printable.render_erased (h : c.Printable) : c.erased.render = c.render := by
  induction h with
  | @compare operands operator => exact intercalate_printed operands operator
  | @group conditions operator _ _ _ ih =>
    have hmembers : renderMembers (conditions.map erased) = renderMembers conditions := by
      rw [renderMembers_eq, renderMembers_eq, List.map_map]
      exact List.map_congr_left fun c hc => by rw [Function.comp_apply, ih c hc]
    have hprinted : printed conditions operator = printed (renderMembers conditions) operator := by
      rw [renderMembers_eq, printed_map]
    rw [erased, erasedMembers_eq, render, hmembers, hprinted, intercalate_printed, render]

/-- **A rendered condition determines its tree**, but for the operators that are not printed: the
tree is read back from the text, and the same text comes from the same tree. -/
theorem render_determines {c d : Condition} (hc : c.Printable) (hd : d.Printable) :
    read c.render = c.erased ∧ (c.render = d.render ↔ c.erased = d.erased) := by
  have hread {c : Condition} (h : c.Printable) : read c.render = c.erased :=
    h.readWithin_render (Nat.lt_succ_self _)
  refine ⟨hread hc, fun h => ?_, fun h => ?_⟩
  · rw [← hread hc, h, hread hd]
  · rw [← hc.render_erased, h, hd.render_erased]

/-- Nested groups, and a comparison of one operand whose operator is not printed. -/
def nested (operator : String) : Condition :=
  .group [.group [.compare ["A", "B"] "<", .compare ["C", "D"] "<>"] "OR",
    .compare ["E"] operator] "AND"

theorem printable_nested {operator : String} (h : IsPlain operator.toList) :
    (nested operator).Printable := by
  refine .group (by simp) (by decide) fun c hc => ?_
  simp only [List.mem_cons, List.not_mem_nil, or_false] at hc
  obtain rfl | rfl := hc
  · refine .group (by simp) (by decide) fun c hc => ?_
    simp only [List.mem_cons, List.not_mem_nil, or_false] at hc
    obtain rfl | rfl := hc
    · exact .compare (by simp) (by decide) (by decide)
    · exact .compare (by simp) (by decide) (by decide)
  · exact .compare (by simp) (by decide) h

theorem render_determines_nested :
    (nested "=").Printable ∧ (nested "IS").Printable ∧
    read (nested "=").render = (nested "=").erased ∧
    ((nested "=").render = (nested "IS").render ↔
      (nested "=").erased = (nested "IS").erased) := by
  have heq : (nested "=").Printable := printable_nested (by decide)
  have his : (nested "IS").Printable := printable_nested (by decide)
  exact ⟨heq, his, render_determines heq his⟩

end Condition

end Runbook.Sql
