import Runbook.Sql.Condition
import Runbook.Proofs.Outcome

/-!
# Conditions as definitions

Every condition has a definition: a comparison is the list of its operands with the operator behind
it, a group the list of the definitions of its members with the operator and a mark behind it.
Definitions are untyped, and only which of the first values are lists tells the forms apart. No
condition is read under a form that is not its own (`Condition.ofValue_toValue`), however deep
groups are nested and however few operands and members they have: the operator, which every
definition has behind its first list, keeps it apart from a listing of definitions
(`Condition.not_all_isList_parts`), so a single member may stand without a list around it.
-/

namespace Runbook.Sql

theorem mapM_operandText (texts : List String) :
    (texts.map Value.str).mapM operandText = .ok texts := by
  rw [mapM_eq_ok_iff, List.forall₂_map_left_iff, List.forall₂_same]
  exact fun _ _ => rfl

namespace Condition

/-- Induction over a condition: what holds of all members of a group holds of the group. -/
@[elab_as_elim]
theorem memberInduction {motive : Condition → Prop}
    (compare : ∀ operands operator, motive (.compare operands operator))
    (group : ∀ conditions operator, (∀ c ∈ conditions, motive c) →
      motive (.group conditions operator)) (c : Condition) : motive c :=
  @Condition.rec motive (fun cs => ∀ c ∈ cs, motive c) compare group
    (fun _ h => absurd h List.not_mem_nil) (fun _ _ hc hcs => List.forall_mem_cons.mpr ⟨hc, hcs⟩) c

/-! ### Definitions -/

mutual

/-- The values of the list that defines a condition. -/
def parts : Condition → List Value
  | .compare operands operator => [.strings operands, .str operator]
  | .group conditions operator => [.list (memberDefinitions conditions), .str operator, .bool true]
termination_by structural c => c

/-- The definitions of the members of a group. -/
def memberDefinitions : List Condition → List Value
  | [] => []
  | c :: cs => .list c.parts :: memberDefinitions cs
termination_by structural cs => cs

end

/-- The definition of a condition. -/
def toValue (c : Condition) : Value := .list c.parts

theorem memberDefinitions_eq (cs : List Condition) : memberDefinitions cs = cs.map toValue := by
  induction cs with
  | nil => rfl
  | cons c cs ih => rw [memberDefinitions, ih, List.map_cons, toValue]

theorem all_isList_memberDefinitions (cs : List Condition) :
    (memberDefinitions cs).all isList = true := by
  rw [memberDefinitions_eq, List.all_map, List.all_eq_true]
  exact fun _ _ => rfl

/-- The operator of a definition is no list, so a definition is no listing of definitions. -/
theorem not_all_isList_parts (c : Condition) : ¬ c.parts.all isList = true := by
  cases c <;> simp [parts, isList]

/-! ### The forms -/

/-- A list of texts is a comparison, and its operator is the default. -/
theorem ofParts_operands (operands : List String) :
    ofParts (operands.map .str) = .ok (.compare operands defaultOperator) := by
  rw [ofParts, mapM_operandText]
  · rfl
  · intro items rest h
    cases operands with
    | nil => cases h
    | cons _ _ => cases h

/-- A list that holds a list of texts is a comparison, with the operator behind it if one is
given. -/
theorem ofParts_comparison {rest : List Value} {operator : String}
    (hoperator : operatorText rest[0]? = .ok operator)
    (hmark : (rest[1]?.map Value.isTruthy).getD false = false) (operands : List String) :
    ofParts (.strings operands :: rest) = .ok (.compare operands operator) := by
  rw [Value.strings, ofParts, hoperator, hmark, mapM_operandText]
  rfl

/-- With a mark behind it, a list of lists is read as the members of a group, and a list that holds
something else as the only member. -/
theorem ofParts_marked {mark : Value} (hmark : mark.isTruthy = true) (operands : List Value)
    (operator : String) :
    ofParts [.list operands, .str operator, mark] =
      if operands.all isList then (ofValues operands).map (.group · operator)
      else (ofParts operands).map fun c => .group [c] operator := by
  have hoperator : operatorText [.str operator, mark][0]? = .ok operator := rfl
  have hgiven : ([Value.str operator, mark][1]?.map Value.isTruthy).getD false = true := hmark
  rw [ofParts, hoperator, hgiven]
  show (if operands.all isList then _ else _) = _
  by_cases hlists : operands.all isList = true
  · rw [if_pos hlists, if_pos hlists]
    cases ofValues operands <;> rfl
  · rw [if_neg hlists, if_neg hlists]
    cases ofParts operands <;> rfl

/-! ### Reading definitions back -/

theorem ofValues_map_toValue {cs : List Condition} (h : ∀ c ∈ cs, ofParts c.parts = .ok c) :
    ofValues (cs.map toValue) = .ok cs := by
  induction cs with
  | nil => rw [List.map_nil, ofValues]
  | cons c cs ih =>
    have hc := h c List.mem_cons_self
    have hcs := ih fun d hd => h d (List.mem_cons_of_mem c hd)
    rw [List.map_cons, ofValues, toValue, ofValue, hc, hcs]
    rfl

theorem ofParts_parts (c : Condition) : ofParts c.parts = .ok c := by
  induction c using memberInduction with
  | compare operands operator => exact ofParts_comparison rfl rfl operands
  | group conditions operator ih =>
    rw [parts, ofParts_marked rfl, if_pos (all_isList_memberDefinitions conditions),
      memberDefinitions_eq, ofValues_map_toValue ih]
    rfl

theorem ofValue_toValue (c : Condition) : ofValue c.toValue = .ok c := by
  rw [toValue, ofValue, ofParts_parts]

/-- **Every condition is read back from its definition**, and every listing of conditions from that
of their definitions. A comparison by the default operator may leave it out, with or without a list
around its operands, and a group of one member may leave out the list around it. -/
theorem definitions_read :
    (∀ c : Condition, ofValue c.toValue = .ok c) ∧
    (∀ cs : List Condition, listing (.list (cs.map toValue)) = .ok cs) ∧
    (∀ operands : List String,
      ofValue (.strings operands) = .ok (.compare operands "=") ∧
        ofValue (.list [.strings operands]) = .ok (.compare operands "=")) ∧
    ∀ (c : Condition) (operator : String),
      ofValue (.list [c.toValue, .str operator, .bool true]) = .ok (.group [c] operator) ∧
        ofValue (.list [.list [c.toValue], .str operator, .bool true]) =
          .ok (.group [c] operator) := by
  refine ⟨ofValue_toValue, fun cs => ?_, fun operands => ⟨?_, ?_⟩, fun c operator => ⟨?_, ?_⟩⟩
  · exact ofValues_map_toValue fun c _ => ofParts_parts c
  · rw [Value.strings, ofValue]
    exact ofParts_operands operands
  · rw [ofValue]
    exact ofParts_comparison rfl rfl operands
  · rw [toValue, ofValue, ofParts_marked rfl, if_neg (not_all_isList_parts c), ofParts_parts]
    rfl
  · exact ofValue_toValue (.group [c] operator)

end Condition

end Runbook.Sql
