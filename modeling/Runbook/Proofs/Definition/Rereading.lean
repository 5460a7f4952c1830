import Runbook.Definition.Argument
import Runbook.Proofs.Json.Layout

/-!
# Values written and read again

The JSON form has no tags, and one form is used twice: the list of one string is also the
reference of that name. So a value that is written and read again comes back with each such list
replaced by a reference (`Value.reread`), from both of its texts and from the command line. It
comes back as it was if it holds no such list, and only then.
-/

namespace Runbook.Value

/-! ### Values and their items -/

/-- Induction over a value, with the hypothesis for every item of a list. -/
@[elab_as_elim]
theorem itemInduction {motive : Value → Prop} (nil : motive .nil)
    (bool : ∀ b, motive (.bool b)) (int : ∀ n, motive (.int n)) (str : ∀ s, motive (.str s))
    (ref : ∀ n, motive (.ref n)) (list : ∀ vs, (∀ v ∈ vs, motive v) → motive (.list vs))
    (v : Value) : motive v :=
  @Value.rec motive (fun vs => ∀ v ∈ vs, motive v) nil bool int str ref list
    (fun _ h => absurd h List.not_mem_nil) (fun _ _ hv hvs => List.forall_mem_cons.mpr ⟨hv, hvs⟩) v

mutual

/-- How many levels of arrays and objects the JSON form has; a reference is an object. -/
def levels : Value → Nat
  | .ref _ => 1
  | .list vs => levelsItems vs + 1
  | _ => 0
termination_by structural v => v

/-- The levels of the deepest item. -/
def levelsItems : List Value → Nat
  | [] => 0
  | v :: vs => max v.levels (levelsItems vs)
termination_by structural vs => vs

end

mutual

/-- The value with each list of a single string replaced by the reference of that name. -/
def reread : Value → Value
  | .list [.str s] => .ref s
  | .list vs => .list (rereadItems vs)
  | v => v
termination_by structural v => v

/-- `Value.reread` for the items of a list. -/
def rereadItems : List Value → List Value
  | [] => []
  | v :: vs => v.reread :: rereadItems vs
termination_by structural vs => vs

end

mutual

/-- Somewhere in the value is a list of a single string. -/
def holdsLoneString : Value → Bool
  | .list [.str _] => true
  | .list vs => anyHoldsLoneString vs
  | _ => false
termination_by structural v => v

/-- `Value.holdsLoneString` for some item of a list. -/
def anyHoldsLoneString : List Value → Bool
  | [] => false
  | v :: vs => v.holdsLoneString || anyHoldsLoneString vs
termination_by structural vs => vs

end

theorem levels_le_levelsItems {v : Value} {vs : List Value} (h : v ∈ vs) :
    v.levels ≤ levelsItems vs := by
  induction vs with
  | nil => simp at h
  | cons w vs ih =>
    rw [levelsItems]
    obtain rfl | h := List.mem_cons.mp h
    · exact Nat.le_max_left _ _
    · exact Nat.le_trans (ih h) (Nat.le_max_right _ _)

theorem toJsonItems_eq (vs : List Value) : toJsonItems vs = vs.map toJson := by
  induction vs with
  | nil => rfl
  | cons v vs ih => rw [toJsonItems, ih, List.map_cons]

theorem rereadItems_eq (vs : List Value) : rereadItems vs = vs.map reread := by
  induction vs with
  | nil => rfl
  | cons v vs ih => rw [rereadItems, ih, List.map_cons]

theorem anyHoldsLoneString_eq (vs : List Value) :
    anyHoldsLoneString vs = vs.any holdsLoneString := by
  induction vs with
  | nil => rfl
  | cons v vs ih => rw [anyHoldsLoneString, ih, List.any_cons]

/-- The list of a single string. -/
def IsLoneString (vs : List Value) : Prop := ∃ s, vs = [.str s]

theorem reread_list {vs : List Value} (h : ¬ IsLoneString vs) :
    (Value.list vs).reread = .list (vs.map reread) := by
  rw [reread, rereadItems_eq]
  rintro s rfl
  exact h ⟨s, rfl⟩

theorem holdsLoneString_list {vs : List Value} (h : ¬ IsLoneString vs) :
    (Value.list vs).holdsLoneString = vs.any holdsLoneString := by
  rw [holdsLoneString, anyHoldsLoneString_eq]
  rintro s rfl
  exact h ⟨s, rfl⟩

/-! ### Writing and reading -/

theorem isWord_toInt (n : Int64) : Json.IsWord n.toInt := by
  have hlow := n.le_toInt
  have hhigh := n.toInt_lt
  constructor <;> omega

theorem word?_toInt (n : Int64) : word? n.toInt = some n := by
  have hlow := n.le_toInt
  have hhigh := n.toInt_lt
  rw [word?, if_pos ⟨by omega, by omega⟩, Int64.ofInt_toInt]

/-- The JSON form of a value fits into a text that may have as many levels. -/
theorem fits_toJson (v : Value) {d : Nat} (h : v.levels ≤ d) : Json.Fits d v.toJson := by
  induction v using itemInduction generalizing d with
  | nil => exact .null
  | bool b => exact .bool b
  | int n => exact .int (isWord_toInt n)
  | str s => exact .str s
  | ref n =>
    obtain ⟨d, rfl⟩ : ∃ m, d = m + 1 := ⟨d - 1, by rw [levels] at h; omega⟩
    exact .obj (List.forall_mem_singleton.mpr (.str n))
  | list vs ih =>
    rw [levels] at h
    obtain ⟨d, rfl⟩ : ∃ m, d = m + 1 := ⟨d - 1, by omega⟩
    rw [toJson, toJsonItems_eq]
    refine .arr (List.forall_mem_map.mpr fun v hv => ih v hv ?_)
    have hv := levels_le_levelsItems hv
    omega

theorem ofJsonItems?_map {vs : List Value} (h : ∀ v ∈ vs, ofJson? v.toJson = some v.reread) :
    ofJsonItems? (vs.map toJson) = some (vs.map reread) := by
  induction vs with
  | nil => rfl
  | cons v vs ih =>
    rw [List.map_cons, ofJsonItems?, h v List.mem_cons_self,
      ih fun w hw => h w (List.mem_cons_of_mem v hw)]
    rfl

theorem eq_str_of_toJson_eq {v : Value} {s : String} (h : v.toJson = .str s) : v = .str s := by
  cases v with
  | str t => rw [toJson, Json.str.injEq] at h; rw [h]
  | nil | bool | int | ref | list => simp [toJson] at h

/-- What the JSON form of a value is read as. -/
theorem ofJson?_toJson (v : Value) : ofJson? v.toJson = some v.reread := by
  induction v using itemInduction with
  | nil => rfl
  | bool b => rfl
  | int n => rw [toJson, ofJson?, word?_toInt]; rfl
  | str s => rfl
  | ref n => rfl
  | list vs ih =>
    by_cases hlone : IsLoneString vs
    · obtain ⟨s, rfl⟩ := hlone
      rfl
    · rw [toJson, toJsonItems_eq, ofJson?, ofJsonItems?_map ih, reread_list hlone]
      · rfl
      · -- only a string is written as one, so the items are no single string
        intro s hitems
        obtain ⟨v, hv, hs⟩ := List.map_eq_singleton_iff.mp hitems
        exact hlone ⟨s, by rw [hv, eq_str_of_toJson_eq hs]⟩

/-- Only values that hold a list of a single string change. -/
theorem reread_eq_iff (v : Value) : v.reread = v ↔ v.holdsLoneString = false := by
  induction v using itemInduction with
  | nil | bool | int | str | ref => simp [reread, holdsLoneString]
  | list vs ih =>
    by_cases hlone : IsLoneString vs
    · obtain ⟨s, rfl⟩ := hlone
      simp [reread, holdsLoneString]
    · rw [reread_list hlone, holdsLoneString_list hlone, list.injEq, List.any_eq_false]
      constructor
      · intro hmap v hv
        have hsame : vs.map reread = vs.map id := by rw [hmap, List.map_id]
        simpa using (ih v hv).mp (List.map_inj_left.mp hsame v hv)
      · intro hall
        exact (List.map_congr_left fun v hv => (ih v hv).mpr (by simpa using hall v hv)).trans
          (List.map_id vs)

/-! ### Texts -/

/-- An argument that starts with a bracket is read as JSON. -/
theorem ofArgument_bracket {arg : String} {cs : List Char} (h : arg.toList = '[' :: cs) :
    ofArgument arg = ((Json.parse? arg).bind ofJson?).getD (.str arg) := by
  have hne {word : String} (hword : word.toList.head? ≠ some '[') : arg ≠ word := by
    rintro rfl
    rw [h] at hword
    exact hword rfl
  rw [ofArgument, if_neg (hne (by decide)), if_neg (hne (by decide)), if_neg (hne (by decide)), h]
  rfl

theorem bracket_compact (vs : List Value) :
    ∃ cs, (Value.list vs).toJson.compact.toList = '[' :: cs := by
  cases vs with
  | nil => exact ⟨[']'], rfl⟩
  | cons v vs => exact ⟨_, String.toList_ofList⟩

theorem bracket_pretty (vs : List Value) :
    ∃ cs, (Value.list vs).toJson.pretty.toList = '[' :: cs := by
  cases vs with
  | nil => exact ⟨[']'], rfl⟩
  | cons v vs => exact ⟨_, String.toList_ofList⟩

/-- **What a value is read as, written on one line or over several.** A list is also read so from
the command line. The value comes back as it was exactly if no list in it is a single string. -/
theorem read_written {v : Value} (h : v.levels ≤ Json.depthMax) :
    (∀ text ∈ [v.toJson.compact, v.toJson.pretty],
      (Json.parse? text).bind ofJson? = some v.reread ∧
      ∀ vs, v = .list vs → ofArgument text = v.reread) ∧
    (v.reread = v ↔ v.holdsLoneString = false) := by
  refine ⟨?_, reread_eq_iff v⟩
  have hfits := fits_toJson v h
  have hcompact : (Json.parse? v.toJson.compact).bind ofJson? = some v.reread := by
    rw [Json.parse?_compact hfits, Option.bind_some, ofJson?_toJson]
  have hpretty : (Json.parse? v.toJson.pretty).bind ofJson? = some v.reread := by
    rw [Json.parse?_pretty hfits, Option.bind_some, ofJson?_toJson]
  refine List.forall_mem_cons.mpr ⟨⟨hcompact, ?_⟩, List.forall_mem_singleton.mpr ⟨hpretty, ?_⟩⟩
  · rintro vs rfl
    obtain ⟨cs, hcs⟩ := bracket_compact vs
    rw [ofArgument_bracket hcs, hcompact, Option.getD_some]
  · rintro vs rfl
    obtain ⟨cs, hcs⟩ := bracket_pretty vs
    rw [ofArgument_bracket hcs, hpretty, Option.getD_some]

/-- Two lists side by side, a reference and a text full of marks. -/
def sampleValue : Value :=
  .list [.list [.str "a\"\\\n\x01", .nil], .ref "db", .int (-5), .list [],
    .list [.list [.bool true]], .list [.str "x", .str "y"]]

/-- The sample comes back as it was. -/
theorem read_written_sample :
    sampleValue.levels ≤ Json.depthMax ∧
      (Json.parse? sampleValue.toJson.compact).bind ofJson? = some sampleValue ∧
      (Json.parse? sampleValue.toJson.pretty).bind ofJson? = some sampleValue ∧
      ofArgument sampleValue.toJson.compact = sampleValue := by
  have hlevels : sampleValue.levels ≤ Json.depthMax := by decide
  obtain ⟨hread, hsame⟩ := read_written hlevels
  have hsample : sampleValue.reread = sampleValue := hsame.mpr (by decide)
  obtain ⟨hcompact, hlist⟩ := hread _ List.mem_cons_self
  obtain ⟨hpretty, -⟩ := hread sampleValue.toJson.pretty (by simp)
  rw [hsample] at hcompact hpretty hlist
  exact ⟨hlevels, hcompact, hpretty, hlist _ rfl⟩

/-- The list of a single string comes back as a reference, also from the command line. -/
theorem lone_string_read_as_reference :
    (Value.list [.str "x"]).levels ≤ Json.depthMax ∧
      (Json.parse? (Value.list [.str "x"]).toJson.compact).bind ofJson? = some (.ref "x") ∧
      ofArgument (Value.list [.str "x"]).toJson.compact = .ref "x" ∧
      Value.ref "x" ≠ .list [.str "x"] := by
  have hlevels : (Value.list [.str "x"]).levels ≤ Json.depthMax := by decide
  have hread : (Json.parse? (Value.list [.str "x"]).toJson.compact).bind ofJson? =
      some (.ref "x") := by
    rw [Json.parse?_compact (fits_toJson _ hlevels), Option.bind_some, ofJson?_toJson]
    rfl
  obtain ⟨cs, hcs⟩ := bracket_compact [.str "x"]
  refine ⟨hlevels, hread, ?_, by decide⟩
  rw [ofArgument_bracket hcs, hread, Option.getD_some]

end Runbook.Value
