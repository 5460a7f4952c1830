import Runbook.Command.Steps
import Runbook.Proofs.Json.Layout
import Runbook.Proofs.Json.Skipping
import Runbook.Proofs.Outcome

/-!
# Batches written and read again

A command is read from two shapes of JSON values: from an object in which its call and its arguments
stand once, and from the list of the two. `Command.Holds` is what a value says of a command, and the
reader reads just that (`Command.ofJson?_eq_some_iff`). A batch is read from a list of such values,
each in either shape (`Batch.read?_eq_some_iff`). What an object holds besides call and arguments is
passed over, and it does not matter what it is (`Command.holds_only_iff`).

What is written of a command is an object, also of one that was read from a list. So the text of a
batch writes that batch and no other, whichever steps it came from (`Batch.read_written_made`).
-/

namespace Runbook

theorem Json.text?_eq_some_iff {j : Json} {s : String} : j.text? = some s ↔ j = .str s := by
  cases j <;> simp [Json.text?]

/-- Strings are read one by one. -/
theorem Json.mapM_text?_eq_some_iff {items : List Json} {texts : List String} :
    items.mapM Json.text? = some texts ↔ items = texts.map .str := by
  simp only [mapM_eq_some_iff, text?_eq_some_iff]
  rw [← List.forall₂_map_right_iff (R := Eq), List.forall₂_eq_eq_eq]

namespace Command

/-- The object has one member of the name, with the value. -/
def HasOnly (members : List (String × Json)) (name : String) (value : Json) : Prop :=
  members.filter (·.1 == name) = [(name, value)]

theorem onlyMember?_eq_some_iff {members : List (String × Json)} {name : String} {value : Json} :
    onlyMember? name members = some value ↔ HasOnly members name value := by
  unfold onlyMember? HasOnly
  constructor
  · intro h
    split at h
    case h_1 m hm =>
      have hmem : m ∈ members.filter (·.1 == name) := hm ▸ List.mem_singleton_self m
      have hname : m.1 = name := by simpa using (List.mem_filter.mp hmem).2
      rw [hm, ← hname, ← Option.some.inj h]
    case h_2 => cases h
  · intro h
    rw [h]

/-- The value says what the command is. -/
inductive Holds : Json → Command → Prop where
  /-- By an object: call and arguments have one member each, and other members do not count. -/
  | object {members : List (String × Json)} {c : Command} :
      HasOnly members "call" (.str c.call) → HasOnly members "args" (.arr (c.args.map .str)) →
      Holds (.obj members) c
  /-- By the list of call and arguments. -/
  | list (c : Command) : Holds (.arr [.str c.call, .arr (c.args.map .str)]) c

theorem ofJson?_obj_eq_some_iff {members : List (String × Json)} {c : Command} :
    ofJson? (.obj members) = some c ↔
      HasOnly members "call" (.str c.call) ∧ HasOnly members "args" (.arr (c.args.map .str)) := by
  simp only [ofJson?, Option.bind_eq_bind, Option.bind_eq_some_iff, onlyMember?_eq_some_iff,
    Json.text?_eq_some_iff]
  constructor
  · rintro ⟨call, hcall, text, rfl, value, hargs, h⟩
    split at h
    case h_1 items =>
      obtain ⟨args, hitems, hc⟩ := Option.bind_eq_some_iff.mp h
      obtain rfl := Json.mapM_text?_eq_some_iff.mp hitems
      obtain rfl := Option.some.inj hc
      exact ⟨hcall, hargs⟩
    case h_2 => cases h
  · rintro ⟨hcall, hargs⟩
    refine ⟨_, hcall, c.call, rfl, _, hargs, ?_⟩
    dsimp only
    rw [Json.mapM_text?_eq_some_iff.mpr rfl]
    rfl

/-- A command is read from what says it, and from nothing else. -/
theorem ofJson?_eq_some_iff {j : Json} {c : Command} : ofJson? j = some c ↔ Holds j c := by
  constructor
  · intro h
    cases j with
    | obj members =>
      obtain ⟨hcall, hargs⟩ := ofJson?_obj_eq_some_iff.mp h
      exact .object hcall hargs
    | arr items =>
      unfold ofJson? at h
      split at h
      case h_1 heq => cases heq
      case h_2 call args heq =>
        obtain ⟨texts, htexts, hc⟩ := Option.bind_eq_some_iff.mp h
        obtain rfl := Json.mapM_text?_eq_some_iff.mp htexts
        obtain rfl := Option.some.inj hc
        rw [heq]
        exact .list ⟨call, texts⟩
      case h_3 => cases h
    | null | bool | int | float | str => cases h
  · intro h
    cases h with
    | object hcall hargs => exact ofJson?_obj_eq_some_iff.mpr ⟨hcall, hargs⟩
    | list =>
      rw [ofJson?, Json.mapM_text?_eq_some_iff.mpr rfl]
      rfl

theorem hasOnly_filter_iff {members : List (String × Json)} {name : String} {value : Json}
    (h : name ∈ fields) :
    HasOnly (members.filter (·.1 ∈ fields)) name value ↔ HasOnly members name value := by
  have hfilter : (members.filter (·.1 ∈ fields)).filter (·.1 == name) =
      members.filter (·.1 == name) := by
    rw [List.filter_filter]
    refine List.filter_congr fun m _ => ?_
    by_cases hm : m.1 = name
    · simp [hm, h]
    · simp [hm]
  rw [HasOnly, HasOnly, hfilter]

/-- What other members there are makes no difference. -/
theorem holds_only_iff {j : Json} {c : Command} : Holds (j.only fields) c ↔ Holds j c := by
  cases j with
  | obj members =>
    rw [← ofJson?_eq_some_iff, ← ofJson?_eq_some_iff, Json.only, ofJson?_obj_eq_some_iff,
      ofJson?_obj_eq_some_iff, hasOnly_filter_iff (by decide), hasOnly_filter_iff (by decide)]
  | null | bool | int | float | str | arr => rfl

theorem holds_toJson (c : Command) : Holds c.toJson c := .object rfl rfl

/-- A command is an object of a string and a list of strings. -/
theorem fits_toJson (c : Command) (d : Nat) : Json.Fits (d + 2) c.toJson := by
  have hargs : Json.Fits (d + 1) (.arr (c.args.map .str)) :=
    .arr (List.forall_mem_map.mpr fun a _ => .str a)
  exact .obj (List.forall_mem_cons.mpr ⟨.str c.call, List.forall_mem_singleton.mpr hargs⟩)

end Command

namespace Batch

/-- The text writes the commands of the batch in their order, each in one of the two shapes. -/
def Writes (text : String) (b : Batch) : Prop :=
  ∃ items, Json.recordList? Command.fields text = some (.arr items) ∧
    List.Forall₂ Command.Holds items b

/-- A batch is read from the texts that write it, and from no others. -/
theorem read?_eq_some_iff {text : String} {b : Batch} : read? text = some b ↔ Writes text b := by
  rw [read?, Option.bind_eq_some_iff]
  constructor
  · rintro ⟨j, hj, h⟩
    cases j with
    | arr items =>
      rw [ofJson?, mapM_eq_some_iff] at h
      simp only [Command.ofJson?_eq_some_iff] at h
      exact ⟨items, hj, h⟩
    | null | bool | int | float | str | obj => cases h
  · rintro ⟨items, hitems, h⟩
    refine ⟨_, hitems, ?_⟩
    rw [ofJson?, mapM_eq_some_iff]
    simpa only [Command.ofJson?_eq_some_iff] using h

/-- A list of values that say the commands writes the batch. -/
theorem writes_of_parse? {text : String} {items : List Json} {b : Batch}
    (htext : Json.parse? text = some (.arr items)) (h : List.Forall₂ Command.Holds items b) :
    Writes text b := by
  refine ⟨items.map (Json.only Command.fields), Json.recordList?_of_parse? htext, ?_⟩
  exact List.forall₂_map_left_iff.mpr (h.imp fun _ _ => Command.holds_only_iff.mpr)

/-- The text of a batch writes the batch. -/
theorem writes_written (b : Batch) : Writes b.written b := by
  have hfits : Json.Fits Json.depthMax b.toJson :=
    .arr (List.forall_mem_map.mpr fun c _ => c.fits_toJson 124)
  refine writes_of_parse? (Json.parse?_compact hfits) ?_
  exact List.forall₂_map_left_iff.mpr (List.forall₂_same.mpr fun c _ => c.holds_toJson)

/-! ### Steps -/

/-- Commands that are put together one by one are the batch that they were. -/
theorem collect_eq (commands : List Command) : collect commands = commands := by
  have hgo (b : Batch) : commands.foldl push b = b ++ commands := by
    induction commands generalizing b with
    | nil => exact (List.append_nil b).symm
    | cons c commands ih => rw [List.foldl_cons, ih, push, List.append_assoc, List.singleton_append]
  exact hgo []

theorem made_append (steps : List Step) (s : Step) :
    made (steps ++ [s]) = (made steps).after s := by
  rw [made, List.foldl_append]
  rfl

/-- **Every batch that steps make is read back from its text.** Reading replaces a batch by the one
that the text writes, and leaves it as it was if the text writes none. -/
theorem read_written_made (steps : List Step) :
    read? (made steps).written = some (made steps) ∧
    made (steps ++ [.replay]) = made steps ∧
    ∀ text, (∀ b, Writes text b → made (steps ++ [.read text]) = b) ∧
      ((¬∃ b, Writes text b) → made (steps ++ [.read text]) = made steps) := by
  refine ⟨read?_eq_some_iff.mpr (writes_written _), ?_, fun text => ⟨?_, ?_⟩⟩
  · rw [made_append, after, next?, collect_eq]
    rfl
  · intro b hb
    rw [made_append, after, next?, read?_eq_some_iff.mpr hb]
    rfl
  · intro hnone
    have hread : read? text = none := by
      by_contra hsome
      obtain ⟨b, hb⟩ := Option.ne_none_iff_exists'.mp hsome
      exact hnone ⟨b, read?_eq_some_iff.mp hb⟩
    rw [made_append, after, next?, hread]
    rfl

/-- Both shapes in one text. The object has its members the other way round, and one more that no
value could be read from. -/
example :
    read? "[[\"a\",[]],\x7b\"args\":[\"\"],\"x\":[1e999,\"\\ud800\"],\"call\":\"b\"\x7d]" =
      some [⟨"a", []⟩, ⟨"b", [""]⟩] := by decide +kernel

end Batch

end Runbook
