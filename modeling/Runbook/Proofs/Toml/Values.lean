import Runbook.Proofs.Json.Data
import Runbook.Proofs.Toml.Floats
import Runbook.Proofs.Toml.Keys
import Runbook.Proofs.Toml.Nulls
import Runbook.Proofs.Toml.Tables

/-!
# TOML values written and read again

A value behind a key is read back from its text if arrays and tables in it are nested no deeper than
the reader goes (`Fits.isRead`).
-/

namespace Runbook.Toml

open Decimal (Binary64)

/-- A value that can stand behind a key, with no more than `depth` levels of arrays and tables. -/
inductive Fits : (depth : Nat) → Json → Prop where
  | bool {d : Nat} (b : Bool) : Fits d (.bool b)
  | int {d : Nat} {n : Int} : Json.IsWord n → Fits d (.int n)
  | float {d : Nat} {x : Binary64} : x.isFinite = true → Fits d (.float x)
  | str {d : Nat} (s : String) : Fits d (.str s)
  | arr {d : Nat} {js : List Json} : (∀ j ∈ js, Fits d j) → Fits (d + 1) (.arr js)
  | obj {d : Nat} {ms : List (String × Json)} : (ms.map (·.1)).Nodup → (∀ m ∈ ms, Fits d m.2) →
      Fits (d + 1) (.obj ms)

mutual

/-- How many lists and tables stand in each other. -/
def levels : Json → Nat
  | .arr js => itemLevels js + 1
  | .obj ms => memberLevels ms + 1
  | _ => 0
termination_by structural j => j

/-- `levels` of the deepest item. -/
def itemLevels : List Json → Nat
  | [] => 0
  | j :: js => max (levels j) (itemLevels js)
termination_by structural js => js

/-- `levels` of the deepest member. -/
def memberLevels : List (String × Json) → Nat
  | [] => 0
  | (_, j) :: ms => max (levels j) (memberLevels ms)
termination_by structural ms => ms

end

theorem itemLevels_le_iff {js : List Json} {d : Nat} :
    itemLevels js ≤ d ↔ ∀ j ∈ js, levels j ≤ d := by
  induction js with
  | nil => simp [itemLevels]
  | cons j js ih => rw [itemLevels, Nat.max_le, ih, List.forall_mem_cons]

theorem memberLevels_le_iff {ms : List (String × Json)} {d : Nat} :
    memberLevels ms ≤ d ↔ ∀ m ∈ ms, levels m.2 ≤ d := by
  induction ms with
  | nil => simp [memberLevels]
  | cons m ms ih => rw [memberLevels, Nat.max_le, ih, List.forall_mem_cons]

/-- Data without nulls can stand behind a key if it is not too deep. -/
theorem fits_of_levels_le {j : Json} (h : Json.IsData j) (hnull : j.holdsNull = false) {d : Nat}
    (hd : levels j ≤ d) : Fits d j := by
  induction h generalizing d with
  | null => cases hnull
  | bool b => exact .bool b
  | int hword => exact .int hword
  | float hfinite => exact .float hfinite
  | str s => exact .str s
  | arr _ ih =>
    rw [Json.holdsNull_arr_eq_false_iff] at hnull
    obtain ⟨d, rfl⟩ : ∃ n, d = n + 1 := ⟨d - 1, by rw [levels] at hd; omega⟩
    exact .arr fun j hj =>
      ih j hj (hnull j hj) (itemLevels_le_iff.mp (Nat.le_of_succ_le_succ hd) j hj)
  | obj hnodup _ ih =>
    rw [Json.holdsNull_obj_eq_false_iff] at hnull
    obtain ⟨d, rfl⟩ : ∃ n, d = n + 1 := ⟨d - 1, by rw [levels] at hd; omega⟩
    exact .obj hnodup fun m hm =>
      ih m hm (hnull m hm) (memberLevels_le_iff.mp (Nat.le_of_succ_le_succ hd) m hm)

/-! ### Between values -/

/-- A value starts here: no blank, no end of a line, no comment and no closing bracket. -/
def StartsValue (cs : List Char) : Prop :=
  ∃ c rest, cs = c :: rest ∧ c ∉ [' ', '\t', '\n', '\r', '#', ']', '}']

theorem StartsValue.append {cs : List Char} (h : StartsValue cs) (ds : List Char) :
    StartsValue (cs ++ ds) := by
  obtain ⟨c, rest, rfl, hc⟩ := h
  exact ⟨c, rest ++ ds, rfl, hc⟩

theorem startsValue_of_endsWord {c : Char} {cs : List Char} (h : endsWord c = false) :
    StartsValue (c :: cs) := by
  refine ⟨c, cs, rfl, fun hmem => ?_⟩
  simp only [List.mem_cons, List.not_mem_nil, or_false] at hmem
  obtain rfl | rfl | rfl | rfl | rfl | rfl | rfl := hmem <;> exact absurd h (by decide)

theorem startsValue_keyText (key : String) : StartsValue (keyText key).toList := by
  obtain ⟨c, cs, htext, hc⟩ := keyText_cons key
  refine ⟨c, cs, htext, fun hmem => ?_⟩
  simp only [List.mem_cons, List.not_mem_nil, or_false] at hmem
  obtain rfl | rfl | rfl | rfl | rfl | rfl | rfl := hmem <;>
    exact ne_of_startsKey hc (by decide) rfl

theorem StartsValue.skipBlanks_eq {cs : List Char} (h : StartsValue cs) : skipBlanks cs = cs := by
  obtain ⟨c, rest, rfl, hc⟩ := h
  simp only [List.mem_cons, List.not_mem_nil, or_false, not_or] at hc
  simp [skipBlanks, hc.1, hc.2.1]

/-- Blanks in front of anything but ends of lines and comments are skipped. -/
theorem skipFiller_blanks {blanks : List Char} (hblanks : ∀ b ∈ blanks, b = ' ') {c : Char}
    (hc : c ∉ [' ', '\t', '\n', '\r', '#']) (fuel : Nat) (cs : List Char) :
    skipFiller (fuel + 1) (blanks ++ c :: cs) = some (c :: cs) := by
  simp only [List.mem_cons, List.not_mem_nil, or_false, not_or] at hc
  obtain ⟨hblank, htab, hline, hreturn, hcomment⟩ := hc
  have hskip : skipBlanks (blanks ++ c :: cs) = c :: cs := by
    rw [skipBlanks, List.dropWhile_append_of_pos fun b hb => by simp [hblanks b hb]]
    simp [hblank, htab]
  rw [skipFiller, hskip]
  simp [newline?_of_ne hline hreturn, hcomment]

/-- The start of a line is skipped too. -/
theorem skipFiller_line {blanks : List Char} (hblanks : ∀ b ∈ blanks, b = ' ') {c : Char}
    (hc : c ∉ [' ', '\t', '\n', '\r', '#']) (fuel : Nat) (cs : List Char) :
    skipFiller (fuel + 2) ('\n' :: (blanks ++ c :: cs)) = some (c :: cs) :=
  skipFiller_blanks hblanks hc fuel cs

theorem StartsValue.skipFiller_eq {cs : List Char} (h : StartsValue cs) (fuel : Nat) :
    skipFiller (fuel + 1) cs = some cs := by
  obtain ⟨c, cs, rfl, hc⟩ := h
  have hskip := skipFiller_blanks (List.forall_mem_nil (· = ' ')) (c := c) (by simp_all) fuel cs
  exact hskip

/-! ### Members -/

/-- The text is read as the value, whatever may stand behind it. -/
structure IsRead (depth : Nat) (j : Json) (t : String) : Prop where
  starts : StartsValue t.toList
  value?_eq : ∀ {fuel : Nat} {rest : List Char}, t.toList.length ≤ fuel → EndsValue rest →
    value? fuel depth (t.toList ++ rest) = some (j, rest)

/-- The entries of members whose values are closed. -/
def valueEntries (ms : List (String × Json)) : List (String × Entry) :=
  ms.map fun m => (m.1, .value m.2)

theorem valuesOf_valueEntries (ms : List (String × Json)) :
    Table.valuesOf (valueEntries ms) = ms := by
  induction ms with
  | nil => rfl
  | cons m ms ih =>
    rw [valueEntries, List.map_cons, Table.valuesOf, ← valueEntries, ih]
    rfl

theorem add?_header {es : List (String × Entry)} {key : String} (h : key ∉ es.map (·.1))
    (v : Json) : Table.add? ⟨.header, es⟩ [] key v = some ⟨.header, es ++ [(key, .value v)]⟩ := by
  have hget : Table.get? ⟨.header, es⟩ key = none := Table.get?_eq_none_iff.mpr h
  rw [Table.add?, Table.change?, if_neg (by simp), if_neg (by simp [hget]),
    Table.set_of_get?_eq_none hget]

/-- How a member is written. -/
def memberText (key t : String) : String := keyText key ++ " = " ++ t

theorem toList_memberText (key t : String) :
    (memberText key t).toList = (keyText key).toList ++ ' ' :: '=' :: ' ' :: t.toList := by
  simp [memberText]

theorem keyValue?_memberText {depth fuel : Nat} {j : Json} {t : String} (h : IsRead depth j t)
    {es : List (String × Entry)} {key : String} (hkey : key ∉ es.map (·.1)) {rest : List Char}
    (hfuel : t.toList.length ≤ fuel) (hrest : EndsValue rest) :
    keyValue? (fuel + 1) depth ⟨.header, es⟩ ((memberText key t).toList ++ rest) =
      some (⟨.header, es ++ [(key, .value j)]⟩, rest) := by
  have hblank : skipBlanks (' ' :: (t.toList ++ rest)) = t.toList ++ rest :=
    (h.starts.append rest).skipBlanks_eq
  have hskip : skipBlanks (' ' :: '=' :: ' ' :: (t.toList ++ rest)) =
      '=' :: ' ' :: (t.toList ++ rest) := by simp [skipBlanks]
  have hread {fuel : Nat} : key? (fuel + 1) ((memberText key t).toList ++ rest) =
      some ([key], '=' :: ' ' :: (t.toList ++ rest)) := by
    rw [toList_memberText, List.append_assoc]
    exact (key?_keyText key (by simp [EndsKey, isBare]) (by simp [skipBlanks])).trans
      (by simp [skipBlanks])
  rw [keyValue?, hread]
  simp only [hblank, h.value?_eq hfuel hrest]
  simp [add?_header hkey]

/-! ### Lists -/

theorem skipFiller_comma (cs : List Char) :
    skipFiller ((',' :: cs).length + 1) (',' :: cs) = some (',' :: cs) :=
  skipFiller_blanks (List.forall_mem_nil (· = ' ')) (by decide) _ cs

theorem skipFiller_bracket (cs : List Char) :
    skipFiller ((']' :: cs).length + 1) (']' :: cs) = some (']' :: cs) :=
  skipFiller_blanks (List.forall_mem_nil (· = ' ')) (by decide) _ cs

theorem items?_close {fuel depth : Nat} {cs rest : List Char}
    (h : skipFiller (cs.length + 1) cs = some (']' :: rest)) :
    items? (fuel + 1) depth cs = some ([], rest) := by
  rw [items?, h]
  rfl

theorem items?_last {fuel depth : Nat} {cs ds rest : List Char} {j : Json}
    (h : skipFiller (cs.length + 1) cs = some ds) (hds : StartsValue ds)
    (hj : value? fuel depth ds = some (j, ']' :: rest)) :
    items? (fuel + 1) depth cs = some ([j], rest) := by
  obtain ⟨c, ds, rfl, hc⟩ := hds
  have hbracket : c ≠ ']' := by
    rintro rfl
    exact hc (by decide)
  rw [items?, h]
  split
  · next heq => cases heq
  · next heq => exact absurd (List.cons.inj (Option.some.inj heq)).1 hbracket
  · next heq =>
    cases heq
    simp only [hj, skipFiller_bracket]

theorem items?_cons {fuel depth : Nat} {cs ds ds' rest : List Char} {j : Json} {js : List Json}
    (h : skipFiller (cs.length + 1) cs = some ds) (hds : StartsValue ds)
    (hj : value? fuel depth ds = some (j, ',' :: ds'))
    (hjs : items? fuel depth ds' = some (js, rest)) :
    items? (fuel + 1) depth cs = some (j :: js, rest) := by
  obtain ⟨c, ds, rfl, hc⟩ := hds
  have hbracket : c ≠ ']' := by
    rintro rfl
    exact hc (by decide)
  rw [items?, h]
  split
  · next heq => cases heq
  · next heq => exact absurd (List.cons.inj (Option.some.inj heq)).1 hbracket
  · next heq =>
    cases heq
    simp only [hj, skipFiller_comma, hjs, Option.map_some]

/-- An item on a line of its own. -/
def itemLine (t : String) : List Char := ("    " ++ t ++ ",\n").toList

theorem itemLine_append (t : String) (rest : List Char) :
    itemLine t ++ rest = [' ', ' ', ' ', ' '] ++ (t.toList ++ ',' :: '\n' :: rest) := by
  simp [itemLine]

/-- Items on lines of their own are read. -/
theorem items?_lines {depth : Nat} {js : List Json} {ts : List String}
    (h : List.Forall₂ (IsRead depth) js ts) {fuel : Nat} {rest : List Char}
    (hfuel : (ts.flatMap itemLine).length < fuel) :
    items? fuel depth ('\n' :: (ts.flatMap itemLine ++ ']' :: rest)) = some (js, rest) := by
  obtain ⟨fuel, rfl⟩ : ∃ m, fuel = m + 1 := ⟨fuel - 1, by omega⟩
  induction h generalizing fuel with
  | nil => exact items?_close (skipFiller_line (List.forall_mem_nil (· = ' ')) (by decide) _ rest)
  | @cons j t js ts hread _ ih =>
    have hlength : (itemLine t).length = t.toList.length + 6 := by simp [itemLine]
    rw [List.flatMap_cons, List.length_append] at hfuel
    obtain ⟨fuel, rfl⟩ : ∃ m, fuel = m + 1 := ⟨fuel - 1, by omega⟩
    obtain ⟨c, cs, ht, hc⟩ := hread.starts
    have hblanks : ∀ b ∈ [' ', ' ', ' ', ' '], b = ' ' := by simp
    rw [List.flatMap_cons, List.append_assoc, itemLine_append]
    refine items?_cons ?_ (hread.starts.append _) (hread.value?_eq (by omega) (.comma _))
      (ih fuel (by omega))
    rw [ht]
    exact skipFiller_line hblanks (by simp_all) _ _

/-- How a list is written. -/
def listText : List String → String
  | [] => "[]"
  | [t] => "[" ++ t ++ "]"
  | ts => "[\n" ++ String.join (ts.map fun t => "    " ++ t ++ ",\n") ++ "]"

theorem toList_listText (t t' : String) (ts : List String) :
    (listText (t :: t' :: ts)).toList =
      '[' :: '\n' :: ((t :: t' :: ts).flatMap itemLine ++ [']']) := by
  have htext : listText (t :: t' :: ts) =
      "[\n" ++ String.join ((t :: t' :: ts).map fun t => "    " ++ t ++ ",\n") ++ "]" := rfl
  have hline : itemLine = fun t => ' ' :: ' ' :: ' ' :: ' ' :: (t.toList ++ [',', '\n']) := by
    funext t
    simp [itemLine]
  simp [htext, hline, List.flatMap_map]

theorem value?_arr {fuel depth : Nat} {cs rest : List Char} {js : List Json}
    (h : items? fuel depth cs = some (js, rest)) :
    value? (fuel + 1) (depth + 1) ('[' :: cs) = some (.arr js, rest) := by
  rw [value?, h]
  rfl

/-- A list is read back from the texts of its items. -/
theorem isRead_arr {depth : Nat} {js : List Json} {ts : List String}
    (h : List.Forall₂ (IsRead depth) js ts) : IsRead (depth + 1) (.arr js) (listText ts) := by
  cases h with
  | nil =>
    refine ⟨⟨'[', [']'], rfl, by decide⟩, fun {fuel rest} hfuel _ => ?_⟩
    have hlength : (listText []).toList.length = 2 := rfl
    obtain ⟨fuel, rfl⟩ : ∃ m, fuel = m + 2 := ⟨fuel - 2, by omega⟩
    exact value?_arr (items?_close (skipFiller_bracket rest))
  | @cons j t js ts hread hreads =>
    cases hreads with
    | nil =>
      have htext : (listText [t]).toList = '[' :: (t.toList ++ [']']) := by simp [listText]
      refine ⟨⟨'[', _, htext, by decide⟩, fun {fuel rest} hfuel _ => ?_⟩
      rw [htext, List.length_cons, List.length_append, List.length_singleton] at hfuel
      obtain ⟨fuel, rfl⟩ : ∃ m, fuel = m + 2 := ⟨fuel - 2, by omega⟩
      rw [htext, List.cons_append, List.append_assoc]
      have hstarts := hread.starts.append (']' :: rest)
      exact value?_arr (items?_last (hstarts.skipFiller_eq _) hstarts
        (hread.value?_eq (by omega) (.bracket rest)))
    | @cons j' t' js ts hread' hreads =>
      refine ⟨⟨'[', _, toList_listText t t' ts, by decide⟩, fun {fuel rest} hfuel _ => ?_⟩
      rw [toList_listText, List.length_cons, List.length_cons, List.length_append,
        List.length_singleton] at hfuel
      obtain ⟨fuel, rfl⟩ : ∃ m, fuel = m + 1 := ⟨fuel - 1, by omega⟩
      rw [toList_listText, List.cons_append, List.cons_append, List.append_assoc]
      exact value?_arr (items?_lines (.cons hread (.cons hread' hreads)) (by omega))

/-! ### Tables between braces -/

theorem skipFiller_brace (cs : List Char) :
    skipFiller ((' ' :: '}' :: cs).length + 1) (' ' :: '}' :: cs) = some ('}' :: cs) :=
  skipFiller_blanks (List.forall_mem_singleton.mpr rfl) (by decide) _ cs

theorem ne_brace_of_startsValue {c : Char} {cs : List Char} (h : StartsValue (c :: cs)) :
    c ≠ '}' := by
  obtain ⟨d, ds, heq, hd⟩ := h
  obtain ⟨rfl, -⟩ := List.cons.inj heq
  rintro rfl
  exact hd (by decide)

theorem members?_close (fuel depth : Nat) (t : Table) (cs : List Char) :
    members? (fuel + 1) depth t ('}' :: cs) = some (t, cs) := by
  have hskip : skipFiller (('}' :: cs).length + 1) ('}' :: cs) = some ('}' :: cs) :=
    skipFiller_blanks (List.forall_mem_nil (· = ' ')) (by decide) _ cs
  rw [members?, hskip]
  rfl

theorem members?_last {fuel depth : Nat} {cs ds rest : List Char} {t t' : Table}
    (h : skipFiller (cs.length + 1) cs = some ds) (hds : StartsValue ds)
    (hm : keyValue? fuel depth t ds = some (t', ' ' :: '}' :: rest)) :
    members? (fuel + 1) depth t cs = some (t', rest) := by
  rw [members?, h]
  split
  · next heq => cases heq
  · next heq =>
    cases heq
    exact absurd rfl (ne_brace_of_startsValue hds)
  · next heq =>
    cases heq
    simp only [hm, skipFiller_brace]

theorem members?_cons {fuel depth : Nat} {cs ds ds' rest : List Char} {t t' t'' : Table}
    (h : skipFiller (cs.length + 1) cs = some ds) (hds : StartsValue ds)
    (hm : keyValue? fuel depth t ds = some (t', ',' :: ds'))
    (hms : members? fuel depth t' ds' = some (t'', rest)) :
    members? (fuel + 1) depth t cs = some (t'', rest) := by
  rw [members?, h]
  split
  · next heq => cases heq
  · next heq =>
    cases heq
    exact absurd rfl (ne_brace_of_startsValue hds)
  · next heq =>
    cases heq
    simp only [hm, skipFiller_comma, hms]

/-- The text is that of a member with a value that is read. -/
def IsMember (depth : Nat) (m : String × Json) (t : String) : Prop :=
  ∃ v, IsRead depth m.2 v ∧ t = memberText m.1 v

theorem IsMember.starts {depth : Nat} {m : String × Json} {t : String} (h : IsMember depth m t) :
    StartsValue t.toList := by
  obtain ⟨v, -, rfl⟩ := h
  rw [toList_memberText]
  exact (startsValue_keyText m.1).append _

/-- A member is read into a table that does not have its name. -/
theorem IsMember.keyValue?_eq {depth : Nat} {m : String × Json} {t : String}
    (h : IsMember depth m t) {es : List (String × Entry)} (hkey : m.1 ∉ es.map (·.1)) {fuel : Nat}
    {rest : List Char} (hfuel : t.toList.length ≤ fuel) (hrest : EndsValue rest) :
    keyValue? fuel depth ⟨.header, es⟩ (t.toList ++ rest) =
      some (⟨.header, es ++ [(m.1, .value m.2)]⟩, rest) := by
  obtain ⟨v, hv, rfl⟩ := h
  rw [toList_memberText, List.length_append, List.length_cons, List.length_cons,
    List.length_cons] at hfuel
  obtain ⟨fuel, rfl⟩ : ∃ m, fuel = m + 1 := ⟨fuel - 1, by omega⟩
  exact keyValue?_memberText hv hkey (by omega) hrest

theorem skipFiller_blank {cs : List Char} (h : StartsValue cs) :
    skipFiller ((' ' :: cs).length + 1) (' ' :: cs) = some cs := by
  obtain ⟨c, cs, rfl, hc⟩ := h
  exact skipFiller_blanks (List.forall_mem_singleton.mpr rfl) (by simp_all) _ cs

/-- Members between braces are read. -/
theorem members?_text {depth : Nat} {ms : List (String × Json)} {ts : List String}
    (h : List.Forall₂ (IsMember depth) ms ts) (hne : ms ≠ [])
    {es : List (String × Entry)} (hnodup : (es.map (·.1) ++ ms.map (·.1)).Nodup) {fuel : Nat}
    {rest : List Char} (hfuel : ([',', ' '].intercalate (ts.map String.toList)).length < fuel) :
    members? fuel depth ⟨.header, es⟩ (' ' :: ([',', ' '].intercalate (ts.map String.toList) ++
      ' ' :: '}' :: rest)) = some (⟨.header, es ++ valueEntries ms⟩, rest) := by
  obtain ⟨fuel, rfl⟩ : ∃ m, fuel = m + 1 := ⟨fuel - 1, by omega⟩
  induction h generalizing es fuel with
  | nil => exact absurd rfl hne
  | @cons m t ms ts hm hms ih =>
    have hkey : m.1 ∉ es.map (·.1) := by
      rw [List.nodup_append] at hnodup
      exact fun hmem => hnodup.2.2 _ hmem _ List.mem_cons_self rfl
    cases hms with
    | nil =>
      rw [List.map_singleton, List.intercalate_singleton] at hfuel ⊢
      have hstarts := hm.starts.append (' ' :: '}' :: rest)
      exact members?_last (skipFiller_blank hstarts) hstarts
        (hm.keyValue?_eq hkey (by omega) (.brace rest))
    | @cons m' t' ms ts hm' hms =>
      rw [List.map_cons, List.map_cons, List.intercalate_cons_cons] at hfuel ⊢
      simp only [List.length_append] at hfuel
      rw [List.append_assoc, List.append_assoc]
      have hstarts := hm.starts.append ([',', ' '] ++
        ([',', ' '].intercalate (t'.toList :: ts.map String.toList) ++ ' ' :: '}' :: rest))
      have hsep : [',', ' '].length = 2 := rfl
      obtain ⟨fuel, rfl⟩ : ∃ m, fuel = m + 1 := ⟨fuel - 1, by omega⟩
      have hrest := @ih (by simp) (es ++ [(m.1, .value m.2)]) (by simpa using hnodup) fuel
        (by rw [List.map_cons]; omega)
      refine members?_cons (skipFiller_blank hstarts) hstarts
        (hm.keyValue?_eq hkey (by omega) (.comma _)) (hrest.trans ?_)
      simp [valueEntries]

theorem value?_obj {fuel depth : Nat} {cs rest : List Char} {t : Table}
    (h : members? fuel depth (.new .header) cs = some (t, rest)) :
    value? (fuel + 1) (depth + 1) ('{' :: cs) = some (t.value, rest) := by
  rw [value?, h]
  rfl

/-- How a table between braces is written. -/
def braceText (ts : List String) : String :=
  if ts.isEmpty then "\x7b\x7d" else "\x7b " ++ ", ".intercalate ts ++ " \x7d"

theorem toList_braceText {ts : List String} (h : ts ≠ []) : (braceText ts).toList =
    '{' :: ' ' :: ([',', ' '].intercalate (ts.map String.toList) ++ [' ', '}']) := by
  rw [braceText, if_neg (by simpa using h)]
  simp [String.toList_intercalate]

/-- A table is read back from the texts of its members. -/
theorem isRead_obj {depth : Nat} {ms : List (String × Json)} {ts : List String}
    (h : List.Forall₂ (IsMember depth) ms ts) (hnodup : (ms.map (·.1)).Nodup) :
    IsRead (depth + 1) (.obj ms) (braceText ts) := by
  by_cases hne : ms = []
  · subst hne
    cases h
    refine ⟨⟨'{', ['}'], rfl, by decide⟩, fun {fuel rest} hfuel _ => ?_⟩
    have hlength : (braceText []).toList.length = 2 := rfl
    obtain ⟨fuel, rfl⟩ : ∃ m, fuel = m + 2 := ⟨fuel - 2, by omega⟩
    exact value?_obj (members?_close fuel depth _ rest)
  · have hts : ts ≠ [] := by
      rintro rfl
      cases h
      exact hne rfl
    refine ⟨⟨'{', _, toList_braceText hts, by decide⟩, fun {fuel rest} hfuel _ => ?_⟩
    rw [toList_braceText hts, List.length_cons, List.length_cons, List.length_append] at hfuel
    obtain ⟨fuel, rfl⟩ : ∃ m, fuel = m + 1 := ⟨fuel - 1, by omega⟩
    have hread := @members?_text depth ms ts h hne [] (by simpa using hnodup) fuel rest (by omega)
    rw [toList_braceText hts, List.cons_append, List.cons_append, List.append_assoc]
    refine (value?_obj hread).trans ?_
    rw [Table.value, List.nil_append, valuesOf_valueEntries]

/-! ### Values -/

theorem itemTexts?_eq_some_iff {js : List Json} {ts : List String} :
    itemTexts? js = some ts ↔ List.Forall₂ (fun j t => valueText? j = some t) js ts := by
  induction js generalizing ts with
  | nil => cases ts <;> simp [itemTexts?]
  | cons j js ih =>
    rw [itemTexts?]
    constructor
    · intro h
      split at h
      · next hj hjs =>
        cases h
        exact .cons hj (ih.mp hjs)
      · cases h
    · rintro (_ | ⟨hj, hjs⟩)
      rw [hj, ih.mpr hjs]

theorem memberTexts?_eq_some_iff {ms : List (String × Json)} {ts : List String} :
    memberTexts? ms = some ts ↔
      List.Forall₂ (fun m t => ∃ v, valueText? m.2 = some v ∧ t = memberText m.1 v) ms ts := by
  induction ms generalizing ts with
  | nil => cases ts <;> simp [memberTexts?]
  | cons m ms ih =>
    rw [memberTexts?]
    constructor
    · intro h
      split at h
      · next hm hms =>
        cases h
        exact .cons ⟨_, hm, rfl⟩ (ih.mp hms)
      · cases h
    · rintro (_ | ⟨⟨v, hv, rfl⟩, hms⟩)
      rw [hv, ih.mpr hms]
      rfl

theorem isRead_word {depth : Nat} {j : Json} {t : String} {c : Char} {cs : List Char}
    (ht : t.toList = c :: cs) (hword : ∀ d ∈ c :: cs, endsWord d = false)
    (hj : scalarOfWord? t.toList = some j) : IsRead depth j t := by
  refine ⟨ht ▸ startsValue_of_endsWord (hword c List.mem_cons_self), ?_⟩
  intro fuel rest hfuel hrest
  rw [ht, List.length_cons] at hfuel
  obtain ⟨fuel, rfl⟩ : ∃ m, fuel = m + 1 := ⟨fuel - 1, by omega⟩
  rw [ht] at hj ⊢
  exact value?_word fuel depth hword hj hrest

theorem startsUnquoted_of_endsValue {rest : List Char} (h : EndsValue rest) :
    StartsUnquoted rest := by
  cases h <;> exact ⟨by simp [StartsOther], by simp [StartsOther]⟩

theorem stringText_cons (s : String) :
    ∃ c cs, (stringText s).toList = c :: cs ∧ (c = '"' ∨ c = '\'') := by
  rw [stringText]
  cases chooseStyle s.toList with
  | basic => exact ⟨'"', _, by simp; rfl, .inl rfl⟩
  | literal => exact ⟨'\'', _, by simp; rfl, .inr rfl⟩
  | basicLines => exact ⟨'"', _, by simp; rfl, .inl rfl⟩
  | literalLines => exact ⟨'\'', _, by simp; rfl, .inr rfl⟩

theorem isRead_str {depth : Nat} (s : String) : IsRead depth (.str s) (stringText s) := by
  obtain ⟨c, cs, htext, hquote⟩ := stringText_cons s
  refine ⟨⟨c, cs, htext, by obtain rfl | rfl := hquote <;> decide⟩, ?_⟩
  intro fuel rest hfuel hrest
  have hread := string?_stringText s (startsUnquoted_of_endsValue hrest)
  rw [htext, List.length_cons] at hfuel
  obtain ⟨fuel, rfl⟩ : ∃ m, fuel = m + 1 := ⟨fuel - 1, by omega⟩
  rw [htext, List.cons_append] at hread ⊢
  obtain rfl | rfl := hquote <;> simp [value?, hread]

/-- **A value is read back from its text.** -/
theorem Fits.isRead {depth : Nat} {j : Json} (h : Fits depth j) {t : String}
    (ht : valueText? j = some t) : IsRead depth j t := by
  induction h generalizing t with
  | bool b =>
    cases ht
    cases b with
    | true => exact @isRead_word _ _ "true" 't' ['r', 'u', 'e'] rfl (by simp [endsWord]) rfl
    | false => exact @isRead_word _ _ "false" 'f' ['a', 'l', 's', 'e'] rfl (by simp [endsWord]) rfl
  | @int d n hn =>
    cases ht
    obtain ⟨c, cs, hc, hstart⟩ := Json.intChars_cons n
    have htext : (toString n).toList = c :: cs := (toList_toString n).trans hc
    exact isRead_word htext (fun d hd => endsWord_of_isDigit (isDigit_intChars n d (hc ▸ hd)))
      (scalarOfWord?_int hn)
  | float hx =>
    cases ht
    obtain ⟨c, cs, htext, hword⟩ := exists_floatText hx
    refine isRead_word htext (fun d hd => ?_) (scalarOfWord?_float hx)
    obtain hd | rfl := hword d hd
    · exact endsWord_of_isDigit hd
    · rfl
  | str s =>
    cases ht
    exact isRead_str s
  | @arr d js _ ih =>
    rw [valueText?, Option.map_eq_some_iff] at ht
    obtain ⟨ts, hts, rfl⟩ := ht
    have hread := (List.forall₂_and_left
      (p := fun j => ∀ t, valueText? j = some t → IsRead d j t) js ts).mpr
        ⟨fun j hj t => ih j hj, itemTexts?_eq_some_iff.mp hts⟩
    exact isRead_arr (hread.imp fun _ t h => h.1 t h.2)
  | @obj d ms hnodup _ ih =>
    rw [valueText?, Option.map_eq_some_iff] at ht
    obtain ⟨ts, hts, rfl⟩ := ht
    have hread := (List.forall₂_and_left
      (p := fun m => ∀ t, valueText? m.2 = some t → IsRead d m.2 t) ms ts).mpr
        ⟨fun m hm t => ih m hm, memberTexts?_eq_some_iff.mp hts⟩
    refine isRead_obj (hread.imp ?_) hnodup
    rintro m t ⟨hm, v, hv, ht⟩
    exact ⟨v, hm v hv, ht⟩

end Runbook.Toml
