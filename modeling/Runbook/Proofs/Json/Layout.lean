import Runbook.Proofs.Json.Scalars

/-!
# Reading what is written

A value can be written in many ways: blanks may stand between the tokens of arrays and objects.
`Layout` says which texts write a value whose arrays and objects are nested no deeper than some
number of levels. The reader reads every layout (`Layout.value_eq`), and both writers write
layouts, one without blanks and one with lines and indents. So a value that a text can hold is
read back from both of its texts (`parse?_compact`, `parse?_pretty`).

Doubles and integers beyond 64 bits are left out. They are read as other values than they are
written from, or not at all.
-/

namespace Runbook.Json

/-! ### Layouts -/

/-- Nothing but blanks. -/
def IsGap (cs : List Char) : Prop := ∀ c ∈ cs, isSpace c = true

mutual

/-- The text writes the value, with no more than `depth` levels of arrays and objects. -/
inductive Layout : (depth : Nat) → Json → List Char → Prop where
  | null {d : Nat} : Layout d .null ['n', 'u', 'l', 'l']
  | bool {d : Nat} (b : Bool) : Layout d (.bool b) (compactChars (.bool b))
  | int {d : Nat} {n : Int} : IsWord n → Layout d (.int n) (intChars n)
  | str {d : Nat} (s : String) : Layout d (.str s) (stringChars s)
  | noItems {d : Nat} : Layout (d + 1) (.arr []) ['[', ']']
  | arr {d : Nat} {js : List Json} {cs : List Char} (gap : List Char) : IsGap gap →
      Items d js cs → Layout (d + 1) (.arr js) ('[' :: (gap ++ cs))
  | noMembers {d : Nat} : Layout (d + 1) (.obj []) ['{', '}']
  | obj {d : Nat} {ms : List (String × Json)} {cs : List Char} (gap : List Char) : IsGap gap →
      Members d ms cs → Layout (d + 1) (.obj ms) ('{' :: (gap ++ cs))

/-- The text writes items up to the closing bracket. -/
inductive Items : (depth : Nat) → List Json → List Char → Prop where
  | last {d : Nat} {j : Json} {cs : List Char} (gap : List Char) : Layout d j cs → IsGap gap →
      Items d [j] (cs ++ (gap ++ [']']))
  | cons {d : Nat} {j : Json} {js : List Json} {cs ds : List Char} (gap : List Char) :
      Layout d j cs → IsGap gap → Items d js ds → Items d (j :: js) (cs ++ ',' :: (gap ++ ds))

/-- The text writes members up to the closing brace; `gap` stands in front of a value and `gap'`
behind it. -/
inductive Members : (depth : Nat) → List (String × Json) → List Char → Prop where
  | last {d : Nat} (n : String) {j : Json} {cs : List Char} (gap gap' : List Char) : IsGap gap →
      Layout d j cs → IsGap gap' →
      Members d [(n, j)] (stringChars n ++ ':' :: (gap ++ (cs ++ (gap' ++ ['}']))))
  | cons {d : Nat} (n : String) {j : Json} {ms : List (String × Json)} {cs ds : List Char}
      (gap gap' : List Char) : IsGap gap → Layout d j cs → IsGap gap' → Members d ms ds →
      Members d ((n, j) :: ms) (stringChars n ++ ':' :: (gap ++ (cs ++ ',' :: (gap' ++ ds))))

end

/-! ### Tokens -/

/-- A token starts here, and it is no closing bracket. -/
def Starts (cs : List Char) : Prop := ∃ c rest, cs = c :: rest ∧ isSpace c = false ∧ c ≠ ']'

theorem Starts.append {cs : List Char} (h : Starts cs) (ds : List Char) : Starts (cs ++ ds) := by
  obtain ⟨c, rest, rfl, hspace, hbracket⟩ := h
  exact ⟨c, rest ++ ds, rfl, hspace, hbracket⟩

theorem Starts.length_pos {cs : List Char} (h : Starts cs) : 0 < cs.length := by
  obtain ⟨c, rest, rfl, -⟩ := h
  exact Nat.succ_pos _

theorem skipSpace_cons {c : Char} (h : isSpace c = false) (cs : List Char) :
    skipSpace (c :: cs) = c :: cs := by
  simp [skipSpace, h]

theorem skipSpace_gap {gap cs : List Char} (hgap : IsGap gap) (hcs : skipSpace cs = cs) :
    skipSpace (gap ++ cs) = cs := by
  rw [skipSpace, List.dropWhile_append_of_pos hgap]
  exact hcs

theorem skipSpace_gap_starts {gap cs : List Char} (hgap : IsGap gap) (hcs : Starts cs) :
    skipSpace (gap ++ cs) = cs := by
  obtain ⟨c, rest, rfl, hspace, -⟩ := hcs
  exact skipSpace_gap hgap (skipSpace_cons hspace rest)

theorem ends_cons {c : Char} (h : c.isDigit = false ∧ c ≠ '.' ∧ c ≠ 'e' ∧ c ≠ 'E')
    (cs : List Char) : Ends (c :: cs) := by
  simpa [Ends] using h

/-- A number ends at a blank. -/
theorem ends_gap {gap cs : List Char} (hgap : IsGap gap) (hcs : Ends cs) : Ends (gap ++ cs) := by
  cases gap with
  | nil => exact hcs
  | cons c gap =>
    have hspace := hgap c List.mem_cons_self
    simp only [isSpace, Bool.or_eq_true, beq_iff_eq] at hspace
    refine ends_cons ?_ _
    obtain ((rfl | rfl) | rfl) | rfl := hspace <;> decide

theorem intChars_cons (n : Int) :
    ∃ c rest, intChars n = c :: rest ∧ (c = '-' ∨ c.isDigit = true) := by
  cases n with
  | negSucc n => exact ⟨'-', _, rfl, .inl rfl⟩
  | ofNat n =>
    obtain ⟨c, rest, h⟩ := List.exists_cons_of_ne_nil (Nat.toDigits_ne_nil (n := n) (b := 10))
    refine ⟨c, rest, h, .inr ?_⟩
    have hmem : c ∈ Nat.toDigits 10 n := h ▸ List.mem_cons_self
    exact Nat.isDigit_of_mem_toDigits (by decide) (by decide) hmem

/-- A character that starts a number starts nothing else. -/
theorem ne_of_startsNumber {c x : Char} (h : c = '-' ∨ c.isDigit = true)
    (hx : x ≠ '-' ∧ x.isDigit = false) : c ≠ x := by
  rintro rfl
  obtain hminus | hdigit := h
  · exact hx.1 hminus
  · rw [hx.2] at hdigit
    cases hdigit

/-- A value starts with a token of its own. -/
theorem Layout.starts {d : Nat} {j : Json} {cs : List Char} (h : Layout d j cs) : Starts cs := by
  cases h with
  | @int _ n _ =>
    obtain ⟨c, rest, hc, hstart⟩ := intChars_cons n
    refine ⟨c, rest, hc, ?_, ne_of_startsNumber hstart (by decide)⟩
    have hspace := ne_of_startsNumber (x := ' ') hstart (by decide)
    have hline := ne_of_startsNumber (x := '\n') hstart (by decide)
    have htab := ne_of_startsNumber (x := '\t') hstart (by decide)
    have hreturn := ne_of_startsNumber (x := '\r') hstart (by decide)
    simp [isSpace, hspace, hline, htab, hreturn]
  | bool b => cases b <;> exact ⟨_, _, rfl, by decide, by decide⟩
  | null | str | noItems | arr | noMembers | obj => exact ⟨_, _, rfl, by decide, by decide⟩

theorem Items.starts {d : Nat} {js : List Json} {cs : List Char} (h : Items d js cs) :
    Starts cs := by
  cases h with
  | last _ hj | cons _ hj => exact hj.starts.append _

theorem Members.starts {d : Nat} {ms : List (String × Json)} {cs : List Char}
    (h : Members d ms cs) : Starts cs := by
  cases h with
  | last | cons => exact ⟨'"', _, rfl, by decide, by decide⟩

theorem Members.starts_name {d : Nat} {ms : List (String × Json)} {cs : List Char}
    (h : Members d ms cs) : ∃ ds, cs = '"' :: ds := by
  cases h with
  | last | cons => exact ⟨_, rfl⟩

/-! ### The reader on layouts -/

theorem value_number {c : Char} (h : c = '-' ∨ c.isDigit = true) (depth fuel : Nat)
    (cs : List Char) : value depth (fuel + 1) (c :: cs) = number (c :: cs) := by
  rw [value]
  · rw [if_pos h]
  all_goals exact ne_of_startsNumber h (by decide)

/-- Items stand behind an opening bracket. -/
theorem value_arr {d fuel : Nat} {gap cs rest : List Char} {js : List Json} (hgap : IsGap gap)
    (hcs : Starts cs) (h : items d fuel (cs ++ rest) = some (js, rest)) :
    value (d + 1) (fuel + 1) ('[' :: (gap ++ (cs ++ rest))) = some (.arr js, rest) := by
  have hskip := skipSpace_gap_starts hgap (hcs.append rest)
  obtain ⟨c, cs, rfl, -, hbracket⟩ := hcs
  simp only [value, hskip]
  split
  · rename_i heq
    simp only [List.cons_append, List.cons.injEq] at heq
    exact absurd heq.1 hbracket
  · rw [h]
    rfl

theorem items_last {d fuel : Nat} {cs gap rest : List Char} {j : Json} (hgap : IsGap gap)
    (h : value d fuel cs = some (j, gap ++ ']' :: rest)) :
    items d (fuel + 1) cs = some ([j], rest) := by
  have hskip : skipSpace (gap ++ ']' :: rest) = ']' :: rest :=
    skipSpace_gap hgap (skipSpace_cons (by decide) rest)
  simp only [items, h, hskip]

theorem items_cons {d fuel : Nat} {cs gap ds rest : List Char} {j : Json} {js : List Json}
    (hgap : IsGap gap) (hds : Starts ds) (hj : value d fuel cs = some (j, ',' :: (gap ++ ds)))
    (hjs : items d fuel ds = some (js, rest)) :
    items d (fuel + 1) cs = some (j :: js, rest) := by
  have hcomma : skipSpace (',' :: (gap ++ ds)) = ',' :: (gap ++ ds) :=
    skipSpace_cons (by decide) _
  simp only [items, hj, hcomma, skipSpace_gap_starts hgap hds, hjs, Option.map_some]

theorem stringChars_append (s : String) (cs : List Char) :
    stringChars s ++ cs = '"' :: (s.toList.flatMap escapeChar ++ '"' :: cs) := by
  simp [stringChars]

/-- Members stand behind an opening brace. -/
theorem value_obj {d fuel : Nat} {gap cs rest : List Char} {ms : List (String × Json)}
    (hgap : IsGap gap) (hcs : ∃ ds, cs = '"' :: ds)
    (h : members d fuel (cs ++ rest) = some (ms, rest)) :
    value (d + 1) (fuel + 1) ('{' :: (gap ++ (cs ++ rest))) = some (.obj ms, rest) := by
  obtain ⟨ds, rfl⟩ := hcs
  have hskip : skipSpace (gap ++ ('"' :: ds ++ rest)) = '"' :: ds ++ rest :=
    skipSpace_gap hgap (skipSpace_cons (by decide) (ds ++ rest))
  simp only [value, hskip]
  split
  · rename_i heq
    simp at heq
  · rw [h]
    rfl

theorem members_last {d fuel : Nat} {gap cs gap' rest : List Char} (n : String) {j : Json}
    (hgap : IsGap gap) (hcs : Starts cs) (hgap' : IsGap gap')
    (h : value d fuel cs = some (j, gap' ++ '}' :: rest)) :
    members d (fuel + 1) (stringChars n ++ ':' :: (gap ++ cs)) = some ([(n, j)], rest) := by
  have hcolon : skipSpace (':' :: (gap ++ cs)) = ':' :: (gap ++ cs) := skipSpace_cons (by decide) _
  have hskip : skipSpace (gap' ++ '}' :: rest) = '}' :: rest :=
    skipSpace_gap hgap' (skipSpace_cons (by decide) rest)
  rw [stringChars_append]
  simp only [members, stringBody_flatMap, hcolon, skipSpace_gap_starts hgap hcs, h, hskip,
    String.ofList_toList]

theorem members_cons {d fuel : Nat} {gap cs gap' ds rest : List Char} (n : String) {j : Json}
    {ms : List (String × Json)} (hgap : IsGap gap) (hcs : Starts cs) (hgap' : IsGap gap')
    (hds : Starts ds) (hj : value d fuel cs = some (j, ',' :: (gap' ++ ds)))
    (hms : members d fuel ds = some (ms, rest)) :
    members d (fuel + 1) (stringChars n ++ ':' :: (gap ++ cs)) = some ((n, j) :: ms, rest) := by
  have hcolon : skipSpace (':' :: (gap ++ cs)) = ':' :: (gap ++ cs) := skipSpace_cons (by decide) _
  have hcomma : skipSpace (',' :: (gap' ++ ds)) = ',' :: (gap' ++ ds) :=
    skipSpace_cons (by decide) _
  rw [stringChars_append]
  simp only [members, stringBody_flatMap, hcolon, skipSpace_gap_starts hgap hcs, hj, hcomma,
    skipSpace_gap_starts hgap' hds, hms, Option.map_some, String.ofList_toList]

mutual

/-- The reader reads every layout of a value. -/
theorem Layout.value_eq {d : Nat} {j : Json} {cs : List Char} (h : Layout d j cs) {fuel : Nat}
    {rest : List Char} (hfuel : cs.length ≤ fuel) (hrest : Ends rest) :
    value d fuel (cs ++ rest) = some (j, rest) := by
  have hpos := h.starts.length_pos
  obtain ⟨fuel, rfl⟩ : ∃ m, fuel = m + 1 := ⟨fuel - 1, by omega⟩
  match h with
  | .null => rfl
  | .bool b => cases b <;> rfl
  | .int hn =>
    have hnumber := number_intChars hn hrest
    obtain ⟨c, cs, hc, hstart⟩ := intChars_cons _
    rw [hc, List.cons_append] at hnumber ⊢
    rw [value_number hstart, hnumber]
  | .str s =>
    rw [stringChars_append, value, stringBody_flatMap]
    simp only [Option.map_some, String.ofList_toList]
  | .noItems => rfl
  | .arr gap hgap hitems =>
    simp only [List.length_cons, List.length_append] at hfuel
    rw [List.cons_append, List.append_assoc]
    exact value_arr hgap hitems.starts (hitems.items_eq (by omega))
  | .noMembers => rfl
  | .obj gap hgap hmembers =>
    simp only [List.length_cons, List.length_append] at hfuel
    rw [List.cons_append, List.append_assoc]
    exact value_obj hgap hmembers.starts_name (hmembers.members_eq (by omega))

/-- The reader reads every layout of items. -/
theorem Items.items_eq {d : Nat} {js : List Json} {cs : List Char} (h : Items d js cs)
    {fuel : Nat} {rest : List Char} (hfuel : cs.length ≤ fuel) :
    items d fuel (cs ++ rest) = some (js, rest) := by
  match h with
  | .last gap hj hgap =>
    simp only [List.length_append, List.length_singleton] at hfuel
    obtain ⟨fuel, rfl⟩ : ∃ m, fuel = m + 1 := ⟨fuel - 1, by omega⟩
    have hends : Ends (gap ++ ']' :: rest) := ends_gap hgap (ends_cons (by decide) rest)
    rw [List.append_assoc, List.append_assoc, List.singleton_append]
    exact items_last hgap (hj.value_eq (by omega) hends)
  | .cons gap hj hgap hjs =>
    have hpos := hj.starts.length_pos
    simp only [List.length_append, List.length_cons] at hfuel
    obtain ⟨fuel, rfl⟩ : ∃ m, fuel = m + 1 := ⟨fuel - 1, by omega⟩
    rw [List.append_assoc, List.cons_append, List.append_assoc]
    exact items_cons hgap (hjs.starts.append rest)
      (hj.value_eq (by omega) (ends_cons (by decide) _)) (hjs.items_eq (by omega))

/-- The reader reads every layout of members. -/
theorem Members.members_eq {d : Nat} {ms : List (String × Json)} {cs : List Char}
    (h : Members d ms cs) {fuel : Nat} {rest : List Char} (hfuel : cs.length ≤ fuel) :
    members d fuel (cs ++ rest) = some (ms, rest) := by
  match h with
  | .last n gap gap' hgap hj hgap' =>
    simp only [List.length_append, List.length_cons] at hfuel
    obtain ⟨fuel, rfl⟩ : ∃ m, fuel = m + 1 := ⟨fuel - 1, by omega⟩
    have hends : Ends (gap' ++ '}' :: rest) := ends_gap hgap' (ends_cons (by decide) rest)
    simp only [List.append_assoc, List.cons_append, List.nil_append]
    exact members_last n hgap (hj.starts.append _) hgap' (hj.value_eq (by omega) hends)
  | .cons n gap gap' hgap hj hgap' hms =>
    simp only [List.length_append, List.length_cons] at hfuel
    obtain ⟨fuel, rfl⟩ : ∃ m, fuel = m + 1 := ⟨fuel - 1, by omega⟩
    simp only [List.append_assoc, List.cons_append]
    exact members_cons n hgap (hj.starts.append _) hgap' (hms.starts.append rest)
      (hj.value_eq (by omega) (ends_cons (by decide) _)) (hms.members_eq (by omega))

end

theorem isGap_nil : IsGap [] := by simp [IsGap]

/-- A text that writes a value is read as the value. -/
theorem Layout.parse?_eq {j : Json} {cs : List Char} (h : Layout depthMax j cs) :
    parse? (String.ofList cs) = some j := by
  have hskip : skipSpace cs = cs := skipSpace_gap_starts isGap_nil h.starts
  have hfuel : cs.length ≤ 2 * cs.length + 2 := by omega
  have hvalue := h.value_eq hfuel (by simp [Ends] : Ends [])
  rw [List.append_nil] at hvalue
  rw [parse?, whole?, String.toList_ofList, String.length_ofList, hskip, hvalue]
  rfl

/-! ### The writers -/

/-- A value without doubles and without integers beyond 64 bits, with no more than `depth` levels
of arrays and objects. -/
inductive Fits : (depth : Nat) → Json → Prop where
  | null {d : Nat} : Fits d .null
  | bool {d : Nat} (b : Bool) : Fits d (.bool b)
  | int {d : Nat} {n : Int} : IsWord n → Fits d (.int n)
  | str {d : Nat} (s : String) : Fits d (.str s)
  | arr {d : Nat} {js : List Json} : (∀ j ∈ js, Fits d j) → Fits (d + 1) (.arr js)
  | obj {d : Nat} {ms : List (String × Json)} : (∀ m ∈ ms, Fits d m.2) → Fits (d + 1) (.obj ms)

theorem isGap_lineAt (level : Nat) : IsGap (lineAt level) := by
  intro c hc
  obtain rfl | ⟨-, rfl⟩ : c = '\n' ∨ ¬2 * level = 0 ∧ c = ' ' := by simpa [lineAt] using hc
  · rfl
  · rfl

theorem items_compactItems {d : Nat} {j : Json} {js : List Json}
    (h : ∀ x ∈ j :: js, Layout d x (compactChars x)) :
    Items d (j :: js) (compactChars j ++ compactItems js) := by
  induction js generalizing j with
  | nil => exact .last [] (h j List.mem_cons_self) isGap_nil
  | cons k js ih =>
    exact .cons [] (h j List.mem_cons_self) isGap_nil
      (ih fun x hx => h x (List.mem_cons_of_mem j hx))

theorem members_compactMembers {d : Nat} {m : String × Json} {ms : List (String × Json)}
    (h : ∀ x ∈ m :: ms, Layout d x.2 (compactChars x.2)) :
    Members d (m :: ms) (stringChars m.1 ++ ':' :: (compactChars m.2 ++ compactMembers ms)) := by
  induction ms generalizing m with
  | nil => exact .last m.1 [] [] isGap_nil (h m List.mem_cons_self) isGap_nil
  | cons k ms ih =>
    exact .cons m.1 [] [] isGap_nil (h m List.mem_cons_self) isGap_nil
      (ih fun x hx => h x (List.mem_cons_of_mem m hx))

theorem Fits.layout_compact {d : Nat} {j : Json} (h : Fits d j) : Layout d j (compactChars j) := by
  induction h with
  | null => exact .null
  | bool b => exact .bool b
  | int hn => exact .int hn
  | str s => exact .str s
  | @arr d js _ ih =>
    cases js with
    | nil => exact .noItems
    | cons j js => exact .arr [] isGap_nil (items_compactItems ih)
  | @obj d ms _ ih =>
    cases ms with
    | nil => exact .noMembers
    | cons m ms => exact .obj [] isGap_nil (members_compactMembers ih)

theorem items_prettyItems {d level : Nat} {j : Json} {js : List Json}
    (h : ∀ x ∈ j :: js, Layout d x (prettyChars (level + 1) x)) :
    Items d (j :: js) (prettyChars (level + 1) j ++ prettyItems level js) := by
  induction js generalizing j with
  | nil => exact .last (lineAt level) (h j List.mem_cons_self) (isGap_lineAt level)
  | cons k js ih =>
    have hrest := ih fun x hx => h x (List.mem_cons_of_mem j hx)
    rw [prettyItems, List.append_assoc]
    exact .cons (lineAt (level + 1)) (h j List.mem_cons_self) (isGap_lineAt (level + 1)) hrest

theorem members_prettyMembers {d level : Nat} {m : String × Json} {ms : List (String × Json)}
    (h : ∀ x ∈ m :: ms, Layout d x.2 (prettyChars (level + 1) x.2)) :
    Members d (m :: ms) (stringChars m.1 ++
      ':' :: ' ' :: (prettyChars (level + 1) m.2 ++ prettyMembers level ms)) := by
  have hblank : IsGap [' '] := by simp [IsGap, isSpace]
  induction ms generalizing m with
  | nil =>
    exact .last m.1 [' '] (lineAt level) hblank (h m List.mem_cons_self) (isGap_lineAt level)
  | cons k ms ih =>
    have hrest := ih fun x hx => h x (List.mem_cons_of_mem m hx)
    rw [prettyMembers, List.append_assoc]
    exact .cons m.1 [' '] (lineAt (level + 1)) hblank (h m List.mem_cons_self)
      (isGap_lineAt (level + 1)) hrest

theorem Fits.layout_pretty {d : Nat} {j : Json} (h : Fits d j) (level : Nat) :
    Layout d j (prettyChars level j) := by
  induction h generalizing level with
  | null => exact .null
  | bool b => exact .bool b
  | int hn => exact .int hn
  | str s => exact .str s
  | @arr d js _ ih =>
    cases js with
    | nil => exact .noItems
    | cons j js =>
      rw [prettyChars, List.append_assoc]
      exact .arr (lineAt (level + 1)) (isGap_lineAt (level + 1))
        (items_prettyItems fun x hx => ih x hx (level + 1))
  | @obj d ms _ ih =>
    cases ms with
    | nil => exact .noMembers
    | cons m ms =>
      rw [prettyChars, List.append_assoc]
      exact .obj (lineAt (level + 1)) (isGap_lineAt (level + 1))
        (members_prettyMembers fun x hx => ih x hx (level + 1))

/-- A value is read back from its text on one line. -/
theorem parse?_compact {j : Json} (h : Fits depthMax j) : parse? j.compact = some j :=
  h.layout_compact.parse?_eq

/-- A value is read back from its text over several lines. -/
theorem parse?_pretty {j : Json} (h : Fits depthMax j) : parse? j.pretty = some j :=
  (h.layout_pretty 0).parse?_eq

end Runbook.Json
