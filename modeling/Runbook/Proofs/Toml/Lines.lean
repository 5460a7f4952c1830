import Runbook.Proofs.Toml.Values

/-!
# The lines of a TOML document

`Reads p cs r` says that reading the text `cs` on from `p` ends with `r`. It is built up from the
end: a line in front of a text that is read changes what it is read on from (`Reads.line`,
`Reads.members`, `Reads.header`).
-/

namespace Runbook.Toml

/-- Reading the text on from the first progress ends with the second. -/
def Reads (p : Progress) (cs : List Char) (r : Progress) : Prop :=
  ∀ fuel, cs.length < fuel → lines? fuel p cs = some r

variable {p p' r : Progress} {cs : List Char}

theorem Reads.nil (p : Progress) : Reads p [] p := by
  intro fuel hfuel
  obtain ⟨fuel, rfl⟩ : ∃ m, fuel = m + 1 := ⟨fuel - 1, by omega⟩
  rfl

/-! ### Blank lines -/

theorem endLine?_line (cs : List Char) : endLine? ('\n' :: cs) = some cs := by
  have hskip : skipBlanks ('\n' :: cs) = '\n' :: cs := by simp [skipBlanks]
  simp [endLine?, hskip, newline?]

theorem lines?_line (fuel : Nat) (p : Progress) (cs : List Char) :
    lines? (fuel + 1) p ('\n' :: cs) = lines? fuel p cs := by
  have hskip : skipBlanks ('\n' :: cs) = '\n' :: cs := by simp [skipBlanks]
  rw [lines?, hskip]
  simp [endLine?_line]

/-- A blank line changes nothing. -/
theorem reads_line_iff : Reads p ('\n' :: cs) r ↔ Reads p cs r := by
  constructor
  · intro h fuel hfuel
    rw [← lines?_line]
    exact h (fuel + 1) (by rw [List.length_cons]; omega)
  · intro h fuel hfuel
    rw [List.length_cons] at hfuel
    obtain ⟨fuel, rfl⟩ : ∃ m, fuel = m + 1 := ⟨fuel - 1, by omega⟩
    rw [lines?_line]
    exact h fuel (by omega)

/-! ### Members -/

/-- A line that starts with a character that starts a key holds a member. -/
theorem lines?_member {c : Char} {ds : List Char}
    (hc : isBare c = true ∨ c = '"' ∨ c = '\'') {t : Table}
    (h : keyValue? (2 * (c :: ds).length + 2) depthMax p.current (c :: ds) =
      some (t, '\n' :: cs)) (fuel : Nat) :
    lines? (fuel + 1) p (c :: ds) = lines? fuel { p with current := t } cs := by
  have hblank : c ≠ ' ' := ne_of_startsKey hc (by decide)
  have htab : c ≠ '\t' := ne_of_startsKey hc (by decide)
  have hbracket : c ≠ '[' := ne_of_startsKey hc (by decide)
  have hcomment : c ≠ '#' := ne_of_startsKey hc (by decide)
  have hline : c ≠ '\n' := ne_of_startsKey hc (by decide)
  have hreturn : c ≠ '\r' := ne_of_startsKey hc (by decide)
  have hskip : skipBlanks (c :: ds) = c :: ds := by simp [skipBlanks, hblank, htab]
  have hend : endLine? (c :: ds) = none := by
    simp [endLine?, hskip, hcomment, newline?_of_ne hline hreturn]
  rw [List.length_cons] at h
  rw [lines?, hskip]
  simp [hbracket, hend, h, endLine?_line]

theorem IsMember.cons {depth : Nat} {m : String × Json} {t : String} (h : IsMember depth m t) :
    ∃ c ds, t.toList = c :: ds ∧ (isBare c = true ∨ c = '"' ∨ c = '\'') := by
  obtain ⟨v, -, rfl⟩ := h
  obtain ⟨c, ds, hkey, hc⟩ := keyText_cons m.1
  exact ⟨c, _, by rw [toList_memberText, hkey]; rfl, hc⟩

/-- The lines of members. -/
def bodyChars (ts : List String) : List Char := ts.flatMap fun t => t.toList ++ ['\n']

/-- Lines of members add them to the current table. -/
theorem Reads.members {ms : List (String × Json)} {ts : List String}
    (h : List.Forall₂ (IsMember depthMax) ms ts) {root : Table} {header : Option Header}
    {es : List (String × Entry)} (hnodup : (es.map (·.1) ++ ms.map (·.1)).Nodup)
    (hrest : Reads ⟨root, header, ⟨.header, es ++ valueEntries ms⟩⟩ cs r) :
    Reads ⟨root, header, ⟨.header, es⟩⟩ (bodyChars ts ++ cs) r := by
  induction h generalizing es with
  | nil => simpa [bodyChars, valueEntries] using hrest
  | @cons m t ms ts hm _ ih =>
    have hkey : m.1 ∉ es.map (·.1) := by
      rw [List.nodup_append] at hnodup
      exact fun hmem => hnodup.2.2 _ hmem _ List.mem_cons_self rfl
    have hnext := @ih (es ++ [(m.1, .value m.2)]) (by simpa using hnodup)
      (by simpa [valueEntries] using hrest)
    obtain ⟨c, ds, ht, hc⟩ := hm.cons
    have htext : bodyChars (t :: ts) ++ cs = t.toList ++ '\n' :: (bodyChars ts ++ cs) := by
      simp [bodyChars]
    intro fuel hfuel
    obtain ⟨fuel, rfl⟩ : ∃ m, fuel = m + 1 := ⟨fuel - 1, by omega⟩
    rw [htext, List.length_append, List.length_cons] at hfuel
    have hlong : t.toList.length ≤ 2 * (t.toList ++ '\n' :: (bodyChars ts ++ cs)).length + 2 := by
      rw [List.length_append]
      omega
    have hread := hm.keyValue?_eq hkey hlong (.line (bodyChars ts ++ cs))
    rw [ht, List.cons_append] at hread
    rw [htext, ht, List.cons_append, lines?_member hc hread]
    exact hnext fuel (by omega)

/-! ### Headers -/

/-- The line of a header. -/
def headerText (path : List String) (isRow : Bool) : String :=
  if isRow then "[[" ++ pathText path ++ "]]\n" else "[" ++ pathText path ++ "]\n"

theorem length_le_pathText (path : List String) :
    path.length ≤ (pathText path).toList.length := by
  have hkey (key : String) : 1 ≤ (keyText key).toList.length := by
    obtain ⟨c, cs, htext, -⟩ := keyText_cons key
    rw [htext, List.length_cons]
    exact Nat.le_add_left _ _
  induction path with
  | nil => exact Nat.zero_le _
  | cons key path ih =>
    have := hkey key
    cases path with
    | nil =>
      rw [pathText_singleton]
      exact this
    | cons key' path =>
      rw [pathText_cons_cons, List.length_append, List.length_cons (a := '.'), List.length_cons]
      omega

/-- The closing brackets of a header. -/
def closing (isRow : Bool) : List Char := if isRow then [']', ']'] else [']']

theorem header?_pathText (isRow : Bool) (path : List String) (name : String) (cs : List Char) :
    header? isRow ((pathText (path ++ [name])).toList ++ (closing isRow ++ cs)) =
      some (⟨path, name, isRow⟩, cs) := by
  have hkey (ds : List Char) : key? (((pathText (path ++ [name])).toList ++ ']' :: ds).length + 1)
      ((pathText (path ++ [name])).toList ++ ']' :: ds) = some (path ++ [name], ']' :: ds) := by
    have hlong := length_le_pathText (path ++ [name])
    refine key?_pathText (by simp) ds ?_
    simp only [List.length_append] at hlong ⊢
    omega
  cases isRow with
  | true =>
    rw [closing, if_pos rfl, List.cons_append, List.singleton_append, header?, hkey]
    simp
  | false =>
    rw [closing, if_neg Bool.false_ne_true, List.singleton_append, header?, hkey]
    simp

theorem pathText_cons (path : List String) (name : String) :
    ∃ c ds, (pathText (path ++ [name])).toList = c :: ds ∧
      (isBare c = true ∨ c = '"' ∨ c = '\'') := by
  obtain ⟨key, path, hpath⟩ : ∃ key path', path ++ [name] = key :: path' :=
    List.exists_cons_of_ne_nil (by simp)
  obtain ⟨c, ds, hkey, hc⟩ := keyText_cons key
  rw [hpath]
  cases path with
  | nil => exact ⟨c, ds, (pathText_singleton key).trans hkey, hc⟩
  | cons key' path => exact ⟨c, _, by rw [pathText_cons_cons, hkey]; rfl, hc⟩

theorem toList_headerText (path : List String) (isRow : Bool) (cs : List Char) :
    (headerText path isRow).toList ++ cs = (if isRow then ['[', '['] else ['[']) ++
      ((pathText path).toList ++ (closing isRow ++ '\n' :: cs)) := by
  cases isRow <;> simp [headerText, closing]

/-- A header makes another table the current one. -/
theorem Reads.header {isRow : Bool} {path : List String} {name : String}
    (henter : p.enter? ⟨path, name, isRow⟩ = some p') (hrest : Reads p' cs r) :
    Reads p ((headerText (path ++ [name]) isRow).toList ++ cs) r := by
  obtain ⟨c, ds, hpath, hc⟩ := pathText_cons path name
  have hbracket : c ≠ '[' := ne_of_startsKey hc (by decide)
  have hread := header?_pathText isRow path name ('\n' :: cs)
  intro fuel hfuel
  obtain ⟨fuel, rfl⟩ : ∃ m, fuel = m + 1 := ⟨fuel - 1, by omega⟩
  have hnext : lines? fuel p' cs = some r := by
    refine hrest fuel ?_
    rw [toList_headerText] at hfuel
    simp only [List.length_append, List.length_cons] at hfuel
    omega
  rw [toList_headerText]
  rw [hpath, List.cons_append] at hread ⊢
  cases isRow with
  | true =>
    have hskip : skipBlanks (['[', '['] ++ c :: (ds ++ (closing true ++ '\n' :: cs))) =
        '[' :: '[' :: c :: (ds ++ (closing true ++ '\n' :: cs)) := by simp [skipBlanks]
    rw [if_pos rfl, lines?, hskip]
    simp only [hread, henter, endLine?_line, hnext]
  | false =>
    have hskip : skipBlanks ('[' :: c :: (ds ++ (closing false ++ '\n' :: cs))) =
        '[' :: c :: (ds ++ (closing false ++ '\n' :: cs)) := by simp [skipBlanks]
    rw [if_neg Bool.false_ne_true, List.singleton_append, lines?, hskip]
    simp [hbracket, hread, henter, endLine?_line, hnext]

end Runbook.Toml
