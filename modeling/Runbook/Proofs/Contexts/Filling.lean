import Runbook.Contexts.Placeholder
import Runbook.Proofs.Regex.Spans
import Runbook.Regex.Parser
import Mathlib.Data.List.TakeWhile
import Mathlib.Data.Nat.Find

/-!
# Filling in one pass

A placeholder is a name of word characters between braces (`mark`). Filling scans a template once
(`Scans`), and that is the same as replacing, from left to right, every match of the expression for
placeholders that does not begin inside of an earlier one (`Replaced`).

Since a name holds no brace, no placeholder overlaps another one, and a template can be filled in
parts: what stands before a placeholder, its value, and what stands behind it
(`fillChars_append_mark`). So values are not looked at again, and of nested braces the inner ones
count. Where no name has a value, nothing is changed (`fillChars_eq_self`).
-/

namespace Runbook.Contexts

open Regex (Stands stands_append_iff stands_of_drop_eq)

/-- A name of a placeholder: word characters, and at least one of them. -/
def IsName (name : List Char) : Prop := name ≠ [] ∧ ∀ c ∈ name, Text.isWord c = true

/-- The placeholder of a name. -/
def mark (name : List Char) : List Char := '{' :: (name ++ ['}'])

/-- The text that is left when a template is read once from left to right. -/
inductive Scans (context : Context) : (template out : List Char) → Prop where
  /-- Nothing is left to read. -/
  | done : Scans context [] []
  /-- A placeholder gives its value, and reading goes on behind it. -/
  | placeholder {name rest out : List Char} : IsName name → Scans context rest out →
      Scans context (mark name ++ rest) (replacement context name ++ out)
  /-- A character that begins no placeholder is kept. -/
  | copy {c : Char} {cs out : List Char} :
      (∀ name rest, IsName name → c :: cs ≠ mark name ++ rest) → Scans context cs out →
      Scans context (c :: cs) (c :: out)

variable {context context' : Context} {name cs rest out : List Char}

/-! ### Placeholders -/

theorem isWord_brace : Text.isWord '{' = false ∧ Text.isWord '}' = false := by
  decide +kernel

theorem mark_append (name rest : List Char) : mark name ++ rest = '{' :: (name ++ '}' :: rest) := by
  simp [mark]

theorem IsName.brace_not_mem (h : IsName name) : '{' ∉ name := by
  intro hmem
  have hword := h.2 '{' hmem
  rw [isWord_brace.1] at hword
  cases hword

theorem isName_singleton {c : Char} : IsName [c] ↔ Text.isWord c = true := by
  simp [IsName]

theorem placeholder?_eq_some_iff :
    placeholder? cs = some (name, rest) ↔ IsName name ∧ cs = name ++ '}' :: rest := by
  constructor
  · intro h
    unfold placeholder? at h
    split at h
    · next r hr =>
      split at h
      · cases h
      · next hne =>
        cases h
        refine ⟨⟨by simpa using hne, fun c hc => List.mem_takeWhile_imp hc⟩, ?_⟩
        rw [← hr, List.takeWhile_append_dropWhile]
    · cases h
  · rintro ⟨hname, rfl⟩
    have htake : (name ++ '}' :: rest).takeWhile Text.isWord = name := by
      rw [List.takeWhile_append_of_pos hname.2, List.takeWhile_cons_of_neg (by simp [isWord_brace]),
        List.append_nil]
    have hdrop : (name ++ '}' :: rest).dropWhile Text.isWord = '}' :: rest := by
      rw [List.dropWhile_append_of_pos hname.2, List.dropWhile_cons_of_neg (by simp [isWord_brace])]
    have hne : name.isEmpty = false := by
      rw [List.isEmpty_eq_false_iff]
      exact hname.1
    rw [placeholder?, hdrop]
    simp [htake, hne]

/-- What stands before an opening brace begins a placeholder by itself or not at all. -/
theorem exists_of_append_brace {c : Char} {tail : List Char} (hname : IsName name)
    (h : c :: cs ++ '{' :: tail = mark name ++ rest) : ∃ r, c :: cs = mark name ++ r := by
  rw [mark_append, List.cons_append, List.cons.injEq] at h
  obtain ⟨rfl, h⟩ := h
  rcases List.append_eq_append_iff.mp h with ⟨piece, hpiece, htail⟩ | ⟨piece, hpiece, htail⟩
  · cases piece with
    | nil => cases htail
    | cons d piece =>
      cases htail
      exact absurd (hpiece ▸ List.mem_append_right cs List.mem_cons_self) hname.brace_not_mem
  · cases piece with
    | nil => cases htail
    | cons d piece =>
      cases htail
      exact ⟨piece, by rw [mark_append, hpiece]⟩

/-! ### Scanning -/

theorem fillChars_mark_append (hname : IsName name) (rest : List Char) :
    fillChars context (mark name ++ rest) = replacement context name ++ fillChars context rest := by
  have hread : placeholder? (name ++ '}' :: rest) = some (name, rest) :=
    placeholder?_eq_some_iff.mpr ⟨hname, rfl⟩
  rw [mark_append, fillChars, if_pos rfl]
  split
  · next found left hfound =>
    rw [hread] at hfound
    cases hfound
    rfl
  · next hnone =>
    rw [hread] at hnone
    cases hnone

theorem fillChars_cons {c : Char} (h : ∀ name rest, IsName name → c :: cs ≠ mark name ++ rest) :
    fillChars context (c :: cs) = c :: fillChars context cs := by
  rw [fillChars]
  split
  · next hc =>
    split
    · next name rest hfound =>
      obtain ⟨hname, rfl⟩ := placeholder?_eq_some_iff.mp hfound
      exact absurd (by rw [hc, mark_append]) (h name rest hname)
    · rfl
  · rfl

theorem scans_fillChars (context : Context) (template : List Char) :
    Scans context template (fillChars context template) := by
  fun_induction fillChars context template with
  | case1 => exact .done
  | case2 cs name rest hfound ih =>
    obtain ⟨hname, rfl⟩ := placeholder?_eq_some_iff.mp hfound
    rw [← mark_append]
    exact .placeholder hname ih
  | case3 cs hnone ih =>
    refine .copy (fun name rest hname heq => ?_) ih
    rw [mark_append, List.cons.injEq] at heq
    rw [placeholder?_eq_some_iff.mpr ⟨hname, heq.2⟩] at hnone
    cases hnone
  | case4 c cs hc ih =>
    refine .copy (fun name rest hname heq => ?_) ih
    rw [mark_append, List.cons.injEq] at heq
    exact hc heq.1

/-- A template is filled by reading it once. -/
theorem scans_iff {template : List Char} :
    Scans context template out ↔ out = fillChars context template := by
  constructor
  · intro h
    induction h with
    | done => rw [fillChars]
    | placeholder hname _ ih => rw [fillChars_mark_append hname, ih]
    | copy hc _ ih => rw [fillChars_cons hc, ih]
  · rintro rfl
    exact scans_fillChars context template

/-- A template reads its context by names only. -/
theorem Scans.congr (h : ∀ name, Json.lookup? name context = Json.lookup? name context')
    {template : List Char} (hscans : Scans context template out) : Scans context' template out := by
  induction hscans with
  | done => exact .done
  | @placeholder name rest out hname _ ih =>
    have hreplacement : replacement context name = replacement context' name := by
      rw [replacement, replacement, h]
    rw [hreplacement]
    exact .placeholder hname ih
  | copy hc _ ih => exact .copy hc ih

/-- **A template is filled in parts**, before a placeholder and behind it. -/
theorem fillChars_append_mark (hname : IsName name) (before after : List Char) :
    fillChars context (before ++ mark name ++ after) =
      fillChars context before ++ replacement context name ++ fillChars context after := by
  have h := scans_fillChars context before
  generalize fillChars context before = out at h
  induction h with
  | done => exact fillChars_mark_append hname after
  | placeholder hfirst _ ih =>
    rw [List.append_assoc, List.append_assoc, fillChars_mark_append hfirst, ← List.append_assoc, ih]
    simp only [List.append_assoc]
  | copy hc _ ih =>
    rw [List.cons_append, List.cons_append, fillChars_cons, ih]
    · rfl
    · intro n r hn heq
      rw [← List.cons_append, ← List.cons_append, List.append_assoc, mark_append name] at heq
      obtain ⟨r', hr'⟩ := exists_of_append_brace hn heq
      exact hc n r' hn hr'

/-- Where no name has a value, nothing is changed. -/
theorem fillChars_eq_self {template : List Char} (h : ∀ name, IsName name →
    mark name <:+: template → Json.lookup? (String.ofList name) context = none) :
    fillChars context template = template := by
  have hscans := scans_fillChars context template
  generalize fillChars context template = out at hscans
  induction hscans with
  | done => rfl
  | @placeholder name rest out hname _ ih =>
    have hunknown := h name hname ⟨[], rest, rfl⟩
    have hreplacement : replacement context name = mark name := by
      rw [replacement, hunknown]
      rfl
    rw [hreplacement, ih fun n hn hmet => h n hn (hmet.trans (List.suffix_append _ _).isInfix)]
  | @copy c cs out _ _ ih =>
    rw [ih fun n hn hmet => h n hn (List.infix_cons hmet)]

/-! ### Replacing -/

/-- The expression for placeholders, as it is read. -/
def placeholderRegex : Regex :=
  .seq (Regex.literal false '{')
    (.seq (.seq (.repeated (.char ⟨[.category .word false], false, false⟩) 1 none) .empty)
      (.seq (Regex.literal false '}') .empty))

theorem parse?_placeholder : Regex.parse? "\\\x7b(\\w+)\\\x7d" = some placeholderRegex := by
  rfl

/-- The text that is left when, from a place on, the leftmost match of the expression is replaced,
and the next one behind its end, until none is left. -/
inductive Replaced (r : Regex) (value : List Char → List Char) (text : Array Char) :
    (i : Nat) → (out : List Char) → Prop where
  /-- There is no match from here on. -/
  | rest {i : Nat} : (∀ j k, i ≤ j → ¬ r.Spans text j k) →
      Replaced r value text i (text.toList.drop i)
  /-- The next match gives its value, and what stands before it is kept. -/
  | next {i j k : Nat} {before found out : List Char} : Stands text i before j →
      Stands text j found k → r.Spans text j k →
      (∀ j' k', i ≤ j' → j' < j → ¬ r.Spans text j' k') → Replaced r value text k out →
      Replaced r value text i (before ++ value found ++ out)

/-- The value of a placeholder that was found. -/
def valueOf (context : Context) (found : List Char) : List Char :=
  replacement context found.tail.dropLast

variable {text : Array Char}

theorem contains_literal (c d : Char) :
    Regex.CharClass.contains ⟨[.range c c], false, false⟩ d = true ↔ d = c := by
  simp [Regex.CharClass.contains, Regex.contains_range_self]

theorem contains_word (c : Char) :
    Regex.CharClass.contains ⟨[.category .word false], false, false⟩ c = Text.isWord c := by
  simp [Regex.CharClass.contains, Regex.ClassItem.contains, Regex.Category.contains]

/-- The expression matches placeholders. -/
theorem spans_placeholder_iff {i k : Nat} :
    placeholderRegex.Spans text i k ↔ ∃ name, IsName name ∧ Stands text i (mark name) k := by
  have hspans : placeholderRegex.Spans text i k ↔ ∃ j, (∃ c, Stands text i [c] j ∧ c = '{') ∧
      ∃ l, (∃ name, name ≠ [] ∧ Stands text j name l ∧ ∀ c ∈ name, Text.isWord c = true) ∧
        ∃ c, Stands text l [c] k ∧ c = '}' := by
    simp only [placeholderRegex, Regex.literal, Regex.spans_empty_iff, Regex.spans_seq_iff,
      Regex.spans_char_iff, Regex.spans_run_iff, contains_literal, contains_word, exists_eq_right]
  rw [hspans]
  constructor
  · rintro ⟨j, ⟨_, hopen, rfl⟩, l, ⟨name, hne, hname, hword⟩, _, hclose, rfl⟩
    refine ⟨name, ⟨hne, hword⟩, ?_⟩
    have hrest : Stands text j (name ++ ['}']) k := stands_append_iff.mpr ⟨l, hname, hclose⟩
    exact stands_append_iff.mpr ⟨j, hopen, hrest⟩
  · rintro ⟨name, ⟨hne, hword⟩, hmark⟩
    have hwhole : Stands text i (['{'] ++ (name ++ ['}'])) k := hmark
    obtain ⟨j, hopen, hrest⟩ := stands_append_iff.mp hwhole
    obtain ⟨l, hname, hclose⟩ := stands_append_iff.mp hrest
    exact ⟨j, ⟨_, hopen, rfl⟩, l, ⟨name, hne, hname, hword⟩, _, hclose, rfl⟩

/-- Where no match begins, there is no placeholder. -/
theorem not_infix_of_not_spans {i j : Nat} {piece : List Char} (hpiece : Stands text i piece j)
    (hnone : ∀ j' k', i ≤ j' → j' < j → ¬ placeholderRegex.Spans text j' k') (hname : IsName name) :
    ¬ mark name <:+: piece := by
  rintro ⟨a, b, rfl⟩
  obtain ⟨m, hm, hb⟩ := stands_append_iff.mp hpiece
  obtain ⟨l, ha, hmark⟩ := stands_append_iff.mp hm
  have hlength : 0 < (mark name).length := Nat.succ_pos _
  have h1 := ha.2
  have h2 := hmark.2
  have h3 := hb.2
  refine hnone l m (by omega) (by omega) ?_
  exact spans_placeholder_iff.mpr ⟨name, hname, hmark⟩

theorem fillChars_of_replaced {i : Nat}
    (h : Replaced placeholderRegex (valueOf context) text i out) :
    out = fillChars context (text.toList.drop i) := by
  induction h with
  | @rest i hnone =>
    have hstands := stands_of_drop_eq (List.append_nil (text.toList.drop i)).symm
    rw [fillChars_eq_self]
    intro name hname hmet
    exact absurd hmet (not_infix_of_not_spans hstands (fun j k hj _ => hnone j k hj) hname)
  | @next i j k before found out hbefore hfound hspan hfirst _ ih =>
    obtain ⟨name, hname, hmark⟩ := spans_placeholder_iff.mp hspan
    obtain rfl := hfound.unique hmark
    have hkept : fillChars context before = before := by
      refine fillChars_eq_self fun n hn hmet => ?_
      exact absurd hmet (not_infix_of_not_spans hbefore hfirst hn)
    have hvalue : valueOf context (mark name) = replacement context name := by
      rw [valueOf, mark, List.tail_cons, List.dropLast_concat]
    rw [hbefore.1, hfound.1, ← List.append_assoc, fillChars_append_mark hname, hkept, hvalue, ih]

theorem exists_replaced (context : Context) (text : Array Char) (i : Nat) :
    ∃ out, Replaced placeholderRegex (valueOf context) text i out := by
  classical
  induction hn : text.size - i using Nat.strong_induction_on generalizing i with
  | h n ih =>
    by_cases hmatch : ∃ j, i ≤ j ∧ ∃ k, placeholderRegex.Spans text j k
    · -- the first place from which a match leads anywhere
      obtain ⟨hij, k, hspan⟩ := Nat.find_spec hmatch
      have hfirst : ∀ j' k', i ≤ j' → j' < Nat.find hmatch →
          ¬ placeholderRegex.Spans text j' k' := by
        intro j' k' hj' hlt hspan'
        exact Nat.find_min hmatch hlt ⟨hj', k', hspan'⟩
      obtain ⟨name, hname, hmark⟩ := spans_placeholder_iff.mp hspan
      have hforward := Regex.forward_spans text placeholderRegex _ _ hspan
      have hlength : 0 < (mark name).length := Nat.succ_pos _
      have hk := hmark.2
      obtain ⟨before, hbefore⟩ := Regex.exists_stands hij (show _ ≤ text.size by omega)
      obtain ⟨out, hout⟩ := ih (text.size - k) (by omega) k rfl
      exact ⟨_, .next hbefore hmark hspan hfirst hout⟩
    · exact ⟨_, .rest fun j k hj hspan => hmatch ⟨j, hj, k, hspan⟩⟩

theorem replaced_iff {i : Nat} : Replaced placeholderRegex (valueOf context) text i out ↔
    out = fillChars context (text.toList.drop i) := by
  constructor
  · exact fillChars_of_replaced
  · rintro rfl
    obtain ⟨out, hout⟩ := exists_replaced context text i
    rwa [← fillChars_of_replaced hout]

/-! ### Templates -/

/-- The text that a placeholder of the name leaves. -/
def valueText (context : Context) (name : String) : String :=
  match Json.lookup? name context with
  | some j => plainText j
  | none => "\x7b" ++ name ++ "\x7d"

theorem toList_valueText (context : Context) (name : String) :
    (valueText context name).toList = replacement context name.toList := by
  unfold valueText replacement
  rw [String.ofList_toList]
  cases Json.lookup? name context with
  | some j => rfl
  | none => simp

theorem toList_fill (template : String) (context : Context) :
    (fill template context).toList = fillChars context template.toList := by
  rw [fill, String.toList_ofList]

theorem fill_congr (h : ∀ name, Json.lookup? name context = Json.lookup? name context')
    (template : String) : fill template context = fill template context' := by
  rw [← String.toList_inj, toList_fill, toList_fill]
  exact scans_iff.mp ((scans_fillChars context template.toList).congr h)

theorem toList_mark (name : String) : ("\x7b" ++ name ++ "\x7d").toList = mark name.toList := by
  simp [mark]

theorem fill_mark {name : String} (hname : IsName name.toList) (context : Context) :
    fill ("\x7b" ++ name ++ "\x7d") context = valueText context name := by
  rw [← String.toList_inj, toList_fill, toList_mark, ← List.append_nil (mark name.toList),
    fillChars_mark_append hname, fillChars, List.append_nil, toList_valueText]

end Runbook.Contexts
