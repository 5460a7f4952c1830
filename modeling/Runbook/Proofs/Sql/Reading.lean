import Runbook.Sql.Statement
import Mathlib.Data.List.Forall2
import Mathlib.Tactic.SplitIfs

/-!
# Reading a condition

The clause of a statement as a database reads it: blanks and parentheses part the text into words,
parentheses come first, then AND, then OR, and what is left are comparisons, a word between two
operands. `clauseValue?` computes the truth of a clause from the truth of its comparisons.

The reader descends from disjunctions over conjunctions to operands, with fuel from the number of
words. `Chain` takes it apart for the proofs: operands that AND and OR link, read as the value of
the first conjunction and the value of the disjunction behind it.
-/

namespace Runbook.Sql

/-- A word of a condition. -/
inductive Token where
  /-- An opening parenthesis. -/
  | opening
  /-- A closing parenthesis. -/
  | closing
  /-- The word AND. -/
  | and
  /-- The word OR. -/
  | or
  /-- Any other word. -/
  | word (text : String)
deriving DecidableEq, Repr

namespace Token

/-- The token of a word. -/
def ofWord (text : String) : Token :=
  if text = "AND" then .and else if text = "OR" then .or else .word text

/-- A character that words are made of. -/
def isWordChar (c : Char) : Bool := !(Text.isBlank c || c == '(' || c == ')')

/-- The word that ends here, if one has begun. -/
def ended (word : List Char) : List Token :=
  if word.isEmpty then [] else [ofWord (String.ofList word)]

/-- The tokens of a text behind the characters of a word that has begun. -/
def scan (word : List Char) : List Char → List Token
  | [] => ended word
  | c :: cs =>
    if c = '(' then ended word ++ .opening :: scan [] cs
    else if c = ')' then ended word ++ .closing :: scan [] cs
    else if Text.isBlank c then ended word ++ scan [] cs
    else scan (word ++ [c]) cs

end Token

/-- Which comparisons are true, by their operands and their operator. -/
abbrev Assignment := List String → String → Bool

mutual

/-- The value of the longest disjunction at the start of tokens, and the tokens behind it. -/
def disjunction? (v : Assignment) : (fuel : Nat) → List Token → Option (Bool × List Token)
  | 0, _ => none
  | n + 1, ts => do
    let (x, rest) ← conjunction? v n ts
    match rest with
    | .or :: more => do
      let (y, rest) ← disjunction? v n more
      return (x || y, rest)
    | rest => return (x, rest)

/-- The value of the longest conjunction at the start of tokens, and the tokens behind it. -/
def conjunction? (v : Assignment) : (fuel : Nat) → List Token → Option (Bool × List Token)
  | 0, _ => none
  | n + 1, ts => do
    let (x, rest) ← operand? v n ts
    match rest with
    | .and :: more => do
      let (y, rest) ← conjunction? v n more
      return (x && y, rest)
    | rest => return (x, rest)

/-- The value of a comparison or of a disjunction in parentheses at the start of tokens, and the
tokens behind it. -/
def operand? (v : Assignment) : (fuel : Nat) → List Token → Option (Bool × List Token)
  | 0, _ => none
  | n + 1, .opening :: ts => do
    let (x, rest) ← disjunction? v n ts
    match rest with
    | .closing :: rest => return (x, rest)
    | _ => none
  | _ + 1, .word a :: .word operator :: .word b :: rest => some (v [a, b] operator, rest)
  | _ + 1, _ => none

end

/-- The value of a whole condition. -/
def condition? (v : Assignment) (ts : List Token) : Option Bool :=
  match disjunction? v (3 * ts.length + 3) ts with
  | some (x, []) => some x
  | _ => none

/-- The truth of a clause; nothing if it is none. -/
def clauseValue? (v : Assignment) (clause : String) : Option Bool :=
  match Token.scan [] clause.toList with
  | .word "WHERE" :: ts => condition? v ts
  | _ => none

/-! ### Chains of operands -/

/-- An operand stands at the start of tokens. -/
structure Operand (v : Assignment) (ts : List Token) (x : Bool) (rest : List Token) : Prop where
  reads : ∀ n, 3 * ts.length + 1 ≤ n → operand? v n ts = some (x, rest)
  shorter : rest.length < ts.length

/-- Nothing is linked here. -/
def Ends (ts : List Token) : Prop := ts.head? ≠ some .and ∧ ts.head? ≠ some .or

theorem ends_nil : Ends [] := ⟨by simp, by simp⟩

theorem ends_closing (ts : List Token) : Ends (.closing :: ts) := ⟨by simp, by simp⟩

/-- A chain of operands: `p` is the value of the first conjunction, `q` that of the disjunction
behind it. -/
inductive Chain (v : Assignment) : List Token → Bool → Bool → List Token → Prop where
  /-- The last operand. -/
  | last {ts rest : List Token} {x : Bool} : Operand v ts x rest → Ends rest →
      Chain v ts x false rest
  /-- An operand and AND. -/
  | and {ts us rest : List Token} {x p q : Bool} : Operand v ts x (.and :: us) →
      Chain v us p q rest → Chain v ts (x && p) q rest
  /-- An operand and OR. -/
  | or {ts us rest : List Token} {x p q : Bool} : Operand v ts x (.or :: us) →
      Chain v us p q rest → Chain v ts x (p || q) rest

/-- What the reader finds behind the first conjunction of a chain. -/
inductive Behind (v : Assignment) : List Token → Bool → List Token → Prop where
  /-- Nothing. -/
  | ends {rest : List Token} : Ends rest → Behind v rest false rest
  /-- A disjunction. -/
  | or {us rest : List Token} {q : Bool} :
      (∀ n, 3 * us.length + 3 ≤ n → disjunction? v n us = some (q, rest)) →
        Behind v (.or :: us) q rest

theorem disjunction?_of_behind {v : Assignment} {ts mid rest : List Token} {p q : Bool}
    (hp : ∀ n, 3 * ts.length + 2 ≤ n → conjunction? v n ts = some (p, mid))
    (hshort : mid.length < ts.length) (hq : Behind v mid q rest) (n : Nat)
    (hn : 3 * ts.length + 3 ≤ n) : disjunction? v n ts = some (p || q, rest) := by
  obtain ⟨n, rfl⟩ : ∃ m, n = m + 1 := ⟨n - 1, by omega⟩
  rw [disjunction?, hp n (by omega)]
  cases hq with
  | ends hends =>
    rw [Bool.or_false]
    obtain ⟨-, hor⟩ := hends
    cases mid with
    | nil => rfl
    | cons t more =>
      cases t with
      | or => exact absurd rfl hor
      | _ => rfl
  | or hus =>
    rw [List.length_cons] at hshort
    simp [hus n (by omega)]

/-- The reader finds the two values of a chain. -/
theorem Chain.conjunction? {v : Assignment} {ts rest : List Token} {p q : Bool}
    (h : Chain v ts p q rest) :
    ∃ mid, (∀ n, 3 * ts.length + 2 ≤ n → conjunction? v n ts = some (p, mid)) ∧
      mid.length < ts.length ∧ Behind v mid q rest := by
  induction h with
  | @last ts rest x hx hends =>
    refine ⟨rest, fun n hn => ?_, hx.shorter, .ends hends⟩
    obtain ⟨n, rfl⟩ : ∃ m, n = m + 1 := ⟨n - 1, by omega⟩
    rw [Sql.conjunction?, hx.reads n (by omega)]
    obtain ⟨hand, -⟩ := hends
    cases rest with
    | nil => rfl
    | cons t more =>
      cases t with
      | and => exact absurd rfl hand
      | _ => rfl
  | @and ts us rest x p q hx _ ih =>
    obtain ⟨mid, hmid, hshort, hbehind⟩ := ih
    have hlength := hx.shorter
    rw [List.length_cons] at hlength
    refine ⟨mid, fun n hn => ?_, by omega, hbehind⟩
    obtain ⟨n, rfl⟩ : ∃ m, n = m + 1 := ⟨n - 1, by omega⟩
    rw [Sql.conjunction?, hx.reads n (by omega)]
    simp [hmid n (by omega)]
  | @or ts us rest x p q hx _ ih =>
    obtain ⟨mid, hmid, hshort, hbehind⟩ := ih
    refine ⟨.or :: us, fun n hn => ?_, hx.shorter,
      .or (disjunction?_of_behind hmid hshort hbehind)⟩
    obtain ⟨n, rfl⟩ : ∃ m, n = m + 1 := ⟨n - 1, by omega⟩
    rw [Sql.conjunction?, hx.reads n (by omega)]
    rfl

theorem Chain.disjunction? {v : Assignment} {ts rest : List Token} {p q : Bool}
    (h : Chain v ts p q rest) (n : Nat) (hn : 3 * ts.length + 3 ≤ n) :
    disjunction? v n ts = some (p || q, rest) := by
  obtain ⟨mid, hmid, hshort, hbehind⟩ := h.conjunction?
  exact disjunction?_of_behind hmid hshort hbehind n hn

theorem Chain.length_lt {v : Assignment} {ts rest : List Token} {p q : Bool}
    (h : Chain v ts p q rest) : rest.length < ts.length := by
  induction h with
  | last hx _ => exact hx.shorter
  | and hx _ ih | or hx _ ih =>
    have hlength := hx.shorter
    rw [List.length_cons] at hlength
    omega

/-- A chain in parentheses is an operand. -/
theorem Chain.parenthesized {v : Assignment} {ts rest : List Token} {p q : Bool}
    (h : Chain v ts p q (.closing :: rest)) : Operand v (.opening :: ts) (p || q) rest where
  reads n hn := by
    rw [List.length_cons] at hn
    obtain ⟨n, rfl⟩ : ∃ m, n = m + 1 := ⟨n - 1, by omega⟩
    rw [operand?, h.disjunction? n (by omega)]
    rfl
  shorter := by
    have hlength := h.length_lt
    rw [List.length_cons] at hlength ⊢
    omega

theorem operand_comparison (v : Assignment) (a operator b : String) (rest : List Token) :
    Operand v (.word a :: .word operator :: .word b :: rest) (v [a, b] operator) rest where
  reads n hn := by
    obtain ⟨n, rfl⟩ : ∃ m, n = m + 1 := ⟨n - 1, by omega⟩
    rw [operand?]
  shorter := by simp; omega

/-- A chain that is all there is. -/
theorem Chain.condition? {v : Assignment} {ts : List Token} {p q : Bool}
    (h : Chain v ts p q []) : condition? v ts = some (p || q) := by
  rw [Sql.condition?, h.disjunction? _ (Nat.le_refl _)]

/-! ### Texts of tokens -/

namespace Token

/-- A word ends at the start of this text. -/
def Breaks (cs : List Char) : Prop := ∀ c ∈ cs.head?, isWordChar c = false

theorem breaks_nil : Breaks [] := by simp [Breaks]

theorem breaks_cons {c : Char} {cs : List Char} (h : isWordChar c = false) : Breaks (c :: cs) := by
  simpa [Breaks] using h

theorem scan_append {word cs : List Char} (h : ∀ c ∈ cs, isWordChar c) (rest : List Char) :
    scan word (cs ++ rest) = scan (word ++ cs) rest := by
  induction cs generalizing word with
  | nil => rw [List.nil_append, List.append_nil]
  | cons c cs ih =>
    have hc := h c List.mem_cons_self
    simp only [isWordChar, Bool.not_eq_true', Bool.or_eq_false_iff, beq_eq_false_iff_ne] at hc
    obtain ⟨⟨hblank, hopening⟩, hclosing⟩ := hc
    rw [List.cons_append, scan, if_neg hopening, if_neg hclosing, if_neg (by simp [hblank]),
      ih fun d hd => h d (List.mem_cons_of_mem c hd), List.append_assoc]
    rfl

theorem scan_breaks {word rest : List Char} (h : Breaks rest) :
    scan word rest = ended word ++ scan [] rest := by
  cases rest with
  | nil => rw [scan, scan, ended, ended, List.isEmpty_nil, if_pos rfl, List.append_nil]
  | cons c cs =>
    have hc : isWordChar c = false := by simpa [Breaks] using h
    rw [scan, scan]
    split_ifs with hopening hclosing hblank
    · rfl
    · rfl
    · rfl
    · exact absurd hc (by simp [isWordChar, hopening, hclosing, hblank])

/-- A text stands for tokens, whatever comes behind it. -/
def Scans (cs : List Char) (ts : List Token) : Prop :=
  ∀ rest, Breaks rest → scan [] (cs ++ rest) = ts ++ scan [] rest

theorem scans_word {text : String} (hne : text ≠ "") (h : ∀ c ∈ text.toList, isWordChar c) :
    Scans text.toList [ofWord text] := by
  intro rest hrest
  have hlist : text.toList ≠ [] := by simpa using hne
  rw [scan_append h, List.nil_append, scan_breaks hrest, ended, List.isEmpty_eq_false_iff.mpr hlist,
    String.ofList_toList]
  rfl

theorem Scans.parenthesized {cs : List Char} {ts : List Token} (h : Scans cs ts) :
    Scans ('(' :: (cs ++ [')'])) (.opening :: (ts ++ [.closing])) := by
  intro rest _
  have hopening : scan [] ('(' :: (cs ++ ')' :: rest)) = .opening :: scan [] (cs ++ ')' :: rest) :=
    rfl
  have hclosing : scan [] (')' :: rest) = .closing :: scan [] rest := rfl
  rw [List.cons_append, List.append_assoc, List.singleton_append, hopening,
    h _ (breaks_cons (by decide)), hclosing]
  simp

theorem scan_separator {operator : String} (hne : operator ≠ "")
    (h : ∀ c ∈ operator.toList, isWordChar c) (rest : List Char) :
    scan [] ((" " ++ operator ++ " ").toList ++ rest) = ofWord operator :: scan [] rest := by
  have hblank (cs : List Char) : scan [] (' ' :: cs) = scan [] cs := rfl
  have hlist : (" " ++ operator ++ " ").toList ++ rest =
      ' ' :: (operator.toList ++ ' ' :: rest) := by
    simp
  rw [hlist, hblank, scans_word hne h _ (breaks_cons (by decide)), hblank]
  rfl

/-- Texts that a word joins. -/
theorem Scans.intercalate (operator : String) (hne : operator ≠ "")
    (hoperator : ∀ c ∈ operator.toList, isWordChar c) {parts : List (List Char)}
    {tss : List (List Token)} (h : List.Forall₂ Scans parts tss) :
    Scans ((" " ++ operator ++ " ").toList.intercalate parts)
      ([ofWord operator].intercalate tss) := by
  induction h with
  | nil => intro rest _; rfl
  | @cons part ts parts tss hpart hparts ih =>
    cases hparts with
    | nil => simpa using hpart
    | cons hnext hparts =>
      intro rest hrest
      have hbreaks (cs : List Char) : Breaks ((" " ++ operator ++ " ").toList ++ cs) := by
        rw [String.toList_append, String.toList_append]
        exact breaks_cons (by decide)
      rw [List.intercalate_cons_cons, List.intercalate_cons_cons, List.append_assoc,
        List.append_assoc, hpart _ (hbreaks _), scan_separator hne hoperator, ih rest hrest]
      simp

end Token

end Runbook.Sql
