import Runbook.Proofs.Sql.Reading
import Mathlib.Data.List.Basic

/-!
# What a clause says

The members of a group stand in parentheses, the conditions of a clause do not: AND links the first
and the last member of a disjunction to the conditions beside it, and the disjunction falls apart.

`link` is the reading of one condition in front of others. The chain of a clause is put together
from it (`clauseValue?_whereClause`), and what follows is about truth values alone. A clause is
true wherever all of its conditions are. It is true nowhere else if it is `Guarded`: it has one
condition, or no disjunction among its conditions. A clause that is not guarded is right only where
its conditions repeat each other's comparisons.
-/

namespace Runbook.Sql

/-! ### Conditions that can be read -/

/-- A word that can be an operand or an operator of a comparison. -/
def IsName (text : String) : Prop :=
  text ≠ "" ∧ text ≠ "AND" ∧ text ≠ "OR" ∧ text.toList.all Token.isWordChar

instance : DecidablePred IsName := fun _ => inferInstanceAs (Decidable (_ ∧ _))

theorem IsName.isWordChar {text : String} (h : IsName text) :
    ∀ c ∈ text.toList, Token.isWordChar c := by
  obtain ⟨-, -, -, hchars⟩ := h
  exact List.all_eq_true.mp hchars

theorem Token.ofWord_eq_word {text : String} (h : IsName text) : ofWord text = .word text := by
  obtain ⟨-, hand, hor, -⟩ := h
  rw [ofWord, if_neg hand, if_neg hor]

namespace Condition

/-- Comparisons of two operands, and groups of them that AND or OR joins. -/
inductive Proper : Condition → Prop where
  /-- A comparison. -/
  | compare {a operator b : String} : IsName a → IsName operator → IsName b →
      Proper (.compare [a, b] operator)
  /-- A group with a member. -/
  | group {conditions : List Condition} {operator : String} : conditions ≠ [] →
      operator = "AND" ∨ operator = "OR" → (∀ c ∈ conditions, Proper c) →
      Proper (.group conditions operator)

end Condition

/-- What an operator makes of the values it joins. -/
def joined (operator : String) (xs : List Bool) : Bool :=
  if operator = "OR" then xs.or else xs.and

namespace Condition

mutual

/-- The comparisons in a condition, by their operands and their operator. -/
def comparisons : Condition → List (List String × String)
  | .compare operands operator => [(operands, operator)]
  | .group conditions _ => memberComparisons conditions
termination_by structural c => c

/-- The comparisons in the members of a group. -/
def memberComparisons : List Condition → List (List String × String)
  | [] => []
  | c :: cs => c.comparisons ++ memberComparisons cs
termination_by structural cs => cs

end

mutual

/-- The value of a condition. -/
def holds (v : Assignment) : Condition → Bool
  | .compare operands operator => v operands operator
  | .group conditions operator => joined operator (memberValues v conditions)
termination_by structural c => c

/-- The values of the members of a group. -/
def memberValues (v : Assignment) : List Condition → List Bool
  | [] => []
  | c :: cs => c.holds v :: memberValues v cs
termination_by structural cs => cs

end

mutual

/-- The words of a condition. -/
def tokens : Condition → List Token
  | .compare operands operator =>
    [Token.ofWord operator].intercalate (operands.map fun a => [Token.ofWord a])
  | .group conditions operator => [Token.ofWord operator].intercalate (memberTokens conditions)
termination_by structural c => c

/-- The words of the members of a group, each in parentheses. -/
def memberTokens : List Condition → List (List Token)
  | [] => []
  | c :: cs => (.opening :: (c.tokens ++ [.closing])) :: memberTokens cs
termination_by structural cs => cs

end

theorem memberComparisons_eq (cs : List Condition) :
    memberComparisons cs = cs.flatMap comparisons := by
  induction cs with
  | nil => rfl
  | cons c cs ih => rw [memberComparisons, ih, List.flatMap_cons]

theorem memberValues_eq (v : Assignment) (cs : List Condition) :
    memberValues v cs = cs.map (holds v) := by
  induction cs with
  | nil => rfl
  | cons c cs ih => rw [memberValues, ih, List.map_cons]

theorem memberTokens_eq (cs : List Condition) :
    memberTokens cs = cs.map fun c => .opening :: (c.tokens ++ [.closing]) := by
  induction cs with
  | nil => rfl
  | cons c cs ih => rw [memberTokens, ih, List.map_cons]

theorem renderMembers_eq (cs : List Condition) :
    renderMembers cs = cs.map fun c => "(" ++ c.render ++ ")" := by
  induction cs with
  | nil => rfl
  | cons c cs ih => rw [renderMembers, ih, List.map_cons]

end Condition

theorem isWordChar_operator {operator : String} (h : operator = "AND" ∨ operator = "OR") :
    operator ≠ "" ∧ ∀ c ∈ operator.toList, Token.isWordChar c := by
  obtain rfl | rfl := h
  · exact ⟨by decide, List.all_eq_true.mp (by decide)⟩
  · exact ⟨by decide, List.all_eq_true.mp (by decide)⟩

/-- The text of a condition stands for its words. -/
theorem Condition.Proper.scans {c : Condition} (h : c.Proper) :
    Token.Scans c.render.toList c.tokens := by
  induction h with
  | @compare a operator b ha hoperator hb =>
    rw [render, tokens, String.toList_intercalate]
    exact Token.Scans.intercalate operator hoperator.1 hoperator.isWordChar
      (.cons (Token.scans_word ha.1 ha.isWordChar)
        (.cons (Token.scans_word hb.1 hb.isWordChar) .nil))
  | @group conditions operator hne hoperator _ ih =>
    obtain ⟨hone, hochars⟩ := isWordChar_operator hoperator
    rw [render, tokens, String.toList_intercalate, renderMembers_eq, memberTokens_eq, List.map_map]
    refine Token.Scans.intercalate operator hone hochars ?_
    rw [List.forall₂_map_left_iff, List.forall₂_map_right_iff, List.forall₂_same]
    intro c hc
    simpa using (ih c hc).parenthesized

/-! ### The reading of a condition in front of others -/

/-- The two values of operands in front of a chain with the values `t`: the operator links them
with each other, and AND links the last one to the chain. -/
def link (operator : String) : List Bool → Bool × Bool → Bool × Bool
  | [], t => t
  | [x], t => (x && t.1, t.2)
  | x :: y :: xs, t =>
    let r := link operator (y :: xs) t
    if operator = "OR" then (x, r.1 || r.2) else (x && r.1, r.2)

/-- The two values of a condition in front of a chain with the values `t`. -/
def Condition.linked (v : Assignment) : Condition → Bool × Bool → Bool × Bool
  | .compare operands operator, t => (v operands operator && t.1, t.2)
  | .group conditions operator, t => link operator (memberValues v conditions) t

/-- The two values of conditions that AND joins. -/
def linkAll (v : Assignment) (cs : List Condition) : Bool × Bool :=
  cs.foldr (Condition.linked v) (true, false)

/-- What is behind a condition: nothing, or AND and a chain with the values `t`. -/
inductive Tail (v : Assignment) : List Token → Bool × Bool → List Token → Prop where
  /-- Nothing. -/
  | ends {rest : List Token} : Ends rest → Tail v rest (true, false) rest
  /-- AND and a chain. -/
  | and {us rest : List Token} {p q : Bool} : Chain v us p q rest →
      Tail v (.and :: us) (p, q) rest

theorem Operand.chain {v : Assignment} {ts mid rest : List Token} {x : Bool} {t : Bool × Bool}
    (hx : Operand v ts x mid) (ht : Tail v mid t rest) : Chain v ts (x && t.1) t.2 rest := by
  cases ht with
  | ends hends =>
    rw [Bool.and_true]
    exact .last hx hends
  | and hchain => exact .and hx hchain

/-- Operands that AND or OR joins, in front of something. -/
theorem chain_link {v : Assignment} {operator : String}
    (hoperator : operator = "AND" ∨ operator = "OR") {tss : List (List Token)} {xs : List Bool}
    (h : List.Forall₂ (fun ts x => ∀ rest, Operand v (ts ++ rest) x rest) tss xs)
    (hne : xs ≠ []) {mid rest : List Token} {t : Bool × Bool} (ht : Tail v mid t rest) :
    Chain v ([Token.ofWord operator].intercalate tss ++ mid) (link operator xs t).1
      (link operator xs t).2 rest := by
  induction h with
  | nil => exact absurd rfl hne
  | @cons ts x tss xs hx hxs ih =>
    cases hxs with
    | nil =>
      rw [List.intercalate_singleton]
      exact (hx mid).chain ht
    | cons hy hxs =>
      have hchain := ih (by simp)
      rw [List.intercalate_cons_cons, List.append_assoc, List.append_assoc, List.singleton_append]
      obtain rfl | rfl := hoperator
      · exact .and (hx _) hchain
      · exact .or (hx _) hchain

theorem link_and {operator : String} (h : operator ≠ "OR") (xs : List Bool) (t : Bool × Bool) :
    link operator xs t = (xs.and && t.1, t.2) := by
  induction xs with
  | nil => rfl
  | cons x xs ih =>
    cases xs with
    | nil => simp [link]
    | cons y xs =>
      rw [link, if_neg h, ih]
      simp only [List.and_cons, Bool.and_assoc]

/-- Operands with nothing behind them have the value that their operator makes of them. -/
theorem link_alone (operator : String) {xs : List Bool} (hne : xs ≠ []) :
    ((link operator xs (true, false)).1 || (link operator xs (true, false)).2) =
      joined operator xs := by
  by_cases h : operator = "OR"
  · subst h
    induction xs with
    | nil => exact absurd rfl hne
    | cons x xs ih =>
      cases xs with
      | nil => simp [link, joined]
      | cons y xs =>
        rw [link, if_pos rfl, ih (by simp)]
        simp [joined]
  · rw [link_and h, joined, if_neg h, Bool.and_true, Bool.or_false]

/-- True operands in front of a true chain make a true chain. -/
theorem link_true {operator : String} {xs : List Bool} {t : Bool × Bool}
    (hxs : joined operator xs = true) (ht : (t.1 || t.2) = true) :
    ((link operator xs t).1 || (link operator xs t).2) = true := by
  by_cases h : operator = "OR"
  · subst h
    induction xs with
    | nil => simp [joined] at hxs
    | cons x xs ih =>
      cases xs with
      | nil =>
        have hx : x = true := by simpa [joined] using hxs
        simpa [link, hx] using ht
      | cons y xs =>
        rw [link, if_pos rfl]
        cases x with
        | true => rw [Bool.true_or]
        | false =>
          rw [Bool.false_or]
          exact ih (by simpa [joined] using hxs)
  · rw [joined, if_neg h] at hxs
    rw [link_and h, hxs, Bool.true_and]
    exact ht

/-- A true disjunction behind the first conjunction stays true. -/
theorem link_snd (operator : String) (xs : List Bool) {t : Bool × Bool} (ht : t.2 = true) :
    (link operator xs t).2 = true := by
  induction xs with
  | nil => exact ht
  | cons x xs ih =>
    cases xs with
    | nil => exact ht
    | cons y xs =>
      rw [link]
      split
      · rw [ih, Bool.or_true]
      · exact ih

namespace Condition

theorem linked_alone {v : Assignment} {c : Condition} (h : c.Proper) :
    ((c.linked v (true, false)).1 || (c.linked v (true, false)).2) = c.holds v := by
  cases h with
  | compare => simp [linked, holds]
  | group hne =>
    rw [linked, holds, link_alone]
    simpa [memberValues_eq] using hne

theorem linked_true {v : Assignment} {c : Condition} {t : Bool × Bool} (hc : c.holds v = true)
    (ht : (t.1 || t.2) = true) : ((c.linked v t).1 || (c.linked v t).2) = true := by
  cases c with
  | compare operands operator =>
    rw [holds] at hc
    rwa [linked, hc, Bool.true_and]
  | group conditions operator =>
    rw [holds] at hc
    exact link_true hc ht

theorem linked_snd (v : Assignment) (c : Condition) {t : Bool × Bool} (ht : t.2 = true) :
    (c.linked v t).2 = true := by
  cases c with
  | compare => exact ht
  | group conditions operator => exact link_snd operator _ ht

/-- The words of a condition in front of something are a chain. -/
theorem Proper.chain {v : Assignment} {c : Condition} (h : c.Proper) {mid rest : List Token}
    {t : Bool × Bool} (ht : Tail v mid t rest) :
    Chain v (c.tokens ++ mid) (c.linked v t).1 (c.linked v t).2 rest := by
  induction h generalizing mid rest t with
  | @compare a operator b ha hoperator hb =>
    have htokens : (Condition.compare [a, b] operator).tokens =
        [.word a, .word operator, .word b] := by
      simp [tokens, Token.ofWord_eq_word ha, Token.ofWord_eq_word hoperator,
        Token.ofWord_eq_word hb]
    rw [htokens]
    exact (operand_comparison v a operator b mid).chain ht
  | @group conditions operator hne hoperator hproper ih =>
    rw [tokens, linked, memberTokens_eq, memberValues_eq]
    refine chain_link hoperator ?_ (by simpa using hne) ht
    rw [List.forall₂_map_left_iff, List.forall₂_map_right_iff, List.forall₂_same]
    intro c hc rest
    -- a member is read between its parentheses, where nothing is behind it
    have hmember := ih c hc (.ends (ends_closing rest))
    have hoperand := hmember.parenthesized
    rw [linked_alone (hproper c hc)] at hoperand
    simpa using hoperand

end Condition

theorem linkAll_cons (v : Assignment) (c : Condition) (cs : List Condition) :
    linkAll v (c :: cs) = c.linked v (linkAll v cs) := rfl

theorem chain_linkAll {v : Assignment} {cs : List Condition} (hne : cs ≠ [])
    (hproper : ∀ c ∈ cs, c.Proper) :
    Chain v ([Token.and].intercalate (cs.map Condition.tokens)) (linkAll v cs).1
      (linkAll v cs).2 [] := by
  induction cs with
  | nil => exact absurd rfl hne
  | cons c cs ih =>
    have hc : c.Proper := hproper c List.mem_cons_self
    cases cs with
    | nil =>
      have hchain := hc.chain (Tail.ends (v := v) ends_nil)
      rw [List.append_nil] at hchain
      rw [List.map_singleton, List.intercalate_singleton]
      exact hchain
    | cons d cs =>
      have hrest := ih (by simp) fun e he => hproper e (List.mem_cons_of_mem c he)
      rw [List.map_cons] at hrest
      rw [List.map_cons, List.map_cons, List.intercalate_cons_cons, List.append_assoc, linkAll_cons]
      exact hc.chain (.and hrest)

/-! ### The text of a clause -/

/-- The clause without the blank at its end. -/
def restriction (cs : List Condition) : String :=
  "WHERE " ++ " AND ".intercalate (cs.map Condition.render)

theorem whereClause_eq {cs : List Condition} (hne : cs ≠ []) :
    whereClause cs = restriction cs ++ " " := by
  rw [whereClause, List.isEmpty_eq_false_iff.mpr hne, restriction]
  rfl

theorem scans_restriction {cs : List Condition} (hproper : ∀ c ∈ cs, c.Proper) :
    Token.Scans (restriction cs).toList
      (.word "WHERE" :: [Token.and].intercalate (cs.map Condition.tokens)) := by
  have hforall : List.Forall₂ Token.Scans ((cs.map Condition.render).map String.toList)
      (cs.map Condition.tokens) := by
    rw [List.map_map, List.forall₂_map_left_iff, List.forall₂_map_right_iff, List.forall₂_same]
    exact fun c hc => (hproper c hc).scans
  obtain ⟨hand, hchars⟩ := isWordChar_operator (.inl rfl)
  have hparts := Token.Scans.intercalate "AND" hand hchars hforall
  have hword : Token.ofWord "AND" = .and := rfl
  have hjoin : " " ++ "AND" ++ " " = " AND " := rfl
  rw [hword, hjoin] at hparts
  intro rest hrest
  rw [restriction, String.toList_append, String.toList_intercalate, List.append_assoc]
  have hwhere (more : List Char) :
      Token.scan [] ("WHERE ".toList ++ more) = .word "WHERE" :: Token.scan [] more := rfl
  rw [hwhere, hparts rest hrest]
  rfl

/-- The truth of a clause is that of the chain of its conditions. -/
theorem clauseValue?_of_scans {v : Assignment} {text : String} {cs : List Condition}
    (htext : Token.scan [] text.toList =
      .word "WHERE" :: [Token.and].intercalate (cs.map Condition.tokens))
    (hne : cs ≠ []) (hproper : ∀ c ∈ cs, c.Proper) :
    clauseValue? v text = some ((linkAll v cs).1 || (linkAll v cs).2) := by
  rw [clauseValue?, htext]
  exact (chain_linkAll hne hproper).condition?

theorem clauseValue?_restriction {v : Assignment} {cs : List Condition} (hne : cs ≠ [])
    (hproper : ∀ c ∈ cs, c.Proper) :
    clauseValue? v (restriction cs) = some ((linkAll v cs).1 || (linkAll v cs).2) := by
  refine clauseValue?_of_scans ?_ hne hproper
  have hscan := scans_restriction hproper [] Token.breaks_nil
  simpa [Token.scan, Token.ended] using hscan

theorem clauseValue?_whereClause {v : Assignment} {cs : List Condition} (hne : cs ≠ [])
    (hproper : ∀ c ∈ cs, c.Proper) :
    clauseValue? v (whereClause cs) = some ((linkAll v cs).1 || (linkAll v cs).2) := by
  refine clauseValue?_of_scans ?_ hne hproper
  have hscan := scans_restriction hproper [' '] (Token.breaks_cons (by decide))
  rw [whereClause_eq hne, String.toList_append]
  exact hscan.trans (List.append_nil _)

/-! ### Clauses that say what they should -/

/-- A group of several members that OR joins. -/
def Condition.IsDisjunction (c : Condition) : Prop := ∃ x y cs, c = .group (x :: y :: cs) "OR"

/-- No condition can fall apart: there is only one, or none is a disjunction. -/
def Guarded (cs : List Condition) : Prop := cs.length = 1 ∨ ∀ c ∈ cs, ¬ c.IsDisjunction

theorem Condition.Proper.linked_eq {v : Assignment} {c : Condition} (h : c.Proper)
    (hor : ¬ c.IsDisjunction) (t : Bool × Bool) : c.linked v t = (c.holds v && t.1, t.2) := by
  cases h with
  | compare => rfl
  | @group conditions operator hne _ _ =>
    rw [linked, holds]
    by_cases hoperator : operator = "OR"
    · subst hoperator
      cases conditions with
      | nil => exact absurd rfl hne
      | cons x cs =>
        cases cs with
        | nil => simp [memberValues, link, joined]
        | cons y cs => exact absurd ⟨x, y, cs, rfl⟩ hor
    · rw [link_and hoperator, joined, if_neg hoperator]

theorem linkAll_of_guarded {v : Assignment} {cs : List Condition} (hproper : ∀ c ∈ cs, c.Proper)
    (h : Guarded cs) :
    ((linkAll v cs).1 || (linkAll v cs).2) = cs.all (Condition.holds v) := by
  obtain hlength | hor := h
  · obtain ⟨c, rfl⟩ := List.length_eq_one_iff.mp hlength
    have hc := Condition.linked_alone (v := v) (hproper c List.mem_cons_self)
    simpa [linkAll] using hc
  · have hall : linkAll v cs = (cs.all (Condition.holds v), false) := by
      induction cs with
      | nil => rfl
      | cons c cs ih =>
        have hc : c.Proper := hproper c List.mem_cons_self
        rw [linkAll_cons, hc.linked_eq (hor c List.mem_cons_self),
          ih (fun d hd => hproper d (List.mem_cons_of_mem c hd))
            fun d hd => hor d (List.mem_cons_of_mem c hd), List.all_cons]
    rw [hall, Bool.or_false]

/-! ### Clauses that say less -/

theorem foldr_linked_true {v : Assignment} {cs : List Condition} {t : Bool × Bool}
    (hcs : ∀ c ∈ cs, c.holds v = true) (ht : (t.1 || t.2) = true) :
    ((cs.foldr (Condition.linked v) t).1 || (cs.foldr (Condition.linked v) t).2) = true := by
  induction cs with
  | nil => exact ht
  | cons c cs ih =>
    rw [List.foldr_cons]
    exact Condition.linked_true (hcs c List.mem_cons_self)
      (ih fun d hd => hcs d (List.mem_cons_of_mem c hd))

theorem foldr_linked_snd (v : Assignment) (cs : List Condition) {t : Bool × Bool}
    (ht : t.2 = true) : (cs.foldr (Condition.linked v) t).2 = true := by
  induction cs with
  | nil => exact ht
  | cons c cs ih =>
    rw [List.foldr_cons]
    exact c.linked_snd v ih

theorem joined_eq {operator : String} {xs : List Bool} {b : Bool} (hne : xs ≠ [])
    (h : ∀ x ∈ xs, x = b) : joined operator xs = b := by
  have hlength : xs.length ≠ 0 := by simpa using hne
  rw [List.eq_replicate_of_mem h, joined]
  cases b <;> simp [List.or, List.and, List.any_replicate, List.all_replicate, hlength]

/-- Where all comparisons of a condition have one value, it has this value too. -/
theorem Condition.Proper.holds_eq {v : Assignment} {c : Condition} {b : Bool} (h : c.Proper)
    (hv : ∀ x ∈ c.comparisons, v x.1 x.2 = b) : c.holds v = b := by
  induction h with
  | compare => exact hv _ List.mem_cons_self
  | @group conditions operator hne _ _ ih =>
    rw [holds, memberValues_eq]
    refine joined_eq (by simpa using hne) fun x hx => ?_
    obtain ⟨c, hc, rfl⟩ := List.mem_map.mp hx
    refine ih c hc fun y hy => hv y ?_
    rw [comparisons, memberComparisons_eq]
    exact List.mem_flatMap.mpr ⟨c, hc, hy⟩

/-- All comparisons are true but those of one condition. -/
def allBut (b : Condition) : Assignment :=
  fun operands operator => decide ((operands, operator) ∉ b.comparisons)

theorem holds_allBut_self {b : Condition} (h : b.Proper) : b.holds (allBut b) = false :=
  h.holds_eq fun x hx => by simpa [allBut] using hx

theorem holds_allBut {b c : Condition} (h : c.Proper)
    (hdisjoint : List.Disjoint b.comparisons c.comparisons) : c.holds (allBut b) = true :=
  h.holds_eq fun x hx => by simpa [allBut] using fun hb => hdisjoint hb hx

/-- A disjunction beside something that is not true is linked to a true chain on both sides. -/
theorem linked_allBut {b c : Condition} (h : c.Proper) (hor : c.IsDisjunction)
    (hdisjoint : List.Disjoint b.comparisons c.comparisons) (t : Bool × Bool) :
    (c.linked (allBut b) t).1 = true ∧
      ((t.1 || t.2) = true → (c.linked (allBut b) t).2 = true) := by
  obtain ⟨x, y, cs, rfl⟩ := hor
  cases h with
  | group _ _ hproper =>
    have hx : x.holds (allBut b) = true := by
      refine holds_allBut (hproper x (by simp)) fun z hz hzx => hdisjoint hz ?_
      simp [Condition.comparisons, Condition.memberComparisons, hzx]
    have hy : y.holds (allBut b) = true := by
      refine holds_allBut (hproper y (by simp)) fun z hz hzy => hdisjoint hz ?_
      simp [Condition.comparisons, Condition.memberComparisons, hzy]
    rw [Condition.linked, Condition.memberValues, Condition.memberValues, link, if_pos rfl]
    exact ⟨hx, fun ht => link_true (by simp [joined, hy]) ht⟩

/-- A disjunction beside other conditions is true where one of those is not. -/
theorem exists_linkAll_true {cs : List Condition} (hproper : ∀ c ∈ cs, c.Proper)
    (hdisjoint : cs.Pairwise fun c d => List.Disjoint c.comparisons d.comparisons)
    (h : ¬ Guarded cs) :
    ∃ v, ((linkAll v cs).1 || (linkAll v cs).2) = true ∧ cs.all (Condition.holds v) = false := by
  rw [Guarded, not_or] at h
  obtain ⟨hlength, hor⟩ := h
  push Not at hor
  obtain ⟨c, hc, hor⟩ := hor
  obtain ⟨pre, post, rfl⟩ := List.append_of_mem hc
  rw [List.pairwise_append, List.pairwise_cons] at hdisjoint
  obtain ⟨-, ⟨hpost, -⟩, hcross⟩ := hdisjoint
  obtain ⟨b, hb⟩ : ∃ b, b ∈ pre ∨ b ∈ post := by
    cases pre with
    | cons b pre => exact ⟨b, .inl List.mem_cons_self⟩
    | nil =>
      cases post with
      | cons b post => exact ⟨b, .inr List.mem_cons_self⟩
      | nil => exact absurd rfl hlength
  have hmem : b ∈ pre ++ c :: post := by
    rcases hb with hb | hb <;> simp [hb]
  refine ⟨allBut b, ?_, ?_⟩
  · rw [linkAll, List.foldr_append, List.foldr_cons]
    rcases hb with hb | hb
    · -- the part of the disjunction behind its first member stays true
      have hc' := linked_allBut (hproper c hc) hor (hcross b hb c List.mem_cons_self)
      have htail : ∀ d ∈ post, d.holds (allBut b) = true := fun d hd =>
        holds_allBut (hproper d (by simp [hd])) (hcross b hb d (List.mem_cons_of_mem c hd))
      rw [foldr_linked_snd _ _ ((hc' _).2 (foldr_linked_true htail rfl)), Bool.or_true]
    · -- the first member of the disjunction is true behind true conditions
      have hc' := linked_allBut (hproper c hc) hor (List.disjoint_symm (hpost b hb))
      have hfront : ∀ d ∈ pre, d.holds (allBut b) = true := fun d hd =>
        holds_allBut (hproper d (by simp [hd]))
          (List.disjoint_symm (hcross d hd b (List.mem_cons_of_mem c hb)))
      exact foldr_linked_true hfront (by rw [(hc' _).1, Bool.true_or])
  · rw [List.all_eq_false]
    exact ⟨b, hmem, by rw [holds_allBut_self (hproper b hmem)]; exact Bool.false_ne_true⟩

/-! ### The end of a clause -/

/-- A text that does not end in a blank. -/
def EndsSolid (cs : List Char) : Prop := ∃ front c, cs = front ++ [c] ∧ Text.isBlank c = false

theorem EndsSolid.append {cs : List Char} (h : EndsSolid cs) (ds : List Char) :
    EndsSolid (ds ++ cs) := by
  obtain ⟨front, c, rfl, hc⟩ := h
  exact ⟨ds ++ front, c, by rw [List.append_assoc], hc⟩

theorem EndsSolid.intercalate {parts : List (List Char)} (hne : parts ≠ [])
    (h : ∀ p ∈ parts, EndsSolid p) (separator : List Char) :
    EndsSolid (separator.intercalate parts) := by
  induction parts with
  | nil => exact absurd rfl hne
  | cons p ps ih =>
    cases ps with
    | nil =>
      rw [List.intercalate_singleton]
      exact h p List.mem_cons_self
    | cons q qs =>
      rw [List.intercalate_cons_cons]
      exact (ih (by simp) fun r hr => h r (List.mem_cons_of_mem p hr)).append _

theorem IsName.endsSolid {text : String} (h : IsName text) : EndsSolid text.toList := by
  have hlist : text.toList ≠ [] := by simpa using h.1
  have hlast := h.isWordChar _ (List.getLast_mem hlist)
  simp only [Token.isWordChar, Bool.not_eq_true', Bool.or_eq_false_iff] at hlast
  exact ⟨_, _, (List.dropLast_append_getLast hlist).symm, hlast.1.1⟩

theorem Condition.Proper.endsSolid {c : Condition} (h : c.Proper) : EndsSolid c.render.toList := by
  cases h with
  | @compare a operator b ha _ hb =>
    rw [render, String.toList_intercalate]
    refine EndsSolid.intercalate (by simp) ?_ _
    simpa using ⟨ha.endsSolid, hb.endsSolid⟩
  | @group conditions operator hne _ _ =>
    rw [render, String.toList_intercalate, renderMembers_eq, List.map_map]
    refine EndsSolid.intercalate (by simpa using hne) ?_ _
    intro p hp
    obtain ⟨c, -, rfl⟩ := List.mem_map.mp hp
    exact ⟨'(' :: c.render.toList, ')', by simp, by decide⟩

theorem endsSolid_restriction {cs : List Condition} (hne : cs ≠ [])
    (hproper : ∀ c ∈ cs, c.Proper) : EndsSolid (restriction cs).toList := by
  rw [restriction, String.toList_append, String.toList_intercalate, List.map_map]
  refine (EndsSolid.intercalate (by simpa using hne) ?_ _).append _
  intro p hp
  obtain ⟨c, hc, rfl⟩ := List.mem_map.mp hp
  exact (hproper c hc).endsSolid

/-- A blank goes away, and nothing else. -/
theorem trimEnd_append_blank {text : String} (h : EndsSolid text.toList) (front : String) :
    Text.trimEnd (front ++ (text ++ " ")) = front ++ text := by
  obtain ⟨start, c, htext, hc⟩ := h
  have hblank : Text.isBlank ' ' = true := by decide
  rw [← String.toList_inj, Text.trimEnd]
  simp [htext, hc, hblank]

theorem select_eq {cs : List Condition} (hne : cs ≠ []) (hproper : ∀ c ∈ cs, c.Proper)
    (table : String) (columns : List String) :
    select table columns cs =
      "SELECT " ++ (if columns.isEmpty then "*" else ", ".intercalate columns) ++ " FROM " ++
        table ++ " " ++ restriction cs := by
  rw [select, whereClause_eq hne, trimEnd_append_blank (endsSolid_restriction hne hproper)]

theorem update_eq {cs : List Condition} (hne : cs ≠ []) (hproper : ∀ c ∈ cs, c.Proper)
    (table : String) (assignments : List (String × String)) :
    update table assignments cs =
      "UPDATE " ++ table ++ " SET " ++
        ", ".intercalate (assignments.map fun (column, value) => column ++ " = " ++ value) ++ " " ++
        restriction cs := by
  rw [update, whereClause_eq hne, trimEnd_append_blank (endsSolid_restriction hne hproper)]

/-! ### What a clause says -/

/-- A disjunction in front of a comparison. -/
def sampleConditions : List Condition :=
  [.group [.compare ["A", "B"] "<", .compare ["C", "D"] ">"] "OR", .compare ["E", "F"] "="]

theorem proper_sampleConditions : ∀ c ∈ sampleConditions, c.Proper := by
  have hless : (Condition.compare ["A", "B"] "<").Proper :=
    .compare (by decide) (by decide) (by decide)
  have hmore : (Condition.compare ["C", "D"] ">").Proper :=
    .compare (by decide) (by decide) (by decide)
  have hequal : (Condition.compare ["E", "F"] "=").Proper :=
    .compare (by decide) (by decide) (by decide)
  have hgroup := Condition.Proper.group (by simp) (.inr rfl)
    (List.forall_mem_cons.mpr ⟨hless, List.forall_mem_singleton.mpr hmore⟩)
  exact List.forall_mem_cons.mpr ⟨hgroup, List.forall_mem_singleton.mpr hequal⟩

/-- **A clause excludes no row that satisfies all of its conditions, and if it is guarded, it
excludes every other row.** Where different conditions compare different things, no clause that is
not guarded does so. Selections and updates end in the clause. -/
theorem whereClause_restricts {cs : List Condition} (hne : cs ≠ [])
    (hproper : ∀ c ∈ cs, c.Proper) :
    (∀ v, ∃ b, clauseValue? v (whereClause cs) = some b ∧
      (cs.all (Condition.holds v) = true → b = true)) ∧
    (Guarded cs → ∀ v, clauseValue? v (whereClause cs) = some (cs.all (Condition.holds v))) ∧
    (cs.Pairwise (fun c d => List.Disjoint c.comparisons d.comparisons) →
      (∀ v, clauseValue? v (whereClause cs) = some (cs.all (Condition.holds v))) → Guarded cs) ∧
    (∀ v, clauseValue? v (restriction cs) = clauseValue? v (whereClause cs)) ∧
    (∀ table columns, select table columns cs =
      "SELECT " ++ (if columns.isEmpty then "*" else ", ".intercalate columns) ++ " FROM " ++
        table ++ " " ++ restriction cs) ∧
    (∀ table assignments, update table assignments cs =
      "UPDATE " ++ table ++ " SET " ++
        ", ".intercalate (assignments.map fun (column, value) => column ++ " = " ++ value) ++ " " ++
        restriction cs) := by
  refine ⟨fun v => ?_, fun h v => ?_, fun hdisjoint h => ?_, fun v => ?_,
    select_eq hne hproper, update_eq hne hproper⟩
  · refine ⟨_, clauseValue?_whereClause hne hproper, fun hall => ?_⟩
    exact foldr_linked_true (List.all_eq_true.mp hall) rfl
  · rw [clauseValue?_whereClause hne hproper, linkAll_of_guarded hproper h]
  · by_contra hguarded
    obtain ⟨v, htrue, hfalse⟩ := exists_linkAll_true hproper hdisjoint hguarded
    have hv := h v
    rw [clauseValue?_whereClause hne hproper, htrue, hfalse] at hv
    cases hv
  · rw [clauseValue?_restriction hne hproper, clauseValue?_whereClause hne hproper]

/-- In a group the disjunction keeps its parentheses. -/
theorem whereClause_restricts_group :
    ([Condition.group sampleConditions "AND"] ≠ [] ∧
      ∀ c ∈ [Condition.group sampleConditions "AND"], c.Proper) ∧
    ∀ v, clauseValue? v (whereClause [.group sampleConditions "AND"]) =
      some ((v ["A", "B"] "<" || v ["C", "D"] ">") && v ["E", "F"] "=") := by
  have hne : [Condition.group sampleConditions "AND"] ≠ [] := by simp
  have hproper : ∀ c ∈ [Condition.group sampleConditions "AND"], c.Proper :=
    List.forall_mem_singleton.mpr
      (.group (by simp [sampleConditions]) (.inl rfl) proper_sampleConditions)
  refine ⟨⟨hne, hproper⟩, fun v => ?_⟩
  rw [(whereClause_restricts hne hproper).2.1 (.inl rfl) v]
  simp [sampleConditions, Condition.holds, Condition.memberValues, joined]

/-- A disjunction in front of a comparison is true without it. -/
theorem whereClause_not_conjunction :
    ¬ ∀ (cs : List Condition) (v : Assignment), cs ≠ [] → (∀ c ∈ cs, c.Proper) →
      clauseValue? v (whereClause cs) = some (cs.all (Condition.holds v)) := by
  intro h
  have hne : sampleConditions ≠ [] := by simp [sampleConditions]
  have hsample := h sampleConditions (fun operands _ => operands = ["A", "B"]) hne
    proper_sampleConditions
  rw [clauseValue?_whereClause hne proper_sampleConditions] at hsample
  exact absurd hsample (by decide)

end Runbook.Sql
