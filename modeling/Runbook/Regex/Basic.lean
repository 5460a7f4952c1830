import Runbook.Text.Blank
import Runbook.Text.Fold
import Runbook.Text.WordChar

/-!
# Regular expressions

An expression leads from a set of places in a text to the places where a match may end. A text is
matched if some place leads anywhere. Repetition without bound is followed as often as the text
has places, after which no new place can appear.
-/

namespace Runbook.Regex

/-- A class of characters with a name of its own. -/
inductive Category where
  | word | decimal | blank
deriving DecidableEq, Repr

/-- The character belongs to the class. -/
def Category.contains : Category → Char → Bool
  | .word, c => Text.isWord c
  | .decimal, c => Text.isDecimal c
  | .blank, c => Text.isBlank c

/-- Part of a class of characters. -/
inductive ClassItem where
  | range (low high : Char)
  | category (category : Category) (negated : Bool)
deriving DecidableEq, Repr

/-- The character belongs to the part. -/
def ClassItem.contains : ClassItem → Char → Bool
  | .range low high, c => low ≤ c && c ≤ high
  | .category k negated, c => k.contains c != negated

/-- A class of characters, compared with or without regard to case. -/
structure CharClass where
  items : List ClassItem
  negated : Bool
  ignoreCase : Bool
deriving DecidableEq, Repr

/-- The character belongs to the class. -/
def CharClass.contains (k : CharClass) (c : Char) : Bool :=
  let inside (c : Char) : Bool := k.items.any (·.contains c)
  (if k.ignoreCase then (Text.caseVariants (Text.fold c)).any inside else inside c) != k.negated

end Regex

/-- A regular expression. -/
inductive Regex where
  /-- Matches nothing of the text. -/
  | empty
  /-- One character of a class. -/
  | char (allowed : Regex.CharClass)
  /-- The beginning of the text. -/
  | start
  /-- The end of the text. -/
  | finish
  | seq (first second : Regex)
  | alt (first second : Regex)
  /-- At least `least` times, and at most `most` times if that is given. -/
  | repeated (body : Regex) (least : Nat) (most : Option Nat)
deriving DecidableEq, Repr

namespace Regex

/-- A set of places in a text. -/
abbrev Places := List Nat

/-- The places of either set. -/
def Places.union (a b : Places) : Places := a ++ b.filter (!a.contains ·)

/-- Applies a step a number of times. -/
def times (step : Places → Places) : Nat → Places → Places
  | 0, ps => ps
  | n + 1, ps => times step n (step ps)

/-- Applies a step up to a number of times. -/
def upTo (step : Places → Places) : Nat → Places → Places
  | 0, ps => ps
  | n + 1, ps => Places.union ps (upTo step n (step ps))

/-- The places that a match of the expression from one of the given places may end at. -/
def reach (text : Array Char) : Regex → Places → Places
  | .empty, ps => ps
  | .char k, ps => ps.filterMap fun i =>
    match text[i]? with
    | some c => if k.contains c then some (i + 1) else none
    | none => none
  | .start, ps => ps.filter (· == 0)
  | .finish, ps => ps.filter (· == text.size)
  | .seq a b, ps => reach text b (reach text a ps)
  | .alt a b, ps => Places.union (reach text a ps) (reach text b ps)
  | .repeated body least most, ps =>
    let step := reach text body
    let ps := times step least ps
    match most with
    | some most => upTo step (most - least) ps
    | none => times (fun ps => Places.union ps (step ps)) text.size ps

/-- The expression matches some part of the text. -/
def isMatch (r : Regex) (text : String) : Bool :=
  let cs := text.toList.toArray
  !(r.reach cs (List.range (cs.size + 1))).isEmpty

end Regex

end Runbook
