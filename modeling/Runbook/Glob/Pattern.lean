/-!
# Path patterns

A pattern is a sequence of tokens: characters, `?` for any character, `*` for any sequence,
`[...]` and `[!...]` for sets, and `**`, which has to be a whole component of a path, for any
number of directories.
-/

namespace Runbook.Glob

/-- Part of a set: one character or a range. -/
inductive Member where
  | single (c : Char)
  | range (low high : Char)
deriving DecidableEq, Repr

/-- Part of a pattern. -/
inductive Token where
  | char (c : Char)
  | anyChar
  | anySequence
  | anyDirectories
  | within (set : List Member)
  | except (set : List Member)
deriving DecidableEq, Repr

/-- Why a text is no pattern. -/
inductive Fault where
  /-- More than two stars in a row. -/
  | wildcards
  /-- Two stars next to something else than a separator. -/
  | component
  /-- A set without its end. -/
  | range
deriving DecidableEq, Repr

/-- What is wrong, and at which character. -/
structure PatternError where
  position : Nat
  fault : Fault
deriving DecidableEq, Repr

/-- The wording of a fault. -/
def Fault.message : Fault → String
  | .wildcards => "wildcards are either regular \x60*\x60 or recursive \x60**\x60"
  | .component => "recursive wildcards must form a single path component"
  | .range => "invalid range pattern"

/-- The wording of an error. -/
def PatternError.message (e : PatternError) : String :=
  "Pattern syntax error near position " ++ toString e.position ++ ": " ++ e.fault.message

/-- The members of a set: a dash between two characters makes a range. -/
def setMembers : List Char → List Member
  | a :: '-' :: b :: rest => .range a b :: setMembers rest
  | c :: rest => .single c :: setMembers rest
  | [] => []

/-- The characters of a set, which are at least one, and the text behind its end. -/
def setBody? : List Char → Option (List Char × List Char)
  | [] => none
  | first :: rest =>
    let body := rest.takeWhile (· ≠ ']')
    match rest.dropWhile (· ≠ ']') with
    | [] => none
    | _ :: behind => some (first :: body, behind)

/-- What stands before a run of stars. -/
def startsComponent (before : Option Char) : Bool := before == none || before == some '/'

/-- Reads tokens; `before` is the character read last, `position` the number of those read. -/
def tokens : (fuel : Nat) → (before : Option Char) → (position : Nat) → List Char →
    Except PatternError (List Token)
  | 0, _, _, _ => .ok []
  | _ + 1, _, _, [] => .ok []
  | fuel + 1, before, position, c :: cs =>
    match c with
    | '?' => (tokens fuel (some c) (position + 1) cs).map (.anyChar :: ·)
    | '*' =>
      let stars := cs.takeWhile (· = '*')
      let rest := cs.dropWhile (· = '*')
      match stars.length with
      | 0 => (tokens fuel (some c) (position + 1) cs).map (.anySequence :: ·)
      | 1 =>
        if startsComponent before then
          match rest with
          | [] => .ok [.anyDirectories]
          | '/' :: rest =>
            (tokens fuel (some '/') (position + 3) rest).map (.anyDirectories :: ·)
          | _ => .error ⟨position + 2, .component⟩
        else .error ⟨position - 1, .component⟩
      | _ => .error ⟨position + 2, .wildcards⟩
    | '[' =>
      let (negated, body) := match cs with
        | '!' :: rest => (true, setBody? rest)
        | rest => (false, setBody? rest)
      match body with
      | none => .error ⟨position, .range⟩
      | some (set, rest) =>
        let used := set.length + (if negated then 3 else 2)
        let token := if negated then Token.except (setMembers set) else .within (setMembers set)
        (tokens fuel (some ']') (position + used) rest).map (token :: ·)
    | c => (tokens fuel (some c) (position + 1) cs).map (.char c :: ·)

/-- Reads a pattern. -/
def parse (text : String) : Except PatternError (List Token) :=
  tokens (text.length + 1) none 0 text.toList

/-- The character belongs to the set. -/
def inSet (set : List Member) (c : Char) : Bool :=
  set.any fun
    | .single d => c == d
    | .range low high => low ≤ c && c ≤ high

mutual

/-- The tokens match the whole name. -/
def matchesName : List Token → List Char → Bool
  | [], name => name.isEmpty
  | .anySequence :: ts, name | .anyDirectories :: ts, name => matchesSuffix ts name
  | t :: ts, c :: cs =>
    (match t with
      | .char d => c == d
      | .within set => inSet set c
      | .except set => !inSet set c
      | _ => true) && matchesName ts cs
  | _ :: _, [] => false
termination_by ts name => (ts.length, name.length + 1)

/-- The tokens match some end of the name. -/
def matchesSuffix (ts : List Token) : List Char → Bool
  | [] => matchesName ts []
  | c :: cs => matchesName ts (c :: cs) || matchesSuffix ts cs
termination_by name => (ts.length, name.length + 2)
decreasing_by all_goals (simp_wf; omega)

end

/-- The text of a pattern that is nothing but characters. -/
def literal? : List Token → Option (List Char)
  | [] => some []
  | .char c :: ts => (literal? ts).map (c :: ·)
  | _ :: _ => none

end Runbook.Glob
