import Runbook.Regex.Basic

/-!
# Reading regular expressions

Literals, `.`, anchors, classes, groups, alternation and repetition. A flag for case that stands
in a group holds up to the end of that group, also behind a bar.
-/

namespace Runbook.Regex

/-- A class of one character. -/
def literal (ignoreCase : Bool) (c : Char) : Regex := .char ⟨[.range c c], false, ignoreCase⟩

/-- Any character but the end of a line. -/
def anyChar : Regex := .char ⟨[.range '\n' '\n'], true, false⟩

/-- The category that a letter names behind a backslash, and whether it is negated. -/
def category? (c : Char) : Option ClassItem :=
  match c with
  | 'w' => some (.category .word false)
  | 'W' => some (.category .word true)
  | 'd' => some (.category .decimal false)
  | 'D' => some (.category .decimal true)
  | 's' => some (.category .blank false)
  | 'S' => some (.category .blank true)
  | _ => none

/-- The character that an escape stands for, if it stands for one. -/
def escaped? (c : Char) : Option Char :=
  match c with
  | 'n' => some '\n'
  | 't' => some '\t'
  | 'r' => some '\r'
  | c => if c.isAlphanum then none else some c

/-- One part of a class, with the text behind it. -/
def classItem? : List Char → Option (ClassItem × List Char)
  | '\\' :: c :: rest =>
    match category? c with
    | some item => some (item, rest)
    | none => (escaped? c).map fun d => (.range d d, rest)
  | low :: '-' :: high :: rest =>
    if high = ']' then some (.range low low, '-' :: high :: rest)
    else if high = '\\' then none
    else if low ≤ high then some (.range low high, rest) else none
  | c :: rest => some (.range c c, rest)
  | [] => none

/-- The parts of a class up to its closing bracket, which may come first as a plain character. -/
def classItems? : (fuel : Nat) → (first : Bool) → List Char → Option (List ClassItem × List Char)
  | 0, _, _ => none
  | fuel + 1, first, cs =>
    match cs, first with
    | ']' :: rest, false => some ([], rest)
    | cs, _ =>
      match classItem? cs with
      | none => none
      | some (item, rest) =>
        (classItems? fuel false rest).map fun (items, rest) => (item :: items, rest)

/-- A number with the text behind it. -/
def number? (cs : List Char) : Option (Nat × List Char) :=
  let digits := cs.takeWhile Char.isDigit
  if digits.isEmpty then none
  else some (digits.foldl (fun n d => n * 10 + (d.toNat - '0'.toNat)) 0, cs.dropWhile Char.isDigit)

/-- The bounds of a counted repetition, read behind its opening brace. -/
def bounds? (cs : List Char) : Option (Nat × Option Nat × List Char) :=
  match number? cs with
  | none => none
  | some (least, '}' :: rest) => some (least, some least, rest)
  | some (least, ',' :: '}' :: rest) => some (least, none, rest)
  | some (least, ',' :: rest) =>
    match number? rest with
    | some (most, '}' :: rest) => if least ≤ most then some (least, some most, rest) else none
    | _ => none
  | _ => none

/-- The text behind the mark that makes a repetition prefer few rounds, which changes no match. -/
def skipLazy : List Char → List Char
  | '?' :: rest => rest
  | rest => rest

/-- Applies the repetitions that stand behind an expression. -/
def quantified : (fuel : Nat) → Regex → List Char → Option (Regex × List Char)
  | 0, _, _ => none
  | fuel + 1, r, cs =>
    match cs with
    | '*' :: rest => quantified fuel (.repeated r 0 none) (skipLazy rest)
    | '+' :: rest => quantified fuel (.repeated r 1 none) (skipLazy rest)
    | '?' :: rest => quantified fuel (.repeated r 0 (some 1)) (skipLazy rest)
    | '{' :: rest =>
      match bounds? rest with
      | none => none
      | some (least, most, rest) => quantified fuel (.repeated r least most) (skipLazy rest)
    | cs => some (r, cs)

/-- The setting for case that flags lead to, read up to the colon or parenthesis behind them. -/
def flags? (on : Bool) (ignoreCase : Bool) : List Char → Option (Bool × Bool × List Char)
  | ')' :: rest => some (ignoreCase, false, rest)
  | ':' :: rest => some (ignoreCase, true, rest)
  | '-' :: rest => flags? false ignoreCase rest
  | 'i' :: rest => flags? on on rest
  | c :: rest => if ['u', 's', 'm', 'U', 'x'].contains c then flags? on ignoreCase rest else none
  | [] => none

mutual

/-- Reads alternatives up to the end of the group; also says how case stands there. -/
def alternatives : (fuel : Nat) → (ignoreCase : Bool) → List Char → Option (Regex × List Char)
  | 0, _, _ => none
  | fuel + 1, ignoreCase, cs =>
    match sequence fuel ignoreCase cs with
    | none => none
    | some (r, ignoreCase, '|' :: rest) =>
      (alternatives fuel ignoreCase rest).map fun (s, rest) => (.alt r s, rest)
    | some (r, _, rest) => some (r, rest)

/-- Reads what stands next to each other, up to a bar or the end of the group. -/
def sequence : (fuel : Nat) → (ignoreCase : Bool) → List Char →
    Option (Regex × Bool × List Char)
  | 0, _, _ => none
  | fuel + 1, ignoreCase, cs =>
    let behind (r : Regex) (rest : List Char) : Option (Regex × Bool × List Char) := do
      let (r, rest) ← quantified (rest.length + 1) r rest
      let (s, ignoreCase, rest) ← sequence fuel ignoreCase rest
      return (.seq r s, ignoreCase, rest)
    let group (ignoreCase : Bool) (rest : List Char) : Option (Regex × Bool × List Char) :=
      match alternatives fuel ignoreCase rest with
      | some (r, ')' :: rest) => behind r rest
      | _ => none
    match cs with
    | [] => some (.empty, ignoreCase, [])
    | '|' :: _ | ')' :: _ => some (.empty, ignoreCase, cs)
    | '(' :: '?' :: rest =>
      match flags? true ignoreCase rest with
      | some (ignoreCase, false, rest) => sequence fuel ignoreCase rest
      | some (inner, true, rest) => group inner rest
      | none =>
        match rest with
        | 'P' :: '<' :: rest | '<' :: rest =>
          group ignoreCase ((rest.dropWhile (· ≠ '>')).drop 1)
        | _ => none
    | '(' :: rest => group ignoreCase rest
    | '[' :: rest =>
      let (negated, rest) := match rest with
        | '^' :: rest => (true, rest)
        | rest => (false, rest)
      match classItems? (rest.length + 1) true rest with
      | some (items, rest) => behind (.char ⟨items, negated, ignoreCase⟩) rest
      | none => none
    | '.' :: rest => behind anyChar rest
    | '^' :: rest => behind .start rest
    | '$' :: rest => behind .finish rest
    | '\\' :: c :: rest =>
      match category? c, escaped? c with
      | some item, _ => behind (.char ⟨[item], false, false⟩) rest
      | none, some d => behind (literal ignoreCase d) rest
      | none, none => none
    | c :: rest =>
      if ['*', '+', '?', '{', '\\'].contains c then none else behind (literal ignoreCase c) rest

end

/-- Reads an expression. -/
def parse? (pattern : String) : Option Regex :=
  match alternatives (2 * pattern.length + 2) false pattern.toList with
  | some (r, []) => some r
  | _ => none

end Runbook.Regex
