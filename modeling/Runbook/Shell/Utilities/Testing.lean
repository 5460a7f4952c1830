import Runbook.Shell.Utilities.Basic

/-!
# Tests

Conditions on texts, numbers and files. With up to four words the number of words decides how they
are read, so that an operator may also be an operand.
-/

namespace Runbook.Shell

/-- A condition, or why its words are none. -/
abbrev Verdict := Except String Bool

/-- Conditions on one text, by operator. -/
def unaryTest? (files : FileTree) (op : String) : Option (String → Bool) :=
  match op with
  | "-n" => some (· ≠ "")
  | "-z" => some (· = "")
  | "-e" | "-r" | "-w" => some files.exists?
  | "-f" => some fun p => (files.content? p).isSome
  | "-d" | "-x" => some files.isDirectory
  | "-s" => some fun p => match files.node? p with
    | some (.file content) => content.size ≠ 0
    | some .directory => true
    | none => false
  | "-L" | "-h" | "-b" | "-c" | "-p" | "-S" | "-t" | "-u" | "-g" | "-k" => some fun _ => false
  | _ => none

/-- A number in a condition. -/
def testNumber (text : String) : Except String Int :=
  match integer? (String.ofList ((text.toList.dropWhile Char.isWhitespace).reverse.dropWhile
    Char.isWhitespace).reverse) with
  | some n => .ok n
  | none => .error ("Illegal number: " ++ text)

/-- Conditions on two texts, by operator. -/
def binaryTest? (op : String) : Option (String → String → Verdict) :=
  let onNumbers (holds : Int → Int → Bool) : Option (String → String → Verdict) :=
    some fun a b => do return holds (← testNumber a) (← testNumber b)
  match op with
  | "=" => some fun a b => .ok (a == b)
  | "!=" => some fun a b => .ok (a != b)
  | "<" => some fun a b => .ok (decide (a < b))
  | ">" => some fun a b => .ok (decide (b < a))
  | "-eq" => onNumbers (· == ·)
  | "-ne" => onNumbers (· != ·)
  | "-lt" => onNumbers fun a b => a < b
  | "-le" => onNumbers fun a b => a ≤ b
  | "-gt" => onNumbers fun a b => b < a
  | "-ge" => onNumbers fun a b => b ≤ a
  | _ => none

mutual

/-- Takes conditions that are joined by `-o`. -/
def testAny (files : FileTree) : (fuel : Nat) → List String → Except String (Bool × List String)
  | 0, _ => .error "too many conditions"
  | fuel + 1, ws => do
    let (a, rest) ← testAll files fuel ws
    match rest with
    | "-o" :: rest => do
      let (b, rest) ← testAny files fuel rest
      return (a || b, rest)
    | rest => return (a, rest)

/-- Takes conditions that are joined by `-a`. -/
def testAll (files : FileTree) : (fuel : Nat) → List String → Except String (Bool × List String)
  | 0, _ => .error "too many conditions"
  | fuel + 1, ws => do
    let (a, rest) ← testOne files fuel ws
    match rest with
    | "-a" :: rest => do
      let (b, rest) ← testAll files fuel rest
      return (a && b, rest)
    | rest => return (a, rest)

/-- Takes one condition. With two words, an operator on one text comes before a missing operand. -/
def testOne (files : FileTree) : (fuel : Nat) → List String → Except String (Bool × List String)
  | 0, _ => .error "too many conditions"
  | fuel + 1, ws =>
    match ws with
    | [] => .ok (false, [])
    | "!" :: w :: rest => do
      let (a, rest) ← testOne files fuel (w :: rest)
      return (!a, rest)
    | a :: op :: b :: rest =>
      match binaryTest? op with
      | some holds => do return (← holds a b, rest)
      | none => testUnary files fuel a (op :: b :: rest)
    | [a, op] =>
      if (unaryTest? files a).isNone ∧ a ≠ "(" ∧ (binaryTest? op).isSome then
        .error (op ++ ": argument expected")
      else testUnary files fuel a [op]
    | a :: rest => testUnary files fuel a rest

/-- Takes a condition that begins with an operator, with a parenthesis, or is a text. -/
def testUnary (files : FileTree) : (fuel : Nat) → String → List String →
    Except String (Bool × List String)
  | 0, _, _ => .error "too many conditions"
  | fuel + 1, a, rest =>
    match rest with
    | [] => .ok (a != "", [])
    | b :: more =>
      if a = "(" then do
        let (v, rest) ← testAny files fuel rest
        match rest with
        | ")" :: rest => return (v, rest)
        | _ => .error "closing paren expected"
      else match unaryTest? files a with
        | some holds => .ok (holds b, more)
        | none => .ok (a != "", rest)

end

/-- The value of a condition. -/
def testWords (files : FileTree) (ws : List String) : Verdict := do
  match ws with
  | [] => return false
  | ws =>
    let (v, rest) ← testAny files (4 * ws.length + 4) ws
    match rest with
    | [] => return v
    | rest => .error ((ws[ws.length - rest.length - 1]?).getD "" ++ ": unexpected operator")

/-- Tests a condition; `name` starts the messages. -/
def test (name : String) : Utility := fun c =>
  match testWords c.files c.args with
  | .ok v => c.done (if v then 0 else 1)
  | .error e => c.refuse 2 (name ++ e)

/-- Tests a condition between square brackets. -/
def testBrackets (name : String) : Utility := fun c =>
  match c.args.reverse with
  | "]" :: rest => test name { c with args := rest.reverse }
  | _ => c.refuse 2 (name ++ "missing ]")

end Runbook.Shell
