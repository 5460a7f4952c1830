/-!
# Arithmetic in scripts

Expressions over whole numbers of 64 bits, with the operators of C that change nothing. A name
stands for the value of a variable, which is zero if it is not set.
-/

namespace Runbook.Shell.Arithmetic

/-- Part of an expression. -/
inductive Token where
  | number (n : Int)
  | name (text : String)
  | operator (text : String)
deriving DecidableEq, Repr

/-- Why an expression has no value. -/
inductive Fault where
  | divisionByZero
  | noOperand
  | noEnd
deriving DecidableEq, Repr

/-- The wording of a fault. -/
def Fault.message : Fault → String
  | .divisionByZero => "division by zero"
  | .noOperand => "expecting primary"
  | .noEnd => "expecting EOF"

/-- The binary operators, weakest first. -/
def levels : List (List String) :=
  [["||"], ["&&"], ["|"], ["^"], ["&"], ["==", "!="], ["<=", ">=", "<", ">"], ["<<", ">>"],
    ["+", "-"], ["*", "/", "%"]]

/-- All operators, longest first. -/
def operators : List String :=
  ["||", "&&", "==", "!=", "<=", ">=", "<<", ">>", "|", "^", "&", "<", ">", "+", "-", "*", "/", "%",
    "!", "~", "(", ")"]

/-- The value of digits in a base. -/
def digitsValue (base : Nat) (digits : List Char) : Int :=
  digits.foldl (fun n c =>
    let d := if c.isDigit then c.toNat - '0'.toNat else (c.toLower.toNat - 'a'.toNat) + 10
    n * base + d) 0

/-- The number that a text writes: octal behind a zero, hexadecimal behind `0x`. -/
def number (text : List Char) : Int :=
  match text with
  | '0' :: x :: rest => if x = 'x' ∨ x = 'X' then digitsValue 16 rest else digitsValue 8 (x :: rest)
  | text => digitsValue 10 text

/-- The tokens of an expression; nothing if a character belongs to none. -/
def scan : (fuel : Nat) → List Char → Option (List Token)
  | 0, _ => none
  | _ + 1, [] => some []
  | fuel + 1, c :: cs =>
    if c.isWhitespace then scan fuel cs
    else if c.isAlphanum ∨ c = '_' then
      let isPart (d : Char) : Bool :=
        if c = '0' ∧ !cs.head?.any fun x => x == 'x' || x == 'X' then '0' ≤ d && d ≤ '7'
        else if c.isDigit ∧ c ≠ '0' then d.isDigit
        else d.isAlphanum || d == '_'
      let word := (c :: cs).takeWhile isPart
      let token := if c.isDigit then .number (number word) else .name (String.ofList word)
      (scan fuel ((c :: cs).drop word.length)).map (token :: ·)
    else match operators.find? fun op => op.toList.isPrefixOf (c :: cs) with
      | some op => (scan fuel ((c :: cs).drop op.length)).map (.operator op :: ·)
      | none => none

/-- A number in 64 bits. -/
def wrap (n : Int) : Int := (Int64.ofInt n).toInt

/-- One or zero. -/
def flag (b : Bool) : Int := if b then 1 else 0

/-- A bit operation on the 64 bits of numbers. -/
def bitwise (op : UInt64 → UInt64 → UInt64) (a b : Int) : Int :=
  (op (Int64.ofInt a).toUInt64 (Int64.ofInt b).toUInt64).toInt64.toInt

/-- Applies a binary operator. -/
def apply (op : String) (a b : Int) : Except Fault Int :=
  match op with
  | "||" => .ok (flag (a != 0 || b != 0))
  | "&&" => .ok (flag (a != 0 && b != 0))
  | "|" => .ok (bitwise (· ||| ·) a b)
  | "^" => .ok (bitwise (· ^^^ ·) a b)
  | "&" => .ok (bitwise (· &&& ·) a b)
  | "==" => .ok (flag (a == b))
  | "!=" => .ok (flag (a != b))
  | "<=" => .ok (flag (a ≤ b))
  | ">=" => .ok (flag (b ≤ a))
  | "<" => .ok (flag (a < b))
  | ">" => .ok (flag (b < a))
  | "<<" => .ok (wrap (a * Nat.pow 2 (b.toNat % 64)))
  | ">>" => .ok (wrap (a.fdiv (Nat.pow 2 (b.toNat % 64))))
  | "+" => .ok (wrap (a + b))
  | "-" => .ok (wrap (a - b))
  | "*" => .ok (wrap (a * b))
  | "/" => if b = 0 then .error .divisionByZero else .ok (wrap (a.tdiv b))
  | _ => if b = 0 then .error .divisionByZero else .ok (a.tmod b)

mutual

/-- Takes an operand with the operators before it. -/
def operand (value : String → Int) : (fuel : Nat) → List Token → Except Fault (Int × List Token)
  | 0, _ => .error .noOperand
  | fuel + 1, ts =>
    match ts with
    | .number n :: rest => .ok (wrap n, rest)
    | .name x :: rest => .ok (value x, rest)
    | .operator "(" :: rest => do
      let (n, rest) ← binary value fuel levels rest
      match rest with
      | .operator ")" :: rest => return (n, rest)
      | _ => .error .noOperand
    | .operator op :: rest => do
      if op ∈ ["-", "+", "!", "~"] then
        let (n, rest) ← operand value fuel rest
        return (match op with
          | "-" => wrap (-n)
          | "!" => flag (n == 0)
          | "~" => -n - 1
          | _ => n, rest)
      else .error .noOperand
    | [] => .error .noOperand

/-- Takes operands that are joined by operators of some levels. -/
def binary (value : String → Int) : (fuel : Nat) → List (List String) → List Token →
    Except Fault (Int × List Token)
  | 0, _, _ => .error .noOperand
  | fuel + 1, [], ts => operand value fuel ts
  | fuel + 1, level :: tighter, ts => do
    let (n, rest) ← binary value fuel tighter ts
    chain value fuel level tighter n rest

/-- Takes what operators of one level join to an operand. -/
def chain (value : String → Int) : (fuel : Nat) → List String → List (List String) → Int →
    List Token → Except Fault (Int × List Token)
  | 0, _, _, n, ts => .ok (n, ts)
  | fuel + 1, level, tighter, n, ts =>
    match ts with
    | .operator op :: rest =>
      if op ∈ level then do
        let (m, rest) ← binary value fuel tighter rest
        chain value fuel level tighter (← apply op n m) rest
      else .ok (n, ts)
    | ts => .ok (n, ts)

end

/-- The value of an expression; an empty one is zero. -/
def evaluate (value : String → Int) (text : List Char) : Except Fault Int := do
  match scan (text.length + 1) text with
  | none => .error .noOperand
  | some [] => return 0
  | some ts =>
    let (n, rest) ← binary value (20 * (ts.length + 1)) levels ts
    if rest.isEmpty then return n else .error .noEnd

end Runbook.Shell.Arithmetic
