import Runbook.Shell.Utilities.Basic

/-!
# Utilities on numbers

Numbers in a row, and expressions whose operands and operators are words.
-/

namespace Runbook.Shell

/-- Writes numbers in order. -/
def seq : Utility := fun c =>
  let run (first step last : Int) : Reply :=
    let count := if step > 0 then ((last - first) / step + 1).toNat
      else if step < 0 then ((first - last) / (-step) + 1).toNat else 0
    c.text (String.join ((List.range count).map fun (i : Nat) =>
      toString (first + step * (i : Int)) ++ "\n"))
  match c.args.mapM integer? with
  | some [last] => run 1 1 last
  | some [first, last] => run first 1 last
  | some [first, step, last] => run first step last
  | _ => c.refuse 1 "seq: invalid argument"

/-- The value of two operands and an operator; nothing if they make no expression. -/
def wordExpression? (a op b : String) : Option (Except String String) :=
  let holds (test : Bool) : Option (Except String String) := some (.ok (if test then "1" else "0"))
  let number (f : Int → Int → Except String Int) : Option (Except String String) :=
    match integer? a, integer? b with
    | some x, some y => some ((f x y).map toString)
    | _, _ => some (.error "expr: non-integer argument")
  let compare (onNumbers : Int → Int → Bool) (onTexts : String → String → Bool) :
      Option (Except String String) :=
    match integer? a, integer? b with
    | some x, some y => holds (onNumbers x y)
    | _, _ => holds (onTexts a b)
  match op with
  | "+" => number fun x y => .ok (x + y)
  | "-" => number fun x y => .ok (x - y)
  | "*" => number fun x y => .ok (x * y)
  | "/" => number fun x y => if y = 0 then .error "expr: division by zero" else .ok (x.tdiv y)
  | "%" => number fun x y => if y = 0 then .error "expr: division by zero" else .ok (x.tmod y)
  | "=" => compare (· == ·) (· == ·)
  | "!=" => compare (· != ·) (· != ·)
  | "<" => compare (fun x y => x < y) fun x y => x < y
  | "<=" => compare (fun x y => x ≤ y) fun x y => x ≤ y
  | ">" => compare (fun x y => y < x) fun x y => y < x
  | ">=" => compare (fun x y => y ≤ x) fun x y => y ≤ x
  | _ => none

/-- Writes the value of an expression of words; a value that is empty or zero is a failure. -/
def expr : Utility := fun c =>
  let shown (v : String) : Reply :=
    { c.text (v ++ "\n") with status := if v = "" ∨ integer? v = some 0 then 1 else 0 }
  let folded : Except String String := match c.args with
    | [] => .error "expr: missing operand\nTry 'expr --help' for more information."
    | first :: rest => (pairsOf rest).foldlM (fun a (op, b) =>
      match op, b with
      | op, some b => (wordExpression? a op b).getD (.error
          ("expr: syntax error: unexpected argument '" ++ op ++ "'"))
      | op, none => .error (if (wordExpression? "0" op "1").isSome
          then "expr: syntax error: missing argument after '" ++ op ++ "'"
          else "expr: syntax error: unexpected argument '" ++ op ++ "'")) first
  match folded with
  | .ok v => shown v
  | .error e => c.refuse 2 e
where
  /-- Operators with the operands behind them. -/
  pairsOf : List String → List (String × Option String)
    | [] => []
    | [op] => [(op, none)]
    | op :: b :: rest => (op, some b) :: pairsOf rest

end Runbook.Shell
