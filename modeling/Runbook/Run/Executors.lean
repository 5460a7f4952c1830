import Runbook.Run.Runner

/-!
# Executors without a shell

A rehearsal follows a script that says which calls succeed. A connection takes each command as a
named call on something that is held open; what it refuses is the output of a failed command.
-/

namespace Runbook.Run

/-- The time of executions that take none. -/
def noTime : String := "T"

/-- Lets an executor change the first part of a state only. -/
def Executor.besides {σ : Type} (execute : Executor σ) (τ : Type) : Executor (σ × τ) :=
  fun c (s, t) =>
    let (e, s) := execute c s
    (e, s, t)

/-! ### Rehearsals -/

/-- What calls are to do, in turn; the last entry of a call holds for all further turns. -/
abbrev Script := List (String × List Bool)

/-- Where a rehearsal stands. -/
structure Rehearsal where
  script : Script
  executed : Nat
deriving DecidableEq, Repr

/-- Takes the next turn of a call; a call without turns succeeds. -/
def takeTurn (call : String) : Script → Bool × Script
  | [] => (true, [])
  | (name, turns) :: rest =>
    if name = call then
      match turns with
      | [] => (true, (name, []) :: rest)
      | [b] => (b, (name, [b]) :: rest)
      | b :: more => (b, (name, more) :: rest)
    else
      let (b, rest) := takeTurn call rest
      (b, (name, turns) :: rest)

/-- Executes by script: the output numbers the commands and repeats them. -/
def rehearse : Executor Rehearsal := fun c r =>
  let (success, script) := takeTurn c.call r.script
  let n := r.executed + 1
  let text := "#" ++ toString n ++ " " ++ (if success then c.render else "failed")
  (⟨success, text, noTime⟩, ⟨script, n⟩)

/-! ### Connections -/

/-- Answers named calls, with a text or with the reason of a refusal. -/
abbrev Connection (σ : Type) := String → List String → StateM σ (Except String String)

/-- Executes commands as calls on a connection. -/
def Connection.executor {σ : Type} (connection : Connection σ) : Executor σ := fun c => do
  match ← connection c.call c.args with
  | .ok text => return ⟨true, text, noTime⟩
  | .error reason => return ⟨false, reason, noTime⟩

/-- The number that a text writes, if 64 bits hold it. -/
def word? (text : String) : Option Int64 :=
  let (negative, digits) := match text.toList with
    | '-' :: rest => (true, rest)
    | '+' :: rest => (false, rest)
    | rest => (false, rest)
  if digits.isEmpty ∨ !digits.all Char.isDigit then none
  else
    let n : Int := digits.foldl (fun n d => n * 10 + (d.toNat - '0'.toNat)) 0
    let n := if negative then -n else n
    if -0x8000000000000000 ≤ n ∧ n < 0x8000000000000000 then some (Int64.ofInt n) else none

/-- Adds numbers to a total, up to the first text that is none. -/
def addAll (total : Int64) : List String → Except String Int64 × Int64
  | [] => (.ok total, total)
  | arg :: rest =>
    match word? arg with
    | some n => addAll (total + n) rest
    | none => (.error ("not a number: " ++ arg), total)

/-- A connection to a running total. -/
def counter : Connection Int64 := fun call args total =>
  match call with
  | "add" =>
    let (answer, total) := addAll total args
    (answer.map fun n => toString n.toInt, total)
  | "args" => (.ok ("|".intercalate args), total)
  | call => (.error ("no call " ++ call), total)

end Runbook.Run
