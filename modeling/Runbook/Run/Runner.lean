import Runbook.Run.Log

/-!
# Running batches

A runner executes the commands of a batch in order and halts as soon as more of them have failed
than it admits. What had not been executed by then stays with it as its working batch, next to the
command that it halted on, and can be taken up again, with or without that command. Each
invocation counts failures anew.

An executor may have any state: it is a function from commands to executions that reads and
changes it.
-/

namespace Runbook.Run

/-- Executes a command and changes a state of its own. -/
abbrev Executor (σ : Type) := Command → StateM σ Execution

/-- Whether a runner stopped before the end of its batch. -/
inductive State where
  | running
  | halted
deriving DecidableEq, Repr

/-- How a halted runner goes on. -/
inductive ResumeMode where
  /-- Behind the command it halted on. -/
  | skip
  /-- With the command it halted on. -/
  | retry
deriving DecidableEq, Repr

/-- A runner between two invocations. -/
structure Runner where
  /-- How many failures it admits; any number if there is none. -/
  admitted : Option Nat
  state : State
  /-- The commands that were not executed. -/
  working : Batch
  /-- The command whose failure halted the last invocation. -/
  haltedOn : Option Command
deriving DecidableEq, Repr

/-- What an invocation leaves behind. -/
structure Outcome where
  log : Log
  state : State
  working : Batch
  haltedOn : Option Command
deriving DecidableEq, Repr

/-- That many failures are more than are admitted. -/
def exceeds (admitted : Option Nat) (failures : Nat) : Bool :=
  match admitted with
  | some n => n < failures
  | none => false

/-- Executes commands in order until the failures, counted from `failures` on, exceed what is
admitted. Each record goes to the end of the log. -/
def drain {σ : Type} (execute : Executor σ) (admitted : Option Nat) :
    (failures : Nat) → Batch → Log → StateM σ Outcome
  | _, [], log => pure ⟨log, .running, [], none⟩
  | failures, c :: rest, log => do
    let e ← execute c
    let log := log ++ [Record.of c e]
    let failures := if e.success then failures else failures + 1
    if !e.success && exceeds admitted failures then
      return ⟨log, .halted, rest, some c⟩
    else drain execute admitted failures rest log

namespace Runner

/-- A runner that has not run anything. -/
def new (admitted : Option Nat) : Runner := ⟨admitted, .running, [], none⟩

/-- Executes a queue of commands from a fresh count of failures, and answers the records that were
added to the log. -/
def invoke {σ : Type} (execute : Executor σ) (queue : Batch) (r : Runner) (log : Log) :
    StateM σ (List Record × Runner × Log) := do
  let o ← drain execute r.admitted 0 queue log
  return (o.log.since log.length, ⟨r.admitted, o.state, o.working, o.haltedOn⟩, o.log)

/-- Runs a batch, in place of anything that was left. -/
def run {σ : Type} (execute : Executor σ) (batch : Batch) (r : Runner) (log : Log) :
    StateM σ (List Record × Runner × Log) :=
  r.invoke execute batch log

/-- The commands that a resumed runner goes on with. -/
def queue (mode : ResumeMode) (r : Runner) : Batch :=
  match mode, r.haltedOn with
  | .retry, some c => c :: r.working
  | _, _ => r.working

/-- Goes on with what was left. -/
def resume {σ : Type} (execute : Executor σ) (mode : ResumeMode) (r : Runner) (log : Log) :
    StateM σ (List Record × Runner × Log) :=
  r.invoke execute (r.queue mode) log

end Runner

/-- Runs a batch once, with a runner of its own. -/
def once {σ : Type} (execute : Executor σ) (admitted : Option Nat) (batch : Batch) (log : Log) :
    StateM σ (List Record × Log) := do
  let (records, _, log) ← (Runner.new admitted).run execute batch log
  return (records, log)

end Runbook.Run
