import Runbook.Command
import Runbook.Json.Printer

/-!
# Batches made step by step

A batch starts empty. Single commands and other batches are put behind what is there, a text
replaces it by what it writes, and it may be taken apart and put together again. A text that writes
no batch leaves it as it was.
-/

namespace Runbook.Batch

/-- One more command. -/
def push (b : Batch) (c : Command) : Batch := b ++ [c]

/-- The commands of another batch, behind those that are there. -/
def extend (b more : Batch) : Batch := b ++ more

/-- Commands that are put together one by one. -/
def collect (commands : List Command) : Batch := commands.foldl push []

/-- The text of a batch. -/
def written (b : Batch) : String := (toJson b).compact

/-- A step in the making of a batch. -/
inductive Step where
  | push (c : Command)
  | extend (more : Batch)
  /-- The batch is replaced by what a text writes. -/
  | read (text : String)
  /-- The batch is taken apart and put together again. -/
  | replay
deriving DecidableEq, Repr

/-- What a step makes of a batch, if it succeeds. -/
def next? (b : Batch) : Step → Option Batch
  | .push c => some (b.push c)
  | .extend more => some (b.extend more)
  | .read text => read? text
  | .replay => some (collect b)

/-- The batch behind a step: a step that fails leaves it as it was. -/
def after (b : Batch) (s : Step) : Batch := (b.next? s).getD b

/-- The batch that steps make of the empty one. -/
def made (steps : List Step) : Batch := steps.foldl after []

end Runbook.Batch
