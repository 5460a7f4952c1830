import Runbook.Invocation.Options

/-!
# Requests

What the program can be asked for on its command line, and how the request is written: one word for
the task, options of the task, and the words that it works on. The presets file may be named at
every level; the innermost one counts.
-/

namespace Runbook.Invocation

/-- A task. -/
inductive Task where
  /-- The names of presets, or of generators. -/
  | names (generators : Bool)
  /-- What a definition resolves to. -/
  | resolve (definition : List String)
  /-- The batch of a definition. -/
  | batch (definition : List String)
  /-- The batch of a definition, executed. -/
  | execute (definition : List String) (admitted : Option Nat) (confirmed : Bool)
      (results : Option String)
  /-- The contexts of named templates. -/
  | contexts (name : String)
  /-- A Git command on objects. -/
  | onObjects (subcommand options : String) (ids : List String)
  /-- An operation on a branch that is not the current one. -/
  | onBranch (operation branch remote repository : String)
  /-- A clause for conditions. -/
  | whereClause (conditions : String)
  /-- A selection from a table. -/
  | select (table : String) (columns : List String) (conditions : Option String)
deriving DecidableEq, Repr

/-- A task, and the presets file that was named for it. -/
structure Request where
  presets : Option String
  task : Task
deriving DecidableEq, Repr

/-! ### Options -/

/-- An option that is there or not. -/
def mark (name : String) (letter : Char) : Opt := ⟨name, letter, .none, false, fun _ => true⟩

/-- An option with any text as its value. -/
def textOption (name : String) (letter : Char) : Opt :=
  ⟨name, letter, .value, false, fun _ => true⟩

/-- An option with a path as its value, which is not empty. -/
def pathOption (name : String) (letter : Char) : Opt :=
  ⟨name, letter, .value, false, fun v => !v.isEmpty⟩

/-- The largest count. -/
def countMax : Nat := Nat.pow 2 64 - 1

/-- The count that a text writes, with or without a plus sign. -/
def count? (text : String) : Option Nat :=
  let digits := match text.toList with
    | '+' :: rest => rest
    | rest => rest
  let n := digits.foldl (fun n c => n * 10 + (c.toNat - '0'.toNat)) 0
  if digits.isEmpty || !digits.all Char.isDigit || countMax < n then none else some n

/-- The options of every level. -/
def everywhere : List Opt := [pathOption "presets" 'p', ⟨"help", 'h', .help, false, fun _ => true⟩]

/-- The word that asks for help where other words open levels. -/
def helpWord : String := "help"

/-- The words for tasks. -/
def taskWords : List String :=
  ["list", "show", "batch", "exec", "contexts", "git", "branch", "sql"]

/-- The words for tasks with SQL. -/
def sqlWords : List String := ["where", "select"]

/-- A level with the options of every level and some of its own. -/
def levelWith (options : List Opt) (wordsMax : Option Nat) : Level :=
  ⟨everywhere ++ options, [], wordsMax⟩

/-- A level that only opens others. -/
def menu (options : List Opt) (words : List String) : Level :=
  ⟨everywhere ++ options, helpWord :: words, some 0⟩

/-- The outermost level. -/
def outermost : Level :=
  menu [⟨"version", 'V', .version, false, fun _ => true⟩] taskWords

/-- The level behind the word for SQL. -/
def sqlLevel : Level := menu [] sqlWords

/-! ### Tasks -/

/-- The words of a task, if there is one at least. -/
def someWords : List String → Except Refusal (List String)
  | [] => .error .usage
  | words => .ok words

/-- A task that is written by a level of its own, with the presets file named there. -/
def taskOf (level : Level) (args : List String) (task : Reading → Except Refusal Task) :
    Except Refusal Request := do
  let r ← level.read args
  return ⟨r.value? "presets", ← task r⟩

/-- Reads the arguments behind a word for a task with SQL. -/
def sqlTask (word : String) (args : List String) : Except Refusal Request :=
  match word with
  | "where" =>
    taskOf (levelWith [] (some 1)) args fun r =>
      match r.words with
      | [conditions] => .ok (.whereClause conditions)
      | _ => .error .usage
  | _ =>
    let columns : Opt := { textOption "columns" 'c' with repeats := true }
    taskOf (levelWith [columns, textOption "where" 'w'] (some 1)) args fun r =>
      match r.words with
      | [table] => .ok (.select table (r.values "columns") (r.value? "where"))
      | _ => .error .usage

/-- The words that open levels behind the word for a task. -/
def innerWords (word : String) : List String :=
  if word = "sql" then helpWord :: sqlWords else []

/-- Asks for help on a level, or on one inside it; both have to be there. -/
def helpOn (known : List String) : List String → Refusal
  | [] => .help
  | [word] => if (helpWord :: known).contains word then .help else .usage
  | [word, inner] =>
    if known.contains word && (innerWords word).contains inner then .help else .usage
  | _ => .usage

/-- The request of an inner level; a presets file that is named only outside counts for it. -/
def within (outer : Reading) (inner : Except Refusal Request) : Except Refusal Request :=
  inner.map fun r => { r with presets := r.presets.or (outer.value? "presets") }

/-- Reads the arguments behind the word for SQL. -/
def sqlRequest (args : List String) : Except Refusal Request := do
  let r ← sqlLevel.read args
  match r.opened with
  | some (word, args) =>
    if word = helpWord then .error (helpOn sqlWords args) else within r (sqlTask word args)
  | none => .error .usage

/-- Reads the arguments behind a word for a task. -/
def request (word : String) (args : List String) : Except Refusal Request :=
  match word with
  | "list" => taskOf (levelWith [mark "generators" 'g'] (some 0)) args fun r =>
      .ok (.names (r.has "generators"))
  | "show" => taskOf (levelWith [] none) args fun r => do return .resolve (← someWords r.words)
  | "batch" => taskOf (levelWith [] none) args fun r => do return .batch (← someWords r.words)
  | "exec" =>
    let admitted : Opt := { textOption "admitted-errors" 'a' with accepts := (count? · |>.isSome) }
    taskOf (levelWith [admitted, mark "yes" 'y', pathOption "results" 'r'] none) args fun r => do
      return .execute (← someWords r.words) ((r.value? "admitted-errors").bind count?)
        (r.has "yes") (r.value? "results")
  | "contexts" => taskOf (levelWith [] (some 1)) args fun r =>
      match r.words with
      | [name] => .ok (.contexts name)
      | _ => .error .usage
  | "git" =>
    let options : Opt := { textOption "options" 'o' with operand := .anyValue }
    taskOf (levelWith [options] none) args fun r =>
      match r.words with
      | subcommand :: id :: ids =>
        .ok (.onObjects subcommand ((r.value? "options").getD "") (id :: ids))
      | _ => .error .usage
  | "branch" =>
    let options := [textOption "remote" 'r', pathOption "repository" 'C']
    taskOf (levelWith options (some 2)) args fun r =>
      match r.words with
      | [operation, branch] =>
        .ok (.onBranch operation branch ((r.value? "remote").getD "origin")
          ((r.value? "repository").getD "."))
      | _ => .error .usage
  | _ => sqlRequest args

/-- Reads the arguments of the program. -/
def parse (args : List String) : Except Refusal Request := do
  let r ← outermost.read args
  match r.opened with
  | some (word, args) =>
    if word = helpWord then .error (helpOn taskWords args) else within r (request word args)
  | none => .error .usage

end Runbook.Invocation
