import Runbook.Git.Repository
import Runbook.Regex.Parser

/-!
# Revisions

A revision names an object: a name to start from, and steps behind it. A name is an id, a
reference with or without the directories it is kept in, the start of an id, or a description that
ends in the start of an id.
-/

namespace Runbook.Git

/-- A step from an object to another one. -/
inductive Step where
  /-- `^n`: the parent of a number, the commit itself for zero. -/
  | parent (n : Nat)
  /-- `~n`: up the first parents. -/
  | ancestor (n : Nat)
  /-- `^{kind}`: what the object leads to. -/
  | peel (kind : Kind)
  /-- `^{}`: what a tag marks in the end. -/
  | untag
  /-- `^{/text}`: the youngest commit from here on with such a message. -/
  | search (pattern : String)
  /-- `:path`: an entry of the tree. -/
  | path (path : String)
deriving DecidableEq, Repr

/-- What a revision starts from. -/
inductive Start where
  | named (name : String)
  /-- `name@{n}`: what a reference named before its last changes. -/
  | logged (name : String) (changes : Nat)
  /-- `@{-n}`: what was current before the last checkouts. -/
  | checkedOut (checkouts : Nat)
  /-- `:/text`: the youngest commit of all with such a message. -/
  | search (pattern : String)
deriving DecidableEq, Repr

/-- An expression for an object: where it starts, and the steps from there. -/
structure Revision where
  start : Start
  steps : List Step
deriving DecidableEq, Repr

/-! ### Reading revisions -/

namespace Revision

/-- The largest count. -/
def countMax : Nat := Nat.pow 2 31 - 1

/-- The count that digits at the head write, one if there are none. -/
def count? (cs : List Char) : Option (Nat × List Char) :=
  let digits := cs.takeWhile Char.isDigit
  let n := digits.foldl (fun n c => n * 10 + (c.toNat - '0'.toNat)) 0
  if digits.isEmpty then some (1, cs)
  else if n ≤ countMax then some (n, cs.drop digits.length) else none

/-- What stands before the closing brace, and behind it. -/
def braced? (cs : List Char) : Option (String × List Char) :=
  match cs.dropWhile (· != '}') with
  | [] => none
  | _ :: rest => some (String.ofList (cs.takeWhile (· != '}')), rest)

/-- The step that braces behind `^` write. -/
def bracedStep? (content : String) : Option Step :=
  match content.toList with
  | [] => some .untag
  | '/' :: pattern => some (.search (String.ofList pattern))
  | _ => (Kind.ofWord? content).map .peel

/-- Reads steps; `fuel` bounds their number. -/
def steps? : (fuel : Nat) → List Char → Option (List Step)
  | _, [] => some []
  | 0, _ => none
  | fuel + 1, '^' :: '{' :: rest => do
    let (content, rest) ← braced? rest
    let step ← bracedStep? content
    let more ← steps? fuel rest
    return step :: more
  | fuel + 1, '^' :: rest => do
    let (n, rest) ← count? rest
    let more ← steps? fuel rest
    return .parent n :: more
  | fuel + 1, '~' :: rest => do
    let (n, rest) ← count? rest
    let more ← steps? fuel rest
    return .ancestor n :: more
  | _, ':' :: rest => some [.path (String.ofList rest)]
  | _, _ => none

/-- Cuts a text where the steps begin. -/
def cutName : List Char → List Char × List Char
  | [] => ([], [])
  | '@' :: '{' :: rest => ([], '@' :: '{' :: rest)
  | c :: rest =>
    if c = '^' ∨ c = '~' ∨ c = ':' then ([], c :: rest)
    else
      let (name, steps) := cutName rest
      (c :: name, steps)

/-- What a name with a number in braces behind `@` starts from. A number below zero counts
checkouts and has no name before it. -/
def logged? (name content : String) : Option Start :=
  let (negative, digits) := match content.toList with
    | '-' :: rest => (true, rest)
    | '+' :: rest => (false, rest)
    | rest => (false, rest)
  if digits.isEmpty ∨ !digits.all Char.isDigit then none else
  match count? digits with
  | none => none
  | some (n, _) =>
    if !negative then some (.logged name n)
    else if n = 0 ∨ name ≠ "" then none
    else some (.checkedOut n)

/-- Reads a revision; `@` alone is `HEAD`. -/
def parse? (text : String) : Option Revision :=
  let fuel := text.length + 1
  match cutName text.toList with
  | (['@'], []) => some ⟨.named "HEAD", []⟩
  | ([], ':' :: '/' :: pattern) => some ⟨.search (String.ofList pattern), []⟩
  | (name, '@' :: '{' :: rest) => do
    let (content, rest) ← braced? rest
    let start ← logged? (String.ofList name) content
    let steps ← steps? fuel rest
    return ⟨start, steps⟩
  | ([], _) => none
  | (name, rest) => do
    let steps ← steps? fuel rest
    return ⟨.named (String.ofList name), steps⟩

end Revision

/-! ### Finding objects -/

namespace Repository

/-- The names that a short name may stand for, in the order in which they are tried. -/
def candidates (name : String) : List String :=
  [name, "refs/" ++ name, "refs/tags/" ++ name, branchPlace ++ name, "refs/remotes/" ++ name,
    "refs/remotes/" ++ name ++ "/HEAD"]

/-- Tries names in turn; what is there and cannot be read ends the search. -/
def firstRef (r : Repository) (files : FileTree) : List String →
    Except Problem (String × ObjectId)
  | [] => .error .missing
  | name :: names =>
    if RefName.isNormal name then
      match r.resolve files name with
      | .error .missing => firstRef r files names
      | answer => answer
    else firstRef r files names

/-- The reference that a short name stands for; no name stands for `HEAD`. -/
def findRef (r : Repository) (files : FileTree) (name : String) :
    Except Problem (String × ObjectId) :=
  if name = "" then r.resolve files "HEAD"
  else if (candidates name).any RefName.isNormal then r.firstRef files (candidates name)
  else .error .broken

/-- The start of an id that a description ends in: behind a number and `-g`, at the first place
that has `-g`. -/
def described? (name : String) : Option String :=
  let isDescription := match Regex.parse? "[^\n]+-[0-9]+-g[0-9a-fA-F]+" with
    | some pattern => pattern.isMatch name
    | none => false
  let rec behindMark : List Char → Option (List Char)
    | '-' :: 'g' :: rest => some rest
    | _ :: rest => behindMark rest
    | [] => none
  if isDescription then (behindMark name.toList).map String.ofList else none

/-- The object that a name stands for. -/
def named (r : Repository) (files : FileTree) (name : String) :
    Except Problem (ObjectId × Object) := do
  let whole := if name.length = idLength then r.objectFrom files name else .error .missing
  match whole with
  | .error .missing =>
    match r.findRef files name with
    | .ok (_, id) => return (id, ← r.object files id)
    | .error .missing =>
      let start := if name.length < idLength then r.objectFrom files name else .error .missing
      match start, described? name with
      | .error .missing, some digits => r.objectFrom files digits
      | start, _ => start
    | .error e => .error e
  | whole => whole

/-- Puts commits that were not met yet into a row, younger ones first and among equals the one that
came first. -/
def enqueue (c : ObjectId × Commit) : List (ObjectId × Commit) → List (ObjectId × Commit)
  | [] => [c]
  | d :: row =>
    if d.2.committer.time < c.2.committer.time then c :: d :: row else d :: enqueue c row

/-- Goes through the history, the youngest commit of the row first, up to one that `wanted`
holds of. -/
def searchFrom (r : Repository) (files : FileTree) (wanted : Commit → Bool) :
    (fuel : Nat) → (met : List ObjectId) → List (ObjectId × Commit) →
    Except Problem (ObjectId × Object)
  | 0, _, _ => .error .missing
  | _, _, [] => .error .missing
  | fuel + 1, met, (id, c) :: row =>
    if wanted c then .ok (id, .commit c)
    else do
      let (met, row) ← c.parents.foldlM (fun (met, row) parent => do
        if met.contains parent then return (met, row) else
        match ← r.objectOf files .commit parent with
        | .commit p => return (parent :: met, enqueue (parent, p) row)
        | _ => return (met, row)) (met, row)
      searchFrom r files wanted fuel met row

/-- The youngest commit with a message in which a pattern occurs, from some commits on. -/
def search (r : Repository) (files : FileTree) (pattern : String)
    (commits : List (ObjectId × Commit)) : Except Problem (ObjectId × Object) :=
  if pattern.isEmpty then .error .broken else
  match Regex.parse? pattern with
  | none => .error .broken
  | some regex =>
    let row := commits.foldl (fun row c => enqueue c row) []
    r.searchFrom files (fun c => regex.isMatch (Text.decode c.text)) (depthMax files)
      (row.map (·.1)) row

/-- The commits that references lead to, each once. -/
def tips (r : Repository) (files : FileTree) : Except Problem (List (ObjectId × Commit)) := do
  let names ← r.refNames files
  let commits := names.filterMap fun name =>
    (do r.commitOf files (← (do
      let (_, id) ← r.resolve files name
      return (id, ← r.object files id)))).toOption
  return commits.foldl (fun row c => if row.any (·.1 == c.1) then row else row ++ [c]) []

/-- The entry of a tree that path components lead to; a slash may stand behind a tree. -/
def entryAt (r : Repository) (files : FileTree) : List Entry → List String →
    Except Problem (ObjectId × Object)
  | _, [] => .error .missing
  | entries, name :: rest =>
    if name = "" then .error .missing else
    match entries.find? (·.name == name) with
    | none => .error .missing
    | some e =>
      if rest = [] ∨ (e.isTree ∧ rest = [""]) then
        (r.object files e.id).map (e.id, ·)
      else if !e.isTree then .error .missing
      else
        match r.objectOf files .tree e.id with
        | .ok (.tree entries) => entryAt r files entries rest
        | .ok _ => .error .broken
        | .error p => .error p

/-- The commit that is reached over first parents. -/
def ancestor (r : Repository) (files : FileTree) : (n : Nat) → ObjectId × Commit →
    Except Problem (ObjectId × Object)
  | 0, (id, c) => .ok (id, .commit c)
  | n + 1, (_, c) =>
    match c.parents with
    | [] => .error .missing
    | parent :: _ =>
      match r.objectOf files .commit parent with
      | .ok (.commit p) => ancestor r files n (parent, p)
      | .ok _ => .error .broken
      | .error e => .error e

/-- What tags mark in the end. -/
def untag (r : Repository) (files : FileTree) : (steps : Nat) → ObjectId × Object →
    Except Problem (ObjectId × Object)
  | steps + 1, (_, .tag target kind) => do
    let o ← r.objectOf files kind target
    untag r files steps (target, o)
  | 0, (_, .tag _ _) => .error .broken
  | _, other => .ok other

/-- Takes a step. -/
def take (r : Repository) (files : FileTree) (o : ObjectId × Object) :
    Step → Except Problem (ObjectId × Object)
  | .parent n => do
    let (id, c) ← r.commitOf files o
    match n with
    | 0 => return (id, .commit c)
    | n + 1 =>
      match c.parents[n]? with
      | some parent => return (parent, ← r.objectOf files .commit parent)
      | none => .error .missing
  | .ancestor n => do r.ancestor files n (← r.commitOf files o)
  | .peel kind => r.peel files kind (depthMax files) o
  | .untag => r.untag files (depthMax files) o
  | .search pattern => do r.search files pattern [← r.commitOf files o]
  | .path path => do
    match ← r.peel files .tree (depthMax files) o with
    | (id, .tree entries) =>
      if path = "" then return (id, .tree entries)
      else r.entryAt files entries (Text.splitAt '/' path)
    | _ => .error .broken

/-- The object that a revision starts from. -/
def startOf (r : Repository) (files : FileTree) : Start → Except Problem (ObjectId × Object)
  | .named name => r.named files name
  | .logged name 0 => do
    let (_, id) ← r.findRef files name
    return (id, ← r.object files id)
  | .logged name n => do
    let full ← if name = "HEAD" then pure name else (r.findRef files name).map (·.1)
    match (r.log files full)[n]? with
    | some e => return (e.new, ← r.object files e.new)
    | none => .error .missing
  | .checkedOut n =>
    let lead := "checkout: moving from "
    let places := (r.log files "HEAD").filterMap fun e => (behind? lead e.message).bind place?
    match places[n - 1]? with
    | none => .error .missing
    | some place =>
      match r.findRef files place with
      | .ok (_, id) => do return (id, ← r.object files id)
      | .error .missing => r.objectFrom files place
      | .error e => .error e
  | .search pattern => do r.search files pattern (← r.tips files)
where
  /-- What stands before the last `to` of the rest of a message. -/
  place? (text : String) : Option String :=
    let mark := " ot ".toList
    let rec go : List Char → Option (List Char)
      | [] => none
      | c :: cs => if mark.isPrefixOf (c :: cs) then some ((c :: cs).drop mark.length) else go cs
    (go text.toList.reverse).map fun cs => String.ofList cs.reverse

/-- The object that a text names as a revision. -/
def revision (r : Repository) (files : FileTree) (text : String) :
    Except Problem (ObjectId × Object) :=
  match Revision.parse? text with
  | none => .error .broken
  | some v => do v.steps.foldlM (r.take files) (← r.startOf files v.start)

end Repository

end Runbook.Git
