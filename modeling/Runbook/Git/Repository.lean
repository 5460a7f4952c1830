import Runbook.FileTree
import Runbook.Git.Object
import Runbook.Git.RefName

/-!
# Repositories

A repository is a directory with a file `HEAD` and directories `objects` and `refs`. Its references
are files of their own or lines of one packed file; a reference names an object or another
reference. Everything is read off the files each time, so that what one command leaves is what the
next one finds.
-/

namespace Runbook.Git

/-- Where a repository is kept, and where its files are checked out. -/
structure Repository where
  place : Location
  workTree : Location
deriving DecidableEq, Repr, Inhabited

/-- Why a question to a repository has no answer. -/
inductive Problem where
  /-- What was asked for is not there. -/
  | missing
  /-- What is there cannot be read, or is not of the kind asked for. -/
  | broken
  /-- The current commit is not that of a branch. -/
  | notOnBranch
  /-- A call was made with too few arguments. -/
  | missingArgument (call : String) (position : Nat)
  /-- There is no such call. -/
  | unknownCall (call : String)
deriving DecidableEq, Repr

namespace Repository

/-! ### Finding one -/

/-- The directory is a repository. -/
def isPlace (files : FileTree) (loc : Location) : Bool :=
  (match files.at? (loc ++ ["HEAD"]) with
    | some (.file _) => true
    | _ => false) &&
  files.at? (loc ++ ["objects"]) == some .directory &&
  files.at? (loc ++ ["refs"]) == some .directory

/-- The repository of a directory or of the nearest directory above: `.git` in it, or itself. -/
def above? (files : FileTree) (loc : Location) : Option Repository :=
  let levels := (List.range (loc.length + 1)).reverse.map (loc.take ·)
  let places := levels.flatMap fun l => [l ++ [".git"], l]
  (places.find? (isPlace files)).map fun p => ⟨p, p.dropLast⟩

/-- The repository that a path is in. -/
def discover (files : FileTree) (path : String) : Except Problem Repository :=
  match (files.locate? path).bind (above? files) with
  | some r => .ok r
  | none => .error .missing

/-! ### Reading references -/

/-- What a reference names. -/
inductive Ref where
  | direct (id : ObjectId)
  | symbolic (target : String)
deriving DecidableEq, Repr

/-- The location of a file of the repository. -/
def fileAt (r : Repository) (name : String) : Location := r.place ++ Text.splitAt '/' name

/-- The content of a file of the repository. -/
def content? (r : Repository) (files : FileTree) (name : String) : Option Bytes :=
  match files.at? (r.fileAt name) with
  | some (.file content) => some content.toList
  | _ => none

/-- Reads the file of a reference: the name of another one, or an id with nothing but blanks
behind. -/
def readRef (bytes : Bytes) : Except Problem Ref :=
  match field? "ref:" bytes with
  | some target =>
    let target := Text.decode (target.reverse.dropWhile isGap).reverse
    if target.isEmpty then .error .broken else .ok (.symbolic target)
  | none =>
    match ObjectId.ofDigits? (bytes.take idLength) with
    | some id =>
      if (bytes.drop idLength).head?.all isGap then .ok (.direct id) else .error .broken
    | none => .error .broken

/-- Reads a line of packed references: an id and a name. -/
def packedLine? (line : Bytes) : Option (String × ObjectId) := do
  let id ← ObjectId.ofDigits? (line.take idLength)
  match line.drop idLength with
  | 32 :: name =>
    let name := if name.getLast? = some 13 then name.dropLast else name
    return (Text.decode name, id)
  | _ => none

/-- The line says what the tag of the line before it marks. -/
def isPeeled (line : Bytes) : Bool :=
  line.head? == some 94 && (ObjectId.ofDigits? ((line.drop 1).take idLength)).isSome

/-- Reads the lines behind the remarks; a line may be followed by one on what its tag marks. -/
def packedLines? : List Bytes → Option (List (String × ObjectId))
  | [] => some []
  | [line] => if line.isEmpty then some [] else none
  | line :: next :: lines => do
    let entry ← packedLine? line
    let more ← if isPeeled next then packedLines? lines else packedLines? (next :: lines)
    return entry :: more

/-- The packed references. -/
def packed (r : Repository) (files : FileTree) : Except Problem (List (String × ObjectId)) :=
  match r.content? files "packed-refs" with
  | none => .ok []
  | some bytes =>
    match packedLines? ((bytes.splitOn lineEnd).dropWhile fun l => l.head? == some 35) with
    | some entries => .ok entries
    | none => .error .broken

/-- What the reference of a name names; its own file goes before the packed ones. -/
def ref (r : Repository) (files : FileTree) (name : String) : Except Problem Ref := do
  match r.content? files name with
  | some bytes => readRef bytes
  | none =>
    match (← r.packed files).lookup name with
    | some id => return .direct id
    | none => .error .missing

/-- How many references may name one another in a row. -/
def nestingMax : Nat := 5

/-- Follows names of references up to one that names an object. -/
def follow (r : Repository) (files : FileTree) :
    (steps : Nat) → String → Except Problem (String × ObjectId)
  | steps, name => do
    match ← r.ref files name, steps with
    | .direct id, _ => return (name, id)
    | .symbolic target, steps + 1 => follow r files steps target
    | .symbolic _, 0 => .error .broken

/-- The reference, and the object, that a name leads to. -/
def resolve (r : Repository) (files : FileTree) (name : String) :
    Except Problem (String × ObjectId) :=
  match RefName.normal? name with
  | some name => r.follow files nestingMax name
  | none => .error .broken

/-- The reference, and the object, that is current. -/
def head (r : Repository) (files : FileTree) : Except Problem (String × ObjectId) := do
  match ← r.ref files "HEAD" with
  | .direct id => return ("HEAD", id)
  | .symbolic target => r.resolve files target

/-- The name of the current branch. -/
def currentBranch (r : Repository) (files : FileTree) : Except Problem String := do
  let (name, _) ← r.head files
  match behind? branchPlace name with
  | some branch => return branch
  | none => .error .notOnBranch

/-- The names of the references that have files of their own, in order. -/
def looseNames (r : Repository) (files : FileTree) : List String :=
  let root := r.place ++ ["refs"]
  let names := files.nodes.filterMap fun
    | (loc, .file _) =>
      if root.isPrefixOf loc then some ("/".intercalate (loc.drop r.place.length)) else none
    | (_, .directory) => none
  (names.filter fun n => !n.endsWith ".lock").mergeSort (· ≤ ·)

/-- The names of all references that can be read: those with files, then the packed ones. -/
def refNames (r : Repository) (files : FileTree) : Except Problem (List String) := do
  let packed ← r.packed files
  let loose := (r.looseNames files).filter fun n => (r.ref files n).isOk
  let rest := (packed.map (·.1)).filter fun n => !loose.contains n
  return loose ++ (rest.mergeSort (· ≤ ·))

/-- The names of the branches. -/
def branches (r : Repository) (files : FileTree) : Except Problem (List String) :=
  (r.refNames files).map fun names => names.filterMap (behind? branchPlace)

/-! ### Reading objects -/

/-- The directory of objects. -/
def store (r : Repository) : Location := r.place ++ ["objects"]

/-- The object of an id. -/
def object (r : Repository) (files : FileTree) (id : ObjectId) : Except Problem Object :=
  let name := id.digits.toList
  match files.at? (r.store ++ [String.ofList (name.take 2), String.ofList (name.drop 2)]) with
  | some (.file content) =>
    match Object.unpack? content.toList with
    | some o => .ok o
    | none => .error .broken
  | _ => .error .missing

/-- The ids that start with some digits, which say the directory at least. -/
def idsFrom (r : Repository) (files : FileTree) (start : String) : List ObjectId :=
  let dir := String.ofList (start.toList.take 2)
  let names := files.children (r.store ++ [dir])
  (names.map (dir ++ ·)).filterMap fun name =>
    if start.toList.isPrefixOf name.toList then ObjectId.ofText? name else none

/-- The fewest digits that may stand for an id. -/
def digitsMin : Nat := 4

/-- The id that some digits are the start of, and its object. -/
def objectFrom (r : Repository) (files : FileTree) (start : String) :
    Except Problem (ObjectId × Object) :=
  match hexText? start with
  | none => .error .missing
  | some start =>
    if start.isEmpty then .error .missing
    else if start.length < digitsMin then .error .broken
    else match r.idsFrom files start with
      | [] => .error .missing
      | [id] => (r.object files id).map (id, ·)
      | _ => .error .broken

/-- The object that an id names, with its kind as a tag says it. -/
def objectOf (r : Repository) (files : FileTree) (kind : Kind) (id : ObjectId) :
    Except Problem Object := do
  let o ← r.object files id
  if o.kind = kind then return o else .error .missing

/-- Takes tags, and for a tree the commit, off an object, until it is of the kind asked for. -/
def peel (r : Repository) (files : FileTree) (kind : Kind) :
    (steps : Nat) → ObjectId × Object → Except Problem (ObjectId × Object)
  | steps, (id, o) =>
    if o.kind = kind then .ok (id, o)
    else match o, steps with
      | .commit c, steps + 1 =>
        if kind = .tree then do
          let tree ← r.objectOf files .tree c.tree
          peel r files kind steps (c.tree, tree)
        else .error .broken
      | .tag target targetKind, steps + 1 => do
        let o ← r.objectOf files targetKind target
        peel r files kind steps (target, o)
      | _, _ => .error .broken

/-- A bound on the tags in a row: no more than there are files. -/
def depthMax (files : FileTree) : Nat := files.nodes.length + 1

/-- The commit that an object leads to. -/
def commitOf (r : Repository) (files : FileTree) (o : ObjectId × Object) :
    Except Problem (ObjectId × Commit) := do
  match ← r.peel files .commit (depthMax files) o with
  | (id, .commit c) => return (id, c)
  | _ => .error .broken

/-! ### The log of a reference -/

/-- What a log of a reference says about a change. -/
structure LogEntry where
  old : ObjectId
  new : ObjectId
  message : String
deriving DecidableEq, Repr

/-- The directory of logs. -/
def logPlace (r : Repository) : Location := r.place ++ ["logs"]

/-- Where the log of a reference is kept. -/
def logAt (r : Repository) (name : String) : Location := r.logPlace ++ Text.splitAt '/' name

/-- A line of a log: ids before and after, who and when, and behind a tabulator what was done. -/
def LogEntry.line (e : LogEntry) : String :=
  e.old.digits ++ " " ++ e.new.digits ++ " unknown <unknown> 0 +0000\t" ++ e.message ++ "\n"

/-- Reads a line of a log. -/
def LogEntry.read? (line : Bytes) : Option LogEntry := do
  let (old, rest) ← cut? 32 line
  let (new, rest) ← cut? 32 rest
  let old ← ObjectId.ofDigits? old
  let new ← ObjectId.ofDigits? new
  let message := ((cut? 9 rest).map (·.2)).getD []
  return ⟨old, new, Text.decode message⟩

/-- The log of a reference, the last change first. -/
def log (r : Repository) (files : FileTree) (name : String) : List LogEntry :=
  match files.at? (r.logAt name) with
  | some (.file content) => ((content.toList.splitOn lineEnd).filterMap LogEntry.read?).reverse
  | _ => []

/-- Sets a file, with the directories that it needs; nothing if a file or a directory is in the
way. -/
def setFile? (files : FileTree) (loc : Location) (content : Bytes) : Option FileTree :=
  if files.at? loc = some .directory then none
  else (files.makeDirectories? loc.dropLast).map (·.set loc (.file ⟨content.toArray⟩))

/-- Takes directories without files away from a location. -/
def clear (files : FileTree) (loc : Location) : FileTree :=
  if files.nodes.any fun e => loc.isPrefixOf e.1 && e.2 != .directory then files
  else files.remove loc

/-- Adds an entry to the log of a reference. -/
def record (r : Repository) (files : FileTree) (name : String) (e : LogEntry) :
    Except Problem FileTree :=
  let before := match files.at? (r.logAt name) with
    | some (.file content) => content.toList
    | _ => []
  match setFile? files (r.logAt name) (before ++ Text.encode e.line) with
  | some files => .ok files
  | none => .error .broken

/-! ### Changing references -/

/-- One of two names stands for a directory on the way to the other. -/
def collides (a b : String) : Bool := (behind? (a ++ "/") b).isSome || (behind? (b ++ "/") a).isSome

/-- A branch may have the name: it is no option and not the word for what is current. -/
def isBranchName (name : String) : Bool := !name.startsWith "-" && name != "HEAD"

/-- The full name of a branch; slashes in front are left out. -/
def branchRef (name : String) : String :=
  branchPlace ++ String.ofList (name.toList.dropWhile (· == '/'))

/-- Makes a branch at a commit. -/
def createBranch (r : Repository) (files : FileTree) (name : String) (id : ObjectId) :
    Except Problem FileTree := do
  if !isBranchName name then .error .broken else
  match RefName.normal? (branchRef name) with
  | none => .error .broken
  | some full =>
    let packed ← r.packed files
    if (r.content? files full).isSome ∨ (packed.lookup full).isSome ∨
        packed.any (fun p => collides full p.1) then .error .broken
    else
      let loc := r.fileAt full
      match setFile? (clear files loc) loc (Text.encode (id.digits ++ "\n")) with
      | none => .error .broken
      | some after =>
        let entry : LogEntry := ⟨.zero, id, "branch: Created from " ++ id.digits⟩
        let after ← r.record after full entry
        match r.ref files "HEAD" with
        | .ok (.symbolic target) =>
          if target = full then r.record after "HEAD" entry else return after
        | _ => return after

/-- Makes a branch current. -/
def setHead (r : Repository) (files : FileTree) (full : String) : Except Problem FileTree := do
  let current ← r.ref files "HEAD"
  let place := match current with
    | .direct id => id.digits
    | .symbolic target => RefName.short target
  let old := match r.head files with
    | .ok (_, id) => id
    | .error _ => .zero
  match setFile? files (r.fileAt "HEAD") (Text.encode ("ref: " ++ full ++ "\n")) with
  | none => .error .broken
  | some after =>
    match r.resolve after full with
    | .ok (_, new) =>
      r.record after "HEAD"
        ⟨old, new, "checkout: moving from " ++ place ++ " to " ++ RefName.short full⟩
    | .error _ => return after

end Repository

end Runbook.Git
