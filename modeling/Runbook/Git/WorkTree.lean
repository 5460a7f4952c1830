import Runbook.Git.Repository

/-!
# Checking out

A checkout makes the files of a work tree those of another tree. What somebody else has changed
there is kept: if a file stands in the way, nothing is changed at all.
-/

namespace Runbook.Git

/-- The files of a tree by location, each with its mode and id. -/
abbrev Listing := List (Location × Nat × ObjectId)

/-- What is to be done with a file of the work tree. -/
inductive Change where
  | keep
  | write (id : ObjectId)
  | delete
  /-- It is not as the tree before had it. -/
  | conflict
deriving DecidableEq, Repr

namespace Repository

/-- The files of a tree; `steps` bounds the depth of the tree. -/
def listing (r : Repository) (files : FileTree) : (steps : Nat) → Location → ObjectId →
    Except Problem Listing
  | 0, _, _ => .error .broken
  | steps + 1, dir, id => do
    match ← r.objectOf files .tree id with
    | .tree entries =>
      let parts ← entries.mapM fun e =>
        if e.isTree then listing r files steps (dir ++ [e.name]) e.id
        else .ok [(dir ++ [e.name], e.mode, e.id)]
      return parts.flatten
    | _ => .error .broken

/-- The files of the tree that an object leads to. -/
def listingOf (r : Repository) (files : FileTree) (id : ObjectId) : Except Problem Listing := do
  let o ← r.object files id
  let (tree, _) ← r.peel files .tree (depthMax files) (id, o)
  r.listing files (depthMax files) [] tree

/-- The content of a file of a tree. -/
def blob? (r : Repository) (files : FileTree) (id : ObjectId) : Option Bytes :=
  match r.object files id with
  | .ok (.blob content) => some content
  | _ => none

/-- A file is on the way down to a location. -/
def isBlocked (files : FileTree) (loc : Location) : Bool :=
  (List.range loc.length).any fun n =>
    match files.at? (loc.take n) with
    | some (.file _) => true
    | _ => false

/-- What becomes of a file that one tree has before, and another one after, the checkout. -/
def change (r : Repository) (files : FileTree) (loc : Location)
    (before after : Option (Nat × ObjectId)) : Change :=
  let holds (content : Bytes) (side : Option (Nat × ObjectId)) : Bool :=
    (side.bind fun s => r.blob? files s.2) == some content
  if before = after then .keep
  else if isBlocked files loc then .conflict
  else match files.at? loc, before, after with
    | none, none, some (_, id) => .write id
    | none, some _, some _ => .conflict
    | none, _, none => .keep
    | some .directory, _, some _ => .conflict
    | some .directory, _, none => .keep
    | some (.file _), none, some _ => .conflict
    | some (.file content), before, some (m, id) =>
      if holds content.toList before ∨ holds content.toList (some (m, id)) then .write id
      else .conflict
    | some (.file content), before, none =>
      if holds content.toList before then .delete else .conflict

/-- Takes a file away, and the directories that are empty without it. -/
def deleteFile (files : FileTree) (root loc : Location) : FileTree :=
  let above := ((List.range loc.length).filter (· > root.length)).reverse
  above.foldl (fun files n =>
    if (files.children (loc.take n)).isEmpty then files.remove (loc.take n) else files)
    (files.remove loc)

/-- Makes the files of the work tree those of another tree. -/
def checkoutFiles (r : Repository) (files : FileTree) (before after : Listing) :
    Except Problem FileTree := do
  let paths := (before ++ after).map (·.1)
  let paths := paths.foldl (fun met p => if met.contains p then met else met ++ [p]) []
  let changes := paths.map fun p =>
    (r.workTree ++ p, r.change files (r.workTree ++ p) (before.lookup p) (after.lookup p))
  if changes.any (·.2 == .conflict) then .error .broken else
  let deleted := changes.foldl (fun files (loc, c) =>
    if c = .delete then deleteFile files r.workTree loc else files) files
  changes.foldlM (fun t (loc, c) =>
    match c with
    | .write id =>
      match (r.blob? files id).bind (setFile? t loc) with
      | some t => .ok t
      | none => .error .broken
    | _ => .ok t) deleted

/-- Makes a branch current, and the files of the work tree those of its commit. -/
def checkout (r : Repository) (files : FileTree) (branch : String) : Except Problem FileTree := do
  match RefName.normal? (branchRef branch) with
  | none => .error .broken
  | some full =>
    let (_, id) ← r.resolve files full
    let after ← r.listingOf files id
    let before ← match r.head files with
      | .ok (_, id) => r.listingOf files id
      | .error .missing => .ok []
      | .error e => .error e
    r.setHead (← r.checkoutFiles files before after) full

end Repository

end Runbook.Git
