import Runbook.Text.Split

/-!
# File trees

Directories and files under a root, with a working directory. A path is looked up one component
at a time, as an operating system does: every component but the last has to be a directory, so
`file/..` leads nowhere.
-/

namespace Runbook

/-- What a location of a file tree holds. -/
inductive Node where
  | directory
  | file (content : ByteArray)
deriving Inhabited

/-- Files are told apart by their bytes. -/
instance : DecidableEq Node
  | .directory, .directory => isTrue rfl
  | .directory, .file _ => isFalse nofun
  | .file _, .directory => isFalse nofun
  | .file a, .file b =>
    decidable_of_decidable_of_iff (p := a.data = b.data)
      ⟨fun h => congrArg Node.file (ByteArray.ext h),
        fun h => congrArg ByteArray.data (Node.file.inj h)⟩

/-- A location: the names from the root down. -/
abbrev Location := List String

/-- Files and directories by location, and the working directory. The root itself has no entry. -/
structure FileTree where
  nodes : List (Location × Node)
  here : Location
deriving Inhabited

namespace FileTree

/-- The node at a location. -/
def at? (t : FileTree) (loc : Location) : Option Node :=
  if loc = [] then some .directory else (t.nodes.find? (·.1 == loc)).map (·.2)

/-- Follows path components from an existing location. -/
def follow? (t : FileTree) : Location → List String → Option Location
  | loc, [] => some loc
  | loc, name :: rest =>
    if t.at? loc = some .directory then
      if name = "" ∨ name = "." then follow? t loc rest
      else if name = ".." then follow? t loc.dropLast rest
      else if (t.at? (loc ++ [name])).isSome then follow? t (loc ++ [name]) rest
      else none
    else none

/-- Where a path leads, if it leads anywhere; an empty path does not. -/
def locate? (t : FileTree) (path : String) : Option Location :=
  if path = "" then none
  else t.follow? (if path.startsWith "/" then [] else t.here) (Text.splitAt '/' path)

/-- The node that a path leads to. -/
def node? (t : FileTree) (path : String) : Option Node := (t.locate? path).bind t.at?

/-- The path leads to something. -/
def exists? (t : FileTree) (path : String) : Bool := (t.node? path).isSome

/-- The path leads to a directory. -/
def isDirectory (t : FileTree) (path : String) : Bool := t.node? path == some .directory

/-- The content of the file that a path leads to. -/
def content? (t : FileTree) (path : String) : Option ByteArray :=
  match t.node? path with
  | some (.file content) => some content
  | _ => none

/-- The name of an entry directly below a location. -/
def childName? (loc : Location) (below : Location) : Option String :=
  match below.getLast? with
  | some name => if below.dropLast = loc then some name else none
  | none => none

/-- The names directly below a location, in order. -/
def children (t : FileTree) (loc : Location) : List String :=
  (t.nodes.filterMap fun e => childName? loc e.1).mergeSort (· ≤ ·)

/-- Sets a node, over what the location held before. -/
def set (t : FileTree) (loc : Location) (node : Node) : FileTree :=
  { t with nodes := t.nodes.filter (·.1 != loc) ++ [(loc, node)] }

/-- Takes a location and everything below it away. -/
def remove (t : FileTree) (loc : Location) : FileTree :=
  { t with nodes := t.nodes.filter fun e => !loc.isPrefixOf e.1 }

/-- Makes the directories on the way down to a location, as far as no file is in the way. -/
def makeDirectories? (t : FileTree) (loc : Location) : Option FileTree :=
  (List.range loc.length).foldl (fun acc i => acc.bind fun t =>
    let loc := loc.take (i + 1)
    match t.at? loc with
    | none => some (t.set loc .directory)
    | some .directory => some t
    | some (.file _) => none) (some t)

/-- Follows path components, making the directories that are missing. -/
def makeFollow? : List String → FileTree → Location → Option FileTree
  | [], t, loc => if t.at? loc = some .directory then some t else none
  | name :: rest, t, loc =>
    if t.at? loc = some .directory then
      if name = "" ∨ name = "." then makeFollow? rest t loc
      else if name = ".." then makeFollow? rest t loc.dropLast
      else
        let next := loc ++ [name]
        makeFollow? rest (if (t.at? next).isSome then t else t.set next .directory) next
    else none

/-- Makes the directory that a path leads to, with those on the way; nothing if a file is in the
way. -/
def makePath? (t : FileTree) (path : String) : Option FileTree :=
  makeFollow? (Text.splitAt '/' path) t (if path.startsWith "/" then [] else t.here)

/-- The directory that a path names a place in, and the name in it; nothing if the directory is
not there or the path ends in no name. -/
def place? (t : FileTree) (path : String) : Option Location :=
  let parts := Text.splitAt '/' path
  match parts.getLast? with
  | none => none
  | some name =>
    if name = "" ∨ name = "." ∨ name = ".." then none else
    let start := if path.startsWith "/" then [] else t.here
    match t.follow? start parts.dropLast with
    | some dir => if t.at? dir = some .directory then some (dir ++ [name]) else none
    | none => none

/-- Writes a file; nothing if its directory is missing or a directory has its name. -/
def write? (t : FileTree) (path : String) (content : ByteArray) : Option FileTree :=
  match t.place? path with
  | some loc => if t.at? loc = some .directory then none else some (t.set loc (.file content))
  | none => none

/-- A tree with the given paths below the working directory, parents made as needed. -/
def ofPaths (here : Location) (paths : List (String × Node)) : FileTree :=
  let start : FileTree := (FileTree.mk [] here).makeDirectories? here |>.getD ⟨[], here⟩
  paths.foldl (fun t (path, node) =>
    let names := (Text.splitAt '/' path).filter (fun n => n ≠ "" ∧ n ≠ ".")
    let loc := here ++ names
    match node with
    | .directory => (t.makeDirectories? loc).getD t
    | .file _ => ((t.makeDirectories? loc.dropLast).getD t).set loc node) start

end FileTree

end Runbook
