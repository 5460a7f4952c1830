import Runbook.Glob.Pattern
import Runbook.FileTree

/-!
# Files that a pattern names

A pattern is followed through a file tree component by component. A literal component is looked
up, a wildcard is compared with the names of a directory, and `**` stands for the directory it is
met in and all directories below. Paths are spelled as the pattern spells them, except that a
leading `.` disappears.
-/

namespace Runbook.Glob

/-- One component of a pattern. -/
abbrev Component := List Token

/-- The component stands for any number of directories. -/
def Component.isRecursive (p : Component) : Bool := p.contains .anyDirectories

/-- The path of an entry of a directory. -/
def join (path name : String) : String :=
  if path.endsWith "/" then path ++ name else path ++ "/" ++ name

/-- The path is a spelling of the working directory. -/
def isHere (path : String) : Bool :=
  match Text.splitAt '/' path with
  | "." :: rest => rest.all fun n => n == "" || n == "."
  | _ => false

/-- The path of an entry, where entries of the working directory go by their bare name. -/
def entryPath (path name : String) : String := if isHere path then name else join path name

/-- What a search goes through: the tree, and whether only directories count. -/
structure Search where
  tree : FileTree
  directoriesOnly : Bool

/-- The path counts as a result. -/
def Search.accepts (s : Search) (path : String) : Bool :=
  !s.directoriesOnly || s.tree.isDirectory path

/-- The names of a directory. -/
def Search.names (s : Search) (path : String) : List String :=
  match s.tree.locate? path with
  | some loc => s.tree.children loc
  | none => []

/-- Drops all but the last of the recursive components that stand first. -/
def collapse : List Component → List Component
  | p :: q :: rest =>
    if p.isRecursive && q.isRecursive then collapse (q :: rest) else p :: q :: rest
  | ps => ps

mutual

/-- The paths below `path` that match all components. -/
def below (s : Search) : (fuel : Nat) → List Component → (path : String) → List String
  | 0, _, _ => []
  | _ + 1, [], _ => []
  | fuel + 1, p :: rest, path =>
    let go (next : String) : List String :=
      if rest.isEmpty then (if s.accepts next then [next] else []) else below s fuel rest next
    match literal? p with
    | some name =>
      let name := String.ofList name
      let next := entryPath path name
      if name = "." ∨ name = ".." then
        if s.tree.isDirectory path then go next else []
      else if s.tree.exists? next then go next else []
    | none =>
      if s.tree.isDirectory path then
        let dots := if p.head? = some (.char '.') then
            [".", ".."].filter fun n => matchesName p n.toList
          else []
        (s.names path).flatMap (fun n => entry s fuel (p :: rest) (entryPath path n) n) ++
          dots.flatMap (fun n => go (join path n))
      else []

/-- The results that the entry with the given path and name leads to. -/
def entry (s : Search) : (fuel : Nat) → List Component → (path name : String) → List String
  | 0, _, _, _ => []
  | fuel + 1, ps, path, name =>
    match collapse ps with
    | [] => []
    | p :: rest =>
      if p.isRecursive then
        let deeper := if s.tree.isDirectory path then below s fuel (p :: rest) path else []
        if rest.isEmpty then
          deeper ++ (if s.tree.isDirectory path then [path] else [])
        else deeper ++ named s fuel rest path name
      else named s fuel (p :: rest) path name

/-- The results for an entry whose own name is compared with the first component. -/
def named (s : Search) : (fuel : Nat) → List Component → (path name : String) → List String
  | 0, _, _, _ => []
  | _ + 1, [], _, _ => []
  | fuel + 1, p :: rest, path, name =>
    if matchesName p name.toList then
      if rest.isEmpty then (if s.accepts path then [path] else []) else below s fuel rest path
    else []

end

/-- The components of a pattern; an end in a separator adds none. -/
def components (pattern : String) : List String :=
  let parts := Text.splitAt '/' pattern
  if parts.getLast? = some "" then parts.dropLast else parts

/-- The paths that match a pattern, in ascending order. -/
def expand (tree : FileTree) (pattern : String) : Except PatternError (List String) := do
  let _ ← parse pattern
  let absolute := pattern.startsWith "/"
  let body := if absolute then String.ofList (pattern.toList.dropWhile (· = '/')) else pattern
  let parts ← (components body).mapM parse
  let search : Search := ⟨tree, pattern.endsWith "/"⟩
  let fuel := 3 * (parts.length + 1) * (tree.nodes.length + 2)
  return (below search fuel parts (if absolute then "/" else ".")).mergeSort (· ≤ ·)

/-- A path with a character that makes it a pattern. -/
def hasWildcard (path : String) : Bool := path.toList.any (['*', '?', '['].contains ·)

/-- The paths of a listing with each pattern replaced by what it matches, or kept if that is
nothing. -/
def expandAll (tree : FileTree) : List (Option String) → Except PatternError (List (Option String))
  | [] => .ok []
  | none :: rest => (expandAll tree rest).map (none :: ·)
  | some path :: rest =>
    if hasWildcard path then do
      let found ← expand tree path
      let others ← expandAll tree rest
      return (if found.isEmpty then [some path] else found.map some) ++ others
    else (expandAll tree rest).map (some path :: ·)

end Runbook.Glob
