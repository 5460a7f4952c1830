import Runbook.Shell.Utilities.Basic

/-!
# Utilities on files

Listing, making, copying, moving and removing files and directories.
-/

namespace Runbook.Shell

/-- What stands after the last slash of a path. -/
def baseName (path : String) : String :=
  match (Text.splitAt '/' path).filter (· ≠ "") |>.getLast? with
  | some name => name
  | none => if path = "" then "" else "/"

/-- What stands before the last slash of a path. -/
def directoryName (path : String) : String :=
  let parts := (Text.splitAt '/' path).reverse.dropWhile (· = "")
  match (parts.drop 1).dropWhile (· = "") with
  | [] => if path.startsWith "/" then "/" else "."
  | rest => "/".intercalate rest.reverse

/-! ### Listing -/

/-- The listing of a directory, hidden names only if asked for. -/
def entries (files : FileTree) (flags : List Char) (loc : Location) : List String :=
  let names := files.children loc
  if flags.contains 'a' then "." :: ".." :: names
  else if flags.contains 'A' then names
  else names.filter fun n => !n.startsWith "."

/-- Lists files, then the entries of directories. -/
def ls : Utility := fun c => c.withOptions "ls" 2 ['1', 'a', 'A', 'd', 'r', 'p', 'F'] fun o =>
  let order (names : List String) : List String :=
    if o.flags.contains 'r' then names.reverse else names
  let mark (loc : Location) (name : String) : String :=
    if (o.flags.contains 'p' ∨ o.flags.contains 'F') ∧ c.files.at? loc = some .directory
    then name ++ "/" else name
  let lines (names : List String) : List UInt8 := Text.encode (String.join (names.map (· ++ "\n")))
  let operands := if o.operands.isEmpty then ["."] else order (o.operands.mergeSort (· ≤ ·))
  let failed := operands.filterMap fun p =>
    match c.files.lookup p with
    | .ok _ => none
    | .error e => some ("ls: cannot access '" ++ p ++ "': " ++ e.message ++ "\n")
  let found := operands.filterMap fun p =>
    (c.files.lookup p).toOption.map fun (loc, n) => (p, loc, n)
  let isListed (n : Node) : Bool := n == .directory && !o.flags.contains 'd'
  let plain := (found.filter fun (_, _, n) => !isListed n).map fun (p, loc, _) => mark loc p
  let directories := (found.filter fun (_, _, n) => isListed n).map fun (p, loc, _) =>
    (p, (order (entries c.files o.flags loc)).map fun name => mark (loc ++ [name]) name)
  let titled := operands.length > 1
  let blocks := directories.map fun (p, names) =>
    (if titled then Text.encode (p ++ ":\n") else []) ++ lines names
  let blocks := if plain.isEmpty then blocks else lines plain :: blocks
  ⟨if failed.isEmpty then 0 else 2,
    failed.map (fun m => (.error, Text.encode m)) ++ [(.output, [10].intercalate blocks)],
    c.files, c.input⟩

/-! ### Making and removing -/

/-- Does something for each operand in turn; what fails leaves a message. -/
def forEach (c : Call) (operands : List String)
    (act : FileTree → String → Except String FileTree) : Reply :=
  operands.foldl (fun r p =>
    match act r.files p with
    | .ok files => { r with files := files }
    | .error m =>
      { r with status := 1, written := r.written ++ [(.error, Text.encode (m ++ "\n"))] })
    (c.done 0)

/-- A message about operands that are missing. -/
def missingOperand (c : Call) (name what : String) : Reply :=
  c.refuse 1 (name ++ ": missing " ++ what ++ "\nTry '" ++ name ++ " --help' for more information.")

/-- Why nothing can be made at a path. -/
def unmade (files : FileTree) (path : String) : String :=
  match files.lookup (directoryName path) with
  | .error e => e.message
  | .ok (_, .directory) => FileTree.PathError.notFound.message
  | .ok (_, .file _) => FileTree.PathError.notDirectory.message

/-- Makes files that are not there. -/
def touch : Utility := fun c => c.withOptions "touch" 1 ['c', 'a', 'm'] fun o =>
  if o.operands.isEmpty then missingOperand c "touch" "file operand"
  else forEach c o.operands fun files p =>
    if files.exists? p ∨ o.flags.contains 'c' then .ok files
    else match files.write? p .empty with
      | some files => .ok files
      | none => .error ("touch: cannot touch '" ++ p ++ "': " ++ unmade files p)

/-- Makes directories. -/
def mkdir : Utility := fun c => c.withOptions "mkdir" 1 ['p'] fun o =>
  if o.operands.isEmpty then missingOperand c "mkdir" "operand"
  else forEach c o.operands fun files p =>
    if o.flags.contains 'p' then
      match files.makePath? p with
      | some files => .ok files
      | none => .error ("mkdir: cannot create directory '" ++ p ++ "': Not a directory")
    else if files.exists? p then
      .error ("mkdir: cannot create directory '" ++ p ++ "': File exists")
    else
      let path := String.ofList (p.toList.reverse.dropWhile (· = '/')).reverse
      match files.place? path with
      | some loc => .ok (files.set loc .directory)
      | none => .error ("mkdir: cannot create directory '" ++ p ++ "': " ++ unmade files path)

/-- Removes directories that are empty. -/
def rmdir : Utility := fun c =>
  if c.args.isEmpty then missingOperand c "rmdir" "operand"
  else forEach c c.args fun files p =>
    let refuse (m : String) : Except String FileTree :=
      .error ("rmdir: failed to remove '" ++ p ++ "': " ++ m)
    match files.lookup p with
    | .error e => refuse e.message
    | .ok (_, .file _) => refuse FileTree.PathError.notDirectory.message
    | .ok (loc, .directory) =>
      if (files.children loc).isEmpty then .ok (files.remove loc)
      else refuse "Directory not empty"

/-- Removes files, and directories if asked to. -/
def rm : Utility := fun c => c.withOptions "rm" 1 ['f', 'r', 'R', 'd', 'v'] fun o =>
  if o.operands.isEmpty then
    if o.flags.contains 'f' then c.done 0 else missingOperand c "rm" "operand"
  else forEach c o.operands fun files p =>
    match files.lookup p with
    | .error e =>
      if o.flags.contains 'f' then .ok files
      else .error ("rm: cannot remove '" ++ p ++ "': " ++ e.message)
    | .ok (loc, .directory) =>
      if o.flags.contains 'r' ∨ o.flags.contains 'R' then .ok (files.remove loc)
      else .error ("rm: cannot remove '" ++ p ++ "': Is a directory")
    | .ok (loc, .file _) => .ok (files.remove loc)

/-! ### Copying and moving -/

/-- Where an operand goes: into the target if that is a directory. -/
def destination? (files : FileTree) (source target : String) : Option Location :=
  match files.lookup target with
  | .ok (loc, .directory) => some (loc ++ [baseName source])
  | .ok (loc, .file _) => some loc
  | .error _ => files.place? (String.ofList (target.toList.reverse.dropWhile (· = '/')).reverse)

/-- Puts what stands at and below a location of one tree at a location of another. -/
def graft (source : FileTree) (loc : Location) (target : FileTree) (there : Location) : FileTree :=
  (source.nodes.filter fun e => loc.isPrefixOf e.1).foldl
    (fun t e => t.set (there ++ e.1.drop loc.length) e.2) target

/-- Carries operands to the last of them. -/
def carry (c : Call) (name : String) (operands : List String)
    (act : FileTree → String → Location → Node → Location → Except String FileTree) : Reply :=
  match operands.reverse with
  | [] => missingOperand c name "file operand"
  | [p] => missingOperand c name ("destination file operand after '" ++ p ++ "'")
  | target :: sources =>
    if sources.length > 1 ∧ !c.files.isDirectory target then
      c.refuse 1 (name ++ ": target '" ++ target ++ "': " ++
        (if c.files.exists? target then FileTree.PathError.notDirectory
          else FileTree.PathError.notFound).message)
    else forEach c sources.reverse fun files p =>
      match files.lookup p with
      | .error e => .error (name ++ ": cannot stat '" ++ p ++ "': " ++ e.message)
      | .ok (loc, node) =>
        match destination? files p target with
        | none => .error (name ++ ": cannot create regular file '" ++ target ++ "': " ++
            unmade files target)
        | some there =>
          if there = loc then .error (name ++ ": '" ++ p ++ "' and '" ++ target ++
            "' are the same file")
          else act files p loc node there

/-- Copies files, and directories if asked to. -/
def cp : Utility := fun c => c.withOptions "cp" 1 ['r', 'R', 'a', 'f', 'p'] fun o =>
  carry c "cp" o.operands fun files p loc node there =>
    match node with
    | .file _ => .ok (files.set there node)
    | .directory =>
      if o.flags.any (['r', 'R', 'a'].contains ·) then .ok (graft files loc files there)
      else .error ("cp: -r not specified; omitting directory '" ++ p ++ "'")

/-- Moves files and directories. -/
def mv : Utility := fun c => c.withOptions "mv" 1 ['f', 'n'] fun o =>
  carry c "mv" o.operands fun files _ loc _ there =>
    .ok (graft files loc (files.remove loc) there)

/-! ### Names -/

/-- Prints the last name of a path, without an ending. -/
def basename : Utility := fun c =>
  match c.args with
  | [] => missingOperand c "basename" "operand"
  | [p] => c.text (baseName p ++ "\n")
  | p :: ending :: _ =>
    let name := (baseName p).toList
    let cut := name.take (name.length - ending.length)
    c.text (String.ofList (if cut.isEmpty ∨ cut ++ ending.toList ≠ name then name else cut) ++ "\n")

/-- Prints what stands before the last name of a path. -/
def dirname : Utility := fun c =>
  if c.args.isEmpty then missingOperand c "dirname" "operand"
  else c.text (String.join (c.args.map fun p => directoryName p ++ "\n"))

end Runbook.Shell
