import Runbook.Invocation.Answer
import Runbook.Run.Clock

/-!
# The program

Reads what a request may concern into a file tree, answers the request, and writes back what has
become of the files. The request itself is answered without looking at the world again.
-/

namespace Runbook.Main

/-- The names of a path from the root down. -/
def namesOf (path : String) : Location := (Text.splitAt '/' path).filter (!·.isEmpty)

/-- Where a path leads, if all its names are those of directories. -/
def reach (here : Location) (path : String) : Location :=
  (namesOf path).foldl (fun loc name =>
    if name = "." then loc else if name = ".." then loc.dropLast else loc ++ [name])
    (if path.startsWith "/" then [] else here)

/-- The path of a location. -/
def pathOf (loc : Location) : String := "/" ++ "/".intercalate loc

/-- What is at a path and below it, from the outside in. -/
partial def nodesAt (loc : Location) : IO (List (Location × Node)) := do
  try
    let path := (← IO.currentDir) / pathOf loc
    match (← path.metadata).type with
    | .dir =>
      let entries ← path.readDir
      let below ← entries.toList.mapM fun e => nodesAt (loc ++ [e.fileName])
      return (loc, .directory) :: below.flatten
    | .file => return [(loc, .file (← IO.FS.readBinFile path))]
    | _ => return []
  catch _ => return []

/-- The seconds since the beginning of 1970 when the program was started. -/
def startTime : IO Nat := do
  try
    let path := (← IO.currentDir) / "/proc/self"
    return (← path.metadata).modified.sec.toNat
  catch _ => return 0

/-- The variables of the environment. -/
def readEnvironment : IO Environment := do
  try
    let bytes ← IO.FS.readBinFile "/proc/self/environ"
    let entries := Text.splitAt '\x00' (Text.decode bytes.toList)
    return entries.filterMap fun entry =>
      match Text.splitAt '=' entry with
      | name :: value :: more => some (name, "=".intercalate (value :: more))
      | _ => none
  catch _ => return []

/-- The directories above a location and itself, the outermost first. -/
def levels (loc : Location) : List Location := (List.range (loc.length + 1)).map (loc.take ·)

/-- Reads what a request may concern: the working directory, the repositories above it, the presets
and everything that an argument names. -/
def readFiles (here : Location) (environment : Environment) (args : List String) :
    IO FileTree := do
  let named := args.flatMap fun arg => arg :: (Text.splitAt '=' arg).drop 1
  let named := named.filterMap fun arg => if arg.contains '/' then some (reach here arg) else none
  let repositories := (levels here).map (· ++ [".git"])
  let presets := namesOf (Presets.defaultPath environment)
  let parts ← (here :: presets :: repositories ++ named).mapM nodesAt
  return parts.flatten.foldl (fun t (loc, node) =>
    match t.makeDirectories? loc.dropLast with
    | some t => if (t.at? loc).isSome then t else t.set loc node
    | none => t) (((FileTree.mk [] here).makeDirectories? here).getD ⟨[], here⟩)

/-- Writes back what a request has changed. -/
def writeBack (before after : FileTree) : IO Unit := do
  for (loc, _) in before.nodes.reverse do
    if (after.at? loc).isNone then
      match before.at? loc with
      | some .directory => IO.FS.removeDirAll (pathOf loc)
      | _ => IO.FS.removeFile (pathOf loc)
  for (loc, node) in after.nodes do
    if before.at? loc != some node then
      match node with
      | .directory => IO.FS.createDirAll (pathOf loc)
      | .file content => IO.FS.writeBinFile (pathOf loc) content

end Runbook.Main

open Runbook in
/-- Answers the arguments of the command line. -/
def main (args : List String) : IO UInt32 := do
  let here := Main.namesOf (← IO.currentDir).toString
  let environment ← Main.readEnvironment
  let files ← Main.readFiles here environment args
  let time := Run.timestamp (← Main.startTime)
  let answer := (⟨environment, files, time⟩ : Invocation.Setting).run args
  Main.writeBack files answer.files
  (← IO.getStdout).putStr answer.text
  match answer.failure with
  | some e => if !e.message.isEmpty then (← IO.getStderr).putStrLn e.message
  | none => pure ()
  return answer.exitCode.toUInt32
