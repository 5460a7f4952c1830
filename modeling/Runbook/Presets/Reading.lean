import Runbook.Presets.Basic
import Runbook.Psql.Batches
import Runbook.Toml.Parser

/-!
# Reading presets

Presets are read out of plain data. The names, users, hosts and passwords of databases, the
buckets, paths and regions of places, and the paths of dumps are then expanded in an environment,
and dump paths are replaced by the files they name.
-/

namespace Runbook.Presets

/-- The members of an object that may also be written as the list of its values in order. Of the
named members none may stand twice; the last `spare` of a list may be missing. -/
def fields? (names : List String) (spare : Nat) : Json → Option (List (Option Json))
  | .obj members =>
    names.mapM fun name =>
      match members.filter (·.1 == name) with
      | [] => some none
      | [m] => some (some m.2)
      | _ => none
  | .arr items =>
    if items.length ≤ names.length ∧ names.length ≤ items.length + spare then
      some (items.map some ++ List.replicate (names.length - items.length) none)
    else none
  | _ => none

/-- A text that has to be there. -/
def requiredText? : Option Json → Option String
  | some (.str s) => some s
  | _ => none

/-- A text that may be left out. -/
def optionalText? : Option Json → Option (Option String)
  | some (.str s) => some (some s)
  | some .null | none => some none
  | _ => none

/-- A port that may be left out. -/
def optionalPort? : Option Json → Option (Option UInt16)
  | some (.int n) => if 0 ≤ n ∧ n < 65536 then some (some (UInt16.ofNat n.toNat)) else none
  | some .null | none => some none
  | _ => none

/-- A flag that is off where it is left out. -/
def flag? : Option Json → Option Bool
  | some (.bool b) => some b
  | none => some false
  | _ => none

/-- Reads a database entry. -/
def databaseOfJson? (j : Json) : Option DatabaseEntry := do
  let [name, user, password, host, port] ← fields? ["name", "user", "password", "host", "port"] 0 j
    | none
  return ⟨← requiredText? name, ← requiredText? user, ← optionalText? password,
    ← requiredText? host, ← optionalPort? port⟩

/-- Reads a place in S3. -/
def placeOfJson? (j : Json) : Option S3.Path := do
  let [bucket, region, path, isDir, excluded, included] ←
    fields? ["bucket", "region", "path", "is_dir", "exclude", "include"] 0 j | none
  return ⟨← requiredText? bucket, ← optionalText? region, ← requiredText? path, ← flag? isDir,
    ← optionalText? excluded, ← optionalText? included⟩

/-- Reads a list of texts. -/
def textsOfJson? : Json → Option (List String)
  | .arr items => items.mapM Json.text?
  | _ => none

mutual

/-- The value as JSON holds it: null in the place of numbers that it cannot write. Integers fit 64
bits, with or without a sign. -/
def storable? : Json → Option Json
  | .int n => if -0x8000000000000000 ≤ n ∧ n < 0x10000000000000000 then some (.int n) else none
  | .float x => some (if x.isFinite then .float x else .null)
  | .arr items => (storableItems? items).map .arr
  | .obj members => (storableMembers? members).map .obj
  | j => some j
termination_by structural j => j

/-- `storable?` for the items of a list. -/
def storableItems? : List Json → Option (List Json)
  | [] => some []
  | j :: rest =>
    match storable? j, storableItems? rest with
    | some j, some rest => some (j :: rest)
    | _, _ => none
termination_by structural js => js

/-- `storable?` for the values of members. -/
def storableMembers? : List (String × Json) → Option (List (String × Json))
  | [] => some []
  | (name, j) :: rest =>
    match storable? j, storableMembers? rest with
    | some j, some rest => some ((name, j) :: rest)
    | _, _ => none
termination_by structural ms => ms

end

/-- Reads the templates of a name. -/
def templatesOfJson? : Json → Option (List (List (String × Json)))
  | .arr items => items.mapM fun j => (storable? j).bind fun j => j.merged.members?
  | _ => none

/-- Reads a definition; also what is passed over in it has to be storable. -/
def definitionOfJson? (j : Json) : Option Value := (storable? j).bind fun _ => Value.ofJson? j

/-- Reads a section, which is empty if it is left out; of things with one name the last stays. -/
def sectionOfJson? {α : Type} (f : Json → Option α) : Option Json → Option (Catalog α)
  | none => some .empty
  | some (.obj members) =>
    (members.mapM fun m => (f m.2).map fun a => (m.1, a)).map Catalog.ofList
  | some _ => none

/-- Reads the sections. -/
def ofJson? (j : Json) : Option Presets := do
  let [databases, places, dumps, queries, definitions, contexts] ←
    fields? ["psql_db", "s3_path", "dumps", "queries", "definitions", "contexts"] 6 j | none
  return ⟨← sectionOfJson? databaseOfJson? databases, ← sectionOfJson? placeOfJson? places,
    ← sectionOfJson? textsOfJson? dumps, ← sectionOfJson? textsOfJson? queries,
    ← sectionOfJson? definitionOfJson? definitions, ← sectionOfJson? templatesOfJson? contexts⟩

/-- Expands a text in an environment. -/
def expandText (env : Environment) (text : String) : Except PresetsError String :=
  match env.expand text with
  | .ok text => .ok text
  | .error e => .error (.expansion e)

/-- Expands a text that may be left out. -/
def expandOptional (env : Environment) : Option String → Except PresetsError (Option String)
  | some text => do return some (← expandText env text)
  | none => .ok none

/-- Expands the texts of a database entry. -/
def expandDatabase (env : Environment) (e : DatabaseEntry) : Except PresetsError DatabaseEntry := do
  let name ← expandText env e.name
  let user ← expandText env e.user
  let host ← expandText env e.host
  let password ← expandOptional env e.password
  return { e with name, user, host, password }

/-- Expands the texts of a place in S3, except for its patterns. -/
def expandPlace (env : Environment) (e : S3.Path) : Except PresetsError S3.Path := do
  let bucket ← expandText env e.bucket
  let path ← expandText env e.path
  let region ← expandOptional env e.region
  return { e with bucket, path, region }

/-- Expands the paths of a listing, and replaces patterns by the files they name. -/
def expandDumps (env : Environment) (files : FileTree) (paths : List String) :
    Except PresetsError (List String) := do
  let paths ← paths.mapM (expandText env)
  match Psql.expandPaths files (paths.map some) with
  | .ok found => return found.filterMap id
  | .error e => throw (.definition e)

/-- Changes all things of a catalog in order. -/
def mapEntries {α : Type} (f : α → Except PresetsError α) (c : Catalog α) :
    Except PresetsError (Catalog α) := do
  return .ofList (← c.entries.mapM fun (name, a) => do return (name, ← f a))

/-- Expands everything that a presets file leaves to its environment. -/
def expand (env : Environment) (files : FileTree) (p : Presets) : Except PresetsError Presets := do
  let databases ← mapEntries (expandDatabase env) p.databases
  let places ← mapEntries (expandPlace env) p.places
  let dumps ← mapEntries (expandDumps env files) p.dumps
  return { p with databases, places, dumps }

/-- Reads the text of a presets file. -/
def parse (env : Environment) (files : FileTree) (text : String) : Except PresetsError Presets :=
  match (Toml.parse? text).bind ofJson? with
  | some p => p.expand env files
  | none => .error .malformed

/-- Reads a presets file; where nothing is, there are no presets. -/
def load (env : Environment) (files : FileTree) (path : String) : Except PresetsError Presets :=
  match files.node? path with
  | none => .ok empty
  | some .directory => .error .isDirectory
  | some (.file content) =>
    match String.fromUTF8? content with
    | some text => parse env files text
    | none => .error .notText

/-- The path of a name below a directory. -/
def below (dir name : String) : String :=
  if dir.endsWith "/" then dir ++ name else dir ++ "/" ++ name

/-- Where presets are kept: in the directory for configuration, which is below the home directory
unless the environment names another one by an absolute path. -/
def defaultPath (env : Environment) : String :=
  let config := match env.get? "XDG_CONFIG_HOME" with
    | some dir => if dir.startsWith "/" then dir else below (String.ofList env.home) ".config"
    | none => below (String.ofList env.home) ".config"
  below (below config "rooomy") "presets.toml"

end Runbook.Presets
