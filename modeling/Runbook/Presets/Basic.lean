import Runbook.Catalog
import Runbook.Contexts.Template
import Runbook.Definition.Registry
import Runbook.Environment
import Runbook.Psql.Database
import Runbook.S3.Path
import Runbook.Toml.Printer

/-!
# Presets

What a user keeps in a file: databases, places in S3, listings of dumps and queries, definitions,
and templates of contexts, each by name. All but the templates become presets of a registry.
-/

namespace Runbook

/-- A database as a presets file describes it. -/
structure DatabaseEntry where
  name : String
  user : String
  password : Option String
  host : String
  port : Option UInt16
deriving DecidableEq, Repr

/-- The database that an entry describes. -/
def DatabaseEntry.database (e : DatabaseEntry) : Psql.Database :=
  ⟨some e.name, some e.user, e.password, some e.host, e.port.map fun p => toString p.toNat⟩

/-- Named things of a presets file. -/
structure Presets where
  databases : Catalog DatabaseEntry
  places : Catalog S3.Path
  dumps : Catalog (List String)
  queries : Catalog (List String)
  definitions : Catalog Value
  contexts : Catalog (List (List (String × Json)))
deriving DecidableEq

/-- Why presets cannot be used. -/
inductive PresetsError where
  /-- The text is no presets file. -/
  | malformed
  /-- A text in it cannot be expanded. -/
  | expansion (error : Environment.ExpansionError)
  /-- A dump path is no pattern. -/
  | definition (error : DefinitionError)
  /-- No templates have the name. -/
  | noContexts (name : String)
  /-- The templates cannot be expanded. -/
  | template (error : Contexts.TemplateError)
  /-- The path leads to a directory. -/
  | isDirectory
  /-- The file is no text. -/
  | notText
deriving DecidableEq, Repr

/-- The wording of an error. -/
def PresetsError.message : PresetsError → String
  | .malformed => "malformed presets"
  | .expansion e => e.message
  | .definition e => e.message
  | .noContexts name => "no context templates named " ++ Text.quoted name
  | .template e => e.message
  | .isDirectory => "Is a directory (os error 21)"
  | .notText => "stream did not contain valid UTF-8"

namespace Presets

/-- No presets at all. -/
def empty : Presets := ⟨.empty, .empty, .empty, .empty, .empty, .empty⟩

/-- The number of named things. -/
def size (p : Presets) : Nat :=
  p.databases.size + p.places.size + p.dumps.size + p.queries.size + p.definitions.size +
    p.contexts.size

/-- A text that may be left out. -/
def textOrNull : Option String → Json
  | some s => .str s
  | none => .null

/-- The members of a database entry. -/
def databaseMembers (e : DatabaseEntry) : List (String × Json) :=
  [("name", .str e.name), ("user", .str e.user), ("password", textOrNull e.password),
    ("host", .str e.host), ("port", match e.port with
      | some p => .int p.toNat
      | none => .null)]

/-- The members of a place in S3. -/
def placeMembers (e : S3.Path) : List (String × Json) :=
  [("bucket", .str e.bucket), ("region", textOrNull e.region), ("path", .str e.path),
    ("is_dir", .bool e.isDirectory), ("exclude", textOrNull e.excluded),
    ("include", textOrNull e.included)]

/-- A section of the file, which is left out if it has no names. -/
def sectionOf {α : Type} (name : String) (f : α → Json) (c : Catalog α) : List (String × Json) :=
  if c.entries.isEmpty then [] else [(name, .obj (c.map f).entries)]

/-- The sections in order; `entry` says how an entry with its members is written. -/
def sections (entry : List (String × Json) → Json) (p : Presets) : List (String × Json) :=
  let texts (ts : List String) : Json := .arr (ts.map .str)
  sectionOf "psql_db" (fun e => entry (databaseMembers e)) p.databases ++
    sectionOf "s3_path" (fun e => entry (placeMembers e)) p.places ++
    sectionOf "dumps" texts p.dumps ++ sectionOf "queries" texts p.queries ++
    sectionOf "definitions" Value.toJson p.definitions ++
    sectionOf "contexts" (fun rows => .arr (rows.map .obj)) p.contexts

/-- The JSON form, with null for what an entry leaves out. -/
def toJson (p : Presets) : Json := .obj (p.sections .obj)

/-- A member that is not left out. -/
def isGiven : String × Json → Bool
  | (_, .null) => false
  | _ => true

/-- The text of a presets file; none if a definition or a template holds a null. -/
def text? (p : Presets) : Option String :=
  Toml.print? (.obj (p.sections fun members => .obj (members.filter isGiven)))

/-- The presets say the same. -/
def same (p q : Presets) : Bool := p.toJson.same q.toJson

/-- Defines everything but the templates; of things with one name the later section wins. -/
def register (p : Presets) (r : Registry) : Registry :=
  let all : List (String × Value) :=
    (p.databases.map fun e => e.database.toValue).entries ++
      (p.places.map S3.Path.toValue).entries ++
      (p.dumps.map Value.strings).entries ++ (p.queries.map Value.strings).entries ++
      p.definitions.entries
  all.foldl (fun r e => r.define e.1 e.2) r

/-- The contexts of the templates of a name. -/
def expandContexts (p : Presets) (name : String) : Except PresetsError (List Contexts.Context) :=
  match p.contexts.find? name with
  | none => .error (.noContexts name)
  | some templates =>
    match Contexts.expandMembers templates with
    | .ok contexts => .ok contexts
    | .error e => .error (.template e)

end Presets

end Runbook
