import Runbook.Psql.Database
import Runbook.Catalog

/-!
# Sessions over databases

A slot holds a database and, once its URI was asked for, that URI as a handle. The handle stays
while parts of the database are changed and goes along with a copy; a new, read or merged database
starts without one. A session changes named slots step by step; a slot that was never set holds
the database in which nothing is set.
-/

namespace Runbook.Psql

/-- A database with the handle of its connection, if one was made. -/
structure Slot where
  database : Database
  handle : Option String
deriving DecidableEq, Repr, Inhabited

namespace Slot

/-- A database without a handle. -/
def fresh (d : Database) : Slot := ⟨d, none⟩

/-- The handle of the connection, made now if there is none yet. -/
def connect (s : Slot) : Except DefinitionError (String × Slot) :=
  match s.handle with
  | some uri => .ok (uri, s)
  | none => do
    let uri ← s.database.uri
    return (uri, { s with handle := some uri })

/-- Changes the database and keeps the handle. -/
def update (s : Slot) (f : Database → Database) : Slot := { s with database := f s.database }

end Slot

/-- The parts of a database by name. -/
inductive Part where
  | name | user | password | host | port
deriving DecidableEq, Repr

/-- Sets or clears a part. -/
def Database.set (d : Database) (part : Part) (text : Option String) : Database :=
  match part with
  | .name => { d with name := text }
  | .user => { d with user := text }
  | .password => { d with password := text }
  | .host => { d with host := text }
  | .port => { d with port := text }

/-- What can be done with a slot. -/
inductive Action where
  /-- Puts a new database in. -/
  | new (name user host : String)
  /-- Puts the sample in. -/
  | sample
  /-- Puts a database in that is read from its definition. -/
  | read (scope : Scope) (definition : Value)
  /-- Sets or clears a part. -/
  | set (part : Part) (text : Option String)
  /-- Fills what is not set from another slot. -/
  | merge (other : String)
  /-- Puts a copy of another slot in. -/
  | copy (other : String)
  /-- Asks for the connection. -/
  | uri
  /-- Asks for the command line of a program. -/
  | program (name : String)
  /-- Asks for the definition. -/
  | value
  /-- Asks whether another slot holds the same database. -/
  | equals (other : String)

/-- What a slot answers. -/
inductive Reply where
  | database (d : Database)
  | text (s : String)
  | value (v : Value)
  | flag (b : Bool)

/-- Slots by name. -/
abbrev Session := Catalog Slot

namespace Session

/-- The slot of a name. -/
def slot (s : Session) (name : String) : Slot := (s.find? name).getD (.fresh .unset)

/-- Puts a slot in and answers its database. -/
def put (s : Session) (name : String) (slot : Slot) : Reply × Session :=
  (.database slot.database, s.insert name slot)

/-- One step on the slot of a name; a step that fails changes nothing. -/
def step (s : Session) (name : String) : Action → Except DefinitionError (Reply × Session)
  | .new n u h => .ok (s.put name (.fresh (.new n u h)))
  | .sample => .ok (s.put name (.fresh .sample))
  | .read scope v => do return s.put name (.fresh (← Database.ofValue scope v))
  | .set part text => .ok (s.put name ((s.slot name).update (·.set part text)))
  | .merge other =>
    .ok (s.put name (.fresh ((s.slot name).database.merge (s.slot other).database)))
  | .copy other => .ok (s.put name (s.slot other))
  | .uri => do
    let (uri, slot) ← (s.slot name).connect
    return (.text uri, s.insert name slot)
  | .program p => do return (.text (← (s.slot name).database.programCommand p), s)
  | .value => .ok (.value (s.slot name).database.toValue, s)
  | .equals other => .ok (.flag ((s.slot name).database == (s.slot other).database), s)

end Session

end Runbook.Psql
