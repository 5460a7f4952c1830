import Runbook.Json.Basic

/-!
# Tables under construction

While a document is read, a table knows how it came to be, because that decides what may still be
added: a table with a header of its own is not given a second one, one that only stands on the way
to another header may get its own header later, and one made by dotted keys grows by dotted keys
alone. Values are closed.
-/

namespace Runbook.Toml

/-- How a table came to be. -/
inductive Origin where
  /-- It has a header, or is the document itself. -/
  | header
  /-- It stands on the way to a header. -/
  | passage
  /-- It was made by dotted keys. -/
  | dotted
deriving DecidableEq, Repr, Inhabited

/-- What a key leads to in a document that is being read. -/
inductive Entry where
  /-- A value, to which nothing can be added. -/
  | value (v : Json)
  /-- A table with its entries in order. -/
  | table (origin : Origin) (entries : List (String × Entry))
  /-- Tables that share a header in double brackets, the last one first. -/
  | tables (rows : List (List (String × Entry)))
deriving Inhabited

/-- A table with its origin and its entries in order. -/
structure Table where
  origin : Origin
  entries : List (String × Entry)
deriving Inhabited

namespace Table

/-- A table without entries. -/
def new (origin : Origin) : Table := ⟨origin, []⟩

/-- What a key leads to. -/
def get? (t : Table) (key : String) : Option Entry := (t.entries.find? (·.1 == key)).map (·.2)

/-- Sets what a key leads to: in its old place, or at the end if the key is new. -/
def setIn (key : String) (e : Entry) : List (String × Entry) → List (String × Entry)
  | [] => [(key, e)]
  | (k, f) :: rest => if k = key then (k, e) :: rest else (k, f) :: setIn key e rest

/-- Sets what a key leads to. -/
def set (t : Table) (key : String) (e : Entry) : Table :=
  { t with entries := setIn key e t.entries }

/-- Takes a key away. -/
def remove (t : Table) (key : String) : Table :=
  { t with entries := t.entries.filter (·.1 != key) }

/-- Changes the table at the end of a path. Tables that are missing on the way are made with the
given origin; dotted keys do not pass through a table with a header. -/
def change? (origin : Origin) (f : Table → Option Table) : List String → Table → Option Table
  | [], t => f t
  | key :: path, t =>
    match t.get? key with
    | none => (change? origin f path (new origin)).map fun u =>
        t.set key (.table u.origin u.entries)
    | some (.value _) => none
    | some (.table o entries) =>
      if origin = .dotted ∧ o = .header then none
      else (change? origin f path ⟨o, entries⟩).map fun u => t.set key (.table u.origin u.entries)
    | some (.tables []) => none
    | some (.tables (row :: rows)) =>
      (change? origin f path ⟨.header, row⟩).map fun u => t.set key (.tables (u.entries :: rows))

/-- Adds a value under a path of keys. -/
def add? (t : Table) (path : List String) (key : String) (v : Json) : Option Table :=
  change? .dotted (fun u =>
    if (u.origin = .dotted) = (path = []) then none
    else if (u.get? key).isSome then none
    else some (u.set key (.value v))) path t

/-- The entry at a path, the tables on the way made if they are missing. -/
def open? (t : Table) (path : List String) (key : String) : Option (Option Entry × Table) :=
  match change? .passage some path t with
  | none => none
  | some t =>
    let found := path.foldl (fun (u : Option Table) k => u.bind fun u =>
      match u.get? k with
      | some (.table o entries) => some ⟨o, entries⟩
      | some (.tables (row :: _)) => some ⟨.header, row⟩
      | _ => none) (some t)
    some (found.bind (·.get? key), t)

mutual

/-- The value that an entry stands for. -/
def valueOf : Entry → Json
  | .value v => v
  | .table _ entries => .obj (valuesOf entries)
  | .tables rows => .arr (rowsOf rows).reverse
termination_by structural e => e

/-- The values of entries. -/
def valuesOf : List (String × Entry) → List (String × Json)
  | [] => []
  | (key, e) :: rest => (key, valueOf e) :: valuesOf rest
termination_by structural es => es

/-- The values of tables that share a header. -/
def rowsOf : List (List (String × Entry)) → List Json
  | [] => []
  | row :: rest => .obj (valuesOf row) :: rowsOf rest
termination_by structural rows => rows

end

/-- The value that a table stands for. -/
def value (t : Table) : Json := .obj (valuesOf t.entries)

end Table

end Runbook.Toml
