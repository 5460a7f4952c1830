import Runbook.Catalog
import Runbook.Command
import Runbook.Definition.Error
import Runbook.Definition.Value
import Runbook.FileTree

/-!
# Registries

A registry names presets and generators. A preset stands for a value, possibly built out of other
definitions; a generator turns arguments into a batch. Resolving a value gives a list of values,
one level deep: a list gives its items, a scalar itself, the name of a preset what the preset
stands for, and any other name the name as text. The name of a generator is such a name, also if
a preset has it, so resolution never runs a generator.

Producers may lead back to themselves, and then resolution has no answer (`resolveWithin` says how
deep it may go). Where it has one, no chain of producers meets a name twice, so a depth of the
number of presets is enough.
-/

namespace Runbook

/-- How a preset comes to the value that it stands for.

The program takes any function of the registry here, and these are three kinds of them. In one given
registry a function that ends yields one value, and every definition resolves as it would with that
value fixed. So `fixed` stands for any other function as long as the registry stays the same;
`concat` and `count` are functions whose value follows the registry. -/
inductive Producer where
  /-- A fixed value. -/
  | fixed (value : Value)
  /-- The list of what all parts resolve to. -/
  | concat (parts : List Value)
  /-- The number of values that a definition resolves to. -/
  | count (of : Value)
deriving Repr

/-- What a generator may ask for: what a value resolves to, and which files there are. -/
structure Scope where
  resolve : Value → List Value
  files : FileTree

/-- Turns the arguments of a definition into a batch. -/
abbrev Generator := Scope → List Value → Except DefinitionError Batch

/-- Named presets and generators. -/
structure Registry where
  presets : Catalog Producer
  generators : Catalog Generator

namespace Registry

/-- Without presets and generators. -/
def empty : Registry := ⟨.empty, .empty⟩

instance : Inhabited Registry := ⟨empty⟩

/-- Names a preset, over an older preset of that name. -/
def produce (r : Registry) (name : String) (p : Producer) : Registry :=
  { r with presets := r.presets.insert name p }

/-- Names a fixed value. -/
def define (r : Registry) (name : String) (v : Value) : Registry := r.produce name (.fixed v)

/-- Names a generator, over an older generator of that name. -/
def register (r : Registry) (name : String) (g : Generator) : Registry :=
  { r with generators := r.generators.insert name g }

/-- What a value resolves to if no more than `depth` producers that resolve others are nested. -/
def resolveWithin (r : Registry) : (depth : Nat) → Value → Option (List Value)
  | depth, .ref name =>
    if r.generators.contains name then some [.str name]
    else match r.presets.find? name, depth with
      | none, _ => some [.str name]
      | some (.fixed v), _ => some v.elements
      | some _, 0 => none
      | some (.concat parts), depth + 1 =>
        (parts.mapM (resolveWithin r depth)).map List.flatten
      | some (.count v), depth + 1 =>
        (resolveWithin r depth v).map fun vs => [.int (Int64.ofNat vs.length)]
  | _, v => some v.elements
termination_by structural depth => depth

/-- What a value resolves to; a value whose resolution does not end resolves to nothing. -/
def resolve (r : Registry) (v : Value) : List Value :=
  (r.resolveWithin r.presets.size v).getD []

/-- What generators of this registry may ask for. -/
def scope (r : Registry) (files : FileTree) : Scope := ⟨r.resolve, files⟩

/-- The batch of a definition: its first value names the generator, the others are arguments. -/
def batch (r : Registry) (files : FileTree) (definition : Value) : Except DefinitionError Batch :=
  match r.resolve definition with
  | [] => .error .emptyGenerator
  | head :: args =>
    match head.name? with
    | none => .error (.unknownGenerator head.display)
    | some name =>
      match r.generators.find? name with
      | none => .error (.unknownGenerator name)
      | some g => g (r.scope files) args

/-- The names of both kinds, as a message shows them. -/
def describe (r : Registry) : String :=
  let names (ns : List String) := "[" ++ ", ".intercalate (ns.map Text.quoted) ++ "]"
  "Registry \x7b presets: " ++ names r.presets.names ++ ", generators: " ++
    names r.generators.names ++ " \x7d"

end Registry

end Runbook
