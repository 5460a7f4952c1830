import Runbook.Text.Split

/-!
# Names of references

A reference is named by segments with slashes between them. What a reader of revisions gives a
meaning to (`^`, `~`, `:`, two points, `@` before a brace) stands in no name, and a name of one
segment is in capitals, as `HEAD` is.
-/

namespace Runbook.Git

/-- The branch names are under this directory. -/
def branchPlace : String := "refs/heads/"

/-- What stands at the head of a text, taken off. -/
def behind? (lead text : String) : Option String :=
  if lead.toList.isPrefixOf text.toList then
    some (String.ofList (text.toList.drop lead.length))
  else none

namespace RefName

/-- A character that stands in names. -/
def isPlain (c : Char) : Bool :=
  decide (' ' < c) && !(['~', '^', ':', '\\', '?', '[', '*'].contains c)

/-- Two characters that stand side by side in no name. -/
def isBarred (a b : Char) : Bool := (a == '.' && b == '.') || (a == '@' && b == '{')

/-- A segment that stands in names; the empty one is looked at apart. -/
def isSegment (s : List Char) : Bool :=
  s.head? != some '.' && s.all isPlain && !((s.zip s.tail).any fun p => isBarred p.1 p.2) &&
    !(".lock".toList.isSuffixOf s)

/-- Capitals, with low lines inside only. -/
def isCapital (s : List Char) : Bool :=
  s.all (fun c => c.isUpper || c == '_') && s.head? != some '_' && s.getLast? != some '_'

/-- The name without its empty segments, if it is one. -/
def normal? (name : String) : Option String :=
  let segments := Text.pieces '/' name.toList
  let kept := segments.filter (!·.isEmpty)
  let first := segments.headD []
  let last := segments.getLast?.getD []
  if first.isEmpty ∨ last.isEmpty ∨ !segments.all isSegment ∨ last.getLast? = some '.' then none
  else if isCapital first == (kept.length == 1) then
    some (String.ofList (['/'].intercalate kept))
  else none

/-- A name as it has to be written. -/
def isNormal (name : String) : Bool := normal? name == some name

/-- The short name: what stands behind the kind of the reference. -/
def short (name : String) : String :=
  match behind? branchPlace name with
  | some s => s
  | none =>
    match behind? "refs/tags/" name with
    | some s => s
    | none =>
      match behind? "refs/remotes/" name with
      | some s => s
      | none => (behind? "refs/" name).getD name

/-- Behind a lead stands what the lead was put before. -/
theorem behind?_append (lead text : String) : behind? lead (lead ++ text) = some text := by
  have h : (lead.toList ++ text.toList).drop lead.length = text.toList :=
    List.drop_left' String.length_toList
  simp [behind?, h]

/-- The short name of a branch. -/
theorem short_branch (name : String) : short (branchPlace ++ name) = name := by
  simp [short, behind?_append]

end RefName

end Runbook.Git
