import Runbook.Json.Printer
import Runbook.Text.WordChar

/-!
# Placeholders

A placeholder is a name of word characters between braces. Filling goes through a template once,
from left to right: what was put in is not looked at again, and a brace that opens no placeholder
stays.
-/

namespace Runbook.Contexts

/-- A flat mapping of names to values, in order. -/
abbrev Context := List (String × Json)

/-- The name of the placeholder that the text behind an opening brace completes, with the text
behind its closing brace. -/
def placeholder? (cs : List Char) : Option (List Char × List Char) :=
  match cs.dropWhile Text.isWord with
  | '}' :: rest =>
    if (cs.takeWhile Text.isWord).isEmpty then none else some (cs.takeWhile Text.isWord, rest)
  | _ => none

/-- What is left behind a placeholder is shorter than the text it was found in. -/
theorem length_of_placeholder? {cs name rest : List Char}
    (h : placeholder? cs = some (name, rest)) : rest.length < cs.length := by
  unfold placeholder? at h
  have len := congrArg List.length (List.takeWhile_append_dropWhile (p := Text.isWord) (l := cs))
  simp only [List.length_append] at len
  split at h
  · rename_i r hr
    rw [hr, List.length_cons] at len
    split at h
    · exact absurd h (by simp)
    · simp only [Option.some.injEq, Prod.mk.injEq] at h
      obtain ⟨-, rfl⟩ := h
      omega
  · exact absurd h (by simp)

/-- The text that stands for a value: a string as it is, anything else as compact JSON. -/
def plainText : Json → String
  | .str s => s
  | j => j.compact

/-- The text that replaces a placeholder, which is the placeholder itself for an unknown name. -/
def replacement (context : Context) (name : List Char) : List Char :=
  match Json.lookup? (String.ofList name) context with
  | some j => (plainText j).toList
  | none => '{' :: (name ++ ['}'])

/-- The template with its placeholders filled. -/
def fillChars (context : Context) : List Char → List Char
  | [] => []
  | c :: cs =>
    if c = '{' then
      match _h : placeholder? cs with
      | some (name, rest) => replacement context name ++ fillChars context rest
      | none => c :: fillChars context cs
    else c :: fillChars context cs
termination_by cs => cs.length
decreasing_by
  · have := length_of_placeholder? _h; simp; omega
  · simp
  · simp

/-- The template with its placeholders filled out of a context. -/
def fill (template : String) (context : Context) : String :=
  String.ofList (fillChars context template.toList)

end Runbook.Contexts
