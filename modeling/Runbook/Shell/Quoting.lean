/-!
# Quoting for the shell

Two ways to keep a text one word of a command line: between double quotes, where four characters
stay special and get a backslash, and character by character, where everything outside a small
safe set gets one and a newline is put between single quotes.
-/

namespace Runbook.Shell

/-- A character that keeps its meaning between double quotes. -/
def isSpecialInQuotes (c : Char) : Bool := c == '"' || c == '\\' || c == '$' || c == '\x60'

/-- The characters of a text between double quotes. -/
def quotedBody : List Char → List Char
  | [] => []
  | c :: cs => if isSpecialInQuotes c then '\\' :: c :: quotedBody cs else c :: quotedBody cs

/-- The text between double quotes. -/
def quote (text : String) : String := String.ofList ('"' :: (quotedBody text.toList ++ ['"']))

/-- A character that is safe in a word as it is. -/
def isSafe (c : Char) : Bool :=
  ('A' ≤ c && c ≤ 'Z') || ('a' ≤ c && c ≤ 'z') || ('0' ≤ c && c ≤ '9') ||
  ['_', '-', '.', ',', ':', '+', '/', '@'].contains c

/-- One character of an escaped word. -/
def escapedChar (c : Char) : List Char :=
  if isSafe c then [c] else if c = '\n' then ['\'', '\n', '\''] else ['\\', c]

/-- The text as one word; an empty text is a pair of single quotes. -/
def escape (text : String) : String :=
  if text = "" then "''" else String.ofList (text.toList.flatMap escapedChar)

end Runbook.Shell
