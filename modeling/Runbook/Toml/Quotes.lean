import Runbook.Json.Parser

/-!
# TOML strings

Basic strings have escapes, literal strings have none; tripled quotes let either run over several
lines. Readers take the text behind the opening quotes.
-/

namespace Runbook.Toml

/-- A control character that no text may hold; a tab is none. -/
def isControl (c : Char) : Bool := (c.toNat < 32 && c != '\t') || c.toNat == 127

/-- The character for a code point that is one. -/
def scalar? (n : Nat) : Option Char :=
  if n < 0xD800 ∨ (0xE000 ≤ n ∧ n < 0x110000) then some (Char.ofNat n) else none

/-- The character that hexadecimal digits number. -/
def hexScalar? (digits : List Char) : Option Char :=
  (digits.mapM Json.hexValue?).bind fun ds => scalar? (ds.foldl (fun n d => n * 16 + d) 0)

/-- How many hexadecimal digits follow a letter behind a backslash. -/
def hexLength? (c : Char) : Option Nat :=
  match c with
  | 'x' => some 2
  | 'u' => some 4
  | 'U' => some 8
  | _ => none

/-- The character that a letter behind a backslash names. -/
def namedEscape? (c : Char) : Option Char :=
  match c with
  | 'b' => some '\x08'
  | 't' => some '\t'
  | 'n' => some '\n'
  | 'f' => some '\x0c'
  | 'r' => some '\r'
  | 'e' => some '\x1b'
  | '"' => some '"'
  | '\\' => some '\\'
  | _ => none

/-- Reads what follows a backslash. -/
def escape? : List Char → Option (Char × List Char)
  | [] => none
  | c :: rest =>
    match namedEscape? c, hexLength? c with
    | some d, _ => some (d, rest)
    | none, some n =>
      if (rest.take n).length = n then (hexScalar? (rest.take n)).map (·, rest.drop n) else none
    | none, none => none

/-- Puts a character in front of what a reader found. -/
def prepend (c : Char) : Option (List Char × List Char) → Option (List Char × List Char)
  | some (text, rest) => some (c :: text, rest)
  | none => none

/-- A basic string up to its quote. -/
def basicBody : (fuel : Nat) → List Char → Option (List Char × List Char)
  | 0, _ => none
  | _ + 1, [] => none
  | _ + 1, '"' :: rest => some ([], rest)
  | fuel + 1, '\\' :: rest =>
    match escape? rest with
    | some (c, rest) => prepend c (basicBody fuel rest)
    | none => none
  | fuel + 1, c :: rest => if isControl c then none else prepend c (basicBody fuel rest)

/-- A literal string up to its quote. -/
def literalBody : List Char → Option (List Char × List Char)
  | [] => none
  | '\'' :: rest => some ([], rest)
  | c :: rest => if isControl c then none else prepend c (literalBody rest)

/-- The text behind an end of line, if one stands here. -/
def newline? : List Char → Option (List Char)
  | '\n' :: rest => some rest
  | '\r' :: '\n' :: rest => some rest
  | _ => none

/-- The text behind blanks of a line. -/
def skipBlanks (cs : List Char) : List Char := cs.dropWhile fun c => c == ' ' || c == '\t'

/-- The text behind blanks and ends of lines. -/
def skipLines (cs : List Char) : List Char :=
  cs.dropWhile fun c => c == ' ' || c == '\t' || c == '\n' || c == '\r'

/-- A string over several lines up to three quotes, of which two more may be part of the text.
Ends of lines are read as a line feed; in a basic string a backslash at the end of a line takes
the blanks before the next text away. -/
def linesBody (quote : Char) : (fuel : Nat) → List Char → Option (List Char × List Char)
  | 0, _ => none
  | _ + 1, [] => none
  | fuel + 1, c :: rest =>
    if c = quote then
      let more := rest.takeWhile (· = quote)
      let behind := rest.dropWhile (· = quote)
      if more.length < 2 then prepend c (linesBody quote fuel rest)
      else if more.length ≤ 4 then some (more.drop 2, behind)
      else none
    else if c = '\\' ∧ quote = '"' then
      match newline? (skipBlanks rest) with
      | some rest => linesBody quote fuel (skipLines rest)
      | none =>
        match escape? rest with
        | some (d, rest) => prepend d (linesBody quote fuel rest)
        | none => none
    else match newline? (c :: rest) with
      | some rest => prepend '\n' (linesBody quote fuel rest)
      | none => if isControl c then none else prepend c (linesBody quote fuel rest)

/-- A string over several lines, whose first end of line is no part of it. -/
def lines (quote : Char) (cs : List Char) : Option (List Char × List Char) :=
  linesBody quote (cs.length + 1) ((newline? cs).getD cs)

/-- Reads a string of any kind that starts here. -/
def string? : List Char → Option (List Char × List Char)
  | '"' :: '"' :: '"' :: rest => lines '"' rest
  | '\'' :: '\'' :: '\'' :: rest => lines '\'' rest
  | '"' :: rest => basicBody (rest.length + 1) rest
  | '\'' :: rest => literalBody rest
  | _ => none

end Runbook.Toml
