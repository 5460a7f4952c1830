/-!
# What quoting leaves special

A script is read one character at a time. Each character that is not itself a quote or a comment
gets a mark that says how far quoting has taken its special meaning away: not at all, as between
double quotes, where an expansion may still start, or wholly. What stands in the brackets of an
expansion is kept as it is, to be read when the expansion is made.

The reader is a fold of `Reader.step`, so reading a text that follows another one starts in the
state that the first one leaves.
-/

namespace Runbook.Shell

/-- The brackets of an expansion. -/
inductive Bracket where
  /-- A dollar and parentheses: the output of a script. -/
  | command
  /-- Backquotes: the output of a script as well. -/
  | backquote
  /-- A dollar and braces: a parameter. -/
  | brace
deriving DecidableEq, Repr

/-- A character of a script, or a border that has none. -/
inductive Mark where
  /-- Outside of quotes. -/
  | bare (c : Char)
  /-- Between double quotes. -/
  | soft (c : Char)
  /-- Behind a backslash or between single quotes. -/
  | hard (c : Char)
  /-- Where a quote opens: a word begins here, even if nothing is in it. -/
  | quote
  /-- Where the brackets of an expansion open, between double quotes or not. -/
  | opens (bracket : Bracket) (quoted : Bool)
  /-- Inside the brackets of an expansion. -/
  | inner (c : Char)
  /-- Where the brackets of an expansion close. -/
  | closes
deriving DecidableEq, Repr

/-- What a reader is inside of. -/
inductive Enclosure where
  | single
  | double
  | brackets (b : Bracket) (depth : Nat)
deriving DecidableEq, Repr

/-- Where a reader stands. -/
structure Reader where
  /-- What it is inside of, innermost first. -/
  inside : List Enclosure
  /-- A backslash has just been read. -/
  escaped : Bool
  /-- A dollar that may start an expansion has just been read. -/
  dollar : Bool
  /-- A word may begin here. -/
  fresh : Bool
  /-- The rest of the line is a comment. -/
  comment : Bool
deriving DecidableEq, Repr

namespace Reader

/-- A reader at the start of a script. -/
def start : Reader := ⟨[], false, false, true, false⟩

/-- A reader behind a character that is part of a word. -/
def within (inside : List Enclosure) : Reader := ⟨inside, false, false, false, false⟩

/-- A character that ends a word and may stand before the next one. -/
def isBreak (c : Char) : Bool := [' ', '\t', '\n', ';', '&', '|', '(', ')', '<', '>'].contains c

/-- A character that a backslash takes the meaning from between double quotes. -/
def isActiveInQuotes (c : Char) : Bool := ['$', '\x60', '"', '\\'].contains c

/-- The brackets that a character opens. -/
def opened? (r : Reader) (c : Char) : Option Bracket :=
  if c = '\x60' then some .backquote
  else if r.dollar ∧ c = '(' then some .command
  else if r.dollar ∧ c = '{' then some .brace
  else none

/-- One character outside of quotes. -/
def stepBare (r : Reader) (c : Char) : Reader × List Mark :=
  if r.comment then if c = '\n' then (start, [.bare c]) else (r, [])
  else if r.escaped then
    if c = '\n' then ({ r with escaped := false }, []) else (within [], [.hard c])
  else if c = '\\' then ({ r with escaped := true, dollar := false }, [])
  else if c = '\'' then (within [.single], [.quote])
  else if c = '"' then (within [.double], [.quote])
  else if c = '#' ∧ r.fresh then ({ r with comment := true }, [])
  else match r.opened? c with
    | some b => (within [.brackets b 0], [.opens b false])
    | none => ({ within [] with dollar := c == '$', fresh := isBreak c }, [.bare c])

/-- One character between single quotes. -/
def stepSingle (c : Char) : Reader × List Mark :=
  if c = '\'' then (within [], []) else (within [.single], [.hard c])

/-- One character between double quotes. -/
def stepDouble (r : Reader) (c : Char) : Reader × List Mark :=
  if r.escaped then
    if c = '\n' then (within [.double], [])
    else if isActiveInQuotes c then (within [.double], [.hard c])
    else (within [.double], [.hard '\\', .hard c])
  else if c = '\\' then ({ within [.double] with escaped := true }, [])
  else if c = '"' then (within [], [])
  else match r.opened? c with
    | some b => (within [.brackets b 0, .double], [.opens b true])
    | none => ({ within [.double] with dollar := c == '$' }, [.soft c])

/-- One character inside brackets `b`, with `outer` around them. -/
def stepBrackets (r : Reader) (b : Bracket) (depth : Nat) (outer : List Enclosure) (c : Char) :
    Reader × List Mark :=
  let here := .brackets b depth :: outer
  let close : Reader × List Mark :=
    (within outer, [if outer.all (· == .double) then .closes else .inner c])
  match b with
  | .backquote =>
    if r.escaped then
      (within here, if c = '$' ∨ c = '\x60' ∨ c = '\\' ∨ (c = '"' ∧ outer.contains .double)
        then [.inner c] else [.inner '\\', .inner c])
    else if c = '\\' then ({ within here with escaped := true }, [])
    else if c = '\x60' then close
    else (within here, [.inner c])
  | b =>
    let (left, right) := if b = .brace then ('{', '}') else ('(', ')')
    if r.escaped then (within here, [.inner c])
    else if c = '\\' then ({ within here with escaped := true }, [.inner c])
    else if c = '\'' then (within (.single :: here), [.inner c])
    else if c = '"' then (within (.double :: here), [.inner c])
    else if c = left then (within (.brackets b (depth + 1) :: outer), [.inner c])
    else if c = right then
      match depth with
      | 0 => close
      | depth + 1 => (within (.brackets b depth :: outer), [.inner c])
    else match r.opened? c with
      | some b => (within (.brackets b 0 :: here), [.inner c])
      | none => ({ within here with dollar := c == '$' }, [.inner c])

/-- One character between quotes that stand inside brackets. -/
def stepKept (r : Reader) (quote : Enclosure) (outer : List Enclosure) (c : Char) :
    Reader × List Mark :=
  let here := quote :: outer
  match quote with
  | .single => (within (if c = '\'' then outer else here), [.inner c])
  | _ =>
    if r.escaped then (within here, [.inner c])
    else if c = '\\' then ({ within here with escaped := true }, [.inner c])
    else if c = '"' then (within outer, [.inner c])
    else match r.opened? c with
      | some b => (within (.brackets b 0 :: here), [.inner c])
      | none => ({ within here with dollar := c == '$' }, [.inner c])

/-- One character. -/
def step (r : Reader) (c : Char) : Reader × List Mark :=
  match r.inside with
  | [] => r.stepBare c
  | [.single] => stepSingle c
  | [.double] => r.stepDouble c
  | .brackets b depth :: outer => r.stepBrackets b depth outer c
  | quote :: outer => r.stepKept quote outer c

/-- A text: where it leaves the reader, and its marks. -/
def read (r : Reader) : List Char → Reader × List Mark
  | [] => (r, [])
  | c :: cs =>
    let (r, marks) := r.step c
    let (r, rest) := r.read cs
    (r, marks ++ rest)

/-- Reading two texts after one another is reading both at once. -/
theorem read_append (r : Reader) (s t : List Char) :
    r.read (s ++ t) = (((r.read s).1.read t).1, (r.read s).2 ++ ((r.read s).1.read t).2) := by
  induction s generalizing r with
  | nil => simp [read]
  | cons c cs ih => simp [read, ih, List.append_assoc]

end Reader

end Runbook.Shell
