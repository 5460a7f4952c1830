import Runbook.Shell.Marks

/-!
# Words and operators

Marks fall into words and operators. Blanks outside of quotes stand between words, and the longest
operator is taken. A script that ends inside of a quote or of brackets ends in a fault.
-/

namespace Runbook.Shell

/-- A word as it is written. -/
abbrev Word := List Mark

/-- Part of a script. -/
inductive Token where
  | word (w : Word)
  /-- A digit that touches the redirection behind it. -/
  | descriptor (n : Nat)
  /-- An operator, or the end of a line. -/
  | operator (text : String)
  /-- The script ends where it must not; the text says in what. -/
  | fault (message : String)
deriving DecidableEq, Repr

/-- A token and the line that it is on. -/
structure Lexeme where
  line : Nat
  token : Token
deriving DecidableEq, Repr

/-- The operators, longest first. -/
def operators : List String :=
  ["<<-", "<<", ">>", "<&", ">&", "<>", ">|", "&&", "||", ";;", ";", "&", "|", "<", ">", "(", ")",
    "\n"]

/-- The characters of a text, outside of quotes, at the start of marks. -/
def stripBare? (text : List Char) (marks : List Mark) : Option (List Mark) :=
  match text, marks with
  | [], rest => some rest
  | c :: cs, .bare d :: rest => if c = d then stripBare? cs rest else none
  | _ :: _, _ => none

/-- The operator at the start of marks, and the marks behind it. -/
def operatorAt? (marks : List Mark) : Option (String × List Mark) :=
  operators.findSome? fun op => (stripBare? op.toList marks).map (op, ·)

/-- The marks fall into tokens; `word` holds the word that is being read, last mark first. -/
def splitMarks : (fuel line : Nat) → (word : List Mark) → List Mark → List Lexeme
  | 0, _, _, _ => []
  | _ + 1, line, word, [] => ended line word
  | fuel + 1, line, word, m :: rest =>
    if m = .bare ' ' ∨ m = .bare '\t' then ended line word ++ splitMarks fuel line [] rest
    else match operatorAt? (m :: rest) with
      | some (op, behind) => touching line op word ++ ⟨line, .operator op⟩ ::
          splitMarks fuel (if op = "\n" then line + 1 else line) [] behind
      | none =>
        let next := if m = .hard '\n' ∨ m = .soft '\n' ∨ m = .inner '\n' then line + 1 else line
        splitMarks fuel next (m :: word) rest
where
  /-- The word that ends here, if there is one. -/
  ended (line : Nat) (word : List Mark) : List Lexeme :=
    if word.isEmpty then [] else [⟨line, .word word.reverse⟩]
  /-- The word that ends at an operator. -/
  touching (line : Nat) (op : String) (word : List Mark) : List Lexeme :=
    match word with
    | [.bare c] =>
      if c.isDigit ∧ (op.startsWith "<" ∨ op.startsWith ">") then
        [⟨line, .descriptor (c.toNat - '0'.toNat)⟩]
      else ended line word
    | word => ended line word

/-- What is wrong with a script that leaves a reader in this state. -/
def Reader.fault? (r : Reader) : Option String :=
  match r.inside with
  | [] => none
  | .brackets .command _ :: _ => some "end of file unexpected (expecting \")\")"
  | .brackets .backquote _ :: _ => some "EOF in backquote substitution"
  | .brackets .brace _ :: _ => some "Missing '\x7d'"
  | _ => some "Unterminated quoted string"

/-- The tokens of a script; a backslash at its end stands for itself. -/
def tokens (script : String) : List Lexeme :=
  let (r, marks) := Reader.start.read script.toList
  let marks := if r.escaped ∧ r.inside = [] then marks ++ [.hard '\\'] else marks
  let lexemes := splitMarks (marks.length + 1) 1 [] marks
  match r.fault? with
  | some message =>
    lexemes ++ [⟨(lexemes.getLast?.map Lexeme.line).getD 1, .fault message⟩]
  | none => lexemes

namespace Word

/-- The characters of a word without any quoting in it. -/
def bare? (w : Word) : Option (List Char) :=
  w.mapM fun
    | .bare c => some c
    | _ => none

/-- The characters inside brackets, and the marks behind them. -/
def bracketed : List Mark → List Char × List Mark
  | .closes :: rest => ([], rest)
  | .inner c :: rest =>
    let (cs, rest) := bracketed rest
    (c :: cs, rest)
  | _ :: rest => bracketed rest
  | [] => ([], [])

end Word

end Runbook.Shell
