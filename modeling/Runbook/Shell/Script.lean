import Runbook.Shell.Tokens

/-!
# Scripts

The syntax trees of scripts. A simple command is a list of words with assignments before it and
redirections among it; everything else puts scripts together.
-/

namespace Runbook.Shell

/-- What a redirection does with its target. -/
inductive RedirectKind where
  | input
  | output
  | append
  | both
  | duplicate
deriving DecidableEq, Repr

/-- A redirection of a descriptor. -/
structure Redirect where
  descriptor : Nat
  kind : RedirectKind
  target : Word
deriving DecidableEq, Repr

/-- A script. -/
inductive Script where
  /-- Nothing at all. -/
  | nothing
  /-- A simple command, on a line. -/
  | simple (line : Nat) (assigned : List (String × Word)) (words : List Word)
      (redirects : List Redirect)
  /-- The output of the first is the input of the second. -/
  | pipe (a b : Script)
  /-- Success and failure change places. -/
  | negate (a : Script)
  /-- The second after a success of the first. -/
  | both (a b : Script)
  /-- The second after a failure of the first. -/
  | either (a b : Script)
  /-- One after the other. -/
  | sequence (a b : Script)
  /-- Without waiting for it. -/
  | background (a : Script)
  /-- In a shell of its own. -/
  | nested (a : Script) (redirects : List Redirect)
  /-- In this shell. -/
  | group (a : Script) (redirects : List Redirect)
  /-- One of two, by a condition. -/
  | choose (condition yes no : Script) (redirects : List Redirect)
  /-- Again and again while the condition succeeds, or until it does. -/
  | loop (untilSuccess : Bool) (condition body : Script) (redirects : List Redirect)
  /-- Once for each item, or for each parameter. -/
  | each (name : String) (items : Option (List Word)) (body : Script) (redirects : List Redirect)
  /-- A branch for a word that matches a pattern, and the branches behind it. -/
  | branch (subject : Word) (patterns : List Word) (body otherwise : Script)
  /-- A function. -/
  | define (name : String) (body : Script)
deriving DecidableEq, Repr, Inhabited

/-- Why a text is no script, and on which line. -/
structure SyntaxError where
  line : Nat
  message : String
deriving DecidableEq, Repr

end Runbook.Shell
