import Runbook.Environment
import Runbook.FileTree
import Runbook.Text.Utf8

/-!
# Utilities

A utility is a function from what it is called with to what it leaves behind: a status, what it has
written to its two streams in that order, the files, and the input that it did not take.
-/

namespace Runbook

namespace FileTree

/-- Why a path leads nowhere. -/
inductive PathError where
  | notFound
  | notDirectory
deriving DecidableEq, Repr

/-- The wording of an error. -/
def PathError.message : PathError → String
  | .notFound => "No such file or directory"
  | .notDirectory => "Not a directory"

/-- Why following components from an existing location leads nowhere. -/
def strayed (t : FileTree) : Location → List String → PathError
  | _, [] => .notFound
  | loc, name :: rest =>
    if t.at? loc ≠ some .directory then .notDirectory
    else if name = "" ∨ name = "." then strayed t loc rest
    else if name = ".." then strayed t loc.dropLast rest
    else if (t.at? (loc ++ [name])).isSome then strayed t (loc ++ [name]) rest
    else .notFound

/-- What a path leads to, or why it leads nowhere. -/
def lookup (t : FileTree) (path : String) : Except PathError (Location × Node) :=
  match (t.locate? path).bind fun loc => (t.at? loc).map (loc, ·) with
  | some found => .ok found
  | none =>
    if path = "" then .error .notFound
    else .error (t.strayed (if path.startsWith "/" then [] else t.here) (Text.splitAt '/' path))

end FileTree

namespace Shell

/-- Where a utility writes. -/
inductive Stream where
  | output
  | error
deriving DecidableEq, Repr

/-- What is written when the output is held back until the end, and messages are not. -/
def errorsFirst (written : List (Stream × List UInt8)) : List (Stream × List UInt8) :=
  written.filter (·.1 == .error) ++ written.filter (·.1 == .output)

/-- What a utility is called with. -/
structure Call where
  args : List String
  input : List UInt8
  files : FileTree
  environment : Environment

/-- What a utility leaves behind. -/
structure Reply where
  status : Nat
  written : List (Stream × List UInt8)
  files : FileTree
  input : List UInt8

/-- A program that a script may call. -/
abbrev Utility := Call → Reply

namespace Call

/-- A reply that has written nothing and changed nothing. -/
def done (c : Call) (status : Nat) : Reply := ⟨status, [], c.files, c.input⟩

/-- A reply that has written bytes. -/
def bytes (c : Call) (output : List UInt8) : Reply := ⟨0, [(.output, output)], c.files, c.input⟩

/-- A reply that has written a text. -/
def text (c : Call) (output : String) : Reply := c.bytes (Text.encode output)

/-- A reply that has failed with a message. -/
def refuse (c : Call) (status : Nat) (message : String) : Reply :=
  ⟨status, [(.error, Text.encode (message ++ "\n"))], c.files, c.input⟩

end Call

namespace Reply

/-- Goes on with another reply, whose files and input count; the greater status stays. -/
def andThen (a b : Reply) : Reply :=
  ⟨max a.status b.status, a.written ++ b.written, b.files, b.input⟩

end Reply

/-- Options of one letter, and what stands behind them. -/
structure Options where
  flags : List Char
  operands : List String
deriving DecidableEq, Repr

/-- Takes options of one letter off arguments; an unknown letter is the error. -/
def options (known : List Char) : List String → Except Char Options
  | [] => .ok ⟨[], []⟩
  | a :: rest =>
    match a.toList with
    | ['-', '-'] => .ok ⟨[], rest⟩
    | '-' :: c :: cs =>
      match (c :: cs).find? (!known.contains ·) with
      | some bad => .error bad
      | none => (options known rest).map fun o => { o with flags := c :: cs ++ o.flags }
    | _ => (options known rest).map fun o => { o with operands := a :: o.operands }

/-- Takes options of one letter off the arguments of a utility, which refuses unknown ones. -/
def Call.withOptions (c : Call) (name : String) (status : Nat) (known : List Char)
    (use : Options → Reply) : Reply :=
  match options known c.args with
  | .ok o => use o
  | .error bad => c.refuse status (name ++ ": invalid option -- '" ++ bad.toString ++ "'\nTry '" ++
      name ++ " --help' for more information.")

/-- The lines of bytes, each with the line end that it may have. -/
def byteLines (bytes : List UInt8) : List (List UInt8) :=
  let (lines, last) := bytes.foldr (fun b (acc : List (List UInt8) × List UInt8) =>
    if b = 10 then (if acc.2.isEmpty then acc.1 else acc.2 :: acc.1, [b])
    else (acc.1, b :: acc.2)) ([], [])
  if last.isEmpty then lines else last :: lines

/-- The number that digits write. -/
def natural? (text : String) : Option Nat :=
  if text ≠ "" ∧ text.toList.all Char.isDigit then
    some (text.toList.foldl (fun n c => n * 10 + (c.toNat - '0'.toNat)) 0)
  else none

/-- The number that digits write, with a sign or without. -/
def integer? (text : String) : Option Int :=
  match text.toList with
  | '-' :: rest => (natural? (String.ofList rest)).map fun n => -(n : Int)
  | '+' :: rest => (natural? (String.ofList rest)).map Int.ofNat
  | rest => (natural? (String.ofList rest)).map Int.ofNat

end Shell

end Runbook
