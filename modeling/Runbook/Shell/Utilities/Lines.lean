import Runbook.Regex.Parser
import Runbook.Shell.Utilities.Filters

/-!
# Utilities on lines

Sorting and picking lines, and picking parts of them. A last line without an end gets one.
-/

namespace Runbook.Shell

/-- A line without its end. -/
def chopped (line : List UInt8) : List UInt8 :=
  if line.getLast? = some 10 then line.dropLast else line

/-- A line with an end. -/
def ended (line : List UInt8) : List UInt8 := chopped line ++ [10]

/-- Bytes in order. -/
def bytesBefore : List UInt8 → List UInt8 → Bool
  | [], _ => true
  | _ :: _, [] => false
  | a :: as, b :: bs => a < b || (a == b && bytesBefore as bs)

/-- The number at the start of a line. -/
def lineNumber (line : List UInt8) : Int :=
  let cs := (Text.decode line).toList.dropWhile Char.isWhitespace
  let (negative, digits) := match cs with
    | '-' :: rest => (true, rest)
    | rest => (false, rest)
  let n : Int := (digits.takeWhile Char.isDigit).foldl
    (fun n c => n * 10 + (c.toNat - '0'.toNat : Nat)) 0
  if negative then -n else n

/-- Leaves out lines that are the same as the line before. -/
def collapseLines : List (List UInt8) → List (List UInt8 × Nat)
  | [] => []
  | a :: rest =>
    match collapseLines rest with
    | (b, n) :: more => if a = b then (a, n + 1) :: more else (a, 1) :: (b, n) :: more
    | [] => [(a, 1)]

/-- Sorts lines. -/
def sort : Utility := fun c => c.withOptions "sort" 2 ['r', 'n', 'u'] fun o =>
  allOperands c "sort" o.operands fun bytes =>
    let lines := (byteLines bytes).map chopped
    let before (a b : List UInt8) : Bool :=
      if o.flags.contains 'n' then
        if lineNumber a = lineNumber b then bytesBefore a b else lineNumber a < lineNumber b
      else bytesBefore a b
    let sorted := lines.mergeSort before
    let sorted := if o.flags.contains 'u' then (collapseLines sorted).map (·.1) else sorted
    (if o.flags.contains 'r' then sorted.reverse else sorted).flatMap ended

/-- Leaves out repeated lines. -/
def uniq : Utility := fun c => c.withOptions "uniq" 1 ['c', 'd', 'u'] fun o =>
  allOperands c "uniq" o.operands fun bytes =>
    let runs := (collapseLines ((byteLines bytes).map chopped)).filter fun (_, n) =>
      (!o.flags.contains 'd' || n > 1) && (!o.flags.contains 'u' || n == 1)
    runs.flatMap fun (line, n) =>
      (if o.flags.contains 'c' then Text.encode (padded 7 n ++ " ") else []) ++ ended line

/-- The pattern in which characters that only a backslash makes special are taken for themselves. -/
def basicPattern : List Char → List Char
  | '\\' :: c :: rest =>
    if ['+', '?', '|', '(', ')', '\x7b', '\x7d'].contains c then c :: basicPattern rest
    else '\\' :: c :: basicPattern rest
  | c :: rest =>
    if ['+', '?', '|', '(', ')', '\x7b', '\x7d'].contains c then '\\' :: c :: basicPattern rest
    else c :: basicPattern rest
  | [] => []

/-- The pattern that a text is, character by character. -/
def fixedPattern (text : List Char) : List Char :=
  text.flatMap fun c => if c.isAlphanum ∨ c = ' ' ∨ c.toNat > 127 then [c] else ['\\', c]

/-- Writes the lines that match a pattern. -/
def grep : Utility := fun c =>
  c.withOptions "grep" 2 ['q', 'v', 'i', 'c', 'n', 'E', 'F', 'x', 'h', 's'] fun o =>
  match o.operands with
  | [] => c.refuse 2 ("Usage: grep [OPTION]... PATTERNS [FILE]...\n" ++
      "Try 'grep --help' for more information.")
  | pattern :: paths =>
    let source := if o.flags.contains 'F' then fixedPattern pattern.toList
      else if o.flags.contains 'E' then pattern.toList else basicPattern pattern.toList
    let source := if o.flags.contains 'x' then "^(".toList ++ source ++ ")$".toList else source
    let source := if o.flags.contains 'i' then "(?i)".toList ++ source else source
    match Regex.parse? (String.ofList source) with
    | none => c.refuse 2 "grep: Invalid regular expression"
    | some regex =>
      let picked (bytes : List UInt8) : List (List UInt8 × Nat) :=
        (((byteLines bytes).map chopped).zipIdx 1).filter fun (line, _) =>
          regex.isMatch (Text.decode line) != o.flags.contains 'v'
      let label (p : String) : String := if paths.length > 1 then p ++ ":" else ""
      let r := eachOperand c "grep" paths fun p bytes =>
        if o.flags.contains 'q' then if (picked bytes).isEmpty then [] else [10]
        else if o.flags.contains 'c' then
          Text.encode (label p ++ toString (picked bytes).length ++ "\n")
        else (picked bytes).flatMap fun (line, n) =>
          Text.encode (label p ++ if o.flags.contains 'n' then toString n ++ ":" else "") ++
            ended line
      let paths := if paths.isEmpty then ["-"] else paths
      let found := paths.any fun p => match operandBytes c "grep" p with
        | .ok bytes => !(picked bytes).isEmpty
        | .error _ => false
      let status := if r.status ≠ 0 then 2 else if found then 0 else 1
      let kept := if o.flags.contains 'q' then r.written.filter (·.1 == .error) else r.written
      { r with status := status, written := kept }

/-- Writes the fields or characters of lines. -/
def cut : Utility := fun c =>
  let rec settings (delimiter : Char) (kind : Char) (picks : String) :
      List String → Char × Char × String × List String
    | [] => (delimiter, kind, picks, [])
    | "-d" :: v :: rest => settings (v.toList.head?.getD '\t') kind picks rest
    | "-f" :: v :: rest => settings delimiter 'f' v rest
    | "-c" :: v :: rest => settings delimiter 'c' v rest
    | a :: rest =>
      match a.toList with
      | '-' :: 'd' :: d :: _ => settings d kind picks rest
      | '-' :: 'f' :: v => settings delimiter 'f' (String.ofList v) rest
      | '-' :: 'c' :: v => settings delimiter 'c' (String.ofList v) rest
      | _ =>
        let (d, k, p, operands) := settings delimiter kind picks rest
        (d, k, p, a :: operands)
  let (delimiter, kind, picks, operands) := settings '\t' ' ' "" c.args
  let picked (n : Nat) : Bool := (Text.splitAt ',' picks).any fun part =>
    match Text.splitAt '-' part with
    | [a] => natural? a == some n
    | [a, b] => (natural? a).getD 1 ≤ n && (natural? b).all (n ≤ ·)
    | _ => false
  if kind = ' ' then c.refuse 1 ("cut: you must specify a list of bytes, characters, or fields\n" ++
    "Try 'cut --help' for more information.")
  else allOperands c "cut" operands fun bytes =>
    ((byteLines bytes).map chopped).flatMap fun line =>
      let text := Text.decode line
      let shown :=
        if kind = 'c' then
          String.ofList (((text.toList.zipIdx 1).filter fun (_, n) => picked n).map (·.1))
        else if !text.toList.contains delimiter then text
        else delimiter.toString.intercalate
          ((((Text.splitAt delimiter text).zipIdx 1).filter fun (_, n) => picked n).map (·.1))
      Text.encode (shown ++ "\n")

end Runbook.Shell
