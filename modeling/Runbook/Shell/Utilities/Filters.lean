import Runbook.Shell.Utilities.Basic

/-!
# Utilities on texts

Filters read files, or their input if none is named, and write what they make of them.
-/

namespace Runbook.Shell

/-- The bytes of an operand, a lone dash being the input, or a message. -/
def operandBytes (c : Call) (name path : String) : Except String (List UInt8) :=
  if path = "-" then .ok c.input
  else match c.files.lookup path with
    | .ok (_, .file content) => .ok content.toList
    | .ok (_, .directory) => .error (name ++ ": " ++ path ++ ": Is a directory\n")
    | .error e => .error (name ++ ": " ++ path ++ ": " ++ e.message ++ "\n")

/-- Reads operands one after the other, or the input if there are none. -/
def eachOperand (c : Call) (name : String) (operands : List String)
    (use : String → List UInt8 → List UInt8) : Reply :=
  let paths := if operands.isEmpty then ["-"] else operands
  let start : Reply := ⟨0, [], c.files, if paths.contains "-" then [] else c.input⟩
  paths.foldl (fun r p =>
    match operandBytes c name p with
    | .ok bytes => { r with written := r.written ++ [(.output, use p bytes)] }
    | .error m => { r with status := 1, written := r.written ++ [(.error, Text.encode m)] }) start

/-- Reads all operands as one text. -/
def allOperands (c : Call) (name : String) (operands : List String)
    (use : List UInt8 → List UInt8) : Reply :=
  let r := eachOperand c name operands fun _ bytes => bytes
  let read := (r.written.filter (·.1 == .output)).flatMap (·.2)
  { r with written := r.written.filter (·.1 == .error) ++ [(.output, use read)] }

/-- A number at the right end of a field. -/
def padded (width n : Nat) : String :=
  let digits := toString n
  String.ofList (List.replicate (width - digits.length) ' ') ++ digits

/-- Writes files one after the other, lines numbered if asked to. -/
def cat : Utility := fun c => c.withOptions "cat" 1 ['n', 'u'] fun o =>
  if o.flags.contains 'n' then
    allOperands c "cat" o.operands fun bytes =>
      ((byteLines bytes).zipIdx 1).flatMap fun (line, n) =>
        Text.encode (padded 6 n ++ "\t") ++ line
  else eachOperand c "cat" o.operands fun _ bytes => bytes

/-! ### Parts of texts -/

/-- How much of a text is taken. -/
structure Extent where
  /-- Bytes, not lines. -/
  bytes : Bool
  /-- A sign that changes where counting starts. -/
  signed : Bool
  count : Nat
deriving DecidableEq, Repr

/-- Reads an extent that a sign may precede. -/
def extent? (bytes : Bool) (sign : Char) (text : String) : Option Extent :=
  match text.toList with
  | c :: rest =>
    if c = sign then (natural? (String.ofList rest)).map (⟨bytes, true, ·⟩)
    else (natural? text).map (⟨bytes, false, ·⟩)
  | [] => none

/-- Takes the extent off the arguments. -/
def takeExtent (sign : Char) : List String → Extent → Option (Extent × List String)
  | [], e => some (e, [])
  | a :: rest, e =>
    match a.toList, rest with
    | ['-', 'n'], v :: rest => (extent? false sign v).bind (takeExtent sign rest)
    | ['-', 'c'], v :: rest => (extent? true sign v).bind (takeExtent sign rest)
    | '-' :: 'n' :: v, rest => (extent? false sign (String.ofList v)).bind (takeExtent sign rest)
    | '-' :: 'c' :: v, rest => (extent? true sign (String.ofList v)).bind (takeExtent sign rest)
    | '-' :: d :: v, rest =>
      if d.isDigit then
        (extent? false sign (String.ofList (d :: v))).bind (takeExtent sign rest)
      else none
    | _, rest => (takeExtent sign rest e).map fun (e, operands) => (e, a :: operands)

/-- Parts of operands, under their names if there are several. -/
def extract (c : Call) (name : String) (sign : Char)
    (part : Extent → List (List UInt8) → List (List UInt8)) : Reply :=
  match takeExtent sign c.args ⟨false, false, 10⟩ with
  | none => c.refuse 1 (name ++ ": invalid number of lines")
  | some (e, operands) =>
    let titled := operands.length > 1
    eachOperand c name operands fun p bytes =>
      let pieces := if e.bytes then bytes.map fun b => [b] else byteLines bytes
      let title := if titled then
          Text.encode ((if operands.head? = some p then "" else "\n") ++ "==> " ++ p ++ " <==\n")
        else []
      title ++ (part e pieces).flatten

/-- Writes the start of texts. -/
def head : Utility := fun c => extract c "head" '-' fun e pieces =>
  if e.signed then pieces.take (pieces.length - e.count) else pieces.take e.count

/-- Writes the end of texts. -/
def tail : Utility := fun c => extract c "tail" '+' fun e pieces =>
  if e.signed then pieces.drop (e.count - 1) else pieces.drop (pieces.length - e.count)

/-- Counts lines, words and bytes. -/
def wc : Utility := fun c => c.withOptions "wc" 1 ['l', 'w', 'c', 'm'] fun o =>
  let isBlank (b : UInt8) : Bool := b == 32 || (9 ≤ b && b ≤ 13)
  let words (bytes : List UInt8) : Nat :=
    (bytes.foldl (fun (acc : Nat × Bool) b =>
      if isBlank b then (acc.1, false) else (if acc.2 then acc.1 else acc.1 + 1, true))
      (0, false)).1
  let flags := if o.flags.isEmpty then ['l', 'w', 'c'] else o.flags
  let counts (bytes : List UInt8) : List Nat :=
    (if flags.contains 'l' then [bytes.countP (· == 10)] else []) ++
    (if flags.contains 'w' then [words bytes] else []) ++
    (if flags.contains 'm' then [(Text.decode bytes).length] else []) ++
    (if flags.contains 'c' then [bytes.length] else [])
  let paths := if o.operands.isEmpty then ["-"] else o.operands
  let read := paths.filterMap fun p => (operandBytes c "wc" p).toOption.map fun b => (p, counts b)
  let total := read.foldl (fun acc (_, ns) => acc.zipWith (· + ·) ns)
    ((counts []).map fun _ => 0)
  let sizes := paths.filterMap fun p => (operandBytes c "wc" p).toOption.map List.length
  let width := if paths.length = 1 ∧ (counts []).length = 1 then 1
    else if paths.contains "-" then 7 else (toString (sizes.foldl (· + ·) 0)).length
  let row (label : String) (ns : List Nat) : String :=
    " ".intercalate (ns.map (padded width)) ++
      (if label = "" then "" else " " ++ label) ++ "\n"
  let rows := read.map fun (p, ns) => row (if o.operands.isEmpty then "" else p) ns
  let rows := if paths.length > 1 then rows ++ [row "total" total] else rows
  let r := eachOperand c "wc" o.operands fun _ _ => []
  { r with written := errorsFirst r.written ++ [(.output, Text.encode (String.join rows))] }

end Runbook.Shell
