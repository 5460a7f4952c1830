import Runbook.Shell.Utilities.Basic

/-!
# Printing

Two ways to print: words joined by blanks, and a format that is used again until it has taken all
words. Both know the escapes of C; in words, a nought may stand before octal digits, and `\c` ends
the output.
-/

namespace Runbook.Shell

/-- The value of up to three octal digits, and what is behind them. -/
def octal : (digits : Nat) → (value : Nat) → List Char → Nat × List Char
  | 0, value, cs => (value, cs)
  | digits + 1, value, c :: cs =>
    if '0' ≤ c ∧ c ≤ '7' then octal digits (value * 8 + (c.toNat - '0'.toNat)) cs
    else (value, c :: cs)
  | _ + 1, value, [] => (value, [])

/-- The byte of an escape behind a backslash, and what is behind it. Other characters leave the
backslash as it is. -/
def escapeByte (cs : List Char) : UInt8 × List Char :=
  match cs with
  | [] => (92, [])
  | c :: rest =>
    if '0' ≤ c ∧ c ≤ '7' then
      let (value, rest) := octal 3 0 cs
      (UInt8.ofNat value, rest)
    else match c with
      | '\\' => (92, rest)
      | 'a' => (7, rest)
      | 'b' => (8, rest)
      | 'e' => (27, rest)
      | 'f' => (12, rest)
      | 'n' => (10, rest)
      | 'r' => (13, rest)
      | 't' => (9, rest)
      | 'v' => (11, rest)
      | _ => (92, cs)

/-- The bytes of a word with its escapes replaced, and whether the output ends in it. -/
def escapedWord : (fuel : Nat) → List Char → List UInt8 × Bool
  | 0, _ => ([], false)
  | _ + 1, [] => ([], false)
  | fuel + 1, c :: cs =>
    if c ≠ '\\' then
      let (rest, ends) := escapedWord fuel cs
      (Text.encode c.toString ++ rest, ends)
    else match cs with
      | 'c' :: _ => ([], true)
      | cs =>
        let cs := match cs with
          | '0' :: d :: rest => if '0' ≤ d ∧ d ≤ '7' then d :: rest else '0' :: d :: rest
          | cs => cs
        let (b, behind) := escapeByte cs
        let (rest, ends) := escapedWord fuel behind
        (b :: rest, ends)

/-- The words of an `echo`, joined by blanks. -/
def echoWords (newline : Bool) : List String → List UInt8
  | [] => if newline then [10] else []
  | w :: rest =>
    let (bytes, ends) := escapedWord (w.length + 1) w.toList
    if ends then bytes
    else bytes ++ (if rest.isEmpty then [] else [32]) ++ echoWords newline rest

/-- Prints words; `-n` leaves the line end out. -/
def echo : Utility := fun c =>
  match c.args with
  | "-n" :: rest => c.bytes (echoWords false rest)
  | args => c.bytes (echoWords true args)

/-! ### Formats -/

/-- How a directive shows its word. -/
structure Directive where
  left : Bool
  plus : Bool
  blank : Bool
  zero : Bool
  alternate : Bool
  width : Nat
  precision : Option Nat
  conversion : Char
deriving DecidableEq, Repr

/-- Part of a format. -/
inductive FormatPart where
  | bytes (b : List UInt8)
  | directive (d : Directive)
  /-- No directive, with what a message says of it. -/
  | invalid (message : String)
deriving DecidableEq, Repr

/-- A number that digits write at the start of a text, and what is behind it. -/
def leadingNumber (cs : List Char) : Nat × List Char :=
  ((cs.takeWhile Char.isDigit).foldl (fun n c => n * 10 + (c.toNat - '0'.toNat)) 0,
    cs.dropWhile Char.isDigit)

/-- The directive behind a percent sign, and what is behind it, or what a message says of it. -/
def directive (cs : List Char) : Except String (Directive × List Char) :=
  let isFlag (c : Char) : Bool := ['#', '-', '+', ' ', '0'].contains c
  let flags := cs.takeWhile isFlag
  let (width, rest) := leadingNumber (cs.dropWhile isFlag)
  let (precision, rest) := match rest with
    | '.' :: rest =>
      let (n, rest) := leadingNumber rest
      (some n, rest)
    | rest => (none, rest)
  match rest with
  | c :: rest =>
    if ['s', 'b', 'c', 'd', 'i', 'u', 'o', 'x', 'X'].contains c then
      .ok (⟨flags.contains '-', flags.contains '+', flags.contains ' ', flags.contains '0',
        flags.contains '#', width, precision, c⟩, rest)
    else .error (String.ofList ('%' :: cs.take (cs.length - rest.length)) ++ ": invalid directive")
  | [] => .error "missing format character"

/-- The parts of a format. -/
def formatParts : (fuel : Nat) → List Char → List FormatPart
  | 0, _ => []
  | _ + 1, [] => []
  | fuel + 1, c :: cs =>
    if c = '\\' then
      let (b, rest) := escapeByte cs
      .bytes [b] :: formatParts fuel rest
    else if c ≠ '%' then .bytes (Text.encode c.toString) :: formatParts fuel cs
    else match cs with
      | '%' :: rest => .bytes [37] :: formatParts fuel rest
      | cs =>
        match directive cs with
        | .ok (d, rest) => .directive d :: formatParts fuel rest
        | .error message => [.invalid message]

/-- Bytes that fill a field. -/
def Directive.fill (d : Directive) (bytes : List UInt8) : List UInt8 :=
  let padding := List.replicate (d.width - bytes.length) (32 : UInt8)
  if d.left then bytes ++ padding else padding ++ bytes

/-- The digits of a number in a base. -/
def baseDigits (base n : Nat) : List Char := Nat.toDigits base n

/-- A number as a directive shows it. -/
def Directive.number (d : Directive) (n : Int) : List UInt8 :=
  let signed := d.conversion = 'd' ∨ d.conversion = 'i'
  let size := if signed then n.natAbs else (Int64.ofInt n).toUInt64.toNat
  let digits := match d.conversion with
    | 'o' => baseDigits 8 size
    | 'x' => baseDigits 16 size
    | 'X' => (baseDigits 16 size).map Char.toUpper
    | _ => baseDigits 10 size
  let mark := if signed then
      if n < 0 then ['-'] else if d.plus then ['+'] else if d.blank then [' '] else []
    else if d.alternate ∧ size ≠ 0 then
      match d.conversion with
      | 'o' => ['0']
      | 'x' => ['0', 'x']
      | 'X' => ['0', 'X']
      | _ => []
    else []
  let least := match d.precision with
    | some p => p
    | none => if d.zero ∧ !d.left then d.width - mark.length else 1
  let zeros := List.replicate (least - digits.length) '0'
  d.fill (Text.encode (String.ofList (mark ++ zeros ++ digits)))

/-- The number that a word writes, and whether it writes one: digits with a sign, octal behind a
nought, hexadecimal behind `0x`, or the code of the character behind a quote. -/
def wordNumber (word : String) : Int × Bool :=
  match word.toList with
  | [] => (0, true)
  | q :: cs =>
    if q = '\'' ∨ q = '"' then (((cs.head?.map Char.toNat).getD 0 : Nat), true)
    else
      let (negative, digits) := match q :: cs with
        | '-' :: rest => (true, rest)
        | '+' :: rest => (false, rest)
        | cs => (false, cs)
      let (base, digits) : Nat × List Char := match digits with
        | '0' :: 'x' :: rest => (16, rest)
        | '0' :: 'X' :: rest => (16, rest)
        | '0' :: rest => (8, '0' :: rest)
        | rest => (10, rest)
      let value? (c : Char) : Option Nat :=
        let v := if c.isDigit then c.toNat - '0'.toNat
          else if 'a' ≤ c.toLower ∧ c.toLower ≤ 'f' then c.toLower.toNat - 'a'.toNat + 10 else 99
        if v < base then some v else none
      let used := digits.takeWhile fun c => (value? c).isSome
      let size : Int := used.foldl (fun n c => n * base + ((value? c).getD 0 : Nat)) 0
      (if negative then -size else size, !used.isEmpty && used.length == digits.length)

/-- What a format has printed so far. -/
structure Printed where
  written : List (Stream × List UInt8)
  status : Nat
  /-- The output has ended. -/
  ended : Bool

/-- Writes bytes. -/
def Printed.write (p : Printed) (stream : Stream) (bytes : List UInt8) : Printed :=
  { p with written := p.written ++ [(stream, bytes)] }

/-- Uses a directive on a word. -/
def Printed.show (complaint : String → String) (p : Printed) (d : Directive) (word : String) :
    Printed :=
  let cut (bytes : List UInt8) : List UInt8 := match d.precision with
    | some n => bytes.take n
    | none => bytes
  match d.conversion with
  | 's' => p.write .output (d.fill (cut (Text.encode word)))
  | 'b' =>
    let (bytes, ends) := escapedWord (word.length + 1) word.toList
    { p.write .output (d.fill (cut bytes)) with ended := ends }
  | 'c' => p.write .output (d.fill ((Text.encode word).take 1))
  | _ =>
    let (n, whole) := wordNumber word
    let p := if whole then p else
      { p.write .error (Text.encode (complaint word)) with status := 1 }
    p.write .output (d.number n)

/-- Uses a format once; what is left of the words comes back. -/
def Printed.pass (name : String) : List FormatPart → List String → Printed → Printed × List String
  | [], words, p => (p, words)
  | part :: parts, words, p =>
    if p.ended then (p, words) else
    match part with
    | .bytes b => pass name parts words (p.write .output b)
    | .invalid message =>
      ({ p.write .error (Text.encode (name ++ message ++ "\n")) with
        status := 2, ended := true }, words)
    | .directive d =>
      pass name parts words.tail (p.show (fun w =>
        let reason := if (w.toList.head?.map fun c => c.isDigit || c == '-').getD false
          then ": not completely converted\n" else ": expected numeric value\n"
        name ++ w ++ reason) d (words.head?.getD ""))

/-- Uses a format until it has taken all words. -/
def Printed.passes (name : String) (parts : List FormatPart) : (fuel : Nat) → List String →
    Printed → Printed
  | 0, _, p => p
  | fuel + 1, words, p =>
    let (p, rest) := p.pass name parts words
    if rest.isEmpty ∨ rest.length = words.length ∨ p.ended then p
    else passes name parts fuel rest p

/-- Prints by a format; `name` starts the messages. -/
def printFormat (name : String) : Utility := fun c =>
  match c.args with
  | [] => c.refuse 2 (name ++ "usage: printf format [arg ...]")
  | "--" :: format :: words | format :: words =>
    let p := Printed.passes name (formatParts (format.length + 1) format.toList)
      (words.length + 1) words ⟨[], 0, false⟩
    ⟨p.status, errorsFirst p.written, c.files, c.input⟩

end Runbook.Shell
