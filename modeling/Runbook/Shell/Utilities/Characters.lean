import Runbook.Shell.Utilities.Filters

/-!
# Utilities on bytes

Replacing bytes by others, and writing the same bytes to several places.
-/

namespace Runbook.Shell

/-- The bytes of a class. -/
def byteClass? (name : String) : Option (List UInt8) :=
  let pick (p : Char → Bool) : List UInt8 :=
    (List.range 128).filterMap fun n => if p (Char.ofNat n) then some (UInt8.ofNat n) else none
  match name with
  | "upper" => some (pick Char.isUpper)
  | "lower" => some (pick Char.isLower)
  | "digit" => some (pick Char.isDigit)
  | "alpha" => some (pick Char.isAlpha)
  | "alnum" => some (pick Char.isAlphanum)
  | "space" => some [9, 10, 11, 12, 13, 32]
  | "blank" => some [9, 32]
  | "punct" => some (pick fun c => 32 < c.toNat && c.toNat < 127 && !c.isAlphanum)
  | _ => none

/-- The bytes of a set of `tr`: ranges, classes and escapes are written out. -/
def byteSet : (fuel : Nat) → List Char → List UInt8
  | 0, _ => []
  | _ + 1, [] => []
  | fuel + 1, '[' :: ':' :: rest =>
    let name := rest.takeWhile (· ≠ ':')
    match byteClass? (String.ofList name), rest.drop name.length with
    | some bytes, ':' :: ']' :: behind => bytes ++ byteSet fuel behind
    | _, _ => 91 :: 58 :: byteSet fuel rest
  | fuel + 1, '\\' :: c :: rest =>
    if '0' ≤ c ∧ c ≤ '7' then
      let digits := ((c :: rest).take 3).takeWhile fun d => '0' ≤ d && d ≤ '7'
      UInt8.ofNat (digits.foldl (fun n d => n * 8 + (d.toNat - '0'.toNat)) 0) ::
        byteSet fuel ((c :: rest).drop digits.length)
    else
      let b : List UInt8 := match c with
        | 'n' => [10]
        | 't' => [9]
        | 'r' => [13]
        | 'a' => [7]
        | 'b' => [8]
        | 'f' => [12]
        | 'v' => [11]
        | c => Text.encode c.toString
      b ++ byteSet fuel rest
  | fuel + 1, a :: '-' :: b :: rest =>
    ((List.range (b.toNat + 1 - a.toNat)).map fun i => UInt8.ofNat (a.toNat + i)) ++
      byteSet fuel rest
  | fuel + 1, c :: rest => Text.encode c.toString ++ byteSet fuel rest

/-- Replaces, removes or squeezes bytes. -/
def tr : Utility := fun c => c.withOptions "tr" 1 ['d', 's', 'c', 'C'] fun o =>
  let complement := o.flags.contains 'c' || o.flags.contains 'C'
  let set (text : String) : List UInt8 := byteSet (text.length + 1) text.toList
  let first (text : String) : List UInt8 :=
    if complement then ((List.range 256).map UInt8.ofNat).filter (!(set text).contains ·)
    else set text
  let squeeze (members : List UInt8) (bytes : List UInt8) : List UInt8 :=
    (bytes.foldl (fun (acc : List UInt8) b =>
      if members.contains b ∧ acc.head? = some b then acc else b :: acc) []).reverse
  match o.operands with
  | [a] =>
    if o.flags.contains 'd' then allOperands c "tr" [] (·.filter (!(first a).contains ·))
    else if o.flags.contains 's' then allOperands c "tr" [] (squeeze (first a))
    else c.refuse 1 ("tr: missing operand after '" ++ a ++ "'\nTwo strings must be given when " ++
      "translating.\nTry 'tr --help' for more information.")
  | [a, b] =>
    let source := first a
    let target := set b
    let replace (x : UInt8) : UInt8 :=
      match source.reverse.idxOf? x with
      | some i => (target[source.length - 1 - i]?.or target.getLast?).getD x
      | none => x
    allOperands c "tr" [] fun bytes =>
      if o.flags.contains 'd' then squeeze target (bytes.filter (!source.contains ·))
      else
        let replaced := bytes.map replace
        if o.flags.contains 's' then squeeze target replaced else replaced
  | _ => c.refuse 1 "tr: missing operand\nTry 'tr --help' for more information."

/-- Writes its input, and into files as well. -/
def tee : Utility := fun c => c.withOptions "tee" 1 ['a'] fun o =>
  let files := o.operands.foldl (fun files p =>
    let before := if o.flags.contains 'a' then ((files.content? p).map (·.toList)).getD [] else []
    (files.write? p (before ++ c.input).toByteArray).getD files) c.files
  ⟨0, [(.output, c.input)], files, []⟩

end Runbook.Shell
