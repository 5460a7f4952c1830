/-!
# Version 4 identifiers in text

An identifier is a window of 36 characters with a test for each place. Scanning takes the first
window, goes on behind it, and moves by one character where no window starts.
-/

namespace Runbook.Text.Uuid

/-- A lower-case hexadecimal digit. -/
def isHex (c : Char) : Bool := ('0' ≤ c && c ≤ '9') || ('a' ≤ c && c ≤ 'f')

/-- The variant digit that opens the fourth group. -/
def isVariant (c : Char) : Bool := ['8', '9', 'a', 'b', 'A', 'B'].contains c

/-- One test per place: groups of 8, 4, 4, 4 and 12 digits, the third opened by the version and
the fourth by the variant. -/
def shape : List (Char → Bool) :=
  List.replicate 8 isHex ++ [(· == '-')] ++ List.replicate 4 isHex ++ [(· == '-')] ++
  [(· == '4')] ++ List.replicate 3 isHex ++ [(· == '-')] ++
  [isVariant] ++ List.replicate 3 isHex ++ [(· == '-')] ++ List.replicate 12 isHex

/-- The text starts with characters that pass the tests, in order. -/
def startsWith : List (Char → Bool) → List Char → Bool
  | [], _ => true
  | _ :: _, [] => false
  | test :: tests, c :: cs => test c && startsWith tests cs

/-- An identifier starts here. -/
def isWindow (cs : List Char) : Bool := startsWith shape cs

/-- Number of characters of an identifier. -/
def width : Nat := 36

/-- The identifiers of a text, leftmost first and never overlapping. -/
def windows : List Char → List (List Char)
  | [] => []
  | c :: cs =>
    if isWindow (c :: cs) then (c :: cs).take width :: windows (cs.drop (width - 1))
    else windows cs
termination_by cs => cs.length
decreasing_by
  all_goals simp only [List.length_drop, List.length_cons]; omega

/-- Every identifier found in the text, in order of appearance. -/
def scan (text : String) : List String := (windows text.toList).map String.ofList

/-- A window starts at some place of the text. -/
def occurs : List Char → Bool
  | [] => false
  | c :: cs => isWindow (c :: cs) || occurs cs

/-- Does the text hold an identifier anywhere? -/
def occursIn (text : String) : Bool := occurs text.toList

end Runbook.Text.Uuid
