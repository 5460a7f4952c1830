import Runbook.Text.Utf8

/-!
# Objects of a repository

Commits, trees, files and tags, as they are kept: a header with kind and size before the content,
packed into a stream. Of a stream only stored blocks are read, which hold the bytes as they are.
-/

namespace Runbook.Git

/-- What a file holds. -/
abbrev Bytes := List UInt8

/-- The end of a line. -/
def lineEnd : UInt8 := 10

/-! ### Streams -/

/-- The bytes of stored blocks, up to the block that says it is the last. -/
def storedBlocks : Bytes → Option Bytes
  | kind :: l0 :: l1 :: n0 :: n1 :: rest =>
    if kind.toNat / 2 % 4 ≠ 0 ∨ n0 ≠ ~~~l0 ∨ n1 ≠ ~~~l1 ∨
        rest.length < l0.toNat + 256 * l1.toNat then none
    else
      if kind.toNat % 2 = 1 then some (rest.take (l0.toNat + 256 * l1.toNat))
      else (storedBlocks (rest.drop (l0.toNat + 256 * l1.toNat))).map
        (rest.take (l0.toNat + 256 * l1.toNat) ++ ·)
  | _ => none
termination_by bs => bs.length
decreasing_by
  simp only [List.length_drop, List.length_cons]
  omega

/-- The bytes of a stream: two bytes say how it is packed, and are a multiple of 31 together. -/
def unpack : Bytes → Option Bytes
  | method :: flags :: rest =>
    if method.toNat % 16 = 8 ∧ (method.toNat * 256 + flags.toNat) % 31 = 0 ∧
        flags.toNat / 32 % 2 = 0 then storedBlocks rest
    else none
  | _ => none

/-! ### Ids -/

/-- The id of an object: forty hexadecimal digits, in lower case. -/
structure ObjectId where
  digits : String
deriving DecidableEq, Repr, Inhabited

/-- The number of digits of an id. -/
def idLength : Nat := 40

/-- A hexadecimal digit in lower case. -/
def hexDigit? (c : Char) : Option Char :=
  let c := c.toLower
  if c.isDigit ∨ ('a' ≤ c ∧ c ≤ 'f') then some c else none

/-- Hexadecimal digits in lower case; nothing if another character is among them. -/
def hexText? (text : String) : Option String :=
  (text.toList.mapM hexDigit?).map String.ofList

namespace ObjectId

/-- The id that a text writes. -/
def ofText? (text : String) : Option ObjectId :=
  if text.length = idLength then (hexText? text).map (⟨·⟩) else none

/-- The id that bytes write in digits. -/
def ofDigits? (bytes : Bytes) : Option ObjectId :=
  if bytes.all (· < 128) then ofText? (Text.decode bytes) else none

/-- The id in twenty bytes. -/
def ofBytes (bytes : Bytes) : ObjectId :=
  let digit (n : Nat) : Char := Char.ofNat (if n < 10 then n + 48 else n + 87)
  ⟨String.ofList (bytes.flatMap fun b => [digit (b.toNat / 16), digit (b.toNat % 16)])⟩

/-- Stands for no object. -/
def zero : ObjectId := ⟨String.ofList (List.replicate idLength '0')⟩

end ObjectId

/-! ### Objects -/

/-- What an object is. -/
inductive Kind where
  | commit
  | tree
  | blob
  | tag
deriving DecidableEq, Repr

/-- The word for a kind. -/
def Kind.word : Kind → String
  | .commit => "commit"
  | .tree => "tree"
  | .blob => "blob"
  | .tag => "tag"

/-- The kind that a word names. -/
def Kind.ofWord? (word : String) : Option Kind :=
  [Kind.commit, .tree, .blob, .tag].find? (·.word == word)

theorem Kind.ofWord?_word (k : Kind) : Kind.ofWord? k.word = some k := by
  cases k <;> decide +kernel

/-- Who wrote a commit, and when: seconds of the common clock, zero if not said. -/
structure Person where
  name : Bytes
  mail : Bytes
  time : Int
deriving DecidableEq, Repr

/-- A state of the tree, with those it came from and who made it. -/
structure Commit where
  tree : ObjectId
  parents : List ObjectId
  author : Person
  committer : Person
  message : Bytes
deriving DecidableEq, Repr

/-- An entry of a tree. -/
structure Entry where
  mode : Nat
  name : String
  id : ObjectId
deriving DecidableEq, Repr

/-- The mode of entries that are trees. -/
def treeMode : Nat := 0o40000

/-- The entry is a tree. -/
def Entry.isTree (e : Entry) : Bool := e.mode / 0o10000 * 0o10000 == treeMode

/-- What the store keeps under an identifier. A tag stands for its target. -/
inductive Object where
  | commit (c : Commit)
  | tree (entries : List Entry)
  | blob (content : Bytes)
  | tag (target : ObjectId) (kind : Kind)
deriving DecidableEq, Repr

/-- The kind of an object. -/
def Object.kind : Object → Kind
  | .commit _ => .commit
  | .tree _ => .tree
  | .blob _ => .blob
  | .tag _ _ => .tag

/-! ### Reading them -/

/-- Cuts before the first byte that is `b`, which is left out; nothing if there is none. -/
def cut? (b : UInt8) (bytes : Bytes) : Option (Bytes × Bytes) :=
  match bytes.dropWhile (· != b) with
  | [] => none
  | _ :: rest => some (bytes.takeWhile (· != b), rest)

/-- What stands behind a word at the head of a line. -/
def field? (word : String) (line : Bytes) : Option Bytes :=
  let lead := Text.encode (word ++ " ")
  if lead.isPrefixOf line then some (line.drop lead.length) else none

/-- The lines up to the first empty one, and what stands behind it. -/
def headerLines : Bytes → List Bytes × Bytes
  | bytes => go [] bytes
where
  /-- Goes on in a line of which `line` is known, backwards. -/
  go (line : Bytes) : Bytes → List Bytes × Bytes
    | [] => ([], [])
    | b :: rest =>
      if b = lineEnd then
        if line.isEmpty then ([], rest)
        else
          let (lines, body) := go [] rest
          (line.reverse :: lines, body)
      else go (b :: line) rest

/-- A byte that is left off both ends of a name or an address. -/
def isCrud (b : UInt8) : Bool :=
  b ≤ 32 || ['.', ',', ':', ';', '<', '>', '"', '\\', '\''].any fun c => c.toNat == b.toNat

/-- A name or an address without what is left off its ends. -/
def trimCrud (bytes : Bytes) : Bytes :=
  ((bytes.dropWhile isCrud).reverse.dropWhile isCrud).reverse

/-- The number that a text of digits starts with. -/
def leadingInt? (bytes : Bytes) : Option Int :=
  let bytes := bytes.dropWhile fun b => b == 32 || (9 ≤ b && b ≤ 13)
  let (negative, bytes) := match bytes with
    | 45 :: rest => (true, rest)
    | 43 :: rest => (false, rest)
    | rest => (false, rest)
  let digits := bytes.takeWhile fun b => 48 ≤ b && b ≤ 57
  let n : Int := digits.foldl (fun n b => n * 10 + (b.toNat - 48)) 0
  if digits.isEmpty then none else some (if negative then -n else n)

/-- Reads a person: a name, an address between the last angle brackets, and a time. -/
def Person.read? (bytes : Bytes) : Option Person := do
  let opening : UInt8 := 60
  let closing : UInt8 := 62
  let (_, name) ← cut? opening bytes.reverse
  let (tail, upToMail) ← cut? closing bytes.reverse
  let mailEnd := upToMail.length
  if mailEnd ≤ name.length then none else
  let mail := (bytes.take mailEnd).drop (name.length + 1)
  let tail := tail.reverse.drop 1
  let time ← if tail.isEmpty then some 0 else leadingInt? tail
  return ⟨trimCrud name.reverse, trimCrud mail, time⟩

/-- Takes the ids of parents off the lines of a header. -/
def parentLines : List Bytes → List ObjectId × List Bytes
  | [] => ([], [])
  | line :: lines =>
    match (field? "parent" line).bind ObjectId.ofDigits? with
    | some id =>
      let (ids, rest) := parentLines lines
      (id :: ids, rest)
    | none => ([], line :: lines)

/-- Reads a commit; of several authors the first counts. -/
def Commit.read? (bytes : Bytes) : Option Commit := do
  match headerLines bytes with
  | (treeLine :: lines, body) =>
    let tree ← (field? "tree" treeLine).bind ObjectId.ofDigits?
    let (parents, lines) := parentLines lines
    let authors := lines.takeWhile fun l => (field? "author" l).isSome
    let authors ← authors.mapM fun l => (field? "author" l).bind Person.read?
    let author ← authors.head?
    let committer ← (lines.drop authors.length).head?
    let committer ← (field? "committer" committer).bind Person.read?
    return ⟨tree, parents, author, committer, body⟩
  | ([], _) => none

/-- The number that octal digits write. -/
def octal? (digits : Bytes) : Option Nat :=
  if digits.isEmpty ∨ !digits.all (fun b => 48 ≤ b && b ≤ 55) then none
  else some (digits.foldl (fun n b => n * 8 + (b.toNat - 48)) 0)

/-- The number of bytes of an id in a tree. -/
def idBytes : Nat := 20

/-- Reads the entries of a tree, with as many steps as there are bytes. -/
def entries? : (fuel : Nat) → Bytes → Option (List Entry)
  | _, [] => some []
  | 0, _ => none
  | fuel + 1, bytes => do
    let (mode, rest) ← cut? 32 bytes
    let mode ← octal? mode
    let (name, rest) ← cut? 0 rest
    if name.isEmpty ∨ rest.length < idBytes then none else
    let more ← entries? fuel (rest.drop idBytes)
    return ⟨mode, Text.decode name, .ofBytes (rest.take idBytes)⟩ :: more

/-- Reads a tag: the object that it marks, the kind of that, and a name. -/
def tag? (bytes : Bytes) : Option Object := do
  let (target, rest) ← cut? lineEnd bytes
  let target ← (field? "object" target).bind ObjectId.ofDigits?
  let (kind, rest) ← cut? lineEnd rest
  let kind ← (field? "type" kind).bind fun k => Kind.ofWord? (Text.decode k)
  let (name, _) ← cut? lineEnd rest
  let _ ← field? "tag" name
  return .tag target kind

/-- Reads an object of a kind. -/
def Object.read? (kind : Kind) (body : Bytes) : Option Object :=
  match kind with
  | .commit => (Commit.read? body).map .commit
  | .tree => (entries? body.length body).map .tree
  | .blob => some (.blob body)
  | .tag => tag? body

/-- Reads an object out of the stream that it is kept in. -/
def Object.unpack? (stream : Bytes) : Option Object := do
  let bytes ← unpack stream
  let (header, body) ← cut? 0 bytes
  let (kind, size) ← cut? 32 header
  let kind ← Kind.ofWord? (Text.decode kind)
  let size ← (Text.decode size).toNat?
  if size = body.length then Object.read? kind body else none

/-! ### What a message says first -/

/-- A byte that separates words. -/
def isGap (b : UInt8) : Bool := b == 32 || (9 ≤ b && b ≤ 13)

/-- The message without the empty lines before it. -/
def Commit.text (c : Commit) : Bytes := c.message.dropWhile (· == lineEnd)

/-- Another line with words in it begins here. -/
def goesOn (rest : Bytes) : Bool :=
  match rest.dropWhile fun b => isGap b && b != lineEnd with
  | [] => false
  | b :: _ => b != lineEnd

/-- The first paragraph; `gap` is what separates the words since the last one, backwards. -/
def firstParagraph (gap : Bytes) : Bytes → Bytes
  | [] => []
  | b :: rest =>
    if b = lineEnd ∧ !goesOn rest then []
    else if isGap b then firstParagraph (b :: gap) rest
    else (if gap.contains lineEnd then [32] else gap.reverse) ++ b :: firstParagraph [] rest

/-- The first paragraph of the message on one line: a gap with a line end in it is one blank. -/
def Commit.summary (c : Commit) : Bytes := firstParagraph [] c.text

end Runbook.Git
