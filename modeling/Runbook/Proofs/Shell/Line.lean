import Runbook.Command
import Runbook.Shell.Quoting
import Mathlib.Data.List.Forall2
import Mathlib.Tactic.SplitIfs

/-!
# The words of a command line

A command line as a shell reads it before it expands anything. Blanks outside of quotes stand
between words. Outside of quotes a backslash makes the next character literal, between single
quotes everything is literal, and between double quotes a backslash is taken away only before a
dollar, a backquote, a double quote and a backslash; a backslash before a line end vanishes with
it. Any other character that means something outside of quotes, and a dollar or a backquote between
double quotes, is *active*: it is noted, and a line that means nothing but its words has none.

`Line.read_intercalate` is what the other modules use: texts that can be read one by one are read
one after another when they are joined by blanks. A text between double quotes is one word
(`Line.read_quote`), and so is an escaped text (`Line.read_escape`), whatever the text is.
-/

namespace Runbook.Shell

/-- What a reader of a command line is in. -/
inductive Place where
  /-- Outside of quotes. -/
  | bare
  /-- Outside of quotes, behind a backslash. -/
  | escaped
  /-- Between single quotes. -/
  | single
  /-- Between double quotes. -/
  | double
  /-- Between double quotes, behind a backslash. -/
  | doubleEscaped
deriving DecidableEq, Repr

/-- What was read of a command line. -/
structure Scan where
  place : Place
  /-- The word that has begun, if there is one. -/
  word : Option (List Char)
  /-- The words before it. -/
  words : List (List Char)
  /-- The active characters. -/
  active : List Char
deriving DecidableEq, Repr

namespace Scan

/-- Nothing was read. -/
def start : Scan := ⟨.bare, none, [], []⟩

/-- Characters that belong to the word; it begins here if none has begun. -/
def extend (r : Scan) (cs : List Char) : Scan := { r with word := some (r.word.getD [] ++ cs) }

/-- The word ends here, if one has begun. -/
def close (r : Scan) : Scan := { r with word := none, words := r.words ++ r.word.toList }

/-- An active character. -/
def note (r : Scan) (c : Char) : Scan := { r with active := r.active ++ [c] }

/-- A character that is an operator or part of one, or ends a command. -/
def isOperator (c : Char) : Bool := ['|', '&', ';', '<', '>', '(', ')', '\n'].contains c

/-- A character that means something in a word: it starts an expansion, a pattern or a comment, or
is a reserved word by itself. -/
def isExpanding (c : Char) : Bool :=
  ['$', '\x60', '*', '?', '[', ']', '#', '~', '%', '!', '\x7b', '\x7d'].contains c

/-- A character that a backslash takes the meaning from between double quotes. -/
def isEscapable (c : Char) : Bool := ['$', '\x60', '"', '\\'].contains c

/-- One character. -/
def step (r : Scan) (c : Char) : Scan :=
  match r.place with
  | .bare =>
    if c = ' ' ∨ c = '\t' then r.close
    else if c = '\\' then { r with place := .escaped }
    else if c = '\'' then { r.extend [] with place := .single }
    else if c = '"' then { r.extend [] with place := .double }
    else if isOperator c then r.close.note c
    else if isExpanding c then (r.extend [c]).note c
    else r.extend [c]
  | .escaped => { (if c = '\n' then r else r.extend [c]) with place := .bare }
  | .single => if c = '\'' then { r with place := .bare } else r.extend [c]
  | .double =>
    if c = '"' then { r with place := .bare }
    else if c = '\\' then { r with place := .doubleEscaped }
    else if c = '$' ∨ c = '\x60' then (r.extend [c]).note c
    else r.extend [c]
  | .doubleEscaped =>
    if c = '\n' then { r with place := .double }
    else { r.extend (if isEscapable c then [c] else ['\\', c]) with place := .double }

/-- A text. -/
def read (r : Scan) (cs : List Char) : Scan := cs.foldl step r

@[simp] theorem read_nil (r : Scan) : r.read [] = r := rfl

@[simp] theorem read_cons (r : Scan) (c : Char) (cs : List Char) :
    r.read (c :: cs) = (r.step c).read cs := rfl

@[simp] theorem read_append (r : Scan) (cs ds : List Char) :
    r.read (cs ++ ds) = (r.read cs).read ds := List.foldl_append

@[simp] theorem extend_extend (r : Scan) (cs ds : List Char) :
    (r.extend cs).extend ds = r.extend (cs ++ ds) := by
  simp [extend]

/-! ### Reading behind something -/

/-- The same reading with other words and active characters before it. -/
def behind (r : Scan) (words : List (List Char)) (active : List Char) : Scan :=
  { r with words := words ++ r.words, active := active ++ r.active }

theorem behind_step (r : Scan) (ws : List (List Char)) (act : List Char) (c : Char) :
    (r.behind ws act).step c = (r.step c).behind ws act := by
  obtain ⟨place, word, words, active⟩ := r
  cases place <;> simp only [step, behind, extend, close, note] <;> split_ifs <;>
    simp [List.append_assoc]

theorem behind_read (r : Scan) (ws : List (List Char)) (act cs : List Char) :
    (r.behind ws act).read cs = (r.read cs).behind ws act := by
  induction cs generalizing r with
  | nil => rfl
  | cons c cs ih => rw [read_cons, read_cons, behind_step, ih]

/-! ### Reading quoted texts -/

theorem step_backslash (word : List Char) (ws : List (List Char)) (act : List Char) :
    step ⟨.double, some word, ws, act⟩ '\\' = ⟨.doubleEscaped, some word, ws, act⟩ := rfl

/-- Between double quotes a special character behind a backslash goes into the word. -/
theorem step_of_special {c : Char} (h : isSpecialInQuotes c = true) (word : List Char)
    (ws : List (List Char)) (act : List Char) :
    step ⟨.doubleEscaped, some word, ws, act⟩ c = ⟨.double, some (word ++ [c]), ws, act⟩ := by
  have hescapable : isEscapable c = true := by
    simpa [isEscapable, isSpecialInQuotes, or_comm, or_left_comm, or_assoc] using h
  have hline : c ≠ '\n' := by
    rintro rfl
    exact absurd h (by decide)
  simp [step, hline, hescapable, extend]

/-- Between double quotes any other character goes into the word as it is. -/
theorem step_of_not_special {c : Char} (h : ¬isSpecialInQuotes c = true) (word : List Char)
    (ws : List (List Char)) (act : List Char) :
    step ⟨.double, some word, ws, act⟩ c = ⟨.double, some (word ++ [c]), ws, act⟩ := by
  simp only [isSpecialInQuotes, Bool.or_eq_true, beq_iff_eq, not_or] at h
  obtain ⟨⟨⟨hquote, hbackslash⟩, hdollar⟩, hbackquote⟩ := h
  simp [step, hquote, hbackslash, hdollar, hbackquote, extend]

/-- Reads up to where the reader is outside of quotes, and behind no backslash, for the first time;
what is left stands beside it. -/
def upToBare? (r : Scan) : List Char → Option (Scan × List Char)
  | [] => none
  | c :: cs => if (r.step c).place = .bare then some (r.step c, cs) else (r.step c).upToBare? cs

theorem upToBare?_of_ne {r : Scan} {c : Char} (h : (r.step c).place ≠ .bare) (cs : List Char) :
    r.upToBare? (c :: cs) = (r.step c).upToBare? cs := by
  rw [upToBare?, if_neg h]

/-- Where the reader stopped, the reading goes on. -/
theorem read_of_upToBare? {r r' : Scan} {cs rest : List Char}
    (h : r.upToBare? cs = some (r', rest)) : r.read cs = r'.read rest := by
  induction cs generalizing r with
  | nil => cases h
  | cons c cs ih =>
    rw [upToBare?] at h
    split at h
    · obtain ⟨rfl, rfl⟩ := Prod.mk.inj (Option.some.inj h)
      rfl
    · exact ih h

/-- The body of a quoted text gives back the text, and ends at the quote behind it. -/
theorem upToBare?_quotedBody (word : List Char) (ws : List (List Char)) (act cs rest : List Char) :
    upToBare? ⟨.double, some word, ws, act⟩ (quotedBody cs ++ '"' :: rest) =
      some (⟨.bare, some (word ++ cs), ws, act⟩, rest) := by
  induction cs generalizing word with
  | nil => simp [quotedBody, upToBare?, step]
  | cons c cs ih =>
    have hrest := ih (word ++ [c])
    rw [List.append_assoc, List.singleton_append] at hrest
    rw [quotedBody]
    split
    · next hc =>
      rw [List.cons_append, List.cons_append, upToBare?_of_ne (by simp [step_backslash]),
        step_backslash, upToBare?_of_ne (by simp [step_of_special hc]), step_of_special hc, hrest]
    · next hc =>
      rw [List.cons_append, upToBare?_of_ne (by simp [step_of_not_special hc]),
        step_of_not_special hc, hrest]

/-- A quoted text goes into the word as it is, and ends where it does, whatever follows. -/
theorem upToBare?_quote (word : Option (List Char)) (ws : List (List Char)) (act : List Char)
    (text : String) (rest : List Char) :
    upToBare? ⟨.bare, word, ws, act⟩ ((quote text).toList ++ rest) =
      some (⟨.bare, some (word.getD [] ++ text.toList), ws, act⟩, rest) := by
  have hopen : step ⟨.bare, word, ws, act⟩ '"' = ⟨.double, some (word.getD []), ws, act⟩ := by
    simp [step, extend]
  rw [quote, String.toList_ofList, List.cons_append, List.append_assoc, List.singleton_append,
    upToBare?_of_ne (by simp [hopen]), hopen, upToBare?_quotedBody]

theorem read_quote {r : Scan} (h : r.place = .bare) (text : String) :
    r.read (quote text).toList = r.extend text.toList := by
  obtain ⟨place, word, ws, act⟩ := r
  cases h
  have hstop := upToBare?_quote word ws act text []
  rw [List.append_nil] at hstop
  exact read_of_upToBare? hstop

/-- A character that stands for itself outside of quotes. -/
def isPlain (c : Char) : Bool :=
  !([' ', '\t', '\\', '\'', '"'].contains c || isOperator c || isExpanding c)

/-- A plain character is none of those that mean something. -/
theorem ne_of_isPlain {c d : Char} (hc : isPlain c = true) (hd : isPlain d = false) : c ≠ d := by
  rintro rfl
  exact absurd hc (by simp [hd])

/-- What is safe as it is stands for itself. -/
theorem isPlain_of_isSafe {c : Char} (h : isSafe c = true) : isPlain c = true := by
  let marks : List Char := [' ', '\t', '\\', '\'', '"', '|', '&', ';', '<', '>', '(', ')', '\n',
    '$', '\x60', '*', '?', '[', ']', '#', '~', '%', '!', '\x7b', '\x7d']
  have hmarks : marks.all (fun d => !isSafe d) = true := by decide
  by_contra hplain
  have hmem : c ∈ marks := by
    simpa [marks, isPlain, isOperator, isExpanding, or_iff_not_imp_left] using hplain
  simpa [h] using List.all_eq_true.mp hmarks c hmem

theorem read_plain {r : Scan} (h : r.place = .bare) {cs : List Char} (hne : cs ≠ [])
    (hcs : ∀ c ∈ cs, isPlain c) : r.read cs = r.extend cs := by
  induction cs generalizing r with
  | nil => exact absurd rfl hne
  | cons c cs ih =>
    have hc := hcs c List.mem_cons_self
    simp only [isPlain, List.contains_cons, List.contains_nil, Bool.or_false, Bool.not_eq_true',
      Bool.or_eq_false_iff, beq_eq_false_iff_ne] at hc
    obtain ⟨⟨⟨h₁, h₂, h₃, h₄, h₅⟩, hop⟩, hexp⟩ := hc
    have hstep : r.step c = r.extend [c] := by
      simp [step, h, h₁, h₂, h₃, h₄, h₅, hop, hexp]
    rw [read_cons, hstep]
    cases cs with
    | nil => rfl
    | cons d ds =>
      have hrest : (r.extend [c]).read (d :: ds) = (r.extend [c]).extend (d :: ds) :=
        ih h (by simp) fun e he => hcs e (List.mem_cons_of_mem c he)
      rw [hrest, extend_extend]
      rfl

/-- A character of an escaped text stands for itself, whatever it is. -/
theorem read_escapedChar {r : Scan} (h : r.place = .bare) (c : Char) :
    r.read (escapedChar c) = r.extend [c] := by
  unfold escapedChar
  split
  · next hsafe =>
    exact read_plain h (by simp) (by simpa using isPlain_of_isSafe hsafe)
  · obtain ⟨place, word, ws, act⟩ := r
    cases h
    split
    · next hnewline =>
      subst hnewline
      simp [step, extend]
    · next hnewline => simp [step, extend, hnewline]

theorem read_escapedChars {r : Scan} (h : r.place = .bare) {cs : List Char} (hne : cs ≠ []) :
    r.read (cs.flatMap escapedChar) = r.extend cs := by
  induction cs generalizing r with
  | nil => exact absurd rfl hne
  | cons c cs ih =>
    rw [List.flatMap_cons, read_append, read_escapedChar h]
    cases cs with
    | nil => rfl
    | cons d ds =>
      have hrest : (r.extend [c]).read ((d :: ds).flatMap escapedChar) =
          (r.extend [c]).extend (d :: ds) := ih h (by simp)
      rw [hrest, extend_extend]
      rfl

/-- An escaped text goes into the word as it is; an empty one makes the word begin. -/
theorem read_escape {r : Scan} (h : r.place = .bare) (text : String) :
    r.read (escape text).toList = r.extend text.toList := by
  unfold escape
  split
  · next hempty =>
    obtain ⟨place, word, ws, act⟩ := r
    cases h
    subst hempty
    simp [step, extend]
  · next hne =>
    rw [String.toList_ofList]
    exact read_escapedChars h (by simpa using hne)

/-! ### Reading words without quotes -/

/-- A blank between words. -/
def isBlank (c : Char) : Bool := c == ' ' || c == '\t'

theorem modifyHead_nil_append (ps : List (List Char)) : ps.modifyHead ([] ++ ·) = ps := by
  cases ps <;> rfl

/-- Where only plain characters and blanks stand, the words are what the blanks leave; the first
piece goes on with the word that has begun. -/
theorem close_read_plain_blank {word : Option (List Char)} (hword : word ≠ some [])
    (ws : List (List Char)) (act : List Char) {cs : List Char}
    (hcs : ∀ c ∈ cs, isPlain c ∨ isBlank c) :
    (read ⟨.bare, word, ws, act⟩ cs).close = ⟨.bare, none,
      ws ++ ((cs.splitOnP isBlank).modifyHead (word.getD [] ++ ·)).filter (· ≠ []), act⟩ := by
  induction cs generalizing word ws with
  | nil => cases word <;> simp_all [close]
  | cons c cs ih =>
    have hrest : ∀ d ∈ cs, isPlain d ∨ isBlank d := fun d hd => hcs d (List.mem_cons_of_mem c hd)
    rw [read_cons, List.splitOnP_cons_eq_if_modifyHead]
    by_cases hc : isBlank c = true
    · have hblank : c = ' ' ∨ c = '\t' := by simpa [isBlank] using hc
      have hstep : step ⟨.bare, word, ws, act⟩ c = ⟨.bare, none, ws ++ word.toList, act⟩ := by
        simp [step, hblank, close]
      rw [hstep, ih (by simp) _ hrest, if_pos hc, Option.getD_none, modifyHead_nil_append]
      cases word <;> simp_all
    · have hplain : isPlain c = true := (hcs c List.mem_cons_self).resolve_right hc
      have hstep : read ⟨.bare, word, ws, act⟩ [c] = ⟨.bare, some (word.getD [] ++ [c]), ws, act⟩ :=
        read_plain rfl (by simp) (by simpa using hplain)
      rw [read_cons, read_nil] at hstep
      rw [hstep, ih (by simp) _ hrest, if_neg hc, List.modifyHead_modifyHead]
      simp [Function.comp_def]

end Scan

/-! ### Lines -/

/-- The words of a command line, and its active characters. -/
structure Line where
  words : List String
  active : List Char
deriving DecidableEq, Repr

namespace Line

/-- One line behind another one. -/
def append (l m : Line) : Line := ⟨l.words ++ m.words, l.active ++ m.active⟩

/-- The line that a scan has come to. -/
def ofScan (r : Scan) : Line := ⟨r.close.words.map String.ofList, r.active⟩

/-- Reads a text; nothing if it ends inside of quotes or behind a backslash. -/
def read (text : String) : Option Line :=
  let r := Scan.start.read text.toList
  if r.place = .bare then some (ofScan r) else none

theorem read_eq_some_iff {text : String} {l : Line} :
    read text = some l ↔
      (Scan.start.read text.toList).place = .bare ∧ ofScan (Scan.start.read text.toList) = l := by
  simp [read]

theorem read_empty : read "" = some ⟨[], []⟩ := rfl

/-- A text behind one that can be read, with a blank between them. -/
theorem read_append_blank {text : String} {l : Line} (h : read text = some l) (more : String) :
    read (text ++ " " ++ more) = (read more).map l.append := by
  obtain ⟨hplace, rfl⟩ := read_eq_some_iff.mp h
  generalize hr : Scan.start.read text.toList = r at hplace
  obtain ⟨place, word, ws, act⟩ := r
  cases hplace
  -- the blank ends the word, and what follows is read as from the start
  have hread : Scan.start.read (text ++ " " ++ more).toList =
      (Scan.start.read more.toList).behind (ws ++ word.toList) act := by
    rw [String.toList_append, String.toList_append, Scan.read_append, Scan.read_append, hr,
      ← Scan.behind_read]
    congr 1
    simp [Scan.step, Scan.close, Scan.behind, Scan.start]
  rw [read, hread, read, apply_ite (Option.map (append _))]
  simp [Scan.behind, ofScan, append, Scan.close]

/-- **Texts that can be read one by one are read one after another.** -/
theorem read_intercalate {texts : List String} {lines : List Line}
    (h : List.Forall₂ (fun text l => read text = some l) texts lines) :
    read (" ".intercalate texts) =
      some ⟨lines.flatMap Line.words, lines.flatMap Line.active⟩ := by
  induction h with
  | nil => exact read_empty
  | @cons text l texts lines hl hrest ih =>
    cases hrest with
    | nil => simpa using hl
    | cons hm hrest =>
      rw [String.intercalate_cons_cons, read_append_blank hl, ih]
      rfl

/-- Texts that are one word each. -/
theorem read_intercalate_words {texts words : List String}
    (h : List.Forall₂ (fun text w => read text = some ⟨[w], []⟩) texts words) :
    read (" ".intercalate texts) = some ⟨words, []⟩ := by
  have hlines : List.Forall₂ (fun text l => read text = some l) texts
      (words.map fun w => ⟨[w], []⟩) := List.forall₂_map_right_iff.mpr h
  rw [read_intercalate hlines]
  simp [List.flatMap_map]

theorem read_quote (text : String) : read (quote text) = some ⟨[text], []⟩ := by
  rw [read_eq_some_iff, Scan.read_quote rfl]
  exact ⟨rfl, by simp [ofScan, Scan.close, Scan.extend, Scan.start]⟩

theorem read_plain {text : String} (hne : text ≠ "") (h : ∀ c ∈ text.toList, Scan.isPlain c) :
    read text = some ⟨[text], []⟩ := by
  rw [read_eq_some_iff, Scan.read_plain rfl (by simpa using hne) h]
  exact ⟨rfl, by simp [ofScan, Scan.close, Scan.extend, Scan.start]⟩

/-- A quoted text that touches a plain one is part of the same word. -/
theorem read_plain_quote {front : String} (hne : front ≠ "")
    (h : ∀ c ∈ front.toList, Scan.isPlain c) (text : String) :
    read (front ++ quote text) = some ⟨[front ++ text], []⟩ := by
  rw [read_eq_some_iff, String.toList_append, Scan.read_append,
    Scan.read_plain rfl (by simpa using hne) h, Scan.read_quote rfl]
  exact ⟨rfl, by simp [ofScan, Scan.close, Scan.extend, Scan.start]⟩

/-- An escaped text is one word, also an empty one. -/
theorem read_escape (text : String) : read (escape text) = some ⟨[text], []⟩ := by
  rw [read_eq_some_iff, Scan.read_escape rfl]
  exact ⟨rfl, by simp [ofScan, Scan.close, Scan.extend, Scan.start]⟩

/-- What stands between the blanks of a text. -/
def split (text : String) : List String :=
  ((text.toList.splitOnP Scan.isBlank).filter (· ≠ [])).map String.ofList

/-- Without quotes and active characters, the words are what stands between the blanks. -/
theorem read_plain_blank {text : String}
    (h : ∀ c ∈ text.toList, Scan.isPlain c ∨ Scan.isBlank c) :
    read text = some ⟨split text, []⟩ := by
  have hclose := Scan.close_read_plain_blank (Option.some_ne_none _).symm [] [] h
  rw [Option.getD_none, Scan.modifyHead_nil_append, List.nil_append] at hclose
  -- closing changes neither where the reader is nor what is active
  have hplace : (Scan.start.read text.toList).place = .bare := congrArg Scan.place hclose
  have hactive : (Scan.start.read text.toList).active = [] := congrArg Scan.active hclose
  rw [read_eq_some_iff, ofScan, hactive]
  exact ⟨hplace, by rw [Scan.start, hclose, split]⟩

/-! ### Rendered commands -/

/-- A command line reads as its call and its arguments do. -/
theorem read_render {call : String} {args : List String} {l : Line} {lines : List Line}
    (hcall : read call = some l)
    (hargs : List.Forall₂ (fun a l => read a = some l) args lines) :
    read (Command.render ⟨call, args⟩) =
      some ⟨l.words ++ lines.flatMap Line.words, l.active ++ lines.flatMap Line.active⟩ :=
  read_intercalate (List.Forall₂.cons hcall hargs)

/-- The lines of a batch that has one command for each item of a listing. -/
theorem map_read_render {α : Type} {command : α → Command} {line : α → Option Line}
    (h : ∀ x, read (command x).render = line x) (xs : List α) :
    (Batch.render (xs.map command)).map read = xs.map line := by
  rw [Batch.render, List.map_map, List.map_map]
  exact List.map_congr_left fun x _ => h x

end Line

end Runbook.Shell
