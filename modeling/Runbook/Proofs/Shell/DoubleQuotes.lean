import Runbook.Proofs.Shell.LiteralMarks

/-!
# What stands between double quotes

A text between double quotes is read up to the quote that closes it, whatever stands behind that,
and the word that is being read goes on with the text as it was (`Scan.upToBare?_quote`): every
backslash that was put in stands before a character that it is taken away before, and each one of
the text itself is such a character.

The shell that runs scripts gives marks to the same characters (`Reader.read_quote`). None of them
is a dollar or a backquote that could start an expansion, so the word expands to the text as its
only field (`expandFields_quotedMarks`).
-/

namespace Runbook.Shell

/-! ### The reader of command lines -/

namespace Scan

/-- What a backslash does between double quotes to the character behind it. -/
theorem read_backslash (word : List Char) (ws : List (List Char)) (act : List Char) (c : Char) :
    read ⟨.double, some word, ws, act⟩ ['\\', c] =
      ⟨.double, some (word ++ if c = '\n' then [] else
        if c ∈ ['$', '\x60', '"', '\\'] then [c] else ['\\', c]), ws, act⟩ := by
  rw [read_cons, step_backslash, read_cons, read_nil]
  by_cases hline : c = '\n'
  · simp [step, hline]
  · by_cases hc : c ∈ ['$', '\x60', '"', '\\'] <;> simp [step, hline, extend, isEscapable, hc]

end Scan

/-! ### The reader of scripts -/

/-- The marks of a text between double quotes: a special character stands behind a backslash. -/
def quotedMarks (cs : List Char) : List Mark :=
  cs.map fun c => if isSpecialInQuotes c then .hard c else .soft c

namespace Reader

/-- Outside of quotes and comments, and not behind a backslash. -/
def outside (dollar fresh : Bool) : Reader := ⟨[], false, dollar, fresh, false⟩

theorem read_of_step {r r' : Reader} {c : Char} {marks : List Mark} (h : r.step c = (r', marks))
    (cs : List Char) : r.read (c :: cs) = ((r'.read cs).1, marks ++ (r'.read cs).2) := by
  rw [read, h]

/-- Between double quotes a special character behind a backslash has lost its meaning. -/
theorem read_of_special {c : Char} (h : isSpecialInQuotes c = true) (cs : List Char) :
    (within [.double]).read ('\\' :: c :: cs) =
      (((within [.double]).read cs).1, .hard c :: ((within [.double]).read cs).2) := by
  have hactive : isActiveInQuotes c = true := by
    simpa [isActiveInQuotes, isSpecialInQuotes, or_comm, or_left_comm, or_assoc] using h
  have hline : c ≠ '\n' := by
    rintro rfl
    exact absurd h (by decide)
  have hbackslash : (within [.double]).step '\\' =
      ({ within [.double] with escaped := true }, []) := rfl
  have hstep : ({ within [.double] with escaped := true } : Reader).step c =
      (within [.double], [.hard c]) := by
    simp [step, stepDouble, within, hline, hactive]
  rw [read_of_step hbackslash, read_of_step hstep]
  rfl

/-- Between double quotes any other character stands for itself. -/
theorem read_of_not_special {c : Char} (h : ¬isSpecialInQuotes c = true) (cs : List Char) :
    (within [.double]).read (c :: cs) =
      (((within [.double]).read cs).1, .soft c :: ((within [.double]).read cs).2) := by
  simp only [isSpecialInQuotes, Bool.or_eq_true, beq_iff_eq, not_or] at h
  obtain ⟨⟨⟨hquote, hbackslash⟩, hdollar⟩, hbackquote⟩ := h
  have hstep : (within [.double]).step c = (within [.double], [.soft c]) := by
    simp [step, stepDouble, within, opened?, hquote, hbackslash, hdollar, hbackquote]
  exact read_of_step hstep cs

theorem read_quotedBody (cs : List Char) :
    (within [.double]).read (quotedBody cs) = (within [.double], quotedMarks cs) := by
  induction cs with
  | nil => rfl
  | cons c cs ih =>
    rw [quotedBody, quotedMarks, List.map_cons, ← quotedMarks]
    split
    · next hc => rw [read_of_special hc, ih]
    · next hc => rw [read_of_not_special hc, ih]

/-- Behind a quoted text, whatever follows is read as behind any part of a word. -/
theorem read_quote (dollar fresh : Bool) (text : String) (rest : List Char) :
    (outside dollar fresh).read ((quote text).toList ++ rest) =
      (((within []).read rest).1,
        .quote :: (quotedMarks text.toList ++ ((within []).read rest).2)) := by
  have hopen : (outside dollar fresh).step '"' = (within [.double], [.quote]) := rfl
  have hclose : (within [.double]).step '"' = (within [], []) := rfl
  rw [quote, String.toList_ofList, List.cons_append, read_of_step hopen, List.append_assoc,
    List.singleton_append, read_append, read_quotedBody, read_of_step hclose]
  rfl

end Reader

/-! ### The expanded word -/

/-- A quoted text is literal: no dollar between the quotes can start an expansion. -/
theorem isLiteral_quotedMarks (cs : List Char) :
    Word.IsLiteral (.quote :: quotedMarks cs) := by
  refine ⟨List.cons_ne_nil _ _, List.forall_mem_cons.mpr ⟨rfl, ?_⟩⟩
  rw [quotedMarks, List.forall_mem_map]
  intro c _
  split
  · rfl
  · next hc =>
    have hdollar : c ≠ '$' := by
      rintro rfl
      exact hc rfl
    exact bne_iff_ne.mpr hdollar

/-- The word of a quoted text has the characters of the text. -/
theorem text_quotedMarks (text : String) :
    Word.text (.quote :: quotedMarks text.toList) = text := by
  have hchar : ∀ c, (if isSpecialInQuotes c then Mark.hard c else .soft c).char? = some c := by
    intro c
    split <;> rfl
  have hchars : (quotedMarks text.toList).filterMap Mark.char? = text.toList := by
    rw [quotedMarks, List.filterMap_map]
    simp [hchar]
  rw [Word.text, List.filterMap_cons_none rfl, hchars, String.ofList_toList]

/-- The word of a quoted text expands to the text alone: no script is run for it, and the shell is
as it was. -/
theorem expandFields_quotedMarks (output : String → Action String) (text : String) (m : Machine) :
    expandFields output (.quote :: quotedMarks text.toList) m = (.ok [text], m) := by
  rw [(isLiteral_quotedMarks text.toList).expandFields_eq, text_quotedMarks]

/-- **What is quoted is read back.** A reader of command lines that is outside of quotes stops right
behind the quoted text, whatever follows, with the text put to its word and nothing active met on
the way, and reads on from there; between double quotes it takes a backslash away only before the
four special characters, and together with a line end. The shell that runs scripts reads the same
text as marks that end where it ends, and expands them to the text as one field. -/
theorem quote_read_back (text rest : String) :
    (∀ (word : Option (List Char)) (ws : List (List Char)) (act : List Char),
      Scan.upToBare? ⟨.bare, word, ws, act⟩ (quote text ++ rest).toList =
          some (⟨.bare, some (word.getD [] ++ text.toList), ws, act⟩, rest.toList) ∧
        Scan.read ⟨.bare, word, ws, act⟩ (quote text ++ rest).toList =
          Scan.read ⟨.bare, some (word.getD [] ++ text.toList), ws, act⟩ rest.toList) ∧
    (∀ (word : List Char) (ws : List (List Char)) (act : List Char) (c : Char),
      Scan.read ⟨.double, some word, ws, act⟩ ['\\', c] =
        ⟨.double, some (word ++ if c = '\n' then [] else
          if c ∈ ['$', '\x60', '"', '\\'] then [c] else ['\\', c]), ws, act⟩) ∧
    (∀ dollar fresh : Bool,
      (Reader.outside dollar fresh).read (quote text ++ rest).toList =
        (((Reader.within []).read rest.toList).1,
          .quote :: (quotedMarks text.toList ++ ((Reader.within []).read rest.toList).2))) ∧
    ∀ (output : String → Action String) (m : Machine),
      expandFields output (.quote :: quotedMarks text.toList) m = (.ok [text], m) := by
  rw [String.toList_append]
  refine ⟨fun word ws act => ?_, Scan.read_backslash, fun dollar fresh => ?_, fun output m => ?_⟩
  · have hstop := Scan.upToBare?_quote word ws act text rest.toList
    exact ⟨hstop, Scan.read_of_upToBare? hstop⟩
  · exact Reader.read_quote dollar fresh text rest.toList
  · exact expandFields_quotedMarks output text m

end Runbook.Shell
