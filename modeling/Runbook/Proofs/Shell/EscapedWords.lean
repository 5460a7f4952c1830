import Runbook.Proofs.Shell.DoubleQuotes
import Runbook.Proofs.Shell.Literal

/-!
# Escaped texts as the words of a line

Escaped texts with a blank between them are split into these texts, one word each
(`escaped_words_read`). How a line is split outside of double quotes is said by rules (`Splits`);
no rule is there for a character that is active, so a line that falls into words by them has none.
The rules leave no choice, since the reader of command lines finds the same words
(`Splits.words_eq`).

The shell that runs scripts sees the same words. The characters of a text are escaped one by one,
and each of them leaves a reader of scripts within the word that it is in
(`Reader.read_escapedChar`), with marks that are literal: a safe character as it is, any other one
behind a backslash or, if it is a line end, between single quotes. An empty text leaves the border
of its quotes. So the word of a text is literal (`isLiteral_escapedMarks`): it ends at the blank
behind it, and nothing in it is put in for a parameter, a home directory or a path.
-/

namespace Runbook.Shell

/-! ### Splitting by rules -/

/-- Behind a word that may have begun, the characters fall into words; the first of them goes on
with the word that has begun. -/
inductive Splits : Option (List Char) → List Char → List (List Char) → Prop where
  /-- A word that has begun ends with the line. -/
  | stop {word : Option (List Char)} : Splits word [] word.toList
  /-- Blanks and line ends separate words. -/
  | separated {word : Option (List Char)} {c : Char} {cs : List Char} {ws : List (List Char)}
      (hc : c = ' ' ∨ c = '\t' ∨ c = '\n') :
      Splits none cs ws → Splits word (c :: cs) (word.toList ++ ws)
  /-- A plain character stands for itself. -/
  | plain {word : Option (List Char)} {c : Char} {cs : List Char} {ws : List (List Char)}
      (hc : Scan.isPlain c = true) :
      Splits (some (word.getD [] ++ [c])) cs ws → Splits word (c :: cs) ws
  /-- A backslash makes the next character literal. -/
  | escaped {word : Option (List Char)} {c : Char} {cs : List Char} {ws : List (List Char)}
      (hc : c ≠ '\n') :
      Splits (some (word.getD [] ++ [c])) cs ws → Splits word ('\\' :: c :: cs) ws
  /-- A backslash before a line end vanishes with it. -/
  | continued {word : Option (List Char)} {cs : List Char} {ws : List (List Char)} :
      Splits word cs ws → Splits word ('\\' :: '\n' :: cs) ws
  /-- Single quotes keep everything literal; a word begins here, even if nothing is in them. -/
  | quoted {word : Option (List Char)} {kept cs : List Char} {ws : List (List Char)}
      (hkept : '\'' ∉ kept) :
      Splits (some (word.getD [] ++ kept)) cs ws → Splits word ('\'' :: (kept ++ '\'' :: cs)) ws

namespace Scan

/-- Between single quotes everything goes into the word. -/
theorem read_kept {kept : List Char} (h : '\'' ∉ kept) (word : List Char) (ws : List (List Char))
    (act cs : List Char) : read ⟨.single, some word, ws, act⟩ (kept ++ '\'' :: cs) =
      read ⟨.bare, some (word ++ kept), ws, act⟩ cs := by
  induction kept generalizing word with
  | nil => simp [step]
  | cons c kept ih =>
    rw [List.mem_cons, not_or] at h
    have hstep : step ⟨.single, some word, ws, act⟩ c = ⟨.single, some (word ++ [c]), ws, act⟩ := by
      simp [step, extend, Ne.symm h.1]
    rw [List.cons_append, read_cons, hstep, ih h.2, List.append_assoc, List.singleton_append]

end Scan

namespace Splits

/-- The reader of command lines finds the words that the rules give. -/
theorem words_eq {word : Option (List Char)} {cs : List Char} {ws : List (List Char)}
    (h : Splits word cs ws) (vs : List (List Char)) (act : List Char) :
    (Scan.read ⟨.bare, word, vs, act⟩ cs).close.words = vs ++ ws := by
  induction h generalizing vs act with
  | stop => rfl
  | @separated word c cs ws hc _ ih =>
    obtain ⟨act', hstep⟩ : ∃ act', Scan.step ⟨.bare, word, vs, act⟩ c =
        ⟨.bare, none, vs ++ word.toList, act'⟩ := by
      rcases hc with rfl | rfl | rfl
      · exact ⟨act, rfl⟩
      · exact ⟨act, rfl⟩
      · exact ⟨act ++ ['\n'], rfl⟩
    rw [Scan.read_cons, hstep, ih, List.append_assoc]
  | @plain word c cs ws hc _ ih =>
    have hstep : Scan.read ⟨.bare, word, vs, act⟩ [c] =
        ⟨.bare, some (word.getD [] ++ [c]), vs, act⟩ :=
      Scan.read_plain rfl (by simp) (by simpa using hc)
    rw [Scan.read_cons, Scan.read_nil] at hstep
    rw [Scan.read_cons, hstep, ih]
  | @escaped word c cs ws hc _ ih =>
    have hstep : (Scan.step ⟨.bare, word, vs, act⟩ '\\').step c =
        ⟨.bare, some (word.getD [] ++ [c]), vs, act⟩ := by
      simp [Scan.step, Scan.extend, hc]
    rw [Scan.read_cons, Scan.read_cons, hstep, ih]
  | continued _ ih => exact ih vs act
  | @quoted word kept cs ws hkept _ ih =>
    have hopen : Scan.step ⟨.bare, word, vs, act⟩ '\'' =
        ⟨.single, some (word.getD []), vs, act⟩ := by
      simp [Scan.step, Scan.extend]
    rw [Scan.read_cons, hopen, Scan.read_kept hkept, ih]

/-- The rules leave no choice. -/
theorem unique {word : Option (List Char)} {cs : List Char} {ws vs : List (List Char)}
    (h : Splits word cs ws) (h' : Splits word cs vs) : ws = vs := by
  have hws := h.words_eq [] []
  rwa [h'.words_eq [] [], List.nil_append, List.nil_append, eq_comm] at hws

theorem escapedChar {word : Option (List Char)} {c : Char} {cs : List Char}
    {ws : List (List Char)} (h : Splits (some (word.getD [] ++ [c])) cs ws) :
    Splits word (escapedChar c ++ cs) ws := by
  unfold Shell.escapedChar
  split_ifs with hsafe hline
  · exact .plain (Scan.isPlain_of_isSafe hsafe) h
  · subst hline
    exact .quoted (show '\'' ∉ ['\n'] by decide) h
  · exact .escaped hline h

theorem escapedChars {word : Option (List Char)} {text cs : List Char} {ws : List (List Char)}
    (hne : text ≠ []) (h : Splits (some (word.getD [] ++ text)) cs ws) :
    Splits word (text.flatMap Shell.escapedChar ++ cs) ws := by
  induction text generalizing word with
  | nil => exact absurd rfl hne
  | cons c text ih =>
    rw [List.flatMap_cons, List.append_assoc]
    refine escapedChar ?_
    cases text with
    | nil => exact h
    | cons d text =>
      refine ih (by simp) ?_
      rwa [Option.getD_some, List.append_assoc, List.singleton_append]

/-- An escaped text goes into the word as it is; an empty one makes the word begin. -/
theorem escape {word : Option (List Char)} {text : String} {cs : List Char}
    {ws : List (List Char)} (h : Splits (some (word.getD [] ++ text.toList)) cs ws) :
    Splits word ((escape text).toList ++ cs) ws := by
  unfold Shell.escape
  split_ifs with hempty
  · subst hempty
    exact .quoted List.not_mem_nil h
  · rw [String.toList_ofList]
    exact escapedChars (by simpa using hempty) h

/-- Escaped texts behind one another, each with a blank before it. -/
theorem trail (word : List Char) (texts : List String) :
    Splits (some word) (Line.trail (texts.map Shell.escape)) (word :: texts.map String.toList) := by
  induction texts generalizing word with
  | nil => exact .stop
  | cons text texts ih => exact .separated (.inl rfl) (escape (ih text.toList))

/-- Escaped texts fall into the texts. -/
theorem intercalate (texts : List String) :
    Splits none (" ".intercalate (texts.map Shell.escape)).toList (texts.map String.toList) := by
  cases texts with
  | nil => exact .stop
  | cons text texts =>
    rw [List.map_cons, Line.toList_intercalate_cons]
    exact escape (trail text.toList texts)

end Splits

/-! ### The marks of escaped texts -/

/-- The marks of a character of an escaped text. -/
def escapedCharMarks (c : Char) : List Mark :=
  if isSafe c then [.bare c] else if c = '\n' then [.quote, .hard c] else [.hard c]

/-- The marks of an escaped text. -/
def escapedMarks (text : String) : Word :=
  if text = "" then [.quote] else text.toList.flatMap escapedCharMarks

theorem isLiteral_escapedCharMarks (c : Char) : ∀ m ∈ escapedCharMarks c, m.isLiteral = true := by
  unfold escapedCharMarks
  split_ifs with hsafe
  · simpa [Mark.isLiteral] using Scan.isPlain_of_isSafe hsafe
  · simp [Mark.isLiteral]
  · simp [Mark.isLiteral]

/-- The only character of these marks is the one that was escaped. -/
theorem filterMap_escapedCharMarks (c : Char) :
    (escapedCharMarks c).filterMap Mark.char? = [c] := by
  unfold escapedCharMarks
  split_ifs <;> rfl

/-- The word of an escaped text has the characters of the text. -/
theorem text_escapedMarks (text : String) : (escapedMarks text).text = text := by
  unfold escapedMarks Word.text
  split_ifs with hempty
  · rw [hempty]
    rfl
  · have hchars : text.toList.flatMap (fun c => (escapedCharMarks c).filterMap Mark.char?) =
        text.toList := by
      simp only [filterMap_escapedCharMarks, List.flatMap_singleton']
    rw [List.filterMap_flatMap, hchars, String.ofList_toList]

theorem escapedMarks_ne_nil (text : String) : escapedMarks text ≠ [] := by
  intro hnil
  have htext := text_escapedMarks text
  rw [hnil] at htext
  -- an empty text has the border of its quotes
  subst htext
  cases hnil

theorem isLiteral_escapedMarks (text : String) : (escapedMarks text).IsLiteral := by
  refine ⟨escapedMarks_ne_nil text, ?_⟩
  unfold escapedMarks
  split_ifs with hempty
  · simp [Mark.isLiteral]
  · intro m hm
    obtain ⟨c, -, hc⟩ := List.mem_flatMap.mp hm
    exact isLiteral_escapedCharMarks c m hc

/-! ### The reader of scripts -/

namespace Reader

/-- A plain character ends no word. -/
theorem isBreak_of_isPlain {c : Char} (h : Scan.isPlain c = true) : isBreak c = false := by
  have hall : [' ', '\t', '\n', ';', '&', '|', '(', ')', '<', '>'].all
      (fun d => !Scan.isPlain d) = true := by decide
  rw [Bool.eq_false_iff]
  intro hbreak
  have hc := List.all_eq_true.mp hall c (List.contains_iff_mem.mp hbreak)
  simp [h] at hc

/-- A plain character stands for itself, and the word goes on behind it. -/
theorem step_plain {c : Char} (h : Scan.isPlain c = true) (dollar fresh : Bool) :
    (outside dollar fresh).step c = (within [], [.bare c]) := by
  have hne : ∀ d, Scan.isPlain d = false → c ≠ d := fun d hd => Scan.ne_of_isPlain h hd
  have hdollar : (c == '$') = false := beq_false_of_ne (hne '$' (by decide))
  simp [step, stepBare, outside, opened?, within, isBreak_of_isPlain h, hdollar,
    hne '\\' (by decide), hne '\'' (by decide), hne '"' (by decide), hne '#' (by decide),
    hne '\x60' (by decide), hne '(' (by decide), hne '\x7b' (by decide)]

/-- Outside of quotes a character behind a backslash has lost its meaning. -/
theorem read_escaped {c : Char} (h : c ≠ '\n') (dollar fresh : Bool) :
    (outside dollar fresh).read ['\\', c] = (within [], [.hard c]) := by
  simp [read, step, stepBare, outside, h]

/-- A character of an escaped text leaves its own marks, and the word goes on behind it. -/
theorem read_escapedChar (dollar fresh : Bool) (c : Char) :
    (outside dollar fresh).read (escapedChar c) = (within [], escapedCharMarks c) := by
  unfold escapedChar escapedCharMarks
  split_ifs with hsafe hline
  · rw [read_of_step (step_plain (Scan.isPlain_of_isSafe hsafe) dollar fresh)]
    rfl
  · rw [hline]
    rfl
  · exact read_escaped hline dollar fresh

theorem read_escapedChars (cs : List Char) :
    (within []).read (cs.flatMap escapedChar) = (within [], cs.flatMap escapedCharMarks) := by
  induction cs with
  | nil => rfl
  | cons c cs ih =>
    have hc : (within []).read (escapedChar c) = (within [], escapedCharMarks c) :=
      read_escapedChar false false c
    rw [List.flatMap_cons, read_append, hc, ih, List.flatMap_cons]

/-- An escaped text leaves its own marks, and the word goes on behind it. -/
theorem read_escape (dollar fresh : Bool) (text : String) :
    (outside dollar fresh).read (escape text).toList = (within [], escapedMarks text) := by
  unfold escape escapedMarks
  split_ifs with hempty
  · rfl
  · obtain ⟨c, cs, hchars⟩ := List.exists_cons_of_ne_nil
      (show text.toList ≠ [] by simpa using hempty)
    rw [String.toList_ofList, hchars, List.flatMap_cons, read_append, read_escapedChar,
      read_escapedChars, List.flatMap_cons]

/-- Escaped texts behind one another, each with a blank before it. -/
theorem read_trail (texts : List String) :
    (within []).read (Line.trail (texts.map escape)) =
      (within [], blankBefore (texts.map escapedMarks)) := by
  induction texts with
  | nil => rfl
  | cons text texts ih =>
    have hblank : (within []).step ' ' = (outside false true, [.bare ' ']) := rfl
    rw [List.map_cons, Line.trail, List.flatMap_cons, ← Line.trail, List.cons_append,
      read_of_step hblank, read_append, read_escape, ih]
    rfl

end Reader

/-- The tokens of escaped texts are their words. -/
theorem map_token_tokens_escaped (texts : List String) :
    (tokens (" ".intercalate (texts.map escape))).map Lexeme.token =
      texts.map fun text => .word (escapedMarks text) := by
  cases texts with
  | nil => rfl
  | cons text texts =>
    have hread : Reader.start.read (" ".intercalate ((text :: texts).map escape)).toList =
        (Reader.within [], escapedMarks text ++ blankBefore (texts.map escapedMarks)) := by
      have hfirst : Reader.start.read (escape text).toList =
          (Reader.within [], escapedMarks text) := Reader.read_escape false true text
      rw [List.map_cons, Line.toList_intercalate_cons, Reader.read_append, hfirst,
        Reader.read_trail]
    have hliteral : ∀ w ∈ escapedMarks text :: texts.map escapedMarks, w.IsLiteral := by
      rw [← List.map_cons, List.forall_mem_map]
      exact fun t _ => isLiteral_escapedMarks t
    have hsplit := map_token_splitMarks hliteral 0 1
    rw [Nat.zero_add, ← List.map_cons, List.map_map] at hsplit
    rw [tokens_of_read hread rfl rfl, hsplit]
    rfl

/-- **Escaped texts are words.** Joined by single blanks they are split into the texts, and in no
other way, and no character that is met is active. The shell that runs scripts finds the same words
in the line, and expands each of them to its text as one field, without running anything. -/
theorem escaped_words_read (texts : List String) :
    (∀ words, Splits none (" ".intercalate (texts.map escape)).toList words ↔
      words = texts.map String.toList) ∧
    Line.read (" ".intercalate (texts.map escape)) = some ⟨texts, []⟩ ∧
    (tokens (" ".intercalate (texts.map escape))).map Lexeme.token =
      texts.map (fun text => .word (escapedMarks text)) ∧
    ∀ (output : String → Action String) (m : Machine),
      (texts.map escapedMarks).mapM (expandFields output) m = (.ok (texts.map ([·])), m) := by
  refine ⟨fun words => ?_, Line.read_intercalate_words ?_, map_token_tokens_escaped texts,
    fun output m => ?_⟩
  · constructor
    · intro h
      exact h.unique (Splits.intercalate texts)
    · rintro rfl
      exact Splits.intercalate texts
  · exact List.forall₂_map_left_iff.mpr (List.forall₂_same.mpr fun text _ => Line.read_escape text)
  · have hliteral : ∀ w ∈ texts.map escapedMarks, w.IsLiteral :=
      List.forall_mem_map.mpr fun text _ => isLiteral_escapedMarks text
    rw [mapM_expandFields_literal hliteral, List.map_map]
    simp [Function.comp_def, text_escapedMarks]

example : " ".intercalate (["it's", "", "a\nb"].map escape) = "it\\'s '' a'\n'b" := by decide

end Runbook.Shell
