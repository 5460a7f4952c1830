import Runbook.Toml.Printer
import Runbook.Toml.Quotes

/-!
# TOML strings written and read again

A string is written in one of four styles, and read back from each of them (`string?_stringText`),
as long as no further quote stands behind it. What is read depends on the quotes in the text: three
quotes end it, and up to two more may belong to it. `Spells` says how the characters of a string
stand in the text between the quotes, with the quotes that stand next to each other counted, of
which there are never more than two.
-/

namespace Runbook.Toml

/-! ### Characters -/

/-- How a character that is no double quote is written in a string with escapes. -/
def charText (lines : Bool) (c : Char) : List Char :=
  match c with
  | '\x08' => ['\\', 'b']
  | '\t' => ['\\', 't']
  | '\n' => if lines then ['\n'] else ['\\', 'n']
  | '\x0c' => ['\\', 'f']
  | '\r' => ['\\', 'r']
  | '\\' => ['\\', '\\']
  | c => if c.toNat < 32 || c.toNat == 127 then '\\' :: 'u' :: hex4 c.toNat else [c]

theorem escaped_cons {lines : Bool} {quotes run : Nat} {c : Char} (h : c ≠ '"') (cs : List Char) :
    escaped lines quotes run (c :: cs) = charText lines c ++ escaped lines quotes 0 cs := by
  rw [escaped.eq_def]
  exact if_neg h

theorem escaped_quote (lines : Bool) (quotes run : Nat) (cs : List Char) :
    escaped lines quotes run ('"' :: cs) =
      if quotes < run + 1 then '\\' :: '"' :: escaped lines quotes 0 cs
      else '"' :: escaped lines quotes (run + 1) cs := by
  rw [escaped.eq_def]
  exact if_pos rfl

/-- A control character is written by four digits, and they stand for it. -/
theorem hexScalar?_hex4 : ∀ n < 128, (hex4 n).length = 4 ∧
    hexScalar? (hex4 n) = some (Char.ofNat n) := by
  decide

/-- A character is written as it is, or by an escape that stands for it. -/
theorem charText_cases (lines : Bool) (c : Char) :
    (charText lines c = [c] ∧ c ≠ '\\' ∧ (isControl c = false ∨ lines = true ∧ c = '\n')) ∨
      ∃ l e, charText lines c = '\\' :: l :: e ∧ l ∉ [' ', '\t', '\n', '\r'] ∧
        ∀ rest, escape? (l :: e ++ rest) = some (c, rest) := by
  unfold charText
  split
  · exact .inr ⟨'b', [], rfl, by decide, fun _ => rfl⟩
  · exact .inr ⟨'t', [], rfl, by decide, fun _ => rfl⟩
  · cases lines with
    | true => exact .inl ⟨rfl, by decide, .inr ⟨rfl, rfl⟩⟩
    | false => exact .inr ⟨'n', [], rfl, by decide, fun _ => rfl⟩
  · exact .inr ⟨'f', [], rfl, by decide, fun _ => rfl⟩
  · exact .inr ⟨'r', [], rfl, by decide, fun _ => rfl⟩
  · exact .inr ⟨'\\', [], rfl, by decide, fun _ => rfl⟩
  · next hbackslash =>
    split
    · next hcontrol =>
      have hlt : c.toNat < 128 := by
        simp only [Bool.or_eq_true, decide_eq_true_eq, beq_iff_eq] at hcontrol
        omega
      obtain ⟨hlength, hhex⟩ := hexScalar?_hex4 c.toNat hlt
      refine .inr ⟨'u', hex4 c.toNat, rfl, by decide, fun rest => ?_⟩
      have htake : (hex4 c.toNat ++ rest).take 4 = hex4 c.toNat := by
        rw [← hlength, List.take_left]
      have hdrop : (hex4 c.toNat ++ rest).drop 4 = rest := by
        rw [← hlength, List.drop_left]
      simp [escape?, namedEscape?, hexLength?, htake, hdrop, hlength, hhex]
    · next hplain =>
      refine .inl ⟨rfl, hbackslash, .inl ?_⟩
      simp only [Bool.or_eq_true, decide_eq_true_eq, beq_iff_eq, not_or, Nat.not_lt] at hplain
      simp [isControl, hplain.2]
      omega

/-! ### Strings on one line -/

theorem basicBody_plain {fuel : Nat} {c : Char} (hquote : c ≠ '"') (hbackslash : c ≠ '\\')
    (hplain : isControl c = false) (rest : List Char) :
    basicBody (fuel + 1) (c :: rest) = prepend c (basicBody fuel rest) := by
  rw [basicBody, if_neg (by simp [hplain])]
  · exact hquote
  · exact hbackslash

theorem basicBody_escape {fuel : Nat} {c : Char} {cs rest : List Char}
    (h : escape? cs = some (c, rest)) :
    basicBody (fuel + 1) ('\\' :: cs) = prepend c (basicBody fuel rest) := by
  rw [basicBody, h]

/-- A string with escapes is read back. -/
theorem basicBody_escaped (run : Nat) (cs rest : List Char) {fuel : Nat}
    (h : (escaped false 0 run cs).length < fuel) :
    basicBody fuel (escaped false 0 run cs ++ '"' :: rest) = some (cs, rest) := by
  obtain ⟨fuel, rfl⟩ : ∃ m, fuel = m + 1 := ⟨fuel - 1, by omega⟩
  induction cs generalizing run fuel with
  | nil => rfl
  | cons c cs ih =>
    have hstep {run : Nat} (hrest : (escaped false 0 run cs).length < fuel) :
        prepend c (basicBody fuel (escaped false 0 run cs ++ '"' :: rest)) =
          some (c :: cs, rest) := by
      obtain ⟨fuel, rfl⟩ : ∃ m, fuel = m + 1 := ⟨fuel - 1, by omega⟩
      rw [ih run fuel hrest]
      rfl
    by_cases hquote : c = '"'
    · subst hquote
      rw [escaped_quote, if_pos (by omega), List.length_cons, List.length_cons] at h
      rw [escaped_quote, if_pos (by omega), List.cons_append, basicBody_escape rfl]
      exact hstep (by omega)
    · rw [escaped_cons hquote, List.length_append] at h
      rw [escaped_cons hquote, List.append_assoc]
      obtain ⟨htext, hbackslash, hplain⟩ | ⟨l, e, htext, -, hescape⟩ := charText_cases false c
      · rw [htext, List.length_singleton] at h
        rw [htext, List.singleton_append, basicBody_plain hquote hbackslash (by simpa using hplain)]
        exact hstep (by omega)
      · rw [htext, List.length_cons, List.length_cons] at h
        rw [htext, List.cons_append, basicBody_escape (hescape _)]
        exact hstep (by omega)

/-- A string without escapes is read back if it has no single quote and no control character. -/
theorem literalBody_append {cs : List Char} (h : ∀ c ∈ cs, c ≠ '\'' ∧ isControl c = false)
    (rest : List Char) : literalBody (cs ++ '\'' :: rest) = some (cs, rest) := by
  induction cs with
  | nil => rfl
  | cons c cs ih =>
    obtain ⟨⟨hquote, hplain⟩, hcs⟩ := List.forall_mem_cons.mp h
    rw [List.cons_append, literalBody, if_neg (by simp [hplain]), ih hcs]
    · rfl
    · exact hquote

/-! ### Strings over several lines -/

/-- The text spells the characters between tripled quotes, of which `run` stand before the text.
Only between double quotes are there escapes. -/
inductive Spells (quote : Char) : (run : Nat) → (text cs : List Char) → Prop where
  | done {run : Nat} : Spells quote run [] []
  | quote {run : Nat} {text cs : List Char} : run < 2 → Spells quote (run + 1) text cs →
      Spells quote run (quote :: text) (quote :: cs)
  | plain {run : Nat} {c : Char} {text cs : List Char} : c ≠ quote → (quote = '"' → c ≠ '\\') →
      (isControl c = false ∨ c = '\n') → Spells quote 0 text cs →
      Spells quote run (c :: text) (c :: cs)
  | escape {run : Nat} {l c : Char} {e text cs : List Char} : quote = '"' →
      l ∉ [' ', '\t', '\n', '\r'] → (∀ rest, escape? (l :: e ++ rest) = some (c, rest)) →
      Spells quote 0 text cs → Spells quote run ('\\' :: l :: (e ++ text)) (c :: cs)

/-- A character that is not the quote, or nothing, comes first. -/
def StartsOther (quote : Char) (cs : List Char) : Prop := ∀ c ∈ cs.head?, c ≠ quote

theorem takeWhile_of_startsOther {quote : Char} {cs : List Char} (h : StartsOther quote cs) :
    cs.takeWhile (· = quote) = [] ∧ cs.dropWhile (· = quote) = cs := by
  cases cs with
  | nil => exact ⟨rfl, rfl⟩
  | cons c cs =>
    have hc : c ≠ quote := h c rfl
    simp [hc]

theorem takeWhile_replicate_append {quote : Char} (k : Nat) {rest : List Char}
    (hrest : StartsOther quote rest) :
    (List.replicate k quote ++ rest).takeWhile (· = quote) = List.replicate k quote ∧
      (List.replicate k quote ++ rest).dropWhile (· = quote) = rest := by
  have hquote : ∀ c ∈ List.replicate k quote, decide (c = quote) = true := fun c hc =>
    decide_eq_true (List.eq_of_mem_replicate hc)
  obtain ⟨htake, hdrop⟩ := takeWhile_of_startsOther hrest
  rw [List.takeWhile_append_of_pos hquote, List.dropWhile_append_of_pos hquote, htake, hdrop,
    List.append_nil]
  exact ⟨rfl, rfl⟩

/-- The quotes at the start of a text are either few and followed by something else, or they are all
there is, and the closing quotes follow. -/
theorem Spells.quotes {quote : Char} {run : Nat} {text cs : List Char}
    (h : Spells quote run text cs) (hrun : run ≤ 2) (rest : List Char) :
    ∃ k, k + run ≤ 2 ∧
      (((text ++ rest).takeWhile (· = quote)).length = k ∨
        text = List.replicate k quote ∧ cs = List.replicate k quote) := by
  induction h with
  | done => exact ⟨0, by omega, .inr ⟨rfl, rfl⟩⟩
  | quote hlt _ ih =>
    obtain ⟨k, hk, hquotes⟩ := ih (by omega)
    refine ⟨k + 1, by omega, hquotes.imp (fun hlength => ?_) fun ⟨htext, hcs⟩ => ?_⟩
    · simp [hlength]
    · rw [htext, hcs]
      exact ⟨rfl, rfl⟩
  | plain hother => exact ⟨0, by omega, .inl (by simp [hother])⟩
  | escape hquote => exact ⟨0, by omega, .inl (by simp [hquote])⟩

theorem newline?_of_ne {c : Char} (hline : c ≠ '\n') (hreturn : c ≠ '\r') (cs : List Char) :
    newline? (c :: cs) = none := by
  rw [newline?]
  · exact fun _ h => hline (List.cons.inj h).1
  · exact fun _ h => hreturn (List.cons.inj h).1

theorem ne_of_isControl {c d : Char} (h : isControl c = false) (hd : isControl d = true) :
    c ≠ d := by
  rintro rfl
  rw [h] at hd
  cases hd

theorem linesBody_other {quote c : Char} {fuel : Nat} {rest : List Char} (hother : c ≠ quote)
    (hescape : ¬(c = '\\' ∧ quote = '"')) (hplain : isControl c = false ∨ c = '\n') :
    linesBody quote (fuel + 1) (c :: rest) = prepend c (linesBody quote fuel rest) := by
  rw [linesBody, if_neg hother, if_neg hescape]
  obtain hplain | rfl := hplain
  · have hnone := newline?_of_ne (ne_of_isControl hplain (d := '\n') (by decide))
      (ne_of_isControl hplain (d := '\r') (by decide)) rest
    simp [hnone, hplain]
  · rfl

theorem linesBody_escape {l c : Char} {fuel : Nat} {cs rest : List Char}
    (hl : l ∉ [' ', '\t', '\n', '\r']) (h : escape? (l :: cs) = some (c, rest)) :
    linesBody '"' (fuel + 1) ('\\' :: l :: cs) = prepend c (linesBody '"' fuel rest) := by
  simp only [List.mem_cons, List.not_mem_nil, or_false, not_or] at hl
  obtain ⟨hblank, htab, hline, hreturn⟩ := hl
  have hskip : skipBlanks (l :: cs) = l :: cs := by simp [skipBlanks, hblank, htab]
  rw [linesBody, if_neg (by decide), if_pos ⟨rfl, rfl⟩, hskip, newline?_of_ne hline hreturn, h]

/-- The last quotes of the string and those that close it. -/
theorem linesBody_close {quote : Char} {rest : List Char} (hrest : StartsOther quote rest)
    (fuel : Nat) {k : Nat} (hk : k ≤ 2) :
    linesBody quote (fuel + 1) (quote :: (List.replicate (k + 2) quote ++ rest)) =
      some (List.replicate k quote, rest) := by
  obtain ⟨htake, hdrop⟩ := takeWhile_replicate_append (k + 2) hrest
  rw [linesBody, if_pos rfl]
  simp only [htake, hdrop, List.length_replicate, List.drop_replicate]
  rw [if_neg (by omega), if_pos (by omega), Nat.add_sub_cancel]

/-- A string over several lines is read back. -/
theorem Spells.linesBody_eq {quote : Char} {run : Nat} {text cs : List Char}
    (h : Spells quote run text cs) (hrun : run ≤ 2) {rest : List Char}
    (hrest : StartsOther quote rest) {fuel : Nat} (hfuel : text.length < fuel) :
    linesBody quote fuel (text ++ quote :: quote :: quote :: rest) = some (cs, rest) := by
  induction h generalizing fuel with
  | done =>
    obtain ⟨fuel, rfl⟩ : ∃ m, fuel = m + 1 := ⟨fuel - 1, by omega⟩
    exact linesBody_close (k := 0) hrest fuel (by omega)
  | @quote run text cs hlt hspells ih =>
    obtain ⟨fuel, rfl⟩ : ∃ m, fuel = m + 1 := ⟨fuel - 1, by omega⟩
    rw [List.length_cons] at hfuel
    obtain ⟨k, hk, hquotes⟩ := hspells.quotes (by omega) (quote :: quote :: quote :: rest)
    obtain hlength | ⟨rfl, rfl⟩ := hquotes
    · rw [List.cons_append, linesBody, if_pos rfl]
      simp only [hlength]
      rw [if_pos (by omega), ih (by omega) (by omega)]
      rfl
    · have htext : List.replicate k quote ++ quote :: quote :: quote :: rest =
          List.replicate (k + 1 + 2) quote ++ rest := by
        simp [List.replicate_succ', List.append_assoc]
      rw [List.cons_append, htext]
      exact linesBody_close hrest fuel (by omega)
  | @plain run c text cs hother hbackslash hplain _ ih =>
    obtain ⟨fuel, rfl⟩ : ∃ m, fuel = m + 1 := ⟨fuel - 1, by omega⟩
    rw [List.length_cons] at hfuel
    rw [List.cons_append, linesBody_other hother (fun h => hbackslash h.2 h.1) hplain,
      ih (by omega) (by omega)]
    rfl
  | @escape run l c e text cs hquote hl hescape _ ih =>
    obtain ⟨fuel, rfl⟩ : ∃ m, fuel = m + 1 := ⟨fuel - 1, by omega⟩
    simp only [List.length_cons, List.length_append] at hfuel
    subst hquote
    have hread : escape? (l :: (e ++ (text ++ '"' :: '"' :: '"' :: rest))) =
        some (c, text ++ '"' :: '"' :: '"' :: rest) := hescape _
    rw [List.cons_append, List.cons_append, List.append_assoc, linesBody_escape hl hread,
      ih (by omega) (by omega)]
    rfl

/-! ### The four styles -/

/-- With at most two quotes next to each other, the rest by escapes, a string is spelled between
double quotes. -/
theorem spells_escaped (run : Nat) (cs : List Char) :
    Spells '"' run (escaped true 2 run cs) cs := by
  induction cs generalizing run with
  | nil => exact .done
  | cons c cs ih =>
    by_cases hquote : c = '"'
    · subst hquote
      by_cases hlt : run < 2
      · rw [escaped_quote, if_neg (by omega)]
        exact .quote hlt (ih (run + 1))
      · rw [escaped_quote, if_pos (by omega)]
        exact .escape (e := []) rfl (by decide) (fun _ => rfl) (ih 0)
    · rw [escaped_cons hquote]
      obtain ⟨htext, hbackslash, hplain⟩ | ⟨l, e, htext, hl, hescape⟩ := charText_cases true c
      · rw [htext]
        exact .plain hquote (fun _ => hbackslash) (hplain.imp id And.right) (ih 0)
      · rw [htext]
        exact .escape rfl hl hescape (ih 0)

theorem le_longestRun (c : Char) (cs : List Char) (longest run : Nat) :
    longest ≤ (cs.foldl (fun (longest, run) d =>
      let run := if d = c then run + 1 else 0
      (max longest run, run)) (longest, run)).1 := by
  induction cs generalizing longest run with
  | nil => exact Nat.le_refl _
  | cons d cs ih => exact Nat.le_trans (Nat.le_max_left _ _) (ih _ _)

/-- A text without escapes spells itself if its quotes are few and it has no control characters but
ends of lines. -/
theorem spells_self {cs : List Char} (hruns : longestRun '\'' cs ≤ 2)
    (hplain : ∀ c ∈ cs, isControl c = false ∨ c = '\n') : Spells '\'' 0 cs cs := by
  have hgo : ∀ (cs : List Char) (longest run : Nat), (∀ c ∈ cs, isControl c = false ∨ c = '\n') →
      (cs.foldl (fun (longest, run) d =>
        let run := if d = '\'' then run + 1 else 0
        (max longest run, run)) (longest, run)).1 ≤ 2 → Spells '\'' run cs cs := by
    intro cs
    induction cs with
    | nil => exact fun _ _ _ _ => .done
    | cons c cs ih =>
      intro longest run hplain hruns
      obtain ⟨hc, hcs⟩ := List.forall_mem_cons.mp hplain
      rw [List.foldl_cons] at hruns
      have hle := Nat.le_trans (le_longestRun _ _ _ _) hruns
      by_cases hquote : c = '\''
      · subst hquote
        simp only [if_pos] at hruns hle
        exact .quote (by omega) (ih _ _ hcs hruns)
      · simp only [if_neg hquote] at hruns
        exact .plain hquote (fun h => absurd h (by decide)) hc (ih _ _ hcs hruns)
  exact hgo cs 0 0 hplain hruns

theorem one_le_longestRun {c : Char} {cs : List Char} (h : c ∈ cs) : 1 ≤ longestRun c cs := by
  have hgo : ∀ (cs : List Char) (longest run : Nat), c ∈ cs →
      1 ≤ (cs.foldl (fun (longest, run) d =>
        let run := if d = c then run + 1 else 0
        (max longest run, run)) (longest, run)).1 := by
    intro cs
    induction cs with
    | nil => exact fun _ _ h => absurd h List.not_mem_nil
    | cons d cs ih =>
      intro longest run h
      rw [List.foldl_cons]
      by_cases hd : d = c
      · refine Nat.le_trans ?_ (le_longestRun _ _ _ _)
        simp only [if_pos hd]
        omega
      · exact ih _ _ ((List.mem_cons.mp h).resolve_left (Ne.symm hd))
  exact hgo cs 0 0 h

theorem isControl_of_all {cs : List Char}
    (h : (!cs.any fun c => c.toNat == 127 || (c.toNat < 32 && c != '\t' && c != '\n')) = true) :
    ∀ c ∈ cs, isControl c = false ∨ c = '\n' := by
  intro c hc
  rw [Bool.not_eq_true', List.any_eq_false] at h
  have hplain := h c hc
  by_cases hline : c = '\n'
  · exact .inr hline
  · simp [hline] at hplain
    exact .inl (by simpa [isControl] using hplain.symm)

/-- What is known of a string that is written on one line without escapes. -/
theorem of_chooseStyle_literal {cs : List Char} (h : chooseStyle cs = .literal) :
    cs ≠ [] ∧ ∀ c ∈ cs, c ≠ '\'' ∧ isControl c = false := by
  simp only [chooseStyle] at h
  split at h
  · cases h
  · next hbasic =>
    split at h
    · next hliteral =>
      simp only [Bool.and_eq_true, beq_iff_eq] at hliteral
      obtain ⟨⟨hcontrols, hsingles⟩, hline⟩ := hliteral
      refine ⟨?_, fun c hc => ⟨?_, ?_⟩⟩
      · rintro rfl
        exact hbasic (by decide)
      · rintro rfl
        have hone := one_le_longestRun hc
        omega
      · refine (isControl_of_all hcontrols c hc).resolve_right ?_
        rintro rfl
        simp [hc] at hline
    · split at h
      · cases h
      · split at h
        · cases h
        · split at h <;> cases h

/-- What is known of a string that is written over several lines without escapes. -/
theorem of_chooseStyle_literalLines {cs : List Char} (h : chooseStyle cs = .literalLines) :
    Spells '\'' 0 cs cs := by
  simp only [chooseStyle] at h
  split at h
  · cases h
  · split at h
    · cases h
    · split at h
      · cases h
      · split at h
        · next hlines =>
          simp only [Bool.and_eq_true, decide_eq_true_eq] at hlines
          exact spells_self hlines.2 (isControl_of_all hlines.1)
        · split at h <;> cases h

/-! ### Reading strings -/

/-- No quote of either kind comes first. -/
def StartsUnquoted (cs : List Char) : Prop := StartsOther '"' cs ∧ StartsOther '\'' cs

theorem string?_basic {cs rest : List Char} (hrest : StartsUnquoted rest) :
    string? ('"' :: (escaped false 0 0 cs ++ '"' :: rest)) = some (cs, rest) := by
  have htriple : ∀ r, escaped false 0 0 cs ++ '"' :: rest ≠ '"' :: '"' :: r := by
    intro r hr
    cases cs with
    | nil =>
      cases rest with
      | nil => cases hr
      | cons d rest =>
        obtain ⟨rfl, -⟩ := List.cons.inj (List.cons.inj hr).2
        exact hrest.1 '"' rfl rfl
    | cons c cs =>
      by_cases hquote : c = '"'
      · subst hquote
        rw [escaped_quote, if_pos (by omega)] at hr
        cases hr
      · rw [escaped_cons hquote] at hr
        obtain ⟨htext, -⟩ | ⟨l, e, htext, -⟩ := charText_cases false c
        · rw [htext] at hr
          exact hquote (List.cons.inj hr).1
        · rw [htext] at hr
          cases hr
  rw [string?]
  · exact basicBody_escaped 0 cs rest (by rw [List.length_append]; omega)
  · exact fun r hr => htriple r hr

theorem string?_literal {cs rest : List Char} (hne : cs ≠ [])
    (h : ∀ c ∈ cs, c ≠ '\'' ∧ isControl c = false) :
    string? ('\'' :: (cs ++ '\'' :: rest)) = some (cs, rest) := by
  obtain ⟨c, cs, rfl⟩ := List.exists_cons_of_ne_nil hne
  rw [string?]
  · exact literalBody_append h rest
  · intro r hr
    exact (h c List.mem_cons_self).1 (List.cons.inj hr).1

/-- A string without ends of lines does not start with one. -/
theorem Spells.newline?_eq_none {quote : Char} {run : Nat} {text cs : List Char}
    (h : Spells quote run text cs) (hquote : isControl quote = false) (hline : '\n' ∉ cs)
    (rest : List Char) : newline? (text ++ quote :: rest) = none := by
  have hplain {c : Char} (hc : isControl c = false) (cs : List Char) : newline? (c :: cs) = none :=
    newline?_of_ne (ne_of_isControl hc (by decide)) (ne_of_isControl hc (by decide)) cs
  cases h with
  | done => exact hplain hquote _
  | quote => exact hplain hquote _
  | plain _ _ hc =>
    refine hplain (hc.resolve_right ?_) _
    rintro rfl
    exact hline List.mem_cons_self
  | escape => exact hplain (by decide) _

/-- A string over several lines is read; an end of line in front of it is left out if it has others,
and there is none if it has none. -/
theorem lines_eq {quote : Char} {text cs rest : List Char} (h : Spells quote 0 text cs)
    (hquote : isControl quote = false) (hrest : StartsOther quote rest) :
    lines quote ((if cs.contains '\n' then ['\n'] else []) ++
      (text ++ quote :: quote :: quote :: rest)) = some (cs, rest) := by
  have hbody {fuel : Nat} (hfuel : text.length < fuel) := h.linesBody_eq (by omega) hrest hfuel
  cases hline : cs.contains '\n' with
  | true => exact hbody (by simp; omega)
  | false =>
    have hnone := h.newline?_eq_none hquote (by simpa using hline) (quote :: quote :: rest)
    rw [if_neg (by simp), List.nil_append, lines, hnone]
    exact hbody (by rw [List.length_append]; omega)

/-- **A string is read back as it was written**, if no quote stands behind it. -/
theorem string?_stringText (s : String) {rest : List Char} (hrest : StartsUnquoted rest) :
    string? ((stringText s).toList ++ rest) = some (s.toList, rest) := by
  have hopening : (if s.toList.contains '\n' then "\n" else "").toList =
      if s.toList.contains '\n' then ['\n'] else [] := by
    cases s.toList.contains '\n' <;> rfl
  rw [stringText]
  cases hstyle : chooseStyle s.toList with
  | basic => simpa using string?_basic hrest
  | literal =>
    obtain ⟨hne, hplain⟩ := of_chooseStyle_literal hstyle
    simpa using string?_literal hne hplain
  | basicLines =>
    have hread := lines_eq (spells_escaped 0 s.toList) (by decide) hrest.1
    simp only [String.toList_append, hopening, String.toList_ofList, List.append_assoc]
    exact hread
  | literalLines =>
    have hread := lines_eq (of_chooseStyle_literalLines hstyle) (by decide) hrest.2
    simp only [String.toList_append, hopening, List.append_assoc]
    exact hread

end Runbook.Toml
