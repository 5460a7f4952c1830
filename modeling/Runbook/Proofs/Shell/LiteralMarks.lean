import Runbook.Proofs.Shell.Line
import Runbook.Shell.Expansion
import Runbook.Shell.Tokens

/-!
# Words that stand for their characters

A mark is literal if nothing special is left in it: quoting has taken its meaning away, or it is a
plain character. Literal marks neither end a word nor start an operator (`splitMarks_literal`), so
words of such marks that are joined by blanks are told apart at the blanks
(`map_token_splitMarks`). And they start no expansion and are no wildcards: a word of them expands
to its characters as the only field, and no script is run for it (`Word.IsLiteral.expandFields_eq`).
-/

namespace Runbook.Shell

namespace Mark

/-- Nothing special is left in a mark. -/
def isLiteral : Mark → Bool
  | .bare c => Scan.isPlain c
  | .soft c => c != '$'
  | .hard _ | .quote => true
  | .opens _ _ | .inner _ | .closes => false

/-- The character that a mark gives to its word itself. -/
def char? : Mark → Option Char
  | .bare c | .soft c | .hard c => some c
  | .quote | .opens _ _ | .inner _ | .closes => none

/-- What a literal mark leaves in an expanded word. -/
def piece : Mark → Piece
  | .bare c => .glyph ⟨c, false⟩
  | .soft c | .hard c => .glyph ⟨c, true⟩
  | .quote | .opens _ _ | .inner _ | .closes => .held

end Mark

/-- A word of literal marks; an empty text needs at least the borders of its quotes. -/
structure Word.IsLiteral (w : Word) : Prop where
  ne_nil : w ≠ []
  literal : ∀ m ∈ w, m.isLiteral = true

/-- The characters of a word. -/
def Word.text (w : Word) : String := String.ofList (w.filterMap Mark.char?)

/-! ### Splitting -/

/-- No operator begins with a plain character. -/
theorem operators_start : ∀ op ∈ operators, ∃ c cs, op.toList = c :: cs ∧
    Scan.isPlain c = false := by
  have hall : operators.all (fun op =>
      (op.toList.head?.map Scan.isPlain) == some false) = true := by decide
  intro op hop
  have hhead := List.all_eq_true.mp hall op hop
  cases hchars : op.toList with
  | nil => simp [hchars] at hhead
  | cons c cs => exact ⟨c, cs, rfl, by simpa [hchars] using hhead⟩

theorem operatorAt?_literal {m : Mark} (h : m.isLiteral = true) (rest : List Mark) :
    operatorAt? (m :: rest) = none := by
  rw [operatorAt?, List.findSome?_eq_none_iff]
  intro op hop
  obtain ⟨c, cs, hchars, hc⟩ := operators_start op hop
  rw [hchars]
  cases m with
  | bare d =>
    have hne : d ≠ c := Scan.ne_of_isPlain h hc
    simp [stripBare?, hne.symm]
  | _ => simp [stripBare?]

/-- Literal marks stay within the word that is being read; it may be another line that they end
on. -/
theorem splitMarks_literal {w : List Mark} (h : ∀ m ∈ w, m.isLiteral = true) (fuel line : Nat)
    (word rest : List Mark) :
    ∃ last, splitMarks (fuel + w.length) line word (w ++ rest) =
      splitMarks fuel last (w.reverse ++ word) rest := by
  induction w generalizing line word with
  | nil => exact ⟨line, rfl⟩
  | cons m w ih =>
    obtain ⟨hm, hw⟩ := List.forall_mem_cons.mp h
    have hblank : ¬(m = .bare ' ' ∨ m = .bare '\t') := by
      rintro (rfl | rfl) <;> exact absurd hm (by decide)
    rw [List.cons_append, List.length_cons, ← Nat.add_assoc, splitMarks, if_neg hblank,
      operatorAt?_literal hm]
    obtain ⟨last, hlast⟩ := ih hw
      (if m = .hard '\n' ∨ m = .soft '\n' ∨ m = .inner '\n' then line + 1 else line) (m :: word)
    refine ⟨last, ?_⟩
    rw [hlast, List.reverse_cons, List.append_assoc, List.singleton_append]

/-- Words behind another one, each with a blank before it. -/
def blankBefore (ws : List Word) : List Mark := ws.flatMap (.bare ' ' :: ·)

/-- A literal word that is read to its end is a token. -/
theorem ended_literal {w : Word} (h : w.IsLiteral) (line : Nat) :
    splitMarks.ended line w.reverse = [⟨line, .word w⟩] := by
  simp [splitMarks.ended, h.ne_nil]

/-- **Literal words are told apart at the blanks between them.** -/
theorem map_token_splitMarks {w : Word} {ws : List Word} (h : ∀ v ∈ w :: ws, v.IsLiteral)
    (fuel line : Nat) :
    (splitMarks (fuel + (w ++ blankBefore ws).length + 1) line [] (w ++ blankBefore ws)).map
      Lexeme.token = (w :: ws).map Token.word := by
  induction ws generalizing w line with
  | nil =>
    have hw := h w List.mem_cons_self
    obtain ⟨last, hlast⟩ := splitMarks_literal hw.literal (fuel + 1) line [] []
    have hfuel : fuel + (w ++ blankBefore []).length + 1 = fuel + 1 + w.length := by
      simp [blankBefore]
      omega
    rw [hfuel, blankBefore, List.flatMap_nil, hlast, splitMarks, List.append_nil,
      ended_literal hw]
    rfl
  | cons v ws ih =>
    have hw := h w List.mem_cons_self
    have hfuel : fuel + (w ++ blankBefore (v :: ws)).length + 1 =
        fuel + (v ++ blankBefore ws).length + 1 + 1 + w.length := by
      simp [blankBefore]
      omega
    obtain ⟨last, hlast⟩ := splitMarks_literal hw.literal
      (fuel + (v ++ blankBefore ws).length + 1 + 1) line [] (blankBefore (v :: ws))
    have hbehind : blankBefore (v :: ws) = .bare ' ' :: (v ++ blankBefore ws) := rfl
    rw [hfuel, hlast, hbehind, splitMarks, if_pos (.inl rfl), List.append_nil, ended_literal hw,
      List.map_append, ih fun u hu => h u (List.mem_cons_of_mem w hu)]
    rfl

/-- The tokens of a script that ends outside of quotes, and not behind a backslash. -/
theorem tokens_of_read {script : String} {r : Reader} {marks : List Mark}
    (hread : Reader.start.read script.toList = (r, marks)) (hescaped : r.escaped = false)
    (hinside : r.inside = []) : tokens script = splitMarks (marks.length + 1) 1 [] marks := by
  simp [tokens, hread, hescaped, Reader.fault?, hinside]

/-! ### Expanding -/

/-- A literal mark starts no expansion. -/
theorem expandMarks_literal_cons (output : String → Action String) (split : Bool) (fuel : Nat)
    {m : Mark} (h : m.isLiteral = true) (rest : List Mark) :
    expandMarks output split (fuel + 1) (m :: rest) =
      (m.piece :: ·) <$> expandMarks output split fuel rest := by
  cases m with
  | bare c =>
    have hdollar : c ≠ '$' := Scan.ne_of_isPlain h (by decide)
    rw [expandMarks]
    · rfl
    all_goals simp [hdollar]
  | soft c =>
    have hdollar : c ≠ '$' := bne_iff_ne.mp h
    rw [expandMarks]
    · rfl
    all_goals simp [hdollar]
  | hard c => rw [expandMarks]; rfl
  | quote => rw [expandMarks]; rfl
  | opens | inner | closes => cases h

theorem expandMarks_literal (output : String → Action String) (split : Bool) (fuel : Nat)
    {w : Word} (h : ∀ m ∈ w, m.isLiteral = true) :
    expandMarks output split (fuel + w.length + 1) w = pure (w.map Mark.piece) := by
  induction w with
  | nil => rfl
  | cons m w ih =>
    obtain ⟨hm, hw⟩ := List.forall_mem_cons.mp h
    rw [List.length_cons, ← Nat.add_assoc, expandMarks_literal_cons _ _ _ hm, ih hw, map_pure]
    rfl

@[simp] theorem glyphsOf_glyph (g : Glyph) (ps : List Piece) :
    glyphsOf (.glyph g :: ps) = g :: glyphsOf ps := rfl

@[simp] theorem glyphsOf_held (ps : List Piece) : glyphsOf (.held :: ps) = glyphsOf ps := rfl

/-- Without a border a field goes on to the end. -/
theorem fieldsOf_some {ps : List Piece} (h : .border ∉ ps) (field : List Glyph) :
    fieldsOf (some field) ps = [field.reverse ++ glyphsOf ps] := by
  induction ps generalizing field with
  | nil => simp [fieldsOf, glyphsOf]
  | cons p ps ih =>
    rw [List.mem_cons, not_or] at h
    obtain ⟨hp, hps⟩ := h
    cases p with
    | glyph g => simp [fieldsOf, ih hps]
    | held => simp [fieldsOf, ih hps]
    | border => exact absurd rfl hp

/-- Pieces without a border are one field, if there are any. -/
theorem fieldsOf_none {ps : List Piece} (h : .border ∉ ps) (hne : ps ≠ []) :
    fieldsOf none ps = [glyphsOf ps] := by
  cases ps with
  | nil => exact absurd rfl hne
  | cons p ps =>
    rw [List.mem_cons, not_or] at h
    obtain ⟨hp, hps⟩ := h
    cases p with
    | glyph g => simp [fieldsOf, fieldsOf_some hps]
    | held => simp [fieldsOf, fieldsOf_some hps]
    | border => exact absurd rfl hp

/-- A field without wildcards is no pattern. -/
theorem pathsOf_literal (files : FileTree) {field : List Glyph}
    (h : ∀ g ∈ field, g.isWildcard = false) : pathsOf files field = [glyphText field] := by
  have hany : field.any Glyph.isWildcard = false := by simpa using h
  rw [pathsOf, hany, if_neg (by decide)]

namespace Word

theorem map_char_glyphsOf_pieces (w : Word) :
    (glyphsOf (w.map Mark.piece)).map Glyph.char = w.filterMap Mark.char? := by
  induction w with
  | nil => rfl
  | cons m w ih =>
    cases m <;> simp [Mark.piece, Mark.char?, List.filterMap_cons, ih]

theorem border_not_mem_pieces (w : Word) : .border ∉ w.map Mark.piece := by
  rw [List.mem_map]
  rintro ⟨_ | _ | _ | _ | _ | _ | _, -, hm⟩ <;> cases hm

/-- No character of a literal word is a wildcard. -/
theorem IsLiteral.isWildcard_eq {w : Word} (h : w.IsLiteral) :
    ∀ g ∈ glyphsOf (w.map Mark.piece), g.isWildcard = false := by
  intro g hg
  rw [glyphsOf, List.mem_filterMap] at hg
  obtain ⟨p, hp, hpg⟩ := hg
  obtain ⟨m, hm, rfl⟩ := List.mem_map.mp hp
  cases m with
  | bare c =>
    have hc : Scan.isPlain c = true := h.literal _ hm
    obtain rfl := Option.some.inj hpg
    have hstar : c ≠ '*' := Scan.ne_of_isPlain hc (by decide)
    have hquestion : c ≠ '?' := Scan.ne_of_isPlain hc (by decide)
    have hbracket : c ≠ '[' := Scan.ne_of_isPlain hc (by decide)
    simp [Glyph.isWildcard, hstar, hquestion, hbracket]
  | soft | hard =>
    obtain rfl := Option.some.inj hpg
    rfl
  | quote | opens | inner | closes => cases hpg

/-- A literal word begins with no tilde. -/
theorem IsLiteral.withHome_eq {w : Word} (h : w.IsLiteral) (m : Machine) : withHome m w = w := by
  cases w with
  | nil => rfl
  | cons first rest =>
    have htilde : first ≠ .bare '~' := by
      rintro rfl
      exact absurd (h.literal _ List.mem_cons_self) (by decide)
    simp [withHome, htilde]

/-- **A literal word expands to its characters as the only field.** No script is run for it, and the
shell is as it was. -/
theorem IsLiteral.expandFields_eq {w : Word} (h : w.IsLiteral) (output : String → Action String)
    (m : Machine) : expandFields output w m = (.ok [w.text], m) := by
  have hparameters : w ≠ [.quote, .soft '$', .soft '@'] := by
    rintro rfl
    exact absurd (h.literal (.soft '$') (by simp)) (by decide)
  have hsome : ¬(w = [.quote, .soft '$', .soft '@'] ∧ m.parameters.isEmpty) :=
    fun hw => hparameters hw.1
  have hpieces : expandMarks output true (wordFuel w) (withHome m w) =
      pure (w.map Mark.piece) := by
    have hfuel : wordFuel w = 9 * w.length + 9 + w.length + 1 := by
      simp only [wordFuel]
      omega
    rw [h.withHome_eq, hfuel, expandMarks_literal output true _ h.literal]
  have hfields : (fieldsOf none (w.map Mark.piece)).flatMap (pathsOf m.files) = [w.text] := by
    rw [fieldsOf_none w.border_not_mem_pieces (by simpa using h.ne_nil), List.flatMap_singleton,
      pathsOf_literal m.files h.isWildcard_eq, glyphText, map_char_glyphsOf_pieces, Word.text]
  -- the shell is looked at before and behind the expansion, which leaves it as it was
  change (if w = _ ∧ m.parameters.isEmpty then _ else _ : Action (List String)) m = _
  rw [if_neg hsome, hpieces, ← hfields]
  rfl

end Word

/-- Behind a computation that succeeds the rest goes on. -/
theorem Action.bind_of_ok {α β : Type} {x : Action α} {m m' : Machine} {a : α}
    (h : x m = (.ok a, m')) (f : α → Action β) : (x >>= f) m = f a m' := by
  change (match x m with
    | (r, m') => (ExceptT.bindCont f r : StateM Machine (Except Stop β)) m') = f a m'
  rw [h]
  rfl

/-- Literal words expand one after another, each to its characters. -/
theorem mapM_expandFields_literal {ws : List Word} (h : ∀ w ∈ ws, w.IsLiteral)
    (output : String → Action String) (m : Machine) :
    ws.mapM (expandFields output) m = (.ok (ws.map fun w => [w.text]), m) := by
  induction ws with
  | nil => rfl
  | cons w ws ih =>
    obtain ⟨hw, hws⟩ := List.forall_mem_cons.mp h
    rw [List.mapM_cons, Action.bind_of_ok (hw.expandFields_eq output m),
      Action.bind_of_ok (ih hws)]
    rfl

end Runbook.Shell
