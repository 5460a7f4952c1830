import Runbook.Proofs.Shell.Line

/-!
# Words that stand in a line as they are

A text that nobody quotes is one word of a command line if it is not empty and all of its
characters are plain (`IsWord`). That this is necessary as well takes a count. Every character of a
line gives at most one place to the words that are read, a character of a word or the blank behind
it (`Scan.weight_read_le`); quotes and backslashes give none. A line that is as long as its words
joined by blanks has no character to spare, so nothing in it is quoted (`Scan.literal_of_weight`).

Behind such a line other arguments may follow that are quoted. Quotes that are open when they begin
are never closed by them (`Scan.Trails`), so they cannot make up for what is wrong before them, and
the count is that of what stands before them (`Line.read_literal_iff`).
-/

namespace Runbook.Shell

/-- What a reader is in behind one more character. -/
def Place.next : Place → Char → Place
  | .bare, c =>
    if c = '\\' then .escaped else if c = '\'' then .single else if c = '"' then .double else .bare
  | .escaped, _ => .bare
  | .single, c => if c = '\'' then .bare else .single
  | .double, c => if c = '"' then .bare else if c = '\\' then .doubleEscaped else .double
  | .doubleEscaped, _ => .double

/-- Quotes are open. -/
def Place.isQuoted : Place → Bool
  | .bare | .escaped => false
  | .single | .double | .doubleEscaped => true

/-- A backslash between double quotes may yet turn out to belong to the word. -/
def Place.pending : Place → Nat
  | .doubleEscaped => 1
  | .bare | .escaped | .single | .double => 0

/-- The room that words take in a line, each with a blank behind it. -/
def room (words : List (List Char)) : Nat := (words.flatMap (· ++ [' '])).length

@[simp] theorem room_append (ws vs : List (List Char)) : room (ws ++ vs) = room ws + room vs := by
  simp [room]

@[simp] theorem room_singleton (w : List Char) : room [w] = w.length + 1 := by
  simp [room]

theorem room_cons (w : List Char) (ws : List (List Char)) :
    room (w :: ws) = w.length + 1 + room ws := by
  simp [room]
  omega

theorem room_le_of_sublist {ws vs : List (List Char)} (h : ws.Sublist vs) : room ws ≤ room vs := by
  induction h with
  | slnil => exact Nat.le_refl _
  | cons v _ ih =>
    rw [room_cons]
    omega
  | cons_cons v _ ih =>
    rw [room_cons, room_cons]
    omega

namespace Scan

variable {r : Scan}

/-! ### Where a reader is -/

theorem place_step (r : Scan) (c : Char) : (r.step c).place = r.place.next c := by
  obtain ⟨place, word, words, active⟩ := r
  cases place <;> simp only [step, Place.next, extend, close, note] <;> split_ifs <;> simp_all

theorem place_read (r : Scan) (cs : List Char) :
    (r.read cs).place = cs.foldl Place.next r.place := by
  induction cs generalizing r with
  | nil => rfl
  | cons c cs ih => rw [read_cons, ih, place_step, List.foldl_cons]

/-! ### What is active stays active -/

theorem active_step (r : Scan) (c : Char) : ∃ more, (r.step c).active = r.active ++ more := by
  obtain ⟨place, word, words, active⟩ := r
  cases place <;> simp only [step, extend, close, note] <;> split_ifs <;> simp

theorem active_read (r : Scan) (cs : List Char) :
    ∃ more, (r.read cs).active = r.active ++ more := by
  induction cs generalizing r with
  | nil => exact ⟨[], (List.append_nil _).symm⟩
  | cons c cs ih =>
    obtain ⟨first, hfirst⟩ := active_step r c
    obtain ⟨more, hmore⟩ := ih (r.step c)
    exact ⟨first ++ more, by rw [read_cons, hmore, hfirst, List.append_assoc]⟩

theorem active_eq_nil_of_read {cs : List Char} (h : (r.read cs).active = []) : r.active = [] := by
  obtain ⟨more, hmore⟩ := active_read r cs
  rw [hmore, List.append_eq_nil_iff] at h
  exact h.1

/-! ### How much room words can take -/

/-- The room that the words have taken. -/
def taken (r : Scan) : Nat := room r.words + (r.word.getD []).length

@[simp] theorem taken_place (r : Scan) (p : Place) : taken { r with place := p } = r.taken := rfl

@[simp] theorem taken_note (r : Scan) (c : Char) : (r.note c).taken = r.taken := rfl

@[simp] theorem taken_extend (r : Scan) (cs : List Char) :
    (r.extend cs).taken = r.taken + cs.length := by
  simp [taken, extend, Nat.add_assoc]

theorem taken_close_le (r : Scan) : r.close.taken ≤ r.taken + 1 := by
  obtain ⟨place, _ | word, words, active⟩ := r <;> simp [taken, close]
  omega

/-- The room that is taken, with that of a backslash whose part is open. -/
def weight (r : Scan) : Nat := r.taken + r.place.pending

/-- Every character takes one place at most. -/
theorem weight_step_le (r : Scan) (c : Char) : (r.step c).weight ≤ r.weight + 1 := by
  have hclose := r.taken_close_le
  rw [weight, place_step, weight]
  cases hplace : r.place with
  | bare =>
    simp only [step, hplace, Place.next]
    split_ifs <;> simp [Place.pending] <;> omega
  | escaped =>
    simp only [step, hplace, Place.next]
    split_ifs <;> simp [Place.pending]
  | single =>
    simp only [step, hplace, Place.next]
    split_ifs <;> simp [Place.pending]
  | double =>
    simp only [step, hplace, Place.next]
    split_ifs <;> simp [Place.pending]
  | doubleEscaped =>
    simp only [step, hplace, Place.next]
    split_ifs <;> simp [Place.pending]
    omega

theorem weight_read_le (r : Scan) (cs : List Char) :
    (r.read cs).weight ≤ r.weight + cs.length := by
  induction cs generalizing r with
  | nil => exact Nat.le_refl _
  | cons c cs ih =>
    have hstep := weight_step_le r c
    have hrest := ih (r.step c)
    rw [read_cons, List.length_cons]
    omega

/-- Outside of quotes only a plain character or a blank takes a place and is not active. -/
theorem plain_or_blank_of_step (hplace : r.place = .bare) {c : Char}
    (hactive : (r.step c).active = []) (hweight : r.weight + 1 ≤ (r.step c).weight) :
    (isPlain c = true ∨ isBlank c = true) ∧ (r.step c).place = .bare := by
  rw [weight, weight, place_step, hplace] at hweight
  rw [place_step, hplace]
  by_cases hblank : c = ' ' ∨ c = '\t'
  · refine ⟨.inr (by simpa [isBlank] using hblank), ?_⟩
    rcases hblank with rfl | rfl <;> rfl
  by_cases hquote : c = '\\' ∨ c = '\'' ∨ c = '"'
  · exfalso
    -- a backslash or a quote takes no room
    have htaken : (r.step c).taken = r.taken := by
      rcases hquote with rfl | rfl | rfl <;> simp [step, hplace]
    have hpending : (Place.next .bare c).pending = 0 := by
      rcases hquote with rfl | rfl | rfl <;> rfl
    have hbare : Place.bare.pending = 0 := rfl
    omega
  simp only [not_or] at hblank hquote
  obtain ⟨hspace, htab⟩ := hblank
  obtain ⟨hbackslash, hsingle, hdouble⟩ := hquote
  by_cases hoperator : isOperator c = true
  · simp [step, hplace, hspace, htab, hbackslash, hsingle, hdouble, hoperator, note] at hactive
  by_cases hexpanding : isExpanding c = true
  · simp [step, hplace, hspace, htab, hbackslash, hsingle, hdouble, hoperator, hexpanding,
      note] at hactive
  refine ⟨.inl ?_, by simp [Place.next, hbackslash, hsingle, hdouble]⟩
  simp [isPlain, hspace, htab, hbackslash, hsingle, hdouble, hoperator, hexpanding]

/-- A text that takes as much room as it has characters has only plain characters and blanks. -/
theorem literal_of_weight (hplace : r.place = .bare) {cs : List Char}
    (hactive : (r.read cs).active = []) (hweight : r.weight + cs.length ≤ (r.read cs).weight) :
    ∀ c ∈ cs, isPlain c = true ∨ isBlank c = true := by
  induction cs generalizing r with
  | nil => simp
  | cons c cs ih =>
    rw [read_cons] at hactive hweight
    rw [List.length_cons] at hweight
    have hstep := weight_step_le r c
    have hrest := weight_read_le (r.step c) cs
    obtain ⟨hc, hbare⟩ := plain_or_blank_of_step hplace (active_eq_nil_of_read hactive) (by omega)
    rw [List.forall_mem_cons]
    exact ⟨hc, ih hbare hactive (by omega)⟩

/-! ### Texts that leave open quotes open -/

/-- A plain character or a blank neither opens quotes nor closes them. -/
theorem isQuoted_next {c : Char} (hc : isPlain c = true ∨ isBlank c = true) (p : Place) :
    (p.next c).isQuoted = p.isQuoted := by
  have hsingle : c ≠ '\'' := by rintro rfl; exact absurd hc (by decide)
  have hdouble : c ≠ '"' := by rintro rfl; exact absurd hc (by decide)
  by_cases hbackslash : c = '\\' <;> cases p <;>
    simp [Place.next, hsingle, hdouble, hbackslash, Place.isQuoted]

theorem isQuoted_foldl {cs : List Char} (hcs : ∀ c ∈ cs, isPlain c = true ∨ isBlank c = true)
    (p : Place) : (cs.foldl Place.next p).isQuoted = p.isQuoted := by
  induction cs generalizing p with
  | nil => rfl
  | cons c cs ih =>
    rw [List.foldl_cons, ih fun d hd => hcs d (List.mem_cons_of_mem c hd),
      isQuoted_next (hcs c List.mem_cons_self)]

/-- Outside of double quotes the body of a quoted text opens none: each of its own is behind a
backslash. -/
theorem foldl_quotedBody {p : Place} (hp : p = .bare ∨ p = .single) (cs : List Char) :
    (quotedBody cs).foldl Place.next p = .bare ∨ (quotedBody cs).foldl Place.next p = .single := by
  induction cs generalizing p with
  | nil => exact hp
  | cons c cs ih =>
    rw [quotedBody]
    split
    · next hspecial =>
      have hsingle : c ≠ '\'' := by rintro rfl; exact absurd hspecial (by decide)
      refine ih (p := (p.next '\\').next c) ?_
      rcases hp with rfl | rfl
      · exact .inl rfl
      · exact .inr (by simp [Place.next, hsingle])
    · next hspecial =>
      have hdouble : c ≠ '"' := by rintro rfl; exact absurd rfl hspecial
      have hbackslash : c ≠ '\\' := by rintro rfl; exact absurd rfl hspecial
      refine ih (p := p.next c) ?_
      rcases hp with rfl | rfl <;> by_cases hsingle : c = '\'' <;>
        simp [Place.next, hdouble, hbackslash, hsingle]

/-- A quoted text that is met between quotes ends between quotes. -/
theorem isQuoted_foldl_quote {p : Place} (hp : p.isQuoted = true) (hp' : p ≠ .doubleEscaped)
    (text : String) : ((quote text).toList.foldl Place.next p).isQuoted = true := by
  have hopening : p.next '"' = .bare ∨ p.next '"' = .single := by
    cases p with
    | bare | escaped => cases hp
    | single => exact .inr rfl
    | double => exact .inl rfl
    | doubleEscaped => exact absurd rfl hp'
  rw [quote, String.toList_ofList, List.foldl_cons, List.foldl_append]
  rcases foldl_quotedBody hopening text.toList with hbody | hbody <;> rw [hbody] <;> rfl

/-- A text behind another one: quotes that are open stay open, and outside of quotes it takes no
more room than its words do. -/
structure Trails (tail : List Char) (words : List (List Char)) : Prop where
  quoted : ∀ p : Place, p.isQuoted = true → (tail.foldl Place.next p).isQuoted = true
  bare : ∀ r : Scan, r.place.isQuoted = false →
    (r.read tail).place.isQuoted = false ∧ (r.read tail).weight ≤ r.weight + room words

theorem Trails.nil : Trails [] [] := ⟨fun _ h => h, fun _ h => ⟨h, Nat.le_refl _⟩⟩

theorem Trails.append {tail more : List Char} {words others : List (List Char)}
    (h : Trails tail words) (h' : Trails more others) :
    Trails (tail ++ more) (words ++ others) := by
  refine ⟨fun p hp => ?_, fun r hr => ?_⟩
  · rw [List.foldl_append]
    exact h'.quoted _ (h.quoted p hp)
  · obtain ⟨hplace, hweight⟩ := h.bare r hr
    obtain ⟨hplace', hweight'⟩ := h'.bare _ hplace
    rw [read_append, room_append]
    exact ⟨hplace', by omega⟩

/-- Plain characters behind a blank are one word. -/
theorem trails_plain {cs : List Char} (hcs : ∀ c ∈ cs, isPlain c = true) :
    Trails (' ' :: cs) [cs] := by
  have hall : ∀ c ∈ ' ' :: cs, isPlain c = true ∨ isBlank c = true :=
    List.forall_mem_cons.mpr ⟨.inr rfl, fun c hc => .inl (hcs c hc)⟩
  refine ⟨fun p hp => ?_, fun r hr => ⟨?_, ?_⟩⟩
  · rwa [isQuoted_foldl hall]
  · rwa [place_read, isQuoted_foldl hall]
  · have hweight := weight_read_le r (' ' :: cs)
    rwa [List.length_cons, ← room_singleton] at hweight

/-- A quoted text behind a blank is one word. -/
theorem trails_quote (text : String) : Trails (' ' :: (quote text).toList) [text.toList] := by
  refine ⟨fun p hp => ?_, fun r hr => ?_⟩
  · have hblank : (p.next ' ').isQuoted = true := by
      rwa [isQuoted_next (.inr rfl)]
    refine isQuoted_foldl_quote hblank ?_ text
    cases p <;> simp [Place.next]
  · have hbare : (r.step ' ').place = .bare := by
      rw [place_step]
      cases hplace : r.place <;> simp_all [Place.next, Place.isQuoted]
    have hblank := weight_step_le r ' '
    rw [read_cons, read_quote hbare]
    refine ⟨by rw [show ((r.step ' ').extend text.toList).place = .bare from hbare]; rfl, ?_⟩
    have hextend : ((r.step ' ').extend text.toList).weight =
        (r.step ' ').weight + text.toList.length := by
      rw [weight, taken_extend, weight, Nat.add_right_comm]
      rfl
    rw [hextend, room_singleton]
    omega

/-- What stands before such a text is plain apart from blanks if it is as long as its words. -/
theorem literal_of_trails {cs tail : List Char} {words others : List (List Char)}
    (htail : Trails tail others) (hplace : (start.read (cs ++ tail)).place = .bare)
    (hactive : (start.read (cs ++ tail)).active = [])
    (hwords : (start.read (cs ++ tail)).close.words = words ++ others)
    (hlength : cs.length + 1 ≤ room words) :
    ∀ c ∈ cs, isPlain c = true ∨ isBlank c = true := by
  rw [read_append] at hplace hactive hwords
  -- the quotes of the tail close none that are open before it
  have hbare : (start.read cs).place.isQuoted = false := by
    by_contra hquoted
    have hopen := htail.quoted (start.read cs).place (by simpa using hquoted)
    rw [← place_read, hplace] at hopen
    cases hopen
  -- so the words before it have their room before it
  have hroom : room words + room others ≤ (start.read cs).weight + room others + 1 := calc
    room words + room others = ((start.read cs).read tail).close.taken := by
      rw [← room_append, ← hwords]
      rfl
    _ ≤ ((start.read cs).read tail).taken + 1 := taken_close_le _
    _ = ((start.read cs).read tail).weight + 1 := by
      rw [weight, hplace]
      rfl
    _ ≤ (start.read cs).weight + room others + 1 :=
      Nat.add_le_add_right (htail.bare (start.read cs) hbare).2 1
  have hstart : start.weight = 0 := rfl
  exact literal_of_weight rfl (active_eq_nil_of_read hactive) (by omega)

end Scan

/-! ### Words of a line -/

/-- The text is a word as it is. -/
def IsWord (text : String) : Prop := text ≠ "" ∧ ∀ c ∈ text.toList, Scan.isPlain c = true

instance : DecidablePred IsWord := fun text =>
  decidable_of_iff (text ≠ "" ∧ text.toList.all Scan.isPlain = true)
    (and_congr_right fun _ => List.all_eq_true)

/-- A text that is written for a word. -/
inductive Spells : String → String → Prop where
  /-- The word itself. -/
  | plain {w : String} : IsWord w → Spells w w
  /-- The word between double quotes. -/
  | quoted (w : String) : Spells (quote w) w

namespace Line

theorem read_spelled {text w : String} (h : Spells text w) : read text = some ⟨[w], []⟩ := by
  cases h with
  | plain hw => exact read_plain hw.1 hw.2
  | quoted => exact read_quote w

theorem trails_spelled {text w : String} (h : Spells text w) :
    Scan.Trails (' ' :: text.toList) [w.toList] := by
  cases h with
  | plain hw => exact Scan.trails_plain hw.2
  | quoted => exact Scan.trails_quote w

/-- Texts behind another one, each with a blank before it. -/
def trail (texts : List String) : List Char := texts.flatMap fun text => ' ' :: text.toList

theorem trail_append (texts more : List String) :
    trail (texts ++ more) = trail texts ++ trail more := List.flatMap_append

theorem trails_trail {texts words : List String} (h : List.Forall₂ Spells texts words) :
    Scan.Trails (trail texts) (words.map String.toList) := by
  induction h with
  | nil => exact .nil
  | cons hfirst _ ih => exact (trails_spelled hfirst).append ih

theorem toList_intercalate_cons (text : String) (texts : List String) :
    (" ".intercalate (text :: texts)).toList = text.toList ++ trail texts := by
  induction texts generalizing text with
  | nil => simp [trail]
  | cons next texts ih =>
    rw [String.intercalate_cons_cons, String.toList_append, String.toList_append, ih next]
    simp [trail]

theorem toList_intercalate_append {front : List String} (hne : front ≠ []) (texts : List String) :
    (" ".intercalate (front ++ texts)).toList = (" ".intercalate front).toList ++ trail texts := by
  obtain ⟨text, front, rfl⟩ := List.exists_cons_of_ne_nil hne
  rw [List.cons_append, toList_intercalate_cons, toList_intercalate_cons, List.append_assoc,
    trail_append]

theorem room_map_toList {texts : List String} (hne : texts ≠ []) :
    room (texts.map String.toList) = (" ".intercalate texts).toList.length + 1 := by
  obtain ⟨text, texts, rfl⟩ := List.exists_cons_of_ne_nil hne
  rw [toList_intercalate_cons]
  simp [room, trail, List.flatMap_map, List.length_flatMap]
  omega

/-- Texts for words behind a front that reads by itself. -/
theorem read_intercalate_front {front texts words others : List String} (hne : front ≠ [])
    (hfront : read (" ".intercalate front) = some ⟨words, []⟩)
    (htexts : List.Forall₂ Spells texts others) :
    read (" ".intercalate (front ++ texts)) = some ⟨words ++ others, []⟩ := by
  have hjoined : " ".intercalate (front ++ texts) =
      " ".intercalate (" ".intercalate front :: texts) := by
    rw [← String.toList_inj, toList_intercalate_append hne, toList_intercalate_cons]
  have hlines : List.Forall₂ (fun text l => read text = some l) texts
      (others.map fun w => ⟨[w], []⟩) :=
    List.forall₂_map_right_iff.mpr (htexts.imp fun _ _ => read_spelled)
  rw [hjoined, read_intercalate (.cons hfront hlines)]
  simp [List.flatMap_map]

/-- A piece between blanks has no blank in it. -/
theorem mem_of_mem_splitOnP {cs : List Char} {piece : List Char}
    (hpiece : piece ∈ cs.splitOnP Scan.isBlank) :
    ∀ c ∈ piece, c ∈ cs ∧ Scan.isBlank c = false := by
  induction cs generalizing piece with
  | nil => simp_all
  | cons d cs ih =>
    rw [List.splitOnP_cons_eq_if_modifyHead] at hpiece
    split_ifs at hpiece with hd
    · rcases List.mem_cons.mp hpiece with rfl | hrest
      · simp
      · intro c hc
        exact ⟨List.mem_cons_of_mem d (ih hrest c hc).1, (ih hrest c hc).2⟩
    · obtain ⟨first, rest, hsplit⟩ :=
        List.exists_cons_of_ne_nil (List.splitOnP_ne_nil Scan.isBlank cs)
      rw [hsplit, List.modifyHead_cons, List.mem_cons] at hpiece
      rw [hsplit] at ih
      rcases hpiece with rfl | hrest
      · rw [List.forall_mem_cons]
        refine ⟨⟨List.mem_cons_self, by simpa using hd⟩, fun c hc => ?_⟩
        have hc' := ih List.mem_cons_self c hc
        exact ⟨List.mem_cons_of_mem d hc'.1, hc'.2⟩
      · intro c hc
        have hc' := ih (List.mem_cons_of_mem first hrest) c hc
        exact ⟨List.mem_cons_of_mem d hc'.1, hc'.2⟩

/-- What stands between the blanks of a text that is plain apart from them is a word. -/
theorem isWord_of_mem_split {text : String}
    (h : ∀ c ∈ text.toList, Scan.isPlain c = true ∨ Scan.isBlank c = true) {w : String}
    (hw : w ∈ split text) : IsWord w := by
  obtain ⟨piece, hpiece, rfl⟩ := List.mem_map.mp hw
  obtain ⟨hmem, hne⟩ := List.mem_filter.mp hpiece
  refine ⟨by simpa using hne, fun c hc => ?_⟩
  rw [String.toList_ofList] at hc
  obtain ⟨hc, hblank⟩ := mem_of_mem_splitOnP hmem c hc
  exact (h c hc).resolve_right (by simp [hblank])

/-- **A front of texts that nobody quotes reads as words exactly if each is a word as it is.** An
empty word may be missing in the front. -/
theorem read_literal_iff {front words texts others : List String} (hne : front ≠ [])
    (hsub : front.Sublist words) (hsame : "" ∉ words → front = words)
    (htexts : List.Forall₂ Spells texts others) :
    read (" ".intercalate (front ++ texts)) = some ⟨words ++ others, []⟩ ↔
      ∀ w ∈ words, IsWord w := by
  constructor
  · intro h
    have hliteral : ∀ c ∈ (" ".intercalate front).toList,
        Scan.isPlain c = true ∨ Scan.isBlank c = true := by
      obtain ⟨hplace, hscan⟩ := read_eq_some_iff.mp h
      obtain ⟨hwords, hactive⟩ := Line.mk.inj hscan
      rw [toList_intercalate_append hne] at hplace hwords hactive
      have hchars : (Scan.start.read ((" ".intercalate front).toList ++ trail texts)).close.words =
          words.map String.toList ++ others.map String.toList := by
        rw [← List.map_append, ← hwords, List.map_map]
        simp [Function.comp_def]
      refine Scan.literal_of_trails (trails_trail htexts) hplace hactive hchars ?_
      rw [← room_map_toList hne]
      exact room_le_of_sublist (hsub.map String.toList)
    -- the front is now read by itself, and gives the words it has to give
    have hlines := read_intercalate_front hne (read_plain_blank hliteral) htexts
    rw [h, Option.some_inj] at hlines
    have hsplit : words = split (" ".intercalate front) :=
      List.append_cancel_right (congrArg Line.words hlines)
    intro w hw
    exact isWord_of_mem_split hliteral (hsplit ▸ hw)
  · intro h
    have hempty : "" ∉ words := fun hmem => (h "" hmem).1 rfl
    rw [hsame hempty]
    refine read_intercalate_words (List.rel_append ?_ ?_)
    · exact List.forall₂_same.mpr fun w hw => read_plain (h w hw).1 (h w hw).2
    · exact htexts.imp fun _ _ => read_spelled

/-! ### Rendered commands -/

/-- What an argument leaves in a line: an empty one is dropped. -/
def argument (a : String) : List String := if a = "" then [] else [a]

theorem argument_eq {a : String} (h : a ≠ "") : argument a = [a] := if_neg h

/-- An argument stands behind the command line that was there before it. -/
theorem toList_render_arg (c : Command) (a : String) :
    (c.arg a).render.toList = c.render.toList ++ trail (argument a) := by
  unfold Command.arg argument
  split_ifs with ha
  · simp [trail]
  · show (" ".intercalate (c.call :: (c.args ++ [a]))).toList = _
    rw [← List.cons_append, toList_intercalate_append (by simp)]
    rfl

/-- An option with its value, as the texts of a line. -/
def option (name : String) : Option String → List String
  | some value => [name, value]
  | none => []

/-- An option that is appended as one argument is two texts of the line. -/
theorem toList_render_arg?_option (c : Command) (name : String) (value : Option String) :
    (c.arg? (value.map ((name ++ " ") ++ ·))).render.toList =
      c.render.toList ++ trail (option name value) := by
  cases value with
  | none => simp [Command.arg?, option, trail]
  | some value =>
    have hne : name ++ " " ++ value ≠ "" := by simp
    rw [Option.map_some, Command.arg?, toList_render_arg, argument_eq hne]
    simp [option, trail]

/-- **An argument that nobody quotes, behind others that nobody quotes.** The line reads as its
words exactly if each of these is a word as it is. -/
theorem read_argument_iff {front texts others : List String} (a : String) (hne : front ≠ [])
    (htexts : List.Forall₂ Spells texts others) :
    read (" ".intercalate (front ++ argument a ++ texts)) = some ⟨front ++ [a] ++ others, []⟩ ↔
      ∀ w ∈ front ++ [a], IsWord w := by
  have hsub : (argument a).Sublist [a] := by
    unfold argument
    split_ifs
    · exact List.nil_sublist [a]
    · exact List.Sublist.refl [a]
  refine read_literal_iff (by simp [hne]) (hsub.append_left front) ?_ htexts
  · intro hmem
    have ha : a ≠ "" := by
      rintro rfl
      exact hmem (by simp)
    rw [argument_eq ha]

end Line

end Runbook.Shell
