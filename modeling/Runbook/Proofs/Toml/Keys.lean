import Runbook.Proofs.Toml.Strings
import Runbook.Toml.Parser

/-!
# TOML keys written and read again

A key is written bare where its characters allow that, and else as a string. It is read back from
either (`keyPart?_keyText`), alone in front of a value (`key?_keyText`) and as a part of the path of
a header (`key?_pathText`).
-/

namespace Runbook.Toml

/-- No character of a bare key comes first. -/
def EndsKey (cs : List Char) : Prop := ∀ c ∈ cs.head?, isBare c = false

theorem isControl_of_plain {cs : List Char}
    (h : (cs.all fun c => !(c.toNat == 127 || (c.toNat < 32 && c != '\t'))) = true) :
    ∀ c ∈ cs, isControl c = false := by
  intro c hc
  have hplain := List.all_eq_true.mp h c hc
  simp only [Bool.not_eq_true', Bool.or_eq_false_iff] at hplain
  rw [isControl, hplain.1, hplain.2]
  rfl

theorem keyPart?_basic (cs rest : List Char) :
    keyPart? ('"' :: (escaped false 0 0 cs ++ '"' :: rest)) = some (String.ofList cs, rest) := by
  rw [keyPart?, basicBody_escaped 0 cs rest (by rw [List.length_append]; omega)]
  rfl

theorem keyPart?_literal {cs : List Char} (h : ∀ c ∈ cs, c ≠ '\'' ∧ isControl c = false)
    (rest : List Char) :
    keyPart? ('\'' :: (cs ++ '\'' :: rest)) = some (String.ofList cs, rest) := by
  rw [keyPart?, literalBody_append h]
  rfl

theorem keyPart?_bare {c : Char} {cs rest : List Char} (h : ∀ d ∈ c :: cs, isBare d = true)
    (hrest : EndsKey rest) :
    keyPart? (c :: (cs ++ rest)) = some (String.ofList (c :: cs), rest) := by
  have hne {d : Char} (hd : isBare d = false) : c ≠ d := by
    rintro rfl
    rw [h c List.mem_cons_self] at hd
    cases hd
  have hnil : rest.takeWhile isBare = [] ∧ rest.dropWhile isBare = rest := by
    cases rest with
    | nil => exact ⟨rfl, rfl⟩
    | cons d rest =>
      have hd : isBare d = false := hrest d rfl
      simp [hd]
  have htake : (c :: (cs ++ rest)).takeWhile isBare = c :: cs := by
    rw [← List.cons_append, List.takeWhile_append_of_pos h, hnil.1, List.append_nil]
  have hdrop : (c :: (cs ++ rest)).dropWhile isBare = rest := by
    rw [← List.cons_append, List.dropWhile_append_of_pos h, hnil.2]
  rw [keyPart?]
  · simp only [htake, hdrop]
    rfl
  · exact fun _ h => hne (by decide) (List.cons.inj h).1
  · exact fun _ h => hne (by decide) (List.cons.inj h).1

/-- How a key is written: bare, or with quotes of either kind. -/
theorem keyText_cases (key : String) :
    (∃ c cs, (keyText key).toList = c :: cs ∧ key.toList = c :: cs ∧
      ∀ d ∈ c :: cs, isBare d = true) ∨
    (keyText key).toList = '"' :: (escaped false 0 0 key.toList ++ ['"']) ∨
    (keyText key).toList = '\'' :: (key.toList ++ ['\'']) ∧
      ∀ c ∈ key.toList, c ≠ '\'' ∧ isControl c = false := by
  simp only [keyText]
  split
  · next hbare =>
    simp only [Bool.and_eq_true, Bool.not_eq_true', List.isEmpty_eq_false_iff] at hbare
    obtain ⟨hne, hbare⟩ := hbare
    obtain ⟨c, cs, hcs⟩ := List.exists_cons_of_ne_nil hne
    refine .inl ⟨c, cs, hcs, hcs, fun d hd => ?_⟩
    exact List.all_eq_true.mp hbare d (hcs ▸ hd)
  · split
    · exact .inr (.inl (by simp))
    · split
      · next hliteral =>
        simp only [Bool.and_eq_true, Bool.not_eq_true'] at hliteral
        refine .inr (.inr ⟨by simp, fun c hc => ⟨?_, isControl_of_plain hliteral.1 c hc⟩⟩)
        rintro rfl
        simp [hc] at hliteral
      · exact .inr (.inl (by simp))

/-- A key is read back. -/
theorem keyPart?_keyText (key : String) {rest : List Char} (hrest : EndsKey rest) :
    keyPart? ((keyText key).toList ++ rest) = some (key, rest) := by
  obtain ⟨c, cs, htext, hkey, hbare⟩ | htext | ⟨htext, hplain⟩ := keyText_cases key
  · rw [htext, List.cons_append, keyPart?_bare hbare hrest, ← hkey, String.ofList_toList]
  · rw [htext, List.cons_append, List.append_assoc]
    exact (keyPart?_basic _ rest).trans (by rw [String.ofList_toList])
  · rw [htext, List.cons_append, List.append_assoc]
    exact (keyPart?_literal hplain rest).trans (by rw [String.ofList_toList])

/-- A key starts with a character of a bare key or with a quote. -/
theorem keyText_cons (key : String) :
    ∃ c cs, (keyText key).toList = c :: cs ∧ (isBare c = true ∨ c = '"' ∨ c = '\'') := by
  obtain ⟨c, cs, htext, -, hbare⟩ | htext | ⟨htext, -⟩ := keyText_cases key
  · exact ⟨c, cs, htext, .inl (hbare c List.mem_cons_self)⟩
  · exact ⟨'"', _, htext, .inr (.inl rfl)⟩
  · exact ⟨'\'', _, htext, .inr (.inr rfl)⟩

/-- A character that starts a key is none that is neither a character of a bare key nor a quote. -/
theorem ne_of_startsKey {c d : Char} (h : isBare c = true ∨ c = '"' ∨ c = '\'')
    (hd : isBare d = false ∧ d ≠ '"' ∧ d ≠ '\'') : c ≠ d := by
  rintro rfl
  obtain hbare | hquote | hquote := h
  · rw [hd.1] at hbare
    cases hbare
  · exact hd.2.1 hquote
  · exact hd.2.2 hquote

theorem skipBlanks_keyText (key : String) (rest : List Char) :
    skipBlanks ((keyText key).toList ++ rest) = (keyText key).toList ++ rest := by
  obtain ⟨c, cs, htext, hc⟩ := keyText_cons key
  have hblank : c ≠ ' ' := ne_of_startsKey hc (by decide)
  have htab : c ≠ '\t' := ne_of_startsKey hc (by decide)
  simp [htext, skipBlanks, hblank, htab]

/-- A key that is not part of a path is read. -/
theorem key?_keyText {fuel : Nat} (key : String) {rest : List Char} (hends : EndsKey rest)
    (hrest : ∀ r, skipBlanks rest ≠ '.' :: r) :
    key? (fuel + 1) ((keyText key).toList ++ rest) = some ([key], skipBlanks rest) := by
  rw [key?, skipBlanks_keyText, keyPart?_keyText key hends]
  simp only

/-- The path of a header. -/
theorem pathText_cons_cons (key key' : String) (path : List String) :
    (pathText (key :: key' :: path)).toList =
      (keyText key).toList ++ '.' :: (pathText (key' :: path)).toList := by
  simp [pathText, String.toList_intercalate]

theorem pathText_singleton (key : String) : (pathText [key]).toList = (keyText key).toList := by
  simp [pathText]

/-- The path of a header is read back up to its bracket. -/
theorem key?_pathText {fuel : Nat} {path : List String} (hne : path ≠ []) (rest : List Char)
    (hfuel : path.length ≤ fuel) :
    key? fuel ((pathText path).toList ++ ']' :: rest) = some (path, ']' :: rest) := by
  induction path generalizing fuel with
  | nil => exact absurd rfl hne
  | cons key path ih =>
    obtain ⟨fuel, rfl⟩ : ∃ m, fuel = m + 1 := ⟨fuel - 1, by simp at hfuel; omega⟩
    cases path with
    | nil =>
      rw [pathText_singleton]
      exact key?_keyText key (by simp [EndsKey, isBare]) (by simp [skipBlanks])
    | cons key' path =>
      have hkeys := ih (by simp) (by simpa using hfuel)
      rw [pathText_cons_cons, List.append_assoc, List.cons_append, key?, skipBlanks_keyText,
        keyPart?_keyText key (by simp [EndsKey, isBare])]
      simp [skipBlanks, hkeys]

end Runbook.Toml
