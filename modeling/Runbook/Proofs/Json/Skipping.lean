import Runbook.Json.Skipping
import Runbook.Proofs.Json.Layout

/-!
# What is passed over

Passing over a value asks less of a text than reading it. So whatever can be read can be passed over
up to the same place (`skip_of_value`), and where a value can be read a record can be as well: it is
the value without the members that are not expected (`record_of_value`). A text that writes a list
of objects is read as a list of records in the same way (`recordList?_of_parse?`).

The readers run through the text in step and on the same fuel. What the reader of whole values does
is said once, as what it finds (`Finds`), and the others are compared with that.
-/

namespace Runbook.Json

/-! ### Scalars -/

/-- What is made of a reader's result leaves the same text. -/
theorem exists_of_map_eq_some {α β : Type} {o : Option (α × List Char)}
    {f : α × List Char → β × List Char} {b : β} {rest : List Char} (h : o.map f = some (b, rest))
    (hf : ∀ p, (f p).2 = p.2) : ∃ a, o = some (a, rest) ∧ (f (a, rest)).1 = b := by
  obtain ⟨⟨a, r⟩, ho, hb⟩ := Option.map_eq_some_iff.mp h
  obtain rfl : rest = r := by simpa only [hb] using hf (a, r)
  exact ⟨a, ho, congrArg Prod.fst hb⟩

/-- A string whose characters can be read is passed over. -/
theorem skipString_of_stringBody {cs s rest : List Char} (h : stringBody cs = some (s, rest)) :
    skipString cs = some rest := by
  fun_induction stringBody cs generalizing s with
  | case1 | case3 | case6 | case7 | case9 | case10 => cases h
  | case2 r =>
    cases h
    rfl
  | case4 a b c d r u hu ch hch ih =>
    obtain ⟨s', hs, -⟩ := exists_of_map_eq_some h fun _ => rfl
    rw [skipString, hu, Option.isSome_some, if_pos rfl, ih hs]
  | case5 a b c d u hu hlone e f g i r ch hch ih =>
    obtain ⟨s', hs, -⟩ := exists_of_map_eq_some h fun _ => rfl
    obtain ⟨low, hlow, -⟩ := Option.bind_eq_some_iff.mp hch
    rw [skipString, hu, Option.isSome_some, if_pos rfl, skipString, hlow, Option.isSome_some,
      if_pos rfl, ih hs]
  | case8 c r hunit ch hch ih =>
    obtain ⟨s', hs, -⟩ := exists_of_map_eq_some h fun _ => rfl
    rw [skipString.eq_4 _ _ hunit, hch, Option.isSome_some, if_pos rfl, ih hs]
  | case11 c r hquote hunit hescape hplain ih =>
    obtain ⟨s', hs, -⟩ := exists_of_map_eq_some h fun _ => rfl
    rw [skipString.eq_5 _ _ hquote hunit hescape, if_neg hplain, ih hs]

/-- The value is neither an array nor an object. -/
def isLeaf : Json → Bool
  | .arr _ | .obj _ => false
  | _ => true

theorem skipDigits_eq {cs : List Char} (h : ¬cs.takeWhile Char.isDigit = []) :
    skipDigits cs = some (cs.dropWhile Char.isDigit) := if_neg h

theorem skipExponent_of_head? {cs : List Char}
    (h : cs.head? ≠ some 'e' ∧ cs.head? ≠ some 'E') : skipExponent cs = some cs := by
  cases cs with
  | nil => rfl
  | cons c cs =>
    have hc : ¬(c = 'e' ∨ c = 'E') := by simpa [not_or] using h
    rw [skipExponent, if_neg hc]

theorem float?_leaf {negative : Bool} {significand : Nat} {exponent : Int} {j : Json}
    {cs rest : List Char}
    (h : (float? negative significand exponent).map (·, cs) = some (j, rest)) :
    j.isLeaf = true ∧ cs = rest := by
  obtain ⟨x, hx, heq⟩ := Option.map_eq_some_iff.mp h
  obtain ⟨rfl, rfl⟩ := Prod.mk.inj heq
  obtain ⟨y, -, rfl⟩ := Option.map_eq_some_iff.mp hx
  exact ⟨rfl, rfl⟩

theorem withExponent_leaf {negative : Bool} {significand : Nat} {exponent : Int} {j : Json}
    {cs rest : List Char} (h : withExponent negative significand exponent cs = some (j, rest)) :
    j.isLeaf = true ∧ skipExponent cs = some rest := by
  revert h
  fun_cases withExponent negative significand exponent cs with
  | case1 | case2 =>
    intro h
    cases h
  | case3 c cs hc down ds hsign digits r hdigits =>
    intro h
    obtain ⟨rfl, rfl⟩ := Prod.mk.inj (Option.some.inj h)
    rw [skipExponent, if_pos hc, hsign, skipDigits_eq hdigits]
    exact ⟨rfl, rfl⟩
  | case4 c cs hc down ds hsign digits r hdigits =>
    intro h
    obtain ⟨hleaf, rfl⟩ := float?_leaf h
    rw [skipExponent, if_pos hc, hsign, skipDigits_eq hdigits]
    exact ⟨hleaf, rfl⟩
  | case5 c cs hc =>
    intro h
    obtain ⟨hleaf, rfl⟩ := float?_leaf h
    exact ⟨hleaf, if_neg hc⟩
  | case6 =>
    intro h
    obtain ⟨hleaf, rfl⟩ := float?_leaf h
    exact ⟨hleaf, rfl⟩

theorem isLeaf_whole (negative : Bool) (n : Nat) : (whole negative n).isLeaf = true := by
  unfold whole
  split
  · split <;> rfl
  · rfl

/-- A number whose value can be read is passed over. -/
theorem number_leaf {j : Json} {cs rest : List Char} (h : number cs = some (j, rest)) :
    j.isLeaf = true ∧ skipNumber cs = some rest := by
  revert h
  unfold skipNumber
  fun_cases number cs with
  | case1 | case2 =>
    intro h
    cases h
  | case3 negative ds hsign digits r hdigits significand fr hr places rest' hplaces =>
    intro h
    rw [hsign]
    refine ⟨(withExponent_leaf h).1, (if_neg hdigits).trans ?_⟩
    rw [show ds.dropWhile Char.isDigit = '.' :: fr from hr, skipFraction, skipDigits_eq hplaces]
    exact (withExponent_leaf h).2
  | case4 negative ds hsign digits r hdigits significand left hleft fr hr places rest' hplaces =>
    intro h
    rw [hsign]
    refine ⟨(withExponent_leaf h).1, (if_neg hdigits).trans ?_⟩
    rw [show ds.dropWhile Char.isDigit = '.' :: fr from hr, skipFraction, skipDigits_eq hplaces]
    exact (withExponent_leaf h).2
  | case5 negative ds hsign digits r hdigits significand left hleft hpoint hhead =>
    intro h
    obtain ⟨rfl, rfl⟩ := Prod.mk.inj (Option.some.inj h)
    rw [hsign]
    refine ⟨isLeaf_whole _ _, (if_neg hdigits).trans ?_⟩
    rw [skipFraction.eq_2 _ hpoint]
    exact skipExponent_of_head? hhead.2
  | case6 negative ds hsign digits r hdigits significand left hleft hpoint hhead =>
    intro h
    rw [hsign]
    refine ⟨(withExponent_leaf h).1, (if_neg hdigits).trans ?_⟩
    rw [skipFraction.eq_2 _ hpoint]
    exact (withExponent_leaf h).2

/-! ### What a reader does

Each reader is described once. The readers that pass over values are held against this. -/

/-- The reader finds a value at the beginning of the text. -/
inductive Finds : (depth fuel : Nat) → List Char → Json → List Char → Prop where
  /-- A word, a string or a number, each of which is passed over as well. -/
  | leaf {depth fuel : Nat} {cs rest : List Char} {j : Json} :
      (∀ r, cs ≠ '[' :: r ∧ cs ≠ '{' :: r) → j.isLeaf = true → skip fuel cs = some rest →
      Finds depth fuel cs j rest
  | noItems {depth fuel : Nat} {cs rest : List Char} : skipSpace cs = ']' :: rest →
      Finds (depth + 1) (fuel + 1) ('[' :: cs) (.arr []) rest
  | arr {depth fuel : Nat} {cs rest : List Char} {js : List Json} :
      (∀ r, skipSpace cs ≠ ']' :: r) → items depth fuel (skipSpace cs) = some (js, rest) →
      Finds (depth + 1) (fuel + 1) ('[' :: cs) (.arr js) rest
  | noMembers {depth fuel : Nat} {cs rest : List Char} : skipSpace cs = '}' :: rest →
      Finds (depth + 1) (fuel + 1) ('{' :: cs) (.obj []) rest
  | obj {depth fuel : Nat} {cs rest : List Char} {ms : List (String × Json)} :
      (∀ r, skipSpace cs ≠ '}' :: r) → members depth fuel (skipSpace cs) = some (ms, rest) →
      Finds (depth + 1) (fuel + 1) ('{' :: cs) (.obj ms) rest

theorem skip_number {c : Char} (h : c = '-' ∨ c.isDigit = true) (fuel : Nat) (cs : List Char) :
    skip (fuel + 1) (c :: cs) = skipNumber (c :: cs) := by
  rw [skip]
  · rw [if_pos h]
  all_goals exact ne_of_startsNumber h (by decide)

theorem finds_of_value {depth fuel : Nat} {cs rest : List Char} {j : Json}
    (h : value depth fuel cs = some (j, rest)) : Finds depth fuel cs j rest := by
  cases fuel with
  | zero => cases h
  | succ fuel =>
    unfold value at h
    split at h
    case h_1 => cases h
    case h_2 | h_3 | h_4 =>
      obtain ⟨r, hr, heq⟩ := Option.map_eq_some_iff.mp h
      obtain ⟨rfl, rfl⟩ := Prod.mk.inj heq
      exact .leaf (by simp) rfl hr
    case h_5 =>
      obtain ⟨s, hs, rfl⟩ := exists_of_map_eq_some h fun _ => rfl
      exact .leaf (by simp) rfl (skipString_of_stringBody hs)
    case h_6 =>
      split at h
      case h_1 => cases h
      case h_2 =>
        split at h
        case h_1 hr =>
          obtain ⟨rfl, rfl⟩ := Prod.mk.inj (Option.some.inj h)
          exact .noItems hr
        case h_2 hbracket =>
          obtain ⟨js, hjs, rfl⟩ := exists_of_map_eq_some h fun _ => rfl
          exact .arr hbracket hjs
    case h_7 =>
      split at h
      case h_1 => cases h
      case h_2 =>
        split at h
        case h_1 hr =>
          obtain ⟨rfl, rfl⟩ := Prod.mk.inj (Option.some.inj h)
          exact .noMembers hr
        case h_2 hbrace =>
          obtain ⟨ms, hms, rfl⟩ := exists_of_map_eq_some h fun _ => rfl
          exact .obj hbrace hms
    case h_8 c cs _ _ _ _ hbracket hbrace =>
      split at h
      case isTrue hc =>
        have hstart (r : List Char) : c :: cs ≠ '[' :: r ∧ c :: cs ≠ '{' :: r :=
          ⟨fun heq => hbracket (List.cons.inj heq).1, fun heq => hbrace (List.cons.inj heq).1⟩
        obtain ⟨hleaf, hskip⟩ := number_leaf h
        exact .leaf hstart hleaf ((skip_number hc fuel cs).trans hskip)
      case isFalse => cases h

/-- The first item stands alone or in front of others. -/
theorem exists_of_items {depth fuel : Nat} {cs rest : List Char} {js : List Json}
    (h : items depth fuel cs = some (js, rest)) :
    ∃ f j r, fuel = f + 1 ∧ value depth f cs = some (j, r) ∧
      ((skipSpace r = ']' :: rest ∧ js = [j]) ∨
        ∃ r' more, skipSpace r = ',' :: r' ∧ items depth f (skipSpace r') = some (more, rest) ∧
          js = j :: more) := by
  cases fuel with
  | zero => cases h
  | succ f =>
    unfold items at h
    split at h
    case h_1 => cases h
    case h_2 j r hj =>
      refine ⟨f, j, r, rfl, hj, ?_⟩
      split at h
      case h_1 hr =>
        obtain ⟨rfl, rfl⟩ := Prod.mk.inj (Option.some.inj h)
        exact .inl ⟨hr, rfl⟩
      case h_2 hr =>
        obtain ⟨more, hmore, rfl⟩ := exists_of_map_eq_some h fun _ => rfl
        exact .inr ⟨_, more, hr, hmore, rfl⟩
      case h_3 => cases h

/-- The first member stands alone or in front of others. -/
theorem exists_of_members {depth fuel : Nat} {cs rest : List Char} {ms : List (String × Json)}
    (h : members depth fuel cs = some (ms, rest)) :
    ∃ f ds name r r' j r'', fuel = f + 1 ∧ cs = '"' :: ds ∧ stringBody ds = some (name, r) ∧
      skipSpace r = ':' :: r' ∧ value depth f (skipSpace r') = some (j, r'') ∧
      ((skipSpace r'' = '}' :: rest ∧ ms = [(String.ofList name, j)]) ∨
        ∃ r₃ more, skipSpace r'' = ',' :: r₃ ∧ members depth f (skipSpace r₃) = some (more, rest) ∧
          ms = (String.ofList name, j) :: more) := by
  cases fuel with
  | zero => cases h
  | succ f =>
    unfold members at h
    split at h
    case h_2 => cases h
    case h_1 ds =>
      split at h
      case h_1 => cases h
      case h_2 name r hname =>
        split at h
        case h_2 => cases h
        case h_1 r' hr =>
          split at h
          case h_1 => cases h
          case h_2 j r'' hj =>
            refine ⟨f, ds, name, r, r', j, r'', rfl, rfl, hname, hr, hj, ?_⟩
            split at h
            case h_1 hr'' =>
              obtain ⟨rfl, rfl⟩ := Prod.mk.inj (Option.some.inj h)
              exact .inl ⟨hr'', rfl⟩
            case h_2 hr'' =>
              obtain ⟨more, hmore, rfl⟩ := exists_of_map_eq_some h fun _ => rfl
              exact .inr ⟨_, more, hr'', hmore, rfl⟩
            case h_3 => cases h

/-! ### Passing over values -/

theorem skip_arr {fuel : Nat} {cs : List Char} (h : ∀ r, skipSpace cs ≠ ']' :: r) :
    skip (fuel + 1) ('[' :: cs) = skipItems fuel (skipSpace cs) := by
  rw [skip]
  split
  case h_1 r hr => exact absurd hr (h r)
  case h_2 => rfl

theorem skip_obj {fuel : Nat} {cs : List Char} (h : ∀ r, skipSpace cs ≠ '}' :: r) :
    skip (fuel + 1) ('{' :: cs) = skipMembers fuel (skipSpace cs) := by
  rw [skip]
  split
  case h_1 r hr => exact absurd hr (h r)
  case h_2 => rfl

mutual

/-- A value that can be read is passed over. -/
theorem skip_of_value {depth fuel : Nat} {cs rest : List Char} {j : Json}
    (h : value depth fuel cs = some (j, rest)) : skip fuel cs = some rest := by
  cases finds_of_value h with
  | leaf _ _ hskip => exact hskip
  | noItems hr | noMembers hr => simp only [skip, hr]
  | arr hbracket hjs => rw [skip_arr hbracket, skipItems_of_items hjs]
  | obj hbrace hms => rw [skip_obj hbrace, skipMembers_of_members hms]
termination_by fuel

/-- Items that can be read are passed over. -/
theorem skipItems_of_items {depth fuel : Nat} {cs rest : List Char} {js : List Json}
    (h : items depth fuel cs = some (js, rest)) : skipItems fuel cs = some rest := by
  obtain ⟨f, j, r, rfl, hj, ⟨hr, -⟩ | ⟨r', more, hr, hmore, -⟩⟩ := exists_of_items h
  · simp only [skipItems, skip_of_value hj, hr]
  · simp only [skipItems, skip_of_value hj, hr, skipItems_of_items hmore]
termination_by fuel

/-- Members that can be read are passed over. -/
theorem skipMembers_of_members {depth fuel : Nat} {cs rest : List Char}
    {ms : List (String × Json)} (h : members depth fuel cs = some (ms, rest)) :
    skipMembers fuel cs = some rest := by
  obtain ⟨f, ds, name, r, r', j, r'', rfl, rfl, hname, hr, hj,
    ⟨hr'', -⟩ | ⟨r₃, more, hr'', hmore, -⟩⟩ := exists_of_members h
  · simp only [skipMembers, skipString_of_stringBody hname, hr, skip_of_value hj, hr'']
  · simp only [skipMembers, skipString_of_stringBody hname, hr, skip_of_value hj, hr'',
      skipMembers_of_members hmore]
termination_by fuel

end

/-! ### Objects with members that are expected -/

/-- The members of an object whose names are expected. -/
def only (names : List String) : Json → Json
  | .obj ms => .obj (ms.filter (·.1 ∈ names))
  | j => j

/-- The items of an array, each with the members that are expected. -/
def onlyItems (names : List String) : Json → Json
  | .arr js => .arr (js.map (only names))
  | j => j

variable {names : List String}

theorem only_of_isLeaf {j : Json} (h : j.isLeaf = true) : j.only names = j := by
  cases j <;> first | rfl | cases h

theorem onlyItems_of_isLeaf {j : Json} (h : j.isLeaf = true) : j.onlyItems names = j := by
  cases j <;> first | rfl | cases h

theorem member_of_value (names : List String) (name : String) {depth fuel : Nat}
    {cs rest : List Char} {j : Json} (h : value depth fuel cs = some (j, rest)) :
    member names depth fuel name cs = some ([(name, j)].filter (·.1 ∈ names), rest) := by
  unfold member
  split
  case isTrue hname => simp [h, hname]
  case isFalse hname => simp [skip_of_value h, hname]

theorem recordMembers_of_members {depth fuel : Nat} {cs rest : List Char}
    {ms : List (String × Json)} (h : members depth fuel cs = some (ms, rest)) :
    recordMembers names depth fuel cs = some (ms.filter (·.1 ∈ names), rest) := by
  induction fuel generalizing cs ms with
  | zero => cases h
  | succ fuel ih =>
    obtain ⟨f, ds, name, r, r', j, r'', hf, rfl, hname, hr, hj, hend⟩ := exists_of_members h
    obtain rfl := Nat.succ.inj hf
    have hmember := member_of_value names (String.ofList name) hj
    obtain ⟨hr'', rfl⟩ | ⟨r₃, more, hr'', hmore, rfl⟩ := hend
    · simp only [recordMembers, hname, hr, hmember, hr'']
    · simp only [recordMembers, hname, hr, hmember, hr'', ih hmore, Option.map_some]
      rw [← List.filter_append, List.singleton_append]

/-- What does not start with a brace is read as it is. -/
theorem record_eq_value {depth fuel : Nat} {cs : List Char} (h : ∀ r, cs ≠ '{' :: r) :
    record names depth fuel cs = value depth fuel cs := by
  rw [record]
  exact fun _ _ r _ _ => h r

theorem record_obj {depth fuel : Nat} {cs : List Char} (h : ∀ r, skipSpace cs ≠ '}' :: r) :
    record names (depth + 1) (fuel + 1) ('{' :: cs) =
      (recordMembers names depth fuel (skipSpace cs)).map fun (ms, r) => (.obj ms, r) := by
  rw [record]
  split
  case h_1 r hr => exact absurd hr (h r)
  case h_2 => rfl

/-- What can be read is read as a record. -/
theorem record_of_value {depth fuel : Nat} {cs rest : List Char} {j : Json}
    (h : value depth fuel cs = some (j, rest)) :
    record names depth fuel cs = some (j.only names, rest) := by
  cases finds_of_value h with
  | leaf hstart hleaf _ => rw [record_eq_value fun r => (hstart r).2, h, only_of_isLeaf hleaf]
  | noItems | arr =>
    rw [record_eq_value (by simp), h]
    rfl
  | noMembers hr =>
    simp only [record, hr]
    rfl
  | obj hbrace hms =>
    rw [record_obj hbrace, recordMembers_of_members hms]
    rfl

theorem recordItems_of_items {depth fuel : Nat} {cs rest : List Char} {js : List Json}
    (h : items depth fuel cs = some (js, rest)) :
    recordItems names depth fuel cs = some (js.map (only names), rest) := by
  induction fuel generalizing cs js with
  | zero => cases h
  | succ fuel ih =>
    obtain ⟨f, j, r, hf, hj, hend⟩ := exists_of_items h
    obtain rfl := Nat.succ.inj hf
    obtain ⟨hr, rfl⟩ | ⟨r', more, hr, hmore, rfl⟩ := hend
    · simp only [recordItems, record_of_value hj, hr, List.map_cons, List.map_nil]
    · simp only [recordItems, record_of_value hj, hr, ih hmore, Option.map_some, List.map_cons]

theorem recordList_eq_value {depth fuel : Nat} {cs : List Char} (h : ∀ r, cs ≠ '[' :: r) :
    recordList names depth fuel cs = value depth fuel cs := by
  rw [recordList]
  exact fun _ _ r _ _ => h r

theorem recordList_arr {depth fuel : Nat} {cs : List Char} (h : ∀ r, skipSpace cs ≠ ']' :: r) :
    recordList names (depth + 1) (fuel + 1) ('[' :: cs) =
      (recordItems names depth fuel (skipSpace cs)).map fun (js, r) => (.arr js, r) := by
  rw [recordList]
  split
  case h_1 r hr => exact absurd hr (h r)
  case h_2 => rfl

/-- What can be read is read as a list of records. -/
theorem recordList_of_value {depth fuel : Nat} {cs rest : List Char} {j : Json}
    (h : value depth fuel cs = some (j, rest)) :
    recordList names depth fuel cs = some (j.onlyItems names, rest) := by
  cases finds_of_value h with
  | leaf hstart hleaf _ =>
    rw [recordList_eq_value fun r => (hstart r).1, h, onlyItems_of_isLeaf hleaf]
  | noItems hr =>
    simp only [recordList, hr]
    rfl
  | arr hbracket hjs =>
    rw [recordList_arr hbracket, recordItems_of_items hjs]
    rfl
  | noMembers | obj =>
    rw [recordList_eq_value (by simp), h]
    rfl

/-! ### Texts -/

/-- **A text that writes a value is read as a list of records, less the members that are not
expected.** -/
theorem recordList?_of_parse? {text : String} {j : Json} (h : parse? text = some j) :
    recordList? names text = some (j.onlyItems names) := by
  unfold parse? whole? at h
  split at h
  case h_1 k rest hk =>
    split at h
    case isTrue hrest =>
      obtain rfl := Option.some.inj h
      rw [recordList?, whole?, recordList_of_value hk]
      exact if_pos hrest
    case isFalse => cases h
  case h_2 => cases h

end Runbook.Json
