import Runbook.Proofs.Glob.Matches
import Runbook.Proofs.Psql.DumpPaths

/-!
# Numbered migration dumps

A dump that leads from one version to another one goes by the number of the first:
`9_to_10.sql`. What a pattern finds stands in the order of texts. Among the digits of two numbers
the first that differs decides; where one number begins with all the digits of the other, the longer
one stands first, because the underscore behind a number comes after the digits. So the greater
number stands behind the smaller one exactly if its leading digits, as many as the smaller one has,
make more than the smaller one (`Migration.name_lt_or_gt`), and the dumps are listed in the order of
their numbers exactly if this is true of any two of them (`expandPaths_ascending_iff`). It is where
all numbers have equally many digits, and it is not for 9 and 10.
-/

namespace Runbook.Psql

/-! ### Digits -/

theorem digitChar_lt_iff {a b : Nat} (ha : a < 10) (hb : b < 10) :
    a.digitChar < b.digitChar ↔ a < b := by
  rw [Char.lt_def, UInt32.lt_iff_toNat_lt]
  show a.digitChar.toNat < b.digitChar.toNat ↔ a < b
  rw [Nat.toNat_digitChar_of_lt_ten ha, Nat.toNat_digitChar_of_lt_ten hb]
  omega

theorem digitChar_inj {a b : Nat} (ha : a < 10) (hb : b < 10) :
    a.digitChar = b.digitChar ↔ a = b := by
  rw [← Char.toNat_inj, Nat.toNat_digitChar_of_lt_ten ha, Nat.toNat_digitChar_of_lt_ten hb]
  omega

theorem length_toDigits_of_le {n : Nat} (h : 10 ≤ n) :
    (Nat.toDigits 10 n).length = (Nat.toDigits 10 (n / 10)).length + 1 := by
  rw [Nat.toDigits_of_base_le (by decide) h, List.length_append, List.length_singleton]

theorem length_toDigits_eq_one_iff {n : Nat} : (Nat.toDigits 10 n).length = 1 ↔ n < 10 := by
  by_cases h : n < 10
  · simp [Nat.toDigits_of_lt_base h, h]
  · have hpos : 0 < (Nat.toDigits 10 (n / 10)).length := Nat.length_toDigits_pos
    rw [length_toDigits_of_le (Nat.le_of_not_lt h)]
    omega

/-- Texts that begin with numbers of equally many digits are in the order of the numbers, and what
follows decides if the numbers are the same. -/
theorem toDigits_append_lt_iff {a b : Nat} (s t : List Char)
    (hlength : (Nat.toDigits 10 a).length = (Nat.toDigits 10 b).length) :
    Nat.toDigits 10 a ++ s < Nat.toDigits 10 b ++ t ↔ a < b ∨ a = b ∧ s < t := by
  induction a using Nat.strongRecOn generalizing b s t with
  | ind a ih =>
    by_cases ha : a < 10
    · have hb : b < 10 := by
        rwa [length_toDigits_eq_one_iff.mpr ha, eq_comm, length_toDigits_eq_one_iff] at hlength
      rw [Nat.toDigits_of_lt_base ha, Nat.toDigits_of_lt_base hb, List.singleton_append,
        List.singleton_append, List.cons_lt_cons_iff, digitChar_lt_iff ha hb, digitChar_inj ha hb]
    · have hb : ¬b < 10 := by
        rwa [← length_toDigits_eq_one_iff, ← hlength, length_toDigits_eq_one_iff]
      rw [Nat.not_lt] at ha hb
      have hmod (n : Nat) : n % 10 < 10 := Nat.mod_lt n (by decide)
      rw [length_toDigits_of_le ha, length_toDigits_of_le hb, Nat.add_right_cancel_iff] at hlength
      -- all digits but the last are those of the quotients, and the last goes to what follows
      rw [Nat.toDigits_of_base_le (by decide) ha, Nat.toDigits_of_base_le (by decide) hb,
        List.append_assoc, List.append_assoc, ih (a / 10) (by omega) _ _ hlength,
        List.singleton_append, List.singleton_append, List.cons_lt_cons_iff,
        digitChar_lt_iff (hmod a) (hmod b), digitChar_inj (hmod a) (hmod b)]
      by_cases hst : s < t <;> simp only [hst, and_true, and_false, or_false] <;> omega

/-- The number that the leading digits make. -/
def leading (count n : Nat) : Nat := n / Nat.pow 10 ((Nat.toDigits 10 n).length - count)

theorem leading_of_length_le {count n : Nat} (h : (Nat.toDigits 10 n).length ≤ count) :
    leading count n = n := by
  rw [leading, Nat.sub_eq_zero_of_le h]
  exact Nat.div_one n

theorem leading_of_length_lt {count n : Nat} (hn : 10 ≤ n)
    (h : count < (Nat.toDigits 10 n).length) : leading count n = leading count (n / 10) := by
  have hlength := length_toDigits_of_le hn
  have hdropped : (Nat.toDigits 10 n).length - count =
      ((Nat.toDigits 10 (n / 10)).length - count).succ := by omega
  rw [leading, hdropped, leading, Nat.div_div_eq_div_mul]
  exact congrArg (n / ·) (Nat.mul_comm _ 10)

/-- The leading digits of a number are those of the number that they make. -/
theorem exists_toDigits_eq_append {count n : Nat} (hcount : 0 < count)
    (h : count ≤ (Nat.toDigits 10 n).length) :
    ∃ rest, Nat.toDigits 10 n = Nat.toDigits 10 (leading count n) ++ rest ∧
      (Nat.toDigits 10 (leading count n)).length = count ∧ ∀ c ∈ rest, c.isDigit = true := by
  induction n using Nat.strongRecOn with
  | ind n ih =>
    obtain hsame | hless := Nat.eq_or_lt_of_le h
    · rw [leading_of_length_le (Nat.le_of_eq hsame.symm)]
      exact ⟨[], (List.append_nil _).symm, hsame.symm, List.forall_mem_nil _⟩
    · have hn : 10 ≤ n := by
        by_contra hn
        have hone := length_toDigits_eq_one_iff.mpr (Nat.lt_of_not_le hn)
        omega
      have hlength := length_toDigits_of_le hn
      obtain ⟨rest, hrest, hcount', hdigits⟩ := ih (n / 10) (by omega) (by omega)
      rw [leading_of_length_lt hn hless]
      refine ⟨rest ++ [(n % 10).digitChar], ?_, hcount', ?_⟩
      · rw [Nat.toDigits_of_base_le (by decide) hn, hrest, List.append_assoc]
      · rw [List.forall_mem_append, List.forall_mem_singleton, Nat.isDigit_digitChar]
        exact ⟨hdigits, decide_eq_true (Nat.mod_lt n (by decide))⟩

theorem length_toDigits_mono {a b : Nat} (h : a ≤ b) :
    (Nat.toDigits 10 a).length ≤ (Nat.toDigits 10 b).length := by
  rw [Nat.length_toDigits_le_iff (by decide) Nat.length_toDigits_pos]
  exact Nat.lt_of_le_of_lt h
    ((Nat.length_toDigits_le_iff (by decide) Nat.length_toDigits_pos).mp (Nat.le_refl _))

/-! ### Names of dumps -/

/-- A dump that leads from a numbered version to another one. -/
structure Migration where
  number : Nat
  target : String

namespace Migration

/-- The name of the file. -/
def name (d : Migration) : String := toString d.number ++ "_to_" ++ d.target ++ ".sql"

theorem toList_name (d : Migration) :
    ∃ rest, d.name.toList = Nat.toDigits 10 d.number ++ '_' :: rest := by
  refine ⟨"to_".toList ++ d.target.toList ++ ".sql".toList, ?_⟩
  rw [name, String.toList_append, String.toList_append, String.toList_append,
    Nat.toString_eq_ofList_toDigits, String.toList_ofList, List.append_assoc, List.append_assoc]
  rfl

/-- What follows the leading digits of a longer number comes before what follows a number. -/
theorem lt_underscore_of_digits {rest : List Char} (hne : rest ≠ [])
    (hdigits : ∀ c ∈ rest, c.isDigit = true) (s t : List Char) : rest ++ t < '_' :: s := by
  obtain ⟨c, rest, rfl⟩ := List.exists_cons_of_ne_nil hne
  have hc : c.toNat ≤ 57 := by
    have hdigit := hdigits c List.mem_cons_self
    simp only [Char.isDigit, Bool.and_eq_true, decide_eq_true_eq] at hdigit
    exact hdigit.2
  rw [List.cons_append, List.cons_lt_cons_iff]
  exact .inl (show c.toNat < '_'.toNat from Nat.lt_of_le_of_lt hc (by decide))

/-- The number of the first dump is smaller than what as many leading digits of the other make. -/
def IsBelow (d e : Migration) : Prop :=
  d.number < leading (Nat.toDigits 10 d.number).length e.number

instance : DecidableRel IsBelow := fun d e =>
  inferInstanceAs (Decidable (d.number < leading (Nat.toDigits 10 d.number).length e.number))

/-- **The leading digits of the greater number decide which of two names comes first.** -/
theorem name_lt_or_gt {d e : Migration} (h : d.number < e.number) :
    (d.IsBelow e → d.name < e.name) ∧ (¬d.IsBelow e → e.name < d.name) := by
  obtain ⟨s, hs⟩ := d.toList_name
  obtain ⟨t, ht⟩ := e.toList_name
  obtain ⟨rest, hrest, hcount, hdigits⟩ :=
    exists_toDigits_eq_append Nat.length_toDigits_pos (length_toDigits_mono (Nat.le_of_lt h))
  constructor
  · intro hbelow
    show d.name.toList < e.name.toList
    rw [hs, ht, hrest, List.append_assoc, toDigits_append_lt_iff _ _ hcount.symm]
    exact .inl hbelow
  · intro hbelow
    show e.name.toList < d.name.toList
    rw [hs, ht, hrest, List.append_assoc, toDigits_append_lt_iff _ _ hcount]
    refine (Nat.lt_or_eq_of_le (Nat.le_of_not_lt hbelow)).imp_right fun hsame => ⟨hsame, ?_⟩
    -- the greater number does not end with the digits that it shares with the smaller one
    have hne : rest ≠ [] := by
      rintro rfl
      have hvalue := congrArg (fun cs => Nat.ofDigitChars 10 cs 0) hrest
      rw [List.append_nil, hsame] at hvalue
      simp only [Nat.ofDigitChars_ten_toDigits] at hvalue
      omega
    exact lt_underscore_of_digits hne hdigits s ('_' :: t)

/-- The path of the file, behind what stands before the names of its directory. -/
def path (dir : String) (d : Migration) : String := dir ++ d.name

theorem path_lt_path {dir : String} {d e : Migration} (h : d.name < e.name) :
    d.path dir < e.path dir := by
  show (dir ++ d.name).toList < (dir ++ e.name).toList
  rw [String.toList_append, String.toList_append]
  exact List.append_left_lt h

/-- Dumps that stand in the order of their paths. -/
def sortByPath (dir : String) (dumps : List Migration) : List Migration :=
  dumps.mergeSort fun d e => decide (d.path dir ≤ e.path dir)

theorem map_sortByPath (dir : String) (dumps : List Migration) :
    (sortByPath dir dumps).map (path dir) = (dumps.map (path dir)).mergeSort (· ≤ ·) :=
  List.map_mergeSort fun _ _ _ _ => rfl

theorem pairwise_sortByPath (dir : String) (dumps : List Migration) :
    (sortByPath dir dumps).Pairwise fun d e => d.path dir ≤ e.path dir := by
  rw [← List.pairwise_map, map_sortByPath]
  exact Glob.pairwise_mergeSort_texts _

/-- Where dumps stand in the order of their paths and of their numbers, the orders agree. -/
theorem path_le_of_pairwise {dir : String} {dumps : List Migration}
    (hpath : dumps.Pairwise fun d e => d.path dir ≤ e.path dir)
    (hnumber : dumps.Pairwise fun d e => d.number < e.number) :
    ∀ ⦃d⦄, d ∈ dumps → ∀ ⦃e⦄, e ∈ dumps → d.number < e.number → d.path dir ≤ e.path dir := by
  refine List.Pairwise.forall_of_forall_of_flip ?_ ?_ ?_
  · exact fun d _ hself => absurd hself (Nat.lt_irrefl d.number)
  · exact hpath.imp fun {d e} hle (_ : d.number < e.number) => hle
  · exact hnumber.imp fun {d e} hde (hed : e.number < d.number) => absurd hed (Nat.lt_asymm hde)

/-- Dumps with different numbers stand in the order of their numbers exactly if smaller ones are
below. -/
theorem pairwise_number_iff (dir : String) {dumps : List Migration}
    (hdistinct : dumps.Pairwise fun d e => d.number ≠ e.number) :
    (sortByPath dir dumps).Pairwise (fun d e => d.number < e.number) ↔
      ∀ d ∈ dumps, ∀ e ∈ dumps, d.number < e.number → d.IsBelow e := by
  have hsorted := pairwise_sortByPath dir dumps
  have hperm : (sortByPath dir dumps).Perm dumps := List.mergeSort_perm _ _
  constructor
  · intro hascending d hd e he hlt
    have hpath := path_le_of_pairwise hsorted hascending
    by_contra hbelow
    exact hpath (hperm.mem_iff.mpr hd) (hperm.mem_iff.mpr he) hlt
      (path_lt_path ((name_lt_or_gt hlt).2 hbelow))
  · intro hall
    have hdifferent : (sortByPath dir dumps).Pairwise fun d e => d.number ≠ e.number :=
      (hperm.pairwise_iff Ne.symm).mpr hdistinct
    refine (hsorted.and hdifferent).imp_of_mem fun hd he hde => ?_
    refine (Nat.lt_or_gt_of_ne hde.2).resolve_right fun hgt => ?_
    have hbelow := hall _ (hperm.mem_iff.mp he) _ (hperm.mem_iff.mp hd) hgt
    exact hde.1 (path_lt_path ((name_lt_or_gt hgt).1 hbelow))

end Migration

/-- A pattern gives what it matches, sorted, or is kept if that is nothing. -/
theorem expandPaths_pattern {files : FileTree} {pattern : String} {found : List String}
    (hwild : Glob.hasWildcard pattern = true) (hmatched : Glob.matched files pattern = .ok found) :
    expandPaths files [some pattern] = .ok (if found.isEmpty then [some pattern]
      else (found.mergeSort (· ≤ ·)).map some) := by
  have hfound : Glob.expand files pattern = .ok (found.mergeSort (· ≤ ·)) := by
    rw [Glob.expand_eq_map_matched, hmatched]
    rfl
  rw [expandPaths_eq_ok_iff, Glob.expandAll_eq_ok_iff]
  cases found with
  | nil =>
    rw [List.mergeSort_nil] at hfound
    exact ⟨[[some pattern]], .cons (.kept hwild hfound) .nil, rfl⟩
  | cons path rest =>
    have hne : (path :: rest).mergeSort (· ≤ ·) ≠ [] :=
      List.ne_nil_of_length_eq_add_one (List.length_mergeSort (path :: rest))
    exact ⟨[_], .cons (.matched hwild hfound hne) .nil, List.append_nil _⟩

/-- **What a pattern finds of numbered dumps is in the order of their numbers exactly if every
number is below the greater ones.** -/
theorem expandPaths_ascending_iff {files : FileTree} {pattern dir : String}
    {dumps : List Migration} (hwild : Glob.hasWildcard pattern = true)
    (hmatched : Glob.matched files pattern = .ok (dumps.map (Migration.path dir)))
    (hdistinct : (dumps.map Migration.number).Nodup) :
    ∃ listed : List Migration, listed.Perm dumps ∧
      expandPaths files [some pattern] = .ok (if dumps.isEmpty then [some pattern]
        else listed.map fun d => some (d.path dir)) ∧
      (listed.Pairwise (fun d e => d.number < e.number) ↔
        ∀ d ∈ dumps, ∀ e ∈ dumps, d.number < e.number → d.IsBelow e) := by
  refine ⟨Migration.sortByPath dir dumps, List.mergeSort_perm _ _, ?_,
    Migration.pairwise_number_iff dir (List.pairwise_map.mp hdistinct)⟩
  rw [expandPaths_pattern hwild hmatched, ← Migration.map_sortByPath, List.map_map]
  cases dumps <;> rfl

/-- The pattern for the names that end in `.sql`. -/
theorem comparesNames_sql :
    Glob.ComparesNames "*.sql" [.anySequence, .char '.', .char 's', .char 'q', .char 'l'] := by
  constructor <;> decide +kernel

/-- Dumps whose numbers have one digit or two, each number below the greater ones. -/
theorem expandPaths_ascending_short :
    let dumps : List Migration := [⟨1, "2"⟩, ⟨2, "30"⟩, ⟨30, "31"⟩]
    Glob.hasWildcard "*.sql" = true ∧
    Glob.matched (emptyFiles ["1_to_2.sql", "2_to_30.sql", "30_to_31.sql"]) "*.sql" =
      .ok (dumps.map (Migration.path "")) ∧
    (dumps.map Migration.number).Nodup ∧
    ∃ listed : List Migration, listed.Perm dumps ∧
      expandPaths (emptyFiles ["1_to_2.sql", "2_to_30.sql", "30_to_31.sql"]) [some "*.sql"] =
        .ok (listed.map fun d => some (d.path "")) ∧
      listed.Pairwise fun d e => d.number < e.number := by
  intro dumps
  have hmatched : Glob.matched (emptyFiles ["1_to_2.sql", "2_to_30.sql", "30_to_31.sql"]) "*.sql" =
      .ok (dumps.map (Migration.path "")) := by
    rw [matched_emptyFiles comparesNames_sql (by decide),
      show dumps.map (Migration.path "") = ["1_to_2.sql", "2_to_30.sql", "30_to_31.sql"] by decide]
    simp [Glob.matchesName, Glob.matchesSuffix]
  have hdistinct : (dumps.map Migration.number).Nodup := by decide
  obtain ⟨listed, hperm, hlisted, hascending⟩ :=
    expandPaths_ascending_iff (by decide) hmatched hdistinct
  exact ⟨by decide, hmatched, hdistinct, listed, hperm, hlisted, hascending.mpr (by decide)⟩

/-- The dump of the tenth version stands before that of the ninth. -/
theorem expandPaths_ascending_tenth :
    let dumps : List Migration := [⟨10, "11"⟩, ⟨9, "10"⟩]
    let found := expandPaths (emptyFiles ["10_to_11.sql", "9_to_10.sql"]) [some "*.sql"]
    dumps.map Migration.name = ["10_to_11.sql", "9_to_10.sql"] ∧
      found = .ok [some "10_to_11.sql", some "9_to_10.sql"] ∧
      found ≠ .ok [some "9_to_10.sql", some "10_to_11.sql"] := by
  have hmatched : Glob.matched (emptyFiles ["10_to_11.sql", "9_to_10.sql"]) "*.sql" =
      .ok ["10_to_11.sql", "9_to_10.sql"] := by
    rw [matched_emptyFiles comparesNames_sql (by decide)]
    simp [Glob.matchesName, Glob.matchesSuffix]
  have hsorted : ["10_to_11.sql", "9_to_10.sql"].mergeSort (· ≤ ·) =
      ["10_to_11.sql", "9_to_10.sql"] := List.mergeSort_of_pairwise (by decide)
  have hfound : expandPaths (emptyFiles ["10_to_11.sql", "9_to_10.sql"]) [some "*.sql"] =
      .ok [some "10_to_11.sql", some "9_to_10.sql"] := by
    rw [expandPaths_pattern (by decide) hmatched, hsorted]
    rfl
  intro dumps found
  refine ⟨by decide, hfound, ?_⟩
  rw [show found = _ from hfound]
  decide

end Runbook.Psql
