import Runbook.Contexts.Template
import Runbook.Proofs.Grid
import Mathlib.Algebra.BigOperators.Ring.List
import Mathlib.Data.List.Induction
import Mathlib.Tactic.Ring

/-!
# The combinations of a template

A template that is built key by key holds each key once, where it was first used, with the
candidates that it was given last (`Template.keys_ofCalls`, `Template.lookup_ofCalls`). Its contexts
are numbered in a mixed radix: the digit of a key counts its candidates, and the last key has the
lowest digit (`Template.getElem?_combinations`). So a number below the product of the candidate
counts chooses one candidate for each key, and every choice has its number.

Derived candidates are computed in a second pass, out of the plain candidates that were chosen with
them (`Template.substitute_zip`).
-/

namespace Runbook.Contexts

namespace Template

/-! ### Building -/

/-- The template that keys and their candidates give one after another. -/
def ofCalls (calls : List (String × List Candidate)) : Template :=
  calls.foldl (fun t call => t.set call.1 call.2) []

theorem ofCalls_concat (calls : List (String × List Candidate)) (call : String × List Candidate) :
    ofCalls (calls ++ [call]) = (ofCalls calls).set call.1 call.2 :=
  List.foldl_concat ..

theorem keys_cons (e : String × List Candidate) (t : Template) :
    keys (e :: t) = e.1 :: keys t := rfl

theorem keys_set (t : Template) (key : String) (candidates : List Candidate) :
    (t.set key candidates).keys = if key ∈ t.keys then t.keys else t.keys ++ [key] := by
  induction t with
  | nil => rfl
  | cons e rest ih =>
    obtain ⟨k, cs⟩ := e
    by_cases h : k = key
    · simp [set, keys_cons, h]
    · have hmem : key ∈ keys ((k, cs) :: rest) ↔ key ∈ keys rest := by
        rw [keys_cons, List.mem_cons, or_iff_right (Ne.symm h)]
      rw [set, if_neg h, keys_cons, ih, apply_ite (k :: ·)]
      simp only [hmem]
      rfl

theorem lookup_cons_eq (k : String) (e : String × List Candidate) (t : Template) :
    (e :: t).lookup k = if k = e.1 then some e.2 else t.lookup k := by
  rw [List.lookup_cons]
  by_cases h : k = e.1
  · simp [h]
  · rw [if_neg h, beq_eq_false_iff_ne.mpr h]

theorem lookup_set (t : Template) (key : String) (candidates : List Candidate) (k : String) :
    (t.set key candidates).lookup k = if k = key then some candidates else t.lookup k := by
  induction t with
  | nil => by_cases h : k = key <;> simp [set, lookup_cons_eq, h]
  | cons e rest ih =>
    obtain ⟨k', cs⟩ := e
    by_cases h : k' = key
    · subst h
      by_cases hk : k = k' <;> simp [set, lookup_cons_eq, hk]
    · by_cases hk : k = k'
      · subst hk
        simp [set, h]
      · simp [set, lookup_cons_eq, h, hk, ih]

/-- Each key stands once, in the order of first use. -/
theorem keys_ofCalls (calls : List (String × List Candidate)) :
    (ofCalls calls).keys = (calls.map (·.1)).eraseDups := by
  induction calls using List.reverseRecOn with
  | nil => rfl
  | append_singleton calls call ih =>
    rw [ofCalls_concat, keys_set, ih, List.map_append, List.map_singleton, List.eraseDups_append]
    by_cases h : call.1 ∈ calls.map (·.1)
    · have hold : [call.1].removeAll (calls.map (·.1)) = [] := by
        simpa [List.removeAll] using h
      rw [if_pos (List.mem_eraseDups.mpr h), hold, List.eraseDups_nil, List.append_nil]
    · have hnew : [call.1].removeAll (calls.map (·.1)) = [call.1] := by
        simpa [List.removeAll] using h
      rw [if_neg (mt List.mem_eraseDups.mp h), hnew]
      rfl

/-- A key has the candidates that it was given last. -/
theorem lookup_ofCalls (calls : List (String × List Candidate)) (key : String) :
    (ofCalls calls).lookup key = calls.reverse.lookup key := by
  induction calls using List.reverseRecOn with
  | nil => rfl
  | append_singleton calls call ih =>
    rw [ofCalls_concat, lookup_set, ih, List.reverse_append]
    exact (lookup_cons_eq key call calls.reverse).symm

/-! ### Numbering -/

/-- The number of contexts. -/
def count (t : Template) : Nat := (t.map fun e => e.2.length).prod

/-- What one step of the digit of the key at a place adds to the number of a context. -/
def weight (t : Template) (i : Nat) : Nat := count (t.drop (i + 1))

theorem length_combinations (t : Template) : t.combinations.length = t.count := by
  induction t with
  | nil => rfl
  | cons e rest ih =>
    obtain ⟨key, candidates⟩ := e
    rw [combinations, length_grid fun c combination => (key, c) :: combination, ih, count, count,
      List.map_cons, List.prod_cons]

/-- The places at and before a key count what the places behind it leave over. -/
theorem exists_count_eq {t : Template} {i : Nat} {e : String × List Candidate}
    (h : t[i]? = some e) : ∃ k, t.count = t.weight i * (e.2.length * k) := by
  induction t generalizing i with
  | nil => simp at h
  | cons e' rest ih =>
    cases i with
    | zero =>
      cases h
      exact ⟨1, by simp [count, weight, Nat.mul_comm]⟩
    | succ i =>
      obtain ⟨k, hk⟩ := ih h
      refine ⟨k * e'.2.length, ?_⟩
      have hcount : count (e' :: rest) = e'.2.length * count rest := by simp [count]
      have hweight : weight (e' :: rest) (i + 1) = weight rest i := rfl
      rw [hcount, hweight, hk]
      ring

/-- The digit of a number at the place of a key is not changed by taking away multiples of the
number of contexts. -/
theorem mod_count_div_weight {t : Template} {i : Nat} {e : String × List Candidate}
    (h : t[i]? = some e) (n : Nat) :
    n % t.count / t.weight i % e.2.length = n / t.weight i % e.2.length := by
  obtain ⟨k, hk⟩ := exists_count_eq h
  rw [hk, Nat.mod_mul_right_div_self, Nat.mod_mul_right_mod]

/-- **A number chooses one candidate for each key**, by the digit of that key. -/
theorem getElem?_combinations {t : Template} {n : Nat} (hn : n < t.count) :
    ∃ chosen : List Candidate, chosen.length = t.length ∧
      (∀ i, chosen[i]? = t[i]?.bind fun e => e.2[n / t.weight i % e.2.length]?) ∧
      t.combinations[n]? = some (t.keys.zip chosen) := by
  induction t generalizing n with
  | nil =>
    have hzero : n = 0 := Nat.lt_one_iff.mp hn
    subst hzero
    exact ⟨[], rfl, fun i => rfl, rfl⟩
  | cons e rest ih =>
    obtain ⟨key, candidates⟩ := e
    have hn : n < candidates.length * count rest := by simpa [count] using hn
    have hpos : 0 < count rest := Nat.pos_of_mul_pos_left (Nat.zero_lt_of_lt hn)
    have hfirst : n / count rest < candidates.length := Nat.div_lt_of_lt_mul (by rwa [Nat.mul_comm])
    obtain ⟨chosen, hlength, hchosen, hrest⟩ := ih (Nat.mod_lt n hpos)
    refine ⟨candidates[n / count rest] :: chosen, by simp [hlength], fun i => ?_, ?_⟩
    · cases i with
      | zero =>
        have hweight : weight ((key, candidates) :: rest) 0 = count rest := rfl
        simp [hweight, Nat.mod_eq_of_lt hfirst, hfirst]
      | succ i =>
        rw [List.getElem?_cons_succ, List.getElem?_cons_succ, hchosen]
        have hweight : weight ((key, candidates) :: rest) (i + 1) = weight rest i := rfl
        rw [hweight]
        refine Option.bind_congr fun e he => ?_
        rw [mod_count_div_weight he]
    · rw [← length_combinations] at hpos
      have hentry := getElem?_grid_div_mod (fun c combination => (key, c) :: combination)
        candidates hpos n
      rw [length_combinations, hrest, List.getElem?_eq_getElem hfirst] at hentry
      exact hentry

end Template

/-! ### Substituting -/

/-- The value of a plain candidate. -/
def Candidate.plain? : Candidate → Option Json
  | .plain v => some v
  | .derived _ => none

/-- What a candidate stands for beside these plain values. -/
def Candidate.value (plain : Context) : Candidate → Json
  | .plain v => v
  | .derived produce => produce plain

/-- The plain values among the candidates chosen for keys, under their keys. -/
def plainValues (keys : List String) (chosen : List Candidate) : Context :=
  (keys.zip chosen).filterMap fun e => e.2.plain?.map fun v => (e.1, v)

/-- The keys with what the chosen candidates stand for. -/
def valuesOf (keys : List String) (chosen : List Candidate) : Context :=
  keys.zip (chosen.map (Candidate.value (plainValues keys chosen)))

namespace Template

theorem plainPart_zip (keys : List String) (chosen : List Candidate) :
    plainPart (keys.zip chosen) = plainValues keys chosen := by
  refine List.filterMap_congr fun e _ => ?_
  obtain ⟨key, c⟩ := e
  cases c <;> rfl

theorem substitute_zip (keys : List String) (chosen : List Candidate) :
    substitute (keys.zip chosen) = valuesOf keys chosen := by
  rw [substitute, valuesOf, List.zip_map_right, plainPart_zip]
  refine List.map_congr_left fun e _ => ?_
  obtain ⟨key, c⟩ := e
  cases c <;> rfl

theorem length_expand (t : Template) : t.expand.length = t.count := by
  rw [expand, List.length_map, length_combinations]

theorem expand_eq_nil_iff (t : Template) : t.expand = [] ↔ ∃ e ∈ t, e.2 = [] := by
  rw [← List.length_eq_zero_iff, length_expand, count, List.prod_eq_zero_iff]
  simp [List.length_eq_zero_iff]

end Template

/-! ### Objects -/

/-- The candidates of a list, nothing for another value. -/
def candidates? : Json → Option (List Candidate)
  | .arr items => some (items.map Candidate.ofJson)
  | _ => none

/-- The keys of an object with the candidates that they lead to. -/
def callsOf (members : List (String × Json)) : List (String × List Candidate) :=
  members.filterMap fun m => (candidates? m.2).map fun candidates => (m.1, candidates)

/-- The first member that leads to no list. -/
def stray? (members : List (String × Json)) : Option (String × Json) :=
  members.find? fun m => (candidates? m.2).isNone

/-- Members are read as calls up to the first one that leads to no list. -/
theorem Template.extend_eq (t : Template) (members : List (String × Json)) :
    t.extend members = match stray? members with
      | some m => .error (.notAList m.1)
      | none => .ok ((callsOf members).foldl (fun t call => t.set call.1 call.2) t) := by
  induction members generalizing t with
  | nil => rfl
  | cons m rest ih =>
    obtain ⟨key, j⟩ := m
    cases j with
    | arr items =>
      have hstray : stray? ((key, .arr items) :: rest) = stray? rest := rfl
      rw [extend, ih, hstray]
      rfl
    | null | bool | int | float | str | obj => rfl

/-- Of several objects, the first member of all that leads to no list is what is wrong. -/
theorem mapM_ofMembers_eq (objects : List (List (String × Json))) :
    objects.mapM Template.ofMembers = match stray? objects.flatten with
      | some m => .error (.notAList m.1)
      | none => .ok (objects.map fun members => Template.ofCalls (callsOf members)) := by
  induction objects with
  | nil => rfl
  | cons members rest ih =>
    have hstray : stray? (members :: rest).flatten =
        (stray? members).or (stray? rest.flatten) := by
      rw [List.flatten_cons, stray?, List.find?_append]
      rfl
    rw [List.mapM_cons, ih, hstray, Template.ofMembers, Template.extend_eq]
    cases stray? members with
    | some m => rfl
    | none => cases stray? rest.flatten <;> rfl

/-- **The contexts of a template are all combinations of its candidates, each once and in the order
of their numbers.** Keys are in the order of their first use and have the candidates given last;
templates follow one another, and objects are templates if all their members lead to lists. -/
theorem expand_enumerates (calls : List (String × List Candidate)) (templates : List Template)
    (objects : List (List (String × Json))) :
    let t := Template.ofCalls calls
    (t.keys = (calls.map (·.1)).eraseDups ∧ ∀ key, t.lookup key = calls.reverse.lookup key) ∧
    (t.expand.length = t.count ∧ (t.expand = [] ↔ ∃ e ∈ t, e.2 = []) ∧
      (calls = [] → t.expand = [[]])) ∧
    (∀ n < t.count, ∃ chosen : List Candidate, chosen.length = t.length ∧
      (∀ i, chosen[i]? = t[i]?.bind fun e => e.2[n / t.weight i % e.2.length]?) ∧
      t.expand[n]? = some (valuesOf t.keys chosen)) ∧
    expand templates = (templates.map Template.expand).flatten ∧
    expandMembers objects = match stray? objects.flatten with
      | some m => .error (.notAList m.1)
      | none => .ok (expand (objects.map fun members => Template.ofCalls (callsOf members))) := by
  intro t
  refine ⟨⟨Template.keys_ofCalls calls, Template.lookup_ofCalls calls⟩,
    ⟨Template.length_expand t, Template.expand_eq_nil_iff t, ?_⟩, fun n hn => ?_, rfl, ?_⟩
  · rintro rfl
    rfl
  · obtain ⟨chosen, hlength, hchosen, hentry⟩ := Template.getElem?_combinations hn
    refine ⟨chosen, hlength, hchosen, ?_⟩
    rw [Template.expand, List.getElem?_map, hentry, Option.map_some, Template.substitute_zip]
  · rw [expandMembers, mapM_ofMembers_eq]
    cases stray? objects.flatten <;> rfl

/-- The last context of a template whose first key was given candidates twice, and whose second key
counts the plain values. -/
theorem expand_enumerates_last :
    let counted : Candidate := .derived fun context => .int context.length
    let calls := [("x", []), ("y", [.plain .null, counted]),
      ("x", [.plain (.int 1), .plain (.int 2)])]
    3 < (Template.ofCalls calls).count ∧
      (Template.ofCalls calls).expand[3]? = some [("x", .int 2), ("y", .int 1)] := by
  intro counted calls
  have hcount : 3 < (Template.ofCalls calls).count := by decide
  obtain ⟨chosen, hlength, hchosen, hentry⟩ := (expand_enumerates calls [] []).2.2.1 3 hcount
  have hcalls : Template.ofCalls calls =
      [("x", [.plain (.int 1), .plain (.int 2)]), ("y", [.plain .null, counted])] := by
    simp [calls, Template.ofCalls, Template.set]
  rw [hcalls] at hlength hchosen hentry ⊢
  have hx : chosen[0]? = some (.plain (.int 2)) := by
    simpa [Template.weight, Template.count] using hchosen 0
  have hy : chosen[1]? = some counted := by
    simpa [Template.weight, Template.count] using hchosen 1
  obtain ⟨a, b, rfl⟩ := List.length_eq_two.mp hlength
  cases hx
  cases hy
  exact ⟨hcount, hentry⟩

end Runbook.Contexts
