import Mathlib.Data.List.Basic
import Runbook.Glob.Expand
import Runbook.Proofs.Outcome

/-!
# What a pattern finds

A path with wildcards is a pattern if it can be read, as a whole and component by component
(`IsPattern`); which files there are has nothing to do with it. A pattern always finds something,
if only the empty list (`stopsAt_expand`), and what it finds are the paths that it meets
(`matched`), in ascending order (`expand_eq_map_matched`). A pattern for names alone meets the
entries of the working directory whose names it matches (`ComparesNames.matched_eq`). A listing is
gone through entry by entry up to the first that is no pattern (`stopsAt_expandAll`).
-/

namespace Runbook.Glob

variable {tree : FileTree}

/-! ### Patterns -/

/-- The components that a pattern is followed through. -/
def parts (pattern : String) : List String :=
  components (if pattern.startsWith "/" then String.ofList (pattern.toList.dropWhile (· = '/'))
    else pattern)

/-- The path can be read as a pattern. -/
def IsPattern (path : String) : Prop :=
  (∃ ts, parse path = .ok ts) ∧ ∀ part ∈ parts path, ∃ ts, parse part = .ok ts

/-- What keeps a path from being a pattern: the whole path is read first, then each component. -/
def patternFaults (path : String) : List PatternError :=
  faultOf (parse path) ++ (parts path).flatMap fun part => faultOf (parse part)

theorem patternFaults_eq_nil_iff {path : String} : patternFaults path = [] ↔ IsPattern path := by
  simp only [patternFaults, IsPattern, List.append_eq_nil_iff, List.flatMap_eq_nil_iff,
    (StopsAt.self _).exists_eq_ok_iff]

/-- Whether a pattern is followed at all depends on the pattern alone. -/
theorem stopsAt_expand (tree : FileTree) (path : String) :
    StopsAt (expand tree path) (patternFaults path) := by
  unfold expand patternFaults
  refine (StopsAt.self _).bind fun _ _ => ?_
  rw [← List.append_nil (List.flatMap _ _)]
  exact (StopsAt.mapM fun _ _ => .self _).bind fun _ _ => .ok _

/-- The paths that match a pattern, as they are met. -/
def matched (tree : FileTree) (pattern : String) : Except PatternError (List String) := do
  let _ ← parse pattern
  let parsed ← (parts pattern).mapM parse
  let fuel := 3 * (parsed.length + 1) * (tree.nodes.length + 2)
  let root := if pattern.startsWith "/" then "/" else "."
  return below ⟨tree, pattern.endsWith "/"⟩ fuel parsed root

theorem expand_eq_map_matched (tree : FileTree) (pattern : String) :
    expand tree pattern = (matched tree pattern).map (·.mergeSort (· ≤ ·)) := by
  unfold expand matched parts
  cases parse pattern with
  | error e => rfl
  | ok ts =>
    simp only [bind, Except.bind]
    generalize List.mapM parse _ = parsed
    cases parsed <;> rfl

/-- What a pattern meets in ascending order is what it finds. -/
theorem expand_of_matched {pattern : String} {found : List String}
    (h : matched tree pattern = .ok found) (hsorted : found.Pairwise (· ≤ ·)) :
    expand tree pattern = .ok found := by
  rw [expand_eq_map_matched, h]
  exact congrArg _ (List.mergeSort_of_pairwise (hsorted.imp decide_eq_true))

/-- Texts that are sorted are in ascending order. -/
theorem pairwise_mergeSort_texts (texts : List String) :
    (texts.mergeSort (· ≤ ·)).Pairwise (· ≤ ·) := by
  have htrans : ∀ a b c : String, decide (a ≤ b) = true → decide (b ≤ c) = true →
      decide (a ≤ c) = true := fun a b c hab hbc =>
    decide_eq_true (String.le_trans (of_decide_eq_true hab) (of_decide_eq_true hbc))
  have htotal : ∀ a b : String, (decide (a ≤ b) || decide (b ≤ a)) = true := fun a b => by
    simpa using String.le_total a b
  exact (List.pairwise_mergeSort htrans htotal texts).imp of_decide_eq_true

/-! ### Names of the working directory -/

/-- The working directory goes by the name of a dot. -/
theorem locate?_dot (hhere : tree.at? tree.here = some .directory) :
    tree.locate? "." = some tree.here := by
  have hsplit : Text.splitAt '/' "." = ["."] := by decide +kernel
  have hstart : ".".startsWith "/" = false := by decide +kernel
  rw [FileTree.locate?, if_neg (by decide), hsplit, hstart]
  simp [FileTree.follow?, hhere]

/-- The entries of the working directory go by their bare names. -/
theorem entryPath_dot (name : String) : entryPath "." name = name := if_pos (by decide +kernel)

/-- The pattern is a single component, one that is compared with the names of a directory. -/
structure ComparesNames (pattern : String) (ts : List Token) : Prop where
  /-- It is followed from the working directory on. -/
  start : pattern.startsWith "/" = false
  /-- Files count as well as directories. -/
  stop : pattern.endsWith "/" = false
  parts : components pattern = [pattern]
  parse : parse pattern = .ok ts
  /-- It is not looked up as a name. -/
  wild : literal? ts = none
  /-- It does not lead into directories. -/
  flat : .anyDirectories ∉ ts
  /-- It is not compared with `.` and `..`. -/
  dots : ts.head? ≠ some (.char '.')

/-- Such a pattern meets the entries of the working directory whose names it matches. -/
theorem ComparesNames.matched_eq {pattern : String} {ts : List Token}
    (h : ComparesNames pattern ts) (hhere : tree.at? tree.here = some .directory) :
    matched tree pattern =
      .ok ((tree.children tree.here).filter fun name => matchesName ts name.toList) := by
  have hlocate := locate?_dot hhere
  have hdir : tree.isDirectory "." = true := by
    simp [FileTree.isDirectory, FileTree.node?, hlocate, hhere]
  have hflat : Component.isRecursive ts = false := by
    simpa [Component.isRecursive] using h.flat
  have hentry : ∀ fuel name, entry ⟨tree, false⟩ (fuel + 2) [ts] name name =
      ((Option.guard fun n : String => matchesName ts n.toList) name).toList := by
    intro fuel name
    by_cases hmatch : matchesName ts name.toList = true <;>
      simp [entry, collapse, named, Search.accepts, Option.guard, hflat, hmatch]
  have hbelow : ∀ fuel, below ⟨tree, false⟩ (fuel + 3) [ts] "." =
      (tree.children tree.here).filter fun name => matchesName ts name.toList := by
    intro fuel
    simp only [below, h.wild, hdir, if_true, if_neg h.dots, Search.names, hlocate, entryPath_dot,
      hentry, List.flatMap_nil, List.append_nil]
    rw [← List.filterMap_eq_flatMap_toList, List.filterMap_eq_filter]
  simp only [matched, Glob.parts, h.start, h.stop, h.parts, h.parse, List.mapM_cons, List.mapM_nil,
    bind, Except.bind, pure, Except.pure, Bool.false_eq_true, if_false, List.length_singleton]
  rw [← hbelow (6 * tree.nodes.length + 9)]
  rfl

/-! ### Listings -/

/-- What is wrong with an entry of a listing: only a path with wildcards has to be a pattern. -/
def entryFaults : Option String → List PatternError
  | some path => if hasWildcard path then patternFaults path else []
  | none => []

theorem entryFaults_eq_nil_iff {entry : Option String} : entryFaults entry = [] ↔
    ∀ path, entry = some path → hasWildcard path = true → IsPattern path := by
  cases entry with
  | none => simp [entryFaults]
  | some path =>
    cases hwild : hasWildcard path <;> simp [entryFaults, hwild, patternFaults_eq_nil_iff]

/-- A listing is expanded up to the first entry that is no pattern. -/
theorem stopsAt_expandAll (tree : FileTree) (paths : List (Option String)) :
    StopsAt (expandAll tree paths) (paths.flatMap entryFaults) := by
  induction paths with
  | nil => exact .ok []
  | cons entry paths ih =>
    rw [List.flatMap_cons]
    rcases entry with _ | path
    · rw [expandAll]
      exact ih.map _
    · rw [expandAll, entryFaults]
      by_cases hwild : hasWildcard path = true
      · rw [if_pos hwild, if_pos hwild]
        refine (stopsAt_expand tree path).bind fun found _ => ?_
        rw [← List.append_nil (List.flatMap _ _)]
        exact ih.bind fun _ _ => .ok _
      · rw [if_neg hwild, if_neg hwild]
        exact ih.map _

end Runbook.Glob
