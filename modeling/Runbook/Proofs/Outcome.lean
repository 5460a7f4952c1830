import Mathlib.Data.List.Forall2

/-!
# Outcomes that are no errors

A computation that stops at the first error, or at the first part without a result, succeeds exactly
if all its parts do. The lemmas take such a computation apart, and put it together again, at its
steps. What is wrong with each part can be listed without running anything, and the error is then
the first that is listed (`StopsAt`).
-/

namespace Runbook

variable {ε α β γ : Type}

theorem bind_eq_ok_iff {x : Except ε α} {f : α → Except ε β} {b : β} :
    x >>= f = .ok b ↔ ∃ a, x = .ok a ∧ f a = .ok b := by
  cases x <;> simp [bind, Except.bind]

theorem mapM_eq_ok_iff {f : α → Except ε β} {xs : List α} {ys : List β} :
    xs.mapM f = .ok ys ↔ List.Forall₂ (fun x y => f x = .ok y) xs ys := by
  induction xs generalizing ys with
  | nil => cases ys <;> simp [pure, Except.pure]
  | cons x xs ih =>
    rw [List.mapM_cons]
    simp only [bind_eq_ok_iff, ih]
    constructor
    · rintro ⟨y, hy, rest, hrest, hys⟩
      cases hys
      exact .cons hy hrest
    · intro h
      cases h with
      | cons hy hrest => exact ⟨_, hy, _, hrest, rfl⟩

theorem map_eq_ok_iff {x : Except ε α} {f : α → β} {b : β} :
    x.map f = .ok b ↔ ∃ a, x = .ok a ∧ f a = b := by
  cases x <;> simp [Except.map]

theorem mapM_eq_some_iff {f : α → Option β} {xs : List α} {ys : List β} :
    xs.mapM f = some ys ↔ List.Forall₂ (fun x y => f x = some y) xs ys := by
  induction xs generalizing ys with
  | nil => cases ys <;> simp
  | cons x xs ih =>
    rw [List.mapM_cons]
    simp only [Option.bind_eq_bind, Option.bind_eq_some_iff, ih]
    constructor
    · rintro ⟨y, hy, rest, hrest, hys⟩
      cases hys
      exact .cons hy hrest
    · intro h
      cases h with
      | cons hy hrest => exact ⟨_, hy, _, hrest, rfl⟩

/-! ### The first fault -/

/-- The computation ends in the first of the faults; where there is none, it has a result. -/
def StopsAt (x : Except ε α) : List ε → Prop
  | [] => ∃ a, x = .ok a
  | e :: _ => x = .error e

/-- The error of a computation, if it has one. -/
def faultOf : Except ε α → List ε
  | .ok _ => []
  | .error e => [e]

namespace StopsAt

variable {x : Except ε α} {f : α → Except ε β} {faults more : List ε}

theorem self (x : Except ε α) : StopsAt x (faultOf x) := by
  cases x with
  | ok a => exact ⟨a, rfl⟩
  | error e => rfl

theorem ok (a : α) : StopsAt (.ok a : Except ε α) [] := ⟨a, rfl⟩

theorem exists_eq_ok_iff (h : StopsAt x faults) : (∃ a, x = .ok a) ↔ faults = [] := by
  cases faults with
  | nil => exact iff_of_true h rfl
  | cons e faults =>
    refine iff_of_false ?_ (List.cons_ne_nil e faults)
    rintro ⟨a, ha⟩
    rw [show x = .error e from h] at ha
    cases ha

theorem eq_error_iff (h : StopsAt x faults) {e : ε} :
    x = .error e ↔ faults.head? = some e := by
  cases faults with
  | nil =>
    obtain ⟨a, rfl⟩ := h
    simp
  | cons d faults =>
    rw [show x = .error d from h]
    simp

/-- What follows a computation is looked at only if that has a result. -/
theorem bind (hx : StopsAt x faults) (hf : ∀ a, x = .ok a → StopsAt (f a) more) :
    StopsAt (x >>= f) (faults ++ more) := by
  cases faults with
  | nil =>
    obtain ⟨a, rfl⟩ := hx
    exact hf a rfl
  | cons e faults =>
    rw [show x = .error e from hx]
    rfl

theorem map (hx : StopsAt x faults) (g : α → β) : StopsAt (x.map g) faults := by
  cases faults with
  | nil =>
    obtain ⟨a, rfl⟩ := hx
    exact ⟨g a, rfl⟩
  | cons e faults =>
    rw [show x = .error e from hx]
    rfl

/-- A list is gone through item by item, up to the first fault of an item. -/
theorem mapM {faults : α → List ε} {xs : List α} (h : ∀ x ∈ xs, StopsAt (f x) (faults x)) :
    StopsAt (xs.mapM f) (xs.flatMap faults) := by
  induction xs with
  | nil => exact ⟨[], rfl⟩
  | cons x xs ih =>
    have hx := h x List.mem_cons_self
    have hxs := ih fun y hy => h y (List.mem_cons_of_mem x hy)
    rw [List.mapM_cons, List.flatMap_cons]
    refine hx.bind fun y _ => ?_
    rw [← List.append_nil (xs.flatMap faults)]
    exact hxs.bind fun ys _ => StopsAt.ok (y :: ys)

end StopsAt

/-! ### Lists of results -/

/-- What stands in a list of results came from something in the list of the sources. -/
theorem exists_left_of_mem {R : α → β → Prop} {xs : List α} {ys : List β}
    (h : List.Forall₂ R xs ys) {y : β} (hy : y ∈ ys) : ∃ x ∈ xs, R x y := by
  induction h with
  | nil => cases hy
  | cons hxy _ ih =>
    obtain rfl | hy := List.mem_cons.mp hy
    · exact ⟨_, List.mem_cons_self, hxy⟩
    · obtain ⟨x, hx, hxy⟩ := ih hy
      exact ⟨x, List.mem_cons_of_mem _ hx, hxy⟩

/-- Two steps for a list are two steps for each thing in it. -/
theorem exists_forall₂_and_iff {R : α → β → Prop} {S : β → γ → Prop} {xs : List α}
    {zs : List γ} : (∃ ys, List.Forall₂ R xs ys ∧ List.Forall₂ S ys zs) ↔
      List.Forall₂ (fun x z => ∃ y, R x y ∧ S y z) xs zs := by
  constructor
  · rintro ⟨ys, hR, hS⟩
    induction hR generalizing zs with
    | nil =>
      cases hS
      exact .nil
    | cons hxy _ ih =>
      cases hS with
      | cons hyz hrest => exact .cons ⟨_, hxy, hyz⟩ (ih hrest)
  · intro h
    induction h with
    | nil => exact ⟨[], .nil, .nil⟩
    | cons hxz _ ih =>
      obtain ⟨y, hxy, hyz⟩ := hxz
      obtain ⟨ys, hR, hS⟩ := ih
      exact ⟨y :: ys, .cons hxy hR, .cons hyz hS⟩

end Runbook
