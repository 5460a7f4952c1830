import Runbook.Proofs.Psql.Lineage
import Runbook.Psql.Session

/-!
# Chains of merged databases

Merging takes each part of a database from the first of two that has it. Over a chain of databases
that is the first of them all that has the part (`firstSet`), however the merges are put in brackets
(`Merging.database_result`). What a merge gives is a new database, so no slot of the chain passes
its connection on, and the connection of the result is made from the parts that it has now
(`Merging.result_merge`).
-/

namespace Runbook.Psql

namespace Database

/-! ### Two databases -/

theorem merge_assoc (a b c : Database) : (a.merge b).merge c = a.merge (b.merge c) := by
  simp only [merge, Option.orElse_eq_orElse, Option.orElse_eq_or, Option.or_assoc]

theorem merge_self (d : Database) : d.merge d = d := by
  simp only [merge, Option.orElse_eq_orElse, Option.orElse_eq_or, Option.or_self]

theorem unset_merge (d : Database) : unset.merge d = d := rfl

theorem merge_unset (d : Database) : d.merge unset = d := by
  simp only [merge, unset, Option.orElse_eq_orElse, Option.orElse_eq_or, Option.or_none]

/-- Each part from the first database that has it. -/
def firstSet (ds : List Database) : Database :=
  ⟨ds.findSome? name, ds.findSome? user, ds.findSome? password, ds.findSome? host,
    ds.findSome? port⟩

theorem firstSet_singleton (d : Database) : firstSet [d] = d := by
  simp [firstSet]

/-- Two chains one behind the other are merged as two databases are. -/
theorem firstSet_append (ds es : List Database) :
    firstSet (ds ++ es) = (firstSet ds).merge (firstSet es) := by
  simp only [firstSet, merge, List.findSome?_append, Option.orElse_eq_orElse, Option.orElse_eq_or]

end Database

/-! ### Slots -/

namespace Slot

/-- Fills what is not set from another slot. -/
def merge (s other : Slot) : Slot := fresh (s.database.merge other.database)

/-- A fresh slot makes its connection from its database when it is asked for the first time. -/
theorem connect_fresh (d : Database) :
    (fresh d).connect = d.uri.map fun uri => (uri, ⟨d, some uri⟩) :=
  connect_eq (fresh d)

end Slot

/-! ### Chains -/

/-- A way to merge a chain of slots: which merge is done first. -/
inductive Merging where
  /-- A slot by itself. -/
  | slot (s : Slot)
  /-- Two parts of a chain, each merged by itself, and then both. -/
  | merge (front back : Merging)

namespace Merging

/-- The chain of slots, in order. -/
def slots : Merging → List Slot
  | slot s => [s]
  | merge front back => slots front ++ slots back

/-- What the chain is merged to. -/
def result : Merging → Slot
  | slot s => s
  | merge front back => (result front).merge (result back)

/-- The databases of the chain. -/
def databases (m : Merging) : List Database := m.slots.map Slot.database

/-- The brackets do not matter. -/
theorem database_result (m : Merging) :
    m.result.database = .firstSet m.databases := by
  induction m with
  | slot s => exact (Database.firstSet_singleton s.database).symm
  | merge front back ihfront ihback =>
    rw [databases, slots, List.map_append, Database.firstSet_append]
    show front.result.database.merge back.result.database = _
    rw [ihfront, ihback]
    rfl

/-- What is merged is fresh. -/
theorem result_merge (front back : Merging) :
    (merge front back).result = .fresh (.firstSet (front.databases ++ back.databases)) := by
  rw [Database.firstSet_append, ← database_result, ← database_result]
  rfl

end Merging

open Session in
/-- **Merging takes each part from the first database of a chain that has it**, whatever the
brackets are, and so it is associative and idempotent, and what has no part set changes nothing on
either side. No connection that was kept gets into the result: the connection of the result is made
from the parts that were merged, also when a session merges two of its slots at any time. -/
theorem merge_first_set :
    (∀ m : Merging, m.result.database = .firstSet m.databases) ∧
    (∀ a b c : Database, (a.merge b).merge c = a.merge (b.merge c)) ∧
    (∀ d : Database, d.merge d = d ∧ Database.unset.merge d = d ∧ d.merge .unset = d) ∧
    (∀ front back : Merging, (Merging.merge front back).result.handle = none ∧
      (Merging.merge front back).result.connect =
        (Database.firstSet (front.databases ++ back.databases)).uri.map fun uri =>
          (uri, ⟨.firstSet (front.databases ++ back.databases), some uri⟩)) ∧
    ∀ (past : List Turn) (name other : String),
      (after (⟨name, .merge other⟩ :: past)).slot name =
          ((after past).slot name).merge ((after past).slot other) ∧
        (after (⟨name, .merge other⟩ :: past)).answer ⟨name, .uri⟩ =
          (Database.firstSet [((after past).slot name).database,
            ((after past).slot other).database]).uri.map .text := by
  refine ⟨Merging.database_result, Database.merge_assoc,
    fun d => ⟨d.merge_self, d.unset_merge, d.merge_unset⟩, fun front back => ?_,
    fun past name other => ?_⟩
  · rw [Merging.result_merge]
    exact ⟨rfl, Slot.connect_fresh _⟩
  · have hslot : (after (⟨name, .merge other⟩ :: past)).slot name =
        ((after past).slot name).merge ((after past).slot other) := by
      rw [after, slot_next, if_pos rfl]
      rfl
    refine ⟨hslot, ?_⟩
    rw [answer_uri, hslot, ← List.singleton_append, Database.firstSet_append,
      Database.firstSet_singleton, Database.firstSet_singleton]
    rfl

end Runbook.Psql
