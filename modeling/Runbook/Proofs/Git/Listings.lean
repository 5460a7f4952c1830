import Runbook.Git.Command
import Runbook.Proofs.Definition.Fields
import Runbook.Proofs.Definition.Resolution

/-!
# Listings of subcommands that name their pairs

In a listing of subcommands the name of a preset may stand for any pair but the first. How the
values are read is decided by the first of them: if it is a list, each value is a pair of its own,
and what a pair resolves to is all that is read of it, so that its name does as well
(`Subcommand.ofValue_abbreviated`). If it is no list, the values are one pair. A name in the first
place is then the subcommand of that pair, and a name has no text (`Subcommand.listing_of_ref`).
-/

namespace Runbook

namespace Registry

/-- The second value is the first one or the name of a preset that stands for it. -/
inductive Abbreviates (r : Registry) : Value → Value → Prop where
  /-- The value itself. -/
  | same (v : Value) : Abbreviates r v v
  /-- A name of the value, which is no name. -/
  | name {v : Value} {name : String} (hv : ∀ n, v ≠ .ref n) (hname : r.Names name v) :
      Abbreviates r v (.ref name)

variable {r : Registry}

theorem Abbreviates.resolve_eq {v w : Value} (h : r.Abbreviates v w) :
    r.resolve w = r.resolve v := by
  cases h with
  | same => rfl
  | name hv hname => rw [hname.resolve_eq, resolve_of_not_ref hv]

/-- A list is abbreviated by itself or by a name. -/
theorem Abbreviates.eq_list_or {vs : List Value} {w : Value} (h : r.Abbreviates (.list vs) w) :
    w = .list vs ∨ ∃ name, w = .ref name := by
  cases h with
  | same => exact .inl rfl
  | name => exact .inr ⟨_, rfl⟩

end Registry

namespace Git.Subcommand

variable {r : Registry} {files : FileTree} {d d' v w : Value}

/-- Only what a pair resolves to is read. -/
theorem ofValue_abbreviated (h : r.Abbreviates v w) :
    ofValue (r.scope files) v = ofValue (r.scope files) w := by
  have hresolve : (r.scope files).resolve v = (r.scope files).resolve w := h.resolve_eq.symm
  unfold ofValue
  rw [Fields.ofValue_eq hresolve]

/-- The pairs of a listing are read one by one. -/
theorem listing_of_list {first rest : List Value} (h : r.resolve d = .list first :: rest)
    (files : FileTree) :
    listing (r.scope files) d = (r.resolve d).mapM (ofValue (r.scope files)) := by
  have hscope : (r.scope files).resolve d = .list first :: rest := h
  unfold listing
  rw [hscope, h]

/-- A name in the first place has no text that could be a subcommand. -/
theorem listing_of_ref {name : String} {rest : List Value}
    (h : r.resolve d = .ref name :: rest) (files : FileTree) :
    listing (r.scope files) d =
      .error (.invalidField subcommandNoun "subcommand" (":" ++ name)) := by
  have hscope : (r.scope files).resolve d = .ref name :: rest := h
  have hpair : (r.scope files).resolve (.list (.ref name :: rest)) = .ref name :: rest :=
    r.resolve_list _
  unfold listing
  rw [hscope]
  simp only [ofValue, Fields.ofValue, hpair]
  rfl

/-- **A listing may name any of its pairs but the first.** The listing with names is read as the one
without them exactly if its first pair is still there; a name in its place is an error. -/
theorem listing_abbreviated_iff {first rest : List Value} {subcommands : List Subcommand}
    (hpairs : r.resolve d = .list first :: rest)
    (hread : listing (r.scope files) d = .ok subcommands)
    (hnames : List.Forall₂ r.Abbreviates (r.resolve d) (r.resolve d')) :
    (listing (r.scope files) d' = .ok subcommands ↔
      (r.resolve d').head? = some (.list first)) ∧
    ∀ name, (r.resolve d').head? = some (.ref name) → listing (r.scope files) d' =
      .error (.invalidField subcommandNoun "subcommand" (":" ++ name)) := by
  obtain ⟨w, rest', hw, -, hd'⟩ := List.forall₂_cons_left_iff.mp (hpairs ▸ hnames)
  rw [hd', List.head?_cons]
  obtain rfl | ⟨name, rfl⟩ := hw.eq_list_or
  · -- the first pair is still there, so each value is a pair
    have hsame : listing (r.scope files) d' = .ok subcommands := by
      rw [listing_of_list hpairs, mapM_eq_ok_iff] at hread
      rw [listing_of_list hd', mapM_eq_ok_iff]
      have hpairwise := exists_forall₂_and_iff.mp ⟨r.resolve d, hnames.flip, hread⟩
      exact hpairwise.imp fun y c ⟨x, hyx, hx⟩ => (ofValue_abbreviated hyx).symm.trans hx
    refine ⟨iff_of_true hsame rfl, fun name hname => ?_⟩
    cases hname
  · have herror := listing_of_ref hd' files
    refine ⟨iff_of_false ?_ ?_, fun n hn => ?_⟩
    · intro hok
      rw [herror] at hok
      cases hok
    · intro hfirst
      cases hfirst
    · cases hn
      exact herror

/-- A registry in which two pairs have names. -/
def shortcuts : Registry :=
  (Registry.empty.define "last" (.list [.str "log", .str "-1"])).define "summary"
    (.list [.str "shortlog"])

theorem shortcuts_names :
    shortcuts.Names "last" (.list [.str "log", .str "-1"]) ∧
      shortcuts.Names "summary" (.list [.str "shortlog"]) := by
  constructor
  · exact ⟨rfl, _, by simp [shortcuts, Registry.define, Registry.produce], .fixed _⟩
  · exact ⟨rfl, _, by simp [shortcuts, Registry.define, Registry.produce], .fixed _⟩

theorem listing_shortcuts (files : FileTree) :
    listing (shortcuts.scope files)
        (.list [.list [.str "log", .str "-1"], .list [.str "shortlog"]]) =
      .ok [⟨"log", "-1"⟩, ⟨"shortlog", ""⟩] := rfl

/-- The second pair by its name. -/
theorem listing_abbreviated_second :
    listing (shortcuts.scope ⟨[], []⟩) (.list [.list [.str "log", .str "-1"], .ref "summary"]) =
      .ok [⟨"log", "-1"⟩, ⟨"shortlog", ""⟩] := by
  have hnames : List.Forall₂ shortcuts.Abbreviates
      (shortcuts.resolve (.list [.list [.str "log", .str "-1"], .list [.str "shortlog"]]))
      (shortcuts.resolve (.list [.list [.str "log", .str "-1"], .ref "summary"])) := by
    rw [Registry.resolve_list, Registry.resolve_list]
    exact .cons (.same _) (.cons (.name (by simp) shortcuts_names.2) .nil)
  have hfirst : (shortcuts.resolve
      (.list [.list [.str "log", .str "-1"], .ref "summary"])).head? =
        some (.list [.str "log", .str "-1"]) := by
    rw [Registry.resolve_list]
    rfl
  exact (listing_abbreviated_iff (Registry.resolve_list _) (listing_shortcuts ⟨[], []⟩)
    hnames).1.mpr hfirst

/-- The first pair by its name. -/
theorem listing_first_refused :
    shortcuts.Names "last" (.list [.str "log", .str "-1"]) ∧
      listing (shortcuts.scope ⟨[], []⟩)
          (.list [.list [.str "log", .str "-1"], .list [.str "shortlog"]]) =
        .ok [⟨"log", "-1"⟩, ⟨"shortlog", ""⟩] ∧
      listing (shortcuts.scope ⟨[], []⟩) (.list [.ref "last", .list [.str "shortlog"]]) =
        .error (.invalidField "git_command" "subcommand" ":last") := by
  refine ⟨shortcuts_names.1, listing_shortcuts ⟨[], []⟩, ?_⟩
  exact listing_of_ref (shortcuts.resolve_list _) ⟨[], []⟩

end Git.Subcommand

end Runbook
