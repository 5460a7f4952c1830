import Runbook.Git.Command
import Runbook.Proofs.Grid
import Runbook.Proofs.Shell.Line

/-!
# The command lines of Git commands

Subcommands on objects and operations on branches, read as a shell reads them. Names of objects,
branches and remotes come back as one word each, whatever characters are in them and also if there
are none. Subcommands and options stand in the line as they are written; here they are made of
characters that are safe in a word, with blanks between the words of the options.
-/

namespace Runbook.Git

open Shell (escape Line Scan)

/-- A subcommand that is one safe word, with options that are safe words between blanks. -/
structure Subcommand.Safe (s : Subcommand) : Prop where
  name_ne : s.name ≠ ""
  name_safe : ∀ c ∈ s.name.toList, Shell.isSafe c
  options_safe : ∀ c ∈ s.options.toList, Shell.isSafe c ∨ Scan.isBlank c

/-! ### Words -/

theorem read_safe {text : String} (hne : text ≠ "") (h : ∀ c ∈ text.toList, Shell.isSafe c) :
    Line.read text = some ⟨[text], []⟩ :=
  Line.read_plain hne fun c hc => Scan.isPlain_of_isSafe (h c hc)

theorem read_options {text : String} (h : ∀ c ∈ text.toList, Shell.isSafe c ∨ Scan.isBlank c) :
    Line.read text = some ⟨Line.split text, []⟩ :=
  Line.read_plain_blank fun c hc => (h c hc).imp Scan.isPlain_of_isSafe id

theorem escape_ne_empty (text : String) : escape text ≠ "" := by
  intro h
  have hread := Line.read_escape text
  rw [h, Line.read_empty] at hread
  cases hread

/-! ### Commands -/

theorem onObject_eq (s : Subcommand) (hname : s.name ≠ "") (id : String) : s.onObject id =
    ⟨"git", s.name :: ((if s.options = "" then [] else [s.options]) ++ [escape id])⟩ := by
  by_cases hoptions : s.options = "" <;>
    simp [Subcommand.onObject, Command.arg, Command.new, hname, hoptions, escape_ne_empty]

/-- A subcommand on an object: its own words, those of the options, and the object. -/
theorem Subcommand.Safe.read_onObject {s : Subcommand} (h : s.Safe) (id : String) :
    Line.read (s.onObject id).render =
      some ⟨"git" :: s.name :: (Line.split s.options ++ [id]), []⟩ := by
  have hgit : Line.read "git" = some ⟨["git"], []⟩ := by decide
  have hname := read_safe h.name_ne h.name_safe
  have hoptions := read_options h.options_safe
  have hid := Line.read_escape id
  rw [onObject_eq s h.name_ne]
  by_cases hempty : s.options = ""
  · have hsplit : Line.split s.options = [] := by
      rw [hempty]
      rfl
    rw [if_pos hempty, hsplit, List.nil_append,
      Line.read_render hgit (.cons hname (.cons hid .nil))]
    rfl
  · rw [if_neg hempty, List.singleton_append,
      Line.read_render hgit (.cons hname (.cons hoptions (.cons hid .nil)))]
    simp

theorem read_checkout (branch : String) :
    Line.read (((Command.new "git").arg "checkout").arg (escape branch)).render =
      some ⟨["git", "checkout", branch], []⟩ := by
  have hgit : Line.read "git" = some ⟨["git"], []⟩ := by decide
  have hcheckout : Line.read "checkout" = some ⟨["checkout"], []⟩ := by decide
  have hcommand : ((Command.new "git").arg "checkout").arg (escape branch) =
      ⟨"git", ["checkout", escape branch]⟩ := by
    simp [Command.arg, Command.new, escape_ne_empty]
  rw [hcommand, Line.read_render hgit (.cons hcheckout (.cons (Line.read_escape branch) .nil))]
  rfl

/-- An operation between a remote and a branch; an empty operation leaves no word behind. -/
theorem read_operation {operation : String} (h : ∀ c ∈ operation.toList, Shell.isSafe c)
    (remote branch : String) :
    Line.read ((((Command.new "git").arg operation).arg (escape remote)).arg
        (escape branch)).render =
      some ⟨"git" :: ((if operation = "" then [] else [operation]) ++ [remote, branch]), []⟩ := by
  have hgit : Line.read "git" = some ⟨["git"], []⟩ := by decide
  have hnames : List.Forall₂ (fun text l => Line.read text = some l)
      [escape remote, escape branch] [⟨[remote], []⟩, ⟨[branch], []⟩] :=
    .cons (Line.read_escape remote) (.cons (Line.read_escape branch) .nil)
  have hcommand : (((Command.new "git").arg operation).arg (escape remote)).arg (escape branch) =
      ⟨"git", (if operation = "" then [] else [operation]) ++ [escape remote, escape branch]⟩ := by
    by_cases hempty : operation = "" <;>
      simp [Command.arg, Command.new, hempty, escape_ne_empty]
  rw [hcommand]
  by_cases hempty : operation = ""
  · simp only [if_pos hempty, List.nil_append]
    rw [Line.read_render hgit hnames]
    rfl
  · simp only [if_neg hempty, List.singleton_append]
    rw [Line.read_render hgit (.cons (read_safe hempty h) hnames)]
    rfl

/-- **Every subcommand runs on every object, and no name leaves its word.** The commands stand
subcommand by subcommand; an operation on a branch stands between two checkouts. -/
theorem object_lines_read (subcommands : List Subcommand) (ids : List String)
    (hsafe : ∀ s ∈ subcommands, s.Safe) (operation branch remote current : String)
    (hoperation : ∀ c ∈ operation.toList, Shell.isSafe c) :
    (onObjects subcommands ids).length = subcommands.length * ids.length ∧
    (∀ (i j : Nat) (hi : i < subcommands.length) (hj : j < ids.length),
      ∃ c, (onObjects subcommands ids)[i * ids.length + j]? = some c ∧
        Line.read c.render = some ⟨"git" :: subcommands[i].name ::
          (Line.split subcommands[i].options ++ [ids[j]]), []⟩) ∧
    (onBranch operation branch remote current).render.map Line.read =
      [some ⟨["git", "checkout", branch], []⟩,
        some ⟨"git" :: ((if operation = "" then [] else [operation]) ++ [remote, branch]), []⟩,
        some ⟨["git", "checkout", current], []⟩] := by
  refine ⟨length_grid Subcommand.onObject subcommands ids, fun i j hi hj => ?_, ?_⟩
  · refine ⟨subcommands[i].onObject ids[j], ?_, ?_⟩
    · rw [onObjects, getElem?_grid Subcommand.onObject subcommands hj, List.getElem?_eq_getElem hi,
        List.getElem?_eq_getElem hj]
      rfl
    · exact (hsafe _ (List.getElem_mem hi)).read_onObject ids[j]
  · simp only [onBranch, Batch.render, List.map_cons, List.map_nil, read_checkout,
      read_operation hoperation]

/-- Two subcommands on an object with a line end in its name and on one without a name, and a push
of a branch whose name would be a command. -/
theorem object_lines_read_names :
    (∀ s ∈ [Subcommand.mk "branch" "", ⟨"log", " -1  --stat"⟩], s.Safe) ∧
    (∀ c ∈ "push".toList, Shell.isSafe c) ∧
    (∃ c, (onObjects [⟨"branch", ""⟩, ⟨"log", " -1  --stat"⟩] ["a\n$b", ""])[1 * 2 + 1]? = some c ∧
      Line.read c.render = some ⟨["git", "log", "-1", "--stat", ""], []⟩) ∧
    (onBranch "push" "wip; rm -rf" "" "it's").render.map Line.read =
      [some ⟨["git", "checkout", "wip; rm -rf"], []⟩,
        some ⟨["git", "push", "", "wip; rm -rf"], []⟩,
        some ⟨["git", "checkout", "it's"], []⟩] := by
  have hoptions : " -1  --stat".toList.all (fun c => Shell.isSafe c || Scan.isBlank c) = true := by
    decide
  have hsafe : ∀ s ∈ [Subcommand.mk "branch" "", ⟨"log", " -1  --stat"⟩], s.Safe := by
    rintro s (_ | ⟨_, _ | ⟨_, ⟨⟩⟩⟩)
    · exact ⟨by decide, List.all_eq_true.mp (by decide), by simp⟩
    · exact ⟨by decide, List.all_eq_true.mp (by decide), fun c hc => Bool.or_eq_true_iff.mp
        (List.all_eq_true.mp hoptions c hc)⟩
  have hpush : ∀ c ∈ "push".toList, Shell.isSafe c := List.all_eq_true.mp (by decide)
  have hlines := object_lines_read _ ["a\n$b", ""] hsafe "push" "wip; rm -rf" "" "it's" hpush
  obtain ⟨c, hc, hread⟩ := hlines.2.1 1 1 (by decide) (by decide)
  have hsplit : Line.split " -1  --stat" = ["-1", "--stat"] := by decide
  refine ⟨hsafe, hpush, ⟨c, hc, ?_⟩, hlines.2.2⟩
  rw [hread, List.getElem_cons_succ, List.getElem_cons_zero, hsplit]
  rfl

end Runbook.Git
