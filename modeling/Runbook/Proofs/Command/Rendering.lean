import Mathlib.Data.Set.Insert
import Runbook.Command
import Runbook.Proofs.Shell.Literal

/-!
# Command lines without empty arguments

A rendered command is its call with one blank before each argument that is not empty (`line`), as
long as none of its arguments is empty: each empty one leaves a blank of its own
(`Command.length_render`). Whoever builds a command appends no empty argument, and batches only
hand commands on. What a text writes in JSON is taken as it is, and that is the only way in which an
empty argument gets into a command. So all batches render well exactly if the texts they were read
from hold no empty argument (`Batch.render_arises_iff`).
-/

namespace Runbook

namespace Command

variable {texts : Set String} {c : Command}

/-! ### Rendering -/

/-- The call, and behind it one blank with each argument that is not empty. -/
def line (c : Command) : String :=
  c.call ++ String.join ((c.args.filter (· ≠ "")).map (" " ++ ·))

theorem toList_join_blanks (args : List String) :
    (String.join (args.map (" " ++ ·))).toList = Shell.Line.trail args := by
  simp [Shell.Line.trail, List.flatMap_map]

/-- Rendering puts a blank before every argument, also before an empty one. -/
theorem render_eq (c : Command) : c.render = c.call ++ String.join (c.args.map (" " ++ ·)) := by
  rw [← String.toList_inj, String.toList_append, toList_join_blanks]
  exact Shell.Line.toList_intercalate_cons c.call c.args

theorem length_join_blanks (args : List String) :
    (String.join (args.map (" " ++ ·))).length =
      (String.join ((args.filter (· ≠ "")).map (" " ++ ·))).length + args.count "" := by
  induction args with
  | nil => rfl
  | cons a args ih =>
    rw [List.map_cons, String.join_cons, String.length_append, ih]
    by_cases ha : a = ""
    · subst ha
      rw [List.filter_cons_of_neg (by simp), List.count_cons_self]
      have hblank : (" " ++ "").length = 1 := rfl
      omega
    · rw [List.filter_cons_of_pos (by simpa using ha), List.count_cons_of_ne ha, List.map_cons,
        String.join_cons, String.length_append (" " ++ a) (String.join _)]
      omega

/-- Every empty argument leaves one blank more. -/
theorem length_render (c : Command) : c.render.length = c.line.length + c.args.count "" := by
  rw [render_eq, line, String.length_append, String.length_append, length_join_blanks]
  omega

theorem render_eq_line_iff (c : Command) : c.render = c.line ↔ "" ∉ c.args := by
  constructor
  · intro h
    have hlength := c.length_render
    rw [h] at hlength
    exact List.count_eq_zero.mp (by omega)
  · intro h
    have hall : c.args.filter (· ≠ "") = c.args := by
      rw [List.filter_eq_self]
      intro a ha
      exact decide_eq_true fun heq => h (heq ▸ ha)
    rw [render_eq, line, hall]

/-! ### Building -/

theorem not_mem_args_arg (h : "" ∉ c.args) (a : String) : "" ∉ (c.arg a).args := by
  unfold arg
  split
  · exact h
  · next ha =>
    rw [List.mem_append, List.mem_singleton, not_or]
    exact ⟨h, fun heq => ha heq.symm⟩

theorem not_mem_args_addArgs (h : "" ∉ c.args) (as : List String) : "" ∉ (c.addArgs as).args := by
  induction as generalizing c with
  | nil => exact h
  | cons a as ih => exact ih (not_mem_args_arg h a)

theorem not_mem_args_arg? (h : "" ∉ c.args) (a : Option String) : "" ∉ (c.arg? a).args := by
  cases a with
  | none => exact h
  | some a => exact not_mem_args_arg h a

/-! ### How commands come about -/

/-- One of the texts writes the command, by itself or in a batch. -/
def IsRead (texts : Set String) (c : Command) : Prop :=
  ∃ text ∈ texts, read? text = some c ∨ ∃ b, Batch.read? text = some b ∧ c ∈ b

/-- The command is built, or read from one of the texts, and built further. -/
inductive Arises (texts : Set String) : Command → Prop where
  /-- A call. -/
  | new (call : String) : Arises texts (new call)
  /-- What a text writes. -/
  | read {c : Command} : IsRead texts c → Arises texts c
  /-- One more argument. -/
  | arg {c : Command} (a : String) : Arises texts c → Arises texts (c.arg a)
  /-- More arguments. -/
  | addArgs {c : Command} (as : List String) : Arises texts c → Arises texts (c.addArgs as)
  /-- An argument that may be missing. -/
  | arg? {c : Command} (a : Option String) : Arises texts c → Arises texts (c.arg? a)

/-- Empty arguments come from the texts. -/
theorem Arises.not_mem_args (htexts : ∀ c, IsRead texts c → "" ∉ c.args) (h : Arises texts c) :
    "" ∉ c.args := by
  induction h with
  | new call => exact List.not_mem_nil
  | read hread => exact htexts _ hread
  | arg a _ ih => exact not_mem_args_arg ih a
  | addArgs as _ ih => exact not_mem_args_addArgs ih as
  | arg? a _ ih => exact not_mem_args_arg? ih a

end Command

namespace Batch

open Command (IsRead line)

variable {texts : Set String} {b : Batch}

/-- The batch is put together from commands, or read from one of the texts. -/
inductive Arises (texts : Set String) : Batch → Prop where
  /-- Without commands. -/
  | empty : Arises texts []
  /-- One more command. -/
  | push {b : Batch} {c : Command} : Arises texts b → c.Arises texts → Arises texts (b ++ [c])
  /-- The commands of another batch. -/
  | extend {b more : Batch} : Arises texts b → Arises texts more → Arises texts (b ++ more)
  /-- What a text writes. -/
  | read {text : String} {b : Batch} : text ∈ texts → read? text = some b → Arises texts b
  /-- Commands that are collected one by one, as when a batch is taken apart and put together. -/
  | collect {b : Batch} : (∀ c ∈ b, c.Arises texts) → Arises texts b

/-- Batches hand commands on as they are. -/
theorem Arises.forall_mem (h : Arises texts b) : ∀ c ∈ b, c.Arises texts := by
  induction h with
  | empty =>
    intro c hc
    cases hc
  | push _ hc ih =>
    intro d hd
    rcases List.mem_append.mp hd with hd | hd
    · exact ih d hd
    · rwa [List.mem_singleton.mp hd]
  | extend _ _ ih ihmore =>
    intro c hc
    exact (List.mem_append.mp hc).elim (ih c) (ihmore c)
  | read htext hb =>
    intro c hc
    exact .read ⟨_, htext, .inr ⟨_, hb, hc⟩⟩
  | collect hall => exact hall

/-- **A command renders without superfluous blanks exactly if it has no empty argument, and all
batches do exactly if no empty argument is read.** An empty argument is one blank too many. -/
theorem render_arises_iff (texts : Set String) :
    (∀ c : Command, c.render.length = c.line.length + c.args.count "" ∧
      (c.render = c.line ↔ "" ∉ c.args)) ∧
    ((∀ b, Arises texts b → b.render = b.map line) ↔ ∀ c, IsRead texts c → "" ∉ c.args) := by
  refine ⟨fun c => ⟨c.length_render, c.render_eq_line_iff⟩, ?_, ?_⟩
  · intro h c hread
    have hsingle : Arises texts [c] := .push .empty (.read hread)
    have hrender : [c.render] = [c.line] := h [c] hsingle
    exact c.render_eq_line_iff.mp (List.singleton_inj.mp hrender)
  · intro h b hb
    refine List.map_congr_left fun c hc => ?_
    exact c.render_eq_line_iff.mpr ((hb.forall_mem c hc).not_mem_args h)

/-- A batch that is read with an empty argument renders with two blanks. -/
theorem render_read_empty :
    let text := "[\x7b\"call\":\"ls\",\"args\":[\"\",\"x\"]\x7d]"
    let b : Batch := [⟨"ls", ["", "x"]⟩]
    read? text = some b ∧ Arises {text} b ∧
      b.render = ["ls  x"] ∧ b.map line = ["ls x"] ∧ b.render ≠ b.map line := by
  intro text b
  have hread : read? text = some b := by decide +kernel
  have hrender : b.render = ["ls  x"] := by decide
  have hline : b.map line = ["ls x"] := by decide
  refine ⟨hread, .read (Set.mem_singleton text) hread, hrender, hline, ?_⟩
  rw [hrender, hline]
  decide

end Batch

end Runbook
