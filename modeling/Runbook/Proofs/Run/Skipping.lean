import Runbook.Proofs.Run.Invocation
import Mathlib.Data.Nat.Find

/-!
# Skipping what a runner halts on

A batch is run with a threshold, and as long as the runner is halted it is resumed behind the
command it halted on, each time with a threshold of its own. This comes to an end and executes what
a run without a threshold executes: the records are the same, the log is the same and the executor
is left in the same state. Only the time stamps differ, for each call looks at the clock anew.

The argument: whatever was done up to a pause is answered for as one call would be
(`Answered.trans`), and each call that halts has executed a command at least.
-/

namespace Runbook.Run

variable {σ : Type}

/-! ### Clocks -/

/-- The same executions with the times that a clock shows. -/
def Executor.clocked (execute : Executor σ) (clock : Command → σ → String) : Executor σ :=
  fun c s =>
    let (e, s') := execute c s
    ({ e with time := clock c s }, s')

/-- The record without its time stamp. -/
def Record.untimed (r : Record) : Record := { r with time := "" }

/-- A clock has no influence on what is executed. -/
theorem run_mapM_clocked {execute : Executor σ} {clock : Command → σ → String} {cs : Batch}
    {es : List Execution} {s s' : σ} (h : (cs.mapM (execute.clocked clock)).run s = (es, s')) :
    ∃ es₀, (cs.mapM execute).run s = (es₀, s') ∧
      es.map Execution.success = es₀.map Execution.success ∧
      es.map Execution.output = es₀.map Execution.output := by
  induction cs generalizing es s with
  | nil => cases h; exact ⟨[], rfl, rfl, rfl⟩
  | cons c cs ih =>
    rw [run_mapM_cons rfl rfl] at h
    cases h
    obtain ⟨es₀, h, hs, ho⟩ := ih rfl
    exact ⟨_, run_mapM_cons rfl h, congrArg (_ :: ·) hs, congrArg (_ :: ·) ho⟩

theorem Answered.unclocked {execute : Executor σ} {clock : Command → σ → String} {queue : Batch}
    {log log' : Log} {s s' : σ} {records : List Record} {r' : Runner} {executed : Batch}
    {es : List Execution}
    (h : Answered (execute.clocked clock) queue log s records r' log' s' executed es) :
    ∃ es₀, Answered execute queue log s records r' log' s' executed es₀ := by
  obtain ⟨es₀, h₀, hs, ho⟩ := run_mapM_clocked h.executes
  refine ⟨es₀, h.queue_eq, h.all_eq, h.last_eq, h₀, ?_, h.log_eq⟩
  exact ⟨h.tells.call, h.tells.args, h.tells.command, h.tells.success.trans hs,
    h.tells.output.trans ho⟩

/-- What the records tell leaves nothing open but their time stamps. -/
theorem untimed_eq_of_tells {records records' : List Record} {commands : Batch}
    {executions : List Execution} (h : Tells records commands executions)
    (h' : Tells records' commands executions) :
    records.map Record.untimed = records'.map Record.untimed := by
  have hlength : records.length = records'.length := by
    have := congrArg List.length (h.call.trans h'.call.symm)
    simpa using this
  refine List.ext_getElem (by simpa using hlength) fun i hi hi' => ?_
  rw [List.length_map] at hi hi'
  have at_i {α : Type} {f : Record → α} (hf : records.map f = records'.map f) :
      f records[i] = f records'[i] := by
    have := congrArg (·[i]?) hf
    simpa [hi, hi'] using this
  simp only [List.getElem_map, Record.untimed, Record.mk.injEq, true_and]
  exact ⟨at_i (h.call.trans h'.call.symm), at_i (h.args.trans h'.args.symm),
    at_i (h.command.trans h'.command.symm), at_i (h.success.trans h'.success.symm),
    at_i (h.output.trans h'.output.symm)⟩

/-! ### Two calls as one -/

theorem Tells.append {records records' : List Record} {cs cs' : Batch}
    {es es' : List Execution} (h : Tells records cs es) (h' : Tells records' cs' es') :
    Tells (records ++ records') (cs ++ cs') (es ++ es') where
  call := by rw [List.map_append, h.call, h'.call, List.map_append]
  args := by rw [List.map_append, h.args, h'.args, List.map_append]
  command := by rw [List.map_append, h.command, h'.command, List.map_append]
  success := by rw [List.map_append, h.success, h'.success, List.map_append]
  output := by rw [List.map_append, h.output, h'.output, List.map_append]

/-- A call and a second one that goes on with what the first one left answer as one. -/
theorem Answered.trans {execute : Executor σ} {queue : Batch} {log log₁ log₂ : Log}
    {s s₁ s₂ : σ} {records₁ records₂ : List Record} {r₁ r₂ : Runner} {cs₁ cs₂ : Batch}
    {es₁ es₂ : List Execution}
    (h₁ : Answered execute queue log s records₁ r₁ log₁ s₁ cs₁ es₁)
    (h₂ : Answered execute r₁.working log₁ s₁ records₂ r₂ log₂ s₂ cs₂ es₂) :
    Answered execute queue log s (records₁ ++ records₂) r₂ log₂ s₂ (cs₁ ++ cs₂) (es₁ ++ es₂) where
  queue_eq := by rw [List.append_assoc, h₂.queue_eq, h₁.queue_eq]
  all_eq hr := by rw [h₂.all_eq hr, h₁.queue_eq]
  last_eq c hc := by rw [List.getLast?_append, h₂.last_eq c hc]; rfl
  executes := run_mapM_append h₁.executes h₂.executes
  tells := h₁.tells.append h₂.tells
  log_eq := by rw [h₂.log_eq, h₁.log_eq, List.append_assoc]

/-- A call that halts has executed a command. -/
theorem Answered.length_lt {execute : Executor σ} {queue : Batch} {log log' : Log} {s s' : σ}
    {records : List Record} {r' : Runner} {cs : Batch} {es : List Execution}
    (h : Answered execute queue log s records r' log' s' cs es) (hr : r'.Settled)
    (hhalted : r'.state = .halted) : r'.working.length < queue.length := by
  obtain ⟨c, hc⟩ := hr.halted_iff.mp hhalted
  have hcs : cs ≠ [] := by
    rintro rfl
    exact absurd (h.last_eq c hc) (by simp)
  rw [← h.queue_eq, List.length_append]
  have := List.length_pos_iff.mpr hcs
  omega

/-! ### Skipping -/

/-- Runs a batch and, as long as the runner is halted, resumes it behind the command it halted on,
`n` times at most. Each call has an executor and a threshold of its own, by its number. -/
def Runner.skipping (execute : Nat → Executor σ) (admitted : Nat → Option Nat) (batch : Batch)
    (r : Runner) (log : Log) : Nat → StateM σ (List Record × Runner × Log)
  | 0 => { r with admitted := admitted 0 }.run (execute 0) batch log
  | n + 1 => do
    let (records, r, log) ← r.skipping execute admitted batch log n
    match r.state with
    | .running => return (records, r, log)
    | .halted =>
      let (more, r, log) ←
        { r with admitted := admitted (n + 1) }.resume (execute (n + 1)) .skip log
      return (records ++ more, r, log)

theorem skipping_succ_of_running {execute : Nat → Executor σ} {admitted : Nat → Option Nat}
    {batch : Batch} {r r' : Runner} {log log' : Log} {records : List Record} {s s' : σ} {n : Nat}
    (h : (r.skipping execute admitted batch log n).run s = ((records, r', log'), s'))
    (hr : r'.state = .running) :
    (r.skipping execute admitted batch log (n + 1)).run s = ((records, r', log'), s') := by
  rw [Runner.skipping, StateT.run_bind, h]
  change StateT.run (match r'.state with | .running => _ | .halted => _) s' = _
  rw [hr]
  rfl

theorem skipping_succ_of_halted {execute : Nat → Executor σ} {admitted : Nat → Option Nat}
    {batch : Batch} {r r' : Runner} {log log' : Log} {records : List Record} {s s' : σ} {n : Nat}
    (h : (r.skipping execute admitted batch log n).run s = ((records, r', log'), s'))
    (hr : r'.state = .halted) :
    (r.skipping execute admitted batch log (n + 1)).run s =
      let ((more, r'', log''), s'') :=
        ({ r' with admitted := admitted (n + 1) }.resume (execute (n + 1)) .skip log').run s'
      ((records ++ more, r'', log''), s'') := by
  rw [Runner.skipping, StateT.run_bind, h]
  change StateT.run (match r'.state with | .running => _ | .halted => _) s' = _
  rw [hr]
  rfl

/-- Where a run with pauses stands after `n` resumptions: it answers as one call of `execute`
would, and each pause has cost a command. -/
structure Skipped (execute : Executor σ) (batch : Batch) (log : Log) (s : σ) (n : Nat)
    (records : List Record) (r' : Runner) (log' : Log) (s' : σ) : Prop where
  answered : ∃ executed executions,
    Answered execute batch log s records r' log' s' executed executions
  settled : r'.Settled
  length_lt : r'.state = .halted → r'.working.length + n < batch.length

theorem skipped_skipping (execute : Executor σ) (clock : Nat → Command → σ → String)
    (admitted : Nat → Option Nat) (batch : Batch) (r : Runner) (log : Log) (s : σ) (n : Nat) :
    ∃ records r' log' s',
      (r.skipping (fun i => execute.clocked (clock i)) admitted batch log n).run s =
        ((records, r', log'), s') ∧
      Skipped execute batch log s n records r' log' s' := by
  induction n with
  | zero =>
    obtain ⟨⟨⟨records, r', log'⟩, s'⟩, h⟩ : ∃ p : (List Record × Runner × Log) × σ,
      (r.skipping (fun i => execute.clocked (clock i)) admitted batch log 0).run s = p := ⟨_, rfl⟩
    obtain ⟨hr, executed, executions, ha⟩ := answered_invoke h
    obtain ⟨executions₀, ha⟩ := ha.unclocked
    exact ⟨records, r', log', s', h, ⟨executed, executions₀, ha⟩, hr, ha.length_lt hr⟩
  | succ n ih =>
    obtain ⟨records, r₁, log₁, s₁, h, ⟨executed, executions, ha⟩, hr, hlt⟩ := ih
    cases hstate : r₁.state with
    | running =>
      refine ⟨records, r₁, log₁, s₁, skipping_succ_of_running h hstate,
        ⟨executed, executions, ha⟩, hr, fun hh => ?_⟩
      rw [hstate] at hh
      cases hh
    | halted =>
      obtain ⟨⟨⟨more, r₂, log₂⟩, s₂⟩, h₂⟩ : ∃ p : (List Record × Runner × Log) × σ,
        ({ r₁ with admitted := admitted (n + 1) }.resume
          (execute.clocked (clock (n + 1))) .skip log₁).run s₁ = p := ⟨_, rfl⟩
      obtain ⟨hr₂, cs, es, ha₂⟩ := answered_invoke h₂
      obtain ⟨es₀, ha₂⟩ := ha₂.unclocked
      rw [skipping_succ_of_halted h hstate, h₂]
      refine ⟨records ++ more, r₂, log₂, s₂, rfl, ⟨_, _, ha.trans ha₂⟩, hr₂, fun hh => ?_⟩
      have hbefore := hlt hstate
      have hless : r₂.working.length < r₁.working.length := ha₂.length_lt hr₂ hh
      omega

/-- After as many resumptions as there are commands the runner is not halted any more. -/
theorem Skipped.running {execute : Executor σ} {batch : Batch} {log log' : Log} {s s' : σ}
    {records : List Record} {r' : Runner}
    (h : Skipped execute batch log s batch.length records r' log' s') : r'.state = .running := by
  cases hstate : r'.state with
  | running => rfl
  | halted => exact absurd (h.length_lt hstate) (by omega)

/-! ### Without a threshold -/

theorem answered_unlimited (execute : Executor σ) (batch : Batch) (r : Runner) (log : Log)
    (s : σ) : ∃ records r' log' s' executions,
      ({ r with admitted := none }.run execute batch log).run s = ((records, r', log'), s') ∧
      Answered execute batch log s records r' log' s' batch executions := by
  obtain ⟨⟨⟨records, r', log'⟩, s'⟩, h⟩ : ∃ p : (List Record × Runner × Log) × σ,
    ({ r with admitted := none }.run execute batch log).run s = p := ⟨_, rfl⟩
  obtain ⟨-, executed, executions, ha⟩ := answered_invoke h
  have hr : r'.state = .running := by
    have := congrArg (fun p => p.1.2.1.state) h
    exact this.symm.trans (drain_none_running execute batch 0 log s)
  have hexecuted := ha.all_eq hr
  subst hexecuted
  exact ⟨records, r', log', s', executions, h, ha⟩

/-- A sequence of states that comes to a running one is halted up to the first of them. -/
theorem exists_first_running (state : Nat → State) {n : Nat} (h : state n = .running) :
    ∃ m ≤ n, state m = .running ∧ ∀ i < m, state i = .halted := by
  have hex : ∃ m, state m = .running := ⟨n, h⟩
  refine ⟨Nat.find hex, Nat.find_min' hex h, Nat.find_spec hex, fun i hi => ?_⟩
  have hnot := Nat.find_min hex hi
  cases hstate : state i with
  | running => exact absurd hstate hnot
  | halted => rfl

/-- **Pausing changes nothing but where the run pauses.** -/
theorem skipping_eq_unlimited (execute : Executor σ) (clock : Nat → Command → σ → String)
    (admitted : Nat → Option Nat) (batch : Batch) (r r₀ : Runner) (log : Log) (s : σ) :
    ∃ records₀ r₀' log₀ s',
      ({ r₀ with admitted := none }.run execute batch log).run s = ((records₀, r₀', log₀), s') ∧
      ∃ n ≤ batch.length,
        (∀ i < n, ((r.skipping (fun i => execute.clocked (clock i)) admitted batch log i).run
          s).1.2.1.state = .halted) ∧
        ∃ records r' log',
          (r.skipping (fun i => execute.clocked (clock i)) admitted batch log n).run s =
            ((records, r', log'), s') ∧
          r'.state = .running ∧ r'.working = [] ∧
          records.map Record.untimed = records₀.map Record.untimed ∧
          log'.map Record.untimed = log₀.map Record.untimed := by
  obtain ⟨records₀, r₀', log₀, s₀, executions₀, h₀, ha₀⟩ :=
    answered_unlimited execute batch r₀ log s
  -- the runner is not halted after as many resumptions as there are commands; take the first time
  have hlast : ((r.skipping (fun i => execute.clocked (clock i)) admitted batch log
      batch.length).run s).1.2.1.state = .running := by
    obtain ⟨records, r', log', s', h, hs⟩ :=
      skipped_skipping execute clock admitted batch r log s batch.length
    rw [h]
    exact hs.running
  obtain ⟨n, hn, hrunning, hhalted⟩ := exists_first_running (fun i =>
    ((r.skipping (fun i => execute.clocked (clock i)) admitted batch log i).run s).1.2.1.state)
    hlast
  obtain ⟨records, r', log', s', h, hs⟩ :=
    skipped_skipping execute clock admitted batch r log s n
  have hr : r'.state = .running := by rwa [h] at hrunning
  obtain ⟨executed, executions, ha⟩ := hs.answered
  have hexecuted := ha.all_eq hr
  subst hexecuted
  have hsame : (executions, s') = (executions₀, s₀) := ha.executes.symm.trans ha₀.executes
  obtain ⟨rfl, rfl⟩ := Prod.mk.inj hsame
  have hrecords := untimed_eq_of_tells ha.tells ha₀.tells
  refine ⟨records₀, r₀', log₀, s', h₀, n, hn, hhalted, records, r', log', h, hr,
    hs.settled.working_eq hr, hrecords, ?_⟩
  rw [ha.log_eq, ha₀.log_eq, List.map_append, List.map_append, hrecords]

end Runbook.Run
