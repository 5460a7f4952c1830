import Runbook.Run.Executors

/-!
# What an invocation executes

A runner is asked to run batches and to resume what it halted on, and between two calls its
threshold may be changed. No call loses, repeats or reorders a command, whatever happened before it
and whatever the executor does: what the call executed, followed by the working batch it leaves, is
the queue it found, and the records it answers and puts behind the log are those of the commands it
executed, one each.

What was executed is told by `List.mapM`: to execute commands one after another is to map the
executor over them, each once, the state of the executor going from one to the next.
-/

namespace Runbook.Run

variable {σ : Type}

/-! ### One command after another -/

theorem run_mapM_cons {execute : Executor σ} {c : Command} {e : Execution} {cs : Batch}
    {es : List Execution} {s s₁ s₂ : σ} (hc : (execute c).run s = (e, s₁))
    (hcs : (cs.mapM execute).run s₁ = (es, s₂)) :
    ((c :: cs).mapM execute).run s = (e :: es, s₂) := by
  rw [List.mapM_cons, StateT.run_bind, hc]
  change ((cs.mapM execute).run s₁ >>= fun p => pure (e :: p.1, p.2)) = _
  rw [hcs]
  rfl

theorem run_mapM_append {execute : Executor σ} {cs ds : Batch} {es fs : List Execution}
    {s s₁ s₂ : σ} (hc : (cs.mapM execute).run s = (es, s₁))
    (hd : (ds.mapM execute).run s₁ = (fs, s₂)) :
    ((cs ++ ds).mapM execute).run s = (es ++ fs, s₂) := by
  rw [List.mapM_append, StateT.run_bind, hc]
  change ((ds.mapM execute).run s₁ >>= fun p => pure (es ++ p.1, p.2)) = _
  rw [hd]
  rfl

/-- Every command has one execution. -/
theorem length_eq_of_run_mapM {execute : Executor σ} {cs : Batch} {es : List Execution}
    {s s' : σ} (h : (cs.mapM execute).run s = (es, s')) : es.length = cs.length := by
  induction cs generalizing es s with
  | nil => cases h; rfl
  | cons c cs ih =>
    rw [run_mapM_cons rfl rfl] at h
    cases h
    rw [List.length_cons, List.length_cons, ih rfl]

/-- The records tell of the commands and of what came of them, one record of each, in order. -/
structure Tells (records : List Record) (commands : Batch) (executions : List Execution) :
    Prop where
  call : records.map Record.call = commands.map Command.call
  args : records.map Record.args = commands.map Command.args
  command : records.map Record.command = commands.map Command.render
  success : records.map Record.success = executions.map Execution.success
  output : records.map Record.output = executions.map Execution.output

theorem tells_zipWith {commands : Batch} {executions : List Execution}
    (h : executions.length = commands.length) :
    Tells (List.zipWith .of commands executions) commands executions where
  call := List.ext_getElem (by simp [h]) (by simp [Record.of])
  args := List.ext_getElem (by simp [h]) (by simp [Record.of])
  command := List.ext_getElem (by simp [h]) (by simp [Record.of])
  success := List.ext_getElem (by simp [h]) (by simp [Record.of])
  output := List.ext_getElem (by simp [h]) (by simp [Record.of])

/-! ### Draining a queue -/

theorem drain_cons {execute : Executor σ} {c : Command} {e : Execution} {s s₁ : σ}
    (hc : (execute c).run s = (e, s₁)) (admitted : Option Nat) (failures : Nat) (rest : Batch)
    (log : Log) :
    (drain execute admitted failures (c :: rest) log).run s =
      let failures := if e.success then failures else failures + 1
      if !e.success && exceeds admitted failures then
        (⟨log ++ [.of c e], .halted, rest, some c⟩, s₁)
      else (drain execute admitted failures rest (log ++ [.of c e])).run s₁ := by
  rw [drain, StateT.run_bind, hc]
  exact apply_ite (fun m => StateT.run m s₁) _ _ _

/-- How a drained queue stands: `executed` is what was executed of it, and behind the log is one
record of each. -/
structure Drained (execute : Executor σ) (queue : Batch) (log : Log) (s : σ) (o : Outcome)
    (s' : σ) (executed : Batch) (executions : List Execution) : Prop where
  executes : (executed.mapM execute).run s = (executions, s')
  log_eq : o.log = log ++ List.zipWith .of executed executions
  queue_eq : executed ++ o.working = queue
  halted_iff : o.state = .halted ↔ ∃ c, o.haltedOn = some c
  working_eq : o.state = .running → o.working = []
  last_eq : ∀ c, o.haltedOn = some c → executed.getLast? = some c

theorem Drained.cons {execute : Executor σ} {c : Command} {e : Execution} {rest executed : Batch}
    {log : Log} {s s₁ s' : σ} {o : Outcome} {executions : List Execution}
    (hc : (execute c).run s = (e, s₁))
    (h : Drained execute rest (log ++ [.of c e]) s₁ o s' executed executions) :
    Drained execute (c :: rest) log s o s' (c :: executed) (e :: executions) where
  executes := run_mapM_cons hc h.executes
  log_eq := by rw [h.log_eq, List.zipWith_cons_cons, List.append_assoc]; rfl
  queue_eq := by rw [List.cons_append, h.queue_eq]
  halted_iff := h.halted_iff
  working_eq := h.working_eq
  last_eq d hd := by
    have := h.last_eq d hd
    rw [List.getLast?_cons, this]
    rfl

/-- Draining executes the beginning of the queue and leaves the rest. -/
theorem drained_drain (execute : Executor σ) (admitted : Option Nat) (queue : Batch) :
    ∀ (failures : Nat) (log : Log) (s : σ), ∃ executed executions,
      Drained execute queue log s ((drain execute admitted failures queue log).run s).1
        ((drain execute admitted failures queue log).run s).2 executed executions := by
  induction queue with
  | nil =>
    intro failures log s
    exact ⟨[], [], rfl, (List.append_nil log).symm, rfl, by simp [drain], fun _ => rfl,
      by simp [drain]⟩
  | cons c rest ih =>
    intro failures log s
    obtain ⟨⟨e, s₁⟩, hc⟩ : ∃ p : Execution × σ, (execute c).run s = p := ⟨_, rfl⟩
    rw [drain_cons hc]
    dsimp only
    generalize (if e.success then failures else failures + 1) = failed
    split
    · exact ⟨[c], [e], run_mapM_cons hc rfl, rfl, rfl, by simp, by simp, by simp⟩
    · obtain ⟨executed, executions, h⟩ := ih _ (log ++ [.of c e]) s₁
      exact ⟨c :: executed, e :: executions, h.cons hc⟩

/-- Without a threshold a queue is drained to its end. -/
theorem drain_none_running (execute : Executor σ) (queue : Batch) (failures : Nat) (log : Log)
    (s : σ) : ((drain execute none failures queue log).run s).1.state = .running := by
  induction queue generalizing failures log s with
  | nil => rfl
  | cons c rest ih =>
    rw [drain_cons rfl]
    simp only [exceeds, Bool.and_false, Bool.false_eq_true, if_false]
    exact ih _ _ _

/-! ### Calls of a runner -/

/-- What a runner is called for. -/
inductive Call where
  /-- A batch, in place of anything that was left. -/
  | run (batch : Batch)
  /-- What was left. -/
  | resume (mode : ResumeMode)

/-- The commands that a call is to execute. -/
def Call.queue (r : Runner) : Call → Batch
  | .run batch => batch
  | .resume .skip => r.working
  | .resume .retry => r.haltedOn.toList ++ r.working

/-- Calls a runner. -/
def Runner.call (execute : Executor σ) (r : Runner) (log : Log) :
    Call → StateM σ (List Record × Runner × Log)
  | .run batch => r.run execute batch log
  | .resume mode => r.resume execute mode log

theorem call_eq_invoke (execute : Executor σ) (r : Runner) (log : Log) (q : Call) :
    r.call execute log q = r.invoke execute (q.queue r) log := by
  cases q with
  | run batch => rfl
  | resume mode =>
    cases mode with
    | skip => rfl
    | retry =>
      obtain ⟨admitted, state, working, haltedOn⟩ := r
      cases haltedOn <;> rfl

/-- The runners, with the states of the executor, that calls lead to. Between two calls the
threshold may change, and each call may be given another log. -/
inductive Reachable (execute : Executor σ) : Runner → σ → Prop where
  /-- A new runner. -/
  | new (admitted : Option Nat) (s : σ) : Reachable execute (.new admitted) s
  /-- Another threshold. -/
  | threshold {r : Runner} {s : σ} (n : Option Nat) :
      Reachable execute r s → Reachable execute { r with admitted := n } s
  /-- A call. -/
  | call {r r' : Runner} {s s' : σ} {records : List Record} {log log' : Log} (q : Call) :
      Reachable execute r s → (r.call execute log q).run s = ((records, r', log'), s') →
        Reachable execute r' s'

/-- A runner is halted as long as it holds the command it halted on, and otherwise has nothing
left. -/
structure Runner.Settled (r : Runner) : Prop where
  halted_iff : r.state = .halted ↔ ∃ c, r.haltedOn = some c
  working_eq : r.state = .running → r.working = []

/-- What a call executed, `executed`, and what it left: nothing of its queue is lost, the command
it halted on is the last one executed, and the records it answers, which are what it added to the
log, are those of the executed commands. -/
structure Answered (execute : Executor σ) (queue : Batch) (log : Log) (s : σ)
    (records : List Record) (r' : Runner) (log' : Log) (s' : σ) (executed : Batch)
    (executions : List Execution) : Prop where
  /-- What was executed and what is left are the queue. -/
  queue_eq : executed ++ r'.working = queue
  /-- A runner that is not halted executed all of it. -/
  all_eq : r'.state = .running → executed = queue
  /-- The command it halted on was the last one. -/
  last_eq : ∀ c, r'.haltedOn = some c → executed.getLast? = some c
  /-- The executor was invoked once for each command, in order. -/
  executes : (executed.mapM execute).run s = (executions, s')
  /-- The records tell of just that. -/
  tells : Tells records executed executions
  /-- They stand at the end of the log, and nothing else changed in it. -/
  log_eq : log' = log ++ records

/-- An invocation answers for its queue and leaves a settled runner. -/
theorem answered_invoke {execute : Executor σ} {queue : Batch} {r r' : Runner} {log log' : Log}
    {s s' : σ} {records : List Record}
    (h : (r.invoke execute queue log).run s = ((records, r', log'), s')) :
    r'.Settled ∧ ∃ executed executions,
      Answered execute queue log s records r' log' s' executed executions := by
  obtain ⟨executed, executions, hd⟩ := drained_drain execute r.admitted queue 0 log s
  rw [Runner.invoke, StateT.run_bind] at h
  generalize (drain execute r.admitted 0 queue log).run s = p at hd h
  obtain ⟨o, s₁⟩ := p
  cases h
  have hrecords : o.log.since log.length = List.zipWith .of executed executions := by
    rw [Log.since, hd.log_eq, List.drop_left]
  refine ⟨⟨hd.halted_iff, hd.working_eq⟩, executed, executions, hd.queue_eq, fun hr => ?_,
    hd.last_eq, hd.executes, ?_, ?_⟩
  · have := hd.queue_eq
    rwa [hd.working_eq hr, List.append_nil] at this
  · rw [hrecords]
    exact tells_zipWith (length_eq_of_run_mapM hd.executes)
  · rw [hrecords, hd.log_eq]

theorem Reachable.settled {execute : Executor σ} {r : Runner} {s : σ}
    (h : Reachable execute r s) : r.Settled := by
  induction h with
  | new admitted s => exact ⟨by simp [Runner.new], fun _ => rfl⟩
  | threshold n _ ih => exact ⟨ih.halted_iff, ih.working_eq⟩
  | call q _ hq _ =>
    rw [call_eq_invoke] at hq
    exact (answered_invoke hq).1

/-- **No call loses, repeats or reorders a command.** -/
theorem reachable_call_exact {execute : Executor σ} {r : Runner} {s : σ}
    (h : Reachable execute r s) :
    ((r.state = .halted ↔ ∃ c, r.haltedOn = some c) ∧ (r.state = .running → r.working = [])) ∧
      ∀ (q : Call) (log : Log), ∃ records r' log' s' executed executions,
        (r.call execute log q).run s = ((records, r', log'), s') ∧
          Answered execute (q.queue r) log s records r' log' s' executed executions := by
  refine ⟨⟨h.settled.halted_iff, h.settled.working_eq⟩, fun q log => ?_⟩
  obtain ⟨⟨⟨records, r', log'⟩, s'⟩, hq⟩ :
    ∃ p : (List Record × Runner × Log) × σ, (r.call execute log q).run s = p := ⟨_, rfl⟩
  obtain ⟨-, executed, executions, ha⟩ :=
    answered_invoke (by rw [← call_eq_invoke]; exact hq)
  exact ⟨records, r', log', s', executed, executions, hq, ha⟩

/-- A runner halted in the middle of its batch that is to retry. -/
theorem reachable_call_exact_retry :
    ∃ r s, Reachable rehearse r s ∧ r.haltedOn = some (.new "b") ∧ r.working = [.new "c"] ∧
      ∃ records r' log' s' executed executions,
        (r.call rehearse [] (.resume .retry)).run s = ((records, r', log'), s') ∧
          Answered rehearse [.new "b", .new "c"] [] s records r' log' s' executed executions := by
  have hrun : ((Runner.new (some 0)).call rehearse [] (.run [.new "a", .new "b", .new "c"])).run
      ⟨[("b", [false])], 0⟩ = ((_, ⟨some 0, .halted, [.new "c"], some (.new "b")⟩, _),
        ⟨[("b", [false])], 2⟩) := rfl
  have h := Reachable.call _ (.new _ _) hrun
  exact ⟨_, _, h, rfl, rfl, (reachable_call_exact h).2 (.resume .retry) []⟩

end Runbook.Run
