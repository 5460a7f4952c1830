import Runbook.Proofs.Run.Invocation

/-!
# Where an invocation halts

A runner that admits `m` failures executes its queue until right behind the failure that is one
more than these, and halts there. With fewer failures, or without a threshold, it executes the
whole queue. Only the failures of the invocation itself count: whether it halts is decided by what
the queue would do if all of it were executed, whatever was run, logged or halted on before.

The argument is an induction on the queue with the failures counted so far as a parameter
(`counted_drain`). An invocation starts the count at zero.
-/

namespace Runbook.Run

variable {σ : Type}

/-- The number of failed executions. -/
def failed (executions : List Execution) : Nat := executions.countP fun e => !e.success

theorem failures_append (log log' : Log) :
    Log.failures (log ++ log') = Log.failures log + Log.failures log' :=
  List.countP_append

theorem failures_singleton (r : Record) : Log.failures [r] = if r.success then 0 else 1 := by
  cases h : r.success <;> simp [Log.failures, h]

/-- The failures in the records are those of the executions that they tell of. -/
theorem Tells.failures_eq {records : List Record} {commands : Batch} {executions : List Execution}
    (h : Tells records commands executions) : Log.failures records = failed executions := by
  have hrecords : Log.failures records = (records.map Record.success).countP (!·) := by
    rw [List.countP_map]
    rfl
  have hexecutions : failed executions = (executions.map Execution.success).countP (!·) := by
    rw [List.countP_map]
    rfl
  rw [hrecords, hexecutions, h.success]

/-! ### Counting -/

/-- How the failures in the records of a drained queue stand to the threshold, with those counted
before. -/
structure Counted (admitted failures : Nat) (records : Log) (state : State) : Prop where
  /-- A halted runner has met as many failures as are admitted, and then one more. -/
  halted : state = .halted → ∃ before last, records = before ++ [last] ∧
    failures + Log.failures before = admitted ∧ last.success = false
  /-- A runner that is not halted has met no more than are admitted. -/
  running : state = .running → failures + Log.failures records ≤ admitted

theorem Counted.cons {admitted failures : Nat} {r : Record} {records : Log} {state : State}
    (h : Counted admitted (failures + Log.failures [r]) records state) :
    Counted admitted failures (r :: records) state where
  halted hs := by
    obtain ⟨before, last, rfl, hcount, hlast⟩ := h.halted hs
    refine ⟨r :: before, last, rfl, ?_, hlast⟩
    have hsplit := failures_append [r] before
    rw [List.singleton_append] at hsplit
    omega
  running hs := by
    have hcount := h.running hs
    have hsplit := failures_append [r] records
    rw [List.singleton_append] at hsplit
    omega

/-- Draining halts with the first failure beyond the threshold. -/
theorem counted_drain (execute : Executor σ) (admitted : Nat) (queue : Batch) :
    ∀ (failures : Nat) (log : Log) (s : σ), failures ≤ admitted → ∃ records,
      ((drain execute (some admitted) failures queue log).run s).1.log = log ++ records ∧
        Counted admitted failures records
          ((drain execute (some admitted) failures queue log).run s).1.state := by
  induction queue with
  | nil =>
    intro failures log s hle
    exact ⟨[], (List.append_nil log).symm, by simp [drain], fun _ => hle⟩
  | cons c rest ih =>
    intro failures log s hle
    obtain ⟨⟨e, s₁⟩, hc⟩ : ∃ p : Execution × σ, (execute c).run s = p := ⟨_, rfl⟩
    have hone : Log.failures [.of c e] = if e.success then 0 else 1 := failures_singleton _
    have hcount : (if e.success then failures else failures + 1) =
        failures + Log.failures [.of c e] := by
      rw [hone]
      split <;> rfl
    rw [drain_cons hc]
    dsimp only
    rw [hcount]
    split
    case isTrue hstop =>
      obtain ⟨hfailed, hbeyond⟩ : e.success = false ∧
          admitted < failures + Log.failures [.of c e] := by
        simpa [exceeds] using hstop
      refine ⟨[.of c e], rfl, fun _ => ⟨[], .of c e, rfl, ?_, hfailed⟩, by simp⟩
      rw [hone, hfailed] at hbeyond
      exact Nat.le_antisymm hle (Nat.lt_succ_iff.mp hbeyond)
    case isFalse hgo =>
      have hle' : failures + Log.failures [.of c e] ≤ admitted := by
        cases hsuccess : e.success with
        | true => simpa [hone, hsuccess] using hle
        | false => simpa [exceeds, hsuccess] using hgo
      obtain ⟨records, hlog, hcounted⟩ := ih _ (log ++ [.of c e]) s₁ hle'
      exact ⟨.of c e :: records, by rw [hlog, List.append_assoc]; rfl, hcounted.cons⟩

/-- An invocation counts from zero, whatever was logged or counted before it. -/
theorem counted_invoke {execute : Executor σ} {queue : Batch} {r r' : Runner} {log log' : Log}
    {s s' : σ} {records : List Record} {admitted : Nat} (hr : r.admitted = some admitted)
    (h : (r.invoke execute queue log).run s = ((records, r', log'), s')) :
    Counted admitted 0 records r'.state := by
  obtain ⟨new, hlog, hcounted⟩ := counted_drain execute admitted queue 0 log s (Nat.zero_le _)
  rw [Runner.invoke, StateT.run_bind, hr] at h
  generalize (drain execute (some admitted) 0 queue log).run s = p at hlog hcounted h
  obtain ⟨o, s₁⟩ := p
  cases h
  rw [Log.since, hlog, List.drop_left]
  exact hcounted

/-- Without a threshold no invocation halts. -/
theorem invoke_unlimited {execute : Executor σ} {queue : Batch} {r r' : Runner} {log log' : Log}
    {s s' : σ} {records : List Record} (hr : r.admitted = none)
    (h : (r.invoke execute queue log).run s = ((records, r', log'), s')) :
    r'.state = .running := by
  have hstate := drain_none_running execute queue 0 log s
  rw [Runner.invoke, StateT.run_bind, hr] at h
  generalize (drain execute none 0 queue log).run s = p at hstate h
  obtain ⟨o, s₁⟩ := p
  cases h
  exact hstate

/-! ### The threshold -/

/-- What an invocation that admits `m` failures did with its queue: `executed` is what it executed,
and `failing` are the failures that executing all of it would meet. -/
structure Thresholded (m : Nat) (queue : Batch) (failing : Nat) (records : List Record)
    (r' : Runner) (executed : Batch) : Prop where
  /-- It never goes on behind the failure that is one too many. -/
  failures_le : Log.failures records ≤ m + 1
  /-- It is halted exactly if it met that failure. -/
  halted_iff : r'.state = .halted ↔ Log.failures records = m + 1
  /-- It meets that failure exactly if the queue holds it. -/
  halts_iff : r'.state = .halted ↔ m < failing
  /-- Halted, it executed the queue up to the failing command, which it holds and whose record is
  the last one; exactly `m` failures stand before it. -/
  halted : r'.state = .halted → ∃ before c earlier last,
    queue = before ++ c :: r'.working ∧ executed = before ++ [c] ∧ r'.haltedOn = some c ∧
      records = earlier ++ [last] ∧ Log.failures earlier = m ∧ last.success = false
  /-- Otherwise it executed the whole queue. -/
  running : r'.state = .running → executed = queue ∧ r'.working = [] ∧ r'.haltedOn = none

/-- Without a threshold, or with one that is not exceeded, nothing is left. -/
theorem Answered.all_executed {execute : Executor σ} {queue : Batch} {log log' : Log} {s s' : σ}
    {records : List Record} {r' : Runner} {executed : Batch} {executions : List Execution}
    (h : Answered execute queue log s records r' log' s' executed executions) (hr : r'.Settled)
    (hrunning : r'.state = .running) :
    executed = queue ∧ r'.working = [] ∧ r'.haltedOn = none := by
  refine ⟨h.all_eq hrunning, hr.working_eq hrunning, ?_⟩
  cases hc : r'.haltedOn with
  | none => rfl
  | some c =>
    have hhalted := hr.halted_iff.mpr ⟨c, hc⟩
    rw [hrunning] at hhalted
    cases hhalted

/-- What was executed is the beginning of what executing all of the queue executes. -/
theorem Answered.executions_append {execute : Executor σ} {queue : Batch} {log log' : Log}
    {s s' s₂ : σ} {records : List Record} {r' : Runner} {executed : Batch}
    {executions all : List Execution}
    (h : Answered execute queue log s records r' log' s' executed executions)
    (hall : (queue.mapM execute).run s = (all, s₂)) :
    ∃ rest, all = executions ++ rest ∧ (r'.state = .running → rest = []) := by
  obtain ⟨⟨rest, s₃⟩, hrest⟩ : ∃ p, (r'.working.mapM execute).run s' = p := ⟨_, rfl⟩
  have hboth := run_mapM_append h.executes hrest
  rw [h.queue_eq, hall] at hboth
  cases hboth
  refine ⟨rest, rfl, fun hrunning => ?_⟩
  have hnone : r'.working = [] := by simpa [h.all_eq hrunning] using h.queue_eq
  have hlength := length_eq_of_run_mapM hrest
  rw [hnone] at hlength
  exact List.length_eq_zero_iff.mp hlength

theorem Answered.thresholded {execute : Executor σ} {queue : Batch} {log log' : Log}
    {s s' s₂ : σ} {records : List Record} {r' : Runner} {executed : Batch}
    {executions all : List Execution} {m : Nat}
    (h : Answered execute queue log s records r' log' s' executed executions) (hr : r'.Settled)
    (hcounted : Counted m 0 records r'.state) (hall : (queue.mapM execute).run s = (all, s₂)) :
    Thresholded m queue (failed all) records r' executed := by
  obtain ⟨rest, rfl, hrest⟩ := h.executions_append hall
  have hfailed : failed (executions ++ rest) = Log.failures records + failed rest := by
    rw [h.tells.failures_eq]
    exact List.countP_append
  cases hstate : r'.state with
  | running =>
    have hle : Log.failures records ≤ m := by simpa using hcounted.running hstate
    have hall := h.all_executed hr hstate
    have hnone : failed rest = 0 := by rw [hrest hstate]; rfl
    refine ⟨by omega, ?_, ?_, ?_, fun _ => hall⟩ <;> rw [hstate]
    · exact ⟨by rintro ⟨⟩, by omega⟩
    · exact ⟨by rintro ⟨⟩, by omega⟩
    · rintro ⟨⟩
  | halted =>
    obtain ⟨earlier, last, rfl, hearlier, hlast⟩ := hcounted.halted hstate
    obtain ⟨c, hc⟩ := hr.halted_iff.mp hstate
    obtain ⟨before, rfl⟩ := List.getLast?_eq_some_iff.mp (h.last_eq c hc)
    have hfailures : Log.failures (earlier ++ [last]) = m + 1 := by
      rw [failures_append, failures_singleton, hlast]
      simpa using hearlier
    refine ⟨Nat.le_of_eq hfailures, iff_of_true hstate hfailures, iff_of_true hstate (by omega),
      fun _ => ⟨before, c, earlier, last, ?_, rfl, hc, rfl, by simpa using hearlier, hlast⟩, ?_⟩
    · rw [← h.queue_eq, List.append_assoc]
      rfl
    · rw [hstate]
      rintro ⟨⟩

/-- **An invocation executes its queue until right behind the failure that is one more than its
runner admits, and all of it if there is none or no threshold.** -/
theorem call_halts_beyond_threshold (execute : Executor σ) (r : Runner) (s : σ) (q : Call)
    (log : Log) :
    ∃ all s₂ records r' log' s' executed executions,
      ((q.queue r).mapM execute).run s = (all, s₂) ∧
      (r.call execute log q).run s = ((records, r', log'), s') ∧
      Answered execute (q.queue r) log s records r' log' s' executed executions ∧
      (∀ m, r.admitted = some m →
        Thresholded m (q.queue r) (failed all) records r' executed) ∧
      (r.admitted = none → r'.state = .running ∧ executed = q.queue r ∧ r'.working = [] ∧
        r'.haltedOn = none) := by
  obtain ⟨⟨all, s₂⟩, hall⟩ : ∃ p, ((q.queue r).mapM execute).run s = p := ⟨_, rfl⟩
  obtain ⟨⟨⟨records, r', log'⟩, s'⟩, hcall⟩ :
    ∃ p : (List Record × Runner × Log) × σ, (r.call execute log q).run s = p := ⟨_, rfl⟩
  have hinvoke := hcall
  rw [call_eq_invoke] at hinvoke
  obtain ⟨hr, executed, executions, ha⟩ := answered_invoke hinvoke
  refine ⟨all, s₂, records, r', log', s', executed, executions, hall, hcall, ha,
    fun m hm => ha.thresholded hr (counted_invoke hm hinvoke) hall, fun hnone => ?_⟩
  have hrunning := invoke_unlimited hnone hinvoke
  exact ⟨hrunning, ha.all_executed hr hrunning⟩

end Runbook.Run
