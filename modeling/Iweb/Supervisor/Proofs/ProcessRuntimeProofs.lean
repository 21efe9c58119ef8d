import Iweb.Supervisor.Proofs.StatLineProofs

/-!
# The pid fence

`stillOwnsPid` compares field 23 of the stat line of a pid with the value it had when the process was
spawned. Where that field identifies the process, the runtime tells the truth about it in every run: it calls
an execution stopped only when its process has exited, running exactly while it has not, and sends signals to
no other process. Field 23 is the size of the virtual memory: one change of it, and a running process passes
for one that has exited.
-/

namespace Iweb

open CrashRefinement

/-! ## The table as it evolves -/

namespace ProcessTable

/-- The process has exited or still has the pid. -/
def Holds (table : ProcessTable) (i pid : Nat) : Prop :=
  i < table.born ∧ (i ∈ table.exited ∨ table.incarnation pid = some i)

/-- The process has lost the pid. -/
def Gone (table : ProcessTable) (i pid : Nat) : Prop := i < table.born ∧ table.incarnation pid ≠ some i

/-- What no change of the table takes back. -/
structure Evolves (table table' : ProcessTable) : Prop where
  exited : ∀ i ∈ table.exited, i ∈ table'.exited
  holds : ∀ i pid, table.Holds i pid → table'.Holds i pid
  gone : ∀ i pid, table.Gone i pid → table'.Gone i pid

variable {table table' : ProcessTable} {pid i : Nat} {stat : ProcStat}

theorem incarnation_eq_some : table.incarnation pid = some i ↔ ∃ stat, table.at? pid = some ⟨i, stat⟩ := by
  unfold incarnation
  rw [Option.map_eq_some_iff]
  constructor
  · rintro ⟨⟨j, stat⟩, hat, rfl⟩
    exact ⟨stat, hat⟩
  · rintro ⟨stat, hat⟩
    exact ⟨_, hat, rfl⟩

theorem holds_of_incarnation (h : table.incarnation pid = some i) : table.Holds i pid := by
  obtain ⟨stat, hat⟩ := incarnation_eq_some.mp h
  exact ⟨table.started pid _ hat, .inr h⟩

theorem fork_evolves (h : table.fork pid stat = some table') :
    table.Evolves table' ∧ table'.Holds table.born pid := by
  unfold fork at h
  split at h
  · rename_i hfree
    cases h
    have hinc : ∀ q i, i < table.born →
        ((Function.update table.at? pid (some ⟨table.born, stat⟩) q).map Process.incarnation = some i ↔
          table.incarnation q = some i) := by
      intro q i hi
      by_cases hq : q = pid
      · subst hq
        rw [Function.update_self]
        unfold incarnation
        rw [hfree.1]
        constructor
        · intro hsame
          cases hsame
          exact absurd hi (Nat.lt_irrefl _)
        · intro hnone
          cases hnone
      · rw [Function.update_of_ne hq]
        rfl
    refine ⟨⟨fun _ hi => hi, fun i q hholds => ?_, fun i q hgone => ?_⟩, ?_⟩
    · refine ⟨Nat.lt_succ_of_lt hholds.1, hholds.2.imp_right fun hat => ?_⟩
      exact (hinc q i hholds.1).mpr hat
    · exact ⟨Nat.lt_succ_of_lt hgone.1, fun hat => hgone.2 ((hinc q i hgone.1).mp hat)⟩
    · refine ⟨Nat.lt_succ_self _, .inr ?_⟩
      show (Function.update table.at? pid _ pid).map Process.incarnation = _
      rw [Function.update_self]
      rfl
  · cases h

theorem rewrite_evolves (h : table.rewrite pid stat = some table') : table.Evolves table' := by
  unfold rewrite at h
  split at h
  · cases h
  · rename_i process hat
    split at h
    · cases h
      have hinc : ∀ q, (Function.update table.at? pid (some ⟨process.incarnation, stat⟩) q).map
          Process.incarnation = table.incarnation q := by
        intro q
        by_cases hq : q = pid
        · subst hq
          rw [Function.update_self]
          unfold incarnation
          rw [hat]
          rfl
        · rw [Function.update_of_ne hq]
          rfl
      refine ⟨fun i hi => ?_, fun i q hholds => ⟨hholds.1, ?_⟩, fun i q hgone => ⟨hgone.1, ?_⟩⟩
      · dsimp only
        split
        · exact List.mem_cons_of_mem _ hi
        · exact hi
      · refine hholds.2.imp (fun hi => ?_) fun hat' => (hinc q).trans hat'
        dsimp only
        split
        · exact List.mem_cons_of_mem _ hi
        · exact hi
      · exact fun hat' => hgone.2 ((hinc q).symm.trans hat')
    · cases h

theorem reap_evolves (h : table.reap pid = some table') : table.Evolves table' := by
  unfold reap at h
  split at h
  · cases h
  · rename_i process hat
    split at h
    · rename_i hdead
      cases h
      have hinc : ∀ q i, (Function.update table.at? pid none q).map Process.incarnation = some i →
          table.incarnation q = some i := by
        intro q i hq
        by_cases hpid : q = pid
        · subst hpid
          rw [Function.update_self] at hq
          cases hq
        · rwa [Function.update_of_ne hpid] at hq
      refine ⟨fun _ hi => hi, fun i q hholds => ⟨hholds.1, ?_⟩, fun i q hgone => ⟨hgone.1, ?_⟩⟩
      · rcases hholds.2 with hexit | hat'
        · exact .inl hexit
        · by_cases hpid : q = pid
          · subst hpid
            obtain ⟨stat, hstat⟩ := incarnation_eq_some.mp hat'
            rw [hat] at hstat
            cases hstat
            exact .inl ((table.zombies q _ hat).mp hdead)
          · refine .inr ?_
            show (Function.update table.at? pid none q).map Process.incarnation = _
            rw [Function.update_of_ne hpid]
            exact hat'
      · exact fun hat' => hgone.2 (hinc q i hat')
    · cases h

/-- A running process has its pid, and its line is not that of a zombie. -/
theorem Holds.running (h : table.Holds i pid) (hlive : i ∉ table.exited) :
    ∃ stat, table.at? pid = some ⟨i, stat⟩ ∧ stat.dead = false := by
  obtain ⟨stat, hat⟩ := incarnation_eq_some.mp (h.2.resolve_left hlive)
  refine ⟨stat, hat, ?_⟩
  cases hdead : stat.dead with
  | false => rfl
  | true => exact absurd ((table.zombies pid _ hat).mp hdead) hlive

/-- `isAlive` is false at its signal. -/
theorem Holds.exited_of_absent (h : table.Holds i pid) (habsent : (table.at? pid).isSome = false) :
    i ∈ table.exited := by
  by_contra hlive
  obtain ⟨stat, hat, -⟩ := h.running hlive
  rw [hat] at habsent
  cases habsent

/-- `isAlive` is false at the state letter. -/
theorem Holds.exited_of_dead (h : table.Holds i pid) (hdead : aliveByState (table.stat pid) = false) :
    i ∈ table.exited := by
  by_contra hlive
  obtain ⟨stat, hat, hstate⟩ := h.running hlive
  unfold ProcessTable.stat at hdead
  rw [hat, Option.map_some, ProcStat.aliveByState_line, hstate] at hdead
  cases hdead

/-- `isAlive` is true: the process has not exited, or it has lost its pid. -/
theorem Holds.running_or_gone (h : table.Holds i pid) (halive : aliveByState (table.stat pid) = true) :
    i ∉ table.exited ∨ table.Gone i pid := by
  by_cases hinc : table.incarnation pid = some i
  · left
    intro hexit
    obtain ⟨stat, hat⟩ := incarnation_eq_some.mp hinc
    have hdead := (table.zombies pid _ hat).mpr hexit
    unfold ProcessTable.stat at halive
    rw [hat, Option.map_some, ProcStat.aliveByState_line, hdead] at halive
    cases halive
  · exact .inr ⟨h.1, hinc⟩

end ProcessTable

/-! ## What the answers and signals of a run should be -/

/-- A stop is answered, and an execution reported not to run, only when its process has exited; it is reported
to run only if its process had not exited when the call was made. -/
def SandboxReply.Truthful (reply : SandboxReply) : Prop :=
  match reply.answer with
  | .stop _ => ∀ process ∈ reply.execution, process ∈ reply.exitedAtReturn
  | .running false => ∀ process ∈ reply.execution, process ∈ reply.exitedAtReturn
  | .running true => ∃ process ∈ reply.execution, process ∉ reply.exitedAtCall
  | _ => True

/-- The check before the signal read the line of the process that the execution started. -/
def SentSignal.Aimed (sent : SentSignal) : Prop := sent.execution ≠ none ∧ sent.checked = sent.execution

def SandboxWorld.Truthful (world : SandboxWorld) : Prop :=
  (∀ reply ∈ world.replies, reply.Truthful) ∧ ∀ sent ∈ world.signals, sent.Aimed

/-- Field 23 of the line of a pid identifies the process of an execution: it still reads as recorded while
the process runs, and otherwise for every other process. -/
def fieldIdentifies (table : ProcessTable) (execution : Option Nat) (tracked : TrackedExecution) : Bool :=
  match table.at? tracked.pid with
  | none => true
  | some process =>
    if some process.incarnation = execution then
      process.stat.dead || decide (roundedInt process.stat.vsize = tracked.startTicks)
    else decide (roundedInt process.stat.vsize ≠ tracked.startTicks)

/-- No other call about the sandbox is in progress. -/
def aloneIn (world : SandboxWorld) (i : Nat) (sandboxId : String) : Bool :=
  (world.calls.set i none).all fun call =>
    match call with
    | none => true
    | some call => call.sandboxId != sandboxId

/-- What the fence takes for granted. Where the stat line is read to be compared, field 23 identifies the
process; where it is read to be recorded, the spawned process still has the pid, and no other call about the
sandbox is in progress; and where `removeSandbox` gives up waiting, the process has exited. -/
def fenceHolds (world : SandboxWorld) : SandboxOp → Bool
  | .advance i _ =>
    match world.callAt i with
    | none => true
    | some call =>
      match call.point with
      | .ticks _ tracked => fieldIdentifies world.table call.execution tracked
      | .record spec pid started =>
        decide (world.table.incarnation pid = some started) && aloneIn world i spec.sandboxId
      | .exitWait .remove _ _ true .state =>
        match call.execution with
        | none => true
        | some process => world.table.exited.contains process
      | _ => true
  | _ => true

/-! ## The invariant -/

namespace SandboxWorld

/-- A call knows the process that its sandbox was spawned with, its pid and a start value. -/
def Follows (world : SandboxWorld) (call : SandboxCall) (tracked : TrackedExecution) : Prop :=
  ∃ process, call.execution = some process ∧ world.spawned call.sandboxId = some process ∧
    world.table.Holds process tracked.pid ∧ tracked.startTicks.isSome = true

/-- What is known at each point of a call. -/
def PointOk (world : SandboxWorld) (call : SandboxCall) : CallPoint → Prop
  | .relay spec => spec.sandboxId = call.sandboxId
  | .pidfile spec pid started => spec.sandboxId = call.sandboxId ∧ world.table.Holds started pid
  | .settle spec pid started _ => spec.sandboxId = call.sandboxId ∧ world.table.Holds started pid
  | .record spec pid started => spec.sandboxId = call.sandboxId ∧ world.table.Holds started pid
  | .owns _ tracked _ => world.Follows call tracked
  | .ticks _ tracked => world.Follows call tracked ∧ ∀ process ∈ call.execution,
      process ∉ call.exitedAtCall ∨ world.table.Gone process tracked.pid
  | .signal purpose tracked checked =>
    world.Follows call tracked ∧ checked = call.execution ∧ purpose ≠ .observe
  | .exitWait purpose tracked _ _ _ => world.Follows call tracked ∧ purpose ≠ .observe

structure Ok (world : SandboxWorld) : Prop where
  mapped : ∀ sandboxId tracked, world.executions sandboxId = some tracked →
    ∃ process, world.spawned sandboxId = some process ∧ world.table.Holds process tracked.pid ∧
      tracked.startTicks.isSome = true
  dropped : ∀ sandboxId process, world.spawned sandboxId = some process →
    world.executions sandboxId = none → process ∈ world.table.exited
  since : ∀ i call, world.callAt i = some call → ∀ process ∈ call.exitedAtCall, process ∈ world.table.exited
  points : ∀ i call, world.callAt i = some call → world.PointOk call call.point
  truthful : world.Truthful

variable {options : ProcessWasmRuntimeOptions} {world : SandboxWorld} {i : Nat} {call : SandboxCall}
  {tracked : TrackedExecution} {spec : SandboxSpawnSpec} {pid started : Nat} {purpose : Purpose}

theorem ok_initial (table : ProcessTable) (now : Int) (files : String → Option (List Char)) :
    (initial table now files).Ok where
  mapped _ _ h := nomatch h
  dropped _ _ h := nomatch h
  since _ _ h := nomatch h
  points _ _ h := nomatch h
  truthful := ⟨fun _ h => (List.not_mem_nil h).elim, fun _ h => (List.not_mem_nil h).elim⟩

/-! ### Steps of the processes -/

theorem Follows.evolves {table : ProcessTable} (h : world.Follows call tracked)
    (hevolves : world.table.Evolves table) : { world with table := table }.Follows call tracked := by
  obtain ⟨process, hexecution, hspawned, hholds, hticks⟩ := h
  exact ⟨process, hexecution, hspawned, hevolves.holds _ _ hholds, hticks⟩

theorem PointOk.evolves {table : ProcessTable} {point : CallPoint} (h : world.PointOk call point)
    (hevolves : world.table.Evolves table) : { world with table := table }.PointOk call point := by
  cases point with
  | relay spec => exact h
  | pidfile spec pid started => exact ⟨h.1, hevolves.holds _ _ h.2⟩
  | settle spec pid started probe => exact ⟨h.1, hevolves.holds _ _ h.2⟩
  | record spec pid started => exact ⟨h.1, hevolves.holds _ _ h.2⟩
  | owns purpose tracked probe => exact Follows.evolves h hevolves
  | ticks purpose tracked =>
    exact ⟨h.1.evolves hevolves, fun process hp => (h.2 process hp).imp_right (hevolves.gone _ _)⟩
  | signal purpose tracked checked => exact ⟨h.1.evolves hevolves, h.2⟩
  | exitWait purpose tracked deadline last probe => exact ⟨h.1.evolves hevolves, h.2⟩

theorem Ok.evolves {table : ProcessTable} (h : world.Ok) (hevolves : world.table.Evolves table) :
    { world with table := table }.Ok where
  mapped sandboxId tracked hmap := by
    obtain ⟨process, hspawned, hholds, hticks⟩ := h.mapped sandboxId tracked hmap
    exact ⟨process, hspawned, hevolves.holds _ _ hholds, hticks⟩
  dropped sandboxId process hspawned hnone := hevolves.exited _ (h.dropped sandboxId process hspawned hnone)
  since i call hcall process hp := hevolves.exited _ (h.since i call hcall process hp)
  points i call hcall := (h.points i call hcall).evolves hevolves
  truthful := h.truthful

theorem Ok.withTable {table : Option ProcessTable} (h : world.Ok)
    (hevolves : ∀ table', table = some table' → world.table.Evolves table') : (world.withTable table).Ok := by
  cases table with
  | none => exact h
  | some table => exact h.evolves (hevolves table rfl)

/-! ### The calls -/

theorem callAt_set {j : Nat} {replacement : Option SandboxCall} (hcall : world.callAt i = some call) :
    ((world.calls.set i replacement)[j]?).join = if j = i then replacement else world.callAt j := by
  have hlt : i < world.calls.length := by
    unfold callAt at hcall
    rcases hget : world.calls[i]? with _ | entry
    · rw [hget] at hcall; cases hcall
    · exact (List.getElem?_eq_some_iff.mp hget).1
  by_cases hj : j = i
  · subst hj
    rw [if_pos rfl, List.getElem?_set_self hlt]
    rfl
  · rw [if_neg hj, List.getElem?_set_ne (Ne.symm hj)]
    rfl

theorem callAt_goto {w : SandboxWorld} {j : Nat} {point : CallPoint} (hcall : w.callAt i = some call) :
    (w.goto i call point).callAt j = if j = i then some { call with point := point } else w.callAt j :=
  callAt_set hcall

theorem callAt_answer {w : SandboxWorld} {j : Nat} {result : RuntimeAnswer} (hcall : w.callAt i = some call) :
    (w.answer i call result).callAt j = if j = i then none else w.callAt j :=
  callAt_set hcall

/-- A call goes on. -/
theorem Ok.goto {point : CallPoint} (h : world.Ok) (hcall : world.callAt i = some call)
    (hpoint : world.PointOk { call with point := point } point) : (world.goto i call point).Ok where
  mapped := h.mapped
  dropped := h.dropped
  since j other hother := by
    rw [callAt_goto hcall] at hother
    split at hother
    · cases hother
      exact h.since i call hcall
    · exact h.since j other hother
  points j other hother := by
    rw [callAt_goto hcall] at hother
    split at hother
    · cases hother
      exact hpoint
    · exact h.points j other hother
  truthful := h.truthful

/-- A call returns with a true answer. -/
theorem Ok.answer {result : RuntimeAnswer} (h : world.Ok) (hcall : world.callAt i = some call)
    (htrue : (⟨call.sandboxId, call.execution, call.exitedAtCall, world.table.exited, result⟩ :
      SandboxReply).Truthful) : (world.answer i call result).Ok where
  mapped := h.mapped
  dropped := h.dropped
  since j other hother := by
    rw [callAt_answer hcall] at hother
    split at hother
    · cases hother
    · exact h.since j other hother
  points j other hother := by
    rw [callAt_answer hcall] at hother
    split at hother
    · cases hother
    · exact h.points j other hother
  truthful := by
    refine ⟨fun reply hreply => ?_, h.truthful.2⟩
    rcases List.mem_append.mp hreply with hreply | hreply
    · exact h.truthful.1 reply hreply
    · rw [List.mem_singleton.mp hreply]
      exact htrue

/-- The files do not matter. -/
theorem Ok.withFiles {files : String → Option (List Char)} (h : world.Ok) : { world with files := files }.Ok :=
  ⟨h.mapped, h.dropped, h.since, h.points, h.truthful⟩

theorem deletePidfileIfOwns_eq (world : SandboxWorld) (tracked : TrackedExecution) :
    ∃ files, world.deletePidfileIfOwns tracked = { world with files := files } := by
  unfold deletePidfileIfOwns
  split
  · exact ⟨_, rfl⟩
  · split
    · exact ⟨_, rfl⟩
    · exact ⟨_, rfl⟩

/-- The record of an execution is dropped once its process has exited. -/
theorem Ok.finish {result : RuntimeAnswer} (h : world.Ok) (hcall : world.callAt i = some call)
    (hspawned : ∀ process, world.spawned call.sandboxId = some process → process ∈ world.table.exited)
    (htrue : (⟨call.sandboxId, call.execution, call.exitedAtCall, world.table.exited, result⟩ :
      SandboxReply).Truthful) : (world.finish i call tracked result).Ok := by
  have hdropped : { world with executions := Function.update world.executions call.sandboxId none }.Ok := by
    refine ⟨fun sandboxId other hmap => ?_, fun sandboxId process hother hnone => ?_, h.since, h.points,
      h.truthful⟩
    · by_cases hsame : sandboxId = call.sandboxId
      · subst hsame
        dsimp only at hmap
        rw [Function.update_self] at hmap
        cases hmap
      · dsimp only at hmap
        rw [Function.update_of_ne hsame] at hmap
        exact h.mapped sandboxId other hmap
    · by_cases hsame : sandboxId = call.sandboxId
      · subst hsame
        exact hspawned process hother
      · dsimp only at hnone
        rw [Function.update_of_ne hsame] at hnone
        exact h.dropped sandboxId process hother hnone
  unfold SandboxWorld.finish
  obtain ⟨files, hfiles⟩ := deletePidfileIfOwns_eq
    { world with executions := Function.update world.executions call.sandboxId none } tracked
  rw [hfiles]
  exact hdropped.withFiles.answer hcall htrue

/-! ### What the checks conclude -/

/-- The process of a call that follows it has exited. -/
def Finished (world : SandboxWorld) (call : SandboxCall) : Prop :=
  ∀ process ∈ call.execution, process ∈ world.table.exited

theorem Follows.spawned_exited (h : world.Follows call tracked) (hexit : world.Finished call) :
    ∀ process, world.spawned call.sandboxId = some process → process ∈ world.table.exited := by
  obtain ⟨process, hexecution, hspawned, -⟩ := h
  intro other hother
  rw [hspawned] at hother
  cases hother
  exact hexit process hexecution

theorem Follows.finished_of_absent (h : world.Follows call tracked)
    (habsent : ¬(world.table.at? tracked.pid).isSome = true) : world.Finished call := by
  obtain ⟨process, hexecution, -, hholds, -⟩ := h
  intro other hother
  rw [hexecution] at hother
  cases hother
  exact hholds.exited_of_absent (Bool.eq_false_iff.mpr habsent)

theorem Follows.finished_of_dead (h : world.Follows call tracked)
    (hdead : ¬aliveByState (world.table.stat tracked.pid) = true) : world.Finished call := by
  obtain ⟨process, hexecution, -, hholds, -⟩ := h
  intro other hother
  rw [hexecution] at hother
  cases hother
  exact hholds.exited_of_dead (Bool.eq_false_iff.mpr hdead)

theorem readStartTicks_stat {process : Process} (hat : world.table.at? pid = some process) :
    readStartTicks (world.table.stat pid) = roundedInt process.stat.vsize := by
  unfold readStartTicks ProcessTable.stat
  rw [hat, Option.map_some]
  exact process.stat.startTicksOf_line pid

/-- Where field 23 identifies the process, ticks that differ mean that it has exited. -/
theorem Follows.finished_of_ticks (h : world.Follows call tracked)
    (hfield : fieldIdentifies world.table call.execution tracked = true)
    (hticks : readStartTicks (world.table.stat tracked.pid) ≠ tracked.startTicks) : world.Finished call := by
  obtain ⟨process, hexecution, -, hholds, -⟩ := h
  intro other hother
  rw [hexecution] at hother
  cases hother
  by_contra hlive
  obtain ⟨stat, hat, hdead⟩ := hholds.running hlive
  unfold fieldIdentifies at hfield
  rw [hat] at hfield
  dsimp only at hfield
  rw [if_pos hexecution.symm, hdead, Bool.false_or, decide_eq_true_eq] at hfield
  exact hticks ((readStartTicks_stat hat).trans hfield)

/-- Where field 23 identifies the process, ticks that agree are those of the process. -/
theorem Follows.incarnation_of_ticks (h : world.Follows call tracked)
    (hfield : fieldIdentifies world.table call.execution tracked = true)
    (hticks : readStartTicks (world.table.stat tracked.pid) = tracked.startTicks) :
    world.table.incarnation tracked.pid = call.execution := by
  obtain ⟨process, hexecution, -, hholds, hsome⟩ := h
  rcases hat : world.table.at? tracked.pid with _ | other
  · have hnone : readStartTicks (world.table.stat tracked.pid) = none := by
      unfold readStartTicks ProcessTable.stat
      rw [hat]
      rfl
    rw [← hticks, hnone] at hsome
    cases hsome
  · unfold fieldIdentifies at hfield
    rw [hat] at hfield
    dsimp only at hfield
    by_cases hsame : some other.incarnation = call.execution
    · unfold ProcessTable.incarnation
      rw [hat, Option.map_some, hsame]
    · rw [if_neg hsame, decide_eq_true_eq] at hfield
      exact absurd ((readStartTicks_stat hat).symm.trans hticks) hfield

/-! ### What follows from them -/

theorem Ok.disowned (h : world.Ok) (hcall : world.callAt i = some call) (hfollows : world.Follows call tracked)
    (hexit : world.Finished call) : (world.disowned i call tracked purpose).Ok := by
  cases purpose with
  | term budgetMs => exact h.finish hcall (hfollows.spawned_exited hexit) hexit
  | kill => exact h.finish hcall (hfollows.spawned_exited hexit) hexit
  | remove => exact h.finish hcall (hfollows.spawned_exited hexit) trivial
  | observe => exact h.answer hcall hexit

theorem Ok.owned (h : world.Ok) (hcall : world.callAt i = some call) (hfollows : world.Follows call tracked)
    (hinc : world.table.incarnation tracked.pid = call.execution)
    (hlive : ∀ process ∈ call.execution, process ∉ call.exitedAtCall) :
    (world.owned i call tracked purpose).Ok := by
  have hpoint : ∀ purpose ≠ .observe, world.PointOk
      { call with point := .signal purpose tracked (world.table.incarnation tracked.pid) }
      (.signal purpose tracked (world.table.incarnation tracked.pid)) := fun _ hp => ⟨hfollows, hinc, hp⟩
  cases purpose with
  | term budgetMs => exact h.goto hcall (hpoint _ (by simp))
  | kill => exact h.goto hcall (hpoint _ (by simp))
  | remove => exact h.goto hcall (hpoint _ (by simp))
  | observe =>
    obtain ⟨process, hexecution, -⟩ := hfollows
    exact h.answer hcall ⟨process, hexecution, hlive process hexecution⟩

theorem Ok.waitedOut (h : world.Ok) (hcall : world.callAt i = some call)
    (hfollows : world.Follows call tracked) (hexit : world.Finished call) :
    (world.waitedOut i call tracked purpose).Ok := by
  cases purpose with
  | term budgetMs => exact h.finish hcall (hfollows.spawned_exited hexit) hexit
  | kill => exact h.finish hcall (hfollows.spawned_exited hexit) hexit
  | remove => exact h.finish hcall (hfollows.spawned_exited hexit) trivial
  | observe => exact h.finish hcall (hfollows.spawned_exited hexit) trivial

theorem Ok.outlived (h : world.Ok) (hcall : world.callAt i = some call) (hfollows : world.Follows call tracked)
    (hpurpose : purpose ≠ .observe) (hremove : purpose = .remove → world.Finished call) :
    (world.outlived i call tracked purpose).Ok := by
  cases purpose with
  | term budgetMs => exact h.goto hcall hfollows
  | kill => exact h.answer hcall trivial
  | remove => exact h.finish hcall (hfollows.spawned_exited (hremove rfl)) trivial
  | observe => exact absurd rfl hpurpose

theorem Ok.pollAgain {deadline : Int} {last : Bool} (h : world.Ok) (hcall : world.callAt i = some call)
    (hfollows : world.Follows call tracked) (hpurpose : purpose ≠ .observe)
    (hremove : last = true → purpose = .remove → world.Finished call) :
    (world.pollAgain i call purpose tracked deadline last).Ok := by
  cases last with
  | true => exact h.outlived hcall hfollows hpurpose (hremove rfl)
  | false => exact h.goto hcall ⟨hfollows, hpurpose⟩

theorem Ok.send {checked : Option Nat} (h : world.Ok) (hcall : world.callAt i = some call)
    (hfollows : world.Follows call tracked) (hchecked : checked = call.execution)
    (hpurpose : purpose ≠ .observe) : (send options world i call purpose tracked checked).Ok := by
  have hsent : { world with signals := world.signals ++
      [(⟨call.execution, tracked.pid, (signalOf options purpose).1, checked⟩ : SentSignal)] }.Ok := by
    refine ⟨h.mapped, h.dropped, h.since, h.points, h.truthful.1, fun sent hmem => ?_⟩
    rcases List.mem_append.mp hmem with hmem | hmem
    · exact h.truthful.2 sent hmem
    · rw [List.mem_singleton.mp hmem]
      obtain ⟨process, hexecution, -⟩ := hfollows
      refine ⟨?_, hchecked⟩
      show call.execution ≠ none
      rw [hexecution]
      exact Option.some_ne_none _
  exact hsent.goto hcall ⟨hfollows, hpurpose⟩

/-! ### One step -/

theorem aloneIn_ne {sandboxId : String} {j : Nat} {other : SandboxCall} (h : aloneIn world i sandboxId = true)
    (hj : j ≠ i) (hother : world.callAt j = some other) : other.sandboxId ≠ sandboxId := by
  have hmem : some other ∈ world.calls.set i none := by
    rw [List.mem_iff_getElem?]
    refine ⟨j, ?_⟩
    rw [List.getElem?_set_ne (Ne.symm hj)]
    unfold callAt at hother
    rcases hget : world.calls[j]? with _ | entry
    · rw [hget] at hother; cases hother
    · rw [hget, Option.join_some] at hother
      rw [hother]
  have hne := List.all_eq_true.mp h _ hmem
  simpa using hne

/-- An execution is recorded. -/
theorem Ok.record (h : world.Ok) (hcall : world.callAt i = some call)
    (hinc : world.table.incarnation pid = some started) (halone : aloneIn world i spec.sandboxId = true) :
    ({ world with
      executions := Function.update world.executions spec.sandboxId
        (some ⟨pid, spec.pidFilePath, readStartTicks (world.table.stat pid)⟩)
      spawned := Function.update world.spawned spec.sandboxId (some started) }.answer i call .spawned).Ok := by
  obtain ⟨stat, hat⟩ := ProcessTable.incarnation_eq_some.mp hinc
  have hticks : (readStartTicks (world.table.stat pid)).isSome = true := by
    rw [readStartTicks_stat hat]
    exact roundedInt_isSome stat.vsize_bounded.1 stat.vsize_bounded.2
  -- no other call is about this sandbox, so what the others follow is as it was
  have hother : ∀ j other, j ≠ i → world.callAt j = some other → ∀ tracked, world.Follows other tracked →
      ({ world with
        executions := Function.update world.executions spec.sandboxId
          (some ⟨pid, spec.pidFilePath, readStartTicks (world.table.stat pid)⟩)
        spawned := Function.update world.spawned spec.sandboxId (some started) } : SandboxWorld).Follows
        other tracked := by
    rintro j other hj hcallj tracked ⟨process, hexecution, hspawned, hrest⟩
    refine ⟨process, hexecution, ?_, hrest⟩
    show Function.update world.spawned spec.sandboxId (some started) other.sandboxId = some process
    rw [Function.update_of_ne (aloneIn_ne halone hj hcallj)]
    exact hspawned
  have hcallAt : ∀ j, ({ world with
      executions := Function.update world.executions spec.sandboxId
        (some ⟨pid, spec.pidFilePath, readStartTicks (world.table.stat pid)⟩)
      spawned := Function.update world.spawned spec.sandboxId (some started) }.answer i call
        .spawned).callAt j = if j = i then none else world.callAt j := fun j => callAt_set hcall
  refine ⟨fun sandboxId tracked hmap => ?_, fun sandboxId process hspawned hnone => ?_, fun j other hj => ?_,
    fun j other hj => ?_, fun reply hreply => ?_, h.truthful.2⟩
  · by_cases hsame : sandboxId = spec.sandboxId
    · subst hsame
      change Function.update world.executions spec.sandboxId _ spec.sandboxId = some tracked at hmap
      rw [Function.update_self] at hmap
      cases hmap
      refine ⟨started, ?_, ProcessTable.holds_of_incarnation hinc, hticks⟩
      exact Function.update_self _ _ _
    · change Function.update world.executions spec.sandboxId _ sandboxId = some tracked at hmap
      rw [Function.update_of_ne hsame] at hmap
      obtain ⟨process, hspawned, hrest⟩ := h.mapped sandboxId tracked hmap
      exact ⟨process, (Function.update_of_ne hsame _ _).trans hspawned, hrest⟩
  · by_cases hsame : sandboxId = spec.sandboxId
    · subst hsame
      change Function.update world.executions spec.sandboxId _ spec.sandboxId = none at hnone
      rw [Function.update_self] at hnone
      cases hnone
    · change Function.update world.executions spec.sandboxId _ sandboxId = none at hnone
      rw [Function.update_of_ne hsame] at hnone
      exact h.dropped sandboxId process ((Function.update_of_ne hsame _ _).symm.trans hspawned) hnone
  · rw [hcallAt] at hj
    split at hj
    · cases hj
    · exact h.since j other hj
  · rw [hcallAt] at hj
    split at hj
    · cases hj
    · rename_i hne
      have hold := h.points j other hj
      have hfollows := hother j other hne hj
      rcases hpoint : other.point with _ | _ | _ | _ | _ | _ | _ | _ <;> rw [hpoint] at hold
      · exact hold
      · exact hold
      · exact hold
      · exact hold
      · exact hfollows _ hold
      · exact ⟨hfollows _ hold.1, hold.2⟩
      · exact ⟨hfollows _ hold.1, hold.2⟩
      · exact ⟨hfollows _ hold.1, hold.2⟩
  · rcases List.mem_append.mp hreply with hreply | hreply
    · exact h.truthful.1 reply hreply
    · rw [List.mem_singleton.mp hreply]
      trivial

/-- A step of a call, where field 23 identifies its process. -/
theorem Ok.advance {writeError : Option String} (h : world.Ok) (hcall : world.callAt i = some call)
    (hholds : fenceHolds world (.advance i writeError) = true) :
    (advance options world i call writeError).Ok := by
  have hpoint := h.points i call hcall
  unfold fenceHolds at hholds
  dsimp only at hholds
  rw [hcall] at hholds
  dsimp only at hholds
  unfold SandboxWorld.advance
  split
  · exact h
  · rename_i spec pid started heq
    rw [heq] at hpoint
    split
    · exact h.answer hcall trivial
    · exact h.withFiles.goto hcall hpoint
  · rename_i spec pid started heq
    rw [heq] at hpoint
    split
    · exact h.goto hcall hpoint
    · exact h.withFiles.answer hcall trivial
  · rename_i spec pid started heq
    rw [heq] at hpoint
    split
    · exact h.goto hcall hpoint
    · exact h.withFiles.answer hcall trivial
  · rename_i spec pid started heq
    rw [heq] at hpoint hholds
    dsimp only at hholds
    rw [Bool.and_eq_true, decide_eq_true_eq] at hholds
    exact h.record hcall hholds.1 hholds.2
  · rename_i purpose tracked heq
    rw [heq] at hpoint
    split
    · exact h.goto hcall hpoint
    · rename_i habsent
      exact h.disowned hcall hpoint (Follows.finished_of_absent hpoint habsent)
  · rename_i purpose tracked heq
    rw [heq] at hpoint
    split
    · rename_i halive
      obtain ⟨process, hexecution, hspawned, hprocess, hticks⟩ := hpoint
      have hfollows : world.Follows call tracked := ⟨process, hexecution, hspawned, hprocess, hticks⟩
      split
      · rename_i hnone
        rw [hnone] at hticks
        cases hticks
      · refine h.goto hcall ⟨hfollows, fun other hother => ?_⟩
        rw [hexecution] at hother
        cases hother
        exact (hprocess.running_or_gone halive).imp_left fun hlive hthen =>
          hlive (h.since i call hcall process hthen)
    · rename_i hdead
      exact h.disowned hcall hpoint (Follows.finished_of_dead hpoint hdead)
  · rename_i purpose tracked heq
    rw [heq] at hpoint hholds
    split
    · rename_i hticks
      have hinc := hpoint.1.incarnation_of_ticks hholds hticks
      refine h.owned hcall hpoint.1 hinc fun process hprocess => ?_
      exact (hpoint.2 process hprocess).resolve_right fun hgone => hgone.2 (hinc.trans hprocess)
    · rename_i hticks
      exact h.disowned hcall hpoint.1 (hpoint.1.finished_of_ticks hholds hticks)
  · rename_i purpose tracked checked heq
    rw [heq] at hpoint
    exact h.send hcall hpoint.1 hpoint.2.1 hpoint.2.2
  · rename_i purpose tracked deadline last heq
    rw [heq] at hpoint
    split
    · exact h.goto hcall hpoint
    · rename_i habsent
      exact h.waitedOut hcall hpoint.1 (hpoint.1.finished_of_absent habsent)
  · rename_i purpose tracked deadline last heq
    rw [heq] at hpoint hholds
    split
    · refine h.pollAgain hcall hpoint.1 hpoint.2 fun hlast hremove => ?_
      subst hlast hremove
      dsimp only at hholds
      obtain ⟨process, hexecution, -⟩ := hpoint.1
      rw [hexecution] at hholds
      intro other hother
      rw [hexecution] at hother
      cases hother
      exact List.contains_iff_mem.mp hholds
    · rename_i hdead
      exact h.waitedOut hcall hpoint.1 (hpoint.1.finished_of_dead hdead)

theorem callAt_enter {sandboxId : String} {point : CallPoint} {j : Nat} {other : SandboxCall}
    (h : (world.enter sandboxId point).callAt j = some other) :
    world.callAt j = some other ∨ other = ⟨sandboxId, world.spawned sandboxId, world.table.exited, point⟩ := by
  unfold callAt SandboxWorld.enter at h
  dsimp only at h
  rcases Nat.lt_trichotomy j world.calls.length with hlt | heq | hgt
  · rw [List.getElem?_append_left hlt] at h
    exact .inl h
  · rw [heq, List.getElem?_append_right (Nat.le_refl _), Nat.sub_self] at h
    cases h
    exact .inr rfl
  · rw [List.getElem?_eq_none (by rw [List.length_append, List.length_singleton]; omega)] at h
    cases h

/-- A call is made. -/
theorem Ok.enter {sandboxId : String} {point : CallPoint} (h : world.Ok)
    (hpoint : world.PointOk ⟨sandboxId, world.spawned sandboxId, world.table.exited, point⟩ point) :
    (world.enter sandboxId point).Ok where
  mapped := h.mapped
  dropped := h.dropped
  since j other hj := by
    rcases callAt_enter hj with hold | rfl
    · exact h.since j other hold
    · exact fun _ hp => hp
  points j other hj := by
    rcases callAt_enter hj with hold | rfl
    · exact h.points j other hold
    · exact hpoint
  truthful := h.truthful

/-- A call that is answered at once. -/
theorem Ok.reply {sandboxId : String} {result : RuntimeAnswer} (h : world.Ok)
    (htrue : (⟨sandboxId, world.spawned sandboxId, world.table.exited, world.table.exited, result⟩ :
      SandboxReply).Truthful) : (world.reply sandboxId result).Ok where
  mapped := h.mapped
  dropped := h.dropped
  since := h.since
  points := h.points
  truthful := by
    refine ⟨fun reply hreply => ?_, h.truthful.2⟩
    rcases List.mem_append.mp hreply with hreply | hreply
    · exact h.truthful.1 reply hreply
    · rw [List.mem_singleton.mp hreply]
      exact htrue

theorem Ok.lookup {sandboxId : String} {absent : RuntimeAnswer} (h : world.Ok)
    (habsent : (∀ process ∈ world.spawned sandboxId, process ∈ world.table.exited) →
      (⟨sandboxId, world.spawned sandboxId, world.table.exited, world.table.exited, absent⟩ :
        SandboxReply).Truthful) : (world.lookup sandboxId absent purpose).Ok := by
  unfold SandboxWorld.lookup
  rcases hmap : world.executions sandboxId with _ | tracked
  · exact h.reply (habsent fun process hprocess => h.dropped sandboxId process hprocess hmap)
  · obtain ⟨process, hspawned, hholds, hticks⟩ := h.mapped sandboxId tracked hmap
    exact h.enter ⟨process, hspawned, hspawned, hholds, hticks⟩

theorem Ok.relayed {reply : SpawnReply} (h : world.Ok) (hcall : world.callAt i = some call)
    (hspec : spec.sandboxId = call.sandboxId) : (world.relayed i call spec reply).Ok := by
  cases reply with
  | relayError message => exact h.answer hcall trivial
  | otherError => exact h.answer hcall trivial
  | refused code message => exact h.answer hcall trivial
  | forked pid stat =>
    unfold SandboxWorld.relayed
    dsimp only
    rcases hfork : world.table.fork pid stat with _ | table
    · exact h
    · obtain ⟨hevolves, hholds⟩ := ProcessTable.fork_evolves hfork
      exact (h.evolves hevolves).goto hcall ⟨hspec, hholds⟩

theorem Ok.step {op : SandboxOp} (h : world.Ok) (hholds : fenceHolds world op = true) :
    (step options world op).Ok := by
  cases op with
  | fork pid stat => exact h.withTable fun _ hfork => (ProcessTable.fork_evolves hfork).1
  | rewrite pid stat => exact h.withTable fun _ hrewrite => ProcessTable.rewrite_evolves hrewrite
  | reap pid => exact h.withTable fun _ hreap => ProcessTable.reap_evolves hreap
  | clock now => exact ⟨h.mapped, h.dropped, h.since, h.points, h.truthful⟩
  | spawnExecution spec => exact h.enter rfl
  | stopExecution sandboxId budgetMs => exact h.lookup fun hexit => hexit
  | removeSandbox sandboxId => exact h.lookup fun _ => trivial
  | isRunning sandboxId => exact h.lookup fun hexit => hexit
  | relayReply i reply =>
    unfold SandboxWorld.step
    dsimp only
    split
    · exact h
    · rename_i call hcall
      have hpoint := h.points i call hcall
      split
      · rename_i spec heq
        rw [heq] at hpoint
        exact h.relayed hcall hpoint
      · exact h
  | advance i writeError =>
    unfold SandboxWorld.step
    dsimp only
    split
    · exact h
    · rename_i call hcall
      exact h.advance hcall hholds

end SandboxWorld

/-- Every run in which the fence may take for granted what it does: a stop is answered only when the process
has exited, `isRunning` is true exactly while it has not, and every signal is meant for the process whose line
was read before it. -/
theorem pid_fence_truthful (options : ProcessWasmRuntimeOptions) (table : ProcessTable) (now : Int)
    (files : String → Option (List Char)) (ops : List SandboxOp)
    (h : Along (SandboxWorld.step options) (fun world op => fenceHolds world op = true)
      (.initial table now files) ops) :
    (run (SandboxWorld.step options) (.initial table now files) ops).Truthful :=
  (Along.invariant (P := SandboxWorld.Ok) (fun _ _ hholds hok => hok.step hholds) h
    (SandboxWorld.ok_initial table now files)).truthful

/-! ## A process that grows -/

theorem sleeping_letter : 'S' ≠ ' ' ∧ 'S' ≠ ')' := by decide

/-- A running process with a start time and a size. -/
def wasmdStat (startTime vsize : Nat) : ProcStat where
  comm := ['w', 'a', 's', 'm', 'd', ')', ' ', 'x']
  state := 'S'
  numbers := List.replicate 18 0 ++ [(startTime : Int) % 2 ^ 63, (vsize : Int) % 2 ^ 63] ++ List.replicate 29 0
  letter := sleeping_letter
  complete := by simp
  bounded := by
    intro n hn
    simp only [List.mem_append, List.mem_replicate, List.mem_cons, List.not_mem_nil, or_false] at hn
    omega

def sandboxSpec : SandboxSpawnSpec := ⟨"sandbox", "/run/iweb-sandbox/wasmd-app.pid"⟩

/-- A spawn that succeeds. -/
def spawnOps : List SandboxOp :=
  [.spawnExecution sandboxSpec, .relayReply 0 (.forked 7 (wasmdStat 100 4096)), .advance 0 none, .advance 0 none,
    .advance 0 none, .advance 0 none]

/-- The process maps more memory, and the execution is stopped. -/
def growOps : List SandboxOp :=
  spawnOps ++ [.rewrite 7 (wasmdStat 100 8192), .stopExecution "sandbox" 1000, .advance 1 none, .advance 1 none,
    .advance 1 none]

/-- A process whose size has changed is called stopped while it runs: no signal is sent to it. -/
theorem growing_process_called_stopped :
    ¬∀ (options : ProcessWasmRuntimeOptions) (table : ProcessTable) (now : Int)
      (files : String → Option (List Char)) (ops : List SandboxOp),
      (run (SandboxWorld.step options) (.initial table now files) ops).Truthful := by
  intro h
  have htruthful := (h ⟨10000⟩ .empty 0 (fun _ => none) growOps).1
    ⟨"sandbox", some 0, [], [], .stop .stopped⟩ (by decide +kernel)
  exact absurd (htruthful 0 rfl) (by decide)

/-- The execution is observed, its memory stays as it is, and it exits on the signal. -/
def stopOps : List SandboxOp :=
  spawnOps ++ [.isRunning "sandbox", .advance 1 none, .advance 1 none, .advance 1 none,
    .stopExecution "sandbox" 1000, .advance 2 none, .advance 2 none, .advance 2 none, .advance 2 none,
    .advance 2 none, .rewrite 7 { wasmdStat 100 0 with state := 'Z', letter := by decide }, .advance 2 none,
    .advance 2 none, .advance 2 none, .advance 2 none]

theorem pid_fence_truthful_stop :
    (run (SandboxWorld.step ⟨10000⟩) (.initial .empty 0 fun _ => none) stopOps).Truthful ∧
    (run (SandboxWorld.step ⟨10000⟩) (.initial .empty 0 fun _ => none) stopOps).replies.map
      (fun reply => (reply.answer, reply.exitedAtReturn)) =
        [(.spawned, []), (.running true, []), (.stop .stopped, [0])] :=
  ⟨pid_fence_truthful ⟨10000⟩ .empty 0 (fun _ => none) stopOps (by decide +kernel), by decide +kernel⟩

end Iweb
