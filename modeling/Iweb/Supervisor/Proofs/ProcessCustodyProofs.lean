import Iweb.Supervisor.ProcessCustody
import Iweb.Supervisor.Proofs.ProcessRuntimeProofs

/-!
# No process is lost

A process that the relay started is in the hands of its spawn, tracked for its sandbox, or confirmed dead, in
every run that avoids seven things. A process is lost by a pidfile that cannot be written, an answer of the
relay that is lost, a second spawn for a tracked sandbox, a `removeSandbox` that stops waiting, and a call that
ends after another took its place; the pidfile of one that runs is deleted where a pid is used again, and by a
start whose process dies after another start wrote the same file.
-/

namespace Iweb

open CrashRefinement

theorem decimal_natCast_inj {n m : Nat} (h : decimal n = decimal m) : n = m := by
  have hdigits : Nat.toDigits 10 n = Nat.toDigits 10 m := h
  rw [← Nat.ofDigitChars_ten_toDigits (n := n), hdigits, Nat.ofDigitChars_ten_toDigits]

/-! ## Tables in which the start value of a process stays as it is -/

namespace ProcessTable

variable {table table' : ProcessTable} {pid process : Nat} {stat : ProcStat} {tracked : TrackedExecution}

theorem fork_frame (h : table.fork pid stat = some table') :
    table.at? pid = none ∧ ∀ q ≠ pid, table'.at? q = table.at? q := by
  unfold fork at h
  split at h
  · rename_i hfree
    cases h
    exact ⟨hfree.1, fun q hq => Function.update_of_ne hq _ _⟩
  · cases h

theorem rewrite_frame (h : table.rewrite pid stat = some table') : ∃ process, table.at? pid = some process ∧
    table'.at? pid = some ⟨process.incarnation, stat⟩ ∧ ∀ q ≠ pid, table'.at? q = table.at? q := by
  unfold rewrite at h
  split at h
  · cases h
  · rename_i process hat
    split at h
    · cases h
      exact ⟨process, hat, Function.update_self .., fun q hq => Function.update_of_ne hq _ _⟩
    · cases h

theorem reap_frame (h : table.reap pid = some table') : ∃ process, table.at? pid = some process ∧
    process.stat.dead = true ∧ ∀ q ≠ pid, table'.at? q = table.at? q := by
  unfold reap at h
  split at h
  · cases h
  · rename_i process hat
    split at h
    · rename_i hdead
      cases h
      exact ⟨process, hat, hdead, fun q hq => Function.update_of_ne hq _ _⟩
    · cases h

/-- The table evolves, and what `readStartTicks` reads of a process stays as it is while the process runs. -/
structure Steady (table table' : ProcessTable) : Prop extends table.Evolves table' where
  ticks : ∀ process pid, table.Holds process pid → process ∉ table'.exited →
    readStartTicks (table'.stat pid) = readStartTicks (table.stat pid)

theorem stat_congr (h : table'.at? pid = table.at? pid) : table'.stat pid = table.stat pid := by
  unfold ProcessTable.stat
  rw [h]

theorem fork_steady (h : table.fork pid stat = some table') : table.Steady table' where
  toEvolves := (fork_evolves h).1
  ticks process q hholds hlive := by
    obtain ⟨hfree, hframe⟩ := fork_frame h
    obtain ⟨line, hat, -⟩ := hholds.running fun hexit => hlive ((fork_evolves h).1.exited _ hexit)
    rw [stat_congr (hframe q _)]
    rintro rfl
    rw [hfree] at hat
    cases hat

theorem reap_steady (h : table.reap pid = some table') : table.Steady table' where
  toEvolves := reap_evolves h
  ticks process q hholds hlive := by
    obtain ⟨other, hother, hdead, hframe⟩ := reap_frame h
    obtain ⟨line, hat, hrunning⟩ := hholds.running fun hexit => hlive ((reap_evolves h).exited _ hexit)
    rw [stat_congr (hframe q _)]
    rintro rfl
    rw [hother] at hat
    cases hat
    rw [hdead] at hrunning
    cases hrunning

theorem rewrite_steady (h : table.rewrite pid stat = some table')
    (hconstant : stat.dead = false → ∀ process, table.at? pid = some process →
      readStartTicks (some (stat.line pid)) = readStartTicks (some (process.stat.line pid))) :
    table.Steady table' where
  toEvolves := rewrite_evolves h
  ticks process q hholds hlive := by
    obtain ⟨other, hother, hnew, hframe⟩ := rewrite_frame h
    by_cases hq : q = pid
    · subst hq
      have hsame : other.incarnation = process := by
        obtain ⟨line, hat, -⟩ := hholds.running fun hexit => hlive ((rewrite_evolves h).exited _ hexit)
        rw [hother] at hat
        cases hat
        rfl
      have hrunning : stat.dead = false :=
        Bool.eq_false_iff.mpr fun hdead => hlive (hsame ▸ (table'.zombies q _ hnew).mp hdead)
      unfold ProcessTable.stat
      rw [hnew, hother]
      exact hconstant hrunning other hother
    · rw [stat_congr (hframe q hq)]

/-- The process of a tracked execution has exited or has the pid, and while it runs `readStartTicks` reads what
was recorded. -/
def Knows (table : ProcessTable) (process : Nat) (tracked : TrackedExecution) : Prop :=
  table.Holds process tracked.pid ∧
    (process ∉ table.exited → readStartTicks (table.stat tracked.pid) = tracked.startTicks)

theorem Knows.steady (h : table.Knows process tracked) (hsteady : table.Steady table') :
    table'.Knows process tracked := by
  refine ⟨hsteady.holds _ _ h.1, fun hlive => ?_⟩
  rw [hsteady.ticks _ _ h.1 hlive]
  exact h.2 fun hexit => hlive (hsteady.exited _ hexit)

/-- Where an operation of `isAlive` is false, no process that has the pid runs. -/
theorem Holds.exited_of_probe {probe : Probe} {world : SandboxWorld} (h : world.table.Holds process pid)
    (hdead : world.probesDead pid probe = true) : process ∈ world.table.exited := by
  cases probe with
  | signal => exact h.exited_of_absent (by simpa [SandboxWorld.probesDead] using hdead)
  | state => exact h.exited_of_dead (by simpa [SandboxWorld.probesDead] using hdead)

end ProcessTable

/-! ## What an operation of a call does -/

namespace SandboxWorld

variable {options : ProcessWasmRuntimeOptions} {world : SandboxWorld} {i : Nat} {call : SandboxCall}
  {tracked : TrackedExecution} {spec : SandboxSpawnSpec} {pid started : Nat} {purpose : Purpose}

/-- A check of the runtime that finds the process of an execution gone. -/
def FindsGone (world : SandboxWorld) (tracked : TrackedExecution) : Prop :=
  (∃ probe, world.probesDead tracked.pid probe = true) ∨
    readStartTicks (world.table.stat tracked.pid) ≠ tracked.startTicks

/-- The ways in which a call advances, by what its operation finds. -/
inductive Advanced (world : SandboxWorld) (i : Nat) (call : SandboxCall) : CallEvent → SandboxWorld → Prop
  | waits (spec : SandboxSpawnSpec) (hpoint : call.point = .relay spec) : Advanced world i call .goesOn world
  | goes (files : String → Option (List Char)) (signals : List SentSignal) (point : CallPoint)
      (hspec : point.spec = call.point.spec) (hlaunch : point.launch = call.point.launch)
      (htracked : point.tracked = call.point.tracked) (haimed : point.aimed = true) :
      Advanced world i call .goesOn ({ world with files := files, signals := signals }.goto i call point)
  | returns (result : RuntimeAnswer) (hlaunch : call.point.launch = none) :
      Advanced world i call .goesOn (world.answer i call result)
  | unrecorded (process : Nat) (after : SandboxWorld) : Advanced world i call (.unrecorded process) after
  | stillborn (spec : SandboxSpawnSpec) (pid process : Nat) (probe : Probe)
      (hlaunch : call.point.launch = some ⟨process, pid, spec.sandboxId⟩)
      (hdead : world.probesDead pid probe = true) :
      Advanced world i call (.stillborn spec pid process) (world.diedEarly i call spec pid)
  | recorded (spec : SandboxSpawnSpec) (pid process : Nat)
      (hlaunch : call.point.launch = some ⟨process, pid, spec.sandboxId⟩) :
      Advanced world i call (.recorded spec pid process)
        ({ world with
          executions := Function.update world.executions spec.sandboxId
            (some ⟨pid, spec.pidFilePath, readStartTicks (world.table.stat pid)⟩)
          spawned := Function.update world.spawned spec.sandboxId (some process) }.answer i call .spawned)
  | observes (tracked : TrackedExecution) (result : RuntimeAnswer) (hpoint : call.point.tracked = some tracked)
      (hgone : world.FindsGone tracked) :
      Advanced world i call (.sawExit .observe tracked) (world.answer i call result)
  | ends (purpose : Purpose) (tracked : TrackedExecution) (result : RuntimeAnswer) (hpurpose : purpose ≠ .observe)
      (hpoint : call.point.tracked = some tracked) (hgone : world.FindsGone tracked) :
      Advanced world i call (.sawExit purpose tracked) (world.finish i call tracked result)
  | gaveUp (tracked : TrackedExecution) (hpoint : call.point.tracked = some tracked) :
      Advanced world i call (.gaveUp tracked) (world.finish i call tracked .removed)

/-- The call goes to a point without touching anything else. -/
theorem Advanced.goto (point : CallPoint) (hspec : point.spec = call.point.spec)
    (hlaunch : point.launch = call.point.launch) (htracked : point.tracked = call.point.tracked)
    (haimed : point.aimed = true) : Advanced world i call .goesOn (world.goto i call point) :=
  .goes world.files world.signals point hspec hlaunch htracked haimed

theorem Advanced.disowned (hpoint : call.point.tracked = some tracked) (hgone : world.FindsGone tracked) :
    Advanced world i call (.sawExit purpose tracked) (world.disowned i call tracked purpose) := by
  cases purpose with
  | term budgetMs => exact .ends _ _ _ (by simp) hpoint hgone
  | kill => exact .ends _ _ _ (by simp) hpoint hgone
  | remove => exact .ends _ _ _ (by simp) hpoint hgone
  | observe => exact .observes _ _ hpoint hgone

theorem Advanced.waitedOut (hpoint : call.point.tracked = some tracked) (hgone : world.FindsGone tracked)
    (hpurpose : purpose ≠ .observe) :
    Advanced world i call (.sawExit purpose tracked) (world.waitedOut i call tracked purpose) := by
  cases purpose with
  | term budgetMs => exact .ends _ _ _ (by simp) hpoint hgone
  | kill => exact .ends _ _ _ (by simp) hpoint hgone
  | remove => exact .ends _ _ _ (by simp) hpoint hgone
  | observe => exact absurd rfl hpurpose

theorem Advanced.owned (hpoint : call.point.tracked = some tracked) (hspec : call.point.spec = none)
    (hlaunch : call.point.launch = none) :
    Advanced world i call .goesOn (world.owned i call tracked purpose) := by
  cases purpose with
  | term budgetMs => exact .goto _ hspec.symm hlaunch.symm hpoint.symm rfl
  | kill => exact .goto _ hspec.symm hlaunch.symm hpoint.symm rfl
  | remove => exact .goto _ hspec.symm hlaunch.symm hpoint.symm rfl
  | observe => exact .returns _ hlaunch

/-- A wait that goes on: it polls again, or it is that of a stop, which goes on to its next signal or fails. -/
theorem Advanced.pollAgain {deadline : Int} {last : Bool} {probe : Probe}
    (hpoint : call.point = .exitWait purpose tracked deadline last probe) (hpurpose : purpose ≠ .observe)
    (hremove : last = true → purpose ≠ .remove) :
    Advanced world i call .goesOn (world.pollAgain i call purpose tracked deadline last) := by
  have hspec : call.point.spec = none := by rw [hpoint]; rfl
  have hlaunch : call.point.launch = none := by rw [hpoint]; rfl
  have htracked : call.point.tracked = some tracked := by rw [hpoint]; rfl
  unfold SandboxWorld.pollAgain
  split
  · rename_i hlast
    cases purpose with
    | term budgetMs => exact .goto _ hspec.symm hlaunch.symm htracked.symm rfl
    | kill => exact .returns _ hlaunch
    | remove => exact absurd rfl (hremove hlast)
    | observe => exact absurd rfl hpurpose
  · refine .goto _ hspec.symm hlaunch.symm htracked.symm ?_
    cases purpose with
    | term budgetMs => rfl
    | kill => rfl
    | remove => rfl
    | observe => exact absurd rfl hpurpose

/-- A probe of `isAlive` decides between two ways. -/
theorem Advanced.probed {dead alive : Bool} {event event' : CallEvent} {after after' : SandboxWorld}
    (hdead : dead = !alive) (halive : alive = true → Advanced world i call event' after)
    (hgone : dead = true → Advanced world i call event after') :
    Advanced world i call (if dead then event else event') (if alive then after else after') := by
  subst hdead
  cases alive with
  | true => exact halive rfl
  | false => exact hgone rfl

/-- A poll of `waitExited`. -/
theorem Advanced.exitWait {deadline : Int} {last : Bool} {probe : Probe} {writeError : Option String}
    (hpoint : call.point = .exitWait purpose tracked deadline last probe) (hpurpose : purpose ≠ .observe) :
    Advanced world i call (world.event call writeError) (advance options world i call writeError) := by
  have htracked : call.point.tracked = some tracked := by rw [hpoint]; rfl
  have hspec : call.point.spec = none := by rw [hpoint]; rfl
  have hlaunch : call.point.launch = none := by rw [hpoint]; rfl
  have hgone : ∀ probe, world.probesDead tracked.pid probe = true →
      Advanced world i call (.sawExit purpose tracked) (world.waitedOut i call tracked purpose) :=
    fun probe hdead => Advanced.waitedOut htracked (.inl ⟨probe, hdead⟩) hpurpose
  cases probe with
  | signal =>
    have hevent : world.event call writeError =
        if world.probesDead tracked.pid .signal then .sawExit purpose tracked else .goesOn := by
      unfold event
      rw [hpoint]
      cases purpose <;> cases last <;> rfl
    rw [hevent]
    unfold advance
    rw [hpoint]
    refine Advanced.probed rfl (fun _ => ?_) (hgone .signal)
    refine Advanced.goto _ hspec.symm hlaunch.symm htracked.symm ?_
    cases purpose with
    | term budgetMs => rfl
    | kill => rfl
    | remove => rfl
    | observe => exact absurd rfl hpurpose
  | state =>
    by_cases hlast : last = true ∧ purpose = .remove
    · obtain ⟨rfl, rfl⟩ := hlast
      unfold advance event
      rw [hpoint]
      exact Advanced.probed rfl (fun _ => .gaveUp tracked htracked) (hgone .state)
    · have hevent : world.event call writeError =
          if world.probesDead tracked.pid .state then .sawExit purpose tracked else .goesOn := by
        unfold event
        rw [hpoint]
        cases purpose with
        | term budgetMs => rfl
        | kill => rfl
        | remove =>
          cases last with
          | true => exact absurd ⟨rfl, rfl⟩ hlast
          | false => rfl
        | observe => exact absurd rfl hpurpose
      rw [hevent]
      unfold advance
      rw [hpoint]
      exact Advanced.probed rfl
        (fun _ => Advanced.pollAgain hpoint hpurpose fun h h' => hlast ⟨h, h'⟩) (hgone .state)

/-- Every operation of a call is one of these ways. -/
theorem advanced {writeError : Option String} (haimed : call.point.aimed = true) :
    Advanced world i call (world.event call writeError) (advance options world i call writeError) := by
  rcases hpoint : call.point with spec | ⟨spec, pid, started⟩ | ⟨spec, pid, started, probe⟩ |
    ⟨spec, pid, started⟩ | ⟨purpose, tracked, probe⟩ | ⟨purpose, tracked⟩ | ⟨purpose, tracked, checked⟩ |
    ⟨purpose, tracked, deadline, last, probe⟩
  · unfold advance event
    rw [hpoint]
    exact .waits spec hpoint
  · unfold advance event
    rw [hpoint]
    cases writeError with
    | some error => exact .unrecorded _ _
    | none => exact .goes _ world.signals _ (by rw [hpoint]; rfl) (by rw [hpoint]; rfl) (by rw [hpoint]; rfl) rfl
  · have hlaunch : call.point.launch = some ⟨started, pid, spec.sandboxId⟩ := by rw [hpoint]; rfl
    have hgoto : ∀ point : CallPoint, point.spec = some spec →
        point.launch = some ⟨started, pid, spec.sandboxId⟩ → point.tracked = none → point.aimed = true →
        Advanced world i call .goesOn (world.goto i call point) := by
      intro point hspec hstarted htracked
      exact Advanced.goto point (by rw [hspec, hpoint]; rfl) (by rw [hstarted, hlaunch]) (by rw [htracked, hpoint]; rfl)
    unfold advance event
    rw [hpoint]
    cases probe with
    | signal => exact Advanced.probed rfl (fun _ => hgoto _ rfl rfl rfl rfl) (.stillborn spec pid started _ hlaunch)
    | state => exact Advanced.probed rfl (fun _ => hgoto _ rfl rfl rfl rfl) (.stillborn spec pid started _ hlaunch)
  · unfold advance event
    rw [hpoint]
    exact .recorded spec pid started (by rw [hpoint]; rfl)
  · have htracked : call.point.tracked = some tracked := by rw [hpoint]; rfl
    have hspec : call.point.spec = none := by rw [hpoint]; rfl
    have hlaunch : call.point.launch = none := by rw [hpoint]; rfl
    unfold advance event
    rw [hpoint]
    cases probe with
    | signal =>
      exact Advanced.probed rfl (fun _ => Advanced.goto _ hspec.symm hlaunch.symm htracked.symm rfl)
        fun hdead => Advanced.disowned htracked (.inl ⟨_, hdead⟩)
    | state =>
      refine Advanced.probed rfl (fun _ => ?_) fun hdead => Advanced.disowned htracked (.inl ⟨_, hdead⟩)
      by_cases hticks : tracked.startTicks = none
      · rw [if_pos hticks]
        exact Advanced.owned htracked hspec hlaunch
      · rw [if_neg hticks]
        exact Advanced.goto _ hspec.symm hlaunch.symm htracked.symm rfl
  · have htracked : call.point.tracked = some tracked := by rw [hpoint]; rfl
    unfold advance event
    rw [hpoint]
    dsimp only
    by_cases hticks : readStartTicks (world.table.stat tracked.pid) = tracked.startTicks
    · rw [if_pos hticks, if_pos hticks]
      exact Advanced.owned htracked (by rw [hpoint]; rfl) (by rw [hpoint]; rfl)
    · rw [if_neg hticks, if_neg hticks]
      exact Advanced.disowned htracked (.inr hticks)
  · unfold advance event
    rw [hpoint]
    rw [hpoint] at haimed
    refine .goes world.files _ _ (by rw [hpoint]; rfl) (by rw [hpoint]; rfl) (by rw [hpoint]; rfl) ?_
    cases purpose with
    | term budgetMs => rfl
    | kill => rfl
    | remove => rfl
    | observe => cases haimed
  · refine Advanced.exitWait hpoint ?_
    rintro rfl
    rw [hpoint] at haimed
    cases haimed

theorem FindsGone.exited {process : Nat} (hgone : world.FindsGone tracked)
    (hknows : world.table.Knows process tracked) : process ∈ world.table.exited := by
  rcases hgone with ⟨probe, hdead⟩ | hticks
  · exact hknows.1.exited_of_probe hdead
  · by_contra hlive
    exact hticks (hknows.2 hlive)

/-! ## The calls that hold a process -/

theorem Spawning.goto {w : SandboxWorld} {launch : WasmdLaunch} {point : CallPoint} (h : w.Spawning launch)
    (hcall : w.callAt i = some call) (hlaunch : point.launch = call.point.launch) :
    (w.goto i call point).Spawning launch := by
  obtain ⟨j, other, hother, hstarted⟩ := h
  by_cases hj : j = i
  · subst hj
    rw [hcall] at hother
    cases hother
    exact ⟨j, _, by rw [callAt_goto hcall, if_pos rfl], hlaunch.trans hstarted⟩
  · exact ⟨j, other, by rw [callAt_goto hcall, if_neg hj, hother], hstarted⟩

theorem Spawning.answer {w : SandboxWorld} {launch : WasmdLaunch} {r : RuntimeAnswer} (h : w.Spawning launch)
    (hcall : w.callAt i = some call) :
    call.point.launch = some launch ∨ (w.answer i call r).Spawning launch := by
  obtain ⟨j, other, hother, hstarted⟩ := h
  by_cases hj : j = i
  · subst hj
    rw [hcall] at hother
    cases hother
    exact .inl hstarted
  · exact .inr ⟨j, other, by rw [callAt_answer hcall, if_neg hj, hother], hstarted⟩

theorem Spawning.enter {launch : WasmdLaunch} {sandboxId : String} {point : CallPoint}
    (h : world.Spawning launch) : (world.enter sandboxId point).Spawning launch := by
  obtain ⟨j, other, hother, hstarted⟩ := h
  refine ⟨j, other, ?_, hstarted⟩
  have hlt : j < world.calls.length := by
    by_contra hge
    unfold callAt at hother
    rw [List.getElem?_eq_none (by omega)] at hother
    cases hother
  unfold callAt SandboxWorld.enter
  dsimp only
  rw [List.getElem?_append_left hlt]
  exact hother

theorem finish_eq (world : SandboxWorld) (i : Nat) (call : SandboxCall) (tracked : TrackedExecution)
    (result : RuntimeAnswer) : ∃ files, world.finish i call tracked result =
      { world with executions := Function.update world.executions call.sandboxId none, files := files }.answer i
        call result := by
  unfold SandboxWorld.finish
  obtain ⟨files, hfiles⟩ := deletePidfileIfOwns_eq
    { world with executions := Function.update world.executions call.sandboxId none } tracked
  exact ⟨files, by rw [hfiles]⟩

end SandboxWorld

/-! ## The invariant -/

namespace RuntimeHistory

/-- What is known of a call in progress. -/
structure CallOk (history : RuntimeHistory) (call : SandboxCall) : Prop where
  spec : ∀ spec ∈ call.point.spec, spec.sandboxId = call.sandboxId
  launch : ∀ launch ∈ call.point.launch, launch ∈ history.launches
  tracked : ∀ tracked ∈ call.point.tracked, ∃ process, call.execution = some process ∧
    history.world.table.Knows process tracked
  aimed : call.point.aimed = true

/-- Every process that the relay started is accounted for. -/
structure Accounted (history : RuntimeHistory) : Prop where
  launched : ∀ launch ∈ history.launches, history.world.table.Holds launch.process launch.pid
  kept : ∀ launch ∈ history.launches, launch.process ∈ history.confirmed ∨ history.world.Spawning launch ∨
    history.world.Tracks launch
  confirmed : ∀ process ∈ history.confirmed, process ∈ history.world.table.exited
  failed : ∀ process ∈ history.failed, process ∈ history.world.table.exited
  pidfiles : ∀ deletion ∈ history.deletions, ∀ process ∈ deletion.named, deletion.execution = some process
  mapped : ∀ sandboxId tracked, history.world.executions sandboxId = some tracked →
    ∃ process, history.world.spawned sandboxId = some process ∧ history.world.table.Knows process tracked
  calls : ∀ i call, history.world.callAt i = some call → history.CallOk call

variable {options : ProcessWasmRuntimeOptions} {history after : RuntimeHistory} {i : Nat} {call : SandboxCall}
  {tracked : TrackedExecution} {spec : SandboxSpawnSpec} {pid process : Nat} {purpose : Purpose}

theorem accounted_initial (table : ProcessTable) (now : Int) (files : String → Option (List Char)) :
    (initial table now files).Accounted where
  launched _ h := (List.not_mem_nil h).elim
  kept _ h := (List.not_mem_nil h).elim
  confirmed _ h := (List.not_mem_nil h).elim
  failed _ h := (List.not_mem_nil h).elim
  pidfiles _ h := (List.not_mem_nil h).elim
  mapped _ _ h := nomatch h
  calls _ _ h := nomatch h

/-- A step of the processes. -/
theorem Accounted.steady {table : ProcessTable} (h : history.Accounted)
    (hsteady : history.world.table.Steady table) :
    { history with world := { history.world with table := table } }.Accounted where
  launched launch hlaunch := hsteady.holds _ _ (h.launched launch hlaunch)
  kept := h.kept
  confirmed p hp := hsteady.exited _ (h.confirmed p hp)
  failed p hp := hsteady.exited _ (h.failed p hp)
  pidfiles := h.pidfiles
  mapped sandboxId tracked hmap := by
    obtain ⟨p, hspawned, hknows⟩ := h.mapped sandboxId tracked hmap
    exact ⟨p, hspawned, hknows.steady hsteady⟩
  calls i call hcall := by
    have hok := h.calls i call hcall
    refine ⟨hok.spec, hok.launch, fun tracked htracked => ?_, hok.aimed⟩
    obtain ⟨p, hexecution, hknows⟩ := hok.tracked tracked htracked
    exact ⟨p, hexecution, hknows.steady hsteady⟩

/-- A step of the runtime over the same processes, from what it changes. -/
theorem Accounted.advance (h : history.Accounted) (htable : after.world.table = history.world.table)
    (hlaunches : after.launches = history.launches)
    (hkept : ∀ launch ∈ history.launches, launch.process ∈ after.confirmed ∨ after.world.Spawning launch ∨
      after.world.Tracks launch)
    (hconfirmed : ∀ p ∈ after.confirmed, p ∈ history.confirmed ∨ p ∈ history.world.table.exited)
    (hfailed : ∀ p ∈ after.failed, p ∈ history.failed ∨ p ∈ history.world.table.exited)
    (hdeletions : ∀ deletion ∈ after.deletions, deletion ∈ history.deletions ∨
      ∀ p ∈ deletion.named, deletion.execution = some p)
    (hmapped : ∀ sandboxId tracked, after.world.executions sandboxId = some tracked →
      ∃ p, after.world.spawned sandboxId = some p ∧ history.world.table.Knows p tracked)
    (hcalls : ∀ j other, after.world.callAt j = some other → history.CallOk other) : after.Accounted where
  launched launch hlaunch := by
    rw [hlaunches] at hlaunch
    rw [htable]
    exact h.launched launch hlaunch
  kept launch hlaunch := by
    rw [hlaunches] at hlaunch
    exact hkept launch hlaunch
  confirmed p hp := by
    rw [htable]
    exact (hconfirmed p hp).elim (h.confirmed p) id
  failed p hp := by
    rw [htable]
    exact (hfailed p hp).elim (h.failed p) id
  pidfiles deletion hdeletion := (hdeletions deletion hdeletion).elim (h.pidfiles deletion) id
  mapped sandboxId tracked hmap := by
    rw [htable]
    exact hmapped sandboxId tracked hmap
  calls j other hother := by
    have hok := hcalls j other hother
    refine ⟨hok.spec, fun launch hlaunch => ?_, fun tracked htracked => ?_, hok.aimed⟩
    · rw [hlaunches]
      exact hok.launch launch hlaunch
    · rw [htable]
      exact hok.tracked tracked htracked

/-! ### The pidfiles -/

theorem mem_named {path : String} {p : Nat} (h : p ∈ history.named path) : ∃ launch ∈ history.launches,
    launch.process = p ∧ history.world.pidfileIs path launch.pid = true ∧ p ∉ history.world.table.exited := by
  unfold named at h
  obtain ⟨launch, hmem, rfl⟩ := List.mem_map.mp h
  obtain ⟨hlaunch, hfile⟩ := List.mem_filter.mp hmem
  rw [Bool.and_eq_true] at hfile
  refine ⟨launch, hlaunch, rfl, hfile.1, ?_⟩
  simpa [runs] using hfile.2

theorem pidfileIs_unique {world : SandboxWorld} {path : String} {p q : Nat} (hp : world.pidfileIs path p = true)
    (hq : world.pidfileIs path q = true) : p = q := by
  unfold SandboxWorld.pidfileIs at hp hq
  rcases hfile : world.files path with _ | text
  · rw [hfile] at hp
    cases hp
  · rw [hfile, Option.any_some, decide_eq_true_eq] at hp hq
    exact decimal_natCast_inj (hp.symm.trans hq)

/-- A start whose process died early deletes no pidfile of a running one. -/
theorem Accounted.named_of_stillborn {probe : Probe} (h : history.Accounted)
    (hdead : history.world.probesDead pid probe = true)
    (hallow : (history.world.pidfileIs spec.pidFilePath pid || (history.named spec.pidFilePath).isEmpty) = true) :
    history.named spec.pidFilePath = [] := by
  rcases Bool.or_eq_true _ _ ▸ hallow with hown | hempty
  · rw [List.eq_nil_iff_forall_not_mem]
    intro p hp
    obtain ⟨launch, hlaunch, rfl, hfile, hlive⟩ := mem_named hp
    have hholds := h.launched launch hlaunch
    rw [pidfileIs_unique hfile hown] at hholds
    exact hlive (hholds.exited_of_probe hdead)
  · exact List.isEmpty_iff.mp hempty

/-- A call that ends deletes no pidfile of another running process. -/
theorem named_of_ownedDeletion {deletion : PidfileDeletion} {execution : Option Nat}
    (hallow : (!(history.world.pidfileIs tracked.pidFilePath tracked.pid &&
      history.reused tracked.pid execution)) = true)
    (hdeletion : deletion ∈ history.ownedDeletion tracked execution) :
    ∀ p ∈ deletion.named, deletion.execution = some p := by
  unfold ownedDeletion at hdeletion
  split at hdeletion
  · rename_i hown
    rw [List.mem_singleton.mp hdeletion]
    intro p hp
    obtain ⟨launch, hlaunch, rfl, hfile, hlive⟩ := mem_named hp
    by_contra hother
    have hreused : history.reused tracked.pid execution = true := by
      refine List.any_eq_true.mpr ⟨launch, hlaunch, ?_⟩
      have hpid := pidfileIs_unique hfile hown
      have hruns : history.runs launch.process = true := by simpa [runs] using hlive
      rw [hruns, decide_eq_true hpid, Bool.true_and, Bool.true_and]
      exact decide_eq_true hother
    rw [hown, hreused] at hallow
    cases hallow
  · exact (List.not_mem_nil hdeletion).elim

/-! ### The operations of a call -/

theorem launch_eq_none {point : CallPoint} (h : point.tracked = some tracked) : point.launch = none := by
  cases point with
  | relay spec => rfl
  | pidfile spec pid started => cases h
  | settle spec pid started probe => cases h
  | record spec pid started => cases h
  | owns purpose tracked probe => rfl
  | ticks purpose tracked => rfl
  | signal purpose tracked checked => rfl
  | exitWait purpose tracked deadline last probe => rfl

theorem mem_confirmed {spawned : Option Nat} {p : Nat} {confirmed : List Nat} (hspawned : spawned = some p)
    (h : spawned.any confirmed.contains = true) : p ∈ confirmed := by
  rw [hspawned, Option.any_some] at h
  exact List.contains_iff_mem.mp h

/-- The operation of a call that found the process gone. -/
theorem Accounted.exited_of_findsGone (h : history.Accounted) (hcall : history.world.callAt i = some call)
    (hpoint : call.point.tracked = some tracked) (hgone : history.world.FindsGone tracked) :
    ∀ p ∈ call.execution.toList, p ∈ history.world.table.exited := by
  obtain ⟨process, hexecution, hknows⟩ := (h.calls i call hcall).tracked tracked hpoint
  intro p hp
  rw [hexecution] at hp
  rw [List.mem_singleton.mp hp]
  exact hgone.exited hknows

/-- The entry of a call that ends is dropped: the process it was for is confirmed dead. -/
theorem Accounted.kept_of_drop {confirmed : List Nat} {files : String → Option (List Char)}
    {result : RuntimeAnswer} (h : history.Accounted) (hcall : history.world.callAt i = some call)
    (hpoint : call.point.tracked = some tracked)
    (hdrop : history.mayDrop call.sandboxId call.execution = true)
    (hsub : ∀ p ∈ history.confirmed, p ∈ confirmed) (hexecution : ∀ p, call.execution = some p → p ∈ confirmed)
    (launch : WasmdLaunch) (hlaunch : launch ∈ history.launches) :
    launch.process ∈ confirmed ∨
      ({ history.world with
        executions := Function.update history.world.executions call.sandboxId none
        files := files }.answer i call result).Spawning launch ∨
      ({ history.world with
        executions := Function.update history.world.executions call.sandboxId none
        files := files }.answer i call result).Tracks launch := by
  rcases h.kept launch hlaunch with hdead | hspawning | ⟨entry, hentry, hpid, hspawned⟩
  · exact .inl (hsub _ hdead)
  · have hanswer := SandboxWorld.Spawning.answer (r := result)
      (w := { history.world with
        executions := Function.update history.world.executions call.sandboxId none, files := files })
      hspawning hcall
    rcases hanswer with hown | hother
    · rw [launch_eq_none hpoint] at hown
      cases hown
    · exact .inr (.inl hother)
  · by_cases hsame : launch.sandboxId = call.sandboxId
    · left
      unfold mayDrop at hdrop
      rw [← hsame, hentry, Option.isNone_some, Bool.false_or, Bool.or_eq_true, decide_eq_true_eq] at hdrop
      rcases hdrop with hexec | hconfirmed
      · exact hexecution _ (hexec.symm.trans hspawned)
      · exact hsub _ (mem_confirmed hspawned hconfirmed)
    · exact .inr (.inr ⟨entry, (Function.update_of_ne hsame _ _).trans hentry, hpid, hspawned⟩)

/-- A call that ends. -/
theorem Accounted.ends {after : RuntimeHistory} {result : RuntimeAnswer} (h : history.Accounted)
    (hcall : history.world.callAt i = some call) (hpoint : call.point.tracked = some tracked)
    (hfinish : history.mayFinish call tracked = true)
    (hworld : after.world = history.world.finish i call tracked result)
    (hlaunches : after.launches = history.launches)
    (hsub : ∀ p ∈ history.confirmed, p ∈ after.confirmed)
    (hexecution : ∀ p, call.execution = some p → p ∈ after.confirmed)
    (hconfirmed : ∀ p ∈ after.confirmed, p ∈ history.confirmed ∨ p ∈ history.world.table.exited)
    (hfailed : after.failed = history.failed)
    (hdeletions : after.deletions = history.ownedDeletion tracked call.execution ++ history.deletions) :
    after.Accounted := by
  unfold mayFinish at hfinish
  rw [Bool.and_eq_true] at hfinish
  obtain ⟨files, hfiles⟩ := SandboxWorld.finish_eq history.world i call tracked result
  rw [hfiles] at hworld
  refine h.advance (by rw [hworld]; rfl) hlaunches ?_ hconfirmed (fun p hp => .inl (hfailed ▸ hp)) ?_ ?_ ?_
  · intro launch hlaunch
    rw [hworld]
    exact h.kept_of_drop hcall hpoint hfinish.1 hsub hexecution launch hlaunch
  · intro deletion hdeletion
    rw [hdeletions] at hdeletion
    rcases List.mem_append.mp hdeletion with hown | hold
    · exact .inr (named_of_ownedDeletion hfinish.2 hown)
    · exact .inl hold
  · intro sandboxId entry hmap
    rw [hworld] at hmap ⊢
    by_cases hsame : sandboxId = call.sandboxId
    · subst hsame
      change Function.update history.world.executions call.sandboxId none call.sandboxId = some entry at hmap
      rw [Function.update_self] at hmap
      cases hmap
    · change Function.update history.world.executions call.sandboxId none sandboxId = some entry at hmap
      rw [Function.update_of_ne hsame] at hmap
      exact h.mapped sandboxId entry hmap
  · intro j other hother
    rw [hworld, SandboxWorld.callAt_answer (w := { history.world with
      executions := Function.update history.world.executions call.sandboxId none, files := files }) hcall] at hother
    split at hother
    · cases hother
    · exact h.calls j other hother

/-- A call that returns and leaves the map and the pidfiles alone. -/
theorem Accounted.returns {c : List Nat} {result : RuntimeAnswer} (h : history.Accounted)
    (hcall : history.world.callAt i = some call) (hlaunch : call.point.launch = none)
    (hconfirmed : ∀ p ∈ c, p ∈ history.world.table.exited) :
    { history with
      world := history.world.answer i call result
      confirmed := c ++ history.confirmed }.Accounted := by
  refine h.advance rfl rfl (fun launch hmem => ?_) (fun p hp => ?_) (fun p hp => .inl hp)
    (fun deletion hd => .inl hd) h.mapped fun j other hother => ?_
  · rcases h.kept launch hmem with hdead | hspawning | htracks
    · exact .inl (List.mem_append_right _ hdead)
    · rcases hspawning.answer (r := result) hcall with hown | hother
      · rw [hlaunch] at hown
        cases hown
      · exact .inr (.inl hother)
    · exact .inr (.inr htracks)
  · exact (List.mem_append.mp hp).symm.imp_right (hconfirmed p)
  · dsimp only at hother
    rw [SandboxWorld.callAt_answer hcall] at hother
    split at hother
    · cases hother
    · exact h.calls j other hother

/-- A call that goes on. -/
theorem Accounted.goes {files : String → Option (List Char)} {signals : List SentSignal} {point : CallPoint}
    (h : history.Accounted) (hcall : history.world.callAt i = some call) (hspec : point.spec = call.point.spec)
    (hlaunch : point.launch = call.point.launch) (htracked : point.tracked = call.point.tracked)
    (haimed : point.aimed = true) :
    { history with
      world := { history.world with files := files, signals := signals }.goto i call point }.Accounted := by
  refine h.advance rfl rfl (fun launch hmem => ?_) (fun p hp => .inl hp) (fun p hp => .inl hp)
    (fun deletion hd => .inl hd) h.mapped fun j other hother => ?_
  · refine (h.kept launch hmem).imp_right fun hheld => hheld.imp_left fun hspawning => ?_
    exact SandboxWorld.Spawning.goto (w := { history.world with files := files, signals := signals })
      hspawning hcall hlaunch
  · rw [SandboxWorld.callAt_goto (w := { history.world with files := files, signals := signals }) hcall] at hother
    split at hother
    · cases hother
      have hok := h.calls i call hcall
      exact ⟨by rw [hspec]; exact hok.spec, by rw [hlaunch]; exact hok.launch, by rw [htracked]; exact hok.tracked,
        haimed⟩
    · exact h.calls j other hother

/-- A start whose process died in the settle window. -/
theorem Accounted.stillborn {probe : Probe} (h : history.Accounted)
    (hcall : history.world.callAt i = some call)
    (hlaunch : call.point.launch = some ⟨process, pid, spec.sandboxId⟩)
    (hdead : history.world.probesDead pid probe = true)
    (hallow : (history.world.pidfileIs spec.pidFilePath pid || (history.named spec.pidFilePath).isEmpty) = true) :
    { history.record call (.stillborn spec pid process) with
      world := history.world.diedEarly i call spec pid }.Accounted := by
  have hmem := (h.calls i call hcall).launch _ hlaunch
  have hexited : process ∈ history.world.table.exited := (h.launched _ hmem).exited_of_probe hdead
  refine h.advance rfl rfl (fun launch hlaunch' => ?_) (fun p hp => ?_) (fun p hp => ?_) (fun deletion hd => ?_)
    h.mapped fun j other hother => ?_
  · rcases h.kept launch hlaunch' with hknown | hspawning | htracks
    · exact .inl (List.mem_cons_of_mem _ hknown)
    · rcases SandboxWorld.Spawning.answer (w := history.world.deleteFile spec.pidFilePath) hspawning hcall
        with hown | hother
      · rw [hlaunch] at hown
        cases hown
        exact .inl List.mem_cons_self
      · exact .inr (.inl hother)
    · exact .inr (.inr htracks)
  · rcases List.mem_cons.mp hp with rfl | hp
    · exact .inr hexited
    · exact .inl hp
  · rcases List.mem_cons.mp hp with rfl | hp
    · exact .inr hexited
    · exact .inl hp
  · rcases List.mem_cons.mp hd with rfl | hd
    · right
      intro p hp
      have hnone : history.named spec.pidFilePath = [] := h.named_of_stillborn hdead hallow
      change p ∈ history.named spec.pidFilePath at hp
      rw [hnone] at hp
      exact (List.not_mem_nil hp).elim
    · exact .inl hd
  · change (((history.world.deleteFile spec.pidFilePath).answer i call _).callAt j) = some other at hother
    rw [SandboxWorld.callAt_answer (w := history.world.deleteFile spec.pidFilePath) hcall] at hother
    split at hother
    · cases hother
    · exact h.calls j other hother

/-- A spawn that returns: its process is tracked from now on. -/
theorem Accounted.recorded (h : history.Accounted) (hcall : history.world.callAt i = some call)
    (hlaunch : call.point.launch = some ⟨process, pid, spec.sandboxId⟩)
    (hallow : ((history.world.executions spec.sandboxId).isNone ||
      (history.world.spawned spec.sandboxId).any history.confirmed.contains) = true) :
    { history with
      world :=
        { history.world with
          executions := Function.update history.world.executions spec.sandboxId
            (some ⟨pid, spec.pidFilePath, readStartTicks (history.world.table.stat pid)⟩)
          spawned := Function.update history.world.spawned spec.sandboxId (some process) }.answer i call
            .spawned }.Accounted := by
  have hmem := (h.calls i call hcall).launch _ hlaunch
  refine h.advance rfl rfl (fun launch hlaunch' => ?_) (fun p hp => .inl hp) (fun p hp => .inl hp)
    (fun deletion hd => .inl hd) (fun sandboxId entry hmap => ?_) fun j other hother => ?_
  · rcases h.kept launch hlaunch' with hknown | hspawning | ⟨entry, hentry, hpid, hspawned⟩
    · exact .inl hknown
    · rcases SandboxWorld.Spawning.answer (r := .spawned) (w :=
        { history.world with
          executions := Function.update history.world.executions spec.sandboxId
            (some ⟨pid, spec.pidFilePath, readStartTicks (history.world.table.stat pid)⟩)
          spawned := Function.update history.world.spawned spec.sandboxId (some process) }) hspawning hcall
        with hown | hother
      · rw [hlaunch] at hown
        cases hown
        exact .inr (.inr ⟨_, Function.update_self .., rfl, Function.update_self ..⟩)
      · exact .inr (.inl hother)
    · by_cases hsame : launch.sandboxId = spec.sandboxId
      · left
        rw [← hsame, hentry, Option.isNone_some, Bool.false_or] at hallow
        exact mem_confirmed hspawned hallow
      · exact .inr (.inr ⟨entry, (Function.update_of_ne hsame _ _).trans hentry, hpid,
          (Function.update_of_ne hsame _ _).trans hspawned⟩)
  · by_cases hsame : sandboxId = spec.sandboxId
    · subst hsame
      change Function.update history.world.executions spec.sandboxId _ spec.sandboxId = some entry at hmap
      rw [Function.update_self] at hmap
      cases hmap
      exact ⟨process, Function.update_self .., h.launched _ hmem, fun _ => rfl⟩
    · change Function.update history.world.executions spec.sandboxId _ sandboxId = some entry at hmap
      rw [Function.update_of_ne hsame] at hmap
      obtain ⟨p, hspawned, hknows⟩ := h.mapped sandboxId entry hmap
      exact ⟨p, (Function.update_of_ne hsame _ _).trans hspawned, hknows⟩
  · rw [SandboxWorld.callAt_answer (w := { history.world with
      executions := Function.update history.world.executions spec.sandboxId
        (some ⟨pid, spec.pidFilePath, readStartTicks (history.world.table.stat pid)⟩)
      spawned := Function.update history.world.spawned spec.sandboxId (some process) }) hcall] at hother
    split at hother
    · cases hother
    · exact h.calls j other hother

/-- An operation of a call, under the condition for it. -/
theorem Accounted.operation {event : CallEvent} {world : SandboxWorld} (h : history.Accounted)
    (hcall : history.world.callAt i = some call) (hadvanced : history.world.Advanced i call event world)
    (hallow : history.allows call event = true) :
    { history.record call event with world := world }.Accounted := by
  cases hadvanced with
  | waits spec hpoint => exact h
  | goes files signals point hspec hlaunch htracked haimed => exact h.goes hcall hspec hlaunch htracked haimed
  | returns result hlaunch => exact h.returns (c := []) hcall hlaunch fun p hp => (List.not_mem_nil hp).elim
  | unrecorded process after => cases hallow
  | stillborn spec pid process probe hlaunch hdead => exact h.stillborn hcall hlaunch hdead hallow
  | recorded spec pid process hlaunch => exact h.recorded hcall hlaunch hallow
  | observes tracked result hpoint hgone =>
    exact h.returns hcall (launch_eq_none hpoint) (h.exited_of_findsGone hcall hpoint hgone)
  | ends purpose tracked result hpurpose hpoint hgone =>
    have hexited := h.exited_of_findsGone hcall hpoint hgone
    have hrecord : history.record call (.sawExit purpose tracked) =
        { history with
          confirmed := call.execution.toList ++ history.confirmed
          deletions := history.ownedDeletion tracked call.execution ++ history.deletions } := by
      cases purpose with
      | term budgetMs => rfl
      | kill => rfl
      | remove => rfl
      | observe => exact absurd rfl hpurpose
    have hfinish : history.mayFinish call tracked = true := by
      cases purpose with
      | term budgetMs => exact hallow
      | kill => exact hallow
      | remove => exact hallow
      | observe => exact absurd rfl hpurpose
    rw [hrecord]
    refine h.ends hcall hpoint hfinish rfl rfl (fun p hp => List.mem_append_right _ hp) (fun p hp => ?_)
      (fun p hp => ?_) rfl rfl
    · exact List.mem_append_left _ (by rw [hp]; exact List.mem_singleton_self p)
    · exact (List.mem_append.mp hp).symm.imp_right (hexited p)
  | gaveUp tracked hpoint =>
    change (call.execution.any history.confirmed.contains && history.mayFinish call tracked) = true at hallow
    rw [Bool.and_eq_true] at hallow
    exact h.ends hcall hpoint hallow.2 rfl rfl (fun p hp => hp) (fun p hp => mem_confirmed hp hallow.1)
      (fun p hp => .inl hp) rfl rfl

/-! ### One step -/

/-- A call is made. -/
theorem Accounted.enter {sandboxId : String} {point : CallPoint} (h : history.Accounted)
    (hok : history.CallOk ⟨sandboxId, history.world.spawned sandboxId, history.world.table.exited, point⟩) :
    { history with world := history.world.enter sandboxId point }.Accounted := by
  refine h.advance rfl rfl (fun launch hmem => ?_) (fun p hp => .inl hp) (fun p hp => .inl hp)
    (fun deletion hd => .inl hd) h.mapped fun j other hother => ?_
  · exact (h.kept launch hmem).imp_right fun hheld => hheld.imp_left fun hspawning => hspawning.enter
  · rcases SandboxWorld.callAt_enter hother with hold | rfl
    · exact h.calls j other hold
    · exact hok

theorem Accounted.lookup {sandboxId : String} {absent : RuntimeAnswer} (h : history.Accounted) :
    { history with world := history.world.lookup sandboxId absent purpose }.Accounted := by
  unfold SandboxWorld.lookup
  rcases hmap : history.world.executions sandboxId with _ | tracked
  · exact h.advance rfl rfl h.kept (fun p hp => .inl hp) (fun p hp => .inl hp) (fun deletion hd => .inl hd) h.mapped
      h.calls
  · obtain ⟨process, hspawned, hknows⟩ := h.mapped sandboxId tracked hmap
    refine h.enter ⟨(fun _ hspec => nomatch hspec), (fun _ hlaunch => nomatch hlaunch), fun other hother => ?_, rfl⟩
    cases hother
    exact ⟨process, hspawned, hknows⟩

/-- The relay starts a process for a spawn. -/
theorem Accounted.forked {table : ProcessTable} {stat : ProcStat} (h : history.Accounted)
    (hcall : history.world.callAt i = some call) (hpoint : call.point = .relay spec)
    (hfork : history.world.table.fork pid stat = some table) :
    { history with
      world := { history.world with table := table }.goto i call (.pidfile spec pid history.world.table.born)
      launches := ⟨history.world.table.born, pid, spec.sandboxId⟩ :: history.launches }.Accounted := by
  have hforked := h.steady (ProcessTable.fork_steady hfork)
  have hcallAt : ∀ j, ({ history.world with table := table }.goto i call
      (.pidfile spec pid history.world.table.born)).callAt j =
        if j = i then some { call with point := .pidfile spec pid history.world.table.born }
        else history.world.callAt j :=
    fun j => SandboxWorld.callAt_goto (w := { history.world with table := table }) hcall
  refine ⟨fun launch hmem => ?_, fun launch hmem => ?_, hforked.confirmed, hforked.failed, h.pidfiles, hforked.mapped,
    fun j other hother => ?_⟩
  · rcases List.mem_cons.mp hmem with rfl | hmem
    · exact (ProcessTable.fork_evolves hfork).2
    · exact hforked.launched launch hmem
  · rcases List.mem_cons.mp hmem with rfl | hmem
    · exact .inr (.inl ⟨i, _, by rw [hcallAt, if_pos rfl], rfl⟩)
    · refine (h.kept launch hmem).imp_right fun hheld => hheld.imp_left ?_
      rintro ⟨j, other, hother, hstarted⟩
      by_cases hj : j = i
      · subst hj
        rw [hcall] at hother
        cases hother
        rw [hpoint] at hstarted
        cases hstarted
      · exact ⟨j, other, by rw [hcallAt, if_neg hj, hother], hstarted⟩
  · rw [hcallAt] at hother
    split at hother
    · cases hother
      have hspec := (h.calls i call hcall).spec spec (by rw [hpoint]; rfl)
      refine ⟨fun _ hother => ?_, fun _ hstarted => ?_, (fun _ htracked => nomatch htracked), rfl⟩
      · cases hother
        exact hspec
      · cases hstarted
        exact List.mem_cons_self
    · have hok := hforked.calls j other hother
      exact ⟨hok.spec, fun launch hstarted => List.mem_cons_of_mem _ (hok.launch launch hstarted), hok.tracked,
        hok.aimed⟩

/-- An answer of the relay reaches a spawn that waits for it, or nobody. -/
theorem relayReply_cases (options : ProcessWasmRuntimeOptions) (world : SandboxWorld) (i : Nat)
    (reply : SpawnReply) :
    (world.step options (.relayReply i reply) = world ∧ ∀ pid stat, world.launch i pid stat = none) ∨
      ∃ call spec, world.callAt i = some call ∧ call.point = .relay spec ∧
        world.step options (.relayReply i reply) = world.relayed i call spec reply ∧
        ∀ pid stat, world.launch i pid stat =
          (world.table.fork pid stat).map fun _ => ⟨world.table.born, pid, spec.sandboxId⟩ := by
  unfold SandboxWorld.step SandboxWorld.launch
  rcases hcall : world.callAt i with _ | call
  · exact .inl ⟨by simp only [hcall], fun pid stat => by simp only [hcall]⟩
  · rcases hpoint : call.point with spec | _ | _ | _ | _ | _ | _ | _
    · refine .inr ⟨call, spec, rfl, hpoint, ?_, fun pid stat => ?_⟩ <;> simp only [hcall, hpoint]
    all_goals exact .inl ⟨by simp only [hcall, hpoint], fun pid stat => by simp only [hcall, hpoint]⟩

/-- An answer of the relay that starts no process. -/
theorem Accounted.refused {reply : SpawnReply} {result : RuntimeAnswer} (h : history.Accounted)
    (hreply : ∀ call spec, history.world.relayed i call spec reply = history.world.answer i call result) :
    { history with world := history.world.step options (.relayReply i reply) }.Accounted := by
  rcases relayReply_cases options history.world i reply with ⟨hworld, -⟩ | ⟨call, spec, hcall, hpoint, hworld, -⟩
  · rw [hworld]
    exact h
  · rw [hworld, hreply]
    exact h.returns (c := []) hcall (by rw [hpoint]; rfl) fun p hp => (List.not_mem_nil hp).elim

theorem Accounted.relayReply {reply : SpawnReply} (h : history.Accounted) :
    (history.step options (.op (.relayReply i reply))).Accounted := by
  cases reply with
  | relayError message => exact h.refused fun _ _ => rfl
  | otherError => exact h.refused fun _ _ => rfl
  | refused code message => exact h.refused fun _ _ => rfl
  | forked pid stat =>
    unfold step
    dsimp only
    rcases relayReply_cases options history.world i (.forked pid stat) with
      ⟨hworld, hlaunch⟩ | ⟨call, spec, hcall, hpoint, hworld, hlaunch⟩
    · rw [hworld, hlaunch]
      exact h
    · rw [hworld, hlaunch]
      unfold SandboxWorld.relayed
      dsimp only
      rcases hfork : history.world.table.fork pid stat with _ | table
      · exact h
      · exact h.forked hcall hpoint hfork

theorem Accounted.step {op : RuntimeOp} (h : history.Accounted) (hticks : ticksConstant history.world op = true)
    (hallow : history.loseNothing op = true) : (history.step options op).Accounted := by
  cases op with
  | lostReply i pid stat message =>
    unfold RuntimeHistory.step
    dsimp only
    rw [Option.isNone_iff_eq_none.mp hallow]
    exact h
  | op op =>
    cases op with
    | fork pid stat =>
      show { history with world := history.world.withTable (history.world.table.fork pid stat) }.Accounted
      rcases hfork : history.world.table.fork pid stat with _ | table
      · exact h
      · exact h.steady (ProcessTable.fork_steady hfork)
    | rewrite pid stat =>
      show { history with world := history.world.withTable (history.world.table.rewrite pid stat) }.Accounted
      rcases hrewrite : history.world.table.rewrite pid stat with _ | table
      · exact h
      · refine h.steady (ProcessTable.rewrite_steady hrewrite fun hrunning process hat => ?_)
        unfold ticksConstant at hticks
        dsimp only at hticks
        rw [hrunning, hat, Bool.false_or, Option.all_some, decide_eq_true_eq] at hticks
        exact hticks
    | reap pid =>
      show { history with world := history.world.withTable (history.world.table.reap pid) }.Accounted
      rcases hreap : history.world.table.reap pid with _ | table
      · exact h
      · exact h.steady (ProcessTable.reap_steady hreap)
    | clock now =>
      exact h.advance rfl rfl h.kept (fun p hp => .inl hp) (fun p hp => .inl hp) (fun deletion hd => .inl hd) h.mapped
        h.calls
    | spawnExecution spec =>
      refine h.enter ⟨fun other hother => ?_, (fun _ hlaunch => nomatch hlaunch), (fun _ htracked => nomatch htracked),
        rfl⟩
      cases hother
      rfl
    | stopExecution sandboxId budgetMs => exact h.lookup
    | removeSandbox sandboxId => exact h.lookup
    | isRunning sandboxId => exact h.lookup
    | relayReply i reply => exact h.relayReply
    | advance i writeError =>
      unfold loseNothing at hallow
      dsimp only at hallow
      unfold RuntimeHistory.step
      dsimp only
      split
      · exact h
      · rename_i call hcall
        rw [hcall] at hallow
        exact h.operation hcall (SandboxWorld.advanced (h.calls i call hcall).aimed) hallow

end RuntimeHistory

/-! ## A later stop -/

namespace SandboxWorld

variable {options : ProcessWasmRuntimeOptions} {world : SandboxWorld} {i : Nat} {call : SandboxCall}
  {tracked : TrackedExecution} {purpose : Purpose} {process : Nat}

theorem step_advance {writeError : Option String} (hcall : world.callAt i = some call) :
    world.step options (.advance i writeError) = advance options world i call writeError := by
  unfold SandboxWorld.step
  dsimp only
  rw [hcall]

theorem callAt_goto_self {point : CallPoint} (hcall : world.callAt i = some call) :
    (world.goto i call point).callAt i = some { call with point := point } := by
  rw [callAt_goto hcall, if_pos rfl]

theorem goto_goto {point next : CallPoint} :
    (world.goto i call point).goto i { call with point := point } next = world.goto i call next := by
  unfold SandboxWorld.goto
  simp only [List.set_set]

@[simp] theorem goto_table {point : CallPoint} : (world.goto i call point).table = world.table := rfl

theorem owned_eq (hpurpose : purpose ≠ .observe) : world.owned i call tracked purpose =
    world.goto i call (.signal purpose tracked (world.table.incarnation tracked.pid)) := by
  cases purpose with
  | term budgetMs => rfl
  | kill => rfl
  | remove => rfl
  | observe => exact absurd rfl hpurpose

/-- `stillOwnsPid` on a process that runs and reads as recorded: the signal comes next. -/
theorem owns_run {o : ProcessWasmRuntimeOptions} {w : SandboxWorld} {stat : ProcStat} (hcall : w.callAt i = some call)
    (hpoint : call.point = .owns purpose tracked .signal) (hpurpose : purpose ≠ .observe)
    (hat : w.table.at? tracked.pid = some ⟨process, stat⟩) (hdead : stat.dead = false)
    (hticks : readStartTicks (w.table.stat tracked.pid) = tracked.startTicks) :
    run (step o) w (List.replicate 3 (.advance i none)) =
      w.goto i call (.signal purpose tracked (some process)) := by
  have halive : aliveByState (w.table.stat tracked.pid) = true := by
    unfold ProcessTable.stat
    rw [hat, Option.map_some, ProcStat.aliveByState_line, hdead]
    rfl
  have hknown : tracked.startTicks ≠ none := by
    rw [← hticks, readStartTicks_stat hat]
    exact Option.isSome_iff_ne_none.mp (roundedInt_isSome stat.vsize_bounded.1 stat.vsize_bounded.2)
  have hincarnation : w.table.incarnation tracked.pid = some process :=
    ProcessTable.incarnation_eq_some.mpr ⟨stat, hat⟩
  have hthere : w.step o (.advance i none) = w.goto i call (.owns purpose tracked .state) := by
    rw [step_advance hcall]
    unfold SandboxWorld.advance
    rw [hpoint]
    dsimp only
    rw [hat]
    rfl
  have hruns : (w.goto i call (.owns purpose tracked .state)).step o (.advance i none) =
      w.goto i call (.ticks purpose tracked) := by
    rw [step_advance (callAt_goto_self hcall)]
    unfold SandboxWorld.advance
    dsimp only
    rw [goto_table, if_pos halive, if_neg hknown, goto_goto]
  have hreads : (w.goto i call (.ticks purpose tracked)).step o (.advance i none) =
      w.goto i call (.signal purpose tracked (some process)) := by
    rw [step_advance (callAt_goto_self hcall)]
    unfold SandboxWorld.advance
    dsimp only
    rw [goto_table, if_pos hticks, owned_eq hpurpose, goto_table, hincarnation, goto_goto]
  rw [List.replicate_succ, List.replicate_succ, List.replicate_one, run_cons, run_cons, run_cons, run_nil, hthere,
    hruns, hreads]

theorem callAt_enter_self {sandboxId : String} {point : CallPoint} :
    (world.enter sandboxId point).callAt world.calls.length =
      some ⟨sandboxId, world.spawned sandboxId, world.table.exited, point⟩ := by
  unfold callAt SandboxWorld.enter
  dsimp only
  rw [List.getElem?_append_right (Nat.le_refl _), Nat.sub_self]
  rfl

end SandboxWorld

namespace RuntimeHistory

variable {options : ProcessWasmRuntimeOptions} {history : RuntimeHistory}

/-- The tracked process of a sandbox gets the signal of a stop, while it runs. -/
theorem Accounted.stopSignals {launch : WasmdLaunch} (h : history.Accounted)
    (htracks : history.world.Tracks launch) (hlive : launch.process ∉ history.world.table.exited) :
    history.world.StopSignals options launch := by
  obtain ⟨tracked, hmap, hpid, hspawned⟩ := htracks
  obtain ⟨process, hprocess, hholds, hticks⟩ := h.mapped _ tracked hmap
  have hsame : process = launch.process := Option.some.inj (hprocess.symm.trans hspawned)
  subst hsame
  obtain ⟨stat, hat, hdead⟩ := hholds.running hlive
  intro budgetMs
  have hlookup : history.world.step options (.stopExecution launch.sandboxId budgetMs) =
      history.world.enter launch.sandboxId (.owns (.term budgetMs) tracked .signal) := by
    show history.world.lookup launch.sandboxId _ _ = _
    unfold SandboxWorld.lookup
    rw [hmap]
  have hreplicate : List.replicate 4 (SandboxOp.advance history.world.calls.length none) =
      List.replicate 3 (SandboxOp.advance history.world.calls.length none) ++
        [SandboxOp.advance history.world.calls.length none] := rfl
  have howns := SandboxWorld.owns_run (o := options)
    (w := history.world.enter launch.sandboxId (.owns (.term budgetMs) tracked .signal))
    SandboxWorld.callAt_enter_self rfl (by simp) hat hdead (hticks hlive)
  rw [run_cons, hlookup, hreplicate, run_append, howns, run_cons, run_nil,
    SandboxWorld.step_advance (SandboxWorld.callAt_goto_self SandboxWorld.callAt_enter_self)]
  unfold SandboxWorld.advance SandboxWorld.send
  dsimp only
  refine List.mem_append_right _ (List.mem_singleton.mpr ?_)
  rw [hspawned, hpid]
  rfl

theorem Accounted.keeps (h : history.Accounted) : history.Keeps options where
  kept launch hlaunch := by
    refine (h.kept launch hlaunch).imp_right fun hheld => hheld.imp_right fun htracks => ?_
    exact ⟨htracks, h.stopSignals htracks⟩
  confirmed := h.confirmed
  failed := h.failed
  pidfiles := h.pidfiles

end RuntimeHistory

/-- In every run in which a process keeps its start value and that loses nothing, each process that the relay
started is in the hands of its spawn, is signalled by a later stop of its sandbox, or was confirmed dead. -/
theorem no_process_lost (options : ProcessWasmRuntimeOptions) (table : ProcessTable) (now : Int)
    (files : String → Option (List Char)) (ops : List RuntimeOp)
    (h : Along (RuntimeHistory.step options)
      (fun history op => ticksConstant history.world op = true ∧ history.loseNothing op = true)
      (.initial table now files) ops) :
    (run (RuntimeHistory.step options) (.initial table now files) ops).Keeps options :=
  (Along.invariant (P := fun history : RuntimeHistory => history.Accounted)
    (fun _ _ hgood haccounted => haccounted.step hgood.1 hgood.2) h
    (RuntimeHistory.accounted_initial table now files)).keeps

/-! ## Runs that lose a process -/

/-- A pidfile that cannot be written. -/
def unrecordedOps : List RuntimeOp :=
  [.op (.spawnExecution sandboxSpec), .op (.relayReply 0 (.forked 7 (wasmdStat 100 4096))),
    .op (.advance 0 (some "ENOSPC"))]

/-- The spawn throws, and its process runs on: no stop of the sandbox reaches it. -/
theorem process_left_behind :
    ¬∀ (options : ProcessWasmRuntimeOptions) (table : ProcessTable) (now : Int)
      (files : String → Option (List Char)) (ops : List RuntimeOp),
      Along (RuntimeHistory.step options) (fun history op => ticksConstant history.world op = true)
        (.initial table now files) ops →
      (run (RuntimeHistory.step options) (.initial table now files) ops).Keeps options := by
  intro h
  have hkeeps := h ⟨10000⟩ .empty 0 (fun _ => none) unrecordedOps (by decide +kernel)
  have hdead := hkeeps.failed 0 (by decide +kernel)
  exact absurd hdead (by decide +kernel)

/-- The execution is stopped, and the next one gets its sandbox, its pidfile and its pid. -/
def nextExecutionOps : List RuntimeOp :=
  stopOps.map .op ++ [.op (.reap 7), .op (.spawnExecution sandboxSpec),
    .op (.relayReply 3 (.forked 7 (wasmdStat 200 8192))), .op (.advance 3 none), .op (.advance 3 none),
    .op (.advance 3 none), .op (.advance 3 none)]

theorem no_process_lost_next :
    (run (RuntimeHistory.step ⟨10000⟩) (.initial .empty 0 fun _ => none) nextExecutionOps).Keeps ⟨10000⟩ ∧
    (run (RuntimeHistory.step ⟨10000⟩) (.initial .empty 0 fun _ => none) nextExecutionOps).world.spawned "sandbox" =
      some 1 ∧
    (run (RuntimeHistory.step ⟨10000⟩) (.initial .empty 0 fun _ => none) nextExecutionOps).confirmed.contains 0 :=
  ⟨no_process_lost ⟨10000⟩ .empty 0 (fun _ => none) nextExecutionOps (by decide +kernel), by decide +kernel,
    by decide +kernel⟩

/-- A second spawn for a sandbox whose process is tracked and runs. -/
def respawnOps : List RuntimeOp :=
  spawnOps.map .op ++ [.op (.spawnExecution sandboxSpec), .op (.relayReply 1 (.forked 8 (wasmdStat 200 4096))),
    .op (.advance 1 none), .op (.advance 1 none), .op (.advance 1 none), .op (.advance 1 none)]

example : (run (RuntimeHistory.step ⟨10000⟩) (.initial .empty 0 fun _ => none) respawnOps).world.spawned "sandbox" =
    some 1 ∧
    (run (RuntimeHistory.step ⟨10000⟩) (.initial .empty 0 fun _ => none) respawnOps).world.table.exited = [] := by
  decide +kernel

end Iweb
