import Iweb.Supervisor.ProcessRuntime

/-!
# The processes in the care of the runtime

A run of the process runtime together with what happened in it: the processes that the relay started, those
that a call saw dead, those whose spawn threw, and the pidfiles that were deleted. The record is written beside
the state and decides nothing in it.
-/

namespace Iweb

/-- A process that the relay started for a spawn. -/
structure WasmdLaunch where
  process : Nat
  pid : Nat
  sandboxId : String
deriving DecidableEq

/-- A pidfile was deleted by a call about an execution, while these processes ran under the pid in it. -/
structure PidfileDeletion where
  execution : Option Nat
  named : List Nat
deriving DecidableEq

/-! ## What a call is about -/

namespace CallPoint

def spec : CallPoint → Option SandboxSpawnSpec
  | .relay spec | .pidfile spec _ _ | .settle spec _ _ _ | .record spec _ _ => some spec
  | _ => none

/-- The process that a spawn has started and not recorded yet. -/
def launch : CallPoint → Option WasmdLaunch
  | .pidfile spec pid started | .settle spec pid started _ | .record spec pid started =>
    some ⟨started, pid, spec.sandboxId⟩
  | _ => none

def tracked : CallPoint → Option TrackedExecution
  | .owns _ tracked _ | .ticks _ tracked | .signal _ tracked _ | .exitWait _ tracked _ _ _ => some tracked
  | _ => none

/-- `isRunning` sends no signal and waits for nothing. -/
def aimed : CallPoint → Bool
  | .signal .observe _ _ | .exitWait .observe _ _ _ _ => false
  | _ => true

end CallPoint

/-- What the next operation of a call finds. -/
inductive CallEvent
  | goesOn
  /-- The pidfile cannot be written, and the spawn throws. -/
  | unrecorded (process : Nat)
  /-- The process died in the settle window, and the spawn throws. -/
  | stillborn (spec : SandboxSpawnSpec) (pid process : Nat)
  | recorded (spec : SandboxSpawnSpec) (pid process : Nat)
  /-- The execution is no longer there. -/
  | sawExit (purpose : Purpose) (tracked : TrackedExecution)
  /-- `removeSandbox` stops waiting for a process that is still alive. -/
  | gaveUp (tracked : TrackedExecution)
deriving DecidableEq

namespace SandboxWorld

/-- `isAlive` is false at an operation of it. -/
def probesDead (world : SandboxWorld) (pid : Nat) : Probe → Bool
  | .signal => !(world.table.at? pid).isSome
  | .state => !aliveByState (world.table.stat pid)

def event (world : SandboxWorld) (call : SandboxCall) (writeError : Option String) : CallEvent :=
  match call.point with
  | .pidfile _ _ started => if writeError.isSome then .unrecorded started else .goesOn
  | .settle spec pid started probe => if world.probesDead pid probe then .stillborn spec pid started else .goesOn
  | .record spec pid started => .recorded spec pid started
  | .owns purpose tracked probe =>
    if world.probesDead tracked.pid probe then .sawExit purpose tracked else .goesOn
  | .ticks purpose tracked =>
    if readStartTicks (world.table.stat tracked.pid) = tracked.startTicks then .goesOn
    else .sawExit purpose tracked
  | .exitWait .remove tracked _ true .state =>
    if world.probesDead tracked.pid .state then .sawExit .remove tracked else .gaveUp tracked
  | .exitWait purpose tracked _ _ probe =>
    if world.probesDead tracked.pid probe then .sawExit purpose tracked else .goesOn
  | .relay _ | .signal _ _ _ => .goesOn

/-- The process that an answer of the relay starts for a spawn that waits for it. -/
def launch (world : SandboxWorld) (i pid : Nat) (stat : ProcStat) : Option WasmdLaunch :=
  match world.callAt i with
  | none => none
  | some call =>
    match call.point with
    | .relay spec => (world.table.fork pid stat).map fun _ => ⟨world.table.born, pid, spec.sandboxId⟩
    | _ => none

/-- The pidfile holds a pid. -/
def pidfileIs (world : SandboxWorld) (path : String) (pid : Nat) : Bool :=
  (world.files path).any fun text => decide (jsTrim text = decimal pid)

end SandboxWorld

/-! ## The record of a run -/

/-- What can happen next. The answer of the relay to a spawn may also be lost after it started the process:
the request times out, or the connection breaks. -/
inductive RuntimeOp
  | op (op : SandboxOp)
  | lostReply (call pid : Nat) (stat : ProcStat) (message : String)

structure RuntimeHistory where
  world : SandboxWorld
  launches : List WasmdLaunch
  /-- The processes that a call of the runtime saw dead. -/
  confirmed : List Nat
  /-- The processes whose `spawnExecution` threw. -/
  failed : List Nat
  deletions : List PidfileDeletion

namespace RuntimeHistory

def initial (table : ProcessTable) (now : Int) (files : String → Option (List Char)) : RuntimeHistory :=
  ⟨.initial table now files, [], [], [], []⟩

def runs (history : RuntimeHistory) (process : Nat) : Bool := !history.world.table.exited.contains process

/-- The running processes of the relay that a pidfile names. -/
def named (history : RuntimeHistory) (path : String) : List Nat :=
  (history.launches.filter fun launch =>
    history.world.pidfileIs path launch.pid && history.runs launch.process).map WasmdLaunch.process

/-- The deletion of a pidfile in the name of an execution. -/
def deletion (history : RuntimeHistory) (path : String) (execution : Option Nat) : PidfileDeletion :=
  ⟨execution, history.named path⟩

/-- `deletePidfileIfOwns` as the record has it. -/
def ownedDeletion (history : RuntimeHistory) (tracked : TrackedExecution) (execution : Option Nat) :
    List PidfileDeletion :=
  if history.world.pidfileIs tracked.pidFilePath tracked.pid then
    [history.deletion tracked.pidFilePath execution]
  else []

/-- What an operation of a call leaves in the record. -/
def record (history : RuntimeHistory) (call : SandboxCall) : CallEvent → RuntimeHistory
  | .goesOn | .recorded _ _ _ => history
  | .unrecorded process => { history with failed := process :: history.failed }
  | .stillborn spec _ process =>
    { history with
      confirmed := process :: history.confirmed
      failed := process :: history.failed
      deletions := history.deletion spec.pidFilePath (some process) :: history.deletions }
  | .sawExit .observe _ => { history with confirmed := call.execution.toList ++ history.confirmed }
  | .sawExit _ tracked =>
    { history with
      confirmed := call.execution.toList ++ history.confirmed
      deletions := history.ownedDeletion tracked call.execution ++ history.deletions }
  | .gaveUp tracked =>
    { history with deletions := history.ownedDeletion tracked call.execution ++ history.deletions }

def step (options : ProcessWasmRuntimeOptions) (history : RuntimeHistory) : RuntimeOp → RuntimeHistory
  | .op (.relayReply i (.forked pid stat)) =>
    { history with
      world := history.world.step options (.relayReply i (.forked pid stat))
      launches := (history.world.launch i pid stat).toList ++ history.launches }
  | .op (.advance i writeError) =>
    match history.world.callAt i with
    | none => history
    | some call =>
      { history.record call (history.world.event call writeError) with
        world := history.world.advance options i call writeError }
  | .op op => { history with world := history.world.step options op }
  | .lostReply i pid stat message =>
    match history.world.launch i pid stat with
    | none => history
    | some launch =>
      { history with
        world := (history.world.step options (.fork pid stat)).step options (.relayReply i (.relayError message))
        launches := launch :: history.launches
        failed := launch.process :: history.failed }

end RuntimeHistory

/-! ## No process is lost -/

/-- The process is in the hands of its spawn, which has not returned. -/
def SandboxWorld.Spawning (world : SandboxWorld) (launch : WasmdLaunch) : Prop :=
  ∃ i call, world.callAt i = some call ∧ call.point.launch = some launch

/-- The process is that of the tracked execution of its sandbox. -/
def SandboxWorld.Tracks (world : SandboxWorld) (launch : WasmdLaunch) : Prop :=
  ∃ tracked, world.executions launch.sandboxId = some tracked ∧ tracked.pid = launch.pid ∧
    world.spawned launch.sandboxId = some launch.process

/-- A stop of the sandbox sends `SIGTERM` to the process. -/
def SandboxWorld.StopSignals (options : ProcessWasmRuntimeOptions) (world : SandboxWorld) (launch : WasmdLaunch) :
    Prop :=
  ∀ budgetMs : Int, ⟨some launch.process, launch.pid, .sigterm, some launch.process⟩ ∈
    (CrashRefinement.run (step options) world
      (.stopExecution launch.sandboxId budgetMs :: List.replicate 4 (.advance world.calls.length none))).signals

/-- What should hold in every state of every run. -/
structure RuntimeHistory.Keeps (options : ProcessWasmRuntimeOptions) (history : RuntimeHistory) : Prop where
  /-- A process that was not confirmed dead is in the hands of its spawn, or tracked, and a stop signals it. -/
  kept : ∀ launch ∈ history.launches, launch.process ∈ history.confirmed ∨ history.world.Spawning launch ∨
    history.world.Tracks launch ∧
      (launch.process ∉ history.world.table.exited → history.world.StopSignals options launch)
  /-- What was confirmed dead is dead. -/
  confirmed : ∀ process ∈ history.confirmed, process ∈ history.world.table.exited
  /-- A spawn that throws leaves no process that runs. -/
  failed : ∀ process ∈ history.failed, process ∈ history.world.table.exited
  /-- No pidfile is deleted while it names another process that runs. -/
  pidfiles : ∀ deletion ∈ history.deletions, ∀ process ∈ deletion.named, deletion.execution = some process

/-! ## The condition -/

/-- `readStartTicks` reads one value for one process, as long as it runs. -/
def ticksConstant (world : SandboxWorld) : RuntimeOp → Bool
  | .op (.rewrite pid stat) =>
    stat.dead || (world.table.at? pid).all fun process =>
      decide (readStartTicks (some (stat.line pid)) = readStartTicks (some (process.stat.line pid)))
  | _ => true

namespace RuntimeHistory

/-- The entry of a sandbox may go: there is none, it is that of the execution, or its process was confirmed
dead. -/
def mayDrop (history : RuntimeHistory) (sandboxId : String) (execution : Option Nat) : Bool :=
  (history.world.executions sandboxId).isNone || decide (history.world.spawned sandboxId = execution) ||
    (history.world.spawned sandboxId).any history.confirmed.contains

/-- The pid is that of another running process of the relay. -/
def reused (history : RuntimeHistory) (pid : Nat) (execution : Option Nat) : Bool :=
  history.launches.any fun launch =>
    decide (launch.pid = pid) && history.runs launch.process && decide (execution ≠ some launch.process)

/-- The condition for a call that ends: the entry it removes is the one that it read, and where the pidfile
holds the pid, the pid has not been reused. -/
def mayFinish (history : RuntimeHistory) (call : SandboxCall) (tracked : TrackedExecution) : Bool :=
  history.mayDrop call.sandboxId call.execution &&
    !(history.world.pidfileIs tracked.pidFilePath tracked.pid && history.reused tracked.pid call.execution)

/-- The condition for an operation of a call. -/
def allows (history : RuntimeHistory) (call : SandboxCall) : CallEvent → Bool
  | .goesOn => true
  | .unrecorded _ => false
  | .stillborn spec pid _ =>
    history.world.pidfileIs spec.pidFilePath pid || (history.named spec.pidFilePath).isEmpty
  | .recorded spec _ _ =>
    (history.world.executions spec.sandboxId).isNone ||
      (history.world.spawned spec.sandboxId).any history.confirmed.contains
  | .sawExit .observe _ => true
  | .sawExit _ tracked => history.mayFinish call tracked
  | .gaveUp tracked => call.execution.any history.confirmed.contains && history.mayFinish call tracked

/-- Every pidfile can be written, no answer of the relay is lost after it started a process, no sandbox is
spawned again before the process that is tracked for it was confirmed dead, `removeSandbox` stops waiting only
for a process that is, a call that ends finds the entry it read and its pid not reused, and a start whose
process dies finds its own pidfile, or one that names no process of the relay that runs. -/
def loseNothing (history : RuntimeHistory) : RuntimeOp → Bool
  | .op (.advance i writeError) =>
    match history.world.callAt i with
    | none => true
    | some call => history.allows call (history.world.event call writeError)
  | .op _ => true
  | .lostReply i pid stat _ => (history.world.launch i pid stat).isNone

end RuntimeHistory

end Iweb
