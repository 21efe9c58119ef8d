import Iweb.Foundations.CrashRefinement
import Iweb.Supervisor.Executor
import Iweb.Supervisor.ProcessTable

/-!
# The process runtime of the sandboxes

`createProcessWasmSandboxRuntime` over `systemWasmProcessRuntimeIO`. A call is a sequence of single file and
signal operations; between any two of them processes may die, be reaped and be started, and other calls may
run. The moments of a call and the executions it is about are recorded beside the state, to be compared with
its answer.
-/

namespace Iweb

open CrashRefinement

def wasmProcessLost : String := "WASM_PROCESS_LOST"

/-! ## `systemWasmProcessRuntimeIO` -/

/-- White space and line terminators of the language. -/
def isJsSpace (c : Char) : Bool :=
  let n := c.toNat
  (9 ≤ n && n ≤ 13) || n == 32 || n == 0xa0 || n == 0x1680 || (0x2000 ≤ n && n ≤ 0x200a) || n == 0x2028 ||
    n == 0x2029 || n == 0x202f || n == 0x205f || n == 0x3000 || n == 0xfeff

/-- The double nearest to a natural number, ties to even; `none` is an infinity. -/
def toDouble (n : Nat) : Option Nat :=
  let unit := 2 ^ (n.log2 - 52)
  let quotient := n / unit
  let rest := n % unit
  let rounded := if unit < 2 * rest ∨ (2 * rest = unit ∧ quotient % 2 = 1) then quotient + 1 else quotient
  if rounded * unit < 2 ^ 1024 then some (rounded * unit) else none

/-- `Number.parseInt(text, 10)`; `none` is a number that is not finite. -/
def parseInt (text : List Char) : Option Int :=
  let number := text.dropWhile isJsSpace
  let negative := number.head? == some '-'
  let digits := (if negative ∨ number.head? = some '+' then number.tail else number).takeWhile Char.isDigit
  if digits.isEmpty then none
  else (toDouble (Nat.ofDigitChars 10 digits 0)).map fun n : Nat => if negative then -(n : Int) else (n : Int)

/-- `text.lastIndexOf(")")`; `none` is `-1`. -/
def lastClose (text : List Char) : Option Nat :=
  (text.reverse.findIdx? (· == ')')).map fun back => text.length - 1 - back

/-- The field that `readStartTicks` takes of the text of a stat file. -/
def startTicksOf (text : List Char) : Option Int :=
  match lastClose text with
  | none => none
  | some close => parseInt (((text.drop (close + 2)).splitOn ' ').getD 20 [])

/-- `readStartTicks`: `none` where the file cannot be read. -/
def readStartTicks (text : Option (List Char)) : Option Int :=
  match text with
  | none => none
  | some text => startTicksOf text

/-- What `isAlive` concludes from the stat file, once the signal probe has succeeded. -/
def aliveByState (text : Option (List Char)) : Bool :=
  match text with
  | none => true
  | some text =>
    let closed := match lastClose text with
      | none => 1
      | some close => close + 2
    let state := (text.drop closed).take 1
    !(state == ['Z'] || state == ['X'] || state == ['x'])

/-- `text.trim()` -/
def jsTrim (text : List Char) : List Char :=
  ((text.dropWhile isJsSpace).reverse.dropWhile isJsSpace).reverse

/-! ## Calls and their answers -/

structure TrackedExecution where
  pid : Nat
  pidFilePath : String
  startTicks : Option Int
deriving DecidableEq

/-- What the runtime reads of a `WasmSandboxSpawnSpec`. -/
structure SandboxSpawnSpec where
  sandboxId : String
  pidFilePath : String
deriving DecidableEq

/-- `ProcessWasmRuntimeOptions`, as far as it decides an answer. -/
structure ProcessWasmRuntimeOptions where
  killGraceMs : Int

inductive StopResult
  | stopped
  | forcedKill
deriving DecidableEq

inductive RuntimeAnswer
  | spawned
  | stop (result : StopResult)
  | removed
  | running (value : Bool)
  /-- A `RuntimeFailure` of the kind `infrastructure`. -/
  | infrastructure (message : String)
  /-- Another error of the relay client. -/
  | thrown
deriving DecidableEq

/-- What the relay answers to `spawn`; a process that it started is already in the table. -/
inductive SpawnReply
  | relayError (message : String)
  | otherError
  | refused (code message : String)
  | forked (pid : Nat) (stat : ProcStat)

inductive WasmSignal
  | sigterm
  | sigkill
deriving DecidableEq

/-- Which operation of `isAlive` is next: `process.kill(pid, 0)`, or the stat file. -/
inductive Probe
  | signal
  | state
deriving DecidableEq

/-- What a call asks `stillOwnsPid` for. -/
inductive Purpose
  /-- `stopExecution`, before `SIGTERM`. -/
  | term (budgetMs : Int)
  /-- `stopExecution`, before `SIGKILL`. -/
  | kill
  /-- `removeSandbox` -/
  | remove
  /-- `isRunning` -/
  | observe
deriving DecidableEq

/-- Where a call stands. `owns` and `ticks` are in `stillOwnsPid`, `exitWait` is in `waitExited`. The number in
the points of a spawn is the process that the relay started; that of `signal` is the process whose line the
check before the signal read. -/
inductive CallPoint
  | relay (spec : SandboxSpawnSpec)
  | pidfile (spec : SandboxSpawnSpec) (pid started : Nat)
  | settle (spec : SandboxSpawnSpec) (pid started : Nat) (probe : Probe)
  | record (spec : SandboxSpawnSpec) (pid started : Nat)
  | owns (purpose : Purpose) (tracked : TrackedExecution) (probe : Probe)
  | ticks (purpose : Purpose) (tracked : TrackedExecution)
  | signal (purpose : Purpose) (tracked : TrackedExecution) (checked : Option Nat)
  | exitWait (purpose : Purpose) (tracked : TrackedExecution) (deadline : Int) (last : Bool) (probe : Probe)
deriving DecidableEq

/-- A call in progress. `execution` is the process of the execution that was spawned in the sandbox when the
call was made, and `exitedAtCall` the processes that had exited then. -/
structure SandboxCall where
  sandboxId : String
  execution : Option Nat
  exitedAtCall : List Nat
  point : CallPoint
deriving DecidableEq

/-- A call that has returned, and the processes that had exited then. -/
structure SandboxReply where
  sandboxId : String
  execution : Option Nat
  exitedAtCall : List Nat
  exitedAtReturn : List Nat
  answer : RuntimeAnswer
deriving DecidableEq

/-- A signal, the execution it was meant for, and the process whose line the check before it read. -/
structure SentSignal where
  execution : Option Nat
  pid : Nat
  signal : WasmSignal
  checked : Option Nat
deriving DecidableEq

/-! ## The world -/

structure SandboxWorld where
  table : ProcessTable
  /-- `Date.now()` -/
  now : Int
  files : String → Option (List Char)
  executions : String → Option TrackedExecution
  calls : List (Option SandboxCall)
  /-- The process of the last execution that was spawned in a sandbox. -/
  spawned : String → Option Nat
  replies : List SandboxReply
  signals : List SentSignal

namespace SandboxWorld

def initial (table : ProcessTable) (now : Int) (files : String → Option (List Char)) : SandboxWorld :=
  ⟨table, now, files, fun _ => none, [], fun _ => none, [], []⟩

/-- The call goes on to a point. -/
def goto (world : SandboxWorld) (i : Nat) (call : SandboxCall) (point : CallPoint) : SandboxWorld :=
  { world with calls := world.calls.set i (some { call with point := point }) }

/-- The call returns. -/
def answer (world : SandboxWorld) (i : Nat) (call : SandboxCall) (answer : RuntimeAnswer) : SandboxWorld :=
  { world with
    calls := world.calls.set i none
    replies := world.replies ++
      [⟨call.sandboxId, call.execution, call.exitedAtCall, world.table.exited, answer⟩] }

def deleteFile (world : SandboxWorld) (path : String) : SandboxWorld :=
  { world with files := Function.update world.files path none }

/-- `deletePidfileIfOwns` -/
def deletePidfileIfOwns (world : SandboxWorld) (tracked : TrackedExecution) : SandboxWorld :=
  match world.files tracked.pidFilePath with
  | none => world
  | some text => if jsTrim text = decimal tracked.pid then world.deleteFile tracked.pidFilePath else world

/-- `executions.delete(sandboxId)`, `deletePidfileIfOwns`, and the answer. -/
def finish (world : SandboxWorld) (i : Nat) (call : SandboxCall) (tracked : TrackedExecution)
    (result : RuntimeAnswer) : SandboxWorld :=
  ({ world with executions := Function.update world.executions call.sandboxId none }.deletePidfileIfOwns
    tracked).answer i call result

/-- The process died in the settle window. -/
def diedEarly (world : SandboxWorld) (i : Nat) (call : SandboxCall) (spec : SandboxSpawnSpec) (pid : Nat) :
    SandboxWorld :=
  (world.deleteFile spec.pidFilePath).answer i call
    (.infrastructure (wasmExecutionSpawnFailed ++ ": the wasmd process died immediately after launch (pid " ++
      String.ofList (decimal pid) ++ ")"))

/-- `stillOwnsPid` is false. -/
def disowned (world : SandboxWorld) (i : Nat) (call : SandboxCall) (tracked : TrackedExecution) :
    Purpose → SandboxWorld
  | .term _ | .kill => world.finish i call tracked (.stop .stopped)
  | .remove => world.finish i call tracked .removed
  | .observe => world.answer i call (.running false)

/-- `stillOwnsPid` is true. -/
def owned (world : SandboxWorld) (i : Nat) (call : SandboxCall) (tracked : TrackedExecution) :
    Purpose → SandboxWorld
  | .observe => world.answer i call (.running true)
  | purpose => world.goto i call (.signal purpose tracked (world.table.incarnation tracked.pid))

/-- `waitExited` is true. -/
def waitedOut (world : SandboxWorld) (i : Nat) (call : SandboxCall) (tracked : TrackedExecution) :
    Purpose → SandboxWorld
  | .term _ => world.finish i call tracked (.stop .stopped)
  | .kill => world.finish i call tracked (.stop .forcedKill)
  | .remove | .observe => world.finish i call tracked .removed

/-- `waitExited` is false. -/
def outlived (world : SandboxWorld) (i : Nat) (call : SandboxCall) (tracked : TrackedExecution) :
    Purpose → SandboxWorld
  | .term _ => world.goto i call (.owns .kill tracked .signal)
  | .kill => world.answer i call
      (.infrastructure (wasmProcessLost ++ ": the wasmd process survived a forced kill (pid " ++
        String.ofList (decimal tracked.pid) ++ ")"))
  | .remove | .observe => world.finish i call tracked .removed

/-- An `isAlive` of `waitExited` is true: the clock decides whether it sleeps and polls again, and the last
poll decides the answer. -/
def pollAgain (world : SandboxWorld) (i : Nat) (call : SandboxCall) (purpose : Purpose)
    (tracked : TrackedExecution) (deadline : Int) (last : Bool) : SandboxWorld :=
  if last then world.outlived i call tracked purpose
  else world.goto i call (.exitWait purpose tracked deadline (!decide (world.now < deadline)) .signal)

/-- The signal that a purpose sends, and the budget of the wait after it. -/
def signalOf (options : ProcessWasmRuntimeOptions) : Purpose → WasmSignal × Int
  | .term budgetMs => (.sigterm, budgetMs)
  | .kill | .remove | .observe => (.sigkill, options.killGraceMs)

/-- `io.kill`, and the deadline of the `waitExited` that follows. -/
def send (options : ProcessWasmRuntimeOptions) (world : SandboxWorld) (i : Nat) (call : SandboxCall)
    (purpose : Purpose) (tracked : TrackedExecution) (checked : Option Nat) : SandboxWorld :=
  let (signal, budgetMs) := signalOf options purpose
  let sent : SentSignal := ⟨call.execution, tracked.pid, signal, checked⟩
  { world with signals := world.signals ++ [sent] }.goto i call
    (.exitWait purpose tracked (world.now + max 0 budgetMs) false .signal)

/-- The next operation of a call; `writeError` is what a write of the pidfile answers. -/
def advance (options : ProcessWasmRuntimeOptions) (world : SandboxWorld) (i : Nat) (call : SandboxCall)
    (writeError : Option String) : SandboxWorld :=
  match call.point with
  | .relay _ => world
  | .pidfile spec pid started =>
    match writeError with
    | some error => world.answer i call
        (.infrastructure (wasmExecutionSpawnFailed ++ ": the supervisor could not record the pidfile at " ++
          spec.pidFilePath ++ ": " ++ error))
    | none =>
      { world with files := Function.update world.files spec.pidFilePath (some (decimal pid ++ ['\n'])) }.goto
        i call (.settle spec pid started .signal)
  | .settle spec pid started .signal =>
    if (world.table.at? pid).isSome then world.goto i call (.settle spec pid started .state)
    else world.diedEarly i call spec pid
  | .settle spec pid started .state =>
    if aliveByState (world.table.stat pid) then world.goto i call (.record spec pid started)
    else world.diedEarly i call spec pid
  | .record spec pid started =>
    { world with
      executions := Function.update world.executions spec.sandboxId
        (some ⟨pid, spec.pidFilePath, readStartTicks (world.table.stat pid)⟩)
      spawned := Function.update world.spawned spec.sandboxId (some started) }.answer i call .spawned
  | .owns purpose tracked .signal =>
    if (world.table.at? tracked.pid).isSome then world.goto i call (.owns purpose tracked .state)
    else world.disowned i call tracked purpose
  | .owns purpose tracked .state =>
    if aliveByState (world.table.stat tracked.pid) then
      if tracked.startTicks = none then world.owned i call tracked purpose
      else world.goto i call (.ticks purpose tracked)
    else world.disowned i call tracked purpose
  | .ticks purpose tracked =>
    if readStartTicks (world.table.stat tracked.pid) = tracked.startTicks then world.owned i call tracked purpose
    else world.disowned i call tracked purpose
  | .signal purpose tracked checked => send options world i call purpose tracked checked
  | .exitWait purpose tracked deadline last .signal =>
    if (world.table.at? tracked.pid).isSome then
      world.goto i call (.exitWait purpose tracked deadline last .state)
    else world.waitedOut i call tracked purpose
  | .exitWait purpose tracked deadline last .state =>
    if aliveByState (world.table.stat tracked.pid) then
      world.pollAgain i call purpose tracked deadline last
    else world.waitedOut i call tracked purpose

/-- The answer of the relay. -/
def relayed (world : SandboxWorld) (i : Nat) (call : SandboxCall) (spec : SandboxSpawnSpec) :
    SpawnReply → SandboxWorld
  | .relayError message =>
    world.answer i call (.infrastructure (wasmSpawnRelayUnavailable ++ ": " ++ message))
  | .otherError => world.answer i call .thrown
  | .refused code message => world.answer i call
      (.infrastructure (wasmExecutionSpawnFailed ++ ": the relay refused the direct exec: " ++ code ++ ": " ++
        message))
  | .forked pid stat =>
    match world.table.fork pid stat with
    | none => world
    | some table => { world with table := table }.goto i call (.pidfile spec pid world.table.born)

/-- A call is made. -/
def enter (world : SandboxWorld) (sandboxId : String) (point : CallPoint) : SandboxWorld :=
  { world with
    calls := world.calls ++
      [some ⟨sandboxId, world.spawned sandboxId, world.table.exited, point⟩] }

/-- A call that the map of executions answers at once. -/
def reply (world : SandboxWorld) (sandboxId : String) (answer : RuntimeAnswer) : SandboxWorld :=
  { world with
    replies := world.replies ++
      [⟨sandboxId, world.spawned sandboxId, world.table.exited, world.table.exited, answer⟩] }

/-- `executions.get(sandboxId)` at the begin of a call. -/
def lookup (world : SandboxWorld) (sandboxId : String) (absent : RuntimeAnswer) (purpose : Purpose) :
    SandboxWorld :=
  match world.executions sandboxId with
  | none => world.reply sandboxId absent
  | some tracked => world.enter sandboxId (.owns purpose tracked .signal)

end SandboxWorld

/-- What can happen next: to the processes and the clock, a call that is made, the answer of the relay to a
call, and the next operation of a call. -/
inductive SandboxOp
  | fork (pid : Nat) (stat : ProcStat)
  | rewrite (pid : Nat) (stat : ProcStat)
  | reap (pid : Nat)
  | clock (now : Int)
  | spawnExecution (spec : SandboxSpawnSpec)
  | stopExecution (sandboxId : String) (budgetMs : Int)
  | removeSandbox (sandboxId : String)
  | isRunning (sandboxId : String)
  | relayReply (call : Nat) (reply : SpawnReply)
  | advance (call : Nat) (writeError : Option String)

namespace SandboxWorld

/-- The call with an index, while it is in progress. -/
def callAt (world : SandboxWorld) (i : Nat) : Option SandboxCall := (world.calls[i]?).join

def withTable (world : SandboxWorld) : Option ProcessTable → SandboxWorld
  | none => world
  | some table => { world with table := table }

/-- One step. An operation that cannot happen changes nothing. -/
def step (options : ProcessWasmRuntimeOptions) (world : SandboxWorld) : SandboxOp → SandboxWorld
  | .fork pid stat => world.withTable (world.table.fork pid stat)
  | .rewrite pid stat => world.withTable (world.table.rewrite pid stat)
  | .reap pid => world.withTable (world.table.reap pid)
  | .clock now => { world with now := now }
  | .spawnExecution spec => world.enter spec.sandboxId (.relay spec)
  | .stopExecution sandboxId budgetMs => world.lookup sandboxId (.stop .stopped) (.term budgetMs)
  | .removeSandbox sandboxId => world.lookup sandboxId .removed .remove
  | .isRunning sandboxId => world.lookup sandboxId (.running false) .observe
  | .relayReply i reply =>
    match world.callAt i with
    | none => world
    | some call =>
      match call.point with
      | .relay spec => world.relayed i call spec reply
      | _ => world
  | .advance i writeError =>
    match world.callAt i with
    | none => world
    | some call => world.advance options i call writeError

end SandboxWorld

end Iweb
