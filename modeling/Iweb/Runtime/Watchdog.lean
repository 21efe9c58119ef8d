import Iweb.Runtime.ProcessSampling
import Iweb.Foundations.CrashRefinement

/-!
# The memory watchdog

After every refresh the watchdog reads the pidfile of each application whose sample is above its limit, checks the
command line and the start time of the process it names, and kills it. A run of sampling rounds is recorded with what
each of them measured, reported and killed; the record is written beside the samples and decides nothing.
-/

namespace Iweb.Sampling

open CrashRefinement

/-! ## The policy -/

structure ResourcePolicy where
  defaultBytes : ℕ
  apps : List (String × ℕ)
  wasmdDefaultBytes : ℕ
  wasmdApps : List (String × ℕ)
deriving DecidableEq

def defaultCelldMemoryLimitBytes : ℕ := 536870912

/-- A policy file as it is deserialized. -/
structure PolicyWire where
  defaultBytes : ℕ
  apps : List (String × ℕ)
  wasmdDefaultBytes : Option ℕ
  wasmdApps : Option (List (String × ℕ))

namespace ResourcePolicy

def default : ResourcePolicy := ⟨defaultCelldMemoryLimitBytes, [], defaultCelldMemoryLimitBytes, []⟩

def parse (wire : PolicyWire) : Option ResourcePolicy :=
  if wire.defaultBytes = 0 then none
  else if wire.apps.any (·.2 == 0) then none
  else
    let wasmdDefaultBytes := wire.wasmdDefaultBytes.getD wire.defaultBytes
    if wasmdDefaultBytes = 0 then none
    else
      let wasmdApps := wire.wasmdApps.getD []
      if wasmdApps.any (·.2 == 0) then none else some ⟨wire.defaultBytes, wire.apps, wasmdDefaultBytes, wasmdApps⟩

/-- `limit_for` and `wasmd_limit_for` -/
def limitFor (policy : ResourcePolicy) (tier : Tier) (app : String) : ℕ :=
  match tier with
  | .celld => (policy.apps.lookup app).getD policy.defaultBytes
  | .wasmd => (policy.wasmdApps.lookup app).getD policy.wasmdDefaultBytes

end ResourcePolicy

/-! ## Enforcement -/

inductive EventOutcome
  | killed
  | pidReuseRefused
deriving DecidableEq

structure WatchdogEvent where
  applicationId : String
  runtimeKind : Tier
  outcome : EventOutcome
  sampledBytes : ℕ
  limitBytes : ℕ
  terminatedAt : String
deriving DecidableEq

def watchdogEventRingMax : ℕ := 20

structure Watchdog where
  policy : ResourcePolicy
  policyFailureLogged : Bool
  events : List WatchdogEvent
deriving DecidableEq

namespace Watchdog

def new : Watchdog := ⟨.default, false, []⟩

/-- `reload_policy`; `none` for a file that cannot be read or deserialized. -/
def reloadPolicy (watchdog : Watchdog) (wire : Option PolicyWire) : Watchdog :=
  match wire >>= ResourcePolicy.parse with
  | some policy => { watchdog with policy := policy }
  | none => { watchdog with policy := .default, policyFailureLogged := true }

def recordEvent (watchdog : Watchdog) (event : WatchdogEvent) : Watchdog :=
  let kept := if watchdogEventRingMax ≤ watchdog.events.length then watchdog.events.tail else watchdog.events
  { watchdog with events := kept ++ [event] }

end Watchdog

/-- The word that the command line of a process of the tier contains. -/
def Tier.cmdlineMarker : Tier → List Char
  | celld => "celld".toList
  | wasmd => "wasmd".toList

/-- What the reads of one enforcement find, the host that the signal meets, and whether it may be sent. -/
structure EnforceReads where
  pidfile : HostView
  cmdline : HostView
  stat : HostView
  kill : HostView
  permitted : Bool
  now : String

/-- `pid as i32` -/
def asI32 (pid : ℕ) : Int := if pid < 2 ^ 31 then pid else (pid : Int) - 2 ^ 32

/-- The process that a signal reaches. -/
def HostView.target (view : HostView) (argument : Int) : Option ProcessId :=
  if 0 < argument then (view.process argument.toNat).map fun p => ⟨argument.toNat, p.startTicks⟩ else none

/-- The process that the pidfile names, if its command line has the marker of the tier. -/
def EnforceReads.namedPid (reads : EnforceReads) (tier : Tier) (app : String) : Option ℕ := do
  let pid ← reads.pidfile.readPid (tier.pidfile app)
  if contains ((reads.cmdline.cmdlineText pid).getD []) tier.cmdlineMarker then some pid else none

def EnforceReads.currentStart (reads : EnforceReads) (pid : ℕ) : Option ℕ :=
  reads.stat.statText pid >>= parseStatStartTicks

/-- `kill_pid`: the process that is killed, if the signal is sent. -/
def EnforceReads.killPid (reads : EnforceReads) (pid : ℕ) : Option ProcessId :=
  if reads.permitted then reads.kill.target (asI32 pid) else none

/-- `enforce_one`, with the process that is killed. -/
def enforceOne (tier : Tier) (samples : ProcessSamples) (watchdog : Watchdog) (app : String) (reads : EnforceReads) :
    Watchdog × Option ProcessId :=
  let limit := watchdog.policy.limitFor tier app
  match samples app with
  | none => (watchdog, none)
  | some sample =>
    let event (outcome : EventOutcome) : WatchdogEvent := ⟨app, tier, outcome, sample.bytes, limit, reads.now⟩
    if sample.bytes ≤ limit then (watchdog, none)
    else
      match reads.namedPid tier app with
      | none => (watchdog, none)
      | some pid =>
        if reads.currentStart pid ≠ some sample.startTicks then (watchdog.recordEvent (event .pidReuseRefused), none)
        else
          match reads.killPid pid with
          | none => (watchdog, none)
          | some process => (watchdog.recordEvent (event .killed), some process)

/-- `enforce_with` and `enforce_wasmd_with`, over the applications of the port table or of the samples in the order the
hash map yields them. -/
def enforceWith (tier : Tier) (samples : ProcessSamples) (watchdog : Watchdog) (checks : List (String × EnforceReads)) :
    Watchdog :=
  checks.foldl (fun watchdog check => (enforceOne tier samples watchdog check.1 check.2).1) watchdog

/-! ## The record of a run -/

/-- A sample as it was read, with the start times of the processes whose status and stat files were read. -/
structure Reading where
  sample : ProcessSample
  statusStart : ℕ
  statStart : ℕ

/-- The process whose CPU time is in the reading. -/
def Reading.timed (reading : Reading) : ProcessId := ⟨reading.sample.pid, reading.statStart⟩

/-- The process whose memory is in the reading. -/
def Reading.measured (reading : Reading) : ProcessId := ⟨reading.sample.pid, reading.statusStart⟩

def SampleReads.reading (reads : SampleReads) (file : String) : Option Reading := do
  let sample ← readProcessSample reads file
  let measured ← reads.status.process sample.pid
  let timed ← reads.stat.process sample.pid
  some ⟨sample, measured.startTicks, timed.startTicks⟩

/-- The turn of an application in a refresh. -/
structure Attempt where
  app : String
  file : String
  reads : SampleReads

/-- A CPU figure that is given as available: the processes of the reading before it, if there is one, and of its own. -/
structure CpuReport where
  previous : Option ProcessId
  current : ProcessId
deriving DecidableEq

/-- A tier with its samples, the latest attempt to read each application, and what happened in its last round: whose
pidfile was read, what the refresh measured, and the CPU figures. -/
structure TierHistory where
  samples : ProcessSamples
  latest : String → Option Reading
  named : List String
  measured : String → Option Reading
  reports : List CpuReport

/-- A killed process, with what the refresh of the round had measured of the application, the limit, and the pid in the
pidfile at that time. -/
structure Kill where
  process : ProcessId
  measured : Option Reading
  limit : ℕ
  named : Option ℕ

structure SamplingHistory where
  tiers : Tier → TierHistory
  watchdog : Watchdog
  /-- The kills of the last round. -/
  kills : List Kill

/-- A round of a tier is a refresh and the enforcement after it; the policy is loaded between rounds. -/
inductive SamplingOp
  | reload (wire : Option PolicyWire)
  | celld (ports : List (String × SampleReads)) (checks : List (String × EnforceReads))
  | wasmd (entries : Option (List (String × SampleReads))) (checks : List (String × EnforceReads))

namespace SamplingOp

def tier? : SamplingOp → Option Tier
  | reload _ => none
  | celld _ _ => some .celld
  | wasmd _ _ => some .wasmd

/-- The applications that the refresh enumerates. -/
def attempts : SamplingOp → List Attempt
  | reload _ => []
  | celld ports _ => ports.map fun port => ⟨port.1, Tier.celld.pidfile port.1, port.2⟩
  | wasmd entries _ =>
    (entries.getD []).filterMap fun entry => (appNameOfPidfile .wasmd entry.1).map fun app => ⟨app, entry.1, entry.2⟩

def checks : SamplingOp → List (String × EnforceReads)
  | reload _ => []
  | celld _ checks | wasmd _ checks => checks

end SamplingOp

namespace TierHistory

def initial : TierHistory := ⟨fun _ => none, fun _ => none, [], fun _ => none, []⟩

def begin (history : TierHistory) : TierHistory :=
  { history with named := [], measured := fun _ => none, reports := [] }

/-- The CPU figure of an attempt, if its sample says it is available. -/
def report (history : TierHistory) (a : Attempt) (sample : Option Sample) : List CpuReport :=
  match a.reads.reading a.file with
  | none => []
  | some reading =>
    if sample.any (·.cpuAvailable) then [⟨(history.latest a.app).map Reading.timed, reading.timed⟩] else []

def attempt (sysconf : Int) (tier : Tier) (history : TierHistory) (a : Attempt) : TierHistory :=
  let samples := refreshOne sysconf history.samples a.app a.file a.reads
  let reading := a.reads.reading a.file
  { samples := samples
    latest := Function.update history.latest a.app reading
    named := if (a.reads.pidfile.readPid (tier.pidfile a.app)).isSome then a.app :: history.named else history.named
    measured := Function.update history.measured a.app reading
    reports := history.reports ++ history.report a (samples a.app) }

def refresh (sysconf : Int) (tier : Tier) (history : TierHistory) (attempts : List Attempt) : TierHistory :=
  run (attempt sysconf tier) history.begin attempts

end TierHistory

namespace SamplingHistory

def initial : SamplingHistory := ⟨fun _ => .initial, .new, []⟩

/-- The kill of a check. -/
def kill (tier : Tier) (history : TierHistory) (watchdog : Watchdog) (check : String × EnforceReads) : Option Kill :=
  (enforceOne tier history.samples watchdog check.1 check.2).2.map fun process =>
    { process := process
      measured := history.measured check.1
      limit := watchdog.policy.limitFor tier check.1
      named := check.2.kill.readPid (tier.pidfile check.1) }

def check (tier : Tier) (history : TierHistory) (done : Watchdog × List Kill) (check : String × EnforceReads) :
    Watchdog × List Kill :=
  ((enforceOne tier history.samples done.1 check.1 check.2).1, done.2 ++ (kill tier history done.1 check).toList)

def round (sysconf : Int) (history : SamplingHistory) (tier : Tier) (op : SamplingOp) : SamplingHistory :=
  let refreshed := (history.tiers tier).refresh sysconf tier op.attempts
  let enforced := op.checks.foldl (check tier refreshed) (history.watchdog, [])
  { tiers := Function.update history.tiers tier refreshed
    watchdog := enforced.1
    kills := enforced.2 }

def step (sysconf : Int) (history : SamplingHistory) (op : SamplingOp) : SamplingHistory :=
  match op with
  | .reload wire => { history with watchdog := history.watchdog.reloadPolicy wire, kills := [] }
  | .celld _ _ => history.round sysconf .celld op
  | .wasmd _ _ => history.round sysconf .wasmd op

end SamplingHistory

/-! ## What the samples and the watchdog owe to the processes -/

/-- The killed process is the one that the refresh measured above the limit, and the pidfile names it. -/
def Kill.Rightful (kill : Kill) : Prop :=
  ∃ reading, kill.measured = some reading ∧ kill.process = reading.measured ∧ kill.limit < reading.sample.rssBytes ∧
    kill.named = some kill.process.pid

/-- A tier has samples of applications only whose pidfile was read in the last round, and gave CPU figures only of one
process. -/
structure TierHistory.Bound (history : TierHistory) : Prop where
  named : ∀ app, (history.samples app).isSome = true → app ∈ history.named
  reports : ∀ report ∈ history.reports, report.previous = some report.current

structure SamplingHistory.Bound (history : SamplingHistory) : Prop where
  tiers : ∀ tier, (history.tiers tier).Bound
  kills : ∀ kill ∈ history.kills, kill.Rightful

/-! ## The condition -/

namespace TierHistory

/-- The refresh enumerates every application that has a sample. -/
def Covered (history : TierHistory) (attempts : List Attempt) : Prop :=
  ∀ app, (history.samples app).isSome = true → app ∈ attempts.map Attempt.app

/-- The application is read again under the same pid and start time, or its CPU time has fallen. -/
def Comparable (history : TierHistory) (a : Attempt) : Prop :=
  ∀ previous current, history.latest a.app = some previous → a.reads.reading a.file = some current →
    previous.sample.cpuTicks ≤ current.sample.cpuTicks → previous.timed = current.timed

/-- If an application is above its limit and its pidfile names a process with the marker and with the start time of
the sample, then its pid is the sampled one, and from the reading of its status to the signal no other process gets the
pid and the pidfile keeps it. -/
def Steady (tier : Tier) (history : TierHistory) (policy : ResourcePolicy) (check : String × EnforceReads) : Prop :=
  ∀ reading pid process, history.latest check.1 = some reading →
    policy.limitFor tier check.1 < reading.sample.rssBytes → check.2.namedPid tier check.1 = some pid →
    check.2.currentStart pid = some reading.sample.startTicks → check.2.permitted = true →
    check.2.kill.process pid = some process →
      reading.sample.pid = pid ∧ reading.statusStart = process.startTicks ∧
        check.2.kill.readPid (tier.pidfile check.1) = some pid

end TierHistory

/-- The evolution of the pidfiles and of the process table that a round meets. -/
structure SamplingHistory.CarefulRound (sysconf : Int) (history : SamplingHistory) (tier : Tier) (op : SamplingOp) :
    Prop where
  covered : (history.tiers tier).Covered op.attempts
  comparable : Along (TierHistory.attempt sysconf tier) TierHistory.Comparable (history.tiers tier).begin op.attempts
  steady : ∀ check ∈ op.checks,
    ((history.tiers tier).refresh sysconf tier op.attempts).Steady tier history.watchdog.policy check

def SamplingHistory.Careful (sysconf : Int) (history : SamplingHistory) (op : SamplingOp) : Prop :=
  match op.tier? with
  | none => True
  | some tier => history.CarefulRound sysconf tier op

end Iweb.Sampling
