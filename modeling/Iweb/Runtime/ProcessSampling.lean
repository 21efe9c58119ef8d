import Iweb.Kernel.Wire
import Iweb.Supervisor.ProcessTable
import Mathlib.Data.Nat.Notation
import Mathlib.Data.List.Basic

/-!
# Samples of the application processes

The kernel samples memory and CPU time of the process that an application's pidfile names. A sample is put together
from three reads, of the pidfile, of `/proc/<pid>/status` and of `/proc/<pid>/stat`; the pidfiles and the process table
may change between any two of them, so each read has its own view of the host.
-/

namespace Iweb.Sampling

/-! ## Text -/

/-- `char::is_whitespace` -/
def isWhitespace (c : Char) : Bool :=
  let n := c.toNat
  (9 ≤ n && n ≤ 13) || n == 32 || n == 0x85 || n == 0xA0 || n == 0x1680 || (0x2000 ≤ n && n ≤ 0x200A) ||
    n == 0x2028 || n == 0x2029 || n == 0x202F || n == 0x205F || n == 0x3000

/-- `str::trim` -/
def trim (text : List Char) : List Char := ((text.dropWhile isWhitespace).reverse.dropWhile isWhitespace).reverse

/-- `str::split_whitespace` -/
def words (text : List Char) : List (List Char) := (text.splitOnP isWhitespace).filter (· ≠ [])

/-- `str::lines` -/
def lines (text : List Char) : List (List Char) :=
  let pieces := text.splitOn '\n'
  pieces.dropLast.map (fun line => if line.getLast? = some '\r' then line.dropLast else line) ++
    pieces.getLast?.toList.filter (· ≠ [])

/-- `str::trim_end_matches("kB")`, on the reversed text. -/
def dropUnits : List Char → List Char
  | 'B' :: 'k' :: rest => dropUnits rest
  | text => text

/-- `str::parse` of an unsigned integer of a width. -/
def parseUnsigned (width : ℕ) (text : List Char) : Option ℕ :=
  let digits := if text.head? = some '+' then text.tail else text
  if digits = [] || !digits.all Char.isDigit then none
  else
    let n := Nat.ofDigitChars 10 digits 0
    if n < 2 ^ width then some n else none

/-- `str::contains` -/
def contains (text part : List Char) : Bool := text.tails.any part.isPrefixOf

/-- `rsplit_once(')')`, the right part. -/
def afterComm (text : List Char) : Option (List Char) :=
  if text.contains ')' then some (text.reverse.takeWhile (· ≠ ')')).reverse else none

/-- `parse_stat_cpu_ticks`: user and system time, fields 14 and 15, as `u64` adds them. -/
def parseStatCpuTicks (text : List Char) : Option ℕ := do
  let rest ← afterComm text
  let utime ← (words rest)[11]? >>= parseUnsigned 64
  let stime ← (words rest)[12]? >>= parseUnsigned 64
  some ((utime + stime) % 2 ^ 64)

/-- `parse_stat_start_ticks`: the start time, field 22. -/
def parseStatStartTicks (text : List Char) : Option ℕ := do
  let rest ← afterComm text
  (words rest)[19]? >>= parseUnsigned 64

/-- The resident set of a status file in bytes, as `u64` multiplies it. -/
def parseVmRss (status : List Char) : Option ℕ := do
  let rest ← (lines status).findSome? (·.dropPrefix? "VmRSS:".toList)
  let kb ← parseUnsigned 64 (trim (dropUnits (trim rest).reverse).reverse)
  some (kb * 1024 % 2 ^ 64)

/-! ## The host -/

/-- A process with its files under `/proc`; `none` for a file that is no UTF-8 text. -/
structure ProcView where
  stat : ProcStat
  statIsText : Bool
  status : Option (List Char)
  cmdline : Option (List Char)
  letter : isWhitespace stat.state = false
  dated : 0 ≤ stat.startTime

/-- A process is identified by its pid and its start time. -/
structure ProcessId where
  pid : ℕ
  startTicks : ℕ
deriving DecidableEq

def ProcView.startTicks (process : ProcView) : ℕ := process.stat.startTime.toNat

/-- What a read can find: the texts of the pidfiles by file name and the processes by pid. A pid is positive and at
most `PID_MAX_LIMIT`. -/
structure HostView where
  pidfile : String → Option (List Char)
  process : ℕ → Option ProcView
  pids : ∀ pid p, process pid = some p → 0 < pid ∧ pid ≤ 4194304

namespace HostView

/-- The text of `/proc/<pid>/stat`. -/
def statText (view : HostView) (pid : ℕ) : Option (List Char) :=
  (view.process pid).bind fun p => if p.statIsText then some (p.stat.line pid) else none

def statusText (view : HostView) (pid : ℕ) : Option (List Char) := (view.process pid).bind (·.status)

def cmdlineText (view : HostView) (pid : ℕ) : Option (List Char) := (view.process pid).bind (·.cmdline)

/-- `read_pid` -/
def readPid (view : HostView) (file : String) : Option ℕ := do
  let text ← view.pidfile file
  let pid ← parseUnsigned 32 (trim text)
  if pid ≠ 0 then some pid else none

end HostView

/-! ## Samples -/

/-- The applications come in two tiers, each with its own samples. -/
inductive Tier
  | celld
  | wasmd
deriving DecidableEq

namespace Tier

def pidfilePrefix : Tier → String
  | celld => "celld-"
  | wasmd => "wasmd-"

def pidfileSuffix : String := ".pid"

def pidfile (tier : Tier) (app : String) : String := tier.pidfilePrefix ++ app ++ pidfileSuffix

end Tier

/-- `app_name_of_pidfile` -/
def appNameOfPidfile (tier : Tier) (file : String) : Option String := do
  let rest ← file.toList.dropPrefix? tier.pidfilePrefix.toList
  let app ← rest.dropSuffix? Tier.pidfileSuffix.toList
  if isApplicationId (String.ofList app) then some (String.ofList app) else none

structure Sample where
  bytes : ℕ
  cpuMillis : ℕ
  /-- False when the window has no reading before it. -/
  cpuAvailable : Bool
  totalTicks : ℕ
  startTicks : ℕ
  sampledAt : String
deriving DecidableEq

/-- The samples by application. -/
abbrev ProcessSamples := String → Option Sample

structure ProcessSample where
  pid : ℕ
  rssBytes : ℕ
  cpuTicks : ℕ
  startTicks : ℕ
deriving DecidableEq

/-- What the three reads of a sample find, and the time that is written into it. -/
structure SampleReads where
  pidfile : HostView
  status : HostView
  stat : HostView
  now : String

/-- `read_process_sample` -/
def readProcessSample (reads : SampleReads) (file : String) : Option ProcessSample := do
  let pid ← reads.pidfile.readPid file
  let rssBytes ← reads.status.statusText pid >>= parseVmRss
  let stat ← reads.stat.statText pid
  let cpuTicks ← parseStatCpuTicks stat
  let startTicks ← parseStatStartTicks stat
  some ⟨pid, rssBytes, cpuTicks, startTicks⟩

/-- `clock_ticks_per_sec`, from what `sysconf` answers. -/
def clockTicksPerSec (sysconf : Int) : ℕ := if 0 < sysconf then min sysconf.toNat 1000000 else 100

/-- `cpu_millis_delta` -/
def cpuMillisDelta (sysconf : Int) (previousTicks currentTicks : ℕ) : Option ℕ :=
  if currentTicks < previousTicks then none
  else some (min ((currentTicks - previousTicks) * 1000) (2 ^ 64 - 1) / clockTicksPerSec sysconf)

/-- The CPU time of the window that ends with a reading. -/
def windowMillis (sysconf : Int) (previous : Option Sample) (current : ProcessSample) : Option ℕ :=
  previous.bind fun sample => cpuMillisDelta sysconf sample.totalTicks current.cpuTicks

/-- `record_window_sample` -/
def recordWindowSample (sysconf : Int) (samples : ProcessSamples) (app : String) (current : ProcessSample)
    (now : String) : ProcessSamples :=
  let millis := windowMillis sysconf (samples app) current
  Function.update samples app (some
    { bytes := current.rssBytes
      cpuMillis := millis.getD 0
      cpuAvailable := millis.isSome
      totalTicks := current.cpuTicks
      startTicks := current.startTicks
      sampledAt := now })

/-- The turn of one application in a refresh. -/
def refreshOne (sysconf : Int) (samples : ProcessSamples) (app file : String) (reads : SampleReads) :
    ProcessSamples :=
  match readProcessSample reads file with
  | some current => recordWindowSample sysconf samples app current reads.now
  | none => Function.update samples app none

/-- `refresh_celld_rss`, over the applications of the port table in the order the hash map yields them. -/
def refreshCelldRss (sysconf : Int) (samples : ProcessSamples) (ports : List (String × SampleReads)) :
    ProcessSamples :=
  ports.foldl (fun samples port => refreshOne sysconf samples port.1 (Tier.celld.pidfile port.1) port.2) samples

/-- `refresh_wasmd_rss`, over the entries of the pidfile directory whose names are texts; `none` when the directory
cannot be read. -/
def refreshWasmdRss (sysconf : Int) (samples : ProcessSamples) (entries : Option (List (String × SampleReads))) :
    ProcessSamples :=
  match entries with
  | none => samples
  | some entries =>
    entries.foldl (fun samples entry =>
      match appNameOfPidfile .wasmd entry.1 with
      | some app => refreshOne sysconf samples app entry.1 entry.2
      | none => samples) samples

end Iweb.Sampling
