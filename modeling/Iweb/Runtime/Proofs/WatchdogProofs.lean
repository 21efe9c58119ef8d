import Iweb.Runtime.Watchdog
import Iweb.Supervisor.Proofs.StatLineProofs

/-!
# Samples and kills are bound to one process

A sample is the record of the latest attempt to read its application, and an enforcement kills exactly the process
that passes its checks. So what a round reports and kills can be read off what it finds on the host, and the condition
under which all of it concerns one process is exact.
-/

namespace Iweb.Sampling

open CrashRefinement

/-! ## The start time of a stat line -/

theorem isWhitespace_decimal {n : Int} {c : Char} (h : c ∈ decimal n) : isWhitespace c = false := by
  rcases isDigit_of_mem_decimal h with h | rfl
  · rw [Char.isDigit_iff_toNat] at h
    have hlow : 48 ≤ c.toNat := h.1
    have hhigh : c.toNat ≤ 57 := h.2
    simp only [isWhitespace, Bool.or_eq_false_iff, Bool.and_eq_false_iff, beq_eq_false_iff_ne,
      decide_eq_false_iff_not]
    omega
  · decide

theorem decimal_ne_nil (n : Int) : decimal n ≠ [] := by
  cases n with
  | ofNat n => exact Nat.toDigits_ne_nil
  | negSucc n => exact List.cons_ne_nil _ _

theorem words_append {first rest : List Char} {c : Char} (hne : first ≠ [])
    (hfirst : ∀ d ∈ first, isWhitespace d = false) (hc : isWhitespace c = true) :
    words (first ++ c :: rest) = first :: words rest := by
  unfold words
  rw [List.splitOnP_append_cons_of_forall_mem hfirst c hc, List.filter_cons_of_pos (by simpa using hne)]

/-- The words of a line of fields. -/
theorem words_fields {first : List Char} (numbers : List Int) (hne : first ≠ [])
    (hfirst : ∀ d ∈ first, isWhitespace d = false) :
    words (first ++ numbers.flatMap (fun n => ' ' :: decimal n) ++ ['\n']) = first :: numbers.map decimal := by
  induction numbers generalizing first with
  | nil =>
    rw [List.flatMap_nil, List.append_nil, words_append hne hfirst (by decide)]
    rfl
  | cons n numbers ih =>
    have hrest := ih (decimal_ne_nil n) fun d hd => isWhitespace_decimal hd
    rw [List.flatMap_cons, List.map_cons, ← hrest, List.append_assoc, List.append_assoc, List.cons_append,
      words_append hne hfirst (by decide)]
    rw [List.append_assoc]

theorem parseUnsigned_decimal {width n : ℕ} (h : n < 2 ^ width) : parseUnsigned width (decimal n) = some n := by
  obtain ⟨c, rest, hdigits, hc⟩ := head?_toDigits n
  have hplus : (Nat.toDigits 10 n).head? ≠ some '+' := by
    rw [hdigits, List.head?_cons]
    rintro ⟨⟩
    cases hc
  have hall : (Nat.toDigits 10 n).all Char.isDigit = true :=
    List.all_eq_true.mpr fun d hd => Nat.isDigit_of_mem_toDigits (by decide) (by decide) hd
  have hgood : ¬((decide (Nat.toDigits 10 n = []) || !(Nat.toDigits 10 n).all Char.isDigit) = true) := by
    rw [hall, decide_eq_false Nat.toDigits_ne_nil]
    decide
  show parseUnsigned width (Nat.toDigits 10 n) = some n
  unfold parseUnsigned
  dsimp only
  rw [if_neg hplus, if_neg hgood, Nat.ofDigitChars_ten_toDigits, if_pos h]

theorem afterComm_line (pid : ℕ) (stat : ProcStat) : afterComm (stat.line pid) = some (' ' :: stat.tail) := by
  have hmem : (stat.line pid).contains ')' = true := by
    rw [stat.line_eq, List.contains_iff_mem, List.mem_append]
    exact .inr List.mem_cons_self
  have hnot : ∀ c ∈ (' ' :: stat.tail).reverse, decide (c ≠ ')') = true := by
    intro c hc
    rw [decide_eq_true_iff]
    rintro rfl
    exact stat.notMem_tail (List.mem_reverse.mp hc)
  unfold afterComm
  rw [if_pos hmem, stat.line_eq, List.reverse_append, List.reverse_cons, List.append_assoc,
    List.takeWhile_append_of_pos hnot, List.singleton_append, List.takeWhile_cons_of_neg (by simp), List.append_nil,
    List.reverse_reverse]

/-- The start time that is read is that of the process, whatever its command name is. -/
theorem parseStatStartTicks_line (process : ProcView) (pid : ℕ) :
    parseStatStartTicks (process.stat.line pid) = some process.startTicks := by
  have hlength := process.stat.complete
  have hstate : ∀ d ∈ [process.stat.state], isWhitespace d = false := by
    intro d hd
    rw [List.mem_singleton.mp hd]
    exact process.letter
  have hwords : words (' ' :: process.stat.tail) = [process.stat.state] :: process.stat.numbers.map decimal := by
    have hblank : words (' ' :: process.stat.tail) = words process.stat.tail := by
      unfold words
      rw [← List.nil_append (' ' :: process.stat.tail),
        List.splitOnP_append_cons_of_forall_mem (fun _ h => absurd h List.not_mem_nil) ' ' (by decide), List.filter_cons_of_neg (by simp)]
    rw [hblank]
    exact words_fields process.stat.numbers (List.cons_ne_nil _ _) hstate
  have hfield : process.stat.numbers[18]? = some process.stat.startTime := by
    unfold ProcStat.startTime ProcStat.field
    rw [List.getD_eq_getElem?_getD, List.getElem?_eq_getElem (by omega)]
    rfl
  have hbounds := process.stat.bounded _ (List.mem_of_getElem? hfield)
  have hnat : ((process.startTicks : ℕ) : Int) = process.stat.startTime := Int.toNat_of_nonneg process.dated
  have hlt : process.startTicks < 2 ^ 64 := by omega
  unfold parseStatStartTicks
  rw [afterComm_line]
  show ((words (' ' :: process.stat.tail))[19]? >>= parseUnsigned 64) = some process.startTicks
  rw [hwords, List.getElem?_cons_succ, List.getElem?_map, hfield, ← hnat]
  exact parseUnsigned_decimal hlt

/-! ## Pidfiles -/

theorem appNameOfPidfile_eq {tier : Tier} {file app : String} (h : appNameOfPidfile tier file = some app) :
    file = tier.pidfile app := by
  unfold appNameOfPidfile at h
  simp only [Option.bind_eq_bind, Option.bind_eq_some_iff] at h
  obtain ⟨rest, hrest, name, hname, h⟩ := h
  obtain ⟨p, hp, hpe⟩ := List.dropPrefix?_eq_some_iff.mp hrest
  obtain ⟨s, hs, hse⟩ := List.dropSuffix?_eq_some_iff.mp hname
  have hpre : p = tier.pidfilePrefix.toList := eq_of_beq hpe
  have hsuf : s = Tier.pidfileSuffix.toList := eq_of_beq hse
  by_cases hid : isApplicationId (String.ofList name) = true
  · rw [if_pos hid] at h
    cases h
    apply String.toList_injective
    unfold Tier.pidfile
    rw [hp, hs, hpre, hsuf, String.toList_append, String.toList_append, String.toList_ofList, List.append_assoc]
  · rw [if_neg hid] at h
    cases h

/-- The refresh reads an application from its own pidfile. -/
theorem attempts_file {tier : Tier} {op : SamplingOp} (htier : op.tier? = some tier) {a : Attempt}
    (ha : a ∈ op.attempts) : a.file = tier.pidfile a.app := by
  cases op with
  | reload wire => cases htier
  | celld ports checks =>
    cases htier
    obtain ⟨port, -, rfl⟩ := List.mem_map.mp ha
    rfl
  | wasmd entries checks =>
    cases htier
    obtain ⟨entry, -, h⟩ := List.mem_filterMap.mp ha
    obtain ⟨app, happ, rfl⟩ := Option.map_eq_some_iff.mp h
    exact appNameOfPidfile_eq happ

/-! ## The history follows the code -/

section Code

variable (sysconf : Int)

theorem refresh_samples (tier : Tier) (history : TierHistory) (attempts : List Attempt) :
    (history.refresh sysconf tier attempts).samples =
      attempts.foldl (fun samples a => refreshOne sysconf samples a.app a.file a.reads) history.samples := by
  have h : ∀ t : TierHistory, (run (TierHistory.attempt sysconf tier) t attempts).samples =
      attempts.foldl (fun samples a => refreshOne sysconf samples a.app a.file a.reads) t.samples := by
    induction attempts with
    | nil => exact fun _ => rfl
    | cons a attempts ih => exact fun t => ih (t.attempt sysconf tier a)
  exact h history.begin

theorem checks_watchdog (tier : Tier) (history : TierHistory) (checks : List (String × EnforceReads))
    (done : Watchdog × List Kill) :
    (checks.foldl (SamplingHistory.check tier history) done).1 = enforceWith tier history.samples done.1 checks := by
  induction checks generalizing done with
  | nil => rfl
  | cons check checks ih => exact ih _

/-- A round of the first tier is `refresh_celld_rss` and then `enforce_with`. -/
theorem step_celld (history : SamplingHistory) (ports : List (String × SampleReads))
    (checks : List (String × EnforceReads)) :
    let after := history.step sysconf (.celld ports checks)
    let samples := refreshCelldRss sysconf (history.tiers .celld).samples ports
    (after.tiers .celld).samples = samples ∧
      after.watchdog = enforceWith .celld samples history.watchdog checks := by
  have hsamples : ((history.tiers .celld).refresh sysconf .celld (SamplingOp.celld ports checks).attempts).samples =
      refreshCelldRss sysconf (history.tiers .celld).samples ports := by
    rw [refresh_samples]
    unfold SamplingOp.attempts refreshCelldRss
    rw [List.foldl_map]
  dsimp only [SamplingHistory.step, SamplingHistory.round]
  rw [Function.update_self, checks_watchdog, hsamples]
  exact ⟨rfl, rfl⟩

/-- A round of the second tier is `refresh_wasmd_rss` and then `enforce_wasmd_with`. -/
theorem step_wasmd (history : SamplingHistory) (entries : Option (List (String × SampleReads)))
    (checks : List (String × EnforceReads)) :
    let after := history.step sysconf (.wasmd entries checks)
    let samples := refreshWasmdRss sysconf (history.tiers .wasmd).samples entries
    (after.tiers .wasmd).samples = samples ∧
      after.watchdog = enforceWith .wasmd samples history.watchdog checks := by
  have hsamples : ((history.tiers .wasmd).refresh sysconf .wasmd (SamplingOp.wasmd entries checks).attempts).samples =
      refreshWasmdRss sysconf (history.tiers .wasmd).samples entries := by
    rw [refresh_samples]
    unfold SamplingOp.attempts refreshWasmdRss
    cases entries with
    | none => rfl
    | some entries =>
      dsimp only [Option.getD_some]
      rw [List.foldl_filterMap]
      congr 1
      funext samples entry
      cases appNameOfPidfile .wasmd entry.1 <;> rfl
  dsimp only [SamplingHistory.step, SamplingHistory.round]
  rw [Function.update_self, checks_watchdog, hsamples]
  exact ⟨rfl, rfl⟩

end Code

/-! ## What is killed -/

theorem namedPid_eq {reads : EnforceReads} {tier : Tier} {app : String} {pid : ℕ}
    (h : reads.namedPid tier app = some pid) :
    reads.pidfile.readPid (tier.pidfile app) = some pid ∧ (reads.cmdline.process pid).isSome = true := by
  unfold EnforceReads.namedPid at h
  rw [Option.bind_eq_bind, Option.bind_eq_some_iff] at h
  obtain ⟨pid', hpid, h⟩ := h
  by_cases hmarker : contains ((reads.cmdline.cmdlineText pid').getD []) tier.cmdlineMarker = true
  · rw [if_pos hmarker] at h
    cases h
    refine ⟨hpid, ?_⟩
    cases hprocess : reads.cmdline.process pid with
    | some process => rfl
    | none =>
      unfold HostView.cmdlineText at hmarker
      rw [hprocess] at hmarker
      cases tier <;> exact absurd hmarker (by decide)
  · rw [if_neg hmarker] at h
    cases h

/-- The pid that passes the check of the command line is a pid of the system: the signal goes to one process and not
to a process group. -/
theorem asI32_namedPid {reads : EnforceReads} {tier : Tier} {app : String} {pid : ℕ}
    (h : reads.namedPid tier app = some pid) : asI32 pid = pid ∧ 0 < pid := by
  obtain ⟨process, hprocess⟩ := Option.isSome_iff_exists.mp (namedPid_eq h).2
  have hbounds := reads.cmdline.pids pid process hprocess
  exact ⟨if_pos (by omega), hbounds.1⟩

theorem killPid_eq_some_iff {reads : EnforceReads} {tier : Tier} {app : String} {pid : ℕ}
    (h : reads.namedPid tier app = some pid) {process : ProcessId} :
    reads.killPid pid = some process ↔
      reads.permitted = true ∧ ∃ p, reads.kill.process pid = some p ∧ process = ⟨pid, p.startTicks⟩ := by
  obtain ⟨harg, hpos⟩ := asI32_namedPid h
  unfold EnforceReads.killPid HostView.target
  rw [harg, if_pos (by omega : (0 : Int) < pid), Int.toNat_natCast]
  by_cases hpermitted : reads.permitted = true
  · rw [if_pos hpermitted, Option.map_eq_some_iff]
    constructor
    · rintro ⟨p, hp, rfl⟩
      exact ⟨hpermitted, p, hp, rfl⟩
    · rintro ⟨-, p, hp, rfl⟩
      exact ⟨p, hp, rfl⟩
  · rw [if_neg hpermitted]
    constructor
    · rintro ⟨⟩
    · exact fun hand => absurd hand.1 hpermitted

/-- The process that `enforce_one` kills. -/
theorem enforceOne_kills {tier : Tier} {samples : ProcessSamples} {watchdog : Watchdog} {app : String}
    {reads : EnforceReads} {process : ProcessId} :
    (enforceOne tier samples watchdog app reads).2 = some process ↔
      ∃ sample pid p, samples app = some sample ∧ watchdog.policy.limitFor tier app < sample.bytes ∧
        reads.namedPid tier app = some pid ∧ reads.currentStart pid = some sample.startTicks ∧
        reads.permitted = true ∧ reads.kill.process pid = some p ∧ process = ⟨pid, p.startTicks⟩ := by
  constructor
  · intro h
    unfold enforceOne at h
    dsimp only at h
    cases hsample : samples app with
    | none => rw [hsample] at h; cases h
    | some sample =>
      rw [hsample] at h
      dsimp only at h
      by_cases hlimit : sample.bytes ≤ watchdog.policy.limitFor tier app
      · rw [if_pos hlimit] at h; cases h
      rw [if_neg hlimit] at h
      cases hpid : reads.namedPid tier app with
      | none => rw [hpid] at h; cases h
      | some pid =>
        rw [hpid] at h
        dsimp only at h
        by_cases hstart : reads.currentStart pid = some sample.startTicks
        · rw [if_neg (not_not.mpr hstart)] at h
          cases hkill : reads.killPid pid with
          | none => rw [hkill] at h; cases h
          | some process' =>
            rw [hkill] at h
            cases h
            obtain ⟨hpermitted, p, hp, hprocess⟩ := (killPid_eq_some_iff hpid).mp hkill
            exact ⟨sample, pid, p, rfl, Nat.not_le.mp hlimit, rfl, hstart, hpermitted, hp, hprocess⟩
        · rw [if_pos hstart] at h; cases h
  · rintro ⟨sample, pid, p, hsample, hlimit, hpid, hstart, hpermitted, hp, hprocess⟩
    have hkill := (killPid_eq_some_iff hpid).mpr ⟨hpermitted, p, hp, hprocess⟩
    unfold enforceOne
    dsimp only
    rw [hsample]
    dsimp only
    rw [if_neg (Nat.not_le.mpr hlimit), hpid]
    dsimp only
    rw [if_neg (not_not.mpr hstart), hkill]

/-- An enforcement changes no limit. -/
theorem enforceOne_policy (tier : Tier) (samples : ProcessSamples) (watchdog : Watchdog) (app : String)
    (reads : EnforceReads) : (enforceOne tier samples watchdog app reads).1.policy = watchdog.policy := by
  unfold enforceOne
  dsimp only
  repeat' split
  all_goals rfl

/-- What a check kills under a policy. -/
def Kills (tier : Tier) (history : TierHistory) (policy : ResourcePolicy) (check : String × EnforceReads)
    (kill : Kill) : Prop :=
  ∃ sample pid p, history.samples check.1 = some sample ∧ policy.limitFor tier check.1 < sample.bytes ∧
    check.2.namedPid tier check.1 = some pid ∧ check.2.currentStart pid = some sample.startTicks ∧
    check.2.permitted = true ∧ check.2.kill.process pid = some p ∧
    kill = ⟨⟨pid, p.startTicks⟩, history.measured check.1, policy.limitFor tier check.1,
      check.2.kill.readPid (tier.pidfile check.1)⟩

theorem kill_eq_some_iff {tier : Tier} {history : TierHistory} {watchdog : Watchdog}
    {check : String × EnforceReads} {kill : Kill} :
    SamplingHistory.kill tier history watchdog check = some kill ↔
      Kills tier history watchdog.policy check kill := by
  unfold SamplingHistory.kill Kills
  rw [Option.map_eq_some_iff]
  constructor
  · rintro ⟨process, hprocess, rfl⟩
    obtain ⟨sample, pid, p, hsample, hlimit, hpid, hstart, hpermitted, hp, rfl⟩ := enforceOne_kills.mp hprocess
    exact ⟨sample, pid, p, hsample, hlimit, hpid, hstart, hpermitted, hp, rfl⟩
  · rintro ⟨sample, pid, p, hsample, hlimit, hpid, hstart, hpermitted, hp, rfl⟩
    exact ⟨_, enforceOne_kills.mpr ⟨sample, pid, p, hsample, hlimit, hpid, hstart, hpermitted, hp, rfl⟩, rfl⟩

/-- The kills of an enforcement are those of its checks, under the policy that it starts with. -/
theorem mem_checks_kills {tier : Tier} {history : TierHistory} {kill : Kill}
    (checks : List (String × EnforceReads)) (done : Watchdog × List Kill) :
    kill ∈ (checks.foldl (SamplingHistory.check tier history) done).2 ↔
      kill ∈ done.2 ∨ ∃ check ∈ checks, Kills tier history done.1.policy check kill := by
  induction checks generalizing done with
  | nil => simp
  | cons check checks ih =>
    have hpolicy : (SamplingHistory.check tier history done check).1.policy = done.1.policy :=
      enforceOne_policy tier history.samples done.1 check.1 check.2
    have hkills : kill ∈ (SamplingHistory.check tier history done check).2 ↔
        kill ∈ done.2 ∨ Kills tier history done.1.policy check kill := by
      unfold SamplingHistory.check
      rw [List.mem_append, Option.mem_toList, kill_eq_some_iff]
    rw [List.foldl_cons, ih, hpolicy, hkills, or_assoc]
    simp [List.mem_cons]

/-! ## Samples and readings -/

theorem reading_sample {reads : SampleReads} {file : String} {reading : Reading}
    (h : reads.reading file = some reading) : readProcessSample reads file = some reading.sample := by
  unfold SampleReads.reading at h
  simp only [Option.bind_eq_bind, Option.bind_eq_some_iff] at h
  obtain ⟨sample, hsample, measured, -, timed, -, h⟩ := h
  cases h
  exact hsample

/-- What `read_process_sample` reads. -/
theorem readProcessSample_eq {reads : SampleReads} {file : String} {sample : ProcessSample}
    (h : readProcessSample reads file = some sample) :
    reads.pidfile.readPid file = some sample.pid ∧
      (∃ text, reads.status.statusText sample.pid = some text ∧ parseVmRss text = some sample.rssBytes) ∧
      ∃ text, reads.stat.statText sample.pid = some text ∧ parseStatCpuTicks text = some sample.cpuTicks ∧
        parseStatStartTicks text = some sample.startTicks := by
  unfold readProcessSample at h
  simp only [Option.bind_eq_bind, Option.bind_eq_some_iff] at h
  obtain ⟨pid, hpid, rss, hrss, stat, hstat, cpu, hcpu, start, hstart, h⟩ := h
  cases h
  exact ⟨hpid, hrss, stat, hstat, hcpu, hstart⟩

/-- The start time in a sample is that of the process whose CPU time is in it. -/
theorem reading_timed {reads : SampleReads} {file : String} {reading : Reading}
    (h : reads.reading file = some reading) : reading.timed = ⟨reading.sample.pid, reading.sample.startTicks⟩ := by
  obtain ⟨-, -, text, htext, -, hstart⟩ := readProcessSample_eq (reading_sample h)
  unfold SampleReads.reading at h
  simp only [Option.bind_eq_bind, Option.bind_eq_some_iff] at h
  obtain ⟨sample, -, measured, -, timed, htimed, h⟩ := h
  cases h
  unfold HostView.statText at htext
  rw [htimed, Option.bind_some] at htext
  by_cases hreads : timed.statIsText = true
  · rw [if_pos hreads] at htext
    cases htext
    rw [parseStatStartTicks_line] at hstart
    unfold Reading.timed
    rw [Option.some.inj hstart]
  · rw [if_neg hreads] at htext
    cases htext

theorem reading_eq_none {reads : SampleReads} {file : String} (h : reads.reading file = none) :
    readProcessSample reads file = none := by
  cases hsample : readProcessSample reads file with
  | none => rfl
  | some sample =>
    obtain ⟨-, ⟨status, hstatus, -⟩, stat, hstat, -⟩ := readProcessSample_eq hsample
    obtain ⟨measured, hmeasured, -⟩ := Option.bind_eq_some_iff.mp hstatus
    obtain ⟨timed, htimed, -⟩ := Option.bind_eq_some_iff.mp hstat
    unfold SampleReads.reading at h
    rw [hsample] at h
    simp [hmeasured, htimed] at h

/-- The sample that a reading leaves. -/
def SampleOf (sample : Sample) (reading : Reading) : Prop :=
  sample.bytes = reading.sample.rssBytes ∧ sample.totalTicks = reading.sample.cpuTicks ∧
    sample.startTicks = reading.sample.startTicks

/-- The samples are those of the latest readings. -/
def TierHistory.Matches (history : TierHistory) : Prop :=
  ∀ app, Option.Rel SampleOf (history.samples app) (history.latest app)

section Attempts

variable (sysconf : Int) (tier : Tier) {history : TierHistory}

theorem refreshOne_of_ne {samples : ProcessSamples} {app other file : String} {reads : SampleReads}
    (h : other ≠ app) : refreshOne sysconf samples app file reads other = samples other := by
  unfold refreshOne recordWindowSample
  cases readProcessSample reads file with
  | none => exact Function.update_of_ne h _ _
  | some current => exact Function.update_of_ne h _ _

/-- The sample after a successful attempt. -/
theorem refreshOne_self {samples : ProcessSamples} {app file : String} {reads : SampleReads} {reading : Reading}
    (h : reads.reading file = some reading) :
    ∃ sample, refreshOne sysconf samples app file reads app = some sample ∧ SampleOf sample reading ∧
      sample.cpuAvailable = (windowMillis sysconf (samples app) reading.sample).isSome := by
  unfold refreshOne
  rw [reading_sample h]
  refine ⟨_, Function.update_self _ _ _, ⟨rfl, rfl, rfl⟩, rfl⟩

theorem refreshOne_none {samples : ProcessSamples} {app file : String} {reads : SampleReads}
    (h : reads.reading file = none) : refreshOne sysconf samples app file reads app = none := by
  unfold refreshOne
  rw [reading_eq_none h]
  exact Function.update_self _ _ _

theorem attempt_matches (h : history.Matches) (a : Attempt) : (history.attempt sysconf tier a).Matches := by
  intro app
  unfold TierHistory.attempt
  dsimp only
  by_cases happ : app = a.app
  · rw [happ, Function.update_self]
    cases hreading : a.reads.reading a.file with
    | none =>
      rw [refreshOne_none sysconf hreading]
      exact .none
    | some reading =>
      obtain ⟨sample, hsample, hof, -⟩ := refreshOne_self sysconf hreading
      rw [hsample]
      exact .some hof
  · rw [refreshOne_of_ne sysconf happ, Function.update_of_ne happ]
    exact h app

/-- A CPU figure is available unless there is no reading before it or the CPU time has fallen. -/
theorem windowMillis_isSome {app : String} {current : ProcessSample} (h : history.Matches) :
    (windowMillis sysconf (history.samples app) current).isSome = true ↔
      ∃ previous, history.latest app = some previous ∧ previous.sample.cpuTicks ≤ current.cpuTicks := by
  unfold windowMillis cpuMillisDelta
  have happ := h app
  revert happ
  cases history.samples app <;> cases history.latest app <;> intro happ
  · simp
  · cases happ
  · cases happ
  · rename_i sample previous
    cases happ with
    | some hof =>
      dsimp only [Option.bind_some]
      rw [hof.2.1]
      by_cases hticks : current.cpuTicks < previous.sample.cpuTicks
      · rw [if_pos hticks]
        simp only [Option.isSome_none, Bool.false_eq_true, Option.some.injEq, exists_eq_left', false_iff, Nat.not_le]
        exact hticks
      · rw [if_neg hticks]
        simp only [Option.isSome_some, Option.some.injEq, exists_eq_left', true_iff]
        exact Nat.not_lt.mp hticks

/-- The figures of an attempt. -/
theorem mem_report_iff {a : Attempt} {report : CpuReport} (h : history.Matches) :
    report ∈ history.report a (refreshOne sysconf history.samples a.app a.file a.reads a.app) ↔
      ∃ previous current, history.latest a.app = some previous ∧ a.reads.reading a.file = some current ∧
        previous.sample.cpuTicks ≤ current.sample.cpuTicks ∧ report = ⟨some previous.timed, current.timed⟩ := by
  unfold TierHistory.report
  cases hreading : a.reads.reading a.file with
  | none => simp
  | some current =>
    obtain ⟨sample, hsample, -, havailable⟩ :=
      @refreshOne_self sysconf history.samples a.app _ _ _ hreading
    dsimp only
    rw [hsample, Option.any_some, havailable]
    by_cases hsome : (windowMillis sysconf (history.samples a.app) current.sample).isSome = true
    · obtain ⟨previous, hprevious, hticks⟩ := (windowMillis_isSome sysconf h).mp hsome
      rw [if_pos hsome, hprevious]
      simp [hticks]
    · rw [if_neg hsome]
      constructor
      · rintro ⟨⟩
      · rintro ⟨previous, current', hprevious, hcurrent, hticks, -⟩
        cases hcurrent
        exact absurd ((windowMillis_isSome sysconf h).mpr ⟨previous, hprevious, hticks⟩) hsome

theorem report_good_iff {a : Attempt} (h : history.Matches) :
    (∀ report ∈ history.report a (refreshOne sysconf history.samples a.app a.file a.reads a.app),
      report.previous = some report.current) ↔ history.Comparable a := by
  constructor
  · intro hgood previous current hprevious hcurrent hticks
    have := hgood _ ((mem_report_iff sysconf h).mpr ⟨previous, current, hprevious, hcurrent, hticks, rfl⟩)
    exact Option.some.inj this
  · intro hcomparable report hreport
    obtain ⟨previous, current, hprevious, hcurrent, hticks, rfl⟩ := (mem_report_iff sysconf h).mp hreport
    exact congrArg some (hcomparable previous current hprevious hcurrent hticks)

/-- The figures of a refresh are of one process each exactly when the attempts are comparable. -/
theorem run_reports_iff {attempts : List Attempt} (h : history.Matches) :
    (∀ report ∈ (run (TierHistory.attempt sysconf tier) history attempts).reports,
        report.previous = some report.current) ↔
      (∀ report ∈ history.reports, report.previous = some report.current) ∧
        Along (TierHistory.attempt sysconf tier) TierHistory.Comparable history attempts := by
  induction attempts generalizing history with
  | nil => exact (and_iff_left trivial).symm
  | cons a attempts ih =>
    have hstep : (∀ report ∈ (history.attempt sysconf tier a).reports, report.previous = some report.current) ↔
        (∀ report ∈ history.reports, report.previous = some report.current) ∧ history.Comparable a := by
      rw [← report_good_iff sysconf h]
      unfold TierHistory.attempt
      dsimp only
      simp only [List.mem_append, or_imp, forall_and]
    have hrest := ih (attempt_matches sysconf tier h a)
    exact hrest.trans ((and_congr_left' hstep).trans and_assoc)

/-- Where a refresh stands after some applications: those have been read anew, the others are as they were. -/
structure Swept (before : TierHistory) (seen : List String) (history : TierHistory) : Prop where
  read : ∀ app ∈ seen, history.measured app = history.latest app ∧
    ((history.samples app).isSome = true → app ∈ history.named)
  kept : ∀ app, app ∉ seen → history.measured app = none ∧ history.samples app = before.samples app ∧
    app ∉ history.named

theorem begin_swept (before : TierHistory) : Swept before [] before.begin where
  read := fun _ h => nomatch h
  kept := fun _ _ => ⟨rfl, rfl, fun h => nomatch h⟩

theorem attempt_swept {before : TierHistory} {seen : List String} {a : Attempt} (hfile : a.file = tier.pidfile a.app)
    (h : Swept before seen history) : Swept before (a.app :: seen) (history.attempt sysconf tier a) := by
  have hnamed : ∀ app, app ∈ history.named → app ∈ (history.attempt sysconf tier a).named := by
    intro app happ
    unfold TierHistory.attempt
    dsimp only
    split
    · exact List.mem_cons_of_mem _ happ
    · exact happ
  constructor
  · intro app hseen
    by_cases happ : app = a.app
    · subst happ
      refine ⟨?_, ?_⟩
      · unfold TierHistory.attempt
        dsimp only
        rw [Function.update_self, Function.update_self]
      · intro hsome
        cases hreading : a.reads.reading a.file with
        | none =>
          unfold TierHistory.attempt at hsome
          dsimp only at hsome
          rw [refreshOne_none sysconf hreading] at hsome
          cases hsome
        | some reading =>
          have hpid := (readProcessSample_eq (reading_sample hreading)).1
          unfold TierHistory.attempt
          dsimp only
          rw [← hfile, hpid, Option.isSome_some, if_pos rfl]
          exact List.mem_cons_self
    · have hold := h.read app ((List.mem_cons.mp hseen).resolve_left happ)
      refine ⟨?_, fun hsome => hnamed app (hold.2 ?_)⟩
      · unfold TierHistory.attempt
        dsimp only
        rw [Function.update_of_ne happ, Function.update_of_ne happ]
        exact hold.1
      · unfold TierHistory.attempt at hsome
        dsimp only at hsome
        rw [refreshOne_of_ne sysconf happ] at hsome
        exact hsome
  · intro app hnotseen
    rw [List.mem_cons, not_or] at hnotseen
    obtain ⟨hmeasured, hsamples, hnot⟩ := h.kept app hnotseen.2
    unfold TierHistory.attempt
    dsimp only
    refine ⟨?_, ?_, ?_⟩
    · rw [Function.update_of_ne hnotseen.1]
      exact hmeasured
    · rw [refreshOne_of_ne sysconf hnotseen.1]
      exact hsamples
    · split
      · exact fun hmem => hnot ((List.mem_cons.mp hmem).resolve_left hnotseen.1)
      · exact hnot

theorem run_swept {before : TierHistory} {seen : List String} {attempts : List Attempt}
    (hfile : ∀ a ∈ attempts, a.file = tier.pidfile a.app) (h : Swept before seen history) :
    Swept before ((attempts.map Attempt.app).reverse ++ seen)
      (run (TierHistory.attempt sysconf tier) history attempts) := by
  induction attempts generalizing history seen with
  | nil => exact h
  | cons a attempts ih =>
    have hnext := ih (fun b hb => hfile b (List.mem_cons_of_mem _ hb))
      (attempt_swept sysconf tier (hfile a List.mem_cons_self) h)
    rw [List.map_cons, List.reverse_cons, List.append_assoc]
    exact hnext

theorem refresh_swept {attempts : List Attempt} (hfile : ∀ a ∈ attempts, a.file = tier.pidfile a.app) :
    Swept history (attempts.map Attempt.app).reverse (history.refresh sysconf tier attempts) := by
  have h := run_swept sysconf tier hfile (begin_swept history)
  rw [List.append_nil] at h
  exact h

theorem refresh_matches (h : history.Matches) (attempts : List Attempt) :
    (history.refresh sysconf tier attempts).Matches :=
  run_invariant (P := TierHistory.Matches) (fun _ a ht => attempt_matches sysconf tier ht a) attempts h

/-- After a refresh the tier is bound exactly when every sampled application was enumerated and the readings were
comparable. -/
theorem refresh_bound_iff {attempts : List Attempt} (h : history.Matches)
    (hfile : ∀ a ∈ attempts, a.file = tier.pidfile a.app) :
    (history.refresh sysconf tier attempts).Bound ↔ history.Covered attempts ∧
      Along (TierHistory.attempt sysconf tier) TierHistory.Comparable history.begin attempts := by
  have hswept := @refresh_swept sysconf tier history attempts hfile
  have hreports := @run_reports_iff sysconf tier history.begin attempts h
  constructor
  · rintro ⟨hnamed, hgood⟩
    refine ⟨?_, (hreports.mp hgood).2⟩
    intro app hsome
    by_contra happ
    obtain ⟨-, hsamples, hnot⟩ := hswept.kept app (fun hmem => happ (List.mem_reverse.mp hmem))
    exact hnot (hnamed app (hsamples ▸ hsome))
  · rintro ⟨hcovered, halong⟩
    refine ⟨?_, hreports.mpr ⟨fun _ hmem => (nomatch hmem), halong⟩⟩
    intro app hsome
    by_cases happ : app ∈ attempts.map Attempt.app
    · exact (hswept.read app (List.mem_reverse.mpr happ)).2 hsome
    · have hkept := hswept.kept app fun hmem => happ (List.mem_reverse.mp hmem)
      exact absurd (hcovered app (hkept.2.1 ▸ hsome)) happ

end Attempts

/-! ## Kills -/

/-- A check kills no process but the measured one exactly when what it meets is steady. -/
theorem kills_rightful_iff {tier : Tier} {history : TierHistory} {policy : ResourcePolicy}
    {check : String × EnforceReads} (h : history.Matches)
    (hmeasured : (history.samples check.1).isSome = true → history.measured check.1 = history.latest check.1) :
    (∀ kill, Kills tier history policy check kill → kill.Rightful) ↔ history.Steady tier policy check := by
  constructor
  · intro hrightful reading pid process hlatest hlimit hpid hstart hpermitted hprocess
    have hrel := h check.1
    rw [hlatest] at hrel
    generalize hsample : history.samples check.1 = found at hrel
    cases hrel with
    | some hof =>
      rename_i sample
      rw [← hof.1] at hlimit
      rw [← hof.2.2] at hstart
      obtain ⟨reading', hreading, hkilled, -, hnamed⟩ :=
        hrightful _ ⟨sample, pid, process, hsample, hlimit, hpid, hstart, hpermitted, hprocess, rfl⟩
      dsimp only at hreading hkilled hnamed
      rw [hmeasured (by rw [hsample]; rfl), hlatest] at hreading
      cases hreading
      injection hkilled with hpids hstarts
      exact ⟨hpids.symm, hstarts.symm, hnamed⟩
  · rintro hsteady kill ⟨sample, pid, process, hsample, hlimit, hpid, hstart, hpermitted, hprocess, rfl⟩
    have hrel := h check.1
    rw [hsample] at hrel
    generalize hlatest : history.latest check.1 = found at hrel
    cases hrel with
    | some hof =>
      rename_i reading
      rw [hof.1] at hlimit
      rw [hof.2.2] at hstart
      obtain ⟨hpids, hstarts, hnamed⟩ :=
        hsteady reading pid process hlatest hlimit hpid hstart hpermitted hprocess
      refine ⟨reading, ?_, ?_, hlimit, hnamed⟩
      · rw [← hlatest]
        exact hmeasured (by rw [hsample]; rfl)
      · unfold Reading.measured
        rw [hpids, hstarts]

/-! ## Runs -/

section Runs

variable (sysconf : Int) {history : SamplingHistory}

def SamplingHistory.Matches (history : SamplingHistory) : Prop := ∀ tier, (history.tiers tier).Matches

theorem round_bound_iff {tier : Tier} {op : SamplingOp} (htier : op.tier? = some tier) (h : history.Matches)
    (hbound : history.Bound) :
    (history.round sysconf tier op).Bound ↔ history.CarefulRound sysconf tier op := by
  have hfile := fun a (ha : a ∈ op.attempts) => attempts_file htier ha
  have hrefreshed := refresh_bound_iff sysconf tier (h tier) hfile
  have hswept := @refresh_swept sysconf tier (history.tiers tier) op.attempts hfile
  have hmatches := refresh_matches sysconf tier (h tier) op.attempts
  generalize hafter : (history.tiers tier).refresh sysconf tier op.attempts = after at hrefreshed hswept hmatches
  have htiers : (∀ t, ((history.round sysconf tier op).tiers t).Bound) ↔ after.Bound := by
    unfold SamplingHistory.round
    dsimp only
    rw [hafter]
    constructor
    · intro hall
      have := hall tier
      rwa [Function.update_self] at this
    · intro hone t
      by_cases ht : t = tier
      · rw [ht, Function.update_self]
        exact hone
      · rw [Function.update_of_ne ht]
        exact hbound.tiers t
  have hkills : (∀ kill ∈ (history.round sysconf tier op).kills, kill.Rightful) ↔
      ∀ check ∈ op.checks, ∀ kill, Kills tier after history.watchdog.policy check kill → kill.Rightful := by
    unfold SamplingHistory.round
    dsimp only
    rw [hafter]
    constructor
    · intro hall check hcheck kill hkill
      exact hall kill ((mem_checks_kills _ _).mpr (.inr ⟨check, hcheck, hkill⟩))
    · intro hall kill hkill
      rcases (mem_checks_kills _ _).mp hkill with hmem | ⟨check, hcheck, hkill⟩
      · cases hmem
      · exact hall check hcheck kill hkill
  have hmeasured (hcovered : (history.tiers tier).Covered op.attempts) (app : String)
      (hsome : (after.samples app).isSome = true) : after.measured app = after.latest app := by
    by_cases happ : app ∈ op.attempts.map Attempt.app
    · exact (hswept.read app (List.mem_reverse.mpr happ)).1
    · have hkept := hswept.kept app fun hmem => happ (List.mem_reverse.mp hmem)
      exact absurd (hcovered app (hkept.2.1 ▸ hsome)) happ
  constructor
  · intro hround
    obtain ⟨hcovered, halong⟩ := hrefreshed.mp (htiers.mp hround.tiers)
    refine ⟨hcovered, halong, ?_⟩
    intro check hcheck
    rw [hafter]
    exact (kills_rightful_iff hmatches (hmeasured hcovered check.1)).mp (hkills.mp hround.kills check hcheck)
  · rintro ⟨hcovered, halong, hsteady⟩
    rw [hafter] at hsteady
    refine ⟨htiers.mpr (hrefreshed.mpr ⟨hcovered, halong⟩), hkills.mpr ?_⟩
    intro check hcheck
    exact (kills_rightful_iff hmatches (hmeasured hcovered check.1)).mpr (hsteady check hcheck)

theorem step_bound_iff {op : SamplingOp} (h : history.Matches) (hbound : history.Bound) :
    (history.step sysconf op).Bound ↔ history.Careful sysconf op := by
  cases op with
  | reload wire =>
    refine iff_of_true ⟨hbound.tiers, ?_⟩ trivial
    exact fun _ hmem => nomatch hmem
  | celld ports checks => exact round_bound_iff sysconf rfl h hbound
  | wasmd entries checks => exact round_bound_iff sysconf rfl h hbound

theorem step_matches {op : SamplingOp} (h : history.Matches) : (history.step sysconf op).Matches := by
  have hround : ∀ tier, (history.round sysconf tier op).Matches := by
    intro tier t
    unfold SamplingHistory.round
    dsimp only
    by_cases ht : t = tier
    · rw [ht, Function.update_self]
      exact refresh_matches sysconf tier (h tier) op.attempts
    · rw [Function.update_of_ne ht]
      exact h t
  cases op with
  | reload wire => exact h
  | celld ports checks => exact hround .celld
  | wasmd entries checks => exact hround .wasmd

theorem initial_matches : SamplingHistory.initial.Matches := fun _ _ => .none

theorem initial_bound : SamplingHistory.initial.Bound where
  tiers := fun _ => ⟨fun _ h => (nomatch h), fun _ h => (nomatch h)⟩
  kills := fun _ h => nomatch h

/-- Every state of a run is bound exactly when every round of it was careful. -/
theorem run_bound_iff {ops : List SamplingOp} (h : history.Matches) (hbound : history.Bound) :
    Along (SamplingHistory.step sysconf) (fun history op => (history.step sysconf op).Bound) history ops ↔
      Along (SamplingHistory.step sysconf) (SamplingHistory.Careful sysconf) history ops := by
  induction ops generalizing history with
  | nil => exact Iff.rfl
  | cons op ops ih =>
    have hstep := @step_bound_iff sysconf history op h hbound
    constructor
    · rintro ⟨hnext, hrest⟩
      exact ⟨hstep.mp hnext, (ih (step_matches sysconf h) hnext).mp hrest⟩
    · rintro ⟨hcareful, hrest⟩
      have hnext := hstep.mpr hcareful
      exact ⟨hnext, (ih (step_matches sysconf h) hnext).mpr hrest⟩

/-- In every state of a run samples, CPU figures and kills concern one process exactly when every round was careful. -/
theorem samples_bound_to_process (sysconf : Int) (ops : List SamplingOp) :
    Along (SamplingHistory.step sysconf) (fun history op => (history.step sysconf op).Bound) .initial ops ↔
      Along (SamplingHistory.step sysconf) (SamplingHistory.Careful sysconf) .initial ops :=
  run_bound_iff sysconf initial_matches initial_bound

end Runs

/-! ## Rounds that are not careful -/

/-- A process that started at tick 100 and one that started at tick 900, with their CPU times. -/
def firstProcess : ProcView where
  stat :=
    { comm := "wasmd".toList
      state := 'S'
      numbers := List.replicate 10 0 ++ [5, 0, 0, 0, 0, 0, 0, 0, 100] ++ List.replicate 30 0
      letter := by decide
      complete := by decide
      bounded := by decide }
  statIsText := true
  status := some "Name:\twasmd\nVmRSS:\t    2048 kB\n".toList
  cmdline := some "wasmd".toList
  letter := by decide
  dated := by decide

def secondProcess : ProcView where
  stat :=
    { comm := "wasmd".toList
      state := 'S'
      numbers := List.replicate 10 0 ++ [9, 0, 0, 0, 0, 0, 0, 0, 900] ++ List.replicate 30 0
      letter := by decide
      complete := by decide
      bounded := by decide }
  statIsText := true
  status := some "Name:\twasmd\nVmRSS:\t    1024 kB\n".toList
  cmdline := some "wasmd".toList
  letter := by decide
  dated := by decide

/-- A host where the pidfile of the application names a process. -/
def hostOf (text : String) (pid : ℕ) (h : 0 < pid ∧ pid ≤ 4194304) (process : ProcView) : HostView where
  pidfile := fun file => if file = "wasmd-notes.pid" then some text.toList else none
  process := fun n => if n = pid then some process else none
  pids := by
    intro n p hp
    by_cases hn : n = pid
    · rw [hn]
      exact h
    · rw [if_neg hn] at hp
      cases hp

def roundOn (view : HostView) : SamplingOp :=
  .wasmd (some [("wasmd-notes.pid", ⟨view, view, view, "2026-08-30T00:00:00.000Z"⟩)]) []

def firstRound : SamplingOp := roundOn (hostOf "17\n" 17 (by decide) firstProcess)

/-- The application was restarted, and its new process has used more CPU time. -/
def restartedRound : SamplingOp := roundOn (hostOf "18\n" 18 (by decide) secondProcess)

/-- The application has stopped and its pidfile is gone. -/
def vanishedRound : SamplingOp := .wasmd (some []) []

theorem restarted_reports :
    ((run (SamplingHistory.step 100) .initial [firstRound, restartedRound]).tiers .wasmd).reports =
      [⟨some ⟨17, 100⟩, ⟨18, 900⟩⟩] := by
  decide +kernel

theorem vanished_sample :
    ((run (SamplingHistory.step 100) .initial [firstRound, vanishedRound]).tiers .wasmd).samples "notes" =
        some ⟨2097152, 0, false, 5, 100, "2026-08-30T00:00:00.000Z"⟩ ∧
      ((run (SamplingHistory.step 100) .initial [firstRound, vanishedRound]).tiers .wasmd).named = [] := by
  decide +kernel

/-- A CPU figure is given across two processes, and a sample outlives its pidfile. -/
theorem samples_outlive_process :
    ¬(run (SamplingHistory.step 100) .initial [firstRound, restartedRound]).Bound ∧
      ¬(run (SamplingHistory.step 100) .initial [firstRound, vanishedRound]).Bound := by
  constructor
  · intro h
    have hreport := (h.tiers .wasmd).reports
    rw [restarted_reports] at hreport
    have hsame := hreport _ List.mem_cons_self
    exact absurd hsame (by decide)
  · intro h
    have hnamed := (h.tiers .wasmd).named "notes"
    rw [vanished_sample.1, vanished_sample.2] at hnamed
    cases hnamed rfl

end Iweb.Sampling
