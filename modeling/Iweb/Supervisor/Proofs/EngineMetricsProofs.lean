import Iweb.Supervisor.EngineSampling
import Iweb.Supervisor.Vectors

/-!
# Samples on the wire

The supervisor writes samples of version 2: with version 2, the policy digest of the execution and its binding
at host ABI 1.1.0. The Kernel reads samples of version 1 only.
-/

namespace Iweb

namespace ServiceEngineMetricsV2

/-- The error the Kernel meets first: the key of the policy digest. -/
def policyDigestUnknown : KernelError :=
  ⟨wasmEngineMetricsInvalid, "/hostServicePolicyDigest: unknown field is not allowed"⟩

theorem validate_toJson (payload : ServiceEngineMetricsV2) :
    WasmEngineMetricsV1.validate payload.toJson = .error policyDigestUnknown := rfl

theorem accept_toJson (payload : ServiceEngineMetricsV2) (registry : WasmEngineMetricsRegistry)
    (fence : WasmEngineMetricsFence) (fuelEnabled : Option Bool) :
    registry.accept fence payload.toJson fuelEnabled = .error policyDigestUnknown := by
  unfold WasmEngineMetricsRegistry.accept
  rw [validate_toJson]
  rfl

/-! ## What is sent -/

/-- The fields of an accepted command that lives are those of a sample exactly if it has a policy. -/
theorem isIdentityValid_metricsIdentity {command : ExecutionCommand} {substate : WasmExecutionSubstate}
    (h : validateExecutionCommand command = .ok ()) (halive : isAliveExecutionIdentity command.identity = true) :
    isIdentityValid (WasmExecutionFenceRegistry.adoptedRecord command substate).metricsIdentity =
      isSha256Hex command.hostServicePolicyDigest := by
  simp only [validateExecutionCommand, validateExecutionIdentity, validateSandboxId, requireCommandU53,
    validateCommandSha256Hex, checkConfigSnapshotCoupling, bind_eq_ok, require_eq_ok, recode_eq_ok, exists_const,
    exists_and_right] at h
  obtain ⟨-, -, -, -, ⟨hsandbox, parsed, hversion, -, hpreparation, hexecution⟩, -, hpackage, ⟨_, hbinding⟩, -, -,
    -, hcapability, hcapabilityHash, hsecret, -, -, hconfig, ⟨_, href⟩, -, hzero, hpositive, hsame⟩ := h
  have hrefValid : command.configSnapshotRef.all isSha256Hex = true := by
    cases hsnapshot : command.configSnapshotRef with
    | none => rfl
    | some text =>
      rw [hsnapshot] at href
      exact require_eq_ok.mp href
  have hcoupled : decide (command.configRevision = 0) = command.configSnapshotRef.isNone := by
    cases hsnapshot : command.configSnapshotRef <;> cases hdigest : command.configValuesDigest <;>
      simp_all [Nat.pos_iff_ne_zero]
  have hcapability' : isU53Between command.capabilityRecordRevision 1 wasmU53Max = true := by
    simpa [isU53Between] using hcapability
  have hsecret' : isU53Between command.secretRevision 0 wasmU53Max = true := by
    simpa [isU53Between] using hsecret
  have hconfig' : isU53Between command.configRevision 0 wasmU53Max = true := by
    simpa [isU53Between] using hconfig
  unfold isAliveExecutionIdentity at halive
  simp only [Bool.and_eq_true, decide_eq_true_eq] at halive hpreparation hexecution
  have hpreparation' : isU53Between command.identity.preparationGeneration 1 wasmU53Max = true := by
    simp [isU53Between, halive.1, hpreparation.2]
  have hexecution' : isU53Between command.identity.executionGeneration 1 wasmU53Max = true := by
    simp [isU53Between, halive.2, hexecution.2]
  unfold isIdentityValid
  simp only [WasmExecutionFenceRegistry.adoptedRecord, WasmAcceptedExecutionRecord.metricsIdentity, hsandbox,
    hversion, hbinding, hpackage, hcapability', hcapabilityHash, hsecret', hconfig', hrefValid, hpreparation',
    hexecution', Except.isOk, Except.toBool, Bool.true_and, Bool.and_true]
  refine (congrArg (isSha256Hex command.hostServicePolicyDigest && ·) ?_).trans (Bool.and_true _)
  exact beq_iff_eq.mpr (Eq.trans (decide_eq_decide.mpr Iff.rfl) hcoupled)

/-- A sample of a live execution is sent if its command has a policy and the clock gives times: it degrades to
an unavailable one where the counters are no counters. -/
theorem isSome_sample {fence : WasmExecutionFenceRegistry} {command : ExecutionCommand}
    {substate : WasmExecutionSubstate} {counterSource : WasmAcceptedExecutionRecord → WasmEngineCounterSample}
    {clock : SamplingClock} (h : validateExecutionCommand command = .ok ())
    (halive : isAliveExecutionIdentity command.identity = true)
    (hpolicy : isSha256Hex command.hostServicePolicyDigest = true)
    (hsecond : WasmEngineMetricsV1.isRfc3339Utc clock.second = true ∧ clock.isDate clock.second = true) :
    (sample (fence.adopt command substate) command.identity.sandboxId counterSource clock).isSome = true := by
  have hcurrent : (fence.adopt command substate).current command.identity.sandboxId =
      some (WasmExecutionFenceRegistry.adoptedRecord command substate) := Function.update_self ..
  have hidentity : isIdentityValid
      (WasmExecutionFenceRegistry.adoptedRecord command substate).metricsIdentity = true := by
    rw [isIdentityValid_metricsIdentity h halive, hpolicy]
  have hdegraded : (validate clock.isDate
      (WasmExecutionFenceRegistry.adoptedRecord command substate).metricsIdentity clock.second .unavailable
      .null).isSome = true := by
    unfold validate
    rw [if_neg (by simp [hidentity, hsecond])]
    rfl
  unfold sample
  rw [hcurrent]
  dsimp only
  split
  · rfl
  · exact hdegraded

/-- Without a policy no sample is sent at all. -/
theorem sample_eq_none {fence : WasmExecutionFenceRegistry} {command : ExecutionCommand}
    {substate : WasmExecutionSubstate} {counterSource : WasmAcceptedExecutionRecord → WasmEngineCounterSample}
    {clock : SamplingClock} (hpolicy : command.hostServicePolicyDigest = "") :
    sample (fence.adopt command substate) command.identity.sandboxId counterSource clock = none := by
  have hcurrent : (fence.adopt command substate).current command.identity.sandboxId =
      some (WasmExecutionFenceRegistry.adoptedRecord command substate) := Function.update_self ..
  have hidentity : isIdentityValid
      (WasmExecutionFenceRegistry.adoptedRecord command substate).metricsIdentity = false := by
    have hempty : isSha256Hex "" = false := by decide +kernel
    simp [isIdentityValid, WasmAcceptedExecutionRecord.metricsIdentity, WasmExecutionFenceRegistry.adoptedRecord,
      hpolicy, hempty]
  have hrefused : ∀ sampledAt availability engine, validate clock.isDate
      (WasmExecutionFenceRegistry.adoptedRecord command substate).metricsIdentity sampledAt availability engine =
      none := by
    intro sampledAt availability engine
    unfold validate
    rw [if_pos (.inl hidentity)]
  unfold sample
  rw [hcurrent]
  dsimp only
  rw [hrefused]
  exact hrefused ..

end ServiceEngineMetricsV2

open ServiceEngineMetricsV2

/-- No sample of the supervisor is accepted by the Kernel: not by its form, not by a window, and not by the
client that fetches it. -/
theorem engine_metrics_never_cross (fence : WasmExecutionFenceRegistry) (sandboxId : String)
    (counterSource : WasmAcceptedExecutionRecord → WasmEngineCounterSample) (clock : SamplingClock)
    (command : ExecutionCommand) (registry : WasmEngineMetricsRegistry) (fuelEnabled : Option Bool) :
    (¬ ∃ payload metrics, sample fence sandboxId counterSource clock = some payload ∧
        WasmEngineMetricsV1.validate payload.toJson = .ok metrics ∧
        correlateWasmEngineMetrics (.fromCommand command) metrics = .ok ()) ∧
      (¬ ∃ payload accepted, sample fence sandboxId counterSource clock = some payload ∧
        registry.accept (.fromCommand command) payload.toJson fuelEnabled = .ok accepted) ∧
      wasmEngineMetrics (executionMetricsResponse (sample fence sandboxId counterSource clock)).1
        (executionMetricsResponse (sample fence sandboxId counterSource clock)).2 = none := by
  refine ⟨?_, ?_, ?_⟩
  · rintro ⟨payload, metrics, -, hvalid, -⟩
    rw [validate_toJson] at hvalid
    cases hvalid
  · rintro ⟨payload, accepted, -, haccepted⟩
    rw [accept_toJson] at haccepted
    cases haccepted
  · cases sample fence sandboxId counterSource clock with
    | none => rfl
    | some payload =>
      unfold wasmEngineMetrics executionMetricsResponse
      dsimp only
      rw [if_neg (fun hstatus => hstatus rfl), validate_toJson]

/-- A running execution with a policy. -/
def sampledCommand : ExecutionCommand :=
  { Vectors.executionCommand 1 .start (Vectors.execution 1 1 1) with
    hostServicePolicyDigest := Vectors.hex 64 'e' }

/-- A clock that stands still. -/
def standingClock : SamplingClock := ⟨"2026-08-26T00:00:00.000Z", "2026-08-26T00:00:00.000Z", fun _ => true⟩

/-- The Kernel refuses the sample the supervisor sends for it. -/
theorem engine_metrics_refused :
    validateExecutionCommand sampledCommand = .ok () ∧
      ∃ payload, sample (WasmExecutionFenceRegistry.empty.adopt sampledCommand .running) "sbx-orders"
          executorInternalEngineCounterSource standingClock = some payload ∧
        WasmEngineMetricsV1.validate payload.toJson = .error policyDigestUnknown := by
  have hvalid : validateExecutionCommand sampledCommand = .ok () := by decide +kernel
  have hsome : (sample (WasmExecutionFenceRegistry.empty.adopt sampledCommand .running) "sbx-orders"
      executorInternalEngineCounterSource standingClock).isSome = true :=
    isSome_sample hvalid (by decide +kernel) (by decide +kernel) (by decide +kernel)
  obtain ⟨payload, hpayload⟩ := Option.isSome_iff_exists.mp hsome
  exact ⟨hvalid, payload, hpayload, validate_toJson payload⟩

end Iweb
