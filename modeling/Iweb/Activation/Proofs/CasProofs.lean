import Iweb.Activation.Cas

/-!
# The activation CAS decision: what each answer means

`evaluateActivationCas_cases` lists the four answers of a decision with what each one rests on;
`evaluateActivationCas_activated` says exactly when the answer is an activation. Later proofs use these
two and never unfold the decision.
-/

namespace Iweb

open Std (ExtTreeMap)

/-- The pins `correlateReadinessLease` compares. -/
structure LeaseCorrelates (command : ActivationCommand) (lease : ServiceReadinessLeaseV2)
    (registry : RegistryRowFacts) : Prop where
  sandboxId : lease.sandboxId = command.candidate.sandboxId
  versionId : lease.versionId = command.candidate.versionId
  packageDigest : lease.packageDigest = command.candidate.packageDigest
  runtimeBinding : lease.runtimeBinding = command.candidate.runtimeBinding
  capabilityRevision : lease.capabilityRecordRevision = registry.capabilityRecordRevision
  capabilityHash : lease.capabilityRecordHash = registry.capabilityRecordHash
  policyCommand : lease.hostServicePolicyDigest = command.hostServicePolicyDigest
  policyRegistry : registry.hostServicePolicyDigest.getD "" = command.hostServicePolicyDigest
  registryBinding : runtimeBindingV2FromV1 registry.runtimeBinding = .ok command.candidate.runtimeBinding
  secretRevision : lease.secretRevision = command.candidate.secretRevision
  secretValuesDigest : lease.secretValuesDigest = command.candidate.secretValuesDigest
  configRevision : lease.configRevision = command.candidate.configRevision
  configSnapshotRef : lease.configSnapshotRef = command.candidate.configSnapshotRef
  configValuesDigest : lease.configValuesDigest = command.candidate.configValuesDigest
  preparation : lease.preparationGeneration = command.candidate.preparationGeneration
  execution : lease.executionGeneration = command.candidate.executionGeneration
  leaseDigest : lease.leaseDigest = command.candidate.leaseDigest
  leaseNonce : lease.leaseNonce = command.candidate.leaseNonce

/-- A lease correlates exactly when every compared pin agrees. -/
theorem correlateReadinessLease_eq_ok {command : ActivationCommand} {lease : ServiceReadinessLeaseV2}
    {registry : RegistryRowFacts} {u : Unit} :
    correlateReadinessLease command lease registry = .ok u ↔ LeaseCorrelates command lease registry := by
  simp only [correlateReadinessLease, bind_eq_ok, recode_eq_ok, require_eq_ok, leaseMismatches,
    List.isEmpty_iff, List.append_eq_nil_iff, ite_eq_right_iff, List.cons_ne_nil, imp_false,
    Bool.or_eq_true, bne_iff_ne, not_or, ne_eq, not_not]
  constructor
  · rintro ⟨b, hb, h⟩
    obtain ⟨⟨⟨⟨⟨⟨⟨⟨⟨⟨⟨h1, h2⟩, h3⟩, h4⟩, h5, h5'⟩, h6⟩, h7⟩, h8⟩, h9, h9'⟩, ⟨h10, h10'⟩, h10''⟩,
      h11, h11'⟩, h12, h12'⟩ := h
    subst h8
    exact ⟨h1, h2, h3, h4, h5, h5', h6, h7, hb, h9, h9', h10, h10', h10'', h11, h11', h12, h12'⟩
  · intro h
    exact ⟨_, h.registryBinding, by
      simp [h.sandboxId, h.versionId, h.packageDigest, h.runtimeBinding, h.capabilityRevision,
        h.capabilityHash, h.policyCommand, h.policyRegistry, h.secretRevision, h.secretValuesDigest,
        h.configRevision, h.configSnapshotRef, h.configValuesDigest, h.preparation, h.execution,
        h.leaseDigest, h.leaseNonce]⟩

variable (D : Digests)

/-- The pointer a committed command routes to. -/
def activatedPointer (command : ActivationCommand) (identity : WasmVersionIdentity) :
    WasmActivePointerV1 :=
  .active
    { runtimeKind := "wasm"
      applicationId := command.applicationId
      versionId := command.candidate.versionId
      identity := identity
      runtimeBinding := command.candidate.runtimeBinding.toV1
      admissionProofRef := command.candidate.admissionProofRef
      admissionProofDigest := command.candidate.admissionProofDigest
      routeGeneration := command.expectedRouteGeneration + 1
      hostServicePolicyDigest :=
        if command.hostServicePolicyDigest == "" then none else some command.hostServicePolicyDigest
      preparationGeneration := some command.candidate.preparationGeneration
      executionGeneration := some command.candidate.executionGeneration }

/-- The event of a committed command, from the members of its intent. -/
def activatedEvent (pending : PendingActivationCas) (identity : WasmVersionIdentity) : RouteEvent :=
  routeEventSealed D
    { schemaVersion := 2
      eventId := pending.eventId
      activationId := pending.command.activationId
      applicationId := pending.command.applicationId
      runtimeKind := "wasm"
      operation := pending.command.operation
      expectedRouteGeneration := pending.command.expectedRouteGeneration
      previous := pending.previousPointer
      next := activatedPointer pending.command identity
      leaseConsume :=
        { schemaVersion := 1
          leaseNonce := pending.lease.leaseNonce
          leaseDigest := pending.lease.leaseDigest
          activationId := pending.command.activationId
          applicationId := pending.command.applicationId
          versionId := pending.command.candidate.versionId
          expectedRouteGeneration := pending.command.expectedRouteGeneration
          consumedAt := formatRfc3339UtcMillis pending.casNowEpochMillis
          outcome := .consumed
          routeGeneration := pending.command.expectedRouteGeneration + 1 }
      result := .activated
      reasonCode := none
      hostServicePolicyDigest := pending.command.hostServicePolicyDigest
      controlRevision := pending.controlRevision
      routeGeneration := pending.command.expectedRouteGeneration + 1
      createdAt := formatRfc3339UtcMillis pending.casNowEpochMillis
      eventDigest := "" }

/-- The intent of a CAS, as `applyActivation` writes it. -/
def casIntent (state : KernelActivationState) (command : ActivationCommand)
    (lease : ServiceReadinessLeaseV2) (facts : ActivationCasFacts) (eventId : String) :
    PendingActivationCas where
  command := command
  lease := lease
  eventId := eventId
  casNowEpochMillis := facts.nowEpochMillis
  controlRevision := facts.controlRevision
  previousPointer := state.active

/-- The checks a command passes before its nonce is looked up. -/
structure LeaseGates (state : KernelActivationState) (command : ActivationCommand)
    (lease : ServiceReadinessLeaseV2) (facts : ActivationCasFacts) : Prop where
  command_valid : command.validate D = .ok ()
  application : command.applicationId = state.applicationId
  generation : command.expectedRouteGeneration = state.routeGeneration
  candidate_ready : ∃ registry, facts.registryRow = some registry ∧
    registry.lifecycleReady = true ∧
    LeaseCorrelates command lease registry ∧
    (command.operation = .rollback →
      rollbackRetained D command registry facts.rollbackRetention = .ok true)
  alive : facts.candidateAlive = true
  secret : facts.currentSecretStoreRevision = command.candidate.secretRevision
  preparation : facts.currentPreparationGeneration = command.candidate.preparationGeneration
  not_revoked : facts.bindingRevoked = false
  lease_valid : lease.validate D = .ok ()

/-- Every check a command passes on its way to an activation. -/
structure ActivationGates (state : KernelActivationState) (command : ActivationCommand)
    (lease : ServiceReadinessLeaseV2) (facts : ActivationCasFacts) : Prop
    extends LeaseGates D state command lease facts where
  nonce_fresh : state.nonceLedger[lease.leaseNonce]? = none
  unexpired : ∃ expiresAt, lease.expiresAtEpochMillis = .ok expiresAt ∧ facts.nowEpochMillis < expiresAt

/-- The command passes every check up to its nonce, which its lease consumed before. -/
structure NonceSpent (state : KernelActivationState) (command : ActivationCommand)
    (lease : ServiceReadinessLeaseV2) (facts : ActivationCasFacts) : Prop
    extends LeaseGates D state command lease facts where
  spent : state.nonceLedger[lease.leaseNonce]? = some lease.leaseDigest

/-- A candidate whose command is valid has a version identity. -/
theorem candidateIdentity_of_valid {command : ActivationCommand} (h : command.validate D = .ok ()) :
    ∃ identity, candidateIdentity command = .ok identity := by
  simp only [ActivationCommand.validate, ActivationCandidate.validate, bind_eq_ok] at h
  obtain ⟨_, _, _, _, _, _, _, _, _, _, _, _, _, _, _, _, _, _, _, _, _, hc, _⟩ := h
  obtain ⟨_, _, _, _, _, _, p, hp, _⟩ := hc
  exact ⟨_, by simp only [candidateIdentity, hp]; rfl⟩

theorem expiry_eq_ok {now expiresAt : Nat} {u : Unit} :
    checkReadinessLeaseExpiryAtCas now expiresAt = .ok u ↔ now < expiresAt := by
  simp [checkReadinessLeaseExpiryAtCas]

/-- The structural checks of a command fail with `WASM_ACTIVATION_INVALID` only. -/
theorem command_validate_fails {P : String → Prop} (hP : P wasmActivationInvalid)
    (command : ActivationCommand) : FailsOnlyWith P (command.validate D) := by
  have hc (ok : Bool) (detail : String) : FailsOnlyWith P (activationCheck ok detail) := .require hP
  have hopt (value : Option String) (field : String) :
      FailsOnlyWith P (checkOptionalSha256Hex value field) := by
    cases value
    · exact .ok ()
    · exact hc _ _
  have hcand : FailsOnlyWith P (command.candidate.validate command.applicationId) := by
    refine .bind (hc _ _) fun _ => .bind (hc _ _) fun _ => .bind (hc _ _) fun _ =>
      .bind (.recodeAt hP) fun _ => .bind (hc _ _) fun _ => .bind (.recode hP) fun _ =>
      .bind (hc _ _) fun _ => .bind (hc _ _) fun _ => .bind (hc _ _) fun _ => .bind (hc _ _) fun _ =>
      .bind (hc _ _) fun _ => .bind (hc _ _) fun _ => .bind (hc _ _) fun _ => .bind (hopt _ _) fun _ =>
      .bind (hopt _ _) fun _ => .bind ?_ fun _ => .bind (hc _ _) fun _ => hc _ _
    exact .bind (hc _ _) fun _ => .bind (hc _ _) fun _ => hc _ _
  exact .bind (hc _ _) fun _ => .bind (hc _ _) fun _ => .bind (hc _ _) fun _ => .bind (hc _ _) fun _ =>
    .bind (hc _ _) fun _ => .bind (hc _ _) fun _ => .bind (hc _ _) fun _ => .bind (hc _ _) fun _ =>
    .bind (.recodeAt hP) fun _ => .bind (hc _ _) fun _ => .bind hcand fun _ => hc _ _

/-- A ready candidate passed every comparison of step 2. -/
theorem candidateReady_eq_true {command : ActivationCommand} {registry : RegistryRowFacts}
    {facts : ActivationCasFacts} :
    candidateReady D command registry facts = .ok true ↔
      runtimeBindingV2FromV1 registry.runtimeBinding = .ok command.candidate.runtimeBinding ∧
      registry.lifecycleReady = true ∧
      registry.hostServicePolicyDigest.getD "" = command.hostServicePolicyDigest ∧
      facts.candidateAlive = true ∧
      facts.currentSecretStoreRevision = command.candidate.secretRevision ∧
      facts.currentPreparationGeneration = command.candidate.preparationGeneration ∧
      (command.operation = .rollback →
        rollbackRetained D command registry facts.rollbackRetention = .ok true) := by
  simp only [candidateReady, bind_eq_ok, recode_eq_ok]
  constructor
  · rintro ⟨binding, hb, h⟩
    split at h
    · simp [pure, Except.pure] at h
    rename_i hrow
    split at h
    · simp [pure, Except.pure] at h
    rename_i halive
    split at h
    · simp [pure, Except.pure] at h
    rename_i hsecret
    split at h
    · simp [pure, Except.pure] at h
    rename_i hprep
    simp only [Bool.or_eq_true, bne_iff_ne, Bool.not_eq_true', not_or, not_not,
      Bool.not_eq_false] at hrow halive hsecret hprep
    obtain ⟨⟨rfl, hl⟩, hp⟩ := hrow
    refine ⟨hb, hl, hp, halive, by simpa [matchesSecretRevisionFence] using hsecret,
      by simpa using hprep, fun hop => ?_⟩
    simpa [hop] using h
  · rintro ⟨hb, hl, hp, ha, hs, hg, hr⟩
    refine ⟨_, hb, ?_⟩
    simp only [hl, hp, ha, hs, hg, matchesSecretRevisionFence]
    cases hop : command.operation with
    | activate => simp [pure, Except.pure]
    | rollback => simpa using hr hop

/-- The four answers of a decision. -/
theorem evaluateActivationCas_cases (state : KernelActivationState) (command : ActivationCommand)
    (lease : ServiceReadinessLeaseV2) (facts : ActivationCasFacts) (eventId : String) :
    (∃ e, evaluateActivationCas D state command lease facts eventId = .error e) ∨
    (∃ reason, evaluateActivationCas D state command lease facts eventId =
      .ok (.rejected (rejectedEvent D state command lease.leaseNonce lease.leaseDigest reason
        facts.nowEpochMillis facts.controlRevision eventId))) ∨
    (∃ originalId original, NonceSpent D state command lease facts ∧
      state.nonceActivationIndex[lease.leaseNonce]? = some originalId ∧
      state.activationRecords[originalId]? = some original ∧
      evaluateActivationCas D state command lease facts eventId =
        .ok (.alreadyConsumed original.event)) ∨
    (ActivationGates D state command lease facts ∧
      ∃ identity, candidateIdentity command = .ok identity ∧
        evaluateActivationCas D state command lease facts eventId =
          .ok (.activated (activatedEvent D (casIntent state command lease facts eventId) identity))) := by
  cases hv : command.validate D with
  | error e => exact .inl ⟨e, by simp [evaluateActivationCas, hv, bind, Except.bind]⟩
  | ok u =>
  cases happ : activationCheck (command.applicationId == state.applicationId)
    "the activation command must target this application state" with
  | error e => exact .inl ⟨e, by simp [evaluateActivationCas, hv, happ, bind, Except.bind]⟩
  | ok _ =>
  obtain ⟨identity, hid⟩ := candidateIdentity_of_valid D hv
  generalize hr : evaluateActivationCas D state command lease facts eventId = r
  simp only [evaluateActivationCas, hv, happ, hid, bind, Except.bind, pure, Except.pure] at hr
  split at hr
  · exact .inr (.inl ⟨_, hr.symm⟩)
  rename_i hgen
  split at hr
  · exact .inr (.inl ⟨_, hr.symm⟩)
  rename_i registry hrow
  split at hr
  · exact .inl ⟨_, hr.symm⟩
  rename_i ready hready
  split at hr
  · exact .inr (.inl ⟨_, hr.symm⟩)
  rename_i hready'
  split at hr
  · exact .inr (.inl ⟨_, hr.symm⟩)
  rename_i hrev
  split at hr
  · exact .inr (.inl ⟨_, hr.symm⟩)
  rename_i hlease
  have gates : LeaseGates D state command lease facts := by
    obtain rfl : ready = true := by simpa using hready'
    obtain ⟨-, hl, -, halive, hsecret, hprep, hret⟩ := (candidateReady_eq_true D).mp hready
    obtain ⟨_, hvalid, hcorr⟩ := bind_eq_ok.mp hlease
    exact {
      command_valid := hv
      application := by simpa [activationCheck] using happ
      generation := by simpa using hgen
      candidate_ready := ⟨registry, hrow, hl, correlateReadinessLease_eq_ok.mp hcorr, hret⟩
      alive := halive
      secret := hsecret
      preparation := hprep
      not_revoked := by simpa using hrev
      lease_valid := hvalid }
  split at hr
  · rename_i digest hledger
    split at hr
    · exact .inr (.inl ⟨_, hr.symm⟩)
    rename_i hdigest
    split at hr
    · exact .inl ⟨_, hr.symm⟩
    rename_i originalId hindex
    split at hr
    · exact .inl ⟨_, hr.symm⟩
    rename_i original hrecord
    refine .inr (.inr (.inl ⟨originalId, original, { gates with spent := ?_ }, hindex, hrecord, hr.symm⟩))
    rw [hledger]
    simpa using hdigest
  · rename_i hledger
    split at hr
    · exact .inl ⟨_, hr.symm⟩
    rename_i expiresAt hexp
    split at hr
    · exact .inr (.inl ⟨_, hr.symm⟩)
    rename_i hnow
    exact .inr (.inr (.inr ⟨{ gates with
      nonce_fresh := hledger
      unexpired := ⟨expiresAt, recode_eq_ok.mp hexp, expiry_eq_ok.mp hnow⟩ }, identity, hid, hr.symm⟩))

/-- A command that passes every check is activated. -/
theorem ActivationGates.evaluate {state : KernelActivationState} {command : ActivationCommand}
    {lease : ServiceReadinessLeaseV2} {facts : ActivationCasFacts}
    (h : ActivationGates D state command lease facts) (eventId : String) :
    ∃ identity, candidateIdentity command = .ok identity ∧
      evaluateActivationCas D state command lease facts eventId =
        .ok (.activated (activatedEvent D (casIntent state command lease facts eventId) identity)) := by
  obtain ⟨identity, hid⟩ := candidateIdentity_of_valid D h.command_valid
  obtain ⟨registry, hrow, hl, hcorr, hret⟩ := h.candidate_ready
  obtain ⟨expiresAt, hexp, hnow⟩ := h.unexpired
  have hready : candidateReady D command registry facts = .ok true :=
    (candidateReady_eq_true D).mpr ⟨hcorr.registryBinding, hl, hcorr.policyRegistry, h.alive, h.secret,
      h.preparation, hret⟩
  have hlease : correlateReadinessLease command lease registry = .ok () :=
    correlateReadinessLease_eq_ok.mpr hcorr
  have happ : activationCheck (command.applicationId == state.applicationId)
      "the activation command must target this application state" = .ok () := by
    simp [activationCheck, h.application]
  have hgen : (command.expectedRouteGeneration != state.routeGeneration) = false := by
    simp [h.generation]
  have hexpiry : checkReadinessLeaseExpiryAtCas facts.nowEpochMillis expiresAt = .ok () :=
    expiry_eq_ok.mpr hnow
  refine ⟨identity, hid, ?_⟩
  simp only [evaluateActivationCas, h.command_valid, happ, hid, hrow, hready, hlease, h.lease_valid,
    h.nonce_fresh, h.not_revoked, recode_eq_ok.mpr hexp, hexpiry, hgen, bind, Except.bind, pure,
    Except.pure, Bool.not_true, if_false, Bool.false_eq_true]
  rfl

/-- A decision is an activation exactly when every check passes. -/
theorem evaluateActivationCas_activated {state : KernelActivationState} {command : ActivationCommand}
    {lease : ServiceReadinessLeaseV2} {facts : ActivationCasFacts} (eventId : String) :
    (∃ event, evaluateActivationCas D state command lease facts eventId = .ok (.activated event)) ↔
      ActivationGates D state command lease facts := by
  refine ⟨fun ⟨event, h⟩ => ?_, fun h => ?_⟩
  · rcases evaluateActivationCas_cases D state command lease facts eventId with
      ⟨e, h'⟩ | ⟨reason, h'⟩ | ⟨_, _, _, _, _, h'⟩ | ⟨gates, -⟩
    · simp [h] at h'
    · simp [h] at h'
    · simp [h] at h'
    · exact gates
  · obtain ⟨identity, -, h'⟩ := h.evaluate D eventId
    exact ⟨_, h'⟩

end Iweb
