import Iweb.Activation.Vectors
import Iweb.Foundations.CrashRefinement
import Iweb.Supervisor.SnapshotHandoffs

/-!
# A handoff is named by its command and kind

An accept ends in one of three ways. What the table holds decides whether a delivery repeats one or contradicts it,
so a command is forgotten with its handoffs: the invariant of a run needs a condition only there.
-/

namespace Iweb

open CrashRefinement

variable {digests : SnapshotDigests}

/-! ## An accept -/

theorem handoffJcsBytes_eq_ok {payload : SnapshotHandoffPayload} {value : Json}
    (h : handoffJcsBytes payload = .ok value) : value = .object payload.members := by
  unfold handoffJcsBytes at h
  split at h
  · cases h
  · exact (Except.ok.inj h).symm

/-- The digest of a handoff is that of its members. -/
theorem computeSnapshotHandoffDigest_eq_ok {payload : SnapshotHandoffPayload} {digest : String}
    (h : computeSnapshotHandoffDigest digests payload = .ok digest) :
    digest = digests.ofJcs snapshotHandoffDigestDomain (.object payload.members) := by
  unfold computeSnapshotHandoffDigest at h
  cases hvalue : handoffJcsBytes payload with
  | error failure =>
    rw [hvalue] at h
    cases h
  | ok value =>
    rw [hvalue, handoffJcsBytes_eq_ok hvalue] at h
    exact (Except.ok.inj h).symm

/-- What the checks of a delivery establish. -/
structure SnapshotDelivery.Checked (digests : SnapshotDigests) (delivery : SnapshotDelivery) (digest : String) :
    Prop where
  fdDigest : computeSnapshotFdDigest digests delivery.payload.frameKind delivery.fdBytes =
    .ok delivery.payload.fdDigest
  valuesDigest : delivery.payload.fdDigest = delivery.payload.valuesDigest
  unexpired : ∃ expires, handoffExpiresEpochMillis delivery.payload = .ok expires ∧ delivery.nowEpochMillis < expires
  digest : computeSnapshotHandoffDigest digests delivery.payload = .ok digest

theorem checked_of_ok {delivery : SnapshotDelivery} {digest : String} (h : delivery.check digests = .ok digest) :
    delivery.Checked digests digest := by
  unfold SnapshotDelivery.check at h
  dsimp only at h
  cases hexpires : handoffExpiresEpochMillis delivery.payload with
  | error failure =>
    rw [hexpires] at h
    cases h
  | ok expires =>
    rw [hexpires] at h
    change (if expires ≤ delivery.nowEpochMillis then _ else _) = _ at h
    by_cases hexpired : expires ≤ delivery.nowEpochMillis
    · rw [if_pos hexpired] at h
      cases h
    rw [if_neg hexpired] at h
    cases hrecomputed : computeSnapshotFdDigest digests delivery.payload.frameKind delivery.fdBytes with
    | error failure =>
      rw [hrecomputed] at h
      cases h
    | ok recomputed =>
      rw [hrecomputed] at h
      change (if recomputed ≠ delivery.payload.fdDigest ∨ recomputed ≠ delivery.payload.valuesDigest then _ else _) =
        _ at h
      by_cases hsame : recomputed ≠ delivery.payload.fdDigest ∨ recomputed ≠ delivery.payload.valuesDigest
      · rw [if_pos hsame] at h
        cases h
      rw [if_neg hsame] at h
      rw [not_or, not_not, not_not] at hsame
      by_cases hpolicy : delivery.descriptorRegularFile = false ∨ delivery.descriptorReadOnly = false
      · rw [if_pos hpolicy] at h
        cases h
      rw [if_neg hpolicy] at h
      refine ⟨?_, hsame.1.symm.trans hsame.2, ⟨expires, hexpires, by omega⟩, h⟩
      rw [hrecomputed, hsame.1]

namespace HandoffTable

variable {table : HandoffTable} {delivery : SnapshotDelivery}

/-- The handoff of a delivery, and the answer to it. -/
def fresh (table : HandoffTable) (delivery : SnapshotDelivery) (digest : String) : HeldHandoff :=
  ⟨delivery.payload, delivery.fd, delivery.fdBytes, delivery.descriptorRegularFile, delivery.descriptorReadOnly,
    ⟨1, "ack", delivery.payload.commandId, digest, .accepted, none, table.nextJournalRevision + 1⟩⟩

/-- The table with a handoff that it has not held. -/
def filled (table : HandoffTable) (delivery : SnapshotDelivery) (digest : String) : HandoffTable :=
  ⟨Function.update table.inner delivery.payload.commandId
    (some (((table.inner delivery.payload.commandId).getD .empty).fill delivery.payload.frameKind
      (table.fresh delivery digest))), table.nextJournalRevision + 1⟩

/-- How an accept ends: refused, with the answer of the handoff held, or with one of its own. -/
inductive Accepted (digests : SnapshotDigests) (table : HandoffTable) (delivery : SnapshotDelivery) :
    HandoffTable × Except SnapshotFdError SnapshotFdAckV1 → Prop
  | refused (failure : SnapshotFdError) : Accepted digests table delivery (table, .error failure)
  | repeated {digest : String} {held : HeldHandoff} (hchecked : delivery.Checked digests digest)
      (hheld : table.held delivery.payload.commandId delivery.payload.frameKind = some held)
      (hdigest : computeSnapshotHandoffDigest digests held.payload = .ok digest) :
      Accepted digests table delivery (table, .ok held.storedAck)
  | taken {digest : String} (hcheck : delivery.check digests = .ok digest)
      (hnone : table.held delivery.payload.commandId delivery.payload.frameKind = none) :
      Accepted digests table delivery (table.filled delivery digest, .ok (table.fresh delivery digest).storedAck)

theorem slot_fill (command : HeldCommand) (payload : SnapshotHandoffPayload) (held : HeldHandoff)
    (kind : SnapshotFrameKind) : (command.fill payload.frameKind held).slot kind =
      if kind = payload.frameKind then some held else command.slot kind := by
  cases payload <;> cases kind <;> rfl

theorem slot_getD (table : HandoffTable) (commandId : String) (kind : SnapshotFrameKind) :
    ((table.inner commandId).getD .empty).slot kind = table.held commandId kind := by
  unfold HandoffTable.held
  cases table.inner commandId with
  | none => cases kind <;> rfl
  | some command => rfl

/-- The entry of a command is there already if something is held for it. -/
theorem update_of_slot {commandId : String} {kind : SnapshotFrameKind} {existing : HeldHandoff}
    (h : ((table.inner commandId).getD .empty).slot kind = some existing) :
    Function.update table.inner commandId (some ((table.inner commandId).getD .empty)) = table.inner := by
  cases hcommand : table.inner commandId with
  | none =>
    rw [hcommand] at h
    cases kind <;> cases h
  | some command => rw [Option.getD_some, ← hcommand, Function.update_eq_self]

theorem accepted (digests : SnapshotDigests) (table : HandoffTable) (delivery : SnapshotDelivery) :
    Accepted digests table delivery (table.accept digests delivery) := by
  unfold HandoffTable.accept
  cases hcheck : delivery.check digests with
  | error failure => exact .refused failure
  | ok digest =>
    dsimp only
    cases hslot : ((table.inner delivery.payload.commandId).getD .empty).slot delivery.payload.frameKind with
    | none => exact .taken hcheck ((slot_getD _ _ _).symm.trans hslot)
    | some existing =>
      rw [update_of_slot hslot]
      dsimp only
      have hheld := (slot_getD _ _ _).symm.trans hslot
      cases hdigest : computeSnapshotHandoffDigest digests existing.payload with
      | error failure => exact .refused failure
      | ok existingDigest =>
        dsimp only
        by_cases heq : existingDigest = digest
        · rw [if_pos heq]
          exact .repeated (checked_of_ok hcheck) hheld (heq ▸ hdigest)
        · rw [if_neg heq]
          exact .refused _

/-- A refused accept leaves the table as it was. -/
theorem accept_of_error {failure : SnapshotFdError} (h : (table.accept digests delivery).2 = .error failure) :
    (table.accept digests delivery).1 = table := by
  cases hresult : table.accept digests delivery with
  | mk after answer =>
    have haccepted := accepted digests table delivery
    rw [hresult] at haccepted h
    cases haccepted with
    | refused => rfl
    | repeated => rfl
    | taken => cases h

/-! ## What is held after a call -/

theorem held_filled (delivery : SnapshotDelivery) (digest commandId : String) (kind : SnapshotFrameKind) :
    (table.filled delivery digest).held commandId kind =
      if commandId = delivery.payload.commandId ∧ kind = delivery.payload.frameKind then
        some (table.fresh delivery digest)
      else table.held commandId kind := by
  unfold HandoffTable.held filled
  dsimp only
  by_cases hcommand : commandId = delivery.payload.commandId
  · subst hcommand
    rw [Function.update_self, Option.bind_some, slot_fill, slot_getD]
    by_cases hkind : kind = delivery.payload.frameKind
    · rw [if_pos hkind, if_pos ⟨rfl, hkind⟩]
    · rw [if_neg hkind, if_neg (fun hboth => hkind hboth.2)]
      rfl
  · rw [Function.update_of_ne hcommand, if_neg (fun hboth => hcommand hboth.1)]

theorem held_consume {commandId other : String} {kind : SnapshotFrameKind} {held : HeldHandoff}
    (h : (table.consume commandId).1.held other kind = some held) : table.held other kind = some held := by
  unfold HandoffTable.held at h ⊢
  unfold consume at h
  dsimp only at h
  by_cases hsame : other = commandId
  · rw [hsame, Function.update_self] at h
    cases h
  · rw [Function.update_of_ne hsame] at h
    exact h

end HandoffTable

/-! ## The invariant of a run -/

namespace HandoffSystem

variable {system : HandoffSystem} {calls : List HandoffCall}

/-- What holds in every run: what is held was accepted, and revisions grow. -/
structure Sound (digests : SnapshotDigests) (payloads : List SnapshotHandoffPayload) (system : HandoffSystem) :
    Prop where
  among : ∀ acceptance ∈ system.accepted, acceptance.delivery.payload ∈ payloads
  held : ∀ commandId kind held, system.table.held commandId kind = some held →
    system.HeldAsAccepted digests commandId kind held
  bounded : ∀ acceptance ∈ system.accepted,
    acceptance.ack.journalRevision ≤ system.table.nextJournalRevision
  revisions : system.OneRevision

theorem sound_initial (payloads : List SnapshotHandoffPayload) : initial.Sound digests payloads where
  among := fun _ hmem => nomatch hmem
  held := fun _ _ _ hheld => nomatch hheld
  bounded := fun _ hmem => nomatch hmem
  revisions := fun _ hmem => nomatch hmem

theorem HeldAsAccepted.append {commandId : String} {kind : SnapshotFrameKind} {held : HeldHandoff}
    (h : system.HeldAsAccepted digests commandId kind held) (table : HandoffTable) (more : List HandoffAcceptance) :
    HeldAsAccepted digests ⟨table, system.accepted ++ more⟩ commandId kind held := by
  obtain ⟨acceptance, hmem, hrest⟩ := h.accepted
  exact ⟨h.command, h.frame, h.fdDigest, h.valuesDigest, acceptance, List.mem_append_left _ hmem, hrest⟩

/-- A delivery answered with what is held stands for the one accepted before. -/
theorem HeldAsAccepted.stands {delivery : SnapshotDelivery} {commandId : String} {kind : SnapshotFrameKind}
    {held : HeldHandoff} (h : system.HeldAsAccepted digests commandId kind held)
    (hpayload : held.payload = delivery.payload) :
    ∀ acceptance ∈ system.accepted ++ [⟨delivery, held.storedAck⟩], ∃ other ∈ system.accepted,
      other.delivery.payload = acceptance.delivery.payload ∧ other.ack = acceptance.ack := by
  obtain ⟨earlier, hearlier, hsame, -, hack, -⟩ := h.accepted
  intro acceptance hmem
  rcases List.mem_append.mp hmem with hold | hnew
  · exact ⟨acceptance, hold, rfl, rfl⟩
  · rw [List.mem_singleton.mp hnew]
    exact ⟨earlier, hearlier, hsame.trans hpayload, hack⟩

/-- What is held and the digest of a delivery name one payload, where payloads do not collide. -/
theorem Sound.payload_eq {payloads : List SnapshotHandoffPayload} (h : system.Sound digests payloads)
    (hfree : CollisionFree digests payloads) {delivery : SnapshotDelivery} {digest : String} {held : HeldHandoff} (hmem : delivery.payload ∈ payloads)
    (hheld : system.table.held delivery.payload.commandId delivery.payload.frameKind = some held)
    (hchecked : delivery.Checked digests digest)
    (hdigest : computeSnapshotHandoffDigest digests held.payload = .ok digest) : held.payload = delivery.payload := by
  obtain ⟨acceptance, haccepted, hpayload, -⟩ := (h.held _ _ _ hheld).accepted
  have hold : held.payload ∈ payloads := hpayload ▸ h.among _ haccepted
  refine hfree _ hold _ hmem ?_
  rw [← computeSnapshotHandoffDigest_eq_ok hdigest, ← computeSnapshotHandoffDigest_eq_ok hchecked.digest]

/-- The payload of a call is among some payloads. -/
def CallAmong (payloads : List SnapshotHandoffPayload) : HandoffCall → Prop
  | .accept delivery => delivery.payload ∈ payloads
  | _ => True

theorem Sound.step {payloads : List SnapshotHandoffPayload} (hfree : CollisionFree digests payloads)
    {call : HandoffCall} (hcall : CallAmong payloads call) (h : system.Sound digests payloads) :
    (system.step digests call).Sound digests payloads := by
  cases call with
  | lookup commandId => exact h
  | withSpawnInputs commandId => exact h
  | consume commandId =>
    refine ⟨h.among, fun other kind held hheld => ?_, h.bounded, h.revisions⟩
    have hold := h.held other kind held (HandoffTable.held_consume hheld)
    exact ⟨hold.command, hold.frame, hold.fdDigest, hold.valuesDigest, hold.accepted⟩
  | accept delivery =>
    have haccepted := HandoffTable.accepted digests system.table delivery
    unfold HandoffSystem.step
    dsimp only
    generalize system.table.accept digests delivery = outcome at haccepted ⊢
    cases haccepted with
    | refused failure =>
      show Sound digests payloads ⟨system.table, system.accepted ++ []⟩
      rw [List.append_nil]
      exact h
    | @repeated digest held hchecked hheld hdigest =>
      show Sound digests payloads ⟨system.table, system.accepted ++ [⟨delivery, held.storedAck⟩]⟩
      have hpayload := h.payload_eq hfree hcall hheld hchecked hdigest
      have hstands := (h.held _ _ _ hheld).stands hpayload
      obtain ⟨earlier, hearlier, -, -, hack, -⟩ := (h.held _ _ _ hheld).accepted
      refine ⟨fun acceptance hmem => ?_, fun other kind held hother => (h.held other kind held hother).append _ _,
        fun acceptance hmem => ?_, fun first hfirst second hsecond hrevision => ?_⟩
      · rcases List.mem_append.mp hmem with hold | hnew
        · exact h.among acceptance hold
        · rw [List.mem_singleton.mp hnew]
          exact hcall
      · rcases List.mem_append.mp hmem with hold | hnew
        · exact h.bounded acceptance hold
        · rw [List.mem_singleton.mp hnew]
          exact hack ▸ h.bounded earlier hearlier
      · obtain ⟨first', hfirst', hpayload', hack'⟩ := hstands first hfirst
        obtain ⟨second', hsecond', hpayload'', hack''⟩ := hstands second hsecond
        rw [← hpayload', ← hpayload'']
        refine h.revisions first' hfirst' second' hsecond' ?_
        rw [hack', hack'']
        exact hrevision
    | @taken digest hcheck hnone =>
      show Sound digests payloads ⟨system.table.filled delivery digest,
        system.accepted ++ [⟨delivery, (system.table.fresh delivery digest).storedAck⟩]⟩
      have hchecked := checked_of_ok hcheck
      refine ⟨fun acceptance hmem => ?_, fun other kind held hother => ?_,
        fun acceptance hmem => ?_, fun first hfirst second hsecond hrevision => ?_⟩
      · rcases List.mem_append.mp hmem with hold | hnew
        · exact h.among acceptance hold
        · rw [List.mem_singleton.mp hnew]
          exact hcall
      · rw [HandoffTable.held_filled] at hother
        by_cases hboth : other = delivery.payload.commandId ∧ kind = delivery.payload.frameKind
        · rw [if_pos hboth] at hother
          cases hother
          obtain ⟨rfl, rfl⟩ := hboth
          obtain ⟨expires, hexpires, hlt⟩ := hchecked.unexpired
          exact ⟨rfl, rfl, hchecked.fdDigest, hchecked.valuesDigest, ⟨delivery, _⟩,
            List.mem_append_right _ (List.mem_singleton_self _), rfl, rfl, rfl, expires, hexpires, hlt⟩
        · rw [if_neg hboth] at hother
          exact (h.held other kind held hother).append _ _
      · rcases List.mem_append.mp hmem with hold | hnew
        · exact Nat.le_succ_of_le (h.bounded acceptance hold)
        · rw [List.mem_singleton.mp hnew]
          exact Nat.le_refl _
      · have hbefore : ∀ acceptance ∈ system.accepted,
            acceptance.ack.journalRevision ≠ system.table.nextJournalRevision + 1 := by
          intro acceptance hold
          have hle := h.bounded acceptance hold
          omega
        rcases List.mem_append.mp hfirst with hold | hnew <;> rcases List.mem_append.mp hsecond with hold' | hnew'
        · exact h.revisions first hold second hold' hrevision
        · rw [List.mem_singleton.mp hnew'] at hrevision
          exact absurd hrevision (hbefore first hold)
        · rw [List.mem_singleton.mp hnew] at hrevision
          exact absurd hrevision.symm (hbefore second hold')
        · rw [List.mem_singleton.mp hnew, List.mem_singleton.mp hnew']

/-- A call that meets the condition names no second handoff. -/
theorem OneHandoff.step {payloads : List SnapshotHandoffPayload} (hfree : CollisionFree digests payloads)
    {call : HandoffCall} (hcall : CallAmong payloads call) (hkeeps : system.KeepsId digests call)
    (hsound : system.Sound digests payloads) (h : system.OneHandoff) : (system.step digests call).OneHandoff := by
  cases call with
  | lookup commandId => exact h
  | withSpawnInputs commandId => exact h
  | consume commandId => exact h
  | accept delivery =>
    have haccepted := HandoffTable.accepted digests system.table delivery
    unfold HandoffSystem.step
    dsimp only
    generalize system.table.accept digests delivery = outcome at haccepted ⊢
    cases haccepted with
    | refused failure =>
      show OneHandoff ⟨system.table, system.accepted ++ []⟩
      rw [List.append_nil]
      exact h
    | @repeated digest held hchecked hheld hdigest =>
      have hpayload := hsound.payload_eq hfree hcall hheld hchecked hdigest
      have hstands := (hsound.held _ _ _ hheld).stands hpayload
      intro first hfirst second hsecond hcommand hkind
      obtain ⟨first', hfirst', hpayload', hack'⟩ := hstands first hfirst
      obtain ⟨second', hsecond', hpayload'', hack''⟩ := hstands second hsecond
      rw [← hpayload', ← hpayload''] at hcommand hkind ⊢
      rw [← hack', ← hack'']
      exact h first' hfirst' second' hsecond' hcommand hkind
    | @taken digest hcheck hnone =>
      have hnever : ∀ acceptance ∈ system.accepted,
          acceptance.delivery.payload.commandId = delivery.payload.commandId →
            acceptance.delivery.payload.frameKind ≠ delivery.payload.frameKind := by
        rcases hkeeps (by rw [hcheck]; rfl) with hsome | hnever
        · rw [hnone] at hsome
          cases hsome
        · exact hnever
      intro first hfirst second hsecond hcommand hkind
      rcases List.mem_append.mp hfirst with hold | hnew <;> rcases List.mem_append.mp hsecond with hold' | hnew'
      · exact h first hold second hold' hcommand hkind
      · rw [List.mem_singleton.mp hnew'] at hcommand hkind
        exact absurd hkind (hnever first hold hcommand)
      · rw [List.mem_singleton.mp hnew] at hcommand hkind
        exact absurd hkind.symm (hnever second hold' hcommand.symm)
      · rw [List.mem_singleton.mp hnew, List.mem_singleton.mp hnew']
        exact ⟨rfl, rfl⟩

theorem callAmong_deliveredPayloads {calls : List HandoffCall} {call : HandoffCall} (h : call ∈ calls) :
    CallAmong (deliveredPayloads calls) call := by
  cases call with
  | accept delivery => exact List.mem_filterMap.mpr ⟨_, h, rfl⟩
  | lookup commandId => trivial
  | withSpawnInputs commandId => trivial
  | consume commandId => trivial

end HandoffSystem

open HandoffSystem

/-- In every run whose payloads do not collide, what is held was accepted with its digests and before it expired, a
revision names one handoff, and a refused delivery changes no answer. Where no delivery that passes the checks is for
a handoff accepted and consumed before, a command and a kind name one handoff. -/
theorem handoff_id_names_one (digests : SnapshotDigests) (calls : List HandoffCall)
    (hfree : CollisionFree digests (deliveredPayloads calls)) :
    (Along (HandoffSystem.step digests) (HandoffSystem.KeepsId digests) .initial calls →
      (run (HandoffSystem.step digests) .initial calls).OneHandoff) ∧
    (∀ commandId kind held, (run (HandoffSystem.step digests) .initial calls).table.held commandId kind = some held →
      (run (HandoffSystem.step digests) .initial calls).HeldAsAccepted digests commandId kind held) ∧
    (run (HandoffSystem.step digests) .initial calls).OneRevision ∧
    ∀ delivery failure,
      ((run (HandoffSystem.step digests) .initial calls).table.accept digests delivery).2 = .error failure →
        ((run (HandoffSystem.step digests) .initial calls).table.accept digests delivery).1.SameAnswers
          (run (HandoffSystem.step digests) .initial calls).table := by
  have hamong : Along (HandoffSystem.step digests) (fun _ call => CallAmong (deliveredPayloads calls) call) .initial
      calls := along_of_forall fun call hcall => callAmong_deliveredPayloads hcall
  have hsound : (run (HandoffSystem.step digests) .initial calls).Sound digests (deliveredPayloads calls) :=
    hamong.invariant (fun _ _ hcall h => h.step hfree hcall) (sound_initial _)
  refine ⟨fun hkeeps => ?_, hsound.held, hsound.revisions, fun delivery failure hrefused commandId => ?_⟩
  · exact ((hamong.and hkeeps).invariant
      (P := fun system : HandoffSystem => system.Sound digests (deliveredPayloads calls) ∧ system.OneHandoff)
      (fun _ _ hcall h => ⟨h.1.step hfree hcall.1, h.2.step hfree hcall.1 hcall.2 h.1⟩)
      ⟨sound_initial _, fun _ hmem => nomatch hmem⟩).2
  · rw [HandoffTable.accept_of_error hrefused]
    exact ⟨rfl, fun _ _ => rfl, rfl⟩

namespace Vectors

def handoffCommandId : String := "018f1e2c-3d4b-7a5e-9f01-23456789abcd"

/-- The snapshots of two secrets, with their digests and those of their handoffs. -/
def snapshotBytes : List UInt8 := [123, 125]
def snapshotDigest : String := "2c13995748a2205a941e90cb1b9785258089e470a6a12db86a4521288cf990c9"
def snapshotHandoffDigest : String := "720d66197e65216993e16e0ef277e671f5024c252de84543bd41ad4b7b4eadc8"
def otherBytes : List UInt8 := [123, 34, 111, 116, 104, 101, 114, 34, 58, 116, 114, 117, 101, 125]
def otherDigest : String := "ad8a01eac5fe6322e84341072276dcfa000b39fc2333ccd0b8d324e5850f4a41"
def otherHandoffDigest : String := "2e5bb5b99622efe3ae896e0fe255fba06b830e0f3cce513f3a6d1682a6a5ac42"

/-- The digests of the two snapshots by table. -/
def snapshotDigests : SnapshotDigests where
  ofBytes _ fdBytes :=
    if fdBytes = snapshotBytes then snapshotDigest else if fdBytes = otherBytes then otherDigest else hex 64 '0'
  ofJcs _ value := match value with
    | .object members =>
      if (Json.field members "values_digest").asStr = some snapshotDigest then snapshotHandoffDigest
      else if (Json.field members "values_digest").asStr = some otherDigest then otherHandoffDigest
      else hex 64 '0'
    | _ => hex 64 '0'

/-- A secret handed off in 2027, with its window open until 2100. -/
def secretDelivery (fdBytes : List UInt8) (digest : String) : SnapshotDelivery where
  payload := .secret
    { schemaVersion := 1
      kind := "secret"
      commandId := handoffCommandId
      commandDigest := hex 64 '1'
      reference := hex 64 '5'
      applicationId := "vector"
      versionId := hex 64 'a' ++ "-1"
      preparationGeneration := 1
      secretRevision := 3
      valuesDigest := digest
      fdDigest := digest
      expiresAt := "2100-01-01T00:00:00Z" }
  fd := 7
  fdBytes := fdBytes
  descriptorRegularFile := true
  descriptorReadOnly := true
  nowEpochMillis := 1800000000000

def firstDelivery : SnapshotDelivery := secretDelivery snapshotBytes snapshotDigest
def otherDelivery : SnapshotDelivery := secretDelivery otherBytes otherDigest

end Vectors

open Vectors

/-- A handoff delivered twice, and then contradicted. -/
theorem handoff_id_names_one_conflict :
    (run (HandoffSystem.step snapshotDigests) .initial
      [.accept firstDelivery, .accept firstDelivery, .accept otherDelivery]).OneHandoff :=
  (handoff_id_names_one snapshotDigests _ (by unfold CollisionFree; decide +kernel)).1 (by decide +kernel)

/-- After a consume, a command is answered anew, and takes another body. -/
theorem handoff_id_forgotten :
    ¬ (run (HandoffSystem.step snapshotDigests) .initial
      [.accept firstDelivery, .consume handoffCommandId, .accept firstDelivery]).OneHandoff ∧
    ¬ (run (HandoffSystem.step snapshotDigests) .initial
      [.accept firstDelivery, .consume handoffCommandId, .accept otherDelivery]).OneHandoff := by
  unfold HandoffSystem.OneHandoff
  exact ⟨by decide +kernel, by decide +kernel⟩

end Iweb
