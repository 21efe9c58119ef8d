import Iweb.HostServices.Proofs.LedgerProofs

/-!
# Reservations are settled once

A reservation leaves the state `reserved` at most once, for `committed` or for `released`, and never comes
back. The usage revision counts the reservations that were committed. A record that a caller brings to
`finalize` is taken only where it is the single row of its operation, field by field.
-/

namespace Iweb

open CrashRefinement

variable {D : Type} [DecidableEq D]

/-- What `finalize` does to a ledger with any record and any measurement. -/
structure QuotaLedger.FinalizeBinds (proofDigest : QuotaReservationProofPayloadV2 → D) (ledger : QuotaLedger D) :
    Prop where
  /-- The record is the only row of its operation, with its proof; where the row was committed before, nothing
  changes, and where it was reserved, it is committed and the usage revision grows by one. -/
  accepted : ∀ r measured ledger', ledger.finalize proofDigest r measured = .ok ledger' →
    ∃ stored, ledger.reservations.filter (·.operationId = r.operationId) = [stored] ∧
      stored.toQuotaReservationProofPayloadV2 = r.toQuotaReservationProofPayloadV2 ∧
      stored.reservationProofDigest = r.reservationProofDigest ∧
      r.reservationProofDigest = proofDigest r.toQuotaReservationProofPayloadV2 ∧
      (stored.state = .committed ∧ ledger' = ledger ∨
        stored.state = .reserved ∧ ledger'.usage.usageRevision = ledger.usage.usageRevision + 1 ∧
          ledger'.reservations = QuotaLedger.setState r.reservationId .committed ledger.reservations)
  /-- A refused call changes nothing. -/
  refused : ∀ envelope now r measured error, ledger.finalize proofDigest r measured = .error error →
    (LedgerCall.finalize r measured).perform proofDigest envelope now ledger = ledger

/-- The reservation whose finalize changed the usage. -/
def LedgerStep.settles (proofDigest : QuotaReservationProofPayloadV2 → D) (envelope : Nat) (m : LedgerMoment D)
    (s : LedgerStep D) : Option String :=
  match s.call with
  | .finalize r _ => if (m.step proofDigest envelope s).ledger.usage = m.ledger.usage then none else some r.reservationId
  | _ => none

/-- The reservations whose finalize changed the usage, in the order of a history. -/
def settlements (proofDigest : QuotaReservationProofPayloadV2 → D) (envelope : Nat) :
    LedgerMoment D → List (LedgerStep D) → List String
  | _, [] => []
  | m, s :: steps =>
    (s.settles proofDigest envelope m).toList ++ settlements proofDigest envelope (m.step proofDigest envelope s) steps

/-- What a history leaves of the reservations: the usage was changed once for each settled one, a finalize is
bound to its row, and a terminal state stays. -/
structure SettledOnce (proofDigest : QuotaReservationProofPayloadV2 → D) (envelope : Nat) (start : LedgerMoment D)
    (history next : List (LedgerStep D)) : Prop where
  once : (settlements proofDigest envelope start history).Nodup
  revision : (run (LedgerMoment.step proofDigest envelope) start history).ledger.usage.usageRevision =
    start.ledger.usage.usageRevision + (settlements proofDigest envelope start history).length
  binds : (run (LedgerMoment.step proofDigest envelope) start history).ledger.FinalizeBinds proofDigest
  /-- A committed reservation is not released, and a later finalize of it changes nothing. -/
  committed : ∀ id, (run (LedgerMoment.step proofDigest envelope) start history).ledger.stateOf id = some .committed →
    (run (LedgerMoment.step proofDigest envelope) start (history ++ next)).ledger.stateOf id = some .committed ∧
      ∀ r measured now, r.reservationId = id → (LedgerCall.finalize r measured).perform proofDigest envelope now
        (run (LedgerMoment.step proofDigest envelope) start (history ++ next)).ledger =
          (run (LedgerMoment.step proofDigest envelope) start (history ++ next)).ledger
  /-- A released reservation is not committed, and every later finalize of it fails. -/
  released : ∀ id, (run (LedgerMoment.step proofDigest envelope) start history).ledger.stateOf id = some .released →
    (run (LedgerMoment.step proofDigest envelope) start (history ++ next)).ledger.stateOf id = some .released ∧
      ∀ r measured, r.reservationId = id →
        (run (LedgerMoment.step proofDigest envelope) start (history ++ next)).ledger.finalize proofDigest r measured =
          .error .unavailable

namespace QuotaLedger

variable {proofDigest : QuotaReservationProofPayloadV2 → D} {ledger ledger' : QuotaLedger D}
  {r : ReservationRecordV2 D} {measured : Nat}

/-! ## One call -/

theorem validateReservationRecord_binds (h : ledger.validateReservationRecord proofDigest r = .ok ()) :
    ∃ stored, ledger.reservations.filter (·.operationId = r.operationId) = [stored] ∧
      stored.toQuotaReservationProofPayloadV2 = r.toQuotaReservationProofPayloadV2 ∧
      stored.reservationProofDigest = r.reservationProofDigest ∧
      r.reservationProofDigest = proofDigest r.toQuotaReservationProofPayloadV2 := by
  unfold validateReservationRecord at h
  split at h
  · rename_i stored hrows
    rw [QuotaError.unless_eq_ok] at h
    simp only [Bool.and_eq_true, decide_eq_true_eq] at h
    exact ⟨stored, hrows, h.1.1.2, h.1.2, h.1.1.1.2⟩
  · cases h

omit [DecidableEq D] in
/-- The state of a row of the table. -/
theorem stateOf_of_mem (hids : (ledger.reservations.map (·.reservationId)).Nodup) {stored : ReservationRecordV2 D}
    (hmem : stored ∈ ledger.reservations) : ledger.stateOf stored.reservationId = some stored.state := by
  unfold stateOf
  rw [KeyedRows.find?_key hids hmem]
  rfl

omit [DecidableEq D] in
/-- The total after a measurement counts one more revision. -/
theorem sealed_revision {usage usage' : UsageSnapshot} {backend : Backend}
    (h : sealed usage backend measured = .ok usage') : usage'.usageRevision = usage.usageRevision + 1 := by
  unfold sealed at h
  cases backend <;> dsimp only at h <;> split at h <;> cases h <;> rfl

/-- The ways in which a finalize ends. -/
inductive Finalized (ledger : QuotaLedger D) (r : ReservationRecordV2 D) : QuotaLedger D → Prop
  | again (hstate : ledger.stateOf r.reservationId = some .committed) : Finalized ledger r ledger
  | first (usage : UsageSnapshot) (hstate : ledger.stateOf r.reservationId = some .reserved)
      (hrevision : usage.usageRevision = ledger.usage.usageRevision + 1) :
      Finalized ledger r
        { ledger with usage, reservations := setState r.reservationId .committed ledger.reservations }

theorem finalized (h : ledger.finalize proofDigest r measured = .ok ledger') :
    ledger.validateReservationRecord proofDigest r = .ok () ∧ Finalized ledger r ledger' := by
  unfold finalize at h
  simp only [bind_eq_ok] at h
  obtain ⟨_, hvalid, h⟩ := h
  refine ⟨hvalid, ?_⟩
  split at h
  · rename_i hstate
    cases h
    exact .again hstate
  · rename_i hstate
    simp only [bind_eq_ok] at h
    obtain ⟨_, -, usage, husage, h⟩ := h
    cases h
    exact .first usage hstate (sealed_revision husage)
  · cases h

theorem finalize_of_released (h : ledger.stateOf r.reservationId = some .released) :
    ledger.finalize proofDigest r measured = .error .unavailable := by
  unfold finalize
  rw [h]
  rcases hvalid : ledger.validateReservationRecord proofDigest r with error | u
  · cases error with
    | unavailable => rfl
    | exceeded =>
      unfold validateReservationRecord at hvalid
      split at hvalid
      · unfold QuotaError.unless at hvalid
        split at hvalid <;> cases hvalid
      · cases hvalid
  · rfl

theorem finalizeBinds (hids : (ledger.reservations.map (·.reservationId)).Nodup) :
    ledger.FinalizeBinds proofDigest where
  accepted r measured ledger' h := by
    obtain ⟨hvalid, hfinalized⟩ := finalized h
    obtain ⟨stored, hrows, hfields, hdigest, hproof⟩ := validateReservationRecord_binds hvalid
    refine ⟨stored, hrows, hfields, hdigest, hproof, ?_⟩
    have hmem : stored ∈ ledger.reservations := (List.mem_filter.mp (hrows ▸ List.mem_singleton_self stored)).1
    have hid : stored.reservationId = r.reservationId := by rw [hfields]
    have hstored := stateOf_of_mem hids hmem
    rw [hid] at hstored
    cases hfinalized with
    | again hstate =>
      rw [hstate] at hstored
      exact .inl ⟨(Option.some.inj hstored).symm, rfl⟩
    | first usage hstate hrevision =>
      rw [hstate] at hstored
      exact .inr ⟨(Option.some.inj hstored).symm, hrevision, rfl⟩
  refused envelope now r measured error h := by
    unfold LedgerCall.perform
    dsimp only
    rw [h]

/-! ## What a call leaves of the states -/

omit [DecidableEq D] in
theorem stateOf_setState (id id' : String) (state : ReservationState) (usage : UsageSnapshot) :
    ({ ledger with usage, reservations := setState id state ledger.reservations } : QuotaLedger D).stateOf id' =
      (ledger.stateOf id').map fun old => if id' = id then state else old := by
  unfold stateOf setState
  rw [KeyedRows.find?_update (f := fun r : ReservationRecordV2 D => { r with state }) fun _ => rfl,
    Option.map_map, Option.map_map]
  congr 1
  funext row
  show (if id' = id then { row with state } else row).state = if id' = id then state else row.state
  split <;> rfl

omit [DecidableEq D] in
theorem stateOf_release (id id' : String) : (ledger.release id).stateOf id' =
    (ledger.stateOf id').map fun old => if id' = id ∧ old = .reserved then .released else old := by
  have hkey : ∀ r : ReservationRecordV2 D,
      (if r.state = .reserved then { r with state := .released } else r).reservationId = r.reservationId := by
    intro r
    split <;> rfl
  unfold stateOf release
  rw [KeyedRows.find?_update hkey, Option.map_map, Option.map_map]
  congr 1
  funext row
  show (if id' = id then if row.state = .reserved then { row with state := .released } else row else row).state =
    if id' = id ∧ row.state = .reserved then .released else row.state
  by_cases hid : id' = id
  · by_cases hstate : row.state = .reserved
    · rw [if_pos hid, if_pos hstate, if_pos ⟨hid, hstate⟩]
    · rw [if_pos hid, if_neg hstate, if_neg fun h => hstate h.2]
  · rw [if_neg hid, if_neg fun h => hid h.1]

omit [DecidableEq D] in
theorem stateOf_append {record : ReservationRecordV2 D} {id : String} {state : ReservationState}
    (h : ledger.stateOf id = some state) :
    ({ ledger with reservations := ledger.reservations ++ [record] } : QuotaLedger D).stateOf id = some state := by
  unfold stateOf at h ⊢
  obtain ⟨row, hrow, hstate⟩ := Option.map_eq_some_iff.mp h
  rw [List.find?_append, hrow, Option.some_or, Option.map_some, hstate]

omit [DecidableEq D] in
theorem ids_setState {id : String} {state : ReservationState} {rows : List (ReservationRecordV2 D)}
    (h : (rows.map (·.reservationId)).Nodup) : ((setState id state rows).map (·.reservationId)).Nodup := by
  unfold setState
  have hkey : ∀ row : ReservationRecordV2 D, { row with state }.reservationId = row.reservationId := fun _ => rfl
  rw [KeyedRows.map_key_update hkey]
  exact h

omit [DecidableEq D] in
theorem ids_release (id : String) (h : (ledger.reservations.map (·.reservationId)).Nodup) :
    ((ledger.release id).reservations.map (·.reservationId)).Nodup := by
  have hkey : ∀ r : ReservationRecordV2 D,
      (if r.state = .reserved then { r with state := .released } else r).reservationId = r.reservationId := by
    intro r
    split <;> rfl
  unfold release
  rw [KeyedRows.map_key_update hkey]
  exact h

/-- How a call moves a ledger on, when it settles the given reservation. -/
structure Progress (ledger ledger' : QuotaLedger D) (settled : Option String) : Prop where
  ids : (ledger'.reservations.map (·.reservationId)).Nodup
  terminal : ∀ id state, state ≠ .reserved → ledger.stateOf id = some state → ledger'.stateOf id = some state
  revision : ledger'.usage.usageRevision = ledger.usage.usageRevision + settled.toList.length
  settles : ∀ id ∈ settled, ledger.stateOf id = some .reserved ∧ ledger'.stateOf id = some .committed

omit [DecidableEq D] in
theorem Progress.refl (hids : (ledger.reservations.map (·.reservationId)).Nodup) : Progress ledger ledger none :=
  ⟨hids, fun _ _ _ h => h, rfl, fun _ h => nomatch h⟩

omit [DecidableEq D] in
theorem Progress.append {record : ReservationRecordV2 D} (hids : (ledger.reservations.map (·.reservationId)).Nodup)
    (hfresh : record.reservationId ∉ ledger.reservations.map (·.reservationId)) :
    Progress ledger { ledger with reservations := ledger.reservations ++ [record] } none where
  ids := by
    rw [List.map_append, List.nodup_append]
    refine ⟨hids, List.nodup_singleton _, ?_⟩
    rintro id hmem _ hnew rfl
    rw [List.map_singleton, List.mem_singleton] at hnew
    exact hfresh (hnew ▸ hmem)
  terminal _ _ _ h := stateOf_append h
  revision := rfl
  settles _ h := nomatch h

omit [DecidableEq D] in
theorem Progress.release (id : String) (hids : (ledger.reservations.map (·.reservationId)).Nodup) :
    Progress ledger (ledger.release id) none where
  ids := ids_release id hids
  terminal id' state hstate h := by
    rw [stateOf_release, h, Option.map_some, if_neg fun hreserved => hstate hreserved.2]
  revision := rfl
  settles _ h := nomatch h

omit [DecidableEq D] in
theorem Progress.settle {usage : UsageSnapshot} (hids : (ledger.reservations.map (·.reservationId)).Nodup)
    (hstate : ledger.stateOf r.reservationId = some .reserved)
    (hrevision : usage.usageRevision = ledger.usage.usageRevision + 1) :
    Progress ledger { ledger with usage, reservations := setState r.reservationId .committed ledger.reservations }
      (some r.reservationId) where
  ids := ids_setState hids
  terminal id state hterminal h := by
    have hne : id ≠ r.reservationId := by
      rintro rfl
      rw [hstate] at h
      cases h
      exact hterminal rfl
    rw [stateOf_setState, h, Option.map_some, if_neg hne]
  revision := hrevision
  settles id hid := by
    cases hid
    refine ⟨hstate, ?_⟩
    rw [stateOf_setState, hstate, Option.map_some, if_pos rfl]

end QuotaLedger

/-! ## Histories -/

variable {proofDigest : QuotaReservationProofPayloadV2 → D} {envelope : Nat} {m : LedgerMoment D}

/-- Every step moves the ledger on and settles what it says. -/
theorem LedgerStep.progress {f : QuotaReservationProofPayloadV2 → D} {e : Nat} (s : LedgerStep D) (hids : (m.ledger.reservations.map (·.reservationId)).Nodup) :
    QuotaLedger.Progress m.ledger (m.step f e s).ledger (s.settles f e m) := by
  obtain ⟨now, call⟩ := s
  cases call with
  | reserve reservationId backend operationId delta cap ttl =>
    unfold LedgerStep.settles LedgerMoment.step LedgerCall.perform
    dsimp only
    split
    · rename_i record ledger' hreserve
      obtain ⟨_, -, -, hid, -, -, -, -, hfresh, rfl⟩ := QuotaLedger.reserve_eq_ok hreserve
      exact .append hids (hid ▸ hfresh)
    · exact .refl hids
  | reserveRemaining reservationId backend operationId ttl =>
    unfold LedgerStep.settles LedgerMoment.step LedgerCall.perform
    dsimp only
    split
    · rename_i record ledger' hremaining
      obtain ⟨delta, hreserve⟩ := QuotaLedger.reserveRemaining_eq_ok hremaining
      obtain ⟨_, -, -, hid, -, -, -, -, hfresh, rfl⟩ := QuotaLedger.reserve_eq_ok hreserve
      exact .append hids (hid ▸ hfresh)
    · exact .refl hids
  | release reservationId => exact .release reservationId hids
  | finalize r measured =>
    have hsettles : LedgerStep.settles f e m ⟨now, .finalize r measured⟩ =
        if (m.step f e ⟨now, .finalize r measured⟩).ledger.usage = m.ledger.usage then none
        else some r.reservationId := rfl
    rcases hfinalize : m.ledger.finalize f r measured with error | ledger'
    · have hledger : (m.step f e ⟨now, .finalize r measured⟩).ledger = m.ledger := by
        unfold LedgerMoment.step LedgerCall.perform
        dsimp only
        rw [hfinalize]
      rw [hsettles, hledger, if_pos rfl]
      exact .refl hids
    · have hledger : (m.step f e ⟨now, .finalize r measured⟩).ledger = ledger' := by
        unfold LedgerMoment.step LedgerCall.perform
        dsimp only
        rw [hfinalize]
      cases (QuotaLedger.finalized hfinalize).2 with
      | again hstate =>
        rw [hsettles, hledger, if_pos rfl]
        exact .refl hids
      | first usage hstate hrevision =>
        have hchanged : usage ≠ m.ledger.usage := by
          rintro rfl
          omega
        rw [hsettles, hledger, if_neg hchanged]
        exact .settle hids hstate hrevision

theorem ids_run {f : QuotaReservationProofPayloadV2 → D} {e : Nat} (steps : List (LedgerStep D)) (hids : (m.ledger.reservations.map (·.reservationId)).Nodup) :
    ((run (LedgerMoment.step f e) m steps).ledger.reservations.map (·.reservationId)).Nodup :=
  run_invariant (P := fun m : LedgerMoment D => (m.ledger.reservations.map (·.reservationId)).Nodup)
    (fun _ s hids => (s.progress hids).ids) steps hids

/-- A terminal state stays in every history. -/
theorem terminal_run {f : QuotaReservationProofPayloadV2 → D} {e : Nat} {id : String} {state : ReservationState} (hterminal : state ≠ .reserved)
    (steps : List (LedgerStep D)) (hids : (m.ledger.reservations.map (·.reservationId)).Nodup)
    (h : m.ledger.stateOf id = some state) :
    (run (LedgerMoment.step f e) m steps).ledger.stateOf id = some state := by
  induction steps generalizing m with
  | nil => exact h
  | cons s steps ih =>
    have hprogress := LedgerStep.progress (f := f) (e := e) s hids
    exact ih hprogress.ids (hprogress.terminal id state hterminal h)

/-- The revision counts the settlements of a history, and no reservation is settled twice. -/
theorem settlements_run {f : QuotaReservationProofPayloadV2 → D} {e : Nat} (steps : List (LedgerStep D)) (hids : (m.ledger.reservations.map (·.reservationId)).Nodup) :
    (settlements f e m steps).Nodup ∧
      (∀ id ∈ settlements f e m steps, m.ledger.stateOf id ≠ some .committed) ∧
      (run (LedgerMoment.step f e) m steps).ledger.usage.usageRevision =
        m.ledger.usage.usageRevision + (settlements f e m steps).length := by
  induction steps generalizing m with
  | nil => exact ⟨List.nodup_nil, fun _ h => (List.not_mem_nil h).elim, rfl⟩
  | cons s steps ih =>
    have hprogress := LedgerStep.progress (f := f) (e := e) s hids
    obtain ⟨hnodup, hopen, hrevision⟩ := ih hprogress.ids
    refine ⟨?_, ?_, ?_⟩
    · -- what the step settled is committed after it, and what follows settles nothing committed
      refine List.nodup_append.mpr ⟨?_, hnodup, ?_⟩
      · cases s.settles f e m with
        | none => exact List.nodup_nil
        | some id => exact List.nodup_singleton id
      · rintro id hid _ hlater rfl
        exact hopen id hlater (hprogress.settles id (Option.mem_toList.mp hid)).2
    · intro id hid hcommitted
      rcases List.mem_append.mp hid with hid | hid
      · rw [(hprogress.settles id (Option.mem_toList.mp hid)).1] at hcommitted
        cases hcommitted
      · exact hopen id hid (hprogress.terminal id .committed (by decide) hcommitted)
    · show (run (LedgerMoment.step f e) (m.step f e s)
        steps).ledger.usage.usageRevision = _
      have hsettlements : settlements f e m (s :: steps) =
          (s.settles f e m).toList ++
            settlements f e (m.step f e s) steps := rfl
      rw [hrevision, hprogress.revision, hsettlements, List.length_append]
      omega

/-- In every history of a ledger a reservation is settled at most once, a finalize is bound to the single row of
its operation, and neither a committed nor a released reservation changes again. -/
theorem reservations_settled_once (proofDigest : QuotaReservationProofPayloadV2 → D) (applicationId : String)
    (envelope start : Nat) (history next : List (LedgerStep D)) :
    SettledOnce proofDigest envelope ⟨start, QuotaLedger.new applicationId⟩ history next := by
  have hnew : ((QuotaLedger.new applicationId : QuotaLedger D).reservations.map (·.reservationId)).Nodup :=
    List.nodup_nil
  have hids := ids_run (f := proofDigest) (e := envelope) (m := ⟨start, QuotaLedger.new applicationId⟩)
    history hnew
  obtain ⟨honce, -, hrevision⟩ := settlements_run (f := proofDigest) (e := envelope)
    (m := ⟨start, QuotaLedger.new applicationId⟩) history hnew
  refine ⟨honce, hrevision, QuotaLedger.finalizeBinds hids, fun id hcommitted => ?_, fun id hreleased => ?_⟩
  · have hstays := terminal_run (f := proofDigest) (e := envelope) (by decide) next hids hcommitted
    rw [run_append]
    refine ⟨hstays, ?_⟩
    rintro r measured now rfl
    unfold LedgerCall.perform
    dsimp only
    split
    · rename_i ledger' hfinalize
      cases (QuotaLedger.finalized hfinalize).2 with
      | again hstate => rfl
      | first usage hstate hrevision' =>
        rw [hstays] at hstate
        cases hstate
    · rfl
  · have hstays := terminal_run (f := proofDigest) (e := envelope) (by decide) next hids hreleased
    rw [run_append]
    refine ⟨hstays, ?_⟩
    rintro r measured rfl
    exact QuotaLedger.finalize_of_released hstays

end Iweb
