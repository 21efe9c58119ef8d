import Iweb.HostServices.Ledger
import Mathlib.Algebra.Order.BigOperators.Group.List
import Mathlib.Algebra.Order.Ring.Nat

/-!
# The envelope of the quota ledger

What is committed and what is still promised to unexpired reservations stay within the envelope as long as
every reservation that is still open is finalized before it expires. A reservation that has expired is no
longer charged, so its bytes can be promised again; a late finalize then commits them a second time.
-/

namespace Iweb

open CrashRefinement

variable {D : Type}

namespace QuotaLedger

/-- The bytes promised to the reservations that are open and not expired. -/
def unexpiredReservedBytes (now : Nat) (rows : List (ReservationRecordV2 D)) : Nat :=
  ((rows.filter fun r => r.state = .reserved && decide (now < r.expiresAt)).map (·.reservedDeltaBytes)).sum

/-- The bytes a row promises at a moment. -/
def chargeAt (now : Nat) (r : ReservationRecordV2 D) : Nat :=
  if r.state = .reserved ∧ now < r.expiresAt then r.reservedDeltaBytes else 0

theorem unexpiredReservedBytes_eq_sum (now : Nat) (rows : List (ReservationRecordV2 D)) :
    unexpiredReservedBytes now rows = (rows.map (chargeAt now)).sum := by
  induction rows with
  | nil => rfl
  | cons r rows ih =>
    rw [List.map_cons, List.sum_cons, ← ih]
    unfold unexpiredReservedBytes chargeAt
    by_cases h : r.state = .reserved ∧ now < r.expiresAt
    · rw [List.filter_cons_of_pos (by simpa using h), if_pos h, List.map_cons, List.sum_cons]
    · rw [List.filter_cons_of_neg (by simpa using h), if_neg h, Nat.zero_add]

/-- The promised bytes only shrink as time passes. -/
theorem unexpiredReservedBytes_anti {now later : Nat} (h : now ≤ later) (rows : List (ReservationRecordV2 D)) :
    unexpiredReservedBytes later rows ≤ unexpiredReservedBytes now rows := by
  rw [unexpiredReservedBytes_eq_sum, unexpiredReservedBytes_eq_sum]
  apply List.sum_le_sum
  intro r _
  unfold chargeAt
  by_cases hr : r.state = .reserved ∧ later < r.expiresAt
  · rw [if_pos hr, if_pos ⟨hr.1, by omega⟩]
  · rw [if_neg hr]
    exact Nat.zero_le _

theorem asI64_of_lt {n : Nat} (h : n < 2 ^ 63) : asI64 n = n := if_pos h

/-- A number of the `u53` range comes back from a column as it was written. -/
theorem throughColumn_of_le {n : Nat} (h : n ≤ wasmU53Max) : throughColumn n = n := by
  unfold throughColumn
  rw [asI64_of_lt (by unfold wasmU53Max at h; omega)]
  exact Int.toNat_natCast n

theorem checkedAddU64_eq_some {a b c : Nat} : checkedAddU64 a b = some c ↔ a + b = c ∧ c < 2 ^ 64 := by
  unfold checkedAddU64
  constructor
  · intro h
    split at h
    · cases h
      exact ⟨rfl, ‹_›⟩
    · cases h
  · rintro ⟨rfl, h⟩
    exact if_pos h

theorem projected_eq_ok {committed outstanding delta bound value : Nat}
    (h : projected committed outstanding delta bound = .ok value) :
    value = committed + outstanding + delta ∧ value ≤ bound := by
  unfold projected at h
  cases hsum : (checkedAddU64 committed outstanding).bind (checkedAddU64 · delta) with
  | none => rw [hsum] at h; cases h
  | some v =>
    rw [hsum] at h
    obtain ⟨sum, h1, h2⟩ := Option.bind_eq_some_iff.mp hsum
    obtain ⟨rfl, _⟩ := checkedAddU64_eq_some.mp h1
    obtain ⟨rfl, _⟩ := checkedAddU64_eq_some.mp h2
    dsimp only at h
    split at h
    · cases h
    · cases h
      exact ⟨rfl, by omega⟩

/-- The columns of every row are in the `u53` range. -/
def RowsCanonical (ledger : QuotaLedger D) : Prop := ∀ r ∈ ledger.reservations, r.expiresAt ≤ wasmU53Max

/-- At a clock value that fits the column, the query sums exactly the unexpired reservations. -/
theorem outstandingBytes_eq_ok {ledger : QuotaLedger D} (hrows : RowsCanonical ledger) {now total : Nat}
    (hnow : now ≤ wasmU53Max) (h : ledger.outstandingBytes now (fun _ => true) = .ok total) :
    total = unexpiredReservedBytes now ledger.reservations := by
  unfold outstandingBytes sumColumn at h
  split at h
  · cases h
    unfold unexpiredReservedBytes
    rw [List.filter_congr]
    intro r hr
    have hexpires := hrows r hr
    unfold wasmU53Max at hnow hexpires
    simp only [isOutstanding, asI64_of_lt (show now < 2 ^ 63 by omega),
      asI64_of_lt (show r.expiresAt < 2 ^ 63 by omega), Int.ofNat_lt, Bool.and_true]
  · cases h

variable {proofDigest : QuotaReservationProofPayloadV2 → D}

/-- Everything an accepted reservation says about the ledger before and after it. -/
theorem reserve_eq_ok {ledger ledger' : QuotaLedger D} {record : ReservationRecordV2 D}
    {reservationId backend operationId : String} {delta envelope cap now ttl : Nat}
    (h : ledger.reserve proofDigest reservationId backend operationId delta envelope cap now ttl =
      .ok (record, ledger')) :
    ∃ outstanding, ledger.outstandingBytes now (fun _ => true) = .ok outstanding ∧
      ledger.usage.committedBytes + outstanding + delta ≤ min envelope wasmU53Max ∧
      record.reservationId = reservationId ∧ record.reservedDeltaBytes = delta ∧ record.state = .reserved ∧
      record.expiresAt = now + ttl ∧ now + ttl ≤ wasmU53Max ∧
      reservationId ∉ ledger.reservations.map (·.reservationId) ∧
      ledger' = { ledger with reservations := ledger.reservations ++ [record] } := by
  unfold reserve at h
  simp only [bind_eq_ok, QuotaError.unless_eq_ok] at h
  obtain ⟨b, -, -, -, -, -, outstanding, hout, _, -, total, htotal, _, -, h⟩ := h
  obtain ⟨htotal, hle⟩ := projected_eq_ok htotal
  cases hexp : checkedAddU64 now ttl with
  | none => rw [hexp] at h; cases h
  | some expiresAt =>
    rw [hexp] at h
    simp only [bind_eq_ok, QuotaError.unless_eq_ok] at h
    obtain ⟨-, hcanonical, -, hfresh, h⟩ := h
    obtain ⟨rfl, -⟩ := checkedAddU64_eq_some.mp hexp
    cases h
    simp only [QuotaReservationProofPayloadV2.isCanonical, List.all_cons, List.all_nil, Bool.and_true,
      Bool.and_eq_true, decide_eq_true_eq] at hcanonical
    refine ⟨outstanding, hout, ?_, rfl, rfl, rfl, rfl, hcanonical.2.2.2.2.2.2, ?_, rfl⟩
    · have := hcanonical.2.2.2.2.2.1
      omega
    · intro hmem
      obtain ⟨r, hr, hid⟩ := List.mem_map.mp hmem
      have := List.all_eq_true.mp hfresh r hr
      exact absurd hid (by simpa using this)

/-- `reserve_remaining` is a reservation of some number of bytes. -/
theorem reserveRemaining_eq_ok {ledger ledger' : QuotaLedger D} {record : ReservationRecordV2 D}
    {reservationId backend operationId : String} {envelope now ttl : Nat}
    (h : ledger.reserveRemaining proofDigest reservationId backend operationId envelope now ttl =
      .ok (record, ledger')) :
    ∃ delta, ledger.reserve proofDigest reservationId backend operationId delta envelope envelope now ttl =
      .ok (record, ledger') := by
  unfold reserveRemaining at h
  simp only [bind_eq_ok] at h
  obtain ⟨_, -, _, -, outstanding, -, _, -, h⟩ := h
  exact ⟨_, h⟩

variable [DecidableEq D]

/-- A validated record has the fields of a row of the table. -/
theorem validateReservationRecord_eq_ok {ledger : QuotaLedger D} {r : ReservationRecordV2 D}
    (h : ledger.validateReservationRecord proofDigest r = .ok ()) :
    ∃ stored ∈ ledger.reservations,
      stored.toQuotaReservationProofPayloadV2 = r.toQuotaReservationProofPayloadV2 := by
  unfold validateReservationRecord at h
  split at h
  · rename_i stored hrows
    rw [QuotaError.unless_eq_ok] at h
    simp only [Bool.and_eq_true, decide_eq_true_eq] at h
    refine ⟨stored, ?_, h.1.1.2⟩
    exact (List.mem_filter.mp (hrows ▸ List.mem_singleton_self stored)).1
  · cases h

/-- The usage after a backend was measured, as long as the total stays in the `u53` range. -/
theorem sealed_eq_ok {usage usage' : UsageSnapshot} {backend : Backend} {measured : Nat}
    (h : sealed usage backend measured = .ok usage')
    (hcommitted : usage.committedBytes = usage.kvCommittedBytes + usage.sqlCommittedBytes)
    (hbound : usage.committedBytes - usage.backendBytes backend + measured ≤ wasmU53Max) :
    usage'.committedBytes = usage'.kvCommittedBytes + usage'.sqlCommittedBytes ∧
      usage'.committedBytes = usage.committedBytes - usage.backendBytes backend + measured := by
  unfold sealed at h
  cases backend <;> dsimp only [UsageSnapshot.backendBytes] at h hbound ⊢ <;> split at h
  · cases h
  · rename_i committedBytes hsum
    obtain ⟨rfl, -⟩ := checkedAddU64_eq_some.mp hsum
    cases h
    dsimp only
    rw [throughColumn_of_le (by omega), throughColumn_of_le (by omega), throughColumn_of_le (by omega)]
    omega
  · cases h
  · rename_i committedBytes hsum
    obtain ⟨rfl, -⟩ := checkedAddU64_eq_some.mp hsum
    cases h
    dsimp only
    rw [throughColumn_of_le (by omega), throughColumn_of_le (by omega), throughColumn_of_le (by omega)]
    omega

/-- A finalize changes nothing, or it commits a reservation that was open. -/
theorem finalize_eq_ok {ledger ledger' : QuotaLedger D} {r : ReservationRecordV2 D} {measured : Nat}
    (h : ledger.finalize proofDigest r measured = .ok ledger') :
    ledger' = ledger ∨
      ∃ usage, sealed ledger.usage r.backend measured = .ok usage ∧
        ledger.stateOf r.reservationId = some .reserved ∧
        (∃ stored ∈ ledger.reservations,
          stored.toQuotaReservationProofPayloadV2 = r.toQuotaReservationProofPayloadV2) ∧
        ledger' = { ledger with
          usage, reservations := setState r.reservationId .committed ledger.reservations } := by
  unfold finalize at h
  simp only [bind_eq_ok] at h
  obtain ⟨_, hvalid, h⟩ := h
  split at h
  · cases h
    exact .inl rfl
  · rename_i hstate
    simp only [bind_eq_ok] at h
    obtain ⟨_, -, usage, husage, h⟩ := h
    cases h
    exact .inr ⟨usage, husage, hstate, validateReservationRecord_eq_ok hvalid, rfl⟩
  · cases h

/-- A reservation identifier names one row, a row's numbers are in range, and the envelope is kept. -/
structure Consistent (envelope now : Nat) (ledger : QuotaLedger D) : Prop where
  ids : (ledger.reservations.map (·.reservationId)).Nodup
  rows : RowsCanonical ledger
  total : ledger.usage.committedBytes = ledger.usage.kvCommittedBytes + ledger.usage.sqlCommittedBytes
  bound : ledger.usage.committedBytes + unexpiredReservedBytes now ledger.reservations ≤ min envelope wasmU53Max

omit [DecidableEq D] in
theorem Consistent.later {envelope now later : Nat} {ledger : QuotaLedger D}
    (h : Consistent envelope now ledger) (hle : now ≤ later) : Consistent envelope later ledger := by
  refine ⟨h.ids, h.rows, h.total, Nat.le_trans ?_ h.bound⟩
  have := unexpiredReservedBytes_anti hle ledger.reservations
  omega

omit [DecidableEq D] in
theorem Consistent.reserve {envelope now : Nat} {ledger ledger' : QuotaLedger D}
    {record : ReservationRecordV2 D} {reservationId backend operationId : String} {delta cap ttl : Nat}
    (h : Consistent envelope now ledger)
    (hok : ledger.reserve proofDigest reservationId backend operationId delta envelope cap now ttl =
      .ok (record, ledger')) : Consistent envelope now ledger' := by
  obtain ⟨outstanding, hout, hle, hid, hdelta, hstate, hexpires, hu53, hfresh, rfl⟩ := reserve_eq_ok hok
  have hsum := outstandingBytes_eq_ok h.rows (Nat.le_trans (Nat.le_add_right now ttl) hu53) hout
  refine ⟨?_, ?_, h.total, ?_⟩
  · rw [List.map_append, List.nodup_append]
    refine ⟨h.ids, List.nodup_singleton _, ?_⟩
    rintro id hmem _ hnew rfl
    rw [List.map_singleton, List.mem_singleton, hid] at hnew
    exact hfresh (hnew ▸ hmem)
  · intro r hr
    rcases List.mem_append.mp hr with hr | hr
    · exact h.rows r hr
    · rw [List.mem_singleton.mp hr, hexpires]
      exact hu53
  · have hcharge : chargeAt now record ≤ delta := by
      unfold chargeAt
      split <;> omega
    rw [unexpiredReservedBytes_eq_sum] at hsum ⊢
    rw [List.map_append, List.sum_append, List.map_singleton, List.sum_singleton]
    dsimp only
    omega

omit [DecidableEq D] in
theorem Consistent.release {envelope now : Nat} {ledger : QuotaLedger D} (h : Consistent envelope now ledger)
    (reservationId : String) : Consistent envelope now (ledger.release reservationId) := by
  have hid : ∀ r : ReservationRecordV2 D,
      (if r.state = .reserved then { r with state := .released } else r).reservationId = r.reservationId := by
    intro r
    split <;> rfl
  refine ⟨?_, ?_, h.total, ?_⟩
  · unfold QuotaLedger.release
    rw [KeyedRows.map_key_update hid]
    exact h.ids
  · intro r' hr'
    obtain ⟨r, hr, rfl⟩ := KeyedRows.mem_update.mp hr'
    have := h.rows r hr
    split
    · split <;> exact this
    · exact this
  · refine Nat.le_trans (Nat.add_le_add_left ?_ _) h.bound
    rw [unexpiredReservedBytes_eq_sum, unexpiredReservedBytes_eq_sum]
    refine KeyedRows.sum_update_le (fun r => ?_) ledger.reservations
    split
    · exact (if_neg (by simp)).trans_le (Nat.zero_le _)
    · exact Nat.le_refl _

/-- Committing an open reservation before it expires moves its bytes from the promised to the committed. -/
theorem Consistent.finalize {envelope now : Nat} {ledger ledger' : QuotaLedger D} {r : ReservationRecordV2 D}
    {measured : Nat} (h : Consistent envelope now ledger)
    (hok : ledger.finalize proofDigest r measured = .ok ledger')
    (hmeasured : measured ≤ ledger.usage.backendBytes r.backend + r.reservedDeltaBytes)
    (hintime : ∀ row ∈ ledger.reservations, row.reservationId = r.reservationId → row.state = .reserved →
      now < row.expiresAt) : Consistent envelope now ledger' := by
  obtain rfl | ⟨usage, husage, hstate, ⟨stored, hstored, hfields⟩, rfl⟩ := finalize_eq_ok hok
  · exact h
  have hid : stored.reservationId = r.reservationId := by rw [hfields]
  have hdelta : stored.reservedDeltaBytes = r.reservedDeltaBytes := by rw [hfields]
  have hopen : stored.state = .reserved := by
    unfold stateOf at hstate
    rw [← hid, KeyedRows.find?_key h.ids hstored] at hstate
    exact Option.some.inj hstate
  have hcharge : chargeAt now stored = stored.reservedDeltaBytes :=
    if_pos ⟨hopen, hintime stored hstored hid hopen⟩
  have hmoved := KeyedRows.sum_update h.ids hstored (fun row => { row with state := .committed }) (chargeAt now)
  have hclosed : chargeAt now { stored with state := .committed } = 0 := if_neg (by simp)
  have hbound := h.bound
  have htotal := h.total
  rw [unexpiredReservedBytes_eq_sum] at hbound
  have hbackend : ledger.usage.backendBytes r.backend ≤ ledger.usage.committedBytes := by
    cases r.backend <;> simp only [UsageSnapshot.backendBytes] <;> omega
  obtain ⟨htotal', hcommitted⟩ := sealed_eq_ok husage h.total (by omega)
  refine ⟨?_, ?_, htotal', ?_⟩
  · unfold setState
    have hkey : ∀ row : ReservationRecordV2 D, { row with state := .committed }.reservationId = row.reservationId :=
      fun _ => rfl
    rw [KeyedRows.map_key_update hkey]
    exact h.ids
  · intro r' hr'
    obtain ⟨row, hrow, rfl⟩ := KeyedRows.mem_update.mp hr'
    have := h.rows row hrow
    split <;> exact this
  · rw [unexpiredReservedBytes_eq_sum]
    unfold setState
    rw [← hid]
    dsimp only
    omega

end QuotaLedger

/-! ## Histories -/

/-- The committed bytes are those of the two backends, and with the unexpired reservations they stay within
the envelope. -/
def LedgerMoment.WithinEnvelope (envelope : Nat) (m : LedgerMoment D) : Prop :=
  m.ledger.usage.committedBytes = m.ledger.usage.kvCommittedBytes + m.ledger.usage.sqlCommittedBytes ∧
    m.ledger.usage.committedBytes + QuotaLedger.unexpiredReservedBytes m.now m.ledger.reservations ≤ envelope

instance (envelope : Nat) (m : LedgerMoment D) : Decidable (m.WithinEnvelope envelope) :=
  inferInstanceAs (Decidable (_ ∧ _))

/-- The clock does not run backwards, and a finalize reports at most what its backend had committed and its
reservation allows. -/
def LedgerStep.isLawful (m : LedgerMoment D) (s : LedgerStep D) : Bool :=
  decide (m.now ≤ s.now) &&
    match s.call with
    | .finalize r measured => decide (measured ≤ m.ledger.usage.backendBytes r.backend + r.reservedDeltaBytes)
    | _ => true

/-- A reservation that is still open when it is finalized has not expired. -/
def LedgerStep.finalizesInTime (m : LedgerMoment D) (s : LedgerStep D) : Bool :=
  match s.call with
  | .finalize r _ => m.ledger.reservations.all fun row =>
      row.reservationId != r.reservationId || row.state != .reserved || decide (s.now < row.expiresAt)
  | _ => true

variable [DecidableEq D] {proofDigest : QuotaReservationProofPayloadV2 → D}

/-- One call keeps the ledger consistent. -/
theorem LedgerStep.consistent {envelope : Nat} {m : LedgerMoment D} {s : LedgerStep D}
    (hlawful : s.isLawful m = true) (hintime : s.finalizesInTime m = true)
    (h : m.ledger.Consistent envelope m.now) :
    (m.step proofDigest envelope s).ledger.Consistent envelope (m.step proofDigest envelope s).now := by
  obtain ⟨now, call⟩ := s
  unfold LedgerStep.isLawful at hlawful
  rw [Bool.and_eq_true, decide_eq_true_eq] at hlawful
  have hnow := h.later hlawful.1
  unfold LedgerMoment.step LedgerCall.perform
  cases call with
  | reserve reservationId backend operationId delta cap ttl =>
    dsimp only
    split
    · exact hnow.reserve ‹_›
    · exact hnow
  | reserveRemaining reservationId backend operationId ttl =>
    dsimp only
    split
    · rename_i heq
      obtain ⟨delta, hreserve⟩ := QuotaLedger.reserveRemaining_eq_ok heq
      exact hnow.reserve hreserve
    · exact hnow
  | finalize r measured =>
    dsimp only
    split
    · refine hnow.finalize ‹_› (of_decide_eq_true hlawful.2) ?_
      intro row hrow hid hopen
      have := List.all_eq_true.mp hintime row hrow
      simpa [hid, hopen] using this
    · exact hnow
  | release reservationId => exact hnow.release reservationId

theorem QuotaLedger.consistent_new (envelope now : Nat) (applicationId : String) :
    (QuotaLedger.new applicationId : QuotaLedger D).Consistent envelope now :=
  ⟨List.nodup_nil, nofun, rfl, Nat.zero_le _⟩

/-- In every history in which no open reservation is finalized after its expiry, the application stays
within its envelope. -/
theorem finalized_in_time_within_envelope (proofDigest : QuotaReservationProofPayloadV2 → D)
    (applicationId : String) (envelope start : Nat) (steps : List (LedgerStep D))
    (h : Along (LedgerMoment.step proofDigest envelope)
      (fun m s => s.isLawful m = true ∧ s.finalizesInTime m = true) ⟨start, QuotaLedger.new applicationId⟩ steps) :
    (run (LedgerMoment.step proofDigest envelope) ⟨start, QuotaLedger.new applicationId⟩ steps).WithinEnvelope
      envelope := by
  have hconsistent := h.invariant (P := fun m : LedgerMoment D => m.ledger.Consistent envelope m.now)
    (fun m s hgood hm => LedgerStep.consistent hgood.1 hgood.2 hm)
    (QuotaLedger.consistent_new envelope start applicationId)
  exact ⟨hconsistent.total, Nat.le_trans hconsistent.bound (Nat.min_le_left _ _)⟩

/-- A reservation of 100 bytes for the KV backend, expiring at `expiresAt`. -/
def fullKvReservation (expiresAt : Nat) : ReservationRecordV2 QuotaReservationProofPayloadV2 :=
  let payload : QuotaReservationProofPayloadV2 :=
    ⟨"018f6b1e-5c0a-7740-afbc-57a9016f2001", "018f6b1e-5c0a-7740-afbc-57a9016f2a01", "alpha", .kv, 1, 0, 0, 100,
      100, expiresAt⟩
  ⟨payload, .reserved, payload⟩

/-- The KV backend reserves the whole envelope of 100 bytes, writes 60 and finalizes at `finalizedAt`; the
SQL backend reserves what it finds free. -/
def reserveFinalize (ttl finalizedAt : Nat) : List (LedgerStep QuotaReservationProofPayloadV2) :=
  [⟨0, .reserve "018f6b1e-5c0a-7740-afbc-57a9016f2001" "kv" "018f6b1e-5c0a-7740-afbc-57a9016f2a01" 100 100 ttl⟩,
    ⟨2, .reserveRemaining "018f6b1e-5c0a-7740-afbc-57a9016f2002" "sql" "018f6b1e-5c0a-7740-afbc-57a9016f2a02" 50⟩,
    ⟨finalizedAt, .finalize (fullKvReservation ttl) 60⟩,
    ⟨finalizedAt, .reserveRemaining "018f6b1e-5c0a-7740-afbc-57a9016f2003" "sql"
      "018f6b1e-5c0a-7740-afbc-57a9016f2a03" 50⟩]

/-- Finalized before its expiry, the reservation leaves 40 bytes for the other backend. -/
theorem finalized_in_time_within_envelope_reserveFinalize :
    (run (LedgerMoment.step id 100) ⟨0, QuotaLedger.new "alpha"⟩ (reserveFinalize 10 4)).WithinEnvelope 100 :=
  finalized_in_time_within_envelope id "alpha" 100 0 (reserveFinalize 10 4) (by decide +kernel)

/-- Finalized after its expiry, it is committed on top of what the other backend reserved meanwhile. -/
theorem late_finalize_exceeds_envelope :
    Along (LedgerMoment.step id 100) (fun m s => s.isLawful m = true) ⟨0, QuotaLedger.new "alpha"⟩
        (reserveFinalize 1 4) ∧
      ¬ (run (LedgerMoment.step id 100) ⟨0, QuotaLedger.new "alpha"⟩ (reserveFinalize 1 4)).WithinEnvelope 100 := by
  decide +kernel

end Iweb
