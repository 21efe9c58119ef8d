import Iweb.HostServices.Kv
import Mathlib.Data.List.Nodup

/-!
# The version line of a key

A committed mutation assigns the version after the current one, and every answer returns the current
version. Versions therefore grow and a compare-and-set that commits replaces what its caller saw, until the
tombstone of a key is collected: the key is then absent, and a mutation that recreates it starts again at
version 1.
-/

namespace Iweb

open CrashRefinement Std

/-! ## What a run shows -/

namespace KvEvent

/-- The event shows this version of the key. -/
def Mentions (key : String) (version : Nat) : KvEvent → Prop
  | .committed k _ v => k = key ∧ v = version
  | .returned k v => k = key ∧ v = version
  | .collected _ => False

/-- Of two mutations of one key, the later assigned the larger version. -/
def inOrder : KvEvent → KvEvent → Bool
  | .committed k _ v, .committed k' _ v' => k != k' || decide (v < v')
  | _, _ => true

/-- The later event is a mutation of the key whose tombstone the earlier one collected. -/
def isRecreatedBy : KvEvent → KvEvent → Bool
  | .collected k, .committed k' _ _ => k == k'
  | _, _ => false

end KvEvent

/-- The versions assigned to one key are strictly increasing. -/
def VersionsIncrease (trace : List KvEvent) : Prop := trace.Pairwise fun a b => a.inOrder b = true

/-- A mutation that commits with an expected version follows no other mutation of the key since that version
was returned. -/
def NoLostUpdate (trace : List KvEvent) : Prop :=
  ∀ before between after key version assigned,
    trace = before ++ .returned key version :: between ++ .committed key (some version) assigned :: after →
      ∀ expected other, .committed key expected other ∉ between

/-- No key is mutated after its tombstone was collected. -/
def NoneRecreated (trace : List KvEvent) : Prop := trace.Pairwise fun a b => a.isRecreatedBy b = false

instance (trace : List KvEvent) : Decidable (VersionsIncrease trace) := inferInstanceAs (Decidable (trace.Pairwise _))

instance (trace : List KvEvent) : Decidable (NoneRecreated trace) := inferInstanceAs (Decidable (trace.Pairwise _))

theorem NoneRecreated.append {trace events : List KvEvent} :
    NoneRecreated (trace ++ events) ↔ NoneRecreated trace ∧ NoneRecreated events ∧
      ∀ a ∈ trace, ∀ b ∈ events, a.isRecreatedBy b = false := List.pairwise_append

/-! ## What one call can do -/

variable {D : Type}

/-- The version of a key, 0 while it is absent. -/
def KvBackend.versionOf (b : KvBackend D) (key : String) : Nat := (b.currentVersion key).getD 0

theorem applyKvCas_eq_ok {current expected : Option Nat} {assigned : Nat}
    (h : applyKvCas current expected (current.getD 0 + 1) = .ok assigned) :
    assigned = current.getD 0 + 1 ∧ ∀ v, expected = some v → current = some v := by
  unfold applyKvCas at h
  split at h
  · cases h
  · rename_i hexpected
    split at h
    · cases h
    · split at h
      · cases h
      · cases h
        refine ⟨rfl, ?_⟩
        rintro v rfl
        have hcurrent : some v = current := by simpa using hexpected
        exact hcurrent.symm

namespace KvBackend

@[simp] theorem version_mutatedEntry (method : KvMethod) (value : List UInt8) (version nowMs : Nat) :
    (mutatedEntry method value version nowMs).version = version := by
  cases method <;> rfl

/-- A committed mutation assigns the version after the current one, which is the expected one if the caller
expected any. -/
structure Commits (b : KvBackend D) (key : String) (expected : Option Nat) (version : Nat)
    (b' : KvBackend D) : Prop where
  next : version = b.versionOf key + 1
  expected : ∀ v, expected = some v → b.currentVersion key = some v
  self : b'.currentVersion key = some version
  other : ∀ k, k ≠ key → b'.currentVersion k = b.currentVersion k

theorem commitCas_eq_ok {b b' : KvBackend D} {method : KvMethod} {key : String} {value : List UInt8}
    {expected : Option Nat} {reservation : ReservationRecordV2 D} {operationId : String} {nowMs version : Nat}
    (h : b.commitCas method key value expected reservation operationId nowMs = .ok (version, b')) :
    b.Commits key expected version b' := by
  unfold commitCas at h
  simp only [bind_eq_ok] at h
  obtain ⟨assigned, hcas, _, -, h⟩ := h
  cases h
  obtain ⟨hnext, hexpected⟩ := applyKvCas_eq_ok hcas
  refine ⟨hnext, hexpected, ?_, ?_⟩
  · simp only [currentVersion, FiniteMap.getElem?_insert_self, Option.map_some, version_mutatedEntry]
  · intro k hk
    simp only [currentVersion, FiniteMap.getElem?_insert_of_ne _ _ hk]

/-- The entries of the file are untouched. -/
def SameEntries (b b' : KvBackend D) : Prop := b'.entries = b.entries

theorem SameEntries.currentVersion {b b' : KvBackend D} (h : b.SameEntries b') (key : String) :
    b'.currentVersion key = b.currentVersion key := by
  unfold KvBackend.currentVersion
  rw [h]

variable [DecidableEq D] (proofDigest : QuotaReservationProofPayloadV2 → D)

theorem sameEntries_finalizeOrQuarantine (b : KvBackend D) (ledger : QuotaLedger D)
    (reservation : ReservationRecordV2 D) (measured : Option Nat) :
    b.SameEntries (b.finalizeOrQuarantine proofDigest ledger reservation measured).1 := by
  unfold finalizeOrQuarantine
  split
  · rfl
  · split <;> rfl

/-- The outcome of a mutation: refused, with the entries as they were, or committed. -/
def MutationOutcome (b : KvBackend D) (key : String) (expected : Option Nat) (answer : Except KvError Nat)
    (b' : KvBackend D) : Prop :=
  (∃ error, answer = .error error ∧ b.SameEntries b') ∨
    ∃ version, answer = .ok version ∧ b.Commits key expected version b'

theorem mutate_outcome (b : KvBackend D) (ledger : QuotaLedger D) (c : KvContext) (method : KvMethod)
    (key : String) (value : List UInt8) (expected : Option Nat) :
    b.MutationOutcome key expected (b.mutate proofDigest ledger c method key value expected).1
      (b.mutate proofDigest ledger c method key value expected).2.1 := by
  unfold mutate
  dsimp only
  split
  · exact .inl ⟨_, rfl, rfl⟩
  · split
    · rename_i reservation ledger' _ _ version b' hcommit
      have hc := commitCas_eq_ok hcommit
      have hsame := sameEntries_finalizeOrQuarantine proofDigest b' ledger' reservation c.measuredBytes
      refine .inr ⟨version, rfl, hc.next, hc.expected, ?_, ?_⟩
      · rw [hsame.currentVersion]
        exact hc.self
      · intro k hk
        rw [hsame.currentVersion]
        exact hc.other k hk
    · exact .inl ⟨_, rfl, rfl⟩

theorem set_outcome (b : KvBackend D) (ledger : QuotaLedger D) (c : KvContext) (key : String)
    (value : List UInt8) (expected : Option Nat) :
    b.MutationOutcome key expected (b.set proofDigest ledger c key value expected).1
      (b.set proofDigest ledger c key value expected).2.1 := by
  unfold set
  split
  · exact .inl ⟨_, rfl, rfl⟩
  · split
    · exact .inl ⟨_, rfl, rfl⟩
    · split
      · exact .inl ⟨_, rfl, rfl⟩
      · exact mutate_outcome proofDigest b ledger c .set key value expected

theorem delete_outcome (b : KvBackend D) (ledger : QuotaLedger D) (c : KvContext) (key : String)
    (expected : Option Nat) :
    b.MutationOutcome key expected (b.delete proofDigest ledger c key expected).1
      (b.delete proofDigest ledger c key expected).2.1 := by
  unfold delete
  split
  · exact .inl ⟨_, rfl, rfl⟩
  · split
    · exact .inl ⟨_, rfl, rfl⟩
    · exact mutate_outcome proofDigest b ledger c .delete key [] expected

omit [DecidableEq D] in
/-- A read returns the current version. -/
theorem get_eq_ok {b : KvBackend D} {key : String} {deadlinePassed : Bool} {value : List UInt8} {version : Nat}
    (h : b.get key deadlinePassed = .ok (value, version)) : b.currentVersion key = some version := by
  unfold get at h
  simp only [bind_eq_ok] at h
  obtain ⟨_, -, _, -, h⟩ := h
  split at h
  · rename_i hentry
    cases h
    unfold currentVersion
    rw [hentry]
    rfl
  · cases h

omit [DecidableEq D] in
theorem mem_matching {b : KvBackend D} {keyPrefix : String} {afterKey : Option String} {item : KvListEntry}
    (h : item ∈ b.matching keyPrefix afterKey) : b.currentVersion item.key = some item.version := by
  unfold matching at h
  obtain ⟨⟨key, entry⟩, hmem, hitem⟩ := List.mem_filterMap.mp h
  have hentry : b.entries[key]? = some entry := ExtTreeMap.mem_toList_iff_getElem?_eq_some.mp hmem
  cases entry with
  | live value version =>
    dsimp only at hitem
    split at hitem
    · cases hitem
      unfold currentVersion
      rw [hentry]
      rfl
    · cases hitem
  | tombstone version deletedAtMs => cases hitem

theorem takePage_subset (maxListBytes : Nat) (rows : List KvListEntry) (pageBytes : Nat) :
    (takePage maxListBytes pageBytes rows).1 ⊆ rows := by
  induction rows generalizing pageBytes with
  | nil => exact List.Subset.refl _
  | cons entry rest ih =>
    unfold takePage
    dsimp only
    split
    · exact List.nil_subset _
    · exact List.cons_subset_cons entry (ih _)

omit [DecidableEq D] in
/-- A page returns current versions and leaves the entries alone. -/
theorem listPage_outcome (b : KvBackend D) (r : ListRequest) (snapshotToken : String) (afterKey : Option String) :
    b.SameEntries (b.listPage r snapshotToken afterKey).2 ∧
      ∀ items cursor, (b.listPage r snapshotToken afterKey).1 = .ok (items, cursor) →
        ∀ item ∈ items, b.currentVersion item.key = some item.version := by
  have hsubset : ∀ item ∈ (takePage r.maxListBytes 0
      (((b.matching r.keyPrefix afterKey).take (r.limit + 1)).take r.limit)).1,
      b.currentVersion item.key = some item.version := by
    intro item hitem
    exact mem_matching (List.mem_of_mem_take (List.mem_of_mem_take (takePage_subset _ _ _ hitem)))
  unfold listPage
  dsimp only
  split
  · refine ⟨rfl, ?_⟩
    intro items cursor h
    split at h <;> cases h
    exact fun item hitem => absurd hitem List.not_mem_nil
  · split
    · refine ⟨rfl, ?_⟩
      rintro items cursor ⟨⟩
      exact hsubset
    · refine ⟨rfl, ?_⟩
      rintro items cursor ⟨⟩
      exact hsubset

omit [DecidableEq D] in
theorem list_outcome (b : KvBackend D) (r : ListRequest) :
    b.SameEntries (b.list r).2 ∧ ∀ items cursor, (b.list r).1 = .ok (items, cursor) →
      ∀ item ∈ items, b.currentVersion item.key = some item.version := by
  unfold list
  split
  · exact ⟨rfl, nofun⟩
  · split
    · exact ⟨rfl, nofun⟩
    · split
      · exact ⟨rfl, nofun⟩
      · split
        · exact ⟨rfl, nofun⟩
        · rename_i snapshotToken afterKey _
          have hpage := fun b' : KvBackend D => listPage_outcome b' r snapshotToken afterKey
          dsimp only
          split
          · exact hpage _
          · exact hpage _

omit [DecidableEq D] in
/-- A collection removes the tombstones it reports and nothing else. -/
theorem gcTombstones_outcome (b : KvBackend D) (maxCursorTtlMs hostCallReplayTtlMs nowMs : Nat) (key : String) :
    let collection := b.gcTombstones maxCursorTtlMs hostCallReplayTtlMs nowMs
    (key ∈ collection.1 → collection.2.currentVersion key = none ∧ ∃ v, b.currentVersion key = some v) ∧
      (key ∉ collection.1 → collection.2.currentVersion key = b.currentVersion key) := by
  unfold gcTombstones
  dsimp only
  split
  · exact ⟨nofun, fun _ => rfl⟩
  · dsimp only
    rw [FiniteMap.mem_keys]
    unfold currentVersion
    dsimp only
    rw [ExtTreeMap.getElem?_filter', ExtTreeMap.getElem?_filter']
    cases hentry : b.entries[key]? with
    | none => simp
    | some entry =>
      cases hcollect : isCollectible maxCursorTtlMs hostCallReplayTtlMs nowMs entry <;>
        simp [hcollect]

end KvBackend

/-- What a call does to the entries, and the events it shows: it returns current versions, commits one
mutation, or collects tombstones. -/
inductive KvCall.Effect (b b' : KvBackend D) : List KvEvent → Prop
  | reads {events : List KvEvent} (same : b.SameEntries b')
      (current : ∀ event ∈ events, ∃ key version,
        event = .returned key version ∧ b.currentVersion key = some version) : Effect b b' events
  | mutation {key : String} {expected : Option Nat} {version : Nat} (commits : b.Commits key expected version b') :
      Effect b b' [.committed key expected version, .returned key version]
  | collection {keys : List String}
      (gone : ∀ key ∈ keys, b'.currentVersion key = none ∧ ∃ v, b.currentVersion key = some v)
      (kept : ∀ key, key ∉ keys → b'.currentVersion key = b.currentVersion key) :
      Effect b b' (keys.map .collected)

theorem KvBackend.MutationOutcome.effect {b b' : KvBackend D} {key : String} {expected : Option Nat}
    {answer : Except KvError Nat} (h : b.MutationOutcome key expected answer b') :
    KvCall.Effect b b' (KvEvent.ofMutation key expected answer) := by
  rcases h with ⟨error, rfl, hsame⟩ | ⟨version, rfl, hcommits⟩
  · exact .reads hsame fun _ h => absurd h List.not_mem_nil
  · exact .mutation hcommits

variable [DecidableEq D] (proofDigest : QuotaReservationProofPayloadV2 → D)

theorem KvCall.perform_effect (s : KvStore D) (call : KvCall D) :
    KvCall.Effect s.backend (call.perform proofDigest s).2.backend (call.perform proofDigest s).1 := by
  cases call with
  | set c key value expected => exact (s.backend.set_outcome proofDigest s.ledger c key value expected).effect
  | delete c key expected => exact (s.backend.delete_outcome proofDigest s.ledger c key expected).effect
  | get key deadlinePassed =>
    refine .reads rfl ?_
    intro event hevent
    show ∃ k version, _ ∧ s.backend.currentVersion k = some version
    unfold KvCall.perform KvEvent.ofGet at hevent
    dsimp only at hevent
    split at hevent
    · rename_i hget
      exact ⟨_, _, List.mem_singleton.mp hevent, KvBackend.get_eq_ok hget⟩
    · exact absurd hevent List.not_mem_nil
  | list request =>
    obtain ⟨hsame, hpage⟩ := s.backend.list_outcome request
    refine .reads hsame ?_
    intro event hevent
    unfold KvCall.perform KvEvent.ofPage at hevent
    dsimp only at hevent
    split at hevent
    · rename_i items cursor hok
      obtain ⟨item, hitem, rfl⟩ := List.mem_map.mp hevent
      exact ⟨_, _, rfl, hpage items cursor hok item hitem⟩
    · exact absurd hevent List.not_mem_nil
  | gcTombstones maxCursorTtlMs hostCallReplayTtlMs nowMs =>
    have h := s.backend.gcTombstones_outcome maxCursorTtlMs hostCallReplayTtlMs nowMs
    exact .collection (fun key => (h key).1) (fun key => (h key).2)
  | quarantineOnOrphanMarker ids =>
    refine .reads ?_ fun _ h => absurd h List.not_mem_nil
    show (s.backend.quarantineOnOrphanMarker ids).entries = s.backend.entries
    unfold KvBackend.quarantineOnOrphanMarker
    split <;> rfl
  | reopen applicationId digest => exact .reads rfl fun _ h => absurd h List.not_mem_nil
  | ledger envelopeBytes nowMs call => exact .reads rfl fun _ h => absurd h List.not_mem_nil

/-! ## Runs -/

/-- The trace accounts for the entries, and every version shown of a key precedes the versions assigned to it
later. -/
structure KvHistory.Tracked (h : KvHistory D) : Prop where
  mentioned : ∀ event ∈ h.trace, ∀ key version, event.Mentions key version →
    .collected key ∈ h.trace ∨ version ≤ h.store.backend.versionOf key
  current : ∀ key version, h.store.backend.currentVersion key = some version →
    1 ≤ version ∧ ∃ expected, .committed key expected version ∈ h.trace
  collected : ∀ key, .collected key ∈ h.trace →
    h.store.backend.currentVersion key = none ∧
      ∃ expected version, 1 ≤ version ∧ .committed key expected version ∈ h.trace
  ordered : h.trace.Pairwise fun a b => ∀ key version expected assigned,
    a.Mentions key version → b = .committed key expected assigned → version < assigned
  successor : ∀ key version assigned, .committed key (some version) assigned ∈ h.trace → assigned = version + 1

omit [DecidableEq D] in
theorem KvHistory.tracked_start (applicationId digest : String) :
    (KvHistory.start applicationId digest : KvHistory D).Tracked := by
  refine ⟨nofun, ?_, nofun, .nil, nofun⟩
  intro key version h
  simp [KvHistory.start, KvBackend.new, KvBackend.currentVersion] at h

omit [DecidableEq D] in
theorem KvHistory.Tracked.reads {h : KvHistory D} (ht : h.Tracked) {store : KvStore D} {events : List KvEvent}
    (hsame : h.store.backend.SameEntries store.backend)
    (hcurrent : ∀ event ∈ events, ∃ key version,
      event = .returned key version ∧ h.store.backend.currentVersion key = some version) :
    (⟨store, h.trace ++ events⟩ : KvHistory D).Tracked := by
  have hmem : ∀ event, (∀ k v, event ≠ .returned k v) → event ∈ h.trace ++ events → event ∈ h.trace := by
    intro event hevent hmem
    rcases List.mem_append.mp hmem with hold | hnew
    · exact hold
    · obtain ⟨k, v, rfl, _⟩ := hcurrent event hnew
      exact absurd rfl (hevent k v)
  have hversion : ∀ key, store.backend.versionOf key = h.store.backend.versionOf key := by
    intro key
    unfold KvBackend.versionOf
    rw [hsame.currentVersion]
  refine ⟨?_, ?_, ?_, ?_, ?_⟩
  · intro event hevent key version hmentions
    dsimp only
    rw [hversion]
    rcases List.mem_append.mp hevent with hold | hnew
    · exact (ht.mentioned event hold key version hmentions).imp_left (List.mem_append_left _)
    · obtain ⟨k, v, rfl, hk⟩ := hcurrent event hnew
      obtain ⟨rfl, rfl⟩ := hmentions
      refine .inr ?_
      unfold KvBackend.versionOf
      rw [hk]
      exact Nat.le_refl _
  · intro key version hversion
    dsimp only at hversion
    rw [hsame.currentVersion] at hversion
    obtain ⟨hpos, expected, hmem⟩ := ht.current key version hversion
    exact ⟨hpos, expected, List.mem_append_left _ hmem⟩
  · intro key hcollected
    obtain ⟨hnone, expected, version, hpos, hmem⟩ := ht.collected key (hmem _ nofun hcollected)
    dsimp only
    rw [hsame.currentVersion]
    exact ⟨hnone, expected, version, hpos, List.mem_append_left _ hmem⟩
  · refine List.pairwise_append.mpr ⟨ht.ordered, List.pairwise_of_forall_mem_list ?_, ?_⟩
    · intro a _ b hb key version expected assigned _ heq
      obtain ⟨k, v, rfl, _⟩ := hcurrent b hb
      cases heq
    · intro a _ b hb key version expected assigned _ heq
      obtain ⟨k, v, rfl, _⟩ := hcurrent b hb
      cases heq
  · exact fun key version assigned h => ht.successor key version assigned (hmem _ nofun h)

omit [DecidableEq D] in
theorem KvHistory.Tracked.mutation {h : KvHistory D} (ht : h.Tracked) {store : KvStore D} {key : String}
    {expected : Option Nat} {version : Nat} (hcommits : h.store.backend.Commits key expected version store.backend)
    (hnot : .collected key ∉ h.trace) :
    (⟨store, h.trace ++ [.committed key expected version, .returned key version]⟩ : KvHistory D).Tracked := by
  have hself : store.backend.versionOf key = version := by
    unfold KvBackend.versionOf
    rw [hcommits.self]
    rfl
  have hother : ∀ k, k ≠ key → store.backend.versionOf k = h.store.backend.versionOf k := by
    intro k hk
    unfold KvBackend.versionOf
    rw [hcommits.other k hk]
  have hnext := hcommits.next
  have hcollected : ∀ k, .collected k ∈ h.trace ++ [.committed key expected version, .returned key version] →
      .collected k ∈ h.trace := by
    intro k hmem
    simpa using hmem
  refine ⟨?_, ?_, ?_, ?_, ?_⟩
  · intro event hevent k v hmentions
    dsimp only
    rcases List.mem_append.mp hevent with hold | hnew
    · rcases ht.mentioned event hold k v hmentions with hgone | hle
      · exact .inl (List.mem_append_left _ hgone)
      · by_cases hk : k = key
        · subst k
          exact .inr (by omega)
        · rw [hother k hk]
          exact .inr hle
    · have heq : key = k ∧ version = v := by
        rcases List.mem_pair.mp hnew with rfl | rfl <;> exact hmentions
      obtain ⟨rfl, rfl⟩ := heq
      exact .inr (by omega)
  · intro k v hv
    dsimp only at hv
    by_cases hk : k = key
    · subst k
      rw [hcommits.self] at hv
      cases hv
      exact ⟨by omega, expected, by simp⟩
    · rw [hcommits.other k hk] at hv
      obtain ⟨hpos, e, hmem⟩ := ht.current k v hv
      exact ⟨hpos, e, List.mem_append_left _ hmem⟩
  · intro k hk
    have hold := hcollected k hk
    have hne : k ≠ key := by
      rintro rfl
      exact hnot hold
    obtain ⟨hnone, e, v, hpos, hmem⟩ := ht.collected k hold
    dsimp only
    rw [hcommits.other k hne]
    exact ⟨hnone, e, v, hpos, List.mem_append_left _ hmem⟩
  · refine List.pairwise_append.mpr ⟨ht.ordered, ?_, ?_⟩
    · refine List.pairwise_pair.mpr ?_
      rintro k v e w _ ⟨⟩
    · intro a ha b hb k v e w hmentions heq
      have hkey : key = k ∧ version = w := by
        rcases List.mem_pair.mp hb with rfl | rfl <;> cases heq
        exact ⟨rfl, rfl⟩
      obtain ⟨rfl, rfl⟩ := hkey
      rcases ht.mentioned a ha key v hmentions with hgone | hle
      · exact absurd hgone hnot
      · omega
  · intro k v w hmem
    rcases List.mem_append.mp hmem with hold | hnew
    · exact ht.successor k v w hold
    · have heq : KvEvent.committed k (some v) w = .committed key expected version := by simpa using hnew
      cases heq
      have := hcommits.expected v rfl
      unfold KvBackend.versionOf at hnext
      rw [this] at hnext
      exact hnext

omit [DecidableEq D] in
theorem KvHistory.Tracked.collection {h : KvHistory D} (ht : h.Tracked) {store : KvStore D} {keys : List String}
    (hgone : ∀ key ∈ keys, store.backend.currentVersion key = none ∧
      ∃ v, h.store.backend.currentVersion key = some v)
    (hkept : ∀ key, key ∉ keys → store.backend.currentVersion key = h.store.backend.currentVersion key) :
    (⟨store, h.trace ++ keys.map .collected⟩ : KvHistory D).Tracked := by
  have hold : ∀ event, (∀ k, event ≠ .collected k) → event ∈ h.trace ++ keys.map .collected → event ∈ h.trace := by
    intro event hevent hmem
    rcases List.mem_append.mp hmem with hold | hnew
    · exact hold
    · obtain ⟨k, _, rfl⟩ := List.mem_map.mp hnew
      exact absurd rfl (hevent k)
  refine ⟨?_, ?_, ?_, ?_, ?_⟩
  · intro event hevent key version hmentions
    have hmem := hold event (by rintro k rfl; exact hmentions) hevent
    by_cases hk : key ∈ keys
    · exact .inl (List.mem_append_right _ (List.mem_map_of_mem hk))
    · dsimp only
      unfold KvBackend.versionOf
      rw [hkept key hk]
      exact (ht.mentioned event hmem key version hmentions).imp_left (List.mem_append_left _)
  · intro key version hversion
    dsimp only at hversion
    by_cases hk : key ∈ keys
    · rw [(hgone key hk).1] at hversion
      cases hversion
    · rw [hkept key hk] at hversion
      obtain ⟨hpos, expected, hmem⟩ := ht.current key version hversion
      exact ⟨hpos, expected, List.mem_append_left _ hmem⟩
  · intro key hcollected
    dsimp only
    by_cases hk : key ∈ keys
    · obtain ⟨hnone, v, hv⟩ := hgone key hk
      obtain ⟨hpos, expected, hmem⟩ := ht.current key v hv
      exact ⟨hnone, expected, v, hpos, List.mem_append_left _ hmem⟩
    · have hcollected' : .collected key ∈ h.trace := by
        rcases List.mem_append.mp hcollected with h | h
        · exact h
        · obtain ⟨k, hmem, heq⟩ := List.mem_map.mp h
          cases heq
          exact absurd hmem hk
      obtain ⟨hnone, expected, v, hpos, hmem⟩ := ht.collected key hcollected'
      rw [hkept key hk]
      exact ⟨hnone, expected, v, hpos, List.mem_append_left _ hmem⟩
  · refine List.pairwise_append.mpr ⟨ht.ordered, List.pairwise_of_forall_mem_list ?_, ?_⟩
    · intro a _ b hb key version expected assigned _ heq
      obtain ⟨k, _, rfl⟩ := List.mem_map.mp hb
      cases heq
    · intro a _ b hb key version expected assigned _ heq
      obtain ⟨k, _, rfl⟩ := List.mem_map.mp hb
      cases heq
  · exact fun key version assigned h => ht.successor key version assigned (hold _ nofun h)

/-- While no collected key is recreated, a call keeps the trace and the entries together. -/
theorem KvHistory.Tracked.step {h : KvHistory D} (ht : h.Tracked) (call : KvCall D)
    (hnone : NoneRecreated (h.step proofDigest call).trace) : (h.step proofDigest call).Tracked := by
  unfold KvHistory.step at hnone ⊢
  dsimp only at hnone ⊢
  have heffect := call.perform_effect proofDigest h.store
  generalize hevents : (call.perform proofDigest h.store).1 = events at heffect hnone ⊢
  generalize (call.perform proofDigest h.store).2 = store at heffect ⊢
  cases heffect with
  | reads same current => exact ht.reads same current
  | @mutation key expected version commits =>
    refine ht.mutation commits fun hcollected => ?_
    have := (NoneRecreated.append.mp hnone).2.2 _ hcollected _ List.mem_cons_self
    simp [KvEvent.isRecreatedBy] at this
  | collection gone kept => exact ht.collection gone kept

/-- A mutation that recreates a collected key assigns a version that was assigned before. -/
theorem KvHistory.Tracked.noneRecreated_step {h : KvHistory D} (ht : h.Tracked) (call : KvCall D)
    (hnone : NoneRecreated h.trace) (hincrease : VersionsIncrease (h.step proofDigest call).trace) :
    NoneRecreated (h.step proofDigest call).trace := by
  unfold KvHistory.step at hincrease ⊢
  dsimp only at hincrease ⊢
  have heffect := call.perform_effect proofDigest h.store
  generalize hevents : (call.perform proofDigest h.store).1 = events at heffect hincrease ⊢
  generalize (call.perform proofDigest h.store).2 = store at heffect ⊢
  have hquiet : ∀ events : List KvEvent, (∀ b ∈ events, ∀ k e v, b ≠ .committed k e v) →
      NoneRecreated (h.trace ++ events) := by
    intro events hb
    have hfalse : ∀ a : KvEvent, ∀ b ∈ events, a.isRecreatedBy b = false := by
      intro a b hmem
      cases b with
      | committed k e v => exact absurd rfl (hb _ hmem k e v)
      | returned k v => cases a <;> rfl
      | collected k => cases a <;> rfl
    exact NoneRecreated.append.mpr ⟨hnone, List.pairwise_of_forall_mem_list fun a _ b hb => hfalse a b hb,
      fun a _ b hb => hfalse a b hb⟩
  cases heffect with
  | reads same current =>
    refine hquiet _ fun b hb => ?_
    obtain ⟨k, v, rfl, _⟩ := current b hb
    exact nofun
  | collection gone kept =>
    refine hquiet _ fun b hb => ?_
    obtain ⟨k, _, rfl⟩ := List.mem_map.mp hb
    exact nofun
  | @mutation key expected version commits =>
    have hfresh : .collected key ∉ h.trace := by
      intro hcollected
      obtain ⟨habsent, e, v, hpos, hmem⟩ := ht.collected key hcollected
      have hlt := (List.pairwise_append.mp hincrease).2.2 _ hmem _ List.mem_cons_self
      have hnext := commits.next
      unfold KvBackend.versionOf at hnext
      rw [habsent, Option.getD_none] at hnext
      simp only [KvEvent.inOrder, bne_self_eq_false, Bool.false_or, decide_eq_true_eq] at hlt
      omega
    refine NoneRecreated.append.mpr ⟨hnone, List.pairwise_pair.mpr rfl, ?_⟩
    intro a ha b hb
    rcases List.mem_pair.mp hb with rfl | rfl
    · cases a with
      | collected k =>
        have : k ≠ key := by
          rintro rfl
          exact hfresh ha
        simpa [KvEvent.isRecreatedBy] using this
      | committed k e v => rfl
      | returned k v => rfl
    · cases a <;> rfl

theorem KvHistory.trace_step (h : KvHistory D) (call : KvCall D) :
    (h.step proofDigest call).trace = h.trace ++ (call.perform proofDigest h.store).1 := rfl

/-- Over a run, no collected key is recreated exactly as long as the versions increase, and then the trace
accounts for the entries. -/
theorem tracked_run (applicationId digest : String) (calls : List (KvCall D)) :
    let h := run (KvHistory.step proofDigest) (KvHistory.start applicationId digest) calls
    (NoneRecreated h.trace → h.Tracked) ∧ (VersionsIncrease h.trace → NoneRecreated h.trace) := by
  apply run_invariant (P := fun h : KvHistory D =>
    (NoneRecreated h.trace → h.Tracked) ∧ (VersionsIncrease h.trace → NoneRecreated h.trace))
  · rintro h call ⟨htracked, hincrease⟩
    refine ⟨fun hnone => ?_, fun hversions => ?_⟩
    · have hbefore : NoneRecreated h.trace := (NoneRecreated.append.mp (h.trace_step proofDigest call ▸ hnone)).1
      exact (htracked hbefore).step proofDigest call hnone
    · have hbefore : VersionsIncrease h.trace := (List.pairwise_append.mp (h.trace_step proofDigest call ▸ hversions)).1
      exact (htracked (hincrease hbefore)).noneRecreated_step proofDigest call (hincrease hbefore) hversions
  · exact ⟨fun _ => KvHistory.tracked_start applicationId digest, fun _ => .nil⟩

omit [DecidableEq D] in
theorem KvHistory.Tracked.versionsIncrease {h : KvHistory D} (ht : h.Tracked) : VersionsIncrease h.trace := by
  refine ht.ordered.imp ?_
  intro a b hlt
  cases a with
  | committed k e v =>
    cases b with
    | committed k' e' v' =>
      by_cases hk : k = k'
      · subst k'
        have := hlt k v e' v' ⟨rfl, rfl⟩ rfl
        simp [KvEvent.inOrder, this]
      · simp [KvEvent.inOrder, hk]
    | returned k' v' => rfl
    | collected k' => rfl
  | returned k v => rfl
  | collected k => rfl

omit [DecidableEq D] in
/-- A mutation between a version's return and its use would have assigned a version that lies between it and
its successor. -/
theorem KvHistory.Tracked.noLostUpdate {h : KvHistory D} (ht : h.Tracked) : NoLostUpdate h.trace := by
  intro before between after key version assigned heq expected other hmem
  have hordered := ht.ordered
  rw [heq] at hordered
  have hsuccessor := ht.successor key version assigned (heq ▸ by simp)
  obtain ⟨hfirst, -, hlast⟩ := List.pairwise_append.mp hordered
  have hlower : version < other := by
    have := (List.pairwise_append.mp hfirst).2.1
    exact List.rel_of_pairwise_cons this hmem key version expected other ⟨rfl, rfl⟩ rfl
  have hupper : other < assigned := by
    have hbefore : .committed key expected other ∈ before ++ .returned key version :: between :=
      List.mem_append_right _ (List.mem_cons_of_mem _ hmem)
    exact hlast _ hbefore _ List.mem_cons_self key other (some version) assigned ⟨rfl, rfl⟩ rfl
  omega

/-- The versions of every key increase and no update is lost, exactly in the runs that never mutate a key
whose tombstone was collected. -/
theorem versions_increase_iff_none_recreated (proofDigest : QuotaReservationProofPayloadV2 → D)
    (applicationId digest : String) (calls : List (KvCall D)) :
    let trace := (run (KvHistory.step proofDigest) (KvHistory.start applicationId digest) calls).trace
    VersionsIncrease trace ∧ NoLostUpdate trace ↔ NoneRecreated trace := by
  obtain ⟨htracked, hincrease⟩ := tracked_run proofDigest applicationId digest calls
  exact ⟨fun h => hincrease h.1,
    fun hnone => ⟨(htracked hnone).versionsIncrease, (htracked hnone).noLostUpdate⟩⟩

/-! ## A recreated key -/

/-- What the `n`-th mutation of a run is called with. -/
def kvContext (n : String) (nowMs : Nat) : KvContext :=
  ⟨"018f6b1e-5c0a-7740-afbc-57a9016f200" ++ n, "018f6b1e-5c0a-7740-afbc-57a9016f2a0" ++ n, 1000, 1000, 64, 50,
    nowMs, false, some 100⟩

/-- A caller writes a key; it is deleted and its tombstone is collected; another caller writes the key again,
and the first one replaces that value with the version it got from its own. -/
def recreatedAfterCollection : List (KvCall QuotaReservationProofPayloadV2) :=
  [.set (kvContext "1" 0) "k" [1] none, .delete (kvContext "2" 10) "k" none, .gcTombstones 20 30 60,
    .set (kvContext "3" 70) "k" [2] none, .set (kvContext "4" 80) "k" [3] (some 1)]

theorem recreated_key_loses_update :
    ¬ VersionsIncrease (run (KvHistory.step id) (KvHistory.start "alpha" "cd") recreatedAfterCollection).trace ∧
      ¬ NoLostUpdate
        (run (KvHistory.step id) (KvHistory.start "alpha" "cd") recreatedAfterCollection).trace := by
  have htrace : (run (KvHistory.step id) (KvHistory.start "alpha" "cd") recreatedAfterCollection).trace =
      [.committed "k" none 1] ++ .returned "k" 1 ::
        [.committed "k" none 2, .returned "k" 2, .collected "k", .committed "k" none 1, .returned "k" 1] ++
        .committed "k" (some 1) 2 :: [.returned "k" 2] := by
    decide +kernel
  constructor
  · rw [htrace]
    decide
  · exact fun h => h _ _ _ "k" 1 2 htrace none 2 List.mem_cons_self

end Iweb
