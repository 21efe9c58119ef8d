import Iweb.HostServices.KvPaging
import Iweb.HostServices.Proofs.KvProofs
import Iweb.Kernel.Text

/-!
# Pages are complete and free of duplicates

Every key of the store is an application key, so the range a list scans is the prefix. A page is an initial
part of the live entries after the last key of the page before; a page without a cursor is all of them. A key
that stays live is therefore on the first page that passes it, and no other page reaches back to it.
-/

namespace Iweb

open CrashRefinement Std

variable {D : Type}

/-! ## Application keys -/

theorem lt_of_isApplicationKey {key : String} (h : isApplicationKey key = true) :
    ∀ b ∈ bytes key, b.toNat < 0x7b := by
  have hlower : ∀ b : UInt8, isLowerAlpha b = true → b.toNat < 0x7b := by
    intro b hb
    simp only [isLowerAlpha, inRange, Bool.and_eq_true, decide_eq_true_eq] at hb
    have : 'z'.toNat = 122 := rfl
    omega
  have hdigit : ∀ b : UInt8, isDecimalDigit b = true → b.toNat < 0x7b := by
    intro b hb
    simp only [isDecimalDigit, inRange, Bool.and_eq_true, decide_eq_true_eq] at hb
    have : '9'.toNat = 57 := rfl
    omega
  unfold isApplicationKey at h
  intro b hb
  split at h
  · cases h
  · rename_i first rest hbytes
    rw [hbytes] at hb
    simp only [Bool.and_eq_true, List.all_eq_true, Bool.or_eq_true, beq_iff_eq, isLabelChar, isLabelEdge] at h
    obtain ⟨⟨hfirst, -⟩, hrest⟩ := h
    rcases List.mem_cons.mp hb with rfl | hmem
    · exact hlower b hfirst
    · rcases hrest b hmem with (((hb | hb) | rfl) | rfl) | rfl
      · exact hlower b hb
      · exact hdigit b hb
      · decide
      · decide
      · decide

theorem isAscii_of_isApplicationKey {key : String} (h : isApplicationKey key = true) : IsAscii key := by
  intro b hb
  have := lt_of_isApplicationKey h b hb
  omega

/-- The half-open range a list scans is the set of the keys with the prefix. -/
theorem startsWith_iff_between {keyPrefix key : String} (hstarts : isApplicationKey keyPrefix = true)
    (hkey : isApplicationKey key = true) :
    startsWith keyPrefix key = true ↔ keyPrefix ≤ key ∧ key < keyPrefix ++ "\x7b" := by
  have hascii := isAscii_of_isApplicationKey hstarts
  have hbrace : IsAscii "\x7b" := by
    intro b hb
    have hb' : b = 0x7b := by simpa using (show b ∈ [0x7b] from hb)
    rw [hb']
    decide
  unfold startsWith
  rw [List.isPrefixOf_iff_prefix]
  refine hascii.prefix_iff_between (isAscii_of_isApplicationKey hkey) ?_ (hascii.append hbrace)
    (bytes_append keyPrefix "\x7b")
  intro b hb
  exact UInt8.lt_iff_toNat_lt.mpr (lt_of_isApplicationKey hkey b hb)

namespace KvBackend

/-- Every key of the file is an application key. -/
def KeysValid (b : KvBackend D) : Prop := ∀ key entry, b.entries[key]? = some entry → isApplicationKey key = true

theorem SameEntries.keysValid {b b' : KvBackend D} (h : b.SameEntries b') (hkeys : b.KeysValid) : b'.KeysValid := by
  intro key entry hentry
  rw [h] at hentry
  exact hkeys key entry hentry

/-- What a mutation leaves alone: the cursors and the other keys. -/
structure MutatesOnly (b : KvBackend D) (key : String) (b' : KvBackend D) : Prop where
  cursors : b'.cursors = b.cursors
  other : ∀ k, k ≠ key → b'.entries[k]? = b.entries[k]?

theorem MutatesOnly.refl (b : KvBackend D) (key : String) : b.MutatesOnly key b := ⟨rfl, fun _ _ => rfl⟩

theorem MutatesOnly.keysValid {b b' : KvBackend D} {key : String} (h : b.MutatesOnly key b')
    (hkey : isApplicationKey key = true) (hkeys : b.KeysValid) : b'.KeysValid := by
  intro k entry hentry
  by_cases hk : k = key
  · subst k
    exact hkey
  · rw [h.other k hk] at hentry
    exact hkeys k entry hentry

theorem commitCas_mutatesOnly {b b' : KvBackend D} {method : KvMethod} {key : String} {value : List UInt8}
    {expected : Option Nat} {reservation : ReservationRecordV2 D} {operationId : String} {nowMs version : Nat}
    (h : b.commitCas method key value expected reservation operationId nowMs = .ok (version, b')) :
    b.MutatesOnly key b' := by
  unfold commitCas at h
  simp only [bind_eq_ok] at h
  obtain ⟨assigned, -, _, -, h⟩ := h
  cases h
  exact ⟨rfl, fun k hk => FiniteMap.getElem?_insert_of_ne _ _ hk⟩

variable [DecidableEq D] (proofDigest : QuotaReservationProofPayloadV2 → D)

theorem finalizeOrQuarantine_cursors (b : KvBackend D) (ledger : QuotaLedger D)
    (reservation : ReservationRecordV2 D) (measured : Option Nat) :
    (b.finalizeOrQuarantine proofDigest ledger reservation measured).1.cursors = b.cursors := by
  unfold finalizeOrQuarantine
  split
  · rfl
  · split <;> rfl

theorem mutate_mutatesOnly (b : KvBackend D) (ledger : QuotaLedger D) (c : KvContext) (method : KvMethod)
    (key : String) (value : List UInt8) (expected : Option Nat) :
    b.MutatesOnly key (b.mutate proofDigest ledger c method key value expected).2.1 := by
  unfold mutate
  dsimp only
  split
  · exact .refl b key
  · split
    · rename_i reservation ledger' _ _ version b' hcommit
      have hcommits := commitCas_mutatesOnly hcommit
      have hsame := sameEntries_finalizeOrQuarantine proofDigest b' ledger' reservation c.measuredBytes
      refine ⟨?_, ?_⟩
      · rw [finalizeOrQuarantine_cursors]
        exact hcommits.cursors
      · intro k hk
        rw [hsame]
        exact hcommits.other k hk
    · exact .refl b key

/-- A mutation of a key that is not an application key is refused. -/
theorem set_mutatesOnly (b : KvBackend D) (ledger : QuotaLedger D) (c : KvContext) (key : String)
    (value : List UInt8) (expected : Option Nat) :
    let b' := (b.set proofDigest ledger c key value expected).2.1
    b.MutatesOnly key b' ∧ (b.KeysValid → b'.KeysValid) := by
  unfold set
  dsimp only
  split
  · exact ⟨.refl b key, id⟩
  · split
    · exact ⟨.refl b key, id⟩
    · rename_i hkey
      split
      · exact ⟨.refl b key, id⟩
      · have hmutates := b.mutate_mutatesOnly proofDigest ledger c .set key value expected
        exact ⟨hmutates, hmutates.keysValid (by simpa using hkey)⟩

theorem delete_mutatesOnly (b : KvBackend D) (ledger : QuotaLedger D) (c : KvContext) (key : String)
    (expected : Option Nat) :
    let b' := (b.delete proofDigest ledger c key expected).2.1
    b.MutatesOnly key b' ∧ (b.KeysValid → b'.KeysValid) := by
  unfold delete
  dsimp only
  split
  · exact ⟨.refl b key, id⟩
  · split
    · exact ⟨.refl b key, id⟩
    · rename_i hkey
      have hmutates := b.mutate_mutatesOnly proofDigest ledger c .delete key [] expected
      exact ⟨hmutates, hmutates.keysValid (by simpa using hkey)⟩

end KvBackend

section Runs

variable [DecidableEq D] (proofDigest : QuotaReservationProofPayloadV2 → D)

theorem KvCall.perform_keysValid (s : KvStore D) (call : KvCall D) (hkeys : s.backend.KeysValid) :
    (call.perform proofDigest s).2.backend.KeysValid := by
  cases call with
  | set c key value expected => exact (s.backend.set_mutatesOnly proofDigest s.ledger c key value expected).2 hkeys
  | delete c key expected => exact (s.backend.delete_mutatesOnly proofDigest s.ledger c key expected).2 hkeys
  | get key deadlinePassed => exact hkeys
  | list request => exact (s.backend.list_outcome request).1.keysValid hkeys
  | gcTombstones maxCursorTtlMs hostCallReplayTtlMs nowMs =>
    show (s.backend.gcTombstones maxCursorTtlMs hostCallReplayTtlMs nowMs).2.KeysValid
    unfold KvBackend.gcTombstones
    split
    · exact hkeys
    · intro key entry hentry
      dsimp only at hentry
      rw [ExtTreeMap.getElem?_filter'] at hentry
      exact hkeys key entry (Option.filter_eq_some_iff.mp hentry).1
  | quarantineOnOrphanMarker ids =>
    show (s.backend.quarantineOnOrphanMarker ids).KeysValid
    unfold KvBackend.quarantineOnOrphanMarker
    split <;> exact hkeys
  | reopen applicationId digest => exact hkeys
  | ledger envelopeBytes nowMs call => exact hkeys

theorem keysValid_run (applicationId digest : String) (calls : List (KvCall D)) :
    (run (KvHistory.step proofDigest) (KvHistory.start applicationId digest) calls).store.backend.KeysValid := by
  apply run_invariant (P := fun h : KvHistory D => h.store.backend.KeysValid)
  · exact fun h call hkeys => call.perform_keysValid proofDigest h.store hkeys
  · intro key entry hentry
    unfold KvHistory.start KvBackend.new at hentry
    rw [FiniteMap.getElem?_empty] at hentry
    cases hentry

end Runs

/-! ## One page -/

namespace KvBackend

theorem compare_lt_iff {s t : String} : compare s t = .lt ↔ s < t := compareOfLessAndEq_eq_lt

/-- The live entries of a prefix after a key. -/
def liveAfter (b : KvBackend D) (keyPrefix : String) (afterKey : Option String) : List KvListEntry :=
  (b.liveUnder keyPrefix).filter fun item => afterKey.all (· < item.key)

theorem liveUnder_ascending (b : KvBackend D) (keyPrefix : String) :
    (b.liveUnder keyPrefix).Pairwise fun x y => x.key < y.key := by
  unfold liveUnder
  refine List.Pairwise.filterMap _ ?_ ExtTreeMap.ordered_keys_toList
  rintro ⟨key, entry⟩ ⟨key', entry'⟩ hlt x hx y hy
  cases entry with
  | tombstone version deletedAtMs => cases hx
  | live value version =>
    cases entry' with
    | tombstone version deletedAtMs => cases hy
    | live value' version' =>
      dsimp only at hx hy
      split at hx
      · split at hy
        · cases hx
          cases hy
          exact compare_lt_iff.mp hlt
        · cases hy
      · cases hx

theorem mem_liveUnder {b : KvBackend D} {keyPrefix : String} {item : KvListEntry} :
    item ∈ b.liveUnder keyPrefix ↔
      startsWith keyPrefix item.key = true ∧ b.entries[item.key]? = some (.live item.value item.version) := by
  unfold liveUnder
  rw [List.mem_filterMap]
  constructor
  · rintro ⟨⟨key, entry⟩, hmem, hitem⟩
    have hentry : b.entries[key]? = some entry := ExtTreeMap.mem_toList_iff_getElem?_eq_some.mp hmem
    cases entry with
    | live value version =>
      dsimp only at hitem
      split at hitem
      · cases hitem
        exact ⟨‹_›, hentry⟩
      · cases hitem
    | tombstone version deletedAtMs => cases hitem
  · rintro ⟨hstarts, hentry⟩
    refine ⟨(item.key, .live item.value item.version), ExtTreeMap.mem_toList_iff_getElem?_eq_some.mpr hentry, ?_⟩
    dsimp only
    rw [if_pos hstarts]

/-- What a list scans: the range of the keys is the prefix. -/
theorem matching_eq_liveAfter {b : KvBackend D} (hkeys : b.KeysValid) {keyPrefix : String}
    (hstarts : isApplicationKey keyPrefix = true) (afterKey : Option String) :
    b.matching keyPrefix afterKey = b.liveAfter keyPrefix afterKey := by
  unfold matching liveAfter liveUnder
  rw [List.filter_filterMap]
  refine List.filterMap_congr ?_
  rintro ⟨key, entry⟩ hmem
  have hkey : isApplicationKey key = true := hkeys key entry (ExtTreeMap.mem_toList_iff_getElem?_eq_some.mp hmem)
  have hrange := startsWith_iff_between hstarts hkey
  cases entry with
  | tombstone version deletedAtMs => rfl
  | live value version =>
    dsimp only
    by_cases hstarts : startsWith keyPrefix key = true
    · obtain ⟨hlow, hhigh⟩ := hrange.mp hstarts
      rw [if_pos hstarts, decide_eq_true hlow, decide_eq_true hhigh]
      rw [Option.filter_some, Bool.true_and, Bool.true_and]
    · rw [if_neg hstarts, if_neg]
      · rfl
      · intro h
        simp only [Bool.and_eq_true, decide_eq_true_eq] at h
        exact hstarts (hrange.mpr h.1)

/-- A page is an initial part of the candidates within the byte limit; all of them unless one broke it. -/
theorem takePage_spec (maxListBytes : Nat) (rows : List KvListEntry) (used : Nat) (hused : used ≤ maxListBytes) :
    let page := takePage maxListBytes used rows
    page.1 <+: rows ∧ used + pageBytes page.1 ≤ maxListBytes ∧ (page.2 = false → page.1 = rows) := by
  induction rows generalizing used with
  | nil => exact ⟨List.prefix_rfl, hused, fun _ => rfl⟩
  | cons entry rest ih =>
    unfold takePage
    dsimp only
    split
    · exact ⟨List.nil_prefix, hused, fun hfull => Bool.noConfusion hfull⟩
    · rename_i hfits
      obtain ⟨hstarts, hbytes, hall⟩ := ih (used + ((bytes entry.key).length + entry.value.length)) (by omega)
      refine ⟨(List.cons_prefix_cons).mpr ⟨rfl, hstarts⟩, ?_, fun hbreak => ?_⟩
      · unfold pageBytes at hbytes ⊢
        rw [List.map_cons, List.sum_cons]
        omega
      · rw [hall hbreak]

/-- The cursor of the next request continues after the key. -/
def Resumes (b : KvBackend D) : Option String → Option String → Prop
  | none, afterKey => afterKey = none
  | some token, afterKey => ∃ binding, b.cursors[token]? = some binding ∧ afterKey = some binding.lastKey

theorem Resumes.resolveCursor {b : KvBackend D} {r : ListRequest} {afterKey afterKey' : Option String}
    {snapshotToken : String} (h : b.Resumes r.cursor afterKey)
    (hresolve : b.resolveCursor r = .ok (snapshotToken, afterKey')) : afterKey' = afterKey := by
  unfold KvBackend.resolveCursor at hresolve
  cases hcursor : r.cursor with
  | none =>
    rw [hcursor] at h hresolve
    cases hresolve
    exact Eq.symm h
  | some token =>
    rw [hcursor] at h hresolve
    obtain ⟨binding, hbinding, rfl⟩ := h
    dsimp only at hresolve
    rw [hbinding] at hresolve
    simp only [bind_eq_ok] at hresolve
    obtain ⟨_, -, _, -, hresolve⟩ := hresolve
    cases hresolve
    rfl

/-- A page of the candidates `rows`: an initial part within the limits. Without a cursor it is all of them; a
cursor continues after its last entry. -/
structure PageOf (rows : List KvListEntry) (r : ListRequest) (items : List KvListEntry) (next : Option String)
    (b' : KvBackend D) : Prop where
  initial : items <+: rows
  limit : items.length ≤ r.limit
  bytes : pageBytes items ≤ r.maxListBytes
  last : next = none → items = rows
  continues : ∀ token, next = some token → ∃ item, items.getLast? = some item ∧ b'.Resumes next (some item.key)

theorem listPage_spec {b b' : KvBackend D} {r : ListRequest} {snapshotToken : String}
    {afterKey next : Option String} {items : List KvListEntry} (hpositive : 1 ≤ r.limit)
    (h : b.listPage r snapshotToken afterKey = (.ok (items, next), b')) :
    PageOf (b.matching r.keyPrefix afterKey) r items next b' := by
  unfold listPage at h
  dsimp only at h
  rw [List.take_take, Nat.min_eq_left (Nat.le_succ r.limit)] at h
  generalize b.matching r.keyPrefix afterKey = rows at h ⊢
  obtain ⟨hinitial, hbytes, hall⟩ := takePage_spec r.maxListBytes (rows.take r.limit) 0 (Nat.zero_le _)
  generalize takePage r.maxListBytes 0 (rows.take r.limit) = page at h hinitial hbytes hall
  obtain ⟨pageItems, byteBreak⟩ := page
  dsimp only at h hinitial hbytes hall
  have hlimit : pageItems.length ≤ r.limit := by
    have := hinitial.length_le
    rw [List.length_take] at this
    omega
  have hrows : pageItems <+: rows := hinitial.trans (List.take_prefix _ _)
  rw [Nat.zero_add] at hbytes
  split at h
  · rename_i hlast
    have hnil : pageItems = [] := List.getLast?_eq_none_iff.mp hlast
    subst hnil
    split at h
    · cases h
    · rename_i hbreak
      have hempty : [] = rows.take r.limit := hall (by simpa using hbreak)
      have hnorows : rows = [] := by
        rcases List.take_eq_nil_iff.mp hempty.symm with hzero | hnorows
        · omega
        · exact hnorows
      cases h
      exact ⟨hrows, hlimit, hbytes, fun _ => hnorows.symm, nofun⟩
  · rename_i last hlast
    split at h
    · cases h
      refine ⟨hrows, hlimit, hbytes, nofun, fun token htoken => ⟨last, hlast, ?_⟩⟩
      exact ⟨_, ExtTreeMap.getElem?_insert_self, rfl⟩
    · rename_i hmore
      cases h
      refine ⟨hrows, hlimit, hbytes, fun _ => ?_, nofun⟩
      simp only [List.length_take, Bool.or_eq_true, decide_eq_true_eq, not_or, Bool.not_eq_true] at hmore
      obtain ⟨hshort, hbreak⟩ := hmore
      rw [hall hbreak]
      exact List.take_of_length_le (by omega)

/-- A list that succeeds returns a page of the live entries after the key its cursor continues from. -/
theorem list_spec {b b' : KvBackend D} (hkeys : b.KeysValid) {r : ListRequest} {afterKey next : Option String}
    {items : List KvListEntry} (hresumes : b.Resumes r.cursor afterKey)
    (h : b.list r = (.ok (items, next), b')) : PageOf (b.liveAfter r.keyPrefix afterKey) r items next b' := by
  unfold list at h
  split at h
  · cases h
  · split at h
    · cases h
    · rename_i hstarts
      split at h
      · cases h
      · rename_i hlimits
        split at h
        · cases h
        · rename_i snapshotToken afterKey' hresolve
          have hafter := hresumes.resolveCursor hresolve
          subst hafter
          have hpositive : 1 ≤ r.limit := by
            simp only [Bool.or_eq_true, decide_eq_true_eq, not_or] at hlimits
            omega
          have hvalid : isApplicationKey r.keyPrefix = true := by simpa using hstarts
          rw [← matching_eq_liveAfter hkeys hvalid]
          have hpage := listPage_spec hpositive h
          split at hpage
          · exact hpage
          · exact hpage

theorem list_entries (b : KvBackend D) (r : ListRequest) : (b.list r).2.entries = b.entries := (b.list_outcome r).1

theorem exists_mem_liveAfter {b : KvBackend D} {keyPrefix key : String} {afterKey : Option String}
    (hstarts : startsWith keyPrefix key = true) (hafter : afterKey.all (· < key) = true)
    (hlive : b.isLive key = true) : ∃ item ∈ b.liveAfter keyPrefix afterKey, item.key = key := by
  unfold isLive at hlive
  split at hlive
  · rename_i value version hentry
    refine ⟨⟨key, value, version⟩, List.mem_filter.mpr ⟨mem_liveUnder.mpr ⟨hstarts, hentry⟩, hafter⟩, rfl⟩
  · cases hlive

theorem liveAfter_ascending (b : KvBackend D) (keyPrefix : String) (afterKey : Option String) :
    (b.liveAfter keyPrefix afterKey).Pairwise fun x y => x.key < y.key :=
  (b.liveUnder_ascending keyPrefix).filter _

end KvBackend

/-! ## The chain -/

/-- The last entry of a page separates it from the rest of the candidates. -/
theorem last_separates {items rest : List KvListEntry} {last : KvListEntry}
    (hascending : (items ++ rest).Pairwise fun x y => x.key < y.key) (hlast : items.getLast? = some last) :
    (∀ item ∈ items, item = last ∨ item.key < last.key) ∧ ∀ item ∈ rest, last.key < item.key := by
  obtain ⟨init, rfl⟩ := List.getLast?_eq_some_iff.mp hlast
  obtain ⟨hitems, -, hcross⟩ := List.pairwise_append.mp hascending
  refine ⟨?_, fun item hitem => hcross last (by simp) item hitem⟩
  intro item hitem
  rcases List.mem_append.mp hitem with hinit | hsingle
  · exact .inr ((List.pairwise_append.mp hitems).2.2 item hinit last List.mem_cons_self)
  · exact .inl (List.mem_singleton.mp hsingle)

/-- A chain of pages that continues after a key. -/
structure ChainAfter (keyPrefix : String) (afterKey : Option String) (pages : List (KvPage D)) : Prop where
  valid : ∀ page ∈ pages, page.backend.KeysValid
  ascending : (concatenated pages).Pairwise fun x y => x.key < y.key
  beyond : ∀ item ∈ concatenated pages, afterKey.all (· < item.key) = true
  sound : ∀ page ∈ pages, ∀ item ∈ page.items, item ∈ page.backend.liveUnder keyPrefix
  complete : ∀ key, startsWith keyPrefix key = true → afterKey.all (· < key) = true →
    (∀ page ∈ pages, page.backend.isLive key = true) → ∃ item ∈ concatenated pages, item.key = key
  bounded : ∀ page ∈ pages, page.items.length ≤ page.request.limit ∧
    pageBytes page.items ≤ page.request.maxListBytes

theorem concatenated_cons (page : KvPage D) (pages : List (KvPage D)) :
    concatenated (page :: pages) = page.items ++ concatenated pages := List.flatMap_cons

open KvBackend in
/-- A page without a cursor ends the chain. -/
theorem ChainAfter.last {b b' : KvBackend D} (hkeys : b.KeysValid) {r : ListRequest} {afterKey : Option String}
    {items : List KvListEntry} (hpage : PageOf (b.liveAfter r.keyPrefix afterKey) r items none b') :
    ChainAfter r.keyPrefix afterKey [⟨b, r, items⟩] := by
  have hitems : concatenated [(⟨b, r, items⟩ : KvPage D)] = b.liveAfter r.keyPrefix afterKey := by
    rw [concatenated_cons, ← hpage.last rfl]
    exact List.append_nil _
  refine ⟨fun page hmem => List.mem_singleton.mp hmem ▸ hkeys, ?_, ?_, ?_, ?_, ?_⟩
  · rw [hitems]
    exact b.liveAfter_ascending r.keyPrefix afterKey
  · intro item hitem
    rw [hitems] at hitem
    exact (List.mem_filter.mp hitem).2
  · intro page hmem item hitem
    obtain rfl := List.mem_singleton.mp hmem
    exact (List.mem_filter.mp (hpage.initial.subset hitem)).1
  · intro key hstarts hafter hlive
    rw [hitems]
    exact exists_mem_liveAfter hstarts hafter (hlive _ List.mem_cons_self)
  · intro page hmem
    obtain rfl := List.mem_singleton.mp hmem
    exact ⟨hpage.limit, hpage.bytes⟩

open KvBackend in
/-- A page with a cursor precedes the chain that continues after its last key. -/
theorem ChainAfter.cons {b b' : KvBackend D} (hkeys : b.KeysValid) {r : ListRequest}
    {afterKey next : Option String} {items : List KvListEntry} {last : KvListEntry} {pages : List (KvPage D)}
    (hpage : PageOf (b.liveAfter r.keyPrefix afterKey) r items next b') (hlast : items.getLast? = some last)
    (hrest : ChainAfter r.keyPrefix (some last.key) pages) :
    ChainAfter r.keyPrefix afterKey (⟨b, r, items⟩ :: pages) := by
  obtain ⟨left, hrows⟩ := hpage.initial
  have hascending := b.liveAfter_ascending r.keyPrefix afterKey
  rw [← hrows] at hascending
  obtain ⟨hbefore, hbehind⟩ := last_separates hascending hlast
  have hmem : ∀ item ∈ items, item ∈ b.liveAfter r.keyPrefix afterKey := hpage.initial.subset
  have hbeyond : ∀ item ∈ concatenated pages, last.key < item.key := by
    intro item hitem
    simpa using hrest.beyond item hitem
  have hafterLast : afterKey.all (· < last.key) = true :=
    (List.mem_filter.mp (hmem last (List.mem_of_getLast? hlast))).2
  refine ⟨?_, ?_, ?_, ?_, ?_, ?_⟩
  · intro page hpages
    rcases List.mem_cons.mp hpages with rfl | hpages
    · exact hkeys
    · exact hrest.valid page hpages
  · rw [concatenated_cons]
    refine List.pairwise_append.mpr ⟨(List.pairwise_append.mp hascending).1, hrest.ascending, ?_⟩
    intro x hx y hy
    rcases hbefore x hx with rfl | hlt
    · exact hbeyond y hy
    · exact String.lt_trans hlt (hbeyond y hy)
  · intro item hitem
    rw [concatenated_cons] at hitem
    rcases List.mem_append.mp hitem with hitem | hitem
    · exact (List.mem_filter.mp (hmem item hitem)).2
    · cases afterKey with
      | none => rfl
      | some key =>
        have hkey : key < last.key := by simpa using hafterLast
        simpa using String.lt_trans hkey (hbeyond item hitem)
  · intro page hpages item hitem
    rcases List.mem_cons.mp hpages with rfl | hpages
    · exact (List.mem_filter.mp (hmem item hitem)).1
    · exact hrest.sound page hpages item hitem
  · intro key hstarts hafter hlive
    rw [concatenated_cons]
    obtain ⟨item, hitem, hkey⟩ := exists_mem_liveAfter hstarts hafter (hlive _ List.mem_cons_self)
    rw [← hrows] at hitem
    -- the candidate is on this page, or lies behind its last key
    rcases List.mem_append.mp hitem with hitem | hitem
    · exact ⟨item, List.mem_append_left _ hitem, hkey⟩
    · have hlt : last.key < key := hkey ▸ hbehind item hitem
      obtain ⟨item', hitem', hkey'⟩ := hrest.complete key hstarts (by simpa using hlt)
        fun page hpages => hlive page (List.mem_cons_of_mem _ hpages)
      exact ⟨item', List.mem_append_right _ hitem', hkey'⟩
  · intro page hpages
    rcases List.mem_cons.mp hpages with rfl | hpages
    · exact ⟨hpage.limit, hpage.bytes⟩
    · exact hrest.bounded page hpages

open KvBackend in
/-- The rest of the candidates are the live entries after the last key of the page. -/
theorem items_append_liveAfter {b b' : KvBackend D} {r : ListRequest} {afterKey next : Option String}
    {items : List KvListEntry} {last : KvListEntry}
    (hpage : PageOf (b.liveAfter r.keyPrefix afterKey) r items next b') (hlast : items.getLast? = some last) :
    items ++ b.liveAfter r.keyPrefix (some last.key) = b.liveAfter r.keyPrefix afterKey := by
  obtain ⟨left, hrows⟩ := hpage.initial
  have hascending := b.liveAfter_ascending r.keyPrefix afterKey
  rw [← hrows] at hascending
  obtain ⟨hbefore, hbehind⟩ := last_separates hascending hlast
  have hafterLast : afterKey.all (· < last.key) = true :=
    (List.mem_filter.mp (hpage.initial.subset (List.mem_of_getLast? hlast))).2
  have hsame : b.liveAfter r.keyPrefix (some last.key) =
      (b.liveAfter r.keyPrefix afterKey).filter fun item => decide (last.key < item.key) := by
    unfold liveAfter
    rw [List.filter_filter]
    refine List.filter_congr fun item _ => ?_
    rw [Option.all_some]
    by_cases hlt : last.key < item.key
    · cases afterKey with
      | none => rw [decide_eq_true hlt, Option.all_none, Bool.and_true]
      | some key =>
        have hkey : key < last.key := of_decide_eq_true hafterLast
        rw [decide_eq_true hlt, Option.all_some, decide_eq_true (String.lt_trans hkey hlt), Bool.and_true]
    · rw [decide_eq_false hlt, Bool.false_and]
  have hitems : items.filter (fun item => decide (last.key < item.key)) = [] := by
    refine List.filter_eq_nil_iff.mpr fun item hitem => ?_
    rw [decide_eq_true_eq]
    rcases hbefore item hitem with rfl | hlt
    · exact String.lt_irrefl _
    · exact String.lt_asymm hlt
  have hleft : left.filter (fun item => decide (last.key < item.key)) = left :=
    List.filter_eq_self.mpr fun item hitem => decide_eq_true (hbehind item hitem)
  rw [hsame, ← hrows, List.filter_append, hitems, hleft, List.nil_append]

section Chain

variable [DecidableEq D] (proofDigest : QuotaReservationProofPayloadV2 → D)

/-- The mutations of others keep the cursors. -/
theorem KvStore.afterWrites_spec (writes : List KvWrite) (s : KvStore D) (hkeys : s.backend.KeysValid) :
    (s.afterWrites proofDigest writes).backend.KeysValid ∧
      (s.afterWrites proofDigest writes).backend.cursors = s.backend.cursors := by
  induction writes generalizing s with
  | nil => exact ⟨hkeys, rfl⟩
  | cons write rest ih =>
    have hstep : ((write.call.perform proofDigest s).2 : KvStore D).backend.cursors = s.backend.cursors := by
      cases write with
      | set c key value expected => exact (s.backend.set_mutatesOnly proofDigest s.ledger c key value expected).1.cursors
      | delete c key expected => exact (s.backend.delete_mutatesOnly proofDigest s.ledger c key expected).1.cursors
    obtain ⟨hvalid, hcursors⟩ := ih _ (write.call.perform_keysValid proofDigest s hkeys)
    exact ⟨hvalid, hcursors.trans hstep⟩

theorem followCursors_spec {keyPrefix : String} {s : KvStore D} {cursor afterKey : Option String}
    {steps : List (List KvWrite × KvBackend.ListRequest)} {pages : List (KvPage D)}
    (hkeys : s.backend.KeysValid) (hresumes : s.backend.Resumes cursor afterKey)
    (h : followCursors proofDigest keyPrefix s cursor steps = some pages) :
    ChainAfter keyPrefix afterKey pages ∧
      ((∀ step ∈ steps, step.1 = []) → concatenated pages = s.backend.liveAfter keyPrefix afterKey) := by
  induction steps generalizing s cursor afterKey pages with
  | nil => cases h
  | cons step rest ih =>
    obtain ⟨writes, request⟩ := step
    unfold followCursors at h
    dsimp only at h
    obtain ⟨hvalid, hcursors⟩ := s.afterWrites_spec proofDigest writes hkeys
    have hquiet : (∀ step ∈ (writes, request) :: rest, step.1 = []) → s.afterWrites proofDigest writes = s := by
      intro hnone
      have hwrites : writes = [] := hnone _ List.mem_cons_self
      subst hwrites
      rfl
    generalize s.afterWrites proofDigest writes = current at h hvalid hcursors hquiet
    have hcurrent : current.backend.Resumes cursor afterKey := by
      unfold KvBackend.Resumes
      rw [hcursors]
      exact hresumes
    have hsame := current.backend.list_entries { request with keyPrefix, cursor }
    split at h
    · cases h
    · rename_i items b' hlist
      cases h
      have hpage := KvBackend.list_spec hvalid hcurrent hlist
      refine ⟨ChainAfter.last hvalid hpage, fun hnone => ?_⟩
      rw [concatenated_cons, ← hquiet hnone, ← hpage.last rfl]
      exact List.append_nil _
    · rename_i items token b' hlist
      have hpage := KvBackend.list_spec hvalid hcurrent hlist
      rw [hlist] at hsame
      obtain ⟨later, hlater, rfl⟩ := Option.map_eq_some_iff.mp h
      obtain ⟨last, hlast, hcontinues⟩ := hpage.continues token rfl
      have hkeys' : b'.KeysValid := KvBackend.SameEntries.keysValid hsame hvalid
      obtain ⟨hchain, hall⟩ := ih (s := { current with backend := b' }) hkeys' hcontinues hlater
      refine ⟨ChainAfter.cons hvalid hpage hlast hchain, fun hnone => ?_⟩
      have hrest := hall fun step hstep => hnone step (List.mem_cons_of_mem _ hstep)
      have hsameLive : b'.liveAfter keyPrefix (some last.key) =
          current.backend.liveAfter keyPrefix (some last.key) := by
        unfold KvBackend.liveAfter KvBackend.liveUnder
        rw [show b'.entries = current.backend.entries from hsame]
      rw [concatenated_cons, hrest, hsameLive, ← hquiet hnone]
      exact items_append_liveAfter hpage hlast

omit [DecidableEq D] in
theorem ChainAfter.count_eq_one {keyPrefix key : String} {pages : List (KvPage D)}
    (hchain : ChainAfter keyPrefix none pages) (hstarts : startsWith keyPrefix key = true)
    (hlive : ∀ page ∈ pages, page.backend.isLive key = true) :
    ((concatenated pages).map KvListEntry.key).count key = 1 := by
  have hnodup : ((concatenated pages).map KvListEntry.key).Nodup :=
    List.Pairwise.map KvListEntry.key (fun _ _ hlt => String.ne_of_lt hlt) hchain.ascending
  obtain ⟨item, hitem, hkey⟩ := hchain.complete key hstarts rfl hlive
  exact List.count_eq_one_of_mem hnodup (List.mem_map.mpr ⟨item, hitem, hkey⟩)

/-- A reader that follows its cursors to the end, whatever other callers write meanwhile, reads ascending
keys of the prefix, each live when its page was read, and every key that stays live once; if nothing is
written it reads the live entries of the prefix. -/
theorem kv_pagination_complete (applicationId digest : String) (calls : List (KvCall D)) (keyPrefix : String)
    (steps : List (List KvWrite × KvBackend.ListRequest)) (pages : List (KvPage D)) :
    let s := (run (KvHistory.step proofDigest) (KvHistory.start applicationId digest) calls).store
    followCursors proofDigest keyPrefix s none steps = some pages →
      Paginated keyPrefix pages ∧
        ((∀ step ∈ steps, step.1 = []) → concatenated pages = s.backend.liveUnder keyPrefix) := by
  intro s h
  have hkeys : s.backend.KeysValid := keysValid_run proofDigest applicationId digest calls
  have hstart : s.backend.Resumes none none := rfl
  obtain ⟨hchain, hall⟩ := followCursors_spec proofDigest hkeys hstart h
  refine ⟨⟨?_, ?_, ?_, hchain.bounded⟩, fun hnone => ?_⟩
  · have hascii : ∀ item ∈ concatenated pages, IsAscii item.key := by
      intro item hitem
      obtain ⟨page, hpage, hitem⟩ := List.mem_flatMap.mp hitem
      obtain ⟨-, hentry⟩ := KvBackend.mem_liveUnder.mp (hchain.sound page hpage item hitem)
      exact isAscii_of_isApplicationKey (hchain.valid page hpage item.key _ hentry)
    refine hchain.ascending.imp_of_mem ?_
    intro x y hx hy hlt
    exact ((hascii x hx).lt_iff (hascii y hy)).mp hlt
  · exact fun page hpage item hitem => KvBackend.mem_liveUnder.mp (hchain.sound page hpage item hitem)
  · exact fun key hstarts hlive => hchain.count_eq_one hstarts hlive
  · rw [hall hnone]
    exact List.filter_eq_self.mpr fun _ _ => rfl

end Chain

/-- Three keys of a prefix and one besides. -/
def seededKeys : List (KvCall QuotaReservationProofPayloadV2) :=
  [.set (kvContext "1" 0) "c.1" [1] none, .set (kvContext "2" 0) "c.2" [2] none,
    .set (kvContext "3" 0) "c.3" [3] none, .set (kvContext "4" 0) "d" [4] none]

/-- Pages of one entry; after the first, another caller deletes its key, overwrites the next one and adds one
behind. -/
def interleavedPages : List (List KvWrite × KvBackend.ListRequest) :=
  let request := fun token : String =>
    (⟨"c.", none, 1, 256, 65536, 1000, 10, false, "snapshot", token⟩ : KvBackend.ListRequest)
  [([], request "first"),
    ([.delete (kvContext "5" 10) "c.1" none, .set (kvContext "6" 10) "c.2" [5] none,
      .set (kvContext "7" 10) "c.4" [6] none], request "second"),
    ([], request "third"), ([], request "fourth")]

theorem kv_pagination_complete_interleaved :
    let s := (run (KvHistory.step id) (KvHistory.start "alpha" "cd") seededKeys).store
    ∃ pages, followCursors id "c." s none interleavedPages = some pages ∧ Paginated "c." pages ∧
      concatenated pages = [⟨"c.1", [1], 1⟩, ⟨"c.2", [5], 2⟩, ⟨"c.3", [3], 1⟩, ⟨"c.4", [6], 1⟩] := by
  intro s
  have hitems : (followCursors id "c." s none interleavedPages).map concatenated =
      some [⟨"c.1", [1], 1⟩, ⟨"c.2", [5], 2⟩, ⟨"c.3", [3], 1⟩, ⟨"c.4", [6], 1⟩] := by decide +kernel
  obtain ⟨pages, hpages, hread⟩ := Option.map_eq_some_iff.mp hitems
  exact ⟨pages, hpages, (kv_pagination_complete id "alpha" "cd" seededKeys "c." interleavedPages pages hpages).1,
    hread⟩

end Iweb
