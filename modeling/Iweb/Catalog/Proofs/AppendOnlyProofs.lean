import Iweb.Catalog.Proofs.StoreProofs
import Iweb.Foundations.CrashRefinement

/-!
# The history of the catalog only grows

Along calls that keep the history, the current revision goes up, a revision number stays with its catalog,
a revoked key stays revoked, and a deletion takes only what is released and past. The contract's own checks
look at the revision before and at one receipt; the conditions here are what they leave out.
-/

namespace Iweb

open CrashHoare CrashRefinement WasmCatalogStore

variable {R : CatalogRules}

/-! ## The law -/

def RuntimeCatalogV1.Revokes (catalog : RuntimeCatalogV1) (entryKey : String) : Prop :=
  ∃ entry ∈ catalog.entries, entry.entryKey = entryKey ∧ entry.isRevoked = true

def RuntimeCatalogV1.Activates (catalog : RuntimeCatalogV1) (entryKey : String) : Prop :=
  ∃ entry ∈ catalog.entries, entry.entryKey = entryKey ∧ entry.isRevoked = false

instance (catalog : RuntimeCatalogV1) (entryKey : String) : Decidable (catalog.Revokes entryKey) :=
  inferInstanceAs (Decidable (∃ entry ∈ catalog.entries, entry.entryKey = entryKey ∧ entry.isRevoked = true))

instance (catalog : RuntimeCatalogV1) (entryKey : String) : Decidable (catalog.Activates entryKey) :=
  inferInstanceAs (Decidable (∃ entry ∈ catalog.entries, entry.entryKey = entryKey ∧ entry.isRevoked = false))

/-- The store answers `current()` with a catalog. -/
def ReportsCurrent (R : CatalogRules) (disk : CatalogDisk) (catalog : RuntimeCatalogV1) : Prop :=
  ∃ now, (WasmCatalogStore.current R now disk).result = .ok (some catalog)

/-- `checkBindingUsable` accepts a binding for some architecture. -/
def AcceptsBinding (R : CatalogRules) (disk : CatalogDisk) (binding : RuntimeBindingIdentityV1) : Prop :=
  ∃ architecture now entry, (checkBindingUsable R binding architecture now disk).result = .ok entry

/-- `checkBindingUsable` refuses a binding as released or revoked. -/
def RefusesBinding (R : CatalogRules) (disk : CatalogDisk) (binding : RuntimeBindingIdentityV1) : Prop :=
  ∃ architecture now code issues,
    (checkBindingUsable R binding architecture now disk).result = .error (.refused code issues) ∧
      (code = wasmRuntimeBindingReleased ∨ code = wasmRuntimeBindingRevoked)

/-- The store after the first calls of a history. -/
def storeAfter (calls : List (CatalogCall R)) (n : Nat) : CatalogDisk := run (perform R) .empty (calls.take n)

/-- The laws of a history of calls on an empty store. -/
structure AppendOnlyHistory (calls : List (CatalogCall R)) : Prop where
  /-- The current revision never decreases. -/
  current_monotone : ∀ i j catalog catalog', i ≤ j → ReportsCurrent R (storeAfter calls i) catalog →
    ReportsCurrent R (storeAfter calls j) catalog' → catalog.revision ≤ catalog'.revision
  /-- A revision number belongs to one catalog. -/
  revision_unique : ∀ i j, ∀ record ∈ (storeAfter calls i).revisions.contents,
    ∀ record' ∈ (storeAfter calls j).revisions.contents,
      record.revision = record'.revision → record.catalog = record'.catalog
  /-- A deletion takes neither the current revision nor one under an unelapsed retention. -/
  gc_spares : ∀ i input clock, calls[i]? = some (.gc input clock) →
    ∀ record ∈ (storeAfter calls i).revisions.contents, record ∉ (storeAfter calls (i + 1)).revisions.contents →
      (∀ catalog, ReportsCurrent R (storeAfter calls i) catalog → record.catalog ≠ catalog) ∧
      ∀ receipt ∈ (storeAfter calls i).releaseReceipts.contents, receipt.catalogRevision = record.revision →
        receipt.catalogHash = record.catalogHash → retentionElapsed R input.deletedAt receipt = true
  /-- A key revoked in one revision is not active in a later one. -/
  revoked_forever : ∀ i j entryKey, ∀ record ∈ (storeAfter calls i).revisions.contents,
    ∀ record' ∈ (storeAfter calls j).revisions.contents, record.revision < record'.revision →
      record.catalog.Revokes entryKey → ¬ record'.catalog.Activates entryKey
  /-- A binding refused as released or revoked is never accepted again. -/
  refused_forever : ∀ i j binding, i ≤ j → RefusesBinding R (storeAfter calls i) binding →
    ¬ AcceptsBinding R (storeAfter calls j) binding

/-! ## The calls that keep the history -/

/-- The record of the highest revision. -/
def topRecord (disk : CatalogDisk) : Option CatalogHistoryRecordV1 := (sortRecords disk.revisions.contents).getLast?

/-- A revoked entry of the current revision that no reference protects is not dropped, unless the call does
not propose a valid revision next to the current one. -/
def appendKeepsHistory (R : CatalogRules) (disk : CatalogDisk) (expected : RuntimeCatalogRevisionPinV1)
    (next : RuntimeCatalogPayloadV1) (references : CatalogReferences) : Bool :=
  match topRecord disk with
  | none => true
  | some top => decide (expected ≠ ⟨top.revision, top.catalogHash⟩) ||
      decide (requireRuntimeCatalogPayload R next ≠ []) || next.revision != top.revision + 1 ||
      top.catalog.entries.all fun entry => !entry.isRevoked ||
        (protectedRuntimeCatalogEntryKeys references.val).contains entry.entryKey ||
        (next.entries.map RuntimeCatalogEntryV1.entryKey).contains entry.entryKey

/-- A deletion that the checks let through is not of the current revision, and every receipt of the revision
is past its retention. -/
def gcKeepsHistory (R : CatalogRules) (disk : CatalogDisk) (input : WasmCatalogGcInput) : Bool :=
  match disk.releaseReceipts.contents.find? fun receipt => receipt.releaseId == input.releaseId with
  | none => true
  | some receipt =>
    match disk.revisions.contents.find? fun record =>
        record.revision == receipt.catalogRevision && record.catalogHash == receipt.catalogHash with
    | none => true
    | some record =>
      decide (requireGcFields R input.deleteId input.ownerCommandId input.deletedAt input.reason ≠ []) ||
        disk.revisions.contents.length == 1 || pinsRevision input.references.val record.revision ||
        !retentionElapsed R input.deletedAt receipt ||
        (decide (topRecord disk ≠ some record) && disk.releaseReceipts.contents.all fun other =>
          other.catalogRevision != record.revision || other.catalogHash != record.catalogHash ||
            retentionElapsed R input.deletedAt other)

/-- The condition on a call and the store before it. -/
def keepsHistory (disk : CatalogDisk) : CatalogCall R → Bool
  | .append expected next references _ => appendKeepsHistory R disk expected next references
  | .gc input _ => gcKeepsHistory R disk input
  | _ => true

/-! ## What grows -/

/-- Among the records of a store, a revision has one record, a key has one entry in a catalog, and what a
revision revokes every later one does. -/
structure HistoryInv (records : List CatalogHistoryRecordV1) : Prop where
  unique : ∀ record ∈ records, ∀ record' ∈ records, record.revision = record'.revision → record = record'
  keys : ∀ record ∈ records, ∀ entry ∈ record.catalog.entries, ∀ entry' ∈ record.catalog.entries,
    entry.entryKey = entry'.entryKey → entry = entry'
  revoked : ∀ record ∈ records, ∀ record' ∈ records, record.revision < record'.revision →
    ∀ entryKey, record.catalog.Revokes entryKey → record'.catalog.Revokes entryKey

/-- A later store: each record is an old one or of a higher revision that keeps all revocations, and every
old record is still there or below another. -/
structure Grows (records records' : List CatalogHistoryRecordV1) : Prop where
  above : ∀ record' ∈ records', record' ∈ records ∨ ∀ record ∈ records, record.revision < record'.revision ∧
    ∀ entryKey, record.catalog.Revokes entryKey → record'.catalog.Revokes entryKey
  reached : ∀ record ∈ records, ∃ record' ∈ records', record.revision ≤ record'.revision ∧
    (record.revision = record'.revision → record = record')

theorem Grows.refl (records : List CatalogHistoryRecordV1) : Grows records records :=
  ⟨fun _ h => .inl h, fun record h => ⟨record, h, le_refl _, fun _ => rfl⟩⟩

theorem Grows.trans {a b c : List CatalogHistoryRecordV1} (ha : HistoryInv a) (h : Grows a b) (h' : Grows b c) :
    Grows a c := by
  constructor
  · intro last hlast
    rcases h'.above last hlast with hb | hnew
    · exact h.above last hb
    · refine .inr fun record hrecord => ?_
      obtain ⟨middle, hmiddle, hle, heq⟩ := h.reached record hrecord
      obtain ⟨hlt, hrevoked⟩ := hnew middle hmiddle
      refine ⟨lt_of_le_of_lt hle hlt, fun entryKey hkey => hrevoked entryKey ?_⟩
      rcases h.above middle hmiddle with hold | hfresh
      · rcases Nat.lt_or_eq_of_le hle with hlt' | heq'
        · exact ha.revoked record hrecord middle hold hlt' entryKey hkey
        · exact heq heq' ▸ hkey
      · exact (hfresh record hrecord).2 entryKey hkey
  · intro record hrecord
    obtain ⟨middle, hmiddle, hle, heq⟩ := h.reached record hrecord
    obtain ⟨last, hlast, hle', heq'⟩ := h'.reached middle hmiddle
    refine ⟨last, hlast, le_trans hle hle', fun hsame => ?_⟩
    have hmid : record.revision = middle.revision := le_antisymm hle (hsame ▸ hle')
    exact (heq hmid).trans (heq' (hmid ▸ hsame))

/-- A new record above all others that keeps their revocations. -/
theorem HistoryInv.add {records records' : List CatalogHistoryRecordV1} {new : CatalogHistoryRecordV1}
    (h : HistoryInv records) (hmem : ∀ record, record ∈ records' ↔ record = new ∨ record ∈ records)
    (habove : ∀ record ∈ records, record.revision < new.revision ∧
      ∀ entryKey, record.catalog.Revokes entryKey → new.catalog.Revokes entryKey)
    (hkeys : ∀ entry ∈ new.catalog.entries, ∀ entry' ∈ new.catalog.entries,
      entry.entryKey = entry'.entryKey → entry = entry') :
    HistoryInv records' ∧ Grows records records' := by
  refine ⟨⟨?_, ?_, ?_⟩, ⟨?_, ?_⟩⟩
  · intro record hrecord record' hrecord' heq
    rcases (hmem record).mp hrecord with rfl | hold
    · rcases (hmem record').mp hrecord' with rfl | hold'
      · rfl
      · exact absurd heq (Nat.ne_of_gt (habove record' hold').1)
    · rcases (hmem record').mp hrecord' with rfl | hold'
      · exact absurd heq (Nat.ne_of_lt (habove record hold).1)
      · exact h.unique record hold record' hold' heq
  · intro record hrecord
    rcases (hmem record).mp hrecord with rfl | hold
    · exact hkeys
    · exact h.keys record hold
  · intro record hrecord record' hrecord' hlt
    rcases (hmem record').mp hrecord' with rfl | hold'
    · rcases (hmem record).mp hrecord with rfl | hold
      · exact absurd hlt (Nat.lt_irrefl _)
      · exact (habove record hold).2
    · rcases (hmem record).mp hrecord with rfl | hold
      · exact absurd hlt (Nat.not_lt_of_lt (habove record' hold').1)
      · exact h.revoked record hold record' hold' hlt
  · intro record' hrecord'
    rcases (hmem record').mp hrecord' with rfl | hold
    · exact .inr habove
    · exact .inl hold
  · intro record hrecord
    exact ⟨record, (hmem record).mpr (.inr hrecord), le_refl _, fun _ => rfl⟩

/-- A record below another one is taken away. -/
theorem HistoryInv.remove {records records' : List CatalogHistoryRecordV1} {old top : CatalogHistoryRecordV1}
    (h : HistoryInv records) (hmem : ∀ record, record ∈ records' ↔ record ∈ records ∧ record ≠ old)
    (htop : top ∈ records) (hlt : old.revision < top.revision) :
    HistoryInv records' ∧ Grows records records' := by
  have hsub : ∀ record ∈ records', record ∈ records := fun record hrecord => ((hmem record).mp hrecord).1
  refine ⟨⟨?_, ?_, ?_⟩, ⟨fun record hrecord => .inl (hsub record hrecord), ?_⟩⟩
  · exact fun record hrecord record' hrecord' =>
      h.unique record (hsub record hrecord) record' (hsub record' hrecord')
  · exact fun record hrecord => h.keys record (hsub record hrecord)
  · exact fun record hrecord record' hrecord' =>
      h.revoked record (hsub record hrecord) record' (hsub record' hrecord')
  · intro record hrecord
    by_cases hold : record = old
    · subst hold
      have hne : top ≠ record := fun heq => Nat.lt_irrefl _ (heq ▸ hlt)
      exact ⟨top, (hmem top).mpr ⟨htop, hne⟩, Nat.le_of_lt hlt, fun heq => absurd heq (Nat.ne_of_lt hlt)⟩
    · exact ⟨record, (hmem record).mpr ⟨hrecord, hold⟩, le_refl _, fun _ => rfl⟩

/-! ## The contract's checks -/

theorem requireEntryOrder_eq_nil {path : String} {entries : List RuntimeCatalogEntryV1}
    (h : requireEntryOrder path entries = []) :
    entries.Pairwise fun entry next => bytes entry.entryKey < bytes next.entryKey := by
  induction entries with
  | nil => exact .nil
  | cons entry rest ih =>
    cases rest with
    | nil => exact List.pairwise_singleton _ _
    | cons next rest =>
      unfold requireEntryOrder at h
      split at h
      next => cases h
      next =>
        split at h
        next hlt =>
          have hrest := ih h
          refine List.pairwise_cons.mpr ⟨?_, hrest⟩
          intro other hother
          rcases List.mem_cons.mp hother with rfl | hother
          · exact hlt
          · exact List.lt_trans hlt ((List.pairwise_cons.mp hrest).1 other hother)
        next => cases h

/-- A key has one entry in a valid catalog. -/
theorem entry_unique {payload : RuntimeCatalogPayloadV1} (h : requireRuntimeCatalogPayload R payload = []) :
    ∀ entry ∈ payload.entries, ∀ entry' ∈ payload.entries, entry.entryKey = entry'.entryKey → entry = entry' := by
  have horder : payload.entries.Pairwise fun entry next => bytes entry.entryKey < bytes next.entryKey := by
    simp only [requireRuntimeCatalogPayload, List.append_eq_nil_iff, requireRuntimeCatalogEntries] at h
    obtain ⟨-, h⟩ := h
    split at h
    next => cases h
    next =>
      split at h
      next hne => exact absurd h hne
      next => exact requireEntryOrder_eq_nil h
  have hnodup : (payload.entries.map RuntimeCatalogEntryV1.entryKey).Nodup := by
    rw [List.Nodup, List.pairwise_map]
    refine horder.imp ?_
    intro entry next hlt heq
    rw [heq] at hlt
    exact List.lt_irrefl _ hlt
  exact fun entry hentry entry' hentry' heq => List.inj_on_of_nodup_map hnodup hentry hentry' heq

theorem appendRuntimeCatalogRevision_eq_ok {current catalog : RuntimeCatalogV1}
    {expected : RuntimeCatalogRevisionPinV1} {next : RuntimeCatalogPayloadV1}
    {references : List WasmCatalogEntryReferenceV1}
    (h : appendRuntimeCatalogRevision R current expected next references = .ok catalog) :
    expected = ⟨current.revision, current.catalogHash⟩ ∧ next.revision = current.revision + 1 ∧
      requireRuntimeCatalogPayload R next = [] ∧
      requireProtectedEntries current.entries next.entries references = [] ∧
      requireRevocationsKept current.entries next.entries = [] ∧ next.withHash R = catalog := by
  unfold appendRuntimeCatalogRevision at h
  obtain ⟨-, h⟩ := ite_failure_eq_ok.mp h
  split at h
  next => cases h
  next hpin =>
    obtain ⟨hpayload, h⟩ := ite_failure_eq_ok.mp h
    split at h
    next => cases h
    next hrevision =>
      obtain ⟨hissues, rfl⟩ := acceptUnless_eq_ok.mp h
      rw [List.append_eq_nil_iff] at hissues
      obtain ⟨hexpected, hhash⟩ := not_or.mp hpin
      refine ⟨?_, not_not.mp hrevision, hpayload, hissues.1, hissues.2, rfl⟩
      rw [← not_not.mp hexpected, ← not_not.mp hhash]

/-- A protected entry is in the next revision. -/
theorem protected_kept {current next : List RuntimeCatalogEntryV1} {references : List WasmCatalogEntryReferenceV1}
    (h : requireProtectedEntries current next references = []) {entry : RuntimeCatalogEntryV1}
    (hentry : entry ∈ current)
    (hprotected : (protectedRuntimeCatalogEntryKeys references).contains entry.entryKey = true) :
    (next.map RuntimeCatalogEntryV1.entryKey).contains entry.entryKey = true := by
  have hissue := List.flatMap_eq_nil_iff.mp h entry hentry
  rw [issueUnless_eq_nil, hprotected] at hissue
  simpa using hissue

/-- A revoked entry whose key is in the next revision is revoked there. -/
theorem revocation_kept {current next : List RuntimeCatalogEntryV1} (h : requireRevocationsKept current next = [])
    {entry : RuntimeCatalogEntryV1} (hentry : entry ∈ current) (hrevoked : entry.isRevoked = true)
    (hkept : (next.map RuntimeCatalogEntryV1.entryKey).contains entry.entryKey = true) :
    ∃ kept ∈ next, kept.entryKey = entry.entryKey ∧ kept.isRevoked = true := by
  have hissue := List.flatMap_eq_nil_iff.mp h entry hentry
  rw [List.contains_iff_mem, List.mem_map] at hkept
  obtain ⟨found, hfound, hkey⟩ := hkept
  cases hstatus : entry.status with
  | active =>
    rw [RuntimeCatalogEntryV1.isRevoked, hstatus] at hrevoked
    cases hrevoked
  | revoked revocation =>
    rw [hstatus] at hissue
    dsimp only at hissue
    split at hissue
    next hnone => exact absurd (beq_iff_eq.mpr hkey) (List.find?_eq_none.mp hnone found hfound)
    next kept hfind =>
      rw [issueUnless_eq_nil, beq_iff_eq] at hissue
      refine ⟨kept, List.mem_of_find?_eq_some hfind, by simpa using List.find?_some hfind, ?_⟩
      rw [RuntimeCatalogEntryV1.isRevoked, hissue]

/-- Revoking an entry leaves the revoked ones revoked. -/
theorem revokeEntry_kept {entries : List RuntimeCatalogEntryV1} {entryKey : String}
    {revocation : RuntimeCatalogRevocationV1} {entry : RuntimeCatalogEntryV1} (hentry : entry ∈ entries)
    (hrevoked : entry.isRevoked = true) :
    ∃ kept ∈ revokeEntry entries entryKey revocation, kept.entryKey = entry.entryKey ∧ kept.isRevoked = true := by
  refine ⟨_, List.mem_map_of_mem hentry, ?_⟩
  by_cases h : entry.entryKey = entryKey
  · rw [if_pos h]
    exact ⟨rfl, rfl⟩
  · rw [if_neg h]
    exact ⟨rfl, hrevoked⟩

/-! ## One call -/

theorem isTop_unique {records : List CatalogHistoryRecordV1} (h : HistoryInv records)
    {top top' : CatalogHistoryRecordV1} (htop : IsTop records top) (htop' : IsTop records top') : top = top' :=
  h.unique top htop.1 top' htop'.1 (le_antisymm (htop'.2 top htop.1) (htop.2 top' htop'.1))

theorem exists_topRecord {disk : CatalogDisk} {record : CatalogHistoryRecordV1}
    (h : record ∈ disk.revisions.contents) :
    ∃ top, topRecord disk = some top ∧ IsTop disk.revisions.contents top := by
  cases hlast : topRecord disk with
  | none =>
    have hnil := List.getLast?_eq_none_iff.mp hlast
    exact absurd (hnil ▸ mem_sortRecords.mpr h) List.not_mem_nil
  | some top => exact ⟨top, rfl, isTop_getLast?_sortRecords hlast⟩

theorem topRecord_eq {disk : CatalogDisk} (h : HistoryInv disk.revisions.contents) {top : CatalogHistoryRecordV1}
    (htop : IsTop disk.revisions.contents top) : topRecord disk = some top := by
  obtain ⟨top', heq, htop'⟩ := exists_topRecord htop.1
  rw [heq, isTop_unique h htop htop']

/-- A record that a later one follows revokes what that one does, if it does what the highest one does. -/
theorem revokes_of_top {records : List CatalogHistoryRecordV1} (h : HistoryInv records)
    {top record : CatalogHistoryRecordV1} (htop : IsTop records top) (hrecord : record ∈ records)
    {entryKey : String} (hrevokes : record.catalog.Revokes entryKey) : top.catalog.Revokes entryKey := by
  rcases Nat.lt_or_eq_of_le (htop.2 record hrecord) with hlt | heq
  · exact h.revoked record hrecord top htop.1 hlt entryKey hrevokes
  · exact h.unique record hrecord top htop.1 heq ▸ hrevokes

/-- The record of the next revision goes on top. -/
theorem putRecord_grows {disk : CatalogDisk} (hinv : HistoryInv disk.revisions.contents)
    (hfiles : CatalogFiles R disk) {top record : CatalogHistoryRecordV1} (htop : IsTop disk.revisions.contents top)
    (hnew : NewRecord R disk record.catalog record)
    (hrevision : record.catalog.revision = top.catalog.revision + 1)
    (hrevokes : ∀ entryKey, top.catalog.Revokes entryKey → record.catalog.Revokes entryKey) :
    HistoryInv (disk.putRecord record).revisions.contents ∧
      Grows disk.revisions.contents (disk.putRecord record).revisions.contents := by
  have htopRevision := (hfiles.valid top htop.1).revision
  have hvalid := (validateRuntimeCatalogV1_eq_ok.mp hnew.valid.catalog_valid).2.2.1
  refine hinv.add (fun _ => mem_putRecord hfiles hnew.fresh) ?_ (entry_unique hvalid)
  intro old hold
  refine ⟨?_, fun entryKey hkey => hrevokes entryKey (revokes_of_top hinv htop hold hkey)⟩
  have hle := htop.2 old hold
  have hown := hnew.valid.revision
  omega

/-- A deletion that the condition lets through is of a record below the highest, and every receipt of its
revision is past its retention. -/
theorem GcPasses.spares {disk : CatalogDisk} {input : WasmCatalogGcInput} {receipt : CatalogReleaseReceiptV1}
    {record : CatalogHistoryRecordV1} {result : CatalogHistoryGcResultV1} (hfiles : CatalogFiles R disk)
    (h : GcPasses R disk input receipt record result) (hgood : gcKeepsHistory R disk input = true) :
    topRecord disk ≠ some record ∧ ∀ other ∈ disk.releaseReceipts.contents,
      other.catalogRevision = record.revision → other.catalogHash = record.catalogHash →
        retentionElapsed R input.deletedAt other = true := by
  have hreceipt : disk.releaseReceipts.contents.find? (fun receipt => receipt.releaseId == input.releaseId) =
      some receipt := by
    cases hfound : disk.releaseReceipts.contents.find? fun receipt => receipt.releaseId == input.releaseId with
    | none => exact absurd (beq_iff_eq.mpr h.releaseId) (List.find?_eq_none.mp hfound receipt h.receipt_mem)
    | some found =>
      have hid : found.releaseId = input.releaseId := by simpa using List.find?_some hfound
      rw [receipt_unique hfiles.receipts found (List.mem_of_find?_eq_some hfound) receipt h.receipt_mem
        (hid.trans h.releaseId.symm)]
  have hrecord : disk.revisions.contents.find? (fun record =>
      record.revision == receipt.catalogRevision && record.catalogHash == receipt.catalogHash) = some record := by
    have hbinds : (record.revision == receipt.catalogRevision && record.catalogHash == receipt.catalogHash) = true := by
      rw [Bool.and_eq_true, beq_iff_eq, beq_iff_eq]
      exact ⟨h.revision, h.catalogHash⟩
    cases hfound : disk.revisions.contents.find? fun record =>
        record.revision == receipt.catalogRevision && record.catalogHash == receipt.catalogHash with
    | none => exact absurd hbinds (List.find?_eq_none.mp hfound record h.record_mem)
    | some found =>
      have hboth := List.find?_some hfound
      rw [Bool.and_eq_true, beq_iff_eq, beq_iff_eq] at hboth
      rw [hfiles.unique (List.mem_of_find?_eq_some hfound) h.record_mem (hboth.1.trans h.revision.symm)]
  obtain ⟨-, -, hfields, -, -, hpins, helapsed⟩ := gcCatalogHistoryRevision_audit h.computed
  have hfields' : requireGcFields R input.deleteId input.ownerCommandId input.deletedAt input.reason = [] := hfields
  have hpins' : pinsRevision input.references.val record.revision = false := hpins
  have helapsed' : retentionElapsed R input.deletedAt receipt = true := helapsed
  unfold gcKeepsHistory at hgood
  rw [hreceipt] at hgood
  dsimp only at hgood
  rw [hrecord] at hgood
  dsimp only at hgood
  rw [hfields', hpins', helapsed', beq_eq_false_iff_ne.mpr h.notLast, decide_eq_false (not_not_intro rfl)] at hgood
  simp only [Bool.false_or, Bool.not_true, Bool.and_eq_true, decide_eq_true_eq, List.all_eq_true, Bool.or_eq_true,
    bne_iff_ne] at hgood
  refine ⟨hgood.1, ?_⟩
  intro other hother hrevision hhash
  rcases hgood.2 other hother with (hne | hne) | hpast
  · exact absurd hrevision hne
  · exact absurd hhash hne
  · exact hpast

/-- A call that keeps the history grows it, and loses no receipt. -/
theorem CallEffect.grows {disk stage : CatalogDisk} {call : CatalogCall R}
    (hinv : HistoryInv disk.revisions.contents) (hgood : keepsHistory disk call = true)
    (h : CallEffect R disk call stage) :
    (HistoryInv stage.revisions.contents ∧ Grows disk.revisions.contents stage.revisions.contents) ∧
      ∀ receipt ∈ disk.releaseReceipts.contents, receipt ∈ stage.releaseReceipts.contents := by
  have hdrop : ∀ (disk' : CatalogDisk) (input : WasmCatalogGcInput) (receipt : CatalogReleaseReceiptV1)
      (record : CatalogHistoryRecordV1) (result : CatalogHistoryGcResultV1), CatalogFiles R disk →
      GcPasses R disk input receipt record result → gcKeepsHistory R disk input = true →
      disk'.revisions = disk.revisions → HistoryInv (disk'.dropRecord record).revisions.contents ∧
        Grows disk.revisions.contents (disk'.dropRecord record).revisions.contents := by
    intro disk' input receipt record result hfiles hgc hcond hsame
    have hnotTop := (hgc.spares hfiles hcond).1
    obtain ⟨top, htopRecord, htop⟩ := exists_topRecord hgc.record_mem
    have hlt : record.revision < top.revision := by
      refine lt_of_le_of_ne (htop.2 record hgc.record_mem) fun heq => hnotTop ?_
      rw [htopRecord, hfiles.unique hgc.record_mem htop.1 heq]
    have hcontents : (disk'.dropRecord record).revisions.contents = (disk.dropRecord record).revisions.contents := by
      simp only [CatalogDisk.dropRecord, hsame]
    rw [hcontents]
    exact hinv.remove (fun _ => mem_dropRecord hfiles hgc.record_mem) htop.1 hlt
  cases h with
  | untouched => exact ⟨⟨hinv, Grows.refl _⟩, fun _ hmem => hmem⟩
  | @bootstrapped payload clock record hfiles hempty hseal hnew =>
    refine ⟨?_, fun _ hmem => hmem⟩
    have hvalid := (validateRuntimeCatalogV1_eq_ok.mp hnew.valid.catalog_valid).2.2.1
    exact hinv.add (fun _ => mem_putRecord hfiles hnew.fresh)
      (fun old hold => absurd (hempty ▸ hold) List.not_mem_nil) (entry_unique hvalid)
  | @appended expected next references clock top record hfiles htop happend hnew =>
    refine ⟨?_, fun _ hmem => hmem⟩
    obtain ⟨hexpected, hrevision, hpayload, hprotected, hkept, hcatalog⟩ :=
      appendRuntimeCatalogRevision_eq_ok happend
    have hentries : record.catalog.entries = next.entries := by
      rw [← hcatalog]
      rfl
    have hnext : record.catalog.revision = next.revision := by
      rw [← hcatalog]
      rfl
    refine putRecord_grows hinv hfiles htop hnew (hnext.trans hrevision) ?_
    rintro entryKey ⟨entry, hentry, rfl, hrevoked⟩
    have hvalid := hfiles.valid top htop.1
    have hcond : appendKeepsHistory R disk expected next references = true := hgood
    unfold appendKeepsHistory at hcond
    rw [topRecord_eq hinv htop] at hcond
    dsimp only at hcond
    have hpin : decide (expected ≠ ⟨top.revision, top.catalogHash⟩) = false := by
      rw [hexpected, hvalid.revision, hvalid.catalogHash]
      exact decide_eq_false fun hne => hne rfl
    have hnumber : (next.revision != top.revision + 1) = false := by
      rw [hrevision, hvalid.revision, bne_self_eq_false]
    rw [hpin, hpayload, hnumber, decide_eq_false (not_not_intro rfl)] at hcond
    simp only [Bool.false_or, List.all_eq_true] at hcond
    have hkey : (next.entries.map RuntimeCatalogEntryV1.entryKey).contains entry.entryKey = true := by
      have hentryCond := hcond entry hentry
      rw [hrevoked, Bool.not_true, Bool.false_or, Bool.or_eq_true] at hentryCond
      rcases hentryCond with hprot | hin
      · exact protected_kept hprotected hentry hprot
      · exact hin
    obtain ⟨kept, hmem, hsame, hstill⟩ := revocation_kept hkept hentry hrevoked hkey
    exact ⟨kept, hentries ▸ hmem, hsame, hstill⟩
  | @revoked expected entryKey revocation references clock top record hfiles htop hrevoke hnew =>
    refine ⟨?_, fun _ hmem => hmem⟩
    unfold revokeRuntimeCatalogEntry at hrevoke
    dsimp only at hrevoke
    split at hrevoke
    next => cases hrevoke
    next =>
      obtain ⟨-, hrevoke⟩ := ite_failure_eq_ok.mp hrevoke
      split at hrevoke
      next => cases hrevoke
      next =>
        split at hrevoke
        next => cases hrevoke
        next =>
          obtain ⟨-, hrevision, -, -, -, hcatalog⟩ := appendRuntimeCatalogRevision_eq_ok hrevoke
          have hentries : record.catalog.entries = revokeEntry top.catalog.entries entryKey revocation := by
            rw [← hcatalog]
            rfl
          have hnext : record.catalog.revision = top.catalog.revision + 1 := by
            rw [← hcatalog]
            rfl
          refine putRecord_grows hinv hfiles htop hnew hnext ?_
          rintro key ⟨entry, hentry, rfl, hrevoked⟩
          rw [RuntimeCatalogV1.Revokes, hentries]
          exact revokeEntry_kept hentry hrevoked
  | @released input clock top receipt hfiles htop hrelease hfresh =>
    exact ⟨⟨hinv, Grows.refl _⟩, fun _ hmem => (mem_putReceipt hfresh).mpr (.inr hmem)⟩
  | @audited input clock receipt record result hfiles hgc hfresh =>
    exact ⟨⟨hinv, Grows.refl _⟩, fun _ hmem => hmem⟩
  | @collected input clock receipt record result hfiles hgc hfresh =>
    exact ⟨hdrop _ input receipt record result hfiles hgc hgood rfl, fun _ hmem => hmem⟩
  | @completed input clock receipt record result hfiles hgc haudit =>
    exact ⟨hdrop _ input receipt record result hfiles hgc hgood rfl, fun _ hmem => hmem⟩

/-- What a deletion took away is the record of its receipt. -/
theorem CallEffect.deleted {disk stage : CatalogDisk} {input : WasmCatalogGcInput} {clock : CatalogClock R}
    (h : CallEffect R disk (.gc input clock) stage) {record : CatalogHistoryRecordV1}
    (hmem : record ∈ disk.revisions.contents) (hgone : record ∉ stage.revisions.contents) :
    CatalogFiles R disk ∧ ∃ receipt result, GcPasses R disk input receipt record result := by
  have hdropped : ∀ (disk' : CatalogDisk) (old : CatalogHistoryRecordV1), CatalogFiles R disk →
      old ∈ disk.revisions.contents → disk'.revisions = disk.revisions →
      record ∉ (disk'.dropRecord old).revisions.contents → record = old := by
    intro disk' old hfiles hold hsame hout
    have hcontents : (disk'.dropRecord old).revisions.contents = (disk.dropRecord old).revisions.contents := by
      simp only [CatalogDisk.dropRecord, hsame]
    rw [hcontents, mem_dropRecord hfiles hold] at hout
    by_contra hne
    exact hout ⟨hmem, hne⟩
  cases h with
  | untouched => exact absurd hmem hgone
  | @audited _ _ receipt old result hfiles hgc hfresh => exact absurd hmem hgone
  | @collected _ _ receipt old result hfiles hgc hfresh =>
    obtain rfl := hdropped _ old hfiles hgc.record_mem rfl hgone
    exact ⟨hfiles, receipt, result, hgc⟩
  | @completed _ _ receipt old result hfiles hgc haudit =>
    obtain rfl := hdropped _ old hfiles hgc.record_mem rfl hgone
    exact ⟨hfiles, receipt, result, hgc⟩

/-! ## Whole histories -/

/-- A later store of a history. -/
structure LaterStore (disk disk' : CatalogDisk) : Prop where
  inv : HistoryInv disk'.revisions.contents
  grows : Grows disk.revisions.contents disk'.revisions.contents
  receipts : ∀ receipt ∈ disk.releaseReceipts.contents, receipt ∈ disk'.releaseReceipts.contents

theorem perform_later {disk : CatalogDisk} {call : CatalogCall R} (hinv : HistoryInv disk.revisions.contents)
    (hgood : keepsHistory disk call = true) : LaterStore disk (perform R disk call) := by
  obtain ⟨stage, heffect, hsame⟩ := leaves_reaches call none disk
  obtain ⟨⟨hinv', hgrows⟩, hreceipts⟩ := heffect.grows hinv hgood
  have hfiles : SameFiles stage (perform R disk call) := hsame
  refine ⟨?_, ?_, ?_⟩
  · rw [hfiles.revisions]
    exact hinv'
  · rw [hfiles.revisions]
    exact hgrows
  · rw [hfiles.receipts]
    exact hreceipts

theorem LaterStore.refl {disk : CatalogDisk} (hinv : HistoryInv disk.revisions.contents) : LaterStore disk disk :=
  ⟨hinv, Grows.refl _, fun _ hmem => hmem⟩

theorem LaterStore.trans {a b c : CatalogDisk} (ha : HistoryInv a.revisions.contents) (hab : LaterStore a b)
    (hbc : LaterStore b c) : LaterStore a c :=
  ⟨hbc.inv, Grows.trans ha hab.grows hbc.grows, fun receipt hmem => hbc.receipts receipt (hab.receipts receipt hmem)⟩

theorem run_later {disk : CatalogDisk} {calls : List (CatalogCall R)} (hinv : HistoryInv disk.revisions.contents)
    (hgood : Along (perform R) (fun disk call => keepsHistory disk call = true) disk calls) :
    LaterStore disk (run (perform R) disk calls) := by
  have hrun := Along.invariant_rel (P := fun disk : CatalogDisk => HistoryInv disk.revisions.contents)
    (r := fun disk disk' : CatalogDisk => HistoryInv disk.revisions.contents → LaterStore disk disk')
    (fun _ => LaterStore.refl) (fun _ _ _ hab hbc ha => (hab ha).trans ha (hbc (hab ha).inv))
    (fun _ _ hcall hinv => ⟨(perform_later hinv hcall).inv, fun hinv => perform_later hinv hcall⟩) hgood hinv
  exact hrun.2 hinv

theorem historyInv_empty : HistoryInv CatalogDisk.empty.revisions.contents :=
  ⟨fun _ h => absurd h List.not_mem_nil, fun _ h => absurd h List.not_mem_nil,
    fun _ h => absurd h List.not_mem_nil⟩

section History

variable {calls : List (CatalogCall R)}
  (hgood : Along (perform R) (fun disk call => keepsHistory disk call = true) .empty calls)
include hgood

theorem storeAfter_inv (n : Nat) : HistoryInv (storeAfter calls n).revisions.contents := by
  rw [← List.take_append_drop n calls, along_append] at hgood
  exact (run_later historyInv_empty hgood.1).inv

theorem storeAfter_later {i j : Nat} (hij : i ≤ j) : LaterStore (storeAfter calls i) (storeAfter calls j) := by
  have hsplit : calls.take j = calls.take i ++ (calls.take j).drop i := by
    have htake : (calls.take j).take i = calls.take i := by rw [List.take_take, Nat.min_eq_left hij]
    rw [← htake, List.take_append_drop]
  have hinv := storeAfter_inv hgood i
  have hfirst := hgood
  rw [← List.take_append_drop j calls, along_append, hsplit, along_append] at hfirst
  have hrun : storeAfter calls j = run (perform R) (storeAfter calls i) ((calls.take j).drop i) := by
    rw [storeAfter, storeAfter, ← run_append, ← hsplit]
  rw [hrun]
  exact run_later hinv hfirst.1.2

end History

/-! ## What the reading calls answer -/

theorem ReportsCurrent.top {disk : CatalogDisk} {catalog : RuntimeCatalogV1} (h : ReportsCurrent R disk catalog) :
    CatalogFiles R disk ∧ ∃ top, IsTop disk.revisions.contents top ∧ top.catalog = catalog := by
  obtain ⟨now, hresult⟩ := h
  have htriple : Triple (SameFiles disk) (WasmCatalogStore.current R now)
      (fun current _ => CatalogFiles R disk ∧ ∀ catalog, current = some catalog →
        ∃ top, IsTop disk.revisions.contents top ∧ top.catalog = catalog)
      (fun _ _ => True) (fun _ => True) := by
    refine Triple.bind (recoverState_triple.consequence (fun _ hs => hs) (fun _ _ hs => hs.2) (fun _ _ _ => trivial)
      fun _ _ => trivial) fun state => ?_
    exact Triple.pure fun _ hs => ⟨hs.files, hs.current⟩
  have hend := htriple.of_ok (SameFiles.refl disk) hresult
  exact ⟨hend.1, hend.2 catalog rfl⟩

/-- An accepted binding pins the highest record, names an active entry of it and was never released. -/
theorem AcceptsBinding.spec {disk : CatalogDisk} {binding : RuntimeBindingIdentityV1}
    (h : AcceptsBinding R disk binding) :
    CatalogFiles R disk ∧ (∀ receipt ∈ disk.releaseReceipts.contents, receipt.targetRuntimeBinding ≠ binding) ∧
      ∃ top architecture entry, IsTop disk.revisions.contents top ∧
        checkRuntimeBindingUsable top.catalog binding architecture = .ok entry := by
  obtain ⟨architecture, now, entry, hresult⟩ := h
  have htriple : Triple (SameFiles disk) (checkBindingUsable R binding architecture now)
      (fun entry _ => CatalogFiles R disk ∧
        (∀ receipt ∈ disk.releaseReceipts.contents, receipt.targetRuntimeBinding ≠ binding) ∧
        ∃ top, IsTop disk.revisions.contents top ∧
          checkRuntimeBindingUsable top.catalog binding architecture = .ok entry)
      (fun _ _ => True) (fun _ => True) := by
    refine Triple.bind (recoverState_triple.consequence (fun _ hs => hs) (fun _ _ hs => hs.2) (fun _ _ _ => trivial)
      fun _ _ => trivial) fun state => ?_
    refine Triple.assume (fun _ hs => hs) fun hstate => ?_
    cases hcurrent : state.current with
    | none => exact Triple.lift (fun _ _ _ h => nomatch h) fun _ _ _ _ => trivial
    | some current =>
      obtain ⟨top, htop, rfl⟩ := hstate.current current hcurrent
      refine Triple.bind (Q := fun _ _ => checkRuntimeBindingNotReleased state.receipts binding = .ok ())
        (Triple.lift (fun _ _ _ h => orFault_eq_ok.mp h) fun _ _ _ _ => trivial) fun _ => ?_
      refine Triple.lift (fun s entry hreleased hentry => ⟨hstate.files, ?_, top, htop, orFault_eq_ok.mp hentry⟩)
        fun _ _ _ _ => trivial
      intro receipt hmem heq
      have hany : (disk.releaseReceipts.contents.any fun receipt => receipt.targetRuntimeBinding == binding) = true :=
        List.any_eq_true.mpr ⟨receipt, hmem, beq_iff_eq.mpr heq⟩
      rw [hstate.receipts, checkRuntimeBindingNotReleased, if_pos hany] at hreleased
      cases hreleased
  obtain ⟨hfiles, hreceipts, top, htop, hentry⟩ := htriple.of_ok (SameFiles.refl disk) hresult
  exact ⟨hfiles, hreceipts, top, architecture, entry, htop, hentry⟩

/-- The code of a usability check that fails, other than with a revoked entry. -/
theorem checkRuntimeBindingUsable_cases {catalog : RuntimeCatalogV1} {binding : RuntimeBindingIdentityV1}
    {architecture : WasmRuntimeArchitecture} {issues : List ValidationIssue}
    (h : checkRuntimeBindingUsable catalog binding architecture = .error issues) :
    (∃ entry ∈ catalog.entries, binding.catalogRevision = catalog.revision ∧
      binding.catalogHash = catalog.catalogHash ∧ entry.entryKey = binding.entryKey ∧ entry.isRevoked = true) ∨
    ∃ path message, issues = [⟨wasmCatalogBindingMismatch, path, message⟩] ∨
      issues = [⟨wasmCatalogEntryNotFound, path, message⟩] := by
  unfold checkRuntimeBindingUsable selectRuntimeBindingEntry selectRuntimeCatalogEntry at h
  split at h
  next => exact .inr ⟨_, _, .inl (Except.error.inj h).symm⟩
  next hpins =>
    split at h
    next entry hfind =>
      have hselected := List.find?_some hfind
      simp only [Bool.and_eq_true, beq_iff_eq] at hselected
      by_cases hrevoked : entry.isRevoked = true
      · exact .inl ⟨entry, List.mem_of_find?_eq_some hfind, not_not.mp fun hne => hpins (.inl hne),
          not_not.mp fun hne => hpins (.inr hne), hselected.1.1.1.1, hrevoked⟩
      · replace h : (if entry.isRevoked then _ else Except.ok entry) = Except.error issues := h
        rw [if_neg hrevoked] at h
        cases h
    next => exact .inr ⟨_, _, .inr (Except.error.inj h).symm⟩

/-- A binding refused as released has a receipt; one refused as revoked pins the highest record and names a
revoked entry of it. -/
theorem RefusesBinding.spec {disk : CatalogDisk} {binding : RuntimeBindingIdentityV1}
    (h : RefusesBinding R disk binding) :
    (∃ receipt ∈ disk.releaseReceipts.contents, receipt.targetRuntimeBinding = binding) ∨
    ∃ top, IsTop disk.revisions.contents top ∧ binding.catalogRevision = top.catalog.revision ∧
      CatalogFiles R disk ∧ ∃ entry ∈ top.catalog.entries, entry.entryKey = binding.entryKey ∧
        entry.isRevoked = true := by
  obtain ⟨architecture, now, code, issues, hresult, hcode⟩ := h
  have htriple : Triple (SameFiles disk) (checkBindingUsable R binding architecture now) (fun _ _ => True)
      (fun fault _ => ∀ code issues, fault = .refused code issues →
        code = wasmRuntimeBindingReleased ∨ code = wasmRuntimeBindingRevoked →
        (∃ receipt ∈ disk.releaseReceipts.contents, receipt.targetRuntimeBinding = binding) ∨
        ∃ top, IsTop disk.revisions.contents top ∧ binding.catalogRevision = top.catalog.revision ∧
          CatalogFiles R disk ∧ ∃ entry ∈ top.catalog.entries, entry.entryKey = binding.entryKey ∧
            entry.isRevoked = true)
      (fun _ => True) := by
    refine Triple.bind (recoverState_triple.consequence (fun _ hs => hs) (fun _ _ hs => hs.2) ?_ fun _ _ => trivial)
      fun state => ?_
    · rintro fault s ⟨-, thrownCode, message, rfl⟩ code issues hfault
      cases hfault
    refine Triple.assume (fun _ hs => hs) fun hstate => ?_
    cases hcurrent : state.current with
    | none =>
      refine Triple.lift (fun _ _ _ _ => trivial) ?_
      rintro s e - h code issues rfl hcode
      obtain ⟨rfl, -⟩ := CatalogFault.refused.inj (Except.error.inj h)
      rcases hcode with hcode | hcode
      · exact absurd hcode (by decide)
      · exact absurd hcode (by decide)
    | some current =>
      obtain ⟨top, htop, rfl⟩ := hstate.current current hcurrent
      refine Triple.bind (Q := fun _ _ => True) ?_ fun _ => ?_
      · refine Triple.lift (fun _ _ _ _ => trivial) ?_
        rintro s e - h code issues rfl -
        refine .inl ?_
        rw [← hstate.receipts]
        unfold checkRuntimeBindingNotReleased at h
        split at h
        next hany =>
          obtain ⟨receipt, hmem, heq⟩ := List.any_eq_true.mp hany
          exact ⟨receipt, hmem, beq_iff_eq.mp heq⟩
        next => cases h
      · refine Triple.lift (fun _ _ _ _ => trivial) ?_
        rintro s e - h code issues rfl hcode
        refine .inr ?_
        cases husable : checkRuntimeBindingUsable top.catalog binding architecture with
        | ok entry =>
          rw [husable] at h
          cases h
        | error found =>
          rw [husable] at h
          obtain ⟨hfound, -⟩ := CatalogFault.refused.inj (Except.error.inj h)
          rcases checkRuntimeBindingUsable_cases husable with ⟨entry, hmem, hrevision, -, hkey, hrevoked⟩ | hother
          · exact ⟨top, htop, hrevision, hstate.files, entry, hmem, hkey, hrevoked⟩
          · obtain ⟨path, message, rfl | rfl⟩ := hother
            all_goals
              rcases hcode with hcode | hcode
              all_goals exact absurd (hfound.trans hcode) (by simp [wasmCatalogBindingMismatch,
                wasmCatalogEntryNotFound, wasmRuntimeBindingReleased, wasmRuntimeBindingRevoked])
  exact htriple.of_error (SameFiles.refl disk) hresult code issues rfl hcode

/-- The entry an accepted binding names is active. -/
theorem checkRuntimeBindingUsable_eq_ok {catalog : RuntimeCatalogV1} {binding : RuntimeBindingIdentityV1}
    {architecture : WasmRuntimeArchitecture} {entry : RuntimeCatalogEntryV1}
    (h : checkRuntimeBindingUsable catalog binding architecture = .ok entry) :
    binding.catalogRevision = catalog.revision ∧ ∃ selected ∈ catalog.entries,
      selected.entryKey = binding.entryKey ∧ selected.isRevoked = false := by
  unfold checkRuntimeBindingUsable selectRuntimeBindingEntry selectRuntimeCatalogEntry at h
  split at h
  next => cases h
  next hpins =>
    split at h
    next selected hfind =>
      have hselected := List.find?_some hfind
      simp only [Bool.and_eq_true, beq_iff_eq] at hselected
      refine ⟨not_not.mp fun hne => hpins (.inl hne), selected, List.mem_of_find?_eq_some hfind,
        hselected.1.1.1.1, ?_⟩
      by_contra hrevoked
      have htrue : selected.isRevoked = true := by simpa using hrevoked
      replace h : (if selected.isRevoked then _ else Except.ok selected) = Except.ok entry := h
      rw [if_pos htrue] at h
      cases h
    next => cases h

/-! ## The main result -/

section History

variable {calls : List (CatalogCall R)}
  (hgood : Along (perform R) (fun disk call => keepsHistory disk call = true) .empty calls)
include hgood

/-- The highest record of a store is not above that of a later one, and is the same if their revisions are. -/
theorem tops_ordered {i j : Nat} (hij : i ≤ j) {top top' : CatalogHistoryRecordV1}
    (htop : IsTop (storeAfter calls i).revisions.contents top)
    (htop' : IsTop (storeAfter calls j).revisions.contents top') :
    top.revision ≤ top'.revision ∧ (top.revision = top'.revision → top = top') := by
  have hlater := storeAfter_later hgood hij
  obtain ⟨record, hrecord, hle, heq⟩ := hlater.grows.reached top htop.1
  have hle' := htop'.2 record hrecord
  refine ⟨le_trans hle hle', fun hsame => ?_⟩
  have hmiddle : top.revision = record.revision := le_antisymm hle (hsame ▸ hle')
  rw [heq hmiddle]
  exact hlater.inv.unique record hrecord top' htop'.1 (hmiddle ▸ hsame)

theorem current_revision_monotone {i j : Nat} {catalog catalog' : RuntimeCatalogV1} (hij : i ≤ j)
    (h : ReportsCurrent R (storeAfter calls i) catalog) (h' : ReportsCurrent R (storeAfter calls j) catalog') :
    catalog.revision ≤ catalog'.revision := by
  obtain ⟨hfiles, top, htop, rfl⟩ := h.top
  obtain ⟨hfiles', top', htop', rfl⟩ := h'.top
  rw [← (hfiles.valid top htop.1).revision, ← (hfiles'.valid top' htop'.1).revision]
  exact (tops_ordered hgood hij htop htop').1

theorem record_of_revision {i j : Nat} (hij : i ≤ j) {record record' : CatalogHistoryRecordV1}
    (h : record ∈ (storeAfter calls i).revisions.contents) (h' : record' ∈ (storeAfter calls j).revisions.contents)
    (heq : record.revision = record'.revision) : record = record' := by
  have hlater := storeAfter_later hgood hij
  rcases hlater.grows.above record' h' with hold | hnew
  · exact (storeAfter_inv hgood i).unique record h record' hold heq
  · exact absurd heq (Nat.ne_of_lt (hnew record h).1)

theorem revoked_in_later_revision {i j : Nat} {record record' : CatalogHistoryRecordV1} {entryKey : String}
    (h : record ∈ (storeAfter calls i).revisions.contents) (h' : record' ∈ (storeAfter calls j).revisions.contents)
    (hlt : record.revision < record'.revision) (hrevokes : record.catalog.Revokes entryKey) :
    record'.catalog.Revokes entryKey := by
  rcases Nat.le_total i j with hij | hji
  · have hlater := storeAfter_later hgood hij
    rcases hlater.grows.above record' h' with hold | hnew
    · exact (storeAfter_inv hgood i).revoked record h record' hold hlt entryKey hrevokes
    · exact (hnew record h).2 entryKey hrevokes
  · have hlater := storeAfter_later hgood hji
    rcases hlater.grows.above record h with hold | hnew
    · exact (storeAfter_inv hgood j).revoked record hold record' h' hlt entryKey hrevokes
    · exact absurd hlt (Nat.not_lt_of_lt (hnew record' h').1)

theorem not_activates_of_revokes {n : Nat} {record : CatalogHistoryRecordV1} {entryKey : String}
    (h : record ∈ (storeAfter calls n).revisions.contents) (hrevokes : record.catalog.Revokes entryKey) :
    ¬ record.catalog.Activates entryKey := by
  rintro ⟨active, hactive, hkey, hstatus⟩
  obtain ⟨revoked, hrevoked, hkey', hstatus'⟩ := hrevokes
  have heq := (storeAfter_inv hgood n).keys record h active hactive revoked hrevoked (hkey.trans hkey'.symm)
  rw [heq, hstatus'] at hstatus
  cases hstatus

theorem refused_binding_not_accepted {i j : Nat} {binding : RuntimeBindingIdentityV1} (hij : i ≤ j)
    (h : RefusesBinding R (storeAfter calls i) binding) : ¬ AcceptsBinding R (storeAfter calls j) binding := by
  intro haccepts
  obtain ⟨hfiles', hreceipts, top', architecture, entry, htop', haccepted⟩ := haccepts.spec
  obtain ⟨hrevision', selected, hselected, hkey, hactive⟩ := checkRuntimeBindingUsable_eq_ok haccepted
  rcases h.spec with ⟨receipt, hmem, htarget⟩ | ⟨top, htop, hrevision, hfiles, revoked, hrevoked, hkey', hstatus⟩
  · exact hreceipts receipt ((storeAfter_later hgood hij).receipts receipt hmem) htarget
  · have hsame : top = top' := by
      refine (tops_ordered hgood hij htop htop').2 ?_
      rw [(hfiles.valid top htop.1).revision, (hfiles'.valid top' htop'.1).revision, ← hrevision, hrevision']
    subst hsame
    exact not_activates_of_revokes hgood htop'.1 ⟨revoked, hrevoked, hkey', hstatus⟩
      ⟨selected, hselected, hkey, hactive⟩

theorem gc_deletes_released {i : Nat} {input : WasmCatalogGcInput} {clock : CatalogClock R}
    (hcall : calls[i]? = some (.gc input clock)) {record : CatalogHistoryRecordV1}
    (hmem : record ∈ (storeAfter calls i).revisions.contents)
    (hgone : record ∉ (storeAfter calls (i + 1)).revisions.contents) :
    (∀ catalog, ReportsCurrent R (storeAfter calls i) catalog → record.catalog ≠ catalog) ∧
    ∀ receipt ∈ (storeAfter calls i).releaseReceipts.contents, receipt.catalogRevision = record.revision →
      receipt.catalogHash = record.catalogHash → retentionElapsed R input.deletedAt receipt = true := by
  have hnext : storeAfter calls (i + 1) = perform R (storeAfter calls i) (.gc input clock) := by
    rw [storeAfter, List.take_add_one, hcall, run_append]
    rfl
  have hcond : gcKeepsHistory R (storeAfter calls i) input = true := by
    obtain ⟨hlength, hget⟩ := List.getElem?_eq_some_iff.mp hcall
    rw [← List.take_append_drop i calls, along_append, List.drop_eq_getElem_cons hlength, hget] at hgood
    exact hgood.2.1
  obtain ⟨stage, heffect, hsame⟩ := leaves_reaches (.gc input clock) none (storeAfter calls i)
  have hstage : SameFiles stage (storeAfter calls (i + 1)) := by
    rw [hnext]
    exact hsame
  rw [hstage.revisions] at hgone
  obtain ⟨hfiles, receipt, result, hgc⟩ := heffect.deleted hmem hgone
  obtain ⟨hnotTop, hpast⟩ := hgc.spares hfiles hcond
  refine ⟨?_, hpast⟩
  rintro catalog hcurrent rfl
  obtain ⟨-, top, htop, hcatalog⟩ := hcurrent.top
  have hrevision : record.revision = top.revision := by
    rw [(hfiles.valid record hmem).revision, (hfiles.valid top htop.1).revision, hcatalog]
  rw [topRecord_eq (storeAfter_inv hgood i) htop, hfiles.unique hmem htop.1 hrevision] at hnotTop
  exact hnotTop rfl

/-- In every history whose calls keep the condition, the catalog obeys the laws. -/
theorem catalog_history_append_only : AppendOnlyHistory calls where
  current_monotone _ _ _ _ hij h h' := current_revision_monotone hgood hij h h'
  revision_unique i j record h record' h' heq := by
    rcases Nat.le_total i j with hij | hji
    · rw [record_of_revision hgood hij h h' heq]
    · rw [record_of_revision hgood hji h' h heq.symm]
  gc_spares _ _ _ hcall _ hmem hgone := gc_deletes_released hgood hcall hmem hgone
  revoked_forever _ _ _ _ h _ h' hlt hrevokes :=
    not_activates_of_revokes hgood h' (revoked_in_later_revision hgood h h' hlt hrevokes)
  refused_forever _ _ _ hij h := refused_binding_not_accepted hgood hij h

end History

/-! ## Histories that break the laws -/

/-- A digest of one repeated character. -/
def sampleDigest (n : Nat) : Sha256Hex :=
  match n % 6 with
  | 0 => ⟨String.ofList (List.replicate 64 'a'), by decide +kernel⟩
  | 1 => ⟨String.ofList (List.replicate 64 'b'), by decide +kernel⟩
  | 2 => ⟨String.ofList (List.replicate 64 'c'), by decide +kernel⟩
  | 3 => ⟨String.ofList (List.replicate 64 'd'), by decide +kernel⟩
  | 4 => ⟨String.ofList (List.replicate 64 'e'), by decide +kernel⟩
  | _ => ⟨String.ofList (List.replicate 64 'f'), by decide +kernel⟩

/-- Dates from 1970 on, and digests that tell the catalogs of the histories below apart. -/
def sampleCatalogRules : CatalogRules where
  parseDate text := match parseRfc3339UtcMillis text with
    | .ok millis => timeValue millis
    | .error _ => none
  toIsoString time := formatRfc3339UtcMillis time.val.toNat
  computeRuntimeCatalogHashV1 payload := sampleDigest (payload.revision + 3 * payload.entries.length)
  computeCatalogHistoryRecordDigestV1 payload := sampleDigest payload.revision
  computeCatalogHistoryIndexDigestV1 payload := sampleDigest payload.currentRevision
  computeCatalogReleaseReceiptDigestV1 payload := sampleDigest payload.catalogRevision
  objectDigest record := sampleDigest record.revision

def noReferences : CatalogReferences := ⟨[], by decide⟩

def sampleNow : ClockText sampleCatalogRules := ⟨"2026-01-01T00:00:00Z", by decide +kernel⟩

def sampleClock : CatalogClock sampleCatalogRules := ⟨sampleNow, sampleNow, sampleNow⟩

def sampleEntry : RuntimeCatalogEntryV1 where
  entryKey := "wasmd"
  kind := "wasm"
  imageDigest := "sha256:" ++ (sampleDigest 0).val
  hostAbi := wasmHostAbiLiteral
  world := wasmWorldLiteral
  architecture := .linuxAmd64
  status := .active

/-- The catalog of a revision with the entry or without any. -/
def samplePayload (revision : Nat) (present : Bool) : RuntimeCatalogPayloadV1 :=
  ⟨1, revision, if present then [sampleEntry] else []⟩

def samplePin (revision : Nat) (present : Bool) : RuntimeCatalogRevisionPinV1 :=
  ⟨revision, (sampleCatalogRules.computeRuntimeCatalogHashV1 (samplePayload revision present)).val⟩

def sampleRevocation : RuntimeCatalogRevocationV1 := ⟨"CVE-2026-0001", "cve", "2026-01-01T00:00:00Z"⟩

def sampleRelease (releaseId releasedAt : String) : WasmCatalogReleaseInput where
  entryKey := "wasmd"
  references := noReferences
  releaseId
  ownerCommandId := "00000000-0000-7000-8000-000000000001"
  drainedAt := releasedAt
  releasedAt

def sampleGc (releaseId deletedAt : String) : WasmCatalogGcInput where
  releaseId
  deleteId := "00000000-0000-7000-8000-000000000002"
  ownerCommandId := "00000000-0000-7000-8000-000000000003"
  deletedAt
  reason := "retention elapsed"
  references := noReferences

def sampleReleaseId : String := "00000000-0000-7000-8000-000000000004"
def sampleOtherReleaseId : String := "00000000-0000-7000-8000-000000000005"

/-- An entry is revoked, dropped by the next revision and active again in the one after it. -/
def reactivatingCalls : List (CatalogCall sampleCatalogRules) :=
  [.bootstrap (samplePayload 1 true) sampleClock,
    .revoke (samplePin 1 true) "wasmd" sampleRevocation noReferences sampleClock,
    .append (samplePin 2 true) (samplePayload 3 false) noReferences sampleClock,
    .append (samplePin 3 false) (samplePayload 4 true) noReferences sampleClock]

/-- The current revision is released and deleted, and its number is given to another catalog. -/
def reusingCalls : List (CatalogCall sampleCatalogRules) :=
  [.bootstrap (samplePayload 1 true) sampleClock,
    .append (samplePin 1 true) (samplePayload 2 true) noReferences sampleClock,
    .release (sampleRelease sampleReleaseId "2026-01-01T00:00:00Z") sampleClock,
    .gc (sampleGc sampleReleaseId "2027-01-01T00:00:00Z") sampleClock,
    .append (samplePin 1 true) (samplePayload 2 false) noReferences sampleClock]

/-- A revision is released twice, and deleted when the first retention has elapsed. -/
def hastyCalls : List (CatalogCall sampleCatalogRules) :=
  [.bootstrap (samplePayload 1 true) sampleClock,
    .release (sampleRelease sampleReleaseId "2026-01-01T00:00:00Z") sampleClock,
    .release (sampleRelease sampleOtherReleaseId "2026-06-01T00:00:00Z") sampleClock,
    .append (samplePin 1 true) (samplePayload 2 true) noReferences sampleClock,
    .gc (sampleGc sampleReleaseId "2027-01-01T00:00:00Z") sampleClock]

/-- The laws fail where a revoked entry is dropped, where the current revision is deleted, and where a second
receipt still holds the deleted revision. -/
theorem catalog_history_not_append_only :
    ¬ AppendOnlyHistory reactivatingCalls ∧ ¬ AppendOnlyHistory reusingCalls ∧ ¬ AppendOnlyHistory hastyCalls := by
  refine ⟨?_, ?_, ?_⟩
  · intro h
    have hactive : ∃ record ∈ (storeAfter reactivatingCalls 4).revisions.contents,
        ∃ record' ∈ (storeAfter reactivatingCalls 4).revisions.contents, record.revision < record'.revision ∧
          record.catalog.Revokes "wasmd" ∧ record'.catalog.Activates "wasmd" := by decide +kernel
    obtain ⟨record, hmem, record', hmem', hlt, hrevokes, hactivates⟩ := hactive
    exact h.revoked_forever 4 4 "wasmd" record hmem record' hmem' hlt hrevokes hactivates
  · intro h
    have hreused : ∃ record ∈ (storeAfter reusingCalls 3).revisions.contents,
        ∃ record' ∈ (storeAfter reusingCalls 5).revisions.contents, record.revision = record'.revision ∧
          record.catalog ≠ record'.catalog := by decide +kernel
    obtain ⟨record, hmem, record', hmem', heq, hne⟩ := hreused
    exact hne (h.revision_unique 3 5 record hmem record' hmem' heq)
  · intro h
    have hheld : ∃ record ∈ (storeAfter hastyCalls 4).revisions.contents,
        record ∉ (storeAfter hastyCalls 5).revisions.contents ∧
        ∃ receipt ∈ (storeAfter hastyCalls 4).releaseReceipts.contents, receipt.catalogRevision = record.revision ∧
          receipt.catalogHash = record.catalogHash ∧
          retentionElapsed sampleCatalogRules "2027-01-01T00:00:00Z" receipt = false := by decide +kernel
    obtain ⟨record, hmem, hgone, receipt, hreceipt, hrevision, hhash, hunelapsed⟩ := hheld
    have hpast := (h.gc_spares 4 (sampleGc sampleReleaseId "2027-01-01T00:00:00Z") sampleClock rfl record hmem
      hgone).2 receipt hreceipt hrevision hhash
    have hgc : retentionElapsed sampleCatalogRules "2027-01-01T00:00:00Z" receipt = true := hpast
    rw [hunelapsed] at hgc
    cases hgc

/-- A revision is released, superseded and deleted, and the entry is revoked after that. -/
def orderlyCalls : List (CatalogCall sampleCatalogRules) :=
  [.bootstrap (samplePayload 1 true) sampleClock,
    .release (sampleRelease sampleReleaseId "2026-01-01T00:00:00Z") sampleClock,
    .append (samplePin 1 true) (samplePayload 2 true) noReferences sampleClock,
    .gc (sampleGc sampleReleaseId "2027-01-01T00:00:00Z") sampleClock,
    .revoke (samplePin 2 true) "wasmd" sampleRevocation noReferences sampleClock]

theorem catalog_history_append_only_orderly :
    (storeAfter orderlyCalls 5).revisions.contents.map (fun record => record.revision) = [2, 3] ∧
      AppendOnlyHistory orderlyCalls :=
  ⟨by decide +kernel, catalog_history_append_only (by decide +kernel)⟩

end Iweb
