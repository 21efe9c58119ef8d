import Iweb.Catalog.Proofs.StoreProofs

/-!
# The index assembled from consistent files

From valid records, audits and receipts the index is always assembled, passes its own check, and its current
pointer and its entries are determined by the records and audits alone.
-/

namespace Iweb

variable {R : CatalogRules}

/-- What the current pointer and the entries of an index say about the records and audits. -/
structure IndexCore (records : List CatalogHistoryRecordV1) (audits : List CatalogDeleteAuditV1)
    (core : Nat × String × List (Nat × String × CatalogIndexEntryStatus)) : Prop where
  ascending : core.2.2.Pairwise fun entry next => entry.1 < next.1
  mem : ∀ entry, entry ∈ core.2.2 ↔
    (∃ record ∈ records, entry = (record.revision, record.catalogHash, .present)) ∨
    ∃ audit ∈ audits, (∀ record ∈ records, record.revision ≠ audit.revision) ∧
      entry = (audit.revision, audit.catalogHash, .deleted)
  top : ∃ top, IsTop records top ∧ core.1 = top.revision ∧ core.2.1 = top.catalogHash

/-- The entries of an index are determined by the members of the records and the audits. -/
theorem IndexCore.unique {records records' : List CatalogHistoryRecordV1} {audits audits' : List CatalogDeleteAuditV1}
    {core core' : Nat × String × List (Nat × String × CatalogIndexEntryStatus)} (h : IndexCore records audits core)
    (h' : IndexCore records' audits' core') (hrecords : ∀ record, record ∈ records ↔ record ∈ records')
    (haudits : ∀ audit, audit ∈ audits ↔ audit ∈ audits') : core = core' := by
  have hmem : ∀ entry, entry ∈ core.2.2 ↔ entry ∈ core'.2.2 := by
    intro entry
    rw [h.mem, h'.mem]
    simp only [hrecords, haudits]
  have hnodup : ∀ entries : List (Nat × String × CatalogIndexEntryStatus),
      entries.Pairwise (fun entry next => entry.1 < next.1) → entries.Nodup := by
    intro entries hasc
    refine hasc.imp ?_
    intro entry next hlt heq
    rw [heq] at hlt
    exact Nat.lt_irrefl _ hlt
  have hperm : core.2.2.Perm core'.2.2 :=
    (List.perm_ext_iff_of_nodup (hnodup _ h.ascending) (hnodup _ h'.ascending)).mpr hmem
  have hentries : core.2.2 = core'.2.2 :=
    hperm.eq_of_pairwise (fun entry next _ _ hlt hgt => absurd hlt (Nat.not_lt_of_lt hgt)) h.ascending h'.ascending
  obtain ⟨top, htop, hrevision, hhash⟩ := h.top
  obtain ⟨top', htop', hrevision', hhash'⟩ := h'.top
  have hsame : top.revision = top'.revision :=
    le_antisymm (htop'.2 top ((hrecords top).mp htop.1)) (htop.2 top' ((hrecords top').mpr htop'.1))
  have hentry : (top.revision, top.catalogHash, CatalogIndexEntryStatus.present) ∈ core.2.2 :=
    (h.mem _).mpr (.inl ⟨top, htop.1, rfl⟩)
  have hentry' : (top'.revision, top'.catalogHash, CatalogIndexEntryStatus.present) ∈ core.2.2 :=
    (hmem _).mpr ((h'.mem _).mpr (.inl ⟨top', htop'.1, rfl⟩))
  have hkeys : (core.2.2.map Prod.fst).Nodup := by
    rw [List.Nodup, List.pairwise_map]
    exact h.ascending.imp fun hlt => Nat.ne_of_lt hlt
  have hequal := List.inj_on_of_nodup_map hkeys hentry hentry' hsame
  have hcatalogHash : top.catalogHash = top'.catalogHash := (Prod.mk.inj (Prod.mk.inj hequal).2).1
  refine Prod.ext ?_ (Prod.ext ?_ hentries)
  · rw [hrevision, hrevision', hsame]
  · rw [hhash, hhash', hcatalogHash]

/-! ## The check of an index -/

/-- What the check of an index asks of an entry. -/
structure ValidIndexEntry (R : CatalogRules) (entry : CatalogHistoryIndexRevisionEntryV1) : Prop where
  revision : isU53Between entry.revision 1 wasmU53Max = true
  catalogHash : isSha256Hex entry.catalogHash = true
  count : isU53Between entry.protectedReferenceCount 0 wasmU53Max = true
  retention : ∀ text, entry.releaseRetentionUntil = some text → isCatalogTimestamp R text = true
  deletedAt : ∀ text, entry.deletedAt = some text → isCatalogTimestamp R text = true
  path : entry.path = catalogHistoryRevisionFilePath entry.revision entry.catalogHash
  coupled : entry.status = .deleted ↔ entry.deletedAt.isSome = true

theorem elim_timestamp_eq_nil {value : Option String} {path fieldName code : String}
    (h : ∀ text, value = some text → isCatalogTimestamp R text = true) :
    value.elim [] (fun text => requireRfc3339Utc R text path fieldName code) = [] := by
  cases value with
  | none => rfl
  | some text => exact issueUnless_eq_nil.mpr (h text rfl)

theorem requireIndexRevisionEntry_eq_nil {entry : CatalogHistoryIndexRevisionEntryV1} {path : String}
    (h : ValidIndexEntry R entry) : requireIndexRevisionEntry R [] path entry = [] := by
  have hissues : ([] : List ValidationIssue) ++
      requireSafeInteger entry.revision path "revision" 1 wasmU53Max indexCode ++
      requireSha256Hex entry.catalogHash path "catalogHash" indexCode ++
      requireSafeInteger entry.protectedReferenceCount path "protectedReferenceCount" 0 wasmU53Max indexCode ++
      entry.releaseRetentionUntil.elim []
        (fun value => requireRfc3339Utc R value path "releaseRetentionUntil" indexCode) ++
      entry.deletedAt.elim [] (fun value => requireRfc3339Utc R value path "deletedAt" indexCode) = [] := by
    simp only [List.append_eq_nil_iff, requireSafeInteger, requireSha256Hex, issueUnless_eq_nil, true_and]
    exact ⟨⟨⟨⟨h.revision, h.catalogHash⟩, h.count⟩, elim_timestamp_eq_nil h.retention⟩,
      elim_timestamp_eq_nil h.deletedAt⟩
  unfold requireIndexRevisionEntry
  dsimp only
  rw [hissues, if_neg (not_not_intro rfl), if_neg (not_not_intro h.path)]
  have hcoupled := h.coupled
  cases hstatus : entry.status with
  | present =>
    cases hdeleted : entry.deletedAt with
    | none => rfl
    | some text =>
      rw [hstatus, hdeleted] at hcoupled
      exact absurd (hcoupled.mpr rfl) (by decide)
  | deleted =>
    cases hdeleted : entry.deletedAt with
    | none =>
      rw [hstatus, hdeleted] at hcoupled
      exact absurd (hcoupled.mp rfl) (by decide)
    | some text => rfl

theorem requireIndexRevisionEntries_eq_nil {entries : List CatalogHistoryIndexRevisionEntryV1} {i : Nat}
    (h : ∀ entry ∈ entries, ValidIndexEntry R entry) : requireIndexRevisionEntries R [] i entries = [] := by
  induction entries generalizing i with
  | nil => rfl
  | cons entry rest ih =>
    unfold requireIndexRevisionEntries
    rw [requireIndexRevisionEntry_eq_nil (h entry (.head _))]
    exact ih fun other hother => h other (.tail _ hother)

theorem revisionsAscend_of_pairwise {entries : List CatalogHistoryIndexRevisionEntryV1}
    (h : entries.Pairwise fun entry next => entry.revision < next.revision) : revisionsAscend entries = true := by
  induction entries with
  | nil => rfl
  | cons entry rest ih =>
    cases rest with
    | nil => rfl
    | cons next rest =>
      obtain ⟨hhead, hrest⟩ := List.pairwise_cons.mp h
      unfold revisionsAscend
      rw [Bool.and_eq_true]
      exact ⟨decide_eq_true (hhead next (.head _)), ih hrest⟩

/-- An index whose fields and entries are valid and whose pointer names the highest present entry passes. -/
theorem validateCatalogHistoryIndexV1_of_valid {payload : CatalogHistoryIndexPayloadV1}
    {top : CatalogHistoryIndexRevisionEntryV1} (hschema : payload.schemaVersion = 1)
    (hkind : payload.runtimeKind = "wasm") (hrevision : isU53Between payload.currentRevision 1 wasmU53Max = true)
    (hhash : isSha256Hex payload.currentHash = true) (hupdated : isCatalogTimestamp R payload.updatedAt = true)
    (hentries : ∀ entry ∈ payload.revisions, ValidIndexEntry R entry)
    (hascend : payload.revisions.Pairwise fun entry next => entry.revision < next.revision)
    (htop : highestPresent payload.revisions = some top) (hcurrent : payload.currentRevision = top.revision)
    (hcurrentHash : payload.currentHash = top.catalogHash) :
    validateCatalogHistoryIndexV1 R (payload.withDigest R) = .ok (payload.withDigest R) := by
  have hfields : requireIndexFields R (payload.withDigest R) = [] := by
    have hone : isU53Between 1 1 1 = true := by decide
    simp only [requireIndexFields, List.append_eq_nil_iff, requireSafeInteger, requireStringLiteral, requireSha256Hex,
      requireRfc3339Utc, issueUnless_eq_nil, beq_iff_eq, CatalogHistoryIndexPayloadV1.withDigest]
    exact ⟨⟨⟨⟨⟨hschema ▸ hone, hkind⟩, hrevision⟩, hhash⟩, hupdated⟩,
      (R.computeCatalogHistoryIndexDigestV1 payload).property⟩
  unfold validateCatalogHistoryIndexV1
  rw [hfields, ite_failure_eq_ok]
  refine ⟨requireIndexRevisionEntries_eq_nil hentries, ?_⟩
  have hascends : revisionsAscend (payload.withDigest R).revisions = true := revisionsAscend_of_pairwise hascend
  rw [hascends, Bool.not_true, if_neg Bool.false_ne_true]
  have hhighest : highestPresent (payload.withDigest R).revisions = some top := htop
  unfold checkIndexPointer
  rw [hhighest]
  dsimp only
  rw [if_neg, acceptUnless_eq_ok, issueUnless_eq_nil, beq_iff_eq]
  · exact ⟨rfl, rfl⟩
  · rintro (hne | hne)
    · exact hne hcurrent
    · exact hne hcurrentHash

/-! ## The entries of the files -/

theorem ValidHistoryRecord.names {record : CatalogHistoryRecordV1} (h : ValidHistoryRecord R record) :
    isU53Between record.revision 1 wasmU53Max = true ∧ isSha256Hex record.catalogHash = true := by
  have hfields := h.fields
  simp only [requireHistoryFields, List.append_eq_nil_iff, requireSafeInteger, requireSha256Hex,
    issueUnless_eq_nil] at hfields
  exact ⟨hfields.1.1.1.2, hfields.1.1.2⟩

theorem ValidAudit.names {audit : CatalogDeleteAuditV1} (h : ValidAudit R audit) :
    isU53Between audit.revision 1 wasmU53Max = true ∧ isSha256Hex audit.catalogHash = true ∧
      isCatalogTimestamp R audit.deletedAt = true := by
  have hfields := h.fields
  simp only [requireDeleteAuditFields, List.append_eq_nil_iff, requireSafeInteger, requireSha256Hex,
    requireRfc3339Utc, issueUnless_eq_nil] at hfields
  exact ⟨hfields.1.1.1.1.1.1.2, hfields.1.1.1.1.1.2, hfields.1.1.2⟩

theorem ValidReceipt.retention {receipt : CatalogReleaseReceiptV1} (h : ValidReceipt R receipt) :
    isCatalogTimestamp R receipt.releaseRetentionUntil = true := by
  have hfields := h.fields
  unfold requireReleaseReceiptPayload at hfields
  dsimp only at hfields
  split at hfields
  next hne => exact absurd hfields hne
  next hnil =>
    simp only [List.append_eq_nil_iff, requireRfc3339Utc, issueUnless_eq_nil, ne_eq, not_not] at hnil
    exact hnil.2

/-- A receipt that is valid and whose retention was rendered by `toISOString`. -/
structure RenderedReceipt (R : CatalogRules) (receipt : CatalogReleaseReceiptV1) : Prop where
  valid : ValidReceipt R receipt
  rendered : ∃ time, receipt.releaseRetentionUntil = R.toIsoString time

/-- `Date.parse` reads what `toISOString` writes, as far as it has the form of a timestamp. -/
def DatesRoundTrip (R : CatalogRules) : Prop :=
  ∀ time, isRfc3339Text (R.toIsoString time) = true → R.parseDate (R.toIsoString time) = some time

/-- The latest retention is that of one of the receipts. -/
theorem latestRetention_eq_some {receipts : List CatalogReleaseReceiptV1} {revision : Nat} {catalogHash : String}
    {time : TimeValue} (h : latestRetention R receipts revision catalogHash = some time) :
    ∃ receipt ∈ receipts, R.parseDate receipt.releaseRetentionUntil = some time := by
  unfold latestRetention at h
  -- what has been found so far is the retention of a receipt
  refine List.foldlRecOn (motive := fun latest : Option TimeValue => ∀ time, latest = some time →
    ∃ receipt ∈ receipts, R.parseDate receipt.releaseRetentionUntil = some time) receipts _ ?_ ?_ time h
  · intro time hnone
    cases hnone
  · intro latest hlatest receipt hmem found hfound
    split at hfound
    next => exact hlatest found hfound
    next =>
      split at hfound
      next => exact ⟨receipt, hmem, hfound⟩
      next latest date hdate =>
        split at hfound
        next => exact ⟨receipt, hmem, hdate.trans hfound⟩
        next => exact hlatest found hfound
      next => exact hlatest found hfound

/-- The retention an index entry shows is a timestamp. -/
theorem latestReleaseRetention_valid (hdates : DatesRoundTrip R) {receipts : List CatalogReleaseReceiptV1}
    (hreceipts : ∀ receipt ∈ receipts, RenderedReceipt R receipt) {revision : Nat} {catalogHash text : String}
    (h : latestReleaseRetention R receipts revision catalogHash = some text) : isCatalogTimestamp R text = true := by
  obtain ⟨time, hlatest, rfl⟩ := Option.map_eq_some_iff.mp h
  obtain ⟨receipt, hmem, hparse⟩ := latestRetention_eq_some hlatest
  obtain ⟨time', hrendered⟩ := (hreceipts receipt hmem).rendered
  have hvalid := (hreceipts receipt hmem).valid.retention
  have htext : isRfc3339Text (R.toIsoString time') = true := by
    rw [← hrendered]
    exact (Bool.and_eq_true _ _ ▸ hvalid).1
  have htime : time' = time := by
    rw [hrendered, hdates time' htext] at hparse
    exact Option.some.inj hparse
  rw [← htime, ← hrendered]
  exact hvalid

/-! ## The assembled index -/

/-- The files an index is assembled from. -/
structure Assembles (R : CatalogRules) (records : List CatalogHistoryRecordV1) (audits : List CatalogDeleteAuditV1)
    (receipts : List CatalogReleaseReceiptV1) : Prop where
  inhabited : records ≠ []
  valid : ∀ record ∈ records, ValidHistoryRecord R record
  nodup : (records.map fun record => record.revision).Nodup
  audited : ∀ audit ∈ audits, ValidAudit R audit
  auditUnique : (audits.map CatalogDeleteAuditV1.revision).Nodup
  rendered : ∀ receipt ∈ receipts, RenderedReceipt R receipt

theorem presentIndexEntry_valid (hdates : DatesRoundTrip R) {receipts : List CatalogReleaseReceiptV1}
    (hreceipts : ∀ receipt ∈ receipts, RenderedReceipt R receipt) {references : List WasmCatalogEntryReferenceV1}
    (hlength : references.length < 2 ^ 32) {record : CatalogHistoryRecordV1} (h : ValidHistoryRecord R record) :
    ValidIndexEntry R (presentIndexEntry R references receipts record) where
  revision := h.names.1
  catalogHash := h.names.2
  count := by
    have hcount : (references.countP fun reference =>
        reference.runtimeBinding.catalogRevision == record.revision) ≤ references.length := List.countP_le_length
    have hmax : 2 ^ 32 ≤ wasmU53Max := by decide
    have hle := Nat.le_trans (Nat.le_of_lt (Nat.lt_of_le_of_lt hcount hlength)) hmax
    simp only [isU53Between, Bool.and_eq_true, decide_eq_true_eq]
    exact ⟨⟨Nat.zero_le _, hle⟩, hle⟩
  retention _ htext := latestReleaseRetention_valid hdates hreceipts htext
  deletedAt _ htext := nomatch htext
  path := rfl
  coupled := ⟨(fun h => nomatch h), fun h => nomatch h⟩

theorem deletedIndexEntry_valid (hdates : DatesRoundTrip R) {receipts : List CatalogReleaseReceiptV1}
    (hreceipts : ∀ receipt ∈ receipts, RenderedReceipt R receipt) {audit : CatalogDeleteAuditV1}
    (h : ValidAudit R audit) : ValidIndexEntry R (deletedIndexEntry R receipts audit) where
  revision := h.names.1
  catalogHash := h.names.2.1
  count := show isU53Between 0 0 wasmU53Max = true from by decide
  retention _ htext := latestReleaseRetention_valid hdates hreceipts htext
  deletedAt text htext := by
    obtain rfl := Option.some.inj htext
    exact h.names.2.2
  path := rfl
  coupled := ⟨fun _ => rfl, fun _ => rfl⟩

theorem mem_collectedAudits {records : List CatalogHistoryRecordV1} {audits : List CatalogDeleteAuditV1}
    {audit : CatalogDeleteAuditV1} :
    audit ∈ collectedAudits records audits ↔
      audit ∈ audits ∧ ∀ record ∈ records, record.revision ≠ audit.revision := by
  simp [collectedAudits]

/-- Sorted by distinct keys is strictly ascending. -/
theorem pairwise_lt_of_sorted {α : Type} {key : α → Nat} {values : List α}
    (hsorted : values.Pairwise fun value next => key value ≤ key next) (hnodup : (values.map key).Nodup) :
    values.Pairwise fun value next => key value < key next := by
  rw [List.Nodup, List.pairwise_map] at hnodup
  refine (hsorted.and hnodup).imp ?_
  intro value next h
  exact Nat.lt_of_le_of_ne h.1 h.2

/-- The entries of an index, before they are sorted. -/
def indexEntries (R : CatalogRules) (records : List CatalogHistoryRecordV1) (audits : List CatalogDeleteAuditV1)
    (receipts : List CatalogReleaseReceiptV1) (references : List WasmCatalogEntryReferenceV1) :
    List CatalogHistoryIndexRevisionEntryV1 :=
  (sortRecords records).map (presentIndexEntry R references receipts) ++
    (collectedAudits records audits).map (deletedIndexEntry R receipts)

section Assemble

variable {records : List CatalogHistoryRecordV1} {audits : List CatalogDeleteAuditV1}
  {receipts : List CatalogReleaseReceiptV1} {references : List WasmCatalogEntryReferenceV1}

theorem mem_indexEntries {entry : CatalogHistoryIndexRevisionEntryV1} :
    entry ∈ sortIndexEntries (indexEntries R records audits receipts references) ↔
      (∃ record ∈ records, presentIndexEntry R references receipts record = entry) ∨
      ∃ audit ∈ audits, (∀ record ∈ records, record.revision ≠ audit.revision) ∧
        deletedIndexEntry R receipts audit = entry := by
  unfold sortIndexEntries indexEntries
  rw [List.mem_insertionSort, List.mem_append, List.mem_map, List.mem_map]
  constructor
  · rintro (⟨record, hmem, rfl⟩ | ⟨audit, hmem, rfl⟩)
    · exact .inl ⟨record, mem_sortRecords.mp hmem, rfl⟩
    · obtain ⟨haudit, hgone⟩ := mem_collectedAudits.mp hmem
      exact .inr ⟨audit, haudit, hgone, rfl⟩
  · rintro (⟨record, hmem, rfl⟩ | ⟨audit, haudit, hgone, rfl⟩)
    · exact .inl ⟨record, mem_sortRecords.mpr hmem, rfl⟩
    · exact .inr ⟨audit, mem_collectedAudits.mpr ⟨haudit, hgone⟩, rfl⟩

/-- The entries of an index are of distinct revisions. -/
theorem indexEntries_ascend (h : Assembles R records audits receipts) :
    (sortIndexEntries (indexEntries R records audits receipts references)).Pairwise
      fun entry next => entry.revision < next.revision := by
  have hsorted : (sortIndexEntries (indexEntries R records audits receipts references)).Pairwise
      fun entry next => entry.revision ≤ next.revision := List.pairwise_insertionSort _ _
  refine pairwise_lt_of_sorted hsorted ?_
  have hperm := (List.perm_insertionSort (fun left right : CatalogHistoryIndexRevisionEntryV1 =>
    left.revision ≤ right.revision) (indexEntries R records audits receipts references)).map
      fun entry => entry.revision
  refine hperm.nodup_iff.mpr ?_
  unfold indexEntries
  rw [List.map_append, List.map_map, List.map_map]
  refine List.Nodup.append (nodup_sortRecords h.nodup) ?_ ?_
  · have hsub : ((collectedAudits records audits).map CatalogDeleteAuditV1.revision).Sublist
        (audits.map CatalogDeleteAuditV1.revision) := List.filter_sublist.map _
    exact hsub.nodup h.auditUnique
  · intro revision hpresent hdeleted
    obtain ⟨record, hrecord, rfl⟩ := List.mem_map.mp hpresent
    obtain ⟨audit, haudit, heq⟩ := List.mem_map.mp hdeleted
    exact (mem_collectedAudits.mp haudit).2 record (mem_sortRecords.mp hrecord) heq.symm

/-- The highest present entry of an index is that of the highest record. -/
theorem highestPresent_indexEntries (h : Assembles R records audits receipts) {top : CatalogHistoryRecordV1}
    (htop : IsTop records top) :
    highestPresent (sortIndexEntries (indexEntries R records audits receipts references)) =
      some (presentIndexEntry R references receipts top) := by
  unfold highestPresent
  set entries := sortIndexEntries (indexEntries R records audits receipts references) with hentries
  have hmem : presentIndexEntry R references receipts top ∈ entries.filter fun entry => entry.status == .present :=
    List.mem_filter.mpr ⟨mem_indexEntries.mpr (.inl ⟨top, htop.1, rfl⟩), rfl⟩
  have hascend : (entries.filter fun entry => entry.status == .present).Pairwise
      fun entry next => entry.revision < next.revision := (indexEntries_ascend h).filter _
  cases hlast : (entries.filter fun entry => entry.status == .present).getLast? with
  | none =>
    rw [List.getLast?_eq_none_iff] at hlast
    rw [hlast] at hmem
    exact absurd hmem List.not_mem_nil
  | some last =>
    obtain ⟨before, hsplit⟩ := List.getLast?_eq_some_iff.mp hlast
    obtain ⟨hlastMem, hpresent⟩ := List.mem_filter.mp (List.mem_of_getLast? hlast)
    rcases mem_indexEntries.mp hlastMem with ⟨record, hrecord, rfl⟩ | ⟨audit, -, -, rfl⟩
    · rw [hsplit, List.mem_append, List.mem_singleton] at hmem
      rcases hmem with hbefore | heq
      · rw [hsplit, List.pairwise_append] at hascend
        have hlt := hascend.2.2 _ hbefore _ (List.mem_singleton.mpr rfl)
        exact absurd (htop.2 record hrecord) (Nat.not_le_of_lt hlt)
      · rw [heq]
    · cases hpresent

theorem exists_isTop (h : records ≠ []) : ∃ top, (sortRecords records).getLast? = some top := by
  cases hlast : (sortRecords records).getLast? with
  | none =>
    rw [List.getLast?_eq_none_iff] at hlast
    exact absurd (List.Perm.eq_nil (hlast ▸ (List.perm_insertionSort _ records).symm)) h
  | some top => exact ⟨top, rfl⟩

/-- From consistent files the index is always assembled, valid, and determined by its records and audits. -/
theorem assembleCatalogHistoryIndex_ok (hdates : DatesRoundTrip R) (h : Assembles R records audits receipts)
    (hlength : references.length < 2 ^ 32) (now : ClockText R) :
    ∃ index, assembleCatalogHistoryIndex R records audits receipts references now.val = .ok index ∧
      validateCatalogHistoryIndexV1 R index = .ok index ∧ IndexCore records audits (semanticIndexCore index) := by
  obtain ⟨top, hlast⟩ := exists_isTop h.inhabited
  have htop := isTop_getLast?_sortRecords hlast
  let payload : CatalogHistoryIndexPayloadV1 :=
    ⟨1, "wasm", top.revision, top.catalogHash,
      sortIndexEntries (indexEntries R records audits receipts references), now.val⟩
  have hvalid : validateCatalogHistoryIndexV1 R (payload.withDigest R) = .ok (payload.withDigest R) := by
    have hnames := (h.valid top htop.1).names
    refine validateCatalogHistoryIndexV1_of_valid rfl rfl hnames.1 hnames.2 now.property ?_ (indexEntries_ascend h)
      (highestPresent_indexEntries h htop) rfl rfl
    intro entry hentry
    rcases mem_indexEntries.mp hentry with ⟨record, hrecord, rfl⟩ | ⟨audit, haudit, -, rfl⟩
    · exact presentIndexEntry_valid hdates h.rendered hlength (h.valid record hrecord)
    · exact deletedIndexEntry_valid hdates h.rendered (h.audited audit haudit)
  refine ⟨payload.withDigest R, ?_, hvalid, ?_⟩
  · have hupdated : requireRfc3339Utc R now.val "" "updatedAt" indexCode = [] := issueUnless_eq_nil.mpr now.property
    have hempty : records.isEmpty = false := by
      cases hempty : records.isEmpty with
      | false => rfl
      | true => exact absurd (List.isEmpty_iff.mp hempty) h.inhabited
    unfold assembleCatalogHistoryIndex rebuildCatalogHistoryIndex
    rw [hempty, if_neg Bool.false_ne_true, hupdated, if_neg (not_not_intro rfl),
      rebuildRecords_valid h.valid h.nodup fun _ _ => List.not_mem_nil]
    dsimp only
    rw [if_neg (not_not_intro rfl), List.getLast?_map, hlast]
    exact hvalid
  · refine ⟨?_, ?_, top, htop, rfl, rfl⟩
    · show (List.map _ payload.revisions).Pairwise _
      rw [List.pairwise_map]
      exact indexEntries_ascend h
    · intro entry
      show entry ∈ List.map _ payload.revisions ↔ _
      rw [List.mem_map]
      constructor
      · rintro ⟨full, hmem, rfl⟩
        rcases mem_indexEntries.mp hmem with ⟨record, hrecord, rfl⟩ | ⟨audit, haudit, hgone, rfl⟩
        · exact .inl ⟨record, hrecord, rfl⟩
        · exact .inr ⟨audit, haudit, hgone, rfl⟩
      · rintro (⟨record, hrecord, rfl⟩ | ⟨audit, haudit, hgone, rfl⟩)
        · exact ⟨_, mem_indexEntries.mpr (.inl ⟨record, hrecord, rfl⟩), rfl⟩
        · exact ⟨_, mem_indexEntries.mpr (.inr ⟨audit, haudit, hgone, rfl⟩), rfl⟩

end Assemble

end Iweb
