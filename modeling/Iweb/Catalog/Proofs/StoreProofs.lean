import Iweb.Catalog.Proofs.ReadProofs

/-!
# What a call of the catalog store does to its files

Recovery leaves revisions, receipts and audits as they are. A call that goes on from there adds one
revision, adds one receipt, or audits and deletes one revision, and refreshes the index.
-/

namespace Iweb

open CrashHoare WasmCatalogStore

variable {R : CatalogRules} {disk : CatalogDisk}

/-! ## The current record -/

theorem mem_sortRecords {records : List CatalogHistoryRecordV1} {record : CatalogHistoryRecordV1} :
    record ∈ sortRecords records ↔ record ∈ records :=
  List.mem_insertionSort _

/-- The record of the highest revision. -/
def IsTop (records : List CatalogHistoryRecordV1) (top : CatalogHistoryRecordV1) : Prop :=
  top ∈ records ∧ ∀ record ∈ records, record.revision ≤ top.revision

theorem isTop_getLast?_sortRecords {records : List CatalogHistoryRecordV1} {top : CatalogHistoryRecordV1}
    (h : (sortRecords records).getLast? = some top) : IsTop records top := by
  have hmem := List.mem_of_getLast? h
  refine ⟨mem_sortRecords.mp hmem, ?_⟩
  intro record hrecord
  obtain ⟨before, hsplit⟩ := List.getLast?_eq_some_iff.mp h
  have hsorted : (sortRecords records).Pairwise fun left right => left.revision ≤ right.revision :=
    List.pairwise_insertionSort _ _
  rw [hsplit, List.pairwise_append] at hsorted
  have hrecord' := mem_sortRecords.mpr hrecord
  rw [hsplit, List.mem_append, List.mem_singleton] at hrecord'
  rcases hrecord' with hbefore | rfl
  · exact hsorted.2.2 record hbefore top (List.mem_singleton.mpr rfl)
  · exact le_refl _

theorem rebuildRecords_valid {records : List CatalogHistoryRecordV1} {i : Nat} {seen : List Nat}
    (hvalid : ∀ record ∈ records, ValidHistoryRecord R record)
    (hnodup : (records.map fun record => record.revision).Nodup)
    (hseen : ∀ record ∈ records, record.revision ∉ seen) : rebuildRecords R i seen records = ([], records) := by
  induction records generalizing i seen with
  | nil => rfl
  | cons record rest ih =>
    obtain ⟨hfresh, hnodup⟩ := List.nodup_cons.mp hnodup
    have hrest : rebuildRecords R (i + 1) (record.revision :: seen) rest = ([], rest) := by
      refine ih (fun r hr => hvalid r (.tail _ hr)) hnodup fun r hr hmem => ?_
      rcases List.mem_cons.mp hmem with heq | hmem
      · exact hfresh (List.mem_map.mpr ⟨r, hr, heq⟩)
      · exact hseen r (.tail _ hr) hmem
    unfold rebuildRecords
    rw [validateCatalogHistoryRecordV1_eq_ok.mpr ⟨rfl, hvalid record (.head _)⟩]
    dsimp only
    rw [if_neg (by simpa using hseen record (.head _)), hrest]

/-- The index rebuilt from valid records names the highest of them. -/
theorem rebuildCatalogHistoryIndex_eq_ok {records : List CatalogHistoryRecordV1} {updatedAt : String}
    {references : List WasmCatalogEntryReferenceV1} {receipts : List CatalogReleaseReceiptV1}
    {index : CatalogHistoryIndexV1} (hvalid : ∀ record ∈ records, ValidHistoryRecord R record)
    (hnodup : (records.map fun record => record.revision).Nodup)
    (h : rebuildCatalogHistoryIndex R records updatedAt references receipts = .ok index) :
    ∃ top, IsTop records top ∧ index.currentRevision = top.revision ∧ index.currentHash = top.catalogHash ∧
      index.revisions = (sortRecords records).map (presentIndexEntry R references receipts) := by
  unfold rebuildCatalogHistoryIndex at h
  obtain ⟨-, h⟩ := ite_failure_eq_ok.mp h
  rw [rebuildRecords_valid hvalid hnodup (fun _ _ => List.not_mem_nil)] at h
  obtain ⟨-, h⟩ := ite_failure_eq_ok.mp h
  dsimp only at h
  rw [List.getLast?_map] at h
  cases hlast : (sortRecords records).getLast? with
  | none =>
    rw [hlast] at h
    cases h
  | some top =>
    rw [hlast] at h
    obtain rfl := Except.ok.inj h
    exact ⟨top, isTop_getLast?_sortRecords hlast, rfl, rfl, rfl⟩

theorem validateCatalogHistoryIndexV1_eq_ok {index result : CatalogHistoryIndexV1}
    (h : validateCatalogHistoryIndexV1 R index = .ok result) : index = result := by
  unfold validateCatalogHistoryIndexV1 at h
  obtain ⟨-, h⟩ := ite_failure_eq_ok.mp h
  split at h
  next => cases h
  next =>
    unfold checkIndexPointer at h
    split at h
    next => cases h
    next =>
      split at h
      next => cases h
      next => exact (acceptUnless_eq_ok.mp h).2

theorem assembleCatalogHistoryIndex_eq_ok {records : List CatalogHistoryRecordV1}
    {audits : List CatalogDeleteAuditV1} {receipts : List CatalogReleaseReceiptV1}
    {references : List WasmCatalogEntryReferenceV1} {updatedAt : String} {index : CatalogHistoryIndexV1}
    (hvalid : ∀ record ∈ records, ValidHistoryRecord R record)
    (hnodup : (records.map fun record => record.revision).Nodup)
    (h : assembleCatalogHistoryIndex R records audits receipts references updatedAt = .ok index) :
    ∃ top, IsTop records top ∧ index.currentRevision = top.revision ∧ index.currentHash = top.catalogHash ∧
      index.revisions = sortIndexEntries ((sortRecords records).map (presentIndexEntry R references receipts) ++
        (collectedAudits records audits).map (deletedIndexEntry R receipts)) := by
  unfold assembleCatalogHistoryIndex at h
  split at h
  next => cases h
  next =>
    obtain ⟨present, hpresent, h⟩ := bind_eq_ok.mp h
    obtain ⟨top, htop, hrevision, hhash, hrevisions⟩ := rebuildCatalogHistoryIndex_eq_ok hvalid hnodup hpresent
    obtain rfl := validateCatalogHistoryIndexV1_eq_ok h
    exact ⟨top, htop, hrevision, hhash, by rw [← hrevisions]; rfl⟩

/-! ## Recovery -/

/-- A fault that was thrown. -/
def CatalogFault.IsThrown (fault : CatalogFault) : Prop := ∃ code message, fault = .thrown code message

/-- Two stores hold the same revisions, receipts and audits. -/
structure SameFiles (disk disk' : CatalogDisk) : Prop where
  revisions : disk'.revisions = disk.revisions
  receipts : disk'.releaseReceipts = disk.releaseReceipts
  audits : disk'.deleteAudits = disk.deleteAudits

theorem SameFiles.refl (disk : CatalogDisk) : SameFiles disk disk := ⟨rfl, rfl, rfl⟩

theorem SameFiles.trans {a b c : CatalogDisk} (h : SameFiles a b) (h' : SameFiles b c) : SameFiles a c :=
  ⟨h'.revisions.trans h.revisions, h'.receipts.trans h.receipts, h'.audits.trans h.audits⟩

theorem SameFiles.symm {a b : CatalogDisk} (h : SameFiles a b) : SameFiles b a :=
  ⟨h.revisions.symm, h.receipts.symm, h.audits.symm⟩

theorem SameFiles.putIndex (disk : CatalogDisk) (index : CatalogHistoryIndexV1) :
    SameFiles disk (disk.putIndex index) :=
  ⟨rfl, rfl, rfl⟩

theorem SameFiles.readCatalogFiles_eq {disk disk' : CatalogDisk} (h : SameFiles disk disk') :
    readCatalogFiles R disk' = readCatalogFiles R disk := by
  unfold readCatalogFiles readHistoryRecords readReleaseReceipts readDeleteAudits
  rw [h.revisions, h.receipts, h.audits]

/-- What recovery from the files of a store gives. -/
structure Recovered (R : CatalogRules) (disk : CatalogDisk) (state : WasmCatalogRecoveredState) : Prop where
  files : CatalogFiles R disk
  records : state.records = sortRecords disk.revisions.contents
  receipts : state.receipts = disk.releaseReceipts.contents
  audits : state.audits = disk.deleteAudits.contents
  current : ∀ catalog, state.current = some catalog →
    ∃ top, IsTop disk.revisions.contents top ∧ top.catalog = catalog
  uninitialized : state.current = none → disk.revisions.contents = []

theorem Recovered.mem_records {disk : CatalogDisk} {state : WasmCatalogRecoveredState}
    (h : Recovered R disk state) {record : CatalogHistoryRecordV1} :
    record ∈ state.records ↔ record ∈ disk.revisions.contents := by
  rw [h.records]
  exact mem_sortRecords

theorem CatalogFiles.valid {disk : CatalogDisk} (h : CatalogFiles R disk) :
    ∀ record ∈ disk.revisions.contents, ValidHistoryRecord R record := by
  intro record hmem
  obtain ⟨name, hfile⟩ := Directory.mem_contents.mp hmem
  exact h.revisions.valid _ hfile

theorem CatalogFiles.nodup {disk : CatalogDisk} (h : CatalogFiles R disk) :
    (disk.revisions.contents.map fun record => record.revision).Nodup := by
  rw [Directory.contents, List.map_map]
  exact h.revisions.nodup

theorem CatalogFiles.unique {disk : CatalogDisk} (h : CatalogFiles R disk) {record record' : CatalogHistoryRecordV1}
    (hmem : record ∈ disk.revisions.contents) (hmem' : record' ∈ disk.revisions.contents)
    (heq : record.revision = record'.revision) : record = record' :=
  List.inj_on_of_nodup_map h.nodup hmem hmem' heq

theorem nodup_sortRecords {records : List CatalogHistoryRecordV1}
    (h : (records.map fun record => record.revision).Nodup) :
    ((sortRecords records).map fun record => record.revision).Nodup :=
  ((List.perm_insertionSort _ records).map _).nodup_iff.mpr h

theorem IsTop.sortRecords {records : List CatalogHistoryRecordV1} {top : CatalogHistoryRecordV1}
    (h : IsTop (sortRecords records) top) : IsTop records top :=
  ⟨mem_sortRecords.mp h.1, fun record hrecord => h.2 record (mem_sortRecords.mpr hrecord)⟩

theorem writeCatalogIndex_triple {disk : CatalogDisk} {index : CatalogHistoryIndexV1} :
    Triple (SameFiles disk) (writeCatalogIndex index) (fun _ => SameFiles disk)
      (fun fault disk' => SameFiles disk disk' ∧ fault.IsThrown) (SameFiles disk) := by
  refine Triple.write ?_ ?_ ?_
  · intro s hs
    exact hs.trans (SameFiles.putIndex s index)
  · intro s _ hs _
    exact hs.trans (SameFiles.putIndex s index)
  · intro s e _ he
    cases he

theorem repairIndex_triple {disk : CatalogDisk} {mode : WasmCatalogRecoverMode} {rebuilt : CatalogHistoryIndexV1} :
    Triple (SameFiles disk) (repairIndex mode rebuilt) (fun index disk' => SameFiles disk disk' ∧ index = rebuilt)
      (fun fault disk' => SameFiles disk disk' ∧ fault.IsThrown) (SameFiles disk) := by
  unfold repairIndex
  dsimp only
  split
  · exact Triple.bind writeCatalogIndex_triple fun _ => Triple.pure fun _ hs => ⟨hs, rfl⟩
  · exact Triple.pure fun _ hs => ⟨hs, rfl⟩

/-- A settled index points where the rebuilt one does. -/
theorem settleIndex_triple {disk : CatalogDisk} {mode : WasmCatalogRecoverMode} {rebuilt : CatalogHistoryIndexV1} :
    Triple (SameFiles disk) (settleIndex R mode rebuilt)
      (fun index disk' => SameFiles disk disk' ∧ semanticIndexCore index = semanticIndexCore rebuilt)
      (fun fault disk' => SameFiles disk disk' ∧ fault.IsThrown) (SameFiles disk) := by
  have hrepair : Triple (SameFiles disk) (repairIndex mode rebuilt)
      (fun index disk' => SameFiles disk disk' ∧ semanticIndexCore index = semanticIndexCore rebuilt)
      (fun fault disk' => SameFiles disk disk' ∧ fault.IsThrown) (SameFiles disk) :=
    repairIndex_triple.consequence (fun _ hs => hs) (fun _ _ hs => ⟨hs.1, congrArg semanticIndexCore hs.2⟩)
      (fun _ _ hs => hs) fun _ hs => hs
  unfold settleIndex
  split
  · exact hrepair
  · refine Triple.bind (Q := fun _ => SameFiles disk) (Triple.read fun _ hs => hs) fun stored => ?_
    cases stored with
    | absent => exact hrepair
    | corrupt => exact hrepair
    | valid index =>
      dsimp only
      split
      next =>
        exact Triple.lift (fun _ _ _ h => nomatch h) fun _ _ hs h => ⟨hs, _, _, (Except.error.inj h).symm⟩
      next hcore => exact Triple.pure fun _ hs => ⟨hs, not_not.mp hcore⟩

theorem finishRecovery_eq_ok {records : List CatalogHistoryRecordV1} {receipts : List CatalogReleaseReceiptV1}
    {audits : List CatalogDeleteAuditV1} {index : CatalogHistoryIndexV1} {state : WasmCatalogRecoveredState}
    (h : finishRecovery records receipts audits index = .ok state) :
    ∃ record ∈ records, record.revision = index.currentRevision ∧ record.catalogHash = index.currentHash ∧
      state = ⟨records, receipts, audits, some index, some record.catalog⟩ := by
  unfold finishRecovery at h
  split at h
  next => cases h
  next record hfind =>
    have hpointer := List.find?_some hfind
    rw [Bool.and_eq_true, beq_iff_eq, beq_iff_eq] at hpointer
    exact ⟨record, List.mem_of_find?_eq_some hfind, hpointer.1, hpointer.2, (Except.ok.inj h).symm⟩

theorem finishRecovery_onlyThrows {records : List CatalogHistoryRecordV1}
    {receipts : List CatalogReleaseReceiptV1} {audits : List CatalogDeleteAuditV1} {index : CatalogHistoryIndexV1} :
    OnlyThrows (finishRecovery records receipts audits index) := by
  unfold finishRecovery
  split
  · exact .error _ _
  · exact .ok _

theorem recoverState_triple {disk : CatalogDisk} {references : List WasmCatalogEntryReferenceV1}
    {now : ClockText R} {mode : WasmCatalogRecoverMode} :
    Triple (SameFiles disk) (recoverState R references now mode)
      (fun state disk' => SameFiles disk disk' ∧ Recovered R disk state)
      (fun fault disk' => SameFiles disk disk' ∧ fault.IsThrown) (SameFiles disk) := by
  unfold recoverState
  refine Triple.bind (Q := fun files disk' => SameFiles disk disk' ∧ files = readCatalogFiles R disk)
    (Triple.read fun s hs => ⟨hs, hs.readCatalogFiles_eq⟩) fun files => ?_
  refine Triple.assume (fun _ hs => hs.2) ?_
  rintro rfl
  refine Triple.bind (Q := fun contents disk' => SameFiles disk disk' ∧ readCatalogFiles R disk = .ok contents)
    (Triple.lift (fun _ _ hs h => ⟨hs.1, h⟩) fun _ e hs h => ⟨hs.1, readCatalogFiles_onlyThrows e h⟩)
    fun contents => ?_
  refine Triple.assume (fun _ hs => hs.2) fun hcontents => ?_
  obtain ⟨records, receipts, audits⟩ := contents
  obtain ⟨rfl, rfl, rfl, hfiles⟩ := readCatalogFiles_eq_ok.mp hcontents
  dsimp only
  split
  next hempty =>
    rw [Bool.and_eq_true, Bool.and_eq_true, List.isEmpty_iff] at hempty
    have hnone : disk.revisions.contents = [] :=
      List.Perm.eq_nil (hempty.1.1 ▸ (List.perm_insertionSort _ disk.revisions.contents).symm)
    refine Triple.bind (Q := fun _ => SameFiles disk) (Triple.read fun _ hs => hs.1) fun stored => ?_
    have hstate : Recovered R disk ⟨sortRecords disk.revisions.contents, disk.releaseReceipts.contents,
        disk.deleteAudits.contents, none, none⟩ :=
      ⟨hfiles, rfl, rfl, rfl, (fun _ h => nomatch h), fun _ => hnone⟩
    cases stored with
    | absent => exact Triple.pure fun _ hs => ⟨hs, hstate⟩
    | corrupt => exact Triple.pure fun _ hs => ⟨hs, hstate⟩
    | valid index =>
      exact Triple.lift (fun _ _ _ h => nomatch h) fun _ _ hs h => ⟨hs, _, _, (Except.error.inj h).symm⟩
  next =>
    refine Triple.bind (Q := fun rebuilt disk' => SameFiles disk disk' ∧ assembleCatalogHistoryIndex R
        (sortRecords disk.revisions.contents) disk.deleteAudits.contents disk.releaseReceipts.contents references
        now.val = .ok rebuilt)
      (Triple.lift (fun _ _ hs h => ⟨hs.1, orThrow_eq_ok.mp h⟩) fun _ e hs h => ⟨hs.1, OnlyThrows.orThrow e h⟩)
      fun rebuilt => ?_
    refine Triple.assume (fun _ hs => hs.2) fun hrebuilt => ?_
    have hvalid : ∀ record ∈ sortRecords disk.revisions.contents, ValidHistoryRecord R record :=
      fun record hmem => hfiles.valid record (mem_sortRecords.mp hmem)
    obtain ⟨top, htop, hrevision, -⟩ :=
      assembleCatalogHistoryIndex_eq_ok hvalid (nodup_sortRecords hfiles.nodup) hrebuilt
    refine Triple.bind (settleIndex_triple.consequence (fun _ hs => hs.1) (fun _ _ h => h) (fun _ _ h => h)
      fun _ h => h) fun index => ?_
    refine Triple.lift ?_ fun _ e hs h => ⟨hs.1, finishRecovery_onlyThrows e h⟩
    intro s state hs hfinish
    refine ⟨hs.1, ?_⟩
    obtain ⟨record, hmem, hpointer, -, rfl⟩ := finishRecovery_eq_ok hfinish
    have hcurrent : index.currentRevision = rebuilt.currentRevision := congrArg Prod.fst hs.2
    refine ⟨hfiles, rfl, rfl, rfl, ?_, fun h => nomatch h⟩
    intro catalog hcatalog
    refine ⟨record, IsTop.sortRecords ⟨hmem, ?_⟩, Option.some.inj hcatalog⟩
    intro other hother
    rw [hpointer, hcurrent, hrevision]
    exact htop.2 other hother

/-! ## Changes of single files -/

theorem mem_putRecord (h : CatalogFiles R disk) {record : CatalogHistoryRecordV1}
    (hfresh : ∀ stored ∈ disk.revisions.contents, stored.revision ≠ record.revision)
    {record' : CatalogHistoryRecordV1} :
    record' ∈ (disk.putRecord record).revisions.contents ↔
      record' = record ∨ record' ∈ disk.revisions.contents := by
  rw [Directory.mem_contents, Directory.mem_contents]
  constructor
  · rintro ⟨name, hfile⟩
    rcases Directory.mem_files_write.mp hfile with heq | ⟨hfile, -⟩
    · exact .inl (Prod.ext_iff.mp heq).2
    · exact .inr ⟨name, hfile⟩
  · rintro (rfl | ⟨name, hfile⟩)
    · exact ⟨_, Directory.mem_files_write.mpr (.inl rfl)⟩
    · refine ⟨name, Directory.mem_files_write.mpr (.inr ⟨hfile, ?_⟩)⟩
      intro hname
      have hown : name = catalogHistoryRevisionFileName record'.revision record'.catalogHash :=
        h.revisions.name _ hfile
      exact hfresh record' (Directory.mem_contents.mpr ⟨name, hfile⟩)
        (catalogHistoryRevisionFileName_injective (hown.symm.trans hname)).1

theorem mem_dropRecord (h : CatalogFiles R disk) {record : CatalogHistoryRecordV1}
    (hmem : record ∈ disk.revisions.contents) {record' : CatalogHistoryRecordV1} :
    record' ∈ (disk.dropRecord record).revisions.contents ↔
      record' ∈ disk.revisions.contents ∧ record' ≠ record := by
  have hown : ∀ name stored, (name, stored) ∈ disk.revisions.files →
      name = catalogHistoryRevisionFileName stored.revision stored.catalogHash :=
    fun name stored hfile => h.revisions.name _ hfile
  rw [Directory.mem_contents, Directory.mem_contents]
  constructor
  · rintro ⟨name, hfile⟩
    obtain ⟨hkept, hname⟩ := Directory.mem_files_remove.mp hfile
    refine ⟨⟨name, hkept⟩, ?_⟩
    rintro rfl
    exact hname (hown name _ hkept)
  · rintro ⟨⟨name, hfile⟩, hne⟩
    refine ⟨name, Directory.mem_files_remove.mpr ⟨hfile, ?_⟩⟩
    intro hname
    have hrevision := (catalogHistoryRevisionFileName_injective ((hown name _ hfile).symm.trans hname)).1
    exact hne (h.unique (Directory.mem_contents.mpr ⟨name, hfile⟩) hmem hrevision)

/-- A receipt under a new name leaves the others in place. -/
theorem mem_putReceipt {name : String} {receipt receipt' : CatalogReleaseReceiptV1}
    (hfresh : disk.releaseReceipts.read name = none) :
    receipt' ∈ (disk.putReceipt name receipt).releaseReceipts.contents ↔
      receipt' = receipt ∨ receipt' ∈ disk.releaseReceipts.contents := by
  rw [Directory.mem_contents, Directory.mem_contents]
  constructor
  · rintro ⟨other, hfile⟩
    rcases Directory.mem_files_write.mp hfile with heq | ⟨hfile, -⟩
    · exact .inl (Prod.ext_iff.mp heq).2
    · exact .inr ⟨other, hfile⟩
  · rintro (rfl | ⟨other, hfile⟩)
    · exact ⟨_, Directory.mem_files_write.mpr (.inl rfl)⟩
    · exact ⟨other, Directory.mem_files_write.mpr (.inr ⟨hfile, Directory.read_eq_none.mp hfresh _ hfile⟩)⟩

/-! ## What a call can do -/

/-- A record of a catalog, of a revision that has no file. -/
structure NewRecord (R : CatalogRules) (disk : CatalogDisk) (catalog : RuntimeCatalogV1)
    (record : CatalogHistoryRecordV1) : Prop where
  valid : ValidHistoryRecord R record
  catalog_eq : record.catalog = catalog
  fresh : ∀ stored ∈ disk.revisions.contents, stored.revision ≠ record.revision

/-- A deletion that passed every check: its receipt, its record and the result of the contract. -/
structure GcPasses (R : CatalogRules) (disk : CatalogDisk) (input : WasmCatalogGcInput)
    (receipt : CatalogReleaseReceiptV1) (record : CatalogHistoryRecordV1) (result : CatalogHistoryGcResultV1) :
    Prop where
  receipt_mem : receipt ∈ disk.releaseReceipts.contents
  releaseId : receipt.releaseId = input.releaseId
  record_mem : record ∈ disk.revisions.contents
  revision : record.revision = receipt.catalogRevision
  catalogHash : record.catalogHash = receipt.catalogHash
  notLast : disk.revisions.contents.length ≠ 1
  computed : gcCatalogHistoryRevision R (gcRequest input receipt record) = .ok result

/-- What the files can be after one of the writes of a call. -/
inductive CallEffect (R : CatalogRules) (disk : CatalogDisk) : CatalogCall R → CatalogDisk → Prop
  | untouched (call : CatalogCall R) : CallEffect R disk call disk
  | bootstrapped {payload : RuntimeCatalogPayloadV1} {clock : CatalogClock R} {record : CatalogHistoryRecordV1}
      (hfiles : CatalogFiles R disk) (hempty : disk.revisions.contents = [])
      (hseal : sealRuntimeCatalogV1 R payload = .ok record.catalog) (hnew : NewRecord R disk record.catalog record) :
      CallEffect R disk (.bootstrap payload clock) (disk.putRecord record)
  | appended {expected : RuntimeCatalogRevisionPinV1} {next : RuntimeCatalogPayloadV1}
      {references : CatalogReferences} {clock : CatalogClock R} {top record : CatalogHistoryRecordV1}
      (hfiles : CatalogFiles R disk) (htop : IsTop disk.revisions.contents top)
      (happend : appendRuntimeCatalogRevision R top.catalog expected next references.val = .ok record.catalog)
      (hnew : NewRecord R disk record.catalog record) :
      CallEffect R disk (.append expected next references clock) (disk.putRecord record)
  | revoked {expected : RuntimeCatalogRevisionPinV1} {entryKey : String} {revocation : RuntimeCatalogRevocationV1}
      {references : CatalogReferences} {clock : CatalogClock R} {top record : CatalogHistoryRecordV1}
      (hfiles : CatalogFiles R disk) (htop : IsTop disk.revisions.contents top)
      (hrevoke : revokeRuntimeCatalogEntry R top.catalog expected entryKey revocation = .ok record.catalog)
      (hnew : NewRecord R disk record.catalog record) :
      CallEffect R disk (.revoke expected entryKey revocation references clock) (disk.putRecord record)
  | released {input : WasmCatalogReleaseInput} {clock : CatalogClock R} {top : CatalogHistoryRecordV1}
      {receipt : CatalogReleaseReceiptV1} (hfiles : CatalogFiles R disk) (htop : IsTop disk.revisions.contents top)
      (hrelease : releaseRuntimeCatalogEntry R ⟨top.catalog, input.entryKey, input.references.val, input.releaseId,
        input.ownerCommandId, input.drainedAt, input.releasedAt⟩ = some (.ok receipt))
      (hfresh : disk.releaseReceipts.read (catalogReleaseReceiptFileName input.releaseId) = none) :
      CallEffect R disk (.release input clock)
        (disk.putReceipt (catalogReleaseReceiptFileName input.releaseId) receipt)
  | audited {input : WasmCatalogGcInput} {clock : CatalogClock R} {receipt : CatalogReleaseReceiptV1}
      {record : CatalogHistoryRecordV1} {result : CatalogHistoryGcResultV1} (hfiles : CatalogFiles R disk)
      (hgc : GcPasses R disk input receipt record result)
      (hfresh : ∀ audit ∈ disk.deleteAudits.contents, audit.deleteId ≠ input.deleteId) :
      CallEffect R disk (.gc input clock)
        (disk.putAudit (catalogDeleteAuditFileName input.deleteId) result.audit)
  | collected {input : WasmCatalogGcInput} {clock : CatalogClock R} {receipt : CatalogReleaseReceiptV1}
      {record : CatalogHistoryRecordV1} {result : CatalogHistoryGcResultV1} (hfiles : CatalogFiles R disk)
      (hgc : GcPasses R disk input receipt record result)
      (hfresh : ∀ audit ∈ disk.deleteAudits.contents, audit.deleteId ≠ input.deleteId) :
      CallEffect R disk (.gc input clock)
        ((disk.putAudit (catalogDeleteAuditFileName input.deleteId) result.audit).dropRecord record)
  | completed {input : WasmCatalogGcInput} {clock : CatalogClock R} {receipt : CatalogReleaseReceiptV1}
      {record : CatalogHistoryRecordV1} {result : CatalogHistoryGcResultV1} (hfiles : CatalogFiles R disk)
      (hgc : GcPasses R disk input receipt record result) (haudit : result.audit ∈ disk.deleteAudits.contents) :
      CallEffect R disk (.gc input clock) (disk.dropRecord record)

/-- The files of a store are those of one of the stages of a call. -/
def Reaches (R : CatalogRules) (disk : CatalogDisk) (call : CatalogCall R) (disk' : CatalogDisk) : Prop :=
  ∃ stage, CallEffect R disk call stage ∧ SameFiles stage disk'

theorem Reaches.of_same {disk disk' : CatalogDisk} {call : CatalogCall R} (h : SameFiles disk disk') :
    Reaches R disk call disk' :=
  ⟨disk, .untouched call, h⟩

theorem writeRefreshedIndex_triple {disk : CatalogDisk} {records : List CatalogHistoryRecordV1}
    {audits : List CatalogDeleteAuditV1} {receipts : List CatalogReleaseReceiptV1}
    {references : List WasmCatalogEntryReferenceV1} {now : ClockText R} :
    Triple (SameFiles disk) (writeRefreshedIndex R records audits receipts references now)
      (fun _ => SameFiles disk) (fun _ => SameFiles disk) (SameFiles disk) := by
  unfold writeRefreshedIndex
  refine Triple.bind (Triple.lift (fun _ _ hs _ => hs) fun _ _ hs _ => hs) fun _ => ?_
  exact writeCatalogIndex_triple.consequence (fun _ hs => hs) (fun _ _ hs => hs) (fun _ _ hs => hs.1) fun _ hs => hs

/-- A triple about the files at one stage of a call, read as one about the whole call. -/
theorem triple_reaches {α : Type} {disk stage : CatalogDisk} {call : CatalogCall R} {m : CatalogProg α}
    (hstage : CallEffect R disk call stage)
    (h : Triple (SameFiles stage) m (fun _ => SameFiles stage) (fun _ => SameFiles stage) (SameFiles stage)) :
    Triple (SameFiles stage) m (fun _ => Reaches R disk call) (fun _ => Reaches R disk call)
      (Reaches R disk call) :=
  h.consequence (fun _ hs => hs) (fun _ _ hs => ⟨stage, hstage, hs⟩) (fun _ _ hs => ⟨stage, hstage, hs⟩)
    fun _ hs => ⟨stage, hstage, hs⟩

/-- A write that takes the files to the next stage of a call. -/
theorem triple_write_stage {disk stage next : CatalogDisk} {call : CatalogCall R} {f : CatalogDisk → CatalogDisk}
    (hstage : CallEffect R disk call next) (h : ∀ s, SameFiles stage s → SameFiles next (f s)) :
    Triple (SameFiles stage) (Prog.write fun s => (f s, .ok ()) : CatalogProg Unit) (fun _ => SameFiles next)
      (fun _ => Reaches R disk call) (Reaches R disk call) := by
  refine Triple.write ?_ ?_ ?_
  · intro s hs
    exact ⟨next, hstage, h s hs⟩
  · intro s _ hs _
    exact h s hs
  · intro s e _ he
    cases he

theorem SameFiles.putRecord {disk disk' : CatalogDisk} (h : SameFiles disk disk') (record : CatalogHistoryRecordV1) :
    SameFiles (disk.putRecord record) (disk'.putRecord record) :=
  ⟨by simp only [CatalogDisk.putRecord, h.revisions], h.receipts, h.audits⟩

theorem SameFiles.dropRecord {disk disk' : CatalogDisk} (h : SameFiles disk disk')
    (record : CatalogHistoryRecordV1) : SameFiles (disk.dropRecord record) (disk'.dropRecord record) :=
  ⟨by simp only [CatalogDisk.dropRecord, h.revisions], h.receipts, h.audits⟩

theorem SameFiles.putReceipt {disk disk' : CatalogDisk} (h : SameFiles disk disk') (name : String)
    (receipt : CatalogReleaseReceiptV1) : SameFiles (disk.putReceipt name receipt) (disk'.putReceipt name receipt) :=
  ⟨h.revisions, by simp only [CatalogDisk.putReceipt, h.receipts], h.audits⟩

theorem SameFiles.putAudit {disk disk' : CatalogDisk} (h : SameFiles disk disk') (name : String)
    (audit : CatalogDeleteAuditV1) : SameFiles (disk.putAudit name audit) (disk'.putAudit name audit) :=
  ⟨h.revisions, h.receipts, by simp only [CatalogDisk.putAudit, h.audits]⟩

theorem persistAppendedRevision_triple {disk : CatalogDisk} {call : CatalogCall R}
    {state : WasmCatalogRecoveredState} {catalog : RuntimeCatalogV1}
    {references : List WasmCatalogEntryReferenceV1} {clock : CatalogClock R} (hstate : Recovered R disk state)
    (heffect : ∀ record, NewRecord R disk catalog record → CallEffect R disk call (disk.putRecord record)) :
    Triple (SameFiles disk) (persistAppendedRevision R state catalog references clock)
      (fun _ => Reaches R disk call) (fun _ => Reaches R disk call) (Reaches R disk call) := by
  unfold persistAppendedRevision
  refine Triple.bind (Q := fun record disk' => SameFiles disk disk' ∧ sealCatalogHistoryRecordV1 R
      ⟨1, "wasm", catalog.revision, catalog.catalogHash, catalog, clock.stored.val⟩ = .ok record)
    (Triple.lift (fun _ _ hs h => ⟨hs, orFault_eq_ok.mp h⟩) fun _ _ hs _ => Reaches.of_same hs) fun record => ?_
  refine Triple.assume (fun _ hs => hs.2) fun hseal => ?_
  split
  next => exact Triple.lift (fun _ _ _ h => nomatch h) fun _ _ hs _ => Reaches.of_same hs.1
  next hfresh =>
    have hnew : NewRecord R disk catalog record := by
      refine ⟨ValidHistoryRecord.of_seal hseal, ?_, ?_⟩
      · obtain ⟨-, -, -, rfl⟩ := sealCatalogHistoryRecordV1_eq_ok.mp hseal
        rfl
      · intro stored hmem heq
        exact hfresh (List.any_eq_true.mpr ⟨stored, hstate.mem_records.mpr hmem, beq_iff_eq.mpr heq⟩)
    have hstage := heffect record hnew
    refine Triple.bind ((triple_write_stage hstage fun s hs => hs.putRecord record).consequence (fun _ hs => hs.1)
      (fun _ _ hs => hs) (fun _ _ hs => hs) fun _ hs => hs) fun _ => ?_
    refine Triple.bind (Q := fun _ => Reaches R disk call) (triple_reaches hstage writeRefreshedIndex_triple) fun _ => ?_
    exact Triple.pure fun _ hs => hs

theorem recovered_reaches {disk : CatalogDisk} {call : CatalogCall R} {references : List WasmCatalogEntryReferenceV1}
    {now : ClockText R} {mode : WasmCatalogRecoverMode} :
    Triple (SameFiles disk) (recoverState R references now mode)
      (fun state disk' => SameFiles disk disk' ∧ Recovered R disk state) (fun _ => Reaches R disk call)
      (Reaches R disk call) :=
  recoverState_triple.consequence (fun _ hs => hs) (fun _ _ hs => hs) (fun _ _ hs => Reaches.of_same hs.1)
    fun _ hs => Reaches.of_same hs

/-- A call that ends with a fault before it writes. -/
theorem triple_fault {α : Type} {disk : CatalogDisk} {call : CatalogCall R} {fault : CatalogFault}
    {Q : α → CatalogDisk → Prop} :
    Triple (SameFiles disk) (Prog.lift (.error fault) : CatalogProg α) Q (fun _ => Reaches R disk call)
      (Reaches R disk call) :=
  Triple.lift (fun _ _ _ h => nomatch h) fun _ _ hs _ => Reaches.of_same hs

/-- A result computed from what was recovered. -/
theorem triple_compute {α : Type} {disk : CatalogDisk} {call : CatalogCall R} {x : Except CatalogFault α} :
    Triple (SameFiles disk) (Prog.lift x) (fun a disk' => SameFiles disk disk' ∧ x = .ok a)
      (fun _ => Reaches R disk call) (Reaches R disk call) :=
  Triple.lift (fun _ _ hs h => ⟨hs, h⟩) fun _ _ hs _ => Reaches.of_same hs

theorem bootstrap_triple {payload : RuntimeCatalogPayloadV1} {clock : CatalogClock R} :
    Triple (SameFiles disk) (bootstrap R payload clock) (fun _ => Reaches R disk (.bootstrap payload clock))
      (fun _ => Reaches R disk (.bootstrap payload clock)) (Reaches R disk (.bootstrap payload clock)) := by
  unfold bootstrap
  refine Triple.bind recovered_reaches fun state => Triple.assume (fun _ hs => hs.2) fun hstate => ?_
  split
  next => exact triple_fault.consequence (fun _ hs => hs.1) (fun _ _ hs => hs) (fun _ _ hs => hs) fun _ hs => hs
  next hnone =>
    have hcurrent : state.current = none := by
      cases hcurrent : state.current with
      | none => rfl
      | some catalog => exact absurd (by simp [hcurrent]) hnone
    refine Triple.bind (triple_compute.consequence (fun _ hs => hs.1) (fun _ _ hs => hs) (fun _ _ hs => hs)
      fun _ hs => hs) fun catalog => Triple.assume (fun _ hs => hs.2) fun hseal => ?_
    refine (persistAppendedRevision_triple hstate ?_).consequence (fun _ hs => hs.1) (fun _ _ hs => hs)
      (fun _ _ hs => hs) fun _ hs => hs
    rintro record hnew
    obtain rfl := hnew.catalog_eq
    exact .bootstrapped hstate.files (hstate.uninitialized hcurrent) (orFault_eq_ok.mp hseal) hnew

theorem append_triple {expected : RuntimeCatalogRevisionPinV1} {next : RuntimeCatalogPayloadV1}
    {references : CatalogReferences} {clock : CatalogClock R} :
    Triple (SameFiles disk) (WasmCatalogStore.append R expected next references clock)
      (fun _ => Reaches R disk (.append expected next references clock))
      (fun _ => Reaches R disk (.append expected next references clock))
      (Reaches R disk (.append expected next references clock)) := by
  unfold WasmCatalogStore.append
  refine Triple.bind recovered_reaches fun state => Triple.assume (fun _ hs => hs.2) fun hstate => ?_
  cases hcurrent : state.current with
  | none => exact triple_fault.consequence (fun _ hs => hs.1) (fun _ _ hs => hs) (fun _ _ hs => hs) fun _ hs => hs
  | some current =>
    obtain ⟨top, htop, rfl⟩ := hstate.current current hcurrent
    refine Triple.bind (triple_compute.consequence (fun _ hs => hs.1) (fun _ _ hs => hs) (fun _ _ hs => hs)
      fun _ hs => hs) fun catalog => Triple.assume (fun _ hs => hs.2) fun happend => ?_
    refine (persistAppendedRevision_triple hstate ?_).consequence (fun _ hs => hs.1) (fun _ _ hs => hs)
      (fun _ _ hs => hs) fun _ hs => hs
    rintro record hnew
    obtain rfl := hnew.catalog_eq
    exact .appended hstate.files htop (orFault_eq_ok.mp happend) hnew

theorem revoke_triple {expected : RuntimeCatalogRevisionPinV1} {entryKey : String}
    {revocation : RuntimeCatalogRevocationV1} {references : CatalogReferences}
    {clock : CatalogClock R} :
    Triple (SameFiles disk) (revoke R expected entryKey revocation references clock)
      (fun _ => Reaches R disk (.revoke expected entryKey revocation references clock))
      (fun _ => Reaches R disk (.revoke expected entryKey revocation references clock))
      (Reaches R disk (.revoke expected entryKey revocation references clock)) := by
  unfold revoke
  refine Triple.bind recovered_reaches fun state => Triple.assume (fun _ hs => hs.2) fun hstate => ?_
  cases hcurrent : state.current with
  | none => exact triple_fault.consequence (fun _ hs => hs.1) (fun _ _ hs => hs) (fun _ _ hs => hs) fun _ hs => hs
  | some current =>
    obtain ⟨top, htop, rfl⟩ := hstate.current current hcurrent
    refine Triple.bind (triple_compute.consequence (fun _ hs => hs.1) (fun _ _ hs => hs) (fun _ _ hs => hs)
      fun _ hs => hs) fun catalog => Triple.assume (fun _ hs => hs.2) fun hrevoke => ?_
    refine (persistAppendedRevision_triple hstate ?_).consequence (fun _ hs => hs.1) (fun _ _ hs => hs)
      (fun _ _ hs => hs) fun _ hs => hs
    rintro record hnew
    obtain rfl := hnew.catalog_eq
    exact .revoked hstate.files htop (orFault_eq_ok.mp hrevoke) hnew

/-- Reading back and refreshing the index leave the files of a stage alone. -/
theorem confirm_triple {α β : Type} [DecidableEq α] {stage : CatalogDisk} {validate : α → ValidationResult α}
    {stored : CatalogDisk → Option α} {written : α} {message : String} {rest : Unit → CatalogProg β}
    (hrest : Triple (SameFiles stage) (rest ()) (fun _ => SameFiles stage) (fun _ => SameFiles stage)
      (SameFiles stage)) :
    Triple (SameFiles stage)
      (do
        let found ← Prog.read stored
        let confirmed ← Prog.lift (confirmReadback validate found written message)
        rest confirmed)
      (fun _ => SameFiles stage) (fun _ => SameFiles stage) (SameFiles stage) :=
  Triple.bind (Triple.read fun _ hs => hs) fun _ =>
    Triple.bind (Triple.lift (fun _ _ hs _ => hs) fun _ _ hs _ => hs) fun _ => hrest

theorem release_triple {input : WasmCatalogReleaseInput} {clock : CatalogClock R} :
    Triple (SameFiles disk) (release R input clock) (fun _ => Reaches R disk (.release input clock))
      (fun _ => Reaches R disk (.release input clock)) (Reaches R disk (.release input clock)) := by
  unfold release
  refine Triple.bind recovered_reaches fun state => Triple.assume (fun _ hs => hs.2) fun hstate => ?_
  refine Triple.bind (Q := fun stored disk' => SameFiles disk disk' ∧
      stored = disk.releaseReceipts.read (catalogReleaseReceiptFileName input.releaseId))
    (Triple.read fun s hs => ⟨hs.1, by rw [hs.1.receipts]⟩) fun stored => Triple.assume (fun _ hs => hs.2) fun hstored => ?_
  cases stored with
  | some stored =>
    exact Triple.lift (fun _ _ hs _ => Reaches.of_same hs.1) fun _ _ hs _ => Reaches.of_same hs.1
  | none =>
    cases hcurrent : state.current with
    | none =>
      exact triple_fault.consequence (fun _ hs => hs.1) (fun _ _ hs => hs) (fun _ _ hs => hs) fun _ hs => hs
    | some current =>
      obtain ⟨top, htop, rfl⟩ := hstate.current current hcurrent
      refine Triple.bind (triple_compute.consequence (fun _ hs => hs.1) (fun _ _ hs => hs) (fun _ _ hs => hs)
        fun _ hs => hs) fun receipt => Triple.assume (fun _ hs => hs.2) fun hrelease => ?_
      have hreceipt : releaseRuntimeCatalogEntry R ⟨top.catalog, input.entryKey, input.references.val, input.releaseId,
          input.ownerCommandId, input.drainedAt, input.releasedAt⟩ = some (.ok receipt) := by
        cases hresult : releaseRuntimeCatalogEntry R ⟨top.catalog, input.entryKey, input.references.val,
            input.releaseId, input.ownerCommandId, input.drainedAt, input.releasedAt⟩ with
        | none =>
          rw [hresult] at hrelease
          cases hrelease
        | some result =>
          rw [hresult] at hrelease
          exact congrArg some (orFault_eq_ok.mp hrelease)
      have hstage : CallEffect R disk (.release input clock)
          (disk.putReceipt (catalogReleaseReceiptFileName input.releaseId) receipt) :=
        .released hstate.files htop hreceipt hstored.symm
      refine Triple.bind ((triple_write_stage hstage fun s hs => hs.putReceipt _ receipt).consequence
        (fun _ hs => hs.1) (fun _ _ hs => hs) (fun _ _ hs => hs) fun _ hs => hs) fun _ => ?_
      refine triple_reaches hstage (confirm_triple ?_)
      exact Triple.bind writeRefreshedIndex_triple fun _ => Triple.pure fun _ hs => hs

theorem gcCatalogHistoryRevision_audit {request : CatalogHistoryGcRequestV1} {result : CatalogHistoryGcResultV1}
    (h : gcCatalogHistoryRevision R request = .ok result) :
    result.audit = deleteAuditOf R request ∧ ValidAudit R result.audit ∧
      requireGcFields R request.deleteId request.ownerCommandId request.deletedAt request.reason = [] ∧
      request.receipt.catalogRevision = request.record.revision ∧
      request.receipt.catalogHash = request.record.catalogHash ∧
      pinsRevision request.references request.record.revision = false ∧
      retentionElapsed R request.deletedAt request.receipt = true := by
  unfold gcCatalogHistoryRevision at h
  obtain ⟨hfields, h⟩ := ite_failure_eq_ok.mp h
  split at h
  next => cases h
  next hbinds =>
    split at h
    next => cases h
    next =>
      split at h
      next => cases h
      next hpins =>
        split at h
        next => cases h
        next helapsed =>
          obtain ⟨audit, haudit, h⟩ := bind_eq_ok.mp h
          obtain ⟨rfl, hvalid⟩ := validateCatalogDeleteAuditV1_eq_ok.mp haudit
          obtain rfl := Except.ok.inj h
          refine ⟨rfl, hvalid, hfields, not_not.mp fun h => hbinds (.inl h),
            not_not.mp fun h => hbinds (.inr h), ?_, ?_⟩
          · simpa using hpins
          · simpa using helapsed

theorem gcPresent_triple {input : WasmCatalogGcInput} {clock : CatalogClock R} {state : WasmCatalogRecoveredState}
    {receipt : CatalogReleaseReceiptV1} {record : CatalogHistoryRecordV1} (hstate : Recovered R disk state)
    (hreceipt : gcReceipt state input = some receipt) (hrecord : gcRecord state receipt = some record) :
    Triple (SameFiles disk) (gcPresent R state receipt record input clock) (fun _ => Reaches R disk (.gc input clock))
      (fun _ => Reaches R disk (.gc input clock)) (Reaches R disk (.gc input clock)) := by
  have hreceiptMem : receipt ∈ disk.releaseReceipts.contents := by
    rw [← hstate.receipts]
    exact List.mem_of_find?_eq_some hreceipt
  have hrecordMem := hstate.mem_records.mp (List.mem_of_find?_eq_some hrecord)
  have hid : receipt.releaseId = input.releaseId := by simpa using List.find?_some hreceipt
  have hbinds := List.find?_some hrecord
  rw [Bool.and_eq_true, beq_iff_eq, beq_iff_eq] at hbinds
  have hlength : state.records.length = disk.revisions.contents.length := by
    rw [hstate.records]
    exact List.length_insertionSort _ _
  unfold gcPresent
  split
  next => exact triple_fault
  next hlast =>
    cases hcomputed : gcCatalogHistoryRevision R (gcRequest input receipt record) with
    | error errors =>
      dsimp only
      split
      next =>
        refine Triple.bind (Q := fun _ => SameFiles disk) ?_ fun _ => triple_fault
        exact writeRefreshedIndex_triple.consequence (fun _ hs => hs) (fun _ _ hs => hs)
          (fun _ _ hs => Reaches.of_same hs) fun _ hs => Reaches.of_same hs
      next => exact triple_fault
    | ok result =>
      dsimp only
      have hpasses : GcPasses R disk input receipt record result :=
        ⟨hreceiptMem, hid, hrecordMem, hbinds.1, hbinds.2, hlength ▸ hlast, hcomputed⟩
      cases haudit : gcAudit state input with
      | some existing =>
        have hexisting : existing ∈ disk.deleteAudits.contents := by
          rw [← hstate.audits]
          exact List.mem_of_find?_eq_some haudit
        refine Triple.bind (Q := fun _ disk' => SameFiles disk disk' ∧ existing = result.audit) ?_
          fun _ => Triple.assume (fun _ hs => hs.2) fun hequal => ?_
        · refine Triple.lift ?_ fun _ _ hs _ => Reaches.of_same hs
          intro s _ hs hsame
          refine ⟨hs, ?_⟩
          by_contra hne
          rw [if_neg hne] at hsame
          cases hsame
        · have hstage : CallEffect R disk (.gc input clock) (disk.dropRecord record) :=
            .completed hstate.files hpasses (hequal ▸ hexisting)
          refine Triple.bind (Q := fun _ => Reaches R disk (.gc input clock)) ?_ fun _ => Triple.pure fun _ hs => hs
          unfold collectRevision
          refine Triple.bind ((triple_write_stage hstage fun s hs => hs.dropRecord record).consequence
            (fun _ hs => hs.1) (fun _ _ hs => hs) (fun _ _ hs => hs) fun _ hs => hs) fun _ => ?_
          exact triple_reaches hstage writeRefreshedIndex_triple
      | none =>
        have hfresh : ∀ audit ∈ disk.deleteAudits.contents, audit.deleteId ≠ input.deleteId := by
          intro audit hmem
          rw [← hstate.audits] at hmem
          simpa using List.find?_eq_none.mp haudit audit hmem
        have haudited : CallEffect R disk (.gc input clock)
            (disk.putAudit (catalogDeleteAuditFileName input.deleteId) result.audit) :=
          .audited hstate.files hpasses hfresh
        have hcollected : CallEffect R disk (.gc input clock)
            ((disk.putAudit (catalogDeleteAuditFileName input.deleteId) result.audit).dropRecord record) :=
          .collected hstate.files hpasses hfresh
        refine Triple.bind (Q := fun _ =>
          SameFiles (disk.putAudit (catalogDeleteAuditFileName input.deleteId) result.audit)) ?_ fun _ => ?_
        · unfold persistAudit
          refine Triple.bind (triple_write_stage haudited fun s hs => hs.putAudit _ result.audit) fun _ => ?_
          refine Triple.bind (Q := fun _ =>
            SameFiles (disk.putAudit (catalogDeleteAuditFileName input.deleteId) result.audit))
            (Triple.read fun _ hs => hs) fun _ => ?_
          exact Triple.lift (fun _ _ hs _ => hs) fun _ _ hs _ => ⟨_, haudited, hs⟩
        · refine Triple.bind (Q := fun _ => Reaches R disk (.gc input clock)) ?_ fun _ => Triple.pure fun _ hs => hs
          unfold collectRevision
          refine Triple.bind (triple_write_stage hcollected fun s hs => hs.dropRecord record) fun _ => ?_
          exact triple_reaches hcollected writeRefreshedIndex_triple

theorem gc_triple {input : WasmCatalogGcInput} {clock : CatalogClock R} :
    Triple (SameFiles disk) (gc R input clock) (fun _ => Reaches R disk (.gc input clock))
      (fun _ => Reaches R disk (.gc input clock)) (Reaches R disk (.gc input clock)) := by
  unfold gc
  refine Triple.bind recovered_reaches fun state => Triple.assume (fun _ hs => hs.2) fun hstate => ?_
  cases hreceipt : gcReceipt state input with
  | none => exact triple_fault.consequence (fun _ hs => hs.1) (fun _ _ hs => hs) (fun _ _ hs => hs) fun _ hs => hs
  | some receipt =>
    dsimp only
    cases hrecord : gcRecord state receipt with
    | none => exact Triple.lift (fun _ _ hs _ => Reaches.of_same hs.1) fun _ _ hs _ => Reaches.of_same hs.1
    | some record =>
      exact (gcPresent_triple hstate hreceipt hrecord).consequence (fun _ hs => hs.1) (fun _ _ hs => hs)
        (fun _ _ hs => hs) fun _ hs => hs

theorem rebuildIndex_triple {references : CatalogReferences} {now : ClockText R} :
    Triple (SameFiles disk) (rebuildIndex R references now) (fun _ => SameFiles disk) (fun _ => SameFiles disk)
      (SameFiles disk) := by
  unfold rebuildIndex
  refine Triple.bind (recoverState_triple.consequence (fun _ hs => hs) (fun _ _ hs => hs.1) (fun _ _ hs => hs.1)
    fun _ hs => hs) fun state => ?_
  cases state.index with
  | none => exact Triple.lift (fun _ _ hs _ => hs) fun _ _ hs _ => hs
  | some index => exact Triple.pure fun _ hs => hs

/-- Every write of a call, and its end, leave the files at one of its stages. -/
theorem program_triple (call : CatalogCall R) :
    Triple (SameFiles disk) call.program (fun _ => Reaches R disk call) (fun _ => Reaches R disk call)
      (Reaches R disk call) := by
  cases call with
  | bootstrap payload clock => exact Triple.void bootstrap_triple
  | append expected next references clock => exact Triple.void append_triple
  | revoke expected entryKey revocation references clock => exact Triple.void revoke_triple
  | release input clock => exact Triple.void release_triple
  | gc input clock => exact Triple.void gc_triple
  | rebuildIndex references now =>
    exact Triple.void (rebuildIndex_triple.consequence (fun _ hs => hs) (fun _ _ hs => Reaches.of_same hs)
      (fun _ _ hs => Reaches.of_same hs) fun _ hs => Reaches.of_same hs)

/-- The files after a call, interrupted or not, are those of one of its stages. -/
theorem leaves_reaches (call : CatalogCall R) (crash : Option Nat) (disk : CatalogDisk) :
    Reaches R disk call (call.program.leaves crash disk) :=
  (program_triple call).leaves (fun _ hs => Reaches.of_same hs) crash (SameFiles.refl disk)

end Iweb
