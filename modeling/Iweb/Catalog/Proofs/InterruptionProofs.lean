import Iweb.Catalog.Interruption
import Iweb.Catalog.Proofs.IndexProofs

/-!
# Recovery from interrupted calls

Every stage of a call keeps the files consistent, unless it audits a revision again. From consistent files the index
is always rebuilt, so each step leads from a settled store to a settled store.
-/

namespace Iweb

open CrashHoare CrashRefinement WasmCatalogStore

variable {R : CatalogRules} {disk : CatalogDisk}

/-! ## Consistent stores -/

/-- Consistent files, the receipts as `release` renders them; nothing without a revision. -/
structure Sound (R : CatalogRules) (disk : CatalogDisk) : Prop where
  files : CatalogFiles R disk
  rendered : ∀ receipt ∈ disk.releaseReceipts.contents, ∃ time, receipt.releaseRetentionUntil = R.toIsoString time
  initial : disk.revisions.contents = [] →
    disk.releaseReceipts.contents = [] ∧ disk.deleteAudits.contents = [] ∧ disk.index = none

/-- A sound store whose index is that of its files. -/
structure SettledStore (R : CatalogRules) (disk : CatalogDisk) : Prop extends Sound R disk where
  stored : disk.revisions.contents ≠ [] → ∃ index, disk.index = some index ∧
    validateCatalogHistoryIndexV1 R index = .ok index ∧
    IndexCore disk.revisions.contents disk.deleteAudits.contents (semanticIndexCore index)

theorem IndexCore.congr {records records' : List CatalogHistoryRecordV1} {audits audits' : List CatalogDeleteAuditV1}
    {core : Nat × String × List (Nat × String × CatalogIndexEntryStatus)} (h : IndexCore records audits core)
    (hrecords : ∀ record, record ∈ records' ↔ record ∈ records) (haudits : ∀ audit, audit ∈ audits' ↔ audit ∈ audits) :
    IndexCore records' audits' core := by
  refine ⟨h.ascending, ?_, ?_⟩
  · intro entry
    rw [h.mem]
    simp only [hrecords, haudits]
  · obtain ⟨top, htop, hrevision, hhash⟩ := h.top
    exact ⟨top, ⟨(hrecords top).mpr htop.1, fun record hmem => htop.2 record ((hrecords record).mp hmem)⟩,
      hrevision, hhash⟩

theorem CatalogFiles.assembles (h : CatalogFiles R disk)
    (hrendered : ∀ receipt ∈ disk.releaseReceipts.contents, ∃ time, receipt.releaseRetentionUntil = R.toIsoString time)
    (hinhabited : disk.revisions.contents ≠ []) :
    Assembles R disk.revisions.contents disk.deleteAudits.contents disk.releaseReceipts.contents where
  inhabited := hinhabited
  valid := h.valid
  nodup := h.nodup
  audited := by
    intro audit hmem
    obtain ⟨name, hfile⟩ := Directory.mem_contents.mp hmem
    exact (h.audits _ hfile).1
  auditUnique := h.auditUnique
  rendered := by
    intro receipt hmem
    obtain ⟨name, hfile⟩ := Directory.mem_contents.mp hmem
    exact ⟨(h.receipts _ hfile).1, hrendered receipt hmem⟩

/-- Lists of the same members that assemble. -/
theorem Assembles.perm {records records' : List CatalogHistoryRecordV1} {audits audits' : List CatalogDeleteAuditV1}
    {receipts receipts' : List CatalogReleaseReceiptV1} (h : Assembles R records audits receipts)
    (hrecords : records'.Perm records) (haudits : audits'.Perm audits)
    (hreceipts : ∀ receipt, receipt ∈ receipts' ↔ receipt ∈ receipts) : Assembles R records' audits' receipts' where
  inhabited hnil := h.inhabited (List.Perm.eq_nil (hnil ▸ hrecords.symm))
  valid record hmem := h.valid record (hrecords.mem_iff.mp hmem)
  nodup := ((hrecords.map _).nodup_iff).mpr h.nodup
  audited audit hmem := h.audited audit (haudits.mem_iff.mp hmem)
  auditUnique := ((haudits.map _).nodup_iff).mpr h.auditUnique
  rendered receipt hmem := h.rendered receipt ((hreceipts receipt).mp hmem)

theorem SameFiles.catalogFiles {disk' : CatalogDisk} (hsame : SameFiles disk disk') (h : CatalogFiles R disk) :
    CatalogFiles R disk' := by
  obtain ⟨revisions, receipts, audits, index⟩ := disk
  obtain ⟨revisions', receipts', audits', index'⟩ := disk'
  obtain ⟨hrevisions, hreceipts, haudits⟩ := hsame
  dsimp only at hrevisions hreceipts haudits
  subst hrevisions hreceipts haudits
  exact ⟨h.revisions, h.receipts, h.audits, h.auditUnique, h.auditReceipt, h.receiptBound⟩

/-- A store with the files of a sound one is sound while it holds a revision. -/
theorem Sound.of_same {disk' : CatalogDisk} (h : Sound R disk) (hsame : SameFiles disk disk')
    (hinhabited : disk.revisions.contents ≠ []) : Sound R disk' where
  files := hsame.catalogFiles h.files
  rendered := by
    rw [hsame.receipts]
    exact h.rendered
  initial := by
    rw [hsame.revisions]
    exact fun hnil => absurd hnil hinhabited

/-! ## The stages of a call -/

/-- Keys that differ between distinct files list without repetition. -/
theorem nodup_revisions {files : Directory String CatalogHistoryRecordV1}
    (h : ∀ file ∈ files.files, ∀ other ∈ files.files, file.2.revision = other.2.revision → file = other) :
    (files.files.map fun file => file.2.revision).Nodup :=
  (List.nodup_map_iff_inj_on files.nodup_files.of_map).mpr h

theorem CatalogFiles.putRecord (h : CatalogFiles R disk) {record : CatalogHistoryRecordV1}
    (hvalid : ValidHistoryRecord R record)
    (hfresh : ∀ stored ∈ disk.revisions.contents, stored.revision ≠ record.revision) :
    CatalogFiles R (disk.putRecord record) where
  revisions := by
    have hcases : ∀ file ∈ (disk.putRecord record).revisions.files,
        file = (catalogHistoryRevisionFileName record.revision record.catalogHash, record) ∨
          file ∈ disk.revisions.files := by
      intro file hfile
      rcases Directory.mem_files_write.mp hfile with heq | ⟨hold, -⟩
      · exact .inl heq
      · exact .inr hold
    refine ⟨?_, ?_, ?_, nodup_revisions ?_⟩
    · intro file hfile
      rcases hcases file hfile with rfl | hold
      · exact hvalid
      · exact h.revisions.valid file hold
    · intro file hfile
      rcases hcases file hfile with rfl | hold
      · rfl
      · exact h.revisions.name file hold
    · intro file hfile
      rcases hcases file hfile with rfl | hold
      · exact isRevisionFileName_of_hash hvalid.names.2
      · exact h.revisions.fileName file hold
    · intro file hfile other hother heq
      rcases hcases file hfile with rfl | hold
      · rcases hcases other hother with rfl | hold'
        · rfl
        · exact absurd heq.symm (hfresh other.2 (Directory.mem_contents.mpr ⟨other.1, hold'⟩))
      · rcases hcases other hother with rfl | hold'
        · exact absurd heq (hfresh file.2 (Directory.mem_contents.mpr ⟨file.1, hold⟩))
        · exact List.inj_on_of_nodup_map h.revisions.nodup hold hold' heq
  receipts := h.receipts
  audits := h.audits
  auditUnique := h.auditUnique
  auditReceipt := h.auditReceipt
  receiptBound := by
    intro receipt hreceipt
    rcases h.receiptBound receipt hreceipt with ⟨bound, hmem, hbinds⟩ | haudit
    · exact .inl ⟨bound, (mem_putRecord h hfresh).mpr (.inr hmem), hbinds⟩
    · exact .inr haudit

theorem CatalogFiles.putReceipt (h : CatalogFiles R disk) {receipt : CatalogReleaseReceiptV1}
    (hvalid : ValidReceipt R receipt)
    (hfresh : disk.releaseReceipts.read (catalogReleaseReceiptFileName receipt.releaseId) = none)
    (hbound : ∃ record ∈ disk.revisions.contents, record.revision = receipt.catalogRevision ∧
      record.catalogHash = receipt.catalogHash) :
    CatalogFiles R (disk.putReceipt (catalogReleaseReceiptFileName receipt.releaseId) receipt) where
  revisions := h.revisions
  receipts := by
    intro file hfile
    rcases Directory.mem_files_write.mp hfile with rfl | ⟨hold, -⟩
    · exact ⟨hvalid, rfl⟩
    · exact h.receipts file hold
  audits := h.audits
  auditUnique := h.auditUnique
  auditReceipt := by
    intro audit haudit
    obtain ⟨bound, hmem, hbinds⟩ := h.auditReceipt audit haudit
    exact ⟨bound, (mem_putReceipt hfresh).mpr (.inr hmem), hbinds⟩
  receiptBound := by
    intro other hother
    rcases (mem_putReceipt hfresh).mp hother with rfl | hold
    · exact .inl hbound
    · exact h.receiptBound other hold

theorem mem_putAudit {name : String} {audit audit' : CatalogDeleteAuditV1}
    (hfresh : disk.deleteAudits.read name = none) :
    audit' ∈ (disk.putAudit name audit).deleteAudits.contents ↔ audit' = audit ∨ audit' ∈ disk.deleteAudits.contents := by
  rw [Directory.mem_contents, Directory.mem_contents]
  constructor
  · rintro ⟨other, hfile⟩
    rcases Directory.mem_files_write.mp hfile with heq | ⟨hold, -⟩
    · exact .inl (Prod.ext_iff.mp heq).2
    · exact .inr ⟨other, hold⟩
  · rintro (rfl | ⟨other, hfile⟩)
    · exact ⟨_, Directory.mem_files_write.mpr (.inl rfl)⟩
    · exact ⟨other, Directory.mem_files_write.mpr (.inr ⟨hfile, Directory.read_eq_none.mp hfresh _ hfile⟩)⟩

theorem CatalogFiles.putAudit (h : CatalogFiles R disk) {audit : CatalogDeleteAuditV1} (hvalid : ValidAudit R audit)
    (hfresh : disk.deleteAudits.read (catalogDeleteAuditFileName audit.deleteId) = none)
    (hreceipt : ∃ receipt ∈ disk.releaseReceipts.contents, receipt.releaseId = audit.releaseId ∧
      receipt.catalogRevision = audit.revision ∧ receipt.catalogHash = audit.catalogHash)
    (honce : ∀ other ∈ disk.deleteAudits.contents, other.revision ≠ audit.revision) :
    CatalogFiles R (disk.putAudit (catalogDeleteAuditFileName audit.deleteId) audit) where
  revisions := h.revisions
  receipts := h.receipts
  audits := by
    intro file hfile
    rcases Directory.mem_files_write.mp hfile with rfl | ⟨hold, -⟩
    · exact ⟨hvalid, rfl⟩
    · exact h.audits file hold
  auditUnique := by
    have hinj : ∀ file ∈ (disk.putAudit (catalogDeleteAuditFileName audit.deleteId) audit).deleteAudits.files,
        ∀ other ∈ (disk.putAudit (catalogDeleteAuditFileName audit.deleteId) audit).deleteAudits.files,
          file.2.revision = other.2.revision → file = other := by
      have hunique : (disk.deleteAudits.files.map fun file => file.2.revision).Nodup := by
        have hnodup := h.auditUnique
        rw [Directory.contents, List.map_map] at hnodup
        exact hnodup
      intro file hfile other hother heq
      rcases Directory.mem_files_write.mp hfile with rfl | ⟨hold, -⟩
      · rcases Directory.mem_files_write.mp hother with rfl | ⟨hold', -⟩
        · rfl
        · exact absurd heq.symm (honce other.2 (Directory.mem_contents.mpr ⟨other.1, hold'⟩))
      · rcases Directory.mem_files_write.mp hother with rfl | ⟨hold', -⟩
        · exact absurd heq (honce file.2 (Directory.mem_contents.mpr ⟨file.1, hold⟩))
        · exact List.inj_on_of_nodup_map hunique hold hold' heq
    rw [Directory.contents, List.map_map]
    exact (List.nodup_map_iff_inj_on (Directory.nodup_files _).of_map).mpr hinj
  auditReceipt := by
    intro other hother
    rcases (mem_putAudit hfresh).mp hother with rfl | hold
    · exact hreceipt
    · exact h.auditReceipt other hold
  receiptBound := by
    intro receipt hmem
    rcases h.receiptBound receipt hmem with hrecord | ⟨other, hother, hrevision⟩
    · exact .inl hrecord
    · exact .inr ⟨other, (mem_putAudit hfresh).mpr (.inr hother), hrevision⟩

theorem CatalogFiles.dropRecord (h : CatalogFiles R disk) {record : CatalogHistoryRecordV1}
    (hmem : record ∈ disk.revisions.contents)
    (haudited : ∃ audit ∈ disk.deleteAudits.contents, audit.revision = record.revision) :
    CatalogFiles R (disk.dropRecord record) where
  revisions := by
    have hsub : ∀ file ∈ (disk.dropRecord record).revisions.files, file ∈ disk.revisions.files :=
      fun file hfile => (Directory.mem_files_remove.mp hfile).1
    refine ⟨?_, ?_, ?_, nodup_revisions ?_⟩
    · exact fun file hfile => h.revisions.valid file (hsub file hfile)
    · exact fun file hfile => h.revisions.name file (hsub file hfile)
    · exact fun file hfile => h.revisions.fileName file (hsub file hfile)
    · exact fun file hfile other hother => List.inj_on_of_nodup_map h.revisions.nodup (hsub file hfile) (hsub other hother)
  receipts := h.receipts
  audits := h.audits
  auditUnique := h.auditUnique
  auditReceipt := h.auditReceipt
  receiptBound := by
    intro receipt hreceipt
    rcases h.receiptBound receipt hreceipt with ⟨bound, hbound, hbinds⟩ | haudit
    · by_cases heq : bound = record
      · subst heq
        obtain ⟨audit, haudit, hrevision⟩ := haudited
        exact .inr ⟨audit, haudit, hrevision.trans hbinds.1⟩
      · exact .inl ⟨bound, (mem_dropRecord h hmem).mpr ⟨hbound, heq⟩, hbinds⟩
    · exact .inr haudit

/-! ## Recovery of a sound store -/

/-- The current catalog of a store is that of its highest record. -/
theorem recoveredFrom_current {index : Option CatalogHistoryIndexV1} {top : CatalogHistoryRecordV1}
    (hlast : (sortRecords disk.revisions.contents).getLast? = some top) :
    recoveredFrom disk index = ⟨sortRecords disk.revisions.contents, disk.releaseReceipts.contents,
      disk.deleteAudits.contents, index, some top.catalog⟩ := by
  unfold recoveredFrom
  dsimp only
  rw [hlast, Option.map_some]

/-- An index that names the highest record is accepted with that record. -/
theorem finishRecovery_ok (h : CatalogFiles R disk) {index : CatalogHistoryIndexV1}
    (hcore : IndexCore disk.revisions.contents disk.deleteAudits.contents (semanticIndexCore index)) :
    finishRecovery (sortRecords disk.revisions.contents) disk.releaseReceipts.contents disk.deleteAudits.contents index =
      .ok (recoveredFrom disk (some index)) := by
  obtain ⟨top, htop, hrevision, hhash⟩ := hcore.top
  obtain ⟨last, hlast⟩ := exists_isTop (List.ne_nil_of_mem htop.1)
  have hlastTop := isTop_getLast?_sortRecords hlast
  have hsame : top = last :=
    h.unique htop.1 hlastTop.1 (le_antisymm (hlastTop.2 top htop.1) (htop.2 last hlastTop.1))
  subst hsame
  have hpointer : ∀ record : CatalogHistoryRecordV1, (record.revision == index.currentRevision &&
      record.catalogHash == index.currentHash) = true ↔
        record.revision = top.revision ∧ record.catalogHash = top.catalogHash := by
    intro record
    have hcurrentRevision : index.currentRevision = top.revision := hrevision
    have hcurrentHash : index.currentHash = top.catalogHash := hhash
    rw [Bool.and_eq_true, beq_iff_eq, beq_iff_eq, hcurrentRevision, hcurrentHash]
  have hfind : (sortRecords disk.revisions.contents).find? (fun record =>
      record.revision == index.currentRevision && record.catalogHash == index.currentHash) = some top := by
    cases hfind : (sortRecords disk.revisions.contents).find? fun record =>
        record.revision == index.currentRevision && record.catalogHash == index.currentHash with
    | none =>
      exact absurd ((hpointer top).mpr ⟨rfl, rfl⟩)
        (List.find?_eq_none.mp hfind top (mem_sortRecords.mpr htop.1))
    | some found =>
      have hmatches := List.find?_some hfind
      have hfound := ((hpointer found).mp hmatches).1
      have hmem := mem_sortRecords.mp (List.mem_of_find?_eq_some hfind)
      rw [h.unique hmem htop.1 hfound]
  unfold finishRecovery
  rw [hfind, recoveredFrom_current hlast]

theorem isEmpty_sortRecords (records : List CatalogHistoryRecordV1) :
    (sortRecords records).isEmpty = true ↔ records = [] := by
  rw [List.isEmpty_iff]
  constructor
  · intro hnil
    exact List.Perm.eq_nil (hnil ▸ (List.perm_insertionSort _ records).symm)
  · rintro rfl
    rfl

/-- A sound store that holds no revision has no stored index. -/
theorem Sound.readStoredIndex_initial (h : Sound R disk) (hempty : disk.revisions.contents = []) :
    readStoredIndex R disk = .absent := by
  unfold readStoredIndex
  rw [(h.initial hempty).2.2]

theorem records_not_empty (hinhabited : disk.revisions.contents ≠ []) :
    ((sortRecords disk.revisions.contents).isEmpty && disk.deleteAudits.contents.isEmpty &&
      disk.releaseReceipts.contents.isEmpty) = false := by
  cases hall : (sortRecords disk.revisions.contents).isEmpty with
  | false => rfl
  | true => exact absurd ((isEmpty_sortRecords _).mp hall) hinhabited

/-- Recovery of a sound store goes on with its files. -/
theorem Sound.files_triple {α : Type} (h : Sound R disk) {rest : List CatalogHistoryRecordV1 ×
      List CatalogReleaseReceiptV1 × List CatalogDeleteAuditV1 → CatalogProg α}
    {Q : α → CatalogDisk → Prop} {E : CatalogFault → CatalogDisk → Prop} {C : CatalogDisk → Prop}
    (hrest : Triple (fun s => s = disk) (rest (sortRecords disk.revisions.contents, disk.releaseReceipts.contents,
      disk.deleteAudits.contents)) Q E C) :
    Triple (fun s => s = disk)
      (do
        let files ← Prog.read (readCatalogFiles R)
        let contents ← Prog.lift files
        rest contents) Q E C := by
  have hread : readCatalogFiles R disk = .ok (sortRecords disk.revisions.contents, disk.releaseReceipts.contents,
      disk.deleteAudits.contents) := readCatalogFiles_eq_ok.mpr ⟨rfl, rfl, rfl, h.files⟩
  refine Triple.bind (Q := fun files s => s = disk ∧ files = readCatalogFiles R disk)
    (Triple.read fun s hs => ⟨hs, by rw [hs]⟩) fun files => Triple.assume (fun _ hs => hs.2) ?_
  rintro rfl
  rw [hread]
  refine Triple.bind (Q := fun contents s => s = disk ∧ contents = (sortRecords disk.revisions.contents,
      disk.releaseReceipts.contents, disk.deleteAudits.contents))
    (Triple.lift (fun _ _ hs h => ⟨hs.1, (Except.ok.inj h).symm⟩) fun _ _ _ h => nomatch h) fun contents =>
      Triple.assume (fun _ hs => hs.2) ?_
  rintro rfl
  exact hrest.consequence (fun _ hs => hs.1) (fun _ _ hs => hs) (fun _ _ hs => hs) fun _ hs => hs

/-- A write of the index settles the files of a sound store. -/
theorem writeCatalogIndex_settles (h : Sound R disk) {index : CatalogHistoryIndexV1}
    (hinhabited : disk.revisions.contents ≠ []) (hvalid : validateCatalogHistoryIndexV1 R index = .ok index)
    (hcore : IndexCore disk.revisions.contents disk.deleteAudits.contents (semanticIndexCore index)) :
    Triple (SameFiles disk) (writeCatalogIndex index) (fun _ s => SameFiles disk s ∧ SettledStore R s) (fun _ _ => False)
      (SameFiles disk) := by
  refine Triple.write_total ?_ fun _ _ hs => hs.1
  intro s hs
  have hsame : SameFiles disk (s.putIndex index) := hs.trans (SameFiles.putIndex s index)
  refine ⟨s.putIndex index, (), rfl, hsame, h.of_same hsame hinhabited, ?_⟩
  intro _
  refine ⟨index, rfl, hvalid, ?_⟩
  rw [hsame.revisions, hsame.audits]
  exact hcore

section Recovery

variable (hdates : DatesRoundTrip R) {references : List WasmCatalogEntryReferenceV1}
  (hlength : references.length < 2 ^ 32) (now : ClockText R)
include hdates hlength

theorem Sound.assemble (h : Sound R disk) (hinhabited : disk.revisions.contents ≠ []) :
    ∃ index, assembleCatalogHistoryIndex R (sortRecords disk.revisions.contents) disk.deleteAudits.contents
        disk.releaseReceipts.contents references now.val = .ok index ∧
      validateCatalogHistoryIndexV1 R index = .ok index ∧
      IndexCore disk.revisions.contents disk.deleteAudits.contents (semanticIndexCore index) := by
  have hassembles := (h.files.assembles h.rendered hinhabited).perm
    (List.perm_insertionSort (fun left right : CatalogHistoryRecordV1 => left.revision ≤ right.revision)
      disk.revisions.contents) (List.Perm.refl _) fun _ => Iff.rfl
  obtain ⟨index, hindex, hvalid, hcore⟩ := assembleCatalogHistoryIndex_ok hdates hassembles hlength now
  exact ⟨index, hindex, hvalid, hcore.congr (fun _ => mem_sortRecords.symm) fun _ => Iff.rfl⟩

/-- Recovery of a settled store writes nothing and accepts the stored index. -/
theorem SettledStore.recoverState_triple (h : SettledStore R disk) (repairs : Bool) :
    Triple (fun s => s = disk) (recoverState R references now ⟨repairs, false⟩)
      (fun state s => s = disk ∧ state = recoveredFrom disk disk.index) (fun _ _ => False) (fun _ => False) := by
  unfold recoverState
  refine h.toSound.files_triple ?_
  dsimp only
  by_cases hempty : disk.revisions.contents = []
  · obtain ⟨hreceipts, haudits, hindex⟩ := h.initial hempty
    have hstored := h.readStoredIndex_initial hempty
    have hstate : recoveredFrom disk disk.index = ⟨[], [], [], none, none⟩ := by
      unfold recoveredFrom
      rw [hempty, hreceipts, haudits, hindex]
      rfl
    rw [hstate, hempty, hreceipts, haudits]
    refine Triple.bind (Q := fun stored s => s = disk ∧ stored = .absent)
      (Triple.read fun s hs => ⟨hs, by rw [hs, hstored]⟩) fun stored => Triple.assume (fun _ hs => hs.2) ?_
    rintro rfl
    exact Triple.pure fun s hs => ⟨hs.1, rfl⟩
  · obtain ⟨index, hindex, hvalid, hcore⟩ := h.stored hempty
    obtain ⟨rebuilt, hrebuilt, -, hcore'⟩ := h.assemble hdates hlength now hempty
    have hstored : readStoredIndex R disk = .valid index := by
      unfold readStoredIndex
      rw [hindex]
      dsimp only
      rw [hvalid]
    have hagree : semanticIndexCore index = semanticIndexCore rebuilt :=
      hcore.unique hcore' (fun _ => Iff.rfl) fun _ => Iff.rfl
    have hsettle : Triple (fun s => s = disk) (settleIndex R ⟨repairs, false⟩ rebuilt)
        (fun settled s => s = disk ∧ settled = index) (fun _ _ => False) (fun _ => False) := by
      unfold settleIndex
      refine Triple.bind (Q := fun stored s => s = disk ∧ stored = .valid index)
        (Triple.read fun s hs => ⟨hs, by rw [hs, hstored]⟩) fun stored => Triple.assume (fun _ hs => hs.2) ?_
      rintro rfl
      dsimp only
      rw [if_neg (not_not_intro hagree)]
      exact Triple.pure fun s hs => ⟨hs.1, rfl⟩
    rw [records_not_empty hempty, hrebuilt, hindex]
    refine Triple.bind (Q := fun found s => s = disk ∧ found = rebuilt)
      (Triple.lift (fun _ _ hs h => ⟨hs, (Except.ok.inj h).symm⟩) fun _ _ _ h => nomatch h) fun found =>
        Triple.assume (fun _ hs => hs.2) ?_
    rintro rfl
    refine Triple.bind (hsettle.consequence (fun _ hs => hs.1) (fun _ _ hs => hs) (fun _ _ hs => hs) fun _ hs => hs)
      fun settled => Triple.assume (fun _ hs => hs.2) ?_
    rintro rfl
    rw [finishRecovery_ok h.files hcore]
    exact Triple.lift (fun _ _ hs h => ⟨hs.1, (Except.ok.inj h).symm⟩) fun _ _ _ h => nomatch h

/-- The rebuilt index settles the files of a sound store. -/
theorem Sound.recoverState_triple (h : Sound R disk) :
    Triple (fun s => s = disk) (recoverState R references now ⟨true, true⟩)
      (fun state s => SameFiles disk s ∧ SettledStore R s ∧
        (disk.revisions.contents ≠ [] → ∃ index, state.index = some index))
      (fun _ _ => False) (fun s => SameFiles disk s ∧ disk.revisions.contents ≠ []) := by
  unfold recoverState
  refine h.files_triple ?_
  dsimp only
  by_cases hempty : disk.revisions.contents = []
  · obtain ⟨hreceipts, haudits, hindex⟩ := h.initial hempty
    have hstored := h.readStoredIndex_initial hempty
    rw [hempty, hreceipts, haudits]
    refine Triple.bind (Q := fun stored s => s = disk ∧ stored = .absent)
      (Triple.read fun s hs => ⟨hs, by rw [hs, hstored]⟩) fun stored => Triple.assume (fun _ hs => hs.2) ?_
    rintro rfl
    refine Triple.pure ?_
    rintro s ⟨rfl, -⟩
    exact ⟨SameFiles.refl _, ⟨h, fun hne => absurd hempty hne⟩, fun hne => absurd rfl hne⟩
  · obtain ⟨rebuilt, hrebuilt, hvalid, hcore⟩ := h.assemble hdates hlength now hempty
    rw [records_not_empty hempty, hrebuilt]
    refine Triple.bind (Q := fun found s => s = disk ∧ found = rebuilt)
      (Triple.lift (fun _ _ hs h => ⟨hs, (Except.ok.inj h).symm⟩) fun _ _ _ h => nomatch h) fun found =>
        Triple.assume (fun _ hs => hs.2) ?_
    rintro rfl
    refine Triple.bind (Q := fun index s => (SameFiles disk s ∧ SettledStore R s) ∧ index = found) ?_ fun index =>
      Triple.assume (fun _ hs => hs.2) ?_
    · unfold settleIndex repairIndex
      refine Triple.bind ((writeCatalogIndex_settles h hempty hvalid hcore).consequence ?_ (fun _ _ hs => hs)
        (fun _ _ hs => hs) fun _ hs => ⟨hs, hempty⟩) fun _ => Triple.pure fun _ hs => ⟨hs, rfl⟩
      rintro s ⟨rfl, -⟩
      exact SameFiles.refl _
    · rintro rfl
      rw [finishRecovery_ok h.files hcore]
      refine Triple.lift ?_ fun _ _ _ h => nomatch h
      intro s state hs hstate
      refine ⟨hs.1.1, hs.1.2, fun _ => ⟨index, ?_⟩⟩
      rw [← Except.ok.inj hstate]
      rfl

/-- The index is refreshed from lists of the files of a sound store. -/
theorem Sound.refresh_triple (h : Sound R disk) (hinhabited : disk.revisions.contents ≠ [])
    {records : List CatalogHistoryRecordV1} {audits : List CatalogDeleteAuditV1} {receipts : List CatalogReleaseReceiptV1}
    (hrecords : records.Perm disk.revisions.contents) (haudits : audits.Perm disk.deleteAudits.contents)
    (hreceipts : ∀ receipt, receipt ∈ receipts ↔ receipt ∈ disk.releaseReceipts.contents) :
    Triple (SameFiles disk) (writeRefreshedIndex R records audits receipts references now)
      (fun _ s => SameFiles disk s ∧ SettledStore R s) (fun _ _ => False) (SameFiles disk) := by
  have hassembles := (h.files.assembles h.rendered hinhabited).perm hrecords haudits hreceipts
  obtain ⟨index, hindex, hvalid, hcore⟩ := assembleCatalogHistoryIndex_ok hdates hassembles hlength now
  unfold writeRefreshedIndex
  rw [hindex]
  refine Triple.bind (Q := fun found s => SameFiles disk s ∧ found = index)
    (Triple.lift (fun _ _ hs h => ⟨hs, (Except.ok.inj h).symm⟩) fun _ _ _ h => nomatch h) fun found =>
      Triple.assume (fun _ hs => hs.2) ?_
  rintro rfl
  have hcore' := hcore.congr (fun _ => hrecords.mem_iff.symm) fun _ => haudits.mem_iff.symm
  exact (writeCatalogIndex_settles h hinhabited hvalid hcore').consequence (fun _ hs => hs.1) (fun _ _ hs => hs)
    (fun _ _ hs => hs) fun _ hs => hs

end Recovery

/-! ## Whole calls -/

/-- The files after a change. -/
def afterChange (disk : CatalogDisk) (change : Option CatalogChange) : CatalogDisk :=
  change.elim disk (CatalogChange.apply disk)

/-- The store after a call that runs to its end. -/
def Ends (R : CatalogRules) (disk : CatalogDisk) (change : Option CatalogChange) (s : CatalogDisk) : Prop :=
  SameFiles (afterChange disk change) s ∧ SettledStore R s

/-- The store between two writes of a call. -/
def Between (R : CatalogRules) (disk : CatalogDisk) (change : Option CatalogChange) (s : CatalogDisk) : Prop :=
  Sound R s ∧ (SameFiles disk s ∨ SameFiles (change.elim disk (CatalogChange.approve disk)) s ∨
    SameFiles (afterChange disk change) s)

/-- From a settled store a program makes a change, whatever its result. -/
def Performs (R : CatalogRules) (disk : CatalogDisk) {α : Type} (m : CatalogProg α) (change : Option CatalogChange) :
    Prop :=
  Triple (fun s => s = disk) m (fun _ => Ends R disk change) (fun _ => Ends R disk change) (Between R disk change)

/-- A call that leaves the store as it is. -/
theorem performs_unchanged {α : Type} (h : SettledStore R disk) {x : Except CatalogFault α} :
    Performs R disk (Prog.lift x) none := by
  have hends : ∀ s, s = disk → Ends R disk none s := by
    rintro s rfl
    exact ⟨SameFiles.refl _, h⟩
  exact Triple.lift (fun s _ hs _ => hends s hs) fun s _ hs _ => hends s hs

/-- The recovered state goes into the rest of a call. -/
theorem performs_recovered {α : Type} (hdates : DatesRoundTrip R) (h : SettledStore R disk)
    {references : List WasmCatalogEntryReferenceV1} (hlength : references.length < 2 ^ 32) {now : ClockText R}
    {repairs : Bool} {rest : WasmCatalogRecoveredState → CatalogProg α} {change : Option CatalogChange}
    (hrest : Performs R disk (rest (recoveredFrom disk disk.index)) change) :
    Performs R disk (recoverState R references now ⟨repairs, false⟩ >>= rest) change := by
  refine Triple.bind ((h.recoverState_triple hdates hlength now repairs).consequence (fun _ hs => hs) (fun _ _ hs => hs)
    (fun _ _ hs => hs.elim) fun _ hs => hs.elim) fun state => Triple.assume (fun _ hs => hs.2) ?_
  rintro rfl
  exact hrest.consequence (fun _ hs => hs.1) (fun _ _ hs => hs) (fun _ _ hs => hs) fun _ hs => hs

/-- A call that fails before it writes. -/
theorem performs_fault {α β : Type} (h : SettledStore R disk) {fault : CatalogFault} {rest : α → CatalogProg β} :
    Performs R disk (Prog.lift (.error fault) >>= rest) none := by
  refine Triple.bind (Q := fun _ _ => False) ?_ fun _ => Triple.vacuous fun _ hs => hs
  refine Triple.lift (fun _ _ _ h => nomatch h) ?_
  rintro s e rfl -
  exact ⟨SameFiles.refl _, h⟩

/-- A call that goes on from what it reads. -/
theorem performs_read {α β : Type} {f : CatalogDisk → α} {rest : α → CatalogProg β} {change : Option CatalogChange}
    (hrest : Performs R disk (rest (f disk)) change) : Performs R disk (Prog.read f >>= rest) change := by
  refine Triple.bind (Q := fun found s => s = disk ∧ found = f disk) (Triple.read fun s hs => ⟨hs, by rw [hs]⟩)
    fun found => Triple.assume (fun _ hs => hs.2) ?_
  rintro rfl
  exact hrest.consequence (fun _ hs => hs.1) (fun _ _ hs => hs) (fun _ _ hs => hs) fun _ hs => hs

/-- A computation that fails ends the call; one that succeeds goes on. -/
theorem performs_computed {α β : Type} (h : SettledStore R disk) {fault : List ValidationIssue → CatalogFault}
    {result : ValidationResult α} {rest : α → CatalogProg β} {d : α → Option CatalogChange}
    (hrest : ∀ a, result = .ok a → Performs R disk (rest a) (d a)) :
    Performs R disk (Prog.lift (orFault fault result) >>= rest) (result.toOption.bind d) := by
  cases result with
  | error issues => exact performs_fault h
  | ok a =>
    refine Triple.bind (Q := fun found s => s = disk ∧ found = a)
      (Triple.lift (fun _ _ hs h => ⟨hs, (Except.ok.inj h).symm⟩) fun _ _ _ h => nomatch h) fun found =>
        Triple.assume (fun _ hs => hs.2) ?_
    rintro rfl
    exact (hrest found rfl).consequence (fun _ hs => hs.1) (fun _ _ hs => hs) (fun _ _ hs => hs) fun _ hs => hs

/-- A list of the same distinct members. -/
theorem perm_of_mem {α : Type} {values values' : List α} (h : values.Nodup) (h' : values'.Nodup)
    (hmem : ∀ value, value ∈ values ↔ value ∈ values') : values.Perm values' :=
  (List.perm_ext_iff_of_nodup h h').mpr hmem

theorem CatalogFiles.nodup_sorted (h : CatalogFiles R disk) : (sortRecords disk.revisions.contents).Nodup :=
  (nodup_sortRecords h.nodup).of_map

theorem persistAppendedRevision_ends (hdates : DatesRoundTrip R) (h : SettledStore R disk)
    {references : List WasmCatalogEntryReferenceV1} (hlength : references.length < 2 ^ 32) {catalog : RuntimeCatalogV1}
    {clock : CatalogClock R} :
    Performs R disk (persistAppendedRevision R (recoveredFrom disk disk.index) catalog references clock)
      (storeChange R (recoveredFrom disk none) catalog clock) := by
  have hchange : storeChange R (recoveredFrom disk none) catalog clock =
      (sealCatalogHistoryRecordV1 R ⟨1, "wasm", catalog.revision, catalog.catalogHash, catalog,
        clock.stored.val⟩).toOption.bind fun record =>
          if (sortRecords disk.revisions.contents).any fun stored => stored.revision == record.revision then none
          else some (.store record) := by
    unfold storeChange
    cases sealCatalogHistoryRecordV1 R ⟨1, "wasm", catalog.revision, catalog.catalogHash, catalog, clock.stored.val⟩ with
    | error issues => rfl
    | ok record => rfl
  rw [hchange]
  unfold persistAppendedRevision
  refine performs_computed h fun record hseal => ?_
  by_cases hany : ((sortRecords disk.revisions.contents).any fun stored => stored.revision == record.revision) = true
  · have hany' : ((recoveredFrom disk disk.index).records.any fun stored => stored.revision == record.revision) = true :=
      hany
    rw [if_pos hany, if_pos hany']
    exact performs_unchanged h
  · have hany' : ¬ ((recoveredFrom disk disk.index).records.any fun stored =>
        stored.revision == record.revision) = true := hany
    rw [if_neg hany, if_neg hany']
    have hfresh : ∀ stored ∈ disk.revisions.contents, stored.revision ≠ record.revision := by
      intro stored hmem heq
      exact hany (List.any_eq_true.mpr ⟨stored, mem_sortRecords.mpr hmem, beq_iff_eq.mpr heq⟩)
    have hvalid := ValidHistoryRecord.of_seal hseal
    have hmem : ∀ other, other ∈ (disk.putRecord record).revisions.contents ↔
        other = record ∨ other ∈ disk.revisions.contents := fun _ => mem_putRecord h.files hfresh
    have hinhabited : (disk.putRecord record).revisions.contents ≠ [] :=
      List.ne_nil_of_mem ((hmem record).mpr (.inl rfl))
    have hsound : Sound R (disk.putRecord record) :=
      ⟨h.files.putRecord hvalid hfresh, h.rendered, fun hnil => absurd hnil hinhabited⟩
    have hperm : ((sortRecords disk.revisions.contents) ++ [record]).Perm (disk.putRecord record).revisions.contents := by
      refine perm_of_mem ?_ hsound.files.nodup.of_map ?_
      · refine List.Nodup.append h.files.nodup_sorted (List.nodup_singleton record) ?_
        intro stored hstored hnew
        rw [List.mem_singleton] at hnew
        exact hfresh stored (mem_sortRecords.mp hstored) (by rw [hnew])
      · intro other
        rw [List.mem_append, List.mem_singleton, mem_sortRecords, hmem other]
        exact or_comm
    refine Triple.bind (Q := fun _ => SameFiles (disk.putRecord record)) ?_ fun _ => ?_
    · refine Triple.write ?_ ?_ fun _ _ _ he => nomatch he
      · rintro s rfl
        exact ⟨hsound, .inr (.inr (SameFiles.refl _))⟩
      · rintro s _ rfl -
        exact SameFiles.refl _
    · refine Triple.bind ((hsound.refresh_triple hdates hlength clock.refreshed hinhabited hperm (List.Perm.refl _)
        fun _ => Iff.rfl).consequence (fun _ hs => hs) (fun _ _ hs => hs) (fun _ _ hs => hs.elim) ?_) fun _ =>
          Triple.pure fun _ hs => hs
      intro s hs
      exact ⟨hsound.of_same hs hinhabited, .inr (.inr hs)⟩

/-- The current catalog is that of the highest record; there is none in an empty store. -/
theorem recoveredFrom_current_cases (disk : CatalogDisk) (index : Option CatalogHistoryIndexV1) :
    (recoveredFrom disk index).current = none ∧ disk.revisions.contents = [] ∨
      ∃ top, IsTop disk.revisions.contents top ∧ (recoveredFrom disk index).current = some top.catalog := by
  by_cases hempty : disk.revisions.contents = []
  · refine .inl ⟨?_, hempty⟩
    unfold recoveredFrom
    rw [hempty]
    rfl
  · obtain ⟨top, hlast⟩ := exists_isTop hempty
    refine .inr ⟨top, isTop_getLast?_sortRecords hlast, ?_⟩
    rw [recoveredFrom_current hlast]

section Calls

variable (hdates : DatesRoundTrip R) (h : SettledStore R disk)
include hdates h

theorem bootstrap_ends (payload : RuntimeCatalogPayloadV1) (clock : CatalogClock R) :
    Performs R disk (bootstrap R payload clock) (callChange R disk (.bootstrap payload clock)) := by
  have hlength : ([] : List WasmCatalogEntryReferenceV1).length < 2 ^ 32 := Nat.two_pow_pos 32
  unfold bootstrap recoverReadonly
  refine performs_recovered hdates h hlength ?_
  rcases recoveredFrom_current_cases disk disk.index with ⟨hcurrent, hempty⟩ | ⟨top, htop, hcurrent⟩
  · have hindex : (recoveredFrom disk disk.index).index = none := (h.initial hempty).2.2
    have hnone : ((recoveredFrom disk disk.index).index.isSome || (recoveredFrom disk disk.index).current.isSome) =
        false := by
      rw [hcurrent, hindex]
      rfl
    have hchange : callChange R disk (.bootstrap payload clock) =
        (sealRuntimeCatalogV1 R payload).toOption.bind fun catalog =>
          storeChange R (recoveredFrom disk none) catalog clock := by
      have hcurrent' : (recoveredFrom disk none).current = none := hcurrent
      unfold callChange
      dsimp only
      rw [hcurrent']
      rfl
    rw [hchange, hnone]
    exact performs_computed h fun catalog _ => persistAppendedRevision_ends hdates h hlength
  · have hsome : ((recoveredFrom disk disk.index).index.isSome || (recoveredFrom disk disk.index).current.isSome) =
        true := by
      rw [hcurrent]
      exact Bool.or_true _
    have hchange : callChange R disk (.bootstrap payload clock) = none := by
      have hcurrent' : (recoveredFrom disk none).current = some top.catalog := hcurrent
      unfold callChange
      dsimp only
      rw [hcurrent']
      rfl
    rw [hchange, hsome]
    exact performs_unchanged h

theorem append_ends (expected : RuntimeCatalogRevisionPinV1) (next : RuntimeCatalogPayloadV1)
    (references : CatalogReferences) (clock : CatalogClock R) :
    Performs R disk (WasmCatalogStore.append R expected next references clock) (callChange R disk (.append expected next references clock)) := by
  unfold WasmCatalogStore.append recoverForMutation callChange
  refine performs_recovered hdates h references.property ?_
  have hsame : (recoveredFrom disk disk.index).current = (recoveredFrom disk none).current := rfl
  dsimp only
  rw [hsame]
  cases hcurrent : (recoveredFrom disk none).current with
  | none => exact performs_unchanged h
  | some current => exact performs_computed h fun catalog _ => persistAppendedRevision_ends hdates h references.property

theorem revoke_ends (expected : RuntimeCatalogRevisionPinV1) (entryKey : String) (revocation : RuntimeCatalogRevocationV1)
    (references : CatalogReferences) (clock : CatalogClock R) :
    Performs R disk (revoke R expected entryKey revocation references clock) (callChange R disk (.revoke expected entryKey revocation references clock)) := by
  unfold revoke recoverForMutation callChange
  refine performs_recovered hdates h references.property ?_
  have hsame : (recoveredFrom disk disk.index).current = (recoveredFrom disk none).current := rfl
  dsimp only
  rw [hsame]
  cases hcurrent : (recoveredFrom disk none).current with
  | none => exact performs_unchanged h
  | some current => exact performs_computed h fun catalog _ => persistAppendedRevision_ends hdates h references.property

end Calls

theorem confirmReadback_ok {α : Type} [DecidableEq α] {validate : α → ValidationResult α} {written : α}
    (hvalid : validate written = .ok written) (message : String) :
    confirmReadback validate (some written) written message = .ok () := by
  unfold confirmReadback
  dsimp only
  rw [hvalid]
  exact if_pos rfl

/-- An object that was written is read back. -/
theorem confirm_ends {α β : Type} [DecidableEq α] {validate : α → ValidationResult α} {stored : CatalogDisk → Option α}
    {written : α} {message : String} {rest : Unit → CatalogProg β} {Q : β → CatalogDisk → Prop}
    {E : CatalogFault → CatalogDisk → Prop} {C : CatalogDisk → Prop}
    (hstored : ∀ s, SameFiles disk s → stored s = some written) (hvalid : validate written = .ok written)
    (hrest : Triple (SameFiles disk) (rest ()) Q E C) :
    Triple (SameFiles disk)
      (do
        let found ← Prog.read stored
        let confirmed ← Prog.lift (confirmReadback validate found written message)
        rest confirmed) Q E C := by
  refine Triple.bind (Q := fun found s => SameFiles disk s ∧ found = some written)
    (Triple.read fun s hs => ⟨hs, hstored s hs⟩) fun found => Triple.assume (fun _ hs => hs.2) ?_
  rintro rfl
  rw [confirmReadback_ok hvalid]
  exact Triple.bind (Triple.lift (fun _ _ hs _ => hs.1) fun _ _ _ h => nomatch h) fun _ => hrest

/-- A receipt that `release` computes is valid, rendered, and bound to the catalog. -/
theorem releaseRuntimeCatalogEntry_spec {request : CatalogReleaseRequestV1} {receipt : CatalogReleaseReceiptV1}
    (h : releaseRuntimeCatalogEntry R request = some (.ok receipt)) :
    ValidReceipt R receipt ∧ (∃ time, receipt.releaseRetentionUntil = R.toIsoString time) ∧
      receipt.releaseId = request.releaseId ∧ receipt.catalogRevision = request.catalog.revision ∧
      receipt.catalogHash = request.catalog.catalogHash := by
  unfold releaseRuntimeCatalogEntry at h
  split at h
  next => cases h
  next =>
    split at h
    next => cases h
    next =>
      obtain ⟨retention, hretention, hreceipt⟩ := Option.map_eq_some_iff.mp h
      obtain ⟨rfl, hvalid⟩ := validateCatalogReleaseReceiptV1_eq_ok.mp hreceipt
      unfold releaseRetentionUntil at hretention
      obtain ⟨released, -, hretention⟩ := Option.bind_eq_some_iff.mp hretention
      obtain ⟨time, -, htime⟩ := Option.bind_eq_some_iff.mp hretention
      exact ⟨hvalid, ⟨time, (Option.some.inj htime).symm⟩, rfl, rfl, rfl⟩

/-- A write leads from the files before it to those after it. -/
theorem write_ends {stage next : CatalogDisk} {change : Option CatalogChange} {f : CatalogDisk → CatalogDisk}
    (h : ∀ s, SameFiles stage s → SameFiles next (f s)) (hbetween : ∀ s, SameFiles next s → Between R disk change s) :
    Triple (SameFiles stage) (Prog.write fun s => (f s, .ok ()) : CatalogProg Unit) (fun _ => SameFiles next)
      (fun _ _ => False) (Between R disk change) := by
  refine Triple.write_total ?_ fun _ s hs => hbetween s hs
  intro s hs
  exact ⟨f s, (), rfl, h s hs⟩

/-- A receipt that was computed is stored, and the index refreshed. -/
theorem release_of_receipt (hdates : DatesRoundTrip R) (h : SettledStore R disk) {input : WasmCatalogReleaseInput}
    {clock : CatalogClock R} {top : CatalogHistoryRecordV1} {receipt : CatalogReleaseReceiptV1}
    (htop : IsTop disk.revisions.contents top)
    (hrelease : releaseRuntimeCatalogEntry R ⟨top.catalog, input.entryKey, input.references.val, input.releaseId,
      input.ownerCommandId, input.drainedAt, input.releasedAt⟩ = some (.ok receipt))
    (hfresh : disk.releaseReceipts.read (catalogReleaseReceiptFileName input.releaseId) = none) :
    Performs R disk
      (do
        Prog.write fun s => (s.putReceipt (catalogReleaseReceiptFileName input.releaseId) receipt, .ok ())
        Prog.lift (confirmReadback (validateCatalogReleaseReceiptV1 R)
          (← Prog.read fun s => s.releaseReceipts.read (catalogReleaseReceiptFileName input.releaseId)) receipt
          ("release receipt readback diverged for releaseId " ++ input.releaseId))
        writeRefreshedIndex R (recoveredFrom disk disk.index).records (recoveredFrom disk disk.index).audits
          ((recoveredFrom disk disk.index).receipts ++ [receipt]) input.references.val clock.refreshed
        return receipt)
      (some (.release (catalogReleaseReceiptFileName input.releaseId) receipt)) := by
  obtain ⟨hvalid, hrendered, hid, hrevision, hhash⟩ := releaseRuntimeCatalogEntry_spec hrelease
  set name := catalogReleaseReceiptFileName input.releaseId with hname
  have hown : name = catalogReleaseReceiptFileName receipt.releaseId := by rw [hname, hid]
  have hmem : ∀ other, other ∈ (disk.putReceipt name receipt).releaseReceipts.contents ↔
      other = receipt ∨ other ∈ disk.releaseReceipts.contents := fun _ => mem_putReceipt hfresh
  have hinhabited : (disk.putReceipt name receipt).revisions.contents ≠ [] := List.ne_nil_of_mem htop.1
  have hsound : Sound R (disk.putReceipt name receipt) := by
    refine ⟨?_, ?_, fun hnil => absurd hnil hinhabited⟩
    · rw [hown] at hfresh ⊢
      refine h.files.putReceipt hvalid hfresh ⟨top, htop.1, ?_, ?_⟩
      · rw [(h.files.valid top htop.1).revision]
        exact hrevision.symm
      · rw [(h.files.valid top htop.1).catalogHash]
        exact hhash.symm
    · intro other hother
      rcases (hmem other).mp hother with rfl | hold
      · exact hrendered
      · exact h.rendered other hold
  have hbetween : ∀ s, SameFiles (disk.putReceipt name receipt) s → Between R disk (some (.release name receipt)) s :=
    fun s hs => ⟨hsound.of_same hs hinhabited, .inr (.inr hs)⟩
  refine Triple.bind ((write_ends (fun s hs => hs.putReceipt name receipt) hbetween).consequence ?_ (fun _ _ hs => hs)
    (fun _ _ hs => hs.elim) fun _ hs => hs) fun _ => ?_
  · rintro s rfl
    exact SameFiles.refl _
  refine confirm_ends ?_ (validateCatalogReleaseReceiptV1_eq_ok.mpr ⟨rfl, hvalid⟩) ?_
  · intro s hs
    rw [hs.receipts]
    exact Directory.read_write_self _ _ _
  have hperm : (recoveredFrom disk disk.index).records.Perm (disk.putReceipt name receipt).revisions.contents :=
    List.perm_insertionSort _ _
  have hreceipts : ∀ other, other ∈ (recoveredFrom disk disk.index).receipts ++ [receipt] ↔
      other ∈ (disk.putReceipt name receipt).releaseReceipts.contents := by
    intro other
    rw [hmem other, List.mem_append, List.mem_singleton]
    exact or_comm
  exact Triple.bind ((hsound.refresh_triple hdates input.references.property clock.refreshed hinhabited hperm
    (List.Perm.refl _) hreceipts).consequence (fun _ hs => hs) (fun _ _ hs => hs) (fun _ _ hs => hs.elim) hbetween)
    fun _ => Triple.pure fun _ hs => hs

theorem release_ends (hdates : DatesRoundTrip R) (h : SettledStore R disk) (input : WasmCatalogReleaseInput)
    (clock : CatalogClock R) : Performs R disk (release R input clock) (callChange R disk (.release input clock)) := by
  unfold release recoverForMutation
  refine performs_recovered hdates h input.references.property ?_
  show Performs R disk _ (releaseChange R disk (recoveredFrom disk none) input)
  unfold releaseChange
  dsimp only
  refine performs_read ?_
  cases hstored : disk.releaseReceipts.read (catalogReleaseReceiptFileName input.releaseId) with
  | some stored => exact performs_unchanged h
  | none =>
    have hsame : (recoveredFrom disk disk.index).current = (recoveredFrom disk none).current := rfl
    rw [hsame]
    rcases recoveredFrom_current_cases disk none with ⟨hcurrent, -⟩ | ⟨top, htop, hcurrent⟩
    · rw [hcurrent]
      exact performs_unchanged h
    · rw [hcurrent]
      dsimp only
      cases hrelease : releaseRuntimeCatalogEntry R ⟨top.catalog, input.entryKey, input.references.val, input.releaseId,
          input.ownerCommandId, input.drainedAt, input.releasedAt⟩ with
      | none => exact performs_fault h
      | some result =>
        cases result with
        | error issues => exact performs_fault h
        | ok receipt =>
          have hresult : orRangeError (some (Except.ok receipt)) = orFault contractFailure (Except.ok receipt) := rfl
          rw [hresult]
          refine performs_computed (d := fun receipt => some
            (.release (catalogReleaseReceiptFileName input.releaseId) receipt)) h fun receipt' hreceipt => ?_
          obtain rfl := Except.ok.inj hreceipt
          exact release_of_receipt hdates h htop hrelease hstored

/-! ### Deletion -/

/-- A list of distinct members that is not a singleton has another member. -/
theorem exists_mem_ne {α : Type} {values : List α} {value : α} (h : values.Nodup) (hmem : value ∈ values)
    (hlength : values.length ≠ 1) : ∃ other ∈ values, other ≠ value := by
  by_contra hnone
  push Not at hnone
  have hreplicate := List.eq_replicate_of_mem hnone
  rw [hreplicate, List.nodup_replicate] at h
  have hpos := List.length_pos_of_mem hmem
  omega

theorem Sound.dropRecord (h : Sound R disk) {record : CatalogHistoryRecordV1}
    (hmem : record ∈ disk.revisions.contents)
    (haudited : ∃ audit ∈ disk.deleteAudits.contents, audit.revision = record.revision)
    (hlength : disk.revisions.contents.length ≠ 1) :
    Sound R (disk.dropRecord record) ∧ (disk.dropRecord record).revisions.contents ≠ [] := by
  obtain ⟨other, hother, hne⟩ := exists_mem_ne h.files.nodup.of_map hmem hlength
  have hinhabited : (disk.dropRecord record).revisions.contents ≠ [] :=
    List.ne_nil_of_mem ((mem_dropRecord h.files hmem).mpr ⟨hother, hne⟩)
  exact ⟨⟨h.files.dropRecord hmem haudited, h.rendered, fun hnil => absurd hnil hinhabited⟩, hinhabited⟩

/-- The file of an audited record is deleted and the index refreshed. -/
theorem collectRevision_ends (hdates : DatesRoundTrip R) {stage : CatalogDisk} {change : Option CatalogChange}
    (h : Sound R stage) {record : CatalogHistoryRecordV1} {input : WasmCatalogGcInput} {clock : CatalogClock R}
    {state : WasmCatalogRecoveredState} {nextAudits : List CatalogDeleteAuditV1}
    (hmem : record ∈ stage.revisions.contents)
    (haudited : ∃ audit ∈ stage.deleteAudits.contents, audit.revision = record.revision)
    (hlength : stage.revisions.contents.length ≠ 1) (hrecords : state.records.Perm stage.revisions.contents)
    (haudits : nextAudits.Perm stage.deleteAudits.contents)
    (hreceipts : state.receipts = stage.releaseReceipts.contents)
    (hafter : afterChange disk change = stage.dropRecord record) :
    Triple (SameFiles stage) (collectRevision R state record nextAudits input clock) (fun _ => Ends R disk change)
      (fun _ => Ends R disk change) (Between R disk change) := by
  obtain ⟨hsound, hinhabited⟩ := h.dropRecord hmem haudited hlength
  have hbetween : ∀ s, SameFiles (stage.dropRecord record) s → Between R disk change s := by
    intro s hs
    refine ⟨hsound.of_same hs hinhabited, .inr (.inr ?_)⟩
    rw [hafter]
    exact hs
  have hperm : (state.records.filter fun candidate => candidate ≠ record).Perm
      (stage.dropRecord record).revisions.contents := by
    refine perm_of_mem ?_ hsound.files.nodup.of_map ?_
    · exact (hrecords.nodup_iff.mpr h.files.nodup.of_map).filter _
    · intro other
      rw [List.mem_filter, decide_eq_true_eq, hrecords.mem_iff, mem_dropRecord h.files hmem]
  unfold collectRevision
  refine Triple.bind ((write_ends (fun s hs => hs.dropRecord record) hbetween).consequence (fun _ hs => hs)
    (fun _ _ hs => hs) (fun _ _ hs => hs.elim) fun _ hs => hs) fun _ => ?_
  refine (hsound.refresh_triple hdates input.references.property clock.refreshed hinhabited hperm haudits ?_).consequence
    (fun _ hs => hs) ?_ (fun _ _ hs => hs.elim) hbetween
  · intro receipt
    rw [hreceipts]
    rfl
  · intro _ s hs
    refine ⟨?_, hs.2⟩
    rw [hafter]
    exact hs.1

/-- What the contract says about a deletion it accepts. -/
theorem GcPasses.audit {input : WasmCatalogGcInput} {receipt : CatalogReleaseReceiptV1} {record : CatalogHistoryRecordV1}
    {result : CatalogHistoryGcResultV1} (h : GcPasses R disk input receipt record result) :
    ValidAudit R result.audit ∧ result.audit.deleteId = input.deleteId ∧
      result.audit.revision = record.revision ∧ receipt.releaseId = result.audit.releaseId ∧
      receipt.catalogRevision = result.audit.revision ∧ receipt.catalogHash = result.audit.catalogHash := by
  obtain ⟨haudit, hvalid, -, hrevision, hhash, -⟩ := gcCatalogHistoryRevision_audit h.computed
  refine ⟨hvalid, ?_⟩
  rw [haudit]
  exact ⟨rfl, rfl, rfl, hrevision, hhash⟩

/-- The audit of a deletion is written under a new id, for a revision without one. -/
theorem Sound.putAudit (h : Sound R disk) {input : WasmCatalogGcInput} {receipt : CatalogReleaseReceiptV1}
    {record : CatalogHistoryRecordV1} {result : CatalogHistoryGcResultV1}
    (hpasses : GcPasses R disk input receipt record result)
    (hfresh : disk.deleteAudits.read (catalogDeleteAuditFileName input.deleteId) = none)
    (honce : ∀ other ∈ disk.deleteAudits.contents, other.revision ≠ record.revision) :
    Sound R (disk.putAudit (catalogDeleteAuditFileName input.deleteId) result.audit) := by
  obtain ⟨hvalid, hid, hrevision, hreceipt⟩ := hpasses.audit
  refine ⟨?_, h.rendered, fun hnil => absurd hnil (List.ne_nil_of_mem hpasses.record_mem)⟩
  rw [← hid] at hfresh ⊢
  refine h.files.putAudit hvalid hfresh ⟨receipt, hpasses.receipt_mem, hreceipt⟩ ?_
  intro other hother
  rw [hrevision]
  exact honce other hother

/-- A delete id without an audit has no file. -/
theorem gcAudit_eq_none (h : CatalogFiles R disk) {input : WasmCatalogGcInput}
    (hnone : gcAudit (recoveredFrom disk none) input = none) :
    disk.deleteAudits.read (catalogDeleteAuditFileName input.deleteId) = none := by
  rw [Directory.read_eq_none]
  intro file hfile hname
  have hown := (h.audits file hfile).2
  have hid : file.2.deleteId = input.deleteId := catalogDeleteAuditFileName_injective (hown.symm.trans hname)
  have hmem : file.2 ∈ disk.deleteAudits.contents := Directory.mem_contents.mpr ⟨file.1, hfile⟩
  exact List.find?_eq_none.mp hnone file.2 hmem (beq_iff_eq.mpr hid)

/-- A new audit is written and read back. -/
theorem persistAudit_ends {audit : CatalogDeleteAuditV1} {input : WasmCatalogGcInput} {change : Option CatalogChange}
    (hvalid : ValidAudit R audit)
    (hbetween : ∀ s, SameFiles (disk.putAudit (catalogDeleteAuditFileName input.deleteId) audit) s →
      Between R disk change s) :
    Triple (fun s => s = disk) (persistAudit R none audit input)
      (fun _ => SameFiles (disk.putAudit (catalogDeleteAuditFileName input.deleteId) audit)) (fun _ _ => False)
      (Between R disk change) := by
  unfold persistAudit
  refine Triple.bind ((write_ends (fun s hs => hs.putAudit _ audit) hbetween).consequence ?_ (fun _ _ hs => hs)
    (fun _ _ hs => hs) fun _ hs => hs) fun _ => ?_
  · rintro s rfl
    exact SameFiles.refl _
  · refine Triple.bind (Q := fun found s =>
      SameFiles (disk.putAudit (catalogDeleteAuditFileName input.deleteId) audit) s ∧ found = some audit)
      (Triple.read fun s hs => ⟨hs, ?_⟩) fun found => Triple.assume (fun _ hs => hs.2) ?_
    · rw [hs.audits]
      exact Directory.read_write_self _ _ _
    · rintro rfl
      have hconfirm := confirmReadback_ok (validateCatalogDeleteAuditV1_eq_ok.mpr ⟨rfl, hvalid⟩)
        ("delete audit readback diverged for deleteId " ++ input.deleteId ++ "; the revision file is preserved")
      rw [hconfirm]
      exact Triple.lift (fun _ _ hs _ => hs.1) fun _ _ _ h => nomatch h

section Gc

variable (hdates : DatesRoundTrip R) (h : SettledStore R disk)
include hdates h

/-- The index is refreshed while the files stay. -/
theorem refresh_performs {references : CatalogReferences} {now : ClockText R} {fault : CatalogFault} {α : Type}
    (hinhabited : disk.revisions.contents ≠ []) :
    Performs R disk
      (do
        writeRefreshedIndex R (recoveredFrom disk disk.index).records (recoveredFrom disk disk.index).audits
          (recoveredFrom disk disk.index).receipts references.val now
        (Prog.lift (.error fault) : CatalogProg α)) none := by
  have hrefresh := h.refresh_triple hdates references.property now hinhabited
    (List.perm_insertionSort (fun left right : CatalogHistoryRecordV1 => left.revision ≤ right.revision)
      disk.revisions.contents) (List.Perm.refl _) fun _ => Iff.rfl
  refine Triple.bind (Q := fun _ => Ends R disk none) (hrefresh.consequence ?_ (fun _ _ hs => hs)
    (fun _ _ hs => hs.elim) ?_) fun _ => Triple.lift (fun _ _ _ h => nomatch h) fun _ _ hs _ => hs
  · rintro s rfl
    exact SameFiles.refl _
  · intro s hs
    exact ⟨h.of_same hs hinhabited, .inl hs⟩

/-- A deletion that passes every check is audited and done. -/
theorem collect_ends {input : WasmCatalogGcInput} {clock : CatalogClock R} {receipt : CatalogReleaseReceiptV1}
    {record : CatalogHistoryRecordV1} {computed : CatalogHistoryGcResultV1}
    (hpasses : GcPasses R disk input receipt record computed)
    (hfresh : disk.deleteAudits.read (catalogDeleteAuditFileName input.deleteId) = none)
    (honce : ∀ other ∈ disk.deleteAudits.contents, other.revision ≠ record.revision) :
    Performs R disk
      (do
        persistAudit R none computed.audit input
        collectRevision R (recoveredFrom disk disk.index) record
          ((recoveredFrom disk disk.index).audits ++ [computed.audit]) input clock
        return computed)
      (some (.collect (catalogDeleteAuditFileName input.deleteId) computed.audit record)) := by
  have hsound := h.putAudit hpasses hfresh honce
  have hmem : record ∈ (disk.putAudit (catalogDeleteAuditFileName input.deleteId) computed.audit).revisions.contents :=
    hpasses.record_mem
  have haudits : ∀ other, other ∈ (disk.putAudit (catalogDeleteAuditFileName input.deleteId)
      computed.audit).deleteAudits.contents ↔ other = computed.audit ∨ other ∈ disk.deleteAudits.contents :=
    fun _ => mem_putAudit hfresh
  have hbetween : ∀ s, SameFiles (disk.putAudit (catalogDeleteAuditFileName input.deleteId) computed.audit) s →
      Between R disk (some (.collect (catalogDeleteAuditFileName input.deleteId) computed.audit record)) s :=
    fun s hs => ⟨hsound.of_same hs (List.ne_nil_of_mem hmem), .inr (.inl hs)⟩
  have hperm : ((recoveredFrom disk disk.index).audits ++ [computed.audit]).Perm
      (disk.putAudit (catalogDeleteAuditFileName input.deleteId) computed.audit).deleteAudits.contents := by
    refine perm_of_mem ?_ hsound.files.auditUnique.of_map ?_
    · refine List.Nodup.append h.files.auditUnique.of_map (List.nodup_singleton computed.audit) ?_
      intro other hother hnew
      rw [List.mem_singleton] at hnew
      refine honce other hother ?_
      rw [hnew]
      exact hpasses.audit.2.2.1
    · intro other
      rw [List.mem_append, List.mem_singleton, haudits other]
      exact or_comm
  refine Triple.bind ((persistAudit_ends hpasses.audit.1 hbetween).consequence (fun _ hs => hs) (fun _ _ hs => hs)
    (fun _ _ hs => hs.elim) fun _ hs => hs) fun _ => ?_
  exact Triple.bind (collectRevision_ends hdates hsound hmem ⟨computed.audit, (haudits _).mpr (.inl rfl),
    hpasses.audit.2.2.1⟩ hpasses.notLast (List.perm_insertionSort _ _) hperm rfl rfl) fun _ => Triple.pure fun _ hs => hs

theorem gcPresent_ends {input : WasmCatalogGcInput} {clock : CatalogClock R} {receipt : CatalogReleaseReceiptV1}
    {record : CatalogHistoryRecordV1} (hreceipt : gcReceipt (recoveredFrom disk none) input = some receipt)
    (hrecord : gcRecord (recoveredFrom disk none) receipt = some record) (honce : auditsAgain R disk input = false) :
    Performs R disk (gcPresent R (recoveredFrom disk disk.index) receipt record input clock)
      (gcPresentChange R (recoveredFrom disk none) receipt record input) := by
  have hreceiptMem : receipt ∈ disk.releaseReceipts.contents := List.mem_of_find?_eq_some hreceipt
  have hmem : record ∈ disk.revisions.contents := mem_sortRecords.mp (List.mem_of_find?_eq_some hrecord)
  have hid : receipt.releaseId = input.releaseId := by simpa using List.find?_some hreceipt
  have hbinds := List.find?_some hrecord
  rw [Bool.and_eq_true, beq_iff_eq, beq_iff_eq] at hbinds
  have hsorted : (recoveredFrom disk none).records.length = disk.revisions.contents.length :=
    List.length_insertionSort _ _
  unfold gcPresent gcPresentChange
  by_cases hlength : (recoveredFrom disk none).records.length = 1
  · rw [if_pos hlength]
    have hlength' : (recoveredFrom disk disk.index).records.length = 1 := hlength
    rw [if_pos hlength']
    exact performs_unchanged h
  · rw [if_neg hlength]
    have hlength' : ¬ (recoveredFrom disk disk.index).records.length = 1 := hlength
    rw [if_neg hlength']
    cases hcomputed : gcCatalogHistoryRevision R (gcRequest input receipt record) with
    | error errors =>
      dsimp only
      split
      next => exact refresh_performs hdates h (List.ne_nil_of_mem hmem)
      next => exact performs_unchanged h
    | ok computed =>
      have hpasses : GcPasses R disk input receipt record computed :=
        ⟨hreceiptMem, hid, hmem, hbinds.1, hbinds.2, hsorted ▸ hlength, hcomputed⟩
      have haudit' : gcAudit (recoveredFrom disk disk.index) input = gcAudit (recoveredFrom disk none) input := rfl
      dsimp only
      rw [haudit']
      cases haudit : gcAudit (recoveredFrom disk none) input with
      | some existing =>
        have hpersist : persistAudit R (some existing) computed.audit input =
            Prog.lift (if existing = computed.audit then .ok () else .error (storeFailure catalogDeleteAuditStoreMismatch
              ("deleteId " ++ input.deleteId ++ " already holds an audit for a different gc request"))) := rfl
        dsimp only
        rw [hpersist]
        by_cases hequal : existing = computed.audit
        · rw [if_pos hequal, if_pos hequal]
          refine Triple.bind (Q := fun _ s => s = disk) (Triple.lift (fun _ _ hs _ => hs) fun _ _ _ h => nomatch h)
            fun _ => ?_
          refine Triple.bind (Q := fun _ => Ends R disk (some (.complete record))) ?_ fun _ => Triple.pure fun _ hs => hs
          refine (collectRevision_ends hdates h.toSound hmem ⟨existing, List.mem_of_find?_eq_some haudit, ?_⟩
            hpasses.notLast (List.perm_insertionSort _ _) (List.Perm.refl _) rfl rfl).consequence ?_ (fun _ _ hs => hs)
            (fun _ _ hs => hs) fun _ hs => hs
          · rw [hequal]
            exact hpasses.audit.2.2.1
          · rintro s rfl
            exact SameFiles.refl _
        · rw [if_neg hequal, if_neg hequal]
          exact performs_fault h
      | none =>
        have hfresh := gcAudit_eq_none h.files haudit
        have hunaudited : ∀ other ∈ disk.deleteAudits.contents, other.revision ≠ record.revision := by
          intro other hother heq
          have hany : ((recoveredFrom disk none).audits.any fun audit => audit.revision == record.revision) = true :=
            List.any_eq_true.mpr ⟨other, hother, beq_iff_eq.mpr heq⟩
          unfold auditsAgain at honce
          dsimp only at honce
          rw [hreceipt] at honce
          dsimp only at honce
          rw [hrecord] at honce
          dsimp only at honce
          rw [hcomputed, haudit, hany, decide_eq_true hlength] at honce
          cases honce
        exact collect_ends hdates h hpasses hfresh hunaudited

theorem gc_ends (input : WasmCatalogGcInput) (clock : CatalogClock R) (honce : auditsAgain R disk input = false) :
    Performs R disk (gc R input clock) (callChange R disk (.gc input clock)) := by
  unfold gc recoverForMutation
  refine performs_recovered hdates h input.references.property ?_
  show Performs R disk _ (gcChange R (recoveredFrom disk none) input)
  have hreceipt' : gcReceipt (recoveredFrom disk disk.index) input = gcReceipt (recoveredFrom disk none) input := rfl
  unfold gcChange
  rw [hreceipt']
  cases hreceipt : gcReceipt (recoveredFrom disk none) input with
  | none => exact performs_unchanged h
  | some receipt =>
    have hrecord' : gcRecord (recoveredFrom disk disk.index) receipt = gcRecord (recoveredFrom disk none) receipt := rfl
    dsimp only
    rw [hrecord']
    show Performs R disk _ ((gcRecord (recoveredFrom disk none) receipt).bind fun record =>
      gcPresentChange R (recoveredFrom disk none) receipt record input)
    cases hrecord : gcRecord (recoveredFrom disk none) receipt with
    | none => exact performs_unchanged h
    | some record => exact gcPresent_ends hdates h hreceipt hrecord honce

end Gc

end Iweb
