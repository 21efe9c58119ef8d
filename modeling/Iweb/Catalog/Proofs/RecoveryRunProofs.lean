import Iweb.Catalog.Proofs.InterruptionProofs
import Iweb.Catalog.Proofs.AppendOnlyProofs

/-!
# Histories of the catalog store with interruptions

Each step of a history is matched by whole calls of the reference history. An audit without a deletion is kept; the
deletion can be completed under its own delete id, and a second audit of the revision makes the files inconsistent.
-/

namespace Iweb

open CrashHoare CrashRefinement WasmCatalogStore

variable {R : CatalogRules} {disk : CatalogDisk}

/-! ## Steps -/

section Repair

variable (hdates : DatesRoundTrip R) (references : CatalogReferences) (now : ClockText R)
include hdates

/-- The owner's repair of a sound store succeeds if it holds a revision, and settles the store. -/
theorem Sound.rebuildIndex_triple (h : Sound R disk) :
    Triple (fun s => s = disk) (rebuildIndex R references now) (fun _ s => SameFiles disk s ∧ SettledStore R s)
      (fun _ s => SameFiles disk s ∧ SettledStore R s ∧ disk.revisions.contents = [])
      (fun s => SameFiles disk s ∧ disk.revisions.contents ≠ []) := by
  unfold rebuildIndex
  refine Triple.bind ((h.recoverState_triple hdates references.property now).consequence (fun _ hs => hs)
    (fun _ _ hs => hs) (fun _ _ hs => hs.elim) fun _ hs => hs) fun state => ?_
  cases hindex : state.index with
  | none =>
    refine Triple.lift (fun _ _ _ h => nomatch h) fun s _ hs _ => ⟨hs.1, hs.2.1, ?_⟩
    by_contra hinhabited
    obtain ⟨index, hsome⟩ := hs.2.2 hinhabited
    cases hsome
  | some index => exact Triple.pure fun _ hs => ⟨hs.1, hs.2.1⟩

theorem Sound.perform_rebuildIndex (h : Sound R disk) :
    SameFiles disk (perform R disk (.rebuildIndex references now)) ∧
      SettledStore R (perform R disk (.rebuildIndex references now)) := by
  have htriple : Triple (fun s => s = disk) (CatalogCall.program R (.rebuildIndex references now))
      (fun _ s => SameFiles disk s ∧ SettledStore R s) (fun _ s => SameFiles disk s ∧ SettledStore R s)
      (fun _ => True) :=
    Triple.void ((h.rebuildIndex_triple hdates references now).consequence (fun _ hs => hs) (fun _ _ hs => hs)
      (fun _ _ hs => ⟨hs.1, hs.2.1⟩) fun _ _ => trivial)
  obtain ⟨-, hend⟩ := htriple disk rfl
  unfold perform
  cases hresult : (CatalogCall.program R (.rebuildIndex references now) disk).result with
  | ok a =>
    rw [hresult] at hend
    exact hend
  | error e =>
    rw [hresult] at hend
    exact hend

end Repair

section Step

variable (hdates : DatesRoundTrip R) (h : SettledStore R disk)
include hdates h

/-- From a settled store a call makes its change. -/
theorem program_performs (call : CatalogCall R)
    (honce : ∀ input clock, call = .gc input clock → auditsAgain R disk input = false) :
    Performs R disk call.program (callChange R disk call) := by
  cases call with
  | bootstrap payload clock => exact Triple.void (bootstrap_ends hdates h payload clock)
  | append expected next references clock => exact Triple.void (append_ends hdates h expected next references clock)
  | revoke expected entryKey revocation references clock =>
    exact Triple.void (revoke_ends hdates h expected entryKey revocation references clock)
  | release input clock => exact Triple.void (release_ends hdates h input clock)
  | gc input clock => exact Triple.void (gc_ends hdates h input clock (honce input clock rfl))
  | rebuildIndex references now =>
    refine Triple.void ((h.rebuildIndex_triple hdates references now).consequence (fun _ hs => hs) (fun _ _ hs => hs)
      (fun _ _ hs => ⟨hs.1, hs.2.1⟩) ?_)
    intro s hs
    exact ⟨h.of_same hs.1 hs.2, .inl hs.1⟩

theorem perform_ends (call : CatalogCall R)
    (honce : ∀ input clock, call = .gc input clock → auditsAgain R disk input = false) :
    Ends R disk (callChange R disk call) (perform R disk call) := by
  obtain ⟨-, hend⟩ := program_performs hdates h call honce disk rfl
  unfold perform
  cases hresult : (call.program R disk).result with
  | ok a =>
    rw [hresult] at hend
    exact hend
  | error e =>
    rw [hresult] at hend
    exact hend

theorem interrupted_between (call : CatalogCall R) (writes : Nat)
    (honce : ∀ input clock, call = .gc input clock → auditsAgain R disk input = false) :
    Between R disk (callChange R disk call) (call.program.leaves (some writes) disk) := by
  have hends : ∀ s, Ends R disk (callChange R disk call) s → Between R disk (callChange R disk call) s :=
    fun s hs => ⟨hs.2.toSound, .inr (.inr hs.1)⟩
  refine Triple.leaves (P := fun s => s = disk) ((program_performs hdates h call honce).consequence (fun _ hs => hs)
    (fun _ s hs => hends s hs) (fun _ s hs => hends s hs) fun _ hs => hs) ?_ (some writes) rfl
  rintro s rfl
  exact ⟨h.toSound, .inl (SameFiles.refl _)⟩

end Step

/-! ## Changes -/

theorem SameFiles.recoveredFrom_eq {disk' : CatalogDisk} (h : SameFiles disk disk')
    (index : Option CatalogHistoryIndexV1) : recoveredFrom disk' index = recoveredFrom disk index := by
  unfold recoveredFrom
  rw [h.revisions, h.receipts, h.audits]

/-- A change depends on the files alone. -/
theorem SameFiles.callChange_eq {disk' : CatalogDisk} (h : SameFiles disk disk') (call : CatalogCall R) :
    callChange R disk' call = callChange R disk call := by
  cases call with
  | release input clock =>
    unfold callChange releaseChange
    rw [h.recoveredFrom_eq none, h.receipts]
  | _ =>
    unfold callChange
    rw [h.recoveredFrom_eq none]

theorem SameFiles.auditsAgain_eq {disk' : CatalogDisk} (h : SameFiles disk disk') (input : WasmCatalogGcInput) :
    auditsAgain R disk' input = auditsAgain R disk input := by
  unfold auditsAgain
  rw [h.recoveredFrom_eq none]

theorem SameFiles.apply {disk' : CatalogDisk} (h : SameFiles disk disk') (change : CatalogChange) :
    SameFiles (change.apply disk) (change.apply disk') := by
  cases change with
  | store record => exact h.putRecord record
  | release name receipt => exact h.putReceipt name receipt
  | collect name audit record => exact (h.putAudit name audit).dropRecord record
  | complete record => exact h.dropRecord record

theorem SameFiles.approve {disk' : CatalogDisk} (h : SameFiles disk disk') (change : CatalogChange) :
    SameFiles (change.approve disk) (change.approve disk') := by
  cases change with
  | collect name audit record => exact h.putAudit name audit
  | _ => exact h

theorem SameFiles.afterChange {disk' : CatalogDisk} (h : SameFiles disk disk') (change : Option CatalogChange) :
    SameFiles (afterChange disk change) (afterChange disk' change) := by
  cases change with
  | none => exact h
  | some change => exact h.apply change

/-- Only a deletion collects or completes; the others store a record or a receipt. -/
theorem storeChange_eq_some {state : WasmCatalogRecoveredState} {catalog : RuntimeCatalogV1} {clock : CatalogClock R}
    {change : CatalogChange} (h : storeChange R state catalog clock = some change) :
    ∃ record, change = .store record := by
  unfold storeChange at h
  split at h
  next => cases h
  next record _ =>
    split at h
    next => cases h
    next => exact ⟨record, (Option.some.inj h).symm⟩

/-- A deletion that changes the store passed every check. -/
theorem gcChange_eq_some {input : WasmCatalogGcInput} {change : CatalogChange}
    (h : gcChange R (recoveredFrom disk none) input = some change) :
    ∃ receipt record result, GcPasses R disk input receipt record result ∧
      (change = .complete record ∨ change = .collect (catalogDeleteAuditFileName input.deleteId) result.audit record ∧
        gcAudit (recoveredFrom disk none) input = none) := by
  unfold gcChange at h
  obtain ⟨receipt, hreceipt, h⟩ := Option.bind_eq_some_iff.mp h
  obtain ⟨record, hrecord, h⟩ := Option.bind_eq_some_iff.mp h
  have hid : receipt.releaseId = input.releaseId := by simpa using List.find?_some hreceipt
  have hbinds := List.find?_some hrecord
  rw [Bool.and_eq_true, beq_iff_eq, beq_iff_eq] at hbinds
  have hsorted : (recoveredFrom disk none).records.length = disk.revisions.contents.length :=
    List.length_insertionSort _ _
  unfold gcPresentChange at h
  split at h
  next => cases h
  next hlength =>
    split at h
    next => cases h
    next computed hcomputed =>
      refine ⟨receipt, record, computed, ⟨List.mem_of_find?_eq_some hreceipt, hid,
        mem_sortRecords.mp (List.mem_of_find?_eq_some hrecord), hbinds.1, hbinds.2, hsorted ▸ hlength, hcomputed⟩, ?_⟩
      split at h
      next =>
        split at h
        next => exact .inl (Option.some.inj h).symm
        next => cases h
      next hnone => exact .inr ⟨(Option.some.inj h).symm, hnone⟩

/-- A call stores a record or a receipt, or is a deletion. -/
theorem callChange_cases {call : CatalogCall R} {change : CatalogChange} (h : callChange R disk call = some change) :
    (∃ record, change = .store record) ∨ (∃ name receipt, change = .release name receipt) ∨
      ∃ input clock, call = .gc input clock ∧ gcChange R (recoveredFrom disk none) input = some change := by
  cases call with
  | bootstrap payload clock =>
    unfold callChange at h
    dsimp only at h
    split at h
    next => cases h
    next =>
      obtain ⟨catalog, -, hstore⟩ := Option.bind_eq_some_iff.mp h
      exact .inl (storeChange_eq_some hstore)
  | append expected next references clock =>
    obtain ⟨current, -, h⟩ := Option.bind_eq_some_iff.mp h
    obtain ⟨catalog, -, hstore⟩ := Option.bind_eq_some_iff.mp h
    exact .inl (storeChange_eq_some hstore)
  | revoke expected entryKey revocation references clock =>
    obtain ⟨current, -, h⟩ := Option.bind_eq_some_iff.mp h
    obtain ⟨catalog, -, hstore⟩ := Option.bind_eq_some_iff.mp h
    exact .inl (storeChange_eq_some hstore)
  | release input clock =>
    replace h : releaseChange R disk (recoveredFrom disk none) input = some change := h
    unfold releaseChange at h
    split at h
    next =>
      split at h
      next receipt _ => exact .inr (.inl ⟨_, receipt, (Option.some.inj h).symm⟩)
      next => cases h
    next => cases h
  | gc input clock => exact .inr (.inr ⟨input, clock, rfl, h⟩)
  | rebuildIndex references now => cases h

/-- A store that holds a revision holds one after every change. -/
theorem SettledStore.afterChange_inhabited (h : SettledStore R disk) (hinhabited : disk.revisions.contents ≠ [])
    (call : CatalogCall R) : (afterChange disk (callChange R disk call)).revisions.contents ≠ [] := by
  cases hchange : callChange R disk call with
  | none => exact hinhabited
  | some change =>
    rcases callChange_cases hchange with ⟨record, rfl⟩ | ⟨name, receipt, rfl⟩ | ⟨input, clock, rfl, hgc⟩
    · exact List.ne_nil_of_mem (Directory.mem_contents.mpr ⟨_, Directory.mem_files_write.mpr (.inl rfl)⟩)
    · exact hinhabited
    · obtain ⟨receipt, record, result, hpasses, hcases⟩ := gcChange_eq_some hgc
      obtain ⟨other, hother, hne⟩ := exists_mem_ne h.files.nodup.of_map hpasses.record_mem hpasses.notLast
      have hleft : (disk.dropRecord record).revisions.contents ≠ [] :=
        List.ne_nil_of_mem ((mem_dropRecord h.files hpasses.record_mem).mpr ⟨hother, hne⟩)
      rcases hcases with rfl | ⟨rfl, -⟩
      · exact hleft
      · exact hleft

/-! ## Steps and the reference -/

/-- An audit of a revision that is present does not show in the index. -/
theorem IndexCore.add_audit {records : List CatalogHistoryRecordV1} {audits audits' : List CatalogDeleteAuditV1}
    {audit : CatalogDeleteAuditV1} {core : Nat × String × List (Nat × String × CatalogIndexEntryStatus)}
    (h : IndexCore records audits core) (hmem : ∀ other, other ∈ audits' ↔ other = audit ∨ other ∈ audits)
    (hpresent : ∃ record ∈ records, record.revision = audit.revision) : IndexCore records audits' core := by
  obtain ⟨record, hrecord, hrevision⟩ := hpresent
  refine ⟨h.ascending, ?_, h.top⟩
  intro entry
  rw [h.mem]
  refine or_congr Iff.rfl ?_
  constructor
  · rintro ⟨other, hother, hgone, heq⟩
    exact ⟨other, (hmem other).mpr (.inr hother), hgone, heq⟩
  · rintro ⟨other, hother, hgone, heq⟩
    rcases (hmem other).mp hother with rfl | hold
    · exact absurd hrevision (hgone record hrecord)
    · exact ⟨other, hold, hgone, heq⟩

/-- A settled store stays settled when the audit of a deletion is added. -/
theorem SettledStore.approve (h : SettledStore R disk) {input : WasmCatalogGcInput} {change : CatalogChange}
    (hchange : gcChange R (recoveredFrom disk none) input = some change) (hsound : Sound R (change.approve disk)) :
    SettledStore R (change.approve disk) := by
  obtain ⟨receipt, record, result, hpasses, rfl | ⟨rfl, hnone⟩⟩ := gcChange_eq_some hchange
  · exact h
  · refine ⟨hsound, fun hinhabited => ?_⟩
    obtain ⟨index, hindex, hvalid, hcore⟩ := h.stored hinhabited
    refine ⟨index, hindex, hvalid, hcore.add_audit (fun other => mem_putAudit (gcAudit_eq_none h.files hnone)) ?_⟩
    exact ⟨record, hpasses.record_mem, hpasses.audit.2.2.1.symm⟩

/-- The store and the reference are settled and hold the same files. -/
structure Matches (R : CatalogRules) (disk reference : CatalogDisk) : Prop where
  store : SettledStore R disk
  settled : SettledStore R reference
  same : SameFiles reference disk

/-- Between two writes a store that held a revision still holds one. -/
theorem Between.inhabited {call : CatalogCall R} {s : CatalogDisk} (h : SettledStore R disk)
    (hs : Between R disk (callChange R disk call) s) (hinhabited : disk.revisions.contents ≠ []) :
    s.revisions.contents ≠ [] := by
  rcases hs.2 with hsame | hsame | hsame
  · rw [hsame.revisions]
    exact hinhabited
  · rw [hsame.revisions]
    cases callChange R disk call with
    | none => exact hinhabited
    | some change =>
      cases change with
      | _ => exact hinhabited
  · rw [hsame.revisions]
    exact h.afterChange_inhabited hinhabited call

/-- A call that reaches its first write audits no revision again. -/
theorem auditsOnce_call {step : CatalogStep R} {call : CatalogCall R} (honce : auditsOnce R disk step = true)
    (hstep : step = .whole call ∨ ∃ writes references now, step = .interrupted call (writes + 1) references now) :
    ∀ input clock, call = .gc input clock → auditsAgain R disk input = false := by
  rintro input clock rfl
  rcases hstep with rfl | ⟨writes, references, now, rfl⟩
  · simpa [auditsOnce] using honce
  · simpa [auditsOnce] using honce

/-- The store a call leaves when it is interrupted. -/
theorem interrupted_between_step (hdates : DatesRoundTrip R) (h : SettledStore R disk) {call : CatalogCall R}
    {writes : Nat} {references : CatalogReferences} {now : ClockText R}
    (honce : auditsOnce R disk (.interrupted call writes references now) = true) :
    Between R disk (callChange R disk call) (call.program.leaves (some writes) disk) := by
  cases writes with
  | zero => exact ⟨h.toSound, .inl (SameFiles.refl _)⟩
  | succ writes =>
    exact interrupted_between hdates h call (writes + 1) (auditsOnce_call honce (.inr ⟨writes, references, now, rfl⟩))

section Matching

variable (hdates : DatesRoundTrip R) {reference : CatalogDisk} (h : Matches R disk reference)
include hdates h

/-- A whole call takes the reference to the files of its change. -/
theorem Matches.perform {call : CatalogCall R}
    (honce : ∀ input clock, call = .gc input clock → auditsAgain R disk input = false) :
    SettledStore R (WasmCatalogStore.perform R reference call) ∧
      SameFiles (WasmCatalogStore.perform R reference call) (afterChange disk (callChange R disk call)) := by
  have honce' : ∀ input clock, call = .gc input clock → auditsAgain R reference input = false := by
    intro input clock hcall
    rw [← h.same.auditsAgain_eq]
    exact honce input clock hcall
  have hends := perform_ends hdates h.settled call honce'
  refine ⟨hends.2, hends.1.symm.trans ?_⟩
  rw [h.same.callChange_eq call]
  exact h.same.afterChange _

omit hdates in
/-- The audit of a deletion takes the reference to the files of the store. -/
theorem Matches.audited {input : WasmCatalogGcInput} {s : CatalogDisk} (hs : Sound R s)
    (hsame : SameFiles ((gcChange R (recoveredFrom disk none) input).elim disk (CatalogChange.approve disk)) s) :
    SettledStore R ((gcChange R (recoveredFrom reference none) input).elim reference (CatalogChange.approve reference)) ∧
      SameFiles ((gcChange R (recoveredFrom reference none) input).elim reference (CatalogChange.approve reference)) s := by
  have hchange : gcChange R (recoveredFrom disk none) input = gcChange R (recoveredFrom reference none) input := by
    rw [h.same.recoveredFrom_eq]
  rw [hchange] at hsame
  cases hgc : gcChange R (recoveredFrom reference none) input with
  | none =>
    rw [hgc] at hsame
    exact ⟨h.settled, h.same.trans hsame⟩
  | some change =>
    rw [hgc] at hsame
    have hsame' : SameFiles (change.approve reference) s := (h.same.approve change).trans hsame
    obtain ⟨receipt, record, result, hpasses, hcases⟩ := gcChange_eq_some hgc
    have hrevisions : (change.approve reference).revisions = reference.revisions := by
      rcases hcases with rfl | ⟨rfl, -⟩
      · rfl
      · rfl
    have hinhabited : s.revisions.contents ≠ [] := by
      rw [hsame'.revisions, hrevisions]
      exact List.ne_nil_of_mem hpasses.record_mem
    exact ⟨h.settled.approve hgc (hs.of_same hsame'.symm hinhabited), hsame'⟩

/-- A step of the store is matched by what it amounts to. -/
theorem Matches.step {step : CatalogStep R} (honce : auditsOnce R disk step = true) :
    ∃ calls, CatalogStep.Allowed R step calls ∧
      Matches R (storeStep R disk step) (run (referenceStep R) reference calls) := by
  cases step with
  | whole call =>
    have hcall := auditsOnce_call honce (.inl rfl)
    have hends := perform_ends hdates h.store call hcall
    obtain ⟨hsettled, hsame⟩ := h.perform hdates hcall
    exact ⟨_, .whole call, hends.2, hsettled, hsame.trans hends.1⟩
  | interrupted call writes references now =>
    have hbetween := interrupted_between_step hdates h.store honce
    obtain ⟨hrebuilt, hsettled⟩ := hbetween.1.perform_rebuildIndex hdates references now
    cases writes with
    | zero => exact ⟨_, .undone call 0 references now, hsettled, h.settled, h.same.trans hrebuilt⟩
    | succ writes =>
      have hcall := auditsOnce_call honce (.inr ⟨writes, references, now, rfl⟩)
      rcases hbetween.2 with hsame | hsame | hsame
      · exact ⟨_, .undone call _ references now, hsettled, h.settled, h.same.trans (hsame.trans hrebuilt)⟩
      · cases hchange : callChange R disk call with
        | none =>
          rw [hchange] at hsame
          exact ⟨_, .undone call _ references now, hsettled, h.settled, h.same.trans (hsame.trans hrebuilt)⟩
        | some change =>
          rcases callChange_cases hchange with ⟨record, rfl⟩ | ⟨name, receipt, rfl⟩ | ⟨input, clock, rfl, hgc⟩
          · rw [hchange] at hsame
            exact ⟨_, .undone call _ references now, hsettled, h.settled, h.same.trans (hsame.trans hrebuilt)⟩
          · rw [hchange] at hsame
            exact ⟨_, .undone call _ references now, hsettled, h.settled, h.same.trans (hsame.trans hrebuilt)⟩
          · obtain ⟨haudited, hfiles⟩ := h.audited hbetween.1 hsame
            exact ⟨_, .audited input clock _ references now, hsettled, haudited, hfiles.trans hrebuilt⟩
      · obtain ⟨hdone, hfiles⟩ := h.perform hdates hcall
        exact ⟨_, .done call _ references now, hsettled, hdone, hfiles.trans (hsame.trans hrebuilt)⟩

end Matching

/-! ## The main result -/

/-- The store after a history of steps. -/
def storeAfterSteps (steps : List (CatalogStep R)) : CatalogDisk := run (storeStep R) .empty steps

/-- The store recovers from every interruption of a history. -/
structure RecoversFrom (R : CatalogRules) (steps : List (CatalogStep R)) : Prop where
  /-- The owner's repair after an interruption succeeds once the store holds a revision. -/
  repairs : ∀ earlier call writes references now later,
    steps = earlier ++ .interrupted call writes references now :: later →
    let crashed := (CatalogCall.program R call).leaves (some writes) (storeAfterSteps earlier)
    ((storeAfterSteps earlier).revisions.contents ≠ [] → crashed.revisions.contents ≠ []) ∧
      (crashed.revisions.contents ≠ [] → ∃ index, (rebuildIndex R references now crashed).result = .ok index)
  /-- A store that ever held a revision holds one. -/
  inhabited : ∀ earlier later, steps = earlier ++ later → (storeAfterSteps earlier).revisions.contents ≠ [] →
    (storeAfterSteps steps).revisions.contents ≠ []
  /-- `open` and `rebuildIndex` accept the store. -/
  opens : ∀ references now, ∃ current, (openStore R references now (storeAfterSteps steps)).result = .ok current
  rebuilds : (storeAfterSteps steps).revisions.contents ≠ [] → ∀ references now,
    ∃ index, (rebuildIndex R references now (storeAfterSteps steps)).result = .ok index
  /-- The files and the index say what they say after the calls the history amounts to. -/
  resolves : ∃ calls, Resolves (CatalogStep.Allowed R) steps calls ∧
    SameFiles (run (referenceStep R) .empty calls) (storeAfterSteps steps) ∧
    (storeAfterSteps steps).index.map semanticIndexCore = (run (referenceStep R) .empty calls).index.map semanticIndexCore
  /-- A deletion whose audit was written is completed by the same request. -/
  completes : ∀ input clock receipt record result, GcPasses R (storeAfterSteps steps) input receipt record result →
    result.audit ∈ (storeAfterSteps steps).deleteAudits.contents →
    SameFiles ((storeAfterSteps steps).dropRecord record) (perform R (storeAfterSteps steps) (.gc input clock))

theorem settled_empty (R : CatalogRules) : SettledStore R .empty := by
  refine ⟨⟨⟨⟨?_, ?_, ?_, .nil⟩, ?_, ?_, .nil, ?_, ?_⟩, ?_, ?_⟩, ?_⟩
  · exact fun _ h => nomatch h
  · exact fun _ h => nomatch h
  · exact fun _ h => nomatch h
  · exact fun _ h => nomatch h
  · exact fun _ h => nomatch h
  · exact fun _ h => nomatch h
  · exact fun _ h => nomatch h
  · exact fun _ h => nomatch h
  · exact fun _ => ⟨rfl, rfl, rfl⟩
  · exact fun hne => absurd rfl hne

/-- Stores of the same files that are settled have indexes of the same meaning. -/
theorem Matches.index_eq {reference : CatalogDisk} (h : Matches R disk reference) :
    disk.index.map semanticIndexCore = reference.index.map semanticIndexCore := by
  by_cases hempty : disk.revisions.contents = []
  · have hempty' : reference.revisions.contents = [] := by
      rw [← h.same.revisions]
      exact hempty
    rw [(h.store.initial hempty).2.2, (h.settled.initial hempty').2.2]
  · have hinhabited : reference.revisions.contents ≠ [] := by
      rw [← h.same.revisions]
      exact hempty
    obtain ⟨index, hindex, -, hcore⟩ := h.store.stored hempty
    obtain ⟨index', hindex', -, hcore'⟩ := h.settled.stored hinhabited
    rw [h.same.revisions, h.same.audits] at hcore
    rw [hindex, hindex', Option.map_some, Option.map_some, hcore.unique hcore' (fun _ => Iff.rfl) fun _ => Iff.rfl]

section Accepts

variable (hdates : DatesRoundTrip R) (references : CatalogReferences) (now : ClockText R)
include hdates

/-- `open` accepts a settled store. -/
theorem SettledStore.openStore_ok (h : SettledStore R disk) :
    ∃ current, (openStore R references now disk).result = .ok current := by
  have htriple : Triple (fun s => s = disk) (openStore R references now) (fun _ _ => True) (fun _ _ => False)
      (fun _ => False) := by
    unfold openStore
    exact Triple.bind (h.recoverState_triple hdates references.property now true) fun state =>
      Triple.pure fun _ _ => trivial
  cases hresult : (openStore R references now disk).result with
  | ok current => exact ⟨current, rfl⟩
  | error fault => exact (htriple.of_error rfl hresult).elim

/-- `rebuildIndex` accepts a sound store that holds a revision. -/
theorem Sound.rebuildIndex_ok (h : Sound R disk) (hinhabited : disk.revisions.contents ≠ []) :
    ∃ index, (rebuildIndex R references now disk).result = .ok index := by
  cases hresult : (rebuildIndex R references now disk).result with
  | ok index => exact ⟨index, rfl⟩
  | error fault =>
    exact absurd ((h.rebuildIndex_triple hdates references now).of_error rfl hresult).2.2 hinhabited

end Accepts

/-- A deletion that passes every check and whose audit is there has only the file left to delete. -/
theorem gcChange_eq_complete (h : CatalogFiles R disk) {input : WasmCatalogGcInput} {receipt : CatalogReleaseReceiptV1}
    {record : CatalogHistoryRecordV1} {result : CatalogHistoryGcResultV1}
    (hpasses : GcPasses R disk input receipt record result) (haudit : result.audit ∈ disk.deleteAudits.contents) :
    gcChange R (recoveredFrom disk none) input = some (.complete record) ∧ auditsAgain R disk input = false := by
  have hreceipt : gcReceipt (recoveredFrom disk none) input = some receipt := by
    cases hfind : gcReceipt (recoveredFrom disk none) input with
    | none =>
      exact absurd (beq_iff_eq.mpr hpasses.releaseId) (List.find?_eq_none.mp hfind receipt hpasses.receipt_mem)
    | some found =>
      have hid : found.releaseId = input.releaseId := by simpa using List.find?_some hfind
      rw [receipt_unique h.receipts found (List.mem_of_find?_eq_some hfind) receipt hpasses.receipt_mem
        (hid.trans hpasses.releaseId.symm)]
  have hrecord : gcRecord (recoveredFrom disk none) receipt = some record := by
    cases hfind : gcRecord (recoveredFrom disk none) receipt with
    | none =>
      refine absurd ?_ (List.find?_eq_none.mp hfind record (mem_sortRecords.mpr hpasses.record_mem))
      rw [Bool.and_eq_true, beq_iff_eq, beq_iff_eq]
      exact ⟨hpasses.revision, hpasses.catalogHash⟩
    | some found =>
      have hbinds := List.find?_some hfind
      rw [Bool.and_eq_true, beq_iff_eq, beq_iff_eq] at hbinds
      rw [h.unique (mem_sortRecords.mp (List.mem_of_find?_eq_some hfind)) hpasses.record_mem
        (hbinds.1.trans hpasses.revision.symm)]
  have hexisting : gcAudit (recoveredFrom disk none) input = some result.audit := by
    cases hfind : gcAudit (recoveredFrom disk none) input with
    | none => exact absurd (beq_iff_eq.mpr hpasses.audit.2.1) (List.find?_eq_none.mp hfind result.audit haudit)
    | some found =>
      have hid : found.deleteId = input.deleteId := by simpa using List.find?_some hfind
      obtain ⟨name, hfile⟩ := Directory.mem_contents.mp (List.mem_of_find?_eq_some hfind)
      obtain ⟨name', hfile'⟩ := Directory.mem_contents.mp haudit
      have hown : name = catalogDeleteAuditFileName found.deleteId := (h.audits _ hfile).2
      have hown' : name' = catalogDeleteAuditFileName result.audit.deleteId := (h.audits _ hfile').2
      have hname : name = name' := by
        rw [hown, hown', hid, hpasses.audit.2.1]
      subst hname
      rw [Directory.content_unique hfile hfile']
  have hlength : (recoveredFrom disk none).records.length ≠ 1 := by
    have hsorted : (recoveredFrom disk none).records.length = disk.revisions.contents.length :=
      List.length_insertionSort _ _
    rw [hsorted]
    exact hpasses.notLast
  constructor
  · unfold gcChange
    rw [hreceipt, Option.bind_eq_bind, Option.bind_some, hrecord, Option.bind_eq_bind, Option.bind_some]
    unfold gcPresentChange
    rw [if_neg hlength, hpasses.computed]
    dsimp only
    rw [hexisting]
    exact if_pos rfl
  · unfold auditsAgain
    dsimp only
    rw [hreceipt]
    dsimp only
    rw [hrecord]
    dsimp only
    rw [hexisting, Option.isNone_some, Bool.and_false, Bool.false_and]

section Run

variable (hdates : DatesRoundTrip R) {steps : List (CatalogStep R)}
  (hgood : Along (storeStep R) (fun disk step => auditsOnce R disk step = true) .empty steps)
include hdates hgood

theorem steps_settled : SettledStore R (storeAfterSteps steps) := by
  refine Along.invariant (P := fun disk : CatalogDisk => SettledStore R disk) ?_ hgood (settled_empty R)
  intro disk step honce h
  obtain ⟨_, -, hmatches⟩ := Matches.step hdates ⟨h, h, SameFiles.refl disk⟩ honce
  exact hmatches.store

/-- In every history in which no deletion audits a revision again, the store recovers from every interruption. -/
theorem catalog_store_recovers : RecoversFrom R steps := by
  have hsettled := steps_settled hdates hgood
  refine ⟨?_, ?_, ?_, ?_, ?_, ?_⟩
  · rintro earlier call writes references now later rfl
    obtain ⟨hearlier, honce, -⟩ := along_append.mp hgood
    have hbefore := steps_settled hdates hearlier
    have hbetween := interrupted_between_step hdates hbefore honce
    exact ⟨hbetween.inhabited hbefore, hbetween.1.rebuildIndex_ok hdates references now⟩
  · rintro earlier later rfl hinhabited
    obtain ⟨hearlier, hlater⟩ := along_append.mp hgood
    have hrun := Along.invariant (P := fun disk : CatalogDisk => SettledStore R disk ∧ disk.revisions.contents ≠ [])
      ?_ hlater ⟨steps_settled hdates hearlier, hinhabited⟩
    · rw [storeAfterSteps, run_append]
      exact hrun.2
    · rintro disk step honce ⟨h, hheld⟩
      obtain ⟨_, -, hmatches⟩ := Matches.step hdates ⟨h, h, SameFiles.refl disk⟩ honce
      refine ⟨hmatches.store, ?_⟩
      cases step with
      | whole call =>
        have hends := perform_ends hdates h call (auditsOnce_call honce (.inl rfl))
        have hrevisions : (storeStep R disk (.whole call)).revisions = _ := hends.1.revisions
        rw [hrevisions]
        exact h.afterChange_inhabited hheld call
      | interrupted call writes references now =>
        have hbetween := interrupted_between_step hdates h honce
        have hrevisions : (storeStep R disk (.interrupted call writes references now)).revisions = _ :=
          (hbetween.1.perform_rebuildIndex hdates references now).1.revisions
        rw [hrevisions]
        exact hbetween.inhabited h hheld
  · exact fun references now => hsettled.openStore_ok hdates references now
  · exact fun hinhabited references now => hsettled.rebuildIndex_ok hdates references now hinhabited
  · obtain ⟨calls, hresolves, hmatches⟩ := Along.exists_resolution (referenceStep R) (Matches R) (CatalogStep.Allowed R)
      (fun step disk reference honce h => Matches.step hdates h honce) hgood
      ⟨settled_empty R, settled_empty R, SameFiles.refl _⟩
    exact ⟨calls, hresolves, hmatches.same, hmatches.index_eq⟩
  · intro input clock receipt record result hpasses haudit
    obtain ⟨hchange, honce⟩ := gcChange_eq_complete hsettled.files hpasses haudit
    have hends := perform_ends hdates hsettled (.gc input clock) fun input' clock' hcall => by
      obtain ⟨rfl, -⟩ := CatalogCall.gc.inj hcall
      exact honce
    have hcall : callChange R (storeAfterSteps steps) (.gc input clock) = some (.complete record) := hchange
    rw [hcall] at hends
    exact hends.1

end Run

/-! ## A history with an interrupted deletion -/

/-- A rendering that is kept where it is read back. -/
def renderChecked (parse : String → Option TimeValue) (render : TimeValue → String) (time : TimeValue) : String :=
  if parse (render time) = some time then render time else ""

/-- The rules of the sample histories, on the dates they render. -/
def roundTripRules : CatalogRules :=
  { sampleCatalogRules with
    toIsoString := renderChecked sampleCatalogRules.parseDate fun time => formatRfc3339UtcMillis time.val.toNat }

theorem renderChecked_round_trip (parse : String → Option TimeValue) (render : TimeValue → String) (time : TimeValue)
    (h : isRfc3339Text (renderChecked parse render time) = true) :
    parse (renderChecked parse render time) = some time := by
  unfold renderChecked at h ⊢
  by_cases hparse : parse (render time) = some time
  · rw [if_pos hparse]
    exact hparse
  · rw [if_neg hparse] at h
    have hempty : isRfc3339Text "" = false := by decide
    rw [hempty] at h
    cases h

theorem roundTripRules_dates : DatesRoundTrip roundTripRules := by
  have hparse : roundTripRules.parseDate = sampleCatalogRules.parseDate := by
    simp only [roundTripRules]
  have hrender : roundTripRules.toIsoString = renderChecked sampleCatalogRules.parseDate
      fun time => formatRfc3339UtcMillis time.val.toNat := by
    simp only [roundTripRules]
  unfold DatesRoundTrip
  rw [hparse, hrender]
  exact renderChecked_round_trip sampleCatalogRules.parseDate _

def roundTripNow : ClockText roundTripRules := ⟨"2026-01-01T00:00:00Z", by decide +kernel⟩

def roundTripClock : CatalogClock roundTripRules := ⟨roundTripNow, roundTripNow, roundTripNow⟩

def gcUnder (deleteId : String) : WasmCatalogGcInput :=
  { sampleGc sampleReleaseId "2027-01-01T00:00:00Z" with deleteId }

/-- The first revision is released and superseded; its deletion stops after the audit. -/
def interruptedGcSteps : List (CatalogStep roundTripRules) :=
  [.whole (.bootstrap (samplePayload 1 true) roundTripClock),
    .whole (.release (sampleRelease sampleReleaseId "2026-01-01T00:00:00Z") roundTripClock),
    .whole (.append (samplePin 1 true) (samplePayload 2 true) noReferences roundTripClock),
    .interrupted (.gc (gcUnder "00000000-0000-7000-8000-000000000002") roundTripClock) 1 noReferences roundTripNow]

/-- The deletion is requested again, under its own delete id or under another one. -/
def gcAgainSteps (deleteId : String) : List (CatalogStep roundTripRules) :=
  interruptedGcSteps ++ [.whole (.gc (gcUnder deleteId) roundTripClock)]

/-- Requested again under another delete id, the deletion leaves files that the repair refuses. -/
theorem catalog_store_not_recovers : DatesRoundTrip roundTripRules ∧
    ¬ RecoversFrom roundTripRules (gcAgainSteps "00000000-0000-7000-8000-000000000006") := by
  refine ⟨roundTripRules_dates, fun h => ?_⟩
  have hinhabited : (storeAfterSteps (gcAgainSteps "00000000-0000-7000-8000-000000000006")).revisions.contents ≠ [] := by
    decide +kernel
  obtain ⟨index, hindex⟩ := h.rebuilds hinhabited noReferences roundTripNow
  have hrefused : (rebuildIndex roundTripRules noReferences roundTripNow
      (storeAfterSteps (gcAgainSteps "00000000-0000-7000-8000-000000000006"))).result.isOk = false := by
    decide +kernel
  rw [hindex] at hrefused
  cases hrefused

theorem catalog_store_recovers_interrupted_gc :
    (storeAfterSteps (gcAgainSteps "00000000-0000-7000-8000-000000000002")).revisions.contents.map
        (fun record => record.revision) = [2] ∧
      RecoversFrom roundTripRules (gcAgainSteps "00000000-0000-7000-8000-000000000002") :=
  ⟨by decide +kernel, catalog_store_recovers roundTripRules_dates (by decide +kernel)⟩

end Iweb
