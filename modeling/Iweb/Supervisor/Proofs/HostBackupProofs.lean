import Iweb.Foundations.CrashRefinement
import Iweb.Supervisor.HostBackup
import Iweb.Supervisor.Vectors
import Mathlib.Data.List.Nodup

/-!
# A retained backup is whole

The descriptor is written last, so the first capture leaves a whole set or none. A later one replaces the members of
the set before it replaces the descriptor: what is proved of every run needs a condition on those that do not finish.
-/

namespace Iweb.HostBackup

open Contract Json CrashRefinement

/-! ## Descriptors -/

theorem checkedIf_of_nil {α : Type} {ok : Bool} {value : α} {code path message : String}
    (h : (checkedIf ok value code path message).2 = []) : (checkedIf ok value code path message).1 = some value := by
  cases ok with
  | true => rfl
  | false => cases h

theorem requireU53_ofNat {value : Nat} {field path : String} (h : (requireU53 (.ofNat value) field path).2 = []) :
    (requireU53 (.ofNat value) field path).1 = some value := checkedIf_of_nil h

theorem requireMode_ofNat {value : Nat} {path : String} (h : (requireMode (.ofNat value) path).2 = []) :
    (requireMode (.ofNat value) path).1 = some value := checkedIf_of_nil h

theorem requireText_string {ok : String → Bool} {text code path message : String}
    (h : (requireText ok (.string text) code path message).2 = []) :
    (requireText ok (.string text) code path message).1 = some text := checkedIf_of_nil h

theorem ofString?_asStr (kind : WasmBackupFileKindV2) : WasmBackupFileKindV2.ofString? kind.asStr = some kind := by
  cases kind <;> rfl

/-- An entry without issues is read back. -/
theorem validateFileEntry_toJson (entry : WasmBackupFileEntryV2) (path : String) (before : List ValidationIssue)
    (h : before ++ (validateFileEntry entry.toJson path before).2 = []) :
    validateFileEntry entry.toJson path before = (some entry, []) := by
  have hissues := (List.append_eq_nil_iff.mp h).2
  refine Prod.ext ?_ hissues
  unfold validateFileEntry WasmBackupFileEntryV2.toJson at h ⊢
  dsimp only at h ⊢
  rw [if_neg (not_not.mpr h)]
  simp only [List.append_eq_nil_iff] at h
  obtain ⟨-, ⟨⟨⟨⟨-, -⟩, hbyteLen⟩, hsha256⟩, hmode⟩, -⟩ := h
  have hkind : (Json.string entry.kind.asStr).asStr.bind WasmBackupFileKindV2.ofString? = some entry.kind :=
    ofString?_asStr entry.kind
  change (do
    let kind ← (Json.string entry.kind.asStr).asStr.bind WasmBackupFileKindV2.ofString?
    let byteLen ← (requireU53 (.ofNat entry.byteLen) "byteLen" path).1
    let sha256 ← (requireText isSha256Hex (.string entry.sha256) _ _ _).1
    let mode ← (requireMode (.ofNat entry.mode) path).1
    let symlink ← (requireSymlink (.bool entry.symlink) path).1
    return (⟨kind, byteLen, sha256, mode, symlink⟩ : WasmBackupFileEntryV2)) = _
  rw [hkind, requireU53_ofNat hbyteLen, requireText_string hsha256, requireMode_ofNat hmode]
  rfl

/-- The issues of some entries are there at the end. -/
theorem issues_of_validateFileEntries (inputs : List Json) (index : Nat) (entries : List WasmBackupFileEntryV2)
    (issues : List ValidationIssue) (h : (validateFileEntries inputs index entries issues).2 = []) : issues = [] := by
  induction inputs generalizing index entries issues with
  | nil => exact h
  | cons input rest ih =>
    unfold validateFileEntries at h
    dsimp only at h
    split at h
    · exact (List.append_eq_nil_iff.mp (ih _ _ _ h)).1
    · exact (List.append_eq_nil_iff.mp (List.append_eq_nil_iff.mp (ih _ _ _ h)).1).1

theorem validateFileEntries_toJson (files : List WasmBackupFileEntryV2) (index : Nat)
    (entries : List WasmBackupFileEntryV2) (issues : List ValidationIssue)
    (h : (validateFileEntries (files.map WasmBackupFileEntryV2.toJson) index entries issues).2 = []) :
    (validateFileEntries (files.map WasmBackupFileEntryV2.toJson) index entries issues).1 = entries ++ files := by
  induction files generalizing index entries issues with
  | nil => exact (List.append_nil entries).symm
  | cons entry files ih =>
    rw [List.map_cons] at h ⊢
    unfold validateFileEntries at h ⊢
    dsimp only at h ⊢
    have hnone : issues ++ (validateFileEntry entry.toJson ("/files/" ++ toString index) issues).2 = [] := by
      split at h
      · next heq =>
        rw [heq]
        exact issues_of_validateFileEntries _ _ _ _ h
      · next heq =>
        rw [heq]
        exact (List.append_eq_nil_iff.mp (issues_of_validateFileEntries _ _ _ _ h)).1
    rw [validateFileEntry_toJson entry _ _ hnone] at h ⊢
    dsimp only at h ⊢
    rw [ih _ _ _ h, List.append_assoc]
    rfl

theorem checkDescriptorHead_members {descriptor : WasmBackupSetDescriptorV2}
    (h : (checkDescriptorHead descriptor.members).2 = []) :
    (checkDescriptorHead descriptor.members).1 = some (descriptor.applicationId, descriptor.hostServicePolicyDigest,
      descriptor.ledgerRevision, descriptor.usageRevision) ∧ descriptor.schemaVersion = 2 ∧
        descriptor.quiesced = true := by
  unfold checkDescriptorHead at h ⊢
  simp only [List.append_eq_nil_iff, issueUnless_eq_nil, beq_iff_eq] at h
  obtain ⟨⟨⟨⟨⟨⟨-, hschema⟩, happlication⟩, hpolicy⟩, hledger⟩, husage⟩, hquiesced⟩ := h
  refine ⟨?_, ?_, Option.some.inj hquiesced⟩
  · change (do
      return (← (requireText isOpaqueId (.string descriptor.applicationId) _ _ _).1,
        ← (requireText isSha256Hex (.string descriptor.hostServicePolicyDigest) _ _ _).1,
        ← (requireU53 (.ofNat descriptor.ledgerRevision) _ _).1,
        ← (requireU53 (.ofNat descriptor.usageRevision) _ _).1)) = _
    rw [requireText_string happlication, requireText_string hpolicy, requireU53_ofNat hledger,
      requireU53_ofNat husage]
    rfl
  · have hfield : field descriptor.members "schemaVersion" = .integer descriptor.schemaVersion := rfl
    rw [hfield] at hschema
    unfold Json.asU64 at hschema
    dsimp only at hschema
    split at hschema
    · exact Option.some.inj hschema
    · cases hschema

/-- What an accepted descriptor has. -/
theorem validated_of_ok {input : Json} {descriptor : WasmBackupSetDescriptorV2}
    (h : validateWasmBackupSetDescriptorV2 input = .ok descriptor) :
    ∃ members files, input = .object members ∧ field members "files" = .array files ∧
      (checkDescriptorFiles files (checkDescriptorHead members).2).2 = [] ∧
      (checkDescriptorFiles files (checkDescriptorHead members).2).1 = descriptor.files ∧
      (checkDescriptorHead members).1 = some (descriptor.applicationId, descriptor.hostServicePolicyDigest,
        descriptor.ledgerRevision, descriptor.usageRevision) ∧ descriptor.schemaVersion = 2 ∧
      descriptor.quiesced = true := by
  unfold validateWasmBackupSetDescriptorV2 at h
  split at h
  · next members =>
    dsimp only at h
    split at h
    · next files hfiles =>
      split at h
      · next hissues hhead =>
        cases h
        exact ⟨members, files, rfl, hfiles, hissues, rfl, hhead, rfl, rfl⟩
      · cases h
    · cases h
  · cases h

/-- A descriptor that is accepted is read back. -/
theorem validateWasmBackupSetDescriptorV2_toJson {descriptor result : WasmBackupSetDescriptorV2}
    (h : validateWasmBackupSetDescriptorV2 descriptor.toJson = .ok result) : result = descriptor := by
  obtain ⟨members, files, hinput, hfiles, hissues, hread, hhead, hschema, hquiesced⟩ := validated_of_ok h
  injection hinput with hmembers
  subst hmembers
  have hfiles : files = descriptor.files.map WasmBackupFileEntryV2.toJson := by
    injection hfiles with hfiles
    exact hfiles.symm
  subst hfiles
  unfold checkDescriptorFiles at hissues hread
  dsimp only at hissues hread
  have hentries := (List.append_eq_nil_iff.mp (List.append_eq_nil_iff.mp hissues).1).1
  rw [validateFileEntries_toJson _ _ _ _ hentries, List.nil_append] at hread
  have hnone := issues_of_validateFileEntries _ _ _ _ hentries
  obtain ⟨hhead', hschema', hquiesced'⟩ := checkDescriptorHead_members hnone
  rw [hhead] at hhead'
  cases descriptor
  cases result
  cases hhead'
  cases hread
  dsimp only at hschema hschema' hquiesced hquiesced'
  rw [hschema, hschema', hquiesced, hquiesced']

/-- An accepted descriptor has an entry of every kind. -/
theorem exists_entry {input : Json} {descriptor : WasmBackupSetDescriptorV2}
    (h : validateWasmBackupSetDescriptorV2 input = .ok descriptor) (kind : WasmBackupFileKindV2) :
    ∃ entry ∈ descriptor.files, entry.kind = kind := by
  obtain ⟨members, files, -, -, hissues, hread, -⟩ := validated_of_ok h
  unfold checkDescriptorFiles at hissues hread
  dsimp only at hissues hread
  have hkinds := List.flatMap_eq_nil_iff.mp (List.append_eq_nil_iff.mp hissues).2 kind (by cases kind <;> decide)
  rw [issueUnless_eq_nil, List.contains_iff_mem, hread] at hkinds
  exact List.mem_map.mp hkinds

theorem validateWasmHostSetV2_eq_ok {input : Json} {applicationId policyDigest : String}
    {descriptor : WasmBackupSetDescriptorV2}
    (h : validateWasmHostSetV2 input applicationId policyDigest = .ok descriptor) :
    validateWasmBackupSetDescriptorV2 input = .ok descriptor := by
  unfold validateWasmHostSetV2 at h
  obtain ⟨validated, hvalidated, h⟩ := bind_eq_ok.mp h
  unfold validateDescriptorAgainstIdentity at h
  obtain ⟨-, rfl⟩ := acceptUnless_eq_ok.mp h
  exact hvalidated

variable {sha256Hex : List UInt8 → String}

/-! ## A capture -/

/-- A file that is captured is described by its entry. -/
theorem captureMember_eq_ok {kind : WasmBackupFileKindV2} {source : BackupSource} {member : BackupMember}
    (h : captureMember sha256Hex kind source = .ok member) :
    member.entry.kind = kind ∧ member.entry.byteLen = member.bytes.length ∧
      member.entry.sha256 = sha256Hex member.bytes := by
  unfold captureMember at h
  dsimp only at h
  cases hstat : source.stat with
  | none =>
    rw [hstat] at h
    cases h
  | some stat =>
    obtain ⟨mode, symlink, byteLen⟩ := stat
    rw [hstat] at h
    dsimp only at h
    split at h
    · cases h
    split at h
    · cases h
    cases hbytes : source.bytes with
    | none =>
      rw [hbytes] at h
      cases h
    | some bytes =>
      rw [hbytes] at h
      dsimp only at h
      split at h
      · cases h
      split at h
      · cases h
      cases h
      exact ⟨rfl, rfl, rfl⟩

/-- What a capture has before it writes. -/
structure CapturedBy (sha256Hex : List UInt8 → String) (service : WasmHostBackupService) (captured : CapturedSet) :
    Prop where
  kind : ∀ kind, (captured.member kind).entry.kind = kind
  byteLen : ∀ kind, (captured.member kind).entry.byteLen = (captured.member kind).bytes.length
  sha256 : ∀ kind, (captured.member kind).entry.sha256 = sha256Hex (captured.member kind).bytes
  files : captured.descriptor.files = wasmBackupFileKindsV2.map fun kind => (captured.member kind).entry
  valid : validateWasmHostSetV2 captured.descriptor.toJson service.applicationId service.hostServicePolicyDigest =
    .ok captured.descriptor

variable {service : WasmHostBackupService}

theorem captureMembers_eq_ok {source : WasmBackupFileKindV2 → BackupSource}
    {member : WasmBackupFileKindV2 → BackupMember}
    (h : service.captureMembers sha256Hex source = .ok member) (kind : WasmBackupFileKindV2) :
    captureMember sha256Hex kind (source kind) = .ok (member kind) := by
  unfold WasmHostBackupService.captureMembers at h
  split at h
  · cases h
  obtain ⟨kv, hkv, h⟩ := bind_eq_ok.mp h
  obtain ⟨sql, hsql, h⟩ := bind_eq_ok.mp h
  obtain ⟨quota, hquota, h⟩ := bind_eq_ok.mp h
  cases h
  cases kind
  · exact hkv
  · exact hsql
  · exact hquota

theorem describe_eq_ok {ledgerRevision usageRevision : Nat} {member : WasmBackupFileKindV2 → BackupMember}
    {descriptor : WasmBackupSetDescriptorV2}
    (h : service.describe ledgerRevision usageRevision member = .ok descriptor) :
    descriptor.files = wasmBackupFileKindsV2.map (fun kind => (member kind).entry) ∧
      validateWasmHostSetV2 descriptor.toJson service.applicationId service.hostServicePolicyDigest =
        .ok descriptor := by
  unfold WasmHostBackupService.describe at h
  dsimp only at h
  split at h
  · cases h
  · next verified hverified =>
    cases h
    have hsame := validateWasmBackupSetDescriptorV2_toJson (validateWasmHostSetV2_eq_ok hverified)
    rw [hsame] at hverified ⊢
    exact ⟨rfl, hverified⟩

theorem capturedBy_of_prepare {input : CaptureInput} {drained : ExecutionRpcServiceResult}
    {source : WasmBackupFileKindV2 → BackupSource} {captured : CapturedSet}
    (h : service.prepare sha256Hex input drained source = .ok captured) : CapturedBy sha256Hex service captured := by
  unfold WasmHostBackupService.prepare at h
  obtain ⟨⟨state, usageRevision⟩, -, h⟩ := bind_eq_ok.mp h
  obtain ⟨drainedCommandId, -, h⟩ := bind_eq_ok.mp h
  obtain ⟨member, hmember, h⟩ := bind_eq_ok.mp h
  obtain ⟨descriptor, hdescriptor, h⟩ := bind_eq_ok.mp h
  cases h
  have hread := fun kind => captureMember_eq_ok (captureMembers_eq_ok hmember kind)
  exact ⟨fun kind => (hread kind).1, fun kind => (hread kind).2.1, fun kind => (hread kind).2.2,
    (describe_eq_ok hdescriptor).1, (describe_eq_ok hdescriptor).2⟩

/-! ## What lands -/

/-- The members of a capture that landed before it stopped. -/
theorem land_captureWrites (disk : BackupDisk) (directory : String) (captured : CapturedSet)
    (landing : BackupLanding) :
    (disk.land (WasmHostBackupService.captureWrites directory captured) landing).1.descriptor =
        (if (landing.among 5).1 < 5 then disk.descriptor else some captured.descriptor) ∧
    ∀ kind, (disk.land (WasmHostBackupService.captureWrites directory captured) landing).1.files directory kind =
      if kind ∈ wasmBackupFileKindsV2.take ((landing.among 5).1 - 1) then some (captured.member kind).bytes
      else disk.files directory kind := by
  have hle : (landing.among 5).1 ≤ 5 := by
    unfold BackupLanding.among
    cases landing with
    | complete => exact Nat.le_refl 5
    | failed landed =>
      dsimp only
      split
      · omega
      · exact Nat.le_refl 5
    | crashed landed => exact Nat.min_le_right _ _
  unfold BackupDisk.land
  have hlength : (WasmHostBackupService.captureWrites directory captured).length = 5 := rfl
  rw [hlength]
  generalize (landing.among 5).1 = count at hle ⊢
  have hcases : count = 0 ∨ count = 1 ∨ count = 2 ∨ count = 3 ∨ count = 4 ∨ count = 5 := by omega
  rcases hcases with rfl | rfl | rfl | rfl | rfl | rfl <;>
    refine ⟨rfl, fun kind => ?_⟩ <;> cases kind <;>
      simp [WasmHostBackupService.captureWrites, wasmBackupFileKindsV2, BackupDisk.apply]

theorem among_done {landing : BackupLanding} {count : Nat} (h : (landing.among count).2 = .done) :
    (landing.among count).1 = count := by
  unfold BackupLanding.among at h ⊢
  cases landing with
  | complete => rfl
  | failed landed =>
    dsimp only at h ⊢
    by_cases hlt : landed < count
    · rw [if_pos hlt] at h
      cases h
    · rw [if_neg hlt]
  | crashed landed => cases h

/-- Members that are written under a root are there, and nothing else changes. -/
theorem files_foldl_members (target : String) (retained : WasmBackupFileKindV2 → Option (List UInt8))
    (restores : List (WasmBackupFileKindV2 × List UInt8)) (disk : BackupDisk)
    (h : ∀ restored ∈ restores, retained restored.1 = some restored.2) :
    ((restores.map fun restored => BackupWrite.member target restored.1 restored.2).foldl BackupDisk.apply
        disk).descriptor = disk.descriptor ∧
    ∀ root kind, ((restores.map fun restored => BackupWrite.member target restored.1 restored.2).foldl
        BackupDisk.apply disk).files root kind =
      if root = target ∧ kind ∈ restores.map Prod.fst then retained kind else disk.files root kind := by
  induction restores generalizing disk with
  | nil => exact ⟨rfl, fun root kind => (if_neg fun hboth => nomatch hboth.2).symm⟩
  | cons first restores ih =>
    obtain ⟨hdescriptor, hfiles⟩ := ih (disk.apply (.member target first.1 first.2))
      fun restored hmem => h restored (List.mem_cons_of_mem _ hmem)
    refine ⟨hdescriptor, fun root kind => ?_⟩
    rw [List.map_cons, List.foldl_cons, hfiles, List.map_cons]
    by_cases hlater : root = target ∧ kind ∈ restores.map Prod.fst
    · rw [if_pos hlater, if_pos ⟨hlater.1, List.mem_cons_of_mem _ hlater.2⟩]
    rw [if_neg hlater]
    unfold BackupDisk.apply
    dsimp only
    by_cases hfirst : root = target ∧ kind = first.1
    · rw [if_pos hfirst, if_pos ⟨hfirst.1, hfirst.2 ▸ List.mem_cons_self ..⟩, hfirst.2]
      exact (h first (List.mem_cons_self ..)).symm
    · rw [if_neg hfirst, if_neg]
      rintro ⟨hroot, hmem⟩
      rcases List.mem_cons.mp hmem with hkind | hkind
      · exact hfirst ⟨hroot, hkind⟩
      · exact hlater ⟨hroot, hkind⟩

/-- What a restore lands, when it writes what is retained. -/
theorem land_restores (disk : BackupDisk) (target : String) (retained : WasmBackupFileKindV2 → Option (List UInt8))
    (restores : List (WasmBackupFileKindV2 × List UInt8)) (landing : BackupLanding)
    (h : ∀ restored ∈ restores, retained restored.1 = some restored.2) :
    (disk.land (.ensureDirectory :: restores.map fun restored => .member target restored.1 restored.2)
        landing).1.descriptor = disk.descriptor ∧
    ∀ root kind, (disk.land (.ensureDirectory :: restores.map fun restored => .member target restored.1 restored.2)
        landing).1.files root kind =
      if root = target ∧ kind ∈ (restores.take ((landing.among (restores.length + 1)).1 - 1)).map Prod.fst then
        retained kind
      else disk.files root kind := by
  unfold BackupDisk.land
  dsimp only
  rw [List.length_cons, List.length_map]
  cases (landing.among (restores.length + 1)).1 with
  | zero =>
    refine ⟨rfl, fun root kind => ?_⟩
    exact (if_neg fun hboth => by simpa using hboth.2).symm
  | succ landed =>
    rw [List.take_succ_cons, List.foldl_cons, ← List.map_take, Nat.add_sub_cancel]
    exact files_foldl_members target retained (restores.take landed) disk
      fun restored hmem => h restored (List.mem_of_mem_take hmem)

/-! ## A restore -/

variable {disk : BackupDisk} {directory : String}

theorem retainedMember_eq_ok {entry : WasmBackupFileEntryV2} {restored : WasmBackupFileKindV2 × List UInt8} :
    WasmHostBackupService.retainedMember sha256Hex disk directory entry = .ok restored ↔
      restored.1 = entry.kind ∧ disk.files directory entry.kind = some restored.2 ∧
        restored.2.length = entry.byteLen ∧ sha256Hex restored.2 = entry.sha256 := by
  unfold WasmHostBackupService.retainedMember
  cases hfile : disk.files directory entry.kind with
  | none => exact ⟨fun h => (nomatch h), fun h => (nomatch h.2.1)⟩
  | some bytes =>
    dsimp only
    by_cases hdiffers : bytes.length ≠ entry.byteLen ∨ sha256Hex bytes ≠ entry.sha256
    · rw [if_pos hdiffers]
      refine ⟨fun h => (nomatch h), fun h => ?_⟩
      obtain ⟨-, hbytes, hlength, hsha256⟩ := h
      cases hbytes
      exact absurd hdiffers (not_or.mpr ⟨not_not.mpr hlength, not_not.mpr hsha256⟩)
    · rw [if_neg hdiffers]
      rw [not_or, not_not, not_not] at hdiffers
      constructor
      · intro h
        cases h
        exact ⟨rfl, rfl, hdiffers⟩
      · intro h
        obtain ⟨hkind, hbytes, -⟩ := h
        cases hbytes
        exact congrArg Except.ok (Prod.ext hkind.symm rfl)

/-- The members of a restore are those that its entries describe. -/
theorem mapM_retainedMember_eq_ok {files : List WasmBackupFileEntryV2}
    {restores : List (WasmBackupFileKindV2 × List UInt8)}
    (h : files.mapM (WasmHostBackupService.retainedMember sha256Hex disk directory) = .ok restores) :
    (∀ restored ∈ restores, disk.files directory restored.1 = some restored.2) ∧
      ∀ entry ∈ files, ∃ restored ∈ restores, restored.1 = entry.kind ∧ sha256Hex restored.2 = entry.sha256 := by
  induction files generalizing restores with
  | nil =>
    cases h
    exact ⟨fun _ hmem => (nomatch hmem), fun _ hmem => (nomatch hmem)⟩
  | cons entry files ih =>
    rw [List.mapM_cons] at h
    obtain ⟨first, hfirst, h⟩ := bind_eq_ok.mp h
    obtain ⟨rest, hrest, h⟩ := bind_eq_ok.mp h
    cases h
    obtain ⟨hkind, hbytes, -, hsha256⟩ := retainedMember_eq_ok.mp hfirst
    obtain ⟨hretained, hentries⟩ := ih hrest
    constructor
    · intro restored hmem
      rcases List.mem_cons.mp hmem with rfl | hlater
      · rw [hkind]
        exact hbytes
      · exact hretained restored hlater
    · intro other hmem
      rcases List.mem_cons.mp hmem with rfl | hlater
      · exact ⟨first, List.mem_cons_self .., hkind, hsha256⟩
      · obtain ⟨restored, hrestored, hsame⟩ := hentries other hlater
        exact ⟨restored, List.mem_cons_of_mem _ hrestored, hsame⟩

theorem exists_mapM_retainedMember {files : List WasmBackupFileEntryV2}
    (h : ∀ entry ∈ files, ∃ bytes, disk.files directory entry.kind = some bytes ∧ bytes.length = entry.byteLen ∧
      sha256Hex bytes = entry.sha256) :
    ∃ restores, files.mapM (WasmHostBackupService.retainedMember sha256Hex disk directory) = .ok restores := by
  induction files with
  | nil => exact ⟨[], rfl⟩
  | cons entry files ih =>
    obtain ⟨bytes, hbytes⟩ := h entry (List.mem_cons_self ..)
    obtain ⟨rest, hrest⟩ := ih fun other hmem => h other (List.mem_cons_of_mem _ hmem)
    have hfirst : WasmHostBackupService.retainedMember sha256Hex disk directory entry = .ok (entry.kind, bytes) :=
      retainedMember_eq_ok.mpr ⟨rfl, hbytes⟩
    refine ⟨(entry.kind, bytes) :: rest, ?_⟩
    rw [List.mapM_cons, hfirst, hrest]
    rfl

/-- How a restore ends: it writes nothing, or lands what is retained. -/
inductive Restored (sha256Hex : List UInt8 → String) (service : WasmHostBackupService) (disk : BackupDisk)
    (directory : String) (descriptor : Json) (target : Option String) (landing : BackupLanding) :
    BackupDisk × RestoreResult → Prop
  | refused (failure : BackupFailure) :
      Restored sha256Hex service disk directory descriptor target landing (disk, .refused failure)
  | landed {validated : WasmBackupSetDescriptorV2} {root : String}
      {restores : List (WasmBackupFileKindV2 × List UInt8)} {result : RestoreResult}
      (hvalid : validateWasmHostSetV2 descriptor service.applicationId service.hostServicePolicyDigest = .ok validated)
      (hroot : target.or service.dataDirectoryRoot = some root)
      (hrestores : validated.files.mapM (WasmHostBackupService.retainedMember sha256Hex disk directory) =
        .ok restores)
      (hdone : (landing.among (restores.length + 1)).2 = .done →
        result = .ok validated (restores.map fun restored => service.memberHostPath root restored.1))
      (hnot : (landing.among (restores.length + 1)).2 ≠ .done →
        result = .interrupted ∨ ∃ message, result = .refused ⟨wasmHostBackupIoFailed, message⟩) :
      Restored sha256Hex service disk directory descriptor target landing
        ((disk.land (.ensureDirectory :: restores.map fun restored => .member root restored.1 restored.2) landing).1,
          result)

theorem restored (sha256Hex : List UInt8 → String) (disk : BackupDisk)
    (hdirectory : service.backupDirectory = some directory) (descriptor : Json) (target : Option String)
    (landing : BackupLanding) : Restored sha256Hex service disk directory descriptor target landing
      (service.restore sha256Hex disk descriptor target landing) := by
  unfold WasmHostBackupService.restore
  cases hvalid : validateWasmHostSetV2 descriptor service.applicationId service.hostServicePolicyDigest with
  | error issues => exact .refused _
  | ok validated =>
    dsimp only
    rw [hdirectory]
    dsimp only
    cases hroot : target.or service.dataDirectoryRoot with
    | none => exact .refused _
    | some root =>
      dsimp only
      cases hrestores : validated.files.mapM (WasmHostBackupService.retainedMember sha256Hex disk directory) with
      | error failure => exact .refused failure
      | ok restores =>
        dsimp only
        have hending : (disk.land (.ensureDirectory :: restores.map fun restored =>
            .member root restored.1 restored.2) landing).2 = (landing.among (restores.length + 1)).2 := by
          unfold BackupDisk.land
          rw [List.length_cons, List.length_map]
        rw [hending]
        refine .landed hvalid hroot hrestores (fun hdone => ?_) (fun hnot => ?_)
        · rw [hdone]
        · cases hcase : (landing.among (restores.length + 1)).2 with
          | done => exact absurd hcase hnot
          | caught => exact .inr ⟨_, rfl⟩
          | interrupted => exact .inl rfl

/-! ## The invariants of a run -/

namespace BackupSystem

variable {system : BackupSystem}

/-- What holds in every run: what was captured is described by its entries, and what is retained was captured. -/
structure Kept (sha256Hex : List UInt8 → String) (service : WasmHostBackupService) (directory : String)
    (system : BackupSystem) : Prop where
  captured : ∀ captured ∈ system.captured, CapturedBy sha256Hex service captured
  retained : ∀ kind bytes, system.disk.files directory kind = some bytes →
    ∃ captured ∈ system.captured, (captured.member kind).bytes = bytes

/-- A restore changes nothing in the set directory. -/
theorem restore_keeps (sha256Hex : List UInt8 → String)
    (hdirectory : service.backupDirectory = some directory) (disk : BackupDisk) (descriptor : Json)
    (target : Option String) (landing : BackupLanding) :
    (service.restore sha256Hex disk descriptor target landing).1.descriptor = disk.descriptor ∧
      ∀ kind, (service.restore sha256Hex disk descriptor target landing).1.files directory kind =
        disk.files directory kind := by
  have hrestored := restored sha256Hex disk hdirectory descriptor target landing
  generalize service.restore sha256Hex disk descriptor target landing = outcome at hrestored ⊢
  cases hrestored with
  | refused failure => exact ⟨rfl, fun _ => rfl⟩
  | @landed validated root restores result hvalid hroot hrestores hdone hnot =>
    obtain ⟨hdescriptor, hfiles⟩ := land_restores disk root (disk.files directory) restores landing
      (mapM_retainedMember_eq_ok hrestores).1
    refine ⟨hdescriptor, fun kind => ?_⟩
    rw [hfiles]
    split
    · rfl
    · rfl

/-- A capture leaves the disk as it is, or lands some of what it captured. -/
theorem capture_disk (sha256Hex : List UInt8 → String)
    (hdirectory : service.backupDirectory = some directory) (disk : BackupDisk) (input : CaptureInput)
    (drained : ExecutionRpcServiceResult) (source : WasmBackupFileKindV2 → BackupSource) (landing : BackupLanding) :
    ((service.prepare sha256Hex input drained source).toOption = none ∧
      (service.capture sha256Hex disk input drained source landing).1 = disk) ∨
    ∃ captured, service.prepare sha256Hex input drained source = .ok captured ∧
      (service.capture sha256Hex disk input drained source landing).1 =
        (disk.land (WasmHostBackupService.captureWrites directory captured) landing).1 := by
  unfold WasmHostBackupService.capture
  cases hprepare : service.prepare sha256Hex input drained source with
  | error result => exact .inl ⟨rfl, rfl⟩
  | ok captured =>
    rw [hdirectory]
    exact .inr ⟨captured, rfl, rfl⟩

theorem Kept.step (hdirectory : service.backupDirectory = some directory) (call : BackupCall)
    (h : system.Kept sha256Hex service directory) :
    (system.step sha256Hex service call).Kept sha256Hex service directory := by
  cases call with
  | restore descriptor target landing =>
    refine ⟨h.captured, fun kind bytes hbytes => h.retained kind bytes ?_⟩
    rw [← (restore_keeps sha256Hex hdirectory system.disk descriptor target landing).2 kind]
    exact hbytes
  | capture input drained source landing =>
    unfold BackupSystem.step
    dsimp only
    rcases capture_disk sha256Hex hdirectory system.disk input drained source landing with
      ⟨hnone, hdisk⟩ | ⟨captured, hprepare, hdisk⟩
    · rw [hnone, hdisk]
      refine ⟨fun captured hmem => h.captured captured ?_, fun kind bytes hbytes => ?_⟩
      · exact (List.append_nil system.captured) ▸ hmem
      · obtain ⟨captured, hmem, hsame⟩ := h.retained kind bytes hbytes
        exact ⟨captured, List.mem_append_left _ hmem, hsame⟩
    · rw [hprepare, hdisk]
      refine ⟨fun other hmem => ?_, fun kind bytes hbytes => ?_⟩
      · rcases List.mem_append.mp hmem with hold | hnew
        · exact h.captured other hold
        · rw [List.mem_singleton.mp hnew]
          exact capturedBy_of_prepare hprepare
      · dsimp only at hbytes
        rw [(land_captureWrites system.disk directory captured landing).2] at hbytes
        split at hbytes
        · exact ⟨captured, List.mem_append_right _ (List.mem_singleton_self _), Option.some.inj hbytes⟩
        · obtain ⟨other, hmem, hsame⟩ := h.retained kind bytes hbytes
          exact ⟨other, List.mem_append_left _ hmem, hsame⟩

/-- A descriptor in the set directory is one of this service, and lists what is retained. -/
structure Listed (sha256Hex : List UInt8 → String) (service : WasmHostBackupService) (directory : String)
    (system : BackupSystem) (descriptor : WasmBackupSetDescriptorV2) : Prop where
  kinds : descriptor.files.map WasmBackupFileEntryV2.kind = wasmBackupFileKindsV2
  valid : validateWasmHostSetV2 descriptor.toJson service.applicationId service.hostServicePolicyDigest =
    .ok descriptor
  retains : ∀ entry ∈ descriptor.files, system.Retains sha256Hex directory entry

/-- Two entries of a kind are one. -/
theorem entry_eq_of_kind {files : List WasmBackupFileEntryV2}
    (h : files.map WasmBackupFileEntryV2.kind = wasmBackupFileKindsV2) {entry other : WasmBackupFileEntryV2}
    (hentry : entry ∈ files) (hother : other ∈ files) (hkind : entry.kind = other.kind) : entry = other := by
  have hnodup : (files.map WasmBackupFileEntryV2.kind).Nodup := by
    rw [h]
    decide
  exact List.inj_on_of_nodup_map hnodup hentry hother hkind

theorem listed_of_captured {captured : CapturedSet}
    (hcaptured : CapturedBy sha256Hex service captured)
    (hfiles : ∀ kind, system.disk.files directory kind = some (captured.member kind).bytes) :
    Listed sha256Hex service directory system captured.descriptor := by
  refine ⟨?_, hcaptured.valid, fun entry hentry => ?_⟩
  · rw [hcaptured.files, List.map_map]
    refine (List.map_congr_left fun kind _ => ?_).trans (List.map_id _)
    exact hcaptured.kind kind
  · rw [hcaptured.files] at hentry
    obtain ⟨kind, -, rfl⟩ := List.mem_map.mp hentry
    exact ⟨(captured.member kind).bytes, by rw [hcaptured.kind, hfiles], (hcaptured.byteLen kind).symm,
      (hcaptured.sha256 kind).symm⟩

/-- A call that meets the condition keeps the set whole. -/
theorem listed_step (hdirectory : service.backupDirectory = some directory) {call : BackupCall}
    (hkeeps : system.KeepsWhole sha256Hex service call)
    (h : ∀ descriptor, system.disk.descriptor = some descriptor →
      Listed sha256Hex service directory system descriptor) (descriptor : WasmBackupSetDescriptorV2)
    (hdescriptor : (system.step sha256Hex service call).disk.descriptor = some descriptor) :
    Listed sha256Hex service directory (system.step sha256Hex service call) descriptor := by
  cases call with
  | restore input target landing =>
    obtain ⟨hsame, hfiles⟩ := restore_keeps sha256Hex hdirectory system.disk input target landing
    have hlisted := h descriptor (hsame.symm.trans hdescriptor)
    refine ⟨hlisted.kinds, hlisted.valid, fun entry hentry => ?_⟩
    obtain ⟨bytes, hbytes, hdescribed⟩ := hlisted.retains entry hentry
    exact ⟨bytes, (hfiles entry.kind).trans hbytes, hdescribed⟩
  | capture input drained source landing =>
    rcases capture_disk sha256Hex hdirectory system.disk input drained source landing with
      ⟨-, hdisk⟩ | ⟨captured, hprepare, hdisk⟩
    · have hdisk : (system.step sha256Hex service (.capture input drained source landing)).disk = system.disk := hdisk
      have hlisted := h descriptor (by rw [← hdisk]; exact hdescriptor)
      refine ⟨hlisted.kinds, hlisted.valid, fun entry hentry => ?_⟩
      obtain ⟨bytes, hbytes, hdescribed⟩ := hlisted.retains entry hentry
      exact ⟨bytes, by rw [hdisk]; exact hbytes, hdescribed⟩
    · have hdisk : (system.step sha256Hex service (.capture input drained source landing)).disk =
          (system.disk.land (WasmHostBackupService.captureWrites directory captured) landing).1 := hdisk
      have hcaptured := capturedBy_of_prepare hprepare
      obtain ⟨hlanded, hfiles⟩ := land_captureWrites system.disk directory captured landing
      rw [← hdisk] at hlanded hfiles
      rw [hlanded] at hdescriptor
      by_cases hshort : (landing.among 5).1 < 5
      · rw [if_pos hshort] at hdescriptor
        have hlisted := h descriptor hdescriptor
        have hsame := hkeeps captured hprepare descriptor hdescriptor hshort
        refine ⟨hlisted.kinds, hlisted.valid, fun entry hentry => ?_⟩
        by_cases hwritten : entry.kind ∈ wasmBackupFileKindsV2.take ((landing.among 5).1 - 1)
        · have heq := entry_eq_of_kind hlisted.kinds hentry (hsame _ hwritten) (hcaptured.kind _).symm
          refine ⟨(captured.member entry.kind).bytes, by rw [hfiles, if_pos hwritten], ?_, ?_⟩
          · rw [← hcaptured.byteLen, ← heq]
          · rw [← hcaptured.sha256, ← heq]
        · obtain ⟨bytes, hbytes, hdescribed⟩ := hlisted.retains entry hentry
          exact ⟨bytes, by rw [hfiles, if_neg hwritten]; exact hbytes, hdescribed⟩
      · rw [if_neg hshort] at hdescriptor
        cases hdescriptor
        refine listed_of_captured hcaptured fun kind => ?_
        rw [hfiles, if_pos]
        have hall : wasmBackupFileKindsV2.take ((landing.among 5).1 - 1) = wasmBackupFileKindsV2 :=
          List.take_of_length_le (by
            have hlength : wasmBackupFileKindsV2.length = 3 := rfl
            omega)
        rw [hall]
        cases kind <;> decide

/-- A set that is listed restores. -/
theorem Listed.whole (hdirectory : service.backupDirectory = some directory)
    {descriptor : WasmBackupSetDescriptorV2} (h : Listed sha256Hex service directory system descriptor) :
    system.Whole sha256Hex service directory descriptor := by
  refine ⟨h.kinds, h.retains, fun target htarget => ?_⟩
  obtain ⟨root, hroot⟩ := Option.isSome_iff_exists.mp htarget
  obtain ⟨restores, hrestores⟩ := exists_mapM_retainedMember h.retains
  unfold WasmHostBackupService.restore
  rw [h.valid]
  dsimp only
  rw [hdirectory]
  dsimp only
  rw [hroot]
  dsimp only
  rw [hrestores]
  exact ⟨_, _, rfl⟩

theorem kept_initial : initial.Kept sha256Hex service directory :=
  ⟨fun _ hmem => (nomatch hmem), fun _ _ hbytes => (nomatch hbytes)⟩

/-- A restore that is answered with ok has written what is retained of every kind. -/
theorem restored_members (hdirectory : service.backupDirectory = some directory) {disk : BackupDisk} {input : Json}
    {target : Option String} {landing : BackupLanding} {descriptor : WasmBackupSetDescriptorV2} {files : List String}
    (h : (service.restore sha256Hex disk input target landing).2 = .ok descriptor files) :
    (∀ kind, ∃ entry ∈ descriptor.files, entry.kind = kind ∧ ∃ bytes, disk.files directory kind = some bytes ∧
      sha256Hex bytes = entry.sha256) ∧
    ∃ root, target.or service.dataDirectoryRoot = some root ∧
      ∀ kind, (service.restore sha256Hex disk input target landing).1.files root kind = disk.files directory kind := by
  have hrestored := restored sha256Hex disk hdirectory input target landing
  generalize service.restore sha256Hex disk input target landing = outcome at hrestored h ⊢
  cases hrestored with
  | refused failure => cases h
  | @landed validated root restores result hvalid hroot hrestores hdone hnot =>
    dsimp only at h ⊢
    by_cases hending : (landing.among (restores.length + 1)).2 = .done
    · rw [hdone hending] at h
      cases h
      obtain ⟨hretained, hentries⟩ := mapM_retainedMember_eq_ok hrestores
      have hkind : ∀ kind, ∃ entry ∈ descriptor.files, entry.kind = kind ∧
          ∃ restored ∈ restores, restored.1 = kind ∧ sha256Hex restored.2 = entry.sha256 := by
        intro kind
        obtain ⟨entry, hentry, hsame⟩ := exists_entry (validateWasmHostSetV2_eq_ok hvalid) kind
        obtain ⟨restored, hmem, hrestored, hsha256⟩ := hentries entry hentry
        exact ⟨entry, hentry, hsame, restored, hmem, hrestored.trans hsame, hsha256⟩
      refine ⟨fun kind => ?_, root, hroot, fun kind => ?_⟩
      · obtain ⟨entry, hentry, hsame, restored, hmem, hrestored, hsha256⟩ := hkind kind
        exact ⟨entry, hentry, hsame, restored.2, hrestored ▸ hretained restored hmem, hsha256⟩
      · obtain ⟨-, -, -, restored, hmem, hrestored, -⟩ := hkind kind
        rw [(land_restores disk root (disk.files directory) restores landing hretained).2, among_done hending,
          Nat.add_sub_cancel, List.take_length, if_pos ⟨rfl, List.mem_map.mpr ⟨restored, hmem, hrestored⟩⟩]
    · rcases hnot hending with rfl | ⟨message, rfl⟩
      · cases h
      · cases h

/-- A restore refused for another reason than a failing write has written nothing. -/
theorem restore_of_refused (hdirectory : service.backupDirectory = some directory) {disk : BackupDisk} {input : Json}
    {target : Option String} {landing : BackupLanding} {failure : BackupFailure}
    (h : (service.restore sha256Hex disk input target landing).2 = .refused failure)
    (hcode : failure.code ≠ wasmHostBackupIoFailed) :
    (service.restore sha256Hex disk input target landing).1 = disk := by
  have hrestored := restored sha256Hex disk hdirectory input target landing
  generalize service.restore sha256Hex disk input target landing = outcome at hrestored h ⊢
  cases hrestored with
  | refused failure => rfl
  | @landed validated root restores result hvalid hroot hrestores hdone hnot =>
    dsimp only at h
    by_cases hending : (landing.among (restores.length + 1)).2 = .done
    · rw [hdone hending] at h
      cases h
    · rcases hnot hending with rfl | ⟨message, rfl⟩
      · cases h
      · cases h
        exact absurd rfl hcode

end BackupSystem

open BackupSystem

/-- In every run whose captures meet the condition, a descriptor in the set directory lists the members there, and
can be restored. In every run, a restore that is refused before it writes changes nothing, and one that is answered
with ok has written the retained members, which are those captured with its descriptor. -/
theorem retained_backup_whole (sha256Hex : List UInt8 → String) (service : WasmHostBackupService) (directory : String)
    (hdirectory : service.backupDirectory = some directory) (calls : List BackupCall) :
    (Along (BackupSystem.step sha256Hex service) (BackupSystem.KeepsWhole sha256Hex service) .initial calls →
      ∀ descriptor, (run (BackupSystem.step sha256Hex service) .initial calls).disk.descriptor = some descriptor →
        (run (BackupSystem.step sha256Hex service) .initial calls).Whole sha256Hex service directory descriptor) ∧
    ∀ input target landing,
      (∀ failure, (service.restore sha256Hex (run (BackupSystem.step sha256Hex service) .initial calls).disk input
          target landing).2 = .refused failure → failure.code ≠ wasmHostBackupIoFailed →
        (service.restore sha256Hex (run (BackupSystem.step sha256Hex service) .initial calls).disk input target
          landing).1 = (run (BackupSystem.step sha256Hex service) .initial calls).disk) ∧
      ∀ descriptor files, (service.restore sha256Hex
          (run (BackupSystem.step sha256Hex service) .initial calls).disk input target landing).2 =
            .ok descriptor files →
        ∃ root, target.or service.dataDirectoryRoot = some root ∧
          (∀ kind, (service.restore sha256Hex (run (BackupSystem.step sha256Hex service) .initial calls).disk input
              target landing).1.files root kind =
            (run (BackupSystem.step sha256Hex service) .initial calls).disk.files directory kind) ∧
          ((run (BackupSystem.step sha256Hex service) .initial calls).CollisionFree sha256Hex →
            ∀ captured ∈ (run (BackupSystem.step sha256Hex service) .initial calls).captured,
              captured.descriptor = descriptor →
                ∀ kind, (service.restore sha256Hex (run (BackupSystem.step sha256Hex service) .initial calls).disk
                  input target landing).1.files root kind = some (captured.member kind).bytes) := by
  have hkept : (run (BackupSystem.step sha256Hex service) .initial calls).Kept sha256Hex service directory :=
    run_invariant (fun _ call h => h.step hdirectory call) calls kept_initial
  generalize hsystem : run (BackupSystem.step sha256Hex service) .initial calls = system at hkept ⊢
  refine ⟨fun hkeeps descriptor hdescriptor => ?_, fun input target landing => ⟨fun failure hrefused hcode => ?_,
    fun descriptor files hok => ?_⟩⟩
  · have hlisted := hkeeps.invariant (P := fun system : BackupSystem => ∀ descriptor,
        system.disk.descriptor = some descriptor → Listed sha256Hex service directory system descriptor)
      (fun _ _ hcall h => listed_step hdirectory hcall h) (fun _ hnone => nomatch hnone)
    rw [hsystem] at hlisted
    exact (hlisted descriptor hdescriptor).whole hdirectory
  · exact restore_of_refused hdirectory hrefused hcode
  · obtain ⟨hmembers, root, hroot, hwritten⟩ := restored_members hdirectory hok
    refine ⟨root, hroot, hwritten, fun hfree captured hcaptured hsame kind => ?_⟩
    obtain ⟨entry, hentry, hkind, bytes, hbytes, hsha256⟩ := hmembers kind
    have hby := hkept.captured captured hcaptured
    rw [← hsame, hby.files] at hentry
    obtain ⟨kind', -, rfl⟩ := List.mem_map.mp hentry
    rw [hby.kind] at hkind
    subst hkind
    obtain ⟨source, hsource, hretained⟩ := hkept.retained _ _ hbytes
    rw [hwritten, hbytes, ← hretained]
    refine congrArg some (hfree source hsource captured hcaptured _ _ ?_)
    rw [hretained, hsha256, hby.sha256]

/-! ## A second capture -/

/-- The bytes of an ASCII text. -/
def imageBytes (text : String) : List UInt8 := text.toList.map fun c => UInt8.ofNat c.toNat

/-- The digests of the images captured below, by table. -/
def imageDigest (image : List UInt8) : String :=
  if image = imageBytes "image:kv" then "6a58ab4c49dcb563a5b98b7d6265df603ad910ebd04ff50e9ef786764f76cb49"
  else if image = imageBytes "image:sql" then "40c0c7d9a46b20d10863b1e6fb03adc986e080dc73004a428ae33b9df73caa42"
  else if image = imageBytes "image:quota" then "8caafa294e22a17954200c5453d4c8cf4fd539b57e75e8025cc9c7515b56d018"
  else if image = imageBytes "image:kv:later" then "ae863006123ea404e1f97c7b7a6f575d187cd68cf5cec8ba949f6c8fe8e0e965"
  else Vectors.hex 64 '0'

def backupService : WasmHostBackupService := ⟨"notes-app", Vectors.hex 64 'd', some "/data", some "/backups"⟩

/-- A healthy ledger, frozen at its revision. -/
def quietLedger : Json :=
  .object [("outstandingReservedBytes", .ofNat 0), ("recoveryStatus", .string "healthy"), ("ledgerRevision", .ofNat 7),
    ("frozenLedgerRevision", .ofNat 7)]

def drainOrders : ExecutionCommand := Vectors.executionCommand 1 .drain (Vectors.execution 1 1 1)

/-- A drain that was applied. -/
def drainApplied : ExecutionAcknowledgement where
  schemaVersion := 2
  commandId := drainOrders.commandId
  operation := .drain
  identity := drainOrders.identity
  applicationId := drainOrders.applicationId
  packageDigest := drainOrders.packageDigest
  runtimeBinding := drainOrders.runtimeBinding
  matrixRevision := drainOrders.matrixRevision
  hostServicePolicyDigest := drainOrders.hostServicePolicyDigest
  fenceNonce := drainOrders.fenceNonce
  capabilityRecordRevision := drainOrders.capabilityRecordRevision
  capabilityRecordHash := drainOrders.capabilityRecordHash
  secretRevision := drainOrders.secretRevision
  secretSnapshotRef := drainOrders.secretSnapshotRef
  secretValuesDigest := drainOrders.secretValuesDigest
  configRevision := drainOrders.configRevision
  configSnapshotRef := drainOrders.configSnapshotRef
  configValuesDigest := drainOrders.configValuesDigest
  drainReceiptDigest := some (Vectors.hex 64 'e')
  result := .applied
  failureCode := none
  journalRevision := 2

/-- A file with the image of its kind. -/
def imageSource (kv : String) (kind : WasmBackupFileKindV2) : BackupSource :=
  let image := match kind with
    | .kv => imageBytes kv
    | .sql => imageBytes "image:sql"
    | .quota => imageBytes "image:quota"
  ⟨some (wasmBackupFileMode, false, image.length), some image⟩

def captureCall (kv : String) (landing : BackupLanding) : BackupCall :=
  .capture ⟨drainOrders, quietLedger, .ofNat 3⟩ (.acknowledgement drainApplied) (imageSource kv) landing

/-- Two captures that land, and a restore. -/
def wholeRun : List BackupCall :=
  [captureCall "image:kv" .complete, captureCall "image:kv:later" .complete, .restore .null none .complete]

theorem retained_backup_whole_twice :
    (run (BackupSystem.step imageDigest backupService) .initial wholeRun).disk.descriptor.isSome = true ∧
    ∀ descriptor, (run (BackupSystem.step imageDigest backupService) .initial wholeRun).disk.descriptor =
        some descriptor →
      (run (BackupSystem.step imageDigest backupService) .initial wholeRun).Whole imageDigest backupService "/backups"
        descriptor :=
  ⟨by decide +kernel, (retained_backup_whole imageDigest backupService "/backups" rfl wholeRun).1
    ⟨fun _ _ _ hnone => (nomatch hnone), fun _ _ _ _ hshort => absurd hshort (by decide), trivial, trivial⟩⟩

/-- A second capture that fails after its first member. -/
def tornRun : List BackupCall := [captureCall "image:kv" .complete, captureCall "image:kv:later" (.failed 2)]

/-- The descriptor of the first capture stands over a member of the second. -/
theorem retained_backup_torn : ¬ ∀ descriptor,
    (run (BackupSystem.step imageDigest backupService) .initial tornRun).disk.descriptor = some descriptor →
      (run (BackupSystem.step imageDigest backupService) .initial tornRun).Whole imageDigest backupService "/backups"
        descriptor := by
  intro hwhole
  have hdescriptor : ((run (BackupSystem.step imageDigest backupService) .initial tornRun).disk.descriptor.map
      fun descriptor => descriptor.files.map fun entry => (entry.kind, entry.byteLen)) =
        some [(.kv, 8), (.sql, 9), (.quota, 11)] := by decide +kernel
  have hfile : ((run (BackupSystem.step imageDigest backupService) .initial tornRun).disk.files "/backups" .kv).map
      List.length = some 14 := by decide +kernel
  obtain ⟨descriptor, hsome, hentries⟩ := Option.map_eq_some_iff.mp hdescriptor
  obtain ⟨entry, hentry, hkv⟩ := List.mem_map.mp (hentries ▸ List.mem_cons_self ..)
  obtain ⟨bytes, hbytes, hlength, -⟩ := (hwhole descriptor hsome).retains entry hentry
  have hkind : entry.kind = .kv := congrArg Prod.fst hkv
  have hbyteLen : entry.byteLen = 8 := congrArg Prod.snd hkv
  rw [hkind] at hbytes
  rw [hbytes, Option.map_some, hlength, hbyteLen] at hfile
  exact absurd hfile (by decide)

end Iweb.HostBackup
