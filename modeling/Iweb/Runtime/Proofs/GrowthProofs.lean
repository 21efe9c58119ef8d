import Iweb.Foundations.FiniteMap
import Iweb.Runtime.Proofs.ControlMutatorsProofs
import Iweb.Runtime.Writes

/-!
# What the machine of the control state keeps

Every write lets the control state grow and plans every execution at most once; so does every chain of writes.
-/

namespace Iweb

open Relation (ReflTransGen)

variable {σ : Type} {A : AdmissionRules} {V : SupervisorView σ}

/-! ## Rows, records and fences -/

theorem WasmVersionRegistryRow.SameFacts.refl (row : WasmVersionRegistryRow) : row.SameFacts row := rfl

theorem WasmVersionRegistryRow.SameFacts.trans {row row' row'' : WasmVersionRegistryRow} (h : row.SameFacts row')
    (h' : row'.SameFacts row'') : row.SameFacts row'' := by
  unfold WasmVersionRegistryRow.SameFacts at h h' ⊢
  rw [h', h]

theorem WasmApplicationRegistryRecord.Grows.refl (record : WasmApplicationControlRecordV1) : record.Grows record :=
  ⟨Nat.le_refl _, fun row hrow => ⟨row, hrow, .refl row⟩⟩

theorem WasmApplicationRegistryRecord.Grows.trans {record record' record'' : WasmApplicationControlRecordV1}
    (h : record.Grows record') (h' : record'.Grows record'') : record.Grows record'' := by
  refine ⟨Nat.le_trans h.routeGeneration h'.routeGeneration, fun row hrow => ?_⟩
  obtain ⟨row', hrow', hsame⟩ := h.versions row hrow
  obtain ⟨row'', hrow'', hsame'⟩ := h'.versions row' hrow'
  exact ⟨row'', hrow'', hsame.trans hsame'⟩

theorem ApplicationsGrow.refl (applications : WasmApplications) : ApplicationsGrow applications applications :=
  fun _ record hrecord => ⟨record, hrecord, .refl record⟩

theorem ApplicationsGrow.trans {applications applications' applications'' : WasmApplications}
    (h : ApplicationsGrow applications applications') (h' : ApplicationsGrow applications' applications'') :
    ApplicationsGrow applications applications'' := by
  intro applicationId record hrecord
  obtain ⟨record', hrecord', hgrows⟩ := h applicationId record hrecord
  obtain ⟨record'', hrecord'', hgrows'⟩ := h' applicationId record' hrecord'
  exact ⟨record'', hrecord'', hgrows.trans hgrows'⟩

/-- One record is replaced by a larger one. -/
theorem ApplicationsGrow.insert {applications : WasmApplications} {applicationId : String}
    {record : WasmApplicationControlRecordV1}
    (h : ∀ old, applications[applicationId]? = some old → old.Grows record) :
    ApplicationsGrow applications (applications.insert applicationId record) := by
  intro applicationId' old hold
  by_cases hsame : applicationId' = applicationId
  · subst hsame
    exact ⟨record, FiniteMap.getElem?_insert_self .., h old hold⟩
  · exact ⟨old, (FiniteMap.getElem?_insert_of_ne _ _ hsame).trans hold, .refl old⟩

theorem WasmFenceRecordV1.Continues.refl (fence : WasmFenceRecordV1) : fence.Continues fence :=
  ⟨rfl, fun h => ⟨h, rfl⟩⟩

theorem WasmFenceRecordV1.Continues.trans {fence fence' fence'' : WasmFenceRecordV1} (h : fence.Continues fence')
    (h' : fence'.Continues fence'') : fence.Continues fence'' := by
  refine ⟨by rw [h'.pins, h.pins], fun halive => ?_⟩
  obtain ⟨halive', hlifecycle⟩ := h.alive halive
  obtain ⟨halive'', hlifecycle'⟩ := h'.alive halive'
  exact ⟨halive'', hlifecycle'.trans hlifecycle⟩

/-! ## The outbox -/

/-- An update changes the one entry it names. -/
theorem updateEntry_leadsTo {commandId : String} {update : CommandOutboxRecord → CommandOutboxRecord}
    {outbox : List CommandOutboxRecord}
    (h : ∀ entry, outbox.find? (fun entry => entry.commandId == commandId) = some entry → entry.LeadsTo (update entry)) :
    List.Forall₂ CommandOutboxRecord.LeadsTo outbox (updateEntry commandId update outbox) := by
  induction outbox with
  | nil => exact .nil
  | cons entry entries ih =>
    unfold updateEntry
    split
    · rename_i hid
      refine .cons (h entry (List.find?_cons_of_pos (by simpa using hid))) ?_
      exact List.forall₂_same.mpr fun entry _ => .refl entry
    · rename_i hid
      refine .cons (.refl entry) (ih fun found hfound => h found ?_)
      rw [List.find?_cons_of_neg (by simpa using hid)]
      exact hfound

theorem leadsTo_getElem? {outbox outbox' : List CommandOutboxRecord}
    (h : List.Forall₂ CommandOutboxRecord.LeadsTo outbox outbox') (i : Nat) (entry : CommandOutboxRecord)
    (hentry : outbox[i]? = some entry) : ∃ entry', outbox'[i]? = some entry' ∧ entry.LeadsTo entry' := by
  induction h generalizing i with
  | nil => cases hentry
  | cons hleads _ ih =>
    cases i with
    | zero =>
      obtain rfl := Option.some.inj hentry
      exact ⟨_, rfl, hleads⟩
    | succ i => exact ih i hentry

theorem leadsTo_commands {outbox outbox' : List CommandOutboxRecord}
    (h : List.Forall₂ CommandOutboxRecord.LeadsTo outbox outbox') :
    outbox'.map CommandOutboxRecord.command = outbox.map CommandOutboxRecord.command := by
  induction h with
  | nil => rfl
  | cons hleads _ ih => rw [List.map_cons, List.map_cons, ih, hleads.command]

variable {visible : List AdmissionProofV1} {done : Completions} {outbox outbox' : List CommandOutboxRecord}

/-- A step keeps the entries at their places. -/
theorem OutboxStep.entries (h : OutboxStep visible done outbox outbox') (i : Nat) (entry : CommandOutboxRecord)
    (hentry : outbox[i]? = some entry) : ∃ entry', outbox'[i]? = some entry' ∧ entry.LeadsTo entry' := by
  have hlength : i < outbox.length := (List.getElem?_eq_some_iff.mp hentry).1
  cases h with
  | same => exact ⟨entry, hentry, .refl entry⟩
  | noted hnoted => exact leadsTo_getElem? (updateEntry_leadsTo fun _ hfound => (hnoted _ hfound).1) i entry hentry
  | planned _ => exact ⟨entry, (List.getElem?_append_left hlength).trans hentry, .refl entry⟩
  | drained _ => exact ⟨entry, (List.getElem?_append_left hlength).trans hentry, .refl entry⟩

/-- A step adds at most one command, a planned one or a Drain. -/
theorem OutboxStep.commands (h : OutboxStep visible done outbox outbox') :
    outbox'.map CommandOutboxRecord.command = outbox.map CommandOutboxRecord.command ∨
      ∃ command, outbox'.map CommandOutboxRecord.command = outbox.map CommandOutboxRecord.command ++ [command] ∧
        (Plans visible (outbox.map CommandOutboxRecord.command) command ∨ command.operation = .drain) := by
  cases h with
  | same => exact .inl rfl
  | noted hnoted => exact .inl (leadsTo_commands (updateEntry_leadsTo fun _ hfound => (hnoted _ hfound).1))
  | planned hplans => exact .inr ⟨_, List.map_append, .inl hplans⟩
  | drained hdrain => exact .inr ⟨_, List.map_append, .inr hdrain⟩

/-! ## The fences -/

variable {commands : List ExecutionCommand} {fences fences' : WasmFences}

theorem fenceOf_withCurrentFence (fences : WasmFences) (proof : AdmissionProofV1) (fence : WasmFenceRecordV1)
    (applicationId versionId : String) : fenceOf (withCurrentFence fences proof fence) applicationId versionId =
      if applicationId = proof.applicationId ∧ versionId = proof.versionId then some fence
      else fenceOf fences applicationId versionId := by
  unfold fenceOf withCurrentFence
  by_cases happlication : applicationId = proof.applicationId
  · subst happlication
    rw [FiniteMap.getElem?_insert_self, Option.bind_eq_bind, Option.bind_some, FiniteMap.getElem?_insert]
    by_cases hversion : versionId = proof.versionId
    · rw [if_pos hversion, if_pos ⟨rfl, hversion⟩]
    · rw [if_neg hversion, if_neg (fun h => hversion h.2)]
      cases fences[proof.applicationId]? with
      | none => exact FiniteMap.getElem?_empty versionId
      | some application => rfl
  · rw [FiniteMap.getElem?_insert_of_ne _ _ happlication, if_neg (fun h => happlication h.1)]

/-- A fence that is there goes on. -/
theorem FenceStep.continues (h : FenceStep visible done commands fences fences') {applicationId versionId : String}
    {fence : WasmFenceRecordV1} (hfence : fenceOf fences applicationId versionId = some fence) :
    ∃ fence', fenceOf fences' applicationId versionId = some fence' ∧ fence.Continues fence' := by
  cases h with
  | entered _ _ _ _ hnone =>
    rw [fenceOf_withCurrentFence]
    split
    · rename_i hsame
      rw [hsame.1, hsame.2, hnone] at hfence
      cases hfence
    · exact ⟨fence, hfence, .refl fence⟩
  | continued hall =>
    rcases hall applicationId versionId with ⟨hnone, _⟩ | ⟨old, new, hold, hnew, hcontinues, _⟩
    · rw [hnone] at hfence
      cases hfence
    · rw [hold] at hfence
      cases hfence
      exact ⟨new, hnew, hcontinues⟩

theorem FenceStep.continues_chain (h : ReflTransGen (FenceStep visible done commands) fences fences')
    {applicationId versionId : String} {fence : WasmFenceRecordV1}
    (hfence : fenceOf fences applicationId versionId = some fence) :
    ∃ fence', fenceOf fences' applicationId versionId = some fence' ∧ fence.Continues fence' := by
  induction h with
  | refl => exact ⟨fence, hfence, .refl fence⟩
  | tail _ hstep ih =>
    obtain ⟨fence', hfence', hcontinues⟩ := ih
    obtain ⟨fence'', hfence'', hcontinues'⟩ := hstep.continues hfence'
    exact ⟨fence'', hfence'', hcontinues.trans hcontinues'⟩

theorem StartApplied.mono {done' : Completions} {commands' : List ExecutionCommand} {applicationId versionId : String}
    (hdone : ∀ command ack, done command ack → done' command ack) (hcommands : commands ⊆ commands')
    (h : StartApplied done commands applicationId versionId) : StartApplied done' commands' applicationId versionId := by
  obtain ⟨planned, hplanned, hoperation, happlication, hversion, ack, hsettled, happlied⟩ := h
  exact ⟨planned, hcommands hplanned, hoperation, happlication, hversion, ack, hdone planned ack hsettled, happlied⟩

/-- With more commands the same steps are there. -/
theorem FenceStep.mono {commands' : List ExecutionCommand} (hcommands : commands ⊆ commands')
    (h : ReflTransGen (FenceStep visible done commands) fences fences') :
    ReflTransGen (FenceStep visible done commands') fences fences' := by
  refine ReflTransGen.mono (fun before after hstep => ?_) _ _ h
  cases hstep with
  | entered hproof hstart hoperation hversion hnone =>
    exact .entered hproof (hcommands hstart) hoperation hversion hnone
  | continued hall =>
    refine .continued fun applicationId versionId => ?_
    rcases hall applicationId versionId with hnone | ⟨old, new, hold, hnew, hcontinues, halive⟩
    · exact .inl hnone
    · refine .inr ⟨old, new, hold, hnew, hcontinues, fun hnewAlive => ?_⟩
      exact (halive hnewAlive).imp_right (StartApplied.mono (fun _ _ h => h) hcommands)

/-! ## What every write lets grow -/

variable {w w' w'' : KernelWorld σ}

theorem KernelWorld.Grows.refl (world : KernelWorld σ) : world.Grows world where
  control := fun file hfile => ⟨file, hfile, Nat.le_refl _, fun _ => rfl, .refl _⟩
  outbox := fun _ entry hentry => ⟨entry, hentry, .refl entry⟩
  fences := fun _ _ fence hfence => ⟨fence, hfence, .refl fence⟩
  visible := fun _ hproof => hproof

theorem KernelWorld.Grows.trans (h : w.Grows w') (h' : w'.Grows w'') : w.Grows w'' where
  control := by
    intro file hfile
    obtain ⟨file', hfile', hle, hsame, hgrow⟩ := h.control file hfile
    obtain ⟨file'', hfile'', hle', hsame', hgrow'⟩ := h'.control file' hfile'
    refine ⟨file'', hfile'', Nat.le_trans hle hle', fun heq => ?_, hgrow.trans hgrow'⟩
    rw [hsame' (by omega), hsame (by omega)]
  outbox := by
    intro i entry hentry
    obtain ⟨entry', hentry', hleads⟩ := h.outbox i entry hentry
    obtain ⟨entry'', hentry'', hleads'⟩ := h'.outbox i entry' hentry'
    exact ⟨entry'', hentry'', hleads.trans hleads'⟩
  fences := by
    intro applicationId versionId fence hfence
    obtain ⟨fence', hfence', hcontinues⟩ := h.fences applicationId versionId fence hfence
    obtain ⟨fence'', hfence'', hcontinues'⟩ := h'.fences applicationId versionId fence' hfence'
    exact ⟨fence'', hfence'', hcontinues.trans hcontinues'⟩
  visible := fun proof hproof => h'.visible proof (h.visible proof hproof)

theorem KernelWorld.mem_admitted (world : KernelWorld σ) {proof visible : AdmissionProofV1}
    (h : visible ∈ world.visible) : visible ∈ (world.admitted A proof).visible := by
  unfold KernelWorld.admitted
  split
  · exact (List.mem_orderedInsert _).mpr (.inr h)
  · exact h

theorem KernelWorld.admitted_beside (world : KernelWorld σ) (proof : AdmissionProofV1) :
    (world.admitted A proof).control = world.control ∧ (world.admitted A proof).fences = world.fences ∧
      (world.admitted A proof).channel = world.channel := by
  unfold KernelWorld.admitted
  split
  · exact ⟨rfl, rfl, rfl⟩
  · exact ⟨rfl, rfl, rfl⟩

theorem KernelWorld.outbox_congr (h : w'.control = w.control) : w'.outbox = w.outbox := by
  unfold KernelWorld.outbox
  rw [h]

theorem KernelWorld.outbox_some {file : WasmControlStateFileV2} (h : w.control = some file) :
    w.outbox = file.commandOutbox := by
  unfold KernelWorld.outbox
  rw [h]
  rfl

theorem KernelWorld.outbox_none (h : w.control = none) : w.outbox = [] := by
  unfold KernelWorld.outbox
  rw [h]
  rfl

/-- Growth where the control state and the fences stay. -/
theorem KernelWorld.Grows.of_same (hcontrol : w'.control = w.control) (hfences : w'.fences = w.fences)
    (hvisible : ∀ proof ∈ w.visible, proof ∈ w'.visible) : w.Grows w' where
  control := fun file hfile => ⟨file, hcontrol.trans hfile, Nat.le_refl _, fun _ => rfl, .refl _⟩
  outbox := fun i entry hentry => ⟨entry, by rw [KernelWorld.outbox_congr hcontrol, hentry], .refl entry⟩
  fences := fun _ _ fence hfence => ⟨fence, by rw [hfences, hfence], .refl fence⟩
  visible := hvisible

/-- Every write lets the control state grow. -/
theorem KernelWrite.grows (h : KernelWrite A V w w') : w.Grows w' := by
  cases h with
  | beside hcontrol hfences hvisible hchannel =>
    exact .of_same hcontrol hfences fun proof hproof => by rwa [hvisible]
  | admitted proof =>
    have hbeside := w.admitted_beside (A := A) proof
    exact .of_same hbeside.1 hbeside.2.1 fun _ hvisible => w.mem_admitted hvisible
  | created hnone hfile hempty hfences hvisible hchannel =>
    refine ⟨fun file hold => ?_, fun i entry hentry => ?_, fun _ _ fence hfence => ?_, fun proof hproof => ?_⟩
    · rw [hnone] at hold
      cases hold
    · rw [KernelWorld.outbox_none hnone] at hentry
      cases hentry
    · exact ⟨fence, by rw [hfences, hfence], .refl fence⟩
    · rwa [hvisible]
  | control hfile hfile' hstep hfences hvisible hchannel =>
    refine ⟨fun file hold => ?_, fun i entry hentry => ?_, fun _ _ fence hfence => ?_, fun proof hproof => ?_⟩
    · rw [hfile] at hold
      cases hold
      have hrevision := hstep.revision
      exact ⟨_, hfile', by omega, fun heq => by omega, hstep.applications⟩
    · rw [KernelWorld.outbox_some hfile] at hentry
      rw [KernelWorld.outbox_some hfile']
      exact hstep.outbox.entries i entry hentry
    · exact ⟨fence, by rw [hfences, hfence], .refl fence⟩
    · rwa [hvisible]
  | fences hsteps hcontrol hvisible hchannel =>
    refine ⟨fun file hfile => ⟨file, hcontrol.trans hfile, Nat.le_refl _, fun _ => rfl, .refl _⟩,
      fun i entry hentry => ⟨entry, by rw [KernelWorld.outbox_congr hcontrol, hentry], .refl entry⟩,
      fun _ _ fence hfence => FenceStep.continues_chain hsteps hfence, fun proof hproof => ?_⟩
    rwa [hvisible]

theorem KernelWrite.grows_chain (h : ReflTransGen (KernelWrite A V) w w') : w.Grows w' := by
  induction h with
  | refl => exact .refl w
  | tail _ hstep ih => exact ih.trans hstep.grows

/-! ## Every execution is planned once -/

theorem KernelWorld.commands_congr (h : w'.control = w.control) : w'.commands = w.commands := by
  unfold KernelWorld.commands
  rw [KernelWorld.outbox_congr h]

/-- One more command, planned or a Drain, keeps the plan. -/
theorem KernelWorld.Planned.append (h : w.Planned) {command : ExecutionCommand} (hvisible : w'.visible = w.visible)
    (hfences : w'.fences = w.fences) (hcommands : w'.commands = w.commands ++ [command])
    (hcommand : Plans w.visible w.commands command ∨ command.operation = .drain) : w'.Planned where
  distinct := by
    rw [hvisible]
    exact h.distinct
  admitted := by
    intro planned hplanned hoperation
    rw [hvisible]
    rw [hcommands] at hplanned
    rcases List.mem_append.mp hplanned with hold | hnew
    · exact h.admitted planned hold hoperation
    · obtain rfl := List.mem_singleton.mp hnew
      rcases hcommand with hplans | hdrain
      · exact hplans.admitted
      · rw [hdrain] at hoperation
        rcases hoperation with hprepare | hstart
        · cases hprepare
        · cases hstart
  once := by
    rw [hcommands]
    refine List.pairwise_append.mpr ⟨h.once, List.pairwise_singleton .., fun planned hplanned new hnew hoperation => ?_⟩
    obtain rfl := List.mem_singleton.mp hnew
    rcases hcommand with hplans | hdrain
    · exact hplans.fresh planned hplanned
    · intro hrepeats
      rw [hrepeats.1, hdrain] at hoperation
      rcases hoperation with hprepare | hstart
      · cases hprepare
      · cases hstart
  prepared := by
    intro before start after hsplit hstart
    rw [hcommands] at hsplit
    rcases List.eq_nil_or_concat after with rfl | ⟨rest, last, rfl⟩
    · obtain ⟨hbefore, hlast⟩ := List.append_inj' hsplit rfl
      obtain rfl : command = start := by simpa using hlast
      rw [← hbefore]
      rcases hcommand with hplans | hdrain
      · exact hplans.prepared hstart
      · rw [hdrain] at hstart
        cases hstart
    · have hassoc : before ++ start :: rest.concat last = (before ++ start :: rest) ++ [last] := by simp
      rw [hassoc] at hsplit
      exact h.prepared before start rest (List.append_inj_left' hsplit rfl) hstart
  fenced := by
    intro applicationId versionId fence hfence
    rw [hfences] at hfence
    rw [hvisible, hcommands]
    obtain ⟨proof, hproof, happlication, hversion, start, hstart, hruns⟩ :=
      h.fenced applicationId versionId fence hfence
    exact ⟨proof, hproof, happlication, hversion, start, List.mem_append_left _ hstart, hruns⟩

/-- A plan holds again where the commands and the fences are the same and no proof is lost. -/
theorem KernelWorld.Planned.of_same (h : w.Planned) (hdistinct : (w'.visible.map AdmissionProofV1.versionId).Nodup)
    (hcommands : w'.commands = w.commands) (hfences : w'.fences = w.fences)
    (hvisible : ∀ proof ∈ w.visible, proof ∈ w'.visible) : w'.Planned where
  distinct := hdistinct
  admitted := by
    intro command hcommand hoperation
    rw [hcommands] at hcommand
    obtain ⟨proof, hproof, hplanned⟩ := h.admitted command hcommand hoperation
    exact ⟨proof, hvisible proof hproof, hplanned⟩
  once := by
    rw [hcommands]
    exact h.once
  prepared := by
    rw [hcommands]
    exact h.prepared
  fenced := by
    intro applicationId versionId fence hfence
    rw [hfences] at hfence
    rw [hcommands]
    obtain ⟨proof, hproof, hrest⟩ := h.fenced applicationId versionId fence hfence
    exact ⟨proof, hvisible proof hproof, hrest⟩

/-- Version ids are admitted once. -/
theorem KernelWorld.admitted_distinct (h : (w.visible.map AdmissionProofV1.versionId).Nodup) (proof : AdmissionProofV1) :
    ((w.admitted A proof).visible.map AdmissionProofV1.versionId).Nodup := by
  unfold KernelWorld.admitted
  split
  · rename_i hnew
    have hperm := (List.perm_orderedInsert (fun p q : AdmissionProofV1 => p.versionId ≤ q.versionId) proof
      w.visible).map AdmissionProofV1.versionId
    refine hperm.nodup_iff.mpr (List.nodup_cons.mpr ⟨fun hmem => ?_, h⟩)
    obtain ⟨visible, hvisible, hsame⟩ := List.mem_map.mp hmem
    exact hnew.2 visible hvisible hsame
  · exact h

theorem eq_of_versionId {visible : List AdmissionProofV1} (h : (visible.map AdmissionProofV1.versionId).Nodup)
    {proof proof' : AdmissionProofV1} (hproof : proof ∈ visible) (hproof' : proof' ∈ visible)
    (hsame : proof.versionId = proof'.versionId) : proof = proof' :=
  List.inj_on_of_nodup_map h hproof hproof' hsame

/-- A step of the fences keeps the fences of planned Starts. -/
theorem FenceStep.fenced (h : w.Planned) {fences fences' : WasmFences}
    (hstep : FenceStep w.visible done w.commands fences fences')
    (hfenced : ∀ applicationId versionId fence, fenceOf fences applicationId versionId = some fence →
      ∃ proof ∈ w.visible, proof.applicationId = applicationId ∧ proof.versionId = versionId ∧
        ∃ start ∈ w.commands, start.operation = .start ∧ start.PlannedFor proof ∧ fence.Runs start)
    {applicationId versionId : String} {fence : WasmFenceRecordV1}
    (hfence : fenceOf fences' applicationId versionId = some fence) :
    ∃ proof ∈ w.visible, proof.applicationId = applicationId ∧ proof.versionId = versionId ∧
      ∃ start ∈ w.commands, start.operation = .start ∧ start.PlannedFor proof ∧ fence.Runs start := by
  cases hstep with
  | @entered proof start hproof hstart hoperation hversion hnone =>
    rw [fenceOf_withCurrentFence] at hfence
    split at hfence
    · rename_i hsame
      cases hfence
      obtain ⟨planned, hplanned, hfor⟩ := h.admitted start hstart (.inr hoperation)
      obtain rfl := eq_of_versionId h.distinct hplanned hproof (hfor.versionId.symm.trans hversion)
      exact ⟨planned, hplanned, hsame.1.symm, hsame.2.symm, start, hstart, hoperation, hfor, .refl _⟩
    · exact hfenced applicationId versionId fence hfence
  | continued hall =>
    rcases hall applicationId versionId with ⟨_, hnone⟩ | ⟨old, new, hold, hnew, hcontinues, _⟩
    · rw [hnone] at hfence
      cases hfence
    · rw [hnew] at hfence
      cases hfence
      obtain ⟨proof, hproof, happlication, hversion, start, hstart, hoperation, hfor, hruns⟩ :=
        hfenced applicationId versionId old hold
      exact ⟨proof, hproof, happlication, hversion, start, hstart, hoperation, hfor, hruns.trans hcontinues⟩

/-- Every write keeps the plan. -/
theorem KernelWrite.planned (h : KernelWrite A V w w') (hplanned : w.Planned) : w'.Planned := by
  cases h with
  | beside hcontrol hfences hvisible hchannel =>
    refine hplanned.of_same ?_ (KernelWorld.commands_congr hcontrol) hfences fun proof hproof => ?_
    · rw [hvisible]
      exact hplanned.distinct
    · rwa [hvisible]
  | admitted proof =>
    have hbeside := w.admitted_beside (A := A) proof
    exact hplanned.of_same (KernelWorld.admitted_distinct hplanned.distinct proof)
      (KernelWorld.commands_congr hbeside.1) hbeside.2.1 fun _ hvisible => w.mem_admitted hvisible
  | created hnone hfile hempty hfences hvisible hchannel =>
    refine hplanned.of_same ?_ ?_ hfences fun proof hproof => ?_
    · rw [hvisible]
      exact hplanned.distinct
    · unfold KernelWorld.commands
      rw [KernelWorld.outbox_some hfile, KernelWorld.outbox_none hnone, hempty]
    · rwa [hvisible]
  | @control _ file file' hfile hfile' hstep hfences hvisible hchannel =>
    have hold : w.commands = file.commandOutbox.map CommandOutboxRecord.command := by
      unfold KernelWorld.commands
      rw [KernelWorld.outbox_some hfile]
    have hnew : w'.commands = file'.commandOutbox.map CommandOutboxRecord.command := by
      unfold KernelWorld.commands
      rw [KernelWorld.outbox_some hfile']
    rcases hstep.outbox.commands with hsame | ⟨command, happend, hcommand⟩
    · refine hplanned.of_same ?_ (hnew.trans (hsame.trans hold.symm)) hfences fun proof hproof => ?_
      · rw [hvisible]
        exact hplanned.distinct
      · rwa [hvisible]
    · rw [← hold] at happend hcommand
      exact hplanned.append hvisible hfences (hnew.trans happend) hcommand
  | fences hsteps hcontrol hvisible hchannel =>
    refine ⟨?_, ?_, ?_, ?_, ?_⟩
    · rw [hvisible]
      exact hplanned.distinct
    · rw [hvisible, KernelWorld.commands_congr hcontrol]
      exact hplanned.admitted
    · rw [KernelWorld.commands_congr hcontrol]
      exact hplanned.once
    · rw [KernelWorld.commands_congr hcontrol]
      exact hplanned.prepared
    · rw [hvisible, KernelWorld.commands_congr hcontrol]
      generalize w'.fences = fences' at hsteps ⊢
      induction hsteps with
      | refl => exact hplanned.fenced
      | tail _ hstep ih => exact fun _ _ _ hfence => hstep.fenced hplanned ih hfence

theorem KernelWrite.planned_chain (h : ReflTransGen (KernelWrite A V) w w') (hplanned : w.Planned) : w'.Planned := by
  induction h with
  | refl => exact hplanned
  | tail _ hstep ih => exact hstep.planned ih

theorem KernelWorld.planned_empty (channel : σ) : (KernelWorld.empty channel).Planned where
  distinct := .nil
  admitted := fun command hcommand => by cases hcommand
  once := .nil
  prepared := by
    intro before start after hsplit
    cases before with
    | nil => cases hsplit
    | cons first rest => cases hsplit
  fenced := by
    intro applicationId versionId fence hfence
    unfold fenceOf KernelWorld.empty at hfence
    rw [FiniteMap.getElem?_empty] at hfence
    cases hfence

/-! ## What the files say of the supervisor -/

theorem mem_updateEntry {commandId : String} {update : CommandOutboxRecord → CommandOutboxRecord}
    {outbox : List CommandOutboxRecord} {entry : CommandOutboxRecord} (h : entry ∈ updateEntry commandId update outbox) :
    entry ∈ outbox ∨ ∃ old, outbox.find? (fun entry => entry.commandId == commandId) = some old ∧ entry = update old := by
  induction outbox with
  | nil => exact .inl h
  | cons first rest ih =>
    unfold updateEntry at h
    split at h
    · rename_i hid
      rcases List.mem_cons.mp h with rfl | hrest
      · exact .inr ⟨first, List.find?_cons_of_pos (by simpa using hid), rfl⟩
      · exact .inl (List.mem_cons_of_mem _ hrest)
    · rename_i hid
      rcases List.mem_cons.mp h with rfl | hrest
      · exact .inl (List.mem_cons_self ..)
      · rcases ih hrest with hmem | ⟨old, hfound, hsame⟩
        · exact .inl (List.mem_cons_of_mem _ hmem)
        · refine .inr ⟨old, ?_, hsame⟩
          rw [List.find?_cons_of_neg (by simpa using hid)]
          exact hfound

/-- A step closes an entry for a settled command only. -/
theorem OutboxStep.acknowledged (h : OutboxStep visible done outbox outbox')
    (hold : ∀ entry ∈ outbox, entry.deliveryState = .acknowledged → ∃ ack, done entry.command ack)
    {entry : CommandOutboxRecord} (hentry : entry ∈ outbox') (hclosed : entry.deliveryState = .acknowledged) :
    ∃ ack, done entry.command ack := by
  have hpending (command : ExecutionCommand) (createdAt : String) (hmem : entry ∈ outbox ++ [pendingEntry command createdAt]) :
      ∃ ack, done entry.command ack := by
    rcases List.mem_append.mp hmem with hmem | hnew
    · exact hold entry hmem hclosed
    · obtain rfl := List.mem_singleton.mp hnew
      cases hclosed
  cases h with
  | same => exact hold entry hentry hclosed
  | noted hnoted =>
    rcases mem_updateEntry hentry with hmem | ⟨old, hfound, rfl⟩
    · exact hold entry hmem hclosed
    · obtain ⟨hleads, hsettled⟩ := hnoted old hfound
      rw [hleads.command]
      exact hsettled hclosed
  | planned hplans => exact hpending _ _ hentry
  | drained hdrain => exact hpending _ _ hentry

/-- A step brings a fence alive for an applied Start only. -/
theorem FenceStep.alive (hstep : FenceStep visible done commands fences fences')
    (hold : ∀ applicationId versionId fence, fenceOf fences applicationId versionId = some fence → fence.alive = true →
      StartApplied done commands applicationId versionId)
    {applicationId versionId : String} {fence : WasmFenceRecordV1}
    (hfence : fenceOf fences' applicationId versionId = some fence) (halive : fence.alive = true) :
    StartApplied done commands applicationId versionId := by
  cases hstep with
  | entered _ _ _ _ _ =>
    rw [fenceOf_withCurrentFence] at hfence
    split at hfence
    · cases hfence
      cases halive
    · exact hold applicationId versionId fence hfence halive
  | continued hall =>
    rcases hall applicationId versionId with ⟨_, hnone⟩ | ⟨old, new, holdFence, hnew, _, hevidence⟩
    · rw [hnone] at hfence
      cases hfence
    · rw [hnew] at hfence
      cases hfence
      rcases hevidence halive with holdAlive | happlied
      · exact hold applicationId versionId old holdFence holdAlive
      · exact happlied

/-- What is attested stays so where the outbox and the fences are the same. -/
theorem KernelWorld.Attested.of_same (h : w.Attested V) (houtbox : w'.outbox = w.outbox)
    (hfences : w'.fences = w.fences)
    (hchannel : V.reaches w.channel w'.channel) : w'.Attested V where
  acknowledged := by
    intro entry hentry hclosed
    rw [houtbox] at hentry
    obtain ⟨ack, hack⟩ := h.acknowledged entry hentry hclosed
    exact ⟨ack, V.keeps _ _ _ _ hchannel hack⟩
  alive := by
    intro applicationId versionId fence hfence halive
    rw [hfences] at hfence
    refine (h.alive applicationId versionId fence hfence halive).mono (fun _ _ => V.keeps _ _ _ _ hchannel)
      fun command hcommand => ?_
    unfold KernelWorld.commands
    rw [houtbox]
    exact hcommand

/-- Every write keeps what is attested. -/
theorem KernelWrite.attested (h : KernelWrite A V w w') (hattested : w.Attested V) : w'.Attested V := by
  cases h with
  | beside hcontrol hfences hvisible hchannel =>
    exact hattested.of_same (KernelWorld.outbox_congr hcontrol) hfences hchannel
  | admitted proof =>
    have hbeside := w.admitted_beside (A := A) proof
    refine hattested.of_same (KernelWorld.outbox_congr hbeside.1) hbeside.2.1 ?_
    rw [hbeside.2.2]
    exact V.refl w.channel
  | created hnone hfile hempty hfences hvisible hchannel =>
    refine hattested.of_same ?_ hfences ?_
    · rw [KernelWorld.outbox_some hfile, KernelWorld.outbox_none hnone, hempty]
    · rw [hchannel]
      exact V.refl w.channel
  | @control _ file file' hfile hfile' hstep hfences hvisible hchannel =>
    refine ⟨fun entry hentry hclosed => ?_, fun applicationId versionId fence hfence halive => ?_⟩
    · rw [KernelWorld.outbox_some hfile'] at hentry
      rw [hchannel]
      refine hstep.outbox.acknowledged (fun old hmem => ?_) hentry hclosed
      rw [← KernelWorld.outbox_some hfile] at hmem
      exact hattested.acknowledged old hmem
    · rw [hfences] at hfence
      rw [hchannel]
      refine (hattested.alive applicationId versionId fence hfence halive).mono (fun _ _ h => h) fun command hcommand => ?_
      unfold KernelWorld.commands at hcommand ⊢
      rw [KernelWorld.outbox_some hfile] at hcommand
      rw [KernelWorld.outbox_some hfile']
      rcases hstep.outbox.commands with hsame | ⟨new, happend, _⟩
      · rwa [hsame]
      · rw [happend]
        exact List.mem_append_left _ hcommand
  | fences hsteps hcontrol hvisible hchannel =>
    refine ⟨fun entry hentry hclosed => ?_, ?_⟩
    · rw [KernelWorld.outbox_congr hcontrol] at hentry
      rw [hchannel]
      exact hattested.acknowledged entry hentry hclosed
    · rw [hchannel, KernelWorld.commands_congr hcontrol]
      generalize w'.fences = fences' at hsteps ⊢
      induction hsteps with
      | refl => exact hattested.alive
      | tail _ hstep ih => exact fun _ _ _ hfence halive => hstep.alive ih hfence halive

theorem KernelWrite.attested_chain (h : ReflTransGen (KernelWrite A V) w w') (hattested : w.Attested V) :
    w'.Attested V := by
  induction h with
  | refl => exact hattested
  | tail _ hstep ih => exact hstep.attested ih

theorem KernelWorld.attested_empty (channel : σ) : (KernelWorld.empty channel).Attested V where
  acknowledged := fun entry hentry => by cases hentry
  alive := by
    intro applicationId versionId fence hfence
    unfold fenceOf KernelWorld.empty at hfence
    rw [FiniteMap.getElem?_empty] at hfence
    cases hfence

/-- A run reaches what its writes reach at the supervisor. -/
theorem KernelWrite.reaches_chain (h : ReflTransGen (KernelWrite A V) w w') : V.reaches w.channel w'.channel := by
  induction h with
  | refl => exact V.refl w.channel
  | tail _ hstep ih =>
    refine V.trans _ _ _ ih ?_
    cases hstep with
    | beside _ _ _ hchannel => exact hchannel
    | admitted proof =>
      rw [(KernelWorld.admitted_beside _ proof).2.2]
      exact V.refl _
    | created _ _ _ _ _ hchannel =>
      rw [hchannel]
      exact V.refl _
    | control _ _ _ _ _ hchannel =>
      rw [hchannel]
      exact V.refl _
    | fences _ _ _ hchannel =>
      rw [hchannel]
      exact V.refl _

end Iweb
