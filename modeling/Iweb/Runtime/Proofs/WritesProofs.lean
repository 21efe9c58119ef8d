import Iweb.Foundations.CrashMachine
import Iweb.Runtime.Proofs.GrowthProofs

/-!
# The programs of the runtime run on its machine

Every write of every call is a step of the machine of the control state.
-/

namespace Iweb

open CrashHoare
open Relation (ReflTransGen)

variable {σ α : Type} {A : AdmissionRules} {R : RuntimeRules} {D : Digests} {C : SupervisorChannel σ}
  {V : SupervisorView σ} {start : KernelWorld σ}

/-! ## Programs beside the machine -/

/-- The files of the machine and the supervisor. -/
def KernelWorld.machineFiles (world : KernelWorld σ) :
    Option WasmControlStateFileV2 × WasmFences × List AdmissionProofV1 × σ :=
  (world.control, world.fences, world.visible, world.channel)

theorem machineFiles_eq {w : KernelWorld σ} {control : Option WasmControlStateFileV2} {fences : WasmFences}
    {visible : List AdmissionProofV1} {channel : σ} (h : w.machineFiles = (control, fences, visible, channel)) :
    w.control = control ∧ w.fences = fences ∧ w.visible = visible ∧ w.channel = channel := by
  unfold KernelWorld.machineFiles at h
  simpa only [Prod.mk.injEq] using h

/-- A program that keeps the files of the machine. -/
abbrev KeepsFiles (m : KernelM σ α) : Prop := Keeps KernelWorld.machineFiles m

/-- Such a program respects what is known of the files. -/
theorem KeepsFiles.runs {m : KernelM σ α} (h : KeepsFiles m) {P : KernelWorld σ → Prop}
    (hP : ∀ w w', w'.machineFiles = w.machineFiles → P w → P w') :
    RunsOn (KernelWrite A V) start P m (fun _ => P) fun _ => P := by
  refine RunsOn.of_keeps h (fun w w' hsame => ?_) hP
  obtain ⟨hcontrol, hfences, hvisible, hchannel⟩ := machineFiles_eq hsame
  refine .beside hcontrol hfences hvisible ?_
  rw [hchannel]
  exact V.refl w.channel

theorem KernelWorld.Holds.congr {visible : List AdmissionProofV1} {state : WasmCommandControlState}
    {applications : WasmApplications} {I : WasmFences → σ → Prop} (w w' : KernelWorld σ)
    (hsame : w'.machineFiles = w.machineFiles) (h : w.Holds visible state applications I) :
    w'.Holds visible state applications I := by
  obtain ⟨hcontrol, hfences, hvisible, hchannel⟩ := machineFiles_eq hsame
  refine ⟨hvisible.trans h.visible, (KernelWorld.outbox_congr hcontrol).trans h.outbox, fun file hfile => ?_, ?_⟩
  · exact h.file file (hcontrol.symm.trans hfile)
  · rw [hfences, hchannel]
    exact h.known

theorem visible_congr {visible : List AdmissionProofV1} (w w' : KernelWorld σ)
    (hsame : w'.machineFiles = w.machineFiles) (h : w.visible = visible) : w'.visible = visible :=
  (machineFiles_eq hsame).2.2.1.trans h

theorem loadControlState_files : KeepsFiles (loadControlState A R : KernelM σ _) := .bind (.read _) fun _ => .lift _

theorem loadFencesFile_files : KeepsFiles (loadFencesFile : KernelM σ _) := .bind (.read _) fun _ => .lift _

theorem saveRouteRegistry_files (file : WasmRouteRegistryFile) : KeepsFiles (saveRouteRegistry file : KernelM σ _) :=
  .write fun _ => rfl

theorem persistAdmissionPolicy_files (proof : AdmissionProofV1) :
    KeepsFiles (persistAdmissionPolicy proof : KernelM σ _) := by
  unfold persistAdmissionPolicy
  refine .bind (.read _) fun stored => ?_
  cases stored with
  | none => exact .write fun _ => rfl
  | some policy => exact .lift _

theorem storeSnapshotIndex_files (index : SecretSnapshotRefV1) : KeepsFiles (storeSnapshotIndex index : KernelM σ _) := by
  unfold storeSnapshotIndex
  refine .bind (.read _) fun stored => ?_
  cases stored with
  | none => exact .write fun _ => rfl
  | some existing => exact .lift _

theorem storeSnapshotValues_files (reference : String) (values : SecretSnapshotValuesPayloadV1) :
    KeepsFiles (storeSnapshotValues reference values : KernelM σ _) := by
  unfold storeSnapshotValues
  refine .bind (.read _) fun stored => ?_
  cases stored with
  | none => exact .write fun _ => rfl
  | some existing => exact .lift _

theorem ensureInitialSecretSnapshot_files (proof : AdmissionProofV1) (preparationGeneration now : Nat) :
    KeepsFiles (ensureInitialSecretSnapshot R proof preparationGeneration now : KernelM σ _) :=
  .bind (.lift _) fun _ => .bind (storeSnapshotIndex_files _) fun _ =>
    .bind (storeSnapshotValues_files _ _) fun _ => .pure _

theorem controlRecord_files (applicationId : String) : KeepsFiles (controlRecord A R applicationId : KernelM σ _) := by
  unfold controlRecord
  refine .bind loadControlState_files fun loaded => ?_
  split
  · exact .lift _
  · exact .pure _

theorem registerProof_files (proof : AdmissionProofV1) : KeepsFiles (registerProof A proof : KernelM σ _) := by
  unfold registerProof
  refine .bind (.read _) fun _ => .bind (.lift _) fun registryFile => ?_
  split
  · exact .pure _
  · exact .bind (saveRouteRegistry_files _) fun _ => .pure _

theorem convergeRouteRegistry_files : KeepsFiles (convergeRouteRegistryFromAdmission A : KernelM σ _) := by
  unfold convergeRouteRegistryFromAdmission
  refine .bind (.read _) fun _ => .bind (.lift _) fun registryFile => .bind (.read _) fun proofs => ?_
  dsimp only
  split
  · exact saveRouteRegistry_files _
  · exact .pure _

/-! ## Loads and saves -/

variable {visible : List AdmissionProofV1} {state state' : WasmCommandControlState}
  {applications applications' : WasmApplications} {I : WasmFences → σ → Prop}

/-- A call that has loaded the control state holds it. -/
theorem loadControlState_runs {P : KernelWorld σ → Prop} (hP : ∀ w, P w → w.visible = visible ∧ I w.fences w.channel) :
    RunsOn (KernelWrite A V) start P (loadControlState A R)
      (fun loaded w => w.Holds visible loaded.state loaded.applications I) fun _ => P := by
  refine RunsOn.bind (Q := fun loaded w => P w ∧ loaded = w.loadControlState A R) (RunsOn.read fun w hw => ⟨hw, rfl⟩)
    fun result => RunsOn.lift (fun w loaded hw hresult => ?_) fun w e hw _ => hw.1
  obtain ⟨hw, rfl⟩ := hw
  obtain ⟨hvisible, hI⟩ := hP w hw
  unfold KernelWorld.loadControlState at hresult
  obtain ⟨registryFile, _, hresult⟩ := bind_eq_ok.mp hresult
  cases hcontrol : w.control with
  | none =>
    rw [hcontrol] at hresult
    obtain rfl := Except.ok.inj hresult
    refine ⟨hvisible, KernelWorld.outbox_none hcontrol, fun file hfile => ?_, hI⟩
    rw [hcontrol] at hfile
    cases hfile
  | some file =>
    rw [hcontrol] at hresult
    obtain ⟨_, _, hresult⟩ := bind_eq_ok.mp hresult
    obtain rfl := Except.ok.inj hresult
    refine ⟨hvisible, KernelWorld.outbox_some hcontrol, fun file' hfile => ?_, hI⟩
    rw [hcontrol] at hfile
    cases hfile
    exact ⟨rfl, rfl⟩

theorem loadControlState_sees :
    RunsOn (KernelWrite A V) start (fun w => w.visible = visible) (loadControlState A R)
      (fun loaded w => w.Holds visible loaded.state loaded.applications Unknown) fun _ w => w.visible = visible :=
  loadControlState_runs fun _ hw => ⟨hw, trivial⟩

theorem storedRevision_cases {w : KernelWorld σ} {expected : Option Nat} (h : w.storedRevision = .ok expected) :
    w.control = none ∧ expected = none ∨
      ∃ file, w.control = some file ∧ expected = some file.controlRevision := by
  unfold KernelWorld.storedRevision at h
  cases hcontrol : w.control with
  | none =>
    rw [hcontrol] at h
    exact .inl ⟨rfl, (Except.ok.inj h).symm⟩
  | some file =>
    rw [hcontrol] at h
    obtain ⟨_, _, h⟩ := bind_eq_ok.mp h
    exact .inr ⟨file, rfl, (Except.ok.inj h).symm⟩

/-- A save is a step of the control state file, or it writes nothing. -/
theorem saveControlState_runs {P : KernelWorld σ → Prop} {expected : Option Nat}
    (registryFile : WasmRouteRegistryFile)
    (hwrite : ∀ w, P w → w.storedRevision = .ok expected →
      KernelWrite A V w { w with control := some (controlStateFile state applications) }) :
    RunsOn (KernelWrite A V) start P (saveControlState expected state registryFile applications)
      (fun _ w' => ∃ w, P w ∧ w.storedRevision = .ok expected ∧
        w'.machineFiles = (some (controlStateFile state applications), w.fences, w.visible, w.channel)) fun _ => P := by
  unfold saveControlState
  dsimp only
  split
  · exact RunsOn.lift (fun w a _ ha => by cases ha) fun w e hw _ => hw
  · refine RunsOn.bind (Q := fun stored w => P w ∧ stored = w.storedRevision) (RunsOn.read fun w hw => ⟨hw, rfl⟩)
      fun stored => RunsOn.bind (Q := fun actual w => P w ∧ w.storedRevision = .ok actual) ?_ fun actual => ?_
    · refine RunsOn.lift (fun w actual hw hactual => ⟨hw.1, ?_⟩) fun w e hw _ => hw.1
      rw [← hw.2, hactual]
    · split
      · exact RunsOn.lift (fun w a _ ha => by cases ha) fun w e hw _ => hw.1
      · rename_i hsame
        obtain rfl : actual = expected := not_not.mp hsame
        refine RunsOn.bind (Q := fun _ w' => ∃ w, P w ∧ w.storedRevision = .ok actual ∧
          w'.machineFiles = (some (controlStateFile state applications), w.fences, w.visible, w.channel)) ?_ fun _ => ?_
        · exact RunsOn.write (fun w hw => hwrite w hw.1 hw.2) (fun w _ hw _ => ⟨w, hw.1, hw.2, rfl⟩)
            fun w e _ he => by cases he
        · -- The two other files are beside the machine, and their writes do not fail.
          refine RunsOn.bind (RunsOn.write (fun _ _ => .beside rfl rfl rfl (V.refl _)) (fun _ _ hw _ => hw) ?_) fun _ =>
            RunsOn.write (fun _ _ => .beside rfl rfl rfl (V.refl _)) (fun _ _ hw _ => hw) ?_
          · intro w e _ he
            cases he
          · intro w e _ he
            cases he

/-- A mutation of the control state: the revision goes up by one. -/
structure Mutates (visible : List AdmissionProofV1) (done : Completions) (state : WasmCommandControlState)
    (applications : WasmApplications) (state' : WasmCommandControlState) (applications' : WasmApplications) : Prop where
  revision : state'.controlRevision = state.controlRevision + 1
  applications : ApplicationsGrow applications applications'
  outbox : OutboxStep visible done state.commandOutbox state'.commandOutbox

/-- A save of a mutation of what a call holds. -/
theorem saveMutation_runs (registryFile : WasmRouteRegistryFile)
    (h : ∀ fences channel, I fences channel → Mutates visible (V.settled channel) state applications state' applications') :
    RunsOn (KernelWrite A V) start (KernelWorld.Holds visible state applications I)
      (saveControlState (some state.controlRevision) state' registryFile applications')
      (fun _ => KernelWorld.Holds visible state' applications' I)
      fun _ => KernelWorld.Holds visible state applications I := by
  refine (saveControlState_runs registryFile fun w hw hstored => ?_).consequence (fun _ hw => hw) (fun _ w' hw' => ?_)
    fun _ _ hw => hw
  · have hmutates := h w.fences w.channel hw.known
    rcases storedRevision_cases hstored with ⟨_, hnone⟩ | ⟨file, hfile, _⟩
    · cases hnone
    · obtain ⟨hrevision, happlications⟩ := hw.file file hfile
      refine .control hfile rfl ⟨?_, ?_, ?_⟩ rfl rfl rfl
      · exact hmutates.revision.trans (congrArg (· + 1) hrevision.symm)
      · rw [happlications]
        exact hmutates.applications
      · rw [← KernelWorld.outbox_some hfile, hw.outbox, hw.visible]
        exact hmutates.outbox
  · obtain ⟨w, hw, _, hfiles⟩ := hw'
    obtain ⟨hcontrol, hfences, hvisible, hchannel⟩ := machineFiles_eq hfiles
    refine ⟨hvisible.trans hw.visible, KernelWorld.outbox_some hcontrol, fun file hfile => ?_, ?_⟩
    · rw [hcontrol] at hfile
      cases hfile
      exact ⟨rfl, rfl⟩
    · rw [hfences, hchannel]
      exact hw.known

/-- The first save has an empty outbox. -/
theorem saveFirst_runs (registryFile : WasmRouteRegistryFile) :
    RunsOn (KernelWrite A V) start (KernelWorld.Holds visible state applications I)
      (saveControlState none state registryFile applications') (fun _ w => w.visible = visible)
      fun _ w => w.visible = visible := by
  refine (saveControlState_runs registryFile fun w hw hstored => ?_).consequence (fun _ hw => hw) (fun _ w' hw' => ?_)
    fun _ _ hw => hw.visible
  · rcases storedRevision_cases hstored with ⟨hnone, _⟩ | ⟨file, _, hsome⟩
    · exact .created hnone rfl (hw.outbox.symm.trans (KernelWorld.outbox_none hnone)) rfl rfl rfl
    · cases hsome
  · obtain ⟨w, hw, _, hfiles⟩ := hw'
    exact (machineFiles_eq hfiles).2.2.1.trans hw.visible

theorem advanceControlRevision_eq_ok (h : advanceControlRevision state = .ok state') :
    state' = { state with controlRevision := state.controlRevision + 1 } := by
  unfold advanceControlRevision at h
  obtain ⟨_, _, h⟩ := bind_eq_ok.mp h
  exact (Except.ok.inj h).symm

/-- A mutation of the applications alone. -/
theorem Mutates.of_advance {done : Completions} (h : advanceControlRevision state = .ok state')
    (happlications : ApplicationsGrow applications applications') :
    Mutates visible done state applications state' applications' := by
  obtain rfl := advanceControlRevision_eq_ok h
  exact ⟨rfl, happlications, .same⟩

/-- A mutation that is computed first. -/
theorem mutation_runs {x : Except KernelError WasmCommandControlState} {k : WasmCommandControlState → KernelM σ α}
    {Q : α → KernelWorld σ → Prop}
    (hx : ∀ done state', x = .ok state' → Mutates visible done state applications state' applications')
    (hk : ∀ state', (∀ done, Mutates visible done state applications state' applications') →
      RunsOn (KernelWrite A V) start (KernelWorld.Holds visible state applications I) (k state') Q
        fun _ w => w.visible = visible) :
    RunsOn (KernelWrite A V) start (KernelWorld.Holds visible state applications I) (Prog.lift x >>= k) Q
      fun _ w => w.visible = visible := by
  refine RunsOn.bind (Q := fun state' w => w.Holds visible state applications I ∧
    ∀ done, Mutates visible done state applications state' applications') (RunsOn.lift (fun w a hw ha =>
      ⟨hw, fun done => hx done a ha⟩) fun w e hw _ => hw.visible) fun state' =>
        RunsOn.assume (fun w hw => hw.2) fun hmutates => ?_
  exact (hk state' hmutates).pre fun _ hw => hw.1

/-- A save that nothing follows. -/
theorem saveLast_runs (registryFile : WasmRouteRegistryFile)
    (h : ∀ done, Mutates visible done state applications state' applications') :
    RunsOn (KernelWrite A V) start (KernelWorld.Holds visible state applications I)
      (saveControlState (some state.controlRevision) state' registryFile applications')
      (fun _ w => w.visible = visible) fun _ w => w.visible = visible :=
  (saveMutation_runs registryFile fun _ _ _ => h _).consequence (fun _ hw => hw) (fun _ _ hw => hw.visible)
    fun _ _ hw => hw.visible

/-! ## Rows -/

theorem updateVersion_sameFacts {versionId : String} {update : WasmVersionRegistryRow → WasmVersionRegistryRow}
    (h : ∀ row : WasmVersionRegistryRow, row.SameFacts (update row)) (rows : List WasmVersionRegistryRow) :
    ∀ row ∈ rows, ∃ row' ∈ updateVersion versionId update rows, row.SameFacts row' := by
  induction rows with
  | nil => exact fun row hrow => by cases hrow
  | cons first rows ih =>
    intro row hrow
    unfold updateVersion
    split
    · rcases List.mem_cons.mp hrow with rfl | hrest
      · exact ⟨_, List.mem_cons_self .., h row⟩
      · exact ⟨row, List.mem_cons_of_mem _ hrest, .refl row⟩
    · rcases List.mem_cons.mp hrow with rfl | hrest
      · exact ⟨row, List.mem_cons_self .., .refl row⟩
      · obtain ⟨row', hrow', hsame⟩ := ih row hrest
        exact ⟨row', List.mem_cons_of_mem _ hrow', hsame⟩

theorem setLifecycle_grows (applications : WasmApplications) (applicationId versionId lifecycle : String) :
    ApplicationsGrow applications (setLifecycle applications applicationId versionId lifecycle) := by
  unfold setLifecycle
  split
  · exact .refl applications
  · rename_i record hrecord
    refine .insert fun old hold => ?_
    rw [hrecord] at hold
    cases hold
    refine ⟨Nat.le_refl _, updateVersion_sameFacts (fun row => ?_) _⟩
    rfl

/-- An admission adds its row at most. -/
theorem upsertVisibleAdmission_grows {proof : AdmissionProofV1} {changed : Bool}
    (h : upsertVisibleAdmission R applications proof = .ok (applications', changed)) :
    ApplicationsGrow applications applications' := by
  unfold upsertVisibleAdmission at h
  obtain ⟨_, _, h⟩ := bind_eq_ok.mp h
  split at h
  · obtain ⟨_, _, h⟩ := bind_eq_ok.mp h
    obtain ⟨rfl, _⟩ := Prod.ext_iff.mp (Except.ok.inj h)
    refine .insert fun old hold => ?_
    rw [hold]
    exact .refl old
  · obtain ⟨rfl, _⟩ := Prod.ext_iff.mp (Except.ok.inj h)
    refine .insert fun old hold => ?_
    rw [hold]
    refine ⟨Nat.le_refl _, fun row hrow => ⟨row, ?_, .refl row⟩⟩
    exact (List.mem_insertionSort _).mpr (List.mem_append_left _ hrow)

theorem upsertVisibleAdmissions_grows {proofs : List AdmissionProofV1} {changed changed' : Bool}
    (h : upsertVisibleAdmissions R proofs (applications, changed) = .ok (applications', changed')) :
    ApplicationsGrow applications applications' := by
  induction proofs generalizing applications changed with
  | nil =>
    obtain ⟨rfl, _⟩ := Prod.ext_iff.mp (Except.ok.inj h)
    exact .refl _
  | cons proof proofs ih =>
    unfold upsertVisibleAdmissions at h
    obtain ⟨⟨upserted, added⟩, hupsert, h⟩ := bind_eq_ok.mp h
    exact (upsertVisibleAdmission_grows hupsert).trans (ih h)

/-! ## Plans -/

/-- What a planned command takes from its plan. -/
structure ExecutionCommand.PlannedFrom (command : ExecutionCommand) (input : KernelCommandPlanInput) : Prop where
  operation : command.operation = input.operation
  admitted : command.PlannedFor input.proof
  generations : nextGenerations input.operation input.currentGenerations = .ok command.identity
  secretRevision : command.secretRevision = input.secretRevision
  secretSnapshotRef : command.secretSnapshotRef = input.secretSnapshotRef
  secretValuesDigest : command.secretValuesDigest = input.secretValuesDigest
  configRevision : command.configRevision = input.configRevision
  configSnapshotRef : command.configSnapshotRef = input.configSnapshotRef
  configValuesDigest : command.configValuesDigest = input.configValuesDigest

/-- No command is for another version than its generation clock. -/
theorem nextGenerations_versionId {operation : WasmExecutionOperation} {current next : WasmExecutionIdentityV1}
    (h : nextGenerations operation current = .ok next) : next.versionId = current.versionId := by
  unfold nextGenerations at h
  split at h
  · unfold prepareGenerationTransition at h
    obtain ⟨_, _, h⟩ := bind_eq_ok.mp h
    obtain rfl := Except.ok.inj h
    rfl
  · unfold executionGenerationTransition at h
    obtain ⟨_, _, h⟩ := bind_eq_ok.mp h
    obtain ⟨_, _, h⟩ := bind_eq_ok.mp h
    obtain rfl := Except.ok.inj h
    rfl
  · obtain ⟨_, _, h⟩ := bind_eq_ok.mp h
    obtain rfl := Except.ok.inj h
    rfl
  · obtain ⟨_, _, h⟩ := bind_eq_ok.mp h
    obtain rfl := Except.ok.inj h
    rfl

theorem planExecutionCommand_plannedFrom {input : KernelCommandPlanInput} {command : ExecutionCommand}
    (h : planExecutionCommand R input = .ok command) : command.PlannedFrom input := by
  unfold planExecutionCommand at h
  obtain ⟨_, _, h⟩ := bind_eq_ok.mp h
  obtain ⟨_, _, h⟩ := bind_eq_ok.mp h
  obtain ⟨_, hclock, h⟩ := bind_eq_ok.mp h
  obtain ⟨_, _, h⟩ := bind_eq_ok.mp h
  obtain ⟨next, hnext, h⟩ := bind_eq_ok.mp h
  obtain ⟨_, _, h⟩ := bind_eq_ok.mp h
  obtain ⟨_, _, h⟩ := bind_eq_ok.mp h
  obtain ⟨runtimeBinding, hbinding, h⟩ := bind_eq_ok.mp h
  obtain ⟨_, _, h⟩ := bind_eq_ok.mp h
  obtain rfl := Except.ok.inj h
  have hversion : input.currentGenerations.versionId = input.proof.versionId := by
    simp only [require_eq_ok, Bool.and_eq_true, beq_iff_eq] at hclock
    exact hclock.2
  exact ⟨rfl, ⟨rfl, (nextGenerations_versionId hnext).trans hversion, rfl, hbinding, rfl, rfl, rfl⟩, hnext, rfl, rfl, rfl,
    rfl, rfl, rfl⟩

/-- An authorized command is appended to the outbox. -/
theorem authorizeCommand_eq_ok {expected : Nat} {command : ExecutionCommand} {createdAt : String}
    (h : state.authorizeCommand expected command createdAt = .ok state') :
    state'.controlRevision = state.controlRevision + 1 ∧
      state'.commandOutbox = state.commandOutbox ++ [pendingEntry command createdAt] := by
  unfold WasmCommandControlState.authorizeCommand at h
  obtain ⟨_, hrevision, h⟩ := bind_eq_ok.mp h
  obtain ⟨_, _, h⟩ := bind_eq_ok.mp h
  obtain ⟨_, _, h⟩ := bind_eq_ok.mp h
  obtain ⟨_, _, h⟩ := bind_eq_ok.mp h
  obtain ⟨_, _, h⟩ := bind_eq_ok.mp h
  obtain rfl := Except.ok.inj h
  exact ⟨congrArg (· + 1) (checkControlRevision_eq_ok hrevision).symm, rfl⟩

/-- The commands of an outbox. -/
def commandsOf (outbox : List CommandOutboxRecord) : List ExecutionCommand := outbox.map CommandOutboxRecord.command

/-- A command of the outbox for a version. -/
structure PlannedAs (outbox : List CommandOutboxRecord) (operation : WasmExecutionOperation) (proof : AdmissionProofV1)
    (command : ExecutionCommand) : Prop where
  planned : command ∈ commandsOf outbox
  operation : command.operation = operation
  versionId : command.identity.versionId = proof.versionId
  packageDigest : command.packageDigest = proof.packageDigest

theorem plannedCommand_some {outbox : List CommandOutboxRecord} {operation : WasmExecutionOperation}
    {proof : AdmissionProofV1} {command : ExecutionCommand} (h : plannedCommand outbox operation proof = some command) :
    PlannedAs outbox operation proof command := by
  unfold plannedCommand at h
  obtain ⟨entry, hentry, rfl⟩ := Option.map_eq_some_iff.mp h
  have hmatch := List.find?_some hentry
  simp only [Bool.and_eq_true, beq_iff_eq] at hmatch
  exact ⟨List.mem_map_of_mem (List.mem_of_find?_eq_some hentry), hmatch.1.1, hmatch.1.2, hmatch.2⟩

theorem plannedCommand_none {outbox : List CommandOutboxRecord} {operation : WasmExecutionOperation}
    {proof : AdmissionProofV1} {command planned : ExecutionCommand} (h : plannedCommand outbox operation proof = none)
    (hoperation : command.operation = operation) (hadmitted : command.PlannedFor proof)
    (hplanned : planned ∈ commandsOf outbox) : ¬ planned.Repeats command := by
  rintro ⟨hsame, hversion, hpackage⟩
  obtain ⟨entry, hentry, rfl⟩ := List.mem_map.mp hplanned
  unfold plannedCommand at h
  refine List.find?_eq_none.mp (Option.map_eq_none_iff.mp h) entry hentry ?_
  simp only [Bool.and_eq_true, beq_iff_eq]
  exact ⟨⟨hsame.trans hoperation, hversion.trans hadmitted.versionId⟩, hpackage.trans hadmitted.packageDigest⟩

/-! ## Reconciliation -/

/-- What is known of the fences during a reconciliation: the steps to those in memory. -/
def FencesAhead (V : SupervisorView σ) (visible : List AdmissionProofV1) (memory : ReconcileMemory) (fences : WasmFences)
    (channel : σ) : Prop :=
  ReflTransGen (FenceStep visible (V.settled channel) (commandsOf memory.state.commandOutbox)) fences memory.fences

/-- What a reconciliation holds. -/
def Reconciling (V : SupervisorView σ) (visible : List AdmissionProofV1) (memory : ReconcileMemory)
    (world : KernelWorld σ) : Prop :=
  world.Holds visible memory.state memory.applications (FencesAhead V visible memory)

/-- Plan a command and save it. -/
theorem authorizeAndSave_runs {host : HostClock} {registryFile : WasmRouteRegistryFile} {input : KernelCommandPlanInput}
    {memory : ReconcileMemory} (happlications : ApplicationsGrow memory.applications applications)
    (hplans : ∀ command : ExecutionCommand, command.PlannedFrom input →
      Plans visible (commandsOf memory.state.commandOutbox) command) :
    RunsOn (KernelWrite A V) start (Reconciling V visible memory)
      (authorizeAndSave R host registryFile input applications memory)
      (fun planned w => Reconciling V visible planned.2 w ∧ planned.1.PlannedFrom input ∧ planned.2.fences = memory.fences ∧
        commandsOf planned.2.state.commandOutbox = commandsOf memory.state.commandOutbox ++ [planned.1])
      fun _ w => w.visible = visible := by
  unfold authorizeAndSave
  refine RunsOn.bind (Q := fun command w => Reconciling V visible memory w ∧ command.PlannedFrom input)
    (RunsOn.lift (fun w command hw hcommand => ⟨hw, planExecutionCommand_plannedFrom hcommand⟩)
      fun w e hw _ => hw.visible) fun command => ?_
  dsimp only
  refine RunsOn.assume (fun w hw => hw.2) fun hcommand => ?_
  refine RunsOn.bind (Q := fun state' w => Reconciling V visible memory w ∧
      state'.controlRevision = memory.state.controlRevision + 1 ∧ ∃ createdAt,
        state'.commandOutbox = memory.state.commandOutbox ++ [pendingEntry command createdAt])
    (RunsOn.lift (fun w state' hw hstate => ?_) fun w e hw _ => hw.1.visible) fun state' => ?_
  · obtain ⟨hrevision, houtbox⟩ := authorizeCommand_eq_ok hstate
    exact ⟨hw.1, hrevision, _, houtbox⟩
  · refine RunsOn.assume (fun w hw => hw.2) fun hstate => ?_
    obtain ⟨hrevision, createdAt, houtbox⟩ := hstate
    have hmutates (done : Completions) : Mutates visible done memory.state memory.applications state' applications := by
      refine ⟨hrevision, happlications, ?_⟩
      rw [houtbox]
      exact .planned (hplans command hcommand)
    have hcommands : commandsOf state'.commandOutbox = commandsOf memory.state.commandOutbox ++ [command] := by
      rw [houtbox]
      exact List.map_append
    refine RunsOn.bind ((saveMutation_runs registryFile fun _ _ _ => hmutates _).consequence (fun _ hw => hw.1) (fun _ _ hw => hw)
      fun _ _ hw => hw.visible) fun _ => RunsOn.pure fun w hw => ⟨⟨hw.visible, hw.outbox, hw.file, ?_⟩, hcommand, rfl,
        hcommands⟩
    refine FenceStep.mono (fun planned hplanned => ?_) hw.known
    rw [hcommands]
    exact List.mem_append_left _ hplanned

/-- A version has its Prepare in the outbox, an older one or a new one; the Starts are the old ones. -/
theorem plannedPrepare_runs {host : HostClock} {registryFile : WasmRouteRegistryFile} {proof : AdmissionProofV1}
    {memory : ReconcileMemory} (hproof : proof ∈ visible) :
    RunsOn (KernelWrite A V) start (Reconciling V visible memory) (plannedPrepare R host registryFile proof memory)
      (fun planned w => Reconciling V visible planned.2 w ∧ planned.2.fences = memory.fences ∧
        (∀ command ∈ commandsOf planned.2.state.commandOutbox, command.operation = .start →
          command ∈ commandsOf memory.state.commandOutbox) ∧
        PlannedAs planned.2.state.commandOutbox .prepare proof planned.1) fun _ w => w.visible = visible := by
  unfold plannedPrepare
  split
  · rename_i prepare hprepare
    exact RunsOn.pure fun w hw => ⟨hw, rfl, fun command hcommand _ => hcommand, plannedCommand_some hprepare⟩
  · rename_i hnone
    dsimp only
    refine RunsOn.bind (((ensureInitialSecretSnapshot_files proof 1 host.nowEpochMillis).runs
      KernelWorld.Holds.congr).consequence (fun _ hw => hw) (fun _ _ hw => hw) fun _ _ hw => hw.visible) fun snapshot => ?_
    refine (authorizeAndSave_runs (.refl _) fun command hcommand => ?_).consequence (fun _ hw => hw) (fun planned w hw => ?_)
      fun _ _ hw => hw
    · have hprepare : command.operation = .prepare := hcommand.operation
      refine ⟨.inl hprepare, ⟨proof, hproof, hcommand.admitted⟩, fun planned hplanned => ?_, fun hstart => ?_⟩
      · exact plannedCommand_none hnone hprepare hcommand.admitted hplanned
      · rw [hprepare] at hstart
        cases hstart
    · obtain ⟨hw, hcommand, hfences, hcommands⟩ := hw
      have hprepare : planned.1.operation = .prepare := hcommand.operation
      refine ⟨hw, hfences, fun command hmem hstart => ?_, ?_, hprepare, hcommand.admitted.versionId,
        hcommand.admitted.packageDigest⟩
      · rw [hcommands] at hmem
        rcases List.mem_append.mp hmem with hold | hnew
        · exact hold
        · obtain rfl := List.mem_singleton.mp hnew
          rw [hprepare] at hstart
          cases hstart
      · rw [hcommands]
        exact List.mem_append_right _ (List.mem_singleton_self planned.1)

theorem nextGenerations_start {current next : WasmExecutionIdentityV1} (h : nextGenerations .start current = .ok next) :
    next = { current with executionGeneration := current.executionGeneration + 1 } := by
  unfold nextGenerations executionGenerationTransition at h
  obtain ⟨_, _, h⟩ := bind_eq_ok.mp h
  obtain ⟨_, _, h⟩ := bind_eq_ok.mp h
  exact (Except.ok.inj h).symm

/-- The Start of a version is planned after its Prepare. -/
theorem planStart_runs {host : HostClock} {registryFile : WasmRouteRegistryFile} {proof : AdmissionProofV1}
    {prepare : ExecutionCommand} {memory : ReconcileMemory} (hproof : proof ∈ visible)
    (hprepare : PlannedAs memory.state.commandOutbox .prepare proof prepare)
    (hfresh : ∀ command : ExecutionCommand, command.operation = .start → command.PlannedFor proof →
      ∀ planned ∈ commandsOf memory.state.commandOutbox, ¬ planned.Repeats command) :
    RunsOn (KernelWrite A V) start (Reconciling V visible memory) (planStart R host registryFile proof prepare memory)
      (fun planned w => Reconciling V visible planned.2 w ∧ planned.2.fences = memory.fences ∧
        PlannedAs planned.2.state.commandOutbox .start proof planned.1) fun _ w => w.visible = visible := by
  unfold planStart
  refine RunsOn.bind (Q := fun _ => Reconciling V visible memory) (RunsOn.lift (fun _ _ hw _ => hw)
    fun _ _ hw _ => hw.visible) fun _ => ?_
  dsimp only
  refine (authorizeAndSave_runs (setLifecycle_grows _ _ _ _) fun command hcommand => ?_).consequence (fun _ hw => hw)
    (fun planned w hw => ?_) fun _ _ hw => hw
  · have hstart : command.operation = .start := hcommand.operation
    have hidentity := nextGenerations_start hcommand.generations
    refine ⟨.inr hstart, ⟨proof, hproof, hcommand.admitted⟩, hfresh command hstart hcommand.admitted, fun _ =>
      ⟨prepare, hprepare.planned, hprepare.operation, ?_⟩⟩
    exact ⟨hidentity, hcommand.admitted.packageDigest.trans hprepare.packageDigest.symm, hcommand.secretRevision,
      hcommand.secretSnapshotRef, hcommand.secretValuesDigest, hcommand.configRevision, hcommand.configSnapshotRef,
      hcommand.configValuesDigest⟩
  · obtain ⟨hw, hcommand, hfences, hcommands⟩ := hw
    refine ⟨hw, hfences, ?_, hcommand.operation, hcommand.admitted.versionId, hcommand.admitted.packageDigest⟩
    rw [hcommands]
    exact List.mem_append_right _ (List.mem_singleton_self planned.1)

/-- A version has its Start in the outbox, an older one or a new one. -/
theorem plannedStart_runs {host : HostClock} {registryFile : WasmRouteRegistryFile} {proof : AdmissionProofV1}
    {memory : ReconcileMemory} (hproof : proof ∈ visible) :
    RunsOn (KernelWrite A V) start (Reconciling V visible memory) (plannedStart R host registryFile proof memory)
      (fun planned w => Reconciling V visible planned.2 w ∧ planned.2.fences = memory.fences ∧
        PlannedAs planned.2.state.commandOutbox .start proof planned.1) fun _ w => w.visible = visible := by
  unfold plannedStart
  split
  · rename_i planned hplanned
    exact RunsOn.pure fun w hw => ⟨hw, rfl, plannedCommand_some hplanned⟩
  · rename_i hnone
    refine RunsOn.bind (plannedPrepare_runs hproof) fun prepared => ?_
    dsimp only
    refine RunsOn.assume (fun w hw => hw.2) fun hprepared => ?_
    obtain ⟨hfences, hstarts, hprepare⟩ := hprepared
    refine (planStart_runs hproof hprepare fun command hstart hadmitted planned hplanned hrepeats => ?_).consequence
      (fun _ hw => hw.1) (fun planned w hw => ⟨hw.1, hw.2.1.trans hfences, hw.2.2⟩) fun _ _ hw => hw
    exact plannedCommand_none hnone hstart hadmitted (hstarts planned hplanned (hrepeats.1.trans hstart)) hrepeats

/-- The fence of a planned Start is entered. -/
theorem enterFence_runs {registryFile : WasmRouteRegistryFile} {proof : AdmissionProofV1} {planned : ExecutionCommand}
    {memory : ReconcileMemory} (hproof : proof ∈ visible)
    (hplanned : PlannedAs memory.state.commandOutbox .start proof planned)
    (hnone : fenceOf memory.fences proof.applicationId proof.versionId = none) :
    RunsOn (KernelWrite A V) start (Reconciling V visible memory) (enterFence registryFile proof planned memory)
      (fun entered => Reconciling V visible entered) fun _ w => w.visible = visible := by
  have henter (w : KernelWorld σ) (hw : w.Holds visible memory.state memory.applications (FencesAhead V visible memory)) :
      w.Holds visible memory.state memory.applications (FencesAhead V visible { memory with
        fences := withCurrentFence memory.fences proof (fenceFromPlannedStart planned "preparing")
        fencesDirty := true }) := by
    refine ⟨hw.visible, hw.outbox, hw.file, hw.known.tail ?_⟩
    exact .entered hproof hplanned.planned hplanned.operation hplanned.versionId hnone
  unfold enterFence
  dsimp only
  split
  · exact RunsOn.pure henter
  · split
    · exact RunsOn.pure henter
    · refine RunsOn.bind (Q := fun state' w => Reconciling V visible memory w ∧
        advanceControlRevision memory.state = .ok state') (RunsOn.lift (fun w a hw ha => ⟨hw, ha⟩)
        fun w e hw _ => hw.visible) fun state' => RunsOn.assume (fun w hw => hw.2) fun hadvance => ?_
      have hmutates (done : Completions) : Mutates visible done memory.state memory.applications state'
          (setLifecycle memory.applications proof.applicationId proof.versionId "preparing") :=
        .of_advance hadvance (setLifecycle_grows _ _ _ _)
      refine RunsOn.bind ((saveMutation_runs registryFile fun _ _ _ => hmutates _).consequence (fun _ hw => henter _ hw.1)
        (fun _ _ hw => hw) fun _ _ hw => hw.visible) fun _ => RunsOn.pure fun w hw => ?_
      obtain rfl := advanceControlRevision_eq_ok hadvance
      exact ⟨hw.visible, hw.outbox, hw.file, hw.known⟩

theorem reconcileProof_runs {host : HostClock} {registryFile : WasmRouteRegistryFile} {proof : AdmissionProofV1}
    {memory : ReconcileMemory} (hproof : proof ∈ visible) :
    RunsOn (KernelWrite A V) start (Reconciling V visible memory) (reconcileProof R host registryFile proof memory)
      (fun reconciled => Reconciling V visible reconciled) fun _ w => w.visible = visible := by
  unfold reconcileProof
  refine RunsOn.bind (((persistAdmissionPolicy_files proof).runs KernelWorld.Holds.congr).consequence (fun _ hw => hw)
    (fun _ _ hw => hw) fun _ _ hw => hw.visible) fun _ => ?_
  refine RunsOn.bind (Q := fun _ => Reconciling V visible memory) (RunsOn.lift (fun _ _ hw _ => hw)
    fun _ _ hw _ => hw.visible) fun _ => ?_
  split
  · exact RunsOn.lift (fun _ _ hw hresult => by cases hresult) fun _ _ hw _ => hw.visible
  · split
    · exact RunsOn.lift (fun _ _ hw hresult => by cases hresult) fun _ _ hw _ => hw.visible
    · split
      · exact RunsOn.pure fun w hw => hw
      · rename_i hnone
        have hnofence : fenceOf memory.fences proof.applicationId proof.versionId = none := by simpa using hnone
        refine RunsOn.bind (plannedStart_runs hproof) fun planned => ?_
        dsimp only
        refine RunsOn.assume (fun w hw => hw.2) fun hplanned => ?_
        refine (enterFence_runs hproof hplanned.2 ?_).pre fun _ hw => hw.1
        rw [hplanned.1]
        exact hnofence

theorem reconcileProofs_runs {host : HostClock} {registryFile : WasmRouteRegistryFile} {proofs : List AdmissionProofV1}
    (hproofs : ∀ proof ∈ proofs, proof ∈ visible) (memory : ReconcileMemory) :
    RunsOn (KernelWrite A V) start (Reconciling V visible memory) (reconcileProofs R host registryFile proofs memory)
      (fun reconciled => Reconciling V visible reconciled) fun _ w => w.visible = visible := by
  induction proofs generalizing memory with
  | nil => exact RunsOn.pure fun w hw => hw
  | cons proof proofs ih =>
    exact RunsOn.bind (reconcileProof_runs (hproofs proof (List.mem_cons_self ..))) fun reconciled =>
      ih (fun later hlater => hproofs later (List.mem_cons_of_mem _ hlater)) reconciled

/-- The fences of a reconciliation are saved in one write, with the fences of every version it planned. -/
theorem reconcileVisibleExecutionState_runs (host : HostClock) :
    RunsOn (KernelWrite A V) start (fun w => w.visible = visible) (reconcileVisibleExecutionState A R host : KernelM σ _)
      (fun _ w => w.visible = visible) fun _ w => w.visible = visible := by
  unfold reconcileVisibleExecutionState
  refine RunsOn.bind (loadControlState_runs (I := Unknown) fun w hw => ⟨hw, trivial⟩) fun loaded => ?_
  refine RunsOn.bind (Q := fun fences => KernelWorld.Holds visible loaded.state loaded.applications (fun known _ => known = fences))
    ?_ fun fences => ?_
  · refine RunsOn.bind (Q := fun result w => w.Holds visible loaded.state loaded.applications Unknown ∧
      result = w.loadFencesFile) (RunsOn.read fun w hw => ⟨hw, rfl⟩) fun result =>
        RunsOn.lift (fun w fences hw hresult => ?_) fun _ _ hw _ => hw.1.visible
    obtain ⟨hw, rfl⟩ := hw
    unfold KernelWorld.loadFencesFile at hresult
    obtain ⟨_, _, hresult⟩ := bind_eq_ok.mp hresult
    exact ⟨hw.visible, hw.outbox, hw.file, Except.ok.inj hresult⟩
  · refine RunsOn.bind (Q := fun proofs w => w.Holds visible loaded.state loaded.applications (fun known _ => known = fences) ∧
      proofs = visible) (RunsOn.read fun w hw => ⟨hw, hw.visible⟩) fun proofs => ?_
    refine RunsOn.assume (fun w hw => hw.2) fun hproofs => ?_
    have hmem : ∀ proof ∈ proofs, proof ∈ visible := fun proof hproof => hproofs ▸ hproof
    refine RunsOn.bind ((reconcileProofs_runs hmem _).pre
      fun w hw => ⟨hw.1.visible, hw.1.outbox, hw.1.file, ?_⟩) fun memory => ?_
    · rw [hw.1.known]
      exact .refl
    · split
      · refine RunsOn.write (fun w hw => .fences ?_ rfl rfl rfl) (fun w _ hw _ => hw.visible) fun w _ hw _ => hw.visible
        have hfences := hw.known
        unfold FencesAhead commandsOf at hfences
        rw [← hw.outbox] at hfences
        rw [hw.visible]
        exact hfences
      · exact RunsOn.pure fun w hw => hw.visible

/-! ## Requests to the supervisor -/

/-- What a request to the supervisor leaves. -/
structure Beside (V : SupervisorView σ) (w w' : KernelWorld σ) : Prop where
  control : w'.control = w.control
  fences : w'.fences = w.fences
  visible : w'.visible = w.visible
  channel : V.reaches w.channel w'.channel

/-- A request respects what it leaves alone; the answer may say something of the supervisor. -/
theorem callSupervisor_runs {request : σ → σ × Except KernelError α} {P : KernelWorld σ → Prop} {T : α → σ → Prop}
    (hreaches : ∀ channel, V.reaches channel (request channel).1)
    (hP : ∀ w w', Beside V w w' → P w → P w')
    (hT : ∀ channel answer, (request channel).2 = .ok answer → T answer (request channel).1) :
    RunsOn (KernelWrite A V) start P (callSupervisor request) (fun answer w => P w ∧ T answer w.channel)
      fun _ => P := by
  have hbeside (w : KernelWorld σ) : Beside V w { w with channel := (request w.channel).1 } :=
    ⟨rfl, rfl, rfl, hreaches w.channel⟩
  refine RunsOn.write (fun w hw => ?_) (fun w answer hw hanswer => ?_) fun w _ hw _ => ?_
  · exact .beside rfl rfl rfl (hreaches w.channel)
  · exact ⟨hP w _ (hbeside w) hw, hT w.channel answer hanswer⟩
  · exact hP w _ (hbeside w) hw

variable {P : KernelWorld σ → Prop}

/-- A parsed query result acknowledges the command that was asked for. -/
theorem parseCommandQueryResult_eq_ok {query : CommandQueryResultV1} (h : parseCommandQueryResult R query = .ok ())
    {ack : ExecutionAcknowledgement} (hack : query.acknowledgement = some ack) : ack.commandId = query.commandId := by
  unfold parseCommandQueryResult at h
  obtain ⟨_, _, h⟩ := bind_eq_ok.mp h
  obtain ⟨_, _, h⟩ := bind_eq_ok.mp h
  obtain ⟨_, _, h⟩ := bind_eq_ok.mp h
  rw [hack] at h
  unfold checkOptional checkQueriedAcknowledgement at h
  obtain ⟨_, _, h⟩ := bind_eq_ok.mp h
  simpa only [require_eq_ok, beq_iff_eq] using h

/-- What a parsed query result acknowledges is settled. -/
theorem queryCommand_runs (hC : C.Truthful V) (commandId : String) (hP : ∀ w w', Beside V w w' → P w → P w') :
    RunsOn (KernelWrite A V) start P (queryCommand R C commandId)
      (fun query w => P w ∧ ∀ ack, query.acknowledgement = some ack → Evident (V.settled w.channel) ack) fun _ => P := by
  unfold queryCommand
  refine RunsOn.bind (callSupervisor_runs (T := fun query channel => ∀ ack, query.acknowledgement = some ack →
    ack.commandId = query.commandId → Evident (V.settled channel) ack) (hC.queryReaches commandId) hP
      fun channel query hquery ack => hC.query commandId channel query ack hquery) fun query => ?_
  refine RunsOn.bind (Q := fun _ w => P w ∧ ∀ ack, query.acknowledgement = some ack → Evident (V.settled w.channel) ack)
    (RunsOn.lift (fun _ _ hw hparsed => ⟨hw.1, fun ack hack => ?_⟩) fun _ _ hw _ => hw.1) fun _ => RunsOn.pure fun _ hw => hw
  exact hw.2 ack hack (parseCommandQueryResult_eq_ok hparsed hack)

/-- A parsed acknowledgement of a delivery repeats the command, and it is settled. -/
theorem postCommand_runs (hC : C.Truthful V) (mode : DeliveryMode) (command : ExecutionCommand)
    (hP : ∀ w w', Beside V w w' → P w → P w') :
    RunsOn (KernelWrite A V) start P (postCommand C mode command)
      (fun ack w => P w ∧ Evident (V.settled w.channel) ack ∧ correlateAcknowledgement command ack = .ok ()) fun _ => P := by
  unfold postCommand
  refine RunsOn.bind (callSupervisor_runs (T := fun ack channel =>
    correlateAcknowledgement command ack = .ok () → Evident (V.settled channel) ack)
    (hC.deliverReaches mode command) hP fun channel ack hack => hC.deliver mode command channel ack hack) fun ack => ?_
  refine RunsOn.bind (Q := fun _ w => P w ∧ (correlateAcknowledgement command ack = .ok () →
    Evident (V.settled w.channel) ack)) (RunsOn.lift (fun _ _ hw _ => hw) fun _ _ hw _ => hw.1) fun _ => ?_
  refine RunsOn.bind (Q := fun _ w => P w ∧ Evident (V.settled w.channel) ack ∧ correlateAcknowledgement command ack = .ok ())
    (RunsOn.lift (fun _ _ hw hresult => ⟨hw.1, hw.2 hresult, hresult⟩) fun _ _ hw _ => hw.1) fun _ =>
      RunsOn.pure fun _ hw => hw

theorem deliverSnapshots_runs (hC : C.Truthful V) (command : ExecutionCommand) (now : Nat)
    (hP : ∀ w w', Beside V w w' → P w → P w') :
    RunsOn (KernelWrite A V) start P (deliverSnapshotsBeforeExecution R C command now) (fun _ => P) fun _ => P := by
  have hlift {β : Type} (x : Except KernelError β) : RunsOn (KernelWrite A V) start P (Prog.lift x : KernelM σ β)
      (fun _ => P) fun _ => P := RunsOn.lift (fun _ _ hw _ => hw) fun _ _ hw _ => hw
  unfold deliverSnapshotsBeforeExecution
  split
  · refine RunsOn.bind (RunsOn.look _) fun proofs => ?_
    split
    · exact hlift _
    · refine RunsOn.bind (RunsOn.look _) fun secret => RunsOn.bind (hlift _) fun _ => ?_
      refine RunsOn.bind (callSupervisor_runs (T := fun _ _ => True) (hC.handoffReaches command) hP
        fun _ _ _ => trivial) fun _ => (hlift _).pre fun _ hw => hw.1
  · exact RunsOn.pure fun _ hw => hw

/-! ## Deliveries -/

/-- A noted attempt changes its open entry only. -/
theorem recordDeliveryAttempt_eq_ok {expected : Nat} {commandId attemptedAt : String}
    (h : state.recordDeliveryAttempt expected commandId attemptedAt = .ok state') :
    state' = state ∨ ∀ done, Mutates visible done state applications state' applications := by
  unfold WasmCommandControlState.recordDeliveryAttempt at h
  obtain ⟨_, hrevision, h⟩ := bind_eq_ok.mp h
  have hhead := checkControlRevision_eq_ok hrevision
  split at h
  · cases h
  · rename_i entry hentry
    obtain ⟨_, _, h⟩ := bind_eq_ok.mp h
    have hnoted (hopen : entry.deliveryState.LeadsTo .sent)
        (hstate : state' = { state with
          commandOutbox := updateEntry commandId (fun entry => { entry with
            deliveryState := .sent
            attempts := entry.attempts + 1
            lastAttemptAt := some attemptedAt }) state.commandOutbox
          controlRevision := expected + 1 }) (done : Completions) : Mutates visible done state applications state' applications := by
      subst hstate
      refine ⟨congrArg (· + 1) hhead.symm, .refl _, .noted fun found hfound => ⟨?_, fun hclosed => by cases hclosed⟩⟩
      rw [hentry] at hfound
      cases hfound
      exact ⟨rfl, rfl, hopen⟩
    split at h
    · cases h
    · exact .inl (Except.ok.inj h).symm
    · rename_i hpending
      obtain ⟨_, _, h⟩ := bind_eq_ok.mp h
      exact .inr (hnoted (.inr (.inl ⟨hpending, rfl⟩)) (Except.ok.inj h).symm)
    · rename_i hsent
      obtain ⟨_, _, h⟩ := bind_eq_ok.mp h
      exact .inr (hnoted (.inl hsent) (Except.ok.inj h).symm)

/-- A projected acknowledgement closes its open entry, whose command it repeats. -/
theorem projectAcknowledgement_eq_ok {expected : Nat} {ack : ExecutionAcknowledgement} {done : Completions}
    (h : state.projectAcknowledgement expected ack = .ok (state', .projected)) (hevident : Evident done ack) :
    Mutates visible done state applications state' applications := by
  unfold WasmCommandControlState.projectAcknowledgement at h
  obtain ⟨_, hrevision, h⟩ := bind_eq_ok.mp h
  have hhead := checkControlRevision_eq_ok hrevision
  obtain ⟨_, _, h⟩ := bind_eq_ok.mp h
  split at h
  · cases h
  · rename_i entry hentry
    obtain ⟨_, hcorrelate, h⟩ := bind_eq_ok.mp h
    have hclosed (hopen : entry.deliveryState.LeadsTo .acknowledged)
        (hstate : state' = { state with
          commandOutbox := updateEntry ack.commandId (fun entry => { entry with deliveryState := .acknowledged })
            state.commandOutbox
          controlRevision := expected + 1 }) : Mutates visible done state applications state' applications := by
      subst hstate
      refine ⟨congrArg (· + 1) hhead.symm, .refl _, .noted fun found hfound => ?_⟩
      rw [hentry] at hfound
      cases hfound
      exact ⟨⟨rfl, rfl, hopen⟩, fun _ => ⟨ack, hevident entry.command hcorrelate⟩⟩
    split at h
    · cases h
    · cases h
    · rename_i hpending
      obtain ⟨_, _, h⟩ := bind_eq_ok.mp h
      obtain ⟨_, _, h⟩ := bind_eq_ok.mp h
      exact hclosed (.inr (.inr (.inl ⟨hpending, rfl⟩))) (Prod.ext_iff.mp (Except.ok.inj h)).1.symm
    · rename_i hsent
      obtain ⟨_, _, h⟩ := bind_eq_ok.mp h
      obtain ⟨_, _, h⟩ := bind_eq_ok.mp h
      exact hclosed (.inr (.inr (.inr ⟨hsent, rfl⟩))) (Prod.ext_iff.mp (Except.ok.inj h)).1.symm

/-- A round holds its own control state. -/
def Delivering (visible : List AdmissionProofV1) (applications : WasmApplications) (memory : DeliveryMemory)
    (I : WasmFences → σ → Prop) (world : KernelWorld σ) : Prop :=
  world.Holds visible memory.state applications I

theorem Delivering.congr {memory : DeliveryMemory} (w w' : KernelWorld σ) (hsame : w'.machineFiles = w.machineFiles)
    (h : Delivering visible applications memory I w) : Delivering visible applications memory I w' :=
  KernelWorld.Holds.congr w w' hsame h

theorem Delivering.forget {memory : DeliveryMemory} {w : KernelWorld σ}
    (h : Delivering visible applications memory I w) : Delivering visible applications memory Unknown w :=
  ⟨h.visible, h.outbox, h.file, trivial⟩

theorem Delivering.beside {memory : DeliveryMemory} (w w' : KernelWorld σ) (hbeside : Beside V w w')
    (h : Delivering visible applications memory Unknown w) : Delivering visible applications memory Unknown w' :=
  ⟨hbeside.visible.trans h.visible, (KernelWorld.outbox_congr hbeside.control).trans h.outbox,
    fun file hfile => h.file file (hbeside.control.symm.trans hfile), trivial⟩

/-- The acknowledgement is evident. -/
def KnownAck (V : SupervisorView σ) (ack : ExecutionAcknowledgement) : WasmFences → σ → Prop :=
  fun _ channel => Evident (V.settled channel) ack

theorem persistOutboxDeliveryMutation_runs {memory : DeliveryMemory}
    (h : ∀ fences channel, I fences channel →
      Mutates visible (V.settled channel) memory.state applications state' applications) :
    RunsOn (KernelWrite A V) start (Delivering visible applications memory I)
      (persistOutboxDeliveryMutation memory.state.controlRevision state' applications memory)
      (fun memory' w => Delivering visible applications memory' I w ∧ memory'.state = state') fun _ w => w.visible = visible :=
  RunsOn.bind ((saveMutation_runs _ h).consequence (fun _ hw => hw) (fun _ _ hw => hw) fun _ _ hw => hw.visible)
    fun _ => RunsOn.pure fun _ hw => ⟨hw, rfl⟩

theorem recordAttempt_runs {now : Nat} {commandId : String} {memory : DeliveryMemory} :
    RunsOn (KernelWrite A V) start (Delivering visible applications memory Unknown)
      (recordAttempt now commandId applications memory) (fun memory' => Delivering visible applications memory' Unknown)
      fun _ w => w.visible = visible := by
  unfold recordAttempt
  dsimp only
  split
  · exact RunsOn.pure fun _ hw => hw
  · rename_i state' hstate
    split
    · rename_i hchanged
      have hcases : state' = memory.state ∨ ∀ done, Mutates visible done memory.state applications state' applications :=
        recordDeliveryAttempt_eq_ok hstate
      rcases hcases with rfl | hmutates
      · exact absurd rfl hchanged
      · exact (persistOutboxDeliveryMutation_runs fun _ _ _ => hmutates _).consequence (fun _ hw => hw)
          (fun _ _ hw => hw.1) fun _ _ hw => hw
    · exact RunsOn.pure fun _ hw => hw

theorem fenceOf_insert {fences : WasmFences} {applicationId versionId : String} {application : WasmApplicationFenceV1}
    (happlication : fences[applicationId]? = some application) (fence : WasmFenceRecordV1)
    (applicationId' versionId' : String) :
    fenceOf (fences.insert applicationId { application with records := application.records.insert versionId fence })
        applicationId' versionId' =
      if applicationId' = applicationId ∧ versionId' = versionId then some fence
      else fenceOf fences applicationId' versionId' := by
  unfold fenceOf
  by_cases hsame : applicationId' = applicationId
  · subst hsame
    rw [FiniteMap.getElem?_insert_self, happlication, Option.bind_eq_bind, Option.bind_some, FiniteMap.getElem?_insert]
    by_cases hversion : versionId' = versionId
    · rw [if_pos hversion, if_pos ⟨rfl, hversion⟩]
    · rw [if_neg hversion, if_neg (fun h => hversion h.2)]
      rfl
  · rw [FiniteMap.getElem?_insert_of_ne _ _ hsame, if_neg (fun h => hsame h.1)]

/-- One fence goes on, the others stay. -/
theorem FenceStep.of_insert {done : Completions} {commands : List ExecutionCommand} {fences : WasmFences}
    {applicationId versionId : String} {application : WasmApplicationFenceV1} {fence fence' : WasmFenceRecordV1}
    (happlication : fences[applicationId]? = some application) (hfence : application.records[versionId]? = some fence)
    (hcontinues : fence.Continues fence')
    (halive : fence'.alive = true → fence.alive = true ∨ StartApplied done commands applicationId versionId) :
    FenceStep visible done commands fences
      (fences.insert applicationId { application with records := application.records.insert versionId fence' }) := by
  refine .continued fun applicationId' versionId' => ?_
  rw [fenceOf_insert happlication]
  split
  · rename_i hsame
    obtain ⟨rfl, rfl⟩ := hsame
    refine .inr ⟨fence, fence', ?_, rfl, hcontinues, halive⟩
    unfold fenceOf
    rw [happlication, Option.bind_eq_bind, Option.bind_some, hfence]
  · cases hold : fenceOf fences applicationId' versionId' with
    | none => exact .inl ⟨rfl, rfl⟩
    | some old => exact .inr ⟨old, old, rfl, rfl, .refl old, .inl⟩

/-- The fence of an applied Start comes alive. -/
theorem projectStartFenceAlive_runs {memory : DeliveryMemory} {applicationId versionId : String}
    (happlied : ∀ fences channel, I fences channel →
      StartApplied (V.settled channel) (commandsOf memory.state.commandOutbox) applicationId versionId) :
    RunsOn (KernelWrite A V) start (Delivering visible applications memory I)
      (projectStartFenceAlive applicationId versionId : KernelM σ _) (fun _ => Delivering visible applications memory Unknown)
      fun _ => Delivering visible applications memory Unknown := by
  unfold projectStartFenceAlive
  refine RunsOn.bind (Q := fun fences w => Delivering visible applications memory I w ∧ w.fences = fences)
    ?_ fun fences => ?_
  · refine RunsOn.bind (Q := fun result w => Delivering visible applications memory I w ∧ result = w.loadFencesFile)
      (RunsOn.read fun w hw => ⟨hw, rfl⟩) fun result => RunsOn.lift (fun w fences hw hresult => ?_)
        fun _ _ hw _ => hw.1.forget
    obtain ⟨hw, rfl⟩ := hw
    unfold KernelWorld.loadFencesFile at hresult
    obtain ⟨_, _, hresult⟩ := bind_eq_ok.mp hresult
    exact ⟨hw, Except.ok.inj hresult⟩
  · split
    · exact RunsOn.lift (fun _ _ hw hresult => by cases hresult) fun _ _ hw _ => hw.1.forget
    · rename_i application happlication
      split
      · exact RunsOn.lift (fun _ _ hw hresult => by cases hresult) fun _ _ hw _ => hw.1.forget
      · rename_i fence hfence
        split
        · exact RunsOn.pure fun _ hw => hw.1.forget
        · rename_i hpreparing
          refine RunsOn.write (fun w hw => .fences (.single ?_) rfl rfl rfl)
            (fun w _ hw _ => ⟨hw.1.visible, hw.1.outbox, hw.1.file, trivial⟩) fun w _ _ he => by cases he
          rw [hw.2]
          refine .of_insert happlication hfence ⟨rfl, fun halive => ?_⟩ fun _ => .inr ?_
          · exact absurd (.inl halive) hpreparing
          · have hstarted := happlied w.fences w.channel hw.1.known
            unfold commandsOf at hstarted
            rwa [← hw.1.outbox] at hstarted

theorem projectStartFenceAfterAck_runs {memory : DeliveryMemory} {command : ExecutionCommand}
    {ack : ExecutionAcknowledgement} (hcommand : command ∈ commandsOf memory.state.commandOutbox)
    (hcorrelate : correlateAcknowledgement command ack = .ok ()) :
    RunsOn (KernelWrite A V) start (Delivering visible applications memory (KnownAck V ack))
      (projectStartFenceAfterAck command ack : KernelM σ _) (fun _ => Delivering visible applications memory Unknown)
      fun _ => Delivering visible applications memory Unknown := by
  unfold projectStartFenceAfterAck
  split
  · exact RunsOn.pure fun _ hw => hw.forget
  · rename_i happlied
    push Not at happlied
    exact RunsOn.ignore (projectStartFenceAlive_runs fun _ _ hknown =>
      ⟨command, hcommand, happlied.1, rfl, rfl, ack, hknown command hcorrelate, happlied.2⟩)

/-- An evident acknowledgement of a command of the outbox is projected. -/
theorem projectAndPersist_runs {command : ExecutionCommand} {ack : ExecutionAcknowledgement} {memory : DeliveryMemory}
    (hcommand : command ∈ commandsOf memory.state.commandOutbox)
    (hcorrelate : correlateAcknowledgement command ack = .ok ()) :
    RunsOn (KernelWrite A V) start (Delivering visible applications memory (KnownAck V ack))
      (projectAndPersist command ack applications memory)
      (fun memory' => Delivering visible applications memory' Unknown) fun _ w => w.visible = visible := by
  have hproject (memory : DeliveryMemory) (hcommand : command ∈ commandsOf memory.state.commandOutbox) :
      RunsOn (KernelWrite A V) start (Delivering visible applications memory (KnownAck V ack)) (do
        projectStartFenceAfterAck command ack
        return memory) (fun memory' => Delivering visible applications memory' Unknown)
        fun _ (w : KernelWorld σ) => w.visible = visible :=
    RunsOn.bind ((projectStartFenceAfterAck_runs hcommand hcorrelate).consequence (fun _ hw => hw) (fun _ _ hw => hw)
      fun _ _ hw => hw.visible) fun _ => RunsOn.pure fun _ hw => hw
  unfold projectAndPersist
  dsimp only
  split
  · exact RunsOn.pure fun _ hw => hw.forget
  · rename_i state' hstate
    have hmutates (fences : WasmFences) (channel : σ) (hknown : KnownAck V ack fences channel) :
        Mutates visible (V.settled channel) memory.state applications state' applications :=
      projectAcknowledgement_eq_ok hstate hknown
    refine RunsOn.bind (persistOutboxDeliveryMutation_runs hmutates) fun memory' => ?_
    refine RunsOn.assume (p := command ∈ commandsOf memory'.state.commandOutbox) (fun w hw => ?_) fun hcommand' =>
      (hproject memory' hcommand').pre fun _ hw => hw.1
    rw [hw.2]
    unfold commandsOf at hcommand ⊢
    rcases (hmutates w.fences w.channel hw.1.known).outbox.commands with hsame | ⟨_, happend, _⟩
    · rw [hsame]
      exact hcommand
    · rw [happend]
      exact List.mem_append_left _ hcommand
  · exact hproject memory hcommand

theorem deliverOrReplay_runs (hC : C.Truthful V) {now : Nat} {mode : DeliveryMode} {command : ExecutionCommand}
    {memory : DeliveryMemory} (hcommand : command ∈ commandsOf memory.state.commandOutbox) :
    RunsOn (KernelWrite A V) start (Delivering visible applications memory Unknown)
      (deliverOrReplay R C now mode command applications memory)
      (fun memory' => Delivering visible applications memory' Unknown) fun _ w => w.visible = visible := by
  unfold deliverOrReplay
  refine RunsOn.bind (RunsOn.attempt (deliverSnapshots_runs hC command now Delivering.beside)) fun handed => ?_
  cases handed with
  | error e => exact recordAttempt_runs.pre fun _ hw => hw.2 e rfl
  | ok _ =>
    refine RunsOn.bind ((RunsOn.attempt (postCommand_runs hC mode command Delivering.beside)).pre
      fun _ hw => hw.1 _ rfl) fun posted => ?_
    cases posted with
    | error e => exact recordAttempt_runs.pre fun _ hw => hw.2 e rfl
    | ok ack =>
      refine RunsOn.assume (p := correlateAcknowledgement command ack = .ok ()) (fun w hw => (hw.1 ack rfl).2.2)
        fun hcorrelate => ?_
      have hknown : command ∈ commandsOf (memory.saw (some ack.journalRevision)).state.commandOutbox := hcommand
      refine (projectAndPersist_runs hknown hcorrelate).pre fun w hw => ?_
      obtain ⟨hholds, hevident, _⟩ := hw.1 ack rfl
      exact ⟨hholds.visible, hholds.outbox, hholds.file, hevident⟩

/-- The acknowledgement of an observation repeats the command. -/
theorem journalObservation_completed {command : ExecutionCommand} {query : CommandQueryResultV1}
    {ack : ExecutionAcknowledgement} (h : journalObservationFromQuery R command query = .ok (.completed ack)) :
    query.acknowledgement = some ack ∧ correlateAcknowledgement command ack = .ok () := by
  unfold journalObservationFromQuery at h
  obtain ⟨_, _, h⟩ := bind_eq_ok.mp h
  split at h
  · cases h
  · obtain ⟨_, _, h⟩ := bind_eq_ok.mp h
    cases h
  · obtain ⟨_, _, h⟩ := bind_eq_ok.mp h
    split at h
    · cases h
    · rename_i stored hstored
      obtain ⟨_, hcorrelate, h⟩ := bind_eq_ok.mp h
      cases h
      exact ⟨hstored, hcorrelate⟩

/-- What a round knows after an observation. -/
def Observed (V : SupervisorView σ) (command : ExecutionCommand) (observation : Option JournalObservation)
    (channel : σ) : Prop :=
  ∀ ack, observation = some (.completed ack) →
    Evident (V.settled channel) ack ∧ correlateAcknowledgement command ack = .ok ()

theorem observeCommand_runs (hC : C.Truthful V) {command : ExecutionCommand} {memory : DeliveryMemory} :
    RunsOn (KernelWrite A V) start (Delivering visible applications memory Unknown)
      (observeCommand R C command memory)
      (fun observed w => Delivering visible applications observed.1 Unknown w ∧ observed.1.state = memory.state ∧
        Observed V command observed.2 w.channel) fun _ w => w.visible = visible := by
  unfold observeCommand
  refine RunsOn.bind (RunsOn.attempt (queryCommand_runs hC command.commandId Delivering.beside)) fun answer => ?_
  cases answer with
  | error e => exact RunsOn.pure fun w hw => ⟨hw.2 e rfl, rfl, fun ack hack => by cases hack⟩
  | ok query =>
    dsimp only
    split
    · exact RunsOn.pure fun w hw => ⟨(hw.1 query rfl).1, rfl, fun ack hack => by cases hack⟩
    · rename_i observation hobservation
      refine RunsOn.pure fun w hw => ⟨(hw.1 query rfl).1, rfl, fun ack hack => ?_⟩
      cases hack
      obtain ⟨hstored, hcorrelate⟩ := journalObservation_completed hobservation
      exact ⟨(hw.1 query rfl).2 ack hstored, hcorrelate⟩

/-- Only the acknowledgement of the journal is projected. -/
theorem decideReconciliation_project {outbox : CommandOutboxRecord} {observation : JournalObservation}
    {ack : ExecutionAcknowledgement} (h : decideReconciliation outbox observation = .ok (.projectAcknowledgement ack)) :
    observation = .completed ack := by
  unfold decideReconciliation at h
  split at h
  · cases h
  · cases h
  · split at h
    · cases h
    · cases h
    · obtain ⟨_, _, h⟩ := bind_eq_ok.mp h
      cases h
      rfl
  · split at h
    · cases h
    · cases h
    · obtain ⟨_, _, h⟩ := bind_eq_ok.mp h
      cases h
      rfl

theorem deliverCommand_runs (hC : C.Truthful V) {now : Nat} (commandId : String) (memory : DeliveryMemory) :
    RunsOn (KernelWrite A V) start (Delivering visible applications memory Unknown)
      (deliverCommand R C now applications commandId memory)
      (fun memory' => Delivering visible applications memory' Unknown) fun _ w => w.visible = visible := by
  unfold deliverCommand
  split
  · exact RunsOn.pure fun _ hw => hw
  · rename_i outbox houtbox
    have hcommand : outbox.command ∈ commandsOf memory.state.commandOutbox :=
      List.mem_map_of_mem (List.mem_of_find?_eq_some houtbox)
    refine RunsOn.bind (observeCommand_runs hC) fun observed => ?_
    obtain ⟨memory', observation⟩ := observed
    refine RunsOn.assume (p := outbox.command ∈ commandsOf memory'.state.commandOutbox) (fun w hw => ?_) fun hcommand' => ?_
    · rw [hw.2.1]
      exact hcommand
    have hkeep {m : KernelM σ DeliveryMemory} (hm : RunsOn (KernelWrite A V) start
        (Delivering visible applications memory' Unknown) m
        (fun memory' => Delivering visible applications memory' Unknown) fun _ w => w.visible = visible) :
        RunsOn (KernelWrite A V) start (fun w => Delivering visible applications memory' Unknown w ∧
          memory'.state = memory.state ∧ Observed V outbox.command observation w.channel) m
        (fun memory' => Delivering visible applications memory' Unknown) fun _ w => w.visible = visible :=
      hm.pre fun _ hw => hw.1
    cases observation with
    | none => exact hkeep recordAttempt_runs
    | some observation =>
      dsimp only
      split
      · exact RunsOn.pure fun _ hw => hw.1
      · exact RunsOn.pure fun _ hw => hw.1
      · rename_i ack hdecided
        obtain rfl := decideReconciliation_project hdecided
        refine RunsOn.assume (p := correlateAcknowledgement outbox.command ack = .ok ()) (fun w hw => (hw.2.2 ack rfl).2)
          fun hcorrelate => ?_
        exact (projectAndPersist_runs hcommand' hcorrelate).pre
          fun w hw => ⟨hw.1.visible, hw.1.outbox, hw.1.file, (hw.2.2 ack rfl).1⟩
      · exact hkeep (deliverOrReplay_runs hC hcommand')
      · exact hkeep (deliverOrReplay_runs hC hcommand')

theorem deliverCommands_runs (hC : C.Truthful V) {now : Nat} (commandIds : List String) (memory : DeliveryMemory) :
    RunsOn (KernelWrite A V) start (Delivering visible applications memory Unknown)
      (deliverCommands R C now applications commandIds memory)
      (fun memory' => Delivering visible applications memory' Unknown) fun _ w => w.visible = visible := by
  induction commandIds generalizing memory with
  | nil => exact RunsOn.pure fun _ hw => hw
  | cons commandId commandIds ih => exact RunsOn.bind (deliverCommand_runs hC commandId memory) fun memory' => ih memory'

/-! ## Healing -/

/-- A fence is healed for a completed Start only. -/
theorem healFence_runs (hC : C.Truthful V) (applicationId versionId : String) :
    RunsOn (KernelWrite A V) start (fun w => w.visible = visible) (healFence A R C applicationId versionId)
      (fun _ w => w.visible = visible) fun _ w => w.visible = visible := by
  unfold healFence
  refine RunsOn.bind (Q := fun loaded =>
    Delivering visible loaded.applications ⟨loaded.state, loaded.registryFile, 0⟩ Unknown)
    (loadControlState_runs fun w hw => ⟨hw, trivial⟩) fun loaded => ?_
  split
  · exact RunsOn.pure fun _ hw => hw.visible
  · rename_i outbox houtbox
    have hcommand : outbox.command ∈ commandsOf loaded.state.commandOutbox :=
      List.mem_map_of_mem (List.mem_of_find?_eq_some houtbox)
    have hmatch := List.find?_some houtbox
    simp only [Bool.and_eq_true, beq_iff_eq] at hmatch
    obtain ⟨⟨happlication, hversion⟩, hoperation⟩ := hmatch
    refine RunsOn.bind (RunsOn.attempt (queryCommand_runs hC outbox.commandId Delivering.beside)) fun answer => ?_
    cases answer with
    | error e => exact RunsOn.pure fun _ hw => (hw.2 e rfl).visible
    | ok query =>
      dsimp only
      split
      · rename_i ack hobservation
        obtain ⟨hstored, hcorrelate⟩ := journalObservation_completed hobservation
        split
        · rename_i happlied
          have hheal : RunsOn (KernelWrite A V) start (Delivering visible loaded.applications
              ⟨loaded.state, loaded.registryFile, 0⟩ (KnownAck V ack)) _
              (fun _ => Delivering visible loaded.applications ⟨loaded.state, loaded.registryFile, 0⟩ Unknown) _ :=
            RunsOn.ignore (projectStartFenceAlive_runs fun _ _ hknown =>
              ⟨outbox.command, hcommand, hoperation, happlication, hversion, ack, hknown _ hcorrelate, happlied⟩)
          refine hheal.consequence (fun w hw => ?_) (fun _ _ hw => hw.visible) fun _ _ hw => hw.visible
          obtain ⟨hholds, hevident⟩ := hw.1 query rfl
          exact ⟨hholds.visible, hholds.outbox, hholds.file, hevident ack hstored⟩
        · exact RunsOn.pure fun _ hw => (hw.1 query rfl).1.visible
      · exact RunsOn.pure fun _ hw => (hw.1 query rfl).1.visible

theorem healFences_runs (hC : C.Truthful V) (versions : List (String × String)) :
    RunsOn (KernelWrite A V) start (fun w => w.visible = visible) (healFences A R C versions)
      (fun _ w => w.visible = visible) fun _ w => w.visible = visible := by
  induction versions with
  | nil => exact RunsOn.pure fun _ hw => hw
  | cons version rest ih => exact RunsOn.bind (healFence_runs hC version.1 version.2) fun _ => ih

theorem healAcknowledgedStartFences_runs (hC : C.Truthful V) :
    RunsOn (KernelWrite A V) start (fun w => w.visible = visible) (healAcknowledgedStartFences A R C)
      (fun _ w => w.visible = visible) fun _ w => w.visible = visible := by
  unfold healAcknowledgedStartFences
  refine RunsOn.bind (loadControlState_files.runs visible_congr) fun loaded => ?_
  exact RunsOn.bind (loadFencesFile_files.runs visible_congr) fun fences => healFences_runs hC _

theorem runOutboxDelivery_runs (hC : C.Truthful V) (now : Nat) :
    RunsOn (KernelWrite A V) start (fun w => w.visible = visible) (runOutboxDelivery A R C now)
      (fun _ w => w.visible = visible) fun _ w => w.visible = visible := by
  have hheal : RunsOn (KernelWrite A V) start (fun w => w.visible = visible) (do
      let _ ← (healAcknowledgedStartFences A R C).attempt
      return ()) (fun _ w => w.visible = visible) fun _ w => w.visible = visible :=
    RunsOn.ignore (healAcknowledgedStartFences_runs hC)
  unfold runOutboxDelivery
  refine RunsOn.bind loadControlState_sees fun loaded => ?_
  dsimp only
  refine RunsOn.bind (Q := fun memory => Delivering visible loaded.applications memory Unknown)
    (deliverCommands_runs hC _ ⟨loaded.state, loaded.registryFile, _⟩) fun memory => ?_
  split
  · exact RunsOn.bind (((saveRouteRegistry_files _).runs Delivering.congr).consequence (fun _ hw => hw)
      (fun _ _ hw => hw.visible) fun _ _ hw => hw.visible) fun _ => hheal
  · exact hheal.pre fun _ hw => hw.visible


/-! ## Route events -/

/-- A planned Drain is appended with its retirement. -/
theorem authorizeReplacedDrain_mutates {host : HostClock} {registryFile : WasmRouteRegistryFile} {applicationId : String}
    {fence : WasmFenceRecordV1} {versionId : String} {routeGeneration deadline : Nat} {done : Completions}
    (h : authorizeReplacedDrain R host registryFile state applicationId fence versionId routeGeneration deadline =
      .ok state') (happlications : ApplicationsGrow applications applications') :
    Mutates visible done state applications state' applications' := by
  unfold authorizeReplacedDrain at h
  dsimp only at h
  split at h
  · cases h
  · obtain ⟨command, hcommand, h⟩ := bind_eq_ok.mp h
    have hdrain : command.operation = .drain := (planExecutionCommand_plannedFrom hcommand).operation
    unfold WasmCommandControlState.authorizeDrainWithRetirement at h
    -- The checks of the state, the command and the record come before the new state.
    iterate 15 obtain ⟨_, _, h⟩ := bind_eq_ok.mp h
    obtain rfl := Except.ok.inj h
    exact ⟨rfl, happlications, .drained hdrain⟩

/-- A projected event moves the pointer by one generation at most. -/
theorem projectRecord_grows {record : WasmApplicationControlRecordV1} {event : RouteEvent}
    {candidate : ActivationCandidate} {applicationId : String} (hrecord : applications[applicationId]? = some record)
    (hevent : checkSuccessfulEvent event = .ok ()) :
    ApplicationsGrow applications (applications.insert applicationId (projectRecord record event candidate)) := by
  refine .insert fun old hold => ?_
  rw [hrecord] at hold
  cases hold
  refine ⟨?_, updateVersion_sameFacts (fun row => ?_) _⟩
  · show record.routeGeneration ≤ if pointerIsNext record event then event.routeGeneration else record.routeGeneration
    split
    · rename_i hnext
      unfold pointerIsNext at hnext
      unfold checkSuccessfulEvent controlStateCheck at hevent
      simp only [require_eq_ok, Bool.and_eq_true, beq_iff_eq] at hevent hnext
      omega
    · exact Nat.le_refl _
  · rfl

theorem projectActivationEventIntoV2_runs (host : HostClock) (applicationId : String) (journal : KernelActivationState)
    (event : RouteEvent) (fences : WasmFences) :
    RunsOn (KernelWrite A V) start (fun w => w.visible = visible)
      (projectActivationEventIntoV2 A R host applicationId journal event fences : KernelM σ _)
      (fun _ w => w.visible = visible) fun _ w => w.visible = visible := by
  unfold projectActivationEventIntoV2
  refine RunsOn.bind loadControlState_sees fun loaded => ?_
  split
  · exact RunsOn.lift (fun _ _ hw hresult => by cases hresult) fun _ _ hw _ => hw.visible
  · rename_i record hrecord
    split
    · exact RunsOn.pure fun _ hw => hw.visible
    · split
      · exact RunsOn.lift (fun _ _ hw hresult => by cases hresult) fun _ _ hw _ => hw.visible
      · refine RunsOn.bind (Q := fun _ w => w.Holds visible loaded.state loaded.applications Unknown ∧
          checkSuccessfulEvent event = .ok ()) (RunsOn.lift (fun _ _ hw hresult => ⟨hw, hresult⟩)
            fun _ _ hw _ => hw.visible) fun _ => RunsOn.assume (fun w hw => hw.2) fun hevent => ?_
        have hgrows (candidate : ActivationCandidate) : ApplicationsGrow loaded.applications
            (loaded.applications.insert applicationId (projectRecord record event candidate)) :=
          projectRecord_grows hrecord hevent
        have hlift {β : Type} (x : Except KernelError β) : RunsOn (KernelWrite A V) start
            (KernelWorld.Holds visible loaded.state loaded.applications Unknown) (Prog.lift x : KernelM σ β)
            (fun _ => KernelWorld.Holds visible loaded.state loaded.applications Unknown)
            fun _ w => w.visible = visible := RunsOn.lift (fun _ _ hw _ => hw) fun _ _ hw _ => hw.visible
        refine RunsOn.bind ((hlift _).pre fun _ hw => hw.1) fun command =>
          RunsOn.bind (hlift _) fun _ => RunsOn.bind (hlift _) fun _ => RunsOn.bind (hlift _) fun row => ?_
        dsimp only
        split
        · exact mutation_runs (fun _ _ hstate => authorizeReplacedDrain_mutates hstate (hgrows _)) fun state' hmutates =>
            RunsOn.bind (saveLast_runs _ hmutates) fun _ => RunsOn.pure fun _ hw => hw
        · split
          · exact mutation_runs (fun _ _ hstate => .of_advance hstate (hgrows _)) fun state' hmutates =>
              RunsOn.bind (saveLast_runs _ hmutates) fun _ => RunsOn.pure fun _ hw => hw
          · exact RunsOn.pure fun _ hw => hw.visible

theorem projectJournal_runs (host : HostClock) (fences : WasmFences) (applicationId : String)
    (journal : KernelActivationState) (rounds : Nat) :
    RunsOn (KernelWrite A V) start (fun w => w.visible = visible)
      (projectJournal A R host fences applicationId journal rounds : KernelM σ _) (fun _ w => w.visible = visible)
      fun _ w => w.visible = visible := by
  induction rounds with
  | zero => exact RunsOn.pure fun _ hw => hw
  | succ rounds ih =>
    unfold projectJournal
    refine RunsOn.bind ((controlRecord_files applicationId).runs visible_congr) fun record => ?_
    split
    · unfold settleJournal
      split
      · exact RunsOn.bind (projectActivationEventIntoV2_runs _ _ _ _ _) fun _ => RunsOn.pure fun _ hw => hw
      · split
        · exact RunsOn.lift (fun _ _ hw _ => hw) fun _ _ hw _ => hw
        · exact RunsOn.pure fun _ hw => hw
    · refine RunsOn.bind (projectActivationEventIntoV2_runs _ _ _ _ _) fun outcome => ?_
      cases outcome with
      | advanced => exact ih
      | settled => exact RunsOn.pure fun _ hw => hw
      | stale => exact RunsOn.pure fun _ hw => hw

theorem syncLifecycleAfterActivation_runs (host : HostClock) :
    RunsOn (KernelWrite A V) start (fun w => w.visible = visible) (syncLifecycleAfterActivation A R host : KernelM σ _)
      (fun _ w => w.visible = visible) fun _ w => w.visible = visible := by
  have hjournals (fences : WasmFences) (journals : List (String × KernelActivationState)) :
      RunsOn (KernelWrite A V) start (fun w => w.visible = visible) (projectJournals A R host fences journals : KernelM σ _)
        (fun _ w => w.visible = visible) fun _ w => w.visible = visible := by
    induction journals with
    | nil => exact RunsOn.pure fun _ hw => hw
    | cons entry rest ih =>
      unfold projectJournals
      split
      · exact ih
      · exact RunsOn.bind (projectJournal_runs _ _ _ _ _) fun _ => ih
  exact RunsOn.bind (RunsOn.look _) fun fences => RunsOn.bind (RunsOn.look _) fun activation => hjournals fences _

/-! ## Admissions -/

theorem reconcileVisibleAdmissions_runs :
    RunsOn (KernelWrite A V) start (fun w => w.visible = visible) (reconcileVisibleAdmissions A R : KernelM σ _)
      (fun _ w => w.visible = visible) fun _ w => w.visible = visible := by
  unfold reconcileVisibleAdmissions
  refine RunsOn.bind loadControlState_sees fun loaded => ?_
  refine RunsOn.bind (RunsOn.look _) fun proofs => ?_
  refine RunsOn.bind (Q := fun upserted w => w.Holds visible loaded.state loaded.applications Unknown ∧
    ApplicationsGrow loaded.applications upserted.1) (RunsOn.lift (fun w upserted hw hresult =>
      ⟨hw, upsertVisibleAdmissions_grows hresult⟩) fun _ _ hw _ => hw.visible) fun upserted => ?_
  refine RunsOn.assume (fun w hw => hw.2) fun hgrows => ?_
  dsimp only
  split
  · exact (mutation_runs (fun _ _ hstate => .of_advance hstate hgrows) fun state' hmutates =>
      saveLast_runs _ hmutates).pre fun _ hw => hw.1
  · exact RunsOn.pure fun _ hw => hw.1.visible

theorem materializeControlState_runs :
    RunsOn (KernelWrite A V) start (fun w => w.visible = visible) (materializeControlStateIfMissing A R : KernelM σ _)
      (fun _ w => w.visible = visible) fun _ w => w.visible = visible := by
  unfold materializeControlStateIfMissing
  refine RunsOn.bind (RunsOn.look _) fun present => ?_
  split
  · exact RunsOn.pure fun _ hw => hw
  · exact RunsOn.bind loadControlState_sees fun loaded => saveFirst_runs _

theorem upsertAdmitted_runs (proof : AdmissionProofV1) (registryFile : WasmRouteRegistryFile) :
    RunsOn (KernelWrite A V) start (fun w => w.visible = visible) (upsertAdmitted A R proof registryFile : KernelM σ _)
      (fun _ w => w.visible = visible) fun _ w => w.visible = visible := by
  unfold upsertAdmitted
  refine RunsOn.bind (RunsOn.look _) fun present => ?_
  refine RunsOn.bind loadControlState_sees fun loaded => ?_
  refine RunsOn.bind (Q := fun upserted w => w.Holds visible loaded.state loaded.applications Unknown ∧
    ApplicationsGrow loaded.applications upserted.1) (RunsOn.lift (fun w upserted hw hresult =>
      ⟨hw, upsertVisibleAdmission_grows hresult⟩) fun _ _ hw _ => hw.visible) fun upserted => ?_
  refine RunsOn.assume (fun w hw => hw.2) fun hgrows => ?_
  dsimp only
  split
  · exact (mutation_runs (fun _ _ hstate => .of_advance hstate hgrows) fun state' hmutates =>
      saveLast_runs _ hmutates).pre fun _ hw => hw.1
  · split
    · exact (saveFirst_runs registryFile).pre fun _ hw => hw.1
    · exact RunsOn.pure fun _ hw => hw.1.visible

theorem handleAdmitted_runs (host : HostClock) (proof : AdmissionProofV1) :
    RunsOn (KernelWrite A V) start (fun w => w.visible = visible) (handleAdmitted A R host proof : KernelM σ _)
      (fun _ w => w.visible = visible) fun _ w => w.visible = visible :=
  RunsOn.bind ((registerProof_files proof).runs visible_congr) fun registryFile =>
    RunsOn.bind (upsertAdmitted_runs proof registryFile) fun _ => reconcileVisibleExecutionState_runs host

/-! ## The calls -/

theorem startup_runs (host : HostClock) :
    RunsOn (KernelWrite A V) start (fun w => w.visible = visible) (startup A R D host : KernelM σ _)
      (fun _ w => w.visible = visible) fun _ w => w.visible = visible := by
  have hrecover : KeepsFiles (recoverActivation D : KernelM σ _) := .write fun _ => rfl
  exact RunsOn.bind (convergeRouteRegistry_files.runs visible_congr) fun _ =>
    RunsOn.bind materializeControlState_runs fun _ => RunsOn.bind reconcileVisibleAdmissions_runs fun _ =>
      RunsOn.bind (reconcileVisibleExecutionState_runs host) fun _ => RunsOn.bind (hrecover.runs visible_congr) fun _ =>
        syncLifecycleAfterActivation_runs host

theorem handleActivationRpc_runs (leases : Std.ExtTreeMap String ServiceReadinessLeaseV2) (host : HostClock)
    (body : ActivationRpcRequestBody) :
    RunsOn (KernelWrite A V) start (fun w => w.visible = visible) (handleActivationRpc A R D leases host body : KernelM σ _)
      (fun _ w => w.visible = visible) fun _ w => w.visible = visible := by
  have hdecide : KeepsFiles (decideActivation D leases host body : KernelM σ _) := .write fun _ => rfl
  unfold handleActivationRpc
  refine RunsOn.bind (syncLifecycleAfterActivation_runs host) fun _ => RunsOn.bind (hdecide.runs visible_congr)
    fun answer => ?_
  cases answer with
  | error failure => exact RunsOn.pure fun _ hw => hw
  | ok result => exact RunsOn.bind (syncLifecycleAfterActivation_runs host) fun _ => RunsOn.pure fun _ hw => hw

/-- The drain deadline of a fence is a step of the fences. -/
theorem withDrainDeadline_step (fences : WasmFences) (done : Completions) (commands : List ExecutionCommand)
    (applicationId versionId : String) (deadline : Nat) :
    ReflTransGen (FenceStep visible done commands) fences (withDrainDeadline fences applicationId versionId deadline) := by
  unfold withDrainDeadline
  split
  · exact .refl
  · rename_i application happlication
    split
    · exact .refl
    · rename_i fence hfence
      exact .single (.of_insert happlication hfence ⟨rfl, fun halive => ⟨halive, rfl⟩⟩ .inl)

/-- Whatever a step does and wherever it crashes, the files go by steps of the machine. -/
theorem KernelOp.run_writes (hC : C.Truthful V) (world : KernelWorld σ) {op : KernelOp σ} (hop : op.Within V) :
    ReflTransGen (KernelWrite A V) world (KernelOp.run A R D C world op) := by
  cases op with
  | admission proof host crash =>
    unfold KernelOp.run
    dsimp only
    split
    · exact .trans (.single (.admitted world proof)) ((handleAdmitted_runs host proof).leaves rfl crash)
    · exact .refl
  | startup host crash => exact (startup_runs host).leaves rfl crash
  | reconcile host crash => exact (reconcileVisibleExecutionState_runs host).leaves rfl crash
  | deliver now crash => exact (runOutboxDelivery_runs hC now).leaves rfl crash
  | activate leases host body crash => exact (handleActivationRpc_runs leases host body).leaves rfl crash
  | drainDeadline applicationId versionId deadline =>
    exact .single (.fences (withDrainDeadline_step ..) rfl rfl rfl)
  | supervisor change => exact .single (.beside rfl rfl rfl (hop change rfl world.channel))

theorem run_writes (hC : C.Truthful V) (world : KernelWorld σ) {ops : List (KernelOp σ)}
    (hops : ∀ op ∈ ops, op.Within V) :
    ReflTransGen (KernelWrite A V) world (CrashRefinement.run (KernelOp.run A R D C) world ops) := by
  induction ops generalizing world with
  | nil => exact .refl
  | cons op ops ih =>
    exact (KernelOp.run_writes hC world (hops op (List.mem_cons_self ..))).trans
      (ih _ fun later hlater => hops later (List.mem_cons_of_mem _ hlater))

/-! ## Whole runs -/

/-- A view that sees nothing. -/
def SupervisorView.blind (σ : Type) : SupervisorView σ :=
  ⟨fun _ _ => True, fun _ _ _ => True, fun _ => trivial, fun _ _ _ _ _ => trivial, fun _ _ _ _ _ _ => trivial⟩

theorem SupervisorChannel.truthful_blind (C : SupervisorChannel σ) : C.Truthful (.blind σ) :=
  ⟨fun _ _ _ _ _ _ _ _ _ => trivial, fun _ _ _ _ _ _ _ _ => trivial, fun _ _ => trivial, fun _ _ => trivial,
    fun _ _ _ => trivial⟩

/-- Whatever the supervisor does, the writes of a run are steps of the machine. -/
theorem run_writes_blind (world : KernelWorld σ) (ops : List (KernelOp σ)) :
    ReflTransGen (KernelWrite A (.blind σ)) world (CrashRefinement.run (KernelOp.run A R D C) world ops) :=
  run_writes C.truthful_blind world fun _ _ _ _ _ => trivial

/-- Whatever the runtime does and wherever it crashes, its control state only grows: no version row, command or fence is
lost, an entry that is delivered stays delivered, a fence that is alive stays alive, and two files with the same
revision are equal. -/
theorem control_state_grows (channel : σ) (ops later : List (KernelOp σ)) :
    (kernelRun A R D C channel ops).Grows (kernelRun A R D C channel (ops ++ later)) := by
  unfold kernelRun
  rw [CrashRefinement.run_append]
  exact KernelWrite.grows_chain (run_writes_blind _ later)

/-- Whatever the runtime does and wherever it crashes, it plans every execution once, from an admitted proof, and fences
only what it planned. -/
theorem executions_planned_once (channel : σ) (ops : List (KernelOp σ)) :
    (kernelRun A R D C channel ops).Planned :=
  KernelWrite.planned_chain (run_writes_blind _ ops) (KernelWorld.planned_empty channel)

/-- With a supervisor that tells the truth, the files say of it only what is so. -/
theorem run_attested (hC : C.Truthful V) (channel : σ) {ops : List (KernelOp σ)}
    (hops : ∀ op ∈ ops, op.Within V) : (kernelRun A R D C channel ops).Attested V :=
  KernelWrite.attested_chain (run_writes hC _ hops) (KernelWorld.attested_empty channel)

end Iweb
