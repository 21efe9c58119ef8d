import Iweb.Activation.Vectors
import Iweb.Runtime.EngineMetricsRuns

/-!
# Engine metrics move forward

What one accepted call does to the registry is said once; the invariant of a run follows from it. The window of a
sandbox counts from its first available sample on, so the unavailable ones before it need a condition of their own.
-/

namespace Iweb

open CrashRefinement

/-! ## One sample -/

/-- The checks of the counters compare each of them. -/
theorem below_of_checkBaseline {baseline : WasmEngineMetricsBaseline} {engine : WasmEngineCountersV1}
    (h : checkBaseline baseline engine = .ok ()) (sampledAt : String) :
    baseline.Below (engine.baseline sampledAt) := by
  unfold checkBaseline at h
  simp only [bind_eq_ok, require_eq_ok, beq_iff_eq] at h
  obtain ⟨_, hrepresentation, _, hfuel, _, hepoch, hhigh⟩ := h
  refine ⟨hrepresentation, fun prior current hprior hcurrent => ?_, ?_, ?_⟩
  · have hcurrent : engine.fuelConsumedCumulative = some current := hcurrent
    rw [hprior, hcurrent] at hfuel
    exact of_decide_eq_true (require_eq_ok.mp hfuel)
  · exact of_decide_eq_true (require_eq_ok.mp hepoch)
  · exact of_decide_eq_true (require_eq_ok.mp hhigh)

namespace WasmEngineMetricsBaseline

theorem Below.refl (baseline : WasmEngineMetricsBaseline) : baseline.Below baseline :=
  ⟨rfl, fun _ _ hprior hcurrent => Nat.le_of_eq (Option.some.inj (hprior ▸ hcurrent)), Nat.le_refl _, Nat.le_refl _⟩

theorem Below.trans {first second third : WasmEngineMetricsBaseline} (h : first.Below second) (h' : second.Below third) :
    first.Below third := by
  refine ⟨h.representation.trans h'.representation, fun prior current hprior hcurrent => ?_,
    Nat.le_trans h.epochTimeouts h'.epochTimeouts, Nat.le_trans h.highWater h'.highWater⟩
  have hsome : second.fuelConsumedCumulative.isSome = true := by
    rw [← h.representation, hprior]
    rfl
  obtain ⟨between, hbetween⟩ := Option.isSome_iff_exists.mp hsome
  exact Nat.le_trans (h.fuel _ _ hprior hbetween) (h'.fuel _ _ hbetween hcurrent)

end WasmEngineMetricsBaseline

/-- A sample that a window takes. -/
structure Taken (window : WasmEngineMetricsWindow) (sample : WasmEngineMetricsV1) (next : WasmEngineMetricsWindow) :
    Prop where
  generation : sample.executionGeneration = window.executionGeneration
  next_generation : next.executionGeneration = window.executionGeneration
  later : ∀ baseline, window.tracking = some baseline → ∃ ms laterMs,
    parseRfc3339UtcMillis baseline.lastAcceptedSampledAt = .ok ms ∧
      parseRfc3339UtcMillis sample.sampledAt = .ok laterMs ∧ ms < laterMs
  unavailable : sample.engine = none → next.tracking = window.tracking.map fun baseline =>
    { baseline with lastAcceptedSampledAt := sample.sampledAt }
  available : ∀ engine, sample.engine = some engine → next.tracking = some (engine.baseline sample.sampledAt) ∧
    ∀ baseline, window.tracking = some baseline → baseline.Below (engine.baseline sample.sampledAt)

theorem taken_of_accept {window next : WasmEngineMetricsWindow} {sample : WasmEngineMetricsV1}
    {fuelEnabled : Option Bool} (h : acceptWasmEngineMetricsSample window sample fuelEnabled = .ok next) :
    Taken window sample next := by
  unfold acceptWasmEngineMetricsSample at h
  simp only [bind_eq_ok, require_eq_ok, recode_eq_ok, beq_iff_eq] at h
  obtain ⟨_, hgeneration, sampledMs, hsampled, _, hlater, h⟩ := h
  have hlater : ∀ baseline, window.tracking = some baseline → ∃ ms laterMs,
      parseRfc3339UtcMillis baseline.lastAcceptedSampledAt = .ok ms ∧
        parseRfc3339UtcMillis sample.sampledAt = .ok laterMs ∧ ms < laterMs := by
    intro baseline hbaseline
    rw [hbaseline] at hlater
    unfold checkLater at hlater
    simp only [bind_eq_ok, require_eq_ok, recode_eq_ok, decide_eq_true_eq] at hlater
    obtain ⟨ms, hms, hlt⟩ := hlater
    exact ⟨ms, sampledMs, hms, hsampled, hlt⟩
  cases hengine : sample.engine with
  | none =>
    rw [hengine] at h
    cases h
    refine ⟨hgeneration, rfl, hlater, fun _ => rfl, fun engine hsome => ?_⟩
    rw [hengine] at hsome
    cases hsome
  | some engine =>
    rw [hengine] at h
    simp only [bind_eq_ok] at h
    obtain ⟨_, -, _, hcounters, h⟩ := h
    cases h
    refine ⟨hgeneration, rfl, hlater, fun hnone => ?_, fun other hother => ?_⟩
    · rw [hengine] at hnone
      cases hnone
    rw [hengine] at hother
    cases hother
    refine ⟨rfl, fun baseline hbaseline => ?_⟩
    rw [hbaseline] at hcounters
    exact below_of_checkBaseline hcounters _

/-! ## One call -/

/-- What a call that is taken does to the entries. -/
inductive Called (registry : WasmEngineMetricsRegistry) : MetricsCall → WasmEngineMetricsRegistry → Prop
  | confirmed {fence : WasmEngineMetricsFence} {applicationId : Option String} {entry : WasmEngineMetricsEntry}
      (hentry : registry.entries fence.sandboxId = some entry)
      (hsame : entry.window.executionGeneration = fence.executionGeneration) :
      Called registry (.openWindow fence applicationId) registry
  | opened {fence : WasmEngineMetricsFence} {applicationId : Option String}
      (hforward : ∀ entry, registry.entries fence.sandboxId = some entry →
        entry.window.executionGeneration < fence.executionGeneration) :
      Called registry (.openWindow fence applicationId) ⟨Function.update registry.entries fence.sandboxId
        (some ⟨applicationId, fence, ⟨fence.executionGeneration, none⟩, none⟩)⟩
  | accepted {fence : WasmEngineMetricsFence} {payload : Json} {fuelEnabled : Option Bool}
      {entry : WasmEngineMetricsEntry} {sample : WasmEngineMetricsV1} {next : WasmEngineMetricsWindow}
      (hpayload : WasmEngineMetricsV1.validate payload = .ok sample)
      (hentry : registry.entries fence.sandboxId = some entry) (hsandbox : sample.sandboxId = fence.sandboxId)
      (htaken : Taken entry.window sample next) :
      Called registry (.accept fence payload fuelEnabled) ⟨Function.update registry.entries fence.sandboxId
        (some { entry with window := next, lastAccepted := some sample })⟩

theorem called_of_ok {registry registry' : WasmEngineMetricsRegistry} {call : MetricsCall}
    (h : registry.call call = .ok registry') : Called registry call registry' := by
  cases call with
  | openWindow fence applicationId =>
    unfold WasmEngineMetricsRegistry.call WasmEngineMetricsRegistry.openWindow at h
    dsimp only at h
    have hfresh : ∀ hforward : ∀ entry, registry.entries fence.sandboxId = some entry →
          entry.window.executionGeneration < fence.executionGeneration,
        (if fence.preparationGeneration < 1 ∨ fence.executionGeneration < 1 then
            .error ⟨wasmEngineMetricsInvalid, "a metrics window requires an alive execution generation (>= 1)"⟩
          else .ok ⟨Function.update registry.entries fence.sandboxId
            (some ⟨applicationId, fence, ⟨fence.executionGeneration, none⟩, none⟩)⟩ :
          Except KernelError WasmEngineMetricsRegistry) = .ok registry' →
        Called registry (.openWindow fence applicationId) registry' := by
      intro hforward hok
      split at hok
      · cases hok
      · cases hok
        exact .opened hforward
    cases hentry : registry.entries fence.sandboxId with
    | none =>
      rw [hentry] at h
      exact hfresh (fun entry hsome => by rw [hentry] at hsome; cases hsome) h
    | some entry =>
      rw [hentry] at h
      dsimp only at h
      by_cases hlower : fence.executionGeneration < entry.window.executionGeneration
      · rw [if_pos hlower] at h
        cases h
      · rw [if_neg hlower] at h
        by_cases hsame : fence.executionGeneration = entry.window.executionGeneration
        · rw [if_pos hsame] at h
          split at h
          · cases h
          · cases h
            exact .confirmed hentry hsame.symm
        · rw [if_neg hsame] at h
          refine hfresh (fun other hother => ?_) h
          rw [hentry] at hother
          cases hother
          omega
  | accept fence payload fuelEnabled =>
    unfold WasmEngineMetricsRegistry.call WasmEngineMetricsRegistry.accept at h
    obtain ⟨sample, hpayload, h⟩ := bind_eq_ok.mp h
    unfold WasmEngineMetricsRegistry.acceptValidated at h
    obtain ⟨_, hcorrelate, h⟩ := bind_eq_ok.mp h
    have hsandbox : sample.sandboxId = fence.sandboxId := by
      unfold correlateWasmEngineMetrics at hcorrelate
      dsimp only at hcorrelate
      obtain ⟨_, hsame, -⟩ := bind_eq_ok.mp hcorrelate
      exact (beq_iff_eq.mp (require_eq_ok.mp hsame)).symm
    cases hentry : registry.entries fence.sandboxId with
    | none =>
      rw [hentry] at h
      cases h
    | some entry =>
      rw [hentry] at h
      simp only [bind_eq_ok] at h
      obtain ⟨_, -, _, -, next, hnext, h⟩ := h
      cases h
      exact .accepted hpayload hentry hsandbox (taken_of_accept hnext)

/-! ## The invariant of a run -/

namespace MetricsSystem

/-- What holds of the entry of a sandbox and the samples accepted in its generation, the last of them at the end. -/
structure Tracks (entry : WasmEngineMetricsEntry) (samples : List WasmEngineMetricsV1) : Prop where
  last : entry.lastAccepted = samples.getLast?
  later : samples.Pairwise WasmEngineMetricsV1.Later
  grows : samples.Pairwise WasmEngineMetricsV1.Grows
  awaiting : entry.window.tracking = none → ∀ sample ∈ samples, sample.engine = none
  tracking : ∀ baseline, entry.window.tracking = some baseline →
    (∃ sample, entry.lastAccepted = some sample ∧ baseline.lastAcceptedSampledAt = sample.sampledAt) ∧
      ∀ sample ∈ samples, ∀ engine, sample.engine = some engine →
        (engine.baseline sample.sampledAt).Below baseline

/-- The invariant of a run. -/
structure Forward (system : MetricsSystem) : Prop where
  tracks : ∀ sandboxId entry, system.registry.entries sandboxId = some entry →
    Tracks entry (system.samplesOf sandboxId entry.window.executionGeneration)
  later : ∀ sandboxId generation, (system.samplesOf sandboxId generation).Pairwise WasmEngineMetricsV1.Later
  grows : ∀ sandboxId generation, (system.samplesOf sandboxId generation).Pairwise WasmEngineMetricsV1.Grows
  reached : ∀ sample ∈ system.accepted, ∃ entry, system.registry.entries sample.sandboxId = some entry ∧
    sample.executionGeneration ≤ entry.window.executionGeneration
  opened : ∀ applicationId sandboxId, system.opened applicationId = some sandboxId ↔
    ∃ entry, system.registry.entries sandboxId = some entry ∧ entry.applicationId = some applicationId

theorem forward_initial : initial.Forward where
  tracks := fun _ _ hentry => nomatch hentry
  later := fun _ _ => .nil
  grows := fun _ _ => .nil
  reached := fun _ hsample => nomatch hsample
  opened := fun _ _ => ⟨fun hopened => (nomatch hopened), fun hentry => (nomatch hentry.choose_spec.1)⟩

/-- The sample before which all others of a list were taken. -/
theorem later_of_last {samples : List WasmEngineMetricsV1} {last sample : WasmEngineMetricsV1}
    (hlater : samples.Pairwise WasmEngineMetricsV1.Later) (hlast : samples.getLast? = some last)
    (h : last.Later sample) : ∀ other ∈ samples, other.Later sample := by
  obtain ⟨before, rfl⟩ := List.getLast?_eq_some_iff.mp hlast
  intro other hother
  rcases List.mem_append.mp hother with hbefore | hself
  · obtain ⟨ms, lastMs, hms, hlastMs, hlt⟩ :=
      (List.pairwise_append.mp hlater).2.2 other hbefore last (List.mem_singleton_self _)
    obtain ⟨lastMs', sampleMs, hlastMs', hsampleMs, hlt'⟩ := h
    rw [hlastMs] at hlastMs'
    cases hlastMs'
    exact ⟨ms, sampleMs, hms, hsampleMs, Nat.lt_trans hlt hlt'⟩
  · rw [List.mem_singleton.mp hself]
    exact h

/-- A sample that the window takes, with the last one before it. -/
theorem Tracks.taken {entry : WasmEngineMetricsEntry} {samples : List WasmEngineMetricsV1}
    {sample : WasmEngineMetricsV1} {next : WasmEngineMetricsWindow} (h : Tracks entry samples)
    (htaken : Taken entry.window sample next)
    (hfirst : ∀ before, entry.window.tracking = none → entry.lastAccepted = some before → before.Later sample) :
    Tracks { entry with window := next, lastAccepted := some sample } (samples ++ [sample]) := by
  have hlast : ∀ before, entry.lastAccepted = some before → before.Later sample := by
    intro before hbefore
    cases htracking : entry.window.tracking with
    | none => exact hfirst before htracking hbefore
    | some baseline =>
      obtain ⟨⟨last, hsome, hsampledAt⟩, -⟩ := h.tracking baseline htracking
      obtain ⟨ms, laterMs, hms, hlaterMs, hlt⟩ := htaken.later baseline htracking
      rw [hbefore] at hsome
      cases hsome
      exact ⟨ms, laterMs, hsampledAt ▸ hms, hlaterMs, hlt⟩
  have hlater : ∀ other ∈ samples, other.Later sample := by
    intro other hother
    cases hget : samples.getLast? with
    | none =>
      rw [List.getLast?_eq_none_iff.mp hget] at hother
      exact nomatch hother
    | some before => exact later_of_last h.later hget (hlast before (h.last.trans hget)) other hother
  have hbelow : ∀ engine, sample.engine = some engine → ∀ other ∈ samples, ∀ earlier, other.engine = some earlier →
      (earlier.baseline other.sampledAt).Below (engine.baseline sample.sampledAt) := by
    intro engine hengine other hother earlier hearlier
    cases htracking : entry.window.tracking with
    | none =>
      rw [h.awaiting htracking other hother] at hearlier
      cases hearlier
    | some baseline =>
      exact ((h.tracking baseline htracking).2 other hother earlier hearlier).trans
        ((htaken.available engine hengine).2 baseline htracking)
  refine ⟨List.getLast?_concat.symm, ?_, ?_, ?_, ?_⟩
  · refine List.pairwise_append.mpr ⟨h.later, List.pairwise_singleton _ _, fun other hother last hlast => ?_⟩
    rw [List.mem_singleton.mp hlast]
    exact hlater other hother
  · refine List.pairwise_append.mpr ⟨h.grows, List.pairwise_singleton _ _, fun other hother last hlast => ?_⟩
    rw [List.mem_singleton.mp hlast]
    exact fun earlier engine hearlier hengine => hbelow engine hengine other hother earlier hearlier
  · intro hnone other hother
    cases hengine : sample.engine with
    | some engine =>
      rw [(htaken.available engine hengine).1] at hnone
      cases hnone
    | none =>
      rw [htaken.unavailable hengine, Option.map_eq_none_iff] at hnone
      rcases List.mem_append.mp hother with hold | hself
      · exact h.awaiting hnone other hold
      · rw [List.mem_singleton.mp hself]
        exact hengine
  · intro baseline hbaseline
    cases hengine : sample.engine with
    | some engine =>
      rw [(htaken.available engine hengine).1] at hbaseline
      cases hbaseline
      refine ⟨⟨sample, rfl, rfl⟩, fun other hother earlier hearlier => ?_⟩
      rcases List.mem_append.mp hother with hold | hself
      · exact hbelow engine hengine other hold earlier hearlier
      · rw [List.mem_singleton.mp hself] at hearlier ⊢
        rw [hengine] at hearlier
        cases hearlier
        exact .refl _
    | none =>
      rw [htaken.unavailable hengine, Option.map_eq_some_iff] at hbaseline
      obtain ⟨before, hbefore, rfl⟩ := hbaseline
      refine ⟨⟨sample, rfl, rfl⟩, fun other hother earlier hearlier => ?_⟩
      rcases List.mem_append.mp hother with hold | hself
      · have hbelow' := (h.tracking before hbefore).2 other hold earlier hearlier
        exact ⟨hbelow'.representation, hbelow'.fuel, hbelow'.epochTimeouts, hbelow'.highWater⟩
      · rw [List.mem_singleton.mp hself, hengine] at hearlier
        cases hearlier

variable {system : MetricsSystem}

theorem samplesOf_append (accepted : List WasmEngineMetricsV1) (sample : WasmEngineMetricsV1) (sandboxId : String)
    (generation : Nat) (registry : WasmEngineMetricsRegistry) (opened : String → Option String) :
    samplesOf ⟨registry, accepted ++ [sample], opened⟩ sandboxId generation =
      samplesOf ⟨registry, accepted, opened⟩ sandboxId generation ++
        if sample.sandboxId = sandboxId ∧ sample.executionGeneration = generation then [sample] else [] := by
  unfold samplesOf
  rw [List.filter_append]
  congr 1
  by_cases hsample : sample.sandboxId = sandboxId ∧ sample.executionGeneration = generation
  · rw [if_pos hsample]
    exact List.filter_cons_of_pos (by rw [Bool.and_eq_true, beq_iff_eq, beq_iff_eq]; exact hsample)
  · rw [if_neg hsample]
    exact List.filter_cons_of_neg (by rw [Bool.and_eq_true, beq_iff_eq, beq_iff_eq]; exact hsample)

/-- A generation the sandbox has not reached has no samples. -/
theorem Forward.samplesOf_eq_nil (h : system.Forward) {sandboxId : String} {generation : Nat}
    (hbefore : ∀ entry, system.registry.entries sandboxId = some entry →
      entry.window.executionGeneration < generation) : system.samplesOf sandboxId generation = [] := by
  refine List.filter_eq_nil_iff.mpr fun sample hsample hboth => ?_
  rw [Bool.and_eq_true, beq_iff_eq, beq_iff_eq] at hboth
  obtain ⟨entry, hentry, hle⟩ := h.reached sample hsample
  rw [hboth.1] at hentry
  have hlt := hbefore entry hentry
  omega

/-- A window is opened for an application that no other sandbox has. -/
theorem openedFor_iff {opened : String → Option String} {entries entries' : String → Option WasmEngineMetricsEntry}
    {sandboxId : String} {applicationId : Option String}
    (hopened : ∀ application other, opened application = some other ↔
      ∃ entry, entries other = some entry ∧ entry.applicationId = some application)
    (hothers : ∀ other, other ≠ sandboxId → entries' other = entries other)
    (hown : ∃ entry, entries' sandboxId = some entry ∧ entry.applicationId = applicationId)
    (halone : ∀ other entry, other ≠ sandboxId → entries other = some entry → applicationId.isSome = true →
      entry.applicationId ≠ applicationId) (application other : String) :
    openedFor opened sandboxId applicationId application = some other ↔
      ∃ entry, entries' other = some entry ∧ entry.applicationId = some application := by
  obtain ⟨own, hentry, hsame⟩ := hown
  unfold openedFor
  by_cases hfor : applicationId = some application
  · rw [if_pos hfor]
    constructor
    · intro heq
      cases heq
      exact ⟨own, hentry, hsame.trans hfor⟩
    · rintro ⟨entry, hother, happlication⟩
      by_cases hsandbox : other = sandboxId
      · rw [hsandbox]
      · rw [hothers other hsandbox] at hother
        exact absurd (happlication.trans hfor.symm) (halone other entry hsandbox hother (by rw [hfor]; rfl))
  · rw [if_neg hfor]
    have hnot : ¬ ∃ entry, entries' sandboxId = some entry ∧ entry.applicationId = some application := by
      rintro ⟨entry, hsome, happlication⟩
      rw [hentry] at hsome
      cases hsome
      exact hfor (hsame.symm.trans happlication)
    by_cases hmoved : opened application = some sandboxId
    · rw [if_pos hmoved]
      refine ⟨fun hnone => (nomatch hnone), fun ⟨entry, hother, happlication⟩ => ?_⟩
      have hsandbox : other ≠ sandboxId := by
        rintro rfl
        exact hnot ⟨entry, hother, happlication⟩
      rw [hothers other hsandbox] at hother
      rw [(hopened application other).mpr ⟨entry, hother, happlication⟩] at hmoved
      exact absurd (Option.some.inj hmoved) hsandbox
    · rw [if_neg hmoved]
      by_cases hsandbox : other = sandboxId
      · rw [hsandbox]
        exact ⟨fun hsome => absurd hsome hmoved, fun hexists => absurd hexists hnot⟩
      · rw [hopened, hothers other hsandbox]

theorem Forward.confirmed (h : system.Forward) {fence : WasmEngineMetricsFence} {applicationId : Option String}
    {entry : WasmEngineMetricsEntry} (hentry : system.registry.entries fence.sandboxId = some entry)
    (hsame : entry.applicationId = applicationId)
    (halone : ∀ other entry, other ≠ fence.sandboxId → system.registry.entries other = some entry →
      applicationId.isSome = true → entry.applicationId ≠ applicationId) :
    Forward { system with opened := openedFor system.opened fence.sandboxId applicationId } where
  tracks := h.tracks
  later := h.later
  grows := h.grows
  reached := h.reached
  opened := openedFor_iff h.opened (fun _ _ => rfl) ⟨entry, hentry, hsame⟩ halone

theorem Forward.opening (h : system.Forward) {fence : WasmEngineMetricsFence} {applicationId : Option String}
    (hforward : ∀ entry, system.registry.entries fence.sandboxId = some entry →
      entry.window.executionGeneration < fence.executionGeneration)
    (halone : ∀ other entry, other ≠ fence.sandboxId → system.registry.entries other = some entry →
      applicationId.isSome = true → entry.applicationId ≠ applicationId) :
    Forward { system with
      registry := ⟨Function.update system.registry.entries fence.sandboxId
        (some ⟨applicationId, fence, ⟨fence.executionGeneration, none⟩, none⟩)⟩
      opened := openedFor system.opened fence.sandboxId applicationId } where
  tracks := by
    intro sandboxId entry hentry
    by_cases hsandbox : sandboxId = fence.sandboxId
    · rw [hsandbox] at hentry ⊢
      dsimp only at hentry
      rw [Function.update_self] at hentry
      cases hentry
      have hnil := h.samplesOf_eq_nil hforward
      show Tracks _ (system.samplesOf fence.sandboxId fence.executionGeneration)
      rw [hnil]
      exact ⟨rfl, .nil, .nil, fun _ _ hsample => (nomatch hsample), fun _ hnone => (nomatch hnone)⟩
    · have hold : system.registry.entries sandboxId = some entry := by
        rw [← hentry]
        exact (Function.update_of_ne hsandbox _ _).symm
      exact h.tracks sandboxId entry hold
  later := h.later
  grows := h.grows
  reached := by
    intro sample hsample
    obtain ⟨entry, hentry, hle⟩ := h.reached sample hsample
    by_cases hsandbox : sample.sandboxId = fence.sandboxId
    · rw [hsandbox] at hentry ⊢
      have hlt := hforward entry hentry
      exact ⟨_, Function.update_self _ _ _, Nat.le_of_lt (Nat.lt_of_le_of_lt hle hlt)⟩
    · exact ⟨entry, (Function.update_of_ne hsandbox _ _).trans hentry, hle⟩
  opened := openedFor_iff h.opened (fun other hother => Function.update_of_ne hother _ _)
    ⟨_, Function.update_self _ _ _, rfl⟩ halone

theorem Forward.accept (h : system.Forward) {fence : WasmEngineMetricsFence} {entry : WasmEngineMetricsEntry}
    {sample : WasmEngineMetricsV1} {next : WasmEngineMetricsWindow}
    (hentry : system.registry.entries fence.sandboxId = some entry) (hsandbox : sample.sandboxId = fence.sandboxId)
    (htaken : Taken entry.window sample next)
    (hfirst : ∀ before, entry.window.tracking = none → entry.lastAccepted = some before → before.Later sample) :
    Forward { system with
      registry := ⟨Function.update system.registry.entries fence.sandboxId
        (some { entry with window := next, lastAccepted := some sample })⟩
      accepted := system.accepted ++ [sample] } := by
  have hnext : next.executionGeneration = sample.executionGeneration :=
    htaken.next_generation.trans htaken.generation.symm
  have htracks : Tracks { entry with window := next, lastAccepted := some sample }
      (system.samplesOf fence.sandboxId entry.window.executionGeneration ++ [sample]) :=
    (h.tracks _ entry hentry).taken htaken hfirst
  have hown : ∀ sandboxId generation, sample.sandboxId = sandboxId ∧ sample.executionGeneration = generation →
      system.samplesOf sandboxId generation ++ [sample] =
        system.samplesOf fence.sandboxId entry.window.executionGeneration ++ [sample] := by
    rintro sandboxId generation ⟨rfl, rfl⟩
    rw [hsandbox, htaken.generation]
  refine ⟨fun sandboxId other hother => ?_, fun sandboxId generation => ?_, fun sandboxId generation => ?_,
    fun other hother => ?_, fun applicationId sandboxId => ?_⟩
  · by_cases hsame : sandboxId = fence.sandboxId
    · rw [hsame] at hother ⊢
      dsimp only at hother
      rw [Function.update_self] at hother
      cases hother
      rw [samplesOf_append, if_pos ⟨hsandbox, hnext.symm⟩]
      exact (hown _ _ ⟨hsandbox, hnext.symm⟩) ▸ htracks
    · have hold : system.registry.entries sandboxId = some other := by
        rw [← hother]
        exact (Function.update_of_ne hsame _ _).symm
      rw [samplesOf_append, if_neg (fun hboth => hsame (hboth.1.symm.trans hsandbox)), List.append_nil]
      exact h.tracks sandboxId other hold
  · rw [samplesOf_append]
    by_cases hboth : sample.sandboxId = sandboxId ∧ sample.executionGeneration = generation
    · rw [if_pos hboth]
      exact (hown _ _ hboth) ▸ htracks.later
    · rw [if_neg hboth, List.append_nil]
      exact h.later sandboxId generation
  · rw [samplesOf_append]
    by_cases hboth : sample.sandboxId = sandboxId ∧ sample.executionGeneration = generation
    · rw [if_pos hboth]
      exact (hown _ _ hboth) ▸ htracks.grows
    · rw [if_neg hboth, List.append_nil]
      exact h.grows sandboxId generation
  · rcases List.mem_append.mp hother with hold | hnew
    · obtain ⟨reached, hreached, hle⟩ := h.reached other hold
      by_cases hsame : other.sandboxId = fence.sandboxId
      · rw [hsame] at hreached ⊢
        rw [hentry] at hreached
        cases hreached
        exact ⟨_, Function.update_self _ _ _, htaken.next_generation ▸ hle⟩
      · exact ⟨reached, (Function.update_of_ne hsame _ _).trans hreached, hle⟩
    · rw [List.mem_singleton.mp hnew, hsandbox]
      exact ⟨_, Function.update_self _ _ _, Nat.le_of_eq hnext.symm⟩
  · rw [h.opened]
    by_cases hsame : sandboxId = fence.sandboxId
    · rw [hsame]
      constructor
      · rintro ⟨other, hother, happlication⟩
        rw [hentry] at hother
        cases hother
        exact ⟨_, Function.update_self _ _ _, happlication⟩
      · rintro ⟨other, hother, happlication⟩
        dsimp only at hother
        rw [Function.update_self] at hother
        cases hother
        exact ⟨entry, hentry, happlication⟩
    · show _ ↔ ∃ entry', Function.update system.registry.entries fence.sandboxId _ sandboxId = some entry' ∧ _
      rw [Function.update_of_ne hsame]

/-- A call that meets the condition keeps the invariant. -/
theorem Forward.step {call : MetricsCall} (hcall : system.KeepsForward call) (h : system.Forward) :
    (system.step call).Forward := by
  unfold MetricsSystem.step
  cases hresult : system.registry.call call with
  | error failure => exact h
  | ok registry =>
    have hcall := hcall (by rw [hresult]; rfl)
    have hcalled := called_of_ok hresult
    cases hcalled with
    | confirmed hentry hsame => exact h.confirmed hentry (hcall.2 _ hentry hsame) hcall.1
    | opened hforward => exact h.opening hforward hcall.1
    | accepted hpayload hentry hsandbox htaken =>
      dsimp only
      rw [hpayload]
      exact h.accept hentry hsandbox htaken fun before hnone hbefore =>
        hcall _ before _ hentry hnone hbefore hpayload

/-! ## The projections -/

theorem Forward.movesForward (h : system.Forward) : system.MovesForward where
  later := h.later
  grows := h.grows
  bySandbox := by
    intro sandboxId entry hentry
    unfold WasmEngineMetricsRegistry.projectBySandbox
    rw [hentry, ← (h.tracks sandboxId entry hentry).last]
    rfl
  byApplication := by
    rintro order applicationId ⟨-, horder⟩
    unfold WasmEngineMetricsRegistry.projectByApplication
    cases hfind : (order.filterMap system.registry.entries).find?
        fun entry => entry.applicationId == some applicationId with
    | none =>
      have hopened : system.opened applicationId = none := by
        cases hsome : system.opened applicationId with
        | none => rfl
        | some sandboxId =>
          obtain ⟨entry, hentry, happlication⟩ := (h.opened applicationId sandboxId).mp hsome
          have hmem : entry ∈ order.filterMap system.registry.entries :=
            List.mem_filterMap.mpr ⟨sandboxId, (horder sandboxId).mpr (by rw [hentry]; rfl), hentry⟩
          exact absurd (beq_iff_eq.mpr happlication) (List.find?_eq_none.mp hfind entry hmem)
      rw [hopened]
    | some entry =>
      obtain ⟨sandboxId, -, hentry⟩ := List.mem_filterMap.mp (List.mem_of_find?_eq_some hfind)
      have hfound : (entry.applicationId == some applicationId) = true :=
        List.find?_some (p := fun entry : WasmEngineMetricsEntry => entry.applicationId == some applicationId) hfind
      have happlication := beq_iff_eq.mp hfound
      rw [(h.opened applicationId sandboxId).mpr ⟨entry, hentry, happlication⟩]
      dsimp only
      unfold WasmEngineMetricsRegistry.projectBySandbox
      rw [hentry]

/-! ## Generations -/

/-- The windows of a system are not behind those of another one. -/
def NotBehind (before after : MetricsSystem) : Prop :=
  ∀ sandboxId entry, before.registry.entries sandboxId = some entry →
    ∃ later, after.registry.entries sandboxId = some later ∧
      entry.window.executionGeneration ≤ later.window.executionGeneration

theorem NotBehind.refl (system : MetricsSystem) : NotBehind system system :=
  fun _ entry hentry => ⟨entry, hentry, Nat.le_refl _⟩

theorem NotBehind.trans {first second third : MetricsSystem} (h : NotBehind first second) (h' : NotBehind second third) :
    NotBehind first third := by
  intro sandboxId entry hentry
  obtain ⟨between, hbetween, hle⟩ := h sandboxId entry hentry
  obtain ⟨later, hlater, hle'⟩ := h' sandboxId between hbetween
  exact ⟨later, hlater, Nat.le_trans hle hle'⟩

theorem step_of_error {system : MetricsSystem} {call : MetricsCall} {failure : KernelError}
    (h : system.registry.call call = .error failure) : system.step call = system := by
  unfold MetricsSystem.step
  rw [h]

theorem notBehind_step (system : MetricsSystem) (call : MetricsCall) : NotBehind system (system.step call) := by
  unfold MetricsSystem.step
  cases hresult : system.registry.call call with
  | error failure => exact .refl system
  | ok registry =>
    have hcalled := called_of_ok hresult
    cases hcalled with
    | confirmed => exact fun _ entry hentry => ⟨entry, hentry, Nat.le_refl _⟩
    | @opened fence applicationId hforward =>
      intro sandboxId entry hentry
      by_cases hsandbox : sandboxId = fence.sandboxId
      · rw [hsandbox] at hentry ⊢
        exact ⟨_, Function.update_self _ _ _, Nat.le_of_lt (hforward entry hentry)⟩
      · exact ⟨entry, (Function.update_of_ne hsandbox _ _).trans hentry, Nat.le_refl _⟩
    | @accepted fence payload fuelEnabled taken sample next hpayload htakenEntry hsame htaken =>
      intro sandboxId entry hentry
      by_cases hsandbox : sandboxId = fence.sandboxId
      · rw [hsandbox] at hentry ⊢
        rw [htakenEntry] at hentry
        cases hentry
        exact ⟨_, Function.update_self _ _ _, Nat.le_of_eq htaken.next_generation.symm⟩
      · exact ⟨entry, (Function.update_of_ne hsandbox _ _).trans hentry, Nat.le_refl _⟩

theorem notBehind_run (system : MetricsSystem) (calls : List MetricsCall) :
    NotBehind system (run MetricsSystem.step system calls) := by
  induction calls generalizing system with
  | nil => exact .refl system
  | cons call calls ih => exact (notBehind_step system call).trans (ih _)

end MetricsSystem

/-- In every run whose accepted calls meet the condition, the metrics move forward; in every run, no window goes back
to an earlier generation, and a refused call changes nothing. -/
theorem engine_metrics_move_forward (calls : List MetricsCall) :
    (Along MetricsSystem.step MetricsSystem.KeepsForward .initial calls →
      (run MetricsSystem.step .initial calls).MovesForward) ∧
    (∀ more, MetricsSystem.NotBehind (run MetricsSystem.step .initial calls)
      (run MetricsSystem.step .initial (calls ++ more))) ∧
    ∀ call failure, (run MetricsSystem.step .initial calls).registry.call call = .error failure →
      run MetricsSystem.step .initial (calls ++ [call]) = run MetricsSystem.step .initial calls := by
  refine ⟨fun hgood => ?_, fun more => ?_, fun call failure hfailure => ?_⟩
  · exact (hgood.invariant (fun _ _ hcall h => h.step hcall) MetricsSystem.forward_initial).movesForward
  · rw [run_append]
    exact MetricsSystem.notBehind_run _ more
  · rw [run_append, run_cons, run_nil, MetricsSystem.step_of_error hfailure]

namespace Vectors

/-- An execution of the test package. -/
def metricsFence (sandboxId : String) : WasmEngineMetricsFence where
  sandboxId := sandboxId
  versionId := versionId 1
  packageDigest := hex 64 'a'
  runtimeBinding := bindingV1
  capabilityRecordRevision := 5
  capabilityRecordHash := hex 64 'f'
  secretRevision := 3
  configRevision := 0
  configSnapshotRef := none
  preparationGeneration := 1
  executionGeneration := 1

/-- The binding of the test package as the supervisor writes it. -/
def metricsBinding : Json :=
  .object [("kind", .string bindingV1.kind), ("catalogRevision", .ofNat bindingV1.catalogRevision),
    ("catalogHash", .string bindingV1.catalogHash), ("entryKey", .string bindingV1.entryKey),
    ("imageDigest", .string bindingV1.imageDigest), ("hostABI", .string bindingV1.hostAbi),
    ("world", .string bindingV1.world)]

/-- A sample of the execution, at a second of a minute. -/
def metricsSample (sandboxId second : String) (engine : Option WasmEngineCountersV1) : Json :=
  .object [("schemaVersion", .ofNat 1), ("sandboxId", .string sandboxId), ("versionId", .string (versionId 1)),
    ("packageDigest", .string (hex 64 'a')), ("runtimeBinding", metricsBinding),
    ("capabilityRecordRevision", .ofNat 5), ("capabilityRecordHash", .string (hex 64 'f')),
    ("secretRevision", .ofNat 3), ("configRevision", .ofNat 0), ("configSnapshotRef", .null),
    ("preparationGeneration", .ofNat 1), ("executionGeneration", .ofNat 1),
    ("sampledAt", .string ("2026-08-26T00:00:" ++ second ++ ".000Z")),
    ("availability", .string (if engine.isSome = true then "available" else "unavailable")),
    ("engine", .nullable WasmEngineCountersV1.toJson engine)]

/-- A window is opened and samples are taken in it. -/
def metricsRun (samples : List (String × Option WasmEngineCountersV1)) : List MetricsCall :=
  .openWindow (metricsFence "sbx-orders") (some "orders") ::
    samples.map fun sample => .accept (metricsFence "sbx-orders") (metricsSample "sbx-orders" sample.1 sample.2) none

end Vectors

open Vectors

/-- A window that counts, and then goes through an unavailable sample. -/
theorem engine_metrics_move_forward_once :
    (run MetricsSystem.step .initial
      (metricsRun [("00", some ⟨none, 0, 1, 1, 65536⟩), ("30", none)])).MovesForward := by
  refine (engine_metrics_move_forward _).1 ?_
  refine ⟨fun _ => ⟨fun _ _ _ hentry => (nomatch hentry), fun _ hentry => (nomatch hentry)⟩, ?_, ?_, trivial⟩
  · intro _ entry before sample hentry _ hbefore
    cases hentry
    cases hbefore
  · intro _ entry before sample hentry hnone
    have hcounts : ((run MetricsSystem.step .initial
        (metricsRun [("00", some ⟨none, 0, 1, 1, 65536⟩)])).registry.entries "sbx-orders").all
          (fun entry => entry.window.tracking.isSome) = true := by decide +kernel
    have hentry : (run MetricsSystem.step .initial
        (metricsRun [("00", some ⟨none, 0, 1, 1, 65536⟩)])).registry.entries "sbx-orders" = some entry := hentry
    rw [hentry, Option.all_some, hnone] at hcounts
    cases hcounts

/-- Windows of two executions of one application, one after the other. -/
def twoWindows : List MetricsCall :=
  [.openWindow (metricsFence "sbx-one") (some "orders"), .openWindow (metricsFence "sbx-two") (some "orders")]

/-- The sandbox a projection shows. -/
def shownSandbox : Json → Option String
  | .object members => (Json.field members "sandboxId").asStr
  | _ => none

/-- A first available sample is accepted though an unavailable one was taken half a minute after it; and an
application shows the execution before the one opened last. -/
theorem engine_metrics_move_back :
    ¬ (run MetricsSystem.step .initial
      (metricsRun [("30", none), ("00", some ⟨none, 0, 1, 1, 65536⟩)])).MovesForward ∧
    ¬ (run MetricsSystem.step .initial twoWindows).MovesForward := by
  constructor
  · intro hforward
    have htimes : ((run MetricsSystem.step .initial
        (metricsRun [("30", none), ("00", some ⟨none, 0, 1, 1, 65536⟩)])).samplesOf "sbx-orders" 1).map
          WasmEngineMetricsV1.sampledAt = ["2026-08-26T00:00:30.000Z", "2026-08-26T00:00:00.000Z"] := by
      decide +kernel
    have hlater := (List.pairwise_map (R := fun first second => ∃ ms laterMs,
      parseRfc3339UtcMillis first = .ok ms ∧ parseRfc3339UtcMillis second = .ok laterMs ∧ ms < laterMs)).mpr
      (hforward.later "sbx-orders" 1)
    rw [htimes, List.pairwise_pair] at hlater
    obtain ⟨ms, laterMs, hms, hlaterMs, hlt⟩ := hlater
    have hfirst : parseRfc3339UtcMillis "2026-08-26T00:00:30.000Z" = .ok 1787702430000 := by decide +kernel
    have hsecond : parseRfc3339UtcMillis "2026-08-26T00:00:00.000Z" = .ok 1787702400000 := by decide +kernel
    rw [hfirst] at hms
    rw [hsecond] at hlaterMs
    cases hms
    cases hlaterMs
    omega
  · intro hforward
    have horder : (run MetricsSystem.step .initial twoWindows).registry.IsOrder ["sbx-one", "sbx-two"] := by
      refine ⟨by decide, fun sandboxId => ?_⟩
      have hentries : (run MetricsSystem.step .initial twoWindows).registry.entries =
          Function.update (Function.update (fun _ => none) "sbx-one"
            (some ⟨some "orders", metricsFence "sbx-one", ⟨1, none⟩, none⟩)) "sbx-two"
            (some ⟨some "orders", metricsFence "sbx-two", ⟨1, none⟩, none⟩) := rfl
      rw [hentries, Function.update_apply, Function.update_apply, List.mem_cons, List.mem_singleton]
      by_cases htwo : sandboxId = "sbx-two"
      · rw [if_pos htwo]
        exact ⟨fun _ => rfl, fun _ => .inr htwo⟩
      · rw [if_neg htwo]
        by_cases hone : sandboxId = "sbx-one"
        · rw [if_pos hone]
          exact ⟨fun _ => rfl, fun _ => .inl hone⟩
        · rw [if_neg hone]
          exact ⟨fun hmem => absurd hmem (not_or.mpr ⟨hone, htwo⟩), fun hnone => Bool.noConfusion hnone⟩
    have hshown := hforward.byApplication ["sbx-one", "sbx-two"] "orders" horder
    have hone : (run MetricsSystem.step .initial twoWindows).registry.projectByApplication ["sbx-one", "sbx-two"]
      "orders" = projectWasmEngine (metricsFence "sbx-one") none := rfl
    have htwo : (run MetricsSystem.step .initial twoWindows).registry.projectBySandbox "sbx-two" =
      projectWasmEngine (metricsFence "sbx-two") none := rfl
    rw [show (run MetricsSystem.step .initial twoWindows).opened "orders" = some "sbx-two" from rfl, hone] at hshown
    dsimp only at hshown
    rw [htwo] at hshown
    exact absurd (congrArg shownSandbox hshown) (by decide)

end Iweb
