import Mathlib.Data.List.Basic

/-!
# Runs with crashes that refine an atomic specification

A concrete system performs operations; a crash can interrupt an operation and leave a state of its own.
The specification performs whole operations only. `Resolves` relates a history of the concrete system to
the history of whole operations it amounts to: each operation is replaced by one of the histories it may
resolve to (itself, if it completed; itself or nothing, if it was interrupted). If every single operation
resolves, so does every history.
-/

namespace Iweb.CrashRefinement

variable {σ α ι : Type}

/-- A history and the history of whole operations it amounts to. -/
inductive Resolves (allowed : ι → List ι → Prop) : List ι → List ι → Prop
  | nil : Resolves allowed [] []
  | cons {op : ι} {whole ops ops' : List ι} (h : allowed op whole) (rest : Resolves allowed ops ops') :
      Resolves allowed (op :: ops) (whole ++ ops')

/-- The state after a history. -/
def run (step : σ → ι → σ) (s : σ) (ops : List ι) : σ := ops.foldl step s

@[simp] theorem run_nil (step : σ → ι → σ) (s : σ) : run step s [] = s := rfl

@[simp] theorem run_cons (step : σ → ι → σ) (s : σ) (op : ι) (ops : List ι) :
    run step s (op :: ops) = run step (step s op) ops := rfl

theorem run_append (step : σ → ι → σ) (s : σ) (ops ops' : List ι) :
    run step s (ops ++ ops') = run step (run step s ops) ops' := List.foldl_append

/-- A property that every operation preserves holds after every history. -/
theorem run_invariant {step : σ → ι → σ} {P : σ → Prop} (hstep : ∀ s op, P s → P (step s op))
    (ops : List ι) {s : σ} (h : P s) : P (run step s ops) := by
  induction ops generalizing s with
  | nil => exact h
  | cons op ops ih => exact ih (hstep s op h)

/-- Every operation of a history meets a condition on the state before it. -/
def Along (step : σ → ι → σ) (good : σ → ι → Prop) : σ → List ι → Prop
  | _, [] => True
  | s, op :: ops => good s op ∧ Along step good (step s op) ops

instance Along.decidable {step : σ → ι → σ} {good : σ → ι → Prop} [∀ s op, Decidable (good s op)] :
    (s : σ) → (ops : List ι) → Decidable (Along step good s ops)
  | _, [] => .isTrue trivial
  | s, op :: ops =>
    have : Decidable (Along step good (step s op) ops) := Along.decidable (step s op) ops
    inferInstanceAs (Decidable (good s op ∧ Along step good (step s op) ops))

theorem along_append {step : σ → ι → σ} {good : σ → ι → Prop} {s : σ} {ops ops' : List ι} :
    Along step good s (ops ++ ops') ↔
      Along step good s ops ∧ Along step good (run step s ops) ops' := by
  induction ops generalizing s with
  | nil => simp [Along]
  | cons op ops ih => simp [Along, ih, and_assoc]

/-- A property that every operation meeting its condition preserves holds after every history of such
operations. -/
theorem Along.invariant {step : σ → ι → σ} {good : σ → ι → Prop} {P : σ → Prop}
    (hstep : ∀ s op, good s op → P s → P (step s op)) {s : σ} {ops : List ι}
    (hgood : Along step good s ops) (h : P s) : P (run step s ops) := by
  induction ops generalizing s with
  | nil => exact h
  | cons op ops ih => exact ih hgood.2 (hstep s op hgood.1 h)

/-- Along a history of such operations, a reflexive and transitive relation that each of them respects
connects the first state to the last. -/
theorem Along.invariant_rel {step : σ → ι → σ} {good : σ → ι → Prop} {P : σ → Prop} {r : σ → σ → Prop}
    (hrefl : ∀ s, r s s) (htrans : ∀ s t u, r s t → r t u → r s u)
    (hstep : ∀ s op, good s op → P s → P (step s op) ∧ r s (step s op)) {s : σ} {ops : List ι}
    (hgood : Along step good s ops) (h : P s) : P (run step s ops) ∧ r s (run step s ops) := by
  induction ops generalizing s with
  | nil => exact ⟨h, hrefl s⟩
  | cons op ops ih =>
    obtain ⟨hP, hr⟩ := hstep s op hgood.1 h
    obtain ⟨hP', hr'⟩ := ih hgood.2 hP
    exact ⟨hP', htrans s _ _ hr hr'⟩

theorem along_true {step : σ → ι → σ} {s : σ} {ops : List ι} : Along step (fun _ _ => True) s ops := by
  induction ops generalizing s with
  | nil => trivial
  | cons op ops ih => exact ⟨trivial, ih⟩

theorem along_of_forall {step : σ → ι → σ} {good : ι → Prop} {s : σ} {ops : List ι} (h : ∀ op ∈ ops, good op) :
    Along step (fun _ op => good op) s ops := by
  induction ops generalizing s with
  | nil => trivial
  | cons op ops ih => exact ⟨h op (List.mem_cons_self ..), ih fun o ho => h o (List.mem_cons_of_mem _ ho)⟩

theorem Along.and {step : σ → ι → σ} {good good' : σ → ι → Prop} {s : σ} {ops : List ι} (h : Along step good s ops)
    (h' : Along step good' s ops) : Along step (fun s op => good s op ∧ good' s op) s ops := by
  induction ops generalizing s with
  | nil => trivial
  | cons op ops ih => exact ⟨⟨h.1, h'.1⟩, ih h.2 h'.2⟩

/-- If every operation that meets its condition resolves, on related states, to whole operations of the
specification, so does every history of such operations, and the states it leads to are related. -/
theorem Along.exists_resolution {step : σ → ι → σ} {good : σ → ι → Prop} (spec : α → ι → α) (R : σ → α → Prop)
    (allowed : ι → List ι → Prop)
    (hstep : ∀ op s a, good s op → R s a → ∃ whole, allowed op whole ∧ R (step s op) (run spec a whole))
    {ops : List ι} {s : σ} {a : α} (hgood : Along step good s ops) (h : R s a) :
    ∃ ops', Resolves allowed ops ops' ∧ R (run step s ops) (run spec a ops') := by
  induction ops generalizing s a with
  | nil => exact ⟨[], .nil, h⟩
  | cons op ops ih =>
    obtain ⟨whole, hwhole, hR⟩ := hstep op s a hgood.1 h
    obtain ⟨ops', hres, hR'⟩ := ih hgood.2 hR
    refine ⟨whole ++ ops', .cons hwhole hres, ?_⟩
    rw [run_append]
    exact hR'

/-- If every operation of related states resolves to whole operations of the specification, every
history does, and the states it leads to are related. -/
theorem exists_resolution (step : σ → ι → σ) (spec : α → ι → α) (R : σ → α → Prop)
    (allowed : ι → List ι → Prop)
    (hstep : ∀ op s a, R s a → ∃ whole, allowed op whole ∧ R (step s op) (run spec a whole))
    (ops : List ι) {s : σ} {a : α} (h : R s a) :
    ∃ ops', Resolves allowed ops ops' ∧ R (run step s ops) (run spec a ops') :=
  Along.exists_resolution spec R allowed (fun op s a _ => hstep op s a) along_true h

/-- A history of operations that each refine the specification refines it as a whole. -/
theorem run_refines (step : σ → ι → σ) (spec : α → ι → α) (R : σ → α → Prop) (good : ι → Prop)
    (hstep : ∀ op s a, good op → R s a → R (step s op) (spec a op)) (ops : List ι)
    (hgood : ∀ op ∈ ops, good op) {s : σ} {a : α} (h : R s a) : R (run step s ops) (run spec a ops) := by
  induction ops generalizing s a with
  | nil => exact h
  | cons op ops ih =>
    exact ih (fun o ho => hgood o (List.mem_cons_of_mem _ ho)) (hstep op s a (hgood op (by simp)) h)

/-- Every operation of a resolution comes from the allowed replacements. -/
theorem Resolves.forall_mem {allowed : ι → List ι → Prop} {good : ι → Prop}
    (hgood : ∀ op whole, allowed op whole → ∀ o ∈ whole, good o) {ops ops' : List ι}
    (h : Resolves allowed ops ops') : ∀ o ∈ ops', good o := by
  induction h with
  | nil => simp
  | cons hallowed _ ih =>
    intro o ho
    rcases List.mem_append.mp ho with ho | ho
    · exact hgood _ _ hallowed o ho
    · exact ih o ho

end Iweb.CrashRefinement
