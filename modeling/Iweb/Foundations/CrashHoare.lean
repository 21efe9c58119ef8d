import Mathlib.Data.List.Basic

/-!
# Programs of durable writes and their crash triples

A program runs over a durable state; each write it makes is a point where it can crash, and the crash
leaves the state after that write. A triple `Triple P m Q E C` says: from a state with `P`, a normal end
satisfies `Q`, an end with an error satisfies `E`, and every state after a write satisfies the crash
condition `C`.
-/

namespace Iweb.CrashHoare

/-- How a program ran: the states after its writes, the state it ended in, and its result. -/
structure Ran (σ ε α : Type) where
  trace : List σ
  final : σ
  result : Except ε α

/-- A program over a durable state. -/
def Prog (σ ε α : Type) : Type := σ → Ran σ ε α

variable {σ ε α β : Type}

namespace Prog

protected def pure (a : α) : Prog σ ε α := fun s => ⟨[], s, .ok a⟩

protected def bind (m : Prog σ ε α) (f : α → Prog σ ε β) : Prog σ ε β := fun s =>
  match (m s).result with
  | .error e => ⟨(m s).trace, (m s).final, .error e⟩
  | .ok a => ⟨(m s).trace ++ (f a (m s).final).trace, (f a (m s).final).final, (f a (m s).final).result⟩

instance : Monad (Prog σ ε) where
  pure := Prog.pure
  bind := Prog.bind

/-- Read from the state. -/
def read (f : σ → α) : Prog σ ε α := fun s => ⟨[], s, .ok (f s)⟩

/-- One write, which may fail. -/
def write (f : σ → σ × Except ε α) : Prog σ ε α := fun s => ⟨[(f s).1], (f s).1, (f s).2⟩

/-- A result computed without the state. -/
def lift (x : Except ε α) : Prog σ ε α := fun s => ⟨[], s, x⟩

/-- Run a program and hand over its result, also when it fails. -/
def attempt (m : Prog σ ε α) : Prog σ ε (Except ε α) := fun s => ⟨(m s).trace, (m s).final, .ok (m s).result⟩

/-- Run a program; if it fails, clean up and fail with the same error. A failure of the cleanup itself is
ignored. -/
def onError (m : Prog σ ε α) (cleanup : ε → Prog σ ε β) : Prog σ ε α := do
  match ← m.attempt with
  | .ok a => return a
  | .error e => do
    let _ ← (cleanup e).attempt
    lift (.error e)

/-- A program without its result. -/
def void (m : Prog σ ε α) : Prog σ ε Unit := do
  let _ ← m
  return ()

/-- The state a run leaves: its last state, or the state after the given number of writes if it crashes
there. -/
def leaves (m : Prog σ ε α) (crash : Option Nat) (s : σ) : σ :=
  match crash with
  | none => (m s).final
  | some 0 => s
  | some (n + 1) => ((m s).trace[n]?).getD (m s).final

end Prog

open Prog

/-- A crash triple. -/
def Triple (P : σ → Prop) (m : Prog σ ε α) (Q : α → σ → Prop) (E : ε → σ → Prop) (C : σ → Prop) : Prop :=
  ∀ s, P s → (∀ t ∈ (m s).trace, C t) ∧
    match (m s).result with
    | .ok a => Q a (m s).final
    | .error e => E e (m s).final

variable {P P' C : σ → Prop} {Q Q' : α → σ → Prop} {R : β → σ → Prop} {E E' : ε → σ → Prop}

theorem Triple.pure {a : α} (h : ∀ s, P s → Q a s) : Triple P (Pure.pure a : Prog σ ε α) Q E C := by
  intro s hs
  refine ⟨?_, h s hs⟩
  intro t ht
  cases ht

theorem Triple.bind {m : Prog σ ε α} {f : α → Prog σ ε β} (hm : Triple P m Q E C)
    (hf : ∀ a, Triple (Q a) (f a) R E C) : Triple P (m >>= f) R E C := by
  intro s hs
  obtain ⟨htrace, hend⟩ := hm s hs
  show (∀ t ∈ (Prog.bind m f s).trace, C t) ∧
    match (Prog.bind m f s).result with
    | .ok b => R b (Prog.bind m f s).final
    | .error e => E e (Prog.bind m f s).final
  cases hresult : (m s).result with
  | error e =>
    rw [hresult] at hend
    simp only [Prog.bind, hresult]
    exact ⟨htrace, hend⟩
  | ok a =>
    rw [hresult] at hend
    obtain ⟨htrace', hend'⟩ := hf a (m s).final hend
    simp only [Prog.bind, hresult]
    refine ⟨?_, hend'⟩
    intro t ht
    rcases List.mem_append.mp ht with ht | ht
    · exact htrace t ht
    · exact htrace' t ht

theorem Triple.read {f : σ → α} (h : ∀ s, P s → Q (f s) s) :
    Triple P (Prog.read f : Prog σ ε α) Q E C := by
  intro s hs
  refine ⟨?_, h s hs⟩
  intro t ht
  cases ht

/-- A write must establish the crash condition, whether it succeeds or fails. -/
theorem Triple.write {f : σ → σ × Except ε α} (hC : ∀ s, P s → C (f s).1)
    (hQ : ∀ s a, P s → (f s).2 = .ok a → Q a (f s).1)
    (hE : ∀ s e, P s → (f s).2 = .error e → E e (f s).1) : Triple P (Prog.write f) Q E C := by
  intro s hs
  refine ⟨?_, ?_⟩
  · intro t ht
    obtain rfl := List.mem_singleton.mp ht
    exact hC s hs
  · show match (f s).2 with
      | .ok a => Q a (f s).1
      | .error e => E e (f s).1
    cases hresult : (f s).2 with
    | ok a => exact hQ s a hs hresult
    | error e => exact hE s e hs hresult

/-- A write that cannot fail; what it establishes implies the crash condition. -/
theorem Triple.write_total {f : σ → σ × Except ε α}
    (h : ∀ s, P s → ∃ s' a, f s = (s', .ok a) ∧ Q a s') (hC : ∀ a s, Q a s → C s) :
    Triple P (Prog.write f) Q (fun _ _ => False) C := by
  refine Triple.write ?_ ?_ ?_
  · intro s hs
    obtain ⟨s', a, hf, hQ⟩ := h s hs
    rw [hf]
    exact hC a s' hQ
  · intro s b hs hb
    obtain ⟨s', a, hf, hQ⟩ := h s hs
    rw [hf] at hb ⊢
    obtain rfl := Except.ok.inj hb
    exact hQ
  · intro s e hs he
    obtain ⟨s', a, hf, -⟩ := h s hs
    rw [hf] at he
    cases he

theorem Triple.lift {x : Except ε α} (hQ : ∀ s a, P s → x = .ok a → Q a s)
    (hE : ∀ s e, P s → x = .error e → E e s) : Triple P (Prog.lift x : Prog σ ε α) Q E C := by
  intro s hs
  refine ⟨?_, ?_⟩
  · intro t ht
    cases ht
  · cases x with
    | ok a => exact hQ s a hs rfl
    | error e => exact hE s e hs rfl

theorem Triple.void {m : Prog σ ε α} {Q : σ → Prop} (h : Triple P m (fun _ => Q) E C) :
    Triple P m.void (fun _ => Q) E C :=
  Triple.bind h fun _ => Triple.pure fun _ hs => hs

theorem Triple.attempt {m : Prog σ ε α} (h : Triple P m Q E C) :
    Triple P m.attempt (fun result s => match result with | .ok a => Q a s | .error e => E e s) E' C := by
  intro s hs
  exact h s hs

theorem Triple.consequence {C' : σ → Prop} {m : Prog σ ε α} (h : Triple P m Q E C)
    (hP : ∀ s, P' s → P s) (hQ : ∀ a s, Q a s → Q' a s) (hE : ∀ e s, E e s → E' e s)
    (hC : ∀ s, C s → C' s) : Triple P' m Q' E' C' := by
  intro s hs
  obtain ⟨htrace, hend⟩ := h s (hP s hs)
  refine ⟨fun t ht => hC t (htrace t ht), ?_⟩
  cases hresult : (m s).result with
  | ok a =>
    rw [hresult] at hend
    exact hQ a _ hend
  | error e =>
    rw [hresult] at hend
    exact hE e _ hend

/-- A program whose precondition cannot hold. -/
theorem Triple.vacuous {m : Prog σ ε α} (h : ∀ s, ¬ P s) : Triple P m Q E C :=
  fun s hs => absurd hs (h s)

/-- A pure fact of the precondition may be used to prove the triple. -/
theorem Triple.assume {p : Prop} {m : Prog σ ε α} (hp : ∀ s, P s → p) (h : p → Triple P m Q E C) :
    Triple P m Q E C :=
  fun s hs => h (hp s hs) s hs

/-- After a failure the cleanup runs, and the program fails with the same error. -/
theorem Triple.onError {m : Prog σ ε α} {cleanup : ε → Prog σ ε β} (hm : Triple P m Q E C)
    (hcleanup : ∀ e, Triple (E e) (cleanup e) (fun _ => E' e) (fun _ => E' e) C) :
    Triple P (m.onError cleanup) Q E' C := by
  refine Triple.bind hm.attempt fun result => ?_
  cases result with
  | ok a => exact Triple.pure fun s hs => hs
  | error e =>
    refine Triple.bind (hcleanup e).attempt fun result => ?_
    refine Triple.lift (fun s a _ hresult => nomatch hresult) fun s e' hs hresult => ?_
    obtain rfl := Except.error.inj hresult
    cases result with
    | ok u => exact hs
    | error _ => exact hs

/-- What a triple says about a run that ends normally. -/
theorem Triple.of_ok {m : Prog σ ε α} (h : Triple P m Q E C) {s : σ} {a : α} (hs : P s)
    (hresult : (m s).result = .ok a) : Q a (m s).final := by
  have hend := (h s hs).2
  rw [hresult] at hend
  exact hend

/-- What a triple says about a run that fails. -/
theorem Triple.of_error {m : Prog σ ε α} (h : Triple P m Q E C) {s : σ} {e : ε} (hs : P s)
    (hresult : (m s).result = .error e) : E e (m s).final := by
  have hend := (h s hs).2
  rw [hresult] at hend
  exact hend

/-- What a triple says about the state a run leaves, crashed or not. -/
theorem Triple.leaves {m : Prog σ ε α} (h : Triple P m (fun _ => C) (fun _ => C) C)
    (hP : ∀ s, P s → C s) (crash : Option Nat) {s : σ} (hs : P s) : C (m.leaves crash s) := by
  obtain ⟨htrace, hend⟩ := h s hs
  have hfinal : C (m s).final := by
    cases hresult : (m s).result with
    | ok a =>
      rw [hresult] at hend
      exact hend
    | error e =>
      rw [hresult] at hend
      exact hend
  match crash with
  | none => exact hfinal
  | some 0 => exact hP s hs
  | some (n + 1) =>
    show C (((m s).trace[n]?).getD (m s).final)
    cases hn : (m s).trace[n]? with
    | none => exact hfinal
    | some t => exact htrace t (List.mem_of_getElem? hn)

/-! ## Programs that commit or fail -/

/-- From a state, a program fails and leaves it as it was, or ends with an answer and a state in a relation. -/
def Commits (s : σ) (m : Prog σ ε α) (R : α → σ → Prop) : Prop :=
  match (m s).result with
  | .ok a => R a (m s).final
  | .error _ => (m s).final = s

variable {s : σ} {R' : α → σ → Prop}

theorem Commits.of_ok {m : Prog σ ε α} {a : α} (h : Commits s m R') (hresult : (m s).result = .ok a) :
    R' a (m s).final := by
  unfold Commits at h
  rw [hresult] at h
  exact h

theorem Commits.of_error {m : Prog σ ε α} {e : ε} (h : Commits s m R') (hresult : (m s).result = .error e) :
    (m s).final = s := by
  unfold Commits at h
  rw [hresult] at h
  exact h

theorem Commits.intro {m : Prog σ ε α} {a : α} (hresult : (m s).result = .ok a) (h : R' a (m s).final) :
    Commits s m R' := by
  unfold Commits
  rw [hresult]
  exact h

theorem Commits.pure {a : α} (h : R' a s) : Commits s (Pure.pure a : Prog σ ε α) R' := h

theorem Commits.fail (e : ε) : Commits s (Prog.lift (.error e) : Prog σ ε α) R' := rfl

/-- What comes before the first write may fail. -/
theorem Commits.bind {m : Prog σ ε α} {f : α → Prog σ ε β} {R : β → σ → Prop} (hm : (m s).final = s)
    (h : ∀ a, (m s).result = .ok a → Commits s (f a) R) : Commits s (m >>= f) R := by
  show match (Prog.bind m f s).result with
    | .ok b => R b (Prog.bind m f s).final
    | .error _ => (Prog.bind m f s).final = s
  unfold Prog.bind
  cases hresult : (m s).result with
  | ok a =>
    have hrest := h a hresult
    unfold Commits at hrest
    rw [hm]
    exact hrest
  | error e => exact hm

theorem Commits.lift_bind {x : Except ε α} {f : α → Prog σ ε β} {R : β → σ → Prop}
    (h : ∀ a, x = .ok a → Commits s (f a) R) : Commits s (Prog.lift x >>= f) R :=
  Commits.bind rfl h

theorem Commits.read_bind {g : σ → α} {f : α → Prog σ ε β} {R : β → σ → Prop} (h : Commits s (f (g s)) R) :
    Commits s (Prog.read g >>= f) R := h

/-- A program followed by one that only answers. -/
theorem Commits.map {m : Prog σ ε α} {f : α → β} {R : β → σ → Prop} (h : Commits s m fun a s' => R (f a) s') :
    Commits s (m >>= fun a => Pure.pure (f a)) R := by
  show match (Prog.bind m (fun a => Prog.pure (f a)) s).result with
    | .ok b => R b (Prog.bind m (fun a => Prog.pure (f a)) s).final
    | .error _ => (Prog.bind m (fun a => Prog.pure (f a)) s).final = s
  unfold Commits at h
  unfold Prog.bind
  cases hresult : (m s).result with
  | ok a =>
    rw [hresult] at h
    exact h
  | error e =>
    rw [hresult] at h
    exact h

/-- The answer of a program with the state it ends in, or its error. -/
def Prog.outcome (m : Prog σ ε α) (s : σ) : Except ε (α × σ) := (m s).result.map fun a => (a, (m s).final)

theorem Prog.outcome_lift_bind (x : Except ε α) (f : α → Prog σ ε β) (s : σ) :
    (Prog.lift x >>= f).outcome s = x >>= fun a => (f a).outcome s := by
  cases x with
  | ok a => rfl
  | error e => rfl

theorem Prog.outcome_read_bind (g : σ → α) (f : α → Prog σ ε β) (s : σ) :
    (Prog.read g >>= f).outcome s = (f (g s)).outcome s := rfl

theorem Prog.outcome_bind {m : Prog σ ε α} {f : α → Prog σ ε β} {x : Except ε α} (h : m s = ⟨[], s, x⟩) :
    (m >>= f).outcome s = x >>= fun a => (f a).outcome s := by
  have hsame : (m >>= f) s = (Prog.lift x >>= f) s := by
    show Prog.bind m f s = Prog.bind (Prog.lift x) f s
    unfold Prog.bind
    rw [h]
    rfl
  rw [← Prog.outcome_lift_bind]
  unfold Prog.outcome
  rw [hsame]

end Iweb.CrashHoare
