import Iweb.Foundations.CrashHoare
import Mathlib.Logic.Relation

/-!
# Programs whose writes are steps of a machine

A machine is a relation between the states before and after a step. A program runs on it if each of its writes is a
step, so that a crash leaves a state of the machine too. What the program knows of the state beside that is its
precondition and what it ends with.
-/

namespace Iweb.CrashHoare

open Relation (ReflTransGen)

variable {σ ε α β : Type}

/-- From a state that the machine has reached and that satisfies `P`, every write is a step; a normal end satisfies `Q`
and a failure `E`. -/
def RunsOn (r : σ → σ → Prop) (start : σ) (P : σ → Prop) (m : Prog σ ε α) (Q : α → σ → Prop) (E : ε → σ → Prop) : Prop :=
  Triple (fun s => ReflTransGen r start s ∧ P s) m (fun a s => ReflTransGen r start s ∧ Q a s)
    (fun e s => ReflTransGen r start s ∧ E e s) (ReflTransGen r start)

variable {r : σ → σ → Prop} {start : σ} {P P' : σ → Prop} {Q Q' : α → σ → Prop} {E E' : ε → σ → Prop}

theorem RunsOn.pure {a : α} (h : ∀ s, P s → Q a s) : RunsOn r start P (Pure.pure a : Prog σ ε α) Q E :=
  Triple.pure fun s hs => ⟨hs.1, h s hs.2⟩

theorem RunsOn.bind {m : Prog σ ε α} {f : α → Prog σ ε β} {S : β → σ → Prop} (hm : RunsOn r start P m Q E)
    (hf : ∀ a, RunsOn r start (Q a) (f a) S E) : RunsOn r start P (m >>= f) S E := Triple.bind hm hf

theorem RunsOn.read {f : σ → α} (h : ∀ s, P s → Q (f s) s) : RunsOn r start P (Prog.read f : Prog σ ε α) Q E :=
  Triple.read fun s hs => ⟨hs.1, h s hs.2⟩

/-- A read that nothing is kept of. -/
theorem RunsOn.look (f : σ → α) : RunsOn r start P (Prog.read f : Prog σ ε α) (fun _ => P) E :=
  RunsOn.read fun _ hs => hs

theorem RunsOn.lift {x : Except ε α} (h : ∀ s a, P s → x = .ok a → Q a s) (hE : ∀ s e, P s → x = .error e → E e s) :
    RunsOn r start P (Prog.lift x : Prog σ ε α) Q E :=
  Triple.lift (fun s a hs hx => ⟨hs.1, h s a hs.2 hx⟩) fun s e hs hx => ⟨hs.1, hE s e hs.2 hx⟩

/-- A write is a step. -/
theorem RunsOn.write {f : σ → σ × Except ε α} (hstep : ∀ s, P s → r s (f s).1)
    (hQ : ∀ s a, P s → (f s).2 = .ok a → Q a (f s).1) (hE : ∀ s e, P s → (f s).2 = .error e → E e (f s).1) :
    RunsOn r start P (Prog.write f) Q E :=
  Triple.write (fun s hs => hs.1.tail (hstep s hs.2)) (fun s a hs ha => ⟨hs.1.tail (hstep s hs.2), hQ s a hs.2 ha⟩)
    fun s e hs he => ⟨hs.1.tail (hstep s hs.2), hE s e hs.2 he⟩

/-- After an attempt it is known how it ended. -/
theorem RunsOn.attempt {m : Prog σ ε α} (h : RunsOn r start P m Q E) :
    RunsOn r start P m.attempt (fun result s => (∀ a, result = .ok a → Q a s) ∧ ∀ e, result = .error e → E e s) E' := by
  refine (Triple.attempt h).consequence (fun _ hs => hs) (fun result s hs => ?_) (fun _ _ hs => hs) fun _ hs => hs
  cases result with
  | ok a =>
    refine ⟨hs.1, fun a' ha => ?_, fun e he => ?_⟩
    · cases ha
      exact hs.2
    · cases he
  | error e =>
    refine ⟨hs.1, fun a ha => ?_, fun e' he => ?_⟩
    · cases ha
    · cases he
      exact hs.2

theorem RunsOn.consequence {m : Prog σ ε α} (h : RunsOn r start P m Q E) (hP : ∀ s, P' s → P s)
    (hQ : ∀ a s, Q a s → Q' a s) (hE : ∀ e s, E e s → E' e s) : RunsOn r start P' m Q' E' :=
  Triple.consequence h (fun s hs => ⟨hs.1, hP s hs.2⟩) (fun a s hs => ⟨hs.1, hQ a s hs.2⟩)
    (fun e s hs => ⟨hs.1, hE e s hs.2⟩) fun _ hs => hs

theorem RunsOn.pre {m : Prog σ ε α} (h : RunsOn r start P m Q E) (hP : ∀ s, P' s → P s) : RunsOn r start P' m Q E :=
  h.consequence hP (fun _ _ hs => hs) fun _ _ hs => hs

/-- Run a program for its effect only. -/
theorem RunsOn.ignore {m : Prog σ ε α} {S : σ → Prop} (h : RunsOn r start P m (fun _ => S) fun _ => S) :
    RunsOn r start P (m.attempt >>= fun _ => Pure.pure ()) (fun _ => S) fun _ => S := by
  refine RunsOn.bind h.attempt fun result => RunsOn.pure fun s hs => ?_
  cases result with
  | ok a => exact hs.1 a rfl
  | error e => exact hs.2 e rfl

/-- What is known of every state of the precondition may be used. -/
theorem RunsOn.assume {p : Prop} {m : Prog σ ε α} (hp : ∀ s, P s → p) (h : p → RunsOn r start P m Q E) :
    RunsOn r start P m Q E := Triple.assume (fun s hs => hp s hs.2) h

/-- A precondition may name what it speaks of. -/
theorem RunsOn.exists {γ : Type} {P : γ → σ → Prop} {m : Prog σ ε α} (h : ∀ c, RunsOn r start (P c) m Q E) :
    RunsOn r start (fun s => ∃ c, P c s) m Q E := by
  rintro s ⟨hreach, c, hs⟩
  exact h c s ⟨hreach, hs⟩

/-- A run leaves a state of the machine, crashed or not. -/
theorem RunsOn.leaves {m : Prog σ ε α} (h : RunsOn r start P m Q E) (hstart : P start) (crash : Option Nat) :
    ReflTransGen r start (m.leaves crash start) := by
  have hends : Triple (fun s => ReflTransGen r start s ∧ P s) m (fun _ => ReflTransGen r start)
      (fun _ => ReflTransGen r start) (ReflTransGen r start) :=
    Triple.consequence h (fun _ hs => hs) (fun _ _ hs => hs.1) (fun _ _ hs => hs.1) fun _ hs => hs
  exact hends.leaves (fun _ hs => hs.1) crash ⟨.refl, hstart⟩

/-! ## Programs beside the machine -/

/-- No write of the program changes what `f` reads of the state. -/
def Keeps {γ : Type} (f : σ → γ) (m : Prog σ ε α) : Prop :=
  ∀ v, Triple (fun s => f s = v) m (fun _ s => f s = v) (fun _ s => f s = v) (fun s => f s = v)

variable {γ : Type} {f : σ → γ}

theorem Keeps.pure (a : α) : Keeps f (Pure.pure a : Prog σ ε α) := fun _ => Triple.pure fun _ h => h

theorem Keeps.bind {m : Prog σ ε α} {g : α → Prog σ ε β} (hm : Keeps f m) (hg : ∀ a, Keeps f (g a)) :
    Keeps f (m >>= g) := fun v => Triple.bind (hm v) fun a => hg a v

theorem Keeps.read (g : σ → α) : Keeps f (Prog.read g : Prog σ ε α) := fun _ => Triple.read fun _ h => h

theorem Keeps.lift (x : Except ε α) : Keeps f (Prog.lift x : Prog σ ε α) :=
  fun _ => Triple.lift (fun _ _ h _ => h) fun _ _ h _ => h

theorem Keeps.write {g : σ → σ × Except ε α} (h : ∀ s, f (g s).1 = f s) : Keeps f (Prog.write g) :=
  fun _ => Triple.write (fun s hs => (h s).trans hs) (fun s _ hs _ => (h s).trans hs) fun s _ hs _ => (h s).trans hs

theorem Keeps.attempt {m : Prog σ ε α} (h : Keeps f m) : Keeps f m.attempt := by
  intro v
  refine (h v).attempt.consequence (fun _ hs => hs) (fun result s hs => ?_) (fun _ _ hs => hs) fun _ hs => hs
  cases result with
  | ok a => exact hs
  | error e => exact hs

/-- Where every change of the rest of the state is a step, such a program runs on the machine and respects every
assertion about what it keeps. -/
theorem RunsOn.of_keeps {m : Prog σ ε α} (h : Keeps f m) (hr : ∀ s s', f s' = f s → r s s')
    (hP : ∀ s s', f s' = f s → P s → P s') : RunsOn r start P m (fun _ => P) fun _ => P := by
  rintro s ⟨hreach, hs⟩
  obtain ⟨htrace, hend⟩ := h (f s) s rfl
  refine ⟨fun t ht => hreach.tail (hr s t (htrace t ht)), ?_⟩
  cases hresult : (m s).result with
  | ok a =>
    rw [hresult] at hend
    exact ⟨hreach.tail (hr s _ hend), hP s _ hend hs⟩
  | error e =>
    rw [hresult] at hend
    exact ⟨hreach.tail (hr s _ hend), hP s _ hend hs⟩

end Iweb.CrashHoare
