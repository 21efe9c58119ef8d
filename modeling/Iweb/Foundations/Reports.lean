import Mathlib.Data.List.Forall2

/-!
# Checks that report

A check takes its input or stops, and reports the issues it finds on the way; it may report some and go on. It accepts
what it gives without a report, and a sequence of checks accepts if each of them does.
-/

namespace Iweb

structure Report (ε α : Type) where
  value : Option α
  issues : List ε

namespace Report

variable {ε α β : Type}

/-- A check that stops with an issue. -/
def refuse (issue : ε) : Report ε α := ⟨none, [issue]⟩

/-- A check that goes on, whatever it reports. -/
def note (issues : List ε) : Report ε Unit := ⟨some (), issues⟩

/-- A check that stops after its first issue. -/
def require (issue : Option ε) : Report ε Unit := issue.elim ⟨some (), []⟩ refuse

def ofPair (checked : Option α × List ε) : Report ε α := ⟨checked.1, checked.2⟩

def ofExcept (checked : Except ε α) : Report ε α :=
  match checked with
  | .ok a => ⟨some a, []⟩
  | .error issue => refuse issue

/-- The check goes on to the next only if nothing was reported. -/
def settled (report : Report ε α) : Report ε α := if report.issues.isEmpty then report else ⟨none, report.issues⟩

instance : Monad (Report ε) where
  pure a := ⟨some a, []⟩
  bind report next :=
    match report.value with
    | none => ⟨none, report.issues⟩
    | some a => ⟨(next a).value, report.issues ++ (next a).issues⟩

/-- The checks of a list, each under its index, up to the first that stops. -/
def each (check : ℕ → α → Report ε β) : ℕ → List α → Report ε (List β)
  | _, [] => pure []
  | i, a :: rest => do
    let b ← check i a
    return b :: (← each check (i + 1) rest)

def Accepts (report : Report ε α) (a : α) : Prop := report.value = some a ∧ report.issues = []

theorem Accepts.unique {report : Report ε α} {a a' : α} (h : report.Accepts a) (h' : report.Accepts a') : a = a' :=
  Option.some.inj (h.1.symm.trans h'.1)

@[simp] theorem accepts_pure {a a' : α} : (pure a : Report ε α).Accepts a' ↔ a = a' :=
  ⟨fun h => Option.some.inj h.1, fun h => ⟨congrArg some h, rfl⟩⟩

@[simp] theorem accepts_bind {report : Report ε α} {next : α → Report ε β} {b : β} :
    (report >>= next).Accepts b ↔ ∃ a, report.Accepts a ∧ (next a).Accepts b := by
  obtain ⟨value, issues⟩ := report
  cases value with
  | none =>
    constructor
    · intro h
      cases h.1
    · rintro ⟨a, ⟨hvalue, -⟩, -⟩
      cases hvalue
  | some a =>
    constructor
    · rintro ⟨hvalue, hissues⟩
      obtain ⟨hfirst, hnext⟩ := List.append_eq_nil_iff.mp hissues
      exact ⟨a, ⟨rfl, hfirst⟩, hvalue, hnext⟩
    · rintro ⟨a', ⟨hvalue, hfirst⟩, hnext⟩
      cases hvalue
      exact ⟨hnext.1, List.append_eq_nil_iff.mpr ⟨hfirst, hnext.2⟩⟩

@[simp] theorem not_accepts_refuse {issue : ε} {a : α} : ¬ (refuse issue : Report ε α).Accepts a := by
  intro h
  cases h.1

@[simp] theorem accepts_note {issues : List ε} {u : Unit} : (note issues).Accepts u ↔ issues = [] :=
  ⟨fun h => h.2, fun h => ⟨rfl, h⟩⟩

@[simp] theorem accepts_require {issue : Option ε} {u : Unit} : (require issue).Accepts u ↔ issue = none := by
  cases issue with
  | none => exact ⟨fun _ => rfl, fun _ => ⟨rfl, rfl⟩⟩
  | some issue =>
    refine ⟨fun h => absurd h not_accepts_refuse, fun h => ?_⟩
    cases h

@[simp] theorem accepts_ofPair {checked : Option α × List ε} {a : α} :
    (ofPair checked).Accepts a ↔ checked = (some a, []) :=
  ⟨fun h => Prod.ext h.1 h.2, fun h => ⟨congrArg Prod.fst h, congrArg Prod.snd h⟩⟩

@[simp] theorem accepts_ofExcept {checked : Except ε α} {a : α} : (ofExcept checked).Accepts a ↔ checked = .ok a := by
  cases checked with
  | ok a' => exact ⟨fun h => congrArg _ (Option.some.inj h.1), fun h => ⟨congrArg some (Except.ok.inj h), rfl⟩⟩
  | error issue =>
    refine ⟨fun h => absurd h not_accepts_refuse, fun h => ?_⟩
    cases h

@[simp] theorem accepts_settled {report : Report ε α} {a : α} : report.settled.Accepts a ↔ report.Accepts a := by
  unfold settled
  by_cases hissues : report.issues.isEmpty = true
  · rw [if_pos hissues]
  · rw [if_neg hissues]
    refine ⟨fun h => ?_, fun h => ?_⟩
    · cases h.1
    · exact absurd (List.isEmpty_iff.mpr h.2) hissues

/-- The checks of a list accept one by one. -/
theorem Accepts.each {check : ℕ → α → Report ε β} {i : ℕ} {as : List α} {bs : List β}
    (h : (Report.each check i as).Accepts bs) : List.Forall₂ (fun a b => ∃ i, (check i a).Accepts b) as bs := by
  induction as generalizing i bs with
  | nil =>
    rw [← accepts_pure.mp h]
    exact .nil
  | cons a as ih =>
    obtain ⟨b, hb, h⟩ := accepts_bind.mp h
    obtain ⟨bs', hbs, h⟩ := accepts_bind.mp h
    rw [← accepts_pure.mp h]
    exact .cons ⟨i, hb⟩ (ih hbs)

theorem Accepts.of_mem_each {check : ℕ → α → Report ε β} {i : ℕ} {as : List α} {bs : List β}
    (h : (Report.each check i as).Accepts bs) {b : β} (hb : b ∈ bs) : ∃ i a, (check i a).Accepts b := by
  have hall := h.each
  clear h
  induction hall with
  | nil => cases hb
  | cons hfirst _ ih =>
    rcases List.mem_cons.mp hb with rfl | hb
    · exact hfirst.elim fun i h => ⟨i, _, h⟩
    · exact ih hb

/-- A check that reports nothing if it gives a value. -/
def Clean (report : Report ε α) : Prop := ∀ a, report.value = some a → report.Accepts a

theorem clean_settled (report : Report ε α) : report.settled.Clean := by
  intro a h
  unfold settled at h ⊢
  by_cases hissues : report.issues.isEmpty = true
  · rw [if_pos hissues] at h ⊢
    exact ⟨h, List.isEmpty_iff.mp hissues⟩
  · rw [if_neg hissues] at h
    cases h

theorem clean_require (issue : Option ε) : (require issue).Clean := by
  cases issue with
  | none => exact fun _ h => ⟨h, rfl⟩
  | some issue =>
    intro a h
    cases h

theorem clean_pure (a : α) : (pure a : Report ε α).Clean := fun _ h => ⟨h, rfl⟩

theorem Clean.bind {report : Report ε α} {next : α → Report ε β} (h : report.Clean) (hnext : ∀ a, (next a).Clean) :
    (report >>= next).Clean := by
  intro b hb
  obtain ⟨value, issues⟩ := report
  cases value with
  | none => cases hb
  | some a => exact accepts_bind.mpr ⟨a, h a rfl, hnext a b hb⟩

end Report

end Iweb
