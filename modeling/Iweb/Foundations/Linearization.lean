import Mathlib.Data.List.Nodup
import Mathlib.Data.List.Permutation

/-!
# Linearizable histories

Several calls act on one object at the same time. A client sees when a call is invoked and when it is answered.
The history is linearizable if the answered calls can be put in an order in which the object serves them one at
a time, with the same answers and the same object at the end, and which keeps every call behind the calls that
were answered before it was invoked.

An order is built along a run: a call enters it at one moment between its invocation and its answer.
-/

namespace Iweb

/-- A moment of a history, as the clients see it. -/
inductive Moment (ρ : Type)
  | invoked (id : Nat)
  | answered (id : Nat) (answer : ρ)
deriving DecidableEq

/-- The moment answers this call. -/
def Moment.answers {ρ : Type} (id : Nat) : Moment ρ → Bool
  | .invoked _ => false
  | .answered other _ => other == id

variable {σ ι ρ : Type}

/-- The calls of an order are served one at a time, each with the answer it has there. -/
inductive Serial (serve : σ → ι → σ × ρ) (call : Nat → ι) : σ → List (Nat × ρ) → σ → Prop
  | nil {s : σ} : Serial serve call s [] s
  | cons {s s' s'' : σ} {id : Nat} {answer : ρ} {rest : List (Nat × ρ)} (h : serve s (call id) = (s', answer))
      (hrest : Serial serve call s' rest s'') : Serial serve call s ((id, answer) :: rest) s''

/-- An order of calls that has all answered ones, and perhaps others that were invoked. -/
structure Linearization (serve : σ → ι → σ × ρ) (call : Nat → ι) (s₀ : σ) (history : List (Moment ρ))
    (order : List (Nat × ρ)) (s : σ) : Prop where
  nodup : (order.map Prod.fst).Nodup
  serial : Serial serve call s₀ order s
  invoked : ∀ p ∈ order, Moment.invoked p.1 ∈ history
  answered : ∀ id answer, Moment.answered id answer ∈ history → (id, answer) ∈ order
  realTime : ∀ a answer b, [Moment.answered a answer, .invoked b].Sublist history → b ∈ order.map Prod.fst →
    [a, b].Sublist (order.map Prod.fst)

/-- The history is that of its answered calls, served one at a time. -/
def IsLinearizable (serve : σ → ι → σ × ρ) (call : Nat → ι) (s₀ : σ) (history : List (Moment ρ)) (s : σ) :
    Prop :=
  ∃ order, Linearization serve call s₀ history order s ∧
    ∀ id answer, (id, answer) ∈ order → Moment.answered id answer ∈ history

namespace Serial

variable {serve : σ → ι → σ × ρ} {call : Nat → ι}

theorem concat {s s' s'' : σ} {order : List (Nat × ρ)} {id : Nat} {answer : ρ}
    (h : Serial serve call s order s') (hserve : serve s' (call id) = (s'', answer)) :
    Serial serve call s (order ++ [(id, answer)]) s'' := by
  induction h with
  | nil => exact .cons hserve .nil
  | cons hfirst _ ih => exact .cons hfirst (ih hserve)

/-- The object at the end is what the calls make of it in their order. -/
theorem eq_foldl {s s' : σ} {order : List (Nat × ρ)} (h : Serial serve call s order s') :
    s' = order.foldl (fun s p => (serve s (call p.1)).1) s := by
  induction h with
  | nil => rfl
  | cons hfirst _ ih => rw [ih, List.foldl_cons, hfirst]

/-- Calls that leave the object as it is can be left out. -/
theorem filter {s s' : σ} {order : List (Nat × ρ)} {keeps : Nat × ρ → Bool} (h : Serial serve call s order s')
    (hidle : ∀ p ∈ order, keeps p = false → ∀ s, (serve s (call p.1)).2 = p.2 → (serve s (call p.1)).1 = s) :
    Serial serve call s (order.filter keeps) s' := by
  induction h with
  | nil => exact .nil
  | cons hfirst hrest ih =>
    rename_i s₁ s₂ s₃ id answer rest
    have hrest' := ih fun p hp => hidle p (List.mem_cons_of_mem _ hp)
    cases hkeeps : keeps (id, answer) with
    | true =>
      rw [List.filter_cons_of_pos hkeeps]
      exact .cons hfirst hrest'
    | false =>
      rw [List.filter_cons_of_neg (by simp [hkeeps])]
      have hsame := hidle _ List.mem_cons_self hkeeps s₁ (by rw [hfirst])
      rw [hfirst] at hsame
      rwa [← (show s₂ = s₁ from hsame)]

end Serial

namespace Linearization

variable {serve : σ → ι → σ × ρ} {call : Nat → ι} {s₀ s s' : σ} {history : List (Moment ρ)}
  {order : List (Nat × ρ)} {id : Nat}

/-- A pair in a longer history that does not end with the new moment is one of the history. -/
theorem sublist_of_sublist_concat {m m' new : Moment ρ} (h : [m, m'].Sublist (history ++ [new])) (hne : m' ≠ new) :
    [m, m'].Sublist history := by
  obtain ⟨l₁, l₂, hsplit, hl₁, hl₂⟩ := List.sublist_append_iff.mp h
  cases l₂ with
  | nil => rwa [hsplit, List.append_nil]
  | cons first rest =>
    have hlast : (first :: rest).getLast? = some m' := by
      have := congrArg List.getLast? hsplit
      simpa [List.getLast?_append] using this.symm
    exact absurd (List.mem_singleton.mp (hl₂.subset (List.mem_of_getLast? hlast))) hne

theorem empty : Linearization serve call s₀ [] [] s₀ where
  nodup := .nil
  serial := .nil
  invoked := fun _ h => nomatch h
  answered := fun _ _ h => nomatch h
  realTime := fun _ _ _ _ h => nomatch h

/-- A call is invoked. -/
theorem invoke (h : Linearization serve call s₀ history order s) (hfresh : .invoked id ∉ history) :
    Linearization serve call s₀ (history ++ [.invoked id]) order s where
  nodup := h.nodup
  serial := h.serial
  invoked := fun p hp => List.mem_append_left _ (h.invoked p hp)
  answered := by
    intro a answer hmem
    rcases List.mem_append.mp hmem with hmem | hmem
    · exact h.answered a answer hmem
    · cases List.mem_singleton.mp hmem
  realTime := by
    intro a answer b hsub hb
    obtain ⟨p, hp, rfl⟩ := List.mem_map.mp hb
    have hne : p.1 ≠ id := fun heq => hfresh (heq ▸ h.invoked p hp)
    exact h.realTime a answer p.1 (sublist_of_sublist_concat hsub fun heq => hne (Moment.invoked.inj heq)) hb

/-- A call takes effect: it enters the order. -/
theorem takeEffect {answer : ρ} (h : Linearization serve call s₀ history order s) (hinvoked : .invoked id ∈ history)
    (hnew : id ∉ order.map Prod.fst) (hserve : serve s (call id) = (s', answer)) :
    Linearization serve call s₀ history (order ++ [(id, answer)]) s' where
  nodup := by
    rw [List.map_append, List.map_singleton]
    exact List.nodup_append.mpr ⟨h.nodup, List.nodup_singleton _, fun a ha b hb => by
      rw [List.mem_singleton.mp hb]
      rintro rfl
      exact hnew ha⟩
  serial := h.serial.concat hserve
  invoked := by
    intro p hp
    rcases List.mem_append.mp hp with hp | hp
    · exact h.invoked p hp
    · rw [List.mem_singleton.mp hp]
      exact hinvoked
  answered := fun a answer hmem => List.mem_append_left _ (h.answered a answer hmem)
  realTime := by
    intro a answer b hsub hb
    rw [List.map_append, List.map_singleton] at hb ⊢
    rcases List.mem_append.mp hb with hb | hb
    · exact (h.realTime a answer b hsub hb).trans (List.sublist_append_left _ _)
    · rw [List.mem_singleton.mp hb]
      have ha : (a, answer) ∈ order := h.answered a answer (hsub.subset List.mem_cons_self)
      have hfirst : [a].Sublist (order.map Prod.fst) :=
        List.singleton_sublist.mpr (List.mem_map_of_mem ha)
      exact hfirst.append (List.Sublist.refl [id])

/-- A call that has taken effect is answered. -/
theorem answer {answer : ρ} (h : Linearization serve call s₀ history order s) (hmem : (id, answer) ∈ order) :
    Linearization serve call s₀ (history ++ [.answered id answer]) order s where
  nodup := h.nodup
  serial := h.serial
  invoked := fun p hp => List.mem_append_left _ (h.invoked p hp)
  answered := by
    intro a answer' ha
    rcases List.mem_append.mp ha with ha | ha
    · exact h.answered a answer' ha
    · cases List.mem_singleton.mp ha
      exact hmem
  realTime := by
    intro a answer' b hsub hb
    exact h.realTime a answer' b (sublist_of_sublist_concat hsub fun heq => nomatch heq) hb

/-- The calls that were not answered can be left out if they leave the object as it is. -/
theorem isLinearizable (h : Linearization serve call s₀ history order s)
    (hidle : ∀ p ∈ order, history.any (Moment.answers p.1) = false →
      ∀ s, (serve s (call p.1)).2 = p.2 → (serve s (call p.1)).1 = s) :
    IsLinearizable serve call s₀ history s := by
  have hmap : (order.filter fun p => history.any (Moment.answers p.1)).map Prod.fst =
      (order.map Prod.fst).filter fun id => history.any (Moment.answers id) := by
    rw [List.filter_map]
    rfl
  have hanswers : ∀ {id answer}, Moment.answered id answer ∈ history → history.any (Moment.answers id) = true :=
    fun {id answer} hmem => List.any_eq_true.mpr ⟨_, hmem, by simp [Moment.answers]⟩
  refine ⟨order.filter fun p => history.any (Moment.answers p.1), ⟨?_, h.serial.filter hidle, ?_, ?_, ?_⟩, ?_⟩
  · rw [hmap]
    exact h.nodup.filter _
  · exact fun p hp => h.invoked p (List.mem_of_mem_filter hp)
  · exact fun id answer hmem => List.mem_filter.mpr ⟨h.answered id answer hmem, hanswers hmem⟩
  · intro a answer b hsub hb
    rw [hmap] at hb ⊢
    obtain ⟨hb, hanswered⟩ := List.mem_filter.mp hb
    have hpair := (h.realTime a answer b hsub hb).filter fun id => history.any (Moment.answers id)
    have hkept : [a, b].filter (fun id => history.any (Moment.answers id)) = [a, b] := by
      simp [hanswered, hanswers (hsub.subset List.mem_cons_self)]
    rwa [hkept] at hpair
  · intro id answer hmem
    obtain ⟨hmem, hanswered⟩ := List.mem_filter.mp hmem
    obtain ⟨m, hm, hid⟩ := List.any_eq_true.mp hanswered
    cases m with
    | invoked => cases hid
    | answered other answer' =>
      obtain rfl : other = id := by simpa [Moment.answers] using hid
      have hpair : (other, answer') = (other, answer) :=
        List.inj_on_of_nodup_map h.nodup (h.answered other answer' hm) hmem rfl
      rwa [(Prod.mk.inj hpair).2] at hm

end Linearization

/-- Two answered calls are served in one of two orders. -/
theorem IsLinearizable.of_two {serve : σ → ι → σ × ρ} {call : Nat → ι} {s₀ s : σ} {history : List (Moment ρ)}
    {i j : Nat} {a b : ρ} (h : IsLinearizable serve call s₀ history s) (hne : i ≠ j)
    (hi : .answered i a ∈ history) (hj : .answered j b ∈ history)
    (honly : ∀ id answer, Moment.answered id answer ∈ history → (id, answer) = (i, a) ∨ (id, answer) = (j, b)) :
    s = (serve (serve s₀ (call i)).1 (call j)).1 ∨ s = (serve (serve s₀ (call j)).1 (call i)).1 := by
  obtain ⟨order, hlin, hall⟩ := h
  have hperm : order.Perm [(i, a), (j, b)] := by
    refine (List.perm_ext_iff_of_nodup hlin.nodup.of_map ?_).mpr fun p => ?_
    · simp [hne]
    · rw [List.mem_pair]
      constructor
      · exact fun hp => honly p.1 p.2 (hall p.1 p.2 hp)
      · rintro (rfl | rfl)
        · exact hlin.answered i a hi
        · exact hlin.answered j b hj
  have hserial := hlin.serial.eq_foldl
  rcases List.perm_pair.mp hperm with rfl | rfl
  · exact .inl hserial
  · exact .inr hserial

end Iweb
