import Mathlib.Data.List.Basic

/-!
# Lists that a delimiter ends
-/

namespace Iweb.Delimited

variable {α : Type} {a : α}

/-- What comes before the first delimiter is determined, and so is what follows it. -/
theorem append_cons_inj {x x' rest rest' : List α} (hx : a ∉ x) (hx' : a ∉ x')
    (h : x ++ a :: rest = x' ++ a :: rest') : x = x' ∧ rest = rest' := by
  induction x generalizing x' with
  | nil =>
    cases x' with
    | nil => exact ⟨rfl, (List.cons_eq_cons.mp h).2⟩
    | cons b x' => exact absurd (List.cons_eq_cons.mp h).1 (List.ne_of_not_mem_cons hx')
  | cons b x ih =>
    cases x' with
    | nil => exact absurd (List.cons_eq_cons.mp h).1.symm (List.ne_of_not_mem_cons hx)
    | cons c x' =>
      obtain ⟨rfl, htail⟩ := List.cons_eq_cons.mp h
      obtain ⟨rfl, hrest⟩ := ih (List.not_mem_of_not_mem_cons hx) (List.not_mem_of_not_mem_cons hx') htail
      exact ⟨rfl, hrest⟩

/-- The lists, each followed by the delimiter. -/
def terminate (a : α) (words : List (List α)) : List α := words.flatMap (· ++ [a])

theorem terminate_append (words words' : List (List α)) :
    terminate a (words ++ words') = terminate a words ++ terminate a words' := List.flatMap_append

/-- Lists without the delimiter are determined by their terminated sequence. -/
theorem terminate_inj {words words' : List (List α)} (h : ∀ w ∈ words, a ∉ w) (h' : ∀ w ∈ words', a ∉ w)
    (heq : terminate a words = terminate a words') : words = words' := by
  induction words generalizing words' with
  | nil =>
    cases words' with
    | nil => rfl
    | cons w words' =>
      unfold terminate at heq
      rw [List.flatMap_cons, List.flatMap_nil, List.append_assoc] at heq
      exact absurd heq.symm (by simp)
  | cons w words ih =>
    cases words' with
    | nil =>
      unfold terminate at heq
      rw [List.flatMap_cons, List.flatMap_nil, List.append_assoc] at heq
      exact absurd heq (by simp)
    | cons w' words' =>
      unfold terminate at heq
      rw [List.flatMap_cons, List.flatMap_cons, List.append_assoc, List.append_assoc] at heq
      obtain ⟨rfl, hrest⟩ := append_cons_inj (h w List.mem_cons_self) (h' w' List.mem_cons_self) heq
      rw [ih (fun v hv => h v (List.mem_cons_of_mem _ hv)) (fun v hv => h' v (List.mem_cons_of_mem _ hv)) hrest]

section

variable [DecidableEq α]

/-- A list cut at every delimiter. -/
def cut (a : α) : List α → List (List α)
  | [] => [[]]
  | b :: l =>
    if b = a then [] :: cut a l
    else match cut a l with
      | [] => [[b]]
      | w :: words => (b :: w) :: words

theorem cut_ne_nil (a : α) (l : List α) : cut a l ≠ [] := by
  cases l with
  | nil => exact nofun
  | cons b l =>
    rw [cut]
    split
    · exact nofun
    · split <;> exact nofun

theorem terminate_cut (a : α) (l : List α) : terminate a (cut a l) = l ++ [a] := by
  induction l with
  | nil => rfl
  | cons b l ih =>
    rw [cut]
    split
    · rename_i hb
      unfold terminate at ih ⊢
      rw [List.flatMap_cons, ih, hb]
      rfl
    · cases hcut : cut a l with
      | nil => exact absurd hcut (cut_ne_nil a l)
      | cons w words =>
        unfold terminate at ih ⊢
        rw [hcut, List.flatMap_cons] at ih
        dsimp only
        rw [List.flatMap_cons, List.cons_append, List.cons_append, ih, List.cons_append]

/-- The delimiter ends the first piece. -/
theorem cut_append_cons {w : List α} (h : a ∉ w) (rest : List α) : cut a (w ++ a :: rest) = w :: cut a rest := by
  induction w with
  | nil =>
    rw [List.nil_append, cut, if_pos rfl]
  | cons b w ih =>
    rw [List.cons_append, cut, if_neg (Ne.symm (List.ne_of_not_mem_cons h)), ih (List.not_mem_of_not_mem_cons h)]

theorem notMem_of_mem_cut {l w : List α} (h : w ∈ cut a l) : a ∉ w := by
  induction l generalizing w with
  | nil =>
    rw [List.mem_singleton.mp h]
    exact List.not_mem_nil
  | cons b l ih =>
    rw [cut] at h
    split at h
    · rcases List.mem_cons.mp h with rfl | h
      · exact List.not_mem_nil
      · exact ih h
    · rename_i hb
      cases hcut : cut a l with
      | nil => exact absurd hcut (cut_ne_nil a l)
      | cons v words =>
        rw [hcut] at h
        rcases List.mem_cons.mp h with rfl | h
        · exact List.not_mem_cons_of_ne_of_not_mem (Ne.symm hb) (ih (hcut ▸ List.mem_cons_self))
        · exact ih (hcut ▸ List.mem_cons_of_mem _ h)

/-- A list without the delimiter is one piece. -/
theorem cut_of_notMem {l : List α} (h : a ∉ l) : cut a l = [l] :=
  terminate_inj (fun _ => notMem_of_mem_cut) (List.forall_mem_singleton.mpr h) (by
    rw [terminate_cut]
    exact (List.append_nil _).symm)

end

end Iweb.Delimited
