import Mathlib.Data.List.Basic

/-!
# Lists that change at one place

The members of a list after one of them was replaced, or one was added at the end.
-/

namespace Iweb.ListUpdates

variable {α : Type} {l : List α} {i j : ℕ} {a a' b : α}

theorem set_cases (h : (l.set i a')[j]? = some b) : j = i ∧ b = a' ∨ j ≠ i ∧ l[j]? = some b := by
  by_cases hj : j = i
  · subst hj
    rw [List.getElem?_set_self'] at h
    obtain ⟨_, -, rfl⟩ := Option.map_eq_some_iff.mp h
    exact .inl ⟨rfl, rfl⟩
  · rw [List.getElem?_set_ne (Ne.symm hj)] at h
    exact .inr ⟨hj, h⟩

/-- Every other member is still there. -/
theorem mem_set_of_mem (hi : l[i]? = some a) (hb : b ∈ l) (hne : b ≠ a) : b ∈ l.set i a' := by
  obtain ⟨j, hj⟩ := List.mem_iff_getElem?.mp hb
  refine List.mem_iff_getElem?.mpr ⟨j, ?_⟩
  rw [List.getElem?_set_ne, hj]
  rintro rfl
  exact hne (Option.some.inj (hj.symm.trans hi))

theorem mem_set_self (hi : l[i]? = some a) : a' ∈ l.set i a' :=
  List.mem_set (List.getElem?_eq_some_iff.mp hi).1 a'

/-- What the new member shares with the old one is the same all along the list. -/
theorem map_set_of_eq {β : Type} {f : α → β} (hi : l[i]? = some a) (h : f a' = f a) :
    (l.set i a').map f = l.map f := by
  rw [List.map_set, h]
  refine List.ext_getElem? fun j => ?_
  by_cases hj : j = i
  · subst hj
    rw [List.getElem?_set_self', List.getElem?_map, hi]
    rfl
  · rw [List.getElem?_set_ne (Ne.symm hj)]

theorem append_cases (h : (l ++ [a])[j]? = some b) : l[j]? = some b ∨ j = l.length ∧ b = a := by
  rcases Nat.lt_or_ge j l.length with hlt | hge
  · rw [List.getElem?_append_left hlt] at h
    exact .inl h
  · rw [List.getElem?_append_right hge] at h
    obtain ⟨hj, hb⟩ := List.getElem?_eq_some_iff.mp h
    rw [List.length_singleton] at hj
    exact .inr ⟨by omega, by simpa using hb.symm⟩

end Iweb.ListUpdates
