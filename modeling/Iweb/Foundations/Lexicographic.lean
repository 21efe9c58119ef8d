import Mathlib.Logic.Function.Basic

/-!
# Lexicographic order and prefixes

A range scan finds the lists with a given prefix: they lie between the prefix and the prefix followed by any
element above theirs. A map that keeps the order of the elements keeps the order of the lists.
-/

namespace Iweb.Lexicographic

/-- A map that keeps and reflects the order of the elements keeps and reflects the order of the lists. -/
theorem map_lt_map_iff {α β : Type} [LT α] [LT β] {f : α → β} (hlt : ∀ a b, f a < f b ↔ a < b)
    (hf : Function.Injective f) {l r : List α} : l.map f < r.map f ↔ l < r := by
  induction l generalizing r with
  | nil =>
    cases r with
    | nil => exact iff_of_false (List.not_lt_nil _) (List.not_lt_nil _)
    | cons b r => exact iff_of_true (List.nil_lt_cons _ _) (List.nil_lt_cons _ _)
  | cons a l ih =>
    cases r with
    | nil => exact iff_of_false (List.not_lt_nil _) (List.not_lt_nil _)
    | cons b r =>
      rw [List.map_cons, List.map_cons, List.cons_lt_cons_iff, List.cons_lt_cons_iff, hlt, ih, hf.eq_iff]

/-- The lists from `p` on and below `p ++ [top]` are the extensions of `p`. -/
theorem prefix_iff_between {α : Type} [LT α] [Std.Irrefl (· < · : α → α → Prop)] {top : α} {p k : List α}
    (hk : ∀ a ∈ k, a < top) : p <+: k ↔ ¬ k < p ∧ k < p ++ [top] := by
  induction p generalizing k with
  | nil =>
    refine iff_of_true List.nil_prefix ⟨List.not_lt_nil k, ?_⟩
    cases k with
    | nil => exact List.nil_lt_cons top []
    | cons b k => exact List.cons_lt_cons_iff.mpr (.inl (hk b List.mem_cons_self))
  | cons a p ih =>
    cases k with
    | nil => exact iff_of_false (by simp) fun h => h.1 (List.nil_lt_cons a p)
    | cons b k =>
      have hrest := ih fun c hc => hk c (List.mem_cons_of_mem b hc)
      rw [List.cons_prefix_cons, List.cons_append, List.cons_lt_cons_iff, List.cons_lt_cons_iff, hrest]
      constructor
      · rintro ⟨rfl, hlow, hhigh⟩
        refine ⟨?_, .inr ⟨rfl, hhigh⟩⟩
        rintro (hlt | ⟨-, hlt⟩)
        · exact Std.Irrefl.irrefl a hlt
        · exact hlow hlt
      · rintro ⟨hlow, hhigh | ⟨rfl, hhigh⟩⟩
        · exact absurd (.inl hhigh) hlow
        · exact ⟨rfl, fun hlt => hlow (.inr ⟨rfl, hlt⟩), hhigh⟩

end Iweb.Lexicographic
