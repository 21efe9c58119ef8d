import Mathlib.Data.List.Sort

/-!
# Stable sorting

Sorting by a total and transitive relation keeps the members it does not tell apart in their order. Two sorted lists
with the same members in the same order within each class of such members are equal.
-/

namespace Iweb.StableSort

variable {α : Type} {r : α → α → Prop} [DecidableRel r]

/-- Members that the relation does not tell apart stay in their order. -/
theorem filter_orderedInsert {p : α → Bool} (hp : ∀ a b, p a = true → p b = true → r a b) (a : α) (l : List α) :
    (l.orderedInsert r a).filter p = (a :: l).filter p := by
  induction l with
  | nil => rfl
  | cons b l ih =>
    rw [List.orderedInsert_cons]
    split
    · rfl
    · rename_i hnot
      rw [List.filter_cons, ih]
      cases ha : p a with
      | false => rw [List.filter_cons_of_neg (by simp [ha]), List.filter_cons_of_neg (by simp [ha]), List.filter_cons]
      | true =>
        have hb : p b = false := Bool.eq_false_iff.mpr fun hb => hnot (hp a b ha hb)
        rw [hb, if_neg Bool.false_ne_true, List.filter_cons, List.filter_cons, List.filter_cons, hb,
          if_neg Bool.false_ne_true]

theorem filter_insertionSort {p : α → Bool} (hp : ∀ a b, p a = true → p b = true → r a b) (l : List α) :
    (l.insertionSort r).filter p = l.filter p := by
  induction l with
  | nil => rfl
  | cons a l ih => rw [List.insertionSort_cons, filter_orderedInsert hp, List.filter_cons, ih, List.filter_cons]

/-- The relation does not tell the two apart. -/
def alike (r : α → α → Prop) [DecidableRel r] (a b : α) : Bool := decide (r a b) && decide (r b a)

theorem alike_iff {a b : α} : alike r a b = true ↔ r a b ∧ r b a := by
  unfold alike
  rw [Bool.and_eq_true, decide_eq_true_iff, decide_eq_true_iff]

theorem filter_alike_insertionSort [IsTrans α r] (a : α) (l : List α) :
    (l.insertionSort r).filter (alike r a) = l.filter (alike r a) :=
  filter_insertionSort (fun _ _ hb hc => IsTrans.trans _ _ _ (alike_iff.mp hb).2 (alike_iff.mp hc).1) l

theorem alike_self [Std.Total r] (a : α) : alike r a a = true :=
  alike_iff.mpr ⟨(Std.Total.total a a).elim id id, (Std.Total.total a a).elim id id⟩

/-- Where the relation tells the members apart, the sorted list does not depend on the order they come in. -/
theorem insertionSort_eq_of_perm [Std.Total r] [IsTrans α r] {l l' : List α} (h : l.Perm l')
    (happart : ∀ a ∈ l, ∀ b ∈ l, r a b → r b a → a = b) : l.insertionSort r = l'.insertionSort r := by
  refine List.Perm.eq_of_pairwise (fun a b ha hb => ?_) (List.pairwise_insertionSort r l)
    (List.pairwise_insertionSort r l') (((List.perm_insertionSort r l).trans h).trans (List.perm_insertionSort r l').symm)
  exact happart a ((List.mem_insertionSort r).mp ha) b (h.mem_iff.mpr ((List.mem_insertionSort r).mp hb))

/-! ## What sorted lists spell -/

/-- A sorted list is what lies below a value, what is like it and what lies above it. -/
theorem eq_append_of_pairwise [Std.Total r] [IsTrans α r] {l : List α} (hl : l.Pairwise r) (a : α) :
    l = l.filter (fun b => !decide (r a b)) ++ (l.filter (alike r a) ++ l.filter fun b => !decide (r b a)) := by
  induction l with
  | nil => rfl
  | cons b l ih =>
    have hrest := ih hl.of_cons
    by_cases hab : r a b
    · have hbelow : l.filter (fun c => !decide (r a c)) = [] := by
        refine List.filter_eq_nil_iff.mpr fun c hc => ?_
        rw [decide_eq_true (IsTrans.trans _ _ _ hab (List.rel_of_pairwise_cons hl hc))]
        exact Bool.false_ne_true
      rw [hbelow, List.nil_append] at hrest
      rw [List.filter_cons, decide_eq_true hab, hbelow]
      by_cases hba : r b a
      · rw [List.filter_cons_of_pos (alike_iff.mpr ⟨hab, hba⟩), List.filter_cons, decide_eq_true hba]
        exact congrArg (b :: ·) hrest
      · have halike : l.filter (alike r a) = [] := by
          refine List.filter_eq_nil_iff.mpr fun c hc hac => hba ?_
          exact IsTrans.trans _ _ _ (List.rel_of_pairwise_cons hl hc) (alike_iff.mp hac).2
        rw [halike, List.nil_append] at hrest
        rw [List.filter_cons_of_neg (fun h => hba (alike_iff.mp h).2), halike, List.filter_cons, decide_eq_false hba]
        exact congrArg (b :: ·) hrest
    · have hba : r b a := (Std.Total.total a b).resolve_left hab
      rw [List.filter_cons, decide_eq_false hab, List.filter_cons_of_neg fun h => hab (alike_iff.mp h).1,
        @List.filter_cons _ b l fun c => !decide (r c a), decide_eq_true hba]
      exact congrArg (b :: ·) hrest

section

variable {β : Type} {f : α → List β} {l l' : List α}

/-- Two sorted lists of the same members spell the same only if every class of members that are alike does. -/
theorem flatMap_alike_eq [Std.Total r] [IsTrans α r] (hl : l.Pairwise r) (hl' : l'.Pairwise r) (hperm : l.Perm l')
    (h : l.flatMap f = l'.flatMap f) (a : α) :
    (l.filter (alike r a)).flatMap f = (l'.filter (alike r a)).flatMap f := by
  have hlength : ∀ p : α → Bool, ((l.filter p).flatMap f).length = ((l'.filter p).flatMap f).length := fun p =>
    ((hperm.filter p).flatMap_right f).length_eq
  rw [eq_append_of_pairwise hl a, eq_append_of_pairwise hl' a, List.flatMap_append, List.flatMap_append,
    List.flatMap_append, List.flatMap_append] at h
  exact (List.append_inj (List.append_inj h (hlength _)).2 (hlength _)).1

theorem flatMap_eq_of_alike [Std.Total r] [IsTrans α r] (hl : l.Pairwise r) (hl' : l'.Pairwise r)
    (hperm : l.Perm l')
    (h : ∀ a, (l.filter (alike r a)).flatMap f = (l'.filter (alike r a)).flatMap f) :
    l.flatMap f = l'.flatMap f := by
  -- by the number of members: the class of the first one is taken off
  induction hn : l.length using Nat.strongRecOn generalizing l l' with
  | ind n ih =>
    cases l with
    | nil => rw [List.nil_perm.mp hperm]
    | cons a t =>
      have hfirst : ∀ b ∈ a :: t, r a b := fun b hb => by
        rcases List.mem_cons.mp hb with rfl | hb
        · exact (alike_iff.mp (alike_self b)).1
        · exact List.rel_of_pairwise_cons hl hb
      have hbelow : (a :: t).filter (fun b => !decide (r a b)) = [] := by
        refine List.filter_eq_nil_iff.mpr fun b hb => ?_
        rw [decide_eq_true (hfirst b hb)]
        exact Bool.false_ne_true
      have hbelow' : l'.filter (fun b => !decide (r a b)) = [] :=
        List.Perm.eq_nil (hbelow ▸ (hperm.filter _).symm)
      have hsplit := eq_append_of_pairwise hl a
      have hsplit' := eq_append_of_pairwise hl' a
      rw [hbelow, List.nil_append] at hsplit
      rw [hbelow', List.nil_append] at hsplit'
      rw [hsplit, hsplit', List.flatMap_append, List.flatMap_append, h a]
      refine congrArg _ (ih _ ?_ (hl.filter _) (hl'.filter _) (hperm.filter _) (fun c => ?_) rfl)
      · rw [← hn]
        refine List.length_filter_lt_length_iff_exists.mpr ⟨a, List.mem_cons_self, ?_⟩
        rw [decide_eq_true (hfirst a List.mem_cons_self)]
        exact Bool.false_ne_true
      · rw [List.filter_filter, List.filter_filter]
        by_cases hca : r c a
        · have hnone : ∀ k : List α, k.filter (fun b => alike r c b && !decide (r b a)) = [] := fun k =>
            List.filter_eq_nil_iff.mpr fun b _ hb => by
              rw [Bool.and_eq_true] at hb
              rw [decide_eq_true (IsTrans.trans _ _ _ (alike_iff.mp hb.1).2 hca)] at hb
              exact nomatch hb.2
          rw [hnone, hnone]
        · have hall : ∀ k : List α, k.filter (fun b => alike r c b && !decide (r b a)) = k.filter (alike r c) :=
            fun k => List.filter_congr fun b _ => by
              cases hcb : alike r c b with
              | false => rfl
              | true =>
                rw [decide_eq_false fun hba => hca (IsTrans.trans _ _ _ (alike_iff.mp hcb).1 hba)]
                rfl
          rw [hall, hall]
          exact h c

end

end Iweb.StableSort
