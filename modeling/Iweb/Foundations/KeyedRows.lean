import Mathlib.Algebra.GroupWithZero.Nat
import Mathlib.Data.List.Nodup

/-!
# Tables with a primary key

A table is the list of its rows in the order of their insertion; no two rows share their key. An `UPDATE`
of one key rewrites at most one row, so a total over the table changes by that row alone.
-/

namespace Iweb.KeyedRows

variable {K R : Type} [DecidableEq K] (key : R → K)

/-- `UPDATE rows SET … WHERE key = k` -/
def update (k : K) (f : R → R) (rows : List R) : List R := rows.map fun r => if key r = k then f r else r

variable {key}

@[simp] theorem update_nil (k : K) (f : R → R) : update key k f [] = [] := rfl

theorem update_cons (k : K) (f : R → R) (r : R) (rows : List R) :
    update key k f (r :: rows) = (if key r = k then f r else r) :: update key k f rows := rfl

/-- An update that leaves the key column alone keeps the keys. -/
theorem map_key_update {k : K} {f : R → R} (hf : ∀ r, key (f r) = key r) (rows : List R) :
    (update key k f rows).map key = rows.map key := by
  unfold update
  rw [List.map_map]
  apply List.map_congr_left
  intro r _
  show key (if key r = k then f r else r) = key r
  split
  · exact hf r
  · rfl

theorem mem_update {k : K} {f : R → R} {rows : List R} {r' : R} :
    r' ∈ update key k f rows ↔ ∃ r ∈ rows, r' = if key r = k then f r else r := by
  simp only [update, List.mem_map, eq_comm]

/-- The update of an absent key changes nothing. -/
theorem update_of_notMem {k : K} {f : R → R} {rows : List R} (h : k ∉ rows.map key) :
    update key k f rows = rows := by
  unfold update
  conv_rhs => rw [← List.map_id rows]
  apply List.map_congr_left
  intro r hr
  rw [if_neg]
  · rfl
  · rintro rfl
    exact h (List.mem_map_of_mem hr)

/-- A lookup of the key of a present row finds that row. -/
theorem find?_key {rows : List R} (hnodup : (rows.map key).Nodup) {r : R} (hr : r ∈ rows) :
    rows.find? (fun row => key row = key r) = some r := by
  cases hfind : rows.find? (fun row => key row = key r) with
  | none =>
    have := List.find?_eq_none.mp hfind r hr
    simp at this
  | some r' =>
    have hkey : key r' = key r := by simpa using List.find?_some hfind
    rw [List.inj_on_of_nodup_map hnodup (List.mem_of_find?_eq_some hfind) hr hkey]

/-- The rows with the key of a present row are that row. -/
theorem filter_key {rows : List R} (hnodup : (rows.map key).Nodup) {r : R} (hr : r ∈ rows) :
    rows.filter (fun row => key row = key r) = [r] := by
  induction rows with
  | nil => exact absurd hr List.not_mem_nil
  | cons row rows ih =>
    rw [List.map_cons, List.nodup_cons] at hnodup
    rcases List.mem_cons.mp hr with rfl | hmem
    · rw [List.filter_cons_of_pos (by simp), List.filter_eq_nil_iff.mpr]
      intro row hrow heq
      exact hnodup.1 (of_decide_eq_true heq ▸ List.mem_map_of_mem hrow)
    · have hne : key row ≠ key r := fun h => hnodup.1 (h ▸ List.mem_map_of_mem hmem)
      rw [List.filter_cons_of_neg (by simpa using hne), ih hnodup.2 hmem]

/-- A lookup after an update. -/
theorem find?_update {k k' : K} {f : R → R} (hf : ∀ r, key (f r) = key r) (rows : List R) :
    (update key k f rows).find? (fun row => key row = k') =
      (rows.find? fun row => key row = k').map fun r => if k' = k then f r else r := by
  induction rows with
  | nil => rfl
  | cons row rows ih =>
    have hkey : key (if key row = k then f row else row) = key row := by
      split
      · exact hf row
      · rfl
    rw [update_cons]
    by_cases hfound : key row = k'
    · rw [List.find?_cons_of_pos (by simpa [hkey] using hfound), List.find?_cons_of_pos (by simpa using hfound),
        Option.map_some, hfound]
    · rw [List.find?_cons_of_neg (by simpa [hkey] using hfound), List.find?_cons_of_neg (by simpa using hfound), ih]

/-- A condition that only rows of one key meet is met once, if a row of the table meets it. -/
theorem countP_eq_one {rows : List R} (hnodup : (rows.map key).Nodup) {r : R} (hr : r ∈ rows) {p : R → Bool}
    (hp : p r = true) (honly : ∀ row, p row = true → key row = key r) : rows.countP p = 1 := by
  have hle : rows.countP p ≤ rows.countP (fun row => key row = key r) :=
    List.countP_mono_left fun row _ h => decide_eq_true (honly row h)
  rw [List.countP_eq_length_filter (p := fun row => decide (key row = key r)), filter_key hnodup hr] at hle
  have hpos : 0 < rows.countP p := List.countP_pos_iff.mpr ⟨r, hr, hp⟩
  have hone : [r].length = 1 := rfl
  omega

/-- A total over the table after the update of one of its rows. -/
theorem sum_update {rows : List R} (hnodup : (rows.map key).Nodup) {r : R} (hr : r ∈ rows) (f : R → R)
    (weight : R → Nat) :
    ((update key (key r) f rows).map weight).sum + weight r = (rows.map weight).sum + weight (f r) := by
  induction rows with
  | nil => exact absurd hr List.not_mem_nil
  | cons row rows ih =>
    rw [List.map_cons, List.nodup_cons] at hnodup
    rw [update_cons, List.map_cons, List.map_cons, List.sum_cons, List.sum_cons]
    rcases List.mem_cons.mp hr with rfl | hmem
    · rw [if_pos rfl, update_of_notMem hnodup.1]
      omega
    · have hne : key row ≠ key r := fun h => hnodup.1 (h ▸ List.mem_map_of_mem hmem)
      have := ih hnodup.2 hmem
      rw [if_neg hne]
      omega

/-- An update that does not raise any row's weight does not raise the total. -/
theorem sum_update_le {k : K} {f : R → R} {weight : R → Nat} (hf : ∀ r, weight (f r) ≤ weight r)
    (rows : List R) : ((update key k f rows).map weight).sum ≤ (rows.map weight).sum := by
  induction rows with
  | nil => exact Nat.le_refl 0
  | cons row rows ih =>
    rw [update_cons, List.map_cons, List.map_cons, List.sum_cons, List.sum_cons]
    have : weight (if key row = k then f row else row) ≤ weight row := by
      split
      · exact hf row
      · exact Nat.le_refl _
    omega

end Iweb.KeyedRows
