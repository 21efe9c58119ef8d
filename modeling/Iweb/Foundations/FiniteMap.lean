import Std.Data.ExtTreeMap

/-!
# Finite maps over a lawful order

`Std.ExtTreeMap` over a key order whose comparison decides equality. Lookups after an update are stated
with equality of keys, and maps with the same lookups are equal.
-/

namespace Iweb.FiniteMap

open Std

variable {K V : Type} [Ord K] [TransOrd K]

theorem getElem?_insert_self (m : ExtTreeMap K V) (k : K) (v : V) : (m.insert k v)[k]? = some v :=
  ExtTreeMap.getElem?_insert_self

@[simp] theorem getElem?_empty (a : K) : (∅ : ExtTreeMap K V)[a]? = none := ExtTreeMap.getElem?_empty

variable [LawfulEqOrd K]

theorem getElem?_insert_of_ne (m : ExtTreeMap K V) {k a : K} (v : V) (h : a ≠ k) :
    (m.insert k v)[a]? = m[a]? := by
  rw [ExtTreeMap.getElem?_insert, if_neg]
  exact fun hc => h (LawfulEqOrd.eq_of_compare hc).symm

theorem getElem?_insert [DecidableEq K] (m : ExtTreeMap K V) (k a : K) (v : V) :
    (m.insert k v)[a]? = if a = k then some v else m[a]? := by
  split
  · subst a
    exact getElem?_insert_self m k v
  · exact getElem?_insert_of_ne m v ‹_›

theorem getElem?_erase_of_ne (m : ExtTreeMap K V) {k a : K} (h : a ≠ k) : (m.erase k)[a]? = m[a]? := by
  rw [ExtTreeMap.getElem?_erase, if_neg]
  exact fun hc => h (LawfulEqOrd.eq_of_compare hc).symm

/-- Erasing a key that was absent before its insertion restores the map. -/
theorem erase_insert [DecidableEq K] {m : ExtTreeMap K V} {k : K} (v : V) (h : m[k]? = none) :
    (m.insert k v).erase k = m := by
  apply ExtTreeMap.ext_getElem?
  intro a
  by_cases ha : a = k
  · subst a
    rw [ExtTreeMap.getElem?_erase_self, h]
  · rw [getElem?_erase_of_ne _ ha, getElem?_insert_of_ne _ _ ha]

/-- The second of two writes to one key wins. -/
theorem insert_insert [DecidableEq K] (m : ExtTreeMap K V) (k : K) (v w : V) :
    (m.insert k v).insert k w = m.insert k w := by
  apply ExtTreeMap.ext_getElem?
  intro a
  simp only [getElem?_insert]
  split <;> rfl

theorem mem_keys {m : ExtTreeMap K V} {k : K} : k ∈ m.keys ↔ ∃ v, m[k]? = some v := by
  rw [ExtTreeMap.mem_keys, ExtTreeMap.mem_iff_isSome_getElem?, Option.isSome_iff_exists]

/-- A fact about every entry of the map, through its list of entries. -/
theorem forall_mem_toList {m : ExtTreeMap K V} {P : K × V → Prop} :
    (∀ e ∈ m.toList, P e) ↔ ∀ k v, m[k]? = some v → P (k, v) := by
  constructor
  · exact fun h k v hk => h _ (ExtTreeMap.mem_toList_iff_getElem?_eq_some.mpr hk)
  · exact fun h e he => h e.1 e.2 (ExtTreeMap.mem_toList_iff_getElem?_eq_some.mp he)

end Iweb.FiniteMap
