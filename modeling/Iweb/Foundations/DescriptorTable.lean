import Iweb.Foundations.FiniteMap
import Mathlib.Data.Nat.Notation

/-!
# Descriptor tables

A process has a finite table from numbers to open files with a close-on-exec mark. The operations have their POSIX
meaning: `dup2` onto another number clears the mark there, `dup2` onto the same number changes nothing, closing a
number that is not open has no effect, and an executed program keeps the descriptors without the mark.
-/

namespace Iweb.Descriptors

open Std FiniteMap

structure Descriptor (F : Type) where
  file : F
  closeOnExec : Bool
deriving DecidableEq

/-- The open descriptors of a process. -/
abbrev Table (F : Type) := ExtTreeMap ℕ (Descriptor F)

variable {F : Type}

/-- `dup2(old, new)`; `none` when `old` is not open. -/
def dup2 (t : Table F) (old new : ℕ) : Option (Table F) :=
  match t[old]? with
  | none => none
  | some d => if old = new then some t else some (t.insert new ⟨d.file, false⟩)

/-- `fcntl(fd, F_SETFD, mark)`; `none` when `fd` is not open. -/
def setCloseOnExec (t : Table F) (fd : ℕ) (mark : Bool) : Option (Table F) :=
  match t[fd]? with
  | none => none
  | some d => some (t.insert fd ⟨d.file, mark⟩)

def close (t : Table F) (fd : ℕ) : Table F := t.erase fd

/-- What an executed program inherits. -/
def exec (t : Table F) : Table F := t.filter fun _ d => !d.closeOnExec

theorem getElem?_close (t : Table F) (fd a : ℕ) : (close t fd)[a]? = if a = fd then none else t[a]? := by
  unfold close
  split
  · subst a
    exact ExtTreeMap.getElem?_erase_self
  · exact getElem?_erase_of_ne t ‹_›

theorem getElem?_exec (t : Table F) (fd : ℕ) : (exec t)[fd]? = t[fd]?.filter fun d => !d.closeOnExec := by
  unfold exec
  rw [ExtTreeMap.getElem?_filter']

/-- Closing several descriptors leaves the others. -/
theorem getElem?_closeAll (t : Table F) (fds : List ℕ) (a : ℕ) :
    (fds.foldl close t)[a]? = if a ∈ fds then none else t[a]? := by
  induction fds generalizing t with
  | nil => rfl
  | cons fd fds ih =>
    rw [List.foldl_cons, ih, getElem?_close]
    by_cases hmem : a ∈ fds
    · rw [if_pos hmem, if_pos (.tail _ hmem)]
    · by_cases heq : a = fd
      · rw [if_neg hmem, if_pos heq, if_pos (List.mem_cons.mpr (.inl heq))]
      · rw [if_neg hmem, if_neg heq, if_neg (fun hc => (List.mem_cons.mp hc).elim heq hmem)]

/-- A descriptor moved to a number by `dup2` and `fcntl` is there without its mark, whatever the two numbers are; the
other numbers are as before. -/
theorem moved {t : Table F} {old new : ℕ} {d : Descriptor F} (h : t[old]? = some d) :
    ∃ t', ((dup2 t old new).bind fun t => setCloseOnExec t new false) = some t' ∧
      t'[new]? = some ⟨d.file, false⟩ ∧ ∀ a, a ≠ new → t'[a]? = t[a]? := by
  unfold dup2
  rw [h]
  dsimp only
  by_cases heq : old = new
  · subst new
    refine ⟨t.insert old ⟨d.file, false⟩, ?_, getElem?_insert_self .., fun a ha => getElem?_insert_of_ne t _ ha⟩
    rw [if_pos rfl, Option.bind_some]
    unfold setCloseOnExec
    rw [h]
  · refine ⟨(t.insert new ⟨d.file, false⟩).insert new ⟨d.file, false⟩, ?_, getElem?_insert_self .., fun a ha => ?_⟩
    · rw [if_neg heq, Option.bind_some]
      unfold setCloseOnExec
      rw [getElem?_insert_self]
    · rw [getElem?_insert_of_ne _ _ ha, getElem?_insert_of_ne _ _ ha]

end Iweb.Descriptors
