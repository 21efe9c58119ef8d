import Mathlib.Order.Lattice
import Mathlib.Order.Defs.LinearOrder
import Mathlib.Data.List.Nodup

/-!
# Directories of named files

A directory holds files under distinct names and lists them in the order of their names. Writing replaces
the file of that name or puts a new one in its place in the order.
-/

namespace Iweb

/-- The files of a directory with their names, in the order of a listing. -/
@[ext] structure Directory (K α : Type) [LinearOrder K] where
  files : List (K × α)
  ascending : files.Pairwise fun file next => file.1 < next.1

namespace Directory

variable {K α : Type} [LinearOrder K]

instance [DecidableEq α] : DecidableEq (Directory K α) := fun d e =>
  decidable_of_iff (d.files = e.files) Directory.ext_iff.symm

/-- A directory without files. -/
def empty : Directory K α := ⟨[], .nil⟩

/-- The file of a name, if there is one. -/
def read (d : Directory K α) (name : K) : Option α := (d.files.find? fun file => file.1 = name).map Prod.snd

/-- The files' contents, in the order of a listing. -/
def contents (d : Directory K α) : List α := d.files.map Prod.snd

/-- Put a file in its place among files in the order of their names. -/
def place (name : K) (content : α) : List (K × α) → List (K × α)
  | [] => [(name, content)]
  | file :: rest =>
    if name < file.1 then (name, content) :: file :: rest
    else if name = file.1 then (name, content) :: rest
    else file :: place name content rest

theorem mem_place_of_ascending {name : K} {content : α} {files : List (K × α)}
    (h : files.Pairwise fun file next => file.1 < next.1) {file : K × α} :
    file ∈ place name content files ↔ file = (name, content) ∨ file ∈ files ∧ file.1 ≠ name := by
  induction files with
  | nil => simp [place]
  | cons head rest ih =>
    obtain ⟨hhead, hrest⟩ := List.pairwise_cons.mp h
    unfold place
    by_cases hlt : name < head.1
    · rw [if_pos hlt, List.mem_cons]
      have hne : ∀ f ∈ head :: rest, f.1 ≠ name := by
        intro f hf
        rcases List.mem_cons.mp hf with rfl | hf
        · exact ne_of_gt hlt
        · exact ne_of_gt (lt_trans hlt (hhead f hf))
      constructor
      · rintro (rfl | hf)
        · exact .inl rfl
        · exact .inr ⟨hf, hne _ hf⟩
      · rintro (rfl | ⟨hf, -⟩)
        · exact .inl rfl
        · exact .inr hf
    · by_cases heq : name = head.1
      · rw [if_neg hlt, if_pos heq, List.mem_cons, List.mem_cons]
        constructor
        · rintro (rfl | hf)
          · exact .inl rfl
          · exact .inr ⟨.inr hf, heq ▸ ne_of_gt (hhead _ hf)⟩
        · rintro (rfl | ⟨rfl | hf, hne⟩)
          · exact .inl rfl
          · exact absurd heq.symm hne
          · exact .inr hf
      · rw [if_neg hlt, if_neg heq, List.mem_cons, List.mem_cons, ih hrest]
        constructor
        · rintro (rfl | rfl | ⟨hf, hne⟩)
          · exact .inr ⟨.inl rfl, fun h => heq h.symm⟩
          · exact .inl rfl
          · exact .inr ⟨.inr hf, hne⟩
        · rintro (rfl | ⟨rfl | hf, hne⟩)
          · exact .inr (.inl rfl)
          · exact .inl rfl
          · exact .inr (.inr ⟨hf, hne⟩)

theorem ascending_place {name : K} {content : α} {files : List (K × α)}
    (h : files.Pairwise fun file next => file.1 < next.1) :
    (place name content files).Pairwise fun file next => file.1 < next.1 := by
  induction files with
  | nil => exact List.pairwise_singleton _ _
  | cons head rest ih =>
    obtain ⟨hhead, hrest⟩ := List.pairwise_cons.mp h
    unfold place
    by_cases hlt : name < head.1
    · rw [if_pos hlt]
      refine List.pairwise_cons.mpr ⟨?_, h⟩
      intro f hf
      rcases List.mem_cons.mp hf with rfl | hf
      · exact hlt
      · exact lt_trans hlt (hhead f hf)
    · by_cases heq : name = head.1
      · rw [if_neg hlt, if_pos heq]
        exact List.pairwise_cons.mpr ⟨fun f hf => heq ▸ hhead f hf, hrest⟩
      · rw [if_neg hlt, if_neg heq]
        refine List.pairwise_cons.mpr ⟨?_, ih hrest⟩
        intro f hf
        rcases (mem_place_of_ascending hrest).mp hf with rfl | ⟨hf, -⟩
        · exact lt_of_le_of_ne (le_of_not_gt hlt) (Ne.symm heq)
        · exact hhead f hf

/-- Write a file under a name. -/
def write (d : Directory K α) (name : K) (content : α) : Directory K α :=
  ⟨place name content d.files, ascending_place d.ascending⟩

/-- Delete the file of a name. -/
def remove (d : Directory K α) (name : K) : Directory K α :=
  ⟨d.files.filter fun file => file.1 ≠ name, d.ascending.filter _⟩

@[simp] theorem files_empty : (empty : Directory K α).files = [] := rfl

theorem mem_files_write {d : Directory K α} {name : K} {content : α} {file : K × α} :
    file ∈ (d.write name content).files ↔ file = (name, content) ∨ file ∈ d.files ∧ file.1 ≠ name :=
  mem_place_of_ascending d.ascending

theorem mem_files_remove {d : Directory K α} {name : K} {file : K × α} :
    file ∈ (d.remove name).files ↔ file ∈ d.files ∧ file.1 ≠ name := by
  simp [remove, List.mem_filter]

theorem nodup_files (d : Directory K α) : (d.files.map Prod.fst).Nodup := by
  rw [List.Nodup, List.pairwise_map]
  exact d.ascending.imp fun h => ne_of_lt h

theorem mem_contents {d : Directory K α} {content : α} :
    content ∈ d.contents ↔ ∃ name, (name, content) ∈ d.files := by
  simp [contents]

/-- A name has one file. -/
theorem content_unique {d : Directory K α} {name : K} {content content' : α}
    (h : (name, content) ∈ d.files) (h' : (name, content') ∈ d.files) : content = content' :=
  (Prod.ext_iff.mp (List.inj_on_of_nodup_map d.nodup_files h h' rfl)).2

theorem read_eq_some {d : Directory K α} {name : K} {content : α} :
    d.read name = some content ↔ (name, content) ∈ d.files := by
  constructor
  · intro h
    obtain ⟨file, hfind, rfl⟩ := Option.map_eq_some_iff.mp h
    have hname : file.1 = name := by simpa using List.find?_some hfind
    rw [← hname]
    exact List.mem_of_find?_eq_some hfind
  · intro h
    have hsome : (d.files.find? fun file => file.1 = name).isSome :=
      List.find?_isSome.mpr ⟨_, h, decide_eq_true rfl⟩
    obtain ⟨file, hfind⟩ := Option.isSome_iff_exists.mp hsome
    have hname : file.1 = name := by simpa using List.find?_some hfind
    have hmem : (name, file.2) ∈ d.files := by
      rw [← hname]
      exact List.mem_of_find?_eq_some hfind
    unfold read
    rw [hfind, Option.map_some, content_unique hmem h]

theorem read_eq_none {d : Directory K α} {name : K} :
    d.read name = none ↔ ∀ file ∈ d.files, file.1 ≠ name := by
  simp [read]

theorem read_write_self (d : Directory K α) (name : K) (content : α) :
    (d.write name content).read name = some content :=
  read_eq_some.mpr (mem_files_write.mpr (.inl rfl))

end Directory

end Iweb
