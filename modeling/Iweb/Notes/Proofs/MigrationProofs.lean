import Iweb.Notes.Migration
import Mathlib.Data.List.Pairwise

/-!
# What a verified migration has moved

The hashed bytes are the texts of the records, cut at every NUL, with a NUL after each piece. Two lists are verified
as equal when they have as many records and spell the same pieces in the order of their ids.
-/

namespace Iweb.Notes

open Delimited StableSort

/-! ## The hashed bytes -/

section

variable {T D : Type} {utf8 : T → List UInt8} {le : NotesRecord T → NotesRecord T → Prop} [DecidableRel le]

theorem hashed_eq (record : NotesRecord T) : record.hashed utf8 = terminate 0 (record.pieces utf8) := by
  unfold NotesRecord.hashed NotesRecord.pieces
  rw [terminate_append, terminate_cut, terminate_cut, List.append_assoc]
  rfl

theorem flatMap_hashed (records : List (NotesRecord T)) :
    records.flatMap (NotesRecord.hashed utf8) = terminate 0 (spelled utf8 records) := by
  unfold spelled terminate
  rw [List.flatMap_assoc]
  exact List.flatMap_congr fun record _ => hashed_eq record

theorem notMem_of_mem_spelled {records : List (NotesRecord T)} {w : List UInt8} (h : w ∈ spelled utf8 records) :
    (0 : UInt8) ∉ w := by
  obtain ⟨record, -, hw⟩ := List.mem_flatMap.mp h
  exact (List.mem_append.mp hw).elim notMem_of_mem_cut notMem_of_mem_cut

theorem flatMap_hashed_inj {records records' : List (NotesRecord T)} :
    records.flatMap (NotesRecord.hashed utf8) = records'.flatMap (NotesRecord.hashed utf8) ↔
      spelled utf8 records = spelled utf8 records' := by
  rw [flatMap_hashed, flatMap_hashed]
  exact ⟨terminate_inj (fun _ => notMem_of_mem_spelled) (fun _ => notMem_of_mem_spelled), congrArg _⟩

theorem digestOf_inj {sha256 : List UInt8 → D} (hsha : Function.Injective sha256)
    {records records' : List (NotesRecord T)} :
    digestOf utf8 le sha256 records = digestOf utf8 le sha256 records' ↔
      spelled utf8 (records.insertionSort le) = spelled utf8 (records'.insertionSort le) :=
  hsha.eq_iff.trans flatMap_hashed_inj

variable [Std.Total le] [IsTrans (NotesRecord T) le]

/-- Lists of the same records spell the same exactly when the records that the order does not tell apart do. -/
theorem spelled_eq_iff {exported imported : List (NotesRecord T)} (h : exported.Perm imported) :
    spelled utf8 (exported.insertionSort le) = spelled utf8 (imported.insertionSort le) ↔
      SameWithin utf8 le exported imported := by
  have hperm : (exported.insertionSort le).Perm (imported.insertionSort le) :=
    ((List.perm_insertionSort le exported).trans h).trans (List.perm_insertionSort le imported).symm
  have hclass : ∀ record, (spelled utf8 ((exported.insertionSort le).filter (alike le record)) =
      spelled utf8 ((imported.insertionSort le).filter (alike le record))) ↔
      spelled utf8 (exported.filter (alike le record)) = spelled utf8 (imported.filter (alike le record)) := by
    intro record
    rw [filter_alike_insertionSort, filter_alike_insertionSort]
  refine ⟨fun hspelled record => (hclass record).mp ?_, fun hsame => ?_⟩
  · exact flatMap_alike_eq (List.pairwise_insertionSort le exported) (List.pairwise_insertionSort le imported) hperm
      hspelled record
  · exact flatMap_eq_of_alike (List.pairwise_insertionSort le exported) (List.pairwise_insertionSort le imported) hperm
      fun record => (hclass record).mpr (hsame record)

/-- The verification tells the truth exactly when rearranged lists keep the order within an id and other lists spell
other pieces. -/
theorem verifyOf_iff [DecidableEq D] {sha256 : List UInt8 → D} (hsha : Function.Injective sha256)
    (exported imported : List (NotesRecord T)) :
    ((verifyOf (digestOf utf8 le sha256) (exportOf (digestOf utf8 le sha256) exported) imported).1 = true ↔
        exported.Perm imported) ↔
      (exported.Perm imported → SameWithin utf8 le exported imported) ∧ ToldApart utf8 le exported imported := by
  have hverify : (verifyOf (digestOf utf8 le sha256) (exportOf (digestOf utf8 le sha256) exported) imported).1 = true ↔
      exported.length = imported.length ∧
        spelled utf8 (exported.insertionSort le) = spelled utf8 (imported.insertionSort le) := by
    unfold verifyOf exportOf
    rw [Bool.and_eq_true, beq_iff_eq, beq_iff_eq, digestOf_inj hsha]
    exact and_congr eq_comm eq_comm
  rw [hverify]
  constructor
  · intro h
    exact ⟨fun hperm => (spelled_eq_iff hperm).mp (h.mpr hperm).2, fun hlength hspelled => h.mp ⟨hlength, hspelled⟩⟩
  · rintro ⟨hsame, hapart⟩
    exact ⟨fun h => hapart h.1 h.2, fun hperm => ⟨hperm.length_eq, (spelled_eq_iff hperm).mpr (hsame hperm)⟩⟩

end

/-! ## Texts without NUL -/

theorem pieces_of_notMem {T : Type} {utf8 : T → List UInt8} {record : NotesRecord T}
    (h : (0 : UInt8) ∉ utf8 record.id ∧ (0 : UInt8) ∉ utf8 record.content) :
    record.pieces utf8 = [utf8 record.id, utf8 record.content] := by
  unfold NotesRecord.pieces
  rw [cut_of_notMem h.1, cut_of_notMem h.2]
  rfl

/-- Records without NUL are determined by what they spell. -/
theorem spelled_inj {records records' : List (NotesRecord String)} (h : NulFree bytes records)
    (h' : NulFree bytes records') (heq : spelled bytes records = spelled bytes records') : records = records' := by
  unfold spelled at heq
  induction records generalizing records' with
  | nil =>
    cases records' with
    | nil => rfl
    | cons r' records' =>
      rw [List.flatMap_cons, pieces_of_notMem (h' r' List.mem_cons_self)] at heq
      exact nomatch heq
  | cons r records ih =>
    cases records' with
    | nil =>
      rw [List.flatMap_cons, pieces_of_notMem (h r List.mem_cons_self)] at heq
      exact nomatch heq
    | cons r' records' =>
      rw [List.flatMap_cons, List.flatMap_cons, pieces_of_notMem (h r List.mem_cons_self),
        pieces_of_notMem (h' r' List.mem_cons_self)] at heq
      obtain ⟨hid, htail⟩ := List.cons_eq_cons.mp heq
      obtain ⟨hcontent, hrest⟩ := List.cons_eq_cons.mp htail
      have hrecord : r = r' := by
        cases r
        cases r'
        obtain rfl := bytes_injective hid
        obtain rfl := bytes_injective hcontent
        rfl
      rw [hrecord, ih (fun s hs => h s (List.mem_cons_of_mem _ hs)) (fun s hs => h' s (List.mem_cons_of_mem _ hs)) hrest]

/-! ## One digest on both sides -/

section

variable {D : Type} {sha256 : List UInt8 → D} {collation : Collation}

/-- The order of the contracts on the kernel's records. -/
def JsLe (collation : Collation) (a b : NotesRecord String) : Prop := Contracts.LocaleLe collation a.toJs b.toJs

instance : DecidableRel (JsLe collation) := fun a b =>
  inferInstanceAs (Decidable (Contracts.LocaleLe collation a.toJs b.toJs))

instance : Std.Total (JsLe collation) := ⟨fun _ _ => collation.total _ _⟩

instance : IsTrans (NotesRecord String) (JsLe collation) := ⟨fun _ _ _ => collation.trans _ _ _⟩

theorem spelled_map_toJs (records : List (NotesRecord String)) :
    spelled JsString.utf8 (records.map NotesRecord.toJs) = spelled bytes records := by
  unfold spelled
  rw [List.flatMap_map]
  refine List.flatMap_congr fun record _ => ?_
  unfold NotesRecord.pieces NotesRecord.toJs
  rw [JsString.utf8_ofString, JsString.utf8_ofString]

theorem digests_eq_iff (hsha : Function.Injective sha256) {left right : List (NotesRecord String)} :
    Contracts.notesDigest sha256 collation (left.map NotesRecord.toJs) = Kernel.notesDigest sha256 right ↔
      spelled bytes (left.insertionSort (JsLe collation)) =
        spelled bytes (right.insertionSort (BytesLe Kernel.idBytes)) := by
  unfold Contracts.notesDigest Kernel.notesDigest digestOf
  rw [hsha.eq_iff, flatMap_hashed, flatMap_hashed,
    ← List.map_insertionSort (JsLe collation) (Contracts.LocaleLe collation) NotesRecord.toJs left fun _ _ _ _ => Iff.rfl,
    spelled_map_toJs]
  exact ⟨terminate_inj (fun _ => notMem_of_mem_spelled) (fun _ => notMem_of_mem_spelled), congrArg _⟩

theorem digestsAgree_of_oneOrder (hsha : Function.Injective sha256) {records : List (NotesRecord String)}
    (h : OneOrder collation records) : DigestsAgree sha256 collation records := by
  intro left right hleft hright
  rw [digests_eq_iff hsha]
  have hmem : ∀ a ∈ left.insertionSort (JsLe collation), a ∈ records := fun a ha =>
    hleft.mem_iff.mp ((List.mem_insertionSort _).mp ha)
  have hsorted : (left.insertionSort (JsLe collation)).Pairwise (BytesLe Kernel.idBytes) := by
    refine (List.pairwise_insertionSort (JsLe collation) left).imp_of_mem fun {a b} ha hb hle => ?_
    rcases eq_or_ne a b with rfl | hne
    · exact (Std.Total.total a a).elim id id
    · rcases h a (hmem a ha) b (hmem b hb) hne with hab | hba
      · exact (Std.Total.total b a).resolve_left hab.1
      · exact absurd hle hba.2
  refine congrArg _ (List.Perm.eq_of_pairwise (fun a b ha hb hab hba => ?_) hsorted
    (List.pairwise_insertionSort (BytesLe Kernel.idBytes) right) ?_)
  · by_contra hne
    have hb' := hright.mem_iff.mp ((List.mem_insertionSort _).mp hb)
    rcases h a (hmem a ha) b hb' hne with hbefore | hbefore
    · exact hbefore.1 hba
    · exact hbefore.1 hab
  · exact ((List.perm_insertionSort _ left).trans (hleft.trans hright.symm)).trans (List.perm_insertionSort _ right).symm

/-- When the sorted list is always the same, the order tells different records apart. -/
theorem eq_of_sorted_eq {α : Type} {r : α → α → Prop} [DecidableRel r] [Std.Total r] [IsTrans α r]
    {l sorted : List α} (h : ∀ l' : List α, l'.Perm l → l'.insertionSort r = sorted) {a b : α} (ha : a ∈ l) (hb : b ∈ l)
    (hab : r a b) (hba : r b a) : a = b := by
  classical
  have hfilter : ∀ c ∈ l, alike r a c = true → ∃ rest, sorted.filter (alike r a) = c :: rest := by
    intro c hc halike
    have hsorted := h (c :: l.erase c) (List.perm_cons_erase hc).symm
    refine ⟨(l.erase c).filter (alike r a), ?_⟩
    rw [← hsorted, filter_alike_insertionSort, List.filter_cons_of_pos halike]
  obtain ⟨rest, hfirst⟩ := hfilter a ha (alike_self a)
  obtain ⟨rest', hfirst'⟩ := hfilter b hb (alike_iff.mpr ⟨hab, hba⟩)
  exact (List.cons_eq_cons.mp (hfirst.symm.trans hfirst')).1

theorem oneOrder_of_digestsAgree (hsha : Function.Injective sha256) {records : List (NotesRecord String)}
    (hfree : NulFree bytes records) (h : DigestsAgree sha256 collation records) : OneOrder collation records := by
  have hfree' : ∀ {r : NotesRecord String → NotesRecord String → Prop} [DecidableRel r] {l : List (NotesRecord String)},
      l.Perm records → NulFree bytes (l.insertionSort r) := fun hl a ha =>
    hfree a (hl.mem_iff.mp ((List.mem_insertionSort _).mp ha))
  have hsame : ∀ left right : List (NotesRecord String), left.Perm records → right.Perm records →
      left.insertionSort (JsLe collation) = right.insertionSort (BytesLe Kernel.idBytes) := fun left right hl hr =>
    spelled_inj (hfree' hl) (hfree' hr) ((digests_eq_iff hsha).mp (h left right hl hr))
  -- every rearrangement has one sorted list, in both orders
  have hjs := fun left hl => hsame left records hl (List.Perm.refl _)
  have hbytes := fun right hr => (hsame records right (List.Perm.refl _) hr).symm.trans (hjs records (List.Perm.refl _))
  have hboth : (records.insertionSort (BytesLe Kernel.idBytes)).Pairwise fun a b =>
      BytesLe Kernel.idBytes a b ∧ JsLe collation a b :=
    (List.pairwise_insertionSort (BytesLe Kernel.idBytes) records).and
      (hjs records (List.Perm.refl _) ▸ List.pairwise_insertionSort (JsLe collation) records)
  intro a ha b hb hne
  have hstrict : ∀ {c d}, c ∈ records → d ∈ records → c ≠ d → BytesLe Kernel.idBytes c d ∧ JsLe collation c d →
      Before collation c d := fun hc hd hcd hle =>
    ⟨fun hdc => hcd (eq_of_sorted_eq hbytes hc hd hle.1 hdc), fun hdc => hcd (eq_of_sorted_eq hjs hc hd hle.2 hdc)⟩
  have hordered := (hboth.imp (S := fun a b => (BytesLe Kernel.idBytes a b ∧ JsLe collation a b) ∨
    (BytesLe Kernel.idBytes b a ∧ JsLe collation b a)) .inl)
  have : Std.Symm fun a b => (BytesLe Kernel.idBytes a b ∧ JsLe collation a b) ∨
      (BytesLe Kernel.idBytes b a ∧ JsLe collation b a) := ⟨fun _ _ => Or.symm⟩
  rcases hordered.forall ((List.mem_insertionSort _).mpr ha) ((List.mem_insertionSort _).mpr hb) hne with hab | hba
  · exact .inl (hstrict ha hb hne hab)
  · exact .inr (hstrict hb ha hne.symm hba)

end

/-! ## The migration -/

/-- For texts without NUL, the kernel's verification tells the truth exactly when rearranged lists keep the order of
the records of each id. -/
theorem verified_iff_of_nulFree {D : Type} [DecidableEq D] {sha256 : List UInt8 → D} (hsha : Function.Injective sha256)
    {exported imported : List (NotesRecord String)} (hexported : NulFree bytes exported)
    (himported : NulFree bytes imported) :
    ((Kernel.verifyNotesEquality sha256 (Kernel.exportNotes sha256 exported) imported).1 = true ↔
        exported.Perm imported) ↔
      (exported.Perm imported → ∀ record, exported.filter (alike (BytesLe Kernel.idBytes) record) =
        imported.filter (alike (BytesLe Kernel.idBytes) record)) := by
  have hfree : ∀ {l : List (NotesRecord String)} (p : NotesRecord String → Bool), NulFree bytes l →
      NulFree bytes (l.filter p) := fun p hl a ha => hl a (List.mem_of_mem_filter ha)
  refine (verifyOf_iff hsha exported imported).trans ⟨fun h hperm record => ?_, fun h => ⟨fun hperm record => ?_, ?_⟩⟩
  · exact spelled_inj (hfree _ hexported) (hfree _ himported) (h.1 hperm record)
  · exact congrArg _ (h hperm record)
  · intro _ hspelled
    have hsorted := spelled_inj (fun a ha => hexported a ((List.mem_insertionSort _).mp ha))
      (fun a ha => himported a ((List.mem_insertionSort _).mp ha)) hspelled
    exact (List.perm_insertionSort _ exported).symm.trans (hsorted ▸ List.perm_insertionSort _ imported)

/-- When the verifications tell the truth, and when the two digests agree. -/
theorem notes_migration_verified {D : Type} [DecidableEq D] (sha256 : List UInt8 → D)
    (hsha : Function.Injective sha256) (collation : Collation) :
    (∀ exported imported : List (NotesRecord JsString),
      ((Contracts.verifyNotesEquality sha256 collation (Contracts.exportNotes sha256 collation exported)
          imported).1 = true ↔ exported.Perm imported) ↔
        (exported.Perm imported → SameWithin JsString.utf8 (Contracts.LocaleLe collation) exported imported) ∧
          ToldApart JsString.utf8 (Contracts.LocaleLe collation) exported imported) ∧
    (∀ exported imported : List (NotesRecord String),
      ((Kernel.verifyNotesEquality sha256 (Kernel.exportNotes sha256 exported) imported).1 = true ↔
          exported.Perm imported) ↔
        (exported.Perm imported → SameWithin bytes (BytesLe Kernel.idBytes) exported imported) ∧
          ToldApart bytes (BytesLe Kernel.idBytes) exported imported) ∧
    (∀ records, OneOrder collation records → DigestsAgree sha256 collation records) ∧
    ∀ records, NulFree bytes records → DigestsAgree sha256 collation records → OneOrder collation records :=
  ⟨verifyOf_iff hsha, verifyOf_iff hsha, fun _ => digestsAgree_of_oneOrder hsha,
    fun _ => oneOrder_of_digestsAgree hsha⟩

/-- The collation of the code units. -/
def codeUnits : Collation where
  localeCompare a b := if a ≤ b then if b ≤ a then 0 else -1 else 1
  total a b := by
    rcases List.le_total a b with h | h
    · exact .inl (by rw [if_pos h]; split <;> decide)
    · exact .inr (by rw [if_pos h]; split <;> decide)
  trans a b c hab hbc := by
    have hle : ∀ {x y : JsString}, (if x ≤ y then if y ≤ x then (0 : ℤ) else -1 else 1) ≤ 0 → x ≤ y := fun h => by
      by_contra hnot
      rw [if_neg hnot] at h
      exact absurd h (by decide)
    rw [if_pos (List.le_trans (hle hab) (hle hbc))]
    split <;> decide

theorem notes_migration_verified_letters :
    DigestsAgree id codeUnits [⟨"b", "2"⟩, ⟨"a", "1"⟩] := by
  refine (notes_migration_verified id Function.injective_id codeUnits).2.2.1 _ ?_
  unfold OneOrder Before
  decide

/-- Two contents of one id in the other order: the same records, refused. -/
theorem rearranged_contents_refused : ¬ ∀ raw raw' exported imported,
    Kernel.validateDurableObjectState raw = .ok exported → Kernel.validateDurableObjectState raw' = .ok imported →
      ((Kernel.verifyNotesEquality id (Kernel.exportNotes id exported) imported).1 = true ↔
        exported.Perm imported) := by
  intro h
  have hverify := h [.object "a" "1", .object "a" "2"] [.object "a" "2", .object "a" "1"] [⟨"a", "1"⟩, ⟨"a", "2"⟩]
    [⟨"a", "2"⟩, ⟨"a", "1"⟩] rfl rfl
  exact absurd (hverify.mpr (List.Perm.swap ..)) (by decide)

end Iweb.Notes
