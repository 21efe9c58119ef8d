import Iweb.Admission.Transaction
import Std.Data.String.ToNat

/-!
# The invariant of the admission stores

For every row of the journal, what its state says about the other three stores. A version has one row,
one prefix and one sequence number, so a write for one version leaves the witnesses of all others alone.
-/

namespace Iweb

open Std (ExtTreeMap)
open CrashHoare

variable (A : AdmissionRules)

/-! ## Names -/

/-- An application id has no slash. -/
theorem slash_notMem_bytes {applicationId : String} (h : isApplicationId applicationId = true) :
    ascii '/' ∉ bytes applicationId := by
  intro hmem
  simp only [isApplicationId, isDnsLabel, Bool.and_eq_true] at h
  obtain ⟨⟨⟨-, hall⟩, -⟩, -⟩ := h
  have hslash := List.all_eq_true.mp hall _ hmem
  exact absurd hslash (by decide)

/-- The bytes of a path of two names under a root. -/
theorem bytes_path (root first second : String) :
    bytes (root ++ first ++ "/" ++ second) = bytes root ++ (bytes first ++ ascii '/' :: bytes second) := by
  have hslash : bytes "/" = [ascii '/'] := rfl
  rw [bytes_append, bytes_append, bytes_append root, hslash, List.append_assoc, List.append_assoc,
    List.singleton_append]

/-- Lists agree before and after their first separator. -/
theorem append_cons_inj {α : Type} {a : α} {x y z w : List α} (hx : a ∉ x) (hy : a ∉ y)
    (h : x ++ a :: z = y ++ a :: w) : x = y ∧ z = w := by
  rcases List.append_eq_append_iff.mp h with ⟨c, rfl, hc⟩ | ⟨c, rfl, hc⟩
  all_goals
    cases c with
    | nil => simp_all
    | cons b c =>
      obtain ⟨rfl, -⟩ := List.cons_eq_cons.mp hc
      simp at hx hy

/-- Versions with the same object prefix are the same version. -/
theorem versionPrefix_injective {p q : AdmissionProofV1} (hp : isApplicationId p.applicationId = true)
    (hq : isApplicationId q.applicationId = true) (h : versionPrefix p = versionPrefix q) :
    p.key = q.key := by
  have hbytes := congrArg bytes h
  unfold versionPrefix at hbytes
  rw [bytes_path, bytes_path] at hbytes
  obtain ⟨happ, hversion⟩ := append_cons_inj (slash_notMem_bytes hp) (slash_notMem_bytes hq)
    (List.append_cancel_left hbytes)
  exact Prod.ext (bytes_injective happ) (bytes_injective hversion)

/-- A version id determines its digest and its sequence number. -/
theorem composeWasmVersionId_injective {digest digest' : String} {sequence sequence' : Nat}
    (hd : isSha256Hex digest = true) (hd' : isSha256Hex digest' = true)
    (h : composeWasmVersionId digest sequence = composeWasmVersionId digest' sequence') :
    digest = digest' ∧ sequence = sequence' := by
  simp only [isSha256Hex, Bool.and_eq_true, beq_iff_eq] at hd hd'
  have hbytes := congrArg bytes h
  simp only [composeWasmVersionId, bytes_append, List.append_assoc] at hbytes
  obtain ⟨hdigest, hrest⟩ := List.append_inj hbytes (by rw [hd.1, hd'.1])
  refine ⟨bytes_injective hdigest, ?_⟩
  have hrepr : toString sequence = toString sequence' :=
    bytes_injective (List.append_cancel_left hrest)
  exact Nat.repr_injective hrepr

/-- The names in a verified proof. -/
theorem verifyAdmissionProof_names {proof : AdmissionProofV1} (h : verifyAdmissionProof A proof = .ok ()) :
    isApplicationId proof.applicationId = true ∧ isSha256Hex proof.versionDigest = true ∧
      proof.versionId = composeWasmVersionId proof.versionDigest proof.sequence := by
  simp only [verifyAdmissionProof, validateApplicationId, validateSha256Hex, bind_eq_ok, require_eq_ok,
    beq_iff_eq] at h
  obtain ⟨_, -, _, happ, _, -, _, hdigest, _, -, _, -, _, hversion, -⟩ := h
  exact ⟨happ, hdigest, hversion⟩

/-! ## What the state of a row says -/

/-- The objects of an admission are complete. -/
def CompleteObjects (proof : AdmissionProofV1) (content : Option ObjectPrefix) : Prop :=
  ∃ stored, content = some stored ∧ stored.marker = some ⟨1, proof⟩ ∧ ∃ digestHex, digestHex ∈ stored.blobs

/-- The witnesses of an admission in each state. -/
def Witnessed (proof : AdmissionProofV1) (content : Option ObjectPrefix) (db : Option AdmissionDbRow)
    (receipt : Option MaterializerReceipt) : AdmissionState → Prop
  | .staging | .validated => db = none ∧ receipt = none
  | .objectComplete =>
    CompleteObjects proof content ∧ (db = none ∨ db = some ⟨1, proof, "hidden"⟩) ∧ receipt = none
  | .dbHidden =>
    CompleteObjects proof content ∧ db = some ⟨1, proof, "hidden"⟩ ∧
      (receipt = none ∨ receipt = some (receiptOf A proof))
  | .materializerAcknowledged =>
    CompleteObjects proof content ∧
      (db = some ⟨1, proof, "hidden"⟩ ∨ db = some ⟨1, proof, "visible"⟩) ∧
      receipt = some (receiptOf A proof)
  | .visible =>
    CompleteObjects proof content ∧ db = some ⟨1, proof, "visible"⟩ ∧ receipt = some (receiptOf A proof)
  | .failed => db = none ∨ db = some ⟨1, proof, "hidden"⟩
  | .collected => content = none ∧ db = none ∧ receipt = none

/-- The database row of a version is visible. -/
def AdmissionStores.dbVisible (stores : AdmissionStores) (key : VersionKey) : Bool :=
  (stores.db[key]?).any fun row => row.visibility == "visible"

/-- The invariant of the admission stores. -/
structure AdmissionInv (stores : AdmissionStores) : Prop where
  /-- A row stands under the key of its proof. -/
  keyed : ∀ (key : VersionKey) (row : AdmissionJournalRow), stores.journal.rows[key]? = some row →
    row.proof.key = key
  verified : ∀ (key : VersionKey) (row : AdmissionJournalRow), stores.journal.rows[key]? = some row →
    verifyAdmissionProof A row.proof = .ok ()
  witnessed : ∀ (key : VersionKey) (row : AdmissionJournalRow), stores.journal.rows[key]? = some row →
    Witnessed A row.proof stores.objects[versionPrefix row.proof]? stores.db[key]? stores.receipts[key]?
      row.state
  /-- Nothing is stored for a version without a row. -/
  unknown : ∀ key : VersionKey, stores.journal.rows[key]? = none →
    stores.db[key]? = none ∧ stores.receipts[key]? = none
  owned : ∀ (path : String) (content : ObjectPrefix), stores.objects[path]? = some content →
    ∃ (key : VersionKey) (row : AdmissionJournalRow), stores.journal.rows[key]? = some row ∧
      versionPrefix row.proof = path
  /-- Blobs are stored under the address of their content. -/
  hashed : ∀ (path : String) (content : ObjectPrefix), stores.objects[path]? = some content →
    ∀ (digestHex : String) (blob : List UInt8), content.blobs[digestHex]? = some blob →
      A.sha256Hex blob = digestHex
  /-- The allocator is above every sequence number it gave out. -/
  sequenced : ∀ (key : VersionKey) (row : AdmissionJournalRow), stores.journal.rows[key]? = some row →
    row.proof.sequence < stores.journal.sequenceOf row.proof.applicationId

variable {A} {stores stores' : AdmissionStores} {key : VersionKey} {row : AdmissionJournalRow}

/-- Rows of two versions have different prefixes. -/
theorem AdmissionInv.prefix_ne (h : AdmissionInv A stores) (hrow : stores.journal.rows[key]? = some row)
    {other : VersionKey} {otherRow : AdmissionJournalRow}
    (hother : stores.journal.rows[other]? = some otherRow) (hne : other ≠ key) :
    versionPrefix otherRow.proof ≠ versionPrefix row.proof := by
  intro hsame
  have hkeys := versionPrefix_injective (verifyAdmissionProof_names A (h.verified _ _ hother)).1
    (verifyAdmissionProof_names A (h.verified _ _ hrow)).1 hsame
  rw [h.keyed _ _ hother, h.keyed _ _ hrow] at hkeys
  exact hne hkeys

theorem admissionInv_empty : AdmissionInv A .empty := by
  constructor <;> intros <;> simp_all [AdmissionStores.empty, WasmAdmissionJournal.new]

/-! ## Frames -/

/-- Two states of the stores that differ at most in one version. -/
structure SameElsewhere (key : VersionKey) (path : String) (stores stores' : AdmissionStores) : Prop where
  rows : ∀ other : VersionKey, other ≠ key → stores'.journal.rows[other]? = stores.journal.rows[other]?
  sequences : stores'.journal.nextSequence = stores.journal.nextSequence
  objects : ∀ other : String, other ≠ path → stores'.objects[other]? = stores.objects[other]?
  db : ∀ other : VersionKey, other ≠ key → stores'.db[other]? = stores.db[other]?
  receipts : ∀ other : VersionKey, other ≠ key → stores'.receipts[other]? = stores.receipts[other]?

/-- A write for one version keeps the invariant if the witnesses of that version fit its new row. -/
theorem AdmissionInv.update (h : AdmissionInv A stores) (hrow : stores.journal.rows[key]? = some row)
    (hsame : SameElsewhere key (versionPrefix row.proof) stores stores') {row' : AdmissionJournalRow}
    (hrow' : stores'.journal.rows[key]? = some row') (hproof : row'.proof = row.proof)
    (hwitnessed : Witnessed A row.proof stores'.objects[versionPrefix row.proof]? stores'.db[key]?
      stores'.receipts[key]? row'.state)
    (hhashed : ∀ content, stores'.objects[versionPrefix row.proof]? = some content →
      ∀ (digestHex : String) (blob : List UInt8), content.blobs[digestHex]? = some blob →
        A.sha256Hex blob = digestHex) : AdmissionInv A stores' := by
  -- A row after the write is a row before it with the same proof.
  have hold (other : VersionKey) (otherRow : AdmissionJournalRow)
      (hother : stores'.journal.rows[other]? = some otherRow) :
      ∃ before, stores.journal.rows[other]? = some before ∧ otherRow.proof = before.proof := by
    by_cases hkey : other = key
    · subst hkey
      rw [hrow', Option.some_inj] at hother
      subst hother
      exact ⟨row, hrow, hproof⟩
    · rw [hsame.rows other hkey] at hother
      exact ⟨otherRow, hother, rfl⟩
  refine ⟨?_, ?_, ?_, ?_, ?_, ?_, ?_⟩
  · intro other otherRow hother
    obtain ⟨before, hbefore, heq⟩ := hold other otherRow hother
    rw [heq]
    exact h.keyed other before hbefore
  · intro other otherRow hother
    obtain ⟨before, hbefore, heq⟩ := hold other otherRow hother
    rw [heq]
    exact h.verified other before hbefore
  · intro other otherRow hother
    by_cases hkey : other = key
    · subst hkey
      rw [hrow', Option.some_inj] at hother
      subst hother
      rw [hproof]
      exact hwitnessed
    · rw [hsame.rows other hkey] at hother
      rw [hsame.objects _ (h.prefix_ne hrow hother hkey), hsame.db other hkey, hsame.receipts other hkey]
      exact h.witnessed other otherRow hother
  · intro other hother
    have hkey : other ≠ key := by
      rintro rfl
      rw [hrow'] at hother
      cases hother
    rw [hsame.rows other hkey] at hother
    rw [hsame.db other hkey, hsame.receipts other hkey]
    exact h.unknown other hother
  · intro path content hcontent
    by_cases hpath : path = versionPrefix row.proof
    · exact ⟨key, row', hrow', by rw [hproof, hpath]⟩
    · rw [hsame.objects path hpath] at hcontent
      obtain ⟨other, otherRow, hother, hpre⟩ := h.owned path content hcontent
      by_cases hkey : other = key
      · subst hkey
        rw [hrow, Option.some_inj] at hother
        subst hother
        exact absurd hpre.symm hpath
      · exact ⟨other, otherRow, by rw [hsame.rows other hkey]; exact hother, hpre⟩
  · intro path content hcontent
    by_cases hpath : path = versionPrefix row.proof
    · subst hpath
      exact hhashed content hcontent
    · rw [hsame.objects path hpath] at hcontent
      exact h.hashed path content hcontent
  · intro other otherRow hother
    obtain ⟨before, hbefore, heq⟩ := hold other otherRow hother
    unfold WasmAdmissionJournal.sequenceOf
    rw [heq, hsame.sequences]
    exact h.sequenced other before hbefore

/-! ## Complete objects -/

/-- Complete objects pass the check of their prefix. -/
theorem AdmissionInv.verifyPrefix_eq_ok (h : AdmissionInv A stores) {proof : AdmissionProofV1}
    (hcomplete : CompleteObjects proof stores.objects[versionPrefix proof]?) :
    stores.verifyPrefix A (versionPrefix proof) = .ok () := by
  obtain ⟨content, hcontent, hmarker, digestHex, hblob⟩ := hcomplete
  have hpre : stores.prefixOf (versionPrefix proof) = content := by
    simp [AdmissionStores.prefixOf, hcontent]
  have hblobs : content.blobs ≠ ∅ := by
    intro hempty
    rw [hempty] at hblob
    exact ExtTreeMap.not_mem_empty hblob
  have hhashes : content.blobs.toList.forM (fun blob =>
      require (A.sha256Hex blob.2 == blob.1) wasmAdmissionObjectCorrupt
        ("blob " ++ blob.1 ++ " does not hash to its file name")) = .ok () := by
    refine forM_eq_ok fun blob hblob => ?_
    have hstored := ExtTreeMap.mem_toList_iff_getElem?_eq_some.mp hblob
    rw [require_eq_ok, beq_iff_eq]
    exact h.hashed _ content hcontent _ _ hstored
  simp [AdmissionStores.verifyPrefix, hpre, hmarker, hblobs, hhashes]

/-! ## Visibility -/

/-- A version whose witnesses are those of a visible row is admitted. -/
theorem AdmissionInv.admittedVisible_of_visible (h : AdmissionInv A stores)
    (hrow : stores.journal.rows[key]? = some row) (hstate : row.state = .visible) :
    admittedVisible A stores key = .ok (some row.proof) := by
  have hwitnessed := h.witnessed key row hrow
  rw [hstate] at hwitnessed
  obtain ⟨hcomplete, hdb, hreceipt⟩ := hwitnessed
  have hpre := h.verifyPrefix_eq_ok hcomplete
  have hverified := h.verified key row hrow
  obtain ⟨content, hcontent, hmarker, -⟩ := hcomplete
  have hstored : (stores.prefixOf (versionPrefix row.proof)).marker = some ⟨1, row.proof⟩ := by
    simp [AdmissionStores.prefixOf, hcontent, hmarker]
  simp [admittedVisible, hdb, hstored, hpre, hreceipt, receiptOf, hverified]

/-- A version without a visible database row is not admitted. -/
theorem admittedVisible_of_hidden (proof : AdmissionProofV1)
    (hdb : stores.db[key]? = none ∨ stores.db[key]? = some ⟨1, proof, "hidden"⟩) :
    admittedVisible A stores key = .ok none := by
  rcases hdb with hdb | hdb <;> simp [admittedVisible, hdb]

/-! ## Creating a row -/

/-- The allocator may move up. -/
theorem AdmissionInv.resequence (h : AdmissionInv A stores) {next : ExtTreeMap String Nat}
    {index : ExtTreeMap VersionKey (List String)}
    (hnext : ∀ (key : VersionKey) (row : AdmissionJournalRow), stores.journal.rows[key]? = some row →
      row.proof.sequence < (next[row.proof.applicationId]?).getD 1) :
    AdmissionInv A { stores with journal := ⟨stores.journal.rows, index, next⟩ } :=
  ⟨h.keyed, h.verified, h.witnessed, h.unknown, h.owned, h.hashed, hnext⟩

/-- The sequence numbers given out are below an allocator that moved up once. -/
theorem AdmissionInv.sequence_lt_allocated (h : AdmissionInv A stores) (applicationId : String)
    (hrow : stores.journal.rows[key]? = some row) :
    row.proof.sequence < ((stores.journal.nextSequence.insert applicationId
      (stores.journal.sequenceOf applicationId + 1))[row.proof.applicationId]?).getD 1 := by
  have hbefore := h.sequenced key row hrow
  rw [FiniteMap.getElem?_insert]
  by_cases hsame : row.proof.applicationId = applicationId
  · subst hsame
    simp only [if_pos, Option.getD_some]
    omega
  · rw [if_neg hsame]
    exact hbefore

/-- The next sequence number makes a version id that no row has. -/
theorem AdmissionInv.fresh (h : AdmissionInv A stores) {proof : AdmissionProofV1}
    (hverified : verifyAdmissionProof A proof = .ok ())
    (hsequence : proof.sequence = stores.journal.sequenceOf proof.applicationId) :
    stores.journal.rows[proof.key]? = none := by
  by_contra hsome
  obtain ⟨other, hother⟩ := Option.ne_none_iff_exists'.mp hsome
  obtain ⟨-, hdigest, hversion⟩ := verifyAdmissionProof_names A hverified
  obtain ⟨-, hdigest', hversion'⟩ := verifyAdmissionProof_names A (h.verified _ _ hother)
  have hkey := h.keyed _ _ hother
  have happ : other.proof.applicationId = proof.applicationId := congrArg Prod.fst hkey
  have hid : other.proof.versionId = proof.versionId := congrArg Prod.snd hkey
  rw [hversion, hversion'] at hid
  have hsame := (composeWasmVersionId_injective hdigest' hdigest hid).2
  have hbelow := h.sequenced _ _ hother
  rw [happ] at hbelow
  omega

/-- A new row with the next sequence number keeps the invariant. -/
theorem AdmissionInv.create (h : AdmissionInv A stores)
    (hverified : verifyAdmissionProof A row.proof = .ok ())
    (hsequence : row.proof.sequence = stores.journal.sequenceOf row.proof.applicationId)
    (hstate : row.state = .staging) (index : ExtTreeMap VersionKey (List String)) :
    AdmissionInv A { stores with
      journal := ⟨stores.journal.rows.insert row.proof.key row, index,
        stores.journal.nextSequence.insert row.proof.applicationId
          (stores.journal.sequenceOf row.proof.applicationId + 1)⟩ } := by
  have hfresh := h.fresh hverified hsequence
  -- A row after the creation is the new one or one from before.
  have hold (key : VersionKey) (found : AdmissionJournalRow)
      (hfound : (stores.journal.rows.insert row.proof.key row)[key]? = some found) :
      (key = row.proof.key ∧ found = row) ∨ stores.journal.rows[key]? = some found := by
    rw [FiniteMap.getElem?_insert] at hfound
    split at hfound
    · exact .inl ⟨‹_›, (Option.some.inj hfound).symm⟩
    · exact .inr hfound
  refine ⟨?_, ?_, ?_, ?_, ?_, h.hashed, ?_⟩
  · intro key found hfound
    rcases hold key found hfound with ⟨rfl, rfl⟩ | hbefore
    · rfl
    · exact h.keyed key found hbefore
  · intro key found hfound
    rcases hold key found hfound with ⟨rfl, rfl⟩ | hbefore
    · exact hverified
    · exact h.verified key found hbefore
  · intro key found hfound
    rcases hold key found hfound with ⟨rfl, rfl⟩ | hbefore
    · rw [hstate]
      exact h.unknown _ hfresh
    · exact h.witnessed key found hbefore
  · intro key hnone
    rw [FiniteMap.getElem?_insert] at hnone
    split at hnone
    · cases hnone
    · exact h.unknown key hnone
  · intro path content hcontent
    obtain ⟨key, found, hfound, hpre⟩ := h.owned path content hcontent
    have hne : key ≠ row.proof.key := by
      rintro rfl
      rw [hfresh] at hfound
      cases hfound
    exact ⟨key, found, by rw [FiniteMap.getElem?_insert_of_ne _ _ hne]; exact hfound, hpre⟩
  · intro key found hfound
    rcases hold key found hfound with ⟨rfl, rfl⟩ | hbefore
    · simp only [WasmAdmissionJournal.sequenceOf, FiniteMap.getElem?_insert_self, Option.getD_some,
        hsequence]
      omega
    · exact h.sequence_lt_allocated _ hbefore

/-- A staged row carries the proof the request gets, verified. -/
theorem stagingRow_eq_ok {request : AdmissionRequest} {versionDigest : String} {sequence : Nat}
    {token : List UInt8} {now : Nat}
    (h : stagingRow A request versionDigest sequence token now = .ok row) :
    row.proof = newProof A request versionDigest sequence token now ∧
      verifyAdmissionProof A row.proof = .ok () ∧ row.state = .staging := by
  simp only [stagingRow, bind_eq_ok, pure, Except.pure] at h
  obtain ⟨_, hverified, lease, -, hrow⟩ := h
  obtain rfl := Except.ok.inj hrow
  exact ⟨rfl, hverified, rfl⟩

/-- A joined admission is a row of the journal, and joining changes nothing; creating one keeps the
invariant and leaves a row in `Staging`. -/
theorem AdmissionInv.createOrJoin (h : AdmissionInv A stores) (request : AdmissionRequest)
    (token : Except KernelError (List UInt8)) (now : Nat) :
    AdmissionInv A (stores.createOrJoin A request token now).1 ∧
      ∀ joined, (stores.createOrJoin A request token now).2 = .ok joined →
        ((stores.createOrJoin A request token now).1 = stores ∧
          ∃ versionDigest, stores.journal.joinOf A request = .ok (versionDigest, some joined)) ∨
        ∃ row, (stores.createOrJoin A request token now).1.journal.rows[joined.key]? = some row ∧
          row.state = .staging := by
  cases hjoin : stores.journal.joinOf A request with
  | error failure =>
    simp only [AdmissionStores.createOrJoin, WasmAdmissionJournal.createOrJoin, hjoin]
    exact ⟨h, nofun⟩
  | ok found =>
    obtain ⟨versionDigest, joined | joined⟩ := found
    · cases token with
      | error failure =>
        simp only [AdmissionStores.createOrJoin, WasmAdmissionJournal.createOrJoin, hjoin]
        exact ⟨h, nofun⟩
      | ok token =>
        cases hstage : stagingRow A request versionDigest
            (stores.journal.sequenceOf request.applicationId) token now with
        | error failure =>
          simp only [AdmissionStores.createOrJoin, WasmAdmissionJournal.createOrJoin, hjoin, hstage]
          refine ⟨?_, nofun⟩
          exact h.resequence fun key row hrow => h.sequence_lt_allocated _ hrow
        | ok row =>
          obtain ⟨hproof, hverified, hstate⟩ := stagingRow_eq_ok hstage
          have happ : row.proof.applicationId = request.applicationId := by rw [hproof]; rfl
          have hsequence : row.proof.sequence =
              stores.journal.sequenceOf row.proof.applicationId := by
            rw [happ, hproof]
            rfl
          simp only [AdmissionStores.createOrJoin, WasmAdmissionJournal.createOrJoin, hjoin, hstage,
            WasmAdmissionJournal.insertRow]
          refine ⟨?_, ?_⟩
          · have hcreated := h.create hverified hsequence hstate
            rw [happ] at hcreated
            exact hcreated _
          · intro joined hjoined
            obtain rfl := Except.ok.inj hjoined
            exact .inr ⟨row, FiniteMap.getElem?_insert_self _ _ _, hstate⟩
    · simp only [AdmissionStores.createOrJoin, WasmAdmissionJournal.createOrJoin, hjoin]
      refine ⟨h, fun found hfound => .inl ⟨trivial, versionDigest, ?_⟩⟩
      rw [Except.ok.inj hfound]

/-! ## Restart -/

theorem raiseSequence_le (next : ExtTreeMap String Nat) (row : AdmissionJournalRow)
    (applicationId : String) :
    (next[applicationId]?).getD 1 ≤ ((raiseSequence next row)[applicationId]?).getD 1 := by
  simp only [raiseSequence]
  split
  · rw [FiniteMap.getElem?_insert]
    by_cases hsame : applicationId = row.proof.applicationId
    · subst hsame
      simp only [if_pos, Option.getD_some]
      omega
    · apply Nat.le_of_eq
      rw [if_neg hsame]
  · exact Nat.le_refl _

theorem sequence_lt_raiseSequence (next : ExtTreeMap String Nat) (row : AdmissionJournalRow) :
    row.proof.sequence < ((raiseSequence next row)[row.proof.applicationId]?).getD 1 := by
  simp only [raiseSequence]
  split
  · rw [FiniteMap.getElem?_insert_self, Option.getD_some]
    omega
  · omega

theorem foldl_raiseSequence_le (rows : List AdmissionJournalRow) (next : ExtTreeMap String Nat)
    (applicationId : String) :
    (next[applicationId]?).getD 1 ≤ ((rows.foldl raiseSequence next)[applicationId]?).getD 1 := by
  induction rows generalizing next with
  | nil => exact Nat.le_refl _
  | cons row rows ih => exact Nat.le_trans (raiseSequence_le next row applicationId) (ih _)

/-- The replay of all rows puts the allocator above every one of them. -/
theorem sequence_lt_foldl_raiseSequence {rows : List AdmissionJournalRow} {row : AdmissionJournalRow}
    (hmem : row ∈ rows) (next : ExtTreeMap String Nat) :
    row.proof.sequence < ((rows.foldl raiseSequence next)[row.proof.applicationId]?).getD 1 := by
  induction rows generalizing next with
  | nil => cases hmem
  | cons first rows ih =>
    rcases List.mem_cons.mp hmem with rfl | hrest
    · exact Nat.lt_of_lt_of_le (sequence_lt_raiseSequence next row) (foldl_raiseSequence_le rows _ _)
    · exact ih hrest _

/-- A restart keeps the invariant. -/
theorem AdmissionInv.restarted (h : AdmissionInv A stores) (crash : Option Nat) :
    AdmissionInv A (restarted crash stores) := by
  unfold Iweb.restarted
  split
  · refine h.resequence fun key row hrow => ?_
    have hentry := ExtTreeMap.mem_toList_iff_getElem?_eq_some.mpr hrow
    exact sequence_lt_foldl_raiseSequence (List.mem_map_of_mem (f := Prod.snd) hentry) ∅
  · exact h

end Iweb
