import Iweb.Admission.Vectors
import Iweb.Admission.Proofs.InvariantProofs

/-!
# The journal and the visible set agree

Every write of an admission keeps the invariant of the stores, so a crash after any of them leaves it
intact. The one way out is the lease: a recovery past the lease of an admission whose database row was
flipped, but whose journal row was not moved yet, fails a version that is visible. Runs without such a
recovery keep journal and visible set in agreement.
-/

namespace Iweb

open Std (ExtTreeMap)
open CrashHoare CrashRefinement

variable {A : AdmissionRules} {K : VersionKey → Prop} {now : Nat} {stores stores' : AdmissionStores}
  {key : VersionKey} {row row' : AdmissionJournalRow}

/-- The database row of an admission is visible, its journal row is not, and its lease has run out. -/
def AdmissionStores.overdue (stores : AdmissionStores) (now : Nat) (key : VersionKey) : Bool :=
  stores.dbVisible key && (stores.journal.rows[key]?).any fun row =>
    row.state == .materializerAcknowledged && match leaseExpired row now with
      | .ok expired => expired
      | .error _ => false

theorem AdmissionStores.overdue_iff : stores.overdue now key = true ↔
    stores.dbVisible key = true ∧ ∃ row, stores.journal.rows[key]? = some row ∧
      row.state = .materializerAcknowledged ∧ leaseExpired row now = .ok true := by
  simp only [overdue, Bool.and_eq_true, Option.any_eq_true, beq_iff_eq]
  refine and_congr_right fun _ => exists_congr fun row => and_congr_right fun _ => and_congr_right fun _ => ?_
  cases leaseExpired row now <;> simp

/-- The invariant, and no admission that is looked at is overdue. -/
structure Guarded (A : AdmissionRules) (K : VersionKey → Prop) (now : Nat) (stores : AdmissionStores) :
    Prop where
  inv : AdmissionInv A stores
  inTime : ∀ key, K key → stores.overdue now key = false

/-- An admission is at a row whose lease runs. -/
structure At (A : AdmissionRules) (K : VersionKey → Prop) (now : Nat) (key : VersionKey)
    (row : AdmissionJournalRow) (stores : AdmissionStores) : Prop where
  guarded : Guarded A K now stores
  row_eq : stores.journal.rows[key]? = some row
  live : leaseExpired row now = .ok false

theorem At.inv (h : At A K now key row stores) : AdmissionInv A stores := h.guarded.inv

theorem At.witnessed (h : At A K now key row stores) :
    Witnessed A row.proof stores.objects[versionPrefix row.proof]? stores.db[key]? stores.receipts[key]?
      row.state := h.inv.witnessed key row h.row_eq

/-- A write for one version puts it at its new row and guards all others as before. -/
theorem Guarded.update (h : Guarded A K now stores) (hrow : stores.journal.rows[key]? = some row)
    (hsame : SameElsewhere key (versionPrefix row.proof) stores stores')
    (hrow' : stores'.journal.rows[key]? = some row') (hproof : row'.proof = row.proof)
    (hwitnessed : Witnessed A row.proof stores'.objects[versionPrefix row.proof]? stores'.db[key]?
      stores'.receipts[key]? row'.state)
    (hhashed : ∀ content, stores'.objects[versionPrefix row.proof]? = some content →
      ∀ (digestHex : String) (blob : List UInt8), content.blobs[digestHex]? = some blob →
        A.sha256Hex blob = digestHex)
    (hlive : leaseExpired row' now = .ok false) : At A K now key row' stores' := by
  refine ⟨⟨h.inv.update hrow hsame hrow' hproof hwitnessed hhashed, ?_⟩, hrow', hlive⟩
  intro other hK
  by_contra hoverdue
  obtain ⟨hvisible, otherRow, hother, hstate, hexpired⟩ :=
    AdmissionStores.overdue_iff.mp (Bool.not_eq_false _ ▸ hoverdue)
  by_cases hkey : other = key
  · subst hkey
    rw [hrow', Option.some_inj] at hother
    subst hother
    rw [hlive] at hexpired
    cases hexpired
  · refine Bool.eq_false_iff.mp (h.inTime other hK) (AdmissionStores.overdue_iff.mpr
      ⟨?_, otherRow, ?_, hstate, hexpired⟩)
    · unfold AdmissionStores.dbVisible at hvisible ⊢
      rw [← hsame.db other hkey]
      exact hvisible
    · rw [← hsame.rows other hkey]
      exact hother

/-! ## Single writes -/

theorem sameElsewhere_rows (path : String) (row : AdmissionJournalRow) :
    SameElsewhere key path stores
      { stores with journal := { stores.journal with rows := stores.journal.rows.insert key row } } :=
  ⟨fun _ h => FiniteMap.getElem?_insert_of_ne _ _ h, rfl, fun _ _ => rfl, fun _ _ => rfl, fun _ _ => rfl⟩

theorem sameElsewhere_objects (path : String) (content : ObjectPrefix) :
    SameElsewhere key path stores { stores with objects := stores.objects.insert path content } :=
  ⟨fun _ _ => rfl, rfl, fun _ h => FiniteMap.getElem?_insert_of_ne _ _ h, fun _ _ => rfl, fun _ _ => rfl⟩

theorem sameElsewhere_db (path : String) (row : AdmissionDbRow) :
    SameElsewhere key path stores { stores with db := stores.db.insert key row } :=
  ⟨fun _ _ => rfl, rfl, fun _ _ => rfl, fun _ h => FiniteMap.getElem?_insert_of_ne _ _ h, fun _ _ => rfl⟩

theorem sameElsewhere_receipts (path : String) (receipt : MaterializerReceipt) :
    SameElsewhere key path stores { stores with receipts := stores.receipts.insert key receipt } :=
  ⟨fun _ _ => rfl, rfl, fun _ _ => rfl, fun _ _ => rfl, fun _ h => FiniteMap.getElem?_insert_of_ne _ _ h⟩

/-- Writing objects under the prefix of an admission. -/
theorem At.objects (h : At A K now key row stores) {content : ObjectPrefix}
    (hwitnessed : Witnessed A row.proof (some content) stores.db[key]? stores.receipts[key]? row.state)
    (hhashed : ∀ (digestHex : String) (blob : List UInt8), content.blobs[digestHex]? = some blob →
      A.sha256Hex blob = digestHex) :
    At A K now key row { stores with objects := stores.objects.insert (versionPrefix row.proof) content } := by
  refine h.guarded.update h.row_eq (sameElsewhere_objects _ content) h.row_eq rfl ?_ ?_ h.live
  · rw [FiniteMap.getElem?_insert_self]
    exact hwitnessed
  · intro stored hstored
    rw [FiniteMap.getElem?_insert_self, Option.some_inj] at hstored
    subst hstored
    exact hhashed

/-- Writing the database row of an admission. -/
theorem At.db (h : At A K now key row stores) {dbRow : AdmissionDbRow}
    (hwitnessed : Witnessed A row.proof stores.objects[versionPrefix row.proof]? (some dbRow)
      stores.receipts[key]? row.state) :
    At A K now key row { stores with db := stores.db.insert key dbRow } := by
  refine h.guarded.update h.row_eq (sameElsewhere_db _ dbRow) h.row_eq rfl ?_ (h.inv.hashed _) h.live
  rw [FiniteMap.getElem?_insert_self]
  exact hwitnessed

/-- Writing the receipt of an admission. -/
theorem At.receipt (h : At A K now key row stores) {receipt : MaterializerReceipt}
    (hwitnessed : Witnessed A row.proof stores.objects[versionPrefix row.proof]? stores.db[key]?
      (some receipt) row.state) :
    At A K now key row { stores with receipts := stores.receipts.insert key receipt } := by
  refine h.guarded.update h.row_eq (sameElsewhere_receipts _ receipt) h.row_eq rfl ?_ (h.inv.hashed _)
    h.live
  rw [FiniteMap.getElem?_insert_self]
  exact hwitnessed

/-! ## Transitions -/

/-- A row whose lease runs keeps it in every state it moves to. -/
theorem leaseExpired_moved {target : AdmissionState}
    (h : leaseExpired row now = .ok false ∨ target.isTerminal = true) :
    leaseExpired (row.moved target) now = .ok false := by
  by_cases hterminal : target.isTerminal = true
  · simp [leaseExpired, AdmissionJournalRow.moved, hterminal]
  · have hlive := h.resolve_right hterminal
    simpa [leaseExpired, AdmissionJournalRow.moved, hterminal] using hlive

/-- A transition fails and changes nothing, or moves the row and nothing else. -/
theorem transition_cases (target : AdmissionState) (now : Nat)
    (hrow : stores.journal.rows[key]? = some row) :
    (∃ failure, stores.transition key target now = (stores, .error failure)) ∨
      row.state.transitionAllowed target = true ∧
        stores.transition key target now =
          ({ stores with
            journal := { stores.journal with rows := stores.journal.rows.insert key (row.moved target) } },
            .ok (row.moved target)) := by
  unfold AdmissionStores.transition
  cases h : stores.journal.transition key target now with
  | error failure => exact .inl ⟨failure, rfl⟩
  | ok result =>
    simp only [WasmAdmissionJournal.transition, hrow, bind_eq_ok, require_eq_ok] at h
    obtain ⟨_, hallowed, h⟩ := h
    have hresult : .ok ({ stores.journal with
        rows := stores.journal.rows.insert key (row.moved target) }, row.moved target) =
        (Except.ok result : Except KernelError _) := by
      split at h
      · split at h
        · cases h
        · simp only [bind_eq_ok] at h
          obtain ⟨_, -, _, -, h⟩ := h
          exact h
      · exact h
    obtain rfl := Except.ok.inj hresult
    exact .inr ⟨hallowed, rfl⟩

/-- Moving a row to a state its witnesses fit. -/
theorem triple_moveRow (row : AdmissionJournalRow) (target : AdmissionState) :
    Triple (fun s => Guarded A K now s ∧ s.journal.rows[key]? = some row ∧
        (leaseExpired row now = .ok false ∨ target.isTerminal = true) ∧
        (row.state.transitionAllowed target = true →
          Witnessed A row.proof s.objects[versionPrefix row.proof]? s.db[key]? s.receipts[key]? target))
      (moveRow key target now) (fun row' => At A K now key row') (fun _ => Guarded A K now)
      (AdmissionInv A) := by
  -- A failed transition changes nothing; one that succeeds is a write for this version.
  have hcases (s : AdmissionStores) (hs : Guarded A K now s) (hrow : s.journal.rows[key]? = some row)
      (hlive : leaseExpired row now = .ok false ∨ target.isTerminal = true)
      (hwitnessed : row.state.transitionAllowed target = true →
        Witnessed A row.proof s.objects[versionPrefix row.proof]? s.db[key]? s.receipts[key]? target) :
      (∃ failure, s.transition key target now = (s, .error failure)) ∨
        ∃ s', s.transition key target now = (s', .ok (row.moved target)) ∧
          At A K now key (row.moved target) s' := by
    rcases transition_cases target now hrow with hfailed | ⟨hallowed, hmoved⟩
    · exact .inl hfailed
    · refine .inr ⟨_, hmoved, ?_⟩
      exact hs.update hrow (sameElsewhere_rows _ _) (FiniteMap.getElem?_insert_self _ _ _) rfl
        (hwitnessed hallowed) (hs.inv.hashed _) (leaseExpired_moved hlive)
  refine Triple.write ?_ ?_ ?_
  · rintro s ⟨hs, hrow, hlive, hwitnessed⟩
    rcases hcases s hs hrow hlive hwitnessed with ⟨failure, h⟩ | ⟨s', h, hat⟩
    · rw [h]
      exact hs.inv
    · rw [h]
      exact hat.inv
  · rintro s moved ⟨hs, hrow, hlive, hwitnessed⟩ hresult
    rcases hcases s hs hrow hlive hwitnessed with ⟨failure, h⟩ | ⟨s', h, hat⟩
    · rw [h] at hresult
      cases hresult
    · rw [h] at hresult ⊢
      obtain rfl := Except.ok.inj hresult
      exact hat
  · rintro s failure ⟨hs, hrow, hlive, hwitnessed⟩ hresult
    rcases hcases s hs hrow hlive hwitnessed with ⟨failure, h⟩ | ⟨s', h, hat⟩
    · rw [h]
      exact hs
    · rw [h]
      exact hat.guarded

/-- An admission may fail as long as its version is not visible. -/
theorem AdmissionInv.witnessed_failed (h : AdmissionInv A stores)
    (hrow : stores.journal.rows[key]? = some row)
    (hhidden : row.state = .materializerAcknowledged → stores.dbVisible key = false)
    (hallowed : row.state.transitionAllowed .failed = true) :
    Witnessed A row.proof stores.objects[versionPrefix row.proof]? stores.db[key]? stores.receipts[key]?
      .failed := by
  have hwitnessed := h.witnessed key row hrow
  cases hstate : row.state with
  | staging | validated =>
    rw [hstate] at hwitnessed
    exact .inl hwitnessed.1
  | objectComplete =>
    rw [hstate] at hwitnessed
    exact hwitnessed.2.1
  | dbHidden =>
    rw [hstate] at hwitnessed
    exact .inr hwitnessed.2.1
  | materializerAcknowledged =>
    rw [hstate] at hwitnessed
    rcases hwitnessed.2.1 with hdb | hdb
    · exact .inr hdb
    · have hvisible := hhidden hstate
      simp [AdmissionStores.dbVisible, hdb] at hvisible
  | visible | failed | collected => simp [hstate, AdmissionState.transitionAllowed] at hallowed

/-- Failing an admission that is not visible. -/
theorem triple_failRow (row : AdmissionJournalRow) :
    Triple (fun s => Guarded A K now s ∧ s.journal.rows[key]? = some row ∧
        (row.state = .materializerAcknowledged → s.dbVisible key = false))
      (moveRow key .failed now) (fun _ => Guarded A K now) (fun _ => Guarded A K now)
      (AdmissionInv A) := by
  refine (triple_moveRow row .failed).consequence ?_ (fun _ s h => h.guarded)
    (fun _ _ h => h) (fun _ h => h)
  rintro s ⟨hs, hrow, hhidden⟩
  exact ⟨hs, hrow, .inr rfl, hs.inv.witnessed_failed hrow hhidden⟩

/-- A step that cannot fail. -/
theorem triple_orFailRow_total {α : Type} {m : AdmissionM α} {P : AdmissionStores → Prop}
    {Q : α → AdmissionStores → Prop} (hm : Triple P m Q (fun _ _ => False) (AdmissionInv A)) :
    Triple P (orFailRow key now m) Q (fun _ => Guarded A K now) (AdmissionInv A) :=
  Triple.onError hm fun _ => Triple.vacuous fun _ h => h

/-! ## Stages -/

/-- Moving an admission whose lease runs. -/
theorem triple_moveRow_at (target : AdmissionState) {P : AdmissionStores → Prop}
    (hP : ∀ s, P s → At A K now key row s ∧
      Witnessed A row.proof s.objects[versionPrefix row.proof]? s.db[key]? s.receipts[key]? target) :
    Triple P (moveRow key target now) (fun row' => At A K now key row') (fun _ => Guarded A K now)
      (AdmissionInv A) := by
  refine (triple_moveRow row target).consequence ?_ (fun _ _ h => h) (fun _ _ h => h)
    (fun _ h => h)
  intro s hs
  obtain ⟨hat, hwitnessed⟩ := hP s hs
  exact ⟨hat.guarded, hat.row_eq, .inl hat.live, fun _ => hwitnessed⟩

/-- A stage that has nothing to do. -/
theorem triple_skip : Triple (At A K now key row) (pure row : AdmissionM AdmissionJournalRow)
    (fun row' => At A K now key row')
    (fun _ => Guarded A K now) (AdmissionInv A) :=
  Triple.pure fun _ hs => hs

theorem triple_stageValidated : Triple (At A K now key row) (stageValidated key row now)
    (fun row' => At A K now key row') (fun _ => Guarded A K now) (AdmissionInv A) := by
  unfold stageValidated
  split
  · refine triple_moveRow_at .validated fun s hs => ⟨hs, ?_⟩
    have hwitnessed := hs.witnessed
    rw [‹row.state = .staging›] at hwitnessed
    exact hwitnessed
  · exact triple_skip

/-- A blob is stored under the prefix of an admission. -/
def HasBlob (row : AdmissionJournalRow) (stores : AdmissionStores) : Prop :=
  ∃ digestHex, digestHex ∈ (stores.prefixOf (versionPrefix row.proof)).blobs

/-- What is stored under a prefix has the address of its content. -/
theorem AdmissionInv.hashed_prefixOf (h : AdmissionInv A stores) (path digestHex : String)
    (blob : List UInt8) (hblob : (stores.prefixOf path).blobs[digestHex]? = some blob) :
    A.sha256Hex blob = digestHex := by
  unfold AdmissionStores.prefixOf at hblob
  cases hcontent : stores.objects[path]? with
  | none => simp [hcontent, ObjectPrefix.empty] at hblob
  | some content =>
    rw [hcontent] at hblob
    exact h.hashed path content hcontent digestHex blob hblob

/-- Blobs may be written before the marker: no other store has a witness yet. -/
theorem triple_writeBlob (K : VersionKey → Prop) (now : Nat) (key : VersionKey)
    (hstate : row.state = .validated) {digestHex : String} {blob : List UInt8} (hhash : A.sha256Hex blob = digestHex) :
    Triple (At A K now key row)
      (Prog.write (AdmissionStores.writeBlob A (versionPrefix row.proof) digestHex blob))
      (fun _ s => At A K now key row s ∧ HasBlob row s) (fun _ _ => False) (AdmissionInv A) := by
  refine Triple.write_total (fun s hs => ?_) (fun _ _ hs => hs.1.inv)
  let content := (s.prefixOf (versionPrefix row.proof)).withBlob digestHex blob
  refine ⟨{ s with objects := s.objects.insert (versionPrefix row.proof) content }, (), ?_, ?_, ?_⟩
  · simp [AdmissionStores.writeBlob, hhash, content]
  · have hwitnessed := hs.witnessed
    rw [hstate] at hwitnessed
    refine hs.objects ?_ ?_
    · rw [hstate]
      exact hwitnessed
    · intro stored bytes hstored
      simp only [content, ObjectPrefix.withBlob, FiniteMap.getElem?_insert] at hstored
      split at hstored
      · subst stored
        rw [← Option.some.inj hstored]
        exact hhash
      · exact hs.inv.hashed_prefixOf _ _ _ hstored
  · refine ⟨digestHex, ?_⟩
    simp [AdmissionStores.prefixOf, ObjectPrefix.withBlob, content]

theorem triple_writeBlobs (hstate : row.state = .validated) (blobs : List (String × List UInt8))
    (p : Prop) :
    Triple (fun s => At A K now key row s ∧ (p → HasBlob row s))
      (writeBlobs A key (versionPrefix row.proof) now blobs)
      (fun _ s => At A K now key row s ∧ (p ∨ blobs ≠ [] → HasBlob row s)) (fun _ => Guarded A K now)
      (AdmissionInv A) := by
  induction blobs generalizing p with
  | nil => exact Triple.pure fun s hs => ⟨hs.1, fun h => hs.2 (h.resolve_right (fun h => h rfl))⟩
  | cons entry blobs ih =>
    obtain ⟨digestHex, blob⟩ := entry
    unfold writeBlobs
    split
    · exact Triple.lift (fun _ _ _ h => nomatch h) fun s _ hs _ => hs.1.guarded
    · rename_i hhash
      have hwrite := triple_writeBlob K now key hstate (not_ne_iff.mp hhash)
      refine Triple.bind (triple_orFailRow_total (hwrite.consequence (fun _ hs => hs.1)
        (fun _ _ h => h) (fun _ _ h => h) fun _ h => h)) fun _ => ?_
      refine (ih True).consequence (fun s hs => ⟨hs.1, fun _ => hs.2⟩) (fun _ s hs => ?_)
        (fun _ _ h => h) (fun _ h => h)
      exact ⟨hs.1, fun _ => hs.2 (.inl trivial)⟩

/-- The marker completes the objects. -/
theorem triple_writeMarker (hstate : row.state = .validated) :
    Triple (fun s => At A K now key row s ∧ HasBlob row s)
      (Prog.write (AdmissionStores.writeCompletionMarker (versionPrefix row.proof) ⟨1, row.proof⟩))
      (fun _ s => At A K now key row s ∧ CompleteObjects row.proof s.objects[versionPrefix row.proof]?)
      (fun _ _ => False) (AdmissionInv A) := by
  refine Triple.write_total (fun s hs => ⟨_, _, rfl, ?_, ?_⟩) (fun _ _ hs => hs.1.inv)
  · have hwitnessed := hs.1.witnessed
    rw [hstate] at hwitnessed
    refine hs.1.objects ?_ (fun digestHex blob hblob => hs.1.inv.hashed_prefixOf _ _ _ hblob)
    rw [hstate]
    exact hwitnessed
  · exact ⟨_, FiniteMap.getElem?_insert_self _ _ _, rfl, hs.2⟩

/-- The check of complete objects succeeds. -/
theorem triple_verifyPrefixStep {P : AdmissionStores → Prop}
    (hP : ∀ s, P s → AdmissionInv A s ∧
      CompleteObjects row.proof s.objects[versionPrefix row.proof]?) :
    Triple P (verifyPrefixStep A (versionPrefix row.proof)) (fun _ => P) (fun _ _ => False)
      (AdmissionInv A) := by
  refine Triple.bind (Q := fun checked s => P s ∧ checked = .ok ()) ?_ fun checked => ?_
  · refine Triple.read fun s hs => ⟨hs, ?_⟩
    obtain ⟨hinv, hcomplete⟩ := hP s hs
    exact hinv.verifyPrefix_eq_ok hcomplete
  · refine Triple.lift (fun s _ hs _ => hs.1) fun s failure hs hfailure => ?_
    rw [hs.2] at hfailure
    cases hfailure

theorem triple_stageObjects (request : Option AdmissionRequest) :
    Triple (At A K now key row) (stageObjects A key row request now) (fun row' => At A K now key row')
      (fun _ => Guarded A K now) (AdmissionInv A) := by
  unfold stageObjects
  split
  · rename_i hstate
    cases request with
    | none => exact Triple.lift (fun _ _ _ h => nomatch h) fun s _ hs _ => hs.guarded
    | some request =>
      simp only
      split
      · exact Triple.lift (fun _ _ _ h => nomatch h) fun s _ hs _ => hs.guarded
      · refine Triple.bind ((triple_writeBlobs hstate request.blobs False).consequence
          (fun s hs => ⟨hs, False.elim⟩) (fun _ _ h => h) (fun _ _ h => h) fun _ h => h) fun _ => ?_
        split
        · exact Triple.lift (fun _ _ _ h => nomatch h) fun s _ hs _ => hs.1.guarded
        · rename_i hblobs
          have hnonempty : request.blobs ≠ [] := fun h => hblobs (by rw [h]; rfl)
          refine Triple.bind (triple_orFailRow_total ((triple_writeMarker hstate).consequence
            (fun s hs => ⟨hs.1, hs.2 (.inr hnonempty)⟩) (fun _ _ h => h) (fun _ _ h => h)
            fun _ h => h)) fun _ => ?_
          refine Triple.bind (triple_orFailRow_total (triple_verifyPrefixStep
            fun s hs => ⟨hs.1.inv, hs.2⟩)) fun _ => ?_
          refine triple_moveRow_at .objectComplete fun s hs => ⟨hs.1, hs.2, ?_⟩
          have hwitnessed := hs.1.witnessed
          rw [hstate] at hwitnessed
          exact ⟨.inl hwitnessed.1, hwitnessed.2⟩
  · exact triple_skip

theorem triple_stageCheckObjects :
    Triple (At A K now key row) (stageCheckObjects A key row now) (fun _ => At A K now key row)
      (fun _ => Guarded A K now) (AdmissionInv A) := by
  unfold stageCheckObjects
  split
  · rename_i hstate
    refine triple_orFailRow_total (triple_verifyPrefixStep fun s hs => ⟨hs.inv, ?_⟩)
    have hwitnessed := hs.witnessed
    rcases hstate with hstate | hstate | hstate
    all_goals
      rw [hstate] at hwitnessed
      exact hwitnessed.1
  · exact Triple.pure fun _ hs => hs

theorem triple_insertHiddenRow (hstate : row.state = .objectComplete) :
    Triple (At A K now key row)
      (Prog.write (AdmissionStores.insertHiddenRow key ⟨1, row.proof, "hidden"⟩))
      (fun _ s => At A K now key row s ∧ s.db[key]? = some ⟨1, row.proof, "hidden"⟩)
      (fun _ _ => False) (AdmissionInv A) := by
  refine Triple.write_total (fun s hs => ?_) (fun _ _ hs => hs.1.inv)
  have hwitnessed := hs.witnessed
  rw [hstate] at hwitnessed
  obtain ⟨hcomplete, hdb | hdb, hreceipt⟩ := hwitnessed
  · refine ⟨{ s with db := s.db.insert key ⟨1, row.proof, "hidden"⟩ }, (), ?_, hs.db ?_,
      FiniteMap.getElem?_insert_self _ _ _⟩
    · simp only [AdmissionStores.insertHiddenRow, hdb]
    · rw [hstate]
      exact ⟨hcomplete, .inr rfl, hreceipt⟩
  · refine ⟨s, (), ?_, hs, hdb⟩
    simp [AdmissionStores.insertHiddenRow, hdb]

theorem triple_stageHidden : Triple (At A K now key row) (stageHidden key row now)
    (fun row' => At A K now key row') (fun _ => Guarded A K now) (AdmissionInv A) := by
  unfold stageHidden
  split
  · rename_i hstate
    refine Triple.bind (triple_orFailRow_total (triple_insertHiddenRow hstate)) fun _ => ?_
    refine triple_moveRow_at .dbHidden fun s hs => ⟨hs.1, ?_⟩
    have hwitnessed := hs.1.witnessed
    rw [hstate] at hwitnessed
    exact ⟨hwitnessed.1, hs.2, .inl hwitnessed.2.2⟩
  · exact triple_skip

theorem triple_handoff (hstate : row.state = .dbHidden) :
    Triple (At A K now key row)
      (Prog.write (AdmissionStores.handoff A key (receiptOf A row.proof)
        (receiptOf A row.proof).materializationTarget))
      (fun _ s => At A K now key row s ∧ s.receipts[key]? = some (receiptOf A row.proof))
      (fun _ _ => False) (AdmissionInv A) := by
  refine Triple.write_total (fun s hs => ?_) (fun _ _ hs => hs.1.inv)
  have hwitnessed := hs.witnessed
  rw [hstate] at hwitnessed
  obtain ⟨hcomplete, hdb, hreceipt | hreceipt⟩ := hwitnessed
  · refine ⟨{ s with receipts := s.receipts.insert key (receiptOf A row.proof) }, (), ?_, hs.receipt ?_,
      FiniteMap.getElem?_insert_self _ _ _⟩
    · simp [AdmissionStores.handoff, receiptOf, hreceipt]
    · rw [hstate]
      exact ⟨hcomplete, hdb, .inr rfl⟩
  · refine ⟨s, (), ?_, hs, hreceipt⟩
    rw [AdmissionStores.handoff, hreceipt]
    simp [receiptOf]

theorem triple_stageHandoff : Triple (At A K now key row) (stageHandoff A key row now)
    (fun row' => At A K now key row') (fun _ => Guarded A K now) (AdmissionInv A) := by
  unfold stageHandoff
  split
  · rename_i hstate
    refine Triple.bind (triple_orFailRow_total (triple_handoff hstate)) fun _ => ?_
    refine triple_moveRow_at .materializerAcknowledged fun s hs => ⟨hs.1, ?_⟩
    have hwitnessed := hs.1.witnessed
    rw [hstate] at hwitnessed
    exact ⟨hwitnessed.1, .inl hwitnessed.2.1, hs.2⟩
  · exact triple_skip

theorem triple_verifyReceiptStep (hstate : row.state = .materializerAcknowledged) :
    Triple (At A K now key row) (verifyReceiptStep A key row.proof) (fun _ => At A K now key row)
      (fun _ _ => False) (AdmissionInv A) := by
  refine Triple.bind (Q := fun checked s => At A K now key row s ∧ checked = .ok ()) ?_ fun checked => ?_
  · refine Triple.read fun s hs => ⟨hs, ?_⟩
    have hwitnessed := hs.witnessed
    rw [hstate] at hwitnessed
    rw [verifyReceiptDurable, hwitnessed.2.2]
    simp [receiptOf]
  · refine Triple.lift (fun s _ hs _ => hs.1) fun s failure hs hfailure => ?_
    rw [hs.2] at hfailure
    cases hfailure

theorem triple_flip (hstate : row.state = .materializerAcknowledged) :
    Triple (At A K now key row) (Prog.write (AdmissionStores.flipHiddenToVisible key row.proof))
      (fun _ s => At A K now key row s ∧ s.db[key]? = some ⟨1, row.proof, "visible"⟩)
      (fun _ _ => False) (AdmissionInv A) := by
  refine Triple.write_total (fun s hs => ?_) (fun _ _ hs => hs.1.inv)
  have hwitnessed := hs.witnessed
  rw [hstate] at hwitnessed
  obtain ⟨hcomplete, hdb | hdb, hreceipt⟩ := hwitnessed
  · refine ⟨{ s with db := s.db.insert key ⟨1, row.proof, "visible"⟩ }, true, ?_, hs.db ?_,
      FiniteMap.getElem?_insert_self _ _ _⟩
    · simp [AdmissionStores.flipHiddenToVisible, hdb]
    · rw [hstate]
      exact ⟨hcomplete, .inr rfl, hreceipt⟩
  · refine ⟨s, false, ?_, hs, hdb⟩
    simp [AdmissionStores.flipHiddenToVisible, hdb]

/-- After the flip the lease still runs, so the row does become visible. -/
theorem triple_stageVisible : Triple (At A K now key row) (stageVisible A key row now)
    (fun row' => At A K now key row') (fun _ => Guarded A K now) (AdmissionInv A) := by
  unfold stageVisible
  split
  · rename_i hstate
    refine Triple.bind (triple_orFailRow_total (triple_verifyReceiptStep hstate)) fun _ => ?_
    refine Triple.bind (triple_orFailRow_total (triple_flip hstate)) fun _ => ?_
    refine triple_moveRow_at .visible fun s hs => ⟨hs.1, ?_⟩
    have hwitnessed := hs.1.witnessed
    rw [hstate] at hwitnessed
    exact ⟨hwitnessed.1, hs.2, hwitnessed.2.2⟩
  · exact triple_skip

/-! ## Whole calls -/

/-- An admission that is looked at may fail once its lease has run out. -/
theorem Guarded.hidden_of_expired (h : Guarded A K now stores) (hK : K key)
    (hrow : stores.journal.rows[key]? = some row) (hexpired : leaseExpired row now = .ok true)
    (hstate : row.state = .materializerAcknowledged) : stores.dbVisible key = false := by
  by_contra hvisible
  refine Bool.eq_false_iff.mp (h.inTime key hK) (AdmissionStores.overdue_iff.mpr ?_)
  exact ⟨Bool.not_eq_false _ ▸ hvisible, row, hrow, hstate, hexpired⟩

theorem triple_journalRow (A : AdmissionRules) (K : VersionKey → Prop) (now : Nat) (key : VersionKey) :
    Triple (Guarded A K now) (journalRow key)
      (fun row s => Guarded A K now s ∧ s.journal.rows[key]? = some row) (fun _ => Guarded A K now)
      (AdmissionInv A) := by
  unfold journalRow
  refine Triple.bind (Q := fun found s => Guarded A K now s ∧ s.journal.rows[key]? = found) ?_
    fun found => ?_
  · exact Triple.read fun s hs => ⟨hs, rfl⟩
  · cases found with
    | none => exact Triple.lift (fun _ _ _ h => nomatch h) fun _ _ hs _ => hs.1
    | some row => exact Triple.pure fun _ hs => hs

theorem triple_driveToVisible (hK : K key) (request : Option AdmissionRequest) (created : Bool) :
    Triple (Guarded A K now) (driveToVisible A key request created now) (fun _ => Guarded A K now)
      (fun _ => Guarded A K now) (AdmissionInv A) := by
  unfold driveToVisible
  refine Triple.bind (triple_journalRow A K now key) fun row => ?_
  split
  · exact Triple.pure fun _ hs => hs.1
  split
  · exact Triple.lift (fun _ _ _ h => nomatch h) fun _ _ hs _ => hs.1
  refine Triple.bind (Q := fun expired s => (Guarded A K now s ∧ s.journal.rows[key]? = some row) ∧
    leaseExpired row now = .ok expired) ?_ fun expired => ?_
  · exact Triple.lift (fun _ _ hs h => ⟨hs, h⟩) fun _ _ hs _ => hs.1
  split
  · -- The lease has run out; the guard says that the version is not visible.
    rename_i hexpired
    refine Triple.bind (Q := fun _ => Guarded A K now) ?_ fun _ => ?_
    · refine (triple_failRow row).consequence ?_ (fun _ _ h => h) (fun _ _ h => h)
        (fun _ h => h)
      rintro s ⟨⟨hs, hrow⟩, hlease⟩
      rw [hexpired] at hlease
      exact ⟨hs, hrow, hs.hidden_of_expired hK hrow hlease⟩
    · exact Triple.lift (fun _ _ _ h => nomatch h) fun _ _ hs _ => hs
  · rename_i hlive
    refine Triple.bind (Q := fun row' => At A K now key row') ?_ fun row' => ?_
    · refine triple_stageValidated.consequence ?_ (fun _ _ h => h) (fun _ _ h => h) (fun _ h => h)
      rintro s ⟨⟨hs, hrow⟩, hlease⟩
      rw [Bool.eq_false_iff.mpr hlive] at hlease
      exact ⟨hs, hrow, hlease⟩
    refine Triple.bind (triple_stageObjects request) fun row' => ?_
    refine Triple.bind triple_stageCheckObjects fun _ => ?_
    refine Triple.bind triple_stageHidden fun row' => ?_
    refine Triple.bind triple_stageHandoff fun row' => ?_
    refine Triple.bind triple_stageVisible fun row' => ?_
    exact Triple.pure fun _ hs => hs.guarded

/-- The recovery of one admission. -/
theorem triple_recoverRow (hK : K key) (report : RecoveryReport) :
    Triple (Guarded A K now) (recoverRow A key now report) (fun _ => Guarded A K now)
      (fun _ => Guarded A K now) (AdmissionInv A) := by
  unfold recoverRow
  refine Triple.bind (Q := fun found s => Guarded A K now s ∧ s.journal.rows[key]? = found) ?_
    fun found => ?_
  · exact Triple.read fun s hs => ⟨hs, rfl⟩
  cases found with
  | none => exact Triple.pure fun _ hs => hs.1
  | some row =>
    simp only
    split
    · exact Triple.pure fun _ hs => hs.1
    refine Triple.bind (Q := fun expired s => (Guarded A K now s ∧ s.journal.rows[key]? = some row) ∧
      leaseExpired row now = .ok expired) ?_ fun expired => ?_
    · exact Triple.lift (fun _ _ hs h => ⟨hs, h⟩) fun _ _ hs _ => hs.1
    split
    · rename_i hexpired
      refine Triple.bind (Q := fun _ => Guarded A K now) ?_ fun _ => Triple.pure fun _ hs => hs
      refine (triple_failRow row).consequence ?_ (fun _ _ h => h) (fun _ _ h => h)
        (fun _ h => h)
      rintro s ⟨⟨hs, hrow⟩, hlease⟩
      rw [hexpired] at hlease
      exact ⟨hs, hrow, hs.hidden_of_expired hK hrow hlease⟩
    · -- The report looks at the outcome, the stores are guarded whatever it was.
      refine Triple.bind (Q := fun _ => Guarded A K now) ?_ fun result => ?_
      · refine (triple_driveToVisible hK none false).attempt.consequence (fun _ hs => hs.1.1) ?_
          (fun _ _ h => h) (fun _ h => h)
        intro result s hs
        cases result with
        | ok outcome => exact hs
        | error failure => exact hs
      · cases result with
        | ok outcome => exact Triple.pure fun _ hs => hs
        | error failure =>
          simp only
          refine Triple.bind (Q := fun _ => Guarded A K now) (Triple.read fun _ hs => hs) fun nowFailed => ?_
          split
          · exact Triple.pure fun _ hs => hs
          split
          · exact Triple.pure fun _ hs => hs
          · exact Triple.lift (fun _ _ _ h => nomatch h) fun _ _ hs _ => hs

theorem triple_recoverRows (keys : List VersionKey) (hK : ∀ key ∈ keys, K key) (report : RecoveryReport) :
    Triple (Guarded A K now) (recoverRows A now keys report) (fun _ => Guarded A K now)
      (fun _ => Guarded A K now) (AdmissionInv A) := by
  induction keys generalizing report with
  | nil => exact Triple.pure fun _ hs => hs
  | cons key keys ih =>
    unfold recoverRows
    refine Triple.bind (triple_recoverRow (hK key List.mem_cons_self) report) fun report => ?_
    exact ih (fun other hother => hK other (List.mem_cons_of_mem _ hother)) report

/-- A recovery keeps the invariant if no admission is overdue. -/
theorem triple_recoverWasmAdmission (A : AdmissionRules) (now : Nat) :
    Triple (Guarded A (fun _ => True) now) (recoverWasmAdmission A now) (fun _ => AdmissionInv A)
      (fun _ => AdmissionInv A) (AdmissionInv A) := by
  unfold recoverWasmAdmission
  refine Triple.bind (Q := fun _ => Guarded A (fun _ => True) now) (Triple.read fun _ hs => hs)
    fun keys => ?_
  refine Triple.bind ((triple_recoverRows keys (fun _ _ => trivial) _).consequence (fun _ h => h)
    (fun _ _ h => h) (fun _ _ h => h.inv) fun _ h => h) fun report => ?_
  refine Triple.bind (Q := fun _ => AdmissionInv A) (Triple.read fun _ hs => hs.inv) fun quarantined => ?_
  exact Triple.pure fun _ hs => hs

/-- The admission a request joins, if it joins one, is not overdue. -/
def AdmissionStores.joinsInTime (stores : AdmissionStores) (A : AdmissionRules)
    (request : AdmissionRequest) (now : Nat) : Bool :=
  match stores.journal.joinOf A request with
  | .ok (_, some joined) => !stores.overdue now joined.key
  | _ => true

/-- A commit keeps the invariant if the admission it joins is not overdue. -/
theorem triple_commitWasmAdmission (A : AdmissionRules) (now : Nat) (request : AdmissionRequest)
    (token : Except KernelError (List UInt8)) :
    Triple (fun s => AdmissionInv A s ∧ s.joinsInTime A request now = true)
      (commitWasmAdmission A request token now) (fun _ => AdmissionInv A) (fun _ => AdmissionInv A)
      (AdmissionInv A) := by
  unfold commitWasmAdmission
  refine Triple.bind (Q := fun joined => Guarded A (fun key => key = joined.key) now) ?_ fun joined => ?_
  · refine Triple.write ?_ ?_ ?_
    · exact fun s hs => (hs.1.createOrJoin request token now).1
    · rintro s joined ⟨hs, hintime⟩ hresult
      obtain ⟨hinv, hjoined⟩ := hs.createOrJoin request token now
      refine ⟨hinv, ?_⟩
      rintro _ rfl
      rcases hjoined joined hresult with ⟨hsame, versionDigest, hjoin⟩ | ⟨row, hrow, hstate⟩
      · simp only [AdmissionStores.joinsInTime, hjoin, Bool.not_eq_true'] at hintime
        rw [hsame]
        exact hintime
      · simp [AdmissionStores.overdue, hrow, hstate]
    · exact fun s _ hs _ => (hs.1.createOrJoin request token now).1
  · exact (triple_driveToVisible (K := fun key => key = joined.key) rfl (some request)
      joined.created).consequence (fun _ h => h) (fun _ _ h => h.inv) (fun _ _ h => h.inv) (fun _ h => h)

/-! ### Collection -/

/-- A failed admission loses its objects, its database row and its receipt before it is collected. -/
theorem triple_collectFailedAdmission (A : AdmissionRules) (key : VersionKey) (now : Nat) :
    Triple (AdmissionInv A) (collectFailedAdmission key now) (fun _ => AdmissionInv A)
      (fun _ => AdmissionInv A) (AdmissionInv A) := by
  unfold collectFailedAdmission
  refine Triple.bind (Q := fun row s => AdmissionInv A s ∧ s.journal.rows[key]? = some row) ?_
    fun row => ?_
  · refine (triple_journalRow A (fun _ => False) now key).consequence
      (fun s hs => ⟨hs, nofun⟩) (fun row s hs => ⟨hs.1.inv, hs.2⟩) (fun _ _ hs => hs.inv) (fun _ h => h)
  split
  · exact Triple.lift (fun _ _ _ h => nomatch h) fun _ _ hs _ => hs.1
  · rename_i hstate
    have hfailed : row.state = .failed := not_ne_iff.mp hstate
    refine Triple.bind (Q := fun _ s => (AdmissionInv A s ∧ s.journal.rows[key]? = some row) ∧
      s.objects[versionPrefix row.proof]? = none) ?_ fun _ => ?_
    · refine (Triple.write_total (fun s hs => ⟨_, _, rfl, ⟨?_, hs.2⟩, ?_⟩) fun _ _ hs => hs.1.1).consequence
        (fun _ h => h) (fun _ _ h => h) (fun _ _ h => h.elim) (fun _ h => h)
      · refine hs.1.update hs.2 ⟨fun _ _ => rfl, rfl, fun _ h => FiniteMap.getElem?_erase_of_ne _ h,
          fun _ _ => rfl, fun _ _ => rfl⟩ hs.2 rfl ?_ ?_
        · have hwitnessed := hs.1.witnessed key row hs.2
          rw [hfailed] at hwitnessed ⊢
          exact hwitnessed
        · intro content hcontent
          simp at hcontent
      · exact ExtTreeMap.getElem?_erase_self
    refine Triple.bind (Q := fun _ s => ((AdmissionInv A s ∧ s.journal.rows[key]? = some row) ∧
      s.objects[versionPrefix row.proof]? = none) ∧ s.db[key]? = none) ?_ fun _ => ?_
    · refine (Triple.write_total (fun s hs => ?_) fun _ _ hs => hs.1.1.1).consequence
        (fun _ h => h) (fun _ _ h => h) (fun _ _ h => h.elim) (fun _ h => h)
      obtain ⟨⟨hinv, hrow⟩, hobjects⟩ := hs
      have hwitnessed := hinv.witnessed key row hrow
      rw [hfailed] at hwitnessed
      refine ⟨{ s with db := s.db.erase key }, (), ?_, ⟨⟨?_, hrow⟩, hobjects⟩,
        ExtTreeMap.getElem?_erase_self⟩
      · rcases hwitnessed with hdb | hdb <;> simp [AdmissionStores.removeRow, hdb]
      · refine hinv.update hrow ⟨fun _ _ => rfl, rfl, fun _ _ => rfl,
          fun _ h => FiniteMap.getElem?_erase_of_ne _ h, fun _ _ => rfl⟩ hrow rfl ?_ (hinv.hashed _)
        rw [hfailed]
        exact .inl ExtTreeMap.getElem?_erase_self
    refine Triple.bind (Q := fun _ s => (((AdmissionInv A s ∧ s.journal.rows[key]? = some row) ∧
      s.objects[versionPrefix row.proof]? = none) ∧ s.db[key]? = none) ∧ s.receipts[key]? = none) ?_
      fun _ => ?_
    · refine (Triple.write_total (fun s hs => ?_) fun _ _ hs => hs.1.1.1.1).consequence
        (fun _ h => h) (fun _ _ h => h) (fun _ _ h => h.elim) (fun _ h => h)
      obtain ⟨⟨⟨hinv, hrow⟩, hobjects⟩, hdb⟩ := hs
      refine ⟨_, _, rfl, ⟨⟨⟨?_, hrow⟩, hobjects⟩, hdb⟩, ExtTreeMap.getElem?_erase_self⟩
      refine hinv.update hrow ⟨fun _ _ => rfl, rfl, fun _ _ => rfl, fun _ _ => rfl,
        fun _ h => FiniteMap.getElem?_erase_of_ne _ h⟩ hrow rfl ?_ (hinv.hashed _)
      rw [hfailed]
      exact .inl hdb
    · refine (triple_moveRow (K := fun _ => False) row .collected).consequence ?_
        (fun _ _ h => h.inv) (fun _ _ h => h.inv) (fun _ h => h)
      rintro s ⟨⟨⟨⟨hinv, hrow⟩, hobjects⟩, hdb⟩, hreceipt⟩
      exact ⟨⟨hinv, nofun⟩, hrow, .inr rfl, fun _ => ⟨hobjects, hdb, hreceipt⟩⟩

/-! ## Runs -/

/-- No admission that the call may fail is overdue. -/
def AdmissionOp.inTime (A : AdmissionRules) (stores : AdmissionStores) : AdmissionOp → Bool
  | .commit request _ now _ => stores.joinsInTime A request now
  | .recover now _ => stores.journal.rows.keys.all fun key => !stores.overdue now key
  | .collect _ _ _ => true

/-- One call, crashed or not, keeps the invariant. -/
theorem AdmissionInv.run (h : AdmissionInv A stores) (op : AdmissionOp)
    (hintime : op.inTime A stores = true) : AdmissionInv A (op.run A stores) := by
  cases op with
  | commit request token now crash =>
    have hcall := (triple_commitWasmAdmission A now request token).leaves
      (fun s hs => hs.1) crash ⟨h, hintime⟩
    exact hcall.restarted crash
  | recover now crash =>
    have hguarded : Guarded A (fun _ => True) now stores := by
      refine ⟨h, fun key _ => ?_⟩
      by_contra hoverdue
      rw [Bool.not_eq_false] at hoverdue
      obtain ⟨-, row, hrow, -⟩ := AdmissionStores.overdue_iff.mp hoverdue
      have hlate := List.all_eq_true.mp hintime key (FiniteMap.mem_keys.mpr ⟨row, hrow⟩)
      simp [hoverdue] at hlate
    have hcall := (triple_recoverWasmAdmission A now).leaves (fun s hs => hs.inv) crash
      hguarded
    exact hcall.restarted crash
  | collect key now crash =>
    have hcall := (triple_collectFailedAdmission A key now).leaves
      (fun s hs => hs) crash h
    exact hcall.restarted crash

/-- Journal and visible set agree on a version: failed and collected ones are not visible, visible ones
are, and a collected one has left nothing behind. -/
def AdmissionAgrees (A : AdmissionRules) (stores : AdmissionStores) (key : VersionKey)
    (row : AdmissionJournalRow) : Prop :=
  (row.state = .failed ∨ row.state = .collected → admittedVisible A stores key = .ok none) ∧
    (row.state = .visible → admittedVisible A stores key = .ok (some row.proof)) ∧
    (row.state = .collected → stores.objects[versionPrefix row.proof]? = none ∧
      stores.db[key]? = none ∧ stores.receipts[key]? = none)

/-- The invariant says that journal and visible set agree. -/
theorem AdmissionInv.agrees (h : AdmissionInv A stores) (hrow : stores.journal.rows[key]? = some row) :
    AdmissionAgrees A stores key row := by
  have hwitnessed := h.witnessed key row hrow
  refine ⟨?_, h.admittedVisible_of_visible hrow, ?_⟩
  · rintro (hstate | hstate)
    · rw [hstate] at hwitnessed
      exact admittedVisible_of_hidden row.proof hwitnessed
    · rw [hstate] at hwitnessed
      exact admittedVisible_of_hidden row.proof (.inl hwitnessed.2.1)
  · intro hstate
    rw [hstate] at hwitnessed
    exact hwitnessed

/-- In every history of commits, recoveries and collections, crashed anywhere, in which no call may fail
an overdue admission, journal and visible set agree on every version. -/
theorem admission_agrees (A : AdmissionRules) (ops : List AdmissionOp)
    (hintime : Along (AdmissionOp.run A) (fun stores op => op.inTime A stores = true) .empty ops)
    (key : VersionKey) (row : AdmissionJournalRow)
    (hrow : (admissionRun A ops).journal.rows[key]? = some row) :
    AdmissionAgrees A (admissionRun A ops) key row := by
  have hinv : AdmissionInv A (admissionRun A ops) :=
    hintime.invariant (fun stores op hop h => h.run op hop) admissionInv_empty
  exact hinv.agrees hrow

/-- A second admission of the same content dies before the flip, fails in a recovery past its lease and
is collected. -/
theorem admission_agrees_after_collection :
    let ops : List AdmissionOp :=
      [.commit Vectors.admissionRequest (.ok Vectors.commitToken) Vectors.admissionTime none,
        .commit { Vectors.admissionRequest with allowResequence := true } (.ok Vectors.commitToken)
          Vectors.admissionTime (some 9),
        .recover (Vectors.admissionTime + 60000) none,
        .collect (Vectors.admissionKey 2) (Vectors.admissionTime + 60000) none]
    ∃ row, (admissionRun Vectors.admissionRules ops).journal.rows[Vectors.admissionKey 2]? = some row ∧
      row.state = .collected ∧
      AdmissionAgrees Vectors.admissionRules (admissionRun Vectors.admissionRules ops)
        (Vectors.admissionKey 2) row := by
  intro ops
  have hstate : ((admissionRun Vectors.admissionRules ops).journal.rows[Vectors.admissionKey 2]?).map
      AdmissionJournalRow.state = some .collected := by decide +kernel
  obtain ⟨row, hrow, hcollected⟩ := Option.map_eq_some_iff.mp hstate
  have hintime : Along (AdmissionOp.run Vectors.admissionRules)
      (fun stores op => op.inTime Vectors.admissionRules stores = true) .empty ops := by decide +kernel
  exact ⟨row, hrow, hcollected, admission_agrees Vectors.admissionRules ops hintime _ row hrow⟩

/-- A commit dies right after the flip, and the recovery runs when the lease has run out: the row has
failed, and the version is admitted. -/
theorem failed_version_admitted :
    let stores := admissionRun Vectors.admissionRules
      [.commit Vectors.admissionRequest (.ok Vectors.commitToken) Vectors.admissionTime (some 10),
        .recover (Vectors.admissionTime + 60000) none]
    (stores.journal.rows[Vectors.admissionKey 1]?).map AdmissionJournalRow.state = some .failed ∧
      (match admittedVisible Vectors.admissionRules stores (Vectors.admissionKey 1) with
        | .ok (some proof) => proof.versionId == (Vectors.admissionKey 1).2
        | _ => false) = true := by
  decide +kernel

end Iweb
