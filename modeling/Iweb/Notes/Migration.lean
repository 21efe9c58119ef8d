import Iweb.Foundations.Delimited
import Iweb.Kernel.Utf16
import Iweb.Kernel.Wire

/-!
# The migration of notes

The notes of a durable object are exported with their number and a digest, and the imported notes are compared with
these. Contracts and kernel each read the records, compute the digest and compare: the contracts on texts of UTF-16
units in the order of a collation, the kernel on Unicode texts in the order of their bytes.
-/

namespace Iweb.Notes

structure NotesRecord (T : Type) where
  id : T
  content : T
deriving DecidableEq

structure NotesExport (T D : Type) where
  records : List (NotesRecord T)
  count : ℕ
  digest : D

/-- A record as it is read: not an object, or its two fields where these are texts. -/
inductive RawRecord (T : Type) where
  | malformed
  | object (id content : Option T)

section

variable {T D : Type} (utf8 : T → List UInt8) (le : NotesRecord T → NotesRecord T → Prop) [DecidableRel le]

/-- The bytes that a record is hashed by: each of its texts with a NUL after it. -/
def NotesRecord.hashed (record : NotesRecord T) : List UInt8 :=
  utf8 record.id ++ 0 :: (utf8 record.content ++ [0])

/-- The digest over the records in an order. -/
def digestOf (sha256 : List UInt8 → D) (records : List (NotesRecord T)) : D :=
  sha256 ((records.insertionSort le).flatMap (NotesRecord.hashed utf8))

def exportOf (digest : List (NotesRecord T) → D) (records : List (NotesRecord T)) : NotesExport T D :=
  ⟨records, records.length, digest records⟩

/-- Whether the imported records are as many as the exported ones and have their digest, and how many they are. -/
def verifyOf [DecidableEq D] (digest : List (NotesRecord T) → D) (exported : NotesExport T D)
    (imported : List (NotesRecord T)) : Bool × ℕ :=
  (imported.length == exported.count && digest imported == exported.digest, imported.length)

end

/-! ## The contracts -/

/-- The collation of the locale, a consistent comparison of texts. -/
structure Collation where
  localeCompare : JsString → JsString → ℤ
  total : ∀ a b, localeCompare a b ≤ 0 ∨ localeCompare b a ≤ 0
  trans : ∀ a b c, localeCompare a b ≤ 0 → localeCompare b c ≤ 0 → localeCompare a c ≤ 0

namespace Contracts

def LocaleLe (collation : Collation) (a b : NotesRecord JsString) : Prop := collation.localeCompare a.id b.id ≤ 0

instance (collation : Collation) : DecidableRel (LocaleLe collation) := fun a b =>
  inferInstanceAs (Decidable (collation.localeCompare a.id b.id ≤ 0))

instance (collation : Collation) : Std.Total (LocaleLe collation) := ⟨fun _ _ => collation.total _ _⟩

instance (collation : Collation) : IsTrans (NotesRecord JsString) (LocaleLe collation) :=
  ⟨fun _ _ _ => collation.trans _ _ _⟩

variable {D : Type} (sha256 : List UInt8 → D) (collation : Collation)

def notesDigest (records : List (NotesRecord JsString)) : D :=
  digestOf JsString.utf8 (LocaleLe collation) sha256 records

def exportNotes (records : List (NotesRecord JsString)) : NotesExport JsString D :=
  exportOf (notesDigest sha256 collation) records

def verifyNotesEquality [DecidableEq D] (exported : NotesExport JsString D)
    (imported : List (NotesRecord JsString)) : Bool × ℕ :=
  verifyOf (notesDigest sha256 collation) exported imported

def readRecord : RawRecord JsString → Except String (NotesRecord JsString)
  | .malformed => .error "durable object record is malformed"
  | .object id content =>
    match id with
    | none => .error "durable object record id is invalid"
    | some id =>
      if id.length = 0 ∨ id.length > 512 then .error "durable object record id is invalid"
      else match content with
        | none => .error "durable object record content is invalid"
        | some content => .ok ⟨id, content⟩

/-- The state of a durable object; `none` when it is not an array. -/
def readState : Option (List (RawRecord JsString)) → Except String (List (NotesRecord JsString))
  | none => .error "durable object state is not a record array"
  | some entries => entries.mapM readRecord

end Contracts

/-! ## The kernel -/

namespace Kernel

def idBytes (record : NotesRecord String) : List UInt8 := bytes record.id

variable {D : Type} (sha256 : List UInt8 → D)

def notesDigest (records : List (NotesRecord String)) : D := digestOf bytes (BytesLe idBytes) sha256 records

def exportNotes (records : List (NotesRecord String)) : NotesExport String D :=
  exportOf (notesDigest sha256) records

def verifyNotesEquality [DecidableEq D] (exported : NotesExport String D)
    (imported : List (NotesRecord String)) : Bool × ℕ :=
  verifyOf (notesDigest sha256) exported imported

def readRecord : RawRecord String → Except String (NotesRecord String)
  | .malformed => .error "durable object record is malformed"
  | .object id content =>
    let id := id.getD ""
    if id.isEmpty || (bytes id).length > 512 then .error "durable object record id is invalid"
    else match content with
      | none => .error "durable object record content is invalid"
      | some content => .ok ⟨id, content⟩

def validateDurableObjectState (raw : List (RawRecord String)) : Except String (List (NotesRecord String)) :=
  raw.mapM readRecord

end Kernel

/-! ## What the digest can tell -/

section

variable {T : Type} (utf8 : T → List UInt8) (le : NotesRecord T → NotesRecord T → Prop) [DecidableRel le]

/-- The texts of a record, cut at every NUL. -/
def NotesRecord.pieces (record : NotesRecord T) : List (List UInt8) :=
  Delimited.cut 0 (utf8 record.id) ++ Delimited.cut 0 (utf8 record.content)

def spelled (records : List (NotesRecord T)) : List (List UInt8) := records.flatMap (NotesRecord.pieces utf8)

/-- The records that the order does not tell from a given one spell the same in both lists: they come in the same
order, as far as their pieces show it. -/
def SameWithin (exported imported : List (NotesRecord T)) : Prop :=
  ∀ record, spelled utf8 (exported.filter (StableSort.alike le record)) =
    spelled utf8 (imported.filter (StableSort.alike le record))

/-- As many other records do not spell the same pieces. -/
def ToldApart (exported imported : List (NotesRecord T)) : Prop :=
  exported.length = imported.length →
    spelled utf8 (exported.insertionSort le) = spelled utf8 (imported.insertionSort le) → exported.Perm imported

/-- No text has a NUL. -/
def NulFree (records : List (NotesRecord T)) : Prop :=
  ∀ record ∈ records, (0 : UInt8) ∉ utf8 record.id ∧ (0 : UInt8) ∉ utf8 record.content

end

def NotesRecord.toJs (record : NotesRecord String) : NotesRecord JsString :=
  ⟨JsString.ofString record.id, JsString.ofString record.content⟩

/-- Of two records, the first comes before the second for the kernel and for the contracts. -/
def Before (collation : Collation) (a b : NotesRecord String) : Prop :=
  ¬ BytesLe Kernel.idBytes b a ∧ ¬ Contracts.LocaleLe collation b.toJs a.toJs

/-- Any two different records come in the same order for both. -/
def OneOrder (collation : Collation) (records : List (NotesRecord String)) : Prop :=
  ∀ a ∈ records, ∀ b ∈ records, a ≠ b → Before collation a b ∨ Before collation b a

/-- Contracts and kernel give one digest for the records in whatever order each gets them. -/
def DigestsAgree {D : Type} (sha256 : List UInt8 → D) (collation : Collation) (records : List (NotesRecord String)) :
    Prop :=
  ∀ left right : List (NotesRecord String), left.Perm records → right.Perm records →
    Contracts.notesDigest sha256 collation (left.map NotesRecord.toJs) = Kernel.notesDigest sha256 right

end Iweb.Notes
