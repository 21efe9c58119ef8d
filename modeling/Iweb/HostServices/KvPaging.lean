import Iweb.HostServices.Kv

/-!
# Reading a prefix page by page

A reader lists a prefix and follows every cursor it gets until a page comes without one. Between two pages
other callers set and delete keys. What the reader collects is compared with the live entries of the prefix.
-/

namespace Iweb

open Std

/-- A mutation by another caller. -/
inductive KvWrite
  | set (c : KvContext) (key : String) (value : List UInt8) (expected : Option Nat)
  | delete (c : KvContext) (key : String) (expected : Option Nat)
deriving DecidableEq

variable {D : Type}

def KvWrite.call : KvWrite → KvCall D
  | .set c key value expected => .set c key value expected
  | .delete c key expected => .delete c key expected

/-- A page that was read: the store it was read from, what it was asked for and what it contains. -/
structure KvPage (D : Type) where
  backend : KvBackend D
  request : KvBackend.ListRequest
  items : List KvListEntry

/-- `isPrefixOf` on the bytes of the texts. -/
def startsWith (keyPrefix key : String) : Bool := (bytes keyPrefix).isPrefixOf (bytes key)

namespace KvBackend

/-- The key has a value. -/
def isLive (b : KvBackend D) (key : String) : Bool :=
  match b.entries[key]? with
  | some (.live _ _) => true
  | _ => false

/-- The live entries under a prefix in key order. -/
def liveUnder (b : KvBackend D) (keyPrefix : String) : List KvListEntry :=
  b.entries.toList.filterMap fun
    | (key, .live value version) => if startsWith keyPrefix key then some ⟨key, value, version⟩ else none
    | (_, .tombstone _ _) => none

end KvBackend

variable [DecidableEq D] (proofDigest : QuotaReservationProofPayloadV2 → D)

/-- The store after the mutations of other callers. -/
def KvStore.afterWrites (s : KvStore D) (writes : List KvWrite) : KvStore D :=
  writes.foldl (fun s write => (write.call.perform proofDigest s).2) s

/-- Starts at a cursor and follows every cursor that is issued; each page is read after some writes. `none`
when a page is refused, and when the requests end before the cursors do. -/
def followCursors (keyPrefix : String) (s : KvStore D) (cursor : Option String) :
    List (List KvWrite × KvBackend.ListRequest) → Option (List (KvPage D))
  | [] => none
  | (writes, request) :: rest =>
    let s := s.afterWrites proofDigest writes
    let request := { request with keyPrefix, cursor }
    match s.backend.list request with
    | (.error _, _) => none
    | (.ok (items, none), _) => some [⟨s.backend, request, items⟩]
    | (.ok (items, some token), backend) =>
      (followCursors keyPrefix { s with backend } (some token) rest).map (⟨s.backend, request, items⟩ :: ·)

/-- What was read, page after page. -/
def concatenated (pages : List (KvPage D)) : List KvListEntry := pages.flatMap KvPage.items

/-- The bytes of a page: those of its keys and values. -/
def pageBytes (items : List KvListEntry) : Nat :=
  (items.map fun item => (bytes item.key).length + item.value.length).sum

/-- What a reader may rely on, whatever was written meanwhile. -/
structure Paginated (keyPrefix : String) (pages : List (KvPage D)) : Prop where
  ascending : (concatenated pages).Pairwise fun a b => bytes a.key < bytes b.key
  sound : ∀ page ∈ pages, ∀ item ∈ page.items,
    startsWith keyPrefix item.key = true ∧ page.backend.entries[item.key]? = some (.live item.value item.version)
  complete : ∀ key, startsWith keyPrefix key = true → (∀ page ∈ pages, page.backend.isLive key = true) →
    ((concatenated pages).map KvListEntry.key).count key = 1
  bounded : ∀ page ∈ pages, page.items.length ≤ page.request.limit ∧
    pageBytes page.items ≤ page.request.maxListBytes

end Iweb
