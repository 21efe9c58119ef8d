import Iweb.HostServices.KvContract
import Iweb.HostServices.Proofs.KvPagingProofs

/-!
# The backend and its contract

A mutation is decided as the contract decides it unless the expected version is out of its range. A list scans the
entries in key order, which is the order the contract sorts them in, and cuts the same page; it classifies a cursor as
the contract does exactly when the snapshot is held as long as it is alive.
-/

namespace Iweb

open Std CrashRefinement KvContract

variable {D : Type}

/-! ## Mutations -/

theorem KvContract.isIwebKvVersion_iff {n : Nat} : isIwebKvVersion n = true ↔ 1 ≤ n ∧ n ≤ wasmU53Max := by
  unfold isIwebKvVersion
  rw [Bool.and_eq_true, decide_eq_true_iff, decide_eq_true_iff]

/-- A commit decides as `apply_kv_cas`, or fails because its operation id is in use. -/
theorem KvBackend.decisionOf_commitCas {b : KvBackend D} {method : KvMethod} {key : String} {value : List UInt8}
    {expected : Option Nat} {reservation : ReservationRecordV2 D} {operationId : String} {nowMs : Nat} :
    decisionOf ((b.commitCas method key value expected reservation operationId nowMs).map Prod.fst) =
      match applyKvCas (b.currentVersion key) expected ((b.currentVersion key).getD 0 + 1) with
      | .ok version => if b.operations.all (·.operationId != operationId) then some (.committed version) else none
      | .error error => decisionOf (.error error) := by
  unfold KvBackend.commitCas
  dsimp only
  cases applyKvCas (b.currentVersion key) expected ((b.currentVersion key).getD 0 + 1) with
  | ok version => cases b.operations.all (·.operationId != operationId) <;> rfl
  | error error => rfl

section Decisions

variable {current expected : Option Nat}

/-- Without a conflict both decide by the current version alone. -/
theorem applyKvCas_of_matches (hmatch : (expected.isSome && expected != current) = false)
    (hle : current.getD 0 ≤ wasmU53Max) :
    decisionOf (applyKvCas current expected (current.getD 0 + 1)) =
      some (if current.getD 0 = wasmU53Max then .unavailable else .committed (current.getD 0 + 1)) := by
  unfold applyKvCas
  rw [hmatch, if_neg Bool.false_ne_true]
  by_cases hmax : current.getD 0 = wasmU53Max
  · rw [if_pos hmax, if_pos (Nat.le_of_eq hmax.symm)]
    rfl
  · rw [if_neg hmax, if_neg (by omega), if_neg (by omega)]
    rfl

theorem applyIwebKvCas_of_valid (hcurrent : ∀ version, current = some version → isIwebKvVersion version = true)
    (hexpected : ∀ version, expected = some version → isIwebKvVersion version = true)
    (hle : current.getD 0 ≤ wasmU53Max) :
    applyIwebKvCas current expected (current.getD 0 + 1) =
      if current.getD 0 = wasmU53Max then .unavailable
      else if expected.isSome && expected != current then .conflict
      else .committed (current.getD 0 + 1) := by
  have hvalid (found : Option Nat) (h : ∀ version, found = some version → isIwebKvVersion version = true) :
      found.any (fun version => !isIwebKvVersion version) = false := by
    cases found with
    | none => rfl
    | some version =>
      rw [Option.any_some, h version rfl]
      rfl
  unfold applyIwebKvCas
  rw [hvalid current hcurrent, hvalid expected hexpected, if_neg Bool.false_ne_true, if_neg Bool.false_ne_true]
  by_cases hmax : current.getD 0 = wasmU53Max
  · have hnext : isIwebKvVersion (current.getD 0 + 1) = false := by
      rw [Bool.eq_false_iff]
      intro h
      have := (isIwebKvVersion_iff.mp h).2
      omega
    rw [hnext, Bool.not_false, if_pos rfl, if_pos hmax]
  · have hnext : isIwebKvVersion (current.getD 0 + 1) = true := isIwebKvVersion_iff.mpr (by omega)
    have hgreater : ¬current.getD 0 + 1 ≤ current.getD 0 := by omega
    rw [hnext, Bool.not_true, if_neg Bool.false_ne_true, if_neg hmax, if_neg hmax, if_neg hgreater]

/-- The two decisions agree exactly when the expected version is in range. -/
theorem decisions_agree_iff (hcurrent : ∀ version, current = some version → isIwebKvVersion version = true) :
    decisionOf (applyKvCas current expected (current.getD 0 + 1)) =
        some (applyIwebKvCas current expected (current.getD 0 + 1)) ↔ ExpectedInRange current expected := by
  have hle : current.getD 0 ≤ wasmU53Max := by
    cases current with
    | none => exact Nat.zero_le _
    | some version => exact (isIwebKvVersion_iff.mp (hcurrent version rfl)).2
  by_cases hvalid : ∀ version, expected = some version → isIwebKvVersion version = true
  · rw [applyIwebKvCas_of_valid hcurrent hvalid hle]
    by_cases hmatch : (expected.isSome && expected != current) = true
    · obtain ⟨version, rfl⟩ := Option.isSome_iff_exists.mp (Bool.and_eq_true_iff.mp hmatch).1
      have hne : some version ≠ current := by simpa using (Bool.and_eq_true_iff.mp hmatch).2
      have hconflict : applyKvCas current (some version) (current.getD 0 + 1) = .error .conflict := by
        unfold applyKvCas
        rw [if_pos hmatch]
      rw [hconflict, if_pos hmatch]
      by_cases hmax : current.getD 0 = wasmU53Max
      · have hcur : current = some wasmU53Max := by
          cases hc : current with
          | none => rw [hc] at hmax; cases hmax
          | some last => rw [hc] at hmax; exact congrArg some hmax
        rw [if_pos hmax]
        refine iff_of_false (fun h => nomatch h) fun h => ?_
        rw [(h version rfl).2 hcur, hcur] at hne
        exact hne rfl
      · rw [if_neg hmax]
        refine iff_of_true rfl fun found hfound => ⟨hvalid found hfound, fun hcur => ?_⟩
        rw [hcur] at hmax
        exact absurd rfl hmax
    · rw [applyKvCas_of_matches (Bool.eq_false_iff.mpr hmatch) hle, if_neg hmatch]
      refine iff_of_true rfl fun version hversion => ⟨hvalid version hversion, fun hcur => ?_⟩
      rw [hversion, hcur] at hmatch
      by_contra hne
      exact hmatch (by simpa using hne)
  · push Not at hvalid
    obtain ⟨version, rfl, hinvalid⟩ := hvalid
    have hne : some version ≠ current := fun h => absurd (hcurrent version h.symm) (by simpa using hinvalid)
    have hconflict : applyKvCas current (some version) (current.getD 0 + 1) = .error .conflict := by
      unfold applyKvCas
      rw [if_pos (by simpa using hne)]
    have hunavailable : applyIwebKvCas current (some version) (current.getD 0 + 1) = .unavailable := by
      unfold applyIwebKvCas
      rw [Option.any_some, Bool.eq_false_iff.mpr hinvalid]
      split <;> rfl
    rw [hconflict, hunavailable]
    exact iff_of_false (fun h => nomatch h) fun h => hinvalid (h version rfl).1

/-- Without a current version that is the last of all, an expected version that matches is admitted. -/
theorem applyKvCas_of_admitted (hmatch : ∀ version, expected = some version → current = some version)
    (hcurrent : ∀ version, current = some version → isIwebKvVersion version = true)
    (hmax : current ≠ some wasmU53Max) :
    applyKvCas current expected (current.getD 0 + 1) = .ok (current.getD 0 + 1) := by
  have hno : ¬(expected.isSome && expected != current) = true := by
    cases expected with
    | none => exact Bool.false_ne_true
    | some version => simp [hmatch version rfl]
  have hlt : current.getD 0 < wasmU53Max := by
    cases current with
    | none => exact Nat.succ_pos _
    | some version =>
      have hle := (isIwebKvVersion_iff.mp (hcurrent version rfl)).2
      exact Nat.lt_of_le_of_ne hle fun h => hmax (congrArg some h)
  unfold applyKvCas
  rw [if_neg hno, if_neg (Nat.not_le.mpr hlt), if_neg (by omega)]

end Decisions

/-- A commit is decided as the contract decides it exactly when the expected version is in range and the operation id
is new if there is something to commit. -/
theorem KvBackend.commit_agrees_iff {b : KvBackend D} {method : KvMethod} {key : String} {value : List UInt8}
    {expected : Option Nat} {reservation : ReservationRecordV2 D} {operationId : String} {nowMs : Nat}
    (hcurrent : ∀ version, b.currentVersion key = some version → isIwebKvVersion version = true) :
    decisionOf ((b.commitCas method key value expected reservation operationId nowMs).map Prod.fst) =
        some (applyIwebKvCas (b.currentVersion key) expected ((b.currentVersion key).getD 0 + 1)) ↔
      ExpectedInRange (b.currentVersion key) expected ∧ b.IsNewOperation key expected operationId := by
  have hagree := @decisions_agree_iff (b.currentVersion key) expected hcurrent
  rw [decisionOf_commitCas]
  cases hcas : applyKvCas (b.currentVersion key) expected ((b.currentVersion key).getD 0 + 1) with
  | error error =>
    rw [hcas] at hagree
    refine hagree.trans (and_iff_left ?_).symm
    intro hmatch hmax
    rw [applyKvCas_of_admitted hmatch hcurrent hmax] at hcas
    cases hcas
  | ok version =>
    rw [hcas] at hagree
    dsimp only
    have hadmitted := applyKvCas_eq_ok hcas
    have hmax : b.currentVersion key ≠ some wasmU53Max := by
      intro h
      rw [h] at hcas
      unfold applyKvCas at hcas
      rw [Option.getD_some, if_pos (Nat.le_refl wasmU53Max)] at hcas
      split at hcas <;> cases hcas
    by_cases hnew : b.operations.all (·.operationId != operationId) = true
    · rw [if_pos hnew]
      exact hagree.trans (and_iff_left fun _ _ => hnew).symm
    · rw [if_neg hnew]
      exact iff_of_false (fun h => nomatch h) fun h => hnew (h.2 hadmitted.2 hmax)

/-! ## Pages -/

/-- The values of the file are within the bound of a value. -/
def KvBackend.ValuesBounded (b : KvBackend D) : Prop :=
  ∀ (key : String) (value : List UInt8) (version : Nat), b.entries[key]? = some (.live value version) →
    value.length ≤ kvValueMaxBytes

/-- What the contract is given of a store: its live entries in any order, and some of its deleted keys. -/
structure EntriesOf (b : KvBackend D) (entries : List IwebKvListEntry) (tombstoneKeys : List String) : Prop where
  live : entries.Perm b.liveEntries
  deleted : ∀ key ∈ tombstoneKeys, b.isDeleted key = true

section Pages

variable {b : KvBackend D} {entries : List IwebKvListEntry} {tombstoneKeys : List String}

theorem mem_liveEntries {entry : IwebKvListEntry} :
    entry ∈ b.liveEntries ↔ ∃ version, b.entries[entry.key]? = some (.live entry.value version) := by
  unfold KvBackend.liveEntries
  rw [List.mem_filterMap]
  constructor
  · rintro ⟨⟨key, row⟩, hmem, hentry⟩
    have hrow : b.entries[key]? = some row := ExtTreeMap.mem_toList_iff_getElem?_eq_some.mp hmem
    cases row with
    | live value version => cases hentry; exact ⟨version, hrow⟩
    | tombstone version deletedAtMs => cases hentry
  · rintro ⟨version, hrow⟩
    exact ⟨(entry.key, .live entry.value version), ExtTreeMap.mem_toList_iff_getElem?_eq_some.mpr hrow, rfl⟩

theorem liveEntries_filter (keyPrefix : String) :
    b.liveEntries.filter (fun entry => startsWith keyPrefix entry.key) =
      (b.liveUnder keyPrefix).map IwebKvListEntry.ofItem := by
  unfold KvBackend.liveEntries KvBackend.liveUnder
  rw [List.filter_filterMap, List.map_filterMap]
  refine List.filterMap_congr ?_
  rintro ⟨key, row⟩ -
  cases row with
  | tombstone version deletedAtMs => rfl
  | live value version =>
    dsimp only
    by_cases hstarts : startsWith keyPrefix key = true
    · rw [if_pos hstarts, Option.filter_some, if_pos hstarts]
      rfl
    · rw [if_neg hstarts, Option.filter_some, if_neg hstarts]
      rfl

theorem EntriesOf.filter (h : EntriesOf b entries tombstoneKeys) (keyPrefix : String) :
    (entries.filter fun entry => !tombstoneKeys.contains entry.key && startsWith keyPrefix entry.key).Perm
      ((b.liveUnder keyPrefix).map IwebKvListEntry.ofItem) := by
  rw [← liveEntries_filter]
  have hsame : entries.filter (fun entry => !tombstoneKeys.contains entry.key && startsWith keyPrefix entry.key) =
      entries.filter (fun entry => startsWith keyPrefix entry.key) := by
    refine List.filter_congr ?_
    intro entry hentry
    obtain ⟨version, hrow⟩ := mem_liveEntries.mp (h.live.subset hentry)
    have hnot : tombstoneKeys.contains entry.key = false := by
      rw [Bool.eq_false_iff]
      intro hmem
      have hdeleted := h.deleted entry.key (List.contains_iff_mem.mp hmem)
      unfold KvBackend.isDeleted at hdeleted
      rw [hrow] at hdeleted
      cases hdeleted
    rw [hnot]
    rfl
  rw [hsame]
  exact h.live.filter _

theorem bytes_lt_of_lt (hkeys : b.KeysValid) {x y : KvListEntry} {keyPrefix : String} (hx : x ∈ b.liveUnder keyPrefix)
    (hy : y ∈ b.liveUnder keyPrefix) : x.key < y.key ↔ bytes x.key < bytes y.key :=
  (isAscii_of_isApplicationKey (hkeys _ _ (KvBackend.mem_liveUnder.mp hx).2)).lt_iff
    (isAscii_of_isApplicationKey (hkeys _ _ (KvBackend.mem_liveUnder.mp hy).2))

/-- The live entries of a prefix ascend in the order of their bytes. -/
theorem liveUnder_bytes (hkeys : b.KeysValid) (keyPrefix : String) :
    (b.liveUnder keyPrefix).Pairwise fun x y => bytes x.key < bytes y.key :=
  (b.liveUnder_ascending keyPrefix).imp_of_mem fun hx hy hlt => (bytes_lt_of_lt hkeys hx hy).mp hlt

/-- The contract sees the live entries of the prefix in the order of a scan. -/
theorem visible_eq (h : EntriesOf b entries tombstoneKeys) (hkeys : b.KeysValid) {input : PageInput}
    (hentries : input.entries = entries) (htombstones : input.tombstoneKeys = tombstoneKeys) :
    visible input = (b.liveUnder input.keyPrefix).map IwebKvListEntry.ofItem := by
  have hperm := h.filter input.keyPrefix
  have hascending := liveUnder_bytes hkeys input.keyPrefix
  unfold visible
  rw [hentries, htombstones]
  refine List.Perm.eq_of_pairwise ?_ (List.pairwise_insertionSort _ _) ?_
    ((List.perm_insertionSort _ _).trans hperm)
  · intro x y hx hy hle hge
    have hsame : x.key = y.key := bytes_injective (BytesLe.antisymm hle hge)
    obtain ⟨x', hx', rfl⟩ := List.mem_map.mp (hperm.subset ((List.perm_insertionSort _ _).subset hx))
    obtain ⟨y', hy', rfl⟩ := List.mem_map.mp hy
    have hxrow := (KvBackend.mem_liveUnder.mp hx').2
    have hyrow := (KvBackend.mem_liveUnder.mp hy').2
    have hkey : x'.key = y'.key := hsame
    rw [hkey, hyrow] at hxrow
    unfold IwebKvListEntry.ofItem
    rw [hkey]
    injection hxrow with hxrow
    injection hxrow with hvalue
    rw [hvalue]
  · rw [List.pairwise_map]
    exact hascending.imp fun hlt => List.le_of_lt hlt

/-- No two neighbours of such a list are equal. -/
theorem zip_tail_ne {l : List IwebKvListEntry} (h : l.Pairwise fun x y => x.key ≠ y.key) :
    (l.zip l.tail).any (fun pair => pair.1.key == pair.2.key) = false := by
  induction l with
  | nil => rfl
  | cons x l ih =>
    cases l with
    | nil => rfl
    | cons y l =>
      have hne : x.key ≠ y.key := List.rel_of_pairwise_cons h List.mem_cons_self
      have hrest := ih h.of_cons
      rw [List.tail_cons, List.zip_cons_cons, List.any_cons, beq_false_of_ne hne, Bool.false_or]
      exact hrest

/-- The loop of the plan takes the same items as a scan; it fails when the first candidate breaks the page. -/
theorem planItems_eq (maxListBytes : Nat) (rows : List KvListEntry) (room used : Nat) (first : Bool) :
    planItems maxListBytes room used first (rows.map IwebKvListEntry.ofItem) =
      let page := KvBackend.takePage maxListBytes used (rows.take room)
      if first && page.2 && page.1.isEmpty then none else some (page.1.map IwebKvListEntry.ofItem) := by
  induction rows generalizing room used first with
  | nil =>
    cases room <;> cases first <;> rfl
  | cons row rows ih =>
    cases room with
    | zero => cases first <;> rfl
    | succ room =>
      rw [List.map_cons, List.take_succ_cons]
      unfold planItems KvBackend.takePage
      have hsize : (IwebKvListEntry.ofItem row).size = (bytes row.key).length + row.value.length := rfl
      dsimp only
      rw [hsize]
      by_cases hbreak : maxListBytes < used + ((bytes row.key).length + row.value.length)
      · rw [if_pos hbreak, if_pos hbreak]
        cases first <;> rfl
      · rw [if_neg hbreak, if_neg hbreak, ih]
        simp only [Bool.false_and, List.isEmpty_cons, Bool.and_false, Bool.false_eq_true, if_false, Option.map_some,
          List.map_cons]

/-- A page that a candidate broke leaves that candidate out. -/
theorem takePage_break {maxListBytes used : Nat} {rows : List KvListEntry}
    (h : (KvBackend.takePage maxListBytes used rows).2 = true) :
    (KvBackend.takePage maxListBytes used rows).1.length < rows.length := by
  induction rows generalizing used with
  | nil => cases h
  | cons row rows ih =>
    unfold KvBackend.takePage at h ⊢
    dsimp only at h ⊢
    by_cases hbreak : maxListBytes < used + ((bytes row.key).length + row.value.length)
    · rw [if_pos hbreak] at h ⊢
      exact Nat.succ_pos _
    · rw [if_neg hbreak] at h ⊢
      exact Nat.succ_lt_succ (ih h)

/-- The answer of a page that is cut from a scan. -/
def scanAnswer (b : KvBackend D) (r : KvBackend.ListRequest) (afterKey : Option String) : KvListAnswer :=
  let rows := b.matching r.keyPrefix afterKey
  match planItems r.maxListBytes r.limit 0 true (rows.map IwebKvListEntry.ofItem) with
  | none => .refused .limitExceeded
  | some items => .page items (decide (items.length < rows.length) && !items.isEmpty)

theorem scanAnswer_ne_refused {r : KvBackend.ListRequest} {afterKey : Option String} {error : KvError}
    (h : error ≠ .limitExceeded) : scanAnswer b r afterKey ≠ .refused error := by
  unfold scanAnswer
  dsimp only
  split
  · rintro ⟨⟩
    exact h rfl
  · exact fun h => nomatch h

theorem listPage_answer {r : KvBackend.ListRequest} {snapshotToken : String} {afterKey : Option String} :
    KvListAnswer.ofList (b.listPage r snapshotToken afterKey).1 = scanAnswer b r afterKey := by
  unfold scanAnswer
  unfold KvBackend.listPage
  dsimp only
  generalize b.matching r.keyPrefix afterKey = rows
  rw [List.take_take, Nat.min_eq_left (Nat.le_succ r.limit), planItems_eq]
  dsimp only
  have hbreak := @takePage_break r.maxListBytes 0 (rows.take r.limit)
  obtain ⟨hinitial, -, hall⟩ := KvBackend.takePage_spec r.maxListBytes (rows.take r.limit) 0 (Nat.zero_le _)
  generalize KvBackend.takePage r.maxListBytes 0 (rows.take r.limit) = page at hbreak hinitial hall
  obtain ⟨items, byteBreak⟩ := page
  dsimp only at hbreak hinitial hall ⊢
  cases hitems : items with
  | nil =>
    cases byteBreak with
    | true => rfl
    | false => exact congrArg (KvListAnswer.page []) (Bool.and_false _).symm
  | cons first rest =>
    rw [← hitems]
    have hempty : items.isEmpty = false := by rw [hitems]; rfl
    obtain ⟨last, hlast⟩ : ∃ last, items.getLast? = some last :=
      ⟨_, List.getLast?_eq_some_getLast (by rw [hitems]; exact List.cons_ne_nil _ _)⟩
    -- there is more exactly if the limit or the bytes left a row out
    have hmore : (decide (r.limit < (rows.take (r.limit + 1)).length) || byteBreak) =
        decide (items.length < rows.length) := by
      rw [Bool.eq_iff_iff, Bool.or_eq_true, decide_eq_true_iff, decide_eq_true_iff, List.length_take]
      rw [List.length_take] at hbreak
      cases byteBreak with
      | true =>
        have := hbreak rfl
        simp only [or_true, true_iff]
        omega
      | false =>
        have hlength : items.length = min r.limit rows.length := by rw [hall rfl, List.length_take]
        simp only [Bool.false_eq_true, or_false]
        omega
    have hanswer : (match (if (true && byteBreak && items.isEmpty) = true then none
        else some (items.map IwebKvListEntry.ofItem)) with
      | none => KvListAnswer.refused .limitExceeded
      | some items => .page items (decide (items.length < rows.length) && !items.isEmpty)) =
        .page (items.map .ofItem) (decide (items.length < rows.length)) := by
      rw [hempty, Bool.and_false, if_neg Bool.false_ne_true]
      dsimp only
      rw [List.length_map, List.isEmpty_map, hempty, Bool.not_false, Bool.and_true]
    rw [hanswer, hlast]
    dsimp only
    rw [hmore]
    by_cases hlt : items.length < rows.length
    · rw [if_pos (decide_eq_true hlt), decide_eq_true hlt]
      rfl
    · rw [if_neg (by simpa using hlt), decide_eq_false hlt]
      rfl

/-- The backend and the contract admit the same limits. -/
theorem isValidIwebKvListLimit_eq {r : KvBackend.ListRequest} (h : r.Governed) :
    (r.limit < 1 || min r.maxListItems kvListLimitMax < r.limit : Bool) =
      !isValidIwebKvListLimit r.limit r.maxListItems := by
  have hmax : wasmU53Max = 9007199254740991 := rfl
  have hceiling : iwebKvListLimitCeiling r.maxListItems = r.maxListItems := by
    obtain ⟨hlow, hhigh⟩ := h.maxListItems
    unfold iwebKvListLimitCeiling
    have hnot : ¬(r.maxListItems < 1 || wasmU53Max < r.maxListItems : Bool) = true := by
      rw [Bool.or_eq_true, decide_eq_true_iff, decide_eq_true_iff]
      omega
    rw [if_neg hnot]
    exact Nat.min_eq_right hhigh
  obtain ⟨hlow, hhigh⟩ := h.maxListItems
  unfold isValidIwebKvListLimit
  rw [hceiling, Bool.eq_iff_iff]
  have hkv : kvListLimitMax = 256 := rfl
  simp only [Bool.or_eq_true, decide_eq_true_eq, Bool.not_eq_true', Bool.and_eq_false_iff, decide_eq_false_iff_not]
  omega

/-- The page that the contract plans is the one that the backend cuts from its scan. -/
theorem plan_answer (h : EntriesOf b entries tombstoneKeys) (hkeys : b.KeysValid) (hvalues : b.ValuesBounded)
    {r : KvBackend.ListRequest} (hgoverned : r.Governed) {afterKey : Option String}
    (hpre : isApplicationKey r.keyPrefix = true)
    (hafter : ∀ key, afterKey = some key → isApplicationKey key = true)
    (hlimit : isValidIwebKvListLimit r.limit r.maxListItems = true) :
    KvListAnswer.ofPlan (planIwebKvListPage
        ⟨entries, tombstoneKeys, r.keyPrefix, afterKey, r.limit, r.maxListItems, r.maxListBytes⟩) =
      scanAnswer b r afterKey := by
  generalize hinput : (⟨entries, tombstoneKeys, r.keyPrefix, afterKey, r.limit, r.maxListItems, r.maxListBytes⟩ :
    PageInput) = input
  have hvisible := @visible_eq D b entries tombstoneKeys h hkeys input (by rw [← hinput]) (by rw [← hinput])
  have hinputs : input.keyPrefix = r.keyPrefix ∧ input.afterKey = afterKey ∧ input.limit = r.limit ∧
      input.maxListBytes = r.maxListBytes ∧ input.profileMaxListItems = r.maxListItems ∧ input.entries = entries ∧
      input.tombstoneKeys = tombstoneKeys := by
    subst hinput
    exact ⟨rfl, rfl, rfl, rfl, rfl, rfl, rfl⟩
  obtain ⟨hkeyPrefix, hafterKey, hroom, hbytes, hitems, hentries, htombstones⟩ := hinputs
  rw [hkeyPrefix] at hvisible
  have hafterValid : (afterKey.any fun afterKey => !isApplicationKey afterKey) = false := by
    cases afterKey with
    | none => rfl
    | some key =>
      rw [Option.any_some, hafter key rfl]
      rfl
  have hbytesValid : (r.maxListBytes < 1 || wasmU53Max < r.maxListBytes : Bool) = false := by
    obtain ⟨hlow, hhigh⟩ := hgoverned.maxListBytes
    have hmax : wasmU53Max = 9007199254740991 := rfl
    simp only [Bool.or_eq_false_iff, decide_eq_false_iff_not]
    omega
  have hlimitValid : (iwebKvListLimitCeiling r.maxListItems < 1 || r.limit < 1 ||
      iwebKvListLimitCeiling r.maxListItems < r.limit : Bool) = false := by
    unfold isValidIwebKvListLimit at hlimit
    simp only [Bool.and_eq_true, decide_eq_true_eq] at hlimit
    simp only [Bool.or_eq_false_iff, decide_eq_false_iff_not]
    omega
  have htombstonesValid : (tombstoneKeys.any fun key => !isApplicationKey key) = false := by
    rw [List.any_eq_false]
    intro key hkey hinvalid
    have hdeleted := h.deleted key hkey
    unfold KvBackend.isDeleted at hdeleted
    cases hrow : b.entries[key]? with
    | none => rw [hrow] at hdeleted; cases hdeleted
    | some row =>
      rw [hkeys key row hrow] at hinvalid
      cases hinvalid
  have hentriesValid : (entries.any fun entry =>
      !isApplicationKey entry.key || kvValueMaxBytes < entry.value.length) = false := by
    rw [List.any_eq_false]
    intro entry hentry hinvalid
    obtain ⟨version, hrow⟩ := mem_liveEntries.mp (h.live.subset hentry)
    have hbound := hvalues _ _ _ hrow
    rw [hkeys _ _ hrow] at hinvalid
    simp only [Bool.not_true, Bool.false_or, decide_eq_true_eq] at hinvalid
    omega
  have hdistinct : ((visible input).zip (visible input).tail).any (fun pair => pair.1.key == pair.2.key) = false := by
    rw [hvisible]
    apply zip_tail_ne
    rw [List.pairwise_map]
    refine (b.liveUnder_ascending r.keyPrefix).imp ?_
    intro x y hlt heq
    have hsame : x.key = y.key := heq
    rw [hsame] at hlt
    exact String.lt_irrefl _ hlt
  have hcandidates : ((visible input).filter fun entry =>
      afterKey.all fun afterKey => decide (bytes afterKey < bytes entry.key)) =
        (b.matching r.keyPrefix afterKey).map IwebKvListEntry.ofItem := by
    rw [hvisible, KvBackend.matching_eq_liveAfter hkeys hpre, List.filter_map]
    unfold KvBackend.liveAfter
    congr 1
    refine List.filter_congr ?_
    intro item hitem
    have hkey := isAscii_of_isApplicationKey (hkeys _ _ (KvBackend.mem_liveUnder.mp hitem).2)
    cases hafterKey' : afterKey with
    | none => rfl
    | some key =>
      have hlt := (isAscii_of_isApplicationKey (hafter key hafterKey')).lt_iff hkey
      show decide (bytes key < bytes item.key) = decide (key < item.key)
      exact decide_eq_decide.mpr hlt.symm
  unfold planIwebKvListPage scanAnswer
  dsimp only
  rw [hkeyPrefix, hafterKey, hroom, hbytes, hitems, hentries, htombstones, hpre, hafterValid, hbytesValid,
    hlimitValid, htombstonesValid, hentriesValid, hdistinct, hcandidates]
  simp only [Bool.not_true, Bool.false_eq_true, if_false]
  cases planItems r.maxListBytes r.limit 0 true ((b.matching r.keyPrefix afterKey).map .ofItem) with
  | none => rfl
  | some items =>
    dsimp only
    rw [List.length_map]
    by_cases hmore : (decide (items.length < (b.matching r.keyPrefix afterKey).length) && !items.isEmpty) = true
    · rw [if_pos hmore, hmore]
      have hne : items ≠ [] := by
        rintro rfl
        simp at hmore
      unfold KvListAnswer.ofPlan
      dsimp only
      rw [List.getLast?_eq_some_getLast hne]
      rfl
    · rw [if_neg hmore, Bool.eq_false_iff.mpr hmore]
      rfl

end Pages

/-! ## Cursors -/

/-- What the backend holds: its cursors are bound to its own application and policy and to keys, and the expiry of
their snapshots is on record. -/
structure KvSnapshots.Held (h : KvSnapshots D) : Prop where
  keys : h.store.backend.KeysValid
  values : h.store.backend.ValuesBounded
  cursors : ∀ (token : String) (binding : CursorBindingV1), h.store.backend.cursors[token]? = some binding →
    binding.applicationId = h.store.backend.applicationId ∧
      binding.hostServicePolicyDigest = h.store.backend.hostServicePolicyDigest ∧
      isApplicationKey binding.keyPrefix = true ∧ isApplicationKey binding.lastKey = true ∧
      (h.expiries binding.snapshotToken).isSome = true

/-- The answer to a request behind the gates. -/
theorem list_answer {b : KvBackend D} {r : KvBackend.ListRequest} (hgate : b.ensureAvailable r.deadlinePassed = .ok ())
    (hgoverned : r.Governed) :
    KvListAnswer.ofList (b.list r).1 =
      if !isApplicationKey r.keyPrefix then .refused .invalidKey
      else if !isValidIwebKvListLimit r.limit r.maxListItems then .refused .limitExceeded
      else
        match b.resolveCursor r with
        | .error error => .refused error
        | .ok (_, afterKey) => scanAnswer b r afterKey := by
  have hlimits := isValidIwebKvListLimit_eq hgoverned
  unfold KvBackend.list
  rw [hgate]
  dsimp only
  rw [hlimits]
  by_cases hpre : (!isApplicationKey r.keyPrefix) = true
  · rw [if_pos hpre, if_pos hpre]
    rfl
  rw [if_neg hpre, if_neg hpre]
  by_cases hlimit : (!isValidIwebKvListLimit r.limit r.maxListItems) = true
  · rw [if_pos hlimit, if_pos hlimit]
    rfl
  rw [if_neg hlimit, if_neg hlimit]
  cases b.resolveCursor r with
  | error error => rfl
  | ok found =>
    obtain ⟨snapshotToken, afterKey⟩ := found
    dsimp only
    rw [listPage_answer]
    by_cases hcursor : r.cursor.isSome = true
    · rw [if_pos hcursor]
      rfl
    · rw [if_neg hcursor]
      rfl

/-- A held cursor of the own application and policy resolves by its prefix, then by its expiry and its snapshot. -/
theorem resolveCursor_held {b : KvBackend D} {r : KvBackend.ListRequest} {token : String} {binding : CursorBindingV1}
    (hcursor : r.cursor = some token) (hbinding : b.cursors[token]? = some binding)
    (happ : binding.applicationId = b.applicationId)
    (hdigest : binding.hostServicePolicyDigest = b.hostServicePolicyDigest) :
    b.resolveCursor r =
      if binding.keyPrefix = r.keyPrefix then
        if b.snapshots.contains binding.snapshotToken = true ∧ r.nowMs < binding.expiresAtMs then
          .ok (binding.snapshotToken, some binding.lastKey)
        else .error .cursorExpired
      else .error .invalidKey := by
  unfold KvBackend.resolveCursor
  rw [hcursor]
  dsimp only
  rw [hbinding]
  dsimp only
  rw [happ, hdigest, decide_eq_true (rfl : b.applicationId = b.applicationId),
    decide_eq_true (rfl : b.hostServicePolicyDigest = b.hostServicePolicyDigest), Bool.true_and, Bool.true_and]
  by_cases hpre : binding.keyPrefix = r.keyPrefix
  · rw [if_pos hpre, decide_eq_true hpre]
    by_cases halive : b.snapshots.contains binding.snapshotToken = true ∧ r.nowMs < binding.expiresAtMs
    · rw [if_pos halive, halive.1, decide_eq_true halive.2]
      rfl
    · have hdead : (b.snapshots.contains binding.snapshotToken && decide (r.nowMs < binding.expiresAtMs)) = false := by
        rw [Bool.eq_false_iff]
        intro hand
        rw [Bool.and_eq_true, decide_eq_true_iff] at hand
        exact halive hand
      rw [if_neg halive, hdead]
      rfl
  · rw [if_neg hpre, decide_eq_false hpre]
    rfl

/-- The contract classifies such a cursor by its form, then by its prefix, then by its expiry and its snapshot. -/
theorem checkIwebKvCursor_held {input : CursorCheck} (happ : input.cursor.applicationId = input.applicationId)
    (hdigest : input.cursor.hostServicePolicyDigest = input.hostServicePolicyDigest)
    (htoken : input.cursor.snapshotToken = input.snapshotToken) :
    checkIwebKvCursor input =
      if isWellFormed input.cursor = true ∧ input.cursor.keyPrefix = input.keyPrefix then
        if input.snapshotAlive = true ∧ input.nowMs < input.cursor.expiresAtMs then .valid else .expired
      else .invalidScope := by
  have hscope : (input.cursor.applicationId ≠ input.applicationId ||
      input.cursor.hostServicePolicyDigest ≠ input.hostServicePolicyDigest ||
      input.cursor.keyPrefix ≠ input.keyPrefix || input.cursor.snapshotToken ≠ input.snapshotToken : Bool) =
        decide (input.cursor.keyPrefix ≠ input.keyPrefix) := by
    simp [happ, hdigest, htoken]
  unfold checkIwebKvCursor
  rw [hscope]
  by_cases hformed : isWellFormed input.cursor = true
  case neg => simp [hformed]
  rw [hformed, Bool.not_true, if_neg Bool.false_ne_true]
  by_cases hpre : input.cursor.keyPrefix = input.keyPrefix
  case neg => simp [hpre]
  rw [decide_eq_false (not_not.mpr hpre), if_neg Bool.false_ne_true,
    if_pos (⟨rfl, hpre⟩ : true = true ∧ input.cursor.keyPrefix = input.keyPrefix)]
  by_cases halive : input.snapshotAlive = true ∧ input.nowMs < input.cursor.expiresAtMs
  · have hlive : (!input.snapshotAlive || decide (input.cursor.expiresAtMs ≤ input.nowMs)) = false := by
      rw [halive.1, decide_eq_false (Nat.not_le.mpr halive.2)]
      rfl
    rw [if_pos halive, hlive, if_neg Bool.false_ne_true]
  · have hdead : (!input.snapshotAlive || decide (input.cursor.expiresAtMs ≤ input.nowMs)) = true := by
      rw [Bool.or_eq_true, Bool.not_eq_true', decide_eq_true_iff]
      by_contra hboth
      rw [not_or, Bool.not_eq_false, Nat.not_le] at hboth
      exact halive hboth
    rw [if_neg halive, hdead, if_pos rfl]

/-- A list answers as the contract exactly when its cursor is current. -/
theorem answers_agree_iff {h : KvSnapshots D} {r : KvBackend.ListRequest} {entries : List IwebKvListEntry}
    {tombstoneKeys : List String} (hheld : h.Held) (hentries : EntriesOf h.store.backend entries tombstoneKeys)
    (hgate : h.store.backend.ensureAvailable r.deadlinePassed = .ok ()) (hgoverned : r.Governed) :
    KvListAnswer.ofList (h.store.backend.list r).1 = h.contractAnswer r entries tombstoneKeys ↔ h.CursorCurrent r := by
  rw [list_answer hgate hgoverned]
  unfold KvSnapshots.contractAnswer
  dsimp only
  by_cases hpre : isApplicationKey r.keyPrefix = true
  case neg =>
    rw [Bool.eq_false_iff.mpr hpre]
    refine iff_of_true rfl fun token binding _ hbinding hsame => ?_
    have hvalid := (hheld.cursors token binding hbinding).2.2.1
    rw [hsame] at hvalid
    exact absurd hvalid hpre
  rw [hpre, Bool.not_true, if_neg Bool.false_ne_true, if_neg Bool.false_ne_true]
  by_cases hlimit : isValidIwebKvListLimit r.limit r.maxListItems = true
  case neg =>
    rw [Bool.eq_false_iff.mpr hlimit]
    exact iff_of_true rfl fun token binding _ _ _ hvalid => absurd hvalid hlimit
  rw [hlimit, Bool.not_true, if_neg Bool.false_ne_true, if_neg Bool.false_ne_true]
  have hpage := fun afterKey => @plan_answer D h.store.backend entries tombstoneKeys hentries hheld.keys hheld.values r
    hgoverned afterKey hpre
  cases hcursor : r.cursor with
  | none =>
    have hresolve : h.store.backend.resolveCursor r = .ok (r.snapshotToken, none) := by
      unfold KvBackend.resolveCursor
      rw [hcursor]
    rw [hresolve]
    refine iff_of_true (hpage none (fun _ h => nomatch h) hlimit).symm fun token _ hsome => ?_
    rw [hcursor] at hsome
    cases hsome
  | some token =>
    dsimp only
    cases hbinding : h.store.backend.cursors[token]? with
    | none =>
      have hresolve : h.store.backend.resolveCursor r = .error .invalidKey := by
        unfold KvBackend.resolveCursor
        rw [hcursor]
        dsimp only
        rw [hbinding]
      rw [hresolve]
      refine iff_of_true rfl fun token' binding hsome hfound => ?_
      rw [hcursor] at hsome
      cases hsome
      rw [hbinding] at hfound
      cases hfound
    | some binding =>
      obtain ⟨happ, hdigest, -, hlast, -⟩ := hheld.cursors token binding hbinding
      have hpage' := hpage (some binding.lastKey) (fun key hkey => by cases hkey; exact hlast) hlimit
      have hcurrent : h.CursorCurrent r ↔ (binding.keyPrefix = r.keyPrefix → isWellFormed binding = true ∧
          (r.nowMs < binding.expiresAtMs → (h.store.backend.snapshots.contains binding.snapshotToken = true ↔
            (h.expiries binding.snapshotToken).any (r.nowMs < ·) = true))) := by
        constructor
        · exact fun hall hsame => hall token binding hcursor hbinding hsame hlimit
        · intro hone token' binding' hsome hfound hsame _
          rw [hcursor] at hsome
          cases hsome
          rw [hbinding] at hfound
          cases hfound
          exact hone hsame
      rw [hcurrent, resolveCursor_held hcursor hbinding happ hdigest]
      dsimp only
      rw [checkIwebKvCursor_held happ hdigest rfl]
      dsimp only
      generalize h.store.backend.snapshots.contains binding.snapshotToken = held
      generalize (h.expiries binding.snapshotToken).any (r.nowMs < ·) = alive
      by_cases hsame : binding.keyPrefix = r.keyPrefix
      case neg => simp [hsame]
      have hinvalid : scanAnswer h.store.backend r (some binding.lastKey) ≠ .refused .invalidKey :=
        scanAnswer_ne_refused (by decide)
      have hexpired : scanAnswer h.store.backend r (some binding.lastKey) ≠ .refused .cursorExpired :=
        scanAnswer_ne_refused (by decide)
      by_cases hformed : isWellFormed binding = true
      case neg =>
        -- the contract takes a malformed cursor for a foreign one
        by_cases hlive : held = true ∧ r.nowMs < binding.expiresAtMs
        · simp [hsame, hformed, hlive, hinvalid]
        · simp [hsame, hformed, hlive]
      by_cases hfuture : r.nowMs < binding.expiresAtMs
      case neg => simp [hsame, hformed, hfuture]
      -- it is alive for both, for one of them, or for none
      cases held <;> cases alive
      · simp [hsame, hformed]
      · simp [hsame, hformed, hfuture, hpage', hexpired.symm]
      · simp [hsame, hformed, hfuture, hexpired]
      · simp [hsame, hformed, hfuture, hpage']

/-- The contract does not answer for the gates of the backend. -/
theorem KvSnapshots.contractAnswer_ne_gate (h : KvSnapshots D) (r : KvBackend.ListRequest)
    (entries : List IwebKvListEntry) (tombstoneKeys : List String) {error : KvError}
    (hgate : error = .unavailable ∨ error = .timeout) :
    h.contractAnswer r entries tombstoneKeys ≠ .refused error := by
  have hplan (plan : IwebKvListPagePlan) : KvListAnswer.ofPlan plan ≠ .refused error := by
    cases plan with
    | ok items nextLastKey => exact fun hsame => nomatch hsame
    | limitExceeded => rcases hgate with rfl | rfl <;> exact fun hsame => nomatch hsame
  have hother {other : KvError} (hne : other ≠ .unavailable ∧ other ≠ .timeout) :
      KvListAnswer.refused other ≠ .refused error := by
    rintro ⟨⟩
    exact hgate.elim hne.1 hne.2
  unfold contractAnswer
  dsimp only
  split
  · exact hother ⟨by decide, by decide⟩
  split
  · exact hother ⟨by decide, by decide⟩
  split
  · exact hplan _
  split
  · exact hother ⟨by decide, by decide⟩
  split
  · exact hother ⟨by decide, by decide⟩
  · exact hother ⟨by decide, by decide⟩
  · exact hplan _

theorem ensureAvailable_error {b : KvBackend D} {deadlinePassed : Bool} {error : KvError}
    (h : b.ensureAvailable deadlinePassed = .error error) : error = .unavailable ∨ error = .timeout := by
  unfold KvBackend.ensureAvailable KvError.unless at h
  cases hquarantined : b.quarantined <;> cases deadlinePassed <;> rw [hquarantined] at h <;> cases h
  · exact .inr rfl
  · exact .inl rfl
  · exact .inl rfl

/-- A list answers as the contract exactly when the gates let it pass and its cursor is current. -/
theorem list_agrees_iff {h : KvSnapshots D} {r : KvBackend.ListRequest} {entries : List IwebKvListEntry}
    {tombstoneKeys : List String} (hheld : h.Held) (hentries : EntriesOf h.store.backend entries tombstoneKeys)
    (hgoverned : r.Governed) :
    KvListAnswer.ofList (h.store.backend.list r).1 = h.contractAnswer r entries tombstoneKeys ↔
      h.store.backend.ensureAvailable r.deadlinePassed = .ok () ∧ h.CursorCurrent r := by
  cases hgate : h.store.backend.ensureAvailable r.deadlinePassed with
  | ok => exact (answers_agree_iff hheld hentries hgate hgoverned).trans (and_iff_right rfl).symm
  | error error =>
    refine iff_of_false (fun hsame => ?_) (fun hboth => nomatch hboth.1)
    have hrefused : KvListAnswer.ofList (h.store.backend.list r).1 = .refused error := by
      unfold KvBackend.list
      rw [hgate]
      rfl
    exact h.contractAnswer_ne_gate r entries tombstoneKeys (ensureAvailable_error hgate) (hsame.symm.trans hrefused)

/-! ## Runs -/

namespace KvBackend

/-- A call that touches no cursor. -/
structure KeepsCursors (b b' : KvBackend D) : Prop where
  cursors : b'.cursors = b.cursors
  applicationId : b'.applicationId = b.applicationId
  hostServicePolicyDigest : b'.hostServicePolicyDigest = b.hostServicePolicyDigest

theorem KeepsCursors.refl (b : KvBackend D) : b.KeepsCursors b := ⟨rfl, rfl, rfl⟩

theorem ValuesBounded.insert {b b' : KvBackend D} {method : KvMethod} {key : String} {value : List UInt8}
    {version nowMs : Nat} (hvalues : b.ValuesBounded) (hvalue : value.length ≤ kvValueMaxBytes)
    (hentries : b'.entries = b.entries.insert key (mutatedEntry method value version nowMs)) : b'.ValuesBounded := by
  intro k value' version' hrow
  rw [hentries] at hrow
  by_cases hk : k = key
  · subst hk
    rw [FiniteMap.getElem?_insert_self] at hrow
    cases method with
    | set =>
      cases hrow
      exact hvalue
    | delete => cases hrow
  · rw [FiniteMap.getElem?_insert_of_ne _ _ hk] at hrow
    exact hvalues k value' version' hrow

section Mutations

variable [DecidableEq D] (proofDigest : QuotaReservationProofPayloadV2 → D) {b : KvBackend D}

/-- What a mutation keeps: the cursors, and the bound of the values. -/
theorem mutate_keeps (ledger : QuotaLedger D) (c : KvContext) (method : KvMethod) (key : String) (value : List UInt8)
    (expected : Option Nat) :
    let b' := (b.mutate proofDigest ledger c method key value expected).2.1
    b.KeepsCursors b' ∧ (b.ValuesBounded → value.length ≤ kvValueMaxBytes → b'.ValuesBounded) := by
  have hclose : ∀ (b₀ : KvBackend D) (ledger : QuotaLedger D) (reservation : ReservationRecordV2 D)
      (measured : Option Nat), let b' := (b₀.finalizeOrQuarantine proofDigest ledger reservation measured).1
      b₀.KeepsCursors b' ∧ b'.entries = b₀.entries := by
    intro b₀ ledger reservation measured
    unfold finalizeOrQuarantine
    dsimp only
    split
    · exact ⟨⟨rfl, rfl, rfl⟩, rfl⟩
    · split <;> exact ⟨⟨rfl, rfl, rfl⟩, rfl⟩
  unfold mutate
  dsimp only
  split
  · exact ⟨.refl b, fun hvalues _ => hvalues⟩
  · split
    · rename_i reservation ledger' _ _ version b' hcommit
      obtain ⟨hkeeps, hentries⟩ := hclose b' ledger' reservation c.measuredBytes
      unfold commitCas at hcommit
      simp only [bind_eq_ok] at hcommit
      obtain ⟨assigned, -, _, -, hcommit⟩ := hcommit
      cases hcommit
      refine ⟨⟨hkeeps.cursors, hkeeps.applicationId, hkeeps.hostServicePolicyDigest⟩, fun hvalues hvalue => ?_⟩
      exact hvalues.insert hvalue hentries
    · exact ⟨.refl b, fun hvalues _ => hvalues⟩

theorem set_keeps (ledger : QuotaLedger D) (c : KvContext) (key : String) (value : List UInt8)
    (expected : Option Nat) :
    let b' := (b.set proofDigest ledger c key value expected).2.1
    b.KeepsCursors b' ∧ (b.ValuesBounded → b'.ValuesBounded) := by
  unfold set
  dsimp only
  split
  · exact ⟨.refl b, id⟩
  · split
    · exact ⟨.refl b, id⟩
    · split
      · exact ⟨.refl b, id⟩
      · rename_i hlength
        have hkeeps := @mutate_keeps D _ proofDigest b ledger c .set key value expected
        exact ⟨hkeeps.1, fun hvalues => hkeeps.2 hvalues (Nat.not_lt.mp hlength)⟩

theorem delete_keeps (ledger : QuotaLedger D) (c : KvContext) (key : String) (expected : Option Nat) :
    let b' := (b.delete proofDigest ledger c key expected).2.1
    b.KeepsCursors b' ∧ (b.ValuesBounded → b'.ValuesBounded) := by
  unfold delete
  dsimp only
  split
  · exact ⟨.refl b, id⟩
  · split
    · exact ⟨.refl b, id⟩
    · have hkeeps := @mutate_keeps D _ proofDigest b ledger c .delete key [] expected
      exact ⟨hkeeps.1, fun hvalues => hkeeps.2 hvalues (Nat.zero_le _)⟩

end Mutations

theorem gcTombstones_keeps {b : KvBackend D} (maxCursorTtlMs hostCallReplayTtlMs nowMs : Nat) :
    let b' := (b.gcTombstones maxCursorTtlMs hostCallReplayTtlMs nowMs).2
    b.KeepsCursors b' ∧ (b.ValuesBounded → b'.ValuesBounded) := by
  unfold gcTombstones
  dsimp only
  split
  · exact ⟨.refl b, id⟩
  · refine ⟨⟨rfl, rfl, rfl⟩, fun hvalues key value version hrow => ?_⟩
    rw [ExtTreeMap.getElem?_filter'] at hrow
    exact hvalues key value version (Option.filter_eq_some_iff.mp hrow).1

/-- A cursor that a list issued: its snapshot is a new one, or that of a cursor that was held. -/
structure IssuedBy (b b' : KvBackend D) (binding : CursorBindingV1) : Prop where
  applicationId : binding.applicationId = b.applicationId
  hostServicePolicyDigest : binding.hostServicePolicyDigest = b.hostServicePolicyDigest
  keyPrefix : isApplicationKey binding.keyPrefix = true
  lastKey : isApplicationKey binding.lastKey = true
  snapshot : b'.snapshots[binding.snapshotToken]?.isSome = true ∨
    ∃ (token : String) (held : CursorBindingV1), b.cursors[token]? = some held ∧
      held.snapshotToken = binding.snapshotToken

theorem listPage_cursors {b : KvBackend D} (hkeys : b.KeysValid) {r : ListRequest} {snapshotToken : String}
    {afterKey : Option String} {token : String} {binding : CursorBindingV1}
    (h : (b.listPage r snapshotToken afterKey).2.cursors[token]? = some binding) :
    b.cursors[token]? = some binding ∨ ∃ key, isApplicationKey key = true ∧ binding =
      ⟨b.applicationId, b.hostServicePolicyDigest, r.keyPrefix, snapshotToken, key, r.nowMs + r.cursorTtlMs⟩ := by
  unfold listPage at h
  dsimp only at h
  split at h
  · exact .inl h
  · rename_i last hlast
    split at h
    · dsimp only at h
      by_cases htoken : token = r.cursorToken
      · subst htoken
        rw [FiniteMap.getElem?_insert_self] at h
        cases h
        refine .inr ⟨last.key, ?_, rfl⟩
        have hmem := List.mem_of_mem_take (List.mem_of_mem_take (takePage_subset _ _ _ (List.mem_of_getLast? hlast)))
        obtain ⟨entry, hentry, -⟩ := Option.map_eq_some_iff.mp (mem_matching hmem)
        exact hkeys _ _ hentry
      · rw [FiniteMap.getElem?_insert_of_ne _ _ htoken] at h
        exact .inl h
    · exact .inl h

theorem listPage_frame (b : KvBackend D) (r : ListRequest) (snapshotToken : String) (afterKey : Option String) :
    (b.listPage r snapshotToken afterKey).2.applicationId = b.applicationId ∧
      (b.listPage r snapshotToken afterKey).2.hostServicePolicyDigest = b.hostServicePolicyDigest ∧
      (b.listPage r snapshotToken afterKey).2.snapshots = b.snapshots := by
  unfold listPage
  dsimp only
  split
  · exact ⟨rfl, rfl, rfl⟩
  · split <;> exact ⟨rfl, rfl, rfl⟩

/-- A request that resolves goes on in the snapshot of the cursor that it names. -/
theorem resolveCursor_eq_ok {b : KvBackend D} {r : ListRequest} {token snapshotToken : String}
    {afterKey : Option String} (hcursor : r.cursor = some token)
    (h : b.resolveCursor r = .ok (snapshotToken, afterKey)) :
    ∃ held : CursorBindingV1, b.cursors[token]? = some held ∧ held.snapshotToken = snapshotToken := by
  unfold resolveCursor at h
  rw [hcursor] at h
  dsimp only at h
  cases hheld : b.cursors[token]? with
  | none =>
    rw [hheld] at h
    cases h
  | some held =>
    rw [hheld] at h
    simp only [bind_eq_ok] at h
    obtain ⟨-, -, -, -, h⟩ := h
    cases h
    exact ⟨held, rfl, rfl⟩

theorem gcCursors_cursors {b : KvBackend D} {nowMs : Nat} {token : String} {binding : CursorBindingV1}
    (h : (b.gcCursors nowMs).cursors[token]? = some binding) : b.cursors[token]? = some binding := by
  unfold gcCursors at h
  dsimp only at h
  rw [ExtTreeMap.getElem?_filter'] at h
  exact (Option.filter_eq_some_iff.mp h).1

/-- A list keeps whose backend it is; each cursor after it was held before or is issued by it. -/
theorem list_cursors {b : KvBackend D} (hkeys : b.KeysValid) (r : ListRequest) :
    (b.list r).2.applicationId = b.applicationId ∧
      (b.list r).2.hostServicePolicyDigest = b.hostServicePolicyDigest ∧
      ∀ (token : String) (binding : CursorBindingV1), (b.list r).2.cursors[token]? = some binding →
        b.cursors[token]? = some binding ∨ b.IssuedBy (b.list r).2 binding := by
  unfold list
  split
  · exact ⟨rfl, rfl, fun _ _ h => .inl h⟩
  split
  · exact ⟨rfl, rfl, fun _ _ h => .inl h⟩
  rename_i hpre
  split
  · exact ⟨rfl, rfl, fun _ _ h => .inl h⟩
  split
  · exact ⟨rfl, rfl, fun _ _ h => .inl (gcCursors_cursors h)⟩
  rename_i snapshotToken afterKey hresolve
  dsimp only
  have hvalid : isApplicationKey r.keyPrefix = true := by simpa using hpre
  generalize hopened : (if r.cursor.isSome = true then b.gcCursors r.nowMs
    else { b.gcCursors r.nowMs with
      snapshots := (b.gcCursors r.nowMs).snapshots.insert snapshotToken (r.nowMs + r.cursorTtlMs) }) = opened
  have hsame : opened.entries = b.entries ∧ opened.cursors = (b.gcCursors r.nowMs).cursors ∧
      opened.applicationId = b.applicationId ∧ opened.hostServicePolicyDigest = b.hostServicePolicyDigest := by
    subst hopened
    split <;> exact ⟨rfl, rfl, rfl, rfl⟩
  obtain ⟨hentries, hcursors, happ, hdigest⟩ := hsame
  have hopenedKeys : opened.KeysValid := SameEntries.keysValid hentries hkeys
  obtain ⟨happ', hdigest', hsnapshots⟩ := listPage_frame opened r snapshotToken afterKey
  refine ⟨happ'.trans happ, hdigest'.trans hdigest, fun token binding h => ?_⟩
  rcases listPage_cursors hopenedKeys h with hheld | ⟨key, hkey, rfl⟩
  · rw [hcursors] at hheld
    exact .inl (gcCursors_cursors hheld)
  refine .inr ⟨happ, hdigest, hvalid, hkey, ?_⟩
  dsimp only
  cases hcursor : r.cursor with
  | none =>
    rw [hcursor] at hopened
    subst hopened
    rw [hsnapshots]
    refine .inl ?_
    show ((b.gcCursors r.nowMs).snapshots.insert snapshotToken (r.nowMs + r.cursorTtlMs))[snapshotToken]?.isSome = true
    rw [FiniteMap.getElem?_insert_self]
    rfl
  | some token => exact .inr ⟨token, resolveCursor_eq_ok hcursor hresolve⟩

end KvBackend

namespace KvSnapshots

/-- What is held is held after a call that keeps the backend's application and policy and whose cursors were held or
are issued by it. -/
theorem Held.step_of {h : KvSnapshots D} {store : KvStore D} (hheld : h.Held) (hkeys : store.backend.KeysValid)
    (hvalues : store.backend.ValuesBounded) (happ : store.backend.applicationId = h.store.backend.applicationId)
    (hdigest : store.backend.hostServicePolicyDigest = h.store.backend.hostServicePolicyDigest)
    (hcursors : ∀ (token : String) (binding : CursorBindingV1), store.backend.cursors[token]? = some binding →
      h.store.backend.cursors[token]? = some binding ∨ h.store.backend.IssuedBy store.backend binding) :
    (⟨store, fun token => store.backend.snapshots[token]?.or (h.expiries token)⟩ : KvSnapshots D).Held := by
  have hkept {token : String} (hsome : (h.expiries token).isSome = true) :
      (store.backend.snapshots[token]?.or (h.expiries token)).isSome = true := by
    rw [Option.isSome_or, hsome, Bool.or_true]
  refine ⟨hkeys, hvalues, fun token binding hbinding => ?_⟩
  dsimp only at hbinding ⊢
  rw [happ, hdigest]
  rcases hcursors token binding hbinding with hold | hissued
  · obtain ⟨hownApp, hownDigest, hpre, hlast, hsnapshot⟩ := hheld.cursors token binding hold
    exact ⟨hownApp, hownDigest, hpre, hlast, hkept hsnapshot⟩
  · refine ⟨hissued.applicationId, hissued.hostServicePolicyDigest, hissued.keyPrefix, hissued.lastKey, ?_⟩
    rcases hissued.snapshot with hnew | ⟨token', held, hfound, hsame⟩
    · rw [Option.isSome_or, hnew, Bool.true_or]
    · rw [← hsame]
      exact hkept (hheld.cursors token' held hfound).2.2.2.2

theorem held_start (applicationId digest : String) : (start applicationId digest : KvSnapshots D).Held := by
  refine ⟨?_, ?_, ?_⟩
  · intro key entry hrow
    cases (FiniteMap.getElem?_empty key).symm.trans hrow
  · intro key value version hrow
    cases (FiniteMap.getElem?_empty key).symm.trans hrow
  · intro token binding hbinding
    cases (FiniteMap.getElem?_empty token).symm.trans hbinding

variable [DecidableEq D] {proofDigest : QuotaReservationProofPayloadV2 → D}

theorem Held.step {h : KvSnapshots D} (hheld : h.Held) (call : KvCall D) : (h.step proofDigest call).Held := by
  have hkeys := call.perform_keysValid proofDigest h.store hheld.keys
  have hkeep {store : KvStore D} (hsame : h.store.backend.KeepsCursors store.backend)
      (hkeys : store.backend.KeysValid) (hvalues : store.backend.ValuesBounded) :
      (⟨store, fun token => store.backend.snapshots[token]?.or (h.expiries token)⟩ : KvSnapshots D).Held := by
    refine hheld.step_of hkeys hvalues hsame.applicationId hsame.hostServicePolicyDigest ?_
    intro token binding hbinding
    rw [hsame.cursors] at hbinding
    exact .inl hbinding
  cases call with
  | set c key value expected =>
    obtain ⟨hsame, hvalues⟩ := h.store.backend.set_keeps proofDigest h.store.ledger c key value expected
    exact hkeep hsame hkeys (hvalues hheld.values)
  | delete c key expected =>
    obtain ⟨hsame, hvalues⟩ := h.store.backend.delete_keeps proofDigest h.store.ledger c key expected
    exact hkeep hsame hkeys (hvalues hheld.values)
  | get key deadlinePassed => exact hkeep (.refl _) hheld.keys hheld.values
  | list request =>
    obtain ⟨happ, hdigest, hcursors⟩ := KvBackend.list_cursors hheld.keys request
    refine hheld.step_of hkeys ?_ happ hdigest hcursors
    intro key value version hrow
    exact hheld.values key value version (h.store.backend.list_entries request ▸ hrow)
  | gcTombstones maxCursorTtlMs hostCallReplayTtlMs nowMs =>
    obtain ⟨hsame, hvalues⟩ :=
      @KvBackend.gcTombstones_keeps D h.store.backend maxCursorTtlMs hostCallReplayTtlMs nowMs
    exact hkeep hsame hkeys (hvalues hheld.values)
  | quarantineOnOrphanMarker ids =>
    have hquarantine : h.store.backend.KeepsCursors (h.store.backend.quarantineOnOrphanMarker ids) ∧
        (h.store.backend.quarantineOnOrphanMarker ids).entries = h.store.backend.entries := by
      unfold KvBackend.quarantineOnOrphanMarker
      split <;> exact ⟨⟨rfl, rfl, rfl⟩, rfl⟩
    refine hkeep hquarantine.1 hkeys ?_
    intro key value version hrow
    exact hheld.values key value version (hquarantine.2 ▸ hrow)
  | reopen applicationId digest =>
    refine ⟨hheld.keys, hheld.values, ?_⟩
    intro token binding hbinding
    cases (FiniteMap.getElem?_empty token).symm.trans hbinding
  | ledger envelopeBytes nowMs call => exact hkeep (.refl _) hheld.keys hheld.values

theorem held_run (applicationId digest : String) (calls : List (KvCall D)) :
    (run (step proofDigest) (start applicationId digest) calls).Held :=
  run_invariant (P := fun h : KvSnapshots D => h.Held) (fun _ call hheld => hheld.step call) calls
    (held_start applicationId digest)

end KvSnapshots

/-! ## The result -/

/-- A commit is decided as the contract decides it exactly when the expected version is in range and what there is to
commit has an operation id of its own; in every state that a run reaches, a list answers as the contract exactly when
the gates let it pass and its cursor is current. -/
theorem kv_backend_refines_contract [DecidableEq D] (proofDigest : QuotaReservationProofPayloadV2 → D)
    (applicationId digest : String) (calls : List (KvCall D)) :
    let h := run (KvSnapshots.step proofDigest) (KvSnapshots.start applicationId digest) calls
    let b := h.store.backend
    (∀ (method : KvMethod) (key : String) (value : List UInt8) (expected : Option Nat)
      (reservation : ReservationRecordV2 D) (operationId : String) (nowMs : Nat),
      (∀ version, b.currentVersion key = some version → isIwebKvVersion version = true) →
        (decisionOf ((b.commitCas method key value expected reservation operationId nowMs).map Prod.fst) =
            some (applyIwebKvCas (b.currentVersion key) expected ((b.currentVersion key).getD 0 + 1)) ↔
          ExpectedInRange (b.currentVersion key) expected ∧ b.IsNewOperation key expected operationId)) ∧
      ∀ (r : KvBackend.ListRequest) (entries : List IwebKvListEntry) (tombstoneKeys : List String),
        r.Governed → EntriesOf b entries tombstoneKeys →
          (KvListAnswer.ofList (b.list r).1 = h.contractAnswer r entries tombstoneKeys ↔
            b.ensureAvailable r.deadlinePassed = .ok () ∧ h.CursorCurrent r) := by
  intro h b
  have hheld : h.Held := KvSnapshots.held_run applicationId digest calls
  exact ⟨fun _ _ _ _ _ _ _ hcurrent => KvBackend.commit_agrees_iff hcurrent,
    fun _ _ _ hgoverned hentries => list_agrees_iff hheld hentries hgoverned⟩

/-! ## A snapshot that outlives its expiry -/

/-- A list of one entry a page with cursors that live a second. -/
def pageOfOne (cursor : Option String) (nowMs : Nat) (snapshotToken cursorToken : String) : KvBackend.ListRequest :=
  ⟨"c.", cursor, 1, 256, 65536, 1000, nowMs, false, snapshotToken, cursorToken⟩

/-- Three keys of a prefix, and two pages of it: the snapshot expires at 1010, the second cursor at 1900. -/
def twoPages : List (KvCall QuotaReservationProofPayloadV2) :=
  [.set (kvContext "1" 0) "c.1" [1] none, .set (kvContext "2" 0) "c.2" [2] none,
    .set (kvContext "3" 0) "c.3" [3] none, .list (pageOfOne none 10 "snapshot" "first"),
    .list (pageOfOne (some "first") 900 "unused" "second")]

/-- The store after them. -/
def afterTwoPages : KvSnapshots QuotaReservationProofPayloadV2 :=
  run (KvSnapshots.step id) (KvSnapshots.start "alpha" (String.ofList (List.replicate 64 'a'))) twoPages

def pagedReservation : ReservationRecordV2 QuotaReservationProofPayloadV2 :=
  let payload : QuotaReservationProofPayloadV2 :=
    ⟨(kvContext "4" 0).reservationId, (kvContext "4" 0).operationId, "alpha", .kv, 8, 7, 100, 68, 168, 1050⟩
  ⟨payload, .reserved, payload⟩

theorem kv_backend_refines_contract_third_page :
    let b := afterTwoPages.store.backend
    decisionOf ((b.commitCas .set "c.1" [4] (some 1) pagedReservation (kvContext "4" 0).operationId 1000).map
        Prod.fst) = some (applyIwebKvCas (b.currentVersion "c.1") (some 1) ((b.currentVersion "c.1").getD 0 + 1)) ∧
      KvListAnswer.ofList (b.list (pageOfOne (some "second") 1000 "unused" "third")).1 =
        afterTwoPages.contractAnswer (pageOfOne (some "second") 1000 "unused" "third") b.liveEntries [] := by
  intro b
  have hversion : b.currentVersion "c.1" = some 1 := by decide +kernel
  obtain ⟨hcommits, hlists⟩ :=
    kv_backend_refines_contract id "alpha" (String.ofList (List.replicate 64 'a')) twoPages
  refine ⟨(hcommits .set "c.1" [4] (some 1) pagedReservation (kvContext "4" 0).operationId 1000 ?_).mpr ⟨?_, ?_⟩,
    (hlists (pageOfOne (some "second") 1000 "unused" "third") b.liveEntries [] ⟨?_, ?_⟩ ⟨.refl _, ?_⟩).mpr ⟨?_, ?_⟩⟩
  · intro version h
    cases hversion.symm.trans h
    decide
  · rintro version ⟨⟩
    refine ⟨by decide, fun h => ?_⟩
    cases hversion.symm.trans h
  · intro _ _
    decide +kernel
  · decide
  · decide
  · exact fun key hkey => nomatch hkey
  · decide +kernel
  · intro token binding hcursor hbinding _ _
    cases hcursor
    have hheld : afterTwoPages.store.backend.cursors["second"]? =
        some ⟨"alpha", String.ofList (List.replicate 64 'a'), "c.", "snapshot", "c.2", 1900⟩ := by decide +kernel
    cases hheld.symm.trans hbinding
    decide +kernel

/-- An expected version of 0 is a conflict for the backend; and while a cursor is alive the backend goes on in a
snapshot that has expired. -/
theorem kv_backend_breaks_contract :
    let b := (KvSnapshots.start "alpha" "cd" : KvSnapshots QuotaReservationProofPayloadV2).store.backend
    let third := pageOfOne (some "second") 1100 "unused" "third"
    decisionOf ((b.commitCas .set "c.1" [1] (some 0) pagedReservation (kvContext "4" 0).operationId 0).map Prod.fst) =
        some .conflict ∧
      applyIwebKvCas (b.currentVersion "c.1") (some 0) ((b.currentVersion "c.1").getD 0 + 1) = .unavailable ∧
      KvListAnswer.ofList (afterTwoPages.store.backend.list third).1 = .page [⟨"c.3", [3]⟩] false ∧
      afterTwoPages.contractAnswer third afterTwoPages.store.backend.liveEntries [] = .refused .cursorExpired := by
  refine ⟨?_, ?_, ?_, ?_⟩ <;> decide +kernel

end Iweb
