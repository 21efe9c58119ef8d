import Iweb.Catalog.Store
import Iweb.Kernel.Text
import Std.Data.String.ToNat

/-!
# What a read of the catalog's files says

A validator that accepts a record gives it back unchanged; a read that succeeds gives the contents of the
files, each valid and under its own name.
-/

namespace Iweb

variable {R : CatalogRules}

theorem validationFailure_ne_ok {α : Type} {issues : List ValidationIssue} {value : α} :
    validationFailure issues ≠ .ok value :=
  fun h => nomatch h

/-- A check in two stages accepts when neither stage has an issue. -/
theorem ite_failure_eq_ok {α : Type} {issues : List ValidationIssue} {rest : ValidationResult α} {value : α} :
    (if issues ≠ [] then validationFailure issues else rest) = .ok value ↔ issues = [] ∧ rest = .ok value := by
  by_cases h : issues = []
  · rw [if_neg (not_not_intro h)]
    exact ⟨fun hrest => ⟨h, hrest⟩, fun hrest => hrest.2⟩
  · rw [if_pos h]
    exact ⟨fun hrest => absurd hrest validationFailure_ne_ok, fun hrest => absurd hrest.1 h⟩

theorem orFault_eq_ok {α : Type} {fault : List ValidationIssue → CatalogFault} {result : ValidationResult α}
    {value : α} : orFault fault result = .ok value ↔ result = .ok value := by
  cases result with
  | ok a =>
    constructor
    · intro h
      exact congrArg _ (Except.ok.inj h)
    · intro h
      exact congrArg _ (Except.ok.inj h)
  | error issues => exact ⟨(fun h => nomatch h), fun h => nomatch h⟩

theorem orThrow_eq_ok {α : Type} {code text : String} {result : ValidationResult α} {value : α} :
    orThrow code text result = .ok value ↔ result = .ok value :=
  orFault_eq_ok

/-! ## Validators give the record back -/

theorem validateRuntimeCatalogV1_eq_ok {catalog result : RuntimeCatalogV1} :
    validateRuntimeCatalogV1 R catalog = .ok result ↔
      catalog = result ∧ isSha256Hex catalog.catalogHash = true ∧
        requireRuntimeCatalogPayload R catalog.toRuntimeCatalogPayloadV1 = [] ∧
        (R.computeRuntimeCatalogHashV1 catalog.toRuntimeCatalogPayloadV1).val = catalog.catalogHash := by
  unfold validateRuntimeCatalogV1
  rw [ite_failure_eq_ok, acceptUnless_eq_ok, List.append_eq_nil_iff, requireSha256Hex, issueUnless_eq_nil,
    issueUnless_eq_nil, beq_iff_eq]
  constructor
  · rintro ⟨⟨hhex, hpayload⟩, hhash, hresult⟩
    exact ⟨hresult, hhex, hpayload, hhash⟩
  · rintro ⟨hresult, hhex, hpayload, hhash⟩
    exact ⟨⟨hhex, hpayload⟩, hhash, hresult⟩

theorem issuesOf_validationFailure {α : Type} {issues : List ValidationIssue} (h : issues ≠ []) :
    issuesOf (validationFailure issues : ValidationResult α) ≠ [] := by
  obtain ⟨first, rest, rfl⟩ := List.exists_cons_of_ne_nil h
  intro hnil
  cases hnil

theorem issuesOf_acceptUnless_eq_nil {α : Type} {issues : List ValidationIssue} {value : α} :
    issuesOf (acceptUnless issues value) = [] ↔ issues = [] := by
  unfold acceptUnless
  by_cases h : issues = []
  · rw [if_pos h]
    exact ⟨fun _ => h, fun _ => rfl⟩
  · rw [if_neg h]
    exact ⟨fun hnil => absurd hnil (issuesOf_validationFailure h), fun hnil => absurd hnil h⟩

theorem issuesOf_stages {α : Type} {issues more : List ValidationIssue} {value : α}
    (h : issuesOf (if issues ≠ [] then validationFailure issues else acceptUnless more value) = []) :
    issues = [] ∧ more = [] := by
  by_cases hissues : issues = []
  · rw [if_neg (not_not_intro hissues), issuesOf_acceptUnless_eq_nil] at h
    exact ⟨hissues, h⟩
  · rw [if_pos hissues] at h
    exact absurd h (issuesOf_validationFailure hissues)

/-- A catalog without an issue is accepted. -/
theorem issuesOf_validateRuntimeCatalogV1_eq_nil {catalog : RuntimeCatalogV1} :
    issuesOf (validateRuntimeCatalogV1 R catalog) = [] ↔ validateRuntimeCatalogV1 R catalog = .ok catalog := by
  constructor
  · intro h
    obtain ⟨hfields, hdigest⟩ := issuesOf_stages h
    rw [issueUnless_eq_nil, beq_iff_eq] at hdigest
    rw [List.append_eq_nil_iff, requireSha256Hex, issueUnless_eq_nil] at hfields
    exact validateRuntimeCatalogV1_eq_ok.mpr ⟨rfl, hfields.1, hfields.2, hdigest⟩
  · intro h
    rw [h]
    rfl

theorem sealCatalogHistoryRecordV1_eq_ok {payload : CatalogHistoryRecordPayloadV1}
    {record : CatalogHistoryRecordV1} :
    sealCatalogHistoryRecordV1 R payload = .ok record ↔
      requireHistoryFields R payload = [] ∧ payload.revision = payload.catalog.revision ∧
        payload.catalogHash = payload.catalog.catalogHash ∧ payload.withDigest R = record := by
  unfold sealCatalogHistoryRecordV1
  rw [ite_failure_eq_ok, acceptUnless_eq_ok, issueUnless_eq_nil, Bool.and_eq_true, beq_iff_eq, beq_iff_eq,
    and_assoc]

/-- What the validator of history records checks. -/
structure ValidHistoryRecord (R : CatalogRules) (record : CatalogHistoryRecordV1) : Prop where
  fields : requireHistoryFields R record.toCatalogHistoryRecordPayloadV1 = []
  revision : record.revision = record.catalog.revision
  catalogHash : record.catalogHash = record.catalog.catalogHash
  digest : (R.computeCatalogHistoryRecordDigestV1 record.toCatalogHistoryRecordPayloadV1).val = record.recordDigest

theorem withDigest_eq_self {record : CatalogHistoryRecordV1}
    (h : (R.computeCatalogHistoryRecordDigestV1 record.toCatalogHistoryRecordPayloadV1).val = record.recordDigest) :
    record.toCatalogHistoryRecordPayloadV1.withDigest R = record := by
  unfold CatalogHistoryRecordPayloadV1.withDigest
  rw [h]

theorem validateCatalogHistoryRecordV1_eq_ok {record result : CatalogHistoryRecordV1} :
    validateCatalogHistoryRecordV1 R record = .ok result ↔ record = result ∧ ValidHistoryRecord R record := by
  unfold validateCatalogHistoryRecordV1
  constructor
  · intro h
    obtain ⟨sealedRecord, hsealed, hrest⟩ := bind_eq_ok.mp h
    obtain ⟨hfields, hrevision, hhash, rfl⟩ := sealCatalogHistoryRecordV1_eq_ok.mp hsealed
    rw [ite_failure_eq_ok, acceptUnless_eq_ok, issueUnless_eq_nil, beq_iff_eq] at hrest
    obtain ⟨-, hdigest, rfl⟩ := hrest
    exact ⟨(withDigest_eq_self hdigest).symm, hfields, hrevision, hhash, hdigest⟩
  · rintro ⟨rfl, hvalid⟩
    have hsealed := sealCatalogHistoryRecordV1_eq_ok.mpr
      ⟨hvalid.fields, hvalid.revision, hvalid.catalogHash, withDigest_eq_self hvalid.digest⟩
    refine bind_eq_ok.mpr ⟨record, hsealed, ?_⟩
    rw [ite_failure_eq_ok, acceptUnless_eq_ok, issueUnless_eq_nil, beq_iff_eq, requireSha256Hex, issueUnless_eq_nil]
    exact ⟨hvalid.digest ▸ (R.computeCatalogHistoryRecordDigestV1 _).property, rfl, rfl⟩

/-- A sealed record is valid. -/
theorem ValidHistoryRecord.of_seal {payload : CatalogHistoryRecordPayloadV1} {record : CatalogHistoryRecordV1}
    (h : sealCatalogHistoryRecordV1 R payload = .ok record) : ValidHistoryRecord R record := by
  obtain ⟨hfields, hrevision, hhash, rfl⟩ := sealCatalogHistoryRecordV1_eq_ok.mp h
  exact ⟨hfields, hrevision, hhash, rfl⟩

theorem ValidHistoryRecord.catalog_valid {record : CatalogHistoryRecordV1} (h : ValidHistoryRecord R record) :
    validateRuntimeCatalogV1 R record.catalog = .ok record.catalog := by
  have hfields := h.fields
  simp only [requireHistoryFields, List.append_eq_nil_iff] at hfields
  exact issuesOf_validateRuntimeCatalogV1_eq_nil.mp hfields.1.2

/-- What the validator of receipts checks. -/
structure ValidReceipt (R : CatalogRules) (receipt : CatalogReleaseReceiptV1) : Prop where
  fields : requireReleaseReceiptPayload R receipt.toCatalogReleaseReceiptPayloadV1 = []
  digest : (R.computeCatalogReleaseReceiptDigestV1 receipt.toCatalogReleaseReceiptPayloadV1).val =
    receipt.receiptDigest

theorem validateCatalogReleaseReceiptV1_eq_ok {receipt result : CatalogReleaseReceiptV1} :
    validateCatalogReleaseReceiptV1 R receipt = .ok result ↔ receipt = result ∧ ValidReceipt R receipt := by
  unfold validateCatalogReleaseReceiptV1
  rw [ite_failure_eq_ok, acceptUnless_eq_ok, List.append_eq_nil_iff, requireSha256Hex, issueUnless_eq_nil,
    issueUnless_eq_nil, beq_iff_eq]
  constructor
  · rintro ⟨⟨-, hfields⟩, hdigest, hresult⟩
    exact ⟨hresult, hfields, hdigest⟩
  · rintro ⟨hresult, hvalid⟩
    have hhex := (R.computeCatalogReleaseReceiptDigestV1 receipt.toCatalogReleaseReceiptPayloadV1).property
    rw [hvalid.digest] at hhex
    exact ⟨⟨hhex, hvalid.fields⟩, hvalid.digest, hresult⟩

/-- What the validator of audits checks. -/
structure ValidAudit (R : CatalogRules) (audit : CatalogDeleteAuditV1) : Prop where
  fields : requireDeleteAuditFields R audit = []
  path : audit.path = catalogHistoryRevisionFilePath audit.revision audit.catalogHash

theorem validateCatalogDeleteAuditV1_eq_ok {audit result : CatalogDeleteAuditV1} :
    validateCatalogDeleteAuditV1 R audit = .ok result ↔ audit = result ∧ ValidAudit R audit := by
  unfold validateCatalogDeleteAuditV1
  rw [ite_failure_eq_ok, acceptUnless_eq_ok, issueUnless_eq_nil, beq_iff_eq]
  constructor
  · rintro ⟨hfields, hpath, hresult⟩
    exact ⟨hresult, hfields, hpath⟩
  · rintro ⟨hresult, hvalid⟩
    exact ⟨hvalid.fields, hvalid.path, hresult⟩

/-! ## The files -/

/-- The revision files: each is valid and under its own name, and no revision has two. -/
structure RevisionFiles (R : CatalogRules) (files : List (String × CatalogHistoryRecordV1)) : Prop where
  valid : ∀ file ∈ files, ValidHistoryRecord R file.2
  name : ∀ file ∈ files, file.1 = catalogHistoryRevisionFileName file.2.revision file.2.catalogHash
  fileName : ∀ file ∈ files, isRevisionFileName file.1 = true
  nodup : (files.map fun file => file.2.revision).Nodup

theorem readRevisionFiles_eq_ok {files : List (String × CatalogHistoryRecordV1)} {seen : List Nat}
    {records : List CatalogHistoryRecordV1} :
    readRevisionFiles R seen files = .ok records ↔
      records = files.map Prod.snd ∧ RevisionFiles R files ∧ ∀ file ∈ files, file.2.revision ∉ seen := by
  induction files generalizing seen records with
  | nil =>
    constructor
    · intro h
      obtain rfl := Except.ok.inj h
      exact ⟨rfl, ⟨by simp, by simp, by simp, .nil⟩, by simp⟩
    · rintro ⟨rfl, -, -⟩
      rfl
  | cons file rest ih =>
    obtain ⟨name, stored⟩ := file
    unfold readRevisionFiles
    constructor
    · intro h
      split at h
      next => cases h
      next hname =>
        obtain ⟨record, hrecord, h⟩ := bind_eq_ok.mp h
        obtain ⟨rfl, hvalid⟩ := validateCatalogHistoryRecordV1_eq_ok.mp (orThrow_eq_ok.mp hrecord)
        split at h
        next => cases h
        next hfile =>
          split at h
          next => cases h
          next hseen =>
            obtain ⟨records', hrest, h⟩ := bind_eq_ok.mp h
            obtain rfl := Except.ok.inj h
            obtain ⟨rfl, hfiles, hnew⟩ := ih.mp hrest
            have hstored : stored.revision ∉ seen := by simpa using hseen
            have hnotin : ∀ f ∈ rest, f.2.revision ≠ stored.revision ∧ f.2.revision ∉ seen := by
              intro f hf
              simpa using hnew f hf
            refine ⟨rfl, ⟨?_, ?_, ?_, ?_⟩, ?_⟩
            · rintro f (_ | ⟨_, hf⟩)
              · exact hvalid
              · exact hfiles.valid f hf
            · rintro f (_ | ⟨_, hf⟩)
              · exact not_not.mp hfile
              · exact hfiles.name f hf
            · rintro f (_ | ⟨_, hf⟩)
              · simpa using hname
              · exact hfiles.fileName f hf
            · refine List.nodup_cons.mpr ⟨?_, hfiles.nodup⟩
              intro hmem
              obtain ⟨f, hf, heq⟩ := List.mem_map.mp hmem
              exact (hnotin f hf).1 heq
            · rintro f (_ | ⟨_, hf⟩)
              · exact hstored
              · exact (hnotin f hf).2
    · rintro ⟨rfl, hfiles, hnew⟩
      obtain ⟨hfresh, hnodup⟩ := List.nodup_cons.mp hfiles.nodup
      have hname : isRevisionFileName name = true := hfiles.fileName (name, stored) (.head _)
      have hfile : name = catalogHistoryRevisionFileName stored.revision stored.catalogHash :=
        hfiles.name (name, stored) (.head _)
      have hseen : stored.revision ∉ seen := hnew (name, stored) (.head _)
      rw [if_neg (by simp [hname])]
      refine bind_eq_ok.mpr ⟨stored, orThrow_eq_ok.mpr (validateCatalogHistoryRecordV1_eq_ok.mpr
        ⟨rfl, hfiles.valid (name, stored) (.head _)⟩), ?_⟩
      rw [if_neg (not_not_intro hfile), if_neg (by simpa using hseen)]
      refine bind_eq_ok.mpr ⟨rest.map Prod.snd, ih.mpr ⟨rfl, ?_, ?_⟩, rfl⟩
      · exact ⟨fun f hf => hfiles.valid f (.tail _ hf), fun f hf => hfiles.name f (.tail _ hf),
          fun f hf => hfiles.fileName f (.tail _ hf), hnodup⟩
      · intro f hf hmem
        rcases List.mem_cons.mp hmem with heq | hmem
        · exact hfresh (List.mem_map.mpr ⟨f, hf, heq⟩)
        · exact hnew f (.tail _ hf) hmem

theorem readNamedFiles_eq_ok {α : Type} {validate : α → ValidationResult α} {Valid : α → Prop}
    (hvalidate : ∀ stored value, validate stored = .ok value ↔ stored = value ∧ Valid stored)
    {fileName : α → String} {failed disagrees : String → String} {files : List (String × α)} {values : List α} :
    readNamedFiles validate fileName failed disagrees files = .ok values ↔
      values = files.map Prod.snd ∧ ∀ file ∈ files, Valid file.2 ∧ file.1 = fileName file.2 := by
  induction files generalizing values with
  | nil =>
    constructor
    · intro h
      obtain rfl := Except.ok.inj h
      exact ⟨rfl, by simp⟩
    · rintro ⟨rfl, -⟩
      rfl
  | cons file rest ih =>
    obtain ⟨name, stored⟩ := file
    unfold readNamedFiles
    constructor
    · intro h
      obtain ⟨value, hvalue, h⟩ := bind_eq_ok.mp h
      obtain ⟨rfl, hvalid⟩ := (hvalidate _ _).mp (orThrow_eq_ok.mp hvalue)
      split at h
      next => cases h
      next hname =>
        obtain ⟨values', hrest, h⟩ := bind_eq_ok.mp h
        obtain rfl := Except.ok.inj h
        obtain ⟨rfl, hfiles⟩ := ih.mp hrest
        refine ⟨rfl, ?_⟩
        rintro f (_ | ⟨_, hf⟩)
        · exact ⟨hvalid, not_not.mp hname⟩
        · exact hfiles f hf
    · rintro ⟨rfl, hfiles⟩
      obtain ⟨hvalid, hname⟩ := hfiles (name, stored) (.head _)
      refine bind_eq_ok.mpr ⟨stored, orThrow_eq_ok.mpr ((hvalidate _ _).mpr ⟨rfl, hvalid⟩), ?_⟩
      rw [if_neg (not_not_intro hname)]
      exact bind_eq_ok.mpr ⟨rest.map Prod.snd, ih.mpr ⟨rfl, fun f hf => hfiles f (.tail _ hf)⟩, rfl⟩

/-! ### Names -/

/-- The digits before the dash and the text after it can be told apart. -/
theorem catalogRecordKey_injective {revision revision' : Nat} {catalogHash catalogHash' : String}
    (h : catalogRecordKey revision catalogHash = catalogRecordKey revision' catalogHash') :
    revision = revision' ∧ catalogHash = catalogHash' := by
  have hlist := congrArg String.toList h
  have hdash : ∀ n : Nat, ∀ c ∈ Nat.toDigits 10 n, (c != '-') = true := by
    intro n c hc
    have hdigit := Nat.isDigit_of_mem_toDigits (by decide) (by decide) hc
    rw [bne_iff_ne]
    rintro rfl
    exact absurd hdigit (by decide)
  have hkey : ∀ n : Nat, ∀ text : String,
      (catalogRecordKey n text).toList = Nat.toDigits 10 n ++ '-' :: text.toList := by
    intro n text
    unfold catalogRecordKey
    rw [String.toList_append, String.toList_append, List.append_assoc, ← Nat.toList_repr]
    rfl
  have htake : ∀ n : Nat, ∀ rest : List Char,
      (Nat.toDigits 10 n ++ '-' :: rest).takeWhile (fun c => c != '-') = Nat.toDigits 10 n := by
    intro n rest
    rw [List.takeWhile_append_of_pos (hdash n)]
    simp
  rw [hkey, hkey] at hlist
  have hdigits := congrArg (List.takeWhile fun c => c != '-') hlist
  rw [htake, htake] at hdigits
  rw [hdigits] at hlist
  obtain ⟨-, htext⟩ := List.cons.inj (List.append_cancel_left hlist)
  refine ⟨Nat.repr_injective ?_, String.toList_inj.mp htext⟩
  rw [Nat.repr_eq_ofList_toDigits, Nat.repr_eq_ofList_toDigits, hdigits]

theorem catalogHistoryRevisionFileName_injective {revision revision' : Nat} {catalogHash catalogHash' : String}
    (h : catalogHistoryRevisionFileName revision catalogHash =
      catalogHistoryRevisionFileName revision' catalogHash') :
    revision = revision' ∧ catalogHash = catalogHash' := by
  have hkey : ∀ n : Nat, ∀ text : String,
      (catalogHistoryRevisionFileName n text).toList = (catalogRecordKey n text).toList ++ ".json".toList := by
    intro n text
    rw [← String.toList_append]
    rfl
  have hlist := congrArg String.toList h
  rw [hkey, hkey] at hlist
  exact catalogRecordKey_injective (String.toList_inj.mp (List.append_cancel_right hlist))

theorem catalogReleaseReceiptFileName_injective {releaseId releaseId' : String}
    (h : catalogReleaseReceiptFileName releaseId = catalogReleaseReceiptFileName releaseId') :
    releaseId = releaseId' := by
  have hlist := congrArg String.toList h
  unfold catalogReleaseReceiptFileName at hlist
  rw [String.toList_append, String.toList_append] at hlist
  exact String.toList_inj.mp (List.append_cancel_right hlist)

theorem catalogDeleteAuditFileName_injective {deleteId deleteId' : String}
    (h : catalogDeleteAuditFileName deleteId = catalogDeleteAuditFileName deleteId') : deleteId = deleteId' :=
  catalogReleaseReceiptFileName_injective h

theorem bytes_decimal (n : Nat) :
    (∀ b ∈ bytes (toString n), isDecimalDigit b = true) ∧ bytes (toString n) ≠ [] := by
  have hdigit : ∀ c ∈ Nat.toDigits 10 n, 48 ≤ c.toNat ∧ c.toNat ≤ 57 := by
    intro c hc
    exact (Char.isDigit_iff_toNat).mp (Nat.isDigit_of_mem_toDigits (by decide) (by decide) hc)
  have hbytes : bytes (toString n) = (Nat.toDigits 10 n).map ascii := by
    have hrepr : toString n = String.ofList (Nat.toDigits 10 n) := Nat.repr_eq_ofList_toDigits
    rw [hrepr, bytes_ofList_ascii]
    intro c hc
    have := hdigit c hc
    omega
  rw [hbytes]
  refine ⟨?_, ?_⟩
  · intro b hb
    obtain ⟨c, hc, rfl⟩ := List.mem_map.mp hb
    have hrange := hdigit c hc
    have hnat : (ascii c).toNat = c.toNat := by
      unfold ascii
      rw [UInt8.toNat_ofNat_of_lt']
      show c.toNat < 256
      omega
    simp only [isDecimalDigit, inRange, Bool.and_eq_true, decide_eq_true_eq, hnat]
    exact hrange
  · intro hnil
    exact Nat.toDigits_ne_nil (List.map_eq_nil_iff.mp hnil)

theorem isRevisionFileName_of_hash {revision : Nat} {catalogHash : String} (h : isSha256Hex catalogHash = true) :
    isRevisionFileName (catalogHistoryRevisionFileName revision catalogHash) = true := by
  obtain ⟨hdigits, hne⟩ := bytes_decimal revision
  unfold isSha256Hex at h
  rw [Bool.and_eq_true, beq_iff_eq] at h
  have hdash : bytes "-" = [ascii '-'] := rfl
  have hjson : bytes ".json" = ".json".toList.map ascii := rfl
  have hname : bytes (catalogHistoryRevisionFileName revision catalogHash) =
      bytes (toString revision) ++ ascii '-' :: (bytes catalogHash ++ ".json".toList.map ascii) := by
    unfold catalogHistoryRevisionFileName
    rw [bytes_append, bytes_append, bytes_append, hdash, hjson, List.append_assoc, List.append_assoc,
      List.singleton_append]
  have htake : (bytes (toString revision) ++
      ascii '-' :: (bytes catalogHash ++ ".json".toList.map ascii)).takeWhile isDecimalDigit =
      bytes (toString revision) := by
    rw [List.takeWhile_append_of_pos hdigits, List.takeWhile_cons_of_neg (by decide), List.append_nil]
  unfold isRevisionFileName
  rw [hname, htake]
  dsimp only
  rw [List.drop_left, List.drop_one, List.tail_cons, List.take_left' h.1]
  have hdrop : (ascii '-' :: (bytes catalogHash ++ ".json".toList.map ascii)).drop 65 =
      ".json".toList.map ascii := by
    rw [List.drop_succ_cons, List.drop_left' h.1]
  have hempty : (bytes (toString revision)).isEmpty = false := by simpa using hne
  rw [hdrop, h.1, h.2, hempty]
  simp
/-! ### The files agree with each other -/

theorem crossCheckAudits_eq_ok {receipts : List CatalogReleaseReceiptV1} {audits : List CatalogDeleteAuditV1}
    {seen audited : List Nat}
    (hunique : ∀ receipt ∈ receipts, ∀ receipt' ∈ receipts, receipt.releaseId = receipt'.releaseId →
      receipt = receipt') :
    crossCheckAudits receipts seen audits = .ok audited ↔
      audited = (audits.map CatalogDeleteAuditV1.revision).reverse ++ seen ∧
      (audits.map CatalogDeleteAuditV1.revision).Nodup ∧
      ∀ audit ∈ audits, audit.revision ∉ seen ∧ ∃ receipt ∈ receipts, receipt.releaseId = audit.releaseId ∧
        receipt.catalogRevision = audit.revision ∧ receipt.catalogHash = audit.catalogHash := by
  induction audits generalizing seen audited with
  | nil =>
    constructor
    · intro h
      obtain rfl := Except.ok.inj h
      exact ⟨rfl, .nil, by simp⟩
    · rintro ⟨rfl, -, -⟩
      rfl
  | cons audit rest ih =>
    unfold crossCheckAudits
    constructor
    · intro h
      split at h
      next => cases h
      next receipt hfind =>
        have hid : receipt.releaseId = audit.releaseId := by simpa using List.find?_some hfind
        split at h
        next => cases h
        next hbound =>
          split at h
          next => cases h
          next hseen =>
            obtain ⟨rfl, hnodup, hrest⟩ := ih.mp h
            have hfresh : ∀ a ∈ rest, a.revision ≠ audit.revision ∧ a.revision ∉ seen := by
              intro a ha
              simpa using (hrest a ha).1
            refine ⟨by simp, List.nodup_cons.mpr ⟨?_, hnodup⟩, ?_⟩
            · intro hmem
              obtain ⟨a, ha, heq⟩ := List.mem_map.mp hmem
              exact (hfresh a ha).1 heq
            · rintro a (_ | ⟨_, ha⟩)
              · refine ⟨by simpa using hseen, receipt, List.mem_of_find?_eq_some hfind, hid, ?_⟩
                exact ⟨not_not.mp fun h => hbound (.inl h), not_not.mp fun h => hbound (.inr h)⟩
              · exact ⟨(hfresh a ha).2, (hrest a ha).2⟩
    · rintro ⟨rfl, hnodup, hall⟩
      obtain ⟨hfresh, hnodup⟩ := List.nodup_cons.mp hnodup
      obtain ⟨hseen, receipt, hmem, hid, hrevision, hhash⟩ := hall audit (.head _)
      have hfind : receipts.find? (fun receipt => receipt.releaseId == audit.releaseId) = some receipt := by
        cases hfound : receipts.find? fun receipt => receipt.releaseId == audit.releaseId with
        | none => exact absurd (beq_iff_eq.mpr hid) (List.find?_eq_none.mp hfound receipt hmem)
        | some found =>
          have hfid : found.releaseId = audit.releaseId := by simpa using List.find?_some hfound
          rw [hunique found (List.mem_of_find?_eq_some hfound) receipt hmem (hfid.trans hid.symm)]
      rw [hfind]
      dsimp only
      rw [if_neg (by simp [hrevision, hhash]), if_neg (by simpa using hseen)]
      refine ih.mpr ⟨by simp, hnodup, ?_⟩
      intro a ha
      refine ⟨?_, (hall a (.tail _ ha)).2⟩
      intro hmem
      rcases List.mem_cons.mp hmem with heq | hmem
      · exact hfresh (List.mem_map.mpr ⟨a, ha, heq⟩)
      · exact (hall a (.tail _ ha)).1 hmem

theorem crossCheckReceipts_eq_ok {records : List CatalogHistoryRecordV1} {audited : List Nat}
    {receipts : List CatalogReleaseReceiptV1} :
    crossCheckReceipts records audited receipts = .ok () ↔
      ∀ receipt ∈ receipts, (∃ record ∈ records, record.revision = receipt.catalogRevision ∧
        record.catalogHash = receipt.catalogHash) ∨ receipt.catalogRevision ∈ audited := by
  induction receipts with
  | nil => simp [crossCheckReceipts]
  | cons receipt rest ih =>
    have hkey : catalogRecordKey receipt.catalogRevision receipt.catalogHash ∈
        (records.map fun record => catalogRecordKey record.revision record.catalogHash) ↔
        ∃ record ∈ records, record.revision = receipt.catalogRevision ∧
          record.catalogHash = receipt.catalogHash := by
      rw [List.mem_map]
      constructor
      · rintro ⟨record, hmem, heq⟩
        exact ⟨record, hmem, catalogRecordKey_injective heq⟩
      · rintro ⟨record, hmem, hrevision, hhash⟩
        exact ⟨record, hmem, by rw [hrevision, hhash]⟩
    unfold crossCheckReceipts
    by_cases h : (∃ record ∈ records, record.revision = receipt.catalogRevision ∧
        record.catalogHash = receipt.catalogHash) ∨ receipt.catalogRevision ∈ audited
    · rw [if_neg, ih, List.forall_mem_cons]
      · exact ⟨fun hrest => ⟨h, hrest⟩, fun hrest => hrest.2⟩
      · rw [← hkey] at h
        simpa [or_iff_not_imp_left] using h
    · rw [if_pos, List.forall_mem_cons]
      · exact ⟨(fun hrest => nomatch hrest), fun hrest => absurd hrest.1 h⟩
      · rw [← hkey] at h
        simpa using h

/-- The files of the store are valid and agree with each other. -/
structure CatalogFiles (R : CatalogRules) (disk : CatalogDisk) : Prop where
  revisions : RevisionFiles R disk.revisions.files
  receipts : ∀ file ∈ disk.releaseReceipts.files, ValidReceipt R file.2 ∧
    file.1 = catalogReleaseReceiptFileName file.2.releaseId
  audits : ∀ file ∈ disk.deleteAudits.files, ValidAudit R file.2 ∧
    file.1 = catalogDeleteAuditFileName file.2.deleteId
  auditUnique : (disk.deleteAudits.contents.map CatalogDeleteAuditV1.revision).Nodup
  auditReceipt : ∀ audit ∈ disk.deleteAudits.contents, ∃ receipt ∈ disk.releaseReceipts.contents,
    receipt.releaseId = audit.releaseId ∧ receipt.catalogRevision = audit.revision ∧
      receipt.catalogHash = audit.catalogHash
  receiptBound : ∀ receipt ∈ disk.releaseReceipts.contents,
    (∃ record ∈ disk.revisions.contents, record.revision = receipt.catalogRevision ∧
      record.catalogHash = receipt.catalogHash) ∨
    ∃ audit ∈ disk.deleteAudits.contents, audit.revision = receipt.catalogRevision

/-- A release id has one receipt. -/
theorem receipt_unique {disk : CatalogDisk}
    (h : ∀ file ∈ disk.releaseReceipts.files, ValidReceipt R file.2 ∧
      file.1 = catalogReleaseReceiptFileName file.2.releaseId) :
    ∀ receipt ∈ disk.releaseReceipts.contents, ∀ receipt' ∈ disk.releaseReceipts.contents,
      receipt.releaseId = receipt'.releaseId → receipt = receipt' := by
  intro receipt hmem receipt' hmem' hid
  obtain ⟨name, hfile⟩ := Directory.mem_contents.mp hmem
  obtain ⟨name', hfile'⟩ := Directory.mem_contents.mp hmem'
  have hname : name = catalogReleaseReceiptFileName receipt.releaseId := (h _ hfile).2
  have hname' : name' = catalogReleaseReceiptFileName receipt'.releaseId := (h _ hfile').2
  rw [hname] at hfile
  rw [hname', ← hid] at hfile'
  exact Directory.content_unique hfile hfile'

theorem readCatalogFiles_eq_ok {disk : CatalogDisk} {records : List CatalogHistoryRecordV1}
    {receipts : List CatalogReleaseReceiptV1} {audits : List CatalogDeleteAuditV1} :
    readCatalogFiles R disk = .ok (records, receipts, audits) ↔
      records = sortRecords disk.revisions.contents ∧ receipts = disk.releaseReceipts.contents ∧
        audits = disk.deleteAudits.contents ∧ CatalogFiles R disk := by
  have hsorted : ∀ record, record ∈ sortRecords disk.revisions.contents ↔ record ∈ disk.revisions.contents :=
    fun record => (List.perm_insertionSort _ _).mem_iff
  unfold readCatalogFiles
  constructor
  · intro h
    obtain ⟨records', hrecords, h⟩ := bind_eq_ok.mp h
    obtain ⟨contents, hcontents, hrecords⟩ := bind_eq_ok.mp hrecords
    obtain ⟨rfl, hrevisions, -⟩ := readRevisionFiles_eq_ok.mp hcontents
    obtain rfl := Except.ok.inj hrecords
    obtain ⟨receipts', hreceipts, h⟩ := bind_eq_ok.mp h
    obtain ⟨rfl, hreceiptFiles⟩ :=
      (readNamedFiles_eq_ok fun _ _ => validateCatalogReleaseReceiptV1_eq_ok).mp hreceipts
    obtain ⟨audits', haudits, h⟩ := bind_eq_ok.mp h
    obtain ⟨rfl, hauditFiles⟩ :=
      (readNamedFiles_eq_ok fun _ _ => validateCatalogDeleteAuditV1_eq_ok).mp haudits
    obtain ⟨audited, haudited, h⟩ := bind_eq_ok.mp h
    obtain ⟨rfl, hunique, hreceipt⟩ := (crossCheckAudits_eq_ok (receipt_unique hreceiptFiles)).mp haudited
    obtain ⟨⟨⟩, hbound, h⟩ := bind_eq_ok.mp h
    obtain ⟨rfl, rfl, rfl⟩ := Prod.mk.injEq _ _ _ _ ▸ Except.ok.inj h
    have hbound := crossCheckReceipts_eq_ok.mp hbound
    refine ⟨rfl, rfl, rfl, hrevisions, hreceiptFiles, hauditFiles, hunique, fun audit ha => (hreceipt audit ha).2, ?_⟩
    intro receipt hmem
    rcases hbound receipt hmem with ⟨record, hrecord, hbinds⟩ | haudit
    · exact .inl ⟨record, (hsorted record).mp hrecord, hbinds⟩
    · rw [List.append_nil, List.mem_reverse, List.mem_map] at haudit
      exact .inr haudit
  · rintro ⟨rfl, rfl, rfl, hfiles⟩
    refine bind_eq_ok.mpr ⟨_, bind_eq_ok.mpr ⟨_, readRevisionFiles_eq_ok.mpr
      ⟨rfl, hfiles.revisions, by simp⟩, rfl⟩, ?_⟩
    refine bind_eq_ok.mpr ⟨_, (readNamedFiles_eq_ok fun _ _ => validateCatalogReleaseReceiptV1_eq_ok).mpr
      ⟨rfl, hfiles.receipts⟩, ?_⟩
    refine bind_eq_ok.mpr ⟨_, (readNamedFiles_eq_ok fun _ _ => validateCatalogDeleteAuditV1_eq_ok).mpr
      ⟨rfl, hfiles.audits⟩, ?_⟩
    refine bind_eq_ok.mpr ⟨_, (crossCheckAudits_eq_ok (receipt_unique hfiles.receipts)).mpr
      ⟨rfl, hfiles.auditUnique, fun audit ha => ⟨by simp, hfiles.auditReceipt audit ha⟩⟩, ?_⟩
    refine bind_eq_ok.mpr ⟨(), crossCheckReceipts_eq_ok.mpr ?_, rfl⟩
    intro receipt hmem
    rcases hfiles.receiptBound receipt hmem with ⟨record, hrecord, hbinds⟩ | haudit
    · exact .inl ⟨record, (hsorted record).mpr hrecord, hbinds⟩
    · rw [List.append_nil, List.mem_reverse, List.mem_map]
      exact .inr haudit

/-! ## Reads only throw -/

/-- A computation that fails throws; it does not refuse. -/
def OnlyThrows {α : Type} (x : Except CatalogFault α) : Prop :=
  ∀ e, x = .error e → ∃ code message, e = .thrown code message

theorem OnlyThrows.ok {α : Type} (a : α) : OnlyThrows (.ok a) :=
  fun _ h => nomatch h

theorem OnlyThrows.error {α : Type} (code message : String) : OnlyThrows (.error (.thrown code message) : Except _ α) :=
  fun _ h => ⟨code, message, (Except.error.inj h).symm⟩

theorem OnlyThrows.bind {α β : Type} {x : Except CatalogFault α} {f : α → Except CatalogFault β}
    (hx : OnlyThrows x) (hf : ∀ a, OnlyThrows (f a)) : OnlyThrows (x >>= f) := by
  cases x with
  | ok a => exact hf a
  | error fault =>
    intro e h
    exact hx e (congrArg _ (Except.error.inj h))

theorem OnlyThrows.orThrow {α : Type} {code text : String} {result : ValidationResult α} :
    OnlyThrows (orThrow code text result) := by
  cases result with
  | ok a => exact .ok a
  | error issues => exact .error _ _

theorem readRevisionFiles_onlyThrows {files : List (String × CatalogHistoryRecordV1)} {seen : List Nat} :
    OnlyThrows (readRevisionFiles R seen files) := by
  induction files generalizing seen with
  | nil => exact .ok _
  | cons file rest ih =>
    unfold readRevisionFiles
    split
    · exact .error _ _
    · refine .bind .orThrow fun record => ?_
      split
      · exact .error _ _
      · split
        · exact .error _ _
        · exact .bind ih fun _ => .ok _

theorem readNamedFiles_onlyThrows {α : Type} {validate : α → ValidationResult α} {fileName : α → String}
    {failed disagrees : String → String} {files : List (String × α)} :
    OnlyThrows (readNamedFiles validate fileName failed disagrees files) := by
  induction files with
  | nil => exact .ok _
  | cons file rest ih =>
    unfold readNamedFiles
    refine .bind .orThrow fun value => ?_
    split
    · exact .error _ _
    · exact .bind ih fun _ => .ok _

theorem crossCheckAudits_onlyThrows {receipts : List CatalogReleaseReceiptV1} {seen : List Nat}
    {audits : List CatalogDeleteAuditV1} : OnlyThrows (crossCheckAudits receipts seen audits) := by
  induction audits generalizing seen with
  | nil => exact .ok _
  | cons audit rest ih =>
    unfold crossCheckAudits
    split
    · exact .error _ _
    · split
      · exact .error _ _
      · split
        · exact .error _ _
        · exact ih

theorem crossCheckReceipts_onlyThrows {records : List CatalogHistoryRecordV1} {audited : List Nat}
    {receipts : List CatalogReleaseReceiptV1} : OnlyThrows (crossCheckReceipts records audited receipts) := by
  induction receipts with
  | nil => exact .ok _
  | cons receipt rest ih =>
    unfold crossCheckReceipts
    split
    · exact .error _ _
    · exact ih

theorem readCatalogFiles_onlyThrows {disk : CatalogDisk} : OnlyThrows (readCatalogFiles R disk) :=
  .bind (.bind readRevisionFiles_onlyThrows fun _ => .ok _) fun _ =>
    .bind readNamedFiles_onlyThrows fun _ => .bind readNamedFiles_onlyThrows fun _ =>
      .bind crossCheckAudits_onlyThrows fun _ => .bind crossCheckReceipts_onlyThrows fun _ => .ok _

end Iweb
