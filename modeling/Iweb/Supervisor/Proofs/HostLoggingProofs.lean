import Iweb.HostServices.Proofs.LoggingProofs
import Iweb.Kernel.Text
import Iweb.Supervisor.HostLogging

/-!
# Which drains reach the owner

What the ring takes is of the supervisor's grammar, except for texts that canonical JSON has no bytes for. So an
answer reaches the owner exactly if the texts of its page are ASCII and its counters are in the range of a wire.
-/

namespace Iweb

open CrashRefinement

/-! ## ASCII texts -/

theorem isLabelChar_ascii {b : UInt8} (h : isLabelChar b = true) : b.toNat < 128 := by
  have hdash : (ascii '-').toNat = 45 := rfl
  simp only [isLabelChar, isLabelEdge, isLowerAlpha, isDecimalDigit, inRange, Bool.or_eq_true, Bool.and_eq_true,
    decide_eq_true_eq, beq_iff_eq] at h
  rcases h with (⟨-, hle⟩ | ⟨-, hle⟩) | rfl
  · exact Nat.lt_of_le_of_lt hle (by decide)
  · exact Nat.lt_of_le_of_lt hle (by decide)
  · omega

theorem isDecimalDigit_ascii {b : UInt8} (h : isDecimalDigit b = true) : b.toNat < 128 :=
  isLabelChar_ascii (by unfold isLabelChar isLabelEdge; rw [h, Bool.or_true, Bool.true_or])

theorem isHexLower_ascii {b : UInt8} (h : isHexLower b = true) : b.toNat < 128 := by
  unfold isHexLower at h
  rw [Bool.or_eq_true] at h
  rcases h with hdigit | hletter
  · exact isDecimalDigit_ascii hdigit
  · unfold inRange at hletter
    rw [Bool.and_eq_true, decide_eq_true_eq, decide_eq_true_eq] at hletter
    exact Nat.lt_of_le_of_lt hletter.2 (by decide)

theorem isAsciiText_iff {s : String} : isAsciiText s = true ↔ ∀ b ∈ bytes s, b.toNat < 128 := by
  unfold isAsciiText
  simp only [List.all_eq_true, decide_eq_true_eq]

/-- A text of a shape is ASCII if all its classes are. -/
theorem matchesShape_ascii {shape : List (UInt8 → Bool)} {bs : List UInt8}
    (hshape : ∀ p ∈ shape, ∀ b, p b = true → b.toNat < 128) (h : matchesShape shape bs = true) :
    ∀ b ∈ bs, b.toNat < 128 := by
  unfold matchesShape at h
  rw [Bool.and_eq_true, beq_iff_eq] at h
  obtain ⟨hlength, hall⟩ := h
  induction shape generalizing bs with
  | nil =>
    have hnil : bs = [] := List.eq_nil_of_length_eq_zero hlength.symm
    rw [hnil]
    exact fun _ hb => nomatch hb
  | cons p shape ih =>
    cases bs with
    | nil => exact fun _ hb => nomatch hb
    | cons b bs =>
      rw [List.zip_cons_cons, List.all_cons, Bool.and_eq_true] at hall
      rw [List.length_cons, List.length_cons] at hlength
      intro c hc
      rcases List.mem_cons.mp hc with rfl | hc
      · exact hshape p (.head _) c hall.1
      · exact ih (fun q hq => hshape q (.tail _ hq)) (by omega) hall.2 c hc

theorem isOpaqueId_ascii {s : String} (h : isOpaqueId s = true) : isAsciiText s = true := by
  unfold isOpaqueId at h
  simp only [Bool.and_eq_true, List.all_eq_true] at h
  exact isAsciiText_iff.mpr fun b hb => isLabelChar_ascii (h.1.1.2 b hb)

theorem isValidFieldKey_ascii {s : String} (h : isValidFieldKey s = true) : isAsciiText s = true := by
  unfold isValidFieldKey at h
  refine isAsciiText_iff.mpr fun b hb => ?_
  cases hbytes : bytes s with
  | nil =>
    rw [hbytes] at hb
    exact nomatch hb
  | cons first rest =>
    rw [hbytes] at h hb
    simp only [Bool.and_eq_true, List.all_eq_true] at h
    obtain ⟨⟨-, hfirst⟩, hrest⟩ := h
    rcases List.mem_cons.mp hb with rfl | hb
    · exact isLabelChar_ascii (by unfold isLabelChar isLabelEdge; rw [hfirst, Bool.true_or, Bool.true_or])
    · have hb := hrest b hb
      rw [Bool.or_eq_true, Bool.or_eq_true, beq_iff_eq, beq_iff_eq] at hb
      rcases hb with (hlabel | rfl) | rfl
      · exact isLabelChar_ascii hlabel
      · decide
      · decide

/-- The bytes before a position and those after it. -/
theorem isAsciiText_of_take_drop {s : String} (n : Nat) (htake : ∀ b ∈ (bytes s).take n, b.toNat < 128)
    (hdrop : ∀ b ∈ (bytes s).drop n, b.toNat < 128) : isAsciiText s = true := by
  refine isAsciiText_iff.mpr fun b hb => ?_
  rw [← List.take_append_drop n (bytes s)] at hb
  exact (List.mem_append.mp hb).elim (htake b) (hdrop b)

theorem isWasmVersionId_ascii {s : String} (h : isWasmVersionId (bytes s) = true) : isAsciiText s = true := by
  unfold isWasmVersionId at h
  rw [Bool.and_eq_true] at h
  obtain ⟨hshape, hrest⟩ := h
  refine isAsciiText_of_take_drop 65 (matchesShape_ascii (fun p hp b hb => ?_) hshape) ?_
  · rcases List.mem_append.mp hp with hp | hp
    · rw [List.eq_of_mem_replicate hp] at hb
      exact isHexLower_ascii hb
    · rw [List.mem_singleton.mp hp, beq_iff_eq] at hb
      rw [hb]
      decide
  · cases hdrop : (bytes s).drop 65 with
    | nil => exact fun _ hb => nomatch hb
    | cons first rest =>
      rw [hdrop] at hrest
      simp only [Bool.and_eq_true, List.all_eq_true] at hrest
      intro b hb
      rcases List.mem_cons.mp hb with rfl | hb
      · exact isDecimalDigit_ascii hrest.1.1.1
      · exact isDecimalDigit_ascii (hrest.2 b hb)

namespace HostLogging

theorem timestampShape_ascii : ∀ p ∈ timestampShape, ∀ b, p b = true → b.toNat < 128 := by
  have hdigits : ∀ n, ∀ p ∈ List.replicate n isDecimalDigit, ∀ b, p b = true → b.toNat < 128 := by
    intro n p hp b hb
    rw [List.eq_of_mem_replicate hp] at hb
    exact isDecimalDigit_ascii hb
  have hliteral : ∀ c : Char, (ascii c).toNat < 128 → ∀ p ∈ [fun b => b == ascii c], ∀ b, p b = true →
      b.toNat < 128 := by
    intro c hc p hp b hb
    rw [List.mem_singleton.mp hp, beq_iff_eq] at hb
    rw [hb]
    exact hc
  intro p hp
  unfold timestampShape at hp
  simp only [List.mem_append] at hp
  rcases hp with (((((((((hp | hp) | hp) | hp) | hp) | hp) | hp) | hp) | hp) | hp) | hp
  · exact hdigits 4 p hp
  · exact hliteral '-' (by decide) p hp
  · exact hdigits 2 p hp
  · exact hliteral '-' (by decide) p hp
  · exact hdigits 2 p hp
  · exact hliteral 'T' (by decide) p hp
  · exact hdigits 2 p hp
  · exact hliteral ':' (by decide) p hp
  · exact hdigits 2 p hp
  · exact hliteral ':' (by decide) p hp
  · exact hdigits 2 p hp

theorem isLogTimestamp_ascii {s : String} (h : isLogTimestamp s = true) : isAsciiText s = true := by
  unfold isLogTimestamp at h
  rw [Bool.and_eq_true] at h
  obtain ⟨hshape, hrest⟩ := h
  refine isAsciiText_of_take_drop 19 (matchesShape_ascii timestampShape_ascii hshape) ?_
  cases hdrop : (bytes s).drop 19 with
  | nil => exact fun _ hb => nomatch hb
  | cons first rest =>
    rw [hdrop] at hrest
    simp only [Bool.or_eq_true, Bool.and_eq_true, beq_iff_eq] at hrest
    rcases hrest with ⟨hfirst, hnil⟩ | ⟨⟨⟨hfirst, -⟩, -⟩, htail⟩
    · rw [hfirst, List.isEmpty_iff.mp hnil]
      intro b hb
      rw [List.mem_singleton.mp hb]
      decide
    · intro b hb
      rcases List.mem_cons.mp hb with rfl | hb
      · rw [hfirst]
        decide
      · have htake : rest.take (rest.takeWhile isDecimalDigit).length = rest.takeWhile isDecimalDigit :=
          (List.prefix_iff_eq_take.mp (List.takeWhile_prefix _)).symm
        rw [← List.take_append_drop (rest.takeWhile isDecimalDigit).length rest, htake, htail] at hb
        rcases List.mem_append.mp hb with hdigit | hlast
        · exact isDecimalDigit_ascii (List.all_eq_true.mp List.all_takeWhile b hdigit)
        · rw [List.mem_singleton.mp hlast]
          decide

/-! ## Canonical JSON -/

theorem validateJcsDomain_ofNat (n : Nat) : validateJcsDomain (.ofNat n) = decide (n ≤ wasmU53Max) := by
  unfold Json.ofNat
  rw [validateJcsDomain, decide_eq_true (Int.natCast_nonneg n), Bool.true_and, decide_eq_decide]
  exact Int.ofNat_le

theorem validateJcsItems_eq_true {items : List Json} :
    validateJcsItems items = true ↔ ∀ item ∈ items, validateJcsDomain item = true := by
  induction items with
  | nil =>
    rw [validateJcsItems]
    exact ⟨fun _ _ hitem => (nomatch hitem), fun _ => rfl⟩
  | cons item items ih => rw [validateJcsItems, Bool.and_eq_true, ih, List.forall_mem_cons]

/-- A member with an ASCII key. -/
theorem validateJcsMembers_cons {key : String} {member : Json} {members : List (String × Json)}
    (hkey : isAsciiText key = true) : validateJcsMembers ((key, member) :: members) = true ↔
      validateJcsDomain member = true ∧ validateJcsMembers members = true := by
  rw [validateJcsMembers, hkey, Bool.true_and, Bool.and_eq_true]

theorem validateJcsMembers_nil : validateJcsMembers [] = true := by rw [validateJcsMembers]

theorem validateJcsDomain_string (text : String) : validateJcsDomain (.string text) = isAsciiText text := by
  rw [validateJcsDomain]

theorem validateJcsDomain_field {field : LoggingField} : validateJcsDomain field.toWire = true ↔
    isAsciiText field.key = true ∧ isAsciiText field.value = true := by
  unfold LoggingField.toWire
  rw [validateJcsDomain, validateJcsMembers_cons (by decide), validateJcsMembers_cons (by decide),
    validateJcsDomain_string, validateJcsDomain_string]
  exact ⟨fun h => ⟨h.1, h.2.1⟩, fun h => ⟨h.1, h.2, validateJcsMembers_nil⟩⟩

theorem LogLevel.asStr_ascii (level : LogLevel) : isAsciiText level.asStr = true := by
  cases level <;> decide

/-- A record has canonical bytes if its numbers are in range and its texts are ASCII. -/
theorem validateJcsDomain_record {record : RetainedLogRecord} : validateJcsDomain record.toWire = true ↔
    (record.eventId ≤ wasmU53Max ∧ record.preparationGeneration ≤ wasmU53Max ∧
      record.executionGeneration ≤ wasmU53Max) ∧
    (isAsciiText record.timestampUtc = true ∧ isAsciiText record.applicationId = true ∧
      isAsciiText record.versionId = true) ∧
    isAsciiText record.message = true ∧
      ∀ field ∈ record.fields, isAsciiText field.key = true ∧ isAsciiText field.value = true := by
  unfold RetainedLogRecord.toWire
  rw [validateJcsDomain]
  iterate 9 rw [validateJcsMembers_cons (by decide)]
  have hfields : validateJcsItems (record.fields.map LoggingField.toWire) = true ↔
      ∀ field ∈ record.fields, isAsciiText field.key = true ∧ isAsciiText field.value = true := by
    rw [validateJcsItems_eq_true, List.forall_mem_map]
    exact forall₂_congr fun _ _ => validateJcsDomain_field
  rw [validateJcsDomain_ofNat, validateJcsDomain_ofNat, validateJcsDomain_ofNat, validateJcsDomain_string,
    validateJcsDomain_string, validateJcsDomain_string, validateJcsDomain_string, validateJcsDomain_string,
    validateJcsDomain, hfields, decide_eq_true_eq, decide_eq_true_eq, decide_eq_true_eq]
  constructor
  · rintro ⟨hid, htime, happ, hversion, hprep, hexec, -, hmessage, hfields, -⟩
    exact ⟨⟨hid, hprep, hexec⟩, ⟨htime, happ, hversion⟩, hmessage, hfields⟩
  · rintro ⟨⟨hid, hprep, hexec⟩, ⟨htime, happ, hversion⟩, hmessage, hfields⟩
    exact ⟨hid, htime, happ, hversion, hprep, hexec, LogLevel.asStr_ascii _, hmessage, hfields,
      validateJcsMembers_nil⟩

theorem validateJcsDomain_response {response : DrainResponse} : validateJcsDomain response.toWire = true ↔
    isAsciiText response.applicationId = true ∧
      (∀ record ∈ response.events, validateJcsDomain record.toWire = true) ∧
      response.droppedCount ≤ wasmU53Max ∧ response.lastEventId ≤ wasmU53Max := by
  unfold DrainResponse.toWire
  rw [validateJcsDomain]
  iterate 6 rw [validateJcsMembers_cons (by decide)]
  have hevents : validateJcsDomain (.array (response.events.map RetainedLogRecord.toWire)) = true ↔
      ∀ record ∈ response.events, validateJcsDomain record.toWire = true := by
    rw [validateJcsDomain, validateJcsItems_eq_true, List.forall_mem_map]
  have hbool : validateJcsDomain (.bool response.hasMore) = true := by rw [validateJcsDomain]
  have hone : validateJcsDomain (.ofNat 1) = true := by decide
  rw [validateJcsDomain_ofNat response.droppedCount, validateJcsDomain_ofNat response.lastEventId,
    validateJcsDomain_string, hevents, decide_eq_true_eq, decide_eq_true_eq]
  constructor
  · rintro ⟨-, happ, hevents, hdropped, -, hlast, -⟩
    exact ⟨happ, hevents, hdropped, hlast⟩
  · rintro ⟨happ, hevents, hdropped, hlast⟩
    exact ⟨hone, happ, hevents, hdropped, hbool, hlast, validateJcsMembers_nil⟩

theorem validateJcsDomain_summary {summary : MonitorSummary} : validateJcsDomain summary.toWire = true ↔
    isAsciiText summary.applicationId = true ∧ summary.retainedEvents ≤ wasmU53Max ∧
      summary.retainedBytes ≤ wasmU53Max ∧ summary.droppedCount ≤ wasmU53Max ∧ summary.lastEventId ≤ wasmU53Max ∧
      summary.capacity.maxEvents ≤ wasmU53Max ∧ summary.capacity.maxBytes ≤ wasmU53Max := by
  unfold MonitorSummary.toWire
  rw [validateJcsDomain]
  iterate 6 rw [validateJcsMembers_cons (by decide)]
  rw [validateJcsDomain_string, validateJcsDomain_ofNat, validateJcsDomain_ofNat, validateJcsDomain_ofNat,
    validateJcsDomain_ofNat, validateJcsDomain, validateJcsMembers_cons (by decide),
    validateJcsMembers_cons (by decide), validateJcsDomain_ofNat, validateJcsDomain_ofNat]
  simp only [decide_eq_true_eq, validateJcsMembers_nil, and_true]

/-! ## The check of an event -/

/-- The redacted fields of a valid event are fields of a valid event. -/
theorem validateLoggingFields_redacted {seen : List String} {fields : List LoggingField}
    (h : validateLoggingFields seen fields = .ok ()) :
    validateLoggingFields seen (redactLoggingFields fields) = .ok () := by
  induction fields generalizing seen with
  | nil => exact h
  | cons field fields ih =>
    show validateLoggingFields seen (redactLoggingField field :: redactLoggingFields fields) = .ok ()
    unfold validateLoggingFields at h ⊢
    rw [redactLoggingField_key]
    by_cases hkey : (!isValidFieldKey field.key) = true
    · rw [if_pos hkey] at h
      cases h
    · rw [if_neg hkey] at h ⊢
      by_cases hseen : seen.contains field.key = true
      · rw [if_pos hseen] at h
        cases h
      · rw [if_neg hseen] at h ⊢
        by_cases hvalue : logFieldValueMaxBytes < byteLength field.value
        · rw [if_pos hvalue] at h
          cases h
        · rw [if_neg hvalue] at h
          have hredacted : ¬ logFieldValueMaxBytes < byteLength (redactLoggingField field).value := by
            unfold redactLoggingField
            split
            · show ¬ logFieldValueMaxBytes < byteLength logRedactedValue
              decide
            · exact hvalue
          rw [if_neg hredacted]
          exact ih h

theorem validateLoggingFields_key {seen : List String} {fields : List LoggingField}
    (h : validateLoggingFields seen fields = .ok ()) : ∀ field ∈ fields, isValidFieldKey field.key = true := by
  induction fields generalizing seen with
  | nil => exact fun _ hfield => nomatch hfield
  | cons field fields ih =>
    unfold validateLoggingFields at h
    split at h
    · cases h
    · rename_i hkey
      split at h
      · cases h
      · split at h
        · cases h
        · rw [Bool.not_eq_true, Bool.not_eq_false'] at hkey
          exact List.forall_mem_cons.mpr ⟨hkey, ih h⟩

/-- The fields the ring takes are those the owner takes. -/
theorem validateEventFields_wire {fields : List LoggingField} {seen : List String} (index : Nat)
    (h : validateLoggingFields seen fields = .ok ()) :
    validateEventFields index seen (fields.map LoggingField.toWire) = ([], fields) := by
  induction fields generalizing seen index with
  | nil => rfl
  | cons field fields ih =>
    unfold validateLoggingFields at h
    by_cases hkey : (!isValidFieldKey field.key) = true
    · rw [if_pos hkey] at h
      cases h
    · rw [if_neg hkey] at h
      by_cases hseen : seen.contains field.key = true
      · rw [if_pos hseen] at h
        cases h
      · rw [if_neg hseen] at h
        by_cases hvalue : logFieldValueMaxBytes < byteLength field.value
        · rw [if_pos hvalue] at h
          cases h
        · rw [if_neg hvalue] at h
          have hwire : field.toWire = .object [("key", .string field.key), ("value", .string field.value)] := rfl
          rw [List.map_cons, hwire, validateEventFields]
          have hname : (Json.field [("key", Json.string field.key), ("value", Json.string field.value)]
              "key").asStr.filter isValidFieldKey = some field.key := by
            rw [Bool.not_eq_true', Bool.not_eq_false] at hkey
            exact Option.filter_some_pos hkey
          have htext : (Json.field [("key", Json.string field.key), ("value", Json.string field.value)]
              "value").asStr = some field.value := rfl
          dsimp only
          rw [hname]
          dsimp only
          rw [if_neg hseen, htext, ih (index + 1) h]
          dsimp only
          rw [if_neg hvalue]
          rfl

theorem levelOf_asStr (level : LogLevel) : levelOf level.asStr = some level := by
  cases level <;> decide

theorem issueUnless_true {ok : Bool} {path message : String} (h : ok = true) : issueUnless ok path message = [] :=
  if_pos h

/-- An event the ring takes passes the check of the owner. -/
theorem validateEvent_wire {level : LogLevel} {message : String} {fields : List LoggingField}
    (hmessage : byteLength message ≤ logMessageMaxBytes) (hcount : fields.length ≤ logFieldsMax)
    (hfields : validateLoggingFields [] fields = .ok ()) :
    validateEvent level.asStr message (fields.map LoggingField.toWire) = .ok ⟨level, message, fields⟩ := by
  unfold validateEvent
  dsimp only
  rw [validateEventFields_wire 0 hfields, levelOf_asStr, Option.isSome_some,
    issueUnless_true rfl, issueUnless_true (decide_eq_true hmessage), List.length_map, issueUnless_true (decide_eq_true hcount)]
  rfl

theorem requireWireU53_ofNat {n minimum : Nat} (path : String) (hmin : minimum ≤ n) (hmax : n ≤ wasmU53Max) :
    requireWireU53 (.ofNat n) path minimum = ([], some n) := by
  unfold requireWireU53 Json.ofNat
  exact if_pos ⟨Int.ofNat_le.mpr hmin, Int.ofNat_le.mpr hmax⟩

/-! ## The check of a record -/

/-- A record that a ring took in an execution. -/
structure TakenBy (identity : LoggingIdentity) (record : RetainedLogRecord) : Prop where
  applicationId : record.applicationId = identity.applicationId
  versionId : record.versionId = identity.versionId
  preparation : record.preparationGeneration = identity.preparationGeneration
  execution : record.executionGeneration = identity.executionGeneration
  message : byteLength record.message ≤ logMessageMaxBytes
  count : record.fields.length ≤ logFieldsMax
  fields : validateLoggingFields [] record.fields = .ok ()
  redacted : redactLoggingFields record.fields = record.fields

/-- The members of the wire of a record. -/
structure WireOf (record : RetainedLogRecord) (members : List (String × Json)) : Prop where
  keys : ∀ path what, keyIssues members retainedRecordKeys path what = []
  eventId : Json.field members "eventId" = .ofNat record.eventId
  timestampUtc : (Json.field members "timestampUtc").asStr = some record.timestampUtc
  applicationId : (Json.field members "applicationId").asStr = some record.applicationId
  versionId : (Json.field members "versionId").asStr = some record.versionId
  preparation : Json.field members "preparationGeneration" = .ofNat record.preparationGeneration
  execution : Json.field members "executionGeneration" = .ofNat record.executionGeneration
  event : recordEvent members =
    validateEvent record.level.asStr record.message (record.fields.map LoggingField.toWire)

theorem wireOf (record : RetainedLogRecord) :
    ∃ members, record.toWire = .object members ∧ WireOf record members :=
  ⟨_, rfl, fun _ _ => rfl, rfl, rfl, rfl, rfl, rfl, rfl, rfl⟩

section Record

variable {identity : LoggingIdentity} {record : RetainedLogRecord} {members : List (String × Json)}

theorem WireOf.event_ok (h : WireOf record members) (htaken : TakenBy identity record) :
    recordEvent members = .ok ⟨record.level, record.message, record.fields⟩ := by
  rw [h.event, validateEvent_wire htaken.message htaken.count htaken.fields]

/-- A record that was taken has no problem but that of its timestamp. -/
theorem WireOf.issues (h : WireOf record members) (htaken : TakenBy identity record) (hpos : 1 ≤ record.eventId)
    (hmax : record.eventId ≤ wasmU53Max) (path : String) : retainedRecordIssues path members =
      issueUnless (isLogTimestamp record.timestampUtc) (path ++ "/timestampUtc")
        "timestampUtc must be an ISO-8601 UTC instant with a Z suffix" := by
  unfold retainedRecordIssues
  have hprep : record.preparationGeneration ≤ wasmU53Max := htaken.preparation ▸ identity.preparationGeneration_le
  have hexec : record.executionGeneration ≤ wasmU53Max := htaken.execution ▸ identity.executionGeneration_le
  have happ : isOpaqueId record.applicationId = true := htaken.applicationId ▸ identity.applicationId_valid
  rw [h.event_ok htaken, h.keys, h.eventId, h.timestampUtc, h.applicationId, h.versionId, h.preparation, h.execution,
    requireWireU53_ofNat _ hpos hmax, requireWireU53_ofNat _ (Nat.zero_le _) hprep,
    requireWireU53_ofNat _ (Nat.zero_le _) hexec]
  dsimp only [Option.any_some]
  rw [issueUnless_true happ, Option.isSome_some, issueUnless_true rfl]
  simp only [List.nil_append, List.append_nil]

theorem WireOf.value (h : WireOf record members) (htaken : TakenBy identity record) (hpos : 1 ≤ record.eventId)
    (hmax : record.eventId ≤ wasmU53Max) : retainedRecordOf members = some record.owner := by
  unfold retainedRecordOf
  have hprep : record.preparationGeneration ≤ wasmU53Max := htaken.preparation ▸ identity.preparationGeneration_le
  have hexec : record.executionGeneration ≤ wasmU53Max := htaken.execution ▸ identity.executionGeneration_le
  rw [h.event_ok htaken, h.eventId, h.timestampUtc, h.applicationId, h.versionId, h.preparation, h.execution,
    requireWireU53_ofNat _ hpos hmax, requireWireU53_ofNat _ (Nat.zero_le _) hprep,
    requireWireU53_ofNat _ (Nat.zero_le _) hexec]
  rfl

/-- A record with a timestamp of the wire is taken as it is. -/
theorem validateRetainedRecord_ok (htaken : TakenBy identity record) (hpos : 1 ≤ record.eventId)
    (hmax : record.eventId ≤ wasmU53Max) (htime : isLogTimestamp record.timestampUtc = true) (path : String) :
    validateRetainedRecord [] path record.toWire = ([], some record.owner) := by
  obtain ⟨members, hwire, h⟩ := wireOf record
  rw [hwire, validateRetainedRecord, h.issues htaken hpos hmax, issueUnless_true htime, h.value htaken hpos hmax]
  exact if_neg (not_not.mpr htaken.redacted)

/-- Problems found before are kept. -/
theorem validateRetainedRecord_of_before {before : List WireIssue} (hbefore : before ≠ []) (path : String)
    (input : Json) : (validateRetainedRecord before path input).1 ≠ [] := by
  unfold validateRetainedRecord
  split
  · split
    · rename_i hnil _
      exact absurd (List.append_eq_nil_iff.mp hnil).1 hbefore
    · exact fun hnil => hbefore (List.append_eq_nil_iff.mp hnil).1
  · exact fun hnil => hbefore (List.append_eq_nil_iff.mp hnil).1

/-- A record with another timestamp is not taken. -/
theorem validateRetainedRecord_timestamp (before : List WireIssue) (path : String)
    (htime : isLogTimestamp record.timestampUtc = false) :
    (validateRetainedRecord before path record.toWire).1 ≠ [] := by
  obtain ⟨members, hwire, h⟩ := wireOf record
  have hissues : retainedRecordIssues path members ≠ [] := by
    unfold retainedRecordIssues
    dsimp only
    rw [h.timestampUtc, Option.any_some, htime]
    simp [issueUnless]
  rw [hwire, validateRetainedRecord]
  split
  · rename_i hnil _
    exact absurd (List.append_eq_nil_iff.mp hnil).2 hissues
  · exact fun hnil => hissues (List.append_eq_nil_iff.mp hnil).2

end Record

/-! ## The check of an answer -/

section Records

variable {identity : LoggingIdentity} {request : LoggingDrainRequestWireV1} {records : List RetainedLogRecord}

theorem validateRecords_of_before {before : List WireIssue} (hbefore : before ≠ []) (index previous : Nat)
    (inputs : List Json) : (validateRecords request index previous before inputs).1 ≠ [] := by
  induction inputs generalizing before index previous with
  | nil => exact hbefore
  | cons input inputs ih =>
    unfold validateRecords
    have hkept := validateRetainedRecord_of_before hbefore ("/events/" ++ toString index) input
    dsimp only
    cases hresult : validateRetainedRecord before ("/events/" ++ toString index) input with
    | mk issues record =>
      rw [hresult] at hkept
      cases record with
      | none => exact ih hkept _ _
      | some record =>
        dsimp only
        split
        · exact ih (List.append_ne_nil_of_left_ne_nil hkept _) _ _
        · split
          · exact ih (List.append_ne_nil_of_left_ne_nil hkept _) _ _
          · split
            · exact ih (List.append_ne_nil_of_left_ne_nil hkept _) _ _
            · exact ih hkept _ _

/-- One record with another timestamp is enough for a problem. -/
theorem validateRecords_timestamp {record : RetainedLogRecord} (hrecord : record ∈ records)
    (htime : isLogTimestamp record.timestampUtc = false) (before : List WireIssue) (index previous : Nat) :
    (validateRecords request index previous before (records.map RetainedLogRecord.toWire)).1 ≠ [] := by
  induction records generalizing before index previous with
  | nil => exact nomatch hrecord
  | cons first records ih =>
    rw [List.map_cons]
    unfold validateRecords
    dsimp only
    rcases List.mem_cons.mp hrecord with rfl | hrecord
    · have hissues := validateRetainedRecord_timestamp before ("/events/" ++ toString index) htime
      cases hresult : validateRetainedRecord before ("/events/" ++ toString index) record.toWire with
      | mk issues value =>
        rw [hresult] at hissues
        cases value with
        | none => exact validateRecords_of_before hissues _ _ _
        | some value =>
          dsimp only
          split
          · exact validateRecords_of_before (List.append_ne_nil_of_left_ne_nil hissues _) _ _ _
          · split
            · exact validateRecords_of_before (List.append_ne_nil_of_left_ne_nil hissues _) _ _ _
            · split
              · exact validateRecords_of_before (List.append_ne_nil_of_left_ne_nil hissues _) _ _ _
              · exact validateRecords_of_before hissues _ _ _
    · cases validateRetainedRecord before ("/events/" ++ toString index) first.toWire with
      | mk issues value =>
        cases value with
        | none => exact ih hrecord _ _ _
        | some value =>
          dsimp only
          split
          · exact ih hrecord _ _ _
          · split
            · exact ih hrecord _ _ _
            · split
              · exact ih hrecord _ _ _
              · exact ih hrecord _ _ _

/-- Records with consecutive ids are taken as they are. -/
theorem validateRecords_ok {first previous : Nat} (index : Nat) (htaken : ∀ record ∈ records, TakenBy identity record)
    (htime : ∀ record ∈ records, isLogTimestamp record.timestampUtc = true)
    (hids : records.map RetainedLogRecord.eventId = List.range' first records.length)
    (hmax : ∀ record ∈ records, record.eventId ≤ wasmU53Max) (hprevious : previous < first)
    (hafter : request.afterEventId < first) (happ : request.applicationId = identity.applicationId) :
    validateRecords request index previous [] (records.map RetainedLogRecord.toWire) =
      ([], records.map RetainedLogRecord.owner) := by
  induction records generalizing index first previous with
  | nil => rfl
  | cons record records ih =>
    rw [List.map_cons, List.length_cons, List.range'_succ] at hids
    obtain ⟨hid, hids⟩ := List.cons.inj hids
    obtain ⟨hrecord, htaken⟩ := List.forall_mem_cons.mp htaken
    obtain ⟨hstamp, htime⟩ := List.forall_mem_cons.mp htime
    obtain ⟨hbound, hmax⟩ := List.forall_mem_cons.mp hmax
    have hsame : record.owner.applicationId = request.applicationId := by
      rw [happ]
      exact hrecord.applicationId
    have hown : record.owner.eventId = first := hid
    rw [List.map_cons, validateRecords]
    dsimp only
    rw [validateRetainedRecord_ok hrecord (by omega) hbound hstamp]
    dsimp only
    rw [if_neg (not_not.mpr hsame), if_neg (by omega), if_neg (by omega),
      ih (index + 1) htaken htime hids hmax (by omega) (by omega)]
    rfl

/-- The members of the wire of an answer. -/
structure ResponseWire (response : DrainResponse) (members : List (String × Json)) : Prop where
  keys : keyIssues members drainResponseKeys "" "a drain response" = []
  schemaVersion : Json.field members "schemaVersion" = .integer 1
  applicationId : (Json.field members "applicationId").asStr = some response.applicationId
  events : Json.field members "events" = .array (response.events.map RetainedLogRecord.toWire)
  droppedCount : Json.field members "droppedCount" = .ofNat response.droppedCount
  hasMore : Json.field members "hasMore" = .bool response.hasMore
  lastEventId : Json.field members "lastEventId" = .ofNat response.lastEventId

theorem responseWire (response : DrainResponse) :
    ∃ members, response.toWire = .object members ∧ ResponseWire response members :=
  ⟨_, rfl, rfl, rfl, rfl, rfl, rfl, rfl, rfl⟩

/-- An answer with records of the wire is taken as it is. -/
theorem validateDrainResponse_ok {response : DrainResponse} {first : Nat}
    (happ : response.applicationId = identity.applicationId) (hrequest : request.applicationId = identity.applicationId)
    (htaken : ∀ record ∈ response.events, TakenBy identity record)
    (htime : ∀ record ∈ response.events, isLogTimestamp record.timestampUtc = true)
    (hids : response.events.map RetainedLogRecord.eventId = List.range' first response.events.length)
    (hafter : request.afterEventId < first) (hcount : response.events.length ≤ request.maxEvents)
    (hlast : ∀ record ∈ response.events, record.eventId ≤ response.lastEventId)
    (hdropped : response.droppedCount ≤ wasmU53Max) (hmax : response.lastEventId ≤ wasmU53Max) :
    validateDrainResponse response.toWire request = .ok response.owner := by
  obtain ⟨members, hwire, h⟩ := responseWire response
  have hbound : ∀ record ∈ response.events, record.eventId ≤ wasmU53Max :=
    fun record hrecord => Nat.le_trans (hlast record hrecord) hmax
  have hrecords : validateRecords request 0 0 [] (response.events.map RetainedLogRecord.toWire) =
      ([], response.events.map RetainedLogRecord.owner) :=
    validateRecords_ok 0 htaken htime hids hbound (by omega) hafter hrequest
  have hprecedes : lastPrecedes (some response.lastEventId) (response.events.map RetainedLogRecord.owner) = false := by
    unfold lastPrecedes
    rw [List.getLast?_map]
    cases hget : response.events.getLast? with
    | none => rfl
    | some record => exact decide_eq_false (Nat.not_lt.mpr (hlast record (List.mem_of_getLast? hget)))
  rw [hwire, validateDrainResponse]
  dsimp only
  rw [h.keys, h.schemaVersion, h.applicationId, h.events, h.droppedCount, h.hasMore, h.lastEventId,
    requireWireU53_ofNat _ (Nat.zero_le _) hdropped, requireWireU53_ofNat _ (Nat.zero_le _) hmax]
  dsimp only
  rw [issueUnless_true (by rfl), happ, hrequest, issueUnless_true (by simp), Option.isSome_some, issueUnless_true rfl,
    List.length_map, issueUnless_true (decide_eq_true hcount)]
  simp only [List.append_nil]
  rw [hrecords]
  dsimp only
  rw [hprecedes]
  unfold DrainResponse.owner
  rw [happ]
  rfl

/-- An answer that is taken has only records with a timestamp of the wire. -/
theorem validateDrainResponse_timestamps {response : DrainResponse} {taken : IwebLoggingDrainResponseV1}
    (h : validateDrainResponse response.toWire request = .ok taken) :
    ∀ record ∈ response.events, isLogTimestamp record.timestampUtc = true := by
  intro record hrecord
  cases htime : isLogTimestamp record.timestampUtc with
  | true => rfl
  | false =>
    obtain ⟨members, hwire, hmembers⟩ := responseWire response
    rw [hwire, validateDrainResponse] at h
    dsimp only at h
    rw [hmembers.events] at h
    dsimp only at h
    split at h
    · rename_i hnil _ _ _
      exact absurd (List.append_eq_nil_iff.mp hnil).1 (validateRecords_timestamp hrecord htime _ 0 0)
    · cases h

end Records

/-- The members of the wire of a summary. -/
structure SummaryWire (summary : MonitorSummary) (members : List (String × Json)) : Prop where
  keys : keyIssues members monitorSummaryKeys "" "a monitor summary" = []
  applicationId : (Json.field members "applicationId").asStr = some summary.applicationId
  retainedEvents : Json.field members "retainedEvents" = .ofNat summary.retainedEvents
  retainedBytes : Json.field members "retainedBytes" = .ofNat summary.retainedBytes
  droppedCount : Json.field members "droppedCount" = .ofNat summary.droppedCount
  lastEventId : Json.field members "lastEventId" = .ofNat summary.lastEventId
  capacity : Json.field members "capacity" = .object [("maxEvents", .ofNat summary.capacity.maxEvents),
    ("maxBytes", .ofNat summary.capacity.maxBytes)]

theorem summaryWire (summary : MonitorSummary) :
    ∃ members, summary.toWire = .object members ∧ SummaryWire summary members :=
  ⟨_, rfl, rfl, rfl, rfl, rfl, rfl, rfl, rfl⟩

/-- A summary with numbers in range is taken as it is. -/
theorem validateMonitorSummary_ok {summary : MonitorSummary} (hevents : summary.retainedEvents ≤ wasmU53Max)
    (hbytes : summary.retainedBytes ≤ wasmU53Max) (hdropped : summary.droppedCount ≤ wasmU53Max)
    (hlast : summary.lastEventId ≤ wasmU53Max) :
    validateMonitorSummary summary.toWire summary.applicationId = .ok summary.owner := by
  obtain ⟨members, hwire, h⟩ := summaryWire summary
  rw [hwire, validateMonitorSummary, h.keys, h.applicationId, h.retainedEvents, h.retainedBytes, h.droppedCount, h.lastEventId, h.capacity,
    requireWireU53_ofNat _ (Nat.zero_le _) hevents, requireWireU53_ofNat _ (Nat.zero_le _) hbytes,
    requireWireU53_ofNat _ (Nat.zero_le _) hdropped, requireWireU53_ofNat _ (Nat.zero_le _) hlast,
    issueUnless_true (by simp)]
  rfl

/-! ## The ring of an execution -/

section Ring

variable {identity : LoggingIdentity} {capacity : RingCapacity} {ring : LoggingRing}

/-- What an execution leaves in its ring. -/
structure RunBy (identity : LoggingIdentity) (capacity : RingCapacity) (ring : LoggingRing) : Prop where
  applicationId : ring.applicationId = identity.applicationId
  capacity : ring.capacity = capacity
  taken : ∀ record ∈ ring.events, TakenBy identity record

/-- The record of a valid event of the execution. -/
theorem recordOf_taken {w : ExecutionWrite} {host : LoggingHostContext} (eventId : Nat)
    (hhost : host = ⟨identity.applicationId, identity.versionId, identity.preparationGeneration,
      identity.executionGeneration, w.timestampUtc, w.operationId⟩)
    (h : validateLoggingEvent w.event logMessageMaxBytes = .ok ()) :
    TakenBy identity (LoggingRing.recordOf host w.event eventId) := by
  subst hhost
  unfold validateLoggingEvent at h
  by_cases hmessage : (decide (logMessageMaxBytes < byteLength w.event.message) ||
      decide (logMessageMaxBytes < byteLength w.event.message)) = true
  · rw [if_pos hmessage] at h
    cases h
  · rw [if_neg hmessage] at h
    by_cases hcount : logFieldsMax < w.event.fields.length
    · rw [if_pos hcount] at h
      cases h
    · rw [if_neg hcount] at h
      rw [Bool.or_self, decide_eq_true_eq] at hmessage
      refine ⟨rfl, rfl, rfl, rfl, Nat.le_of_not_lt hmessage, ?_, validateLoggingFields_redacted h,
        redactLoggingFields_idempotent _⟩
      show (redactLoggingFields w.event.fields).length ≤ logFieldsMax
      unfold redactLoggingFields
      rw [List.length_map]
      omega

theorem RunBy.write (h : RunBy identity capacity ring) (w : ExecutionWrite) :
    RunBy identity capacity (ring.step (identity.call w)) := by
  have hwritten := ring.written ⟨⟨identity.applicationId, identity.versionId, identity.preparationGeneration,
    identity.executionGeneration, w.timestampUtc, w.operationId⟩, w.event, w.maxEventBytes⟩
  unfold LoggingIdentity.call
  generalize ring.step _ = ring' at hwritten ⊢
  cases hwritten with
  | rejected => exact h
  | dropped => exact ⟨h.applicationId, h.capacity, h.taken⟩
  | accepted hfits =>
    refine ⟨h.applicationId, h.capacity, fun record hrecord => ?_⟩
    rcases List.mem_append.mp hrecord with hold | hnew
    · exact h.taken record hold
    · rw [List.mem_singleton.mp hnew]
      refine recordOf_taken _ rfl ?_
      unfold LoggingWrite.fits at hfits
      rw [Bool.and_eq_true, Bool.and_eq_true] at hfits
      cases hvalid : validateLoggingEvent w.event logMessageMaxBytes with
      | ok value => rfl
      | error failure =>
        have hsome := hfits.1.2
        dsimp only at hsome
        rw [hvalid] at hsome
        cases hsome

theorem runBy_ring (identity : LoggingIdentity) (capacity : RingCapacity) (writes : List ExecutionWrite) :
    RunBy identity capacity (identity.ring capacity writes) := by
  have hrun : ∀ ring, RunBy identity capacity ring →
      RunBy identity capacity (run LoggingRing.step ring (writes.map identity.call)) := by
    induction writes with
    | nil => exact fun _ h => h
    | cons w writes ih => exact fun ring h => ih _ (h.write w)
  exact hrun _ ⟨rfl, rfl, fun _ hrecord => nomatch hrecord⟩

/-- The ring of an execution is sound. -/
theorem sound_ring (identity : LoggingIdentity) (capacity : RingCapacity) (writes : List ExecutionWrite) :
    ∃ offered, (identity.ring capacity writes).Sound offered :=
  ⟨_, (LoggingRing.sound_fresh identity.applicationId capacity).run (writes.map identity.call)⟩

/-- The ids of a page are consecutive, and none is beyond the last one. -/
theorem page_ids {offered : List LoggingWrite} (h : ring.Sound offered) (after maxEvents : Nat) :
    (ring.page after maxEvents).map RetainedLogRecord.eventId =
      List.range' (after + 1) (ring.page after maxEvents).length := by
  have hids := h.ids
  have hpage : ring.page after maxEvents = (ring.events.drop after).take maxEvents := by
    unfold LoggingRing.page
    rw [LoggingRing.Numbered.after hids]
  rw [hpage, List.map_take, List.map_drop, hids, List.drop_range', List.length_take, List.length_drop, Nat.mul_one,
    Nat.add_comm 1 after]
  by_cases hall : ring.events.length - after ≤ maxEvents
  · rw [List.take_range'_of_length_le hall, Nat.min_eq_right hall]
  · rw [List.take_range'_of_length_ge (by omega), Nat.min_eq_left (by omega)]

theorem page_subset {record : RetainedLogRecord} {after maxEvents : Nat} (h : record ∈ ring.page after maxEvents) :
    record ∈ ring.events :=
  (List.mem_filter.mp (List.mem_of_mem_take h)).1

/-- The id of a record is at most the number of records. -/
theorem eventId_le {offered : List LoggingWrite} (h : ring.Sound offered) {record : RetainedLogRecord}
    (hrecord : record ∈ ring.events) : record.eventId ≤ ring.events.length := by
  have hid : record.eventId ∈ ring.events.map RetainedLogRecord.eventId := List.mem_map_of_mem hrecord
  rw [h.ids] at hid
  have hlt := (List.mem_range'_1.mp hid).2
  omega

/-- The answer of the ring to its own application. -/
theorem drain_own {after maxEvents : Nat} (hmin : 1 ≤ maxEvents) (hmax : maxEvents ≤ drainMaxEvents) :
    ∃ hasMore, ring.drain ring.applicationId after maxEvents = .ok ⟨ring.applicationId, ring.page after maxEvents,
      ring.droppedCount, hasMore, ring.nextEventId - 1⟩ := by
  unfold LoggingRing.drain LoggingRing.page
  rw [if_neg (not_not.mpr rfl), if_neg (not_not.mpr ⟨hmin, hmax⟩)]
  let eligible := ring.events.filter fun record => after < record.eventId
  refine ⟨decide (min eligible.length maxEvents < eligible.length), ?_⟩
  have htake : eligible.take (min eligible.length maxEvents) = eligible.take maxEvents := by
    rw [Nat.min_comm, ← List.take_take, List.take_length]
  dsimp only
  rw [htake]

end Ring

/-! ## The endpoint -/

/-- An application id has no slash. -/
theorem slash_notMem {s : String} (h : isOpaqueId s = true) : '/' ∉ s.toList := by
  intro hslash
  have hascii : IsAscii s := fun b hb => Nat.le_of_lt_succ (isAsciiText_iff.mp (isOpaqueId_ascii h) b hb)
  rw [hascii.toList] at hslash
  obtain ⟨b, hb, hchar⟩ := List.mem_map.mp hslash
  unfold isOpaqueId at h
  simp only [Bool.and_eq_true, List.all_eq_true] at h
  have hlabel := h.1.1.2 b hb
  have hbyte : b = 47 := by
    rw [← ascii_ofUInt8 b, hchar]
    rfl
  rw [hbyte] at hlabel
  exact absurd hlabel (by decide)

/-- The application a path of an endpoint names. -/
theorem splitHostLoggingPath_append {s : String} (base : String) (h : isOpaqueId s = true) :
    splitHostLoggingPath (base ++ "/" ++ s) base = some s := by
  have hlist : (base ++ "/" ++ s).toList = (base.toList ++ ['/']) ++ s.toList := by
    rw [String.toList_append, String.toList_append]
    rfl
  have hempty : s.toList.isEmpty = false := by
    cases hs : s.toList with
    | cons _ _ => rfl
    | nil =>
      have hnil : s = "" := String.toList_inj.mp hs
      rw [hnil] at h
      exact absurd h (by decide)
  unfold splitHostLoggingPath
  dsimp only
  rw [hlist, List.isPrefixOf_iff_prefix.mpr (List.prefix_append _ _), List.drop_left, hempty]
  have hslash : s.toList.contains '/' = false := by
    rw [Bool.eq_false_iff, ne_eq, List.contains_iff_mem]
    exact slash_notMem h
  rw [hslash, String.ofList_toList]
  rfl

/-- A path of the drain is none of the summary. -/
theorem splitHostLoggingPath_summary (s : String) :
    splitHostLoggingPath (hostLoggingDrainPath ++ "/" ++ s) hostLoggingSummaryPath = none := by
  have hlist : (hostLoggingDrainPath ++ "/" ++ s).toList = hostLoggingDrainPath.toList ++ '/' :: s.toList := by
    rw [String.toList_append, String.toList_append, List.append_assoc]
    rfl
  unfold splitHostLoggingPath
  rw [hlist]
  rfl

/-- What a valid request for a drain says. -/
theorem validate_eq_ok {record : LoggingDrainRequestWireV1} (h : record.validate = .ok ()) :
    isOpaqueId record.applicationId = true ∧ 1 ≤ record.maxEvents ∧ record.maxEvents ≤ drainMaxEvents := by
  unfold LoggingDrainRequestWireV1.validate at h
  split at h
  · cases h
  · split at h
    · cases h
    · split at h
      · cases h
      · split at h
        · cases h
        · rename_i happ _ hmax
          rw [Bool.not_eq_true, Bool.not_eq_false'] at happ
          exact ⟨happ, not_not.mp hmax⟩

variable {ring : LoggingRing} {request : HostLoggingRequest} {token : String}

/-- The answer to a request for a drain. -/
theorem answerHostLogging_drain {record : LoggingDrainRequestWireV1} {drained : DrainResponse}
    (h : request.IsDrain token record)
    (hdrain : ring.drain record.applicationId record.afterEventId record.maxEvents = .ok drained) :
    answerHostLogging (some token) (some ring) request =
      ((jcsBytes drained.toWire).map fun payload => (⟨200, .wire payload⟩ : HostLoggingAnswer)).getD ⟨404, .empty⟩ := by
  obtain ⟨happ, -, -⟩ := validate_eq_ok h.valid
  have htoken : ¬ ((some token).isNone || decide (request.token ≠ some token)) = true := by
    rw [h.token]
    simp
  unfold answerHostLogging handleHostLogging
  rw [if_neg htoken, h.path, splitHostLoggingPath_summary, splitHostLoggingPath_append _ happ]
  unfold handleLoggingDrain
  dsimp only
  rw [h.method, if_neg (not_not.mpr rfl), happ, if_neg (by decide), if_neg (Nat.not_lt.mpr h.bodyLength), h.record]
  dsimp only
  rw [h.valid]
  dsimp only
  rw [if_neg (not_not.mpr rfl), hdrain]

/-- The answer to a request for a summary. -/
theorem answerHostLogging_summary (h : request.IsSummary token ring.applicationId)
    (happ : isOpaqueId ring.applicationId = true) :
    answerHostLogging (some token) (some ring) request =
      ((jcsBytes ring.monitorSummary.toWire).map fun payload =>
        (⟨200, .wire payload⟩ : HostLoggingAnswer)).getD ⟨404, .empty⟩ := by
  have htoken : ¬ ((some token).isNone || decide (request.token ≠ some token)) = true := by
    rw [h.token]
    simp
  unfold answerHostLogging handleHostLogging
  rw [if_neg htoken, h.path, splitHostLoggingPath_append _ happ]
  unfold handleLoggingSummary
  dsimp only
  rw [h.method, if_neg (not_not.mpr rfl), happ, if_neg (by decide)]
  exact congrArg (Option.getD · _) (if_neg (not_not.mpr rfl))

/-- An answer with a wire is one with canonical bytes. -/
theorem jcsBytes_answer {value body : Json} : ((jcsBytes value).map fun payload =>
    (⟨200, .wire payload⟩ : HostLoggingAnswer)).getD ⟨404, .empty⟩ = ⟨200, .wire body⟩ ↔
      validateJcsDomain value = true ∧ body = value := by
  unfold jcsBytes
  by_cases hdomain : validateJcsDomain value = true
  · rw [if_pos hdomain]
    constructor
    · intro hanswer
      cases hanswer
      exact ⟨hdomain, rfl⟩
    · rintro ⟨-, rfl⟩
      rfl
  · rw [if_neg hdomain]
    exact ⟨fun hanswer => (nomatch hanswer), fun h => absurd h.1 hdomain⟩

/-! ## The drains and summaries of an execution -/

section Delivery

variable {identity : LoggingIdentity} {capacity : RingCapacity} {record : LoggingDrainRequestWireV1}
  {offered : List LoggingWrite}

/-- A drain has canonical bytes if its texts are ASCII and its counters are in range. -/
theorem jcs_drained (h : RunBy identity capacity ring) (hsound : ring.Sound offered) {after maxEvents : Nat}
    {hasMore : Bool} : validateJcsDomain (DrainResponse.toWire ⟨ring.applicationId, ring.page after maxEvents,
        ring.droppedCount, hasMore, ring.nextEventId - 1⟩) = true ↔
      (∀ record ∈ ring.page after maxEvents, isAsciiText record.timestampUtc = true ∧
        isAsciiText record.message = true ∧ record.fields.all (fun field => isAsciiText field.value) = true) ∧
      ring.droppedCount ≤ wasmU53Max ∧ ring.events.length ≤ wasmU53Max := by
  have hlast : ring.nextEventId - 1 = ring.events.length := by
    rw [hsound.next]
    omega
  have happ : isAsciiText ring.applicationId = true := by
    rw [h.applicationId]
    exact isOpaqueId_ascii identity.applicationId_valid
  rw [validateJcsDomain_response]
  dsimp only
  rw [hlast]
  constructor
  · rintro ⟨-, hrecords, hdropped, hlength⟩
    refine ⟨fun record hrecord => ?_, hdropped, hlength⟩
    obtain ⟨-, ⟨htime, -, -⟩, hmessage, hfields⟩ := validateJcsDomain_record.mp (hrecords record hrecord)
    exact ⟨htime, hmessage, List.all_eq_true.mpr fun field hfield => (hfields field hfield).2⟩
  · rintro ⟨hrecords, hdropped, hlength⟩
    refine ⟨happ, fun record hrecord => validateJcsDomain_record.mpr ?_, hdropped, hlength⟩
    obtain ⟨htime, hmessage, hfields⟩ := hrecords record hrecord
    have htaken := h.taken record (page_subset hrecord)
    have hid := eventId_le hsound (page_subset hrecord)
    refine ⟨⟨by omega, ?_, ?_⟩, ⟨htime, ?_, ?_⟩, hmessage, fun field hfield => ⟨?_, ?_⟩⟩
    · exact htaken.preparation ▸ identity.preparationGeneration_le
    · exact htaken.execution ▸ identity.executionGeneration_le
    · rw [htaken.applicationId]
      exact isOpaqueId_ascii identity.applicationId_valid
    · rw [htaken.versionId]
      exact isWasmVersionId_ascii identity.versionId_valid
    · exact isValidFieldKey_ascii (validateLoggingFields_key htaken.fields field hfield)
    · exact List.all_eq_true.mp hfields field hfield

/-- A drain of an execution's own ring reaches the owner exactly if its page and its counters can be written. -/
theorem drain_reaches_owner (h : RunBy identity capacity ring) (hsound : ring.Sound offered)
    (hrequest : request.IsDrain token record) (happ : record.applicationId = identity.applicationId) :
    (∃ body drained, answerHostLogging (some token) (some ring) request = ⟨200, .wire body⟩ ∧
        ring.drain record.applicationId record.afterEventId record.maxEvents = .ok drained ∧
        validateDrainResponse body record = .ok drained.owner) ↔
      (∀ retained ∈ ring.page record.afterEventId record.maxEvents, retained.isDeliverable = true) ∧
        ring.droppedCount ≤ wasmU53Max ∧ ring.events.length ≤ wasmU53Max := by
  obtain ⟨-, hmin, hmax⟩ := validate_eq_ok hrequest.valid
  obtain ⟨hasMore, hdrain⟩ : ∃ hasMore, ring.drain ring.applicationId record.afterEventId record.maxEvents =
      .ok ⟨ring.applicationId, ring.page record.afterEventId record.maxEvents, ring.droppedCount, hasMore,
        ring.nextEventId - 1⟩ := drain_own hmin hmax
  rw [h.applicationId, ← happ] at hdrain
  have hanswer := answerHostLogging_drain hrequest hdrain
  have hjcs : validateJcsDomain (DrainResponse.toWire ⟨ring.applicationId,
      ring.page record.afterEventId record.maxEvents, ring.droppedCount, hasMore, ring.nextEventId - 1⟩) = true ↔ _ :=
    jcs_drained h hsound
  rw [h.applicationId, ← happ] at hjcs
  constructor
  · rintro ⟨body, drained, hbody, hdrained, hvalid⟩
    rw [hanswer] at hbody
    obtain ⟨hdomain, rfl⟩ := jcsBytes_answer.mp hbody
    obtain ⟨hrecords, hdropped, hlength⟩ := hjcs.mp hdomain
    have htimes := validateDrainResponse_timestamps hvalid
    refine ⟨fun retained hretained => ?_, hdropped, hlength⟩
    obtain ⟨-, hmessage, hfields⟩ := hrecords retained hretained
    unfold RetainedLogRecord.isDeliverable
    rw [htimes retained hretained, hmessage, hfields]
    rfl
  · rintro ⟨hrecords, hdropped, hlength⟩
    have hparts : ∀ retained ∈ ring.page record.afterEventId record.maxEvents,
        isLogTimestamp retained.timestampUtc = true ∧ isAsciiText retained.message = true ∧
          retained.fields.all (fun field => isAsciiText field.value) = true := by
      intro retained hretained
      have hdeliverable := hrecords retained hretained
      unfold RetainedLogRecord.isDeliverable at hdeliverable
      rw [Bool.and_eq_true, Bool.and_eq_true] at hdeliverable
      exact ⟨hdeliverable.1.1, hdeliverable.1.2, hdeliverable.2⟩
    have hdomain := hjcs.mpr ⟨fun retained hretained =>
      ⟨isLogTimestamp_ascii (hparts retained hretained).1, (hparts retained hretained).2⟩, hdropped, hlength⟩
    refine ⟨_, _, hanswer.trans (jcsBytes_answer.mpr ⟨hdomain, rfl⟩), hdrain, ?_⟩
    have hlast : ring.nextEventId - 1 = ring.events.length := by
      rw [hsound.next]
      omega
    refine validateDrainResponse_ok happ happ (fun retained hretained => h.taken retained (page_subset hretained))
      (fun retained hretained => (hparts retained hretained).1) (page_ids hsound _ _) (Nat.lt_succ_self _)
      (List.length_take_le _ _) (fun retained hretained => ?_) hdropped ?_
    · show retained.eventId ≤ ring.nextEventId - 1
      rw [hlast]
      exact eventId_le hsound (page_subset hretained)
    · show ring.nextEventId - 1 ≤ wasmU53Max
      rw [hlast]
      exact hlength

/-- A summary reaches the owner exactly if its counters and its capacity can be written. -/
theorem summary_reaches_owner (h : RunBy identity capacity ring) (hsound : ring.Sound offered)
    (hrequest : request.IsSummary token identity.applicationId) :
    (∃ body, answerHostLogging (some token) (some ring) request = ⟨200, .wire body⟩ ∧
        validateMonitorSummary body identity.applicationId = .ok ring.monitorSummary.owner) ↔
      ring.droppedCount ≤ wasmU53Max ∧ capacity.maxEvents ≤ wasmU53Max ∧ capacity.maxBytes ≤ wasmU53Max := by
  have happ : isOpaqueId ring.applicationId = true := h.applicationId ▸ identity.applicationId_valid
  rw [← h.applicationId] at hrequest
  have hanswer := answerHostLogging_summary hrequest happ
  have hlast : ring.monitorSummary.lastEventId = ring.events.length := by
    show ring.nextEventId - 1 = ring.events.length
    rw [hsound.next]
    omega
  have hevents := h.capacity ▸ hsound.count
  have hbytes := h.capacity ▸ hsound.bounded
  constructor
  · rintro ⟨body, hbody, -⟩
    rw [hanswer] at hbody
    obtain ⟨-, -, -, hdropped, -, hmaxEvents, hmaxBytes⟩ :=
      validateJcsDomain_summary.mp (jcsBytes_answer.mp hbody).1
    exact ⟨hdropped, h.capacity ▸ hmaxEvents, h.capacity ▸ hmaxBytes⟩
  · rintro ⟨hdropped, hmaxEvents, hmaxBytes⟩
    have hlength : ring.events.length ≤ wasmU53Max := Nat.le_trans hevents hmaxEvents
    have hsize : ring.retainedBytes ≤ wasmU53Max := Nat.le_trans hbytes hmaxBytes
    have hdomain := validateJcsDomain_summary.mpr ⟨isOpaqueId_ascii happ, hlength, hsize, hdropped,
      hlast ▸ hlength, (h.capacity ▸ hmaxEvents : ring.capacity.maxEvents ≤ wasmU53Max),
      (h.capacity ▸ hmaxBytes : ring.capacity.maxBytes ≤ wasmU53Max)⟩
    refine ⟨_, hanswer.trans (jcsBytes_answer.mpr ⟨hdomain, rfl⟩), ?_⟩
    rw [← h.applicationId]
    exact validateMonitorSummary_ok hlength hsize hdropped (hlast ▸ hlength)

end Delivery

/-- For every run of an execution: a drain of its ring reaches the owner if and only if the texts of the page are
ASCII, with timestamps of the wire, and the counters are in its range; and a summary if and only if the counters
are. -/
theorem log_drains_reach_owner (identity : LoggingIdentity) (capacity : RingCapacity) (writes : List ExecutionWrite)
    (token : String) :
    (∀ request record, HostLoggingRequest.IsDrain request token record →
      record.applicationId = identity.applicationId →
      ((∃ body drained, answerHostLogging (some token) (some (identity.ring capacity writes)) request =
            ⟨200, .wire body⟩ ∧
          (identity.ring capacity writes).drain record.applicationId record.afterEventId record.maxEvents =
            .ok drained ∧ validateDrainResponse body record = .ok drained.owner) ↔
        (∀ retained ∈ (identity.ring capacity writes).page record.afterEventId record.maxEvents,
          retained.isDeliverable = true) ∧ (identity.ring capacity writes).droppedCount ≤ wasmU53Max ∧
          (identity.ring capacity writes).events.length ≤ wasmU53Max)) ∧
    ∀ request, HostLoggingRequest.IsSummary request token identity.applicationId →
      ((∃ body, answerHostLogging (some token) (some (identity.ring capacity writes)) request = ⟨200, .wire body⟩ ∧
          validateMonitorSummary body identity.applicationId =
            .ok (identity.ring capacity writes).monitorSummary.owner) ↔
        (identity.ring capacity writes).droppedCount ≤ wasmU53Max ∧ capacity.maxEvents ≤ wasmU53Max ∧
          capacity.maxBytes ≤ wasmU53Max) := by
  obtain ⟨offered, hsound⟩ := sound_ring identity capacity writes
  have hrun := runBy_ring identity capacity writes
  exact ⟨fun _ _ hrequest happ => drain_reaches_owner hrun hsound hrequest happ,
    fun _ hrequest => summary_reaches_owner hrun hsound hrequest⟩

/-- An execution of the first version of an application. -/
def notesIdentity : LoggingIdentity where
  applicationId := "notes"
  versionId := "0123456789abcdef0123456789abcdef0123456789abcdef0123456789abcdef-1"
  preparationGeneration := 1
  executionGeneration := 1
  applicationId_valid := by decide +kernel
  versionId_valid := by decide +kernel
  preparationGeneration_le := by decide
  executionGeneration_le := by decide

def notesWrite (message : String) : ExecutionWrite :=
  ⟨"2026-08-27T00:00:00.000Z", none, ⟨.info, message, [⟨"user", "42"⟩]⟩, 8192⟩

def notesDrain : HostLoggingRequest where
  path := "/v1/host-logging/drain/notes"
  method := "POST"
  token := some "token"
  bodyLength := 75
  record := some ⟨1, "notes", 0, 100⟩

def notesSummary : HostLoggingRequest where
  path := "/v1/host-logging/summary/notes"
  method := "GET"
  token := some "token"
  bodyLength := 0
  record := none

theorem notesDrain_isDrain : notesDrain.IsDrain "token" ⟨1, "notes", 0, 100⟩ :=
  ⟨by decide +kernel, rfl, rfl, by decide, by decide +kernel, rfl⟩

theorem log_drains_reach_owner_notes :
    (∃ body drained, answerHostLogging (some "token")
          (some (notesIdentity.ring ⟨256, 262144⟩ [notesWrite "saved"])) notesDrain = ⟨200, .wire body⟩ ∧
        (notesIdentity.ring ⟨256, 262144⟩ [notesWrite "saved"]).drain "notes" 0 100 = .ok drained ∧
        validateDrainResponse body ⟨1, "notes", 0, 100⟩ = .ok drained.owner) ∧
      ∃ body, answerHostLogging (some "token")
          (some (notesIdentity.ring ⟨256, 262144⟩ [notesWrite "saved"])) notesSummary = ⟨200, .wire body⟩ ∧
        validateMonitorSummary body "notes" =
          .ok (notesIdentity.ring ⟨256, 262144⟩ [notesWrite "saved"]).monitorSummary.owner := by
  obtain ⟨hdrain, hsummary⟩ := log_drains_reach_owner notesIdentity ⟨256, 262144⟩ [notesWrite "saved"] "token"
  exact ⟨(hdrain notesDrain _ notesDrain_isDrain rfl).mpr ⟨by decide +kernel, by decide +kernel, by decide +kernel⟩,
    (hsummary notesSummary ⟨by decide +kernel, rfl, rfl⟩).mpr ⟨by decide +kernel, by decide, by decide⟩⟩

/-- One record with a letter that is not ASCII, and the drain of the records after it is not found either. -/
theorem log_drain_not_found :
    (answerHostLogging (some "token") (some (notesIdentity.ring ⟨256, 262144⟩ [notesWrite "café", notesWrite "saved"]))
        notesDrain).status = 404 ∧
      (notesIdentity.ring ⟨256, 262144⟩ [notesWrite "café", notesWrite "saved"]).events.length = 2 ∧
      ((notesIdentity.ring ⟨256, 262144⟩ [notesWrite "café", notesWrite "saved"]).drain "notes" 0
        100).toOption.isSome = true :=
  ⟨by decide +kernel, by decide +kernel, by decide +kernel⟩

end HostLogging

end Iweb
