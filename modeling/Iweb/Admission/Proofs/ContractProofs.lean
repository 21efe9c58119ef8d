import Iweb.Admission.Contract

/-!
# The two manifest validators

Each validator accepts a manifest exactly when its fields are valid, its records are written the way it takes
them and its egress list is in the order it asks for. The Kernel takes arrays for records and asks for ascending
hosts; the contract takes objects and asks for ascending pairs of host and port.
-/

namespace Iweb

open Json

namespace Contract

/-! ## The Kernel's validator -/

theorem isU53Between_iff {value minimum maximum : Nat} (h : maximum ≤ wasmU53Max) :
    isU53Between value minimum maximum = true ↔ minimum ≤ value ∧ value ≤ maximum := by
  unfold isU53Between
  simp only [Bool.and_eq_true, decide_eq_true_eq]
  omega

theorem requireAdmissionU53_eq_ok {value minimum maximum : Nat} {field : String} {u : Unit}
    (h : maximum ≤ wasmU53Max) :
    requireAdmissionU53 value minimum maximum field = .ok u ↔ minimum ≤ value ∧ value ≤ maximum := by
  unfold requireAdmissionU53
  rw [require_eq_ok, isU53Between_iff h]

theorem forPairs_eq_ok {α : Type} {check : α → α → Except KernelError Unit} {list : List α} {u : Unit} :
    forPairs check list = .ok u ↔ list.IsChain fun a b => check a b = .ok () := by
  induction list with
  | nil => exact iff_of_true rfl .nil
  | cons a rest ih =>
    cases rest with
    | nil => exact iff_of_true rfl (.singleton a)
    | cons b rest =>
      rw [List.isChain_cons_cons, ← ih]
      show (check a b >>= fun _ => forPairs check (b :: rest)) = .ok u ↔ _
      rw [bind_eq_ok]
      exact ⟨fun ⟨_, hfirst, hrest⟩ => ⟨hfirst, hrest⟩, fun ⟨hfirst, hrest⟩ => ⟨(), hfirst, hrest⟩⟩

theorem forM_eq_ok_iff {α : Type} {f : α → Except KernelError PUnit} {list : List α} {u : PUnit} :
    list.forM f = .ok u ↔ ∀ a ∈ list, f a = .ok () := by
  refine ⟨?_, forM_eq_ok⟩
  induction list with
  | nil => exact fun _ a ha => absurd ha List.not_mem_nil
  | cons b rest ih =>
    intro h a ha
    obtain ⟨_, hfirst, hrest⟩ := bind_eq_ok.mp (show (f b >>= fun _ => rest.forM f) = .ok u from h)
    rcases List.mem_cons.mp ha with rfl | ha
    · exact hfirst
    · exact ih hrest a ha

theorem validateImportCapability_eq_ok {entry : WasmImportCapability} {u : Unit} :
    validateImportCapability entry = .ok u ↔ ImportValid entry := by
  unfold validateImportCapability ImportValid
  simp only [bind_eq_ok, require_eq_ok, beq_iff_eq, exists_const]

theorem validateImportCapabilities_eq_ok {imports : List WasmImportCapability} {u : Unit} :
    validateImportCapabilities imports = .ok u ↔ (∀ entry ∈ imports, ImportValid entry) ∧ ImportsAscending imports := by
  unfold validateImportCapabilities ImportsAscending
  simp only [bind_eq_ok, forM_eq_ok_iff, validateImportCapability_eq_ok, forPairs_eq_ok, exists_const]
  refine and_congr Iff.rfl (List.IsChain.iff fun previous current => ?_)
  cases compareImports previous current <;> simp

theorem validateDnsName_eq_ok {host : String} {u : Unit} :
    validateDnsName host = .ok u ↔ isDnsName host = true ∧ isIpLiteral host = false := by
  unfold validateDnsName isDnsName isIpLiteral
  simp only [bind_eq_ok, require_eq_ok, exists_const, Bool.and_eq_true, Bool.not_eq_true', and_assoc]

theorem checkEgressPair_eq_ok {previous current : WasmEgressRuleV1} :
    checkEgressPair previous current = .ok () ↔ compareBytes (bytes previous.host) (bytes current.host) = .lt := by
  unfold checkEgressPair
  cases compareBytes (bytes previous.host) (bytes current.host) <;> simp

/-- The hosts ascend: what the Kernel asks of neighbouring rules. -/
def HostsAscending (allow : List WasmEgressRuleV1) : Prop :=
  allow.IsChain fun previous current => compareBytes (bytes previous.host) (bytes current.host) = .lt

theorem validateNormalizedManifest_eq_ok {manifest : NormalizedWasmManifestV1} {u : Unit} :
    validateNormalizedManifest manifest = .ok u ↔ FieldsValid manifest ∧
      manifest.egressAllow.length ≤ wasmMaxEgressRules ∧ (∀ rule ∈ manifest.egressAllow, RuleValid rule) ∧
        HostsAscending manifest.egressAllow := by
  unfold validateNormalizedManifest validateApplicationId validateOciSha256
  simp only [bind_eq_ok, require_eq_ok, recode_eq_ok, recodeAt_eq_ok, exists_const, beq_iff_eq, decide_eq_true_eq,
    forM_eq_ok_iff, forPairs_eq_ok, checkEgressPair_eq_ok, validateDnsName_eq_ok, validateImportCapabilities_eq_ok]
  simp (disch := decide) only [requireAdmissionU53_eq_ok, exists_const]
  constructor
  · rintro ⟨hschema, hname, hkind, hdigest, hworld, habi, ⟨himports, hascending⟩, hcpu, hmemory, hpid, hstorage,
      hrequest, hwithin, hdefault, hlength, hrules, hhosts⟩
    refine ⟨⟨by omega, hname, ⟨hkind, hdigest, hworld, habi, himports, hascending⟩,
      ⟨hcpu, hmemory, hpid, hstorage.2⟩, hrequest.2, hwithin, hdefault⟩, hlength, ?_, hhosts⟩
    intro rule hrule
    obtain ⟨⟨hdns, hip⟩, hport⟩ := hrules rule hrule
    exact ⟨hdns, hip, hport.1, hport.2⟩
  · rintro ⟨hfields, hlength, hrules, hhosts⟩
    refine ⟨by have := hfields.schemaVersion; omega, hfields.name, hfields.runtime.kind,
      hfields.runtime.entryLayerDigest, hfields.runtime.world, hfields.runtime.hostAbi,
      ⟨hfields.runtime.imports, hfields.runtime.ascending⟩, hfields.resources.cpuMillis,
      hfields.resources.memoryBytes, hfields.resources.pidLimit, ⟨Nat.zero_le _, hfields.resources.storageBytes⟩,
      ⟨Nat.zero_le _, hfields.requestBytes⟩, hfields.withinStorage, hfields.egressDefault, hlength, ?_, hhosts⟩
    intro rule hrule
    have hvalid := hrules rule hrule
    exact ⟨⟨hvalid.1, hvalid.2.1⟩, hvalid.2.2⟩

/-! ## The contract's checks on decoded values -/

/-- A check judges a decoded value: it finds no issue exactly when the value is right, and then gives it. -/
structure Judges {α : Type} (checked : Checked α) (ok : Prop) (value : α) : Prop where
  issues : checked.2 = [] ↔ ok
  accepts : ok → checked.1 = some value

theorem Judges.congr {α : Type} {checked : Checked α} {ok ok' : Prop} {value : α} (h : Judges checked ok value)
    (hok : ok ↔ ok') : Judges checked ok' value :=
  ⟨h.issues.trans hok, fun hright => h.accepts (hok.mpr hright)⟩

theorem judges_checkedIf {α : Type} (ok : Bool) (value : α) (code path message : String) :
    Judges (checkedIf ok value code path message) (ok = true) value := by
  cases ok
  · exact ⟨iff_of_false (List.cons_ne_nil _ _) Bool.false_ne_true, nofun⟩
  · exact ⟨iff_of_true rfl rfl, fun _ => rfl⟩

theorem judges_requireText {value : Json} {text : String} (ok : String → Bool) (code path message : String)
    (h : value.asStr = some text) : Judges (requireText ok value code path message) (ok text = true) text := by
  cases value with
  | string s =>
    cases h
    exact judges_checkedIf _ _ _ _ _
  | _ => cases h

theorem judges_requireStringLiteral {value : Json} {text : String} (path fieldName literal code : String)
    (h : value.asStr = some text) :
    Judges (requireStringLiteral value path fieldName literal code) (text = literal) text :=
  (judges_requireText _ _ _ _ h).congr beq_iff_eq

theorem judges_requireOciSha256 {value : Json} {text : String} (path fieldName code : String)
    (h : value.asStr = some text) :
    Judges (requireOciSha256 value path fieldName code) (isOciSha256 text = true) text :=
  judges_requireText _ _ _ _ h

theorem judges_requireDnsName {value : Json} {text : String} (path fieldName : String)
    (h : value.asStr = some text) :
    Judges (requireDnsName value path fieldName) (isDnsName text = true ∧ isIpLiteral text = false) text :=
  (judges_requireText _ _ _ _ h).congr (by rw [Bool.and_eq_true, Bool.not_eq_true'])

theorem judges_requireSafeInteger {value : Json} {bits n : Nat} (path fieldName : String)
    (minimum maximum : Nat) (code : String) (hmaximum : maximum ≤ wasmU53Max) (h : value.asUnsigned bits = some n) :
    Judges (requireSafeInteger value path fieldName minimum maximum code) (minimum ≤ n ∧ n ≤ maximum) n := by
  cases value with
  | integer m =>
    unfold asUnsigned at h
    dsimp only at h
    split at h
    · rename_i hrange
      cases h
      refine (judges_checkedIf _ _ _ _ _).congr ?_
      rw [decide_eq_true_eq]
      omega
    · cases h
  | _ => cases h

/-! ## Records that are objects -/

theorem field_of_mapM {members : List (String × Json)} {fields : List String} {values : List Json}
    (h : fields.mapM (members.lookup ·) = some values) :
    fields.map (field members) = values ∧ ∀ key ∈ fields, key ∈ keys members := by
  induction fields generalizing values with
  | nil =>
    cases h
    exact ⟨rfl, fun _ hkey => absurd hkey List.not_mem_nil⟩
  | cons key rest ih =>
    simp only [List.mapM_cons, Option.bind_eq_bind, Option.bind_eq_some_iff, Option.pure_def] at h
    obtain ⟨value, hlookup, later, hlater, heq⟩ := h
    cases heq
    obtain ⟨hmap, hkeys⟩ := ih hlater
    refine ⟨?_, ?_⟩
    · rw [List.map_cons, hmap]
      unfold field
      rw [hlookup]
      rfl
    · intro k hk
      rcases List.mem_cons.mp hk with rfl | hk
      · obtain ⟨before, after, hmembers, -⟩ := List.lookup_eq_some_iff.mp hlookup
        exact List.mem_map.mpr ⟨(k, value), by simp [hmembers], rfl⟩
      · exact hkeys k hk

/-- What is known of an object that decodes into a record of these fields. -/
structure ExactObject (fields : List String) (value : Json) (members : List (String × Json)) : Prop where
  object : value = .object members
  keys : ∀ path code, requireExactKeys members path fields code = []

/-- An object that decodes has exactly the fields of its record. -/
theorem decodeStruct_record {value : Json} {fields : List String} {values : List Json}
    (h : decodeStruct fields value = some values) (hrecord : value.isRecord = true) :
    ∃ members, ExactObject fields value members ∧ fields.map (field members) = values := by
  cases value with
  | object members =>
    unfold decodeStruct at h
    dsimp only at h
    split at h
    · rename_i hknown
      obtain ⟨hmap, hkeys⟩ := field_of_mapM h
      refine ⟨members, ⟨rfl, fun path code => ?_⟩, hmap⟩
      unfold requireExactKeys
      rw [List.append_eq_nil_iff, List.flatMap_eq_nil_iff, List.flatMap_eq_nil_iff]
      refine ⟨fun key hkey => ?_, fun key hkey => ?_⟩
      · rw [issueUnless_eq_nil, List.contains_iff_mem]
        exact hknown.2 key hkey
      · rw [issueUnless_eq_nil, List.contains_iff_mem]
        exact hkeys key hkey
    · cases h
  | _ => cases hrecord

theorem decodeImportCapability_record {value : Json} {entry : WasmImportCapability}
    (h : decodeImportCapability value = some entry) (hrecord : value.isRecord = true) :
    ∃ members, ExactObject importCapabilityFields value members ∧
      (field members "package").asStr = some entry.package ∧
      (field members "interface").asStr = some entry.interface ∧
      (field members "direction").asStr = some entry.direction := by
  unfold decodeImportCapability at h
  simp only [Option.bind_eq_bind, Option.bind_eq_some_iff] at h
  obtain ⟨values, hstruct, h⟩ := h
  obtain ⟨members, hobject, hfields⟩ := decodeStruct_record hstruct hrecord
  split at h
  · simp only [Option.bind_eq_some_iff, Option.pure_def] at h
    obtain ⟨package, hpackage, interface, hinterface, direction, hdirection, heq⟩ := h
    cases heq
    cases hfields
    exact ⟨members, hobject, hpackage, hinterface, hdirection⟩
  · cases h

theorem decodeRuntime_record {value : Json} {runtime : WasmRuntimeV1} (h : decodeRuntime value = some runtime)
    (hrecord : value.isRecord = true) :
    ∃ members, ExactObject runtimeFields value members ∧
      (field members "kind").asStr = some runtime.kind ∧
      (field members "entryLayerDigest").asStr = some runtime.entryLayerDigest ∧
      (field members "world").asStr = some runtime.world ∧
      (field members "hostABI").asStr = some runtime.hostAbi ∧
      decodeList decodeImportCapability (field members "declaredHostImports") =
        some runtime.declaredHostImports := by
  unfold decodeRuntime at h
  simp only [Option.bind_eq_bind, Option.bind_eq_some_iff] at h
  obtain ⟨values, hstruct, h⟩ := h
  obtain ⟨members, hobject, hfields⟩ := decodeStruct_record hstruct hrecord
  split at h
  · simp only [Option.bind_eq_some_iff, Option.pure_def] at h
    obtain ⟨kind, hkind, digest, hdigest, world, hworld, abi, habi, imports, himports, heq⟩ := h
    cases heq
    cases hfields
    exact ⟨members, hobject, hkind, hdigest, hworld, habi, himports⟩
  · cases h

theorem decodeResources_record {value : Json} {resources : WasmResourcesV1}
    (h : decodeResources value = some resources) (hrecord : value.isRecord = true) :
    ∃ members, ExactObject resourceFields value members ∧
      (field members "cpuMillis").asUnsigned 64 = some resources.cpuMillis ∧
      (field members "memoryBytes").asUnsigned 64 = some resources.memoryBytes ∧
      (field members "pidLimit").asUnsigned 64 = some resources.pidLimit ∧
      (field members "storageBytes").asUnsigned 64 = some resources.storageBytes := by
  unfold decodeResources at h
  simp only [Option.bind_eq_bind, Option.bind_eq_some_iff] at h
  obtain ⟨values, hstruct, h⟩ := h
  obtain ⟨members, hobject, hfields⟩ := decodeStruct_record hstruct hrecord
  split at h
  · simp only [Option.bind_eq_some_iff, Option.pure_def] at h
    obtain ⟨cpu, hcpu, memory, hmemory, pid, hpid, storage, hstorage, heq⟩ := h
    cases heq
    cases hfields
    exact ⟨members, hobject, hcpu, hmemory, hpid, hstorage⟩
  · cases h

theorem decodeStorage_record {value : Json} {storage : Bool × Nat} (h : decodeStorage value = some storage)
    (hrecord : value.isRecord = true) :
    ∃ members, ExactObject storageFields value members ∧
      (field members "persistent").asBool = some storage.1 ∧
      (field members "requestBytes").asUnsigned 64 = some storage.2 := by
  unfold decodeStorage at h
  simp only [Option.bind_eq_bind, Option.bind_eq_some_iff] at h
  obtain ⟨values, hstruct, h⟩ := h
  obtain ⟨members, hobject, hfields⟩ := decodeStruct_record hstruct hrecord
  split at h
  · simp only [Option.bind_eq_some_iff, Option.pure_def] at h
    obtain ⟨persistent, hpersistent, request, hrequest, heq⟩ := h
    cases heq
    cases hfields
    exact ⟨members, hobject, hpersistent, hrequest⟩
  · cases h

theorem decodeEgressRule_record {value : Json} {rule : WasmEgressRuleV1} (h : decodeEgressRule value = some rule)
    (hrecord : value.isRecord = true) :
    ∃ members, ExactObject egressRuleFields value members ∧
      (field members "host").asStr = some rule.host ∧ (field members "port").asUnsigned 16 = some rule.port := by
  unfold decodeEgressRule at h
  simp only [Option.bind_eq_bind, Option.bind_eq_some_iff] at h
  obtain ⟨values, hstruct, h⟩ := h
  obtain ⟨members, hobject, hfields⟩ := decodeStruct_record hstruct hrecord
  split at h
  · simp only [Option.bind_eq_some_iff, Option.pure_def] at h
    obtain ⟨host, hhost, port, hport, heq⟩ := h
    cases heq
    cases hfields
    exact ⟨members, hobject, hhost, hport⟩
  · cases h

theorem decodeEgress_record {value : Json} {egress : String × List WasmEgressRuleV1}
    (h : decodeEgress value = some egress) (hrecord : value.isRecord = true) :
    ∃ members, ExactObject egressFields value members ∧ (field members "default").asStr = some egress.1 ∧
      decodeList decodeEgressRule (field members "allow") = some egress.2 := by
  unfold decodeEgress at h
  simp only [Option.bind_eq_bind, Option.bind_eq_some_iff] at h
  obtain ⟨values, hstruct, h⟩ := h
  obtain ⟨members, hobject, hfields⟩ := decodeStruct_record hstruct hrecord
  split at h
  · simp only [Option.bind_eq_some_iff, Option.pure_def] at h
    obtain ⟨fallback, hfallback, allow, hallow, heq⟩ := h
    cases heq
    cases hfields
    exact ⟨members, hobject, hfallback, hallow⟩
  · cases h

theorem decodeManifest_record {value : Json} {manifest : NormalizedWasmManifestV1}
    (h : decodeManifest value = some manifest) (hrecord : value.isRecord = true) :
    ∃ members, ExactObject manifestFields value members ∧
      (field members "schemaVersion").asUnsigned 64 = some manifest.schemaVersion ∧
      (field members "name").asStr = some manifest.name ∧
      decodeRuntime (field members "runtime") = some manifest.runtime ∧
      decodeResources (field members "resources") = some manifest.resources ∧
      decodeStorage (field members "storage") = some (manifest.storagePersistent, manifest.storageRequestBytes) ∧
      decodeEgress (field members "egress") = some (manifest.egressDefault, manifest.egressAllow) := by
  unfold decodeManifest at h
  simp only [Option.bind_eq_bind, Option.bind_eq_some_iff] at h
  obtain ⟨values, hstruct, h⟩ := h
  obtain ⟨members, hobject, hfields⟩ := decodeStruct_record hstruct hrecord
  split at h
  · simp only [Option.bind_eq_some_iff, Option.pure_def] at h
    obtain ⟨schema, hschema, name, hname, runtime, hruntime, resources, hresources, storage, hstorage, egress,
      hegress, heq⟩ := h
    cases heq
    cases hfields
    exact ⟨members, hobject, hschema, hname, hruntime, hresources, hstorage, hegress⟩
  · cases h

/-! ## Records are judged by their fields -/

theorem judges_importCapability {value : Json} {entry : WasmImportCapability}
    (h : decodeImportCapability value = some entry) (hrecord : value.isRecord = true) (path code : String) :
    Judges (checkImportCapability value path code) (ImportValid entry) entry := by
  obtain ⟨members, ⟨rfl, hkeys⟩, hpackage, hinterface, hdirection⟩ := decodeImportCapability_record h hrecord
  have hpackage := judges_requireText isWitPackage code (path ++ "/package")
    "package must be a lower-case WIT namespace:name@major.minor.patch identity" hpackage
  have hinterface := judges_requireText (fun s => isWitName (bytes s)) code (path ++ "/interface")
    "interface must be a lower-case WIT interface identifier" hinterface
  have hdirection := judges_requireText (· == "import") code (path ++ "/direction")
    "direction must be the literal \"import\" for a declared host import" hdirection
  unfold checkImportCapability requireObject
  dsimp only
  refine ⟨?_, fun hvalid => ?_⟩
  · unfold ImportValid
    rw [hkeys, List.nil_append, List.append_eq_nil_iff, List.append_eq_nil_iff, hpackage.issues, hinterface.issues,
      hdirection.issues, beq_iff_eq, and_assoc]
  · rw [hpackage.accepts hvalid.1, hinterface.accepts hvalid.2.1, hdirection.accepts (beq_iff_eq.mpr hvalid.2.2)]
    rfl

theorem judges_checkEach {α : Type} {check : Json → String → Checked α} {ok : α → Prop} {decode : Json → Option α}
    {items : List Json} {values : List α}
    (hcheck : ∀ item ∈ items, ∀ value, decode item = some value → ∀ path, Judges (check item path) (ok value) value)
    (h : items.mapM decode = some values) (path : String) (i : Nat) :
    Judges (checkEach check path i items) (∀ value ∈ values, ok value) values := by
  induction items generalizing values i with
  | nil =>
    cases h
    exact ⟨iff_of_true rfl fun _ hvalue => absurd hvalue List.not_mem_nil, fun _ => rfl⟩
  | cons item rest ih =>
    simp only [List.mapM_cons, Option.bind_eq_bind, Option.bind_eq_some_iff, Option.pure_def] at h
    obtain ⟨value, hvalue, later, hlater, heq⟩ := h
    cases heq
    have hfirst := hcheck item List.mem_cons_self value hvalue (path ++ "/" ++ toString i)
    have hrest := ih (fun item hitem => hcheck item (List.mem_cons_of_mem _ hitem)) hlater (i + 1)
    unfold checkEach
    dsimp only
    rw [List.forall_mem_cons]
    refine ⟨?_, fun hall => ?_⟩
    · rw [List.append_eq_nil_iff, hfirst.issues, hrest.issues]
    · rw [hfirst.accepts hall.1, hrest.accepts hall.2]
      rfl

theorem firstIssue_eq_none {α : Type} {check : α → α → Option ValidationIssue} {list : List α} :
    firstIssue check list = none ↔ list.IsChain fun a b => check a b = none := by
  induction list with
  | nil => exact iff_of_true rfl .nil
  | cons a rest ih =>
    cases rest with
    | nil => exact iff_of_true rfl (.singleton a)
    | cons b rest =>
      rw [List.isChain_cons_cons, ← ih]
      exact Option.or_eq_none_iff

theorem decodeList_array {α : Type} {decode : Json → Option α} {value : Json} {values : List α}
    (h : decodeList decode value = some values) : value = .array value.elements ∧
      value.elements.mapM decode = some values := by
  cases value with
  | array items => exact ⟨rfl, h⟩
  | _ => cases h

theorem judges_declaredHostImports {value : Json} {imports : List WasmImportCapability}
    (h : decodeList decodeImportCapability value = some imports)
    (hrecords : value.elements.all isRecord = true) (path code : String) :
    Judges (validateDeclaredHostImports value path code)
      ((∀ entry ∈ imports, ImportValid entry) ∧ ImportsAscending imports) imports := by
  obtain ⟨harray, hitems⟩ := decodeList_array h
  have heach := judges_checkEach (fun item hitem entry hentry path =>
    judges_importCapability hentry (List.all_eq_true.mp hrecords item hitem) path code) hitems path 0
  have horder : firstIssue (checkImportOrder path code) imports = none ↔ ImportsAscending imports := by
    refine firstIssue_eq_none.trans (List.IsChain.iff fun previous current => ?_)
    unfold checkImportOrder
    cases compareImports previous current <;> simp
  rw [harray]
  unfold validateDeclaredHostImports
  dsimp only
  generalize checkEach (fun item path => checkImportCapability item path code) path 0 value.elements = checked
    at heach ⊢
  obtain ⟨list, issues⟩ := checked
  dsimp only
  by_cases hvalid : ∀ entry ∈ imports, ImportValid entry
  · obtain rfl : list = some imports := heach.accepts hvalid
    obtain rfl : issues = [] := heach.issues.mpr hvalid
    dsimp only
    cases hfirst : firstIssue (checkImportOrder path code) imports with
    | none => exact ⟨iff_of_true rfl ⟨hvalid, horder.mp hfirst⟩, fun _ => rfl⟩
    | some issue =>
      have hnot : ¬ ImportsAscending imports := fun hascending => by rw [horder.mpr hascending] at hfirst; cases hfirst
      exact ⟨iff_of_false (List.cons_ne_nil _ _) fun hall => hnot hall.2, fun hall => absurd hall.2 hnot⟩
  · have hissues : issues ≠ [] := fun hnil => hvalid (heach.issues.mp hnil)
    refine ⟨iff_of_false ?_ fun hall => hvalid hall.1, fun hall => absurd hall.1 hvalid⟩
    split
    · exact hissues
    · split
      · exact hissues
      · exact fun hnil => hissues (List.append_eq_nil_iff.mp hnil).1

theorem judges_runtime {value : Json} {runtime : WasmRuntimeV1} (h : decodeRuntime value = some runtime)
    (hrecord : value.isRecord = true) (himports : (value.member "declaredHostImports").elements.all isRecord = true)
    (path : String) : Judges (validateWasmRuntime value path) (RuntimeValid runtime) runtime := by
  obtain ⟨members, ⟨rfl, hkeys⟩, hkind, hdigest, hworld, habi, hlist⟩ := decodeRuntime_record h hrecord
  have hkind := judges_requireStringLiteral path "kind" "wasm" wasmManifestInvalid hkind
  have hdigest := judges_requireOciSha256 path "entryLayerDigest" wasmManifestInvalid hdigest
  have hworld := judges_requireStringLiteral path "world" wasmWorldLiteral wasmManifestInvalid hworld
  have habi := judges_requireStringLiteral path "hostABI" wasmHostAbiLiteral wasmManifestInvalid habi
  have hlist := judges_declaredHostImports hlist himports (path ++ "/declaredHostImports") wasmManifestInvalid
  unfold validateWasmRuntime requireObject
  dsimp only
  refine ⟨?_, fun hvalid => ?_⟩
  · simp only [hkeys, List.nil_append, List.append_eq_nil_iff]
    rw [hkind.issues, hdigest.issues, hworld.issues, habi.issues, hlist.issues]
    exact ⟨fun ⟨⟨⟨⟨h1, h2⟩, h3⟩, h4⟩, h5, h6⟩ => ⟨h1, h2, h3, h4, h5, h6⟩,
      fun h => ⟨⟨⟨⟨h.kind, h.entryLayerDigest⟩, h.world⟩, h.hostAbi⟩, h.imports, h.ascending⟩⟩
  · rw [hkind.accepts hvalid.kind, hdigest.accepts hvalid.entryLayerDigest, hworld.accepts hvalid.world,
      habi.accepts hvalid.hostAbi, hlist.accepts ⟨hvalid.imports, hvalid.ascending⟩]
    rfl

theorem judges_resources {value : Json} {resources : WasmResourcesV1} (h : decodeResources value = some resources)
    (hrecord : value.isRecord = true) (path : String) :
    Judges (validateWasmResources value path) (ResourcesValid resources) resources := by
  obtain ⟨members, ⟨rfl, hkeys⟩, hcpu, hmemory, hpid, hstorage⟩ := decodeResources_record h hrecord
  have hcpu := judges_requireSafeInteger path "cpuMillis" 1 1000000 wasmManifestInvalid (by decide) hcpu
  have hmemory := judges_requireSafeInteger path "memoryBytes" 1 68719476736 wasmManifestInvalid (by decide) hmemory
  have hpid := judges_requireSafeInteger path "pidLimit" 1 1000000 wasmManifestInvalid (by decide) hpid
  have hstorage := judges_requireSafeInteger path "storageBytes" 0 1099511627776 wasmManifestInvalid (by decide)
    hstorage
  unfold validateWasmResources requireObject
  dsimp only
  refine ⟨?_, fun hvalid => ?_⟩
  · simp only [hkeys, List.nil_append, List.append_eq_nil_iff]
    rw [hcpu.issues, hmemory.issues, hpid.issues, hstorage.issues]
    exact ⟨fun ⟨⟨⟨h1, h2⟩, h3⟩, h4⟩ => ⟨h1, h2, h3, h4.2⟩,
      fun h => ⟨⟨⟨h.cpuMillis, h.memoryBytes⟩, h.pidLimit⟩, Nat.zero_le _, h.storageBytes⟩⟩
  · rw [hcpu.accepts hvalid.cpuMillis, hmemory.accepts hvalid.memoryBytes, hpid.accepts hvalid.pidLimit,
      hstorage.accepts ⟨Nat.zero_le _, hvalid.storageBytes⟩]
    rfl

theorem judges_storage {value : Json} {storage : Bool × Nat} (h : decodeStorage value = some storage)
    (hrecord : value.isRecord = true) (path : String) :
    Judges (validateWasmStorage value path) (storage.2 ≤ 1099511627776) storage := by
  obtain ⟨members, ⟨rfl, hkeys⟩, hpersistent, hrequest⟩ := decodeStorage_record h hrecord
  have hrequest := judges_requireSafeInteger path "requestBytes" 0 1099511627776 wasmManifestInvalid (by decide)
    hrequest
  have hbool : field members "persistent" = .bool storage.1 := by
    generalize field members "persistent" = persistent at hpersistent
    cases persistent with
    | bool value =>
      cases hpersistent
      rfl
    | _ => cases hpersistent
  unfold validateWasmStorage requireObject
  dsimp only
  rw [hbool]
  dsimp only
  refine ⟨?_, fun hvalid => ?_⟩
  · rw [hkeys, List.nil_append, hrequest.issues, and_iff_right (Nat.zero_le _)]
  · rw [hrequest.accepts ⟨Nat.zero_le _, hvalid⟩]
    rfl

theorem judges_egressRule {value : Json} {rule : WasmEgressRuleV1} (h : decodeEgressRule value = some rule)
    (hrecord : value.isRecord = true) (path : String) :
    Judges (checkEgressRule value path) (RuleValid rule) rule := by
  obtain ⟨members, ⟨rfl, hkeys⟩, hhost, hport⟩ := decodeEgressRule_record h hrecord
  have hhost := judges_requireDnsName path "host" hhost
  have hport := judges_requireSafeInteger path "port" 1 65535 wasmManifestInvalid (by decide) hport
  unfold checkEgressRule requireObject
  dsimp only
  refine ⟨?_, fun hvalid => ?_⟩
  · unfold RuleValid
    rw [hkeys, List.nil_append, List.append_eq_nil_iff, hhost.issues, hport.issues, and_assoc]
  · rw [hhost.accepts ⟨hvalid.1, hvalid.2.1⟩, hport.accepts hvalid.2.2]
    rfl

/-- The loop over the rules stops at the first that gives none. -/
theorem judges_egressRules {items : List Json} {rules : List WasmEgressRuleV1}
    (h : items.mapM decodeEgressRule = some rules) (hrecords : items.all isRecord = true) (path : String) (i : Nat) :
    Judges (checkEgressRules path i items) (∀ rule ∈ rules, RuleValid rule) rules := by
  induction items generalizing rules i with
  | nil =>
    cases h
    exact ⟨iff_of_true rfl fun _ hrule => absurd hrule List.not_mem_nil, fun _ => rfl⟩
  | cons item rest ih =>
    simp only [List.mapM_cons, Option.bind_eq_bind, Option.bind_eq_some_iff, Option.pure_def] at h
    obtain ⟨rule, hrule, later, hlater, heq⟩ := h
    cases heq
    rw [List.all_cons, Bool.and_eq_true] at hrecords
    have hfirst := judges_egressRule hrule hrecords.1 (path ++ "/" ++ toString i)
    have hrest := ih hlater hrecords.2 (i + 1)
    rw [List.forall_mem_cons]
    unfold checkEgressRules
    by_cases hvalid : RuleValid rule
    · have hchecked : checkEgressRule item (path ++ "/" ++ toString i) = (some rule, []) :=
        Prod.ext (hfirst.accepts hvalid) (hfirst.issues.mpr hvalid)
      rw [hchecked]
      dsimp only
      refine ⟨?_, fun hall => ?_⟩
      · rw [List.nil_append, hrest.issues, and_iff_right hvalid]
      · rw [hrest.accepts hall.2]
        rfl
    · have hissues : (checkEgressRule item (path ++ "/" ++ toString i)).2 ≠ [] :=
        fun hnil => hvalid (hfirst.issues.mp hnil)
      refine ⟨iff_of_false ?_ fun hall => hvalid hall.1, fun hall => absurd hall.1 hvalid⟩
      split
      · rename_i hchecked
        rw [hchecked] at hissues
        exact hissues
      · rename_i hchecked
        rw [hchecked] at hissues
        exact fun hnil => hissues (List.append_eq_nil_iff.mp hnil).1

theorem length_of_mapM {α : Type} {decode : Json → Option α} {items : List Json} {values : List α}
    (h : items.mapM decode = some values) : items.length = values.length := by
  induction items generalizing values with
  | nil =>
    cases h
    rfl
  | cons item rest ih =>
    simp only [List.mapM_cons, Option.bind_eq_bind, Option.bind_eq_some_iff, Option.pure_def] at h
    obtain ⟨value, -, later, hlater, heq⟩ := h
    cases heq
    rw [List.length_cons, List.length_cons, ih hlater]

theorem judges_egress {value : Json} {egress : String × List WasmEgressRuleV1}
    (h : decodeEgress value = some egress) (hrecord : value.isRecord = true)
    (hrules : (value.member "allow").elements.all isRecord = true) (path : String) :
    Judges (validateWasmEgress value path) (egress.1 = "deny" ∧ EgressValid egress.2) egress := by
  obtain ⟨members, ⟨rfl, hkeys⟩, hfallback, hallow⟩ := decodeEgress_record h hrecord
  have hfallback := judges_requireStringLiteral path "default" "deny" wasmManifestInvalid hfallback
  obtain ⟨harray, hitems⟩ := decodeList_array hallow
  have hlist := judges_egressRules hitems hrules (path ++ "/allow") 0
  have horder : firstIssue (checkRuleOrder path) egress.2 = none ↔ RulesAscending egress.2 := by
    refine firstIssue_eq_none.trans (List.IsChain.iff fun previous current => ?_)
    unfold checkRuleOrder
    cases ruleBefore previous current <;> simp
  have hlength := length_of_mapM hitems
  unfold validateWasmEgress requireObject
  dsimp only
  rw [harray]
  dsimp only
  generalize (field members "allow").elements = items at hlist hlength ⊢
  simp only [hkeys, List.nil_append]
  generalize requireStringLiteral (field members "default") path "default" "deny" wasmManifestInvalid = fallback
    at hfallback ⊢
  split
  · rename_i hlong
    have hnot : ¬ EgressValid egress.2 := fun hvalid => by
      have := hvalid.length
      omega
    exact ⟨iff_of_false (by simp) fun hall => hnot hall.2, fun hall => absurd hall.2 hnot⟩
  · rename_i hshort
    generalize checkEgressRules (path ++ "/allow") 0 items = checked at hlist ⊢
    obtain ⟨list, found⟩ := checked
    by_cases hvalid : ∀ rule ∈ egress.2, RuleValid rule
    · obtain rfl : list = some egress.2 := hlist.accepts hvalid
      obtain rfl : found = [] := hlist.issues.mpr hvalid
      dsimp only
      cases hfirst : firstIssue (checkRuleOrder path) egress.2 with
      | none =>
        have hegress : EgressValid egress.2 := ⟨by omega, hvalid, horder.mp hfirst⟩
        refine ⟨?_, fun hall => ?_⟩
        · rw [List.append_nil, hfallback.issues, and_iff_left hegress]
        · rw [hfallback.accepts hall.1]
          rfl
      | some issue =>
        have hnot : ¬ EgressValid egress.2 := fun hegress => by
          rw [horder.mpr hegress.ascending] at hfirst
          cases hfirst
        exact ⟨iff_of_false (by simp) fun hall => hnot hall.2, fun hall => absurd hall.2 hnot⟩
    · have hfound : found ≠ [] := fun hnil => hvalid (hlist.issues.mp hnil)
      have hnot : ¬ EgressValid egress.2 := fun hegress => hvalid hegress.rules
      refine ⟨iff_of_false ?_ fun hall => hnot hall.2, fun hall => absurd hall.2 hnot⟩
      cases list with
      | none => exact fun hnil => hfound (List.append_eq_nil_iff.mp hnil).2
      | some allow =>
        dsimp only
        cases firstIssue (checkRuleOrder path) allow with
        | none => exact fun hnil => hfound (List.append_eq_nil_iff.mp hnil).2
        | some issue => simp

/-- On a value whose records are objects the contract accepts the manifests it asks for, and nothing else. -/
theorem validateNormalizedWasmManifestV1_eq_ok {value : Json} {manifest accepted : NormalizedWasmManifestV1}
    (h : decodeManifest value = some manifest) (hobjects : isWrittenAsObjects value = true) :
    validateNormalizedWasmManifestV1 value = .ok accepted ↔
      (FieldsValid manifest ∧ EgressValid manifest.egressAllow) ∧ accepted = manifest := by
  unfold isWrittenAsObjects at hobjects
  simp only [Bool.and_eq_true, and_assoc] at hobjects
  obtain ⟨hrecord, hruntimeRecord, hresourcesRecord, hstorageRecord, hegressRecord, himports, hrules⟩ := hobjects
  obtain ⟨members, ⟨rfl, hkeys⟩, hschema, hname, hruntime, hresources, hstorage, hegress⟩ :=
    decodeManifest_record h hrecord
  have hschema := judges_requireSafeInteger "" "schemaVersion" 1 1 wasmManifestInvalid (by decide) hschema
  have hname := judges_requireText isApplicationId wasmManifestInvalid "/name"
    "name must be a lower-case application identifier of at most 63 ASCII bytes" hname
  have hruntime := judges_runtime hruntime hruntimeRecord himports "/runtime"
  have hresources := judges_resources hresources hresourcesRecord "/resources"
  have hstorage := judges_storage hstorage hstorageRecord "/storage"
  have hegress := judges_egress hegress hegressRecord hrules "/egress"
  have hvalid : FieldsValid manifest ∧ EgressValid manifest.egressAllow ↔
      (1 ≤ manifest.schemaVersion ∧ manifest.schemaVersion ≤ 1) ∧ isApplicationId manifest.name = true ∧
        RuntimeValid manifest.runtime ∧ ResourcesValid manifest.resources ∧
        manifest.storageRequestBytes ≤ 1099511627776 ∧
        (manifest.egressDefault = "deny" ∧ EgressValid manifest.egressAllow) ∧
        manifest.storageRequestBytes ≤ manifest.resources.storageBytes := by
    constructor
    · rintro ⟨hfields, hallow⟩
      have := hfields.schemaVersion
      exact ⟨by omega, hfields.name, hfields.runtime, hfields.resources, hfields.requestBytes,
        ⟨hfields.egressDefault, hallow⟩, hfields.withinStorage⟩
    · rintro ⟨hschema, hname, hruntime, hresources, hrequest, ⟨hdefault, hallow⟩, hwithin⟩
      exact ⟨⟨by omega, hname, hruntime, hresources, hrequest, hwithin, hdefault⟩, hallow⟩
  unfold validateNormalizedWasmManifestV1 requireObject
  dsimp only
  generalize requireSafeInteger (field members "schemaVersion") "" "schemaVersion" 1 1 wasmManifestInvalid = schema
    at hschema ⊢
  generalize requireText isApplicationId (field members "name") wasmManifestInvalid "/name"
    "name must be a lower-case application identifier of at most 63 ASCII bytes" = name at hname ⊢
  generalize validateWasmRuntime (field members "runtime") "/runtime" = runtime at hruntime ⊢
  generalize validateWasmResources (field members "resources") "/resources" = resources at hresources ⊢
  generalize validateWasmStorage (field members "storage") "/storage" = storage at hstorage ⊢
  generalize validateWasmEgress (field members "egress") "/egress" = egress at hegress ⊢
  constructor
  · intro haccepted
    split at haccepted
    · rename_i someName someRuntime someResources someStorage someEgress hn hr hs ht he
      obtain ⟨hissues, heq⟩ := acceptUnless_eq_ok.mp haccepted
      simp only [List.append_eq_nil_iff, and_assoc] at hissues
      obtain ⟨-, hi1, hi2, hi3, hi4, hi5, hi6, hexceeds⟩ := hissues
      have h2 := hname.issues.mp hi2
      have h3 := hruntime.issues.mp hi3
      have h4 := hresources.issues.mp hi4
      have h5 := hstorage.issues.mp hi5
      have h6 := hegress.issues.mp hi6
      obtain rfl : manifest.name = someName := Option.some.inj ((hname.accepts h2).symm.trans hn)
      obtain rfl : manifest.runtime = someRuntime := Option.some.inj ((hruntime.accepts h3).symm.trans hr)
      obtain rfl : manifest.resources = someResources := Option.some.inj ((hresources.accepts h4).symm.trans hs)
      obtain rfl := Option.some.inj ((hstorage.accepts h5).symm.trans ht)
      obtain rfl := Option.some.inj ((hegress.accepts h6).symm.trans he)
      rw [hs, ht] at hexceeds
      have hwithin : manifest.storageRequestBytes ≤ manifest.resources.storageBytes := by
        simpa using issueUnless_eq_nil.mp hexceeds
      have hall := hvalid.mpr ⟨hschema.issues.mp hi1, h2, h3, h4, h5, h6, hwithin⟩
      refine ⟨hall, ?_⟩
      rw [← heq, ← hall.1.schemaVersion]
    · cases haccepted
  · rintro ⟨hall, rfl⟩
    obtain ⟨h1, h2, h3, h4, h5, h6, h7⟩ := hvalid.mp hall
    have hversion := hall.1.schemaVersion
    rw [hname.accepts h2, hruntime.accepts h3, hresources.accepts h4, hstorage.accepts h5, hegress.accepts h6]
    dsimp only
    refine acceptUnless_eq_ok.mpr ⟨?_, ?_⟩
    · rw [hkeys, hschema.issues.mpr h1, hname.issues.mpr h2, hruntime.issues.mpr h3, hresources.issues.mpr h4,
        hstorage.issues.mpr h5, hegress.issues.mpr h6, issueUnless_eq_nil.mpr (decide_eq_true h7)]
      rfl
    · rw [← hversion]

/-! ## The contract takes objects for records -/

/-- A check that takes nothing but objects. -/
def TakesRecords {α : Type} (check : Json → String → Checked α) : Prop :=
  ∀ value path accepted, (check value path).1 = some accepted → value.isRecord = true

theorem takesRecords_importCapability (code : String) :
    TakesRecords fun value path => checkImportCapability value path code := by
  intro value path accepted h
  cases value with
  | object members => rfl
  | _ => cases h

theorem takesRecords_egressRule : TakesRecords checkEgressRule := by
  intro value path accepted h
  cases value with
  | object members => rfl
  | _ => cases h

theorem isRecord_of_checkEach {α : Type} {check : Json → String → Checked α} (hcheck : TakesRecords check)
    {path : String} {i : Nat} {items : List Json} {values : List α}
    (h : (checkEach check path i items).1 = some values) : items.all isRecord = true := by
  induction items generalizing i values with
  | nil => rfl
  | cons item rest ih =>
    unfold checkEach at h
    simp only [Option.bind_eq_bind, Option.bind_eq_some_iff] at h
    obtain ⟨value, hvalue, later, hlater, -⟩ := h
    rw [List.all_cons, hcheck _ _ _ hvalue, ih hlater]
    rfl

theorem isRecord_of_checkEgressRules {path : String} {i : Nat} {items : List Json} {rules : List WasmEgressRuleV1}
    (h : (checkEgressRules path i items).1 = some rules) : items.all isRecord = true := by
  induction items generalizing i rules with
  | nil => rfl
  | cons item rest ih =>
    unfold checkEgressRules at h
    split at h
    · cases h
    · rename_i rule issues hrule
      obtain ⟨later, hlater, -⟩ := Option.map_eq_some_iff.mp h
      have hitem := takesRecords_egressRule item _ rule (congrArg Prod.fst hrule)
      rw [List.all_cons, hitem, ih hlater]
      rfl

theorem isRecord_of_declaredHostImports {value : Json} {path code : String} {imports : List WasmImportCapability}
    (h : (validateDeclaredHostImports value path code).1 = some imports) : value.elements.all isRecord = true := by
  cases value with
  | array items =>
    unfold validateDeclaredHostImports at h
    dsimp only at h
    cases hlist : (checkEach (fun item path => checkImportCapability item path code) path 0 items).1 with
    | none =>
      rw [hlist] at h
      cases h
    | some list => exact isRecord_of_checkEach (takesRecords_importCapability code) hlist
  | _ => cases h

theorem isRecord_of_runtime {value : Json} {path : String} {runtime : WasmRuntimeV1}
    (h : (validateWasmRuntime value path).1 = some runtime) :
    value.isRecord = true ∧ (value.member "declaredHostImports").elements.all isRecord = true := by
  cases value with
  | object members =>
    unfold validateWasmRuntime requireObject at h
    simp only [Option.bind_eq_bind, Option.bind_eq_some_iff] at h
    obtain ⟨_, -, _, -, _, -, _, -, imports, himports, -⟩ := h
    exact ⟨rfl, isRecord_of_declaredHostImports himports⟩
  | _ => cases h

theorem takesRecords_resources : TakesRecords validateWasmResources := by
  intro value path accepted h
  cases value with
  | object members => rfl
  | _ => cases h

theorem takesRecords_storage : TakesRecords validateWasmStorage := by
  intro value path accepted h
  cases value with
  | object members => rfl
  | _ => cases h

theorem isRecord_of_egress {value : Json} {path : String} {egress : String × List WasmEgressRuleV1}
    (h : (validateWasmEgress value path).1 = some egress) :
    value.isRecord = true ∧ (value.member "allow").elements.all isRecord = true := by
  cases value with
  | object members =>
    unfold validateWasmEgress requireObject at h
    dsimp only at h
    split at h
    · rename_i items hitems
      have hallow : (Json.object members).member "allow" = .array items := hitems
      rw [hallow]
      split at h
      · cases h
      · split at h
        · cases h
        · rename_i rules found hrules
          exact ⟨rfl, isRecord_of_checkEgressRules (congrArg Prod.fst hrules)⟩
    · cases h
  | _ => cases h

theorem isWrittenAsObjects_of_accepted {value : Json} {accepted : NormalizedWasmManifestV1}
    (h : validateNormalizedWasmManifestV1 value = .ok accepted) : isWrittenAsObjects value = true := by
  cases value with
  | object members =>
    unfold validateNormalizedWasmManifestV1 requireObject at h
    dsimp only at h
    split at h
    · rename_i hruntime hresources hstorage hegress
      have hruntime := isRecord_of_runtime hruntime
      have hegress := isRecord_of_egress hegress
      unfold isWrittenAsObjects
      simp only [Bool.and_eq_true, and_assoc]
      exact ⟨rfl, hruntime.1, takesRecords_resources _ _ _ hresources, takesRecords_storage _ _ _ hstorage,
        hegress.1, hruntime.2, hegress.2⟩
    · cases h
  | _ => cases h

/-! ## When the validators agree -/

theorem compareBytes_eq_iff {a b : List UInt8} : compareBytes a b = .eq ↔ a = b := by
  unfold compareBytes
  induction a generalizing b with
  | nil => cases b <;> simp [List.compareLex_nil_nil, List.compareLex_nil_cons]
  | cons x xs ih =>
    cases b with
    | nil => simp [List.compareLex_cons_nil]
    | cons y ys =>
      rw [List.compareLex_cons_cons, Ordering.then_eq_eq, Nat.compare_eq_eq, ih, UInt8.toNat_inj, List.cons.injEq]

theorem ruleBefore_iff {previous current : WasmEgressRuleV1} :
    compareBytes (bytes previous.host) (bytes current.host) = .lt ↔
      ruleBefore previous current = true ∧ previous.host ≠ current.host := by
  have hsame : compareBytes (bytes previous.host) (bytes current.host) = .eq ↔ previous.host = current.host :=
    compareBytes_eq_iff.trans ⟨bytes_injective, congrArg bytes⟩
  unfold ruleBefore
  rw [Ne, ← hsame]
  cases compareBytes (bytes previous.host) (bytes current.host) <;> simp

/-- The Kernel's order is the contract's, and no host twice. -/
theorem hostsAscending_iff {allow : List WasmEgressRuleV1} :
    HostsAscending allow ↔ RulesAscending allow ∧ NoHostRepeats allow := by
  unfold HostsAscending RulesAscending NoHostRepeats
  induction allow with
  | nil => exact iff_of_true .nil ⟨.nil, .nil⟩
  | cons a rest ih =>
    cases rest with
    | nil => exact iff_of_true (.singleton a) ⟨.singleton a, .singleton a⟩
    | cons b rest =>
      rw [List.isChain_cons_cons, List.isChain_cons_cons, List.isChain_cons_cons, ih, ruleBefore_iff]
      exact and_and_and_comm

theorem contract_accepts_iff {value : Json} {manifest : NormalizedWasmManifestV1}
    (h : decodeManifest value = some manifest) :
    (∃ accepted, validateNormalizedWasmManifestV1 value = .ok accepted) ↔
      isWrittenAsObjects value = true ∧ FieldsValid manifest ∧ EgressValid manifest.egressAllow := by
  constructor
  · rintro ⟨accepted, haccepted⟩
    have hobjects := isWrittenAsObjects_of_accepted haccepted
    exact ⟨hobjects, ((validateNormalizedWasmManifestV1_eq_ok h hobjects).mp haccepted).1⟩
  · rintro ⟨hobjects, hvalid⟩
    exact ⟨manifest, (validateNormalizedWasmManifestV1_eq_ok h hobjects).mpr ⟨hvalid, rfl⟩⟩

theorem kernel_accepts_iff {m : NormalizedWasmManifestV1} :
    validateNormalizedManifest m = .ok () ↔
      FieldsValid m ∧ EgressValid m.egressAllow ∧ NoHostRepeats m.egressAllow := by
  rw [validateNormalizedManifest_eq_ok, hostsAscending_iff]
  constructor
  · rintro ⟨hfields, hlength, hrules, hascending, hhosts⟩
    exact ⟨hfields, ⟨hlength, hrules, hascending⟩, hhosts⟩
  · rintro ⟨hfields, hegress, hhosts⟩
    exact ⟨hfields, hegress.length, hegress.rules, hegress.ascending, hhosts⟩

end Contract

open Contract

/-- The validators agree on a value exactly when its manifest breaks a check of the contract, or all its records
are objects and no host has two rules. -/
theorem manifest_validators_agree_iff (value : Json) (manifest : NormalizedWasmManifestV1)
    (hdecodes : decodeManifest value = some manifest) :
    ValidatorsAgree value manifest ↔
      (FieldsValid manifest → EgressValid manifest.egressAllow →
        isWrittenAsObjects value = true ∧ NoHostRepeats manifest.egressAllow) := by
  have hcontract := contract_accepts_iff hdecodes
  have hkernel := kernel_accepts_iff (m := manifest)
  constructor
  · intro hagree hfields hegress
    have haccepted := (hagree.contract hfields).mpr hegress
    have hkernelAccepts := (hagree.kernel hfields).mpr hegress
    exact ⟨(hcontract.mp haccepted).1, (hkernel.mp hkernelAccepts).2.2⟩
  · intro hcondition
    have hk : validateNormalizedManifest manifest = .ok () ↔
        FieldsValid manifest ∧ EgressValid manifest.egressAllow := by
      rw [hkernel]
      exact ⟨fun h => ⟨h.1, h.2.1⟩, fun h => ⟨h.1, h.2, (hcondition h.1 h.2).2⟩⟩
    have hc : (∃ accepted, validateNormalizedWasmManifestV1 value = .ok accepted) ↔
        FieldsValid manifest ∧ EgressValid manifest.egressAllow := by
      rw [hcontract]
      exact ⟨fun h => h.2, fun h => ⟨(hcondition h.1 h.2).1, h⟩⟩
    refine ⟨hk.trans hc.symm, fun hfields => ?_, fun hfields => ?_⟩
    · rw [hk, and_iff_right hfields]
    · rw [hc, and_iff_right hfields]

/-- A manifest with the given egress rules. -/
def manifestWithRules (allow : List WasmEgressRuleV1) : NormalizedWasmManifestV1 :=
  ⟨1, "site", ⟨"wasm", "sha256:0000000000000000000000000000000000000000000000000000000000000000",
    wasmWorldLiteral, wasmHostAbiLiteral, []⟩, ⟨100, 1000, 1, 0⟩, false, 0, "deny", allow⟩

/-- A JSON object of it. -/
def manifestValue (allow : List WasmEgressRuleV1) : Json :=
  let manifest := manifestWithRules allow
  .object [("schemaVersion", .integer 1), ("name", .string manifest.name),
    ("runtime", .object [("kind", .string "wasm"), ("entryLayerDigest", .string manifest.runtime.entryLayerDigest),
      ("world", .string wasmWorldLiteral), ("hostABI", .string wasmHostAbiLiteral),
      ("declaredHostImports", .array [])]),
    ("resources", .object [("cpuMillis", .integer 100), ("memoryBytes", .integer 1000), ("pidLimit", .integer 1),
      ("storageBytes", .integer 0)]),
    ("storage", .object [("persistent", .bool false), ("requestBytes", .integer 0)]),
    ("egress", .object [("default", .string "deny"), ("allow", .array (allow.map fun rule =>
      .object [("host", .string rule.host), ("port", .integer rule.port)]))])]

/-- Two ports of one host, in the order of `(host, port)`. -/
def twoPorts : List WasmEgressRuleV1 := [⟨"api.example", 80⟩, ⟨"api.example", 443⟩]

theorem two_ports_refused_by_kernel_only :
    decodeManifest (manifestValue twoPorts) = some (manifestWithRules twoPorts) ∧
      validateNormalizedManifest (manifestWithRules twoPorts) =
        .error ⟨wasmManifestInvalid, "/egress/allow must be sorted by (host, port)"⟩ ∧
      validateNormalizedWasmManifestV1 (manifestValue twoPorts) = .ok (manifestWithRules twoPorts) ∧
      ¬ ValidatorsAgree (manifestValue twoPorts) (manifestWithRules twoPorts) := by
  have hkernel : validateNormalizedManifest (manifestWithRules twoPorts) =
      .error ⟨wasmManifestInvalid, "/egress/allow must be sorted by (host, port)"⟩ := by decide +kernel
  have hcontract : validateNormalizedWasmManifestV1 (manifestValue twoPorts) = .ok (manifestWithRules twoPorts) := by
    decide +kernel
  refine ⟨by decide +kernel, hkernel, hcontract, fun hagree => ?_⟩
  have haccepts := hagree.same.mpr ⟨_, hcontract⟩
  rw [hkernel] at haccepts
  cases haccepts

theorem manifest_validators_agree_iff_one_port :
    let allow := [⟨"api.example", 443⟩]
    validateNormalizedManifest (manifestWithRules allow) = .ok () ∧
      ValidatorsAgree (manifestValue allow) (manifestWithRules allow) := by
  intro allow
  refine ⟨by decide +kernel, ?_⟩
  refine (manifest_validators_agree_iff (manifestValue allow) (manifestWithRules allow) (by decide +kernel)).mpr ?_
  exact fun _ _ => ⟨by decide +kernel, .singleton _⟩

end Iweb
