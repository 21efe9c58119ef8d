import Iweb.Admission.Contract
import Iweb.Contracts.CanonicalFile
import Iweb.Foundations.Reports

/-!
# Package layouts

A package is a set of files: two of fixed names, and blobs that are named by the digests of their bytes. The index
names the manifest, the manifest names the config and the layers, and no other blob is there. The package digest goes
over the two fixed files and the descriptors; the version digest goes over the package digest and the manifest of the
admission.
-/

namespace Iweb.Contract.OciLayout

open Json StrictJson

variable {ν : Type}

/-- What a layout is read by: the numbers of the language, those that are safe integers, and SHA-256. -/
structure LayoutRules (ν : Type) where
  numbers : JsNumbers ν
  safeInteger : ν → Option Int
  sha256Hex : List UInt8 → Sha256Hex

variable (L : LayoutRules ν)

/-! ## Values -/

def unicode (text : JsString) : String := String.ofList text.characters

mutual

/-- A value as the field checks see it. -/
def jsonOf : JsValue ν → Json
  | .null => .null
  | .bool value => .bool value
  | .number value => ((L.safeInteger value).map Json.integer).getD (.decimal (unicode (L.numbers.text value)))
  | .string value => .string (unicode value)
  | .array items => .array (jsonItems items)
  | .object members => .object (jsonMembers members)

def jsonItems : List (JsValue ν) → List Json
  | [] => []
  | item :: items => jsonOf item :: jsonItems items

def jsonMembers : List (JsString × JsValue ν) → List (String × Json)
  | [] => []
  | (key, value) :: members => (unicode key, jsonOf value) :: jsonMembers members

end

/-! ## Records -/

def wasmOciManifestMediaType : String := "application/vnd.oci.image.manifest.v1+json"
def wasmConfigMediaType : String := "application/vnd.iweb.wasm.config.v1+json"
def wasmComponentLayerMediaType : String := "application/vnd.iweb.wasm.component.v1+wasm"
def wasmCoreModuleLayerMediaType : String := "application/vnd.iweb.wasm.core-module.v1+wasm"
def wasmAdapterLayerMediaType : String := "application/vnd.iweb.wasm.adapter.v1+wasm"

def wasmLayerMediaTypes : List String :=
  [wasmComponentLayerMediaType, wasmCoreModuleLayerMediaType, wasmAdapterLayerMediaType]

def wasmOciAbsoluteMaxBlobBytes : Nat := 134217728
def wasmOciMaxPackageBytes : Nat := 536870912
def wasmOciMaxLayerCount : Nat := 128

structure WasmAdmissionBounds where
  maxPackageBytes : Nat
  maxBlobBytes : Nat
  maxLayerCount : Nat

def defaultWasmAdmissionBounds : WasmAdmissionBounds :=
  ⟨wasmOciMaxPackageBytes, wasmOciAbsoluteMaxBlobBytes, wasmOciMaxLayerCount⟩

structure WasmOciDescriptor where
  mediaType : String
  digest : String
  size : Nat

structure WasmOciManifest where
  config : WasmOciDescriptor
  layers : List WasmOciDescriptor

structure WasmConfigV1 where
  schemaVersion : Nat
  runtime : WasmRuntimeV1

structure ValidatedWasmOciLayout where
  layoutBytes : List UInt8
  indexBytes : List UInt8
  indexDescriptor : WasmOciDescriptor
  manifestBytes : List UInt8
  manifest : WasmOciManifest
  configBytes : List UInt8
  config : WasmConfigV1
  layerBytes : List (List UInt8)
  blobPaths : List String

structure ValidatedWasmPackage where
  layout : ValidatedWasmOciLayout
  packageDigest : String

/-- The files by their paths. -/
abbrev LayoutFiles : Type := {files : List (String × List UInt8) // (files.map Prod.fst).Nodup}

/-! ## Checks -/

abbrev Checking : Type → Type := Report ValidationIssue

def indexInvalid : String := "WASM_OCI_INDEX_INVALID"
def manifestInvalid : String := "WASM_OCI_MANIFEST_INVALID"
def configInvalid : String := "WASM_OCI_CONFIG_INVALID"

/-- `requireSafeIntegerObject` -/
def boundIssues (value : Nat) (field : String) (maximum : Nat) : List ValidationIssue :=
  issueUnless (isU53Between value 1 maximum) "WASM_ADMISSION_BOUNDS_INVALID" ("/bounds/" ++ field)
    (field ++ " must be an integer between 1 and " ++ toString maximum)

def validateWasmAdmissionBounds (input : WasmAdmissionBounds) : ValidationResult WasmAdmissionBounds :=
  acceptUnless (boundIssues input.maxPackageBytes "maxPackageBytes" wasmOciMaxPackageBytes ++
    boundIssues input.maxBlobBytes "maxBlobBytes" wasmOciAbsoluteMaxBlobBytes ++
    boundIssues input.maxLayerCount "maxLayerCount" wasmOciMaxLayerCount) input

/-- `^blobs\/sha256\/([0-9a-f]{64})$` -/
def isBlobPath (path : String) : Bool :=
  (bytes "blobs/sha256/").isPrefixOf (bytes path) && (bytes path).length == 77 && ((bytes path).drop 13).all isHexLower

/-- `digest.slice("sha256:".length)` -/
def digestHex (digest : String) : String := String.ofList (digest.toList.drop 7)

def blobPathFor (digest : String) : String := "blobs/sha256/" ++ digestHex digest

def boundedPath (path : String) : String :=
  let units := JsString.ofString path
  if 120 < units.length then unicode (units.take 120) else path

/-- `parseCanonicalJson`, at whose `null` the callers stop. -/
def readCanonicalJson (bytes : List UInt8) (path : String) : Checking Json := do
  let value ← .ofExcept (parseCanonicalJson L.numbers bytes path)
  let json := jsonOf L value
  if json.isNull then ⟨none, []⟩ else pure json

def verifyBlobBytes (descriptor : WasmOciDescriptor) (bytes : List UInt8) (path : String) (effectiveBlobMax : Nat) :
    Option ValidationIssue :=
  if descriptor.size = 0 ∨ bytes.length = 0 then
    some ⟨"WASM_OCI_EMPTY_ARTIFACT", "/" ++ path, "referenced blob must not be zero bytes"⟩
  else if (L.sha256Hex bytes).1 ≠ digestHex descriptor.digest then
    some ⟨"WASM_OCI_DIGEST_MISMATCH", "/" ++ path, "descriptor digest must equal SHA-256 of the referenced raw bytes"⟩
  else if descriptor.size ≠ bytes.length then
    some ⟨"WASM_OCI_SIZE_MISMATCH", "/" ++ path, "descriptor size must equal the referenced raw byte length"⟩
  else if effectiveBlobMax < bytes.length then
    some ⟨"WASM_OCI_SIZE_OUT_OF_RANGE", "/" ++ path,
      "referenced blob must be at most " ++ toString effectiveBlobMax ++ " bytes"⟩
  else none

def parseOciDescriptor (input : Json) (path code : String) (allowedMediaTypes : List String) (minimumSize : Nat) :
    Checked WasmOciDescriptor :=
  match requireObject input path "descriptor" code with
  | .error issue => (none, [issue])
  | .ok members =>
    let mediaType := requireText allowedMediaTypes.contains (field members "mediaType") code (path ++ "/mediaType")
      "mediaType must be one of the exact allowed literals"
    let digest := requireOciSha256 (field members "digest") path "digest" code
    let size := requireSafeInteger (field members "size") path "size" minimumSize wasmOciAbsoluteMaxBlobBytes
      "WASM_OCI_INTEGER_INVALID"
    (do return ⟨← mediaType.1, ← digest.1, ← size.1⟩,
      requireExactKeys members path ["mediaType", "digest", "size"] code ++ mediaType.2 ++ digest.2 ++ size.2)

def configFields : List String := ["schemaVersion", "kind", "entryLayerDigest", "world", "hostABI", "declaredHostImports"]

def validateWasmConfigV1 (input : Json) (path code : String) : Checked WasmConfigV1 :=
  match requireObject input path "wasm config" code with
  | .error issue => (none, [issue])
  | .ok members =>
    let schemaVersion := requireSafeInteger (field members "schemaVersion") path "schemaVersion" 1 1 code
    let kind := requireStringLiteral (field members "kind") path "kind" "wasm" code
    let entryLayerDigest := requireOciSha256 (field members "entryLayerDigest") path "entryLayerDigest" code
    let world := requireStringLiteral (field members "world") path "world" wasmWorldLiteral code
    let hostAbi := requireStringLiteral (field members "hostABI") path "hostABI" wasmHostAbiLiteral code
    let declaredHostImports := validateDeclaredHostImports (field members "declaredHostImports")
      (path ++ "/declaredHostImports") code
    (do return ⟨← schemaVersion.1, ← kind.1, ← entryLayerDigest.1, ← world.1, ← hostAbi.1, ← declaredHostImports.1⟩,
      requireExactKeys members path configFields code ++ schemaVersion.2 ++ kind.2 ++ entryLayerDigest.2 ++ world.2 ++
        hostAbi.2 ++ declaredHostImports.2)

/-! ## The layout -/

variable (files : LayoutFiles) (bounds : WasmAdmissionBounds)

def blobs : List (String × List UInt8) := files.1.filter fun file => isBlobPath file.1

def effectiveBlobMax : Nat := min bounds.maxBlobBytes wasmOciAbsoluteMaxBlobBytes

/-- The issues of paths that are none of a layout. -/
def pathIssues : List ValidationIssue :=
  files.1.flatMap fun file =>
    issueUnless (file.1 == "oci-layout" || file.1 == "index.json" || isBlobPath file.1) "WASM_OCI_LAYOUT_PATH_INVALID"
      ("/" ++ boundedPath file.1) "layout path is not part of iweb-wasm-oci-layout-v1"

def fixedFiles : Checking (List UInt8 × List UInt8) :=
  let layoutBytes := files.1.lookup "oci-layout"
  let indexBytes := files.1.lookup "index.json"
  ⟨do return (← layoutBytes, ← indexBytes),
    issueUnless layoutBytes.isSome "WASM_OCI_LAYOUT_FILE_INVALID" "/oci-layout" "oci-layout file is required" ++
      issueUnless indexBytes.isSome "WASM_OCI_LAYOUT_FILE_INVALID" "/index.json" "index.json file is required"⟩

/-- `{"imageLayoutVersion":"1.0.0"}` -/
def isImageLayout : Json → Bool
  | .object members => members.length == 1 && (field members "imageLayoutVersion").asStr == some "1.0.0"
  | _ => false

def checkLayoutFile (layoutBytes : List UInt8) : Checking Unit := do
  let value ← readCanonicalJson L layoutBytes "/oci-layout"
  if isImageLayout value then pure ()
  else .refuse ⟨"WASM_OCI_LAYOUT_FILE_INVALID", "/oci-layout", "oci-layout must be exactly JCS(\x7b\"imageLayoutVersion\":\"1.0.0\"\x7d)"⟩

/-- The one item of an array. -/
def onlyItem : Json → Option Json
  | .array [item] => some item
  | _ => none

def readIndex (indexBytes : List UInt8) : Checking WasmOciDescriptor := do
  let value ← readCanonicalJson L indexBytes "/index.json"
  let members ← .ofExcept (requireObject value "/index.json" "index" indexInvalid)
  .note (requireExactKeys members "/index.json" ["schemaVersion", "manifests"] indexInvalid)
  .note (requireSafeInteger (field members "schemaVersion") "/index.json" "schemaVersion" 2 2 indexInvalid).2
  match onlyItem (field members "manifests") with
  | none => .refuse ⟨indexInvalid, "/index.json/manifests", "manifests must be an array with exactly one descriptor"⟩
  | some manifest =>
    .ofPair (parseOciDescriptor manifest "/index.json/manifests/0" indexInvalid [wasmOciManifestMediaType] 1)

/-- A blob, found by the digest of its descriptor and checked against it. -/
def readBlob (descriptor : WasmOciDescriptor) (noun : String) : Checking (List UInt8) :=
  let path := blobPathFor descriptor.digest
  match (blobs files).lookup path with
  | none => .refuse ⟨"WASM_OCI_BLOB_MISSING", "/" ++ path, "referenced " ++ noun ++ " blob is missing"⟩
  | some bytes => do
    .require (verifyBlobBytes L descriptor bytes path (effectiveBlobMax bounds))
    return bytes

/-- The items of a manifest's layers, or the issue of their array. -/
def layerItems (value : Json) (path : String) : Except ValidationIssue (List Json) :=
  match value with
  | .array [] => .error ⟨"WASM_OCI_EMPTY_ARTIFACT", path, "layers must not be empty"⟩
  | .array items =>
    if bounds.maxLayerCount < items.length then
      .error ⟨"WASM_OCI_LAYER_COUNT_INVALID", path, "layers must have at most " ++ toString bounds.maxLayerCount ++ " items"⟩
    else .ok items
  | _ => .error ⟨manifestInvalid, path, "layers must be an array"⟩

def readManifest (manifestBytes : List UInt8) (path : String) : Checking WasmOciManifest := do
  let value ← readCanonicalJson L manifestBytes path
  let members ← .ofExcept (requireObject value path "manifest" manifestInvalid)
  .note (requireExactKeys members path ["schemaVersion", "config", "layers"] manifestInvalid)
  .note (requireSafeInteger (field members "schemaVersion") path "schemaVersion" 2 2 manifestInvalid).2
  let config ← .ofPair (parseOciDescriptor (field members "config") (path ++ "/config") manifestInvalid
    [wasmConfigMediaType] 0)
  let items ← .ofExcept (layerItems bounds (field members "layers") (path ++ "/layers"))
  let layers ← .each (fun i item => .ofPair (parseOciDescriptor item (path ++ "/layers/" ++ toString i) manifestInvalid
    wasmLayerMediaTypes 0)) 0 items
  return ⟨config, layers⟩

def readConfig (configBytes : List UInt8) (path : String) : Checking WasmConfigV1 := do
  let value ← readCanonicalJson L configBytes path
  .ofPair (validateWasmConfigV1 value path configInvalid)

/-- The issues of digests that were used before, each with the path of its first use. -/
def duplicateIssues (seen : List (String × String)) : List (String × String) → List ValidationIssue
  | [] => []
  | (digest, path) :: rest =>
    match seen.lookup digest with
    | some first =>
      ⟨"WASM_OCI_DUPLICATE_DIGEST", "/" ++ path, "descriptor digest already used at /" ++ first⟩ ::
        duplicateIssues seen rest
    | none => duplicateIssues ((digest, path) :: seen) rest

/-- The digests with the paths they are used at. -/
def digestUses (index : WasmOciDescriptor) (manifest : WasmOciManifest) : List (String × String) :=
  (index.digest, blobPathFor index.digest) :: (manifest.config.digest, blobPathFor manifest.config.digest) ::
    manifest.layers.zipIdx.map fun layer => (layer.1.digest, blobPathFor index.digest ++ "/layers/" ++ toString layer.2)

def referencedPaths (index : WasmOciDescriptor) (manifest : WasmOciManifest) : List String :=
  blobPathFor index.digest :: blobPathFor manifest.config.digest ::
    manifest.layers.map fun layer => blobPathFor layer.digest

def unreferencedIssues (referenced : List String) : List ValidationIssue :=
  (blobs files).flatMap fun blob => issueUnless (referenced.contains blob.1) "WASM_OCI_UNREFERENCED_BLOB" ("/" ++ blob.1)
    "blob is not reachable from the single index descriptor"

/-- The entry layer is exactly one layer, and a component. -/
def isEntryLayer (entryLayerDigest : String) (layers : List WasmOciDescriptor) : Bool :=
  match layers.filter fun layer => layer.digest == entryLayerDigest with
  | [entry] => entry.mediaType == wasmComponentLayerMediaType
  | _ => false

/-- The layout up to the files that nothing names. -/
def readLayout : Checking ValidatedWasmOciLayout := do
  .note (pathIssues files)
  let (layoutBytes, indexBytes) ← fixedFiles files
  checkLayoutFile L layoutBytes
  let index ← readIndex L indexBytes
  let manifestBytes ← readBlob L files bounds index "manifest"
  let manifest ← readManifest L bounds manifestBytes ("/" ++ blobPathFor index.digest)
  let configBytes ← readBlob L files bounds manifest.config "config"
  let config ← readConfig L configBytes ("/" ++ blobPathFor manifest.config.digest)
  let layerBytes ← .each (fun _ layer => readBlob L files bounds layer "layer") 0 manifest.layers
  .note (duplicateIssues [] (digestUses index manifest))
  return ⟨layoutBytes, indexBytes, index, manifestBytes, manifest, configBytes, config, layerBytes,
    referencedPaths index manifest⟩

def ValidatedWasmOciLayout.totalBytes (layout : ValidatedWasmOciLayout) : Nat :=
  layout.layoutBytes.length + layout.indexBytes.length + layout.manifestBytes.length + layout.configBytes.length +
    (layout.layerBytes.map List.length).sum

def entryIssue (layout : ValidatedWasmOciLayout) : Option ValidationIssue :=
  if isEntryLayer layout.config.runtime.entryLayerDigest layout.manifest.layers then none
  else some ⟨"WASM_OCI_ENTRY_LAYER_INVALID", "/" ++ blobPathFor layout.manifest.config.digest ++ "/entryLayerDigest",
    "entryLayerDigest must name exactly one component layer"⟩

def sizeIssue (layout : ValidatedWasmOciLayout) : Option ValidationIssue :=
  if layout.totalBytes ≤ bounds.maxPackageBytes then none
  else some ⟨"WASM_OCI_PACKAGE_TOO_LARGE", "", "complete layout is " ++ toString layout.totalBytes ++
    " bytes, exceeding maxPackageBytes " ++ toString bounds.maxPackageBytes⟩

def checkLayout : Checking ValidatedWasmOciLayout := do
  let layout ← Report.settled do
    let layout ← (readLayout L files bounds).settled
    .note (unreferencedIssues files layout.blobPaths)
    return layout
  .require (entryIssue layout)
  .require (sizeIssue bounds layout)
  return layout

/-! ## Digests -/

def descriptorLine (role : String) (descriptor : WasmOciDescriptor) : String :=
  role ++ " " ++ descriptor.mediaType ++ " " ++ descriptor.digest ++ " " ++ toString descriptor.size

def fileLine (role : String) (bytes : List UInt8) : String :=
  role ++ " " ++ (L.sha256Hex bytes).1 ++ " " ++ toString bytes.length

def packageDigestText (layout : ValidatedWasmOciLayout) : List UInt8 :=
  let lines := ["iweb-wasm-package-digest-v1", fileLine L "layout" layout.layoutBytes,
    fileLine L "index" layout.indexBytes, descriptorLine "manifest" layout.indexDescriptor,
    descriptorLine "config" layout.manifest.config] ++
    layout.manifest.layers.zipIdx.map fun layer => descriptorLine ("layer " ++ toString layer.2) layer.1
  lines.flatMap fun line => bytes (line ++ "\n")

def computeWasmPackageDigestV1 (layout : ValidatedWasmOciLayout) : String := (L.sha256Hex (packageDigestText L layout)).1

def versionDigestText (packageDigest : String) (admissionManifestJcsBytes : List UInt8) : List UInt8 :=
  bytes "iweb-wasm-version-digest-v1\n" ++ bytes ("package " ++ packageDigest ++ "\n") ++
    bytes ("admission-manifest " ++ toString admissionManifestJcsBytes.length ++ "\n") ++ admissionManifestJcsBytes

def computeWasmVersionDigestV1 (packageDigest : String) (admissionManifestJcsBytes : List UInt8) : String :=
  (L.sha256Hex (versionDigestText packageDigest admissionManifestJcsBytes)).1

def validateWasmOciLayoutV1 : ValidationResult ValidatedWasmPackage :=
  match validateWasmAdmissionBounds bounds with
  | .error issues => .error issues
  | .ok _ =>
    let report := checkLayout L files bounds
    match report.value with
    | none => validationFailure report.issues
    | some layout => .ok ⟨layout, computeWasmPackageDigestV1 L layout⟩

/-! ## What an accepted layout is -/

def ValidatedWasmOciLayout.descriptors (layout : ValidatedWasmOciLayout) : List WasmOciDescriptor :=
  layout.indexDescriptor :: layout.manifest.config :: layout.manifest.layers

/-- The descriptors with the bytes they stand for. -/
def ValidatedWasmOciLayout.contents (layout : ValidatedWasmOciLayout) : List (WasmOciDescriptor × List UInt8) :=
  layout.descriptors.zip (layout.manifestBytes :: layout.configBytes :: layout.layerBytes)

/-- The files that a layout stands for. -/
def ValidatedWasmOciLayout.allFiles (layout : ValidatedWasmOciLayout) : List (String × List UInt8) :=
  ("oci-layout", layout.layoutBytes) :: ("index.json", layout.indexBytes) ::
    layout.contents.map fun content => (blobPathFor content.1.digest, content.2)

/-- A layout that holds its files and no others, each blob under the digest of its bytes. -/
structure Sealed (layout : ValidatedWasmOciLayout) : Prop where
  complete : files.1.Perm layout.allFiles
  contents : layout.contents.map Prod.fst = layout.descriptors
  addressed : ∀ content ∈ layout.contents,
    blobPathFor content.1.digest = "blobs/sha256/" ++ (L.sha256Hex content.2).1 ∧
      content.1.size = content.2.length ∧ 0 < content.2.length ∧ content.2.length ≤ effectiveBlobMax bounds
  /-- The files that are read as JSON have one way to be written. -/
  canonical : ∀ file ∈ [layout.layoutBytes, layout.indexBytes, layout.manifestBytes, layout.configBytes],
    ∃ value, jcsCanonicalBytes L.numbers value = .ok file
  layers : 0 < layout.manifest.layers.length ∧ layout.manifest.layers.length ≤ bounds.maxLayerCount
  entry : ∃ before entry after, layout.manifest.layers = before ++ entry :: after ∧
    entry.mediaType = wasmComponentLayerMediaType ∧ entry.digest = layout.config.runtime.entryLayerDigest ∧
      ∀ layer ∈ before ++ after, layer.digest ≠ entry.digest
  budget : (files.1.map fun file => file.2.length).sum ≤ bounds.maxPackageBytes

/-- A text of the one list and another text of the other have one digest. -/
def LayoutRules.Collides (texts texts' : List (List UInt8)) : Prop :=
  ∃ a ∈ texts, ∃ b ∈ texts', a ≠ b ∧ L.sha256Hex a = L.sha256Hex b

/-- The texts whose digests the package digest is made of. -/
def ValidatedWasmOciLayout.hashed (layout : ValidatedWasmOciLayout) : List (List UInt8) :=
  packageDigestText L layout :: layout.layoutBytes :: layout.indexBytes :: layout.manifestBytes :: layout.configBytes ::
    layout.layerBytes

/-- A package whose files were accepted. -/
structure AcceptedPackage where
  files : LayoutFiles
  bounds : WasmAdmissionBounds
  package : ValidatedWasmPackage
  accepted : validateWasmOciLayoutV1 L files bounds = .ok package

/-- The id of the version that a package and a manifest of the admission are. -/
def AcceptedPackage.versionId (accepted : AcceptedPackage L) (manifest : List UInt8) (sequence : Nat) : String :=
  composeWasmVersionId (computeWasmVersionDigestV1 L accepted.package.packageDigest manifest) sequence

/-- The texts whose digests the version id is made of. -/
def AcceptedPackage.hashed (accepted : AcceptedPackage L) (manifest : List UInt8) : List (List UInt8) :=
  versionDigestText accepted.package.packageDigest manifest :: accepted.package.layout.hashed L

end Iweb.Contract.OciLayout
