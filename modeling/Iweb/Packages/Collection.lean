import Iweb.Catalog.Records
import Iweb.Kernel.TextBytes

/-!
# Packages of files and their digest

The contracts collect the declared files of an application into a snapshot with a digest; the kernel computes the same
digest from the restored files. The digest is that of one byte sequence in which every file gives its path, its length
and its content.
-/

namespace Iweb.Packages

def maxPackageFiles : ℕ := 10000
def maxPackageBytes : ℤ := 512 * 1024 * 1024
def maxPackageFileBytes : ℤ := 64 * 1024 * 1024

structure PackageFileEntry where
  path : String
  size : ℤ
  kind : String
  mtimeNs : Option ℤ

inductive StatKind where
  | regular
  | symlink
  | other
  | missing
deriving DecidableEq

structure PackageStat where
  kind : StatKind
  size : ℤ
  mtimeNs : ℤ

structure PackageSnapshot (D : Type) where
  digest : D
  fileCount : ℕ
  bytes : ℤ
  files : List PackageFileEntry

/-- What the collection reads of a manifest: two of its fields and its canonical text. -/
structure ApplicationManifest where
  entrypoint : String
  assetsRoot : String
  canonical : String

structure CollectPackageOptions where
  manifest : ApplicationManifest
  files : List PackageFileEntry
  /-- `none` when the callback throws. -/
  readContent : String → Option (List UInt8)
  /-- The callback answers for a path before its content is read and again after that. -/
  statFile : Option ((String → Option PackageStat) × (String → Option PackageStat))
  manifestText : Option String

/-- A file that enters the digest. -/
structure DigestedFile where
  path : String
  content : List UInt8

/-! ## Paths -/

def startsWith (text start : String) : Bool := start.toList.isPrefixOf text.toList

def segments (value : String) : List String := (value.toList.splitOn '/').map String.ofList

def safePackagePath (value : String) : Bool :=
  !(value.isEmpty || utf16Length value > 512) && !startsWith value "/" && !(segments value).any (· == "..") &&
    !value.toList.any (·.toNat ≤ 0x1f)

/-- Repeated slashes and `.` segments are taken out. -/
def normalizePath (value : String) : String :=
  String.intercalate "/" ((segments value).filter fun segment => !(segment.isEmpty || segment == "."))

def filePath (path : String) : String := "/files/" ++ String.ofList (path.toList.take 40)

/-! ## The digest -/

/-- The bytes of a file: path, decimal length and content. -/
def DigestedFile.framed (file : DigestedFile) : List UInt8 :=
  bytes file.path ++ 0 :: bytes file.content.length.repr ++ 0 :: file.content

def packageFilesDigest {D : Type} (sha256 : List UInt8 → D) (files : List DigestedFile) : D :=
  sha256 ((files.insertionSort (BytesLe fun file => bytes file.path)).flatMap DigestedFile.framed)

/-! ## Collection -/

/-- The issues of the declared files, one after the other. -/
def checkFiles : List String → List PackageFileEntry → List ValidationIssue
  | _, [] => []
  | seenPaths, file :: files =>
    issueUnless (safePackagePath file.path) "INVALID_PATH" (filePath file.path) "package file path is unsafe" ++
    issueUnless (!seenPaths.contains (normalizePath file.path)) "PACKAGE_DUPLICATE_PATH" (filePath file.path)
      "package file path duplicates another file after normalization" ++
    issueUnless (file.kind == "file") "INVALID_FILE_KIND" (filePath file.path) "package file kind must be file" ++
    issueUnless (0 ≤ file.size && file.size ≤ maxPackageFileBytes) "INVALID_SIZE" (filePath file.path)
      "package file size is out of bounds" ++
    checkFiles (normalizePath file.path :: seenPaths) files

/-- The metadata of a file before its content is read. -/
def statBefore (statFile : String → Option PackageStat) (file : PackageFileEntry) :
    Except ValidationIssue PackageStat :=
  let refuse code message := Except.error ⟨code, filePath file.path, message⟩
  match statFile file.path with
  | none => refuse "PACKAGE_STAT_FAILED" "package file could not be stat'ed"
  | some stat =>
    match stat.kind with
    | .symlink => refuse "PACKAGE_SYMLINK" "package file is a symlink"
    | .missing => refuse "PACKAGE_MISSING" "package file is missing"
    | .other => refuse "PACKAGE_NON_REGULAR" "package file is not a regular file"
    | .regular =>
      if stat.size ≠ file.size then
        refuse "SIZE_MISMATCH" "package file stat size does not match the declared size"
      else .ok stat

def statUnchanged (before : PackageStat) : Option PackageStat → Bool
  | none => false
  | some after => after.kind == .regular && after.size == before.size && after.mtimeNs == before.mtimeNs

def readPackageContent (options : CollectPackageOptions) (file : PackageFileEntry) :
    Except ValidationIssue (List UInt8) :=
  match options.readContent file.path with
  | none => .error ⟨"PACKAGE_READ_FAILED", filePath file.path, "package file could not be read"⟩
  | some content =>
    if (content.length : ℤ) ≠ file.size then
      .error ⟨"SIZE_MISMATCH", filePath file.path, "package file size does not match its content"⟩
    else .ok content

/-- The content of a file, between two looks at its metadata when there is a callback for them. -/
def collectFile (options : CollectPackageOptions) (file : PackageFileEntry) : Except ValidationIssue DigestedFile :=
  match options.statFile with
  | none => do
    let content ← readPackageContent options file
    pure ⟨file.path, content⟩
  | some (statFile, statFileAgain) => do
    let before ← statBefore statFile file
    let content ← readPackageContent options file
    if statUnchanged before (statFileAgain file.path) then pure ⟨file.path, content⟩
    else .error ⟨"PACKAGE_TOCTOU_CHANGED", filePath file.path, "package file changed while being collected"⟩

def issueOf {α : Type} : Except ValidationIssue α → List ValidationIssue
  | .error issue => [issue]
  | .ok _ => []

/-- The issues of the manifest against the declared files. -/
def checkManifest (manifest : ApplicationManifest) (normalizedFiles : List String) : List ValidationIssue :=
  issueUnless (normalizedFiles.contains manifest.entrypoint) "MANIFEST_ENTRYPOINT_MISSING" "/runtime/entrypoint"
    "declared entrypoint is not present in the collected files" ++
  issueUnless (startsWith manifest.entrypoint (manifest.assetsRoot ++ "/")) "MANIFEST_ENTRYPOINT_OUTSIDE_ASSETS"
    "/runtime/entrypoint" "declared entrypoint is not under the declared assets root" ++
  issueUnless (normalizedFiles.any (startsWith · (manifest.assetsRoot ++ "/"))) "MANIFEST_ASSETS_ROOT_MISSING"
    "/assets/root" "no collected file exists under the declared assets root"

/-- The issues of the manifest's text. `canonicalOf` gives the canonical serialization of a JSON text. -/
def checkManifestText (canonicalOf : String → Option String) (manifest : ApplicationManifest) :
    Option String → List ValidationIssue
  | none => []
  | some text =>
    match canonicalOf text with
    | none => [⟨"MANIFEST_INVALID_TEXT", "/manifestText", "manifest text is not valid JSON"⟩]
    | some parsed =>
      issueUnless (text == manifest.canonical && parsed == manifest.canonical) "MANIFEST_NOT_CANONICAL" "/manifestText"
        "manifest text is not the canonical serialization of the collected manifest"

/-- The declared files in the order of the digest. -/
def CollectPackageOptions.canonical (options : CollectPackageOptions) : List PackageFileEntry :=
  options.files.insertionSort (BytesLe fun file => bytes file.path)

def collectPackage {D : Type} (sha256 : List UInt8 → D) (canonicalOf : String → Option String)
    (options : CollectPackageOptions) : ValidationResult (PackageSnapshot D) :=
  let totalBytes := (options.files.map (·.size)).sum
  let collected := options.canonical.map (collectFile options)
  acceptUnless
    (issueUnless (options.files.length ≤ maxPackageFiles) "PACKAGE_TOO_MANY_FILES" "/files"
        "package exceeds the maximum file count" ++
      checkFiles [] options.files ++
      issueUnless (totalBytes ≤ maxPackageBytes) "PACKAGE_TOO_LARGE" "/files"
        "package exceeds the maximum total size" ++
      issueUnless options.statFile.isSome "PACKAGE_STAT_FAILED" "/statFile"
        "statFile callback is required to verify package metadata" ++
      collected.flatMap issueOf ++
      checkManifest options.manifest (options.files.map fun file => normalizePath file.path) ++
      checkManifestText canonicalOf options.manifest options.manifestText)
    { digest := packageFilesDigest sha256 (collected.filterMap Except.toOption)
      fileCount := options.canonical.length
      bytes := totalBytes
      files := options.canonical }

end Iweb.Packages

/-! ## The digest of the kernel -/

namespace Iweb.Digest

structure PackageFile where
  path : String
  contentBase64 : String

/-- A file of the kernel's list: its path is checked, its content decoded. -/
def decodeFile (decode : String → Option (List UInt8)) (file : PackageFile) :
    Except String Packages.DigestedFile :=
  if file.path.isEmpty || (bytes file.path).length > 512 || Packages.startsWith file.path "/" then
    .error "unsafe package path"
  else match decode file.contentBase64 with
    | none => .error "invalid base64 content"
    | some content => .ok ⟨file.path, content⟩

def packageFilesDigest {D : Type} (sha256 : List UInt8 → D) (decode : String → Option (List UInt8))
    (files : List PackageFile) : Except String D :=
  if files.isEmpty then .error "package must contain at least one file"
  else do
    let decoded ← files.mapM (decodeFile decode)
    pure (sha256 ((decoded.insertionSort (BytesLe fun file => bytes file.path)).flatMap Packages.DigestedFile.framed))

end Iweb.Digest
