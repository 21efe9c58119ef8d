import Iweb.Foundations.Delimited
import Iweb.Packages.Collection
import Mathlib.Data.List.Nodup
import Mathlib.Data.List.Perm.Basic

/-!
# One digest for a package

A path of an accepted package has no NUL, so the bytes of its files can be told apart, and no two of its files have one
path, so their order is that of the paths alone. The kernel computes the digest of the contracts for the paths it takes:
those of at most 512 bytes.
-/

namespace Iweb.Packages

open Delimited

/-! ## The bytes of the files -/

theorem framed_append_inj {f g : DigestedFile} (hf : (0 : UInt8) ∉ bytes f.path) (hg : (0 : UInt8) ∉ bytes g.path)
    {r r' : List UInt8} (h : f.framed ++ r = g.framed ++ r') : f = g ∧ r = r' := by
  unfold DigestedFile.framed at h
  simp only [List.append_assoc, List.cons_append] at h
  obtain ⟨hpath, hrest⟩ := append_cons_inj hf hg h
  obtain ⟨hlength, hcontent⟩ := append_cons_inj (zero_notMem_bytes_repr _) (zero_notMem_bytes_repr _) hrest
  obtain ⟨hcontent, hrest⟩ := List.append_inj hcontent (repr_inj.mp (bytes_injective hlength))
  refine ⟨?_, hrest⟩
  cases f
  cases g
  obtain rfl := bytes_injective hpath
  obtain rfl := hcontent
  rfl

theorem flatMap_framed_inj {l l' : List DigestedFile} (hl : ∀ f ∈ l, (0 : UInt8) ∉ bytes f.path)
    (hl' : ∀ f ∈ l', (0 : UInt8) ∉ bytes f.path) (h : l.flatMap DigestedFile.framed = l'.flatMap DigestedFile.framed) :
    l = l' := by
  induction l generalizing l' with
  | nil =>
    cases l' with
    | nil => rfl
    | cons g l' =>
      rw [List.flatMap_nil, List.flatMap_cons] at h
      simp [DigestedFile.framed] at h
  | cons f l ih =>
    cases l' with
    | nil =>
      rw [List.flatMap_nil, List.flatMap_cons] at h
      simp [DigestedFile.framed] at h
    | cons g l' =>
      rw [List.flatMap_cons, List.flatMap_cons] at h
      obtain ⟨rfl, hrest⟩ := framed_append_inj (hl f List.mem_cons_self) (hl' g List.mem_cons_self) h
      rw [ih (fun e he => hl e (List.mem_cons_of_mem _ he)) (fun e he => hl' e (List.mem_cons_of_mem _ he)) hrest]

/-! ## Accepted packages -/

/-- The paths of the package with what was read at them. -/
def CollectPackageOptions.contents (options : CollectPackageOptions) : List (String × Option (List UInt8)) :=
  options.files.map fun file => (file.path, options.readContent file.path)

/-- A digested file as a member of that list. -/
def DigestedFile.read (file : DigestedFile) : String × Option (List UInt8) := (file.path, some file.content)

theorem DigestedFile.read_injective : Function.Injective DigestedFile.read := by
  intro f g h
  obtain ⟨hpath, hcontent⟩ := Prod.mk.inj h
  cases f
  cases g
  obtain rfl : _ = _ := hpath
  obtain rfl := Option.some.inj hcontent
  rfl

theorem readPackageContent_eq_ok {options : CollectPackageOptions} {file : PackageFileEntry} {content : List UInt8}
    (h : readPackageContent options file = .ok content) : options.readContent file.path = some content := by
  unfold readPackageContent at h
  cases hread : options.readContent file.path with
  | none =>
    rw [hread] at h
    exact nomatch h
  | some content' =>
    rw [hread] at h
    dsimp only at h
    split at h
    · exact nomatch h
    · exact congrArg some (Except.ok.inj h)

theorem collectFile_eq_ok {options : CollectPackageOptions} {file : PackageFileEntry} {digested : DigestedFile}
    (h : collectFile options file = .ok digested) :
    digested.read = (file.path, options.readContent file.path) := by
  unfold collectFile at h
  split at h
  · obtain ⟨content, hread, hdone⟩ := bind_eq_ok.mp h
    rw [readPackageContent_eq_ok hread, ← Except.ok.inj hdone]
    rfl
  · obtain ⟨before, -, hrest⟩ := bind_eq_ok.mp h
    obtain ⟨content, hread, hdone⟩ := bind_eq_ok.mp hrest
    rw [readPackageContent_eq_ok hread]
    split at hdone
    · rw [← Except.ok.inj hdone]
      rfl
    · exact nomatch hdone

/-- Files without issues are all digested. -/
theorem collected_reads {options : CollectPackageOptions} {files : List PackageFileEntry}
    (h : (files.map (collectFile options)).flatMap issueOf = []) :
    ((files.map (collectFile options)).filterMap Except.toOption).map DigestedFile.read =
      files.map fun file => (file.path, options.readContent file.path) := by
  induction files with
  | nil => rfl
  | cons file files ih =>
    rw [List.map_cons, List.flatMap_cons, List.append_eq_nil_iff] at h
    cases hfile : collectFile options file with
    | error issue =>
      rw [hfile] at h
      exact nomatch h.1
    | ok digested =>
      rw [List.map_cons, hfile, List.filterMap_cons, List.map_cons, ← collectFile_eq_ok hfile]
      exact congrArg _ (ih h.2)

theorem checkFiles_eq_nil {seenPaths : List String} {files : List PackageFileEntry}
    (h : checkFiles seenPaths files = []) :
    (∀ file ∈ files, safePackagePath file.path = true ∧ normalizePath file.path ∉ seenPaths) ∧
      (files.map fun file => normalizePath file.path).Nodup := by
  induction files generalizing seenPaths with
  | nil => exact ⟨nofun, List.nodup_nil⟩
  | cons file files ih =>
    rw [checkFiles] at h
    simp only [List.append_eq_nil_iff, issueUnless_eq_nil] at h
    obtain ⟨⟨⟨⟨hsafe, hunseen⟩, -⟩, -⟩, hrest⟩ := h
    obtain ⟨hfiles, hnodup⟩ := ih hrest
    have hnew : normalizePath file.path ∉ seenPaths := by simpa using hunseen
    refine ⟨fun other hother => ?_, List.nodup_cons.mpr ⟨fun hmem => ?_, hnodup⟩⟩
    · rcases List.mem_cons.mp hother with rfl | hother
      · exact ⟨hsafe, hnew⟩
      · exact ⟨(hfiles other hother).1, fun hseen => (hfiles other hother).2 (List.mem_cons_of_mem _ hseen)⟩
    · obtain ⟨other, hother, hsame⟩ := List.mem_map.mp hmem
      exact (hfiles other hother).2 (hsame ▸ List.mem_cons_self)

/-- What is known of an accepted package: its files were read, their paths are safe and all different. -/
structure Collected (options : CollectPackageOptions) (digested : List DigestedFile) : Prop where
  reads : (digested.map DigestedFile.read).Perm options.contents
  safe : ∀ file ∈ options.files, safePackagePath file.path = true
  distinct : (options.files.map (·.path)).Nodup
  nonempty : options.files ≠ []

theorem collectPackage_eq_ok {D : Type} {sha256 : List UInt8 → D} {canonicalOf : String → Option String}
    {options : CollectPackageOptions} {snapshot : PackageSnapshot D}
    (h : collectPackage sha256 canonicalOf options = .ok snapshot) :
    ∃ digested, Collected options digested ∧ snapshot.digest = packageFilesDigest sha256 digested := by
  obtain ⟨hissues, rfl⟩ := acceptUnless_eq_ok.mp h
  simp only [List.append_eq_nil_iff] at hissues
  obtain ⟨⟨⟨⟨⟨⟨-, hfiles⟩, -⟩, -⟩, hcollected⟩, hmanifest⟩, -⟩ := hissues
  obtain ⟨hsafe, hnodup⟩ := checkFiles_eq_nil hfiles
  refine ⟨_, ⟨?_, fun file hfile => (hsafe file hfile).1, ?_, ?_⟩, rfl⟩
  · rw [collected_reads hcollected]
    exact (List.perm_insertionSort _ options.files).map _
  · have hmap : (options.files.map fun file => normalizePath file.path) =
        (options.files.map (·.path)).map normalizePath := by
      rw [List.map_map]
      rfl
    exact (hmap ▸ hnodup).of_map
  · rintro hnil
    unfold checkManifest at hmanifest
    rw [hnil] at hmanifest
    exact nomatch hmanifest

section

variable {options : CollectPackageOptions} {digested : List DigestedFile} (h : Collected options digested)

include h

theorem Collected.paths : (digested.map (·.path)).Perm (options.files.map (·.path)) := by
  have hmap := h.reads.map Prod.fst
  unfold CollectPackageOptions.contents at hmap
  rwa [List.map_map, List.map_map] at hmap

theorem Collected.nul_free : ∀ file ∈ digested, (0 : UInt8) ∉ bytes file.path := by
  intro file hfile hzero
  obtain ⟨entry, hentry, hpath⟩ := List.mem_map.mp (h.paths.mem_iff.mp (List.mem_map_of_mem hfile))
  have hsafe := h.safe entry hentry
  unfold safePackagePath at hsafe
  rw [Bool.and_eq_true, Bool.not_eq_true'] at hsafe
  obtain ⟨c, hc, hnul⟩ := zero_mem_bytes.mp hzero
  rw [← show entry.path = file.path from hpath] at hc
  have hcontrol := List.any_eq_false.mp hsafe.2 c hc
  rw [hnul] at hcontrol
  exact hcontrol rfl

theorem Collected.apart : ∀ f ∈ digested, ∀ g ∈ digested, BytesLe (fun file => bytes file.path) f g →
    BytesLe (fun file => bytes file.path) g f → f = g := by
  intro f hf g hg hle hge
  exact List.inj_on_of_nodup_map (h.paths.nodup_iff.mpr h.distinct) hf hg (bytes_injective (hle.antisymm hge))

/-- The same files in any order have the same digest. -/
theorem Collected.digest_eq {D : Type} {sha256 : List UInt8 → D} {files : List DigestedFile}
    (hfiles : files.Perm digested) :
    packageFilesDigest sha256 files = packageFilesDigest sha256 digested := by
  unfold packageFilesDigest
  rw [StableSort.insertionSort_eq_of_perm hfiles.symm h.apart]

/-- The digest tells the files of two packages apart. -/
theorem Collected.digest_inj {D : Type} {sha256 : List UInt8 → D} (hsha : Function.Injective sha256)
    {options' : CollectPackageOptions} {digested' : List DigestedFile} (h' : Collected options' digested') :
    packageFilesDigest sha256 digested = packageFilesDigest sha256 digested' ↔ digested.Perm digested' := by
  refine ⟨fun hdigest => ?_, fun hperm => h'.digest_eq hperm⟩
  have hsorted := flatMap_framed_inj (fun f hf => h.nul_free f ((List.mem_insertionSort _).mp hf))
    (fun f hf => h'.nul_free f ((List.mem_insertionSort _).mp hf)) (hsha hdigest)
  exact (List.perm_insertionSort _ digested).symm.trans (hsorted ▸ List.perm_insertionSort _ digested')

end

/-! ## The kernel's digest -/

section

variable {decode : String → Option (List UInt8)}

theorem decodeFile_eq_ok {file : Digest.PackageFile} {digested : DigestedFile}
    (h : Digest.decodeFile decode file = .ok digested) :
    (bytes file.path).length ≤ 512 ∧ digested.read = (file.path, decode file.contentBase64) := by
  unfold Digest.decodeFile at h
  split at h
  · exact nomatch h
  · rename_i hpath
    rw [Bool.or_eq_true, Bool.or_eq_true, decide_eq_true_iff] at hpath
    cases hdecode : decode file.contentBase64 with
    | none =>
      rw [hdecode] at h
      exact nomatch h
    | some content =>
      rw [hdecode] at h
      exact ⟨Nat.le_of_not_lt fun hlong => hpath (.inl (.inr hlong)), by rw [← Except.ok.inj h]; rfl⟩

theorem decodeFile_of_safe {file : Digest.PackageFile} {content : List UInt8}
    (hsafe : safePackagePath file.path = true) (hshort : (bytes file.path).length ≤ 512)
    (hdecode : decode file.contentBase64 = some content) :
    ∃ digested, Digest.decodeFile decode file = .ok digested := by
  unfold safePackagePath at hsafe
  simp only [Bool.and_eq_true, Bool.not_eq_true', Bool.or_eq_false_iff] at hsafe
  obtain ⟨⟨⟨⟨hnonempty, -⟩, hrelative⟩, -⟩, -⟩ := hsafe
  refine ⟨⟨file.path, content⟩, ?_⟩
  unfold Digest.decodeFile
  rw [hnonempty, hrelative, decide_eq_false (Nat.not_lt_of_le hshort), hdecode]
  rfl

theorem decodeFiles_eq_ok {files : List Digest.PackageFile} {digested : List DigestedFile}
    (h : files.mapM (Digest.decodeFile decode) = .ok digested) :
    (∀ file ∈ files, (bytes file.path).length ≤ 512) ∧
      digested.map DigestedFile.read = files.map fun file => (file.path, decode file.contentBase64) := by
  induction files generalizing digested with
  | nil =>
    obtain rfl : [] = digested := Except.ok.inj h
    exact ⟨nofun, rfl⟩
  | cons file files ih =>
    rw [List.mapM_cons] at h
    obtain ⟨first, hfirst, hrest⟩ := bind_eq_ok.mp h
    obtain ⟨others, hothers, hdone⟩ := bind_eq_ok.mp hrest
    obtain rfl : first :: others = digested := Except.ok.inj hdone
    obtain ⟨hshort, hread⟩ := decodeFile_eq_ok hfirst
    obtain ⟨hshorts, hreads⟩ := ih hothers
    exact ⟨List.forall_mem_cons.mpr ⟨hshort, hshorts⟩, by rw [List.map_cons, hread, hreads, List.map_cons]⟩

theorem exists_decodeFiles {files : List Digest.PackageFile}
    (h : ∀ file ∈ files, ∃ digested, Digest.decodeFile decode file = .ok digested) :
    ∃ digested, files.mapM (Digest.decodeFile decode) = .ok digested := by
  induction files with
  | nil => exact ⟨[], rfl⟩
  | cons file files ih =>
    obtain ⟨first, hfirst⟩ := h file List.mem_cons_self
    obtain ⟨others, hothers⟩ := ih fun other hother => h other (List.mem_cons_of_mem _ hother)
    exact ⟨first :: others, by
      rw [List.mapM_cons]
      exact bind_eq_ok.mpr ⟨first, hfirst, bind_eq_ok.mpr ⟨others, hothers, rfl⟩⟩⟩

/-- The list holds the files of the package, in any order. -/
def SameFiles (decode : String → Option (List UInt8)) (options : CollectPackageOptions)
    (files : List Digest.PackageFile) : Prop :=
  (files.map fun file => (file.path, decode file.contentBase64)).Perm options.contents

theorem Collected.kernel_digest {D : Type} {sha256 : List UInt8 → D} {options : CollectPackageOptions}
    {digested : List DigestedFile} (h : Collected options digested) {files : List Digest.PackageFile}
    (hfiles : SameFiles decode options files) :
    Digest.packageFilesDigest sha256 decode files = .ok (packageFilesDigest sha256 digested) ↔
      ∀ file ∈ options.files, (bytes file.path).length ≤ 512 := by
  have hpaths : (files.map (·.path)).Perm (options.files.map (·.path)) := by
    have hmap := hfiles.map Prod.fst
    unfold CollectPackageOptions.contents at hmap
    rwa [List.map_map, List.map_map] at hmap
  have hnonempty : files.isEmpty = false := by
    cases files with
    | nil => exact absurd (List.map_eq_nil_iff.mp (List.nil_perm.mp hpaths)) h.nonempty
    | cons => rfl
  unfold Digest.packageFilesDigest
  rw [hnonempty, if_neg Bool.false_ne_true]
  constructor
  · intro hdigest entry hentry
    obtain ⟨decoded, hdecoded, -⟩ := bind_eq_ok.mp hdigest
    obtain ⟨file, hfile, hpath⟩ := List.mem_map.mp (hpaths.mem_iff.mpr (List.mem_map_of_mem hentry))
    exact (show file.path = entry.path from hpath) ▸ (decodeFiles_eq_ok hdecoded).1 file hfile
  · intro hshort
    obtain ⟨decoded, hdecoded⟩ : ∃ decoded, files.mapM (Digest.decodeFile decode) = .ok decoded := by
      refine exists_decodeFiles fun file hfile => ?_
      obtain ⟨entry, hentry, hpath⟩ := List.mem_map.mp (hpaths.mem_iff.mp (List.mem_map_of_mem hfile))
      have hread : (file.path, decode file.contentBase64) ∈ digested.map DigestedFile.read :=
        (hfiles.trans h.reads.symm).mem_iff.mp (List.mem_map_of_mem hfile)
      obtain ⟨d, -, hd⟩ := List.mem_map.mp hread
      obtain ⟨-, hcontent⟩ := Prod.mk.inj hd
      refine decodeFile_of_safe ((show entry.path = file.path from hpath) ▸ h.safe entry hentry)
        ((show entry.path = file.path from hpath) ▸ hshort entry hentry) hcontent.symm
    refine bind_eq_ok.mpr ⟨decoded, hdecoded, ?_⟩
    have hreads : (decoded.map DigestedFile.read).Perm (digested.map DigestedFile.read) := by
      rw [(decodeFiles_eq_ok hdecoded).2]
      exact hfiles.trans h.reads.symm
    exact congrArg _ (h.digest_eq ((List.map_perm_map_iff DigestedFile.read_injective).mp hreads))

end

/-- The package has the content at the path. -/
def Holds (options : CollectPackageOptions) (path : String) (content : List UInt8) : Prop :=
  (∃ file ∈ options.files, file.path = path) ∧ options.readContent path = some content

theorem Collected.holds_iff {options : CollectPackageOptions} {digested : List DigestedFile}
    (h : Collected options digested) {path : String} {content : List UInt8} :
    Holds options path content ↔ ⟨path, content⟩ ∈ digested := by
  have hmem : (path, some content) ∈ digested.map DigestedFile.read ↔ ⟨path, content⟩ ∈ digested := by
    rw [List.mem_map]
    refine ⟨?_, fun hmem => ⟨_, hmem, rfl⟩⟩
    rintro ⟨d, hd, hread⟩
    rwa [← (DigestedFile.read_injective hread : d = ⟨path, content⟩)]
  rw [← hmem, h.reads.mem_iff]
  unfold Holds CollectPackageOptions.contents
  rw [List.mem_map]
  constructor
  · rintro ⟨⟨file, hfile, rfl⟩, hread⟩
    exact ⟨file, hfile, by rw [hread]⟩
  · rintro ⟨file, hfile, heq⟩
    obtain ⟨hpath, hread⟩ := Prod.mk.inj heq
    exact ⟨⟨file, hfile, hpath⟩, hpath ▸ hread⟩

/-- For every accepted package the kernel computes the digest of the snapshot, from the files in any order, exactly
when its paths have at most 512 bytes; and the digests of two accepted packages are equal exactly when the packages
have the same contents at the same paths. -/
theorem package_digest_shared {D : Type} (sha256 : List UInt8 → D) (hsha : Function.Injective sha256)
    (canonicalOf : String → Option String) (decode : String → Option (List UInt8)) :
    (∀ options snapshot files, collectPackage sha256 canonicalOf options = .ok snapshot →
      SameFiles decode options files →
      (Digest.packageFilesDigest sha256 decode files = .ok snapshot.digest ↔
        ∀ file ∈ options.files, (bytes file.path).length ≤ 512)) ∧
    ∀ options options' snapshot snapshot', collectPackage sha256 canonicalOf options = .ok snapshot →
      collectPackage sha256 canonicalOf options' = .ok snapshot' →
      (snapshot.digest = snapshot'.digest ↔ ∀ path content, Holds options path content ↔ Holds options' path content) := by
  constructor
  · intro options snapshot files haccepted hfiles
    obtain ⟨digested, h, hdigest⟩ := collectPackage_eq_ok haccepted
    rw [hdigest]
    exact h.kernel_digest hfiles
  · intro options options' snapshot snapshot' haccepted haccepted'
    obtain ⟨digested, h, hdigest⟩ := collectPackage_eq_ok haccepted
    obtain ⟨digested', h', hdigest'⟩ := collectPackage_eq_ok haccepted'
    have hnodup := (h.paths.nodup_iff.mpr h.distinct).of_map
    have hnodup' := (h'.paths.nodup_iff.mpr h'.distinct).of_map
    rw [hdigest, hdigest', h.digest_inj hsha h', List.perm_ext_iff_of_nodup hnodup hnodup']
    refine ⟨fun hmem path content => ?_, fun hholds file => ?_⟩
    · rw [h.holds_iff, h'.holds_iff, hmem]
    · exact h.holds_iff.symm.trans ((hholds file.path file.content).trans h'.holds_iff)

/-- A package of one empty file, its entrypoint. -/
def samplePackage (path : String) : CollectPackageOptions where
  manifest := ⟨path, "a", "\x7b\x7d"⟩
  files := [⟨path, 0, "file", none⟩]
  readContent _ := some []
  statFile := some (fun _ => some ⟨.regular, 0, 0⟩, fun _ => some ⟨.regular, 0, 0⟩)
  manifestText := none

/-- The base64 text of no bytes. -/
def decodeEmpty (text : String) : Option (List UInt8) := if text = "" then some [] else none

def sampleSnapshot (path : String) : PackageSnapshot (List UInt8) :=
  ⟨packageFilesDigest id [⟨path, []⟩], 1, 0, [⟨path, 0, "file", none⟩]⟩

theorem samplePackage_accepted {path : String} (hpath : checkFiles [] (samplePackage path).files = [])
    (hmanifest : checkManifest (samplePackage path).manifest [normalizePath path] = []) :
    collectPackage id (fun _ => none) (samplePackage path) = .ok (sampleSnapshot path) := by
  refine acceptUnless_eq_ok.mpr ⟨?_, rfl⟩
  simp only [List.append_eq_nil_iff]
  exact ⟨⟨⟨⟨⟨⟨rfl, hpath⟩, rfl⟩, rfl⟩, rfl⟩, hmanifest⟩, rfl⟩

theorem samplePackage_sameFiles (path : String) : SameFiles decodeEmpty (samplePackage path) [⟨path, ""⟩] :=
  List.Perm.refl _

/-- The kernel takes no longer path. -/
theorem length_le_of_kernel_digest {path : String} {digest : List UInt8}
    (h : Digest.packageFilesDigest id decodeEmpty [⟨path, ""⟩] = .ok digest) : (bytes path).length ≤ 512 := by
  obtain ⟨decoded, hdecoded, -⟩ := bind_eq_ok.mp h
  exact (decodeFiles_eq_ok hdecoded).1 _ List.mem_cons_self

theorem package_digest_shared_short :
    Digest.packageFilesDigest id decodeEmpty [⟨"a/x", ""⟩] = .ok (sampleSnapshot "a/x").digest := by
  refine ((package_digest_shared id Function.injective_id (fun _ => none) decodeEmpty).1 (samplePackage "a/x")
    (sampleSnapshot "a/x") [⟨"a/x", ""⟩] (samplePackage_accepted (by decide +kernel) (by decide +kernel))
    (samplePackage_sameFiles _)).mpr ?_
  exact List.forall_mem_singleton.mpr (by decide +kernel)

/-- A path of 302 characters that takes 602 bytes. -/
def longPath : String := "a/" ++ String.ofList (List.replicate 300 '\u00e9')

theorem longPath_toList : longPath.toList = 'a' :: '/' :: List.replicate 300 '\u00e9' := by
  unfold longPath
  have hstart : "a/".toList = ['a', '/'] := by decide
  simp only [String.toList_append, String.toList_ofList, hstart, List.cons_append, List.nil_append]

theorem longPath_safe : safePackagePath longPath = true := by
  unfold safePackagePath startsWith segments utf16Length
  rw [longPath_toList]
  decide +kernel

theorem normalizePath_longPath : normalizePath longPath = longPath := by
  have hsegments : segments longPath = ["a", String.ofList (List.replicate 300 '\u00e9')] := by
    unfold segments
    rw [longPath_toList]
    decide +kernel
  unfold normalizePath
  rw [hsegments]
  decide +kernel

theorem longPath_accepted : collectPackage id (fun _ => none) (samplePackage longPath) = .ok (sampleSnapshot longPath) := by
  have hfiles : checkFiles [] (samplePackage longPath).files = [] := by
    unfold checkFiles
    simp only [samplePackage, longPath_safe, List.append_eq_nil_iff, issueUnless_eq_nil]
    exact ⟨⟨⟨⟨trivial, rfl⟩, rfl⟩, by decide⟩, rfl⟩
  have hassets : startsWith longPath ("a" ++ "/") = true := by
    unfold startsWith
    rw [longPath_toList]
    decide +kernel
  have hmanifest : checkManifest (samplePackage longPath).manifest [normalizePath longPath] = [] := by
    unfold checkManifest
    rw [normalizePath_longPath]
    simp only [samplePackage, hassets, List.append_eq_nil_iff, issueUnless_eq_nil, List.any_cons, Bool.true_or]
    exact ⟨⟨by rw [List.contains_cons, BEq.rfl, Bool.true_or], trivial⟩, trivial⟩
  exact samplePackage_accepted hfiles hmanifest

theorem longPath_long : ¬ (bytes longPath).length ≤ 512 := by decide +kernel

/-- The contracts accept the path, the kernel refuses it. -/
theorem kernel_refuses_long_path : ¬ ∀ options snapshot files,
    collectPackage id (fun _ => none) options = .ok snapshot → SameFiles decodeEmpty options files →
      Digest.packageFilesDigest id decodeEmpty files = .ok snapshot.digest :=
  fun h => longPath_long (length_le_of_kernel_digest (h _ _ _ longPath_accepted (samplePackage_sameFiles longPath)))

end Iweb.Packages
