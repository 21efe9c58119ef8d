import Iweb.Catalog.Proofs.ReadProofs
import Iweb.Contracts.OciLayout
import Iweb.Contracts.Proofs.CanonicalFileProofs
import Iweb.Foundations.Delimited
import Iweb.Kernel.Text
import Iweb.Kernel.TextBytes

/-!
# What a package layout binds

An accepted layout holds the files of its descriptors and no others, each blob under the digest of its bytes. So the
index determines the whole package, the package digest determines the index, and a version id the package digest, as
long as the texts that are digested on the way do not collide.
-/

namespace Iweb.Contract.OciLayout

open Json StrictJson

variable {ν : Type} {L : LayoutRules ν}

/-! ## What is read -/

/-- What was read for a layout. -/
structure Reads (L : LayoutRules ν) (files : LayoutFiles) (bounds : WasmAdmissionBounds)
    (layout : ValidatedWasmOciLayout) : Prop where
  paths : pathIssues files = []
  layoutFile : files.1.lookup "oci-layout" = some layout.layoutBytes
  indexFile : files.1.lookup "index.json" = some layout.indexBytes
  imageLayout : (checkLayoutFile L layout.layoutBytes).Accepts ()
  index : (readIndex L layout.indexBytes).Accepts layout.indexDescriptor
  manifestBlob : (readBlob L files bounds layout.indexDescriptor "manifest").Accepts layout.manifestBytes
  manifest : (readManifest L bounds layout.manifestBytes ("/" ++ blobPathFor layout.indexDescriptor.digest)).Accepts
    layout.manifest
  configBlob : (readBlob L files bounds layout.manifest.config "config").Accepts layout.configBytes
  config : (readConfig L layout.configBytes ("/" ++ blobPathFor layout.manifest.config.digest)).Accepts layout.config
  layerBlobs : List.Forall₂ (fun layer bytes => (readBlob L files bounds layer "layer").Accepts bytes)
    layout.manifest.layers layout.layerBytes
  distinct : duplicateIssues [] (digestUses layout.indexDescriptor layout.manifest) = []
  blobPaths : layout.blobPaths = referencedPaths layout.indexDescriptor layout.manifest
  unreferenced : unreferencedIssues files layout.blobPaths = []
  entry : entryIssue layout = none
  size : sizeIssue bounds layout = none

variable {files files' : LayoutFiles} {bounds bounds' : WasmAdmissionBounds}
  {layout layout' : ValidatedWasmOciLayout} {package package' : ValidatedWasmPackage}

theorem fixedFiles_accepts {pair : List UInt8 × List UInt8} (h : (fixedFiles files).Accepts pair) :
    files.1.lookup "oci-layout" = some pair.1 ∧ files.1.lookup "index.json" = some pair.2 := by
  obtain ⟨hvalue, -⟩ := h
  unfold fixedFiles at hvalue
  dsimp only at hvalue
  obtain ⟨layoutBytes, hlayout, hvalue⟩ := Option.bind_eq_some_iff.mp hvalue
  obtain ⟨indexBytes, hindex, hvalue⟩ := Option.bind_eq_some_iff.mp hvalue
  cases hvalue
  exact ⟨hlayout, hindex⟩

theorem reads_of_checkLayout (h : (checkLayout L files bounds).Accepts layout) : Reads L files bounds layout := by
  unfold checkLayout at h
  simp only [Report.accepts_bind, Report.accepts_settled, Report.accepts_note, Report.accepts_require,
    Report.accepts_pure] at h
  obtain ⟨layout', ⟨read, hread, -, hunreferenced, rfl⟩, -, hentry, -, hsize, rfl⟩ := h
  unfold readLayout at hread
  simp only [Report.accepts_bind, Report.accepts_note, Report.accepts_pure] at hread
  obtain ⟨-, hpaths, ⟨layoutBytes, indexBytes⟩, hfixed, _, himage, index, hindex, manifestBytes, hmanifestBlob, manifest,
    hmanifest, configBytes, hconfigBlob, config, hconfig, layerBytes, hlayers, -, hdistinct, rfl⟩ := hread
  obtain ⟨hlayout, hindexFile⟩ := fixedFiles_accepts hfixed
  exact ⟨hpaths, hlayout, hindexFile, himage, hindex, hmanifestBlob, hmanifest, hconfigBlob, hconfig,
    hlayers.each.imp fun _ _ h => h.elim fun _ h => h, hdistinct, rfl, hunreferenced, hentry, hsize⟩

/-- An accepted package was read, and its digest is that of its layout. -/
theorem reads_of_accepted (h : validateWasmOciLayoutV1 L files bounds = .ok package) :
    Reads L files bounds package.layout ∧ package.packageDigest = computeWasmPackageDigestV1 L package.layout := by
  unfold validateWasmOciLayoutV1 at h
  cases hbounds : validateWasmAdmissionBounds bounds with
  | error issues =>
    rw [hbounds] at h
    cases h
  | ok input =>
    rw [hbounds] at h
    dsimp only at h
    cases hvalue : (checkLayout L files bounds).value with
    | none =>
      rw [hvalue] at h
      exact absurd h validationFailure_ne_ok
    | some layout =>
      rw [hvalue] at h
      cases h
      have hclean : (checkLayout L files bounds).Clean :=
        (Report.clean_settled _).bind fun _ => (Report.clean_require _).bind fun _ =>
          (Report.clean_require _).bind fun _ => Report.clean_pure _
      exact ⟨reads_of_checkLayout (hclean layout hvalue), rfl⟩

/-- A blob is found under the path of its descriptor, and is what the descriptor says. -/
theorem readBlob_accepts {descriptor : WasmOciDescriptor} {noun : String} {blob : List UInt8}
    (h : (readBlob L files bounds descriptor noun).Accepts blob) :
    (blobs files).lookup (blobPathFor descriptor.digest) = some blob ∧
      (L.sha256Hex blob).1 = digestHex descriptor.digest ∧ descriptor.size = blob.length ∧ 0 < blob.length ∧
        blob.length ≤ effectiveBlobMax bounds := by
  unfold readBlob at h
  dsimp only at h
  cases hlookup : (blobs files).lookup (blobPathFor descriptor.digest) with
  | none =>
    rw [hlookup] at h
    exact absurd h Report.not_accepts_refuse
  | some found =>
    rw [hlookup] at h
    simp only [Report.accepts_bind, Report.accepts_require, Report.accepts_pure] at h
    obtain ⟨-, hverify, rfl⟩ := h
    unfold verifyBlobBytes at hverify
    split_ifs at hverify with hempty hdigest hsize hmax
    exact ⟨rfl, not_not.mp hdigest, not_not.mp hsize, by omega, by omega⟩

/-! ## The index determines the package -/

/-- The digests tell the texts of the one list from those of the other. -/
def Separates (L : LayoutRules ν) (texts texts' : List (List UInt8)) : Prop :=
  ∀ a ∈ texts, ∀ b ∈ texts', L.sha256Hex a = L.sha256Hex b → a = b

theorem Separates.mono {texts texts' part part' : List (List UInt8)} (h : Separates L texts texts')
    (hpart : part ⊆ texts) (hpart' : part' ⊆ texts') : Separates L part part' :=
  fun a ha b hb => h a (hpart ha) b (hpart' hb)

theorem separates_or_collides (L : LayoutRules ν) (texts texts' : List (List UInt8)) :
    Separates L texts texts' ∨ L.Collides texts texts' := by
  by_cases h : L.Collides texts texts'
  · exact .inr h
  · refine .inl fun a ha b hb heq => ?_
    by_contra hne
    exact h ⟨a, ha, b, hb, hne, heq⟩

@[simp]
theorem mem_hashed {text : List UInt8} : text ∈ layout.hashed L ↔ text = packageDigestText L layout ∨
    text = layout.layoutBytes ∨ text = layout.indexBytes ∨ text = layout.manifestBytes ∨ text = layout.configBytes ∨
      text ∈ layout.layerBytes := by
  simp only [ValidatedWasmOciLayout.hashed, List.mem_cons]

theorem blob_digests_eq {descriptor : WasmOciDescriptor} {noun noun' : String} {blob blob' : List UInt8}
    (h : (readBlob L files bounds descriptor noun).Accepts blob)
    (h' : (readBlob L files' bounds' descriptor noun').Accepts blob') : L.sha256Hex blob = L.sha256Hex blob' :=
  Subtype.ext ((readBlob_accepts h).2.1.trans (readBlob_accepts h').2.1.symm)

theorem blobs_unique {layers : List WasmOciDescriptor} {found found' : List (List UInt8)}
    (hseparates : Separates L found found')
    (h : List.Forall₂ (fun layer bytes => (readBlob L files bounds layer "layer").Accepts bytes) layers found)
    (h' : List.Forall₂ (fun layer bytes => (readBlob L files' bounds' layer "layer").Accepts bytes) layers found') :
    found = found' := by
  induction h generalizing found' with
  | nil =>
    cases h'
    rfl
  | cons hblob hrest ih =>
    cases h' with
    | cons hblob' hrest' =>
      have hhead := hseparates _ List.mem_cons_self _ List.mem_cons_self (blob_digests_eq hblob hblob')
      have htail := ih (hseparates.mono (List.subset_cons_self _ _) (List.subset_cons_self _ _)) hrest'
      rw [hhead, htail]

theorem layerItems_eq_ok {value : Json} {path : String} {items : List Json} (h : layerItems bounds value path = .ok items) :
    value = .array items ∧ 0 < items.length ∧ items.length ≤ bounds.maxLayerCount := by
  unfold layerItems at h
  split at h
  · cases h
  · split_ifs at h with hmax
    cases h
    rename_i hne
    exact ⟨rfl, List.length_pos_iff.mpr fun hnil => hne hnil, Nat.le_of_not_lt hmax⟩
  · cases h

/-- The manifest that is read off the bytes does not depend on the bounds. -/
theorem manifest_unique {manifestBytes : List UInt8} {path : String} {manifest manifest' : WasmOciManifest}
    (h : (readManifest L bounds manifestBytes path).Accepts manifest)
    (h' : (readManifest L bounds' manifestBytes path).Accepts manifest') : manifest = manifest' := by
  unfold readManifest at h h'
  simp only [Report.accepts_bind, Report.accepts_note, Report.accepts_ofExcept, Report.accepts_pure] at h h'
  obtain ⟨value, hvalue, members, hmembers, -, -, -, -, config, hconfig, items, hitems, layers, hlayers, rfl⟩ := h
  obtain ⟨value', hvalue', members', hmembers', -, -, -, -, config', hconfig', items', hitems', layers', hlayers', rfl⟩ := h'
  obtain rfl := hvalue.unique hvalue'
  obtain rfl := Except.ok.inj (hmembers.symm.trans hmembers')
  obtain rfl := hconfig.unique hconfig'
  obtain rfl := Json.array.inj ((layerItems_eq_ok hitems).1.symm.trans (layerItems_eq_ok hitems').1)
  rw [hlayers.unique hlayers']

/-- Everything of a layout is determined by its two fixed files. -/
theorem Reads.unique (hseparates : Separates L (layout.hashed L) (layout'.hashed L)) (h : Reads L files bounds layout)
    (h' : Reads L files' bounds' layout') (hlayout : layout.layoutBytes = layout'.layoutBytes)
    (hindexBytes : layout.indexBytes = layout'.indexBytes) : layout = layout' := by
  obtain ⟨layoutBytes, indexBytes, index, manifestBytes, manifest, configBytes, config, layerBytes, blobPaths⟩ := layout
  obtain ⟨layoutBytes', indexBytes', index', manifestBytes', manifest', configBytes', config', layerBytes',
    blobPaths'⟩ := layout'
  obtain rfl := hlayout
  obtain rfl := hindexBytes
  obtain rfl := h.index.unique h'.index
  obtain rfl := hseparates _ (by simp) _ (by simp)
    (blob_digests_eq h.manifestBlob h'.manifestBlob)
  obtain rfl := manifest_unique h.manifest h'.manifest
  obtain rfl := hseparates _ (by simp) _ (by simp)
    (blob_digests_eq h.configBlob h'.configBlob)
  obtain rfl := h.config.unique h'.config
  have hlayers : Separates L layerBytes layerBytes' :=
    hseparates.mono (fun _ hmem => by simp [hmem]) fun _ hmem => by simp [hmem]
  obtain rfl := blobs_unique hlayers h.layerBlobs h'.layerBlobs
  obtain rfl := h.blobPaths.trans h'.blobPaths.symm
  rfl

/-! ## Digests and paths -/

theorem toNat_of_isHexLower {b : UInt8} (h : isHexLower b = true) : b.toNat ≤ 0x7f := by
  unfold isHexLower isDecimalDigit inRange at h
  simp only [Bool.or_eq_true, Bool.and_eq_true, decide_eq_true_eq] at h
  rcases h with h | h
  · exact Nat.le_trans h.2 (by decide)
  · exact Nat.le_trans h.2 (by decide)

theorem bytes_of_isOciSha256 {digest : String} (h : isOciSha256 digest = true) :
    IsAscii digest ∧ (bytes digest).take 7 = bytes "sha256:" := by
  unfold isOciSha256 at h
  simp only [Bool.and_eq_true, List.isPrefixOf_iff_prefix, List.all_eq_true] at h
  obtain ⟨⟨⟨rest, hbytes⟩, -⟩, hhex⟩ := h
  rw [← hbytes, List.drop_left' (show (bytes "sha256:").length = 7 from rfl)] at hhex
  refine ⟨fun b hb => ?_, hbytes ▸ List.take_left' rfl⟩
  rw [← hbytes] at hb
  rcases List.mem_append.mp hb with hb | hb
  · have hall : (bytes "sha256:").all (fun b => decide (b.toNat ≤ 0x7f)) = true := by decide
    exact of_decide_eq_true (List.all_eq_true.mp hall b hb)
  · exact toNat_of_isHexLower (hhex b hb)

/-- A digest can be read off the path of its blob. -/
theorem blobPathFor_inj {digest digest' : String} (h : isOciSha256 digest = true) (h' : isOciSha256 digest' = true)
    (heq : blobPathFor digest = blobPathFor digest') : digest = digest' := by
  obtain ⟨hascii, htake⟩ := bytes_of_isOciSha256 h
  obtain ⟨hascii', htake'⟩ := bytes_of_isOciSha256 h'
  have hlist := congrArg String.toList heq
  unfold blobPathFor digestHex at hlist
  simp only [String.toList_append, String.toList_ofList, hascii.toList, hascii'.toList, ← List.map_drop] at hlist
  have hdrop := ofUInt8_injective.list_map (List.append_cancel_left hlist)
  apply bytes_injective
  rw [← List.take_append_drop 7 (bytes digest), ← List.take_append_drop 7 (bytes digest'), htake, htake', hdrop]

theorem blobPathFor_ne (digest : String) : blobPathFor digest ≠ "oci-layout" ∧ blobPathFor digest ≠ "index.json" := by
  have hhead : (blobPathFor digest).toList.head? = some 'b' := by
    unfold blobPathFor
    rw [String.toList_append]
    rfl
  constructor <;> intro heq <;> rw [heq] at hhead <;> cases hhead

theorem ok_of_requireText {ok : String → Bool} {value : Json} {code path message text : String}
    (h : (requireText ok value code path message).1 = some text) : ok text = true := by
  unfold requireText checkedIf at h
  split at h
  · split_ifs at h with hok
    cases h
    exact hok
  · cases h

theorem isOciSha256_of_parse {input : Json} {path code : String} {allowed : List String} {minimumSize : Nat}
    {descriptor : WasmOciDescriptor}
    (h : parseOciDescriptor input path code allowed minimumSize = (some descriptor, [])) :
    isOciSha256 descriptor.digest = true := by
  unfold parseOciDescriptor at h
  split at h
  · cases h
  · obtain ⟨mediaType, -, h⟩ := Option.bind_eq_some_iff.mp (congrArg Prod.fst h)
    obtain ⟨digest, hdigest, h⟩ := Option.bind_eq_some_iff.mp h
    obtain ⟨size, -, h⟩ := Option.bind_eq_some_iff.mp h
    cases h
    exact ok_of_requireText hdigest

theorem Reads.isOciSha256 (h : Reads L files bounds layout) :
    ∀ descriptor ∈ layout.descriptors, isOciSha256 descriptor.digest = true := by
  have hindex := h.index
  have hmanifest := h.manifest
  unfold readIndex at hindex
  unfold readManifest at hmanifest
  simp only [Report.accepts_bind, Report.accepts_pure, Report.accepts_ofPair] at hindex hmanifest
  obtain ⟨_, -, members, -, _, -, _, -, hindex⟩ := hindex
  obtain ⟨_, -, _, -, _, -, _, -, config, hconfig, _, -, layers, hlayers, hmanifest⟩ := hmanifest
  unfold ValidatedWasmOciLayout.descriptors
  rw [← hmanifest]
  intro descriptor hdescriptor
  rcases List.mem_cons.mp hdescriptor with rfl | hdescriptor
  · split at hindex
    · exact absurd hindex Report.not_accepts_refuse
    · exact isOciSha256_of_parse (Report.accepts_ofPair.mp hindex)
  · rcases List.mem_cons.mp hdescriptor with rfl | hdescriptor
    · exact isOciSha256_of_parse hconfig
    · obtain ⟨i, item, hitem⟩ := hlayers.of_mem_each hdescriptor
      exact isOciSha256_of_parse (Report.accepts_ofPair.mp hitem)

theorem nodup_of_duplicateIssues {seen uses : List (String × String)} (h : duplicateIssues seen uses = []) :
    (uses.map Prod.fst).Nodup ∧ ∀ digest ∈ uses.map Prod.fst, seen.lookup digest = none := by
  induction uses generalizing seen with
  | nil => exact ⟨.nil, fun _ hmem => absurd hmem List.not_mem_nil⟩
  | cons use uses ih =>
    obtain ⟨digest, path⟩ := use
    rw [duplicateIssues] at h
    split at h
    · cases h
    · rename_i hnone
      obtain ⟨hnodup, hfresh⟩ := ih h
      refine ⟨List.nodup_cons.mpr ⟨fun hmem => ?_, hnodup⟩, fun digest' hmem => ?_⟩
      · have := hfresh digest hmem
        rw [List.lookup_cons_self] at this
        cases this
      · rcases List.mem_cons.mp hmem with rfl | hmem
        · exact hnone
        · have hlookup := hfresh digest' hmem
          rw [List.lookup_cons] at hlookup
          split at hlookup
          · cases hlookup
          · exact hlookup

theorem Reads.nodup (h : Reads L files bounds layout) :
    (layout.descriptors.map fun descriptor => blobPathFor descriptor.digest).Nodup := by
  have hdistinct := (nodup_of_duplicateIssues h.distinct).1
  unfold digestUses at hdistinct
  rw [List.map_cons, List.map_cons, List.map_map] at hdistinct
  have hdigests : (layout.descriptors.map WasmOciDescriptor.digest).Nodup := by
    unfold ValidatedWasmOciLayout.descriptors
    rw [List.map_cons, List.map_cons, ← List.zipIdx_map_fst 0 layout.manifest.layers, List.map_map]
    exact hdistinct
  refine (List.nodup_map_iff_inj_on hdigests.of_map).mpr fun d hd d' hd' heq => ?_
  have hdigest := blobPathFor_inj (h.isOciSha256 d hd) (h.isOciSha256 d' hd') heq
  exact List.inj_on_of_nodup_map hdigests hd hd' hdigest

/-! ## The files of an accepted layout -/

/-- What is found under a path stands there. -/
theorem mem_of_lookup {entries : List (String × List UInt8)} {path : String} {blob : List UInt8}
    (h : entries.lookup path = some blob) : (path, blob) ∈ entries := by
  obtain ⟨before, after, rfl, -⟩ := List.lookup_eq_some_iff.mp h
  exact List.mem_append_right _ List.mem_cons_self

/-- A path has one file. -/
theorem file_unique (files : LayoutFiles) {path : String} {blob blob' : List UInt8} (h : (path, blob) ∈ files.1)
    (h' : (path, blob') ∈ files.1) : blob = blob' :=
  congrArg Prod.snd (List.inj_on_of_nodup_map files.2 h h' rfl)

theorem Reads.contents_eq (h : Reads L files bounds layout) : layout.contents.map Prod.fst = layout.descriptors ∧
    layout.contents.map Prod.snd = layout.manifestBytes :: layout.configBytes :: layout.layerBytes := by
  have hlength := h.layerBlobs.length_eq
  have hlengths : layout.descriptors.length =
      (layout.manifestBytes :: layout.configBytes :: layout.layerBytes).length := by
    unfold ValidatedWasmOciLayout.descriptors
    simp only [List.length_cons, hlength]
  exact ⟨List.map_fst_zip hlengths.le, List.map_snd_zip hlengths.ge⟩

theorem Reads.blob (h : Reads L files bounds layout) {content : WasmOciDescriptor × List UInt8}
    (hmem : content ∈ layout.contents) : ∃ noun, (readBlob L files bounds content.1 noun).Accepts content.2 := by
  unfold ValidatedWasmOciLayout.contents ValidatedWasmOciLayout.descriptors at hmem
  rw [List.zip_cons_cons, List.zip_cons_cons] at hmem
  rcases List.mem_cons.mp hmem with rfl | hmem
  · exact ⟨_, h.manifestBlob⟩
  · rcases List.mem_cons.mp hmem with rfl | hmem
    · exact ⟨_, h.configBlob⟩
    · exact ⟨_, (List.forall₂_iff_zip.mp h.layerBlobs).2 hmem⟩

theorem Reads.mem_files (h : Reads L files bounds layout) {content : WasmOciDescriptor × List UInt8}
    (hmem : content ∈ layout.contents) : (blobPathFor content.1.digest, content.2) ∈ files.1 := by
  obtain ⟨noun, hblob⟩ := h.blob hmem
  exact (List.mem_filter.mp (mem_of_lookup (readBlob_accepts hblob).1)).1

theorem Reads.nodup_allFiles (h : Reads L files bounds layout) : (layout.allFiles.map Prod.fst).Nodup := by
  have hpaths : layout.allFiles.map Prod.fst = "oci-layout" :: "index.json" ::
      layout.descriptors.map fun descriptor => blobPathFor descriptor.digest := by
    rw [← h.contents_eq.1, List.map_map]
    unfold ValidatedWasmOciLayout.allFiles
    rw [List.map_cons, List.map_cons, List.map_map]
    rfl
  rw [hpaths, List.nodup_cons, List.nodup_cons]
  refine ⟨fun hmem => ?_, fun hmem => ?_, h.nodup⟩
  · rcases List.mem_cons.mp hmem with heq | hmem
    · exact absurd heq (by decide)
    · obtain ⟨descriptor, -, heq⟩ := List.mem_map.mp hmem
      exact (blobPathFor_ne descriptor.digest).1 heq
  · obtain ⟨descriptor, -, heq⟩ := List.mem_map.mp hmem
    exact (blobPathFor_ne descriptor.digest).2 heq

theorem Reads.mem_allFiles (h : Reads L files bounds layout) {path : String} {blob : List UInt8}
    (hfile : (path, blob) ∈ files.1) : (path, blob) ∈ layout.allFiles := by
  unfold ValidatedWasmOciLayout.allFiles
  have hpath := issueUnless_eq_nil.mp (List.flatMap_eq_nil_iff.mp h.paths _ hfile)
  rw [Bool.or_eq_true, Bool.or_eq_true, beq_iff_eq, beq_iff_eq] at hpath
  rcases hpath with (rfl | rfl) | hblob
  · rw [file_unique files hfile (mem_of_lookup h.layoutFile)]
    exact List.mem_cons_self
  · rw [file_unique files hfile (mem_of_lookup h.indexFile)]
    exact List.mem_cons_of_mem _ List.mem_cons_self
  · -- A blob is named by a descriptor, whose bytes stand under the same path.
    have hnamed := issueUnless_eq_nil.mp (List.flatMap_eq_nil_iff.mp h.unreferenced (path, blob)
      (List.mem_filter.mpr ⟨hfile, hblob⟩))
    have hreferenced : layout.blobPaths = layout.descriptors.map (blobPathFor ∘ WasmOciDescriptor.digest) := h.blobPaths
    rw [List.contains_iff_mem, hreferenced, ← h.contents_eq.1, List.map_map] at hnamed
    obtain ⟨content, hcontent, heq⟩ := List.mem_map.mp hnamed
    refine List.mem_cons_of_mem _ (List.mem_cons_of_mem _ (List.mem_map.mpr ⟨content, hcontent, ?_⟩))
    have hfound := h.mem_files hcontent
    rw [show blobPathFor content.1.digest = path from heq] at hfound
    exact Prod.ext heq (file_unique files hfound hfile)

theorem Reads.complete (h : Reads L files bounds layout) : files.1.Perm layout.allFiles := by
  refine (List.perm_ext_iff_of_nodup files.2.of_map h.nodup_allFiles.of_map).mpr fun file =>
    ⟨h.mem_allFiles, fun hfile => ?_⟩
  unfold ValidatedWasmOciLayout.allFiles at hfile
  rcases List.mem_cons.mp hfile with rfl | hfile
  · exact mem_of_lookup h.layoutFile
  · rcases List.mem_cons.mp hfile with rfl | hfile
    · exact mem_of_lookup h.indexFile
    · obtain ⟨content, hcontent, rfl⟩ := List.mem_map.mp hfile
      exact h.mem_files hcontent

theorem canonical_of_read {file : List UInt8} {path : String} {json : Json}
    (h : (readCanonicalJson L file path).Accepts json) : ∃ value, jcsCanonicalBytes L.numbers value = .ok file := by
  unfold readCanonicalJson at h
  simp only [Report.accepts_bind, Report.accepts_ofExcept] at h
  obtain ⟨value, hvalue, -⟩ := h
  obtain ⟨text, -, -, hbytes⟩ := parseCanonicalJson_steps hvalue
  exact ⟨value, hbytes⟩

theorem Reads.canonical (h : Reads L files bounds layout) :
    ∀ file ∈ [layout.layoutBytes, layout.indexBytes, layout.manifestBytes, layout.configBytes],
      ∃ value, jcsCanonicalBytes L.numbers value = .ok file := by
  obtain ⟨_, hlayout, -⟩ := Report.accepts_bind.mp h.imageLayout
  obtain ⟨_, hindex, -⟩ := Report.accepts_bind.mp h.index
  obtain ⟨_, hmanifest, -⟩ := Report.accepts_bind.mp h.manifest
  obtain ⟨_, hconfig, -⟩ := Report.accepts_bind.mp h.config
  simp only [List.forall_mem_cons, List.not_mem_nil, false_implies, implies_true, and_true]
  exact ⟨canonical_of_read hlayout, canonical_of_read hindex, canonical_of_read hmanifest, canonical_of_read hconfig⟩

theorem Reads.layers (h : Reads L files bounds layout) :
    0 < layout.manifest.layers.length ∧ layout.manifest.layers.length ≤ bounds.maxLayerCount := by
  have hmanifest := h.manifest
  unfold readManifest at hmanifest
  simp only [Report.accepts_bind, Report.accepts_ofExcept, Report.accepts_pure] at hmanifest
  obtain ⟨_, -, _, -, _, -, _, -, _, -, items, hitems, layers, hlayers, hmanifest⟩ := hmanifest
  rw [← hmanifest, ← hlayers.each.length_eq]
  exact (layerItems_eq_ok hitems).2

theorem Reads.entryLayer (h : Reads L files bounds layout) :
    ∃ before entry after, layout.manifest.layers = before ++ entry :: after ∧
      entry.mediaType = wasmComponentLayerMediaType ∧ entry.digest = layout.config.runtime.entryLayerDigest ∧
        ∀ layer ∈ before ++ after, layer.digest ≠ entry.digest := by
  have hentry := h.entry
  unfold entryIssue at hentry
  split_ifs at hentry with hlayer
  unfold isEntryLayer at hlayer
  split at hlayer
  · rename_i entry hfilter
    obtain ⟨before, after, hlayers, hbefore, hself, hafter⟩ := List.filter_eq_cons_iff.mp hfilter
    have hdigest := beq_iff_eq.mp hself
    refine ⟨before, entry, after, hlayers, beq_iff_eq.mp hlayer, hdigest, fun layer hmem heq => ?_⟩
    rcases List.mem_append.mp hmem with hmem | hmem
    · exact hbefore layer hmem (beq_iff_eq.mpr (heq.trans hdigest))
    · exact List.filter_eq_nil_iff.mp hafter layer hmem (beq_iff_eq.mpr (heq.trans hdigest))
  · cases hlayer

theorem Reads.budget (h : Reads L files bounds layout) :
    (files.1.map fun file => file.2.length).sum ≤ bounds.maxPackageBytes := by
  have hsize := h.size
  unfold sizeIssue at hsize
  split_ifs at hsize with hle
  have hcontents : layout.contents.map (List.length ∘ Prod.snd) =
      layout.manifestBytes.length :: layout.configBytes.length :: layout.layerBytes.map List.length := by
    rw [← List.map_map, h.contents_eq.2]
    rfl
  have htotal : (layout.allFiles.map fun file => file.2.length).sum = layout.totalBytes := by
    unfold ValidatedWasmOciLayout.allFiles ValidatedWasmOciLayout.totalBytes
    rw [List.map_cons, List.map_cons, List.map_map]
    calc _ = layout.layoutBytes.length + (layout.indexBytes.length +
          (layout.contents.map (List.length ∘ Prod.snd)).sum) := rfl
      _ = _ := by
        rw [hcontents, List.sum_cons, List.sum_cons]
        omega
  calc (files.1.map fun file => file.2.length).sum = (layout.allFiles.map fun file => file.2.length).sum :=
        (h.complete.map _).sum_nat
    _ = layout.totalBytes := htotal
    _ ≤ bounds.maxPackageBytes := hle

theorem hex_bytes (digest : Sha256Hex) :
    (bytes digest.1).length = 64 ∧ ∀ b ∈ bytes digest.1, isHexLower b = true := by
  have h := digest.2
  unfold isSha256Hex at h
  rw [Bool.and_eq_true, beq_iff_eq, List.all_eq_true] at h
  exact h

theorem hex_append_inj {digest digest' : Sha256Hex} {rest rest' : List UInt8}
    (h : bytes digest.1 ++ rest = bytes digest'.1 ++ rest') : digest = digest' ∧ rest = rest' := by
  obtain ⟨hdigest, hrest⟩ := List.append_inj h ((hex_bytes digest).1.trans (hex_bytes digest').1.symm)
  exact ⟨Subtype.ext (bytes_injective hdigest), hrest⟩

theorem newline_notMem_decimal (n : ℕ) : (10 : UInt8) ∉ bytes (toString n) :=
  fun h => absurd ((bytes_decimal n).1 10 h) (by decide)

theorem newline_notMem_fileLine {role : String} (hrole : (10 : UInt8) ∉ bytes (role ++ " ")) (file : List UInt8) :
    (10 : UInt8) ∉ bytes (fileLine L role file) := by
  unfold fileLine
  intro h
  rw [bytes_append, bytes_append, bytes_append, List.mem_append, List.mem_append, List.mem_append] at h
  rcases h with ((h | h) | h) | h
  · exact hrole h
  · exact absurd ((hex_bytes _).2 10 h) (by decide)
  · exact absurd h (by decide)
  · exact newline_notMem_decimal _ h

theorem fileLine_inj {role : String} {file file' : List UInt8}
    (h : bytes (fileLine L role file) = bytes (fileLine L role file')) : L.sha256Hex file = L.sha256Hex file' := by
  unfold fileLine at h
  simp only [bytes_append, List.append_assoc] at h
  exact (hex_append_inj (List.append_cancel_left (List.append_cancel_left h))).1

theorem packageDigestText_inj (h : packageDigestText L layout = packageDigestText L layout') :
    L.sha256Hex layout.layoutBytes = L.sha256Hex layout'.layoutBytes ∧
      L.sha256Hex layout.indexBytes = L.sha256Hex layout'.indexBytes := by
  unfold packageDigestText at h
  simp only [List.cons_append, List.flatMap_cons, bytes_append, List.append_assoc] at h
  have hnewline : bytes "\n" = [10] := rfl
  simp only [hnewline, List.singleton_append] at h
  obtain ⟨hlayout, hrest⟩ := Delimited.append_cons_inj (newline_notMem_fileLine (by decide) _)
    (newline_notMem_fileLine (by decide) _) (List.cons.inj (List.append_cancel_left h)).2
  obtain ⟨hindex, -⟩ := Delimited.append_cons_inj (newline_notMem_fileLine (by decide) _)
    (newline_notMem_fileLine (by decide) _) hrest
  exact ⟨fileLine_inj hlayout, fileLine_inj hindex⟩

theorem versionDigestText_inj {packageDigest packageDigest' : Sha256Hex} {manifest manifest' : List UInt8}
    (h : versionDigestText packageDigest.1 manifest = versionDigestText packageDigest'.1 manifest') :
    packageDigest = packageDigest' ∧ manifest = manifest' := by
  unfold versionDigestText at h
  have hnewline : bytes "\n" = [10] := rfl
  simp only [bytes_append, List.append_assoc, hnewline, List.cons_append, List.nil_append] at h
  obtain ⟨hdigest, hrest⟩ := hex_append_inj (List.append_cancel_left (List.append_cancel_left h))
  obtain ⟨-, hmanifest⟩ := Delimited.append_cons_inj (newline_notMem_decimal _) (newline_notMem_decimal _)
    (List.append_cancel_left (List.cons.inj hrest).2)
  exact ⟨hdigest, hmanifest⟩

theorem composeWasmVersionId_inj {digest digest' : Sha256Hex} {sequence sequence' : ℕ}
    (h : composeWasmVersionId digest.1 sequence = composeWasmVersionId digest'.1 sequence') :
    digest = digest' ∧ sequence = sequence' := by
  have hbytes := congrArg bytes h
  unfold composeWasmVersionId at hbytes
  simp only [bytes_append, List.append_assoc] at hbytes
  obtain ⟨hdigest, hsequence⟩ := hex_append_inj hbytes
  exact ⟨hdigest, repr_inj.mp (bytes_injective (List.append_cancel_left hsequence))⟩

/-- The same files are read as the same layout. -/
theorem Reads.layout_of_perm (hseparates : Separates L (layout.hashed L) (layout'.hashed L))
    (h : Reads L files bounds layout) (h' : Reads L files' bounds' layout') (hperm : files.1.Perm files'.1) : layout = layout' := by
  have hlayoutFile := hperm.mem_iff.mp (mem_of_lookup h.layoutFile)
  have hindexFile := hperm.mem_iff.mp (mem_of_lookup h.indexFile)
  exact h.unique hseparates h' (file_unique files' hlayoutFile (mem_of_lookup h'.layoutFile))
    (file_unique files' hindexFile (mem_of_lookup h'.indexFile))

end Iweb.Contract.OciLayout
