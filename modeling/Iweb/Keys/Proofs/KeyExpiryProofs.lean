import Iweb.Keys.Proofs.StampProofs
import Mathlib.Data.List.Nodup

/-!
# The expiry of a key and the clock

The store compares the text of an expiry with the text of the clock. In every store that the code can reach the
expiries are timestamps and no two records have one identifier, so all readers of a record decide by that one
comparison; it agrees with the instants exactly on the condition `TextAgrees`.
-/

namespace Iweb.Keys

/-! ## Instants of a text -/

theorem UtcStamp.instant_eq_of_text {a b : UtcStamp} (h : a.text = b.text) : a.instant = b.instant := by
  have hlt : ¬a.text < b.text := by
    rw [h]
    exact List.lt_irrefl _
  have hgt : ¬b.text < a.text := by
    rw [h]
    exact List.lt_irrefl _
  rw [UtcStamp.text_lt_iff] at hlt hgt
  have hseconds : a.seconds = b.seconds := by omega
  have hfraction : ¬fractionText a.millis < fractionText b.millis := fun hf => hlt (.inr ⟨hseconds, hf⟩)
  have hfraction' : ¬fractionText b.millis < fractionText a.millis := fun hf => hgt (.inr ⟨hseconds.symm, hf⟩)
  have hmillis : a.millis = b.millis := by
    cases ha : a.millis with
    | none =>
      cases hb : b.millis with
      | none => rfl
      | some ms =>
        rw [ha, hb] at hfraction'
        exact absurd (fractionText_lt_none ms) hfraction'
    | some ms =>
      cases hb : b.millis with
      | none =>
        rw [ha, hb] at hfraction
        exact absurd (fractionText_lt_none ms) hfraction
      | some ms' =>
        rw [ha, hb, fractionText_lt_some (a.millis_lt ms ha) (b.millis_lt ms' hb)] at hfraction
        rw [ha, hb, fractionText_lt_some (b.millis_lt ms' hb) (a.millis_lt ms ha)] at hfraction'
        rw [show ms = ms' by omega]
  unfold UtcStamp.instant
  rw [hseconds, hmillis]

/-- A timestamp denotes its own instant and no other. -/
theorem denotes_iff {value : String} {stamp : UtcStamp} (h : bytes value = stamp.text) (instant : ℤ) :
    Denotes value instant ↔ stamp.instant = instant := by
  constructor
  · rintro ⟨stamp', htext, rfl⟩
    exact UtcStamp.instant_eq_of_text (h.symm.trans htext)
  · rintro rfl
    exact ⟨stamp, h, rfl⟩

theorem textAgrees_iff {value : String} {stamp : UtcStamp} (h : bytes value = stamp.text) (now : ℕ) :
    TextAgrees value now ↔ ClockAgrees stamp now := by
  refine ⟨fun hall => hall stamp h, fun hagrees stamp' htext => ?_⟩
  have hsame : stamp'.text = stamp.text := htext.symm.trans h
  rw [← expired_iff] at hagrees ⊢
  rw [hsame, UtcStamp.instant_eq_of_text hsame]
  exact hagrees

/-- The comparison of an expiry with the clock, against the instants. -/
theorem refused_iff (value : String) (now : ℕ) :
    ((!validUtcStamp value || !textBefore (utcNow now) value) = true ↔
      ¬∃ instant, Denotes value instant ∧ (now : ℤ) < instant) ↔ TextAgrees value now := by
  by_cases hvalid : validUtcStamp value = true
  · obtain ⟨stamp, htext⟩ := (validUtcStamp_iff value).mp hvalid
    have hfuture : (¬∃ instant, Denotes value instant ∧ (now : ℤ) < instant) ↔ stamp.instant ≤ (now : ℤ) := by
      constructor
      · intro hnone
        exact Int.not_lt.mp fun hlt => hnone ⟨_, (denotes_iff htext _).mpr rfl, hlt⟩
      · rintro hle ⟨instant, hdenotes, hlt⟩
        rw [denotes_iff htext] at hdenotes
        omega
    rw [hvalid, hfuture, textAgrees_iff htext, ← expired_iff]
    unfold textBefore
    rw [htext, Bool.not_true, Bool.false_or, Bool.not_eq_true', decide_eq_false_iff_not]
  · have hnone : ∀ stamp : UtcStamp, bytes value ≠ stamp.text := by
      intro stamp htext
      exact hvalid ((validUtcStamp_iff value).mpr ⟨stamp, htext⟩)
    refine iff_of_true (iff_of_true ?_ ?_) ?_
    · rw [Bool.eq_false_iff.mpr hvalid]
      rfl
    · rintro ⟨_, ⟨stamp, htext, -⟩, -⟩
      exact hnone stamp htext
    · intro stamp htext
      exact absurd htext (hnone stamp)

/-! ## Reachable stores -/

/-- One record for each identifier, and every expiry is a timestamp. -/
structure KeyStore.Sound (store : KeyStore) : Prop where
  nodup : (store.keys.map (·.keyId)).Nodup
  keyId : ∀ record ∈ store.keys, isKeyId (bytes record.keyId) = true
  expiry : ∀ record ∈ store.keys, ∀ expiry, record.expiresAt = some expiry → validUtcStamp expiry = true

theorem hexDigit_spec : ∀ n < 16, (hexDigit n).toNat ≤ 0x7f ∧ isHexLower (ascii (hexDigit n)) = true := by
  decide +kernel

/-- Four bytes are written as a key identifier. -/
theorem isKeyId_hexText {bs : List UInt8} (h : bs.length = 4) : isKeyId (bytes (hexText bs)) = true := by
  have hdigits : ∀ b : UInt8, b.toNat / 16 < 16 ∧ b.toNat % 16 < 16 := by
    intro b
    have hb : b.toNat < 256 := b.toNat_lt
    omega
  have hbytes : bytes (hexText bs) =
      (bs.flatMap fun b => [hexDigit (b.toNat / 16), hexDigit (b.toNat % 16)]).map ascii := by
    refine bytes_ofList_ascii ?_
    intro c hc
    obtain ⟨b, -, hc⟩ := List.mem_flatMap.mp hc
    obtain ⟨hhigh, hlow⟩ := hdigits b
    rcases List.mem_pair.mp hc with rfl | rfl
    · exact (hexDigit_spec _ hhigh).1
    · exact (hexDigit_spec _ hlow).1
  unfold isKeyId
  rw [hbytes, Bool.and_eq_true]
  constructor
  · rw [List.length_map, List.length_flatMap, beq_iff_eq]
    have hpairs : (bs.map fun b => [hexDigit (b.toNat / 16), hexDigit (b.toNat % 16)].length) = bs.map fun _ => 2 := rfl
    rw [hpairs, List.map_const', List.sum_replicate_nat, h]
  · rw [List.all_eq_true]
    intro c hc
    obtain ⟨d, hd, rfl⟩ := List.mem_map.mp hc
    obtain ⟨b, -, hd⟩ := List.mem_flatMap.mp hd
    obtain ⟨hhigh, hlow⟩ := hdigits b
    rcases List.mem_pair.mp hd with rfl | rfl
    · exact (hexDigit_spec _ hhigh).2
    · exact (hexDigit_spec _ hlow).2

theorem KeyStore.Sound.load (host : KeyHost) (snapshot : SnapshotFile) (linked reconciled : Bool) (token : String) :
    (KeyStore.load host snapshot linked reconciled token).Sound := by
  have hempty : ∀ store : KeyStore, store.keys = [] → store.Sound := by
    rintro ⟨keys, damaged, digest⟩ rfl
    exact ⟨.nil, nofun, nofun⟩
  unfold KeyStore.load
  dsimp only
  cases snapshot with
  | missing => exact hempty _ (ite_self _)
  | unusable => exact hempty _ (ite_self _)
  | file content ownerOnly =>
    dsimp only
    by_cases hdamaged : (linked || (!validSnapshot content || !ownerOnly)) = true
    · exact hempty _ (if_pos hdamaged)
    · have hvalid : validSnapshot content = true := by
        by_contra hinvalid
        refine hdamaged ?_
        rw [Bool.eq_false_iff.mpr hinvalid]
        simp
      unfold validSnapshot at hvalid
      simp only [Bool.and_eq_true, List.all_eq_true, decide_eq_true_eq] at hvalid
      obtain ⟨⟨-, hrecords⟩, hnodup⟩ := hvalid
      rw [if_neg hdamaged]
      refine ⟨hnodup, fun record hr => ?_, fun record hr expiry he => ?_⟩
      · have hrecord := hrecords record hr
        unfold validRecord at hrecord
        simp only [Bool.and_eq_true] at hrecord
        exact hrecord.1.1.1.1.1
      · have hrecord := hrecords record hr
        unfold validRecord at hrecord
        simp only [Bool.and_eq_true] at hrecord
        have hexpiry := hrecord.1.2
        rw [he] at hexpiry
        exact hexpiry

/-- A commit keeps the store sound when its change does. -/
theorem KeyStore.Sound.commit {α : Type} {store : KeyStore} (h : store.Sound) (outcome : CommitOutcome)
    {mutate : List KeyRecord → Except String (List KeyRecord × α)}
    (hmutate : ∀ keys a, mutate store.keys = .ok (keys, a) → KeyStore.Sound { store with keys := keys }) :
    (store.commit outcome mutate).2.Sound := by
  unfold KeyStore.commit
  split
  · exact h
  · rename_i keys a hkeys
    have hsound := hmutate keys a hkeys
    split
    · exact ⟨h.nodup, h.keyId, h.expiry⟩
    · exact ⟨hsound.nodup, hsound.keyId, hsound.expiry⟩

theorem KeyStore.Sound.issue {host : KeyHost} {store store' : KeyStore} (h : store.Sound) {label : String}
    {expiresAt : Option String} (hexpiry : ∀ expiry, expiresAt = some expiry → validUtcStamp expiry = true)
    {issuedAt : ℕ} {outcome : CommitOutcome} {draws : List KeyDraw} {result : Except String IssuedKey}
    (hissue : store.issue host label expiresAt issuedAt outcome draws = some (result, store')) : store'.Sound := by
  induction draws with
  | nil => exact nomatch hissue
  | cons draw draws ih =>
    rw [KeyStore.issue] at hissue
    dsimp only at hissue
    split at hissue
    · exact ih hissue
    · rename_i hfresh
      obtain rfl : _ = store' := congrArg Prod.snd (Option.some.inj hissue)
      refine h.commit outcome ?_
      intro keys issued hmutate
      rw [if_neg hfresh] at hmutate
      cases hmutate
      have hnew : hexText draw.idBytes ∉ store.keys.map (·.keyId) := by
        intro hmem
        obtain ⟨record, hr, hid⟩ := List.mem_map.mp hmem
        exact hfresh (List.any_eq_true.mpr ⟨record, hr, beq_iff_eq.mpr hid⟩)
      refine ⟨?_, fun record hr => ?_, fun record hr expiry he => ?_⟩
      · rw [List.map_append, List.nodup_append]
        refine ⟨h.nodup, List.nodup_singleton _, ?_⟩
        intro a ha b hb hab
        obtain rfl := List.mem_singleton.mp hb
        have hid : a = hexText draw.idBytes := hab
        exact hnew (hid ▸ ha)
      · rcases List.mem_append.mp hr with hold | hlast
        · exact h.keyId record hold
        · obtain rfl := List.mem_singleton.mp hlast
          exact isKeyId_hexText draw.length_idBytes
      · rcases List.mem_append.mp hr with hold | hlast
        · exact h.expiry record hold expiry he
        · obtain rfl := List.mem_singleton.mp hlast
          exact hexpiry expiry he

/-- Banning changes no identifier and no expiry. -/
theorem markBanned_keeps {keyId bannedAt : String} {keys keys' : List KeyRecord} {u : Unit}
    (h : markBanned keyId bannedAt keys = .ok (keys', u)) :
    keys'.map (fun key => (key.keyId, key.expiresAt)) = keys.map fun key => (key.keyId, key.expiresAt) := by
  induction keys generalizing keys' with
  | nil => exact nomatch h
  | cons key keys ih =>
    unfold markBanned at h
    split at h
    · cases h
      rw [List.map_cons, List.map_cons]
      split <;> rfl
    · split at h
      · exact nomatch h
      · rename_i hrest
        cases h
        rw [List.map_cons, List.map_cons, ih hrest]

theorem KeyStore.Sound.ban {store : KeyStore} (h : store.Sound) (keyId : String) (bannedAt : ℕ)
    (outcome : CommitOutcome) : (store.ban keyId bannedAt outcome).2.Sound := by
  unfold KeyStore.ban
  split
  · exact h
  split
  · exact h
  refine h.commit outcome ?_
  intro keys u hmark
  have hkeeps := markBanned_keeps hmark
  have hids : keys.map (·.keyId) = store.keys.map (·.keyId) := by
    have hfst := congrArg (List.map Prod.fst) hkeeps
    rw [List.map_map, List.map_map] at hfst
    exact hfst
  have hrecord : ∀ record ∈ keys, ∃ old ∈ store.keys, old.keyId = record.keyId ∧ old.expiresAt = record.expiresAt := by
    intro record hr
    have hmem : (record.keyId, record.expiresAt) ∈ store.keys.map fun key => (key.keyId, key.expiresAt) :=
      hkeeps ▸ List.mem_map.mpr ⟨record, hr, rfl⟩
    obtain ⟨old, hold, heq⟩ := List.mem_map.mp hmem
    exact ⟨old, hold, congrArg Prod.fst heq, congrArg Prod.snd heq⟩
  refine ⟨?_, fun record hr => ?_, fun record hr expiry he => ?_⟩
  · show (keys.map (·.keyId)).Nodup
    rw [hids]
    exact h.nodup
  · obtain ⟨old, hold, hid, -⟩ := hrecord record hr
    rw [← hid]
    exact h.keyId old hold
  · obtain ⟨old, hold, -, hexpiry⟩ := hrecord record hr
    exact h.expiry old hold expiry (hexpiry.trans he)

theorem KeyStore.Sound.step {store : KeyStore} (h : store.Sound) (host : KeyHost) (op : KeyOp) :
    (store.step host op).Sound := by
  cases op with
  | create label expiresAt checkedAt issuedAt outcome draws =>
    unfold KeyStore.step
    dsimp only
    split
    · rename_i hcreate
      unfold KeyStore.create at hcreate
      split at hcreate
      · cases hcreate
        exact h
      split at hcreate
      · cases hcreate
        exact h
      split at hcreate
      · cases hcreate
        exact h
      · rename_i haccepted
        refine h.issue ?_ hcreate
        rintro expiry rfl
        by_contra hinvalid
        refine haccepted ?_
        rw [Option.any_some, Bool.eq_false_iff.mpr hinvalid]
        rfl
    · exact h
  | ban keyId bannedAt outcome => exact h.ban keyId bannedAt outcome

theorem KeyStore.Sound.after {store : KeyStore} (h : store.Sound) (host : KeyHost) (ops : List KeyOp) :
    (store.after host ops).Sound := by
  unfold KeyStore.after
  induction ops generalizing store with
  | nil => exact h
  | cons op ops ih => exact ih (h.step host op)

/-! ## The readers -/

section Readers

variable {host : KeyHost} {store : KeyStore} {record : KeyRecord} {now : ℕ}

/-- A record is the only one with its identifier. -/
theorem KeyStore.Sound.unique (h : store.Sound) {other : KeyRecord} (hr : record ∈ store.keys) (ho : other ∈ store.keys)
    (hid : other.keyId = record.keyId) : other = record :=
  List.inj_on_of_nodup_map h.nodup ho hr hid

/-- When one record alone matches, the last match is that record. -/
theorem matching_foldl {keys : List KeyRecord} {keyId : List UInt8} {digest : String} {init : Option KeyRecord}
    (honly : ∀ r ∈ keys, digest = r.secretHash ∧ keyId = bytes r.keyId → r = record)
    (hfound : (record ∈ keys ∧ digest = record.secretHash ∧ keyId = bytes record.keyId) ∨ init = some record) :
    keys.foldl (fun matched r => if digest = r.secretHash ∧ keyId = bytes r.keyId then some r else matched) init =
      some record := by
  induction keys generalizing init with
  | nil =>
    rcases hfound with ⟨hmem, -⟩ | hinit
    · exact absurd hmem List.not_mem_nil
    · exact hinit
  | cons r keys ih =>
    rw [List.foldl_cons]
    refine ih (fun r' hr' => honly r' (.tail _ hr')) ?_
    by_cases hmatch : digest = r.secretHash ∧ keyId = bytes r.keyId
    · rw [if_pos hmatch, honly r (.head _) hmatch]
      exact .inr rfl
    · rw [if_neg hmatch]
      rcases hfound with ⟨hmem, hrecord⟩ | hinit
      · rcases List.mem_cons.mp hmem with rfl | hrest
        · exact absurd hrecord hmatch
        · exact .inl ⟨hrest, hrecord⟩
      · exact .inr hinit

theorem ne_underscore_of_isHexLower {b : UInt8} (h : isHexLower b = true) : (b != ascii '_') = true := by
  rw [bne_iff_ne]
  rintro rfl
  exact absurd h (by decide)

theorem splitOnce_append {keyId secret : List UInt8} (h : isKeyId keyId = true) :
    splitOnce (keyId ++ ascii '_' :: secret) = some (keyId, secret) := by
  have hall : ∀ b ∈ keyId, (b != ascii '_') = true := by
    intro b hb
    exact ne_underscore_of_isHexLower (List.all_eq_true.mp (Bool.and_eq_true_iff.mp h).2 b hb)
  unfold splitOnce
  rw [List.dropWhile_append_of_pos hall, List.takeWhile_append_of_pos hall]
  simp

theorem authenticate_of_presents (h : store.Sound) (hr : record ∈ store.keys) (hdamaged : store.damaged = false)
    (hbanned : record.bannedAt = none) {bearer : String} (hpresents : Presents host bearer record)
    (hbearer : host.sha256 (bytes bearer) ≠ store.bootstrapDigest) :
    store.authenticate host now bearer = if record.expired now then none else some (.delegated record.keyId) := by
  obtain ⟨secret, hbytes, hlength, hchars, hdigest⟩ := hpresents
  have hkey := h.keyId record hr
  have htoken : (bytes "iwb_").isPrefixOf (bytes bearer) = true := by
    rw [List.isPrefixOf_iff_prefix, hbytes, List.append_assoc]
    exact List.prefix_append _ _
  have hrest : (bytes bearer).drop 4 = bytes record.keyId ++ ascii '_' :: secret := by
    rw [hbytes, List.append_assoc]
    exact List.drop_left' rfl
  have hmatching : store.matching (bytes record.keyId) (host.sha256Hex secret) = some record := by
    refine matching_foldl ?_ (.inl ⟨hr, hdigest, rfl⟩)
    rintro other ho ⟨-, hid⟩
    exact h.unique hr ho (bytes_injective hid.symm)
  unfold KeyStore.authenticate
  rw [hdamaged, if_neg Bool.false_ne_true, if_neg hbearer, htoken, hrest, splitOnce_append hkey]
  dsimp only
  rw [hkey, hlength, hchars, hmatching]
  dsimp only
  rw [hbanned]
  simp only [Bool.not_true, Bool.false_eq_true, if_false, bne_self_eq_false, Bool.or_false, Option.isSome_none,
    Bool.false_or]

theorem isActive_of_mem (h : store.Sound) (hr : record ∈ store.keys) (hdamaged : store.damaged = false)
    (hbanned : record.bannedAt = none) : store.isActive record.keyId now = !record.expired now := by
  have hexpired : (record.expiresAt.all fun expiry => textBefore (utcNow now) expiry) = !record.expired now := by
    unfold KeyRecord.expired
    cases record.expiresAt with
    | none => rfl
    | some expiry => rw [Option.all_some, Option.any_some, Bool.not_not]
  have hself : (record.keyId == record.keyId && record.bannedAt.isNone &&
      record.expiresAt.all fun expiry => textBefore (utcNow now) expiry) = !record.expired now := by
    rw [hexpired, hbanned, beq_self_eq_true, Option.isNone_none, Bool.true_and, Bool.true_and]
  unfold KeyStore.isActive
  rw [hdamaged, Bool.not_false, Bool.true_and, ← hself, Bool.eq_iff_iff, List.any_eq_true]
  constructor
  · rintro ⟨other, ho, hmatch⟩
    have hid := beq_iff_eq.mp (Bool.and_eq_true_iff.mp (Bool.and_eq_true_iff.mp hmatch).1).1
    rw [h.unique hr ho hid] at hmatch
    exact hmatch
  · exact fun hmatch => ⟨record, hr, hmatch⟩

theorem metadata_of_mem (h : store.Sound) (hr : record ∈ store.keys) (hbanned : record.bannedAt = none) :
    (∃ entry ∈ store.metadata now, entry.keyId = record.keyId ∧ entry.status = "expired") ↔
      record.expired now = true := by
  unfold KeyStore.metadata
  constructor
  · rintro ⟨entry, hentry, hid, hstatus⟩
    rcases List.mem_cons.mp hentry with rfl | hentry
    · exact absurd hstatus (by decide)
    · obtain ⟨other, ho, rfl⟩ := List.mem_map.mp hentry
      rw [h.unique hr ho hid] at hstatus
      unfold KeyRecord.metadata at hstatus
      dsimp only at hstatus
      rw [hbanned, Option.isSome_none, if_neg Bool.false_ne_true] at hstatus
      by_contra hlive
      rw [if_neg hlive] at hstatus
      exact absurd hstatus (by decide)
  · intro hexpired
    refine ⟨record.metadata now, .tail _ (List.mem_map.mpr ⟨record, hr, rfl⟩), rfl, ?_⟩
    unfold KeyRecord.metadata
    dsimp only
    rw [hbanned, Option.isSome_none, if_neg Bool.false_ne_true, if_pos hexpired]

/-- The expiry of a record of a sound store decides by the texts; it decides by the instants on the condition. -/
theorem expired_iff_ended (h : store.Sound) (hr : record ∈ store.keys) :
    (record.expired now = true ↔ record.Ended now) ↔
      ∀ expiry, record.expiresAt = some expiry → TextAgrees expiry now := by
  unfold KeyRecord.expired KeyRecord.Ended
  cases hexpires : record.expiresAt with
  | none =>
    refine iff_of_true (iff_of_false Bool.false_ne_true ?_) nofun
    rintro ⟨_, _, hnone, -⟩
    exact nomatch hnone
  | some expiry =>
    obtain ⟨stamp, htext⟩ := (validUtcStamp_iff expiry).mp (h.expiry record hr expiry hexpires)
    have hended : (∃ value instant, some expiry = some value ∧ Denotes value instant ∧ instant ≤ (now : ℤ)) ↔
        stamp.instant ≤ (now : ℤ) := by
      constructor
      · rintro ⟨_, instant, ⟨⟩, hdenotes, hle⟩
        rw [(denotes_iff htext instant).mp hdenotes]
        exact hle
      · exact fun hle => ⟨expiry, _, rfl, (denotes_iff htext _).mpr rfl, hle⟩
    have hone : (∀ value, some expiry = some value → TextAgrees value now) ↔ TextAgrees expiry now := by
      constructor
      · exact fun hall => hall expiry rfl
      · rintro hagrees _ ⟨⟩
        exact hagrees
    rw [hended, hone, textAgrees_iff htext, ← expired_iff, Option.any_some]
    unfold textBefore
    rw [htext, Bool.not_eq_true', decide_eq_false_iff_not]

theorem followsClock_iff (h : store.Sound) (hr : record ∈ store.keys) (hdamaged : store.damaged = false)
    (hbanned : record.bannedAt = none) : FollowsClock host store now record ↔
      ∀ expiry, record.expiresAt = some expiry → TextAgrees expiry now := by
  rw [← expired_iff_ended h hr]
  constructor
  · intro hfollows
    rw [← hfollows.isActive, isActive_of_mem h hr hdamaged hbanned, Bool.not_eq_false']
  · intro hexpired
    refine ⟨fun bearer hpresents hbearer => ?_, ?_, ?_⟩
    · rw [authenticate_of_presents h hr hdamaged hbanned hpresents hbearer, ← hexpired]
      split
      · exact iff_of_true rfl ‹_›
      · exact iff_of_false nofun ‹_›
    · rw [isActive_of_mem h hr hdamaged hbanned, Bool.not_eq_false', hexpired]
    · rw [metadata_of_mem h hr hbanned, hexpired]

/-! ## Creation -/

theorem failure_text_ne (failure : CommitFailure) : failure.text ≠ expiryRefused := by
  intro heq
  have hbytes := congrArg (fun text => (bytes text).head?) heq
  unfold expiryRefused at hbytes
  cases failure with
  | pending error =>
    dsimp only [CommitFailure.text] at hbytes
    rw [bytes_append] at hbytes
    exact absurd hbytes (show ¬some (ascii 'p') = some (ascii 'e') by decide)
  | snapshot error =>
    dsimp only [CommitFailure.text] at hbytes
    rw [bytes_append] at hbytes
    exact absurd hbytes (show ¬some (ascii 'k') = some (ascii 'e') by decide)
  | audit error =>
    dsimp only [CommitFailure.text] at hbytes
    rw [bytes_append] at hbytes
    exact absurd hbytes (show ¬some (ascii 'a') = some (ascii 'e') by decide)

/-- Past the checks, no attempt ends with the refusal of the expiry. -/
theorem issue_ne_refused (host : KeyHost) (store : KeyStore) (label : String) (expiresAt : Option String)
    (issuedAt : ℕ) (outcome : CommitOutcome) (draws : List KeyDraw) :
    store.issue host label expiresAt issuedAt outcome draws ≠ some (.error expiryRefused, store) := by
  induction draws with
  | nil => nofun
  | cons draw draws ih =>
    rw [KeyStore.issue]
    dsimp only
    split
    · exact ih
    · rename_i hfresh
      intro hsome
      have hresult := congrArg Prod.fst (Option.some.inj hsome)
      unfold KeyStore.commit at hresult
      dsimp only at hresult
      rw [if_neg hfresh] at hresult
      dsimp only at hresult
      cases hfailure : outcome.failure with
      | none =>
        rw [hfailure] at hresult
        exact nomatch hresult
      | some failure =>
        rw [hfailure] at hresult
        injection hresult with htext
        exact failure_text_ne failure htext

theorem createFollowsClock_iff (hdamaged : store.damaged = false) (expiry : String) :
    CreateFollowsClock host store now expiry ↔ TextAgrees expiry now := by
  have hcreate : ∀ label issuedAt outcome draws, validLabel label = true →
      (store.create host label (some expiry) now issuedAt outcome draws = some (.error expiryRefused, store) ↔
        (!validUtcStamp expiry || !textBefore (utcNow now) expiry) = true) := by
    intro label issuedAt outcome draws hlabel
    unfold KeyStore.create
    rw [hdamaged, hlabel, if_neg Bool.false_ne_true, Bool.not_true, if_neg Bool.false_ne_true, Option.any_some]
    split
    · exact iff_of_true rfl ‹_›
    · exact iff_of_false (issue_ne_refused host store label (some expiry) issuedAt outcome draws) ‹_›
  rw [← refused_iff]
  constructor
  · intro hfollows
    have hlabel : validLabel "a" = true := by decide
    rw [← hcreate "a" 0 ⟨none, false⟩ [] hlabel]
    exact hfollows "a" 0 ⟨none, false⟩ [] hlabel
  · intro hrefused label issuedAt outcome draws hlabel
    rw [hcreate label issuedAt outcome draws hlabel]
    exact hrefused

end Readers

/-- In every store that loading, creating and banning reach, undamaged: the readers take a key for expired exactly
when it has ended, and `create` refuses an expiry exactly when it is no instant after the clock, if and only if the
text of the expiry agrees with the clock. -/
theorem key_expiry_follows_clock (host : KeyHost) (snapshot : SnapshotFile) (linked reconciled : Bool) (token : String)
    (ops : List KeyOp) (now : ℕ)
    (hdamaged : ((KeyStore.load host snapshot linked reconciled token).after host ops).damaged = false) :
    (∀ record ∈ ((KeyStore.load host snapshot linked reconciled token).after host ops).keys, record.bannedAt = none →
      (FollowsClock host ((KeyStore.load host snapshot linked reconciled token).after host ops) now record ↔
        ∀ expiry, record.expiresAt = some expiry → TextAgrees expiry now)) ∧
    ∀ expiry, CreateFollowsClock host ((KeyStore.load host snapshot linked reconciled token).after host ops) now expiry ↔
      TextAgrees expiry now := by
  have hsound := (KeyStore.Sound.load host snapshot linked reconciled token).after host ops
  exact ⟨fun record hr hbanned => followsClock_iff hsound hr hdamaged hbanned,
    createFollowsClock_iff hdamaged⟩

/-! ## A key without milliseconds -/

/-- The digests of the recovery token and of the secret below. -/
def sampleKeyHost : KeyHost where
  sha256 value :=
    if value = bytes "bootstrap-token" then
      [0xc7, 0x27, 0x73, 0xa4, 0xdd, 0xf8, 0x1c, 0x3a, 0xd2, 0xb8, 0x8f, 0xf6, 0x2c, 0xa2, 0xfa, 0x99,
        0x07, 0x95, 0x15, 0xec, 0x81, 0xf1, 0xdf, 0x19, 0xd9, 0xc7, 0x70, 0xb0, 0x13, 0xb7, 0x9a, 0x7b]
    else
      [0x0f, 0x00, 0x73, 0x85, 0xb6, 0xf9, 0xd4, 0xb7, 0xee, 0xb2, 0x74, 0x86, 0x05, 0xaf, 0xe1, 0xa9,
        0x84, 0xa0, 0xa3, 0xbf, 0xa3, 0xf0, 0x14, 0xd0, 0x9e, 0x2a, 0x78, 0x4c, 0xe9, 0xe5, 0xcd, 0x1a]

/-- A key that ends at 14:13:21, created at 14:13:20.123. -/
def sampleKeyOp : KeyOp :=
  .create "agent-a" (some "2026-09-21T14:13:21Z") 1790000000123 1790000000124 ⟨none, false⟩
    [⟨[0, 1, 2, 3], "AAAAAAAAAAAAAAAAAAAAAAAAAAAAAAAAAAAAAAAAAAA", rfl⟩]

/-- The store with this key. -/
def sampleKeyStore : KeyStore :=
  (KeyStore.load sampleKeyHost .missing false true "bootstrap-token").after sampleKeyHost [sampleKeyOp]

theorem key_expiry_follows_clock_undamaged :
    sampleKeyStore.damaged = false ∧
      ∀ expiry, CreateFollowsClock sampleKeyHost sampleKeyStore 1790000000123 expiry ↔ TextAgrees expiry 1790000000123 := by
  have hdamaged : sampleKeyStore.damaged = false := by decide +kernel
  exact ⟨hdamaged,
    (key_expiry_follows_clock sampleKeyHost .missing false true "bootstrap-token" [sampleKeyOp] 1790000000123
      hdamaged).2⟩

/-- Half a second after its end, the key is still active. -/
theorem key_active_after_end :
    ∃ record ∈ sampleKeyStore.keys, record.bannedAt = none ∧
      ¬FollowsClock sampleKeyHost sampleKeyStore 1790000001500 record := by
  have hkeys : ∃ record ∈ sampleKeyStore.keys, record.bannedAt = none ∧
      record.expiresAt = some "2026-09-21T14:13:21Z" ∧
        sampleKeyStore.isActive record.keyId 1790000001500 = true := by
    decide +kernel
  obtain ⟨record, hr, hbanned, hexpires, hactive⟩ := hkeys
  refine ⟨record, hr, hbanned, fun hfollows => ?_⟩
  have hended : record.Ended 1790000001500 := by
    refine ⟨_, 1790000001000, hexpires, ⟨⟨2026, 9, 21, 14, 13, 21, none, by decide, ⟨by decide, by decide⟩, by decide,
      by decide, by decide, nofun⟩, by decide +kernel, by decide +kernel⟩, by decide⟩
  rw [hfollows.isActive.mpr hended] at hactive
  exact Bool.false_ne_true hactive

end Iweb.Keys
