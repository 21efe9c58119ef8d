import Iweb.Storage.Gateway

/-!
# Capabilities are used once

The file of the nonces is a log of lines that a crash can cut. As long as no line is appended after a cut one, the file
has a line for every nonce that was accepted, and a token stands for one nonce.
-/

namespace Iweb.Storage

open CrashRefinement Delimited LineLog

/-! ## The units of the parts -/

theorem isHexUnit_range {u : UInt16} (h : isHexUnit u = true) : 48 ≤ u.toNat ∧ u.toNat ≤ 102 := by
  unfold isHexUnit at h
  simp only [Bool.or_eq_true, Bool.and_eq_true, decide_eq_true_iff] at h
  omega

theorem isNonce_range {nonce : JsString} (h : isNonce nonce = true) : ∀ u ∈ nonce, 48 ≤ u.toNat ∧ u.toNat ≤ 102 := by
  unfold isNonce at h
  rw [Bool.and_eq_true, List.all_eq_true] at h
  exact fun u hu => isHexUnit_range (h.2 u hu)

theorem isNonce_ascii {nonce : JsString} (h : isNonce nonce = true) : ∀ u ∈ nonce, u.toNat < 0x80 := fun u hu =>
  Nat.lt_of_le_of_lt (isNonce_range h u hu).2 (by decide)

theorem isNonce_length {nonce : JsString} (h : isNonce nonce = true) : nonce.length = 32 := by
  unfold isNonce at h
  rw [Bool.and_eq_true, beq_iff_eq] at h
  exact h.1

theorem dot_notMem {text : JsString} (h : ∀ u ∈ text, u.toNat ≠ 46) : dot ∉ text := fun hmem => h dot hmem rfl

theorem dot_notMem_nonce {nonce : JsString} (h : isNonce nonce = true) : dot ∉ nonce :=
  dot_notMem fun u hu heq => by
    have := (isNonce_range h u hu).1
    omega

theorem dot_notMem_applicationId {text : JsString} (h : isOpaqueIdText text = true) : dot ∉ text := by
  unfold isOpaqueIdText at h
  simp only [Bool.and_eq_true, List.all_eq_true, Bool.or_eq_true, beq_iff_eq] at h
  refine dot_notMem fun u hu heq => ?_
  rcases h.1.1.2 u hu with hlabel | rfl
  · unfold isLabelUnit at hlabel
    simp only [Bool.or_eq_true, Bool.and_eq_true, decide_eq_true_iff] at hlabel
    omega
  · exact absurd heq (by decide)

theorem isOpaqueIdText_length {text : JsString} (h : isOpaqueIdText text = true) : text.length ≤ 64 := by
  unfold isOpaqueIdText at h
  simp only [Bool.and_eq_true, decide_eq_true_iff] at h
  exact h.1.1.1

/-- The units of a decimal text are digits. -/
theorem ofString_repr (n : ℕ) : JsString.ofString n.repr = (Nat.toDigits 10 n).map fun c => UInt16.ofNat c.toNat := by
  unfold JsString.ofString
  rw [Nat.toList_repr]
  refine (List.flatMap_congr fun c hc => ?_).trans (List.flatMap_pure_eq_map _ _)
  have hdigit := Nat.isDigit_of_mem_toDigits (by decide) (by decide) hc
  rw [Char.isDigit, Bool.and_eq_true, decide_eq_true_iff, decide_eq_true_iff] at hdigit
  have hhigh : c.toNat ≤ 57 := hdigit.2
  unfold JsString.unitsOfChar
  exact if_pos (by omega)

theorem digit_of_mem_ofString_repr {n : ℕ} {u : UInt16} (h : u ∈ JsString.ofString n.repr) :
    48 ≤ u.toNat ∧ u.toNat ≤ 57 := by
  rw [ofString_repr] at h
  obtain ⟨c, hc, rfl⟩ := List.mem_map.mp h
  have hdigit := Nat.isDigit_of_mem_toDigits (by decide) (by decide) hc
  rw [Char.isDigit, Bool.and_eq_true, decide_eq_true_iff, decide_eq_true_iff] at hdigit
  have hlow : 48 ≤ c.toNat := hdigit.1
  have hhigh : c.toNat ≤ 57 := hdigit.2
  rw [UInt16.toNat_ofNat']
  omega

theorem dot_notMem_integerText (n : ℤ) : dot ∉ integerText n := by
  have hdigits : dot ∉ JsString.ofString n.natAbs.repr := dot_notMem fun u hu heq => by
    have := (digit_of_mem_ofString_repr hu).1
    omega
  unfold integerText
  split
  · exact List.not_mem_cons_of_ne_of_not_mem (by decide) hdigits
  · exact hdigits

theorem length_integerText {n : ℤ} (h : isSafeInteger n = true) : (integerText n).length ≤ 17 := by
  unfold isSafeInteger at h
  rw [Bool.and_eq_true, decide_eq_true_iff, decide_eq_true_iff] at h
  have hdigits : (JsString.ofString n.natAbs.repr).length ≤ 16 := by
    rw [ofString_repr, List.length_map]
    exact (Nat.length_toDigits_le_iff (by decide) (by decide)).mpr (by omega)
  unfold integerText
  split
  · exact Nat.succ_le_succ hdigits
  · exact Nat.le_succ_of_le hdigits

/-! ## Tokens and their parts -/

theorem payloadOf_inj {a e n a' e' n' : JsString} (ha : dot ∉ a) (ha' : dot ∉ a') (he : dot ∉ e) (he' : dot ∉ e')
    (h : payloadOf a e n = payloadOf a' e' n') : a = a' ∧ e = e' ∧ n = n' := by
  obtain ⟨hfirst, hrest⟩ := append_cons_inj ha ha' h
  obtain ⟨hsecond, hthird⟩ := append_cons_inj he he' hrest
  exact ⟨hfirst, hsecond, hthird⟩

theorem cut_token {a e n signature : JsString} (ha : dot ∉ a) (he : dot ∉ e) (hn : dot ∉ n) (hs : dot ∉ signature) :
    cut dot (payloadOf a e n ++ dot :: signature) = [a, e, n, signature] := by
  unfold payloadOf
  rw [List.append_assoc, List.cons_append, List.append_assoc, List.cons_append, cut_append_cons ha,
    cut_append_cons he, cut_append_cons hn, cut_of_notMem hs]

theorem token_of_cut {token a e n signature : JsString} (h : cut dot token = [a, e, n, signature]) :
    token = payloadOf a e n ++ dot :: signature := by
  have hterminated := terminate_cut dot token
  rw [h] at hterminated
  unfold terminate at hterminated
  unfold payloadOf
  refine List.append_cancel_right (hterminated.symm.trans ?_)
  simp only [List.flatMap_cons, List.flatMap_nil, List.append_assoc, List.cons_append, List.nil_append]

/-- What a parsed token has passed. -/
structure ParsedFrom (P : Platform) (options : VerifyOptions) (now : ℤ) (parsed : Parsed) : Prop where
  token : options.token = parsed.payload ++ dot :: parsed.signature
  opaqueId : isOpaqueIdText parsed.applicationId = true
  application : parsed.applicationId = options.applicationId
  dot_free : dot ∉ parsed.expiresAtText
  expiry : ∃ expiresAt, P.number parsed.expiresAtText = some expiresAt ∧ now < expiresAt
  nonce : isNonce parsed.nonce = true
  length : parsed.signature.length = signatureLength

theorem parseCapability_eq_ok {P : Platform} {options : VerifyOptions} {wall : ℤ} {parsed : Parsed}
    (h : parseCapability P options wall = .ok parsed) :
    ParsedFrom P options (options.now.getD wall) parsed := by
  unfold parseCapability at h
  split at h
  · exact nomatch h
  · split at h
    case h_2 => exact nomatch h
    case h_1 applicationId expiresAtText nonce signature hcut =>
      split at h
      · exact nomatch h
      rename_i hopaque
      split at h
      · exact nomatch h
      rename_i happlication
      split at h
      · exact nomatch h
      rename_i expiresAt hnumber
      split at h
      · exact nomatch h
      rename_i hexpired
      split at h
      · exact nomatch h
      rename_i hnonce
      split at h
      · exact nomatch h
      rename_i hlength
      obtain rfl := Except.ok.inj h
      exact ⟨token_of_cut hcut, by simpa using hopaque, not_not.mp happlication,
        notMem_of_mem_cut (hcut ▸ List.mem_cons_of_mem _ List.mem_cons_self), ⟨expiresAt, hnumber, Int.not_le.mp hexpired⟩,
        by simpa using hnonce, not_not.mp hlength⟩

/-! ## The file of the nonces -/

/-- The line of a nonce. -/
def nonceText (nonce : JsString) : Except Unit (List UInt8) := if isNonce nonce then .ok nonce.utf8 else .error ()

theorem nonceText_eq_ok {nonce : JsString} {text : List UInt8} :
    nonceText nonce = .ok text ↔ isNonce nonce = true ∧ nonce.utf8 = text := by
  unfold nonceText
  by_cases h : isNonce nonce = true
  · rw [if_pos h]
    exact ⟨fun heq => ⟨h, Except.ok.inj heq⟩, fun heq => congrArg _ heq.2⟩
  · rw [if_neg h]
    exact ⟨(fun heq => nomatch heq), fun heq => absurd heq.1 h⟩

theorem utf8_nonce_length {nonce : JsString} (h : isNonce nonce = true) : nonce.utf8.length = 32 := by
  rw [JsString.utf8_ascii (isNonce_ascii h), List.length_map, isNonce_length h]

theorem newline_notMem_utf8 {nonce : JsString} (h : isNonce nonce = true) : newline ∉ nonce.utf8 := by
  rw [JsString.utf8_ascii (isNonce_ascii h), List.mem_map]
  rintro ⟨u, hu, heq⟩
  have hrange := isNonce_range h u hu
  have hnat := congrArg UInt8.toNat heq
  rw [UInt8.toNat_ofNat', Nat.mod_eq_of_lt (by omega)] at hnat
  have : newline.toNat = 10 := rfl
  omega

theorem nonceText_line {nonce : JsString} {text : List UInt8} (h : nonceText nonce = .ok text) :
    newline ∉ text ∧ text ≠ [] := by
  obtain ⟨hnonce, rfl⟩ := nonceText_eq_ok.mp h
  refine ⟨newline_notMem_utf8 hnonce, fun hnil => ?_⟩
  have hlength := utf8_nonce_length hnonce
  rw [hnil] at hlength
  exact nomatch hlength

theorem mem_texts {used : List JsString} {texts : List (List UInt8)} (h : Texts nonceText used texts)
    {nonce : JsString} (hnonce : isNonce nonce = true) : nonce.utf8 ∈ texts ↔ nonce ∈ used := by
  induction h with
  | nil => exact iff_of_false List.not_mem_nil List.not_mem_nil
  | cons hfirst _ ih =>
    obtain ⟨hvalid, rfl⟩ := nonceText_eq_ok.mp hfirst
    rw [List.mem_cons, List.mem_cons, ih, JsString.utf8_inj_ascii (isNonce_ascii hnonce) (isNonce_ascii hvalid)]

/-- A line of the file is the nonce exactly when the file stands for it. -/
theorem isPresent_iff {file : Option (List UInt8)} {used : List JsString}
    (h : Written nonceText (file.getD []) used) {nonce : JsString} (hnonce : isNonce nonce = true) :
    isPresent file nonce = true ↔ nonce ∈ used := by
  have hlines : ∀ {texts : List (List UInt8)} {tail : List UInt8}, (∀ text ∈ texts, newline ∉ text) → newline ∉ tail →
      (((lines texts ++ tail).splitOn newline).any (· == nonce.utf8) = true ↔
        nonce.utf8 ∈ texts ∨ nonce.utf8 = tail) := by
    intro texts tail htexts htail
    rw [splitOn_lines htexts htail, List.any_eq_true]
    simp only [beq_iff_eq, exists_eq_right, List.mem_append, List.mem_singleton]
  have hcontent : isPresent file nonce = true ↔
      ((file.getD []).splitOn newline).any (· == nonce.utf8) = true := by
    cases file with
    | some content => exact Iff.rfl
    | none =>
      refine iff_of_false nofun fun hany => ?_
      have hsingle : ([[]] : List (List UInt8)).any (· == nonce.utf8) = true := hany
      rw [List.any_cons, List.any_nil, Bool.or_false, beq_iff_eq] at hsingle
      exact absurd (utf8_nonce_length hnonce) (by rw [← hsingle]; decide)
  rw [hcontent]
  clear hcontent
  generalize file.getD [] = content at h ⊢
  have hnil : nonce.utf8 ≠ [] := fun hnil => absurd (utf8_nonce_length hnonce) (by rw [hnil]; decide)
  cases h with
  | complete htexts =>
    have hall := htexts.newline_notMem fun _ _ htext => (nonceText_line htext).1
    have hany := @hlines _ [] hall List.not_mem_nil
    rw [List.append_nil] at hany
    rw [hany, or_iff_left hnil, mem_texts htexts hnonce]
  | torn htexts htext hpos hn =>
    have hall := htexts.newline_notMem fun _ _ htext => (nonceText_line htext).1
    obtain ⟨hvalid, rfl⟩ := nonceText_eq_ok.mp htext
    rw [hlines hall fun hmem => newline_notMem_utf8 hvalid (List.mem_of_mem_take hmem), or_iff_left,
      mem_texts htexts hnonce]
    intro heq
    have hlength := congrArg List.length heq
    rw [utf8_nonce_length hnonce, List.length_take, utf8_nonce_length hvalid] at hlength
    rw [utf8_nonce_length hvalid] at hn
    omega
  | unended htexts htext =>
    have hall := htexts.newline_notMem fun _ _ htext => (nonceText_line htext).1
    obtain ⟨hvalid, rfl⟩ := nonceText_eq_ok.mp htext
    rw [hlines hall (newline_notMem_utf8 hvalid), mem_texts htexts hnonce, List.mem_append, List.mem_singleton,
      JsString.utf8_inj_ascii (isNonce_ascii hnonce) (isNonce_ascii hvalid)]

/-- What an append leaves after complete lines. -/
theorem written_append {file : List UInt8} {used : List JsString} (h : Written nonceText file used)
    (hend : terminated file = true) {nonce : JsString} (hnonce : isNonce nonce = true) (n : ℕ) :
    ∃ used', Written nonceText (file ++ (nonceLine nonce).take n) used' ∧ (∀ m ∈ used, m ∈ used') ∧
      ∀ m ∈ used', m ∈ used ∨ m = nonce := by
  obtain ⟨texts, htexts, rfl⟩ := h.texts (fun _ _ => nonceText_line) hend
  refine ⟨_, Written.cut htexts (nonceText_eq_ok.mpr ⟨hnonce, rfl⟩) n, ?_, ?_⟩
  · intro m hm
    split
    · exact List.mem_append_left _ hm
    · exact hm
  · intro m hm
    split at hm
    · exact (List.mem_append.mp hm).imp_right List.mem_singleton.mp
    · exact .inl hm

theorem written_append_done {file : List UInt8} {used : List JsString} (h : Written nonceText file used)
    (hend : terminated file = true) {nonce : JsString} (hnonce : isNonce nonce = true) :
    Written nonceText (file ++ nonceLine nonce) (used ++ [nonce]) := by
  obtain ⟨texts, htexts, rfl⟩ := h.texts (fun _ _ => nonceText_line) hend
  exact Written.append htexts (nonceText_eq_ok.mpr ⟨hnonce, rfl⟩)

/-! ## What every step keeps -/

section

variable {P : Platform}

/-- The answer accepts a token that was issued before it. -/
def InScope (P : Platform) (s : GatewayState) (answer : Answer) (record : IssuedRecord) : Prop :=
  record ∈ s.issued.take answer.issuedBefore ∧ record.secret = answer.options.secret ∧
    record.applicationId = answer.options.applicationId ∧ record.token P = answer.options.token ∧
      answer.now < record.expiresAt

/-- The invariant: `used` are the nonces that the file stands for. -/
structure Sound (P : Platform) (s : GatewayState) (used : List JsString) : Prop where
  written : Written nonceText (s.file.getD []) used
  attempted : ∀ nonce ∈ used, nonce ∈ s.attempted
  accepted : ∀ answer ∈ s.answers, ∀ applicationId, answer.outcome = .accepted applicationId →
    applicationId = answer.options.applicationId ∧ ∃ record, InScope P s answer record ∧ record.nonce ∈ used
  once : (s.answers.filterMap Answer.acceptedToken).Nodup
  answered : ∀ answer ∈ s.answers, answer.outcome ≠ .thrown

theorem Sound.initial : Sound P .initial [] := ⟨Written.empty, nofun, nofun, List.nodup_nil, nofun⟩

theorem dot_notMem_sign (secret payload : JsString) : dot ∉ P.sign secret payload := fun hmem =>
  (P.sign_ascii _ _ dot hmem).2 rfl

theorem cut_record_token (record : IssuedRecord) : cut dot (record.token P) =
    [record.applicationId, integerText record.expiresAt, record.nonce, P.sign record.secret record.payload] :=
  cut_token (dot_notMem_applicationId record.valid_applicationId) (dot_notMem_integerText _)
    (dot_notMem_nonce record.valid_nonce) (dot_notMem_sign _ _)

/-- A token stands for one nonce. -/
theorem nonce_eq_of_token_eq {record record' : IssuedRecord} (h : record.token P = record'.token P) :
    record.nonce = record'.nonce := by
  have hcut := congrArg (cut dot) h
  rw [cut_record_token, cut_record_token] at hcut
  injection hcut with _ hcut
  injection hcut with _ hcut
  injection hcut

theorem mem_acceptedToken {answers : List Answer} {token : JsString}
    (h : token ∈ answers.filterMap Answer.acceptedToken) :
    ∃ answer ∈ answers, ∃ applicationId, answer.outcome = .accepted applicationId ∧ answer.options.token = token := by
  obtain ⟨answer, hanswer, htoken⟩ := List.mem_filterMap.mp h
  unfold Answer.acceptedToken at htoken
  cases houtcome : answer.outcome with
  | accepted applicationId =>
    rw [houtcome] at htoken
    exact ⟨answer, hanswer, applicationId, houtcome, Option.some.inj htoken⟩
  | _ =>
    rw [houtcome] at htoken
    exact nomatch htoken

/-- One more answer: an acceptance is in scope, its token was not accepted before, and its nonce is in the file. -/
theorem Sound.extend {s : GatewayState} {used used' : List JsString} (h : Sound P s used)
    {file : Option (List UInt8)} {answer : Answer} {nonces : List JsString}
    (hwritten : Written nonceText (file.getD []) used') (hmono : ∀ nonce ∈ used, nonce ∈ used')
    (hattempted : ∀ nonce ∈ used', nonce ∈ used ∨ nonce ∈ nonces) (hanswered : answer.outcome ≠ .thrown)
    (haccepted : ∀ applicationId, answer.outcome = .accepted applicationId →
      applicationId = answer.options.applicationId ∧
        ∃ record, InScope P s answer record ∧ record.nonce ∈ used' ∧ record.nonce ∉ used) :
    Sound P { s with file := file, answers := s.answers ++ [answer], attempted := s.attempted ++ nonces } used' where
  written := hwritten
  attempted nonce hnonce := List.mem_append.mpr ((hattempted nonce hnonce).imp_left (h.attempted nonce))
  accepted other hother applicationId houtcome := by
    rcases List.mem_append.mp hother with hother | hother
    · obtain ⟨happlication, record, hscope, hused⟩ := h.accepted other hother applicationId houtcome
      exact ⟨happlication, record, hscope, hmono _ hused⟩
    · obtain rfl := List.mem_singleton.mp hother
      obtain ⟨happlication, record, hscope, hused, -⟩ := haccepted applicationId houtcome
      exact ⟨happlication, record, hscope, hused⟩
  once := by
    rw [List.filterMap_append]
    refine List.nodup_append.mpr ⟨h.once, ?_, ?_⟩
    · rw [List.filterMap_cons]
      split <;> simp
    · rintro token htoken _ hnew rfl
      obtain ⟨other, hother, otherId, hotherOutcome, hotherToken⟩ := mem_acceptedToken htoken
      obtain ⟨_, hmem, applicationId, houtcome, htoken'⟩ := mem_acceptedToken hnew
      obtain rfl := List.mem_singleton.mp hmem
      obtain ⟨-, record, hscope, hused⟩ := h.accepted other hother otherId hotherOutcome
      obtain ⟨-, record', hscope', -, hfresh⟩ := haccepted applicationId houtcome
      refine hfresh (nonce_eq_of_token_eq (P := P) ?_ ▸ hused)
      rw [hscope.2.2.2.1, hscope'.2.2.2.1, hotherToken, htoken']
  answered other hother := by
    rcases List.mem_append.mp hother with hother | hother
    · exact h.answered other hother
    · rw [List.mem_singleton.mp hother]
      exact hanswered

theorem Sound.issue {s : GatewayState} {used : List JsString} (h : Sound P s used) (record : IssuedRecord) :
    Sound P { s with issued := s.issued ++ [record] } used := by
  refine { h with accepted := fun answer hanswer applicationId houtcome => ?_ }
  obtain ⟨happlication, other, hscope, hused⟩ := h.accepted answer hanswer applicationId houtcome
  refine ⟨happlication, other, ⟨?_, hscope.2⟩, hused⟩
  rw [List.take_append]
  exact List.mem_append_left _ hscope.1

/-- Signatures of one length are compared by their texts when the received one is ASCII. -/
theorem timingSafeEqual_ascii {secret payload signature : JsString} (hlength : signature.length = signatureLength)
    (hascii : ∀ u ∈ signature, u.toNat < 0x80) :
    timingSafeEqual signature.utf8 (P.sign secret payload).utf8 = some (signature == P.sign secret payload) := by
  have hsign : ∀ u ∈ P.sign secret payload, u.toNat < 0x80 := fun u hu => (P.sign_ascii _ _ u hu).1
  have hsame : signature.utf8.length = (P.sign secret payload).utf8.length := by
    rw [JsString.utf8_ascii hascii, JsString.utf8_ascii hsign, List.length_map, List.length_map, hlength, P.sign_length]
  unfold timingSafeEqual
  rw [if_neg (not_not.mpr hsame)]
  refine congrArg some (Bool.eq_iff_iff.mpr ?_)
  rw [beq_iff_eq, beq_iff_eq, JsString.utf8_inj_ascii hascii hsign]

/-- A payload that was issued tells what it was issued for. -/
theorem IssuedRecord.payload_inj {record : IssuedRecord} {parsed : Parsed} {options : VerifyOptions} {now : ℤ}
    (hparsed : ParsedFrom P options now parsed) (h : record.payload = parsed.payload) :
    record.applicationId = parsed.applicationId ∧ integerText record.expiresAt = parsed.expiresAtText ∧
      record.nonce = parsed.nonce :=
  payloadOf_inj (dot_notMem_applicationId record.valid_applicationId) (dot_notMem_applicationId hparsed.opaqueId)
    (dot_notMem_integerText _) hparsed.dot_free h

theorem Sound.verify {s : GatewayState} {used : List JsString} (h : Sound P s used) {options : VerifyOptions}
    {wall : WallClock} {effect : StoreEffect} (hunforged : Unforged P s (.verify options wall effect))
    (hgood : Careful P s (.verify options wall effect)) :
    ∃ used', Sound P (s.step P (.verify options wall effect)) used' := by
  obtain ⟨hascii, hend⟩ := hgood
  -- an answer that leaves the file as it was
  have hsame : ∀ {outcome : Outcome} {nonces : List JsString}, outcome ≠ .thrown →
      (∀ applicationId, outcome ≠ .accepted applicationId) →
      Sound P { s with
        answers := s.answers ++ [⟨options, options.now.getD wall.val, outcome, s.issued.length⟩]
        attempted := s.attempted ++ nonces } used := fun hthrown haccepted =>
    h.extend h.written (fun _ => id) (fun _ => .inl) hthrown fun applicationId houtcome =>
      absurd houtcome (haccepted applicationId)
  unfold GatewayState.step verifyStorageCapability appending at *
  dsimp only at *
  cases hparse : parseCapability P options wall.val with
  | error reason => exact ⟨used, hsame nofun nofun⟩
  | ok parsed =>
    have hparsed := parseCapability_eq_ok hparse
    rw [hparse] at hend
    dsimp only at hend ⊢
    rw [timingSafeEqual_ascii hparsed.length (hascii parsed hparse)]
    cases hsignature : parsed.signature == P.sign options.secret parsed.payload with
    | false => exact ⟨used, hsame nofun nofun⟩
    | true =>
      have hsigned := beq_iff_eq.mp hsignature
      obtain ⟨record, hrecord, hsecret, hpayload⟩ := hunforged parsed hparse hsigned
      dsimp only
      unfold consume
      cases hread : effect.readFails with
      | true => exact ⟨used, hsame nofun nofun⟩
      | false =>
        rw [if_neg Bool.false_ne_true]
        cases hpresent : isPresent s.file parsed.nonce with
        | true => exact ⟨used, hsame nofun nofun⟩
        | false =>
          rw [if_neg Bool.false_ne_true, if_pos ⟨hsigned, rfl, rfl⟩]
          have hcomplete := hend parsed.nonce (if_pos ⟨hsigned, hread, hpresent⟩)
          have hfresh : parsed.nonce ∉ used := fun hmem => by
            rw [(isPresent_iff h.written hparsed.nonce).mpr hmem] at hpresent
            exact nomatch hpresent
          cases heffect : effect.append with
          | done =>
            refine ⟨used ++ [parsed.nonce], h.extend (written_append_done h.written hcomplete hparsed.nonce)
              (fun _ => List.mem_append_left _) (fun nonce => List.mem_append.mp) nofun fun applicationId houtcome => ?_⟩
            obtain ⟨happlication, htext, hnonce⟩ := record.payload_inj hparsed hpayload
            obtain ⟨expiresAt, hnumber, hexpiry⟩ := hparsed.expiry
            rw [← htext, P.number_integerText _ record.safe_expiresAt] at hnumber
            injection houtcome with hid
            refine ⟨hid ▸ hparsed.application, record, ⟨?_, hsecret, happlication.trans hparsed.application, ?_, ?_⟩, ?_, ?_⟩
            · rw [List.take_length]
              exact hrecord
            · unfold IssuedRecord.token
              rw [hpayload, hsecret, ← hsigned, hparsed.token]
            · exact Option.some.inj hnumber ▸ hexpiry
            · exact List.mem_append_right _ (hnonce ▸ List.mem_cons_self)
            · exact hnonce ▸ hfresh
          | failed written =>
            obtain ⟨used', hwritten, hmono, hnew⟩ := written_append h.written hcomplete hparsed.nonce written
            exact ⟨used', h.extend hwritten hmono (fun nonce hmem => (hnew nonce hmem).imp_right List.mem_singleton.mpr)
              nofun nofun⟩
          | crashed written =>
            obtain ⟨used', hwritten, hmono, hnew⟩ := written_append h.written hcomplete hparsed.nonce written
            exact ⟨used', h.extend hwritten hmono (fun nonce hmem => (hnew nonce hmem).imp_right List.mem_singleton.mpr)
              nofun nofun⟩

/-- The payload of a capability with any signature of the right length passes the checks until its expiry. -/
theorem parse_payload (record : IssuedRecord) {secret signature : JsString} (hlength : signature.length = signatureLength)
    (hdot : dot ∉ signature) {now : Option ℤ} {wall : ℤ} (hnow : now.getD wall < record.expiresAt) :
    parseCapability P ⟨secret, record.payload ++ dot :: signature, record.applicationId, now⟩ wall =
      .ok ⟨record.applicationId, integerText record.expiresAt, record.nonce, signature⟩ := by
  have hshort : ¬ (record.payload ++ dot :: signature).length > maxTokenLength := by
    have happlication := isOpaqueIdText_length record.valid_applicationId
    have hexpiry := length_integerText record.safe_expiresAt
    have hnonce := isNonce_length record.valid_nonce
    have hsign : signature.length = 43 := hlength
    rw [List.length_append, List.length_cons, hsign]
    unfold IssuedRecord.payload payloadOf
    rw [List.length_append, List.length_cons, List.length_append, List.length_cons, hnonce]
    unfold maxTokenLength
    omega
  have hcut : cut dot (record.payload ++ dot :: signature) =
      [record.applicationId, integerText record.expiresAt, record.nonce, signature] :=
    cut_token (dot_notMem_applicationId record.valid_applicationId) (dot_notMem_integerText _)
      (dot_notMem_nonce record.valid_nonce) hdot
  unfold parseCapability
  rw [if_neg hshort, hcut]
  dsimp only
  rw [record.valid_applicationId, Bool.not_true, if_neg Bool.false_ne_true, if_neg (not_not.mpr rfl),
    P.number_integerText _ record.safe_expiresAt]
  dsimp only
  rw [if_neg (Int.not_le.mpr hnow), record.valid_nonce, Bool.not_true, if_neg Bool.false_ne_true,
    if_neg (not_not.mpr hlength)]

theorem parse_record (record : IssuedRecord) {now : Option ℤ} {wall : ℤ} (hnow : now.getD wall < record.expiresAt) :
    parseCapability P ⟨record.secret, record.token P, record.applicationId, now⟩ wall =
      .ok ⟨record.applicationId, integerText record.expiresAt, record.nonce, P.sign record.secret record.payload⟩ :=
  parse_payload record (P.sign_length _ _) (dot_notMem_sign _ _) hnow

theorem Sound.usable {s : GatewayState} {used : List JsString} (h : Sound P s used) {record : IssuedRecord}
    (hfresh : record.nonce ∉ s.attempted) {now : Option ℤ} {wall : ℤ} (hnow : now.getD wall < record.expiresAt) :
    (verifyStorageCapability P s.file ⟨record.secret, record.token P, record.applicationId, now⟩ wall
      ⟨false, .done⟩).2 = .accepted record.applicationId := by
  have hpresent : isPresent s.file record.nonce = false := by
    refine Bool.eq_false_iff.mpr fun hpresent => hfresh (h.attempted _ ?_)
    exact (isPresent_iff h.written record.valid_nonce).mp hpresent
  unfold verifyStorageCapability
  rw [parse_record record hnow]
  dsimp only
  have hequal := @timingSafeEqual_ascii P record.secret record.payload _ (P.sign_length record.secret record.payload)
    fun u hu => (P.sign_ascii _ _ u hu).1
  rw [show Parsed.payload ⟨record.applicationId, integerText record.expiresAt, record.nonce,
    P.sign record.secret record.payload⟩ = record.payload from rfl, hequal, beq_self_eq_true]
  unfold consume
  dsimp only
  rw [if_neg Bool.false_ne_true, hpresent, if_neg Bool.false_ne_true]
  rfl

theorem Sound.singleUse {s : GatewayState} {used : List JsString} (h : Sound P s used) : SingleUse P s where
  once := h.once
  in_scope answer hanswer applicationId houtcome := by
    obtain ⟨happlication, record, hscope, -⟩ := h.accepted answer hanswer applicationId houtcome
    exact ⟨happlication, record, hscope.1, hscope.2⟩
  answered := h.answered
  usable _ _ hfresh _ _ hnow := h.usable hfresh hnow

theorem Sound.step {s : GatewayState} {event : GatewayEvent} (hunforged : Unforged P s event)
    (hgood : Careful P s event) (h : ∃ used, Sound P s used) : ∃ used, Sound P (s.step P event) used := by
  obtain ⟨used, h⟩ := h
  cases event with
  | issue options wall random =>
    unfold GatewayState.step
    dsimp only
    cases issueRecord options wall random with
    | ok record => exact ⟨used, h.issue record⟩
    | error issues => exact ⟨used, h⟩
  | verify options wall effect => exact h.verify hunforged hgood

/-- In every run without forged signatures whose calls are careful, a token is accepted once at most, in its scope, and
at its first valid use, and no call throws. -/
theorem capabilities_single_use {events : List GatewayEvent}
    (hunforged : Along (GatewayState.step P) (Unforged P) .initial events)
    (hgood : Along (GatewayState.step P) (Careful P) .initial events) :
    SingleUse P (run (GatewayState.step P) .initial events) := by
  obtain ⟨used, h⟩ := Along.invariant (P := fun s : GatewayState => ∃ used, Sound P s used)
    (fun _ _ hboth h => Sound.step hboth.1 hboth.2 h) (hunforged.and hgood) ⟨[], Sound.initial⟩
  exact h.singleUse

end

/-! ## A platform and two runs -/

/-- The number of a decimal text. -/
def decimalNumber (text : JsString) : ℤ :=
  let digits (text : JsString) : ℤ := (Nat.ofDigitChars 10 (text.map fun u => Char.ofNat u.toNat) 0 : ℕ)
  match text with
  | 45 :: rest => -digits rest
  | text => digits text

theorem ofDigitChars_ofString_repr (n : ℕ) :
    Nat.ofDigitChars 10 ((JsString.ofString n.repr).map fun u => Char.ofNat u.toNat) 0 = n := by
  rw [ofString_repr, List.map_map]
  have hback : ∀ c ∈ Nat.toDigits 10 n, ((fun u : UInt16 => Char.ofNat u.toNat) ∘ fun c => UInt16.ofNat c.toNat) c = id c := by
    intro c hc
    have hdigit := Nat.isDigit_of_mem_toDigits (by decide) (by decide) hc
    rw [Char.isDigit, Bool.and_eq_true, decide_eq_true_iff, decide_eq_true_iff] at hdigit
    have hhigh : c.toNat ≤ 57 := hdigit.2
    rw [Function.comp_apply, UInt16.toNat_ofNat', Nat.mod_eq_of_lt (by omega), Char.ofNat_toNat]
    rfl
  rw [List.map_congr_left hback, List.map_id, Nat.ofDigitChars_toDigits (by decide) (by decide)]

theorem decimalNumber_integerText (n : ℤ) : decimalNumber (integerText n) = n := by
  unfold integerText
  split
  · rename_i hneg
    show -((Nat.ofDigitChars 10 ((JsString.ofString n.natAbs.repr).map fun u => Char.ofNat u.toNat) 0 : ℕ) : ℤ) = n
    rw [ofDigitChars_ofString_repr]
    omega
  · rename_i hpos
    unfold decimalNumber
    split
    · rename_i rest heq
      have hdigit := @digit_of_mem_ofString_repr n.natAbs 45 (heq ▸ List.mem_cons_self)
      exact absurd hdigit.1 (by decide)
    · dsimp only
      rw [ofDigitChars_ofString_repr]
      omega

def sampleSecret : JsString := JsString.ofString "0123456789abcdef0123456789abcdef"

def sampleNonce : JsString := List.replicate 32 48

def sampleRecord : IssuedRecord where
  secret := sampleSecret
  applicationId := JsString.ofString "app"
  expiresAt := 2000
  nonce := sampleNonce
  valid_applicationId := by decide +kernel
  safe_expiresAt := rfl
  valid_nonce := by decide +kernel

/-- A platform that signs the sample as HMAC-SHA256 does. -/
def samplePlatform : Platform where
  sign secret payload :=
    if secret = sampleSecret ∧ payload = sampleRecord.payload then
      JsString.ofString "2u8YNXDzUvZVpgtV2rgMoKY6X4KJ9yJGEODwjsub2Wo"
    else List.replicate 43 65
  number text :=
    if text = integerText (decimalNumber text) ∧ isSafeInteger (decimalNumber text) = true then
      some (decimalNumber text)
    else none
  sign_length secret payload := by
    split
    · decide +kernel
    · rfl
  sign_ascii secret payload u hu := by
    split at hu
    · have hall : (JsString.ofString "2u8YNXDzUvZVpgtV2rgMoKY6X4KJ9yJGEODwjsub2Wo").all
          (fun u => decide (u.toNat < 0x80) && u != dot) = true := by
        decide +kernel
      have hunit := List.all_eq_true.mp hall u hu
      rw [Bool.and_eq_true, decide_eq_true_iff, bne_iff_ne] at hunit
      exact hunit
    · rw [List.eq_of_mem_replicate hu]
      decide
  number_integerText n hsafe := by
    rw [decimalNumber_integerText, if_pos ⟨rfl, hsafe⟩]

def sampleIssue : IssueOptions := ⟨sampleSecret, some (JsString.ofString "app"), 1000, none, none⟩

theorem issueRecord_sample :
    issueRecord sampleIssue ⟨1000, by decide⟩ ⟨sampleNonce, sampleRecord.valid_nonce⟩ = .ok sampleRecord := by
  have hissues : issueErrors sampleIssue ⟨1000, by decide⟩ = [] := by decide +kernel
  unfold issueRecord
  rw [dif_pos hissues]
  rfl

/-- A capability that is issued and used. -/
theorem capabilities_single_use_sample : SingleUse samplePlatform (run (GatewayState.step samplePlatform) .initial
    [.issue sampleIssue ⟨1000, by decide⟩ ⟨sampleNonce, sampleRecord.valid_nonce⟩,
      .verify ⟨sampleSecret, sampleRecord.token samplePlatform, JsString.ofString "app", none⟩ ⟨1500, by decide⟩
        ⟨false, .done⟩]) := by
  have hstep : GatewayState.initial.step samplePlatform (.issue sampleIssue ⟨1000, by decide⟩
      ⟨sampleNonce, sampleRecord.valid_nonce⟩) = ⟨none, [sampleRecord], [], []⟩ := by
    unfold GatewayState.step
    dsimp only
    rw [issueRecord_sample]
    rfl
  have hparse := @parse_record samplePlatform sampleRecord none 1500 (by decide)
  refine capabilities_single_use ⟨trivial, ?_, trivial⟩ ⟨trivial, ?_, trivial⟩
  · rw [hstep]
    intro parsed hparsed _
    obtain rfl := Except.ok.inj (hparse.symm.trans hparsed)
    exact ⟨sampleRecord, List.mem_cons_self, rfl, rfl⟩
  · rw [hstep]
    refine ⟨fun parsed hparsed u hu => ?_, fun _ _ => rfl⟩
    obtain rfl := Except.ok.inj (hparse.symm.trans hparsed)
    exact (samplePlatform.sign_ascii sampleRecord.secret sampleRecord.payload u hu).1

/-- A token whose signature has 43 units and more bytes. -/
def accentedToken : JsString := sampleRecord.payload ++ dot :: List.replicate 43 0xe9

/-- The comparison throws for the token. -/
theorem verification_throws : ¬ ∀ (P : Platform) (events : List GatewayEvent),
    Along (GatewayState.step P) (Unforged P) .initial events → SingleUse P (run (GatewayState.step P) .initial events) := by
  intro h
  have hparse := @parse_payload samplePlatform sampleRecord sampleSecret (List.replicate 43 0xe9) rfl (by decide) none
    1500 (by decide)
  have hunforged : Along (GatewayState.step samplePlatform) (Unforged samplePlatform) .initial
      [.verify ⟨sampleSecret, accentedToken, sampleRecord.applicationId, none⟩ ⟨1500, by decide⟩ ⟨false, .done⟩] := by
    refine ⟨fun parsed hparsed hsigned => ?_, trivial⟩
    obtain rfl := Except.ok.inj (hparse.symm.trans hparsed)
    -- a signature is ASCII
    have hmem : (0xe9 : UInt16) ∈ samplePlatform.sign sampleSecret sampleRecord.payload :=
      (show List.replicate 43 0xe9 = samplePlatform.sign sampleSecret sampleRecord.payload from hsigned) ▸
        List.mem_cons_self
    exact absurd (samplePlatform.sign_ascii _ _ _ hmem).1 (by decide)
  have hthrown : (verifyStorageCapability samplePlatform none
      ⟨sampleSecret, accentedToken, sampleRecord.applicationId, none⟩ 1500 ⟨false, .done⟩).2 = .thrown := by
    have hlong : (JsString.utf8 (List.replicate 43 0xe9)).length = 86 := by decide +kernel
    have hsign : (samplePlatform.sign sampleSecret sampleRecord.payload).utf8.length = 43 := by
      rw [JsString.utf8_ascii fun u hu => (samplePlatform.sign_ascii _ _ u hu).1, List.length_map]
      exact samplePlatform.sign_length _ _
    have hthrows : timingSafeEqual (JsString.utf8 (List.replicate 43 0xe9))
        (samplePlatform.sign sampleSecret sampleRecord.payload).utf8 = none := by
      unfold timingSafeEqual
      rw [hlong, hsign]
      rfl
    unfold verifyStorageCapability
    rw [show accentedToken = sampleRecord.payload ++ dot :: List.replicate 43 0xe9 from rfl, hparse]
    dsimp only
    rw [show Parsed.payload ⟨sampleRecord.applicationId, integerText sampleRecord.expiresAt, sampleRecord.nonce,
      List.replicate 43 0xe9⟩ = sampleRecord.payload from rfl, hthrows]
  refine (h samplePlatform _ hunforged).answered _ List.mem_cons_self ?_
  exact hthrown

end Iweb.Storage
