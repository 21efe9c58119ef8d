import Iweb.Relay.DescriptorSlots

/-!
# Where the descriptors land

Each snapshot is moved to its slot whatever its number is. The second move reads its source after the first one, so a
configuration held in the slot of the secret is lost; everything else follows from the closing loop and the marks.
-/

namespace Iweb.Relay

open Descriptors

variable {F : Type}

theorem getElem?_closeInherited (softLimit : Option ℕ) (t : Table F) (fd : ℕ) :
    (closeInheritedDescriptors softLimit [secretFdSlot, configFdSlot] t)[fd]? =
      if configFdSlot < fd ∧ fd < closingBound softLimit then none else t[fd]? := by
  have hmem : (fd ∈ (List.range' 3 (closingBound softLimit - 3)).filter
      fun fd => !([secretFdSlot, configFdSlot].contains fd)) ↔ configFdSlot < fd ∧ fd < closingBound softLimit := by
    unfold secretFdSlot configFdSlot
    rw [List.mem_filter, List.mem_range'_1]
    simp only [List.contains_cons, List.contains_nil, Bool.or_false, Bool.not_eq_true', Bool.or_eq_false_iff,
      beq_eq_false_iff_ne]
    omega
  unfold closeInheritedDescriptors
  rw [getElem?_closeAll]
  simp only [hmem]

/-- The table before the closing loop: the two slots, and the other numbers as in the relay. -/
theorem spawn_moves {request : FdSpawnRequest} {t : Table F} {secret : F} {config : Option F}
    (h : Holds request t secret config) (softLimit : Option ℕ) : ∃ t₁,
    childTable request softLimit t =
      some (exec (closeInheritedDescriptors softLimit [secretFdSlot, configFdSlot] t₁)) ∧
    t₁[secretFdSlot]? = some ⟨secret, false⟩ ∧
    t₁[configFdSlot]? = (if request.configFd = some 3 then some ⟨secret, false⟩ else config.map (⟨·, false⟩)) ∧
    ∀ fd, fd ≠ secretFdSlot → fd ≠ configFdSlot → t₁[fd]? = t[fd]? := by
  obtain ⟨d, hopen, rfl⟩ := h.secret_open
  obtain ⟨t₁, hmove, hslot, hother⟩ := @moved F t request.secretFd.toNat secretFdSlot d hopen
  unfold childTable
  rw [hmove]
  cases hconfig : request.configFd with
  | none =>
    refine ⟨close t₁ configFdSlot, rfl, ?_, ?_, fun fd hs hc => ?_⟩
    · rw [getElem?_close, if_neg (by decide), hslot]
    · rw [getElem?_close, if_pos rfl, if_neg nofun, h.config_none hconfig]
      rfl
    · rw [getElem?_close, if_neg hc, hother fd hs]
  | some fd =>
    obtain ⟨hge, hne⟩ := h.config_ge fd hconfig
    obtain ⟨e, hsource, rfl⟩ := h.config_open fd hconfig
    by_cases hthree : fd = 3
    · -- the slot of the secret is the source of the second move
      subst hthree
      obtain ⟨t₂, hmove', hslot', hother'⟩ := @moved F t₁ 3 configFdSlot ⟨d.file, false⟩ hslot
      refine ⟨t₂, ?_, ?_, ?_, fun a hs hc => ?_⟩
      · show ((dup2 t₁ 3 configFdSlot).bind fun t => setCloseOnExec t configFdSlot false).bind _ = _
        rw [hmove']
        rfl
      · rw [hother' secretFdSlot (by decide), hslot]
      · rw [if_pos rfl, hslot']
      · rw [hother' a hc, hother a hs]
    · have hapart : fd.toNat ≠ secretFdSlot := by
        unfold secretFdSlot
        omega
      have hsource' : t₁[fd.toNat]? = some e := by rw [hother fd.toNat hapart, hsource]
      obtain ⟨t₂, hmove', hslot', hother'⟩ := @moved F t₁ fd.toNat configFdSlot e hsource'
      refine ⟨t₂, ?_, ?_, ?_, fun a hs hc => ?_⟩
      · show ((dup2 t₁ fd.toNat configFdSlot).bind fun t => setCloseOnExec t configFdSlot false).bind _ = _
        rw [hmove']
        rfl
      · rw [hother' secretFdSlot (by decide), hslot]
      · rw [if_neg (by simpa using hthree), hslot']
        rfl
      · rw [hother' a hc, hother a hs]

/-- An inherited descriptor is there after the execution exactly when it is not marked. -/
theorem filter_eq_none_iff {d : Option (Descriptor F)} :
    d.filter (fun d => !d.closeOnExec) = none ↔ ∀ e, d = some e → e.closeOnExec = true := by
  cases d with
  | none => exact iff_of_true rfl nofun
  | some d =>
    obtain ⟨file, mark⟩ := d
    cases mark
    · exact iff_of_false nofun fun hall => nomatch hall _ rfl
    · refine iff_of_true rfl ?_
      rintro _ ⟨⟩
      rfl

theorem filter_eq_self_iff {d : Option (Descriptor F)} :
    d.filter (fun d => !d.closeOnExec) = d ↔ ∀ e, d = some e → e.closeOnExec = false := by
  cases d with
  | none => exact iff_of_true rfl nofun
  | some d =>
    obtain ⟨file, mark⟩ := d
    cases mark
    · refine iff_of_true rfl ?_
      rintro _ ⟨⟩
      rfl
    · exact iff_of_false nofun fun hall => nomatch hall _ rfl

/-- For an accepted request whose descriptors are open, no call of the child fails, and the executed program finds its
descriptors right exactly in a safe layout. -/
theorem descriptors_land_right {request : FdSpawnRequest} {softLimit : Option ℕ} {t : Table F} {secret : F}
    {config : Option F} (hvalid : validateSpawnRequest request = .ok ()) (h : Holds request t secret config) :
    ∃ t', spawnExecWithSnapshotFds request softLimit t = .ok (some t') ∧
      (SlotsRight secret config t t' ↔ LayoutSafe request softLimit t secret config) := by
  obtain ⟨t₁, hspawn, hsecret, hconfig, hother⟩ := spawn_moves h softLimit
  refine ⟨exec (closeInheritedDescriptors softLimit [secretFdSlot, configFdSlot] t₁), ?_, ?_⟩
  · unfold spawnExecWithSnapshotFds
    rw [hvalid, hspawn]
  have hafter : ∀ fd, (exec (closeInheritedDescriptors softLimit [secretFdSlot, configFdSlot] t₁))[fd]? =
      (if configFdSlot < fd ∧ fd < closingBound softLimit then none else t₁[fd]?).filter fun d => !d.closeOnExec := by
    intro fd
    rw [getElem?_exec, getElem?_closeInherited]
  have hlow : ∀ fd, fd < 3 → (exec (closeInheritedDescriptors softLimit [secretFdSlot, configFdSlot] t₁))[fd]? =
      t[fd]?.filter fun d => !d.closeOnExec := by
    intro fd hfd
    have hs : fd ≠ secretFdSlot := by
      unfold secretFdSlot
      omega
    have hc : fd ≠ configFdSlot := by
      unfold configFdSlot
      omega
    rw [hafter, if_neg (by unfold configFdSlot; omega), hother fd hs hc]
  have hhigh : ∀ fd, configFdSlot < fd → (exec (closeInheritedDescriptors softLimit [secretFdSlot, configFdSlot] t₁))[fd]? =
      (if fd < closingBound softLimit then none else t[fd]?).filter fun d => !d.closeOnExec := by
    intro fd hfd
    have hs : fd ≠ secretFdSlot := by
      unfold secretFdSlot
      unfold configFdSlot at hfd
      omega
    rw [hafter, hother fd hs (Nat.ne_of_gt hfd)]
    simp only [hfd, true_and]
  have hslot : (exec (closeInheritedDescriptors softLimit [secretFdSlot, configFdSlot] t₁))[configFdSlot]? =
      if request.configFd = some 3 then some ⟨secret, false⟩ else config.map (⟨·, false⟩) := by
    rw [hafter, if_neg (by omega), hconfig, filter_eq_self_iff]
    intro e he
    split at he
    · cases he
      rfl
    · rw [Option.map_eq_some_iff] at he
      obtain ⟨_, -, rfl⟩ := he
      rfl
  constructor
  · intro hright
    refine ⟨fun hthree => ?_, fun fd hfd d hd => ?_, fun fd hbound hfd d hd => ?_⟩
    · have heq := hslot.symm.trans hright.config
      rw [if_pos hthree] at heq
      obtain ⟨file, hfile, heq⟩ := Option.map_eq_some_iff.mp heq.symm
      rw [hfile]
      exact congrArg (fun d => some d.file) heq
    · exact filter_eq_self_iff.mp ((hlow fd hfd).symm.trans (hright.standard fd hfd)) d hd
    · have hnone := (hhigh fd hfd).symm.trans (hright.others fd hfd)
      rw [if_neg (Nat.not_lt.mpr hbound)] at hnone
      exact filter_eq_none_iff.mp hnone d hd
  · intro hsafe
    refine ⟨?_, ?_, fun fd hfd => ?_, fun fd hfd => ?_⟩
    · rw [hafter, if_neg (by unfold configFdSlot secretFdSlot; omega), hsecret]
      rfl
    · rw [hslot]
      split
      · rw [hsafe.config_apart ‹_›]
        rfl
      · rfl
    · rw [hlow fd hfd]
      exact filter_eq_self_iff.mpr (hsafe.standard fd hfd)
    · rw [hhigh fd hfd]
      split
      · rfl
      · exact filter_eq_none_iff.mpr (hsafe.beyond fd (Nat.not_lt.mp ‹_›) hfd)

/-- A relay that holds the secret at 9 and a configuration at 3. -/
def swappedTable : Table String :=
  [(0, ⟨"null", false⟩), (1, ⟨"log", false⟩), (2, ⟨"log", false⟩), (3, ⟨"config", true⟩), (9, ⟨"secret", true⟩)].foldl
    (fun t p => t.insert p.1 p.2) ∅

def swappedRequest (configFd : ℤ) : FdSpawnRequest :=
  ⟨"/usr/bin/iweb-wasmd", ["/usr/bin/iweb-wasmd", "run"], 9, some configFd⟩

theorem swapped_holds : Holds (swappedRequest 3) swappedTable "secret" (some "config") where
  secret_ge := by decide
  secret_open := ⟨⟨"secret", true⟩, by decide, rfl⟩
  config_ge := by
    rintro _ ⟨⟩
    decide
  config_open := by
    rintro _ ⟨⟩
    exact ⟨⟨"config", true⟩, by decide, rfl⟩
  config_none := nofun

theorem descriptors_land_right_swapped : validateSpawnRequest (swappedRequest 3) = .ok () ∧
    ∃ t', spawnExecWithSnapshotFds (swappedRequest 3) (some 1024) swappedTable = .ok (some t') ∧
      (SlotsRight "secret" (some "config") swappedTable t' ↔
        LayoutSafe (swappedRequest 3) (some 1024) swappedTable "secret" (some "config")) :=
  ⟨by decide, descriptors_land_right (by decide) swapped_holds⟩

/-- The program finds the secret in the slot of the configuration. -/
theorem config_slot_holds_secret : validateSpawnRequest (swappedRequest 3) = .ok () ∧
    Holds (swappedRequest 3) swappedTable "secret" (some "config") ∧
    ∃ t', spawnExecWithSnapshotFds (swappedRequest 3) (some 1024) swappedTable = .ok (some t') ∧
      ¬SlotsRight "secret" (some "config") swappedTable t' := by
  obtain ⟨t₁, hspawn, -, hconfig, -⟩ := spawn_moves swapped_holds (some 1024)
  have hvalid : validateSpawnRequest (swappedRequest 3) = .ok () := by decide
  refine ⟨hvalid, swapped_holds, exec (closeInheritedDescriptors (some 1024) [secretFdSlot, configFdSlot] t₁), ?_,
    fun hright => ?_⟩
  · unfold spawnExecWithSnapshotFds
    rw [hvalid, hspawn]
  · have hslot := hright.config
    rw [getElem?_exec, getElem?_closeInherited, if_neg (by omega), hconfig] at hslot
    exact absurd hslot (by decide)

end Iweb.Relay
