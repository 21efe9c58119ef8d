import Iweb.HostServices.Logging

/-!
# Proofs: the logging ring

A write changes the ring in one of two ways, or not at all; the accounting of the ring is an invariant of these.
The ids of the retained records are consecutive, so the records after an id are a suffix of the ring, and a drain
by pages walks through it.
-/

namespace Iweb

open CrashRefinement

variable {ring : LoggingRing} {offered : List LoggingWrite}

/-! ## Redaction and size -/

theorem redactLoggingField_key (field : LoggingField) : (redactLoggingField field).key = field.key := by
  unfold redactLoggingField
  split
  · rfl
  · rfl

theorem redactLoggingField_idempotent (field : LoggingField) :
    redactLoggingField (redactLoggingField field) = redactLoggingField field := by
  by_cases hreserved : logReservedFieldKeys.contains field.key = true
  · have hredacted : redactLoggingField field = { field with value := logRedactedValue } := if_pos hreserved
    rw [hredacted]
    exact if_pos hreserved
  · have hkept : redactLoggingField field = field := if_neg hreserved
    rw [hkept, hkept]

theorem redactLoggingFields_idempotent (fields : List LoggingField) :
    redactLoggingFields (redactLoggingFields fields) = redactLoggingFields fields := by
  unfold redactLoggingFields
  rw [List.map_map]
  exact List.map_congr_left fun field _ => redactLoggingField_idempotent field

/-- A redacted field has lost the value it had under a reserved key. -/
theorem redactLoggingFields_reserved {fields : List LoggingField} {field : LoggingField}
    (hfield : field ∈ redactLoggingFields fields) (hreserved : field.key ∈ logReservedFieldKeys) :
    field.value = logRedactedValue := by
  obtain ⟨original, -, rfl⟩ := List.mem_map.mp hfield
  rw [redactLoggingField_key] at hreserved
  unfold redactLoggingField
  rw [if_pos (List.contains_iff_mem.mpr hreserved)]

/-- A record has the size that its event was measured with. -/
theorem recordBytes_recordOf (host : LoggingHostContext) (event : LoggingEvent) (eventId : Nat) :
    recordBytes (LoggingRing.recordOf host event eventId) = measureLoggingEventBytes event host eventId := by
  unfold recordBytes measureLoggingEventBytes LoggingRing.recordOf
  dsimp only
  rw [redactLoggingFields_idempotent]

/-! ## One write -/

namespace LoggingRing

/-- The ways in which a write ends. -/
inductive Written (ring : LoggingRing) (w : LoggingWrite) : LoggingRing → Prop
  | rejected (hfits : w.fits ring = false) : Written ring w ring
  | dropped (hfits : w.fits ring = true) : Written ring w { ring with droppedCount := ring.droppedCount + 1 }
  | accepted (hfits : w.fits ring = true) (hcount : ring.events.length < ring.capacity.maxEvents)
      (hbytes : ring.retainedBytes + measureLoggingEventBytes w.event w.host ring.nextEventId ≤
        ring.capacity.maxBytes) :
      Written ring w { ring with
        events := ring.events ++ [recordOf w.host w.event ring.nextEventId]
        retainedBytes := ring.retainedBytes + measureLoggingEventBytes w.event w.host ring.nextEventId
        nextEventId := ring.nextEventId + 1 }

theorem written (ring : LoggingRing) (w : LoggingWrite) : Written ring w (ring.step (.write w)) := by
  show Written ring w (ring.write w.host w.event w.maxEventBytes).1
  unfold write
  by_cases hhost : w.host.applicationId = ring.applicationId
  · rw [if_neg (not_not.mpr hhost)]
    rcases hvalid : validateLoggingEvent w.event logMessageMaxBytes with failure | _
    · refine .rejected ?_
      unfold LoggingWrite.fits
      rw [hvalid]
      simp [Except.toOption]
    · dsimp only
      by_cases hsize : w.maxEventBytes < measureLoggingEventBytes w.event w.host ring.nextEventId
      · rw [if_pos hsize]
        refine .rejected ?_
        unfold LoggingWrite.fits
        have hnot : ¬measureLoggingEventBytes w.event w.host ring.nextEventId ≤ w.maxEventBytes := by omega
        simp [hnot]
      · rw [if_neg hsize]
        have hfits : w.fits ring = true := by
          unfold LoggingWrite.fits
          rw [hvalid]
          have hle : measureLoggingEventBytes w.event w.host ring.nextEventId ≤ w.maxEventBytes := by omega
          simp [Except.toOption, hhost, hle]
        by_cases hfull : ring.capacity.maxEvents ≤ ring.events.length ∨ ring.capacity.maxBytes <
            ring.retainedBytes + measureLoggingEventBytes w.event w.host ring.nextEventId
        · rw [if_pos hfull]
          exact .dropped hfits
        · rw [if_neg hfull]
          exact .accepted hfits (by omega) (by omega)
  · rw [if_pos hhost]
    refine .rejected ?_
    unfold LoggingWrite.fits
    simp [hhost]

theorem offers (ring : LoggingRing) (w : LoggingWrite) : ring.Offers w := by
  have hwritten := written ring w
  unfold Offers
  generalize ring.step (.write w) = ring' at hwritten
  cases hwritten with
  | rejected hfits => rw [if_neg (by simp [hfits])]
  | dropped hfits =>
    rw [if_pos hfits]
    exact .inr rfl
  | accepted hfits =>
    rw [if_pos hfits]
    exact .inl ⟨_, rfl⟩

/-! ## The accounting -/

theorem sound_fresh (applicationId : String) (capacity : RingCapacity) : (fresh applicationId capacity).Sound [] :=
  ⟨rfl, Nat.zero_le _, Nat.zero_le _, rfl, rfl, ⟨[], List.Sublist.refl _, rfl, rfl⟩, fun _ h => nomatch h⟩

theorem Sound.dropped {w : LoggingWrite} (h : ring.Sound offered) :
    ({ ring with droppedCount := ring.droppedCount + 1 } : LoggingRing).Sound (offered ++ [w]) := by
  obtain ⟨kept, hsublist, hevents, hcount⟩ := h.retained
  refine ⟨h.bytes, h.bounded, h.count, h.ids, h.next, ⟨kept, ?_, hevents, ?_⟩, h.redacted⟩
  · exact hsublist.trans (List.sublist_append_left _ _)
  · rw [List.length_append, List.length_singleton]
    dsimp only
    omega

theorem Sound.accepted {w : LoggingWrite} (h : ring.Sound offered)
    (hcount : ring.events.length < ring.capacity.maxEvents)
    (hbytes : ring.retainedBytes + measureLoggingEventBytes w.event w.host ring.nextEventId ≤
      ring.capacity.maxBytes) :
    ({ ring with
        events := ring.events ++ [recordOf w.host w.event ring.nextEventId]
        retainedBytes := ring.retainedBytes + measureLoggingEventBytes w.event w.host ring.nextEventId
        nextEventId := ring.nextEventId + 1 } : LoggingRing).Sound (offered ++ [w]) := by
  obtain ⟨kept, hsublist, hevents, hoffered⟩ := h.retained
  have hlength : kept.length = ring.events.length := by rw [hevents, List.length_mapIdx]
  refine ⟨?_, hbytes, ?_, ?_, ?_, ⟨kept ++ [w], ?_, ?_, ?_⟩, ?_⟩
  · show ring.retainedBytes + _ = ((ring.events ++ [_]).map recordBytes).sum
    rw [List.map_append, List.sum_append, List.map_singleton, List.sum_singleton, recordBytes_recordOf, h.bytes]
  · show (ring.events ++ [_]).length ≤ ring.capacity.maxEvents
    rw [List.length_append, List.length_singleton]
    omega
  · show (ring.events ++ [_]).map RetainedLogRecord.eventId = List.range' 1 (ring.events ++ [_]).length
    rw [List.map_append, h.ids, List.length_append, List.length_singleton, List.range'_concat, List.map_singleton]
    show _ ++ [ring.nextEventId] = _
    rw [h.next, Nat.one_mul, Nat.add_comm]
  · show ring.nextEventId + 1 = (ring.events ++ [_]).length + 1
    rw [List.length_append, List.length_singleton, h.next]
  · exact hsublist.append (List.Sublist.refl _)
  · show ring.events ++ [_] = _
    rw [List.mapIdx_concat, ← hevents, hlength, h.next]
  · show (kept ++ [w]).length + ring.droppedCount = (offered ++ [w]).length
    rw [List.length_append, List.length_append, List.length_singleton]
    omega
  · intro record hrecord field hfield hreserved
    rcases List.mem_append.mp hrecord with hold | hnew
    · exact h.redacted record hold field hfield hreserved
    · rw [List.mem_singleton.mp hnew] at hfield
      exact redactLoggingFields_reserved hfield hreserved

theorem Sound.write {w : LoggingWrite} (h : ring.Sound offered) :
    (ring.step (.write w)).Sound (if w.fits ring then offered ++ [w] else offered) := by
  have hwritten := written ring w
  generalize ring.step (.write w) = ring' at hwritten
  cases hwritten with
  | rejected hfits =>
    rw [if_neg (by simp [hfits])]
    exact h
  | dropped hfits =>
    rw [if_pos hfits]
    exact h.dropped
  | accepted hfits hcount hbytes =>
    rw [if_pos hfits]
    exact h.accepted hcount hbytes

theorem Sound.run (calls : List LoggingCall) (h : ring.Sound offered) :
    (run step ring calls).Sound (offered ++ offeredEvents ring calls) := by
  induction calls generalizing ring offered with
  | nil =>
    rw [offeredEvents, List.append_nil]
    exact h
  | cons call calls ih =>
    cases call with
    | write w =>
      have hrest := ih (h.write (w := w))
      show (CrashRefinement.run step (ring.step (.write w)) calls).Sound _
      unfold offeredEvents
      by_cases hfits : w.fits ring = true
      · rw [if_pos hfits] at hrest ⊢
        rw [List.append_assoc] at hrest
        exact hrest
      · rw [if_neg hfits] at hrest ⊢
        exact hrest
    | drain applicationId after maxEvents => exact ih h

/-! ## The drain -/

/-- The ids of the records count them. -/
def Numbered (ring : LoggingRing) : Prop :=
  ring.events.map RetainedLogRecord.eventId = List.range' 1 ring.events.length

/-- The records after an id, where the ids are consecutive. -/
theorem filter_after {records : List RetainedLogRecord} {first : Nat}
    (h : records.map RetainedLogRecord.eventId = List.range' first records.length) (after : Nat) :
    (records.filter fun record => after < record.eventId) = records.drop (after + 1 - first) := by
  induction records generalizing first with
  | nil => simp
  | cons record records ih =>
    rw [List.map_cons, List.length_cons, List.range'_succ] at h
    obtain ⟨hid, hrest⟩ := List.cons.inj h
    have hdrop := ih hrest
    by_cases hafter : after < first
    · rw [List.filter_cons_of_pos (by simpa [hid] using hafter), hdrop, show after + 1 - (first + 1) = 0 by omega,
        show after + 1 - first = 0 by omega]
      rfl
    · rw [List.filter_cons_of_neg (by simpa [hid] using hafter), hdrop,
        show after + 1 - first = (after + 1 - (first + 1)) + 1 by omega, List.drop_succ_cons]

theorem Numbered.after (h : ring.Numbered) (after : Nat) :
    (ring.events.filter fun record => after < record.eventId) = ring.events.drop after := by
  rw [filter_after h, Nat.add_sub_cancel]

theorem Numbered.getElem? {i : Nat} {record : RetainedLogRecord} (h : ring.Numbered)
    (hrecord : ring.events[i]? = some record) : record.eventId = i + 1 := by
  have hlt := (List.getElem?_eq_some_iff.mp hrecord).1
  have hid : (ring.events.map RetainedLogRecord.eventId)[i]? = some record.eventId := by
    rw [List.getElem?_map, hrecord]
    rfl
  rw [h, List.getElem?_range' hlt] at hid
  have hsame := Option.some.inj hid
  omega

/-- The id seen last after a full page. -/
theorem Numbered.lastSeen_page (h : ring.Numbered) {after maxEvents : Nat} (hpos : 1 ≤ maxEvents)
    (hmore : after + maxEvents < ring.events.length) :
    lastSeen after ((ring.events.drop after).take maxEvents) = after + maxEvents := by
  have hlength : ((ring.events.drop after).take maxEvents).length = maxEvents := by
    rw [List.length_take, List.length_drop]
    omega
  have hlast : ((ring.events.drop after).take maxEvents).getLast? = ring.events[after + (maxEvents - 1)]? := by
    rw [List.getLast?_eq_getElem?, hlength, List.getElem?_take_of_lt (by omega), List.getElem?_drop]
  obtain ⟨record, hrecord⟩ : ∃ record, ring.events[after + (maxEvents - 1)]? = some record :=
    ⟨_, List.getElem?_eq_getElem (by omega)⟩
  unfold lastSeen
  rw [hlast, hrecord]
  show record.eventId = after + maxEvents
  rw [h.getElem? hrecord]
  omega

/-- A page of the ring's own owner. -/
theorem Numbered.drain (h : ring.Numbered) {after maxEvents : Nat} (hpos : 1 ≤ maxEvents)
    (hmax : maxEvents ≤ drainMaxEvents) :
    ring.drain ring.applicationId after maxEvents = .ok {
      applicationId := ring.applicationId
      events := (ring.events.drop after).take maxEvents
      droppedCount := ring.droppedCount
      hasMore := maxEvents < ring.events.length - after
      lastEventId := ring.nextEventId - 1 } := by
  unfold LoggingRing.drain
  rw [if_neg (not_not.mpr rfl), if_neg (not_not.mpr ⟨hpos, hmax⟩)]
  dsimp only
  rw [h.after, List.length_drop]
  congr 2
  · by_cases hall : ring.events.length - after ≤ maxEvents
    · have hlength : (ring.events.drop after).length = ring.events.length - after := List.length_drop
      rw [Nat.min_eq_left hall, List.take_of_length_le (by omega), List.take_of_length_le (by omega)]
    · rw [Nat.min_eq_right (by omega)]
  · rw [decide_eq_decide]
    omega

/-- A call keeps the ids of the records and the records that are there. -/
theorem Sound.extends (calls : List LoggingCall) (h : ring.Sound offered) :
    ring.events <+: (CrashRefinement.run step ring calls).events := by
  induction calls generalizing ring offered with
  | nil => exact List.prefix_rfl
  | cons call calls ih =>
    cases call with
    | write w =>
      refine List.IsPrefix.trans ?_ (ih (h.write (w := w)))
      have hwritten := written ring w
      generalize ring.step (.write w) = ring' at hwritten
      cases hwritten with
      | rejected hfits => exact List.prefix_rfl
      | dropped hfits => exact List.prefix_rfl
      | accepted hfits hcount hbytes => exact List.prefix_append _ _
    | drain applicationId after maxEvents => exact ih h

/-- Pages that come to an end have the records after the given id, of the ring at the end. -/
theorem Sound.drainLoop_records {maxEvents after : Nat} {records : List RetainedLogRecord} {last : LoggingRing}
    (between : List (List LoggingCall)) (h : ring.Sound offered)
    (hloop : drainLoop maxEvents between ring after = (records, some last)) :
    ring.events <+: last.events ∧ records = last.events.drop after := by
  induction between generalizing ring offered after records with
  | nil => cases hloop
  | cons calls rest ih =>
    have hstarts := h.extends calls
    have hsound := h.run calls
    unfold drainLoop at hloop
    dsimp only at hloop
    generalize CrashRefinement.run step ring calls = ring' at hstarts hsound hloop
    by_cases hlimits : 1 ≤ maxEvents ∧ maxEvents ≤ drainMaxEvents
    · rw [Numbered.drain hsound.ids hlimits.1 hlimits.2] at hloop
      dsimp only at hloop
      by_cases hmore : maxEvents < ring'.events.length - after
      · rw [if_pos (by simpa using hmore), Numbered.lastSeen_page hsound.ids hlimits.1 (by omega)] at hloop
        rcases hrest : drainLoop maxEvents rest ring' (after + maxEvents) with ⟨more, last'⟩
        rw [hrest] at hloop
        obtain ⟨rfl, rfl⟩ := Prod.mk.inj hloop
        obtain ⟨hlast, rfl⟩ := ih hsound hrest
        refine ⟨hstarts.trans hlast, ?_⟩
        obtain ⟨tail, htail⟩ := hlast
        have hpage : (ring'.events.drop after).take maxEvents = (last.events.drop after).take maxEvents := by
          rw [← htail, List.drop_append_of_le_length (by omega), List.take_append_of_le_length]
          rw [List.length_drop]
          omega
        rw [hpage, ← List.drop_drop, List.take_append_drop]
      · rw [if_neg (by simpa using hmore)] at hloop
        obtain ⟨rfl, hlast⟩ := Prod.mk.inj hloop
        obtain rfl := Option.some.inj hlast
        refine ⟨hstarts, List.take_of_length_le ?_⟩
        rw [List.length_drop]
        omega
    · have hrefused : ring'.drain ring'.applicationId after maxEvents = .error .limitExceeded := by
        unfold LoggingRing.drain
        rw [if_neg (not_not.mpr rfl), if_pos hlimits]
      rw [hrefused] at hloop
      cases hloop

/-- Without writes between them, the pages come to an end. -/
theorem Numbered.drainLoop_ends (h : ring.Numbered) {maxEvents : Nat} (hpos : 1 ≤ maxEvents)
    (hmax : maxEvents ≤ drainMaxEvents) (fuel after : Nat) (hfuel : ring.events.length - after < fuel) :
    drainLoop maxEvents (List.replicate fuel []) ring after = (ring.events.drop after, some ring) := by
  induction fuel generalizing after with
  | zero => omega
  | succ fuel ih =>
    rw [List.replicate_succ]
    unfold drainLoop
    rw [show CrashRefinement.run step ring [] = ring from rfl]
    dsimp only
    rw [h.drain hpos hmax]
    dsimp only
    by_cases hmore : maxEvents < ring.events.length - after
    · rw [if_pos (by simpa using hmore), h.lastSeen_page hpos (by omega), ih (after + maxEvents) (by omega)]
      dsimp only
      rw [← List.drop_drop, List.take_append_drop]
    · rw [if_neg (by simpa using hmore), List.take_of_length_le]
      rw [List.length_drop]
      omega

theorem Sound.drains (h : ring.Sound offered) : ring.Drains where
  complete := fun _ between _ _ hloop => (h.drainLoop_records between hloop).2
  ends := fun _ hpos hmax => Numbered.drainLoop_ends h.ids hpos hmax (ring.events.length + 1) 0 (by omega)

end LoggingRing

/-- The logging ring neither loses nor leaks, in every history of writes and drains. -/
theorem logging_ring_sound (applicationId : String) (capacity : RingCapacity) (calls : List LoggingCall) :
    (run LoggingRing.step (.fresh applicationId capacity) calls).Sound
        (offeredEvents (.fresh applicationId capacity) calls) ∧
      (∀ w, (run LoggingRing.step (.fresh applicationId capacity) calls).Offers w) ∧
      (run LoggingRing.step (.fresh applicationId capacity) calls).Drains := by
  have hsound := (LoggingRing.sound_fresh applicationId capacity).run calls
  exact ⟨hsound, fun w => LoggingRing.offers _ w, hsound.drains⟩

end Iweb
