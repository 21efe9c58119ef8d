import Iweb.Registry.RouteEdits

/-!
# Route edits one at a time

A refused request takes effect where it loads the registry, an accepted one where it renames. As long as every
rename puts the request's own file over the registry it loaded, the requests amount to requests served one at
a time.
-/

namespace Iweb

open CrashRefinement

namespace RouteEdit

theorem acknowledges_acknowledgement (edit : RouteEdit) : edit.acknowledgement.acknowledges = true := by
  cases edit <;> rfl

theorem acknowledges_unavailable (edit : RouteEdit) : edit.unavailable.acknowledges = false := by
  cases edit <;> rfl

theorem refusal_put (route : RouteRecord) (admitted : Except String Bool) (routes : List RouteRecord) :
    (put route admitted).refusal routes =
      if routes.any fun candidate => candidate.hostId == route.hostId && candidate.system then
        some (.conflict "system route cannot be overwritten")
      else
        match admitted with
        | .ok true => none
        | .ok false => some (.conflict wasmApplicationNotAdmitted)
        | .error code => some (.unavailable code) := rfl

theorem refusal_remove (hostId : String) (routes : List RouteRecord) :
    (remove hostId).refusal routes =
      match routes.find? fun candidate => candidate.hostId == hostId with
      | none => some (.notFound "route not found")
      | some route => if route.system then some (.conflict "system route cannot be deleted") else none := rfl

theorem acknowledges_of_refusal {edit : RouteEdit} {routes : List RouteRecord} {answer : RouteAnswer}
    (h : edit.refusal routes = some answer) : answer.acknowledges = false := by
  cases edit with
  | put route admitted =>
    rw [refusal_put] at h
    split at h
    · cases h
      rfl
    · rcases admitted with code | _ | _ <;> cases h <;> rfl
  | remove hostId =>
    rw [refusal_remove] at h
    split at h
    · cases h
      rfl
    · split at h <;> cases h
      rfl

end RouteEdit

theorem RouteRequest.acknowledges_of_edit {request : RouteRequest} {answer : RouteAnswer}
    (h : request.edit = .error answer) : answer.acknowledges = false := by
  cases request with
  | delete path => cases h
  | create body admitted =>
    cases body with
    | notJson =>
      cases h
      rfl
    | notObject =>
      cases h
      rfl
    | object hostId appName enabled =>
      unfold edit at h
      dsimp only at h
      split at h <;> cases h
      rfl

/-- A user route is never a system route. -/
theorem RouteRequest.system_of_edit {request : RouteRequest} {route : RouteRecord} {admitted : Except String Bool}
    (h : request.edit = .ok (.put route admitted)) : route.system = false := by
  cases request with
  | delete path => cases h
  | create body admitted =>
    cases body with
    | notJson => cases h
    | notObject => cases h
    | object hostId appName enabled =>
      unfold edit at h
      dsimp only at h
      split at h
      · cases h
      · rename_i hvalid
        cases h
        unfold validateUserRoute at hvalid
        dsimp only at hvalid
        split at hvalid
        · cases hvalid
        · split at hvalid
          · cases hvalid
          · split at hvalid
            · cases hvalid
            · split at hvalid <;> cases hvalid
              rfl

/-! ## One request -/

theorem serveRoute_malformed {file : RoutesText} {request : RouteRequest} {answer : RouteAnswer}
    (h : request.edit = .error answer) : serveRoute file request = (file, answer) := by
  unfold serveRoute
  rw [h]

theorem serveRoute_unavailable {file : RoutesText} {request : RouteRequest} {edit : RouteEdit}
    (h : request.edit = .ok edit) (hload : RouteStore.load file = none) :
    serveRoute file request = (file, edit.unavailable) := by
  unfold serveRoute
  rw [h]
  dsimp only
  rw [hload]

theorem serveRoute_refused {file : RoutesText} {request : RouteRequest} {edit : RouteEdit}
    {routes : List RouteRecord} {answer : RouteAnswer} (h : request.edit = .ok edit)
    (hload : RouteStore.load file = some routes) (hrefusal : edit.refusal routes = some answer) :
    serveRoute file request = (file, answer) := by
  unfold serveRoute
  rw [h]
  dsimp only
  rw [hload]
  dsimp only
  rw [hrefusal]

theorem serveRoute_accepted {file : RoutesText} {request : RouteRequest} {edit : RouteEdit}
    {routes : List RouteRecord} (h : request.edit = .ok edit) (hload : RouteStore.load file = some routes)
    (hrefusal : edit.refusal routes = none) :
    serveRoute file request = (RouteStore.text (edit.apply routes), edit.acknowledgement) := by
  unfold serveRoute
  rw [h]
  dsimp only
  rw [hload]
  dsimp only
  rw [hrefusal]

/-- A refused request leaves the registry as it is. -/
theorem serveRoute_fst_of_refused {file : RoutesText} {request : RouteRequest}
    (h : (serveRoute file request).2.acknowledges = false) : (serveRoute file request).1 = file := by
  cases hedit : request.edit with
  | error answer => rw [serveRoute_malformed hedit]
  | ok edit =>
    cases hload : RouteStore.load file with
    | none => rw [serveRoute_unavailable hedit hload]
    | some routes =>
      cases hrefusal : edit.refusal routes with
      | some answer => rw [serveRoute_refused hedit hload hrefusal]
      | none =>
        rw [serveRoute_accepted hedit hload hrefusal, RouteEdit.acknowledges_acknowledgement] at h
        cases h

/-! ## The system routes -/

namespace RouteStore

theorem load_eq_some {file : RoutesText} {routes : List RouteRecord} (h : load file = some routes) :
    ∃ stored, file = .parsed ⟨1, stored⟩ ∧ routes = filterUserCelldAppRoutes stored := by
  cases file with
  | malformed => cases h
  | parsed file =>
    simp only [load] at h
    split at h
    · cases h
    · rename_i hversion
      cases h
      obtain ⟨version, stored⟩ := file
      obtain rfl : version = 1 := not_not.mp hversion
      exact ⟨stored, rfl, rfl⟩

/-- The load filter keeps the system routes. -/
theorem filter_system_filterUserCelldAppRoutes (routes : List RouteRecord) :
    (filterUserCelldAppRoutes routes).filter RouteRecord.system = routes.filter RouteRecord.system := by
  unfold filterUserCelldAppRoutes
  rw [List.filter_filter]
  refine List.filter_congr fun route _ => ?_
  cases route.system <;> simp

theorem filter_system_record {route : RouteRecord} {routes : List RouteRecord} (hroute : route.system = false)
    (h : ∀ candidate ∈ routes, candidate.hostId = route.hostId → candidate.system = false) :
    (record route routes).filter RouteRecord.system = routes.filter RouteRecord.system := by
  induction routes with
  | nil => simp [record, hroute]
  | cons candidate rest ih =>
    unfold record
    split
    · rename_i hhost
      have hcandidate := h candidate List.mem_cons_self hhost
      rw [List.filter_cons_of_neg (by simp [hroute]), List.filter_cons_of_neg (by simp [hcandidate])]
    · have hrest := ih fun other hother => h other (List.mem_cons_of_mem _ hother)
      rw [List.filter_cons, List.filter_cons, hrest]

theorem filter_system_delete {hostId : String} {routes : List RouteRecord}
    (h : ∀ route ∈ routes, route.hostId = hostId → route.system = false) :
    (delete hostId routes).filter RouteRecord.system = routes.filter RouteRecord.system := by
  unfold delete
  rw [List.filter_filter]
  refine List.filter_congr fun route hroute => ?_
  by_cases hhost : route.hostId = hostId
  · simp [hhost, h route hroute hhost]
  · simp [hhost]

end RouteStore

/-- An accepted edit that spares the system routes keeps them. -/
theorem RouteEdit.filter_system_apply {request : RouteRequest} {edit : RouteEdit} {routes : List RouteRecord}
    (hedit : request.edit = .ok edit) (hrefusal : edit.refusal routes = none)
    (hspares : edit.sparesSystem routes = true) :
    (edit.apply routes).filter RouteRecord.system = routes.filter RouteRecord.system := by
  cases edit with
  | put route admitted =>
    refine RouteStore.filter_system_record (RouteRequest.system_of_edit hedit) fun candidate hmem hhost => ?_
    by_contra hsystem
    have hany : routes.any (fun candidate => candidate.hostId == route.hostId && candidate.system) = true :=
      List.any_eq_true.mpr ⟨candidate, hmem, by simp [hhost, eq_true_of_ne_false hsystem]⟩
    rw [refusal_put, if_pos hany] at hrefusal
    cases hrefusal
  | remove hostId =>
    refine RouteStore.filter_system_delete fun route hmem hhost => ?_
    have hnone : (routes.any fun route => route.hostId == hostId && route.system) = false := by
      simpa [sparesSystem] using hspares
    have := List.any_eq_false.mp hnone route hmem
    simpa [hhost] using this

/-! ## Requests at the same time -/

namespace RouteSystem

variable {request : Nat → RouteRequest} {start : RoutesText} {system system' : RouteSystem}
  {order order' : List (Nat × RouteAnswer)} {id : Nat}

/-- What a request in this phase has done: whether it was invoked, whether it took effect, and what it found. -/
def PhaseOk (request : RouteRequest) (history : List (Moment RouteAnswer)) (order : List (Nat × RouteAnswer))
    (id : Nat) : RoutePhase → Prop
  | .idle => .invoked id ∉ history
  | .arrived => .invoked id ∈ history ∧ ∀ answer, (id, answer) ∉ order
  | .loaded edit routes => .invoked id ∈ history ∧ request.edit = .ok edit ∧
      (∀ answer, edit.refusal routes = some answer → (id, answer) ∈ order) ∧
      (edit.refusal routes = none → ∀ answer, (id, answer) ∉ order)
  | .checked edit routes => .invoked id ∈ history ∧ request.edit = .ok edit ∧ edit.refusal routes = none ∧
      ∀ answer, (id, answer) ∉ order
  | .modified edit before after => .invoked id ∈ history ∧ request.edit = .ok edit ∧ edit.refusal before = none ∧
      after = edit.apply before ∧ ∀ answer, (id, answer) ∉ order
  | .written edit before after => .invoked id ∈ history ∧ request.edit = .ok edit ∧ edit.refusal before = none ∧
      after = edit.apply before ∧ ∀ answer, (id, answer) ∉ order
  | .answered _ => True
  | .crashed => True

/-- What other requests do does not show in the phase of a request. -/
theorem PhaseOk.congr {request : RouteRequest} {history history' : List (Moment RouteAnswer)} {phase : RoutePhase}
    (h : PhaseOk request history order id phase) (hinvoked : .invoked id ∈ history' ↔ .invoked id ∈ history)
    (horder : ∀ answer, (id, answer) ∈ order' ↔ (id, answer) ∈ order) :
    PhaseOk request history' order' id phase := by
  cases phase <;> simpa only [PhaseOk, hinvoked, horder] using h

/-- The requests so far amount to requests in this order. -/
structure OneAtATime (request : Nat → RouteRequest) (start : RoutesText) (system : RouteSystem)
    (order : List (Nat × RouteAnswer)) : Prop where
  linearization : Linearization serveRoute request start system.history order system.file
  phases : ∀ id, PhaseOk (request id) system.history order id (system.phase id)
  acknowledged : ∀ p ∈ order, p.2.acknowledges = true → .answered p.1 p.2 ∈ system.history
  parseable : system.file.IsParseable
  keepsSystem : system.systemRoutes = (initial start none).systemRoutes

theorem oneAtATime_initial {temporary : Option RoutesText} (h : start.IsParseable) :
    OneAtATime request start (initial start temporary) [] where
  linearization := .empty
  phases := fun _ h => nomatch h
  acknowledged := fun _ h => nomatch h
  parseable := h
  keepsSystem := rfl

namespace OneAtATime

theorem not_mem_ids (h : ∀ answer, (id, answer) ∉ order) : id ∉ order.map Prod.fst := by
  intro hmem
  obtain ⟨⟨other, answer⟩, hp, rfl⟩ := List.mem_map.mp hmem
  exact h answer hp

/-- A step of one request that leaves the registry as it is. -/
theorem advance {phase : RoutePhase} (h : OneAtATime request start system order)
    (hphase : system'.phase = Function.update system.phase id phase) (hfile : system'.file = system.file)
    (hlinearization : Linearization serveRoute request start system'.history order' system.file)
    (hok : PhaseOk (request id) system'.history order' id phase)
    (hinvoked : ∀ other, other ≠ id → (.invoked other ∈ system'.history ↔ .invoked other ∈ system.history))
    (horder : ∀ other, other ≠ id → ∀ answer, (other, answer) ∈ order' ↔ (other, answer) ∈ order)
    (hacknowledged : ∀ p ∈ order', p.2.acknowledges = true → .answered p.1 p.2 ∈ system'.history) :
    OneAtATime request start system' order' where
  linearization := by rwa [hfile]
  phases := by
    intro other
    rw [hphase]
    by_cases hother : other = id
    · rw [hother, Function.update_self]
      exact hok
    · rw [Function.update_of_ne hother]
      exact (h.phases other).congr (hinvoked other hother) (horder other hother)
  acknowledged := hacknowledged
  parseable := by
    rw [hfile]
    exact h.parseable
  keepsSystem := by
    rw [← h.keepsSystem]
    unfold RouteSystem.systemRoutes
    rw [hfile]

theorem mem_append_of_ne {other : Nat} {answer answer' : RouteAnswer} (h : other ≠ id) :
    (other, answer') ∈ order ++ [(id, answer)] ↔ (other, answer') ∈ order := by
  simp [h]

/-- A request is invoked. -/
theorem invoke (h : OneAtATime request start system order) (hphase : system.phase id = .idle) :
    OneAtATime request start { system.setPhase id .arrived with history := system.history ++ [.invoked id] }
      order := by
  have hnew : Moment.invoked id ∉ system.history := by
    have := h.phases id
    rwa [hphase] at this
  refine h.advance rfl rfl (h.linearization.invoke hnew) ?_ ?_ (fun _ _ _ => Iff.rfl) ?_
  · exact ⟨List.mem_append_right _ (List.mem_singleton_self _), fun answer hmem =>
      hnew (h.linearization.invoked _ hmem)⟩
  · intro other hother
    simp [hother]
  · exact fun p hp hack => List.mem_append_left _ (h.acknowledged p hp hack)

/-- A request goes on without touching anything but the temporary file. -/
theorem goOn {phase : RoutePhase} {temporary : Option RoutesText} (h : OneAtATime request start system order)
    (hok : PhaseOk (request id) system.history order id phase) :
    OneAtATime request start { system.setPhase id phase with temporary := temporary } order :=
  h.advance rfl rfl h.linearization hok (fun _ _ => Iff.rfl) (fun _ _ _ => Iff.rfl) h.acknowledged

/-- A refused request takes effect where it meets the registry that refuses it. -/
theorem refuse {phase : RoutePhase} {answer : RouteAnswer} (h : OneAtATime request start system order)
    (hinvoked : .invoked id ∈ system.history) (hnew : ∀ answer, (id, answer) ∉ order)
    (hserve : serveRoute system.file (request id) = (system.file, answer)) (hrefused : answer.acknowledges = false)
    (hok : PhaseOk (request id) system.history (order ++ [(id, answer)]) id phase) :
    OneAtATime request start (system.setPhase id phase) (order ++ [(id, answer)]) := by
  refine h.advance rfl rfl (h.linearization.takeEffect hinvoked (not_mem_ids hnew) hserve) hok
    (fun _ _ => Iff.rfl) (fun _ hother _ => mem_append_of_ne hother) ?_
  intro p hp hack
  rcases List.mem_append.mp hp with hp | hp
  · exact h.acknowledged p hp hack
  · rw [List.mem_singleton.mp hp, hrefused] at hack
    cases hack

/-- A request that took effect is answered. -/
theorem answer {answer : RouteAnswer} (h : OneAtATime request start system order) (hmem : (id, answer) ∈ order) :
    OneAtATime request start (system.answer id answer) order := by
  refine h.advance rfl rfl (h.linearization.answer hmem) trivial ?_ (fun _ _ _ => Iff.rfl) ?_
  · intro other _
    simp [RouteSystem.answer]
  · exact fun p hp hack => List.mem_append_left _ (h.acknowledged p hp hack)

/-- A refusal that is answered at once. -/
theorem refuseAtOnce {answer : RouteAnswer} (h : OneAtATime request start system order)
    (hphase : system.phase id = .arrived)
    (hserve : serveRoute system.file (request id) = (system.file, answer))
    (hrefused : answer.acknowledges = false) :
    OneAtATime request start (system.answer id answer) (order ++ [(id, answer)]) := by
  have harrived := h.phases id
  rw [hphase] at harrived
  have heffect : OneAtATime request start (system.setPhase id .crashed) (order ++ [(id, answer)]) :=
    h.refuse harrived.1 harrived.2 hserve hrefused trivial
  have hanswered := heffect.answer (List.mem_append_right _ (List.mem_singleton_self _))
  have hsame : (system.setPhase id .crashed).answer id answer = system.answer id answer := by
    simp [RouteSystem.answer, setPhase, Function.update_idem]
  rwa [hsame] at hanswered

/-- A rename that puts the request's own file over the registry it loaded. -/
theorem rename {edit : RouteEdit} {before : List RouteRecord} (h : OneAtATime request start system order)
    (hphase : system.phase id = .written edit before (edit.apply before))
    (hload : RouteStore.load system.file = some before) (hspares : edit.sparesSystem before = true) :
    OneAtATime request start
      { system.answer id edit.acknowledgement with file := RouteStore.text (edit.apply before), temporary := none }
      (order ++ [(id, edit.acknowledgement)]) := by
  have hwritten := h.phases id
  rw [hphase] at hwritten
  obtain ⟨hinvoked, hedit, hrefusal, -, hnew⟩ := hwritten
  have hserve := serveRoute_accepted hedit hload hrefusal
  have heffect := h.linearization.takeEffect hinvoked (not_mem_ids hnew) hserve
  have hmem : (id, edit.acknowledgement) ∈ order ++ [(id, edit.acknowledgement)] :=
    List.mem_append_right _ (List.mem_singleton_self _)
  refine ⟨heffect.answer hmem, ?_, ?_, rfl, ?_⟩
  · intro other
    by_cases hother : other = id
    · rw [hother]
      show PhaseOk _ _ _ _ (Function.update system.phase id _ id)
      rw [Function.update_self]
      trivial
    · show PhaseOk _ _ _ _ (Function.update system.phase id _ other)
      rw [Function.update_of_ne hother]
      exact (h.phases other).congr (by simp [RouteSystem.answer]) fun _ => mem_append_of_ne hother
  · intro p hp hack
    rcases List.mem_append.mp hp with hp | hp
    · exact List.mem_append_left _ (h.acknowledged p hp hack)
    · rw [List.mem_singleton.mp hp]
      exact List.mem_append_right _ (List.mem_singleton_self _)
  · obtain ⟨stored, hfile, hbefore⟩ := RouteStore.load_eq_some hload
    have hkept := RouteEdit.filter_system_apply hedit hrefusal hspares
    rw [hbefore, RouteStore.filter_system_filterUserCelldAppRoutes, ← hbefore] at hkept
    rw [← h.keepsSystem]
    unfold RouteSystem.systemRoutes
    rw [hfile]
    exact hkept

end OneAtATime

/-- A step that renames, if at all, its own file over the registry it loaded extends the order. -/
theorem OneAtATime.step (h : OneAtATime request start system order) (hfresh : system.renamesFresh id = true) :
    ∃ order', OneAtATime request start (system.step request id) order' := by
  have hphase := h.phases id
  unfold RouteSystem.step
  cases hp : system.phase id with
  | idle => exact ⟨order, h.invoke hp⟩
  | arrived =>
    rw [hp] at hphase
    dsimp only
    cases hedit : (request id).edit with
    | error answer =>
      exact ⟨_, h.refuseAtOnce hp (serveRoute_malformed hedit) (RouteRequest.acknowledges_of_edit hedit)⟩
    | ok edit =>
      dsimp only
      cases hload : RouteStore.load system.file with
      | none =>
        exact ⟨_, h.refuseAtOnce hp (serveRoute_unavailable hedit hload) edit.acknowledges_unavailable⟩
      | some routes =>
        cases hrefusal : edit.refusal routes with
        | none =>
          refine ⟨order, h.goOn ⟨hphase.1, hedit, fun answer hsome => ?_, fun _ => hphase.2⟩⟩
          rw [hrefusal] at hsome
          cases hsome
        | some answer =>
          refine ⟨_, h.refuse hphase.1 hphase.2 (serveRoute_refused hedit hload hrefusal)
            (RouteEdit.acknowledges_of_refusal hrefusal) ⟨hphase.1, hedit, fun answer' hsome => ?_, fun hnone => ?_⟩⟩
          · rw [hrefusal] at hsome
            cases hsome
            exact List.mem_append_right _ (List.mem_singleton_self _)
          · rw [hrefusal] at hnone
            cases hnone
  | loaded edit routes =>
    rw [hp] at hphase
    obtain ⟨hinvoked, hedit, hrefused, hnew⟩ := hphase
    dsimp only
    cases hrefusal : edit.refusal routes with
    | none => exact ⟨order, h.goOn ⟨hinvoked, hedit, hrefusal, hnew hrefusal⟩⟩
    | some answer => exact ⟨order, h.answer (hrefused answer hrefusal)⟩
  | checked edit routes =>
    rw [hp] at hphase
    obtain ⟨hinvoked, hedit, hrefusal, hnew⟩ := hphase
    exact ⟨order, h.goOn ⟨hinvoked, hedit, hrefusal, rfl, hnew⟩⟩
  | modified edit before after =>
    rw [hp] at hphase
    exact ⟨order, h.goOn hphase⟩
  | written edit before after =>
    rw [hp] at hphase
    obtain rfl := hphase.2.2.2.1
    unfold renamesFresh at hfresh
    rw [hp] at hfresh
    simp only [Bool.and_eq_true, beq_iff_eq] at hfresh
    obtain ⟨⟨hload, htemporary⟩, hspares⟩ := hfresh
    dsimp only
    rw [htemporary]
    exact ⟨_, h.rename hp hload hspares⟩
  | answered answer => exact ⟨order, h⟩
  | crashed => exact ⟨order, h⟩

theorem OneAtATime.isLinearizable (h : OneAtATime request start system order) :
    IsLinearizable serveRoute request start system.history system.file := by
  refine h.linearization.isLinearizable fun p hp hpending file hanswer => serveRoute_fst_of_refused ?_
  rw [hanswer]
  by_contra hack
  have hanswered := h.acknowledged p hp (eq_true_of_ne_false hack)
  have := List.any_eq_false.mp hpending _ hanswered
  simp [Moment.answers] at this

end RouteSystem

open RouteSystem

/-- As long as every rename puts the request's own file over the registry it loaded and no deleted host has a
system route, the registry stays parseable, the answered requests are requests served one at a time, and the
system routes stay as they are. -/
theorem fresh_route_edits_linearizable (request : Nat → RouteRequest) (start : RoutesText)
    (temporary : Option RoutesText) (schedule : List Nat) (hstart : start.IsParseable)
    (hfresh : Along (step request) (fun system id => system.renamesFresh id = true) (initial start temporary)
      schedule) :
    let final := (initial start temporary).run request schedule
    final.file.IsParseable ∧ IsLinearizable serveRoute request start final.history final.file ∧
      final.systemRoutes = (initial start temporary).systemRoutes := by
  have hrun : ∃ order, OneAtATime request start ((initial start temporary).run request schedule) order :=
    hfresh.invariant (P := fun system : RouteSystem => ∃ order, OneAtATime request start system order)
      (fun _ _ hgood ⟨_, h⟩ => h.step hgood) ⟨[], oneAtATime_initial hstart⟩
  obtain ⟨order, h⟩ := hrun
  exact ⟨h.parseable, h.isLinearizable, h.keepsSystem⟩

/-- Two requests that create different routes. -/
def twoCreates (id : Nat) : RouteRequest :=
  .create (.object (some (if id = 0 then "a.app" else "b.app")) (some "notes") none) (.ok true)

/-- A registry with a system route. -/
def seededRoutes : RoutesText :=
  .parsed ⟨1, [{ hostId := "admin", target := ⟨"celld-app", some "admin", none⟩, system := true, enabled := true }]⟩

theorem fresh_route_edits_linearizable_twoCreates :
    let final := (initial seededRoutes none).run twoCreates [0, 1, 0, 0, 0, 0, 0, 1, 1, 1, 1, 1]
    final.file.IsParseable ∧ IsLinearizable serveRoute twoCreates seededRoutes final.history final.file ∧
      final.systemRoutes = (initial seededRoutes none).systemRoutes :=
  fresh_route_edits_linearizable twoCreates seededRoutes none [0, 1, 0, 0, 0, 0, 0, 1, 1, 1, 1, 1] rfl
    (by decide +kernel)

/-- A registry in which a user route and a system route have the same host. -/
def sharedHostRoutes : RoutesText :=
  .parsed
    ⟨1, [{ hostId := "x.app", target := ⟨"sandbox", some "x", none⟩, system := false, enabled := true },
      { hostId := "x.app", target := ⟨"celld-app", some "x", none⟩, system := true, enabled := true }]⟩

/-- The second request renames the registry without the route of the first, which was acknowledged meanwhile;
and a deletion takes the system route of the host with it. -/
theorem acknowledged_route_lost :
    (¬ IsLinearizable serveRoute twoCreates seededRoutes
        ((initial seededRoutes none).run twoCreates [0, 0, 1, 1, 1, 1, 1, 1, 0, 0, 0, 0]).history
        ((initial seededRoutes none).run twoCreates [0, 0, 1, 1, 1, 1, 1, 1, 0, 0, 0, 0]).file) ∧
      ((initial sharedHostRoutes none).run (fun _ => .delete "x.app") [0, 0, 0, 0, 0, 0]).systemRoutes ≠
        (initial sharedHostRoutes none).systemRoutes := by
  constructor
  · intro h
    have hhistory : ((initial seededRoutes none).run twoCreates [0, 0, 1, 1, 1, 1, 1, 1, 0, 0, 0, 0]).history =
        [.invoked 0, .invoked 1, .answered 1 (serveRoute seededRoutes (twoCreates 1)).2,
          .answered 0 (serveRoute seededRoutes (twoCreates 0)).2] := by decide +kernel
    rw [hhistory] at h
    have horders := h.of_two (a := (serveRoute seededRoutes (twoCreates 0)).2)
      (b := (serveRoute seededRoutes (twoCreates 1)).2) Nat.zero_ne_one (by simp) (by simp) (by simp [or_comm])
    revert horders
    decide +kernel
  · decide +kernel

end Iweb
