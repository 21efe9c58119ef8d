import Iweb.Ingress.Routing

/-!
# Whose routing headers reach an application

Each path copies the client's headers but for a few names and then adds its own. So the routing headers are the
Kernel's exactly if the client sends none of their names, and never on the tunnel, which adds none of them.
-/

namespace Iweb

namespace Ingress

/-! ## The values of a name -/

theorem valuesOf_append (first second : List (String × String)) (name : String) :
    valuesOf (first ++ second) name = valuesOf first name ++ valuesOf second name :=
  List.filterMap_append

theorem valuesOf_cons (line : String × String) (lines : List (String × String)) (name : String) :
    valuesOf (line :: lines) name = if line.1 = name then line.2 :: valuesOf lines name else valuesOf lines name := by
  unfold valuesOf
  rw [List.filterMap_cons]
  by_cases hname : line.1 = name
  · rw [if_pos hname, if_pos hname]
  · rw [if_neg hname, if_neg hname]

theorem valuesOf_toList (value : Option String) (own name : String) :
    valuesOf (value.toList.map fun text => (own, text)) name = if own = name then value.toList else [] := by
  cases value with
  | none => rw [Option.toList_none, ite_self]; rfl
  | some text =>
    by_cases hname : own = name
    · rw [if_pos hname]
      show valuesOf [(own, text)] name = _
      rw [valuesOf_cons, if_pos hname]
      rfl
    · rw [if_neg hname]
      show valuesOf [(own, text)] name = _
      rw [valuesOf_cons, if_neg hname]
      rfl

/-- A name that is left out has no value. -/
theorem valuesOf_without_of_mem {headers : HeaderMap} {names : List String} {name : String} (h : name ∈ names) :
    valuesOf (headers.without names) name = [] := by
  unfold valuesOf HeaderMap.without
  rw [List.filterMap_filterMap]
  refine List.filterMap_eq_nil_iff.mpr fun entry _ => ?_
  by_cases hleft : names.contains entry.1 = true
  · rw [if_pos hleft]
    rfl
  · rw [if_neg hleft]
    cases entry.2.toStr with
    | none => rfl
    | some value =>
      refine if_neg fun hname => hleft ?_
      rw [show entry.1 = name from hname]
      exact List.contains_iff_mem.mpr h

/-- A name that is copied has no value exactly if the client sends none. -/
theorem valuesOf_without_eq_nil {headers : HeaderMap} {names : List String} {name : String} (h : name ∉ names) :
    valuesOf (headers.without names) name = [] ↔
      ∀ entry ∈ headers.entries, entry.1 = name → entry.2.toStr = none := by
  unfold valuesOf HeaderMap.without
  rw [List.filterMap_filterMap, List.filterMap_eq_nil_iff]
  refine forall₂_congr fun entry _ => ?_
  constructor
  · intro hnone hname
    have hcopied : ¬ names.contains entry.1 = true := by
      rw [hname, List.contains_iff_mem]
      exact h
    rw [if_neg hcopied] at hnone
    cases hvalue : entry.2.toStr with
    | none => rfl
    | some value =>
      rw [hvalue] at hnone
      have hsome : (if entry.1 = name then some value else none) = none := hnone
      rw [if_pos hname] at hsome
      cases hsome
  · intro hnone
    by_cases hleft : names.contains entry.1 = true
    · rw [if_pos hleft]
      rfl
    · rw [if_neg hleft]
      cases hvalue : entry.2.toStr with
      | none => rfl
      | some value =>
        refine if_neg fun hname => ?_
        rw [hnone hname] at hvalue
        cases hvalue

/-- The client sends no routing header exactly if none of their names has a value. -/
theorem sendsRouting_eq_false {headers : HeaderMap} : sendsRouting headers = false ↔
    ∀ name ∈ routingNames, ∀ entry ∈ headers.entries, entry.1 = name → entry.2.toStr = none := by
  unfold sendsRouting
  rw [List.any_eq_false]
  constructor
  · rintro h name hname entry hentry rfl
    have hnot := h entry hentry
    rw [List.contains_iff_mem.mpr hname, Bool.true_and] at hnot
    cases hvalue : entry.2.toStr with
    | none => rfl
    | some value =>
      rw [hvalue] at hnot
      exact absurd rfl hnot
  · intro h entry hentry hsends
    rw [Bool.and_eq_true, List.contains_iff_mem] at hsends
    have hnone := h entry.1 hsends.1 entry hentry rfl
    rw [hnone] at hsends
    cases hsends.2

/-! ## The heads that have the routing headers -/

/-- A head that adds the Kernel's routing headers to what it copies. -/
structure AddsRouting (baseHost : String) (request : IngressRequest) (app : String) (resolved : Resolved)
    (names : List String) (head : RequestHead) : Prop where
  copied : head.copied = request.headers.without names
  host_mem : "host" ∈ names
  copies : ∀ name ∈ routingNames, name ∉ names
  host : valuesOf head.added "host" = [applicationHost app baseHost]
  originalHost : valuesOf head.added "x-iweb-original-host" = [originalHost request.headers]
  externalHost : valuesOf head.added "x-iweb-external-host" = (externalHostHeader request.headers).toList
  appBase : valuesOf head.added "x-iweb-app-base" = resolved.appBasePath.toList
  path : head.path = resolved.upstreamPath

/-- The values of a name among the routing headers and what follows them. -/
theorem valuesOf_routing (host original name : String) (external base : Option String)
    (rest : List (String × String)) :
    valuesOf (("host", host) :: ("x-iweb-original-host", original) ::
        (external.toList.map fun value => ("x-iweb-external-host", value)) ++
        (base.toList.map fun value => ("x-iweb-app-base", value)) ++ rest) name =
      (if "host" = name then [host] else []) ++ (if "x-iweb-original-host" = name then [original] else []) ++
        (if "x-iweb-external-host" = name then external.toList else []) ++
        (if "x-iweb-app-base" = name then base.toList else []) ++ valuesOf rest name := by
  rw [valuesOf_append, valuesOf_append, valuesOf_toList, valuesOf_cons, valuesOf_cons, valuesOf_toList]
  dsimp only
  by_cases hhost : "host" = name <;> by_cases horiginal : "x-iweb-original-host" = name
  · rw [if_pos hhost, if_pos hhost, if_pos horiginal, if_pos horiginal]
    rfl
  · rw [if_pos hhost, if_pos hhost, if_neg horiginal, if_neg horiginal]
    rfl
  · rw [if_neg hhost, if_neg hhost, if_pos horiginal, if_pos horiginal]
    rfl
  · rw [if_neg hhost, if_neg hhost, if_neg horiginal, if_neg horiginal]
    rfl

/-- A head that adds the routing headers, and after them none of their names, has each of them once. -/
theorem addsRouting_of_added {baseHost app : String} {request : IngressRequest} {resolved : Resolved}
    {names : List String} {head : RequestHead} {rest : List (String × String)}
    (hcopied : head.copied = request.headers.without names) (hhost : "host" ∈ names)
    (hcopies : ∀ name ∈ routingNames, name ∉ names) (hpath : head.path = resolved.upstreamPath)
    (hadded : head.added = ("host", applicationHost app baseHost) ::
      ("x-iweb-original-host", originalHost request.headers) ::
      ((externalHostHeader request.headers).toList.map fun value => ("x-iweb-external-host", value)) ++
      (resolved.appBasePath.toList.map fun base => ("x-iweb-app-base", base)) ++ rest)
    (hrest : ∀ name ∈ ["host", "x-iweb-original-host", "x-iweb-external-host", "x-iweb-app-base"],
      valuesOf rest name = []) :
    AddsRouting baseHost request app resolved names head where
  copied := hcopied
  host_mem := hhost
  copies := hcopies
  host := by
    rw [hadded, valuesOf_routing, hrest _ (by decide), if_pos rfl, if_neg (by decide), if_neg (by decide),
      if_neg (by decide)]
    rfl
  originalHost := by
    rw [hadded, valuesOf_routing, hrest _ (by decide), if_neg (by decide), if_pos rfl, if_neg (by decide),
      if_neg (by decide)]
    rfl
  externalHost := by
    rw [hadded, valuesOf_routing, hrest _ (by decide), if_neg (by decide), if_neg (by decide), if_pos rfl,
      if_neg (by decide), List.append_nil, List.append_nil]
    rfl
  appBase := by
    rw [hadded, valuesOf_routing, hrest _ (by decide), if_neg (by decide), if_neg (by decide), if_neg (by decide),
      if_pos rfl, List.append_nil]
    rfl
  path := hpath

theorem valuesOf_eq_nil {lines : List (String × String)} {name : String} (h : name ∉ lines.map Prod.fst) :
    valuesOf lines name = [] :=
  List.filterMap_eq_nil_iff.mpr fun line hline => if_neg fun hname =>
    h (List.mem_map.mpr ⟨line, hline, hname⟩)

theorem forwardHead_addsRouting (request : IngressRequest) (resolved : Resolved) (app baseHost : String) :
    AddsRouting baseHost request app resolved ["connection", "host"] (forwardHead request resolved app baseHost) := by
  refine addsRouting_of_added rfl (by decide) (by decide) rfl rfl fun name hname => valuesOf_eq_nil ?_
  revert name
  decide

theorem sandboxHead_addsRouting (request : IngressRequest) (resolved : Resolved) (app baseHost : String) :
    AddsRouting baseHost request app resolved ["host", "connection", "content-length", "transfer-encoding"]
      (sandboxHead request resolved app baseHost) := by
  refine addsRouting_of_added rfl (by decide) (by decide) rfl rfl fun name hname => valuesOf_eq_nil ?_
  show name ∉ ["content-length", "connection"]
  revert name
  decide

namespace AddsRouting

variable {baseHost app : String} {request : IngressRequest} {resolved : Resolved} {names : List String}
  {head : RequestHead}

/-- The external host the Kernel adds is the only one exactly if none is copied. -/
theorem copied_externalHost (h : AddsRouting baseHost request app resolved names head)
    (hrouted : RoutedByKernel baseHost request app resolved head) :
    valuesOf head.copied "x-iweb-external-host" = [] := by
  obtain ⟨hone, hvalues⟩ := hrouted.externalHost
  rw [valuesOf_append, h.externalHost] at hone hvalues
  cases hexternal : externalHostHeader request.headers with
  | none =>
    refine List.eq_nil_iff_forall_not_mem.mpr fun value hvalue => ?_
    have hsome := hvalues value (List.mem_append_left _ hvalue)
    rw [hexternal] at hsome
    cases hsome
  | some value =>
    rw [hexternal, List.length_append, Option.toList_some, List.length_singleton] at hone
    exact List.eq_nil_of_length_eq_zero (by omega)

/-- A head with the Kernel's routing headers has no others exactly if the client sends none. -/
theorem routedByKernel_iff (h : AddsRouting baseHost request app resolved names head) :
    RoutedByKernel baseHost request app resolved head ↔ sendsRouting request.headers = false := by
  constructor
  · intro hrouted
    refine sendsRouting_eq_false.mpr fun name hname => ?_
    have hnone : valuesOf head.copied name = [] := by
      have hsplit : name ∈ ["x-iweb-original-host", "x-iweb-app-base", "x-iweb-via"] ∨
          name = "x-iweb-external-host" := by
        simpa [routingNames, or_assoc] using hname
      rcases hsplit with hother | rfl
      · exact hrouted.notCopied name hother
      · exact h.copied_externalHost hrouted
    rw [h.copied] at hnone
    exact (valuesOf_without_eq_nil (h.copies name hname)).mp hnone
  · intro hsends
    have hnone : ∀ name ∈ routingNames, valuesOf head.copied name = [] := by
      intro name hname
      rw [h.copied]
      exact (valuesOf_without_eq_nil (h.copies name hname)).mpr (sendsRouting_eq_false.mp hsends name hname)
    have hhost : valuesOf head.copied "host" = [] := by
      rw [h.copied]
      exact valuesOf_without_of_mem h.host_mem
    have hexternal : valuesOf (head.copied ++ head.added) "x-iweb-external-host" =
        (externalHostHeader request.headers).toList := by
      rw [valuesOf_append, hnone _ (by decide), h.externalHost, List.nil_append]
    refine ⟨?_, ?_, ⟨?_, ?_⟩, ?_, ?_, h.path⟩
    · rw [valuesOf_append, hhost, h.host, List.nil_append]
    · rw [valuesOf_append, hnone _ (by decide), h.originalHost, List.nil_append]
    · rw [hexternal]
      cases externalHostHeader request.headers with
      | none => exact Nat.zero_le _
      | some _ => exact Nat.le_refl _
    · rw [hexternal]
      exact fun value hvalue => Option.mem_toList.mp hvalue
    · rw [valuesOf_append, hnone _ (by decide), h.appBase, List.nil_append]
    · intro name hname
      refine hnone name ?_
      have hsplit : name = "x-iweb-original-host" ∨ name = "x-iweb-app-base" ∨ name = "x-iweb-via" := by
        simpa using hname
      rcases hsplit with rfl | rfl | rfl <;> decide

end AddsRouting

/-- The tunnel adds no original host, so its head never has the Kernel's routing headers. -/
theorem not_routedByKernel_upgradeTunnelHead (request : IngressRequest) (app baseHost : String)
    (resolved : Resolved) :
    ¬ RoutedByKernel baseHost request app resolved (upgradeTunnelHead request app baseHost) := by
  intro hrouted
  have hone := hrouted.originalHost
  rw [valuesOf_append, hrouted.notCopied "x-iweb-original-host" (by decide), List.nil_append] at hone
  have hnone : valuesOf (upgradeTunnelHead request app baseHost).added "x-iweb-original-host" = [] := by
    simp [upgradeTunnelHead, valuesOf]
  rw [hnone] at hone
  cases hone

/-! ## The entry -/

/-- The heads the entry sends for a route. -/
theorem routeTo_eq_sent {config : Config} {request : IngressRequest} {route resolved : Resolved}
    {path : ForwardingPath} {app : String} {head : RequestHead}
    (h : routeTo config request route = .sent path app resolved head) :
    resolved = route ∧
      ((isUpgradeRequest request.headers = true ∧ head = upgradeTunnelHead request app config.baseHost) ∨
        (isUpgradeRequest request.headers = false ∧ (head = forwardHead request resolved app config.baseHost ∨
          head = sandboxHead request resolved app config.baseHost))) := by
  unfold routeTo at h
  split at h
  · cases h
  · split at h
    · cases h
    · split at h
      · rename_i hupgrade
        cases h
        exact ⟨rfl, .inl ⟨hupgrade, rfl⟩⟩
      · rename_i hupgrade
        cases h
        exact ⟨rfl, .inr ⟨Bool.eq_false_iff.mpr hupgrade, .inl rfl⟩⟩
  · split at h
    · cases h
    · split at h
      · cases h
      · rename_i hrefused
        cases h
        have hupgrade : isUpgradeRequest request.headers = false := by
          cases hup : isUpgradeRequest request.headers with
          | false => rfl
          | true =>
            rw [hup, Bool.or_true] at hrefused
            exact absurd rfl hrefused
        exact ⟨rfl, .inr ⟨hupgrade, .inr rfl⟩⟩

/-- A route has an application base exactly if it came through the alias of the base host. -/
theorem resolve_appBasePath {routes : List RouteRecord} {baseHost host pathAndQuery : String} {resolved : Resolved}
    (h : resolve routes baseHost host pathAndQuery = some resolved) :
    resolved.appBasePath.isSome = true ↔ host = baseHost := by
  unfold resolve at h
  by_cases hhost : host = baseHost
  · rw [if_pos hhost] at h
    refine ⟨fun _ => hhost, fun _ => ?_⟩
    cases halias : aliasOf (before '?' pathAndQuery).toList with
    | none =>
      rw [halias] at h
      cases h
    | some found =>
      rw [halias] at h
      obtain ⟨route, -, rfl⟩ := Option.map_eq_some_iff.mp h
      rfl
  · rw [if_neg hhost] at h
    refine ⟨fun hsome => ?_, fun heq => absurd heq hhost⟩
    dsimp only at h
    split at h
    · cases h
    · obtain ⟨route, -, rfl⟩ := Option.map_eq_some_iff.mp h
      cases hsome

/-- What the entry sends goes to the route of the request. -/
theorem ingressRouter_eq_sent {config : Config} {request : IngressRequest} {path : ForwardingPath} {app : String}
    {resolved : Resolved} {head : RequestHead} (h : ingressRouter config request = .sent path app resolved head) :
    ∃ routes, resolve routes config.baseHost (requestHost request.headers) (request.pathAndQuery.getD "/") =
      some resolved ∧ routeTo config request resolved = .sent path app resolved head := by
  unfold ingressRouter at h
  dsimp only at h
  split at h
  · cases h
  · split at h
    · cases h
    · cases h
    · rename_i routes _
      split at h
      · cases h
      · split at h
        · cases h
        · rename_i route hroute
          obtain ⟨rfl, -⟩ := routeTo_eq_sent h
          exact ⟨routes, hroute, h⟩

/-- Of the requests that are sent on, those carry the Kernel's routing headers and no others, and go to the path of
their route, that are no upgrade requests and bring no header of their names. -/
theorem routing_headers_from_kernel {config : Config} {request : IngressRequest} {path : ForwardingPath}
    {app : String} {resolved : Resolved} {head : RequestHead}
    (h : ingressRouter config request = .sent path app resolved head) :
    (RoutedByKernel config.baseHost request app resolved head ↔
        isUpgradeRequest request.headers = false ∧ sendsRouting request.headers = false) ∧
      (resolved.appBasePath.isSome = true ↔ requestHost request.headers = config.baseHost) := by
  obtain ⟨routes, hroute, hsent⟩ := ingressRouter_eq_sent h
  refine ⟨?_, resolve_appBasePath hroute⟩
  obtain ⟨-, ⟨hupgrade, rfl⟩ | ⟨hupgrade, rfl | rfl⟩⟩ := routeTo_eq_sent hsent
  · refine ⟨fun hrouted => absurd hrouted (not_routedByKernel_upgradeTunnelHead request app config.baseHost resolved),
      fun hcondition => ?_⟩
    rw [hupgrade] at hcondition
    cases hcondition.1
  · rw [(forwardHead_addsRouting request resolved app config.baseHost).routedByKernel_iff]
    exact ⟨fun hsends => ⟨hupgrade, hsends⟩, And.right⟩
  · rw [(sandboxHead_addsRouting request resolved app config.baseHost).routedByKernel_iff]
    exact ⟨fun hsends => ⟨hupgrade, hsends⟩, And.right⟩

def consoleRoute : RouteRecord := ⟨"console", ⟨"celld-app", some "console", none⟩, true, true⟩

/-- An entry whose one system application is the console. -/
def consoleConfig : Config where
  baseHost := "iweb.test"
  routesFile := some (.parsed ⟨1, [consoleRoute]⟩)
  celldPorts := fun app => if app = "console" then some 3000 else none
  activeIngress := fun _ => none

/-- A request of the console over its own host. -/
def consoleRequest : IngressRequest where
  method := "GET"
  pathAndQuery := some "/apps?page=2"
  headers := ⟨[("host", .text "console.iweb.test:8080"), ("accept", .text "*/*")], by decide +kernel⟩
  bodyLength := 0

/-- The same request with an original host of the client. -/
def forgedRequest : IngressRequest where
  method := "GET"
  pathAndQuery := some "/apps?page=2"
  headers := ⟨[("host", .text "console.iweb.test:8080"), ("x-iweb-original-host", .text "other.test")],
    by decide +kernel⟩
  bodyLength := 0

/-- An upgrade request of the console over the alias of the base host. -/
def consoleUpgrade : IngressRequest where
  method := "GET"
  pathAndQuery := some "/console/app/socket"
  headers := ⟨[("host", .text "iweb.test"), ("connection", .text "Upgrade"), ("upgrade", .text "websocket")],
    by decide +kernel⟩
  bodyLength := 0

theorem routing_headers_from_kernel_console :
    (RoutedByKernel "iweb.test" consoleRequest "console" ⟨consoleRoute, "/apps?page=2", none⟩
        (forwardHead consoleRequest ⟨consoleRoute, "/apps?page=2", none⟩ "console" "iweb.test") ↔
      isUpgradeRequest consoleRequest.headers = false ∧ sendsRouting consoleRequest.headers = false) ∧
      ((none : Option String).isSome = true ↔ requestHost consoleRequest.headers = "iweb.test") := by
  have hsent : ingressRouter consoleConfig consoleRequest =
      .sent .celld "console" ⟨consoleRoute, "/apps?page=2", none⟩
        (forwardHead consoleRequest ⟨consoleRoute, "/apps?page=2", none⟩ "console" "iweb.test") := by decide +kernel
  exact routing_headers_from_kernel hsent

/-- An original host of the client reaches the console beside that of the Kernel; and the tunnel goes to the path
of the alias, with no routing header. -/
theorem routing_headers_from_client :
    ingressRouter consoleConfig forgedRequest = .sent .celld "console" ⟨consoleRoute, "/apps?page=2", none⟩
        (forwardHead forgedRequest ⟨consoleRoute, "/apps?page=2", none⟩ "console" "iweb.test") ∧
      ¬ RoutedByKernel "iweb.test" forgedRequest "console" ⟨consoleRoute, "/apps?page=2", none⟩
        (forwardHead forgedRequest ⟨consoleRoute, "/apps?page=2", none⟩ "console" "iweb.test") ∧
      ingressRouter consoleConfig consoleUpgrade = .sent .upgradeTunnel "console"
        ⟨consoleRoute, "/socket", some "/console/app/"⟩
        ⟨"GET", "/console/app/socket", [("connection", "Upgrade"), ("upgrade", "websocket")],
          [("host", "console.app.iweb.test"), ("content-length", "0")]⟩ := by
  refine ⟨by decide +kernel, fun hrouted => ?_, by decide +kernel⟩
  have hnone := hrouted.notCopied "x-iweb-original-host" (by decide)
  exact absurd hnone (by decide +kernel)

end Ingress

end Iweb
