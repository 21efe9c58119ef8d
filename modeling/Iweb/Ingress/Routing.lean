import Iweb.Registry.RouteEdits
import Iweb.Runtime.Ingress

/-!
# The public entry

A request for an application reaches it over one of three paths: an ordinary request of a system application over
the HTTP client, an upgrade request of it through a tunnel, and a request of a wasm application over its sandbox's
socket. Each path writes the head of the upstream request by itself.
-/

namespace Iweb

/-- A header value: its text, if all of its bytes are visible ASCII. -/
inductive HeaderValue
  | text (value : String)
  | binary (content : List UInt8)
deriving DecidableEq

/-- `HeaderValue::to_str` -/
def HeaderValue.toStr : HeaderValue → Option String
  | .text value => some value
  | .binary _ => none

/-- `HeaderMap`: the headers of a request in order, repeated names included. No name has an upper-case letter. -/
structure HeaderMap where
  entries : List (String × HeaderValue)
  lowercase : entries.all (fun entry => entry.1.toList.all fun c => !c.isUpper) = true

namespace HeaderMap

/-- `HeaderMap::get`: the first value of a name. -/
def get (headers : HeaderMap) (name : String) : Option HeaderValue := headers.entries.lookup name

/-- The text of the first value of a name. -/
def getStr (headers : HeaderMap) (name : String) : Option String := (headers.get name).bind HeaderValue.toStr

/-- The headers with a text, but for those with one of these names. -/
def without (headers : HeaderMap) (names : List String) : List (String × String) :=
  headers.entries.filterMap fun entry =>
    if names.contains entry.1 then none else entry.2.toStr.map fun value => (entry.1, value)

end HeaderMap

/-- A request as the public entry receives it. -/
structure IngressRequest where
  method : String
  pathAndQuery : Option String
  headers : HeaderMap
  bodyLength : Nat

/-- `Resolved` -/
structure Resolved where
  route : RouteRecord
  upstreamPath : String
  appBasePath : Option String
deriving DecidableEq

/-- `RouteAction` -/
inductive RouteAction
  | system (appName : String)
  | wasm (applicationId : String)

/-- How a request is forwarded. -/
inductive ForwardingPath
  | celld
  | upgradeTunnel
  | sandbox
deriving DecidableEq

/-- The head of an upstream request: the headers copied from the client, then those the Kernel adds. -/
structure RequestHead where
  method : String
  path : String
  copied : List (String × String)
  added : List (String × String)
deriving DecidableEq

/-- What becomes of a request at the public entry. -/
inductive Routed
  | control
  | answered (status : Nat)
  | sent (path : ForwardingPath) (app : String) (resolved : Resolved) (head : RequestHead)
deriving DecidableEq

namespace Ingress

/-! ## The route of a request -/

/-- The text before the first occurrence of a character. -/
def before (stop : Char) (text : String) : String := String.ofList (text.toList.takeWhile (· ≠ stop))

/-- The text from the first occurrence of a character on. -/
def fromFirst (stop : Char) (text : String) : List Char := text.toList.dropWhile (· ≠ stop)

/-- `RouteStore::find_enabled` -/
def findEnabled (routes : List RouteRecord) (hostId : String) : Option RouteRecord :=
  routes.find? fun route => route.enabled && route.hostId == hostId

/-- `RouteStore::find_app` -/
def findApp (routes : List RouteRecord) (appName : String) : Option RouteRecord :=
  routes.find? fun route => route.enabled && route.target.appName == some appName

/-- `RouteStore::action_for` -/
def actionFor (route : RouteRecord) : Option RouteAction :=
  if route.target.kind = routeKindCelldApp ∧ route.system then route.target.appName.map .system
  else if route.target.kind = routeKindSandbox ∧ !route.system then
    (route.target.appName.filter isApplicationId).map .wasm
  else none

/-- The alias `/<app>/app(/...)?` of an application in a path: its name and what follows the alias. -/
def aliasOf (path : List Char) : Option (String × List Char) :=
  match path with
  | '/' :: rest =>
    let app := String.ofList (rest.takeWhile (· ≠ '/'))
    if !isApplicationId app then none
    else
      match rest.dropWhile (· ≠ '/') with
      | [] => none
      | _ :: rest =>
        if String.ofList (rest.takeWhile (· ≠ '/')) ≠ "app" then none
        else some (app, (rest.dropWhile (· ≠ '/')).drop 1)
  | _ => none

/-- `resolve` -/
def resolve (routes : List RouteRecord) (baseHost host pathAndQuery : String) : Option Resolved :=
  let path := before '?' pathAndQuery
  let query := fromFirst '?' pathAndQuery
  if host = baseHost then
    match aliasOf path.toList with
    | none => none
    | some (app, tail) =>
      (findApp routes app).map fun route =>
        ⟨route, String.ofList ('/' :: tail ++ query), some ("/" ++ app ++ "/app/")⟩
  else
    let suffix := '.' :: baseHost.toList
    if !suffix.isSuffixOf host.toList then none
    else
      (findEnabled routes (String.ofList (host.toList.take (host.toList.length - suffix.length)))).map fun route =>
        ⟨route, String.ofList (path.toList ++ query), none⟩

/-! ## The headers the Kernel computes -/

/-- `original_host` -/
def originalHost (headers : HeaderMap) : String := ((headers.getStr "host").map (before ':')).getD ""

/-- `external_host_header` -/
def externalHostHeader (headers : HeaderMap) : Option String :=
  (headers.getStr "host").map fun host =>
    let external := (headers.getStr "x-iweb-external-host").filter (· ≠ "")
    let externalHost := (external.map (before ':')).getD (before ':' host)
    let port := (headers.getStr "x-iweb-external-port").filter fun value =>
      value.toList.all Char.isDigit && value ≠ ""
    match port with
    | some port => externalHost ++ ":" ++ port
    | none => externalHost

/-- The characters of a text contain those of another. -/
def containsText (part text : List Char) : Bool := text.tails.any part.isPrefixOf

/-- `is_upgrade_request` -/
def isUpgradeRequest (headers : HeaderMap) : Bool :=
  let wantsUpgrade := ((headers.getStr "connection").map fun value =>
    containsText "upgrade".toList (value.toList.map Char.toLower)).getD false
  wantsUpgrade && (headers.get "upgrade").isSome

/-- The host an application is addressed by upstream. -/
def applicationHost (app baseHost : String) : String := app ++ ".app." ++ baseHost

/-! ## The three heads -/

/-- The head `forward` gives to the HTTP client, which appends each header to those it has. -/
def forwardHead (request : IngressRequest) (resolved : Resolved) (app baseHost : String) : RequestHead where
  method := request.method
  path := resolved.upstreamPath
  copied := request.headers.without ["connection", "host"]
  added := ("host", applicationHost app baseHost) :: ("x-iweb-original-host", originalHost request.headers) ::
    ((externalHostHeader request.headers).toList.map fun value => ("x-iweb-external-host", value)) ++
    (resolved.appBasePath.toList.map fun base => ("x-iweb-app-base", base)) ++ [("x-iweb-via", "kernel")]

/-- The head `upgrade_tunnel` writes. -/
def upgradeTunnelHead (request : IngressRequest) (app baseHost : String) : RequestHead where
  method := request.method
  path := request.pathAndQuery.getD "/"
  copied := request.headers.without ["host", "content-length", "transfer-encoding"]
  added := [("host", applicationHost app baseHost), ("content-length", toString request.bodyLength)]

/-- The head `sandbox_exchange` writes. -/
def sandboxHead (request : IngressRequest) (resolved : Resolved) (app baseHost : String) : RequestHead where
  method := request.method
  path := resolved.upstreamPath
  copied := request.headers.without ["host", "connection", "content-length", "transfer-encoding"]
  added := ("host", applicationHost app baseHost) :: ("x-iweb-original-host", originalHost request.headers) ::
    ((externalHostHeader request.headers).toList.map fun value => ("x-iweb-external-host", value)) ++
    (resolved.appBasePath.toList.map fun base => ("x-iweb-app-base", base)) ++
    [("content-length", toString request.bodyLength), ("connection", "close")]

/-! ## The entry -/

/-- What the entry reads besides the request: the base host, the routes file if there is one, the ports of the
system applications, and where each wasm application runs. -/
structure Config where
  baseHost : String
  routesFile : Option RoutesText
  celldPorts : String → Option Nat
  activeIngress : String → Option WasmIngressTarget

def unavailable : Routed := .answered 502

def notFound : Routed := .answered 404

/-- The largest body that is forwarded. -/
def maxBodyBytes : Nat := 64 * 1024 * 1024

/-- The arm of `ingress_router` for a resolved route. -/
def routeTo (config : Config) (request : IngressRequest) (resolved : Resolved) : Routed :=
  match actionFor resolved.route with
  | none => unavailable
  | some (.system appName) =>
    if (config.celldPorts appName).isNone || request.bodyLength > maxBodyBytes then unavailable
    else if isUpgradeRequest request.headers then
      .sent .upgradeTunnel appName resolved (upgradeTunnelHead request appName config.baseHost)
    else .sent .celld appName resolved (forwardHead request resolved appName config.baseHost)
  | some (.wasm applicationId) =>
    match config.activeIngress applicationId with
    | none => unavailable
    | some active =>
      if request.bodyLength > maxBodyBytes || !isSandboxId active.sandboxId || isUpgradeRequest request.headers then
        unavailable
      else .sent .sandbox active.applicationId resolved
        (sandboxHead request resolved active.applicationId config.baseHost)

/-- The host of a request, without the port. -/
def requestHost (headers : HeaderMap) : String :=
  ((headers.getStr "host").map fun value => RouteRequest.toAsciiLowercase (before ':' value)).getD ""

/-- `ingress_router` -/
def ingressRouter (config : Config) (request : IngressRequest) : Routed :=
  let host := requestHost request.headers
  if host = "api." ++ config.baseHost then .control
  else
    match config.routesFile.map RouteStore.load with
    | none => notFound
    | some none => unavailable
    | some (some routes) =>
      if request.headers.get "x-iweb-via" = some (.text "kernel") then unavailable
      else
        match resolve routes config.baseHost host (request.pathAndQuery.getD "/") with
        | none => notFound
        | some resolved => routeTo config request resolved

/-! ## What a head must say -/

/-- The values of a name in a list of headers. -/
def valuesOf (lines : List (String × String)) (name : String) : List String :=
  lines.filterMap fun line => if line.1 = name then some line.2 else none

/-- The routing headers of a head are those the Kernel computes, none of them is the client's, and the path is that
of the route. -/
structure RoutedByKernel (baseHost : String) (request : IngressRequest) (app : String) (resolved : Resolved)
    (head : RequestHead) : Prop where
  host : valuesOf (head.copied ++ head.added) "host" = [applicationHost app baseHost]
  originalHost : valuesOf (head.copied ++ head.added) "x-iweb-original-host" = [originalHost request.headers]
  externalHost : (valuesOf (head.copied ++ head.added) "x-iweb-external-host").length ≤ 1 ∧
    ∀ value ∈ valuesOf (head.copied ++ head.added) "x-iweb-external-host",
      externalHostHeader request.headers = some value
  appBase : valuesOf (head.copied ++ head.added) "x-iweb-app-base" = resolved.appBasePath.toList
  notCopied : ∀ name ∈ ["x-iweb-original-host", "x-iweb-app-base", "x-iweb-via"], valuesOf head.copied name = []
  path : head.path = resolved.upstreamPath

/-- The names of the routing headers a client has no part in. -/
def routingNames : List String := ["x-iweb-original-host", "x-iweb-app-base", "x-iweb-via", "x-iweb-external-host"]

/-- The client sends a header with the name of a routing header. -/
def sendsRouting (headers : HeaderMap) : Bool :=
  headers.entries.any fun entry => routingNames.contains entry.1 && entry.2.toStr.isSome

end Ingress

end Iweb
