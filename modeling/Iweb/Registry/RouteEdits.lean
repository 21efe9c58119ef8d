import Iweb.Foundations.CrashRefinement
import Iweb.Foundations.Linearization
import Iweb.Kernel.Wire
import Mathlib.Data.List.SplitOn
import Mathlib.Logic.Function.Basic

/-!
# Edits of the route registry

The registry is one JSON file. A request that creates or deletes a route loads the file, checks the edit on
its copy, edits the copy, writes it to a temporary file and renames that over the registry. The temporary file
is the same for all requests, and nothing keeps one request from stepping between the steps of another.
-/

namespace Iweb

structure RouteTarget where
  kind : String
  appName : Option String
  sandboxId : Option String
deriving DecidableEq

structure RouteRecord where
  hostId : String
  target : RouteTarget
  system : Bool
  enabled : Bool
deriving DecidableEq

structure RouteStoreFile where
  version : Nat
  routes : List RouteRecord
deriving DecidableEq

/-- What the text of a routes file parses to. -/
inductive RoutesText
  | malformed
  | parsed (file : RouteStoreFile)
deriving DecidableEq

/-- The text is a registry. -/
def RoutesText.IsParseable : RoutesText → Prop
  | .malformed => False
  | .parsed file => file.version = 1

/-- `ROUTE_KIND_CELLD_APP` -/
def routeKindCelldApp : String := "celld-app"

/-- `ROUTE_KIND_SANDBOX` -/
def routeKindSandbox : String := "sandbox"

def routeRegistryUnavailable : String := "ROUTE_REGISTRY_UNAVAILABLE"

def wasmApplicationNotAdmitted : String := "WASM_APPLICATION_NOT_ADMITTED"

namespace RouteStore

/-- `filter_user_celld_app_routes` -/
def filterUserCelldAppRoutes (routes : List RouteRecord) : List RouteRecord :=
  routes.filter fun route => !(!route.system && route.target.kind == routeKindCelldApp)

/-- `RouteStore::load`; a file it panics on is no registry. -/
def load : RoutesText → Option (List RouteRecord)
  | .malformed => none
  | .parsed file => if file.version ≠ 1 then none else some (filterUserCelldAppRoutes file.routes)

/-- `RouteStore::record`: the first route of the host is replaced. -/
def record (route : RouteRecord) : List RouteRecord → List RouteRecord
  | [] => [route]
  | candidate :: rest => if candidate.hostId = route.hostId then route :: rest else candidate :: record route rest

/-- `RouteStore::delete` -/
def delete (hostId : String) (routes : List RouteRecord) : List RouteRecord :=
  routes.filter fun route => route.hostId ≠ hostId

/-- The text `RouteStore::persist` writes. -/
def text (routes : List RouteRecord) : RoutesText := .parsed ⟨1, routes⟩

end RouteStore

/-! ## The requests -/

/-- The body of a create request, with the fields that have their type. -/
inductive RouteBody
  | notJson
  | notObject
  | object (hostId appName : Option String) (enabled : Option Bool)
deriving DecidableEq

/-- A request, with what `require_admitted_application` answers when it is asked. -/
inductive RouteRequest
  | create (body : RouteBody) (admitted : Except String Bool)
  | delete (path : String)

inductive RouteAnswer
  | created (route : RouteRecord)
  | noContent
  | badRequest (message : String)
  | conflict (message : String)
  | notFound (message : String)
  | unavailable (message : String)
deriving DecidableEq

/-- The edit is in the registry. -/
def RouteAnswer.acknowledges : RouteAnswer → Bool
  | .created _ => true
  | .noContent => true
  | _ => false

/-- The edit of a well-formed request. -/
inductive RouteEdit
  | put (route : RouteRecord) (admitted : Except String Bool)
  | remove (hostId : String)

namespace RouteRequest

/-- `str::to_ascii_lowercase` -/
def toAsciiLowercase (s : String) : String := String.ofList (s.toList.map Char.toLower)

/-- A label of `valid_host_id`. -/
def isHostLabel (label : List UInt8) : Bool :=
  let alnum := fun b => isLowerAlpha b || isDecimalDigit b
  !label.isEmpty && decide (label.length ≤ 63) && label.head?.any alnum && label.getLast?.any alnum &&
    label.all fun b => alnum b || b == ascii '-'

/-- The labels of a host name. -/
def labels (host : List UInt8) : List (List UInt8) := host.splitOn (ascii '.')

/-- `valid_host_id` -/
def validHostId (value : String) : Bool :=
  !(bytes value).isEmpty && decide ((bytes value).length ≤ 253) && (labels (bytes value)).all isHostLabel

/-- `RESERVED_HOST_PREFIXES` -/
def reservedHostPrefixes : List String := ["api", "admin", "mcp", "notes"]

/-- The first label of a host, if it is reserved. -/
def reservedPrefix (hostId : String) : Option String :=
  reservedHostPrefixes.find? fun reserved => some (bytes reserved) == (labels (bytes hostId)).head?

/-- `validate_user_route` on an object. -/
def validateUserRoute (hostId appName : Option String) (enabled : Option Bool) : Except String RouteRecord :=
  let hostId := toAsciiLowercase (hostId.getD "")
  let appName := toAsciiLowercase (appName.getD "")
  if validHostId hostId = false then .error "hostId is not a valid relative hostname"
  else if validHostId appName = false ∨ ascii '.' ∈ bytes appName then
    .error "appName is not a valid app identifier"
  else
    match reservedPrefix hostId with
    | some reserved => .error ("hostId prefix " ++ reserved ++ " is reserved")
    | none =>
      if (bytes ".app").isSuffixOf (bytes hostId) = false then
        .error "v1 user routes must use the .app namespace"
      else
        .ok
          { hostId := hostId
            target := { kind := routeKindSandbox, appName := some appName, sandboxId := none }
            system := false
            enabled := enabled.getD true }

/-- `u8::from_str_radix` for a hexadecimal digit. -/
def hexDigit (c : Char) : Option Nat :=
  if '0' ≤ c ∧ c ≤ '9' then some (c.toNat - '0'.toNat)
  else if 'a' ≤ c ∧ c ≤ 'f' then some (c.toNat - 'a'.toNat + 10)
  else if 'A' ≤ c ∧ c ≤ 'F' then some (c.toNat - 'A'.toNat + 10)
  else none

/-- `u8::from_str_radix` for at most two characters; it takes a plus sign. -/
def hexByte : List Char → Option Nat
  | [c] => hexDigit c
  | [a, b] => if a = '+' then hexDigit b else (hexDigit a).bind fun high => (hexDigit b).map (16 * high + ·)
  | _ => none

/-- `urldecode`; what follows a percent sign is gone also where it is no byte. -/
def urldecode : List Char → List Char
  | [] => []
  | ['%'] => ['%']
  | ['%', a] => [((hexByte [a]).map Char.ofNat).getD '%']
  | '%' :: a :: b :: rest => ((hexByte [a, b]).map Char.ofNat).getD '%' :: urldecode rest
  | c :: rest => c :: urldecode rest

/-- What a request asks for, as far as it is seen before the registry is loaded. -/
def edit : RouteRequest → Except RouteAnswer RouteEdit
  | .create .notJson _ => .error (.badRequest "request body must be JSON")
  | .create .notObject _ => .error (.badRequest "route body must be an object")
  | .create (.object hostId appName enabled) admitted =>
    match validateUserRoute hostId appName enabled with
    | .error message => .error (.badRequest message)
    | .ok route => .ok (.put route admitted)
  | .delete path => .ok (.remove (String.ofList (urldecode path.toList)))

end RouteRequest

namespace RouteEdit

/-- The answer where the registry cannot be loaded. -/
def unavailable : RouteEdit → RouteAnswer
  | .put _ _ => .unavailable routeRegistryUnavailable
  | .remove _ => .unavailable "route registry unavailable"

/-- The refusal of an edit on this copy of the registry. -/
def refusal : RouteEdit → List RouteRecord → Option RouteAnswer
  | .put route admitted, routes =>
    if routes.any fun candidate => candidate.hostId == route.hostId && candidate.system then
      some (.conflict "system route cannot be overwritten")
    else
      match admitted with
      | .ok true => none
      | .ok false => some (.conflict wasmApplicationNotAdmitted)
      | .error code => some (.unavailable code)
  | .remove hostId, routes =>
    match routes.find? fun candidate => candidate.hostId == hostId with
    | none => some (.notFound "route not found")
    | some route => if route.system then some (.conflict "system route cannot be deleted") else none

/-- The edited copy. -/
def apply : RouteEdit → List RouteRecord → List RouteRecord
  | .put route _, routes => RouteStore.record route routes
  | .remove hostId, routes => RouteStore.delete hostId routes

def acknowledgement : RouteEdit → RouteAnswer
  | .put route _ => .created route
  | .remove _ => .noContent

/-- The host of the edit has no system route. -/
def sparesSystem : RouteEdit → List RouteRecord → Bool
  | .put _ _, _ => true
  | .remove hostId, routes => !routes.any fun route => route.hostId == hostId && route.system

end RouteEdit

/-- A request that no other request meets: the registry after it, and its answer. -/
def serveRoute (file : RoutesText) (request : RouteRequest) : RoutesText × RouteAnswer :=
  match request.edit with
  | .error answer => (file, answer)
  | .ok edit =>
    match RouteStore.load file with
    | none => (file, edit.unavailable)
    | some routes =>
      match edit.refusal routes with
      | some answer => (file, answer)
      | none => (RouteStore.text (edit.apply routes), edit.acknowledgement)

/-! ## Requests at the same time -/

/-- How far a request is. It keeps what it loaded to the end. -/
inductive RoutePhase
  | idle
  | arrived
  | loaded (edit : RouteEdit) (routes : List RouteRecord)
  | checked (edit : RouteEdit) (routes : List RouteRecord)
  | modified (edit : RouteEdit) (before after : List RouteRecord)
  | written (edit : RouteEdit) (before after : List RouteRecord)
  | answered (answer : RouteAnswer)
  /-- The temporary file was gone: `persist` panicked. -/
  | crashed

/-- The registry, its temporary file, the requests and what their clients have seen. -/
structure RouteSystem where
  file : RoutesText
  temporary : Option RoutesText
  phase : Nat → RoutePhase
  history : List (Moment RouteAnswer)

namespace RouteSystem

/-- Nothing was requested yet; an earlier process may have left a temporary file. -/
def initial (file : RoutesText) (temporary : Option RoutesText) : RouteSystem where
  file := file
  temporary := temporary
  phase := fun _ => .idle
  history := []

def setPhase (system : RouteSystem) (id : Nat) (phase : RoutePhase) : RouteSystem :=
  { system with phase := Function.update system.phase id phase }

def answer (system : RouteSystem) (id : Nat) (answer : RouteAnswer) : RouteSystem :=
  { system.setPhase id (.answered answer) with history := system.history ++ [.answered id answer] }

variable (request : Nat → RouteRequest)

/-- The next step of a request. -/
def step (system : RouteSystem) (id : Nat) : RouteSystem :=
  match system.phase id with
  | .idle => { system.setPhase id .arrived with history := system.history ++ [.invoked id] }
  | .arrived =>
    match (request id).edit with
    | .error answer => system.answer id answer
    | .ok edit =>
      match RouteStore.load system.file with
      | none => system.answer id edit.unavailable
      | some routes => system.setPhase id (.loaded edit routes)
  | .loaded edit routes =>
    match edit.refusal routes with
    | some answer => system.answer id answer
    | none => system.setPhase id (.checked edit routes)
  | .checked edit routes => system.setPhase id (.modified edit routes (edit.apply routes))
  | .modified edit before after =>
    { system.setPhase id (.written edit before after) with temporary := some (RouteStore.text after) }
  | .written edit _ _ =>
    match system.temporary with
    | none => system.setPhase id .crashed
    | some text => { system.answer id edit.acknowledgement with file := text, temporary := none }
  | .answered _ => system
  | .crashed => system

/-- The requests take their steps in this order. -/
def run (system : RouteSystem) (schedule : List Nat) : RouteSystem :=
  CrashRefinement.run (step request) system schedule

/-- A rename puts in place what the request wrote, on the registry it loaded, and a deleted host has no
system route. -/
def renamesFresh (system : RouteSystem) (id : Nat) : Bool :=
  match system.phase id with
  | .written edit before after =>
    RouteStore.load system.file == some before && system.temporary == some (RouteStore.text after) &&
      edit.sparesSystem before
  | _ => true

/-- The system routes of the registry. -/
def systemRoutes (system : RouteSystem) : List RouteRecord :=
  match system.file with
  | .malformed => []
  | .parsed file => file.routes.filter RouteRecord.system

end RouteSystem

end Iweb
