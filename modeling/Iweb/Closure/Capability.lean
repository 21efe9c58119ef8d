import Iweb.Admission.Validation
import Mathlib.Data.List.Sort

/-!
# The capability closure of a component

A component is scanned into a graph of its nested components, core modules and adapters, each with the
interfaces it imports and exports. The check accepts the graph only if every import has one provider in the
graph or is a host import that the capability matrix allows and the application declared.
-/

namespace Iweb

/-! ## Interface identities -/

structure NormalizedWitPackageIdentity where
  namespaceName : List UInt8
  name : List UInt8
  major : Nat
  minor : Nat
  patch : Nat
deriving DecidableEq

/-- `normalizeWitPackageIdentity`: the parts of `namespace:name@major.minor.patch`, with safe integers. -/
def normalizeWitPackageIdentity (text : String) : Option NormalizedWitPackageIdentity :=
  if isWitPackage text then
    match splitBytes (ascii '@') (bytes text) with
    | [name, version] =>
      match splitBytes (ascii ':') name, splitBytes (ascii '.') version with
      | [namespaceName, packageName], [major, minor, patch] =>
        if decimalValue major ≤ wasmU53Max ∧ decimalValue minor ≤ wasmU53Max ∧
            decimalValue patch ≤ wasmU53Max then
          some ⟨namespaceName, packageName, decimalValue major, decimalValue minor, decimalValue patch⟩
        else none
      | _, _ => none
    | _ => none
  else none

/-- A package identity and an interface name by their grammars. -/
def isWitInterface (package interface : String) : Bool :=
  (normalizeWitPackageIdentity package).isSome && isWitName (bytes interface)

/-! ## The matrix -/

structure WasmRequiredRootExportV1 where
  package : String
  interface : String
deriving DecidableEq

structure WasmCapabilityMatrixV1 where
  world : String
  hostAbi : String
  requiredRootExport : WasmRequiredRootExportV1
  hostImports : List WasmImportCapability

/-- The capability of importing an interface from the host. -/
def hostImport (package interface : String) : WasmImportCapability := ⟨package, interface, "import"⟩

/-- The host imports of revision 1, sorted. -/
def revision1HostImports : List WasmImportCapability :=
  [hostImport "iweb:config@1.0.0" "store", hostImport "iweb:secrets@1.0.0" "store",
    hostImport "wasi:cli@0.2.8" "stderr", hostImport "wasi:cli@0.2.8" "stdin",
    hostImport "wasi:cli@0.2.8" "stdout", hostImport "wasi:clocks@0.2.8" "monotonic-clock",
    hostImport "wasi:clocks@0.2.8" "wall-clock", hostImport "wasi:http@0.2.8" "outgoing-handler",
    hostImport "wasi:http@0.2.8" "types", hostImport "wasi:io@0.2.8" "error",
    hostImport "wasi:io@0.2.8" "poll", hostImport "wasi:io@0.2.8" "streams",
    hostImport "wasi:random@0.2.8" "random"]

/-- `WASM_CAPABILITY_MATRIX_REVISION_1` -/
def wasmCapabilityMatrixRevision1 : WasmCapabilityMatrixV1 where
  world := wasmWorldLiteral
  hostAbi := wasmHostAbiLiteral
  requiredRootExport := ⟨"wasi:http@0.2.8", "incoming-handler"⟩
  hostImports := revision1HostImports

/-- A matrix entry for the interface of a candidate, whatever its version. -/
def ownsInterface (allowed : WasmImportCapability) (identity : NormalizedWitPackageIdentity)
    (interface : String) : Bool :=
  match normalizeWitPackageIdentity allowed.package with
  | none => false
  | some owner =>
    owner.namespaceName == identity.namespaceName && owner.name == identity.name &&
      allowed.interface == interface

/-- `classifyWasmHostImport`: an allowed host import, or the code of its rejection. -/
def classifyWasmHostImport (matrix : WasmCapabilityMatrixV1) (package interface : String) :
    Except String Unit :=
  match normalizeWitPackageIdentity package with
  | none => .error "WASM_INTERFACE_UNKNOWN"
  | some identity =>
    if !isWitName (bytes interface) then .error "WASM_INTERFACE_UNKNOWN"
    else if package = matrix.requiredRootExport.package ∧
        interface = matrix.requiredRootExport.interface then
      .error "WASM_IMPORT_UNRESOLVED"
    else
      match matrix.hostImports.find? fun allowed => ownsInterface allowed identity interface with
      | none => .error "WASM_INTERFACE_UNKNOWN"
      | some known =>
        if known.package ≠ package then .error "WASM_INTERFACE_VERSION_UNLISTED" else .ok ()

/-! ## The graph -/

/-- `direction` -/
inductive WasmCapabilityDirection
  | imports
  | exports
deriving DecidableEq

structure WasmClosureInterfaceOccurrence where
  package : String
  interface : String
  direction : WasmCapabilityDirection
  /-- The identity of the decoded interface type. -/
  typeTag : String
  /-- The node a re-export comes from. -/
  providerAlias : Option String
deriving DecidableEq

inductive WasmClosureNodeKind
  | component
  | coreModule
  | adapter
deriving DecidableEq

structure WasmClosureNode where
  id : String
  kind : WasmClosureNodeKind
  interfaces : List WasmClosureInterfaceOccurrence
  rawImports : List String
  instanceBoundImports : List String
  adapterTranslations : List String
deriving DecidableEq

structure WasmClosureEdge where
  source : String
  target : String
deriving DecidableEq

structure WasmClosureBudget where
  maxNodes : Nat
  maxEdges : Nat
  maxDepth : Nat

structure WasmClosureGraph where
  world : String
  hostAbi : String
  entryNodeId : String
  nodes : List WasmClosureNode
  edges : List WasmClosureEdge
  declaredHostImports : List WasmImportCapability
  budget : WasmClosureBudget

/-- `iwebStoreWitDirectionErrorCode` -/
def iwebStoreWitDirectionErrorCode (id : WasmClosureInterfaceOccurrence) : Option String :=
  if id.direction ≠ .exports ∨ id.interface ≠ "store" then none
  else if id.package = "iweb:secrets@1.0.0" then some "IWEB_SECRET_WIT_DIRECTION_INVALID"
  else if id.package = "iweb:config@1.0.0" then some "IWEB_CONFIG_WIT_DIRECTION_INVALID"
  else none

/-- A check that rejects with a code. -/
def requireClosure (ok : Bool) (code : String) : Except String Unit :=
  if ok then .ok () else .error code

/-! ## Cycles and depth -/

/-- The visited nodes of a depth-first search and the greatest depth. -/
structure VisitState where
  visiting : List String
  done : List String
  maxDepth : Nat

/-- The visits of the targets of a node, one after the other. A visit ends with the state after it, `none`
at a cycle; the outer `none` is the end of the fuel. -/
def visitAll (visit : String → VisitState → Option (Option VisitState)) :
    List String → VisitState → Option (Option VisitState)
  | [], state => some (some state)
  | next :: rest, state =>
    match visit next state with
    | none => none
    | some none => some none
    | some (some visited) => visitAll visit rest visited

/-- `hasNoCycle`: the visit of a node. -/
def hasNoCycle (adjacency : String → List String) :
    Nat → Nat → String → VisitState → Option (Option VisitState)
  | 0, _, _, _ => none
  | fuel + 1, depth, nodeId, state =>
    if nodeId ∈ state.visiting then some none
    else if nodeId ∈ state.done then some (some state)
    else
      let entered : VisitState :=
        ⟨nodeId :: state.visiting, state.done, max state.maxDepth depth⟩
      match visitAll (hasNoCycle adjacency fuel (depth + 1)) (adjacency nodeId) entered with
      | none => none
      | some none => some none
      | some (some left) =>
        some (some ⟨left.visiting.erase nodeId, nodeId :: left.done, left.maxDepth⟩)

namespace WasmClosureGraph

def nodeIds (graph : WasmClosureGraph) : List String := graph.nodes.map WasmClosureNode.id

/-- The targets of the edges of a node. -/
def adjacency (graph : WasmClosureGraph) (nodeId : String) : List String :=
  (graph.edges.filter fun edge => edge.source == nodeId).map WasmClosureEdge.target

/-- The search from the entry, with fuel for a path through all nodes. -/
def visitEntry (graph : WasmClosureGraph) : Option (Option VisitState) :=
  hasNoCycle graph.adjacency (graph.nodes.length + 1) 1 graph.entryNodeId ⟨[], [], 0⟩

/-! ## The check -/

/-- The graph refers to its own nodes only, and each id is one node. -/
def checkIntegrity (graph : WasmClosureGraph) : Except String Unit := do
  requireClosure (!graph.nodeIds.contains "" && graph.nodeIds.Nodup) "WASM_CLOSURE_GRAPH_INVALID"
  requireClosure (graph.nodeIds.contains graph.entryNodeId) "WASM_CLOSURE_GRAPH_INVALID"
  requireClosure (graph.edges.all fun edge =>
    graph.nodeIds.contains edge.source && graph.nodeIds.contains edge.target) "WASM_CLOSURE_GRAPH_INVALID"

/-- Node and edge counts, cycles, depth. -/
def checkBudget (graph : WasmClosureGraph) : Except String Unit := do
  requireClosure (graph.nodes.length ≤ graph.budget.maxNodes && graph.edges.length ≤ graph.budget.maxEdges)
    "WASM_CLOSURE_BUDGET_EXCEEDED"
  match graph.visitEntry with
  | none | some none => .error "WASM_CLOSURE_CYCLE"
  | some (some state) =>
    requireClosure (state.maxDepth ≤ graph.budget.maxDepth) "WASM_CLOSURE_BUDGET_EXCEEDED"

/-- Raw imports are translated by some adapter, or bound to an instance import of their component. -/
def checkRawImports (graph : WasmClosureGraph) : Except String Unit :=
  let translated := graph.nodes.flatMap WasmClosureNode.adapterTranslations
  graph.nodes.forM fun node =>
    match node.kind with
    | .coreModule =>
      requireClosure (node.rawImports.all fun raw =>
        translated.contains raw || node.instanceBoundImports.contains raw) "WASM_IMPORT_UNMAPPABLE"
    | .adapter =>
      requireClosure (node.rawImports.all translated.contains) "WASM_ADAPTER_EXTERNAL_IMPORT"
    | .component => .ok ()

/-- Every interface of every node, with its node, in order. -/
def occurrences (graph : WasmClosureGraph) : List (WasmClosureNode × WasmClosureInterfaceOccurrence) :=
  graph.nodes.flatMap fun node => node.interfaces.map fun occurrence => (node, occurrence)

/-- The node that provides an export: the node it is re-exported from, or its own. -/
def providerOf (provider : WasmClosureNode) (exported : WasmClosureInterfaceOccurrence) : String :=
  exported.providerAlias.getD provider.id

/-- The export of another node that an import may resolve to. -/
def provides (node : WasmClosureNode) (occurrence : WasmClosureInterfaceOccurrence)
    (provider : WasmClosureNode) (exported : WasmClosureInterfaceOccurrence) : Bool :=
  provider.id != node.id && exported.direction == .exports && exported.package == occurrence.package &&
    exported.interface == occurrence.interface

/-- The providers of an import and the type tag each was first seen with. -/
def collectProviders (graph : WasmClosureGraph) (node : WasmClosureNode)
    (occurrence : WasmClosureInterfaceOccurrence) :
    List (WasmClosureNode × WasmClosureInterfaceOccurrence) → List (String × String) →
      Except String (List (String × String))
  | [], providers => .ok providers
  | (provider, exported) :: rest, providers =>
    if !provides node occurrence provider exported then
      collectProviders graph node occurrence rest providers
    else if exported.typeTag = "" then .error "WASM_CLOSURE_GRAPH_INVALID"
    else if providerOf provider exported = node.id then
      collectProviders graph node occurrence rest providers
    else if !graph.nodeIds.contains (providerOf provider exported) then .error "WASM_CLOSURE_GRAPH_INVALID"
    else if (providers.lookup (providerOf provider exported)).isSome then
      collectProviders graph node occurrence rest providers
    else
      collectProviders graph node occurrence rest
        (providers ++ [(providerOf provider exported, exported.typeTag)])

/-- One interface of a node: its grammar and direction, and the host import it needs, if any. -/
def resolveOccurrence (graph : WasmClosureGraph) (matrix : WasmCapabilityMatrixV1) (node : WasmClosureNode)
    (occurrence : WasmClosureInterfaceOccurrence) : Except String (Option WasmImportCapability) := do
  requireClosure (isWitInterface occurrence.package occurrence.interface && occurrence.typeTag != "")
    "WASM_IMPORT_UNMAPPABLE"
  match iwebStoreWitDirectionErrorCode occurrence with
  | some code => .error code
  | none =>
    if occurrence.direction ≠ .imports then .ok none
    else do
      let providers ← graph.collectProviders node occurrence graph.occurrences []
      if providers ≠ [] then
        requireClosure (providers.all fun provider => provider.2 == occurrence.typeTag)
          "WASM_INTERNAL_TYPE_MISMATCH"
        requireClosure (providers.length ≤ 1) "WASM_IMPORT_AMBIGUOUS"
        .ok none
      else do
        classifyWasmHostImport matrix occurrence.package occurrence.interface
        .ok (some (hostImport occurrence.package occurrence.interface))

/-- The discovered host imports, each once. The key of a capability is the capability: neither a package
nor an interface name has a slash. -/
def discover (graph : WasmClosureGraph) (matrix : WasmCapabilityMatrixV1) :
    List (WasmClosureNode × WasmClosureInterfaceOccurrence) → List WasmImportCapability →
      Except String (List WasmImportCapability)
  | [], discovered => .ok discovered
  | (node, occurrence) :: rest, discovered => do
    match ← graph.resolveOccurrence matrix node occurrence with
    | none => graph.discover matrix rest discovered
    | some capability =>
      graph.discover matrix rest
        (if capability ∈ discovered then discovered else discovered ++ [capability])

/-- The interfaces that the entry exports are the one root export. -/
def checkRootExport (graph : WasmClosureGraph) (matrix : WasmCapabilityMatrixV1) : Except String Unit :=
  let exported := graph.occurrences.filterMap fun (node, occurrence) =>
    if node.id = graph.entryNodeId ∧ occurrence.direction = .exports then
      some (WasmRequiredRootExportV1.mk occurrence.package occurrence.interface)
    else none
  requireClosure (exported != [] && exported.all (· == matrix.requiredRootExport)) "WASM_EXPORT_MISMATCH"

/-- A declared import is well formed and allowed. -/
def declarationShape (matrix : WasmCapabilityMatrixV1) (declared : WasmImportCapability) : Bool :=
  declared.direction == "import" && isWitInterface declared.package declared.interface &&
    (classifyWasmHostImport matrix declared.package declared.interface).isOk

/-- The declared set is the discovered one. -/
def checkDeclared (graph : WasmClosureGraph) (matrix : WasmCapabilityMatrixV1)
    (discovered : List WasmImportCapability) : Except String Unit := do
  requireClosure (graph.declaredHostImports.Nodup && graph.declaredHostImports.all (declarationShape matrix))
    "WASM_DECLARATION_MISMATCH"
  requireClosure (graph.declaredHostImports.length == discovered.length) "WASM_DECLARATION_MISMATCH"
  requireClosure (discovered.all graph.declaredHostImports.contains) "WASM_DECLARATION_MISMATCH"

end WasmClosureGraph

/-- `compareWasmCapabilityIds`: by package, interface and direction. -/
def capabilityLe (left right : WasmImportCapability) : Prop :=
  if left.package ≠ right.package then left.package < right.package
  else if left.interface ≠ right.interface then left.interface < right.interface
  else ¬ right.direction < left.direction

instance (left right : WasmImportCapability) : Decidable (capabilityLe left right) := by
  unfold capabilityLe
  infer_instance

/-- `validateWasmCapabilityClosure`: the discovered host imports of an accepted graph, or the code of the
rejection. -/
def validateWasmCapabilityClosure (graph : WasmClosureGraph) (matrix : WasmCapabilityMatrixV1) :
    Except String (List WasmImportCapability) := do
  requireClosure (graph.world == matrix.world) "WASM_WORLD_UNSUPPORTED"
  requireClosure (graph.hostAbi == matrix.hostAbi) "WASM_HOST_ABI_MISMATCH"
  graph.checkIntegrity
  graph.checkBudget
  graph.checkRawImports
  let discovered ← graph.discover matrix graph.occurrences []
  graph.checkRootExport matrix
  graph.checkDeclared matrix discovered
  return discovered.insertionSort capabilityLe

end Iweb
