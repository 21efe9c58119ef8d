import Iweb.Closure.Capability
import Mathlib.Data.List.Perm.Subperm

/-!
# What an accepted closure covers

Every import of an accepted graph either has one provider among the other nodes, with its type, or it is a
discovered host import, allowed by the matrix and declared. The search for a cycle visits a path of
different nodes, so its fuel never ends.
-/

namespace Iweb

@[simp] theorem requireClosure_eq_ok {ok : Bool} {code : String} {u : Unit} :
    requireClosure ok code = .ok u ↔ ok = true := by
  cases ok <;> simp [requireClosure]

/-! ## The search for a cycle -/

/-- A visit leaves the nodes being visited as they were. -/
def KeepsVisiting (visit : String → VisitState → Option (Option VisitState)) : Prop :=
  ∀ nodeId state left, visit nodeId state = some (some left) → left.visiting = state.visiting

theorem visitAll_visiting {visit : String → VisitState → Option (Option VisitState)}
    (hvisit : KeepsVisiting visit) (targets : List String) {state left : VisitState}
    (h : visitAll visit targets state = some (some left)) : left.visiting = state.visiting := by
  induction targets generalizing state with
  | nil =>
    cases h
    rfl
  | cons next rest ih =>
    unfold visitAll at h
    split at h
    · cases h
    · cases h
    · rename_i visited hnext
      rw [ih h, hvisit next state visited hnext]

theorem hasNoCycle_visiting (adjacency : String → List String) (fuel depth : Nat) :
    KeepsVisiting (hasNoCycle adjacency fuel depth) := by
  induction fuel generalizing depth with
  | zero =>
    intro nodeId state left h
    cases h
  | succ fuel ih =>
    intro nodeId state left h
    unfold hasNoCycle at h
    split at h
    · cases h
    · split at h
      · cases h
        rfl
      · dsimp only at h
        split at h
        · cases h
        · cases h
        · rename_i visited hall
          cases h
          show visited.visiting.erase nodeId = state.visiting
          rw [visitAll_visiting (ih (depth + 1)) _ hall]
          exact List.erase_cons_head nodeId state.visiting

/-- With fuel for the nodes that are not being visited, a visit does not run out of it. -/
theorem hasNoCycle_ne_none {adjacency : String → List String} {ids : List String}
    (hadjacency : ∀ nodeId ∈ ids, ∀ target ∈ adjacency nodeId, target ∈ ids) (fuel depth : Nat)
    (nodeId : String) (state : VisitState) (hnode : nodeId ∈ ids) (hnodup : state.visiting.Nodup)
    (hsub : state.visiting ⊆ ids) (hfuel : ids.length < fuel + state.visiting.length) :
    hasNoCycle adjacency fuel depth nodeId state ≠ none := by
  induction fuel generalizing depth nodeId state with
  | zero =>
    have hle : state.visiting.length ≤ ids.length := (List.Nodup.subperm hnodup hsub).length_le
    omega
  | succ fuel ih =>
    unfold hasNoCycle
    split
    · exact Option.some_ne_none _
    · rename_i hnew
      split
      · exact Option.some_ne_none _
      · have hall : ∀ (targets : List String) (entered : VisitState), (∀ target ∈ targets, target ∈ ids) →
            entered.visiting = nodeId :: state.visiting →
            visitAll (hasNoCycle adjacency fuel (depth + 1)) targets entered ≠ none := by
          intro targets
          induction targets with
          | nil => exact fun _ _ _ => Option.some_ne_none _
          | cons next rest ihall =>
            intro entered htargets hvisiting
            have hnext := ih (depth + 1) next entered (htargets next List.mem_cons_self)
              (by rw [hvisiting]; exact List.nodup_cons.mpr ⟨hnew, hnodup⟩)
              (by rw [hvisiting]; exact List.cons_subset.mpr ⟨hnode, hsub⟩)
              (by rw [hvisiting, List.length_cons]; omega)
            unfold visitAll
            split
            · rename_i hnone
              exact absurd hnone hnext
            · exact Option.some_ne_none _
            · rename_i visited hvisited
              refine ihall visited (fun target htarget => htargets target (List.mem_cons_of_mem next htarget)) ?_
              rw [hasNoCycle_visiting adjacency fuel (depth + 1) next entered visited hvisited]
              exact hvisiting
        have hrest := hall (adjacency nodeId) ⟨nodeId :: state.visiting, state.done, max state.maxDepth depth⟩
          (hadjacency nodeId hnode) rfl
        dsimp only
        split
        · rename_i hnone
          exact absurd hnone hrest
        · exact Option.some_ne_none _
        · exact Option.some_ne_none _

namespace WasmClosureGraph

variable {graph : WasmClosureGraph} {matrix : WasmCapabilityMatrixV1} {node : WasmClosureNode}
  {occurrence : WasmClosureInterfaceOccurrence}

/-- The search of a graph that refers to its own nodes only ends. -/
theorem visitEntry_ne_none (h : graph.checkIntegrity = .ok ()) : graph.visitEntry ≠ none := by
  simp only [checkIntegrity, bind_eq_ok, requireClosure_eq_ok] at h
  obtain ⟨_, _, _, hentry, hedges⟩ := h
  have hadjacency : ∀ nodeId ∈ graph.nodeIds, ∀ target ∈ graph.adjacency nodeId, target ∈ graph.nodeIds := by
    intro nodeId _ target htarget
    obtain ⟨edge, hedge, rfl⟩ := List.mem_map.mp htarget
    have hboth := List.all_eq_true.mp hedges edge (List.mem_filter.mp hedge).1
    simp only [Bool.and_eq_true, List.contains_iff_mem] at hboth
    exact hboth.2
  refine hasNoCycle_ne_none hadjacency _ 1 graph.entryNodeId ⟨[], [], 0⟩ (by simpa using hentry)
    List.nodup_nil (List.nil_subset _) ?_
  simp [nodeIds]

/-! ## The providers of an import -/

/-- The providers collected are those found before and those of the exports that may provide the import,
but for the importing node itself. -/
theorem collectProviders_eq_ok {exports : List (WasmClosureNode × WasmClosureInterfaceOccurrence)}
    {providers result : List (String × String)}
    (h : graph.collectProviders node occurrence exports providers = .ok result) :
    providers ⊆ result ∧
    (∀ entry ∈ result, entry ∈ providers ∨ entry.1 ≠ node.id ∧ ∃ provider exported,
      (provider, exported) ∈ exports ∧ provides node occurrence provider exported = true ∧
      providerOf provider exported = entry.1 ∧ exported.typeTag = entry.2) ∧
    ∀ provider exported, (provider, exported) ∈ exports →
      provides node occurrence provider exported = true →
      providerOf provider exported = node.id ∨ ∃ typeTag, (providerOf provider exported, typeTag) ∈ result := by
  induction exports generalizing providers with
  | nil =>
    cases h
    exact ⟨List.Subset.refl _, fun entry hentry => .inl hentry, fun _ _ hmem => absurd hmem List.not_mem_nil⟩
  | cons head rest ih =>
    obtain ⟨provider, exported⟩ := head
    have hskip : graph.collectProviders node occurrence rest providers = .ok result →
        (provides node occurrence provider exported = true →
          providerOf provider exported = node.id ∨
            ∃ typeTag, (providerOf provider exported, typeTag) ∈ providers) →
        providers ⊆ result ∧
        (∀ entry ∈ result, entry ∈ providers ∨ entry.1 ≠ node.id ∧ ∃ provider' exported',
          (provider', exported') ∈ (provider, exported) :: rest ∧
          provides node occurrence provider' exported' = true ∧
          providerOf provider' exported' = entry.1 ∧ exported'.typeTag = entry.2) ∧
        ∀ provider' exported', (provider', exported') ∈ (provider, exported) :: rest →
          provides node occurrence provider' exported' = true →
          providerOf provider' exported' = node.id ∨
            ∃ typeTag, (providerOf provider' exported', typeTag) ∈ result := by
      intro hrest hhead
      obtain ⟨hsub, hfound, hcovered⟩ := ih hrest
      refine ⟨hsub, ?_, ?_⟩
      · intro entry hentry
        rcases hfound entry hentry with hold | ⟨hne, provider', exported', hmem, hnew⟩
        · exact .inl hold
        · exact .inr ⟨hne, provider', exported', List.mem_cons_of_mem _ hmem, hnew⟩
      · intro provider' exported' hmem hprovides
        rcases List.mem_cons.mp hmem with heq | hmem
        · cases heq
          rcases hhead hprovides with hself | ⟨typeTag, hknown⟩
          · exact .inl hself
          · exact .inr ⟨typeTag, hsub hknown⟩
        · exact hcovered provider' exported' hmem hprovides
    unfold collectProviders at h
    split at h
    · rename_i hnot
      exact hskip h fun hprovides => by simp [hprovides] at hnot
    · rename_i hprovides
      split at h
      · cases h
      · split at h
        · rename_i hself
          exact hskip h fun _ => .inl hself
        · rename_i hother
          split at h
          · cases h
          · split at h
            · rename_i hknown
              obtain ⟨typeTag, htag⟩ := Option.isSome_iff_exists.mp hknown
              refine hskip h fun _ => .inr ⟨typeTag, ?_⟩
              obtain ⟨before, after, heq, _⟩ := List.lookup_eq_some_iff.mp htag
              rw [heq]
              exact List.mem_append_right _ List.mem_cons_self
            · obtain ⟨hsub, hfound, hcovered⟩ := ih h
              refine ⟨fun entry hentry => hsub (List.mem_append_left _ hentry), ?_, ?_⟩
              · intro entry hentry
                rcases hfound entry hentry with hold | ⟨hne, provider', exported', hmem, hnew⟩
                · rcases List.mem_append.mp hold with hold | hold
                  · exact .inl hold
                  · rw [List.mem_singleton.mp hold]
                    exact .inr ⟨hother, provider, exported, List.mem_cons_self, by simpa using hprovides,
                      rfl, rfl⟩
                · exact .inr ⟨hne, provider', exported', List.mem_cons_of_mem _ hmem, hnew⟩
              · intro provider' exported' hmem hprovides'
                rcases List.mem_cons.mp hmem with heq | hmem
                · cases heq
                  exact .inr ⟨exported.typeTag,
                    hsub (List.mem_append_right _ (List.mem_singleton_self _))⟩
                · exact hcovered provider' exported' hmem hprovides'

/-! ## The resolution of an import -/

/-- Some other node exports the interface of an import. -/
def ExportedElsewhere (graph : WasmClosureGraph) (node : WasmClosureNode)
    (occurrence : WasmClosureInterfaceOccurrence) : Prop :=
  ∃ provider exported, (provider, exported) ∈ graph.occurrences ∧ provider.id ≠ node.id ∧
    exported.direction = .exports ∧ exported.package = occurrence.package ∧
    exported.interface = occurrence.interface

/-- An import has one provider in the graph, with its type: all exports that may provide it come from one
other node, but for re-exports of the importing node, and one of them has the import's type tag. -/
def ResolvedInside (graph : WasmClosureGraph) (node : WasmClosureNode)
    (occurrence : WasmClosureInterfaceOccurrence) : Prop :=
  ∃ providerId, providerId ≠ node.id ∧
    (∀ provider exported, (provider, exported) ∈ graph.occurrences →
      provides node occurrence provider exported = true →
      providerOf provider exported = node.id ∨ providerOf provider exported = providerId) ∧
    ∃ provider exported, (provider, exported) ∈ graph.occurrences ∧
      provides node occurrence provider exported = true ∧ providerOf provider exported = providerId ∧
      exported.typeTag = occurrence.typeTag

theorem exportedElsewhere_iff : ExportedElsewhere graph node occurrence ↔
    ∃ provider exported, (provider, exported) ∈ graph.occurrences ∧
      provides node occurrence provider exported = true := by
  simp only [ExportedElsewhere, provides, Bool.and_eq_true, bne_iff_ne, beq_iff_eq, ne_eq, and_assoc]

/-- What an import resolves to: nothing if it has its provider inside, else a host import that the matrix
allows. -/
theorem resolveOccurrence_eq_ok {resolved : Option WasmImportCapability}
    (h : graph.resolveOccurrence matrix node occurrence = .ok resolved)
    (himport : occurrence.direction = .imports) :
    (resolved = none ∧ ResolvedInside graph node occurrence) ∨
      (resolved = some (hostImport occurrence.package occurrence.interface) ∧
        classifyWasmHostImport matrix occurrence.package occurrence.interface = .ok () ∧
        ∀ provider exported, (provider, exported) ∈ graph.occurrences →
          provides node occurrence provider exported = true → providerOf provider exported = node.id) := by
  simp only [resolveOccurrence, bind_eq_ok, requireClosure_eq_ok] at h
  obtain ⟨_, _, h⟩ := h
  split at h
  · cases h
  · rw [if_neg (not_not_intro himport)] at h
    obtain ⟨providers, hproviders, h⟩ := bind_eq_ok.mp h
    obtain ⟨_, hfound, hcovered⟩ := collectProviders_eq_ok hproviders
    split at h
    · rename_i hsome
      simp only [bind_eq_ok, requireClosure_eq_ok] at h
      obtain ⟨_, htags, _, hone, h⟩ := h
      have hone : providers.length ≤ 1 := by simpa using hone
      obtain ⟨⟨providerId, typeTag⟩, hproviders⟩ : ∃ entry, providers = [entry] := by
        cases providers with
        | nil => exact absurd rfl hsome
        | cons entry rest =>
          cases rest with
          | nil => exact ⟨entry, rfl⟩
          | cons _ _ => simp only [List.length_cons] at hone; omega
      subst hproviders
      cases h
      have htag : typeTag = occurrence.typeTag := by simpa using htags
      rcases hfound _ (List.mem_singleton_self _) with hnone | ⟨hne, provider, exported, hmem, hprovides, hid, hown⟩
      · cases hnone
      · refine .inl ⟨rfl, providerId, hne, ?_, provider, exported, hmem, hprovides, hid, hown.trans htag⟩
        intro provider' exported' hmem' hprovides'
        rcases hcovered provider' exported' hmem' hprovides' with hself | ⟨_, hentry⟩
        · exact .inl hself
        · exact .inr (Prod.mk.inj (List.mem_singleton.mp hentry)).1
    · rename_i hempty
      have hempty : providers = [] := Decidable.not_not.mp hempty
      subst hempty
      obtain ⟨⟨⟩, hclassify, h⟩ := bind_eq_ok.mp h
      cases h
      refine .inr ⟨rfl, hclassify, fun provider exported hmem hprovides => ?_⟩
      rcases hcovered provider exported hmem hprovides with hself | ⟨_, hentry⟩
      · exact hself
      · cases hentry

/-- An occurrence that is no import needs no host import. -/
theorem resolveOccurrence_exports {resolved : Option WasmImportCapability}
    (h : graph.resolveOccurrence matrix node occurrence = .ok resolved)
    (hexport : occurrence.direction ≠ .imports) : resolved = none := by
  simp only [resolveOccurrence, bind_eq_ok, requireClosure_eq_ok] at h
  obtain ⟨_, _, h⟩ := h
  split at h
  · cases h
  · rw [if_pos hexport] at h
    cases h
    rfl

/-- The discovered host imports are those found before and those of the occurrences, each once. -/
theorem discover_eq_ok {rest : List (WasmClosureNode × WasmClosureInterfaceOccurrence)}
    {discovered result : List WasmImportCapability}
    (h : graph.discover matrix rest discovered = .ok result) :
    discovered ⊆ result ∧ (discovered.Nodup → result.Nodup) ∧
    (∀ node occurrence, (node, occurrence) ∈ rest → ∃ resolved,
      graph.resolveOccurrence matrix node occurrence = .ok resolved ∧
      ∀ capability, resolved = some capability → capability ∈ result) ∧
    ∀ capability ∈ result, capability ∈ discovered ∨ ∃ node occurrence, (node, occurrence) ∈ rest ∧
      graph.resolveOccurrence matrix node occurrence = .ok (some capability) := by
  induction rest generalizing discovered with
  | nil =>
    cases h
    exact ⟨List.Subset.refl _, fun hnodup => hnodup, fun _ _ hmem => absurd hmem List.not_mem_nil,
      fun capability hmem => .inl hmem⟩
  | cons head rest ih =>
    obtain ⟨node, occurrence⟩ := head
    unfold discover at h
    obtain ⟨resolved, hresolve, h⟩ := bind_eq_ok.mp h
    cases resolved with
    | none =>
      obtain ⟨hsub, hnodup, hall, hback⟩ := ih h
      refine ⟨hsub, hnodup, ?_, ?_⟩
      · intro node' occurrence' hmem
        rcases List.mem_cons.mp hmem with heq | hmem
        · cases heq
          exact ⟨none, hresolve, fun _ hnone => by cases hnone⟩
        · exact hall node' occurrence' hmem
      · intro capability hmem
        rcases hback capability hmem with hold | ⟨node', occurrence', hmem', hnew⟩
        · exact .inl hold
        · exact .inr ⟨node', occurrence', List.mem_cons_of_mem _ hmem', hnew⟩
    | some capability =>
      dsimp only at h
      obtain ⟨hsub, hnodup, hall, hback⟩ := ih h
      have hmem : capability ∈ result := by
        refine hsub ?_
        split
        · assumption
        · exact List.mem_append_right _ (List.mem_singleton_self _)
      refine ⟨?_, ?_, ?_, ?_⟩
      · refine List.Subset.trans ?_ hsub
        split
        · exact List.Subset.refl _
        · exact List.subset_append_left _ _
      · intro hbefore
        refine hnodup ?_
        split
        · exact hbefore
        · rename_i hnew
          rw [List.nodup_append]
          refine ⟨hbefore, List.nodup_singleton _, ?_⟩
          intro other hother single hsingle heq
          rw [List.mem_singleton.mp hsingle] at heq
          exact hnew (heq ▸ hother)
      · intro node' occurrence' hmem'
        rcases List.mem_cons.mp hmem' with heq | hmem'
        · cases heq
          refine ⟨some capability, hresolve, fun capability' heq => ?_⟩
          cases heq
          exact hmem
        · exact hall node' occurrence' hmem'
      · intro capability' hmem'
        rcases hback capability' hmem' with hold | ⟨node', occurrence', hin, hnew⟩
        · split at hold
          · exact .inl hold
          · rcases List.mem_append.mp hold with hold | hold
            · exact .inl hold
            · rw [List.mem_singleton.mp hold]
              exact .inr ⟨node, occurrence, List.mem_cons_self, hresolve⟩
        · exact .inr ⟨node', occurrence', List.mem_cons_of_mem _ hin, hnew⟩

end WasmClosureGraph

/-! ## Accepted graphs -/

open WasmClosureGraph

/-- What an accepted graph covers. -/
structure ClosureCovered (graph : WasmClosureGraph) (matrix : WasmCapabilityMatrixV1)
    (discovered : List WasmImportCapability) : Prop where
  /-- An import that no other node exports is discovered, allowed and declared. -/
  external : ∀ node occurrence, (node, occurrence) ∈ graph.occurrences → occurrence.direction = .imports →
    ¬ ExportedElsewhere graph node occurrence →
    hostImport occurrence.package occurrence.interface ∈ discovered ∧
      classifyWasmHostImport matrix occurrence.package occurrence.interface = .ok () ∧
      hostImport occurrence.package occurrence.interface ∈ graph.declaredHostImports
  /-- An import that another node exports has one provider, with its type, or it is discovered, allowed and
  declared as well. -/
  provided : ∀ node occurrence, (node, occurrence) ∈ graph.occurrences → occurrence.direction = .imports →
    ResolvedInside graph node occurrence ∨
      hostImport occurrence.package occurrence.interface ∈ discovered ∧
        classifyWasmHostImport matrix occurrence.package occurrence.interface = .ok () ∧
        hostImport occurrence.package occurrence.interface ∈ graph.declaredHostImports
  /-- Each discovered host import is an import of a node that no other node provides, once. -/
  needed : discovered.Nodup ∧ ∀ capability ∈ discovered, ∃ node occurrence,
    (node, occurrence) ∈ graph.occurrences ∧ occurrence.direction = .imports ∧
    capability = hostImport occurrence.package occurrence.interface ∧
    ∀ provider exported, (provider, exported) ∈ graph.occurrences →
      provides node occurrence provider exported = true → providerOf provider exported = node.id

/-- An interface with the tag of one type identity. -/
def witInterface (package interface : String) (direction : WasmCapabilityDirection)
    (providerAlias : Option String) : WasmClosureInterfaceOccurrence :=
  ⟨package, interface, direction, "wit:v1:" ++ package ++ "/" ++ interface, providerAlias⟩

def componentNode (id : String) (interfaces : List WasmClosureInterfaceOccurrence) : WasmClosureNode :=
  ⟨id, .component, interfaces, [], [], []⟩

/-- A graph of components with the entry `n0`. -/
def componentGraph (nodes : List WasmClosureNode) (edges : List WasmClosureEdge)
    (declared : List WasmImportCapability) : WasmClosureGraph where
  world := wasmWorldLiteral
  hostAbi := wasmHostAbiLiteral
  entryNodeId := "n0"
  nodes := nodes
  edges := edges
  declaredHostImports := declared
  budget := ⟨64, 64, 8⟩

/-- A handler composed of two nested components; both it and the first of them import the HTTP types. -/
def composedHandler : WasmClosureGraph :=
  componentGraph
    [componentNode "n0"
      [witInterface "wasi:http@0.2.8" "types" .imports none,
        witInterface "wasi:http@0.2.8" "incoming-handler" .exports (some "n1")],
      componentNode "n1"
        [witInterface "wasi:http@0.2.8" "types" .imports none,
          witInterface "acme:logic@1.0.0" "render" .imports none,
          witInterface "wasi:http@0.2.8" "incoming-handler" .exports none],
      componentNode "n2" [witInterface "acme:logic@1.0.0" "render" .exports none]]
    [⟨"n0", "n1"⟩, ⟨"n0", "n2"⟩] [hostImport "wasi:http@0.2.8" "types"]

/-- A handler that imports sockets, with a nested component that exports an interface of that name and type
and that nothing else uses. -/
def shadowedImport : WasmClosureGraph :=
  componentGraph
    [componentNode "n0"
      [witInterface "wasi:sockets@0.2.8" "tcp" .imports none,
        witInterface "wasi:http@0.2.8" "incoming-handler" .exports none],
      componentNode "n1" [witInterface "wasi:sockets@0.2.8" "tcp" .exports none]]
    [⟨"n0", "n1"⟩] []

end Iweb
