import Iweb.Admission.Vectors
import Iweb.Registry.KindRegistry

/-!
# Proofs: the kind registry opens again after every crash

As long as no application is called `index`, the files of bindings and the file of the index are apart: a
write of a binding leaves the index and the bindings of its claims alone, and a write of the index leaves
the bindings alone.
-/

namespace Iweb

open Std (ExtTreeMap)
open CrashHoare CrashRefinement

variable {R : KindRegistryRules} {directory : KindDirectory} {index : KindClaimIndexV1}
  {claim : RuntimeKindClaimV1} {base : List RuntimeKindClaimV1}

/-! ## File names -/

theorem bindingFileName_injective {applicationId other : String}
    (h : bindingFileName applicationId = bindingFileName other) : applicationId = other := by
  have hbytes := congrArg bytes h
  unfold bindingFileName at hbytes
  rw [bytes_append, bytes_append] at hbytes
  exact bytes_injective (List.append_cancel_right hbytes)

theorem indexFileName_eq : indexFileName = bindingFileName "index" := rfl

/-- Only the application `index` has the file of the index. -/
theorem bindingFileName_ne_indexFileName {applicationId : String} (h : applicationId ≠ "index") :
    bindingFileName applicationId ≠ indexFileName := by
  rw [indexFileName_eq]
  exact fun heq => h (bindingFileName_injective heq)

/-! ## What the directory holds -/

/-- A directory stores a valid index with one revision for each claim, and the binding of every claim. -/
structure Stored (R : KindRegistryRules) (directory : KindDirectory) (index : KindClaimIndexV1) : Prop where
  file : (directory[indexFileName]? = none ∧ index = .empty) ∨
    directory[indexFileName]? = some (.index index)
  valid : validateKindClaimIndex R index = .ok ()
  count : index.registryRevision = index.claims.length
  bindings : ∀ claim ∈ index.claims,
    directory[bindingFileName claim.applicationId]? = some (.binding (bindingFromClaim claim))
  names : ∀ claim ∈ index.claims, claim.applicationId ≠ "index"

theorem stored_empty : Stored R ∅ .empty := by
  refine ⟨.inl ⟨FiniteMap.getElem?_empty _, rfl⟩, rfl, rfl, ?_, ?_⟩
  · intro claim hclaim
    cases hclaim
  · intro claim hclaim
    cases hclaim

/-- The claims of a stored index are strictly sorted. -/
theorem Stored.sorted (h : Stored R directory index) : claimsStrictlySorted index.claims = true := by
  have hvalid := h.valid
  simp only [validateKindClaimIndex, bind_eq_ok, require_eq_ok] at hvalid
  obtain ⟨-, -, -, -, -, -, hsorted⟩ := hvalid
  exact hsorted

/-- A stored index loads. -/
theorem Stored.loads (h : Stored R directory index) :
    loadKindRegistry R directory = .ok { WasmKernelRouteRegistryV1.empty with index := index } := by
  unfold loadKindRegistry
  rcases h.file with ⟨hnone, rfl⟩ | hsome
  · rw [hnone]
    rfl
  · rw [hsome]
    simp [parseIndex, h.valid, bind, Except.bind, pure, Except.pure]

/-- The binding of an application without a claim may be written. -/
theorem Stored.writeBinding (h : Stored R directory index) {applicationId : String}
    (hname : applicationId ≠ "index") (hfresh : ∀ claim ∈ index.claims, claim.applicationId ≠ applicationId)
    (file : KindFile) : Stored R (directory.insert (bindingFileName applicationId) file) index := by
  have hindex : (directory.insert (bindingFileName applicationId) file)[indexFileName]? =
      directory[indexFileName]? :=
    FiniteMap.getElem?_insert_of_ne _ _ (bindingFileName_ne_indexFileName hname).symm
  refine ⟨by rw [hindex]; exact h.file, h.valid, h.count, ?_, h.names⟩
  intro claim hclaim
  rw [FiniteMap.getElem?_insert_of_ne]
  · exact h.bindings claim hclaim
  · exact fun heq => hfresh claim hclaim (bindingFileName_injective heq)

theorem mem_push : claim ∈ (index.push claim).claims := by
  simp [KindClaimIndexV1.push, sortClaims]

theorem mem_push_iff {other : RuntimeKindClaimV1} :
    other ∈ (index.push claim).claims ↔ other ∈ index.claims ∨ other = claim := by
  simp [KindClaimIndexV1.push, sortClaims]

/-- The next index may be written once the binding of its new claim is. -/
theorem Stored.writeIndex (h : Stored R directory index)
    (hbinding : directory[bindingFileName claim.applicationId]? = some (.binding (bindingFromClaim claim)))
    (hname : claim.applicationId ≠ "index") (hvalid : validateKindClaimIndex R (index.push claim) = .ok ()) :
    Stored R (directory.insert indexFileName (.index (index.push claim))) (index.push claim) := by
  have hclaims (other : RuntimeKindClaimV1) (hother : other ∈ (index.push claim).claims) :
      other.applicationId ≠ "index" ∧
        directory[bindingFileName other.applicationId]? = some (.binding (bindingFromClaim other)) := by
    rcases mem_push_iff.mp hother with hold | rfl
    · exact ⟨h.names other hold, h.bindings other hold⟩
    · exact ⟨hname, hbinding⟩
  refine ⟨.inr (FiniteMap.getElem?_insert_self _ _ _), hvalid, ?_, ?_, fun other hother => (hclaims other hother).1⟩
  · simp [KindClaimIndexV1.push, sortClaims, h.count]
  · intro other hother
    obtain ⟨hother', hfile⟩ := hclaims other hother
    rw [FiniteMap.getElem?_insert_of_ne _ _ (bindingFileName_ne_indexFileName hother')]
    exact hfile

/-! ## Claims -/

theorem claim_eq_none {registry : WasmKernelRouteRegistryV1} {applicationId : String}
    (h : registry.claim applicationId = none) :
    ∀ claim ∈ registry.index.claims, claim.applicationId ≠ applicationId := by
  intro claim hclaim
  have hno := List.find?_eq_none.mp h claim hclaim
  simpa using hno

theorem claim_eq_some {registry : WasmKernelRouteRegistryV1} {applicationId : String}
    (h : registry.claim applicationId = some claim) :
    claim ∈ registry.index.claims ∧ claim.applicationId = applicationId := by
  refine ⟨List.mem_of_find?_eq_some h, ?_⟩
  have heq := List.find?_some h
  simpa using heq

/-- The registry in memory has the stored index, with the claims of `base` among its own. -/
def KindInv (R : KindRegistryRules) (base : List RuntimeKindClaimV1) (s : KindState) : Prop :=
  Stored R s.directory s.registry.index ∧ base ⊆ s.registry.index.claims

theorem KindInv.mono {base' : List RuntimeKindClaimV1} {s : KindState} (h : KindInv R base s)
    (hsub : base' ⊆ base) : KindInv R base' s :=
  ⟨h.1, fun _ hclaim => h.2 (hsub hclaim)⟩

/-- Adding a claim of a new application. -/
theorem addClaim_triple (hname : claim.applicationId ≠ "index")
    (hfresh : ∀ other ∈ index.claims, other.applicationId ≠ claim.applicationId) :
    Triple (fun s => KindInv R base s ∧ s.registry.index = index) (addClaim R index claim)
      (fun _ => KindInv R (claim :: base)) (fun _ => KindInv R base) (KindInv R base) := by
  unfold addClaim
  refine Triple.bind (Q := fun _ s => (KindInv R base s ∧ s.registry.index = index) ∧
      validateKindClaimIndex R (index.push claim) = .ok ())
    (Triple.lift (fun s _ hs hvalid => ⟨hs, hvalid⟩) (fun s _ hs _ => hs.1)) fun _ => ?_
  refine Triple.bind (Q := fun _ s => (KindInv R base s ∧ s.registry.index = index) ∧
      validateKindClaimIndex R (index.push claim) = .ok () ∧
      s.directory[bindingFileName claim.applicationId]? = some (.binding (bindingFromClaim claim))) ?_ fun _ => ?_
  · refine (Triple.write_total ?_ fun _ s hs => hs.1.1).consequence (fun _ h => h) (fun _ _ h => h)
      (fun _ _ h => h.elim) fun _ h => h
    rintro s ⟨⟨⟨hstored, hbase⟩, hindex⟩, hvalid⟩
    have hbinding := hstored.writeBinding hname (by rw [hindex]; exact hfresh)
      (.binding (bindingFromClaim claim))
    exact ⟨_, (), rfl, ⟨⟨hbinding, hbase⟩, hindex⟩, hvalid, FiniteMap.getElem?_insert_self _ _ _⟩
  · refine (Triple.write_total ?_ fun _ s hs => hs.mono (List.subset_cons_self claim base)).consequence
      (fun _ h => h) (fun _ _ h => h) (fun _ _ h => h.elim) fun _ h => h
    rintro s ⟨⟨⟨hstored, hbase⟩, hindex⟩, hvalid, hbinding⟩
    rw [hindex] at hstored hbase
    refine ⟨_, (), rfl, hstored.writeIndex hbinding hname hvalid, ?_⟩
    intro other hother
    rcases List.mem_cons.mp hother with rfl | hold
    · exact mem_push
    · exact mem_push_iff.mpr (.inl (hbase hold))

/-- The index binds an application to a kind. -/
def Bound (index : KindClaimIndexV1) (p : String × String) : Prop :=
  ∃ claim ∈ index.claims, claim.applicationId = p.1 ∧ claim.runtimeKind = p.2

/-- A step without a write. -/
theorem lift_triple {α : Type} {P C : KindState → Prop} (hC : ∀ s, P s → C s) (x : Except KernelError α) :
    Triple P (Prog.lift x : KindProg α) (fun _ => P) (fun _ => C) C :=
  Triple.lift (fun _ _ hs _ => hs) fun s _ hs _ => hC s hs

theorem claimRuntimeKind_triple {applicationId runtimeKind : String} {expected : Nat}
    (hname : applicationId ≠ "index") :
    Triple (KindInv R base) (claimRuntimeKind R applicationId runtimeKind expected)
      (fun _ s => KindInv R base s ∧ Bound s.registry.index (applicationId, runtimeKind))
      (fun _ => KindInv R base) (KindInv R base) := by
  unfold claimRuntimeKind
  refine Triple.bind (Q := fun registry s => KindInv R base s ∧ s.registry = registry)
    (Triple.read fun s hs => ⟨hs, rfl⟩) fun registry => ?_
  refine Triple.bind (lift_triple (fun s hs => hs.1) _) fun _ => ?_
  refine Triple.bind (lift_triple (fun s hs => hs.1) _) fun _ => ?_
  refine Triple.bind (lift_triple (fun s hs => hs.1) _) fun _ => ?_
  cases hclaim : registry.claim applicationId with
  | some existing =>
    obtain ⟨hmem, happ⟩ := claim_eq_some hclaim
    refine Triple.bind (Q := fun _ s => (KindInv R base s ∧ s.registry = registry) ∧
      existing.runtimeKind = runtimeKind) ?_ fun _ => ?_
    · refine Triple.lift (fun s _ hs hkind => ⟨hs, ?_⟩) fun s _ hs _ => hs.1
      simpa using hkind
    · refine Triple.pure ?_
      rintro s ⟨⟨hs, rfl⟩, hkind⟩
      exact ⟨hs, existing, hmem, happ, hkind⟩
  | none =>
    refine Triple.bind (lift_triple (fun s hs => hs.1) _) fun _ => ?_
    refine Triple.bind (Q := fun _ => KindInv R (newKindClaim R applicationId runtimeKind :: base)) ?_ fun _ => ?_
    · refine (addClaim_triple hname (claim_eq_none hclaim)).consequence ?_ (fun _ _ h => h) (fun _ _ h => h)
        fun _ h => h
      rintro s ⟨hs, rfl⟩
      exact ⟨hs, rfl⟩
    · refine Triple.pure fun s hs => ⟨hs.mono (List.subset_cons_self _ _), ?_⟩
      exact ⟨newKindClaim R applicationId runtimeKind, hs.2 List.mem_cons_self, rfl, rfl⟩

theorem insertAdmittedRow_triple {proof : AdmissionProofV1} {p : String × String} :
    Triple (fun s => KindInv R base s ∧ Bound s.registry.index p) (insertAdmittedRow R proof)
      (fun _ s => KindInv R base s ∧ Bound s.registry.index p) (fun _ => KindInv R base) (KindInv R base) :=
  Triple.write (fun _ hs => hs.1) (fun _ _ hs _ => hs) fun _ _ hs _ => hs.1

theorem applyKindTransaction_triple (transaction : PendingKindTransaction)
    (hname : transaction.proof.applicationId ≠ "index") :
    Triple (KindInv R base) (applyKindTransaction R transaction)
      (fun _ s => KindInv R base s ∧ Bound s.registry.index (transaction.proof.applicationId, runtimeKindWasm))
      (fun _ => KindInv R base) (KindInv R base) := by
  unfold applyKindTransaction
  refine Triple.bind (lift_triple (fun _ hs => hs) _) fun _ => ?_
  exact Triple.bind (claimRuntimeKind_triple hname) fun _ => insertAdmittedRow_triple

theorem mergeRouteDerivedClaim_triple (hname : claim.applicationId ≠ "index") :
    Triple (KindInv R base) (mergeRouteDerivedClaim R claim) (fun _ => KindInv R (claim :: base))
      (fun _ => KindInv R base) (KindInv R base) := by
  unfold mergeRouteDerivedClaim
  refine Triple.bind (Q := fun registry s => KindInv R base s ∧ s.registry = registry)
    (Triple.read fun s hs => ⟨hs, rfl⟩) fun registry => ?_
  cases hclaim : registry.claim claim.applicationId with
  | some existing =>
    by_cases hsame : existing = claim
    · subst hsame
      simp only [beq_self_eq_true, if_true]
      refine Triple.pure ?_
      rintro s ⟨hs, rfl⟩
      refine ⟨hs.1, ?_⟩
      intro other hother
      rcases List.mem_cons.mp hother with rfl | hold
      · exact (claim_eq_some hclaim).1
      · exact hs.2 hold
    · simp only [beq_iff_eq, if_neg hsame]
      split
      · exact Triple.lift (fun _ _ _ h => nomatch h) fun s _ hs _ => hs.1
      · exact Triple.lift (fun _ _ _ h => nomatch h) fun s _ hs _ => hs.1
  | none =>
    refine (addClaim_triple hname (claim_eq_none hclaim)).consequence ?_ (fun _ _ h => h) (fun _ _ h => h)
      fun _ h => h
    rintro s ⟨hs, rfl⟩
    exact ⟨hs, rfl⟩

/-- A merge adds its claims one by one. -/
theorem mergeRouteDerivedClaims_triple (derived : List RuntimeKindClaimV1)
    (hnames : ∀ claim ∈ derived, claim.applicationId ≠ "index") :
    Triple (KindInv R base) (mergeRouteDerivedClaims R derived) (fun _ => KindInv R (derived ++ base))
      (fun _ => KindInv R base) (KindInv R base) := by
  induction derived generalizing base with
  | nil => exact Triple.pure fun _ hs => hs
  | cons claim rest ih =>
    refine Triple.bind (mergeRouteDerivedClaim_triple (hnames claim List.mem_cons_self)) fun _ => ?_
    have hrest : Triple (KindInv R (claim :: base)) (mergeRouteDerivedClaims R rest)
        (fun _ => KindInv R (rest ++ (claim :: base))) (fun _ => KindInv R (claim :: base))
        (KindInv R (claim :: base)) :=
      ih fun other hother => hnames other (List.mem_cons_of_mem claim hother)
    refine hrest.consequence (fun _ h => h) (fun _ s hs => hs.mono ?_)
      (fun _ s hs => hs.mono (List.subset_cons_self claim base))
      fun s hs => hs.mono (List.subset_cons_self claim base)
    intro other hother
    simp only [List.cons_append, List.mem_cons, List.mem_append] at hother ⊢
    tauto

/-! ## Recovery -/

theorem replayTransactions_triple (pending : List PendingKindTransaction)
    (hnames : ∀ transaction ∈ pending, transaction.proof.applicationId ≠ "index") :
    Triple (KindInv R base) (replayTransactions R pending) (fun _ => KindInv R base)
      (fun _ => KindInv R base) (KindInv R base) := by
  induction pending with
  | nil => exact Triple.pure fun _ hs => hs
  | cons transaction rest ih =>
    refine Triple.bind (applyKindTransaction_triple transaction (hnames transaction List.mem_cons_self)) fun _ => ?_
    have hrest := ih fun other hother => hnames other (List.mem_cons_of_mem transaction hother)
    refine Triple.bind (Q := fun _ => KindInv R base)
      (hrest.consequence (fun _ h => h.1) (fun _ _ h => h) (fun _ _ h => h) fun _ h => h) fun _ => ?_
    exact Triple.pure fun _ hs => hs

/-- The bindings of stored claims agree with the index. -/
theorem recoverBinding_eq {s : KindState} (h : Stored R s.directory s.registry.index)
    (hclaim : claim ∈ s.registry.index.claims) : recoverBinding R claim s = ⟨[], s, .ok ()⟩ := by
  have hfile := h.bindings claim hclaim
  simp [recoverBinding, bind, Prog.bind, Prog.read, Prog.lift, hfile, parseBinding, require]

theorem recoverBindings_eq {s : KindState} (h : Stored R s.directory s.registry.index)
    {claims : List RuntimeKindClaimV1} (hclaims : claims ⊆ s.registry.index.claims) :
    recoverBindings R claims s = ⟨[], s, .ok ()⟩ := by
  induction claims with
  | nil => rfl
  | cons claim rest ih =>
    have hrest := ih fun _ hother => hclaims (List.mem_cons_of_mem claim hother)
    have hfirst := recoverBinding_eq h (hclaims List.mem_cons_self)
    simp [recoverBindings, bind, Prog.bind, hfirst, hrest]

theorem recoverBindings_triple {claims : List RuntimeKindClaimV1} :
    Triple (fun s => KindInv R base s ∧ s.registry.index.claims = claims) (recoverBindings R claims)
      (fun _ => KindInv R base) (fun _ => KindInv R base) (KindInv R base) := by
  rintro s ⟨hs, rfl⟩
  rw [recoverBindings_eq hs.1 (List.Subset.refl _)]
  exact ⟨fun t ht => absurd ht List.not_mem_nil, hs⟩

theorem quarantineOrphans_triple {replayed : List String} :
    Triple (KindInv R base) (quarantineOrphans replayed) (fun _ => KindInv R base) (fun _ => KindInv R base)
      (KindInv R base) :=
  Triple.write (fun _ hs => hs) (fun _ _ hs _ => hs) fun _ _ hs _ => hs

theorem recoverKindRegistry_triple {celldApplicationIds : List String} (pending : List PendingKindTransaction)
    (hnames : ∀ transaction ∈ pending, transaction.proof.applicationId ≠ "index") :
    Triple (KindInv R base) (recoverKindRegistry R celldApplicationIds pending) (fun _ => KindInv R base)
      (fun _ => KindInv R base) (KindInv R base) := by
  unfold recoverKindRegistry
  refine Triple.bind (replayTransactions_triple pending hnames) fun replayed => ?_
  refine Triple.bind (Q := fun registry s => KindInv R base s ∧ s.registry = registry)
    (Triple.read fun s hs => ⟨hs, rfl⟩) fun registry => ?_
  refine Triple.bind (lift_triple (fun s hs => hs.1) _) fun _ => ?_
  refine Triple.bind (Q := fun _ => KindInv R base) ?_ fun _ => quarantineOrphans_triple
  refine recoverBindings_triple.consequence ?_ (fun _ _ h => h) (fun _ _ h => h) fun _ h => h
  rintro s ⟨hs, rfl⟩
  exact ⟨hs, rfl⟩

/-! ## Runs -/

/-- The invariant of a run. -/
structure KindWorldInv (R : KindRegistryRules) (world : KindWorld) (index : KindClaimIndexV1) : Prop where
  stored : Stored R world.directory index
  memory : ∀ registry, world.registry = some registry → registry.index = index
  acknowledged : ∀ p ∈ world.acknowledged, Bound index p

theorem Bound.mono {index' : KindClaimIndexV1} {p : String × String} (h : Bound index p)
    (hsub : index.claims ⊆ index'.claims) : Bound index' p := by
  obtain ⟨claim, hclaim, hp⟩ := h
  exact ⟨claim, hsub hclaim, hp⟩

/-- A call keeps the invariant and every claim of the index. -/
theorem KindWorldInv.call {world : KindWorld} (h : KindWorldInv R world index) {α : Type} {m : KindProg α}
    {acknowledges : α → List (String × String)}
    (hm : Triple (KindInv R index.claims) m
      (fun a s => KindInv R index.claims s ∧ ∀ p ∈ acknowledges a, Bound s.registry.index p)
      (fun _ => KindInv R index.claims) (KindInv R index.claims)) (crash : Option Nat) :
    ∃ index', KindWorldInv R (world.call m acknowledges crash) index' ∧ index.claims ⊆ index'.claims := by
  unfold KindWorld.call
  cases hregistry : world.registry with
  | none => exact ⟨index, ⟨h.stored, h.memory, h.acknowledged⟩, List.Subset.refl _⟩
  | some registry =>
    have hindex := h.memory registry hregistry
    have hstart : KindInv R index.claims ⟨world.directory, registry⟩ := by
      refine ⟨?_, ?_⟩
      · rw [hindex]
        exact h.stored
      · rw [hindex]
        exact List.Subset.refl _
    cases crash with
    | some n =>
      have hleft := Triple.leaves (hm.consequence (fun _ h => h) (fun _ _ h => h.1) (fun _ _ h => h) fun _ h => h)
        (fun _ hs => hs) (some n) hstart
      refine ⟨_, ⟨hleft.1, fun _ hnone => ?_, fun p hp => (h.acknowledged p hp).mono hleft.2⟩, hleft.2⟩
      cases hnone
    | none =>
      obtain ⟨-, hend⟩ := hm _ hstart
      cases hresult : (m ⟨world.directory, registry⟩).result with
      | error failure =>
        rw [hresult] at hend
        simp only [hresult]
        refine ⟨_, ⟨hend.1, fun found hfound => ?_, fun p hp => (h.acknowledged p hp).mono hend.2⟩, hend.2⟩
        rw [← Option.some.inj hfound]
      | ok a =>
        rw [hresult] at hend
        simp only [hresult]
        refine ⟨_, ⟨hend.1.1, fun found hfound => ?_, fun p hp => ?_⟩, hend.1.2⟩
        · rw [← Option.some.inj hfound]
        · rcases List.mem_append.mp hp with hold | hnew
          · exact (h.acknowledged p hold).mono hend.1.2
          · exact hend.2 p hnew

/-- An operation that does not name `index` keeps the invariant and every claim of the index. -/
theorem KindWorldInv.step {world : KindWorld} (h : KindWorldInv R world index) {op : KindOp}
    (hnames : "index" ∉ op.applicationIds) :
    ∃ index', KindWorldInv R (world.step R op) index' ∧ index.claims ⊆ index'.claims := by
  cases op with
  | load =>
    refine ⟨index, ⟨h.stored, fun registry hregistry => ?_, h.acknowledged⟩, List.Subset.refl _⟩
    change (loadKindRegistry R world.directory).toOption = some registry at hregistry
    rw [h.stored.loads] at hregistry
    rw [← Option.some.inj hregistry]
  | claim applicationId runtimeKind expected crash =>
    have hname : applicationId ≠ "index" := fun heq => hnames (by simp [KindOp.applicationIds, heq])
    refine h.call ((claimRuntimeKind_triple hname).consequence (fun _ h => h) ?_ (fun _ _ h => h) fun _ h => h) crash
    rintro _ s ⟨hs, hbound⟩
    exact ⟨hs, fun p hp => by rw [List.mem_singleton.mp hp]; exact hbound⟩
  | register expected proof crash =>
    have hname : proof.applicationId ≠ "index" := fun heq => hnames (by simp [KindOp.applicationIds, heq])
    refine h.call ((applyKindTransaction_triple ⟨expected, proof⟩ hname).consequence
      (fun _ h => h) ?_ (fun _ _ h => h) fun _ h => h) crash
    rintro _ s ⟨hs, hbound⟩
    exact ⟨hs, fun p hp => by rw [List.mem_singleton.mp hp]; exact hbound⟩
  | merge derived crash =>
    have hderived (claim : RuntimeKindClaimV1) (hclaim : claim ∈ derived) : claim.applicationId ≠ "index" :=
      fun heq => hnames (heq ▸ List.mem_map_of_mem hclaim)
    refine h.call ((mergeRouteDerivedClaims_triple derived hderived).consequence (fun _ h => h) ?_
      (fun _ _ h => h) fun _ h => h) crash
    intro _ s hs
    refine ⟨hs.mono (List.subset_append_right derived _), fun p hp => ?_⟩
    obtain ⟨claim, hclaim, rfl⟩ := List.mem_map.mp hp
    exact ⟨claim, hs.2 (List.mem_append_left _ hclaim), rfl, rfl⟩
  | recover celldApplicationIds pending crash =>
    have hpending (transaction : PendingKindTransaction) (hmem : transaction ∈ pending) :
        transaction.proof.applicationId ≠ "index" :=
      fun heq => hnames (heq ▸ List.mem_map_of_mem (f := fun t : PendingKindTransaction => t.proof.applicationId)
        hmem)
    refine h.call ((recoverKindRegistry_triple pending hpending).consequence (fun _ h => h) ?_
      (fun _ _ h => h) fun _ h => h) crash
    exact fun _ s hs => ⟨hs, fun p hp => absurd hp List.not_mem_nil⟩

theorem kindWorldInv_initial : KindWorldInv R .initial .empty := by
  refine ⟨stored_empty, fun registry hregistry => ?_, fun p hp => absurd hp List.not_mem_nil⟩
  cases hregistry

/-- The invariant after a run, which keeps every claim. -/
theorem KindWorldInv.run {world : KindWorld} (h : KindWorldInv R world index) {ops : List KindOp}
    (hnames : ∀ op ∈ ops, "index" ∉ op.applicationIds) :
    ∃ index', KindWorldInv R (run (KindWorld.step R) world ops) index' ∧ index.claims ⊆ index'.claims := by
  induction ops generalizing world index with
  | nil => exact ⟨index, h, List.Subset.refl _⟩
  | cons op ops ih =>
    obtain ⟨middle, hmiddle, hfirst⟩ := h.step (hnames op List.mem_cons_self)
    obtain ⟨index', hindex', hrest⟩ := ih hmiddle fun other hother => hnames other (List.mem_cons_of_mem op hother)
    exact ⟨index', hindex', List.Subset.trans hfirst hrest⟩

/-! ## The result -/

/-- In strictly sorted claims the first is below all others. -/
theorem lt_of_claimsStrictlySorted {first other : RuntimeKindClaimV1} {rest : List RuntimeKindClaimV1}
    (h : claimsStrictlySorted (first :: rest) = true) (hother : other ∈ rest) :
    bytes first.applicationId < bytes other.applicationId := by
  induction rest generalizing first with
  | nil => cases hother
  | cons second rest ih =>
    simp only [claimsStrictlySorted, Bool.and_eq_true, decide_eq_true_eq] at h
    rcases List.mem_cons.mp hother with rfl | hrest
    · exact h.1
    · exact List.lt_trans h.1 (ih h.2 hrest)

/-- Strictly sorted claims have one claim for each application. -/
theorem claim_unique {claims : List RuntimeKindClaimV1} (h : claimsStrictlySorted claims = true)
    {a b : RuntimeKindClaimV1} (ha : a ∈ claims) (hb : b ∈ claims) (hsame : a.applicationId = b.applicationId) :
    a = b := by
  induction claims with
  | nil => cases ha
  | cons first rest ih =>
    have hrest : claimsStrictlySorted rest = true := by
      cases rest with
      | nil => rfl
      | cons second rest =>
        simp only [claimsStrictlySorted, Bool.and_eq_true] at h
        exact h.2
    rcases List.mem_cons.mp ha with rfl | harest
    · rcases List.mem_cons.mp hb with rfl | hbrest
      · rfl
      · have hlt := lt_of_claimsStrictlySorted h hbrest
        rw [hsame] at hlt
        exact absurd hlt (List.lt_irrefl _)
    · rcases List.mem_cons.mp hb with rfl | hbrest
      · have hlt := lt_of_claimsStrictlySorted h harest
        rw [hsame] at hlt
        exact absurd hlt (List.lt_irrefl _)
      · exact ih hrest harest hbrest

/-- Acknowledged celld applications have neither wasm rows nor wasm claims after a load. -/
theorem checkSplitBrain_loaded (h : Stored R directory index) {celldApplicationIds : List String}
    (hcelld : ∀ id ∈ celldApplicationIds, Bound index (id, runtimeKindCelld)) :
    checkSplitBrain { WasmKernelRouteRegistryV1.empty with index := index } celldApplicationIds = .ok () := by
  refine forM_eq_ok fun id hid => ?_
  have hrows : ({ WasmKernelRouteRegistryV1.empty with index := index } : WasmKernelRouteRegistryV1).wasmRows = [] :=
    rfl
  have hclaims : id ∉ ({ WasmKernelRouteRegistryV1.empty with index := index } :
      WasmKernelRouteRegistryV1).wasmClaims := by
    intro hmem
    obtain ⟨wasm, hwasm, happ⟩ := List.mem_map.mp hmem
    obtain ⟨hwasm, hkind⟩ := List.mem_filter.mp hwasm
    obtain ⟨celld, hcelld, happ', hkind'⟩ := hcelld id hid
    have hsame := claim_unique h.sorted hwasm hcelld (by rw [happ, happ'])
    have hne : (runtimeKindCelld == runtimeKindWasm) = false := by decide
    rw [hsame, hkind', hne] at hkind
    cases hkind
  simp [require, hrows, hclaims]

/-- A stored index loads and recovers. -/
theorem KindWorldInv.reopens {world : KindWorld} (h : KindWorldInv R world index)
    {celldApplicationIds : List String}
    (hcelld : ∀ id ∈ celldApplicationIds, (id, runtimeKindCelld) ∈ world.acknowledged) :
    KindRegistryReopens R world celldApplicationIds
      { WasmKernelRouteRegistryV1.empty with index := index } := by
  refine ⟨h.stored.loads, ?_, h.acknowledged, h.stored.count, h.stored.sorted⟩
  have hsplit := checkSplitBrain_loaded h.stored fun id hid => h.acknowledged _ (hcelld id hid)
  have hbindings := recoverBindings_eq (R := R)
    (s := ⟨world.directory, { WasmKernelRouteRegistryV1.empty with index := index }⟩) h.stored
    (List.Subset.refl _)
  simp [recoverKindRegistry, replayTransactions, bind, pure, Prog.bind, Prog.pure, Prog.read, Prog.lift, hsplit,
    hbindings, quarantineOrphans, Prog.write]

/-- The kind registry binds an application to one kind for life and always reopens. In every run that does
not name the application `index`, crashed anywhere, the directory loads and recovers with every
acknowledged claim, one revision for each claim, and sorted claims; a claim that was once in the index
stays in it. -/
theorem kind_registry_reopens (ops : List KindOp) (hnames : ∀ op ∈ ops, "index" ∉ op.applicationIds)
    (celldApplicationIds : List String)
    (hcelld : ∀ id ∈ celldApplicationIds,
      (id, runtimeKindCelld) ∈ (run (KindWorld.step R) .initial ops).acknowledged) :
    ∃ registry, KindRegistryReopens R (run (KindWorld.step R) .initial ops) celldApplicationIds registry ∧
      ∀ before after, ops = before ++ after →
        ∃ earlier, loadKindRegistry R (run (KindWorld.step R) .initial before).directory = .ok earlier ∧
          earlier.index.claims ⊆ registry.index.claims := by
  obtain ⟨index, hindex, -⟩ := (kindWorldInv_initial (R := R)).run hnames
  refine ⟨_, hindex.reopens hcelld, ?_⟩
  rintro before after rfl
  obtain ⟨earlier, hearlier, -⟩ := (kindWorldInv_initial (R := R)).run
    fun op hop => hnames op (List.mem_append_left after hop)
  refine ⟨_, hearlier.stored.loads, ?_⟩
  obtain ⟨later, hlater, hkept⟩ := hearlier.run fun op hop => hnames op (List.mem_append_right before hop)
  rw [← run_append] at hlater
  have hsame := hindex.stored.loads
  rw [hlater.stored.loads] at hsame
  have hindexes : later = index := congrArg WasmKernelRouteRegistryV1.index (Except.ok.inj hsame)
  rw [← hindexes]
  exact hkept

/-! ## Runs of the vectors -/

namespace Vectors

/-- The claims of the registry tests, and the one of the application `index`. -/
def kindBindingDigest (applicationId runtimeKind : String) (_ : Nat) : String :=
  if (applicationId, runtimeKind) = ("admin", runtimeKindCelld) then
    "d7a016dab24dfebcb8e12b4156e8b1fd6d70a9d32918fa17f901281527690600"
  else if (applicationId, runtimeKind) = ("vector", runtimeKindWasm) then
    "5cdbc1c45afc1242f171b295ce70a6058cf982d51da1bd952b16db9be9a73664"
  else if (applicationId, runtimeKind) = ("index", runtimeKindWasm) then
    "d2953a52d8bcab2caa87fd5f9be5cf3d0f6db9c4dc9846cab70a9d6ee7e00732"
  else String.ofList (List.replicate 64 '0')

def kindRegistryRules : KindRegistryRules where
  admission := admissionRules
  proofDigest := vectorProofDigest
  kindBindingDigest := kindBindingDigest
  parseError
    | .index _ => "unknown field `claims`, expected one of `schemaVersion`, `applicationId`, `runtimeKind`, " ++
      "`bindingRevision`, `bindingDigest` at line 1 column 9"
    | .binding _ => "unknown field `applicationId`, expected one of `schemaVersion`, `registryRevision`, " ++
      "`claims` at line 1 column 16"

end Vectors

/-- A claim crashes between its two files, the routes claim another application, and the first claim is
made again. -/
theorem kind_registry_reopens_after_crash :
    let ops : List KindOp :=
      [.load, .claim "vector" runtimeKindWasm 0 (some 1), .load,
        .merge [newKindClaim Vectors.kindRegistryRules "admin" runtimeKindCelld] none,
        .register 1 vectorProof none, .recover ["admin"] [] none]
    (run (KindWorld.step Vectors.kindRegistryRules) .initial ops).acknowledged =
        [("admin", runtimeKindCelld), ("vector", runtimeKindWasm)] ∧
      ∃ registry, KindRegistryReopens Vectors.kindRegistryRules
        (run (KindWorld.step Vectors.kindRegistryRules) .initial ops) ["admin"] registry := by
  intro ops
  have hacknowledged : (run (KindWorld.step Vectors.kindRegistryRules) .initial ops).acknowledged =
      [("admin", runtimeKindCelld), ("vector", runtimeKindWasm)] := by decide +kernel
  have hnames : ∀ op ∈ ops, "index" ∉ op.applicationIds := by decide +kernel
  have hcelld : ∀ id ∈ ["admin"],
      (id, runtimeKindCelld) ∈ (run (KindWorld.step Vectors.kindRegistryRules) .initial ops).acknowledged := by
    rw [hacknowledged]
    decide
  obtain ⟨registry, hreopens, -⟩ := kind_registry_reopens ops hnames ["admin"] hcelld
  exact ⟨hacknowledged, registry, hreopens⟩

/-- The application `index` is claimed: its binding is written to the file of the index, and the index over
the binding. The directory loads, but never recovers; and if the claim crashes between its two files, the
directory does not load, with the claims of all other applications. -/
theorem index_application_stops_kind_registry :
    (∀ registry, ¬KindRegistryReopens Vectors.kindRegistryRules
        (run (KindWorld.step Vectors.kindRegistryRules) .initial
          [.load, .claim "index" runtimeKindWasm 0 none]) [] registry) ∧
      ∀ registry, ¬KindRegistryReopens Vectors.kindRegistryRules
        (run (KindWorld.step Vectors.kindRegistryRules) .initial
          [.load, .register 0 vectorProof none, .claim "index" runtimeKindWasm 1 (some 1)]) [] registry := by
  have hrecover : (match loadKindRegistry Vectors.kindRegistryRules
      (run (KindWorld.step Vectors.kindRegistryRules) .initial
        [.load, .claim "index" runtimeKindWasm 0 none]).directory with
      | .ok registry => (recoverKindRegistry Vectors.kindRegistryRules [] []
          ⟨(run (KindWorld.step Vectors.kindRegistryRules) .initial
            [.load, .claim "index" runtimeKindWasm 0 none]).directory, registry⟩).result.isOk
      | .error _ => false) = false := by decide +kernel
  have hload : (loadKindRegistry Vectors.kindRegistryRules
      (run (KindWorld.step Vectors.kindRegistryRules) .initial
        [.load, .register 0 vectorProof none, .claim "index" runtimeKindWasm 1 (some 1)]).directory).isOk =
      false := by decide +kernel
  constructor
  · intro registry hreopens
    obtain ⟨report, hreport⟩ := hreopens.recovers
    rw [hreopens.loads] at hrecover
    simp only [hreport] at hrecover
    cases hrecover
  · intro registry hreopens
    rw [hreopens.loads] at hload
    cases hload

end Iweb
