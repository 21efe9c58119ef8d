import Iweb.Foundations.DescriptorTable
import Iweb.Kernel.Wire
import Mathlib.Data.Int.Notation

/-!
# The descriptor slots of an executed program

The relay holds the snapshot descriptors and starts the program itself: in the forked child the secret goes to
descriptor 3 and the configuration, when there is one, to descriptor 4; the other inherited descriptors are closed up
to a bound, and the program is executed.
-/

namespace Iweb.Relay

open Descriptors

def secretFdSlot : ℕ := 3

def configFdSlot : ℕ := 4

def spawnArgvMaxElements : ℕ := 128

structure FdSpawnRequest where
  program : String
  argv : List String
  secretFd : ℤ
  configFd : Option ℤ

def spawnArgvInvalid : String := "SNAPSHOT_SPAWN_ARGV_INVALID"

def containsNul (text : String) : Bool := text.toList.any (· == '\x00')

def validateSpawnRequest (request : FdSpawnRequest) : Except String Unit :=
  if request.program = "" || containsNul request.program then .error spawnArgvInvalid
  else if request.argv.isEmpty || spawnArgvMaxElements < request.argv.length then .error spawnArgvInvalid
  else if request.argv.any containsNul then .error spawnArgvInvalid
  else if request.argv.head? ≠ some request.program then .error spawnArgvInvalid
  else if request.secretFd < 0 then .error spawnArgvInvalid
  else if request.configFd.any (· < 0) then .error spawnArgvInvalid
  else .ok ()

/-- The bound of the closing loop: 8192, or the soft limit where it is finite and lower. -/
def closingBound (softLimit : Option ℕ) : ℕ :=
  match softLimit with
  | some soft => if soft < 8192 then soft else 8192
  | none => 8192

variable {F : Type}

def closeInheritedDescriptors (softLimit : Option ℕ) (keep : List ℕ) (t : Table F) : Table F :=
  ((List.range' 3 (closingBound softLimit - 3)).filter fun fd => !keep.contains fd).foldl close t

/-- The forked child: the table of the executed program, or `none` when a call fails and the child exits instead. -/
def childTable (request : FdSpawnRequest) (softLimit : Option ℕ) (t : Table F) : Option (Table F) := do
  let t ← (dup2 t request.secretFd.toNat secretFdSlot).bind fun t => setCloseOnExec t secretFdSlot false
  let t ← match request.configFd with
    | some config => (dup2 t config.toNat configFdSlot).bind fun t => setCloseOnExec t configFdSlot false
    | none => some (close t configFdSlot)
  return exec (closeInheritedDescriptors softLimit [secretFdSlot, configFdSlot] t)

/-- The relay refuses an invalid request before it forks. Whether the program can be executed and the fork succeeds is
left to the system. -/
def spawnExecWithSnapshotFds (request : FdSpawnRequest) (softLimit : Option ℕ) (t : Table F) :
    Except String (Option (Table F)) :=
  match validateSpawnRequest request with
  | .error code => .error (code ++ ": the spawn request is not executable")
  | .ok () => .ok (childTable request softLimit t)

/-! ## What the program finds -/

/-- The files of the two snapshots in their slots, the standard descriptors as in the relay, and nothing else. -/
structure SlotsRight (secret : F) (config : Option F) (t t' : Table F) : Prop where
  secret : t'[secretFdSlot]? = some ⟨secret, false⟩
  config : t'[configFdSlot]? = config.map (⟨·, false⟩)
  standard : ∀ fd, fd < 3 → t'[fd]? = t[fd]?
  others : ∀ fd, configFdSlot < fd → t'[fd]? = none

/-- The descriptors of a request: two numbers from 3 on, open and distinct. -/
structure Holds (request : FdSpawnRequest) (t : Table F) (secret : F) (config : Option F) : Prop where
  secret_ge : 3 ≤ request.secretFd
  secret_open : ∃ d, t[request.secretFd.toNat]? = some d ∧ d.file = secret
  config_ge : ∀ fd, request.configFd = some fd → 3 ≤ fd ∧ fd ≠ request.secretFd
  config_open : ∀ fd, request.configFd = some fd → ∃ d, t[fd.toNat]? = some d ∧ config = some d.file
  config_none : request.configFd = none → config = none

/-- The slot of the secret is not where the configuration is held, unless both are one file; the standard descriptors
are inherited; and a descriptor that the closing loop does not reach is closed on execution. -/
structure LayoutSafe (request : FdSpawnRequest) (softLimit : Option ℕ) (t : Table F) (secret : F) (config : Option F) :
    Prop where
  config_apart : request.configFd = some 3 → config = some secret
  standard : ∀ fd, fd < 3 → ∀ d, t[fd]? = some d → d.closeOnExec = false
  beyond : ∀ fd, closingBound softLimit ≤ fd → configFdSlot < fd → ∀ d, t[fd]? = some d → d.closeOnExec = true

end Iweb.Relay
