import Iweb.Foundations.CrashRefinement
import Mathlib.Data.Nat.Notation

/-!
# Handoffs, child processes and their exits

The relay serves its control connections in threads of their own. A spawn forks the child under the lock of the
handoff table, then removes the handoff under the same lock taken again, then registers the child in the child table;
a reaper collects the exits and records them there by process number. Each of these is one step of the system, and the
steps of all threads, of the children and of the reaper interleave in any order.
-/

namespace Iweb.Relay

/-- How many entries the child table keeps. -/
def childTableMax : ℕ := 64

/-! ## The child table -/

structure ChildStatus where
  pid : ℕ
  /-- `none` while the child is running. -/
  exitCode : Option ℕ
deriving DecidableEq

structure ChildEntry where
  command : String
  status : ChildStatus
deriving DecidableEq

/-- The first exited entry is taken out; `none` when all are running. -/
def removeFirstExited : List ChildEntry → Option (List ChildEntry)
  | [] => none
  | e :: entries => if e.status.exitCode.isSome then some entries else (removeFirstExited entries).map (e :: ·)

def evictTimes : ℕ → List ChildEntry → List ChildEntry
  | 0, entries => entries
  | n + 1, entries =>
    match removeFirstExited entries with
    | some rest => evictTimes n rest
    | none => entries

/-- Exited entries are dropped, oldest first, while the table holds too many. -/
def evictLocked (entries : List ChildEntry) : List ChildEntry := evictTimes (entries.length - childTableMax) entries

/-- The first entry of the command takes the new process number unless its exit is known. -/
def replacePid (command : String) (pid : ℕ) : List ChildEntry → List ChildEntry
  | [] => []
  | e :: entries =>
    if e.command = command then
      (if e.status.exitCode.isNone then { e with status := { e.status with pid := pid } } else e) :: entries
    else e :: replacePid command pid entries

def register (command : String) (pid : ℕ) (entries : List ChildEntry) : List ChildEntry :=
  if entries.any (·.command == command) then replacePid command pid entries
  else evictLocked (entries ++ [⟨command, ⟨pid, none⟩⟩])

/-- Every running entry with the process number is marked. -/
def markExit (pid exitCode : ℕ) (entries : List ChildEntry) : List ChildEntry :=
  entries.map fun e =>
    if e.status.pid = pid ∧ e.status.exitCode = none then { e with status := { e.status with exitCode := some exitCode } }
    else e

def recordExit (pid exitCode : ℕ) (entries : List ChildEntry) : List ChildEntry :=
  evictLocked (markExit pid exitCode entries)

/-- What a wait reads: the status of the command, or that the command is unknown. -/
def waitForExit (entries : List ChildEntry) (command : String) : Option ChildStatus :=
  (entries.find? (·.command == command)).map (·.status)

def forget (command : String) (entries : List ChildEntry) : List ChildEntry :=
  entries.filter fun e => !(e.command == command)

/-! ## The system -/

/-- An accepted handoff; each acceptance has its own number. -/
structure Handoff where
  command : String
  isSecret : Bool
  serial : ℕ
deriving DecidableEq

/-- How far the thread of a spawn has come. -/
inductive CallPhase where
  | forked
  | consumed
  | answered
deriving DecidableEq

/-- A child process: running, exited and not collected, in the hands of the reaper, or recorded by it. -/
inductive ProcessPhase where
  | running
  | exited (code : ℕ)
  | collected (code : ℕ)
  | recorded (code : ℕ)
deriving DecidableEq

/-- A started child, with the handoffs it was started with and the spawn that started it. -/
structure Child where
  command : String
  pid : ℕ
  handoffs : List Handoff
  call : CallPhase
  process : ProcessPhase
deriving DecidableEq

structure RelayState where
  held : List Handoff
  nextSerial : ℕ
  children : List Child
  entries : List ChildEntry
  /-- The commands of the discards that have removed the handoff and not yet the entry. -/
  discarding : List String
  /-- The commands that a discard has named. -/
  discarded : List String

def RelayState.initial : RelayState := ⟨[], 0, [], [], [], []⟩

/-- A process number is taken until the child is collected. -/
def Child.occupies (child : Child) (pid : ℕ) : Bool :=
  child.pid == pid && match child.process with
    | .running | .exited _ => true
    | _ => false

inductive RelayEvent where
  /-- A handoff passes the checks of the relay. -/
  | accept (command : String) (isSecret : Bool)
  /-- A spawn finds the handoff and forks; the system gives the child a process number. -/
  | fork (command : String) (pid : ℕ)
  /-- The spawn of a child removes the handoff. -/
  | consume (child : ℕ)
  /-- The spawn registers its child and answers ok. -/
  | register (child : ℕ)
  | exit (child code : ℕ)
  /-- The reaper collects an exited child. -/
  | collect (child : ℕ)
  /-- The reaper records the exit that it has collected. -/
  | record (child : ℕ)
  /-- A discard removes the handoff. -/
  | discard (command : String)
  /-- A discard removes the entry. -/
  | forget (command : String)

def consumeHandoffs (command : String) (held : List Handoff) : List Handoff :=
  held.filter fun h => !(h.command == command)

def RelayState.updateChild (s : RelayState) (i : ℕ) (child : Child) : RelayState :=
  { s with children := s.children.set i child }

/-- One step; an event that cannot happen changes nothing. A wait and a lookup change nothing either. -/
def RelayState.step (s : RelayState) : RelayEvent → RelayState
  | .accept command isSecret =>
    -- a held handoff of the kind is acknowledged again or refused, and stays
    if s.held.any fun h => h.command == command && h.isSecret == isSecret then s
    else { s with held := s.held ++ [⟨command, isSecret, s.nextSerial⟩], nextSerial := s.nextSerial + 1 }
  | .fork command pid =>
    if (s.held.any fun h => h.command == command && h.isSecret) && !s.children.any (·.occupies pid) then
      { s with children := s.children ++
          [⟨command, pid, s.held.filter (·.command == command), .forked, .running⟩] }
    else s
  | .consume i =>
    match s.children[i]? with
    | some child =>
      if child.call = .forked then
        { s.updateChild i { child with call := .consumed } with held := consumeHandoffs child.command s.held }
      else s
    | none => s
  | .register i =>
    match s.children[i]? with
    | some child =>
      if child.call = .consumed then
        { s.updateChild i { child with call := .answered } with
          entries := Relay.register child.command child.pid s.entries }
      else s
    | none => s
  | .exit i code =>
    match s.children[i]? with
    | some child => if child.process = .running then s.updateChild i { child with process := .exited code } else s
    | none => s
  | .collect i =>
    match s.children[i]? with
    | some child =>
      match child.process with
      | .exited code =>
        -- the reaper is one thread: it records before it waits again
        if s.children.any fun c => match c.process with
            | .collected _ => true
            | _ => false then s
        else s.updateChild i { child with process := .collected code }
      | _ => s
    | none => s
  | .record i =>
    match s.children[i]? with
    | some child =>
      match child.process with
      | .collected code =>
        { s.updateChild i { child with process := .recorded code } with
          entries := recordExit child.pid code s.entries }
      | _ => s
    | none => s
  | .discard command =>
    { s with
      held := consumeHandoffs command s.held
      discarding := command :: s.discarding
      discarded := command :: s.discarded }
  | .forget command =>
    if s.discarding.contains command then
      { s with discarding := s.discarding.erase command, entries := Relay.forget command s.entries }
    else s

/-! ## What a wait may rely on -/

/-- One process for each handoff; the exit of a child is reported once the reaper has recorded it, its running before
that; and no exit of another command is reported. -/
structure Truthful (s : RelayState) : Prop where
  once : (s.children.flatMap (·.handoffs)).Nodup
  exit_kept : ∀ (i : ℕ) (child : Child) (code : ℕ), s.children[i]? = some child → child.call = .answered →
    child.process = .recorded code → child.command ∉ s.discarded → s.children.length - i - 1 < childTableMax →
    waitForExit s.entries child.command = some ⟨child.pid, some code⟩
  running_kept : ∀ (i : ℕ) (child : Child), s.children[i]? = some child → child.call = .answered →
    (∀ code, child.process ≠ .recorded code) → child.command ∉ s.discarded →
    waitForExit s.entries child.command = some ⟨child.pid, none⟩
  own_exit : ∀ command pid code, waitForExit s.entries command = some ⟨pid, some code⟩ →
    ∃ child ∈ s.children, child.command = command ∧ child.pid = pid ∧ child.process = .recorded code

/-! ## Orders of steps that keep it -/

/-- The first exited entry of a table. -/
def firstExited (entries : List ChildEntry) : Option ChildEntry := entries.find? (·.status.exitCode.isSome)

/-- How many children were started after the last one of a command. -/
def laterStarts (children : List Child) (command : String) : ℕ :=
  (children.reverse.takeWhile fun c => !(c.command == command)).length

/-- Where a table is too full, its oldest exited entry is old: as many children as the table holds were started after
it, or its command was discarded. -/
def Roomy (s : RelayState) (entries : List ChildEntry) : Prop :=
  entries.length ≤ childTableMax ∨ ∀ e, firstExited entries = some e →
    e.command ∈ s.discarded ∨ childTableMax ≤ laterStarts s.children e.command

/-- A spawn forks only when no other spawn of the command has the handoff, and, unless the command was discarded, when
none is under way and the table has no entry of it. A child is registered, and its exit recorded, in a roomy table; an
exit is recorded after the registration, and no other command has a running entry with its process number. -/
def Careful (s : RelayState) : RelayEvent → Prop
  | .fork command _ =>
    (∀ child ∈ s.children, child.command = command → child.call ≠ .forked) ∧
      (command ∈ s.discarded ∨
        (∀ child ∈ s.children, child.command = command → child.call = .answered) ∧
          ∀ e ∈ s.entries, e.command ≠ command)
  | .register i => ∀ child, s.children[i]? = some child →
    Roomy s (s.entries ++ [⟨child.command, ⟨child.pid, none⟩⟩])
  | .record i => ∀ child, s.children[i]? = some child →
    (child.command ∈ s.discarded ∨ child.call = .answered) ∧
    (∀ e ∈ s.entries, e.status.pid = child.pid → e.status.exitCode = none → e.command = child.command) ∧
    ∀ code, child.process = .collected code → Roomy s (markExit child.pid code s.entries)
  | _ => True

end Iweb.Relay
