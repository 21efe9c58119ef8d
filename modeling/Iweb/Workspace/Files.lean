import Iweb.Foundations.CrashRefinement
import Mathlib.Data.Nat.Notation
import Mathlib.Logic.Function.Basic

/-!
# Workspace files

The kernel stores a workspace file by way of a temporary file that the object client copies. The requests run in
threads of their own: the steps of any number of writes and deletes interleave. The file system and the object client
can fail at each of them.
-/

namespace Iweb.Workspace

/-- The largest content, in bytes. -/
def contentMax : ℕ := 1024 * 1024

/-- The temporary file of a process for a reading of the clock in milliseconds. -/
def temporaryName (process millis : ℕ) : String := "iweb-workspace-" ++ process.repr ++ "-" ++ millis.repr

inductive WorkspaceError where
  /-- The content is too long. -/
  | limited
  /-- The file system or the object client failed. -/
  | failed
  /-- The object client did not find the temporary file. -/
  | missing
deriving DecidableEq

/-- How far a write has come. -/
inductive WritePhase where
  | named
  | written
  /-- The result is there, the temporary file is not yet removed. -/
  | finished (result : Except WorkspaceError ℕ)
  | answered (result : Except WorkspaceError ℕ)

structure Write where
  path : String
  content : String
  /-- The reading of the clock. -/
  millis : ℕ
  phase : WritePhase

structure Files where
  process : ℕ
  writes : List Write
  temporary : String → Option String
  objects : String → Option String

def Files.initial (process : ℕ) : Files := ⟨process, [], fun _ => none, fun _ => none⟩

/-- What a file system call leaves: the whole content, or after a failure no file or any part of it. -/
inductive FileEffect where
  | done
  | failed (left : Option String)

/-- A failed call of the object client may have had its effect. -/
inductive ObjectEffect where
  | done
  | failed
  | unanswered

inductive FilesEvent where
  /-- A write is called and reads the clock. -/
  | call (path content : String) (millis : ℕ)
  /-- The write fills its temporary file. -/
  | fill (write : ℕ) (effect : FileEffect)
  /-- The object client copies the temporary file to the path. -/
  | copy (write : ℕ) (effect : ObjectEffect)
  /-- The write removes its temporary file and answers. -/
  | remove (write : ℕ)
  | delete (path : String) (effect : ObjectEffect)

/-- The file that a fill leaves. -/
def FileEffect.left (content : String) : FileEffect → Option String
  | .done => some content
  | .failed left => left

def Files.temporaryOf (s : Files) (w : Write) : String := temporaryName s.process w.millis

def Files.updateWrite (s : Files) (i : ℕ) (w : Write) (phase : WritePhase) : Files :=
  { s with writes := s.writes.set i { w with phase := phase } }

def Files.fill (s : Files) (i : ℕ) (w : Write) (effect : FileEffect) : Files :=
  { s.updateWrite i w (match effect with
      | .done => .written
      | .failed _ => .finished (.error .failed)) with
    temporary := Function.update s.temporary (s.temporaryOf w) (effect.left w.content) }

def Files.copy (s : Files) (i : ℕ) (w : Write) (effect : ObjectEffect) : Files :=
  match s.temporary (s.temporaryOf w), effect with
  | none, _ => s.updateWrite i w (.finished (.error .missing))
  | some _, .failed => s.updateWrite i w (.finished (.error .failed))
  | some text, .done =>
    { s.updateWrite i w (.finished (.ok w.content.utf8ByteSize)) with
      objects := Function.update s.objects w.path (some text) }
  | some text, .unanswered =>
    { s.updateWrite i w (.finished (.error .failed)) with
      objects := Function.update s.objects w.path (some text) }

/-- One step; an event that cannot happen changes nothing. -/
def Files.step (s : Files) : FilesEvent → Files
  | .call path content millis =>
    let phase := if content.utf8ByteSize > contentMax then .answered (.error .limited) else .named
    { s with writes := s.writes ++ [⟨path, content, millis, phase⟩] }
  | .fill i effect =>
    match s.writes[i]? with
    | some w =>
      match w.phase with
      | .named => s.fill i w effect
      | _ => s
    | none => s
  | .copy i effect =>
    match s.writes[i]? with
    | some w =>
      match w.phase with
      | .written => s.copy i w effect
      | _ => s
    | none => s
  | .remove i =>
    match s.writes[i]? with
    | some w =>
      match w.phase with
      | .finished result =>
        { s.updateWrite i w (.answered result) with
          temporary := Function.update s.temporary (s.temporaryOf w) none }
      | _ => s
    | none => s
  | .delete path effect =>
    match effect with
    | .failed => s
    | .done | .unanswered => { s with objects := Function.update s.objects path none }

/-! ## What the requests rely on -/

/-- An object is the content of a write to its path. -/
def Unmixed (s : Files) : Prop :=
  ∀ path content, s.objects path = some content → ∃ w ∈ s.writes, w.path = path ∧ w.content = content

/-- No write is answered that its temporary file is not there. -/
def Undisturbed (s : Files) : Prop := ∀ w ∈ s.writes, w.phase ≠ .answered (.error .missing)

def WritePhase.Answered : WritePhase → Prop
  | .answered _ => True
  | _ => False

/-- At some moment between its call and its answer the content of the write was at its path. -/
def StoredOwn (process : ℕ) (events : List FilesEvent) (i : ℕ) (w : Write) : Prop :=
  ∃ before after, events = before ++ after ∧
    (∃ w', (CrashRefinement.run Files.step (.initial process) before).writes[i]? = some w' ∧ ¬ w'.phase.Answered) ∧
    (CrashRefinement.run Files.step (.initial process) before).objects w.path = some w.content

/-- The requests of a run are kept apart. -/
structure KeptApart (process : ℕ) (events : List FilesEvent) : Prop where
  unmixed : Unmixed (CrashRefinement.run Files.step (.initial process) events)
  stored : ∀ (i : ℕ) (w : Write) (bytes : ℕ),
    (CrashRefinement.run Files.step (.initial process) events).writes[i]? = some w →
    w.phase = .answered (.ok bytes) → StoredOwn process events i w
  undisturbed : Undisturbed (CrashRefinement.run Files.step (.initial process) events)

/-! ## Orders of steps that keep it -/

/-- The writes with the same reading of the clock that have filled their file and not copied it expect this file. -/
def Expected (s : Files) (i : ℕ) (left : Option String) : Prop :=
  ∀ w, s.writes[i]? = some w → ∀ (j : ℕ) (w' : Write), j ≠ i → s.writes[j]? = some w' → w'.phase matches .written →
    w'.millis = w.millis → left = some w'.content

/-- A temporary file is filled or removed only when no other write waits to copy another content from it. -/
def Careful (s : Files) : FilesEvent → Prop
  | .fill i effect => ∀ w, s.writes[i]? = some w → w.phase matches .named → Expected s i (effect.left w.content)
  | .remove i => ∀ w, s.writes[i]? = some w → w.phase matches .finished _ → Expected s i none
  | _ => True

end Iweb.Workspace
