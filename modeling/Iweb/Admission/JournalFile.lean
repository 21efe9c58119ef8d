import Iweb.Admission.Journal
import Iweb.Foundations.CrashRefinement
import Iweb.Foundations.LineLog

/-!
# The admission journal file

`WasmAdmissionJournalFile` appends the canonical JSON of every new row as one line. Opening the file
replays its lines; a last line that a crash has cut is skipped.
-/

namespace Iweb

open Std (ExtTreeMap)
open LineLog (newline)

variable (A : AdmissionRules)

/-! ## Replay -/

def AdmissionJournalRow.contentKey (row : AdmissionJournalRow) : VersionKey :=
  (row.proof.applicationId, row.proof.versionDigest)

/-- The lease of a replayed row that keeps its state: it may not move backwards. -/
def replayExtension (previous row : AdmissionJournalRow) : Except KernelError Unit := do
  require (!row.state.isTerminal) wasmAdmissionJournalInvalid
    "terminal rows carry a null lease and cannot extend"
  match previous.leaseExpiresAt, row.leaseExpiresAt with
  | none, _ => .error ⟨wasmAdmissionJournalInvalid, "nonterminal row must carry a lease"⟩
  | _, none => .error ⟨wasmAdmissionJournalInvalid, "lease extension must carry a new lease"⟩
  | some previousLease, some newLease =>
    let extended ← parseRfc3339UtcMillis newLease
    let before ← parseRfc3339UtcMillis previousLease
    require (before ≤ extended) wasmAdmissionJournalInvalid
      "lease extension must not move the lease backwards"

/-- The state of a replayed row that moves on. -/
def replayTransition (previous row : AdmissionJournalRow) : Except KernelError Unit := do
  require (previous.state.transitionAllowed row.state) wasmAdmissionJournalInvalid
    ("illegal transition " ++ previous.state.debugName ++ " -> " ++ row.state.debugName)
  require (!(row.state.isTerminal && row.leaseExpiresAt.isSome)) wasmAdmissionJournalInvalid
    "terminal rows must carry a null lease"
  require (!(!row.state.isTerminal && row.leaseExpiresAt.isNone)) wasmAdmissionJournalInvalid
    "nonterminal rows must carry a lease"

/-- `WasmAdmissionJournal::replay_row` -/
def WasmAdmissionJournal.replayRow (journal : WasmAdmissionJournal) (row : AdmissionJournalRow) :
    Except KernelError WasmAdmissionJournal := do
  require (row.schemaVersion == 1) wasmAdmissionJournalInvalid "journal row schemaVersion must be 1"
  match journal.rows[row.proof.key]? with
  | none =>
    require (row.state == .staging && row.journalRevision == 0 && row.leaseExpiresAt.isSome)
      wasmAdmissionJournalInvalid "first journal record for a version must be staging/revision 0 with a lease"
    verifyAdmissionProof A row.proof
    return { journal.insertRow row.contentKey row with nextSequence := raiseSequence journal.nextSequence row }
  | some previous =>
    require (row.journalRevision == previous.journalRevision + 1) wasmAdmissionJournalInvalid
      "journal revision must increase by exactly one"
    require (row.proof == previous.proof) wasmAdmissionJournalInvalid
      "the proof of a journal row is immutable"
    if row.state == previous.state then replayExtension previous row else replayTransition previous row
    return { journal with rows := journal.rows.insert row.proof.key row }

/-! ## Lines -/

/-- `serde_json` on journal rows. -/
structure JournalRowJson where
  /-- `jcs_bytes(row)` -/
  jcsBytes : AdmissionJournalRow → Except KernelError (List UInt8)
  /-- `serde_json::from_str(line)` -/
  fromStr : List UInt8 → Except String AdmissionJournalRow

variable (J : JournalRowJson)

/-- The loop of `WasmAdmissionJournalFile::open` over the lines from the given index on. -/
def replayLines (endsWithNewline : Bool) : Nat → WasmAdmissionJournal → List (List UInt8) →
    Except KernelError WasmAdmissionJournal
  | _, journal, [] => .ok journal
  | index, journal, line :: rest =>
    if line.isEmpty then replayLines endsWithNewline (index + 1) journal rest
    else match J.fromStr line with
      | .error parseError =>
        -- Only the last line can be the rest of an interrupted write.
        if rest.isEmpty && !endsWithNewline then .ok journal
        else .error ⟨wasmAdmissionJournalInvalid,
          "journal line " ++ toString (index + 1) ++ " is corrupt: " ++ parseError⟩
      | .ok row => do
        let journal ← recodeAt wasmAdmissionJournalInvalid
          ("journal line " ++ toString (index + 1) ++ " replay failed") (journal.replayRow A row)
        replayLines endsWithNewline (index + 1) journal rest

/-- `WasmAdmissionJournalFile::open` on what `read_to_string` gave; a read that failed for any reason
is an empty journal. -/
def openJournalFile (text : Option (List UInt8)) : Except KernelError WasmAdmissionJournal :=
  match text with
  | none => .ok .new
  | some text => replayLines A J (text.getLast? == some newline) 0 .new (text.splitOn newline)

/-! ## Calls -/

/-- The calls of `AdmissionJournal` that can append a row. -/
inductive JournalCall
  | createOrJoin (request : AdmissionRequest) (token : Except KernelError (List UInt8))
    (nowEpochMillis : Nat)
  | transition (key : VersionKey) (target : AdmissionState) (nowEpochMillis : Nat)
  | extendLease (key : VersionKey) (nowEpochMillis ttlSeconds : Nat)

/-- `WasmAdmissionJournalFile::create_or_join` up to the append: the journal in memory, the handle and
the row of a creation. -/
def WasmAdmissionJournal.fileCreateOrJoin (journal : WasmAdmissionJournal) (request : AdmissionRequest)
    (token : Except KernelError (List UInt8)) (nowEpochMillis : Nat) :
    WasmAdmissionJournal × Except KernelError (CreateOrJoin × Option AdmissionJournalRow) :=
  let joined := do
    let versionDigest ← admissionVersionDigest A request.packageDigest request.normalizedPolicy
      request.hostServicePolicy
    journal.findJoinCandidate request (request.applicationId, versionDigest)
  match joined with
  | .error failure => (journal, .error failure)
  | .ok (some handle) => (journal, .ok (handle, none))
  | .ok none =>
    match journal.createOrJoin A request token nowEpochMillis with
    | (memory, .error failure) => (memory, .error failure)
    | (memory, .ok handle) =>
      if handle.created then
        match memory.rows[handle.key]? with
        | none => (memory, .error ⟨wasmAdmissionJournalInvalid, "created row is missing"⟩)
        | some row => (memory, .ok (handle, some row))
      else (memory, .ok (handle, none))

/-- What a call does to the journal in memory, and the row it appends then. -/
def JournalCall.mutate (journal : WasmAdmissionJournal) :
    JournalCall → WasmAdmissionJournal × Except KernelError (Option AdmissionJournalRow)
  | .createOrJoin request token nowEpochMillis =>
    let (memory, result) := journal.fileCreateOrJoin A request token nowEpochMillis
    (memory, result.map Prod.snd)
  | .transition key target nowEpochMillis =>
    match journal.transition key target nowEpochMillis with
    | .error failure => (journal, .error failure)
    | .ok (memory, row) => (memory, .ok (some row))
  | .extendLease key nowEpochMillis ttlSeconds =>
    match journal.extendLease key nowEpochMillis ttlSeconds with
    | .error failure => (journal, .error failure)
    | .ok (memory, row) => (memory, .ok (some row))

/-! ## Runs -/

/-- The file, the journal of a running Kernel, and the rows that were appended so far: those whose append
was acknowledged, and interrupted ones whose text was complete. -/
structure JournalFileWorld where
  /-- Absent until the first append. -/
  file : Option (List UInt8)
  memory : Option WasmAdmissionJournal
  log : List AdmissionJournalRow

def JournalFileWorld.initial : JournalFileWorld := ⟨none, none, []⟩

inductive JournalFileOp
  /-- The Kernel opens the file; a file that exists may fail to be read. -/
  | reopen (readable : Bool)
  | crash
  /-- A call; a crash may cut its append after some bytes of the line. -/
  | call (call : JournalCall) (cut : Option Nat)

variable {A J}

/-- `WasmAdmissionJournalFile::append`. After an append that failed or was cut the journal in memory is not
used any more. -/
def JournalFileWorld.append (J : JournalRowJson) (world : JournalFileWorld) (memory : WasmAdmissionJournal)
    (row : AdmissionJournalRow) (cut : Option Nat) : JournalFileWorld :=
  match J.jcsBytes row with
  | .error _ => { world with memory := none }
  | .ok text =>
    let line := text ++ [newline]
    match cut with
    | none =>
      { file := some (world.file.getD [] ++ line), memory := some memory, log := world.log ++ [row] }
    | some n =>
      { file := some (world.file.getD [] ++ line.take n)
        memory := none
        log := if text.length ≤ n then world.log ++ [row] else world.log }

/-- What the next opening of the file gives. -/
def JournalFileWorld.reopened (A : AdmissionRules) (J : JournalRowJson) (world : JournalFileWorld)
    (readable : Bool) : Except KernelError WasmAdmissionJournal :=
  openJournalFile A J (if readable then world.file else none)

def JournalFileWorld.step (A : AdmissionRules) (J : JournalRowJson) (world : JournalFileWorld) :
    JournalFileOp → JournalFileWorld
  | .reopen readable => { world with memory := (world.reopened A J readable).toOption }
  | .crash => { world with memory := none }
  | .call call cut =>
    match world.memory with
    | none => world
    | some journal =>
      match call.mutate A journal with
      | (memory, .ok (some row)) => world.append J memory row cut
      | (memory, _) => { world with memory := some memory }

/-! ## What an opened journal holds -/

/-- A journal holds exactly the rows of a log: for every version its last row, for every content its
versions in the order of their first rows, and an allocator above every row. -/
structure Rebuilds (journal : WasmAdmissionJournal) (log : List AdmissionJournalRow) : Prop where
  rows : ∀ key : VersionKey,
    journal.rows[key]? = (log.filter fun row => row.proof.key = key).getLast?
  byContent : ∀ contentKey : VersionKey, (journal.byContent[contentKey]?).getD [] =
    (log.filter fun row => row.journalRevision = 0 ∧ row.contentKey = contentKey).map fun row =>
      row.proof.versionId
  sequences : ∀ row ∈ log, row.proof.sequence < journal.sequenceOf row.proof.applicationId

/-- An opening of the file is right: it fails if the file exists and cannot be read, and gives the
journal of all appended rows otherwise. -/
structure ReopensWell (A : AdmissionRules) (J : JournalRowJson) (world : JournalFileWorld)
    (readable : Bool) : Prop where
  unreadable : world.file.isSome = true → readable = false →
    ∃ failure, world.reopened A J readable = .error failure
  rebuilds : (world.file.isSome = true → readable = true) →
    ∃ journal, world.reopened A J readable = .ok journal ∧ Rebuilds journal world.log

/-- What `serde_json` is relied on for: a row is read back from its text, which is one line, and no
proper prefix of the text of a row is JSON. -/
structure JournalRowJson.Faithful (J : JournalRowJson) : Prop where
  readBack : ∀ row text, J.jcsBytes row = .ok text → J.fromStr text = .ok row
  oneLine : ∀ row text, J.jcsBytes row = .ok text → newline ∉ text ∧ text ≠ []
  noPrefix : ∀ row text, J.jcsBytes row = .ok text → ∀ n < text.length,
    ∃ parseError, J.fromStr (text.take n) = .error parseError

/-- A lease extension does not shorten the lease. -/
def extendsForward (journal : WasmAdmissionJournal) (call : JournalCall) : Bool :=
  match call with
  | .extendLease key nowEpochMillis ttlSeconds =>
    match (journal.rows[key]?).bind AdmissionJournalRow.leaseExpiresAt with
    | none => true
    | some lease =>
      match parseRfc3339UtcMillis lease,
        parseRfc3339UtcMillis (formatRfc3339UtcMillis (nowEpochMillis + ttlSeconds * 1000)) with
      | .ok before, .ok extended => before ≤ extended
      | _, _ => false
  | _ => true

/-- A step is sound for the file: no file that exists fails to be read, and no row is appended after a
line that a crash has cut, or with a lease shorter than before. -/
def JournalFileWorld.sound (A : AdmissionRules) (world : JournalFileWorld) : JournalFileOp → Bool
  | .reopen readable => world.file.isNone || readable
  | .crash => true
  | .call call _ =>
    match world.memory with
    | none => true
    | some journal =>
      match (call.mutate A journal).2 with
      | .ok (some _) => LineLog.terminated (world.file.getD []) && extendsForward journal call
      | _ => true

end Iweb
