import Bornera.Shared.Basic

/-!
# The owner of a set

What a set does to one entry (`set_settle.rs`, the body of the loop in
`set_drive/ready.rs`), its queue (`set.rs`), its failure (`set_failure.rs`) and its turn
(`set_drive.rs`, `set_drive/ready.rs`).
-/

namespace Bornera.Shared

open Bornera.Core Slot Lib ConnectionSlot

variable {B D C R E T P X : Type} {Q W : Type → Type} {M : Type → Type} [ByteBudget B]
  [FrameDecoder D R E] [Retained R] [InboundClassifier C R] [EventBatch Q] [TimerQueue W]

/-! ### One entry -/

/-- The diagnostic of a failure of the selector. -/
def recordMioFailure (slot : ConnectionSlot B D C R Q W) : MioError → ConnectionSlot B D C R Q W
  | .io source => slot.recordTransportFailure (.fromIo .readiness source)
  | .other => slot

/-- Settles a taken directive; a close without a reason aborts. -/
def settleDirective (slot : ConnectionSlot B D C R Q W) (directive : CloseDirective) :
    ConnectionSlot B D C R Q W :=
  match (slot.restoreCloseRequest directive).settleTransportClosed with
  | (true, slot) => slot
  | (false, slot) => (slot.latchFailure (.invariant .missingCloseReason)).abortTransport

namespace ConnectionEntry

section
variable [SlotTransport T]

/-- Looks whether a shutdown is complete. -/
def observeShutdown (entry : ConnectionEntry B D C R Q W T) : ConnectionEntry B D C R Q W T :=
  match entry.transport with
  | none => entry
  | some t =>
    let (_, slot, t) := observeShutdownComplete (entry.slot, t)
    { entry with slot, transport := some t }

variable [MioPoller P T]

/-- Releases the transport of a close that is ready to settle. -/
def settleEntry (poller : P) (resource : ResourceToken) (entry : ConnectionEntry B D C R Q W T) :
    Except EngineError ℕ × P × ConnectionEntry B D C R Q W T :=
  let entry := entry.observeShutdown
  match entry.slot.takeCloseRequest with
  | (none, slot) => (.ok 0, poller, { entry with slot })
  | (some directive, slot) =>
    match entry.transport with
    | none => (.ok 1, poller, { entry with slot := settleDirective slot directive })
    | some t =>
      let (deregistration, poller, t) := MioPoller.deregister poller t resource
      let (pressure, slot, t) := captureTransportPressure (slot, t)
      match deregistration with
      | .error source =>
        let slot := ((recordMioFailure slot source).restoreCloseRequest directive).latchFailure
          (.mio source)
        (.error (.mio source), poller, { entry with slot, transport := some t })
      | .ok () =>
        match pressure with
        | .error error =>
          let slot := (slot.restoreCloseRequest directive).latchFailure error
          (.error error, poller, { entry with slot, transport := none })
        | .ok () =>
          (.ok 1, poller, { entry with slot := settleDirective slot directive, transport := none })

/-- Registers the interest the slot has now. -/
def syncInterest (poller : P) (resource : ResourceToken) (entry : ConnectionEntry B D C R Q W T) :
    Except EngineError ℕ × P × ConnectionEntry B D C R Q W T :=
  match entry.transport with
  | none => (.ok 0, poller, entry)
  | some t =>
    let (desired, t) := SlotTransport.desiredInterest t (0 < entry.slot.core.queuedWriteFrames)
    if desired = entry.interest then (.ok 0, poller, { entry with transport := some t })
    else
      let (registration, poller, t) := MioPoller.reregister poller t resource desired
      let (pressure, slot, t) := captureTransportPressure (entry.slot, t)
      match registration with
      | .error source =>
        let slot := (recordMioFailure slot source).latchFailure (.mio source)
        (.error (.mio source), poller, { entry with slot, transport := some t })
      | .ok () =>
        match pressure with
        | .error error =>
          (.ok 1, poller, { entry with
            slot := slot.latchFailure error, transport := some t, interest := desired })
        | .ok () => (.ok 1, poller, { entry with slot, transport := some t, interest := desired })

end

section
variable [SlotTransport T]

/-- A question to the slot and the transport, which is answered without a failure. -/
def answer (question : Driving B D C R Q W T Bool) (entry : ConnectionEntry B D C R Q W T) :
    Bool × ConnectionEntry B D C R Q W T :=
  match entry.transport with
  | none => (false, entry)
  | some t =>
    match question (entry.slot, t) with
    | (.ok yes, slot, t) => (yes, { entry with slot, transport := some t })
    | (.error _, slot, t) => (false, { entry with slot, transport := some t })

/-- Whether the transport has something to do: for the close, or for the input and output. -/
def hasWork (now : ℕ) (entry : ConnectionEntry B D C R Q W T) :
    Bool × ConnectionEntry B D C R Q W T :=
  entry.answer (if entry.slot.closeRequest.isSome then hasRunnableShutdown now else hasRunnableIo)

/-- Whether an entry is to be driven in a turn. -/
def shouldEnqueue (now : ℕ) (entry : ConnectionEntry B D C R Q W T) :
    Bool × ConnectionEntry B D C R Q W T :=
  if entry.slot.nextDeadline.any (·.isElapsedAt now) || entry.slot.transportReleaseReady then
    (true, entry)
  else entry.hasWork now

/-- Whether an entry that was driven is to be driven again. -/
def isRunnable (now : ℕ) (saturated : Bool) (entry : ConnectionEntry B D C R Q W T) :
    Bool × ConnectionEntry B D C R Q W T :=
  if entry.slot.state.failure.isSome || entry.transport.isNone then (false, entry)
  else if saturated || entry.slot.transportReleaseReady then (true, entry)
  else entry.hasWork now

/-- One quantum; a failure is latched and counts no work. -/
def driveSlot (now : ℕ) (entry : ConnectionEntry B D C R Q W T) :
    SlotProgress × ConnectionEntry B D C R Q W T :=
  match driveQuantum now (entry.slot, entry.transport) with
  | (.ok progress, slot, transport) => (progress, { entry with slot, transport })
  | (.error error, slot, transport) =>
    (⟨0, false⟩, { entry with slot := slot.latchFailure error, transport })

variable [MioPoller P T]

/-- One entry of the queue: a quantum, its settlement and its interest, and whether
it is to be driven again. -/
def drive (now : ℕ) (poller : P) (resource : ResourceToken)
    (entry : ConnectionEntry B D C R Q W T) :
    Except EngineError (ℕ × Bool) × P × ConnectionEntry B D C R Q W T :=
  let (progress, entry) := entry.driveSlot now
  match entry.settleEntry poller resource with
  | (.error error, poller, entry) => (.error error, poller, entry)
  | (.ok settled, poller, entry) =>
    match entry.syncInterest poller resource with
    | (.error error, poller, entry) => (.error error, poller, entry)
    | (.ok interest, poller, entry) =>
      let (runnable, entry) := entry.isRunnable now progress.saturated
      (.ok (progress.work + settled + interest, runnable), poller, entry)

end

/-- The transport, when there is one, has become ready; what it holds now is checked. -/
def observeReadiness [RegisteredTransport T] (readiness : Readiness)
    (entry : ConnectionEntry B D C R Q W T) :
    Option (ConnectionEntry B D C R Q W T) :=
  match entry.transport with
  | none => none
  | some t =>
    match captureTransportPressure
        (entry.slot, RegisteredTransport.observeReadiness t readiness) with
    | (.ok (), slot, t) => some { entry with slot, transport := some t }
    | (.error error, slot, t) =>
      some { entry with slot := slot.latchFailure error, transport := some t }

/-- The failure of the selector fences an entry. -/
def fence (source : MioError) (entry : ConnectionEntry B D C R Q W T) :
    ConnectionEntry B D C R Q W T :=
  { entry with
    slot := (recordMioFailure entry.slot source).latchOwnerFailure .readiness,
    readyQueued := false }

end ConnectionEntry

/-! ### The set -/

/-- A counter that stops at its bound. -/
def saturatingAdd (a b : ℕ) : ℕ := min (a + b) u64Max

namespace ConnectionSet

variable [FencedTable M ConnectionIdentity ResourceToken]

/-- The computations of a set. -/
abbrev Run (B D C R : Type) (Q W : Type → Type) (T P X : Type) (M : Type → Type) (α : Type) :
    Type :=
  Owner EngineError (ConnectionSet B D C R Q W T P X M) α

def new (limits : ConnectionSetLimits) (poller : P) (commands : X) :
    ConnectionSet B D C R Q W T P X M where
  limits
  poller
  pollEvents := []
  resources := FencedTable.new limits.maxConnections
  ready := []
  commands
  commandMorePending := false
  pollSaturated := false
  staleBackendEvents := 0
  staleResourceEvents := 0
  staleCommands := 0
  ownerFailure := none

/-- The entry filed under a token. -/
def find (s : ConnectionSet B D C R Q W T P X M) (resource : ResourceToken) :
    Option (ConnectionEntry B D C R Q W T) :=
  FencedTable.get s.resources resource

/-- Files an entry under a token that is in use. -/
def store (s : ConnectionSet B D C R Q W T P X M) (resource : ResourceToken)
    (entry : ConnectionEntry B D C R Q W T) :
    ConnectionSet B D C R Q W T P X M :=
  { s with resources := FencedTable.set s.resources resource entry }

/-- The live entry of a connection, of its exact identity. -/
def entry (s : ConnectionSet B D C R Q W T P X M) (connection : ConnectionToken) :
    Option (ConnectionEntry B D C R Q W T) :=
  (s.find connection.resource).filter (·.identity = connection.identity)

def enqueue (s : ConnectionSet B D C R Q W T P X M) (resource : ResourceToken) :
    ConnectionSet B D C R Q W T P X M :=
  match s.find resource with
  | none => s
  | some entry =>
    if entry.readyQueued then s
    else { s.store resource { entry with readyQueued := true } with ready := s.ready ++ [resource] }

/-! ### Its failure -/

def ensureOwnerRunning : Run B D C R Q W T P X M Unit := fun s =>
  match s.ownerFailure with
  | none => (.ok (), s)
  | some reason => (.error (.ownerFailed reason), s)

def latchSelectorFailure [CommandMailbox X] (s : ConnectionSet B D C R Q W T P X M)
    (source : MioError) :
    ConnectionSet B D C R Q W T P X M :=
  if s.ownerFailure.isSome then s
  else
    { s with
      ownerFailure := some .readiness
      commands := CommandMailbox.close s.commands
      ready := []
      resources := FencedTable.modifyAll s.resources (ConnectionEntry.fence source) }

def latchReadinessError [CommandMailbox X] (s : ConnectionSet B D C R Q W T P X M) :
    EngineError → ConnectionSet B D C R Q W T P X M
  | .mio source => s.latchSelectorFailure source
  | _ => s

section
variable [MioPoller P T] [CommandMailbox X]

/-- Polls the selector into the batch of events. -/
def pollSelector (maximum : ℕ) : Run B D C R Q W T P X M PollReport := do
  ensureOwnerRunning
  fun s =>
    let (result, pollEvents, poller) := MioPoller.poll (T := T) s.poller maximum s.pollEvents
    let s := { s with poller, pollEvents }
    match result with
    | .ok report => (.ok report, s)
    | .error source => (.error (.mio source), s.latchSelectorFailure source)

def observePoll (s : ConnectionSet B D C R Q W T P X M) (report : PollReport) :
    ConnectionSet B D C R Q W T P X M :=
  { s with
    staleBackendEvents := saturatingAdd s.staleBackendEvents report.stale
    pollSaturated := report.saturated }

def pollIo (maximum : ℕ) : Run B D C R Q W T P X M WaitOutcome := do
  let report ← pollSelector maximum
  Owner.change (·.observePoll report)
  pure (if report.observed = 0 then .idle else .notified)

end

/-! ### The turn -/

/-- The slot of a connection carries out a command. -/
def obey : ConnectionCommand → Slot.Run B D C R Q W Unit
  | .openAdmission _ => do discard openAdmission
  | .cancel _ operation => do discard (ConnectionSlot.cancel operation)
  | .beginDrain _ deadline => do discard (beginDrain deadline)
  | .close _ => do discard (finalize .requested)

/-- The slot after a command, with its failure latched. -/
def obeyed (command : ConnectionCommand) (slot : ConnectionSlot B D C R Q W) :
    ConnectionSlot B D C R Q W :=
  match obey command slot with
  | (.ok (), slot) => slot
  | (.error error, slot) => slot.latchFailure error

def applyCommand (s : ConnectionSet B D C R Q W T P X M) (command : ConnectionCommand) :
    ConnectionSet B D C R Q W T P X M :=
  match s.entry command.connection with
  | none => { s with staleCommands := saturatingAdd s.staleCommands 1 }
  | some entry =>
    (s.store command.connection.resource { entry with slot := obeyed command entry.slot }).enqueue
      command.connection.resource

def driveCommands [CommandMailbox X] (s : ConnectionSet B D C R Q W T P X M) :
    ℕ × ConnectionSet B D C R Q W T P X M :=
  let ((batch, more), commands) := CommandMailbox.drainInto s.commands s.limits.commandsPerTurn
  (batch.length, batch.foldl applyCommand { s with commands, commandMorePending := more })

/-- One event of the selector. -/
def ingestEvent [RegisteredTransport T] (s : ConnectionSet B D C R Q W T P X M) :
    PollEvent → ConnectionSet B D C R Q W T P X M
  | .wake => s
  | .resource token readiness =>
    match (s.find token).bind (·.observeReadiness readiness) with
    | none => { s with staleResourceEvents := saturatingAdd s.staleResourceEvents 1 }
    | some entry => (s.store token entry).enqueue token

def ingestReadiness [RegisteredTransport T] (s : ConnectionSet B D C R Q W T P X M) :
    ℕ × ConnectionSet B D C R Q W T P X M :=
  (s.pollEvents.length, s.pollEvents.foldl ingestEvent { s with pollEvents := [] })

/-- The batch of events, and one more when the selector has more. -/
def ingestPollBatches [RegisteredTransport T] [MioPoller P T] [CommandMailbox X] :
    Run B D C R Q W T P X M ℕ := do
  let work ← Owner.update ingestReadiness
  let s ← Owner.read
  if s.pollSaturated then
    let report ← pollSelector 0
    Owner.change (·.observePoll report)
    let more ← Owner.update ingestReadiness
    pure (work + more)
  else pure work

section
variable [SlotTransport T]

/-- Queues an entry that has something to do. -/
def enqueueCandidate (now : ℕ) (s : ConnectionSet B D C R Q W T P X M) (resource : ResourceToken) :
    ConnectionSet B D C R Q W T P X M :=
  match s.find resource with
  | none => s
  | some entry =>
    match entry.shouldEnqueue now with
    | (true, entry) => (s.store resource entry).enqueue resource
    | (false, entry) => s.store resource entry

def enqueueCandidates (now : ℕ) (s : ConnectionSet B D C R Q W T P X M) :
    ConnectionSet B D C R Q W T P X M :=
  (FencedTable.keys s.resources).foldl (enqueueCandidate now) s

variable [MioPoller P T] [CommandMailbox X]

/-- Takes entries from the front of the queue, at most a number of them. -/
def driveReady (now : ℕ) : ℕ → Run B D C R Q W T P X M ℕ
  | 0 => pure 0
  | turns + 1 => fun s =>
    match s.ready with
    | [] => (.ok 0, s)
    | resource :: ready =>
      let s := { s with ready }
      match s.find resource with
      | none =>
        driveReady now turns { s with staleResourceEvents := saturatingAdd s.staleResourceEvents 1 }
      | some entry =>
        match { entry with readyQueued := false }.drive now s.poller resource with
        | (.error error, poller, entry) =>
          (.error error, ({ s with poller }.store resource entry).latchReadinessError error)
        | (.ok (progress, requeue), poller, entry) =>
          let s := { s with poller }.store resource entry
          (do
            let work ← driveReady now turns
            pure (progress + work) : Run B D C R Q W T P X M ℕ)
              (if requeue then s.enqueue resource else s)

end

/-- The earliest deadline of the slots that are running. -/
def earliestDeadline (s : ConnectionSet B D C R Q W T P X M) : Option Deadline :=
  (((FencedTable.keys s.resources).filterMap s.find).filterMap fun entry =>
    if entry.slot.state.failure.isNone then entry.slot.nextDeadline else none).argmin
      Deadline.moment

/-- When the set wants its next turn. -/
def next (s : ConnectionSet B D C R Q W T P X M) : Next :=
  if s.commandMorePending || s.pollSaturated || !s.ready.isEmpty then .now
  else
    match s.earliestDeadline with
    | none => .wake
    | some deadline => .wakeOr deadline

/-- One turn of the set. -/
def turnComponent [RegisteredTransport T] [MioPoller P T] [CommandMailbox X] (now : ℕ) :
    Run B D C R Q W T P X M SetTurn := do
  ensureOwnerRunning
  let commands ← Owner.update driveCommands
  let polled ← ingestPollBatches
  Owner.change (enqueueCandidates now)
  let s ← Owner.read
  let driven ← driveReady now s.limits.readyConnectionsPerTurn
  let s ← Owner.read
  pure ⟨commands + polled + driven, s.next⟩

end ConnectionSet
end Bornera.Shared
