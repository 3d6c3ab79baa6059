import Bornera.Slot.Ports

/-!
# The slot

`ConnectionSlot` (`slot.rs`) is the selector-free owner of one connection epoch. This module has
its data, its fail-closed state (`state.rs`), the interpretation of core effects (`transition.rs`),
lifecycle publication (`lifecycle.rs`), control (`control.rs`, `failure.rs`, `slot_close.rs`),
admission (`admission.rs`) and recovery (`recovery.rs`).
-/

namespace Bornera.Slot

open Bornera.Core Lib

/-- The place of a deadline in the timer queue. -/
structure DeadlineEntry where
  operation : OperationId
  token : TimerToken
  deriving DecidableEq, Repr

/-- The owner of one connection epoch. -/
structure ConnectionSlot (B D C R : Type) (Q W : Type → Type) where
  core : ConnectionCore B OutboundFrame
  decoder : FrameDriver D
  classifier : C
  limits : ConnectionSlotLimits
  connectDeadline : Deadline
  socketPolicy : TcpSocketPolicy
  timers : W DeadlineEvent
  deadlines : List DeadlineEntry
  outcomes : Q (EngineOutcome R)
  lifecycle : Q ConnectionEvent
  recoveryOutcomes : Q (EngineOutcome R)
  recoveryEvents : Q ConnectionEvent
  eventSequence : ℕ
  readBuffer : List UInt8
  decoderPending : Bool
  ioPreference : IoPreference
  transportState : TransportState
  transportDiagnostic : Option TransportDiagnostic
  transportPressure : Option TransportPressure
  transportRetainedLimit : Option ℕ
  transportContractDiverged : Bool
  drainDeadline : Option Deadline
  closeRequest : Option CloseDirective
  state : EngineState
  debug : Bool

/-- The computations of a slot. -/
abbrev Run (B D C R : Type) (Q W : Type → Type) (α : Type) : Type :=
  Owner EngineError (ConnectionSlot B D C R Q W) α

/-- Removes an entry by putting the last one in its place. -/
def swapRemove {α : Type} (xs : List α) (index : ℕ) : List α :=
  match xs.getLast? with
  | none => []
  | some last => (xs.set index last).dropLast

namespace ConnectionSlot

variable {B D C R E : Type} {Q W : Type → Type} [ByteBudget B] [FrameDecoder D R E] [Retained R]
  [EventBatch Q] [TimerQueue W]

/-- The first slot of an epoch. -/
def fresh (config : ConnectionSlotConfig) (limits : ConnectionSlotLimits) (decoder : FrameDriver D)
    (classifier : C) :
    ConnectionSlot B D C R Q W where
  core := .withIdentitySeeds config.ledgerId config.epoch limits.connection ⟨0, 0⟩
  decoder := decoder
  classifier := classifier
  limits := limits
  connectDeadline := config.connectDeadline
  socketPolicy := config.socketPolicy
  timers := TimerQueue.new config.timerOwner limits.timers
  deadlines := []
  outcomes := EventBatch.new limits.outcomes
  lifecycle := EventBatch.new limits.lifecycle
  recoveryOutcomes := EventBatch.new limits.outcomes
  recoveryEvents := EventBatch.new limits.recoveryLifecycle
  eventSequence := 0
  readBuffer := List.replicate limits.ioChunkBytes 0
  decoderPending := false
  ioPreference := .transport
  transportState := .connecting
  transportDiagnostic := none
  transportPressure := none
  transportRetainedLimit := none
  transportContractDiverged := false
  drainDeadline := none
  closeRequest := none
  state := .running
  debug := config.debug

def new (config : ConnectionSlotConfig) (limits : ConnectionSlotLimits) (decoder : D)
    (classifier : C) :
    Except (FrameDecodeError E) (ConnectionSlot B D C R Q W) :=
  match FrameDriver.new decoder limits.decoderBytes with
  | .error error => .error error
  | .ok decoder => .ok (fresh config limits decoder classifier)

def epoch (s : ConnectionSlot B D C R Q W) : ConnectionEpoch := s.core.machine.epoch

/-! ### The fail-closed state -/

def ensureRunning : Run B D C R Q W Unit := fun s =>
  match s.state.failure with
  | none => (.ok (), s)
  | some reason => (.error (.ownerFailed reason), s)

def latchOwnerFailure (s : ConnectionSlot B D C R Q W) (reason : OwnerFailure) :
    ConnectionSlot B D C R Q W :=
  match s.state.failure with
  | some _ => s
  | none => { s with state := .failed reason, drainDeadline := none, closeRequest := some .abort }

def latchFailure (s : ConnectionSlot B D C R Q W) : EngineError → ConnectionSlot B D C R Q W
  | .ownerFailed _ => s
  | error => s.latchOwnerFailure (OwnerFailure.ofError error)

/-- Runs a computation and latches its failure. -/
def latch {α : Type} (m : Run B D C R Q W α) : Run B D C R Q W α := fun s =>
  match m s with
  | (.ok a, s) => (.ok a, s)
  | (.error error, s) => (.error error, s.latchFailure error)

/-- A public method: a running slot runs it and latches its failure. -/
def guarded {α : Type} (m : Run B D C R Q W α) : Run B D C R Q W α := do
  ensureRunning
  latch m

/-! ### Lifecycle publication -/

def nextEventSequence : Run B D C R Q W ℕ := fun s =>
  match checkedAdd s.eventSequence 1 with
  | some sequence => (.ok sequence, s)
  | none => (.error (.invariant .eventSequenceExhausted), s)

def publishEvent (event : ConnectionEvent) : Run B D C R Q W Unit := fun s =>
  match EventBatch.tryPush s.lifecycle event with
  | (.ok (), lifecycle) => (.ok (), { s with lifecycle, eventSequence := event.sequence })
  | (.error event, lifecycle) =>
    let s := { s with lifecycle, eventSequence := event.sequence }
    match EventBatch.tryPush s.recoveryEvents event with
    | (.error _, recoveryEvents) =>
      (.error (.invariant .recoveryLifecyclePublication), { s with recoveryEvents })
    | (.ok (), recoveryEvents) =>
      (.error (.invariant .lifecyclePublication), { s with recoveryEvents })

/-- Publishes an event with the next sequence number and the epoch of the core. -/
def publishNext (event : ℕ → ConnectionEpoch → ConnectionEvent) : Run B D C R Q W Unit := do
  let sequence ← nextEventSequence
  let s ← Owner.read
  publishEvent (event sequence s.epoch)

def publishTransportOpened : Run B D C R Q W Unit := publishNext .transportOpened

def publishAdmissionOpened : Run B D C R Q W Unit := publishNext .admissionOpened

def publishClosing (reason : CloseReason) : Run B D C R Q W Unit :=
  publishNext (.closing · · reason)

def publishClosed (reason : CloseReason) : Run B D C R Q W Unit := publishNext (.closed · · reason)

/-! ### Interpretation of core effects -/

def cancelDeadline (s : ConnectionSlot B D C R Q W) (operation : OperationId) :
    ConnectionSlot B D C R Q W :=
  match s.deadlines.findIdx? (·.operation = operation) with
  | none => s
  | some index =>
    match s.deadlines[index]? with
    | none => s
    | some entry =>
      { s with
        deadlines := swapRemove s.deadlines index
        timers := (TimerQueue.cancel s.timers entry.token).2 }

def scheduleDeadline (event : DeadlineEvent) (deadline : Deadline) :
    Run B D C R Q W Unit := fun s =>
  let s := s.cancelDeadline event.operation
  if s.limits.operationCapacity ≤ s.deadlines.length then
    (.error (.invariant .deadlineIndexCapacity), s)
  else
    match TimerQueue.schedule s.timers deadline event with
    | (none, timers) => (.error (.invariant .deadlineSchedule), { s with timers })
    | (some token, timers) =>
      (.ok (), { s with timers, deadlines := s.deadlines ++ [⟨event.operation, token⟩] })

/-- A rejected outcome goes to the recovery batch. -/
def publish (outcome : EngineOutcome R) : Run B D C R Q W Unit := fun s =>
  match EventBatch.tryPush s.outcomes outcome with
  | (.ok (), outcomes) => (.ok (), { s with outcomes })
  | (.error outcome, outcomes) =>
    match EventBatch.tryPush s.recoveryOutcomes outcome with
    | (.error _, recoveryOutcomes) =>
      (.error (.invariant .recoveryOutcomePublication), { s with outcomes, recoveryOutcomes })
    | (.ok (), recoveryOutcomes) =>
      (.error (.invariant .outcomePublication), { s with outcomes, recoveryOutcomes })

/-- The outcomes of transitions that carry no reply. -/
def unitOutcome : OperationOutcome Unit → Except EngineInvariant (OperationOutcome R)
  | .reply () => .error .unexpectedUnitReply
  | .writeComplete delivery => .ok (.writeComplete delivery)
  | .failed failure delivery => .ok (.failed failure delivery)
  | .cancelled delivery => .ok (.cancelled delivery)

/-- What the interpretation loop does with one effect; `outcomeOf` reads its outcome. -/
def interpretEffect {X : Type}
    (outcomeOf : OperationOutcome X → Except EngineInvariant (OperationOutcome R)) :
    ConnectionEffect X → Run B D C R Q W Unit
  | .scheduleDeadline epoch operation deadline => scheduleDeadline ⟨epoch, operation⟩ deadline
  | .discardWrite _ _ _ => Owner.fail (.invariant .unexpectedDiscardEffect)
  | .cancelDeadline _ operation => Owner.change (·.cancelDeadline operation)
  | .closeEpoch _ _ => pure ()
  | .publishOutcome epoch operation outcome =>
    match outcomeOf outcome with
    | .error invariant => Owner.fail (.invariant invariant)
    | .ok outcome => publish ⟨epoch, operation, outcome⟩

/-- The first failure of a loop that goes on. -/
def retainFirst (failure : Option EngineError) : Except EngineError Unit → Option EngineError
  | .ok () => failure
  | .error error => failure <|> some error

/-- The reason of the last `CloseEpoch` so far. -/
def closeReasonOf {X : Type} (reason : Option CloseReason) : ConnectionEffect X → Option CloseReason
  | .closeEpoch _ reason => some reason
  | _ => reason

/-- The loop over the effects, with the close reason and the first failure so far. -/
def interpretEffects {X : Type}
    (outcomeOf : OperationOutcome X → Except EngineInvariant (OperationOutcome R)) :
    List (ConnectionEffect X) → Option CloseReason → Option EngineError →
      ConnectionSlot B D C R Q W →
      Option CloseReason × Option EngineError × ConnectionSlot B D C R Q W
  | [], reason, failure, s => (reason, failure, s)
  | effect :: effects, reason, failure, s =>
    let (result, s) := interpretEffect outcomeOf effect s
    interpretEffects outcomeOf effects (closeReasonOf reason effect) (retainFirst failure result) s

/-- The shutdown a close begins with, and the failure when a drain has no deadline. -/
def shutdownFor (s : ConnectionSlot B D C R Q W) (reason : CloseReason) :
    Except EngineError ShutdownState :=
  if s.transportState = .opened ∧ reason = .drained then
    match s.drainDeadline with
    | none => .error (.invariant .missingShutdownDeadline)
    | some deadline => .ok (.pending deadline)
  else .ok .immediate

def finishClose (reason : Option CloseReason) (failure : Option EngineError)
    (s : ConnectionSlot B D C R Q W) :
    Option EngineError × ConnectionSlot B D C R Q W :=
  match reason, s.closeRequest with
  | some reason, none =>
    let (published, s) := publishClosing reason s
    let failure := retainFirst failure published
    let (failure, shutdown) :=
      match s.shutdownFor reason with
      | .ok shutdown => (failure, shutdown)
      | .error error => (retainFirst failure (.error error), .immediate)
    (failure,
      { s with
        drainDeadline := none
        transportState := .closing
        closeRequest := some (.core reason shutdown) })
  | _, _ => (failure, s)

def interpret {X : Type}
    (outcomeOf : OperationOutcome X → Except EngineInvariant (OperationOutcome R))
    (t : ConnectionTransition X) : Run B D C R Q W Unit := fun s =>
  let (reason, failure, s) := interpretEffects outcomeOf t.effects none none s
  match finishClose reason failure s with
  | (none, s) => (.ok (), s)
  | (some error, s) => (.error error, s)

def interpretUnit (t : ConnectionTransition Unit) : Run B D C R Q W Unit := interpret unitOutcome t

def interpretReply (t : ConnectionTransition R) : Run B D C R Q W Unit := interpret .ok t

/-! ### Calls of the core -/

/-- A method of the core. -/
def onCore {α : Type} (m : ConnectionCore.Run B OutboundFrame α) : Run B D C R Q W α := fun s =>
  ((m s.core).1.mapError .core, { s with core := (m s.core).2 })

def applyCore (input : ConnectionInput) : Run B D C R Q W (ConnectionTransition Unit) := fun s =>
  onCore (ConnectionCore.apply s.debug input) s

def closeFor (reason : CloseReason) : Run B D C R Q W Unit := do
  let s ← Owner.read
  let t ← applyCore (.closeRequested s.epoch reason)
  interpretUnit t

def closeMalformed : Run B D C R Q W Unit := do
  let s ← Owner.read
  let t ← applyCore (.replyMalformed s.epoch)
  interpretUnit t

def closeDecodeError : FrameDecodeError E → Run B D C R Q W Unit
  | .retainedByteCapacity _ _ _ => closeFor .inboundRetainedCapacity
  | .inputSizeOverflow => closeFor .inboundRetainedCapacity
  | .retainedContractViolation _ _ => closeFor .inboundRetainedCapacity
  | .decoderFailed => closeMalformed
  | .decoder _ => closeMalformed

/-! ### Control -/

def isTransportOpen (s : ConnectionSlot B D C R Q W) : Bool := s.transportState = .opened

def isConnecting (s : ConnectionSlot B D C R Q W) : Bool := s.transportState = .connecting

def transportReleaseReady (s : ConnectionSlot B D C R Q W) : Bool :=
  s.closeRequest.any CloseDirective.settlementReady

/-- The earliest connect, operation, drain or shutdown deadline. -/
def nextDeadline (s : ConnectionSlot B D C R Q W) : Option Deadline :=
  [TimerQueue.nextDeadline s.timers, if s.isConnecting then
    some s.connectDeadline else none, s.drainDeadline,
    s.closeRequest.bind CloseDirective.shutdownDeadline].reduceOption.argmin Deadline.moment

def recordTransportFailure (s : ConnectionSlot B D C R Q W) (diagnostic : TransportDiagnostic) :
    ConnectionSlot B D C R Q W :=
  { s with transportDiagnostic := some diagnostic }

def forceShutdownSettlement (s : ConnectionSlot B D C R Q W) (reason : CloseReason) :
    ConnectionSlot B D C R Q W :=
  { s with closeRequest := some (.core reason .immediate) }

/-- Preempts a graceful shutdown, when there is one. -/
def forceShutdown (s : ConnectionSlot B D C R Q W) : Option (ConnectionSlot B D C R Q W) :=
  match s.closeRequest with
  | some (.core reason (.pending _)) => some (s.forceShutdownSettlement reason)
  | some (.core reason (.started _)) => some (s.forceShutdownSettlement reason)
  | _ => none

def openAdmissionInner : Run B D C R Q W InputDisposition := do
  let s ← Owner.read
  if !s.isTransportOpen then pure .ignoredInvalidPhase
  else
    let t ← applyCore (.openAdmission s.epoch)
    interpretUnit t
    if t.disposition = .applied then publishAdmissionOpened
    pure t.disposition

def cancelInner (operation : OperationId) : Run B D C R Q W CancelOutcome := do
  let s ← Owner.read
  let t ← applyCore (.cancel s.epoch operation)
  interpretUnit t
  pure (t.cancelOutcome.getD .alreadyTerminal)

def beginDrainInner (deadline : Deadline) : Run B D C R Q W InputDisposition := do
  let s ← Owner.read
  let t ← applyCore (.beginDrain s.epoch)
  if t.disposition = .applied then Owner.change ({ · with drainDeadline := some deadline })
  interpretUnit t
  pure t.disposition

def finalizeInner (reason : CloseReason) : Run B D C R Q W InputDisposition := fun s =>
  match s.forceShutdown with
  | some s => (.ok .applied, s)
  | none =>
    (do
      let t ← applyCore (.closeRequested s.epoch reason)
      interpretUnit t
      pure t.disposition : Run B D C R Q W InputDisposition) s

def openAdmission : Run B D C R Q W InputDisposition := guarded openAdmissionInner

def cancel (operation : OperationId) : Run B D C R Q W CancelOutcome :=
  guarded (cancelInner operation)

def beginDrain (deadline : Deadline) : Run B D C R Q W InputDisposition :=
  guarded (beginDrainInner deadline)

def finalize (reason : CloseReason) : Run B D C R Q W InputDisposition :=
  guarded (finalizeInner reason)

def drainOutcomes (s : ConnectionSlot B D C R Q W) :
    List (EngineOutcome R) × ConnectionSlot B D C R Q W :=
  ((EventBatch.drain s.outcomes).1, { s with outcomes := (EventBatch.drain s.outcomes).2 })

def drainEvents (s : ConnectionSlot B D C R Q W) :
    List ConnectionEvent × ConnectionSlot B D C R Q W :=
  ((EventBatch.drain s.lifecycle).1, { s with lifecycle := (EventBatch.drain s.lifecycle).2 })

/-! ### Physical closure -/

def takeCloseRequest (s : ConnectionSlot B D C R Q W) :
    Option CloseDirective × ConnectionSlot B D C R Q W :=
  if s.transportReleaseReady then (s.closeRequest, { s with closeRequest := none }) else (none, s)

def restoreCloseRequest (s : ConnectionSlot B D C R Q W) (directive : CloseDirective) :
    ConnectionSlot B D C R Q W :=
  { s with closeRequest := some directive }

def abortTransport (s : ConnectionSlot B D C R Q W) : ConnectionSlot B D C R Q W :=
  { s with transportState := .closed, drainDeadline := none, closeRequest := none }

def confirmTransportClosed (reason : CloseReason) : Run B D C R Q W Unit := do
  Owner.change ({ · with transportState := .closed })
  let s ← Owner.read
  let t ← applyCore (.epochClosed s.epoch)
  interpretUnit t
  publishClosed reason

/-- A closure that cannot be confirmed aborts. -/
def settleCore (s : ConnectionSlot B D C R Q W) (reason : CloseReason) :
    ConnectionSlot B D C R Q W :=
  match confirmTransportClosed reason s with
  | (.ok (), s) => s
  | (.error error, s) => (s.latchFailure error).abortTransport

def settleTransportClosed (s : ConnectionSlot B D C R Q W) : Bool × ConnectionSlot B D C R Q W :=
  match s.takeCloseRequest with
  | (none, s) => (false, s)
  | (some .abort, s) => (true, s.abortTransport)
  | (some (.core reason .immediate), s) => (true, s.settleCore reason)
  | (some (.core reason .complete), s) => (true, s.settleCore reason)
  | (some (.core _ _), s) => (false, s)

/-! ### Admission -/

def reserve (s : ConnectionSlot B D C R Q W) (now : ℕ) (options : OperationOptions) :
    Except ReserveError OperationPermit × ConnectionSlot B D C R Q W :=
  if s.state.failure.isSome then (.error .ownerPoisoned, s)
  else
    match s.core.reserve s.debug now options with
    | (.error error, core) =>
      let s := { s with core }
      (.error error, if error = .ownerPoisoned then s.latchOwnerFailure .core else s)
    | (.ok permit, core) =>
      if EventBatch.len s.outcomes +
        core.machine.ledger.operations > s.limits.operationCapacity then
        (.error .operationCapacity, { s with core := core.dropPermit permit })
      else (.ok permit, { s with core })

def commit (s : ConnectionSlot B D C R Q W) (permit : OperationPermit) (frame : OutboundFrame) :
    Except EngineCommitError OperationId × ConnectionSlot B D C R Q W :=
  match s.state.failure with
  | some reason => (.error (.ownerFailed reason permit frame), s)
  | none =>
    match s.core.commit s.debug permit frame OutboundFrame.view with
    | (.error error, core) =>
      let s := { s with core }
      if error.failure = .policy .ownerPoisoned then
        (.error (.ownerFailed .core error.permit error.frame), s.latchOwnerFailure .core)
      else (.error (.rejected error), s)
    | (.ok (operation, t), core) =>
      match interpretUnit t { s with core } with
      | (.error source, s) =>
        (.error (.acceptedOwnerFailure operation source), s.latchFailure source)
      | (.ok (), s) => (.ok operation, s)

/-! ### Recovery -/

end ConnectionSlot

/-- The contents of an owner that could not go on. -/
structure RecoveryReport (R : Type) where
  epoch : ConnectionEpoch
  reason : OwnerFailure
  operations : List (RecoveredOperation OutboundFrame)
  unmatchedWrites : List (DiscardedWrite OutboundFrame)
  outcomes : List (EngineOutcome R)
  events : List ConnectionEvent
  transportDiagnostic : Option TransportDiagnostic
  transportPressure : Option TransportPressure
  transportRetainedLimit : Option ℕ
  transportRetainedCeiling : Option ℕ
  ownershipDiverged : Bool

namespace ConnectionSlot

variable {B D C R E : Type} {Q W : Type → Type} [ByteBudget B] [FrameDecoder D R E] [Retained R]
  [EventBatch Q] [TimerQueue W]

def recoverOwned (s : ConnectionSlot B D C R Q W) (reason : OwnerFailure) (cleanupFailed : Bool) :
    RecoveryReport R × ConnectionSlot B D C R Q W :=
  let (recovery, core) := s.core.recover
  ({ epoch := recovery.epoch
     reason
     operations := recovery.operations
     unmatchedWrites := recovery.unmatchedWrites
     outcomes := (EventBatch.drain s.outcomes).1 ++ (EventBatch.drain s.recoveryOutcomes).1
     events := (EventBatch.drain s.lifecycle).1 ++ (EventBatch.drain s.recoveryEvents).1
     transportDiagnostic := s.transportDiagnostic
     transportPressure := s.transportPressure
     transportRetainedLimit := s.transportRetainedLimit
     transportRetainedCeiling := some s.limits.transportRetainedBytes
     ownershipDiverged :=
       recovery.ownershipDiverged || cleanupFailed || s.transportContractDiverged },
    { s with
      core
      outcomes := (EventBatch.drain s.outcomes).2
      recoveryOutcomes := (EventBatch.drain s.recoveryOutcomes).2
      lifecycle := (EventBatch.drain s.lifecycle).2
      recoveryEvents := (EventBatch.drain s.recoveryEvents).2 })

def recover (s : ConnectionSlot B D C R Q W) (reason : OwnerFailure) : RecoveryReport R :=
  (s.recoverOwned reason false).1

end ConnectionSlot
end Bornera.Slot
