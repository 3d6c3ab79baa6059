import Bornera.Slot.Owner

/-!
# Driving a slot

The bounded progression of a slot and its transport (`drive/{slot,deadline,transport,application,
shutdown,pressure}.rs`). A quantum handles elapsed deadlines, then rotates between transport work,
decoding, reading and writing until nothing is ready or its budget is used up; once a close is
pending it only drives the shutdown. Every step ends with a look at the transport's memory.
-/

namespace Bornera.Core.ConnectionCore

variable {B F : Type}

def queuedWriteFrames (c : ConnectionCore B F) : ℕ := c.writes.frames.length

def frontWriteIsEmpty (c : ConnectionCore B F) : Bool :=
  c.writes.frames.head?.any (·.measure.wireBytes = 0)

end Bornera.Core.ConnectionCore

namespace Bornera.Slot

open Bornera.Core Lib

/-- The computations of a slot with its transport. -/
abbrev Driving (B D C R : Type) (Q W : Type → Type) (T α : Type) : Type :=
  Owner EngineError (ConnectionSlot B D C R Q W × T) α

/-- Bounded work, and whether more was ready at the bound. -/
structure SlotProgress where
  work : ℕ
  saturated : Bool
  deriving DecidableEq, Repr

namespace ConnectionSlot

variable {B D C R E T : Type} {Q W : Type → Type} [ByteBudget B] [FrameDecoder D R E] [Retained R]
  [InboundClassifier C R] [EventBatch Q] [TimerQueue W] [SlotTransport T]

/-- The slot. -/
def slot : Driving B D C R Q W T (ConnectionSlot B D C R Q W) := Owner.reads Prod.fst

/-- Changes the slot. -/
def changeSlot (f : ConnectionSlot B D C R Q W → ConnectionSlot B D C R Q W) :
    Driving B D C R Q W T Unit :=
  Owner.onFst (Owner.change f)

/-! ### Memory of the transport -/

def observeTransportPressure : Driving B D C R Q W T TransportPressure := do
  let pressure ← Owner.ask SlotTransport.pressure
  changeSlot ({ · with transportPressure := some pressure })
  pure pressure

/-- The contract on memory is broken. -/
def diverge (s : ConnectionSlot B D C R Q W) (failure : TransportFailureKind) :
    ConnectionSlot B D C R Q W :=
  { s with
    transportContractDiverged := true
    transportDiagnostic := some (.new .pressure failure .other none) }

def captureTransportPressure : Driving B D C R Q W T Unit := do
  let reported ← Owner.ask SlotTransport.pressureLimit
  let s ← slot
  if s.limits.transportRetainedBytes < reported ∨ s.transportRetainedLimit.any (· ≠ reported) then
    let _ ← observeTransportPressure
    changeSlot (·.diverge .contract)
    Owner.fail (.invariant (.transportLimitContract
      (s.transportRetainedLimit.getD s.limits.transportRetainedBytes) reported))
  else
    changeSlot ({ · with transportRetainedLimit := some reported })
    let pressure ← observeTransportPressure
    if pressure.total ≤ reported then pure ()
    else
      changeSlot (·.diverge .capacity)
      Owner.fail (.invariant (.transportRetainedCapacity reported pressure))

/-! ### Deadlines -/

/-- The drain deadline is elapsed, and no operation or connect deadline comes before it. -/
def drainFirst (s : ConnectionSlot B D C R Q W) (now : ℕ) : Bool :=
  s.drainDeadline.any fun deadline => deadline.isElapsedAt now &&
    (TimerQueue.nextDeadline s.timers).all (deadline.moment ≤ ·.moment) &&
    (!s.isConnecting || deadline.moment ≤ s.connectDeadline.moment)

def connectFirst (s : ConnectionSlot B D C R Q W) (now : ℕ) : Bool :=
  s.isConnecting && s.connectDeadline.isElapsedAt now &&
    (TimerQueue.nextDeadline s.timers).all (s.connectDeadline.moment ≤ ·.moment)

/-- Takes a due timer out of the queue and out of the index. -/
def popDue (s : ConnectionSlot B D C R Q W) (now : ℕ) :
    Option DeadlineEvent × ConnectionSlot B D C R Q W :=
  match TimerQueue.popDue s.timers now with
  | (none, timers) => (none, { s with timers })
  | (some (token, event), timers) =>
    (some event,
      { s with
        timers
        deadlines := match s.deadlines.findIdx? (·.token = token) with
          | none => s.deadlines
          | some index => swapRemove s.deadlines index })

/-- The loop over the deadlines elapsed at `now`; its answer counts the turns. -/
def driveDeadlines (now : ℕ) : ℕ → Run B D C R Q W ℕ
  | 0 => pure 0
  | budget + 1 => do
    let s ← Owner.read
    if s.drainFirst now then
      Owner.change fun s =>
        { s.recordTransportFailure (.new .shutdown .timedOut .timedOut none) with
          drainDeadline := none }
      closeFor .requested
      pure 1
    else if s.connectFirst now then
      closeFor .connectTimedOut
      pure 1
    else
      match ← Owner.update (·.popDue now) with
      | none => pure 0
      | some event =>
        let t ← applyCore (.deadlineElapsed event.epoch event.operation now)
        interpretUnit t
        let s ← Owner.read
        if s.closeRequest.isSome then pure 1
        else
          let work ← driveDeadlines now budget
          pure (work + 1)

def hasDueDeadline (s : ConnectionSlot B D C R Q W) (now : ℕ) : Bool :=
  (s.isConnecting && s.connectDeadline.isElapsedAt now) ||
    s.drainDeadline.any (·.isElapsedAt now) ||
    (TimerQueue.nextDeadline s.timers).any (·.isElapsedAt now)

/-! ### Transport work -/

def transportBudget (s : ConnectionSlot B D C R Q W) : TransportBudget :=
  ⟨1, ⟨s.limits.ioChunkBytes, s.limits.chunk_pos⟩, ⟨s.limits.ioChunkBytes, s.limits.chunk_pos⟩⟩

def validateTransportProgress (budget : TransportBudget) (progress : TransportProgress) :
    Except EngineError Unit :=
  if !progress.fits budget then .error (.invariant (.transportProgressContract budget progress))
  else if progress.isIdle then .error (.invariant .transportNoProgress)
  else .ok ()

def establish : Driving B D C R Q W T (Option ℕ) := do
  let s ← slot
  if ← Owner.ask SlotTransport.canEstablish then
    match ← Owner.ask (SlotTransport.driveEstablishment · s.socketPolicy s.transportBudget) with
    | .error source =>
      changeSlot (·.recordTransportFailure source)
      Owner.onFst (closeFor .connectFailed)
      pure (some 1)
    | .ok progress =>
      Owner.settle (validateTransportProgress s.transportBudget progress)
      if ← Owner.ask SlotTransport.isOpen then
        changeSlot ({ · with transportState := .opened })
        Owner.onFst publishTransportOpened
      pure (some progress.operations)
  else pure none

def driveTransportWork : Driving B D C R Q W T (Option ℕ) := do
  let s ← slot
  if ← Owner.ask SlotTransport.hasTransportWork then
    match ← Owner.ask (SlotTransport.driveTransport · s.transportBudget) with
    | .error source =>
      changeSlot (·.recordTransportFailure source)
      Owner.onFst (closeFor .transportLost)
      pure (some 1)
    | .ok progress =>
      Owner.settle (validateTransportProgress s.transportBudget progress)
      pure (some progress.operations)
  else pure none

def driveTransportOnce (remaining : ℕ) : Driving B D C R Q W T (Option ℕ) := do
  let s ← slot
  if s.isConnecting then
    if ← Owner.ask SlotTransport.isOpen then
      Owner.fail (.invariant .transportOpenedBeforeEstablishment)
    else if remaining = 0 then pure none
    else establish
  else if remaining = 0 then pure none
  else driveTransportWork

/-! ### Decoding, reading and writing -/

def applyReplyCore (key : MatchKey) (frame : R) :
    Run B D C R Q W (ConnectionTransition R) := fun s =>
  onCore (ConnectionCore.applyReply s.debug ⟨s.epoch, key, frame⟩) s

/-- Hands one complete frame to the core. -/
def deliver (frame : R) : Run B D C R Q W Unit := do
  let s ← Owner.read
  if s.limits.replyBytes < Retained.retainedBytes frame then closeFor .inboundRetainedCapacity
  else
    match ← Owner.update fun s => ((InboundClassifier.replyKey s.classifier frame).1,
        { s with classifier := (InboundClassifier.replyKey s.classifier frame).2 }) with
    | none => closeMalformed
    | some key =>
      let t ← applyReplyCore key frame
      interpretReply t

def driveDecoderOnce : Run B D C R Q W Unit := do
  match ← Owner.update fun s =>
    (s.decoder.nextFrame.1, { s with decoder := s.decoder.nextFrame.2 }) with
  | .ok (some frame) => deliver frame
  | .ok none =>
    Owner.change ({ · with decoderPending := false })
    let s ← Owner.read
    if s.limits.decoderBytes ≤ s.decoder.retainedBytes then closeFor .inboundRetainedCapacity
  | .error error =>
    Owner.change ({ · with decoderPending := false })
    closeDecodeError error

/-- The room a read has: what the decoder may still retain, within the buffer. -/
def readLength (s : ConnectionSlot B D C R Q W) : ℕ :=
  min (s.limits.decoderBytes - s.decoder.retainedBytes) s.readBuffer.length

/-- Reads into the front of the buffer. -/
def readInto : Driving B D C R Q W T (Except IoError ℕ) := fun s =>
  let slice : List.Vector UInt8 s.1.readLength :=
    ⟨s.1.readBuffer.take s.1.readLength, by rw [List.length_take, readLength]; omega⟩
  match SlotTransport.read s.2 slice with
  | ((result, filled), t) =>
    (.ok result, { s.1 with readBuffer := filled.toList ++ s.1.readBuffer.drop s.1.readLength }, t)

/-- Feeds the first bytes of the buffer to the decoder. -/
def feedDecoder (read : ℕ) : Run B D C R Q W Unit := do
  match ← Owner.update fun s => ((s.decoder.feed (s.readBuffer.take read)).1,
      { s with decoder := (s.decoder.feed (s.readBuffer.take read)).2 }) with
  | .error error => closeDecodeError error
  | .ok () => Owner.change ({ · with decoderPending := true })

def driveReadOnce : Driving B D C R Q W T (Option ℕ) := do
  if ← Owner.ask SlotTransport.canRead then
    let s ← slot
    if s.readLength = 0 then
      Owner.onFst (closeFor .inboundRetainedCapacity)
      pure (some 1)
    else
      match ← readInto with
      | .ok 0 => Owner.onFst (closeFor .transportLost)
      | .ok read =>
        if s.readLength < read then
          Owner.fail (.invariant (.transportReadContract s.readLength read))
        else Owner.onFst (feedDecoder read)
      | .error source =>
        if source.kind = .wouldBlock then Owner.ask fun t => ((), SlotTransport.clearRead t)
        else
          changeSlot (·.recordTransportFailure (.fromIo .read source))
          Owner.onFst (closeFor .transportLost)
      pure (some 1)
  else pure none

def frontWriteCore : Run B D C R Q W (Option WriteSlice) := fun s =>
  onCore (ConnectionCore.frontWrite · OutboundFrame.view s.limits.ioChunkBytes) s

/-- Reports written bytes of the front frame. -/
def advanceCore (front : WriteSlice) (written : ℕ) : Run B D C R Q W Unit := do
  let t ← onCore (ConnectionCore.advanceWrite front.epoch front.effect written)
  interpretUnit t

def writeFront (front : WriteSlice) : Driving B D C R Q W T Unit := do
  match ← Owner.ask (SlotTransport.write · front.bytes) with
  | .ok 0 => Owner.onFst (closeFor .transportLost)
  | .ok written => Owner.onFst (advanceCore front written)
  | .error source =>
    if source.kind = .wouldBlock then Owner.ask fun t => ((), SlotTransport.clearWrite t)
    else
      changeSlot (·.recordTransportFailure (.fromIo .write source))
      Owner.onFst (closeFor .transportLost)

def driveWriteOnce : Driving B D C R Q W T (Option ℕ) := do
  if ← Owner.ask SlotTransport.isOpen then
    match ← Owner.onFst frontWriteCore with
    | none => pure none
    | some front =>
      if front.bytes.isEmpty then
        Owner.onFst (advanceCore front 0)
        pure (some 1)
      else if ← Owner.ask SlotTransport.canWrite then
        writeFront front
        pure (some 1)
      else pure none
  else pure none

def desiredInterest : Driving B D C R Q W T Interest := do
  let s ← slot
  Owner.ask (SlotTransport.desiredInterest · (0 < s.core.queuedWriteFrames))

def hasRunnableIo : Driving B D C R Q W T Bool := do
  let s ← slot
  Owner.either (pure s.decoderPending) <|
    Owner.either (Owner.both (pure s.isConnecting)
      (Owner.either (Owner.ask SlotTransport.isOpen) (Owner.ask SlotTransport.canEstablish))) <|
    Owner.either (Owner.both (pure s.isTransportOpen) (Owner.ask SlotTransport.hasTransportWork)) <|
    Owner.either (Owner.both (pure s.isTransportOpen) (Owner.ask SlotTransport.canRead)) <|
    Owner.both (pure s.isTransportOpen) <| Owner.both (Owner.ask SlotTransport.isOpen) <|
    Owner.both (pure (0 < s.core.queuedWriteFrames : Bool)) <|
    Owner.either (pure s.core.frontWriteIsEmpty) (Owner.ask SlotTransport.canWrite)

/-! ### Shutdown -/

def shutdownTimedOut (s : ConnectionSlot B D C R Q W) (reason : CloseReason) :
    ConnectionSlot B D C R Q W :=
  (s.recordTransportFailure (.new .shutdown .timedOut .timedOut
    none)).forceShutdownSettlement reason

def completeShutdown (s : ConnectionSlot B D C R Q W) (reason : CloseReason) :
    ConnectionSlot B D C R Q W :=
  { s with closeRequest := some (.core reason .complete) }

/-- A step of the shutdown: `drive` is the method of the transport that makes it. -/
def shutdownStep (reason : CloseReason) (deadline : Deadline)
    (drive : T → TransportBudget → Except TransportDiagnostic TransportProgress × T) :
    Driving B D C R Q W T (Option ℕ) := do
  let s ← slot
  let result ← Owner.ask (drive · s.transportBudget)
  let pressure ← captureTransportPressure.attempt
  match result with
  | .error source =>
    changeSlot fun s =>
      (s.recordTransportFailure (source.inPhase .shutdown)).forceShutdownSettlement reason
    Owner.settle pressure
    pure (some 1)
  | .ok progress =>
    match pressure with
    | .error error =>
      changeSlot (·.forceShutdownSettlement reason)
      Owner.fail error
    | .ok () =>
      match validateTransportProgress s.transportBudget progress with
      | .error error =>
        changeSlot (·.forceShutdownSettlement reason)
        Owner.fail error
      | .ok () =>
        let complete ← Owner.ask SlotTransport.isShutdownComplete
        changeSlot ({ · with
          closeRequest := some (.core reason (if complete then .complete else .started deadline)) })
        pure (some progress.operations)

/-- A shutdown that has begun. -/
def driveStarted (reason : CloseReason) (deadline : Deadline) :
    Driving B D C R Q W T (Option ℕ) := do
  if ← Owner.ask SlotTransport.isShutdownComplete then
    changeSlot (·.completeShutdown reason)
    pure none
  else if ← Owner.ask SlotTransport.hasTransportWork then
    shutdownStep reason deadline SlotTransport.driveTransport
  else pure none

def driveShutdownOnce (now remaining : ℕ) : Driving B D C R Q W T (Option ℕ) := do
  let s ← slot
  match s.closeRequest with
  | some (.core reason (.pending deadline)) =>
    if deadline.isElapsedAt now then
      changeSlot (·.shutdownTimedOut reason)
      pure (some 1)
    else if remaining = 0 then pure none
    else shutdownStep reason deadline SlotTransport.beginShutdown
  | some (.core reason (.started deadline)) =>
    if deadline.isElapsedAt now then
      changeSlot (·.shutdownTimedOut reason)
      pure (some 1)
    else if remaining = 0 then pure none
    else driveStarted reason deadline
  | _ => pure none

def observeShutdownComplete : Driving B D C R Q W T Unit := do
  let s ← slot
  match s.closeRequest with
  | some (.core reason (.started _)) =>
    if ← Owner.ask SlotTransport.isShutdownComplete then changeSlot (·.completeShutdown reason)
  | _ => pure ()

def hasRunnableShutdown (now : ℕ) : Driving B D C R Q W T Bool := do
  let s ← slot
  match s.closeRequest with
  | some (.core _ (.pending _)) => pure true
  | some (.core _ (.started deadline)) =>
    Owner.either (pure (deadline.isElapsedAt now)) <|
      Owner.either (Owner.ask SlotTransport.isShutdownComplete)
        (Owner.ask SlotTransport.hasTransportWork)
  | _ => pure false

/-! ### The quantum -/

/-- One class of I/O. -/
def driveClass (remaining : ℕ) : IoPreference → Driving B D C R Q W T (Option ℕ)
  | .transport => driveTransportOnce remaining
  | .decode => do
    let s ← slot
    if s.decoderPending then
      Owner.onFst driveDecoderOnce
      pure (some 1)
    else pure none
  | .read => do
    let s ← slot
    if s.isTransportOpen then driveReadOnce else pure none
  | .write => do
    let s ← slot
    if s.isTransportOpen then driveWriteOnce else pure none

/-- The rotation from one class on, for a number of classes. -/
def driveFrom (remaining : ℕ) : ℕ → IoPreference → Driving B D C R Q W T (Option ℕ)
  | 0, _ => pure none
  | classes + 1, current => do
    let result ← (driveClass remaining current).attempt
    let pressure ← captureTransportPressure.attempt
    match ← Owner.settle result with
    | some progressed =>
      Owner.settle pressure
      changeSlot ({ · with ioPreference := current.next })
      pure (some progressed)
    | none =>
      Owner.settle pressure
      driveFrom remaining classes current.next

def driveReadyOnce (remaining : ℕ) : Driving B D C R Q W T (Option ℕ) := do
  let s ← slot
  driveFrom remaining 4 s.ioPreference

/-- A computation with the transport, when there is one. -/
def withTransport {α : Type} (absent : Run B D C R Q W α) (m : Driving B D C R Q W T α) :
    Driving B D C R Q W (Option T) α := fun s =>
  match s.2 with
  | none => ((absent s.1).1, (absent s.1).2, none)
  | some t => ((m (s.1, t)).1, (m (s.1, t)).2.1, some (m (s.1, t)).2.2)

/-- Decoding goes on without a transport. -/
def driveDecoderAlone : Run B D C R Q W (Option ℕ) := do
  let s ← Owner.read
  if s.decoderPending then
    driveDecoderOnce
    Owner.change ({ · with ioPreference := .read })
    pure (some 1)
  else pure none

/-- The loop of `drive_io`; its first argument bounds the turns. -/
def ioLoop (budget : ℕ) : ℕ → ℕ → Driving B D C R Q W (Option T) ℕ
  | 0, work => pure work
  | turns + 1, work => do
    let s ← slot
    if work < budget ∧ s.closeRequest = none then
      match ← withTransport driveDecoderAlone (driveReadyOnce (budget - work)) with
      | none => pure work
      | some progressed => ioLoop budget turns (work + progressed)
    else pure work

def driveIo (budget : ℕ) : Driving B D C R Q W (Option T) SlotProgress := do
  let work ← ioLoop budget budget 0
  let s ← slot
  let saturated ← Owner.both (pure (work = budget ∧ s.closeRequest = none : Bool)) <|
    Owner.either (pure s.decoderPending) (withTransport (pure false) hasRunnableIo)
  pure ⟨work, saturated⟩

/-- The loop of `drive_close_quantum`; its first argument bounds the turns. -/
def closeLoop (now budget : ℕ) : ℕ → ℕ → Driving B D C R Q W (Option T) ℕ
  | 0, work => pure work
  | turns + 1, work =>
    if work < budget then do
      match ← withTransport (pure none) (driveShutdownOnce now (budget - work)) with
      | none => pure work
      | some progressed => closeLoop now budget turns (work + progressed)
    else pure work

def driveCloseQuantum (now budget work : ℕ) : Driving B D C R Q W (Option T) SlotProgress := do
  let work ← closeLoop now budget (budget - work) work
  let saturated ← Owner.both (pure (work = budget : Bool)) <|
    withTransport (pure false) (hasRunnableShutdown now)
  pure ⟨work, saturated⟩

/-- The deadlines, unless a close is pending. -/
def drivePending (now budget : ℕ) : Run B D C R Q W ℕ := fun s =>
  if s.closeRequest = none then driveDeadlines now budget s else (.ok 0, s)

def driveQuantumInner (now : ℕ) : Driving B D C R Q W (Option T) SlotProgress := do
  withTransport (pure ()) captureTransportPressure
  let s ← slot
  let budget := s.limits.ioOperations
  let work ← Owner.onFst (drivePending now budget)
  let s ← slot
  if s.closeRequest.isSome then driveCloseQuantum now budget work
  else if work = budget then
    let runnable ← Owner.either (pure s.decoderPending) (withTransport (pure false) hasRunnableIo)
    pure ⟨work, s.hasDueDeadline now || runnable⟩
  else
    let io ← driveIo (budget - work)
    let s ← slot
    if s.closeRequest.isSome then driveCloseQuantum now budget (work + io.work)
    else pure ⟨work + io.work, io.saturated⟩

/-- A running slot runs the quantum and latches its failure. -/
def driveQuantum (now : ℕ) : Driving B D C R Q W (Option T) SlotProgress := fun s =>
  match ensureRunning s.1 with
  | (.error error, slot) => (.error error, slot, s.2)
  | (.ok (), slot) =>
    match driveQuantumInner now (slot, s.2) with
    | (.ok progress, s) => (.ok progress, s)
    | (.error error, slot, t) => (.error error, slot.latchFailure error, t)

end ConnectionSlot
end Bornera.Slot
