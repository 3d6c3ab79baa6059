import Bornera.Core.Recovery

/-!
# The data of one connection slot

Limits, configuration, frames, publications, failures and transport reports of the selector-free
owner (`config/{identity,slot_limits}.rs`, `frame.rs`, `outcome.rs`, `event.rs`, `error.rs`,
`snapshot.rs`, `transport/{budget,progress,pressure,error}.rs` and the types of `slot.rs`).

Failure values of foreign queues are left out: only that an insertion failed matters here.
-/

namespace Bornera.Slot

open Bornera.Core

/-- Values that report the memory they retain. The report is taken to be a function of the value: it
does not change while the value is only looked at. -/
class Retained (α : Type) where
  retainedBytes : α → ℕ

/-! ### Frames and publications -/

/-- A complete outbound frame; its retained bytes account for what it shows. -/
structure OutboundFrame where
  bytes : List UInt8
  retained : ℕ
  visible_le : bytes.length ≤ retained
  retained_le : retained ≤ u64Max

inductive OutboundFrameError where
  | lengthOverflow
  | underreported (visible retained : ℕ)
  deriving DecidableEq, Repr

namespace OutboundFrame

def new (bytes : List UInt8) (retained : UInt64) : Except OutboundFrameError OutboundFrame :=
  if bytes.length ≤ u64Max then
    if h : bytes.length ≤ retained.toNat then
      .ok ⟨bytes, retained.toNat, h, toNat_le_u64Max retained⟩
    else .error (.underreported bytes.length retained.toNat)
  else .error .lengthOverflow

def copyFromSlice (bytes : List UInt8) : Except OutboundFrameError OutboundFrame :=
  if h : bytes.length ≤ u64Max then .ok ⟨bytes, bytes.length, le_rfl, h⟩ else .error .lengthOverflow

/-- What the writer sees of the frames of a slot: they never change. -/
def view : FrameView OutboundFrame where
  bytes := OutboundFrame.bytes
  retainedBytes := OutboundFrame.retained
  bytes_le frame := frame.visible_le.trans frame.retained_le

end OutboundFrame

/-- A terminal outcome, labeled with its connection lifetime and operation. -/
structure EngineOutcome (R : Type) where
  epoch : ConnectionEpoch
  operation : OperationId
  outcome : OperationOutcome R
  deriving DecidableEq, Repr

/-- Only a reply retains memory of its own. -/
def outcomeBytes {R : Type} [Retained R] : OperationOutcome R → ℕ
  | .reply frame => Retained.retainedBytes frame
  | _ => 0

instance {R : Type} [Retained R] : Retained (EngineOutcome R) := ⟨fun o => outcomeBytes o.outcome⟩

inductive ConnectionEvent where
  | transportOpened (sequence : ℕ) (epoch : ConnectionEpoch)
  | admissionOpened (sequence : ℕ) (epoch : ConnectionEpoch)
  | closing (sequence : ℕ) (epoch : ConnectionEpoch) (reason : CloseReason)
  | closed (sequence : ℕ) (epoch : ConnectionEpoch) (reason : CloseReason)
  deriving DecidableEq, Repr

def ConnectionEvent.sequence : ConnectionEvent → ℕ
  | .transportOpened sequence _ => sequence
  | .admissionOpened sequence _ => sequence
  | .closing sequence _ _ => sequence
  | .closed sequence _ _ => sequence

instance : Retained ConnectionEvent := ⟨fun _ => 0⟩

/-! ### Limits and configuration -/

/-- The bounds of a bounded queue of events. -/
structure EventBatchLimits where
  maxEvents : ℕ
  maxRetainedBytes : ℕ
  deriving DecidableEq, Repr

structure TimerLimits where
  maxTimers : ℕ
  maxRetainedBytes : ℕ
  deriving DecidableEq, Repr

inductive ConnectionSlotLimitsError where
  | zeroOperationCapacity | outcomeRetainedOverflow
  deriving DecidableEq, Repr

/-- Hard bounds of one slot. -/
structure ConnectionSlotLimits where
  connection : ConnectionLimits
  decoderBytes : ℕ
  replyBytes : ℕ
  ioOperations : ℕ
  ioChunkBytes : ℕ
  transportRetainedBytes : ℕ
  lifecycleEvents : ℕ
  outcomeBytes : ℕ
  operationCapacity : ℕ
  operations_pos : 0 < ioOperations
  chunk_pos : 0 < ioChunkBytes
  lifecycle_pos : 0 < lifecycleEvents
  decoder_le : decoderBytes ≤ u64Max
  outcome_eq : outcomeBytes = replyBytes * connection.maxOperations
  outcome_le : outcomeBytes ≤ u64Max
  capacity_eq : operationCapacity = connection.maxOperations

namespace ConnectionSlotLimits

/-- The byte counts are `u64`, and the counts of events, operations and chunk bytes nonzero. -/
def new (connection : ConnectionLimits) (decoderBytes replyBytes : UInt64)
    (ioOperations ioChunkBytes : ℕ+) (transportRetainedBytes : UInt64)
    (lifecycleEvents : ℕ+) : Except ConnectionSlotLimitsError ConnectionSlotLimits :=
  if h : replyBytes.toNat * connection.maxOperations ≤ u64Max then
    .ok {
      connection
      decoderBytes := decoderBytes.toNat
      replyBytes := replyBytes.toNat
      ioOperations
      ioChunkBytes
      transportRetainedBytes := transportRetainedBytes.toNat
      lifecycleEvents
      outcomeBytes := replyBytes.toNat * connection.maxOperations
      operationCapacity := connection.maxOperations
      operations_pos := ioOperations.pos
      chunk_pos := ioChunkBytes.pos
      lifecycle_pos := lifecycleEvents.pos
      decoder_le := toNat_le_u64Max decoderBytes
      outcome_eq := rfl
      outcome_le := h
      capacity_eq := rfl }
  else .error .outcomeRetainedOverflow

variable (l : ConnectionSlotLimits)

def timers : TimerLimits := ⟨l.operationCapacity, 0⟩

def outcomes : EventBatchLimits := ⟨l.operationCapacity, l.outcomeBytes⟩

def lifecycle : EventBatchLimits := ⟨l.lifecycleEvents, 0⟩

/-- One epoch has four lifecycle edges. -/
def recoveryLifecycle : EventBatchLimits := ⟨max l.lifecycleEvents 4, 0⟩

end ConnectionSlotLimits

inductive TcpNoDelay where
  | enabled | disabled
  deriving DecidableEq, Repr

/-- Socket behavior applied once the transport is connected. -/
structure TcpSocketPolicy where
  noDelay : TcpNoDelay
  keepalive : Option ℕ+
  deriving DecidableEq

/-- What a slot is told about its connection epoch. `ledgerId` names the ledger of its core, and
`debug` says whether debug assertions are compiled in. -/
structure ConnectionSlotConfig where
  epoch : ConnectionEpoch
  connectDeadline : Deadline
  timerOwner : ℕ
  socketPolicy : TcpSocketPolicy
  ledgerId : ℕ
  debug : Bool

/-! ### Transport reports -/

inductive TransportState where
  | connecting | opened | closing | closed
  deriving DecidableEq, Repr

/-- The portable category of an I/O error; the slot tells these from the others. -/
inductive IoErrorKind where
  | wouldBlock | timedOut | other
  | unnamed (code : ℕ)
  deriving DecidableEq, Repr

structure IoError where
  kind : IoErrorKind
  rawOsError : Option ℤ
  deriving DecidableEq, Repr

inductive TransportFailurePhase where
  | connect | socketPolicy | establishment | transportRead | transportWrite | read | write
  | shutdown | pressure | readiness
  deriving DecidableEq, Repr

inductive TransportFailureKind where
  | io | protocol | certificate | serverName | truncated | capacity | timedOut | contract
  deriving DecidableEq, Repr

structure TransportDiagnostic where
  phase : TransportFailurePhase
  failure : TransportFailureKind
  kind : IoErrorKind
  rawOsError : Option ℤ
  code : Option ℕ
  deriving DecidableEq, Repr

namespace TransportDiagnostic

def new (phase : TransportFailurePhase) (failure : TransportFailureKind) (kind : IoErrorKind)
    (code : Option ℕ) : TransportDiagnostic :=
  ⟨phase, failure, kind, none, code⟩

def fromIo (phase : TransportFailurePhase) (error : IoError) : TransportDiagnostic :=
  ⟨phase, .io, error.kind, error.rawOsError, none⟩

def inPhase (d : TransportDiagnostic) (phase : TransportFailurePhase) : TransportDiagnostic :=
  { d with phase }

end TransportDiagnostic

/-- Hard bounds of one progression call. -/
structure TransportBudget where
  operations : ℕ+
  readBytes : ℕ+
  writeBytes : ℕ+
  deriving DecidableEq

/-- The work reported by one progression call. A report of bytes counts an operation. -/
structure TransportProgress where
  operations : ℕ
  readBytes : ℕ
  writtenBytes : ℕ
  counted : operations = 0 → readBytes = 0 ∧ writtenBytes = 0
  deriving DecidableEq

namespace TransportProgress

def idle : TransportProgress := ⟨0, 0, 0, fun _ => ⟨rfl, rfl⟩⟩

def new (operations : ℕ+) (readBytes writtenBytes : ℕ) : TransportProgress :=
  ⟨operations, readBytes, writtenBytes, fun h => absurd h operations.ne_zero⟩

def fits (p : TransportProgress) (budget : TransportBudget) : Bool :=
  p.operations ≤ budget.operations && p.readBytes ≤ budget.readBytes &&
    p.writtenBytes ≤ budget.writeBytes

def isIdle (p : TransportProgress) : Bool :=
  p.operations = 0 && p.readBytes = 0 && p.writtenBytes = 0

end TransportProgress

/-- The accounted memory of one transport. -/
structure TransportPressure where
  inbound : ℕ
  outbound : ℕ
  plaintext : ℕ
  protocol : ℕ
  total_le : inbound + outbound + plaintext + protocol ≤ u64Max
  deriving DecidableEq

def TransportPressure.total (p : TransportPressure) : ℕ :=
  p.inbound + p.outbound + p.plaintext + p.protocol

/-! ### Failures -/

inductive OwnerFailure where
  | core | readiness | ownerInvariant
  deriving DecidableEq, Repr

inductive EngineInvariant where
  | resourceToken
  | unexpectedDiscardEffect
  | unexpectedUnitReply
  | deadlineIndexCapacity
  | deadlineSchedule
  | outcomePublication
  | recoveryOutcomePublication
  | lifecyclePublication
  | recoveryLifecyclePublication
  | eventSequenceExhausted
  | missingCloseReason
  | missingShutdownDeadline
  | unsupportedCoreEffect
  | transportReadContract (capacity reported : ℕ)
  | transportProgressContract (budget : TransportBudget) (reported : TransportProgress)
  | transportOpenedBeforeEstablishment
  | transportRetainedCapacity (limit : ℕ) (reported : TransportPressure)
  | transportLimitContract (limit reported : ℕ)
  | transportNoProgress
  deriving DecidableEq

/-- A failure of the readiness backend; `io` carries the error of the operating system. -/
inductive MioError where
  | io (source : IoError)
  | other
  deriving DecidableEq, Repr

inductive EngineError where
  | mio (source : MioError)
  | core (source : ConnectionCoreError)
  | invariant (source : EngineInvariant)
  | ownerFailed (reason : OwnerFailure)
  deriving DecidableEq

def OwnerFailure.ofError : EngineError → OwnerFailure
  | .core _ => .core
  | .mio _ => .readiness
  | .invariant _ => .ownerInvariant
  | .ownerFailed reason => reason

inductive EngineState where
  | running
  | failed (reason : OwnerFailure)
  deriving DecidableEq, Repr

def EngineState.failure : EngineState → Option OwnerFailure
  | .running => none
  | .failed reason => some reason

inductive EngineCommitError where
  | rejected (error : FrameCommitError OutboundFrame)
  | acceptedOwnerFailure (operation : OperationId) (source : EngineError)
  | ownerFailed (reason : OwnerFailure) (permit : OperationPermit) (frame : OutboundFrame)

/-! ### The parts of a slot -/

structure DeadlineEvent where
  epoch : ConnectionEpoch
  operation : OperationId
  deriving DecidableEq, Repr

instance : Retained DeadlineEvent := ⟨fun _ => 0⟩

inductive IoPreference where
  | transport | decode | read | write
  deriving DecidableEq, Repr

def IoPreference.next : IoPreference → IoPreference
  | .transport => .decode
  | .decode => .read
  | .read => .write
  | .write => .transport

inductive ShutdownState where
  | immediate
  | pending (deadline : Deadline)
  | started (deadline : Deadline)
  | complete
  deriving DecidableEq, Repr

inductive CloseDirective where
  | core (reason : CloseReason) (shutdown : ShutdownState)
  | abort
  deriving DecidableEq, Repr

namespace CloseDirective

def settlementReady : CloseDirective → Bool
  | .core _ .immediate => true
  | .core _ .complete => true
  | .core _ (.pending _) => false
  | .core _ (.started _) => false
  | .abort => true

def shutdownDeadline : CloseDirective → Option Deadline
  | .core _ (.pending deadline) => some deadline
  | .core _ (.started deadline) => some deadline
  | .core _ _ => none
  | .abort => none

end CloseDirective
end Bornera.Slot
