import Mathlib.Tactic

/-!
# The data of one connection epoch

Identities, limits, options, outcomes, effects and inputs of the deterministic connection policy
(`delivery.rs`, `identity.rs`, `limits.rs`, `admission/{gate,options,error}.rs`,
`operation/{record,outcome}.rs`, `connection/{effect,input,transition,core_error}.rs`,
`write/{frame,error,state}.rs`).

Machine integers, moments and retained bytes are naturals; `u64` and `usize` are both 64
bits wide and appear where the code checks for overflow. Match keys are `UInt32`, since
their hash and their number matter.
-/

namespace Bornera.Core

/-! ### Fixed-width arithmetic -/

/-- The largest `u64`, and the largest `usize`. -/
def u64Max : ℕ := 2 ^ 64 - 1

lemma toNat_le_u64Max (n : UInt64) : n.toNat ≤ u64Max := Nat.le_pred_of_lt n.toNat_lt

def checkedAdd (a b : ℕ) : Option ℕ := if a + b ≤ u64Max then some (a + b) else none

def checkedSub (a b : ℕ) : Option ℕ := if b ≤ a then some (a - b) else none

/-- An absolute deadline, a fixed-width monotonic moment in nanoseconds. -/
structure Deadline where
  moment : ℕ
  deriving DecidableEq, Repr

def Deadline.isElapsedAt (d : Deadline) (now : ℕ) : Bool := decide (d.moment ≤ now)

/-! ### Identities -/

/-- One exact lifetime of a physical connection. -/
structure ConnectionEpoch where
  get : ℕ
  deriving DecidableEq, Repr

/-- An accepted operation owned by one epoch. -/
structure OperationId where
  get : ℕ
  deriving DecidableEq, Repr

/-- A transport effect whose completion may return later. -/
structure EffectId where
  get : ℕ
  deriving DecidableEq, Repr

/-- A protocol-visible response matching identity. -/
structure MatchKey where
  get : UInt32
  deriving DecidableEq, Repr

/-- Initial values of the generated identities. -/
structure IdentitySeeds where
  operation : ℕ
  effect : ℕ
  deriving DecidableEq, Repr

/-- The next operation and effect identity, absent once a domain is exhausted. -/
structure IdentityGenerator where
  operation : Option ℕ
  effect : Option ℕ
  deriving DecidableEq, Repr

namespace IdentityGenerator

def new (seeds : IdentitySeeds) : IdentityGenerator := ⟨some seeds.operation, some seeds.effect⟩

def available (g : IdentityGenerator) : Bool := g.operation.isSome && g.effect.isSome

def take (g : IdentityGenerator) : Option (OperationId × EffectId) × IdentityGenerator :=
  match g.operation, g.effect with
  | some operation, some effect =>
    (some (⟨operation⟩, ⟨effect⟩), ⟨checkedAdd operation 1, checkedAdd effect 1⟩)
  | _, _ => (none, g)

end IdentityGenerator

/-! ### Limits -/

inductive LimitsError where
  | zeroOperationCapacity | zeroWriteCapacity | emptyMatchKeySpace
  deriving DecidableEq, Repr

/-- A nonempty inclusive range of match keys. -/
structure MatchKeySpace where
  first : MatchKey
  last : MatchKey
  nonempty : first.get ≤ last.get
  deriving DecidableEq

namespace MatchKeySpace

def new (first last : UInt32) : Except LimitsError MatchKeySpace :=
  if h : first ≤ last then .ok ⟨⟨first⟩, ⟨last⟩, h⟩ else .error .emptyMatchKeySpace

def next (s : MatchKeySpace) (current : MatchKey) : MatchKey :=
  if current.get = s.last.get then s.first else ⟨current.get + 1⟩

/-- The key lies in the range. -/
def Contains (s : MatchKeySpace) (key : MatchKey) : Prop :=
  s.first.get ≤ key.get ∧ key.get ≤ s.last.get

instance (s : MatchKeySpace) (key : MatchKey) : Decidable (s.Contains key) :=
  inferInstanceAs (Decidable (_ ∧ _))

end MatchKeySpace

/-- Bounded resources owned by one connection epoch. -/
structure ConnectionLimits where
  maxOperations : ℕ
  maxRetainedBytes : ℕ
  maxWriteFrames : ℕ
  maxWriteRetainedBytes : ℕ
  matchKeys : MatchKeySpace
  operations_pos : 0 < maxOperations
  frames_pos : 0 < maxWriteFrames
  writeRetained_le : maxWriteRetainedBytes ≤ u64Max
  deriving DecidableEq

def ConnectionLimits.new (maxOperations : ℕ) (maxRetainedBytes : UInt64) (maxWriteFrames : ℕ)
    (maxWriteRetainedBytes : UInt64) (matchKeys : MatchKeySpace) :
    Except LimitsError ConnectionLimits :=
  if ho : 0 < maxOperations then
    if hf : 0 < maxWriteFrames then
      .ok ⟨maxOperations, maxRetainedBytes.toNat, maxWriteFrames,
        maxWriteRetainedBytes.toNat, matchKeys,
        ho, hf, toNat_le_u64Max maxWriteRetainedBytes⟩
    else .error .zeroWriteCapacity
  else .error .zeroOperationCapacity

/-! ### Admission -/

inductive AdmissionClass where
  | session | regular
  deriving DecidableEq, Repr

inductive AdmissionGate where
  | sessionOnly | opened | draining | closed
  deriving DecidableEq, Repr

def AdmissionGate.admits : AdmissionGate → AdmissionClass → Bool
  | .sessionOnly, .session => true
  | .opened, .session => true
  | .opened, .regular => true
  | _, _ => false

inductive CompletionMode where
  | replyExpected | writeComplete
  deriving DecidableEq, Repr

structure OperationOptions where
  deadline : Deadline
  admissionClass : AdmissionClass := .regular
  retainedBytes : ℕ := 0
  writeRetainedBytes : ℕ := 0
  completionMode : CompletionMode := .replyExpected
  deriving DecidableEq, Repr

inductive ReserveError where
  | admissionClosed | deadlineElapsed | operationCapacity | retainedByteCapacity | writeCapacity
  | matchKeyExhausted | identityExhausted | ownerPoisoned
  deriving DecidableEq, Repr

inductive CommitErrorKind where
  | foreignPermit | admissionClosed | frameTooLarge | ownerPoisoned
  deriving DecidableEq, Repr

/-- Capacity held by one permit or accepted operation. -/
structure Reservation where
  retainedBytes : ℕ
  writeRetainedBytes : ℕ
  matchKey : MatchKey
  deriving DecidableEq, Repr

/-- An affine reservation. `ledger` names the ledger it was taken from, as the shared pointer of
the source does. -/
structure OperationPermit where
  ledger : ℕ
  epoch : ConnectionEpoch
  operation : OperationId
  effect : EffectId
  deadline : Deadline
  admissionClass : AdmissionClass
  completion : CompletionMode
  reservation : Reservation
  deriving DecidableEq, Repr

/-! ### Operations -/

/-- What the local connection can prove about application bytes. -/
inductive Delivery where
  | notSent | possiblySent
  deriving DecidableEq, Repr

inductive OperationPhase where
  | queued | writing | awaitingReply | terminal
  deriving DecidableEq, Repr

inductive CloseReason where
  | drained | requested | deadlineAfterPossibleSend | transportLost | connectFailed
  | connectTimedOut | unexpectedReply | malformedReply | inboundRetainedCapacity
  | matchKeyMismatch (expected received : MatchKey)
  deriving DecidableEq, Repr

inductive OperationFailure where
  | deadlineElapsed
  | connectionClosed (reason : CloseReason)
  | matchKeyMismatch (expected received : MatchKey)
  deriving DecidableEq, Repr

/-- Exactly one terminal outcome of an accepted operation; `R` is the type of inbound frames. -/
inductive OperationOutcome (R : Type) where
  | reply (frame : R)
  | writeComplete (delivery : Delivery)
  | failed (failure : OperationFailure) (delivery : Delivery)
  | cancelled (delivery : Delivery)
  deriving DecidableEq, Repr

/-- The bounded state of one accepted operation. -/
structure OperationRecord where
  id : OperationId
  effect : EffectId
  deadline : Deadline
  reservation : Reservation
  phase : OperationPhase
  completion : CompletionMode
  delivery : Delivery
  writeHeld : Bool
  deriving DecidableEq, Repr

/-! ### Inputs, effects and transitions -/

inductive ConnectionInput where
  | openAdmission (epoch : ConnectionEpoch)
  | cancel (epoch : ConnectionEpoch) (operation : OperationId)
  | deadlineElapsed (epoch : ConnectionEpoch) (operation : OperationId) (now : ℕ)
  | replyMalformed (epoch : ConnectionEpoch)
  | beginDrain (epoch : ConnectionEpoch)
  | closeRequested (epoch : ConnectionEpoch) (reason : CloseReason)
  | epochClosed (epoch : ConnectionEpoch)
  deriving DecidableEq, Repr

/-- The epoch an input names. -/
def ConnectionInput.epoch : ConnectionInput → ConnectionEpoch
  | .openAdmission epoch => epoch
  | .cancel epoch _ => epoch
  | .deadlineElapsed epoch _ _ => epoch
  | .replyMalformed epoch => epoch
  | .beginDrain epoch => epoch
  | .closeRequested epoch _ => epoch
  | .epochClosed epoch => epoch

/-- A complete opaque frame classified as a reply. -/
structure InboundReply (R : Type) where
  epoch : ConnectionEpoch
  key : MatchKey
  frame : R
  deriving DecidableEq, Repr

inductive ConnectionEffect (R : Type) where
  | scheduleDeadline (epoch : ConnectionEpoch) (operation : OperationId) (deadline : Deadline)
  | discardWrite (effect : EffectId) (epoch : ConnectionEpoch) (operation : OperationId)
  | cancelDeadline (epoch : ConnectionEpoch) (operation : OperationId)
  | closeEpoch (epoch : ConnectionEpoch) (reason : CloseReason)
  | publishOutcome (epoch : ConnectionEpoch) (operation : OperationId)
    (outcome : OperationOutcome R)
  deriving DecidableEq, Repr

inductive InputDisposition where
  | applied | ignoredStaleEpoch | ignoredUnknownOperation | ignoredStaleEffect | alreadyTerminal
  | ignoredInvalidPhase | fault
  deriving DecidableEq, Repr

inductive CancelOutcome where
  | cancelledNotSent
  | observationCancelled (delivery : Delivery)
  | alreadyTerminal
  deriving DecidableEq, Repr

/-- Effects and classification produced by one transition. -/
structure ConnectionTransition (R : Type) where
  disposition : InputDisposition
  cancelOutcome : Option CancelOutcome := none
  effects : List (ConnectionEffect R) := []
  deriving DecidableEq, Repr

namespace ConnectionTransition

variable {R : Type}

def new (disposition : InputDisposition) : ConnectionTransition R := { disposition }

def cancelled (t : ConnectionTransition R) (outcome : CancelOutcome) : ConnectionTransition R :=
  { t with cancelOutcome := some outcome }

def push (t : ConnectionTransition R) (effect : ConnectionEffect R) : ConnectionTransition R :=
  { t with effects := t.effects ++ [effect] }

@[simp] lemma push_disposition (t : ConnectionTransition R) (e : ConnectionEffect R) :
    (t.push e).disposition = t.disposition := rfl
@[simp] lemma push_cancelOutcome (t : ConnectionTransition R) (e : ConnectionEffect R) :
    (t.push e).cancelOutcome = t.cancelOutcome := rfl
@[simp] lemma push_effects (t : ConnectionTransition R) (e : ConnectionEffect R) :
    (t.push e).effects = t.effects ++ [e] := rfl

end ConnectionTransition

/-! ### Frames -/

/-- What the frames show during one call: a frame may change its byte view between two calls. A
byte view is a slice, so its length is a `usize`. -/
structure FrameView (F : Type) where
  bytes : F → List UInt8
  retainedBytes : F → ℕ
  bytes_le : ∀ frame, (bytes frame).length ≤ u64Max

/-- Wire length and retained memory sampled once, when a frame is committed. -/
structure FrameMeasure where
  wireBytes : ℕ
  retainedBytes : ℕ
  wire_le : wireBytes ≤ u64Max
  deriving DecidableEq

def FrameMeasure.capture {F : Type} (view : FrameView F) (frame : F) : FrameMeasure :=
  ⟨(view.bytes frame).length, view.retainedBytes frame, view.bytes_le frame⟩

inductive FrameContractViolation where
  | wireLengthChanged (measured observed : ℕ)
  | writeRangeUnavailable (measured written observed : ℕ)
  deriving DecidableEq, Repr

inductive WriteIdentityKind where
  | operation | effect
  deriving DecidableEq, Repr

inductive WriteAdmissionFailure where
  | staleEpoch (expected received : ConnectionEpoch)
  | identityInUse (kind : WriteIdentityKind)
  | frameCapacityReached (limit : ℕ)
  | retainedByteCapacity (retained incoming limit : ℕ)
  deriving DecidableEq, Repr

inductive WriteProgressError where
  | staleEpoch (expected received : ConnectionEpoch)
  | noPendingWrite
  | outOfOrderEffect (expected received : EffectId)
  | exceedsRemaining (written remaining : ℕ)
  | progressAccountingOverflow (measured written : ℕ)
  | retainedAccountingUnderflow (retained released : ℕ)
  deriving DecidableEq, Repr

/-- One frame removed before normal write completion. -/
structure DiscardedWrite (F : Type) where
  operation : OperationId
  effect : EffectId
  frame : F
  measure : FrameMeasure
  written : ℕ
  delivery : Delivery
  deriving DecidableEq

/-- Borrowed bytes from the front of the writer. -/
structure WriteSlice where
  epoch : ConnectionEpoch
  operation : OperationId
  effect : EffectId
  bytes : List UInt8
  deriving DecidableEq, Repr

/-! ### Failures of the aggregate owner -/

inductive ConnectionCoreInvariant where
  | frameContractViolation (violation : FrameContractViolation)
  | missingWrite (operation : OperationId) (effect : EffectId)
  | discardedWriteMismatch (expected actual : OperationId)
  | writeIdentityMismatch (operation : OperationId) (expected actual : EffectId)
  | unexpectedWrite (operation : OperationId) (effect : EffectId)
  | writePolicyMismatch (operation : OperationId) (effect : EffectId)
    (disposition : InputDisposition)
  | reservationAccounting
  | writeAccounting
  | writeProgressContract (written remaining : ℕ)
  | recoveryJournalCapacity
  | recovered
  deriving DecidableEq, Repr

inductive ConnectionCoreError where
  | write (source : WriteProgressError)
  | invariant (source : ConnectionCoreInvariant)
  | poisoned (source : ConnectionCoreInvariant)
  deriving DecidableEq, Repr

inductive FrameCommitFailure where
  | policy (kind : CommitErrorKind)
  | writer (failure : WriteAdmissionFailure)
  deriving DecidableEq, Repr

/-- A failed commit: the reason, with the permit and the frame it gives back. -/
structure FrameCommitError (F : Type) where
  failure : FrameCommitFailure
  permit : OperationPermit
  frame : F
  deriving DecidableEq, Repr

end Bornera.Core
