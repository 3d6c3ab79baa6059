import Bornera.Core.Ledger
import Bornera.Lib.Lookup

/-!
# The epoch machine

The deterministic policy of one fixed epoch (`connection/{machine,reserve,commit,drive,cancellation,
deadline,response,lifecycle,close}.rs`) over the ordered matching discipline
(`matching/ordered_verified.rs`). Each function gives the transition it hands back and the machine
after it. The endpoint, lane and connection identities are copied and never read, and are left out.
-/

namespace Bornera.Core

open Lib.Lookup

/-! ### Ordered matching -/

/-- Operations in wire order, the reply key of the front being the only one accepted. -/
structure OrderedVerified where
  keySpace : MatchKeySpace
  capacity : ℕ
  pending : List OperationRecord
  deriving DecidableEq

namespace OrderedVerified

def new (keySpace : MatchKeySpace) (capacity : ℕ) : OrderedVerified := ⟨keySpace, capacity, []⟩

def push (m : OrderedVerified) (record : OperationRecord) : OrderedVerified :=
  { m with pending := m.pending ++ [record] }

def get (m : OrderedVerified) (id : OperationId) : Option OperationRecord :=
  m.pending.find? (·.id = id)

def getIndexed (m : OrderedVerified) (id : OperationId) : Option (ℕ × OperationRecord) :=
  findIndexed (·.id = id) m.pending

/-- The discipline after a change of the record that `get_mut` gives. -/
def modify (m : OrderedVerified) (id : OperationId) (f : OperationRecord → OperationRecord) :
    OrderedVerified :=
  { m with pending := modifyFirst (·.id = id) f m.pending }

def front (m : OrderedVerified) : Option OperationRecord := m.pending.head?

def remove (m : OrderedVerified) (id : OperationId) : Option (OperationRecord × OrderedVerified) :=
  (removeFirst (·.id = id) m.pending).map fun (record, pending) => (record, { m with pending })

def isEmpty (m : OrderedVerified) : Bool := m.pending.isEmpty

def terminalLen (m : OrderedVerified) : ℕ := m.pending.countP (·.phase = .terminal)

def activeLen (m : OrderedVerified) : ℕ := m.pending.countP (·.phase ≠ .terminal)

end OrderedVerified

/-! ### The machine -/

inductive ConnectionPhase where
  | live | closing | closed
  deriving DecidableEq, Repr

/-- The policy owner of one epoch. `ledgerId` is the identity of the shared ledger, which permits
carry. -/
structure ConnectionMachine where
  epoch : ConnectionEpoch
  phase : ConnectionPhase
  gate : AdmissionGate
  closeReason : Option CloseReason
  identities : IdentityGenerator
  ledgerId : ℕ
  ledger : ReservationLedger
  matching : OrderedVerified
  deriving DecidableEq

namespace ConnectionMachine

variable {R : Type}

def withIdentitySeeds (ledgerId : ℕ) (epoch : ConnectionEpoch) (limits : ConnectionLimits)
    (seeds : IdentitySeeds) : ConnectionMachine where
  epoch := epoch
  phase := .live
  gate := .sessionOnly
  closeReason := none
  identities := IdentityGenerator.new seeds
  ledgerId := ledgerId
  ledger := ReservationLedger.new limits
  matching := OrderedVerified.new limits.matchKeys limits.maxOperations

/-! ### Admission -/

def reserve (m : ConnectionMachine) (now : ℕ) (options : OperationOptions) :
    Except ReserveError OperationPermit × ConnectionMachine :=
  if !m.gate.admits options.admissionClass then (.error .admissionClosed, m)
  else if options.deadline.isElapsedAt now then (.error .deadlineElapsed, m)
  else if !m.identities.available then (.error .identityExhausted, m)
  else
    match m.ledger.reserve options.retainedBytes options.writeRetainedBytes with
    | (.error e, ledger) => (.error e, { m with ledger })
    | (.ok reservation, ledger) =>
      match m.identities.take with
      | (none, identities) =>
        (.error .identityExhausted,
          { m with ledger := ledger.rollbackPermit reservation, identities })
      | (some (operation, effect), identities) =>
        (.ok
          { ledger := m.ledgerId
            epoch := m.epoch
            operation := operation
            effect := effect
            deadline := options.deadline
            admissionClass := options.admissionClass
            completion := options.completionMode
            reservation := reservation },
          { m with ledger, identities })

def commitFailure (m : ConnectionMachine) (permit : OperationPermit) (frameRetained : ℕ) :
    Option CommitErrorKind :=
  if m.ledgerId ≠ permit.ledger ∨ permit.epoch ≠ m.epoch then some .foreignPermit
  else if !m.gate.admits permit.admissionClass then some .admissionClosed
  else if permit.reservation.writeRetainedBytes < frameRetained then some .frameTooLarge
  else none

/-- The record a permit becomes. -/
def recordOf (permit : OperationPermit) (frameRetained : ℕ) : OperationRecord where
  id := permit.operation
  effect := permit.effect
  deadline := permit.deadline
  reservation := { permit.reservation with writeRetainedBytes := frameRetained }
  phase := .queued
  completion := permit.completion
  delivery := .notSent
  writeHeld := true

def commitPermit (m : ConnectionMachine) (permit : OperationPermit) (frameRetained : ℕ) :
    (OperationId × ConnectionTransition R) × ConnectionMachine :=
  let record := recordOf permit frameRetained
  ((permit.operation,
      (ConnectionTransition.new .applied).push
        (.scheduleDeadline m.epoch permit.operation record.deadline)),
    { m with
      ledger := m.ledger.commit permit.reservation frameRetained
      matching := m.matching.push record })

/-! ### Closure -/

/-- The failure published for a record when the epoch closes. -/
def closeFailure (reason : CloseReason) (failure : Option (OperationId × OperationFailure))
    (record : OperationRecord) : OperationFailure :=
  match failure with
  | some (operation, failure) => if operation = record.id then failure else .connectionClosed reason
  | none => .connectionClosed reason

/-- The effects that close one record. -/
def closeEffects (epoch : ConnectionEpoch) (reason : CloseReason)
    (failure : Option (OperationId × OperationFailure)) (record : OperationRecord) :
    List (ConnectionEffect R) :=
  [.cancelDeadline epoch record.id] ++
  (if record.writeHeld then [.discardWrite record.effect epoch record.id] else []) ++
  (if record.phase ≠ .terminal then
    [.publishOutcome epoch record.id
      (.failed (closeFailure reason failure record) record.delivery)] else [])

/-- The loop that closes the pending records, the front first. -/
def closeRecords (reason : CloseReason) (failure : Option (OperationId × OperationFailure)) :
    List OperationRecord → ConnectionMachine → ConnectionTransition R →
      ConnectionTransition R × ConnectionMachine
  | [], m, t => (t, { m with matching.pending := [] })
  | record :: rest, m, t =>
    closeRecords reason failure rest
      { m with ledger := m.ledger.releaseOperation record.reservation record.writeHeld }
      { t with effects := t.effects ++ closeEffects m.epoch reason failure record }

def closeWithFailureInto (m : ConnectionMachine) (reason : CloseReason)
    (failure : Option (OperationId × OperationFailure)) (t : ConnectionTransition R) :
    ConnectionTransition R × ConnectionMachine :=
  if m.phase ≠ .live then (t, m)
  else
    closeRecords reason failure m.matching.pending
      { m with gate := .closed, phase := .closing, closeReason := some reason }
      (t.push (.closeEpoch m.epoch reason))

def closeInto (m : ConnectionMachine) (reason : CloseReason) (t : ConnectionTransition R) :
    ConnectionTransition R × ConnectionMachine :=
  m.closeWithFailureInto reason none t

def finishDrain (m : ConnectionMachine) (t : ConnectionTransition R) :
    ConnectionTransition R × ConnectionMachine :=
  if m.gate = .draining ∧ m.matching.isEmpty then m.closeInto .drained t else (t, m)

/-! ### Write progress -/

def writeStarted (m : ConnectionMachine) (epoch : ConnectionEpoch) (operation : OperationId)
    (effect : EffectId) : ConnectionTransition R × ConnectionMachine :=
  if epoch ≠ m.epoch then (.new .ignoredStaleEpoch, m)
  else
    match m.matching.get operation with
    | none => (.new .ignoredUnknownOperation, m)
    | some record =>
      if record.phase = .terminal then (.new .alreadyTerminal, m)
      else if record.effect ≠ effect then (.new .ignoredStaleEffect, m)
      else if record.phase ≠ .queued then (.new .ignoredInvalidPhase, m)
      else
        (.new .applied, { m with matching := m.matching.modify operation fun record =>
          { record with delivery := .possiblySent, phase := .writing } })

def writeCompleted (m : ConnectionMachine) (epoch : ConnectionEpoch) (operation : OperationId)
    (effect : EffectId) : ConnectionTransition R × ConnectionMachine :=
  if epoch ≠ m.epoch then (.new .ignoredStaleEpoch, m)
  else
    match m.matching.get operation with
    | none => (.new .ignoredUnknownOperation, m)
    | some record =>
      if record.effect ≠ effect then (.new .ignoredStaleEffect, m)
      else if (record.phase ≠ .writing ∧ record.phase ≠ .terminal ∧ record.phase ≠ .queued) ∨
          record.writeHeld = false then (.new .ignoredInvalidPhase, m)
      else
        let m := { m with ledger := m.ledger.releaseWrite record.reservation.writeRetainedBytes }
        if record.completion = .replyExpected then
          (.new .applied, { m with matching := m.matching.modify operation fun record =>
            { record with
              phase := if record.phase ≠ .terminal then .awaitingReply else record.phase
              writeHeld := false } })
        else
          match m.matching.remove operation with
          | none => (.new .ignoredUnknownOperation, m)
          | some (completed, matching) =>
            let t := (ConnectionTransition.new .applied).push (.cancelDeadline m.epoch operation)
            let t := if completed.phase ≠ .terminal then
              t.push (.publishOutcome m.epoch operation (.writeComplete completed.delivery)) else t
            { m with
              matching
              ledger := m.ledger.releaseOperation completed.reservation false }.finishDrain t

/-! ### Commands and timers -/

def openAdmission (m : ConnectionMachine) (epoch : ConnectionEpoch) :
    ConnectionTransition R × ConnectionMachine :=
  if epoch ≠ m.epoch then (.new .ignoredStaleEpoch, m)
  else if m.phase = .live ∧ m.gate = .sessionOnly then (.new .applied, { m with gate := .opened })
  else (.new .ignoredInvalidPhase, m)

/-- The effects that remove one unsent operation, whose observer gets `outcome`. -/
def removeEffects (epoch : ConnectionEpoch) (record : OperationRecord)
    (outcome : OperationOutcome R) :
    List (ConnectionEffect R) :=
  (if record.writeHeld then [.discardWrite record.effect epoch record.id] else []) ++
  [.cancelDeadline epoch record.id, .publishOutcome epoch record.id outcome]

def cancel (m : ConnectionMachine) (epoch : ConnectionEpoch) (operation : OperationId) :
    ConnectionTransition R × ConnectionMachine :=
  if epoch ≠ m.epoch then
    ((ConnectionTransition.new .ignoredStaleEpoch).cancelled .alreadyTerminal, m)
  else
    match m.matching.get operation with
    | none => ((ConnectionTransition.new .ignoredUnknownOperation).cancelled .alreadyTerminal, m)
    | some record =>
      if record.phase = .terminal then
        ((ConnectionTransition.new .alreadyTerminal).cancelled .alreadyTerminal, m)
      else if record.delivery = .notSent then
        match m.matching.remove operation with
        | none =>
          ((ConnectionTransition.new .ignoredUnknownOperation).cancelled .alreadyTerminal, m)
        | some (record, matching) =>
          { m with
            matching
            ledger := m.ledger.releaseOperation record.reservation record.writeHeld }.finishDrain
            { disposition := .applied
              cancelOutcome := some .cancelledNotSent
              effects := removeEffects m.epoch record (.cancelled .notSent) }
      else
        (((ConnectionTransition.new .applied).push
            (.publishOutcome m.epoch operation (.cancelled .possiblySent))).cancelled
              (.observationCancelled .possiblySent),
          { m with matching := m.matching.modify operation fun record =>
            { record with phase := .terminal } })

def deadlineElapsed (m : ConnectionMachine) (epoch : ConnectionEpoch) (operation : OperationId)
    (now : ℕ) :
    ConnectionTransition R × ConnectionMachine :=
  if epoch ≠ m.epoch then (.new .ignoredStaleEpoch, m)
  else
    match m.matching.get operation with
    | none => (.new .ignoredUnknownOperation, m)
    | some record =>
      if !record.deadline.isElapsedAt now then
        ((ConnectionTransition.new .applied).push
          (.scheduleDeadline m.epoch operation record.deadline), m)
      else if record.delivery = .possiblySent then
        m.closeInto .deadlineAfterPossibleSend (.new .applied)
      else
        match m.matching.remove operation with
        | none => (.new .ignoredUnknownOperation, m)
        | some (record, matching) =>
          { m with
            matching
            ledger := m.ledger.releaseOperation record.reservation record.writeHeld }.finishDrain
            { disposition := .applied
              effects := removeEffects m.epoch record (.failed .deadlineElapsed .notSent) }

def replyMalformed (m : ConnectionMachine) (epoch : ConnectionEpoch) :
    ConnectionTransition R × ConnectionMachine :=
  if epoch ≠ m.epoch then (.new .ignoredStaleEpoch, m)
  else if m.phase ≠ .live then (.new .ignoredInvalidPhase, m)
  else m.closeInto .malformedReply (.new .fault)

def beginDrain (m : ConnectionMachine) (epoch : ConnectionEpoch) :
    ConnectionTransition R × ConnectionMachine :=
  if epoch ≠ m.epoch then (.new .ignoredStaleEpoch, m)
  else if m.phase ≠ .live ∨ m.gate = .closed ∨ m.gate = .draining then
    (.new .ignoredInvalidPhase, m)
  else { m with gate := .draining }.finishDrain (.new .applied)

def closeRequested (m : ConnectionMachine) (epoch : ConnectionEpoch) (reason : CloseReason) :
    ConnectionTransition R × ConnectionMachine :=
  if epoch ≠ m.epoch then (.new .ignoredStaleEpoch, m)
  else if m.phase ≠ .live then (.new .ignoredInvalidPhase, m)
  else m.closeInto reason (.new .applied)

def epochClosed (m : ConnectionMachine) (epoch : ConnectionEpoch) :
    ConnectionTransition R × ConnectionMachine :=
  if epoch ≠ m.epoch then (.new .ignoredStaleEpoch, m)
  else if m.phase ≠ .closing then (.new .ignoredInvalidPhase, m)
  else (.new .applied, { m with phase := .closed, gate := .closed })

def apply (m : ConnectionMachine) : ConnectionInput → ConnectionTransition R × ConnectionMachine
  | .openAdmission epoch => m.openAdmission epoch
  | .cancel epoch operation => m.cancel epoch operation
  | .deadlineElapsed epoch operation now => m.deadlineElapsed epoch operation now
  | .replyMalformed epoch => m.replyMalformed epoch
  | .beginDrain epoch => m.beginDrain epoch
  | .closeRequested epoch reason => m.closeRequested epoch reason
  | .epochClosed epoch => m.epochClosed epoch

/-! ### Replies -/

/-- The front is a record whose frame has left the writer and which waits for its reply. -/
def repliable (front : OperationRecord) : Bool :=
  (front.phase = .awaitingReply ∨ front.phase = .terminal) ∧ front.writeHeld = false

def applyReply (m : ConnectionMachine) (reply : InboundReply R) :
    ConnectionTransition R × ConnectionMachine :=
  if reply.epoch ≠ m.epoch then (.new .ignoredStaleEpoch, m)
  else if m.phase ≠ .live then (.new .ignoredInvalidPhase, m)
  else
    match m.matching.pending with
    | [] => m.closeInto .unexpectedReply (.new .fault)
    | front :: rest =>
      if !repliable front then m.closeInto .unexpectedReply (.new .fault)
      else if reply.key ≠ front.reservation.matchKey then
        m.closeWithFailureInto (.matchKeyMismatch front.reservation.matchKey reply.key)
          (some (front.id, .matchKeyMismatch front.reservation.matchKey reply.key)) (.new .fault)
      else
        let t := (ConnectionTransition.new .applied).push (.cancelDeadline m.epoch front.id)
        let t := if front.phase ≠ .terminal then
          t.push (.publishOutcome m.epoch front.id (.reply reply.frame)) else t
        { m with
          matching.pending := rest
          ledger := m.ledger.releaseOperation front.reservation false }.finishDrain t

end ConnectionMachine
end Bornera.Core
