import Bornera.Core.Machine
import Bornera.Core.Writer
import Bornera.Lib.Owner

/-!
# The aggregate owner

`ConnectionCore` (`connection/{core,progress,integrity,journal}.rs`) owns the policy machine, the
writer and a preallocated recovery journal, and latches the first violated invariant. Its methods
are `Owner` computations: what they change before a failure stays changed. `debug` says whether
debug assertions are compiled in, which turns the ownership audit of the hot path on.
-/

namespace Bornera.Core

open Lib Lib.Lookup

/-! ### The recovery journal -/

/-- What the journal keeps of one record. -/
structure JournalOperation where
  wireIndex : ℕ
  operation : OperationId
  effect : EffectId
  delivery : Delivery
  phase : OperationPhase
  writeHeld : Bool
  deriving DecidableEq, Repr

/-- Fallback ownership kept across a failed reconciliation. The slots are allocated once, so each
list is bounded by its number of slots. -/
structure RecoveryJournal (F : Type) where
  operationSlots : ℕ
  operations : List JournalOperation
  writeSlots : ℕ
  writes : List (DiscardedWrite F)
  overflowWrite : Option (DiscardedWrite F)
  armed : Bool
  deriving DecidableEq

namespace RecoveryJournal

variable {F : Type}

def new (maxOperations maxWrites : ℕ) : RecoveryJournal F :=
  ⟨maxOperations, [], maxWrites, [], none, false⟩

def clear (j : RecoveryJournal F) : RecoveryJournal F :=
  { j with operations := [], writes := [], overflowWrite := none, armed := false }

def retainOperation (j : RecoveryJournal F) (record : OperationRecord) (wireIndex : ℕ) :
    Bool × RecoveryJournal F :=
  if j.operations.length < j.operationSlots then
    (true, { j with operations := j.operations ++
      [⟨wireIndex, record.id, record.effect, record.delivery, record.phase, record.writeHeld⟩] })
  else (false, j)

def retainWrite (j : RecoveryJournal F) (write : DiscardedWrite F) : Bool × RecoveryJournal F :=
  if j.writes.length < j.writeSlots then (true, { j with writes := j.writes ++ [write] })
  else (false, { j with overflowWrite := j.overflowWrite <|> some write })

/-- The loop of `begin`, from one wire index on. -/
def retainFrom : List OperationRecord → ℕ → RecoveryJournal F → Bool × RecoveryJournal F
  | [], _, j => (true, { j with armed := true })
  | record :: records, wireIndex, j =>
    match j.retainOperation record wireIndex with
    | (false, j) => (false, j.clear)
    | (true, j) => retainFrom records (wireIndex + 1) j

def begin (j : RecoveryJournal F) (records : List OperationRecord) : Bool × RecoveryJournal F :=
  retainFrom records 0 j.clear

def beginWriteProgress (j : RecoveryJournal F) : RecoveryJournal F := { j.clear with armed := true }

def beginOperation (j : RecoveryJournal F) (record : OperationRecord) (wireIndex : ℕ) :
    Bool × RecoveryJournal F :=
  { j.clear with armed := true }.retainOperation record wireIndex

def takeOperations (j : RecoveryJournal F) : List JournalOperation × RecoveryJournal F :=
  (j.operations, { j with operations := [] })

def takeWrites (j : RecoveryJournal F) : List (DiscardedWrite F) × RecoveryJournal F :=
  (j.writes ++ j.overflowWrite.toList,
    { j with writes := [], overflowWrite := none, armed := false })

end RecoveryJournal

/-! ### The owner -/

/-- The sole mutation owner of one epoch. -/
structure ConnectionCore (B F : Type) where
  machine : ConnectionMachine
  writes : WriteQueue B F
  journal : RecoveryJournal F
  poisoned : Option ConnectionCoreInvariant

namespace ConnectionCore

variable {B F R : Type} [ByteBudget B]

def withIdentitySeeds (ledgerId : ℕ) (epoch : ConnectionEpoch) (limits : ConnectionLimits)
    (seeds : IdentitySeeds) : ConnectionCore B F where
  machine := ConnectionMachine.withIdentitySeeds ledgerId epoch limits seeds
  writes := WriteQueue.new epoch limits.maxWriteFrames limits.maxWriteRetainedBytes
  journal := RecoveryJournal.new limits.maxOperations limits.maxWriteFrames
  poisoned := none

/-- The computations of the owner. -/
abbrev Run (B F α : Type) : Type := Owner ConnectionCoreError (ConnectionCore B F) α

/-! ### Health and ownership -/

/-- Latches an invariant, unless one is latched, and fails with it. -/
def poison {α : Type} (source : ConnectionCoreInvariant) : Run B F α := fun c =>
  (.error (.invariant source), { c with poisoned := c.poisoned <|> some source })

def ensureHealthy : Run B F Unit := fun c =>
  if c.machine.ledger.poisoned then poison .reservationAccounting c
  else
    match c.poisoned with
    | some source => (.error (.poisoned source), c)
    | none => (.ok (), c)

/-- The merge of the held records with the identities of the queued frames. -/
def mergeViolation :
    List OperationRecord → List (OperationId × EffectId) → Option ConnectionCoreInvariant
  | [], writes => writes.head?.map fun (operation, effect) => .unexpectedWrite operation effect
  | record :: records, writes =>
    if record.writeHeld = false then mergeViolation records writes
    else
      match writes with
      | [] => some (.missingWrite record.id record.effect)
      | (operation, actual) :: writes =>
        if operation ≠ record.id then some (.unexpectedWrite operation actual)
        else if actual ≠ record.effect then
          some (.writeIdentityMismatch record.id record.effect actual)
        else mergeViolation records writes

def ownershipMergeViolation (c : ConnectionCore B F) : Option ConnectionCoreInvariant :=
  mergeViolation c.machine.matching.pending c.writes.identities

def verifyOwnership : Run B F Unit := fun c =>
  match (if c.writes.accountingIsValid then
      c.ownershipMergeViolation else some .writeAccounting) with
  | some source => poison source c
  | none => (.ok (), c)

def verifyOwnershipOnHotPath (debug : Bool) : Run B F Unit :=
  if debug then verifyOwnership else pure ()

/-! ### Journals -/

/-- Arms the journal with `f`, or latches its lack of slots. -/
def armJournal (f : RecoveryJournal F → Bool × RecoveryJournal F) : Run B F Unit := fun c =>
  match f c.journal with
  | (true, journal) => (.ok (), { c with journal })
  | (false, journal) => poison .recoveryJournalCapacity { c with journal }

def beginRecoveryJournal : Run B F Unit := fun c =>
  armJournal (·.begin c.machine.matching.pending) c

def beginOperationRecoveryJournal (operation : OperationId) : Run B F Unit := fun c =>
  match c.machine.matching.getIndexed operation with
  | none => (.ok (), c)
  | some (wireIndex, record) => armJournal (·.beginOperation record wireIndex) c

def prepareInputJournal (input : ConnectionInput) : Run B F Unit := fun c =>
  match input with
  | .closeRequested epoch _ | .replyMalformed epoch =>
    if epoch = c.machine.epoch ∧ c.machine.phase = .live then
      beginRecoveryJournal c else (.ok (), c)
  | .cancel epoch operation =>
    if epoch = c.machine.epoch ∧ (c.machine.matching.get operation).any (·.phase ≠ .terminal) then
      beginOperationRecoveryJournal operation c
    else (.ok (), c)
  | .deadlineElapsed epoch operation now =>
    if epoch = c.machine.epoch then
      match c.machine.matching.get operation with
      | none => (.ok (), c)
      | some record =>
        if !record.deadline.isElapsedAt now then (.ok (), c)
        else if record.delivery = .possiblySent then beginRecoveryJournal c
        else beginOperationRecoveryJournal operation c
    else (.ok (), c)
  | _ => (.ok (), c)

def prepareReplyJournal (reply : InboundReply R) : Run B F Unit := fun c =>
  if reply.epoch ≠ c.machine.epoch ∨ c.machine.phase ≠ .live then (.ok (), c)
  else
    match c.machine.matching.front with
    | none => beginRecoveryJournal c
    | some front =>
      if !ConnectionMachine.repliable front ∨ reply.key ≠ front.reservation.matchKey then
        beginRecoveryJournal c
      else beginOperationRecoveryJournal front.id c

/-! ### Reconciliation -/

/-- Takes one discarded frame out of the writer and into the journal. -/
def reconcileDiscard (effect : EffectId) (epoch : ConnectionEpoch) (operation : OperationId) :
    Run B F Unit := fun c =>
  match c.writes.discard epoch effect with
  | (.error (.retainedAccountingUnderflow _ _), writes) => poison .writeAccounting { c with writes }
  | (.error source, writes) => (.error (.write source), { c with writes })
  | (.ok none, writes) => poison (.missingWrite operation effect) { c with writes }
  | (.ok (some discarded), writes) =>
    let (retained, journal) := c.journal.retainWrite discarded
    let c := { c with writes, journal }
    if discarded.operation ≠ operation then
      poison (.discardedWriteMismatch operation discarded.operation) c
    else if !retained then poison .recoveryJournalCapacity c
    else (.ok (), c)

/-- The loop over the effects of a transition; `output` is what it has handed on. -/
def reconcileEffects : List (ConnectionEffect R) → List (ConnectionEffect R) →
    Run B F (List (ConnectionEffect R))
  | [], output => pure output
  | .discardWrite effect epoch operation :: effects, output => do
    reconcileDiscard effect epoch operation
    reconcileEffects effects output
  | effect :: effects, output => reconcileEffects effects (output ++ [effect])

def reconcile (t : ConnectionTransition R) : Run B F (ConnectionTransition R) := do
  let effects ← reconcileEffects t.effects []
  pure { t with effects }

def absorbWriteTransition (combined t : ConnectionTransition R) (operation : OperationId)
    (effect : EffectId) : Run B F (ConnectionTransition R) :=
  if t.disposition ≠ .applied then poison (.writePolicyMismatch operation effect t.disposition)
  else do
    let t ← reconcile t
    pure { combined with effects := combined.effects ++ t.effects }

/-! ### Inputs and replies -/

/-- One transition of the machine. -/
def transit (f : ConnectionMachine → ConnectionTransition R × ConnectionMachine) :
    Run B F (ConnectionTransition R) :=
  Owner.update fun c => ((f c.machine).1, { c with machine := (f c.machine).2 })

def clearJournal : Run B F Unit := Owner.change fun c => { c with journal := c.journal.clear }

/-- The shared body of `apply` and `apply_reply`, up to the point where the journal is cleared. -/
def drive (debug : Bool) (prepare : Run B F Unit)
    (f : ConnectionMachine → ConnectionTransition R × ConnectionMachine) :
    Run B F (ConnectionTransition R) := do
  ensureHealthy
  verifyOwnershipOnHotPath debug
  prepare
  let t ← transit f
  let t ← reconcile t
  ensureHealthy
  pure t

/-- A computation that ends by clearing the journal. -/
def settled {α : Type} (m : Run B F α) : Run B F α := do
  let a ← m
  clearJournal
  pure a

def apply (debug : Bool) (input : ConnectionInput) : Run B F (ConnectionTransition R) :=
  settled (drive debug (prepareInputJournal input) (·.apply input))

def applyReply (debug : Bool) (reply : InboundReply R) : Run B F (ConnectionTransition R) :=
  settled (drive debug (prepareReplyJournal reply) (·.applyReply reply))

/-! ### Write progress -/

/-- Moves a completed frame and the record behind it into the journal. -/
def journalCompletion (write : DiscardedWrite F) : Run B F Unit := fun c =>
  match c.journal.retainWrite write with
  | (false, journal) => poison .recoveryJournalCapacity { c with journal }
  | (true, journal) =>
    let c := { c with journal }
    match c.machine.matching.getIndexed write.operation with
    | none => poison (.unexpectedWrite write.operation write.effect) c
    | some (wireIndex, record) => armJournal (·.retainOperation record wireIndex) c

/-- Reports progress to the writer and sorts its failures. -/
def advanceWriter (epoch : ConnectionEpoch) (effect : EffectId) (written : ℕ) :
    Run B F (WriteProgress F) := fun c =>
  match c.writes.advance epoch effect written with
  | (.ok progress, writes) => (.ok progress, { c with writes })
  | (.error (.retainedAccountingUnderflow _ _), writes) => poison .writeAccounting { c with writes }
  | (.error (.progressAccountingOverflow _ _), writes) => poison .writeAccounting { c with writes }
  | (.error (.exceedsRemaining written remaining), writes) =>
    poison (.writeProgressContract written remaining) { c with writes }
  | (.error source, writes) =>
    (.error (.write source), { c with writes, journal := c.journal.clear })

/-- The policy's part of one report, once the writer has accepted it. -/
def absorbProgress (epoch : ConnectionEpoch) (effect : EffectId) (operation : OperationId)
    (boundary : WriteBoundary) (complete : Bool) : Run B F (ConnectionTransition R) := do
  let combined := ConnectionTransition.new .applied
  let combined ← if boundary = .crossed then do
      let t ← transit (·.writeStarted epoch operation effect)
      absorbWriteTransition combined t operation effect
    else pure combined
  if complete then do
    let t ← transit (·.writeCompleted epoch operation effect)
    absorbWriteTransition combined t operation effect
  else pure combined

/-- What the owner does with a report the writer has accepted. -/
def absorbReport (epoch : ConnectionEpoch) (effect : EffectId) :
    WriteProgress F → Run B F (ConnectionTransition R)
  | .pending operation boundary => absorbProgress epoch effect operation boundary false
  | .complete operation effect frame measure boundary delivery => do
    journalCompletion ⟨operation, effect, frame, measure, measure.wireBytes, delivery⟩
    absorbProgress epoch effect operation boundary true

/-- `advance_write` up to the point where the journal is cleared. -/
def progress (epoch : ConnectionEpoch) (effect : EffectId) (written : ℕ) :
    Run B F (ConnectionTransition R) := do
  ensureHealthy
  Owner.change fun c => { c with journal := c.journal.beginWriteProgress }
  let report ← advanceWriter epoch effect written
  let combined ← absorbReport epoch effect report
  ensureHealthy
  pure combined

def advanceWrite (epoch : ConnectionEpoch) (effect : EffectId) (written : ℕ) :
    Run B F (ConnectionTransition R) :=
  settled (progress epoch effect written)

/-! ### Admission -/

/-- The health check that opens `reserve` and `commit`. -/
def guardAdmission (debug : Bool) : Run B F Unit := do
  ensureHealthy
  verifyOwnershipOnHotPath debug

def reserve (debug : Bool) (c : ConnectionCore B F) (now : ℕ) (options : OperationOptions) :
    Except ReserveError OperationPermit × ConnectionCore B F :=
  match guardAdmission debug c with
  | (.error _, c) => (.error .ownerPoisoned, c)
  | (.ok (), c) =>
    ((c.machine.reserve now options).1, { c with machine := (c.machine.reserve now options).2 })

def commit (debug : Bool) (c : ConnectionCore B F) (permit : OperationPermit) (frame : F)
    (view : FrameView F) :
    Except (FrameCommitError F) (OperationId × ConnectionTransition R) × ConnectionCore B F :=
  match guardAdmission debug c with
  | (.error _, c) => (.error ⟨.policy .ownerPoisoned, permit, frame⟩, c)
  | (.ok (), c) =>
    let measure := FrameMeasure.capture view frame
    match c.machine.commitFailure permit measure.retainedBytes with
    | some kind => (.error ⟨.policy kind, permit, frame⟩, c)
    | none =>
      match c.writes.admitWrite permit.epoch permit.operation permit.effect measure frame with
      | (.error failure, writes) => (.error ⟨.writer failure, permit, frame⟩, { c with writes })
      | (.ok (), writes) =>
        let (accepted, machine) := c.machine.commitPermit permit measure.retainedBytes
        (.ok accepted, { c with writes, machine })

/-- The drop of a live permit rolls its reservation back. -/
def dropPermit (c : ConnectionCore B F) (permit : OperationPermit) : ConnectionCore B F :=
  { c with machine.ledger := c.machine.ledger.rollbackPermit permit.reservation }

/-! ### The write front -/

def frontWrite (c : ConnectionCore B F) (view : FrameView F) (maximum : ℕ) :
    Except ConnectionCoreError (Option WriteSlice) × ConnectionCore B F :=
  match c.poisoned with
  | some invariant => (.error (.poisoned invariant), c)
  | none =>
    if c.machine.ledger.poisoned then poison .reservationAccounting c
    else
      match c.writes.front view maximum with
      | .ok slice => (.ok slice, c)
      | .error violation => poison (.frameContractViolation violation) c

end ConnectionCore
end Bornera.Core
