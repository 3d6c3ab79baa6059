import Bornera.Core.Aggregate

/-!
# Recovery

`ConnectionCore::recover` (`connection/{recovery,recovery_item}.rs`) empties a core that can no
longer be driven: every nonterminal operation comes back with its delivery certainty and, when the
writer or the journal still held it, its frame. Records and journal entries that the source takes
out of their slots are removed from their lists here.
-/

namespace Bornera.Core

open Lib Lib.Lookup

/-- One nonterminal accepted operation recovered from a failed owner. -/
structure RecoveredOperation (F : Type) where
  operation : OperationId
  delivery : Delivery
  frame : Option F
  deriving DecidableEq

/-- The contents of one recovered epoch. -/
structure ConnectionRecovery (F : Type) where
  epoch : ConnectionEpoch
  operations : List (RecoveredOperation F)
  unmatchedWrites : List (DiscardedWrite F)
  ownershipDiverged : Bool
  deriving DecidableEq

def weaken : Delivery → Delivery → Delivery
  | .notSent, .notSent => .notSent
  | _, _ => .possiblySent

def takeWrite {F : Type} (writes : List (DiscardedWrite F)) (operation : OperationId)
    (effect : EffectId) :
    Option (DiscardedWrite F × List (DiscardedWrite F)) :=
  removeFirst (fun write => write.operation = operation ∧ write.effect = effect) writes

/-- What the recovery loops change. -/
structure Recovering (F : Type) where
  ledger : ReservationLedger
  writes : List (DiscardedWrite F)
  operations : List (RecoveredOperation F)
  ownershipDiverged : Bool

namespace Recovering

variable {F : Type}

def diverge (s : Recovering F) : Recovering F := { s with ownershipDiverged := true }

/-- Pairs an operation with its write. Divergence is set when the write is there and the record
does not hold one, or the other way round. -/
def pairWrite (s : Recovering F) (operation : OperationId) (effect : EffectId) (delivery : Delivery)
    (writeHeld : Bool) : RecoveredOperation F × Recovering F :=
  match takeWrite s.writes operation effect with
  | some (write, writes) =>
    let s := { s with writes }
    (⟨operation, weaken delivery write.delivery, some write.frame⟩, if writeHeld then
      s else s.diverge)
  | none => (⟨operation, delivery, none⟩, if writeHeld then s.diverge else s)

def recoverCurrentOperation (s : Recovering F) (record : OperationRecord) : Recovering F :=
  let (recovered, s) := s.pairWrite record.id record.effect record.delivery record.writeHeld
  let s := if record.phase ≠ .terminal then
    { s with operations := s.operations ++ [recovered] } else s
  { s with ledger := s.ledger.releaseOperation record.reservation record.writeHeld }

def recoverJournalOperation (s : Recovering F) (record : JournalOperation) : Recovering F :=
  if record.phase = .terminal then s
  else
    let (recovered, s) :=
      s.pairWrite record.operation record.effect record.delivery record.writeHeld
    { s with operations := s.operations ++ [recovered] }

/-- The journal entries of one wire index, in order; `again` after the first. -/
def recoverEntries : List JournalOperation → Bool → List OperationRecord → Recovering F →
    List OperationRecord × Recovering F
  | [], _, current, s => (current, s)
  | entry :: entries, again, current, s =>
    let s := if again then s.diverge else s
    match removeFirst (·.id = entry.operation) current with
    | some (record, current) =>
      let s := if record.effect ≠ entry.effect then s.diverge else s
      recoverEntries entries true current (s.recoverCurrentOperation record)
    | none => recoverEntries entries true current (s.recoverJournalOperation entry)

/-- The loop over the wire indices. -/
def recoverIndices (journalIds : List OperationId) : List ℕ → List JournalOperation →
    List OperationRecord → Recovering F →
      List JournalOperation × List OperationRecord × Recovering F
  | [], journal, current, s => (journal, current, s)
  | wireIndex :: indices, journal, current, s =>
    match journal.filter (·.wireIndex = wireIndex) with
    | entry :: entries =>
      let (current, s) := recoverEntries (entry :: entries) false current s
      recoverIndices journalIds indices (journal.filter (·.wireIndex ≠ wireIndex)) current s
    | [] =>
      match removeFirst (fun record => decide (record.id ∉ journalIds)) current with
      | none => recoverIndices journalIds indices journal current s.diverge
      | some (record, current) =>
        recoverIndices journalIds indices journal current (s.recoverCurrentOperation record)

def recoverInWireOrder (s : Recovering F) (journal : List JournalOperation)
    (current : List OperationRecord) : Recovering F :=
  let missing := journal.countP fun entry => !current.any (·.id = entry.operation)
  let originalLen := current.length + missing
  let s := if journal.any (originalLen ≤ ·.wireIndex) then s.diverge else s
  let (journal, current, s) :=
    recoverIndices (journal.map JournalOperation.operation) (List.range originalLen)
      journal current s
  let s := current.foldl (fun s record => s.diverge.recoverCurrentOperation record) s
  journal.foldl (fun s entry => s.diverge.recoverJournalOperation entry) s

end Recovering

namespace ConnectionCore

variable {B F : Type} [ByteBudget B]

/-- Extracts every nonterminal operation and makes the owner unusable. -/
def recover (c : ConnectionCore B F) : ConnectionRecovery F × ConnectionCore B F :=
  let armed := c.journal.armed
  let (queued, writes) := c.writes.discardAll
  let (retained, journal) := c.journal.takeWrites
  let (operations, journal) := journal.takeOperations
  let s : Recovering F := ⟨c.machine.ledger, queued ++ retained, [], armed || !operations.isEmpty⟩
  let s := s.recoverInWireOrder operations c.machine.matching.pending
  let s := if s.writes.isEmpty then s else s.diverge
  let s := if s.ledger.poisoned then s.diverge else s
  (⟨c.machine.epoch, s.operations, s.writes, s.ownershipDiverged⟩,
    { machine := { c.machine with ledger := s.ledger, matching.pending := [] }
      writes := writes
      journal := journal
      poisoned := c.poisoned <|> some .recovered })

end ConnectionCore
end Bornera.Core
