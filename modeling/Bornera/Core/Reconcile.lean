import Bornera.Core.Policy

/-!
# The aggregate owner over a healthy epoch

`Refines limits c e` relates a whole core to an epoch: its machine (`PolicyOf`), its writer
(`WriterOf`), its latch and its journal, which is blank between calls. On a healthy epoch the
audits pass, the journal has room, and reconciliation takes exactly the frames out of the writer
that left the lane.
-/

namespace Bornera.Core

open Lib Lib.Lookup

variable {B F R : Type} [ByteBudget B]

/-- **The writer holds the frames of the epoch.** -/
structure WriterOf (limits : ConnectionLimits) (q : WriteQueue B F) (e : Epoch F) : Prop where
  epoch : q.epoch = e.epoch
  maxFrames : q.maxFrames = limits.maxWriteFrames
  maxRetained : q.maxRetainedBytes = limits.maxWriteRetainedBytes
  frames : q.frames = e.frames
  balanced : q.Balanced

/-- A journal within its slots. -/
structure Kept (limits : ConnectionLimits) (j : RecoveryJournal F) : Prop where
  operationSlots : j.operationSlots = limits.maxOperations
  writeSlots : j.writeSlots = limits.maxWriteFrames
  operations : j.operations.length ≤ j.operationSlots
  writes : j.writes.length ≤ j.writeSlots
  overflow : j.overflowWrite = none

/-- A journal that retains nothing. -/
structure Blank (limits : ConnectionLimits) (j : RecoveryJournal F) : Prop where
  operationSlots : j.operationSlots = limits.maxOperations
  writeSlots : j.writeSlots = limits.maxWriteFrames
  operations : j.operations = []
  writes : j.writes = []
  overflow : j.overflowWrite = none

/-- **The core is in the state of the epoch.** -/
structure Refines (limits : ConnectionLimits) (c : ConnectionCore B F) (e : Epoch F) : Prop where
  policy : PolicyOf limits c.machine e
  writer : WriterOf limits c.writes e
  poisoned : c.poisoned = e.poisoned
  journal : Blank limits c.journal
  unarmed : e.poisoned = none → c.journal.armed = false

theorem refines_new (ledgerId : ℕ) (epoch : ConnectionEpoch) (limits : ConnectionLimits)
    (seeds : IdentitySeeds) :
    Refines limits
      (ConnectionCore.withIdentitySeeds ledgerId epoch limits seeds : ConnectionCore B F)
      (Epoch.new ledgerId epoch seeds) :=
  ⟨PolicyOf.new ledgerId epoch limits seeds,
    ⟨rfl, rfl, rfl, rfl, WriteQueue.balanced_new _ _ _⟩, rfl,
    ⟨rfl, rfl, rfl, rfl, rfl⟩, fun _ => rfl⟩

variable {limits : ConnectionLimits} {c : ConnectionCore B F} {e : Epoch F}

/-! ### Frames and holdings -/

lemma frames_mid {pre post : List (Item F)} {x : Item F} {w : QueuedWrite F}
    (hx : x.write = some w) :
    (pre ++ x :: post).filterMap Item.write =
      pre.filterMap Item.write ++ w :: post.filterMap Item.write := by
  rw [List.filterMap_append, List.filterMap_cons_some hx]

lemma charge_lane {lane : List (Item F)} (h : ∀ x ∈ lane, x.Bound) :
    WriteQueue.charge (lane.filterMap Item.write) =
      (lane.map fun x => (Holding.ofRecord x.record).writeCharge).sum := by
  induction lane with
  | nil => rfl
  | cons x xs ih =>
    have hx := h x (List.mem_cons_self ..)
    have hxs := ih fun y hy => h y (List.mem_cons_of_mem _ hy)
    cases hw : x.write with
    | none =>
      have hheld : x.record.writeHeld = false := by rw [hx.held, hw]; rfl
      rw [List.filterMap_cons_none hw, hxs]
      simp [Holding.ofRecord, Holding.writeCharge, hheld]
    | some w =>
      have hheld : x.record.writeHeld = true := by rw [hx.held, hw]; rfl
      rw [List.filterMap_cons_some hw, WriteQueue.charge_cons, hxs]
      simp [Holding.ofRecord, Holding.writeCharge, hheld, hx.bytes w hw]

lemma length_lane {lane : List (Item F)} (h : ∀ x ∈ lane, x.Bound) :
    (lane.filterMap Item.write).length =
      (lane.map fun x => Holding.ofRecord x.record).countP Holding.writeHeld := by
  induction lane with
  | nil => rfl
  | cons x xs ih =>
    have hx := h x (List.mem_cons_self ..)
    have hxs := ih fun y hy => h y (List.mem_cons_of_mem _ hy)
    rw [List.map_cons, List.countP_cons]
    cases hw : x.write with
    | none =>
      have hheld : x.record.writeHeld = false := by rw [hx.held, hw]; rfl
      rw [List.filterMap_cons_none hw, hxs]
      simp [Holding.ofRecord, hheld]
    | some w =>
      have hheld : x.record.writeHeld = true := by rw [hx.held, hw]; rfl
      rw [List.filterMap_cons_some hw, List.length_cons, hxs]
      simp [Holding.ofRecord, hheld]

/-- Write bytes of permits and frames together are what the ledger counts. -/
lemma Refines.writeRetained (h : Refines limits c e) (hw : e.Wf) :
    c.machine.ledger.writeRetainedBytes =
      (e.permits.map fun p => p.reservation.writeRetainedBytes).sum +
        WriteQueue.charge e.frames := by
  rw [h.policy.accounts.writeRetained, Epoch.holdings, List.map_append, List.sum_append,
    Epoch.frames,
    charge_lane hw.bound, List.map_map, List.map_map]
  rfl

lemma Refines.writeFrames (h : Refines limits c e) (hw : e.Wf) :
    c.machine.ledger.writeFrames = e.permits.length + e.frames.length := by
  have hp : (e.permits.map Holding.ofPermit).countP Holding.writeHeld = e.permits.length := by
    rw [List.countP_eq_length.mpr ?_, List.length_map]
    intro y hy
    obtain ⟨p, _, rfl⟩ := List.mem_map.mp hy
    rfl
  rw [h.policy.accounts.frames, Epoch.holdings, List.countP_append, hp, Epoch.frames,
    length_lane hw.bound]

lemma Refines.frames_le (h : Refines limits c e) (hw : e.Wf) :
    e.frames.length ≤ limits.maxWriteFrames := by
  have := h.writeFrames hw
  have := h.policy.accounts.frames_le
  omega

lemma Refines.lane_le (h : Refines limits c e) : e.lane.length ≤ limits.maxOperations := by
  have := h.policy.accounts.operations_le
  simp only [Epoch.holdings, List.length_append, List.length_map] at this
  omega

/-! ### The audits -/

lemma mergeViolation_none {lane : List (Item F)} (h : ∀ x ∈ lane, x.Bound) :
    ConnectionCore.mergeViolation (lane.map Item.record)
      ((lane.filterMap Item.write).map fun w => (w.operation, w.effect)) = none := by
  induction lane with
  | nil => rfl
  | cons x xs ih =>
    have hx := h x (List.mem_cons_self ..)
    have hxs := ih fun y hy => h y (List.mem_cons_of_mem _ hy)
    cases hw : x.write with
    | none =>
      have hheld : x.record.writeHeld = false := by rw [hx.held, hw]; rfl
      rw [List.map_cons, List.filterMap_cons_none hw, ConnectionCore.mergeViolation.eq_def]
      simp only [hheld, if_true]
      exact hxs
    | some w =>
      have hheld : x.record.writeHeld = true := by rw [hx.held, hw]; rfl
      rw [List.map_cons, List.filterMap_cons_some hw, List.map_cons,
        ConnectionCore.mergeViolation.eq_def]
      simp only [hheld, hx.operation w hw, hx.effect w hw, Item.id, Bool.true_eq_false,
        ne_eq, not_true,
        if_false]
      exact hxs

/-- The ownership audit passes. -/
theorem Refines.verifyOwnership (h : Refines limits c e) (hw : e.Wf) :
    ConnectionCore.verifyOwnership c = (.ok (), c) := by
  have hused : c.writes.retainedBytes ≤ u64Max := by
    have h1 := h.writer.balanced.used
    have h2 := h.writeRetained hw
    have h3 := h.policy.accounts.writeRetained_le
    have h4 := limits.writeRetained_le
    rw [h.writer.frames] at h1
    omega
  have hmerge : c.ownershipMergeViolation = none := by
    unfold ConnectionCore.ownershipMergeViolation WriteQueue.identities
    rw [h.policy.pending, h.writer.frames]
    exact mergeViolation_none hw.bound
  unfold ConnectionCore.verifyOwnership
  rw [h.writer.balanced.accountingIsValid hused, if_pos rfl, hmerge]

lemma Refines.verifyOwnershipOnHotPath (h : Refines limits c e) (hw : e.Wf) (debug : Bool) :
    ConnectionCore.verifyOwnershipOnHotPath debug c = (.ok (), c) := by
  cases debug
  · rfl
  · exact h.verifyOwnership hw

omit [ByteBudget B] in
lemma ensureHealthy_ok (hl : c.machine.ledger.poisoned = false) (hp : c.poisoned = none) :
    ConnectionCore.ensureHealthy c = (.ok (), c) := by
  unfold ConnectionCore.ensureHealthy
  rw [hl, hp]
  rfl

lemma Refines.ensureHealthy (h : Refines limits c e) (hp : e.poisoned = none) :
    ConnectionCore.ensureHealthy c = (.ok (), c) :=
  ensureHealthy_ok h.policy.accounts.sound (h.poisoned.trans hp)

lemma Refines.ensureHealthy_poisoned (h : Refines limits c e) {source : ConnectionCoreInvariant}
    (hp : e.poisoned = some source) :
    ConnectionCore.ensureHealthy c = (.error (.poisoned source), c) := by
  unfold ConnectionCore.ensureHealthy
  rw [h.policy.accounts.sound, h.poisoned.trans hp]
  rfl

lemma Refines.guardAdmission (h : Refines limits c e) (hw : e.Wf) (hp : e.poisoned = none)
    (debug : Bool) :
    ConnectionCore.guardAdmission debug c = (.ok (), c) := by
  unfold ConnectionCore.guardAdmission
  rw [Owner.bind_ok (h.ensureHealthy hp), h.verifyOwnershipOnHotPath hw]

lemma Refines.guardAdmission_poisoned (h : Refines limits c e) {source : ConnectionCoreInvariant}
    (hp : e.poisoned = some source) (debug : Bool) :
    ConnectionCore.guardAdmission debug c = (.error (.poisoned source), c) := by
  unfold ConnectionCore.guardAdmission
  rw [Owner.bind_error (h.ensureHealthy_poisoned hp)]

/-! ### The journal -/

lemma Kept.blank_clear {j : RecoveryJournal F} (h : Kept limits j) : Blank limits j.clear :=
  ⟨h.operationSlots, h.writeSlots, rfl, rfl, rfl⟩

lemma Blank.kept {j : RecoveryJournal F} (h : Blank limits j) : Kept limits j := by
  refine ⟨h.operationSlots, h.writeSlots, ?_, ?_, h.overflow⟩
  · rw [h.operations]
    exact Nat.zero_le _
  · rw [h.writes]
    exact Nat.zero_le _

lemma Blank.clear_eq {j : RecoveryJournal F} (h : Blank limits j) (ha : j.armed = false) :
    j.clear = j := by
  cases j
  obtain ⟨_, _, h1, h2, h3⟩ := h
  simp only at h1 h2 h3 ha
  rw [RecoveryJournal.clear, h1, h2, h3, ha]

lemma retainOperation_room {j : RecoveryJournal F} (h : Kept limits j)
    (hroom : j.operations.length < limits.maxOperations) (record : OperationRecord)
    (wireIndex : ℕ) :
    ∃ j', j.retainOperation record wireIndex = (true, j') ∧ Kept limits j' ∧ j'.writes = j.writes ∧
      j'.operations.length = j.operations.length + 1 := by
  unfold RecoveryJournal.retainOperation
  rw [if_pos (by rw [h.operationSlots]; exact hroom)]
  refine ⟨_, rfl, ⟨h.operationSlots, h.writeSlots, ?_, h.writes, h.overflow⟩, rfl, by simp⟩
  simp only [List.length_append, List.length_singleton]
  rw [h.operationSlots]
  exact hroom

lemma retainFrom_room (records : List OperationRecord) {j : RecoveryJournal F} (h : Kept limits j)
    (hroom : j.operations.length + records.length ≤ limits.maxOperations) (wireIndex : ℕ) :
    ∃ j', RecoveryJournal.retainFrom records wireIndex j = (true, j') ∧ Kept limits j' ∧
      j'.writes = j.writes := by
  induction records generalizing j wireIndex with
  | nil => exact ⟨_, rfl, ⟨h.operationSlots, h.writeSlots, h.operations, h.writes, h.overflow⟩, rfl⟩
  | cons r rs ih =>
    rw [List.length_cons] at hroom
    obtain ⟨j', hj, hk, hwr, hlen⟩ := retainOperation_room h (by omega) r wireIndex
    obtain ⟨j'', hj', hk', hwr'⟩ := ih hk (by omega) (wireIndex + 1)
    refine ⟨j'', ?_, hk', hwr'.trans hwr⟩
    rw [RecoveryJournal.retainFrom, hj]
    exact hj'

/-- A computation that only arms the journal, with the slots it has. -/
def Arms (limits : ConnectionLimits) (prepare : ConnectionCore.Run B F Unit)
    (c : ConnectionCore B F) : Prop :=
  ∃ j, prepare c = (.ok (), { c with journal := j }) ∧ Kept limits j ∧ j.writes = []

lemma Refines.beginRecoveryJournal (h : Refines limits c e) :
    Arms limits ConnectionCore.beginRecoveryJournal c := by
  have hroom : c.journal.clear.operations.length + c.machine.matching.pending.length ≤
      limits.maxOperations := by
    rw [h.policy.pending, List.length_map]
    simpa [RecoveryJournal.clear] using h.lane_le
  obtain ⟨j, hj, hk, hwr⟩ :=
    retainFrom_room c.machine.matching.pending h.journal.kept.blank_clear.kept hroom 0
  refine ⟨j, ?_, hk, hwr⟩
  simp only [ConnectionCore.beginRecoveryJournal, ConnectionCore.armJournal,
    RecoveryJournal.begin, hj]

lemma Refines.beginOperationRecoveryJournal (h : Refines limits c e) (operation : OperationId) :
    Arms limits (ConnectionCore.beginOperationRecoveryJournal operation) c := by
  unfold Arms ConnectionCore.beginOperationRecoveryJournal
  cases c.machine.matching.getIndexed operation with
  | none => exact ⟨c.journal, rfl, h.journal.kept, h.journal.writes⟩
  | some found =>
    have hk : Kept limits { c.journal.clear with armed := true } :=
      ⟨h.journal.operationSlots, h.journal.writeSlots, Nat.zero_le _, Nat.zero_le _, rfl⟩
    obtain ⟨j, hj, hk', hwr, _⟩ := retainOperation_room hk limits.operations_pos found.2 found.1
    refine ⟨j, ?_, hk', hwr⟩
    simp only [ConnectionCore.armJournal, RecoveryJournal.beginOperation, hj]

theorem Refines.prepareInputJournal (h : Refines limits c e) (input : ConnectionInput) :
    Arms limits (ConnectionCore.prepareInputJournal input) c := by
  have hnone : ∃ j, ((.ok (), c) : Except ConnectionCoreError Unit × ConnectionCore B F) =
      (.ok (), { c with journal := j }) ∧ Kept limits j ∧ j.writes = [] :=
    ⟨c.journal, rfl, h.journal.kept, h.journal.writes⟩
  unfold Arms
  cases input with
  | openAdmission epoch => exact hnone
  | cancel epoch operation =>
    simp only [ConnectionCore.prepareInputJournal]
    split
    · exact h.beginOperationRecoveryJournal operation
    · exact hnone
  | deadlineElapsed epoch operation now =>
    simp only [ConnectionCore.prepareInputJournal]
    split
    · cases c.machine.matching.get operation with
      | none => exact hnone
      | some record =>
        simp only
        split
        · exact hnone
        · split
          · exact h.beginRecoveryJournal
          · exact h.beginOperationRecoveryJournal operation
    · exact hnone
  | replyMalformed epoch =>
    simp only [ConnectionCore.prepareInputJournal]
    split
    · exact h.beginRecoveryJournal
    · exact hnone
  | beginDrain epoch => exact hnone
  | closeRequested epoch reason =>
    simp only [ConnectionCore.prepareInputJournal]
    split
    · exact h.beginRecoveryJournal
    · exact hnone
  | epochClosed epoch => exact hnone

theorem Refines.prepareReplyJournal (h : Refines limits c e) (reply : InboundReply R) :
    Arms limits (ConnectionCore.prepareReplyJournal reply) c := by
  unfold Arms ConnectionCore.prepareReplyJournal
  split
  · exact ⟨c.journal, rfl, h.journal.kept, h.journal.writes⟩
  · cases c.machine.matching.front with
    | none => exact h.beginRecoveryJournal
    | some front =>
      simp only
      split
      · exact h.beginRecoveryJournal
      · exact h.beginOperationRecoveryJournal front.id

/-! ### Reconciliation -/

/-- The effect takes a frame out of the writer. -/
def ConnectionEffect.isDiscard : ConnectionEffect R → Bool
  | .discardWrite _ _ _ => true
  | _ => false

lemma reconcileEffects_quiet {effects : List (ConnectionEffect R)}
    (h : ∀ x ∈ effects, x.isDiscard = false) (output : List (ConnectionEffect R))
    (c : ConnectionCore B F) :
    ConnectionCore.reconcileEffects effects output c = (.ok (output ++ effects), c) := by
  induction effects generalizing output with
  | nil => rw [List.append_nil]; rfl
  | cons x xs ih =>
    have hxs := ih (fun y hy => h y (List.mem_cons_of_mem _ hy)) (output ++ [x])
    rw [List.append_assoc, List.singleton_append] at hxs
    cases x with
    | discardWrite =>
      exact absurd (h _ (List.mem_cons_self ..)) (by simp [ConnectionEffect.isDiscard])
    | _ => exact hxs

lemma reconcileEffects_append (xs ys output : List (ConnectionEffect R))
    {out : List (ConnectionEffect R)} {c' : ConnectionCore B F}
    (h : ConnectionCore.reconcileEffects xs output c = (.ok out, c')) :
    ConnectionCore.reconcileEffects (xs ++ ys) output c =
      ConnectionCore.reconcileEffects ys out c' := by
  induction xs generalizing output c with
  | nil =>
    cases h
    rfl
  | cons x xs ih =>
    cases x with
    | discardWrite effect epoch operation =>
      simp only [List.cons_append, ConnectionCore.reconcileEffects] at h ⊢
      cases hd : ConnectionCore.reconcileDiscard effect epoch operation c with
      | mk r c₁ =>
        cases r with
        | error err =>
          rw [Owner.bind_error hd] at h
          cases h
        | ok u =>
          rw [Owner.bind_ok hd] at h ⊢
          exact ih output h
    | _ => exact ih _ h

/-- A discard of a frame the writer holds moves it into the journal. -/
lemma reconcileDiscard_ok {pre post : List (QueuedWrite F)} {w : QueuedWrite F}
    (hq : c.writes.frames = pre ++ w :: post) (hpre : ∀ v ∈ pre, v.effect ≠ w.effect)
    (hb : c.writes.Balanced) (hroom : c.journal.writes.length < c.journal.writeSlots) :
    ∃ budget,
      ConnectionCore.reconcileDiscard w.effect c.writes.epoch w.operation c =
        (.ok (), { c with
          writes := { c.writes with frames := pre ++ post, retainedBudget := budget }
          journal := { c.journal with writes := c.journal.writes ++ [w.intoDiscarded] } }) ∧
      ({ c.writes with frames := pre ++ post, retainedBudget := budget } : WriteQueue B
          F).Balanced := by
  obtain ⟨budget, hd, hbal⟩ := hb.discard hq hpre
  refine ⟨budget, ?_, hbal⟩
  unfold ConnectionCore.reconcileDiscard
  rw [hd]
  simp only [RecoveryJournal.retainWrite, if_pos hroom]
  rw [if_neg (by simp [QueuedWrite.intoDiscarded])]
  rfl

/-- What reconciliation does with the effects `raw` of a move from `e` to `e'`: it hands on
`effects`, and the writer follows. -/
def Reconciles (B : Type) [ByteBudget B] (limits : ConnectionLimits)
    (raw effects : List (ConnectionEffect R)) (e e' : Epoch F) : Prop :=
  ∀ c : ConnectionCore B F, WriterOf limits c.writes e → Kept limits c.journal →
    c.journal.writes = [] →
    ∃ q j, ConnectionCore.reconcileEffects raw [] c =
      (.ok effects, { c with writes := q, journal := j }) ∧
      WriterOf limits q e' ∧ Kept limits j

lemma reconciles_quiet {effects : List (ConnectionEffect R)}
    (h : ∀ x ∈ effects, x.isDiscard = false) {e' : Epoch F} (hepoch : e'.epoch = e.epoch)
    (hframes : e'.frames = e.frames) :
    Reconciles B limits effects effects e e' := by
  intro c hc hk _
  refine ⟨c.writes, c.journal, reconcileEffects_quiet h [] c, ?_, hk⟩
  exact ⟨hc.epoch.trans hepoch.symm, hc.maxFrames, hc.maxRetained, hc.frames.trans hframes.symm,
    hc.balanced⟩

lemma drainEffects_quiet (e : Epoch F) : ∀ x ∈ (e.drainEffects : List (ConnectionEffect R)),
    x.isDiscard = false := by
  unfold Epoch.drainEffects
  split
  · simp [ConnectionEffect.isDiscard]
  · simp

lemma publish_quiet (x : Item F) (epoch : ConnectionEpoch) (outcome : OperationOutcome R) :
    ∀ y ∈ x.publish epoch outcome, y.isDiscard = false := by
  unfold Item.publish
  split
  · simp [ConnectionEffect.isDiscard]
  · simp

lemma drained_frames (e : Epoch F) : e.drained.frames = e.frames := by
  unfold Epoch.drained
  split
  · next h =>
    simp only [Epoch.drains, List.isEmpty_iff, decide_eq_true_eq] at h
    simp [Epoch.frames, Epoch.close, h.2]
  · rfl

lemma drained_epoch (e : Epoch F) : e.drained.epoch = e.epoch := by
  unfold Epoch.drained
  split <;> rfl

lemma drained_poisoned (e : Epoch F) : e.drained.poisoned = e.poisoned := by
  unfold Epoch.drained
  split <;> rfl

/-- The removal of one operation takes its frame, when it has one, out of the writer. -/
theorem reconciles_removed (hw : e.Wf) {pre post : List (Item F)} {x : Item F}
    (hl : e.lane = pre ++ x :: post) (outcome : OperationOutcome R)
    (hroom : 0 < limits.maxWriteFrames) :
    Reconciles B limits
      (ConnectionMachine.removeEffects e.epoch x.record outcome ++
        { e with lane := pre ++ post }.drainEffects)
      ([.cancelDeadline e.epoch x.id, .publishOutcome e.epoch x.id outcome] ++
        { e with lane := pre ++ post }.drainEffects)
      e { e with lane := pre ++ post }.drained := by
  have hx := hw.bound x (by simp [hl])
  have hquiet : ∀ y ∈ [.cancelDeadline e.epoch x.id, .publishOutcome e.epoch x.id outcome] ++
      { e with lane := pre ++ post }.drainEffects, y.isDiscard = false := by
    intro y hy
    rcases List.mem_append.mp hy with hy | hy
    · simp only [List.mem_cons, List.not_mem_nil, or_false] at hy
      rcases hy with rfl | rfl <;> rfl
    · exact drainEffects_quiet _ y hy
  cases hwr : x.write with
  | none =>
    have hheld : x.record.writeHeld = false := by rw [hx.held, hwr]; rfl
    have hraw : ConnectionMachine.removeEffects e.epoch x.record outcome =
        [.cancelDeadline e.epoch x.id, .publishOutcome e.epoch x.id outcome] := by
      simp [ConnectionMachine.removeEffects, hheld, Item.id]
    rw [hraw]
    refine reconciles_quiet hquiet (drained_epoch _) ?_
    rw [drained_frames]
    simp only [Epoch.frames, hl, List.filterMap_append, List.filterMap_cons_none hwr]
  | some w =>
    have hheld : x.record.writeHeld = true := by rw [hx.held, hwr]; rfl
    intro c hc hk hempty
    have hframes : c.writes.frames =
        pre.filterMap Item.write ++ w :: post.filterMap Item.write := by
      rw [hc.frames, Epoch.frames, hl, frames_mid hwr]
    have hdistinct : ∀ v ∈ pre.filterMap Item.write, v.effect ≠ w.effect := by
      intro v hv
      obtain ⟨y, hy, hyv⟩ := List.mem_filterMap.mp hv
      have hnd := hw.effects.of_append_right
      rw [hl] at hnd
      rw [(hw.bound y (by simp [hl, hy])).effect v hyv, hx.effect w hwr]
      exact (ne_key_of_nodup hnd).1 y hy
    obtain ⟨budget, hd, hbal⟩ := reconcileDiscard_ok hframes hdistinct hc.balanced
      (by rw [hempty, hk.writeSlots]; exact hroom)
    refine ⟨{ c.writes with
        frames := pre.filterMap Item.write ++ post.filterMap Item.write, retainedBudget := budget },
      { c.journal with writes := c.journal.writes ++ [w.intoDiscarded] }, ?_,
      ⟨?_, hc.maxFrames, hc.maxRetained, ?_, hbal⟩, ?_⟩
    · have hraw : ConnectionMachine.removeEffects e.epoch x.record outcome ++
          { e with lane := pre ++ post }.drainEffects =
          .discardWrite w.effect c.writes.epoch w.operation ::
            ([.cancelDeadline e.epoch x.id, .publishOutcome e.epoch x.id outcome] ++
              { e with lane := pre ++ post }.drainEffects) := by
        simp [ConnectionMachine.removeEffects, hheld, hx.effect w hwr, hx.operation w hwr,
          hc.epoch, Item.id]
      rw [hraw, ConnectionCore.reconcileEffects, Owner.bind_ok hd, reconcileEffects_quiet hquiet]
      rfl
    · rw [drained_epoch]
      exact hc.epoch
    · rw [drained_frames, Epoch.frames, List.filterMap_append]
    · refine ⟨hk.operationSlots, hk.writeSlots, hk.operations, ?_, hk.overflow⟩
      simp only [hempty, List.nil_append, List.length_singleton, hk.writeSlots]
      exact hroom

/-- The loop over the effects of a closing lane empties the writer. -/
lemma reconcileEffects_close (lane : List (Item F)) (reason : CloseReason)
    (failure : Option (OperationId × OperationFailure)) (output : List (ConnectionEffect R))
    {c : ConnectionCore B F} (hb : ∀ x ∈ lane, x.Bound)
    (hframes : c.writes.frames = lane.filterMap Item.write) (hbal : c.writes.Balanced)
    (hk : Kept limits c.journal)
    (hroom : c.journal.writes.length + (lane.filterMap Item.write).length ≤ limits.maxWriteFrames) :
    ∃ budget j,
      ConnectionCore.reconcileEffects
        (lane.flatMap fun x =>
          ConnectionMachine.closeEffects c.writes.epoch reason failure x.record) output c =
        (.ok (output ++ lane.flatMap (Item.farewell c.writes.epoch reason failure)),
          { c with
            writes := { c.writes with frames := [], retainedBudget := budget }, journal := j }) ∧
      ({ c.writes with frames := [], retainedBudget := budget } : WriteQueue B F).Balanced ∧
          Kept limits j := by
  induction lane generalizing c output with
  | nil =>
    refine ⟨c.writes.retainedBudget, c.journal, ?_, ?_, hk⟩
    · simp only [List.flatMap_nil, List.append_nil, ConnectionCore.reconcileEffects, Owner.pure_run]
      rw [← show c.writes.frames = [] from hframes]
    · rw [← show c.writes.frames = [] from hframes]
      exact hbal
  | cons x xs ih =>
    have hx := hb x (List.mem_cons_self ..)
    have hxs := fun y hy => hb y (List.mem_cons_of_mem _ hy)
    rw [List.flatMap_cons, List.flatMap_cons]
    cases hwr : x.write with
    | none =>
      have hheld : x.record.writeHeld = false := by rw [hx.held, hwr]; rfl
      rw [List.filterMap_cons_none hwr] at hframes hroom
      have hraw : ConnectionMachine.closeEffects c.writes.epoch reason failure x.record =
          Item.farewell (R := R) c.writes.epoch reason failure x := by
        simp [ConnectionMachine.closeEffects, Item.farewell, Item.publish, Item.owed,
          Item.id, hheld]
      have hq : ∀ y ∈ Item.farewell (R := R) c.writes.epoch reason failure x,
          y.isDiscard = false := by
        intro y hy
        rcases List.mem_cons.mp hy with rfl | hy
        · rfl
        · exact publish_quiet _ _ _ y hy
      rw [hraw, reconcileEffects_append _ _ _ (reconcileEffects_quiet hq output c)]
      obtain ⟨budget, j, h1, h2, h3⟩ :=
        ih (output ++ Item.farewell c.writes.epoch reason failure x) hxs
        hframes hbal hk hroom
      exact ⟨budget, j, by rw [h1, List.append_assoc], h2, h3⟩
    | some w =>
      have hheld : x.record.writeHeld = true := by rw [hx.held, hwr]; rfl
      rw [List.filterMap_cons_some hwr] at hframes hroom
      rw [List.length_cons] at hroom
      obtain ⟨budget₀, hd, hbal₀⟩ := reconcileDiscard_ok
        (show c.writes.frames = [] ++ w :: xs.filterMap Item.write from hframes) (by simp) hbal
        (by rw [hk.writeSlots]; omega)
      have hraw : ConnectionMachine.closeEffects c.writes.epoch reason failure x.record =
          [.cancelDeadline c.writes.epoch x.id] ++
          ([.discardWrite w.effect c.writes.epoch w.operation] ++ x.publish (R := R) c.writes.epoch
            (.failed (ConnectionMachine.closeFailure reason failure x.record)
                x.record.delivery)) := by
        simp [ConnectionMachine.closeEffects, Item.publish, Item.owed, Item.id, hheld,
          hx.effect w hwr,
          hx.operation w hwr]
      have hkept : Kept limits { c.journal with
        writes := c.journal.writes ++ [w.intoDiscarded] } := by
        refine ⟨hk.operationSlots, hk.writeSlots, hk.operations, ?_, hk.overflow⟩
        simp only [List.length_append, List.length_singleton, hk.writeSlots]
        omega
      obtain ⟨budget, j, h1, h2, h3⟩ := ih
        (c := { c with
          writes := { c.writes with frames := xs.filterMap Item.write, retainedBudget := budget₀ }
          journal := { c.journal with writes := c.journal.writes ++ [w.intoDiscarded] } })
        (output ++ Item.farewell c.writes.epoch reason failure x) hxs rfl hbal₀ hkept (by
          simp only [List.length_append, List.length_singleton]
          omega)
      refine ⟨budget, j, ?_, h2, h3⟩
      rw [← List.append_assoc, ← h1, hraw, List.append_assoc,
        reconcileEffects_append _ _ output
          (reconcileEffects_quiet (by simp [ConnectionEffect.isDiscard]) output c),
        List.append_assoc, List.singleton_append, ConnectionCore.reconcileEffects, Owner.bind_ok hd,
        reconcileEffects_append _ _ _ (reconcileEffects_quiet (publish_quiet _ _ _) _ _)]
      simp [Item.farewell]

/-- Closing takes every frame out of the writer. -/
theorem reconciles_close (hw : e.Wf) (hroom : e.frames.length ≤ limits.maxWriteFrames)
    (reason : CloseReason) (failure : Option (OperationId × OperationFailure)) :
    Reconciles (R := R) B limits (.closeEpoch e.epoch reason :: PolicyOf.closeLane e reason failure)
      (e.closing reason failure) e (e.close reason) := by
  intro c hc hk hempty
  obtain ⟨budget, j, h1, h2, h3⟩ := reconcileEffects_close e.lane reason failure
    [.closeEpoch e.epoch reason] hw.bound hc.frames hc.balanced hk (by
      rw [hempty]
      simpa [Epoch.frames] using hroom)
  refine ⟨{ c.writes with frames := [], retainedBudget := budget }, j, ?_,
    ⟨hc.epoch, hc.maxFrames, hc.maxRetained, rfl, h2⟩, h3⟩
  rw [hc.epoch] at h1
  exact h1

/-! ### One driven transition -/

/-- A transition of the machine from `e` to `e'`, through the whole owner: what it hands back, and
the core just before its journal is cleared. -/
theorem Refines.drive (h : Refines limits c e) (hw : e.Wf) (hp : e.poisoned = none) (debug : Bool)
    {prepare : ConnectionCore.Run B F Unit} (hprep : Arms limits prepare c)
    {f : ConnectionMachine → ConnectionTransition R × ConnectionMachine}
    {t : ConnectionTransition R} {m' : ConnectionMachine} {e' : Epoch F}
    {effects : List (ConnectionEffect R)} (hmove : f c.machine = (t, m'))
    (hpol : PolicyOf limits m' e') (hrec : Reconciles B limits t.effects effects e e') :
    ∃ q j, ConnectionCore.drive debug prepare f c =
        (.ok { t with effects }, { c with machine := m', writes := q, journal := j }) ∧
      WriterOf limits q e' ∧ Kept limits j := by
  obtain ⟨j, hj, hk, hempty⟩ := hprep
  obtain ⟨q, j', hq, hwriter, hk'⟩ := hrec { c with machine := m', journal := j } h.writer hk hempty
  refine ⟨q, j', ?_, hwriter, hk'⟩
  have htransit : ConnectionCore.transit f { c with journal := j } =
      (.ok t, { c with machine := m', journal := j }) := by
    simp only [ConnectionCore.transit, Owner.update_run, hmove]
  have hreconcile : ConnectionCore.reconcile t { c with machine := m', journal := j } =
      (.ok { t with effects }, { c with machine := m', writes := q, journal := j' }) := by
    unfold ConnectionCore.reconcile
    rw [Owner.bind_ok hq]
    rfl
  have hhealthy : ConnectionCore.ensureHealthy
    { c with machine := m', writes := q, journal := j' } =
      (.ok (), { c with machine := m', writes := q, journal := j' }) :=
    ensureHealthy_ok hpol.accounts.sound (h.poisoned.trans hp)
  unfold ConnectionCore.drive
  rw [Owner.bind_ok (h.ensureHealthy hp), Owner.bind_ok (h.verifyOwnershipOnHotPath hw debug),
    Owner.bind_ok hj, Owner.bind_ok htransit, Owner.bind_ok hreconcile, Owner.bind_ok hhealthy]
  rfl

/-- The core after a driven transition refines the epoch it moves to. -/
theorem Refines.settled (h : Refines limits c e) (hp : e.poisoned = none) {e' : Epoch F}
    {m : ConnectionCore.Run B F (ConnectionTransition R)}
    {t : ConnectionTransition R} {m' : ConnectionMachine} {q : WriteQueue B F}
    {j : RecoveryJournal F}
    (hrun : m c = (.ok t, { c with machine := m', writes := q, journal := j }))
    (hpol : PolicyOf limits m' e') (hwriter : WriterOf limits q e') (hk : Kept limits j)
    (hp' : e'.poisoned = none) :
    ConnectionCore.settled m c =
      (.ok t, { c with machine := m', writes := q, journal := j.clear }) ∧
      Refines limits { c with machine := m', writes := q, journal := j.clear } e' := by
  constructor
  · unfold ConnectionCore.settled
    rw [Owner.bind_ok hrun]
    rfl
  · exact ⟨hpol, hwriter, (h.poisoned.trans hp).trans hp'.symm, hk.blank_clear, fun _ => rfl⟩

end Bornera.Core
