import Bornera.Core.Basic
import Bornera.Lib.Lookup

/-!
# The ordered writer

`WriteQueue` (`write/{queue,admission,accounting,integrity,queued,state}.rs`) keeps complete frames
in wire order, measured once at commit. Its byte budget is a third-party counter, taken here
through its interface `ByteBudget`. `Balanced` ties the budget to the frames, and one lemma for
each operation of the writer gives its result on a balanced queue.
-/

namespace Bornera.Core

open Lib.Lookup

/-! ### The byte budget -/

/-- The interface of a byte budget, with what its documentation promises: a reservation succeeds
exactly when the sum stays within the limit, a release exactly when the amount is in use. -/
class ByteBudget (B : Type) where
  new : ℕ → B
  used : B → ℕ
  limit : B → ℕ
  canReserve : B → ℕ → Bool
  tryReserve : B → ℕ → Bool × B
  release : B → ℕ → Bool × B
  used_new : ∀ l, used (new l) = 0
  limit_new : ∀ l, limit (new l) = l
  canReserve_eq : ∀ b a, canReserve b a = decide (used b + a ≤ limit b)
  tryReserve_fits : ∀ b a, used b + a ≤ limit b → (tryReserve b a).1 = true ∧
    used (tryReserve b a).2 = used b + a ∧ limit (tryReserve b a).2 = limit b
  release_fits : ∀ b a, a ≤ used b → (release b a).1 = true ∧
    used (release b a).2 = used b - a ∧ limit (release b a).2 = limit b

/-- A budget as a limit and a count. -/
structure Counted where
  limit : ℕ
  used : ℕ
  deriving DecidableEq, Repr

instance : ByteBudget Counted where
  new l := ⟨l, 0⟩
  used := Counted.used
  limit := Counted.limit
  canReserve b a := decide (b.used + a ≤ b.limit)
  tryReserve b a := if b.used + a ≤ b.limit then (true, ⟨b.limit, b.used + a⟩) else (false, b)
  release b a := if a ≤ b.used then (true, ⟨b.limit, b.used - a⟩) else (false, b)
  used_new _ := rfl
  limit_new _ := rfl
  canReserve_eq _ _ := rfl
  tryReserve_fits b a h := by rw [if_pos h]; exact ⟨rfl, rfl, rfl⟩
  release_fits b a h := by rw [if_pos h]; exact ⟨rfl, rfl, rfl⟩

/-! ### The queue -/

/-- One measured complete frame retained in wire order. -/
structure QueuedWrite (F : Type) where
  operation : OperationId
  effect : EffectId
  frame : F
  measure : FrameMeasure
  written : ℕ
  started : Bool
  deriving DecidableEq

namespace QueuedWrite

variable {F : Type}

def delivery (w : QueuedWrite F) : Delivery := if w.started then .possiblySent else .notSent

def intoDiscarded (w : QueuedWrite F) : DiscardedWrite F :=
  ⟨w.operation, w.effect, w.frame, w.measure, w.written, w.delivery⟩

end QueuedWrite

inductive WriteBoundary where
  | unchanged | crossed
  deriving DecidableEq, Repr

/-- The result of exact progress at the front. -/
inductive WriteProgress (F : Type) where
  | pending (operation : OperationId) (boundary : WriteBoundary)
  | complete (operation : OperationId) (effect : EffectId) (frame : F) (measure : FrameMeasure)
    (boundary : WriteBoundary) (delivery : Delivery)

/-- The owner of complete outbound frames in wire order. -/
structure WriteQueue (B F : Type) where
  epoch : ConnectionEpoch
  maxFrames : ℕ
  maxRetainedBytes : ℕ
  frames : List (QueuedWrite F)
  retainedBudget : B
  deriving DecidableEq

/-- The bytes from `start` to `stop`, when both lie in the slice. -/
def getRange (bytes : List UInt8) (start stop : ℕ) : Option (List UInt8) :=
  if start ≤ stop ∧ stop ≤ bytes.length then some ((bytes.take stop).drop start) else none

namespace WriteQueue

variable {B F : Type} [ByteBudget B]

def new (epoch : ConnectionEpoch) (maxFrames maxRetainedBytes : ℕ) : WriteQueue B F :=
  ⟨epoch, maxFrames, maxRetainedBytes, [], ByteBudget.new maxRetainedBytes⟩

def retainedBytes (q : WriteQueue B F) : ℕ := ByteBudget.used q.retainedBudget

def admissionFailure (q : WriteQueue B F) (epoch : ConnectionEpoch) (operation : OperationId)
    (effect : EffectId) (incoming : ℕ) : Option WriteAdmissionFailure :=
  if epoch ≠ q.epoch then some (.staleEpoch q.epoch epoch)
  else if q.frames.any (·.operation = operation) then some (.identityInUse .operation)
  else if q.frames.any (·.effect = effect) then some (.identityInUse .effect)
  else if q.frames.length = q.maxFrames then some (.frameCapacityReached q.maxFrames)
  else if !ByteBudget.canReserve q.retainedBudget incoming then
    some (.retainedByteCapacity q.retainedBytes incoming q.maxRetainedBytes)
  else none

/-- Accepts one complete frame, or gives the failure and leaves the frame with the caller. -/
def admitWrite (q : WriteQueue B F) (epoch : ConnectionEpoch) (operation : OperationId)
    (effect : EffectId) (measure : FrameMeasure)
    (frame : F) : Except WriteAdmissionFailure Unit × WriteQueue B F :=
  let incoming := measure.retainedBytes
  match q.admissionFailure epoch operation effect incoming with
  | some failure => (.error failure, q)
  | none =>
    match ByteBudget.tryReserve q.retainedBudget incoming with
    | (false, budget) =>
      (.error (.retainedByteCapacity (ByteBudget.used budget) incoming q.maxRetainedBytes),
        { q with retainedBudget := budget })
    | (true, budget) =>
      (.ok (), { q with
        retainedBudget := budget
        frames := q.frames ++ [⟨operation, effect, frame, measure, 0, false⟩] })

/-- Borrows at most `maxBytes` from the front. -/
def front (q : WriteQueue B F) (view : FrameView F) (maxBytes : ℕ) :
    Except FrameContractViolation (Option WriteSlice) :=
  match q.frames with
  | [] => .ok none
  | front :: _ =>
    let bytes := view.bytes front.frame
    let measured := front.measure.wireBytes
    if bytes.length ≠ measured then .error (.wireLengthChanged measured bytes.length)
    else
      match getRange bytes front.written measured with
      | none => .error (.writeRangeUnavailable measured front.written bytes.length)
      | some remaining =>
        match getRange remaining 0 (min remaining.length maxBytes) with
        | none => .error (.writeRangeUnavailable measured front.written bytes.length)
        | some offered => .ok (some ⟨q.epoch, front.operation, front.effect, offered⟩)

def releaseRetained (q : WriteQueue B F) (released : ℕ) :
    Except WriteProgressError Unit × WriteQueue B F :=
  match ByteBudget.release q.retainedBudget released with
  | (true, budget) => (.ok (), { q with retainedBudget := budget })
  | (false, budget) =>
    (.error (.retainedAccountingUnderflow q.retainedBytes released),
      { q with retainedBudget := budget })

/-- Applies exact positive or zero progress to the front, which must be the named effect. -/
def advance (q : WriteQueue B F) (epoch : ConnectionEpoch) (effect : EffectId) (written : ℕ) :
    Except WriteProgressError (WriteProgress F) × WriteQueue B F :=
  if epoch ≠ q.epoch then (.error (.staleEpoch q.epoch epoch), q)
  else
    match q.frames with
    | [] => (.error .noPendingWrite, q)
    | front :: rest =>
      if front.effect ≠ effect then (.error (.outOfOrderEffect front.effect effect), q)
      else
        match checkedSub front.measure.wireBytes front.written with
        | none => (.error (.progressAccountingOverflow front.measure.wireBytes front.written), q)
        | some remaining =>
          if remaining < written then
            (.error (.exceedsRemaining written remaining),
              { q with
                frames := { front with started := front.started || decide (0 < written) } :: rest })
          else if written = remaining ∧ q.retainedBytes < front.measure.retainedBytes then
            (.error (.retainedAccountingUnderflow q.retainedBytes front.measure.retainedBytes), q)
          else
            let boundary := if 0 < written ∧ front.started = false then .crossed else .unchanged
            let begun := { front with started := front.started || decide (0 < written) }
            match checkedAdd front.written written with
            | none =>
              (.error (.exceedsRemaining written remaining), { q with frames := begun :: rest })
            | some total =>
              let moved := { begun with written := total }
              let q' := { q with frames := moved :: rest }
              if total < front.measure.wireBytes then (.ok (.pending front.operation boundary), q')
              else if written ≠ remaining then
                (.error (.retainedAccountingUnderflow q.retainedBytes
                  front.measure.retainedBytes), q')
              else
                match q'.releaseRetained front.measure.retainedBytes with
                | (.error e, q') => (.error e, q')
                | (.ok (), q') =>
                  (.ok (.complete front.operation effect front.frame front.measure boundary
                    moved.delivery),
                    { q' with frames := rest })

/-- Removes one exact effect, also a partly written front. -/
def discard (q : WriteQueue B F) (epoch : ConnectionEpoch) (effect : EffectId) :
    Except WriteProgressError (Option (DiscardedWrite F)) × WriteQueue B F :=
  if epoch ≠ q.epoch then (.error (.staleEpoch q.epoch epoch), q)
  else
    match removeFirst (·.effect = effect) q.frames with
    | none => (.ok none, q)
    | some (discarded, frames) =>
      let released := discarded.measure.retainedBytes
      if q.retainedBytes < released then
        (.error (.retainedAccountingUnderflow q.retainedBytes released), q)
      else
        match q.releaseRetained released with
        | (.error e, q) => (.error e, q)
        | (.ok (), q) => (.ok (some discarded.intoDiscarded), { q with frames })

/-- Removes every retained frame, in wire order. -/
def discardAll (q : WriteQueue B F) : List (DiscardedWrite F) × WriteQueue B F :=
  (q.frames.map QueuedWrite.intoDiscarded,
    { q with frames := [], retainedBudget := ByteBudget.new (ByteBudget.limit q.retainedBudget) })

def queuedFrames (q : WriteQueue B F) : ℕ := q.frames.length

def effectFor (q : WriteQueue B F) (operation : OperationId) : Option EffectId :=
  (q.frames.find? (·.operation = operation)).map QueuedWrite.effect

def frontIsEmpty (q : WriteQueue B F) : Bool :=
  match q.frames with
  | [] => false
  | front :: _ => front.measure.wireBytes == 0

def identities (q : WriteQueue B F) : List (OperationId × EffectId) :=
  q.frames.map fun w => (w.operation, w.effect)

/-- The sum of the measured bytes, unless it overflows. -/
def measuredBytes : List (QueuedWrite F) → ℕ → Option ℕ
  | [], retained => some retained
  | w :: ws, retained =>
    match checkedAdd retained w.measure.retainedBytes with
    | none => none
    | some retained => measuredBytes ws retained

def accountingIsValid (q : WriteQueue B F) : Bool :=
  measuredBytes q.frames 0 == some q.retainedBytes

/-! ### Balanced queues -/

/-- The bytes charged for a list of frames. -/
def charge (frames : List (QueuedWrite F)) : ℕ := (frames.map fun w => w.measure.retainedBytes).sum

@[simp] lemma charge_nil : charge ([] : List (QueuedWrite F)) = 0 := rfl
@[simp] lemma charge_cons (w : QueuedWrite F) (ws : List (QueuedWrite F)) :
    charge (w :: ws) = w.measure.retainedBytes + charge ws := rfl
@[simp] lemma charge_append (ws vs : List (QueuedWrite F)) :
    charge (ws ++ vs) = charge ws + charge vs := by
  simp [charge]

/-- **The budget of the writer is the sum of its measured frames.** -/
structure Balanced (q : WriteQueue B F) : Prop where
  used : q.retainedBytes = charge q.frames
  limit : ByteBudget.limit q.retainedBudget = q.maxRetainedBytes

lemma balanced_new (epoch : ConnectionEpoch) (maxFrames maxRetainedBytes : ℕ) :
    (new epoch maxFrames maxRetainedBytes : WriteQueue B F).Balanced :=
  ⟨ByteBudget.used_new _, ByteBudget.limit_new _⟩

lemma Balanced.discardAll {q : WriteQueue B F} (h : q.Balanced) : q.discardAll.2.Balanced :=
  ⟨ByteBudget.used_new _, (ByteBudget.limit_new _).trans h.limit⟩

/-- Only the charge of the frames matters to the balance. -/
lemma Balanced.reframe {q : WriteQueue B F} (h : q.Balanced) {frames : List (QueuedWrite F)}
    (hc : charge frames = charge q.frames) : ({ q with frames } : WriteQueue B F).Balanced :=
  ⟨h.used.trans hc.symm, h.limit⟩

/-- An admission of a frame with new identities that fits both limits succeeds. -/
theorem Balanced.admitWrite {q : WriteQueue B F} (h : q.Balanced) {operation : OperationId}
    {effect : EffectId} (measure : FrameMeasure) (frame : F)
    (ho : ∀ w ∈ q.frames, w.operation ≠ operation) (he : ∀ w ∈ q.frames, w.effect ≠ effect)
    (hf : q.frames.length < q.maxFrames)
    (hb : charge q.frames + measure.retainedBytes ≤ q.maxRetainedBytes) :
    ∃ budget,
      q.admitWrite q.epoch operation effect measure frame = (.ok (), { q with
        frames := q.frames ++ [⟨operation, effect, frame, measure, 0, false⟩],
          retainedBudget := budget }) ∧
      ({ q with
        frames := q.frames ++ [⟨operation, effect, frame, measure, 0, false⟩]
        retainedBudget := budget } : WriteQueue B F).Balanced := by
  have hfits : ByteBudget.used q.retainedBudget + measure.retainedBytes ≤
      ByteBudget.limit q.retainedBudget := by
    rw [h.limit]
    have hu : ByteBudget.used q.retainedBudget = charge q.frames := h.used
    omega
  obtain ⟨h1, h2, h3⟩ := ByteBudget.tryReserve_fits q.retainedBudget measure.retainedBytes hfits
  have hnone : q.admissionFailure q.epoch operation effect measure.retainedBytes = none := by
    unfold admissionFailure
    rw [if_neg (by simp), if_neg (by simpa using ho), if_neg (by simpa using he), if_neg (by omega),
      ByteBudget.canReserve_eq, decide_eq_true hfits]
    rfl
  obtain ⟨b, hb'⟩ : ∃ b, ByteBudget.tryReserve q.retainedBudget measure.retainedBytes = (true, b) :=
    ⟨_, Prod.ext h1 rfl⟩
  rw [hb'] at h2 h3
  refine ⟨b, ?_, ?_, ?_⟩
  · simp only [WriteQueue.admitWrite, hnone, hb']
  · show ByteBudget.used b = _
    rw [h2, charge_append, charge_cons, charge_nil, Nat.add_zero]
    exact congrArg (· + _) h.used
  · exact h3.trans h.limit

/-- A release of bytes in use succeeds. -/
lemma releaseRetained_fits (q : WriteQueue B F) (released : ℕ) (hle : released ≤ q.retainedBytes) :
    ∃ budget, q.releaseRetained released = (.ok (), { q with retainedBudget := budget }) ∧
      ByteBudget.used budget = q.retainedBytes - released ∧
      ByteBudget.limit budget = ByteBudget.limit q.retainedBudget := by
  obtain ⟨h1, h2, h3⟩ := ByteBudget.release_fits q.retainedBudget released hle
  obtain ⟨b, hb⟩ : ∃ b, ByteBudget.release q.retainedBudget released = (true, b) :=
    ⟨_, Prod.ext h1 rfl⟩
  rw [hb] at h2 h3
  refine ⟨b, ?_, h2, h3⟩
  simp only [WriteQueue.releaseRetained, hb]

/-- The removal of a frame by its effect. -/
theorem Balanced.discard {q : WriteQueue B F} (h : q.Balanced) {pre post : List (QueuedWrite F)}
    {w : QueuedWrite F} (hq : q.frames = pre ++ w :: post) (hpre : ∀ v ∈ pre, v.effect ≠ w.effect) :
    ∃ budget,
      q.discard q.epoch w.effect =
        (.ok (some w.intoDiscarded), { q with frames := pre ++ post, retainedBudget := budget }) ∧
      ({ q with frames := pre ++ post, retainedBudget := budget } : WriteQueue B F).Balanced := by
  have hu := h.used
  rw [hq, charge_append, charge_cons] at hu
  obtain ⟨b, hb, hbu, hbl⟩ := releaseRetained_fits q w.measure.retainedBytes (by omega)
  refine ⟨b, ?_, ?_, ?_⟩
  · unfold WriteQueue.discard
    rw [if_neg (by simp), hq, removeFirst_mid (by simpa using hpre) (by simp)]
    simp only
    rw [if_neg (by omega), hb]
  · show ByteBudget.used b = _
    rw [hbu, charge_append]
    omega
  · exact hbl.trans h.limit

/-- What one report of progress does to a balanced queue whose front frame `w` it names. -/
theorem Balanced.advance {q : WriteQueue B F} (h : q.Balanced) {w : QueuedWrite F}
    {rest : List (QueuedWrite F)} (hq : q.frames = w :: rest) (hw : w.written ≤ w.measure.wireBytes)
    {epoch : ConnectionEpoch} (hep : epoch = q.epoch) (written : ℕ) :
    (w.measure.wireBytes - w.written < written ∧
      q.advance epoch w.effect written =
        (.error (.exceedsRemaining written (w.measure.wireBytes - w.written)),
          { q with frames := { w with started := true } :: rest })) ∨
    (w.written + written < w.measure.wireBytes ∧
      q.advance epoch w.effect written =
        (.ok (.pending w.operation
          (if 0 < written ∧ w.started = false then .crossed else .unchanged)),
          { q with frames := { w with
            started := w.started || decide (0 < written), written := w.written + written }
              :: rest })) ∨
    (w.written + written = w.measure.wireBytes ∧ ∃ budget,
      q.advance epoch w.effect written =
        (.ok (.complete w.operation w.effect w.frame w.measure
          (if 0 < written ∧ w.started = false then .crossed else .unchanged)
          (if w.started || decide (0 < written) then .possiblySent else .notSent)),
          { q with frames := rest, retainedBudget := budget }) ∧
      ({ q with frames := rest, retainedBudget := budget } : WriteQueue B F).Balanced) := by
  subst hep
  have hu := h.used
  rw [hq, charge_cons] at hu
  have hsub : checkedSub w.measure.wireBytes w.written = some (w.measure.wireBytes - w.written) :=
    if_pos hw
  have hwire := w.measure.wire_le
  by_cases hover : w.measure.wireBytes - w.written < written
  · refine Or.inl ⟨hover, ?_⟩
    simp only [WriteQueue.advance, hq, hsub, hover, ne_eq, not_true, if_false, if_true]
    simp [show 0 < written by omega]
  have hadd : checkedAdd w.written written = some (w.written + written) := if_pos (by omega)
  have hret : ¬(q.retainedBytes < w.measure.retainedBytes) := by omega
  rcases Nat.lt_or_ge (w.written + written) w.measure.wireBytes with hlt | hge
  · refine Or.inr (Or.inl ⟨hlt, ?_⟩)
    simp only [WriteQueue.advance, hq, hsub, hover, hret, hadd, hlt, ne_eq, not_true,
      if_false, if_true,
      and_false]
  · refine Or.inr (Or.inr ⟨by omega, ?_⟩)
    have hrem : w.measure.wireBytes - w.written = written := by omega
    rw [hrem] at hsub
    obtain ⟨b, hb, hbu, hbl⟩ := releaseRetained_fits
      { q with frames := { w with
        started := w.started || decide (0 < written), written := w.written + written } :: rest }
      w.measure.retainedBytes (show _ ≤ q.retainedBytes by omega)
    refine ⟨b, ?_, ?_, ?_⟩
    · simp only [WriteQueue.advance, hq, hsub, hret, hadd, hge.not_gt, lt_irrefl, ne_eq,
        not_true, if_false,
        and_false, hb]
      rfl
    · show ByteBudget.used b = _
      rw [hbu]
      show q.retainedBytes - _ = charge rest
      omega
    · exact hbl.trans h.limit

lemma measuredBytes_eq {frames : List (QueuedWrite F)} {retained : ℕ}
    (h : retained + charge frames ≤ u64Max) :
    measuredBytes frames retained = some (retained + charge frames) := by
  induction frames generalizing retained with
  | nil => rfl
  | cons w ws ih =>
    rw [charge_cons] at h
    have hadd : checkedAdd retained w.measure.retainedBytes =
        some (retained + w.measure.retainedBytes) :=
      if_pos (by omega)
    simp only [measuredBytes, hadd]
    rw [ih (by omega), charge_cons, Nat.add_assoc]

/-- The accounting audit passes on a balanced queue. -/
lemma Balanced.accountingIsValid {q : WriteQueue B F} (h : q.Balanced)
    (hle : q.retainedBytes ≤ u64Max) :
    q.accountingIsValid = true := by
  have hu := h.used
  unfold WriteQueue.accountingIsValid
  rw [measuredBytes_eq (by omega), Nat.zero_add, hu, beq_self_eq_true]

end WriteQueue
end Bornera.Core
