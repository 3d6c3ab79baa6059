import Bornera.Slot.Contract
import Bornera.Slot.Events
import Bornera.Slot.Memory
import Bornera.Slot.Quantum
import Bornera.Slot.Rotation
import Bornera.Slot.Settlement

/-!
# Why a slot fails

A slot fails over what is outside it. Every failure of a call has its cause in the transport, in a
lifecycle batch too small for the four events of an epoch, or in a caller that finalizes as drained
a slot without a drain. A transport that keeps its contract gives no cause, so a slot that is driven
within its contracts never fails.
-/

namespace Bornera.Slot

open Bornera.Core Bornera.Core.Epoch Lib ConnectionSlot

variable {B D C R E T : Type} {Q W : Type → Type} [ByteBudget B] [FrameDecoder D R E] [Retained R]
  [InboundClassifier C R] [EventBatch Q] [BoundedTimers W] [SlotTransport T]

/-! ### Effects -/

/-- The interpretation knows what to do with the effect. -/
def Understood {X : Type}
    (outcomeOf : OperationOutcome X → Except EngineInvariant (OperationOutcome R)) :
    ConnectionEffect X → Prop
  | .discardWrite _ _ _ => False
  | .publishOutcome _ _ outcome => ∃ read, outcomeOf outcome = .ok read
  | _ => True

/-- The outcome carries no reply. -/
def Unanswered {X : Type} : OperationOutcome X → Prop
  | .reply _ => False
  | _ => True

omit [Retained R] in
lemma unit_unanswered {outcome : OperationOutcome Unit} (h : Unanswered outcome) :
    ∃ read : OperationOutcome R, unitOutcome outcome = .ok read := by
  cases outcome with
  | reply => exact h.elim
  | _ => exact ⟨_, rfl⟩

section
variable {X : Type} {outcomeOf : OperationOutcome X → Except EngineInvariant (OperationOutcome R)}
  {e e' : Epoch OutboundFrame}

section
omit [Retained R]

lemma understood_drain :
    ∀ effect ∈ (e.drainEffects : List (ConnectionEffect X)), Understood outcomeOf effect := by
  intro effect h
  unfold Epoch.drainEffects at h
  split at h
  · rw [List.mem_singleton.mp h]
    trivial
  · cases h

lemma understood_publish {x : Item OutboundFrame} {epoch : ConnectionEpoch}
    {outcome : OperationOutcome X} (h : ∃ read, outcomeOf outcome = .ok read) :
    ∀ effect ∈ x.publish epoch outcome, Understood outcomeOf effect := by
  intro effect heffect
  unfold Item.publish at heffect
  split at heffect
  · rw [List.mem_singleton.mp heffect]
    exact h
  · cases heffect

/-- **The core asks for nothing a slot does not know**, unless it has a reply for
a call that carries none. -/
lemma understood_step {call : Call OutboundFrame X} {tr : ConnectionTransition X}
    (h : Step e call (.transition (.ok tr)) e')
    (hplain : ∀ outcome, Unanswered outcome → ∃ read, outcomeOf outcome = .ok read)
    (hcall : ∀ reply, call = .applyReply reply → ∀ outcome, ∃ read, outcomeOf outcome = .ok read) :
    ∀ effect ∈ tr.effects, Understood outcomeOf effect := by
  cases h with
  | ignored _ _ _ quiet =>
    rw [quiet]
    exact fun _ h => by cases h
  | opened => exact fun _ h => by cases h
  | rescheduled => exact List.forall_mem_singleton.mpr trivial
  | @removed _ _ _ x outcome _ _ _ _ _ removes =>
    have hunanswered : Unanswered outcome := by cases removes <;> trivial
    refine List.forall_mem_append.mpr ⟨?_, understood_drain⟩
    exact List.forall_mem_cons.mpr ⟨trivial, List.forall_mem_singleton.mpr (hplain _ hunanswered)⟩
  | buried => exact List.forall_mem_singleton.mpr (hplain (.cancelled .possiblySent) trivial)
  | closed =>
    refine List.forall_mem_cons.mpr ⟨trivial, fun effect heffect => ?_⟩
    obtain ⟨x, _, hx⟩ := List.mem_flatMap.mp heffect
    rcases List.mem_cons.mp hx with rfl | hx
    · trivial
    · exact understood_publish (hplain (.failed _ _) trivial) effect hx
  | draining => exact understood_drain
  | confirmed => exact fun _ h => by cases h
  | replied =>
    refine List.forall_mem_append.mpr ⟨List.forall_mem_cons.mpr ⟨trivial, ?_⟩, understood_drain⟩
    exact understood_publish (hcall _ rfl _)
  | progressed => exact fun _ h => by cases h
  | finished => exact fun _ h => by cases h
  | completed =>
    refine List.forall_mem_append.mpr ⟨List.forall_mem_cons.mpr ⟨trivial, ?_⟩, understood_drain⟩
    exact understood_publish (hplain (.writeComplete _) trivial)

end

end

/-- The failures of the slot's own books, which never happen. -/
def EngineError.bookkeeping (error : EngineError) : Prop :=
  Misclocked error ∨ Overflows error ∨ Loses error

variable {s s' : ConnectionSlot B D C R Q W}

omit [ByteBudget B] [InboundClassifier C R] in
lemma effect_bookkeeping {X : Type}
    {outcomeOf : OperationOutcome X → Except EngineInvariant (OperationOutcome R)}
    {effect : ConnectionEffect X} (hu : Understood outcomeOf effect) {error : EngineError}
    (h : (interpretEffect outcomeOf effect s).1 = .error error) : error.bookkeeping := by
  cases effect with
  | scheduleDeadline epoch operation deadline => exact .inl (scheduleDeadline_error h)
  | discardWrite => exact hu.elim
  | cancelDeadline => cases h
  | closeEpoch => cases h
  | publishOutcome epoch operation outcome =>
    obtain ⟨read, hread⟩ := hu
    simp only [interpretEffect, hread] at h
    exact .inr (.inl (publish_error h))

/-! ### Publications and closes -/

/-- The lifecycle batch has its limits. -/
def Bounded (s : ConnectionSlot B D C R Q W) : Prop :=
  EventBatch.limits s.lifecycle = s.limits.lifecycle

lemma retainedSum_events (events : List ConnectionEvent) : retainedSum events = 0 := by
  simp [retainedSum, Retained.retainedBytes]

section
omit [ByteBudget B] [Retained R] [InboundClassifier C R] [BoundedTimers W]

/-- A publication that finds the batch full sets its event aside. -/
lemma publishEvent_crowded {event : ConnectionEvent} (hbounded : Bounded s)
    (h : (publishEvent event s).1 = .error (.invariant .lifecyclePublication)) :
    s.limits.lifecycle.maxEvents < (publishEvent event s).2.untold.length := by
  have hfull : ¬((EventBatch.contents s.lifecycle).length <
    (EventBatch.limits s.lifecycle).maxEvents ∧
      retainedSum (EventBatch.contents s.lifecycle) + Retained.retainedBytes event ≤
          (EventBatch.limits s.lifecycle).maxRetainedBytes) := by
    rintro ⟨hroom, hbytes⟩
    have hok := (EventBatch.push_fits s.lifecycle event hroom hbytes).1
    unfold publishEvent at h
    cases hpush : EventBatch.tryPush s.lifecycle event with
    | mk result lifecycle =>
    rw [hpush] at hok
    cases hok
    rw [hpush] at h
    cases h
  obtain ⟨herror, hcontents, _⟩ := EventBatch.push_full s.lifecycle event hfull
  have hmax : s.limits.lifecycle.maxEvents ≤ (EventBatch.contents s.lifecycle).length := by
    by_contra hlt
    refine hfull ⟨hbounded ▸ not_le.mp hlt, ?_⟩
    rw [retainedSum_events]
    exact Nat.zero_le _
  unfold publishEvent at h ⊢
  cases hpush : EventBatch.tryPush s.lifecycle event with
  | mk result lifecycle =>
  rw [hpush] at herror hcontents
  cases herror
  rw [hpush] at h
  dsimp only at h ⊢
  by_cases hspare : (EventBatch.contents s.recoveryEvents).length <
    (EventBatch.limits s.recoveryEvents).maxEvents ∧
      retainedSum (EventBatch.contents s.recoveryEvents) + Retained.retainedBytes event ≤
        (EventBatch.limits s.recoveryEvents).maxRetainedBytes
  · obtain ⟨hok, hrecovery, _⟩ := EventBatch.push_fits s.recoveryEvents event hspare.1 hspare.2
    cases hspared : EventBatch.tryPush s.recoveryEvents event with
    | mk result' recovery =>
    rw [hspared] at hok hrecovery
    cases hok
    dsimp only [untold] at hcontents hrecovery ⊢
    rw [hcontents, hrecovery, List.length_append, List.length_append, List.length_singleton]
    omega
  · obtain ⟨herror', _⟩ := EventBatch.push_full s.recoveryEvents event hspare
    cases hspared : EventBatch.tryPush s.recoveryEvents event with
    | mk result' recovery =>
    rw [hspared] at herror' h
    cases herror'
    cases h

lemma publishNext_crowded {event : ℕ → ConnectionEpoch → ConnectionEvent} (hbounded : Bounded s)
    (h : (publishNext event s).1 = .error (.invariant .lifecyclePublication)) :
    s.limits.lifecycle.maxEvents < (publishNext event s).2.untold.length := by
  rw [publishNext_run] at h ⊢
  cases hnext : checkedAdd s.eventSequence 1 with
  | none =>
    rw [hnext] at h
    cases h
  | some sequence =>
    rw [hnext] at h
    exact publishEvent_crowded hbounded h

/-- A publication leaves the limits of the batch. -/
lemma Bounded.publishNext (h : Bounded s) (event : ℕ → ConnectionEpoch → ConnectionEvent) :
    Bounded (publishNext event s).2 := by
  have hpush : ∀ event, EventBatch.limits (EventBatch.tryPush s.lifecycle event).2 =
      EventBatch.limits s.lifecycle := by
    intro event
    by_cases hroom : (EventBatch.contents s.lifecycle).length <
      (EventBatch.limits s.lifecycle).maxEvents ∧
        retainedSum (EventBatch.contents s.lifecycle) + Retained.retainedBytes event ≤
          (EventBatch.limits s.lifecycle).maxRetainedBytes
    · exact (EventBatch.push_fits s.lifecycle event hroom.1 hroom.2).2.2
    · exact (EventBatch.push_full s.lifecycle event hroom).2.2
  unfold Bounded
  rw [publishNext_run]
  cases checkedAdd s.eventSequence 1 with
  | none => exact h
  | some sequence =>
    dsimp only
    have hlimits := hpush (event sequence s.epoch)
    unfold publishEvent
    cases hrun : EventBatch.tryPush s.lifecycle (event sequence s.epoch) with
    | mk result lifecycle =>
    rw [hrun] at hlimits
    cases result with
    | ok => exact hlimits.trans h
    | error lost =>
      dsimp only
      split <;> exact hlimits.trans h

lemma Bounded.booked (h : Bounded s) (hbooked : Booked s s') : Bounded s' := by
  unfold Bounded
  rw [hbooked]
  exact h

end

/-- What is known of a failure of the slot `s`, which has met it. -/
inductive Known (s : ConnectionSlot B D C R Q W) : EngineError → Prop where
  | own {error : EngineError} (bookkeeping : error.bookkeeping) : Known s error
  | crowded (few : s.limits.lifecycle.maxEvents < s.untold.length) : Known s
    (.invariant .lifecyclePublication)

omit [ByteBudget B] [Retained R] [InboundClassifier C R] [BoundedTimers W] in
lemma publishNext_known {event : ℕ → ConnectionEpoch → ConnectionEvent} (hbounded : Bounded s)
    {error : EngineError}
    (h : (publishNext event s).1 = .error error) : Known (publishNext event s).2 error := by
  rcases publishNext_error h with rfl | rfl | rfl
  · exact .own (.inr (.inr (.inr rfl)))
  · have hlimits : (publishNext event s).2.limits = s.limits := by rw [publishNext_frame]
    refine .crowded ?_
    rw [hlimits]
    exact publishNext_crowded hbounded h
  · exact .own (.inr (.inr (.inl rfl)))

/-- A drained close of an open transport without a drain. -/
structure Undrained (s : ConnectionSlot B D C R Q W) (reason : CloseReason) : Prop where
  opened : s.transportState = .opened
  drained : reason = .drained
  none : s.drainDeadline = none

omit [ByteBudget B] [Retained R] [InboundClassifier C R] [EventBatch Q] [BoundedTimers W] in
lemma shutdownFor_undrained {reason : CloseReason} {error : EngineError}
    (h : s.shutdownFor reason = .error error) :
    error = .invariant .missingShutdownDeadline ∧ Undrained s reason := by
  unfold shutdownFor at h
  split at h
  · next hopened =>
    split at h
    · next hdrain =>
      cases h
      exact ⟨rfl, hopened.1, hopened.2, hdrain⟩
    · cases h
  · cases h

section
omit [ByteBudget B] [Retained R] [InboundClassifier C R] [BoundedTimers W]

lemma finishClose_run {reason : CloseReason} {failure : Option EngineError}
    (hnone : s.closeRequest = none) :
    finishClose (some reason) failure s =
      (retainFirst (retainFirst failure (publishClosing reason s).1)
        ((s.shutdownFor reason).map fun _ => ()), s.closedBy reason) := by
  simp only [finishClose, hnone, publishClosing, shutdownFor_publish, closedBy, shutdownOf]
  cases s.shutdownFor reason <;> rfl

/-- A close fails over a full batch, or over a drain that was never begun. -/
lemma finishClose_known {reason : Option CloseReason} {failure : Option EngineError}
    (hbounded : Bounded s) (hf : ∀ error ∈ failure, error.bookkeeping) {error : EngineError}
    (h : error ∈ (finishClose reason failure s).1) :
    Known (finishClose reason failure s).2 error ∨
      error = .invariant .missingShutdownDeadline ∧ ∃ reason' ∈ reason, Undrained s reason' := by
  by_cases hcloses : ∃ reason', reason = some reason' ∧ s.closeRequest = none
  · obtain ⟨reason', rfl, hnone⟩ := hcloses
    rw [finishClose_run hnone] at h ⊢
    have hpublished : ∀ error, (publishClosing reason' s).1 = .error error →
        Known (s.closedBy reason') error := by
      intro error herror
      rcases publishNext_known hbounded herror with hown | hfew
      · exact .own hown
      · exact .crowded hfew
    refine retainFirst_forall (P := fun error => Known (s.closedBy reason') error ∨
      error = .invariant .missingShutdownDeadline ∧ ∃ reason'' ∈ some reason', Undrained s reason'')
        ?_ ?_ error h
    · exact retainFirst_forall (fun error he => .inl (.own (hf error he))) fun error herror =>
        .inl (hpublished error herror)
    · intro error herror
      cases hfound : s.shutdownFor reason' with
      | ok shutdown =>
        rw [hfound] at herror
        cases herror
      | error missing =>
        rw [hfound] at herror
        cases herror
        obtain ⟨hmissing, hundrained⟩ := shutdownFor_undrained hfound
        exact .inr ⟨hmissing, reason', rfl, hundrained⟩
  · have hkept : finishClose reason failure s = (failure, s) := by
      unfold finishClose
      split
      · next hnone => exact absurd ⟨_, rfl, hnone⟩ hcloses
      · rfl
    rw [hkept] at h ⊢
    exact .inl (.own (hf error h))

end

section
variable {X : Type} {outcomeOf : OperationOutcome X → Except EngineInvariant (OperationOutcome R)}
  {tr : ConnectionTransition X}

section
omit [ByteBudget B] [InboundClassifier C R]

/-- **An interpretation of effects that are understood** fails over a full batch, or over a
drain that was never begun. -/
lemma interpret_known (hu : ∀ effect ∈ tr.effects, Understood outcomeOf effect)
    (hbounded : Bounded s) {error : EngineError} (h : (interpret outcomeOf tr s).1 = .error error) :
    Known (interpret outcomeOf tr s).2 error ∨
      error = .invariant .missingShutdownDeadline ∧
        ∃ reason ∈ closings tr.effects, Undrained s reason := by
  have hbooked := booked_effects outcomeOf tr.effects none none s
  have heffects : ∀ error ∈ (interpretEffects outcomeOf tr.effects none none s).2.1,
      error.bookkeeping :=
    (effects_rule (I := fun effects _ => ∀ effect ∈ effects, Understood outcomeOf effect)
      (P := EngineError.bookkeeping)
      (fun effect rest s hall => ⟨fun error => effect_bookkeeping (hall effect List.mem_cons_self),
        fun effect heffect => hall effect (List.mem_cons_of_mem _ heffect)⟩) tr.effects none hu
          (fun _ he => by cases he)).1
  rw [interpret_slot]
  rcases finishClose_known (hbounded.booked hbooked) heffects (interpret_fault h)
    with hknown | ⟨hmissing, reason, hreason, hundrained⟩
  · exact .inl hknown
  · refine .inr ⟨hmissing, reason, ?_, ?_⟩
    · rw [interpretEffects_reason, Option.or_none] at hreason
      exact List.mem_of_getLast? hreason
    · rw [hbooked] at hundrained
      exact ⟨hundrained.opened, hundrained.drained, hundrained.none⟩

lemma Bounded.interpret (h : Bounded s) : Bounded (interpret outcomeOf tr s).2 := by
  have hbooked := h.booked (booked_effects outcomeOf tr.effects none none s)
  rw [interpret_slot]
  generalize (interpretEffects outcomeOf tr.effects none none s).2.2 = s₁ at hbooked ⊢
  generalize (interpretEffects outcomeOf tr.effects none none s).2.1 = failure
  unfold finishClose
  split
  · exact hbooked.publishNext _
  · exact hbooked

end

end

/-! ### Causes -/

/-- The failure over a report of memory that breaks the contract. -/
def Memory.complaint (m : Memory) (limit : ℕ) (pressure : TransportPressure) : EngineError :=
  if m.ceiling < limit ∨ m.limit.any (· ≠ limit) then
    .invariant (.transportLimitContract (m.limit.getD m.ceiling) limit)
  else .invariant (.transportRetainedCapacity limit pressure)

/-- Nothing a slot asks of a transport of the kind `K` makes it one of another kind. -/
structure Lasting (K : T → Prop) : Prop where
  read : ∀ t, K t → ∀ {n : ℕ} (slice : List.Vector UInt8 n), K (SlotTransport.read t slice).2
  write : ∀ t, K t → ∀ bytes, K (SlotTransport.write t bytes).2
  establish : ∀ t, K t → ∀ policy budget, K (SlotTransport.driveEstablishment t policy budget).2
  drive : ∀ t, K t → ∀ budget, K (SlotTransport.driveTransport t budget).2
  beginShutdown : ∀ t, K t → ∀ budget, K (SlotTransport.beginShutdown t budget).2
  canEstablish : ∀ t, K t → K (SlotTransport.canEstablish t).2
  hasTransportWork : ∀ t, K t → K (SlotTransport.hasTransportWork t).2
  isShutdownComplete : ∀ t, K t → K (SlotTransport.isShutdownComplete t).2
  isOpen : ∀ t, K t → K (SlotTransport.isOpen t).2
  canRead : ∀ t, K t → K (SlotTransport.canRead t).2
  canWrite : ∀ t, K t → K (SlotTransport.canWrite t).2
  pressure : ∀ t, K t → K (SlotTransport.pressure t).2
  pressureLimit : ∀ t, K t → K (SlotTransport.pressureLimit t).2
  clearRead : ∀ t, K t → K (SlotTransport.clearRead t)
  clearWrite : ∀ t, K t → K (SlotTransport.clearWrite t)

/-- The bound is one that a transport of the kind reported. -/
def Memory.Reported (K : T → Prop) (m : Memory) : Prop :=
  ∀ bound ∈ m.limit, ∃ t, K t ∧ (SlotTransport.pressureLimit t).1 = bound

/-- A transport of the kind reports progress under a budget. -/
inductive Progresses (K : T → Prop) (budget : TransportBudget)
    (progress : TransportProgress) : Prop where
  | establishing {t : T} {policy : TcpSocketPolicy} (hosted : K t)
    (reported : (SlotTransport.driveEstablishment t policy budget).1 = .ok progress) : Progresses K
      budget progress
  | driving {t : T} (hosted : K t)
    (reported : (SlotTransport.driveTransport t budget).1 = .ok progress) : Progresses K
    budget progress
  | shutting {t : T} (hosted : K t)
    (reported : (SlotTransport.beginShutdown t budget).1 = .ok progress) : Progresses K
    budget progress

/-- **What a failure comes from**: the transport read or wrote more than it was given, broke its
contract on progress or on memory, was open too early, the lifecycle batch is too small, or the
caller finalized as drained. -/
inductive Cause (K : T → Prop) (limits : ConnectionSlotLimits)
    (call : SlotCall T) : EngineError → Prop where
  | read {t : T} {n read : ℕ} {slice : List.Vector UInt8 n} (hosted : K t)
    (reported : (SlotTransport.read t slice).1.1 = .ok read)
    (large : n < read) : Cause K limits call (.invariant (.transportReadContract n read))
  | wrote {t : T} {bytes : List UInt8} {written : ℕ} {source : ConnectionCoreError} (hosted : K t)
    (reported : (SlotTransport.write t bytes).1 = .ok written) (large : bytes.length < written) :
      Cause K limits call (.core source)
  | progress {budget : TransportBudget} {progress : TransportProgress} {error : EngineError}
    (reported : Progresses K budget progress)
    (invalid : validateTransportProgress budget progress = .error error) : Cause K limits call error
  | early {t : T} (hosted : K t) (opened : (SlotTransport.isOpen t).1 = true) :
    Cause K limits call (.invariant .transportOpenedBeforeEstablishment)
  | memory {m : Memory} {t : T} (hosted : K t) (ceiling : m.ceiling = limits.transportRetainedBytes)
    (bound : m.Reported K)
    (broken : ¬m.Within (SlotTransport.pressureLimit t).1
      (SlotTransport.pressure (SlotTransport.pressureLimit t).2).1) :
    Cause K limits call (m.complaint (SlotTransport.pressureLimit t).1
      (SlotTransport.pressure (SlotTransport.pressureLimit t).2).1)
  | crowded (few : limits.lifecycle.maxEvents < 4) : Cause K limits call
    (.invariant .lifecyclePublication)
  | undrained (called : call = .finalize .drained) : Cause K limits call
    (.invariant .missingShutdownDeadline)

variable {K : T → Prop} {permits permits' : List OperationPermit} {cause : SlotCall T}
  {e e' : Epoch OutboundFrame}

omit [Retained R] [InboundClassifier C R] [EventBatch Q] [BoundedTimers W] in
/-- The slice that a writer offers is the front of its first frame. -/
lemma offered_front {maximum : ℕ} {front : WriteSlice} (howns : Owns permits s e)
    (h : s.core.frontWrite OutboundFrame.view maximum = (.ok (some front), s.core)) :
    ∃ w rest, e.frames = w :: rest ∧ front.epoch = e.epoch ∧ front.effect = w.effect ∧
      front.bytes.length ≤ w.measure.wireBytes - w.written := by
  obtain ⟨e₁, _, hstep, _⟩ :=
    follows_step howns s.debug (.frontWrite OutboundFrame.view maximum : Call OutboundFrame Unit)
  simp only [World.step] at hstep
  rw [h] at hstep
  cases hstep with
  | offered _ offers =>
    cases offers with
    | slice front stable =>
      refine ⟨_, _, front, rfl, rfl, ?_⟩
      rw [List.length_take, List.length_drop, stable]
      exact Nat.min_le_right _ _

/-- A healthy core refuses only a report of the writer: one for another frame, or of
more bytes than are left. -/
lemma refusal_cases {X : Type} {call : Call OutboundFrame X} {source : ConnectionCoreError}
    (h : Step e call (.transition (.error source)) e') (hhealthy : e.poisoned = none) :
    ∃ epoch effect n, call = .advanceWrite epoch effect n ∧
      ((∃ progress, Unmoved e epoch effect progress) ∨
        ∃ pre x w post, e.AtFront pre x w post ∧ w.measure.wireBytes < w.written + n) := by
  cases h with
  | refused _ poisoned =>
    rw [hhealthy] at poisoned
    cases poisoned
  | unmoved _ unmoved n => exact ⟨_, _, n, rfl, .inl ⟨_, unmoved⟩⟩
  | overran _ front excess => exact ⟨_, _, _, rfl, .inr ⟨_, _, _, _, front, excess⟩⟩

omit [Retained R] [InboundClassifier C R] [EventBatch Q] [BoundedTimers W] in
/-- A report for the slice that was offered is refused over too many bytes. -/
lemma offered_refusal {front : WriteSlice} {maximum n : ℕ} {source : ConnectionCoreError} {X : Type}
    (howns : Owns permits s e) (hhealthy : e.poisoned = none)
    (hoffered : s.core.frontWrite OutboundFrame.view maximum = (.ok (some front), s.core))
    (hstep : Step (R := X) e (.advanceWrite front.epoch front.effect n)
      (.transition (.error source)) e') :
    front.bytes.length < n := by
  obtain ⟨w, rest, hframes, hepoch, heffect, hbytes⟩ := offered_front howns hoffered
  obtain ⟨_, _, _, ⟨⟩, ⟨_, hunmoved⟩ | ⟨pre, x, w', post, hfront, hexcess⟩⟩ :=
    refusal_cases hstep hhealthy
  · cases hunmoved with
    | stale other => exact absurd hepoch other
    | idle _ empty =>
      rw [hframes] at empty
      cases empty
    | disordered _ here other =>
      rw [hframes] at here
      cases here
      exact absurd heffect.symm other
  · have hsame : w = w' := by
      have hframes' := hfront.frames_eq
      rw [hframes] at hframes'
      exact (List.cons.inj hframes').1
    subst hsame
    have hle := (howns.wf.bound x hfront.mem).written w hfront.write
    omega

omit [EventBatch Q] in
/-- **A healthy core refuses a slot only what its transport claims to have written.** -/
lemma Occasion.refusal {t t' : Option T} {call : Call OutboundFrame Unit}
    {source : ConnectionCoreError} {f : ConnectionSlot B D C R Q W → ConnectionSlot B D C R Q W}
    (h : Occasion cause s t call none f t') (howns : Owns permits s e)
    (hhealthy : e.poisoned = none) (hstep : Step e call (.transition (.error source)) e') :
    ∃ u ∈ t, ∃ (bytes : List UInt8) (written : ℕ), (SlotTransport.write u bytes).1 = .ok written ∧
      bytes.length < written := by
  obtain ⟨epoch, effect, n, hcall, _⟩ := refusal_cases hstep hhealthy
  cases h with
  | empty _ offered nothing =>
    have hless := offered_refusal howns hhealthy offered hstep
    rw [nothing] at hless
    exact absurd hless (lt_irrefl 0)
  | @wrote _ front u written offered here reported progress =>
    exact ⟨u, here, front.bytes, written, reported, offered_refusal howns hhealthy offered hstep⟩
  | @undecodable _ error => cases error <;> cases hcall
  | @unfed _ _ error => cases error <;> cases hcall
  | _ => cases hcall

/-! ### Drains -/

/-- A slot knows the deadline of the drain of its core. -/
def Awaited (s : ConnectionSlot B D C R Q W) (e : Epoch OutboundFrame) : Prop :=
  e.gate = .draining → s.drainDeadline ≠ none

section
variable {X : Type} {call : Call OutboundFrame X} {tr : ConnectionTransition X}

/-- The call begins a drain. -/
def Opens (call : Call OutboundFrame X) (tr : ConnectionTransition X) : Prop :=
  (∃ epoch, call = .apply (.beginDrain epoch)) ∧ tr.disposition = .applied

lemma drained_gate (h : e.drained.gate = .draining) : e.gate = .draining := by
  unfold Epoch.drained at h
  split at h
  · cases h
  · exact h

/-- Only the begin of a drain makes a core drain. -/
lemma draining_step (h : Step e call (.transition (.ok tr)) e') (hgate : e'.gate = .draining) :
    e.gate = .draining ∨ Opens call tr := by
  cases h with
  | opened => cases hgate
  | removed => exact .inl (drained_gate hgate :)
  | closed => cases hgate
  | draining => exact .inr ⟨⟨_, rfl⟩, rfl⟩
  | confirmed => cases hgate
  | replied => exact .inl (drained_gate hgate :)
  | completed => exact .inl (drained_gate hgate :)
  | _ => exact .inl hgate

lemma closings_drainEffects {reason : CloseReason}
    (h : reason ∈ closings (e.drainEffects : List (ConnectionEffect X))) :
    e.gate = .draining := by
  unfold Epoch.drainEffects at h
  split at h
  · next hdrains =>
    unfold Epoch.drains at hdrains
    exact (of_decide_eq_true hdrains).1
  · cases h

/-- **A core closes as drained** at the end of a drain, or when it is asked to. -/
lemma drained_closing (h : Step e call (.transition (.ok tr)) e')
    (hmem : .drained ∈ closings tr.effects) :
    (∀ epoch reason, call = .apply (.closeRequested epoch reason) → reason = .drained) ∧
      (e.gate = .draining ∨ Opens call tr ∨
        ∃ epoch, call = .apply (.closeRequested epoch .drained)) := by
  cases h with
  | ignored _ _ _ quiet =>
    rw [quiet] at hmem
    cases hmem
  | removed _ _ _ _ removes =>
    refine ⟨fun _ _ hcall => ?_, .inl (closings_drainEffects hmem :)⟩
    cases removes <;> cases hcall
  | closed _ _ closes =>
    rw [closings_closing, List.mem_singleton] at hmem
    cases closes with
    | requested reason =>
      refine ⟨fun _ _ hcall => ?_, .inr (.inr ⟨e.epoch, by rw [hmem]⟩)⟩
      cases hcall
      exact hmem.symm
    | _ => cases hmem
  | draining => exact ⟨fun _ _ hcall => (by cases hcall), .inr (.inl ⟨⟨_, rfl⟩, rfl⟩)⟩
  | replied =>
    rw [closings_append, closings_cancelDeadline, closings_publish, List.nil_append] at hmem
    exact ⟨fun _ _ hcall => (by cases hcall), .inl (closings_drainEffects hmem :)⟩
  | completed =>
    rw [closings_append, closings_cancelDeadline, closings_publish, List.nil_append] at hmem
    exact ⟨fun _ _ hcall => (by cases hcall), .inl (closings_drainEffects hmem :)⟩
  | _ => cases hmem

/-- A request closes a live core. -/
lemma requested_gate {reason : CloseReason} (hw : e.Wf)
    (h : Step e (.apply (.closeRequested e.epoch reason) : Call OutboundFrame X)
      (.transition (.ok tr)) e') :
    e'.gate ≠ .draining := by
  cases h with
  | ignored ignores =>
    cases ignores with
    | stale other => exact absurd rfl other
    | input deaf =>
      have hclosed : e.gate = .closed := by
        by_contra hopen
        exact deaf (hw.gate.mpr hopen)
      rw [hclosed]
      simp
  | removed _ _ _ _ removes => cases removes
  | closed => exact fun hgate => by cases hgate

end

section
variable {t t' : Option T} {call : Call OutboundFrame Unit} {tr : ConnectionTransition Unit}
  {f : ConnectionSlot B D C R Q W → ConnectionSlot B D C R Q W}
  {core : ConnectionCore B OutboundFrame}

omit [ByteBudget B] [EventBatch Q] in
/-- What an occasion does about the drain: it takes the deadline of one that it begins, gives up one
that has expired, and else leaves it alone. -/
lemma Occasion.deadline (h : Occasion cause s t call (some tr) f t')
    (s₁ : ConnectionSlot B D C R Q W) :
    (f s₁).drainDeadline = s₁.drainDeadline ∧ ¬Opens call tr ∨
      (Opens call tr ∧ (f s₁).drainDeadline ≠ none) ∨
      call = .apply (.closeRequested s.epoch .requested) ∧ (f s₁).drainDeadline = none := by
  cases h with
  | drained deadline =>
    by_cases happlied : tr.disposition = .applied
    · refine .inr (.inl ⟨⟨⟨_, rfl⟩, happlied⟩, ?_⟩)
      simp [happlied]
    · refine .inl ⟨?_, fun hopens => happlied hopens.2⟩
      simp [happlied]
  | drainExpired => exact .inr (.inr ⟨rfl, rfl⟩)
  | elapsed =>
    refine .inl ⟨by dsimp only; rw [popDue_frame], ?_⟩
    rintro ⟨⟨_, hcall⟩, _⟩
    cases hcall
  | @undecodable _ error =>
    refine .inl ⟨rfl, ?_⟩
    rintro ⟨⟨_, hcall⟩, _⟩
    cases error <;> cases hcall
  | @unfed _ _ error =>
    refine .inl ⟨rfl, ?_⟩
    rintro ⟨⟨_, hcall⟩, _⟩
    cases error <;> cases hcall
  | _ =>
    refine .inl ⟨rfl, ?_⟩
    rintro ⟨⟨_, hcall⟩, _⟩
    cases hcall

omit [EventBatch Q] in
lemma Occasion.awaited (h : Occasion cause s t call (some tr) f t') (howns : Owns permits s e)
    (hstep : Step e call (.transition (.ok tr)) e')
    (hawaited : Awaited s e) : Awaited (f { s with core }) e' := by
  intro hgate
  rcases h.deadline { s with core } with ⟨hsame, hunopened⟩ | ⟨_, hsome⟩ | ⟨rfl, _⟩
  · rw [hsame]
    exact hawaited ((draining_step hstep hgate).resolve_right hunopened)
  · exact hsome
  · rw [howns.epoch_eq] at hstep
    exact absurd hgate (requested_gate howns.wf hstep)

omit [ByteBudget B] [EventBatch Q] in
/-- **A close without a drain is one the caller asked for.** -/
lemma Occasion.asked (h : Occasion cause s t call (some tr) f t')
    (hstep : Step e call (.transition (.ok tr)) e') (hawaited : Awaited s e)
    (hmem : .drained ∈ closings tr.effects)
    (hnone : (f { s with core }).drainDeadline = none) : cause = .finalize .drained := by
  obtain ⟨hreason, hcases⟩ := drained_closing hstep hmem
  have hasked : ∃ epoch, call = .apply (.closeRequested epoch .drained) := by
    rcases h.deadline { s with core } with ⟨hsame, hunopened⟩ | ⟨_, hsome⟩ | ⟨rfl, _⟩
    · rcases hcases with hgate | hopens | hasked
      · exact absurd (hsame.symm.trans hnone) (hawaited hgate)
      · exact absurd hopens hunopened
      · exact hasked
    · exact absurd hnone hsome
    · cases hreason _ _ rfl
  obtain ⟨epoch, hcall⟩ := hasked
  cases h with
  | finalized _ _ called =>
    cases hcall
    exact called
  | lost _ undrained =>
    cases hcall
    exact absurd rfl undrained
  | @undecodable _ error => cases error <;> cases hcall
  | @unfed _ _ error => cases error <;> cases hcall
  | _ => cases hcall

end

/-! ### Moves -/

/-- A look or a step leaves the kind of a transport. -/
lemma Lasting.touch (hK : Lasting K) {t t' : T} (h : Touch t t') (ht : K t) : K t' := by
  cases h with
  | read slice => exact hK.read t ht slice
  | write bytes => exact hK.write t ht bytes
  | establish policy budget => exact hK.establish t ht policy budget
  | drive budget => exact hK.drive t ht budget
  | canEstablish => exact hK.canEstablish t ht
  | hasTransportWork => exact hK.hasTransportWork t ht
  | isShutdownComplete => exact hK.isShutdownComplete t ht
  | isOpen => exact hK.isOpen t ht
  | canRead => exact hK.canRead t ht
  | canWrite => exact hK.canWrite t ht
  | clearRead => exact hK.clearRead t ht
  | clearWrite => exact hK.clearWrite t ht

omit [ByteBudget B] [Retained R] [InboundClassifier C R] [EventBatch Q] [BoundedTimers W] in
lemma Lasting.captured (hK : Lasting K) {t : T} (ht : K t) :
    K (captureTransportPressure (s, t)).2.2 := by
  have hlooked := hK.pressure _ (hK.pressureLimit t ht)
  rw [capture_run]
  split
  · exact hlooked
  · split <;> exact hlooked

lemma Lasting.shut (hK : Lasting K) {shutdown : ShutdownState} {deadline : Deadline}
    {drive : T → TransportBudget → Except TransportDiagnostic TransportProgress × T}
    (h : ShutsBy T deadline shutdown drive) {t : T} (ht : K t)
    (budget : TransportBudget) : K (drive t budget).2 := by
  cases h with
  | begin => exact hK.beginShutdown t ht budget
  | drive => exact hK.drive t ht budget

omit [ByteBudget B] [Retained R] [InboundClassifier C R] [EventBatch Q] [BoundedTimers W] in
lemma Lasting.shutdownStep (hK : Lasting K) {shutdown : ShutdownState} {reason : CloseReason}
    {deadline deadline' : Deadline}
    {drive : T → TransportBudget → Except TransportDiagnostic TransportProgress × T}
    (h : ShutsBy T deadline' shutdown drive) {t : T} (ht : K t) :
    K (ConnectionSlot.shutdownStep reason deadline drive (s, t)).2.2 := by
  have hcaptured := hK.captured (s := s) (hK.shut h ht s.transportBudget)
  rw [shutdownStep_run]
  generalize captureTransportPressure (s, (drive t s.transportBudget).2) = captured at hcaptured ⊢
  obtain ⟨pressure, s₁, t₁⟩ := captured
  dsimp only
  split
  · exact hcaptured
  · exact hcaptured
  · split
    · exact hcaptured
    · exact hK.isShutdownComplete t₁ hcaptured

/-- **Every move leaves the kind of the transport.** -/
lemma Move.hosted {a b : Scene B D C R Q W T} (h : Move permits cause a b) (hK : Lasting K)
    (ha : ∀ t ∈ a.transport, K t) :
    ∀ t ∈ b.transport, K t := by
  have hsome {t : T} (ht : K t) : ∀ u ∈ some t, K u := fun u hu => Option.mem_some_iff.mp hu ▸ ht
  have hoccasion {s : ConnectionSlot B D C R Q W} {t t' : Option T} {call : Call OutboundFrame Unit}
      {tr : Option (ConnectionTransition Unit)}
        {f : ConnectionSlot B D C R Q W → ConnectionSlot B D C R Q W}
      (h : Occasion cause s t call tr f t') (ht : ∀ u ∈ t, K u) : ∀ u ∈ t', K u := by
    cases h with
    | wrote _ _ here => exact hsome (hK.write _ (ht _ here) _)
    | _ => exact ht
  cases h with
  | exchange occasion => exact hoccasion occasion ha
  | refused occasion => exact hoccasion occasion ha
  | opened s t => exact hsome (hK.isOpen t (ha t rfl))
  | pressed s t => exact hsome (hK.captured (ha t rfl))
  | completed s t => exact hsome (hK.isShutdownComplete t (ha t rfl))
  | shut s t _ _ shuts => exact hsome (hK.shutdownStep shuts (ha t rfl))
  | touched s e touch => exact hsome (hK.touch touch (ha _ rfl))
  | overread s t => exact hsome (hK.read t (ha t rfl) _)
  | misreported s e misreports =>
    cases misreports with
    | establishing => exact hsome (hK.establish _ (ha _ rfl) _ _)
    | driving => exact hsome (hK.drive _ (ha _ rfl) _)
  | openedEarly s t => exact hsome (hK.isOpen t (ha t rfl))
  | _ => exact ha

section
omit [ByteBudget B] [Retained R] [InboundClassifier C R] [EventBatch Q] [BoundedTimers W]

/-- A look at the memory fails over a report that breaks the contract. -/
lemma capture_cause {t : T} {error : EngineError} (hhosted : K t) (hreported : s.memory.Reported K)
    (h : (captureTransportPressure (s, t)).1 = .error error) : Cause K s.limits cause error := by
  have hbroken : ¬s.memory.Within (SlotTransport.pressureLimit t).1
      (SlotTransport.pressure (SlotTransport.pressureLimit t).2).1 := by
    intro hwithin
    rw [(capture_memory s t).2.mpr hwithin] at h
    cases h
  have hcomplaint : error = s.memory.complaint (SlotTransport.pressureLimit t).1
      (SlotTransport.pressure (SlotTransport.pressureLimit t).2).1 := by
    rw [capture_run] at h
    unfold Memory.complaint ConnectionSlot.memory
    split at h
    · next hlimit =>
      cases h
      exact (if_pos hlimit).symm
    · next hlimit =>
      split at h <;> cases h
      exact (if_neg hlimit).symm
  rw [hcomplaint]
  exact .memory hhosted rfl hreported hbroken

/-- So does a step of the shutdown, or over a report of progress. -/
lemma shutdownStep_cause {reason : CloseReason} {shutdown : ShutdownState}
    {deadline deadline' : Deadline}
    {drive : T → TransportBudget → Except TransportDiagnostic TransportProgress × T} {t : T}
    {error : EngineError} (hK : Lasting K) (hhosted : K t) (hreported : s.memory.Reported K)
    (hshuts : ShutsBy T deadline' shutdown drive)
    (h : (shutdownStep reason deadline drive (s, t)).1 = .error error) :
    Cause K s.limits cause error := by
  have hcapture : ∀ error, (captureTransportPressure (s, (drive t s.transportBudget).2)).1 =
      .error error → Cause K s.limits cause error :=
    fun error => capture_cause (hK.shut hshuts hhosted _) hreported
  rw [shutdownStep_run] at h
  generalize captureTransportPressure (s, (drive t s.transportBudget).2) = captured at hcapture h
  obtain ⟨pressure, s₁, t₁⟩ := captured
  cases hdrive : (drive t s.transportBudget).1 with
  | error source =>
    rw [hdrive] at h
    cases pressure with
    | error error' =>
      cases h
      exact hcapture _ rfl
    | ok => cases h
  | ok progress =>
    rw [hdrive] at h
    cases pressure with
    | error error' =>
      cases h
      exact hcapture _ rfl
    | ok =>
      dsimp only at h
      cases hvalid : validateTransportProgress s.transportBudget progress with
      | error error' =>
        rw [hvalid] at h
        cases h
        refine .progress ?_ hvalid
        cases hshuts with
        | begin => exact .shutting hhosted hdrive
        | drive => exact .driving hhosted hdrive
      | ok =>
        rw [hvalid] at h
        cases h

end

/-- The bound after a look is one that was reported. -/
lemma Memory.Reported.look {m : Memory} (h : m.Reported K) {t : T} (ht : K t)
    (pressure : TransportPressure) :
    (m.look (SlotTransport.pressureLimit t).1 pressure).Reported K := by
  intro bound hbound
  unfold Memory.look at hbound
  split at hbound
  · exact h bound hbound
  · cases hbound
    exact ⟨t, ht, rfl⟩

/-- **What a call keeps on its way**: the core is healthy while nothing has failed,
and what failed has a cause. -/
structure Sane (K : T → Prop) (cause : SlotCall T) (sc : Scene B D C R Q W T) : Prop where
  hosted : ∀ t ∈ sc.transport, K t
  sound : sc.fault = none → sc.epoch.poisoned = none ∧ InPhase sc.slot sc.epoch sc.epoch.phase
  measured : Measured sc.epoch
  bounded : Bounded sc.slot
  reported : sc.slot.memory.Reported K
  awaited : sc.fault = none → Awaited sc.slot sc.epoch
  known : ∀ error ∈ sc.fault, Known sc.slot error ∨ Cause K sc.slot.limits cause error

variable {a b : Scene B D C R Q W T}

lemma Move.reported (h : Move permits cause a b) (hK : Lasting K) (hhosted : ∀ t ∈ a.transport, K t)
    (ha : a.slot.memory.Reported K) :
    b.slot.memory.Reported K := by
  have hkept : b.slot.memory = a.slot.memory → b.slot.memory.Reported K := fun hsame => hsame ▸ ha
  have hlooked (t : T) (ht : K t) (pressure : TransportPressure)
    (hlook : b.slot.memory = a.slot.memory.look (SlotTransport.pressureLimit t).1 pressure) :
      b.slot.memory.Reported K := hlook ▸ ha.look ht pressure
  cases h with
  | exchange occasion => exact hkept ((interpret_memory _ _ _).trans (occasion.memory _))
  | refused occasion => exact hkept (occasion.memory _)
  | replied => exact hkept (interpret_memory _ _ _)
  | admitted => exact hkept (publishNext_memory _ _)
  | opened => exact hkept (publishNext_memory _ _)
  | pressed s t e flt => exact hlooked t (hhosted t rfl) _ (capture_memory s t).1
  | quiet s t e undue =>
    refine hkept ?_
    dsimp only
    rw [popDue_frame]
    rfl
  | forced s s' t e called forced =>
    refine hkept ?_
    dsimp only
    rw [forceShutdown_frame forced]
    rfl
  | @shut s t e reason _ deadline drive request shuts =>
    exact hlooked _ (hK.shut shuts (hhosted t rfl) _) _
      ((shutdownStep_memory reason deadline drive s t).1.trans (capture_memory s _).1)
  | _ => exact hkept rfl

lemma Move.measures (h : Move permits cause a b) (ha : Measured a.epoch) : Measured b.epoch := by
  rcases h.stepped with hsame | ⟨_, _, _, hstep, hcall⟩
  · rw [hsame]
    exact ha
  · exact ha.step hstep fun _ _ _ heq => absurd heq (hcall _ _ _)

section
omit [ByteBudget B] [InboundClassifier C R]

/-- The effects of a transition are interpreted without a failure, or with one that has a cause. -/
lemma Sane.interpret {X : Type}
    {outcomeOf : OperationOutcome X → Except EngineInvariant (OperationOutcome R)}
    {tr : ConnectionTransition X} {limits : ConnectionSlotLimits}
    (hu : ∀ effect ∈ tr.effects, Understood outcomeOf effect) (hbounded : Bounded s)
    (hdrain : .drained ∈ closings tr.effects → s.drainDeadline = none →
      cause = .finalize .drained) :
    ∀ error ∈ fault (interpret outcomeOf tr s).1, Known (interpret outcomeOf tr s).2 error ∨
      Cause K limits cause error := by
  intro error herror
  rcases interpret_known hu hbounded (fault_eq herror)
    with hknown | ⟨rfl, reason, hmem, hopened, rfl, hnone⟩
  · exact .inl hknown
  · exact .inr (.undrained (hdrain hmem hnone))

/-- A close ends the drain. -/
lemma Awaited.interpret {X : Type}
    {outcomeOf : OperationOutcome X → Except EngineInvariant (OperationOutcome R)}
    {tr : ConnectionTransition X} (h : Awaited s e') (hw : e'.Wf)
    (hcloses : closings tr.effects = [] ∧ e'.phase = e.phase ∧ e'.closeReason = e.closeReason ∨
      ∃ reason, closings tr.effects = [reason] ∧ e.phase = .live ∧ e'.phase = .closing ∧
        e'.closeReason = some reason) :
    Awaited (ConnectionSlot.interpret outcomeOf tr s).2 e' := by
  intro hgate
  rcases hcloses with ⟨hquiet, _⟩ | ⟨_, _, _, hclosing, _⟩
  · have hbooked : Booked s (ConnectionSlot.interpret outcomeOf tr s).2 := interpret_open hquiet s
    rw [hbooked]
    exact h hgate
  · have hlive : e'.phase = .live := hw.gate.mpr (by rw [hgate]; simp)
    rw [hclosing] at hlive
    cases hlive

end

omit [ByteBudget B] [Retained R] [InboundClassifier C R] [BoundedTimers W] in
/-- A look at the memory leaves what is known of a failure. -/
lemma Known.captured {t : T} {error : EngineError} (h : Known s error) :
    Known (captureTransportPressure (s, t)).2.1 error := by
  rw [capture_frame]
  rcases h with hown | hfew
  · exact .own hown
  · exact .crowded hfew

/-- **Every move keeps a call sane.** -/
theorem Move.sane (h : Move permits cause a b) (hK : Lasting K)
    (howns : Owns permits a.slot a.epoch) (ha : Sane K cause a) : Sane K cause b := by
  have hsound := h.inPhase howns ha.sound
  have hmeasured := h.measures ha.measured
  have hreported := h.reported hK ha.hosted ha.reported
  have hhosted := h.hosted hK ha.hosted
  have howns' := (h.owns howns).2
  suffices hsuff : Bounded b.slot ∧ (b.fault = none → Awaited b.slot b.epoch) ∧
      ∀ error ∈ b.fault, Known b.slot error ∨ Cause K b.slot.limits cause error from
    ⟨hhosted, hsound, hmeasured, hsuff.1, hreported, hsuff.2.1, hsuff.2.2⟩
  have hblame {error : EngineError} (hcause : Cause K b.slot.limits cause error) :
      ∀ error' ∈ some error, Known b.slot error' ∨ Cause K b.slot.limits cause error' := by
    rintro _ ⟨⟩
    exact .inr hcause
  cases h with
  | @exchange s t t' e e' call tr f core occasion step holds =>
    have hframe := occasion.frame { s with core }
    have hbounded : Bounded (f { s with core }) := by
      unfold Bounded
      rw [hframe]
      exact ha.bounded
    have hu : ∀ effect ∈ tr.effects, Understood (R := R) unitOutcome effect := by
      refine understood_step step (fun _ => unit_unanswered) fun reply hcall => ?_
      cases occasion <;> cases hcall
    refine ⟨hbounded.interpret, fun _ => ?_, Sane.interpret hu hbounded fun hmem hnone =>
      occasion.asked step (ha.awaited rfl) hmem hnone⟩
    exact (occasion.awaited howns step (ha.awaited rfl)).interpret howns'.wf
      (step.closes howns.wf fun epoch => occasion.unconfirming epoch)
  | @refused s t t' e e' call source f core occasion step holds =>
    have hframe := occasion.frame { s with core }
    refine ⟨?_, fun hnone => (by cases hnone), hblame ?_⟩
    · unfold Bounded
      dsimp only
      rw [hframe]
      exact ha.bounded
    · obtain ⟨u, hu, bytes, written, hreport, hlarge⟩ :=
        occasion.refusal howns (ha.sound rfl).1 step
      exact .wrote (ha.hosted u hu) hreport hlarge
  | @replied s t e e' frame key tr decoder classifier core next small keyed step holds =>
    have hbounded : Bounded { s with core, decoder, classifier } := ha.bounded
    have hu : ∀ effect ∈ tr.effects, Understood (R := R) .ok effect :=
      understood_step step (fun outcome _ => ⟨outcome, rfl⟩) fun _ _ outcome => ⟨outcome, rfl⟩
    have hgate (hopens : e.gate = .draining ∨ Opens (.applyReply ⟨s.epoch, key, frame⟩) tr) :
        e.gate = .draining := by
      rcases hopens with hgate | ⟨⟨_, hcall⟩, _⟩
      · exact hgate
      · cases hcall
    have hawaited : Awaited { s with core, decoder, classifier } e' :=
      fun hdraining => ha.awaited rfl (hgate (draining_step step hdraining))
    refine ⟨hbounded.interpret, fun _ => ?_, Sane.interpret hu hbounded fun hmem hnone => ?_⟩
    · exact hawaited.interpret howns'.wf (step.closes howns.wf fun epoch => by simp)
    · refine absurd hnone (ha.awaited rfl ?_)
      rcases (drained_closing step hmem).2 with hdraining | hopens | ⟨_, hcall⟩
      · exact hdraining
      · exact hgate (.inr hopens)
      · cases hcall
  | replyRefused next small keyed step holds =>
    obtain ⟨_, _, _, hcall, _⟩ := refusal_cases step (ha.sound rfl).1
    cases hcall
  | fronted step holds =>
    cases step with
    | offerRefused poisoned =>
      rw [(ha.sound rfl).1] at poisoned
      cases poisoned
    | reshaped _ front changed =>
      obtain ⟨x, hx, hwrite⟩ := List.mem_filterMap.mp (front ▸ List.mem_cons_self)
      exact absurd (ha.measured x hx _ hwrite) changed
  | @admitted s t e e' tr core opened applied step holds =>
    have hbounded : Bounded { s with core } := ha.bounded
    refine ⟨hbounded.publishNext _, fun _ hgate => ?_, fun error herror =>
      .inl (publishNext_known hbounded (fault_eq herror))⟩
    obtain ⟨_, _, rfl⟩ := openAdmission_applied step applied
    cases hgate
  | opened s t e connecting pending open_ =>
    have hbounded : Bounded { s with transportState := .opened } := ha.bounded
    refine ⟨hbounded.publishNext _, fun _ hgate => ?_, fun error herror =>
      .inl (publishNext_known hbounded (fault_eq herror))⟩
    rw [publishTransportOpened, publishNext_frame]
    exact ha.awaited rfl hgate
  | pressed s t e flt =>
    have hframe := capture_frame s t
    refine ⟨?_, fun hok => ?_, fun error herror => ?_⟩
    · unfold Bounded
      dsimp only
      rw [hframe]
      exact ha.bounded
    · have hbefore : flt = none := by cases flt <;> first | rfl | cases hok
      intro hgate
      dsimp only
      rw [hframe]
      exact ha.awaited hbefore hgate
    · have hlimits : (captureTransportPressure (s, t)).2.1.limits = s.limits := by rw [hframe]
      dsimp only
      rw [hlimits]
      cases flt with
      | none => exact .inr (capture_cause (ha.hosted t rfl) ha.reported (fault_eq herror))
      | some earlier =>
        cases herror
        exact (ha.known _ rfl).imp_left Known.captured
  | quiet s t e undue =>
    refine ⟨?_, fun _ hgate => ?_, fun error herror => by cases herror⟩
    · unfold Bounded
      dsimp only
      rw [popDue_frame]
      exact ha.bounded
    · dsimp only
      rw [popDue_frame]
      exact ha.awaited rfl hgate
  | forced s s' t e called forced =>
    refine ⟨?_, fun _ hgate => ?_, fun error herror => by cases herror⟩
    · unfold Bounded
      dsimp only
      rw [forceShutdown_frame forced]
      exact ha.bounded
    · dsimp only
      rw [forceShutdown_frame forced]
      exact ha.awaited rfl hgate
  | @shut s t e reason shutdown deadline drive request shuts =>
    have hframe := shutdownStep_frame reason deadline drive s t
    refine ⟨?_, fun _ hgate => ?_, fun error herror => ?_⟩
    · unfold Bounded
      dsimp only
      rw [hframe]
      exact ha.bounded
    · dsimp only
      rw [hframe]
      exact ha.awaited rfl hgate
    · have hlimits : (shutdownStep reason deadline drive (s, t)).2.1.limits =
        s.limits := by rw [hframe]
      dsimp only
      rw [hlimits]
      exact .inr (shutdownStep_cause hK (ha.hosted t rfl) ha.reported shuts (fault_eq herror))
  | overread s t e reported large length =>
    exact ⟨ha.bounded, fun hnone =>
      (by cases hnone), hblame (.read (ha.hosted t rfl) reported large)⟩
  | misreported s e misreports =>
    refine ⟨ha.bounded, fun hnone => (by cases hnone), hblame ?_⟩
    cases misreports with
    | establishing _ _ reported invalid =>
      exact .progress (.establishing (ha.hosted _ rfl) reported) invalid
    | driving _ reported invalid => exact .progress (.driving (ha.hosted _ rfl) reported) invalid
  | openedEarly s t e connecting early =>
    exact ⟨ha.bounded, fun hnone => (by cases hnone), hblame (.early (ha.hosted t rfl) early)⟩
  | _ => exact ⟨ha.bounded, fun _ => ha.awaited rfl, fun error herror => by cases herror⟩

/-! ### Calls -/

/-- What every call keeps of a slot. -/
structure HealthInvariant (K : T → Prop) (s : ConnectionSlot B D C R Q W)
    (e : Epoch OutboundFrame) : Prop where
  measured : Measured e
  bounded : Bounded s
  reported : s.memory.Reported K
  awaited : s.state = .running → Awaited s e

variable {call : SlotCall T} {r : SlotResponse R T}

omit [ByteBudget B] [Retained R] [InboundClassifier C R] [BoundedTimers W] in
/-- A call of a running slot starts sane. -/
lemma HealthInvariant.sane (h : HealthInvariant K s e) (hphased : Phased s e)
    (hrunning : s.state = .running) {t : Option T} (hhosted : ∀ u ∈ t, K u) :
    Sane K call ⟨s, t, e, none⟩ :=
  ⟨hhosted, fun _ => hphased.running hrunning, h.measured, h.bounded, h.reported, fun _ =>
    h.awaited hrunning, fun error herror => by cases herror⟩

lemma HealthInvariant.path (h : HealthInvariant K s e) (hK : Lasting K) (hphased : Phased s e)
    (howns : Owns permits s e) (hrunning : s.state = .running) {t : Option T}
    (hhosted : ∀ u ∈ t, K u) (hpath : Path permits call ⟨s, t, e, none⟩ b) : Sane K call b :=
  hpath.keeps howns (h.sane hphased hrunning hhosted) fun _ _ hmove ha hi => hmove.sane hK ha hi

section
omit [ByteBudget B] [Retained R] [InboundClassifier C R] [BoundedTimers W]

/-- The slot after a call whose failure is latched. -/
lemma HealthInvariant.latched {flt : Option EngineError} (hmeasured : Measured e)
    (hbounded : Bounded s) (hreported : s.memory.Reported K) (hawaited : flt = none → Awaited s e)
    (hl : Latched s flt s') : HealthInvariant K s' e := by
  refine ⟨hmeasured, ?_, hl.memory ▸ hreported, fun hrunning => ?_⟩
  · unfold Bounded
    rw [hl.frame]
    exact hbounded
  · cases hl with
    | running => exact hawaited rfl
    | failed error => exact absurd hrunning (latchOwnerFailure_state s _)

lemma latch_bounded (h : Bounded s) (reason : OwnerFailure) :
    Bounded (s.latchOwnerFailure reason) := by
  unfold Bounded
  rw [latchOwnerFailure_frame]
  exact h

/-- What a call keeps of a slot that it does not drive. -/
lemma HealthInvariant.congr (h : HealthInvariant K s e) (hmeasured : Measured e')
    (hbounded : Bounded s') (hmemory : s'.memory = s.memory)
    (hawaited : s'.state = .running → s.state = .running ∧
      (e'.gate = .draining → s'.drainDeadline = s.drainDeadline ∧ e.gate = .draining)) :
    HealthInvariant K s' e' := by
  refine ⟨hmeasured, hbounded, hmemory ▸ h.reported, fun hrunning hgate => ?_⟩
  obtain ⟨hrunning', hkept⟩ := hawaited hrunning
  obtain ⟨hdeadline, hgate'⟩ := hkept hgate
  rw [hdeadline]
  exact h.awaited hrunning' hgate'

end

/-- **Every call keeps a slot fit.** -/
theorem SlotStep.healthInvariant (hstep : SlotStep s e permits call r (some s') e' permits')
    (hK : Lasting K) (hhosted : ∀ t ∈ call.transport, K t) (h : HealthInvariant K s e)
    (hphased : Phased s e) (howns : Owns permits s e) : HealthInvariant K s' e' := by
  cases hstep with
  | drove running guards path latched =>
    have hsane := h.path hK hphased howns running hhosted path
    exact .latched hsane.measured hsane.bounded hsane.reported hsane.awaited latched
  | refused refuses latched =>
    rcases latched with rfl | ⟨hrunning, hsick, _⟩
    · exact h
    · exact absurd (hphased.running hrunning).1 hsick
  | returned running step =>
    cases step
    exact h.congr h.measured h.bounded rfl fun hrunning => ⟨hrunning, fun hgate => ⟨rfl, hgate⟩⟩
  | reserved running step room =>
    cases step
    exact h.congr h.measured h.bounded rfl fun hrunning => ⟨hrunning, fun hgate => ⟨rfl, hgate⟩⟩
  | @committed _ _ _ _ _ _ _ tr core running step latched =>
    have hbounded : Bounded { s with core } := h.bounded
    refine .latched (h.measured.step step fun _ _ _ heq => by cases heq; rfl) hbounded.interpret ?_
      (fun _ hgate => ?_) latched
    · rw [interpret_memory]
      exact h.reported
    · have hquiet : closings tr.effects = [] := by cases step; rfl
      have hbooked : Booked { s with core }
        (ConnectionSlot.interpret (R := R) unitOutcome tr { s with core }).2 :=
        interpret_open hquiet _
      rw [hbooked]
      refine h.awaited running ?_
      cases step
      exact hgate
  | dropped =>
    exact h.congr h.measured h.bounded rfl fun hrunning => ⟨hrunning, fun hgate => ⟨rfl, hgate⟩⟩
  | drainedOutcomes =>
    exact h.congr h.measured h.bounded rfl fun hrunning => ⟨hrunning, fun hgate => ⟨rfl, hgate⟩⟩
  | drainedEvents =>
    exact h.congr h.measured ((EventBatch.drain_eq s.lifecycle).2.2.trans h.bounded)
      rfl fun hrunning => ⟨hrunning, fun hgate => ⟨rfl, hgate⟩⟩
  | aborted _ _ request =>
    refine h.congr h.measured h.bounded rfl fun hrunning => ?_
    obtain ⟨_, hphase⟩ := hphased.running hrunning
    cases hp : e.phase <;> rw [hp] at hphase <;> simp [InPhase, request] at hphase
  | @confirmed _ _ _ _ _ _ core request ready step published =>
    have hbounded : Bounded { s with
      core, transportState := .closed, closeRequest := none } := h.bounded
    refine h.congr (h.measured.step step fun _ _ _ heq => by cases heq) (hbounded.publishNext _)
      (publishNext_memory _ _) fun _ => ?_
    obtain ⟨hrunning, _, hphase, _, _⟩ := hphased.of_core request
    rw [howns.epoch_eq] at step
    rw [epochClosed_closed hphase step]
    exact ⟨hrunning, fun hgate => by cases hgate⟩
  | @unpublished _ _ _ _ _ _ core error request ready step published =>
    have hbounded : Bounded { s with
      core, transportState := .closed, closeRequest := none } := h.bounded
    refine h.congr (h.measured.step step fun _ _ _ heq => by cases heq)
      (latch_bounded (hbounded.publishNext _) _) ?_
      fun hrunning => absurd hrunning (latchOwnerFailure_state _ _)
    exact (latchOwnerFailure_memory _ _).trans (publishNext_memory _ _)
  | @unconfirmed _ _ _ _ _ _ core request ready step =>
    have hbounded : Bounded { s with
      core, transportState := .closed, closeRequest := none } := h.bounded
    refine h.congr (h.measured.step step fun _ _ _ heq => by cases heq)
      (latch_bounded hbounded _) ?_
      fun hrunning => absurd hrunning (latchOwnerFailure_state _ _)
    exact latchOwnerFailure_memory _ _
  | _ => exact h

omit [ByteBudget B] [Retained R] [InboundClassifier C R] [BoundedTimers W] in
/-- A failure that is not one of the books has a cause, in a slot that has told at most the
four events of its epoch. -/
lemma Known.blame {past : List ConnectionEvent} {error : EngineError} (h : Known s error)
    (htells : Tells past s e) (hkept : ¬error.bookkeeping) :
    Cause K s.limits cause error := by
  cases h with
  | own bookkeeping => exact absurd bookkeeping hkept
  | crowded few =>
    obtain ⟨a, hrecites, _⟩ := htells
    have hfour := hrecites.length_le
    rw [List.length_append] at hfour
    exact .crowded (by omega)

/-- The slot is running, or it failed over the error of the call, or over an event that did
not fit at its settlement. -/
def Blamed (K : T → Prop) (limits : ConnectionSlotLimits) (call : SlotCall T) (r : SlotResponse R T)
    (s' : ConnectionSlot B D C R Q W) : Prop :=
  s'.state = .running ∨ ∃ error, Cause K limits call error ∧
    (r.error = some error ∨ call = .settleTransportClosed ∧
      error = .invariant .lifecyclePublication) ∧
    s'.state = .failed (OwnerFailure.ofError error)

omit [ByteBudget B] [Retained R] [InboundClassifier C R] [EventBatch Q] [BoundedTimers W] in
/-- A failure that is latched is one with a cause, or there is none. -/
lemma Latched.blamed {s₁ : ConnectionSlot B D C R Q W} {flt : Option EngineError}
    {limits : ConnectionSlotLimits} (hl : Latched s₁ flt s') (hrunning : s₁.state = .running)
    (herror : r.error = flt)
    (h : ∀ error ∈ flt, Cause K limits call error) : Blamed K limits call r s' := by
  cases hl with
  | running => exact .inl hrunning
  | failed error =>
    exact .inr ⟨error, h error rfl, .inl herror, by rw [latchOwnerFailure_running hrunning]⟩

/-- **A running slot fails for a cause.** -/
theorem SlotStep.blamed {past : List ConnectionEvent}
    (hstep : SlotStep s e permits call r (some s') e' permits') (hK : Lasting K)
    (hhosted : ∀ t ∈ call.transport, K t) (h : HealthInvariant K s e)
    (htold : LifecycleTold past s e) (howns : Owns permits s e) (howns' : Owns permits' s' e')
    (hrunning : s.state = .running) (hkept : ∀ error ∈ r.error, ¬error.bookkeeping) :
    (∀ error ∈ r.error, Cause K s.limits call error) ∧
      Blamed K s.limits call r s' := by
  have htells := (htold.step howns howns' hstep).1.tells
  have hphased := htold.phased
  cases hstep with
  | asleep asleep guards unmoved =>
    rw [hrunning] at asleep
    cases asleep
  | @drove _ s₁ _ _ _ _ _ flt running guards path latched =>
    have hsane := h.path hK hphased howns running hhosted path
    have hfixed := (path.owns howns).1
    have herror := guards.error
    rw [herror] at hkept ⊢
    have hcause : ∀ error ∈ flt, Cause K s.limits call error := by
      intro error herror
      rw [← hfixed.limits]
      rcases hsane.known error herror with hknown | hcause
      · exact hknown.blame (htells.congr (untold_latched latched).symm rfl fun _ h => h)
          (hkept error herror)
      · exact hcause
    exact ⟨hcause, latched.blamed (hfixed.state.trans running) herror hcause⟩
  | refused refuses latched =>
    rw [refuses.error]
    rcases latched with rfl | ⟨_, hsick, _⟩
    · exact ⟨fun error herror => (by cases herror), .inl hrunning⟩
    · exact absurd (hphased.running hrunning).1 hsick
  | @committed _ _ _ _ index frame _ tr core running step latched =>
    rw [commitResult_error] at hkept ⊢
    have hbounded : Bounded { s with core } := h.bounded
    have hcause : ∀ error ∈ fault (interpretUnit tr { s with core }).1,
        Cause K s.limits (.commit index frame : SlotCall T) error := by
      intro error herror
      have hu : ∀ effect ∈ tr.effects, Understood (R := R) unitOutcome effect := by
        cases step
        exact List.forall_mem_singleton.mpr trivial
      have hquiet : closings tr.effects = [] := by cases step; rfl
      have hlimits : (interpretUnit tr { s with core }).2.limits = s.limits := by
        have hbooked : Booked { s with core } (interpretUnit tr { s with core }).2 :=
          interpret_open hquiet _
        rw [hbooked]
      rw [← hlimits]
      rcases interpret_known hu hbounded (fault_eq herror) with hknown | ⟨_, reason, hmem, _⟩
      · exact hknown.blame (htells.congr (untold_latched latched).symm rfl fun _ h => h)
          (hkept error herror)
      · rw [hquiet] at hmem
        cases hmem
    exact ⟨hcause, latched.blamed ((interpret_state ..).trans running)
      (commitResult_error _ _) hcause⟩
  | aborted _ _ request =>
    obtain ⟨_, hphase⟩ := hphased.running hrunning
    cases hp : e.phase <;> rw [hp] at hphase <;> simp [InPhase, request] at hphase
  | confirmed request ready step published =>
    refine ⟨fun error herror => (by cases herror), .inl ?_⟩
    rw [publishClosed, publishNext_frame]
    exact hrunning
  | @unpublished _ e' _ reason shutdown tr core error request ready step published =>
    have hbounded : Bounded { s with
      core, transportState := .closed, closeRequest := none } := h.bounded
    have hlimits : (publishClosed reason
        { s with core, transportState := .closed, closeRequest := none }).2.limits = s.limits := by
      rw [publishClosed, publishNext_frame]
    have hstate : (publishClosed reason
        { s with core, transportState := .closed, closeRequest := none }).2.state = .running := by
      rw [publishClosed, publishNext_frame]
      exact hrunning
    obtain ⟨_, _, hphase, _, hreason⟩ := hphased.of_core request
    have hs : core.machine.epoch = e.epoch := by
      have hepoch := howns'.epoch_eq
      rw [ConnectionSlot.epoch, abortTransport, latchOwnerFailure_frame, publishClosed,
        publishNext_core, step.epoch_eq] at hepoch
      exact hepoch
    obtain ⟨_, _, hlossless⟩ := ((htold.abreast hrunning).released core).close hs hreason hphase rfl
    have hunlost := hlossless error published
    have htells' : Tells (past ++ [])
        (publishClosed reason { s with
      core, transportState := .closed, closeRequest := none }).2 e' :=
      htells.congr (untold_latch _ _).symm rfl fun _ h => h
    have hcrowded : error = .invariant .lifecyclePublication := by
      rcases publishNext_error published with rfl | rfl | rfl
      · exact absurd (.inr rfl) hunlost
      · rfl
      · exact absurd (.inl rfl) hunlost
    subst hcrowded
    refine ⟨fun error herror =>
      (by cases herror), .inr ⟨.invariant .lifecyclePublication, ?_, .inr ⟨rfl, rfl⟩, ?_⟩⟩
    · rw [← hlimits]
      refine (publishNext_known hbounded published).blame htells' ?_
      rintro ((h | h) | (h | h) | (h | h)) <;> cases h
    · rw [latchOwnerFailure_running hstate]
      rfl
  | unconfirmed request ready step =>
    obtain ⟨_, _, _, hcall, _⟩ := refusal_cases step (hphased.running hrunning).1
    cases hcall
  | _ => exact ⟨fun error herror => (by cases herror), .inl hrunning⟩

/-! ### Runs -/

/-- No call returns a failure of the books. -/
lemma books_kept (setup : SlotSetup D C R E) (calls : List (SlotCall T)) :
    ∀ ev ∈ setup.history B Q W calls, ∀ error ∈ ev.output.error, ¬error.bookkeeping := by
  have hclocked : ∀ ev ∈ setup.history B Q W calls, ∀ error ∈ ev.output.error,
      ¬Misclocked error := by
    have hrun := ticking_run (B := B) (Q := Q) (W := W) setup calls
    unfold Standing at hrun
    split at hrun
    · exact hrun
    · obtain ⟨e, _, hs⟩ := hrun
      exact hs.clocked
  have hfits : ∀ ev ∈ setup.history B Q W calls, ∀ error ∈ ev.output.error, ¬Overflows error := by
    have hrun := settling_run (B := B) (Q := Q) (W := W) setup calls
    unfold Standing at hrun
    split at hrun
    · exact hrun.fits
    · obtain ⟨e, _, hs⟩ := hrun
      exact hs.fits
  have hheard : ∀ ev ∈ setup.history B Q W calls, ∀ error ∈ ev.output.error, ¬Loses error := by
    have hrun := chronicle_run (B := B) (Q := Q) (W := W) setup calls
    unfold Standing at hrun
    split at hrun
    · exact hrun.kept
    · obtain ⟨e, _, hs⟩ := hrun
      exact hs.kept
  rintro ev hev error herror (h | h | h)
  · exact hclocked ev hev error herror h
  · exact hfits ev hev error herror h
  · exact hheard ev hev error herror h

section
omit [Retained R] [InboundClassifier C R]

lemma LifecycleTold.new (setup : SlotSetup D C R E) :
    LifecycleTold [] (setup.slot : ConnectionSlot B D C R Q W)
      (Epoch.new setup.config.ledgerId setup.config.epoch ⟨0, 0⟩) := by
  have hcontents : ∀ l, EventBatch.contents (EventBatch.new l : Q ConnectionEvent) = [] :=
    EventBatch.contents_new
  have hready : Ready [] (setup.slot : ConnectionSlot B D C R Q W) := by
    refine ⟨hcontents _, EventBatch.limits_new _, ?_⟩
    simp [SlotSetup.slot, fresh, EventBatch.contents_new]
  have habreast : Abreast [] (setup.slot : ConnectionSlot B D C R Q W)
      (Epoch.new setup.config.ledgerId setup.config.epoch ⟨0, 0⟩) := by
    refine ⟨hready, .new, ?_, rfl, by simp [Account.new, Epoch.new], fun _ =>
      rfl, fun h => (by cases h), fun _ => rfl⟩
    simp only [SlotSetup.slot, fresh, hcontents, List.append_nil]
    exact recites_nil _
  exact ⟨.new setup, habreast.tells, fun _ => habreast⟩

lemma HealthInvariant.new (setup : SlotSetup D C R E) :
    HealthInvariant K (setup.slot : ConnectionSlot B D C R Q W)
      (Epoch.new setup.config.ledgerId setup.config.epoch ⟨0, 0⟩) :=
  ⟨fun x hx => (by cases hx), EventBatch.limits_new _, fun bound hbound =>
    (by cases hbound), fun _ hgate => (by cases hgate)⟩

end

/-- The slot is fit, while the transports it was given are of the kind. -/
lemma fit_run (setup : SlotSetup D C R E) (hK : Lasting K) (calls : List (SlotCall T)) :
    Standing (fun h s e _ =>
      LifecycleTold (toldIn h) s e ∧ s.limits = setup.limits ∧
      ((∀ ev ∈ h, ∀ t ∈ ev.input.transport, K t) → HealthInvariant K s e))
      (fun _ => True) (setup.history B Q W calls) (setup.final B Q W calls) := by
  refine standing_run setup ⟨.new setup, rfl, fun _ => .new setup⟩ ?_
    (fun _ _ _ _ _ _ _ _ _ _ _ _ => trivial) (fun _ _ _ _ _ => trivial) calls
  intro h s e permits call s' e' ev howns ⟨htold, hlimits, hinv⟩ hstep _ hinput _ howns'
  refine ⟨by rw [toldIn_snoc]; exact (htold.step howns howns' hstep).1,
    (hstep.limits_eq howns).trans hlimits, fun hhosted => ?_⟩
  obtain ⟨hbefore, hnow⟩ := List.forall_mem_append.mp hhosted
  exact hstep.healthInvariant hK (hinput ▸ hnow ev List.mem_cons_self) (hinv hbefore)
    htold.phased howns

/-- **A slot fails over what is outside it.** In every run whose transports are of one kind,
every failure of a call of a running slot has its cause in a transport of that kind, in a
lifecycle batch of less than four events, or in a finalization as drained. The call leaves the
slot running, or failed over the failure it returns; only a settlement fails without a word, when
the event of the close does not fit. -/
theorem failures_have_causes (setup : SlotSetup D C R E) (K : T → Prop) (hK : Lasting K)
    (calls : List (SlotCall T)) (hcalls : ∀ call ∈ calls, ∀ t ∈ call.transport, K t) :
    ∀ ev ∈ setup.history B Q W calls, ∀ s ∈ ev.before.slot, s.state = .running →
      (∀ error ∈ ev.output.error, Cause K setup.limits ev.input error) ∧
      ∀ s' ∈ ev.after.slot, s'.state = .running ∨ ∃ error, Cause K setup.limits ev.input error ∧
        (ev.output.error = some error ∨ ev.input = .settleTransportClosed ∧
          error = .invariant .lifecyclePublication) ∧
        s'.state = .failed (OwnerFailure.ofError error) := by
  intro ev hev s hs hrunning
  have hkept := books_kept (B := B) (Q := Q) (W := W) setup calls ev hev
  obtain ⟨pre, post, hsplit⟩ := List.append_of_mem hev
  obtain ⟨before, call, after, rfl, rfl, rfl⟩ := Transducer.history_split hsplit
  have hhosted : ∀ ev ∈ setup.history B Q W before, ∀ t ∈ ev.input.transport, K t := by
    intro v hv
    have hinputs : (setup.history B Q W before).map Transducer.Event.input = before :=
      Transducer.history_inputs _ _
    refine hcalls v.input (List.mem_append_left _ ?_)
    rw [← hinputs]
    exact List.mem_map_of_mem hv
  have hrun := fit_run (B := B) (Q := Q) (W := W) setup hK before
  unfold Standing at hrun
  have hslot : (setup.final B Q W before).slot = some s := hs
  rw [hslot] at hrun
  obtain ⟨e, howns, htold, hlimits, hinv⟩ := hrun
  have hworld : SlotWorld.step (setup.final B Q W before) call =
      SlotWorld.slotStep s (setup.final B Q W before).permits call := by
    unfold SlotWorld.step
    rw [hslot]
  obtain ⟨e', hstep, hnext⟩ := follows_slot (T := T) howns call
  rw [← hworld] at hstep hnext
  rw [← hlimits]
  have hcall : ∀ t ∈ call.transport, K t := hcalls call (List.mem_append_right _ List.mem_cons_self)
  have hkept' : ∀ error ∈ (SlotWorld.step (setup.final B Q W before) call).2.error,
    ¬error.bookkeeping := hkept
  suffices hsuff : (∀ error ∈ (SlotWorld.step (setup.final B Q W before) call).2.error,
    Cause K s.limits call error) ∧
      ∀ s' ∈ (SlotWorld.step (setup.final B Q W before) call).1.slot,
        Blamed K s.limits call (SlotWorld.step (setup.final B Q W before) call).2 s' from hsuff
  generalize (SlotWorld.step (setup.final B Q W before) call).2 = r at hstep hkept' ⊢
  generalize (SlotWorld.step (setup.final B Q W before) call).1.permits = permits' at hstep hnext
  cases hafter : (SlotWorld.step (setup.final B Q W before) call).1.slot with
  | none =>
    rw [hafter] at hstep
    cases hstep
    exact ⟨fun error herror => (by cases herror), fun s' hs' => (by cases hs')⟩
  | some s' =>
    rw [hafter] at hstep
    obtain ⟨hcause, hblamed⟩ :=
      hstep.blamed hK hcall (hinv hhosted) htold howns (hnext s' hafter) hrunning hkept'
    refine ⟨hcause, ?_⟩
    rintro _ ⟨⟩
    exact hblamed

/-! ### Slots within their contracts -/

/-- Transports of the kind read and write no more than they are given, and keep
one bound on their memory. -/
structure Dutiful (limit : ℕ) (K : T → Prop) : Prop extends Lasting K where
  reads : ∀ t, K t → ∀ {n : ℕ} (slice : List.Vector UInt8 n) (count : ℕ),
    (SlotTransport.read t slice).1.1 = .ok count → count ≤ n
  writes : ∀ t, K t → ∀ (bytes : List UInt8) (count : ℕ),
    (SlotTransport.write t bytes).1 = .ok count → count ≤ bytes.length
  limit_eq : ∀ t, K t → (SlotTransport.pressureLimit t).1 = limit
  within : ∀ t, K t → (SlotTransport.pressure t).1.total ≤ limit

lemma validate_misreports {budget : TransportBudget} {progress : TransportProgress}
    {error : EngineError}
    (h : validateTransportProgress budget progress = .error error) : error.misreports = true := by
  unfold validateTransportProgress at h
  split at h
  · cases h
    rfl
  · split at h <;> cases h
    rfl

/-- A slot within its contracts can only complain of progress. -/
lemma Dutiful.misreports {limit : ℕ} (hK : Dutiful limit K) {limits : ConnectionSlotLimits}
    (hlimit : limit ≤ limits.transportRetainedBytes) (hevents : 4 ≤ limits.lifecycle.maxEvents)
    (hcall : call ≠ .finalize .drained) {error : EngineError} (h : Cause K limits call error) :
    error.misreports = true := by
  cases h with
  | read hosted reported large => exact absurd (hK.reads _ hosted _ _ reported) (not_le.mpr large)
  | wrote hosted reported large => exact absurd (hK.writes _ hosted _ _ reported) (not_le.mpr large)
  | progress reported invalid => exact validate_misreports invalid
  | early => rfl
  | @memory m t hosted ceiling bound broken =>
    refine absurd ⟨?_, fun b hb => ?_, ?_⟩ broken
    · rw [hK.limit_eq t hosted, ceiling]
      exact hlimit
    · obtain ⟨u, hu, hbound⟩ := bound b hb
      rw [← hbound, hK.limit_eq u hu, hK.limit_eq t hosted]
    · rw [hK.limit_eq t hosted]
      exact hK.within _ (hK.pressureLimit t hosted)
  | crowded few => exact absurd hevents (not_le.mpr few)
  | undrained called => exact absurd called hcall

/-- A call gives back a transport of the kind it was given. -/
lemma SlotStep.hosted {after : Option (ConnectionSlot B D C R Q W)}
    (hstep : SlotStep s e permits call r after e' permits') (hK : Lasting K)
    (howns : Owns permits s e) (h : ∀ t ∈ call.transport, K t) : ∀ t ∈ r.transport, K t := by
  cases hstep with
  | asleep asleep guards unmoved => exact unmoved ▸ h
  | drove running guards path latched =>
    exact path.keeps (I := fun sc => ∀ t ∈ sc.transport, K t) howns h fun _ _ hmove _ ha =>
      hmove.hosted hK ha
  | refused refuses latched =>
    intro t ht
    cases refuses <;> cases ht
  | _ => exact fun t ht => by cases ht

/-- A call without a slot fails over nothing. -/
lemma step_gone {w : SlotWorld B D C R Q W} (hgone : w.slot = none) (call : SlotCall T) :
    (SlotWorld.step w call).2.error = none ∧ (SlotWorld.step w call).2.transport = none ∧
      (SlotWorld.step w call).1.slot = none := by
  unfold SlotWorld.step
  rw [hgone]
  dsimp only
  split
  · exact ⟨rfl, rfl, rfl⟩
  · exact ⟨rfl, rfl, hgone⟩

/-- A host that keeps the kind of its transport gives the slot no other. -/
lemma hosted_run {drift : T → T → Prop} (hK : Lasting K) (hkind : ∀ t t', drift t t' → K t → K t')
    {w : SlotWorld B D C R Q W} {t : T} (howns : ∀ s ∈ w.slot, ∃ e, Owns w.permits s e) (ht : K t)
    (calls : List (SlotCall T))
    (hhosts : Hosts drift t (Transducer.history SlotWorld.step w calls)) :
    ∀ call ∈ calls, ∀ u ∈ call.transport, K u := by
  induction calls generalizing w t with
  | nil => exact fun _ hcall => by cases hcall
  | cons call calls ih =>
    obtain ⟨hdrift, hrest⟩ := hhosts
    have hgiven : ∀ u ∈ call.transport, K u := fun u hu => hkind t u (hdrift u hu) ht
    have hnow : K (call.transport.getD t) := by
      cases htransport : call.transport with
      | none => exact ht
      | some u => exact hgiven u htransport
    have hstep : (∀ s ∈ (SlotWorld.step w call).1.slot, ∃ e,
      Owns (SlotWorld.step w call).1.permits s e) ∧
        ∀ u ∈ (SlotWorld.step w call).2.transport, K u := by
      cases hslot : w.slot with
      | none =>
        obtain ⟨_, htransport, hgone⟩ := step_gone hslot call
        rw [htransport, hgone]
        exact ⟨fun s hs => (by cases hs), fun u hu => (by cases hu)⟩
      | some s =>
        obtain ⟨e, howns⟩ := howns s hslot
        obtain ⟨e', hstep, hnext⟩ := follows_slot howns call
        unfold SlotWorld.step
        rw [hslot]
        exact ⟨fun s' hs' => ⟨e', hnext s' hs'⟩, hstep.hosted hK howns hgiven⟩
    have hlater : K ((SlotWorld.step w call).2.transport.getD (call.transport.getD t)) := by
      cases htransport : (SlotWorld.step w call).2.transport with
      | none => exact hnow
      | some u => exact hstep.2 u htransport
    exact List.forall_mem_cons.mpr ⟨hgiven, ih hstep.1 hlater hrest⟩

/-- **A slot driven within its contracts never fails.** Give a slot one honest transport, which is
not open before it was established, reads and writes no more than it is given and keeps one bound on
its memory within that of the slot, room for the four events of its lifecycle, and a caller who
never finalizes it as drained. Then no call returns a failure, a commit neither, and the slot runs
after every call, in any order and at any times, with any decoder and classifier. -/
theorem dutiful_never_fails [HonestTransport T] (setup : SlotSetup D C R E) {limit : ℕ}
    {K : T → Prop} (hK : Dutiful limit K) (hlimit : limit ≤ setup.limits.transportRetainedBytes)
    (hevents : 4 ≤ setup.limits.lifecycle.maxEvents) {drift : T → T → Prop}
    (hdrift : ∀ t t', drift t t' → (SlotTransport.isOpen t').1 = (SlotTransport.isOpen t).1)
    (hkind : ∀ t t', drift t t' → K t → K t') (t : T) (ht : K t)
    (hclosed : (SlotTransport.isOpen t).1 = false) (calls : List (SlotCall T))
    (hundrained : .finalize .drained ∉ calls) (hhosts : Hosts drift t (setup.history B Q W calls)) :
    ∀ ev ∈ setup.history B Q W calls, ev.output.error = none ∧
      ∀ s ∈ ev.after.slot, s.state = .running := by
  have hcalls : ∀ call ∈ calls, ∀ t ∈ call.transport, K t :=
    hosted_run hK.toLasting hkind (fun s hs => ⟨_, by cases hs; exact holds_new ..⟩) ht calls hhosts
  have hhonest : ∀ ev ∈ setup.history B Q W calls, ∀ error ∈ ev.output.error,
      error.misreports = false :=
    honest_run hdrift (fun s _ _ _ => hclosed) calls hhosts
  -- a running slot comes out of a call without a failure
  have hcall : ∀ ev ∈ setup.history B Q W calls, (∀ s ∈ ev.before.slot, s.state = .running) →
      ev.output.error = none ∧ ∀ s ∈ ev.after.slot, s.state = .running := by
    intro ev hev hbefore
    have hmem : ev.input ≠ .finalize .drained := by
      intro heq
      have hinputs : (setup.history B Q W calls).map Transducer.Event.input = calls :=
        Transducer.history_inputs _ _
      exact hundrained (heq ▸ hinputs ▸ List.mem_map_of_mem hev)
    cases hslot : ev.before.slot with
    | none =>
      obtain ⟨pre, post, hsplit⟩ := List.append_of_mem hev
      obtain ⟨_, call, _, _, _, rfl⟩ := Transducer.history_split hsplit
      obtain ⟨herror, _, hafter⟩ := step_gone hslot call
      refine ⟨herror, fun s hs => ?_⟩
      cases (Option.mem_def.mp hs).symm.trans hafter
    | some s =>
      obtain ⟨hcauses, hafter⟩ :=
        failures_have_causes setup K hK.toLasting calls hcalls ev hev s hslot (hbefore s hslot)
      have hnone : ev.output.error = none := by
        by_contra hsome
        obtain ⟨error, herror⟩ := Option.ne_none_iff_exists'.mp hsome
        have hmisreports := hK.misreports hlimit hevents hmem (hcauses error herror)
        rw [hhonest ev hev error herror] at hmisreports
        cases hmisreports
      refine ⟨hnone, fun s' hs' => (hafter s' hs').resolve_right ?_⟩
      rintro ⟨error, hcause, herror | ⟨_, rfl⟩, _⟩
      · rw [hnone] at herror
        cases herror
      · cases hK.misreports hlimit hevents hmem hcause
  -- so it runs before every call
  have hrunning : ∀ pre post, calls = pre ++ post →
      ∀ s ∈ (setup.final B Q W pre).slot, s.state = .running := by
    intro pre
    induction pre using List.reverseRecOn with
    | nil =>
      rintro post _ s ⟨⟩
      rfl
    | append_singleton pre call ih =>
      intro post hsplit s hs
      have hbefore := ih (call :: post) (by rw [hsplit]; simp)
      have hmem : Transducer.event SlotWorld.step (setup.final B Q W pre) call ∈
          setup.history B Q W calls := by
        rw [hsplit, SlotSetup.history, Transducer.history_append, Transducer.history_snoc]
        exact List.mem_append_left _ (List.mem_append_right _ List.mem_cons_self)
      rw [SlotSetup.final, Transducer.final_snoc] at hs
      exact (hcall _ hmem hbefore).2 s hs
  intro ev hev
  refine hcall ev hev ?_
  obtain ⟨pre, post, hsplit⟩ := List.append_of_mem hev
  obtain ⟨before, call, after, hcalls', _, rfl⟩ := Transducer.history_split hsplit
  exact hrunning before (call :: after) hcalls'

/-- One operation is work within every budget. -/
lemma Peer.progress_valid (budget : TransportBudget) : Peer.progress.Valid budget := by
  have hpos : 1 ≤ (budget.operations : ℕ) := budget.operations.pos
  refine ⟨?_, rfl⟩
  simp only [TransportProgress.fits, Peer.progress, TransportProgress.new, Bool.and_eq_true]
  exact ⟨⟨decide_eq_true hpos, decide_eq_true (Nat.zero_le _)⟩, decide_eq_true (Nat.zero_le _)⟩

instance : HonestTransport Peer where
  establishes _ _ budget _ _ hreport := by
    cases hreport
    exact Peer.progress_valid budget
  drives _ _ _ hwork := by cases hwork
  begins _ budget _ hreport := by
    cases hreport
    exact Peer.progress_valid budget
  failed_open _ _ _ _ hfailed := by cases hfailed
  drive_open _ _ := rfl
  begin_open _ _ := rfl
  read_open p _ _ := by
    simp only [SlotTransport.read, SlotTransport.isOpen]
    split <;> rfl
  write_open _ _ := rfl
  clearRead_open _ := rfl
  clearWrite_open _ := rfl

/-- A kind that holds of every transport lasts. -/
lemma lasting_all : Lasting (fun _ : T => True) := by
  constructor <;> intros <;> trivial

lemma dutiful_peer : Dutiful 0 (fun _ : Peer => True) where
  toLasting := lasting_all
  reads p _ n slice count hreport := by
    simp only [SlotTransport.read] at hreport
    split at hreport <;> cases hreport
    exact List.length_take_le ..
  writes _ _ _ _ hreport := by
    cases hreport
    exact le_rfl
  limit_eq _ _ := rfl
  within _ _ := Nat.zero_le _

/-- Opens a transport and closes it, by a finalization for the given reason. -/
def closingCalls (reason : CloseReason) : List (SlotCall Peer) :=
  [.driveQuantum 0 (some .waiting), .openAdmission, .finalize reason, .settleTransportClosed]

/-- A finalization as drained fails. -/
theorem failures_have_causes_sample :
    ∃ ev ∈ SlotSetup.sample.history Counted ListBatch ListTimers (closingCalls .drained),
      ev.output.error = some (.invariant .missingShutdownDeadline) ∧
      Cause (fun _ : Peer => True) SlotSetup.sample.limits ev.input
        (.invariant .missingShutdownDeadline) := by
  have hsample : (SlotSetup.sample.history Counted ListBatch ListTimers
      (closingCalls .drained)).any (fun ev =>
      ev.output.error = some (.invariant .missingShutdownDeadline) ∧
        ev.before.slot.any (·.state = .running)) = true := by decide +kernel
  obtain ⟨ev, hev, hfailed⟩ := List.any_eq_true.mp hsample
  obtain ⟨herror, hrunning⟩ := of_decide_eq_true hfailed
  obtain ⟨s, hs, hstate⟩ := Option.any_eq_true .. |>.mp hrunning
  exact ⟨ev, hev, herror, (failures_have_causes SlotSetup.sample _ lasting_all
    (closingCalls .drained) (fun _ _ _ _ => trivial) ev hev s hs
    (of_decide_eq_true hstate)).1 _ herror⟩

/-- A finalization for another reason closes the slot. -/
theorem dutiful_never_fails_sample :
    (SlotSetup.sample.final Counted ListBatch ListTimers (closingCalls .requested)).slot.any
      (·.transportState = .closed) ∧
      ∀ ev ∈ SlotSetup.sample.history Counted ListBatch ListTimers (closingCalls .requested),
        ev.output.error = none ∧ ∀ s ∈ ev.after.slot, s.state = .running := by
  have hdrift : ∀ t t' : Peer, t = t' → (SlotTransport.isOpen t').1 = (SlotTransport.isOpen t).1 :=
    fun _ _ heq => heq ▸ rfl
  refine ⟨by decide +kernel, dutiful_never_fails SlotSetup.sample dutiful_peer (Nat.zero_le _)
    (by decide) hdrift (fun _ _ _ _ => trivial)
    .waiting trivial rfl (closingCalls .requested) (by simp [closingCalls])
      ⟨?_, ?_, ?_, ?_, trivial⟩⟩
  · rintro _ ⟨⟩
    rfl
  · rintro _ ⟨⟩
  · rintro _ ⟨⟩
  · rintro _ ⟨⟩

end Bornera.Slot
