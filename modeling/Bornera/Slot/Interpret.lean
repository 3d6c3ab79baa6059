import Bornera.Slot.Moves

/-!
# What each step of a slot leaves alone

A step of a slot touches few of its fields. Each lemma gives the slot after a step as the slot
before it with those fields replaced, so that every other field reduces to the one before.
-/

namespace Bornera.Slot

open Bornera.Core Bornera.Core.Epoch Lib ConnectionSlot

variable {B D C R E T : Type} {Q W : Type → Type} [ByteBudget B] [FrameDecoder D R E] [Retained R]
  [InboundClassifier C R] [EventBatch Q] [TimerQueue W] [SlotTransport T]

variable {s s' : ConnectionSlot B D C R Q W}

/-! ### Effects -/

/-- Only timers, their index and the outcomes differ. -/
def Booked (s s' : ConnectionSlot B D C R Q W) : Prop :=
  s' = { s with
    timers := s'.timers
    deadlines := s'.deadlines
    outcomes := s'.outcomes
    recoveryOutcomes := s'.recoveryOutcomes }

omit [ByteBudget B] [Retained R] [InboundClassifier C R] [EventBatch Q] [TimerQueue W] in
lemma Booked.trans {s₁ s₂ s₃ : ConnectionSlot B D C R Q W} (h : Booked s₁ s₂) (h' : Booked s₂ s₃) :
    Booked s₁ s₃ := by
  unfold Booked at *
  rw [h', h]

section
omit [ByteBudget B] [Retained R] [InboundClassifier C R] [EventBatch Q]

lemma cancelDeadline_frame (s : ConnectionSlot B D C R Q W) (operation : OperationId) :
    s.cancelDeadline operation = { s with
      timers := (s.cancelDeadline operation).timers
      deadlines := (s.cancelDeadline operation).deadlines } := by
  unfold cancelDeadline
  split
  · rfl
  · split <;> rfl

lemma scheduleDeadline_frame (s : ConnectionSlot B D C R Q W) (event : DeadlineEvent)
    (deadline : Deadline) :
    (scheduleDeadline event deadline s).2 = { s with
      timers := (scheduleDeadline event deadline s).2.timers
      deadlines := (scheduleDeadline event deadline s).2.deadlines } := by
  have hcancel := cancelDeadline_frame s event.operation
  unfold scheduleDeadline
  simp only
  generalize s.cancelDeadline event.operation = s₁ at hcancel ⊢
  split
  · exact hcancel
  · split <;> rw [hcancel]

end

omit [ByteBudget B] [InboundClassifier C R] [TimerQueue W] in
lemma publish_frame (s : ConnectionSlot B D C R Q W) (outcome : EngineOutcome R) :
    (publish outcome s).2 = { s with
      outcomes := (publish outcome s).2.outcomes
      recoveryOutcomes := (publish outcome s).2.recoveryOutcomes } := by
  unfold publish
  split
  · rfl
  · split <;> rfl

section
omit [ByteBudget B] [InboundClassifier C R]

lemma booked_effect {X : Type}
    (outcomeOf : OperationOutcome X → Except EngineInvariant (OperationOutcome R))
    (effect : ConnectionEffect X)
    (s : ConnectionSlot B D C R Q W) : Booked s (interpretEffect outcomeOf effect s).2 := by
  cases effect with
  | scheduleDeadline epoch operation deadline =>
    simp only [interpretEffect]
    rw [scheduleDeadline_frame]
    rfl
  | discardWrite => rfl
  | cancelDeadline epoch operation =>
    simp only [interpretEffect, Owner.change_run]
    rw [cancelDeadline_frame]
    rfl
  | closeEpoch => rfl
  | publishOutcome epoch operation outcome =>
    simp only [interpretEffect]
    cases outcomeOf outcome with
    | error => rfl
    | ok outcome =>
      dsimp only
      rw [publish_frame]
      rfl

theorem booked_effects {X : Type}
    (outcomeOf : OperationOutcome X → Except EngineInvariant (OperationOutcome R))
    (effects : List (ConnectionEffect X)) (reason : Option CloseReason)
    (failure : Option EngineError) (s : ConnectionSlot B D C R Q W) :
    Booked s (interpretEffects outcomeOf effects reason failure s).2.2 := by
  induction effects generalizing reason failure s with
  | nil => rfl
  | cons effect effects ih => exact (booked_effect outcomeOf effect s).trans (ih _ _ _)

end

/-! ### Publication and closing -/

section
omit [ByteBudget B] [Retained R] [InboundClassifier C R] [TimerQueue W]

lemma publishNext_run (event : ℕ → ConnectionEpoch → ConnectionEvent)
    (s : ConnectionSlot B D C R Q W) :
    publishNext event s = match checkedAdd s.eventSequence 1 with
      | none => (.error (.invariant .eventSequenceExhausted), s)
      | some sequence => publishEvent (event sequence s.epoch) s := by
  rw [publishNext, Owner.bind_run, nextEventSequence]
  cases checkedAdd s.eventSequence 1 <;> rfl

/-- A publication touches the lifecycle alone. -/
theorem publishNext_frame (event : ℕ → ConnectionEpoch → ConnectionEvent)
    (s : ConnectionSlot B D C R Q W) :
    (publishNext event s).2 = { s with
      lifecycle := (publishNext event s).2.lifecycle
      recoveryEvents := (publishNext event s).2.recoveryEvents
      eventSequence := (publishNext event s).2.eventSequence } := by
  rw [publishNext_run]
  split
  · rfl
  · unfold publishEvent
    split
    · rfl
    · simp only
      split <;> rfl

@[simp] lemma publishNext_core (event : ℕ → ConnectionEpoch → ConnectionEvent)
    (s : ConnectionSlot B D C R Q W) :
    (publishNext event s).2.core = s.core := by rw [publishNext_frame]

theorem finishClose_frame (reason : Option CloseReason) (failure : Option EngineError)
    (s : ConnectionSlot B D C R Q W) :
    (finishClose reason failure s).2 = { s with
      lifecycle := (finishClose reason failure s).2.lifecycle
      recoveryEvents := (finishClose reason failure s).2.recoveryEvents
      eventSequence := (finishClose reason failure s).2.eventSequence
      drainDeadline := (finishClose reason failure s).2.drainDeadline
      transportState := (finishClose reason failure s).2.transportState
      closeRequest := (finishClose reason failure s).2.closeRequest } := by
  unfold finishClose
  split
  · simp only [publishClosing]
    rw [publishNext_frame]
  · rfl

end

section
omit [ByteBudget B] [InboundClassifier C R]

/-- The state after an interpretation: the effects one by one, then the close. -/
lemma interpret_slot {X : Type}
    (outcomeOf : OperationOutcome X → Except EngineInvariant (OperationOutcome R))
    (t : ConnectionTransition X) (s : ConnectionSlot B D C R Q W) :
    (interpret outcomeOf t s).2 =
      (finishClose (interpretEffects outcomeOf t.effects none none s).1
        (interpretEffects outcomeOf t.effects none none s).2.1
        (interpretEffects outcomeOf t.effects none none s).2.2).2 := by
  simp only [interpret]
  split <;> next h => rw [h]

/-- An interpretation touches timers, publications and the close. -/
theorem interpret_frame {X : Type}
    (outcomeOf : OperationOutcome X → Except EngineInvariant (OperationOutcome R))
    (t : ConnectionTransition X) (s : ConnectionSlot B D C R Q W) :
    (interpret outcomeOf t s).2 = { s with
      timers := (interpret outcomeOf t s).2.timers
      deadlines := (interpret outcomeOf t s).2.deadlines
      outcomes := (interpret outcomeOf t s).2.outcomes
      recoveryOutcomes := (interpret outcomeOf t s).2.recoveryOutcomes
      lifecycle := (interpret outcomeOf t s).2.lifecycle
      recoveryEvents := (interpret outcomeOf t s).2.recoveryEvents
      eventSequence := (interpret outcomeOf t s).2.eventSequence
      drainDeadline := (interpret outcomeOf t s).2.drainDeadline
      transportState := (interpret outcomeOf t s).2.transportState
      closeRequest := (interpret outcomeOf t s).2.closeRequest } := by
  have hbooked := booked_effects outcomeOf t.effects none none s
  rw [interpret_slot, finishClose_frame]
  generalize (interpretEffects outcomeOf t.effects none none s).2.2 = s₁ at hbooked ⊢
  rw [hbooked]

end

section
variable {X : Type} (outcomeOf : OperationOutcome X → Except EngineInvariant (OperationOutcome R))
  (t : ConnectionTransition X) (s)

omit [ByteBudget B] [InboundClassifier C R] in
@[simp] lemma interpret_core : (interpret outcomeOf t s).2.core = s.core := by rw [interpret_frame]
omit [ByteBudget B] [InboundClassifier C R] in
@[simp] lemma interpret_limits : (interpret outcomeOf t s).2.limits = s.limits := by
  rw [interpret_frame]
omit [ByteBudget B] [InboundClassifier C R] in
@[simp] lemma interpret_state : (interpret outcomeOf t s).2.state = s.state := by
  rw [interpret_frame]

end

/-! ### Transport -/

section
omit [SlotTransport T] [ByteBudget B] [Retained R] [InboundClassifier C R] [EventBatch Q]
  [TimerQueue W]

@[simp] lemma slot_bind {α : Type} (f : ConnectionSlot B D C R Q W → Driving B D C R Q W T α)
    (x : ConnectionSlot B D C R Q W × T) : (slot >>= f) x = f x.1 x := rfl

@[simp] lemma changeSlot_bind {α : Type}
    (g : ConnectionSlot B D C R Q W → ConnectionSlot B D C R Q W)
    (f : Unit → Driving B D C R Q W T α) (x : ConnectionSlot B D C R Q W × T) :
    (changeSlot g >>= f) x = f () (g x.1, x.2) := rfl

end

section
omit [ByteBudget B] [Retained R] [InboundClassifier C R] [EventBatch Q] [TimerQueue W]

@[simp] lemma observe_bind {α : Type} (f : TransportPressure → Driving B D C R Q W T α)
    (x : ConnectionSlot B D C R Q W × T) :
    (observeTransportPressure >>= f) x =
      f (SlotTransport.pressure x.2).1
        ({ x.1 with transportPressure := some (SlotTransport.pressure x.2).1 },
          (SlotTransport.pressure x.2).2) := rfl

/-- The memory of a transport, as a look at it finds it. -/
lemma capture_run (s : ConnectionSlot B D C R Q W) (t : T) :
    captureTransportPressure (s, t) =
      if s.limits.transportRetainedBytes < (SlotTransport.pressureLimit t).1 ∨
          s.transportRetainedLimit.any (· ≠ (SlotTransport.pressureLimit t).1) then
        (.error (.invariant (.transportLimitContract
          (s.transportRetainedLimit.getD s.limits.transportRetainedBytes)
            (SlotTransport.pressureLimit t).1)),
          { s with
            transportPressure := some (SlotTransport.pressure
            (SlotTransport.pressureLimit t).2).1 }.diverge
            .contract,
          (SlotTransport.pressure (SlotTransport.pressureLimit t).2).2)
      else if (SlotTransport.pressure (SlotTransport.pressureLimit t).2).1.total ≤
        (SlotTransport.pressureLimit t).1 then
        (.ok (),
          { s with
            transportRetainedLimit := some (SlotTransport.pressureLimit t).1
            transportPressure :=
              some (SlotTransport.pressure (SlotTransport.pressureLimit t).2).1 },
          (SlotTransport.pressure (SlotTransport.pressureLimit t).2).2)
      else
        (.error (.invariant (.transportRetainedCapacity (SlotTransport.pressureLimit t).1
            (SlotTransport.pressure (SlotTransport.pressureLimit t).2).1)),
          { s with
            transportRetainedLimit := some (SlotTransport.pressureLimit t).1
            transportPressure :=
              some (SlotTransport.pressure (SlotTransport.pressureLimit t).2).1 }.diverge .capacity,
          (SlotTransport.pressure (SlotTransport.pressureLimit t).2).2) := by
  by_cases hlimit : s.limits.transportRetainedBytes < (SlotTransport.pressureLimit t).1 ∨
      s.transportRetainedLimit.any (· ≠ (SlotTransport.pressureLimit t).1)
  · simp only [captureTransportPressure, Owner.ask_bind, slot_bind, if_pos hlimit, observe_bind,
      changeSlot_bind,
      Owner.fail_run]
  · rw [if_neg hlimit]
    by_cases hfits : (SlotTransport.pressure (SlotTransport.pressureLimit t).2).1.total ≤
        (SlotTransport.pressureLimit t).1
    · simp only [captureTransportPressure, Owner.ask_bind, slot_bind, if_neg hlimit, observe_bind,
        changeSlot_bind,
        if_pos hfits, Owner.pure_run]
    · simp only [captureTransportPressure, Owner.ask_bind, slot_bind, if_neg hlimit, observe_bind,
        changeSlot_bind,
        if_neg hfits, Owner.fail_run]

/-- A look at the memory touches what is known of it. -/
theorem capture_frame (s : ConnectionSlot B D C R Q W) (t : T) :
    (captureTransportPressure (s, t)).2.1 = { s with
      transportDiagnostic := (captureTransportPressure (s, t)).2.1.transportDiagnostic
      transportPressure := (captureTransportPressure (s, t)).2.1.transportPressure
      transportRetainedLimit := (captureTransportPressure (s, t)).2.1.transportRetainedLimit
      transportContractDiverged :=
        (captureTransportPressure (s, t)).2.1.transportContractDiverged } := by
  rw [capture_run]
  split
  · rfl
  · split <;> rfl

/-- A step of the shutdown, by what the transport answers and what its memory is. -/
lemma shutdownStep_run (reason : CloseReason) (deadline : Deadline)
    (drive : T → TransportBudget → Except TransportDiagnostic TransportProgress × T)
    (s : ConnectionSlot B D C R Q W) (t : T) :
    shutdownStep reason deadline drive (s, t) =
      let (pressure, s₁, t₁) := captureTransportPressure (s, (drive t s.transportBudget).2)
      match (drive t s.transportBudget).1, pressure with
      | .error source, pressure =>
        (pressure.map fun _ => some 1,
          (s₁.recordTransportFailure (source.inPhase .shutdown)).forceShutdownSettlement reason, t₁)
      | .ok _, .error error => (.error error, s₁.forceShutdownSettlement reason, t₁)
      | .ok progress, .ok () =>
        match validateTransportProgress s.transportBudget progress with
        | .error error => (.error error, s₁.forceShutdownSettlement reason, t₁)
        | .ok () =>
          (.ok (some progress.operations),
            { s₁ with
              closeRequest := some (.core reason
                (if (SlotTransport.isShutdownComplete t₁).1 then
                  .complete else .started deadline)) },
            (SlotTransport.isShutdownComplete t₁).2) := by
  simp only [shutdownStep, slot_bind, Owner.ask_bind, Owner.attempt_bind]
  cases (drive t s.transportBudget).1 with
  | error source =>
    cases (captureTransportPressure (s, (drive t s.transportBudget).2)).1 <;>
      simp only [changeSlot_bind] <;> rfl
  | ok progress =>
    cases (captureTransportPressure (s, (drive t s.transportBudget).2)).1 with
    | error error => simp only [changeSlot_bind, Owner.fail_run]
    | ok =>
      cases hv : validateTransportProgress s.transportBudget progress <;>
        simp only [changeSlot_bind, hv, Owner.fail_run, Owner.ask_bind, Owner.pure_run]

/-- A step of the shutdown touches the close and what is known of the transport. -/
theorem shutdownStep_frame (reason : CloseReason) (deadline : Deadline)
    (drive : T → TransportBudget → Except TransportDiagnostic TransportProgress × T)
    (s : ConnectionSlot B D C R Q W) (t : T) :
    (shutdownStep reason deadline drive (s, t)).2.1 = { s with
      closeRequest := (shutdownStep reason deadline drive (s, t)).2.1.closeRequest
      transportDiagnostic := (shutdownStep reason deadline drive (s, t)).2.1.transportDiagnostic
      transportPressure := (shutdownStep reason deadline drive (s, t)).2.1.transportPressure
      transportRetainedLimit :=
        (shutdownStep reason deadline drive (s, t)).2.1.transportRetainedLimit
      transportContractDiverged :=
        (shutdownStep reason deadline drive (s, t)).2.1.transportContractDiverged } := by
  have hframe := capture_frame s (drive t s.transportBudget).2
  rw [shutdownStep_run]
  generalize captureTransportPressure (s, (drive t s.transportBudget).2) = captured at hframe ⊢
  obtain ⟨pressure, s₁, t₁⟩ := captured
  simp only at hframe ⊢
  split
  · rw [hframe]
    rfl
  · rw [hframe]
    rfl
  · split
    · rw [hframe]
      rfl
    · rw [hframe]

end

omit [ByteBudget B] [Retained R] [InboundClassifier C R] [EventBatch Q] in
/-- Taking a timer out touches timers and their index. -/
theorem popDue_frame (s : ConnectionSlot B D C R Q W) (now : ℕ) :
    (s.popDue now).2 = { s with
      timers := (s.popDue now).2.timers
      deadlines := (s.popDue now).2.deadlines } := by
  unfold popDue
  split <;> rfl

omit [ByteBudget B] [Retained R] [InboundClassifier C R] [EventBatch Q] [TimerQueue W] in
lemma forceShutdown_frame (h : s.forceShutdown = some s') :
    s' = { s with closeRequest := s'.closeRequest } := by
  unfold forceShutdown at h
  split at h <;> cases h <;> rfl

/-! ### Failures -/

/-- The failure, if any, is one of the slot's own bookkeeping. -/
def Internal (failure : Option EngineError) : Prop := ∀ error ∈ failure, ∃ i, error = .invariant i

/-- What is true of the first failure and of the next result is true of the
first failure after it. -/
lemma retainFirst_forall {P : EngineError → Prop} {failure : Option EngineError}
    {r : Except EngineError Unit} (hf : ∀ error ∈ failure, P error)
    (hr : ∀ error, r = .error error → P error) :
    ∀ error ∈ retainFirst failure r, P error := by
  cases r with
  | ok => exact hf
  | error error =>
    cases failure with
    | some _ => exact hf
    | none =>
      intro e he
      cases he
      exact hr error rfl

omit [ByteBudget B] [Retained R] [InboundClassifier C R] [EventBatch Q] in
lemma scheduleDeadline_error {event : DeadlineEvent} {deadline : Deadline}
    {s : ConnectionSlot B D C R Q W} {error : EngineError}
    (h : (scheduleDeadline event deadline s).1 = .error error) :
    error = .invariant .deadlineIndexCapacity ∨ error = .invariant .deadlineSchedule := by
  unfold scheduleDeadline at h
  simp only at h
  split at h
  · cases h
    exact .inl rfl
  · split at h <;> cases h
    exact .inr rfl

omit [ByteBudget B] [InboundClassifier C R] [TimerQueue W] in
lemma publish_error {outcome : EngineOutcome R} {s : ConnectionSlot B D C R Q W}
    {error : EngineError} (h : (publish outcome s).1 = .error error) :
    error = .invariant .outcomePublication ∨ error = .invariant .recoveryOutcomePublication := by
  unfold publish at h
  split at h
  · cases h
  · split at h <;> cases h
    · exact .inr rfl
    · exact .inl rfl

omit [ByteBudget B] [InboundClassifier C R] in
lemma effect_internal {X : Type}
    (outcomeOf : OperationOutcome X → Except EngineInvariant (OperationOutcome R))
    (effect : ConnectionEffect X) (s : ConnectionSlot B D C R Q W) (error : EngineError)
    (h : (interpretEffect outcomeOf effect s).1 = .error error) : ∃ i, error = .invariant i := by
  cases effect with
  | scheduleDeadline epoch operation deadline =>
    rcases scheduleDeadline_error h with rfl | rfl <;> exact ⟨_, rfl⟩
  | discardWrite =>
    cases h
    exact ⟨_, rfl⟩
  | cancelDeadline => cases h
  | closeEpoch => cases h
  | publishOutcome epoch operation outcome =>
    simp only [interpretEffect] at h
    cases houtcome : outcomeOf outcome with
    | error invariant =>
      rw [houtcome] at h
      cases h
      exact ⟨_, rfl⟩
    | ok outcome =>
      rw [houtcome] at h
      rcases publish_error h with rfl | rfl <;> exact ⟨_, rfl⟩

/-- The outcomes that an interpretation cannot read are replies without a frame. -/
def Legible {X : Type}
    (outcomeOf : OperationOutcome X → Except EngineInvariant (OperationOutcome R)) : Prop :=
  ∀ outcome i, outcomeOf outcome = .error i → i = .unexpectedUnitReply

section
omit [Retained R]

lemma legible_unit :
    Legible
      (unitOutcome : OperationOutcome Unit → Except EngineInvariant (OperationOutcome R)) := by
  intro outcome i h
  cases outcome <;> cases h
  rfl

lemma legible_reply :
    Legible (.ok : OperationOutcome R → Except EngineInvariant (OperationOutcome R)) := by
  intro outcome i h
  cases h

end

/-- The failures of effects. -/
def EngineError.ofEffect : EngineError → Bool
  | .invariant .deadlineIndexCapacity => true
  | .invariant .deadlineSchedule => true
  | .invariant .outcomePublication => true
  | .invariant .recoveryOutcomePublication => true
  | .invariant .unexpectedDiscardEffect => true
  | .invariant .unexpectedUnitReply => true
  | _ => false

omit [ByteBudget B] [InboundClassifier C R] in
lemma effect_error {X : Type}
    {outcomeOf : OperationOutcome X → Except EngineInvariant (OperationOutcome R)}
    (hof : Legible outcomeOf) (effect : ConnectionEffect X) (s : ConnectionSlot B D C R Q W)
    (error : EngineError)
    (h : (interpretEffect outcomeOf effect s).1 = .error error) : error.ofEffect = true := by
  cases effect with
  | scheduleDeadline epoch operation deadline =>
    rcases scheduleDeadline_error h with rfl | rfl <;> rfl
  | discardWrite =>
    cases h
    rfl
  | cancelDeadline => cases h
  | closeEpoch => cases h
  | publishOutcome epoch operation outcome =>
    simp only [interpretEffect] at h
    cases houtcome : outcomeOf outcome with
    | error invariant =>
      rw [houtcome] at h
      cases h
      rw [hof outcome invariant houtcome]
      rfl
    | ok outcome =>
      rw [houtcome] at h
      rcases publish_error h with rfl | rfl <;> rfl

section
omit [ByteBudget B] [Retained R] [InboundClassifier C R] [TimerQueue W]

lemma publishNext_error {event : ℕ → ConnectionEpoch → ConnectionEvent}
    {s : ConnectionSlot B D C R Q W} {error : EngineError}
    (h : (publishNext event s).1 = .error error) :
    error = .invariant .eventSequenceExhausted ∨ error = .invariant .lifecyclePublication ∨
      error = .invariant .recoveryLifecyclePublication := by
  rw [publishNext_run] at h
  split at h
  · cases h
    exact .inl rfl
  · unfold publishEvent at h
    split at h
    · cases h
    · simp only at h
      split at h <;> cases h
      · exact .inr (.inr rfl)
      · exact .inr (.inl rfl)

lemma publishNext_internal (event : ℕ → ConnectionEpoch → ConnectionEvent)
    (s : ConnectionSlot B D C R Q W) (error : EngineError)
    (h : (publishNext event s).1 = .error error) : ∃ i, error = .invariant i := by
  rcases publishNext_error h with rfl | rfl | rfl <;> exact ⟨_, rfl⟩

end

section
omit [ByteBudget B] [InboundClassifier C R]

/-- **The rule for effects.** What one effect keeps of the slot and of the effects to come holds
after all of them, and what is true of the failure of each is true of the first failure. -/
theorem effects_rule {X : Type}
    {outcomeOf : OperationOutcome X → Except EngineInvariant (OperationOutcome R)}
    {I : List (ConnectionEffect X) → ConnectionSlot B D C R Q W → Prop} {P : EngineError → Prop}
    (hstep : ∀ effect rest s, I (effect :: rest) s →
      (∀ error, (interpretEffect outcomeOf effect s).1 = .error error → P error) ∧ I rest
      (interpretEffect outcomeOf effect s).2)
    (effects : List (ConnectionEffect X)) (reason : Option CloseReason)
    {failure : Option EngineError} {s : ConnectionSlot B D C R Q W} (h : I effects s)
    (hf : ∀ error ∈ failure, P error) :
    (∀ error ∈ (interpretEffects outcomeOf effects reason failure s).2.1, P error) ∧
      I [] (interpretEffects outcomeOf effects reason failure s).2.2 := by
  induction effects generalizing reason failure s with
  | nil => exact ⟨hf, h⟩
  | cons effect effects ih =>
    obtain ⟨herror, hnext⟩ := hstep effect effects s h
    exact ih _ hnext (retainFirst_forall hf herror)

lemma effects_internal {X : Type}
    (outcomeOf : OperationOutcome X → Except EngineInvariant (OperationOutcome R))
    (effects : List (ConnectionEffect X)) (reason : Option CloseReason)
    {failure : Option EngineError} (hf : Internal failure) (s : ConnectionSlot B D C R Q W) :
    Internal (interpretEffects outcomeOf effects reason failure s).2.1 :=
  (effects_rule (I := fun _ _ => True)
    (fun effect _ s _ => ⟨effect_internal outcomeOf effect s, trivial⟩) effects reason
    trivial hf).1

end

omit [ByteBudget B] [Retained R] [InboundClassifier C R] [TimerQueue W] in
/-- The first failure after a close is an earlier one, one of the publication,
or a missing deadline. -/
lemma finishClose_forall {P : EngineError → Prop} {reason : Option CloseReason}
    {failure : Option EngineError} {s : ConnectionSlot B D C R Q W}
    (hf : ∀ error ∈ failure, P error)
    (hpub : ∀ reason error, (publishClosing reason s).1 = .error error → P error)
    (hmissing : P (.invariant .missingShutdownDeadline)) :
    ∀ error ∈ (finishClose reason failure s).1, P error := by
  unfold finishClose
  split
  · have hfirst := retainFirst_forall hf (hpub ‹CloseReason›)
    simp only
    split
    · exact hfirst
    · next hshut =>
      refine retainFirst_forall (r := .error _) hfirst fun error herror => ?_
      cases herror
      unfold shutdownFor at hshut
      split at hshut
      · split at hshut <;> cases hshut
        exact hmissing
      · cases hshut
  · exact hf

section
omit [ByteBudget B] [InboundClassifier C R]

/-- A failed interpretation returns the first failure. -/
lemma interpret_fault {X : Type}
    {outcomeOf : OperationOutcome X → Except EngineInvariant (OperationOutcome R)}
    {tr : ConnectionTransition X} {s : ConnectionSlot B D C R Q W} {error : EngineError}
    (h : (interpret outcomeOf tr s).1 = .error error) :
    error ∈ (finishClose (interpretEffects outcomeOf tr.effects none none s).1
      (interpretEffects outcomeOf tr.effects none none s).2.1
      (interpretEffects outcomeOf tr.effects none none s).2.2).1 := by
  simp only [interpret] at h
  split at h
  · cases h
  · next hfinish =>
    cases h
    rw [hfinish]
    rfl

/-- The failures of an interpretation are those of the slot's own bookkeeping. -/
lemma interpret_internal {X : Type}
    (outcomeOf : OperationOutcome X → Except EngineInvariant (OperationOutcome R))
    (tr : ConnectionTransition X) (s : ConnectionSlot B D C R Q W) (error : EngineError)
    (h : (interpret outcomeOf tr s).1 = .error error) : ∃ i, error = .invariant i := by
  exact finishClose_forall (P := fun error => ∃ i, error = .invariant i)
    (effects_internal outcomeOf tr.effects none (fun _ he => by cases he) s)
    (fun reason error hpub => publishNext_internal _ _ error hpub) ⟨_, rfl⟩ error
      (interpret_fault h)

/-- No effects, nothing to interpret. -/
lemma interpret_nil {X : Type}
    (outcomeOf : OperationOutcome X → Except EngineInvariant (OperationOutcome R))
    {tr : ConnectionTransition X} (h : tr.effects = []) (s : ConnectionSlot B D C R Q W) :
    interpret outcomeOf tr s = (.ok (), s) := by
  simp only [interpret, h, interpretEffects, finishClose]

end

lemma validate_outside {budget : TransportBudget} {progress : TransportProgress}
    {error : EngineError}
    (h : validateTransportProgress budget progress = .error error) : error.outside = true := by
  unfold validateTransportProgress at h
  split at h
  · cases h
    rfl
  · split at h <;> cases h
    rfl

section
omit [ByteBudget B] [Retained R] [InboundClassifier C R] [EventBatch Q] [TimerQueue W]

lemma capture_outside (x : ConnectionSlot B D C R Q W × T) (error : EngineError)
    (h : (captureTransportPressure x).1 = .error error) : error.outside = true := by
  rw [capture_run] at h
  split at h
  · cases h
    rfl
  · split at h <;> cases h
    rfl

lemma shutdownStep_outside {reason : CloseReason} {deadline : Deadline}
    {drive : T → TransportBudget → Except TransportDiagnostic TransportProgress × T} {t : T}
    {error : EngineError}
    (h : (shutdownStep reason deadline drive (s, t)).1 = .error error) : error.outside = true := by
  have hcapture := capture_outside (s, (drive t s.transportBudget).2)
  rw [shutdownStep_run] at h
  generalize captureTransportPressure (s, (drive t s.transportBudget).2) = captured at hcapture h
  obtain ⟨pressure, s₁, t₁⟩ := captured
  cases hdrive : (drive t s.transportBudget).1 with
  | error source =>
    rw [hdrive] at h
    cases pressure with
    | error error' =>
      cases h
      exact hcapture _ rfl
    | ok => cases h
  | ok progress =>
    rw [hdrive] at h
    cases pressure with
    | error error' =>
      cases h
      exact hcapture _ rfl
    | ok =>
      dsimp only at h
      cases hvalid : validateTransportProgress s.transportBudget progress with
      | error error' =>
        rw [hvalid] at h
        cases h
        exact validate_outside hvalid
      | ok =>
        rw [hvalid] at h
        cases h

end

end Bornera.Slot
