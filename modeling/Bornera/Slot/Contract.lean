import Bornera.Slot.Closing

/-!
# Transports that keep the contract on progress

A transport is honest when its looks change nothing, every step it advertises is one of work within
the budget, and only its establishment opens it. A slot that drives one honest transport from before
it was open never complains of its progress. This is proved of the computations of the slot one by
one, with pre- and postconditions: while the slot is connecting, its transport is not open.
-/

namespace Bornera.Slot

open Bornera.Core Bornera.Core.Epoch Lib ConnectionSlot

/-- A report of work within a budget. -/
def TransportProgress.Valid (p : TransportProgress) (budget : TransportBudget) : Prop :=
  p.fits budget = true ∧ p.isIdle = false

/-- An honest transport. -/
class HonestTransport (T : Type) [SlotTransport T] : Prop extends SteadyTransport T where
  establishes :
    ∀ (t : T) (policy : TcpSocketPolicy) (budget : TransportBudget) (progress : TransportProgress),
    (SlotTransport.canEstablish t).1 = true →
      (SlotTransport.driveEstablishment t policy budget).1 = .ok progress →
    progress.Valid budget
  drives : ∀ (t : T) (budget : TransportBudget) (progress : TransportProgress),
    (SlotTransport.hasTransportWork t).1 = true →
      (SlotTransport.driveTransport t budget).1 = .ok progress →
    progress.Valid budget
  begins : ∀ (t : T) (budget : TransportBudget) (progress : TransportProgress),
    (SlotTransport.beginShutdown t budget).1 = .ok progress → progress.Valid budget
  failed_open :
    ∀ (t : T) (policy : TcpSocketPolicy) (budget : TransportBudget) (source : TransportDiagnostic),
    (SlotTransport.driveEstablishment t policy budget).1 = .error source →
    (SlotTransport.isOpen (SlotTransport.driveEstablishment t policy budget).2).1 =
      (SlotTransport.isOpen t).1
  drive_open : ∀ (t : T) (budget : TransportBudget),
    (SlotTransport.isOpen (SlotTransport.driveTransport t budget).2).1 = (SlotTransport.isOpen t).1
  begin_open : ∀ (t : T) (budget : TransportBudget),
    (SlotTransport.isOpen (SlotTransport.beginShutdown t budget).2).1 = (SlotTransport.isOpen t).1
  read_open : ∀ (t : T) {n : ℕ} (slice : List.Vector UInt8 n),
    (SlotTransport.isOpen (SlotTransport.read t slice).2).1 = (SlotTransport.isOpen t).1
  write_open : ∀ (t : T) (bytes : List UInt8),
    (SlotTransport.isOpen (SlotTransport.write t bytes).2).1 = (SlotTransport.isOpen t).1
  clearRead_open : ∀ t : T, (SlotTransport.isOpen (SlotTransport.clearRead t)).1 =
    (SlotTransport.isOpen t).1
  clearWrite_open : ∀ t : T, (SlotTransport.isOpen (SlotTransport.clearWrite t)).1 =
    (SlotTransport.isOpen t).1

/-- The failures an honest transport never gives rise to. -/
def EngineError.misreports : EngineError → Bool
  | .invariant (.transportProgressContract _ _) => true
  | .invariant .transportOpenedBeforeEstablishment => true
  | .invariant .transportNoProgress => true
  | _ => false

/-- The failures of the slot itself over other matters. -/
def EngineError.sober : EngineError → Bool
  | .ownerFailed _ => false
  | error => !error.misreports

lemma TransportProgress.Valid.validated {p : TransportProgress} {budget : TransportBudget}
    (h : p.Valid budget) :
    validateTransportProgress budget p = .ok () := by
  unfold validateTransportProgress
  simp [h.1, h.2]

variable {B D C R E T : Type} {Q W : Type → Type} [ByteBudget B] [FrameDecoder D R E] [Retained R]
  [InboundClassifier C R] [EventBatch Q] [TimerQueue W]

/-! ### The slot alone -/

/-- A computation of the slot alone: it does not make the slot connect, and does not complain of
progress. -/
def Calm {α : Type} (m : Run B D C R Q W α) : Prop :=
  ∀ X : Prop, Owner.Triple (fun s => s.transportState = .connecting → X) m
    (fun _ s => s.transportState = .connecting → X) (fun error _ => error.sober = true)

section
variable {α β : Type}

section
omit [ByteBudget B] [Retained R] [InboundClassifier C R] [EventBatch Q] [TimerQueue W]

lemma calm_pure (a : α) : Calm (pure a : Run B D C R Q W α) := fun _ => .pure fun _ h => h

lemma calm_bind {m : Run B D C R Q W α} {f : α → Run B D C R Q W β} (hm : Calm m)
    (hf : ∀ a, Calm (f a)) : Calm (m >>= f) :=
  fun X => .bind (hm X) fun a => hf a X

lemma calm_read {f : ConnectionSlot B D C R Q W → Run B D C R Q W α} (hf : ∀ s, Calm (f s)) :
    Calm (Owner.read >>= f) :=
  fun X s hs => hf s X s hs

lemma calm_change {f : ConnectionSlot B D C R Q W → ConnectionSlot B D C R Q W}
    (h : ∀ s, (f s).transportState = s.transportState) :
    Calm (Owner.change f : Run B D C R Q W Unit) :=
  fun _ => .change fun s hs => h s ▸ hs

lemma calm_update {f : ConnectionSlot B D C R Q W → α × ConnectionSlot B D C R Q W}
    (h : ∀ s, (f s).2.transportState = s.transportState) :
    Calm (Owner.update f : Run B D C R Q W α) :=
  fun _ => .update fun s hs => h s ▸ hs

lemma calm_ite {c : Prop} [Decidable c] {m n : Run B D C R Q W α} (hm : Calm m) (hn : Calm n) :
    Calm (if c then m else n) := by
  split
  · exact hm
  · exact hn

/-- The core's failures are its own. -/
lemma calm_onCore (m : ConnectionCore.Run B OutboundFrame α) :
    Calm (onCore m : Run B D C R Q W α) := by
  intro X s hs
  unfold onCore
  rcases m s.core with ⟨source | a, core⟩
  · rfl
  · exact hs

lemma calm_here {m : ConnectionSlot B D C R Q W → Run B D C R Q W α} (h : ∀ s, Calm (m s)) :
    Calm (fun s => m s s) :=
  fun X s hs => h s X s hs

end

end

omit [ByteBudget B] [InboundClassifier C R] in
lemma interpret_connecting {X : Type}
    (outcomeOf : OperationOutcome X → Except EngineInvariant (OperationOutcome R))
    (tr : ConnectionTransition X) (s : ConnectionSlot B D C R Q W)
    (h : (interpret outcomeOf tr s).2.transportState = .connecting) :
    s.transportState = .connecting := by
  have hbooked := booked_effects outcomeOf tr.effects none none s
  rw [interpret_slot] at h
  unfold finishClose at h
  split at h
  · cases h
  · rw [hbooked] at h
    exact h

lemma ofEffect_sober {error : EngineError} (h : error.ofEffect = true) : error.sober = true := by
  unfold EngineError.ofEffect at h
  split at h <;> first | rfl | cases h

section
omit [ByteBudget B] [InboundClassifier C R]

/-- No interpretation complains of the transport. -/
lemma interpret_sober {X : Type}
    {outcomeOf : OperationOutcome X → Except EngineInvariant (OperationOutcome R)}
    (hof : Legible outcomeOf) {tr : ConnectionTransition X} {s : ConnectionSlot B D C R Q W}
    {error : EngineError}
    (h : (interpret outcomeOf tr s).1 = .error error) : error.sober = true := by
  have heffects := (effects_rule (I := fun _ _ => True) (P := fun error => error.sober = true)
    (fun effect _ s _ =>
      ⟨fun error he => ofEffect_sober (effect_error hof effect s error he), trivial⟩)
    tr.effects none (s := s) trivial (fun error (he : error ∈ none) => by cases he)).1
  refine finishClose_forall (P := fun error => error.sober = true) heffects
    (fun reason error he => ?_) rfl error
    (interpret_fault h)
  rcases publishNext_error he with rfl | rfl | rfl <;> rfl

lemma calm_interpret {X : Type}
    {outcomeOf : OperationOutcome X → Except EngineInvariant (OperationOutcome R)}
    (hof : Legible outcomeOf)
    (tr : ConnectionTransition X) : Calm (interpret outcomeOf tr : Run B D C R Q W Unit) := by
  intro P s hs
  have hstate := interpret_connecting outcomeOf tr s
  rcases hrun : interpret outcomeOf tr s with ⟨error | _, s'⟩
  · exact interpret_sober hof (congrArg Prod.fst hrun)
  · rw [hrun] at hstate
    exact fun h => hs (hstate h)

end

omit [Retained R] [InboundClassifier C R] [EventBatch Q] [TimerQueue W] in
lemma calm_applyCore (input : ConnectionInput) : Calm (applyCore input : Run B D C R Q W _) :=
  calm_here (m := fun s => onCore (ConnectionCore.apply s.debug input)) fun _ => calm_onCore _

section
omit [InboundClassifier C R]

lemma calm_closeFor (reason : CloseReason) : Calm (closeFor reason : Run B D C R Q W Unit) :=
  calm_read fun _ => calm_bind (calm_applyCore _) fun tr => calm_interpret legible_unit tr

lemma calm_closeMalformed : Calm (closeMalformed : Run B D C R Q W Unit) :=
  calm_read fun _ => calm_bind (calm_applyCore _) fun tr => calm_interpret legible_unit tr

end

omit [FrameDecoder D R E] [InboundClassifier C R] in
lemma calm_closeDecodeError (error : FrameDecodeError E) :
    Calm (closeDecodeError error : Run B D C R Q W Unit) := by
  cases error with
  | retainedByteCapacity => exact calm_closeFor _
  | inputSizeOverflow => exact calm_closeFor _
  | retainedContractViolation => exact calm_closeFor _
  | decoderFailed => exact calm_closeMalformed
  | decoder => exact calm_closeMalformed

omit [ByteBudget B] [Retained R] [InboundClassifier C R] [TimerQueue W] in
lemma calm_publish (event : ℕ → ConnectionEpoch → ConnectionEvent) :
    Calm (publishNext event : Run B D C R Q W Unit) := by
  intro X s hs
  have hstate : (publishNext event s).2.transportState = s.transportState := by
    rw [publishNext_frame]
  rcases hrun : publishNext event s with ⟨error | _, s'⟩
  · rcases publishNext_error (congrArg Prod.fst hrun) with rfl | rfl | rfl <;> rfl
  · rw [hrun] at hstate
    exact fun h => hs (hstate.symm.trans h)

omit [InboundClassifier C R] in
lemma calm_driveDeadlines (now budget : ℕ) :
    Calm (driveDeadlines now budget : Run B D C R Q W ℕ) := by
  induction budget with
  | zero => exact calm_pure 0
  | succ budget ih =>
    refine calm_read fun s => calm_ite ?_ (calm_ite ?_ ?_)
    · exact calm_bind (calm_change fun _ => rfl) fun _ =>
        calm_bind (calm_closeFor _) fun _ => calm_pure 1
    · exact calm_bind (calm_closeFor _) fun _ => calm_pure 1
    · refine calm_bind (calm_update fun s => by rw [popDue_frame]) fun due => ?_
      cases due with
      | none => exact calm_pure 0
      | some event =>
        refine calm_bind (calm_applyCore _) fun tr =>
          calm_bind (calm_interpret legible_unit tr) fun _ => ?_
        refine calm_read fun s => calm_ite (calm_pure 1) ?_
        exact calm_bind ih fun work => calm_pure _

lemma calm_deliver (frame : R) : Calm (deliver frame : Run B D C R Q W Unit) := by
  refine calm_read fun s => calm_ite (calm_closeFor _) ?_
  refine calm_bind (calm_update fun _ => rfl) fun key => ?_
  cases key with
  | none => exact calm_closeMalformed
  | some key =>
    refine calm_bind (calm_here
      (m := fun s => onCore (ConnectionCore.applyReply s.debug ⟨s.epoch, key, frame⟩))
      fun _ => calm_onCore _) fun tr => calm_interpret legible_reply tr

lemma calm_driveDecoderOnce : Calm (driveDecoderOnce : Run B D C R Q W Unit) := by
  refine calm_bind (calm_update fun _ => rfl) fun next => ?_
  rcases next with error | _ | frame
  · exact calm_bind (calm_change fun _ => rfl) fun _ => calm_closeDecodeError error
  · exact calm_bind (calm_change fun _ => rfl) fun _ => calm_read fun s =>
      calm_ite (calm_closeFor _) (calm_pure ())
  · exact calm_deliver frame

section
omit [InboundClassifier C R]

lemma calm_feedDecoder (read : ℕ) : Calm (feedDecoder read : Run B D C R Q W Unit) := by
  refine calm_bind (calm_update fun _ => rfl) fun fed => ?_
  rcases fed with error | _
  · exact calm_closeDecodeError error
  · exact calm_change fun _ => rfl

lemma calm_advanceCore (front : WriteSlice) (written : ℕ) :
    Calm (advanceCore front written : Run B D C R Q W Unit) :=
  calm_bind (calm_onCore _) fun tr => calm_interpret legible_unit tr

end

/-! ### The slot with its transport -/

omit [ByteBudget B] [Retained R] [InboundClassifier C R] [EventBatch Q] [TimerQueue W] in
/-- A look at the memory changes neither the phase of the slot nor its transport. -/
lemma capture_same [SlotTransport T] [SteadyTransport T] (x : ConnectionSlot B D C R Q W × T) :
    (captureTransportPressure x).2.1.transportState = x.1.transportState ∧
      (captureTransportPressure x).2.2 = x.2 := by
  refine ⟨by rw [capture_frame], ?_⟩
  rw [capture_run]
  have hlimit := SteadyTransport.pressureLimit_same x.2
  have hpressure := SteadyTransport.pressure_same x.2
  split
  · rw [hlimit, hpressure]
  · split <;> rw [hlimit, hpressure]

section
variable [SlotTransport T] [HonestTransport T] {α β : Type}

/-- While the slot is connecting, its transport is not open. -/
def Unopened (x : ConnectionSlot B D C R Q W × T) : Prop :=
  x.1.transportState = .connecting → (SlotTransport.isOpen x.2).1 = false

/-- A computation that goes on without complaint from an unopened transport. -/
def Fair (m : Driving B D C R Q W T α) : Prop :=
  Owner.Triple Unopened m (fun _ => Unopened) (fun error _ => error.sober = true)

section
omit [ByteBudget B] [Retained R] [InboundClassifier C R] [EventBatch Q] [TimerQueue W]
  [HonestTransport T]

lemma fair_pure (a : α) : Fair (pure a : Driving B D C R Q W T α) := .pure fun _ h => h

lemma fair_bind {m : Driving B D C R Q W T α} {f : α → Driving B D C R Q W T β} (hm : Fair m)
    (hf : ∀ a, Fair (f a)) :
    Fair (m >>= f) := Owner.Triple.bind hm hf

lemma fair_slot {f : ConnectionSlot B D C R Q W → Driving B D C R Q W T α} (hf : ∀ s, Fair (f s)) :
    Fair (slot >>= f) :=
  fun x hx => hf x.1 x hx

lemma fair_ite {c : Prop} [Decidable c] {m n : Driving B D C R Q W T α} (hm : Fair m)
    (hn : Fair n) :
    Fair (if c then m else n) := .ite (fun _ => hm) fun _ => hn

lemma fair_onFst {m : Run B D C R Q W α} (hm : Calm m) :
    Fair (Owner.onFst m : Driving B D C R Q W T α) := by
  intro x hx
  have hcalm := hm _ x.1 hx
  rw [Owner.onFst_run]
  rcases hrun : m x.1 with ⟨error | a, s⟩ <;> rw [hrun] at hcalm <;> exact hcalm

lemma fair_changeSlot {f : ConnectionSlot B D C R Q W → ConnectionSlot B D C R Q W}
    (h : ∀ s, (f s).transportState = s.transportState) :
    Fair (changeSlot f : Driving B D C R Q W T Unit) :=
  fair_onFst (calm_change h)

/-- A step of the transport that does not open it. -/
lemma fair_ask {f : T → α × T}
    (h : ∀ t, (SlotTransport.isOpen (f t).2).1 = (SlotTransport.isOpen t).1) :
    Fair (Owner.ask f : Driving B D C R Q W T α) :=
  fun x hx hconnecting => (h x.2).trans (hx hconnecting)

lemma fair_look {f : T → α × T} (h : ∀ t, (f t).2 = t) :
    Fair (Owner.ask f : Driving B D C R Q W T α) :=
  fair_ask fun t => by rw [h]

lemma fair_either {a b : Driving B D C R Q W T Bool} (ha : Fair a) (hb : Fair b) :
    Fair (Owner.either a b) :=
  fair_bind ha fun _ => fair_ite (fair_pure true) hb

lemma fair_both {a b : Driving B D C R Q W T Bool} (ha : Fair a) (hb : Fair b) :
    Fair (Owner.both a b) :=
  fair_bind ha fun _ => fair_ite hb (fair_pure false)

end

omit [HonestTransport T] [ByteBudget B] [Retained R] [InboundClassifier C R] [EventBatch Q]
  [TimerQueue W] in
lemma capture_sober {x : ConnectionSlot B D C R Q W × T} {error : EngineError}
    (h : (captureTransportPressure x).1 = .error error) : error.sober = true := by
  rw [capture_run] at h
  split at h
  · cases h
    rfl
  · split at h <;> cases h
    rfl

section
omit [ByteBudget B] [Retained R] [InboundClassifier C R] [EventBatch Q] [TimerQueue W]

lemma Unopened.capture {x : ConnectionSlot B D C R Q W × T} (h : Unopened x) :
    Unopened (captureTransportPressure x).2 := by
  obtain ⟨hstate, hsame⟩ := capture_same x
  intro hconnecting
  rw [hsame]
  exact h (hstate ▸ hconnecting)

lemma fair_capture : Fair (captureTransportPressure : Driving B D C R Q W T Unit) := by
  intro x hx
  have hafter := hx.capture
  rcases hrun : captureTransportPressure x with ⟨error | _, y⟩
  · exact capture_sober (congrArg Prod.fst hrun)
  · rw [hrun] at hafter
    exact hafter

end

omit [HonestTransport T] [InboundClassifier C R] in
/-- A failure recorded before a close. -/
lemma fair_lost (source : TransportDiagnostic) (reason : CloseReason) (work : ℕ) :
    Fair (do
      changeSlot (·.recordTransportFailure source)
      Owner.onFst (closeFor reason)
      pure (some work) : Driving B D C R Q W T (Option ℕ)) :=
  fair_bind (fair_changeSlot fun _ => rfl) fun _ =>
    fair_bind (fair_onFst (calm_closeFor _)) fun _ => fair_pure _

section
omit [InboundClassifier C R]

/-- Only a step of the establishment opens the transport, and the slot sees it at once. -/
lemma fair_establish : Fair (establish : Driving B D C R Q W T (Option ℕ)) := by
  intro x hx
  obtain ⟨s, t⟩ := x
  have hsame := SteadyTransport.canEstablish_same t
  unfold establish
  rw [slot_bind, Owner.ask_bind, hsame]
  by_cases hcan : (SlotTransport.canEstablish t).1 = true
  · rw [if_pos hcan, Owner.ask_bind]
    cases hdrive : (SlotTransport.driveEstablishment t s.socketPolicy s.transportBudget).1 with
    | error source =>
      have hopen := HonestTransport.failed_open t s.socketPolicy s.transportBudget source hdrive
      exact fair_lost source .connectFailed 1 (s, _) fun hconnecting => hopen.trans (hx hconnecting)
    | ok progress =>
      have hvalid :=
        (HonestTransport.establishes t s.socketPolicy s.transportBudget progress hcan
        hdrive).validated
      simp only [hvalid, Owner.settle_ok, Owner.pure_bind_run]
      generalize (SlotTransport.driveEstablishment t s.socketPolicy s.transportBudget).2 = t'
      rw [Owner.ask_bind, SteadyTransport.isOpen_same]
      by_cases hopen : (SlotTransport.isOpen t').1 = true
      · rw [if_pos hopen, changeSlot_bind]
        exact fair_bind (fair_onFst (calm_publish .transportOpened))
          (fun _ => fair_pure (some progress.operations)) _
          fun h => by cases h
      · rw [if_neg hopen]
        exact fun _ => Bool.eq_false_iff.mpr hopen
  · rw [if_neg hcan]
    exact hx

lemma fair_driveTransportWork : Fair (driveTransportWork : Driving B D C R Q W T (Option ℕ)) := by
  intro x hx
  obtain ⟨s, t⟩ := x
  have hsame := SteadyTransport.hasTransportWork_same t
  unfold driveTransportWork
  rw [slot_bind, Owner.ask_bind, hsame]
  by_cases hwork : (SlotTransport.hasTransportWork t).1 = true
  · have hafter : Unopened (s, (SlotTransport.driveTransport t s.transportBudget).2) :=
      fun hconnecting => (HonestTransport.drive_open t _).trans (hx hconnecting)
    rw [if_pos hwork, Owner.ask_bind]
    cases hdrive : (SlotTransport.driveTransport t s.transportBudget).1 with
    | error source => exact fair_lost source .transportLost 1 _ hafter
    | ok progress =>
      have hvalid := (HonestTransport.drives t s.transportBudget progress hwork hdrive).validated
      simp only [hvalid, Owner.settle_ok, Owner.pure_bind_run]
      exact hafter
  · rw [if_neg hwork]
    exact hx

lemma fair_driveTransportOnce (remaining : ℕ) :
    Fair (driveTransportOnce remaining : Driving B D C R Q W T (Option ℕ)) := by
  intro x hx
  unfold driveTransportOnce
  rw [slot_bind]
  by_cases hconnecting : x.1.isConnecting = true
  · have hopen := hx (of_decide_eq_true hconnecting)
    rw [if_pos hconnecting, Owner.ask_bind, SteadyTransport.isOpen_same, hopen]
    exact fair_ite (fair_pure none) fair_establish x hx
  · rw [if_neg hconnecting]
    exact fair_ite (fair_pure none) fair_driveTransportWork x hx

end

section
omit [ByteBudget B] [Retained R] [InboundClassifier C R] [EventBatch Q] [TimerQueue W]

lemma fair_readInto : Fair (readInto : Driving B D C R Q W T _) :=
  fun x hx hconnecting => (HonestTransport.read_open x.2 _).trans (hx hconnecting)

lemma fair_clearRead :
    Fair (Owner.ask fun t => ((), SlotTransport.clearRead t) : Driving B D C R Q W T Unit) :=
  fair_ask HonestTransport.clearRead_open

lemma fair_clearWrite :
    Fair (Owner.ask fun t => ((), SlotTransport.clearWrite t) : Driving B D C R Q W T Unit) :=
  fair_ask HonestTransport.clearWrite_open

end

omit [ByteBudget B] [Retained R] [InboundClassifier C R] [EventBatch Q] [TimerQueue W]
  [HonestTransport T] in
/-- The failure of a slot over a report that is too large is none of progress. -/
lemma fair_overread (capacity reported : ℕ) :
    Fair (Owner.fail (.invariant (.transportReadContract capacity reported)) :
      Driving B D C R Q W T Unit) :=
  .fail fun _ _ => rfl

section
omit [InboundClassifier C R]

lemma fair_driveReadOnce : Fair (driveReadOnce : Driving B D C R Q W T (Option ℕ)) := by
  refine fair_bind (fair_look SteadyTransport.canRead_same) fun can => fair_ite ?_ (fair_pure none)
  refine fair_slot fun s => fair_ite ?_ ?_
  · exact fair_bind (fair_onFst (calm_closeFor _)) fun _ => fair_pure _
  · refine fair_bind fair_readInto fun result => ?_
    rcases result with source | _ | read
    · refine fair_ite ?_ ?_
      · exact fair_bind fair_clearRead fun _ => fair_pure _
      · exact fair_lost (.fromIo .read source) .transportLost 1
    · exact fair_bind (fair_onFst (calm_closeFor _)) fun _ => fair_pure _
    · refine fair_ite ?_ ?_
      · exact fair_bind (fair_overread _ _) fun _ => fair_pure _
      · exact fair_bind (fair_onFst (calm_feedDecoder _)) fun _ => fair_pure _

lemma fair_writeFront (front : WriteSlice) :
    Fair (writeFront front : Driving B D C R Q W T Unit) := by
  refine fair_bind (fair_ask fun t => HonestTransport.write_open t _) fun result => ?_
  rcases result with source | _ | written
  · refine fair_ite fair_clearWrite ?_
    exact fair_bind (fair_changeSlot fun _ => rfl) fun _ => fair_onFst (calm_closeFor _)
  · exact fair_onFst (calm_closeFor _)
  · exact fair_onFst (calm_advanceCore front _)

lemma fair_driveWriteOnce : Fair (driveWriteOnce : Driving B D C R Q W T (Option ℕ)) := by
  refine fair_bind (fair_look SteadyTransport.isOpen_same) fun isOpen =>
    fair_ite ?_ (fair_pure none)
  refine fair_bind (fair_onFst
    (calm_here (m := fun s => onCore (ConnectionCore.frontWrite · OutboundFrame.view
    s.limits.ioChunkBytes)) fun _ => calm_onCore _)) fun offered => ?_
  cases offered with
  | none => exact fair_pure none
  | some front =>
    refine fair_ite ?_ ?_
    · exact fair_bind (fair_onFst (calm_advanceCore front 0)) fun _ => fair_pure _
    · refine fair_bind (fair_look SteadyTransport.canWrite_same) fun can =>
        fair_ite ?_ (fair_pure none)
      exact fair_bind (fair_writeFront front) fun _ => fair_pure _

end

lemma fair_driveClass (remaining : ℕ) (current : IoPreference) :
    Fair (driveClass remaining current : Driving B D C R Q W T (Option ℕ)) := by
  cases current with
  | transport => exact fair_driveTransportOnce remaining
  | decode =>
    exact fair_slot fun s =>
      fair_ite (fair_bind (fair_onFst calm_driveDecoderOnce) fun _ => fair_pure _) (fair_pure none)
  | read => exact fair_slot fun s => fair_ite fair_driveReadOnce (fair_pure none)
  | write => exact fair_slot fun s => fair_ite fair_driveWriteOnce (fair_pure none)

/-- A failure of a class is returned after one more look at the memory. -/
lemma fair_driveFrom (remaining classes : ℕ) (current : IoPreference) :
    Fair (driveFrom remaining classes current : Driving B D C R Q W T (Option ℕ)) := by
  induction classes generalizing current with
  | zero => exact fair_pure none
  | succ classes ih =>
    intro x hx
    have hclass := fair_driveClass remaining current x hx
    unfold driveFrom
    rw [Owner.attempt_bind, Owner.attempt_bind]
    rcases hrun : driveClass remaining current x with ⟨error | progressed, y⟩
    · rw [hrun] at hclass
      exact hclass
    · rw [hrun] at hclass
      have hafter : Unopened (captureTransportPressure y).2 := Unopened.capture hclass
      have hpressure : ∀ error, (captureTransportPressure y).1 = .error error →
          error.sober = true :=
        fun error => capture_sober
      simp only [Owner.settle_ok, Owner.pure_bind_run]
      have hsettle : Fair
          (Owner.settle (captureTransportPressure y).1 : Driving B D C R Q W T Unit) :=
        .settle (fun _ _ _ h => h) fun error herror _ _ => hpressure error herror
      cases progressed with
      | none => exact fair_bind hsettle (fun _ => ih current.next) _ hafter
      | some progressed =>
        have hdone : Fair (do
            changeSlot ({ · with ioPreference := current.next })
            pure (some progressed) : Driving B D C R Q W T (Option ℕ)) :=
          fair_bind (fair_changeSlot fun _ => rfl) fun _ => fair_pure _
        exact fair_bind hsettle (fun _ => hdone) _ hafter

omit [ByteBudget B] [Retained R] [InboundClassifier C R] [EventBatch Q] [TimerQueue W] in
lemma fair_hasRunnableIo : Fair (hasRunnableIo : Driving B D C R Q W T Bool) := by
  refine fair_slot fun s =>
    fair_either (fair_pure _) <| fair_either ?_ <| fair_either ?_ <| fair_either ?_ ?_
  · exact fair_both (fair_pure _) (fair_either (fair_look SteadyTransport.isOpen_same)
      (fair_look SteadyTransport.canEstablish_same))
  · exact fair_both (fair_pure _) (fair_look SteadyTransport.hasTransportWork_same)
  · exact fair_both (fair_pure _) (fair_look SteadyTransport.canRead_same)
  · exact fair_both (fair_pure _) <| fair_both (fair_look SteadyTransport.isOpen_same) <|
      fair_both (fair_pure _) <|
      fair_either (fair_pure _) (fair_look SteadyTransport.canWrite_same)

/-! ### The shutdown -/

section
omit [ByteBudget B] [Retained R] [InboundClassifier C R] [EventBatch Q] [TimerQueue W]

/-- A step of the shutdown by a method whose reports are valid here. -/
lemma shutdownStep_fair {reason : CloseReason} {deadline : Deadline}
    {drive : T → TransportBudget → Except TransportDiagnostic TransportProgress × T}
    {x : ConnectionSlot B D C R Q W × T}
    (hvalid : ∀ progress, (drive x.2 x.1.transportBudget).1 = .ok progress →
      progress.Valid x.1.transportBudget)
    (hopen : (SlotTransport.isOpen (drive x.2 x.1.transportBudget).2).1 =
      (SlotTransport.isOpen x.2).1) (hx : Unopened x) :
    Owner.Triple (fun y => y = x) (shutdownStep reason deadline drive) (fun _ => Unopened)
      (fun error _ => error.sober = true) := by
  rintro y rfl
  obtain ⟨s, t⟩ := y
  have hstep : Unopened (s, (drive t s.transportBudget).2) :=
    fun hconnecting => hopen.trans (hx hconnecting)
  have hafter := hstep.capture
  have hpressure : ∀ {error},
    (captureTransportPressure (s, (drive t s.transportBudget).2)).1 = .error error →
      error.sober = true := capture_sober
  rw [shutdownStep_run]
  generalize captureTransportPressure (s, (drive t s.transportBudget).2) =
    captured at hafter hpressure ⊢
  obtain ⟨pressure, s₁, t₁⟩ := captured
  cases hdrive : (drive t s.transportBudget).1 with
  | error source =>
    cases pressure with
    | error error => exact hpressure rfl
    | ok => exact hafter
  | ok progress =>
    cases pressure with
    | error error => exact hpressure rfl
    | ok =>
      simp only [(hvalid progress hdrive).validated, SteadyTransport.isShutdownComplete_same]
      exact hafter

lemma fair_driveStarted (reason : CloseReason) (deadline : Deadline) :
    Fair (driveStarted reason deadline : Driving B D C R Q W T (Option ℕ)) := by
  refine fair_bind (fair_look SteadyTransport.isShutdownComplete_same) fun complete =>
    fair_ite ?_ ?_
  · exact fair_bind (fair_changeSlot fun _ => rfl) fun _ => fair_pure none
  · intro x hx
    rw [Owner.ask_bind, SteadyTransport.hasTransportWork_same]
    by_cases hwork : (SlotTransport.hasTransportWork x.2).1 = true
    · rw [if_pos hwork]
      exact shutdownStep_fair (fun progress => HonestTransport.drives x.2 _ progress hwork)
        (HonestTransport.drive_open x.2 _) hx
        x rfl
    · rw [if_neg hwork]
      exact hx

lemma fair_driveShutdownOnce (now remaining : ℕ) :
    Fair (driveShutdownOnce now remaining : Driving B D C R Q W T (Option ℕ)) := by
  have htimedOut (reason : CloseReason) : Fair (do
      changeSlot (·.shutdownTimedOut reason)
      pure (some 1) : Driving B D C R Q W T (Option ℕ)) :=
    fair_bind (fair_changeSlot fun _ => rfl) fun _ => fair_pure _
  refine fair_slot fun s => ?_
  split
  · refine fair_ite (htimedOut _) (fair_ite (fair_pure none) fun x hx => ?_)
    exact shutdownStep_fair (fun progress => HonestTransport.begins x.2 _ progress)
      (HonestTransport.begin_open x.2 _) hx
      x rfl
  · exact fair_ite (htimedOut _) (fair_ite (fair_pure none) (fair_driveStarted _ _))
  · exact fair_pure none

lemma fair_hasRunnableShutdown (now : ℕ) :
    Fair (hasRunnableShutdown now : Driving B D C R Q W T Bool) := by
  refine fair_slot fun s => ?_
  split
  · exact fair_pure true
  · exact fair_either (fair_pure _) (fair_either (fair_look SteadyTransport.isShutdownComplete_same)
      (fair_look SteadyTransport.hasTransportWork_same))
  · exact fair_pure false

end

/-! ### The quantum -/

/-- The same of a slot that may have been given no transport, where `t` is the one it has. -/
def UnopenedAny (t : T) (x : ConnectionSlot B D C R Q W × Option T) : Prop :=
  x.1.transportState = .connecting → (SlotTransport.isOpen (x.2.getD t)).1 = false

def FairAny (m : Driving B D C R Q W (Option T) α) : Prop :=
  ∀ t : T, Owner.Triple (UnopenedAny t) m (fun _ => UnopenedAny t)
    (fun error _ => error.sober = true)

section
omit [ByteBudget B] [Retained R] [InboundClassifier C R] [EventBatch Q] [TimerQueue W]
  [HonestTransport T]

lemma fairAny_pure (a : α) : FairAny (pure a : Driving B D C R Q W (Option T) α) :=
  fun _ => .pure fun _ h => h

lemma fairAny_bind {m : Driving B D C R Q W (Option T) α} {f : α → Driving B D C R Q W (Option T) β}
    (hm : FairAny m) (hf : ∀ a, FairAny (f a)) : FairAny (m >>= f) :=
  fun t => .bind (hm t) fun a => hf a t

lemma fairAny_slot {f : ConnectionSlot B D C R Q W → Driving B D C R Q W (Option T) α}
    (hf : ∀ s, FairAny (f s)) :
    FairAny (slot >>= f) := fun t x hx => hf x.1 t x hx

lemma fairAny_ite {c : Prop} [Decidable c] {m n : Driving B D C R Q W (Option T) α} (hm : FairAny m)
    (hn : FairAny n) :
    FairAny (if c then m else n) := fun t => .ite (fun _ => hm t) fun _ => hn t

lemma fairAny_onFst {m : Run B D C R Q W α} (hm : Calm m) :
    FairAny (Owner.onFst m : Driving B D C R Q W (Option T) α) := by
  intro t x hx
  have hcalm := hm _ x.1 hx
  rw [Owner.onFst_run]
  rcases hrun : m x.1 with ⟨error | a, s⟩ <;> rw [hrun] at hcalm <;> exact hcalm

lemma fairAny_withTransport {absent : Run B D C R Q W α} {m : Driving B D C R Q W T α}
    (habsent : Calm absent) (hm : Fair m) :
    FairAny (withTransport absent m) := by
  intro t x hx
  obtain ⟨s, transport⟩ := x
  unfold withTransport
  cases transport with
  | none =>
    have hcalm := habsent _ s hx
    dsimp only
    rcases hrun : absent s with ⟨error | a, s'⟩ <;> rw [hrun] at hcalm <;> exact hcalm
  | some u =>
    have hfair := hm (s, u) hx
    dsimp only
    rcases hrun : m (s, u) with ⟨error | a, y⟩ <;> rw [hrun] at hfair <;> exact hfair

end

lemma calm_driveDecoderAlone : Calm (driveDecoderAlone : Run B D C R Q W (Option ℕ)) := by
  refine calm_read fun s => calm_ite ?_ (calm_pure none)
  exact calm_bind calm_driveDecoderOnce fun _ =>
    calm_bind (calm_change fun _ => rfl) fun _ => calm_pure _

lemma fairAny_ioLoop (budget turns work : ℕ) :
    FairAny (ioLoop budget turns work : Driving B D C R Q W (Option T) ℕ) := by
  induction turns generalizing work with
  | zero => exact fairAny_pure work
  | succ turns ih =>
    refine fairAny_slot fun s => fairAny_ite ?_ (fairAny_pure work)
    refine fairAny_bind (fairAny_withTransport calm_driveDecoderAlone
      (fair_slot fun s => fair_driveFrom _ 4 _)) fun progressed => ?_
    cases progressed with
    | none => exact fairAny_pure work
    | some progressed => exact ih _

omit [ByteBudget B] [Retained R] [InboundClassifier C R] [EventBatch Q] [TimerQueue W] in
lemma fairAny_runnable (pending : Bool) :
    FairAny (Owner.either (pure pending) (withTransport (pure false) hasRunnableIo) :
      Driving B D C R Q W (Option T) Bool) :=
  fairAny_bind (fairAny_pure pending) fun _ =>
    fairAny_ite (fairAny_pure true) (fairAny_withTransport (calm_pure false) fair_hasRunnableIo)

lemma fairAny_driveIo (budget : ℕ) :
    FairAny (driveIo budget : Driving B D C R Q W (Option T) SlotProgress) := by
  refine fairAny_bind (fairAny_ioLoop budget budget 0) fun work => fairAny_slot fun s =>
    fairAny_bind ?_ fun _ => fairAny_pure _
  exact fairAny_bind (fairAny_pure _) fun _ => fairAny_ite (fairAny_runnable _) (fairAny_pure false)

section
omit [ByteBudget B] [Retained R] [InboundClassifier C R] [EventBatch Q] [TimerQueue W]

lemma fairAny_closeLoop (now budget turns work : ℕ) :
    FairAny (closeLoop now budget turns work : Driving B D C R Q W (Option T) ℕ) := by
  induction turns generalizing work with
  | zero => exact fairAny_pure work
  | succ turns ih =>
    refine fairAny_ite ?_ (fairAny_pure work)
    refine fairAny_bind (fairAny_withTransport (calm_pure none) (fair_driveShutdownOnce now _))
      fun progressed => ?_
    cases progressed with
    | none => exact fairAny_pure work
    | some progressed => exact ih _

lemma fairAny_driveCloseQuantum (now budget work : ℕ) :
    FairAny (driveCloseQuantum now budget work : Driving B D C R Q W (Option T) SlotProgress) := by
  refine fairAny_bind (fairAny_closeLoop now budget _ work) fun work => fairAny_bind ?_ fun _ =>
    fairAny_pure _
  exact fairAny_bind (fairAny_pure _) fun _ =>
    fairAny_ite (fairAny_withTransport (calm_pure false) (fair_hasRunnableShutdown now))
      (fairAny_pure false)

end

omit [InboundClassifier C R] in
lemma calm_drivePending (now budget : ℕ) : Calm (drivePending now budget : Run B D C R Q W ℕ) := by
  intro X s hs
  unfold drivePending
  by_cases hnone : s.closeRequest = none
  · rw [if_pos hnone]
    exact calm_driveDeadlines now budget X s hs
  · rw [if_neg hnone]
    exact hs

/-- **A quantum does not complain of an honest transport**, and leaves it
unopened while it connects. -/
theorem fairAny_driveQuantumInner (now : ℕ) :
    FairAny (driveQuantumInner now : Driving B D C R Q W (Option T) SlotProgress) := by
  refine fairAny_bind (fairAny_withTransport (calm_pure ()) fair_capture) fun _ =>
    fairAny_slot fun s => ?_
  refine fairAny_bind (fairAny_onFst (calm_drivePending now _)) fun work => fairAny_slot fun s => ?_
  refine fairAny_ite (fairAny_driveCloseQuantum now _ _) (fairAny_ite ?_ ?_)
  · exact fairAny_bind (fairAny_runnable _) fun _ => fairAny_pure _
  · refine fairAny_bind (fairAny_driveIo _) fun io => fairAny_slot fun s => ?_
    exact fairAny_ite (fairAny_driveCloseQuantum now _ _) (fairAny_pure _)

end

/-! ### Calls -/

lemma EngineError.quiet {error : EngineError} (h : error.sober = true) :
    error.misreports = false := by
  cases error with
  | ownerFailed reason => rfl
  | _ => exact (Bool.not_eq_true' _).mp h

/-- A slot that is running and connecting now was so before. -/
def Stays (s s' : ConnectionSlot B D C R Q W) : Prop :=
  s'.state = .running → s'.transportState = .connecting → s.state = .running ∧
    s.transportState = .connecting

section
omit [ByteBudget B] [Retained R] [InboundClassifier C R] [EventBatch Q] [TimerQueue W]

lemma Stays.refl (s : ConnectionSlot B D C R Q W) : Stays s s :=
  fun hrunning hconnecting => ⟨hrunning, hconnecting⟩

lemma latchOwnerFailure_stopped (s : ConnectionSlot B D C R Q W) (reason : OwnerFailure) :
    (s.latchOwnerFailure reason).state ≠ .running := by
  intro h
  unfold latchOwnerFailure at h
  cases hstate : s.state with
  | running =>
    rw [hstate] at h
    cases h
  | failed reason' =>
    rw [hstate] at h
    exact absurd (hstate.symm.trans h) fun h => by cases h

lemma latchFailure_stopped (s : ConnectionSlot B D C R Q W) {error : EngineError}
    (h : error.sober = true) :
    (s.latchFailure error).state ≠ .running := by
  cases error with
  | ownerFailed reason => cases h
  | _ => exact latchOwnerFailure_stopped s _

lemma ensureRunning_run (s : ConnectionSlot B D C R Q W) :
    (s.state = .running ∧ ensureRunning s = (.ok (), s)) ∨
      ∃ reason, ensureRunning s = (.error (.ownerFailed reason), s) := by
  unfold ensureRunning
  cases s.state with
  | running => exact .inl ⟨rfl, rfl⟩
  | failed reason => exact .inr ⟨reason, rfl⟩

/-- A public method that works with the slot alone. -/
lemma guarded_stays {α : Type} {m : Run B D C R Q W α} (hm : Calm m)
    (s : ConnectionSlot B D C R Q W) :
    Stays s (guarded m s).2 ∧ ∀ error ∈ fault (guarded m s).1, error.misreports = false := by
  unfold guarded
  rcases ensureRunning_run s with ⟨hrunning, hensure⟩ | ⟨reason, hensure⟩
  · have hcalm := hm (s.transportState = .connecting) s fun h => h
    rw [Owner.bind_ok hensure]
    unfold latch
    rcases hrun : m s with ⟨error | a, s'⟩ <;> rw [hrun] at hcalm
    · refine ⟨fun h => absurd h (latchFailure_stopped s' hcalm), fun error' herror => ?_⟩
      cases herror
      exact EngineError.quiet hcalm
    · exact ⟨fun _ h => ⟨hrunning, hcalm h⟩, fun error herror => by cases herror⟩
  · rw [Owner.bind_error hensure]
    refine ⟨Stays.refl s, fun error herror => ?_⟩
    cases herror
    rfl

end

section
omit [InboundClassifier C R]

lemma calm_openAdmissionInner : Calm (openAdmissionInner : Run B D C R Q W InputDisposition) := by
  refine calm_read fun s => calm_ite (calm_pure _) (calm_bind (calm_applyCore _) fun tr => ?_)
  refine calm_bind (calm_interpret legible_unit tr) fun _ => ?_
  exact calm_ite (calm_bind (calm_publish _) fun _ => calm_pure _) (calm_pure _)

lemma calm_cancelInner (operation : OperationId) :
    Calm (cancelInner operation : Run B D C R Q W CancelOutcome) :=
  calm_read fun _ => calm_bind (calm_applyCore _) fun tr =>
    calm_bind (calm_interpret legible_unit tr) fun _ => calm_pure _

lemma calm_beginDrainInner (deadline : Deadline) :
    Calm (beginDrainInner deadline : Run B D C R Q W InputDisposition) := by
  refine calm_read fun s => calm_bind (calm_applyCore _) fun tr => ?_
  have hrest : Calm (do
      interpretUnit tr
      pure tr.disposition : Run B D C R Q W InputDisposition) :=
    calm_bind (calm_interpret legible_unit tr) fun _ => calm_pure _
  exact calm_ite (calm_bind (calm_change fun _ => rfl) fun _ => hrest) hrest

lemma calm_finalizeInner (reason : CloseReason) :
    Calm (finalizeInner reason : Run B D C R Q W InputDisposition) := by
  intro X s hs
  unfold finalizeInner
  cases hforce : s.forceShutdown with
  | some s' =>
    have hstate : s'.transportState = s.transportState := by
      unfold forceShutdown at hforce
      split at hforce <;> cases hforce <;> rfl
    exact fun h => hs (hstate ▸ h)
  | none =>
    exact calm_bind (calm_applyCore _)
      (fun tr => calm_bind (calm_interpret legible_unit tr) fun _ => calm_pure _) X s hs

lemma commit_stays (s : ConnectionSlot B D C R Q W) (permit : OperationPermit)
    (frame : OutboundFrame) :
    Stays s (s.commit permit frame).2 ∧
      ∀ operation error, (s.commit permit frame).1 =
        .error (.acceptedOwnerFailure operation error) → error.misreports = false := by
  unfold ConnectionSlot.commit
  cases hfailure : s.state.failure with
  | some reason => exact ⟨Stays.refl s, fun operation error h => by cases h⟩
  | none =>
    have hstate := failure_none_iff.mp hfailure
    dsimp only
    rcases s.core.commit s.debug permit frame OutboundFrame.view
      with ⟨error | ⟨operation, tr⟩, core⟩
    · dsimp only
      split
      · exact ⟨fun h =>
          absurd h (latchOwnerFailure_stopped _ _), fun operation error h => by cases h⟩
      · exact ⟨fun _ h => ⟨hstate, h⟩, fun operation error h => by cases h⟩
    · have hcalm :=
        calm_interpret legible_unit tr (s.transportState = .connecting) { s with core } fun h => h
      simp only [interpretUnit]
      rcases hrun : interpret unitOutcome tr { s with core } with ⟨source | _, s'⟩
      · simp only [hrun] at hcalm ⊢
        refine ⟨fun h => absurd h (latchFailure_stopped s' hcalm), fun operation' error h => ?_⟩
        cases h
        exact EngineError.quiet hcalm
      · simp only [hrun] at hcalm ⊢
        exact ⟨fun _ h => ⟨hstate, hcalm h⟩, fun operation error h => by cases h⟩

end

omit [Retained R] [InboundClassifier C R] [TimerQueue W] in
lemma reserve_stays (s : ConnectionSlot B D C R Q W) (now : ℕ) (options : OperationOptions) :
    Stays s (s.reserve now options).2 := by
  unfold ConnectionSlot.reserve
  cases hfailure : s.state.failure with
  | some reason => exact Stays.refl s
  | none =>
    have hstate := failure_none_iff.mp hfailure
    rw [if_neg (show ¬(none : Option OwnerFailure).isSome = true from Bool.false_ne_true)]
    rcases s.core.reserve s.debug now options with ⟨error | permit, core⟩
    · dsimp only
      by_cases hpoisoned : error = .ownerPoisoned
      · rw [if_pos hpoisoned]
        exact fun h => absurd h (latchOwnerFailure_stopped _ _)
      · rw [if_neg hpoisoned]
        exact fun _ h => ⟨hstate, h⟩
    · dsimp only
      split <;> exact fun _ h => ⟨hstate, h⟩

section
omit [InboundClassifier C R]

/-- A confirmed transport is closed. -/
lemma confirm_closed (reason : CloseReason) :
    Owner.Triple (fun _ => True) (confirmTransportClosed reason : Run B D C R Q W Unit)
      (fun _ s => s.transportState ≠ .connecting) (fun error _ => error.sober = true) := by
  have hcalm : Calm (do
      let s ← Owner.read
      let tr ← applyCore (.epochClosed s.epoch)
      interpretUnit tr
      publishClosed reason : Run B D C R Q W Unit) :=
    calm_read fun _ => calm_bind (calm_applyCore _) fun tr =>
      calm_bind (calm_interpret legible_unit tr) fun _ => calm_publish _
  exact .bind (.change fun s _ h => by cases h) fun _ => hcalm False

lemma settleCore_closed (s : ConnectionSlot B D C R Q W) (reason : CloseReason) :
    (s.settleCore reason).transportState ≠ .connecting := by
  have hconfirm := confirm_closed reason s trivial
  unfold settleCore
  rcases hrun : confirmTransportClosed reason s with ⟨error | _, s'⟩
  · exact fun h => by cases h
  · rw [hrun] at hconfirm
    exact hconfirm

lemma settle_stays (s : ConnectionSlot B D C R Q W) : Stays s s.settleTransportClosed.2 := by
  unfold settleTransportClosed takeCloseRequest
  by_cases hready : s.transportReleaseReady = true
  · rw [if_pos hready]
    cases s.closeRequest with
    | none => exact fun hrunning hconnecting => ⟨hrunning, hconnecting⟩
    | some directive =>
      cases directive with
      | abort => exact fun _ h => by cases h
      | core reason shutdown =>
        cases shutdown with
        | immediate => exact fun _ h => absurd h (settleCore_closed _ reason)
        | complete => exact fun _ h => absurd h (settleCore_closed _ reason)
        | pending deadline => exact fun hrunning hconnecting => ⟨hrunning, hconnecting⟩
        | started deadline => exact fun hrunning hconnecting => ⟨hrunning, hconnecting⟩
  · rw [if_neg hready]
    exact Stays.refl s

end

/-! ### Runs -/

section
variable [SlotTransport T]

/-- The calls of a run drive one transport: each quantum is given what the quantum before handed
back, after what the host did to it. -/
def Hosts (drift : T → T → Prop) : T → List (SlotEvent B D C R Q W T) → Prop
  | _, [] => True
  | t, ev :: rest =>
    (∀ t' ∈ ev.input.transport, drift t t') ∧
      Hosts drift (ev.output.transport.getD (ev.input.transport.getD t)) rest

/-- While a running slot is connecting, its transport is not open. -/
def Awaits (s : ConnectionSlot B D C R Q W) (t : T) : Prop :=
  s.state = .running → s.transportState = .connecting → (SlotTransport.isOpen t).1 = false

omit [ByteBudget B] [Retained R] [InboundClassifier C R] [EventBatch Q] [TimerQueue W] in
lemma Awaits.stays {s s' : ConnectionSlot B D C R Q W} {t : T} (h : Awaits s t) (hs : Stays s s') :
    Awaits s' t :=
  fun hrunning hconnecting => h (hs hrunning hconnecting).1 (hs hrunning hconnecting).2

variable [HonestTransport T]

lemma quantum_awaits {s : ConnectionSlot B D C R Q W} {transport : Option T} {t : T} (now : ℕ)
    (h : Awaits s (transport.getD t)) :
    Awaits (driveQuantum now (s, transport)).2.1 ((driveQuantum now (s, transport)).2.2.getD t) ∧
      ∀ error ∈ fault (driveQuantum now (s, transport)).1, error.misreports = false := by
  unfold driveQuantum
  rcases ensureRunning_run s with ⟨hrunning, hensure⟩ | ⟨reason, hensure⟩
  · have hfair := fairAny_driveQuantumInner now t (s, transport) (h hrunning)
    simp only [hensure]
    rcases hrun : driveQuantumInner now (s, transport) with ⟨error | progress, s', transport'⟩ <;>
      rw [hrun] at hfair
    · refine ⟨fun h => absurd h (latchFailure_stopped s' hfair), fun error' herror => ?_⟩
      cases herror
      exact EngineError.quiet hfair
    · exact ⟨fun _ => hfair, fun error herror => by cases herror⟩
  · simp only [hensure]
    refine ⟨h, fun error herror => ?_⟩
    cases herror
    rfl

omit [Retained R] [SlotTransport T] [HonestTransport T] in
/-- The error a response of a commit carries. -/
lemma committed_quiet {result : Except EngineCommitError OperationId}
    (h : ∀ operation error, result = .error (.acceptedOwnerFailure operation error) →
      error.misreports = false) :
    ∀ error ∈ (SlotResponse.committed result : SlotResponse R T).error,
      error.misreports = false := by
  intro error herror
  cases result with
  | ok operation => cases herror
  | error failure =>
    cases failure with
    | acceptedOwnerFailure operation source =>
      cases herror
      exact h operation error rfl
    | _ => cases herror

/-- **Every call keeps a slot and its transport in step**, without a complaint. -/
theorem step_awaits {s : ConnectionSlot B D C R Q W} {t : T} (permits : List OperationPermit)
    (call : SlotCall T) (h : Awaits s (call.transport.getD t)) :
    (∀ s' ∈ (SlotWorld.slotStep s permits call).1.slot,
        Awaits s' ((SlotWorld.slotStep s permits call).2.transport.getD (call.transport.getD t))) ∧
      ∀ error ∈ (SlotWorld.slotStep s permits call).2.error, error.misreports = false := by
  have hplain {s'' : ConnectionSlot B D C R Q W} (hs : Stays s s'') :
      ∀ s' ∈ some s'', Awaits s' (call.transport.getD t) := by
    rintro s' ⟨⟩
    exact h.stays hs
  have hquiet : ∀ error ∈ (none : Option EngineError), error.misreports = false :=
    fun error he => by cases he
  cases call with
  | reserve now options =>
    have hs := reserve_stays s now options
    rcases hrun : s.reserve now options with ⟨error | permit, s'⟩ <;> rw [hrun] at hs <;>
      simp only [SlotWorld.slotStep, hrun] <;> exact ⟨hplain hs, hquiet⟩
  | commit index frame =>
    simp only [SlotWorld.slotStep]
    cases permits[index]? with
    | none => exact ⟨hplain (Stays.refl s), hquiet⟩
    | some permit =>
      exact ⟨hplain (commit_stays s permit frame).1,
        committed_quiet (commit_stays s permit frame).2⟩
  | commitForeign permit frame =>
    simp only [SlotWorld.slotStep]
    split
    · exact ⟨hplain (Stays.refl s), hquiet⟩
    · exact ⟨hplain (commit_stays s permit frame).1,
        committed_quiet (commit_stays s permit frame).2⟩
  | dropPermit index =>
    simp only [SlotWorld.slotStep]
    cases permits[index]? with
    | none => exact ⟨hplain (Stays.refl s), hquiet⟩
    | some permit => exact ⟨hplain fun hrunning hconnecting => ⟨hrunning, hconnecting⟩, hquiet⟩
  | openAdmission =>
    exact ⟨hplain (guarded_stays calm_openAdmissionInner s).1,
      (guarded_stays calm_openAdmissionInner s).2⟩
  | cancel operation =>
    exact ⟨hplain (guarded_stays (calm_cancelInner operation) s).1,
      (guarded_stays (calm_cancelInner operation) s).2⟩
  | beginDrain deadline =>
    exact ⟨hplain (guarded_stays (calm_beginDrainInner deadline) s).1,
      (guarded_stays (calm_beginDrainInner deadline) s).2⟩
  | finalize reason =>
    exact ⟨hplain (guarded_stays (calm_finalizeInner reason) s).1,
      (guarded_stays (calm_finalizeInner reason) s).2⟩
  | driveQuantum now transport =>
    have hgiven : Awaits s (transport.getD (transport.getD t)) := by cases transport <;> exact h
    have hquantum := quantum_awaits now hgiven
    refine ⟨?_, hquantum.2⟩
    rintro s' ⟨⟩
    exact hquantum.1
  | drainOutcomes => exact ⟨hplain fun hrunning hconnecting => ⟨hrunning, hconnecting⟩, hquiet⟩
  | drainEvents => exact ⟨hplain fun hrunning hconnecting => ⟨hrunning, hconnecting⟩, hquiet⟩
  | settleTransportClosed => exact ⟨hplain (settle_stays s), hquiet⟩
  | recover reason => exact ⟨fun s' hs => (by cases hs), hquiet⟩

/-- **A slot that drives one honest transport never complains of its progress.** -/
theorem honest_run {drift : T → T → Prop}
    (hdrift : ∀ t t', drift t t' → (SlotTransport.isOpen t').1 = (SlotTransport.isOpen t).1)
    {w : SlotWorld B D C R Q W} {t : T} (h : ∀ s ∈ w.slot, Awaits s t) (calls : List (SlotCall T))
    (hhosts : Hosts drift t (Transducer.history SlotWorld.step w calls)) :
    ∀ ev ∈ Transducer.history SlotWorld.step w calls, ∀ error ∈ ev.output.error,
      error.misreports = false := by
  induction calls generalizing w t with
  | nil => exact fun ev hev => by cases hev
  | cons call calls ih =>
    have hcall : (∀ s ∈ (SlotWorld.step w call).1.slot,
      Awaits s ((SlotWorld.step w call).2.transport.getD (call.transport.getD t))) ∧
        ∀ error ∈ (SlotWorld.step w call).2.error, error.misreports = false := by
      unfold SlotWorld.step
      cases hslot : w.slot with
      | none =>
        dsimp only
        split
        · exact ⟨fun s hs => (by cases hs), fun error he => by cases he⟩
        · exact ⟨fun s hs => (by rw [hslot] at hs; cases hs), fun error he => by cases he⟩
      | some s =>
        have hs := h s hslot
        refine step_awaits w.permits call fun hrunning hconnecting => ?_
        cases htransport : call.transport with
        | none => exact hs hrunning hconnecting
        | some t' => exact (hdrift t t' (hhosts.1 t' htransport)).trans (hs hrunning hconnecting)
    intro ev hev
    rcases List.mem_cons.mp hev with rfl | hlater
    · exact hcall.2
    · exact ih hcall.1 hhosts.2 ev hlater

end
end Bornera.Slot
