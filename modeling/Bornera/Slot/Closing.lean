import Bornera.Core.Lifecycle
import Bornera.Slot.Steps

/-!
# The phases of a slot

A running slot and its core close together: the slot has no close request while the core is live,
one with the core's reason while the core is closing, and none once the transport is closed. A
failed slot can only abort. `Phased` says so, and every call keeps it.
-/

namespace Bornera.Slot

open Bornera.Core Bornera.Core.Epoch Lib ConnectionSlot

variable {B D C R E T : Type} {Q W : Type → Type} [ByteBudget B] [FrameDecoder D R E] [Retained R]
  [InboundClassifier C R] [EventBatch Q] [TimerQueue W] [SlotTransport T]

variable {s s' : ConnectionSlot B D C R Q W} {e e' : Epoch OutboundFrame}

/-! ### The close of an interpretation -/

omit [ByteBudget B] [InboundClassifier C R] in
/-- The interpretation of effects finds the reason of the last `CloseEpoch`. -/
lemma interpretEffects_reason {X : Type}
    (outcomeOf : OperationOutcome X → Except EngineInvariant (OperationOutcome R))
    (effects : List (ConnectionEffect X)) (reason : Option CloseReason)
    (failure : Option EngineError) (s : ConnectionSlot B D C R Q W) :
    (interpretEffects outcomeOf effects reason failure s).1 =
      (closings effects).getLast?.or reason := by
  induction effects generalizing reason failure s with
  | nil => rfl
  | cons effect effects ih =>
    have hrun : (interpretEffects outcomeOf (effect :: effects) reason failure s).1 =
        (closings effects).getLast?.or (closeReasonOf reason effect) := ih _ _ _
    rw [hrun]
    cases effect with
    | closeEpoch epoch reason' =>
      have hcons : closings (.closeEpoch epoch reason' :: effects : List (ConnectionEffect X)) =
        reason' :: closings effects := rfl
      rw [hcons, List.getLast?_cons]
      cases (closings effects).getLast? <;> simp [closeReasonOf]
    | _ => rfl

/-- The shutdown a close begins with; without a deadline it is immediate. -/
def ConnectionSlot.shutdownOf (s : ConnectionSlot B D C R Q W) (reason : CloseReason) :
    ShutdownState :=
  match s.shutdownFor reason with
  | .ok shutdown => shutdown
  | .error _ => .immediate

/-- The slot after the event of a close. -/
def ConnectionSlot.closedBy (s : ConnectionSlot B D C R Q W) (reason : CloseReason) :
    ConnectionSlot B D C R Q W :=
  { (publishClosing reason s).2 with
    drainDeadline := none
    transportState := .closing
    closeRequest := some (.core reason (s.shutdownOf reason)) }

omit [ByteBudget B] [Retained R] [InboundClassifier C R] [TimerQueue W] in
lemma shutdownFor_publish (event : ℕ → ConnectionEpoch → ConnectionEvent) (reason : CloseReason)
    (s : ConnectionSlot B D C R Q W) :
    (publishNext event s).2.shutdownFor reason = s.shutdownFor reason := by
  rw [publishNext_frame]
  rfl

omit [ByteBudget B] [InboundClassifier C R] in
/-- Effects without a `CloseEpoch` change books only. -/
lemma interpret_open {X : Type}
    {outcomeOf : OperationOutcome X → Except EngineInvariant (OperationOutcome R)}
    {tr : ConnectionTransition X} (h : closings tr.effects = []) (s : ConnectionSlot B D C R Q W) :
    Booked s (interpret outcomeOf tr s).2 := by
  have hbooked := booked_effects outcomeOf tr.effects none none s
  rw [interpret_slot, interpretEffects_reason, h]
  exact hbooked

lemma retainFirst_none {failure : Option EngineError} {r : Except EngineError Unit} :
    retainFirst failure r = none ↔ failure = none ∧ r = .ok () := by
  cases r <;> cases failure <;> simp [retainFirst]

omit [ByteBudget B] [Retained R] [InboundClassifier C R] [TimerQueue W] in
/-- A close without a failure had none before it, published its event, and found its shutdown. -/
lemma finishClose_unfailed {reason : CloseReason} {failure : Option EngineError}
    (hnone : s.closeRequest = none) (h : (finishClose (some reason) failure s).1 = none) :
    failure = none ∧ (publishClosing reason s).1 = .ok () ∧
      ∃ shutdown, s.shutdownFor reason = .ok shutdown := by
  have hshutdown : (publishClosing reason s).2.shutdownFor reason = s.shutdownFor reason :=
    shutdownFor_publish _ _ _
  simp only [finishClose, hnone, hshutdown] at h
  cases hfor : s.shutdownFor reason with
  | error error =>
    rw [hfor] at h
    have hfirst : retainFirst (retainFirst failure (publishClosing reason s).1)
      (.error error) = none := h
    cases (retainFirst_none.mp hfirst).2
  | ok shutdown =>
    rw [hfor] at h
    obtain ⟨hfailure, hpublished⟩ := retainFirst_none.mp h
    exact ⟨hfailure, hpublished, shutdown, rfl⟩

section
omit [ByteBudget B] [InboundClassifier C R]

/-- An interpretation that succeeds met no failure. -/
lemma interpret_unfailed {X : Type}
    {outcomeOf : OperationOutcome X → Except EngineInvariant (OperationOutcome R)}
    {tr : ConnectionTransition X} (h : (interpret outcomeOf tr s).1 = .ok ()) :
    (finishClose (interpretEffects outcomeOf tr.effects none none s).1
      (interpretEffects outcomeOf tr.effects none none s).2.1
      (interpretEffects outcomeOf tr.effects none none s).2.2).1 = none := by
  simp only [ConnectionSlot.interpret] at h
  split at h
  · next hfinish => rw [hfinish]
  · cases h

/-- A `CloseEpoch` closes a slot that has no close request; without a failure, its event is
published and its shutdown found. -/
lemma interpret_close {X : Type}
    (outcomeOf : OperationOutcome X → Except EngineInvariant (OperationOutcome R))
    {tr : ConnectionTransition X} {reason : CloseReason} (h : closings tr.effects = [reason])
    (hnone : s.closeRequest = none) :
    ∃ s₁, Booked s s₁ ∧ (interpret outcomeOf tr s).2 = s₁.closedBy reason ∧
      ((interpret outcomeOf tr s).1 = .ok () → (publishClosing reason s₁).1 = .ok () ∧
        ∃ shutdown, s₁.shutdownFor reason = .ok shutdown) := by
  have hbooked := booked_effects outcomeOf tr.effects none none s
  have hreason : (interpretEffects outcomeOf tr.effects none none s).1 = some reason := by
    rw [interpretEffects_reason, h]
    rfl
  refine ⟨_, hbooked, ?_, fun hok => ?_⟩
  · rw [interpret_slot, hreason]
    generalize (interpretEffects outcomeOf tr.effects none none s).2.1 = failure
    generalize (interpretEffects outcomeOf tr.effects none none s).2.2 = s₁ at hbooked ⊢
    have hnone' : s₁.closeRequest = none := by
      rw [hbooked]
      exact hnone
    simp only [finishClose, hnone', publishClosing, shutdownFor_publish, closedBy, shutdownOf]
    cases s₁.shutdownFor reason <;> rfl
  · have hunfailed := interpret_unfailed hok
    rw [hreason] at hunfailed
    exact (finishClose_unfailed (by rw [hbooked]; exact hnone) hunfailed).2

end

/-! ### Phases -/

/-- What a running slot and its core have to do with each other, by the phase of the core. -/
def InPhase (s : ConnectionSlot B D C R Q W) (e : Epoch OutboundFrame) : ConnectionPhase → Prop
  | .live => s.closeRequest = none ∧ (s.transportState = .connecting ∨ s.transportState = .opened)
  | .closing => s.transportState = .closing ∧ s.drainDeadline = none ∧
    ∃ reason shutdown, s.closeRequest = some (.core reason shutdown) ∧ e.closeReason = some reason
  | .closed => s.closeRequest = none ∧ s.transportState = .closed ∧ s.drainDeadline = none

/-- A running slot is in the phase of its healthy core, and a failed one can only abort. -/
structure Phased (s : ConnectionSlot B D C R Q W) (e : Epoch OutboundFrame) : Prop where
  running : s.state = .running → e.poisoned = none ∧ InPhase s e e.phase
  failed : s.state ≠ .running → s.closeRequest = none ∨ s.closeRequest = some .abort

section
omit [ByteBudget B] [Retained R] [InboundClassifier C R] [EventBatch Q] [TimerQueue W]

/-- What a phase asks of a slot is kept with the reason of its request. -/
lemma InPhase.congr {phase : ConnectionPhase} (h : InPhase s e phase)
    (hstate : s'.transportState = s.transportState)
    (hdrain : phase ≠ .live → s'.drainDeadline = none)
    (hrequest : s'.closeRequest.map CloseDirective.reason =
      s.closeRequest.map CloseDirective.reason)
    (hreason : e'.closeReason = e.closeReason) : InPhase s' e' phase := by
  cases phase with
  | live =>
    obtain ⟨hnone, hopen⟩ := h
    rw [hnone, Option.map_none, Option.map_eq_none_iff] at hrequest
    exact ⟨hrequest, by rw [hstate]; exact hopen⟩
  | closing =>
    obtain ⟨hclosing, _, reason, shutdown, hcore, hclose⟩ := h
    rw [hcore, Option.map_some, Option.map_eq_some_iff] at hrequest
    obtain ⟨directive, hdirective, hsame⟩ := hrequest
    cases directive with
    | abort => cases hsame
    | core reason' shutdown' =>
      cases hsame
      exact ⟨hstate.trans hclosing, hdrain (by simp), _, _, hdirective, hreason.trans hclose⟩
  | closed =>
    obtain ⟨hnone, hclosed, _⟩ := h
    rw [hnone, Option.map_none, Option.map_eq_none_iff] at hrequest
    exact ⟨hrequest, hstate.trans hclosed, hdrain (by simp)⟩

lemma InPhase.undrained {phase : ConnectionPhase} (h : InPhase s e phase) (hphase : phase ≠ .live) :
    s.drainDeadline = none := by
  cases phase with
  | live => exact absurd rfl hphase
  | closing => exact h.2.1
  | closed => exact h.2.2

/-- A slot without a close request on a transport that is not closed yet has a live core. -/
lemma InPhase.live_of {phase : ConnectionPhase} (h : InPhase s e phase)
    (hnone : s.closeRequest = none) (hstate : s.transportState ≠ .closed) : phase = .live := by
  cases phase with
  | live => rfl
  | closing =>
    obtain ⟨_, _, _, _, hsome, _⟩ := h
    rw [hnone] at hsome
    cases hsome
  | closed => exact absurd h.2.1 hstate

/-- A slot with a close of the core has a closing core. -/
lemma InPhase.closing_of {phase : ConnectionPhase} {reason : CloseReason} {shutdown : ShutdownState}
    (h : InPhase s e phase) (hcore : s.closeRequest = some (.core reason shutdown)) :
    phase = .closing ∧ s.drainDeadline = none ∧ e.closeReason = some reason := by
  cases phase with
  | live => rw [h.1] at hcore; cases hcore
  | closing =>
    obtain ⟨_, hdrain, _, _, hsome, hreason⟩ := h
    rw [hsome] at hcore
    cases hcore
    exact ⟨rfl, hdrain, hreason⟩
  | closed => rw [h.1] at hcore; cases hcore

end

omit [ByteBudget B] [InboundClassifier C R] in
/-- A transition that closes an epoch closes its slot, and any other keeps it in its phase. -/
lemma InPhase.interpret {X : Type}
    {outcomeOf : OperationOutcome X → Except EngineInvariant (OperationOutcome R)}
    {tr : ConnectionTransition X} (h : InPhase s e e.phase)
    (hcloses : closings tr.effects = [] ∧ e'.phase = e.phase ∧ e'.closeReason = e.closeReason ∨
      ∃ reason, closings tr.effects = [reason] ∧ e.phase = .live ∧ e'.phase = .closing ∧
        e'.closeReason = some reason) :
    InPhase (ConnectionSlot.interpret outcomeOf tr s).2 e' e'.phase := by
  rcases hcloses with ⟨hnone, hphase, hreason⟩ | ⟨reason, hone, hlive, hclosing, hreason⟩
  · have hbooked : Booked s (ConnectionSlot.interpret outcomeOf tr s).2 := interpret_open hnone s
    rw [hphase]
    refine h.congr ?_ (fun hl => ?_) ?_ hreason
    · rw [hbooked]
    · rw [hbooked]
      exact h.undrained hl
    · rw [hbooked]
  · rw [hlive] at h
    obtain ⟨s₁, _, hclosed, _⟩ := interpret_close outcomeOf hone h.1
    rw [hclosing, hclosed]
    exact ⟨rfl, rfl, reason, s₁.shutdownOf reason, rfl, hreason⟩

variable {permits : List OperationPermit} {cause : SlotCall T}

omit [ByteBudget B] [EventBatch Q] in
/-- No occasion confirms the close of an epoch. -/
lemma Occasion.unconfirming {t t' : Option T} {call : Call OutboundFrame Unit}
    {tr : Option (ConnectionTransition Unit)}
    {f : ConnectionSlot B D C R Q W → ConnectionSlot B D C R Q W}
    (h : Occasion cause s t call tr f t')
    (epoch : ConnectionEpoch) : call ≠ .apply (.epochClosed epoch) := by
  rintro rfl
  generalize hcall : Call.apply (.epochClosed epoch) = call at h
  cases h with
  | @undecodable _ error => cases error <;> cases hcall
  | @unfed _ _ error => cases error <;> cases hcall
  | _ => cases hcall

/-- A drain is applied to a live epoch only. -/
lemma beginDrain_live {epoch : ConnectionEpoch} {tr : ConnectionTransition Unit}
    (h : Step e (.apply (.beginDrain epoch)) (.transition (.ok tr)) e')
    (happlied : tr.disposition = .applied) :
    e.phase = .live := by
  cases h with
  | ignored _ _ nothing _ =>
    rw [happlied] at nothing
    exact nothing.elim
  | removed _ _ _ _ removes => cases removes
  | closed _ live => exact live
  | draining _ live => exact live

section
omit [ByteBudget B] [EventBatch Q]

/-- Only a live epoch is given a drain deadline. -/
lemma Occasion.undrained {t t' : Option T} {call : Call OutboundFrame Unit}
    {tr : ConnectionTransition Unit} {f : ConnectionSlot B D C R Q W → ConnectionSlot B D C R Q W}
    (h : Occasion cause s t call (some tr) f t') (hstep : Step e call (.transition (.ok tr)) e')
    (hphase : e.phase ≠ .live) (hnone : s'.drainDeadline = none) :
    (f s').drainDeadline = none := by
  cases h with
  | drained =>
    by_cases happlied : tr.disposition = .applied
    · exact absurd (beginDrain_live hstep happlied) hphase
    · simpa [happlied] using hnone
  | elapsed =>
    dsimp only
    rw [popDue_frame]
    exact hnone
  | drainExpired => rfl
  | _ => exact hnone

/-- What an occasion changes around a call keeps the slot in its phase. -/
lemma Occasion.inPhase {t t' : Option T} {call : Call OutboundFrame Unit}
    {tr : ConnectionTransition Unit} {f : ConnectionSlot B D C R Q W → ConnectionSlot B D C R Q W}
    {core : ConnectionCore B OutboundFrame} (h : Occasion cause s t call (some tr) f t')
    (hstep : Step e call (.transition (.ok tr)) e')
    (hphase : InPhase s e e.phase) : InPhase (f { s with core }) e e.phase := by
  refine hphase.congr ?_ (fun hl => h.undrained hstep hl (hphase.undrained hl)) ?_ rfl
  · rw [h.frame]
  · rw [h.frame]

end

/-- **Moves keep a slot in the phase of its core**, as long as nothing fails. -/
theorem Move.inPhase {a b : Scene B D C R Q W T} (h : Move permits cause a b)
    (ha : Owns permits a.slot a.epoch)
    (hi : a.fault = none → a.epoch.poisoned = none ∧ InPhase a.slot a.epoch a.epoch.phase)
    (hb : b.fault = none) :
    b.epoch.poisoned = none ∧ InPhase b.slot b.epoch b.epoch.phase := by
  cases h using Move.casesAside with
  | exchange occasion step holds =>
    exact ⟨step.healthy.2,
      (occasion.inPhase step (hi rfl).2).interpret
        (step.closes ha.wf fun epoch => occasion.unconfirming epoch)⟩
  | refused => cases hb
  | replied next small keyed step holds =>
    exact ⟨step.healthy.2, InPhase.interpret
      (InPhase.congr (hi rfl).2 rfl (hi rfl).2.undrained rfl rfl)
      (step.closes ha.wf fun epoch => by simp)⟩
  | replyRefused => cases hb
  | fronted => cases hb
  | admitted opened applied step holds =>
    refine ⟨step.healthy.2, ?_⟩
    have hphase := step.closes ha.wf fun epoch => by simp
    rw [openAdmission_effects step] at hphase
    rcases hphase with ⟨_, hphase, hreason⟩ | ⟨reason, hone, _⟩
    · rw [hphase, publishAdmissionOpened, publishNext_frame]
      exact InPhase.congr (hi rfl).2 rfl (hi rfl).2.undrained rfl hreason
    · cases hone
  | opened s t e connecting pending open_ =>
    refine ⟨(hi rfl).1, ?_⟩
    have hlive : e.phase = .live := (hi rfl).2.live_of pending (by rw [connecting]; simp)
    simp only [hlive]
    rw [publishTransportOpened, publishNext_frame]
    exact ⟨pending, .inr rfl⟩
  | quiet s t e undue =>
    refine ⟨(hi rfl).1, ?_⟩
    dsimp only
    rw [popDue_frame]
    exact InPhase.congr (hi rfl).2 rfl (hi rfl).2.undrained rfl rfl
  | @aside a b h beside =>
    obtain ⟨hhealthy, hphase⟩ := hi (beside.healthy hb)
    rw [beside.epoch]
    refine ⟨hhealthy, hphase.congr ?_ (fun hl => ?_) beside.request rfl⟩
    · rw [beside.slot]
    · rw [beside.slot]
      exact hphase.undrained hl

/-! ### Runs -/

section
omit [ByteBudget B] [Retained R] [InboundClassifier C R] [EventBatch Q] [TimerQueue W]

lemma latchOwnerFailure_running (hrunning : s.state = .running) (reason : OwnerFailure) :
    s.latchOwnerFailure reason =
      { s with state := .failed reason, drainDeadline := none, closeRequest := some .abort } := by
  simp [latchOwnerFailure, hrunning, EngineState.failure]

/-- A running slot that ended in its phase, or with a failure that is latched, is phased. -/
lemma Phased.latched {flt : Option EngineError} (hrunning : s.state = .running)
    (h : flt = none → e.poisoned = none ∧ InPhase s e e.phase)
    (hl : Latched s flt s') : Phased s' e := by
  cases hl with
  | running => exact ⟨fun _ => h rfl, fun hfailed => absurd hrunning hfailed⟩
  | failed error =>
    refine ⟨fun hstate => absurd hstate (latchOwnerFailure_state s _), fun _ => .inr ?_⟩
    rw [latchOwnerFailure_running hrunning]

/-- A slot that has aborted is phased. -/
lemma Phased.aborted (hfailed : s.state ≠ .running) : Phased s.abortTransport e :=
  ⟨fun hrunning => absurd hrunning hfailed, fun _ => .inl rfl⟩

/-- A slot that closes its core is running. -/
lemma Phased.of_core (h : Phased s e) {reason : CloseReason} {shutdown : ShutdownState}
    (hcore : s.closeRequest = some (.core reason shutdown)) :
    s.state = .running ∧ e.poisoned = none ∧ e.phase = .closing ∧ s.drainDeadline = none ∧
      e.closeReason = some reason := by
  have hrunning : s.state = .running := by
    by_contra hfailed
    rcases h.failed hfailed with hnone | habort
    · rw [hnone] at hcore
      cases hcore
    · rw [habort] at hcore
      cases hcore
  obtain ⟨hhealthy, hphase⟩ := h.running hrunning
  exact ⟨hrunning, hhealthy, hphase.closing_of hcore⟩

end

/-- What the confirmation of a close does to a closing epoch. -/
lemma epochClosed_closed {tr : ConnectionTransition Unit} (hphase : e.phase = .closing)
    (h : Step e (.apply (.epochClosed e.epoch)) (.transition (.ok tr)) e') :
    e' = { e with phase := .closed, gate := .closed } := by
  cases h with
  | ignored ignores _ _ _ =>
    cases ignores with
    | stale other => exact absurd rfl other
    | input deaf => exact absurd hphase deaf
  | removed _ _ _ _ removes => cases removes
  | closed _ _ closes => cases closes
  | confirmed => rfl

omit [Retained R] [InboundClassifier C R] [EventBatch Q] [TimerQueue W] in
lemma Owns.epoch_eq (h : Owns permits s e) : s.epoch = e.epoch := h.core.policy.epoch

/-- **Every call keeps a slot in its phase.** -/
theorem Phased.step (h : Phased s e) (howns : Owns permits s e) {call : SlotCall T}
    {r : SlotResponse R T} {permits' : List OperationPermit}
    (hstep : SlotStep s e permits call r (some s') e' permits') : Phased s' e' := by
  cases hstep using SlotStep.casesPlain with
  | plain hstep plain =>
    rcases plain.slot with hslot | ⟨hrunning, hsick, _⟩
    · rw [plain.epoch, hslot]
      exact ⟨fun hrunning => ⟨(h.running hrunning).1,
        InPhase.congr (h.running hrunning).2 rfl (h.running hrunning).2.undrained
          rfl rfl⟩, h.failed⟩
    · exact absurd (h.running hrunning).1 hsick
  | drove running guards path latched =>
    have hpath :=
      Path.keeps (I := fun a =>
      a.fault = none → a.epoch.poisoned = none ∧ InPhase a.slot a.epoch a.epoch.phase)
      path howns (fun _ => h.running running) fun a b hmove ha hi => hmove.inPhase ha hi
    exact Phased.latched ((path.owns howns).1.state.trans running) hpath latched
  | @committed s s' e e' permits index frame operation tr core running step latched =>
    have hrunning : (interpretUnit tr { s with core }).2.state = .running :=
      (interpret_state ..).trans running
    refine Phased.latched hrunning (fun _ => ?_) latched
    obtain ⟨hhealthy, hphase⟩ := h.running running
    have hsame : InPhase { s with core } e e.phase := hphase.congr rfl hphase.undrained rfl rfl
    cases step with
    | committed => exact ⟨hhealthy, hsame.interpret (.inl ⟨rfl, rfl, rfl⟩)⟩
  | aborted e permits request =>
    refine Phased.aborted fun hrunning => ?_
    have hphase := (h.running hrunning).2
    cases hp : e.phase <;> rw [hp] at hphase <;> simp [InPhase, request] at hphase
  | confirmed request ready step published =>
    obtain ⟨hrunning, hhealthy, hphase, hdrain, hreason⟩ := h.of_core request
    rw [howns.epoch_eq] at step
    rw [epochClosed_closed hphase step, publishClosed, publishNext_frame]
    exact ⟨fun _ => ⟨hhealthy, rfl, rfl, hdrain⟩, fun hfailed => absurd hrunning hfailed⟩
  | unpublished request ready step published => exact Phased.aborted (latchOwnerFailure_state _ _)
  | unconfirmed request ready step => exact Phased.aborted (latchOwnerFailure_state _ _)

omit [Retained R] [InboundClassifier C R] in
lemma Phased.new (setup : SlotSetup D C R E) :
    Phased (setup.slot : ConnectionSlot B D C R Q W)
      (Epoch.new setup.config.ledgerId setup.config.epoch ⟨0, 0⟩) :=
  ⟨fun _ => ⟨rfl, rfl, .inl rfl⟩, fun hfailed => absurd rfl hfailed⟩

/-! ### One epoch -/

/-- A move stays in its epoch. -/
lemma Move.epoch_eq {a b : Scene B D C R Q W T} (h : Move permits cause a b) :
    b.epoch.epoch = a.epoch.epoch := by
  cases h using Move.casesAside with
  | exchange occasion step holds => exact step.epoch_eq
  | refused occasion step holds => exact step.epoch_eq
  | replied next small keyed step holds => exact step.epoch_eq
  | replyRefused next small keyed step holds => exact step.epoch_eq
  | fronted step holds => exact step.epoch_eq
  | admitted opened applied step holds => exact step.epoch_eq
  | opened => rfl
  | quiet => rfl
  | aside h beside => rw [beside.epoch]

/-- A call stays in its epoch. -/
lemma SlotStep.epoch_eq {call : SlotCall T} {r : SlotResponse R T} {permits' : List OperationPermit}
    (h : SlotStep s e permits call r (some s') e' permits')
    (howns : Owns permits s e) : e'.epoch = e.epoch := by
  cases h using SlotStep.casesPlain with
  | plain _ plain => rw [plain.epoch]
  | @drove s s₁ s' e e' permits call r flt running guards path latched =>
    exact path.keeps (I := fun a => a.epoch.epoch = e.epoch) howns rfl fun a b hmove _ hi =>
      hmove.epoch_eq.trans hi
  | committed running step latched => exact step.epoch_eq
  | aborted => rfl
  | confirmed request ready step published => exact step.epoch_eq
  | unpublished request ready step published => exact step.epoch_eq
  | unconfirmed request ready step => exact step.epoch_eq

end Bornera.Slot
