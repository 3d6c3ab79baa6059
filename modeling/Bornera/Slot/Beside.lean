import Bornera.Lib.Keeping
import Bornera.Slot.Closing

/-!
# What a slot does beside its input

Deadlines, transport work, writing, the shutdown and the looks at the transport leave the decoder,
the buffer and the rotation as they are, and close the epoch for reasons of their own. `Spares` says
so of one computation, and is proved of the functions of the source one by one. Only
`drive_decoder_once`, `drive_read_once` and the rotation around them are left out.
-/

namespace Bornera.Core.Epoch

variable {F R : Type} {e e' : Epoch F} {call : Call F R}

lemma closings_drain_reason (e : Epoch F) :
    Core.closings (e.drainEffects : List (ConnectionEffect R)) = [] ∨
      Core.closings (e.drainEffects : List (ConnectionEffect R)) = [.drained] := by
  unfold drainEffects
  split
  · exact .inr rfl
  · exact .inl rfl

/-- **An epoch closes because a drain has ended, or for the reason of the call.** -/
theorem Step.closings_reason {t : ConnectionTransition R}
    (h : Step e call (.transition (.ok t)) e') :
    Core.closings t.effects = [] ∨ ∃ reason, Core.closings t.effects = [reason] ∧
      (reason = .drained ∨ ∃ failure disposition, Closes e call reason failure disposition) := by
  have hdrain {effects : List (ConnectionEffect R)} (lane : List (Item F)) (gate : AdmissionGate)
      (heffects : Core.closings effects =
        Core.closings
          ({ e with lane := lane, gate := gate }.drainEffects : List (ConnectionEffect R))) :
      Core.closings effects = [] ∨ ∃ reason, Core.closings effects = [reason] ∧
        (reason = .drained ∨ ∃ failure disposition, Closes e call reason failure disposition) := by
    rw [heffects]
    exact (closings_drain_reason _).imp_right fun h => ⟨_, h, .inl rfl⟩
  cases h with
  | ignored _ _ _ quiet => exact .inl (by simp [quiet, Core.closings])
  | @removed _ pre post => exact hdrain (pre ++ post) e.gate (by simp [Core.closings])
  | closed _ _ closes => exact .inr ⟨_, closings_closing _ _ _, .inr ⟨_, _, closes⟩⟩
  | draining => exact hdrain e.lane .draining rfl
  | @replied x rest => exact hdrain rest e.gate (by simp)
  | @completed pre post => exact hdrain (pre ++ post) e.gate (by simp)
  | _ => exact .inl rfl

end Bornera.Core.Epoch

namespace Bornera.Slot

open Bornera.Core Bornera.Core.Epoch Lib ConnectionSlot

variable {B D C R E T : Type} {Q W : Type → Type} [ByteBudget B] [FrameDecoder D R E] [Retained R]
  [InboundClassifier C R] [EventBatch Q] [TimerQueue W] [SlotTransport T]

variable {permits : List OperationPermit} {strict : Prop} {s s' : ConnectionSlot B D C R Q W}

/-! ### The relation -/

/-- Nothing has closed the slot yet. -/
def ConnectionSlot.Active (s : ConnectionSlot B D C R Q W) : Prop :=
  s.closeRequest = none ∧ s.core.machine.phase = .live

/-- What is left alone: the input, and, when `strict`, whether the slot closes for want of room. -/
structure Beside (strict : Prop) (s s' : ConnectionSlot B D C R Q W) : Prop where
  decoder : s'.decoder = s.decoder
  pending : s'.decoderPending = s.decoderPending
  preference : s'.ioPreference = s.ioPreference
  limits : s'.limits = s.limits
  buffer : s'.readBuffer = s.readBuffer
  active : s'.Active → s.Active
  reason : strict → ∀ shutdown, s'.closeRequest = some (.core .inboundRetainedCapacity shutdown) →
    ∃ shutdown, s.closeRequest = some (.core .inboundRetainedCapacity shutdown)

section
omit [ByteBudget B] [Retained R] [InboundClassifier C R] [EventBatch Q] [TimerQueue W]

lemma Beside.of_request (hdecoder : s'.decoder = s.decoder)
    (hpending : s'.decoderPending = s.decoderPending)
    (hpreference : s'.ioPreference = s.ioPreference) (hlimits : s'.limits = s.limits)
    (hbuffer : s'.readBuffer = s.readBuffer) (hcore : s'.core = s.core)
    (hnone : s'.closeRequest = none → s.closeRequest = none)
    (hrequest : ∀ reason shutdown, s'.closeRequest = some (.core reason shutdown) →
      ∃ shutdown, s.closeRequest = some (.core reason shutdown)) :
    Beside strict s s' :=
  ⟨hdecoder, hpending, hpreference, hlimits, hbuffer, fun h =>
    ⟨hnone h.1, hcore ▸ h.2⟩, fun _ shutdown => hrequest _ shutdown⟩

/-- The close request is the same. -/
lemma Beside.of_same (hdecoder : s'.decoder = s.decoder)
    (hpending : s'.decoderPending = s.decoderPending)
    (hpreference : s'.ioPreference = s.ioPreference) (hlimits : s'.limits = s.limits)
    (hbuffer : s'.readBuffer = s.readBuffer) (hcore : s'.core = s.core)
    (hrequest : s'.closeRequest = s.closeRequest) : Beside strict s s' :=
  .of_request hdecoder hpending hpreference hlimits hbuffer hcore (fun h => hrequest ▸ h)
    fun _ _ h => ⟨_, hrequest ▸ h⟩

lemma Beside.refl (s : ConnectionSlot B D C R Q W) : Beside strict s s :=
  .of_same rfl rfl rfl rfl rfl rfl rfl

lemma Beside.trans {s'' : ConnectionSlot B D C R Q W} (h : Beside strict s s')
    (h' : Beside strict s' s'') : Beside strict s s'' where
  decoder := h'.decoder.trans h.decoder
  pending := h'.pending.trans h.pending
  preference := h'.preference.trans h.preference
  limits := h'.limits.trans h.limits
  buffer := h'.buffer.trans h.buffer
  active := h.active ∘ h'.active
  reason hstrict shutdown hrequest := by
    obtain ⟨shutdown', hrequest'⟩ := h'.reason hstrict shutdown hrequest
    exact h.reason hstrict shutdown' hrequest'

end

/-- The core stays that of an epoch, and the rest is left alone. -/
def Spares (permits : List OperationPermit) (strict : Prop)
    (s s' : ConnectionSlot B D C R Q W) : Prop :=
  ∀ e, Owns permits s e → (∃ e', Owns permits s' e') ∧ Beside strict s s'

instance : Std.Refl
    (Spares permits strict : ConnectionSlot B D C R Q W → ConnectionSlot B D C R Q W → Prop) :=
  ⟨fun s e he => ⟨⟨e, he⟩, .refl s⟩⟩

instance : IsTrans (ConnectionSlot B D C R Q W) (Spares permits strict) :=
  ⟨fun _ _ _ h h' e he => by
    obtain ⟨⟨e', he'⟩, hbeside⟩ := h e he
    obtain ⟨howns, hbeside'⟩ := h' e' he'
    exact ⟨howns, hbeside.trans hbeside'⟩⟩

omit [Retained R] [InboundClassifier C R] [EventBatch Q] [TimerQueue W] in
/-- A change that touches neither the core nor what is to be left alone. -/
lemma spares_of_frame (hcore : s'.core = s.core) (h : Beside strict s s') :
    Spares permits strict s s' :=
  fun e he => ⟨⟨e, owns_of_eq h.limits hcore he⟩, h⟩

/-- The relation for a slot with a transport. -/
abbrev SparesWith (permits : List OperationPermit) (strict : Prop) {τ : Type}
    (x y : ConnectionSlot B D C R Q W × τ) : Prop :=
  Spares permits strict x.1 y.1

instance {τ : Type} :
    Std.Refl (SparesWith permits strict : ConnectionSlot B D C R Q W × τ → _ → Prop) :=
  ⟨fun x => Std.Refl.refl x.1⟩

instance {τ : Type} : IsTrans (ConnectionSlot B D C R Q W × τ) (SparesWith permits strict) :=
  ⟨fun x y z h h' => IsTrans.trans x.1 y.1 z.1 h h'⟩

/-! ### Exchanges with the core -/

/-- The reason is another than want of room. -/
def Other (strict : Prop) (reason : CloseReason) : Prop :=
  strict → reason ≠ .inboundRetainedCapacity

omit [ByteBudget B] [InboundClassifier C R] in
/-- An interpretation closes for the reason it is given. -/
lemma beside_interpret {X : Type}
    {outcomeOf : OperationOutcome X → Except EngineInvariant (OperationOutcome R)}
    {tr : ConnectionTransition X}
    (h : closings tr.effects = [] ∨ ∃ reason, closings tr.effects = [reason] ∧ Other strict reason)
    (s : ConnectionSlot B D C R Q W) : Beside strict s (interpret outcomeOf tr s).2 := by
  have hframe := interpret_frame outcomeOf tr s
  have hkept (hrequest : (interpret outcomeOf tr s).2.closeRequest = s.closeRequest) :
      Beside strict s (interpret outcomeOf tr s).2 := by
    rw [hframe]
    exact .of_same rfl rfl rfl rfl rfl rfl hrequest
  rcases h with hnone | ⟨reason, hone, hother⟩
  · have hbooked : Booked s (interpret outcomeOf tr s).2 := interpret_open hnone s
    exact hkept (by rw [hbooked])
  · cases hrequest : s.closeRequest with
    | some directive =>
      refine hkept ?_
      have hbooked := booked_effects outcomeOf tr.effects none none s
      rw [interpret_slot]
      generalize (interpretEffects outcomeOf tr.effects none none s).1 = found
      generalize (interpretEffects outcomeOf tr.effects none none s).2.1 = failure
      generalize (interpretEffects outcomeOf tr.effects none none s).2.2 = s₁ at hbooked ⊢
      have hsome : s₁.closeRequest = some directive := by
        rw [hbooked]
        exact hrequest
      unfold finishClose
      rw [hsome, hrequest]
      cases found <;> exact hsome
    | none =>
      obtain ⟨s₁, _, hclosed, _⟩ := interpret_close outcomeOf hone hrequest
      have hnow : (interpret outcomeOf tr s).2.closeRequest =
        some (.core reason (s₁.shutdownOf reason)) := by rw [hclosed]; rfl
      refine ⟨by rw [hframe], by rw [hframe], by rw [hframe], by rw [hframe], by rw [hframe],
        fun h => ?_, ?_⟩
      · cases hnow.symm.trans h.1
      · intro hstrict shutdown h
        rw [hnow] at h
        cases h
        exact absurd rfl (hother hstrict)

/-- The reasons the answer to a call closes for. -/
lemma other_of_step {X : Type} {e e' : Epoch OutboundFrame} {call : Call OutboundFrame X}
    {tr : ConnectionTransition X} (h : Step e call (.transition (.ok tr)) e')
    (hcall : ∀ reason failure disposition, Closes e call reason failure disposition →
      Other strict reason) :
    closings tr.effects = [] ∨ ∃ reason, closings tr.effects = [reason] ∧ Other strict reason := by
  refine h.closings_reason.imp_right fun ⟨reason, hone, hreason⟩ => ⟨reason, hone, ?_⟩
  rcases hreason with rfl | ⟨failure, disposition, hcloses⟩
  · exact fun _ => by decide
  · exact hcall reason failure disposition hcloses

omit [Retained R] [InboundClassifier C R] [EventBatch Q] [TimerQueue W] in
/-- A step of the core alone. -/
lemma beside_core {X : Type} {e e' : Epoch OutboundFrame} {call : Call OutboundFrame X}
    {r : Response OutboundFrame X} {core : ConnectionCore B OutboundFrame} (he : Owns permits s e)
    (hholds : Holds s.limits.connection ⟨core, permits⟩ e')
    (hstep : Step e call r e') : Beside strict s { s with core } := by
  refine ⟨rfl, rfl, rfl, rfl, rfl, fun h => ⟨h.1, ?_⟩, fun _ shutdown h => ⟨shutdown, h⟩⟩
  have hlive : core.machine.phase = .live := h.2
  rw [hholds.core.policy.phase] at hlive
  exact he.core.policy.phase.trans (hstep.live_before he.wf hlive)

omit [InboundClassifier C R] in
/-- **An exchange with the core leaves the input alone** and closes for the reasons of its call. -/
lemma spares_answered (call : Call OutboundFrame Unit)
    {m : ConnectionCore.Run B OutboundFrame (ConnectionTransition Unit)}
    {f : Option (ConnectionTransition Unit) → ConnectionSlot B D C R Q W →
      ConnectionSlot B D C R Q W}
    (hcall : World.step s.debug ⟨s.core, permits⟩ call = World.transition ⟨s.core, permits⟩ m)
    (hf : ∀ tr s, (f tr s).core = s.core ∧ Beside strict s (f tr s))
    (hreason : ∀ e reason failure disposition, Closes e call reason failure disposition →
      Other strict reason) :
    Spares permits strict s (answered f m s).2 := by
  intro e he
  obtain ⟨e', hholds, hstep, _⟩ := follows_step he s.debug call
  rw [hcall, World.transition] at hholds hstep
  cases hm : m s.core with
  | mk result core =>
  rw [hm] at hholds hstep
  cases result with
  | error source =>
    have hrun : answered f m s = (.error (.core source), f none { s with core }) := by
      simp only [answered, hm]
    obtain ⟨hsame, hbeside⟩ := hf none { s with core }
    rw [hrun]
    exact ⟨⟨e', owns_of_eq hbeside.limits hsame hholds⟩,
      (beside_core he hholds hstep).trans hbeside⟩
  | ok tr =>
    have hrun : (answered f m s).2 = (interpretUnit tr (f (some tr) { s with core })).2 := by
      simp only [answered, hm]
    obtain ⟨hsame, hbeside⟩ := hf (some tr) { s with core }
    have hint : Beside strict (f (some tr) { s with core })
        (interpretUnit tr (f (some tr) { s with core })).2 :=
      beside_interpret (other_of_step hstep (hreason e)) _
    rw [hrun]
    refine ⟨⟨e', owns_of_eq (hint.limits.trans hbeside.limits) ((interpret_core ..).trans hsame)
      hholds⟩, ?_⟩
    exact ((beside_core he hholds hstep).trans hbeside).trans hint

/-- The reasons an input closes for. -/
def Spared (strict : Prop) (input : ConnectionInput) : Prop :=
  ∀ (e : Epoch OutboundFrame) reason failure disposition,
    Closes (R := Unit) e (.apply input) reason failure disposition → Other strict reason

lemma spared_close {epoch : ConnectionEpoch} {reason : CloseReason} (h : Other strict reason) :
    Spared strict (.closeRequested epoch reason) := by
  rintro e reason' failure disposition ⟨⟩
  exact h

lemma spared_malformed (epoch : ConnectionEpoch) : Spared strict (.replyMalformed epoch) := by
  rintro e reason failure disposition ⟨⟩ _ ⟨⟩

lemma spared_elapsed (epoch : ConnectionEpoch) (operation : OperationId) (now : ℕ) :
    Spared strict (.deadlineElapsed epoch operation now) := by
  rintro e reason failure disposition ⟨⟩ _ ⟨⟩

section
omit [InboundClassifier C R]

lemma spares_converse {α : Type} {input : ConnectionInput} {k : ConnectionTransition Unit → α}
    (h : Spared strict input) :
    Spares permits strict s (
      (do let tr ← applyCore input; interpretUnit tr; pure (k tr) : Run B D C R Q W α) s).2 := by
  rw [converse_run]
  exact spares_answered (.apply input) rfl (fun _ s => ⟨rfl, .refl s⟩) h

lemma spares_closeWith {input : ConnectionInput} (h : Spared strict input) :
    Spares permits strict s (
      (do let tr ← applyCore input; interpretUnit tr : Run B D C R Q W Unit) s).2 := by
  have hconverse : Spares permits strict s
      ((do let tr ← applyCore input; interpretUnit tr; pure () : Run B D C R Q W Unit) s).2 :=
    spares_converse h
  simpa only [bind_unit] using hconverse

end

/-! ### The slot alone -/

section
open Owner.Keeps

variable (permits strict)

/-- The computation leaves the input alone. -/
abbrev KeepsInput {α : Type} (m : Run B D C R Q W α) : Prop := Owner.Keeps (Spares permits strict) m

/-- The computation of a slot with a transport leaves the input alone. -/
abbrev KeepsInputWith {α τ : Type} (m : Driving B D C R Q W τ α) : Prop :=
  Owner.Keeps (SparesWith permits strict) m

section
omit [InboundClassifier C R]

lemma keeps_closeFor {reason : CloseReason} (h : Other strict reason) :
    KeepsInput permits strict (closeFor reason : Run B D C R Q W Unit) :=
  .read fun _ => spares_closeWith (spared_close h)

lemma keeps_lost {reason : CloseReason} (h : reason ≠ .inboundRetainedCapacity) :
    KeepsInput permits strict (closeFor reason : Run B D C R Q W Unit) :=
  keeps_closeFor permits strict fun _ => h

lemma keeps_closeMalformed : KeepsInput permits strict (closeMalformed : Run B D C R Q W Unit) :=
  .read fun s => spares_closeWith (spared_malformed s.epoch)

end

omit [Retained R] [InboundClassifier C R] [TimerQueue W] in
lemma keeps_publish (event : ℕ → ConnectionEpoch → ConnectionEvent) :
    KeepsInput permits strict (publishNext event : Run B D C R Q W Unit) := by
  intro s
  refine spares_of_frame (publishNext_core ..) ?_
  rw [publishNext_frame]
  exact .of_same rfl rfl rfl rfl rfl rfl rfl

omit [Retained R] [InboundClassifier C R] [EventBatch Q] in
lemma spares_popDue (s : ConnectionSlot B D C R Q W) (now : ℕ) :
    Spares permits strict s (s.popDue now).2 := by
  rw [popDue_frame]
  exact spares_of_frame rfl (.of_same rfl rfl rfl rfl rfl rfl rfl)

section
omit [InboundClassifier C R]

lemma keeps_driveDeadlines (now budget : ℕ) :
    KeepsInput permits strict (driveDeadlines now budget : Run B D C R Q W ℕ) := by
  induction budget with
  | zero => exact .pure 0
  | succ budget ih =>
    have hhandle (event : DeadlineEvent) : KeepsInput permits strict (do
        let t ← applyCore (.deadlineElapsed event.epoch event.operation now)
        interpretUnit t : Run B D C R Q W Unit) := fun s => spares_closeWith (spared_elapsed _ _ _)
    rw [driveDeadlines]
    refine .bind (fun s => Std.Refl.refl s) fun s => .ite ?_ (.ite ?_ ?_)
    · refine .bind (.change fun s => ?_) fun _ =>
        .bind (keeps_lost permits strict (by decide)) fun _ => .pure 1
      exact spares_of_frame rfl (.of_same rfl rfl rfl rfl rfl rfl rfl)
    · exact .bind (keeps_lost permits strict (by decide)) fun _ => .pure 1
    · refine .bind (.update fun s => spares_popDue permits strict s now) fun due => ?_
      cases due with
      | none => exact .pure 0
      | some event =>
        refine .congr (fun s => Owner.bind_assoc_run _ _ _ s) (.bind (hhandle event) fun _ => ?_)
        refine .bind (fun s => Std.Refl.refl s) fun s => .ite (.pure 1)
          (.bind ih fun work => .pure (work + 1))

lemma keeps_drivePending (now budget : ℕ) :
    KeepsInput permits strict (drivePending now budget : Run B D C R Q W ℕ) := by
  intro s
  unfold drivePending
  split
  · exact keeps_driveDeadlines permits strict now budget s
  · exact Std.Refl.refl s

lemma keeps_advanceCore (front : WriteSlice) (written : ℕ) :
    KeepsInput permits strict (advanceCore front written : Run B D C R Q W Unit) := by
  intro s
  rw [advanceCore_run]
  refine spares_answered (.advanceWrite front.epoch front.effect written)
    rfl (fun _ s => ⟨rfl, .refl s⟩) ?_
  rintro e reason failure disposition ⟨⟩

end

omit [Retained R] [InboundClassifier C R] [EventBatch Q] [TimerQueue W] in
lemma keeps_frontWriteCore :
    KeepsInput permits strict (frontWriteCore : Run B D C R Q W (Option WriteSlice)) := by
  intro s e he
  obtain ⟨e', hholds, hstep, _⟩ :=
    follows_step (R := Unit) he s.debug (.frontWrite OutboundFrame.view s.limits.ioChunkBytes)
  exact ⟨⟨e', hholds⟩, beside_core he hholds hstep⟩

/-! ### The controls -/

section
omit [InboundClassifier C R]

lemma keeps_cancelInner (operation : OperationId) :
    KeepsInput permits strict (cancelInner operation : Run B D C R Q W CancelOutcome) :=
  .read fun s =>
    spares_converse (k := fun tr => tr.cancelOutcome.getD .alreadyTerminal)
      (by rintro e reason failure disposition ⟨⟩)

lemma keeps_openAdmissionInner :
    KeepsInput permits strict (openAdmissionInner : Run B D C R Q W InputDisposition) := by
  refine .bind (fun s => Std.Refl.refl s) fun s => .ite (.pure _) ?_
  have hcall : KeepsInput permits strict (do
      let tr ← applyCore (.openAdmission s.epoch)
      interpretUnit tr
      pure tr : Run B D C R Q W (ConnectionTransition Unit)) :=
    fun s => spares_converse (k := id) (by rintro e reason failure disposition ⟨⟩)
  exact .congr (fun s => Owner.bind_tap_run _ _ _ s) (hcall.bind fun tr =>
    .ite (.bind (keeps_publish permits strict _) fun _ => .pure tr.disposition)
      (.pure tr.disposition))

lemma keeps_beginDrainInner (deadline : Deadline) :
    KeepsInput permits strict (beginDrainInner deadline : Run B D C R Q W InputDisposition) := by
  intro s
  rw [beginDrainInner_run]
  refine spares_answered (.apply (.beginDrain s.epoch)) rfl (fun tr s => ?_)
    (by rintro e reason failure disposition ⟨⟩)
  split
  · exact ⟨rfl, .of_same rfl rfl rfl rfl rfl rfl rfl⟩
  · exact ⟨rfl, .refl s⟩

end

omit [ByteBudget B] [Retained R] [InboundClassifier C R] [EventBatch Q] [TimerQueue W] in
/-- A close request for the same reason. -/
lemma beside_request {reason : CloseReason} {shutdown shutdown' : ShutdownState}
    {diagnostic : Option TransportDiagnostic} (h : s.closeRequest = some (.core reason shutdown)) :
    Beside strict s { s with
      transportDiagnostic := diagnostic, closeRequest := some (.core reason shutdown') } := by
  refine .of_request rfl rfl rfl rfl rfl rfl (fun hnone => by cases hnone) ?_
  rintro reason shutdown ⟨⟩
  exact ⟨_, h⟩

omit [InboundClassifier C R] in
lemma keeps_finalizeInner {reason : CloseReason} (h : Other strict reason) :
    KeepsInput permits strict (finalizeInner reason : Run B D C R Q W InputDisposition) := by
  intro s
  unfold finalizeInner
  cases hforce : s.forceShutdown with
  | none => exact spares_converse (k := ConnectionTransition.disposition) (spared_close h)
  | some s' =>
    unfold forceShutdown at hforce
    split at hforce
    · next hrequest =>
      cases hforce
      exact spares_of_frame rfl (beside_request strict hrequest)
    · next hrequest =>
      cases hforce
      exact spares_of_frame rfl (beside_request strict hrequest)
    · cases hforce

/-! ### With a transport -/

section
omit [SlotTransport T] [Retained R] [InboundClassifier C R] [EventBatch Q] [TimerQueue W]

lemma keeps_changeSlot {f : ConnectionSlot B D C R Q W → ConnectionSlot B D C R Q W}
    (h : ∀ s, (f s).core = s.core ∧ Beside strict s (f s)) :
    KeepsInputWith permits strict (changeSlot f : Driving B D C R Q W T Unit) :=
  fun x => spares_of_frame (h x.1).1 (h x.1).2

lemma keeps_recordFailure (diagnostic : TransportDiagnostic) :
    KeepsInputWith permits strict
      (changeSlot (·.recordTransportFailure diagnostic) : Driving B D C R Q W T Unit) :=
  keeps_changeSlot permits strict fun _ => ⟨rfl, .of_same rfl rfl rfl rfl rfl rfl rfl⟩

end

omit [Retained R] [InboundClassifier C R] [EventBatch Q] [TimerQueue W] [SlotTransport T] in
lemma keeps_slot {α : Type} {f : ConnectionSlot B D C R Q W → Driving B D C R Q W T α}
    (h : ∀ s, KeepsInputWith permits strict (f s)) :
    KeepsInputWith permits strict (slot >>= f) := fun x => h x.1 x

omit [Retained R] [InboundClassifier C R] [EventBatch Q] [TimerQueue W] in
lemma keeps_capture :
    KeepsInputWith permits strict (captureTransportPressure : Driving B D C R Q W T Unit) := by
  rintro ⟨s, t⟩
  refine spares_of_frame (by rw [capture_frame]) ?_
  rw [capture_frame]
  exact .of_same rfl rfl rfl rfl rfl rfl rfl

omit [SlotTransport T] [InboundClassifier C R] in
lemma keeps_loses {reason : CloseReason} (h : reason ≠ .inboundRetainedCapacity)
    (diagnostic : TransportDiagnostic) (work : ℕ) :
    KeepsInputWith permits strict (do
      changeSlot (·.recordTransportFailure diagnostic)
      Owner.onFst (closeFor reason)
      pure (some work) : Driving B D C R Q W T (Option ℕ)) :=
  .bind (keeps_recordFailure permits strict diagnostic) fun _ =>
    .bind (keeps_lost permits strict h).onFst fun _ => .pure _

section
omit [InboundClassifier C R]

lemma keeps_establish :
    KeepsInputWith permits strict (establish : Driving B D C R Q W T (Option ℕ)) := by
  refine keeps_slot permits strict fun s => .bind (.ask _) fun advertised =>
    .ite (.bind (.ask _) fun result => ?_) (.pure none)
  cases result with
  | error source => exact keeps_loses permits strict (by decide) source 1
  | ok progress =>
    refine .bind (.settle _) fun _ => .bind (.ask _) fun opened =>
      .ite (.bind ?_ fun _ => .bind ?_ fun _ => .pure _) (.pure _)
    · exact keeps_changeSlot permits strict fun _ => ⟨rfl, .of_same rfl rfl rfl rfl rfl rfl rfl⟩
    · exact (keeps_publish permits strict _).onFst

lemma keeps_driveTransportWork :
    KeepsInputWith permits strict (driveTransportWork : Driving B D C R Q W T (Option ℕ)) := by
  refine keeps_slot permits strict fun s => .bind (.ask _) fun advertised =>
    .ite (.bind (.ask _) fun result => ?_) (.pure none)
  cases result with
  | error source => exact keeps_loses permits strict (by decide) source 1
  | ok progress => exact .bind (.settle _) fun _ => .pure _

end

omit [InboundClassifier C R] in
lemma keeps_driveTransportOnce (remaining : ℕ) :
    KeepsInputWith permits strict
      (driveTransportOnce remaining : Driving B D C R Q W T (Option ℕ)) := by
  refine keeps_slot permits strict fun s => .ite (.bind (.ask _) fun opened => .ite (.fail _) ?_) ?_
  · exact .ite (.pure none) (keeps_establish permits strict)
  · exact .ite (.pure none) (keeps_driveTransportWork permits strict)

omit [InboundClassifier C R] in
lemma keeps_writeFront (front : WriteSlice) :
    KeepsInputWith permits strict (writeFront front : Driving B D C R Q W T Unit) := by
  refine .bind (.ask _) fun result => ?_
  cases result with
  | error source =>
    exact .ite (.ask _) (.bind (keeps_recordFailure permits strict _) fun _ =>
      (keeps_lost permits strict (by decide)).onFst)
  | ok written =>
    cases written with
    | zero => exact (keeps_lost permits strict (by decide)).onFst
    | succ written => exact (keeps_advanceCore permits strict front _).onFst

omit [InboundClassifier C R] in
lemma keeps_driveWriteOnce :
    KeepsInputWith permits strict (driveWriteOnce : Driving B D C R Q W T (Option ℕ)) := by
  refine .bind (.ask _) fun opened =>
    .ite (.bind (keeps_frontWriteCore permits strict).onFst fun front => ?_) (.pure none)
  cases front with
  | none => exact .pure none
  | some front =>
    refine .ite (.bind (keeps_advanceCore permits strict front 0).onFst fun _ => .pure _) ?_
    exact .bind (.ask _) fun writable =>
      .ite (.bind (keeps_writeFront permits strict front) fun _ => .pure _) (.pure none)

omit [Retained R] [InboundClassifier C R] [EventBatch Q] [TimerQueue W] in
lemma keeps_hasRunnableIo :
    KeepsInputWith permits strict (hasRunnableIo : Driving B D C R Q W T Bool) := by
  refine keeps_slot permits strict fun s => .either (.pure _) ?_
  refine .either (.both (.pure _) (.either (.ask _) (.ask _))) ?_
  refine .either (.both (.pure _) (.ask _)) ?_
  refine .either (.both (.pure _) (.ask _)) ?_
  exact .both (.pure _) (.both (.ask _) (.both (.pure _) (.either (.pure _) (.ask _))))

/-! ### The shutdown -/

section
omit [Retained R] [InboundClassifier C R] [EventBatch Q] [TimerQueue W]

lemma spares_shutdownStep {reason : CloseReason} {shutdown : ShutdownState}
    (h : s.closeRequest = some (.core reason shutdown)) (deadline : Deadline)
    (drive : T → TransportBudget → Except TransportDiagnostic TransportProgress × T) (t : T) :
    Spares permits strict s (shutdownStep reason deadline drive (s, t)).2.1 := by
  obtain ⟨shutdown', hreason⟩ := shutdownStep_reason reason deadline drive s t
  have hframe := shutdownStep_frame reason deadline drive s t
  refine spares_of_frame (by rw [hframe]) ?_
  refine .of_request (by rw [hframe]) (by rw [hframe]) (by rw [hframe]) (by rw [hframe])
    (by rw [hframe]) (by rw [hframe])
    (fun hnone => by cases hreason.symm.trans hnone) ?_
  intro reason' shutdown'' hrequest
  rw [hreason] at hrequest
  cases hrequest
  exact ⟨_, h⟩

lemma spares_driveStarted {reason : CloseReason} {deadline : Deadline}
    (h : s.closeRequest = some (.core reason (.started deadline))) (t : T) :
    Spares permits strict s (driveStarted reason deadline (s, t)).2.1 := by
  rw [driveStarted, Owner.ask_bind]
  split
  · exact spares_of_frame rfl (beside_request strict h)
  · rw [Owner.ask_bind]
    split
    · exact spares_shutdownStep permits strict h _ _ _
    · exact Std.Refl.refl s

lemma spares_self (s : ConnectionSlot B D C R Q W) : Spares permits strict s s := Std.Refl.refl s

lemma keeps_driveShutdownOnce (now remaining : ℕ) :
    KeepsInputWith permits strict
      (driveShutdownOnce now remaining : Driving B D C R Q W T (Option ℕ)) := by
  rintro ⟨s, t⟩
  have htimed {reason : CloseReason} {shutdown : ShutdownState}
    (h : s.closeRequest = some (.core reason shutdown)) :
      Spares permits strict s (s.shutdownTimedOut reason) :=
        spares_of_frame rfl (beside_request strict h)
  rw [driveShutdownOnce, slot_bind]
  cases hrequest : s.closeRequest with
  | none => exact spares_self permits strict s
  | some directive =>
    cases directive with
    | abort => exact spares_self permits strict s
    | core reason shutdown =>
      cases shutdown with
      | pending deadline =>
        dsimp only
        split
        · exact htimed hrequest
        · split
          · exact spares_self permits strict s
          · exact spares_shutdownStep permits strict hrequest _ _ _
      | started deadline =>
        dsimp only
        split
        · exact htimed hrequest
        · split
          · exact spares_self permits strict s
          · exact spares_driveStarted permits strict hrequest t
      | immediate => exact spares_self permits strict s
      | complete => exact spares_self permits strict s

lemma keeps_hasRunnableShutdown (now : ℕ) : KeepsInputWith permits strict
    (hasRunnableShutdown now : Driving B D C R Q W T Bool) := by
  refine keeps_slot permits strict fun s => ?_
  split
  · exact .pure true
  · exact .either (.pure _) (.either (.ask _) (.ask _))
  · exact .pure false

end

/-! ### The end of a quantum -/

omit [Retained R] [InboundClassifier C R] [EventBatch Q] [TimerQueue W] [SlotTransport T] in
lemma keeps_withTransport {α : Type} {absent : Run B D C R Q W α} {m : Driving B D C R Q W T α}
    (ha : KeepsInput permits strict absent) (hm : KeepsInputWith permits strict m) :
    KeepsInputWith permits strict (withTransport absent m) := by
  rintro ⟨s, t⟩
  cases t with
  | none => exact ha s
  | some t => exact hm (s, t)

section
omit [Retained R] [InboundClassifier C R] [EventBatch Q] [TimerQueue W]

lemma keeps_closeLoop (now budget turns work : ℕ) :
    KeepsInputWith permits strict
      (closeLoop now budget turns work : Driving B D C R Q W (Option T) ℕ) := by
  induction turns generalizing work with
  | zero => exact .pure work
  | succ turns ih =>
    rw [closeLoop]
    refine .ite (.bind (keeps_withTransport permits strict (.pure none)
      (keeps_driveShutdownOnce permits strict now _)) fun progressed => ?_)
      (.pure work)
    cases progressed with
    | none => exact .pure work
    | some progressed => exact ih _

lemma keeps_driveCloseQuantum (now budget work : ℕ) :
    KeepsInputWith permits strict
      (driveCloseQuantum now budget work : Driving B D C R Q W (Option T) SlotProgress) := by
  refine .bind (keeps_closeLoop permits strict now budget _ work) fun work => ?_
  refine .bind (.both (.pure _)
    (keeps_withTransport permits strict (.pure false)
    (keeps_hasRunnableShutdown permits strict now))) fun saturated => ?_
  exact .pure _

end

end

end Bornera.Slot
