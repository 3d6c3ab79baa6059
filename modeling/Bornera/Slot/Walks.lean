import Bornera.Slot.Paths

/-!
# The walks of a slot

`Walks` says that a computation of a slot is a path of moves, with the failure of the computation
at its end. It is closed under sequencing, so each function of the source is walked once, by its own
shape. The quantum is walked last.
-/

namespace Bornera.Slot

open Bornera.Core Bornera.Core.Epoch Lib ConnectionSlot

variable {B D C R E T : Type} {Q W : Type → Type} [ByteBudget B] [FrameDecoder D R E] [Retained R]
  [InboundClassifier C R] [EventBatch Q] [TimerQueue W] [SlotTransport T]

variable {permits : List OperationPermit} {cause : SlotCall T}

/-- The failure, if any, is not the report of an earlier one. -/
def Own {α : Type} (r : Except EngineError α) : Prop := ∀ reason, r ≠ .error (.ownerFailed reason)

section
variable {σ τ α β : Type}

/-- The computation `m` on a state that shows a slot and perhaps its transport is a path of moves
from `x`. -/
def Walks (permits : List OperationPermit) (cause : SlotCall T)
    (see : σ → ConnectionSlot B D C R Q W × Option T) (m : Owner EngineError σ α) (x : σ) : Prop :=
  Own (m x).1 ∧ ∀ e, Owns permits (see x).1 e →
    ∃ e', Path permits cause ⟨(see x).1, (see x).2, e, none⟩
    ⟨(see (m x).2).1, (see (m x).2).2, e', fault (m x).1⟩

variable {see : σ → ConnectionSlot B D C R Q W × Option T}

lemma walks_pure (a : α) (x : σ) : Walks permits cause see (pure a) x :=
  ⟨fun _ h => (by cases h), fun e _ => ⟨e, .refl⟩⟩

lemma walks_congr {m n : Owner EngineError σ α} {x : σ} (h : m x = n x)
    (hm : Walks permits cause see n x) :
    Walks permits cause see m x := by
  unfold Walks
  rw [h]
  exact hm

/-- Paths are sequenced as computations are. -/
theorem walks_bind {m : Owner EngineError σ α} {f : α → Owner EngineError σ β} {x : σ}
    (hm : Walks permits cause see m x)
    (hf : ∀ a y, m x = (.ok a, y) → Walks permits cause see (f a) y) :
    Walks permits cause see (m >>= f) x := by
  obtain ⟨hown, hwalk⟩ := hm
  cases hx : m x with
  | mk result y =>
  rw [hx] at hown hwalk
  cases result with
  | error error =>
    have hrun : (m >>= f) x = (.error error, y) := Owner.bind_error hx f
    refine ⟨?_, ?_⟩
    · rw [hrun]
      intro reason h
      exact hown reason (by cases h; rfl)
    · rw [hrun]
      exact hwalk
  | ok a =>
    obtain ⟨hown', hwalk'⟩ := hf a y hx
    have hrun : (m >>= f) x = f a y := Owner.bind_ok hx f
    refine ⟨hrun ▸ hown', fun e he => ?_⟩
    obtain ⟨e₁, hpath⟩ := hwalk e he
    obtain ⟨e₂, hpath'⟩ := hwalk' e₁ (Path.owns hpath he).2
    rw [hrun]
    exact ⟨e₂, hpath.trans hpath'⟩

lemma walks_either {a b : Owner EngineError σ Bool} {x : σ} (ha : Walks permits cause see a x)
    (hb : ∀ y, Walks permits cause see b y) : Walks permits cause see (Owner.either a b) x := by
  refine walks_bind ha fun answer y _ => ?_
  split
  · exact walks_pure true y
  · exact hb y

lemma walks_both {a b : Owner EngineError σ Bool} {x : σ} (ha : Walks permits cause see a x)
    (hb : ∀ y, Walks permits cause see b y) : Walks permits cause see (Owner.both a b) x := by
  refine walks_bind ha fun answer y _ => ?_
  split
  · exact hb y
  · exact walks_pure false y

/-- A computation that is one move. -/
lemma walks_single {m : Owner EngineError σ α} {x : σ} (hown : Own (m x).1)
    (h : ∀ e, Owns permits (see x).1 e → ∃ e', Move permits cause ⟨(see x).1, (see x).2, e, none⟩
      ⟨(see (m x).2).1, (see (m x).2).2, e', fault (m x).1⟩) : Walks permits cause see m x := by
  refine ⟨hown, fun e he => ?_⟩
  obtain ⟨e', hmove⟩ := h e he
  exact ⟨e', .single hmove⟩

/-- A move made before a computation. -/
lemma walks_after {m : Owner EngineError σ α} {x y : σ} {n : Owner EngineError σ α}
    (hrun : m x = n y)
    (h : ∀ e, Owns permits (see x).1 e → Path permits cause ⟨(see x).1, (see x).2, e, none⟩
      ⟨(see y).1, (see y).2, e, none⟩) (hm : Walks permits cause see n y) :
      Walks permits cause see m x := by
  obtain ⟨hown, hwalk⟩ := hm
  refine ⟨hrun ▸ hown, fun e he => ?_⟩
  obtain ⟨e', hpath⟩ := hwalk e (Path.owns (h e he) he).2
  rw [hrun]
  exact ⟨e', (h e he).trans hpath⟩

/-- A computation of the slot alone, made with the transport at hand. -/
lemma walks_onFst {g : τ → Option T} {m : Owner EngineError (ConnectionSlot B D C R Q W) α}
    {x : ConnectionSlot B D C R Q W × τ} (hm : Walks permits cause (fun s => (s, g x.2)) m x.1) :
    Walks permits cause (fun x => (x.1, g x.2)) (Owner.onFst m) x :=
  hm

/-- A look at the transport. -/
lemma walks_ask {f : T → α × T} (h : ∀ t, Touch t (f t).2) (x : ConnectionSlot B D C R Q W × T) :
    Walks permits cause (fun x => (x.1, some x.2)) (Owner.ask f) x :=
  walks_single (fun _ h => (by cases h)) fun e _ => ⟨e, .touched x.1 e (h x.2)⟩

end

/-! ### Exchanges with the core -/

lemma fault_map {α β : Type} (g : α → β) (r : Except EngineError α) :
    fault (r.map g) = fault r := by cases r <;> rfl

lemma Own.map {α β : Type} {r : Except EngineError α} (h : Own r) (g : α → β) : Own (r.map g) := by
  cases r with
  | error error =>
    intro reason hr
    exact h reason (by cases hr; rfl)
  | ok => exact fun _ hr => (by cases hr)

lemma own_bind {σ α β : Type} {m : Owner EngineError σ α} {f : α → Owner EngineError σ β} {x : σ}
    (hm : Own (m x).1) (hf : ∀ a y, m x = (.ok a, y) → Own (f a y).1) : Own ((m >>= f) x).1 := by
  cases hx : m x with
  | mk result y =>
  cases result with
  | error error =>
    rw [Owner.bind_error hx]
    rw [hx] at hm
    intro reason h
    exact hm reason (by cases h; rfl)
  | ok a =>
    rw [Owner.bind_ok hx]
    exact hf a y hx

lemma own_of_internal {α : Type} {r : Except EngineError α}
    (h : ∀ error, r = .error error → ∃ i, error = .invariant i) : Own r := by
  intro reason hr
  obtain ⟨i, hi⟩ := h _ hr
  cases hi

omit [ByteBudget B] [InboundClassifier C R] in
lemma own_interpret {X : Type}
    (outcomeOf : OperationOutcome X → Except EngineInvariant (OperationOutcome R))
    (tr : ConnectionTransition X)
    (s : ConnectionSlot B D C R Q W) : Own (interpret outcomeOf tr s).1 :=
  own_of_internal (interpret_internal outcomeOf tr s)

/-- An answer of the core as the slot takes it: `f` is what it changes around the call. -/
def answered
    (f : Option (ConnectionTransition Unit) → ConnectionSlot B D C R Q W →
      ConnectionSlot B D C R Q W)
    (m : ConnectionCore.Run B OutboundFrame (ConnectionTransition Unit)) :
    Run B D C R Q W (ConnectionTransition Unit) := fun s =>
  match m s.core with
  | (.error source, core) => (.error (.core source), f none { s with core })
  | (.ok tr, core) =>
    ((interpretUnit tr (f (some tr) { s with core })).1.map fun _ => tr,
      (interpretUnit tr (f (some tr) { s with core })).2)

/-- **An exchange with the core is one move.** -/
theorem answered_move {s : ConnectionSlot B D C R Q W} {t t' : Option T}
    {call : Call OutboundFrame Unit}
    {f : Option (ConnectionTransition Unit) → ConnectionSlot B D C R Q W →
      ConnectionSlot B D C R Q W}
    {m : ConnectionCore.Run B OutboundFrame (ConnectionTransition Unit)}
    (hcall : World.step s.debug ⟨s.core, permits⟩ call = World.transition ⟨s.core, permits⟩ m)
    (hocc : ∀ tr, (∀ a, tr = some a → (m s.core).1 = .ok a) →
      Occasion cause s t call tr (f tr) t') :
    Own (answered f m s).1 ∧ ∀ e, Owns permits s e → ∃ e', Move permits cause ⟨s, t, e, none⟩
      ⟨(answered f m s).2, t', e', fault (answered f m s).1⟩ := by
  cases hm : m s.core with
  | mk result core =>
  cases result with
  | error source =>
    have hrun : answered f m s = (.error (.core source), f none { s with core }) := by
      simp only [answered, hm]
    refine ⟨?_, fun e he => ?_⟩
    · rw [hrun]
      exact fun _ h => (by cases h)
    · obtain ⟨e', hholds, hstep, _⟩ := follows_step he s.debug call
      rw [hcall, World.transition, hm] at hholds hstep
      rw [hrun]
      exact ⟨e', .refused (hocc none fun _ h => by cases h) hstep hholds⟩
  | ok tr =>
    have hrun : answered f m s =
      ((interpretUnit tr (f (some tr) { s with core })).1.map fun _ => tr,
        (interpretUnit tr (f (some tr) { s with core })).2) := by simp only [answered, hm]
    refine ⟨?_, fun e he => ?_⟩
    · rw [hrun]
      exact (own_interpret unitOutcome tr _).map _
    · obtain ⟨e', hholds, hstep, _⟩ := follows_step he s.debug call
      rw [hcall, World.transition, hm] at hholds hstep
      rw [hrun, fault_map]
      exact ⟨e', .exchange (hocc (some tr) fun a h => by cases h; rw [hm]) hstep hholds⟩

/-! ### The computations of the source -/

section
variable {s : ConnectionSlot B D C R Q W} {t : Option T}

section
omit [Retained R] [InboundClassifier C R] [EventBatch Q] [TimerQueue W]

lemma applyCore_ok {input : ConnectionInput} {tr : ConnectionTransition Unit}
    {core : ConnectionCore B OutboundFrame}
    (h : ConnectionCore.apply s.debug input s.core = (.ok tr, core)) :
    (applyCore input : Run B D C R Q W _) s = (.ok tr, { s with core }) := by
  simp only [applyCore, onCore, h, Except.mapError]

lemma applyCore_error {input : ConnectionInput} {source : ConnectionCoreError}
    {core : ConnectionCore B OutboundFrame}
    (h : ConnectionCore.apply (R := Unit) s.debug input s.core = (.error source, core)) :
    (applyCore input : Run B D C R Q W _) s = (.error (.core source), { s with core }) := by
  simp only [applyCore, onCore, h, Except.mapError]

end

omit [InboundClassifier C R] in
/-- A call of the core with an input, and the interpretation of its answer. -/
lemma converse_run {α : Type} (input : ConnectionInput) (k : ConnectionTransition Unit → α)
    (s : ConnectionSlot B D C R Q W) :
    (do let tr ← applyCore input; interpretUnit tr; pure (k tr) : Run B D C R Q W α) s =
      ((answered (fun _ => id) (ConnectionCore.apply s.debug input) s).1.map k,
        (answered (fun _ => id) (ConnectionCore.apply s.debug input) s).2) := by
  cases hm : ConnectionCore.apply s.debug input s.core with
  | mk result core =>
  cases result with
  | error source =>
    rw [Owner.bind_error (applyCore_error hm)]
    simp only [answered, hm]
    rfl
  | ok tr =>
    rw [Owner.bind_ok (applyCore_ok hm), Owner.bind_pure_run]
    simp only [answered, hm, Owner.map_map]
    rfl

lemma walks_converse {α : Type} {input : ConnectionInput} {k : ConnectionTransition Unit → α}
    (hocc : ∀ tr, Occasion cause s t (.apply input) tr id t) :
    Walks permits cause (fun s => (s, t))
      (do let tr ← applyCore input; interpretUnit tr; pure (k tr) : Run B D C R Q W α) s := by
  obtain ⟨hown, hmove⟩ := answered_move (f := fun _ => id)
    (m := ConnectionCore.apply s.debug input) rfl fun tr _ => hocc tr
  refine walks_single ?_ fun e he => ?_
  · rw [converse_run]
    exact hown.map k
  · rw [converse_run, fault_map]
    exact hmove e he

omit [ByteBudget B] [Retained R] [InboundClassifier C R] [EventBatch Q] [TimerQueue W] in
lemma bind_unit (m : Run B D C R Q W Unit) : (do m; pure ()) = m := by
  funext s
  rw [Owner.bind_run]
  cases hm : m s with
  | mk result s' => cases result <;> rfl

lemma walks_closeWith {input : ConnectionInput}
    (hocc : ∀ tr, Occasion cause s t (.apply input) tr id t) :
    Walks permits cause (fun s => (s, t))
      (do let tr ← applyCore input; interpretUnit tr : Run B D C R Q W Unit) s := by
  have h : Walks permits cause (fun s => (s, t))
      (do let tr ← applyCore input; interpretUnit tr; pure () : Run B D C R Q W Unit) s :=
        walks_converse hocc
  simpa only [bind_unit] using h

lemma walks_closeFor {reason : CloseReason} (h : reason ≠ .drained) :
    Walks permits cause (fun s => (s, t)) (ConnectionSlot.closeFor reason) s :=
  walks_closeWith fun tr => .lost tr h

lemma walks_cancelInner {operation : OperationId} (h : cause = .cancel operation) :
    Walks permits cause (fun s => (s, t)) (ConnectionSlot.cancelInner operation) s :=
  walks_converse (k := fun tr => tr.cancelOutcome.getD .alreadyTerminal) fun tr =>
    .cancelled tr operation h

lemma walks_finalizeInner {reason : CloseReason} (h : cause = .finalize reason) :
    Walks permits cause (fun s => (s, t)) (ConnectionSlot.finalizeInner reason) s := by
  cases hforce : s.forceShutdown with
  | some s' =>
    have hrun : ConnectionSlot.finalizeInner reason s = (.ok .applied, s') := by
      simp only [ConnectionSlot.finalizeInner, hforce]
    refine walks_single ?_ fun e he => ⟨e, ?_⟩
    · rw [hrun]
      exact fun _ h => (by cases h)
    · rw [hrun]
      exact .forced s s' t e h hforce
  | none =>
    have hrun : ConnectionSlot.finalizeInner reason s =
        (do let tr ← applyCore (.closeRequested s.epoch reason)
            interpretUnit tr
            pure tr.disposition : Run B D C R Q W InputDisposition) s := by
      simp only [ConnectionSlot.finalizeInner, hforce]
    refine walks_congr hrun ?_
    exact walks_converse (k := ConnectionTransition.disposition) fun tr =>
      .finalized tr reason h hforce

omit [InboundClassifier C R] in
lemma beginDrainInner_run (deadline : Deadline) (s : ConnectionSlot B D C R Q W) :
    ConnectionSlot.beginDrainInner deadline s =
      let f := fun (tr : Option (ConnectionTransition Unit)) (s : ConnectionSlot B D C R Q W) =>
        if tr.any (·.disposition = .applied) then { s with drainDeadline := some deadline } else s
      ((answered f (ConnectionCore.apply s.debug (.beginDrain s.epoch)) s).1.map
        ConnectionTransition.disposition,
        (answered f (ConnectionCore.apply s.debug (.beginDrain s.epoch)) s).2) := by
  rw [beginDrainInner, Owner.read_bind]
  cases hm : ConnectionCore.apply s.debug (.beginDrain s.epoch) s.core with
  | mk result core =>
  cases result with
  | error source =>
    rw [Owner.bind_error (applyCore_error hm)]
    simp only [answered, hm]
    rfl
  | ok tr =>
    rw [Owner.bind_ok (applyCore_ok hm)]
    simp only [answered, hm]
    by_cases happlied : tr.disposition = .applied
    · rw [if_pos happlied, Owner.change_bind, Owner.bind_pure_run]
      simp only [Option.any_some, happlied, decide_true, if_true, Owner.map_map]
    · rw [if_neg happlied, Owner.bind_pure_run]
      simp only [Option.any_some, happlied, decide_false, Bool.false_eq_true, if_false,
        Owner.map_map]

lemma walks_beginDrainInner {deadline : Deadline} (h : cause = .beginDrain deadline) :
    Walks permits cause (fun s => (s, t)) (ConnectionSlot.beginDrainInner deadline) s := by
  obtain ⟨hown, hmove⟩ := answered_move (t := t)
    (f := fun (tr : Option (ConnectionTransition Unit)) (s : ConnectionSlot B D C R Q W) =>
      if tr.any (·.disposition = .applied) then { s with drainDeadline := some deadline } else s)
    (m := ConnectionCore.apply s.debug (.beginDrain s.epoch)) rfl fun tr _ => .drained tr deadline h
  refine walks_single ?_ fun e he => ?_
  · rw [beginDrainInner_run]
    exact hown.map _
  · rw [beginDrainInner_run]
    simp only [fault_map]
    exact hmove e he

/-- What opening admission answers. -/
lemma openAdmission_effects {e e' : Epoch OutboundFrame} {epoch : ConnectionEpoch}
    {tr : ConnectionTransition Unit}
    (h : Step e (.apply (.openAdmission epoch)) (.transition (.ok tr)) e') : tr.effects = [] := by
  cases h with
  | ignored _ _ _ quiet => exact quiet
  | opened => rfl
  | removed _ _ _ _ removes => cases removes
  | closed _ _ closes => cases closes

lemma walks_openAdmissionInner :
    Walks permits cause (fun s => (s, t)) ConnectionSlot.openAdmissionInner s := by
  by_cases hopen : s.transportState = .opened
  · cases hm : ConnectionCore.apply s.debug (.openAdmission s.epoch) s.core with
    | mk result core =>
    have hcore : (applyCore (.openAdmission s.epoch) : Run B D C R Q W _) s =
        (result.mapError .core, { s with core }) := by
      simp only [applyCore, onCore, hm]
    have hrun : ConnectionSlot.openAdmissionInner s =
        (do let tr ← applyCore (.openAdmission s.epoch)
            interpretUnit tr
            if tr.disposition = .applied then publishAdmissionOpened
            pure tr.disposition : Run B D C R Q W InputDisposition) s := by
      simp only [ConnectionSlot.openAdmissionInner, Owner.read_bind, isTransportOpen, hopen,
        decide_true, Bool.not_true,
        Bool.false_eq_true, if_false]
    have hfollow : ∀ e, Owns permits s e → ∃ e', Holds s.limits.connection ⟨core, permits⟩ e' ∧
        Step e (.apply (.openAdmission s.epoch)) (.transition result) e' := by
      intro e he
      obtain ⟨e', hholds, hstep, _⟩ :=
        follows_step (R := Unit) he s.debug (.apply (.openAdmission s.epoch))
      simp only [World.step, World.transition, hm] at hholds hstep
      exact ⟨e', hholds, hstep⟩
    cases result with
    | error source =>
      have hrun' : ConnectionSlot.openAdmissionInner s =
          (.error (.core source), { s with core }) := by
        rw [hrun, Owner.bind_error hcore]
      refine walks_single ?_ fun e he => ?_
      · rw [hrun']
        exact fun _ h => (by cases h)
      · rw [hrun']
        obtain ⟨e', hholds, hstep⟩ := hfollow e he
        exact ⟨e', .refused (.admission none hopen rfl) hstep hholds⟩
    | ok tr =>
      rw [Owner.bind_ok (applyCore_ok hm)] at hrun
      by_cases happlied : tr.disposition = .applied
      · refine walks_single ?_ fun e he => ?_
        · rw [hrun]
          refine own_bind (own_interpret unitOutcome tr _) fun _ y _ => ?_
          rw [if_pos happlied, Owner.bind_pure_run]
          exact (own_of_internal (publishNext_internal .admissionOpened y)).map _
        · obtain ⟨e', hholds, hstep⟩ := hfollow e he
          have hnil : interpretUnit tr { s with core } = (.ok (), { s with core }) :=
            interpret_nil unitOutcome (openAdmission_effects hstep) _
          rw [hrun, Owner.bind_ok hnil, if_pos happlied, Owner.bind_pure_run, fault_map]
          exact ⟨e', .admitted hopen happlied hstep hholds⟩
      · have hrun' : ConnectionSlot.openAdmissionInner s =
            ((interpretUnit tr { s with core }).1.map fun _ =>
              tr.disposition, (interpretUnit tr { s with core }).2) := by
          rw [hrun, if_neg happlied, Owner.bind_pure_run]
        refine walks_single ?_ fun e he => ?_
        · rw [hrun']
          exact (own_interpret unitOutcome tr _).map _
        · obtain ⟨e', hholds, hstep⟩ := hfollow e he
          rw [hrun', fault_map]
          exact ⟨e', .exchange (.admission (some tr) hopen (by simpa using happlied)) hstep hholds⟩
  · have hrun : ConnectionSlot.openAdmissionInner s = (.ok .ignoredInvalidPhase, s) := by
      simp only [ConnectionSlot.openAdmissionInner, Owner.read_bind, isTransportOpen, hopen,
        decide_false, Bool.not_false,
        if_true, Owner.pure_run]
    exact walks_congr hrun (walks_pure InputDisposition.ignoredInvalidPhase s)

omit [ByteBudget B] [InboundClassifier C R] in
/-- A change that leaves the core alone may be made before or after the call of the core. -/
lemma answered_shift {g : ConnectionSlot B D C R Q W → ConnectionSlot B D C R Q W}
    (hg : ∀ core, { g s with core } = g { s with core })
    (m : ConnectionCore.Run B OutboundFrame (ConnectionTransition Unit)) :
    answered (fun _ => id) m (g s) = answered (fun _ => g) m s := by
  have hcore : (g s).core = s.core := by
    have h := congrArg ConnectionSlot.core (hg s.core)
    exact (congrArg ConnectionSlot.core (hg s.core)).symm ▸ rfl
  simp only [answered, hcore, id, hg]

/-- A close after a change that leaves the core alone. -/
lemma walks_closeAfter {g : ConnectionSlot B D C R Q W → ConnectionSlot B D C R Q W}
    {input : ConnectionInput} (hg : ∀ core, { g s with core } = g { s with core })
    (hdebug : (g s).debug = s.debug) {m : Run B D C R Q W Unit}
    (hm : m s = (do let tr ← applyCore input; interpretUnit tr : Run B D C R Q W Unit) (g s))
    (hocc : ∀ tr, Occasion cause s t (.apply input) tr g t) :
    Walks permits cause (fun s => (s, t)) m s := by
  obtain ⟨hown, hmove⟩ := answered_move (f := fun _ => g)
    (m := ConnectionCore.apply s.debug input) rfl fun tr _ => hocc tr
  have hrun : m s = ((answered (fun _ => g) (ConnectionCore.apply s.debug input) s).1.map
    fun _ => (),
      (answered (fun _ => g) (ConnectionCore.apply s.debug input) s).2) := by
    have h := converse_run input (fun _ => ()) (g s)
    simp only [bind_unit] at h
    rw [hm, h, hdebug, answered_shift hg]
  refine walks_single ?_ fun e he => ?_
  · rw [hrun]
    exact hown.map _
  · rw [hrun, fault_map]
    exact hmove e he

omit [FrameDecoder D R E] [InboundClassifier C R] in
lemma closeDecodeError_eq (error : FrameDecodeError E) (s : ConnectionSlot B D C R Q W) :
    closeDecodeError error s =
      (do let tr ← applyCore (closingInput s.epoch error); interpretUnit tr :
        Run B D C R Q W Unit) s := by
  cases error <;> rfl

lemma walks_deliver {frame : R} {decoder : FrameDriver D}
    (next : s.decoder.nextFrame = (.ok (some frame), decoder)) {m : Run B D C R Q W Unit}
    (hm : m s = deliver frame { s with decoder }) :
    Walks permits cause (fun s => (s, t)) m s := by
  by_cases hlarge : s.limits.replyBytes < Retained.retainedBytes frame
  · refine walks_closeAfter (g := ({ · with decoder })) (fun _ => rfl) rfl ?_ fun tr =>
      .oversized tr next hlarge
    rw [hm, deliver, Owner.read_bind, if_pos hlarge]
    rfl
  · have hsmall := not_lt.mp hlarge
    cases hkey : InboundClassifier.replyKey s.classifier frame with
    | mk key classifier =>
    cases key with
    | none =>
      refine walks_closeAfter (g := ({ · with decoder, classifier })) (fun _ => rfl) rfl ?_
        fun tr => .unkeyed tr next hsmall hkey
      rw [hm, deliver, Owner.read_bind, if_neg hlarge, Owner.update_bind]
      simp only [hkey]
      rfl
    | some key =>
      have hdeliver : m s =
          (do let tr ← applyReplyCore key frame; interpretReply tr : Run B D C R Q W Unit)
          { s with decoder, classifier } := by
        rw [hm, deliver, Owner.read_bind, if_neg hlarge, Owner.update_bind]
        simp only [hkey]
      have hfollow : ∀ e, Owns permits s e → Follows s.limits.connection ⟨s.core, permits⟩ e
          (.applyReply ⟨s.epoch, key, frame⟩)
          (World.transition ⟨s.core, permits⟩
              (ConnectionCore.applyReply s.debug ⟨s.epoch, key, frame⟩)) :=
        fun e he => follows_step he s.debug (.applyReply ⟨s.epoch, key, frame⟩)
      cases hcore : ConnectionCore.applyReply s.debug ⟨s.epoch, key, frame⟩ s.core with
      | mk result core =>
      cases result with
      | error source =>
        have happly : (applyReplyCore key frame : Run B D C R Q W _)
          { s with decoder, classifier } =
            (.error (.core source), { s with core, decoder, classifier }) := by
          show onCore (ConnectionCore.applyReply s.debug ⟨s.epoch, key, frame⟩) _ = _
          simp only [onCore, hcore, Except.mapError]
        rw [Owner.bind_error happly] at hdeliver
        refine walks_single ?_ fun e he => ?_
        · rw [hdeliver]
          exact fun _ h => (by cases h)
        · obtain ⟨e', hholds, hstep, _⟩ := hfollow e he
          rw [World.transition, hcore] at hholds hstep
          rw [hdeliver]
          exact ⟨e', .replyRefused next hsmall hkey hstep hholds⟩
      | ok tr =>
        have happly : (applyReplyCore key frame : Run B D C R Q W _)
          { s with decoder, classifier } =
            (.ok tr, { s with core, decoder, classifier }) := by
          show onCore (ConnectionCore.applyReply s.debug ⟨s.epoch, key, frame⟩) _ = _
          simp only [onCore, hcore, Except.mapError]
        rw [Owner.bind_ok happly] at hdeliver
        refine walks_single ?_ fun e he => ?_
        · rw [hdeliver]
          exact own_interpret .ok tr _
        · obtain ⟨e', hholds, hstep, _⟩ := hfollow e he
          rw [World.transition, hcore] at hholds hstep
          rw [hdeliver]
          exact ⟨e', .replied next hsmall hkey hstep hholds⟩

lemma walks_driveDecoderOnce : Walks permits cause (fun s => (s, t)) driveDecoderOnce s := by
  cases hnext : s.decoder.nextFrame with
  | mk result decoder =>
  cases result with
  | error error =>
    refine walks_closeAfter (g := ({ · with decoder, decoderPending := false }))
      (fun _ => rfl) rfl ?_
      fun tr => .undecodable tr hnext
    rw [driveDecoderOnce, Owner.update_bind, hnext]
    simp only [Owner.change_bind]
    exact closeDecodeError_eq error _
  | ok frame =>
    cases frame with
    | some frame =>
      refine walks_deliver hnext ?_
      rw [driveDecoderOnce, Owner.update_bind, hnext]
    | none =>
      by_cases hfull : s.limits.decoderBytes ≤ decoder.retainedBytes
      · refine walks_closeAfter (g := ({ · with decoder, decoderPending := false }))
          (fun _ => rfl) rfl ?_
          fun tr => .full tr hnext hfull
        rw [driveDecoderOnce, Owner.update_bind, hnext]
        simp only [Owner.change_bind, Owner.read_bind, if_pos hfull]
        rfl
      · have hrun : driveDecoderOnce s = (.ok (), { s with decoder, decoderPending := false }) := by
          rw [driveDecoderOnce, Owner.update_bind, hnext]
          simp only [Owner.change_bind, Owner.read_bind, if_neg hfull, Owner.pure_run]
        refine walks_single ?_ fun e _ => ?_
        · rw [hrun]
          exact fun _ h => (by cases h)
        · rw [hrun]
          exact ⟨e, .dry s t e hnext (not_le.mp hfull)⟩

/-- The close of a drain that met its deadline. -/
lemma walks_drainExpired {now : ℕ} (first : s.drainFirst now = true) :
    Walks permits cause (fun s => (s, t))
      (do
        Owner.change fun s =>
          { s.recordTransportFailure (.new .shutdown .timedOut .timedOut none) with
            drainDeadline := none }
        closeFor .requested
        pure 1 : Run B D C R Q W ℕ) s := by
  let s₁ := s.recordTransportFailure (.new .shutdown .timedOut .timedOut none)
  refine walks_after (y := s₁)
    (n := (fun s => closeFor .requested { s with drainDeadline := none } :
      Run B D C R Q W Unit) >>= fun _ => pure 1) rfl (fun e _ => .single (.noted s t e _)) ?_
  refine walks_bind ?_ fun _ y _ => walks_pure 1 y
  exact walks_closeAfter (g := ({ · with drainDeadline := none })) (fun _ => rfl) rfl rfl
    fun tr => .drainExpired tr first

/-- One due timer and what the core makes of it. -/
lemma walks_elapsed {now : ℕ} {event : DeadlineEvent} (due : (s.popDue now).1 = some event) :
    Walks permits cause (fun s => (s, t))
      (fun s => (do
        let tr ← applyCore (.deadlineElapsed event.epoch event.operation now)
        interpretUnit tr : Run B D C R Q W Unit) (s.popDue now).2) s := by
  have hframe := popDue_frame s now
  refine walks_closeAfter (g := fun s => (s.popDue now).2) ?_ ?_ rfl fun tr => .elapsed tr due
  · intro core
    simp only [popDue]
    split <;> rfl
  · rw [hframe]

lemma walks_driveDeadlines (now budget : ℕ) (s : ConnectionSlot B D C R Q W) :
    Walks permits cause (fun s => (s, t)) (driveDeadlines now budget) s := by
  induction budget generalizing s with
  | zero => exact walks_pure 0 s
  | succ budget ih =>
    by_cases hdrain : s.drainFirst now = true
    · refine walks_congr ?_ (walks_drainExpired hdrain)
      rw [driveDeadlines, Owner.read_bind, if_pos hdrain]
    · by_cases hconnect : s.connectFirst now = true
      · refine walks_congr (n := closeFor .connectTimedOut >>= fun _ => pure 1) ?_ ?_
        · rw [driveDeadlines, Owner.read_bind, if_neg hdrain, if_pos hconnect]
        · exact walks_bind (walks_closeFor (by decide)) fun _ y _ => walks_pure 1 y
      · cases hpop : (s.popDue now).1 with
        | none =>
          have hrun : driveDeadlines now (budget + 1) s = (.ok 0, (s.popDue now).2) := by
            rw [driveDeadlines, Owner.read_bind, if_neg hdrain, if_neg hconnect,
              Owner.update_bind, hpop]
            rfl
          refine walks_single ?_ fun e _ => ?_
          · rw [hrun]
            exact fun _ h => (by cases h)
          · rw [hrun]
            exact ⟨e, .quiet s t e hpop⟩
        | some event =>
          refine walks_congr ?_ (walks_bind (walks_elapsed hpop) (f := fun _ => do
            let s ← Owner.read
            if s.closeRequest.isSome then pure 1
            else
              let work ← driveDeadlines now budget
              pure (work + 1)) fun _ y _ => ?_)
          · rw [driveDeadlines, Owner.read_bind, if_neg hdrain, if_neg hconnect,
              Owner.update_bind, hpop]
            exact Owner.bind_assoc_run _ _ _ _
          · refine walks_congr (Owner.read_bind _ y) ?_
            split
            · exact walks_pure 1 y
            · exact walks_bind (ih y) fun work y _ => walks_pure (work + 1) y

end

/-! ### With a transport -/

section
variable {s : ConnectionSlot B D C R Q W} {t : T}

/-- A slot beside its transport. -/
abbrev beside (x : ConnectionSlot B D C R Q W × T) : ConnectionSlot B D C R Q W × Option T :=
  (x.1, some x.2)

lemma own_of_outside {α : Type} {r : Except EngineError α}
    (h : ∀ error, r = .error error → error.outside = true) :
    Own r := by
  intro reason hr
  cases h _ hr

/-- A failed step of the transport closes the epoch. -/
lemma walks_lost {reason : CloseReason} (h : reason ≠ .drained) (diagnostic : TransportDiagnostic) :
    Walks permits cause beside
      (do
        changeSlot (·.recordTransportFailure diagnostic)
        Owner.onFst (closeFor reason)
        pure (some 1) : Driving B D C R Q W T (Option ℕ)) (s, t) := by
  refine walks_after (y := (s.recordTransportFailure diagnostic, t))
    (n := (Owner.onFst (closeFor reason) : Driving B D C R Q W T Unit) >>=
      fun _ => pure (some 1)) rfl
    (fun e _ => .single (.noted s (some t) e diagnostic)) ?_
  exact walks_bind (walks_onFst (g := some) (walks_closeFor h)) fun _ y _ => walks_pure _ y

/-- The transport is seen open after a step of its establishment. -/
lemma walks_opened (hconnecting : s.transportState = .connecting) (hnone : s.closeRequest = none)
    (operations : ℕ) :
    Walks permits cause beside
      (do
        if ← Owner.ask SlotTransport.isOpen then
          changeSlot ({ · with transportState := .opened })
          Owner.onFst publishTransportOpened
        pure (some operations) : Driving B D C R Q W T (Option ℕ)) (s, t) := by
  cases hopen : SlotTransport.isOpen t with
  | mk isOpen t₁ =>
  cases isOpen with
  | false =>
    refine walks_bind (walks_ask (fun t => .isOpen t) _) fun isOpen y hy => ?_
    cases hy
    rw [hopen]
    exact walks_pure (some operations) _
  | true =>
    have hrun : (do
        if ← Owner.ask SlotTransport.isOpen then
          changeSlot ({ · with transportState := .opened })
          Owner.onFst publishTransportOpened
        pure (some operations) : Driving B D C R Q W T (Option ℕ)) (s, t) =
        ((publishTransportOpened { s with transportState := .opened }).1.map fun _ =>
          some operations,
          (publishTransportOpened { s with transportState := .opened }).2,
              (SlotTransport.isOpen t).2) := by
      rw [Owner.ask_bind, hopen]
      simp only [if_true]
      rw [changeSlot_bind, Owner.bind_pure_run]
      rfl
    refine walks_single ?_ fun e _ => ?_
    · rw [hrun]
      exact (own_of_internal (publishNext_internal .transportOpened _)).map _
    · rw [hrun, fault_map]
      exact ⟨e, .opened s t e hconnecting hnone (by rw [hopen])⟩

lemma walks_establish (hconnecting : s.transportState = .connecting)
    (hnone : s.closeRequest = none) :
    Walks permits cause beside (establish : Driving B D C R Q W T (Option ℕ)) (s, t) := by
  refine walks_congr (slot_bind _ _) ?_
  refine walks_bind (walks_ask (fun t => .canEstablish t) _) fun advertised y hy => ?_
  cases hy
  cases hcan : SlotTransport.canEstablish t with
  | mk advertised t₁ =>
  cases advertised with
  | false => exact walks_pure none _
  | true =>
    simp only [if_true]
    cases hdrive : (SlotTransport.driveEstablishment t₁ s.socketPolicy s.transportBudget).1 with
    | error source =>
      refine walks_after (y := (s,
        (SlotTransport.driveEstablishment t₁ s.socketPolicy s.transportBudget).2))
        (n := do
          changeSlot (·.recordTransportFailure source)
          Owner.onFst (closeFor .connectFailed)
          pure (some 1)) ?_ (fun e _ => .single (.touched s e (.establish t₁ _ _)))
            (walks_lost (by decide) source)
      rw [Owner.ask_bind, hdrive]
    | ok progress =>
      cases hvalid : validateTransportProgress s.transportBudget progress with
      | error error =>
        refine walks_congr (n := fun x =>
          (.error error, x.1, (SlotTransport.driveEstablishment x.2 s.socketPolicy
          s.transportBudget).2)) ?_ (walks_single ?_ fun e _ => ?_)
        · rw [Owner.ask_bind, hdrive]
          simp only [hvalid]
          rfl
        · refine own_of_outside fun error' h => ?_
          cases h
          exact validate_outside hvalid
        · exact ⟨e, .misreported s e (.establishing hconnecting hcan hdrive hvalid)⟩
      | ok =>
        refine walks_after (y := (s,
          (SlotTransport.driveEstablishment t₁ s.socketPolicy s.transportBudget).2))
          (n := do
            if ← Owner.ask SlotTransport.isOpen then
              changeSlot ({ · with transportState := .opened })
              Owner.onFst publishTransportOpened
            pure (some progress.operations)) ?_
              (fun e _ => .single (.touched s e (.establish t₁ _ _))) ?_
        · rw [Owner.ask_bind, hdrive]
          simp only [hvalid]
          rfl
        · exact walks_opened hconnecting hnone _

lemma walks_driveTransportWork :
    Walks permits cause beside (driveTransportWork : Driving B D C R Q W T (Option ℕ)) (s, t) := by
  refine walks_congr (slot_bind _ _) ?_
  refine walks_bind (walks_ask (fun t => .hasTransportWork t) _) fun advertised y hy => ?_
  cases hy
  cases hcan : SlotTransport.hasTransportWork t with
  | mk advertised t₁ =>
  cases advertised with
  | false => exact walks_pure none _
  | true =>
    simp only [if_true]
    cases hdrive : (SlotTransport.driveTransport t₁ s.transportBudget).1 with
    | error source =>
      refine walks_after (y := (s, (SlotTransport.driveTransport t₁ s.transportBudget).2))
        (n := do
          changeSlot (·.recordTransportFailure source)
          Owner.onFst (closeFor .transportLost)
          pure (some 1)) ?_ (fun e _ => .single (.touched s e (.drive t₁ _)))
            (walks_lost (by decide) source)
      rw [Owner.ask_bind, hdrive]
    | ok progress =>
      cases hvalid : validateTransportProgress s.transportBudget progress with
      | error error =>
        refine walks_congr (n := fun x =>
          (.error error, x.1, (SlotTransport.driveTransport x.2 s.transportBudget).2)) ?_
          (walks_single ?_ fun e _ => ?_)
        · rw [Owner.ask_bind, hdrive]
          simp only [hvalid]
          rfl
        · refine own_of_outside fun error' h => ?_
          cases h
          exact validate_outside hvalid
        · exact ⟨e, .misreported s e (.driving hcan hdrive hvalid)⟩
      | ok =>
        refine walks_after (y := (s, (SlotTransport.driveTransport t₁ s.transportBudget).2))
          (n := pure (some progress.operations)) ?_
            (fun e _ => .single (.touched s e (.drive t₁ _))) (walks_pure _ _)
        rw [Owner.ask_bind, hdrive]
        simp only [hvalid]
        rfl

lemma walks_driveTransportOnce (remaining : ℕ) (hnone : s.closeRequest = none) :
    Walks permits cause beside (driveTransportOnce remaining : Driving B D C R Q W T (Option ℕ))
      (s, t) := by
  refine walks_congr (slot_bind _ _) ?_
  by_cases hconnecting : s.transportState = .connecting
  · rw [if_pos (by simpa [isConnecting] using hconnecting)]
    cases hopen : SlotTransport.isOpen t with
    | mk early t₁ =>
    cases early with
    | true =>
      refine walks_congr (n := fun x =>
        (.error (.invariant .transportOpenedBeforeEstablishment), x.1,
        (SlotTransport.isOpen x.2).2)) ?_ (walks_single (fun _ h => (by cases h)) fun e _ => ?_)
      · rw [Owner.ask_bind, hopen]
        simp only [if_true]
        rfl
      · exact ⟨e, .openedEarly s t e hconnecting (by rw [hopen])⟩
    | false =>
      refine walks_bind (walks_ask (fun t => .isOpen t) _) fun early y hy => ?_
      cases hy
      simp only [hopen, Bool.false_eq_true, if_false]
      split
      · exact walks_pure none _
      · exact walks_establish hconnecting hnone
  · rw [if_neg (by simpa [isConnecting] using hconnecting)]
    split
    · exact walks_pure none _
    · exact walks_driveTransportWork

lemma walks_feedDecoder {u : Option T} {read : ℕ} (hroom : read ≤ s.readLength)
    (hopened : s.transportState = .opened) :
    Walks permits cause (fun s => (s, u)) (feedDecoder read) s := by
  have hbytes : (s.readBuffer.take read).length ≤ s.readLength :=
    (List.length_take_le _ _).trans hroom
  cases hfeed : s.decoder.feed (s.readBuffer.take read) with
  | mk result decoder =>
  cases result with
  | error error =>
    refine walks_closeAfter (g := ({ · with decoder })) (fun _ => rfl) rfl ?_ fun tr =>
      .unfed tr hfeed hbytes hopened
    rw [feedDecoder, Owner.update_bind, hfeed]
    exact closeDecodeError_eq error _
  | ok =>
    have hrun : feedDecoder read s = (.ok (), { s with decoder, decoderPending := true }) := by
      rw [feedDecoder, Owner.update_bind, hfeed]
      rfl
    refine walks_single ?_ fun e _ => ?_
    · rw [hrun]
      exact fun _ h => (by cases h)
    · rw [hrun]
      exact ⟨e, .fed s u e hfeed hbytes hopened⟩

/-- The slice a read is given. -/
def slice (s : ConnectionSlot B D C R Q W) : List.Vector UInt8 s.readLength :=
  ⟨s.readBuffer.take s.readLength, by rw [List.length_take, readLength]; omega⟩

/-- The slot after a read filled its slice. -/
def refilled (s : ConnectionSlot B D C R Q W) (t : T) : ConnectionSlot B D C R Q W :=
  { s with
    readBuffer := (SlotTransport.read t (slice s)).1.2.toList ++ s.readBuffer.drop s.readLength }

section
omit [ByteBudget B] [Retained R] [InboundClassifier C R] [EventBatch Q] [TimerQueue W]

lemma readInto_run (s : ConnectionSlot B D C R Q W) (t : T) :
    (readInto : Driving B D C R Q W T _) (s, t) =
      (.ok (SlotTransport.read t (slice s)).1.1, refilled s t,
        (SlotTransport.read t (slice s)).2) := rfl

lemma refilled_length (s : ConnectionSlot B D C R Q W) (t : T) :
    (refilled s t).readBuffer.length = s.readBuffer.length := by
  have hle : s.readLength ≤ s.readBuffer.length := min_le_right _ _
  simp only [refilled, List.length_append, List.Vector.toList_length, List.length_drop]
  omega

lemma refilled_readLength (s : ConnectionSlot B D C R Q W) (t : T) :
    (refilled s t).readLength = s.readLength := by
  show min _ (refilled s t).readBuffer.length = _
  rw [refilled_length]
  rfl

end

/-- A read that stays within its slice. -/
lemma path_refilled (s : ConnectionSlot B D C R Q W) (t : T) (e : Epoch OutboundFrame) :
    Path permits cause ⟨s, some t, e, none⟩
      ⟨refilled s t, some (SlotTransport.read t (slice s)).2, e, none⟩ :=
  .tail (.single (.touched s e (.read t (slice s)))) (.buffered s _ e (refilled_length s t))

lemma walks_driveReadOnce (hopened : s.transportState = .opened) :
    Walks permits cause beside (driveReadOnce : Driving B D C R Q W T (Option ℕ)) (s, t) := by
  refine walks_bind (walks_ask (fun t => .canRead t) _) fun readable y hy => ?_
  cases hy
  cases hcan : SlotTransport.canRead t with
  | mk readable t₁ =>
  cases readable with
  | false => exact walks_pure none _
  | true =>
    simp only [if_true]
    refine walks_congr (slot_bind _ _) ?_
    by_cases hzero : s.readLength = 0
    · rw [if_pos hzero]
      exact walks_bind (walks_onFst (g := some) (walks_closeFor (by decide))) fun _ y _ =>
        walks_pure _ y
    · rw [if_neg hzero]
      cases hread : (SlotTransport.read t₁ (slice s)).1.1 with
      | error source =>
        refine walks_after (y := (refilled s t₁, (SlotTransport.read t₁ (slice s)).2)) (n := do
            if source.kind = .wouldBlock then Owner.ask fun t => ((), SlotTransport.clearRead t)
            else
              changeSlot (·.recordTransportFailure (.fromIo .read source))
              Owner.onFst (closeFor .transportLost)
            pure (some 1)) ?_ (fun e _ => path_refilled s t₁ e) ?_
        · rw [Owner.bind_ok (readInto_run s t₁), hread]
        · split
          · exact walks_bind (walks_ask (fun t => .clearRead t) _) fun _ y _ => walks_pure _ y
          · exact walks_lost (by decide) _
      | ok read =>
        cases read with
        | zero =>
          refine walks_after (y := (refilled s t₁, (SlotTransport.read t₁ (slice s)).2))
            (n := (Owner.onFst (closeFor .transportLost) : Driving B D C R Q W T Unit) >>=
              fun _ => pure (some 1)) ?_
            (fun e _ => path_refilled s t₁ e) ?_
          · rw [Owner.bind_ok (readInto_run s t₁), hread]
            rfl
          · exact walks_bind (walks_onFst (g := some) (walks_closeFor (by decide))) fun _ y _ =>
              walks_pure _ y
        | succ read =>
          by_cases hlarge : s.readLength < read + 1
          · refine walks_congr (n := fun x =>
              (.error (.invariant (.transportReadContract s.readLength (read + 1))),
              refilled x.1 x.2, (SlotTransport.read x.2 (slice x.1)).2)) ?_
              (walks_single (fun _ h => (by cases h)) fun e _ => ?_)
            · rw [Owner.bind_ok (readInto_run s t₁), hread]
              simp only [if_pos hlarge]
              rfl
            · exact ⟨e, .overread s t₁ e hread hlarge (refilled_length s t₁)⟩
          · refine walks_after (y := (refilled s t₁, (SlotTransport.read t₁ (slice s)).2))
              (n := (Owner.onFst (feedDecoder (read + 1)) : Driving B D C R Q W T Unit) >>=
                fun _ => pure (some 1)) ?_
              (fun e _ => path_refilled s t₁ e) ?_
            · rw [Owner.bind_ok (readInto_run s t₁), hread]
              simp only [if_neg hlarge]
            · have hroom : read + 1 ≤ (refilled s t₁).readLength := by
                rw [refilled_readLength]
                exact not_lt.mp hlarge
              exact walks_bind (walks_onFst (g := some) (walks_feedDecoder hroom hopened))
                fun _ y _ => walks_pure _ y

/-! #### Writing -/

omit [ByteBudget B] in
/-- The writer shows its front without a change, or fails. -/
lemma frontWrite_cases (c : ConnectionCore B OutboundFrame) (maximum : ℕ) :
    (∃ slice, c.frontWrite OutboundFrame.view maximum = (.ok slice, c)) ∨
      ∃ source core, c.frontWrite OutboundFrame.view maximum = (.error source, core) := by
  cases h : c.frontWrite OutboundFrame.view maximum with
  | mk result core =>
  cases result with
  | error source => exact .inr ⟨source, core, rfl⟩
  | ok slice =>
    left
    unfold ConnectionCore.frontWrite at h
    split at h
    · cases h
    · split at h
      · cases h
      · split at h
        · cases h
          exact ⟨_, rfl⟩
        · cases h

omit [InboundClassifier C R] in
/-- A report of written bytes, as the slot takes its answer. -/
lemma advanceCore_run (front : WriteSlice) (written : ℕ) (s : ConnectionSlot B D C R Q W) :
    advanceCore front written s =
      ((answered (fun _ => id) (ConnectionCore.advanceWrite front.epoch front.effect written)
        s).1.map fun _ => (),
        (answered (fun _ => id) (ConnectionCore.advanceWrite front.epoch front.effect
          written) s).2) := by
  cases hm : ConnectionCore.advanceWrite (R := Unit) front.epoch front.effect written s.core with
  | mk result core =>
  cases result with
  | error source =>
    have hcore : (onCore (ConnectionCore.advanceWrite front.epoch front.effect written) :
        Run B D C R Q W (ConnectionTransition Unit)) s =
            (.error (.core source), { s with core }) := by
      simp only [onCore, hm, Except.mapError]
    rw [advanceCore, Owner.bind_error hcore]
    simp only [answered, hm]
    rfl
  | ok tr =>
    have hcore : (onCore (ConnectionCore.advanceWrite front.epoch front.effect written) :
        Run B D C R Q W (ConnectionTransition Unit)) s = (.ok tr, { s with core }) := by
      simp only [onCore, hm, Except.mapError]
    rw [advanceCore, Owner.bind_ok hcore]
    simp only [answered, hm, Owner.map_map, id]
    cases interpretUnit tr { s with core } with
    | mk result s' => cases result <;> rfl

lemma walks_writeFront {front : WriteSlice}
    (hfront : s.core.frontWrite OutboundFrame.view s.limits.ioChunkBytes =
      (.ok (some front), s.core)) :
    Walks permits cause beside (writeFront front : Driving B D C R Q W T Unit) (s, t) := by
  cases hwrite : (SlotTransport.write t front.bytes).1 with
  | error source =>
    refine walks_after (y := (s, (SlotTransport.write t front.bytes).2)) (n := do
        if source.kind = .wouldBlock then Owner.ask fun t => ((), SlotTransport.clearWrite t)
        else
          changeSlot (·.recordTransportFailure (.fromIo .write source))
          Owner.onFst (closeFor .transportLost)) ?_
            (fun e _ => .single (.touched s e (.write t _))) ?_
    · rw [writeFront, Owner.ask_bind, hwrite]
    · split
      · exact walks_ask (fun t => .clearWrite t) _
      · refine walks_after (y := (s.recordTransportFailure (.fromIo .write source),
          (SlotTransport.write t front.bytes).2))
          (n := Owner.onFst (closeFor .transportLost)) rfl (fun e _ => .single (.noted s _ e _)) ?_
        exact walks_onFst (g := some) (walks_closeFor (by decide))
  | ok written =>
    cases written with
    | zero =>
      refine walks_after (y := (s, (SlotTransport.write t front.bytes).2))
        (n := Owner.onFst (closeFor .transportLost))
        ?_ (fun e _ => .single (.touched s e (.write t _)))
          (walks_onFst (g := some) (walks_closeFor (by decide)))
      rw [writeFront, Owner.ask_bind, hwrite]
      rfl
    | succ written =>
      have hrun : (writeFront front : Driving B D C R Q W T Unit) (s, t) =
          ((advanceCore front (written + 1) s).1, (advanceCore front (written + 1) s).2,
            (SlotTransport.write t front.bytes).2) := by
        rw [writeFront, Owner.ask_bind, hwrite]
        rfl
      obtain ⟨hown, hmove⟩ := answered_move (f := fun _ => id)
        (m := ConnectionCore.advanceWrite front.epoch front.effect (written + 1)) rfl
        fun tr _ => .wrote tr hfront rfl hwrite (by omega)
      refine walks_single ?_ fun e he => ?_
      · rw [hrun, advanceCore_run]
        exact hown.map _
      · rw [hrun, advanceCore_run, fault_map]
        exact hmove e he

lemma walks_advanceEmpty {u : Option T} {front : WriteSlice}
    (hfront : s.core.frontWrite OutboundFrame.view s.limits.ioChunkBytes =
      (.ok (some front), s.core))
    (hempty : front.bytes = []) :
    Walks permits cause (fun s => (s, u)) (advanceCore front 0) s := by
  obtain ⟨hown, hmove⟩ := answered_move (f := fun _ => id) (t := u)
    (m := ConnectionCore.advanceWrite front.epoch front.effect 0) rfl
    fun tr _ => .empty tr hfront hempty
  refine walks_single ?_ fun e he => ?_
  · rw [advanceCore_run]
    exact hown.map _
  · rw [advanceCore_run, fault_map]
    exact hmove e he

lemma walks_driveWriteOnce :
    Walks permits cause beside (driveWriteOnce : Driving B D C R Q W T (Option ℕ)) (s, t) := by
  refine walks_bind (walks_ask (fun t => .isOpen t) _) fun isOpen y hy => ?_
  cases hy
  cases hopen : SlotTransport.isOpen t with
  | mk isOpen t₁ =>
  cases isOpen with
  | false => exact walks_pure none _
  | true =>
    simp only [if_true]
    obtain ⟨slice, hfront⟩ | ⟨source, core, hfront⟩ := frontWrite_cases s.core s.limits.ioChunkBytes
    · have hcore : (Owner.onFst frontWriteCore : Driving B D C R Q W T (Option WriteSlice))
          (s, t₁) = (.ok slice, s, t₁) := by
        simp only [Owner.onFst_run, frontWriteCore, onCore, hfront, Except.mapError]
      refine walks_congr (Owner.bind_ok hcore _) ?_
      cases slice with
      | none => exact walks_pure none _
      | some front =>
        by_cases hempty : front.bytes = []
        · simp only [hempty, List.isEmpty_nil, if_true]
          exact walks_bind (walks_onFst (g := some) (walks_advanceEmpty hfront hempty)) fun _ y _ =>
            walks_pure _ y
        · have hsome : front.bytes.isEmpty = false := by simpa using hempty
          simp only [hsome, Bool.false_eq_true, if_false]
          refine walks_bind (walks_ask (fun t => .canWrite t) _) fun writable y hy => ?_
          cases hy
          split
          · exact walks_bind (walks_writeFront hfront) fun _ y _ => walks_pure _ y
          · exact walks_pure none _
    · have hcore :
        (Owner.onFst frontWriteCore : Driving B D C R Q W T (Option WriteSlice)) (s, t₁) =
          (.error (.core source), { s with core }, t₁) := by
        simp only [Owner.onFst_run, frontWriteCore, onCore, hfront, Except.mapError]
      refine walks_single ?_ fun e he => ?_
      · rw [Owner.bind_error hcore]
        exact fun _ h => (by cases h)
      · rw [Owner.bind_error hcore]
        obtain ⟨e', hholds, hstep, _⟩ := follows_step (R := Unit) he s.debug
          (.frontWrite OutboundFrame.view s.limits.ioChunkBytes)
        simp only [World.step, hfront] at hholds hstep
        exact ⟨e', .fronted hstep hholds⟩

/-! #### The rotation -/

/-- The computation does not end without progress. -/
def Busy (m : Driving B D C R Q W T (Option ℕ)) (x : ConnectionSlot B D C R Q W × T) : Prop :=
  ∀ y, m x ≠ (.ok none, y)

section
omit [ByteBudget B] [Retained R] [InboundClassifier C R] [EventBatch Q] [TimerQueue W]
  [SlotTransport T]

lemma busy_some (n : ℕ) (x : ConnectionSlot B D C R Q W × T) : Busy (pure (some n)) x := by
  rintro y ⟨⟩

lemma busy_bind {α : Type} {m : Driving B D C R Q W T α} {f : α → Driving B D C R Q W T (Option ℕ)}
    {x : ConnectionSlot B D C R Q W × T} (h : ∀ a y, Busy (f a) y) : Busy (m >>= f) x := by
  intro y hy
  cases hm : m x with
  | mk result z =>
  cases result with
  | error => rw [Owner.bind_error hm] at hy; cases hy
  | ok a =>
    rw [Owner.bind_ok hm] at hy
    exact h a z y hy

end

/-- The computation leaves the slot alone when it finds nothing to do. -/
def Idles (m : Driving B D C R Q W T (Option ℕ)) (x : ConnectionSlot B D C R Q W × T) : Prop :=
  ∀ y, m x = (.ok none, y) → y.1 = x.1

section
omit [ByteBudget B] [Retained R] [InboundClassifier C R] [EventBatch Q] [TimerQueue W]
  [SlotTransport T]

lemma idles_none (x : ConnectionSlot B D C R Q W × T) : Idles (pure none) x := by
  rintro y ⟨⟩
  rfl

lemma Busy.idles {m : Driving B D C R Q W T (Option ℕ)} {x : ConnectionSlot B D C R Q W × T}
    (h : Busy m x) :
    Idles m x := fun y hy => absurd hy (h y)

lemma idles_ask {α : Type} {f : T → α × T} {g : α → Driving B D C R Q W T (Option ℕ)}
    {x : ConnectionSlot B D C R Q W × T}
    (h : Idles (g (f x.2).1) (x.1, (f x.2).2)) : Idles (Owner.ask f >>= g) x := by
  intro y hy
  rw [Owner.ask_bind] at hy
  exact h y hy

lemma idles_slot {g : ConnectionSlot B D C R Q W → Driving B D C R Q W T (Option ℕ)}
    {x : ConnectionSlot B D C R Q W × T} (h : Idles (g x.1) x) : Idles (slot >>= g) x := h

end

section
omit [InboundClassifier C R]

lemma idles_establish (x : ConnectionSlot B D C R Q W × T) : Idles establish x := by
  refine idles_slot (idles_ask ?_)
  split
  · refine idles_ask (Busy.idles ?_)
    split
    · exact busy_bind fun _ _ => busy_bind fun _ _ => busy_some _ _
    · refine busy_bind fun _ _ => busy_bind fun _ _ => ?_
      split
      · exact busy_bind fun _ _ => busy_bind fun _ _ => busy_some _ _
      · exact busy_some _ _
  · exact idles_none _

lemma idles_driveTransportWork (x : ConnectionSlot B D C R Q W × T) :
    Idles driveTransportWork x := by
  refine idles_slot (idles_ask ?_)
  split
  · refine idles_ask (Busy.idles ?_)
    split
    · exact busy_bind fun _ _ => busy_bind fun _ _ => busy_some _ _
    · exact busy_bind fun _ _ => busy_some _ _
  · exact idles_none _

lemma idles_driveTransportOnce (remaining : ℕ) (x : ConnectionSlot B D C R Q W × T) :
    Idles (driveTransportOnce remaining) x := by
  refine idles_slot ?_
  split
  · refine idles_ask ?_
    split
    · exact fun y hy => (by cases hy)
    · split
      · exact idles_none _
      · exact idles_establish _
  · split
    · exact idles_none _
    · exact idles_driveTransportWork _

lemma idles_driveReadOnce (x : ConnectionSlot B D C R Q W × T) : Idles driveReadOnce x := by
  refine idles_ask ?_
  split
  · refine idles_slot (Busy.idles ?_)
    split
    · exact busy_bind fun _ _ => busy_some _ _
    · refine busy_bind fun _ _ => ?_
      split
      · exact busy_bind fun _ _ => busy_some _ _
      · split <;> exact busy_bind fun _ _ => busy_some _ _
      · split
        · exact busy_bind fun _ _ => busy_some _ _
        · exact busy_bind fun _ _ => busy_bind fun _ _ => busy_some _ _
  · exact idles_none _

lemma idles_driveWriteOnce (x : ConnectionSlot B D C R Q W × T) : Idles driveWriteOnce x := by
  refine idles_ask ?_
  split
  · obtain ⟨slice, hfront⟩ | ⟨source, core, hfront⟩ :=
      frontWrite_cases x.1.core x.1.limits.ioChunkBytes
    · have hcore : (Owner.onFst frontWriteCore : Driving B D C R Q W T (Option WriteSlice))
          (x.1, (SlotTransport.isOpen x.2).2) = (.ok slice, x.1, (SlotTransport.isOpen x.2).2) := by
        simp only [Owner.onFst_run, frontWriteCore, onCore, hfront, Except.mapError]
      intro y hy
      rw [Owner.bind_ok hcore] at hy
      revert y
      show Idles _ _
      split
      · exact idles_none _
      · split
        · exact (busy_bind fun _ _ => busy_some _ _).idles
        · refine idles_ask ?_
          split
          · exact (busy_bind fun _ _ => busy_some _ _).idles
          · exact idles_none _
    · have hcore : (Owner.onFst frontWriteCore : Driving B D C R Q W T (Option WriteSlice))
          (x.1, (SlotTransport.isOpen x.2).2) =
              (.error (.core source), { x.1 with core }, (SlotTransport.isOpen x.2).2) := by
        simp only [Owner.onFst_run, frontWriteCore, onCore, hfront, Except.mapError]
      intro y hy
      rw [Owner.bind_error hcore] at hy
      cases hy
  · exact idles_none _

end

/-- **A class of I/O that finds nothing to do leaves the slot alone.** -/
theorem idles_driveClass (remaining : ℕ) (current : IoPreference)
    (x : ConnectionSlot B D C R Q W × T) :
    Idles (driveClass remaining current) x := by
  cases current with
  | transport => exact idles_driveTransportOnce remaining x
  | decode =>
    refine idles_slot ?_
    split
    · exact (busy_bind fun _ _ => busy_some _ _).idles
    · exact idles_none _
  | read =>
    refine idles_slot ?_
    split
    · exact idles_driveReadOnce x
    · exact idles_none _
  | write =>
    refine idles_slot ?_
    split
    · exact idles_driveWriteOnce x
    · exact idles_none _

lemma walks_driveClass (remaining : ℕ) (current : IoPreference) (hnone : s.closeRequest = none) :
    Walks permits cause beside (driveClass remaining current : Driving B D C R Q W T (Option ℕ))
      (s, t) := by
  cases current with
  | transport => exact walks_driveTransportOnce remaining hnone
  | decode =>
    refine walks_congr (slot_bind _ _) ?_
    split
    · exact walks_bind (walks_onFst (g := some) walks_driveDecoderOnce) fun _ y _ => walks_pure _ y
    · exact walks_pure none _
  | read =>
    refine walks_congr (slot_bind _ _) ?_
    split
    · next hopen => exact walks_driveReadOnce (by simpa [isTransportOpen] using hopen)
    · exact walks_pure none _
  | write =>
    refine walks_congr (slot_bind _ _) ?_
    split
    · exact walks_driveWriteOnce
    · exact walks_pure none _

lemma walks_capture (x : ConnectionSlot B D C R Q W × T) :
    Walks permits cause beside (captureTransportPressure : Driving B D C R Q W T Unit) x :=
  walks_single (own_of_outside (capture_outside x)) fun e _ => ⟨e, .pressed x.1 x.2 e none⟩

omit [ByteBudget B] [Retained R] [InboundClassifier C R] [EventBatch Q] [TimerQueue W] in
@[simp] lemma capture_closeRequest (x : ConnectionSlot B D C R Q W × T) :
    (captureTransportPressure x).2.1.closeRequest = x.1.closeRequest := by
  rw [capture_frame]

/-- The rotation makes one class of I/O after the other, with a look at the memory after each. -/
lemma driveFrom_succ (remaining classes : ℕ) (current : IoPreference)
    (x : ConnectionSlot B D C R Q W × T) :
    driveFrom remaining (classes + 1) current x =
      match (driveClass remaining current x).1,
        (captureTransportPressure (driveClass remaining current x).2).1,
        (captureTransportPressure (driveClass remaining current x).2).2 with
      | .error error, _, y => (.error error, y)
      | .ok _, .error error, y => (.error error, y)
      | .ok (some progressed), .ok (), y =>
        (.ok (some progressed), { y.1 with ioPreference := current.next }, y.2)
      | .ok none, .ok (), y => driveFrom remaining classes current.next y := by
  rw [driveFrom, Owner.attempt_bind, Owner.attempt_bind]
  cases (driveClass remaining current x).1 with
  | error => rfl
  | ok progressed =>
    cases (captureTransportPressure (driveClass remaining current x).2).1 with
    | error => cases progressed <;> rfl
    | ok => cases progressed <;> rfl

lemma walks_driveFrom (remaining classes : ℕ) (current : IoPreference)
    (x : ConnectionSlot B D C R Q W × T) (hnone : x.1.closeRequest = none) :
    Walks permits cause beside
      (driveFrom remaining classes current : Driving B D C R Q W T (Option ℕ)) x := by
  induction classes generalizing current x with
  | zero => exact walks_pure none x
  | succ classes ih =>
    obtain ⟨hown, hwalk⟩ := walks_driveClass (s := x.1) (t := x.2) remaining current hnone
    have hidle := idles_driveClass remaining current x
    unfold Walks
    rw [driveFrom_succ]
    cases hclass : driveClass remaining current x with
    | mk result y =>
    have hclass' : driveClass remaining current (x.1, x.2) = (result, y) := hclass
    rw [hclass'] at hown hwalk
    cases hpressure : captureTransportPressure y with
    | mk pressure z =>
    -- the class of I/O, then the look at the memory
    have hpath : ∀ e, Owns permits x.1 e → ∃ e', Path permits cause ⟨x.1, some x.2, e, none⟩
        ⟨z.1, some z.2, e', fault result <|> fault pressure⟩ := by
      intro e he
      obtain ⟨e', hpath⟩ := hwalk e he
      have hmove : Move permits cause ⟨y.1, some y.2, e', fault result⟩ _ :=
        .pressed y.1 y.2 e' (fault result)
      have hy : captureTransportPressure (y.1, y.2) = (pressure, z) := hpressure
      rw [hy] at hmove
      exact ⟨e', hpath.tail hmove⟩
    cases result with
    | error error =>
      refine ⟨?_, fun e he => hpath e he⟩
      intro reason h
      exact hown reason (by cases h; rfl)
    | ok progressed =>
      cases pressure with
      | error error =>
        have hout : error.outside = true := capture_outside y error (by rw [hpressure])
        refine ⟨?_, fun e he => ?_⟩
        · cases progressed <;> exact own_of_outside (fun error' h => by cases h; exact hout)
        · cases progressed <;> exact hpath e he
      | ok =>
        cases progressed with
        | some progressed =>
          refine ⟨fun _ h => (by cases h), fun e he => ?_⟩
          obtain ⟨e', hpath'⟩ := hpath e he
          exact ⟨e', hpath'.tail (.preferred z.1 (some z.2) e' current.next)⟩
        | none =>
          have hz : z.1.closeRequest = none := by
            have h := capture_closeRequest y
            rw [hpressure] at h
            rw [h, hidle y hclass, hnone]
          obtain ⟨hown', hwalk'⟩ := ih current.next z hz
          refine ⟨hown', fun e he => ?_⟩
          obtain ⟨e', hpath'⟩ := hpath e he
          obtain ⟨e'', hpath''⟩ := hwalk' e' (Path.owns hpath' he).2
          exact ⟨e'', hpath'.trans hpath''⟩

lemma walks_driveReadyOnce (remaining : ℕ) (x : ConnectionSlot B D C R Q W × T)
    (hnone : x.1.closeRequest = none) :
    Walks permits cause beside (driveReadyOnce remaining : Driving B D C R Q W T (Option ℕ)) x :=
  walks_congr (slot_bind _ _) (walks_driveFrom remaining 4 _ x hnone)

lemma walks_hasRunnableIo (x : ConnectionSlot B D C R Q W × T) :
    Walks permits cause beside (hasRunnableIo : Driving B D C R Q W T Bool) x := by
  refine walks_congr (slot_bind _ _) ?_
  refine walks_either (walks_pure _ _) fun y => walks_either (walks_both (walks_pure _ _) fun y =>
    walks_either (walks_ask (fun t => .isOpen t) _) fun y =>
      walks_ask (fun t => .canEstablish t) _) fun y => ?_
  refine walks_either (walks_both (walks_pure _ _) fun y =>
    walks_ask (fun t => .hasTransportWork t) _) fun y => ?_
  refine walks_either (walks_both (walks_pure _ _) fun y =>
    walks_ask (fun t => .canRead t) _) fun y => ?_
  refine walks_both (walks_pure _ _) fun y =>
    walks_both (walks_ask (fun t => .isOpen t) _) fun y => ?_
  exact walks_both (walks_pure _ _) fun y => walks_either (walks_pure _ _) fun y =>
    walks_ask (fun t => .canWrite t) _

/-! #### The shutdown -/

lemma walks_shutdownStep {reason : CloseReason} {shutdown : ShutdownState} {deadline : Deadline}
    {drive : T → TransportBudget → Except TransportDiagnostic TransportProgress × T}
    (request : s.closeRequest = some (.core reason shutdown))
    (shuts : ShutsBy T deadline shutdown drive) :
    Walks permits cause beside
      (shutdownStep reason deadline drive : Driving B D C R Q W T (Option ℕ)) (s, t) :=
  walks_single (own_of_outside fun _ h => shutdownStep_outside h) fun e _ =>
    ⟨e, .shut s t e request shuts⟩

/-- The shutdown is seen complete, or not yet. -/
lemma walks_driveStarted {reason : CloseReason} {deadline : Deadline}
    (request : s.closeRequest = some (.core reason (.started deadline))) :
    Walks permits cause beside (driveStarted reason deadline : Driving B D C R Q W T (Option ℕ))
      (s, t) := by
  cases hcomplete : SlotTransport.isShutdownComplete t with
  | mk complete t₁ =>
  cases complete with
  | true =>
    refine walks_congr (n := fun x =>
      (.ok none, x.1.completeShutdown reason, (SlotTransport.isShutdownComplete x.2).2))
      ?_ (walks_single (fun _ h => (by cases h)) fun e _ => ?_)
    · rw [driveStarted, Owner.ask_bind, hcomplete]
      rfl
    · exact ⟨e, .completed s t e request (by rw [hcomplete])⟩
  | false =>
    refine walks_bind (walks_ask (fun t => .isShutdownComplete t) _) fun complete y hy => ?_
    cases hy
    simp only [hcomplete, Bool.false_eq_true, if_false]
    refine walks_bind (walks_ask (fun t => .hasTransportWork t) _) fun work y hy => ?_
    cases hy
    split
    · exact walks_shutdownStep request (.drive deadline)
    · exact walks_pure none _

lemma walks_shutdownTimedOut {now : ℕ} {transport : Option T}
    (hcause : cause = .driveQuantum now transport) {reason : CloseReason} {shutdown : ShutdownState}
    {deadline : Deadline} (request : s.closeRequest = some (.core reason shutdown))
    (graceful : shutdown = .pending deadline ∨ shutdown = .started deadline)
    (elapsed : deadline.isElapsedAt now = true) :
    Walks permits cause beside
      (do changeSlot (·.shutdownTimedOut reason); pure (some 1) :
        Driving B D C R Q W T (Option ℕ)) (s, t) :=
  walks_single (fun _ h => (by cases h)) fun e _ =>
    ⟨e, .timedOut s (some t) e hcause request graceful elapsed⟩

lemma walks_driveShutdownOnce {now : ℕ} {transport : Option T}
    (hcause : cause = .driveQuantum now transport) (remaining : ℕ)
    (x : ConnectionSlot B D C R Q W × T) :
    Walks permits cause beside
      (driveShutdownOnce now remaining : Driving B D C R Q W T (Option ℕ)) x := by
  refine walks_congr (slot_bind _ _) ?_
  split
  · next reason deadline request =>
    split
    · next elapsed => exact walks_shutdownTimedOut hcause request (.inl rfl) elapsed
    · split
      · exact walks_pure none _
      · exact walks_shutdownStep request (.begin deadline)
  · next reason deadline request =>
    split
    · next elapsed => exact walks_shutdownTimedOut hcause request (.inr rfl) elapsed
    · split
      · exact walks_pure none _
      · exact walks_driveStarted request
  · exact walks_pure none _

lemma walks_hasRunnableShutdown (now : ℕ) (x : ConnectionSlot B D C R Q W × T) :
    Walks permits cause beside (hasRunnableShutdown now : Driving B D C R Q W T Bool) x := by
  refine walks_congr (slot_bind _ _) ?_
  split
  · exact walks_pure true _
  · exact walks_either (walks_pure _ _) fun y =>
      walks_either (walks_ask (fun t => .isShutdownComplete t) _) fun y =>
      walks_ask (fun t => .hasTransportWork t) _
  · exact walks_pure false _

end

/-! ### The quantum -/

section
variable {α β : Type}

/-- A slot with the transport it was given, if any. -/
abbrev along (x : ConnectionSlot B D C R Q W × Option T) :
    ConnectionSlot B D C R Q W × Option T := (x.1, x.2)

lemma walks_withTransport {absent : Run B D C R Q W α} {m : Driving B D C R Q W T α}
    {x : ConnectionSlot B D C R Q W × Option T}
    (ha : Walks permits cause (fun s => (s, (none : Option T))) absent x.1)
    (hm : ∀ t, Walks permits cause beside m (x.1, t)) :
    Walks permits cause along (withTransport absent m) x := by
  obtain ⟨s, t⟩ := x
  cases t with
  | none => exact ha
  | some t => exact hm t

lemma walks_driveDecoderAlone (s : ConnectionSlot B D C R Q W) (t : Option T) :
    Walks permits cause (fun s => (s, t)) (driveDecoderAlone : Run B D C R Q W (Option ℕ)) s := by
  refine walks_congr (Owner.read_bind _ _) ?_
  split
  · refine walks_bind walks_driveDecoderOnce fun _ y _ => ?_
    exact walks_after (y := { y with ioPreference := .read }) (n := pure (some 1)) rfl
      (fun e _ => .single (.preferred y t e .read)) (walks_pure _ _)
  · exact walks_pure none s

lemma walks_ioLoop (budget turns work : ℕ) (x : ConnectionSlot B D C R Q W × Option T) :
    Walks permits cause along (ioLoop budget turns work : Driving B D C R Q W (Option T) ℕ) x := by
  induction turns generalizing work x with
  | zero => exact walks_pure work x
  | succ turns ih =>
    refine walks_congr (slot_bind _ _) ?_
    split
    · next hready =>
      refine walks_bind (walks_withTransport (walks_driveDecoderAlone x.1 none) fun t =>
        walks_driveReadyOnce (budget - work) (x.1, t) hready.2) fun progressed y _ => ?_
      cases progressed with
      | none => exact walks_pure work y
      | some progressed => exact ih (work + progressed) y
    · exact walks_pure work x

lemma walks_driveIo (budget : ℕ) (x : ConnectionSlot B D C R Q W × Option T) :
    Walks permits cause along (driveIo budget : Driving B D C R Q W (Option T) SlotProgress) x := by
  refine walks_bind (walks_ioLoop budget budget 0 x) fun work y _ => walks_congr (slot_bind _ _) ?_
  refine walks_bind (walks_both (walks_pure _ _) fun z => walks_either (walks_pure _ _) fun z =>
    walks_withTransport (walks_pure _ _) fun t => walks_hasRunnableIo _) fun saturated z _ =>
      walks_pure _ z

lemma walks_closeLoop {now : ℕ} {transport : Option T}
    (hcause : cause = .driveQuantum now transport) (budget turns work : ℕ)
    (x : ConnectionSlot B D C R Q W × Option T) :
    Walks permits cause along
      (closeLoop now budget turns work : Driving B D C R Q W (Option T) ℕ) x := by
  induction turns generalizing work x with
  | zero => exact walks_pure work x
  | succ turns ih =>
    rw [closeLoop]
    split
    · refine walks_bind (walks_withTransport (walks_pure _ _) fun t =>
        walks_driveShutdownOnce hcause (budget - work) (x.1, t)) fun progressed y _ => ?_
      cases progressed with
      | none => exact walks_pure work y
      | some progressed => exact ih (work + progressed) y
    · exact walks_pure work x

lemma walks_driveCloseQuantum {now : ℕ} {transport : Option T}
    (hcause : cause = .driveQuantum now transport) (budget work : ℕ)
    (x : ConnectionSlot B D C R Q W × Option T) :
    Walks permits cause along
      (driveCloseQuantum now budget work : Driving B D C R Q W (Option T) SlotProgress) x := by
  refine walks_bind (walks_closeLoop hcause budget _ work x) fun work y _ => ?_
  refine walks_bind (walks_both (walks_pure _ _) fun z =>
    walks_withTransport (walks_pure _ _) fun t =>
    walks_hasRunnableShutdown now _) fun saturated z _ => walks_pure _ z

/-- **A quantum is a path of moves.** -/
theorem walks_driveQuantumInner {now : ℕ} {transport : Option T}
    (hcause : cause = .driveQuantum now transport) (x : ConnectionSlot B D C R Q W × Option T) :
    Walks permits cause along
      (driveQuantumInner now : Driving B D C R Q W (Option T) SlotProgress) x := by
  refine walks_bind (walks_withTransport (walks_pure _ _) fun t => walks_capture _) fun _ y _ => ?_
  refine walks_congr (slot_bind _ _) ?_
  have hdeadlines : Walks permits cause (fun s => (s, y.2))
      (drivePending now y.1.limits.ioOperations) y.1 := by
    by_cases hnone : y.1.closeRequest = none
    · exact walks_congr (if_pos hnone) (walks_driveDeadlines now _ y.1)
    · exact walks_congr (if_neg hnone) (walks_pure 0 y.1)
  refine walks_bind (walks_onFst (g := id) hdeadlines) fun work z _ =>
    walks_congr (slot_bind _ _) ?_
  split
  · exact walks_driveCloseQuantum hcause _ work z
  · split
    · exact walks_bind (walks_either (walks_pure _ _) fun z =>
        walks_withTransport (walks_pure _ _) fun t =>
        walks_hasRunnableIo _) fun runnable z _ => walks_pure _ z
    · refine walks_bind (walks_driveIo _ z) fun io z _ => walks_congr (slot_bind _ _) ?_
      split
      · exact walks_driveCloseQuantum hcause _ _ z
      · exact walks_pure _ z

end

end Bornera.Slot
