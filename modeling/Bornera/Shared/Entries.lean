import Bornera.Shared.Moves
import Bornera.Slot.Steps

/-!
# The entries of a set

What a set does to one entry, said of its slot and its transport (`Handling`): a call, a quantum, a
settlement, a look at the memory, a failure that is latched, and what the selector does to the
transport. An invariant of entries that these keep, and that a new entry has, holds of every live
entry of every reachable set (`entries_run`).
-/

namespace Bornera.Shared

open Bornera.Core Bornera.Core.Epoch Slot Lib ConnectionSlot ConnectionSet Relation

variable {B D C R E T P X V : Type} {Q W : Type → Type} {M : Type → Type} [ByteBudget B]
  [FrameDecoder D R E] [Retained R] [InboundClassifier C R] [EventBatch Q] [TimerQueue W]
  [FencedTable M ConnectionIdentity ResourceToken] [RegisteredTransport T] [MioPoller P T]
  [CommandMailbox X]

/-! ### Questions -/

/-- The computation puts questions to the transport, and leaves the slot alone. -/
def Asks {α : Type} (m : Driving B D C R Q W T α) : Prop :=
  ∀ x, ∃ a t, m x = (.ok a, x.1, t) ∧ ReflTransGen Touch x.2 t

section
omit [ByteBudget B] [Retained R] [InboundClassifier C R] [EventBatch Q] [TimerQueue W]

lemma asks_pure {α : Type} (a : α) : Asks (pure a : Driving B D C R Q W T α) :=
  fun x => ⟨a, x.2, rfl, .refl⟩

lemma asks_ask {α : Type} {f : T → α × T} (h : ∀ t, Touch t (f t).2) :
    Asks (Owner.ask f : Driving B D C R Q W T α) :=
  fun x => ⟨_, _, rfl, .single (h x.2)⟩

lemma asks_bind {α β : Type} {m : Driving B D C R Q W T α} {f : α → Driving B D C R Q W T β}
    (hm : Asks m) (hf : ∀ a, Asks (f a)) :
    Asks (m >>= f) := by
  intro x
  obtain ⟨a, t, hrun, htouch⟩ := hm x
  obtain ⟨b, t', hrun', htouch'⟩ := hf a (x.1, t)
  refine ⟨b, t', ?_, htouch.trans htouch'⟩
  rw [Owner.bind_run, hrun]
  exact hrun'

lemma asks_either {m n : Driving B D C R Q W T Bool} (hm : Asks m) (hn : Asks n) :
    Asks (Owner.either m n) :=
  asks_bind hm fun yes => by
    cases yes
    · exact hn
    · exact asks_pure true

lemma asks_both {m n : Driving B D C R Q W T Bool} (hm : Asks m) (hn : Asks n) :
    Asks (Owner.both m n) :=
  asks_bind hm fun yes => by
    cases yes
    · exact asks_pure false
    · exact hn

lemma asks_hasRunnableIo : Asks (hasRunnableIo : Driving B D C R Q W T Bool) := by
  intro x
  have hopen : Asks (Owner.ask SlotTransport.isOpen : Driving B D C R Q W T Bool) :=
    asks_ask fun t => .isOpen t
  refine asks_either (asks_pure _)
    (asks_either (asks_both (asks_pure _)
    (asks_either hopen (asks_ask fun t => .canEstablish t))) ?_) x
  refine asks_either (asks_both (asks_pure _) (asks_ask fun t => .hasTransportWork t)) ?_
  refine asks_either (asks_both (asks_pure _) (asks_ask fun t => .canRead t)) ?_
  refine asks_both (asks_pure _) (asks_both hopen (asks_both (asks_pure _) ?_))
  exact asks_either (asks_pure _) (asks_ask fun t => .canWrite t)

lemma asks_hasRunnableShutdown (now : ℕ) :
    Asks (hasRunnableShutdown now : Driving B D C R Q W T Bool) := by
  intro x
  unfold hasRunnableShutdown
  rw [slot_bind]
  generalize x.1.closeRequest = request
  obtain _ | ⟨⟨reason, shutdown⟩ | _⟩ := request
  · exact asks_pure false x
  · cases shutdown with
    | pending => exact asks_pure true x
    | started =>
      exact asks_either (asks_pure _)
        (asks_either (asks_ask fun t => .isShutdownComplete t)
        (asks_ask fun t => .hasTransportWork t)) x
    | immediate => exact asks_pure false x
    | complete => exact asks_pure false x
  · exact asks_pure false x

end

/-! ### What happens to a slot -/

/-- The permits taken from a slot, the slot, and its transport. -/
abbrev Holding (B D C R : Type) (Q W : Type → Type) (T : Type) : Type :=
  List OperationPermit × ConnectionSlot B D C R Q W × Option T

variable (P) in
/-- What the owner of a set does to a transport. -/
inductive Handled : T → T → Prop where
  | touched {t t' : T} (touch : Touch t t') : Handled t t'
  | wanted (t : T) (hasWrites : Bool) : Handled t (SlotTransport.desiredInterest t hasWrites).2
  | observed (t : T) (readiness : Readiness) : Handled t
    (RegisteredTransport.observeReadiness t readiness)
  | reregistered (p : P) (t : T) (k : ResourceToken) (interest : Interest) : Handled t
    (MioPoller.reregister p t k interest).2.2
  | deregistered (p : P) (t : T) (k : ResourceToken) : Handled t (MioPoller.deregister p t k).2.2

variable (P) in
/-- **What happens to a slot within a set**, and to its transport. -/
inductive Handling : Holding B D C R Q W T → Holding B D C R Q W T → Prop where
  /-- A public method. -/
  | call {permits permits' : List OperationPermit} {s s' : ConnectionSlot B D C R Q W}
    (t : Option T) {c : SlotCall T} (access : Access c)
    (answer : (SlotWorld.slotStep s permits c).1 = ⟨some s', permits'⟩) : Handling (permits, s, t)
      (permits', s', t)
  | drive (permits : List OperationPermit) (s : ConnectionSlot B D C R Q W)
    (t : Option T) (now : ℕ) :
    Handling (permits, s, t) (permits, (driveQuantum now (s, t)).2)
  /-- The transport is gone, and its close settled. -/
  | settle (permits : List OperationPermit) {s : ConnectionSlot B D C R Q W} (t : Option T)
    (ready : s.transportReleaseReady = true) :
    Handling (permits, s, t) (permits, s.settleTransportClosed.2, none)
  | look (permits : List OperationPermit) {s : ConnectionSlot B D C R Q W} {t : T}
    (ok : (captureTransportPressure (s, t)).1 = .ok ()) :
    Handling (permits, s, some t)
      (permits, (captureTransportPressure (s, t)).2.1, some (captureTransportPressure (s, t)).2.2)
  /-- A failure is latched right after a look at the memory, whatever it found. -/
  | fail (permits : List OperationPermit) (s : ConnectionSlot B D C R Q W) (t : T)
    (reason : OwnerFailure) :
    Handling (permits, s, some t)
      (permits, (captureTransportPressure (s, t)).2.1.latchOwnerFailure reason,
        some (captureTransportPressure (s, t)).2.2)
  | latch (permits : List OperationPermit) (s : ConnectionSlot B D C R Q W) (t : Option T)
    (reason : OwnerFailure) :
    Handling (permits, s, t) (permits, s.latchOwnerFailure reason, t)
  | note (permits : List OperationPermit) (s : ConnectionSlot B D C R Q W) (t : Option T)
    (diagnostic : TransportDiagnostic) :
    Handling (permits, s, t) (permits, s.recordTransportFailure diagnostic, t)
  /-- A graceful shutdown is seen complete. -/
  | complete (permits : List OperationPermit) {s : ConnectionSlot B D C R Q W} {t : T}
    {reason : CloseReason} {deadline : Deadline}
    (request : s.closeRequest = some (.core reason (.started deadline)))
    (complete : (SlotTransport.isShutdownComplete t).1 = true) :
    Handling (permits, s, some t)
      (permits, s.completeShutdown reason, some (SlotTransport.isShutdownComplete t).2)
  | handle (permits : List OperationPermit) (s : ConnectionSlot B D C R Q W) {t t' : T}
    (handled : Handled P t t') :
    Handling (permits, s, some t) (permits, s, some t')
  /-- The transport of a failed slot is dropped. -/
  | drop (permits : List OperationPermit) {s : ConnectionSlot B D C R Q W} (t : Option T)
    (failed : s.state ≠ .running) :
    Handling (permits, s, t) (permits, s, none)

variable (P) in
/-- A sequence of these. -/
abbrev Handlings : Holding B D C R Q W T → Holding B D C R Q W T → Prop := ReflTransGen (Handling P)

variable {permits : List OperationPermit} {s s' : ConnectionSlot B D C R Q W}
  {entry : ConnectionEntry B D C R Q W T}

lemma Handlings.touches {t t' : T} (h : ReflTransGen Touch t t') (s : ConnectionSlot B D C R Q W) :
    Handlings P (permits, s, some t) (permits, s, some t') := by
  induction h with
  | refl => exact .refl
  | tail _ hlast ih => exact ih.tail (.handle permits s (.touched hlast))

lemma Handlings.recorded (source : MioError) (s : ConnectionSlot B D C R Q W) (t : Option T) :
    Handlings P (permits, s, t) (permits, recordMioFailure s source, t) := by
  cases source with
  | io source => exact .single (.note permits s t _)
  | other => exact .refl

/-! ### What happens to an entry -/

section
omit [ByteBudget B] [Retained R] [InboundClassifier C R] [EventBatch Q] [TimerQueue W]

/-- The close of a slot may be taken away for a look and put back. -/
lemma capture_restored {directive : CloseDirective} (hrequest : s.closeRequest = some directive)
    (t : T) :
    captureTransportPressure ({ s with closeRequest := none }, t) =
      ((captureTransportPressure (s, t)).1,
        { (captureTransportPressure (s, t)).2.1 with closeRequest := none },
        (captureTransportPressure (s, t)).2.2) ∧
    (captureTransportPressure (s, t)).2.1.closeRequest = some directive := by
  rw [capture_run, capture_run]
  split
  · exact ⟨rfl, hrequest⟩
  · split
    · exact ⟨rfl, hrequest⟩
    · exact ⟨rfl, hrequest⟩

lemma restored {directive : CloseDirective} (h : s.closeRequest = some directive) :
    ({ s with closeRequest := none } : ConnectionSlot B D C R Q W).restoreCloseRequest
      directive = s := by
  cases s
  cases h
  rfl

end

omit [InboundClassifier C R] in
/-- A close that is ready settles. -/
lemma settleDirective_ready {directive : CloseDirective} (hready : s.transportReleaseReady = true)
    (hrequest : s.closeRequest = some directive) :
    settleDirective { s with closeRequest := none } directive = s.settleTransportClosed.2 := by
  unfold settleDirective
  rw [restored hrequest]
  have htrue : s.settleTransportClosed.1 = true := by
    unfold settleTransportClosed takeCloseRequest
    rw [if_pos hready, hrequest]
    unfold transportReleaseReady at hready
    rw [hrequest] at hready
    cases directive with
    | abort => rfl
    | core reason shutdown => cases shutdown <;> first | rfl | cases hready
  generalize hsettled : s.settleTransportClosed = settled at htrue
  obtain ⟨_, s'⟩ := settled
  cases htrue
  rfl

section
omit [ByteBudget B] [Retained R] [InboundClassifier C R] [EventBatch Q] [TimerQueue W]

/-- A look leaves the close as it is. -/
lemma capture_ready (s : ConnectionSlot B D C R Q W) (t : T) :
    (captureTransportPressure (s, t)).2.1.closeRequest = s.closeRequest ∧
      (captureTransportPressure (s, t)).2.1.state = s.state := by
  rw [capture_frame]
  exact ⟨rfl, rfl⟩

lemma restored_noted {directive : CloseDirective} (h : s.closeRequest = some directive)
    (source : MioError) :
    (recordMioFailure { s with closeRequest := none } source).restoreCloseRequest directive =
      recordMioFailure s source := by
  cases s
  cases h
  cases source <;> rfl

end

omit [InboundClassifier C R] in
/-- What the settlement of an entry can come to, its shutdown having been looked at. -/
lemma settleEntry_cases (p : P) (k : ResourceToken) (entry : ConnectionEntry B D C R Q W T) :
    (entry.observeShutdown.slot.transportReleaseReady = false ∧
      entry.settleEntry p k = (.ok 0, p, entry.observeShutdown)) ∨
    entry.observeShutdown.slot.transportReleaseReady = true ∧
      ((entry.observeShutdown.transport = none ∧ entry.settleEntry p k =
          (.ok 1, p, { entry.observeShutdown with
            slot := entry.observeShutdown.slot.settleTransportClosed.2 })) ∨
        ∃ t, entry.observeShutdown.transport = some t ∧
          let released := MioPoller.deregister p t k
          let looked := captureTransportPressure (entry.observeShutdown.slot, released.2.2)
          entry.settleEntry p k =
            match released.1, looked.1 with
            | .error source, _ => (.error (.mio source), released.2.1, { entry.observeShutdown with
                slot := (recordMioFailure looked.2.1 source).latchFailure (.mio source),
                  transport := some looked.2.2 })
            | .ok (), .error error => (.error error, released.2.1, { entry.observeShutdown with
                slot := looked.2.1.latchFailure error, transport := none })
            | .ok (), .ok () => (.ok 1, released.2.1, { entry.observeShutdown with
                slot := looked.2.1.settleTransportClosed.2, transport := none })) := by
  unfold ConnectionEntry.settleEntry
  generalize entry.observeShutdown = entry
  dsimp only
  cases hready : entry.slot.transportReleaseReady with
  | false =>
    refine .inl ⟨rfl, ?_⟩
    unfold takeCloseRequest
    rw [hready]
    rfl
  | true =>
    refine .inr ⟨rfl, ?_⟩
    obtain ⟨directive, hrequest⟩ : ∃ directive, entry.slot.closeRequest = some directive := by
      cases hrequest : entry.slot.closeRequest with
      | none => simp [transportReleaseReady, hrequest] at hready
      | some directive => exact ⟨directive, rfl⟩
    have htake : entry.slot.takeCloseRequest =
        (some directive, { entry.slot with closeRequest := none }) := by
      unfold takeCloseRequest
      rw [if_pos hready, hrequest]
    rw [htake]
    dsimp only
    cases htransport : entry.transport with
    | none => exact .inl ⟨rfl, by rw [settleDirective_ready hready hrequest]⟩
    | some t =>
      refine .inr ⟨t, rfl, ?_⟩
      dsimp only
      generalize MioPoller.deregister p t k = released
      obtain ⟨released, p', t'⟩ := released
      obtain ⟨hlook, hkept⟩ := capture_restored hrequest t'
      have hsame := capture_ready entry.slot t'
      dsimp only
      rw [hlook]
      generalize captureTransportPressure (entry.slot, t') = looked at hkept hsame
      obtain ⟨look, slot, t''⟩ := looked
      dsimp only at hkept hsame ⊢
      have hready' : slot.transportReleaseReady = true := by
        unfold transportReleaseReady
        rw [hsame.1]
        exact hready
      cases released with
      | error source => simp only [restored_noted hkept]
      | ok _ =>
        cases look with
        | error error => simp only [restored hkept]
        | ok _ => simp only [settleDirective_ready hready' hkept]

omit [ByteBudget B] [Retained R] [InboundClassifier C R] [EventBatch Q] [TimerQueue W] in
/-- A look fails on a broken contract only. -/
lemma capture_invariant {t : T} {error : EngineError}
    (h : (captureTransportPressure (s, t)).1 = .error error) :
    ∃ source, error = .invariant source := by
  rw [capture_run] at h
  split at h
  · cases h
    exact ⟨_, rfl⟩
  · split at h
    · cases h
    · cases h
      exact ⟨_, rfl⟩

/-- A look, with the failure it finds latched. -/
lemma Handlings.looks (permits : List OperationPermit) (s : ConnectionSlot B D C R Q W) (t : T) :
    Handlings P (permits, s, some t)
      (permits, latchResult (captureTransportPressure (s, t)).2.1
        (captureTransportPressure (s, t)).1,
        some (captureTransportPressure (s, t)).2.2) := by
  cases hlook : (captureTransportPressure (s, t)).1 with
  | ok => exact .single (.look permits hlook)
  | error error =>
    obtain ⟨source, rfl⟩ := capture_invariant hlook
    exact .single (.fail permits s t _)

/-- A look next to a failure of the selector, which is recorded and latched. -/
lemma Handlings.fails (permits : List OperationPermit) (s : ConnectionSlot B D C R Q W) (t : T)
    (source : MioError) :
    Handlings P (permits, s, some t)
      (permits, (recordMioFailure (captureTransportPressure (s, t)).2.1 source).latchFailure
        (.mio source),
        some (captureTransportPressure (s, t)).2.2) := by
  have hcomm : ∀ s : ConnectionSlot B D C R Q W,
      (recordMioFailure s source).latchFailure (.mio source) =
          recordMioFailure (s.latchOwnerFailure .readiness) source := by
    intro s
    cases source with
    | io source =>
      cases hstate : s.state with
      | running =>
        simp only [recordMioFailure, latchFailure, latchOwnerFailure, recordTransportFailure,
          hstate, EngineState.failure, OwnerFailure.ofError]
      | failed reason =>
        simp only [recordMioFailure, latchFailure, latchOwnerFailure, recordTransportFailure,
          hstate, EngineState.failure]
    | other => rfl
  rw [hcomm]
  exact (ReflTransGen.single (.fail permits s t .readiness)).trans (Handlings.recorded source _ _)

lemma observeShutdown_handled (permits : List OperationPermit)
    (entry : ConnectionEntry B D C R Q W T) :
    Handlings P (permits, entry.slot, entry.transport)
      (permits, entry.observeShutdown.slot, entry.observeShutdown.transport) := by
  unfold ConnectionEntry.observeShutdown
  cases htransport : entry.transport with
  | none =>
    rw [htransport]
  | some t =>
    dsimp only
    unfold observeShutdownComplete
    rw [slot_bind]
    dsimp only
    rcases hrequest : entry.slot.closeRequest with _ | ⟨⟨reason, shutdown⟩ | _⟩
    · exact .refl
    · cases shutdown with
      | started deadline =>
        dsimp only
        rw [Owner.ask_bind]
        dsimp only
        cases hcomplete : (SlotTransport.isShutdownComplete t).1 with
        | true => exact .single (.complete permits hrequest hcomplete)
        | false => exact .single (.handle permits entry.slot (.touched (.isShutdownComplete t)))
      | _ => exact .refl
    · exact .refl

lemma settleEntry_handled (permits : List OperationPermit) (p : P) (k : ResourceToken)
    (entry : ConnectionEntry B D C R Q W T) :
    Handlings P (permits, entry.slot, entry.transport)
      (permits, (entry.settleEntry p k).2.2.slot, (entry.settleEntry p k).2.2.transport) := by
  have hseen : Handlings P (permits, entry.slot, entry.transport) _ :=
    observeShutdown_handled permits entry
  obtain ⟨_, hrun⟩ | ⟨hready, ⟨hgone, hrun⟩ | ⟨t, htransport, hrun⟩⟩ := settleEntry_cases p k entry
  · rw [hrun]
    exact hseen
  · rw [hrun]
    dsimp only
    rw [hgone] at hseen ⊢
    exact hseen.tail (.settle permits none hready)
  · rw [htransport] at hseen
    have hreleased := hseen.tail (.handle permits _ (.deregistered p t k))
    have hlooks := hreleased.trans (Handlings.looks permits _ _)
    have hfails := fun source => hreleased.trans (Handlings.fails permits _ _ source)
    have hsame := capture_ready entry.observeShutdown.slot (MioPoller.deregister p t k).2.2
    rw [hrun]
    dsimp only
    rcases hlooked : captureTransportPressure
      (entry.observeShutdown.slot, (MioPoller.deregister p t k).2.2) with ⟨look, slot, t'⟩
    rw [hlooked] at hlooks hsame
    simp only [hlooked] at hfails
    dsimp only at hlooks hfails hsame ⊢
    cases (MioPoller.deregister p t k).1 with
    | error source => exact hfails source
    | ok _ =>
      cases look with
      | error error =>
        refine hlooks.tail (.drop permits _ ?_)
        obtain ⟨source, rfl⟩ := capture_invariant (congrArg Prod.fst hlooked)
        exact latchOwnerFailure_state slot _
      | ok _ =>
        refine hlooks.tail (.settle permits _ ?_)
        unfold transportReleaseReady
        rw [latchResult, hsame.1]
        exact hready

lemma syncInterest_handled (permits : List OperationPermit) (p : P) (k : ResourceToken)
    (entry : ConnectionEntry B D C R Q W T) :
    Handlings P (permits, entry.slot, entry.transport)
      (permits, (entry.syncInterest p k).2.2.slot, (entry.syncInterest p k).2.2.transport) := by
  unfold ConnectionEntry.syncInterest
  cases htransport : entry.transport with
  | none =>
    dsimp only
    rw [htransport]
  | some t =>
    have hwanted : Handlings P (permits, entry.slot, some t) _ :=
      .single (.handle permits entry.slot (.wanted t (0 < entry.slot.core.queuedWriteFrames)))
    dsimp only
    generalize SlotTransport.desiredInterest t (0 < entry.slot.core.queuedWriteFrames) =
      desired at hwanted ⊢
    obtain ⟨interest, t₁⟩ := desired
    dsimp only at hwanted ⊢
    split
    · exact hwanted
    · have hregistered := hwanted.tail (.handle permits _ (.reregistered p t₁ k interest))
      have hlooks := hregistered.trans (Handlings.looks permits _ _)
      have hfails := fun source => hregistered.trans (Handlings.fails permits _ _ source)
      generalize MioPoller.reregister p t₁ k interest = registered at hlooks hfails ⊢
      obtain ⟨registered, p', t₂⟩ := registered
      dsimp only at hlooks hfails ⊢
      cases registered with
      | error source => exact hfails source
      | ok _ =>
        generalize captureTransportPressure (entry.slot, t₂) = looked at hlooks ⊢
        obtain ⟨error | _, slot, t₃⟩ := looked <;> exact hlooks

lemma answer_handled {question : Driving B D C R Q W T Bool} (h : Asks question)
    (permits : List OperationPermit)
    (entry : ConnectionEntry B D C R Q W T) : (entry.answer question).2.slot = entry.slot ∧
      Handlings P (permits, entry.slot, entry.transport)
        (permits, (entry.answer question).2.slot, (entry.answer question).2.transport) := by
  unfold ConnectionEntry.answer
  cases htransport : entry.transport with
  | none =>
    dsimp only
    rw [htransport]
    exact ⟨rfl, .refl⟩
  | some t =>
    obtain ⟨yes, t', hrun, htouches⟩ := h (entry.slot, t)
    dsimp only
    rw [hrun]
    exact ⟨rfl, Handlings.touches htouches entry.slot⟩

omit [ByteBudget B] [Retained R] [InboundClassifier C R] [EventBatch Q] [TimerQueue W] in
lemma asks_work (now : ℕ) (entry : ConnectionEntry B D C R Q W T) :
    Asks (if entry.slot.closeRequest.isSome then hasRunnableShutdown now else hasRunnableIo :
      Driving B D C R Q W T Bool) := by
  split
  · exact asks_hasRunnableShutdown now
  · exact asks_hasRunnableIo

/-- The failure of a quantum was latched by it. -/
lemma driveQuantum_latched {now : ℕ} {transport : Option T} {error : EngineError}
    (h : (driveQuantum now (s, transport)).1 = .error error) :
    (driveQuantum now (s, transport)).2.1.latchFailure error =
      (driveQuantum now (s, transport)).2.1 := by
  cases hstate : s.state with
  | failed reason =>
    simp only [driveQuantum, ensureRunning, hstate, EngineState.failure] at h ⊢
    cases h
    rfl
  | running =>
    rw [driveQuantum_run hstate] at h ⊢
    dsimp only at h ⊢
    rw [h]
    exact latchFailure_again _ _

lemma driveSlot_eq (now : ℕ) (entry : ConnectionEntry B D C R Q W T) : (entry.driveSlot now).2 =
    { entry with
      slot := (driveQuantum now (entry.slot, entry.transport)).2.1
      transport := (driveQuantum now (entry.slot, entry.transport)).2.2 } := by
  unfold ConnectionEntry.driveSlot
  rcases hran : driveQuantum now (entry.slot, entry.transport)
    with ⟨error | progress, slot, transport⟩
  · have hlatched := driveQuantum_latched (congrArg Prod.fst hran)
    rw [hran] at hlatched
    dsimp only at hlatched ⊢
    rw [hlatched]
  · rfl

/-- The slot of an entry and its transport, with the permits taken from it. -/
def EntryState.holding (x : EntryState B D C R Q W T P) : Holding B D C R Q W T :=
  (x.1, x.2.2.slot, x.2.2.transport)

/-- **What a set does to an entry is a sequence of handlings.** -/
theorem EntryMove.handled {k : ResourceToken} {a b : EntryState B D C R Q W T P}
    (h : EntryMove k a b) :
    Handlings P (EntryState.holding a) (EntryState.holding b) := by
  unfold EntryState.holding
  cases h with
  | flag => exact .refl
  | call _ access answer => exact .single (.call _ access answer)
  | drive permits p entry now =>
    rw [driveSlot_eq]
    exact .single (.drive permits entry.slot entry.transport now)
  | settle permits p entry => exact settleEntry_handled permits p k entry
  | sync permits p entry => exact syncInterest_handled permits p k entry
  | ask permits p entry now => exact (answer_handled (asks_work now entry) permits entry).2
  | @observe permits p entry entry' readiness observed =>
    unfold ConnectionEntry.observeReadiness at observed
    cases htransport : entry.transport with
    | none =>
      rw [htransport] at observed
      cases observed
    | some t =>
      have hlooked : Handlings P (permits, entry.slot, some t) _ :=
        (ReflTransGen.single (.handle permits entry.slot (.observed t readiness))).trans
          (Handlings.looks permits _ _)
      rw [htransport] at observed
      dsimp only at observed
      generalize captureTransportPressure
        (entry.slot, RegisteredTransport.observeReadiness t readiness) = looked at hlooked observed
      obtain ⟨error | _, slot, t'⟩ := looked
      · cases observed
        exact hlooked
      · cases observed
        exact hlooked

lemma Edits.handled {k : ResourceToken} {a b : EntryState B D C R Q W T P} (h : Edits k a b) :
    Handlings P (EntryState.holding a) (EntryState.holding b) :=
  h.keeps (I := fun y => Handlings P (EntryState.holding a) (EntryState.holding y))
    (fun _ _ hmove hc => hc.trans hmove.handled) .refl

lemma fence_handled (permits : List OperationPermit) (source : MioError)
    (entry : ConnectionEntry B D C R Q W T) :
    Handlings P (permits, entry.slot, entry.transport)
      (permits, (entry.fence source).slot, (entry.fence source).transport) :=
  (Handlings.recorded source entry.slot entry.transport).tail (.latch permits _ _ .readiness)

/-- An invariant that every handling keeps is kept by a sequence of them. -/
lemma Handlings.keeps {I : Holding B D C R Q W T → Prop} {a b : Holding B D C R Q W T}
    (h : Handlings P a b) (hmove : ∀ a b, Handling P a b → I a → I b) (ha : I a) : I b := by
  induction h with
  | refl => exact ha
  | tail _ hlast ih => exact hmove _ _ hlast ih

/-- The core of a slot stays in the state of an epoch. -/
lemma Handling.owns {a b : Holding B D C R Q W T} (h : Handling P a b) {e : Epoch OutboundFrame}
    (howns : Owns a.1 a.2.1 e) :
    ∃ e', Owns b.1 b.2.1 e' := by
  cases h with
  | @call permits permits' s s' t c access answer =>
    obtain ⟨e', _, hnext⟩ := follows_slot howns c
    rw [answer] at hnext
    exact ⟨e', hnext s' rfl⟩
  | drive permits s t now =>
    obtain ⟨e', _, hnext⟩ := follows_slot howns (.driveQuantum now t)
    exact ⟨e', hnext _ rfl⟩
  | @settle permits s t ready =>
    obtain ⟨e', _, hnext⟩ := follows_slot howns (.settleTransportClosed : SlotCall T)
    exact ⟨e', hnext _ rfl⟩
  | look permits ok =>
    dsimp only
    rw [capture_frame]
    exact ⟨e, howns⟩
  | fail permits s t reason =>
    dsimp only
    rw [latchOwnerFailure_frame, capture_frame]
    exact ⟨e, howns⟩
  | latch permits s t reason => exact ⟨e, howns.latch reason⟩
  | _ => exact ⟨e, howns⟩

/-! ### New entries -/

/-- **A new entry**: a new slot whose transport `t₀` was looked at before and
after its registration. -/
inductive Newcomer (P : Type) [MioPoller P T] : ConnectionEntry B D C R Q W T → Prop where
  | mk {config : ConnectionConfig} {limits : ConnectionSlotLimits} {decoder : D} {classifier : C}
    {slot : ConnectionSlot B D C R Q W}
    {t₀ t₁ t₂ t₃ t₄ t₅ t₆ : T} {before after : TransportPressure} {limit : ℕ} {interest : Interest}
    {p p' : P} {k : ResourceToken}
    (new : ConnectionSlot.new config.slot limits decoder classifier = .ok slot)
    (first : SlotTransport.pressure t₀ = (before, t₁))
    (bound : SlotTransport.pressureLimit t₁ = (limit, t₂))
    (within : limit ≤ limits.transportRetainedBytes) (fits : before.total ≤ limit)
    (wanted : SlotTransport.desiredInterest t₂ (0 < slot.core.queuedWriteFrames) = (interest, t₃))
    (registered : MioPoller.register p t₃ k interest = (.ok (), p', t₄))
    (second : SlotTransport.pressure t₄ = (after, t₅))
    (same : SlotTransport.pressureLimit t₅ = (limit, t₆)) (fits' : after.total ≤ limit) :
    Newcomer P ⟨config.identity,
      { slot with transportPressure := some after, transportRetainedLimit := some limit }, some t₆,
      interest, true⟩

omit [Retained R] [InboundClassifier C R] in
/-- A new slot is the one a run starts with. -/
lemma new_setup {config : ConnectionConfig} {limits : ConnectionSlotLimits} {decoder : D}
    {classifier : C} {slot : ConnectionSlot B D C R Q W}
    (h : (ConnectionSlot.new config.slot limits decoder classifier :
      Except (FrameDecodeError E) _) = .ok slot) :
    ∃ within : FrameDecoder.retainedBytes decoder ≤ limits.decoderBytes,
      slot = SlotSetup.slot ⟨config.slot, limits, decoder, classifier, within⟩ := by
  by_cases hwithin : FrameDecoder.retainedBytes decoder ≤ limits.decoderBytes
  · have hnew :=
      SlotSetup.new_eq (B := B) (Q := Q) (W := W)
      ⟨config.slot, limits, decoder, classifier, hwithin⟩
    exact ⟨hwithin, Except.ok.inj (h.symm.trans hnew)⟩
  · unfold ConnectionSlot.new FrameDriver.new at h
    rw [if_pos (not_le.mp hwithin)] at h
    cases h

/-- Where an entry of a set comes from, when a connection was attempted. -/
inductive Origin (s : ConnectionSet B D C R Q W T P X M) (x : ResourceToken)
    (entry : ConnectionEntry B D C R Q W T) : Prop where
  | kept (find : s.find x = some entry) : Origin s x entry
  | fenced {before : ConnectionEntry B D C R Q W T} {source : MioError}
    (find : s.find x = some before)
    (fence : entry = before.fence source) : Origin s x entry
  | joined (fresh : ¬FencedTable.issued s.resources x) (new : Newcomer P entry) : Origin s x entry

/-- A set with one row more. -/
structure Row (s s₁ : ConnectionSet B D C R Q W T P X M) (k : ResourceToken)
    (entry : ConnectionEntry B D C R Q W T) : Prop where
  running : s₁.ownerFailure = none
  unissued : ¬FencedTable.issued s.resources k
  find : ∀ x, s₁.find x = if x = k then some entry else s.find x
  issued : ∀ x, FencedTable.issued s₁.resources x ↔ x = k ∨ FencedTable.issued s.resources x

/-- The entries come from another set, and no token was given back. -/
def Descends (s s' : ConnectionSet B D C R Q W T P X M) : Prop :=
  (∀ x entry, s'.find x = some entry → Origin s x entry) ∧ ∀ x, FencedTable.issued s.resources x →
    FencedTable.issued s'.resources x

section
variable {s s₁ : ConnectionSet B D C R Q W T P X M} {k : ResourceToken}

omit [ByteBudget B] [Retained R] [InboundClassifier C R] [EventBatch Q] [TimerQueue W]
  [RegisteredTransport T] [MioPoller P T] [CommandMailbox X] in
lemma Row.absent (h : Row s s₁ k entry) : s.find k = none :=
  Option.not_isSome_iff_eq_none.mp fun hsome => h.unissued (FencedTable.issued_of_get _ _ hsome)

omit [RegisteredTransport T] [MioPoller P T] [CommandMailbox X] [ByteBudget B] [Retained R]
  [InboundClassifier C R] [EventBatch Q] [TimerQueue W] in
lemma Row.store (h : Row s s₁ k entry) (poller : P) (entry' : ConnectionEntry B D C R Q W T) :
    Row s (({ s₁ with poller } : ConnectionSet B D C R Q W T P X M).store k entry') k entry' := by
  refine ⟨h.running, h.unissued, fun x => ?_, fun x =>
    (FencedTable.issued_set ..).trans (h.issued x)⟩
  have hself : ({ s₁ with poller } : ConnectionSet B D C R Q W T P X M).find k = some entry :=
    (h.find k).trans (if_pos rfl)
  rw [find_store, hself]
  split
  · rfl
  · next hx => exact (h.find x).trans (if_neg hx)

omit [CommandMailbox X] [Retained R] [InboundClassifier C R] in
lemma Row.withdraw (h : Row s s₁ k entry) : Descends s (s₁.withdraw k) := by
  refine ⟨fun x entry' hentry => ?_, fun x hx =>
    (FencedTable.issued_remove ..).mpr ((h.issued x).mpr (.inr hx))⟩
  rw [find_withdraw] at hentry
  split at hentry
  · cases hentry
  · next hx =>
    rw [h.find, if_neg hx] at hentry
    exact .kept hentry

section
omit [Retained R] [InboundClassifier C R]

lemma Row.fence (h : Row s s₁ k entry) (source : MioError) :
    Descends s ((s₁.latchSelectorFailure source).withdraw k) := by
  refine ⟨fun x entry' hentry => ?_, fun x hx => (FencedTable.issued_remove ..).mpr ?_⟩
  · rw [find_withdraw] at hentry
    split at hentry
    · cases hentry
    · next hx =>
      rw [find_latch source h.running, h.find, if_neg hx, Option.map_eq_some_iff] at hentry
      obtain ⟨before, hbefore, rfl⟩ := hentry
      exact .fenced hbefore rfl
  · unfold latchSelectorFailure
    rw [h.running]
    exact (FencedTable.issued_modifyAll ..).mpr ((h.issued x).mpr (.inr hx))

lemma Row.undo (h : Row s s₁ k entry) (t : T) (error : ConnectError E) :
    Descends s (s₁.undoRegistration k entry t error).2 := by
  unfold ConnectionSet.undoRegistration
  rcases MioPoller.deregister s₁.poller t k with ⟨source | _, p, t₁⟩
  · exact (h.store p _).fence source
  · exact (h.store p _).withdraw

end

omit [CommandMailbox X] [Retained R] [InboundClassifier C R] in
lemma Row.enqueue {interest : Interest} {identity : ConnectionIdentity}
    {slot : ConnectionSlot B D C R Q W} {t : Option T}
    (h : Row s s₁ k ⟨identity, slot, t, interest, false⟩)
    (hnew : Newcomer P (⟨identity, slot, t, interest, true⟩ : ConnectionEntry B D C R Q W T)) :
    Descends s (s₁.enqueue k) := by
  have hself := (h.find k).trans (if_pos rfl)
  unfold ConnectionSet.enqueue
  rw [hself]
  refine ⟨fun x entry' hentry => ?_, fun x hx =>
    (FencedTable.issued_set ..).mpr ((h.issued x).mpr (.inr hx))⟩
  have hfind : (s₁.store k ⟨identity, slot, t, interest, true⟩).find x = some entry' := hentry
  rw [find_store, hself] at hfind
  split at hfind
  · next hx =>
    cases hfind
    exact .joined (hx ▸ h.unissued) hnew
  · next hx =>
    rw [h.find, if_neg hx] at hfind
    exact .kept hfind
end

/-- The looks of a transport that is bound. -/
lemma bindTransport_looks {ceiling : ℕ} {t₀ t : T} {bound : TransportPressure × ℕ}
    (h : (ConnectionSet.bindTransport ceiling t₀ : Except (ConnectError E) _ × T) =
      (.ok bound, t)) :
    ∃ t₁, SlotTransport.pressure t₀ = (bound.1, t₁) ∧
      SlotTransport.pressureLimit t₁ = (bound.2, t) ∧ bound.2 ≤ ceiling ∧
      bound.1.total ≤ bound.2 := by
  unfold ConnectionSet.bindTransport at h
  rcases hfirst : SlotTransport.pressure t₀ with ⟨pressure, t₁⟩
  rcases hsecond : SlotTransport.pressureLimit t₁ with ⟨limit, t₂⟩
  rw [hfirst] at h
  dsimp only at h
  rw [hsecond] at h
  dsimp only at h
  split at h
  · cases h
  · split at h
    · cases h
    · next hwithin hfits =>
      cases h
      exact ⟨t₁, rfl, hsecond, not_lt.mp hwithin, not_lt.mp hfits⟩

section
omit [Retained R] [InboundClassifier C R]

lemma Row.register {s s₁ : ConnectionSet B D C R Q W T P X M} {k : ResourceToken}
    {config : ConnectionConfig} {limits : ConnectionSlotLimits} {decoder : D} {classifier : C}
    {slot : ConnectionSlot B D C R Q W} {t₀ t₁ t₂ : T} {bound : TransportPressure × ℕ}
    (h : Row s s₁ k ⟨config.identity, slot, none, .readWrite, false⟩)
    (hnew : ConnectionSlot.new config.slot limits decoder classifier = .ok slot)
    (hfirst : SlotTransport.pressure t₀ = (bound.1, t₁))
    (hbound : SlotTransport.pressureLimit t₁ = (bound.2, t₂))
    (hwithin : bound.2 ≤ limits.transportRetainedBytes) (hfits : bound.1.total ≤ bound.2) :
    Descends s (s₁.registerEntry k ⟨config.identity, slot, none, .readWrite, false⟩ t₂ bound :
      Except (ConnectError E) _ × _).2 := by
  unfold ConnectionSet.registerEntry
  rcases hwanted : SlotTransport.desiredInterest t₂ (0 < slot.core.queuedWriteFrames)
    with ⟨interest, t₃⟩
  dsimp only
  rcases hregistered : MioPoller.register s₁.poller t₃ k interest with ⟨registration, p, t₄⟩
  dsimp only
  rcases hsecond : SlotTransport.pressure t₄ with ⟨after, t₅⟩
  dsimp only
  rcases hlast : SlotTransport.pressureLimit t₅ with ⟨limit, t₆⟩
  dsimp only
  have hstored := h.store p ⟨config.identity,
    { slot with transportPressure := some after, transportRetainedLimit := some bound.2 }, some t₆,
      interest, false⟩
  cases registration with
  | error source => exact hstored.withdraw
  | ok _ =>
    dsimp only
    split
    · exact hstored.undo t₆ _
    · next hsame =>
      split
      · exact hstored.undo t₆ _
      · next hfull =>
        rw [not_not.mp hsame] at hlast
        exact hstored.enqueue (.mk hnew hfirst hbound hwithin hfits hwanted hregistered hsecond
          hlast (not_lt.mp hfull))

/-- **An attempt to connect leaves the other entries alone, or fences them all.** -/
lemma connectWith_descends (config : ConnectionConfig) (limits : ConnectionSlotLimits) (decoder : D)
    (classifier : C) (connector : V → Except IoError T × V) (s : ConnectionSet B D C R Q W T P X M)
    (v : V) :
    Descends s (s.connectWith config limits decoder classifier connector v :
      Except (ConnectError E) _ × _).2.1 := by
  have hrefl : Descends s s := ⟨fun x entry hentry => .kept hentry, fun _ => id⟩
  unfold ConnectionSet.connectWith
  split
  · exact hrefl
  · next hrunning =>
    rcases hslot : (ConnectionSlot.new config.slot limits decoder classifier :
      Except (FrameDecodeError E) _) with error | slot
    · exact hrefl
    · dsimp only
      rcases henroll : FencedTable.enroll s.resources config.identity
        (⟨config.identity, slot, none, .readWrite, false⟩ : ConnectionEntry B D C R Q W T)
        with ⟨_ | k, resources⟩
      · rw [FencedTable.enroll_none _ _ _ _ henroll]
        exact hrefl
      · obtain ⟨hfresh, hget, hissued, _⟩ := FencedTable.enroll_some _ _ _ _ _ henroll
        have hrow : Row s { s with resources } k ⟨config.identity, slot, none, .readWrite, false⟩ :=
          ⟨hrunning, hfresh, hget, hissued⟩
        dsimp only
        rcases connector v with ⟨source | t₀, v'⟩
        · exact hrow.withdraw
        · dsimp only
          rcases hbind : (bindTransport limits.transportRetainedBytes t₀ : Except (ConnectError E) _
            × T) with ⟨error | bound, t⟩
          · exact hrow.withdraw
          · obtain ⟨t₁, hfirst, hsecond, hwithin, hfits⟩ := bindTransport_looks hbind
            exact hrow.register hslot hfirst hsecond hwithin hfits

end

/-! ### Runs -/

section
omit [ByteBudget B] [Retained R] [InboundClassifier C R] [EventBatch Q] [TimerQueue W]
  [RegisteredTransport T] [MioPoller P T]

lemma latch_poller (s : ConnectionSet B D C R Q W T P X M) (source : MioError) :
    (s.latchSelectorFailure source).poller = s.poller := by
  unfold latchSelectorFailure
  split <;> rfl

lemma latch_issued (s : ConnectionSet B D C R Q W T P X M) (source : MioError) (x : ResourceToken) :
    FencedTable.issued (s.latchSelectorFailure source).resources x ↔
      FencedTable.issued s.resources x := by
  unfold latchSelectorFailure
  split
  · rfl
  · exact FencedTable.issued_modifyAll ..

end

section
omit [ByteBudget B] [Retained R] [InboundClassifier C R] [EventBatch Q] [TimerQueue W]

lemma releaseTransport_issued (s : ConnectionSet B D C R Q W T P X M) (k : ResourceToken)
    (entry : ConnectionEntry B D C R Q W T) (x : ResourceToken) :
    FencedTable.issued (s.releaseTransport k entry).2.resources x ↔
      FencedTable.issued s.resources x := by
  unfold releaseTransport
  cases entry.transport with
  | none => rfl
  | some t =>
    dsimp only
    rcases MioPoller.deregister s.poller t k with ⟨source | _, poller, t₁⟩
    · rcases captureTransportPressure (entry.slot, t₁) with ⟨_ | _, slot, t₂⟩ <;>
        exact (latch_issued ..).trans (FencedTable.issued_set ..)
    · rcases captureTransportPressure (entry.slot, t₁) with ⟨_ | _, slot, t₂⟩ <;>
        exact FencedTable.issued_set ..

/-- The release of a transport leaves the other entries alone, or fences them all. -/
lemma releaseTransport_find {s : ConnectionSet B D C R Q W T P X M} {k x : ResourceToken}
    (entry : ConnectionEntry B D C R Q W T) (hx : x ≠ k) :
    (s.releaseTransport k entry).2.find x = s.find x ∨
      ∃ source, (s.releaseTransport k entry).2.find x =
        (s.find x).map (ConnectionEntry.fence source) := by
  unfold releaseTransport
  cases entry.transport with
  | none => exact .inl rfl
  | some t =>
    dsimp only
    generalize MioPoller.deregister s.poller t k = released
    obtain ⟨cleanup, poller, t₁⟩ := released
    dsimp only
    generalize captureTransportPressure (entry.slot, t₁) = looked
    obtain ⟨pressure, slot, t₂⟩ := looked
    have hother : ∀ row, (({ s with poller } : ConnectionSet B D C R Q W T P X M).store k row).find
        x = s.find x :=
      fun row => find_store_other (s := { s with poller }) row hx
    cases cleanup with
    | ok _ => cases pressure <;> exact .inl (hother _)
    | error source =>
      have hlatched : ∀ s₁ : ConnectionSet B D C R Q W T P X M, s₁.find x = s.find x →
          (s₁.latchSelectorFailure source).find x = s.find x ∨
            ∃ cause, (s₁.latchSelectorFailure source).find x =
                (s.find x).map (ConnectionEntry.fence cause) := by
        intro s₁ hs₁
        by_cases hrunning : s₁.ownerFailure = none
        · exact .inr ⟨source, by rw [find_latch source hrunning, hs₁]⟩
        · refine .inl ?_
          unfold latchSelectorFailure
          rw [if_pos (Option.isSome_iff_ne_none.mpr hrunning)]
          exact hs₁
      cases pressure <;> exact hlatched _ (hother _)

end

/-- Every live entry has `I`, and no permit was taken under a token that was never issued. -/
structure Entries (I : ResourceToken → List OperationPermit → ConnectionEntry B D C R Q W T → Prop)
    (w : SetWorld B D C R Q W T P X M) : Prop where
  entry : ∀ k entry, w.set.find k = some entry → I k (w.permits k) entry
  unissued : ∀ k, ¬FencedTable.issued w.set.resources k → w.permits k = []

/-- **The invariants of entries.** What every handling keeps and a new entry has,
every move of a set keeps. -/
theorem SetMove.entries
    {I : ResourceToken → List OperationPermit → ConnectionEntry B D C R Q W T → Prop}
    {w w' : SetWorld B D C R Q W T P X M}
    (hedits : ∀ (k : ResourceToken) (a b : EntryState B D C R Q W T P), Edits k a b →
      I k a.1 a.2.2 → I k b.1 b.2.2)
    (hfence : ∀ k permits entry source, I k permits entry → I k permits (entry.fence source))
    (hnew : ∀ k entry, ¬FencedTable.issued w.set.resources k → Newcomer P entry → I k [] entry)
    (h : SetMove w w') (hw : Entries I w) :
    Entries I w' := by
  cases h with
  | beside permits beside =>
    obtain ⟨hentry, hunissued⟩ := hw
    dsimp only at hentry hunissued
    refine ⟨fun k entry hfind => hentry k entry ?_, fun k hk => hunissued k ?_⟩
    · rw [← hfind]
      unfold ConnectionSet.find
      rw [beside.resources]
    · rwa [← beside.resources]
  | poll permits s maximum events => exact ⟨hw.entry, hw.unissued⟩
  | @edit permits s k entry entry' poller taken find edits =>
    have hkept : I k taken entry' := hedits k _ _ edits (hw.entry k entry find)
    have hissued : FencedTable.issued s.resources k :=
      FencedTable.issued_of_get _ _ (Option.isSome_of_eq_some find)
    refine ⟨fun x row hrow => ?_, fun x hx => ?_⟩
    · by_cases hxk : x = k
      · subst hxk
        have hself := find_store_self (s := { s with poller }) (k := x) find entry'
        cases hrow.symm.trans hself
        dsimp only
        rw [Function.update_self]
        exact hkept
      · dsimp only
        rw [Function.update_of_ne hxk]
        exact hw.entry x row ((find_store_other (s := { s with poller }) entry'
          hxk).symm.trans hrow)
    · have hx' : ¬FencedTable.issued s.resources x :=
        fun h => hx ((FencedTable.issued_set ..).mpr h)
      have hxk : x ≠ k := by
        rintro rfl
        exact hx' hissued
      dsimp only
      rw [Function.update_of_ne hxk]
      exact hw.unissued x hx'
  | @forget permits s k index gone =>
    refine ⟨fun x row hrow => ?_, fun x hx => ?_⟩
    · have hxk : x ≠ k := by
        rintro rfl
        cases gone.symm.trans hrow
      dsimp only
      rw [Function.update_of_ne hxk]
      exact hw.entry x row hrow
    · have hnone : permits x = [] := hw.unissued x hx
      dsimp only
      by_cases hxk : x = k
      · subst hxk
        rw [Function.update_self, hnone]
        rfl
      · rw [Function.update_of_ne hxk]
        exact hnone
  | @fence permits s source running =>
    refine ⟨fun x row hrow => ?_, fun x hx => hw.unissued x fun h =>
      hx ((latch_issued s source x).mpr h)⟩
    rw [find_latch source running, Option.map_eq_some_iff] at hrow
    obtain ⟨before, hbefore, rfl⟩ := hrow
    exact hfence _ _ before source (hw.entry x before hbefore)
  | remove permits s k =>
    refine ⟨fun x row hrow => ?_, fun x hx => hw.unissued x fun h =>
      hx ((FencedTable.issued_remove ..).mpr h)⟩
    rw [find_withdraw] at hrow
    split at hrow
    · cases hrow
    · exact hw.entry x row hrow
  | @release permits s k entry find =>
    refine ⟨fun x row hrow => ?_, fun x hx => hw.unissued x fun h =>
      hx ((FencedTable.issued_remove ..).mpr ?_)⟩
    · rw [find_withdraw] at hrow
      split at hrow
      · cases hrow
      · next hxk =>
        rcases releaseTransport_find (s := s) entry hxk with hsame | ⟨source, hfenced⟩
        · exact hw.entry x row (hsame.symm.trans hrow)
        · rw [hfenced, Option.map_eq_some_iff] at hrow
          obtain ⟨before, hbefore, rfl⟩ := hrow
          exact hfence _ _ before source (hw.entry x before hbefore)
    · exact (releaseTransport_issued s k entry x).mpr h
  | connect permits s config limits decoder classifier connector =>
    obtain ⟨horigin, hissued⟩ :=
      connectWith_descends config limits decoder classifier connector s ()
    refine ⟨fun x row hrow => ?_, fun x hx => hw.unissued x fun h => hx (hissued x h)⟩
    cases horigin x row hrow with
    | kept find => exact hw.entry x row find
    | fenced find fence =>
      rw [fence]
      exact hfence _ _ _ _ (hw.entry x _ find)
    | joined fresh new =>
      have hnone : permits x = [] := hw.unissued x fresh
      dsimp only
      rw [hnone]
      exact hnew x row fresh new

/-- **The rule for the entries of a set.** -/
theorem entries_run
    {I : ResourceToken → List OperationPermit → ConnectionEntry B D C R Q W T → Prop}
    (hedits : ∀ (k : ResourceToken) (a b : EntryState B D C R Q W T P), Edits k a b →
      I k a.1 a.2.2 → I k b.1 b.2.2)
    (hfence : ∀ k permits entry source, I k permits entry → I k permits (entry.fence source))
    (hnew : ∀ k entry, Newcomer P entry → I k [] entry) (setup : SetSetup P X)
    (calls : List (SetCall D C T)) :
    Entries I (setup.final B Q W M calls) := by
  refine reach_run setup (I := Entries I) ⟨fun k entry hfind => ?_, fun _ _ => rfl⟩
    (fun _ _ hmove hw => hmove.entries hedits hfence (fun k entry _ => hnew k entry) hw) calls
  have hnone : FencedTable.get
      (FencedTable.new setup.limits.maxConnections : M (ConnectionEntry B D C R Q W T)) k = none :=
    FencedTable.get_new ..
  cases hfind.symm.trans hnone

end Bornera.Shared
