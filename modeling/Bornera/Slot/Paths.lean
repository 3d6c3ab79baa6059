import Bornera.Slot.Interpret

/-!
# The paths of a slot

A public call of a running slot is a path of moves. Moves keep the configuration, and the core in
the state of its epoch; a rule for invariants (`Path.keeps`) goes from one move to a path.
-/

namespace Bornera.Slot

open Bornera.Core Bornera.Core.Epoch Lib ConnectionSlot

variable {B D C R E T : Type} {Q W : Type → Type} [ByteBudget B] [FrameDecoder D R E] [Retained R]
  [InboundClassifier C R] [EventBatch Q] [TimerQueue W] [SlotTransport T]

/-- The core of a slot whose caller holds `permits` is in the state of an epoch. -/
def Owns (permits : List OperationPermit) (s : ConnectionSlot B D C R Q W)
    (e : Epoch OutboundFrame) : Prop :=
  Holds s.limits.connection ⟨s.core, permits⟩ e

variable {permits : List OperationPermit} {cause : SlotCall T}

section
omit [Retained R] [InboundClassifier C R] [EventBatch Q] [TimerQueue W]

lemma owns_of_eq {s : ConnectionSlot B D C R Q W} {limits : ConnectionSlotLimits}
    {core : ConnectionCore B OutboundFrame} {e : Epoch OutboundFrame} (hl : s.limits = limits)
    (hc : s.core = core) (h : Holds limits.connection ⟨core, permits⟩ e) : Owns permits s e := by
  unfold Owns
  rw [hl, hc]
  exact h

lemma Owns.permits_eq {s : ConnectionSlot B D C R Q W} {e : Epoch OutboundFrame}
    (h : Owns permits s e) :
    permits = e.permits := h.permits

end

/-- What no move changes. -/
structure Fixed (s s' : ConnectionSlot B D C R Q W) : Prop where
  limits : s'.limits = s.limits
  state : s'.state = s.state
  debug : s'.debug = s.debug
  connectDeadline : s'.connectDeadline = s.connectDeadline

omit [ByteBudget B] [Retained R] [InboundClassifier C R] [EventBatch Q] [TimerQueue W] in
lemma Fixed.trans {s₁ s₂ s₃ : ConnectionSlot B D C R Q W} (h : Fixed s₁ s₂) (h' : Fixed s₂ s₃) :
    Fixed s₁ s₃ :=
  ⟨h'.limits.trans h.limits, h'.state.trans h.state, h'.debug.trans h.debug,
    h'.connectDeadline.trans h.connectDeadline⟩

omit [ByteBudget B] [InboundClassifier C R] in
lemma fixed_interpret {X : Type}
    (outcomeOf : OperationOutcome X → Except EngineInvariant (OperationOutcome R))
    (tr : ConnectionTransition X)
    (s : ConnectionSlot B D C R Q W) : Fixed s (interpret outcomeOf tr s).2 := by
  rw [interpret_frame]
  exact ⟨rfl, rfl, rfl, rfl⟩

omit [ByteBudget B] [Retained R] [InboundClassifier C R] [TimerQueue W] in
lemma fixed_publish (event : ℕ → ConnectionEpoch → ConnectionEvent)
    (s : ConnectionSlot B D C R Q W) :
    Fixed s (publishNext event s).2 := by
  rw [publishNext_frame]
  exact ⟨rfl, rfl, rfl, rfl⟩

section
omit [ByteBudget B] [EventBatch Q]

/-- What an occasion changes around the call: the decoder, the timers and the drain. -/
lemma Occasion.frame {s : ConnectionSlot B D C R Q W} {t t' : Option T}
    {call : Call OutboundFrame Unit} {tr : Option (ConnectionTransition Unit)}
    {f : ConnectionSlot B D C R Q W → ConnectionSlot B D C R Q W}
    (h : Occasion cause s t call tr f t') (s₁ : ConnectionSlot B D C R Q W) :
    f s₁ = { s₁ with
      decoder := (f s₁).decoder
      classifier := (f s₁).classifier
      decoderPending := (f s₁).decoderPending
      drainDeadline := (f s₁).drainDeadline
      timers := (f s₁).timers
      deadlines := (f s₁).deadlines } := by
  cases h with
  | elapsed now due =>
    dsimp only
    rw [popDue_frame]
  | drained deadline called =>
    dsimp only
    split <;> rfl
  | _ => rfl

lemma Occasion.fixed {s : ConnectionSlot B D C R Q W} {t t' : Option T}
    {call : Call OutboundFrame Unit} {tr : Option (ConnectionTransition Unit)}
    {f : ConnectionSlot B D C R Q W → ConnectionSlot B D C R Q W}
    (h : Occasion cause s t call tr f t') (s₁ : ConnectionSlot B D C R Q W) :
    Fixed s₁ (f s₁) ∧ (f s₁).core = s₁.core := by
  rw [h.frame s₁]
  exact ⟨⟨rfl, rfl, rfl, rfl⟩, rfl⟩

end

/-- **Moves keep the configuration and the core in the state of its epoch.** -/
theorem Move.owns {a b : Scene B D C R Q W T} (h : Move permits cause a b)
    (ha : Owns permits a.slot a.epoch) :
    Fixed a.slot b.slot ∧ Owns permits b.slot b.epoch := by
  cases h with
  | @exchange s _ _ _ e' call tr f core occasion step holds =>
    obtain ⟨hfix, hcore⟩ := occasion.fixed { s with core }
    have hint := fixed_interpret unitOutcome tr (f { s with core })
    refine ⟨Fixed.trans ⟨hfix.limits, hfix.state, hfix.debug, hfix.connectDeadline⟩ hint, ?_⟩
    exact owns_of_eq (hint.limits.trans hfix.limits) ((interpret_core ..).trans hcore) holds
  | @refused s _ _ _ e' call source f core occasion step holds =>
    obtain ⟨hfix, hcore⟩ := occasion.fixed { s with core }
    exact ⟨⟨hfix.limits, hfix.state, hfix.debug, hfix.connectDeadline⟩,
      owns_of_eq hfix.limits hcore holds⟩
  | @replied s _ _ e' frame key tr decoder classifier core next small keyed step holds =>
    have hint := fixed_interpret .ok tr { s with core, decoder, classifier }
    exact ⟨⟨hint.limits, hint.state, hint.debug, hint.connectDeadline⟩,
      owns_of_eq hint.limits (interpret_core ..) holds⟩
  | replyRefused _ _ _ step holds => exact ⟨⟨rfl, rfl, rfl, rfl⟩, holds⟩
  | fronted step holds => exact ⟨⟨rfl, rfl, rfl, rfl⟩, holds⟩
  | @admitted s _ _ e' tr core _ _ step holds =>
    have hpub := fixed_publish .admissionOpened { s with core }
    exact ⟨⟨hpub.limits, hpub.state, hpub.debug, hpub.connectDeadline⟩,
      owns_of_eq hpub.limits (publishNext_core ..) holds⟩
  | opened s t e =>
    have hpub := fixed_publish .transportOpened { s with transportState := .opened }
    exact ⟨⟨hpub.limits, hpub.state, hpub.debug, hpub.connectDeadline⟩,
      owns_of_eq hpub.limits (publishNext_core ..) ha⟩
  | pressed s t e flt =>
    have hframe := capture_frame s t
    dsimp only
    rw [hframe]
    exact ⟨⟨rfl, rfl, rfl, rfl⟩, ha⟩
  | quiet s t e none =>
    dsimp only
    rw [popDue_frame]
    exact ⟨⟨rfl, rfl, rfl, rfl⟩, ha⟩
  | forced s s' t e called forced =>
    unfold forceShutdown at forced
    split at forced <;> cases forced <;> exact ⟨⟨rfl, rfl, rfl, rfl⟩, ha⟩
  | shut s t e request shuts =>
    dsimp only
    rw [shutdownStep_frame]
    exact ⟨⟨rfl, rfl, rfl, rfl⟩, ha⟩
  | _ => exact ⟨⟨rfl, rfl, rfl, rfl⟩, ha⟩

/-! ### Moves beside the core -/

/-- The reason of a close of the core. -/
def CloseDirective.reason : CloseDirective → Option CloseReason
  | .core reason _ => some reason
  | .abort => none

/-- A move beside the core: it touches the input, the shutdown and what is known of the transport,
and fails only by the transport. -/
structure Aside (a b : Scene B D C R Q W T) : Prop where
  slot : b.slot = { a.slot with
    decoder := b.slot.decoder
    decoderPending := b.slot.decoderPending
    readBuffer := b.slot.readBuffer
    ioPreference := b.slot.ioPreference
    closeRequest := b.slot.closeRequest
    transportDiagnostic := b.slot.transportDiagnostic
    transportPressure := b.slot.transportPressure
    transportRetainedLimit := b.slot.transportRetainedLimit
    transportContractDiverged := b.slot.transportContractDiverged }
  request : b.slot.closeRequest.map CloseDirective.reason =
    a.slot.closeRequest.map CloseDirective.reason
  epoch : b.epoch = a.epoch
  healthy : b.fault = none → a.fault = none
  fault : ∀ error ∈ b.fault, error ∈ a.fault ∨ error.outside = true

section
omit [ByteBudget B] [Retained R] [InboundClassifier C R] [EventBatch Q] [TimerQueue W]

/-- A step of the shutdown keeps the reason of the close. -/
lemma shutdownStep_reason (reason : CloseReason) (deadline : Deadline)
    (drive : T → TransportBudget → Except TransportDiagnostic TransportProgress × T)
    (s : ConnectionSlot B D C R Q W) (t : T) :
    ∃ shutdown, (shutdownStep reason deadline drive (s, t)).2.1.closeRequest =
      some (.core reason shutdown) := by
  rw [shutdownStep_run]
  generalize captureTransportPressure (s, (drive t s.transportBudget).2) = captured
  obtain ⟨pressure, s₁, t₁⟩ := captured
  simp only
  split
  · exact ⟨.immediate, rfl⟩
  · exact ⟨.immediate, rfl⟩
  · split
    · exact ⟨.immediate, rfl⟩
    · exact ⟨_, rfl⟩

lemma forceShutdown_reason {s s' : ConnectionSlot B D C R Q W} (h : s.forceShutdown = some s') :
    s'.closeRequest.map CloseDirective.reason = s.closeRequest.map CloseDirective.reason := by
  unfold forceShutdown at h
  split at h
  · next hrequest =>
    cases h
    rw [hrequest]
    rfl
  · next hrequest =>
    cases h
    rw [hrequest]
    rfl
  · cases h

end

/-- **A move converses with the core, publishes an event, looks for a timer, or
is beside the core.** -/
@[elab_as_elim]
theorem Move.casesAside {motive : ∀ a b : Scene B D C R Q W T, Move permits cause a b → Prop}
    {a b : Scene B D C R Q W T} (h : Move permits cause a b)
    (exchange : ∀ {s : ConnectionSlot B D C R Q W} {t t' e e' call tr f core}
      (occasion : Occasion cause s t call (some tr) f t')
      (step : Step e call (.transition (.ok tr)) e')
      (holds : Holds s.limits.connection ⟨core, permits⟩ e'),
      motive _ _ (.exchange occasion step holds))
    (refused : ∀ {s : ConnectionSlot B D C R Q W} {t t' e e' call source f core}
      (occasion : Occasion cause s t call none f t')
      (step : Step e call (.transition (.error source)) e')
      (holds : Holds s.limits.connection ⟨core, permits⟩ e'),
      motive _ _ (.refused occasion step holds))
    (replied : ∀ {s : ConnectionSlot B D C R Q W} {t e e' frame key tr decoder classifier core}
      (next : s.decoder.nextFrame = (.ok (some frame), decoder))
      (small : Retained.retainedBytes frame ≤ s.limits.replyBytes)
      (keyed : InboundClassifier.replyKey s.classifier frame = (some key, classifier))
      (step : Step e (.applyReply ⟨s.epoch, key, frame⟩) (.transition (.ok tr)) e')
      (holds : Holds s.limits.connection ⟨core, permits⟩ e'),
      motive _ _ (.replied (t := t) next small keyed step holds))
    (replyRefused :
      ∀ {s : ConnectionSlot B D C R Q W} {t e e' frame key source decoder classifier core}
      (next : s.decoder.nextFrame = (.ok (some frame), decoder))
      (small : Retained.retainedBytes frame ≤ s.limits.replyBytes)
      (keyed : InboundClassifier.replyKey s.classifier frame = (some key, classifier))
      (step : Step (R := R) e (.applyReply ⟨s.epoch, key, frame⟩) (.transition (.error source)) e')
      (holds : Holds s.limits.connection ⟨core, permits⟩ e'),
      motive _ _ (.replyRefused (t := t) next small keyed step holds))
    (fronted : ∀ {s : ConnectionSlot B D C R Q W} {t e e' source core}
      (step : Step (R := Unit) e (.frontWrite OutboundFrame.view s.limits.ioChunkBytes)
        (.offered (.error source)) e')
      (holds : Holds s.limits.connection ⟨core, permits⟩ e'),
        motive _ _ (.fronted (s := s) (t := t) step holds))
    (admitted : ∀ {s : ConnectionSlot B D C R Q W} {t e e' core} {tr : ConnectionTransition Unit}
      (opened : s.transportState = .opened) (applied : tr.disposition = .applied)
      (step : Step e (.apply (.openAdmission s.epoch)) (.transition (.ok tr)) e')
      (holds : Holds s.limits.connection ⟨core, permits⟩ e'),
      motive _ _ (.admitted (t := t) opened applied step holds))
    (opened : ∀ (s : ConnectionSlot B D C R Q W) t e (connecting : s.transportState = .connecting)
      (pending : s.closeRequest = none) (open_ : (SlotTransport.isOpen t).1 = true),
        motive _ _ (.opened s t e connecting pending open_))
    (quiet : ∀ (s : ConnectionSlot B D C R Q W) t e {now} (undue : (s.popDue now).1 = none),
      motive _ _ (.quiet s t e undue))
    (aside : ∀ {a b} (h : Move permits cause a b), Aside a b → motive a b h) : motive a b h := by
  cases h with
  | exchange occasion step holds => exact exchange occasion step holds
  | refused occasion step holds => exact refused occasion step holds
  | replied next small keyed step holds => exact replied next small keyed step holds
  | replyRefused next small keyed step holds => exact replyRefused next small keyed step holds
  | fronted step holds => exact fronted step holds
  | admitted open_ applied step holds => exact admitted open_ applied step holds
  | opened s t e connecting pending open_ => exact opened s t e connecting pending open_
  | quiet s t e undue => exact quiet s t e undue
  | pressed s t e flt =>
    refine aside _ ⟨?_, ?_, rfl, ?_, ?_⟩
    · dsimp only
      rw [capture_frame]
    · dsimp only
      rw [capture_frame]
    · cases flt with
      | none => exact fun _ => rfl
      | some => exact fun hnone => by cases hnone
    · intro error he
      cases flt with
      | some => exact .inl he
      | none => exact .inr (capture_outside _ error (fault_eq he))
  | forced s s' t e called forced =>
    refine aside _ ⟨?_, forceShutdown_reason forced, rfl, fun _ => rfl, fun error he => by cases he⟩
    dsimp only
    rw [forceShutdown_frame forced]
  | timedOut s t e called request graceful elapsed =>
    refine aside _ ⟨rfl, ?_, rfl, fun _ => rfl, fun error he => by cases he⟩
    dsimp only
    rw [request]
    rfl
  | completed s t e request complete =>
    refine aside _ ⟨rfl, ?_, rfl, fun _ => rfl, fun error he => by cases he⟩
    dsimp only
    rw [request]
    rfl
  | @shut s t e reason _ deadline drive request shuts =>
    refine aside _ ⟨?_, ?_, rfl, fun _ => rfl, fun error he =>
      .inr (shutdownStep_outside (fault_eq he))⟩
    · dsimp only
      rw [shutdownStep_frame]
    · obtain ⟨shutdown, hshutdown⟩ := shutdownStep_reason reason deadline drive s t
      dsimp only
      rw [hshutdown, request]
      rfl
  | misreported s e misreports =>
    refine aside _ ⟨rfl, rfl, rfl, fun _ => rfl, fun error he => .inr ?_⟩
    cases he
    cases misreports with
    | establishing _ _ _ invalid => exact validate_outside invalid
    | driving _ _ invalid => exact validate_outside invalid
  | overread =>
    refine aside _ ⟨rfl, rfl, rfl, fun _ => rfl, fun error he => .inr ?_⟩
    cases he
    rfl
  | openedEarly =>
    refine aside _ ⟨rfl, rfl, rfl, fun _ => rfl, fun error he => .inr ?_⟩
    cases he
    rfl
  | _ => exact aside _ ⟨rfl, rfl, rfl, fun _ => rfl, fun error he => by cases he⟩

/-! ### Paths -/

/-- A sequence of moves. -/
abbrev Path (permits : List OperationPermit) (cause : SlotCall T) :
    Scene B D C R Q W T → Scene B D C R Q W T → Prop :=
  Relation.ReflTransGen (Move permits cause)

theorem Path.owns {a b : Scene B D C R Q W T} (h : Path permits cause a b)
    (ha : Owns permits a.slot a.epoch) :
    Fixed a.slot b.slot ∧ Owns permits b.slot b.epoch := by
  induction h with
  | refl => exact ⟨⟨rfl, rfl, rfl, rfl⟩, ha⟩
  | tail _ hmove ih =>
    obtain ⟨hfix, howns⟩ := hmove.owns ih.2
    exact ⟨ih.1.trans hfix, howns⟩

/-- A rule for invariants: what every move keeps, a path keeps. -/
theorem Path.keeps {I : Scene B D C R Q W T → Prop} {a b : Scene B D C R Q W T}
    (h : Path permits cause a b) (ha : Owns permits a.slot a.epoch) (hi : I a)
    (hkeep : ∀ a b, Move permits cause a b → Owns permits a.slot a.epoch → I a → I b) : I b := by
  induction h with
  | refl => exact hi
  | tail hpath hmove ih => exact hkeep _ _ hmove (Path.owns hpath ha).2 ih

end Bornera.Slot
