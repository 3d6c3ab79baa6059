import Bornera.Slot.Inbound

/-!
# The rotation and the room of its reads

Every class of I/O keeps the invariant of the input (`Inbound`), with the class after it as the one
the rotation comes to next. The rotation, the loop around it, a quantum and every other call keep it
too, and so it holds of every slot that a run leads to.
-/

namespace Bornera.Slot

open Bornera.Core Bornera.Core.Epoch Lib ConnectionSlot

variable {B D C R E T : Type} {Q W : Type → Type} [ByteBudget B] [FrameDecoder D R E] [Retained R]
  [InboundClassifier C R] [EventBatch Q] [TimerQueue W] [SlotTransport T]

variable {permits : List OperationPermit} {cause : SlotCall T} {strict : Prop}
  {current : IoPreference} {e : Epoch OutboundFrame}

/-! ### A slot in its phase -/

/-- The slot is in the phase of a healthy core. -/
def Ours (permits : List OperationPermit) (s : ConnectionSlot B D C R Q W) : Prop :=
  ∃ e, Owns permits s e ∧ e.poisoned = none ∧ InPhase s e e.phase

section
omit [Retained R] [InboundClassifier C R] [EventBatch Q] [TimerQueue W]

lemma Ours.owned {s : ConnectionSlot B D C R Q W} (h : Ours permits s) : Owned permits s := by
  obtain ⟨e, he, _⟩ := h
  exact ⟨e, he⟩

/-- Without a close, on a transport that is not closed, such a slot is active. -/
lemma Ours.active {s : ConnectionSlot B D C R Q W} (h : Ours permits s)
    (hnone : s.closeRequest = none) (hstate : s.transportState ≠ .closed) : s.Active := by
  obtain ⟨e, he, _, hphase⟩ := h
  exact ⟨hnone, he.core.policy.phase.trans (hphase.live_of hnone hstate)⟩

end

/-- A walk without a failure stays in phase. -/
lemma Ours.walks {σ α : Type} {see : σ → ConnectionSlot B D C R Q W × Option T}
    {m : Owner EngineError σ α} {x : σ} (h : Ours permits (see x).1)
    (hw : Walks permits cause see m x) :
    Owned permits (see (m x).2).1 ∧ ∀ a, (m x).1 = .ok a → Ours permits (see (m x).2).1 := by
  obtain ⟨e, he, hhealthy, hphase⟩ := h
  obtain ⟨e', hpath⟩ := hw.2 e he
  have howns := (hpath.owns he).2
  refine ⟨⟨e', howns⟩, fun a hok => ⟨e', howns, ?_⟩⟩
  have hkept :=
    hpath.keeps (I := fun a =>
    a.fault = none → a.epoch.poisoned = none ∧ InPhase a.slot a.epoch a.epoch.phase) he
    (fun _ => ⟨hhealthy, hphase⟩) fun a b hmove ha hi => hmove.inPhase ha hi
  exact hkept (by rw [hok]; rfl)

/-- A computation that walks keeps the slot in its phase, besides what it does. -/
lemma triple_ours {σ α : Type} {see : σ → ConnectionSlot B D C R Q W × Option T} {P : σ → Prop}
    {m : Owner EngineError σ α} {Q : α → σ → Prop} {F : EngineError → σ → Prop}
    (hm : Owner.Triple P m Q F) (hours : ∀ x, P x → Ours permits (see x).1)
    (hw : ∀ x, P x → Walks permits cause see m x) :
    Owner.Triple P m (fun a x => Q a x ∧ Ours permits (see x).1) F := by
  intro x hx
  have hmid := hm x hx
  obtain ⟨_, hkept⟩ := (hours x hx).walks (hw x hx)
  rcases hrun : m x with ⟨error | a, y⟩ <;> rw [hrun] at hmid hkept
  · exact hmid
  · exact ⟨hmid, hkept a rfl⟩

/-! ### One class -/

variable {s s' : ConnectionSlot B (Recorded D R E) C R Q W}

/-- Where the rotation comes to a class. -/
structure Rolling (permits : List OperationPermit) (strict : Prop) (current : IoPreference)
    (s : ConnectionSlot B (Recorded D R E) C R Q W) : Prop where
  inbound : Inbound strict current s
  unclosed : s.closeRequest = none
  ours : Ours permits s

omit [InboundClassifier C R] [EventBatch Q] [TimerQueue W] in
lemma triple_kept {τ α : Type} {m : Driving B (Recorded D R E) C R Q W τ α}
    {P : ConnectionSlot B (Recorded D R E) C R Q W × τ → Prop}
    (hm : KeepsInputWith permits strict m)
    (hP : ∀ x, P x → Inbound strict current x.1 ∧ Owned permits x.1) :
    Owner.Triple P m (fun _ x => Inbound strict current x.1 ∧ Owned permits x.1)
      (fun _ x => Metered x.1) := by
  refine hm.triple (fun x y hx hspares => ?_) fun x y hx hspares => ?_
  · obtain ⟨hinbound, e, he⟩ := hP x hx
    exact ⟨hinbound.beside (hspares e he).2, (hspares e he).1⟩
  · obtain ⟨hinbound, e, he⟩ := hP x hx
    exact hinbound.toMetered.beside (hspares e he).2

omit [SlotTransport T] [InboundClassifier C R] [EventBatch Q] [TimerQueue W] in
/-- A class that leaves the input alone. -/
lemma triple_keptClass {α : Type} {m : Driving B (Recorded D R E) C R Q W T α}
    (hm : KeepsInputWith permits strict m) (hnext : current.next ≠ .read) :
    Owner.Triple (fun x : ConnectionSlot B (Recorded D R E) C R Q W × T =>
      Rolling permits strict current x.1) m
      (fun _ x => Inbound strict current.next x.1) (fun _ x => Metered x.1) :=
  (triple_kept hm fun _ hx => ⟨hx.inbound, hx.ours.owned⟩).weaken (fun _ hx => hx)
      (fun _ _ hx => hx.1.retarget fun hread =>
    absurd hread hnext) fun _ _ hx => hx

variable (permits) in
/-- **Every class of I/O keeps the invariant.** -/
theorem triple_driveClass (hdrains : strict → Drains D) (remaining : ℕ) :
    Owner.Triple (fun x : ConnectionSlot B (Recorded D R E) C R Q W × T =>
      Rolling permits strict current x.1)
      (driveClass remaining current) (fun _ x => Inbound strict current.next x.1)
        (fun _ x => Metered x.1) := by
  have hidle (hnext : current.next ≠ .read) :
      Owner.Triple (fun x : ConnectionSlot B (Recorded D R E) C R Q W × T =>
      Rolling permits strict current x.1)
        (pure none : Driving B (Recorded D R E) C R Q W T (Option ℕ))
      (fun _ x => Inbound strict current.next x.1) (fun _ x => Metered x.1) :=
    .pure fun x hx => hx.inbound.retarget fun hread => absurd hread hnext
  cases current with
  | transport =>
    exact triple_keptClass (keeps_driveTransportOnce permits strict remaining) (by decide)
  | decode =>
    refine .reads fun x hx => .ite (fun _ => ?_) fun hdry => ?_
    · refine .bind (R := fun _ y => Inbound strict (IoPreference.next .decode) y.1) ?_ fun _ =>
        .pure fun _ h => h
      rintro y rfl
      obtain ⟨e, he⟩ := hx.ours.owned
      have hdecoded := hx.inbound.decodeOnce hdrains he hx.unclosed
      rw [Owner.onFst_run]
      rcases hrun : driveDecoderOnce y.1 with ⟨error | ⟨⟩, s'⟩ <;> rw [hrun] at hdecoded
      · exact hdecoded.1
      · exact hdecoded.2 rfl .read
    · refine .pure ?_
      rintro y rfl
      exact hx.inbound.retarget fun _ hactive =>
        (hx.inbound.turned hactive).dry (by simpa using hdry)
  | read =>
    refine .reads fun x hx => .ite (fun hopen => ?_) fun _ => ?_
    · refine (triple_driveReadOnce permits).weaken ?_ (fun _ _ h => h) fun _ _ h => h
      rintro y rfl
      have hstate : y.1.transportState ≠ .closed := by
        intro hclosed
        unfold isTransportOpen at hopen
        rw [hclosed] at hopen
        cases hopen
      exact ⟨hx.inbound, hx.ours.active hx.unclosed hstate, hx.ours.owned⟩
    · exact (hidle (by decide)).weaken (fun y hy => by cases hy; exact hx) (fun _ _ h => h)
        fun _ _ h => h
  | write =>
    refine .reads fun x hx => .ite (fun _ => ?_) fun _ => ?_
    · exact (triple_keptClass (keeps_driveWriteOnce permits strict) (by decide)).weaken
        (fun y hy => by cases hy; exact hx)
        (fun _ _ h => h) fun _ _ h => h
    · exact (hidle (by decide)).weaken (fun y hy => by cases hy; exact hx) (fun _ _ h => h)
        fun _ _ h => h

/-! ### The rotation -/

/-- The invariant between two classes, from the class that the slot prefers. -/
abbrev Tuned (strict : Prop) (s : ConnectionSlot B (Recorded D R E) C R Q W) : Prop :=
  Inbound strict s.ioPreference s

omit [ByteBudget B] [InboundClassifier C R] [EventBatch Q] [TimerQueue W] in
lemma capture_inbound (x : ConnectionSlot B (Recorded D R E) C R Q W × T)
    (h : Inbound strict current x.1) :
    Inbound strict current (captureTransportPressure x).2.1 := by
  rw [capture_frame]
  exact h.congr rfl rfl rfl rfl rfl rfl

omit [ByteBudget B] [Retained R] [InboundClassifier C R] [EventBatch Q] [TimerQueue W] in
lemma capture_metered (x : ConnectionSlot B (Recorded D R E) C R Q W × T) (h : Metered x.1) :
    Metered (captureTransportPressure x).2.1 := by
  rw [capture_frame]
  exact h.congr rfl rfl rfl

/-- **The rotation keeps the invariant.** When it finds nothing to do it has
come past `classes` classes. -/
theorem Rolling.rotate (hdrains : strict → Drains D) (remaining classes : ℕ)
    (x : ConnectionSlot B (Recorded D R E) C R Q W × T) (h : Rolling permits strict current x.1) :
    match driveFrom remaining classes current x with
    | (.ok (some _), y) => Tuned strict y.1
    | (.ok none, y) =>
      Inbound strict (IoPreference.next^[classes] current) y.1 ∧ y.1.ioPreference = x.1.ioPreference
    | (.error _, y) => Metered y.1 := by
  induction classes generalizing current x with
  | zero => exact ⟨h.inbound, rfl⟩
  | succ classes ih =>
    have hclass := triple_driveClass permits hdrains remaining x h
    have hidle := idles_driveClass remaining current x
    have hwalk : Walks permits (.openAdmission : SlotCall T) Slot.beside
        (driveClass remaining current) (x.1, x.2) :=
      walks_driveClass remaining current h.unclosed
    have hours := h.ours.walks hwalk
    rw [driveFrom_succ]
    rcases hrun : driveClass remaining current x with ⟨error | progressed, y⟩ <;>
      rw [hrun] at hclass hours
    · exact capture_metered y hclass
    · have hlooked := capture_inbound y hclass
      have hframe := capture_frame y.1 y.2
      have hlook : Walks permits (.openAdmission : SlotCall T) Slot.beside captureTransportPressure
        y := walks_capture y
      have hours' := (hours.2 progressed rfl).walks hlook
      dsimp only at hlooked ⊢
      rcases hpressure : captureTransportPressure y with ⟨error | ⟨⟩, z⟩ <;>
        rw [hpressure] at hlooked hframe hours'
      · cases progressed <;> exact hlooked.toMetered
      · cases progressed with
        | some progressed => exact hlooked.congr rfl rfl rfl rfl rfl rfl
        | none =>
          have hsame : z.1.closeRequest = none ∧ z.1.ioPreference = x.1.ioPreference := by
            rw [hframe, hidle y hrun]
            exact ⟨h.unclosed, rfl⟩
          have hrest := ih z ⟨hlooked, hsame.1, hours'.2 () rfl⟩
          rw [Function.iterate_succ_apply]
          rw [hsame.2] at hrest
          exact hrest

/-- Four classes come back to where they began. -/
lemma next_four (current : IoPreference) : IoPreference.next^[4] current = current := by
  cases current <;> rfl

/-- What the loops around the rotation rely on. -/
structure Settles (permits : List OperationPermit) (strict : Prop)
    (s : ConnectionSlot B (Recorded D R E) C R Q W) : Prop where
  tuned : Tuned strict s
  ours : Ours permits s

lemma Settles.readyOnce (hdrains : strict → Drains D) (remaining : ℕ)
    (x : ConnectionSlot B (Recorded D R E) C R Q W × T) (h : Settles permits strict x.1)
    (hnone : x.1.closeRequest = none) :
    match driveReadyOnce remaining x with
    | (.ok _, y) => Settles permits strict y.1
    | (.error _, y) => Metered y.1 := by
  have hrolled := Rolling.rotate hdrains remaining 4 x ⟨h.tuned, hnone, h.ours⟩
  have hwalk : Walks permits (.openAdmission : SlotCall T) Slot.beside (driveReadyOnce remaining)
    x := walks_driveReadyOnce remaining x hnone
  have hours := h.ours.walks hwalk
  have hrun : driveReadyOnce remaining x = driveFrom remaining 4 x.1.ioPreference x := rfl
  rw [hrun] at hours ⊢
  rcases hfrom : driveFrom remaining 4 x.1.ioPreference x with ⟨error | progressed, y⟩ <;>
    rw [hfrom] at hrolled hours
  · exact hrolled
  · refine ⟨?_, hours.2 progressed rfl⟩
    cases progressed with
    | some progressed => exact hrolled
    | none =>
      obtain ⟨hinbound, hsame⟩ := hrolled
      rw [next_four, ← hsame] at hinbound
      exact hinbound

lemma Settles.decoderAlone (hdrains : strict → Drains D) (h : Settles permits strict s)
    (hnone : s.closeRequest = none) :
    match (driveDecoderAlone : Run B (Recorded D R E) C R Q W (Option ℕ)) s with
    | (.ok _, y) => Settles permits strict y
    | (.error _, y) => Metered y := by
  have hwalk : Walks permits (.openAdmission : SlotCall Peer) (fun s => (s, none)) driveDecoderAlone
    s := walks_driveDecoderAlone s none
  have hours := h.ours.walks hwalk
  obtain ⟨e, he⟩ := h.ours.owned
  have hdecoded := Inbound.decodeOnce h.tuned hdrains he hnone
  rw [ConnectionSlot.driveDecoderAlone, Owner.read_bind] at hours ⊢
  split at hours
  · next hpending =>
    rw [if_pos hpending]
    rcases hrun : driveDecoderOnce s with ⟨error | ⟨⟩, s'⟩ <;> rw [hrun] at hdecoded
    · rw [Owner.bind_error hrun]
      exact hdecoded.1
    · rw [Owner.bind_ok hrun] at hours ⊢
      exact ⟨(hdecoded.2 rfl .read).congr rfl rfl rfl rfl rfl rfl, hours.2 _ rfl⟩
  · next hdry =>
    rw [if_neg hdry]
    exact h

/-- **The loop over the rotation keeps the invariant.** -/
lemma triple_ioLoop (hdrains : strict → Drains D) (budget turns work : ℕ) :
    Owner.Triple (fun x : ConnectionSlot B (Recorded D R E) C R Q W × Option T =>
      Settles permits strict x.1) (ioLoop budget turns work)
      (fun _ x => Settles permits strict x.1) (fun _ x => Metered x.1) := by
  induction turns generalizing work with
  | zero => exact .pure fun _ h => h
  | succ turns ih =>
    refine .reads fun x hx => .ite (fun hready => ?_) fun _ => .pure ?_
    · refine .bind (R := fun _ y => Settles permits strict y.1) ?_ fun progressed => ?_
      · rintro ⟨s, t⟩ rfl
        cases t with
        | none =>
          have hdecoded := hx.decoderAlone hdrains hready.2
          dsimp only [withTransport]
          rcases hrun : (driveDecoderAlone : Run B (Recorded D R E) C R Q W (Option ℕ)) s
            with ⟨error | a, s'⟩ <;> rw [hrun] at hdecoded <;>
            exact hdecoded
        | some t =>
          have hdriven := Settles.readyOnce hdrains (budget - work) (s, t) hx hready.2
          dsimp only [withTransport]
          rcases hrun : driveReadyOnce (budget - work) (s, t) with ⟨error | a, y⟩ <;>
            rw [hrun] at hdriven <;> exact hdriven
      · cases progressed with
        | none => exact .pure fun _ h => h
        | some progressed => exact ih (work + progressed)
    · rintro y rfl
      exact hx

/-- The slot has the invariant, and its core is that of an epoch. -/
structure Minds (permits : List OperationPermit) (strict : Prop)
    (s : ConnectionSlot B (Recorded D R E) C R Q W) : Prop where
  tuned : Tuned strict s
  owned : Owned permits s

section
omit [InboundClassifier C R] [EventBatch Q] [TimerQueue W]

lemma Settles.minds (h : Settles permits strict s) : Minds permits strict s :=
  ⟨h.tuned, h.ours.owned⟩

lemma Minds.spared (h : Minds permits strict s) (hs : Spares permits strict s s') :
    Minds permits strict s' := by
  obtain ⟨e, he⟩ := h.owned
  obtain ⟨howned, hbeside⟩ := hs e he
  refine ⟨?_, howned⟩
  unfold Tuned
  rw [hbeside.preference]
  exact h.tuned.beside hbeside

/-- What leaves the input alone, in the loops around the rotation. -/
lemma triple_minds {τ α : Type} {m : Driving B (Recorded D R E) C R Q W τ α}
    (hm : KeepsInputWith permits strict m) :
    Owner.Triple (fun x => Minds permits strict x.1) m (fun _ x => Minds permits strict x.1)
      (fun _ x => Metered x.1) :=
  hm.triple (fun _ _ hx hs => hx.spared hs) fun _ _ hx hs => (hx.spared hs).tuned.toMetered

end

variable (cause) in
lemma triple_settles {τ α : Type} {m : Driving B (Recorded D R E) C R Q W τ α} {g : τ → Option T}
    (hm : KeepsInputWith permits strict m)
    (hw : ∀ x, Walks permits cause (fun x => (x.1, g x.2)) m x) :
    Owner.Triple (fun x => Settles permits strict x.1) m (fun _ x => Settles permits strict x.1)
      (fun _ x => Metered x.1) :=
  (triple_ours ((triple_minds hm).weaken (fun _ hx => Settles.minds hx) (fun _ _ hx => hx)
    fun _ _ hx => hx) (fun _ hx => hx.ours)
    fun x _ => hw x).weaken (fun _ hx => hx) (fun _ _ hx => ⟨hx.1.tuned, hx.2⟩) fun _ _ hx => hx

lemma triple_driveIo (hdrains : strict → Drains D) (budget : ℕ) :
    Owner.Triple (fun x : ConnectionSlot B (Recorded D R E) C R Q W × Option T =>
      Settles permits strict x.1) (driveIo budget)
      (fun _ x => Minds permits strict x.1) (fun _ x => Metered x.1) := by
  refine .bind (triple_ioLoop hdrains budget budget 0) fun work => ?_
  refine .reads fun x hx =>
    (triple_minds ?_).weaken (fun y hy => by cases hy; exact hx.minds) (fun _ _ h => h)
      fun _ _ h => h
  exact .bind (.both (.pure _)
    (.either (.pure _) (keeps_withTransport permits strict (.pure _)
    (keeps_hasRunnableIo permits strict))))
    fun _ => .pure _

lemma walks_drivePending (now budget : ℕ) (s : ConnectionSlot B D C R Q W) (t : Option T) :
    Walks permits cause (fun s => (s, t)) (drivePending now budget) s := by
  by_cases hnone : s.closeRequest = none
  · exact walks_congr (if_pos hnone) (walks_driveDeadlines now budget s)
  · exact walks_congr (if_neg hnone) (walks_pure 0 s)

/-- **A quantum keeps the invariant.** -/
theorem triple_driveQuantumInner (hdrains : strict → Drains D) (now : ℕ) :
    Owner.Triple (fun x : ConnectionSlot B (Recorded D R E) C R Q W × Option T =>
      Settles permits strict x.1) (driveQuantumInner now)
      (fun _ x => Minds permits strict x.1) (fun _ x => Metered x.1) := by
  have hclose (budget work : ℕ) :
    Owner.Triple (fun x : ConnectionSlot B (Recorded D R E) C R Q W × Option T =>
    Minds permits strict x.1)
      (driveCloseQuantum now budget work) (fun _ x => Minds permits strict x.1)
          (fun _ x => Metered x.1) :=
    triple_minds (keeps_driveCloseQuantum permits strict now budget work)
  have hlook : Owner.Triple (fun x : ConnectionSlot B (Recorded D R E) C R Q W × Option T =>
    Settles permits strict x.1)
      (withTransport (pure ()) captureTransportPressure) (fun _ x => Settles permits strict x.1)
          (fun _ x => Metered x.1) :=
    triple_settles .openAdmission (g := id)
      (keeps_withTransport permits strict (.pure ()) (keeps_capture permits strict))
      fun x => walks_withTransport (walks_pure _ _) fun t => walks_capture _
  have hdeadlines (budget : ℕ) :
    Owner.Triple (fun x : ConnectionSlot B (Recorded D R E) C R Q W × Option T =>
    Settles permits strict x.1)
      (Owner.onFst (drivePending now budget)) (fun _ x => Settles permits strict x.1)
          (fun _ x => Metered x.1) :=
    triple_settles .openAdmission (g := id)
        (keeps_drivePending permits strict now budget).onFst fun x =>
      walks_onFst (g := id) (walks_drivePending now budget x.1 x.2)
  refine .bind hlook fun _ => .reads fun x hx => ?_
  refine (hdeadlines _).weaken (fun y hy => by cases hy; exact hx) (fun _ _ h => h)
    (fun _ _ h => h) |>.bind fun work => .reads fun y hy => ?_
  have hminds : ∀ z : ConnectionSlot B (Recorded D R E) C R Q W × Option T, z = y →
      Minds permits strict z.1 := by
    rintro z rfl
    exact hy.minds
  refine .ite (fun _ => (hclose _ _).weaken hminds (fun _ _ h => h) fun _ _ h => h) fun _ =>
    .ite (fun _ => ?_) fun _ => ?_
  · refine (triple_minds ?_).weaken hminds (fun _ _ h => h) fun _ _ h => h
    exact .bind (.either (.pure _)
      (keeps_withTransport permits strict (.pure _) (keeps_hasRunnableIo permits strict)))
      fun _ => .pure _
  · refine (triple_driveIo hdrains _).weaken (fun z hz => by cases hz; exact hy) (fun _ _ h => h)
        (fun _ _ h => h) |>.bind fun io =>
      .reads fun z hz => .ite (fun _ => ?_) fun _ => .pure ?_
    · exact (hclose _ _).weaken (fun u hu => by cases hu; exact hz) (fun _ _ h => h) fun _ _ h => h
    · rintro u rfl
      exact hz

/-! ### Calls -/

/-- The invariant between two calls. A failed slot is driven no more. -/
structure Provided (strict : Prop) (s : ConnectionSlot B (Recorded D R E) C R Q W) : Prop where
  metered : Metered s
  running : s.state = .running → Tuned strict s

omit [ByteBudget B] [Retained R] [InboundClassifier C R] [EventBatch Q] [TimerQueue W] in
lemma Metered.latch (h : Metered s) (reason : OwnerFailure) :
    Metered (s.latchOwnerFailure reason) := by
  rw [latchOwnerFailure_frame]
  exact h.congr rfl rfl rfl

section
omit [ByteBudget B] [InboundClassifier C R] [EventBatch Q] [TimerQueue W]

lemma Provided.latch (h : Metered s) (reason : OwnerFailure) :
    Provided strict (s.latchOwnerFailure reason) :=
  ⟨h.latch reason, fun hrunning => absurd hrunning (latchOwnerFailure_state s reason)⟩

lemma Provided.latched {flt : Option EngineError} (h : Metered s)
    (hok : flt = none → Tuned strict s) (hl : Latched s flt s') :
    Provided strict s' := by
  cases hl with
  | running => exact ⟨h, fun _ => hok rfl⟩
  | failed error => exact .latch h _

lemma Provided.beside (h : Provided strict s) (hb : Beside strict s s')
    (hstate : s'.state = .running → s.state = .running) :
    Provided strict s' := by
  refine ⟨h.metered.beside hb, fun hrunning => ?_⟩
  unfold Tuned
  rw [hb.preference]
  exact (h.running (hstate hrunning)).beside hb

end

omit [InboundClassifier C R] [EventBatch Q] [TimerQueue W] in
/-- A guarded call that leaves the input alone. -/
lemma Provided.guarded {α : Type} {m : Run B (Recorded D R E) C R Q W α} (h : Provided strict s)
    (he : Owns permits s e)
    (hm : KeepsInput permits strict m) : Provided strict (guarded m s).2 := by
  cases hstate : s.state with
  | failed reason =>
    have hrun : ConnectionSlot.guarded m s = (.error (.ownerFailed reason), s) := by
      simp only [ConnectionSlot.guarded, Owner.bind_run, ensureRunning, hstate, EngineState.failure]
    rw [hrun]
    exact h
  | running =>
    have hrun : ConnectionSlot.guarded m s = ((m s).1, latchResult (m s).2 (m s).1) := by
      simp only [ConnectionSlot.guarded, Owner.bind_run, ensureRunning, hstate,
        EngineState.failure, latch_run]
    rw [hrun]
    obtain ⟨_, hbeside⟩ := hm s e he
    have hkept : Provided strict (m s).2 := h.beside hbeside fun _ => hstate
    rcases (m s).1 with error | a
    · cases error with
      | ownerFailed => exact hkept
      | _ => exact .latch hkept.metered _
    · exact hkept

/-- A quantum. -/
lemma Provided.quantum (h : Provided strict s) (hdrains : strict → Drains D) (he : Owns permits s e)
    (hphased : Phased s e) (now : ℕ)
    (transport : Option T) : Provided strict (driveQuantum now (s, transport)).2.1 := by
  cases hstate : s.state with
  | failed reason =>
    have hrun : driveQuantum now (s, transport) = (.error (.ownerFailed reason), s, transport) := by
      simp only [driveQuantum, ensureRunning, hstate, EngineState.failure]
    rw [hrun]
    exact h
  | running =>
    have hwalk : Walks permits (.driveQuantum now transport) along (driveQuantumInner now)
      (s, transport) := walks_driveQuantumInner rfl _
    obtain ⟨hhealthy, hphase⟩ := hphased.running hstate
    have hdriven :=
      triple_driveQuantumInner hdrains now (s, transport)
      ⟨h.running hstate, e, he, hhealthy, hphase⟩
    have hlatched := latched_of_own hwalk.1 (driveQuantumInner now (s, transport)).2.1
    rw [driveQuantum_run hstate]
    rcases hrun : driveQuantumInner now (s, transport) with ⟨error | progress, y⟩ <;>
      rw [hrun] at hdriven hlatched
    · exact .latched hdriven (fun hnone => by cases hnone) hlatched
    · exact .latched hdriven.tuned.toMetered (fun _ => hdriven.tuned) hlatched

/-- A call that is not guarded. -/
lemma Provided.unguarded {e' : Epoch OutboundFrame} {permits' : List OperationPermit}
    {call : SlotCall T} {r : SlotResponse R T} (h : Provided strict s) (hphased : Phased s e)
    (howns : Owns permits s e) (howns' : Owns permits' s' e')
    (hstep : SlotStep s e permits call r (some s') e' permits')
    (hcall : ∀ flt, ¬Guards call flt r) : Provided strict s' := by
  cases hstep using SlotStep.casesPlain with
  | @plain s e permits call r s' e' permits' hstep plain =>
    rcases plain.slot with hslot | ⟨_, _, rfl⟩
    · have hphase : s'.core.machine.phase = s.core.machine.phase := by
        rw [howns'.core.policy.phase, plain.epoch, howns.core.policy.phase]
      rw [hslot]
      rw [hslot] at hphase
      exact h.beside ⟨rfl, rfl, rfl, rfl, rfl, fun ha =>
        ⟨ha.1, hphase.symm.trans ha.2⟩, fun _ shutdown hr => ⟨shutdown, hr⟩⟩ id
    · exact .latch h.metered _
  | drove running guards => exact absurd guards (hcall _)
  | @committed s s' e e' permits index frame operation tr core running step latched =>
    have hcore : s'.core = core := by
      rw [latched.frame]
      exact interpret_core ..
    have hphase : core.machine.phase = s.core.machine.phase := by
      have hlive := howns'.core.policy.phase
      rw [hcore] at hlive
      rw [hlive, howns.core.policy.phase]
      cases step
      rfl
    have hbefore : Beside strict s { s with core } :=
      ⟨rfl, rfl, rfl, rfl, rfl, fun ha =>
        ⟨ha.1, hphase.symm.trans ha.2⟩, fun _ shutdown hr => ⟨shutdown, hr⟩⟩
    have hquiet : closings tr.effects = [] := by
      cases step
      rfl
    have hafter : Beside strict { s with core } (interpretUnit tr { s with core }).2 :=
      beside_interpret (.inl hquiet) _
    have hkept : Provided strict (interpretUnit tr { s with core }).2 :=
      h.beside (hbefore.trans hafter) fun _ => running
    exact .latched hkept.metered
      (fun _ => hkept.running ((interpret_state ..).trans running)) latched
  | @aborted s e permits request =>
    refine ⟨h.metered.congr rfl rfl rfl, fun hrunning => ?_⟩
    have hphase := (hphased.running hrunning).2
    cases hp : e.phase <;> rw [hp] at hphase <;> simp [InPhase, request] at hphase
  | @confirmed s e e' permits reason shutdown tr core request ready step published =>
    obtain ⟨_, _, hclosing, _⟩ := hphased.of_core request
    rw [howns.epoch_eq] at step
    have hdead : core.machine.phase ≠ .live := by
      have hphase := howns'.core.policy.phase
      rw [publishClosed, publishNext_frame] at hphase
      rw [hphase, epochClosed_closed hclosing step]
      simp
    have hmetered : Metered (publishClosed reason
        { s with core, transportState := .closed, closeRequest := none }).2 := by
      rw [publishClosed, publishNext_frame]
      exact h.metered.congr rfl rfl rfl
    refine ⟨hmetered, fun _ => ⟨hmetered, fun hactive => ?_, ?_⟩⟩
    · have hlive := hactive.2
      rw [publishClosed, publishNext_frame] at hlive
      exact absurd hlive hdead
    · refine excused_of_none ?_
      rw [publishClosed, publishNext_frame]
  | @unpublished s e e' permits reason shutdown tr core error request ready step published =>
    have hmetered : Metered (publishClosed reason
        { s with core, transportState := .closed, closeRequest := none }).2 := by
      rw [publishClosed, publishNext_frame]
      exact h.metered.congr rfl rfl rfl
    refine ⟨(hmetered.latch .ownerInvariant).congr rfl rfl rfl, fun hrunning => ?_⟩
    exact absurd hrunning (latchOwnerFailure_state _ _)
  | @unconfirmed s e e' permits reason shutdown source core request ready step =>
    have hmetered : Metered { s with core, transportState := .closed, closeRequest := none } :=
      h.metered.congr rfl rfl rfl
    refine ⟨(hmetered.latch .core).congr rfl rfl rfl, fun hrunning => ?_⟩
    exact absurd hrunning (latchOwnerFailure_state _ _)

/-- **Every call keeps the invariant**, but for a finalization that gives want
of room as its reason. -/
theorem Provided.step (h : Provided strict s) (hdrains : strict → Drains D) (he : Owns permits s e)
    (hphased : Phased s e) (call : SlotCall T)
    (hcall : ∀ reason, call = .finalize reason → Other strict reason)
    (hslot : (SlotWorld.slotStep s permits call).1.slot = some s') : Provided strict s' := by
  obtain ⟨e', hstep, hnext⟩ := follows_slot he call
  have howns' := hnext s' hslot
  rw [hslot] at hstep
  cases call with
  | openAdmission =>
    cases hslot
    exact h.guarded he (keeps_openAdmissionInner permits strict)
  | cancel operation =>
    cases hslot
    exact h.guarded he (keeps_cancelInner permits strict operation)
  | beginDrain deadline =>
    cases hslot
    exact h.guarded he (keeps_beginDrainInner permits strict deadline)
  | finalize reason =>
    cases hslot
    exact h.guarded he (keeps_finalizeInner permits strict (hcall reason rfl))
  | driveQuantum now transport =>
    cases hslot
    exact h.quantum hdrains he hphased now transport
  | _ => exact h.unguarded hphased he howns' hstep fun flt hguards => by cases hguards

/-! ### Runs -/

/-- The setup with its decoder observed. -/
def SlotSetup.recorded (setup : SlotSetup D C R E) : SlotSetup (Recorded D R E) C R E where
  config := setup.config
  limits := setup.limits
  decoder := ⟨setup.decoder, []⟩
  classifier := setup.classifier
  within := setup.within

/-- No call changes the limits. -/
lemma SlotStep.limits_eq {s s' : ConnectionSlot B D C R Q W} {e' : Epoch OutboundFrame}
    {permits' : List OperationPermit} {call : SlotCall T} {r : SlotResponse R T}
    (h : SlotStep s e permits call r (some s') e' permits') (howns : Owns permits s e) :
    s'.limits = s.limits := by
  cases h using SlotStep.casesPlain with
  | plain _ plain =>
    rcases plain.slot with hslot | ⟨_, _, rfl⟩
    · rw [hslot]
    · rw [latchOwnerFailure_frame]
  | drove running guards path latched => exact latched.limits_eq.trans (path.owns howns).1.limits
  | committed running step latched => exact latched.limits_eq.trans (interpret_limits ..)
  | aborted => rfl
  | confirmed => rw [publishClosed, publishNext_frame]
  | unpublished => rw [latchOwnerFailure_frame, publishClosed, publishNext_frame]; rfl
  | unconfirmed => rw [latchOwnerFailure_frame]; rfl

/-- Every run keeps its slot in its phase and its limits. -/
lemma phased_run (setup : SlotSetup D C R E) (calls : List (SlotCall T))
    {s : ConnectionSlot B D C R Q W} (hslot : s ∈ (setup.final B Q W calls).slot) :
    ∃ e, Owns (setup.final B Q W calls).permits s e ∧ Phased s e ∧ s.limits = setup.limits := by
  have hrun : Standing (fun _ s e _ => Phased s e ∧ s.limits = setup.limits) (fun _ => True)
    (setup.history B Q W calls)
      (setup.final B Q W calls) := by
    refine standing_run setup ⟨Phased.new setup, rfl⟩ ?_ (fun _ _ _ _ _ _ _ _ _ _ _ _ => trivial)
      (fun _ _ _ _ _ => trivial) calls
    intro h s e permits call s' e' ev howns ⟨hphased, hlimits⟩ hstep _ _ _ _
    exact ⟨hphased.step howns hstep, (hstep.limits_eq howns).trans hlimits⟩
  unfold Standing at hrun
  rw [Option.mem_def.mp hslot] at hrun
  exact hrun

/-- The slot before the last call of a run. -/
lemma final_before (setup : SlotSetup D C R E) (calls : List (SlotCall T)) (call : SlotCall T)
    {s' : ConnectionSlot B D C R Q W} (hslot : s' ∈ (setup.final B Q W (calls ++ [call])).slot) :
    ∃ s, s ∈ (setup.final B Q W calls).slot ∧
      (SlotWorld.slotStep s (setup.final B Q W calls).permits call).1.slot = some s' := by
  have hfinal : setup.final B Q W (calls ++ [call]) =
    (SlotWorld.step (setup.final B Q W calls) call).1 := Transducer.final_snoc _ _ _
  rw [hfinal] at hslot
  cases hbefore : (setup.final B Q W calls).slot with
  | none =>
    unfold SlotWorld.step at hslot
    rw [hbefore] at hslot
    cases call with
    | dropPermit index => cases hslot
    | _ => cases (Option.mem_def.mp hslot).symm.trans hbefore
  | some s =>
    unfold SlotWorld.step at hslot
    rw [hbefore] at hslot
    exact ⟨s, rfl, hslot⟩

/-- What the invariant asks of the start of a run and of its calls when it is strict. -/
structure Disciplined (setup : SlotSetup D C R E) (calls : List (SlotCall T)) : Prop where
  drains : Drains D
  fresh : FrameDecoder.retainedBytes setup.decoder < setup.limits.decoderBytes
  calls : .finalize .inboundRetainedCapacity ∉ calls

omit [InboundClassifier C R] in
lemma Provided.new (setup : SlotSetup D C R E)
    (hfresh : strict → FrameDecoder.retainedBytes setup.decoder < setup.limits.decoderBytes) :
    Provided strict (setup.recorded.slot : ConnectionSlot B (Recorded D R E) C R Q W) := by
  have hmetered : Metered (setup.recorded.slot : ConnectionSlot B (Recorded D R E) C R Q W) := by
    refine ⟨⟨rfl, List.isChain_nil, fun _ h => (by cases h), fun _ h => (by cases h),
      fun _ => setup.within⟩, ?_⟩
    simp [SlotSetup.slot, fresh, SlotSetup.recorded, setup.limits.chunk_pos]
  have hroomy : Roomy strict (setup.recorded.slot : ConnectionSlot B (Recorded D R E) C R Q W) :=
    ⟨fun _ h => (by cases h), hfresh⟩
  exact ⟨hmetered, fun _ =>
    ⟨hmetered, fun _ => ⟨rfl, fun _ => hroomy, fun _ => hroomy⟩, excused_of_none rfl⟩⟩

/-- In every run the input of the slot is provided for. -/
theorem provided_run (setup : SlotSetup D C R E) (calls : List (SlotCall T))
    (hstrict : strict → Disciplined setup calls)
    (hslot : s ∈ (setup.recorded.final B Q W calls).slot) : Provided strict s := by
  induction calls using List.reverseRecOn generalizing s with
  | nil =>
    cases hslot
    exact .new setup fun h => (hstrict h).fresh
  | append_singleton calls call ih =>
    obtain ⟨s₁, hbefore, hstep⟩ := final_before setup.recorded calls call hslot
    obtain ⟨e, he, hphased, _⟩ := phased_run setup.recorded calls hbefore
    have hearlier : Provided strict s₁ :=
      ih (fun h => ⟨(hstrict h).drains, (hstrict h).fresh, fun hmem =>
      (hstrict h).calls (List.mem_append_left _ hmem)⟩) hbefore
    refine hearlier.step (fun h => (hstrict h).drains) he hphased call
      (fun reason hcall h hreason => ?_) hstep
    exact (hstrict h).calls (List.mem_append_right _ (by simp [hcall, hreason]))

/-- The limits with no room for a reply. -/
def ConnectionSlotLimits.cramped (limits : ConnectionSlotLimits) : ConnectionSlotLimits :=
  { limits with
    replyBytes := 0, outcomeBytes := 0, outcome_eq := (Nat.zero_mul _).symm,
    outcome_le := Nat.zero_le _ }

/-- The sample with no room for a reply. -/
def SlotSetup.cramped : SlotSetup ByteDecoder ByteClassifier UInt8 Empty :=
  { SlotSetup.sample with limits := SlotSetup.sample.limits.cramped }

/-- Establishes the transport and reads a byte. -/
def crampedCalls : List (SlotCall Peer) :=
  [.driveQuantum 0 (some .waiting), .driveQuantum 1 (some ⟨true, [7], false⟩)]

/-- **A decoder is fed within its bound.** However a slot is called and whatever its decoder,
classifier and transports do: every feed fits into the room the decoder had left, no two
feeds follow each other without a request for a frame, and after a failure the decoder is
called no more. While the slot runs and its epoch is live, the decoder has not failed and
retains no more than its bound. -/
theorem decoder_fed_within_bound (setup : SlotSetup D C R E) (calls : List (SlotCall T)) :
    ∀ s ∈ (setup.recorded.final B Q W calls).slot,
      s.decoder.decoder.events.IsChain (DecoderEvent.Follows setup.limits.decoderBytes) ∧
      (∀ ev ∈ s.decoder.decoder.events, ev.Fits setup.limits.decoderBytes) ∧
      (s.state = .running → s.core.machine.phase = .live →
        s.decoder.failed = false ∧ s.decoder.retainedBytes ≤ setup.limits.decoderBytes) := by
  intro s hslot
  have hprovided : Provided False s := provided_run setup calls (fun h => h.elim) hslot
  obtain ⟨e, he, hphased, hlimits⟩ := phased_run setup.recorded calls hslot
  have hcharted : Charted setup.limits.decoderBytes s.decoder := by
    have hcharted := hprovided.metered.charted
    rw [hlimits] at hcharted
    exact hcharted
  refine ⟨hcharted.chain, hcharted.fits, fun hrunning hlive => ?_⟩
  have hphase := (hphased.running hrunning).2
  rw [← he.core.policy.phase, hlive] at hphase
  have hwhole := ((hprovided.running hrunning).turned ⟨hphase.1, hlive⟩).whole
  exact ⟨hwhole, hcharted.within hwhole⟩

theorem decoder_fed_within_bound_sample :
    ∃ s ∈ (SlotSetup.cramped.recorded.final Counted ListBatch ListTimers crampedCalls).slot,
      s.decoder.decoder.events.map DecoderEvent.feeds = [true, false] ∧
      s.decoder.decoder.events.IsChain (DecoderEvent.Follows 4) ∧
        ∀ ev ∈ s.decoder.decoder.events, ev.Fits 4 := by
  have hfed : (SlotSetup.cramped.recorded.final Counted ListBatch ListTimers crampedCalls).slot.map
      (fun s => s.decoder.decoder.events.map DecoderEvent.feeds) = some [true, false] := by
        decide +kernel
  obtain ⟨s, hs, hsame⟩ := Option.map_eq_some_iff.mp hfed
  obtain ⟨hchain, hfits, _⟩ := decoder_fed_within_bound SlotSetup.cramped crampedCalls s hs
  exact ⟨s, hs, hsame, hchain, hfits⟩

/-- **No false want of room.** When every frame the decoder hands out frees some memory and a fresh
decoder has room, a running slot closes for want of room only over what the last call of its decoder
did: it left no room, or handed out a frame beyond the bound of replies. -/
theorem capacity_close_is_earned (setup : SlotSetup D C R E) (calls : List (SlotCall T))
    (hdrains : Drains D)
    (hfresh : FrameDecoder.retainedBytes setup.decoder < setup.limits.decoderBytes)
    (hcalls : .finalize .inboundRetainedCapacity ∉ calls) :
    ∀ s ∈ (setup.recorded.final B Q W calls).slot, s.state = .running → ∀ shutdown,
      s.closeRequest = some (.core .inboundRetainedCapacity shutdown) →
      ∃ ev ∈ s.decoder.decoder.events.getLast?, ev.Overflows setup.limits := by
  intro s hslot hrunning shutdown hrequest
  have hprovided : Provided True s :=
    provided_run setup calls (fun _ => ⟨hdrains, hfresh, hcalls⟩) hslot
  obtain ⟨e, he, hphased, hlimits⟩ := phased_run setup.recorded calls hslot
  obtain ⟨ev, hev, hoverflows⟩ := (hprovided.running hrunning).excused trivial shutdown hrequest
  rw [hlimits] at hoverflows
  exact ⟨ev, hev, hoverflows⟩

lemma drains_byteDecoder : Drains ByteDecoder := by
  rintro ⟨buffered⟩ frame hframe
  cases buffered with
  | nil => cases hframe
  | cons byte rest => exact Nat.lt_succ_self _

theorem capacity_close_is_earned_sample :
    ∃ s ∈ (SlotSetup.cramped.recorded.final Counted ListBatch ListTimers crampedCalls).slot,
      s.closeRequest = some (.core .inboundRetainedCapacity .immediate) ∧
      ∃ ev ∈ s.decoder.decoder.events.getLast?, ev.Overflows SlotSetup.cramped.limits := by
  have hclosed : (SlotSetup.cramped.recorded.final Counted ListBatch ListTimers
    crampedCalls).slot.map
      (fun s => (s.closeRequest, s.state)) =
        some (some (.core .inboundRetainedCapacity .immediate), .running) := by decide +kernel
  obtain ⟨s, hs, hsame⟩ := Option.map_eq_some_iff.mp hclosed
  have hrequest := congrArg Prod.fst hsame
  exact ⟨s, hs, hrequest, capacity_close_is_earned SlotSetup.cramped crampedCalls
    drains_byteDecoder (by decide)
    (by simp [crampedCalls]) s hs (congrArg Prod.snd hsame) .immediate hrequest⟩

end Bornera.Slot
