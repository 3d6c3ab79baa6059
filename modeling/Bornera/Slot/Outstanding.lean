import Mathlib.Data.List.ReduceOption
import Mathlib.Data.Multiset.AddSub
import Bornera.Slot.Agenda

/-!
# The deadlines a slot still has

A slot has a deadline for each operation of its lane, one for the connection attempt, and one for a
drain, which a graceful shutdown takes over. They are counted by the multiset of their moments. No
move adds one, but for the drain that a call begins; a quantum whose next deadline has elapsed uses
one up, whatever its budget.
-/

namespace Bornera.Slot

open Bornera.Core Bornera.Core.Epoch Lib ConnectionSlot BoundedTimers

variable {B D C R E T : Type} {Q W : Type → Type} [ByteBudget B] [FrameDecoder D R E] [Retained R]
  [InboundClassifier C R] [EventBatch Q] [BoundedTimers W] [SlotTransport T]

namespace ConnectionSlot

/-- The moment of a drain, or of the graceful shutdown that has taken it over. -/
def held (s : ConnectionSlot B D C R Q W) : Multiset ℕ :=
  ↑((s.drainDeadline.toList ++ (s.closeRequest.bind CloseDirective.shutdownDeadline).toList).map
    Deadline.moment)

/-- The moment of the connection attempt. -/
def attempt (s : ConnectionSlot B D C R Q W) : Multiset ℕ :=
  if s.isConnecting then {s.connectDeadline.moment} else 0

/-- **The moments of all deadlines of a slot.** -/
def dues (s : ConnectionSlot B D C R Q W) : Multiset ℕ :=
  s.held + s.attempt + ↑(s.clocks.map fun clock => clock.2.moment)

end ConnectionSlot

/-- The moments of the deadlines of a lane. -/
def owed (e : Epoch OutboundFrame) : Multiset ℕ := ↑((clocksOf e).map fun clock => clock.2.moment)

variable {s s' : ConnectionSlot B D C R Q W} {e e' : Epoch OutboundFrame}
  {permits : List OperationPermit} {cause : SlotCall T}

section
omit [ByteBudget B] [Retained R] [InboundClassifier C R] [EventBatch Q]

lemma Timed.dues_eq (h : Timed s e) : s.dues = s.held + s.attempt + owed e := by
  have hclocks : (↑(s.clocks.map fun clock => clock.2.moment) : Multiset ℕ) = owed e :=
    Multiset.coe_eq_coe.mpr (h.clocks.map _)
  rw [dues, hclocks]

/-- The next deadline is one of them. -/
lemma nextDeadline_mem {deadline : Deadline} (h : s.nextDeadline = some deadline) :
    deadline.moment ∈ s.dues := by
  have hmem : some deadline ∈
    [TimerQueue.nextDeadline s.timers, if s.isConnecting then some s.connectDeadline else none,
      s.drainDeadline, s.closeRequest.bind CloseDirective.shutdownDeadline] :=
    List.reduceOption_mem_iff.mp (List.argmin_mem h)
  simp only [List.mem_cons, List.not_mem_nil, or_false] at hmem
  rw [dues, Multiset.mem_add, Multiset.mem_add, or_assoc]
  rcases hmem with hnext | hconnect | hdrain | hshutdown
  · obtain ⟨⟨timer, htimer, rfl⟩, _⟩ :=
      (BoundedTimers.nextDeadline_eq s.timers).2 deadline hnext.symm
    refine .inr (.inr (Multiset.mem_coe.mpr
      (List.mem_map.mpr ⟨(timer.value, timer.deadline), ?_, rfl⟩)))
    exact List.mem_map.mpr ⟨timer, htimer, rfl⟩
  · refine .inr (.inl ?_)
    unfold ConnectionSlot.attempt
    split at hconnect
    · next hconnecting =>
      cases hconnect
      rw [if_pos hconnecting]
      exact Multiset.mem_singleton_self _
    · cases hconnect
  · exact .inl (by simp [ConnectionSlot.held, ← hdrain])
  · exact .inl (by simp [ConnectionSlot.held, ← hshutdown])

end

/-! ### The lane -/

lemma owed_le (h : (clocksOf e').Sublist (clocksOf e)) : owed e' ≤ owed e :=
  Multiset.coe_le.mpr (h.map _).subperm

lemma owed_nil (h : e.lane = []) : owed e = 0 := by
  rw [owed, clocksOf, h]
  rfl

/-- A lane without one of its operations. -/
lemma owed_remove {pre post : List (Item OutboundFrame)} {x : Item OutboundFrame}
    (hl : e.lane = pre ++ x :: post) :
    x.record.deadline.moment ::ₘ owed { e with lane := pre ++ post } = owed e := by
  simp only [owed, clocksOf, hl, List.map_append, List.map_cons, Multiset.cons_coe]
  exact Multiset.coe_eq_coe.mpr List.perm_middle.symm

/-- No transition of the core adds a deadline to the lane. -/
lemma owed_step {X : Type} {call : Call OutboundFrame X} {tr : ConnectionTransition X}
    (h : Step e call (.transition (.ok tr)) e') : owed e' ≤ owed e := by
  have hdrained : ∀ e : Epoch OutboundFrame, owed e.drained = owed e :=
    fun e => by rw [owed, clocksOf_drained, owed]
  cases h with
  | removed _ lane =>
    rw [hdrained, ← owed_remove lane]
    exact Multiset.le_cons_self _ _
  | @buried _ _ x _ lane => exact owed_le (by rw [clocksOf_replace (y := x.bury) lane rfl rfl])
  | closed => exact (owed_nil rfl).trans_le (Multiset.zero_le _)
  | draining => exact (hdrained _).le
  | @replied x rest _ _ _ front =>
    have hfront : e.lane = [] ++ x :: rest := front
    rw [hdrained, ← owed_remove hfront]
    exact Multiset.le_cons_self _ _
  | progressed _ front =>
    exact owed_le (by rw [clocksOf_replace front.lane Item.progress_id Item.reported_deadline])
  | finished _ front =>
    exact owed_le (by rw [clocksOf_replace front.lane Item.finish_id Item.reported_deadline])
  | completed _ front =>
    rw [hdrained, ← owed_remove front.lane]
    exact Multiset.le_cons_self _ _
  | _ => exact le_rfl

/-- An elapsed deadline of the lane is used up. -/
lemma owed_elapsed {x : Item OutboundFrame} {now : ℕ} {tr : ConnectionTransition Unit} (hw : e.Wf)
    (hw' : e'.Wf) (hx : x ∈ e.lane) (helapsed : x.record.deadline.isElapsedAt now = true)
    (h : Step e (.apply (.deadlineElapsed e.epoch x.id now)) (.transition (.ok tr)) e') :
    x.record.deadline.moment ::ₘ owed e' ≤ owed e := by
  have hclock : ((⟨e.epoch, x.id⟩, x.record.deadline) : DeadlineEvent × Deadline) ∈ clocksOf e :=
    List.mem_map.mpr ⟨x, hx, rfl⟩
  rcases (elapsed_step hw hx helapsed h).2 with ⟨_, _, hremoved⟩ | hclosed
  · have hnodup : ((clocksOf e).map (·.1.operation)).Nodup := by
      simp only [clocksOf, List.map_map]
      exact hw.operations.of_append_right
    have hperm := clocks_perm_without hnodup hclock
    rw [hremoved] at hperm
    exact (Multiset.coe_eq_coe.mpr (hperm.map fun clock => clock.2.moment)).ge
  · have hempty : e'.lane = [] := by
      rcases h.closes hw fun home => by simp with ⟨hopen, _⟩ | ⟨_, _, _, hclosing, _⟩
      · rw [hopen] at hclosed
        cases hclosed
      · exact hw'.idle (by rw [hclosing]; simp)
    rw [owed_nil hempty]
    exact Multiset.singleton_le.mpr (Multiset.mem_coe.mpr (List.mem_map.mpr ⟨_, hclock, rfl⟩))

/-! ### Moves -/

section
omit [ByteBudget B] [Retained R] [InboundClassifier C R] [EventBatch Q] [BoundedTimers W]

lemma held_congr (hdrain : s'.drainDeadline = s.drainDeadline)
    (hrequest : s'.closeRequest = s.closeRequest) : s'.held = s.held := by
  rw [ConnectionSlot.held, hdrain, hrequest, ConnectionSlot.held]

/-- A shutdown that is over, or no longer graceful, has no deadline. -/
lemma held_ungraceful (hdrain : s'.drainDeadline = s.drainDeadline)
    (hrequest : s'.closeRequest.bind CloseDirective.shutdownDeadline = none) :
    s'.held ≤ s.held := by
  rw [ConnectionSlot.held, ConnectionSlot.held, hdrain, hrequest, Option.toList_none,
    List.append_nil]
  exact Multiset.coe_le.mpr ((List.sublist_append_left _ _).map _).subperm

end

omit [ByteBudget B] [Retained R] [InboundClassifier C R] [BoundedTimers W] in
/-- A close that turns a drain into a shutdown takes its deadline over. -/
lemma held_closedBy (hnone : s.closeRequest = none) (reason : CloseReason) :
    (s.closedBy reason).held ≤ s.held := by
  simp only [ConnectionSlot.held, closedBy, shutdownOf, shutdownFor, hnone, Option.bind_some,
    Option.bind_none]
  by_cases hgraceful : s.transportState = .opened ∧ reason = .drained
  · rw [if_pos hgraceful]
    cases s.drainDeadline with
    | none => exact le_rfl
    | some deadline => exact le_rfl
  · rw [if_neg hgraceful]
    exact Multiset.zero_le _

omit [ByteBudget B] [InboundClassifier C R] in
/-- An interpretation adds no deadline beside those of the lane, and begins no
attempt to connect. -/
lemma held_interpret {X : Type}
    (outcomeOf : OperationOutcome X → Except EngineInvariant (OperationOutcome R))
    (tr : ConnectionTransition X) (s : ConnectionSlot B D C R Q W) :
    (interpret outcomeOf tr s).2.held ≤ s.held ∧
      ((interpret outcomeOf tr s).2.isConnecting = true → s.isConnecting = true) := by
  have hbooked := booked_effects outcomeOf tr.effects none none s
  rw [interpret_slot]
  generalize (interpretEffects outcomeOf tr.effects none none s).1 = reason
  generalize (interpretEffects outcomeOf tr.effects none none s).2.1 = failure
  generalize (interpretEffects outcomeOf tr.effects none none s).2.2 = s₁ at hbooked ⊢
  have hheld : s₁.held = s.held := held_congr (by rw [hbooked]) (by rw [hbooked])
  have hconnecting : s₁.isConnecting = s.isConnecting := by
    rw [hbooked]
    rfl
  rw [← hheld, ← hconnecting]
  cases reason with
  | none => exact ⟨le_rfl, id⟩
  | some reason =>
    cases hrequest : s₁.closeRequest with
    | some =>
      simp only [finishClose, hrequest]
      exact ⟨le_rfl, id⟩
    | none =>
      have hclosed : (finishClose (some reason) failure s₁).2 = s₁.closedBy reason := by
        simp only [finishClose, hrequest, publishClosing, shutdownFor_publish, closedBy, shutdownOf]
        cases s₁.shutdownFor reason <;> rfl
      rw [hclosed]
      exact ⟨held_closedBy hrequest reason, fun h => by cases h⟩

omit [ByteBudget B] [Retained R] [InboundClassifier C R] [EventBatch Q] [BoundedTimers W] in
/-- A step of the shutdown keeps its deadline or drops it. -/
lemma held_shutdownStep {reason : CloseReason} {shutdown : ShutdownState} {deadline : Deadline}
    {drive : T → TransportBudget → Except TransportDiagnostic TransportProgress × T} (t : T)
    (hrequest : s.closeRequest = some (.core reason shutdown))
    (hshuts : ShutsBy T deadline shutdown drive) :
    (shutdownStep reason deadline drive (s, t)).2.1.held ≤ s.held := by
  have hdrain : (shutdownStep reason deadline drive (s, t)).2.1.drainDeadline =
    s.drainDeadline := by rw [shutdownStep_frame]
  have hdeadline : CloseDirective.shutdownDeadline (.core reason shutdown) = some deadline := by
    cases hshuts <;> rfl
  have hkept : ((shutdownStep reason deadline drive (s, t)).2.1.closeRequest.bind
    CloseDirective.shutdownDeadline).toList.Sublist
      [deadline] := by
    rw [shutdownStep_run]
    generalize captureTransportPressure (s, (drive t s.transportBudget).2) = captured
    obtain ⟨pressure, s₁, t₁⟩ := captured
    simp only
    split
    · exact List.nil_sublist _
    · exact List.nil_sublist _
    · split
      · exact List.nil_sublist _
      · simp only [Option.bind_some]
        split
        · exact List.nil_sublist _
        · exact List.Sublist.refl _
  rw [ConnectionSlot.held, ConnectionSlot.held, hdrain, hrequest, Option.bind_some, hdeadline]
  exact Multiset.coe_le.mpr ((hkept.append_left _).map _).subperm

omit [ByteBudget B] [EventBatch Q] in
/-- What an occasion changes around a call of the core. -/
lemma Occasion.held {t t' : Option T} {call : Call OutboundFrame Unit}
    {tr : ConnectionTransition Unit} {f : ConnectionSlot B D C R Q W → ConnectionSlot B D C R Q W}
    (h : Occasion cause s t call (some tr) f t') (hstep : Step e call (.transition (.ok tr)) e')
    (hphase : InPhase s e e.phase) (core : ConnectionCore B OutboundFrame) :
    (f { s with core }).held ≤ s.held ∨ ∃ deadline, cause = .beginDrain deadline ∧
      (f { s with core }).held ≤ {deadline.moment} := by
  cases h with
  | drained _ deadline called =>
    by_cases happlied : tr.disposition = .applied
    · -- the drain of a live epoch is the only deadline of its kind
      have hlive := beginDrain_live hstep happlied
      rw [hlive] at hphase
      refine .inr ⟨deadline, called, ?_⟩
      simp [happlied, ConnectionSlot.held, hphase.1]
    · refine .inl ?_
      simp only [happlied, Option.any_some, decide_false, Bool.false_eq_true, if_false]
      exact le_rfl
  | drainExpired =>
    refine .inl (Multiset.coe_le.mpr (List.Sublist.subperm (List.Sublist.map _ ?_)))
    exact List.sublist_append_right _ _
  | elapsed =>
    refine .inl ?_
    dsimp only
    rw [popDue_frame]
    exact le_rfl
  | _ => exact .inl le_rfl

/-- **No move adds a deadline beside those of the lane**, but for the drain that its call begins. -/
theorem Move.held {a b : Scene B D C R Q W T} (h : Move permits cause a b)
    (hphase : a.fault = none → InPhase a.slot a.epoch a.epoch.phase) (hb : b.fault = none) :
    (b.slot.held ≤ a.slot.held ∨ ∃ deadline, cause = .beginDrain deadline ∧
      b.slot.held ≤ {deadline.moment}) ∧
      (b.slot.isConnecting = true → a.slot.isConnecting = true) := by
  cases h with
  | @exchange s _ _ e e' call tr f core occasion step holds =>
    obtain ⟨hheld, hconnecting⟩ := held_interpret unitOutcome tr (f { s with core })
    refine ⟨?_, fun hc => ?_⟩
    · rcases occasion.held step (hphase rfl) core with hle | ⟨deadline, hcause, hle⟩
      · exact .inl (hheld.trans hle)
      · exact .inr ⟨deadline, hcause, hheld.trans hle⟩
    · have hbefore := hconnecting hc
      rw [occasion.frame] at hbefore
      exact hbefore
  | refused => cases hb
  | @replied s _ e e' frame key tr decoder classifier core =>
    obtain ⟨hheld, hconnecting⟩ := held_interpret .ok tr { s with core, decoder, classifier }
    exact ⟨.inl hheld, hconnecting⟩
  | replyRefused => cases hb
  | fronted => cases hb
  | admitted =>
    dsimp only
    rw [publishAdmissionOpened, publishNext_frame]
    exact ⟨.inl le_rfl, id⟩
  | opened =>
    dsimp only
    rw [publishTransportOpened, publishNext_frame]
    exact ⟨.inl le_rfl, fun hc => by cases hc⟩
  | pressed =>
    dsimp only
    rw [capture_frame]
    exact ⟨.inl le_rfl, id⟩
  | quiet =>
    dsimp only
    rw [popDue_frame]
    exact ⟨.inl le_rfl, id⟩
  | forced s s' t e called forced =>
    unfold forceShutdown at forced
    split at forced
    · cases forced
      exact ⟨.inl (held_ungraceful rfl rfl), id⟩
    · cases forced
      exact ⟨.inl (held_ungraceful rfl rfl), id⟩
    · cases forced
  | timedOut => exact ⟨.inl (held_ungraceful rfl rfl), id⟩
  | completed => exact ⟨.inl (held_ungraceful rfl rfl), id⟩
  | shut s t e request shuts =>
    refine ⟨.inl (held_shutdownStep t request shuts), fun hc => ?_⟩
    dsimp only at hc
    rw [shutdownStep_frame] at hc
    exact hc
  | _ => exact ⟨.inl le_rfl, id⟩

/-- Nor does it add one to the lane. -/
lemma Move.owed {a b : Scene B D C R Q W T} (h : Move permits cause a b) (hb : b.fault = none) :
    Slot.owed b.epoch ≤ Slot.owed a.epoch := by
  cases h using Move.casesAside with
  | exchange occasion step => exact owed_step step
  | refused => cases hb
  | replied next small keyed step => exact owed_step step
  | replyRefused => cases hb
  | fronted => cases hb
  | admitted open_ applied step => exact owed_step step
  | aside _ beside => rw [beside.epoch]
  | _ => exact le_rfl

/-- A move that meets no failure comes after none. -/
lemma Move.unfaulted {a b : Scene B D C R Q W T} (h : Move permits cause a b)
    (hb : b.fault = none) : a.fault = none := by
  cases h using Move.casesAside with
  | aside _ beside => exact beside.healthy hb
  | _ => rfl

/-! ### Paths -/

/-- A running slot, whether it is closing or not. -/
structure Steady (permits : List OperationPermit) (s : ConnectionSlot B D C R Q W)
    (e : Epoch OutboundFrame) : Prop where
  owns : Owns permits s e
  timed : Timed s e
  healthy : e.poisoned = none
  phase : InPhase s e e.phase

section
omit [Retained R] [InboundClassifier C R] [EventBatch Q]

lemma Poised.steady (h : Poised permits s e) : Steady permits s e :=
  ⟨h.owns, h.timed, h.healthy, h.phase⟩

lemma Steady.poised (h : Steady permits s e) (hnone : s.closeRequest = none) : Poised permits s e :=
  ⟨h.owns, h.timed, h.healthy, h.phase, hnone⟩

end

/-- What a call leaves of the deadlines of a slot, when `fresh` allows a
deadline it did not have. -/
structure Lessens (fresh : ℕ → Prop) (s : ConnectionSlot B D C R Q W) (e : Epoch OutboundFrame)
    (s' : ConnectionSlot B D C R Q W) (e' : Epoch OutboundFrame) : Prop where
  held : s'.held ≤ s.held ∨ ∃ m, fresh m ∧ s'.held ≤ {m}
  attempt : s'.attempt ≤ s.attempt
  owed : Slot.owed e' ≤ Slot.owed e

omit [ByteBudget B] [Retained R] [InboundClassifier C R] [EventBatch Q] [BoundedTimers W] in
lemma attempt_le (hconnecting : s'.isConnecting = true → s.isConnecting = true)
    (hdeadline : s'.connectDeadline = s.connectDeadline) :
    s'.attempt ≤ s.attempt := by
  unfold ConnectionSlot.attempt
  split
  · next hc => rw [if_pos (hconnecting hc), hdeadline]
  · exact Multiset.zero_le _

/-- The deadline with which a call begins a drain. -/
def SlotCall.drains (call : SlotCall T) (m : ℕ) : Prop :=
  ∃ deadline : Deadline, call = .beginDrain deadline ∧ deadline.moment = m

/-- **A path that meets no failure keeps a slot steady and adds no deadline**, but for the
drain that its call begins. -/
theorem Path.lessens {a b : Scene B D C R Q W T} (h : Path permits cause a b)
    (ha : Steady permits a.slot a.epoch) (hb : b.fault = none) :
    Steady permits b.slot b.epoch ∧ Lessens cause.drains a.slot a.epoch b.slot b.epoch := by
  refine h.keeps (I := fun sc => sc.fault = none → Steady permits sc.slot sc.epoch ∧
    Lessens cause.drains a.slot a.epoch sc.slot sc.epoch) ha.owns
      (fun _ => ⟨ha, .inl le_rfl, le_rfl, le_rfl⟩) ?_ hb
  intro x y hmove hx hi hy
  obtain ⟨hsteady, hless⟩ := hi (hmove.unfaulted hy)
  obtain ⟨hfixed, howns⟩ := hmove.owns hx
  obtain ⟨hhealthy, hphase⟩ := hmove.inPhase hx (fun _ => ⟨hsteady.healthy, hsteady.phase⟩) hy
  obtain ⟨hheld, hconnecting⟩ := hmove.held (fun _ => hsteady.phase) hy
  have htimed :=
    (hmove.timed hx (fun _ => hsteady.timed)
    (by rw [hmove.unfaulted hy]; exact fun _ he => by cases he)).1 hy
  refine ⟨⟨howns, htimed, hhealthy, hphase⟩, ?_, ?_, (hmove.owed hy).trans hless.owed⟩
  · rcases hheld with hle | ⟨deadline, hcause, hle⟩
    · rcases hless.held with hbefore | ⟨m, hfresh, hbefore⟩
      · exact .inl (hle.trans hbefore)
      · exact .inr ⟨m, hfresh, hle.trans hbefore⟩
    · exact .inr ⟨deadline.moment, ⟨deadline, hcause, rfl⟩, hle⟩
  · exact (attempt_le hconnecting hfixed.connectDeadline).trans hless.attempt

omit [ByteBudget B] [Retained R] [InboundClassifier C R] [EventBatch Q] [BoundedTimers W] in
lemma Lessens.held_le {fresh : ℕ → Prop} (h : Lessens fresh s e s' e') (hnone : ∀ m, ¬fresh m) :
    s'.held ≤ s.held := by
  rcases h.held with hle | ⟨m, hfresh, _⟩
  · exact hle
  · exact absurd hfresh (hnone m)

omit [ByteBudget B] [Retained R] [InboundClassifier C R] [EventBatch Q] in
/-- All together. -/
lemma Lessens.dues_le {fresh : ℕ → Prop} (h : Lessens fresh s e s' e') (ht : Timed s e)
    (ht' : Timed s' e') (hnone : ∀ m, ¬fresh m) :
    s'.dues ≤ s.dues := by
  rw [ht.dues_eq, ht'.dues_eq]
  exact add_le_add (add_le_add (h.held_le hnone) h.attempt) h.owed

/-! ### Calls -/

/-- The deadlines a call can add. -/
def SlotCall.arms : SlotCall T → ℕ
  | .commit _ _ => 1
  | .beginDrain _ => 1
  | _ => 0

omit [SlotTransport T] [ByteBudget B] [Retained R] [InboundClassifier C R] [EventBatch Q] in
lemma Lessens.card_le {call : SlotCall T} (h : Lessens call.drains s e s' e') (ht : Timed s e)
    (ht' : Timed s' e') :
    s'.dues.card ≤ s.dues.card + call.arms := by
  have hattempt := Multiset.card_le_card h.attempt
  have howed := Multiset.card_le_card h.owed
  have hheld : s'.held.card ≤ s.held.card + call.arms := by
    rcases h.held with hle | ⟨m, ⟨deadline, rfl, rfl⟩, hle⟩
    · exact (Multiset.card_le_card hle).trans (Nat.le_add_right _ _)
    · exact (Multiset.card_le_card hle).trans (Nat.le_add_left _ _)
  simp only [ht.dues_eq, ht'.dues_eq, Multiset.card_add]
  omega

omit [ByteBudget B] [Retained R] [InboundClassifier C R] [EventBatch Q] [BoundedTimers W] in
/-- A slot that ends running did not fail. -/
lemma Latched.eq_of_running {flt : Option EngineError} (h : Latched s flt s')
    (hrunning : s'.state = .running) :
    flt = none ∧ s' = s := by
  cases h with
  | running => exact ⟨rfl, rfl⟩
  | failed error => exact absurd hrunning (latchOwnerFailure_state s _)

omit [Retained R] [InboundClassifier C R] [EventBatch Q] in
lemma Phased.steady (h : Phased s e) (howns : Owns permits s e)
    (htimed : s.state = .running → Timed s e)
    (hrunning : s.state = .running) : Steady permits s e :=
  ⟨howns, htimed hrunning, (h.running hrunning).1, (h.running hrunning).2⟩

/-- **A call adds a deadline only when it commits an operation or begins a drain, and then one.** -/
theorem SlotStep.card_dues {call : SlotCall T} {r : SlotResponse R T}
    {permits' : List OperationPermit} (hstep : SlotStep s e permits call r (some s') e' permits')
    (howns : Owns permits s e) (howns' : Owns permits' s' e') (hphased : Phased s e)
    (htimed : s.state = .running → Timed s e) (hrunning : s'.state = .running) :
    s'.dues.card ≤ s.dues.card + call.arms := by
  have htimed' := (Timed.step htimed howns howns' hstep).1 hrunning
  cases hstep using SlotStep.casesPlain with
  | plain _ hplain =>
    rcases hplain.slot with hslot | ⟨_, _, rfl⟩
    · rw [hslot]
      exact Nat.le_add_right _ _
    · exact absurd hrunning (latchOwnerFailure_state _ _)
  | drove running guards path latched =>
    obtain ⟨rfl, rfl⟩ := latched.eq_of_running hrunning
    obtain ⟨_, hless⟩ := path.lessens (hphased.steady howns htimed running) rfl
    exact hless.card_le (htimed running) htimed'
  | @committed s s' e e' permits index frame operation tr core running step latched =>
    obtain ⟨_, rfl⟩ := latched.eq_of_running hrunning
    obtain ⟨p, _, _, hepoch, hlane⟩ := committed_eq step
    obtain ⟨hheld, hconnecting⟩ := held_interpret unitOutcome tr { s with core }
    have hheld' := Multiset.card_le_card hheld
    have hattempt :=
      Multiset.card_le_card (attempt_le hconnecting
      (fixed_interpret unitOutcome tr { s with core }).connectDeadline)
    have howed : (owed e').card = (owed e).card + 1 := by
      simp only [owed, clocksOf, hlane, Multiset.coe_card, List.length_map, List.length_append,
        List.length_singleton]
    rw [htimed'.dues_eq, (htimed running).dues_eq]
    simp only [Multiset.card_add, interpretUnit, howed, SlotCall.arms] at hheld' hattempt ⊢
    have hsame : ({ s with core } : ConnectionSlot B D C R Q W).held = s.held := rfl
    have hsame' : ({ s with core } : ConnectionSlot B D C R Q W).attempt = s.attempt := rfl
    rw [hsame] at hheld'
    rw [hsame'] at hattempt
    omega
  | @aborted s e permits request =>
    refine (Multiset.card_le_card ?_).trans (Nat.le_add_right _ _)
    exact add_le_add (add_le_add (Multiset.zero_le _)
      (attempt_le (fun hc => by cases hc) rfl)) le_rfl
  | @confirmed s e e' permits reason shutdown tr core request ready step published =>
    refine (Multiset.card_le_card ?_).trans (Nat.le_add_right _ _)
    rw [publishClosed, publishNext_frame]
    exact add_le_add (add_le_add (held_ungraceful rfl rfl)
      (attempt_le (fun hc => by cases hc) rfl)) le_rfl
  | unpublished => exact absurd hrunning (latchOwnerFailure_state _ _)
  | unconfirmed => exact absurd hrunning (latchOwnerFailure_state _ _)

/-! ### A deadline is used up -/

/-- A deadline that has elapsed is used up. -/
def Consumes (now : ℕ) (s s' : ConnectionSlot B D C R Q W) : Prop :=
  ∃ m ≤ now, m ::ₘ s'.dues ≤ s.dues

omit [ByteBudget B] [Retained R] [InboundClassifier C R] [EventBatch Q] in
lemma Consumes.trans_le {now : ℕ} {s'' : ConnectionSlot B D C R Q W} (h : Consumes now s s')
    (hle : s''.dues ≤ s'.dues) :
    Consumes now s s'' := by
  obtain ⟨m, hm, hcons⟩ := h
  exact ⟨m, hm, ((Multiset.cons_le_cons_iff m).mpr hle).trans hcons⟩

/-- What a computation of a steady slot leaves of it. -/
lemma Steady.walked {σ α : Type} {see : σ → ConnectionSlot B D C R Q W × Option T}
    {m : Owner EngineError σ α} {x y : σ} {a : α} (h : Steady permits (see x).1 e)
    (hwalks : Walks permits cause see m x) (hok : m x = (.ok a, y)) :
    ∃ e', Steady permits (see y).1 e' ∧ Lessens cause.drains (see x).1 e (see y).1 e' := by
  obtain ⟨e', hpath⟩ := hwalks.2 e h.owns
  rw [hok] at hpath
  exact ⟨e', hpath.lessens h rfl⟩

/-- The same, when it is no drain. -/
lemma Steady.walked_le {σ α : Type} {see : σ → ConnectionSlot B D C R Q W × Option T}
    {m : Owner EngineError σ α} {x y : σ} {a : α} (h : Steady permits (see x).1 e)
    (hwalks : Walks permits cause see m x) (hok : m x = (.ok a, y))
    (hcause : ∀ m, ¬cause.drains m) :
    ∃ e', Steady permits (see y).1 e' ∧ (see y).1.dues ≤ (see x).1.dues := by
  obtain ⟨e', hsteady, hless⟩ := h.walked hwalks hok
  exact ⟨e', hsteady, hless.dues_le h.timed hsteady.timed hcause⟩

omit [SlotTransport T] in
lemma drains_quantum {now : ℕ} {transport : Option T} (m : ℕ) :
    ¬(SlotCall.driveQuantum now transport).drains m :=
  fun ⟨_, hcall, _⟩ => by cases hcall

include E in
/-- A due operation: the core answers, and the deadline is gone from the lane. -/
lemma Poised.elapses (h : Poised permits s e) {now : ℕ} {event : DeadlineEvent}
    (hdue : (s.popDue now).1 = some event)
    (hok : (converse (.deadlineElapsed event.epoch event.operation now)
      (s.popDue now).2).1 = .ok ()) :
    ∃ e', Steady permits (converse (.deadlineElapsed event.epoch event.operation now)
      (s.popDue now).2).2 e' ∧
      Consumes now s (converse (.deadlineElapsed event.epoch event.operation now)
        (s.popDue now).2).2 := by
  obtain ⟨_, deadline, hclock, hnow, _⟩ := h.timed.wound.due hdue
  obtain ⟨x, hx, heq⟩ := List.mem_map.mp (h.timed.clocks.subset hclock)
  obtain rfl : event = ⟨e.epoch, x.id⟩ := congrArg Prod.fst heq.symm
  obtain rfl : deadline = x.record.deadline := congrArg Prod.snd heq.symm
  obtain ⟨tr, core, e', hanswer, hstep, hholds⟩ :=
    h.owns.answer h.healthy (.deadlineElapsed e.epoch x.id now)
  have hswap : (ConnectionSlot.popDue { s with core } now).2 = { (s.popDue now).2 with core } := by
    simp only [ConnectionSlot.popDue]
    split <;> rfl
  have hrun := hanswer (s.popDue now).2 (by rw [popDue_frame]) (by rw [popDue_frame])
  dsimp only at hok ⊢
  rw [hrun, ← hswap] at hok ⊢
  have hmove : Move (E := E) permits (.driveQuantum now none : SlotCall Peer)
      ⟨s, none, e, none⟩ _ :=
    .exchange (.elapsed _ hdue) hstep hholds
  obtain ⟨hsteady, hless⟩ := Path.lessens (.single hmove) h.steady (by dsimp only; rw [hok]; rfl)
  refine ⟨e', hsteady, x.record.deadline.moment, hnow, ?_⟩
  have hheld := hless.held_le drains_quantum
  have howed := owed_elapsed h.owns.wf hsteady.owns.wf hx (decide_eq_true hnow) hstep
  rw [h.timed.dues_eq, hsteady.timed.dues_eq, ← Multiset.add_cons]
  exact add_le_add (add_le_add hheld hless.attempt) howed

include E in
/-- What a close leaves of the deadlines of a slot. -/
lemma Steady.closes (h : Steady permits s e) {reason : CloseReason} (hreason : reason ≠ .drained)
    {work : ℕ}
    (hrun : (closeFor reason >>= fun _ => pure 1 : Run B D C R Q W ℕ) s = (.ok work, s')) :
    ∃ e', Steady permits s' e' ∧ s'.held ≤ s.held ∧ s'.attempt ≤ s.attempt ∧ owed e' ≤ owed e := by
  have hwalks : Walks (E := E) permits (.driveQuantum 0 none : SlotCall Peer) (fun s => (s, none))
      (closeFor reason >>= fun _ => pure 1 : Run B D C R Q W ℕ) s :=
    walks_bind (walks_closeFor hreason) fun _ y _ => walks_pure 1 y
  obtain ⟨e', hsteady, hless⟩ := h.walked hwalks hrun
  exact ⟨e', hsteady, hless.held_le drains_quantum, hless.attempt, hless.owed⟩

include E in
/-- A drain that comes first is used up. -/
lemma Poised.consumes_drain (h : Poised permits s e) {now budget work : ℕ}
    (hdrain : s.drainFirst now = true) (hok : driveDeadlines now (budget + 1) s = (.ok work, s')) :
    Consumes now s s' ∧ ∃ e', Steady permits s' e' := by
  obtain ⟨deadline, harmed, hnow, _⟩ := drainFirst_iff.mp hdrain
  rw [driveDeadlines, Owner.read_bind, if_pos hdrain, Owner.change_bind] at hok
  have hsteady : Steady permits
      { s.recordTransportFailure (.new .shutdown .timedOut .timedOut none) with
    drainDeadline := none } e :=
    ⟨h.owns, h.timed.congr rfl rfl rfl (.refl _), h.healthy,
      h.phase.congr rfl (fun _ => rfl) rfl rfl⟩
  obtain ⟨e', hsteady', hheld, hattempt, howed⟩ := hsteady.closes (E := E) (by simp) hok
  refine ⟨⟨deadline.moment, hnow, ?_⟩, e', hsteady'⟩
  have hall : s.held = deadline.moment ::ₘ 0 := by simp [ConnectionSlot.held, harmed, h.pending]
  have hgone : s'.held ≤ 0 := by
    simpa [ConnectionSlot.held, recordTransportFailure, h.pending] using hheld
  rw [h.timed.dues_eq, hsteady'.timed.dues_eq, hall, add_assoc, add_assoc, ← Multiset.cons_add]
  exact add_le_add ((Multiset.cons_le_cons_iff _).mpr hgone) (add_le_add hattempt howed)

include E in
/-- So is a connect. -/
lemma Poised.consumes_connect (h : Poised permits s e) {now budget work : ℕ}
    (hdrain : s.drainFirst now ≠ true) (hconnect : s.connectFirst now = true)
    (hok : driveDeadlines now (budget + 1) s = (.ok work, s')) :
    Consumes now s s' ∧ ∃ e', Steady permits s' e' := by
  obtain ⟨hconnecting, hnow, _⟩ := connectFirst_iff.mp hconnect
  rw [driveDeadlines, Owner.read_bind, if_neg hdrain, if_pos hconnect] at hok
  obtain ⟨e', hsteady', hheld, _, howed⟩ := h.steady.closes (E := E) (by simp) hok
  have hstate : s.transportState = .connecting := of_decide_eq_true hconnecting
  obtain ⟨tr, core, _, hclose, hrequest⟩ :=
    h.close (h.phase.live_of h.pending (by rw [hstate]; simp)) .connectTimedOut
  obtain ⟨shutdown, hrequest⟩ := hrequest { s with core } h.pending
  have hslot : s' = (interpretUnit tr { s with core }).2 := by
    rw [Owner.bind_run, hclose s rfl rfl] at hok
    split at hok
    · next hinterpret =>
      rw [hinterpret]
      exact (congrArg Prod.snd hok).symm
    · cases hok
  rw [← hslot] at hrequest
  have hclosing := hsteady'.phase.closing_of hrequest
  have hphase := hsteady'.phase
  rw [hclosing.1] at hphase
  have hgone : s'.attempt = 0 := if_neg (by simp [isConnecting, hphase.1])
  have hthere : s.attempt = s.connectDeadline.moment ::ₘ 0 := if_pos hconnecting
  refine ⟨⟨s.connectDeadline.moment, hnow, ?_⟩, e', hsteady'⟩
  rw [h.timed.dues_eq, hsteady'.timed.dues_eq, hgone, hthere, add_zero, Multiset.add_cons, add_zero,
    Multiset.cons_add]
  exact (Multiset.cons_le_cons_iff _).mpr (add_le_add hheld howed)

include E in
/-- **The loop over the deadlines uses one up**, when one has elapsed. -/
theorem Poised.consumes (h : Poised permits s e) {now budget work : ℕ} (hdue : s.elapsed now ≠ [])
    (hok : driveDeadlines now (budget + 1) s = (.ok work, s')) :
    Consumes now s s' ∧ ∃ e', Steady permits s' e' := by
  by_cases hdrain : s.drainFirst now = true
  · exact h.consumes_drain (E := E) hdrain hok
  by_cases hconnect : s.connectFirst now = true
  · exact h.consumes_connect (E := E) hdrain hconnect hok
  cases hpop : (s.popDue now).1 with
  | none =>
    obtain ⟨_, hundue⟩ := h.timed.wound.popDue now
    rw [hpop] at hundue
    exact absurd (elapsed_nil hdrain hconnect hundue.2) hdue
  | some event =>
    rw [driveDeadlines_operation budget hdrain hconnect hpop] at hok
    have helapses := h.elapses (E := E) hpop
    generalize converse (.deadlineElapsed event.epoch event.operation now) (s.popDue now).2 =
      ran at hok helapses
    obtain ⟨result, s₁⟩ := ran
    cases result with
    | error => cases hok
    | ok =>
      obtain ⟨e₁, hsteady, hconsumes⟩ := helapses rfl
      simp only [resume] at hok
      split at hok
      · cases hok
        exact ⟨hconsumes, e₁, hsteady⟩
      · have hwalks : Walks (E := E) permits (.driveQuantum 0 none : SlotCall Peer)
            (fun s => (s, none)) (driveDeadlines now budget) s₁ :=
          walks_driveDeadlines now budget s₁
        obtain ⟨later, hlater, _⟩ := map_ok (congrArg Prod.fst hok)
        have hslot : (driveDeadlines now budget s₁).2 = s' := congrArg Prod.snd hok
        have hran : driveDeadlines now budget s₁ = (.ok later, s') := Prod.ext hlater hslot
        obtain ⟨e', hsteady', hle⟩ := hsteady.walked_le hwalks hran drains_quantum
        exact ⟨hconsumes.trans_le hle, e', hsteady'⟩

/-! ### The quantum -/

/-- What a quantum does after the deadlines. -/
def afterDeadlines (now budget work : ℕ) : Driving B D C R Q W (Option T) SlotProgress := do
  let s ← slot
  if s.closeRequest.isSome then driveCloseQuantum now budget work
  else if work = budget then
    let runnable ← Owner.either (pure s.decoderPending) (withTransport (pure false) hasRunnableIo)
    pure ⟨work, s.hasDueDeadline now || runnable⟩
  else
    let io ← driveIo (budget - work)
    let s ← slot
    if s.closeRequest.isSome then driveCloseQuantum now budget (work + io.work)
    else pure ⟨work + io.work, io.saturated⟩

lemma walks_afterDeadlines {now : ℕ} {transport : Option T}
    (hcause : cause = .driveQuantum now transport) (budget work : ℕ)
    (x : ConnectionSlot B D C R Q W × Option T) :
    Walks permits cause along
      (afterDeadlines now budget work : Driving B D C R Q W (Option T) SlotProgress) x := by
  refine walks_congr (slot_bind _ _) ?_
  split
  · exact walks_driveCloseQuantum hcause _ work x
  · split
    · exact walks_bind (walks_either (walks_pure _ _) fun z =>
        walks_withTransport (walks_pure _ _) fun t =>
        walks_hasRunnableIo _) fun runnable z _ => walks_pure _ z
    · refine walks_bind (walks_driveIo _ x) fun io z _ => walks_congr (slot_bind _ _) ?_
      split
      · exact walks_driveCloseQuantum hcause _ _ z
      · exact walks_pure _ z

/-- A quantum that succeeds has looked at the memory of its transport, handled
the deadlines, and gone on. -/
lemma driveQuantumInner_ok {now : ℕ} {x y : ConnectionSlot B D C R Q W × Option T}
    {progress : SlotProgress} (h : driveQuantumInner now x = (.ok progress, y)) :
    ∃ x₁ work s₂, withTransport (pure ()) captureTransportPressure x = (.ok (), x₁) ∧
      drivePending now x₁.1.limits.ioOperations x₁.1 = (.ok work, s₂) ∧
      afterDeadlines now x₁.1.limits.ioOperations work (s₂, x₁.2) = (.ok progress, y) := by
  have hrun : driveQuantumInner now x =
      (withTransport (pure ()) captureTransportPressure >>= fun _ => do
      let s ← slot
      let work ← Owner.onFst (drivePending now s.limits.ioOperations)
      afterDeadlines now s.limits.ioOperations work) x := rfl
  rw [hrun] at h
  obtain ⟨_, x₁, hcapture, h⟩ := Owner.ok_of_bind h
  rw [slot_bind] at h
  obtain ⟨work, x₂, hpending, h⟩ := Owner.ok_of_bind h
  cases hran : drivePending now x₁.1.limits.ioOperations x₁.1 with
  | mk result s₂ =>
  simp only [Owner.onFst_run, hran] at hpending
  cases hpending
  exact ⟨x₁, work, s₂, hcapture, hran, h⟩

omit [ByteBudget B] [Retained R] [InboundClassifier C R] [EventBatch Q] [BoundedTimers W] in
/-- The look at the memory leaves the rest of the slot as it is. -/
lemma withTransport_frame (x : ConnectionSlot B D C R Q W × Option T) :
    (withTransport (pure ()) captureTransportPressure x).2.1 =
      { x.1 with
        transportDiagnostic :=
  (withTransport (pure ()) captureTransportPressure x).2.1.transportDiagnostic
        transportPressure :=
          (withTransport (pure ()) captureTransportPressure x).2.1.transportPressure
        transportRetainedLimit :=
          (withTransport (pure ()) captureTransportPressure x).2.1.transportRetainedLimit
        transportContractDiverged :=
          (withTransport (pure ()) captureTransportPressure x).2.1.transportContractDiverged } := by
  obtain ⟨s, u⟩ := x
  cases u with
  | none => rfl
  | some t => exact capture_frame s t

omit [Retained R] [InboundClassifier C R] [EventBatch Q] in
/-- So the slot stays steady. -/
lemma Steady.glanced (h : Steady permits s e) {u : Option T}
    {x₁ : ConnectionSlot B D C R Q W × Option T}
    (hcapture : withTransport (pure ()) captureTransportPressure (s, u) = (.ok (), x₁)) :
    Steady permits x₁.1 e ∧ x₁.1.dues = s.dues ∧ x₁.1.limits = s.limits := by
  have hframe := withTransport_frame (s, u)
  rw [hcapture] at hframe
  rw [hframe]
  refine ⟨⟨h.owns, h.timed.congr rfl rfl rfl (.refl _), h.healthy, ?_⟩, rfl, rfl⟩
  exact h.phase.congr rfl (fun hp => h.phase.undrained hp) rfl rfl

omit [ByteBudget B] [Retained R] [InboundClassifier C R] [EventBatch Q] [BoundedTimers W] in
/-- The first turn of a shutdown whose deadline has elapsed ends it. -/
lemma closeQuantum_timedOut {now budget : ℕ} {t : T} {progress : SlotProgress}
    {x : ConnectionSlot B D C R Q W × Option T} {reason : CloseReason} {shutdown : ShutdownState}
    {deadline : Deadline} (hrequest : s.closeRequest = some (.core reason shutdown))
    (hdeadline : CloseDirective.shutdownDeadline (.core reason shutdown) = some deadline)
    (hnow : deadline.moment ≤ now)
    (h : driveCloseQuantum now (budget + 1) 0 (s, some t) = (.ok progress, x)) :
    (do
      let work ← closeLoop now (budget + 1) budget 1
      let saturated ← Owner.both (pure (work = budget + 1 : Bool)) <|
        withTransport (pure false) (hasRunnableShutdown now)
      pure ⟨work, saturated⟩ : Driving B D C R Q W (Option T) SlotProgress)
        (s.shutdownTimedOut reason, some t) = (.ok progress, x) := by
  have hturn : driveShutdownOnce now (budget + 1) (s, t) =
      (.ok (some 1), s.shutdownTimedOut reason, t) := by
    rw [driveShutdownOnce, slot_bind]
    have helapsed : deadline.isElapsedAt now = true := decide_eq_true hnow
    cases shutdown with
    | pending deadline' =>
      cases hdeadline
      simp only [hrequest, helapsed, if_true]
      rfl
    | started deadline' =>
      cases hdeadline
      simp only [hrequest, helapsed, if_true]
      rfl
    | immediate => cases hdeadline
    | complete => cases hdeadline
  have hloop : closeLoop now (budget + 1) (budget + 1) 0 (s, some t) =
      closeLoop now (budget + 1) budget 1 (s.shutdownTimedOut reason, some t) := by
    rw [closeLoop, if_pos (Nat.succ_pos _)]
    refine Owner.bind_ok (a := some 1) ?_ _
    simp only [withTransport, Nat.sub_zero, hturn]
  rw [driveCloseQuantum, Owner.bind_run, Nat.sub_zero, hloop] at h
  exact h

omit [ByteBudget B] [Retained R] [InboundClassifier C R] [EventBatch Q] in
/-- Without a close, a deadline that has elapsed is one of the three kinds. -/
lemma elapsed_of_dues {now m : ℕ} (hnone : s.closeRequest = none) (hm : m ∈ s.dues)
    (hnow : m ≤ now) : s.elapsed now ≠ [] := by
  suffices hdue : ∃ due, due ∈ s.elapsed now by
    obtain ⟨due, hdue⟩ := hdue
    exact List.ne_nil_of_mem hdue
  rw [dues, Multiset.mem_add, Multiset.mem_add, or_assoc] at hm
  rcases hm with hheld | hattempt | hclock
  · simp only [ConnectionSlot.held, hnone, Option.bind_none, Option.toList_none, List.append_nil,
      Multiset.mem_coe, List.mem_map,
      Option.mem_toList] at hheld
    obtain ⟨deadline, hdrain, rfl⟩ := hheld
    exact ⟨.drain deadline, mem_elapsed.mpr ⟨hnow, .inl ⟨deadline, hdrain, rfl⟩⟩⟩
  · unfold ConnectionSlot.attempt at hattempt
    split at hattempt
    · next hconnecting =>
      obtain rfl := Multiset.mem_singleton.mp hattempt
      exact ⟨.connect s.connectDeadline, mem_elapsed.mpr ⟨hnow, .inr (.inl ⟨hconnecting, rfl⟩)⟩⟩
    · exact absurd hattempt (Multiset.notMem_zero m)
  · obtain ⟨clock, hmem, rfl⟩ := List.mem_map.mp (Multiset.mem_coe.mp hclock)
    exact ⟨.operation clock.1 clock.2, mem_elapsed.mpr ⟨hnow, .inr (.inr ⟨clock, hmem, rfl⟩)⟩⟩

omit [Retained R] [InboundClassifier C R] [EventBatch Q] in
/-- With one, the shutdown has the only deadline. -/
lemma Steady.closing (h : Steady permits s e) {directive : CloseDirective}
    (hrequest : s.closeRequest = some directive) :
    ∃ reason shutdown, directive = .core reason shutdown ∧
      s.dues = ↑((CloseDirective.shutdownDeadline (.core reason shutdown)).toList.map
        Deadline.moment) := by
  have hphase := h.phase
  cases hp : e.phase with
  | live =>
    rw [hp] at hphase
    rw [hphase.1] at hrequest
    cases hrequest
  | closed =>
    rw [hp] at hphase
    rw [hphase.1] at hrequest
    cases hrequest
  | closing =>
    rw [hp] at hphase
    obtain ⟨hstate, hdrain, reason, shutdown, hcore, _⟩ := hphase
    cases hcore.symm.trans hrequest
    refine ⟨reason, shutdown, rfl, ?_⟩
    have hattempt : s.attempt = 0 := if_neg (by simp [isConnecting, hstate])
    rw [h.timed.dues_eq, hattempt, owed_nil (h.owns.wf.idle (by rw [hp]; simp)),
      ConnectionSlot.held, hdrain, hcore]
    simp

/-- **A quantum uses up a deadline**, when the next one has elapsed and the quantum succeeds,
whatever its budget and its transport. -/
theorem Steady.quantum (h : Steady permits s e) {now : ℕ} {t : T} {deadline : Deadline}
    {progress : SlotProgress} {x : ConnectionSlot B D C R Q W × Option T}
    (hnext : s.nextDeadline = some deadline) (hnow : deadline.moment ≤ now)
    (hok : driveQuantumInner now (s, some t) = (.ok progress, x)) : Consumes now s x.1 := by
  obtain ⟨⟨s₁, u₁⟩, work, s₂, hcapture, hpending, hafter⟩ := driveQuantumInner_ok hok
  obtain ⟨hsteady, hsame, _⟩ := h.glanced hcapture
  obtain ⟨t₁, rfl⟩ : ∃ t₁, u₁ = some t₁ := by
    have hu : some (captureTransportPressure (s, t)).2.2 = u₁ := congrArg (fun z => z.2.2) hcapture
    exact ⟨_, hu.symm⟩
  dsimp only at hsteady hsame hpending hafter
  have hmem : deadline.moment ∈ s₁.dues := hsame ▸ nextDeadline_mem hnext
  suffices hused : Consumes now s₁ x.1 by
    unfold Consumes at hused ⊢
    rwa [← hsame]
  obtain ⟨budget, hbudget⟩ := Nat.exists_eq_add_of_lt s₁.limits.operations_pos
  rw [Nat.zero_add] at hbudget
  rw [hbudget] at hpending hafter
  cases hrequest : s₁.closeRequest with
  | none =>
    rw [drivePending, if_pos hrequest] at hpending
    obtain ⟨hconsumes, e₂, hsteady₂⟩ :=
      (hsteady.poised hrequest).consumes (E := E) (elapsed_of_dues hrequest hmem hnow) hpending
    have hwalks : Walks permits (.driveQuantum now (some t)) along
        (afterDeadlines now (budget + 1) work) (s₂, some t₁) :=
      walks_afterDeadlines rfl (budget + 1) work (s₂, some t₁)
    obtain ⟨_, _, hle⟩ := hsteady₂.walked_le hwalks hafter drains_quantum
    exact hconsumes.trans_le hle
  | some directive =>
    obtain ⟨reason, shutdown, rfl, hdues⟩ := hsteady.closing hrequest
    rw [drivePending, if_neg (by rw [hrequest]; simp)] at hpending
    cases hpending
    rw [afterDeadlines, slot_bind, if_pos (by rw [hrequest]; rfl)] at hafter
    rw [hdues, Multiset.mem_coe, List.mem_map] at hmem
    obtain ⟨deadline', hdeadline', hmoment⟩ := hmem
    have hafter' :=
      closeQuantum_timedOut hrequest (Option.mem_toList.mp hdeadline') (by omega) hafter
    have hsteady' : Steady permits (s₁.shutdownTimedOut reason) e :=
      ⟨hsteady.owns, hsteady.timed.congr rfl rfl rfl (.refl _), hsteady.healthy,
        hsteady.phase.congr rfl (fun hp => hsteady.phase.undrained hp) (by rw [hrequest]; rfl) rfl⟩
    have hwalks : Walks permits (.driveQuantum now (some t)) along
        (do
          let work ← closeLoop now (budget + 1) budget 1
          let saturated ← Owner.both (pure (work = budget + 1 : Bool)) <|
            withTransport (pure false) (hasRunnableShutdown now)
          pure ⟨work, saturated⟩ : Driving B D C R Q W (Option T) SlotProgress)
              (s₁.shutdownTimedOut reason, some t₁) := by
      refine walks_bind (walks_closeLoop rfl _ _ 1 _) fun work y _ => ?_
      refine walks_bind (walks_both (walks_pure _ _) fun z =>
        walks_withTransport (walks_pure _ _) fun t =>
        walks_hasRunnableShutdown now _) fun saturated z _ => walks_pure _ z
    obtain ⟨_, _, hle⟩ := hsteady'.walked_le hwalks hafter' drains_quantum
    obtain ⟨_, _, heq, hdues'⟩ := hsteady'.closing rfl
    cases heq
    refine ⟨deadline.moment, hnow, ?_⟩
    have hgone : x.1.dues = 0 := le_bot_iff.mp (hle.trans hdues'.le)
    rw [hgone, hdues, Option.mem_toList.mp hdeadline', ← hmoment]
    exact le_rfl

/-- The same for the public call: the slot fails, or uses up a deadline. -/
theorem Phased.quantum (h : Phased s e) (howns : Owns permits s e)
    (htimed : s.state = .running → Timed s e) (hrunning : s.state = .running) {now : ℕ} (t : T)
    {deadline : Deadline} (hnext : s.nextDeadline = some deadline) (hnow : deadline.moment ≤ now)
    (hrunning' : (driveQuantum now (s, some t)).2.1.state = .running) :
    Consumes now s (driveQuantum now (s, some t)).2.1 := by
  have hwalks : Walks permits (.driveQuantum now (some t)) along (driveQuantumInner now)
      (s, some t) :=
    walks_driveQuantumInner rfl (s, some t)
  have hlatched := latched_of_own hwalks.1 (driveQuantumInner now (s, some t)).2.1
  rw [driveQuantum_run hrunning] at hrunning' ⊢
  obtain ⟨hnone, hsame⟩ := hlatched.eq_of_running hrunning'
  cases hinner : driveQuantumInner now (s, some t) with
  | mk result x =>
  rw [hinner] at hnone hsame
  cases result with
  | ok progress => exact (h.steady howns htimed hrunning).quantum hnext hnow hinner
  | error error => cases hnone

/-! ### Between calls -/

/-- How many deadlines a slot still has. A failed one waits for none. -/
def ConnectionSlot.remaining (s : ConnectionSlot B D C R Q W) : ℕ :=
  if s.state = .running then s.dues.card else 0

/-- A slot between two calls of one who holds `permits`. -/
def Kept (permits : List OperationPermit) (s : ConnectionSlot B D C R Q W) : Prop :=
  ∃ e, Owns permits s e ∧ Phased s e ∧ (s.state = .running → Timed s e)

section
omit [Retained R] [InboundClassifier C R]

lemma Kept.new (setup : SlotSetup D C R E) : Kept [] (setup.slot : ConnectionSlot B D C R Q W) :=
  ⟨_, holds_new .., Phased.new setup, fun _ => Timed.new setup⟩

/-- A new slot waits for its connection only. -/
lemma remaining_new (setup : SlotSetup D C R E) :
    (setup.slot : ConnectionSlot B D C R Q W).remaining = 1 := by
  have harmed : (setup.slot : ConnectionSlot B D C R Q W).clocks = [] := by
    simp [SlotSetup.slot, fresh, ConnectionSlot.clocks, BoundedTimers.armed_new]
  have hrunning : (setup.slot : ConnectionSlot B D C R Q W).state = .running := rfl
  rw [ConnectionSlot.remaining, if_pos hrunning, dues, harmed]
  rfl

end

/-- A slot that is running was running before. -/
lemma SlotStep.running {call : SlotCall T} {r : SlotResponse R T} {permits' : List OperationPermit}
    (hstep : SlotStep s e permits call r (some s') e' permits')
    (hrunning : s'.state = .running) : s.state = .running := by
  cases hstep using SlotStep.casesPlain with
  | plain _ hplain =>
    rcases hplain.slot with hslot | ⟨hstate, _⟩
    · rw [hslot] at hrunning
      exact hrunning
    · exact hstate
  | drove running => exact running
  | committed running => exact running
  | aborted => exact hrunning
  | confirmed request ready step published =>
    rw [publishClosed, publishNext_frame] at hrunning
    exact hrunning
  | unpublished => exact absurd hrunning (latchOwnerFailure_state _ _)
  | unconfirmed => exact absurd hrunning (latchOwnerFailure_state _ _)

/-- **A call keeps a slot, and adds no more deadlines than it arms.** -/
theorem Kept.call (h : Kept permits s) (call : SlotCall T) {s' : ConnectionSlot B D C R Q W}
    {permits' : List OperationPermit}
    (hslot : (SlotWorld.slotStep s permits call).1 = ⟨some s', permits'⟩) :
    Kept permits' s' ∧ s'.remaining ≤ s.remaining + call.arms := by
  obtain ⟨e, howns, hphased, htimed⟩ := h
  obtain ⟨e', hstep, howns'⟩ := follows_slot howns call
  rw [hslot] at hstep howns'
  have howns'' := howns' s' rfl
  refine ⟨⟨e', howns'', hphased.step howns hstep, (Timed.step htimed howns howns'' hstep).1⟩, ?_⟩
  unfold ConnectionSlot.remaining
  by_cases hrunning : s'.state = .running
  · rw [if_pos hrunning, if_pos (hstep.running hrunning)]
    exact hstep.card_dues howns howns'' hphased htimed hrunning
  · rw [if_neg hrunning]
    exact Nat.zero_le _

/-- A quantum of a running slot whose next deadline has elapsed uses it up,
unless the slot fails. -/
theorem Kept.quantum (h : Kept permits s) (hrunning : s.state = .running) {now : ℕ} (t : T)
    {deadline : Deadline} (hnext : s.nextDeadline = some deadline) (hnow : deadline.moment ≤ now) :
    (driveQuantum now (s, some t)).2.1.state ≠ .running ∨
      Consumes now s (driveQuantum now (s, some t)).2.1 := by
  obtain ⟨e, howns, hphased, htimed⟩ := h
  by_cases hrunning' : (driveQuantum now (s, some t)).2.1.state = .running
  · exact .inr (hphased.quantum howns htimed hrunning t hnext hnow hrunning')
  · exact .inl hrunning'

omit [ByteBudget B] [Retained R] [InboundClassifier C R] [EventBatch Q] in
/-- Either way one deadline less remains. -/
lemma remaining_lt {now : ℕ} {deadline : Deadline} (hrunning : s.state = .running)
    (hnext : s.nextDeadline = some deadline)
    (h : s'.state ≠ .running ∨ Consumes now s s') : s'.remaining < s.remaining := by
  rw [ConnectionSlot.remaining, ConnectionSlot.remaining, if_pos hrunning]
  split
  · next hrunning' =>
    obtain ⟨m, _, hle⟩ := h.resolve_left (not_not.mpr hrunning')
    have hcard := Multiset.card_le_card hle
    rw [Multiset.card_cons] at hcard
    omega
  · exact Multiset.card_pos_iff_exists_mem.mpr ⟨_, nextDeadline_mem hnext⟩

end Bornera.Slot
