import Bornera.Core.Ownership

/-!
# Lifecycle

Gate and phase only move forward, an epoch closes once and for one reason, a drain ends with the
last record, and nothing happens in an epoch that is not live.
-/

namespace Bornera.Core

open Lib Epoch

variable {B F R : Type} [ByteBudget B]

/-! ### What runs show -/

/-- The order in which a gate moves. -/
def AdmissionGate.rank : AdmissionGate → ℕ
  | .sessionOnly => 0
  | .opened => 1
  | .draining => 2
  | .closed => 3

/-- The order in which a phase moves. -/
def ConnectionPhase.rank : ConnectionPhase → ℕ
  | .live => 0
  | .closing => 1
  | .closed => 2

/-- The effects a call hands back. -/
def Response.effects : Response F R → List (ConnectionEffect R)
  | .committed (.ok (_, t)) => t.effects
  | .transition (.ok t) => t.effects
  | _ => []

/-- The reasons of the `CloseEpoch` effects. -/
def closings (effects : List (ConnectionEffect R)) : List CloseReason :=
  effects.filterMap fun
    | .closeEpoch _ reason => some reason
    | _ => none

/-- Phase, gate and close reason between two calls. -/
structure World.Orderly (w : World B F) : Prop where
  gate : w.core.machine.phase = .live ↔ w.core.machine.gate ≠ .closed
  reason : w.core.machine.phase = .live ↔ w.core.machine.closeReason = none
  draining : w.core.machine.gate = .draining → w.core.machine.matching.pending ≠ []
  idle : w.core.machine.phase ≠ .live → w.core.machine.matching.pending = [] ∧
    w.core.writes.frames = []

/-- The calls that take the record `r` away without closing: its reply, the completion of its
write, a cancel or a deadline before any byte was sent. -/
def Departs (r : OperationRecord) : Call F R → ConnectionTransition R → Prop
  | .applyReply _, t => t.disposition = .applied
  | .advanceWrite _ _ _, _ => True
  | .apply (.cancel _ _), t => t.cancelOutcome = some .cancelledNotSent
  | .apply (.deadlineElapsed _ _ _), _ => r.delivery = .notSent
  | _, _ => False

/-- One call of an orderly run. -/
structure Advances (ev : CallEvent B F R) : Prop where
  gate : ev.before.core.machine.gate.rank ≤ ev.after.core.machine.gate.rank
  phase : ev.before.core.machine.phase.rank ≤ ev.after.core.machine.phase.rank
  reason : ∀ reason, ev.before.core.machine.closeReason = some reason →
    ev.after.core.machine.closeReason = some reason
  /-- A drain ends with the record that leaves last. -/
  drained : ∀ r t, ev.before.core.machine.gate = .draining →
    ev.before.core.machine.matching.pending = [r] →
    ev.output = .transition (.ok t) → Departs r ev.input t →
      ev.after.core.machine.matching.pending = [] →
    ev.after.core.machine.phase = .closing ∧ ev.after.core.machine.gate = .closed ∧
      ev.after.core.machine.closeReason = some .drained ∧
      t.effects.getLast? = some (.closeEpoch ev.before.core.machine.epoch .drained)
  /-- Nothing happens once the epoch is not live. -/
  idle : ev.before.core.machine.phase ≠ .live →
    (∀ accepted, ev.output ≠ .committed (.ok accepted)) ∧ ev.output.effects = []

/-! ### Steps -/

/-- Gate and phase move forward, and the close reason stays. -/
structure Epoch.Forward (e e' : Epoch F) : Prop where
  gate : e.gate.rank ≤ e'.gate.rank
  phase : e.phase.rank ≤ e'.phase.rank
  reason : ∀ reason, e.closeReason = some reason → e'.closeReason = some reason

variable {limits : ConnectionLimits} {e e' : Epoch F} {call : Call F R} {r : Response F R}

lemma AdmissionGate.rank_le (g : AdmissionGate) : g.rank ≤ AdmissionGate.closed.rank := by
  cases g <;> decide

lemma forward_close (hl : e.phase = .live) (hr : e.phase = .live ↔ e.closeReason = none)
    (reason : CloseReason) :
    e.Forward (e.close reason) := by
  refine ⟨e.gate.rank_le, ?_, ?_⟩
  · rw [hl]
    exact Nat.zero_le _
  · intro old hold
    rw [hr.mp hl] at hold
    cases hold

lemma forward_drained (hg : e.phase = .live ↔ e.gate ≠ .closed)
    (hr : e.phase = .live ↔ e.closeReason = none) :
    e.Forward e.drained := by
  unfold Epoch.drained
  split
  · next hd =>
    simp only [Epoch.drains, List.isEmpty_iff, decide_eq_true_eq] at hd
    exact forward_close (hg.mpr (by simp [hd.1])) hr .drained
  · exact ⟨le_rfl, le_rfl, fun _ => id⟩

lemma forward_removed (hg : e.phase = .live ↔ e.gate ≠ .closed)
    (hr : e.phase = .live ↔ e.closeReason = none)
    (lane : List (Item F)) : e.Forward { e with lane := lane }.drained := by
  have hd := forward_drained (e := { e with lane := lane }) hg hr
  exact ⟨hd.gate, hd.phase, hd.reason⟩

/-- **Every step moves forward.** -/
theorem Epoch.Step.forward (h : Step e call r e') (hw : e.Wf) : e.Forward e' := by
  cases h with
  | opened _ _ gate =>
    refine ⟨?_, le_rfl, fun _ => id⟩
    rw [gate]
    exact Nat.zero_le _
  | removed => exact forward_removed hw.gate hw.reason _
  | closed _ live => exact forward_close live hw.reason _
  | draining _ live gate =>
    have hrank : e.gate.rank ≤ AdmissionGate.draining.rank := by
      rcases gate with gate | gate <;> rw [gate] <;> decide
    have hd := forward_drained (e := { e with gate := .draining }) (by simp [live]) hw.reason
    exact ⟨hrank.trans hd.gate, hd.phase, hd.reason⟩
  | confirmed _ phase =>
    refine ⟨e.gate.rank_le, ?_, fun _ => id⟩
    rw [phase]
    exact Nat.le_succ 1
  | replied => exact forward_removed hw.gate hw.reason _
  | completed => exact forward_removed hw.gate hw.reason _
  | _ => exact ⟨le_rfl, le_rfl, fun _ => id⟩

lemma Epoch.Step.live_before (h : Step e call r e') (hw : e.Wf) (hlive : e'.phase = .live) :
    e.phase = .live := by
  have hle := (h.forward hw).phase
  rw [hlive] at hle
  cases hphase : e.phase with
  | live => rfl
  | closing => simp [hphase, ConnectionPhase.rank] at hle
  | closed => simp [hphase, ConnectionPhase.rank] at hle

/-- The epoch left by the last record of a drain. -/
lemma drained_last (hg : e.gate = .draining) (hl : e.lane = []) :
    e.drained = e.close .drained ∧
      (e.drainEffects : List (ConnectionEffect R)) = [.closeEpoch e.epoch .drained] := by
  have hd : e.drains = true := by simp [Epoch.drains, hg, hl]
  exact ⟨if_pos hd, if_pos hd⟩

/-- A drain ends with the record that leaves last. -/
lemma Epoch.Step.drains {x : Item F} {t : ConnectionTransition R}
    (h : Step e call (.transition (.ok t)) e') (hg : e.gate = .draining) (hl : e.lane = [x])
    (hd : Departs x.record call t) (hempty : e'.lane = []) :
    e'.phase = .closing ∧ e'.gate = .closed ∧ e'.closeReason = some .drained ∧
      t.effects.getLast? = some (.closeEpoch e.epoch .drained) := by
  have hlast : ∀ {lane : List (Item F)} {effects : List (ConnectionEffect R)}, lane = [] →
      { e with lane := lane }.drained.phase = .closing ∧
        { e with lane := lane }.drained.gate = .closed ∧
      { e with lane := lane }.drained.closeReason = some .drained ∧
      (effects ++ { e with lane := lane }.drainEffects).getLast? =
          some (.closeEpoch e.epoch .drained) := by
    rintro lane effects rfl
    obtain ⟨hclose, heffects⟩ := drained_last (R := R) (e := { e with lane := [] }) hg rfl
    rw [hclose, heffects]
    exact ⟨rfl, rfl, rfl, by simp⟩
  have hsplit : ∀ {pre post : List (Item F)} {y : Item F}, e.lane = pre ++ y :: post →
      pre ++ post = [] := by
    intro pre post y hlane
    have := congrArg List.length (hl.symm.trans hlane)
    simp only [List.length_append, List.length_cons, List.length_nil] at this
    refine List.length_eq_zero_iff.mp ?_
    rw [List.length_append]
    omega
  cases h with
  | ignored => simp [hl] at hempty
  | opened => simp [hl] at hempty
  | rescheduled => simp [hl] at hempty
  | removed _ lane => exact hlast (hsplit lane)
  | buried => simp at hempty
  | closed _ _ closes =>
    cases closes with
    | requested => exact hd.elim
    | malformed => exact hd.elim
    | late mem sent =>
      rw [hl, List.mem_singleton] at mem
      rw [mem] at sent
      simp [Departs, sent] at hd
    | unexpected => simp [Departs] at hd
    | mismatch => simp [Departs] at hd
  | draining _ _ gate => rcases gate with gate | gate <;> simp [hg] at gate
  | confirmed => exact hd.elim
  | @replied y rest _ _ _ front => exact hlast (hsplit (show e.lane = [] ++ y :: rest from front))
  | progressed => simp at hempty
  | finished => simp at hempty
  | completed _ front => exact hlast (hsplit front.lane)

/-- Nothing happens in an epoch that is not live. -/
lemma Epoch.Step.idle (h : Step e call r e') (hw : e.Wf) (hl : e.phase ≠ .live) :
    (∀ accepted, r ≠ .committed (.ok accepted)) ∧ r.effects = [] := by
  have hlane := hw.idle hl
  cases h with
  | committed _ _ admitted =>
    have hclosed : e.gate = .closed := by
      by_contra hg
      exact hl (hw.gate.mpr hg)
    simp [hclosed, AdmissionGate.admits] at admitted
  | ignored _ _ _ quiet => exact ⟨by simp, quiet⟩
  | rescheduled _ mem => simp [hlane] at mem
  | removed _ lane => simp [hlane] at lane
  | buried _ lane => simp [hlane] at lane
  | closed _ live => exact absurd live hl
  | draining _ live => exact absurd live hl
  | replied _ live => exact absurd live hl
  | completed _ front => simpa [hlane] using front.lane
  | _ => exact ⟨by simp, rfl⟩

@[simp] lemma closings_append (xs ys : List (ConnectionEffect R)) :
    closings (xs ++ ys) = closings xs ++ closings ys :=
  List.filterMap_append

@[simp] lemma closings_publish (x : Item F) (epoch : ConnectionEpoch)
    (outcome : OperationOutcome R) :
    closings (x.publish epoch outcome) = [] := by
  unfold Item.publish
  split <;> rfl

@[simp] lemma closings_cancelDeadline (epoch : ConnectionEpoch) (operation : OperationId)
    (effects : List (ConnectionEffect R)) :
    closings (.cancelDeadline epoch operation :: effects) = closings effects := rfl

lemma closings_closing (e : Epoch F) (reason : CloseReason)
    (failure : Option (OperationId × OperationFailure)) :
    closings (e.closing reason failure : List (ConnectionEffect R)) = [reason] := by
  have hlane : closings
      (e.lane.flatMap (Item.farewell e.epoch reason failure) : List (ConnectionEffect R)) = [] := by
    induction e.lane with
    | nil => rfl
    | cons x xs ih =>
      rw [List.flatMap_cons, closings_append, ih, Item.farewell, closings_cancelDeadline,
        closings_publish]
      rfl
  show reason :: closings _ = [reason]
  rw [hlane]

/-- A drain closes the epoch with one effect, or leaves its phase. -/
lemma closings_drained (hg : e.phase = .live ↔ e.gate ≠ .closed) :
    closings (e.drainEffects : List (ConnectionEffect R)) = [] ∨
      e.phase = .live ∧ e.drained.phase ≠ .live ∧
        (closings (e.drainEffects : List (ConnectionEffect R))).length = 1 := by
  unfold Epoch.drainEffects Epoch.drained
  split
  · next hd =>
    simp only [Epoch.drains, List.isEmpty_iff, decide_eq_true_eq] at hd
    exact Or.inr ⟨hg.mpr (by simp [hd.1]), by simp [Epoch.close], rfl⟩
  · exact Or.inl rfl

/-- A step emits `CloseEpoch` only when it takes the epoch out of its live phase. -/
lemma Epoch.Step.closings (h : Step e call r e') (hw : e.Wf) :
    Core.closings r.effects = [] ∨
      e.phase = .live ∧ e'.phase ≠ .live ∧ (Core.closings r.effects).length = 1 := by
  cases h with
  | ignored _ _ _ quiet => exact Or.inl (by simp [Response.effects, quiet, Core.closings])
  | @removed _ pre post =>
    simpa [Response.effects, Core.closings]
      using closings_drained (R := R) (e := { e with lane := pre ++ post }) hw.gate
  | closed _ live =>
    refine Or.inr ⟨live, by simp [Epoch.close], ?_⟩
    simp only [Response.effects, closings_closing, List.length_singleton]
  | draining _ live =>
    exact closings_drained (R := R) (e := { e with gate := .draining }) (by simp [live])
  | @replied x rest =>
    simpa [Response.effects] using closings_drained (R := R) (e := { e with lane := rest }) hw.gate
  | @completed pre post =>
    simpa [Response.effects] using closings_drained (R := R)
      (e := { e with lane := pre ++ post }) hw.gate
  | _ => exact Or.inl rfl

/-- A transition of a core is one of a healthy epoch, which stays healthy. -/
lemma Epoch.Step.healthy {t : ConnectionTransition R} (h : Step e call (.transition (.ok t)) e') :
    e.poisoned = none ∧ e'.poisoned = none := by
  cases h <;> first | exact ⟨‹_›, ‹_›⟩ | exact ⟨‹_›, (drained_poisoned _).trans ‹_›⟩

/-- A step stays in its epoch. -/
lemma Epoch.Step.epoch_eq (h : Step e call r e') : e'.epoch = e.epoch := by
  cases h <;> first | rfl | exact drained_epoch _

/-- A gate that is still for the session alone has not moved. -/
lemma Epoch.Forward.sessionOnly (h : e.Forward e') (hgate : e'.gate = .sessionOnly) :
    e.gate = .sessionOnly := by
  have hle := h.gate
  rw [hgate] at hle
  cases he : e.gate with
  | sessionOnly => rfl
  | _ =>
    rw [he] at hle
    exact absurd hle (by decide)

lemma closes_drained (hg : e.phase = .live ↔ e.gate ≠ .closed) :
    closings (e.drainEffects : List (ConnectionEffect R)) = [] ∧ e.drained.phase = e.phase ∧
        e.drained.closeReason = e.closeReason ∨
      ∃ reason, closings (e.drainEffects : List (ConnectionEffect R)) = [reason] ∧ e.phase = .live ∧
        e.drained.phase = .closing ∧ e.drained.closeReason = some reason := by
  unfold Epoch.drainEffects Epoch.drained
  split
  · next hd =>
    simp only [Epoch.drains, List.isEmpty_iff, decide_eq_true_eq] at hd
    exact .inr ⟨.drained, rfl, hg.mpr (by simp [hd.1]), rfl, rfl⟩
  · exact .inl ⟨rfl, rfl, rfl⟩

/-- A transition closes the epoch with one `CloseEpoch`, or leaves its phase and reason. -/
lemma Epoch.Step.closes {t : ConnectionTransition R} (h : Step e call (.transition (.ok t)) e')
    (hw : e.Wf) (hcall : ∀ epoch, call ≠ .apply (.epochClosed epoch)) :
    Core.closings t.effects = [] ∧ e'.phase = e.phase ∧ e'.closeReason = e.closeReason ∨
      ∃ reason, Core.closings t.effects = [reason] ∧ e.phase = .live ∧ e'.phase = .closing ∧
        e'.closeReason = some reason := by
  cases h with
  | ignored _ _ _ quiet => exact .inl ⟨by simp [quiet, Core.closings], rfl, rfl⟩
  | @removed _ pre post _ _ _ _ _ _ _ =>
    rcases closes_drained (R := R) (e := { e with lane := pre ++ post }) hw.gate
      with ⟨hnone, hphase, hreason⟩ | h
    · refine .inl ⟨?_, hphase, hreason⟩
      simpa [Core.closings] using hnone
    · refine .inr ?_
      simpa [Core.closings] using h
  | closed _ live => exact .inr ⟨_, closings_closing _ _ _, live, rfl, rfl⟩
  | draining _ live =>
    rcases closes_drained (R := R) (e := { e with gate := .draining }) (by simp [live])
      with ⟨hnone, hphase, hreason⟩ | h
    · exact .inl ⟨hnone, hphase, hreason⟩
    · exact .inr h
  | confirmed => exact absurd rfl (hcall _)
  | @replied x rest =>
    rcases closes_drained (R := R) (e := { e with lane := rest }) hw.gate
      with ⟨hnone, hphase, hreason⟩ | h
    · refine .inl ⟨?_, hphase, hreason⟩
      simpa using hnone
    · refine .inr ?_
      simpa using h
  | @completed pre post =>
    rcases closes_drained (R := R) (e := { e with lane := pre ++ post }) hw.gate
      with ⟨hnone, hphase, hreason⟩ | h
    · refine .inl ⟨?_, hphase, hreason⟩
      simpa using hnone
    · refine .inr ?_
      simpa using h
  | _ => exact .inl ⟨rfl, rfl, rfl⟩

/-! ### Runs -/

/-- The reasons of the `CloseEpoch` effects of a history. -/
def closingsOf (h : List (CallEvent B F R)) : List CloseReason :=
  h.flatMap fun ev => closings ev.output.effects

/-- A step without a recovery that breaks nothing leaves a healthy epoch healthy. -/
lemma Epoch.Step.stays_healthy (h : Step e call r e') (hr : r.broken = false) (hc : call ≠ .recover)
    (hp : e.poisoned = none) : e'.poisoned = none := by
  cases h with
  | overran => cases hr
  | reshaped => cases hr
  | recovered => exact absurd rfl hc
  | _ => first | exact hp | (rw [drained_poisoned]; exact hp)

/-- How often a history has closed the epoch it ends in, and whether that epoch is healthy. -/
structure Lived (h : List (CallEvent B F R)) (e : Epoch F) : Prop where
  once : (closingsOf h).length ≤ 1
  live : e.phase = .live → closingsOf h = []
  healthy : (∀ ev ∈ h, ev.output.broken = false) → (∀ ev ∈ h, ev.input ≠ .recover) →
    e.poisoned = none

omit [ByteBudget B] in
theorem Lived.step {h : List (CallEvent B F R)} {ev : CallEvent B F R} (hl : Lived h e) (hw : e.Wf)
    (hs : Step e ev.input ev.output e') : Lived (h ++ [ev]) e' := by
  have hsnoc : closingsOf (h ++ [ev]) = closingsOf h ++ closings ev.output.effects := by
    simp [closingsOf]
  refine ⟨?_, ?_, ?_⟩
  · rw [hsnoc, List.length_append]
    rcases hs.closings hw with hnone | ⟨hlive, _, hone⟩
    · simpa [hnone] using hl.once
    · rw [hl.live hlive, hone]
      simp
  · intro hlive
    rw [hsnoc, hl.live (hs.live_before hw hlive)]
    rcases hs.closings hw with hnone | ⟨_, hnot, _⟩
    · rw [hnone]
      rfl
    · exact absurd hlive hnot
  · intro hbroken hrecover
    refine hs.stays_healthy (hbroken ev (by simp)) (hrecover ev (by simp)) (hl.healthy ?_ ?_)
    · exact fun v hv => hbroken v (List.mem_append_left _ hv)
    · exact fun v hv => hrecover v (List.mem_append_left _ hv)

theorem lived_run (s : Setup) (calls : List (Call F R)) :
    ∃ e, Holds s.limits (s.final B calls) e ∧ Lived (s.history B calls) e := by
  refine s.run_induction (Q := Lived) ⟨?_, fun _ => rfl, fun _ _ => rfl⟩ ?_ calls
  · exact Nat.zero_le _
  · intro h w e call e' hw hl hs _
    exact hl.step hw.wf hs

lemma Holds.orderly {w : World B F} (h : Holds limits w e) (hp : e.poisoned = none) :
    w.Orderly := by
  have hpolicy := h.core.policy
  have hidle : w.core.machine.phase ≠ .live → e.lane = [] :=
    fun hphase => h.wf.idle (hpolicy.phase ▸ hphase)
  refine ⟨?_, ?_, ?_, fun hphase => ⟨?_, ?_⟩⟩
  · rw [hpolicy.phase, hpolicy.gate]
    exact h.wf.gate
  · rw [hpolicy.phase, hpolicy.closeReason]
    exact h.wf.reason
  · intro hgate hempty
    rw [hpolicy.pending, List.map_eq_nil_iff] at hempty
    exact h.wf.draining hp (hpolicy.gate ▸ hgate) hempty
  · rw [hpolicy.pending, hidle hphase]
    rfl
  · rw [h.core.writer.frames, Epoch.frames, hidle hphase]
    rfl

lemma Holds.advances {ev : CallEvent B F R} (h : Holds limits ev.before e)
    (h' : Holds limits ev.after e') (hs : Step e ev.input ev.output e') : Advances ev := by
  have hb := h.core.policy
  have ha := h'.core.policy
  have hforward := hs.forward h.wf
  refine ⟨?_, ?_, ?_, ?_, ?_⟩
  · rw [hb.gate, ha.gate]
    exact hforward.gate
  · rw [hb.phase, ha.phase]
    exact hforward.phase
  · intro reason
    rw [hb.closeReason, ha.closeReason]
    exact hforward.reason reason
  · intro r t hg hl ho hd hempty
    rw [ha.pending, List.map_eq_nil_iff] at hempty
    rw [hb.pending] at hl
    obtain ⟨x, hx, rfl⟩ := List.map_eq_singleton_iff.mp hl
    rw [ho] at hs
    rw [ha.phase, ha.gate, ha.closeReason, hb.epoch]
    exact hs.drains (hb.gate ▸ hg) hx hd hempty
  · intro hl
    exact hs.idle h.wf (hb.phase ▸ hl)

/-- **The lifecycle of a core.** In a run without recovery and without an invariant failure every
state is orderly, every call advances, and the epoch is closed at most once. -/
theorem lifecycle (s : Setup) (calls : List (Call F R)) (hrecover : .recover ∉ calls)
    (hunbroken : ∀ ev ∈ s.history B calls, ev.output.broken = false) :
    (s.final B calls).Orderly ∧
      (∀ ev ∈ s.history B calls, ev.before.Orderly ∧ ev.after.Orderly ∧ Advances ev) ∧
    (closingsOf (s.history B calls)).length ≤ 1 := by
  obtain ⟨e, hw, hl⟩ := lived_run (B := B) s calls
  have hinput : ∀ ev ∈ s.history B calls, ev.input ≠ .recover := by
    intro ev hev heq
    refine hrecover ?_
    rw [← s.history_inputs (B := B) calls, ← heq]
    exact List.mem_map_of_mem hev
  refine ⟨hw.orderly (hl.healthy hunbroken hinput), ?_, hl.once⟩
  intro ev hev
  obtain ⟨pre, post, hsplit⟩ := List.append_of_mem hev
  obtain ⟨e₀, e₁, hw₀, hl₀, hs, hw₁, _⟩ := s.at_event (lived_run s) hsplit
  have hp₀ : e₀.poisoned = none := by
    refine hl₀.healthy (fun v hv => hunbroken v ?_) fun v hv => hinput v ?_ <;>
      exact hsplit ▸ List.mem_append_left _ hv
  have hp₁ := hs.stays_healthy (hunbroken ev hev) (hinput ev hev) hp₀
  exact ⟨hw₀.orderly hp₀, hw₁.orderly hp₁, hw₀.advances hw₁ hs⟩

/-- Drains the operation of `sampleCalls`. -/
def sampleDrain : List (Call (List UInt8) Unit) :=
  sampleCalls ++ [.apply (.beginDrain ⟨1⟩), .advanceWrite ⟨1⟩ ⟨0⟩ 1, .applyReply ⟨⟨1⟩, ⟨0⟩, ()⟩]

theorem lifecycle_sample :
    closingsOf (Setup.sample.history Counted sampleDrain) = [.drained] ∧
    (Setup.sample.final Counted sampleDrain).Orderly ∧
    ∀ ev ∈ Setup.sample.history Counted sampleDrain, Advances ev := by
  obtain ⟨hfinal, hevents, _⟩ := lifecycle (B := Counted) Setup.sample sampleDrain
    (by simp [sampleDrain, sampleCalls]) (by decide +kernel)
  exact ⟨by decide +kernel, hfinal, fun ev hev => (hevents ev hev).2.2⟩

end Bornera.Core
