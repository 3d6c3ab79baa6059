import Bornera.Core.Refinement

/-!
# Settlement

Every accepted operation settles exactly once. A step moves identities from what it accepts and
what the lane owes to what it settles and what the lane owes afterwards (`Step.settles`); over a
run, the accepted operations are those settled and those still owed.
-/

namespace Bornera.Core

open Lib Epoch
open scoped List

variable {B F R : Type} [ByteBudget B]

/-! ### Runs -/

/-- One call of a run, with the worlds before and after it. -/
abbrev CallEvent (B F R : Type) : Type := Transducer.Event (World B F) (Call F R) (Response F R)

/-- How a core is set up: its limits, the identity of its ledger, its epoch, its identity seeds, and
whether debug assertions are compiled in. -/
structure Setup where
  limits : ConnectionLimits
  ledgerId : ℕ
  epoch : ConnectionEpoch
  seeds : IdentitySeeds
  debug : Bool

namespace Setup

/-- The first world. -/
def world (s : Setup) (B F : Type) [ByteBudget B] : World B F :=
  World.new s.ledgerId s.epoch s.limits s.seeds

/-- The events of a list of calls. -/
def history (s : Setup) (B : Type) [ByteBudget B] (calls : List (Call F R)) :
    List (CallEvent B F R) :=
  Transducer.history (World.step s.debug) (s.world B F) calls

/-- The world after a list of calls. -/
def final (s : Setup) (B : Type) [ByteBudget B] (calls : List (Call F R)) : World B F :=
  Transducer.final (World.step s.debug) (s.world B F) calls

/-- **The rule for runs.** What holds of the first epoch and is kept by every step, together with
the event of the call behind it, holds of every history and the epoch it ends in. -/
theorem run_induction (s : Setup) {Q : List (CallEvent B F R) → Epoch F → Prop}
    (h₀ : Q [] (Epoch.new s.ledgerId s.epoch s.seeds))
    (hstep : ∀ h (w : World B F) e call e', Holds s.limits w e → Q h e →
      Step e call (w.step s.debug call).2 e' → Holds s.limits (w.step s.debug call).1 e' →
      Q (h ++ [Transducer.event (World.step s.debug) w call]) e') (calls : List (Call F R)) :
    ∃ e, Holds s.limits (s.final B calls) e ∧ Q (s.history B calls) e := by
  refine Transducer.history_induction (P := fun h w => ∃ e, Holds s.limits w e ∧ Q h e) ?_ ?_ calls
  · exact ⟨_, holds_new s.ledgerId s.epoch s.limits s.seeds, h₀⟩
  · rintro h w call ⟨e, hw, hq⟩
    obtain ⟨e', hw', hs, _⟩ := follows_step hw s.debug call
    exact ⟨e', hw', hstep h w e call e' hw hq hs hw'⟩

/-- **The rule for one event of a run.** It is one step, taken where the run before it ends. -/
theorem at_event (s : Setup) {Q : List (CallEvent B F R) → Epoch F → Prop}
    (hrun : ∀ calls : List (Call F R), ∃ e, Holds s.limits (s.final B calls) e ∧
      Q (s.history B calls) e)
    {calls : List (Call F R)} {pre post : List (CallEvent B F R)} {ev : CallEvent B F R}
    (h : s.history B calls = pre ++ ev :: post) :
    ∃ e e', Holds s.limits ev.before e ∧ Q pre e ∧ Step e ev.input ev.output e' ∧
      Holds s.limits ev.after e' ∧ (ev.output.Quiet → ev.after = ev.before) := by
  obtain ⟨calls₁, call, _, _, rfl, rfl⟩ := Transducer.history_split h
  obtain ⟨e, hw, hq⟩ := hrun calls₁
  obtain ⟨e', hw', hs, hquiet⟩ := follows_step hw s.debug call
  exact ⟨e, e', hw, hq, hs, hw', hquiet⟩

lemma history_inputs (s : Setup) (calls : List (Call F R)) :
    (s.history B calls).map Transducer.Event.input = calls :=
  Transducer.history_inputs _ _

end Setup

/-! ### What a call accepts and settles -/

/-- The operations whose outcome is among the effects. -/
def published (effects : List (ConnectionEffect R)) : List OperationId :=
  effects.filterMap fun
    | .publishOutcome _ operation _ => some operation
    | _ => none

/-- The operation a call accepted. -/
def Response.accepted : Response F R → List OperationId
  | .committed (.ok (operation, _)) => [operation]
  | _ => []

/-- The operations a call settled: outcomes it published, and operations it recovered. -/
def Response.settled : Response F R → List OperationId
  | .committed (.ok (_, t)) => published t.effects
  | .transition (.ok t) => published t.effects
  | .recovered recovery => recovery.operations.map RecoveredOperation.operation
  | _ => []

/-- The operations accepted over a history. -/
def accepted (h : List (CallEvent B F R)) : List OperationId :=
  h.flatMap fun ev => ev.output.accepted

/-- The operations settled over a history, in order and with repetitions. -/
def settled (h : List (CallEvent B F R)) : List OperationId := h.flatMap fun ev => ev.output.settled

/-- The operations a lane still owes an outcome. -/
def Epoch.owing (e : Epoch F) : List OperationId := (e.lane.filter Item.owed).map Item.id

@[simp] lemma published_append (xs ys : List (ConnectionEffect R)) :
    published (xs ++ ys) = published xs ++ published ys :=
  List.filterMap_append

@[simp] lemma published_drain (e : Epoch F) :
    published (e.drainEffects : List (ConnectionEffect R)) = [] := by
  unfold Epoch.drainEffects
  split <;> rfl

@[simp] lemma published_publish (x : Item F) (epoch : ConnectionEpoch)
    (outcome : OperationOutcome R) :
    published (x.publish epoch outcome) = ([x].filter Item.owed).map Item.id := by
  unfold Item.publish
  cases ho : x.owed <;> simp [ho, published]

@[simp] lemma published_cancelDeadline (epoch : ConnectionEpoch) (operation : OperationId)
    (effects : List (ConnectionEffect R)) :
    published (.cancelDeadline epoch operation :: effects) = published effects := rfl

lemma published_closing (e : Epoch F) (reason : CloseReason)
    (failure : Option (OperationId × OperationFailure)) :
    published (e.closing reason failure : List (ConnectionEffect R)) = e.owing := by
  have hlane : ∀ lane : List (Item F),
      published (lane.flatMap (Item.farewell e.epoch reason failure) : List (ConnectionEffect R)) =
        (lane.filter Item.owed).map Item.id := by
    intro lane
    induction lane with
    | nil => rfl
    | cons x xs ih =>
      rw [List.flatMap_cons, published_append, ih, Item.farewell, published_cancelDeadline,
        published_publish, ← List.map_append, ← List.filter_append]
      rfl
  exact hlane e.lane

lemma owing_drained (e : Epoch F) : e.drained.owing = e.owing := by
  unfold Epoch.drained
  split
  · next h =>
    simp only [Epoch.drains, List.isEmpty_iff, decide_eq_true_eq] at h
    simp [Epoch.owing, Epoch.close, h.2]
  · rfl

lemma owing_split {e : Epoch F} {pre post : List (Item F)} {x : Item F}
    (hl : e.lane = pre ++ x :: post) :
    e.owing.Perm (([x].filter Item.owed).map Item.id ++ { e with lane := pre ++ post }.owing) := by
  unfold Epoch.owing
  rw [hl, show x :: post = [x] ++ post from rfl, List.filter_append, List.filter_append,
    List.map_append,
    List.map_append, List.filter_append, List.map_append, ← List.append_assoc, ← List.append_assoc]
  exact List.perm_append_comm.append_right _

lemma owing_replace {e : Epoch F} {pre post : List (Item F)} {x y : Item F}
    (hl : e.lane = pre ++ x :: post) (hid : y.id = x.id) (howed : y.owed = x.owed) :
    { e with lane := pre ++ y :: post }.owing = e.owing := by
  unfold Epoch.owing
  rw [hl]
  cases ho : x.owed <;> simp [List.filter_append, howed, ho, hid]

lemma progress_owed {x : Item F} {w : QueuedWrite F} {n : ℕ} (hs : x.Sound)
    (hw : x.write = some w) :
    (x.progress w n).owed = x.owed := by
  simp only [Item.owed, Item.progress, ne_eq, Item.reported_terminal hs hw]

lemma finish_owed {x : Item F} {w : QueuedWrite F} {n : ℕ} (hs : x.Sound) (hw : x.write = some w) :
    (x.finish w n).owed = x.owed := by
  have ht := Item.reported_terminal (n := n) hs hw
  by_cases hx : x.record.phase = .terminal
  · simp [Item.owed, Item.finish, OperationRecord.released, ht.mpr hx, hx]
  · have hn : (x.reported w n).phase ≠ .terminal := fun hc => hx (ht.mp hc)
    simp [Item.owed, Item.finish, OperationRecord.released, hn, hx]

/-- **One step loses no operation and settles none twice**: what it accepts and what was owed is
what it settles and what is still owed. -/
theorem Epoch.Step.settles {e e' : Epoch F} {call : Call F R} {r : Response F R}
    (h : Step e call r e') (hw : e.Wf) : (r.accepted ++ e.owing).Perm (r.settled ++ e'.owing) := by
  cases h with
  | committed =>
    simp only [Response.accepted, Response.settled, published, List.filterMap_cons,
      List.filterMap_nil,
      List.nil_append, List.singleton_append, Epoch.owing, List.filter_append, List.map_append]
    exact (List.perm_append_singleton _ _).symm
  | ignored _ _ _ quiet =>
    simp only [Response.accepted, Response.settled, quiet]
    exact List.Perm.refl _
  | removed _ lane owed =>
    simp only [Response.accepted, Response.settled, published_append, published_drain,
      List.append_nil,
      owing_drained]
    have hs := owing_split lane
    simp only [List.filter_cons, owed, if_true, List.filter_nil] at hs
    exact hs
  | @buried pre post x _ lane owed =>
    have hs := owing_split lane
    have hs' := owing_split (e := { e with lane := pre ++ x.bury :: post }) rfl
    have hb : x.bury.owed = false := by simp [Item.owed, Item.bury]
    simp only [List.filter_cons, owed, hb, if_true, Bool.false_eq_true, if_false, List.filter_nil,
      List.map_nil, List.nil_append] at hs hs'
    exact hs.trans (List.Perm.cons _ hs'.symm)
  | closed =>
    simp only [Response.accepted, Response.settled, published_closing]
    exact List.Perm.of_eq (List.append_nil _).symm
  | draining =>
    simp only [Response.accepted, Response.settled, published_drain, owing_drained]
    exact List.Perm.refl _
  | @replied x rest _ _ _ front =>
    simp only [Response.accepted, Response.settled, published_append, published_cancelDeadline,
      published_publish, published_drain, List.append_nil, owing_drained]
    exact owing_split (show e.lane = [] ++ x :: rest from front)
  | progressed healthy front =>
    have hs := hw.sound healthy _ front.mem
    rw [owing_replace front.lane Item.progress_id (progress_owed hs front.write)]
    exact List.Perm.refl _
  | finished healthy front =>
    have hs := hw.sound healthy _ front.mem
    rw [owing_replace front.lane Item.finish_id (finish_owed hs front.write)]
    exact List.Perm.refl _
  | completed _ front =>
    simp only [Response.accepted, Response.settled, published_append, published_cancelDeadline,
      published_publish, published_drain, List.append_nil, owing_drained]
    exact owing_split front.lane
  | @overran pre post x w n _ front =>
    have ho : { e with
        lane := pre ++ x.overrun w :: post
        poisoned := some (.writeProgressContract n
            (w.measure.wireBytes - w.written)) }.owing = e.owing :=
      owing_replace (e := e) front.lane rfl rfl
    rw [ho]
    exact List.Perm.refl _
  | recovered =>
    simp only [Response.accepted, Response.settled, List.map_map, List.nil_append]
    exact List.Perm.of_eq (List.append_nil _).symm
  | _ => exact List.Perm.refl _

/-! ### Runs settle exactly once -/

/-- What a history has accepted and settled, against the epoch it ends in. -/
structure Ledgered (h : List (CallEvent B F R)) (e : Epoch F) : Prop where
  distinct : (accepted h ++ e.permits.map (·.operation)).Nodup
  issued : ∀ id ∈ accepted h, Issued e.identities.operation id.get
  settled : (accepted h).Perm (settled h ++ e.owing)
  recovered : (∃ ev ∈ h, ev.input = .recover) → e.poisoned ≠ none ∧ e.lane = []

section
omit [ByteBudget B]

@[simp] lemma accepted_snoc (h : List (CallEvent B F R)) (ev : CallEvent B F R) :
    accepted (h ++ [ev]) = accepted h ++ ev.output.accepted := by
  simp [accepted]

@[simp] lemma settled_snoc (h : List (CallEvent B F R)) (ev : CallEvent B F R) :
    settled (h ++ [ev]) = settled h ++ ev.output.settled := by
  simp [settled]

end

/-- A poisoned epoch stays so, and its lane does not grow. -/
lemma Epoch.Step.poisoned {e e' : Epoch F} {call : Call F R} {r : Response F R}
    (h : Step e call r e')
    (hp : e.poisoned ≠ none) : e'.poisoned ≠ none ∧ (e.lane = [] → e'.lane = []) := by
  cases h with
  | recovered =>
    refine ⟨?_, fun _ => rfl⟩
    cases hq : e.poisoned <;> simp
  | _ => first | exact absurd ‹e.poisoned = none› hp | exact ⟨hp, id⟩

lemma Epoch.Step.recover_empties {e e' : Epoch F} {r : Response F R} (h : Step e .recover r e') :
    e'.poisoned ≠ none ∧ e'.lane = [] := by
  cases h with
  | unavailable names => cases names
  | refused drives => cases drives
  | ignored ignores => cases ignores
  | removed _ _ _ _ removes => cases removes
  | closed _ _ closes => cases closes
  | recovered =>
    refine ⟨?_, rfl⟩
    cases hq : e.poisoned <;> simp

lemma drained_identities (e : Epoch F) : e.drained.identities = e.identities := by
  unfold Epoch.drained
  split <;> rfl

/-- Permits and identities along a step, after the operations `ids` were accepted: what a call
accepts was a permit, and new identities are above all earlier ones. -/
lemma Epoch.Step.identities {ids : List OperationId} {e e' : Epoch F} {call : Call F R}
    {r : Response F R} (hs : Step e call r e')
    (hdistinct : (ids ++ e.permits.map (·.operation)).Nodup)
    (hissued : ∀ id ∈ ids, Issued e.identities.operation id.get) (hw' : e'.Wf) :
    (ids ++ r.accepted ++ e'.permits.map (·.operation)).Nodup ∧
      ∀ id ∈ ids ++ r.accepted, Issued e'.identities.operation id.get := by
  cases hs with
  | @reserved p operation effect _ _ healthy operations effects identity =>
    simp only [Response.accepted, List.append_nil, List.map_append, List.map_cons, List.map_nil]
    refine ⟨?_, fun id hid => (hissued id hid).next operations⟩
    rw [← List.append_assoc, (List.perm_append_singleton _ _).nodup_iff, List.nodup_cons]
    refine ⟨fun hmem => ?_, hdistinct⟩
    rcases List.mem_append.mp hmem with hmem | hmem
    · have := hissued _ hmem operation operations
      rw [identity.1] at this
      exact lt_irrefl _ this
    · have hnd := hw'.operations.of_append_left
      rw [List.map_append, List.nodup_append] at hnd
      exact hnd.2.2 _ hmem _ (List.mem_singleton_self _) rfl
  | @committed p index _ _ healthy live =>
    simp only [Response.accepted]
    have hperm : (ids ++ [p.operation] ++ (e.permits.eraseIdx index).map (·.operation)).Perm
        (ids ++ e.permits.map (·.operation)) := by
      rw [List.append_assoc, List.singleton_append]
      exact ((perm_eraseIdx live).symm.map (·.operation)).append_left _
    refine ⟨hperm.nodup_iff.mpr hdistinct, fun id hid => ?_⟩
    rcases List.mem_append.mp hid with hid | hid
    · exact hissued id hid
    · refine hw'.issued id (List.mem_append_right _ ?_)
      rw [List.mem_singleton.mp hid, List.map_append]
      exact List.mem_append_right _ (List.mem_singleton_self _)
  | dropped =>
    simp only [Response.accepted, List.append_nil]
    exact ⟨hdistinct.sublist ((List.Sublist.refl _).append
      ((List.eraseIdx_sublist _ _).map _)), hissued⟩
  | _ =>
    simp only [Response.accepted, List.append_nil, drained_permits, drained_identities, Epoch.close]
    exact ⟨hdistinct, hissued⟩

omit [ByteBudget B] in
/-- The books along a step. -/
theorem Ledgered.step {h : List (CallEvent B F R)} {ev : CallEvent B F R} {e e' : Epoch F}
    (hl : Ledgered h e) (hw : e.Wf) (hs : Step e ev.input ev.output e')
    (hw' : e'.Wf) : Ledgered (h ++ [ev]) e' := by
  obtain ⟨hdistinct, hissued⟩ := hs.identities hl.distinct hl.issued hw'
  refine ⟨by rw [accepted_snoc]; exact hdistinct, by rw [accepted_snoc]; exact hissued, ?_, ?_⟩
  · rw [accepted_snoc, settled_snoc]
    have hstep := hs.settles hw
    calc accepted h ++ ev.output.accepted
      _ ~ Core.settled h ++ e.owing ++ ev.output.accepted := hl.settled.append_right _
      _ ~ Core.settled h ++ (ev.output.accepted ++ e.owing) := by
        rw [List.append_assoc]
        exact List.perm_append_comm.append_left _
      _ ~ Core.settled h ++ (ev.output.settled ++ e'.owing) := hstep.append_left _
      _ ~ Core.settled h ++ ev.output.settled ++ e'.owing := by rw [List.append_assoc]
  · rintro ⟨v, hv, hin⟩
    rcases List.mem_append.mp hv with hv | hv
    · obtain ⟨hp, hempty⟩ := hl.recovered ⟨v, hv, hin⟩
      exact ⟨(hs.poisoned hp).1, (hs.poisoned hp).2 hempty⟩
    · rw [List.mem_singleton.mp hv] at hin
      rw [hin] at hs
      exact hs.recover_empties

/-- Every run keeps its books. -/
theorem ledgered_run (s : Setup) (calls : List (Call F R)) :
    ∃ e, Holds s.limits (s.final B calls) e ∧ Ledgered (s.history B calls) e := by
  refine s.run_induction (Q := Ledgered) ?_ ?_ calls
  · refine ⟨?_, ?_, ?_, ?_⟩ <;> simp [accepted, settled, Epoch.owing, Epoch.new]
  · intro h w e call e' hw hl hs hw'
    exact hl.step hw.wf hs hw'.wf

/-- **Exactly-once settlement.** An accepted operation is settled at most once over any run, and
exactly once as soon as the epoch is not live or the core has been recovered. -/
theorem settled_exactly_once (s : Setup) (calls : List (Call F R)) (operation : OperationId)
    (haccepted : operation ∈ accepted (s.history B calls)) :
    (settled (s.history B calls)).count operation ≤ 1 ∧
    ((s.final B calls).core.machine.phase ≠ .live →
      (settled (s.history B calls)).count operation = 1) ∧
    (.recover ∈ calls → (settled (s.history B calls)).count operation = 1) := by
  obtain ⟨e, hw, hl⟩ := ledgered_run (B := B) s calls
  have hnodup : (settled (s.history B calls) ++ e.owing).Nodup :=
    hl.settled.nodup_iff.mp hl.distinct.of_append_left
  have hle := List.nodup_iff_count_le_one.mp hnodup.of_append_left operation
  have hempty : e.lane = [] → (settled (s.history B calls)).count operation = 1 := by
    intro hlane
    have hmem : operation ∈ settled (s.history B calls) := by
      have := hl.settled.mem_iff.mp haccepted
      simpa [Epoch.owing, hlane] using this
    have := List.count_pos_iff.mpr hmem
    omega
  refine ⟨hle, fun hphase => hempty (hw.wf.idle ?_), fun hrec => hempty (hl.recovered ?_).2⟩
  · rw [← hw.core.policy.phase]
    exact hphase
  · rw [← s.history_inputs (B := B) calls] at hrec
    exact List.mem_map.mp hrec

/-! ### A small run -/

/-- Frames that show at most their first eight bytes. -/
def FrameView.short : FrameView (List UInt8) where
  bytes frame := frame.take 8
  retainedBytes frame := (frame.take 8).length
  bytes_le frame := (List.length_take_le 8 frame).trans (by decide)

/-- A core with room for two operations. -/
def Setup.sample : Setup where
  limits := ⟨2, 64, 2, 64, ⟨⟨0⟩, ⟨9⟩, by decide⟩, by decide, by decide, by decide⟩
  ledgerId := 0
  epoch := ⟨1⟩
  seeds := ⟨0, 0⟩
  debug := true

/-- Opens admission and commits two frames of two bytes; one byte of the first is offered and
reported, then the operation behind it is cancelled. -/
def sampleCalls : List (Call (List UInt8) Unit) :=
  [.apply (.openAdmission ⟨1⟩), .reserve 0 { deadline := ⟨9⟩, writeRetainedBytes := 8 },
    .reserve 0 { deadline := ⟨9⟩, writeRetainedBytes := 8 }, .commit 0 [1, 2] .short,
    .commit 0 [3, 4] .short, .frontWrite .short 1, .advanceWrite ⟨1⟩ ⟨0⟩ 1,
      .apply (.cancel ⟨1⟩ ⟨1⟩)]

theorem settled_exactly_once_sample :
    ⟨0⟩ ∈ accepted (Setup.sample.history Counted (sampleCalls ++ [.recover])) ∧
    (settled (Setup.sample.history Counted (sampleCalls ++ [.recover]))).count ⟨0⟩ = 1 :=
  ⟨by decide, (settled_exactly_once Setup.sample _ ⟨0⟩ (by decide)).2.2 (by simp)⟩

end Bornera.Core
