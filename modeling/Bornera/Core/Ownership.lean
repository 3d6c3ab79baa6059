import Bornera.Core.Settlement

/-!
# Ownership

The capacity ledger, the writer, the policy and the journal own one set of operations together.
Over every run the ledger counts exactly what permits and records hold; while nothing has broken
a contract, the writer and the held records stay paired; and a run whose caller keeps its side
never poisons the core.
-/

namespace Bornera.Core

open Lib Epoch

variable {B F R : Type} [ByteBudget B]

/-! ### The ledger -/

/-- The counters of a ledger with nothing outstanding. -/
structure ReservationLedger.Empty (l : ReservationLedger) : Prop where
  operations : l.operations = 0
  permits : l.permits = 0
  retainedBytes : l.retainedBytes = 0
  writeFrames : l.writeFrames = 0
  writeRetainedBytes : l.writeRetainedBytes = 0
  keys : l.activeKeys.len = 0 ∧ ∀ key, l.activeKeys.contains key = false

/-- The ledger counts what the permits and the records hold, and its frames' bytes are those of the
writer. -/
structure World.Exact (w : World B F) (limits : ConnectionLimits) : Prop where
  operations : w.core.machine.ledger.operations =
    w.permits.length + w.core.machine.matching.pending.length
  permits : w.core.machine.ledger.permits = w.permits.length
  retainedBytes : w.core.machine.ledger.retainedBytes =
    (w.permits.map fun p => p.reservation.retainedBytes).sum +
      (w.core.machine.matching.pending.map fun r => r.reservation.retainedBytes).sum
  writeFrames : w.core.machine.ledger.writeFrames =
    w.permits.length + w.core.machine.matching.pending.countP OperationRecord.writeHeld
  writeRetainedBytes : w.core.machine.ledger.writeRetainedBytes =
    (w.permits.map fun p => p.reservation.writeRetainedBytes).sum +
      (w.core.writes.frames.map fun f => f.measure.retainedBytes).sum
  keys : ∀ key, w.core.machine.ledger.activeKeys.contains key = true ↔
    key ∈ w.permits.map (·.reservation.matchKey) ++
      w.core.machine.matching.pending.map (·.reservation.matchKey)
  keysLen : w.core.machine.ledger.activeKeys.len = w.core.machine.ledger.operations
  keysDistinct :
    (w.permits.map (·.reservation.matchKey) ++
      w.core.machine.matching.pending.map (·.reservation.matchKey)).Nodup
  keySpace : ∀ key, w.core.machine.ledger.activeKeys.contains key = true →
    limits.matchKeys.Contains key
  operations_le : w.core.machine.ledger.operations ≤ limits.maxOperations
  permits_le : w.core.machine.ledger.permits ≤ limits.maxOperations
  retainedBytes_le : w.core.machine.ledger.retainedBytes ≤ limits.maxRetainedBytes
  writeFrames_le : w.core.machine.ledger.writeFrames ≤ limits.maxWriteFrames
  writeRetainedBytes_le : w.core.machine.ledger.writeRetainedBytes ≤ limits.maxWriteRetainedBytes

variable {limits : ConnectionLimits} {e : Epoch F}

lemma countP_permits (ps : List OperationPermit) (f : Holding → Bool)
    (hf : ∀ p, f (.ofPermit p) = true) :
    (ps.map Holding.ofPermit).countP f = ps.length := by
  rw [List.countP_map]
  exact List.countP_eq_length.mpr fun p _ => hf p

lemma countP_records (lane : List (Item F)) (f : Holding → Bool) :
    (lane.map fun x => Holding.ofRecord x.record).countP f =
      (lane.map Item.record).countP fun r => f (.ofRecord r) := by
  rw [List.countP_map, List.countP_map]
  rfl

lemma holdings_keys (e : Epoch F) : e.holdings.map Holding.key =
    e.permits.map (·.reservation.matchKey) ++
      (e.lane.map Item.record).map (·.reservation.matchKey) := by
  simp only [Epoch.holdings, List.map_append, List.map_map]
  rfl

/-- The ledger of a core in the state of an epoch is exact. -/
theorem Holds.exact {w : World B F} (h : Holds limits w e) : w.Exact limits := by
  have ha := h.core.policy.accounts
  have hlen : e.holdings.length = w.permits.length + w.core.machine.matching.pending.length := by
    simp only [Epoch.holdings, h.core.policy.pending, h.permits, List.length_append,
      List.length_map]
  have hkeys : ∀ key, w.core.machine.ledger.activeKeys.contains key = true ↔
      key ∈ e.holdings.map Holding.key :=
    ha.keys.contains_iff
  refine ⟨?_, ?_, ?_, ?_, ?_, ?_, ?_, ?_, ?_, ?_, ?_, ha.retained_le, ha.frames_le,
    ha.writeRetained_le⟩
  · rw [ha.operations, hlen]
  · have hrecords : (e.lane.map fun x => Holding.ofRecord x.record).countP Holding.permit = 0 := by
      rw [countP_records, List.countP_eq_zero]
      intro r _
      simp [Holding.ofRecord]
    rw [ha.permits, Epoch.holdings, List.countP_append, countP_permits _ _ fun _ =>
      rfl, hrecords, h.permits,
      Nat.add_zero]
  · rw [ha.retained, Epoch.holdings, List.map_append, List.sum_append, h.permits,
      h.core.policy.pending,
      List.map_map, List.map_map, List.map_map]
    rfl
  · rw [ha.frames, Epoch.holdings, List.countP_append, countP_permits _ _ fun _ =>
      rfl, countP_records,
      h.permits, h.core.policy.pending]
    rfl
  · rw [h.core.writeRetained h.wf, h.permits, h.core.writer.frames]
    rfl
  · intro key
    rw [hkeys, holdings_keys, h.permits, h.core.policy.pending]
  · rw [ha.keys.len_eq, List.length_map, ha.operations]
  · have hnodup := ha.keys.nodup
    rw [holdings_keys] at hnodup
    rw [h.permits, h.core.policy.pending]
    exact hnodup
  · intro key hkey
    obtain ⟨x, hx, rfl⟩ := List.mem_map.mp ((hkeys key).mp hkey)
    exact ha.space x hx
  · rw [ha.operations]
    exact ha.operations_le
  · rw [ha.permits]
    exact List.countP_le_length.trans ha.operations_le

/-- An exact ledger is empty once nothing is outstanding. -/
lemma Holds.empty {w : World B F} (h : Holds limits w e) (hpermits : w.permits = [])
    (hrecords : w.core.machine.matching.pending = []) : w.core.machine.ledger.Empty := by
  have hx := h.exact
  have hlane : e.lane = [] := List.map_eq_nil_iff.mp (h.core.policy.pending ▸ hrecords)
  have hframes : w.core.writes.frames = [] := by
    rw [h.core.writer.frames, Epoch.frames, hlane]
    rfl
  refine ⟨?_, ?_, ?_, ?_, ?_, ?_, ?_⟩
  · simpa [hpermits, hrecords] using hx.operations
  · simpa [hpermits] using hx.permits
  · simpa [hpermits, hrecords] using hx.retainedBytes
  · simpa [hpermits, hrecords] using hx.writeFrames
  · simpa [hpermits, hframes] using hx.writeRetainedBytes
  · simpa [hpermits, hrecords, hx.keysLen] using hx.operations
  · intro key
    have := hx.keys key
    simpa [hpermits, hrecords] using this

/-- **The ledger is exact and within its limits** in every reachable state, and empty once no permit
and no record is outstanding, as after a recovery when every permit is gone. -/
theorem ledger_exact (s : Setup) (calls : List (Call F R)) :
    (s.final B calls).Exact s.limits ∧
    ((s.final B calls).permits = [] → (s.final B calls).core.machine.matching.pending = [] →
      (s.final B calls).core.machine.ledger.Empty) ∧
    (.recover ∈ calls → (s.final B calls).permits = [] →
      (s.final B calls).core.machine.ledger.Empty) := by
  obtain ⟨e, hw, hl⟩ := ledgered_run (B := B) s calls
  refine ⟨hw.exact, hw.empty, fun hrec hpermits => hw.empty hpermits ?_⟩
  rw [← s.history_inputs (B := B) calls] at hrec
  rw [hw.core.policy.pending, (hl.recovered (List.mem_map.mp hrec)).2]
  rfl

/-! ### Writer and policy -/

/-- A call that found the core broken. -/
def Response.broken : Response F R → Bool
  | .transition (.error (.invariant _)) => true
  | .offered (.error (.invariant _)) => true
  | _ => false

/-- A held record and its frame. -/
structure Paired (r : OperationRecord) (f : QueuedWrite F) : Prop where
  identity : f.operation = r.id ∧ f.effect = r.effect
  queued : r.phase = .queued ↔ f.started = false
  started : r.phase = .writing ∨ r.phase = .terminal ↔
    f.started = true ∧ 0 < f.written ∧ f.written < f.measure.wireBytes
  bytes : r.reservation.writeRetainedBytes = f.measure.retainedBytes

/-- The writer and the policy in simulation: the held records are a suffix of the pending ones,
paired with the frames in order; those before it wait for their replies; at most the first frame
is started. -/
structure InStep (records : List OperationRecord) (frames : List (QueuedWrite F)) : Prop where
  identities : frames.map (fun f => (f.operation, f.effect)) =
    (records.filter OperationRecord.writeHeld).map fun r => (r.id, r.effect)
  suffix : ∃ before, records = before ++ records.filter OperationRecord.writeHeld ∧
    ∀ r ∈ before, r.completion = .replyExpected ∧ (r.phase = .awaitingReply ∨ r.phase = .terminal)
  first : ∀ f ∈ frames.tail, f.started = false
  paired : List.Forall₂ Paired (records.filter OperationRecord.writeHeld) frames

lemma Item.Sound.paired {x : Item F} {w : QueuedWrite F} (hs : x.Sound) (hb : x.Bound)
    (hw : x.write = some w) : Paired x.record w := by
  refine ⟨⟨hb.operation w hw, hb.effect w hw⟩, ?_, ?_, hb.bytes w hw⟩
  · cases hs with
    | awaiting gone => simp [gone] at hw
    | queued here started phase =>
      rw [hw] at here
      cases here
      simp [started, phase]
    | started here started phase =>
      rw [hw] at here
      cases here
      rcases phase with phase | phase <;> simp [started, phase]
  · cases hs with
    | awaiting gone => simp [gone] at hw
    | queued here started phase =>
      rw [hw] at here
      cases here
      simp [started, phase]
    | started here started phase delivery positive partly =>
      rw [hw] at here
      cases here
      simp [started, phase, positive, partly]

lemma lane_held {lane : List (Item F)} (hb : ∀ x ∈ lane, x.Bound) (hs : ∀ x ∈ lane, x.Sound) :
    List.Forall₂ Paired ((lane.map Item.record).filter OperationRecord.writeHeld)
      (lane.filterMap Item.write) := by
  induction lane with
  | nil => exact .nil
  | cons x xs ih =>
    have hxs := ih (fun y hy => hb y (List.mem_cons_of_mem _ hy)) fun y hy =>
      hs y (List.mem_cons_of_mem _ hy)
    have hheld := (hb x (List.mem_cons_self ..)).held
    cases hw : x.write with
    | none =>
      rw [hw] at hheld
      rw [List.map_cons, List.filter_cons_of_neg (by simp [hheld]), List.filterMap_cons_none hw]
      exact hxs
    | some w =>
      rw [hw] at hheld
      rw [List.map_cons, List.filter_cons_of_pos (by simp [hheld]), List.filterMap_cons_some hw]
      exact .cons ((hs x (List.mem_cons_self ..)).paired (hb x (List.mem_cons_self ..)) hw) hxs

/-- Behind the first held record there are only held ones. -/
lemma lane_suffix {lane : List (Item F)} (hb : ∀ x ∈ lane, x.Bound) (hs : ∀ x ∈ lane, x.Sound)
    (ho : lane.Pairwise Item.Before) :
    ∃ before, lane.map Item.record =
      before ++ (lane.map Item.record).filter OperationRecord.writeHeld ∧
      ∀ r ∈ before, r.completion = .replyExpected ∧
        (r.phase = .awaitingReply ∨ r.phase = .terminal) := by
  induction lane with
  | nil => exact ⟨[], rfl, by simp⟩
  | cons x xs ih =>
    obtain ⟨hx, hxs⟩ := List.pairwise_cons.mp ho
    have hheld := (hb x (List.mem_cons_self ..)).held
    cases hw : x.write with
    | none =>
      obtain ⟨before, heq, hbefore⟩ := ih (fun y hy => hb y (List.mem_cons_of_mem _ hy))
        (fun y hy => hs y (List.mem_cons_of_mem _ hy)) hxs
      rw [hw] at hheld
      refine ⟨x.record :: before, ?_, ?_⟩
      · rw [List.map_cons, List.filter_cons_of_neg (by simp [hheld]), List.cons_append, ← heq]
      · intro r hr
        rcases List.mem_cons.mp hr with rfl | hr
        · cases hs x (List.mem_cons_self ..) with
          | awaiting _ reply phase => exact ⟨reply, phase.imp_right And.left⟩
          | queued here => simp [hw] at here
          | started here => simp [hw] at here
        · exact hbefore r hr
    | some w =>
      refine ⟨[], ?_, by simp⟩
      rw [List.nil_append, List.filter_eq_self.mpr]
      intro r hr
      obtain ⟨y, hy, rfl⟩ := List.mem_map.mp hr
      rw [(hb y hy).held]
      rcases List.mem_cons.mp hy with rfl | hy
      · simp [hw]
      · obtain ⟨v, hv, _⟩ := hx y hy (by simp [hw])
        simp [hv]

lemma lane_first {lane : List (Item F)} (ho : lane.Pairwise Item.Before) :
    ∀ f ∈ (lane.filterMap Item.write).tail, f.started = false := by
  induction lane with
  | nil => simp
  | cons x xs ih =>
    obtain ⟨hx, hxs⟩ := List.pairwise_cons.mp ho
    cases hw : x.write with
    | none =>
      rw [List.filterMap_cons_none hw]
      exact ih hxs
    | some w =>
      rw [List.filterMap_cons_some hw, List.tail_cons]
      intro f hf
      obtain ⟨y, hy, hfy⟩ := List.mem_filterMap.mp hf
      obtain ⟨v, hv, hstarted⟩ := hx y hy (by simp [hw])
      rw [hfy] at hv
      cases hv
      exact hstarted

lemma identities_of_paired {records : List OperationRecord} {frames : List (QueuedWrite F)}
    (h : List.Forall₂ Paired records frames) :
    frames.map (fun f => (f.operation, f.effect)) = records.map fun r => (r.id, r.effect) := by
  induction h with
  | nil => rfl
  | cons hp _ ih => rw [List.map_cons, List.map_cons, ih, hp.identity.1, hp.identity.2]

/-- A step that breaks nothing leaves the epoch healthy or recovered. -/
lemma Epoch.Step.unbroken {e e' : Epoch F} {call : Call F R} {r : Response F R}
    (h : Step e call r e') (hr : r.broken = false)
    (hp : e.poisoned = none ∨ e.poisoned = some .recovered) :
    e'.poisoned = none ∨ e'.poisoned = some .recovered := by
  cases h with
  | overran => cases hr
  | reshaped => cases hr
  | recovered => rcases hp with hp | hp <;> simp [hp]
  | _ => first | exact hp | (rw [drained_poisoned]; exact hp)

theorem unbroken_run (s : Setup) (calls : List (Call F R)) :
    ∃ e, Holds s.limits (s.final B calls) e ∧
      ((∀ ev ∈ s.history B calls, ev.output.broken = false) →
        e.poisoned = none ∨ e.poisoned = some .recovered) := by
  refine s.run_induction
    (Q := fun h e =>
      (∀ ev ∈ h, ev.output.broken = false) → e.poisoned = none ∨
        e.poisoned = some .recovered) ?_ ?_ calls
  · intro _
    exact Or.inl rfl
  · intro h w e call e' _ hq hs _ hall
    refine hs.unbroken (hall _ (List.mem_append_right _ (List.mem_singleton_self _))) (hq ?_)
    exact fun ev hev => hall ev (List.mem_append_left _ hev)

/-- **The writer and the policy stay in simulation** in every state reached without an invariant
failure. -/
theorem writer_in_step (s : Setup) (calls : List (Call F R))
    (hunbroken : ∀ ev ∈ s.history B calls, ev.output.broken = false) :
    InStep (s.final B calls).core.machine.matching.pending
      (s.final B calls).core.writes.frames := by
  obtain ⟨e, hw, hp⟩ := unbroken_run (B := B) s calls
  rw [hw.core.policy.pending, hw.core.writer.frames, Epoch.frames]
  rcases hp hunbroken with hp | hp
  · have hs := hw.wf.sound hp
    have hheld := lane_held hw.wf.bound hs
    exact ⟨identities_of_paired hheld, lane_suffix hw.wf.bound hs (hw.wf.order hp),
      lane_first (hw.wf.order hp),
      hheld⟩
  · rw [hw.wf.recovered hp]
    exact ⟨rfl, ⟨[], rfl, by simp⟩, by simp, .nil⟩

theorem writer_in_step_sample :
    (∀ ev ∈ Setup.sample.history Counted sampleCalls, ev.output.broken = false) ∧
    InStep (Setup.sample.final Counted sampleCalls).core.machine.matching.pending
      (Setup.sample.final Counted sampleCalls).core.writes.frames :=
  ⟨by decide, writer_in_step Setup.sample sampleCalls (by decide)⟩

/-! ### Healthy runs -/

/-- The caller keeps its side in this call: it does not recover, its frames have the lengths they
were committed with, and it reports no more bytes than the front has left. -/
def World.honest (w : World B F) : Call F R → Bool
  | .recover => false
  | .frontWrite view _ =>
    w.core.writes.frames.all fun f => (view.bytes f.frame).length = f.measure.wireBytes
  | .advanceWrite epoch effect written =>
    match w.core.writes.frames with
    | [] => true
    | front :: _ => decide (epoch = w.core.machine.epoch → effect = front.effect →
        written ≤ front.measure.wireBytes - front.written)
  | _ => true

/-- The core just before a call clears its journal. The journal only grows up to there. -/
def ConnectionCore.unsettled (debug : Bool) (c : ConnectionCore B F) : Call F R → ConnectionCore B F
  | .apply input => (drive (R := R) debug (prepareInputJournal input) (·.apply input) c).2
  | .applyReply reply => (drive debug (prepareReplyJournal reply) (·.applyReply reply) c).2
  | .advanceWrite epoch effect written => (progress (R := R) epoch effect written c).2
  | _ => c

/-- The answers of a healthy core: no failure of an invariant, of the latch or of the writer's
admission, and from the writer's progress only the errors that change nothing. -/
def Response.Healthy : Response F R → Prop
  | .transition (.error (.write source)) =>
    (∃ expected received, source = .staleEpoch expected received) ∨
      source = .noPendingWrite ∨ ∃ expected received, source = .outOfOrderEffect expected received
  | .transition (.error _) => False
  | .offered (.error _) => False
  | .committed (.error error) => ∃ kind, error.failure = .policy kind
  | _ => True

/-- A call that leaves everything in order. -/
structure Clean (limits : ConnectionLimits) (debug : Bool) (ev : CallEvent B F R) : Prop where
  answer : ev.output.Healthy
  latch : ev.after.core.poisoned = none
  ledger : ev.after.core.machine.ledger.poisoned = false
  owned : ConnectionCore.verifyOwnership ev.after.core = (.ok (), ev.after.core)
  unarmed : ev.after.core.journal.armed = false
  blank : Blank limits ev.after.core.journal
  room : Kept limits (ev.before.core.unsettled debug ev.input).journal

/-- A step of an honest caller. -/
lemma Epoch.Step.honest {w : World B F} {e' : Epoch F} {call : Call F R} {r : Response F R}
    (h : Step e call r e') (hw : Holds limits w e) (hp : e.poisoned = none)
    (hh : w.honest call = true) :
    e'.poisoned = none ∧ r.Healthy := by
  cases h with
  | commitRefused => exact ⟨hp, _, rfl⟩
  | foreignRefused => exact ⟨hp, _, rfl⟩
  | refused _ poisoned => simp [hp] at poisoned
  | unmoved _ unmoved =>
    refine ⟨hp, ?_⟩
    cases unmoved with
    | stale => exact Or.inl ⟨_, _, rfl⟩
    | idle => exact Or.inr (Or.inl rfl)
    | disordered => exact Or.inr (Or.inr ⟨_, _, rfl⟩)
  | @overran pre post x front n _ hfront excess =>
    have hle := (hw.wf.bound _ hfront.mem).written _ hfront.write
    have hframes : w.core.writes.frames = front :: post.filterMap Item.write := by
      rw [hw.core.writer.frames, Epoch.frames, hfront.lane, frames_mid hfront.write,
        hfront.filterMap_pre,
        List.nil_append]
    simp only [World.honest, hframes, hw.core.policy.epoch, forall_const, decide_eq_true_eq] at hh
    omega
  | offerRefused poisoned => simp [hp] at poisoned
  | @reshaped front rest view violation _ hfront changed =>
    have hmem : front ∈ w.core.writes.frames := by
      rw [hw.core.writer.frames, hfront]
      exact List.mem_cons_self ..
    exact absurd (of_decide_eq_true (List.all_eq_true.mp hh front hmem)) changed
  | recovered => cases hh
  | _ => exact ⟨by first | exact hp | (rw [drained_poisoned]; exact hp), trivial⟩

theorem honest_run (s : Setup) (calls : List (Call F R)) :
    ∃ e, Holds s.limits (s.final B calls) e ∧
      ((∀ ev ∈ s.history B calls, ev.before.honest ev.input = true) → e.poisoned = none) := by
  refine s.run_induction
    (Q := fun h e => (∀ ev ∈ h, ev.before.honest ev.input = true) → e.poisoned = none) ?_ ?_ calls
  · intro _
    rfl
  · intro h w e call e' hw hq hs _ hall
    have hp := hq fun ev hev => hall ev (List.mem_append_left _ hev)
    exact (hs.honest hw hp (hall _ (List.mem_append_right _ (List.mem_singleton_self _)))).1

/-- The journal stays within its slots during a call. -/
lemma Refines.unsettled_kept {c : ConnectionCore B F} (h : Refines limits c e) (hw : e.Wf)
    (hp : e.poisoned = none) (debug : Bool)
    (call : Call F R) : Kept limits (c.unsettled debug call).journal := by
  cases call with
  | apply input =>
    exact h.driven_kept (R := R) hw hp debug (h.prepareInputJournal input)
      (driven_apply h.policy hw hp (h.frames_le hw) input)
  | applyReply reply =>
    exact h.driven_kept hw hp debug (h.prepareReplyJournal reply)
      (driven_applyReply h.policy hw hp (h.frames_le hw) reply)
  | advanceWrite epoch effect written =>
    have hreports := h.reports (R := R) hw hp epoch effect written
    show Kept limits (ConnectionCore.progress (R := R) epoch effect written c).2.journal
    generalize ConnectionCore.progress (R := R) epoch effect written c = result at hreports ⊢
    cases hreports with
    | unmoved => exact h.journal.kept
    | moved _ _ kept => exact kept
    | overran _ kept => exact kept
  | _ => exact h.journal.kept

/-- **Healthy runs never poison.** In a run without recovery whose frames keep their lengths and
whose reports stay within the front, every call leaves everything in order. -/
theorem honest_runs_stay_clean (s : Setup) (calls : List (Call F R))
    (hhonest : ∀ ev ∈ s.history B calls, ev.before.honest ev.input = true) :
    ∀ ev ∈ s.history B calls, Clean s.limits s.debug ev := by
  intro ev hev
  obtain ⟨pre, post, hsplit⟩ := List.append_of_mem hev
  obtain ⟨e, e', hw, hq, hs, hw', _⟩ := s.at_event
    (Q := fun h e => (∀ ev ∈ h, ev.before.honest ev.input = true) → e.poisoned = none)
      (honest_run s) hsplit
  have hp : e.poisoned = none := by
    refine hq fun v hv => hhonest v ?_
    rw [hsplit]
    exact List.mem_append_left _ hv
  obtain ⟨hp', hanswer⟩ := hs.honest hw hp (hhonest ev hev)
  exact ⟨hanswer, hw'.core.poisoned.trans hp', hw'.core.policy.accounts.sound,
    hw'.core.verifyOwnership hw'.wf,
    hw'.core.unarmed hp', hw'.core.journal, hw.core.unsettled_kept hw.wf hp s.debug ev.input⟩

theorem honest_runs_stay_clean_sample :
    (∀ ev ∈ Setup.sample.history Counted sampleCalls, ev.before.honest ev.input = true) ∧
    ∀ ev ∈ Setup.sample.history Counted sampleCalls,
      Clean Setup.sample.limits Setup.sample.debug ev :=
  ⟨by decide, honest_runs_stay_clean Setup.sample sampleCalls (by decide)⟩

end Bornera.Core
