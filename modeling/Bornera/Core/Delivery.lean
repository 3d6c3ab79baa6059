import Bornera.Core.Settlement

/-!
# Delivery certainty

An operation is touched when a report of written bytes names the current epoch and the effect of
its frame, while that frame is at the front of the writer and the core is healthy. Along every run
an operation of the lane is possibly sent exactly when it has been touched, so what a call reports
about a delivery is exact.
-/

namespace Bornera.Core

open Lib Epoch

variable {B F R : Type} [ByteBudget B]

/-! ### Reports and touches -/

/-- What an outcome says about the delivery; a reply says nothing. -/
def OperationOutcome.delivery : OperationOutcome R → Option Delivery
  | .reply _ => none
  | .writeComplete delivery => some delivery
  | .failed _ delivery => some delivery
  | .cancelled delivery => some delivery

/-- The deliveries the effects report. -/
def reports (effects : List (ConnectionEffect R)) : List (OperationId × Delivery) :=
  effects.filterMap fun
    | .publishOutcome _ operation outcome => outcome.delivery.map (operation, ·)
    | _ => none

/-- The deliveries a call reports: in the outcomes it publishes, and for the
operations it recovers. -/
def Response.reports : Response F R → List (OperationId × Delivery)
  | .committed (.ok (_, t)) => Core.reports t.effects
  | .transition (.ok t) => Core.reports t.effects
  | .recovered recovery => recovery.operations.map fun o => (o.operation, o.delivery)
  | _ => []

/-- The call reports bytes of an operation: the core is not poisoned, and the call names its epoch
and the effect of the front frame, which is the operation's, with a positive count. -/
def World.Touches (w : World B F) (call : Call F R) (operation : OperationId) : Prop :=
  w.core.poisoned = none ∧ ∃ front rest written, w.core.writes.frames = front :: rest ∧
    front.operation = operation ∧
      call = .advanceWrite w.core.machine.epoch front.effect written ∧ 0 < written

/-- Some call of the history reported bytes of the operation. -/
def Touched (h : List (CallEvent B F R)) (operation : OperationId) : Prop :=
  ∃ ev ∈ h, ev.before.Touches ev.input operation

/-- `World.Touches`, said of an epoch. -/
def Epoch.Touches (e : Epoch F) (call : Call F R) (operation : OperationId) : Prop :=
  e.poisoned = none ∧ ∃ front rest written, e.frames = front :: rest ∧ front.operation = operation ∧
    call = .advanceWrite e.epoch front.effect written ∧ 0 < written

variable {limits : ConnectionLimits} {e e' : Epoch F} {call : Call F R} {r : Response F R}

lemma Holds.touches_iff {w : World B F} (h : Holds limits w e) (operation : OperationId) :
    w.Touches call operation ↔ e.Touches call operation := by
  unfold World.Touches Epoch.Touches
  rw [h.core.poisoned, h.core.writer.frames, h.core.policy.epoch]

omit [ByteBudget B] in
lemma touched_snoc (h : List (CallEvent B F R)) (ev : CallEvent B F R) (operation : OperationId) :
    Touched (h ++ [ev]) operation ↔ Touched h operation ∨ ev.before.Touches ev.input operation := by
  simp only [Touched, List.mem_append, List.mem_singleton, or_and_right, exists_or, exists_eq_left]

lemma not_touches (hc : ∀ epoch effect written, call ≠ .advanceWrite epoch effect written)
    (operation : OperationId) : ¬e.Touches call operation := by
  rintro ⟨_, _, _, _, _, _, heq, _⟩
  exact hc _ _ _ heq

lemma Epoch.Unmoved.not_touches {epoch : ConnectionEpoch} {effect : EffectId}
    {source : WriteProgressError} (h : Unmoved e epoch effect source) (n : ℕ)
    (operation : OperationId) :
    ¬e.Touches (.advanceWrite epoch effect n : Call F R) operation := by
  rintro ⟨_, front, rest, m, hfront, _, heq, _⟩
  cases heq
  cases h with
  | stale other => exact other rfl
  | idle _ empty => simp [empty] at hfront
  | disordered _ front' other =>
    rw [hfront] at front'
    cases front'
    exact other rfl

lemma Epoch.AtFront.frames_eq {pre post : List (Item F)} {x : Item F} {w : QueuedWrite F}
    (h : e.AtFront pre x w post) : e.frames = w :: post.filterMap Item.write := by
  rw [frames, h.lane, List.filterMap_append, h.filterMap_pre, List.filterMap_cons_some h.write,
    List.nil_append]

/-- A report on the front touches the operation of the front and no other. -/
lemma Epoch.AtFront.touches_iff {pre post : List (Item F)} {x : Item F} {w : QueuedWrite F} {n : ℕ}
    (h : e.AtFront pre x w post) (hw : e.Wf) (hp : e.poisoned = none) (operation : OperationId) :
    e.Touches (.advanceWrite e.epoch w.effect n : Call F R) operation ↔
      x.id = operation ∧ 0 < n := by
  have hid : w.operation = x.id := (hw.bound x h.mem).operation w h.write
  unfold Epoch.Touches
  rw [h.frames_eq]
  constructor
  · rintro ⟨_, front, rest, m, hf, rfl, heq, hm⟩
    cases hf
    cases heq
    exact ⟨hid.symm, hm⟩
  · rintro ⟨rfl, hn⟩
    exact ⟨hp, w, _, n, rfl, hid, rfl, hn⟩

/-! ### Items -/

/-- Policy and writer agree about the delivery of a sound item. -/
lemma Item.Sound.delivery_eq {x : Item F} (h : x.Sound) : x.delivery = x.record.delivery := by
  unfold Item.delivery
  cases h with
  | awaiting gone => rw [gone]
  | queued here started _ delivery =>
    rw [here, delivery]
    simp [QueuedWrite.delivery, started, weaken]
  | started here _ _ delivery =>
    rw [here, delivery]
    rfl

lemma Item.reported_sent {x : Item F} {w : QueuedWrite F} {n : ℕ} (h : x.Sound)
    (hw : x.write = some w) :
    (x.reported w n).delivery = .possiblySent ↔ x.delivery = .possiblySent ∨ 0 < n := by
  rw [h.delivery_eq, Item.reported_delivery h hw]
  cases h with
  | awaiting gone => simp [gone] at hw
  | queued here started _ delivery =>
    rw [hw] at here
    cases here
    simp [started, delivery]
  | started here started _ delivery =>
    rw [hw] at here
    cases here
    simp [started, delivery]

lemma Item.overrun_sent {x : Item F} {w : QueuedWrite F} :
    (x.overrun w).delivery = .possiblySent := by
  unfold Item.overrun Item.delivery QueuedWrite.delivery
  cases x.record.delivery <;> rfl

/-! ### Steps -/

/-- An item after a step, against the item of the same operation before it. -/
def Traces (e : Epoch F) (call : Call F R) (y : Item F) : Prop :=
  (∃ x ∈ e.lane, x.id = y.id ∧
    (y.delivery = .possiblySent ↔ x.delivery = .possiblySent ∨ e.Touches call y.id)) ∨
  ∃ p ∈ e.permits, p.operation = y.id ∧ y.delivery = .notSent ∧ ¬e.Touches call y.id

lemma traces_old {y : Item F} (hy : y ∈ e.lane) (hn : ¬e.Touches call y.id) : Traces e call y :=
  Or.inl ⟨y, hy, rfl, by simp [hn]⟩

/-- A report on the front leaves the other items as they are. -/
lemma traces_other {pre post : List (Item F)} {x y : Item F} {w : QueuedWrite F} {n : ℕ} (hw : e.Wf)
    (hp : e.poisoned = none) (h : e.AtFront pre x w post) (hy : y ∈ pre ++ post) :
    Traces e (.advanceWrite e.epoch w.effect n : Call F R) y := by
  have hids : (e.lane.map Item.id).Nodup := hw.operations.of_append_right
  rw [h.lane, (List.perm_middle.map Item.id).nodup_iff, List.map_cons, List.nodup_cons] at hids
  refine traces_old (by rw [h.lane]; exact (sublist_remove _ _ _).subset hy) ?_
  rw [h.touches_iff hw hp]
  rintro ⟨heq, _⟩
  exact hids.1 (heq ▸ List.mem_map_of_mem hy)

/-- A report on the front replaces the front item. -/
lemma traces_front {pre post : List (Item F)} {x y z : Item F} {w : QueuedWrite F} {n : ℕ}
    (hw : e.Wf) (hp : e.poisoned = none) (h : e.AtFront pre x w post) (hid : y.id = x.id)
    (hy : y.delivery = .possiblySent ↔ x.delivery = .possiblySent ∨ 0 < n)
    (hz : z ∈ pre ++ y :: post) :
    Traces e (.advanceWrite e.epoch w.effect n : Call F R) z := by
  rcases List.mem_cons.mp (List.perm_middle.mem_iff.mp hz) with rfl | hmem
  · refine Or.inl ⟨x, h.mem, hid.symm, ?_⟩
    rw [hy, h.touches_iff hw hp, hid]
    simp
  · exact traces_other hw hp h hmem

lemma mem_drained {y : Item F} (h : y ∈ e.drained.lane) : y ∈ e.lane := by
  unfold Epoch.drained at h
  split at h
  · simp [Epoch.close] at h
  · exact h

/-- What a step makes of the deliveries in the lane. -/
lemma Epoch.Step.traces (h : Step e call r e') (hw : e.Wf) : ∀ y ∈ e'.lane, Traces e call y := by
  intro y hy
  cases h with
  | unavailable names => exact traces_old hy (not_touches (by cases names <;> simp) _)
  | committed healthy live =>
    rcases List.mem_append.mp hy with hy | hy
    · exact traces_old hy (not_touches (by simp) _)
    · rw [List.mem_singleton.mp hy]
      exact Or.inr ⟨_, List.mem_of_getElem? live, rfl, rfl, not_touches (by simp) _⟩
  | refused _ poisoned =>
    refine traces_old hy fun ht => ?_
    simp [ht.1] at poisoned
  | ignored ignores => exact traces_old hy (not_touches (by cases ignores <;> simp) _)
  | removed _ lane _ _ removes =>
    refine traces_old ?_ (not_touches (by cases removes <;> simp) _)
    rw [lane]
    exact (sublist_remove _ _ _).subset (mem_drained hy)
  | @buried pre post x healthy lane =>
    have hnot : ∀ operation, ¬e.Touches (.apply (.cancel e.epoch x.id) : Call F R) operation :=
      not_touches (by simp)
    rcases List.mem_cons.mp (List.perm_middle.mem_iff.mp hy) with rfl | hmem
    · exact Or.inl ⟨x, by rw [lane]; simp, rfl, by simp only [hnot, or_false]; rfl⟩
    · exact traces_old (by rw [lane]; exact (sublist_remove _ _ _).subset hmem) (hnot _)
  | closed => simp [Epoch.close] at hy
  | draining =>
    exact traces_old (mem_drained (e := { e with gate := .draining }) hy) (not_touches (by simp) _)
  | replied _ _ front =>
    refine traces_old ?_ (not_touches (by simp) _)
    rw [front]
    exact List.mem_cons_of_mem _ (mem_drained hy)
  | unmoved _ unmoved n => exact traces_old hy (unmoved.not_touches n _)
  | progressed healthy front unfinished =>
    have hs := hw.sound healthy _ front.mem
    refine traces_front hw healthy front Item.progress_id ?_ hy
    rw [(Item.progress_sound hs front.write unfinished).delivery_eq]
    exact Item.reported_sent hs front.write
  | finished healthy front =>
    have hs := hw.sound healthy _ front.mem
    exact traces_front hw healthy front Item.finish_id (Item.reported_sent hs front.write) hy
  | completed healthy front => exact traces_other hw healthy front (mem_drained hy)
  | @overran pre post x w n healthy front excess =>
    have hle := (hw.bound _ front.mem).written _ front.write
    refine traces_front (y := x.overrun w) hw healthy front rfl ?_ hy
    simp only [Item.overrun_sent, true_iff]
    right
    omega
  | recovered => simp at hy
  | _ => exact traces_old hy (not_touches (by simp) _)

@[simp] lemma reports_append (xs ys : List (ConnectionEffect R)) :
    reports (xs ++ ys) = reports xs ++ reports ys :=
  List.filterMap_append

@[simp] lemma reports_drain (e : Epoch F) :
    reports (e.drainEffects : List (ConnectionEffect R)) = [] := by
  unfold Epoch.drainEffects
  split <;> rfl

@[simp] lemma reports_cancelDeadline (epoch : ConnectionEpoch) (operation : OperationId)
    (effects : List (ConnectionEffect R)) :
    reports (.cancelDeadline epoch operation :: effects) = reports effects := rfl

lemma mem_reports_publish {x : Item F} {epoch : ConnectionEpoch} {outcome : OperationOutcome R}
    {operation : OperationId} {d : Delivery}
    (h : (operation, d) ∈ reports (x.publish epoch outcome)) :
    x.id = operation ∧ outcome.delivery = some d := by
  unfold Item.publish at h
  split at h
  · simpa [reports, and_comm] using h
  · simp [reports] at h

lemma mem_reports_closing {reason : CloseReason} {failure : Option (OperationId × OperationFailure)}
    {operation : OperationId} {d : Delivery}
    (h : (operation, d) ∈ reports (e.closing reason failure : List (ConnectionEffect R))) :
    ∃ x ∈ e.lane, x.id = operation ∧ x.record.delivery = d := by
  obtain ⟨effect, heffect, hd⟩ := List.mem_filterMap.mp h
  rcases List.mem_cons.mp heffect with rfl | heffect
  · simp at hd
  · obtain ⟨x, hx, hmem⟩ := List.mem_flatMap.mp heffect
    have hreport : (operation, d) ∈
        reports (x.farewell e.epoch reason failure : List (ConnectionEffect R)) :=
      List.mem_filterMap.mpr ⟨effect, hmem, hd⟩
    obtain ⟨hid, hout⟩ := mem_reports_publish hreport
    exact ⟨x, hx, hid, Option.some.inj hout⟩

/-- What a step reports is the delivery of an item of the lane, with what the call itself adds. -/
lemma Epoch.Step.reports (h : Step e call r e') (hw : e.Wf) {operation : OperationId} {d : Delivery}
    (hmem : (operation, d) ∈ r.reports) :
    ∃ x ∈ e.lane, x.id = operation ∧
      (d = .possiblySent ↔ x.delivery = .possiblySent ∨ e.Touches call operation) := by
  cases h with
  | ignored _ _ _ quiet => simp [Response.reports, quiet, Core.reports] at hmem
  | @removed _ pre post x outcome _ healthy lane owed unsent removes =>
    have hx : x ∈ e.lane := by rw [lane]; simp
    have hnot : ¬e.Touches call operation := not_touches (by cases removes <;> simp) _
    have hd : x.delivery = .notSent := ((hw.sound healthy x hx).delivery_eq).trans unsent
    simp only [Response.reports, reports_append, reports_drain, reports_cancelDeadline,
      List.append_nil] at hmem
    refine ⟨x, hx, ?_⟩
    cases removes <;> simp_all [Core.reports, OperationOutcome.delivery]
  | @buried pre post x healthy lane owed sent =>
    have hx : x ∈ e.lane := by rw [lane]; simp
    have hd : x.delivery = .possiblySent := ((hw.sound healthy x hx).delivery_eq).trans sent
    simp only [Response.reports, Core.reports, List.filterMap_cons, List.filterMap_nil,
      OperationOutcome.delivery, Option.map_some, List.mem_singleton, Prod.mk.injEq] at hmem
    exact ⟨x, hx, hmem.1.symm, by simp [hmem.2, hd]⟩
  | closed healthy _ closes =>
    obtain ⟨x, hx, hid, hd⟩ := mem_reports_closing hmem
    have hnot : ¬e.Touches call operation := not_touches (by cases closes <;> simp) _
    exact ⟨x, hx, hid, by rw [(hw.sound healthy x hx).delivery_eq, hd]; simp [hnot]⟩
  | draining => simp [Response.reports] at hmem
  | replied =>
    simp only [Response.reports, reports_append, reports_drain, reports_cancelDeadline,
      List.append_nil,
      List.cons_append] at hmem
    simpa [OperationOutcome.delivery] using (mem_reports_publish hmem).2
  | @completed pre post x w n healthy front =>
    simp only [Response.reports, reports_append, reports_drain, reports_cancelDeadline,
      List.append_nil,
      List.cons_append] at hmem
    obtain ⟨hid, hd⟩ := mem_reports_publish hmem
    have hd : (x.reported w n).delivery = d := Option.some.inj hd
    refine ⟨x, front.mem, hid, ?_⟩
    rw [← hd, Item.reported_sent (hw.sound healthy x front.mem) front.write,
      front.touches_iff hw healthy]
    simp [hid]
  | recovered =>
    simp only [Response.reports, List.map_map, List.mem_map, Function.comp, Prod.mk.injEq] at hmem
    obtain ⟨x, hx, hid, hd⟩ := hmem
    have hnot : ¬e.Touches (.recover : Call F R) operation := not_touches (by simp) _
    exact ⟨x, List.mem_of_mem_filter hx, hid, by rw [← hd]; simp [hnot, Item.recovered]⟩
  | _ => simp [Response.reports, Core.reports] at hmem

/-! ### Runs -/

/-- What a history has touched, against the epoch it ends in. -/
structure Told (h : List (CallEvent B F R)) (e : Epoch F) : Prop where
  lane : ∀ x ∈ e.lane, (x.delivery = .possiblySent ↔ Touched h x.id)
  permits : ∀ p ∈ e.permits, ¬Touched h p.operation
  issued : ∀ operation, Touched h operation → Issued e.identities.operation operation.get

/-- A touched operation is in the lane. -/
lemma Epoch.Touches.mem {operation : OperationId} (ht : e.Touches call operation) (hw : e.Wf) :
    operation ∈ e.lane.map Item.id := by
  obtain ⟨_, front, rest, _, hf, rfl, _, _⟩ := ht
  have hmem : front ∈ e.frames := by rw [hf]; exact List.mem_cons_self ..
  obtain ⟨x, hx, hwrite⟩ := List.mem_filterMap.mp hmem
  exact List.mem_map.mpr ⟨x, hx, ((hw.bound x hx).operation front hwrite).symm⟩

/-- New permits name new operations and effects. -/
lemma Epoch.Step.permits_new (h : Step e call r e') {p : OperationPermit} (hp : p ∈ e'.permits) :
    p ∈ e.permits ∨
      ¬Issued e.identities.operation p.operation.get ∧
        ¬Issued e.identities.effect p.effect.get := by
  cases h with
  | @reserved q operation effect _ _ _ operations effects identity =>
    rcases List.mem_append.mp hp with hp | hp
    · exact Or.inl hp
    · rw [List.mem_singleton.mp hp, identity.1, identity.2]
      exact Or.inr ⟨fun hi => lt_irrefl _ (hi operation operations), fun hi =>
        lt_irrefl _ (hi effect effects)⟩
  | committed => exact Or.inl (List.mem_of_mem_eraseIdx hp)
  | dropped => exact Or.inl (List.mem_of_mem_eraseIdx hp)
  | _ => exact Or.inl (by first | exact hp | rwa [drained_permits] at hp)

lemma Epoch.Step.issued_mono (h : Step e call r e') {n : ℕ} (hn : Issued e.identities.operation n) :
    Issued e'.identities.operation n := by
  cases h with
  | reserved _ operations => exact hn.next operations
  | _ => first | exact hn | exact (drained_identities _).symm ▸ hn

/-- **Delivery along a step.** -/
theorem Told.step {h : List (CallEvent B F R)} {ev : CallEvent B F R} (ht : Told h e)
    (hb : Holds limits ev.before e) (hs : Step e ev.input ev.output e') : Told (h ++ [ev]) e' := by
  have hw := hb.wf
  have hpermit : ∀ p ∈ e.permits, ¬e.Touches ev.input p.operation := by
    intro p hp htouch
    exact (List.nodup_append.mp hw.operations).2.2 _ (List.mem_map_of_mem hp) _ (htouch.mem hw) rfl
  have hissued : ∀ operation, e.Touches ev.input operation →
      Issued e.identities.operation operation.get :=
    fun operation htouch => hw.issued operation (List.mem_append_right _ (htouch.mem hw))
  refine ⟨?_, ?_, ?_⟩
  · intro y hy
    rw [touched_snoc, hb.touches_iff]
    rcases hs.traces hw y hy with ⟨x, hx, hid, hiff⟩ | ⟨p, hp, hid, hd, hnot⟩
    · rw [hiff, ht.lane x hx, hid]
    · have hold := ht.permits p hp
      rw [hid] at hold
      simp [hd, hold, hnot]
  · intro p hp
    rw [touched_snoc, hb.touches_iff]
    rcases hs.permits_new hp with hp | ⟨hnew, _⟩
    · exact not_or.mpr ⟨ht.permits p hp, hpermit p hp⟩
    · exact not_or.mpr ⟨fun hold => hnew (ht.issued _ hold), fun htouch => hnew (hissued _ htouch)⟩
  · intro operation htouched
    rw [touched_snoc, hb.touches_iff] at htouched
    exact hs.issued_mono (htouched.elim (ht.issued operation) (hissued operation))

theorem told_run (s : Setup) (calls : List (Call F R)) :
    ∃ e, Holds s.limits (s.final B calls) e ∧ Told (s.history B calls) e := by
  refine s.run_induction (Q := Told) ?_ ?_ calls
  · refine ⟨?_, ?_, ?_⟩ <;> simp [Epoch.new, Touched]
  · intro h w e call e' hw ht hs _
    exact Told.step ht hw hs

/-- An item with an empty frame is unsent: its frame is never partly gone. -/
lemma Item.Sound.unsent_of_empty {x : Item F} {w : QueuedWrite F} (h : x.Sound)
    (hw : x.write = some w) (hempty : w.measure.wireBytes = 0) : x.delivery = .notSent := by
  rw [h.delivery_eq]
  cases h with
  | awaiting gone => simp [gone] at hw
  | queued _ _ _ delivery => exact delivery
  | started here _ _ _ _ partly =>
    rw [hw] at here
    cases here
    omega

/-- The item at the front is the one of the front frame's operation. -/
lemma Epoch.Wf.front_item (hw : e.Wf) {x : Item F} {front : QueuedWrite F}
    {rest : List (QueuedWrite F)} (hf : e.frames = front :: rest) (hx : x ∈ e.lane)
    (hid : front.operation = x.id) :
    x.write = some front := by
  have hmem : front ∈ e.frames := by rw [hf]; exact List.mem_cons_self ..
  obtain ⟨y, hy, hwrite⟩ := List.mem_filterMap.mp hmem
  have hyid : y.id = x.id := ((hw.bound y hy).operation front hwrite).symm.trans hid
  have hids : (e.lane.map Item.id).Nodup := hw.operations.of_append_right
  rw [← List.inj_on_of_nodup_map hids hy hx hyid]
  exact hwrite

lemma Epoch.Step.reports_healthy (h : Step e call r e') (hc : call ≠ .recover)
    {report : OperationId × Delivery} (hr : report ∈ r.reports) : e.poisoned = none := by
  cases h with
  | recovered => exact absurd rfl hc
  | _ => first | assumption | simp [Response.reports] at hr

/-- **Delivery certainty is exact.** What a call of a run reports about a delivery is `possiblySent`
exactly when the run, up to and including this call, has touched the operation; so it is `notSent`
for an empty frame that a report of no bytes completes. -/
theorem delivery_exact (s : Setup) (calls : List (Call F R)) (pre post : List (CallEvent B F R))
    (ev : CallEvent B F R) (hev : s.history B calls = pre ++ ev :: post) (operation : OperationId)
    (delivery : Delivery) (hreport : (operation, delivery) ∈ ev.output.reports) :
    (delivery = .possiblySent ↔ Touched (pre ++ [ev]) operation) ∧
    (delivery = .notSent ↔ ¬Touched (pre ++ [ev]) operation) ∧
    ∀ epoch front rest, ev.before.core.writes.frames = front :: rest → front.operation = operation →
      front.measure.wireBytes = 0 → ev.input = .advanceWrite epoch front.effect 0 →
        delivery = .notSent := by
  obtain ⟨e, e', hw, ht, hs, _, _⟩ := s.at_event (told_run s) hev
  obtain ⟨x, hx, rfl, hiff⟩ := hs.reports hw.wf hreport
  have hexact : delivery = .possiblySent ↔ Touched (pre ++ [ev]) x.id := by
    rw [hiff, touched_snoc, hw.touches_iff, ht.lane x hx]
  refine ⟨hexact, ?_, ?_⟩
  · rw [← hexact]
    cases delivery <;> simp
  · intro epoch front rest hfront hid hempty hinput
    have hp : e.poisoned = none := hs.reports_healthy (by simp [hinput]) hreport
    have hfront' : e.frames = front :: rest := hw.core.writer.frames ▸ hfront
    have hunsent := (hw.wf.sound hp x hx).unsent_of_empty (hw.wf.front_item hfront' hx hid) hempty
    have hnot : ¬e.Touches ev.input x.id := by
      rintro ⟨_, _, _, n, _, _, hcall, hn⟩
      simp only [hinput, Call.advanceWrite.injEq] at hcall
      omega
    cases delivery with
    | notSent => rfl
    | possiblySent => simp [hunsent, hnot] at hiff

theorem delivery_exact_cancelled :
    let calls : List (Call (List UInt8) Unit) := sampleCalls ++ [.apply (.cancel ⟨1⟩ ⟨0⟩)]
    ∃ pre ev post, Setup.sample.history Counted calls = pre ++ ev :: post ∧
      (⟨0⟩, .possiblySent) ∈ ev.output.reports ∧ Touched (pre ++ [ev]) ⟨0⟩ := by
  have hev : Setup.sample.history Counted (sampleCalls ++ [.apply (.cancel ⟨1⟩ ⟨0⟩)]) = _ ++ [_] :=
    Transducer.history_snoc _ _ _
  exact ⟨_, _, _, hev, by decide,
    (delivery_exact Setup.sample _ _ _ _ hev ⟨0⟩ .possiblySent (by decide)).1.mp rfl⟩

end Bornera.Core
