import Bornera.Core.Delivery
import Bornera.Core.Lifecycle

/-!
# Replies

A reply goes to the front of the lane or closes the epoch. The lane keeps commit order, and in a
live epoch an operation of which bytes were written and which waits for a reply leaves it only
through a reply. So no reply overtakes, and a key in use is not issued again.
-/

namespace Bornera.Core

open Lib Lib.Lookup Epoch

variable {B F R : Type} [ByteBudget B]

/-! ### What runs show -/

/-- The replies among the outcomes of the effects. -/
def replies (effects : List (ConnectionEffect R)) : List (OperationId × R) :=
  effects.filterMap fun
    | .publishOutcome _ operation (.reply frame) => some (operation, frame)
    | _ => none

/-- The permit a call commits, among those its caller holds. -/
def commitFrom (permits : List OperationPermit) : Response F R → Call F R → Option OperationPermit
  | .committed (.ok _), .commit index _ _ => permits[index]?
  | _, _ => none

/-- The permit a call committed. -/
def commitOf (ev : CallEvent B F R) : Option OperationPermit :=
  commitFrom ev.before.permits ev.output ev.input

/-- The permits committed over a history, in commit order. -/
def commits (h : List (CallEvent B F R)) : List OperationPermit := h.filterMap commitOf

/-- The call applied a reply to an operation: it was the front of wire order. Its observer gets the
reply, unless it left before. -/
def Consumes (ev : CallEvent B F R) (operation : OperationId) : Prop :=
  ∃ reply t r rest, ev.input = .applyReply reply ∧ ev.output = .transition (.ok t) ∧
    t.disposition = .applied ∧
    ev.before.core.machine.matching.pending = r :: rest ∧ r.id = operation ∧
      r.reservation.matchKey = reply.key

/-- A call of the history reported the last bytes of the operation's frame. -/
def Finished (h : List (CallEvent B F R)) (operation : OperationId) : Prop :=
  ∃ ev ∈ h, ∃ front rest written, ev.before.core.poisoned = none ∧
    ev.before.core.writes.frames = front :: rest ∧
    front.operation = operation ∧
      ev.input = .advanceWrite ev.before.core.machine.epoch front.effect written ∧
    front.written + written = front.measure.wireBytes

/-- What a run shows about replies in one of its calls, after the history `pre`. -/
structure Attributes (pre : List (CallEvent B F R)) (ev : CallEvent B F R) : Prop where
  /-- A published reply goes to the front of wire order, whose key it carries and whose whole frame
  has left the writer. -/
  published : ∀ operation frame, (operation, frame) ∈ replies ev.output.effects →
    ∃ reply r rest, ev.input = .applyReply reply ∧ reply.epoch = ev.before.core.machine.epoch ∧
      reply.frame = frame ∧ ev.before.core.machine.matching.pending = r :: rest ∧ r.id = operation ∧
      r.reservation.matchKey = reply.key ∧ Finished pre operation ∧
      ∀ f ∈ ev.before.core.writes.frames, f.operation ≠ operation
  /-- It overtakes nothing. -/
  ordered : ∀ operation frame, (operation, frame) ∈ replies ev.output.effects →
    (∃ p ∈ commits pre, p.operation = operation) ∧
    ∀ p p', [p', p].Sublist (commits pre) → p.operation = operation →
      p'.completion = .replyExpected →
      Touched pre p'.operation → ∃ ev' ∈ pre, Consumes ev' p'.operation
  /-- Any other reply closes the epoch. -/
  fault : ∀ reply, ev.input = .applyReply reply → ev.before.core.poisoned = none →
    reply.epoch = ev.before.core.machine.epoch → ev.before.core.machine.phase = .live →
    (∀ r rest, ev.before.core.machine.matching.pending = r :: rest →
      r.writeHeld = true ∨ reply.key ≠ r.reservation.matchKey) →
    ∃ t, ev.output = .transition (.ok t) ∧ t.disposition = .fault ∧ replies t.effects = [] ∧
      ev.after.core.machine.phase = .closing
  /-- A key is not issued while an operation that may have been sent waits for a reply with it. -/
  fresh : ∀ p, ev.output = .reserved (.ok p) → ∀ p' ∈ commits pre, p'.completion = .replyExpected →
    p'.reservation.matchKey = p.reservation.matchKey → Touched pre p'.operation →
    ∃ ev' ∈ pre, Consumes ev' p'.operation

/-! ### Steps -/

/-- What an operation keeps from its permit. -/
def Item.signature (x : Item F) : OperationId × MatchKey × CompletionMode :=
  (x.id, x.key, x.record.completion)

def OperationPermit.signature (p : OperationPermit) : OperationId × MatchKey × CompletionMode :=
  (p.operation, p.reservation.matchKey, p.completion)

variable {limits : ConnectionLimits} {e e' : Epoch F} {call : Call F R} {r : Response F R}

lemma Item.reported_signature {x : Item F} {w : QueuedWrite F} {n : ℕ} :
    ((x.reported w n).id, (x.reported w n).reservation.matchKey, (x.reported w n).completion) =
      x.signature := by
  rw [Item.reported_id, Item.reported_reservation, Item.reported_completion]
  rfl

lemma Item.progress_signature {x : Item F} {w : QueuedWrite F} {n : ℕ} :
    (x.progress w n).signature = x.signature :=
  Item.reported_signature

lemma Item.finish_signature {x : Item F} {w : QueuedWrite F} {n : ℕ} :
    (x.finish w n).signature = x.signature :=
  Item.reported_signature

lemma drained_sublist (e : Epoch F) : e.drained.lane.Sublist e.lane := by
  unfold Epoch.drained
  split
  · exact List.nil_sublist _
  · exact List.Sublist.refl _

lemma signatures_replace {pre post : List (Item F)} {x y : Item F} (hl : e.lane = pre ++ x :: post)
    (hy : y.signature = x.signature) :
    ((pre ++ y :: post).map Item.signature).Sublist (e.lane.map Item.signature) := by
  rw [hl, List.map_append, List.map_append, List.map_cons, List.map_cons, hy]

lemma Epoch.Step.accepted (h : Step e call r e') :
    r.accepted = (commitFrom e.permits r call).toList.map OperationPermit.operation := by
  cases h with
  | committed _ live => simp [Response.accepted, commitFrom, live]
  | _ => rfl

lemma Epoch.Step.committed_mem (h : Step e call r e') {p : OperationPermit}
    (hp : commitFrom e.permits r call = some p) :
    p.operation ∈ e'.lane.map Item.id := by
  cases h with
  | committed _ live =>
    simp only [commitFrom, live, Option.some.injEq] at hp
    rw [hp, List.map_append]
    exact List.mem_append_right _ (List.mem_singleton_self _)
  | _ => cases hp

/-- The lane keeps its order: a step appends what it commits, and may remove. -/
lemma Epoch.Step.signatures (h : Step e call r e') :
    (e'.lane.map Item.signature).Sublist
      (e.lane.map Item.signature ++
        (commitFrom e.permits r call).toList.map OperationPermit.signature) := by
  have hshrink : (e'.lane.map Item.signature).Sublist (e.lane.map Item.signature) →
      (e'.lane.map Item.signature).Sublist
        (e.lane.map Item.signature ++
            (commitFrom e.permits r call).toList.map OperationPermit.signature) :=
    fun hsub => hsub.trans (List.sublist_append_left _ _)
  cases h with
  | committed _ live =>
    simp only [commitFrom, live, Option.toList_some, List.map_append, List.map_cons, List.map_nil]
    exact List.Sublist.refl _
  | removed _ lane =>
    refine hshrink (List.Sublist.map _ ((drained_sublist _).trans ?_))
    rw [lane]
    exact sublist_remove _ _ _
  | buried _ lane => exact hshrink (signatures_replace lane rfl)
  | closed => exact List.nil_sublist _
  | draining => exact hshrink ((drained_sublist _).map _)
  | replied _ _ front =>
    refine hshrink (List.Sublist.map _ ((drained_sublist _).trans ?_))
    rw [front]
    exact List.sublist_cons_self _ _
  | progressed _ front => exact hshrink (signatures_replace front.lane Item.progress_signature)
  | finished _ front => exact hshrink (signatures_replace front.lane Item.finish_signature)
  | completed _ front =>
    refine hshrink (List.Sublist.map _ ((drained_sublist _).trans ?_))
    rw [front.lane]
    exact sublist_remove _ _ _
  | overran _ front => exact hshrink (signatures_replace front.lane rfl)
  | recovered => exact List.nil_sublist _
  | _ => exact hshrink (List.Sublist.refl _)

/-- How an operation may leave the lane of an epoch that stays live and healthy. -/
inductive Leaves (e : Epoch F) (call : Call F R) (r : Response F R) (x : Item F) : Prop where
  | unsent (delivery : x.delivery = .notSent) (untouched : ¬e.Touches call x.id)
  | written (completion : x.record.completion = .writeComplete)
  | replied {rest : List (Item F)} {frame : R} {t : ConnectionTransition R}
    (front : e.lane = x :: rest)
    (reply : call = .applyReply ⟨e.epoch, x.key, frame⟩) (answer : r = .transition (.ok t))
    (applied : t.disposition = .applied)

lemma mem_replace {pre post : List (Item F)} {x y z : Item F} (hl : e.lane = pre ++ x :: post)
    (hz : z ∈ e.lane) (hid : y.id = x.id) : z.id ∈ (pre ++ y :: post).map Item.id := by
  rw [hl] at hz
  rw [List.map_append, List.map_cons, hid, ← List.map_cons, ← List.map_append]
  exact List.mem_map_of_mem hz

lemma drained_live (hlive : e.drained.phase = .live) : e.drained.lane = e.lane := by
  unfold Epoch.drained at hlive ⊢
  split
  · next hd => simp [hd, Epoch.close] at hlive
  · rfl

/-- **Who leaves the lane**, while the epoch stays live and healthy. -/
lemma Epoch.Step.leaves (h : Step e call r e') (hw : e.Wf) (hlive : e'.phase = .live)
    (hp : e'.poisoned = none) {x : Item F}
    (hx : x ∈ e.lane) : x.id ∈ e'.lane.map Item.id ∨ Leaves e call r x := by
  cases h with
  | committed => exact Or.inl (List.mem_map_of_mem (List.mem_append_left _ hx))
  | @removed _ pre post y _ _ healthy lane owed unsent removes =>
    rw [drained_live hlive]
    rw [lane] at hx
    rcases List.mem_cons.mp (List.perm_middle.mem_iff.mp hx) with rfl | hmem
    · refine Or.inr (.unsent ?_ (not_touches (by cases removes <;> simp) _))
      rw [(hw.sound healthy x (by rw [lane]; exact hx)).delivery_eq]
      exact unsent
    · exact Or.inl (List.mem_map_of_mem hmem)
  | buried _ lane => exact Or.inl (mem_replace lane hx rfl)
  | closed => simp [Epoch.close] at hlive
  | draining =>
    rw [drained_live hlive]
    exact Or.inl (List.mem_map_of_mem hx)
  | @replied y rest frame _ _ front =>
    rw [drained_live hlive]
    rw [front] at hx
    rcases List.mem_cons.mp hx with rfl | hmem
    · exact Or.inr (.replied front rfl rfl rfl)
    · exact Or.inl (List.mem_map_of_mem hmem)
  | progressed _ front => exact Or.inl (mem_replace front.lane hx Item.progress_id)
  | finished _ front => exact Or.inl (mem_replace front.lane hx Item.finish_id)
  | @completed pre post y w n _ front _ completion =>
    rw [drained_live hlive]
    rw [front.lane] at hx
    rcases List.mem_cons.mp (List.perm_middle.mem_iff.mp hx) with rfl | hmem
    · exact Or.inr (.written completion)
    · exact Or.inl (List.mem_map_of_mem hmem)
  | overran => simp at hp
  | recovered => cases hq : e.poisoned <;> simp [hq] at hp
  | _ => exact Or.inl (List.mem_map_of_mem hx)

/-- The call reports the last bytes of the front frame, which is the operation's. -/
def Epoch.Finishes (e : Epoch F) (call : Call F R) (operation : OperationId) : Prop :=
  ∃ front rest written, e.poisoned = none ∧ e.frames = front :: rest ∧ front.operation = operation ∧
    call = .advanceWrite e.epoch front.effect written ∧
      front.written + written = front.measure.wireBytes

/-- A frame leaves the writer, its record staying, only when it is finished. -/
lemma Epoch.Step.finishes (h : Step e call r e') (hw : e.Wf) {y : Item F} (hy : y ∈ e'.lane)
    (hgone : y.write = none) :
    (∃ x ∈ e.lane, x.id = y.id ∧ x.write = none) ∨ e.Finishes call y.id := by
  have hold : y ∈ e.lane → (∃ x ∈ e.lane, x.id = y.id ∧ x.write = none) ∨ e.Finishes call y.id :=
    fun hmem => Or.inl ⟨y, hmem, rfl, hgone⟩
  cases h with
  | committed =>
    rcases List.mem_append.mp hy with hy | hy
    · exact hold hy
    · rw [List.mem_singleton.mp hy] at hgone
      simp [Item.accept] at hgone
  | removed _ lane =>
    refine hold ?_
    rw [lane]
    exact (sublist_remove _ _ _).subset (mem_drained hy)
  | @buried pre post x _ lane =>
    rcases List.mem_cons.mp (List.perm_middle.mem_iff.mp hy) with rfl | hmem
    · exact Or.inl ⟨x, by rw [lane]; simp, rfl, hgone⟩
    · exact hold (by rw [lane]; exact (sublist_remove _ _ _).subset hmem)
  | closed => simp [Epoch.close] at hy
  | draining => exact hold (mem_drained (e := { e with gate := .draining }) hy)
  | replied _ _ front =>
    refine hold ?_
    rw [front]
    exact List.mem_cons_of_mem _ (mem_drained hy)
  | progressed _ front =>
    rcases List.mem_cons.mp (List.perm_middle.mem_iff.mp hy) with rfl | hmem
    · simp [Item.progress] at hgone
    · exact hold (by rw [front.lane]; exact (sublist_remove _ _ _).subset hmem)
  | @finished pre post x w n healthy front whole =>
    rcases List.mem_cons.mp (List.perm_middle.mem_iff.mp hy) with rfl | hmem
    · refine Or.inr ⟨w, _, n, healthy, front.frames_eq, ?_, rfl, whole⟩
      rw [Item.finish_id]
      exact (hw.bound x front.mem).operation w front.write
    · exact hold (by rw [front.lane]; exact (sublist_remove _ _ _).subset hmem)
  | completed _ front =>
    refine hold ?_
    rw [front.lane]
    exact (sublist_remove _ _ _).subset (mem_drained hy)
  | overran _ front =>
    rcases List.mem_cons.mp (List.perm_middle.mem_iff.mp hy) with rfl | hmem
    · simp [Item.overrun] at hgone
    · exact hold (by rw [front.lane]; exact (sublist_remove _ _ _).subset hmem)
  | recovered => simp at hy
  | _ => exact hold hy

@[simp] lemma replies_append (xs ys : List (ConnectionEffect R)) :
    replies (xs ++ ys) = replies xs ++ replies ys :=
  List.filterMap_append

@[simp] lemma replies_drain (e : Epoch F) :
    replies (e.drainEffects : List (ConnectionEffect R)) = [] := by
  unfold Epoch.drainEffects
  split <;> rfl

@[simp] lemma replies_cancelDeadline (epoch : ConnectionEpoch) (operation : OperationId)
    (effects : List (ConnectionEffect R)) :
    replies (.cancelDeadline epoch operation :: effects) = replies effects := rfl

lemma mem_replies_publish {x : Item F} {epoch : ConnectionEpoch} {outcome : OperationOutcome R}
    {operation : OperationId} {frame : R}
    (h : (operation, frame) ∈ replies (x.publish epoch outcome)) :
    operation = x.id ∧ outcome = .reply frame := by
  unfold Item.publish at h
  split at h
  · cases outcome <;> simp_all [replies]
  · simp [replies] at h

lemma replies_closing (e : Epoch F) (reason : CloseReason)
    (failure : Option (OperationId × OperationFailure)) :
    replies (e.closing reason failure : List (ConnectionEffect R)) = [] := by
  refine List.eq_nil_iff_forall_not_mem.mpr ?_
  rintro ⟨operation, frame⟩ h
  obtain ⟨effect, heffect, hd⟩ := List.mem_filterMap.mp h
  rcases List.mem_cons.mp heffect with rfl | heffect
  · simp at hd
  · obtain ⟨x, _, hmem⟩ := List.mem_flatMap.mp heffect
    have hreply : (operation, frame) ∈
        replies (x.farewell e.epoch reason failure : List (ConnectionEffect R)) :=
      List.mem_filterMap.mpr ⟨effect, hmem, hd⟩
    cases (mem_replies_publish hreply).2

/-- Only a reply to the front of the lane is published as one. -/
lemma Epoch.Step.replies (h : Step e call r e') {operation : OperationId} {frame : R}
    (hmem : (operation, frame) ∈ Core.replies r.effects) :
    ∃ x rest, e.lane = x :: rest ∧ ConnectionMachine.repliable x.record = true ∧ operation = x.id ∧
      call = .applyReply ⟨e.epoch, x.key, frame⟩ ∧ e.poisoned = none ∧ e.phase = .live := by
  cases h with
  | ignored _ _ _ quiet => simp [Response.effects, quiet, Core.replies] at hmem
  | removed _ _ _ _ removes =>
    simp only [Response.effects, replies_append, replies_drain, List.append_nil,
      replies_cancelDeadline] at hmem
    cases removes <;> simp [Core.replies] at hmem
  | closed => simp [Response.effects, replies_closing] at hmem
  | draining => simp [Response.effects] at hmem
  | @replied x rest _ healthy live front ready =>
    simp only [Response.effects, List.cons_append, replies_cancelDeadline, replies_append,
      replies_drain,
      List.append_nil] at hmem
    obtain ⟨hid, hframe⟩ := mem_replies_publish hmem
    cases hframe
    exact ⟨x, rest, front, ready, hid, rfl, healthy, live⟩
  | completed =>
    simp only [Response.effects, List.cons_append, replies_cancelDeadline, replies_append,
      replies_drain,
      List.append_nil] at hmem
    cases (mem_replies_publish hmem).2
  | _ => simp [Response.effects, Core.replies] at hmem

/-! ### Runs -/

lemma Holds.commitOf {ev : CallEvent B F R} (h : Holds limits ev.before e) :
    commitOf ev = commitFrom e.permits ev.output ev.input := by
  rw [Core.commitOf, h.permits]

lemma Holds.finishes {ev : CallEvent B F R} (h : Holds limits ev.before e) {operation : OperationId}
    (hf : e.Finishes ev.input operation) : Finished [ev] operation := by
  obtain ⟨front, rest, written, hp, hframes, hid, hinput, hwhole⟩ := hf
  refine ⟨ev, List.mem_singleton_self _, front, rest, written, ?_, ?_, hid, ?_, hwhole⟩
  · rw [h.core.poisoned, hp]
  · rw [h.core.writer.frames, hframes]
  · rw [h.core.policy.epoch, hinput]

section
omit [ByteBudget B]

lemma finished_append_left {h : List (CallEvent B F R)} {operation : OperationId}
    (hf : Finished h operation) (h' : List (CallEvent B F R)) : Finished (h ++ h') operation := by
  obtain ⟨ev, hev, hrest⟩ := hf
  exact ⟨ev, List.mem_append_left _ hev, hrest⟩

lemma finished_append_right {h' : List (CallEvent B F R)} {operation : OperationId}
    (hf : Finished h' operation) (h : List (CallEvent B F R)) : Finished (h ++ h') operation := by
  obtain ⟨ev, hev, hrest⟩ := hf
  exact ⟨ev, List.mem_append_right _ hev, hrest⟩

@[simp] lemma commits_snoc (h : List (CallEvent B F R)) (ev : CallEvent B F R) :
    commits (h ++ [ev]) = commits h ++ (commitOf ev).toList := by
  cases hc : commitOf ev <;> simp [commits, hc]

end

/-- What a history committed and consumed, against the epoch it ends in. -/
structure Heard (h : List (CallEvent B F R)) (e : Epoch F) : Prop where
  operations : accepted h = (commits h).map OperationPermit.operation
  lane : (e.lane.map Item.signature).Sublist ((commits h).map OperationPermit.signature)
  unresolved : e.poisoned = none → e.phase = .live →
    ∀ p ∈ commits h, p.completion = .replyExpected →
    Touched h p.operation → p.operation ∈ e.lane.map Item.id ∨ ∃ ev ∈ h, Consumes ev p.operation
  gone : ∀ x ∈ e.lane, x.write = none → Finished h x.id

section
omit [ByteBudget B]

/-- The items of the lane come from commits. -/
lemma Heard.permit_of_mem {h : List (CallEvent B F R)} (hh : Heard h e) {x : Item F}
    (hx : x ∈ e.lane) :
    ∃ p ∈ commits h, p.signature = x.signature :=
  List.mem_map.mp (hh.lane.subset (List.mem_map_of_mem hx))

/-- An item of the lane has what the commit of its operation gave it. -/
lemma Heard.signature_eq {h : List (CallEvent B F R)} (hh : Heard h e) (hl : Ledgered h e)
    {x : Item F} (hx : x ∈ e.lane) {p : OperationPermit} (hp : p ∈ commits h)
    (hid : x.id = p.operation) :
    p.signature = x.signature := by
  obtain ⟨q, hq, hsig⟩ := hh.permit_of_mem hx
  have hnodup : ((commits h).map OperationPermit.operation).Nodup :=
    hh.operations ▸ hl.distinct.of_append_left
  have hop : q.operation = p.operation := (congrArg Prod.fst hsig).trans hid
  rw [← List.inj_on_of_nodup_map hnodup hq hp hop]
  exact hsig

end

theorem Heard.step {h : List (CallEvent B F R)} {ev : CallEvent B F R} (hh : Heard h e)
    (hl : Ledgered h e) (ht : Told h e) (hb : Holds limits ev.before e)
    (hs : Step e ev.input ev.output e') : Heard (h ++ [ev]) e' := by
  have hcommit := hb.commitOf
  refine ⟨?_, ?_, ?_, ?_⟩
  · rw [accepted_snoc, commits_snoc, List.map_append, hh.operations, hs.accepted, hcommit]
  · rw [commits_snoc, List.map_append, hcommit]
    exact hs.signatures.trans (hh.lane.append_right _)
  · intro hp' hlive' p hp hreply htouched
    rw [commits_snoc, hcommit] at hp
    have hhealthy : e.poisoned = none := by
      by_contra hp
      exact (hs.poisoned hp).1 hp'
    have hlive := hs.live_before hb.wf hlive'
    rw [touched_snoc, hb.touches_iff] at htouched
    rcases List.mem_append.mp hp with hp | hp
    · have hwas : p.operation ∈ e.lane.map Item.id ∨ ∃ ev ∈ h, Consumes ev p.operation :=
        htouched.elim (hh.unresolved hhealthy hlive p hp hreply) fun htouch =>
          Or.inl (htouch.mem hb.wf)
      rcases hwas with hmem | ⟨ev', hev', hcons⟩
      · obtain ⟨x, hx, hid⟩ := List.mem_map.mp hmem
        rw [← hid] at htouched ⊢
        rcases hs.leaves hb.wf hlive' hp' hx with hstay | hleave
        · exact Or.inl hstay
        · cases hleave with
          | unsent delivery untouched =>
            have hold := (ht.lane x hx).mpr (htouched.resolve_right untouched)
            simp [delivery] at hold
          | written completion =>
            have hsig := hh.signature_eq hl hx hp hid
            have : p.completion = x.record.completion := congrArg (fun s => s.2.2) hsig
            simp [hreply, completion] at this
          | @replied rest frame t front reply answer applied =>
            refine Or.inr ⟨ev, List.mem_append_right _ (List.mem_singleton_self _),
              ⟨e.epoch, x.key, frame⟩, t,
              x.record, rest.map Item.record, reply, answer, applied, ?_, rfl, rfl⟩
            rw [hb.core.policy.pending, front]
            rfl
      · exact Or.inr ⟨ev', List.mem_append_left _ hev', hcons⟩
    · exact Or.inl (hs.committed_mem (Option.mem_toList.mp hp))
  · intro y hy hgone
    rcases hs.finishes hb.wf hy hgone with ⟨x, hx, hid, hwrite⟩ | hfinish
    · exact hid ▸ finished_append_left (hh.gone x hx hwrite) _
    · exact finished_append_right (hb.finishes hfinish) _

/-- The books of a run, all together. -/
structure Books (h : List (CallEvent B F R)) (e : Epoch F) : Prop where
  ledgered : Ledgered h e
  told : Told h e
  heard : Heard h e

omit [ByteBudget B] in
lemma books_new (s : Setup) :
    Books ([] : List (CallEvent B F R)) (Epoch.new s.ledgerId s.epoch s.seeds) := by
  refine ⟨⟨?_, ?_, ?_, ?_⟩, ⟨?_, ?_, ?_⟩, ⟨?_, ?_, ?_, ?_⟩⟩ <;>
    simp [accepted, settled, commits, Epoch.owing, Epoch.new, Touched]

theorem Books.step {h : List (CallEvent B F R)} {ev : CallEvent B F R} (hb : Books h e)
    (hw : Holds limits ev.before e) (hs : Step e ev.input ev.output e')
    (hw' : Holds limits ev.after e') :
    Books (h ++ [ev]) e' :=
  ⟨hb.ledgered.step hw.wf hs hw'.wf, hb.told.step hw hs, hb.heard.step hb.ledgered hb.told hw hs⟩

theorem books_run (s : Setup) (calls : List (Call F R)) :
    ∃ e, Holds s.limits (s.final B calls) e ∧ Books (s.history B calls) e := by
  refine s.run_induction (Q := Books) (books_new s) ?_ calls
  intro h w e call e' hw hb hs hw'
  exact hb.step hw hs hw'

omit [ByteBudget B] in
/-- The operation at the front of the lane is the oldest of those that wait: an older one that may
have been sent and expects a reply was consumed. -/
lemma Books.ordered {h : List (CallEvent B F R)} (hb : Books h e) (hp : e.poisoned = none)
    (hlive : e.phase = .live) {x : Item F} {rest : List (Item F)} (hl : e.lane = x :: rest)
    {p p' : OperationPermit} (hsub : [p', p].Sublist (commits h)) (hid : p.operation = x.id)
    (hreply : p'.completion = .replyExpected)
    (htouched : Touched h p'.operation) : ∃ ev ∈ h, Consumes ev p'.operation := by
  have hnodup : ((commits h).map OperationPermit.operation).Nodup :=
    hb.heard.operations ▸ hb.ledgered.distinct.of_append_left
  have hafter : [p'.operation, x.id].Sublist ((commits h).map OperationPermit.operation) := by
    rw [← hid]
    exact hsub.map OperationPermit.operation
  rcases hb.heard.unresolved hp hlive p' (hsub.subset (by simp)) hreply htouched with hmem | hcons
  · exfalso
    rw [hl, List.map_cons] at hmem
    have hbefore : (x.id :: rest.map Item.id).Sublist
        ((commits h).map OperationPermit.operation) := by
      have := hb.heard.lane.map Prod.fst
      rw [hl, List.map_map, List.map_map] at this
      exact this
    rcases List.mem_cons.mp hmem with heq | hmem
    · have hpair := hnodup.sublist hafter
      simp [heq] at hpair
    · refine sublist_swap hnodup hafter (List.Sublist.trans ?_ hbefore)
      exact (List.singleton_sublist.mpr hmem).cons_cons _
  · exact hcons

/-- A reply that the front cannot take closes the epoch. -/
lemma Epoch.Step.fault {reply : InboundReply R} (h : Step e (.applyReply reply : Call F R) r e')
    (hp : e.poisoned = none) (hepoch : reply.epoch = e.epoch) (hlive : e.phase = .live)
    (hfront : ∀ x rest, e.lane = x :: rest → x.record.writeHeld = true ∨ reply.key ≠ x.key) :
    ∃ t, r = .transition (.ok t) ∧ t.disposition = .fault ∧ Core.replies t.effects = [] ∧
      e'.phase = .closing := by
  cases h with
  | unavailable names => cases names
  | refused _ poisoned => simp [hp] at poisoned
  | ignored ignores =>
    cases ignores with
    | reply late => exact (late.elim (fun hne => hne hepoch) fun hne => hne hlive).elim
  | removed _ _ _ _ removes => cases removes
  | closed _ _ closes =>
    cases closes with
    | unexpected => exact ⟨_, rfl, rfl, replies_closing _ _ _, rfl⟩
    | mismatch => exact ⟨_, rfl, rfl, replies_closing _ _ _, rfl⟩
  | @replied x rest _ _ _ front ready =>
    simp only [ConnectionMachine.repliable, decide_eq_true_eq] at ready
    rcases hfront x rest front with hheld | hkey
    · simp [ready.2] at hheld
    · exact absurd rfl hkey

/-- The front of the lane waits for its reply: its frame has left the writer. -/
lemma Epoch.Wf.repliable_gone (hw : e.Wf) {x : Item F} (hx : x ∈ e.lane)
    (hready : ConnectionMachine.repliable x.record = true) : x.write = none := by
  simp only [ConnectionMachine.repliable, decide_eq_true_eq] at hready
  have hheld := (hw.bound x hx).held
  rw [hready.2] at hheld
  exact Option.not_isSome_iff_eq_none.mp (by simp [← hheld])

/-- A permit is issued by a live epoch, with a key nobody in the lane has. -/
lemma Epoch.Step.issues {p : OperationPermit}
    (h : Step e call (.reserved (.ok p) : Response F R) e') (hw : e.Wf) :
    e.poisoned = none ∧ e.phase = .live ∧ p.reservation.matchKey ∉ e.lane.map Item.key := by
  cases h with
  | reserved healthy _ _ _ _ fresh admitted =>
    refine ⟨healthy, hw.gate.mpr ?_, fun hmem => fresh (List.mem_append_right _ hmem)⟩
    intro hclosed
    simp [hclosed, AdmissionGate.admits] at admitted

/-- **Replies are attributed without overtaking or aliasing**, in every call of every run. -/
theorem replies_attributed (s : Setup) (calls : List (Call F R)) (pre post : List (CallEvent B F R))
    (ev : CallEvent B F R) (hev : s.history B calls = pre ++ ev :: post) : Attributes pre ev := by
  obtain ⟨e, e', hw, hb, hs, hw', _⟩ := s.at_event (books_run s) hev
  have hpolicy := hw.core.policy
  refine ⟨?_, ?_, ?_, ?_⟩
  · intro operation frame hmem
    obtain ⟨x, rest, hl, hready, rfl, hcall, _, _⟩ := hs.replies hmem
    have hx : x ∈ e.lane := by rw [hl]; exact List.mem_cons_self ..
    have hgone := hw.wf.repliable_gone hx hready
    refine ⟨_, x.record, rest.map Item.record, hcall, hpolicy.epoch.symm, rfl, ?_, rfl, rfl,
      hb.heard.gone x hx hgone, ?_⟩
    · rw [hpolicy.pending, hl]
      rfl
    · intro f hf heq
      rw [hw.core.writer.frames] at hf
      obtain ⟨y, hy, hwrite⟩ := List.mem_filterMap.mp hf
      have hid : y.id = x.id := ((hw.wf.bound y hy).operation f hwrite).symm.trans heq
      have hids : (e.lane.map Item.id).Nodup := hw.wf.operations.of_append_right
      rw [List.inj_on_of_nodup_map hids hy hx hid, hgone] at hwrite
      cases hwrite
  · intro operation frame hmem
    obtain ⟨x, rest, hl, _, rfl, _, hp, hlive⟩ := hs.replies hmem
    have hx : x ∈ e.lane := by rw [hl]; exact List.mem_cons_self ..
    obtain ⟨q, hq, hsig⟩ := hb.heard.permit_of_mem hx
    exact ⟨⟨q, hq, congrArg Prod.fst hsig⟩, fun p p' hsub hid => hb.ordered hp hlive hl hsub hid⟩
  · intro reply hinput hp hepoch hlive hfront
    rw [hinput] at hs
    obtain ⟨t, hout, hfault, hquiet, hphase⟩ :=
      hs.fault (hw.core.poisoned ▸ hp) (hepoch.trans hpolicy.epoch)
      (hpolicy.phase ▸ hlive) fun x rest hl =>
        hfront x.record (rest.map Item.record) (by rw [hpolicy.pending, hl]; rfl)
    exact ⟨t, hout, hfault, hquiet, hw'.core.policy.phase.trans hphase⟩
  · intro p hout p' hp' hreply hkey htouched
    rw [hout] at hs
    obtain ⟨hp, hlive, hfresh⟩ := hs.issues hw.wf
    rcases hb.heard.unresolved hp hlive p' hp' hreply htouched with hmem | hcons
    · obtain ⟨x, hx, hid⟩ := List.mem_map.mp hmem
      have hsig := hb.heard.signature_eq hb.ledgered hx hp' hid
      refine absurd (List.mem_map_of_mem hx) (?_ : x.key ∉ e.lane.map Item.key)
      rw [show x.key = p'.reservation.matchKey from (congrArg (fun s => s.2.1) hsig).symm, hkey]
      exact hfresh
    · exact hcons

/-- Reports the rest of the frame of `sampleCalls`. -/
def sampleFinish : List (Call (List UInt8) Unit) := sampleCalls ++ [.advanceWrite ⟨1⟩ ⟨0⟩ 1]

theorem replies_attributed_sample :
    ∃ pre ev, Setup.sample.history Counted (sampleFinish ++ [.applyReply ⟨⟨1⟩, ⟨0⟩, ()⟩]) =
      pre ++ [ev] ∧
      (⟨0⟩, ()) ∈ replies ev.output.effects ∧ Finished pre ⟨0⟩ := by
  have hev : Setup.sample.history Counted
      (sampleFinish ++ [.applyReply ⟨⟨1⟩, ⟨0⟩, ()⟩]) = _ ++ [_] :=
    Transducer.history_snoc _ _ _
  refine ⟨_, _, hev, by decide +kernel, ?_⟩
  obtain ⟨_, _, _, _, _, _, _, _, _, hfinished, _⟩ :=
    (replies_attributed Setup.sample _ _ _ _ hev).published ⟨0⟩ () (by decide +kernel)
  exact hfinished

end Bornera.Core
