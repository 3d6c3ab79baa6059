import Bornera.Core.Replies

/-!
# The wire

A `Tape` is what an observer of the calls writes down: the frames committed, the slices last
offered, the operations whose frames were finished, and the bytes confirmed so far. A run confirms
whole frames in commit order and then a part of one.
-/

namespace Bornera.Core

open Lib Lib.Lookup Epoch

variable {B F R : Type} [ByteBudget B]

/-! ### Tapes -/

/-- What an observer of a run knows about the wire. -/
structure Tape where
  /-- The frames committed, in commit order, with their bytes. -/
  committed : List (OperationId × List UInt8)
  /-- The slice last offered for an effect. -/
  offered : EffectId → List UInt8
  /-- The operations whose frames were reported to the end. -/
  finished : List OperationId
  /-- The bytes confirmed. -/
  stream : List UInt8

namespace Tape

def blank : Tape := ⟨[], fun _ => [], [], []⟩

/-- A frame is committed. -/
def commit (t : Tape) (operation : OperationId) (bytes : List UInt8) : Tape :=
  { t with committed := t.committed ++ [(operation, bytes)] }

/-- A slice is offered. -/
def offer (t : Tape) (slice : WriteSlice) : Tape :=
  { t with offered := Function.update t.offered slice.effect slice.bytes }

/-- The bytes an operation was committed with. -/
def bytes (t : Tape) (operation : OperationId) : List UInt8 :=
  ((t.committed.find? fun c => c.1 = operation).map Prod.snd).getD []

/-- A report of `n` bytes of the front frame is accepted: the next `n` bytes of the frame are
confirmed. -/
def confirm (t : Tape) (front : QueuedWrite F) (n : ℕ) : Tape :=
  { t with
    finished :=
      if front.written + n = front.measure.wireBytes then t.finished ++ [front.operation]
      else t.finished
    stream := t.stream ++ ((t.bytes front.operation).drop front.written).take n }

/-- The tape after a call, made while the writer held `frames`. -/
def next (t : Tape) (frames : List (QueuedWrite F)) : Response F R → Call F R → Tape
  | .committed (.ok (operation, _)), .commit _ frame view => t.commit operation (view.bytes frame)
  | .offered (.ok (some slice)), _ => t.offer slice
  | .transition (.ok _), .advanceWrite _ _ n =>
    match frames with
    | front :: _ => t.confirm front n
    | [] => t
  | _, _ => t

/-- The complete frames of the finished operations, in commit order. -/
def whole (t : Tape) : List UInt8 := (t.committed.filter fun c => c.1 ∈ t.finished).flatMap Prod.snd

/-- The tape after a call of a run. -/
def after (t : Tape) (ev : CallEvent B F R) : Tape :=
  t.next ev.before.core.writes.frames ev.output ev.input

end Tape

/-- The tape of a history. -/
def tape (h : List (CallEvent B F R)) : Tape := h.foldl Tape.after Tape.blank

section
omit [ByteBudget B]

lemma tape_snoc (h : List (CallEvent B F R)) (ev : CallEvent B F R) :
    tape (h ++ [ev]) = (tape h).after ev := by
  simp [tape]

end

/-! ### The part after the complete frames -/

/-- The call took the frames out of the writer: it took the core out of its live phase, or
recovered it. -/
def Cuts (ev : CallEvent B F R) : Prop :=
  ev.input = .recover ∨ ev.before.core.machine.phase = .live ∧ ev.after.core.machine.phase ≠ .live

/-- What may follow the complete frames: nothing, the written part of the front frame, or the
written part of the frame that was at the front when the frames were taken out. The first argument
is the operation it belongs to. -/
inductive Remainder (h : List (CallEvent B F R)) (frames : List (QueuedWrite F)) :
    Option OperationId → List UInt8 → Prop where
  | idle (empty : frames = []) : Remainder h frames none []
  | front {f : QueuedWrite F} {rest : List (QueuedWrite F)} {bytes : List UInt8}
    (here : frames = f :: rest)
    (committed : (f.operation, bytes) ∈ (tape h).committed) :
    Remainder h frames (some f.operation) (bytes.take f.written)
  | cut {ev : CallEvent B F R} {f : QueuedWrite F} {rest : List (QueuedWrite F)}
    {bytes : List UInt8}
    (empty : frames = []) (mem : ev ∈ h) (cuts : Cuts ev)
    (there : ev.before.core.writes.frames = f :: rest)
    (committed : (f.operation, bytes) ∈ (tape h).committed) :
    Remainder h frames (some f.operation) (bytes.take f.written)

/-- **The stream of a history**: the complete frames of the finished operations in commit order, and
the remainder. An operation of which bytes were reported is finished or owns the remainder. -/
def Streams (h : List (CallEvent B F R)) (frames : List (QueuedWrite F)) : Prop :=
  ∃ owner tail, Remainder h frames owner tail ∧ (tape h).stream = (tape h).whole ++ tail ∧
    ∀ operation, Touched h operation → operation ∈ (tape h).finished ∨ owner = some operation

/-- A frame of the writer, as the tape knows it: where it was committed, and that neither it nor a
later one is finished. -/
def Backed (t : Tape) (w : QueuedWrite F) : Prop :=
  ∃ before bytes later, t.committed = before ++ (w.operation, bytes) :: later ∧
    (∀ c ∈ later, c.1 ∉ t.finished) ∧ w.operation ∉ t.finished ∧ bytes.length = w.measure.wireBytes

/-- The tape against the epoch its history ends in. -/
structure Wired (h : List (CallEvent B F R)) (e : Epoch F) : Prop where
  committed : (tape h).committed.map Prod.fst = accepted h
  finished : ∀ operation ∈ (tape h).finished, operation ∈ accepted h
  frames : ∀ w ∈ e.frames, Backed (tape h) w
  ended : (∃ ev ∈ h, Cuts ev) → e.phase ≠ .live ∨ e.poisoned ≠ none
  stream : Streams h e.frames

/-! ### What a step does to the frames -/

/-- The same frame, perhaps marked as started. -/
structure Same (v w : QueuedWrite F) : Prop where
  operation : w.operation = v.operation
  effect : w.effect = v.effect
  measure : w.measure = v.measure
  written : w.written = v.written

lemma forall₂_same_refl (frames : List (QueuedWrite F)) : List.Forall₂ Same frames frames :=
  List.forall₂_same.mpr fun _ _ => ⟨rfl, rfl, rfl, rfl⟩

lemma same_of_mem {vs ws : List (QueuedWrite F)} (h : List.Forall₂ Same vs ws) {w : QueuedWrite F}
    (hw : w ∈ ws) : ∃ v ∈ vs, Same v w := by
  induction h with
  | nil => simp at hw
  | @cons v w' vs ws hs _ ih =>
    rcases List.mem_cons.mp hw with rfl | hw
    · exact ⟨v, List.mem_cons_self .., hs⟩
    · obtain ⟨v', hv', hs'⟩ := ih hw
      exact ⟨v', List.mem_cons_of_mem _ hv', hs'⟩

lemma Same.symm {v w : QueuedWrite F} (h : Same v w) : Same w v :=
  ⟨h.operation.symm, h.effect.symm, h.measure.symm, h.written.symm⟩

lemma mem_of_same {vs ws : List (QueuedWrite F)} (h : List.Forall₂ Same vs ws) {v : QueuedWrite F}
    (hv : v ∈ vs) : ∃ w ∈ ws, Same v w := by
  obtain ⟨w, hw, hs⟩ := same_of_mem (List.Forall₂.flip (h.imp fun _ _ => Same.symm)) hv
  exact ⟨w, hw, hs.symm⟩

/-- What a step does to the frames of the writer and to a tape. -/
inductive Moves (e : Epoch F) (call : Call F R) (r : Response F R) (e' : Epoch F) : Prop where
  | still (quiet : ∀ t : Tape, t.next e.frames r call = t)
    (same : List.Forall₂ Same e.frames e'.frames)
  | dropped {pre post : List (QueuedWrite F)} {w : QueuedWrite F} {x : Item F}
    (quiet : ∀ t : Tape, t.next e.frames r call = t) (here : e.frames = pre ++ w :: post)
    (gone : e'.frames = pre ++ post) (unwritten : w.written = 0) (later : ∀ v ∈ post, v.written = 0)
    (mem : x ∈ e.lane) (id : x.id = w.operation) (unsent : x.delivery = .notSent)
    (untouched : ∀ operation, ¬e.Touches call operation)
  | cut (quiet : ∀ t : Tape, t.next e.frames r call = t) (empty : e'.frames = [])
    (why : call = .recover ∨ e.poisoned = none ∧ e.phase = .live ∧ e'.phase ≠ .live)
    (untouched : ∀ operation, ¬e.Touches call operation)
  | committed {p : OperationPermit} {index : ℕ} {frame : F} {view : FrameView F}
    {t : ConnectionTransition R}
    (healthy : e.poisoned = none) (live : e.phase = .live) (permit : e.permits[index]? = some p)
    (input : call = .commit index frame view) (output : r = .committed (.ok (p.operation, t)))
    (frames : e'.frames = e.frames ++
      [⟨p.operation, p.effect, frame, FrameMeasure.capture view frame, 0, false⟩])
    (untouched : ∀ operation, ¬e.Touches call operation)
  | offered {w : QueuedWrite F} {rest : List (QueuedWrite F)} {view : FrameView F} {maximum : ℕ}
    (here : e.frames = w :: rest) (input : call = .frontWrite view maximum)
    (output : r = .offered (.ok
      (some ⟨e.epoch, w.operation, w.effect, ((view.bytes w.frame).drop w.written).take maximum⟩)))
    (same : e' = e)
  | progressed {w w' : QueuedWrite F} {rest : List (QueuedWrite F)} {n : ℕ}
    {t : ConnectionTransition R}
    (here : e.frames = w :: rest) (input : call = .advanceWrite e.epoch w.effect n)
    (output : r = .transition (.ok t)) (frames : e'.frames = w' :: rest)
    (same : w'.operation = w.operation ∧ w'.effect = w.effect ∧ w'.measure = w.measure)
    (written : w'.written = w.written + n) (unfinished : w.written + n < w.measure.wireBytes)
  | finished {w : QueuedWrite F} {rest : List (QueuedWrite F)} {n : ℕ} {t : ConnectionTransition R}
    (here : e.frames = w :: rest) (input : call = .advanceWrite e.epoch w.effect n)
    (output : r = .transition (.ok t)) (frames : e'.frames = rest)
    (whole : w.written + n = w.measure.wireBytes) (later : ∀ v ∈ rest, v.written = 0)
    (healthy : e.poisoned = none)

variable {limits : ConnectionLimits} {e e' : Epoch F} {call : Call F R} {r : Response F R}

/-- A fresh item has not written anything. -/
lemma Item.Sound.unwritten {x : Item F} {w : QueuedWrite F} (h : x.Sound) (hw : x.write = some w)
    (hs : w.started = false) : w.written = 0 := by
  cases h with
  | awaiting gone => simp [gone] at hw
  | queued here _ _ _ written =>
    rw [hw] at here
    cases here
    exact written
  | started here started =>
    rw [hw] at here
    cases here
    simp [started] at hs

/-- Behind a frame of a healthy lane nothing has been written. -/
lemma Epoch.Wf.unwritten_behind (hw : e.Wf) (hp : e.poisoned = none) {pre post : List (Item F)}
    {x : Item F} (hl : e.lane = pre ++ x :: post) (hx : x.write.isSome = true) :
    ∀ v ∈ post.filterMap Item.write, v.written = 0 := by
  intro v hv
  obtain ⟨y, hy, hwrite⟩ := List.mem_filterMap.mp hv
  have hmem : y ∈ e.lane := by
    rw [hl]
    exact List.mem_append_right _ (List.mem_cons_of_mem _ hy)
  have horder := hw.order hp
  rw [hl] at horder
  obtain ⟨v', hv', hstarted⟩ :=
    (List.pairwise_cons.mp (List.pairwise_append.mp horder).2.1).1 y hy hx
  rw [hwrite] at hv'
  cases hv'
  exact (hw.sound hp y hmem).unwritten hwrite hstarted

/-- The removal of an unsent item. -/
lemma moves_removed (hw : e.Wf) (hp : e.poisoned = none) {pre post : List (Item F)} {x : Item F}
    (hl : e.lane = pre ++ x :: post) (hd : x.record.delivery = .notSent)
    (quiet : ∀ t : Tape, t.next e.frames r call = t) (hn : ∀ operation, ¬e.Touches call operation)
    (hf : e'.frames = (pre ++ post).filterMap Item.write) : Moves e call r e' := by
  have hx : x ∈ e.lane := by rw [hl]; simp
  have hs := hw.sound hp x hx
  cases hwr : x.write with
  | none =>
    refine .still quiet ?_
    rw [hf, Epoch.frames, hl, List.filterMap_append, List.filterMap_append,
      List.filterMap_cons_none hwr]
    exact forall₂_same_refl _
  | some w =>
    have hstarted : w.started = false := by
      by_contra hc
      cases hs with
      | awaiting gone => simp [gone] at hwr
      | queued here started =>
        rw [hwr] at here
        cases here
        exact hc started
      | started _ _ _ delivery => simp [delivery] at hd
    refine .dropped quiet
      (show e.frames = pre.filterMap Item.write ++ w :: post.filterMap Item.write from ?_) ?_
      (hs.unwritten hwr hstarted) (hw.unwritten_behind hp hl (by simp [hwr])) hx
      ((hw.bound x hx).operation w hwr).symm (hs.delivery_eq.trans hd) hn
    · rw [Epoch.frames, hl, List.filterMap_append, List.filterMap_cons_some hwr]
    · rw [hf, List.filterMap_append]

/-- **What a step does to the frames.** -/
theorem Epoch.Step.moves (h : Step e call r e') (hw : e.Wf) : Moves e call r e' := by
  have hsame : ∀ {lane : List (Item F)}, lane.filterMap Item.write = e.frames →
      List.Forall₂ Same e.frames (lane.filterMap Item.write) := by
    intro lane hl
    rw [hl]
    exact forall₂_same_refl _
  cases h with
  | @committed p index frame view healthy live admitted =>
    refine .committed healthy (hw.gate.mpr ?_) live rfl rfl ?_ (not_touches (by simp))
    · intro hclosed
      simp [hclosed, AdmissionGate.admits] at admitted
    · rw [Epoch.frames, List.filterMap_append]
      rfl
  | @removed _ pre post x _ _ healthy lane owed unsent removes =>
    refine moves_removed hw healthy lane unsent ?_ (not_touches (by cases removes <;> simp)) ?_
    · cases removes <;> exact fun _ => rfl
    · rw [drained_frames]
      rfl
  | buried _ lane => exact .still (fun _ => rfl) (hsame (frames_replace lane rfl))
  | closed healthy live closes =>
    refine .cut ?_ rfl (Or.inr ⟨healthy, live, by simp [Epoch.close]⟩)
      (not_touches (by cases closes <;> simp))
    cases closes <;> exact fun _ => rfl
  | draining =>
    refine .still (fun _ => rfl) ?_
    rw [drained_frames]
    exact forall₂_same_refl _
  | @replied x rest _ healthy _ front ready =>
    refine .still (fun _ => rfl) ?_
    have hgone := hw.repliable_gone (by rw [front]; exact List.mem_cons_self ..) ready
    rw [drained_frames, Epoch.frames, front, List.filterMap_cons_none hgone]
    exact forall₂_same_refl _
  | @progressed pre post x w n healthy front unfinished =>
    exact .progressed front.frames_eq rfl rfl (front.frames_replace rfl) ⟨rfl, rfl, rfl⟩
      rfl unfinished
  | @finished pre post x w n healthy front whole =>
    refine .finished front.frames_eq rfl rfl ?_ whole
      (hw.unwritten_behind healthy front.lane (by simp [front.write])) healthy
    rw [Epoch.frames, List.filterMap_append, front.filterMap_pre, List.nil_append]
    exact List.filterMap_cons_none rfl
  | @completed pre post x w n healthy front whole =>
    refine .finished front.frames_eq rfl rfl ?_ whole
      (hw.unwritten_behind healthy front.lane (by simp [front.write])) healthy
    rw [drained_frames, Epoch.frames, List.filterMap_append, front.filterMap_pre, List.nil_append]
  | @overran pre post x w n healthy front =>
    refine .still (fun _ => rfl) ?_
    have heq : (pre ++ x.overrun w :: post).filterMap Item.write =
        { w with started := true } :: post.filterMap Item.write := front.frames_replace rfl
    rw [front.frames_eq, Epoch.frames, heq]
    exact .cons ⟨rfl, rfl, rfl, rfl⟩ (forall₂_same_refl _)
  | offered healthy offers =>
    cases offers with
    | nothing => exact .still (fun _ => rfl) (forall₂_same_refl _)
    | slice front => exact .offered front rfl rfl rfl
  | ignored ignores =>
    refine .still ?_ (forall₂_same_refl _)
    cases ignores <;> exact fun _ => rfl
  | recovered => exact .cut (fun _ => rfl) rfl (Or.inl rfl) (not_touches (by simp))
  | _ => exact .still (fun _ => rfl) (forall₂_same_refl _)

/-! ### Frames in order -/

lemma frames_operations {lane : List (Item F)} (hb : ∀ x ∈ lane, x.Bound) :
    ((lane.filterMap Item.write).map QueuedWrite.operation).Sublist (lane.map Item.id) := by
  induction lane with
  | nil => exact List.Sublist.refl _
  | cons x xs ih =>
    have hxs := ih fun y hy => hb y (List.mem_cons_of_mem _ hy)
    cases hw : x.write with
    | none =>
      rw [List.filterMap_cons_none hw, List.map_cons]
      exact hxs.cons _
    | some w =>
      rw [List.filterMap_cons_some hw, List.map_cons, List.map_cons,
        (hb x (List.mem_cons_self ..)).operation w hw]
      exact hxs.cons_cons _

section
omit [ByteBudget B]

lemma Books.nodup {h : List (CallEvent B F R)} (hb : Books h e) : (accepted h).Nodup :=
  hb.ledgered.distinct.of_append_left

/-- The frames of the writer are in commit order. -/
lemma Books.frames_sublist {h : List (CallEvent B F R)} (hb : Books h e) (hw : e.Wf) :
    (e.frames.map QueuedWrite.operation).Sublist (accepted h) := by
  have hlane := hb.heard.lane.map Prod.fst
  rw [List.map_map, List.map_map] at hlane
  rw [hb.heard.operations]
  exact (frames_operations hw.bound).trans hlane

/-- The operation of the front frame was committed before that of any later frame. -/
lemma Books.front_first {h : List (CallEvent B F R)} (hb : Books h e) (hw : e.Wf)
    {w v : QueuedWrite F} {rest : List (QueuedWrite F)} (hf : e.frames = w :: rest) (hv : v ∈ rest)
    {before later : List OperationId} (hc : accepted h = before ++ v.operation :: later) :
    w.operation ∉ later ∧ w.operation ≠ v.operation := by
  have hsub := hb.frames_sublist hw
  rw [hf, List.map_cons] at hsub
  have hpair : [w.operation, v.operation].Sublist (accepted h) :=
    ((List.singleton_sublist.mpr (List.mem_map_of_mem hv)).cons_cons _).trans hsub
  refine ⟨fun hmem => ?_, fun heq => ?_⟩
  · refine sublist_swap hb.nodup hpair ?_
    rw [hc]
    exact ((List.singleton_sublist.mpr hmem).cons_cons _).trans (List.sublist_append_right _ _)
  · have := hb.nodup.sublist hpair
    simp [heq] at this

end

/-! ### Tapes along steps -/

lemma Backed.same {t : Tape} {v w : QueuedWrite F} (h : Backed t v) (hs : Same v w) :
    Backed t w := by
  unfold Backed
  rw [hs.operation, hs.measure]
  exact h

/-- A commit leaves the frames of the writer where they are. -/
lemma Backed.commit {t : Tape} {w : QueuedWrite F} (h : Backed t w) {operation : OperationId}
    (hnew : operation ∉ t.finished) (bytes : List UInt8) : Backed (t.commit operation bytes) w := by
  obtain ⟨before, own, later, heq, hlater, hmine, hlen⟩ := h
  refine ⟨before, own, later ++ [(operation, bytes)], ?_, ?_, hmine, hlen⟩
  · show t.committed ++ [(operation, bytes)] = _
    rw [heq, List.append_assoc, List.cons_append]
  · intro c hc
    rcases List.mem_append.mp hc with hc | hc
    · exact hlater c hc
    · rw [List.mem_singleton.mp hc]
      exact hnew

lemma Tape.whole_commit {t : Tape} {operation : OperationId} (hnew : operation ∉ t.finished)
    (bytes : List UInt8) :
    (t.commit operation bytes).whole = t.whole := by
  show ((t.committed ++ [(operation, bytes)]).filter fun c => c.1 ∈ t.finished).flatMap
    Prod.snd = t.whole
  rw [List.filter_append, List.flatMap_append]
  simp [Tape.whole, hnew]

/-- A report on the front leaves the later frames where they are. -/
lemma Backed.confirm {t : Tape} {w v : QueuedWrite F} (h : Backed t v)
    (hfirst : ∀ before later, t.committed.map Prod.fst = before ++ v.operation :: later →
      w.operation ∉ later ∧ w.operation ≠ v.operation) (n : ℕ) : Backed (t.confirm w n) v := by
  obtain ⟨before, bytes, later, heq, hlater, hmine, hlen⟩ := h
  obtain ⟨hnot, hne⟩ := hfirst (before.map Prod.fst) (later.map Prod.fst) (by rw [heq]; simp)
  have hfinished : ∀ operation, operation ∉ t.finished → operation ≠ w.operation →
      operation ∉ (t.confirm w n).finished := by
    intro operation hold hne
    unfold Tape.confirm
    split
    · simp [hold, hne]
    · exact hold
  refine ⟨before, bytes, later, heq, fun c hc => ?_, hfinished _ hmine (Ne.symm hne), hlen⟩
  refine hfinished _ (hlater c hc) fun hceq => hnot ?_
  exact hceq ▸ List.mem_map_of_mem hc

/-- A report that leaves the front unfinished. -/
lemma Backed.progress {t : Tape} {w w' : QueuedWrite F} {n : ℕ} (h : Backed t w)
    (hsame : w'.operation = w.operation ∧ w'.effect = w.effect ∧ w'.measure = w.measure)
    (hlt : w.written + n < w.measure.wireBytes) : Backed (t.confirm w n) w' := by
  obtain ⟨before, bytes, later, heq, hlater, hmine, hlen⟩ := h
  have hfinished : (t.confirm w n).finished = t.finished := if_neg (by omega)
  unfold Backed
  rw [hsame.1, hsame.2.2, hfinished]
  exact ⟨before, bytes, later, heq, hlater, hmine, hlen⟩

/-- A report that finishes the front adds its frame to the complete ones. -/
lemma Tape.whole_finish {t : Tape} {w : QueuedWrite F} {n : ℕ} {bytes : List UInt8}
    {before later : List (OperationId × List UInt8)}
    (heq : t.committed = before ++ (w.operation, bytes) :: later)
    (hlater : ∀ c ∈ later, c.1 ∉ t.finished) (hmine : w.operation ∉ t.finished)
    (hnodup : (t.committed.map Prod.fst).Nodup) (hwhole : w.written + n = w.measure.wireBytes) :
    (t.confirm w n).whole = t.whole ++ bytes := by
  rw [heq] at hnodup
  obtain ⟨hb, hl⟩ := ne_key_of_nodup hnodup
  have hfinished : (t.confirm w n).finished = t.finished ++ [w.operation] := if_pos hwhole
  have hbefore : before.filter (fun c => c.1 ∈ t.finished ++ [w.operation]) =
      before.filter fun c => c.1 ∈ t.finished := by
    refine List.filter_congr fun c hc => ?_
    simp [hb c hc]
  have hnew : later.filter (fun c => c.1 ∈ t.finished ++ [w.operation]) = [] := by
    refine List.filter_eq_nil_iff.mpr fun c hc => ?_
    simp [hlater c hc, hl c hc]
  have hold : later.filter (fun c => c.1 ∈ t.finished) = [] := by
    refine List.filter_eq_nil_iff.mpr fun c hc => ?_
    simp [hlater c hc]
  show (t.committed.filter fun c => c.1 ∈ (t.confirm w n).finished).flatMap Prod.snd =
    t.whole ++ bytes
  unfold Tape.whole
  rw [hfinished, heq, List.filter_append, List.filter_append, hbefore,
    List.filter_cons_of_pos (by simp), hnew,
    List.filter_cons_of_neg (by simp [hmine]), hold, List.flatMap_append, List.flatMap_append]
  simp

lemma Tape.next_finished {t : Tape} {frames : List (QueuedWrite F)} {operation : OperationId}
    (h : operation ∈ (t.next frames r call).finished) :
    operation ∈ t.finished ∨ ∃ w ∈ frames, w.operation = operation := by
  unfold Tape.next at h
  split at h
  · exact Or.inl h
  · exact Or.inl h
  · split at h
    · next front rest =>
      unfold Tape.confirm at h
      split at h
      · rcases List.mem_append.mp h with h | h
        · exact Or.inl h
        · exact Or.inr ⟨front, List.mem_cons_self .., (List.mem_singleton.mp h).symm⟩
      · exact Or.inl h
    · exact Or.inl h
  · exact Or.inl h

lemma Epoch.Step.next_committed (h : Step e call r e') (t : Tape) :
    (t.next e.frames r call).committed.map Prod.fst = t.committed.map Prod.fst ++ r.accepted := by
  have hadvance : ∀ {effect : EffectId} {n : ℕ} {u : ConnectionTransition R},
      ((t.next e.frames (.transition (.ok u))
        (.advanceWrite e.epoch effect n : Call F R)).committed).map Prod.fst =
        t.committed.map Prod.fst ++ [] := by
    intro effect n u
    simp only [Tape.next, List.append_nil]
    split <;> rfl
  cases h with
  | committed => simp [Tape.next, Tape.commit, Response.accepted]
  | progressed => exact hadvance
  | finished => exact hadvance
  | completed => exact hadvance
  | ignored ignores => cases ignores <;> exact (List.append_nil _).symm
  | removed _ _ _ _ removes => cases removes <;> exact (List.append_nil _).symm
  | closed _ _ closes => cases closes <;> exact (List.append_nil _).symm
  | offered _ offers => cases offers <;> exact (List.append_nil _).symm
  | _ => exact (List.append_nil _).symm

section
omit [ByteBudget B]

/-- The part after the complete frames belongs to the front, when there is one. -/
lemma Remainder.owner_of_touches {h : List (CallEvent B F R)} {owner : Option OperationId}
    {tail : List UInt8} (hr : Remainder h e.frames owner tail) {operation : OperationId}
    (ht : e.Touches call operation) :
    owner = some operation := by
  obtain ⟨_, front, rest, _, hf, hid, _, _⟩ := ht
  cases hr with
  | idle empty => simp [empty] at hf
  | front here =>
    rw [hf] at here
    cases here
    rw [hid]
  | cut empty => simp [empty] at hf

/-- Frames of which nothing is written leave no part behind. -/
lemma remainder_fresh (h : List (CallEvent B F R)) (frames : List (QueuedWrite F))
    (hunwritten : ∀ w ∈ frames, w.written = 0) (hbacked : ∀ w ∈ frames, Backed (tape h) w) :
    ∃ owner, Remainder h frames owner [] := by
  cases frames with
  | nil => exact ⟨none, .idle rfl⟩
  | cons w rest =>
    obtain ⟨before, bytes, later, heq, _⟩ := hbacked w (List.mem_cons_self ..)
    have hrem : Remainder h (w :: rest) (some w.operation) (bytes.take w.written) :=
      .front rfl (by rw [heq]; simp)
    rw [hunwritten w (List.mem_cons_self ..), List.take_zero] at hrem
    exact ⟨_, hrem⟩

end

section
variable {h : List (CallEvent B F R)} {ev : CallEvent B F R} (hb : Holds limits ev.before e)
include hb

lemma tape_after : tape (h ++ [ev]) = (tape h).next e.frames ev.output ev.input := by
  rw [tape_snoc, Tape.after, hb.core.writer.frames]

lemma touched_after (operation : OperationId) :
    Touched (h ++ [ev]) operation ↔ Touched h operation ∨ e.Touches ev.input operation := by
  rw [touched_snoc, hb.touches_iff]

end

section Follow

variable {h : List (CallEvent B F R)} (hq : Wired h e) (hk : Books h e) (hw : e.Wf)
include hq

include hk hw in
omit [ByteBudget B] in
lemma Wired.front_first {w v : QueuedWrite F} {rest : List (QueuedWrite F)}
    (hf : e.frames = w :: rest) (hv : v ∈ rest) :
    ∀ before later, (tape h).committed.map Prod.fst = before ++ v.operation :: later →
      w.operation ∉ later ∧ w.operation ≠ v.operation := by
  intro before later hc
  rw [hq.committed] at hc
  exact hk.front_first hw hf hv hc

section
include hk
omit [ByteBudget B]

/-- The bytes of a frame are determined by its operation. -/
lemma Wired.bytes_eq {operation : OperationId} {xs ys : List UInt8}
    (hx : (operation, xs) ∈ (tape h).committed)
    (hy : (operation, ys) ∈ (tape h).committed) : xs = ys := by
  have hnodup : ((tape h).committed.map Prod.fst).Nodup := hq.committed ▸ hk.nodup
  exact congrArg Prod.snd (List.inj_on_of_nodup_map hnodup hx hy rfl)

/-- The bytes of a frame of the writer are those its operation was committed with. -/
lemma Wired.bytes_committed {operation : OperationId} {xs : List UInt8}
    (hx : (operation, xs) ∈ (tape h).committed) : (tape h).bytes operation = xs := by
  obtain ⟨before, later, heq⟩ := List.append_of_mem hx
  have hnodup : ((before ++ (operation, xs) :: later).map Prod.fst).Nodup :=
    heq ▸ hq.committed ▸ hk.nodup
  have hbefore : ∀ c ∈ before, decide (c.1 = operation) = false := fun c hc =>
    decide_eq_false ((ne_key_of_nodup hnodup).1 c hc)
  rw [Tape.bytes, heq, find?_mid hbefore (decide_eq_true rfl)]
  rfl

end

include hk hw in
omit [ByteBudget B] in
/-- The frames of the writer stay backed. -/
lemma Wired.frames_step (hm : Moves e call r e')
    (hl : ∀ p ∈ e.permits, p.operation ∉ (tape h).finished) :
    ∀ w ∈ e'.frames, Backed ((tape h).next e.frames r call) w := by
  intro v hv
  cases hm with
  | still quiet same =>
    rw [quiet]
    obtain ⟨w, hwm, hsame⟩ := same_of_mem same hv
    exact (hq.frames w hwm).same hsame
  | dropped quiet here gone =>
    rw [quiet]
    refine hq.frames v ?_
    rw [gone] at hv
    rw [here]
    exact ((List.sublist_cons_self _ _).append_left _).subset hv
  | cut _ empty => simp [empty] at hv
  | @committed p index frame view t healthy _ permit input output frames =>
    have hp := List.mem_of_getElem? permit
    rw [input, output]
    show Backed ((tape h).commit p.operation (view.bytes frame)) v
    rw [frames] at hv
    rcases List.mem_append.mp hv with hv | hv
    · exact (hq.frames v hv).commit (hl p hp) _
    · rw [List.mem_singleton.mp hv]
      exact ⟨(tape h).committed, view.bytes frame, [], rfl, by simp, hl p hp, rfl⟩
  | @offered w rest view maximum here input output same =>
    rw [same] at hv
    rw [input, output]
    exact hq.frames v hv
  | @progressed w w' rest n t here input output frames same written unfinished =>
    rw [input, output, here]
    show Backed ((tape h).confirm w n) v
    rw [frames] at hv
    rcases List.mem_cons.mp hv with rfl | hv
    · exact (hq.frames w (by rw [here]; exact List.mem_cons_self ..)).progress same unfinished
    · exact (hq.frames v (by rw [here]; exact List.mem_cons_of_mem _ hv)).confirm
        (hq.front_first hk hw here hv) n
  | @finished w rest n t here input output frames =>
    rw [input, output, here]
    show Backed ((tape h).confirm w n) v
    rw [frames] at hv
    exact (hq.frames v (by rw [here]; exact List.mem_cons_of_mem _ hv)).confirm
      (hq.front_first hk hw here hv) n

variable {ev : CallEvent B F R} (hb : Holds limits ev.before e)
include hb

/-- A step that leaves the tape alone. -/
lemma Wired.stream_quiet (quiet : ∀ t : Tape, t.next e.frames ev.output ev.input = t)
    (hrem : ∀ owner tail, Remainder h e.frames owner tail →
      Remainder (h ++ [ev]) e'.frames owner tail) :
    Streams (h ++ [ev]) e'.frames := by
  obtain ⟨owner, tail, hold, hstream, htouched⟩ := hq.stream
  unfold Streams
  rw [tape_after hb, quiet]
  refine ⟨owner, tail, hrem owner tail hold, hstream, fun operation htouch => ?_⟩
  rcases (touched_after hb operation).mp htouch with hwas | hnow
  · exact htouched operation hwas
  · exact Or.inr (hold.owner_of_touches hnow)

lemma Wired.stream_still (quiet : ∀ t : Tape, t.next e.frames ev.output ev.input = t)
    (same : List.Forall₂ Same e.frames e'.frames) : Streams (h ++ [ev]) e'.frames := by
  refine hq.stream_quiet hb quiet fun owner tail hrem => ?_
  have ht : tape (h ++ [ev]) = tape h := (tape_after hb).trans (quiet _)
  cases hrem with
  | idle empty =>
    rw [empty] at same
    exact .idle (List.forall₂_nil_left_iff.mp same)
  | front here committed =>
    rw [here] at same
    obtain ⟨f', rest', hsame, _, heq⟩ := List.forall₂_cons_left_iff.mp same
    rw [← hsame.operation, ← hsame.written]
    exact .front heq (by rw [ht, hsame.operation]; exact committed)
  | cut empty mem cuts there committed =>
    rw [empty] at same
    exact .cut (List.forall₂_nil_left_iff.mp same) (List.mem_append_left _ mem) cuts there
      (by rw [ht]; exact committed)

include hk in
/-- A frame of which nothing was sent leaves the writer. -/
lemma Wired.stream_dropped {pre post : List (QueuedWrite F)} {w : QueuedWrite F} {x : Item F}
    (quiet : ∀ t : Tape, t.next e.frames ev.output ev.input = t)
    (here : e.frames = pre ++ w :: post) (gone : e'.frames = pre ++ post)
    (unwritten : w.written = 0) (later : ∀ v ∈ post, v.written = 0) (mem : x ∈ e.lane)
    (id : x.id = w.operation) (unsent : x.delivery = .notSent)
    (untouched : ∀ operation, ¬e.Touches ev.input operation) : Streams (h ++ [ev]) e'.frames := by
  have ht : tape (h ++ [ev]) = tape h := (tape_after hb).trans (quiet _)
  cases pre with
  | cons f rest =>
    -- the front stays
    refine hq.stream_quiet hb quiet fun owner tail hrem => ?_
    cases hrem with
    | idle empty => simp [empty] at here
    | front front committed =>
      rw [here] at front
      cases front
      exact .front gone (by rw [ht]; exact committed)
    | cut empty => simp [empty] at here
  | nil =>
    -- the front goes: nothing of it was written, and nothing of the next one
    obtain ⟨owner, tail, hrem, hstream, htouched⟩ := hq.stream
    have hback : ∀ v ∈ e'.frames, Backed (tape (h ++ [ev])) v := by
      intro v hv
      rw [ht]
      rw [gone] at hv
      exact hq.frames v (by rw [here]; exact List.mem_cons_of_mem _ hv)
    obtain ⟨owner', hfresh⟩ :=
      remainder_fresh (h ++ [ev]) e'.frames (by rw [gone]; exact later) hback
    have hnot : ¬Touched h w.operation := by
      rw [← id, ← hk.told.lane x mem, unsent]
      simp
    cases hrem with
    | idle empty => simp [empty] at here
    | cut empty => simp [empty] at here
    | @front f rest bytes front committed =>
      rw [here] at front
      cases front
      refine ⟨owner', [], hfresh, ?_, fun operation htouch => ?_⟩
      · rw [ht, hstream, unwritten]
        rfl
      · rw [ht]
        refine Or.inl ((htouched operation ?_).resolve_right fun howner => ?_)
        · exact ((touched_after hb operation).mp htouch).resolve_right (untouched operation)
        · cases howner
          exact hnot (((touched_after hb _).mp htouch).resolve_right (untouched _))

/-- The frames are taken out of the writer. -/
lemma Wired.stream_cut (ha : Holds limits ev.after e')
    (quiet : ∀ t : Tape, t.next e.frames ev.output ev.input = t) (empty : e'.frames = [])
    (why : ev.input = .recover ∨ e.poisoned = none ∧ e.phase = .live ∧ e'.phase ≠ .live) :
    Streams (h ++ [ev]) e'.frames := by
  refine hq.stream_quiet hb quiet fun owner tail hrem => ?_
  have ht : tape (h ++ [ev]) = tape h := (tape_after hb).trans (quiet _)
  have hcuts : Cuts ev := by
    unfold Cuts
    rw [hb.core.policy.phase, ha.core.policy.phase]
    exact why.imp_right And.right
  cases hrem with
  | idle => exact .idle empty
  | front here committed =>
    exact .cut empty (List.mem_append_right _ (List.mem_singleton_self _)) hcuts
      (hb.core.writer.frames.trans here)
      (by rw [ht]; exact committed)
  | cut _ mem cuts there committed =>
    exact .cut empty (List.mem_append_left _ mem) cuts there (by rw [ht]; exact committed)

/-- A frame is appended. -/
lemma Wired.stream_committed {p : OperationPermit} {index : ℕ} {frame : F} {view : FrameView F}
    {t : ConnectionTransition R} (healthy : e.poisoned = none) (live : e.phase = .live)
    (fresh : p.operation ∉ (tape h).finished) (input : ev.input = .commit index frame view)
    (output : ev.output = .committed (.ok (p.operation, t)))
    (frames : e'.frames = e.frames ++
      [⟨p.operation, p.effect, frame, FrameMeasure.capture view frame, 0, false⟩])
    (untouched : ∀ operation, ¬e.Touches ev.input operation) : Streams (h ++ [ev]) e'.frames := by
  have ht : tape (h ++ [ev]) = (tape h).commit p.operation (view.bytes frame) := by
    rw [tape_after hb, input, output]
    rfl
  obtain ⟨owner, tail, hrem, hstream, htouched⟩ := hq.stream
  have hwas : ∀ operation, Touched (h ++ [ev]) operation → operation ∈ (tape h).finished ∨
      owner = some operation :=
    fun operation htouch => htouched operation
      (((touched_after hb operation).mp htouch).resolve_right (untouched operation))
  have hstream' : (tape (h ++ [ev])).stream = (tape (h ++ [ev])).whole ++ tail := by
    rw [ht, Tape.whole_commit fresh]
    exact hstream
  cases hrem with
  | idle empty =>
    rw [empty, List.nil_append] at frames
    have hmem : (p.operation, view.bytes frame) ∈ (tape (h ++ [ev])).committed := by
      rw [ht]
      exact List.mem_append_right _ (List.mem_singleton_self _)
    refine ⟨some p.operation, [], Remainder.front frames hmem, hstream',
      fun operation htouch => Or.inl ?_⟩
    · rw [ht]
      exact (hwas operation htouch).resolve_right (by simp)
  | front here committed =>
    refine ⟨_, _, .front (by rw [frames, here]; rfl) ?_, hstream', fun operation htouch => ?_⟩
    · rw [ht]
      exact List.mem_append_left _ committed
    · rw [ht]
      exact hwas operation htouch
  | cut _ mem cuts =>
    rcases hq.ended ⟨_, mem, cuts⟩ with hphase | hpoisoned
    · exact absurd live hphase
    · exact absurd healthy hpoisoned

lemma Wired.stream_offered {w : QueuedWrite F} {rest : List (QueuedWrite F)} {slice : WriteSlice}
    (here : e.frames = w :: rest) (output : ev.output = .offered (.ok (some slice)))
    (untouched : ∀ operation, ¬e.Touches ev.input operation) : Streams (h ++ [ev]) e.frames := by
  have ht : tape (h ++ [ev]) = (tape h).offer slice := by
    rw [tape_after hb, output]
    rfl
  obtain ⟨owner, tail, hrem, hstream, htouched⟩ := hq.stream
  refine ⟨owner, tail, ?_, by rw [ht]; exact hstream, fun operation htouch => ?_⟩
  · cases hrem with
    | idle empty => simp [empty] at here
    | front here committed => exact .front here (by rw [ht]; exact committed)
    | cut empty => simp [empty] at here
  · rw [ht]
    exact htouched operation (((touched_after hb operation).mp htouch).resolve_right
      (untouched operation))

include hk

/-- The part before a report is the written part of the front. -/
lemma Wired.front_part {w : QueuedWrite F} {rest : List (QueuedWrite F)}
    (here : e.frames = w :: rest) {bytes : List UInt8}
    (hmem : (w.operation, bytes) ∈ (tape h).committed) :
    (tape h).stream = (tape h).whole ++ bytes.take w.written ∧
      ∀ operation, Touched (h ++ [ev]) operation → operation ∈ (tape h).finished ∨
        operation = w.operation := by
  obtain ⟨owner, tail, hrem, hstream, htouched⟩ := hq.stream
  have howner : owner = some w.operation ∧ tail = bytes.take w.written := by
    cases hrem with
    | idle empty => simp [empty] at here
    | cut empty => simp [empty] at here
    | @front f rest' own front committed =>
      rw [here] at front
      cases front
      exact ⟨rfl, by rw [hq.bytes_eq hk committed hmem]⟩
  refine ⟨by rw [hstream, howner.2], fun operation htouch => ?_⟩
  rcases (touched_after hb operation).mp htouch with hwas | hnow
  · refine (htouched operation hwas).imp_right fun heq => ?_
    rw [howner.1] at heq
    exact (Option.some.inj heq).symm
  · have heq := hrem.owner_of_touches hnow
    rw [howner.1] at heq
    exact Or.inr (Option.some.inj heq).symm

/-- A report that leaves the front unfinished. -/
lemma Wired.stream_progressed {w w' : QueuedWrite F} {rest : List (QueuedWrite F)} {n : ℕ}
    {t : ConnectionTransition R} (here : e.frames = w :: rest)
    (input : ev.input = .advanceWrite e.epoch w.effect n) (output : ev.output = .transition (.ok t))
    (frames : e'.frames = w' :: rest) (operation : w'.operation = w.operation)
    (written : w'.written = w.written + n)
    (unfinished : w.written + n < w.measure.wireBytes) : Streams (h ++ [ev]) e'.frames := by
  have ht : tape (h ++ [ev]) = (tape h).confirm w n := by
    rw [tape_after hb, input, output, here]
    rfl
  have hfinished : ((tape h).confirm w n).finished = (tape h).finished := if_neg (by omega)
  obtain ⟨before, bytes, later, heq, _⟩ := hq.frames w (by rw [here]; exact List.mem_cons_self ..)
  have hmem : (w.operation, bytes) ∈ (tape h).committed := by rw [heq]; simp
  obtain ⟨hstream, htouched⟩ := hq.front_part hk hb here hmem
  refine ⟨some w'.operation, bytes.take w'.written, .front frames ?_, ?_,
    fun operation htouch => ?_⟩
  · rw [ht, ‹w'.operation = w.operation›]
    exact hmem
  · rw [ht, written, List.take_add, ← List.append_assoc]
    show (tape h).stream ++ (((tape h).bytes w.operation).drop w.written).take n =
      ((tape h).confirm w n).whole ++ _ ++ _
    rw [hq.bytes_committed hk hmem, hstream, Tape.whole, Tape.whole, hfinished]
    rfl
  · rw [ht, hfinished, ‹w'.operation = w.operation›]
    exact (htouched operation htouch).imp_right fun heq => congrArg some heq.symm

/-- A report of the last bytes of the front. -/
lemma Wired.stream_finished {w : QueuedWrite F} {rest : List (QueuedWrite F)} {n : ℕ}
    {t : ConnectionTransition R} (here : e.frames = w :: rest)
    (input : ev.input = .advanceWrite e.epoch w.effect n) (output : ev.output = .transition (.ok t))
    (frames : e'.frames = rest) (whole : w.written + n = w.measure.wireBytes)
    (later : ∀ v ∈ rest, v.written = 0)
    (hback : ∀ v ∈ e'.frames, Backed (tape (h ++ [ev])) v) : Streams (h ++ [ev]) e'.frames := by
  have ht : tape (h ++ [ev]) = (tape h).confirm w n := by
    rw [tape_after hb, input, output, here]
    rfl
  have hfinished : ((tape h).confirm w n).finished = (tape h).finished ++ [w.operation] :=
    if_pos whole
  obtain ⟨before, bytes, after, heq, hlater, hmine, hlen⟩ :=
    hq.frames w (by rw [here]; exact List.mem_cons_self ..)
  have hmem : (w.operation, bytes) ∈ (tape h).committed := by rw [heq]; simp
  obtain ⟨hstream, htouched⟩ := hq.front_part hk hb here hmem
  have hnodup : ((tape h).committed.map Prod.fst).Nodup := hq.committed ▸ hk.nodup
  obtain ⟨owner, hfresh⟩ :=
    remainder_fresh (h ++ [ev]) e'.frames (by rw [frames]; exact later) hback
  refine ⟨owner, [], hfresh, ?_, fun operation htouch => Or.inl ?_⟩
  · -- what was written and what is confirmed are together the whole frame
    have hall : bytes.take w.written ++ (bytes.drop w.written).take n = bytes := by
      rw [← List.take_add, whole, ← hlen, List.take_length]
    rw [ht, Tape.whole_finish heq hlater hmine hnodup whole, List.append_nil]
    show (tape h).stream ++ (((tape h).bytes w.operation).drop w.written).take n = _
    rw [hq.bytes_committed hk hmem, hstream, List.append_assoc, hall]
  · rw [ht, hfinished, List.mem_append, List.mem_singleton]
    exact htouched operation htouch

/-- **The stream along a step.** -/
lemma Wired.stream_step (ha : Holds limits ev.after e') (hm : Moves e ev.input ev.output e')
    (hl : ∀ p ∈ e.permits, p.operation ∉ (tape h).finished)
    (hback : ∀ v ∈ e'.frames, Backed (tape (h ++ [ev])) v) : Streams (h ++ [ev]) e'.frames := by
  cases hm with
  | still quiet same => exact hq.stream_still hb quiet same
  | dropped quiet here gone unwritten later mem id unsent untouched =>
    exact hq.stream_dropped hk hb quiet here gone unwritten later mem id unsent untouched
  | cut quiet empty why => exact hq.stream_cut hb ha quiet empty why
  | committed healthy live permit input output frames untouched =>
    exact hq.stream_committed hb healthy live (hl _ (List.mem_of_getElem? permit)) input output
      frames untouched
  | offered here input output same =>
    rw [same]
    exact hq.stream_offered hb here output (by rw [input]; exact not_touches (by simp))
  | progressed here input output frames same written unfinished =>
    exact hq.stream_progressed hk hb here input output frames same.1 written unfinished
  | finished here input output frames whole later =>
    exact hq.stream_finished hk hb here input output frames whole later hback

include hw in
/-- **The tape along a step.** -/
theorem Wired.step (ha : Holds limits ev.after e') (hs : Step e ev.input ev.output e') :
    Wired (h ++ [ev]) e' := by
  have hm := hs.moves hw
  have ht := tape_after (h := h) hb
  have hlater : ∀ p ∈ e.permits, p.operation ∉ (tape h).finished := by
    intro p hp hf
    exact (List.nodup_append.mp hk.ledgered.distinct).2.2 _ (hq.finished _ hf) _
      (List.mem_map_of_mem hp) rfl
  have hback : ∀ v ∈ e'.frames, Backed (tape (h ++ [ev])) v := by
    rw [ht]
    exact hq.frames_step hk hw hm hlater
  refine ⟨?_, ?_, hback, ?_, ?_⟩
  · rw [ht, hs.next_committed, hq.committed, accepted_snoc]
  · intro operation hf
    rw [ht] at hf
    rw [accepted_snoc]
    refine List.mem_append_left _ ?_
    rcases Tape.next_finished hf with hold | ⟨w, hwm, rfl⟩
    · exact hq.finished operation hold
    · exact (hk.frames_sublist hw).subset (List.mem_map_of_mem hwm)
  · rintro ⟨v, hv, hcuts⟩
    rcases List.mem_append.mp hv with hv | hv
    · rcases hq.ended ⟨v, hv, hcuts⟩ with hphase | hp
      · exact Or.inl fun hlive => hphase (hs.live_before hw hlive)
      · exact Or.inr (hs.poisoned hp).1
    · rw [List.mem_singleton.mp hv] at hcuts
      rcases hcuts with hrecover | ⟨_, hphase⟩
      · rw [hrecover] at hs
        exact Or.inr hs.recover_empties.1
      · exact Or.inl (ha.core.policy.phase ▸ hphase)
  · exact hq.stream_step hk hb ha hm hlater hback

end Follow

/-! ### Runs -/

/-- Across the call a frame of which bytes were written stays in the writer, or the call reports its
last bytes. -/
def Keeps (ev : CallEvent B F R) : Prop :=
  ∀ f ∈ ev.before.core.writes.frames, 0 < f.written → Finished [ev] f.operation ∨
    ∃ f' ∈ ev.after.core.writes.frames, f'.operation = f.operation ∧ f'.measure = f.measure ∧
      f.written ≤ f'.written

lemma Moves.keeps (h : Moves e call r e') (hlive : e'.phase = .live) (hrecover : call ≠ .recover)
    {f : QueuedWrite F} (hf : f ∈ e.frames)
    (hwritten : 0 < f.written) : e.Finishes call f.operation ∨
      ∃ f' ∈ e'.frames, f'.operation = f.operation ∧ f'.measure = f.measure ∧
        f.written ≤ f'.written := by
  have hstays : f ∈ e'.frames → e.Finishes call f.operation ∨
      ∃ f' ∈ e'.frames, f'.operation = f.operation ∧ f'.measure = f.measure ∧
          f.written ≤ f'.written :=
    fun hmem => Or.inr ⟨f, hmem, rfl, rfl, le_rfl⟩
  cases h with
  | still _ same =>
    obtain ⟨f', hf', hsame⟩ := mem_of_same same hf
    exact Or.inr ⟨f', hf', hsame.operation, hsame.measure, hsame.written.ge⟩
  | dropped _ here gone unwritten =>
    rw [here] at hf
    rcases List.mem_cons.mp (List.perm_middle.mem_iff.mp hf) with rfl | hmem
    · omega
    · exact hstays (gone ▸ hmem)
  | cut _ _ why => exact (why.elim hrecover fun hw => hw.2.2 hlive).elim
  | committed _ _ _ _ _ frames => exact hstays (by rw [frames]; exact List.mem_append_left _ hf)
  | offered _ _ _ same => exact hstays (by rw [same]; exact hf)
  | @progressed w w' rest n t here _ _ frames same written =>
    rw [here] at hf
    rcases List.mem_cons.mp hf with rfl | hmem
    · exact Or.inr ⟨w', by rw [frames]; exact List.mem_cons_self .., same.1, same.2.2, by omega⟩
    · exact hstays (by rw [frames]; exact List.mem_cons_of_mem _ hmem)
  | finished here input _ frames whole _ healthy =>
    rw [here] at hf
    rcases List.mem_cons.mp hf with rfl | hmem
    · exact Or.inl ⟨f, _, _, healthy, here, rfl, input, whole⟩
    · exact hstays (by rw [frames]; exact hmem)

/-- A slice the call offers is the next part of the front frame, of the bytes the frame shows. They
continue what was confirmed of it while they are those it was committed with. -/
def Continues (t : Tape) (ev : CallEvent B F R) : Prop :=
  ∀ view maximum slice, ev.input = .frontWrite view maximum →
    ev.output = .offered (.ok (some slice)) →
    ∃ f rest, ev.before.core.writes.frames = f :: rest ∧
      slice.operation = f.operation ∧ slice.effect = f.effect ∧
      slice.bytes = ((view.bytes f.frame).drop f.written).take maximum ∧
      (f.operation, t.bytes f.operation) ∈ t.committed ∧
      (t.bytes f.operation).length = (view.bytes f.frame).length

lemma Wired.continues {h : List (CallEvent B F R)} (hq : Wired h e) (hk : Books h e)
    {ev : CallEvent B F R} (hb : Holds limits ev.before e) (hs : Step e ev.input ev.output e') :
    Continues (tape h) ev := by
  intro view maximum slice hinput houtput
  rw [hinput, houtput] at hs
  cases hs with
  | offered _ offers =>
    cases offers with
    | @slice w rest front stable =>
      obtain ⟨before, bytes, later, heq, _, _, hlen⟩ :=
        hq.frames w (by rw [front]; exact List.mem_cons_self ..)
      have hmem : (w.operation, bytes) ∈ (tape h).committed := by rw [heq]; simp
      have hbytes := hq.bytes_committed hk hmem
      refine ⟨w, rest, hb.core.writer.frames.trans front, rfl, rfl, rfl, ?_, ?_⟩
      · rw [hbytes]
        exact hmem
      · rw [hbytes, hlen, stable]

end Bornera.Core
