import Bornera.Slot.Rotation

/-!
# The graceful shutdown

A drain that ends on an open transport is followed by a shutdown of that transport, within the
deadline of the drain. The shutdown is begun once, and the transport is given up only when it was
seen complete, when the deadline elapsed, when the transport failed, or when the caller gave it up.
The gestures of a transport are observed through `Watched`.
-/

namespace Bornera.Slot

open Bornera.Core Bornera.Core.Epoch Lib ConnectionSlot

variable {B D C R E T : Type} {Q W : Type → Type} [ByteBudget B] [FrameDecoder D R E] [Retained R]
  [InboundClassifier C R] [EventBatch Q] [TimerQueue W] [SlotTransport T]

/-! ### Watched transports -/

/-- What a transport does about its shutdown. -/
inductive Gesture where
  | begun | finished | erred
  deriving DecidableEq

/-- A transport with the list of its gestures. -/
structure Watched (T : Type) where
  inner : T
  gestures : List Gesture

namespace Watched

/-- The transport makes a step, with the gestures `gs`. -/
def goes {α : Type} (u : Watched T) (gs : List Gesture) (ran : α × T) : α × Watched T :=
  (ran.1, ⟨ran.2, u.gestures ++ gs⟩)

/-- A progression that fails. -/
def outcome {α β : Type} : Except α β → List Gesture
  | .ok _ => []
  | .error _ => [.erred]

/-- It does what its transport does, and lists its gestures. -/
instance : SlotTransport (Watched T) where
  read u {_} slice := u.goes [] (SlotTransport.read u.inner slice)
  write u bytes := u.goes [] (SlotTransport.write u.inner bytes)
  driveEstablishment u policy budget :=
    u.goes [] (SlotTransport.driveEstablishment u.inner policy budget)
  driveTransport u budget :=
    u.goes (outcome (SlotTransport.driveTransport u.inner budget).1)
      (SlotTransport.driveTransport u.inner budget)
  beginShutdown u budget :=
    u.goes (.begun :: outcome (SlotTransport.beginShutdown u.inner budget).1)
      (SlotTransport.beginShutdown u.inner budget)
  canEstablish u := u.goes [] (SlotTransport.canEstablish u.inner)
  hasTransportWork u := u.goes [] (SlotTransport.hasTransportWork u.inner)
  isShutdownComplete u :=
    u.goes (if (SlotTransport.isShutdownComplete u.inner).1 then [.finished] else [])
      (SlotTransport.isShutdownComplete u.inner)
  isOpen u := u.goes [] (SlotTransport.isOpen u.inner)
  canRead u := u.goes [] (SlotTransport.canRead u.inner)
  canWrite u := u.goes [] (SlotTransport.canWrite u.inner)
  desiredInterest u hasWrites := u.goes [] (SlotTransport.desiredInterest u.inner hasWrites)
  pressure u := u.goes [] (SlotTransport.pressure u.inner)
  pressureLimit u := u.goes [] (SlotTransport.pressureLimit u.inner)
  clearRead u := ⟨SlotTransport.clearRead u.inner, u.gestures⟩
  clearWrite u := ⟨SlotTransport.clearWrite u.inner, u.gestures⟩

end Watched

/-- The gestures from `u` to `u'` do not begin a shutdown. -/
def Continues (u u' : Watched T) : Prop := ∃ gs, u'.gestures = u.gestures ++ gs ∧ .begun ∉ gs

section
omit [SlotTransport T]

lemma continues_goes {α : Type} (u : Watched T) {gs : List Gesture} (ran : α × T)
    (h : .begun ∉ gs) : Continues u (u.goes gs ran).2 :=
  ⟨gs, rfl, h⟩

lemma continues_same {u u' : Watched T} (h : u'.gestures = u.gestures) : Continues u u' :=
  ⟨[], by rw [h, List.append_nil], by simp⟩

end

lemma begun_outcome {α β : Type} (r : Except α β) : .begun ∉ Watched.outcome r := by
  cases r <;> simp [Watched.outcome]

lemma continues_complete (u : Watched T) : Continues u (SlotTransport.isShutdownComplete u).2 := by
  refine continues_goes u _ ?_
  split <;> simp

/-- Only `begin_shutdown` begins a shutdown. -/
lemma Touch.continues {u u' : Watched T} (h : Touch u u') : Continues u u' := by
  cases h with
  | drive budget => exact continues_goes u _ (begun_outcome _)
  | isShutdownComplete => exact continues_complete u
  | clearRead => exact continues_same rfl
  | clearWrite => exact continues_same rfl
  | _ => exact continues_goes u _ (by simp)

omit [ByteBudget B] [Retained R] [InboundClassifier C R] [EventBatch Q] [TimerQueue W] in
lemma capture_gestures (s : ConnectionSlot B D C R Q W) (u : Watched T) :
    (captureTransportPressure (s, u)).2.2.gestures = u.gestures := by
  have hsame : (SlotTransport.pressure (SlotTransport.pressureLimit u).2).2.gestures =
      u.gestures := by
    show (u.gestures ++ []) ++ [] = u.gestures
    simp
  rw [capture_run]
  split
  · exact hsame
  · split <;> exact hsame

/-! ### What the gestures account for -/

/-- A shutdown under way, with its deadline. -/
def ShutdownState.Under (shutdown : ShutdownState) (deadline : Deadline) : Prop :=
  shutdown = .pending deadline ∨ shutdown = .started deadline

/-- A shutdown was begun and then seen complete. -/
def Finished (log : List Gesture) : Prop :=
  ∃ pre post, log = pre ++ .begun :: post ∧ .finished ∈ post

/-- What the state of a shutdown says about the gestures so far and the deadline of the drain. -/
def Attests (log : List Gesture) (drains : Option Deadline) (reason : CloseReason) :
    ShutdownState → Prop
  | .immediate => True
  | .pending deadline => reason = .drained ∧ drains = some deadline ∧ .begun ∉ log
  | .started deadline => reason = .drained ∧ drains = some deadline ∧ .begun ∈ log
  | .complete => reason = .drained ∧ Finished log

/-- A slot, the gestures of its transports so far, and the deadline of the
drain that was applied. -/
structure ShutdownAccounted (log : List Gesture) (drains : Option Deadline)
    (s : ConnectionSlot B D C R Q W) (e : Epoch OutboundFrame) : Prop where
  once : log.count .begun ≤ 1
  live : e.phase = .live → .begun ∉ log
  drain : ∀ deadline ∈ s.drainDeadline, drains = some deadline
  request : ∀ reason shutdown, s.closeRequest = some (.core reason shutdown) →
    Attests log drains reason shutdown

variable {permits : List OperationPermit} {log gs : List Gesture} {drains : Option Deadline}
  {e e' : Epoch OutboundFrame} {s s' : ConnectionSlot B D C R Q W} {reason : CloseReason}
  {shutdown : ShutdownState} {deadline : Deadline}

lemma Finished.more (h : Finished log) : Finished (log ++ gs) := by
  obtain ⟨pre, post, rfl, hmem⟩ := h
  exact ⟨pre, post ++ gs, by simp, List.mem_append_left _ hmem⟩

/-- A shutdown that was begun before is seen complete. -/
lemma finished_after (h : .begun ∈ log) (hgs : .finished ∈ gs) : Finished (log ++ gs) := by
  obtain ⟨pre, post, rfl⟩ := List.append_of_mem h
  exact ⟨pre, post ++ gs, by simp, List.mem_append_right _ hgs⟩

lemma Attests.more (h : Attests log drains reason shutdown) (hgs : .begun ∉ gs) :
    Attests (log ++ gs) drains reason shutdown := by
  cases shutdown with
  | immediate => trivial
  | pending => exact ⟨h.1, h.2.1, by simp [h.2.2, hgs]⟩
  | started => exact ⟨h.1, h.2.1, List.mem_append_left _ h.2.2⟩
  | complete => exact ⟨h.1, h.2.more⟩

section
omit [ByteBudget B] [Retained R] [InboundClassifier C R] [EventBatch Q] [TimerQueue W]

/-- **What leaves the close and the drain alone keeps the account.** -/
lemma ShutdownAccounted.quiet (h : ShutdownAccounted log drains s e) (hgs : .begun ∉ gs)
    (hrequest : s'.closeRequest = s.closeRequest)
    (hdrain : s'.drainDeadline = s.drainDeadline ∨ s'.drainDeadline = none)
    (hlive : e'.phase = .live → e.phase = .live) :
    ShutdownAccounted (log ++ gs) drains s' e' where
  once := by
    rw [List.count_append, List.count_eq_zero_of_not_mem hgs]
    exact h.once
  live hl := by simp [h.live (hlive hl), hgs]
  drain deadline hd := by
    rcases hdrain with hsame | hnone
    · exact h.drain deadline (hsame ▸ hd)
    · rw [hnone] at hd
      cases hd
  request reason shutdown hr := (h.request reason shutdown (hrequest ▸ hr)).more hgs

lemma ShutdownAccounted.same (h : ShutdownAccounted log drains s e)
    (hrequest : s'.closeRequest = s.closeRequest)
    (hdrain : s'.drainDeadline = s.drainDeadline ∨ s'.drainDeadline = none)
    (hlive : e'.phase = .live → e.phase = .live) :
    ShutdownAccounted log drains s' e' := by
  have hquiet : ShutdownAccounted (log ++ []) drains s' e' :=
    h.quiet (by simp) hrequest hdrain hlive
  rw [List.append_nil] at hquiet
  exact hquiet

/-- A slot without a close of the core. -/
lemma ShutdownAccounted.closed (h : ShutdownAccounted log drains s e) (drains' : Option Deadline)
    (hrequest : ∀ reason shutdown, s'.closeRequest ≠ some (.core reason shutdown))
    (hdrain : s'.drainDeadline = none)
    (hlive : e'.phase = .live → e.phase = .live) : ShutdownAccounted log drains' s' e' where
  once := h.once
  live hl := h.live (hlive hl)
  drain deadline hd := by
    rw [hdrain] at hd
    cases hd
  request reason shutdown hr := absurd hr (hrequest reason shutdown)

lemma ShutdownAccounted.latch (h : ShutdownAccounted log drains s e) (hrunning : s.state = .running)
    (drains' : Option Deadline) (reason : OwnerFailure) :
    ShutdownAccounted log drains' (s.latchOwnerFailure reason) e := by
  have hlatched : s.latchOwnerFailure reason =
      { s with state := .failed reason, drainDeadline := none, closeRequest := some .abort } := by
    unfold latchOwnerFailure
    rw [hrunning]
    rfl
  rw [hlatched]
  exact h.closed drains' (fun _ _ hr => by cases hr) rfl id

end

omit [ByteBudget B] [InboundClassifier C R] in
/-- **A close finds the shutdown that the drain asked for.** -/
lemma ShutdownAccounted.interpret {X : Type}
    {outcomeOf : OperationOutcome X → Except EngineInvariant (OperationOutcome R)}
    {tr : ConnectionTransition X} (h : ShutdownAccounted log drains s e)
    (hphase : InPhase s e e.phase)
    (hcloses : closings tr.effects = [] ∧ e'.phase = e.phase ∧ e'.closeReason = e.closeReason ∨
      ∃ reason, closings tr.effects = [reason] ∧ e.phase = .live ∧ e'.phase = .closing ∧
        e'.closeReason = some reason) :
    ShutdownAccounted log drains (ConnectionSlot.interpret outcomeOf tr s).2 e' := by
  rcases hcloses with ⟨hquiet, hsame, _⟩ | ⟨reason, hone, hlive, hclosing, _⟩
  · have hbooked : Booked s (ConnectionSlot.interpret outcomeOf tr s).2 := interpret_open hquiet s
    exact h.same (by rw [hbooked]) (.inl (by rw [hbooked])) (hsame ▸ id)
  · rw [hlive] at hphase
    obtain ⟨s₁, hbooked, hclosed, _⟩ := interpret_close outcomeOf hone hphase.1
    rw [hclosed]
    refine ⟨h.once, fun hl => (by rw [hclosing] at hl; cases hl), fun _ hd => (by cases hd), ?_⟩
    rintro reason' shutdown ⟨⟩
    have hdrain : s₁.drainDeadline = s.drainDeadline := by rw [hbooked]
    unfold ConnectionSlot.shutdownOf ConnectionSlot.shutdownFor
    split
    · next hfor =>
      split at hfor
      · next hdrained =>
        split at hfor
        · cases hfor
        · next deadline hsome =>
          cases hfor
          exact ⟨hdrained.2, h.drain deadline (hdrain ▸ hsome), h.live hlive⟩
      · cases hfor
        trivial
    · trivial

/-- How a shutdown goes on in the course of a call: it is begun, seen complete, or given up. -/
inductive Passes (cause : SlotCall T)
    (log : List Gesture) : ShutdownState → ShutdownState → Prop where
  | same (shutdown : ShutdownState) : Passes cause log shutdown shutdown
  | begun (deadline : Deadline) (begun : .begun ∈ log) : Passes cause log (.pending deadline)
    (.started deadline)
  | finished {shutdown : ShutdownState} {deadline : Deadline} (under : shutdown.Under deadline)
    (finished : .finished ∈ log) : Passes cause log shutdown .complete
  | elapsed {shutdown : ShutdownState} {deadline : Deadline} {now : ℕ} {transport : Option T}
    (under : shutdown.Under deadline)
    (called : cause = .driveQuantum now transport) (elapsed : deadline.isElapsedAt now = true) :
      Passes cause log shutdown .immediate
  | erred {shutdown : ShutdownState} {deadline : Deadline} (under : shutdown.Under deadline)
    (erred : .erred ∈ log) : Passes cause log shutdown .immediate
  | finalized {shutdown : ShutdownState} {deadline : Deadline} {reason : CloseReason}
    (under : shutdown.Under deadline) (called : cause = .finalize reason) :
    Passes cause log shutdown .immediate

variable {cause : SlotCall T} {shutdown' : ShutdownState}

section
omit [SlotTransport T]

lemma Passes.more (h : Passes cause log shutdown shutdown') :
    Passes cause (log ++ gs) shutdown shutdown' := by
  cases h with
  | same => exact .same _
  | begun deadline begun => exact .begun deadline (List.mem_append_left _ begun)
  | finished under finished => exact .finished under (List.mem_append_left _ finished)
  | elapsed under called elapsed => exact .elapsed under called elapsed
  | erred under erred => exact .erred under (List.mem_append_left _ erred)
  | finalized under called => exact .finalized under called

/-- A shutdown under way was under way, with the same deadline. -/
lemma Passes.under (h : Passes cause log shutdown shutdown') (hunder : shutdown'.Under deadline) :
    shutdown.Under deadline := by
  cases h with
  | same => exact hunder
  | begun deadline' begun =>
    rcases hunder with hpending | hstarted
    · cases hpending
    · cases hstarted
      exact .inl rfl
  | _ => rcases hunder with hpending | hstarted <;> contradiction

/-- A shutdown under way goes on. -/
lemma Passes.step {shutdown'' : ShutdownState} (h : Passes cause log shutdown shutdown')
    (hunder : shutdown'.Under deadline) (hstep : Passes cause (log ++ gs) shutdown' shutdown'') :
    Passes cause (log ++ gs) shutdown shutdown'' := by
  have hbefore := h.under hunder
  cases hstep with
  | same => exact h.more
  | begun deadline' begun =>
    rcases hunder with hpending | hstarted
    · cases hpending
      rcases hbefore with rfl | rfl
      · exact .begun _ begun
      · exact .same _
    · cases hstarted
  | finished _ finished => exact .finished hbefore finished
  | elapsed under called elapsed =>
    refine .elapsed (h.under under) called elapsed
  | erred _ erred => exact .erred hbefore erred
  | finalized _ called => exact .finalized hbefore called

end

/-! ### A step of the shutdown -/

/-- What a method that makes a step of the shutdown adds to the gestures. -/
structure Adds (shutdown : ShutdownState) (deadline : Deadline) (u u' : Watched T) {α : Type}
    (result : Except TransportDiagnostic α) (gs : List Gesture) : Prop where
  under : shutdown.Under deadline
  gestures : u'.gestures = u.gestures ++ gs
  erred : ∀ source, result = .error source → .erred ∈ gs
  once : gs.count .begun = if shutdown = .pending deadline then 1 else 0

lemma count_outcome {α β : Type} (r : Except α β) : (Watched.outcome r).count .begun = 0 :=
  List.count_eq_zero_of_not_mem (begun_outcome r)

lemma erred_outcome {α β : Type} {r : Except α β} {source : α} (h : r = .error source) :
    .erred ∈ Watched.outcome r := by
  rw [h]
  exact List.mem_singleton_self _

/-- **Only a pending shutdown is begun.** -/
lemma ShutsBy.adds
    {drive : Watched T → TransportBudget → Except TransportDiagnostic TransportProgress × Watched T}
    (h : ShutsBy (Watched T) deadline shutdown drive) (u : Watched T) (budget : TransportBudget) :
    ∃ gs, Adds shutdown deadline u (drive u budget).2 (drive u budget).1 gs := by
  cases h with
  | begin =>
    refine ⟨_, .inl rfl, rfl, fun source herror =>
      List.mem_cons_of_mem _ (erred_outcome herror), ?_⟩
    rw [List.count_cons_self, count_outcome, if_pos rfl]
  | drive =>
    refine ⟨_, .inr rfl, rfl, fun source herror => erred_outcome herror, ?_⟩
    rw [count_outcome, if_neg (by simp)]

section
omit [ByteBudget B] [Retained R] [InboundClassifier C R] [EventBatch Q] [TimerQueue W]

/-- Where a step of the shutdown leads: it is given up, goes on, or is seen complete. -/
lemma shutdownStep_cases (reason : CloseReason) (deadline : Deadline)
    (drive : Watched T → TransportBudget → Except TransportDiagnostic TransportProgress × Watched T)
    (s : ConnectionSlot B D C R Q W) (u : Watched T) :
    ∃ shutdown' gs, (shutdownStep reason deadline drive (s, u)).2.1.closeRequest =
      some (.core reason shutdown') ∧
      (shutdownStep reason deadline drive (s, u)).2.2.gestures =
        (drive u s.transportBudget).2.gestures ++ gs ∧ .begun ∉ gs ∧
      (shutdown' = .immediate ∧ (fault (shutdownStep reason deadline drive (s, u)).1 = none →
        ∃ source, (drive u s.transportBudget).1 = .error source) ∨
        shutdown' = .started deadline ∨ shutdown' = .complete ∧ .finished ∈ gs) := by
  have hgestures := capture_gestures s (drive u s.transportBudget).2
  rw [shutdownStep_run]
  generalize captureTransportPressure (s, (drive u s.transportBudget).2) = captured at hgestures ⊢
  obtain ⟨result, s₁, u₁⟩ := captured
  dsimp only at hgestures ⊢
  split
  · next source hdrive =>
      exact ⟨.immediate, [], rfl, by rw [List.append_nil]; exact hgestures, by simp,
        .inl ⟨rfl, fun _ => ⟨source, hdrive⟩⟩⟩
  · exact ⟨.immediate, [], rfl, by rw [List.append_nil]; exact hgestures, by simp,
      .inl ⟨rfl, fun h => by cases h⟩⟩
  · split
    · exact ⟨.immediate, [], rfl, by rw [List.append_nil]; exact hgestures, by simp,
        .inl ⟨rfl, fun h => by cases h⟩⟩
    · have hlooked : (SlotTransport.isShutdownComplete u₁).2.gestures =
          (drive u s.transportBudget).2.gestures ++
              (if (SlotTransport.isShutdownComplete u₁).1 then [.finished] else []) := by
        rw [← hgestures]
        rfl
      cases hcomplete : (SlotTransport.isShutdownComplete u₁).1 with
      | true =>
        rw [hcomplete] at hlooked
        exact ⟨.complete, [.finished], rfl, hlooked, by simp, .inr (.inr ⟨rfl, by simp⟩)⟩
      | false =>
        rw [hcomplete] at hlooked
        exact ⟨.started deadline, [], rfl, hlooked, by simp, .inr (.inl rfl)⟩

/-- **A step of the shutdown keeps the account**, and takes the shutdown on. -/
lemma ShutdownAccounted.shut
    {drive : Watched T → TransportBudget → Except TransportDiagnostic TransportProgress × Watched T}
    {u : Watched T} {past : List Gesture} (cause : SlotCall (Watched T))
    (h : ShutdownAccounted (past ++ u.gestures) drains s e) (hphase : e.phase ≠ .live)
    (hrequest : s.closeRequest = some (.core reason shutdown))
    (hshuts : ShutsBy (Watched T) deadline shutdown drive) :
    ShutdownAccounted (past ++ (shutdownStep reason deadline drive (s, u)).2.2.gestures) drains
      (shutdownStep reason deadline drive (s, u)).2.1 e ∧
      ∃ shutdown' gs, (shutdownStep reason deadline drive (s, u)).2.1.closeRequest =
        some (.core reason shutdown') ∧
        (shutdownStep reason deadline drive (s, u)).2.2.gestures = u.gestures ++ gs ∧
        (fault (shutdownStep reason deadline drive (s, u)).1 = none →
          Passes cause (u.gestures ++ gs) shutdown shutdown') := by
  obtain ⟨gs, hadds⟩ := hshuts.adds u s.transportBudget
  obtain ⟨shutdown', gs', hafter, hgestures, hbegun, hcases⟩ :=
    shutdownStep_cases reason deadline drive s u
  have hattests := h.request reason shutdown hrequest
  have hmore : (shutdownStep reason deadline drive (s, u)).2.2.gestures =
      u.gestures ++ (gs ++ gs') := by
    rw [hgestures, hadds.gestures, List.append_assoc]
  have hcount : (gs ++ gs').count .begun = if shutdown = .pending deadline then 1 else 0 := by
    rw [List.count_append, List.count_eq_zero_of_not_mem hbegun, hadds.once]
    rfl
  have hstarted : reason = .drained ∧ drains = some deadline ∧
      .begun ∈ past ++ u.gestures ++ (gs ++ gs') := by
    rcases hadds.under with rfl | rfl
    · refine ⟨hattests.1, hattests.2.1, List.mem_append_right _ (List.count_pos_iff.mp ?_)⟩
      rw [hcount, if_pos rfl]
      exact Nat.one_pos
    · exact ⟨hattests.1, hattests.2.1, List.mem_append_left _ hattests.2.2⟩
  have hbeganNow : shutdown = .pending deadline → .begun ∈ u.gestures ++ (gs ++ gs') := by
    intro hpending
    rw [if_pos hpending] at hcount
    exact List.mem_append_right _ (List.count_pos_iff.mp (by rw [hcount]; exact Nat.one_pos))
  refine ⟨⟨?_, fun hl => absurd hl hphase, ?_, ?_⟩, shutdown', gs ++ gs', hafter, hmore, ?_⟩
  · rw [hmore, ← List.append_assoc, List.count_append, hcount]
    rcases hadds.under with rfl | rfl
    · rw [List.count_eq_zero_of_not_mem hattests.2.2, if_pos rfl]
    · rw [if_neg (by simp)]
      exact h.once
  · have hframe := shutdownStep_frame reason deadline drive s u
    intro deadline' hd
    rw [hframe] at hd
    exact h.drain deadline' hd
  · intro reason' shutdown'' hr
    rw [hafter] at hr
    cases hr
    rw [hmore, ← List.append_assoc]
    rcases hcases with ⟨rfl, _⟩ | rfl | ⟨rfl, hfinished⟩
    · trivial
    · exact hstarted
    · refine ⟨hstarted.1, ?_⟩
      rcases hadds.under with rfl | rfl
      · have hbegan : .begun ∈ past ++ u.gestures ++ gs := by
          refine List.mem_append_right _ (List.count_pos_iff.mp ?_)
          rw [hadds.once, if_pos rfl]
          exact Nat.one_pos
        rw [← List.append_assoc]
        exact finished_after hbegan hfinished
      · exact finished_after hattests.2.2 (List.mem_append_right _ hfinished)
  · intro hok
    rcases hcases with ⟨rfl, herror⟩ | rfl | ⟨rfl, hfinished⟩
    · obtain ⟨source, hsource⟩ := herror hok
      exact .erred hadds.under (List.mem_append_right _
        (List.mem_append_left _ (hadds.erred source hsource)))
    · rcases hadds.under with rfl | rfl
      · exact .begun deadline (hbeganNow rfl)
      · exact .same _
    · exact .finished hadds.under (List.mem_append_right _ (List.mem_append_right _ hfinished))

end

/-! ### Moves -/

/-- The gestures of the transport at hand. -/
def gesturesOf (t : Option (Watched T)) : List Gesture := (t.map Watched.gestures).getD []

/-- What the moves of a call from `s₀` do about the shutdown. `past` are the
gestures before the call. -/
structure Parting (past : List Gesture) (drains : Option Deadline) (cause : SlotCall (Watched T))
    (s₀ : ConnectionSlot B D C R Q W) (sc : Scene B D C R Q W (Watched T)) : Prop where
  sound : sc.fault = none → sc.epoch.poisoned = none ∧ InPhase sc.slot sc.epoch sc.epoch.phase
  accounted : ShutdownAccounted (past ++ gesturesOf sc.transport) drains sc.slot sc.epoch
  passes : sc.fault = none → ∀ reason shutdown, s₀.closeRequest = some (.core reason shutdown) →
    ∃ shutdown', sc.slot.closeRequest = some (.core reason shutdown') ∧
      Passes cause (gesturesOf sc.transport) shutdown shutdown'
  opens : sc.fault = none → s₀.closeRequest = none → s₀.transportState = .opened →
    sc.slot.closeRequest = none ∧ sc.slot.transportState = .opened ∨
      ∃ reason shutdown', sc.slot.closeRequest = some (.core reason shutdown') ∧
        (reason = .drained → ∃ deadline, drains = some deadline ∧
          Passes cause (gesturesOf sc.transport) (.pending deadline) shutdown')

variable {past : List Gesture} {cause : SlotCall (Watched T)} {s₀ : ConnectionSlot B D C R Q W}
  {a b : Scene B D C R Q W (Watched T)}

section
omit [ByteBudget B] [Retained R] [InboundClassifier C R] [EventBatch Q] [TimerQueue W]
  [SlotTransport T]

/-- A move that leaves the close alone. -/
lemma Parting.same (h : Parting past drains cause s₀ a)
    (hsound : b.fault = none → b.epoch.poisoned = none ∧ InPhase b.slot b.epoch b.epoch.phase)
    (hfault : b.fault = none → a.fault = none)
    (hgestures : ∃ gs, gesturesOf b.transport = gesturesOf a.transport ++ gs ∧ .begun ∉ gs)
    (hrequest : b.slot.closeRequest = a.slot.closeRequest)
    (hdrain : b.slot.drainDeadline = a.slot.drainDeadline ∨ b.slot.drainDeadline = none)
    (hstate : a.slot.transportState = .opened → b.slot.transportState = .opened)
    (hlive : b.epoch.phase = .live → a.epoch.phase = .live) : Parting past drains cause s₀ b := by
  obtain ⟨gs, hgs, hbegun⟩ := hgestures
  refine ⟨hsound, ?_, fun hok reason shutdown hr => ?_, fun hok hnone hopened => ?_⟩
  · rw [hgs, ← List.append_assoc]
    exact h.accounted.quiet hbegun hrequest hdrain hlive
  · obtain ⟨shutdown', hr', hpasses⟩ := h.passes (hfault hok) reason shutdown hr
    exact ⟨shutdown', hrequest.trans hr', hgs ▸ hpasses.more⟩
  · rcases h.opens (hfault hok) hnone hopened
      with ⟨hstill, hopen⟩ | ⟨reason, shutdown', hr, hdrained⟩
    · exact .inl ⟨hrequest.trans hstill, hstate hopen⟩
    · refine .inr ⟨reason, shutdown', hrequest.trans hr, fun hreason => ?_⟩
      obtain ⟨deadline, hdrains, hpasses⟩ := hdrained hreason
      exact ⟨deadline, hdrains, hgs ▸ hpasses.more⟩

/-- A move that takes a shutdown under way on. -/
lemma Parting.on {shutdown' : ShutdownState} (h : Parting past drains cause s₀ a)
    (haccounted : ShutdownAccounted (past ++ gesturesOf b.transport) drains b.slot b.epoch)
    (hsound : b.fault = none → b.epoch.poisoned = none ∧ InPhase b.slot b.epoch b.epoch.phase)
    (hfault : a.fault = none) (hgestures : gesturesOf b.transport = gesturesOf a.transport ++ gs)
    (hbefore : a.slot.closeRequest = some (.core reason shutdown))
    (hafter : b.slot.closeRequest = some (.core reason shutdown'))
    (hunder : shutdown.Under deadline)
    (hstep : b.fault = none → Passes cause (gesturesOf a.transport ++ gs) shutdown shutdown') :
    Parting past drains cause s₀ b := by
  refine ⟨hsound, haccounted, fun hok reason' shutdown₀ hr => ?_, fun hok hnone hopened => ?_⟩
  · obtain ⟨shutdown₁, hr', hpasses⟩ := h.passes hfault reason' shutdown₀ hr
    rw [hbefore] at hr'
    cases hr'
    exact ⟨shutdown', hafter, hgestures ▸ hpasses.step hunder (hstep hok)⟩
  · rcases h.opens hfault hnone hopened with ⟨hstill, _⟩ | ⟨reason', shutdown₁, hr, hdrained⟩
    · rw [hbefore] at hstill
      cases hstill
    · rw [hbefore] at hr
      cases hr
      refine .inr ⟨reason, shutdown', hafter, fun hreason => ?_⟩
      obtain ⟨deadline', hdrains, hpasses⟩ := hdrained hreason
      exact ⟨deadline', hdrains, hgestures ▸ hpasses.step hunder (hstep hok)⟩

end

omit [ByteBudget B] [InboundClassifier C R] in
/-- The shutdown of a drained close on an open transport is pending. -/
lemma interpret_pending {X : Type}
    {outcomeOf : OperationOutcome X → Except EngineInvariant (OperationOutcome R)}
    {tr : ConnectionTransition X} (hone : closings tr.effects = [reason])
    (hnone : s.closeRequest = none) (hopened : s.transportState = .opened)
    (hok : (interpret outcomeOf tr s).1 = .ok ()) :
    ∃ shutdown, (interpret outcomeOf tr s).2.closeRequest = some (.core reason shutdown) ∧
      (reason = .drained → ∃ deadline ∈ s.drainDeadline, shutdown = .pending deadline) := by
  obtain ⟨s₁, hbooked, hclosed, hfound⟩ := interpret_close outcomeOf hone hnone
  obtain ⟨_, shutdown, hshutdown⟩ := hfound hok
  have hrequest : (interpret outcomeOf tr s).2.closeRequest = some (.core reason shutdown) := by
    rw [hclosed]
    unfold ConnectionSlot.closedBy ConnectionSlot.shutdownOf
    rw [hshutdown]
  refine ⟨shutdown, hrequest, fun hreason => ?_⟩
  have hstate : s₁.transportState = .opened ∧ s₁.drainDeadline = s.drainDeadline := by
    rw [hbooked]
    exact ⟨hopened, rfl⟩
  unfold ConnectionSlot.shutdownFor at hshutdown
  rw [if_pos ⟨hstate.1, hreason⟩, hstate.2] at hshutdown
  cases hdrain : s.drainDeadline with
  | none =>
    rw [hdrain] at hshutdown
    cases hshutdown
  | some deadline =>
    rw [hdrain] at hshutdown
    cases hshutdown
    exact ⟨deadline, rfl, rfl⟩

omit [SlotTransport T] [ByteBudget B] [InboundClassifier C R] in
/-- A move that interprets the effects of the core. -/
lemma Parting.interpreted {X : Type}
    {outcomeOf : OperationOutcome X → Except EngineInvariant (OperationOutcome R)}
    {tr : ConnectionTransition X} {t t' : Option (Watched T)}
    (h : Parting past drains cause s₀ ⟨s, t, e, none⟩) (hsame : s'.closeRequest = s.closeRequest)
    (hstate : s'.transportState = s.transportState)
    (hdrain : s'.drainDeadline = s.drainDeadline ∨ s'.drainDeadline = none)
    (hgestures : gesturesOf t' = gesturesOf t) (hphase : InPhase s' e e.phase)
    (hcloses : closings tr.effects = [] ∧ e'.phase = e.phase ∧ e'.closeReason = e.closeReason ∨
      ∃ reason, closings tr.effects = [reason] ∧ e.phase = .live ∧ e'.phase = .closing ∧
        e'.closeReason = some reason)
    (hsound : fault (interpret outcomeOf tr s').1 = none → e'.poisoned = none ∧
      InPhase (interpret outcomeOf tr s').2 e' e'.phase) :
    Parting past drains cause s₀
      ⟨(interpret outcomeOf tr s').2, t', e', fault (interpret outcomeOf tr s').1⟩ := by
  have haccounted : ShutdownAccounted (past ++ gesturesOf t') drains
      (interpret outcomeOf tr s').2 e' := by
    rw [hgestures]
    exact (h.accounted.same hsame hdrain id).interpret hphase hcloses
  rcases hcloses with ⟨hquiet, hlive, _⟩ | ⟨reason, hone, hlive, _⟩
  · have hbooked : Booked s' (interpret outcomeOf tr s').2 := interpret_open hquiet s'
    refine h.same hsound (fun _ => rfl) ⟨[], by rw [List.append_nil]; exact hgestures, by simp⟩ ?_
      ?_ ?_ (hlive ▸ id)
    · rw [hbooked]
      exact hsame
    · rw [hbooked]
      exact hdrain
    · rw [hbooked]
      exact fun hopen => hstate.trans hopen
  · rw [hlive] at hphase
    have hnone : s.closeRequest = none := hsame.symm.trans hphase.1
    refine ⟨hsound, haccounted, fun _ reason shutdown hr => ?_, fun hok hnone₀ hopened => ?_⟩
    · obtain ⟨_, hr', _⟩ := h.passes rfl reason shutdown hr
      cases hnone.symm.trans hr'
    · rcases h.opens rfl hnone₀ hopened with ⟨_, hopen⟩ | ⟨_, _, hr, _⟩
      · obtain ⟨shutdown, hrequest, hpending⟩ :=
          interpret_pending hone hphase.1 (hstate.trans hopen) (ok_of_fault hok)
        refine .inr ⟨reason, shutdown, hrequest, fun hreason => ?_⟩
        obtain ⟨deadline, hdeadline, rfl⟩ := hpending hreason
        refine ⟨deadline, h.accounted.drain deadline ?_, .same _⟩
        rcases hdrain with heq | hnone'
        · exact heq ▸ hdeadline
        · rw [hnone'] at hdeadline
          cases hdeadline
      · cases hnone.symm.trans hr

section
omit [ByteBudget B] [EventBatch Q]

lemma Occasion.gestures {t t' : Option (Watched T)} {call : Call OutboundFrame Unit}
    {tr : Option (ConnectionTransition Unit)}
    {f : ConnectionSlot B D C R Q W → ConnectionSlot B D C R Q W}
    (h : Occasion cause s t call tr f t') : gesturesOf t' = gesturesOf t := by
  cases h with
  | wrote _ offered here =>
    cases here
    exact List.append_nil _
  | _ => rfl

/-- Only the begin of a drain sets its deadline. -/
lemma Occasion.drain {t t' : Option T} {cause : SlotCall T} {call : Call OutboundFrame Unit}
    {tr : Option (ConnectionTransition Unit)}
    {f : ConnectionSlot B D C R Q W → ConnectionSlot B D C R Q W}
    (h : Occasion cause s t call tr f t') (hcause : ∀ deadline, cause ≠ .beginDrain deadline)
    (s₁ : ConnectionSlot B D C R Q W) :
    (f s₁).drainDeadline = s₁.drainDeadline ∨ (f s₁).drainDeadline = none := by
  cases h with
  | drained _ deadline called => exact absurd called (hcause deadline)
  | drainExpired => exact .inr rfl
  | elapsed =>
    refine .inl ?_
    dsimp only
    rw [popDue_frame]
  | _ => exact .inl rfl

end

section
omit [ByteBudget B] [Retained R] [InboundClassifier C R] [EventBatch Q] [TimerQueue W]

lemma forceShutdown_under {s s' : ConnectionSlot B D C R Q W} (h : s.forceShutdown = some s') :
    ∃ reason shutdown deadline, s.closeRequest = some (.core reason shutdown) ∧
      shutdown.Under deadline ∧
      s'.closeRequest = some (.core reason .immediate) ∧ s'.drainDeadline = s.drainDeadline := by
  unfold forceShutdown at h
  split at h
  · next reason deadline hrequest =>
    cases h
    exact ⟨reason, _, deadline, hrequest, .inl rfl, rfl, rfl⟩
  · next reason deadline hrequest =>
    cases h
    exact ⟨reason, _, deadline, hrequest, .inr rfl, rfl, rfl⟩
  · cases h

/-- A shutdown under way becomes one that is given up, or is seen complete. -/
lemma ShutdownAccounted.over (h : ShutdownAccounted (past ++ log) drains s e) (gs : List Gesture)
    {shutdown' : ShutdownState} (hphase : e.phase ≠ .live) (hgs : .begun ∉ gs)
    (hrequest : s'.closeRequest = some (.core reason shutdown'))
    (hdrain : s'.drainDeadline = s.drainDeadline)
    (hattests : Attests (past ++ (log ++ gs)) drains reason shutdown') :
    ShutdownAccounted (past ++ (log ++ gs)) drains s' e where
  once := by
    rw [← List.append_assoc, List.count_append, List.count_eq_zero_of_not_mem hgs]
    exact h.once
  live hl := absurd hl hphase
  drain deadline hd := h.drain deadline (hdrain ▸ hd)
  request reason' shutdown'' hr := by
    rw [hrequest] at hr
    cases hr
    exact hattests

end

/-- **Moves keep the account of the shutdown.** -/
theorem Move.parting (h : Move permits cause a b)
    (hcause : ∀ deadline, cause ≠ .beginDrain deadline) (ha : Owns permits a.slot a.epoch)
    (hi : Parting past drains cause s₀ a) : Parting past drains cause s₀ b := by
  have hsound := h.inPhase ha hi.sound
  have hstill {t : Option (Watched T)} : ∃ gs, gesturesOf t = gesturesOf t ++ gs ∧
    Gesture.begun ∉ gs := ⟨[], by simp, by simp⟩
  have hgone {u u' : Watched T} (hu : Continues u u') :
    ∃ gs, gesturesOf (some u') = gesturesOf (some u) ++ gs ∧ Gesture.begun ∉ gs := hu
  -- a shutdown under way is one of a closing epoch
  have hclosing {reason : CloseReason} {shutdown : ShutdownState} (hok : a.fault = none)
      (hr : a.slot.closeRequest = some (.core reason shutdown)) : a.epoch.phase ≠ .live := by
    rw [((hi.sound hok).2.closing_of hr).1]
    simp
  cases h with
  | @exchange s t t' e e' call tr f core occasion step holds =>
    have hframe := occasion.frame { s with core }
    exact hi.interpreted (by rw [hframe]) (by rw [hframe]) (occasion.drain hcause { s with core })
      occasion.gestures
      (occasion.inPhase step (hi.sound rfl).2)
        (step.closes ha.wf fun epoch => occasion.unconfirming epoch) hsound
  | @refused s t t' e e' call source f core occasion step holds =>
    have hframe := occasion.frame { s with core }
    refine hi.same hsound (fun _ => rfl)
      ⟨[], by rw [List.append_nil]; exact occasion.gestures, by simp⟩ (by rw [hframe])
      (occasion.drain hcause { s with core }) (by rw [hframe]; exact id) (step.live_before ha.wf)
  | @replied s t e e' frame key tr decoder classifier core next small keyed step holds =>
    exact hi.interpreted rfl rfl (.inl rfl)
      rfl (InPhase.congr (hi.sound rfl).2 rfl (hi.sound rfl).2.undrained rfl rfl)
      (step.closes ha.wf fun epoch => by simp) hsound
  | replyRefused next small keyed step holds =>
    exact hi.same hsound (fun _ => rfl) hstill rfl (.inl rfl) id (step.live_before ha.wf)
  | fronted step holds =>
    exact hi.same hsound (fun _ => rfl) hstill rfl (.inl rfl) id (step.live_before ha.wf)
  | @admitted s t e e' tr core opened applied step holds =>
    refine hi.same hsound (fun _ => rfl) hstill ?_ (.inl ?_) ?_ (step.live_before ha.wf) <;>
      rw [publishAdmissionOpened, publishNext_frame]
    exact id
  | opened s t e connecting pending open_ =>
    refine hi.same hsound (fun _ => rfl) (hgone (Touch.isOpen t).continues) ?_ (.inl ?_) ?_ id <;>
      rw [publishTransportOpened, publishNext_frame]
    exact fun _ => rfl
  | pressed s t e flt =>
    have hframe := capture_frame s t
    refine hi.same hsound ?_ ⟨[], ?_, by simp⟩ ?_ (.inl ?_) ?_ id
    · cases flt with
      | none => exact fun _ => rfl
      | some => exact fun hnone => by cases hnone
    · rw [List.append_nil]
      exact capture_gestures s t
    · rw [hframe]
    · rw [hframe]
    · rw [hframe]
      exact id
  | quiet s t e undue =>
    refine hi.same hsound id hstill ?_ (.inl ?_) ?_ id <;> rw [popDue_frame]
    exact id
  | forced s s' t e called forced =>
    obtain ⟨reason, shutdown, deadline, hbefore, hunder, hafter, hdrain⟩ :=
      forceShutdown_under forced
    refine hi.on ?_ hsound rfl (List.append_nil _).symm hbefore hafter hunder fun _ =>
      .finalized hunder called
    have hover := hi.accounted.over [] (hclosing rfl hbefore) (by simp) hafter hdrain trivial
    rw [List.append_nil] at hover
    exact hover
  | @timedOut s t e now transport reason shutdown deadline called request graceful elapsed =>
    refine hi.on ?_ hsound rfl (List.append_nil _).symm request rfl graceful fun _ =>
      .elapsed graceful called elapsed
    have hover : ShutdownAccounted (past ++ (gesturesOf t ++ [])) drains
        (s.shutdownTimedOut reason) e :=
      hi.accounted.over [] (hclosing rfl request) (by simp) rfl rfl trivial
    rw [List.append_nil] at hover
    exact hover
  | @completed s t e reason deadline request complete =>
    have hgestures : (SlotTransport.isShutdownComplete t).2.gestures =
        t.gestures ++ [.finished] := by
      have hcomplete : (SlotTransport.isShutdownComplete t.inner).1 = true := complete
      show t.gestures ++ (if (SlotTransport.isShutdownComplete t.inner).1 then
        [.finished] else []) = _
      rw [if_pos hcomplete]
    have hattests := hi.accounted.request reason _ request
    refine hi.on ?_ hsound rfl hgestures request rfl (.inr rfl) fun _ =>
      .finished (.inr rfl) (by simp)
    have haccounted : ShutdownAccounted (past ++ (t.gestures ++ [.finished])) drains
        (s.completeShutdown reason) e :=
      hi.accounted.over [.finished] (hclosing rfl request) (by simp) rfl rfl
        ⟨hattests.1, by rw [← List.append_assoc]; exact finished_after hattests.2.2 (by simp)⟩
    show ShutdownAccounted (past ++ (SlotTransport.isShutdownComplete t).2.gestures) drains _ _
    rw [hgestures]
    exact haccounted
  | @shut s t e reason shutdown deadline drive request shuts =>
    obtain ⟨haccounted, shutdown', gs, hafter, hgestures, hpasses⟩ :=
      ShutdownAccounted.shut cause hi.accounted (hclosing rfl request) request shuts
    have hunder : shutdown.Under deadline := by cases shuts <;> simp [ShutdownState.Under]
    exact hi.on haccounted hsound rfl hgestures request hafter hunder hpasses
  | touched s e touch => exact hi.same hsound id (hgone touch.continues) rfl (.inl rfl) id id
  | overread s t e =>
    exact hi.same hsound (fun _ => rfl) (hgone (Touch.read t _).continues) rfl (.inl rfl) id id
  | misreported s e misreports =>
    refine hi.same hsound (fun _ => rfl) ?_ rfl (.inl rfl) id id
    cases misreports with
    | establishing => exact hgone (Touch.establish _ _ _).continues
    | driving => exact hgone (Touch.drive _ _).continues
  | openedEarly s t e =>
    exact hi.same hsound (fun _ => rfl) (hgone (Touch.isOpen t).continues) rfl (.inl rfl) id id
  | _ => exact hi.same hsound (fun _ => rfl) hstill rfl (.inl rfl) id id

/-! ### Calls -/

/-- The call, with its transport watched. -/
def SlotCall.watched : SlotCall T → SlotCall (Watched T)
  | .reserve now options => .reserve now options
  | .commit index frame => .commit index frame
  | .commitForeign permit frame => .commitForeign permit frame
  | .dropPermit index => .dropPermit index
  | .openAdmission => .openAdmission
  | .cancel operation => .cancel operation
  | .beginDrain deadline => .beginDrain deadline
  | .finalize reason => .finalize reason
  | .driveQuantum now transport => .driveQuantum now (transport.map (⟨·, []⟩))
  | .drainOutcomes => .drainOutcomes
  | .drainEvents => .drainEvents
  | .settleTransportClosed => .settleTransportClosed
  | .recover reason => .recover reason

omit [SlotTransport T] in
lemma watched_transport (call : SlotCall T) : gesturesOf call.watched.transport = [] := by
  cases call with
  | driveQuantum now transport => cases transport <;> rfl
  | _ => rfl

/-- The deadline of a drain that the call applied. -/
def drainBy (call : SlotCall T) (r : SlotResponse R T) : Option Deadline :=
  match call, r with
  | .beginDrain deadline, .disposed (.ok .applied) => some deadline
  | _, _ => none

/-- A call that leaves the slot running keeps its close: the reason stays until the close is
settled, and a drained close of an open transport starts with the pending shutdown of its drain. -/
structure KeepsClose (call : SlotCall (Watched T)) (r : SlotResponse R (Watched T))
    (drains : Option Deadline) (s s' : ConnectionSlot B D C R Q W) : Prop where
  goes : s'.state = .running → ∀ reason shutdown, s.closeRequest = some (.core reason shutdown) →
    r = .settled true ∧ (CloseDirective.core reason shutdown).settlementReady = true ∧
      s'.closeRequest = none ∨
      ∃ shutdown', s'.closeRequest = some (.core reason shutdown') ∧
        Passes call (gesturesOf r.transport) shutdown shutdown'
  comes : s'.state = .running → s.closeRequest = none → s.transportState = .opened → ∀ shutdown',
    s'.closeRequest = some (.core .drained shutdown') →
      ∃ deadline, drains = some deadline ∧
        Passes call (gesturesOf r.transport) (.pending deadline) shutdown'

variable {call : SlotCall (Watched T)} {r : SlotResponse R (Watched T)}

section
omit [ByteBudget B] [Retained R] [InboundClassifier C R] [EventBatch Q] [TimerQueue W]
  [SlotTransport T]

/-- A slot that has failed. -/
lemma KeepsClose.failed (h : s'.state ≠ .running) : KeepsClose call r drains s s' :=
  ⟨fun hr => absurd hr h, fun hr => absurd hr h⟩

/-- A call that leaves the close alone. -/
lemma KeepsClose.kept (h : s'.closeRequest = s.closeRequest) : KeepsClose call r drains s s' :=
  ⟨fun _ _ shutdown hr => .inr ⟨shutdown, h.trans hr, .same _⟩, fun _ hnone _ _ hr =>
    by cases (h.trans hnone).symm.trans hr⟩

/-- A call that settles the close. -/
lemma KeepsClose.settled (h : s.closeRequest = some (.core reason shutdown))
    (hready : shutdown = .immediate ∨ shutdown = .complete)
    (hnone : s'.closeRequest = none) : KeepsClose call (.settled true) drains s s' := by
  refine ⟨fun _ reason' shutdown' hr => ?_, fun _ hbefore _ _ _ => by cases h.symm.trans hbefore⟩
  rw [h] at hr
  cases hr
  rcases hready with rfl | rfl <;> exact .inl ⟨rfl, rfl, hnone⟩

end

/-- **Every call but the begin of a drain keeps the account.** -/
lemma ShutdownAccounted.step {permits' : List OperationPermit}
    (h : ShutdownAccounted log drains s e) (hphased : Phased s e) (howns : Owns permits s e)
    (hstep : SlotStep s e permits call r (some s') e' permits')
    (hcall : gesturesOf call.transport = []) (hdrain : ∀ deadline, call ≠ .beginDrain deadline) :
    KeepsClose call r drains s s' ∧
      ShutdownAccounted (log ++ gesturesOf r.transport) drains s' e' := by
  have hkept {s₁ : ConnectionSlot B D C R Q W} {e₁ : Epoch OutboundFrame}
    {r : SlotResponse R (Watched T)}
      (hr : gesturesOf r.transport = []) (hrequest : s₁.closeRequest = s.closeRequest)
      (hdeadline : s₁.drainDeadline = s.drainDeadline)
        (hlive : e₁.phase = .live → e.phase = .live) :
      KeepsClose call r drains s s₁ ∧
          ShutdownAccounted (log ++ gesturesOf r.transport) drains s₁ e₁ := by
    rw [hr, List.append_nil]
    exact ⟨.kept hrequest, h.same hrequest (.inl hdeadline) hlive⟩
  cases hstep with
  | unavailable => exact hkept rfl rfl rfl id
  | asleep asleep guards unmoved => exact hkept (unmoved ▸ hcall) rfl rfl id
  | drove running guards path latched =>
    have hstart : Parting log drains call s ⟨s, call.transport, e, none⟩ := by
      refine ⟨fun _ => hphased.running running, ?_, fun _ reason shutdown hr =>
        ⟨shutdown, hr, .same _⟩, fun _ hnone hopened => .inl ⟨hnone, hopened⟩⟩
      rw [hcall, List.append_nil]
      exact h
    have hend := path.keeps howns hstart fun a b hmove ha hi => hmove.parting hdrain ha hi
    cases latched with
    | running =>
      refine ⟨⟨fun _ reason shutdown hr =>
        .inr (hend.passes rfl reason shutdown hr), fun _ hnone hopened shutdown' hr => ?_⟩,
          hend.accounted⟩
      rcases hend.opens rfl hnone hopened with ⟨hstill, _⟩ | ⟨reason, shutdown'', hr', hdrained⟩
      · cases hstill.symm.trans hr
      · cases hr'.symm.trans hr
        exact hdrained rfl
    | failed error =>
      exact ⟨.failed (latchOwnerFailure_state _ _),
        hend.accounted.latch ((path.owns howns).1.state.trans running) drains _⟩
  | refused refuses latched =>
    have hr : gesturesOf r.transport = [] := by cases refuses <;> rfl
    rcases latched with rfl | ⟨running, _, rfl⟩
    · exact hkept hr rfl rfl id
    · rw [hr, List.append_nil]
      exact ⟨.failed (latchOwnerFailure_state _ _), h.latch running drains _⟩
  | returned running step =>
    cases step
    exact hkept rfl rfl rfl id
  | reserved running step room =>
    cases step
    exact hkept rfl rfl rfl id
  | @committed _ _ _ _ index frame operation tr core running step latched =>
    have hquiet : closings tr.effects = [] ∧ e'.phase = e.phase := by
      cases step
      exact ⟨rfl, rfl⟩
    have hbooked : Booked { s with core } (interpretUnit tr { s with core }).2 :=
      interpret_open hquiet.1 _
    have hsame : KeepsClose _ (.committed
      (commitResult operation (interpretUnit tr { s with core }).1)) drains s _ ∧
        ShutdownAccounted (log ++ []) drains (interpretUnit tr { s with core }).2 e' :=
      hkept rfl (by rw [hbooked]) (by rw [hbooked]) (hquiet.2 ▸ id)
    generalize fault (interpretUnit tr { s with core }).1 = flt at latched
    cases latched with
    | running => exact hsame
    | failed error =>
      refine ⟨.failed (latchOwnerFailure_state _ _), hsame.2.latch ?_ drains _⟩
      exact (interpret_state ..).trans running
  | dropped => exact hkept rfl rfl rfl id
  | drainedOutcomes => exact hkept rfl rfl rfl id
  | drainedEvents => exact hkept rfl rfl rfl id
  | unsettled => exact hkept rfl rfl rfl id
  | aborted e permits request =>
    have hfailed : s.state ≠ .running := by
      intro hrunning
      have hphase := (hphased.running hrunning).2
      cases hp : e.phase <;> rw [hp] at hphase <;> simp [InPhase, request] at hphase
    refine ⟨.failed hfailed, ?_⟩
    show ShutdownAccounted (log ++ []) drains s.abortTransport e
    rw [List.append_nil]
    exact h.closed drains (fun _ _ hr => by cases hr) rfl id
  | confirmed request ready step published =>
    obtain ⟨_, _, _, hnone, _⟩ := hphased.of_core request
    refine ⟨.settled request ready ?_, ?_⟩
    · rw [publishClosed, publishNext_frame]
    · show ShutdownAccounted (log ++ []) drains _ _
      rw [List.append_nil]
      refine h.closed drains (fun _ _ hr => ?_) ?_ (step.live_before howns.wf) <;>
        rw [publishClosed, publishNext_frame] at *
      · cases hr
      · exact hnone
  | unpublished request ready step published =>
    refine ⟨.failed (latchOwnerFailure_state _ _), ?_⟩
    show ShutdownAccounted (log ++ []) drains _ _
    rw [List.append_nil]
    exact h.closed drains (fun _ _ hr => by cases hr) rfl (step.live_before howns.wf)
  | unconfirmed request ready step =>
    refine ⟨.failed (latchOwnerFailure_state _ _), ?_⟩
    show ShutdownAccounted (log ++ []) drains _ _
    rw [List.append_nil]
    exact h.closed drains (fun _ _ hr => by cases hr) rfl (step.live_before howns.wf)

/-- What the core does with the begin of a drain: it leaves the epoch alone, or
drains a live one. -/
lemma drain_answer {epoch : ConnectionEpoch} {tr : ConnectionTransition Unit}
    (h : Epoch.Step e (.apply (.beginDrain epoch)) (.transition (.ok tr)) e') :
    tr.disposition ≠ .applied ∧ tr.effects = [] ∨ tr.disposition = .applied ∧ e.phase = .live := by
  cases h with
  | ignored _ _ nothing quiet =>
    refine .inl ⟨fun happlied => ?_, quiet⟩
    rw [happlied] at nothing
    cases nothing
  | removed _ _ _ _ removes => cases removes
  | closed _ _ closes => cases closes
  | draining _ live gate => exact .inr ⟨rfl, live⟩

omit [Retained R] [InboundClassifier C R] [EventBatch Q] [TimerQueue W] in
/-- The account is one of the slot and the phase of its core. -/
lemma ShutdownAccounted.owned {permits' : List OperationPermit}
    (h : ShutdownAccounted log drains s e) (he : Owns permits s e) (he' : Owns permits' s e') :
    ShutdownAccounted log drains s e' :=
  h.same rfl (.inl rfl) fun hlive => by rw [← he.core.policy.phase, he'.core.policy.phase, hlive]

omit [SlotTransport T] [InboundClassifier C R] in
/-- **The begin of a drain keeps the account**, with the deadline of a drain that is applied. -/
lemma ShutdownAccounted.beginDrainInner (h : ShutdownAccounted log drains s e)
    (hphase : InPhase s e e.phase) (howns : Owns permits s e) (deadline : Deadline) :
    ∃ e' drains', Owns permits (ConnectionSlot.beginDrainInner deadline s).2 e' ∧
      ShutdownAccounted log drains' (ConnectionSlot.beginDrainInner deadline s).2 e' ∧
      ∀ disposition, (ConnectionSlot.beginDrainInner deadline s).1 = .ok disposition →
        drains' = (if disposition = .applied then some deadline else drains) ∧
        KeepsClose call r drains' s (ConnectionSlot.beginDrainInner deadline s).2 := by
  obtain ⟨e', hholds, hstep, _⟩ :=
    follows_step howns s.debug (.apply (.beginDrain s.epoch) : Call OutboundFrame Unit)
  simp only [World.step, World.transition] at hholds hstep
  rw [beginDrainInner_run]
  cases hm : (ConnectionCore.apply s.debug (.beginDrain s.epoch) : ConnectionCore.Run B
      OutboundFrame (ConnectionTransition Unit)) s.core with
  | mk answer core =>
  rw [hm] at hholds hstep
  cases answer with
  | error source =>
    simp only [answered, hm, Option.any_none, Bool.false_eq_true, if_false]
    exact ⟨e', drains, hholds, h.same rfl (.inl rfl) (hstep.live_before howns.wf),
      fun _ hok => by cases hok⟩
  | ok tr =>
    have hcloses := hstep.closes howns.wf fun epoch => by simp
    simp only [answered, hm, Option.any_some, decide_eq_true_eq]
    rcases drain_answer hstep with ⟨hignored, hquiet⟩ | ⟨happlied, hlive⟩
    · rw [if_neg hignored]
      have hclosings : closings tr.effects = [] := by rw [hquiet]; rfl
      have hbooked : Booked { s with core } (interpretUnit tr { s with core }).2 :=
        interpret_open hclosings _
      have hrequest : (interpretUnit tr { s with core }).2.closeRequest = s.closeRequest := by
        rw [hbooked]
      refine ⟨e', drains, owns_of_eq (interpret_limits ..) (interpret_core ..) hholds, ?_,
        fun disposition hok => ?_⟩
      · exact h.same hrequest (.inl (by rw [hbooked])) (hstep.live_before howns.wf)
      · refine ⟨?_, .kept hrequest⟩
        cases hresult : (interpretUnit tr { s with core }).1 with
        | error error =>
          rw [hresult] at hok
          cases hok
        | ok =>
          rw [hresult] at hok
          cases hok
          exact (if_neg hignored).symm
    · rw [if_pos happlied]
      rw [hlive] at hphase
      have hbefore : ShutdownAccounted log (some deadline)
          { s with core, drainDeadline := some deadline } e := by
        refine ⟨h.once, h.live, fun _ hd => hd, fun reason shutdown hr => ?_⟩
        cases hphase.1.symm.trans hr
      have hin : InPhase { s with core, drainDeadline := some deadline } e e.phase := by
        rw [hlive]
        exact hphase
      refine ⟨e', some deadline, owns_of_eq (interpret_limits ..) (interpret_core ..) hholds,
        hbefore.interpret hin hcloses, fun disposition hok => ?_⟩
      cases hresult : (interpretUnit tr { s with core, drainDeadline := some deadline }).1 with
      | error error =>
        rw [hresult] at hok
        cases hok
      | ok =>
        rw [hresult] at hok
        cases hok
        refine ⟨(if_pos happlied).symm, fun _ _ _ hr =>
          (by cases hphase.1.symm.trans hr), fun _ _ hopened shutdown' hr => ?_⟩
        rcases hcloses with ⟨hquiet, _⟩ | ⟨reason, hone, _⟩
        · have hbooked : Booked { s with core, drainDeadline := some deadline }
              (interpretUnit tr { s with core, drainDeadline := some deadline }).2 :=
                interpret_open hquiet _
          rw [hbooked] at hr
          cases hphase.1.symm.trans hr
        · obtain ⟨shutdown, hrequest, hpending⟩ :=
            interpret_pending hone (by exact hphase.1) (by exact hopened) hresult
          cases hrequest.symm.trans hr
          obtain ⟨_, ⟨⟩, rfl⟩ := hpending rfl
          exact ⟨deadline, rfl, .same _⟩

omit [InboundClassifier C R] in
lemma beginDrainInner_own (deadline : Deadline) (s : ConnectionSlot B D C R Q W) :
    Own (ConnectionSlot.beginDrainInner deadline s).1 ∧
      (ConnectionSlot.beginDrainInner deadline s).2.state = s.state := by
  rw [beginDrainInner_run]
  cases hm : (ConnectionCore.apply s.debug (.beginDrain s.epoch) : ConnectionCore.Run B
      OutboundFrame (ConnectionTransition Unit)) s.core with
  | mk answer core =>
  cases answer with
  | error source =>
    simp only [answered, hm, Option.any_none, Bool.false_eq_true, if_false]
    exact ⟨fun _ h => (by cases h), trivial⟩
  | ok tr =>
    simp only [answered, hm]
    refine ⟨((own_interpret unitOutcome tr _).map _).map _, (interpret_state ..).trans ?_⟩
    split <;> rfl

omit [SlotTransport T] [InboundClassifier C R] in
/-- The same for the call. -/
lemma ShutdownAccounted.beginDrain (h : ShutdownAccounted log drains s e) (hphased : Phased s e)
    (howns : Owns permits s e) (hcall : call = .beginDrain deadline)
    (hr : r = .disposed (ConnectionSlot.beginDrain deadline s).1) :
    KeepsClose call r ((drainBy call r).or drains) s (ConnectionSlot.beginDrain deadline s).2 ∧
      ∃ e', Owns permits (ConnectionSlot.beginDrain deadline s).2 e' ∧
        ShutdownAccounted (log ++ gesturesOf r.transport) ((drainBy call r).or drains)
          (ConnectionSlot.beginDrain deadline s).2 e' := by
  have htransport : gesturesOf r.transport = [] := by rw [hr]; rfl
  rw [htransport, List.append_nil]
  cases hstate : s.state with
  | failed reason =>
    have hrun : ConnectionSlot.beginDrain deadline s = (.error (.ownerFailed reason), s) := by
      simp only [ConnectionSlot.beginDrain, ConnectionSlot.guarded, Owner.bind_run, ensureRunning,
        hstate, EngineState.failure]
    rw [hrun] at hr ⊢
    subst hcall hr
    exact ⟨.kept rfl, e, howns, h⟩
  | running =>
    have hrun : ConnectionSlot.beginDrain deadline s =
      ((ConnectionSlot.beginDrainInner deadline s).1,
        latchResult (ConnectionSlot.beginDrainInner deadline s).2
            (ConnectionSlot.beginDrainInner deadline s).1) := by
      simp only [ConnectionSlot.beginDrain, ConnectionSlot.guarded, Owner.bind_run, ensureRunning,
        hstate, EngineState.failure, latch_run]
    obtain ⟨hown, hsame⟩ := beginDrainInner_own deadline s
    have hlatched := latched_of_own hown (ConnectionSlot.beginDrainInner deadline s).2
    obtain ⟨e', drains', howns', haccounted,
      (hkeeps : ∀ disposition, _ → _ ∧ KeepsClose call r _ _ _)⟩ :=
      h.beginDrainInner (r := r) (hphased.running hstate).2 howns deadline
    rw [hrun] at hr ⊢
    dsimp only at hr ⊢
    cases hresult : (ConnectionSlot.beginDrainInner deadline s).1 with
    | error error =>
      rw [hresult] at hlatched
      generalize latchResult (ConnectionSlot.beginDrainInner deadline s).2 (.error error) =
        s' at hlatched ⊢
      have howned := howns'.latched hlatched
      cases hlatched with
      | failed =>
        exact ⟨.failed (latchOwnerFailure_state _ _), e', howned,
          haccounted.latch (hsame.trans hstate) _ _⟩
    | ok disposition =>
      obtain ⟨hdrains, hkeeps⟩ := hkeeps disposition hresult
      rw [hresult] at hr
      have hafter : (drainBy call r).or drains = drains' := by
        rw [hcall, hr, hdrains]
        by_cases happlied : disposition = .applied
        · rw [if_pos happlied, happlied]
          rfl
        · rw [if_neg happlied]
          cases disposition <;> first | rfl | exact absurd rfl happlied
      rw [hafter]
      exact ⟨hkeeps, e', howns', haccounted⟩

/-! ### Runs -/

/-- The gestures of the transports of a run. -/
def gesturesIn (h : List (SlotEvent B D C R Q W (Watched T))) : List Gesture :=
  h.flatMap fun ev => gesturesOf ev.output.transport

/-- The deadline of the drain of a run. -/
def drainOf (h : List (SlotEvent B D C R Q W (Watched T))) : Option Deadline :=
  (h.filterMap fun ev => drainBy ev.input ev.output).getLast?

section
omit [ByteBudget B] [Retained R] [InboundClassifier C R] [EventBatch Q] [TimerQueue W]
  [SlotTransport T]

lemma gesturesIn_snoc (h : List (SlotEvent B D C R Q W (Watched T)))
    (ev : SlotEvent B D C R Q W (Watched T)) :
    gesturesIn (h ++ [ev]) = gesturesIn h ++ gesturesOf ev.output.transport := by
  simp [gesturesIn]

lemma drainOf_snoc (h : List (SlotEvent B D C R Q W (Watched T)))
    (ev : SlotEvent B D C R Q W (Watched T)) :
    drainOf (h ++ [ev]) = (drainBy ev.input ev.output).or (drainOf h) := by
  cases hdrain : drainBy ev.input ev.output <;> simp [drainOf, hdrain]

end

omit [Retained R] [SlotTransport T] in
lemma drainBy_other {call : SlotCall (Watched T)} {r : SlotResponse R (Watched T)}
    (h : ∀ deadline, call ≠ .beginDrain deadline) : drainBy call r = none := by
  cases call with
  | beginDrain deadline => exact absurd rfl (h deadline)
  | _ => rfl

/-- **One call keeps the account.** -/
lemma ShutdownAccounted.called (h : ShutdownAccounted log drains s e) (hphased : Phased s e)
    (howns : Owns permits s e) {call : SlotCall (Watched T)}
    (htransport : gesturesOf call.transport = [])
    (hslot : (SlotWorld.slotStep s permits call).1.slot = some s')
    (hr : r = (SlotWorld.slotStep s permits call).2) :
    KeepsClose call r ((drainBy call r).or drains) s s' ∧
      ∃ e', Owns (SlotWorld.slotStep s permits call).1.permits s' e' ∧ Phased s' e' ∧
        ShutdownAccounted (log ++ gesturesOf r.transport) ((drainBy call r).or drains) s' e' := by
  obtain ⟨e', hstep, hnext⟩ := follows_slot howns call
  have howns' := hnext s' hslot
  rw [hslot] at hstep
  have hphased' := hphased.step howns hstep
  by_cases hdrain : ∃ deadline, call = .beginDrain deadline
  · obtain ⟨deadline, rfl⟩ := hdrain
    cases hslot
    obtain ⟨hkeeps, e₁, howns₁, haccounted⟩ := h.beginDrain hphased howns rfl hr
    exact ⟨hkeeps, e', howns', hphased', haccounted.owned howns₁ howns'⟩
  · have hother : ∀ deadline, call ≠ .beginDrain deadline :=
      fun deadline hcall => hdrain ⟨deadline, hcall⟩
    rw [← hr] at hstep
    obtain ⟨hkeeps, haccounted⟩ := h.step hphased howns hstep htransport hother
    rw [drainBy_other hother]
    exact ⟨hkeeps, e', howns', hphased', haccounted⟩

/-- What a run says about the shutdown of its slot. -/
structure ShutdownAccountedRun (h : List (SlotEvent B D C R Q W (Watched T)))
    (w : SlotWorld B D C R Q W) : Prop where
  once : (gesturesIn h).count .begun ≤ 1
  accounted : ∀ s ∈ w.slot, ∃ e, Owns w.permits s e ∧ Phased s e ∧
    ShutdownAccounted (gesturesIn h) (drainOf h) s e

omit [SlotTransport T] [Retained R] [InboundClassifier C R] in
lemma ShutdownAccountedRun.new (setup : SlotSetup D C R E) :
    ShutdownAccountedRun ([] : List (SlotEvent B D C R Q W (Watched T))) ⟨some setup.slot, []⟩ := by
  refine ⟨Nat.zero_le _, fun s hs => ?_⟩
  cases hs
  exact ⟨_, holds_new .., Phased.new setup, Nat.zero_le _, fun _ =>
    (by simp [gesturesIn]), fun _ h => (by cases h), fun _ _ h => (by cases h)⟩

/-- A call of a slot that is kept. -/
lemma ShutdownAccountedRun.keepsClose {h : List (SlotEvent B D C R Q W (Watched T))}
    {w : SlotWorld B D C R Q W} (hw : ShutdownAccountedRun h w) {call : SlotCall (Watched T)}
    (htransport : gesturesOf call.transport = []) (hs : s ∈ w.slot)
    (hs' : s' ∈ (SlotWorld.step w call).1.slot) :
    KeepsClose call (SlotWorld.step w call).2
      (drainOf (h ++ [Transducer.event SlotWorld.step w call])) s s' ∧
      ∃ e', Owns (SlotWorld.step w call).1.permits s' e' ∧ Phased s' e' ∧
        ShutdownAccounted (gesturesIn (h ++ [Transducer.event SlotWorld.step w call]))
          (drainOf (h ++ [Transducer.event SlotWorld.step w call])) s' e' := by
  obtain ⟨slot, permits⟩ := w
  cases hs
  obtain ⟨e, howns, hphased, haccounted⟩ := hw.accounted s rfl
  rw [gesturesIn_snoc, drainOf_snoc]
  exact haccounted.called hphased howns htransport hs' rfl

/-- A call that leaves no slot makes no gesture. -/
lemma ShutdownAccountedRun.gone {h : List (SlotEvent B D C R Q W (Watched T))}
    {w : SlotWorld B D C R Q W} (hw : ShutdownAccountedRun h w) {call : SlotCall (Watched T)}
    (hnone : (SlotWorld.step w call).1.slot = none) :
    gesturesOf (SlotWorld.step w call).2.transport = [] := by
  obtain ⟨slot, permits⟩ := w
  cases slot with
  | none => cases call <;> rfl
  | some s =>
    obtain ⟨e, howns, _⟩ := hw.accounted s rfl
    obtain ⟨e', hstep, _⟩ := follows_slot howns call
    have hnone' : (SlotWorld.slotStep s permits call).1.slot = none := hnone
    rw [hnone'] at hstep
    have hrun : (SlotWorld.step ⟨some s, permits⟩ call).2 =
      (SlotWorld.slotStep s permits call).2 := rfl
    rw [hrun]
    generalize (SlotWorld.slotStep s permits call).2 = r at hstep ⊢
    generalize (SlotWorld.slotStep s permits call).1.permits = permits' at hstep
    cases hstep
    rfl

/-- A slot does not come back. -/
lemma slot_of_step {w : SlotWorld B D C R Q W} {call : SlotCall T}
    (hs' : s' ∈ (SlotWorld.step w call).1.slot) : ∃ s, s ∈ w.slot := by
  obtain ⟨slot, permits⟩ := w
  cases slot with
  | none => cases call <;> cases hs'
  | some s => exact ⟨s, rfl⟩

/-- **Every call of a run keeps what the run says.** -/
lemma ShutdownAccountedRun.step {h : List (SlotEvent B D C R Q W (Watched T))}
    {w : SlotWorld B D C R Q W} (hw : ShutdownAccountedRun h w) {call : SlotCall (Watched T)}
    (htransport : gesturesOf call.transport = []) :
    ShutdownAccountedRun (h ++ [Transducer.event SlotWorld.step w call])
      (SlotWorld.step w call).1 := by
  refine ⟨?_, fun s' hs' => ?_⟩
  · cases hafter : (SlotWorld.step w call).1.slot with
    | none =>
      rw [gesturesIn_snoc]
      show (gesturesIn h ++ gesturesOf (SlotWorld.step w call).2.transport).count .begun ≤ 1
      rw [hw.gone hafter, List.append_nil]
      exact hw.once
    | some s' =>
      obtain ⟨s, hs⟩ := slot_of_step (Option.mem_def.mpr hafter)
      obtain ⟨_, e', _, _, haccounted⟩ := hw.keepsClose htransport hs (Option.mem_def.mpr hafter)
      exact haccounted.once
  · obtain ⟨s, hs⟩ := slot_of_step hs'
    exact (hw.keepsClose htransport hs hs').2

/-- Every run says what it says of its shutdown. -/
theorem shutdownAccounted_run (setup : SlotSetup D C R E) (calls : List (SlotCall T)) :
    ShutdownAccountedRun (setup.history B Q W (calls.map SlotCall.watched))
      (setup.final B Q W (calls.map SlotCall.watched)) := by
  induction calls using List.reverseRecOn with
  | nil => exact .new setup
  | append_singleton calls call ih =>
    rw [List.map_append, List.map_singleton]
    show ShutdownAccountedRun (Transducer.history _ _ _) (Transducer.final _ _ _)
    rw [Transducer.history_snoc, Transducer.final_snoc]
    exact ih.step (watched_transport call)

/-- **The graceful shutdown.** However a slot is called and whatever its transports do: a shutdown
is begun at most once, and the state of a close accounts for the gestures and for the deadline of
the drain. In each call that leaves the slot running a close keeps its reason until it is settled,
and its shutdown goes on: a shutdown under way is given up only over the deadline of the drain, a
failure of the transport, or a finalization; a drained close of an open transport starts with the
pending shutdown of its drain, and no close is settled while its shutdown is under way. -/
theorem graceful_shutdown_safe (setup : SlotSetup D C R E) (calls : List (SlotCall T)) :
    (gesturesIn (setup.history B Q W (calls.map SlotCall.watched))).count .begun ≤ 1 ∧
    (∀ s ∈ (setup.final B Q W (calls.map SlotCall.watched)).slot, ∀ reason shutdown,
      s.closeRequest = some (.core reason shutdown) →
      Attests (gesturesIn (setup.history B Q W (calls.map SlotCall.watched)))
        (drainOf (setup.history B Q W (calls.map SlotCall.watched))) reason shutdown) ∧
    (∀ pre ev post, setup.history B Q W (calls.map SlotCall.watched) = pre ++ ev :: post →
      ∀ s ∈ ev.before.slot, ∀ s' ∈ ev.after.slot,
        KeepsClose ev.input ev.output (drainOf (pre ++ [ev])) s s') := by
  refine ⟨(shutdownAccounted_run setup calls).once, fun s hs reason shutdown hr =>
    ?_, fun pre ev post hsplit s hs s' hs' => ?_⟩
  · obtain ⟨e, _, _, haccounted⟩ := (shutdownAccounted_run setup calls).accounted s hs
    exact haccounted.request reason shutdown hr
  · obtain ⟨before, call, after, hcalls, rfl, rfl⟩ := Transducer.history_split hsplit
    obtain ⟨before', rest, rfl, rfl, hrest⟩ := List.map_eq_append_iff.mp hcalls
    obtain ⟨call', after', rfl, rfl, rfl⟩ := List.map_eq_cons_iff.mp hrest
    exact ((shutdownAccounted_run setup before').keepsClose (watched_transport call') hs hs').1

/-- Opens a transport, drains its slot, and settles the close. -/
def drainCalls : List (SlotCall Peer) :=
  [.driveQuantum 0 (some .waiting), .openAdmission, .beginDrain ⟨9⟩,
    .driveQuantum 1 (some ⟨true, [], false⟩), .settleTransportClosed]

example : gesturesIn (SlotSetup.sample.history Counted ListBatch ListTimers
    (drainCalls.map SlotCall.watched)) = [.begun, .finished] := by
  decide +kernel

end Bornera.Slot
