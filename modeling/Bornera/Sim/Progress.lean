import Bornera.Sim.Replay
import Bornera.Slot.Outstanding

/-!
# A replay ends within its bounds

Between two events of a replay, the timeline has the stimuli that are still to come and at most one
event for a deadline, which is the next one of a running slot. Every stimulus can arm one deadline,
and every deadline event uses one up or finds the slot failed. So the loop delivers each stimulus
once, and a deadline at most once more than there are stimuli.
-/

namespace Bornera.Sim

open Bornera.Core Slot Lib ReplayOwner

variable {B : Type} {Q W Z : Type → Type} [ByteBudget B] [EventBatch Q] [BoundedTimers W]
  [Timeline Z]

/-! ### The owner -/

/-- How many deadlines the slot of a replay still has. -/
def ReplayOwner.remaining (o : ReplayOwner B Q W) : ℕ :=
  (o.slot.map ConnectionSlot.remaining).getD 0

/-- The slot of a replay is between two calls. -/
def ReplayOwner.Sane (o : ReplayOwner B Q W) : Prop := ∀ s ∈ o.slot, Kept [] s

variable {o o' o'' : ReplayOwner B Q W}

/-- What becomes of an owner that takes `k` stimuli. -/
structure Advances (k : ℕ) (o o' : ReplayOwner B Q W) : Prop where
  sane : o'.Sane
  remaining : o'.remaining ≤ o.remaining + k
  accepted : o'.accepted.length ≤ o.accepted.length + k
  observations : o'.observations = o.observations
  deadline : o'.deadline = o.deadline
  horizon : o'.horizon = o.horizon

section
omit [EventBatch Q]

lemma Advances.refl (h : o.Sane) : Advances 0 o o := ⟨h, le_rfl, le_rfl, rfl, rfl, rfl⟩

lemma Advances.trans {k k' : ℕ} (h : Advances k o o') (h' : Advances k' o' o'') :
    Advances (k + k') o o'' := by
  obtain ⟨_, hremaining, haccepted, hobservations, hdeadline, hhorizon⟩ := h
  obtain ⟨hsane, hremaining', haccepted', hobservations', hdeadline', hhorizon'⟩ := h'
  exact ⟨hsane, by omega, by omega, hobservations'.trans hobservations, hdeadline'.trans hdeadline,
    hhorizon'.trans hhorizon⟩

lemma Advances.weaken {k k' : ℕ} (h : Advances k o o') (hle : k ≤ k') : Advances k' o o' :=
  { h with
    remaining := h.remaining.trans (Nat.add_le_add_left hle _)
    accepted := h.accepted.trans (Nat.add_le_add_left hle _) }

/-- A stimulus of the transport. -/
lemma Advances.transport (h : o.Sane) (transport : SimTransport) :
    Advances 0 o { o with transport } :=
  ⟨h, le_rfl, le_rfl, rfl, rfl, rfl⟩

/-- A call of the slot. -/
lemma Advances.call {k : ℕ} {s s' : SimSlot B Q W} {transport : SimTransport}
    (hslot : o.slot = some s) (hkept : Kept [] s') (hle : s'.remaining ≤ s.remaining + k) :
    Advances k o { o with slot := some s', transport } := by
  refine ⟨fun s hs => ?_, ?_, Nat.le_add_right _ _, rfl, rfl, rfl⟩
  · obtain rfl : s' = s := Option.some.inj hs
    exact hkept
  · simpa [ReplayOwner.remaining, hslot] using hle

end

/-- A commit under the only permit: accepted or not, no permit is left. -/
lemma submit_kept {s : SimSlot B Q W} {permit : OperationPermit} (h : Kept [permit] s)
    (accepted : List Accepted) (frame : SimFrame) :
    Kept [] (submit s accepted permit frame).2.1 ∧
      (submit s accepted permit frame).2.1.remaining ≤ s.remaining + 1 ∧
      (submit s accepted permit frame).2.2.length ≤ accepted.length + 1 := by
  have hdrop : ∀ {s₁ : SimSlot B Q W}, Kept [permit] s₁ → Kept [] (SlotWorld.dropPermit s₁ permit) ∧
      (SlotWorld.dropPermit s₁ permit).remaining ≤ s₁.remaining := fun h₁ =>
    h₁.call (.dropPermit 0 : SlotCall SimTransport) rfl
  unfold submit
  dsimp only
  split
  · obtain ⟨hkept, hle⟩ := hdrop h
    exact ⟨hkept, hle.trans (Nat.le_succ _), Nat.le_succ _⟩
  · next outbound _ =>
    have hcall : (SlotWorld.slotStep s [permit] (.commit 0 outbound : SlotCall SimTransport)).1 =
      ⟨some (s.commit permit outbound).2, if (acceptedBy (s.commit permit outbound).1).isSome then
        [] else [permit]⟩ := rfl
    obtain ⟨hkept, hle⟩ := h.call _ hcall
    split
    · next hrun =>
      rw [hrun] at hkept hle
      exact ⟨hkept, hle, by simp⟩
    · next hrun =>
      rw [hrun] at hkept hle
      obtain ⟨hkept', hle'⟩ := hdrop hkept
      exact ⟨hkept', hle'.trans hle, Nat.le_succ _⟩
    · next hrun =>
      rw [hrun] at hkept hle
      exact ⟨hkept, hle, by simp⟩
    · next hrun =>
      rw [hrun] at hkept hle
      obtain ⟨hkept', hle'⟩ := hdrop hkept
      exact ⟨hkept', hle'.trans hle, Nat.le_succ _⟩

/-- **A stimulus arms at most one deadline**, and at most one operation is accepted by it. -/
theorem applyAction_advances (h : o.Sane) (now : ℕ) (action : SlotAction) :
    Advances 1 o (o.applyAction now action).2 := by
  have hstay : Advances 1 o o := (Advances.refl h).weaken (Nat.zero_le 1)
  have htransport : ∀ transport, Advances 1 o { o with transport } := fun transport =>
    (Advances.transport h transport).weaken (Nat.zero_le 1)
  obtain ⟨slot, transport, accepted, observations, recovery, deadline, horizon⟩ := o
  cases slot with
  | none => exact hstay
  | some s =>
    have hkept : Kept [] s := h s rfl
    unfold applyAction
    cases action with
    | connectReady => exact htransport _
    | openAdmission =>
      obtain ⟨hkept', hle⟩ := hkept.call (.openAdmission : SlotCall SimTransport) rfl
      exact (Advances.call rfl hkept' hle).weaken (Nat.zero_le 1)
    | submit options frame =>
      dsimp only
      have hcall : (SlotWorld.slotStep s [] (.reserve now options : SlotCall SimTransport)).1 =
        ⟨some (s.reserve now options).2,
          match (s.reserve now options).1 with | .error _ => [] | .ok permit => [permit]⟩ := by
        simp only [SlotWorld.slotStep]
        cases s.reserve now options with
        | mk result s' => cases result <;> rfl
      obtain ⟨hkept', hle⟩ := hkept.call _ hcall
      cases hrun : s.reserve now options with
      | mk result s' =>
      rw [hrun] at hkept' hle
      cases result with
      | error error => exact (Advances.call rfl hkept' hle).weaken (Nat.zero_le 1)
      | ok permit =>
        obtain ⟨hsubmit, hremaining, haccepted⟩ := submit_kept hkept' accepted frame
        refine ⟨fun s₁ hs₁ => ?_, ?_, haccepted, rfl, rfl, rfl⟩
        · obtain rfl := Option.some.inj hs₁
          exact hsubmit
        · exact hremaining.trans (Nat.add_le_add_right hle 1)
    | writeReady bytes => exact htransport _
    | reply operation payload =>
      dsimp only
      split
      · exact hstay
      · split
        · exact hstay
        · split
          · exact htransport _
          · exact htransport _
    | cancel operation =>
      dsimp only
      split
      · exact hstay
      · next accepted _ =>
        obtain ⟨hkept', hle⟩ := hkept.call (.cancel accepted.operation : SlotCall SimTransport) rfl
        exact (Advances.call rfl hkept' hle).weaken (Nat.zero_le 1)
    | beginDrain deadline =>
      obtain ⟨hkept', hle⟩ := hkept.call (.beginDrain deadline : SlotCall SimTransport) rfl
      exact Advances.call rfl hkept' hle
    | close reason =>
      obtain ⟨hkept', hle⟩ := hkept.call (.finalize reason : SlotCall SimTransport) rfl
      exact (Advances.call rfl hkept' hle).weaken (Nat.zero_le 1)
    | peerClosed => exact htransport _
    | settleTransport =>
      dsimp only
      split
      · obtain ⟨hkept', hle⟩ := hkept.call (.settleTransportClosed : SlotCall SimTransport) rfl
        exact (Advances.call rfl hkept' hle).weaken (Nat.zero_le 1)
      · exact hstay
    | drive => exact hstay
    | recover reason =>
      refine ⟨fun s₁ hs₁ => (by cases hs₁), ?_, Nat.le_succ _, rfl, rfl, rfl⟩
      exact Nat.zero_le _

lemma drive_advances (h : o.Sane) (now : ℕ) : Advances 0 o (o.drive now).2 := by
  obtain ⟨slot, transport, accepted, observations, recovery, deadline, horizon⟩ := o
  cases slot with
  | none => exact .refl h
  | some s =>
    have hcall : (SlotWorld.slotStep s [] (.driveQuantum now (some transport))).1 =
      ⟨some (ConnectionSlot.driveQuantum now (s, some transport)).2.1, []⟩ := rfl
    obtain ⟨hkept, hle⟩ := (h s rfl).call _ hcall
    unfold drive
    dsimp only
    split
    · next hrun =>
      rw [hrun] at hkept hle
      exact .call rfl hkept hle
    · next hrun =>
      rw [hrun] at hkept hle
      exact .call rfl hkept hle

/-- The slot after a quantum. -/
lemma drive_slot {s : SimSlot B Q W} (hslot : o.slot = some s) (now : ℕ) :
    (o.drive now).2.slot = some (ConnectionSlot.driveQuantum now (s, some o.transport)).2.1 := by
  unfold drive
  rw [hslot]
  dsimp only
  split
  · next hrun => rw [hrun]
  · next hrun => rw [hrun]

lemma observe_advances (h : o.Sane) : Advances 0 o o.observe.2 := by
  obtain ⟨slot, transport, accepted, observations, recovery, deadline, horizon⟩ := o
  cases slot with
  | none => exact .refl h
  | some s =>
    obtain ⟨hkept, hle⟩ := (h s rfl).call (.drainOutcomes : SlotCall SimTransport) rfl
    obtain ⟨hkept', hle'⟩ := hkept.call (.drainEvents : SlotCall SimTransport) rfl
    exact .call rfl hkept' (hle'.trans hle)

/-- An event is followed by a quantum and an observation. -/
lemma applyEvent_eq (o : ReplayOwner B Q W) (token : EventToken) (event : ReplayEvent) :
    ∃ observation, o.applyEvent token event =
      { ((o.stimulate token event).2.drive token.moment).2.observe.2 with
        recovery := none
        observations :=
          ((o.stimulate token event).2.drive token.moment).2.observe.2.observations ++
            [observation] } :=
  ⟨_, rfl⟩

/-- What becomes of an owner to which an event is delivered, after `k` stimuli. -/
structure Delivered (k : ℕ) (o o' : ReplayOwner B Q W) : Prop where
  sane : o'.Sane
  accepted : o'.accepted.length ≤ o.accepted.length + k
  observations : o'.observations.length = o.observations.length + 1

/-- A stimulus. -/
lemma applyEvent_action (h : o.Sane) (token : EventToken) (index : ℕ) (action : SlotAction) :
    Delivered 1 o (o.applyEvent token (.action index action)) ∧
      (o.applyEvent token (.action index action)).remaining ≤ o.remaining + 1 ∧
      (o.applyEvent token (.action index action)).deadline = o.deadline := by
  obtain ⟨observation, heq⟩ := applyEvent_eq o token (.action index action)
  have hact := applyAction_advances h token.moment action
  have hdrive := drive_advances hact.sane token.moment
  have hall := (hact.trans hdrive).trans (observe_advances hdrive.sane)
  have hstim : (o.stimulate token (.action index action)).2 =
    (o.applyAction token.moment action).2 := rfl
  rw [hstim] at heq
  rw [heq]
  refine ⟨⟨hall.sane, hall.accepted, ?_⟩, hall.remaining, hall.deadline⟩
  simp only [List.length_append, List.length_singleton]
  rw [show _ = _ from hall.observations]

/-- **The event for the next deadline of a running slot uses a deadline up**, or the slot fails. -/
lemma applyEvent_deadline (h : o.Sane) {s : SimSlot B Q W} {token : EventToken}
    {deadline : Deadline} (hslot : o.slot = some s) (hrunning : s.state = .running)
    (hnext : s.nextDeadline = some deadline) (hnow : deadline.moment ≤ token.moment)
    (htoken : o.deadline = some token) :
    Delivered 0 o (o.applyEvent token .deadline) ∧ (o.applyEvent token .deadline).deadline = none ∧
      (o.applyEvent token .deadline).remaining < o.remaining ∧
      ∃ s', (o.applyEvent token .deadline).slot = some s' ∧
        (s'.state ≠ .running ∨ Consumes token.moment s s') := by
  obtain ⟨observation, heq⟩ := applyEvent_eq o token .deadline
  have hstim : (o.stimulate token .deadline).2 = { o with deadline := none } := if_pos htoken
  rw [hstim] at heq
  have hsane : ({ o with deadline := none } : ReplayOwner B Q W).Sane := h
  have hdrive := drive_advances hsane token.moment
  have hall := hdrive.trans (observe_advances hdrive.sane)
  have hquantum := (h s hslot).quantum hrunning o.transport hnext hnow
  have hdriven := drive_slot (o := { o with deadline := none }) hslot token.moment
  generalize (ConnectionSlot.driveQuantum token.moment (s, some o.transport)).2.1 =
    s₁ at hquantum hdriven
  have hobserved : (({ o with deadline := none } : ReplayOwner B Q W).drive
    token.moment).2.observe.2.slot =
      some s₁.drainOutcomes.2.drainEvents.2 := by
    unfold observe
    rw [hdriven]
  have hafter : s₁.drainOutcomes.2.drainEvents.2.state ≠ .running ∨
    Consumes token.moment s s₁.drainOutcomes.2.drainEvents.2 := hquantum
  rw [heq]
  refine ⟨⟨hall.sane, hall.accepted, ?_⟩, hall.deadline, ?_, _, hobserved, hafter⟩
  · simp only [List.length_append, List.length_singleton]
    rw [show _ = _ from hall.observations]
  · unfold ReplayOwner.remaining
    dsimp only
    rw [hobserved, hslot]
    exact remaining_lt hrunning hnext hafter

/-! ### The timeline -/

/-- How many stimuli are still to come. -/
def stimuli (z : Z ReplayEvent) : ℕ :=
  (Timeline.pending z).countP fun scheduled => !scheduled.event.isDeadline

/-- How many events for a deadline are pending. -/
def deadlines (z : Z ReplayEvent) : ℕ :=
  (Timeline.pending z).countP fun scheduled => scheduled.event.isDeadline

/-- What holds between two events of the replay of a trace, also while the event
for a deadline is replaced. -/
structure Tracks (trace : SlotTrace) (o : ReplayOwner B Q W) (z : Z ReplayEvent) : Prop where
  sane : o.Sane
  limits : Timeline.limits z = ⟨trace.actions.length + 1, trace.limits.retainedBytes⟩
  bytes : retainedSum ((Timeline.pending z).map Scheduled.event) ≤ trace.limits.retainedBytes
  deadline : ∀ scheduled ∈ Timeline.pending z, scheduled.event.isDeadline = true ↔
    o.deadline = some scheduled.token
  accepted : o.accepted.length + stimuli z ≤ trace.actions.length
  observations : o.observations.length + 2 * stimuli z + o.remaining ≤ 2 * trace.actions.length + 1

/-- The event for a deadline, if there is one, is for the next deadline of a running slot. -/
def Synced (o : ReplayOwner B Q W) : Prop :=
  ∀ token ∈ o.deadline, ∃ s, o.slot = some s ∧ s.state = .running ∧
    ∃ deadline, s.nextDeadline = some deadline ∧ deadline.moment ≤ token.moment

variable {trace : SlotTrace} {z z' : Z ReplayEvent}

/-- An event and the others are all that is pending. -/
lemma pending_perm {next : Scheduled ReplayEvent} (hmem : next ∈ Timeline.pending z)
    (hpending : Timeline.pending z' = (Timeline.pending z).filter (·.token ≠ next.token)) :
    (Timeline.pending z).Perm (next :: Timeline.pending z') := by
  rw [hpending]
  exact Lookup.perm_cons_filter (Timeline.distinct z) hmem

lemma stimuli_remove {next : Scheduled ReplayEvent}
    (hperm : (Timeline.pending z).Perm (next :: Timeline.pending z')) :
    stimuli z = stimuli z' + if next.event.isDeadline then 0 else 1 := by
  rw [stimuli, hperm.countP_eq, List.countP_cons, stimuli]
  cases next.event.isDeadline <;> rfl

lemma bytes_remove {next : Scheduled ReplayEvent}
    (hperm : (Timeline.pending z).Perm (next :: Timeline.pending z')) :
    retainedSum ((Timeline.pending z').map Scheduled.event) ≤
      retainedSum ((Timeline.pending z).map Scheduled.event) := by
  have hsum : retainedSum ((Timeline.pending z).map Scheduled.event) =
      retainedSum ((next :: Timeline.pending z').map Scheduled.event) :=
    ((hperm.map _).map _).sum_eq
  rw [hsum]
  simp only [retainedSum, List.map_cons, List.sum_cons]
  exact Nat.le_add_left _ _

omit [EventBatch Q] in
/-- **At most one event for a deadline is pending.** -/
lemma Tracks.deadlines_le (h : Tracks trace o z) : deadlines z ≤ 1 := by
  by_contra hmany
  rw [not_le, deadlines, List.countP_eq_length_filter] at hmany
  have hnodup : (((Timeline.pending z).filter fun scheduled => scheduled.event.isDeadline).map
      Scheduled.token).Nodup :=
    (Timeline.distinct z).sublist (List.filter_sublist.map _)
  have hsame : ∀ token ∈ ((Timeline.pending z).filter fun scheduled =>
    scheduled.event.isDeadline).map Scheduled.token,
      o.deadline = some token := by
    intro token htoken
    obtain ⟨scheduled, hmem, rfl⟩ := List.mem_map.mp htoken
    obtain ⟨hpending, hdeadline⟩ := List.mem_filter.mp hmem
    exact (h.deadline scheduled hpending).mp hdeadline
  rw [← List.length_map (f := Scheduled.token)] at hmany
  generalize ((Timeline.pending z).filter fun scheduled => scheduled.event.isDeadline).map
    Scheduled.token = tokens at hmany hnodup hsame
  match tokens with
  | [] => simp at hmany
  | [_] => simp at hmany
  | first :: second :: _ =>
    have heq := (hsame first (by simp)).symm.trans (hsame second (by simp))
    simp [Option.some.inj heq] at hnodup

lemma pending_length (z : Z ReplayEvent) :
    (Timeline.pending z).length = deadlines z + stimuli z := by
  rw [deadlines, stimuli, List.length_eq_countP_add_countP fun scheduled : Scheduled ReplayEvent =>
    scheduled.event.isDeadline]
  simp

section
omit [EventBatch Q]

/-- So the capacity of the timeline is not exceeded. -/
lemma Tracks.length_le (h : Tracks trace o z) :
    (Timeline.pending z).length ≤ trace.actions.length + 1 := by
  have hone := h.deadlines_le
  have hstimuli := h.accepted
  rw [pending_length]
  omega

/-- Without an event for a deadline, the timeline has room for one. -/
lemma Tracks.room (h : Tracks trace o z) (hnone : o.deadline = none) :
    (Timeline.pending z).length < trace.actions.length + 1 := by
  have hzero : deadlines z = 0 := by
    rw [deadlines, List.countP_eq_zero]
    intro scheduled hmem hdeadline
    have htoken := (h.deadline scheduled hmem).mp hdeadline
    rw [hnone] at htoken
    cases htoken
  have hstimuli := h.accepted
  rw [pending_length]
  omega

end

/-! ### The event for a deadline -/

section
omit [EventBatch Q]

/-- An outstanding event is cancelled. -/
lemma Tracks.cancel (h : Tracks trace o z) {token : EventToken} (htoken : o.deadline = some token) :
    Tracks trace { o with deadline := none } (Timeline.cancel z token).2 := by
  obtain ⟨hpending, hlimits, _⟩ := Timeline.cancel_eq z token
  have hquiet : ∀ scheduled ∈ Timeline.pending (Timeline.cancel z token).2,
      scheduled.event.isDeadline = false := by
    intro scheduled hmem
    rw [hpending] at hmem
    obtain ⟨hmem, hne⟩ := List.mem_filter.mp hmem
    by_contra hdeadline
    have hsame := (h.deadline scheduled hmem).mp (by simpa using hdeadline)
    rw [htoken] at hsame
    exact of_decide_eq_true hne (Option.some.inj hsame).symm
  have hsublist : (Timeline.pending (Timeline.cancel z token).2).Sublist (Timeline.pending z) := by
    rw [hpending]
    exact List.filter_sublist
  have hstimuli : stimuli (Timeline.cancel z token).2 ≤ stimuli z := hsublist.countP_le
  have hbytes : retainedSum ((Timeline.pending (Timeline.cancel z token).2).map Scheduled.event) ≤
      retainedSum ((Timeline.pending z).map Scheduled.event) :=
    ((hsublist.map _).map _).sum_le_sum fun _ _ => Nat.zero_le _
  have haccepted := h.accepted
  have hobservations := h.observations
  refine ⟨h.sane, hlimits.trans h.limits, hbytes.trans h.bytes, fun scheduled hmem => ?_, ?_, ?_⟩
  · rw [hquiet scheduled hmem]
    simp
  · exact (Nat.add_le_add_left hstimuli _).trans haccepted
  · have hsame : ({ o with deadline := none } : ReplayOwner B Q W).remaining = o.remaining := rfl
    rw [hsame]
    dsimp only
    omega

/-- The event for a deadline is scheduled. -/
lemma Tracks.schedule (h : Tracks trace o z) (hnone : o.deadline = none) (moment : ℕ) :
    ∃ token, token.moment = max moment (Timeline.now z) ∧
      (Timeline.scheduleAt z (max moment (Timeline.now z)) ReplayEvent.deadline).1 = .ok token ∧
      Tracks trace { o with deadline := some token }
        (Timeline.scheduleAt z (max moment (Timeline.now z)) ReplayEvent.deadline).2 := by
  have hroom := h.room hnone
  have hbytes := h.bytes
  obtain ⟨token, hmoment, hok, hpending, hlimits, _⟩ :=
    Timeline.schedule_fits z (max moment (Timeline.now z)) ReplayEvent.deadline (le_max_right _ _)
      (by rw [h.limits]; exact hroom)
      (by rw [h.limits]; exact hbytes)
  have hdistinct :=
    Timeline.distinct (Timeline.scheduleAt z (max moment (Timeline.now z)) ReplayEvent.deadline).2
  generalize (Timeline.scheduleAt z (max moment (Timeline.now z)) ReplayEvent.deadline).2 =
    z' at hpending hlimits hdistinct ⊢
  have hfresh : ∀ scheduled ∈ Timeline.pending z, scheduled.token ≠ token := by
    rw [hpending] at hdistinct
    simpa [List.nodup_append, Timeline.distinct z] using hdistinct
  have hstimuli : stimuli z' = stimuli z := by
    rw [stimuli, hpending, List.countP_append, stimuli]
    rfl
  refine ⟨token, hmoment, hok, h.sane, hlimits.trans h.limits, ?_, fun scheduled hmem => ?_, ?_, ?_⟩
  · rw [hpending]
    simpa [retainedSum, Retained.retainedBytes] using hbytes
  · rw [hpending, List.mem_append, List.mem_singleton] at hmem
    rcases hmem with hmem | rfl
    · have hold := h.deadline scheduled hmem
      rw [hnone] at hold
      have hne := hfresh scheduled hmem
      constructor
      · intro hdeadline
        cases hold.mp hdeadline
      · intro hsame
        exact absurd (Option.some.inj hsame).symm hne
    · simp [ReplayEvent.isDeadline]
  · rw [hstimuli]
    exact h.accepted
  · rw [hstimuli]
    exact h.observations

end

omit [ByteBudget B] [EventBatch Q] in
/-- A desired event is for the next deadline of a running slot. -/
lemma desired_some {moment : ℕ} (h : o.desired = some moment) :
    ∃ s, o.slot = some s ∧ s.state = .running ∧ ∃ deadline, s.nextDeadline = some deadline ∧
      deadline.moment = moment := by
  obtain ⟨s, hslot, hfilter⟩ := Option.bind_eq_some_iff.mp h
  obtain ⟨hmap, _⟩ := Option.filter_eq_some_iff.mp hfilter
  obtain ⟨deadline, hnext, hmoment⟩ := Option.map_eq_some_iff.mp hmap
  refine ⟨s, hslot, ?_, deadline, ?_, hmoment⟩
  · cases hstate : s.state with
    | running => rfl
    | failed reason =>
      rw [hstate] at hnext
      cases hnext
  · split at hnext
    · exact hnext
    · cases hnext

section
omit [EventBatch Q]

/-- A new event, after the outstanding one is gone. -/
lemma Tracks.renew (h : Tracks trace { o with deadline := none } z) :
    ∃ o' z', (match o.desired with
        | none => .ok ({ o with deadline := none }, z)
        | some moment =>
          match Timeline.scheduleAt z (max moment (Timeline.now z)) ReplayEvent.deadline with
          | (.error failure, _) => .error (.schedule failure)
          | (.ok token, z) => .ok ({ o with deadline := some token }, z) :
          Except SlotReplayError (ReplayOwner B Q W × Z ReplayEvent)) = .ok (o', z') ∧
      Tracks trace o' z' ∧ Synced o' ∧ o'.observations = o.observations := by
  cases hdesired : o.desired with
  | none => exact ⟨_, _, rfl, h, fun token htoken => (by cases htoken), rfl⟩
  | some moment =>
    obtain ⟨token, htoken, hok, htracks⟩ := h.schedule rfl moment
    obtain ⟨s, hslot, hrunning, deadline, hnext, hmoment⟩ := desired_some hdesired
    dsimp only
    cases hrun : Timeline.scheduleAt z (max moment (Timeline.now z)) ReplayEvent.deadline with
    | mk result z' =>
    rw [hrun] at hok htracks
    cases hok
    refine ⟨_, _, rfl, htracks, fun token' htoken' => ?_, rfl⟩
    obtain rfl := Option.some.inj htoken'
    exact ⟨s, hslot, hrunning, deadline, hnext, by rw [hmoment, htoken]; exact le_max_left _ _⟩

/-- **The event for a deadline is always replaced by the one for the next deadline.** -/
theorem Tracks.sync (h : Tracks trace o z) :
    ∃ o' z', o.syncDeadline z = .ok (o', z') ∧ Tracks trace o' z' ∧ Synced o' ∧
    o'.observations = o.observations := by
  unfold syncDeadline
  by_cases hsame : o.deadline.map EventToken.moment = o.desired
  · rw [if_pos hsame]
    refine ⟨o, z, rfl, h, fun token htoken => ?_, rfl⟩
    rw [Option.mem_def.mp htoken] at hsame
    obtain ⟨s, hslot, hrunning, deadline, hnext, hmoment⟩ := desired_some hsame.symm
    exact ⟨s, hslot, hrunning, deadline, hnext, hmoment.le⟩
  · rw [if_neg hsame]
    cases htoken : o.deadline with
    | none =>
      have hnone : ({ o with deadline := none } : ReplayOwner B Q W) = o := by rw [← htoken]
      exact Tracks.renew (hnone ▸ h)
    | some token => exact (h.cancel htoken).renew

end

/-! ### The loop -/

/-- **One turn delivers one event.** -/
theorem Tracks.turn (h : Tracks trace o z) (hsynced : Synced o)
    (hpending : Timeline.pending z ≠ []) :
    ∃ o' z', Sim.turn o z = some (.ok (o', z')) ∧ Tracks trace o' z' ∧ Synced o' ∧
      o'.observations.length = o.observations.length + 1 := by
  obtain ⟨next, hmem, _, hpop, hrest, hlimits, _⟩ := Timeline.popNext_some z hpending
  unfold Sim.turn
  cases hrun : Timeline.popNext z with
  | mk popped z₁ =>
  rw [hrun] at hpop hrest hlimits
  cases hpop
  have hperm := pending_perm hmem hrest
  have hstimuli := stimuli_remove hperm
  have hbytes := bytes_remove hperm
  have haccepted := h.accepted
  have hobservations := h.observations
  have hothers : ∀ scheduled ∈ Timeline.pending z₁, scheduled ∈ Timeline.pending z ∧
      scheduled.token ≠ next.token := by
    intro scheduled hscheduled
    rw [hrest] at hscheduled
    obtain ⟨hscheduled, hne⟩ := List.mem_filter.mp hscheduled
    exact ⟨hscheduled, of_decide_eq_true hne⟩
  suffices hafter : Tracks trace (o.applyEvent next.token next.event) z₁ ∧
      (o.applyEvent next.token next.event).observations.length = o.observations.length + 1 by
    obtain ⟨htracks, hlength⟩ := hafter
    obtain ⟨o', z', hsync, htracks', hsynced', hsame⟩ := htracks.sync
    exact ⟨o', z', by rw [← hsync], htracks', hsynced', by rw [hsame, hlength]⟩
  have hdue := h.deadline next hmem
  cases hevent : next.event with
  | action index action =>
    obtain ⟨hdelivered, hremaining, hdeadline⟩ := applyEvent_action h.sane next.token index action
    rw [hevent] at hstimuli
    simp only [ReplayEvent.isDeadline, Bool.false_eq_true, if_false] at hstimuli
    have hcount := hdelivered.accepted
    have hlength := hdelivered.observations
    refine ⟨⟨hdelivered.sane, hlimits.trans h.limits, hbytes.trans h.bytes,
      fun scheduled hscheduled => ?_, ?_, ?_⟩, hlength⟩
    · rw [hdeadline]
      exact h.deadline scheduled (hothers scheduled hscheduled).1
    · omega
    · omega
  | deadline =>
    rw [hevent] at hdue hstimuli
    have htoken := hdue.mp rfl
    obtain ⟨s, hslot, hrunning, deadline, hnext, hnow⟩ := hsynced next.token htoken
    obtain ⟨hdelivered, hdeadline, hremaining, _⟩ :=
      applyEvent_deadline h.sane hslot hrunning hnext hnow htoken
    simp only [ReplayEvent.isDeadline, if_true, Nat.add_zero] at hstimuli
    have hcount := hdelivered.accepted
    have hlength := hdelivered.observations
    refine ⟨⟨hdelivered.sane, hlimits.trans h.limits, hbytes.trans h.bytes,
      fun scheduled hscheduled => ?_, ?_, ?_⟩, hlength⟩
    · -- the event delivered was the only one for a deadline
      obtain ⟨hscheduled, hne⟩ := hothers scheduled hscheduled
      have hold := h.deadline scheduled hscheduled
      rw [htoken] at hold
      rw [hdeadline]
      constructor
      · intro hisDeadline
        exact absurd (Option.some.inj (hold.mp hisDeadline)).symm hne
      · intro hnone
        cases hnone
    · omega
    · omega

/-- The stimuli that have been scheduled. -/
structure Loading (limits : TimelineLimits) (count bytes : ℕ) (z : Z ReplayEvent) : Prop where
  limits : Timeline.limits z = limits
  now : Timeline.now z = 0
  stimuli : ∀ scheduled ∈ Timeline.pending z, scheduled.event.isDeadline = false
  count : (Timeline.pending z).length = count
  bytes : retainedSum ((Timeline.pending z).map Scheduled.event) = bytes

/-- All stimuli fit. -/
lemma scheduleActions_ok {limits : TimelineLimits} (index : ℕ) {count bytes : ℕ}
    {actions : List TimedSlotAction} (h : Loading limits count bytes z)
    (hcount : count + actions.length < limits.maxEvents)
    (hbytes : bytes + (actions.map (·.action.retainedBytes)).sum ≤ limits.maxRetainedBytes) :
    ∃ z', scheduleActions z index actions = .ok z' ∧
      Loading limits (count + actions.length)
        (bytes + (actions.map (·.action.retainedBytes)).sum) z' := by
  induction actions generalizing z index count bytes with
  | nil => exact ⟨z, rfl, h⟩
  | cons timed rest ih =>
    obtain ⟨hlimits, hnow, hstimuli, hlength, hsum⟩ := h
    simp only [List.length_cons, List.map_cons, List.sum_cons] at hcount hbytes ⊢
    have hretained : Retained.retainedBytes (ReplayEvent.action index timed.action) =
      timed.action.retainedBytes := rfl
    obtain ⟨token, _, hok, hpending, hlimits', hnow'⟩ :=
      Timeline.schedule_fits z timed.moment (ReplayEvent.action index timed.action) (by omega)
        (by rw [hlimits]; omega)
        (by rw [hlimits, hretained]; omega)
    unfold scheduleActions
    cases hrun : Timeline.scheduleAt z timed.moment (ReplayEvent.action index timed.action) with
    | mk result z₁ =>
    rw [hrun] at hok hpending hlimits' hnow'
    cases hok
    have hloading : Loading limits (count + 1) (bytes + timed.action.retainedBytes) z₁ := by
      refine ⟨hlimits'.trans hlimits, hnow'.trans hnow, fun scheduled hmem => ?_, ?_, ?_⟩
      · rw [hpending, List.mem_append, List.mem_singleton] at hmem
        rcases hmem with hmem | rfl
        · exact hstimuli scheduled hmem
        · rfl
      · rw [hpending, List.length_append, hlength, List.length_singleton]
      · rw [hpending, ← hsum, ← hretained]
        simp [retainedSum]
    obtain ⟨z', hrest, hloaded⟩ := ih (index + 1) hloading (by omega) (by omega)
    rw [show count + (rest.length + 1) = count + 1 + rest.length by omega, ← Nat.add_assoc bytes]
    exact ⟨z', hrest, hloaded⟩

/-- The slot of a replay. -/
def SlotSimulationConfig.setup (config : SlotSimulationConfig) :
    SlotSetup SimDecoder SimClassifier SimReply SimWireError :=
  ⟨config.slot, config.limits, .new config.limits.replyBytes, SimClassifier.mk, Nat.zero_le _⟩

/-- **What a replay begins with**, unless it does not begin: no stimulus is
refused by the timeline. -/
theorem start_tracks (allocator : Allocator) (config : SlotSimulationConfig) (trace : SlotTrace) :
    match (start allocator config trace :
      Except SlotReplayError (ReplayOwner B Q W × Z ReplayEvent)) with
    | .error error => ∀ failure, error ≠ .schedule failure
    | .ok (o, z) => Tracks trace o z ∧ Synced o := by
  have hempty : Loading ⟨trace.actions.length + 1, trace.limits.retainedBytes⟩ 0 0
      (Timeline.new config.timeline ⟨trace.actions.length + 1, trace.limits.retainedBytes⟩ : Z
          ReplayEvent) := by
    obtain ⟨hpending, hlimits, hnow⟩ :=
      Timeline.new_eq (Z := Z) (α := ReplayEvent) config.timeline
        ⟨trace.actions.length + 1, trace.limits.retainedBytes⟩
    refine ⟨hlimits, hnow, ?_, ?_, ?_⟩
    · simp [hpending]
    · simp [hpending]
    · simp [hpending, retainedSum]
  have hbytes : 0 + (trace.actions.map (·.action.retainedBytes)).sum ≤
      trace.limits.retainedBytes := by
    rw [Nat.zero_add, ← trace.retained_eq]
    exact trace.retained_le
  obtain ⟨z, hscheduled, hloaded⟩ := scheduleActions_ok 0 hempty (by simp) hbytes
  have hslot : ConnectionSlot.new config.slot config.limits
    (SimDecoder.new config.limits.replyBytes) SimClassifier.mk =
      .ok (config.setup.slot : SimSlot B Q W) := config.setup.new_eq
  unfold start
  by_cases hcapacity : trace.actions.length + 1 ≤ u64Max
  · rw [checkedAdd, if_pos hcapacity]
    dsimp only
    rw [hscheduled]
    dsimp only
    cases (checkedMul trace.actions.length 2).bind (checkedAdd · 1) with
    | none => exact fun failure h => by cases h
    | some =>
      dsimp only
      rw [hslot]
      dsimp only
      cases SimTransport.new allocator config.limits.transportRetainedBytes with
      | none => exact fun failure h => by cases h
      | some transport =>
        have hstimuli : stimuli z ≤ trace.actions.length := by
          have hle := List.countP_le_length
            (p := fun scheduled : Scheduled ReplayEvent => !scheduled.event.isDeadline)
            (l := Timeline.pending z)
          rw [hloaded.count, Nat.zero_add] at hle
          exact hle
        have htracks : Tracks trace (⟨some config.setup.slot, transport, [], [], none, none,
            (trace.actions.map TimedSlotAction.moment).max?⟩ : ReplayOwner B Q W) z := by
          refine ⟨fun s hs =>
            ?_, hloaded.limits, hloaded.bytes.trans_le hbytes, fun scheduled hmem => ?_, ?_, ?_⟩
          · obtain rfl := Option.some.inj hs
            exact Kept.new config.setup
          · rw [hloaded.stimuli scheduled hmem]
            simp
          · simpa using hstimuli
          · have hone : ReplayOwner.remaining
              (⟨some config.setup.slot, transport, [], [], none, none,
                (trace.actions.map TimedSlotAction.moment).max?⟩ : ReplayOwner B Q W) =
                  1 := remaining_new config.setup
            rw [hone]
            simp only [List.length_nil]
            omega
        obtain ⟨o', z', hsync, htracks', hsynced, _⟩ := htracks.sync
        dsimp only
        rw [hsync]
        exact ⟨htracks', hsynced⟩
  · rw [checkedAdd, if_neg hcapacity]
    exact fun failure h => by cases h

lemma turn_nil (hpending : Timeline.pending z = []) : Sim.turn o z = none := by
  have hpop := Timeline.popNext_none z hpending
  unfold Sim.turn
  cases hrun : Timeline.popNext z with
  | mk popped z₁ =>
  rw [hrun] at hpop
  cases hpop
  rfl

/-- **Every state between two events is tracked.** -/
theorem Reached.tracks {allocator : Allocator} {config : SlotSimulationConfig}
    (h : Reached B Q W Z allocator config trace o z) :
    Tracks trace o z ∧ Synced o := by
  induction h with
  | started started =>
    have hstart := start_tracks (B := B) (Q := Q) (W := W) (Z := Z) allocator config trace
    rw [started] at hstart
    exact hstart
  | @turned o o' z z' before turned ih =>
    obtain ⟨htracks, hsynced⟩ := ih
    by_cases hpending : Timeline.pending z = []
    · rw [turn_nil hpending] at turned
      cases turned
    · obtain ⟨_, _, hturn, htracks', hsynced', _⟩ := htracks.turn hsynced hpending
      cases hturn.symm.trans turned
      exact ⟨htracks', hsynced'⟩

/-- **The loop ends**: with fuel for the observations that are left and one
turn more, it has an answer. -/
theorem replayLoop_ends (fuel : ℕ) (h : Tracks trace o z) (hsynced : Synced o)
    (hfuel : 2 * trace.actions.length + 1 < o.observations.length + fuel) :
    ∃ o', replayLoop fuel o z = some (.ok o') ∧
      o'.observations.length ≤ 2 * trace.actions.length + 1 := by
  induction fuel generalizing o z with
  | zero =>
    have hobservations := h.observations
    omega
  | succ fuel ih =>
    unfold replayLoop
    by_cases hpending : Timeline.pending z = []
    · rw [turn_nil hpending]
      have hobservations := h.observations
      exact ⟨o, rfl, by omega⟩
    · obtain ⟨o', z', hturn, htracks, hsynced', hlength⟩ := h.turn hsynced hpending
      rw [hturn]
      exact ih htracks hsynced' (by omega)

/-- **A replay ends within its bounds.** For a trace of `n` stimuli it has an answer after `2 * n +
2` turns of its loop at the latest, which is never that the timeline refused an event, and at most
`2 * n + 1` observations are recorded. Between any two events at most one event for a deadline is
pending, and at most `n + 1` events in all; when an event for a deadline is delivered, the slot was
running, and uses up a deadline that has elapsed or fails. -/
theorem replay_bounded (allocator : Allocator) (config : SlotSimulationConfig) (trace : SlotTrace) :
    (∀ fuel, 2 * trace.actions.length + 2 ≤ fuel →
      (∃ error, replay B Q W Z fuel allocator config trace = some (.error error) ∧
        ∀ failure, error ≠ .schedule failure) ∨
      ∃ report, replay B Q W Z fuel allocator config trace = some (.ok report) ∧
        report.observations.length ≤ 2 * trace.actions.length + 1) ∧
    ∀ o z, Reached B Q W Z allocator config trace o z →
      deadlines z ≤ 1 ∧ (Timeline.pending z).length ≤ trace.actions.length + 1 ∧
      o.observations.length ≤ 2 * trace.actions.length + 1 ∧
        o.accepted.length ≤ trace.actions.length ∧
      ∀ token, (Timeline.popNext z).1 = some (token, .deadline) →
        ∃ s s', o.slot = some s ∧ s.state = .running ∧
          (o.applyEvent token .deadline).slot = some s' ∧
          (s'.state ≠ .running ∨ Consumes token.moment s s') := by
  refine ⟨fun fuel hfuel => ?_, fun o z hreached => ?_⟩
  · have hstart := start_tracks (B := B) (Q := Q) (W := W) (Z := Z) allocator config trace
    unfold replay
    cases hrun : (start allocator config trace :
        Except SlotReplayError (ReplayOwner B Q W × Z ReplayEvent)) with
    | error error =>
      rw [hrun] at hstart
      exact .inl ⟨error, rfl, hstart⟩
    | ok pair =>
      obtain ⟨o, z⟩ := pair
      rw [hrun] at hstart
      obtain ⟨htracks, hsynced⟩ := hstart
      obtain ⟨o', hloop, hlength⟩ := replayLoop_ends fuel htracks hsynced (by omega)
      refine .inr ⟨o'.report, ?_, hlength⟩
      dsimp only
      rw [hloop]
      rfl
  · obtain ⟨htracks, hsynced⟩ := hreached.tracks
    have hobservations := htracks.observations
    have haccepted := htracks.accepted
    refine ⟨htracks.deadlines_le, htracks.length_le, by omega, by omega, fun token hpop => ?_⟩
    have hpending : Timeline.pending z ≠ [] := fun hnil => by
      rw [Timeline.popNext_none z hnil] at hpop
      cases hpop
    obtain ⟨next, hmem, _, hnext, _⟩ := Timeline.popNext_some z hpending
    obtain ⟨rfl, hevent⟩ : next.token = token ∧ next.event = .deadline := by
      simpa using hnext.symm.trans hpop
    have htoken := (htracks.deadline next hmem).mp (by rw [hevent]; rfl)
    obtain ⟨s, hslot, hrunning, deadline, hdeadline, hnow⟩ := hsynced next.token htoken
    obtain ⟨_, _, _, s', hslot', hafter⟩ :=
      applyEvent_deadline htracks.sane hslot hrunning hdeadline hnow htoken
    exact ⟨s, s', hslot, hrunning, hslot', hafter⟩

-- one stimulus after the deadline of the connection
example :
    ((((SlotTrace.new ⟨1, 0, Nat.one_pos, Nat.zero_le _⟩).tryPush 11 .drive).toOption.bind
      fun trace =>
      replay Counted ListBatch ListTimers ListTimeline 4 ⟨some, some⟩
        ⟨SlotSetup.sample.config, SlotSetup.sample.limits, 0⟩ trace).any
        fun result => result.toOption.any fun report =>
          report.observations.map SlotStepObservation.moment = [5, 11]) = true := by
  decide +kernel

end Bornera.Sim
