import Bornera.Lib.Worklist
import Bornera.Shared.Calls

/-!
# The queue of a set

The queue of a set lists each live entry whose flag is set exactly once, so it is never longer than
the set may be large. Each function of the set changes the queue and the flags together.
-/

namespace Bornera.Shared

open Bornera.Core Slot Lib ConnectionSlot

variable {B D C R E T P X V : Type} {Q W : Type → Type} {M : Type → Type} [ByteBudget B]
  [FrameDecoder D R E] [Retained R] [InboundClassifier C R] [EventBatch Q] [TimerQueue W]
  [FencedTable M ConnectionIdentity ResourceToken]

namespace ConnectionEntry

section
variable [SlotTransport T] (entry : ConnectionEntry B D C R Q W T)

/-- What the driving of an entry leaves as it is. -/
structure Tagged (entry entry' : ConnectionEntry B D C R Q W T) : Prop where
  identity : entry'.identity = entry.identity
  queued : entry'.readyQueued = entry.readyQueued

omit [ByteBudget B] [Retained R] [InboundClassifier C R] [EventBatch Q] [TimerQueue W]
  [SlotTransport T] in
variable {entry} in
lemma Tagged.trans {entry' entry'' : ConnectionEntry B D C R Q W T} (h : Tagged entry entry')
    (h' : Tagged entry' entry'') :
    Tagged entry entry'' := ⟨h'.identity.trans h.identity, h'.queued.trans h.queued⟩

omit [ByteBudget B] [Retained R] [InboundClassifier C R] [EventBatch Q] [TimerQueue W] in
lemma observeShutdown_tagged : Tagged entry entry.observeShutdown := by
  unfold observeShutdown
  split <;> exact ⟨rfl, rfl⟩

omit [ByteBudget B] [Retained R] [InboundClassifier C R] [EventBatch Q] [TimerQueue W]
  [SlotTransport T] in
lemma answer_tagged (question : Driving B D C R Q W T Bool) :
    Tagged entry (entry.answer question).2 := by
  unfold answer
  split
  · exact ⟨rfl, rfl⟩
  · split <;> exact ⟨rfl, rfl⟩

omit [ByteBudget B] [Retained R] [InboundClassifier C R] [EventBatch Q] [TimerQueue W] in
lemma hasWork_tagged (now : ℕ) : Tagged entry (entry.hasWork now).2 := answer_tagged entry _

omit [ByteBudget B] [Retained R] [InboundClassifier C R] [EventBatch Q] in
lemma shouldEnqueue_tagged (now : ℕ) : Tagged entry (entry.shouldEnqueue now).2 := by
  unfold shouldEnqueue
  split
  · exact ⟨rfl, rfl⟩
  · exact hasWork_tagged entry now

omit [ByteBudget B] [Retained R] [InboundClassifier C R] [EventBatch Q] [TimerQueue W] in
lemma isRunnable_tagged (now : ℕ) (saturated : Bool) :
    Tagged entry (entry.isRunnable now saturated).2 := by
  unfold isRunnable
  split
  · exact ⟨rfl, rfl⟩
  · split
    · exact ⟨rfl, rfl⟩
    · exact hasWork_tagged entry now

lemma driveSlot_tagged (now : ℕ) : Tagged entry (entry.driveSlot now).2 := by
  unfold driveSlot
  split <;> exact ⟨rfl, rfl⟩

variable [MioPoller P T]

omit [InboundClassifier C R] in
lemma settleEntry_tagged (poller : P) (resource : ResourceToken) :
    Tagged entry (entry.settleEntry poller resource).2.2 := by
  refine (observeShutdown_tagged entry).trans ?_
  unfold settleEntry
  generalize entry.observeShutdown = entry
  dsimp only
  split
  · exact ⟨rfl, rfl⟩
  · split
    · exact ⟨rfl, rfl⟩
    · split
      · exact ⟨rfl, rfl⟩
      · split <;> exact ⟨rfl, rfl⟩

omit [ByteBudget B] [Retained R] [InboundClassifier C R] [EventBatch Q] [TimerQueue W] in
lemma syncInterest_tagged (poller : P) (resource : ResourceToken) :
    Tagged entry (entry.syncInterest poller resource).2.2 := by
  unfold syncInterest
  split
  · exact ⟨rfl, rfl⟩
  · dsimp only
    split
    · exact ⟨rfl, rfl⟩
    · split
      · exact ⟨rfl, rfl⟩
      · split <;> exact ⟨rfl, rfl⟩

lemma drive_tagged (now : ℕ) (poller : P) (resource : ResourceToken) :
    Tagged entry (entry.drive now poller resource).2.2 := by
  have hslot := driveSlot_tagged entry now
  unfold drive
  generalize entry.driveSlot now = driven at hslot ⊢
  obtain ⟨progress, entry₁⟩ := driven
  have hsettle := settleEntry_tagged entry₁ poller resource
  dsimp only
  split
  · next heq =>
    rw [heq] at hsettle
    exact hslot.trans hsettle
  · next settled poller₂ entry₂ heq =>
    rw [heq] at hsettle
    have hsync := syncInterest_tagged entry₂ poller₂ resource
    split
    · next heq' =>
      rw [heq'] at hsync
      exact (hslot.trans hsettle).trans hsync
    · next interest poller₃ entry₃ heq' =>
      rw [heq'] at hsync
      exact ((hslot.trans hsettle).trans hsync).trans (isRunnable_tagged entry₃ now _)

end

omit [ByteBudget B] [Retained R] [InboundClassifier C R] [EventBatch Q] [TimerQueue W] in
lemma observeReadiness_tagged [RegisteredTransport T] {readiness : Readiness}
    {entry entry' : ConnectionEntry B D C R Q W T}
    (h : entry.observeReadiness readiness = some entry') : Tagged entry entry' := by
  unfold observeReadiness at h
  split at h
  · cases h
  · split at h <;> cases h <;> exact ⟨rfl, rfl⟩

end ConnectionEntry

namespace ConnectionSet

variable {n : ℕ} {s : ConnectionSet B D C R Q W T P X M} {k : ResourceToken}
  {entry entry' : ConnectionEntry B D C R Q W T}

/-! ### The entries -/

section
omit [ByteBudget B] [Retained R] [InboundClassifier C R] [EventBatch Q] [TimerQueue W]

lemma find_store (s : ConnectionSet B D C R Q W T P X M) (k : ResourceToken)
    (entry : ConnectionEntry B D C R Q W T)
    (x : ResourceToken) : (s.store k entry).find x = if x = k then (s.find k).map fun _ =>
      entry else s.find x :=
  FencedTable.get_set ..

lemma find_store_self (h : s.find k = some entry) (entry' : ConnectionEntry B D C R Q W T) :
    (s.store k entry').find k = some entry' := by
  rw [find_store, if_pos rfl, h]
  rfl

lemma find_store_other (entry : ConnectionEntry B D C R Q W T) {x : ResourceToken} (h : x ≠ k) :
    (s.store k entry).find x = s.find x := by
  rw [find_store, if_neg h]

lemma find_discharge (s : ConnectionSet B D C R Q W T P X M) (k x : ResourceToken) :
    (s.discharge k).find x = if x = k then none else s.find x := FencedTable.get_remove ..

lemma find_withdraw (s : ConnectionSet B D C R Q W T P X M) (k x : ResourceToken) :
    (s.withdraw k).find x = if x = k then none else s.find x := FencedTable.get_remove ..

lemma find_latch [CommandMailbox X] (source : MioError) (hrunning : s.ownerFailure = none)
    (x : ResourceToken) :
    (s.latchSelectorFailure source).find x = (s.find x).map (ConnectionEntry.fence source) := by
  unfold latchSelectorFailure
  rw [hrunning]
  exact FencedTable.get_modifyAll ..

lemma entry_find {connection : ConnectionToken} (h : s.entry connection = some entry) :
    s.find connection.resource = some entry ∧ entry.identity = connection.identity := by
  unfold ConnectionSet.entry at h
  rw [Option.filter_eq_some_iff] at h
  exact ⟨h.1, of_decide_eq_true h.2⟩

end

/-! ### The flags -/

/-- The flag of a live entry. -/
def flagged (s : ConnectionSet B D C R Q W T P X M) (k : ResourceToken) : Prop :=
  ∃ entry, s.find k = some entry ∧ entry.readyQueued = true

/-- **The queue lists each flagged entry once**, in a table of the configured capacity. -/
structure Orderly (n : ℕ) (s : ConnectionSet B D C R Q W T P X M) : Prop where
  lists : Worklist.Lists s.ready s.flagged
  capacity : FencedTable.capacity s.resources = n

section
omit [ByteBudget B] [Retained R] [InboundClassifier C R] [EventBatch Q] [TimerQueue W]

/-- The queue has no more elements than the set may have connections. -/
lemma Orderly.length_le (h : Orderly n s) : s.ready.length ≤ n := by
  have hkeys : s.ready.length ≤ (FencedTable.keys s.resources).length :=
    h.lists.length_le fun x hx => by
    obtain ⟨entry, hentry, _⟩ := hx
    rw [FencedTable.mem_keys, show FencedTable.get s.resources x = some entry from hentry]
    rfl
  rw [← h.capacity]
  exact hkeys.trans (FencedTable.length_le _)

lemma flagged_store (h : s.find k = some entry) (entry' : ConnectionEntry B D C R Q W T)
    (x : ResourceToken) :
    (s.store k entry').flagged x ↔ if x = k then entry'.readyQueued = true else s.flagged x := by
  unfold flagged
  by_cases hx : x = k
  · subst hx
    rw [if_pos rfl, find_store_self h]
    exact ⟨fun ⟨e, he, hq⟩ => Option.some.inj he ▸ hq, fun hq => ⟨entry', rfl, hq⟩⟩
  · rw [if_neg hx, find_store_other entry' hx]

lemma flagged_iff (h : s.find k = some entry) : s.flagged k ↔ entry.readyQueued = true := by
  unfold flagged
  rw [h]
  exact ⟨fun ⟨e, he, hq⟩ => Option.some.inj he ▸ hq, fun hq => ⟨entry, rfl, hq⟩⟩

/-- An entry may change behind its flag. -/
lemma Orderly.store (h : Orderly n s) (hfind : s.find k = some entry) (htag : entry.Tagged entry') :
    Orderly n (s.store k entry') := by
  refine ⟨h.lists.congr fun x => ?_, (FencedTable.capacity_set ..).trans h.capacity⟩
  rw [flagged_store hfind]
  split
  · next hx => rw [hx, flagged_iff hfind, htag.queued]
  · rfl

lemma Orderly.enqueue (h : Orderly n s) (k : ResourceToken) : Orderly n (s.enqueue k) := by
  unfold ConnectionSet.enqueue
  cases hfind : s.find k with
  | none => exact h
  | some entry =>
    dsimp only
    by_cases hqueued : entry.readyQueued = true
    · rw [if_pos hqueued]
      exact h
    · rw [if_neg hqueued]
      have hflag : ¬s.flagged k := fun hk => hqueued ((flagged_iff hfind).mp hk)
      refine ⟨h.lists.push hflag fun x => ?_, (FencedTable.capacity_set ..).trans h.capacity⟩
      refine (flagged_store hfind { entry with readyQueued := true } x).trans ?_
      by_cases hx : x = k
      · rw [if_pos hx]
        exact ⟨fun _ => .inl hx, fun _ => rfl⟩
      · rw [if_neg hx]
        exact ⟨.inr, fun hk => hk.resolve_left hx⟩

/-- A token leaves the queue and its entry is no longer flagged. -/
lemma Orderly.unqueue (h : Orderly n s) (hfind : s.find k = some entry)
    (hqueued : entry'.readyQueued = false) :
    Orderly n ((s.unqueue k).store k entry') := by
  refine ⟨h.lists.drop fun x => ?_, (FencedTable.capacity_set ..).trans h.capacity⟩
  refine (flagged_store (s := s.unqueue k) hfind entry' x).trans ?_
  by_cases hx : x = k
  · rw [if_pos hx, hqueued]
    exact ⟨fun hk => (by cases hk), fun hk => absurd hx hk.1⟩
  · rw [if_neg hx]
    exact ⟨fun hk => ⟨hx, hk⟩, fun hk => hk.2⟩

lemma Orderly.discharge (h : Orderly n s) (k : ResourceToken) : Orderly n (s.discharge k) := by
  refine ⟨h.lists.drop fun x => ?_, (FencedTable.capacity_remove ..).trans h.capacity⟩
  unfold flagged
  rw [find_discharge]
  by_cases hx : x = k
  · rw [if_pos hx]
    exact ⟨fun ⟨_, hnone, _⟩ => (by cases hnone), fun hk => absurd hx hk.1⟩
  · rw [if_neg hx]
    exact ⟨fun hk => ⟨hx, hk⟩, fun hk => hk.2⟩

/-- The failure of the selector empties the queue and clears every flag. -/
lemma Orderly.latch [CommandMailbox X] (h : Orderly n s) (source : MioError) :
    Orderly n (s.latchSelectorFailure source) := by
  by_cases hfailed : s.ownerFailure = none
  · have hcapacity : FencedTable.capacity (s.latchSelectorFailure source).resources = n := by
      unfold latchSelectorFailure
      rw [hfailed]
      exact (FencedTable.capacity_modifyAll ..).trans h.capacity
    have hready : (s.latchSelectorFailure source).ready = [] := by
      unfold latchSelectorFailure
      rw [hfailed]
      rfl
    refine ⟨hready ▸ .clear fun x => ?_, hcapacity⟩
    rintro ⟨entry, hentry, hqueued⟩
    rw [find_latch source hfailed, Option.map_eq_some_iff] at hentry
    obtain ⟨before, _, rfl⟩ := hentry
    cases hqueued
  · unfold latchSelectorFailure
    rw [if_pos (Option.isSome_iff_ne_none.mpr hfailed)]
    exact h

lemma Orderly.latchReadiness [CommandMailbox X] (h : Orderly n s) (error : EngineError) :
    Orderly n (s.latchReadinessError error) := by
  cases error with
  | mio source => exact h.latch source
  | _ => exact h

lemma Orderly.polled (h : Orderly n s) (poller : P) (pollEvents : List PollEvent) :
    Orderly n ({ s with poller, pollEvents } : ConnectionSet B D C R Q W T P X M) :=
  ⟨h.lists, h.capacity⟩

end

/-! ### The turn -/

section
omit [InboundClassifier C R]

/-- A command names no live connection, or its slot carries it out and is queued. -/
lemma applyCommand_cases (s : ConnectionSet B D C R Q W T P X M) (command : ConnectionCommand) :
    (s.entry command.connection = none ∧
      s.applyCommand command = { s with staleCommands := saturatingAdd s.staleCommands 1 }) ∨
    ∃ entry, s.find command.connection.resource = some entry ∧
      s.applyCommand command = (s.store command.connection.resource
        { entry with slot := obeyed command entry.slot }).enqueue command.connection.resource := by
  unfold applyCommand
  cases hentry : s.entry command.connection with
  | none => exact .inl ⟨rfl, rfl⟩
  | some entry => exact .inr ⟨entry, (entry_find hentry).1, rfl⟩

lemma Orderly.applyCommand (h : Orderly n s) (command : ConnectionCommand) :
    Orderly n (s.applyCommand command) := by
  obtain ⟨_, hstale⟩ | ⟨entry, hfind, hlive⟩ := applyCommand_cases s command
  · rw [hstale]
    exact ⟨h.lists, h.capacity⟩
  · have htag : entry.Tagged { entry with slot := obeyed command entry.slot } := ⟨rfl, rfl⟩
    rw [hlive]
    exact (h.store hfind htag).enqueue _

lemma Orderly.driveCommands [CommandMailbox X] (h : Orderly n s) : Orderly n s.driveCommands.2 := by
  unfold ConnectionSet.driveCommands
  generalize CommandMailbox.drainInto s.commands s.limits.commandsPerTurn = drained
  obtain ⟨⟨batch, more⟩, commands⟩ := drained
  have hstart : Orderly n { s with commands, commandMorePending := more } := ⟨h.lists, h.capacity⟩
  dsimp only
  generalize ({ s with commands, commandMorePending := more } : ConnectionSet B D C R Q W T P X M) =
    s₁ at hstart ⊢
  induction batch generalizing s₁ with
  | nil => exact hstart
  | cons command batch ih => exact ih _ (hstart.applyCommand command)

end

section
variable [RegisteredTransport T]

section
omit [ByteBudget B] [Retained R] [InboundClassifier C R] [EventBatch Q] [TimerQueue W]

/-- An event names no live transport, or its transport observes it and is queued. -/
lemma ingestEvent_cases (s : ConnectionSet B D C R Q W T P X M) (event : PollEvent) :
    s.ingestEvent event = s ∨
    s.ingestEvent event = { s with staleResourceEvents := saturatingAdd s.staleResourceEvents 1 } ∨
    ∃ token readiness entry entry', event = .resource token readiness ∧ s.find token = some entry ∧
      entry.observeReadiness readiness = some entry' ∧
          s.ingestEvent event = (s.store token entry').enqueue token := by
  cases event with
  | wake => exact .inl rfl
  | resource token readiness =>
    rw [ingestEvent]
    cases hfind : s.find token with
    | none => exact .inr (.inl rfl)
    | some entry =>
      rw [Option.bind_some]
      cases hobserved : entry.observeReadiness readiness with
      | none => exact .inr (.inl rfl)
      | some entry' =>
        exact .inr (.inr ⟨token, readiness, entry, entry', rfl, hfind, hobserved, rfl⟩)

lemma Orderly.ingestEvent (h : Orderly n s) (event : PollEvent) :
    Orderly n (s.ingestEvent event) := by
  obtain hsame | hstale | ⟨token, readiness, entry, entry', _, hfind, hobserved, hlive⟩ :=
    ingestEvent_cases s event
  · rw [hsame]
    exact h
  · rw [hstale]
    exact ⟨h.lists, h.capacity⟩
  · rw [hlive]
    exact (h.store hfind (ConnectionEntry.observeReadiness_tagged hobserved)).enqueue _

lemma Orderly.ingestReadiness (h : Orderly n s) : Orderly n s.ingestReadiness.2 := by
  unfold ConnectionSet.ingestReadiness
  have hstart : Orderly n { s with pollEvents := [] } := ⟨h.lists, h.capacity⟩
  dsimp only
  generalize ({ s with pollEvents := [] } : ConnectionSet B D C R Q W T P X M) = s₁ at hstart ⊢
  generalize s.pollEvents = events
  induction events generalizing s₁ with
  | nil => exact hstart
  | cons event events ih => exact ih _ (hstart.ingestEvent event)

end

end

section
variable [SlotTransport T]

section
omit [ByteBudget B] [Retained R] [InboundClassifier C R] [EventBatch Q]

lemma Orderly.enqueueCandidate (h : Orderly n s) (now : ℕ) (k : ResourceToken) :
    Orderly n (s.enqueueCandidate now k) := by
  unfold ConnectionSet.enqueueCandidate
  cases hfind : s.find k with
  | none => exact h
  | some entry =>
    have htag := entry.shouldEnqueue_tagged now
    dsimp only
    split
    · next heq =>
      rw [heq] at htag
      exact (h.store hfind htag).enqueue _
    · next heq =>
      rw [heq] at htag
      exact h.store hfind htag

lemma Orderly.enqueueCandidates (h : Orderly n s) (now : ℕ) :
    Orderly n (s.enqueueCandidates now) := by
  unfold ConnectionSet.enqueueCandidates
  generalize FencedTable.keys s.resources = keys
  induction keys generalizing s with
  | nil => exact h
  | cons k keys ih => exact ih (h.enqueueCandidate now k)

end

variable [MioPoller P T] [CommandMailbox X]

omit [ByteBudget B] [Retained R] [InboundClassifier C R] [EventBatch Q] [TimerQueue W]
  [FencedTable M ConnectionIdentity ResourceToken] [SlotTransport T] [MioPoller P T]
  [CommandMailbox X] in
lemma ensureOwnerRunning_cases (s : ConnectionSet B D C R Q W T P X M) :
    (s.ownerFailure = none ∧ ensureOwnerRunning s = (.ok (), s)) ∨
    ∃ reason, s.ownerFailure = some reason ∧
      ensureOwnerRunning s = (.error (.ownerFailed reason), s) := by
  unfold ensureOwnerRunning
  cases s.ownerFailure with
  | none => exact .inl ⟨rfl, rfl⟩
  | some reason => exact .inr ⟨reason, rfl, rfl⟩

section
omit [ByteBudget B] [Retained R] [InboundClassifier C R] [EventBatch Q] [TimerQueue W]
  [SlotTransport T]

/-- A failed set is not polled, and the failure of a poll fences the set. -/
lemma pollSelector_cases (s : ConnectionSet B D C R Q W T P X M) (maximum : ℕ) :
    (∃ reason, s.ownerFailure = some reason ∧
      pollSelector maximum s = (.error (.ownerFailed reason), s)) ∨
    s.ownerFailure = none ∧ ∃ pollEvents poller,
      (∃ report, pollSelector maximum s = (.ok report, { s with poller, pollEvents })) ∨
      ∃ source, pollSelector maximum s =
        (.error (.mio source), ({ s with poller, pollEvents } :
          ConnectionSet B D C R Q W T P X M).latchSelectorFailure source) := by
  obtain ⟨hrunning, hensure⟩ | ⟨reason, hfailed, hensure⟩ := ensureOwnerRunning_cases s
  · have hrun : pollSelector maximum s = _ := Owner.bind_ok hensure _
    rw [hrun]
    rcases MioPoller.poll (T := T) s.poller maximum s.pollEvents
      with ⟨source | report, pollEvents, poller⟩
    · exact .inr ⟨hrunning, pollEvents, poller, .inr ⟨source, rfl⟩⟩
    · exact .inr ⟨hrunning, pollEvents, poller, .inl ⟨report, rfl⟩⟩
  · exact .inl ⟨reason, hfailed, Owner.bind_error hensure _⟩

lemma Orderly.pollSelector (h : Orderly n s) (maximum : ℕ) :
    Orderly n (ConnectionSet.pollSelector maximum s).2 := by
  obtain ⟨reason, _, hrun⟩ | ⟨_, pollEvents, poller, ⟨report, hrun⟩ | ⟨source, hrun⟩⟩ :=
    pollSelector_cases s maximum
  · rw [hrun]
    exact h
  · rw [hrun]
    exact ⟨h.lists, h.capacity⟩
  · rw [hrun]
    exact (h.polled poller pollEvents).latch source

end

omit [SlotTransport T] [MioPoller P T] [CommandMailbox X] [ByteBudget B] [Retained R]
  [InboundClassifier C R] [EventBatch Q] [TimerQueue W] in
/-- The entry at the front is taken from the queue and driven. -/
lemma Orderly.popped {ready : List ResourceToken} (h : Orderly n s) (hready : s.ready = k :: ready)
    (hfind : s.find k = some entry) (hqueued : entry'.readyQueued = false) (poller : P) :
    Orderly n (({ s with ready, poller } : ConnectionSet B D C R Q W T P X M).store k entry') := by
  have hlists := h.lists
  rw [hready] at hlists
  refine ⟨hlists.pop fun x => ?_, (FencedTable.capacity_set ..).trans h.capacity⟩
  refine (flagged_store (s := { s with ready, poller }) hfind entry' x).trans ?_
  by_cases hx : x = k
  · rw [if_pos hx, hqueued]
    exact ⟨fun hk => (by cases hk), fun hk => absurd hx hk.1⟩
  · rw [if_neg hx]
    exact ⟨fun hk => ⟨hx, hk⟩, fun hk => hk.2⟩

omit [ByteBudget B] [Retained R] [InboundClassifier C R] [EventBatch Q] [TimerQueue W]
  [SlotTransport T] [MioPoller P T] [CommandMailbox X] in
/-- The front of the queue is a live entry. -/
lemma Orderly.front {ready : List ResourceToken} (h : Orderly n s) (hready : s.ready = k :: ready) :
    ∃ entry, s.find k = some entry ∧ entry.readyQueued = true :=
  (h.lists.mem_iff k).mp (hready ▸ List.mem_cons_self)

lemma Orderly.driveReady (h : Orderly n s) (now turns : ℕ) :
    Orderly n (ConnectionSet.driveReady now turns s).2 := by
  induction turns generalizing s with
  | zero => exact h
  | succ turns ih =>
    unfold ConnectionSet.driveReady
    cases hready : s.ready with
    | nil => exact h
    | cons k ready =>
      obtain ⟨entry, hfind, _⟩ := h.front hready
      have hfind' : ({ s with ready } : ConnectionSet B D C R Q W T P X M).find k =
        some entry := hfind
      have htag := ConnectionEntry.drive_tagged { entry with readyQueued := false } now s.poller k
      simp only [hfind']
      rcases hdrive : ConnectionEntry.drive now s.poller k { entry with readyQueued := false } with
        ⟨error | ⟨progress, requeue⟩, poller, driven⟩
      · rw [hdrive] at htag
        exact (h.popped hready hfind htag.queued poller).latchReadiness error
      · rw [hdrive] at htag
        have hpopped := h.popped hready hfind htag.queued poller
        have hnext : Orderly n (if requeue then
          (({ s with ready, poller } : ConnectionSet B D C R Q W T P X M).store k driven).enqueue k
            else ({ s with ready, poller } : ConnectionSet B D C R Q W T P X M).store k
                driven) := by
          split
          · exact hpopped.enqueue k
          · exact hpopped
        have hrest := ih hnext
        dsimp only
        rw [Owner.bind_pure_run]
        exact hrest

omit [ByteBudget B] [Retained R] [InboundClassifier C R] [EventBatch Q] [TimerQueue W]
  [SlotTransport T] in
lemma Orderly.pollIo (h : Orderly n s) (maximum : ℕ) :
    Orderly n (ConnectionSet.pollIo maximum s).2 := by
  have hpolled := h.pollSelector maximum
  unfold ConnectionSet.pollIo
  rw [Owner.bind_run]
  generalize ConnectionSet.pollSelector maximum s = polled at hpolled ⊢
  obtain ⟨error | report, s₁⟩ := polled
  · exact hpolled
  · exact ⟨hpolled.lists, hpolled.capacity⟩

omit [InboundClassifier C R] in
lemma Orderly.settleConnection (h : Orderly n s) (k : ResourceToken) :
    Orderly n (ConnectionSet.settleConnection k s).2 := by
  unfold ConnectionSet.settleConnection
  cases hfind : s.find k with
  | none => exact h
  | some entry =>
    have htag := entry.settleEntry_tagged s.poller k
    dsimp only
    generalize entry.settleEntry s.poller k = settled at htag ⊢
    obtain ⟨error | count, poller, entry'⟩ := settled
    · exact ((h.polled poller s.pollEvents).store hfind htag).latchReadiness error
    · have hstored := (h.polled poller s.pollEvents).store hfind htag
      have hfind' : ({ s with poller } : ConnectionSet B D C R Q W T P X M).find k =
        some entry := hfind
      have hnext : Orderly n (if count ≠ 0 then
          (((({ s with poller } : ConnectionSet B D C R Q W T P X M).store k
            entry').unqueue k).store k
            { entry' with readyQueued := false })
                else ({ s with poller } : ConnectionSet B D C R Q W T P X M).store k entry') := by
        split
        · exact hstored.unqueue (find_store_self hfind' entry') rfl
        · exact hstored
      dsimp only
      split <;> exact hnext

/-! ### Access -/

section
omit [InboundClassifier C R]

lemma Orderly.applyAndEnqueue {α : Type} (h : Orderly n s) (connection : ConnectionToken)
    (action : Slot.Run B D C R Q W α) :
    Orderly n (s.applyAndEnqueue connection action).2 := by
  unfold ConnectionSet.applyAndEnqueue
  cases hentry : s.entry connection with
  | none => exact h
  | some entry =>
    dsimp only
    generalize action entry.slot = acted
    obtain ⟨result, slot⟩ := acted
    have htag : entry.Tagged { entry with slot } := ⟨rfl, rfl⟩
    have hsettled :=
      ((h.store (entry_find hentry).1 htag).enqueue connection.resource).settleConnection
      connection.resource
    dsimp only
    split
    · next heq =>
      rw [heq] at hsettled
      exact hsettled
    · next heq =>
      rw [heq] at hsettled
      exact hsettled
    · next heq =>
      rw [heq] at hsettled
      exact hsettled

lemma Orderly.commit (h : Orderly n s) (connection : ConnectionToken) (permit : OperationPermit)
    (frame : OutboundFrame) :
    Orderly n (s.commit connection permit frame).2 := by
  unfold ConnectionSet.commit
  cases hentry : s.entry connection with
  | none => exact (h.enqueue _).settleConnection _
  | some entry =>
    have htag : entry.Tagged { entry with slot := (entry.slot.commit permit frame).2 } := ⟨rfl, rfl⟩
    exact ((h.store (entry_find hentry).1 htag).enqueue _).settleConnection _

end

end

omit [Retained R] [InboundClassifier C R] [TimerQueue W] in
lemma Orderly.reserve (h : Orderly n s) (connection : ConnectionToken) (now : ℕ)
    (options : OperationOptions) :
    Orderly n (s.reserve connection now options).2 := by
  unfold ConnectionSet.reserve
  cases hentry : s.entry connection with
  | none => exact h
  | some entry => exact h.store (entry_find hentry).1 ⟨rfl, rfl⟩

section
omit [ByteBudget B] [Retained R] [InboundClassifier C R] [TimerQueue W]

lemma Orderly.drainOutcomes (h : Orderly n s) (connection : ConnectionToken) :
    Orderly n (s.drainOutcomes connection).2 := by
  unfold ConnectionSet.drainOutcomes
  cases hentry : s.entry connection with
  | none => exact h
  | some entry => exact h.store (entry_find hentry).1 ⟨rfl, rfl⟩

lemma Orderly.drainEvents (h : Orderly n s) (connection : ConnectionToken) :
    Orderly n (s.drainEvents connection).2 := by
  unfold ConnectionSet.drainEvents
  cases hentry : s.entry connection with
  | none => exact h
  | some entry => exact h.store (entry_find hentry).1 ⟨rfl, rfl⟩

/-- An entry is retired, or the set is as before. -/
lemma retire_cases (s : ConnectionSet B D C R Q W T P X M) (connection : ConnectionToken) :
    (s.retire connection).2 = s ∨ (s.retire connection).2 = s.discharge connection.resource := by
  unfold retire
  split
  · exact .inl rfl
  · split
    · exact .inl rfl
    · split
      · exact .inl rfl
      · split
        · exact .inl rfl
        · exact .inr rfl

lemma Orderly.retire (h : Orderly n s) (connection : ConnectionToken) :
    Orderly n (s.retire connection).2 := by
  obtain hsame | hgone := retire_cases s connection
  · rw [hsame]
    exact h
  · rw [hgone]
    exact h.discharge _

end

/-! ### Recovery -/

section
variable [SlotTransport T] [MioPoller P T] [CommandMailbox X]

omit [ByteBudget B] [Retained R] [InboundClassifier C R] [EventBatch Q] [TimerQueue W] in
lemma Orderly.releaseTransport (h : Orderly n s) (hfind : s.find k = some entry) :
    Orderly n (s.releaseTransport k entry).2 := by
  unfold ConnectionSet.releaseTransport
  cases htransport : entry.transport with
  | none => exact h
  | some t =>
    dsimp only
    generalize MioPoller.deregister s.poller t k = cleaned
    obtain ⟨cleanup, poller, t₁⟩ := cleaned
    dsimp only
    generalize captureTransportPressure (entry.slot, t₁) = looked
    obtain ⟨pressure, slot, t₂⟩ := looked
    have htag : entry.Tagged { entry with slot, transport := some t₂ } := ⟨rfl, rfl⟩
    have hstored := (h.polled poller s.pollEvents).store hfind htag
    cases cleanup with
    | ok _ => cases pressure <;> exact hstored
    | error source => cases pressure <;> exact hstored.latch source

section
omit [Retained R] [InboundClassifier C R] [TimerQueue W]

/-- Every live entry of a recovery is discharged. -/
lemma Orderly.recoverConnection (h : Orderly n s) {connection : ConnectionToken}
    (hfind : s.find connection.resource = some entry) (reason : OwnerFailure) :
    Orderly n (s.recoverConnection connection entry reason).2 := by
  have hreleased := h.releaseTransport hfind
  unfold ConnectionSet.recoverConnection
  generalize s.releaseTransport connection.resource entry = released at hreleased ⊢
  obtain ⟨⟨cleanup, failed⟩, s₁⟩ := released
  dsimp only
  cases hgone : s₁.find connection.resource with
  | none =>
    have habsent : ¬s₁.flagged connection.resource :=
      fun ⟨e, he, _⟩ => by rw [hgone] at he; cases he
    refine ⟨hreleased.lists.drop fun x => ?_, hreleased.capacity⟩
    exact ⟨fun hx => ⟨fun heq => habsent (heq ▸ hx), hx⟩, fun hx => hx.2⟩
  | some _ => exact hreleased.discharge _

lemma Orderly.tryRecover (h : Orderly n s) (connection : ConnectionToken) :
    Orderly n (s.tryRecover connection).2 := by
  unfold ConnectionSet.tryRecover
  cases hentry : s.entry connection with
  | none => exact h
  | some entry =>
    dsimp only
    split
    · exact h
    · next reason _ => exact h.recoverConnection (entry_find hentry).1 reason

lemma Orderly.abandon (h : Orderly n s) (connection : ConnectionToken) (requested : OwnerFailure) :
    Orderly n (s.abandon connection requested).2 := by
  unfold ConnectionSet.abandon
  cases hentry : s.entry connection with
  | none => exact h
  | some entry => exact h.recoverConnection (entry_find hentry).1 _

end

end

/-! ### Connecting -/

section
variable [SlotTransport T] [MioPoller P T] [CommandMailbox X]

section
omit [SlotTransport T] [MioPoller P T] [CommandMailbox X] [ByteBudget B] [Retained R]
  [InboundClassifier C R] [EventBatch Q] [TimerQueue W]

/-- A new entry is not queued, and its token names nothing else. -/
lemma Orderly.enrolled (h : Orderly n s) {resources : M (ConnectionEntry B D C R Q W T)}
    {i : ConnectionIdentity}
    (henroll : FencedTable.enroll s.resources i entry = (some k, resources))
    (hqueued : entry.readyQueued = false) :
    Orderly n { s with resources } := by
  obtain ⟨hfresh, hget, _, hcapacity⟩ := FencedTable.enroll_some _ _ _ _ _ henroll
  have habsent : ¬s.flagged k := fun ⟨e, he, _⟩ =>
    hfresh (FencedTable.issued_of_get _ _ (Option.isSome_of_eq_some he))
  refine ⟨h.lists.congr fun x => ?_, hcapacity.trans h.capacity⟩
  by_cases hx : x = k
  · subst hx
    have hfind : ({ s with resources } : ConnectionSet B D C R Q W T P X M).find x = some entry :=
      (hget x).trans (if_pos rfl)
    rw [flagged_iff hfind, hqueued]
    exact ⟨fun hflag => (by cases hflag), fun hflag => absurd hflag habsent⟩
  · have hfind : ({ s with resources } : ConnectionSet B D C R Q W T P X M).find x = s.find x :=
      (hget x).trans (if_neg hx)
    unfold flagged
    rw [hfind]

lemma Orderly.withdraw (h : Orderly n s) (hk : ¬s.flagged k) : Orderly n (s.withdraw k) := by
  refine ⟨h.lists.congr fun x => ?_, (FencedTable.capacity_remove ..).trans h.capacity⟩
  unfold flagged
  rw [find_withdraw]
  by_cases hx : x = k
  · rw [if_pos hx]
    exact ⟨fun ⟨_, hnone, _⟩ => (by cases hnone), fun hflag => absurd (hx ▸ hflag) hk⟩
  · rw [if_neg hx]

end

omit [SlotTransport T] [MioPoller P T] [ByteBudget B] [Retained R] [InboundClassifier C R]
  [EventBatch Q] [TimerQueue W] in
lemma flagged_latch (source : MioError) (hk : ¬s.flagged k) :
    ¬(s.latchSelectorFailure source).flagged k := by
  by_cases hfailed : s.ownerFailure = none
  · rintro ⟨entry, hentry, hqueued⟩
    rw [find_latch source hfailed, Option.map_eq_some_iff] at hentry
    obtain ⟨before, _, rfl⟩ := hentry
    cases hqueued
  · unfold latchSelectorFailure
    rw [if_pos (Option.isSome_iff_ne_none.mpr hfailed)]
    exact hk

section
omit [FrameDecoder D R E] [ByteBudget B] [Retained R] [InboundClassifier C R] [EventBatch Q]
  [TimerQueue W]

lemma Orderly.undoRegistration (h : Orderly n s) (hfind : s.find k = some entry)
    (hqueued : entry.readyQueued = false) (t : T)
    (error : ConnectError E) : Orderly n (s.undoRegistration k entry t error).2 := by
  unfold ConnectionSet.undoRegistration
  generalize MioPoller.deregister s.poller t k = cleaned
  obtain ⟨cleanup, poller, t₁⟩ := cleaned
  dsimp only
  generalize SlotTransport.pressure t₁ = looked
  obtain ⟨pressure, t₂⟩ := looked
  have hfind' : ({ s with poller } : ConnectionSet B D C R Q W T P X M).find k = some entry := hfind
  have htag : entry.Tagged
      { entry with
        slot := { entry.slot with transportPressure := some pressure },
        transport := some t₂ } := ⟨rfl, rfl⟩
  have hstored := (h.polled poller s.pollEvents).store hfind' htag
  have hidle : ¬(({ s with poller } : ConnectionSet B D C R Q W T P X M).store k
      { entry with
        slot := { entry.slot with transportPressure := some pressure },
        transport := some t₂ }).flagged k := by
    rw [flagged_store hfind', if_pos rfl]
    exact fun hflag => Bool.false_ne_true (hqueued.symm.trans hflag)
  cases cleanup with
  | ok _ => exact hstored.withdraw hidle
  | error source => exact (hstored.latch source).withdraw (flagged_latch source hidle)

lemma Orderly.registerEntry (h : Orderly n s) (hfind : s.find k = some entry)
    (hqueued : entry.readyQueued = false) (t : T) (bound : TransportPressure × ℕ) :
    Orderly n
      (s.registerEntry k entry t bound : Except (ConnectError E) ConnectionToken × _).2 := by
  unfold ConnectionSet.registerEntry
  generalize SlotTransport.desiredInterest t (0 < entry.slot.core.queuedWriteFrames) = desired
  obtain ⟨interest, t₁⟩ := desired
  dsimp only
  generalize MioPoller.register s.poller t₁ k interest = registered
  obtain ⟨registration, poller, t₂⟩ := registered
  dsimp only
  generalize SlotTransport.pressure t₂ = looked
  obtain ⟨pressure, t₃⟩ := looked
  dsimp only
  generalize SlotTransport.pressureLimit t₃ = limited
  obtain ⟨limit, t₄⟩ := limited
  dsimp only
  have hfind' : ({ s with poller } : ConnectionSet B D C R Q W T P X M).find k = some entry := hfind
  generalize hnew : ({ entry with
    slot := { entry.slot with
      transportPressure := some pressure, transportRetainedLimit := some bound.2 }
    interest, transport := some t₄ } : ConnectionEntry B D C R Q W T) = entry'
  have htag : entry.Tagged entry' := hnew ▸ ⟨rfl, rfl⟩
  have hqueued' : entry'.readyQueued = false := htag.queued.trans hqueued
  have hstored := (h.polled poller s.pollEvents).store hfind' htag
  have hself := find_store_self hfind' entry'
  have hidle : ¬(({ s with poller } : ConnectionSet B D C R Q W T P X M).store k
      entry').flagged k := by
    rw [flagged_iff hself, hqueued']
    exact Bool.false_ne_true
  cases registration with
  | error source => exact hstored.withdraw hidle
  | ok _ =>
    dsimp only
    split
    · exact hstored.undoRegistration hself hqueued' ..
    · split
      · exact hstored.undoRegistration hself hqueued' ..
      · exact hstored.enqueue k

end

omit [Retained R] [InboundClassifier C R] in
lemma Orderly.connectWith (h : Orderly n s) (config : ConnectionConfig)
    (limits : ConnectionSlotLimits) (decoder : D) (classifier : C)
    (connector : V → Except IoError T × V) (v : V) :
    Orderly n (s.connectWith config limits decoder classifier connector v :
      Except (ConnectError E) ConnectionToken × _).2.1 := by
  unfold ConnectionSet.connectWith
  split
  · exact h
  · split
    · exact h
    · next slot _ =>
      dsimp only
      split
      · next resources hfull =>
        have hsame : resources = s.resources := FencedTable.enroll_none _ _ _ _ hfull
        rw [hsame]
        exact h
      · next k resources henroll =>
        have hadmitted := h.enrolled henroll rfl
        obtain ⟨_, hget, _, _⟩ := FencedTable.enroll_some _ _ _ _ _ henroll
        have hfind : ({ s with resources } : ConnectionSet B D C R Q W T P X M).find k = _ :=
          (hget k).trans (if_pos rfl)
        have hidle : ¬({ s with resources } : ConnectionSet B D C R Q W T P X M).flagged k := by
          rw [flagged_iff hfind]
          exact Bool.false_ne_true
        split
        · exact hadmitted.withdraw hidle
        · split
          · exact hadmitted.withdraw hidle
          · exact hadmitted.registerEntry hfind rfl ..

end

section
variable [RegisteredTransport T] [MioPoller P T] [CommandMailbox X]

omit [ByteBudget B] [Retained R] [InboundClassifier C R] [EventBatch Q] [TimerQueue W] in
lemma Orderly.ingestPollBatches (h : Orderly n s) :
    Orderly n (ConnectionSet.ingestPollBatches s).2 := by
  have hfirst := h.ingestReadiness
  unfold ConnectionSet.ingestPollBatches
  simp only [Owner.update_bind, Owner.read_bind]
  generalize s.ingestReadiness.2 = s₁ at hfirst ⊢
  split
  · have hpolled := hfirst.pollSelector 0
    rw [Owner.bind_run]
    generalize ConnectionSet.pollSelector 0 s₁ = polled at hpolled ⊢
    obtain ⟨error | report, s₂⟩ := polled
    · exact hpolled
    · have hobserved : Orderly n (s₂.observePoll report) := ⟨hpolled.lists, hpolled.capacity⟩
      exact hobserved.ingestReadiness
  · exact hfirst

lemma Orderly.turnComponent (h : Orderly n s) (now : ℕ) :
    Orderly n (ConnectionSet.turnComponent now s).2 := by
  unfold ConnectionSet.turnComponent
  obtain ⟨_, hensure⟩ | ⟨reason, _, hensure⟩ := ensureOwnerRunning_cases s
  · rw [Owner.bind_ok hensure, Owner.update_bind, Owner.bind_run]
    have hpolled := h.driveCommands.ingestPollBatches
    generalize ConnectionSet.ingestPollBatches s.driveCommands.2 = polled at hpolled ⊢
    obtain ⟨error | work, s₁⟩ := polled
    · exact hpolled
    · have hqueued := hpolled.enqueueCandidates now
      simp only [Owner.change_bind, Owner.read_bind]
      generalize s₁.enqueueCandidates now = s₂ at hqueued ⊢
      have hdriven := hqueued.driveReady now s₂.limits.readyConnectionsPerTurn
      rw [Owner.bind_run]
      generalize ConnectionSet.driveReady now s₂.limits.readyConnectionsPerTurn s₂ =
        driven at hdriven ⊢
      obtain ⟨error | work', s₃⟩ := driven
      · exact hdriven
      · exact hdriven
  · rw [Owner.bind_error hensure]
    exact h

end

section
omit [ByteBudget B] [Retained R] [InboundClassifier C R] [EventBatch Q] [TimerQueue W]

lemma Orderly.modify (h : Orderly n s) (k : ResourceToken)
    {f : ConnectionEntry B D C R Q W T → ConnectionEntry B D C R Q W T}
    (hf : ∀ entry : ConnectionEntry B D C R Q W T, entry.Tagged (f entry)) :
    Orderly n { s with resources := FencedTable.modify s.resources k f } := by
  unfold FencedTable.modify
  cases hfind : FencedTable.get s.resources k with
  | none => exact h
  | some entry => exact h.store hfind (hf entry)

lemma new_orderly (limits : ConnectionSetLimits) (poller : P) (commands : X) :
    Orderly limits.maxConnections
      (ConnectionSet.new limits poller commands : ConnectionSet B D C R Q W T P X M) := by
  refine ⟨.clear fun x => ?_, FencedTable.capacity_new _⟩
  rintro ⟨entry, hentry, _⟩
  have hnone : FencedTable.get
      (FencedTable.new limits.maxConnections : M (ConnectionEntry B D C R Q W T)) x = none :=
    FencedTable.get_new _ _
  exact Option.some_ne_none entry (hentry.symm.trans hnone)

end

end ConnectionSet

/-! ### Runs -/

section
variable [RegisteredTransport T] [MioPoller P T] [CommandMailbox X]

lemma step_orderly {w : SetWorld B D C R Q W T P X M} {n : ℕ} (h : w.set.Orderly n)
    (call : SetCall D C T) :
    (w.step call : _ × SetResponse R E).1.set.Orderly n := by
  cases call with
  | connect config limits decoder classifier connected => exact h.connectWith ..
  | reserve connection now options =>
    have hreserved := h.reserve connection now options
    simp only [SetWorld.step]
    split
    · next heq =>
      rw [heq] at hreserved
      exact hreserved
    · next heq =>
      rw [heq] at hreserved
      exact hreserved
  | commit connection index frame =>
    simp only [SetWorld.step]
    split
    · exact h
    · exact h.commit ..
  | commitForeign connection permit frame =>
    simp only [SetWorld.step]
    split
    · exact h
    · exact h.commit ..
  | dropPermit resource index =>
    simp only [SetWorld.step]
    split
    · exact h
    · exact h.modify resource fun _ => ⟨rfl, rfl⟩
  | openAdmission connection => exact h.applyAndEnqueue ..
  | cancel connection operation => exact h.applyAndEnqueue ..
  | beginDrain connection deadline => exact h.applyAndEnqueue ..
  | finalize connection reason => exact h.applyAndEnqueue ..
  | drainOutcomes connection => exact h.drainOutcomes connection
  | drainEvents connection => exact h.drainEvents connection
  | retire connection => exact h.retire connection
  | tryRecover connection => exact h.tryRecover connection
  | abandon connection requested => exact h.abandon connection requested
  | pollIo maximum => exact h.pollIo maximum
  | turn now => exact h.turnComponent now

/-- Every state of a run has its queue in order. -/
lemma orderly_run (setup : SetSetup P X) (calls : List (SetCall D C T)) :
    (setup.final B Q W M calls : SetWorld B D C R Q W T P X M).set.Orderly
      setup.limits.maxConnections := by
  have hstart : (setup.world : SetWorld B D C R Q W T P X M).set.Orderly
      setup.limits.maxConnections :=
    ConnectionSet.new_orderly ..
  exact Transducer.history_induction
    (P := fun _ (w : SetWorld B D C R Q W T P X M) => w.set.Orderly setup.limits.maxConnections)
    hstart (fun _ w call h => step_orderly h call) calls

/-- **The queue of a set lists its flagged entries.** After any calls no token is queued
twice, a token is queued exactly when it names a live entry whose flag is set, and the
queue is within the capacity. -/
theorem ready_queue (setup : SetSetup P X) (calls : List (SetCall D C T)) :
    let s := (setup.final B Q W M calls : SetWorld B D C R Q W T P X M).set
    s.ready.Nodup ∧
      (∀ k, k ∈ s.ready ↔ ∃ entry, s.find k = some entry ∧ entry.readyQueued = true) ∧
      s.ready.length ≤ setup.limits.maxConnections := by
  have h := orderly_run (B := B) (R := R) (Q := Q) (W := W) (M := M) setup calls
  exact ⟨h.lists.nodup, h.lists.mem_iff, h.length_le⟩

end
end Bornera.Shared
