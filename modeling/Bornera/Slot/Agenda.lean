import Bornera.Slot.Closing
import Bornera.Slot.Deadlines

/-!
# The order of deadlines

`drive_deadlines` (`drive/deadline.rs`) compares three kinds of deadlines pairwise, each condition
with some of the others only. Its purpose is said by `follow`, which takes a list of what has
elapsed and handles it from the front until the slot closes. What the loop does is to follow a list
that is sorted by the moments, a drain before a connect and a connect before an operation.
-/

namespace Bornera.Slot

open Bornera.Core Bornera.Core.Epoch Lib ConnectionSlot BoundedTimers

variable {B D C R E T : Type} {Q W : Type → Type} [ByteBudget B] [FrameDecoder D R E] [Retained R]
  [InboundClassifier C R] [EventBatch Q] [BoundedTimers W] [SlotTransport T]

/-! ### The reference -/

/-- Something a slot has to do at a deadline. -/
inductive Due where
  | drain (deadline : Deadline)
  | connect (deadline : Deadline)
  | operation (event : DeadlineEvent) (deadline : Deadline)
  deriving DecidableEq

namespace Due

def moment : Due → ℕ
  | .drain deadline => deadline.moment
  | .connect deadline => deadline.moment
  | .operation _ deadline => deadline.moment

/-- The order of what is due at one moment. -/
def rank : Due → ℕ
  | .drain _ => 0
  | .connect _ => 1
  | .operation _ _ => 2

/-- The one is not handled after the other. -/
def Precedes (a b : Due) : Prop := a.moment < b.moment ∨ a.moment = b.moment ∧ a.rank ≤ b.rank

instance : DecidableRel Precedes := fun a b => by unfold Precedes; infer_instance

lemma precedes_total (a b : Due) : a.Precedes b ∨ b.Precedes a := by
  unfold Precedes
  omega

lemma precedes_trans {a b c : Due} (hab : a.Precedes b) (hbc : b.Precedes c) : a.Precedes c := by
  unfold Precedes at *
  omega

end Due

namespace ConnectionSlot

/-- What has elapsed at `now`. -/
def elapsed (s : ConnectionSlot B D C R Q W) (now : ℕ) : List Due :=
  ((s.drainDeadline.toList.map Due.drain ++ if s.isConnecting then
    [Due.connect s.connectDeadline] else []) ++
    s.clocks.map fun clock => Due.operation clock.1 clock.2).filter (·.moment ≤ now)

/-- What is done at one deadline. -/
def handle (now : ℕ) : Due → Run B D C R Q W Unit
  | .drain _ => do
    Owner.change fun s =>
      { s.recordTransportFailure (.new .shutdown .timedOut .timedOut none) with
        drainDeadline := none }
    closeFor .requested
  | .connect _ => closeFor .connectTimedOut
  | .operation event _ => do
    Owner.change (·.cancelDeadline event.operation)
    let t ← applyCore (.deadlineElapsed event.epoch event.operation now)
    interpretUnit t

/-- **The reference**: what is due is handled in the order of a list, until the slot closes
or the budget is used up. -/
def follow (now : ℕ) : ℕ → List Due → Run B D C R Q W ℕ
  | 0, _ => pure 0
  | _ + 1, [] => pure 0
  | budget + 1, due :: rest => do
    handle now due
    let s ← Owner.read
    if s.closeRequest.isSome then pure 1
    else
      let work ← follow now budget rest
      pure (work + 1)

end ConnectionSlot

/-! ### Slots that differ in their queue of timers -/

/-- The slots have the same timers and agree in everything else; the queues
themselves may differ. -/
structure Alike (s s' : ConnectionSlot B D C R Q W) : Prop where
  slot : s' = { s with timers := s'.timers }
  armed : armed s'.timers = armed s.timers
  limits : BoundedTimers.limits s'.timers = BoundedTimers.limits s.timers

variable {s s' : ConnectionSlot B D C R Q W}

section
omit [ByteBudget B] [Retained R] [InboundClassifier C R] [EventBatch Q]

lemma Alike.refl (s : ConnectionSlot B D C R Q W) : Alike s s := ⟨rfl, rfl, rfl⟩

lemma Alike.cancel (h : Alike s s') (operation : OperationId) :
    Alike (s.cancelDeadline operation) (s'.cancelDeadline operation) := by
  obtain ⟨hslot, harmed, hlimits⟩ := h
  have hindex : s'.deadlines = s.deadlines := by rw [hslot]
  unfold cancelDeadline
  rw [hindex]
  split
  · exact ⟨hslot, harmed, hlimits⟩
  · split
    · exact ⟨hslot, harmed, hlimits⟩
    · next entry _ =>
      obtain ⟨hleft, hleft'⟩ := BoundedTimers.cancel_eq s.timers entry.token
      obtain ⟨hright, hright'⟩ := BoundedTimers.cancel_eq s'.timers entry.token
      refine ⟨?_, ?_, ?_⟩
      · rw [hslot]
      · dsimp only
        rw [hright, hleft, harmed]
      · dsimp only
        rw [hright', hleft', hlimits]

end

section
omit [ByteBudget B] [InboundClassifier C R]

/-- An effect that arms no timer does not look at the queue. -/
lemma Alike.effect {X : Type}
    (outcomeOf : OperationOutcome X → Except EngineInvariant (OperationOutcome R)) (h : Alike s s')
    {effect : ConnectionEffect X} (harms : arms effect = false) :
    (interpretEffect outcomeOf effect s').1 = (interpretEffect outcomeOf effect s).1 ∧
      Alike (interpretEffect outcomeOf effect s).2 (interpretEffect outcomeOf effect s').2 := by
  cases effect with
  | scheduleDeadline => cases harms
  | discardWrite => exact ⟨rfl, h⟩
  | cancelDeadline epoch operation => exact ⟨rfl, h.cancel operation⟩
  | closeEpoch => exact ⟨rfl, h⟩
  | publishOutcome epoch operation outcome =>
    simp only [interpretEffect]
    cases outcomeOf outcome with
    | error => exact ⟨rfl, h⟩
    | ok o =>
      obtain ⟨hslot, harmed, hlimits⟩ := h
      have houtcomes : s'.outcomes = s.outcomes := by rw [hslot]
      have hspare : s'.recoveryOutcomes = s.recoveryOutcomes := by rw [hslot]
      unfold publish
      simp only [houtcomes, hspare]
      split
      · exact ⟨rfl, by rw [hslot], harmed, hlimits⟩
      · split <;> exact ⟨rfl, by rw [hslot], harmed, hlimits⟩

lemma Alike.effects {X : Type}
    (outcomeOf : OperationOutcome X → Except EngineInvariant (OperationOutcome R))
    (effects : List (ConnectionEffect X)) (reason : Option CloseReason)
    (failure : Option EngineError) (h : Alike s s')
    (harms : ∀ effect ∈ effects, arms effect = false) :
    (interpretEffects outcomeOf effects reason failure s').1 =
      (interpretEffects outcomeOf effects reason failure s).1 ∧
      (interpretEffects outcomeOf effects reason failure s').2.1 =
        (interpretEffects outcomeOf effects reason failure s).2.1 ∧
      Alike (interpretEffects outcomeOf effects reason failure s).2.2
        (interpretEffects outcomeOf effects reason failure s').2.2 := by
  induction effects generalizing reason failure s s' with
  | nil => exact ⟨rfl, rfl, h⟩
  | cons effect effects ih =>
    obtain ⟨hresult, hnext⟩ := h.effect outcomeOf (harms effect List.mem_cons_self)
    simp only [interpretEffects, hresult]
    exact ih _ _ hnext fun other hmem => harms other (List.mem_cons_of_mem _ hmem)

end

section
omit [ByteBudget B] [Retained R] [InboundClassifier C R]

lemma Alike.publishNext (h : Alike s s') (event : ℕ → ConnectionEpoch → ConnectionEvent) :
    (ConnectionSlot.publishNext event s').1 = (ConnectionSlot.publishNext event s).1 ∧
      Alike (ConnectionSlot.publishNext event s).2 (ConnectionSlot.publishNext event s').2 := by
  obtain ⟨hslot, harmed, hlimits⟩ := h
  have hsequence : s'.eventSequence = s.eventSequence := by rw [hslot]
  have hlifecycle : s'.lifecycle = s.lifecycle := by rw [hslot]
  have hspare : s'.recoveryEvents = s.recoveryEvents := by rw [hslot]
  have hepoch : s'.epoch = s.epoch := by rw [hslot]; rfl
  simp only [publishNext_run, hsequence, hepoch]
  split
  · exact ⟨rfl, hslot, harmed, hlimits⟩
  · unfold publishEvent
    simp only [hlifecycle, hspare]
    split
    · exact ⟨rfl, by rw [hslot], harmed, hlimits⟩
    · split <;> exact ⟨rfl, by rw [hslot], harmed, hlimits⟩

lemma Alike.finishClose (h : Alike s s') (reason : Option CloseReason)
    (failure : Option EngineError) :
    (ConnectionSlot.finishClose reason failure s').1 =
      (ConnectionSlot.finishClose reason failure s).1 ∧
      Alike (ConnectionSlot.finishClose reason failure s).2
        (ConnectionSlot.finishClose reason failure s').2 := by
  have hrequest : s'.closeRequest = s.closeRequest := by rw [h.slot]
  cases reason with
  | none => exact ⟨rfl, h⟩
  | some reason =>
    cases hnone : s.closeRequest with
    | some =>
      simp only [ConnectionSlot.finishClose, hrequest, hnone]
      exact ⟨trivial, h⟩
    | none =>
      obtain ⟨hresult, hnext⟩ := h.publishNext (.closing · · reason)
      simp only [ConnectionSlot.finishClose, hrequest, hnone, publishClosing, hresult]
      generalize (ConnectionSlot.publishNext (.closing · · reason) s).2 = s₁ at hnext ⊢
      generalize (ConnectionSlot.publishNext (.closing · · reason) s').2 = s₂ at hnext ⊢
      have hshutdown : s₂.shutdownFor reason = s₁.shutdownFor reason := by
        rw [hnext.slot]
        rfl
      rw [hshutdown]
      exact ⟨rfl, by rw [hnext.slot], hnext.armed, hnext.limits⟩

end

omit [ByteBudget B] [InboundClassifier C R] in
lemma Alike.interpret {X : Type}
    {outcomeOf : OperationOutcome X → Except EngineInvariant (OperationOutcome R)}
    {tr : ConnectionTransition X} (h : Alike s s') (harms : tr.effects.countP arms = 0) :
    (ConnectionSlot.interpret outcomeOf tr s').1 = (ConnectionSlot.interpret outcomeOf tr s).1 ∧
      Alike (ConnectionSlot.interpret outcomeOf tr s).2
        (ConnectionSlot.interpret outcomeOf tr s').2 := by
  have hnone : ∀ effect ∈ tr.effects, arms effect = false := fun effect hmem => by
    simpa using List.countP_eq_zero.mp harms effect hmem
  obtain ⟨hreason, hfailure, hslot⟩ := h.effects outcomeOf tr.effects none none hnone
  obtain ⟨hresult, hfinish⟩ :=
    hslot.finishClose (interpretEffects outcomeOf tr.effects none none s).1
    (interpretEffects outcomeOf tr.effects none none s).2.1
  rw [interpret_slot, interpret_slot, hreason, hfailure]
  refine ⟨?_, hfinish⟩
  simp only [ConnectionSlot.interpret, hreason, hfailure]
  generalize ConnectionSlot.finishClose _ _
    (interpretEffects outcomeOf tr.effects none none s').2.2 = left at hresult ⊢
  generalize ConnectionSlot.finishClose _ _
    (interpretEffects outcomeOf tr.effects none none s).2.2 = right at hresult ⊢
  obtain ⟨failure, left⟩ := left
  obtain ⟨failure', right⟩ := right
  obtain rfl : failure = failure' := hresult
  cases failure <;> rfl

/-! ### The first timer -/

lemma findIdx?_congr {α : Type} {p q : α → Bool} {xs : List α} (h : ∀ x ∈ xs, p x = q x) :
    xs.findIdx? p = xs.findIdx? q := by
  induction xs with
  | nil => rfl
  | cons x xs ih =>
    rw [List.findIdx?_cons, List.findIdx?_cons, h x List.mem_cons_self, ih fun y hy =>
      h y (List.mem_cons_of_mem _ hy)]

section
omit [ByteBudget B] [Retained R] [InboundClassifier C R] [EventBatch Q]

/-- A due timer is one of the first, and is taken out as its cancel would do. -/
lemma Wound.due {now : ℕ} {event : DeadlineEvent} (h : Wound s)
    (hdue : (s.popDue now).1 = some event) :
    Alike (s.popDue now).2 (s.cancelDeadline event.operation) ∧
      ∃ deadline, (event, deadline) ∈ s.clocks ∧ deadline.moment ≤ now ∧
        ∀ clock ∈ s.clocks, deadline.moment ≤ clock.2.moment := by
  have hsome : ∃ timer ∈ armed s.timers, timer.deadline.isElapsedAt now = true := by
    by_contra hnone
    have hnone' : ∀ timer ∈ armed s.timers, timer.deadline.isElapsedAt now = false :=
      fun timer hmem => by
      simpa using fun helapsed => hnone ⟨timer, hmem, helapsed⟩
    rw [popDue_event, (BoundedTimers.popDue_none s.timers now hnone').1] at hdue
    cases hdue
  obtain ⟨timer, hmem, helapsed, hfirst, hpopped, harmed, hlimits⟩ :=
    BoundedTimers.popDue_some s.timers now hsome
  obtain rfl : timer.value = event := by
    rw [popDue_event, hpopped] at hdue
    exact Option.some.inj hdue
  have hsame : ∀ entry ∈ s.deadlines,
      decide (entry.token = timer.token) = decide (entry.operation = timer.value.operation) := by
    intro entry hentry
    obtain ⟨own, hown, hoperation, htoken⟩ := h.timer hentry
    rw [decide_eq_decide, ← htoken, ← hoperation]
    constructor
    · intro heq
      rw [List.inj_on_of_nodup_map (BoundedTimers.distinct s.timers) hown hmem heq]
    · intro heq
      rw [List.inj_on_of_nodup_map h.distinct hown hmem heq]
  obtain ⟨entry, hentry, hoperation, htoken⟩ := h.entry hmem
  have hfound : (s.deadlines.findIdx? (·.operation = timer.value.operation)).isSome := by
    rw [List.findIdx?_isSome]
    exact List.any_eq_true.mpr ⟨entry, hentry, decide_eq_true hoperation⟩
  obtain ⟨index, hindex⟩ := Option.isSome_iff_exists.mp hfound
  obtain ⟨hlt, hthere, _⟩ := List.findIdx?_eq_some_iff_getElem.mp hindex
  have hat : s.deadlines[index]? = some s.deadlines[index] := List.getElem?_eq_getElem hlt
  have htoken' : s.deadlines[index].token = timer.token := by
    have hsame' := hsame _ (List.getElem_mem hlt)
    rw [hthere] at hsame'
    exact of_decide_eq_true hsame'
  refine ⟨?_, timer.deadline, List.mem_map.mpr ⟨timer, hmem, rfl⟩, of_decide_eq_true helapsed, ?_⟩
  · obtain ⟨hcancel, hcancel'⟩ := BoundedTimers.cancel_eq s.timers timer.token
    unfold ConnectionSlot.popDue cancelDeadline
    cases hrun : TimerQueue.popDue s.timers now with
    | mk result timers =>
    rw [hrun] at hpopped harmed hlimits
    simp only at hpopped harmed hlimits
    subst hpopped
    simp only [hindex, findIdx?_congr hsame, hat, htoken']
    refine ⟨rfl, ?_, ?_⟩
    · rw [hcancel, harmed]
    · rw [hcancel', hlimits]
  · intro clock hclock
    obtain ⟨other, hother, rfl⟩ := List.mem_map.mp hclock
    exact hfirst other hother

/-- What the queue says of the next deadline. -/
lemma nextDeadline_clocks (s : ConnectionSlot B D C R Q W) (bound : ℕ) :
    (TimerQueue.nextDeadline s.timers).all (bound ≤ ·.moment) = true ↔
      ∀ clock ∈ s.clocks, bound ≤ clock.2.moment := by
  obtain ⟨hnone, hsome⟩ := BoundedTimers.nextDeadline_eq s.timers
  cases hnext : TimerQueue.nextDeadline s.timers with
  | none => simp [ConnectionSlot.clocks, hnone.mp hnext]
  | some first =>
    obtain ⟨⟨timer, htimer, hfirst⟩, hleast⟩ := hsome first hnext
    simp only [Option.all_some, decide_eq_true_eq, ConnectionSlot.clocks, List.forall_mem_map]
    constructor
    · exact fun hle other hother => hle.trans (hleast other hother)
    · exact fun hall => hfirst ▸ hall timer htimer

end

/-! ### What comes first -/

section
omit [ByteBudget B] [Retained R] [InboundClassifier C R] [EventBatch Q]

lemma mem_elapsed {now : ℕ} {due : Due} : due ∈ s.elapsed now ↔ due.moment ≤ now ∧
    ((∃ deadline, s.drainDeadline = some deadline ∧ due = .drain deadline) ∨
      (s.isConnecting = true ∧ due = .connect s.connectDeadline) ∨
      ∃ clock ∈ s.clocks, due = .operation clock.1 clock.2) := by
  unfold ConnectionSlot.elapsed
  rw [List.mem_filter, and_comm]
  refine and_congr (by simp) ?_
  simp only [List.mem_append, List.mem_map, Option.mem_toList, or_assoc]
  refine or_congr ?_ (or_congr ?_ ?_)
  · exact exists_congr fun deadline => and_congr_right fun _ => eq_comm
  · cases s.isConnecting <;> simp
  · exact exists_congr fun clock => and_congr_right fun _ => eq_comm

lemma drainFirst_iff {now : ℕ} :
    s.drainFirst now = true ↔ ∃ deadline, s.drainDeadline = some deadline ∧
    deadline.moment ≤ now ∧
    (∀ clock ∈ s.clocks, deadline.moment ≤ clock.2.moment) ∧
    (s.isConnecting = true → deadline.moment ≤ s.connectDeadline.moment) := by
  unfold drainFirst
  rw [Option.any_eq_true]
  refine exists_congr fun deadline => and_congr_right fun _ => ?_
  rw [Bool.and_eq_true, Bool.and_eq_true, nextDeadline_clocks, and_assoc, Deadline.isElapsedAt,
    decide_eq_true_eq]
  refine and_congr_right fun _ => and_congr_right fun _ => ?_
  cases s.isConnecting <;> simp

lemma connectFirst_iff {now : ℕ} :
    s.connectFirst now = true ↔ s.isConnecting = true ∧ s.connectDeadline.moment ≤ now ∧
    ∀ clock ∈ s.clocks, s.connectDeadline.moment ≤ clock.2.moment := by
  unfold connectFirst
  rw [Bool.and_eq_true, Bool.and_eq_true, nextDeadline_clocks, and_assoc, Deadline.isElapsedAt,
    decide_eq_true_eq]

/-- A drain that comes first has nothing before it. -/
lemma drainFirst_precedes {now : ℕ} (h : s.drainFirst now = true) :
    ∃ deadline, .drain deadline ∈ s.elapsed now ∧
      ∀ due ∈ s.elapsed now, (Due.drain deadline).Precedes due := by
  obtain ⟨deadline, hdrain, helapsed, hclocks, hconnect⟩ := drainFirst_iff.mp h
  refine ⟨deadline, mem_elapsed.mpr ⟨helapsed, .inl ⟨deadline, hdrain, rfl⟩⟩, fun due hdue => ?_⟩
  obtain ⟨_, ⟨deadline', hdrain', rfl⟩ | ⟨hconnecting, rfl⟩ | ⟨clock, hclock, rfl⟩⟩ :=
    mem_elapsed.mp hdue
  · rw [hdrain] at hdrain'
    cases hdrain'
    exact .inr ⟨rfl, le_rfl⟩
  · have hle := hconnect hconnecting
    simp only [Due.Precedes, Due.moment, Due.rank]
    omega
  · have hle := hclocks clock hclock
    simp only [Due.Precedes, Due.moment, Due.rank]
    omega

/-- Nor has a connect that comes first, unless it is after a drain that does. -/
lemma connectFirst_precedes {now : ℕ} (hdrain : s.drainFirst now ≠ true)
    (h : s.connectFirst now = true) :
    .connect s.connectDeadline ∈ s.elapsed now ∧
      ∀ due ∈ s.elapsed now, (Due.connect s.connectDeadline).Precedes due := by
  obtain ⟨hconnecting, helapsed, hclocks⟩ := connectFirst_iff.mp h
  refine ⟨mem_elapsed.mpr ⟨helapsed, .inr (.inl ⟨hconnecting, rfl⟩)⟩, fun due hdue => ?_⟩
  obtain ⟨hnow, ⟨deadline, hdeadline, rfl⟩ | ⟨_, rfl⟩ | ⟨clock, hclock, rfl⟩⟩ := mem_elapsed.mp hdue
  · refine .inl (not_le.mp fun hle => hdrain ?_)
    exact drainFirst_iff.mpr ⟨deadline, hdeadline, hnow, fun clock hclock =>
      hle.trans (hclocks clock hclock), fun _ => hle⟩
  · exact .inr ⟨rfl, le_rfl⟩
  · have hle := hclocks clock hclock
    simp only [Due.Precedes, Due.moment, Due.rank]
    omega

/-- When neither does, every elapsed deadline is after that of some operation. -/
lemma exists_clock_before {now : ℕ} {due : Due} (hdrain : s.drainFirst now ≠ true)
    (hconnect : s.connectFirst now ≠ true) (hdue : due ∈ s.elapsed now) :
    ∃ clock ∈ s.clocks, (Due.operation clock.1 clock.2).Precedes due := by
  have hconnecting : ∀ hnow : s.connectDeadline.moment ≤ now, s.isConnecting = true →
      ∃ clock ∈ s.clocks, clock.2.moment < s.connectDeadline.moment := by
    intro hnow hc
    by_contra hnone
    simp only [not_exists, not_and, not_lt] at hnone
    exact hconnect (connectFirst_iff.mpr ⟨hc, hnow, hnone⟩)
  obtain ⟨hnow, ⟨deadline, hdeadline, rfl⟩ | ⟨hc, rfl⟩ | ⟨clock, hclock, rfl⟩⟩ :=
    mem_elapsed.mp hdue
  · by_contra hnone
    simp only [not_exists, not_and] at hnone
    have hclocks : ∀ clock ∈ s.clocks, deadline.moment ≤ clock.2.moment :=
      fun clock hclock => not_lt.mp fun hlt => hnone clock hclock (.inl hlt)
    refine hdrain (drainFirst_iff.mpr
      ⟨deadline, hdeadline, hnow, hclocks, fun hc => not_lt.mp fun hlt => ?_⟩)
    obtain ⟨clock, hclock, hbefore⟩ := hconnecting (hlt.le.trans hnow) hc
    have hle := hclocks clock hclock
    omega
  · obtain ⟨clock, hclock, hlt⟩ := hconnecting hnow hc
    exact ⟨clock, hclock, .inl hlt⟩
  · exact ⟨clock, hclock, .inr ⟨rfl, le_rfl⟩⟩

/-- So the first of the operations comes first. -/
lemma operation_precedes {now : ℕ} {event : DeadlineEvent} {deadline : Deadline}
    (hdrain : s.drainFirst now ≠ true) (hconnect : s.connectFirst now ≠ true)
    (hfirst : ∀ clock ∈ s.clocks, deadline.moment ≤ clock.2.moment) :
    ∀ due ∈ s.elapsed now, (Due.operation event deadline).Precedes due := by
  intro due hdue
  obtain ⟨clock, hclock, hbefore⟩ := exists_clock_before hdrain hconnect hdue
  refine Due.precedes_trans ?_ hbefore
  have hle := hfirst clock hclock
  simp only [Due.Precedes, Due.moment, Due.rank]
  omega

/-- When no operation is due either, nothing is. -/
lemma elapsed_nil {now : ℕ} (hdrain : s.drainFirst now ≠ true)
    (hconnect : s.connectFirst now ≠ true)
    (hclocks : ∀ clock ∈ s.clocks, clock.2.isElapsedAt now = false) : s.elapsed now = [] := by
  refine List.eq_nil_iff_forall_not_mem.mpr fun due hdue => ?_
  obtain ⟨clock, hclock, hbefore⟩ := exists_clock_before hdrain hconnect hdue
  have hlate := of_decide_eq_false (hclocks clock hclock)
  have hnow := (mem_elapsed.mp hdue).1
  have hmoment : (Due.operation clock.1 clock.2).moment = clock.2.moment := rfl
  unfold Due.Precedes at hbefore
  omega

end

/-- The clocks with one operation taken out. -/
lemma clocks_perm_without {clock : DeadlineEvent × Deadline} {l : List (DeadlineEvent × Deadline)}
    (hnodup : (l.map (·.1.operation)).Nodup)
    (hmem : clock ∈ l) : l.Perm (clock :: without clock.1.operation l) :=
  Lookup.perm_cons_filter hnodup hmem

omit [ByteBudget B] [Retained R] [InboundClassifier C R] [EventBatch Q] in
/-- What is left when a first operation has been handled and everything else is as it was. -/
lemma elapsed_perm {now : ℕ} {event : DeadlineEvent} {deadline : Deadline}
    (hdrain : s'.drainDeadline = s.drainDeadline) (hstate : s'.transportState = s.transportState)
    (hconnect : s'.connectDeadline = s.connectDeadline) (hnow : deadline.moment ≤ now)
    (hclocks : s.clocks.Perm ((event, deadline) :: s'.clocks)) :
    (s.elapsed now).Perm (.operation event deadline :: s'.elapsed now) := by
  have hconnecting : s'.isConnecting = s.isConnecting := by rw [isConnecting, hstate, isConnecting]
  unfold ConnectionSlot.elapsed
  rw [hdrain, hconnect, hconnecting]
  generalize (s.drainDeadline.toList.map Due.drain ++ if s.isConnecting then
    [Due.connect s.connectDeadline] else []) = front
  have hmapped := hclocks.map fun clock => Due.operation clock.1 clock.2
  rw [List.map_cons] at hmapped
  have hall :=
    ((hmapped.append_left front).trans List.perm_middle).filter
    (fun due : Due => decide (due.moment ≤ now))
  rwa [List.filter_cons_of_pos (by exact decide_eq_true hnow)] at hall

/-- Whatever has elapsed can be put in order. -/
lemma exists_order (dues : List Due) :
    ∃ order : List Due, order.Perm dues ∧ order.Pairwise Due.Precedes := by
  have : Std.Total Due.Precedes := ⟨Due.precedes_total⟩
  have : IsTrans Due Due.Precedes := ⟨fun _ _ _ => Due.precedes_trans⟩
  exact ⟨dues.insertionSort Due.Precedes, List.perm_insertionSort _ _,
    List.pairwise_insertionSort _ _⟩

/-! ### What is published -/

omit [ByteBudget B] [InboundClassifier C R] [BoundedTimers W] in
lemma publish_contents (s : ConnectionSlot B D C R Q W) (o : EngineOutcome R) :
    EventBatch.contents s.outcomes ⊆ EventBatch.contents (publish o s).2.outcomes ∧
      ((publish o s).1 = .ok () → o ∈ EventBatch.contents (publish o s).2.outcomes) := by
  by_cases hfits : (EventBatch.contents s.outcomes).length <
    (EventBatch.limits s.outcomes).maxEvents ∧
      retainedSum (EventBatch.contents s.outcomes) + Retained.retainedBytes o ≤
        (EventBatch.limits s.outcomes).maxRetainedBytes
  · obtain ⟨hok, hcontents, _⟩ := EventBatch.push_fits s.outcomes o hfits.1 hfits.2
    unfold publish
    generalize EventBatch.tryPush s.outcomes o = pushed at hok hcontents
    obtain ⟨result, outcomes⟩ := pushed
    simp only at hok hcontents
    subst hok
    simp [hcontents]
  · obtain ⟨herror, hcontents, _⟩ := EventBatch.push_full s.outcomes o hfits
    unfold publish
    generalize EventBatch.tryPush s.outcomes o = pushed at herror hcontents
    obtain ⟨result, outcomes⟩ := pushed
    simp only at herror hcontents
    subst herror
    dsimp only
    split <;> exact ⟨fun _ hmem => by rw [hcontents]; exact hmem, fun hok => by cases hok⟩

section
omit [ByteBudget B] [InboundClassifier C R]

/-- An effect publishes its outcome and drops none. -/
lemma effect_contents {X : Type}
    (outcomeOf : OperationOutcome X → Except EngineInvariant (OperationOutcome R))
    (effect : ConnectionEffect X) (s : ConnectionSlot B D C R Q W) :
    EventBatch.contents s.outcomes ⊆ EventBatch.contents
      (interpretEffect outcomeOf effect s).2.outcomes ∧
      ((interpretEffect outcomeOf effect s).1 = .ok () → ∀ home operation outcome o,
        effect = .publishOutcome home operation outcome → outcomeOf outcome = .ok o →
          ⟨home, operation, o⟩ ∈ EventBatch.contents
            (interpretEffect outcomeOf effect s).2.outcomes) := by
  cases effect with
  | publishOutcome home operation outcome =>
    simp only [interpretEffect]
    cases hof : outcomeOf outcome with
    | error => exact ⟨fun _ hmem => hmem, fun hok => by cases hok⟩
    | ok o =>
      obtain ⟨hkept, hpublished⟩ := publish_contents s ⟨home, operation, o⟩
      refine ⟨hkept, ?_⟩
      rintro hok _ _ _ o' ⟨⟩ hof'
      rw [hof] at hof'
      cases hof'
      exact hpublished hok
  | scheduleDeadline home operation deadline =>
    refine ⟨?_, fun _ _ _ _ _ heq => by cases heq⟩
    simp only [interpretEffect]
    rw [scheduleDeadline_frame]
    exact fun _ hmem => hmem
  | cancelDeadline home operation =>
    refine ⟨?_, fun _ _ _ _ _ heq => by cases heq⟩
    simp only [interpretEffect, Owner.change_run]
    rw [cancelDeadline_frame]
    exact fun _ hmem => hmem
  | discardWrite => exact ⟨fun _ hmem => hmem, fun hok => by cases hok⟩
  | closeEpoch => exact ⟨fun _ hmem => hmem, fun _ _ _ _ _ heq => by cases heq⟩

lemma effects_contents {X : Type}
    (outcomeOf : OperationOutcome X → Except EngineInvariant (OperationOutcome R))
    (effects : List (ConnectionEffect X)) (reason : Option CloseReason)
    (failure : Option EngineError) (s : ConnectionSlot B D C R Q W) :
    EventBatch.contents s.outcomes ⊆ EventBatch.contents
      (interpretEffects outcomeOf effects reason failure s).2.2.outcomes ∧
      ((interpretEffects outcomeOf effects reason failure s).2.1 = none → failure = none ∧
        ∀ home operation outcome o,
        .publishOutcome home operation outcome ∈ effects → outcomeOf outcome = .ok o →
          ⟨home, operation, o⟩ ∈ EventBatch.contents
            (interpretEffects outcomeOf effects reason failure s).2.2.outcomes) := by
  induction effects generalizing reason failure s with
  | nil => exact ⟨fun _ hmem => hmem, fun hnone => ⟨hnone, fun _ _ _ _ hmem => by cases hmem⟩⟩
  | cons effect effects ih =>
    obtain ⟨hkept, hpublished⟩ := effect_contents outcomeOf effect s
    obtain ⟨hkept', hpublished'⟩ :=
      ih (closeReasonOf reason effect) (retainFirst failure (interpretEffect outcomeOf effect s).1)
      (interpretEffect outcomeOf effect s).2
    refine ⟨fun _ hmem => hkept' (hkept hmem), fun hnone => ?_⟩
    obtain ⟨hfailure, hlater⟩ := hpublished' hnone
    obtain ⟨hfailure, hok⟩ := retainFirst_none.mp hfailure
    refine ⟨hfailure, fun home operation outcome o hmem hof => ?_⟩
    rcases List.mem_cons.mp hmem with rfl | hmem
    · exact hkept' (hpublished hok home operation outcome o rfl hof)
    · exact hlater home operation outcome o hmem hof

end

omit [ByteBudget B] [Retained R] [InboundClassifier C R] [BoundedTimers W] in
/-- A close keeps the failure it is given. -/
lemma finishClose_failure {reason : Option CloseReason} {failure : Option EngineError}
    (h : (ConnectionSlot.finishClose reason failure s).1 = none) : failure = none := by
  cases reason with
  | none => exact h
  | some reason =>
    cases hrequest : s.closeRequest with
    | none => exact (finishClose_unfailed hrequest h).1
    | some =>
      simp only [ConnectionSlot.finishClose, hrequest] at h
      exact h

omit [ByteBudget B] [InboundClassifier C R] in
/-- **An interpretation drops no outcome**, and one that succeeds has published all of its own. -/
theorem interpret_contents {X : Type}
    (outcomeOf : OperationOutcome X → Except EngineInvariant (OperationOutcome R))
    (tr : ConnectionTransition X) (s : ConnectionSlot B D C R Q W) :
    EventBatch.contents s.outcomes ⊆ EventBatch.contents (interpret outcomeOf tr s).2.outcomes ∧
      ((interpret outcomeOf tr s).1 = .ok () → ∀ home operation outcome o,
        .publishOutcome home operation outcome ∈ tr.effects → outcomeOf outcome = .ok o →
          ⟨home, operation, o⟩ ∈ EventBatch.contents (interpret outcomeOf tr s).2.outcomes) := by
  obtain ⟨hkept, hpublished⟩ := effects_contents outcomeOf tr.effects none none s
  rw [interpret_slot, finishClose_frame]
  refine ⟨hkept, fun hok => (hpublished ?_).2⟩
  exact finishClose_failure (interpret_unfailed hok)

/-! ### One deadline -/

variable {e e' : Epoch OutboundFrame} {permits : List OperationPermit}

/-- A slot between two deadlines. -/
structure Poised (permits : List OperationPermit) (s : ConnectionSlot B D C R Q W)
    (e : Epoch OutboundFrame) : Prop where
  owns : Owns permits s e
  timed : Timed s e
  healthy : e.poisoned = none
  phase : InPhase s e e.phase
  pending : s.closeRequest = none

/-- A call of the core with an input, and the interpretation of its answer. -/
def converse (input : ConnectionInput) : Run B D C R Q W Unit := do
  let tr ← applyCore input
  interpretUnit tr

omit [InboundClassifier C R] in
/-- A healthy core answers every input. -/
lemma Owns.answer (h : Owns permits s e) (hhealthy : e.poisoned = none) (input : ConnectionInput) :
    ∃ tr core e', (∀ s' : ConnectionSlot B D C R Q W, s'.core = s.core → s'.debug = s.debug →
        converse input s' = interpretUnit tr { s' with core }) ∧
      Step e (.apply input) (.transition (.ok tr)) e' ∧
        Holds s.limits.connection ⟨core, permits⟩ e' := by
  obtain ⟨e', hholds, hstep, _⟩ := follows_step h s.debug (.apply input : Call OutboundFrame Unit)
  simp only [World.step, World.transition] at hholds hstep
  cases hm : (ConnectionCore.apply s.debug input : ConnectionCore.Run B OutboundFrame
      (ConnectionTransition Unit)) s.core with
  | mk result core =>
  rw [hm] at hholds hstep
  cases result with
  | error source =>
    cases hstep with
    | refused _ poisoned =>
      rw [hhealthy] at poisoned
      cases poisoned
  | ok tr =>
    refine ⟨tr, core, e', fun s' hcore hdebug => ?_, hstep, hholds⟩
    rw [← hcore, ← hdebug] at hm
    exact Owner.bind_ok (applyCore_ok hm) _

/-- What an elapsed deadline of a lane does: an unsent operation is removed, and one that may have
been sent closes the epoch. -/
lemma elapsed_step {x : Item OutboundFrame} {now : ℕ} {tr : ConnectionTransition Unit} (hw : e.Wf)
    (hx : x ∈ e.lane) (helapsed : x.record.deadline.isElapsedAt now = true)
    (h : Step e (.apply (.deadlineElapsed e.epoch x.id now)) (.transition (.ok tr)) e') :
    tr.effects.countP arms = 0 ∧
      ((.publishOutcome e.epoch x.id (.failed .deadlineElapsed .notSent) ∈ tr.effects ∧
          (∀ reason ∈ closings tr.effects, reason = .drained) ∧
            without x.id (clocksOf e) = clocksOf e') ∨
        closings tr.effects = [.deadlineAfterPossibleSend]) := by
  have hown : ∀ y ∈ e.lane, y.id = x.id → y = x := fun y hy heq =>
    List.inj_on_of_nodup_map hw.operations.of_append_right hy hx heq
  generalize hoperation : x.id = operation at h
  generalize hepoch : e.epoch = home at h
  cases h with
  | ignored ignores _ _ _ =>
    cases ignores with
    | stale other => exact absurd hepoch.symm other
    | input deaf => exact absurd hoperation (deaf x hx)
  | @rescheduled y _ _ mem early =>
    rw [hown y mem hoperation.symm, helapsed] at early
    cases early
  | @removed _ pre post y outcome cancelled _ lane _ _ removes =>
    cases removes
    refine ⟨?_, .inl ⟨by simp, fun reason hreason => ?_, ?_⟩⟩
    · rw [List.countP_append, arms_drain]
      rfl
    · simp only [closings, List.filterMap_append, Epoch.drainEffects] at hreason
      split at hreason
      · simpa using hreason
      · cases hreason
    · rw [clocksOf_drained, clocksOf_remove hw lane]
  | closed _ _ closes =>
    cases closes with
    | late mem sent _ =>
      exact ⟨arms_closing _ _ _, .inr (closings_closing _ _ _)⟩

/-- What an operation's deadline leaves of a slot that is not closed by it. -/
structure Passed (s s' : ConnectionSlot B D C R Q W) (event : DeadlineEvent)
    (deadline : Deadline) : Prop where
  drain : s'.drainDeadline = s.drainDeadline
  state : s'.transportState = s.transportState
  connect : s'.connectDeadline = s.connectDeadline
  clocks : s.clocks.Perm ((event, deadline) :: s'.clocks)
  published : ⟨event.epoch, event.operation, .failed .deadlineElapsed .notSent⟩ ∈
    EventBatch.contents s'.outcomes

section
omit [InboundClassifier C R]

/-- **An elapsed operation**: what the core answers, and what becomes of the slot. -/
lemma Poised.operation (h : Poised permits s e) {now : ℕ} {event : DeadlineEvent}
    (hdue : (s.popDue now).1 = some event) :
    ∃ deadline tr core e', (event, deadline) ∈ s.clocks ∧ deadline.moment ≤ now ∧
      (∀ clock ∈ s.clocks, deadline.moment ≤ clock.2.moment) ∧ tr.effects.countP arms = 0 ∧
      (∀ s' : ConnectionSlot B D C R Q W, s'.core = s.core → s'.debug = s.debug →
        converse (.deadlineElapsed event.epoch event.operation now) s' =
          interpretUnit tr { s' with core }) ∧
      ((interpretUnit tr { (s.popDue now).2 with core }).1 = .ok () →
        (∃ reason shutdown, (interpretUnit tr { (s.popDue now).2 with core }).2.closeRequest =
          some (.core reason shutdown) ∧
          reason ≠ .requested ∧ reason ≠ .connectTimedOut) ∨
        Poised permits (interpretUnit tr { (s.popDue now).2 with core }).2 e' ∧
          Passed s (interpretUnit tr { (s.popDue now).2 with core }).2 event deadline) := by
  obtain ⟨hpopped, deadline, hclock, hnow, hfirst⟩ := h.timed.wound.due hdue
  obtain ⟨x, hx, heq⟩ := List.mem_map.mp (h.timed.clocks.subset hclock)
  obtain rfl : event = ⟨e.epoch, x.id⟩ := congrArg Prod.fst heq.symm
  obtain rfl : deadline = x.record.deadline := congrArg Prod.snd heq.symm
  obtain ⟨tr, core, e', hanswer, hstep, hholds⟩ :=
    h.owns.answer h.healthy (.deadlineElapsed e.epoch x.id now)
  obtain ⟨harms, hcases⟩ := elapsed_step h.owns.wf hx (decide_eq_true hnow) hstep
  refine ⟨_, tr, core, e', hclock, hnow, hfirst, harms, hanswer, fun hok => ?_⟩
  have hswap : (ConnectionSlot.popDue { s with core } now).2 = { (s.popDue now).2 with core } := by
    simp only [ConnectionSlot.popDue]
    split <;> rfl
  have hhook : Timed { s with core } e := h.timed.congr rfl rfl rfl (.refl _)
  have hdue' : (ConnectionSlot.popDue { s with core } now).1 = some ⟨e.epoch, x.id⟩ := by
    rw [popDue_event] at hdue ⊢
    exact hdue
  obtain ⟨_, htimed⟩ := hhook.elapse h.owns.lane_le h.owns.wf hdue' hstep
  rw [hswap] at htimed
  have hframe := popDue_frame s now
  generalize (s.popDue now).2 = s₁ at hok hframe htimed ⊢
  have hphase : InPhase { s₁ with core } e e.phase :=
    h.phase.congr (by rw [hframe]) (by rw [hframe]; exact h.phase.undrained) (by rw [hframe]) rfl
  have hcloses := hstep.closes h.owns.wf fun home => by simp
  have hphase' : InPhase (interpretUnit tr { s₁ with core }).2 e' e'.phase :=
    hphase.interpret hcloses
  have hnone : ({ s₁ with core } : ConnectionSlot B D C R Q W).closeRequest = none := by
    rw [hframe]
    exact h.pending
  have hlimits : ({ s₁ with core } : ConnectionSlot B D C R Q W).limits = s.limits := by rw [hframe]
  have howns : Owns permits (interpretUnit tr { s₁ with core }).2 e' :=
    owns_of_eq ((interpret_limits ..).trans hlimits) (interpret_core ..) hholds
  rcases hcloses with ⟨hopen, _, _⟩ | ⟨reason, hone, _⟩
  · have hbooked : Booked { s₁ with core } (interpretUnit tr { s₁ with core }).2 :=
      interpret_open hopen _
    obtain ⟨hpublished, _, hremoved⟩ : _ ∧ _ ∧ _ := hcases.resolve_right (by rw [hopen]; simp)
    have hnodup : ((clocksOf e).map (·.1.operation)).Nodup := by
      simp only [clocksOf, List.map_map]
      exact h.owns.wf.operations.of_append_right
    have hrest : (clocksOf e).Perm ((⟨e.epoch, x.id⟩, x.record.deadline) :: clocksOf e') := by
      rw [← hremoved]
      exact clocks_perm_without hnodup (List.mem_map.mpr ⟨x, hx, rfl⟩)
    refine .inr ⟨⟨howns, htimed, hstep.healthy.2, hphase', ?_⟩, ?_, ?_, ?_, ?_, ?_⟩
    · rw [hbooked]
      exact hnone
    · rw [hbooked, hframe]
    · rw [hbooked, hframe]
    · rw [hbooked, hframe]
    · exact h.timed.clocks.trans (hrest.trans (htimed.clocks.symm.cons _))
    · exact (interpret_contents unitOutcome tr { s₁ with core }).2 hok _ _ _ _ hpublished rfl
  · obtain ⟨s₂, _, hclosed, _⟩ := interpret_close unitOutcome hone hnone
    refine .inl ⟨reason, s₂.shutdownOf reason, by rw [interpretUnit, hclosed]; rfl, ?_⟩
    rcases hcases with ⟨_, hdrained, _⟩ | hclose
    · rw [hdrained reason (by rw [hone]; simp)]
      simp
    · rw [hone] at hclose
      cases hclose
      simp

/-- **A deadline that closes the slot.** -/
lemma Poised.close (h : Poised permits s e) (hlive : e.phase = .live) (reason : CloseReason) :
    ∃ tr core, tr.effects.countP arms = 0 ∧
      (∀ s' : ConnectionSlot B D C R Q W, s'.core = s.core → s'.debug = s.debug →
        closeFor reason s' = interpretUnit tr { s' with core }) ∧
      ∀ s' : ConnectionSlot B D C R Q W, s'.closeRequest = none →
        ∃ shutdown, (interpretUnit tr s').2.closeRequest = some (.core reason shutdown) := by
  obtain ⟨tr, core, e', hanswer, hstep, _⟩ :=
    h.owns.answer h.healthy (.closeRequested s.epoch reason)
  have heffects : tr.effects = e.closing reason none := by
    rw [h.owns.epoch_eq] at hstep
    generalize hhome : e.epoch = home at hstep
    cases hstep with
    | ignored ignores _ _ _ =>
      cases ignores with
      | stale other => exact absurd hhome.symm other
      | input deaf => exact absurd hlive deaf
    | removed _ _ _ _ removes => cases removes
    | closed _ _ closes =>
      cases closes
      rfl
  refine ⟨tr, core, by rw [heffects, arms_closing], fun s' hcore hdebug => ?_, fun s' hnone => ?_⟩
  · rw [← hanswer s' hcore hdebug, ConnectionSlot.epoch, ← hcore]
    rfl
  · obtain ⟨s₁, _, hclosed, _⟩ :=
      interpret_close (s := s') unitOutcome (by rw [heffects, closings_closing]) hnone
    exact ⟨s₁.shutdownOf reason, by rw [interpretUnit, hclosed]; rfl⟩

end

/-! ### The loop -/

/-- What comes first comes first in some order. -/
lemma exists_order_cons {due : Due} {dues : List Due} (hmem : due ∈ dues)
    (hfirst : ∀ other ∈ dues, due.Precedes other) :
    ∃ rest, (due :: rest).Perm dues ∧ (due :: rest).Pairwise Due.Precedes := by
  obtain ⟨rest, hperm, hsorted⟩ := exists_order (dues.erase due)
  have hall : (due :: rest).Perm dues := (hperm.cons due).trans (List.perm_cons_erase hmem).symm
  refine ⟨rest, hall, List.pairwise_cons.mpr
    ⟨fun other hother => hfirst other (hall.subset (List.mem_cons_of_mem _ hother)), hsorted⟩⟩

/-- What a loop makes of the first turn, whose answer and slot are given: it stops when the turn
failed or closed the slot, and goes on with `next` otherwise. -/
def resume (next : Run B D C R Q W ℕ) (result : Except EngineError Unit)
    (s : ConnectionSlot B D C R Q W) :
    Except EngineError ℕ × ConnectionSlot B D C R Q W :=
  match result with
  | .error error => (.error error, s)
  | .ok () => if s.closeRequest.isSome then (.ok 1, s) else ((next s).1.map (· + 1), (next s).2)

omit [ByteBudget B] [Retained R] [InboundClassifier C R] [EventBatch Q] [BoundedTimers W] in
lemma resume_run (next m : Run B D C R Q W _) (s : ConnectionSlot B D C R Q W) :
    (m >>= fun _ => do
      let s ← Owner.read
      if s.closeRequest.isSome then pure 1
      else
        let work ← next
        pure (work + 1)) s = resume next (m s).1 (m s).2 := by
  rw [Owner.bind_run]
  unfold resume
  cases m s with
  | mk result s' =>
  cases result with
  | error => rfl
  | ok =>
    simp only [Owner.read_bind]
    split
    · rfl
    · exact Owner.bind_pure_run ..

section
omit [InboundClassifier C R]

lemma follow_cons (now budget : ℕ) (due : Due) (rest : List Due) (s : ConnectionSlot B D C R Q W) :
    follow now (budget + 1) (due :: rest) s =
      resume (follow now budget rest) (handle now due s).1 (handle now due s).2 :=
  resume_run _ _ _

/-- The turn of an operation. -/
lemma driveDeadlines_operation {now : ℕ} {event : DeadlineEvent} (budget : ℕ)
    (hdrain : s.drainFirst now ≠ true) (hconnect : s.connectFirst now ≠ true)
    (hpop : (s.popDue now).1 = some event) :
    driveDeadlines now (budget + 1) s = resume (driveDeadlines now budget)
      (converse (.deadlineElapsed event.epoch event.operation now) (s.popDue now).2).1
      (converse (.deadlineElapsed event.epoch event.operation now) (s.popDue now).2).2 := by
  rw [← resume_run, driveDeadlines, Owner.read_bind, if_neg hdrain, if_neg hconnect,
    Owner.update_bind, hpop]
  exact Owner.bind_assoc_run _ _ _ _

end

/-- The slot closes at a deadline of the kind that gives this reason. -/
inductive Expires (s : ConnectionSlot B D C R Q W) : CloseReason → Deadline → Prop where
  | drain {deadline : Deadline} (armed : s.drainDeadline = some deadline) : Expires s
    .requested deadline
  | connect (connecting : s.isConnecting = true) : Expires s .connectTimedOut s.connectDeadline

/-- **What the loop over the deadlines does.** -/
structure Outruns (now budget : ℕ) (s : ConnectionSlot B D C R Q W)
    (ran : Except EngineError ℕ × ConnectionSlot B D C R Q W) : Prop where
  /-- No outcome is dropped. -/
  kept : EventBatch.contents s.outcomes ⊆ EventBatch.contents ran.2.outcomes
  /-- Nothing is left when it stops on its own. -/
  idle : ∀ work, ran.1 = .ok work → work < budget → ran.2.closeRequest = none →
    ran.2.elapsed now = []
  /-- Operations that were due before a deadline that closed the slot have failed by their own. -/
  early : ∀ work, ran.1 = .ok work →
    ∀ reason shutdown, ran.2.closeRequest = some (.core reason shutdown) →
    ∀ deadline, Expires s reason deadline → ∀ clock ∈ s.clocks, clock.2.moment < deadline.moment →
      ⟨clock.1.epoch, clock.1.operation, .failed .deadlineElapsed .notSent⟩ ∈
        EventBatch.contents ran.2.outcomes

/-- The loop and the reference, from slots that are alike. -/
def Follows (now budget : ℕ) (s s' : ConnectionSlot B D C R Q W) : Prop :=
  ∃ order : List Due, order.Perm (s.elapsed now) ∧ order.Pairwise Due.Precedes ∧
    (driveDeadlines now budget s).1 = (follow now budget order s').1 ∧
    Alike (driveDeadlines now budget s).2 (follow now budget order s').2

section
omit [ByteBudget B] [Retained R] [InboundClassifier C R] [EventBatch Q] [BoundedTimers W]

lemma resume_stops (next : Run B D C R Q W ℕ) {result : Except EngineError Unit}
    (h : ¬(result = .ok () ∧ s.closeRequest = none)) :
    resume next result s = (result.map fun _ => 1, s) := by
  cases result with
  | error => rfl
  | ok =>
    refine if_pos (Option.isSome_iff_ne_none.mpr fun hnone => h ⟨rfl, hnone⟩)

lemma resume_goes (next : Run B D C R Q W ℕ) (h : s.closeRequest = none) :
    resume next (.ok ()) s = ((next s).1.map (· + 1), (next s).2) := if_neg (by simp [h])

end

section
omit [ByteBudget B] [Retained R] [InboundClassifier C R] [EventBatch Q]

lemma Alike.trans {s₁ s₂ s₃ : ConnectionSlot B D C R Q W} (h : Alike s₁ s₂) (h' : Alike s₂ s₃) :
    Alike s₁ s₃ :=
  ⟨by rw [h'.slot, h.slot], h'.armed.trans h.armed, h'.limits.trans h.limits⟩

lemma Alike.withCore (h : Alike s s') (core : ConnectionCore B OutboundFrame) :
    Alike { s with core } { s' with core } :=
  ⟨by rw [h.slot], h.armed, h.limits⟩

end

omit [InboundClassifier C R] in
/-- A turn that closes the slot: the first of what is due is a drain or a connect. -/
lemma Poised.expires (h : Poised permits s e) {now : ℕ} (budget : ℕ) (reason : CloseReason)
    {due : Due} (s₁ s₁' : ConnectionSlot B D C R Q W) (hlive : e.phase = .live)
    (hcore : s₁.core = s.core) (hdebug : s₁.debug = s.debug) (hnone : s₁.closeRequest = none)
    (houtcomes : s₁.outcomes = s.outcomes) (halike : Alike s₁ s₁')
    (hrun : driveDeadlines now (budget + 1) s = (closeFor reason >>= fun _ => pure 1) s₁)
    (hhandle : handle now due s' = closeFor reason s₁') (hmem : due ∈ s.elapsed now)
    (hfirst : ∀ other ∈ s.elapsed now, due.Precedes other)
    (hreason : ∀ deadline, Expires s reason deadline → deadline.moment = due.moment) :
    Follows now (budget + 1) s s' ∧
      Outruns now (budget + 1) s (driveDeadlines now (budget + 1) s) := by
  obtain ⟨rest, hperm, hsorted⟩ := exists_order_cons hmem hfirst
  obtain ⟨tr, core, harms, hclose, hclosed⟩ := h.close hlive reason
  have hslot : closeFor reason s₁ = interpretUnit tr { s₁ with core } := hclose s₁ hcore hdebug
  have hslot' : closeFor reason s₁' = interpretUnit tr { s₁' with core } := by
    refine hclose s₁' ?_ ?_
    · rw [halike.slot]
      exact hcore
    · rw [halike.slot]
      exact hdebug
  obtain ⟨hresult, hafter⟩ : (interpretUnit tr { s₁' with core }).1 =
    (interpretUnit tr { s₁ with core }).1 ∧
      Alike (interpretUnit tr { s₁ with core }).2 (interpretUnit tr { s₁' with core }).2 :=
        (halike.withCore core).interpret harms
  obtain ⟨shutdown, hrequest⟩ := hclosed { s₁ with core } hnone
  have hkept := (interpret_contents unitOutcome tr { s₁ with core }).1
  rw [Owner.bind_pure_run, hslot] at hrun
  refine ⟨⟨due :: rest, hperm, hsorted, ?_⟩, ?_, ?_, ?_⟩
  · rw [follow_cons, hhandle, hslot', resume_stops, hrun, hresult]
    · exact ⟨rfl, hafter⟩
    · rw [hafter.slot, hrequest]
      simp
  · rw [hrun]
    intro o ho
    exact hkept (houtcomes ▸ ho)
  · intro work _ _ hpending
    rw [hrun] at hpending
    exact absurd (hrequest.symm.trans hpending) (by simp)
  · intro work _ reason' shutdown' hrequest' deadline hexpires clock hclock hlt
    rw [hrun] at hrequest'
    cases hrequest.symm.trans hrequest'
    have hmoment := hreason deadline hexpires
    have hnow := (mem_elapsed.mp hmem).1
    have hoperation : (Due.operation clock.1 clock.2).moment = clock.2.moment := rfl
    have hbefore :=
      hfirst (.operation clock.1 clock.2)
      (mem_elapsed.mpr ⟨by omega, .inr (.inr ⟨clock, hclock, rfl⟩)⟩)
    unfold Due.Precedes at hbefore
    omega

omit [ByteBudget B] [Retained R] [InboundClassifier C R] [EventBatch Q] in
lemma elapsed_congr (hdrain : s'.drainDeadline = s.drainDeadline)
    (hstate : s'.transportState = s.transportState)
    (hconnect : s'.connectDeadline = s.connectDeadline) (hclocks : s'.clocks = s.clocks) (now : ℕ) :
    s'.elapsed now = s.elapsed now := by
  unfold ConnectionSlot.elapsed isConnecting
  rw [hdrain, hstate, hconnect, hclocks]

omit [InboundClassifier C R] in
/-- A turn in which nothing is due. -/
lemma Poised.idles (h : Poised permits s e) (halike : Alike s s') {now : ℕ} (budget : ℕ)
    (hdrain : s.drainFirst now ≠ true) (hconnect : s.connectFirst now ≠ true)
    (hpop : (s.popDue now).1 = none) :
    Follows now (budget + 1) s s' ∧
      Outruns now (budget + 1) s (driveDeadlines now (budget + 1) s) := by
  have hrun : driveDeadlines now (budget + 1) s = (.ok 0, (s.popDue now).2) := by
    rw [driveDeadlines, Owner.read_bind, if_neg hdrain, if_neg hconnect, Owner.update_bind, hpop]
    rfl
  have hpopped := (h.timed.wound.popDue now).2
  rw [hpop] at hpopped
  obtain ⟨hclocks, hundue⟩ := hpopped
  have hnil := elapsed_nil hdrain hconnect hundue
  have hnone : ∀ timer ∈ armed s.timers, timer.deadline.isElapsedAt now = false := fun timer hmem =>
    hundue (timer.value, timer.deadline) (List.mem_map.mpr ⟨timer, hmem, rfl⟩)
  obtain ⟨_, harmed, hlimits⟩ := BoundedTimers.popDue_none s.timers now hnone
  have htimers : (s.popDue now).2 = { s with timers := (TimerQueue.popDue s.timers now).2 } := by
    unfold ConnectionSlot.popDue at hpop ⊢
    split at hpop
    · next hqueue =>
      rw [hqueue]
    · cases hpop
  rw [hrun]
  refine ⟨⟨[], by rw [hnil], List.Pairwise.nil, ?_⟩, ?_, ?_, ?_⟩
  · rw [hrun, htimers]
    exact ⟨rfl, halike.slot, halike.armed.trans harmed.symm, halike.limits.trans hlimits.symm⟩
  · rw [htimers]
    exact fun _ hmem => hmem
  · intro work _ _ _
    rw [elapsed_congr _ _ _ hclocks now, hnil] <;> rw [htimers]
  · intro work _ reason shutdown hrequest
    rw [htimers] at hrequest
    exact absurd (h.pending.symm.trans hrequest) (by simp)

lemma map_ok {α β : Type} {f : α → β} {result : Except EngineError α} {b : β}
    (h : result.map f = .ok b) :
    ∃ a, result = .ok a ∧ b = f a := by
  cases result with
  | error => cases h
  | ok a =>
    cases h
    exact ⟨a, rfl, rfl⟩

omit [ByteBudget B] [Retained R] [InboundClassifier C R] in
lemma Passed.expires {event : DeadlineEvent} {deadline bound : Deadline} {reason : CloseReason}
    (h : Passed s s' event deadline)
    (hexpires : Expires s reason bound) : Expires s' reason bound := by
  cases hexpires with
  | drain armed => exact .drain (h.drain.trans armed)
  | connect connecting =>
    rw [← h.connect]
    exact .connect (by rw [isConnecting, h.state]; exact connecting)

section
omit [InboundClassifier C R]

/-- A turn in which an operation is due. -/
lemma Poised.passes (h : Poised permits s e) (halike : Alike s s') {now : ℕ} (budget : ℕ)
    (hdrain : s.drainFirst now ≠ true) (hconnect : s.connectFirst now ≠ true)
    {event : DeadlineEvent} (hpop : (s.popDue now).1 = some event)
    (ih : ∀ {s s' : ConnectionSlot B D C R Q W} {e : Epoch OutboundFrame}, Poised permits s e →
      Alike s s' →
      Follows now budget s s' ∧ Outruns now budget s (driveDeadlines now budget s)) :
    Follows now (budget + 1) s s' ∧ Outruns now (budget + 1) s
    (driveDeadlines now (budget + 1) s) := by
  obtain ⟨deadline, tr, core, e', hclock, hnow, hleast, harms, hanswer, hnext⟩ := h.operation hpop
  have hmem : .operation event deadline ∈ s.elapsed now :=
    mem_elapsed.mpr ⟨hnow, .inr (.inr ⟨_, hclock, rfl⟩)⟩
  have hfirst : ∀ due ∈ s.elapsed now, (Due.operation event deadline).Precedes due :=
    operation_precedes hdrain hconnect hleast
  have hframe := popDue_frame s now
  have hpopped : Alike (s.popDue now).2 (s'.cancelDeadline event.operation) :=
    (h.timed.wound.due hpop).1.trans (halike.cancel event.operation)
  have hslot := hanswer (s.popDue now).2 (by rw [hframe]) (by rw [hframe])
  have hhandle : handle now (.operation event deadline) s' =
      interpretUnit tr { s'.cancelDeadline event.operation with core } := by
    refine hanswer (s'.cancelDeadline event.operation) ?_ ?_
    · rw [hpopped.slot, hframe]
    · rw [hpopped.slot, hframe]
  obtain ⟨hresult, hafter⟩ : (interpretUnit tr { s'.cancelDeadline event.operation with core }).1 =
        (interpretUnit tr { (s.popDue now).2 with core }).1 ∧
      Alike (interpretUnit tr { (s.popDue now).2 with core }).2
          (interpretUnit tr { s'.cancelDeadline event.operation with core }).2 :=
    (hpopped.withCore core).interpret harms
  have hkept : EventBatch.contents s.outcomes ⊆
      EventBatch.contents (interpretUnit tr { (s.popDue now).2 with core }).2.outcomes := by
    have houtcomes : s.outcomes = (s.popDue now).2.outcomes := by rw [hframe]
    rw [houtcomes]
    exact (interpret_contents unitOutcome tr { (s.popDue now).2 with core }).1
  have hrun := driveDeadlines_operation budget hdrain hconnect hpop
  have hfollow := fun rest => follow_cons now budget (.operation event deadline) rest s'
  rw [hslot] at hrun
  rw [hhandle] at hfollow
  generalize interpretUnit tr { (s.popDue now).2 with core } = r at hkept hresult hafter hnext hrun
  generalize interpretUnit tr { s'.cancelDeadline event.operation with core } =
    r' at hresult hafter hfollow
  obtain ⟨result, s₁⟩ := r
  obtain ⟨result', s₁'⟩ := r'
  simp only at hkept hresult hafter hnext hrun hfollow
  subst hresult
  have hrequest : s₁'.closeRequest = s₁.closeRequest := by rw [hafter.slot]
  by_cases hgoes : result' = .ok () ∧ s₁.closeRequest = none
  · obtain ⟨rfl, hnone⟩ := hgoes
    obtain ⟨hpoised, hpassed⟩ : Poised permits s₁ e' ∧ Passed s s₁ event deadline := by
      rcases hnext rfl with ⟨reason, shutdown, hclosed, _⟩ | hopen
      · rw [hnone] at hclosed
        cases hclosed
      · exact hopen
    obtain ⟨⟨rest, hperm, hsorted, hsame, hlast⟩, houtruns⟩ := ih hpoised hafter
    have hall := elapsed_perm hpassed.drain hpassed.state hpassed.connect hnow hpassed.clocks
    rw [resume_goes _ hnone] at hrun
    refine ⟨⟨.operation event deadline :: rest, (hperm.cons _).trans hall.symm, ?_, ?_⟩, ?_, ?_, ?_⟩
    · refine List.pairwise_cons.mpr ⟨fun due hdue => hfirst due ?_, hsorted⟩
      exact hall.symm.subset (List.mem_cons_of_mem _ (hperm.subset hdue))
    · rw [hfollow, resume_goes _ (hrequest.trans hnone), hrun, hsame]
      exact ⟨rfl, hlast⟩
    · rw [hrun]
      exact fun _ hmem => houtruns.kept (hkept hmem)
    · intro work hwork hlt hopen
      rw [hrun] at hwork hopen ⊢
      obtain ⟨earlier, hearlier, rfl⟩ := map_ok hwork
      exact houtruns.idle earlier hearlier (by omega) hopen
    · intro work hwork reason shutdown hclosed bound hexpires clock hclock' hlt
      rw [hrun] at hwork hclosed ⊢
      obtain ⟨earlier, hearlier, rfl⟩ := map_ok hwork
      rcases List.mem_cons.mp (hpassed.clocks.subset hclock') with rfl | hlater
      · exact houtruns.kept hpassed.published
      · exact houtruns.early earlier hearlier reason shutdown hclosed bound
          (hpassed.expires hexpires) clock hlater hlt
  · obtain ⟨rest, hperm, hsorted⟩ := exists_order_cons hmem hfirst
    rw [resume_stops _ hgoes] at hrun
    refine ⟨⟨.operation event deadline :: rest, hperm, hsorted, ?_⟩, ?_, ?_, ?_⟩
    · rw [hfollow, resume_stops _ (by rw [hrequest]; exact hgoes), hrun]
      exact ⟨rfl, hafter⟩
    · rw [hrun]
      exact hkept
    · intro work hwork _ hopen
      rw [hrun] at hwork hopen
      obtain ⟨_, hok, _⟩ := map_ok hwork
      exact absurd ⟨hok, hopen⟩ hgoes
    · intro work hwork reason shutdown hclosed bound hexpires
      rw [hrun] at hwork hclosed
      obtain ⟨_, hok, _⟩ := map_ok hwork
      rcases hnext hok with ⟨reason', shutdown', hrequest', hother⟩ | ⟨hpoised, _⟩
      · cases hclosed.symm.trans hrequest'
        cases hexpires with
        | drain => exact absurd rfl hother.1
        | connect => exact absurd rfl hother.2
      · exact absurd ⟨hok, hpoised.pending⟩ hgoes

/-- **The loop follows the order of the deadlines.** -/
theorem Poised.follows (h : Poised permits s e) (halike : Alike s s') (now budget : ℕ) :
    Follows now budget s s' ∧ Outruns now budget s (driveDeadlines now budget s) := by
  induction budget generalizing s s' e with
  | zero =>
    obtain ⟨order, hperm, hsorted⟩ := exists_order (s.elapsed now)
    refine ⟨⟨order, hperm, hsorted, rfl, halike⟩, fun _ hmem =>
      hmem, fun work _ hlt => (by cases hlt), ?_⟩
    intro work _ reason shutdown hrequest
    rw [driveDeadlines, Owner.pure_run, h.pending] at hrequest
    cases hrequest
  | succ budget ih =>
    by_cases hdrain : s.drainFirst now = true
    · obtain ⟨deadline, hmem, hfirst⟩ := drainFirst_precedes hdrain
      obtain ⟨_, ⟨armed, harmed, heq⟩ | ⟨_, heq⟩ | ⟨_, _, heq⟩⟩ := mem_elapsed.mp hmem
      · cases heq
        have hlive : e.phase = .live := by
          by_contra hphase
          rw [h.phase.undrained hphase] at harmed
          cases harmed
        refine h.expires budget .requested
          { s.recordTransportFailure (.new .shutdown .timedOut .timedOut none) with
            drainDeadline := none }
          { s'.recordTransportFailure (.new .shutdown .timedOut .timedOut none) with
            drainDeadline := none }
          hlive rfl rfl h.pending rfl ?_ ?_ rfl hmem hfirst ?_
        · exact ⟨by rw [halike.slot]; rfl, halike.armed, halike.limits⟩
        · rw [driveDeadlines, Owner.read_bind, if_pos hdrain, Owner.change_bind]
        · intro deadline' hexpires
          cases hexpires with
          | drain armed =>
            rw [harmed] at armed
            cases armed
            rfl
      · cases heq
      · cases heq
    · by_cases hconnect : s.connectFirst now = true
      · obtain ⟨hmem, hfirst⟩ := connectFirst_precedes hdrain hconnect
        have hstate : s.transportState = .connecting :=
          of_decide_eq_true (connectFirst_iff.mp hconnect).1
        have hlive : e.phase = .live := h.phase.live_of h.pending (by rw [hstate]; simp)
        refine h.expires budget .connectTimedOut s s' hlive rfl rfl h.pending rfl halike ?_
          rfl hmem hfirst ?_
        · rw [driveDeadlines, Owner.read_bind, if_neg hdrain, if_pos hconnect]
        · intro deadline' hexpires
          cases hexpires
          rfl
      · cases hpop : (s.popDue now).1 with
        | none => exact h.idles halike budget hdrain hconnect hpop
        | some event => exact h.passes halike budget hdrain hconnect hpop fun hp ha => ih hp ha

end

/-! ### Runs -/

/-- Every run keeps its slot in its phase and its timers. -/
theorem poised_run (setup : SlotSetup D C R E) (calls : List (SlotCall T)) :
    Standing (fun _ s e _ => Phased s e ∧ (s.state = .running → Timed s e)) (fun _ => True)
      (setup.history B Q W calls) (setup.final B Q W calls) := by
  refine standing_run setup ⟨Phased.new setup, fun _ => Timed.new setup⟩ ?_
    (fun _ _ _ _ _ _ _ _ _ _ _ _ => trivial)
    (fun _ _ _ _ _ => trivial) calls
  intro h s e permits call s' e' ev howns ⟨hphased, htimed⟩ hstep _ _ _ howns'
  exact ⟨hphased.step howns hstep, (Timed.step htimed howns howns' hstep).1⟩

/-- A running slot without a close is poised between two calls. -/
lemma poised_final (setup : SlotSetup D C R E) (calls : List (SlotCall T))
    {s : ConnectionSlot B D C R Q W} (hslot : s ∈ (setup.final B Q W calls).slot)
    (hrunning : s.state = .running) (hnone : s.closeRequest = none) :
    ∃ e, Poised (setup.final B Q W calls).permits s e := by
  have hrun := poised_run (B := B) (Q := Q) (W := W) setup calls
  unfold Standing at hrun
  rw [Option.mem_def.mp hslot] at hrun
  obtain ⟨e, howns, hphased, htimed⟩ := hrun
  exact ⟨e, howns, htimed hrunning, (hphased.running hrunning).1,
    (hphased.running hrunning).2, hnone⟩

omit [ByteBudget B] [Retained R] [InboundClassifier C R] [EventBatch Q] in
/-- Nothing elapsed, nothing due. -/
lemma hasDueDeadline_of_elapsed {now : ℕ} (h : s.elapsed now = []) :
    s.hasDueDeadline now = false := by
  have hnone : ∀ due, due ∉ s.elapsed now := fun due => by simp [h]
  unfold hasDueDeadline
  rw [Bool.or_eq_false_iff, Bool.or_eq_false_iff]
  refine ⟨⟨?_, ?_⟩, ?_⟩
  · rw [Bool.eq_false_iff, Ne, Bool.and_eq_true]
    rintro ⟨hconnecting, hnow⟩
    exact hnone (.connect s.connectDeadline)
      (mem_elapsed.mpr ⟨of_decide_eq_true hnow, .inr (.inl ⟨hconnecting, rfl⟩)⟩)
  · rw [Bool.eq_false_iff, Ne, Option.any_eq_true]
    rintro ⟨deadline, hdeadline, hnow⟩
    exact hnone (.drain deadline)
      (mem_elapsed.mpr ⟨of_decide_eq_true hnow, .inl ⟨deadline, hdeadline, rfl⟩⟩)
  · rw [Bool.eq_false_iff, Ne, Option.any_eq_true]
    rintro ⟨deadline, hdeadline, hnow⟩
    obtain ⟨⟨timer, htimer, rfl⟩, _⟩ :=
      (BoundedTimers.nextDeadline_eq s.timers).2 deadline hdeadline
    refine hnone (.operation timer.value timer.deadline)
      (mem_elapsed.mpr ⟨of_decide_eq_true hnow, .inr (.inr ?_)⟩)
    exact ⟨(timer.value, timer.deadline), List.mem_map.mpr ⟨timer, htimer, rfl⟩, rfl⟩

/-- **Deadlines are handled in their absolute order.** In a running slot without a close, the loop
over the deadlines does what the reference does that handles everything elapsed in the order of the
moments, a drain before a connect and a connect before an operation, up to its first close or its
budget. When a drain or a connect closes the slot, every operation whose deadline was strictly
before has failed by its own deadline. A loop that stops by itself leaves nothing due. -/
theorem deadlines_in_order (setup : SlotSetup D C R E) (calls : List (SlotCall T))
    (s : ConnectionSlot B D C R Q W) (hslot : s ∈ (setup.final B Q W calls).slot)
    (hrunning : s.state = .running) (hnone : s.closeRequest = none) (now budget : ℕ) :
    (∃ order : List Due, order.Perm (s.elapsed now) ∧ order.Pairwise Due.Precedes ∧
      (driveDeadlines now budget s).1 = (follow now budget order s).1 ∧
      Alike (driveDeadlines now budget s).2 (follow now budget order s).2) ∧
    (∀ work, (driveDeadlines now budget s).1 = .ok work → ∀ reason shutdown,
      (driveDeadlines now budget s).2.closeRequest = some (.core reason shutdown) →
      ∀ deadline, Expires s reason deadline →
      ∀ record ∈ s.core.machine.matching.pending, record.deadline.moment < deadline.moment →
        ⟨s.epoch, record.id, .failed .deadlineElapsed .notSent⟩ ∈
          EventBatch.contents (driveDeadlines now budget s).2.outcomes) ∧
    (∀ work, (driveDeadlines now budget s).1 = .ok work → work < budget →
      (driveDeadlines now budget s).2.closeRequest = none →
        (driveDeadlines now budget s).2.hasDueDeadline now = false) := by
  obtain ⟨e, hpoised⟩ := poised_final setup calls hslot hrunning hnone
  obtain ⟨hfollows, houtruns⟩ := hpoised.follows (.refl s) now budget
  refine ⟨hfollows, ?_, fun work hwork hlt hopen =>
    hasDueDeadline_of_elapsed (houtruns.idle work hwork hlt hopen)⟩
  intro work hwork reason shutdown hclosed deadline hexpires record hrecord hlt
  have hclock : ((⟨s.epoch, record.id⟩ : DeadlineEvent), record.deadline) ∈ s.clocks := by
    refine hpoised.timed.clocks.symm.subset ?_
    rw [hpoised.owns.clocks_eq]
    exact List.mem_map.mpr ⟨record, hrecord, rfl⟩
  exact houtruns.early work hwork reason shutdown hclosed deadline hexpires _ hclock hlt

/-- Commits a second frame and drains, with a deadline between those of the two operations. -/
def sampleAgenda : List (SlotCall Peer) :=
  sampleSlotCalls ++ [.reserve 0 { deadline := ⟨15⟩, writeRetainedBytes := 8 },
    .commit 0 ⟨[3], 1, by decide, by decide⟩,
    .beginDrain ⟨12⟩]

theorem deadlines_in_order_sample :
    ∃ s ∈ (SlotSetup.sample.final Counted ListBatch ListTimers sampleAgenda).slot,
      s.state = .running ∧ s.closeRequest = none ∧ (s.elapsed 20).map Due.moment = [12, 9, 15] ∧
      ∃ order : List Due, order.Perm (s.elapsed 20) ∧ order.Pairwise Due.Precedes ∧
        (driveDeadlines 20 8 s).1 = (follow 20 8 order s).1 ∧
          Alike (driveDeadlines 20 8 s).2 (follow 20 8 order s).2 := by
  have hsample : ((SlotSetup.sample.final Counted ListBatch ListTimers
      sampleAgenda).slot.any fun s =>
      s.state = .running ∧ s.closeRequest = none ∧ (s.elapsed 20).map Due.moment = [12, 9, 15]) =
        true := by decide +kernel
  obtain ⟨s, hslot, hall⟩ := Option.any_eq_true .. |>.mp hsample
  obtain ⟨hrunning, hnone, helapsed⟩ := of_decide_eq_true hall
  exact ⟨s, hslot, hrunning, hnone, helapsed,
    (deadlines_in_order SlotSetup.sample sampleAgenda s hslot hrunning hnone 20 8).1⟩

end Bornera.Slot
