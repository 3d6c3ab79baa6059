import Bornera.Core.Delivery
import Bornera.Slot.Steps

/-!
# Deadlines

The timers of a slot, the index that finds them and the pending records of its core are kept by
separate effects. `Wound` ties the index to the timers; `clocks` is what the timers will say, and
`wind` what an effect does to them. Winding the effects of a transition takes the clocks of the
lane before it to those of the lane after it, so timers and records never part.
-/

namespace Bornera.Slot

open Bornera.Core Bornera.Core.Epoch Lib ConnectionSlot BoundedTimers

variable {B D C R E T : Type} {Q W : Type → Type} [ByteBudget B] [FrameDecoder D R E] [Retained R]
  [InboundClassifier C R] [EventBatch Q] [BoundedTimers W] [SlotTransport T]

/-! ### Removal from the index -/

lemma split_at {α : Type} {xs : List α} {index : ℕ} {x : α} (h : xs[index]? = some x) :
    ∃ pre post, xs = pre ++ x :: post ∧ pre.length = index := by
  obtain ⟨hlt, rfl⟩ := List.getElem?_eq_some_iff.mp h
  refine ⟨xs.take index, xs.drop (index + 1), ?_, by simp; omega⟩
  rw [List.getElem_cons_drop, List.take_append_drop]

/-- A removal takes out one entry, whatever happens to the order. -/
lemma swapRemove_perm {α : Type} {xs : List α} {index : ℕ} {x : α} (h : xs[index]? = some x) :
    xs.Perm (x :: swapRemove xs index) := by
  obtain ⟨pre, post, rfl, rfl⟩ := split_at h
  rcases List.eq_nil_or_concat' post with rfl | ⟨post, last, rfl⟩
  · have hrun : swapRemove (pre ++ [x]) pre.length = pre := by simp [swapRemove]
    rw [hrun]
    exact List.perm_append_singleton x pre
  · have hsplit : pre ++ x :: (post ++ [last]) = (pre ++ x :: post) ++ [last] := by simp
    have hset : (pre ++ x :: post).set pre.length last = pre ++ last :: post := by simp
    have hrun : swapRemove (pre ++ x :: post ++ [last]) pre.length = pre ++ last :: post := by
      simp only [swapRemove, List.getLast?_concat]
      rw [List.set_append_left _ _ (by simp), List.dropLast_concat, hset]
    rw [hsplit, hrun, ← hsplit]
    exact List.perm_middle.trans (.cons x ((List.perm_append_singleton last post).append_left pre))

/-! ### Index and timers -/

/-- The timers and the index name the same operations by the same tokens, each once. -/
structure Wound (s : ConnectionSlot B D C R Q W) : Prop where
  limits : BoundedTimers.limits s.timers = s.limits.timers
  index : (s.deadlines.map fun entry => (entry.operation, entry.token)).Perm
    ((armed s.timers).map fun timer => (timer.value.operation, timer.token))
  distinct : ((armed s.timers).map fun timer => timer.value.operation).Nodup

/-- What the armed timers will say, and when. -/
def ConnectionSlot.clocks (s : ConnectionSlot B D C R Q W) : List (DeadlineEvent × Deadline) :=
  (armed s.timers).map fun timer => (timer.value, timer.deadline)

/-- The clocks without those of an operation. -/
def without (operation : OperationId) (clocks : List (DeadlineEvent × Deadline)) :
    List (DeadlineEvent × Deadline) :=
  clocks.filter (·.1.operation ≠ operation)

variable {s : ConnectionSlot B D C R Q W}

section
omit [ByteBudget B] [Retained R] [InboundClassifier C R] [EventBatch Q]

lemma clocks_length (s : ConnectionSlot B D C R Q W) : s.clocks.length = (armed s.timers).length :=
  List.length_map ..

/-- An entry of the index has its timer. -/
lemma Wound.timer (h : Wound s) {entry : DeadlineEntry} (hmem : entry ∈ s.deadlines) :
    ∃ timer ∈ armed s.timers, timer.value.operation = entry.operation ∧
      timer.token = entry.token := by
  have hpair := h.index.subset (List.mem_map_of_mem hmem)
  obtain ⟨timer, htimer, heq⟩ := List.mem_map.mp hpair
  exact ⟨timer, htimer, congrArg Prod.fst heq, congrArg Prod.snd heq⟩

/-- A timer has its entry in the index. -/
lemma Wound.entry (h : Wound s) {timer : Timer DeadlineEvent} (hmem : timer ∈ armed s.timers) :
    ∃ entry ∈ s.deadlines, entry.operation = timer.value.operation ∧ entry.token = timer.token := by
  have hpair := h.index.symm.subset (List.mem_map_of_mem hmem)
  obtain ⟨entry, hentry, heq⟩ := List.mem_map.mp hpair
  exact ⟨entry, hentry, congrArg Prod.fst heq, congrArg Prod.snd heq⟩

/-- An entry leaves the index together with its timer. -/
lemma Wound.removed (h : Wound s) {entry : DeadlineEntry} {rest : List DeadlineEntry}
    {timers : W DeadlineEvent} (hperm : s.deadlines.Perm (entry :: rest))
    (harmed : armed timers = (armed s.timers).filter (·.token ≠ entry.token))
    (hlimits : BoundedTimers.limits timers = BoundedTimers.limits s.timers) :
    Wound { s with timers, deadlines := rest } ∧
      armed timers = (armed s.timers).filter (·.value.operation ≠ entry.operation) := by
  obtain ⟨own, hown, hoperation, htoken⟩ := h.timer (hperm.symm.subset List.mem_cons_self)
  have hsame : ∀ timer ∈ armed s.timers, timer.token = entry.token ↔
      timer.value.operation = entry.operation := by
    intro timer hmem
    constructor
    · intro heq
      obtain rfl :=
        List.inj_on_of_nodup_map (BoundedTimers.distinct s.timers) hmem hown (heq.trans htoken.symm)
      exact hoperation
    · intro heq
      obtain rfl := List.inj_on_of_nodup_map h.distinct hmem hown (heq.trans hoperation.symm)
      exact htoken
  have hfilter : armed timers = (armed s.timers).filter (·.value.operation ≠ entry.operation) := by
    rw [harmed]
    refine List.filter_congr fun timer hmem => ?_
    simp only [ne_eq, hsame timer hmem]
  refine ⟨⟨hlimits.trans h.limits, ?_, ?_⟩, hfilter⟩
  · have hpairs := (hperm.symm.map fun entry => (entry.operation, entry.token)).trans h.index
    have hrest : ∀ other ∈ rest, other.operation ≠ entry.operation := by
      have hnodup : ((entry :: rest).map DeadlineEntry.operation).Nodup := by
        have heq := hpairs.map Prod.fst
        rw [List.map_map, List.map_map] at heq
        exact heq.nodup_iff.mpr h.distinct
      intro other hmem heq
      rw [List.map_cons, List.nodup_cons] at hnodup
      exact hnodup.1 (List.mem_map.mpr ⟨other, hmem, heq⟩)
    have hfiltered := hpairs.filter (fun pair => pair.1 ≠ entry.operation)
    simp only [List.map_cons, ne_eq, not_true_eq_false, decide_false, Bool.false_eq_true,
      not_false_eq_true,
      List.filter_cons_of_neg, List.filter_map] at hfiltered
    rw [List.filter_eq_self.mpr (by simpa using hrest)] at hfiltered
    show (rest.map _).Perm ((armed timers).map _)
    rw [hfilter]
    exact hfiltered
  · show ((armed timers).map _).Nodup
    rw [hfilter]
    exact h.distinct.sublist (List.filter_sublist.map _)

/-- The cancel of a deadline stops its clock. -/
lemma Wound.cancel (h : Wound s) (operation : OperationId) :
    Wound (s.cancelDeadline operation) ∧
      (s.cancelDeadline operation).clocks = without operation s.clocks := by
  unfold cancelDeadline
  cases hfind : s.deadlines.findIdx? (·.operation = operation) with
  | none =>
    refine ⟨h, (List.filter_eq_self.mpr fun clock hclock => ?_).symm⟩
    obtain ⟨timer, htimer, rfl⟩ := List.mem_map.mp hclock
    obtain ⟨entry, hentry, hoperation, _⟩ := h.entry htimer
    have hnot := List.findIdx?_eq_none_iff.mp hfind entry hentry
    simpa [hoperation] using hnot
  | some index =>
    obtain ⟨hlt, hoperation, _⟩ := List.findIdx?_eq_some_iff_getElem.mp hfind
    have hentry : s.deadlines[index]? = some s.deadlines[index] := List.getElem?_eq_getElem hlt
    simp only [hentry]
    obtain ⟨harmed, hlimits⟩ := BoundedTimers.cancel_eq s.timers s.deadlines[index].token
    obtain ⟨hwound, hfilter⟩ := h.removed (swapRemove_perm hentry) harmed hlimits
    refine ⟨hwound, ?_⟩
    show ((armed _).map _) = _
    rw [hfilter, of_decide_eq_true hoperation, without, ConnectionSlot.clocks, List.filter_map]
    rfl

/-- A deadline that has room is armed, once. -/
lemma Wound.schedule (h : Wound s) (event : DeadlineEvent) (deadline : Deadline)
    (hroom : (without event.operation s.clocks).length < s.limits.operationCapacity) :
    (scheduleDeadline event deadline s).1 = .ok () ∧ Wound (scheduleDeadline event deadline s).2 ∧
      (scheduleDeadline event deadline s).2.clocks =
        without event.operation s.clocks ++ [(event, deadline)] := by
  obtain ⟨hwound, hclocks⟩ := h.cancel event.operation
  have hlimits : (s.cancelDeadline event.operation).limits = s.limits := by
    rw [cancelDeadline_frame]
  have habsent : ∀ timer ∈ armed (s.cancelDeadline event.operation).timers,
      timer.value.operation ≠ event.operation := by
    intro timer htimer
    have hclock : (timer.value, timer.deadline) ∈ (s.cancelDeadline event.operation).clocks :=
      List.mem_map.mpr ⟨timer, htimer, rfl⟩
    rw [hclocks] at hclock
    exact of_decide_eq_true (List.mem_filter.mp hclock).2
  unfold scheduleDeadline
  simp only
  generalize s.cancelDeadline event.operation = s₁ at hwound hclocks hlimits habsent ⊢
  have hcount : (armed s₁.timers).length < s.limits.operationCapacity := by
    rw [← clocks_length, hclocks]
    exact hroom
  have hindex : s₁.deadlines.length = (armed s₁.timers).length := by
    have hlength := hwound.index.length_eq
    rwa [List.length_map, List.length_map] at hlength
  rw [if_neg (by rw [hindex, hlimits]; omega)]
  have hbytes : retainedSum ((armed s₁.timers).map Timer.value) + Retained.retainedBytes event ≤
      (BoundedTimers.limits s₁.timers).maxRetainedBytes := by
    rw [hwound.limits]
    simp [retainedSum, Retained.retainedBytes, ConnectionSlotLimits.timers, Function.comp_def]
  obtain ⟨token, hsome, harmed, hbound⟩ := BoundedTimers.schedule_fits s₁.timers deadline event
    (by rw [hwound.limits, hlimits]; exact hcount) hbytes
  cases hrun : TimerQueue.schedule s₁.timers deadline event with
  | mk result timers =>
  rw [hrun] at hsome harmed hbound
  simp only at hsome harmed hbound
  subst hsome
  refine ⟨rfl, ⟨hbound.trans hwound.limits, ?_, ?_⟩, ?_⟩
  · simp only [List.map_append, List.map_cons, List.map_nil, harmed]
    exact hwound.index.append_right _
  · simp only [harmed, List.map_append, List.map_cons, List.map_nil]
    refine hwound.distinct.append (List.nodup_singleton _) ?_
    simpa using habsent
  · rw [← hclocks]
    simp only [ConnectionSlot.clocks, harmed, List.map_append, List.map_cons, List.map_nil]

/-- Taking a due timer out stops its clock. -/
lemma Wound.popDue (h : Wound s) (now : ℕ) :
    Wound (s.popDue now).2 ∧ match (s.popDue now).1 with
      | none =>
        (s.popDue now).2.clocks = s.clocks ∧ ∀ clock ∈ s.clocks, clock.2.isElapsedAt now = false
      | some event => (s.popDue now).2.clocks = without event.operation s.clocks ∧
        ∃ deadline, (event, deadline) ∈ s.clocks ∧ deadline.isElapsedAt now = true := by
  by_cases hdue : ∃ timer ∈ armed s.timers, timer.deadline.isElapsedAt now = true
  · obtain ⟨timer, hmem, helapsed, _, hsome, harmed, hlimits⟩ :=
      BoundedTimers.popDue_some s.timers now hdue
    obtain ⟨entry, hentry, hoperation, htoken⟩ := h.entry hmem
    have hfound : (s.deadlines.findIdx? (·.token = timer.token)).isSome := by
      rw [List.findIdx?_isSome]
      exact List.any_eq_true.mpr ⟨entry, hentry, by simp [htoken]⟩
    obtain ⟨index, hindex⟩ := Option.isSome_iff_exists.mp hfound
    obtain ⟨hlt, hthere, _⟩ := List.findIdx?_eq_some_iff_getElem.mp hindex
    have hat : s.deadlines[index]? = some s.deadlines[index] := List.getElem?_eq_getElem hlt
    have htoken' : s.deadlines[index].token = timer.token := of_decide_eq_true hthere
    obtain ⟨own, hown, hsame, htoken''⟩ := h.timer (List.mem_of_getElem? hat)
    obtain rfl : own = timer :=
      List.inj_on_of_nodup_map (BoundedTimers.distinct s.timers) hown hmem (htoken''.trans htoken')
    obtain ⟨hwound, hfilter⟩ :=
      h.removed (swapRemove_perm hat) (by rw [htoken']; exact harmed) hlimits
    unfold ConnectionSlot.popDue
    cases hrun : TimerQueue.popDue s.timers now with
    | mk result timers =>
    rw [hrun] at hsome hwound hfilter
    simp only at hsome hwound hfilter
    subst hsome
    simp only [hindex]
    refine ⟨hwound, ?_, own.deadline, List.mem_map.mpr ⟨own, hmem, rfl⟩, helapsed⟩
    simp only [ConnectionSlot.clocks, hfilter, without, hsame, List.filter_map]
    rfl
  · have hnone : ∀ timer ∈ armed s.timers, timer.deadline.isElapsedAt now = false :=
      fun timer hmem => by
      simpa using fun helapsed => hdue ⟨timer, hmem, helapsed⟩
    obtain ⟨hresult, harmed, hlimits⟩ := BoundedTimers.popDue_none s.timers now hnone
    unfold ConnectionSlot.popDue
    cases hrun : TimerQueue.popDue s.timers now with
    | mk result timers =>
    rw [hrun] at hresult harmed hlimits
    simp only at hresult harmed hlimits
    subst hresult
    refine ⟨⟨hlimits.trans h.limits, ?_, ?_⟩, ?_, ?_⟩
    · simpa only [harmed] using h.index
    · simpa only [harmed] using h.distinct
    · simp only [ConnectionSlot.clocks, harmed]
    · intro clock hclock
      obtain ⟨timer, htimer, rfl⟩ := List.mem_map.mp hclock
      exact hnone timer htimer

end

/-! ### The effects of a transition -/

/-- The failures of the index and of the timer queue. -/
def Misclocked (error : EngineError) : Prop :=
  error = .invariant .deadlineIndexCapacity ∨ error = .invariant .deadlineSchedule

/-- The effect arms a timer. -/
def arms {X : Type} : ConnectionEffect X → Bool
  | .scheduleDeadline _ _ _ => true
  | _ => false

/-- What an effect does to the clocks. -/
def wind {X : Type} (clocks : List (DeadlineEvent × Deadline)) :
    ConnectionEffect X → List (DeadlineEvent × Deadline)
  | .scheduleDeadline home operation deadline =>
    without operation clocks ++ [(⟨home, operation⟩, deadline)]
  | .cancelDeadline _ operation => without operation clocks
  | .discardWrite _ _ _ => clocks
  | .closeEpoch _ _ => clocks
  | .publishOutcome _ _ _ => clocks

lemma without_length_le (operation : OperationId) (clocks : List (DeadlineEvent × Deadline)) :
    (without operation clocks).length ≤ clocks.length := List.length_filter_le _ _

@[simp] lemma without_without (operation : OperationId) (clocks : List (DeadlineEvent × Deadline)) :
    without operation (without operation clocks) = without operation clocks := by
  simp [without, List.filter_filter]

lemma wind_length {X : Type} (clocks : List (DeadlineEvent × Deadline))
    (effect : ConnectionEffect X) :
    (wind clocks effect).length ≤ clocks.length + [effect].countP arms := by
  cases effect with
  | scheduleDeadline epoch operation deadline =>
    have hle := without_length_le operation clocks
    simp only [wind, arms, List.length_append, List.length_singleton,
      List.countP_singleton, if_true]
    omega
  | cancelDeadline epoch operation => exact without_length_le operation clocks
  | _ => exact le_rfl

lemma wind_perm {X : Type} {l l' : List (DeadlineEvent × Deadline)} (h : l.Perm l')
    (effect : ConnectionEffect X) :
    (wind l effect).Perm (wind l' effect) := by
  cases effect with
  | scheduleDeadline => exact (h.filter _).append_right _
  | cancelDeadline => exact h.filter _
  | _ => exact h

lemma winds_perm {X : Type} (effects : List (ConnectionEffect X))
    {l l' : List (DeadlineEvent × Deadline)} (h : l.Perm l') :
    (effects.foldl wind l).Perm (effects.foldl wind l') := by
  induction effects generalizing l l' with
  | nil => exact h
  | cons effect effects ih => exact ih (wind_perm h effect)

section
omit [ByteBudget B] [InboundClassifier C R]

/-- What one effect does to the clocks. -/
lemma Wound.effect {X : Type}
    {outcomeOf : OperationOutcome X → Except EngineInvariant (OperationOutcome R)}
    (hof : Legible outcomeOf) {effect : ConnectionEffect X} (h : Wound s)
    (hroom : s.clocks.length + [effect].countP arms ≤ s.limits.operationCapacity) :
    (∀ error, (interpretEffect outcomeOf effect s).1 = .error error → ¬Misclocked error) ∧
      Wound (interpretEffect outcomeOf effect s).2 ∧
        (interpretEffect outcomeOf effect s).2.clocks = wind s.clocks effect := by
  cases effect with
  | scheduleDeadline epoch operation deadline =>
    have hle := without_length_le operation s.clocks
    simp only [arms, List.countP_singleton, if_true] at hroom
    obtain ⟨hok, hwound, hclocks⟩ := h.schedule ⟨epoch, operation⟩ deadline (by dsimp only; omega)
    refine ⟨fun error herror => ?_, hwound, hclocks⟩
    simp only [interpretEffect, hok] at herror
    cases herror
  | discardWrite =>
    refine ⟨fun error herror => ?_, h, rfl⟩
    cases herror
    rintro (h | h) <;> cases h
  | cancelDeadline epoch operation =>
    obtain ⟨hwound, hclocks⟩ := h.cancel operation
    exact ⟨fun error herror => (by cases herror), hwound, hclocks⟩
  | closeEpoch => exact ⟨fun error herror => (by cases herror), h, rfl⟩
  | publishOutcome epoch operation outcome =>
    simp only [interpretEffect]
    cases houtcome : outcomeOf outcome with
    | error i =>
      refine ⟨fun error herror => ?_, h, rfl⟩
      cases herror
      rw [hof outcome i houtcome]
      rintro (h | h) <;> cases h
    | ok outcome =>
      rw [publish_frame]
      refine ⟨fun error herror => ?_, ⟨h.limits, h.index, h.distinct⟩, rfl⟩
      rcases publish_error herror with rfl | rfl <;> rintro (h | h) <;> cases h

/-- **What an interpretation does to the clocks**: it winds them by the effects, one by one. -/
theorem Wound.interpret {X : Type}
    {outcomeOf : OperationOutcome X → Except EngineInvariant (OperationOutcome R)}
    (hof : Legible outcomeOf) {tr : ConnectionTransition X} (h : Wound s)
    (hroom : s.clocks.length + tr.effects.countP arms ≤ s.limits.operationCapacity) :
    (∀ error, (ConnectionSlot.interpret outcomeOf tr s).1 = .error error → ¬Misclocked error) ∧
      Wound (ConnectionSlot.interpret outcomeOf tr s).2 ∧
      (ConnectionSlot.interpret outcomeOf tr s).2.clocks = tr.effects.foldl wind s.clocks := by
  obtain ⟨herror, hwound, hclocks, _⟩ := effects_rule (P := fun error => ¬Misclocked error)
    (I := fun rest (s₁ : ConnectionSlot B D C R Q W) =>
      Wound s₁ ∧ rest.foldl wind s₁.clocks = tr.effects.foldl wind s.clocks ∧
      s₁.clocks.length + rest.countP arms ≤ s₁.limits.operationCapacity)
    (fun effect rest s₁ hi => by
      obtain ⟨hwound, hclocks, hroom⟩ := hi
      have hcount : (effect :: rest).countP arms = [effect].countP arms + rest.countP arms := by
        rw [← List.countP_append, List.singleton_append]
      have hone : s₁.clocks.length + [effect].countP arms ≤ s₁.limits.operationCapacity := by omega
      obtain ⟨herror, hnext, hwind⟩ := hwound.effect hof hone
      have hlimits : (interpretEffect outcomeOf effect s₁).2.limits = s₁.limits := by
        rw [booked_effect outcomeOf effect s₁]
      have hlength := wind_length s₁.clocks effect
      refine ⟨herror, hnext, ?_, ?_⟩
      · rw [hwind]
        exact hclocks
      · rw [hwind, hlimits]
        omega)
    tr.effects none ⟨h, rfl, hroom⟩ (fun error (he : error ∈ none) => by cases he)
  rw [interpret_slot, finishClose_frame]
  refine ⟨fun error hfail => ?_, ⟨hwound.limits, hwound.index, hwound.distinct⟩, hclocks⟩
  refine finishClose_forall herror (fun reason error hpublish => ?_) ?_ error
    (interpret_fault hfail)
  · rcases publishNext_error hpublish with rfl | rfl | rfl <;> rintro (h | h) <;> cases h
  · rintro (h | h) <;> cases h

end

/-! ### The clocks of the lane -/

/-- What the timers of a lane should say: each operation, at its own deadline. -/
def clocksOf (e : Epoch OutboundFrame) : List (DeadlineEvent × Deadline) :=
  e.lane.map fun x => (⟨e.epoch, x.id⟩, x.record.deadline)

variable {e e' : Epoch OutboundFrame}

lemma clocksOf_drained (e : Epoch OutboundFrame) : clocksOf e.drained = clocksOf e := by
  unfold Epoch.drained
  split
  · next hdrains =>
    have hempty : e.lane = [] := by simpa [Epoch.drains] using (of_decide_eq_true hdrains).2
    simp [clocksOf, Epoch.close, hempty]
  · rfl

/-- The lane without an operation has the clocks without its own. -/
lemma clocksOf_remove (hw : e.Wf) {pre post : List (Item OutboundFrame)} {x : Item OutboundFrame}
    (hl : e.lane = pre ++ x :: post) :
    without x.id (clocksOf e) = clocksOf { e with lane := pre ++ post } := by
  have hids := hw.operations.of_append_right
  rw [hl, List.map_append, List.map_cons, List.nodup_middle, List.nodup_cons,
    ← List.map_append] at hids
  have hother : ∀ y ∈ pre ++ post, y.id ≠ x.id :=
    fun y hy heq => hids.1 (heq ▸ List.mem_map_of_mem hy)
  have hkeep : ∀ items : List (Item OutboundFrame), (∀ y ∈ items, y.id ≠ x.id) →
      without x.id (items.map fun y => ((⟨e.epoch, y.id⟩ : DeadlineEvent), y.record.deadline)) =
        items.map fun y => (⟨e.epoch, y.id⟩, y.record.deadline) := by
    intro items hitems
    refine List.filter_eq_self.mpr fun clock hclock => ?_
    obtain ⟨y, hy, rfl⟩ := List.mem_map.mp hclock
    simpa using hitems y hy
  rw [clocksOf, hl, List.map_append, List.map_cons, without, List.filter_append,
    List.filter_cons_of_neg (by simp)]
  simp only [clocksOf, List.map_append]
  rw [← hkeep pre fun y hy => hother y (List.mem_append_left _ hy),
    ← hkeep post fun y hy => hother y (List.mem_append_right _ hy)]
  simp only [without, List.filter_filter, Bool.and_self]

/-- Changed items with the same identity and deadline show the same clocks. -/
lemma clocksOf_replace {pre post : List (Item OutboundFrame)} {x y : Item OutboundFrame}
    (hl : e.lane = pre ++ x :: post) (hid : y.id = x.id)
    (hdeadline : y.record.deadline = x.record.deadline) :
    clocksOf { e with lane := pre ++ y :: post } = clocksOf e := by
  simp only [clocksOf, hl, List.map_append, List.map_cons, hid, hdeadline]

lemma wind_drain {X : Type} (e : Epoch OutboundFrame) (l : List (DeadlineEvent × Deadline)) :
    (e.drainEffects : List (ConnectionEffect X)).foldl wind l = l := by
  unfold Epoch.drainEffects
  split <;> rfl

lemma wind_publish {X : Type} (x : Item OutboundFrame) (epoch : ConnectionEpoch)
    (outcome : OperationOutcome X)
    (l : List (DeadlineEvent × Deadline)) : (x.publish epoch outcome).foldl wind l = l := by
  unfold Item.publish
  split <;> rfl

/-- The effects of a close stop the clock of every operation. -/
lemma wind_farewells {X : Type} (epoch : ConnectionEpoch) (reason : CloseReason)
    (failure : Option (OperationId × OperationFailure)) (items : List (Item OutboundFrame))
    (l : List (DeadlineEvent × Deadline)) :
    (items.flatMap (Item.farewell epoch reason failure) : List (ConnectionEffect X)).foldl wind l =
      l.filter fun clock => clock.1.operation ∉ items.map Item.id := by
  induction items generalizing l with
  | nil => simp
  | cons x items ih =>
    rw [List.flatMap_cons, List.foldl_append, ih]
    simp only [Item.farewell, List.foldl_cons, wind_publish, wind, without, List.filter_filter]
    refine List.filter_congr fun clock _ => ?_
    simp only [List.map_cons, List.mem_cons, not_or, ne_eq, ← Bool.decide_and]
    exact decide_eq_decide.mpr and_comm

lemma wind_closing {X : Type} (reason : CloseReason)
    (failure : Option (OperationId × OperationFailure)) {l : List (DeadlineEvent × Deadline)}
    (hl : ∀ clock ∈ l, clock.1.operation ∈ e.lane.map Item.id) :
    (e.closing reason failure : List (ConnectionEffect X)).foldl wind l = [] := by
  rw [Epoch.closing, List.foldl_cons, wind_farewells]
  refine List.filter_eq_nil_iff.mpr fun clock hclock => ?_
  simpa using hl clock hclock

/-- **A transition winds the clocks of the lane before it to those of the lane after it.** -/
theorem winds_step {X : Type} {call : Call OutboundFrame X} {tr : ConnectionTransition X}
    (h : Step e call (.transition (.ok tr)) e')
    (hw : e.Wf) : (tr.effects.foldl wind (clocksOf e)).Perm (clocksOf e') := by
  cases h with
  | ignored _ _ _ quiet =>
    rw [quiet]
    exact .refl _
  | opened => exact .refl _
  | rescheduled _ mem _ =>
    obtain ⟨pre, post, hl⟩ := List.append_of_mem mem
    simp only [List.foldl_cons, List.foldl_nil, wind, clocksOf_remove hw hl]
    simp only [clocksOf, hl, List.map_append, List.map_cons]
    exact (List.perm_append_singleton _ _).trans List.perm_middle.symm
  | removed _ lane _ _ _ =>
    simp only [List.foldl_append, List.foldl_cons, List.foldl_nil, wind, wind_drain,
      clocksOf_remove hw lane,
      clocksOf_drained]
    exact .refl _
  | @buried _ _ x _ lane _ _ =>
    rw [clocksOf_replace (y := x.bury) lane rfl rfl]
    exact .refl _
  | closed _ _ closes =>
    have hmem : ∀ clock ∈ clocksOf e, clock.1.operation ∈ e.lane.map Item.id := by
      intro clock hclock
      obtain ⟨x, hx, rfl⟩ := List.mem_map.mp hclock
      exact List.mem_map_of_mem hx
    rw [wind_closing _ _ hmem]
    exact .refl _
  | draining =>
    rw [wind_drain, clocksOf_drained]
    exact .refl _
  | confirmed => exact .refl _
  | @replied x rest _ _ _ front _ =>
    have hremove := @clocksOf_remove e hw [] rest x front
    rw [List.cons_append, List.foldl_cons, List.foldl_append, wind_drain, wind_publish,
      clocksOf_drained]
    exact .of_eq hremove
  | progressed _ front _ =>
    rw [clocksOf_replace front.lane Item.progress_id Item.reported_deadline]
    exact .refl _
  | finished _ front _ _ =>
    rw [clocksOf_replace front.lane Item.finish_id Item.reported_deadline]
    exact .refl _
  | completed _ front _ _ =>
    rw [List.cons_append, List.foldl_cons, List.foldl_append, wind_drain, wind_publish,
      clocksOf_drained]
    exact .of_eq (clocksOf_remove hw front.lane)

/-- A deadline that has been taken out is wound as if it were still there. -/
lemma winds_popped {epoch : ConnectionEpoch} {operation : OperationId} {now : ℕ}
    {tr : ConnectionTransition Unit}
    (h : Step e (.apply (.deadlineElapsed epoch operation now)) (.transition (.ok tr)) e')
    (hepoch : epoch = e.epoch) (hmem : operation ∈ e.lane.map Item.id)
    (l : List (DeadlineEvent × Deadline)) :
    tr.effects.foldl wind (without operation l) = tr.effects.foldl wind l := by
  cases h with
  | ignored ignores _ _ _ =>
    cases ignores with
    | stale other => exact absurd hepoch other
    | input deaf =>
      obtain ⟨x, hx, hid⟩ := List.mem_map.mp hmem
      exact absurd hid (deaf x hx)
  | rescheduled => simp only [List.foldl_cons, List.foldl_nil, wind, without_without]
  | removed _ _ _ _ removes =>
    cases removes
    simp only [List.foldl_append, List.foldl_cons, List.foldl_nil, wind, without_without]
  | closed _ _ closes =>
    cases closes with
    | late =>
      simp only [Epoch.closing, List.foldl_cons, wind_farewells]
      rw [wind, without, List.filter_filter]
      refine List.filter_congr fun clock _ => ?_
      by_cases hin : clock.1.operation ∈ e.lane.map Item.id
      · simp only [hin, not_true_eq_false, decide_false, Bool.false_and]
      · have hother : clock.1.operation ≠ _ := fun heq => hin (heq ▸ hmem)
        simp only [hother, ne_eq, not_false_eq_true, decide_true, Bool.and_true]

lemma arms_publish {X : Type} (x : Item OutboundFrame) (epoch : ConnectionEpoch)
    (outcome : OperationOutcome X) :
    (x.publish epoch outcome).countP arms = 0 := by
  unfold Item.publish
  split <;> rfl

/-- A close arms no timer. -/
lemma arms_closing {X : Type} (e : Epoch OutboundFrame) (reason : CloseReason)
    (failure : Option (OperationId × OperationFailure)) :
    (e.closing reason failure : List (ConnectionEffect X)).countP arms = 0 := by
  rw [List.countP_eq_zero]
  intro effect heffect
  simp only [Epoch.closing, List.mem_cons, List.mem_flatMap, Item.farewell] at heffect
  rcases heffect with rfl | ⟨x, _, rfl | hmem⟩
  · simp [arms]
  · simp [arms]
  · exact List.countP_eq_zero.mp (arms_publish x e.epoch _) effect hmem

lemma arms_drain {X : Type} (e : Epoch OutboundFrame) :
    (e.drainEffects : List (ConnectionEffect X)).countP arms = 0 := by
  unfold Epoch.drainEffects
  split <;> rfl

/-- Only an early deadline is armed again. -/
lemma arms_step {X : Type} {call : Call OutboundFrame X} {tr : ConnectionTransition X}
    (h : Step e call (.transition (.ok tr)) e') :
    tr.effects.countP arms = 0 ∨
      tr.effects.countP arms = 1 ∧
        ∃ operation now, call = .apply (.deadlineElapsed e.epoch operation now) := by
  cases h with
  | ignored _ _ _ quiet => exact .inl (by rw [quiet]; rfl)
  | rescheduled => exact .inr ⟨rfl, _, _, rfl⟩
  | removed => exact .inl (by rw [List.countP_append, arms_drain]; rfl)
  | closed => exact .inl (arms_closing _ _ _)
  | draining => exact .inl (arms_drain _)
  | replied =>
    refine .inl ?_
    rw [List.cons_append, List.countP_cons, List.countP_append, arms_drain, arms_publish]
    rfl
  | completed =>
    refine .inl ?_
    rw [List.cons_append, List.countP_cons, List.countP_append, arms_drain, arms_publish]
    rfl
  | _ => exact .inl rfl

/-! ### Moves -/

/-- The timers say what the lane wants them to say. -/
structure Timed (s : ConnectionSlot B D C R Q W) (e : Epoch OutboundFrame) : Prop where
  wound : Wound s
  clocks : s.clocks.Perm (clocksOf e)

variable {permits : List OperationPermit} {cause : SlotCall T}

omit [Retained R] [InboundClassifier C R] [EventBatch Q] [BoundedTimers W] in
lemma Owns.lane_le (h : Owns permits s e) : e.lane.length ≤ s.limits.operationCapacity := by
  have hle := h.core.policy.accounts.operations_le
  simp only [Epoch.holdings, List.length_append, List.length_map] at hle
  rw [s.limits.capacity_eq]
  omega

section
omit [ByteBudget B] [Retained R] [InboundClassifier C R] [EventBatch Q]

lemma Timed.length_eq (h : Timed s e) : s.clocks.length = e.lane.length := by
  rw [h.clocks.length_eq, clocksOf, List.length_map]

lemma Timed.congr {s' : ConnectionSlot B D C R Q W} (h : Timed s e) (htimers : s'.timers = s.timers)
    (hindex : s'.deadlines = s.deadlines) (hlimits : s'.limits = s.limits)
    (hclocks : (clocksOf e).Perm (clocksOf e')) :
    Timed s' e' := by
  refine ⟨⟨?_, ?_, ?_⟩, ?_⟩
  · rw [htimers, hlimits]
    exact h.wound.limits
  · rw [htimers, hindex]
    exact h.wound.index
  · rw [htimers]
    exact h.wound.distinct
  · rw [ConnectionSlot.clocks, htimers]
    exact h.clocks.trans hclocks

lemma popDue_event (s : ConnectionSlot B D C R Q W) (now : ℕ) :
    (s.popDue now).1 = (TimerQueue.popDue s.timers now).1.map Prod.snd := by
  unfold ConnectionSlot.popDue
  cases TimerQueue.popDue s.timers now with
  | mk result timers => cases result <;> rfl

end

omit [ByteBudget B] [EventBatch Q] in
/-- An occasion takes a due timer out, or has nothing to do with timers. -/
lemma Occasion.timers {t t' : Option T} {call : Call OutboundFrame Unit}
    {tr : Option (ConnectionTransition Unit)}
    {f : ConnectionSlot B D C R Q W → ConnectionSlot B D C R Q W}
    (h : Occasion cause s t call tr f t') :
    (∃ now event, (s.popDue now).1 = some event ∧
      call = .apply (.deadlineElapsed event.epoch event.operation now) ∧
      f = fun s => (s.popDue now).2) ∨
    (∀ s₁, (f s₁).timers = s₁.timers ∧ (f s₁).deadlines = s₁.deadlines) ∧
      ∀ epoch operation now, call ≠ .apply (.deadlineElapsed epoch operation now) := by
  cases h with
  | elapsed _ due => exact .inl ⟨_, _, due, rfl, rfl⟩
  | drained =>
    refine .inr ⟨fun s₁ => ?_, fun _ _ _ heq => by cases heq⟩
    dsimp only
    split <;> exact ⟨rfl, rfl⟩
  | @undecodable _ error =>
    exact .inr ⟨fun _ => ⟨rfl, rfl⟩, fun _ _ _ heq => by cases error <;> cases heq⟩
  | @unfed _ _ error =>
    exact .inr ⟨fun _ => ⟨rfl, rfl⟩, fun _ _ _ heq => by cases error <;> cases heq⟩
  | _ => exact .inr ⟨fun _ => ⟨rfl, rfl⟩, fun _ _ _ heq => by cases heq⟩

omit [ByteBudget B] [InboundClassifier C R] in
/-- A transition and its interpretation keep timers and lane together. -/
lemma Timed.interpret {X : Type}
    {outcomeOf : OperationOutcome X → Except EngineInvariant (OperationOutcome R)}
    (hof : Legible outcomeOf) {call : Call OutboundFrame X} {tr : ConnectionTransition X}
    (h : Timed s e) (hle : e.lane.length ≤ s.limits.operationCapacity) (hw : e.Wf)
    (hstep : Step e call (.transition (.ok tr)) e')
    (hcall : ∀ epoch operation now, call ≠ .apply (.deadlineElapsed epoch operation now)) :
    (∀ error, (ConnectionSlot.interpret outcomeOf tr s).1 = .error error → ¬Misclocked error) ∧
      Timed (ConnectionSlot.interpret outcomeOf tr s).2 e' := by
  have harms : tr.effects.countP arms = 0 := by
    rcases arms_step hstep with hzero | ⟨_, operation, now, heq⟩
    · exact hzero
    · exact absurd heq (hcall _ _ _)
  obtain ⟨herror, hwound, hclocks⟩ := h.wound.interpret hof (by rw [h.length_eq, harms]; exact hle)
  refine ⟨herror, hwound, ?_⟩
  rw [hclocks]
  exact (winds_perm tr.effects h.clocks).trans (winds_step hstep hw)

lemma without_length_lt {l : List (DeadlineEvent × Deadline)} {clock : DeadlineEvent × Deadline}
    (h : clock ∈ l) :
    (without clock.1.operation l).length < l.length := by
  rw [without, List.length_filter_lt_length_iff_exists]
  exact ⟨clock, h, by simp⟩

omit [ByteBudget B] [InboundClassifier C R] in
/-- So do a deadline that is taken out, the answer of the core to it, and its interpretation. -/
lemma Timed.elapse {tr : ConnectionTransition Unit} {now : ℕ} {event : DeadlineEvent}
    (h : Timed s e) (hle : e.lane.length ≤ s.limits.operationCapacity) (hw : e.Wf)
    (hdue : (s.popDue now).1 = some event)
    (hstep : Step e (.apply (.deadlineElapsed event.epoch event.operation now))
      (.transition (.ok tr)) e') :
    (∀ error, (interpretUnit tr (s.popDue now).2).1 = .error error → ¬Misclocked error) ∧
      Timed (interpretUnit tr (s.popDue now).2).2 e' := by
  obtain ⟨hwound, hpopped⟩ := h.wound.popDue now
  rw [hdue] at hpopped
  obtain ⟨hclocks, deadline, hmem, _⟩ := hpopped
  obtain ⟨x, hx, heq⟩ := List.mem_map.mp (h.clocks.subset hmem)
  obtain rfl : event = ⟨e.epoch, x.id⟩ := congrArg Prod.fst heq.symm
  have hshort := without_length_lt hmem
  have hlength := h.length_eq
  have harms : tr.effects.countP arms ≤ 1 := by
    rcases arms_step hstep with hzero | ⟨hone, _⟩ <;> omega
  have hlimits : (s.popDue now).2.limits = s.limits := by rw [popDue_frame]
  have hroom : (s.popDue now).2.clocks.length + tr.effects.countP arms ≤
      (s.popDue now).2.limits.operationCapacity := by
    rw [hclocks, hlimits]
    dsimp only at hshort ⊢
    omega
  obtain ⟨herror, hwound', hwinds⟩ := hwound.interpret legible_unit hroom
  refine ⟨herror, hwound', ?_⟩
  rw [interpretUnit, hwinds, hclocks, winds_popped hstep rfl (List.mem_map_of_mem hx)]
  exact (winds_perm tr.effects h.clocks).trans (winds_step hstep hw)

lemma outside_clocked {error : EngineError} (h : error.outside = true) : ¬Misclocked error := by
  rintro (rfl | rfl) <;> cases h

omit [ByteBudget B] [Retained R] [InboundClassifier C R] [BoundedTimers W] in
lemma publishNext_clocked {event : ℕ → ConnectionEpoch → ConnectionEvent} {error : EngineError}
    (h : (publishNext event s).1 = .error error) : ¬Misclocked error := by
  rcases publishNext_error h with rfl | rfl | rfl <;> rintro (h | h) <;> cases h

/-- **Moves keep timers and lane together**, and none fails to arm a timer. -/
theorem Move.timed {a b : Scene B D C R Q W T} (h : Move permits cause a b)
    (howns : Owns permits a.slot a.epoch) (ha : a.fault = none → Timed a.slot a.epoch)
    (hf : ∀ error ∈ a.fault, ¬Misclocked error) :
    (b.fault = none → Timed b.slot b.epoch) ∧ ∀ error ∈ b.fault, ¬Misclocked error := by
  have hwf := howns.wf
  have hle := howns.lane_le
  cases h using Move.casesAside with
  | @exchange s t t' e e' call tr f core occasion step holds =>
    have hs : Timed { s with core } e := (ha rfl).congr rfl rfl rfl (.refl _)
    rcases occasion.timers with ⟨now, event, hdue, rfl, rfl⟩ | ⟨hsame, hcall⟩
    · have hdue' : (ConnectionSlot.popDue { s with core } now).1 = some event := by
        rw [popDue_event] at hdue ⊢
        exact hdue
      obtain ⟨herror, htimed⟩ := hs.elapse hle hwf hdue' step
      exact ⟨fun _ => htimed, fun error he => herror error (fault_eq he)⟩
    · have hlimits := (occasion.fixed { s with core }).1.limits
      have hhook : Timed (f { s with core }) e := hs.congr (hsame _).1 (hsame _).2 hlimits (.refl _)
      obtain ⟨herror, htimed⟩ :=
        hhook.interpret legible_unit (by rw [hlimits]; exact hle) hwf step hcall
      exact ⟨fun _ => htimed, fun error he => herror error (fault_eq he)⟩
  | refused =>
    refine ⟨fun hnone => (by cases hnone), fun error he => ?_⟩
    cases he
    exact outside_clocked rfl
  | @replied s t e e' frame key tr decoder classifier core next small keyed step holds =>
    have hs : Timed { s with core, decoder, classifier } e := (ha rfl).congr rfl rfl rfl (.refl _)
    obtain ⟨herror, htimed⟩ :=
      hs.interpret legible_reply hle hwf step (fun _ _ _ heq => by cases heq)
    exact ⟨fun _ => htimed, fun error he => herror error (fault_eq he)⟩
  | replyRefused =>
    refine ⟨fun hnone => (by cases hnone), fun error he => ?_⟩
    cases he
    exact outside_clocked rfl
  | fronted =>
    refine ⟨fun hnone => (by cases hnone), fun error he => ?_⟩
    cases he
    exact outside_clocked rfl
  | @admitted s t e e' core tr opened applied step holds =>
    have hclocks := winds_step step hwf
    rw [openAdmission_effects step] at hclocks
    refine ⟨fun _ => ?_, fun error he => publishNext_clocked (fault_eq he)⟩
    dsimp only
    rw [publishAdmissionOpened, publishNext_frame]
    exact (ha rfl).congr rfl rfl rfl hclocks
  | opened s t e connecting pending opened =>
    refine ⟨fun _ => ?_, fun error he => publishNext_clocked (fault_eq he)⟩
    dsimp only
    rw [publishTransportOpened, publishNext_frame]
    exact (ha rfl).congr rfl rfl rfl (.refl _)
  | @quiet s t e now undue =>
    obtain ⟨hwound, hpopped⟩ := (ha rfl).wound.popDue now
    rw [undue] at hpopped
    refine ⟨fun _ => ⟨hwound, ?_⟩, fun error he => by cases he⟩
    dsimp only
    rw [hpopped.1]
    exact (ha rfl).clocks
  | aside _ haside =>
    refine ⟨fun hnone => ?_, fun error he => ?_⟩
    · rw [haside.slot, haside.epoch]
      exact (ha (haside.healthy hnone)).congr rfl rfl rfl (.refl _)
    · rcases haside.fault error he with he | hout
      · exact hf error he
      · exact outside_clocked hout

/-! ### Where a deadline comes from -/

/-- Some reservation of a history gave out the operation, with this deadline. -/
def Requested (h : List (SlotEvent B D C R Q W T)) (operation : OperationId)
    (deadline : Deadline) : Prop :=
  ∃ ev ∈ h, ∃ now options permit, ev.input = .reserve now options ∧
    ev.output = .reserved (.ok permit) ∧
    permit.operation = operation ∧ permit.deadline = deadline

omit [ByteBudget B] [Retained R] [InboundClassifier C R] [EventBatch Q] [BoundedTimers W]
  [SlotTransport T] in
lemma Requested.snoc {h : List (SlotEvent B D C R Q W T)} {operation : OperationId}
    {deadline : Deadline} (hr : Requested h operation deadline)
    (ev : SlotEvent B D C R Q W T) : Requested (h ++ [ev]) operation deadline := by
  obtain ⟨ev', hmem, hwhat⟩ := hr
  exact ⟨ev', List.mem_append_left _ hmem, hwhat⟩

/-- An item of the epoch `e'` was there before, with its deadline. -/
def Carries (e e' : Epoch OutboundFrame) : Prop :=
  ∀ y ∈ e'.lane, ∃ x ∈ e.lane, x.id = y.id ∧ x.record.deadline = y.record.deadline

lemma carries_of_subset (h : ∀ y ∈ e'.lane, y ∈ e.lane) : Carries e e' :=
  fun y hy => ⟨y, h y hy, rfl, rfl⟩

lemma carries_replace {pre post : List (Item OutboundFrame)} {x y : Item OutboundFrame}
    (hl : e.lane = pre ++ x :: post) (hl' : e'.lane = pre ++ y :: post) (hid : x.id = y.id)
    (hdeadline : x.record.deadline = y.record.deadline) :
    Carries e e' := by
  intro z hz
  rw [hl'] at hz
  rcases List.mem_append.mp hz with hz | hz
  · exact ⟨z, by rw [hl]; exact List.mem_append_left _ hz, rfl, rfl⟩
  · rcases List.mem_cons.mp hz with rfl | hz
    · exact ⟨x, by simp [hl], hid, hdeadline⟩
    · exact ⟨z, by rw [hl]; exact List.mem_append_right _ (List.mem_cons_of_mem _ hz), rfl, rfl⟩

/-- No transition of the core changes a deadline. -/
lemma carries_step {X : Type} {call : Call OutboundFrame X} {r : Response OutboundFrame X}
    (h : Step e call r e')
    (hcall : ∀ index frame view, call ≠ .commit index frame view) : Carries e e' := by
  cases h with
  | committed => exact absurd rfl (hcall _ _ _)
  | removed _ lane =>
    refine carries_of_subset fun y hy => ?_
    have hy' := mem_drained hy
    rw [lane]
    exact (sublist_remove _ _ _).subset hy'
  | @buried _ _ x _ lane => exact carries_replace (y := x.bury) lane rfl rfl rfl
  | closed => exact fun y hy => by cases hy
  | draining =>
    refine carries_of_subset fun y hy => ?_
    have hy' := mem_drained hy
    exact hy'
  | replied _ _ front =>
    refine carries_of_subset fun y hy => ?_
    rw [front]
    exact List.mem_cons_of_mem _ (mem_drained hy)
  | progressed _ front =>
    exact carries_replace front.lane rfl Item.progress_id.symm Item.reported_deadline.symm
  | finished _ front =>
    exact carries_replace front.lane rfl Item.finish_id.symm Item.reported_deadline.symm
  | completed _ front =>
    refine carries_of_subset fun y hy => ?_
    have hy' := mem_drained hy
    rw [front.lane]
    exact (sublist_remove _ _ _).subset hy'
  | @overran _ _ x w _ _ front => exact carries_replace (y := x.overrun w) front.lane rfl rfl rfl
  | recovered => exact fun y hy => by cases hy
  | _ => exact carries_of_subset fun y hy => hy

lemma Carries.trans {e₁ e₂ e₃ : Epoch OutboundFrame} (h : Carries e₁ e₂) (h' : Carries e₂ e₃) :
    Carries e₁ e₃ := by
  intro z hz
  obtain ⟨y, hy, hid, hdeadline⟩ := h' z hz
  obtain ⟨x, hx, hid', hdeadline'⟩ := h y hy
  exact ⟨x, hx, hid'.trans hid, hdeadline'.trans hdeadline⟩

/-- A move leaves the epoch as it is, or is a step of it other than a commit. -/
lemma Move.stepped {a b : Scene B D C R Q W T} (h : Move permits cause a b) : b.epoch = a.epoch ∨
    ∃ (X : Type) (call : Call OutboundFrame X) (r : Response OutboundFrame X),
      Step a.epoch call r b.epoch ∧
      ∀ index frame view, call ≠ .commit index frame view := by
  cases h using Move.casesAside with
  | exchange occasion step =>
    refine .inr ⟨Unit, _, _, step, fun _ _ _ heq => ?_⟩
    cases occasion <;> cases heq
  | refused occasion step =>
    refine .inr ⟨Unit, _, _, step, fun _ _ _ heq => ?_⟩
    cases occasion <;> cases heq
  | replied _ _ _ step => exact .inr ⟨R, _, _, step, fun _ _ _ heq => by cases heq⟩
  | replyRefused _ _ _ step => exact .inr ⟨R, _, _, step, fun _ _ _ heq => by cases heq⟩
  | fronted step => exact .inr ⟨Unit, _, _, step, fun _ _ _ heq => by cases heq⟩
  | admitted _ _ step => exact .inr ⟨Unit, _, _, step, fun _ _ _ heq => by cases heq⟩
  | aside _ haside => exact .inl haside.epoch
  | _ => exact .inl rfl

/-- No move changes a deadline. -/
lemma Move.carries {a b : Scene B D C R Q W T} (h : Move permits cause a b) :
    Carries a.epoch b.epoch := by
  rcases h.stepped with hsame | ⟨_, _, _, hstep, hcall⟩
  · rw [hsame]
    exact carries_of_subset fun _ hy => hy
  · exact carries_step hstep hcall

omit [Retained R] [InboundClassifier C R] [BoundedTimers W] in
/-- The permit of a reservation has the deadline that was asked for. -/
lemma reserve_deadline {s : ConnectionSlot B D C R Q W} {now : ℕ} {options : OperationOptions}
    {permit : OperationPermit}
    (h : (s.reserve now options).1 = .ok permit) : permit.deadline = options.deadline := by
  have hmachine : ∀ m : ConnectionMachine, (m.reserve now options).1 = .ok permit →
      permit.deadline = options.deadline := by
    intro m hm
    unfold ConnectionMachine.reserve at hm
    split at hm
    · cases hm
    split at hm
    · cases hm
    split at hm
    · cases hm
    split at hm
    · cases hm
    split at hm <;> cases hm
    rfl
  have hcore : (s.core.reserve s.debug now options).1 = .ok permit →
      permit.deadline = options.deadline := by
    unfold ConnectionCore.reserve
    split
    · exact fun hc => by cases hc
    · exact hmachine _
  unfold ConnectionSlot.reserve at h
  split at h
  · cases h
  · split at h
    · cases h
    · next hrun =>
      split at h <;> cases h
      exact hcore (by rw [hrun])

/-! ### Runs -/

/-- The timers of a running slot agree with the lane, no call failed to arm one, and every deadline
is one that a reservation asked for. -/
structure Ticking (h : List (SlotEvent B D C R Q W T)) (s : ConnectionSlot B D C R Q W)
    (e : Epoch OutboundFrame) (permits : List OperationPermit) : Prop where
  timed : s.state = .running → Timed s e
  clocked : ∀ ev ∈ h, ∀ error ∈ ev.output.error, ¬Misclocked error
  permitted : ∀ p ∈ permits, Requested h p.operation p.deadline
  accepted : ∀ x ∈ e.lane, Requested h x.id x.record.deadline

omit [ByteBudget B] [Retained R] [InboundClassifier C R] [EventBatch Q] in
lemma Timed.latched {s' : ConnectionSlot B D C R Q W} {flt : Option EngineError}
    (h : flt = none → Timed s e) (hl : Latched s flt s')
    (hrunning : s'.state = .running) : Timed s' e := by
  cases hl with
  | running => exact h rfl
  | failed error => exact absurd hrunning (latchOwnerFailure_state s _)

/-- What a commit does: a permit becomes the last item, and its deadline is to be armed. -/
lemma committed_eq {index : ℕ} {frame : OutboundFrame} {operation : OperationId}
    {tr : ConnectionTransition Unit}
    (h : Step e (.commit index frame OutboundFrame.view) (.committed (.ok (operation, tr))) e') :
    ∃ p ∈ e.permits, tr.effects = [.scheduleDeadline e.epoch p.operation p.deadline] ∧
      e'.epoch = e.epoch ∧
      e'.lane = e.lane ++ [Item.accept p frame
        (FrameMeasure.capture OutboundFrame.view frame)] := by
  cases h with
  | committed _ live => exact ⟨_, List.mem_of_getElem? live, rfl, rfl, rfl⟩

omit [ByteBudget B] [InboundClassifier C R] in
/-- A committed operation is timed. -/
lemma Timed.committed {index : ℕ} {frame : OutboundFrame} {operation : OperationId}
    {tr : ConnectionTransition Unit} (h : Timed s e) (hw' : e'.Wf)
    (hle : e'.lane.length ≤ s.limits.operationCapacity)
    (hstep : Step e (.commit index frame OutboundFrame.view)
      (.committed (.ok (operation, tr))) e') :
    (∀ error, (interpretUnit tr s).1 = .error error → ¬Misclocked error) ∧
      Timed (interpretUnit tr s).2 e' := by
  obtain ⟨p, _, heffects, hepoch, hlane⟩ := committed_eq hstep
  have hroom : s.clocks.length + tr.effects.countP arms ≤ s.limits.operationCapacity := by
    rw [hlane, List.length_append, List.length_singleton] at hle
    rw [heffects, h.length_eq]
    exact hle
  have hfresh : p.operation ∉ e.lane.map Item.id := by
    have hids := hw'.operations.of_append_right
    rw [hlane, List.map_append] at hids
    exact fun hmem => (List.nodup_append.mp hids).2.2 _ hmem _ (List.mem_singleton_self _) rfl
  have hkeep : without p.operation (clocksOf e) = clocksOf e := by
    refine List.filter_eq_self.mpr fun clock hclock => ?_
    obtain ⟨x, hx, rfl⟩ := List.mem_map.mp hclock
    have hne : x.id ≠ p.operation := fun heq => hfresh (heq ▸ List.mem_map_of_mem hx)
    simpa using hne
  have hclocks' : clocksOf e' = clocksOf e ++ [(⟨e.epoch, p.operation⟩, p.deadline)] := by
    simp only [clocksOf, hlane, hepoch, List.map_append, List.map_cons, List.map_nil]
    rfl
  obtain ⟨herror, hwound, hclocks⟩ := h.wound.interpret legible_unit hroom
  refine ⟨herror, hwound, ?_⟩
  rw [interpretUnit, hclocks, heffects, hclocks', ← hkeep]
  exact (h.clocks.filter _).append_right _

/-- The path of a call keeps timers and lane together. -/
lemma Path.timed {a b : Scene B D C R Q W T} (hp : Path permits cause a b)
    (howns : Owns permits a.slot a.epoch) (hfault : a.fault = none) (ha : Timed a.slot a.epoch) :
    (b.fault = none → Timed b.slot b.epoch) ∧ (∀ error ∈ b.fault, ¬Misclocked error) ∧
      Carries a.epoch b.epoch := by
  refine hp.keeps (I := fun sc =>
    (sc.fault = none → Timed sc.slot sc.epoch) ∧ (∀ error ∈ sc.fault, ¬Misclocked error) ∧
    Carries a.epoch sc.epoch) howns ⟨fun _ => ha, ?_, carries_of_subset fun _ hy => hy⟩ ?_
  · rw [hfault]
    exact fun _ he => by cases he
  · intro x y hmove hx ⟨htimed, hclocked, hcarries⟩
    obtain ⟨htimed', hclocked'⟩ := hmove.timed hx htimed hclocked
    exact ⟨htimed', hclocked', hcarries.trans hmove.carries⟩

variable {h : List (SlotEvent B D C R Q W T)} {s' : ConnectionSlot B D C R Q W}
  {permits' : List OperationPermit} {call : SlotCall T} {r : SlotResponse R T}

/-- A call keeps the timers of a running slot, and none fails to arm one. -/
lemma Timed.step (hs : s.state = .running → Timed s e) (howns : Owns permits s e)
    (howns' : Owns permits' s' e') (hstep : SlotStep s e permits call r (some s') e' permits') :
    (s'.state = .running → Timed s' e') ∧ ∀ error ∈ r.error, ¬Misclocked error := by
  cases hstep using SlotStep.casesPlain with
  | plain _ hplain =>
    refine ⟨fun hrunning => ?_, fun error he => ?_⟩
    · rcases hplain.slot with hslot | ⟨_, _, rfl⟩
      · rw [hplain.epoch]
        rw [hslot] at hrunning ⊢
        exact (hs hrunning).congr rfl rfl rfl (.refl _)
      · exact absurd hrunning (latchOwnerFailure_state _ _)
    · obtain ⟨reason, rfl⟩ := hplain.error error he
      rintro (h | h) <;> cases h
  | drove running guards path latched =>
    obtain ⟨htimed, hclocked, _⟩ := path.timed howns rfl (hs running)
    rw [guards.error]
    exact ⟨Timed.latched htimed latched, hclocked⟩
  | @committed s s' e e' permits index frame operation tr core running step latched =>
    have hle : e'.lane.length ≤ s.limits.operationCapacity := by
      have hlimits : s'.limits = s.limits := latched.limits_eq.trans (interpret_limits ..)
      rw [← hlimits]
      exact howns'.lane_le
    have hcore : Timed { s with core } e := (hs running).congr rfl rfl rfl (.refl _)
    obtain ⟨herror, htimed⟩ := hcore.committed howns'.wf hle step
    refine ⟨Timed.latched (fun _ => htimed) latched, fun error he => ?_⟩
    rw [commitResult_error] at he
    exact herror error (fault_eq he)
  | aborted e permits request =>
    exact ⟨fun hrunning => (hs hrunning).congr rfl rfl rfl (.refl _), fun error he => by cases he⟩
  | confirmed request ready step published =>
    have hclocks := winds_step step howns.wf
    rw [epochClosed_effects step] at hclocks
    refine ⟨fun hrunning => ?_, fun error he => by cases he⟩
    rw [publishClosed, publishNext_frame] at hrunning ⊢
    exact (hs hrunning).congr rfl rfl rfl hclocks
  | unpublished request ready step published =>
    exact ⟨fun hrunning =>
      absurd hrunning (latchOwnerFailure_state _ _), fun error he => by cases he⟩
  | unconfirmed request ready step =>
    exact ⟨fun hrunning =>
      absurd hrunning (latchOwnerFailure_state _ _), fun error he => by cases he⟩

/-- A call takes no permit but one it gives out. -/
lemma SlotStep.permits_new (hstep : SlotStep s e permits call r (some s') e' permits')
    {p : OperationPermit} (hp : p ∈ permits') :
    p ∈ permits ∨ ∃ now options, call = .reserve now options ∧ r = .reserved (.ok p) := by
  cases hstep with
  | reserved running step room =>
    rcases List.mem_append.mp hp with hp | hp
    · exact .inl hp
    · rw [List.mem_singleton.mp hp]
      exact .inr ⟨_, _, rfl, rfl⟩
  | committed => exact .inl (List.mem_of_mem_eraseIdx hp)
  | dropped => exact .inl (List.mem_of_mem_eraseIdx hp)
  | _ => exact .inl hp

/-- An item of the lane was there before a call, or was a permit. -/
lemma SlotStep.lane_new (hstep : SlotStep s e permits call r (some s') e' permits')
    (howns : Owns permits s e) {y : Item OutboundFrame} (hy : y ∈ e'.lane) :
    (∃ x ∈ e.lane, x.id = y.id ∧ x.record.deadline = y.record.deadline) ∨
      ∃ p ∈ permits, p.operation = y.id ∧ p.deadline = y.record.deadline := by
  cases hstep using SlotStep.casesPlain with
  | plain _ hplain =>
    rw [hplain.epoch] at hy
    exact .inl ⟨y, hy, rfl, rfl⟩
  | drove running guards path latched =>
    have hcarries :=
      path.keeps (I := fun sc => Carries e sc.epoch) howns (carries_of_subset fun _ hy => hy)
      fun a b hmove _ ha => ha.trans hmove.carries
    exact .inl (hcarries y hy)
  | committed running step latched =>
    obtain ⟨p, hp, _, _, hlane⟩ := committed_eq step
    rw [hlane] at hy
    rcases List.mem_append.mp hy with hy | hy
    · exact .inl ⟨y, hy, rfl, rfl⟩
    · rw [List.mem_singleton.mp hy]
      exact .inr ⟨p, howns.permits_eq ▸ hp, rfl, rfl⟩
  | aborted => exact .inl ⟨y, hy, rfl, rfl⟩
  | confirmed request ready step published =>
    exact .inl (carries_step step (fun _ _ _ heq => by cases heq) y hy)
  | unpublished request ready step published =>
    exact .inl (carries_step step (fun _ _ _ heq => by cases heq) y hy)
  | unconfirmed request ready step =>
    exact .inl (carries_step step (fun _ _ _ heq => by cases heq) y hy)

omit [Retained R] [InboundClassifier C R] in
lemma Timed.new (setup : SlotSetup D C R E) :
    Timed (setup.slot : ConnectionSlot B D C R Q W)
      (Epoch.new setup.config.ledgerId setup.config.epoch ⟨0, 0⟩) := by
  refine ⟨⟨?_, ?_, ?_⟩, ?_⟩ <;>
    simp [SlotSetup.slot, fresh, Epoch.new, clocksOf, ConnectionSlot.clocks,
      BoundedTimers.armed_new, BoundedTimers.limits_new]

/-- Every run keeps its timers. -/
theorem ticking_run (setup : SlotSetup D C R E) (calls : List (SlotCall T)) :
    Standing Ticking (fun h => ∀ ev ∈ h, ∀ error ∈ ev.output.error, ¬Misclocked error)
      (setup.history B Q W calls) (setup.final B Q W calls) := by
  have hsnoc : ∀ (h : List (SlotEvent B D C R Q W T)) ev,
    (∀ v ∈ h, ∀ error ∈ v.output.error, ¬Misclocked error) →
      (∀ error ∈ ev.output.error, ¬Misclocked error) →
      ∀ v ∈ h ++ [ev], ∀ error ∈ v.output.error, ¬Misclocked error :=
    fun h ev hh hev => List.forall_mem_append.mpr ⟨hh, List.forall_mem_singleton.mpr hev⟩
  refine standing_run setup ?_ ?_ ?_ ?_ calls
  · exact ⟨fun _ =>
      Timed.new setup, fun _ hev => (by cases hev), fun _ hp => (by cases hp),
        fun _ hx => (by cases hx)⟩
  · intro h s e permits call s' e' ev howns hs hstep _ hinput _ howns'
    obtain ⟨htimed, herror⟩ := Timed.step hs.timed howns howns' hstep
    refine ⟨htimed, hsnoc h ev hs.clocked herror, fun p hp => ?_, fun y hy => ?_⟩
    · rcases hstep.permits_new hp with hp | ⟨now, options, hcall, hout⟩
      · exact (hs.permitted p hp).snoc ev
      · exact ⟨ev, by simp, now, options, p, hinput.trans hcall, hout, rfl, rfl⟩
    · rcases hstep.lane_new howns hy with ⟨x, hx, hid, hdeadline⟩ | ⟨p, hp, hid, hdeadline⟩
      · exact hid ▸ hdeadline ▸ (hs.accepted x hx).snoc ev
      · exact hid ▸ hdeadline ▸ (hs.permitted p hp).snoc ev
  · intro h s e permits ev reason _ hs _ _ hout _
    exact hsnoc h ev hs.clocked (by rw [hout]; exact fun error he => by cases he)
  · intro h ev hj _ hout
    refine hsnoc h ev hj ?_
    rcases hout with hout | hout <;> rw [hout] <;> exact fun error he => by cases he

omit [Retained R] [InboundClassifier C R] [EventBatch Q] [BoundedTimers W] in
/-- The pending records of a core are those of its lane. -/
lemma Owns.clocks_eq (h : Owns permits s e) :
    clocksOf e = s.core.machine.matching.pending.map fun record =>
      (⟨s.epoch, record.id⟩, record.deadline) := by
  rw [h.core.policy.pending, List.map_map, ConnectionSlot.epoch, h.core.policy.epoch]
  rfl

/-- A reservation of a history gave out its operation with the deadline that was asked for. -/
lemma Requested.options {setup : SlotSetup D C R E} {calls : List (SlotCall T)}
    {operation : OperationId} {deadline : Deadline}
    (h : Requested (setup.history B Q W calls) operation deadline) :
    ∃ ev ∈ setup.history B Q W calls, ∃ now options permit, ev.input = .reserve now options ∧
      ev.output = .reserved (.ok permit) ∧ permit.operation = operation ∧
        options.deadline = deadline := by
  obtain ⟨ev, hmem, now, options, permit, hinput, houtput, hoperation, hdeadline⟩ := h
  refine ⟨ev, hmem, now, options, permit, hinput, houtput, hoperation, ?_⟩
  obtain ⟨pre, post, hsplit⟩ := List.append_of_mem hmem
  obtain ⟨before, call, _, _, _, rfl⟩ := Transducer.history_split hsplit
  obtain rfl : call = .reserve now options := hinput
  simp only [Transducer.event] at houtput
  unfold SlotWorld.step at houtput
  split at houtput
  · simp only [SlotWorld.slotStep] at houtput
    split at houtput
    · cases houtput
    · next hrun =>
      cases houtput
      rw [← hdeadline]
      exact (reserve_deadline (by rw [hrun])).symm
  · cases houtput

/-- **The deadline index is exact.** Between the calls of a running slot, its armed timers, its
index and the pending records of its core, tombstones included, name the same operations, each once.
Each timer is armed at the deadline of its record, which is the one the reservation of its operation
asked for. No call fails for want of room in the index or in the timer queue. -/
theorem deadline_index_exact (setup : SlotSetup D C R E) (calls : List (SlotCall T)) :
    (∀ s ∈ (setup.final B Q W calls).slot, s.state = .running →
      (s.deadlines.map fun entry => (entry.operation, entry.token)).Perm
        ((armed s.timers).map fun timer => (timer.value.operation, timer.token)) ∧
      ((armed s.timers).map fun timer => (timer.value, timer.deadline)).Perm
        (s.core.machine.matching.pending.map fun record =>
          (⟨s.epoch, record.id⟩, record.deadline)) ∧
      ((armed s.timers).map fun timer => timer.value.operation).Nodup ∧
      ∀ timer ∈ armed s.timers, ∃ ev ∈ setup.history B Q W calls, ∃ now options permit,
        ev.input = .reserve now options ∧ ev.output = .reserved (.ok permit) ∧
        permit.operation = timer.value.operation ∧ options.deadline = timer.deadline) ∧
    ∀ ev ∈ setup.history B Q W calls, ev.output.error ≠ some (.invariant .deadlineIndexCapacity) ∧
      ev.output.error ≠ some (.invariant .deadlineSchedule) := by
  have hrun := ticking_run (B := B) (Q := Q) (W := W) setup calls
  have hclocked : ∀ ev ∈ setup.history B Q W calls, ∀ error ∈ ev.output.error,
      ¬Misclocked error := by
    unfold Standing at hrun
    split at hrun
    · exact hrun
    · obtain ⟨e, _, hs⟩ := hrun
      exact hs.clocked
  refine ⟨fun s hslot hrunning => ?_,
    fun ev hev =>
      ⟨fun heq => hclocked ev hev _ heq (.inl rfl), fun heq => hclocked ev hev _ heq (.inr rfl)⟩⟩
  unfold Standing at hrun
  rw [Option.mem_def.mp hslot] at hrun
  obtain ⟨e, howns, hs⟩ := hrun
  have htimed := hs.timed hrunning
  refine ⟨htimed.wound.index, howns.clocks_eq ▸ htimed.clocks, htimed.wound.distinct,
    fun timer htimer => ?_⟩
  obtain ⟨x, hx, heq⟩ :=
    List.mem_map.mp (htimed.clocks.subset (List.mem_map.mpr ⟨timer, htimer, rfl⟩))
  have hoperation : x.id = timer.value.operation := congrArg (fun clock => clock.1.operation) heq
  have hdeadline : x.record.deadline = timer.deadline := congrArg Prod.snd heq
  exact (hoperation ▸ hdeadline ▸ hs.accepted x hx).options

end Bornera.Slot
