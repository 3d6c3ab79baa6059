import Bornera.Slot.Steps

/-!
# Publication of outcomes

Capacity for outcomes is checked only when an operation is reserved, while outcomes appear later:
from replies, writes, cancels, deadlines and a close that fails every operation at once. What
carries the bound across all of these is the sum of what is undrained, what is still owed and what
is permitted (`Stocked`): every publication moves one operation from the second to the first.
-/

namespace Bornera.Slot

open Bornera.Core Bornera.Core.Epoch Lib ConnectionSlot

variable {B D C R E T : Type} {Q W : Type → Type} [ByteBudget B] [FrameDecoder D R E] [Retained R]
  [InboundClassifier C R] [EventBatch Q] [TimerQueue W] [SlotTransport T]

/-- The failures of the publication of an outcome. -/
def Overflows (error : EngineError) : Prop :=
  error = .invariant .outcomePublication ∨ error = .invariant .recoveryOutcomePublication

/-- The batches of outcomes have their limits, nothing was ever pushed aside, and no outcome is
larger than a reply may be. -/
structure Shelved (s : ConnectionSlot B D C R Q W) : Prop where
  limits : EventBatch.limits s.outcomes = s.limits.outcomes
  spare : EventBatch.contents s.recoveryOutcomes = []
  small : ∀ o ∈ EventBatch.contents s.outcomes, Retained.retainedBytes o ≤ s.limits.replyBytes

lemma retainedSum_le {α : Type} [Retained α] {bound : ℕ} {xs : List α}
    (h : ∀ x ∈ xs, Retained.retainedBytes x ≤ bound) :
    retainedSum xs ≤ xs.length * bound := by
  have hsum := List.sum_le_card_nsmul (xs.map Retained.retainedBytes) bound (by simpa using h)
  simpa [retainedSum] using hsum

section
omit [ByteBudget B] [InboundClassifier C R] [TimerQueue W]

/-- What is undrained fits into the bytes of the batch. -/
lemma Shelved.bytes {s : ConnectionSlot B D C R Q W} (h : Shelved s)
    (hroom : (EventBatch.contents s.outcomes).length ≤ s.limits.operationCapacity) :
    retainedSum (EventBatch.contents s.outcomes) ≤
      s.limits.replyBytes * s.limits.connection.maxOperations := by
  calc retainedSum (EventBatch.contents s.outcomes)
    _ ≤ (EventBatch.contents s.outcomes).length * s.limits.replyBytes := retainedSum_le h.small
    _ ≤ s.limits.operationCapacity * s.limits.replyBytes := Nat.mul_le_mul_right _ hroom
    _ = s.limits.replyBytes * s.limits.connection.maxOperations := by
      rw [s.limits.capacity_eq, Nat.mul_comm]

/-- An outcome that has room is published. -/
lemma Shelved.publish {s : ConnectionSlot B D C R Q W} (h : Shelved s) {outcome : EngineOutcome R}
    (hroom : (EventBatch.contents s.outcomes).length < s.limits.operationCapacity)
    (hsmall : Retained.retainedBytes outcome ≤ s.limits.replyBytes) :
    (ConnectionSlot.publish outcome s).1 = .ok () ∧ Shelved (ConnectionSlot.publish outcome s).2 ∧
      EventBatch.contents (ConnectionSlot.publish outcome s).2.outcomes =
        EventBatch.contents s.outcomes ++ [outcome] := by
  have hbytes : retainedSum (EventBatch.contents s.outcomes) + Retained.retainedBytes outcome ≤
      (EventBatch.limits s.outcomes).maxRetainedBytes := by
    have hsum := retainedSum_le h.small
    rw [h.limits]
    show _ ≤ s.limits.outcomeBytes
    rw [s.limits.outcome_eq, ← s.limits.capacity_eq]
    calc retainedSum (EventBatch.contents s.outcomes) + Retained.retainedBytes outcome
      _ ≤ (EventBatch.contents s.outcomes).length * s.limits.replyBytes +
        s.limits.replyBytes := by omega
      _ = ((EventBatch.contents s.outcomes).length + 1) * s.limits.replyBytes := by ring
      _ ≤ s.limits.operationCapacity * s.limits.replyBytes := Nat.mul_le_mul_right _ hroom
      _ = s.limits.replyBytes * s.limits.operationCapacity := Nat.mul_comm _ _
  obtain ⟨hok, hcontents, hlimits⟩ :=
    EventBatch.push_fits s.outcomes outcome (by rw [h.limits]; exact hroom) hbytes
  have hrun : ConnectionSlot.publish outcome s =
      (.ok (), { s with outcomes := (EventBatch.tryPush s.outcomes outcome).2 }) := by
    unfold ConnectionSlot.publish
    cases hpush : EventBatch.tryPush s.outcomes outcome with
    | mk result outcomes =>
    rw [hpush] at hok
    cases hok
    rfl
  rw [hrun]
  refine ⟨rfl, ⟨hlimits.trans h.limits, h.spare, ?_⟩, hcontents⟩
  intro o ho
  simp only [hcontents, List.mem_append, List.mem_singleton] at ho
  rcases ho with ho | rfl
  · exact h.small o ho
  · exact hsmall

end

/-! ### The effects of a transition -/

/-- Every outcome among the effects can be published, and is not too large. -/
def Publishable {X : Type}
    (outcomeOf : OperationOutcome X → Except EngineInvariant (OperationOutcome R)) (bound : ℕ)
    (effects : List (ConnectionEffect X)) : Prop :=
  ∀ epoch operation outcome, .publishOutcome epoch operation outcome ∈ effects →
    ∃ o, outcomeOf outcome = .ok o ∧ outcomeBytes o ≤ bound

section
omit [ByteBudget B] [InboundClassifier C R]

/-- What one effect does to the outcomes. -/
lemma Shelved.effect {X : Type}
    {outcomeOf : OperationOutcome X → Except EngineInvariant (OperationOutcome R)}
    {s : ConnectionSlot B D C R Q W} (h : Shelved s) {effect : ConnectionEffect X}
    (hpub : Publishable outcomeOf s.limits.replyBytes [effect])
    (hroom : (EventBatch.contents s.outcomes).length + (published [effect]).length ≤
      s.limits.operationCapacity) :
    (∀ error, (interpretEffect outcomeOf effect s).1 = .error error → ¬Overflows error) ∧
      Shelved (interpretEffect outcomeOf effect s).2 ∧
      ∃ pushed, EventBatch.contents (interpretEffect outcomeOf effect s).2.outcomes =
          EventBatch.contents s.outcomes ++ pushed ∧
            pushed.map EngineOutcome.operation = published [effect] := by
  cases effect with
  | scheduleDeadline epoch operation deadline =>
    have hframe := scheduleDeadline_frame s ⟨epoch, operation⟩ deadline
    refine ⟨fun error herror => ?_, ?_, [], ?_, rfl⟩
    · rcases scheduleDeadline_error herror with rfl | rfl <;> rintro (h | h) <;> cases h
    · simp only [interpretEffect]
      rw [hframe]
      exact ⟨h.limits, h.spare, h.small⟩
    · simp only [interpretEffect]
      rw [hframe, List.append_nil]
  | discardWrite =>
    refine ⟨fun error herror => ?_, h, [], (List.append_nil _).symm, rfl⟩
    cases herror
    rintro (h | h) <;> cases h
  | cancelDeadline epoch operation =>
    have hframe := cancelDeadline_frame s operation
    refine ⟨fun error herror => (by cases herror), ?_, [], ?_, rfl⟩
    · simp only [interpretEffect, Owner.change_run]
      rw [hframe]
      exact ⟨h.limits, h.spare, h.small⟩
    · simp only [interpretEffect, Owner.change_run]
      rw [hframe, List.append_nil]
  | closeEpoch =>
    exact ⟨fun error herror => (by cases herror), h, [], (List.append_nil _).symm, rfl⟩
  | publishOutcome epoch operation outcome =>
    obtain ⟨o, ho, hsmall⟩ := hpub epoch operation outcome (List.mem_singleton_self _)
    simp only [interpretEffect, ho]
    obtain ⟨hok, hshelved, hcontents⟩ :=
      Shelved.publish h hroom (show Retained.retainedBytes
      (⟨epoch, operation, o⟩ : EngineOutcome R) ≤ _ from hsmall)
    refine ⟨fun error herror => ?_, hshelved, _, hcontents, rfl⟩
    rw [hok] at herror
    cases herror

/-- What the effects of a transition do to the outcomes. -/
theorem Shelved.effects {X : Type}
    {outcomeOf : OperationOutcome X → Except EngineInvariant (OperationOutcome R)}
    (effects : List (ConnectionEffect X)) (reason : Option CloseReason)
    (failure : Option EngineError) {s : ConnectionSlot B D C R Q W} (h : Shelved s)
    (hpub : Publishable outcomeOf s.limits.replyBytes effects)
    (hroom : (EventBatch.contents s.outcomes).length + (published effects).length ≤
      s.limits.operationCapacity)
    (hfailure : ∀ error ∈ failure, ¬Overflows error) :
    (∀ error ∈ (interpretEffects outcomeOf effects reason failure s).2.1, ¬Overflows error) ∧
      Shelved (interpretEffects outcomeOf effects reason failure s).2.2 ∧
      ∃ pushed, EventBatch.contents
        (interpretEffects outcomeOf effects reason failure s).2.2.outcomes =
          EventBatch.contents s.outcomes ++ pushed ∧
            pushed.map EngineOutcome.operation = published effects := by
  induction effects generalizing reason failure s with
  | nil => exact ⟨hfailure, h, [], (List.append_nil _).symm, rfl⟩
  | cons effect effects ih =>
    have hsplit : published (effect :: effects) = published [effect] ++ published effects :=
      published_append [effect] effects
    rw [hsplit, List.length_append] at hroom
    have hhead : Publishable outcomeOf s.limits.replyBytes
        [effect] := fun epoch operation outcome hmem =>
      hpub epoch operation outcome (List.mem_cons.mpr (.inl (List.mem_singleton.mp hmem)))
    obtain ⟨herror, hshelved, pushed, hcontents, hids⟩ := h.effect hhead (by omega)
    have hlimits : (interpretEffect outcomeOf effect s).2.limits = s.limits := by
      rw [booked_effect outcomeOf effect s]
    have hlength : pushed.length = (published [effect]).length := by rw [← hids, List.length_map]
    obtain ⟨herror', hshelved', pushed', hcontents', hids'⟩ := ih (closeReasonOf reason effect)
      (retainFirst failure (interpretEffect outcomeOf effect s).1) hshelved
      (fun epoch operation outcome hmem =>
        hlimits ▸ hpub epoch operation outcome (List.mem_cons_of_mem _ hmem))
      (by rw [hcontents, List.length_append, hlimits]; omega) (retainFirst_forall hfailure herror)
    refine ⟨herror', hshelved', pushed ++ pushed', ?_, ?_⟩
    · rw [← List.append_assoc, ← hcontents]
      exact hcontents'
    · rw [List.map_append, hids, hids', hsplit]

/-- **What an interpretation does to the outcomes**: those of the transition
are pushed, in order. -/
theorem Shelved.interpret {X : Type}
    {outcomeOf : OperationOutcome X → Except EngineInvariant (OperationOutcome R)}
    {tr : ConnectionTransition X} {s : ConnectionSlot B D C R Q W} (h : Shelved s)
    (hpub : Publishable outcomeOf s.limits.replyBytes tr.effects)
    (hroom : (EventBatch.contents s.outcomes).length + (published tr.effects).length ≤
      s.limits.operationCapacity) :
    (∀ error, (ConnectionSlot.interpret outcomeOf tr s).1 = .error error → ¬Overflows error) ∧
      Shelved (ConnectionSlot.interpret outcomeOf tr s).2 ∧
      ∃ pushed, EventBatch.contents (ConnectionSlot.interpret outcomeOf tr s).2.outcomes =
          EventBatch.contents s.outcomes ++ pushed ∧
            pushed.map EngineOutcome.operation = published tr.effects := by
  obtain ⟨herror, hshelved, hpushed⟩ :=
    h.effects tr.effects none none hpub hroom (fun _ he => by cases he)
  rw [interpret_slot, finishClose_frame]
  refine ⟨fun error hfail => ?_, ⟨hshelved.limits, hshelved.spare, hshelved.small⟩, hpushed⟩
  refine finishClose_forall herror (fun reason error hpublish => ?_) ?_ error
    (interpret_fault hfail)
  · rcases publishNext_error hpublish with rfl | rfl | rfl <;> rintro (h | h) <;> cases h
  · rintro (h | h) <;> cases h

end

/-! ### The effects of a step -/

/-- The reply among the effects of a step is the one that was handed in. -/
lemma reply_of_step {X : Type} {e e' : Epoch OutboundFrame} {call : Call OutboundFrame X}
    {tr : ConnectionTransition X} (h : Step e call (.transition (.ok tr)) e')
    {epoch : ConnectionEpoch} {operation : OperationId} {frame : X}
    (hmem : .publishOutcome epoch operation (.reply frame) ∈ tr.effects) :
    ∃ reply, call = .applyReply reply ∧ frame = reply.frame := by
  have hreply : (operation, frame) ∈ replies tr.effects := List.mem_filterMap.mpr ⟨_, hmem, rfl⟩
  obtain ⟨x, rest, _, _, _, hcall, _⟩ := h.replies hreply
  exact ⟨_, hcall, rfl⟩

/-- The outcomes of a step that is no reply are no replies. -/
lemma publishable_unit {e e' : Epoch OutboundFrame} {call : Call OutboundFrame Unit}
    {tr : ConnectionTransition Unit} (h : Step e call (.transition (.ok tr)) e')
    (hcall : ∀ reply, call ≠ .applyReply reply) (bound : ℕ) :
    Publishable (R := R) unitOutcome bound tr.effects := by
  intro epoch operation outcome hmem
  cases outcome with
  | reply =>
    obtain ⟨reply, hreply, _⟩ := reply_of_step h hmem
    exact absurd hreply (hcall reply)
  | writeComplete delivery => exact ⟨.writeComplete delivery, rfl, Nat.zero_le _⟩
  | failed failure delivery => exact ⟨.failed failure delivery, rfl, Nat.zero_le _⟩
  | cancelled delivery => exact ⟨.cancelled delivery, rfl, Nat.zero_le _⟩

/-- The reply of a step is the frame that was handed in. -/
lemma publishable_reply {e e' : Epoch OutboundFrame} {reply : InboundReply R}
    {tr : ConnectionTransition R} (h : Step e (.applyReply reply) (.transition (.ok tr)) e')
    {bound : ℕ} (hsmall : Retained.retainedBytes reply.frame ≤ bound) :
    Publishable .ok bound tr.effects := by
  intro epoch operation outcome hmem
  refine ⟨outcome, rfl, ?_⟩
  cases outcome with
  | reply frame =>
    obtain ⟨reply', hreply, rfl⟩ := reply_of_step h hmem
    cases hreply
    exact hsmall
  | _ => exact Nat.zero_le _

/-! ### Moves -/

/-- The undrained outcomes. -/
def ConnectionSlot.undrained (s : ConnectionSlot B D C R Q W) : List OperationId :=
  (EventBatch.contents s.outcomes).map EngineOutcome.operation

/-- **The books of a slot whose caller holds permits.** What is undrained, owed and permitted is
within the capacity; `ids` are the operations accepted and not drained. -/
structure Stocked (permits : List OperationPermit) (ids : List OperationId)
    (s : ConnectionSlot B D C R Q W) (e : Epoch OutboundFrame) : Prop where
  shelved : Shelved s
  room : (EventBatch.contents s.outcomes).length + e.owing.length + permits.length ≤
    s.limits.operationCapacity
  books : ids.Perm (s.undrained ++ e.owing)

variable {permits : List OperationPermit} {ids : List OperationId} {cause : SlotCall T}

omit [ByteBudget B] [InboundClassifier C R] [TimerQueue W] in
/-- Books change by what they hold only. -/
lemma Stocked.congr {s s' : ConnectionSlot B D C R Q W} {e e' : Epoch OutboundFrame}
    (h : Stocked permits ids s e) (houtcomes : s'.outcomes = s.outcomes)
    (hspare : s'.recoveryOutcomes = s.recoveryOutcomes) (hlimits : s'.limits = s.limits)
    (howing : e'.owing.Perm e.owing) : Stocked permits ids s' e' := by
  refine ⟨⟨?_, ?_, ?_⟩, ?_, ?_⟩
  · rw [houtcomes, hlimits]
    exact h.shelved.limits
  · rw [hspare]
    exact h.shelved.spare
  · rw [houtcomes, hlimits]
    exact h.shelved.small
  · rw [houtcomes, hlimits, howing.length_eq]
    exact h.room
  · rw [undrained, houtcomes]
    exact h.books.trans (howing.symm.append_left _)

omit [ByteBudget B] [InboundClassifier C R] in
/-- A transition of the core and its interpretation keep the books. -/
lemma Stocked.interpret {X : Type}
    {outcomeOf : OperationOutcome X → Except EngineInvariant (OperationOutcome R)}
    {tr : ConnectionTransition X} {s : ConnectionSlot B D C R Q W} {e e' : Epoch OutboundFrame}
    (h : Stocked permits ids s e) (hpub : Publishable outcomeOf s.limits.replyBytes tr.effects)
    (hsettles : e.owing.Perm (published tr.effects ++ e'.owing)) :
    (∀ error, (ConnectionSlot.interpret outcomeOf tr s).1 = .error error → ¬Overflows error) ∧
      Stocked permits ids (ConnectionSlot.interpret outcomeOf tr s).2 e' := by
  have hlength := hsettles.length_eq
  rw [List.length_append] at hlength
  have hroom := h.room
  obtain ⟨herror, hshelved, pushed, hcontents, hids⟩ := h.shelved.interpret hpub (by omega)
  have hpushed : pushed.length = (published tr.effects).length := by rw [← hids, List.length_map]
  refine ⟨herror, hshelved, ?_, ?_⟩
  · rw [hcontents, List.length_append, interpret_limits]
    omega
  · rw [undrained, hcontents, List.map_append, hids, List.append_assoc]
    exact h.books.trans (hsettles.append_left _)

omit [ByteBudget B] [EventBatch Q] in
/-- An occasion is no reply. -/
lemma Occasion.unreplied {s : ConnectionSlot B D C R Q W} {t t' : Option T}
    {call : Call OutboundFrame Unit} {tr : Option (ConnectionTransition Unit)}
    {f : ConnectionSlot B D C R Q W → ConnectionSlot B D C R Q W}
    (h : Occasion cause s t call tr f t')
    (reply : InboundReply Unit) : call ≠ .applyReply reply := by
  cases h <;> exact fun heq => by cases heq

lemma outside_fits {error : EngineError} (h : error.outside = true) : ¬Overflows error := by
  rintro (rfl | rfl) <;> cases h

/-- **Moves keep the books**, and none fails to publish an outcome. -/
theorem Move.stocked {a b : Scene B D C R Q W T} (h : Move permits cause a b)
    (howns : Owns permits a.slot a.epoch) (hs : Stocked permits ids a.slot a.epoch)
    (hf : ∀ error ∈ a.fault, ¬Overflows error) :
    Stocked permits ids b.slot b.epoch ∧ ∀ error ∈ b.fault, ¬Overflows error := by
  have hwf := howns.wf
  cases h using Move.casesAside with
  | @exchange s t t' e e' call tr f core occasion step holds =>
    have hhook : Stocked permits ids (f { s with core }) e := by
      rw [occasion.frame { s with core }]
      exact hs.congr rfl rfl rfl (.refl _)
    obtain ⟨herror, hstocked⟩ :=
      hhook.interpret (publishable_unit step occasion.unreplied _) (step.settles hwf)
    exact ⟨hstocked, fun error he => herror error (fault_eq he)⟩
  | @refused s t t' e e' call source f core occasion step holds =>
    refine ⟨?_, fun error he => ?_⟩
    · dsimp only
      rw [occasion.frame { s with core }]
      exact hs.congr rfl rfl rfl (step.settles hwf).symm
    · cases he
      exact outside_fits rfl
  | @replied s t e e' frame key tr decoder classifier core next small keyed step holds =>
    have hhook : Stocked permits ids { s with core, decoder, classifier } e :=
      hs.congr rfl rfl rfl (.refl _)
    obtain ⟨herror, hstocked⟩ := hhook.interpret (publishable_reply step small) (step.settles hwf)
    exact ⟨hstocked, fun error he => herror error (fault_eq he)⟩
  | replyRefused next small keyed step holds =>
    refine ⟨hs.congr rfl rfl rfl (step.settles hwf).symm, fun error he => ?_⟩
    cases he
    exact outside_fits rfl
  | fronted step holds =>
    refine ⟨hs.congr rfl rfl rfl (step.settles hwf).symm, fun error he => ?_⟩
    cases he
    exact outside_fits rfl
  | @admitted s t e e' core tr opened applied step holds =>
    have howing : e'.owing.Perm e.owing := by
      have hsettles := step.settles hwf
      simp only [Response.accepted, Response.settled, openAdmission_effects step] at hsettles
      exact hsettles.symm
    refine ⟨?_, fun error he => ?_⟩
    · dsimp only
      rw [publishAdmissionOpened, publishNext_frame]
      exact hs.congr rfl rfl rfl howing
    · rcases publishNext_error (fault_eq he) with rfl | rfl | rfl <;> rintro (h | h) <;> cases h
  | opened s t e connecting pending opened =>
    refine ⟨?_, fun error he => ?_⟩
    · dsimp only
      rw [publishTransportOpened, publishNext_frame]
      exact hs.congr rfl rfl rfl (.refl _)
    · rcases publishNext_error (fault_eq he) with rfl | rfl | rfl <;> rintro (h | h) <;> cases h
  | quiet s t e undue =>
    refine ⟨?_, fun error he => by cases he⟩
    dsimp only
    rw [popDue_frame]
    exact hs.congr rfl rfl rfl (.refl _)
  | aside _ haside =>
    refine ⟨?_, fun error he => ?_⟩
    · rw [haside.slot, haside.epoch]
      exact hs.congr rfl rfl rfl (.refl _)
    · rcases haside.fault error he with he | hout
      · exact hf error he
      · exact outside_fits hout

end Bornera.Slot
