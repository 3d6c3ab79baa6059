import Bornera.Slot.Outcomes

/-!
# Settlement of a slot

End to end, from the commit of an operation to the drain of its outcome or to a recovery report,
every accepted operation settles once, and no outcome is lost for want of room.
-/

namespace Bornera.Slot

open Bornera.Core Bornera.Core.Epoch Lib ConnectionSlot

variable {B D C R E T : Type} {Q W : Type → Type} [ByteBudget B] [FrameDecoder D R E] [Retained R]
  [InboundClassifier C R] [EventBatch Q] [TimerQueue W] [SlotTransport T]

/-! ### What a call accepts and hands back -/

/-- The operation a call accepted. -/
def SlotResponse.taken : SlotResponse R T → List OperationId
  | .committed result => (acceptedBy result).toList
  | _ => []

/-- The operations of the outcomes a call drained. -/
def SlotResponse.drained : SlotResponse R T → List OperationId
  | .outcomes drained => drained.map EngineOutcome.operation
  | _ => []

/-- The operations of the outcomes and of the accepted operations in a recovery report. -/
def SlotResponse.reported : SlotResponse R T → List OperationId
  | .recovered report =>
    report.outcomes.map EngineOutcome.operation ++
    report.operations.map RecoveredOperation.operation
  | _ => []

/-- The operations accepted over a history. -/
def takenIn (h : List (SlotEvent B D C R Q W T)) : List OperationId :=
  h.flatMap fun ev => ev.output.taken

/-- The operations whose outcomes were drained over a history. -/
def drainedIn (h : List (SlotEvent B D C R Q W T)) : List OperationId :=
  h.flatMap fun ev => ev.output.drained

/-- The operations reported over a history. -/
def reportedIn (h : List (SlotEvent B D C R Q W T)) : List OperationId :=
  h.flatMap fun ev => ev.output.reported

section
variable (h : List (SlotEvent B D C R Q W T)) (ev : SlotEvent B D C R Q W T)

omit [ByteBudget B] [Retained R] [InboundClassifier C R] [EventBatch Q] [TimerQueue W]
  [SlotTransport T]
@[simp] lemma takenIn_snoc : takenIn (h ++ [ev]) = takenIn h ++ ev.output.taken := by simp [takenIn]
@[simp] lemma drainedIn_snoc : drainedIn (h ++ [ev]) = drainedIn h ++ ev.output.drained := by
  simp [drainedIn]
@[simp] lemma reportedIn_snoc : reportedIn (h ++ [ev]) = reportedIn h ++ ev.output.reported := by
  simp [reportedIn]

end

/-- The undrained outcomes of a world, those pushed aside for recovery included. -/
def SlotWorld.pending (w : SlotWorld B D C R Q W) : List OperationId :=
  match w.slot with
  | none => []
  | some s =>
    (EventBatch.contents s.outcomes ++ EventBatch.contents s.recoveryOutcomes).map
      EngineOutcome.operation

/-- The operations of a core that are not terminal. -/
def ConnectionSlot.nonterminal (s : ConnectionSlot B D C R Q W) : ℕ :=
  (s.core.machine.matching.pending.filter (·.phase ≠ .terminal)).length

/-! ### The books of a run -/

lemma transition_identities {X : Type} {e e' : Epoch OutboundFrame} {call : Call OutboundFrame X}
    {r : Except ConnectionCoreError (ConnectionTransition X)} (h : Step e call (.transition r) e') :
    e'.identities = e.identities := by
  cases h <;> first | rfl | exact drained_identities _

/-- Moves give no identity away. -/
lemma Move.identities {permits : List OperationPermit} {cause : SlotCall T}
    {a b : Scene B D C R Q W T}
    (h : Move permits cause a b) : b.epoch.identities = a.epoch.identities := by
  cases h with
  | exchange _ step => exact transition_identities step
  | refused _ step => exact transition_identities step
  | replied _ _ _ step => exact transition_identities step
  | replyRefused _ _ _ step => exact transition_identities step
  | fronted step => cases step <;> rfl
  | admitted _ _ step => exact transition_identities step
  | _ => rfl

/-- What a history has accepted and handed back, against the slot it ends in. -/
structure Settling (limits : ConnectionSlotLimits) (h : List (SlotEvent B D C R Q W T))
    (s : ConnectionSlot B D C R Q W) (e : Epoch OutboundFrame)
    (permits : List OperationPermit) : Prop where
  limits : s.limits = limits
  distinct : (takenIn h ++ e.permits.map (·.operation)).Nodup
  issued : ∀ id ∈ takenIn h, Issued e.identities.operation id.get
  books : ∃ ids, Stocked permits ids s e ∧ (takenIn h).Perm (drainedIn h ++ ids)
  unreported : reportedIn h = []
  fits : ∀ ev ∈ h, ∀ error ∈ ev.output.error, ¬Overflows error

/-- What a history has accepted and handed back, once its slot is recovered. -/
structure SettledAll (h : List (SlotEvent B D C R Q W T)) : Prop where
  distinct : (takenIn h).Nodup
  books : (takenIn h).Perm (drainedIn h ++ reportedIn h)
  fits : ∀ ev ∈ h, ∀ error ∈ ev.output.error, ¬Overflows error

section
omit [Retained R] [SlotTransport T]

lemma Guards.error_eq {call : SlotCall T} {flt : Option EngineError} {r : SlotResponse R T}
    (h : Guards call flt r) :
    r.error = flt ∧ r.taken = [] ∧ r.drained = [] ∧ r.reported = [] := by
  cases h <;> exact ⟨rfl, rfl, rfl, rfl⟩

lemma Refuses.error_eq {call : SlotCall T} {r : SlotResponse R T} (h : Refuses call r) :
    r.error = none ∧ r.taken = [] ∧ r.drained = [] ∧ r.reported = [] := by
  cases h with
  | reserve => exact ⟨rfl, rfl, rfl, rfl⟩
  | @commit index frame error unaccepted =>
    refine ⟨?_, ?_, rfl, rfl⟩
    · cases error <;> first | rfl | cases unaccepted
    · simp only [SlotResponse.taken, unaccepted, Option.toList_none]
  | @commitForeign permit frame error unaccepted =>
    refine ⟨?_, ?_, rfl, rfl⟩
    · cases error <;> first | rfl | cases unaccepted
    · simp only [SlotResponse.taken, unaccepted, Option.toList_none]

end

variable {limits : ConnectionSlotLimits} {h : List (SlotEvent B D C R Q W T)}
  {s s' : ConnectionSlot B D C R Q W} {e e' : Epoch OutboundFrame}
  {permits permits' : List OperationPermit}

omit [ByteBudget B] [Retained R] [InboundClassifier C R] [EventBatch Q] [TimerQueue W]
  [SlotTransport T] in
lemma fits_snoc (hf : ∀ ev ∈ h, ∀ error ∈ ev.output.error, ¬Overflows error)
    {ev : SlotEvent B D C R Q W T} (he : ∀ error ∈ ev.output.error, ¬Overflows error) :
    ∀ v ∈ h ++ [ev], ∀ error ∈ v.output.error, ¬Overflows error := by
  intro v hv
  rcases List.mem_append.mp hv with hv | hv
  · exact hf v hv
  · rw [List.mem_singleton.mp hv]
    exact he

omit [ByteBudget B] [InboundClassifier C R] [TimerQueue W] [SlotTransport T] in
/-- A call that accepts nothing and hands nothing back keeps the books of a history. -/
lemma Settling.quiet (hs : Settling limits h s e permits) (ev : SlotEvent B D C R Q W T)
    (hlimits : s'.limits = s.limits) (hpermits : e'.permits = e.permits)
    (hids : e'.identities = e.identities)
    (hbooks : ∀ ids, Stocked permits ids s e → Stocked permits ids s' e')
    (herror : ∀ error ∈ ev.output.error, ¬Overflows error)
    (hnone : ev.output.taken = [] ∧ ev.output.drained = [] ∧ ev.output.reported = []) :
    Settling limits (h ++ [ev]) s' e' permits := by
  obtain ⟨ids, hstocked, hperm⟩ := hs.books
  obtain ⟨htaken, hdrained, hreported⟩ := hnone
  refine ⟨hlimits.trans hs.limits, ?_, ?_, ⟨ids, hbooks ids hstocked, ?_⟩, ?_, ?_⟩
  · rw [takenIn_snoc, htaken, List.append_nil, hpermits]
    exact hs.distinct
  · rw [takenIn_snoc, htaken, List.append_nil, hids]
    exact hs.issued
  · rw [takenIn_snoc, htaken, drainedIn_snoc, hdrained, List.append_nil, List.append_nil]
    exact hperm
  · rw [reportedIn_snoc, hreported, hs.unreported]
    rfl
  · exact fits_snoc hs.fits herror

omit [ByteBudget B] [InboundClassifier C R] [TimerQueue W] in
/-- A latched failure keeps the books. -/
lemma Stocked.latched {ids : List OperationId} (hs : Stocked permits ids s e)
    {flt : Option EngineError} (hl : Latched s flt s') : Stocked permits ids s' e := by
  cases hl with
  | running => exact hs
  | failed error =>
    rw [latchOwnerFailure_frame]
    exact hs.congr rfl rfl rfl (.refl _)

/-- The path of a call keeps the books. -/
lemma Path.stocked {cause : SlotCall T} {a b : Scene B D C R Q W T} (hp : Path permits cause a b)
    (howns : Owns permits a.slot a.epoch) (hfault : a.fault = none) :
    b.epoch.identities = a.epoch.identities ∧ ∀ ids, Stocked permits ids a.slot a.epoch →
      Stocked permits ids b.slot b.epoch ∧ ∀ error ∈ b.fault, ¬Overflows error := by
  refine ⟨?_, fun ids hs => ?_⟩
  · exact hp.keeps (I := fun sc => sc.epoch.identities = a.epoch.identities) howns rfl
      fun x y hmove _ hx => hmove.identities.trans hx
  · refine hp.keeps (I := fun sc =>
      Stocked permits ids sc.slot sc.epoch ∧ ∀ error ∈ sc.fault, ¬Overflows error) howns
      ⟨hs, fun error he => by rw [hfault] at he; cases he⟩ fun x y hmove hx hi =>
        hmove.stocked hx hi.1 hi.2

/-- A step of the core that publishes nothing keeps what is owed. -/
lemma owing_of_quiet {X : Type} {call : Call OutboundFrame X} {tr : ConnectionTransition X}
    (hstep : Step e call (.transition (.ok tr)) e') (hw : e.Wf)
    (hquiet : tr.effects = []) : e'.owing.Perm e.owing := by
  have hsettles := hstep.settles hw
  simp only [Response.accepted, Response.settled, hquiet] at hsettles
  exact hsettles.symm

omit [InboundClassifier C R] in
/-- An accepted operation joins the books. -/
lemma Stocked.committed {ids : List OperationId} {index : ℕ} {frame : OutboundFrame}
    {operation : OperationId} {tr : ConnectionTransition Unit}
    (core : ConnectionCore B OutboundFrame) (hs : Stocked permits ids s e)
    (howns : Owns permits s e)
    (hstep : Step e (.commit index frame OutboundFrame.view)
      (.committed (.ok (operation, tr))) e') :
    (∀ error, (interpretUnit tr { s with core }).1 = .error error → ¬Overflows error) ∧
      Stocked (permits.eraseIdx index) (ids ++ [operation])
        (interpretUnit tr { s with core }).2 e' := by
  have hsettles := hstep.settles howns.wf
  have hroom := hs.room
  cases hstep with
  | @committed p index frame view healthy live admitted =>
    have hperm : ({ e with permits := e.permits.eraseIdx index
                           lane := e.lane ++ [Item.accept p frame
                             (FrameMeasure.capture OutboundFrame.view frame)] } :
        Epoch OutboundFrame).owing.Perm (e.owing ++ [p.operation]) := by
      refine List.Perm.trans (List.Perm.symm hsettles) ?_
      exact (List.perm_append_singleton _ _).symm
    have hindex : index < permits.length := by
      rw [howns.permits_eq]
      exact (List.getElem?_eq_some_iff.mp live).1
    have hjoined : Stocked (permits.eraseIdx index) (ids ++ [p.operation]) { s with core }
        { e with permits := e.permits.eraseIdx index
                 lane := e.lane ++ [Item.accept p frame
                     (FrameMeasure.capture OutboundFrame.view frame)] } := by
      refine ⟨⟨hs.shelved.limits, hs.shelved.spare, hs.shelved.small⟩, ?_, ?_⟩
      · rw [hperm.length_eq, List.length_append, List.length_singleton,
          List.length_eraseIdx_of_lt hindex]
        show (EventBatch.contents s.outcomes).length + _ + _ ≤ s.limits.operationCapacity
        omega
      · refine List.Perm.trans ?_ (hperm.symm.append_left _)
        rw [← List.append_assoc]
        exact hs.books.append_right _
    refine hjoined.interpret ?_ (.refl _)
    intro epoch operation outcome hmem
    simp at hmem

/-- **Every call keeps the books of the history.** -/
theorem Settling.step (hs : Settling limits h s e permits) (howns : Owns permits s e)
    {ev : SlotEvent B D C R Q W T} {call : SlotCall T}
    (hstep : SlotStep s e permits call ev.output (some s') e' permits')
    (howns' : Owns permits' s' e') : Settling limits (h ++ [ev]) s' e' permits' := by
  generalize hout : ev.output = r at hstep
  cases hstep with
  | unavailable =>
    exact hs.quiet ev rfl rfl rfl (fun _ hb => hb) (by rw [hout]; rintro _ ⟨⟩)
      (by rw [hout]; exact ⟨rfl, rfl, rfl⟩)
  | asleep asleep guards unmoved =>
    obtain ⟨herror, hnone⟩ := guards.error_eq
    refine hs.quiet ev rfl rfl rfl (fun _ hb => hb) ?_ (by rw [hout]; exact hnone)
    rw [hout, herror]
    rintro _ ⟨⟩
    rintro (h | h) <;> cases h
  | drove running guards path latched =>
    obtain ⟨herror, hnone⟩ := guards.error_eq
    obtain ⟨hids, hkeep⟩ := path.stocked howns rfl
    obtain ⟨ids, hstocked, _⟩ := hs.books
    have hlimits : s'.limits = s.limits := latched.limits_eq.trans (path.owns howns).1.limits
    refine hs.quiet ev hlimits ?_ hids (fun ids hb => (hkeep ids hb).1.latched latched) ?_
      (by rw [hout]; exact hnone)
    · rw [← howns.permits_eq, ← howns'.permits_eq]
    · rw [hout, herror]
      exact (hkeep ids hstocked).2
  | refused refuses latched =>
    obtain ⟨herror, hnone⟩ := refuses.error_eq
    refine hs.quiet ev ?_ rfl rfl (fun ids hb => ?_) (by rw [hout, herror]; rintro _ ⟨⟩)
      (by rw [hout]; exact hnone)
    · rcases latched with rfl | ⟨_, _, rfl⟩
      · rfl
      · rw [latchOwnerFailure_frame]
    · rcases latched with rfl | ⟨_, _, rfl⟩
      · exact hb
      · rw [latchOwnerFailure_frame]
        exact hb.congr rfl rfl rfl (.refl _)
  | @returned _ e₁ _ now options permit core running step =>
    obtain ⟨_, hissued⟩ := step.identities hs.distinct hs.issued (step.wf howns.wf)
    obtain ⟨ids, hstocked, hperm⟩ := hs.books
    have howing : e₁.owing = e.owing := by cases step; rfl
    refine ⟨hs.limits, ?_, ?_, ⟨ids, hstocked.congr rfl rfl rfl (.of_eq howing), ?_⟩, ?_, ?_⟩
    · simpa [hout, SlotResponse.taken] using hs.distinct
    · simpa [hout, SlotResponse.taken, Response.accepted] using hissued
    · simpa [hout, SlotResponse.taken, SlotResponse.drained] using hperm
    · simpa [hout, SlotResponse.reported] using hs.unreported
    · exact fits_snoc hs.fits (by rw [hout]; rintro _ ⟨⟩)
  | @reserved _ _ _ now options permit core running step room =>
    obtain ⟨hdistinct, hissued⟩ := step.identities hs.distinct hs.issued howns'.wf
    obtain ⟨ids, hstocked, hperm⟩ := hs.books
    have howing : e'.owing = e.owing := by cases step; rfl
    have hstocked' : Stocked (permits ++ [permit]) ids { s with core } e' := by
      have hcongr : Stocked permits ids { s with core } e' :=
        hstocked.congr rfl rfl rfl (.of_eq howing)
      refine ⟨hcongr.shelved, ?_, hcongr.books⟩
      have hle : e'.owing.length ≤ e'.lane.length := by
        rw [Epoch.owing, List.length_map]
        exact List.length_filter_le _ _
      rw [howns'.permits_eq, ← EventBatch.len_eq]
      show EventBatch.len s.outcomes + _ + _ ≤ s.limits.operationCapacity
      omega
    refine ⟨hs.limits, ?_, ?_, ⟨ids, hstocked', ?_⟩, ?_, ?_⟩
    · simpa [hout, SlotResponse.taken, Response.accepted] using hdistinct
    · simpa [hout, SlotResponse.taken, Response.accepted] using hissued
    · simpa [hout, SlotResponse.taken, SlotResponse.drained] using hperm
    · simpa [hout, SlotResponse.reported] using hs.unreported
    · exact fits_snoc hs.fits (by rw [hout]; rintro _ ⟨⟩)
  | @committed _ _ _ _ index frame operation tr core running step latched =>
    obtain ⟨hdistinct, hissued⟩ := step.identities hs.distinct hs.issued howns'.wf
    obtain ⟨ids, hstocked, hperm⟩ := hs.books
    obtain ⟨herror, hstocked'⟩ := Stocked.committed core hstocked howns step
    have htaken : ev.output.taken = [operation] := by
      rw [hout, SlotResponse.taken, acceptedBy_commitResult]
      rfl
    refine ⟨?_, ?_, ?_, ⟨ids ++ [operation], hstocked'.latched latched, ?_⟩, ?_, ?_⟩
    · rw [latched.limits_eq]
      exact (interpret_limits ..).trans hs.limits
    · rw [takenIn_snoc, htaken]
      exact hdistinct
    · rw [takenIn_snoc, htaken]
      exact hissued
    · rw [takenIn_snoc, htaken, drainedIn_snoc, hout]
      simp only [SlotResponse.drained, List.append_nil]
      rw [← List.append_assoc]
      exact hperm.append_right _
    · simpa [hout, SlotResponse.reported] using hs.unreported
    · refine fits_snoc hs.fits ?_
      rw [hout]
      intro error he
      refine herror error ?_
      cases hr : (interpretUnit tr { s with core }).1 with
      | ok => rw [hr] at he; cases he
      | error source =>
        rw [hr] at he
        cases he
        rfl
  | @dropped _ _ index permit core live =>
    obtain ⟨ids, hstocked, hperm⟩ := hs.books
    refine ⟨hs.limits, ?_, ?_, ⟨ids, ?_, ?_⟩, ?_, ?_⟩
    · refine List.Nodup.sublist ?_ hs.distinct
      rw [takenIn_snoc, hout]
      simp only [SlotResponse.taken, List.append_nil]
      exact (List.Sublist.refl _).append ((List.eraseIdx_sublist _ _).map _)
    · simpa [hout, SlotResponse.taken] using hs.issued
    · have hroom := hstocked.room
      have hle := List.length_eraseIdx_le permits index
      refine ⟨⟨hstocked.shelved.limits, hstocked.shelved.spare, hstocked.shelved.small⟩, ?_,
        hstocked.books⟩
      show (EventBatch.contents s.outcomes).length + e.owing.length + _ ≤ s.limits.operationCapacity
      omega
    · simpa [hout, SlotResponse.taken, SlotResponse.drained] using hperm
    · simpa [hout, SlotResponse.reported] using hs.unreported
    · exact fits_snoc hs.fits (by rw [hout]; rintro _ ⟨⟩)
  | drainedOutcomes =>
    obtain ⟨ids, hstocked, hperm⟩ := hs.books
    obtain ⟨hdrained, hempty, hbound⟩ := EventBatch.drain_eq s.outcomes
    refine ⟨hs.limits, ?_, ?_, ⟨e.owing, ⟨⟨?_, hstocked.shelved.spare, ?_⟩, ?_, ?_⟩, ?_⟩, ?_, ?_⟩
    · simpa [hout, SlotResponse.taken] using hs.distinct
    · simpa [hout, SlotResponse.taken] using hs.issued
    · exact hbound.trans hstocked.shelved.limits
    · simp [drainOutcomes, hempty]
    · have hroom := hstocked.room
      simp only [drainOutcomes, hempty, List.length_nil]
      omega
    · simp [undrained, drainOutcomes, hempty]
    · rw [takenIn_snoc, drainedIn_snoc, hout]
      simp only [SlotResponse.taken, SlotResponse.drained, drainOutcomes, hdrained, List.append_nil,
        List.append_assoc]
      exact hperm.trans (hstocked.books.append_left _)
    · simpa [hout, SlotResponse.reported] using hs.unreported
    · exact fits_snoc hs.fits (by rw [hout]; rintro _ ⟨⟩)
  | drainedEvents =>
    exact hs.quiet ev rfl rfl rfl (fun _ hb => hb.congr rfl rfl rfl (.refl _))
      (by rw [hout]; rintro _ ⟨⟩)
      (by rw [hout]; exact ⟨rfl, rfl, rfl⟩)
  | unsettled =>
    exact hs.quiet ev rfl rfl rfl (fun _ hb => hb) (by rw [hout]; rintro _ ⟨⟩)
      (by rw [hout]; exact ⟨rfl, rfl, rfl⟩)
  | aborted =>
    exact hs.quiet ev rfl rfl rfl (fun _ hb => hb.congr rfl rfl rfl (.refl _))
      (by rw [hout]; rintro _ ⟨⟩)
      (by rw [hout]; exact ⟨rfl, rfl, rfl⟩)
  | @confirmed _ _ _ reason shutdown tr core request ready step published =>
    have howing := owing_of_quiet step howns.wf (epochClosed_effects step)
    refine hs.quiet ev ?_ ?_ (transition_identities step) (fun _ hb => ?_)
      (by rw [hout]; rintro _ ⟨⟩)
      (by rw [hout]; exact ⟨rfl, rfl, rfl⟩)
    · rw [publishClosed, publishNext_frame]
    · exact step.permits_eq trivial
    · rw [publishClosed, publishNext_frame]
      exact hb.congr rfl rfl rfl howing
  | @unpublished _ _ _ reason shutdown tr core error request ready step published =>
    have howing := owing_of_quiet step howns.wf (epochClosed_effects step)
    refine hs.quiet ev ?_ ?_ (transition_identities step) (fun _ hb => ?_)
      (by rw [hout]; rintro _ ⟨⟩)
      (by rw [hout]; exact ⟨rfl, rfl, rfl⟩)
    · rw [abortTransport, latchOwnerFailure_frame, publishClosed, publishNext_frame]
    · exact step.permits_eq trivial
    · rw [abortTransport, latchOwnerFailure_frame, publishClosed, publishNext_frame]
      exact hb.congr rfl rfl rfl howing
  | @unconfirmed _ _ _ reason shutdown source core request ready step =>
    refine hs.quiet ev ?_ ?_ (transition_identities step) (fun _ hb => ?_)
      (by rw [hout]; rintro _ ⟨⟩)
      (by rw [hout]; exact ⟨rfl, rfl, rfl⟩)
    · rw [abortTransport, latchOwnerFailure_frame]
    · exact step.permits_eq trivial
    · rw [abortTransport, latchOwnerFailure_frame]
      exact hb.congr rfl rfl rfl (step.settles howns.wf).symm

omit [InboundClassifier C R] [TimerQueue W] [SlotTransport T] in
/-- The last books: a recovery hands back everything that is left. -/
lemma Settling.recover (hs : Settling limits h s e permits) {ev : SlotEvent B D C R Q W T}
    {reason : OwnerFailure} (hout : ev.output = .recovered (s.recover reason))
    (hoperations : (s.recover reason).operations = (e.lane.filter Item.owed).map Item.recovered) :
    SettledAll (h ++ [ev]) := by
  obtain ⟨ids, hstocked, hperm⟩ := hs.books
  have hlane : (s.recover reason).operations.map RecoveredOperation.operation = e.owing := by
    rw [hoperations, List.map_map]
    rfl
  have houtcomes : (s.recover reason).outcomes = EventBatch.contents s.outcomes := by
    simp only [ConnectionSlot.recover, recoverOwned, (EventBatch.drain_eq s.outcomes).1,
      (EventBatch.drain_eq s.recoveryOutcomes).1, hstocked.shelved.spare, List.append_nil]
  refine ⟨?_, ?_, fits_snoc hs.fits (by rw [hout]; rintro _ ⟨⟩)⟩
  · rw [takenIn_snoc, hout]
    simpa [SlotResponse.taken] using hs.distinct.of_append_left
  · rw [takenIn_snoc, drainedIn_snoc, reportedIn_snoc, hs.unreported, hout]
    simp only [SlotResponse.taken, SlotResponse.drained, SlotResponse.reported, List.append_nil,
      List.nil_append, hlane,
      houtcomes]
    exact hperm.trans (hstocked.books.append_left _)

/-- Every run keeps its books. -/
theorem settling_run (setup : SlotSetup D C R E) (calls : List (SlotCall T)) :
    Standing (Settling setup.limits) SettledAll (setup.history B Q W calls)
      (setup.final B Q W calls) := by
  refine standing_run setup ?_ ?_ ?_ ?_ calls
  · refine ⟨rfl, ?_, ?_, ⟨[], ⟨⟨?_, ?_, ?_⟩, ?_, ?_⟩, .refl _⟩, rfl, ?_⟩ <;>
      simp [takenIn, Epoch.new, SlotSetup.slot, fresh, EventBatch.contents_new,
        EventBatch.limits_new, Epoch.owing, undrained]
  · intro h s e permits call s' e' ev howns hs hstep _ _ _ howns'
    exact hs.step howns hstep howns'
  · intro h s e permits ev reason _ hs _ _ hout hoperations
    exact hs.recover hout hoperations
  · intro h ev hj _ hout
    have hquiet : ev.output.taken = [] ∧ ev.output.drained = [] ∧ ev.output.reported = [] ∧
        ev.output.error = none := by
      rcases hout with hout | hout <;> rw [hout] <;> exact ⟨rfl, rfl, rfl, rfl⟩
    refine ⟨?_, ?_, fits_snoc hj.fits (by rw [hquiet.2.2.2]; rintro _ ⟨⟩)⟩
    · rw [takenIn_snoc, hquiet.1, List.append_nil]
      exact hj.distinct
    · rw [takenIn_snoc, drainedIn_snoc, reportedIn_snoc, hquiet.1, hquiet.2.1, hquiet.2.2.1]
      simpa using hj.books

omit [Retained R] [InboundClassifier C R] [EventBatch Q] [TimerQueue W] in
lemma Owns.nonterminal_eq (howns : Owns permits s e) : s.nonterminal = e.owing.length := by
  rw [nonterminal, howns.core.policy.pending, List.filter_map, List.length_map, Epoch.owing,
    List.length_map]
  rfl

/-- **Outcome publication never overflows.** Whatever the caller leaves undrained, the undrained
outcomes, the operations that are not terminal and the live permits are within the operation
capacity, the undrained outcomes retain no more than a reply for each operation, nothing is pushed
aside for recovery, and no call fails to publish an outcome. -/
theorem outcomes_never_overflow (setup : SlotSetup D C R E) (calls : List (SlotCall T)) :
    (∀ s ∈ (setup.final B Q W calls).slot,
      EventBatch.len s.outcomes + s.nonterminal + (setup.final B Q W calls).permits.length ≤
        setup.limits.operationCapacity ∧
      retainedSum (EventBatch.contents s.outcomes) ≤
        setup.limits.replyBytes * setup.limits.connection.maxOperations ∧
      EventBatch.contents s.recoveryOutcomes = []) ∧
    ∀ ev ∈ setup.history B Q W calls, ev.output.error ≠ some (.invariant .outcomePublication) ∧
      ev.output.error ≠ some (.invariant .recoveryOutcomePublication) := by
  have hrun := settling_run (B := B) (Q := Q) (W := W) setup calls
  have hfits : ∀ ev ∈ setup.history B Q W calls, ∀ error ∈ ev.output.error, ¬Overflows error := by
    unfold Standing at hrun
    split at hrun
    · exact hrun.fits
    · obtain ⟨e, _, hs⟩ := hrun
      exact hs.fits
  refine ⟨fun s hslot => ?_, fun ev hev =>
    ⟨fun heq => hfits ev hev _ heq (.inl rfl), fun heq => hfits ev hev _ heq (.inr rfl)⟩⟩
  unfold Standing at hrun
  rw [Option.mem_def.mp hslot] at hrun
  obtain ⟨e, howns, hs⟩ := hrun
  obtain ⟨ids, hstocked, _⟩ := hs.books
  have hroom := hstocked.room
  rw [hs.limits] at hroom
  refine ⟨?_, ?_, hstocked.shelved.spare⟩
  · rw [EventBatch.len_eq, howns.nonterminal_eq]
    exact hroom
  · have hbytes := hstocked.shelved.bytes (by rw [hs.limits]; omega)
    rw [hs.limits] at hbytes
    exact hbytes

/-- **Slot-level exactly-once settlement.** An operation whose commit was accepted, with the owner
failing or not, is at most once among the drained outcomes, the recovery report and the pending
outcomes, exactly once after a recovery, and exactly once among the drained and pending outcomes
as soon as the core is not live. -/
theorem slot_settles_exactly_once (setup : SlotSetup D C R E) (calls : List (SlotCall T))
    (operation : OperationId) (haccepted : operation ∈ takenIn (setup.history B Q W calls)) :
    (drainedIn (setup.history B Q W calls) ++ reportedIn (setup.history B Q W calls) ++
      (setup.final B Q W calls).pending).count operation ≤ 1 ∧
    ((setup.final B Q W calls).slot = none →
      (drainedIn (setup.history B Q W calls) ++ reportedIn (setup.history B Q W calls)).count
        operation = 1) ∧
    ∀ s ∈ (setup.final B Q W calls).slot, s.core.machine.phase ≠ .live →
      (drainedIn (setup.history B Q W calls) ++ (setup.final B Q W calls).pending).count
        operation = 1 := by
  have hrun := settling_run (B := B) (Q := Q) (W := W) setup calls
  cases hslot : (setup.final B Q W calls).slot with
  | none =>
    simp only [Standing, hslot] at hrun
    have hcount : (drainedIn (setup.history B Q W calls) ++
        reportedIn (setup.history B Q W calls)).count operation = 1 := by
      rw [← hrun.books.count_eq]
      exact List.count_eq_one_of_mem hrun.distinct haccepted
    refine ⟨?_, fun _ => hcount, fun s hs => by cases hs⟩
    rw [SlotWorld.pending, hslot, List.append_nil, hcount]
  | some s =>
    simp only [Standing, hslot] at hrun
    obtain ⟨e, howns, hs⟩ := hrun
    obtain ⟨ids, hstocked, hperm⟩ := hs.books
    have hpending : (setup.final B Q W calls).pending = s.undrained := by
      rw [SlotWorld.pending, hslot]
      simp only [hstocked.shelved.spare, List.append_nil, undrained]
    have hbooks := hperm.trans (hstocked.books.append_left _)
    have hcount : (drainedIn (setup.history B Q W calls) ++ (s.undrained ++ e.owing)).count
        operation = 1 := by
      rw [← hbooks.count_eq]
      exact List.count_eq_one_of_mem hs.distinct.of_append_left haccepted
    rw [hpending, hs.unreported, List.append_nil]
    rw [← List.append_assoc, List.count_append] at hcount
    refine ⟨by omega, fun h => (by cases h), fun s' hs' hphase => ?_⟩
    cases hs'
    have hidle : e.lane = [] := howns.wf.idle (by rw [← howns.core.policy.phase]; exact hphase)
    have hnone : e.owing = [] := by rw [Epoch.owing, hidle]; rfl
    rw [hnone, List.count_nil] at hcount
    omega

theorem slot_settles_exactly_once_sample :
    let calls := sampleSlotCalls ++ [.recover .readiness]
    ⟨0⟩ ∈ takenIn (SlotSetup.sample.history Counted ListBatch ListTimers calls) ∧
    (drainedIn (SlotSetup.sample.history Counted ListBatch ListTimers calls) ++
      reportedIn (SlotSetup.sample.history Counted ListBatch ListTimers calls)).count ⟨0⟩ = 1 := by
  have haccepted : ⟨0⟩ ∈ takenIn (SlotSetup.sample.history Counted ListBatch ListTimers
      (sampleSlotCalls ++ [.recover .readiness])) := by decide +kernel
  exact ⟨haccepted, (slot_settles_exactly_once SlotSetup.sample _ ⟨0⟩ haccepted).2.1 rfl⟩

end Bornera.Slot
