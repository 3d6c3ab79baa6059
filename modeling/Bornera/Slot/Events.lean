import Bornera.Slot.Closing

/-!
# The lifecycle events of a slot

Over its whole life a slot tells at most four events, in one order: the transport was opened,
admission was opened, the epoch is closing, the epoch is closed. Establishment, admission, the
interpretation of effects and settlement publish them, and an event that finds no room goes to a
second batch while the slot fails. An `Account` is what has been told so far.
-/

namespace Bornera.Slot

open Bornera.Core Bornera.Core.Epoch Lib ConnectionSlot

variable {B D C R E T : Type} {Q W : Type → Type} [ByteBudget B] [FrameDecoder D R E] [Retained R]
  [InboundClassifier C R] [EventBatch Q] [TimerQueue W] [SlotTransport T]

/-! ### Accounts -/

/-- The edges of the lifecycle of an epoch. -/
inductive Edge where
  | transportOpened | admissionOpened
  | closing (reason : CloseReason)
  | closed (reason : CloseReason)
  deriving DecidableEq, Repr

def ConnectionEvent.edge : ConnectionEvent → Edge
  | .transportOpened _ _ => .transportOpened
  | .admissionOpened _ _ => .admissionOpened
  | .closing _ _ reason => .closing reason
  | .closed _ _ reason => .closed reason

def ConnectionEvent.epoch : ConnectionEvent → ConnectionEpoch
  | .transportOpened _ epoch => epoch
  | .admissionOpened _ epoch => epoch
  | .closing _ epoch _ => epoch
  | .closed _ epoch _ => epoch

/-- The edges an epoch has passed: admission opens after the transport, and a close is
confirmed after it began. -/
structure Account where
  opened : Bool
  admitted : Bool
  closing : Option CloseReason
  closed : Bool
  admitted_opened : admitted = true → opened = true
  closed_closing : closed = true → closing.isSome = true

namespace Account

/-- The edges in their order; a close is confirmed with the reason it began with. -/
def edges (a : Account) : List Edge :=
  (if a.opened then [.transportOpened] else []) ++
    (if a.admitted then [.admissionOpened] else []) ++
    match a.closing with
    | none => []
    | some reason => .closing reason :: if a.closed then [.closed reason] else []

def new : Account := ⟨false, false, none, false, fun h => h, fun h => h⟩

lemma edges_length_le (a : Account) : a.edges.length ≤ 4 := by
  obtain ⟨opened, admitted, closing, closed, _, _⟩ := a
  cases opened <;> cases admitted <;> cases closing <;> cases closed <;> simp [edges]

variable {a : Account}

lemma closed_of_closing (h : a.closing = none) : a.closed = false := by
  cases hclosed : a.closed with
  | false => rfl
  | true =>
    have hsome := a.closed_closing hclosed
    rw [h] at hsome
    cases hsome

/-- The transport opens. -/
lemma open_transport (hopened : a.opened = false) (hclosing : a.closing = none) :
    ∃ b : Account, b.edges = a.edges ++ [.transportOpened] ∧ b.opened = true ∧
      b.admitted = a.admitted ∧
      b.closing = a.closing ∧ b.closed = a.closed := by
  have hadmitted : a.admitted = false := by
    cases h : a.admitted with
    | false => rfl
    | true => rw [a.admitted_opened h] at hopened; cases hopened
  refine ⟨{ a with opened := true, admitted_opened := fun _ => rfl }, ?_, rfl, rfl, rfl, rfl⟩
  simp [edges, hopened, hadmitted, hclosing]

/-- Admission opens. -/
lemma open_admission (hopened : a.opened = true) (hadmitted : a.admitted = false)
    (hclosing : a.closing = none) :
    ∃ b : Account, b.edges = a.edges ++ [.admissionOpened] ∧ b.opened = true ∧
      b.closing = a.closing ∧ b.closed = a.closed := by
  refine ⟨{ a with admitted := true, admitted_opened := fun _ => hopened }, ?_, hopened, rfl, rfl⟩
  simp [edges, hopened, hadmitted, hclosing]

/-- A close begins. -/
lemma begin_close (hclosing : a.closing = none) (reason : CloseReason) :
    ∃ b : Account, b.edges = a.edges ++ [.closing reason] ∧ b.opened = a.opened ∧
      b.admitted = a.admitted ∧
      b.closing = some reason ∧ b.closed = false := by
  have hclosed := closed_of_closing hclosing
  refine ⟨{ a with closing := some reason, closed_closing := fun _ => rfl }, ?_, rfl, rfl,
    rfl, hclosed⟩
  simp [edges, hclosing, hclosed]

/-- A close is confirmed. -/
lemma confirm_close {reason : CloseReason} (hclosing : a.closing = some reason)
    (hclosed : a.closed = false) :
    ∃ b : Account, b.edges = a.edges ++ [.closed reason] ∧ b.opened = a.opened ∧
      b.admitted = a.admitted ∧
      b.closing = a.closing ∧ b.closed = true := by
  refine ⟨{ a with closed := true, closed_closing := fun _ => by rw [hclosing]; rfl }, ?_, rfl,
    rfl, rfl, rfl⟩
  simp [edges, hclosing, hclosed]

end Account

/-- The events of an epoch tell an account, numbered from one. -/
structure Recites (home : ConnectionEpoch) (events : List ConnectionEvent)
    (a : Account) : Prop where
  edges : events.map ConnectionEvent.edge = a.edges
  numbered : events.map ConnectionEvent.sequence = List.range' 1 events.length
  home : ∀ event ∈ events, event.epoch = home

variable {home : ConnectionEpoch} {events : List ConnectionEvent} {a : Account}

lemma recites_nil (home : ConnectionEpoch) : Recites home [] .new :=
  ⟨rfl, rfl, fun _ h => by cases h⟩

lemma Recites.snoc (h : Recites home events a) {event : ConnectionEvent} {b : Account}
    (hedges : b.edges = a.edges ++ [event.edge]) (hsequence : event.sequence = events.length + 1)
    (hhome : event.epoch = home) : Recites home (events ++ [event]) b := by
  refine ⟨?_, ?_, ?_⟩
  · rw [List.map_append, h.edges, hedges]
    rfl
  · rw [List.map_append, h.numbered, List.length_append, List.length_singleton,
      List.range'_1_concat, List.map_singleton,
      hsequence, Nat.add_comm]
  · exact List.forall_mem_append.mpr ⟨h.home, List.forall_mem_singleton.mpr hhome⟩

lemma Recites.length_le (h : Recites home events a) : events.length ≤ 4 := by
  rw [← List.length_map (f := ConnectionEvent.edge), h.edges]
  exact a.edges_length_le

/-! ### Publication -/

/-- The events of a slot that nobody has drained. -/
def ConnectionSlot.untold (s : ConnectionSlot B D C R Q W) : List ConnectionEvent :=
  EventBatch.contents s.lifecycle ++ EventBatch.contents s.recoveryEvents

/-- The failures of a publication that loses an event. -/
def Loses (error : EngineError) : Prop :=
  error = .invariant .recoveryLifecyclePublication ∨ error = .invariant .eventSequenceExhausted

lemma loses_of_ofEffect {error : EngineError} (h : error.ofEffect = true) : ¬Loses error := by
  rintro (rfl | rfl) <;> cases h

lemma loses_of_outside {error : EngineError} (h : error.outside = true) : ¬Loses error := by
  rintro (rfl | rfl) <;> cases h

variable {s s' : ConnectionSlot B D C R Q W} {e e' : Epoch OutboundFrame}
  {past : List ConnectionEvent}

/-- The batches of a slot that has not failed, after the events `past` were drained. -/
structure Ready (past : List ConnectionEvent) (s : ConnectionSlot B D C R Q W) : Prop where
  spare : EventBatch.contents s.recoveryEvents = []
  limits : EventBatch.limits s.recoveryEvents = s.limits.recoveryLifecycle
  sequence : s.eventSequence = (past ++ EventBatch.contents s.lifecycle).length

/-- What a publication does: the event is in one of the batches, and only a
full first batch fails. -/
structure Publishes (s : ConnectionSlot B D C R Q W) (event : ConnectionEvent)
    (result : Except EngineError Unit) (s' : ConnectionSlot B D C R Q W) : Prop where
  untold : s'.untold = s.untold ++ [event]
  ok : result = .ok () → EventBatch.contents s'.recoveryEvents = [] ∧
    s'.eventSequence = event.sequence ∧
    EventBatch.contents s'.lifecycle = EventBatch.contents s.lifecycle ++ [event]
  limits : EventBatch.limits s'.recoveryEvents = EventBatch.limits s.recoveryEvents
  error : ∀ error, result = .error error → error = .invariant .lifecyclePublication

section
omit [ByteBudget B] [Retained R] [InboundClassifier C R] [TimerQueue W]

lemma publishEvent_publishes {event : ConnectionEvent} (hready : Ready past s) :
    Publishes s event (publishEvent event s).1 (publishEvent event s).2 := by
  by_cases hroom : (EventBatch.contents s.lifecycle).length <
    (EventBatch.limits s.lifecycle).maxEvents ∧
      retainedSum (EventBatch.contents s.lifecycle) + Retained.retainedBytes event ≤
        (EventBatch.limits s.lifecycle).maxRetainedBytes
  · obtain ⟨hok, hcontents, _⟩ := EventBatch.push_fits s.lifecycle event hroom.1 hroom.2
    have hrun : publishEvent event s =
        (.ok (), { s with
          lifecycle := (EventBatch.tryPush s.lifecycle event).2,
          eventSequence := event.sequence }) := by
      unfold publishEvent
      cases hpush : EventBatch.tryPush s.lifecycle event with
      | mk result lifecycle =>
      rw [hpush] at hok
      cases hok
      rfl
    rw [hrun]
    refine ⟨?_, fun _ => ⟨hready.spare, rfl, hcontents⟩, rfl, fun error h => by cases h⟩
    simp only [untold, hcontents, hready.spare, List.append_nil]
  · obtain ⟨herror, hcontents, _⟩ := EventBatch.push_full s.lifecycle event hroom
    have hspare : (EventBatch.contents s.recoveryEvents).length <
        (EventBatch.limits s.recoveryEvents).maxEvents := by
      rw [hready.spare, hready.limits]
      exact Nat.lt_of_lt_of_le (by decide) (Nat.le_max_right _ 4)
    have hbytes : retainedSum (EventBatch.contents s.recoveryEvents) +
      Retained.retainedBytes event ≤
        (EventBatch.limits s.recoveryEvents).maxRetainedBytes := by
      rw [hready.spare]
      exact Nat.zero_le _
    obtain ⟨hok, hrecovery, hlimits⟩ := EventBatch.push_fits s.recoveryEvents event hspare hbytes
    have hrun : publishEvent event s =
        (.error (.invariant .lifecyclePublication), { s with
          lifecycle := (EventBatch.tryPush s.lifecycle event).2
          eventSequence := event.sequence
          recoveryEvents := (EventBatch.tryPush s.recoveryEvents event).2 }) := by
      unfold publishEvent
      cases hpush : EventBatch.tryPush s.lifecycle event with
      | mk result lifecycle =>
      rw [hpush] at herror
      cases herror
      simp only
      cases hspared : EventBatch.tryPush s.recoveryEvents event with
      | mk result' recovery =>
      rw [hspared] at hok
      cases hok
      rfl
    rw [hrun]
    refine ⟨?_, fun h => (by cases h), hlimits, fun error h => by cases h; rfl⟩
    simp only [untold, hcontents, hrecovery, List.append_assoc]

/-- A publication numbers its event with the next number. -/
lemma publishNext_publishes (event : ℕ → ConnectionEpoch → ConnectionEvent) (hready : Ready past s)
    (hle : s.eventSequence ≤ 4) :
    Publishes s (event (s.eventSequence + 1) s.epoch) (publishNext event s).1
      (publishNext event s).2 := by
  have hnext : checkedAdd s.eventSequence 1 = some (s.eventSequence + 1) := by
    rw [checkedAdd, if_pos]
    exact (Nat.succ_le_succ hle).trans (by decide)
  rw [publishNext_run, hnext]
  exact publishEvent_publishes hready

end

/-! ### What a slot has told -/

/-- The events of a slot tell an account, whose close has the reason of the core. -/
def Tells (past : List ConnectionEvent) (s : ConnectionSlot B D C R Q W)
    (e : Epoch OutboundFrame) : Prop :=
  ∃ a : Account, Recites e.epoch (past ++ s.untold) a ∧
    ∀ reason ∈ a.closing, e.closeReason = some reason

/-- The events of a slot that has not failed tell exactly how far it has come. -/
structure Abreast (past : List ConnectionEvent) (s : ConnectionSlot B D C R Q W)
    (e : Epoch OutboundFrame) : Prop where
  ready : Ready past s
  account : ∃ a : Account, Recites e.epoch (past ++ EventBatch.contents s.lifecycle) a ∧
    a.closing = e.closeReason ∧
    (a.closed = true ↔ e.phase = .closed) ∧ (s.transportState = .connecting → a.opened = false) ∧
    (s.transportState = .opened → a.opened = true) ∧ (e.gate = .sessionOnly → a.admitted = false)

section
omit [ByteBudget B] [Retained R] [InboundClassifier C R] [TimerQueue W]

lemma Ready.untold_eq (h : Ready past s) : s.untold = EventBatch.contents s.lifecycle := by
  rw [untold, h.spare, List.append_nil]

lemma Abreast.tells (h : Abreast past s e) : Tells past s e := by
  obtain ⟨a, hrecites, hreason, _⟩ := h.account
  refine ⟨a, by rw [h.ready.untold_eq]; exact hrecites, fun reason hmem => ?_⟩
  rw [← hreason]
  exact hmem

lemma Tells.congr (h : Tells past s e) (huntold : s'.untold = s.untold)
    (hepoch : e'.epoch = e.epoch)
    (hreason : ∀ reason, e.closeReason = some reason → e'.closeReason = some reason) :
    Tells past s' e' := by
  obtain ⟨a, hrecites, hclose⟩ := h
  refine ⟨a, ?_, fun reason hmem => hreason reason (hclose reason hmem)⟩
  rw [huntold, hepoch]
  exact hrecites

lemma Ready.congr (h : Ready past s) (hl : s'.lifecycle = s.lifecycle)
    (hr : s'.recoveryEvents = s.recoveryEvents) (hn : s'.eventSequence = s.eventSequence)
    (hlimits : s'.limits = s.limits) : Ready past s' :=
  ⟨by rw [hr]; exact h.spare, by rw [hr, hlimits]; exact h.limits, by rw [hn, hl]; exact h.sequence⟩

end

/-- The edge of an event, which has the number and the epoch it is given. -/
def Names (event : ℕ → ConnectionEpoch → ConnectionEvent) (edge : Edge) : Prop :=
  ∀ n home, (event n home).edge = edge ∧ (event n home).sequence = n ∧ (event n home).epoch = home

section
omit [ByteBudget B] [Retained R] [InboundClassifier C R] [TimerQueue W]

/-- **What the publication of one event leaves.** -/
lemma Ready.publishNext (event : ℕ → ConnectionEpoch → ConnectionEvent) (edge : Edge)
    (e' : Epoch OutboundFrame) (hnames : Names event edge) {a b : Account}
    (h : Ready past s) (hrecites : Recites e.epoch (past ++ EventBatch.contents s.lifecycle) a)
    (hs : s.epoch = e.epoch) (hedges : b.edges = a.edges ++ [edge]) (hepoch : e'.epoch = e.epoch)
    (hreason : ∀ reason ∈ b.closing, e'.closeReason = some reason) :
    Tells past (ConnectionSlot.publishNext event s).2 e' ∧
      ((ConnectionSlot.publishNext event s).1 = .ok () →
        Ready past (ConnectionSlot.publishNext event s).2 ∧
        Recites e'.epoch (past ++
          EventBatch.contents (ConnectionSlot.publishNext event s).2.lifecycle) b) ∧
      ∀ error, (ConnectionSlot.publishNext event s).1 = .error error → ¬Loses error := by
  obtain ⟨hedge, hsequence, hhome⟩ := hnames (s.eventSequence + 1) s.epoch
  have hle : s.eventSequence ≤ 4 := by
    rw [h.sequence]
    exact hrecites.length_le
  have hpub : Publishes s _ _ _ := publishNext_publishes event h hle
  have hlimits := (fixed_publish event s).limits
  generalize ConnectionSlot.publishNext event s = published at hpub hlimits ⊢
  have hsnoc : Recites e'.epoch
      (past ++ EventBatch.contents s.lifecycle ++ [event (s.eventSequence + 1) s.epoch]) b := by
    rw [hepoch]
    refine hrecites.snoc (by rw [hedges, hedge]) (by rw [hsequence, h.sequence]) (hhome.trans hs)
  rw [List.append_assoc] at hsnoc
  refine ⟨⟨b, ?_, hreason⟩, fun hok => ?_, fun error herror => ?_⟩
  · rw [hpub.untold, h.untold_eq]
    exact hsnoc
  · obtain ⟨hspare, hnumber, hcontents⟩ := hpub.ok hok
    refine ⟨⟨hspare, ?_, ?_⟩, ?_⟩
    · rw [hpub.limits, hlimits]
      exact h.limits
    · rw [hnumber, hcontents, hsequence, h.sequence]
      simp [Nat.add_assoc]
    · rw [hcontents]
      exact hsnoc
  · rw [hpub.error error herror]
    rintro (h | h) <;> cases h

lemma Ready.booked (h : Ready past s) (hbooked : Booked s s') : Ready past s' :=
  h.congr (by rw [hbooked]) (by rw [hbooked]) (by rw [hbooked]) (by rw [hbooked])

lemma Abreast.sequence_le (h : Abreast past s e) : s.eventSequence ≤ 4 := by
  obtain ⟨a, hrecites, _⟩ := h.account
  rw [h.ready.sequence]
  exact hrecites.length_le

/-- A slot that is abreast of its core loses no event. -/
lemma Ready.loses_none {event : ℕ → ConnectionEpoch → ConnectionEvent} (h : Ready past s)
    (hle : s.eventSequence ≤ 4) {error : EngineError}
    (herror : (ConnectionSlot.publishNext event s).1 = .error error) : ¬Loses error := by
  have hpub : Publishes s _ _ _ := publishNext_publishes event h hle
  rw [hpub.error error herror]
  rintro (h | h) <;> cases h

end

section
omit [ByteBudget B] [InboundClassifier C R]

lemma Abreast.interpret_error {X : Type}
    {outcomeOf : OperationOutcome X → Except EngineInvariant (OperationOutcome R)}
    (hof : Legible outcomeOf) {tr : ConnectionTransition X} (h : Abreast past s e)
    {error : EngineError}
    (herror : (ConnectionSlot.interpret outcomeOf tr s).1 = .error error) : ¬Loses error := by
  have hbooked := booked_effects outcomeOf tr.effects none none s
  have heffects : ∀ error ∈ (interpretEffects outcomeOf tr.effects none none s).2.1, ¬Loses error :=
    (effects_rule (I := fun _ _ => True) (P := fun error => ¬Loses error)
      (fun effect _ s _ =>
        ⟨fun error he => loses_of_ofEffect (effect_error hof effect s error he), trivial⟩)
          tr.effects none
      trivial (fun _ he => by cases he)).1
  refine finishClose_forall (P := fun error => ¬Loses error) heffects (fun reason error hpub => ?_)
    ?_ error (interpret_fault herror)
  · exact (h.ready.booked hbooked).loses_none (by rw [hbooked]; exact h.sequence_le) hpub
  · rintro (h | h) <;> cases h

/-- An interpretation keeps a slot abreast of its core, and loses no event. -/
theorem Abreast.interpret {X : Type}
    {outcomeOf : OperationOutcome X → Except EngineInvariant (OperationOutcome R)}
    (hof : Legible outcomeOf) {tr : ConnectionTransition X} (h : Abreast past s e)
    (hphase : InPhase s e e.phase) (hw : e.Wf) (hs : s.epoch = e.epoch)
    (hepoch : e'.epoch = e.epoch) (hforward : e.Forward e')
    (hcloses : closings tr.effects = [] ∧ e'.phase = e.phase ∧ e'.closeReason = e.closeReason ∨
      ∃ reason, closings tr.effects = [reason] ∧ e.phase = .live ∧ e'.phase = .closing ∧
        e'.closeReason = some reason) :
    Tells past (ConnectionSlot.interpret outcomeOf tr s).2 e' ∧
      ((ConnectionSlot.interpret outcomeOf tr s).1 = .ok () →
        Abreast past (ConnectionSlot.interpret outcomeOf tr s).2 e') ∧
      ∀ error, (ConnectionSlot.interpret outcomeOf tr s).1 = .error error → ¬Loses error := by
  obtain ⟨a, hrecites, hclosing, hclosed, hconnecting, hopened, hgate⟩ := h.account
  rcases hcloses with ⟨hnone, hsame, hreason⟩ | ⟨reason, hone, hlive, hafter, hreason⟩
  · have hbooked : Booked s (ConnectionSlot.interpret outcomeOf tr s).2 := interpret_open hnone s
    refine ⟨h.tells.congr ?_ hepoch hforward.reason, fun _ =>
      ⟨h.ready.booked hbooked, a, ?_, ?_, ?_, ?_, ?_, ?_⟩,
      fun error => h.interpret_error hof⟩
    · rw [hbooked]
      rfl
    · rw [hbooked, hepoch]
      exact hrecites
    · rw [hclosing, hreason]
    · rw [hclosed, hsame]
    · rw [hbooked]
      exact hconnecting
    · rw [hbooked]
      exact hopened
    · exact fun hg => hgate (hforward.sessionOnly hg)
  · rw [hlive] at hphase
    have hunclosed : a.closing = none := hclosing.trans (hw.reason.mp hlive)
    obtain ⟨b, hedges, hbopened, hbadmitted, hbclosing, hbclosed⟩ := a.begin_close hunclosed reason
    obtain ⟨s₁, hbooked, hslot, hpublished⟩ := interpret_close outcomeOf hone hphase.1
    have hrecites₁ : Recites e.epoch (past ++ EventBatch.contents s₁.lifecycle) a := by
      rw [hbooked]
      exact hrecites
    have hs₁ : s₁.epoch = e.epoch := by
      rw [hbooked]
      exact hs
    obtain ⟨htells, hok, _⟩ := Ready.publishNext (.closing · · reason) (.closing reason) e'
      (fun _ _ => ⟨rfl, rfl, rfl⟩) (h.ready.booked hbooked) hrecites₁ hs₁ hedges hepoch
          fun reason' hmem => by
        rw [hbclosing] at hmem
        rw [hreason, Option.mem_def.mp hmem]
    refine ⟨?_, fun hran => ?_, fun error => h.interpret_error hof⟩
    · rw [hslot]
      exact htells.congr rfl rfl fun _ h => h
    · obtain ⟨hready, hrecites'⟩ := hok (hpublished hran).1
      rw [hslot]
      refine ⟨hready.congr rfl rfl rfl rfl, b, hrecites', ?_, ?_, ?_, ?_, ?_⟩
      · rw [hbclosing, hreason]
      · rw [hbclosed, hafter]
        simp
      · exact fun hstate => by cases hstate
      · exact fun hstate => by cases hstate
      · rw [hbadmitted]
        exact fun hg => hgate (hforward.sessionOnly hg)

end

/-! ### Moves -/

variable {permits : List OperationPermit} {cause : SlotCall T}

omit [ByteBudget B] [Retained R] [InboundClassifier C R] [TimerQueue W] in
lemma Abreast.congr (h : Abreast past s e) (hl : s'.lifecycle = s.lifecycle)
    (hr : s'.recoveryEvents = s.recoveryEvents) (hn : s'.eventSequence = s.eventSequence)
    (hlimits : s'.limits = s.limits) (hstate : s'.transportState = s.transportState) :
    Abreast past s' e := by
  refine ⟨h.ready.congr hl hr hn hlimits, ?_⟩
  rw [hl, hstate]
  exact h.account

/-- What a scene has told: a scene without a failure is abreast of its core, and no failure lost an
event. -/
structure SceneTold (past : List ConnectionEvent) (a : Scene B D C R Q W T) : Prop where
  tells : Tells past a.slot a.epoch
  abreast : a.fault = none → a.epoch.poisoned = none ∧ InPhase a.slot a.epoch a.epoch.phase ∧
    Abreast past a.slot a.epoch
  kept : ∀ error ∈ a.fault, ¬Loses error

/-- What the opening of admission does to an epoch. -/
lemma openAdmission_applied {epoch : ConnectionEpoch} {tr : ConnectionTransition Unit}
    (h : Step e (.apply (.openAdmission epoch)) (.transition (.ok tr)) e')
    (happlied : tr.disposition = .applied) :
    e.phase = .live ∧ e.gate = .sessionOnly ∧ e' = { e with gate := .opened } := by
  cases h with
  | ignored _ _ nothing _ =>
    rw [happlied] at nothing
    exact nothing.elim
  | opened _ live gate => exact ⟨live, gate, rfl⟩
  | removed _ _ _ _ removes => cases removes
  | closed _ _ closes => cases closes

/-- A failure of the core loses no event. -/
lemma loses_core (source : ConnectionCoreError) :
    ∀ error ∈ some (EngineError.core source), ¬Loses error := by
  intro error he
  cases he
  rintro (h | h) <;> cases h

section
omit [ByteBudget B] [Retained R] [InboundClassifier C R] [TimerQueue W]

/-- Opening the transport is told. -/
lemma Abreast.openTransport (h : Abreast past s e) (hs : s.epoch = e.epoch)
    (hlive : e.closeReason = none) (hconnecting : s.transportState = .connecting) :
    Tells past (publishTransportOpened { s with transportState := .opened }).2 e ∧
      ((publishTransportOpened { s with transportState := .opened }).1 = .ok () →
        Abreast past (publishTransportOpened { s with transportState := .opened }).2 e) ∧
      ∀ error, (publishTransportOpened { s with transportState := .opened }).1 = .error error →
          ¬Loses error := by
  obtain ⟨a, hrecites, hclosing, hclosed, hunopened, _, hgate⟩ := h.account
  obtain ⟨b, hedges, hbopened, hbadmitted, hbclosing, hbclosed⟩ :=
    a.open_transport (hunopened hconnecting) (hclosing.trans hlive)
  have hready : Ready past { s with transportState := .opened } := h.ready.congr rfl rfl rfl rfl
  obtain ⟨htells, hok, herror⟩ := hready.publishNext .transportOpened .transportOpened e
    (fun _ _ => ⟨rfl, rfl, rfl⟩) hrecites hs hedges rfl fun reason hmem => by
      rw [hbclosing, hclosing] at hmem
      exact hmem
  refine ⟨htells, fun hpub => ?_, herror⟩
  obtain ⟨hready', hrecites'⟩ := hok hpub
  refine ⟨hready', b, hrecites', hbclosing.trans hclosing, by rw [hbclosed]; exact hclosed, ?_,
    fun _ => hbopened, by rw [hbadmitted]; exact hgate⟩
  rw [publishTransportOpened, publishNext_frame]
  exact fun hstate => by cases hstate

/-- Opening admission is told. -/
lemma Abreast.openAdmission (h : Abreast past s e) (hs : s.epoch = e.epoch)
    (hlive : e.closeReason = none) (hopened : s.transportState = .opened)
    (hgate : e.gate = .sessionOnly) :
    Tells past (publishAdmissionOpened s).2 { e with gate := .opened } ∧
      ((publishAdmissionOpened s).1 = .ok () →
        Abreast past (publishAdmissionOpened s).2 { e with gate := .opened }) ∧
      ∀ error, (publishAdmissionOpened s).1 = .error error → ¬Loses error := by
  obtain ⟨a, hrecites, hclosing, hclosed, _, hisopen, hunadmitted⟩ := h.account
  obtain ⟨b, hedges, hbopened, hbclosing, hbclosed⟩ :=
    a.open_admission (hisopen hopened) (hunadmitted hgate) (hclosing.trans hlive)
  obtain ⟨htells, hok, herror⟩ :=
    h.ready.publishNext .admissionOpened .admissionOpened { e with gate := .opened }
    (fun _ _ => ⟨rfl, rfl, rfl⟩) hrecites hs hedges rfl fun reason hmem => by
      rw [hbclosing, hclosing] at hmem
      exact hmem
  refine ⟨htells, fun hpub => ?_, herror⟩
  obtain ⟨hready', hrecites'⟩ := hok hpub
  refine ⟨hready', b, hrecites', hbclosing.trans hclosing, by rw [hbclosed]; exact hclosed, ?_,
    fun _ => hbopened, fun hg => by cases hg⟩
  rw [publishAdmissionOpened, publishNext_frame]
  exact fun hstate => by rw [hopened] at hstate; cases hstate

end

/-- **A move tells at most the event it publishes.** -/
theorem Move.sceneTold {a b : Scene B D C R Q W T} (h : Move permits cause a b)
    (ha : Owns permits a.slot a.epoch) (hi : SceneTold past a) : SceneTold past b := by
  have hphased := h.inPhase ha fun hnone => ⟨(hi.abreast hnone).1, (hi.abreast hnone).2.1⟩
  suffices hsuff : Tells past b.slot b.epoch ∧ (b.fault = none → Abreast past b.slot b.epoch) ∧
    ∀ error ∈ b.fault, ¬Loses error from
    ⟨hsuff.1, fun hnone => ⟨(hphased hnone).1, (hphased hnone).2, hsuff.2.1 hnone⟩, hsuff.2.2⟩
  cases h using Move.casesAside with
  | @exchange s t t' e e' call tr f core occasion step holds =>
    obtain ⟨_, hphase, habreast⟩ := hi.abreast rfl
    have hframe := occasion.frame { s with core }
    have hs : (f { s with core }).epoch = e.epoch := by
      rw [hframe]
      exact holds.core.policy.epoch.trans step.epoch_eq
    have hf : Abreast past (f { s with core }) e :=
      habreast.congr (by rw [hframe]) (by rw [hframe]) (by rw [hframe]) (by rw [hframe])
        (by rw [hframe])
    obtain ⟨htells, hok, herror⟩ :=
      hf.interpret legible_unit (occasion.inPhase step hphase) ha.wf hs step.epoch_eq
      (step.forward ha.wf) (step.closes ha.wf fun epoch => occasion.unconfirming epoch)
    exact ⟨htells, fun hnone => hok (ok_of_fault hnone), fun error he => herror error (fault_eq he)⟩
  | @refused s t t' e e' call source f core occasion step holds =>
    refine ⟨hi.tells.congr ?_ step.epoch_eq (step.forward ha.wf).reason, fun hnone =>
      (by cases hnone), loses_core source⟩
    dsimp only [untold]
    rw [occasion.frame]
  | @replied s t e e' frame key tr decoder classifier core next small keyed step holds =>
    obtain ⟨_, hphase, habreast⟩ := hi.abreast rfl
    have hs : ({ s with core, decoder, classifier } : ConnectionSlot B D C R Q W).epoch = e.epoch :=
      holds.core.policy.epoch.trans step.epoch_eq
    have hf : Abreast past { s with core, decoder, classifier } e :=
      habreast.congr rfl rfl rfl rfl rfl
    obtain ⟨htells, hok, herror⟩ :=
      hf.interpret legible_reply (hphase.congr rfl hphase.undrained rfl rfl) ha.wf hs
      step.epoch_eq (step.forward ha.wf) (step.closes ha.wf fun epoch => by simp)
    exact ⟨htells, fun hnone => hok (ok_of_fault hnone), fun error he => herror error (fault_eq he)⟩
  | replyRefused next small keyed step holds =>
    exact ⟨hi.tells.congr rfl step.epoch_eq (step.forward ha.wf).reason, fun hnone =>
      (by cases hnone), loses_core _⟩
  | fronted step holds =>
    exact ⟨hi.tells.congr rfl step.epoch_eq (step.forward ha.wf).reason, fun hnone =>
      (by cases hnone), loses_core _⟩
  | @admitted s t e e' core tr opened applied step holds =>
    obtain ⟨_, hphase, habreast⟩ := hi.abreast rfl
    have hs : ({ s with core } : ConnectionSlot B D C R Q W).epoch = e.epoch :=
      holds.core.policy.epoch.trans step.epoch_eq
    obtain ⟨hlive, hgate, rfl⟩ := openAdmission_applied step applied
    have hf : Abreast past { s with core } e := habreast.congr rfl rfl rfl rfl rfl
    obtain ⟨htells, hok, herror⟩ := hf.openAdmission hs (ha.wf.reason.mp hlive) opened hgate
    exact ⟨htells, fun hnone => hok (ok_of_fault hnone), fun error he => herror error (fault_eq he)⟩
  | opened s t e connecting pending open_ =>
    obtain ⟨_, hphase, habreast⟩ := hi.abreast rfl
    have hlive : e.phase = .live := hphase.live_of pending (by rw [connecting]; simp)
    obtain ⟨htells, hok, herror⟩ :=
      habreast.openTransport ha.epoch_eq (ha.wf.reason.mp hlive) connecting
    exact ⟨htells, fun hnone => hok (ok_of_fault hnone), fun error he => herror error (fault_eq he)⟩
  | quiet s t e undue =>
    refine ⟨hi.tells.congr ?_ rfl fun _ h => h, fun _ =>
      (hi.abreast rfl).2.2.congr ?_ ?_ ?_ ?_ ?_, fun _ he => by cases he⟩ <;>
      dsimp only [untold] <;> rw [popDue_frame]
  | @aside a b h beside =>
    refine ⟨hi.tells.congr ?_ (by rw [beside.epoch]) (by rw [beside.epoch]; exact fun _ h => h),
      fun hnone => ?_, fun error he => ?_⟩
    · rw [beside.slot]
      rfl
    · rw [beside.epoch]
      refine (hi.abreast (beside.healthy hnone)).2.2.congr ?_ ?_ ?_ ?_ ?_ <;> rw [beside.slot]
    · rcases beside.fault error he with hbefore | houtside
      · exact hi.kept error hbefore
      · exact loses_of_outside houtside

/-! ### Runs -/

/-- The lifecycle events handed back in a history, drained and recovered. -/
def toldIn (h : List (SlotEvent B D C R Q W T)) : List ConnectionEvent := h.flatMap (·.output.told)

omit [ByteBudget B] [Retained R] [InboundClassifier C R] [EventBatch Q] [TimerQueue W]
  [SlotTransport T] in
lemma toldIn_snoc (h : List (SlotEvent B D C R Q W T)) (ev : SlotEvent B D C R Q W T) :
    toldIn (h ++ [ev]) = toldIn h ++ ev.output.told := by
  simp [toldIn]

/-- What a slot has told after the events `past` were drained; a running one is
abreast of its core. -/
structure LifecycleTold (past : List ConnectionEvent) (s : ConnectionSlot B D C R Q W)
    (e : Epoch OutboundFrame) : Prop where
  phased : Phased s e
  tells : Tells past s e
  abreast : s.state = .running → Abreast past s e

omit [ByteBudget B] [Retained R] [InboundClassifier C R] [TimerQueue W] [SlotTransport T] in
lemma LifecycleTold.sceneTold (h : LifecycleTold past s e) (hrunning : s.state = .running)
    (t : Option T) : SceneTold past ⟨s, t, e, none⟩ := by
  obtain ⟨hhealthy, hphase⟩ := h.phased.running hrunning
  exact ⟨h.tells, fun _ => ⟨hhealthy, hphase, h.abreast hrunning⟩, fun _ he => by cases he⟩

section
omit [ByteBudget B] [Retained R] [InboundClassifier C R] [TimerQueue W]

lemma untold_latched {flt : Option EngineError} (h : Latched s flt s') : s'.untold = s.untold := by
  rw [untold, h.frame]
  rfl

lemma untold_latch (s : ConnectionSlot B D C R Q W) (reason : OwnerFailure) :
    (s.latchOwnerFailure reason).untold = s.untold := by
  rw [untold, latchOwnerFailure_frame]
  rfl

/-- The failure of a call is latched, and a slot that did not fail is abreast of its core. -/
lemma abreast_latched {flt : Option EngineError} (h : flt = none → Abreast past s e)
    (hl : Latched s flt s') (hrunning : s'.state = .running) : Abreast past s' e := by
  cases hl with
  | running => exact h rfl
  | failed error => exact absurd hrunning (latchOwnerFailure_state s _)

/-- A slot without its transport is as much abreast of its core as before. -/
lemma Abreast.released (h : Abreast past s e) (core : ConnectionCore B OutboundFrame) :
    Abreast past { s with core, transportState := .closed, closeRequest := none } e := by
  obtain ⟨a, hrecites, hclosing, hclosed, _, _, hgate⟩ := h.account
  exact ⟨h.ready.congr rfl rfl rfl rfl, a, hrecites, hclosing, hclosed, fun hstate =>
    (by cases hstate),
    fun hstate => (by cases hstate), hgate⟩

/-- The confirmation of a close is told. -/
lemma Abreast.close {reason : CloseReason} (h : Abreast past s e) (hs : s.epoch = e.epoch)
    (hreason : e.closeReason = some reason) (hphase : e.phase = .closing)
    (hstate : s.transportState = .closed) :
    Tells past (publishClosed reason s).2 { e with phase := .closed, gate := .closed } ∧
      ((publishClosed reason s).1 = .ok () →
        Abreast past (publishClosed reason s).2 { e with phase := .closed, gate := .closed }) ∧
      ∀ error, (publishClosed reason s).1 = .error error → ¬Loses error := by
  obtain ⟨a, hrecites, hclosing, hclosed, _, _, _⟩ := h.account
  have hunclosed : a.closed = false := by
    rw [Bool.eq_false_iff, Ne, hclosed, hphase]
    simp
  obtain ⟨b, hedges, _, _, hbclosing, hbclosed⟩ :=
    a.confirm_close (hclosing.trans hreason) hunclosed
  obtain ⟨htells, hok, herror⟩ :=
    h.ready.publishNext (.closed · · reason) (.closed reason)
    { e with phase := .closed, gate := .closed }
    (fun _ _ => ⟨rfl, rfl, rfl⟩) hrecites hs hedges rfl
    fun reason' hmem => by
      rw [hbclosing, hclosing] at hmem
      exact hmem
  refine ⟨htells, fun hpub => ?_, herror⟩
  obtain ⟨hready', hrecites'⟩ := hok hpub
  refine ⟨hready', b, hrecites', hbclosing.trans hclosing, by simp [hbclosed], ?_, ?_,
    fun hg => by cases hg⟩ <;>
    rw [publishClosed, publishNext_frame] <;> rw [hstate] <;> exact fun h => by cases h

end

/-- **Every call of a slot** tells at most the next event of its lifecycle, and loses none. -/
theorem LifecycleTold.step (h : LifecycleTold past s e) (howns : Owns permits s e)
    {call : SlotCall T} {r : SlotResponse R T} {permits' : List OperationPermit}
    (howns' : Owns permits' s' e') (hstep : SlotStep s e permits call r (some s') e' permits') :
    LifecycleTold (past ++ r.told) s' e' ∧ ∀ error ∈ r.error, ¬Loses error := by
  have hphased := h.phased.step howns hstep
  suffices hsuff : Tells (past ++ r.told) s' e' ∧
    (s'.state = .running → Abreast (past ++ r.told) s' e') ∧
      ∀ error ∈ r.error, ¬Loses error from ⟨⟨hphased, hsuff.1, hsuff.2.1⟩, hsuff.2.2⟩
  cases hstep using SlotStep.casesPlain with
  | @plain s e permits call r s' e' permits' hstep plain =>
    have hepoch : e'.epoch = e.epoch := by rw [plain.epoch]
    have hreason : e'.closeReason = e.closeReason := by rw [plain.epoch]
    have hrecovery : s'.recoveryEvents = s.recoveryEvents := by
      rcases plain.slot with hslot | ⟨_, _, rfl⟩
      · rw [hslot]
      · rw [latchOwnerFailure_frame]
    have hall : past ++ r.told ++ EventBatch.contents s'.lifecycle =
        past ++ EventBatch.contents s.lifecycle := by
      rw [List.append_assoc, plain.events]
    refine ⟨?_, fun hrunning => ?_, fun error he => ?_⟩
    · obtain ⟨a, hrecites, hclose⟩ := h.tells
      refine ⟨a, ?_, by rw [hreason]; exact hclose⟩
      rw [untold, hrecovery, ← List.append_assoc, hall, hepoch, List.append_assoc]
      exact hrecites
    · rcases plain.slot with hslot | ⟨_, _, rfl⟩
      · have hstate : s.state = .running := by
          rw [hslot] at hrunning
          exact hrunning
        obtain ⟨a, hrecites, hclosing, hclosed, hconnecting, hopened, hgate⟩ :=
          (h.abreast hstate).account
        have hready := (h.abreast hstate).ready
        refine ⟨⟨?_, ?_, ?_⟩, a, ?_, ?_, ?_, ?_, ?_, ?_⟩
        · rw [hrecovery]
          exact hready.spare
        · rw [hrecovery, hslot]
          exact hready.limits
        · rw [hall, hslot]
          exact hready.sequence
        · rw [hall, hepoch]
          exact hrecites
        · rw [hreason]
          exact hclosing
        · rw [plain.epoch]
          exact hclosed
        · rw [hslot]
          exact hconnecting
        · rw [hslot]
          exact hopened
        · rw [plain.epoch]
          exact hgate
      · exact absurd hrunning (latchOwnerFailure_state _ _)
    · obtain ⟨reason, rfl⟩ := plain.error error he
      rintro (h | h) <;> cases h
  | drove running guards path latched =>
    have hscene :=
      path.keeps (I := SceneTold past) howns (h.sceneTold running _) fun a b hmove ha hi =>
      hmove.sceneTold ha hi
    rw [guards.told, List.append_nil, guards.error]
    exact ⟨hscene.tells.congr (untold_latched latched) rfl fun _ h => h,
      abreast_latched (fun hnone => (hscene.abreast hnone).2.2) latched, hscene.kept⟩
  | @committed s s' e e' permits index frame operation tr core running step latched =>
    have hphase := (h.phased.running running).2
    have hcore : Abreast past { s with core } e := (h.abreast running).congr rfl rfl rfl rfl rfl
    have hs : ({ s with core } : ConnectionSlot B D C R Q W).epoch = e.epoch := by
      have hsame : s'.core = core := by
        rw [latched.frame]
        exact interpret_core ..
      have hepoch : s'.core.machine.epoch = e'.epoch := howns'.epoch_eq
      rw [hsame, step.epoch_eq] at hepoch
      exact hepoch
    have hcloses : closings tr.effects = [] ∧ e'.phase = e.phase ∧
        e'.closeReason = e.closeReason := by
      cases step
      exact ⟨rfl, rfl, rfl⟩
    obtain ⟨htells, hok, herror⟩ :=
      hcore.interpret legible_unit (hphase.congr rfl hphase.undrained rfl rfl) howns.wf hs
      step.epoch_eq (step.forward howns.wf) (.inl hcloses)
    rw [commitResult_error]
    simp only [SlotResponse.told, List.append_nil]
    exact ⟨htells.congr (untold_latched latched) rfl fun _ h =>
      h, abreast_latched (fun hnone => hok (ok_of_fault hnone)) latched,
      fun error he => herror error (fault_eq he)⟩
  | aborted e permits request =>
    simp only [SlotResponse.told, List.append_nil]
    refine ⟨h.tells.congr rfl rfl fun _ h => h, fun hrunning => ?_, fun error he => by cases he⟩
    have hphase := (h.phased.running hrunning).2
    cases hp : e.phase <;> rw [hp] at hphase <;> simp [InPhase, request] at hphase
  | @confirmed s e e' permits reason shutdown tr core request ready step published =>
    obtain ⟨hrunning, _, hphase, _, hreason⟩ := h.phased.of_core request
    have hs : core.machine.epoch = e.epoch := by
      have hepoch := howns'.epoch_eq
      rw [ConnectionSlot.epoch, publishClosed, publishNext_core, step.epoch_eq] at hepoch
      exact hepoch
    obtain ⟨htells, hok, _⟩ := ((h.abreast hrunning).released core).close hs hreason hphase rfl
    rw [howns.epoch_eq] at step
    rw [epochClosed_closed hphase step]
    simp only [SlotResponse.told, List.append_nil]
    exact ⟨htells, fun _ => hok published, fun error he => by cases he⟩
  | @unpublished s e e' permits reason shutdown tr core error request ready step published =>
    obtain ⟨hrunning, _, hphase, _, hreason⟩ := h.phased.of_core request
    have hs : core.machine.epoch = e.epoch := by
      have hepoch := howns'.epoch_eq
      rw [ConnectionSlot.epoch, abortTransport, latchOwnerFailure_frame, publishClosed,
        publishNext_core, step.epoch_eq] at hepoch
      exact hepoch
    obtain ⟨htells, _, _⟩ := ((h.abreast hrunning).released core).close hs hreason hphase rfl
    rw [howns.epoch_eq] at step
    rw [epochClosed_closed hphase step]
    simp only [SlotResponse.told, List.append_nil]
    exact ⟨htells.congr (untold_latch _ _) rfl fun _ h => h, fun hrunning =>
      absurd hrunning (latchOwnerFailure_state _ _),
      fun error he => by cases he⟩
  | @unconfirmed s e e' permits reason shutdown source core request ready step =>
    simp only [SlotResponse.told, List.append_nil]
    refine ⟨h.tells.congr ?_ step.epoch_eq (step.forward howns.wf).reason,
      fun hrunning => absurd hrunning (latchOwnerFailure_state _ _), fun error he => by cases he⟩
    rw [abortTransport, latchOwnerFailure_frame]
    rfl

omit [Retained R] [SlotTransport T] in
lemma Guards.unrecovered {call : SlotCall T} {flt : Option EngineError} {r : SlotResponse R T}
    (h : Guards call flt r) (report : RecoveryReport R) : r ≠ .recovered report := by
  cases h <;> simp

/-- A call that hands back a slot hands back no report. -/
lemma SlotStep.unrecovered {call : SlotCall T} {r : SlotResponse R T}
    {permits' : List OperationPermit} (h : SlotStep s e permits call r (some s') e' permits')
    (report : RecoveryReport R) : r ≠ .recovered report := by
  cases h with
  | asleep _ guards _ => exact guards.unrecovered report
  | drove _ guards _ _ => exact guards.unrecovered report
  | refused refuses _ => cases refuses <;> simp
  | _ => simp

/-- What a history has told while its slot is there. -/
structure Chronicle (home : ConnectionEpoch) (h : List (SlotEvent B D C R Q W T))
    (s : ConnectionSlot B D C R Q W) (e : Epoch OutboundFrame)
    (_ : List OperationPermit) : Prop where
  lifecycle : LifecycleTold (toldIn h) s e
  home : e.epoch = home
  unrecovered : ∀ ev ∈ h, ∀ report, ev.output ≠ .recovered report
  kept : ∀ ev ∈ h, ∀ error ∈ ev.output.error, ¬Loses error

/-- What a history has told once its slot is recovered. -/
structure Epilogue (home : ConnectionEpoch) (h : List (SlotEvent B D C R Q W T)) : Prop where
  account : ∃ a : Account, Recites home (toldIn h) a ∧
    ∀ ev ∈ h, ∀ s ∈ ev.before.slot, ∀ report, ev.output = .recovered report →
    ∀ reason ∈ a.closing, s.core.machine.closeReason = some reason
  kept : ∀ ev ∈ h, ∀ error ∈ ev.output.error, ¬Loses error

omit [Retained R] [InboundClassifier C R] [EventBatch Q] [TimerQueue W] in
lemma Owns.closeReason_eq (h : Owns permits s e) : s.core.machine.closeReason = e.closeReason :=
  h.core.policy.closeReason

omit [Retained R] [InboundClassifier C R] [TimerQueue W] in
/-- A recovery hands back what was never drained. -/
lemma recover_events (s : ConnectionSlot B D C R Q W) (reason : OwnerFailure) :
    (s.recover reason).events = s.untold := by
  simp only [ConnectionSlot.recover, recoverOwned, untold, (EventBatch.drain_eq s.lifecycle).1,
    (EventBatch.drain_eq s.recoveryEvents).1]

/-- Every run tells its lifecycle. -/
theorem chronicle_run (setup : SlotSetup D C R E) (calls : List (SlotCall T)) :
    Standing (Chronicle setup.config.epoch) (Epilogue setup.config.epoch)
      (setup.history B Q W calls) (setup.final B Q W calls) := by
  refine standing_run setup ?_ ?_ ?_ ?_ calls
  · have hcontents : ∀ l, EventBatch.contents (EventBatch.new l : Q ConnectionEvent) = [] :=
      EventBatch.contents_new
    have hready : Ready [] (setup.slot : ConnectionSlot B D C R Q W) := by
      refine ⟨hcontents _, EventBatch.limits_new _, ?_⟩
      simp [SlotSetup.slot, fresh, EventBatch.contents_new]
    have habreast : Abreast [] (setup.slot : ConnectionSlot B D C R Q W)
        (Epoch.new setup.config.ledgerId setup.config.epoch ⟨0, 0⟩) := by
      refine ⟨hready, .new, ?_, rfl, by simp [Account.new, Epoch.new], fun _ =>
        rfl, fun h => (by cases h), fun _ => rfl⟩
      simp only [SlotSetup.slot, fresh, hcontents, List.append_nil]
      exact recites_nil _
    exact ⟨⟨.new setup, habreast.tells, fun _ => habreast⟩, rfl, fun _ h => (by cases h),
      fun _ h => (by cases h)⟩
  · intro h s e permits call s' e' ev howns hs hstep _ _ _ howns'
    obtain ⟨htold, herror⟩ := hs.lifecycle.step howns howns' hstep
    refine ⟨by rw [toldIn_snoc]; exact htold, ?_, ?_, ?_⟩
    · exact (hstep.epoch_eq howns).trans hs.home
    · exact List.forall_mem_append.mpr
        ⟨hs.unrecovered, List.forall_mem_singleton.mpr hstep.unrecovered⟩
    · exact List.forall_mem_append.mpr ⟨hs.kept, List.forall_mem_singleton.mpr herror⟩
  · intro h s e permits ev reason howns hs hbefore _ hout _
    obtain ⟨a, hrecites, hclose⟩ := hs.lifecycle.tells
    refine ⟨⟨a, ?_, fun v hv s' hs' report hreport r hr => ?_⟩, ?_⟩
    · rw [toldIn_snoc, hout, ← hs.home]
      simp only [SlotResponse.told, recover_events]
      exact hrecites
    · rcases List.mem_append.mp hv with hv | hv
      · exact absurd hreport (hs.unrecovered v hv report)
      · rw [List.mem_singleton.mp hv, hbefore] at hs'
        cases hs'
        rw [howns.closeReason_eq]
        exact hclose r hr
    · refine List.forall_mem_append.mpr ⟨hs.kept, List.forall_mem_singleton.mpr ?_⟩
      rw [hout]
      exact fun error he => by cases he
  · intro h ev hj hgone hout
    have hquiet : ev.output.told = [] ∧ ev.output.error = none := by
      rcases hout with hout | hout <;> rw [hout] <;> exact ⟨rfl, rfl⟩
    obtain ⟨a, hrecites, hclose⟩ := hj.account
    refine ⟨⟨a, by rw [toldIn_snoc, hquiet.1, List.append_nil]; exact hrecites,
      fun v hv s' hs' report hreport r hr => ?_⟩, ?_⟩
    · rcases List.mem_append.mp hv with hv | hv
      · exact hclose v hv s' hs' report hreport r hr
      · rw [List.mem_singleton.mp hv, hgone] at hs'
        cases hs'
    · refine List.forall_mem_append.mpr ⟨hj.kept, List.forall_mem_singleton.mpr ?_⟩
      rw [hquiet.2]
      exact fun error he => by cases he

/-- The events of a slot that were not handed back yet; a recovered slot has none. -/
def SlotWorld.untold (w : SlotWorld B D C R Q W) : List ConnectionEvent :=
  w.slot.elim [] ConnectionSlot.untold

/-- **The grammar of lifecycle events.** Whatever a slot is plugged into and however it is called
and drained, the events that were drained, recovered and are still to be handed back tell an account
of one epoch: each edge at most once, in order, numbered from one, with the close reason of the
core. No call loses an event, nor could the settlement of a close. -/
theorem lifecycle_grammar (setup : SlotSetup D C R E) (calls : List (SlotCall T)) :
    (∃ a : Account,
      Recites setup.config.epoch
        (toldIn (setup.history B Q W calls) ++ (setup.final B Q W calls).untold) a ∧
      (∀ s ∈ (setup.final B Q W calls).slot, ∀ reason ∈ a.closing,
        s.core.machine.closeReason = some reason) ∧
      ∀ ev ∈ setup.history B Q W calls, ∀ s ∈ ev.before.slot, ∀ report,
        ev.output = .recovered report →
        ∀ reason ∈ a.closing, s.core.machine.closeReason = some reason) ∧
    (∀ ev ∈ setup.history B Q W calls,
      ev.output.error ≠ some (.invariant .recoveryLifecyclePublication) ∧
      ev.output.error ≠ some (.invariant .eventSequenceExhausted)) ∧
    ∀ s ∈ (setup.final B Q W calls).slot, ∀ reason shutdown,
      s.closeRequest = some (.core reason shutdown) →
      (confirmTransportClosed reason { s with closeRequest := none }).1 ≠
        .error (.invariant .recoveryLifecyclePublication) ∧
      (confirmTransportClosed reason { s with closeRequest := none }).1 ≠
          .error (.invariant .eventSequenceExhausted) := by
  have hrun := chronicle_run (B := B) (Q := Q) (W := W) setup calls
  have hkept : ∀ ev ∈ setup.history B Q W calls, ∀ error ∈ ev.output.error, ¬Loses error := by
    unfold Standing at hrun
    split at hrun
    · exact hrun.kept
    · obtain ⟨e, _, hs⟩ := hrun
      exact hs.kept
  refine ⟨?_, fun ev hev =>
    ⟨fun heq => hkept ev hev _ heq (.inl rfl), fun heq => hkept ev hev _ heq (.inr rfl)⟩, ?_⟩
  · cases hslot : (setup.final B Q W calls).slot with
    | none =>
      simp only [Standing, hslot] at hrun
      obtain ⟨a, hrecites, hclose⟩ := hrun.account
      refine ⟨a, ?_, fun s hs => (by cases hs), hclose⟩
      rw [SlotWorld.untold, hslot]
      simpa using hrecites
    | some s =>
      simp only [Standing, hslot] at hrun
      obtain ⟨e, howns, hs⟩ := hrun
      obtain ⟨a, hrecites, hclose⟩ := hs.lifecycle.tells
      refine ⟨a, ?_, fun s' hs' reason hmem => ?_, fun ev hev s' _ report hreport =>
        absurd hreport (hs.unrecovered ev hev report)⟩
      · rw [SlotWorld.untold, hslot, ← hs.home]
        exact hrecites
      · cases hs'
        rw [howns.closeReason_eq]
        exact hclose reason hmem
  · intro s hslot reason shutdown request
    unfold Standing at hrun
    rw [Option.mem_def.mp hslot] at hrun
    obtain ⟨e, howns, hs⟩ := hrun
    obtain ⟨hrunning, _⟩ := hs.lifecycle.phased.of_core request
    have hconfirm : ∀ error, (confirmTransportClosed reason { s with closeRequest := none }).1 =
        .error error → ¬Loses error := by
      intro error herror
      obtain ⟨e', core, _, ⟨tr, _, hran⟩ | ⟨source, _, hran⟩⟩ :=
        confirmTransportClosed_run howns reason
      · rw [hran] at herror
        have habreast := (hs.lifecycle.abreast hrunning).released core
        exact habreast.ready.loses_none habreast.sequence_le herror
      · rw [hran] at herror
        cases herror
        exact loses_core source _ rfl
    exact ⟨fun heq => hconfirm _ heq (.inl rfl), fun heq => hconfirm _ heq (.inr rfl)⟩

end Bornera.Slot
