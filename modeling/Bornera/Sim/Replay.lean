import Bornera.Sim.Transport
import Bornera.Sim.Wire

/-!
# Replay under virtual time

A trace is a bounded list of timed stimuli (`slot_trace.rs`). `SlotSimulator::replay`
(`slot_replay.rs`, `slot_apply.rs`) schedules all of them on a timeline, together with at most one
event for the next deadline of the slot, and delivers one event after another: it applies the
stimulus, drives the slot for one quantum, and records what came out. The loop has fuel here;
`Bornera.Sim.Progress` shows how much it needs.
-/

namespace Bornera.Sim

open Bornera.Core Slot Lib

/-! ### Timelines -/

/-- The name of a scheduled event, with its moment. -/
structure EventToken where
  sequence : ℕ
  moment : ℕ
  deriving DecidableEq, Repr

structure TimelineLimits where
  maxEvents : ℕ
  maxRetainedBytes : ℕ
  deriving DecidableEq, Repr

/-- Why an event was not scheduled. -/
inductive ScheduleFailure where
  | inPast | eventCapacity | byteCapacity
  deriving DecidableEq, Repr

structure Scheduled (α : Type) where
  token : EventToken
  event : α
  deriving DecidableEq

/-- A virtual timeline that starts at zero: an event that fits is scheduled under a token of its
own, a cancel removes exactly the event it names, and events are delivered in the order of their
moments, which the time follows. -/
class Timeline (Z : Type → Type) where
  new : {α : Type} → ℕ → TimelineLimits → Z α
  now : {α : Type} → Z α → ℕ
  scheduleAt : {α : Type} → [Retained α] → Z α → ℕ → α → Except ScheduleFailure EventToken × Z α
  cancel : {α : Type} → Z α → EventToken → Option α × Z α
  popNext : {α : Type} → Z α → Option (EventToken × α) × Z α
  pending : {α : Type} → Z α → List (Scheduled α)
  limits : {α : Type} → Z α → TimelineLimits
  new_eq : ∀ {α : Type} (id : ℕ) (l : TimelineLimits),
    pending (new id l : Z α) = [] ∧ limits (new id l : Z α) = l ∧ now (new id l : Z α) = 0
  distinct : ∀ {α : Type} (z : Z α), ((pending z).map Scheduled.token).Nodup
  schedule_fits : ∀ {α : Type} [Retained α] (z : Z α) (moment : ℕ) (a : α), now z ≤ moment →
    (pending z).length < (limits z).maxEvents →
    retainedSum ((pending z).map Scheduled.event) + Retained.retainedBytes a ≤
      (limits z).maxRetainedBytes →
    ∃ token, token.moment = moment ∧ (scheduleAt z moment a).1 = .ok token ∧
      pending (scheduleAt z moment a).2 = pending z ++ [⟨token, a⟩] ∧
        limits (scheduleAt z moment a).2 = limits z ∧
      now (scheduleAt z moment a).2 = now z
  cancel_eq : ∀ {α : Type} (z : Z α) (token : EventToken),
    pending (cancel z token).2 = (pending z).filter (·.token ≠ token) ∧
      limits (cancel z token).2 = limits z ∧
      now (cancel z token).2 = now z
  popNext_none : ∀ {α : Type} (z : Z α), pending z = [] → (popNext z).1 = none
  popNext_some : ∀ {α : Type} (z : Z α), pending z ≠ [] → ∃ next ∈ pending z,
    (∀ other ∈ pending z, next.token.moment ≤ other.token.moment) ∧
      (popNext z).1 = some (next.token, next.event) ∧
      pending (popNext z).2 = (pending z).filter (·.token ≠ next.token) ∧
        limits (popNext z).2 = limits z ∧
      now (popNext z).2 = next.token.moment

/-- A timeline as a list in the order of scheduling. Sequence numbers are counted up. -/
structure ListTimeline (α : Type) where
  bound : TimelineLimits
  time : ℕ
  next : ℕ
  events : List (Scheduled α)
  fresh : ∀ scheduled ∈ events, scheduled.token.sequence < next
  distinct : (events.map Scheduled.token).Nodup

namespace ListTimeline

variable {α : Type}

/-- The event fits on the timeline. -/
def fits [Retained α] (z : ListTimeline α) (a : α) : Bool :=
  z.events.length < z.bound.maxEvents ∧
    retainedSum (z.events.map Scheduled.event) + Retained.retainedBytes a ≤ z.bound.maxRetainedBytes

def insert (z : ListTimeline α) (moment : ℕ) (a : α) : ListTimeline α where
  bound := z.bound
  time := z.time
  next := z.next + 1
  events := z.events ++ [⟨⟨z.next, moment⟩, a⟩]
  fresh scheduled hmem := by
    rcases List.mem_append.mp hmem with hmem | hmem
    · exact Nat.lt_succ_of_lt (z.fresh scheduled hmem)
    · rw [List.mem_singleton.mp hmem]
      exact Nat.lt_succ_self _
  distinct := by
    have hfresh : ∀ scheduled ∈ z.events, scheduled.token ≠ ⟨z.next, moment⟩ :=
      fun scheduled hmem heq => by
      have hlt := z.fresh scheduled hmem
      rw [heq] at hlt
      exact lt_irrefl _ hlt
    simpa [List.nodup_append, z.distinct] using hfresh

def remove (z : ListTimeline α) (token : EventToken) : ListTimeline α where
  bound := z.bound
  time := z.time
  next := z.next
  events := z.events.filter (·.token ≠ token)
  fresh scheduled hmem := z.fresh scheduled (List.mem_of_mem_filter hmem)
  distinct := z.distinct.sublist (List.filter_sublist.map _)

/-- The first event, by moment and then by the order of scheduling. -/
def earliest (z : ListTimeline α) : Option (Scheduled α) :=
  z.events.argmin fun scheduled => scheduled.token.moment

def scheduleAt [Retained α] (z : ListTimeline α) (moment : ℕ) (a : α) :
    Except ScheduleFailure EventToken × ListTimeline α :=
  if moment < z.time then (.error .inPast, z)
  else if z.fits a then (.ok ⟨z.next, moment⟩, z.insert moment a)
  else (.error (if z.bound.maxEvents ≤ z.events.length then .eventCapacity else .byteCapacity), z)

def popNext (z : ListTimeline α) : Option (EventToken × α) × ListTimeline α :=
  match z.earliest with
  | none => (none, z)
  | some scheduled =>
    (some (scheduled.token, scheduled.event),
      { z.remove scheduled.token with time := scheduled.token.moment })

end ListTimeline

instance : Timeline ListTimeline where
  new _ l := ⟨l, 0, 0, [], fun _ h => (by cases h), List.nodup_nil⟩
  now := ListTimeline.time
  scheduleAt := ListTimeline.scheduleAt
  cancel z token := ((z.events.find? (·.token = token)).map Scheduled.event, z.remove token)
  popNext := ListTimeline.popNext
  pending := ListTimeline.events
  limits := ListTimeline.bound
  new_eq _ _ := ⟨rfl, rfl, rfl⟩
  distinct z := z.distinct
  schedule_fits z moment a hnow hcount hbytes := by
    have hfit : z.fits a = true := decide_eq_true ⟨hcount, hbytes⟩
    unfold ListTimeline.scheduleAt
    rw [if_neg (not_lt.mpr hnow), if_pos hfit]
    exact ⟨⟨z.next, moment⟩, rfl, rfl, rfl, rfl, rfl⟩
  cancel_eq _ _ := ⟨rfl, rfl, rfl⟩
  popNext_none z h := by
    unfold ListTimeline.popNext ListTimeline.earliest
    rw [h]
    rfl
  popNext_some z h := by
    unfold ListTimeline.popNext
    cases hfirst : z.earliest with
    | none => exact absurd (List.argmin_eq_none.mp hfirst) h
    | some next =>
      refine ⟨next, List.argmin_mem hfirst, fun other hmem => ?_, rfl, rfl, rfl, rfl⟩
      exact List.le_of_mem_argmin (f := fun scheduled : Scheduled _ => scheduled.token.moment)
        (a := other) hmem hfirst

/-! ### Traces -/

/-- The place of an accepted operation in a trace. -/
structure OperationIndex where
  get : ℕ
  deriving DecidableEq, Repr

/-- One stimulus. -/
inductive SlotAction where
  | connectReady
  | openAdmission
  | submit (options : OperationOptions) (frame : SimFrame)
  | writeReady (bytes : ℕ)
  | reply (operation : OperationIndex) (payload : SimFrame)
  | cancel (operation : OperationIndex)
  | beginDrain (deadline : Deadline)
  | close (reason : CloseReason)
  | peerClosed
  | settleTransport
  | drive
  | recover (reason : OwnerFailure)

def SlotAction.retainedBytes : SlotAction → ℕ
  | .submit _ frame => frame.retained
  | .reply _ payload => payload.retained
  | _ => 0

structure SlotTraceLimits where
  actions : ℕ
  retainedBytes : ℕ
  actions_pos : 0 < actions
  retained_le : retainedBytes ≤ u64Max

structure TimedSlotAction where
  moment : ℕ
  action : SlotAction

/-- A trace within its limits. -/
structure SlotTrace where
  limits : SlotTraceLimits
  actions : List TimedSlotAction
  retainedBytes : ℕ
  actions_le : actions.length ≤ limits.actions
  retained_eq : retainedBytes = (actions.map (·.action.retainedBytes)).sum
  retained_le : retainedBytes ≤ limits.retainedBytes

inductive SlotTraceAdmissionFailure where
  | actionCapacity | byteCapacity
  deriving DecidableEq, Repr

namespace SlotTrace

def new (limits : SlotTraceLimits) : SlotTrace := ⟨limits, [], 0, Nat.zero_le _, rfl, Nat.zero_le _⟩

/-- The stimulus comes back with the failure. -/
def tryPush (trace : SlotTrace) (moment : ℕ) (action : SlotAction) :
    Except (ℕ × SlotAction × SlotTraceAdmissionFailure) SlotTrace :=
  if hactions : trace.limits.actions ≤ trace.actions.length then
    .error (moment, action, .actionCapacity)
  else if u64Max < trace.retainedBytes + action.retainedBytes then
    .error (moment, action, .byteCapacity)
  else if hbytes : trace.limits.retainedBytes < trace.retainedBytes + action.retainedBytes then
    .error (moment, action, .byteCapacity)
  else
    .ok {
      limits := trace.limits
      actions := trace.actions ++ [⟨moment, action⟩]
      retainedBytes := trace.retainedBytes + action.retainedBytes
      actions_le := by
        rw [List.length_append]
        exact Nat.lt_of_not_le hactions
      retained_eq := by simp [trace.retained_eq]
      retained_le := Nat.le_of_not_lt hbytes }

end SlotTrace

/-! ### Observations -/

inductive SlotActionFailure where
  | unknownOperation (operation : OperationIndex)
  | reserve (error : ReserveError)
  | commit (failure : FrameCommitFailure)
  | owner (reason : OwnerFailure)
  | replyEncoding
  | frameEncoding
  | simulatedInputCapacity
  | slotRecovered

inductive SlotActionResult where
  | connectReady
  | admission (disposition : InputDisposition)
  | submitted (index : OperationIndex) (operation : OperationId) (matchKey : MatchKey)
  | submittedOwnerFailed (index : OperationIndex) (operation : OperationId) (matchKey : MatchKey)
    (reason : OwnerFailure)
  | writeReady (bytes : ℕ)
  | replyInjected (operation : OperationIndex)
  | cancelled (outcome : CancelOutcome)
  | drain (disposition : InputDisposition)
  | close (disposition : InputDisposition)
  | peerClosed
  | transportSettled (settled : Bool)
  | driven
  | rejected (failure : SlotActionFailure)
  | recovered

inductive SlotObservationKind where
  | action (index : ℕ) (result : SlotActionResult)
  | deadline

/-- What one event led to. -/
structure SlotStepObservation where
  moment : ℕ
  kind : SlotObservationKind
  progress : Option SlotProgress
  driveFailure : Option SlotActionFailure
  recovery : Option (RecoveryReport SimReply)
  outcomes : List (EngineOutcome SimReply)
  events : List ConnectionEvent

structure SlotReplayReport where
  observations : List SlotStepObservation
  outbound : List UInt8
  appliedPolicy : Option TcpSocketPolicy

inductive SlotReplayError where
  | timelineCapacityOverflow
  | schedule (failure : ScheduleFailure)
  | slotConstruction
  | transportConstruction

/-! ### The owner of a replay -/

/-- The production slot of a replay. -/
abbrev SimSlot (B : Type) (Q W : Type → Type) : Type :=
  ConnectionSlot B SimDecoder SimClassifier SimReply Q W

structure SlotSimulationConfig where
  slot : ConnectionSlotConfig
  limits : ConnectionSlotLimits
  timeline : ℕ

structure Accepted where
  operation : OperationId
  key : MatchKey
  deriving DecidableEq

inductive ReplayEvent where
  | action (index : ℕ) (action : SlotAction)
  | deadline

instance : Retained ReplayEvent where
  retainedBytes
    | .action _ action => action.retainedBytes
    | .deadline => 0

/-- The event is the one for the slot's deadline. -/
def ReplayEvent.isDeadline : ReplayEvent → Bool
  | .action _ _ => false
  | .deadline => true

structure ReplayOwner (B : Type) (Q W : Type → Type) where
  slot : Option (SimSlot B Q W)
  transport : SimTransport
  accepted : List Accepted
  observations : List SlotStepObservation
  recovery : Option (RecoveryReport SimReply)
  deadline : Option EventToken
  horizon : Option ℕ

variable {B : Type} {Q W Z : Type → Type} [ByteBudget B] [EventBatch Q] [TimerQueue W] [Timeline Z]

/-- An answer of the slot, or the category of its failure. -/
def answer {α : Type} (f : α → SlotActionResult) : Except EngineError α → SlotActionResult
  | .ok a => f a
  | .error error => .rejected (.owner (OwnerFailure.ofError error))

/-- Commits a frame under a permit. A commit that is not accepted gives the
permit back, and it is dropped. -/
def submit (s : SimSlot B Q W) (accepted : List Accepted) (permit : OperationPermit)
    (frame : SimFrame) :
    SlotActionResult × SimSlot B Q W × List Accepted :=
  let key := permit.reservation.matchKey
  match OutboundFrame.copyFromSlice frame.bytes with
  | .error _ => (.rejected .frameEncoding, SlotWorld.dropPermit s permit, accepted)
  | .ok outbound =>
    match s.commit permit outbound with
    | (.ok committed, s) =>
      (.submitted ⟨accepted.length⟩ committed key, s, accepted ++ [⟨permit.operation, key⟩])
    | (.error (.rejected error), s) =>
      (.rejected (.commit error.failure), SlotWorld.dropPermit s permit, accepted)
    | (.error (.acceptedOwnerFailure committed source), s) =>
      (.submittedOwnerFailed ⟨accepted.length⟩ committed key (OwnerFailure.ofError source), s,
        accepted ++ [⟨committed, key⟩])
    | (.error (.ownerFailed reason _ _), s) =>
      (.rejected (.owner reason), SlotWorld.dropPermit s permit, accepted)

namespace ReplayOwner

def applyAction (o : ReplayOwner B Q W) (now : ℕ) (action : SlotAction) :
    SlotActionResult × ReplayOwner B Q W :=
  match o.slot with
  | none => (.rejected .slotRecovered, o)
  | some s =>
    match action with
    | .connectReady => (.connectReady, { o with transport := o.transport.observeConnectReady })
    | .openAdmission =>
      (answer .admission (ConnectionSlot.openAdmission s).1,
        { o with slot := some (ConnectionSlot.openAdmission s).2 })
    | .submit options frame =>
      match s.reserve now options with
      | (.error error, s) => (.rejected (.reserve error), { o with slot := some s })
      | (.ok permit, s) =>
        let (result, s, accepted) := submit s o.accepted permit frame
        (result, { o with slot := some s, accepted })
    | .writeReady bytes => (.writeReady bytes, { o with transport := o.transport.allowWrite bytes })
    | .reply operation payload =>
      match o.accepted[operation.get]? with
      | none => (.rejected (.unknownOperation operation), o)
      | some accepted =>
        match encodeReply accepted.key payload with
        | .error _ => (.rejected .replyEncoding, o)
        | .ok encoded =>
          match o.transport.injectRead encoded with
          | (.ok (), transport) => (.replyInjected operation, { o with transport })
          | (.error (), transport) => (.rejected .simulatedInputCapacity, { o with transport })
    | .cancel operation =>
      match o.accepted[operation.get]? with
      | none => (.rejected (.unknownOperation operation), o)
      | some accepted =>
        (answer .cancelled (ConnectionSlot.cancel accepted.operation s).1,
          { o with slot := some (ConnectionSlot.cancel accepted.operation s).2 })
    | .beginDrain deadline =>
      (answer .drain (ConnectionSlot.beginDrain deadline s).1,
        { o with slot := some (ConnectionSlot.beginDrain deadline s).2 })
    | .close reason =>
      (answer .close (ConnectionSlot.finalize reason s).1,
        { o with slot := some (ConnectionSlot.finalize reason s).2 })
    | .peerClosed => (.peerClosed, { o with transport := o.transport.observePeerClosed })
    | .settleTransport =>
      if s.state.failure.isSome ∨ s.transportReleaseReady then
        (.transportSettled s.settleTransportClosed.1,
          { o with slot := some s.settleTransportClosed.2, transport := o.transport.close })
      else (.transportSettled false, o)
    | .drive => (.driven, o)
    | .recover reason =>
      (.recovered, { o with
        slot := none, transport := o.transport.close, recovery := some (s.recover reason) })

/-- One quantum of the slot, if there is one. -/
def drive (o : ReplayOwner B Q W) (now : ℕ) :
    (Option SlotProgress × Option SlotActionFailure) × ReplayOwner B Q W :=
  match o.slot with
  | none => ((none, none), o)
  | some s =>
    match ConnectionSlot.driveQuantum now (s, some o.transport) with
    | (.ok progress, s, transport) =>
      ((some progress, none), { o with slot := some s, transport := transport.getD o.transport })
    | (.error error, s, transport) =>
      ((none, some (.owner (OwnerFailure.ofError error))),
        { o with slot := some s, transport := transport.getD o.transport })

/-- What the slot has published. -/
def observe (o : ReplayOwner B Q W) :
    (List (EngineOutcome SimReply) × List ConnectionEvent) × ReplayOwner B Q W :=
  match o.slot with
  | none => (([], []), o)
  | some s =>
    ((s.drainOutcomes.1, s.drainOutcomes.2.drainEvents.1),
      { o with slot := some s.drainOutcomes.2.drainEvents.2 })

/-- What is done for the event itself. -/
def stimulate (o : ReplayOwner B Q W) (token : EventToken) :
    ReplayEvent → SlotObservationKind × ReplayOwner B Q W
  | .action index action =>
    (.action index (o.applyAction token.moment action).1, (o.applyAction token.moment action).2)
  | .deadline => (.deadline, if o.deadline = some token then { o with deadline := none } else o)

def applyEvent (o : ReplayOwner B Q W) (token : EventToken) (event : ReplayEvent) :
    ReplayOwner B Q W :=
  let (kind, o) := o.stimulate token event
  let ((progress, driveFailure), o) := o.drive token.moment
  let ((outcomes, events), o) := o.observe
  { o with
    recovery := none
    observations := o.observations ++
      [{ moment := token.moment, kind, progress, driveFailure, recovery := o.recovery,
         outcomes, events }] }

/-- The next deadline of a running slot, unless it is after the last stimulus. -/
def desired (o : ReplayOwner B Q W) : Option ℕ :=
  o.slot.bind fun s =>
    ((if s.state.failure = none then s.nextDeadline else none).map Deadline.moment).filter
      fun moment => o.horizon.any (moment ≤ ·)

def syncDeadline (o : ReplayOwner B Q W) (z : Z ReplayEvent) :
    Except SlotReplayError (ReplayOwner B Q W × Z ReplayEvent) :=
  if o.deadline.map EventToken.moment = o.desired then .ok (o, z)
  else
    let z := match o.deadline with
      | some token => (Timeline.cancel z token).2
      | none => z
    match o.desired with
    | none => .ok ({ o with deadline := none }, z)
    | some moment =>
      match Timeline.scheduleAt z (max moment (Timeline.now z)) ReplayEvent.deadline with
      | (.error failure, _) => .error (.schedule failure)
      | (.ok token, z) => .ok ({ o with deadline := some token }, z)

def report (o : ReplayOwner B Q W) : SlotReplayReport :=
  ⟨o.observations, o.transport.outbound, o.transport.appliedPolicy⟩

end ReplayOwner

/-! ### The replay -/

/-- Schedules the stimuli of a trace, from an index on. -/
def scheduleActions (z : Z ReplayEvent) :
    ℕ → List TimedSlotAction → Except SlotReplayError (Z ReplayEvent)
  | _, [] => .ok z
  | index, timed :: rest =>
    match Timeline.scheduleAt z timed.moment (ReplayEvent.action index timed.action) with
    | (.error failure, _) => .error (.schedule failure)
    | (.ok _, z) => scheduleActions z (index + 1) rest

/-- What a replay begins with. -/
def start (allocator : Allocator) (config : SlotSimulationConfig) (trace : SlotTrace) :
    Except SlotReplayError (ReplayOwner B Q W × Z ReplayEvent) :=
  match checkedAdd trace.actions.length 1 with
  | none => .error .timelineCapacityOverflow
  | some capacity =>
    match scheduleActions (Timeline.new config.timeline ⟨capacity, trace.limits.retainedBytes⟩ : Z
        ReplayEvent) 0 trace.actions with
    | .error error => .error error
    | .ok timeline =>
      match (checkedMul trace.actions.length 2).bind (checkedAdd · 1) with
      | none => .error .timelineCapacityOverflow
      | some _ =>
        match ConnectionSlot.new config.slot config.limits (SimDecoder.new config.limits.replyBytes)
            SimClassifier.mk with
        | .error _ => .error .slotConstruction
        | .ok slot =>
          match SimTransport.new allocator config.limits.transportRetainedBytes with
          | none => .error .transportConstruction
          | some transport =>
            ReplayOwner.syncDeadline
              ⟨some slot, transport, [], [], none, none,
                (trace.actions.map TimedSlotAction.moment).max?⟩ timeline

/-- One turn of the loop: the next event is delivered, or there is none. -/
def turn (o : ReplayOwner B Q W) (z : Z ReplayEvent) :
    Option (Except SlotReplayError (ReplayOwner B Q W × Z ReplayEvent)) :=
  match Timeline.popNext z with
  | (none, _) => none
  | (some (token, event), z) => some ((o.applyEvent token event).syncDeadline z)

/-- The loop. It has no answer when its fuel runs out. -/
def replayLoop :
    ℕ → ReplayOwner B Q W → Z ReplayEvent → Option (Except SlotReplayError (ReplayOwner B Q W))
  | 0, _, _ => none
  | fuel + 1, o, z =>
    match turn o z with
    | none => some (.ok o)
    | some (.error error) => some (.error error)
    | some (.ok (o, z)) => replayLoop fuel o z

variable (B Q W Z) in
def replay (fuel : ℕ) (allocator : Allocator) (config : SlotSimulationConfig) (trace : SlotTrace) :
    Option (Except SlotReplayError SlotReplayReport) :=
  match (start allocator config trace :
      Except SlotReplayError (ReplayOwner B Q W × Z ReplayEvent)) with
  | .error error => some (.error error)
  | .ok (o, z) => (replayLoop fuel o z).map (·.map ReplayOwner.report)

variable (B Q W Z) in
/-- The states between two events of a replay. -/
inductive Reached (allocator : Allocator) (config : SlotSimulationConfig) (trace : SlotTrace) :
    ReplayOwner B Q W → Z ReplayEvent → Prop where
  | started {o : ReplayOwner B Q W} {z : Z ReplayEvent}
    (started : start allocator config trace = .ok (o, z)) :
    Reached allocator config trace o z
  | turned {o o' : ReplayOwner B Q W} {z z' : Z ReplayEvent}
    (before : Reached allocator config trace o z)
    (turned : turn o z = some (.ok (o', z'))) : Reached allocator config trace o' z'

end Bornera.Sim
