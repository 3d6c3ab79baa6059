import Bornera.Shared.Owner

/-!
# Runs of a set

The public methods of a set besides its turn (`set_access.rs`, `set_connect.rs`, `set_recovery.rs`),
and its runs: a `SetWorld` is a set with the permits its callers hold from each connection.
-/

namespace Bornera.Shared

open Bornera.Core Slot Lib ConnectionSlot

variable {B D C R E T P X V : Type} {Q W : Type → Type} {M : Type → Type} [ByteBudget B]
  [FrameDecoder D R E] [Retained R] [InboundClassifier C R] [EventBatch Q] [TimerQueue W]
  [FencedTable M ConnectionIdentity ResourceToken]

namespace ConnectionSet

/-! ### Access -/

/-- Takes a token out of the queue. -/
def unqueue (s : ConnectionSet B D C R Q W T P X M) (resource : ResourceToken) :
    ConnectionSet B D C R Q W T P X M :=
  { s with ready := s.ready.filter (· ≠ resource) }

section
variable [SlotTransport T] [MioPoller P T] [CommandMailbox X]

def settleConnection (resource : ResourceToken) : Run B D C R Q W T P X M ℕ := fun s =>
  match s.find resource with
  | none => (.error (.invariant .resourceToken), s)
  | some entry =>
    match entry.settleEntry s.poller resource with
    | (.error error, poller, entry) =>
      (.error error, ({ s with poller }.store resource entry).latchReadinessError error)
    | (.ok settled, poller, entry) =>
      let s := { s with poller }.store resource entry
      let s := if settled ≠ 0 then
        (s.unqueue resource).store resource { entry with readyQueued := false } else s
      match entry.slot.state.failure with
      | some reason => (.error (.ownerFailed reason), s)
      | none => (.ok settled, s)

/-- A method of one slot, after which its connection is queued and settled. A
failure of the slot comes first. -/
def applyAndEnqueue {α : Type} (connection : ConnectionToken) (action : Slot.Run B D C R Q W α)
    (s : ConnectionSet B D C R Q W T P X M) :
    Except ConnectionAccessError α × ConnectionSet B D C R Q W T P X M :=
  match s.entry connection with
  | none => (.error .staleConnection, s)
  | some entry =>
    let (result, slot) := action entry.slot
    let s := (s.store connection.resource { entry with slot }).enqueue connection.resource
    match result, settleConnection connection.resource s with
    | .ok value, (.ok _, s) => (.ok value, s)
    | .ok _, (.error error, s) => (.error (.owner error), s)
    | .error error, (_, s) => (.error (.owner error), s)

def openAdmission (connection : ConnectionToken) (s : ConnectionSet B D C R Q W T P X M) :
    Except ConnectionAccessError InputDisposition × ConnectionSet B D C R Q W T P X M :=
  s.applyAndEnqueue connection ConnectionSlot.openAdmission

def cancel (connection : ConnectionToken) (operation : OperationId)
    (s : ConnectionSet B D C R Q W T P X M) :
    Except ConnectionAccessError CancelOutcome × ConnectionSet B D C R Q W T P X M :=
  s.applyAndEnqueue connection (ConnectionSlot.cancel operation)

def beginDrain (connection : ConnectionToken) (deadline : Deadline)
    (s : ConnectionSet B D C R Q W T P X M) :
    Except ConnectionAccessError InputDisposition × ConnectionSet B D C R Q W T P X M :=
  s.applyAndEnqueue connection (ConnectionSlot.beginDrain deadline)

def finalize (connection : ConnectionToken) (reason : CloseReason)
    (s : ConnectionSet B D C R Q W T P X M) :
    Except ConnectionAccessError InputDisposition × ConnectionSet B D C R Q W T P X M :=
  s.applyAndEnqueue connection (ConnectionSlot.finalize reason)

/-- What a commit to a live connection answers after its settlement. -/
def committed :
    Except EngineCommitError OperationId → Except EngineError ℕ →
    Except ConnectionCommitError OperationId
  | .ok operation, .ok _ => .ok operation
  | .ok operation, .error source => .error (.connection (.acceptedOwnerFailure operation source))
  | .error error, _ => .error (.connection error)

/-- The queue and the settlement follow the token, whether or not it is stale. -/
def commit (connection : ConnectionToken) (permit : OperationPermit) (frame : OutboundFrame)
    (s : ConnectionSet B D C R Q W T P X M) :
    Except ConnectionCommitError OperationId × ConnectionSet B D C R Q W T P X M :=
  match s.entry connection with
  | none =>
    (.error (.staleConnection permit frame),
      (settleConnection connection.resource (s.enqueue connection.resource)).2)
  | some entry =>
    let (result, slot) := entry.slot.commit permit frame
    let (settled, s) := settleConnection connection.resource
      ((s.store connection.resource { entry with slot }).enqueue connection.resource)
    (committed result settled, s)

end

def reserve (connection : ConnectionToken) (now : ℕ) (options : OperationOptions)
    (s : ConnectionSet B D C R Q W T P X M) :
    Except ConnectionReserveError OperationPermit × ConnectionSet B D C R Q W T P X M :=
  match s.entry connection with
  | none => (.error .staleConnection, s)
  | some entry =>
    let (result, slot) := entry.slot.reserve now options
    (result.mapError .rejected, s.store connection.resource { entry with slot })

def drainOutcomes (connection : ConnectionToken) (s : ConnectionSet B D C R Q W T P X M) :
    Except ConnectionAccessError (List (EngineOutcome R)) × ConnectionSet B D C R Q W T P X M :=
  match s.entry connection with
  | none => (.error .staleConnection, s)
  | some entry =>
    (.ok entry.slot.drainOutcomes.1,
      s.store connection.resource { entry with slot := entry.slot.drainOutcomes.2 })

def drainEvents (connection : ConnectionToken) (s : ConnectionSet B D C R Q W T P X M) :
    Except ConnectionAccessError (List ConnectionEvent) × ConnectionSet B D C R Q W T P X M :=
  match s.entry connection with
  | none => (.error .staleConnection, s)
  | some entry =>
    (.ok entry.slot.drainEvents.1,
      s.store connection.resource { entry with slot := entry.slot.drainEvents.2 })

/-- Takes an entry out of the queue and the table. -/
def discharge (s : ConnectionSet B D C R Q W T P X M) (resource : ResourceToken) :
    ConnectionSet B D C R Q W T P X M :=
  { s.unqueue resource with resources := FencedTable.remove s.resources resource }

def retire (connection : ConnectionToken) (s : ConnectionSet B D C R Q W T P X M) :
    Except ConnectionRetireError Unit × ConnectionSet B D C R Q W T P X M :=
  match s.entry connection with
  | none => (.error .staleConnection, s)
  | some entry =>
    match entry.slot.state.failure with
    | some reason => (.error (.ownerFailed reason), s)
    | none =>
      if entry.transport.isSome ∨ entry.slot.transportState ≠ .closed then
        (.error .transportLive, s)
      else if EventBatch.len entry.slot.outcomes ≠ 0 ∨ EventBatch.len entry.slot.lifecycle ≠ 0 then
        (.error .publicationsPending, s)
      else (.ok (), s.discharge connection.resource)

/-! ### Recovery -/

section
variable [SlotTransport T] [MioPoller P T] [CommandMailbox X]

/-- The transport of an entry that is recovered is deregistered and looked at once more. The answer
is the failure of the selector, and whether the memory of the transport was within its bound. -/
def releaseTransport (s : ConnectionSet B D C R Q W T P X M) (resource : ResourceToken)
    (entry : ConnectionEntry B D C R Q W T) :
    (Option MioError × Bool) × ConnectionSet B D C R Q W T P X M :=
  match entry.transport with
  | none => ((none, false), s)
  | some t =>
    let (cleanup, poller, t) := MioPoller.deregister s.poller t resource
    let (pressure, slot, t) := captureTransportPressure (entry.slot, t)
    let s := { s with poller }.store resource { entry with slot, transport := some t }
    match cleanup, pressure with
    | .ok (), .ok () => ((none, false), s)
    | .ok (), .error _ => ((none, true), s)
    | .error source, .ok () => ((some source, false), s.latchSelectorFailure source)
    | .error source, .error _ => ((some source, true), s.latchSelectorFailure source)

def recoverConnection (connection : ConnectionToken) (entry : ConnectionEntry B D C R Q W T)
    (reason : OwnerFailure) (s : ConnectionSet B D C R Q W T P X M) :
    Except ConnectionRecoveryError (RecoveryReport R) × ConnectionSet B D C R Q W T P X M :=
  let ((cleanup, pressureFailed), s) := s.releaseTransport connection.resource entry
  match s.find connection.resource with
  | none => (.error .staleConnection, s.unqueue connection.resource)
  | some entry =>
    (.ok (entry.slot.recoverOwned reason (cleanup.isSome || pressureFailed)).1,
      s.discharge connection.resource)

def tryRecover (connection : ConnectionToken) (s : ConnectionSet B D C R Q W T P X M) :
    Except ConnectionRecoveryError (RecoveryReport R) × ConnectionSet B D C R Q W T P X M :=
  match s.entry connection with
  | none => (.error .staleConnection, s)
  | some entry =>
    match entry.slot.state.failure with
    | none => (.error .ownerRunning, s)
    | some reason => recoverConnection connection entry reason s

def abandon (connection : ConnectionToken) (requested : OwnerFailure)
    (s : ConnectionSet B D C R Q W T P X M) :
    Except ConnectionRecoveryError (RecoveryReport R) × ConnectionSet B D C R Q W T P X M :=
  match s.entry connection with
  | none => (.error .staleConnection, s)
  | some entry => recoverConnection connection entry (entry.slot.state.failure.getD requested) s

end

/-! ### Connecting -/

/-- The limit and the memory of a transport against the ceiling of its slot,
before it is registered. -/
def bindTransport (ceiling : ℕ) (t : T) [SlotTransport T] :
    Except (ConnectError E) (TransportPressure × ℕ) × T :=
  let (pressure, t) := SlotTransport.pressure t
  let (limit, t) := SlotTransport.pressureLimit t
  if ceiling < limit then (.error (.transportLimit ceiling limit), t)
  else if limit < pressure.total then (.error (.transportCapacity limit pressure), t)
  else (.ok (pressure, limit), t)

section
variable [SlotTransport T] [MioPoller P T] [CommandMailbox X]

/-- Takes a new entry out of the table again. -/
def withdraw (s : ConnectionSet B D C R Q W T P X M) (resource : ResourceToken) :
    ConnectionSet B D C R Q W T P X M :=
  { s with resources := FencedTable.remove s.resources resource }

/-- A transport that broke its contract during the registration is
deregistered, and its entry withdrawn. -/
def undoRegistration (s : ConnectionSet B D C R Q W T P X M) (resource : ResourceToken)
    (entry : ConnectionEntry B D C R Q W T) (t : T) (error : ConnectError E) :
    Except (ConnectError E) ConnectionToken × ConnectionSet B D C R Q W T P X M :=
  let (cleanup, poller, t) := MioPoller.deregister s.poller t resource
  let (pressure, t) := SlotTransport.pressure t
  let s := { s with poller }.store resource
    { entry with
      slot := { entry.slot with transportPressure := some pressure }, transport := some t }
  match cleanup with
  | .error source => (.error (.mio source), (s.latchSelectorFailure source).withdraw resource)
  | .ok () => (.error error, s.withdraw resource)

/-- Registers the transport of a new entry, and looks at it once more. -/
def registerEntry (s : ConnectionSet B D C R Q W T P X M) (resource : ResourceToken)
    (entry : ConnectionEntry B D C R Q W T) (t : T) (bound : TransportPressure × ℕ) :
    Except (ConnectError E) ConnectionToken × ConnectionSet B D C R Q W T P X M :=
  let (interest, t) := SlotTransport.desiredInterest t (0 < entry.slot.core.queuedWriteFrames)
  let slot := { entry.slot with
    transportPressure := some bound.1, transportRetainedLimit := some bound.2 }
  let (registration, poller, t) := MioPoller.register s.poller t resource interest
  let (pressure, t) := SlotTransport.pressure t
  let (limit, t) := SlotTransport.pressureLimit t
  let entry : ConnectionEntry B D C R Q W T :=
    { entry with
      slot := { slot with transportPressure := some pressure }, interest, transport := some t }
  let s := { s with poller }.store resource entry
  match registration with
  | .error source => (.error (.mio source), s.withdraw resource)
  | .ok () =>
    if limit ≠ bound.2 then s.undoRegistration resource entry t (.transportLimit bound.2 limit)
    else if bound.2 < pressure.total then
      s.undoRegistration resource entry t (.transportCapacity bound.2 pressure)
    else (.ok ⟨resource, entry.identity⟩, s.enqueue resource)

/-- Capacity first: the connector is called once the entry has a place. `V` is
what the connector can reach. -/
def connectWith (config : ConnectionConfig) (limits : ConnectionSlotLimits) (decoder : D)
    (classifier : C) (connector : V → Except IoError T × V) (s : ConnectionSet B D C R Q W T P X M)
    (v : V) :
    Except (ConnectError E) ConnectionToken × ConnectionSet B D C R Q W T P X M × V :=
  match s.ownerFailure with
  | some reason => (.error (.ownerFailed reason), s, v)
  | none =>
    match ConnectionSlot.new config.slot limits decoder classifier with
    | .error error => (.error (.decoder error), s, v)
    | .ok slot =>
      let entry : ConnectionEntry B D C R Q W T := ⟨config.identity, slot, none, .readWrite, false⟩
      match FencedTable.enroll s.resources config.identity entry with
      | (none, resources) => (.error .resourceAdmission, { s with resources }, v)
      | (some resource, resources) =>
        let s := { s with resources }
        match connector v with
        | (.error source, v) => (.error (.io source), s.withdraw resource, v)
        | (.ok t, v) =>
          match bindTransport limits.transportRetainedBytes t with
          | (.error error, _) => (.error error, s.withdraw resource, v)
          | (.ok bound, t) =>
            let (result, s) := s.registerEntry resource entry t bound
            (result, s, v)

end
end ConnectionSet

/-! ### Runs -/

/-- A set, and the live permits taken from each of its connections. -/
structure SetWorld (B D C R : Type) (Q W : Type → Type) (T P X : Type) (M : Type → Type) where
  set : ConnectionSet B D C R Q W T P X M
  permits : ResourceToken → List OperationPermit

/-- A public call. A permit is named by its place among the live ones of its connection. -/
inductive SetCall (D C T : Type) where
  | connect (config : ConnectionConfig) (limits : ConnectionSlotLimits) (decoder : D)
    (classifier : C)
    (connected : Except IoError T)
  | reserve (connection : ConnectionToken) (now : ℕ) (options : OperationOptions)
  | commit (connection : ConnectionToken) (index : ℕ) (frame : OutboundFrame)
  | commitForeign (connection : ConnectionToken) (permit : OperationPermit) (frame : OutboundFrame)
  | dropPermit (resource : ResourceToken) (index : ℕ)
  | openAdmission (connection : ConnectionToken)
  | cancel (connection : ConnectionToken) (operation : OperationId)
  | beginDrain (connection : ConnectionToken) (deadline : Deadline)
  | finalize (connection : ConnectionToken) (reason : CloseReason)
  | drainOutcomes (connection : ConnectionToken)
  | drainEvents (connection : ConnectionToken)
  | retire (connection : ConnectionToken)
  | tryRecover (connection : ConnectionToken)
  | abandon (connection : ConnectionToken) (requested : OwnerFailure)
  | pollIo (maximum : ℕ)
  | turn (now : ℕ)

/-- What a call hands back. `unavailable` answers a call with a permit its caller does not have. -/
inductive SetResponse (R E : Type) where
  | connected (result : Except (ConnectError E) ConnectionToken)
  | reserved (result : Except ConnectionReserveError OperationPermit)
  | committed (result : Except ConnectionCommitError OperationId)
  | dropped
  | disposed (result : Except ConnectionAccessError InputDisposition)
  | cancelled (result : Except ConnectionAccessError CancelOutcome)
  | outcomes (result : Except ConnectionAccessError (List (EngineOutcome R)))
  | events (result : Except ConnectionAccessError (List ConnectionEvent))
  | retired (result : Except ConnectionRetireError Unit)
  | recovered (result : Except ConnectionRecoveryError (RecoveryReport R))
  | polled (result : Except EngineError WaitOutcome)
  | turned (result : Except EngineError SetTurn)
  | unavailable

namespace SetWorld

variable [RegisteredTransport T] [MioPoller P T] [CommandMailbox X]

/-- The permits of a connection, changed. -/
def permitting (w : SetWorld B D C R Q W T P X M) (resource : ResourceToken)
    (f : List OperationPermit → List OperationPermit) : ResourceToken → List OperationPermit :=
  Function.update w.permits resource (f (w.permits resource))

/-- The operation a commit accepted, with the owner failing or not. -/
def acceptedBy : Except ConnectionCommitError OperationId → Option OperationId
  | .ok operation => some operation
  | .error (.connection error) => Slot.acceptedBy (.error error)
  | .error (.staleConnection _ _) => none

def step (w : SetWorld B D C R Q W T P X M) :
    SetCall D C T → SetWorld B D C R Q W T P X M × SetResponse R E
  | .connect config limits decoder classifier connected =>
    let (result, set, _) :=
      w.set.connectWith config limits decoder classifier (fun _ : Unit => (connected, ())) ()
    ({ w with set }, .connected result)
  | .reserve connection now options =>
    match w.set.reserve connection now options with
    | (.error error, set) => ({ w with set }, .reserved (.error error))
    | (.ok permit, set) =>
      (⟨set, w.permitting connection.resource (· ++ [permit])⟩, .reserved (.ok permit))
  | .commit connection index frame =>
    match (w.permits connection.resource)[index]? with
    | none => (w, .unavailable)
    | some permit =>
      let (result, set) := w.set.commit connection permit frame
      (⟨set, if (acceptedBy result).isSome then
        w.permitting connection.resource (·.eraseIdx index) else w.permits⟩,
        .committed result)
  | .commitForeign connection permit frame =>
    if (w.set.find connection.resource).any (·.slot.core.machine.ledgerId = permit.ledger) then
      (w, .unavailable)
    else
      let (result, set) := w.set.commit connection permit frame
      ({ w with set }, .committed result)
  | .dropPermit resource index =>
    match (w.permits resource)[index]? with
    | none => (w, .unavailable)
    | some permit =>
      (⟨{ w.set with resources := FencedTable.modify w.set.resources resource fun entry =>
          { entry with slot := SlotWorld.dropPermit entry.slot permit } },
            w.permitting resource (·.eraseIdx index)⟩, .dropped)
  | .openAdmission connection =>
    ({ w with set := (w.set.openAdmission connection).2 },
      .disposed (w.set.openAdmission connection).1)
  | .cancel connection operation =>
    ({ w with set := (w.set.cancel connection operation).2 },
      .cancelled (w.set.cancel connection operation).1)
  | .beginDrain connection deadline =>
    ({ w with set := (w.set.beginDrain connection deadline).2 },
      .disposed (w.set.beginDrain connection deadline).1)
  | .finalize connection reason =>
    ({ w with set := (w.set.finalize connection reason).2 },
      .disposed (w.set.finalize connection reason).1)
  | .drainOutcomes connection =>
    ({ w with set := (w.set.drainOutcomes connection).2 },
      .outcomes (w.set.drainOutcomes connection).1)
  | .drainEvents connection =>
    ({ w with set := (w.set.drainEvents connection).2 }, .events (w.set.drainEvents connection).1)
  | .retire connection =>
    ({ w with set := (w.set.retire connection).2 }, .retired (w.set.retire connection).1)
  | .tryRecover connection =>
    ({ w with set := (w.set.tryRecover connection).2 }, .recovered (w.set.tryRecover connection).1)
  | .abandon connection requested =>
    ({ w with set := (w.set.abandon connection requested).2 },
      .recovered (w.set.abandon connection requested).1)
  | .pollIo maximum =>
    ({ w with set := (ConnectionSet.pollIo maximum w.set).2 },
      .polled (ConnectionSet.pollIo maximum w.set).1)
  | .turn now =>
    ({ w with set := (ConnectionSet.turnComponent now w.set).2 },
      .turned (ConnectionSet.turnComponent now w.set).1)

end SetWorld

/-- What a run starts from. -/
structure SetSetup (P X : Type) where
  limits : ConnectionSetLimits
  poller : P
  commands : X

namespace SetSetup

variable [RegisteredTransport T] [MioPoller P T] [CommandMailbox X]

def world (s : SetSetup P X) : SetWorld B D C R Q W T P X M :=
  ⟨.new s.limits s.poller s.commands, fun _ => []⟩

variable (B Q W M) in
/-- The world after a list of calls. -/
def final (s : SetSetup P X) (calls : List (SetCall D C T)) : SetWorld B D C R Q W T P X M :=
  Transducer.final SetWorld.step s.world calls

end SetSetup

/-! ### The smallest adapters -/

/-- A table of rows in a list, under numbers that only go up. A row carries the identity it was
admitted under. -/
structure ListTable (α : Type) where
  rows : List (ResourceToken × ConnectionIdentity × α)
  next : ℕ
  capacity : ℕ
  below : ∀ row ∈ rows, row.1.get < next
  distinct : (rows.map Prod.fst).Nodup
  within : rows.length ≤ capacity

namespace ListTable

variable {α : Type}

def get (m : ListTable α) (k : ResourceToken) : Option α :=
  (m.rows.find? (·.1 = k)).map fun row => row.2.2

lemma map_fst (rows : List (ResourceToken × ConnectionIdentity × α)) (k : ResourceToken) (a : α) :
    (rows.map fun row => if row.1 = k then (k, row.2.1, a) else row).map Prod.fst =
      rows.map Prod.fst := by
  rw [List.map_map]
  refine List.map_congr_left fun row _ => ?_
  by_cases hrow : row.1 = k <;> simp [hrow]

def set (m : ListTable α) (k : ResourceToken) (a : α) : ListTable α where
  rows := m.rows.map fun row => if row.1 = k then (k, row.2.1, a) else row
  next := m.next
  capacity := m.capacity
  below row hrow := by
    obtain ⟨before, hbefore, rfl⟩ := List.mem_map.mp hrow
    have hlt := m.below before hbefore
    split
    · next hk => exact hk ▸ hlt
    · exact hlt
  distinct := by
    rw [map_fst]
    exact m.distinct
  within := by
    rw [List.length_map]
    exact m.within

/-- A row with a number that was never used. -/
def push (m : ListTable α) (i : ConnectionIdentity) (a : α) (h : m.rows.length < m.capacity) :
    ListTable α where
  rows := m.rows ++ [(⟨m.next⟩, i, a)]
  next := m.next + 1
  capacity := m.capacity
  below row hrow := by
    rcases List.mem_append.mp hrow with hrow | hrow
    · exact Nat.lt_succ_of_lt (m.below row hrow)
    · rw [List.mem_singleton.mp hrow]
      exact Nat.lt_succ_self _
  distinct := by
    rw [List.map_append, List.nodup_append]
    refine ⟨m.distinct, List.nodup_singleton _, fun k hk k' hk' => ?_⟩
    obtain ⟨row, hrow, rfl⟩ := List.mem_map.mp hk
    rw [List.mem_singleton.mp hk']
    intro heq
    have hlt := m.below row hrow
    rw [heq] at hlt
    exact absurd hlt (Nat.lt_irrefl _)
  within := by
    rw [List.length_append, List.length_singleton]
    exact h

/-- A full table refuses, and so does one with a live row of the same identity. -/
def enroll (m : ListTable α) (i : ConnectionIdentity) (a : α) :
    Option ResourceToken × ListTable α :=
  if m.rows.any (·.2.1 = i) then (none, m)
  else if h : m.rows.length < m.capacity then (some ⟨m.next⟩, m.push i a h)
  else (none, m)

def remove (m : ListTable α) (k : ResourceToken) : ListTable α where
  rows := m.rows.filter (·.1 ≠ k)
  next := m.next
  capacity := m.capacity
  below row hrow := m.below row (List.mem_filter.mp hrow).1
  distinct := m.distinct.sublist (List.filter_sublist.map _)
  within := (List.length_filter_le _ _).trans m.within

lemma get_isSome {m : ListTable α} {k : ResourceToken} :
    (m.get k).isSome ↔ k ∈ m.rows.map Prod.fst := by
  unfold get
  rw [Option.isSome_map, List.find?_isSome, List.mem_map]
  exact exists_congr fun row => by simp

lemma find?_set (rows : List (ResourceToken × ConnectionIdentity × α)) (k : ResourceToken) (a : α)
    (x : ResourceToken) :
    ((rows.map fun row => if row.1 = k then (k, row.2.1, a) else row).find? (·.1 = x)).map (·.2.2) =
      if x = k then ((rows.find? (·.1 = k)).map (·.2.2)).map fun _ => a
      else (rows.find? (·.1 = x)).map (·.2.2) := by
  induction rows with
  | nil => simp
  | cons row rows ih =>
    by_cases hrow : row.1 = k
    · by_cases hx : x = k
      · simp [hrow, hx]
      · simpa [hrow, hx, Ne.symm hx] using ih
    · by_cases hx : row.1 = x
      · simp [← hx, hrow]
      · simpa [hrow, hx] using ih

lemma find?_remove (rows : List (ResourceToken × ConnectionIdentity × α)) (k x : ResourceToken) :
    ((rows.filter (·.1 ≠ k)).find? (·.1 = x)).map (·.2.2) =
      if x = k then none else (rows.find? (·.1 = x)).map (·.2.2) := by
  induction rows with
  | nil => simp
  | cons row rows ih =>
    by_cases hrow : row.1 = k
    · by_cases hx : x = k
      · simp [hx]
      · simpa [hrow, hx, Ne.symm hx] using ih
    · by_cases hx : row.1 = x
      · simp [← hx, hrow]
      · simpa [hrow, hx] using ih

end ListTable

instance : FencedTable ListTable ConnectionIdentity ResourceToken where
  new n := ⟨[], 0, n, List.forall_mem_nil _, List.nodup_nil, Nat.zero_le n⟩
  keys m := m.rows.map Prod.fst
  get := ListTable.get
  set := ListTable.set
  enroll := ListTable.enroll
  remove := ListTable.remove
  capacity := ListTable.capacity
  issued m k := k.get < m.next
  get_new _ _ := rfl
  issued_new _ _ := Nat.not_lt_zero _
  capacity_new _ := rfl
  mem_keys _ _ := ListTable.get_isSome.symm
  nodup_keys m := m.distinct
  length_le m := by
    rw [List.length_map]
    exact m.within
  issued_of_get m k hk := by
    obtain ⟨row, hrow, rfl⟩ := List.mem_map.mp (ListTable.get_isSome.mp hk)
    exact m.below row hrow
  get_set m k a x := ListTable.find?_set m.rows k a x
  keys_set m k a := ListTable.map_fst m.rows k a
  capacity_set _ _ _ := rfl
  issued_set _ _ _ _ := Iff.rfl
  enroll_some m m' i a k h := by
    unfold ListTable.enroll at h
    split at h
    · cases h
    split at h
    · cases h
      refine ⟨Nat.lt_irrefl _, fun x => ?_, fun x => ?_, rfl⟩
      · unfold ListTable.get
        change ((m.rows ++ [((⟨m.next⟩ : ResourceToken), i, a)]).find? _).map (·.2.2) = _
        rw [List.find?_append]
        by_cases hx : x = ⟨m.next⟩
        · have hnone : m.rows.find? (·.1 = x) = none := by
            rw [List.find?_eq_none]
            intro row hrow heq
            have hlt := m.below row hrow
            rw [of_decide_eq_true heq, hx] at hlt
            exact Nat.lt_irrefl _ hlt
          rw [hnone, if_pos hx]
          simp [hx]
        · rw [if_neg hx]
          simp [Ne.symm hx]
      · change x.get < m.next + 1 ↔ _
        rw [Nat.lt_succ_iff_lt_or_eq, or_comm]
        refine or_congr_left ⟨fun heq => ?_, fun heq => by rw [heq]⟩
        cases x
        exact congrArg ResourceToken.mk heq
    · cases h
  enroll_none m m' i a h := by
    unfold ListTable.enroll at h
    split at h
    · cases h
      rfl
    split at h
    · cases h
    · cases h
      rfl
  get_remove m k x := ListTable.find?_remove m.rows k x
  issued_remove _ _ _ := Iff.rfl
  capacity_remove _ _ := rfl

/-- A selector that remembers its sources and never has an event. -/
structure ListPoller where
  sources : List ResourceToken
  deriving DecidableEq

instance : MioPoller ListPoller T where
  register p t k _ := (.ok (), ⟨k :: p.sources⟩, t)
  reregister p t _ _ := (.ok (), p, t)
  deregister p t k := (.ok (), ⟨p.sources.filter (· ≠ k)⟩, t)
  poll p _ events := (.ok ⟨0, 0, false⟩, events, p)

instance : LawfulPoller ListPoller T where
  registered p x := x ∈ p.sources
  register_ok p p' t t' k i h x := by
    cases h
    exact List.mem_cons
  register_error p p' t t' k i error h := by cases h
  reregister_same p t k i x := Iff.rfl
  deregister_ok p p' t t' k h x := by
    cases h
    rw [List.mem_filter, and_comm, decide_eq_true_eq]
  deregister_error p p' t t' k error h := by cases h
  poll_same p maximum events x := Iff.rfl

/-- A mailbox without commands. -/
structure NoCommands where
  deriving DecidableEq

instance : CommandMailbox NoCommands where
  drainInto x _ := (([], false), x)
  close x := x

instance : RegisteredTransport Peer where
  observeReadiness p _ := p

/-- A set with room for two connections. -/
def SetSetup.sample : SetSetup ListPoller NoCommands where
  limits := ⟨⟨2, Nat.succ_pos 1⟩, ⟨1, Nat.succ_pos 0⟩, ⟨1, Nat.succ_pos 0⟩⟩
  poller := ⟨[]⟩
  commands := ⟨⟩

/-- The identity of a connection of the epoch of `SlotSetup.sample`. -/
def ConnectionConfig.sample : ConnectionConfig :=
  ⟨SlotSetup.sample.config, ⟨0, 0, 0, SlotSetup.sample.config.epoch⟩, rfl⟩

end Bornera.Shared
