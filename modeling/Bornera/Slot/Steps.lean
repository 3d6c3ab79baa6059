import Bornera.Slot.Walks

/-!
# What one public call can do

`SlotStep` lists everything one public call of a slot can do to it, to the epoch of its core and to
the permits of its caller, with what the call hands back. Every claim about runs of a slot is an
induction over it; `follows_slot` shows that the code does nothing else.
-/

namespace Bornera.Slot

open Bornera.Core Bornera.Core.Epoch Lib ConnectionSlot

variable {B D C R E T : Type} {Q W : Type → Type} [ByteBudget B] [FrameDecoder D R E] [Retained R]
  [InboundClassifier C R] [EventBatch Q] [TimerQueue W] [SlotTransport T]

/-- A call of a running slot that ended in `s`, with a failure or not, leaves `s'`: a failure is
latched. -/
inductive Latched
    (s : ConnectionSlot B D C R Q W) : Option EngineError → ConnectionSlot B D C R Q W → Prop where
  | running : Latched s none s
  | failed (error : EngineError) : Latched s (some error)
    (s.latchOwnerFailure (OwnerFailure.ofError error))

/-- The calls that a failed slot refuses, with their answer. -/
inductive Guards : SlotCall T → Option EngineError → SlotResponse R T → Prop where
  | openAdmission (result : Except EngineError InputDisposition) :
    Guards .openAdmission (fault result) (.disposed result)
  | cancel (operation : OperationId) (result : Except EngineError CancelOutcome) :
    Guards (.cancel operation) (fault result) (.cancelled result)
  | beginDrain (deadline : Deadline) (result : Except EngineError InputDisposition) :
    Guards (.beginDrain deadline) (fault result) (.disposed result)
  | finalize (reason : CloseReason) (result : Except EngineError InputDisposition) :
    Guards (.finalize reason) (fault result) (.disposed result)
  | driveQuantum (now : ℕ) (transport transport' : Option T)
    (result : Except EngineError SlotProgress) :
    Guards (.driveQuantum now transport) (fault result) (.drove result transport')

/-- The transport of a call, before and after it. -/
def SlotCall.transport : SlotCall T → Option T
  | .driveQuantum _ transport => transport
  | _ => none

def SlotResponse.transport : SlotResponse R T → Option T
  | .drove _ transport => transport
  | _ => none

/-- The refusals of a reservation or a commit. -/
inductive Refuses : SlotCall T → SlotResponse R T → Prop where
  | reserve (now : ℕ) (options : OperationOptions) (error : ReserveError) :
    Refuses (.reserve now options) (.reserved (.error error))
  | commit (index : ℕ) (frame : OutboundFrame) {error : EngineCommitError}
    (unaccepted : acceptedBy (.error error) = none) : Refuses (.commit index frame)
      (.committed (.error error))
  | commitForeign (permit : OperationPermit) (frame : OutboundFrame) {error : EngineCommitError}
    (unaccepted : acceptedBy (.error error) = none) : Refuses (.commitForeign permit frame)
      (.committed (.error error))

/-- What the commit of an accepted operation returns, by the interpretation of its effects. -/
def commitResult (operation : OperationId) :
    Except EngineError Unit → Except EngineCommitError OperationId
  | .ok () => .ok operation
  | .error source => .error (.acceptedOwnerFailure operation source)

/-- **Everything one call of a slot can do.** -/
inductive SlotStep :
    ConnectionSlot B D C R Q W → Epoch OutboundFrame → List OperationPermit → SlotCall T →
    SlotResponse R T → Option (ConnectionSlot B D C R Q W) → Epoch OutboundFrame →
      List OperationPermit → Prop where
  /-- The call names a permit its caller does not have. -/
  | unavailable (s : ConnectionSlot B D C R Q W) (e : Epoch OutboundFrame)
    (permits : List OperationPermit)
    (call : SlotCall T) : SlotStep s e permits call .unavailable (some s) e permits
  /-- A failed slot refuses a call. -/
  | asleep {s : ConnectionSlot B D C R Q W} {e : Epoch OutboundFrame}
    {permits : List OperationPermit}
    {call : SlotCall T} {r : SlotResponse R T} {reason : OwnerFailure}
    (asleep : s.state.failure = some reason) (guards : Guards call (some (.ownerFailed reason)) r)
    (unmoved : r.transport = call.transport) : SlotStep s e permits call r (some s) e permits
  /-- A running slot works, and its failure is latched. -/
  | drove {s s₁ s' : ConnectionSlot B D C R Q W} {e e' : Epoch OutboundFrame}
    {permits : List OperationPermit}
    {call : SlotCall T} {r : SlotResponse R T} {flt : Option EngineError}
    (running : s.state = .running)
    (guards : Guards call flt r)
    (path : Path permits call ⟨s, call.transport, e, none⟩ ⟨s₁, r.transport, e', flt⟩)
    (latched : Latched s₁ flt s') :
    SlotStep s e permits call r (some s') e' permits
  /-- A reservation or a commit is refused; the failure of the core is latched. -/
  | refused {s s' : ConnectionSlot B D C R Q W} {e : Epoch OutboundFrame}
    {permits : List OperationPermit}
    {call : SlotCall T} {r : SlotResponse R T} (refuses : Refuses call r)
    (latched : s' = s ∨ s.state = .running ∧ e.poisoned ≠ none ∧ s' = s.latchOwnerFailure .core) :
    SlotStep s e permits call r (some s') e permits
  /-- A reservation that found no room for its outcome is given back. -/
  | returned {s : ConnectionSlot B D C R Q W} {e e' : Epoch OutboundFrame}
    {permits : List OperationPermit} {now : ℕ}
    {options : OperationOptions} {permit : OperationPermit} {core : ConnectionCore B OutboundFrame}
    (running : s.state = .running)
    (step : Step (R := Unit) e (.reserve now options) (.reserved (.ok permit)) e') :
    SlotStep s e permits (.reserve now options) (.reserved (.error .operationCapacity))
      (some { s with core })
      { e' with permits := e.permits } permits
  | reserved {s : ConnectionSlot B D C R Q W} {e e' : Epoch OutboundFrame}
    {permits : List OperationPermit} {now : ℕ}
    {options : OperationOptions} {permit : OperationPermit} {core : ConnectionCore B OutboundFrame}
    (running : s.state = .running)
    (step : Step (R := Unit) e (.reserve now options) (.reserved (.ok permit)) e')
    (room : EventBatch.len s.outcomes + (e'.permits.length + e'.lane.length) ≤
      s.limits.operationCapacity) :
    SlotStep s e permits (.reserve now options) (.reserved (.ok permit)) (some { s with core }) e'
      (permits ++ [permit])
  | committed {s s' : ConnectionSlot B D C R Q W} {e e' : Epoch OutboundFrame}
    {permits : List OperationPermit}
    {index : ℕ} {frame : OutboundFrame} {operation : OperationId} {tr : ConnectionTransition Unit}
    {core : ConnectionCore B OutboundFrame} (running : s.state = .running)
    (step : Step e (.commit index frame OutboundFrame.view) (.committed (.ok (operation, tr))) e')
    (latched : Latched (interpretUnit tr { s with core }).2
      (fault (interpretUnit tr { s with core }).1) s') :
    SlotStep s e permits (.commit index frame)
      (.committed (commitResult operation (interpretUnit tr { s with core }).1)) (some s') e'
        (permits.eraseIdx index)
  | dropped {s : ConnectionSlot B D C R Q W} {e : Epoch OutboundFrame}
    {permits : List OperationPermit} {index : ℕ}
    {permit : OperationPermit} {core : ConnectionCore B OutboundFrame}
    (live : permits[index]? = some permit) :
    SlotStep s e permits (.dropPermit index) .dropped (some { s with core })
      { e with permits := e.permits.eraseIdx index } (permits.eraseIdx index)
  | drainedOutcomes (s : ConnectionSlot B D C R Q W) (e : Epoch OutboundFrame)
    (permits : List OperationPermit) :
    SlotStep s e permits .drainOutcomes (.outcomes s.drainOutcomes.1)
      (some s.drainOutcomes.2) e permits
  | drainedEvents (s : ConnectionSlot B D C R Q W) (e : Epoch OutboundFrame)
    (permits : List OperationPermit) :
    SlotStep s e permits .drainEvents (.events s.drainEvents.1) (some s.drainEvents.2) e permits
  /-- There is no close to settle yet. -/
  | unsettled {s : ConnectionSlot B D C R Q W} (e : Epoch OutboundFrame)
    (permits : List OperationPermit)
    (unready : s.transportReleaseReady = false) :
    SlotStep s e permits .settleTransportClosed (.settled false) (some s) e permits
  | aborted {s : ConnectionSlot B D C R Q W} (e : Epoch OutboundFrame)
    (permits : List OperationPermit)
    (request : s.closeRequest = some .abort) :
    SlotStep s e permits .settleTransportClosed (.settled true) (some s.abortTransport) e permits
  /-- A close is confirmed. -/
  | confirmed {s : ConnectionSlot B D C R Q W} {e e' : Epoch OutboundFrame}
    {permits : List OperationPermit}
    {reason : CloseReason} {shutdown : ShutdownState} {tr : ConnectionTransition Unit}
    {core : ConnectionCore B OutboundFrame}
    (request : s.closeRequest = some (.core reason shutdown))
    (ready : shutdown = .immediate ∨ shutdown = .complete)
    (step : Step e (.apply (.epochClosed s.epoch)) (.transition (.ok tr)) e')
    (published : (publishClosed reason
      { s with core, transportState := .closed, closeRequest := none }).1 = .ok ()) :
    SlotStep s e permits .settleTransportClosed (.settled true)
      (some (publishClosed reason
        { s with core, transportState := .closed, closeRequest := none }).2) e' permits
  /-- A close whose event cannot be published is an abort. -/
  | unpublished {s : ConnectionSlot B D C R Q W} {e e' : Epoch OutboundFrame}
    {permits : List OperationPermit}
    {reason : CloseReason} {shutdown : ShutdownState} {tr : ConnectionTransition Unit}
    {core : ConnectionCore B OutboundFrame} {error : EngineError}
    (request : s.closeRequest = some (.core reason shutdown))
    (ready : shutdown = .immediate ∨ shutdown = .complete)
    (step : Step e (.apply (.epochClosed s.epoch)) (.transition (.ok tr)) e')
    (published : (publishClosed reason
      { s with core, transportState := .closed, closeRequest := none }).1 = .error error) :
    SlotStep s e permits .settleTransportClosed (.settled true)
      (some (((publishClosed reason
        { s with core, transportState := .closed, closeRequest := none }).2.latchOwnerFailure
        .ownerInvariant).abortTransport)) e' permits
  /-- A close the core refuses is an abort. -/
  | unconfirmed {s : ConnectionSlot B D C R Q W} {e e' : Epoch OutboundFrame}
    {permits : List OperationPermit}
    {reason : CloseReason} {shutdown : ShutdownState} {source : ConnectionCoreError}
    {core : ConnectionCore B OutboundFrame}
    (request : s.closeRequest = some (.core reason shutdown))
    (ready : shutdown = .immediate ∨ shutdown = .complete)
    (step : Step (R := Unit) e (.apply (.epochClosed s.epoch)) (.transition (.error source)) e') :
    SlotStep s e permits .settleTransportClosed (.settled true)
      (some (({ s with core, transportState := .closed, closeRequest := none }.latchOwnerFailure
        .core).abortTransport))
      e' permits
  | recovered (s : ConnectionSlot B D C R Q W) (e : Epoch OutboundFrame)
    (permits : List OperationPermit)
    (reason : OwnerFailure)
    (operations : (s.recover reason).operations = (e.lane.filter Item.owed).map Item.recovered) :
    SlotStep s e permits (.recover reason) (.recovered (s.recover reason)) none e permits

/-- The failure a call returns. -/
def SlotResponse.error : SlotResponse R T → Option EngineError
  | .disposed result => fault result
  | .cancelled result => fault result
  | .drove result _ => fault result
  | .committed (.error (.acceptedOwnerFailure _ source)) => some source
  | _ => none

/-- The lifecycle events a call hands back. -/
def SlotResponse.told : SlotResponse R T → List ConnectionEvent
  | .events drained => drained
  | .recovered report => report.events
  | _ => []

/-- A call that does not work with the core: what it takes from the slot is admission and
publications, and if the slot fails, it is over a poisoned core. -/
structure Plain (s : ConnectionSlot B D C R Q W) (e : Epoch OutboundFrame) (r : SlotResponse R T)
    (s' : ConnectionSlot B D C R Q W) (e' : Epoch OutboundFrame) : Prop where
  slot : s' = { s with core := s'.core, outcomes := s'.outcomes, lifecycle := s'.lifecycle } ∨
    s.state = .running ∧ e.poisoned ≠ none ∧ s' = s.latchOwnerFailure .core
  epoch : e' = { e with permits := e'.permits, identities := e'.identities }
  events : r.told ++ EventBatch.contents s'.lifecycle = EventBatch.contents s.lifecycle
  error : ∀ error ∈ r.error, ∃ reason, error = .ownerFailed reason

section
omit [Retained R] [SlotTransport T]

lemma Guards.error {call : SlotCall T} {flt : Option EngineError} {r : SlotResponse R T}
    (h : Guards call flt r) :
    r.error = flt := by
  cases h <;> rfl

lemma Refuses.error {call : SlotCall T} {r : SlotResponse R T} (h : Refuses call r) :
    r.error = none := by
  cases h with
  | reserve => rfl
  | @commit index frame error unaccepted => cases error <;> first | rfl | cases unaccepted
  | @commitForeign permit frame error unaccepted => cases error <;> first | rfl | cases unaccepted

lemma Guards.told {call : SlotCall T} {flt : Option EngineError} {r : SlotResponse R T}
    (h : Guards call flt r) :
    r.told = [] := by
  cases h <;> rfl

lemma Refuses.told {call : SlotCall T} {r : SlotResponse R T} (h : Refuses call r) :
    r.told = [] := by
  cases h <;> rfl

end

omit [ByteBudget B] [Retained R] [InboundClassifier C R] [EventBatch Q] [TimerQueue W] in
lemma latchOwnerFailure_frame (s : ConnectionSlot B D C R Q W) (reason : OwnerFailure) :
    s.latchOwnerFailure reason = { s with
      state := (s.latchOwnerFailure reason).state
      drainDeadline := (s.latchOwnerFailure reason).drainDeadline
      closeRequest := (s.latchOwnerFailure reason).closeRequest } := by
  unfold latchOwnerFailure
  split <;> rfl

/-- **A call is plain, works with the core, or settles the transport.** -/
@[elab_as_elim]
theorem SlotStep.casesPlain
    {motive : ∀ (s : ConnectionSlot B D C R Q W) (e : Epoch OutboundFrame)
      (permits : List OperationPermit)
      (call : SlotCall T) (r : SlotResponse R T) (s' : ConnectionSlot B D C R Q W)
      (e' : Epoch OutboundFrame) (permits' : List OperationPermit), SlotStep s e permits call r
      (some s') e' permits' → Prop}
    {s : ConnectionSlot B D C R Q W} {e : Epoch OutboundFrame} {permits : List OperationPermit}
    {call : SlotCall T} {r : SlotResponse R T} {s' : ConnectionSlot B D C R Q W}
    {e' : Epoch OutboundFrame} {permits' : List OperationPermit}
    (h : SlotStep s e permits call r (some s') e' permits')
    (plain : ∀ {s e permits call r s' e' permits'}
      (h : SlotStep s e permits call r (some s') e' permits'),
      Plain s e r s' e' → motive s e permits call r s' e' permits' h)
    (drove : ∀ {s s₁ s' : ConnectionSlot B D C R Q W} {e e' permits call r flt}
      (running : s.state = .running)
      (guards : Guards call flt r)
      (path : Path permits call ⟨s, call.transport, e, none⟩ ⟨s₁, r.transport, e', flt⟩)
      (latched : Latched s₁ flt s'),
      motive s e permits call r s' e' permits (.drove running guards path latched))
    (committed : ∀ {s s' : ConnectionSlot B D C R Q W} {e e' permits index frame operation tr core}
      (running : s.state = .running)
      (step : Step e (.commit index frame OutboundFrame.view) (.committed (.ok (operation, tr))) e')
      (latched : Latched (interpretUnit tr { s with core }).2
        (fault (interpretUnit tr { s with core }).1) s'),
      motive s e permits _ _ s' e' _ (.committed running step latched))
    (aborted : ∀ {s : ConnectionSlot B D C R Q W} e permits
      (request : s.closeRequest = some .abort),
      motive s e permits _ _ s.abortTransport e permits (.aborted e permits request))
    (confirmed : ∀ {s : ConnectionSlot B D C R Q W} {e e' permits reason shutdown tr core}
      (request : s.closeRequest = some (.core reason shutdown))
      (ready : shutdown = .immediate ∨ shutdown = .complete)
      (step : Step e (.apply (.epochClosed s.epoch)) (.transition (.ok tr)) e')
      (published :
        (publishClosed reason { s with
          core, transportState := .closed, closeRequest := none }).1 = .ok ()),
      motive s e permits _ _ _ e' permits (.confirmed request ready step published))
    (unpublished : ∀ {s : ConnectionSlot B D C R Q W} {e e' permits reason shutdown tr core error}
      (request : s.closeRequest = some (.core reason shutdown))
        (ready : shutdown = .immediate ∨ shutdown = .complete)
      (step : Step e (.apply (.epochClosed s.epoch)) (.transition (.ok tr)) e')
      (published : (publishClosed reason
        { s with core, transportState := .closed, closeRequest := none }).1 = .error error),
      motive s e permits _ _ _ e' permits (.unpublished request ready step published))
    (unconfirmed : ∀ {s : ConnectionSlot B D C R Q W} {e e' permits reason shutdown source core}
      (request : s.closeRequest = some (.core reason shutdown))
        (ready : shutdown = .immediate ∨ shutdown = .complete)
      (step : Step (R := Unit) e (.apply (.epochClosed s.epoch)) (.transition (.error source)) e'),
      motive s e permits _ _
        (({ s with core, transportState := .closed, closeRequest := none }.latchOwnerFailure
          .core).abortTransport)
        e' permits (.unconfirmed request ready step)) :
    motive s e permits call r s' e' permits' h := by
  cases h with
  | unavailable => exact plain _ ⟨.inl rfl, rfl, rfl, fun error he => by cases he⟩
  | asleep asleep guards unmoved =>
    refine plain _ ⟨.inl rfl, rfl, by rw [guards.told]; rfl, fun error he => ?_⟩
    rw [guards.error] at he
    cases he
    exact ⟨_, rfl⟩
  | drove running guards path latched => exact drove running guards path latched
  | refused refuses latched =>
    refine plain _ ⟨?_, rfl, ?_, fun error he => ?_⟩
    · rcases latched with rfl | hlatched
      · exact .inl rfl
      · exact .inr hlatched
    · rw [refuses.told]
      rcases latched with rfl | ⟨_, _, rfl⟩
      · rfl
      · rw [latchOwnerFailure_frame]
        rfl
    · rw [refuses.error] at he
      cases he
  | returned running step =>
    refine plain _ ⟨.inl rfl, ?_, rfl, fun error he => by cases he⟩
    cases step
    rfl
  | reserved running step room =>
    refine plain _ ⟨.inl rfl, ?_, rfl, fun error he => by cases he⟩
    cases step
    rfl
  | committed running step latched => exact committed running step latched
  | dropped => exact plain _ ⟨.inl rfl, rfl, rfl, fun error he => by cases he⟩
  | drainedOutcomes => exact plain _ ⟨.inl rfl, rfl, rfl, fun error he => by cases he⟩
  | drainedEvents s =>
    obtain ⟨hdrained, hempty, _⟩ := EventBatch.drain_eq s.lifecycle
    refine plain _ ⟨.inl rfl, rfl, ?_, fun error he => by cases he⟩
    simp only [SlotResponse.told, drainEvents, hdrained, hempty, List.append_nil]
  | unsettled => exact plain _ ⟨.inl rfl, rfl, rfl, fun error he => by cases he⟩
  | aborted e permits request => exact aborted e permits request
  | confirmed request ready step published => exact confirmed request ready step published
  | unpublished request ready step published => exact unpublished request ready step published
  | unconfirmed request ready step => exact unconfirmed request ready step

lemma acceptedBy_commitResult (operation : OperationId) (r : Except EngineError Unit) :
    acceptedBy (commitResult operation r) = some operation := by
  cases r <;> rfl

omit [Retained R] [SlotTransport T] in
lemma commitResult_error (operation : OperationId) (r : Except EngineError Unit) :
    (SlotResponse.committed (commitResult operation r) : SlotResponse R T).error = fault r := by
  cases r <;> rfl

/-! ### The code does nothing else -/

variable {permits : List OperationPermit} {s : ConnectionSlot B D C R Q W} {e : Epoch OutboundFrame}

section
omit [ByteBudget B] [Retained R] [InboundClassifier C R] [EventBatch Q] [TimerQueue W]

lemma failure_none_iff : s.state.failure = none ↔ s.state = .running := by
  cases s.state <;> simp [EngineState.failure]

lemma Latched.frame {flt : Option EngineError} {s' : ConnectionSlot B D C R Q W}
    (h : Latched s flt s') :
    s' = { s with
      state := s'.state
      drainDeadline := s'.drainDeadline
      closeRequest := s'.closeRequest } := by
  cases h with
  | running => rfl
  | failed error => exact latchOwnerFailure_frame s _

lemma Latched.limits_eq {flt : Option EngineError} {s' : ConnectionSlot B D C R Q W}
    (h : Latched s flt s') :
    s'.limits = s.limits := by
  rw [h.frame]

/-- A failed slot is not running. -/
lemma latchOwnerFailure_state (s : ConnectionSlot B D C R Q W) (reason : OwnerFailure) :
    (s.latchOwnerFailure reason).state ≠ .running := by
  unfold latchOwnerFailure
  cases hstate : s.state with
  | running => simp [EngineState.failure]
  | failed => simp [EngineState.failure, hstate]

end

section
omit [Retained R] [InboundClassifier C R] [EventBatch Q] [TimerQueue W]

lemma Owns.latch (h : Owns permits s e) (reason : OwnerFailure) :
    Owns permits (s.latchOwnerFailure reason) e := by
  rw [latchOwnerFailure_frame]
  exact h

lemma Owns.latched (h : Owns permits s e) {flt : Option EngineError}
    {s' : ConnectionSlot B D C R Q W} (hl : Latched s flt s') :
    Owns permits s' e := by
  cases hl with
  | running => exact h
  | failed error => exact h.latch (OwnerFailure.ofError error)

end

/-- The slot after a call with a result. -/
def latchResult {α : Type} (s : ConnectionSlot B D C R Q W) :
    Except EngineError α → ConnectionSlot B D C R Q W
  | .ok _ => s
  | .error error => s.latchFailure error

section
omit [ByteBudget B] [Retained R] [InboundClassifier C R] [EventBatch Q] [TimerQueue W]

/-- A failure that is not an earlier one is latched. -/
lemma latched_of_own {α : Type} {r : Except EngineError α} (h : Own r)
    (s : ConnectionSlot B D C R Q W) :
    Latched s (fault r) (latchResult s r) := by
  cases r with
  | ok => exact .running
  | error error =>
    cases error with
    | ownerFailed reason => exact absurd rfl (h reason)
    | _ => exact .failed _

lemma latch_run {α : Type} (m : Run B D C R Q W α) (s : ConnectionSlot B D C R Q W) :
    latch m s = ((m s).1, latchResult (m s).2 (m s).1) := by
  unfold latch
  cases m s with
  | mk result s' => cases result <;> rfl

end

/-- A guarded computation of a slot is refused by a failed one and walks on a running one. -/
lemma guarded_step {α : Type} {m : Run B D C R Q W α} {call : SlotCall T} {r : SlotResponse R T}
    (howns : Owns permits s e) (hwalk : Walks permits call (fun s => (s, (none : Option T))) m s)
    (hresult : Guards call (fault (guarded m s).1) r) (hcall : call.transport = none)
    (hr : r.transport = none) :
    ∃ e', SlotStep s e permits call r (some (guarded m s).2) e' permits ∧
      Owns permits (guarded m s).2 e' := by
  cases hstate : s.state with
  | failed reason =>
    have hrun : guarded m s = (.error (.ownerFailed reason), s) := by
      simp only [guarded, Owner.bind_run, ensureRunning, hstate, EngineState.failure]
    rw [hrun] at hresult ⊢
    exact ⟨e, .asleep (by rw [hstate]; rfl) hresult (hr.trans hcall.symm), howns⟩
  | running =>
    have hrun : guarded m s = ((m s).1, latchResult (m s).2 (m s).1) := by
      simp only [guarded, Owner.bind_run, ensureRunning, hstate, EngineState.failure, latch_run]
    obtain ⟨hown, hpath⟩ := hwalk
    obtain ⟨e', hpath⟩ := hpath e howns
    have hlatched := latched_of_own hown (m s).2
    rw [hrun] at hresult ⊢
    exact ⟨e', .drove hstate hresult (hcall ▸ hr ▸ hpath) hlatched,
      (Path.owns hpath howns).2.latched hlatched⟩

lemma driveQuantum_run (hstate : s.state = .running) (now : ℕ) (transport : Option T) :
    driveQuantum now (s, transport) = ((driveQuantumInner now (s, transport)).1,
      latchResult (driveQuantumInner now (s, transport)).2.1
        (driveQuantumInner now (s, transport)).1,
      (driveQuantumInner now (s, transport)).2.2) := by
  simp only [driveQuantum, ensureRunning, hstate, EngineState.failure]
  cases driveQuantumInner now (s, transport) with
  | mk result x => cases result <;> rfl

/-- A quantum is refused by a failed slot and walks on a running one. -/
lemma driveQuantum_step (howns : Owns permits s e) (now : ℕ) (transport : Option T) :
    ∃ e', SlotStep s e permits (.driveQuantum now transport)
        (.drove (driveQuantum now (s, transport)).1 (driveQuantum now (s, transport)).2.2)
        (some (driveQuantum now (s, transport)).2.1) e' permits ∧
      Owns permits (driveQuantum now (s, transport)).2.1 e' := by
  cases hstate : s.state with
  | failed reason =>
    have hrun : driveQuantum now (s, transport) = (.error (.ownerFailed reason), s, transport) := by
      simp only [driveQuantum, ensureRunning, hstate, EngineState.failure]
    rw [hrun]
    exact ⟨e, .asleep (by rw [hstate]; rfl)
      (.driveQuantum now transport transport (.error (.ownerFailed reason))) rfl,
      howns⟩
  | running =>
    have hwalk : Walks permits (.driveQuantum now transport) along (driveQuantumInner now)
        (s, transport) :=
      walks_driveQuantumInner rfl (s, transport)
    obtain ⟨hown, hpath⟩ := hwalk
    obtain ⟨e', hpath⟩ := hpath e howns
    have hlatched := latched_of_own hown (driveQuantumInner now (s, transport)).2.1
    rw [driveQuantum_run hstate]
    exact ⟨e', .drove hstate (.driveQuantum now transport _ _) hpath hlatched,
      (Path.owns hpath howns).2.latched hlatched⟩

/-- What a call leaves behind, as one step. -/
def FollowsSlot (s : ConnectionSlot B D C R Q W) (e : Epoch OutboundFrame)
    (permits : List OperationPermit) (call : SlotCall T)
    (after : SlotWorld B D C R Q W × SlotResponse R T) : Prop :=
  ∃ e', SlotStep s e permits call after.2 after.1.slot e' after.1.permits ∧
    ∀ s', after.1.slot = some s' → Owns after.1.permits s' e'

lemma reserve_step (howns : Owns permits s e) (now : ℕ) (options : OperationOptions) :
    FollowsSlot (T := T) s e permits (.reserve now options)
      (SlotWorld.slotStep s permits (.reserve now options)) := by
  have hfollow := follows_step (R := Unit) howns s.debug (.reserve now options)
  have hhealthy := howns.core.reserve_healthy howns.wf
  simp only [SlotWorld.slotStep, ConnectionSlot.reserve]
  by_cases hstate : s.state.failure.isSome = true
  · rw [if_pos hstate]
    exact ⟨e, .refused (.reserve now options .ownerPoisoned) (.inl rfl), fun s' h =>
      by cases h; exact howns⟩
  · rw [if_neg hstate]
    have hrunning : s.state = .running := failure_none_iff.mp (by simpa using hstate)
    simp only [World.step] at hfollow
    cases hcore : s.core.reserve s.debug now options with
    | mk result core =>
    rw [hcore] at hfollow
    cases result with
    | error error =>
      obtain ⟨_, _, _, hquiet⟩ := hfollow
      have hsame : core = s.core := congrArg World.core (hquiet trivial)
      subst hsame
      by_cases hpoisoned : error = .ownerPoisoned
      · have hsick : e.poisoned ≠ none := by
          intro hp
          have h := hhealthy hp s.debug now options
          rw [hcore, hpoisoned] at h
          exact h rfl
        simp only [hpoisoned, if_true]
        exact ⟨e, .refused (.reserve now options .ownerPoisoned) (.inr ⟨hrunning, hsick, rfl⟩),
          fun s' h => by cases h; exact howns.latch .core⟩
      · simp only [if_neg hpoisoned]
        exact ⟨e, .refused (.reserve now options error) (.inl rfl), fun s' h =>
          by cases h; exact howns⟩
    | ok permit =>
      obtain ⟨e', hholds, hstep, _⟩ := hfollow
      have hoperations : core.machine.ledger.operations = e'.permits.length + e'.lane.length := by
        rw [hholds.core.policy.accounts.operations, Epoch.holdings]
        simp
      have hstep' := hstep
      cases hstep with
      | reserved healthy operations effects identity home fresh admitted =>
      simp only
      by_cases hroom : EventBatch.len s.outcomes +
        core.machine.ledger.operations > s.limits.operationCapacity
      · have hlast : (e.permits ++ [permit])[e.permits.length]? = some permit := by simp
        have hback : (e.permits ++ [permit]).eraseIdx e.permits.length = e.permits := by
          simp [List.eraseIdx_append_of_length_le]
        have hdrop := hholds.core.dropPermit hlast
        have hwf := hholds.wf.dropped e.permits.length
        simp only [hback] at hdrop hwf
        rw [if_pos hroom]
        exact ⟨_, .returned hrunning hstep', fun s' h =>
          by cases h; exact ⟨hdrop, howns.permits, hwf⟩⟩
      · rw [if_neg hroom]
        rw [hoperations] at hroom
        exact ⟨_, .reserved hrunning hstep' (not_lt.mp hroom), fun s' h => by cases h; exact hholds⟩

omit [InboundClassifier C R] in
/-- A refused commit. -/
lemma commit_refused (howns : Owns permits s e) {permit : OperationPermit} {frame : OutboundFrame}
    {error : FrameCommitError OutboundFrame}
    (hcore : s.core.commit (R := Unit) s.debug permit frame OutboundFrame.view =
      (.error error, s.core)) :
    ∃ error' s', s.commit permit frame = (.error error', s') ∧ acceptedBy (.error error') = none ∧
      Owns permits s' e ∧
      (s' = s ∨ s.state = .running ∧ e.poisoned ≠ none ∧ s' = s.latchOwnerFailure .core) := by
  cases hstate : s.state with
  | failed reason =>
    refine ⟨.ownerFailed reason permit frame, s, ?_, rfl, howns, .inl rfl⟩
    simp only [ConnectionSlot.commit, hstate, EngineState.failure]
  | running =>
    by_cases hpoisoned : error.failure = .policy .ownerPoisoned
    · have hsick : e.poisoned ≠ none := by
        intro hp
        refine howns.core.commit_healthy (R := Unit) howns.wf hp s.debug permit frame
          OutboundFrame.view ?_ hpoisoned
        rw [hcore]
      refine ⟨.ownerFailed .core error.permit error.frame, s.latchOwnerFailure .core, ?_, rfl,
        howns.latch .core,
        .inr ⟨rfl, hsick, rfl⟩⟩
      simp only [ConnectionSlot.commit, failure_none_iff.mpr hstate, hcore, if_pos hpoisoned]
    · refine ⟨.rejected error, s, ?_, rfl, howns, .inl rfl⟩
      simp only [ConnectionSlot.commit, failure_none_iff.mpr hstate, hcore, if_neg hpoisoned]

lemma commit_step (howns : Owns permits s e) (index : ℕ) (frame : OutboundFrame) :
    FollowsSlot (T := T) s e permits (.commit index frame)
      (SlotWorld.slotStep s permits (.commit index frame)) := by
  have hfollow := follows_step (R := Unit) howns s.debug (.commit index frame OutboundFrame.view)
  simp only [SlotWorld.slotStep]
  simp only [World.step, World.commit] at hfollow
  cases hlive : permits[index]? with
  | none => exact ⟨e, .unavailable s e permits _, fun s' h => by cases h; exact howns⟩
  | some permit =>
    rw [hlive] at hfollow
    simp only at hfollow ⊢
    cases hcore : s.core.commit (R := Unit) s.debug permit frame OutboundFrame.view with
    | mk result core =>
    rw [hcore] at hfollow
    cases result with
    | error error =>
      obtain ⟨_, _, _, hquiet⟩ := hfollow
      have hsame : core = s.core := congrArg World.core (hquiet trivial)
      subst hsame
      obtain ⟨error', s', hrun, hnone, howns', hlatched⟩ := commit_refused howns hcore
      rw [hrun]
      simp only [hnone]
      exact ⟨e, .refused (.commit index frame hnone) hlatched, fun s' h => by cases h; exact howns'⟩
    | ok accepted =>
      obtain ⟨operation, tr⟩ := accepted
      obtain ⟨e', hholds, hstep, _⟩ := hfollow
      cases hstate : s.state with
      | failed reason =>
        have hrun : s.commit permit frame = (.error (.ownerFailed reason permit frame), s) := by
          simp only [ConnectionSlot.commit, hstate, EngineState.failure]
        rw [hrun]
        exact ⟨e, .refused (.commit index frame rfl) (.inl rfl), fun s' h =>
          by cases h; exact howns⟩
      | running =>
        have hown := own_interpret (R := R) unitOutcome tr { s with core }
        have hlatched := latched_of_own hown (interpretUnit tr { s with core }).2
        have hint : Owns (permits.eraseIdx index) (interpretUnit tr { s with core }).2 e' :=
          owns_of_eq (interpret_limits ..) (interpret_core ..) hholds
        have hrun : s.commit permit frame =
          (commitResult operation (interpretUnit tr { s with core }).1,
            latchResult (interpretUnit tr { s with core }).2
                (interpretUnit tr { s with core }).1) := by
          simp only [ConnectionSlot.commit, failure_none_iff.mpr hstate, hcore]
          cases interpretUnit tr { s with core } with
          | mk r s' => cases r <;> rfl
        have haccepted : acceptedBy (commitResult operation (interpretUnit tr { s with core }).1) =
            some operation :=
          acceptedBy_commitResult operation _
        rw [hrun]
        simp only [haccepted, Option.isSome_some, if_true]
        exact ⟨e', .committed hstate hstep hlatched, fun s' h =>
          by cases h; exact hint.latched hlatched⟩

lemma commitForeign_step (howns : Owns permits s e) (permit : OperationPermit)
    (frame : OutboundFrame) :
    FollowsSlot (T := T) s e permits (.commitForeign permit frame)
      (SlotWorld.slotStep s permits (.commitForeign permit frame)) := by
  have hfollow :=
    follows_step (R := Unit) howns s.debug (.commitForeign permit frame OutboundFrame.view)
  simp only [SlotWorld.slotStep]
  simp only [World.step] at hfollow
  by_cases hhome : permit.ledger = s.core.machine.ledgerId
  · rw [if_pos hhome]
    exact ⟨e, .unavailable s e permits _, fun s' h => by cases h; exact howns⟩
  · rw [if_neg hhome] at hfollow ⊢
    obtain ⟨e', hholds, hstep, hquiet⟩ := hfollow
    cases hcore : s.core.commit (R := Unit) s.debug permit frame OutboundFrame.view with
    | mk result core =>
    rw [hcore] at hquiet hstep
    cases result with
    | ok => cases hstep
    | error error =>
      have hsame : core = s.core := congrArg World.core (hquiet trivial)
      subst hsame
      obtain ⟨error', s', hrun, hnone, howns', hlatched⟩ := commit_refused howns hcore
      rw [hrun]
      exact ⟨e, .refused (.commitForeign permit frame hnone) hlatched, fun s' h =>
        by cases h; exact howns'⟩

/-- What the confirmation of a close answers. -/
lemma epochClosed_effects {e e' : Epoch OutboundFrame} {epoch : ConnectionEpoch}
    {tr : ConnectionTransition Unit}
    (h : Step e (.apply (.epochClosed epoch)) (.transition (.ok tr)) e') : tr.effects = [] := by
  cases h with
  | ignored _ _ _ quiet => exact quiet
  | removed _ _ _ _ removes => cases removes
  | closed _ _ closes => cases closes
  | confirmed => rfl

section
omit [InboundClassifier C R]

/-- The confirmation of a close: the core refuses it, or it has nothing left to interpret. -/
lemma confirmTransportClosed_run (howns : Owns permits s e) (reason : CloseReason) :
    ∃ e' core, Holds s.limits.connection ⟨core, permits⟩ e' ∧
      ((∃ tr, Step (R := Unit) e (.apply (.epochClosed s.epoch)) (.transition (.ok tr)) e' ∧
        confirmTransportClosed reason { s with closeRequest := none } =
          publishClosed reason { s with core, transportState := .closed, closeRequest := none }) ∨
      ∃ source, Step (R := Unit) e (.apply (.epochClosed s.epoch))
        (.transition (.error source)) e' ∧
        confirmTransportClosed reason { s with closeRequest := none } =
          (.error (.core source), { s with
            core, transportState := .closed, closeRequest := none })) := by
  obtain ⟨e', hholds, hstep, _⟩ :=
    follows_step (R := Unit) howns s.debug (.apply (.epochClosed s.epoch))
  simp only [World.step, World.transition] at hholds hstep
  cases hcore : ConnectionCore.apply (R := Unit) s.debug (.epochClosed s.epoch) s.core with
  | mk result core =>
  rw [hcore] at hholds hstep
  let s₁ : ConnectionSlot B D C R Q W := { s with transportState := .closed, closeRequest := none }
  have hconfirm : confirmTransportClosed reason { s with closeRequest := none } =
      (do let tr ← applyCore (.epochClosed s.epoch); interpretUnit tr; publishClosed reason :
        Run B D C R Q W Unit) s₁ := rfl
  refine ⟨e', core, hholds, ?_⟩
  cases result with
  | error source =>
    exact .inr ⟨source, hstep,
      hconfirm.trans (Owner.bind_error (applyCore_error (s := s₁) hcore) _)⟩
  | ok tr =>
    have hnil : interpretUnit tr { s₁ with core } = (.ok (), { s₁ with core }) :=
      interpret_nil unitOutcome (epochClosed_effects hstep) _
    refine .inl ⟨tr, hstep, ?_⟩
    rw [hconfirm, Owner.bind_ok (applyCore_ok (s := s₁) hcore), Owner.bind_ok hnil]

lemma settleCore_ok {s s' : ConnectionSlot B D C R Q W} {reason : CloseReason}
    (h : confirmTransportClosed reason s = (.ok (), s')) : s.settleCore reason = s' := by
  simp only [settleCore, h]

lemma settleCore_error {s s' : ConnectionSlot B D C R Q W} {reason : CloseReason}
    {error : EngineError} (h : confirmTransportClosed reason s = (.error error, s')) :
    s.settleCore reason = (s'.latchFailure error).abortTransport := by
  simp only [settleCore, h]

end

/-- The settlement of a core close. -/
lemma settleCore_step (howns : Owns permits s e) {reason : CloseReason} {shutdown : ShutdownState}
    (request : s.closeRequest = some (.core reason shutdown))
    (ready : shutdown = .immediate ∨ shutdown = .complete) :
    ∃ e', SlotStep (T := T) s e permits .settleTransportClosed (.settled true)
        (some ({ s with closeRequest := none }.settleCore reason)) e' permits ∧
      Owns permits ({ s with closeRequest := none }.settleCore reason) e' := by
  obtain ⟨e', core, hholds, ⟨tr, hstep, hrun⟩ | ⟨source, hstep, hrun⟩⟩ :=
    confirmTransportClosed_run howns reason
  · let s₁ : ConnectionSlot B D C R Q W :=
      { s with core, transportState := .closed, closeRequest := none }
    have hpub : Owns permits (publishClosed reason s₁).2 e' :=
      owns_of_eq (fixed_publish _ _).limits (publishNext_core ..) hholds
    cases hpublished : (publishClosed reason s₁).1 with
    | ok =>
      rw [settleCore_ok (hrun.trans (Prod.ext hpublished rfl))]
      exact ⟨e', .confirmed request ready hstep hpublished, hpub⟩
    | error error =>
      obtain ⟨i, rfl⟩ := publishNext_internal _ _ _ hpublished
      rw [settleCore_error (hrun.trans (Prod.ext hpublished rfl))]
      refine ⟨e', .unpublished request ready hstep hpublished, ?_⟩
      simp only [abortTransport, latchFailure]
      rw [latchOwnerFailure_frame]
      exact hpub
  · rw [settleCore_error hrun]
    refine ⟨e', .unconfirmed request ready hstep, ?_⟩
    simp only [abortTransport, latchFailure]
    rw [latchOwnerFailure_frame]
    exact hholds

lemma settle_step (howns : Owns permits s e) :
    FollowsSlot (T := T) s e permits .settleTransportClosed
      (SlotWorld.slotStep s permits .settleTransportClosed) := by
  simp only [SlotWorld.slotStep]
  by_cases hready : s.transportReleaseReady = true
  · cases hrequest : s.closeRequest with
    | none => simp [transportReleaseReady, hrequest] at hready
    | some directive =>
      cases directive with
      | abort =>
        have hrun : s.settleTransportClosed = (true, s.abortTransport) := by
          simp only [settleTransportClosed, takeCloseRequest, hready, if_true, hrequest]
          rfl
        rw [hrun]
        exact ⟨e, .aborted e permits hrequest, fun s' h => by cases h; exact howns⟩
      | core reason shutdown =>
        have hgraceful : shutdown = .immediate ∨ shutdown = .complete := by
          cases shutdown with
          | immediate => exact .inl rfl
          | complete => exact .inr rfl
          | _ => simp [transportReleaseReady, hrequest, CloseDirective.settlementReady] at hready
        have hrun : s.settleTransportClosed =
            (true, { s with closeRequest := none }.settleCore reason) := by
          simp only [settleTransportClosed, takeCloseRequest, hready, if_true, hrequest]
          rcases hgraceful with rfl | rfl <;> rfl
        rw [hrun]
        obtain ⟨e', hstep, howns'⟩ := settleCore_step (T := T) howns hrequest hgraceful
        exact ⟨e', hstep, fun s' h => by cases h; exact howns'⟩
  · have hfalse : s.transportReleaseReady = false := by simpa using hready
    have hrun : s.settleTransportClosed = (false, s) := by
      simp only [settleTransportClosed, takeCloseRequest, hfalse, Bool.false_eq_true, if_false]
    rw [hrun]
    exact ⟨e, .unsettled e permits hfalse, fun s' h => by cases h; exact howns⟩

/-- **One call of a slot is one step.** -/
theorem follows_slot (howns : Owns permits s e) (call : SlotCall T) :
    FollowsSlot s e permits call (SlotWorld.slotStep s permits call) := by
  cases call with
  | reserve now options => exact reserve_step howns now options
  | commit index frame => exact commit_step howns index frame
  | commitForeign permit frame => exact commitForeign_step howns permit frame
  | dropPermit index =>
    simp only [SlotWorld.slotStep]
    cases hlive : permits[index]? with
    | none => exact ⟨e, .unavailable s e permits _, fun s' h => by cases h; exact howns⟩
    | some permit =>
      obtain ⟨e', hholds, hstep, _⟩ := follows_step (R := Unit) howns s.debug (.dropPermit index)
      simp only [World.step, hlive] at hholds hstep
      cases hstep
      exact ⟨_, .dropped hlive, fun s' h => by cases h; exact hholds⟩
  | openAdmission =>
    obtain ⟨e', hstep, howns'⟩ :=
      guarded_step (T := T) (r := .disposed (ConnectionSlot.openAdmission s).1) howns
      walks_openAdmissionInner (.openAdmission _) rfl rfl
    exact ⟨e', hstep, fun s' h => by cases h; exact howns'⟩
  | cancel operation =>
    obtain ⟨e', hstep, howns'⟩ :=
      guarded_step (T := T) (r := .cancelled (ConnectionSlot.cancel operation s).1) howns
      (walks_cancelInner rfl) (.cancel operation _) rfl rfl
    exact ⟨e', hstep, fun s' h => by cases h; exact howns'⟩
  | beginDrain deadline =>
    obtain ⟨e', hstep, howns'⟩ :=
      guarded_step (T := T) (r := .disposed (ConnectionSlot.beginDrain deadline s).1) howns
      (walks_beginDrainInner rfl) (.beginDrain deadline _) rfl rfl
    exact ⟨e', hstep, fun s' h => by cases h; exact howns'⟩
  | finalize reason =>
    obtain ⟨e', hstep, howns'⟩ :=
      guarded_step (T := T) (r := .disposed (ConnectionSlot.finalize reason s).1) howns
      (walks_finalizeInner rfl) (.finalize reason _) rfl rfl
    exact ⟨e', hstep, fun s' h => by cases h; exact howns'⟩
  | driveQuantum now transport =>
    obtain ⟨e', hstep, howns'⟩ := driveQuantum_step howns now transport
    exact ⟨e', hstep, fun s' h => by cases h; exact howns'⟩
  | drainOutcomes => exact ⟨e, .drainedOutcomes s e permits, fun s' h => by cases h; exact howns⟩
  | drainEvents => exact ⟨e, .drainedEvents s e permits, fun s' h => by cases h; exact howns⟩
  | settleTransportClosed => exact settle_step howns
  | recover reason =>
    obtain ⟨e', hholds, hstep, _⟩ := follows_step (R := Unit) howns s.debug .recover
    refine ⟨e, .recovered s e permits reason ?_, fun s' h => by cases h⟩
    cases hrecover : s.core.recover with
    | mk recovery core =>
    simp only [World.step, hrecover] at hstep
    simp only [ConnectionSlot.recover, recoverOwned, hrecover]
    cases hstep
    rfl

/-! ### Runs -/

/-- The world of a slot is in the state of an epoch, which has `I`; once the slot is recovered, `J`
holds of what happened. -/
def Standing
    (I : List (SlotEvent B D C R Q W T) → ConnectionSlot B D C R Q W → Epoch OutboundFrame →
      List OperationPermit → Prop) (J : List (SlotEvent B D C R Q W T) → Prop)
        (h : List (SlotEvent B D C R Q W T)) (w : SlotWorld B D C R Q W) : Prop :=
  match w.slot with
  | none => J h
  | some s => ∃ e, Owns w.permits s e ∧ I h s e w.permits

/-- **The rule for runs of a slot.** What the first slot has and every step keeps holds in every
run. -/
theorem standing_run
    {I : List (SlotEvent B D C R Q W T) → ConnectionSlot B D C R Q W → Epoch OutboundFrame →
      List OperationPermit → Prop} {J : List (SlotEvent B D C R Q W T) → Prop}
        (setup : SlotSetup D C R E)
    (hnew : I [] setup.slot (Epoch.new setup.config.ledgerId setup.config.epoch ⟨0, 0⟩) [])
    (hstep : ∀ h (s : ConnectionSlot B D C R Q W) e permits (call : SlotCall T) s' e'
      (ev : SlotEvent B D C R Q W T),
      Owns permits s e → I h s e permits →
        SlotStep s e permits call ev.output (some s') e' ev.after.permits →
      ev.before = ⟨some s, permits⟩ → ev.input = call → ev.after.slot = some s' →
        Owns ev.after.permits s' e' →
      I (h ++ [ev]) s' e' ev.after.permits)
    (hrecover : ∀ h (s : ConnectionSlot B D C R Q W) e permits
      (ev : SlotEvent B D C R Q W T) reason,
      Owns permits s e → I h s e permits → ev.before = ⟨some s, permits⟩ →
        ev.input = .recover reason →
      ev.output = .recovered (s.recover reason) →
      (s.recover reason).operations = (e.lane.filter Item.owed).map Item.recovered → J (h ++ [ev]))
    (hgone : ∀ h (ev : SlotEvent B D C R Q W T), J h → ev.before.slot = none →
      ev.output = .dropped ∨ ev.output = .unavailable → J (h ++ [ev]))
    (calls : List (SlotCall T)) :
    Standing I J (setup.history B Q W calls) (setup.final B Q W calls) := by
  refine Transducer.history_induction (P := Standing I J) ?_ ?_ calls
  · exact ⟨_, holds_new .., hnew⟩
  · intro h w call hw
    obtain ⟨slot, permits⟩ := w
    cases slot with
    | none =>
      have hJ : J h := hw
      have hgone' := hgone h (Transducer.event SlotWorld.step ⟨none, permits⟩ call) hJ rfl
      cases call with
      | dropPermit index => exact hgone' (.inl rfl)
      | _ => exact hgone' (.inr rfl)
    | some s =>
      obtain ⟨e, howns, hI⟩ := hw
      obtain ⟨e', hslot, hnext⟩ := follows_slot howns call
      have hstep' := hstep h s e permits call
      unfold Standing
      cases hafter : (SlotWorld.step ⟨some s, permits⟩ call).1.slot with
      | some s' =>
        have hafter' : (SlotWorld.slotStep s permits call).1.slot = some s' := hafter
        rw [hafter'] at hslot
        exact ⟨e', hnext s' hafter',
          hstep' s' e' _ howns hI hslot rfl rfl hafter (hnext s' hafter')⟩
      | none =>
        have hafter' : (SlotWorld.slotStep s permits call).1.slot = none := hafter
        rw [hafter'] at hslot
        generalize hout : (SlotWorld.slotStep s permits call).2 = r at hslot
        generalize (SlotWorld.slotStep s permits call).1.permits = permits' at hslot
        cases hslot with
        | recovered _ _ reason operations =>
          exact hrecover h s e permits _ reason howns hI rfl rfl hout operations

end Bornera.Slot
