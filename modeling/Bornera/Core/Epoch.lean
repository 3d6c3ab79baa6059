import Bornera.Core.Calls

/-!
# The epoch as one lane

What a connection epoch is for, said without ledgers, budgets, journals and audits: a lane of
accepted operations in wire order, each with its frame while the writer still holds one, behind a
list of permits. `Step` lists everything one call can do to it, with what the call hands back.
`Bornera.Core.Refinement` shows that the code does nothing else.
-/

namespace Bornera.Core

/-! ### Items -/

/-- A record after its whole frame has left the writer. -/
def OperationRecord.released (r : OperationRecord) : OperationRecord :=
  { r with
    phase := if r.phase ≠ .terminal then .awaitingReply else r.phase
    writeHeld := false }

/-- An accepted operation, with its frame while the writer holds it. -/
structure Item (F : Type) where
  record : OperationRecord
  write : Option (QueuedWrite F)

namespace Item

variable {F R : Type}

def id (x : Item F) : OperationId := x.record.id

def key (x : Item F) : MatchKey := x.record.reservation.matchKey

/-- The operation has not settled: its observer is still owed an outcome. -/
def owed (x : Item F) : Bool := x.record.phase ≠ .terminal

/-- What policy and writer together know about the delivery. -/
def delivery (x : Item F) : Delivery :=
  match x.write with
  | none => x.record.delivery
  | some w => weaken x.record.delivery w.delivery

/-- An operation accepted with a permit. -/
def accept (p : OperationPermit) (frame : F) (measure : FrameMeasure) : Item F :=
  ⟨ConnectionMachine.recordOf p measure.retainedBytes,
    some ⟨p.operation, p.effect, frame, measure, 0, false⟩⟩

/-- The operation after its observer left. -/
def bury (x : Item F) : Item F := { x with record.phase := .terminal }

/-- The record after a report of `n` bytes that its frame `w` accepted. -/
def reported (x : Item F) (w : QueuedWrite F) (n : ℕ) : OperationRecord :=
  if 0 < n ∧ w.started = false then { x.record with delivery := .possiblySent, phase := .writing }
  else x.record

/-- The item after a report of `n` bytes that leaves its frame `w` unfinished. -/
def progress (x : Item F) (w : QueuedWrite F) (n : ℕ) : Item F :=
  ⟨x.reported w n, some { w with started := w.started || decide (0 < n), written := w.written + n }⟩

/-- The item after a report of `n` bytes that finishes its frame `w`. -/
def finish (x : Item F) (w : QueuedWrite F) (n : ℕ) : Item F := ⟨(x.reported w n).released, none⟩

/-- The item after a report of more bytes than its frame `w` has left. -/
def overrun (x : Item F) (w : QueuedWrite F) : Item F :=
  { x with write := some { w with started := true } }

/-- The outcome of an item, when one is owed. -/
def publish (x : Item F) (epoch : ConnectionEpoch) (outcome : OperationOutcome R) :
    List (ConnectionEffect R) :=
  if x.owed then [.publishOutcome epoch x.id outcome] else []

/-- What the caller sees of an item when the epoch closes. -/
def farewell (epoch : ConnectionEpoch) (reason : CloseReason)
    (failure : Option (OperationId × OperationFailure)) (x : Item F) : List (ConnectionEffect R) :=
  .cancelDeadline epoch x.id ::
    x.publish epoch (.failed (ConnectionMachine.closeFailure reason failure x.record)
      x.record.delivery)

/-- What recovery hands back for an item. -/
def recovered (x : Item F) : RecoveredOperation F :=
  ⟨x.id, x.delivery, x.write.map QueuedWrite.frame⟩

end Item

/-! ### Epochs -/

/-- The state of one epoch, as its callers may think of it. -/
structure Epoch (F : Type) where
  ledgerId : ℕ
  epoch : ConnectionEpoch
  permits : List OperationPermit
  lane : List (Item F)
  gate : AdmissionGate
  phase : ConnectionPhase
  closeReason : Option CloseReason
  identities : IdentityGenerator
  poisoned : Option ConnectionCoreInvariant

namespace Epoch

variable {F R : Type}

def new (ledgerId : ℕ) (epoch : ConnectionEpoch) (seeds : IdentitySeeds) : Epoch F :=
  ⟨ledgerId, epoch, [], [], .sessionOnly, .live, none, IdentityGenerator.new seeds, none⟩

/-- The frames the writer holds, in wire order. -/
def frames (e : Epoch F) : List (QueuedWrite F) := e.lane.filterMap Item.write

/-- The effects of closing. -/
def closing (e : Epoch F) (reason : CloseReason)
    (failure : Option (OperationId × OperationFailure)) :
    List (ConnectionEffect R) :=
  .closeEpoch e.epoch reason :: e.lane.flatMap (Item.farewell e.epoch reason failure)

def close (e : Epoch F) (reason : CloseReason) : Epoch F :=
  { e with lane := [], gate := .closed, phase := .closing, closeReason := some reason }

/-- The last record has left a draining epoch. -/
def drains (e : Epoch F) : Bool := e.gate = .draining ∧ e.lane.isEmpty

/-- The effects of a drain that ends here. -/
def drainEffects (e : Epoch F) : List (ConnectionEffect R) :=
  if e.drains then [.closeEpoch e.epoch .drained] else []

/-- The epoch, closed when its drain ends here. -/
def drained (e : Epoch F) : Epoch F := if e.drains then e.close .drained else e

/-- The calls that close an epoch, with the reason, the failure of one operation and the
disposition they come with. -/
inductive Closes (e : Epoch F) : Call F R → CloseReason → Option (OperationId × OperationFailure) →
    InputDisposition → Prop where
  | requested (reason : CloseReason) :
    Closes e (.apply (.closeRequested e.epoch reason)) reason none .applied
  | malformed : Closes e (.apply (.replyMalformed e.epoch)) .malformedReply none .fault
  | late {x : Item F} {now : ℕ} (mem : x ∈ e.lane) (sent : x.record.delivery = .possiblySent)
    (elapsed : x.record.deadline.isElapsedAt now = true) :
    Closes e (.apply (.deadlineElapsed e.epoch x.id now)) .deadlineAfterPossibleSend none .applied
  | unexpected {key : MatchKey} {frame : R}
    (front : ∀ x rest, e.lane = x :: rest → ConnectionMachine.repliable x.record = false) :
    Closes e (.applyReply ⟨e.epoch, key, frame⟩) .unexpectedReply none .fault
  | mismatch {x : Item F} {rest : List (Item F)} {key : MatchKey} {frame : R}
    (front : e.lane = x :: rest)
    (ready : ConnectionMachine.repliable x.record = true) (other : key ≠ x.key) :
    Closes e (.applyReply ⟨e.epoch, key, frame⟩) (.matchKeyMismatch x.key key)
      (some (x.id, .matchKeyMismatch x.key key)) .fault

/-- The calls that remove an unsent operation `x`, with its outcome and the cancel outcome. -/
inductive Removes (e : Epoch F)
    (x : Item F) : Call F R → OperationOutcome R → Option CancelOutcome → Prop where
  | cancel : Removes e x (.apply (.cancel e.epoch x.id)) (.cancelled .notSent)
    (some .cancelledNotSent)
  | deadline {now : ℕ} (elapsed : x.record.deadline.isElapsedAt now = true) :
    Removes e x (.apply (.deadlineElapsed e.epoch x.id now))
      (.failed .deadlineElapsed .notSent) none

/-- An input or a reply that finds nothing to do. -/
def Ignorable : InputDisposition → Prop
  | .applied | .fault => False
  | _ => True

/-- A call that a core answers with a transition. -/
inductive Drives : Call F R → Prop where
  | apply (input : ConnectionInput) : Drives (.apply input)
  | applyReply (reply : InboundReply R) : Drives (.applyReply reply)
  | advanceWrite (epoch : ConnectionEpoch) (effect : EffectId) (written : ℕ) :
    Drives (.advanceWrite epoch effect written)

/-- The calls that name a permit. -/
inductive Names : Call F R → Prop where
  | commit (index : ℕ) (frame : F) (view : FrameView F) : Names (.commit index frame view)
  | commitForeign (p : OperationPermit) (frame : F) (view : FrameView F) : Names
    (.commitForeign p frame view)
  | dropPermit (index : ℕ) : Names (.dropPermit index)

/-- The epoch has nothing to do on an input of its own. -/
def Deaf (e : Epoch F) : ConnectionInput → Prop
  | .openAdmission _ => e.phase ≠ .live ∨ e.gate ≠ .sessionOnly
  | .cancel _ operation => ∀ x ∈ e.lane, x.id = operation → x.owed = false
  | .deadlineElapsed _ operation _ => ∀ x ∈ e.lane, x.id ≠ operation
  | .replyMalformed _ => e.phase ≠ .live
  | .beginDrain _ => e.phase ≠ .live ∨ e.gate = .closed ∨ e.gate = .draining
  | .closeRequested _ _ => e.phase ≠ .live
  | .epochClosed _ => e.phase ≠ .closing

/-- The calls that find nothing to do: an input that names another epoch or comes in a
state that has no use for it, and a reply that names another epoch or comes after the
epoch stopped being live. -/
inductive Ignores (e : Epoch F) : Call F R → Prop where
  | stale {input : ConnectionInput} (other : input.epoch ≠ e.epoch) : Ignores e (.apply input)
  | input {input : ConnectionInput} (deaf : e.Deaf input) : Ignores e (.apply input)
  | reply {reply : InboundReply R} (late : reply.epoch ≠ e.epoch ∨ e.phase ≠ .live) :
    Ignores e (.applyReply reply)

/-- The errors of the writer that change nothing. -/
inductive Unmoved (e : Epoch F) (epoch : ConnectionEpoch)
    (effect : EffectId) : WriteProgressError → Prop where
  | stale (other : epoch ≠ e.epoch) : Unmoved e epoch effect (.staleEpoch e.epoch epoch)
  | idle (current : epoch = e.epoch) (empty : e.frames = []) : Unmoved e epoch effect
    .noPendingWrite
  | disordered {w : QueuedWrite F} {rest : List (QueuedWrite F)} (current : epoch = e.epoch)
    (front : e.frames = w :: rest) (other : w.effect ≠ effect) :
    Unmoved e epoch effect (.outOfOrderEffect w.effect effect)

/-- The answer of the writer's front to a request for at most `maximum` bytes. -/
inductive Offers (e : Epoch F) (view : FrameView F) (maximum : ℕ) : Option WriteSlice → Prop where
  | nothing (empty : e.frames = []) : Offers e view maximum none
  | slice {w : QueuedWrite F} {rest : List (QueuedWrite F)} (front : e.frames = w :: rest)
    (stable : (view.bytes w.frame).length = w.measure.wireBytes) :
    Offers e view maximum
      (some ⟨e.epoch, w.operation, w.effect, ((view.bytes w.frame).drop w.written).take maximum⟩)

/-- The item whose frame is at the front of the writer: those before it hold none. -/
structure AtFront (e : Epoch F) (pre : List (Item F)) (x : Item F) (w : QueuedWrite F)
    (post : List (Item F)) : Prop where
  lane : e.lane = pre ++ x :: post
  before : ∀ y ∈ pre, y.write = none
  write : x.write = some w

/-- **Everything one call can do.** -/
inductive Step : Epoch F → Call F R → Response F R → Epoch F → Prop where
  /-- The call names a permit its caller does not have. -/
  | unavailable (e : Epoch F) {c : Call F R} (names : Names c) : Step e c .unavailable e
  | reserveRefused (e : Epoch F) (now : ℕ) (options : OperationOptions) (error : ReserveError) :
    Step e (.reserve now options) (.reserved (.error error)) e
  | reserved {e : Epoch F} {p : OperationPermit} {operation effect now : ℕ}
    {options : OperationOptions}
    (healthy : e.poisoned = none) (operations : e.identities.operation = some operation)
    (effects : e.identities.effect = some effect)
    (identity : p.operation = ⟨operation⟩ ∧ p.effect = ⟨effect⟩)
    (home : p.ledger = e.ledgerId ∧ p.epoch = e.epoch)
    (fresh : p.reservation.matchKey ∉
      e.permits.map (fun p => p.reservation.matchKey) ++ e.lane.map Item.key)
    (admitted : e.gate.admits options.admissionClass = true) :
    Step e (.reserve now options) (.reserved (.ok p))
      { e with
        permits := e.permits ++ [p]
        identities := ⟨checkedAdd operation 1, checkedAdd effect 1⟩ }
  | commitRefused {e : Epoch F} {p : OperationPermit} {index : ℕ}
    (live : e.permits[index]? = some p)
    (frame : F) (view : FrameView F) (kind : CommitErrorKind) :
    Step e (.commit index frame view) (.committed (.error ⟨.policy kind, p, frame⟩)) e
  | foreignRefused (e : Epoch F) (p : OperationPermit) (frame : F) (view : FrameView F)
    (kind : CommitErrorKind) :
    Step e (.commitForeign p frame view) (.committed (.error ⟨.policy kind, p, frame⟩)) e
  | committed {e : Epoch F} {p : OperationPermit} {index : ℕ} {frame : F} {view : FrameView F}
    (healthy : e.poisoned = none) (live : e.permits[index]? = some p)
    (admitted : e.gate.admits p.admissionClass = true) :
    Step e (.commit index frame view)
      (.committed (.ok (p.operation,
        ⟨.applied, none, [.scheduleDeadline e.epoch p.operation p.deadline]⟩)))
      { e with
        permits := e.permits.eraseIdx index
        lane := e.lane ++ [Item.accept p frame (FrameMeasure.capture view frame)] }
  | dropped {e : Epoch F} {p : OperationPermit} {index : ℕ} (live : e.permits[index]? = some p) :
    Step e (.dropPermit index) .dropped { e with permits := e.permits.eraseIdx index }
  | refused {e : Epoch F} {c : Call F R} {source : ConnectionCoreInvariant} (drives : Drives c)
    (poisoned : e.poisoned = some source) : Step e c (.transition (.error (.poisoned source))) e
  | ignored {e : Epoch F} {c : Call F R} {t : ConnectionTransition R} (ignores : Ignores e c)
    (healthy : e.poisoned = none) (nothing : Ignorable t.disposition) (quiet : t.effects = []) :
    Step e c (.transition (.ok t)) e
  | opened {e : Epoch F} (healthy : e.poisoned = none) (live : e.phase = .live)
    (gate : e.gate = .sessionOnly) :
    Step e (.apply (.openAdmission e.epoch)) (.transition (.ok ⟨.applied, none, []⟩))
      { e with gate := .opened }
  | rescheduled {e : Epoch F} {x : Item F} {now : ℕ} (healthy : e.poisoned = none)
    (mem : x ∈ e.lane)
    (early : x.record.deadline.isElapsedAt now = false) :
    Step e (.apply (.deadlineElapsed e.epoch x.id now))
      (.transition (.ok ⟨.applied, none, [.scheduleDeadline e.epoch x.id x.record.deadline]⟩)) e
  | removed {e : Epoch F} {c : Call F R} {pre post : List (Item F)} {x : Item F}
    {outcome : OperationOutcome R}
    {cancelled : Option CancelOutcome} (healthy : e.poisoned = none)
    (lane : e.lane = pre ++ x :: post)
    (owed : x.owed = true) (unsent : x.record.delivery = .notSent)
    (removes : Removes e x c outcome cancelled) :
    Step e c
      (.transition (.ok ⟨.applied, cancelled,
        [.cancelDeadline e.epoch x.id, .publishOutcome e.epoch x.id outcome] ++
          { e with lane := pre ++ post }.drainEffects⟩))
      { e with lane := pre ++ post }.drained
  | buried {e : Epoch F} {pre post : List (Item F)} {x : Item F} (healthy : e.poisoned = none)
    (lane : e.lane = pre ++ x :: post) (owed : x.owed = true)
    (sent : x.record.delivery = .possiblySent) :
    Step e (.apply (.cancel e.epoch x.id))
      (.transition (.ok ⟨.applied, some (.observationCancelled .possiblySent),
        [.publishOutcome e.epoch x.id (.cancelled .possiblySent)]⟩))
      { e with lane := pre ++ x.bury :: post }
  | closed {e : Epoch F} {c : Call F R} {reason : CloseReason}
    {failure : Option (OperationId × OperationFailure)} {disposition : InputDisposition}
    (healthy : e.poisoned = none) (live : e.phase = .live)
    (closes : Closes e c reason failure disposition) :
    Step e c (.transition (.ok ⟨disposition, none, e.closing reason failure⟩)) (e.close reason)
  | draining {e : Epoch F} (healthy : e.poisoned = none) (live : e.phase = .live)
    (gate : e.gate = .sessionOnly ∨ e.gate = .opened) :
    Step e (.apply (.beginDrain e.epoch))
      (.transition (.ok ⟨.applied, none, { e with gate := .draining }.drainEffects⟩))
      { e with gate := .draining }.drained
  | confirmed {e : Epoch F} (healthy : e.poisoned = none) (phase : e.phase = .closing) :
    Step e (.apply (.epochClosed e.epoch)) (.transition (.ok ⟨.applied, none, []⟩))
      { e with phase := .closed, gate := .closed }
  | replied {e : Epoch F} {x : Item F} {rest : List (Item F)} {frame : R}
    (healthy : e.poisoned = none)
    (live : e.phase = .live) (front : e.lane = x :: rest)
    (ready : ConnectionMachine.repliable x.record = true) :
    Step e (.applyReply ⟨e.epoch, x.key, frame⟩)
      (.transition (.ok ⟨.applied, none,
        .cancelDeadline e.epoch x.id :: x.publish e.epoch (.reply frame) ++
          { e with lane := rest }.drainEffects⟩))
      { e with lane := rest }.drained
  | unmoved {e : Epoch F} {epoch : ConnectionEpoch} {effect : EffectId}
    {source : WriteProgressError}
    (healthy : e.poisoned = none) (unmoved : Unmoved e epoch effect source) (n : ℕ) :
    Step e (.advanceWrite epoch effect n) (.transition (.error (.write source))) e
  | progressed {e : Epoch F} {pre post : List (Item F)} {x : Item F} {w : QueuedWrite F} {n : ℕ}
    (healthy : e.poisoned = none) (front : e.AtFront pre x w post)
    (unfinished : w.written + n < w.measure.wireBytes) :
    Step e (.advanceWrite e.epoch w.effect n) (.transition (.ok ⟨.applied, none, []⟩))
      { e with lane := pre ++ x.progress w n :: post }
  | finished {e : Epoch F} {pre post : List (Item F)} {x : Item F} {w : QueuedWrite F} {n : ℕ}
    (healthy : e.poisoned = none) (front : e.AtFront pre x w post)
    (whole : w.written + n = w.measure.wireBytes) (reply : x.record.completion = .replyExpected) :
    Step e (.advanceWrite e.epoch w.effect n) (.transition (.ok ⟨.applied, none, []⟩))
      { e with lane := pre ++ x.finish w n :: post }
  | completed {e : Epoch F} {pre post : List (Item F)} {x : Item F} {w : QueuedWrite F} {n : ℕ}
    (healthy : e.poisoned = none) (front : e.AtFront pre x w post)
    (whole : w.written + n = w.measure.wireBytes) (reply : x.record.completion = .writeComplete) :
    Step e (.advanceWrite e.epoch w.effect n)
      (.transition (.ok ⟨.applied, none,
        .cancelDeadline e.epoch x.id ::
          x.publish e.epoch (.writeComplete (x.reported w n).delivery) ++
          { e with lane := pre ++ post }.drainEffects⟩))
      { e with lane := pre ++ post }.drained
  | overran {e : Epoch F} {pre post : List (Item F)} {x : Item F} {w : QueuedWrite F} {n : ℕ}
    (healthy : e.poisoned = none) (front : e.AtFront pre x w post)
    (excess : w.measure.wireBytes < w.written + n) :
    Step e (.advanceWrite e.epoch w.effect n)
      (.transition (.error (.invariant
        (.writeProgressContract n (w.measure.wireBytes - w.written)))))
      { e with
        lane := pre ++ x.overrun w :: post
        poisoned := some (.writeProgressContract n (w.measure.wireBytes - w.written)) }
  | offered {e : Epoch F} {view : FrameView F} {maximum : ℕ} {slice : Option WriteSlice}
    (healthy : e.poisoned = none) (offers : Offers e view maximum slice) :
    Step e (.frontWrite view maximum) (.offered (.ok slice)) e
  | offerRefused {e : Epoch F} {source : ConnectionCoreInvariant}
    (poisoned : e.poisoned = some source)
    (view : FrameView F) (maximum : ℕ) :
    Step e (.frontWrite view maximum) (.offered (.error (.poisoned source))) e
  | reshaped {e : Epoch F} {w : QueuedWrite F} {rest : List (QueuedWrite F)} {view : FrameView F}
    {violation : FrameContractViolation} (healthy : e.poisoned = none)
    (front : e.frames = w :: rest)
    (changed : (view.bytes w.frame).length ≠ w.measure.wireBytes) (maximum : ℕ) :
    Step e (.frontWrite view maximum)
      (.offered (.error (.invariant (.frameContractViolation violation))))
      { e with poisoned := some (.frameContractViolation violation) }
  | recovered (e : Epoch F) (diverged : Bool) :
    Step e .recover
      (.recovered ⟨e.epoch, (e.lane.filter Item.owed).map Item.recovered, [], diverged⟩)
      { e with lane := [], poisoned := e.poisoned <|> some .recovered }

end Epoch
end Bornera.Core
