import Bornera.Slot.Calls

/-!
# What a slot can do

Every computation of a running slot is a path of moves: an exchange with the core whose effects are
interpreted, a lifecycle edge, a step of the shutdown, a look at the transport. A `Move` names the
guard under which it happens. What is true of a slot is proved of its moves, once each;
`Bornera.Slot.Walks` finds the paths of the computations.
-/

namespace Bornera.Slot

open Bornera.Core Bornera.Core.Epoch Lib ConnectionSlot

variable {B D C R E T : Type} {Q W : Type → Type} [ByteBudget B] [FrameDecoder D R E] [Retained R]
  [InboundClassifier C R] [EventBatch Q] [TimerQueue W] [SlotTransport T]

/-- The failure of a result. -/
def fault {α : Type} : Except EngineError α → Option EngineError
  | .ok _ => none
  | .error error => some error

/-- The failure is one of the core or of the transport, not of the slot's own bookkeeping. -/
def EngineError.outside : EngineError → Bool
  | .core _ => true
  | .invariant (.transportReadContract _ _) => true
  | .invariant (.transportProgressContract _ _) => true
  | .invariant .transportOpenedBeforeEstablishment => true
  | .invariant (.transportRetainedCapacity _ _) => true
  | .invariant (.transportLimitContract _ _) => true
  | .invariant .transportNoProgress => true
  | _ => false

lemma fault_eq {α : Type} {r : Except EngineError α} {error : EngineError} (h : error ∈ fault r) :
    r = .error error := by
  cases r with
  | ok => cases h
  | error =>
    cases h
    rfl

lemma ok_of_fault {r : Except EngineError Unit} (h : fault r = none) : r = .ok () := by
  cases r with
  | ok => rfl
  | error => cases h

/-- A slot within a computation: the transport it was given, the epoch of its core, and the
failure the computation has met. -/
structure Scene (B D C R : Type) (Q W : Type → Type) (T : Type) where
  slot : ConnectionSlot B D C R Q W
  transport : Option T
  epoch : Epoch OutboundFrame
  fault : Option EngineError

/-- What closes the epoch after a failure of the decoder. -/
def closingInput (epoch : ConnectionEpoch) : FrameDecodeError E → ConnectionInput
  | .retainedByteCapacity _ _ _ => .closeRequested epoch .inboundRetainedCapacity
  | .inputSizeOverflow => .closeRequested epoch .inboundRetainedCapacity
  | .retainedContractViolation _ _ => .closeRequested epoch .inboundRetainedCapacity
  | .decoderFailed => .replyMalformed epoch
  | .decoder _ => .replyMalformed epoch

/-- Why a slot calls its core during a public call, with what it changes of itself around the call
of the core. The transition is there when that call succeeds. -/
inductive Occasion (cause : SlotCall T) (s : ConnectionSlot B D C R Q W) (t : Option T) :
    Call OutboundFrame Unit → Option (ConnectionTransition Unit) →
      (ConnectionSlot B D C R Q W → ConnectionSlot B D C R Q W) → Option T → Prop where
  | admission (tr : Option (ConnectionTransition Unit)) (opened : s.transportState = .opened)
    (unapplied : tr.all (·.disposition ≠ .applied)) :
    Occasion cause s t (.apply (.openAdmission s.epoch)) tr id t
  | cancelled (tr : Option (ConnectionTransition Unit)) (operation : OperationId)
    (called : cause = .cancel operation) : Occasion cause s t
      (.apply (.cancel s.epoch operation)) tr id t
  | finalized (tr : Option (ConnectionTransition Unit)) (reason : CloseReason)
    (called : cause = .finalize reason) (unforced : s.forceShutdown = none) :
    Occasion cause s t (.apply (.closeRequested s.epoch reason)) tr id t
  | lost (tr : Option (ConnectionTransition Unit)) {reason : CloseReason}
    (undrained : reason ≠ .drained) :
    Occasion cause s t (.apply (.closeRequested s.epoch reason)) tr id t
  | oversized (tr : Option (ConnectionTransition Unit)) {frame : R} {decoder : FrameDriver D}
    (next : s.decoder.nextFrame = (.ok (some frame), decoder))
    (large : s.limits.replyBytes < Retained.retainedBytes frame) :
    Occasion cause s t (.apply (.closeRequested s.epoch .inboundRetainedCapacity)) tr
      ({ · with decoder }) t
  | unkeyed (tr : Option (ConnectionTransition Unit)) {frame : R} {decoder : FrameDriver D}
    {classifier : C}
    (next : s.decoder.nextFrame = (.ok (some frame), decoder))
    (small : Retained.retainedBytes frame ≤ s.limits.replyBytes)
    (key : InboundClassifier.replyKey s.classifier frame = (none, classifier)) :
    Occasion cause s t (.apply (.replyMalformed s.epoch)) tr ({ · with decoder, classifier }) t
  | full (tr : Option (ConnectionTransition Unit)) {decoder : FrameDriver D}
    (next : s.decoder.nextFrame = (.ok none, decoder))
    (retained : s.limits.decoderBytes ≤ decoder.retainedBytes) :
    Occasion cause s t (.apply (.closeRequested s.epoch .inboundRetainedCapacity)) tr
      ({ · with decoder, decoderPending := false }) t
  | undecodable (tr : Option (ConnectionTransition Unit)) {error : FrameDecodeError E}
    {decoder : FrameDriver D}
    (next : s.decoder.nextFrame = (.error error, decoder)) :
    Occasion cause s t (.apply (closingInput s.epoch error)) tr
      ({ · with decoder, decoderPending := false }) t
  | unfed (tr : Option (ConnectionTransition Unit)) {bytes : List UInt8}
    {error : FrameDecodeError E}
    {decoder : FrameDriver D} (fed : s.decoder.feed bytes = (.error error, decoder))
    (room : bytes.length ≤ s.readLength) (opened : s.transportState = .opened) :
    Occasion cause s t (.apply (closingInput s.epoch error)) tr ({ · with decoder }) t
  | drained (tr : Option (ConnectionTransition Unit)) (deadline : Deadline)
    (called : cause = .beginDrain deadline) :
    Occasion cause s t (.apply (.beginDrain s.epoch)) tr
      (fun s => if tr.any (·.disposition = .applied) then
        { s with drainDeadline := some deadline } else s) t
  | drainExpired (tr : Option (ConnectionTransition Unit)) {now : ℕ}
    (first : s.drainFirst now = true) :
    Occasion cause s t (.apply (.closeRequested s.epoch .requested)) tr
      ({ · with drainDeadline := none }) t
  | elapsed (tr : Option (ConnectionTransition Unit)) {now : ℕ} {event : DeadlineEvent}
    (due : (s.popDue now).1 = some event) :
    Occasion cause s t (.apply (.deadlineElapsed event.epoch event.operation now)) tr
      (fun s => (s.popDue now).2) t
  | empty (tr : Option (ConnectionTransition Unit)) {front : WriteSlice}
    (offered : s.core.frontWrite OutboundFrame.view s.limits.ioChunkBytes =
      (.ok (some front), s.core))
    (nothing : front.bytes = []) : Occasion cause s t
      (.advanceWrite front.epoch front.effect 0) tr id t
  | wrote (tr : Option (ConnectionTransition Unit)) {front : WriteSlice} {u : T} {written : ℕ}
    (offered : s.core.frontWrite OutboundFrame.view s.limits.ioChunkBytes =
      (.ok (some front), s.core))
    (here : t = some u) (reported : (SlotTransport.write u front.bytes).1 = .ok written)
    (progress : written ≠ 0) :
    Occasion cause s t (.advanceWrite front.epoch front.effect written) tr id
      (some (SlotTransport.write u front.bytes).2)

/-- A look at a transport or a step of it, other than the begin of its shutdown. -/
inductive Touch : T → T → Prop where
  | read (t : T) {n : ℕ} (slice : List.Vector UInt8 n) : Touch t (SlotTransport.read t slice).2
  | write (t : T) (bytes : List UInt8) : Touch t (SlotTransport.write t bytes).2
  | establish (t : T) (policy : TcpSocketPolicy) (budget : TransportBudget) :
    Touch t (SlotTransport.driveEstablishment t policy budget).2
  | drive (t : T) (budget : TransportBudget) : Touch t (SlotTransport.driveTransport t budget).2
  | canEstablish (t : T) : Touch t (SlotTransport.canEstablish t).2
  | hasTransportWork (t : T) : Touch t (SlotTransport.hasTransportWork t).2
  | isShutdownComplete (t : T) : Touch t (SlotTransport.isShutdownComplete t).2
  | isOpen (t : T) : Touch t (SlotTransport.isOpen t).2
  | canRead (t : T) : Touch t (SlotTransport.canRead t).2
  | canWrite (t : T) : Touch t (SlotTransport.canWrite t).2
  | clearRead (t : T) : Touch t (SlotTransport.clearRead t)
  | clearWrite (t : T) : Touch t (SlotTransport.clearWrite t)

/-- A step that the transport `t` advertised, whose report breaks the contract on progress. -/
inductive Misreports (s : ConnectionSlot B D C R Q W) (t : T) : EngineError → T → Prop where
  | establishing {t₀ : T} {progress : TransportProgress} {error : EngineError}
    (connecting : s.transportState = .connecting)
    (advertised : SlotTransport.canEstablish t₀ = (true, t))
    (reported : (SlotTransport.driveEstablishment t s.socketPolicy s.transportBudget).1 =
      .ok progress)
    (invalid : validateTransportProgress s.transportBudget progress = .error error) :
    Misreports s t error (SlotTransport.driveEstablishment t s.socketPolicy s.transportBudget).2
  | driving {t₀ : T} {progress : TransportProgress} {error : EngineError}
    (advertised : SlotTransport.hasTransportWork t₀ = (true, t))
    (reported : (SlotTransport.driveTransport t s.transportBudget).1 = .ok progress)
    (invalid : validateTransportProgress s.transportBudget progress = .error error) :
    Misreports s t error (SlotTransport.driveTransport t s.transportBudget).2

/-- How a step of the shutdown is made, by the state it is in. -/
inductive ShutsBy (T : Type) [SlotTransport T] :
    Deadline → ShutdownState →
      (T → TransportBudget → Except TransportDiagnostic TransportProgress × T) → Prop where
  | begin (deadline : Deadline) : ShutsBy T deadline (.pending deadline) SlotTransport.beginShutdown
  | drive (deadline : Deadline) : ShutsBy T deadline (.started deadline)
    SlotTransport.driveTransport

/-- **The moves of a slot** in the course of a public call, whose caller holds `permits`. A move
that meets a failure leaves a faulted scene, which only looks at the memory of the transport. -/
inductive Move (permits : List OperationPermit) (cause : SlotCall T) :
    Scene B D C R Q W T → Scene B D C R Q W T → Prop where
  /-- The core answers a call, and its effects are interpreted. -/
  | exchange {s : ConnectionSlot B D C R Q W} {t t' : Option T} {e e' : Epoch OutboundFrame}
    {call : Call OutboundFrame Unit} {tr : ConnectionTransition Unit}
    {f : ConnectionSlot B D C R Q W → ConnectionSlot B D C R Q W}
    {core : ConnectionCore B OutboundFrame}
    (occasion : Occasion cause s t call (some tr) f t')
    (step : Step e call (.transition (.ok tr)) e')
    (holds : Holds s.limits.connection ⟨core, permits⟩ e') :
    Move permits cause ⟨s, t, e, none⟩
      ⟨(interpretUnit tr (f { s with core })).2, t', e',
        fault (interpretUnit tr (f { s with core })).1⟩
  /-- The core refuses a call. -/
  | refused {s : ConnectionSlot B D C R Q W} {t t' : Option T} {e e' : Epoch OutboundFrame}
    {call : Call OutboundFrame Unit} {source : ConnectionCoreError}
    {f : ConnectionSlot B D C R Q W → ConnectionSlot B D C R Q W}
    {core : ConnectionCore B OutboundFrame}
    (occasion : Occasion cause s t call none f t')
    (step : Step e call (.transition (.error source)) e')
    (holds : Holds s.limits.connection ⟨core, permits⟩ e') :
    Move permits cause ⟨s, t, e, none⟩ ⟨f { s with core }, t', e', some (.core source)⟩
  /-- A decoded frame is handed to the core as a reply. -/
  | replied {s : ConnectionSlot B D C R Q W} {t : Option T} {e e' : Epoch OutboundFrame} {frame : R}
    {key : MatchKey} {tr : ConnectionTransition R} {decoder : FrameDriver D} {classifier : C}
    {core : ConnectionCore B OutboundFrame}
    (next : s.decoder.nextFrame = (.ok (some frame), decoder))
    (small : Retained.retainedBytes frame ≤ s.limits.replyBytes)
    (keyed : InboundClassifier.replyKey s.classifier frame = (some key, classifier))
    (step : Step e (.applyReply ⟨s.epoch, key, frame⟩) (.transition (.ok tr)) e')
    (holds : Holds s.limits.connection ⟨core, permits⟩ e') :
    Move permits cause ⟨s, t, e, none⟩
      ⟨(interpretReply tr { s with core, decoder, classifier }).2, t, e',
        fault (interpretReply tr { s with core, decoder, classifier }).1⟩
  | replyRefused {s : ConnectionSlot B D C R Q W} {t : Option T}
    {e e' : Epoch OutboundFrame} {frame : R}
    {key : MatchKey} {source : ConnectionCoreError} {decoder : FrameDriver D} {classifier : C}
    {core : ConnectionCore B OutboundFrame}
    (next : s.decoder.nextFrame = (.ok (some frame), decoder))
    (small : Retained.retainedBytes frame ≤ s.limits.replyBytes)
    (keyed : InboundClassifier.replyKey s.classifier frame = (some key, classifier))
    (step : Step (R := R) e (.applyReply ⟨s.epoch, key, frame⟩) (.transition (.error source)) e')
    (holds : Holds s.limits.connection ⟨core, permits⟩ e') :
    Move permits cause ⟨s, t, e, none⟩
      ⟨{ s with core, decoder, classifier }, t, e', some (.core source)⟩
  /-- The writer cannot show its front. -/
  | fronted {s : ConnectionSlot B D C R Q W} {t : Option T} {e e' : Epoch OutboundFrame}
    {source : ConnectionCoreError} {core : ConnectionCore B OutboundFrame}
    (step : Step (R := Unit) e (.frontWrite OutboundFrame.view s.limits.ioChunkBytes)
      (.offered (.error source)) e')
    (holds : Holds s.limits.connection ⟨core, permits⟩ e') :
    Move permits cause ⟨s, t, e, none⟩ ⟨{ s with core }, t, e', some (.core source)⟩
  /-- Admission is opened on an open transport. -/
  | admitted {s : ConnectionSlot B D C R Q W} {t : Option T} {e e' : Epoch OutboundFrame}
    {tr : ConnectionTransition Unit} {core : ConnectionCore B OutboundFrame}
    (opened : s.transportState = .opened)
    (applied : tr.disposition = .applied)
    (step : Step e (.apply (.openAdmission s.epoch)) (.transition (.ok tr)) e')
    (holds : Holds s.limits.connection ⟨core, permits⟩ e') :
    Move permits cause ⟨s, t, e, none⟩
      ⟨(publishAdmissionOpened { s with core }).2, t, e',
        fault (publishAdmissionOpened { s with core }).1⟩
  /-- The transport has become open. -/
  | opened (s : ConnectionSlot B D C R Q W) (t : T) (e : Epoch OutboundFrame)
    (connecting : s.transportState = .connecting) (pending : s.closeRequest = none)
    (opened : (SlotTransport.isOpen t).1 = true) :
    Move permits cause ⟨s, some t, e, none⟩
      ⟨(publishTransportOpened { s with transportState := .opened }).2,
        some (SlotTransport.isOpen t).2, e,
        fault (publishTransportOpened { s with transportState := .opened }).1⟩
  /-- The memory of the transport is looked at. -/
  | pressed (s : ConnectionSlot B D C R Q W) (t : T) (e : Epoch OutboundFrame)
    (flt : Option EngineError) :
    Move permits cause ⟨s, some t, e, flt⟩
      ⟨(captureTransportPressure (s, t)).2.1, some (captureTransportPressure (s, t)).2.2, e,
        flt <|> fault (captureTransportPressure (s, t)).1⟩
  /-- A diagnostic is recorded. -/
  | noted (s : ConnectionSlot B D C R Q W) (t : Option T) (e : Epoch OutboundFrame)
    (diagnostic : TransportDiagnostic) :
    Move permits cause ⟨s, t, e, none⟩ ⟨s.recordTransportFailure diagnostic, t, e, none⟩
  /-- The decoder takes bytes. -/
  | fed (s : ConnectionSlot B D C R Q W) (t : Option T) (e : Epoch OutboundFrame)
    {bytes : List UInt8}
    {decoder : FrameDriver D} (fed : s.decoder.feed bytes = (.ok (), decoder))
    (room : bytes.length ≤ s.readLength)
    (opened : s.transportState = .opened) :
    Move permits cause ⟨s, t, e, none⟩ ⟨{ s with decoder, decoderPending := true }, t, e, none⟩
  /-- The decoder has no complete frame. -/
  | dry (s : ConnectionSlot B D C R Q W) (t : Option T) (e : Epoch OutboundFrame)
    {decoder : FrameDriver D} (next : s.decoder.nextFrame = (.ok none, decoder))
    (room : decoder.retainedBytes < s.limits.decoderBytes) :
    Move permits cause ⟨s, t, e, none⟩ ⟨{ s with decoder, decoderPending := false }, t, e, none⟩
  /-- The buffer is filled. -/
  | buffered (s : ConnectionSlot B D C R Q W) (t : Option T) (e : Epoch OutboundFrame)
    {buffer : List UInt8} (length : buffer.length = s.readBuffer.length) :
    Move permits cause ⟨s, t, e, none⟩ ⟨{ s with readBuffer := buffer }, t, e, none⟩
  | preferred (s : ConnectionSlot B D C R Q W) (t : Option T) (e : Epoch OutboundFrame)
    (preference : IoPreference) :
    Move permits cause ⟨s, t, e, none⟩ ⟨{ s with ioPreference := preference }, t, e, none⟩
  /-- No timer is due. -/
  | quiet (s : ConnectionSlot B D C R Q W) (t : Option T) (e : Epoch OutboundFrame) {now : ℕ}
    (undue : (s.popDue now).1 = none) : Move permits cause ⟨s, t, e, none⟩
      ⟨(s.popDue now).2, t, e, none⟩
  /-- A graceful shutdown is preempted. -/
  | forced (s s' : ConnectionSlot B D C R Q W) (t : Option T) (e : Epoch OutboundFrame)
    {reason : CloseReason}
    (called : cause = .finalize reason) (forced : s.forceShutdown = some s') :
    Move permits cause ⟨s, t, e, none⟩ ⟨s', t, e, none⟩
  /-- A graceful shutdown meets its deadline. -/
  | timedOut (s : ConnectionSlot B D C R Q W) (t : Option T) (e : Epoch OutboundFrame) {now : ℕ}
    {transport : Option T} {reason : CloseReason} {shutdown : ShutdownState} {deadline : Deadline}
    (called : cause = .driveQuantum now transport)
    (request : s.closeRequest = some (.core reason shutdown))
    (graceful : shutdown = .pending deadline ∨ shutdown = .started deadline)
    (elapsed : deadline.isElapsedAt now = true) :
    Move permits cause ⟨s, t, e, none⟩ ⟨s.shutdownTimedOut reason, t, e, none⟩
  /-- A graceful shutdown is seen complete. -/
  | completed (s : ConnectionSlot B D C R Q W) (t : T) (e : Epoch OutboundFrame)
    {reason : CloseReason} {deadline : Deadline}
    (request : s.closeRequest = some (.core reason (.started deadline)))
    (complete : (SlotTransport.isShutdownComplete t).1 = true) :
    Move permits cause ⟨s, some t, e, none⟩
      ⟨s.completeShutdown reason, some (SlotTransport.isShutdownComplete t).2, e, none⟩
  /-- A step of a graceful shutdown. -/
  | shut (s : ConnectionSlot B D C R Q W) (t : T) (e : Epoch OutboundFrame) {reason : CloseReason}
    {shutdown : ShutdownState} {deadline : Deadline}
    {drive : T → TransportBudget → Except TransportDiagnostic TransportProgress × T}
    (request : s.closeRequest = some (.core reason shutdown))
    (shuts : ShutsBy T deadline shutdown drive) :
    Move permits cause ⟨s, some t, e, none⟩
      ⟨(shutdownStep reason deadline drive (s, t)).2.1,
        some (shutdownStep reason deadline drive (s, t)).2.2, e,
        fault (shutdownStep reason deadline drive (s, t)).1⟩
  /-- The transport is looked at or makes a step. -/
  | touched (s : ConnectionSlot B D C R Q W) {t t' : T} (e : Epoch OutboundFrame)
    (touch : Touch t t') :
    Move permits cause ⟨s, some t, e, none⟩ ⟨s, some t', e, none⟩
  /-- The transport reports more bytes than it was given room for. -/
  | overread (s : ConnectionSlot B D C R Q W) (t : T) (e : Epoch OutboundFrame) {n read : ℕ}
    {slice : List.Vector UInt8 n} {buffer : List UInt8}
    (reported : (SlotTransport.read t slice).1.1 = .ok read)
    (large : n < read) (length : buffer.length = s.readBuffer.length) :
    Move permits cause ⟨s, some t, e, none⟩
      ⟨{ s with readBuffer := buffer }, some (SlotTransport.read t slice).2, e,
        some (.invariant (.transportReadContract n read))⟩
  /-- The transport breaks the contract on progress. -/
  | misreported (s : ConnectionSlot B D C R Q W) {t t' : T} (e : Epoch OutboundFrame)
    {error : EngineError}
    (misreports : Misreports s t error t') : Move permits cause ⟨s, some t, e, none⟩
      ⟨s, some t', e, some error⟩
  /-- The transport is open before it was established. -/
  | openedEarly (s : ConnectionSlot B D C R Q W) (t : T) (e : Epoch OutboundFrame)
    (connecting : s.transportState = .connecting) (early : (SlotTransport.isOpen t).1 = true) :
    Move permits cause ⟨s, some t, e, none⟩
      ⟨s, some (SlotTransport.isOpen t).2, e, some (.invariant .transportOpenedBeforeEstablishment)⟩

end Bornera.Slot
