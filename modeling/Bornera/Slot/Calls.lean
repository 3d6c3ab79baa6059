import Bornera.Core.Settlement
import Bornera.Core.Replies
import Bornera.Slot.Drive

/-!
# Runs of a slot

A `SlotWorld` is a slot together with the permits its caller holds; a recovered slot is gone. Each
call that drives the slot brings a transport of its own, in any state, and hands it back.
-/

namespace Bornera.Slot

open Bornera.Core Lib

/-- A slot, unless it was recovered, and the live permits taken from it. -/
structure SlotWorld (B D C R : Type) (Q W : Type → Type) where
  slot : Option (ConnectionSlot B D C R Q W)
  permits : List OperationPermit

/-- A public call. A permit is named by its place among the live ones. -/
inductive SlotCall (T : Type) where
  | reserve (now : ℕ) (options : OperationOptions)
  | commit (index : ℕ) (frame : OutboundFrame)
  | commitForeign (permit : OperationPermit) (frame : OutboundFrame)
  | dropPermit (index : ℕ)
  | openAdmission
  | cancel (operation : OperationId)
  | beginDrain (deadline : Deadline)
  | finalize (reason : CloseReason)
  | driveQuantum (now : ℕ) (transport : Option T)
  | drainOutcomes
  | drainEvents
  | settleTransportClosed
  | recover (reason : OwnerFailure)

/-- What a call hands back. `unavailable` answers a call on what its caller does not have. -/
inductive SlotResponse (R T : Type) where
  | reserved (result : Except ReserveError OperationPermit)
  | committed (result : Except EngineCommitError OperationId)
  | dropped
  | disposed (result : Except EngineError InputDisposition)
  | cancelled (result : Except EngineError CancelOutcome)
  | drove (result : Except EngineError SlotProgress) (transport : Option T)
  | outcomes (drained : List (EngineOutcome R))
  | events (drained : List ConnectionEvent)
  | settled (closed : Bool)
  | recovered (report : RecoveryReport R)
  | unavailable

/-- The operation a commit accepted, with the owner failing or not. -/
def acceptedBy : Except EngineCommitError OperationId → Option OperationId
  | .ok operation => some operation
  | .error (.acceptedOwnerFailure operation _) => some operation
  | .error _ => none

namespace SlotWorld

variable {B D C R E T : Type} {Q W : Type → Type} [ByteBudget B] [FrameDecoder D R E] [Retained R]
  [InboundClassifier C R] [EventBatch Q] [TimerQueue W] [SlotTransport T]

/-- The drop of a permit reaches the ledger of its slot. -/
def dropPermit (s : ConnectionSlot B D C R Q W) (permit : OperationPermit) :
    ConnectionSlot B D C R Q W :=
  { s with core := s.core.dropPermit permit }

/-- A call of a slot whose caller holds `permits`. -/
def slotStep (s : ConnectionSlot B D C R Q W) (permits : List OperationPermit) :
    SlotCall T → SlotWorld B D C R Q W × SlotResponse R T
  | .reserve now options =>
    match s.reserve now options with
    | (.error error, s) => (⟨some s, permits⟩, .reserved (.error error))
    | (.ok permit, s) => (⟨some s, permits ++ [permit]⟩, .reserved (.ok permit))
  | .commit index frame =>
    match permits[index]? with
    | none => (⟨some s, permits⟩, .unavailable)
    | some permit =>
      let (result, s) := s.commit permit frame
      (⟨some s, if (acceptedBy result).isSome then permits.eraseIdx index else permits⟩,
        .committed result)
  | .commitForeign permit frame =>
    if permit.ledger = s.core.machine.ledgerId then (⟨some s, permits⟩, .unavailable)
    else
      let (result, s) := s.commit permit frame
      (⟨some s, permits⟩, .committed result)
  | .dropPermit index =>
    match permits[index]? with
    | none => (⟨some s, permits⟩, .unavailable)
    | some permit => (⟨some (dropPermit s permit), permits.eraseIdx index⟩, .dropped)
  | .openAdmission =>
    (⟨some (ConnectionSlot.openAdmission s).2, permits⟩,
      .disposed (ConnectionSlot.openAdmission s).1)
  | .cancel operation =>
    (⟨some (ConnectionSlot.cancel operation s).2, permits⟩,
      .cancelled (ConnectionSlot.cancel operation s).1)
  | .beginDrain deadline =>
    (⟨some (ConnectionSlot.beginDrain deadline s).2, permits⟩,
      .disposed (ConnectionSlot.beginDrain deadline s).1)
  | .finalize reason =>
    (⟨some (ConnectionSlot.finalize reason s).2, permits⟩,
      .disposed (ConnectionSlot.finalize reason s).1)
  | .driveQuantum now transport =>
    let (result, s, transport) := ConnectionSlot.driveQuantum now (s, transport)
    (⟨some s, permits⟩, .drove result transport)
  | .drainOutcomes => (⟨some s.drainOutcomes.2, permits⟩, .outcomes s.drainOutcomes.1)
  | .drainEvents => (⟨some s.drainEvents.2, permits⟩, .events s.drainEvents.1)
  | .settleTransportClosed =>
    (⟨some s.settleTransportClosed.2, permits⟩, .settled s.settleTransportClosed.1)
  | .recover reason => (⟨none, permits⟩, .recovered (s.recover reason))

def step (w : SlotWorld B D C R Q W) (call : SlotCall T) :
    SlotWorld B D C R Q W × SlotResponse R T :=
  match w.slot with
  | some s => slotStep s w.permits call
  | none =>
    match call with
    | .dropPermit index => (⟨none, w.permits.eraseIdx index⟩, .dropped)
    | _ => (w, .unavailable)

end SlotWorld

/-- One event of a run. -/
abbrev SlotEvent (B D C R : Type) (Q W : Type → Type) (T : Type) : Type :=
  Transducer.Event (SlotWorld B D C R Q W) (SlotCall T) (SlotResponse R T)

/-- What a run starts from: the decoder is within its bound, as `ConnectionSlot::new` checks. -/
structure SlotSetup (D C R E : Type) [FrameDecoder D R E] where
  config : ConnectionSlotConfig
  limits : ConnectionSlotLimits
  decoder : D
  classifier : C
  within : FrameDecoder.retainedBytes decoder ≤ limits.decoderBytes

namespace SlotSetup

variable {B D C R E T : Type} {Q W : Type → Type} [ByteBudget B] [FrameDecoder D R E] [Retained R]
  [InboundClassifier C R] [EventBatch Q] [TimerQueue W] [SlotTransport T]

/-- The slot a run starts with. -/
def slot (s : SlotSetup D C R E) : ConnectionSlot B D C R Q W :=
  .fresh s.config s.limits ⟨s.decoder, s.limits.decoderBytes, false⟩ s.classifier

omit [Retained R] [InboundClassifier C R] in
/-- It is the slot the constructor returns, and a decoder beyond its bound gives none. -/
lemma new_eq (s : SlotSetup D C R E) :
    ConnectionSlot.new s.config s.limits s.decoder s.classifier =
      .ok (s.slot : ConnectionSlot B D C R Q W) := by
  have hfits : ¬FrameDecoder.retainedBytes s.decoder > s.limits.decoderBytes := not_lt.mpr s.within
  simp [ConnectionSlot.new, FrameDriver.new, hfits, slot]

def world (s : SlotSetup D C R E) : SlotWorld B D C R Q W := ⟨some s.slot, []⟩

variable (B Q W) in
/-- The events of a list of calls. -/
def history (s : SlotSetup D C R E) (calls : List (SlotCall T)) : List (SlotEvent B D C R Q W T) :=
  Transducer.history SlotWorld.step s.world calls

variable (B Q W) in
/-- The world after a list of calls. -/
def final (s : SlotSetup D C R E) (calls : List (SlotCall T)) : SlotWorld B D C R Q W :=
  Transducer.final SlotWorld.step s.world calls

end SlotSetup

/-! ### The smallest adapters -/

/-- Decodes every byte as a frame. -/
structure ByteDecoder where
  buffered : List UInt8
  deriving DecidableEq

instance : Retained UInt8 := ⟨fun _ => 1⟩

instance : FrameDecoder ByteDecoder UInt8 Empty where
  feed d bytes := (.ok (), ⟨d.buffered ++ bytes⟩)
  nextFrame d := (.ok d.buffered.head?, ⟨d.buffered.tail⟩)
  retainedBytes d := d.buffered.length

/-- The frame is its own key. -/
structure ByteClassifier where
  deriving DecidableEq

instance : InboundClassifier ByteClassifier UInt8 := ⟨fun c frame => (some ⟨frame.toUInt32⟩, c)⟩

/-- A peer that is established in one step, takes whatever is written, has sent `inbound`, and
is shut down in one step. -/
structure Peer where
  established : Bool
  inbound : List UInt8
  shut : Bool
  deriving DecidableEq

namespace Peer

/-- A peer nobody has connected to yet. -/
def waiting : Peer := ⟨false, [], false⟩

/-- One operation without bytes. -/
def progress : TransportProgress := .new ⟨1, Nat.one_pos⟩ 0 0

/-- Fills the slice from the front. -/
def fill (inbound : List UInt8) {n : ℕ} (slice : List.Vector UInt8 n) : List.Vector UInt8 n :=
  ⟨inbound.take n ++ slice.toList.drop (inbound.take n).length, by simp [slice.toList_length]⟩

end Peer

instance : SlotTransport Peer where
  read p {n} slice :=
    if p.inbound = [] then ((.error ⟨.wouldBlock, none⟩, slice), p)
    else ((.ok (p.inbound.take n).length, Peer.fill p.inbound slice),
      { p with inbound := p.inbound.drop n })
  write p bytes := (.ok bytes.length, p)
  driveEstablishment p _ _ := (.ok Peer.progress, { p with established := true })
  driveTransport p _ := (.ok .idle, p)
  beginShutdown p _ := (.ok Peer.progress, { p with shut := true })
  canEstablish p := (!p.established, p)
  hasTransportWork p := (false, p)
  isShutdownComplete p := (p.shut, p)
  isOpen p := (p.established, p)
  canRead p := (p.inbound ≠ [], p)
  canWrite p := (p.established, p)
  desiredInterest p _ := (.readWrite, p)
  pressure p := (⟨0, 0, 0, 0, by decide⟩, p)
  pressureLimit p := (0, p)
  clearRead p := p
  clearWrite p := p

/-- A slot with room for two operations, four bytes of input and two steps a quantum. -/
def SlotSetup.sample : SlotSetup ByteDecoder ByteClassifier UInt8 Empty where
  config := ⟨⟨1⟩, ⟨5⟩, 0, ⟨.enabled, none⟩, 0, true⟩
  limits := ⟨Setup.sample.limits, 4, 1, 2, 2, 0, 4, 2, 2, Nat.two_pos, Nat.two_pos, Nat.succ_pos 3,
    by decide, rfl, by decide, rfl⟩
  decoder := ⟨[]⟩
  classifier := ⟨⟩
  within := by decide

/-- Establishes the transport, opens admission and commits a frame of two bytes. -/
def sampleSlotCalls : List (SlotCall Peer) :=
  [.driveQuantum 0 (some .waiting), .openAdmission,
    .reserve 0 { deadline := ⟨9⟩, writeRetainedBytes := 8 },
    .commit 0 ⟨[1, 2], 2, by decide, by decide⟩]

end Bornera.Slot
