import Bornera.Slot.Calls

/-!
# The transport of the simulator

`SimTransport` (`slot_transport.rs`, `slot_transport_state.rs`) is a transport in memory. What it
can do is said by the stimuli of a trace: it connects, reads and writes when one allows it. Its
buffers are reserved once, and keep their capacity.
-/

namespace Bornera.Sim

open Bornera.Core Slot

inductive Phase where
  | connecting | opened | closed
  deriving DecidableEq, Repr

inductive ShutdownState where
  | notStarted | flushing | complete
  deriving DecidableEq, Repr

/-- The capacity an exact reservation gets, at least what it asked for, or none without memory. -/
structure Allocator where
  deque : ℕ → Option ℕ
  vec : ℕ → Option ℕ

structure SimTransport where
  phase : Phase
  connectReady : Bool
  inbound : List UInt8
  inboundCapacity : ℕ
  peerClosed : Bool
  writeCredit : ℕ
  outbound : List UInt8
  outboundCapacity : ℕ
  limits : ℕ
  appliedPolicy : Option TcpSocketPolicy
  shutdown : ShutdownState
  deriving DecidableEq

def retainedCapacity (capacity : ℕ) : ℕ := min capacity u64Max

/-- The memory of both buffers; a sum beyond 64 bits is all memory there is. -/
def transportPressure (inbound outbound : ℕ) : TransportPressure :=
  if h : retainedCapacity inbound + retainedCapacity outbound + 0 + 0 ≤ u64Max then
    ⟨retainedCapacity inbound, retainedCapacity outbound, 0, 0, h⟩
  else ⟨0, 0, 0, u64Max, (Nat.zero_add u64Max).le⟩

namespace SimTransport

def new (allocator : Allocator) (limits : ℕ) : Option SimTransport :=
  let inboundLimit := limits / 2
  let outboundLimit := limits - inboundLimit
  match allocator.deque inboundLimit with
  | none => none
  | some inboundCapacity =>
    match allocator.vec outboundLimit with
    | none => none
    | some outboundCapacity =>
      let pressure := transportPressure inboundCapacity outboundCapacity
      if limits < pressure.total then none
      else
        some {
          phase := .connecting
          connectReady := false
          inbound := []
          inboundCapacity
          peerClosed := false
          writeCredit := 0
          outbound := []
          outboundCapacity
          limits := pressure.total
          appliedPolicy := none
          shutdown := .notStarted }

def observeConnectReady (t : SimTransport) : SimTransport := { t with connectReady := true }

def injectRead (t : SimTransport) (bytes : List UInt8) : Except Unit Unit × SimTransport :=
  if t.inboundCapacity - t.inbound.length < bytes.length then (.error (), t)
  else (.ok (), { t with inbound := t.inbound ++ bytes })

def observePeerClosed (t : SimTransport) : SimTransport := { t with peerClosed := true }

def allowWrite (t : SimTransport) (bytes : ℕ) : SimTransport := { t with writeCredit := bytes }

def close (t : SimTransport) : SimTransport :=
  { t with
    phase := .closed, connectReady := false, inbound := [], writeCredit := 0,
    shutdown := .complete }

/-- Not connected: a kind that the slot does not tell from others. -/
def notConnected : IoError := ⟨.unnamed 0, none⟩

def read (t : SimTransport) {n : ℕ} (buffer : List.Vector UInt8 n) :
    (Except IoError ℕ × List.Vector UInt8 n) × SimTransport :=
  if t.phase ≠ .opened then ((.error notConnected, buffer), t)
  else
    let count := min n t.inbound.length
    if count ≠ 0 then
      ((.ok count, Peer.fill t.inbound buffer), { t with inbound := t.inbound.drop count })
    else if t.peerClosed then ((.ok 0, buffer), t)
    else ((.error ⟨.wouldBlock, none⟩, buffer), t)

def write (t : SimTransport) (buffer : List UInt8) : Except IoError ℕ × SimTransport :=
  if t.phase ≠ .opened then (.error notConnected, t)
  else
    let available := t.outboundCapacity - t.outbound.length
    let written := min (min buffer.length t.writeCredit) available
    if written = 0 then
      if available = 0 ∧ buffer ≠ [] then
        (.error ⟨.other, none⟩, t) else (.error ⟨.wouldBlock, none⟩, t)
    else (.ok written, { t with
      outbound := t.outbound ++ buffer.take written, writeCredit := t.writeCredit - written })

def driveEstablishment (t : SimTransport) (policy : TcpSocketPolicy) :
    Except TransportDiagnostic TransportProgress × SimTransport :=
  match t.phase with
  | .opened => (.ok .idle, t)
  | .closed => (.error (.fromIo .connect notConnected), t)
  | .connecting =>
    if t.connectReady then
      (.ok (.new ⟨1, Nat.one_pos⟩ 0 0),
        { t with phase := .opened, connectReady := false, appliedPolicy := some policy })
    else (.ok (.new ⟨1, Nat.one_pos⟩ 0 0), t)

def driveTransport (t : SimTransport) :
    Except TransportDiagnostic TransportProgress × SimTransport :=
  if t.shutdown ≠ .flushing then (.ok .idle, t)
  else (.ok (.new ⟨1, Nat.one_pos⟩ 0 1), { t with shutdown := .complete })

def desiredInterest (t : SimTransport) (hasWrites : Bool) : Interest :=
  if t.shutdown = .flushing then ⟨false, true⟩
  else if t.phase = .connecting ∨ hasWrites then .readWrite
  else ⟨true, false⟩

instance : SlotTransport SimTransport where
  read := read
  write := write
  driveEstablishment t policy _ := t.driveEstablishment policy
  driveTransport t _ := t.driveTransport
  beginShutdown t _ := (.ok (.new ⟨1, Nat.one_pos⟩ 0 0), { t with shutdown := .flushing })
  canEstablish t := (t.phase = .connecting ∧ t.connectReady, t)
  hasTransportWork t := (t.shutdown = .flushing, t)
  isShutdownComplete t := (t.shutdown = .complete, t)
  isOpen t := (t.phase = .opened, t)
  canRead t := (t.phase = .opened ∧ t.shutdown = .notStarted ∧ (t.inbound ≠ [] ∨ t.peerClosed), t)
  canWrite t := (t.phase = .opened ∧ t.shutdown = .notStarted ∧ t.writeCredit ≠ 0, t)
  desiredInterest t hasWrites := (t.desiredInterest hasWrites, t)
  pressure t := (transportPressure t.inboundCapacity t.outboundCapacity, t)
  pressureLimit t := (t.limits, t)
  clearRead t := t
  clearWrite t := { t with writeCredit := 0 }

end SimTransport
end Bornera.Sim
