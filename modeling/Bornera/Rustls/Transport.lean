import Bornera.Rustls.Connection
import Bornera.Slot.Calls

/-!
# The TLS transport of a slot

`RustlsTransport` (`transport.rs`, `establish.rs`, `tls_io.rs`, `limited.rs`,
`application.rs`, `port.rs`) is a TCP stream with a rustls connection on it. The stream is an
interface: what the operating system answers is arbitrary, except that a read fills at most
its buffer and a write takes at most its bytes.
-/

namespace Bornera.Slot.Readiness

def empty : Readiness := ⟨false, false, false, false, false⟩

def union (a b : Readiness) : Readiness :=
  ⟨a.readable || b.readable, a.writable || b.writable, a.readClosed ||
    b.readClosed, a.writeClosed || b.writeClosed,
    a.error || b.error⟩

def remove (a b : Readiness) : Readiness :=
  ⟨a.readable && !b.readable, a.writable && !b.writable, a.readClosed && !b.readClosed,
    a.writeClosed && !b.writeClosed, a.error && !b.error⟩

def intersects (a b : Readiness) : Bool :=
  a.readable && b.readable || a.writable && b.writable || a.readClosed && b.readClosed ||
    a.writeClosed && b.writeClosed || a.error && b.error

/-- Readable, read-closed or failed. -/
def reading : Readiness := ⟨true, false, true, false, true⟩

/-- Writable, write-closed or failed. -/
def writing : Readiness := ⟨false, true, false, true, true⟩

/-- Writable, closed in either direction or failed. -/
def connecting : Readiness := ⟨false, true, true, true, true⟩

end Bornera.Slot.Readiness

namespace Bornera.Rustls

open Bornera.Core Slot Lib TlsConnection

/-! ### The stream -/

/-- A nonblocking TCP stream. -/
class TcpStream (S : Type) where
  takeError : S → Except IoError (Option IoError) × S
  peerAddr : S → Except IoError Unit × S
  setNodelay : S → Bool → Except IoError Unit × S
  setTcpKeepalive : S → ℕ+ → Except IoError Unit × S
  read : S → ℕ → Except IoError (List UInt8) × S
  write : S → List UInt8 → Except IoError ℕ × S
  read_le : ∀ (s : S) (room : ℕ) (bytes : List UInt8), (read s room).1 = .ok bytes →
    bytes.length ≤ room
  write_le : ∀ (s : S) (bytes : List UInt8) (written : ℕ), (write s bytes).1 = .ok written →
    written ≤ bytes.length

/-- A stream within a budget of bytes: what is left of the budget, and the stream. -/
structure Limited (S : Type) where
  inner : S
  remaining : ℕ

namespace Limited

variable {S : Type} [TcpStream S]

/-- The reader of `LimitedReader`. -/
def read (r : Limited S) (room : ℕ) : Except IoError (List UInt8) × Limited S :=
  if r.remaining = 0 then (.error ⟨.wouldBlock, none⟩, r)
  else
    match TcpStream.read r.inner (min room r.remaining) with
    | (.error error, inner) => (.error error, { r with inner })
    | (.ok bytes, inner) => (.ok bytes, ⟨inner, r.remaining - bytes.length⟩)

/-- The writer of `LimitedWriter`. -/
def write (w : Limited S) (buffer : List UInt8) : Except IoError ℕ × Limited S :=
  if w.remaining = 0 then (.error ⟨.wouldBlock, none⟩, w)
  else
    match TcpStream.write w.inner (buffer.take (min buffer.length w.remaining)) with
    | (.error error, inner) => (.error error, { w with inner })
    | (.ok written, inner) => (.ok written, ⟨inner, w.remaining - written⟩)

end Limited

/-! ### The transport -/

inductive TransportPhase where
  | connecting | noDelay | keepalive | handshaking | opened
  deriving DecidableEq, Repr

inductive TlsPreference where
  | read | write
  deriving DecidableEq, Repr

inductive EofState where
  | live | clean | truncated
  deriving DecidableEq, Repr

inductive TlsShutdown where
  | notStarted | started
  deriving DecidableEq, Repr

structure RustlsTransport (S K : Type) where
  stream : S
  tls : K
  phase : TransportPhase
  readiness : Readiness
  preference : TlsPreference
  plaintextBytes : ℕ
  eof : EofState
  shutdown : TlsShutdown
  limits : RustlsTransportLimits
  pendingError : Option TransportDiagnostic

inductive RustlsConnectError where
  | capacity (required supplied : ℕ)
  | transport (source : TransportDiagnostic)
  | tls (source : RustlsError)
  | io (source : IoError)
  deriving DecidableEq

namespace RustlsTransport

variable {S K : Type} [TcpStream S] [TlsConnection K]

/-- The methods that may fail. -/
abbrev Run (S K α : Type) : Type := Owner TransportDiagnostic (RustlsTransport S K) α

/-- A transport on a connection and a stream, or on the errors of making them. -/
def connect (limits : RustlsTransportLimits) (supplied : ℕ) (tls : Except RustlsError K)
    (stream : Except IoError S) :
    Except RustlsConnectError (RustlsTransport S K) :=
  if supplied < limits.transportLimits then .error (.capacity limits.transportLimits supplied)
  else
    match tls with
    | .error error => .error (.tls error)
    | .ok tls =>
      match processNewPackets (setBufferLimit tls limits.applicationWriteBufferBytes) with
      | (.error error, _) => .error (.tls error)
      | (.ok state, tls) =>
        match limits.validateState state .establishment with
        | .error error => .error (.transport error)
        | .ok () =>
          match stream with
          | .error error => .error (.io error)
          | .ok stream =>
            .ok ⟨stream, tls, .connecting, .empty, .write, state.plaintextBytesToRead, .live,
              .notStarted, limits, none⟩

def observe (t : RustlsTransport S K) (readiness : Readiness) : RustlsTransport S K :=
  { t with readiness := t.readiness.union readiness }

/-- A method of the stream. -/
def onStream {α : Type} (f : S → α × S) : Run S K α :=
  Owner.update fun t => ((f t.stream).1, { t with stream := (f t.stream).2 })

/-- A method of the connection. -/
def onTls {α : Type} (f : K → α × K) : Run S K α :=
  Owner.update fun t => ((f t.tls).1, { t with tls := (f t.tls).2 })

def refreshState (phase : TransportFailurePhase) : Run S K Unit := do
  match ← onTls processNewPackets with
  | .error error => Owner.fail (protocolError phase error)
  | .ok state =>
    let t ← Owner.read
    Owner.settle (t.limits.validateState state phase)
    Owner.change ({ · with plaintextBytes := state.plaintextBytesToRead })
    if state.peerHasClosed then Owner.change ({ · with eof := .clean })

def recordPendingError (t : RustlsTransport S K) (diagnostic : TransportDiagnostic) :
    RustlsTransport S K :=
  { t with pendingError := some (t.pendingError.getD diagnostic) }

def takePendingError (t : RustlsTransport S K) : Option TransportDiagnostic × RustlsTransport S K :=
  (t.pendingError, { t with pendingError := none })

/-! ### Establishment -/

def canConnect (t : RustlsTransport S K) : Bool := t.readiness.intersects .connecting

def clearConnect (t : RustlsTransport S K) : RustlsTransport S K :=
  { t with readiness := t.readiness.remove .connecting }

/-- One operation without bytes. -/
def operation : TransportProgress := .new ⟨1, Nat.one_pos⟩ 0 0

def completeConnect : Run S K TransportProgress := do
  match ← onStream TcpStream.takeError with
  | .error source => Owner.fail (.fromIo .connect source)
  | .ok (some source) => Owner.fail (.fromIo .connect source)
  | .ok none =>
    match ← onStream TcpStream.peerAddr with
    | .ok () =>
      Owner.change fun t =>
        { t with phase := .noDelay, readiness := { t.readiness with error := false } }
      pure operation
    | .error source =>
      if source.kind = .notConnected then
        Owner.change (·.clearConnect)
        pure operation
      else Owner.fail (.fromIo .connect source)

def applyNoDelay (policy : TcpSocketPolicy) : Run S K TransportProgress := do
  match ← onStream (TcpStream.setNodelay · (policy.noDelay = .enabled)) with
  | .error source => Owner.fail (.fromIo .socketPolicy source)
  | .ok () =>
    Owner.change ({ · with phase := if policy.keepalive.isSome then .keepalive else .handshaking })
    pure operation

def applyKeepalive (policy : TcpSocketPolicy) : Run S K TransportProgress := do
  match policy.keepalive with
  | none =>
    Owner.change ({ · with phase := .handshaking })
    pure operation
  | some idle =>
    match ← onStream (TcpStream.setTcpKeepalive · idle) with
    | .error source => Owner.fail (.fromIo .socketPolicy source)
    | .ok () =>
      Owner.change ({ · with phase := .handshaking })
      pure operation

/-! ### TLS steps -/

def canTlsRead (t : RustlsTransport S K) : Bool :=
  t.eof = .live && wantsRead t.tls && t.readiness.intersects .reading

def canTlsWrite (t : RustlsTransport S K) : Bool :=
  wantsWrite t.tls && t.readiness.intersects .writing

def canTlsProgress (t : RustlsTransport S K) : Bool :=
  (t.eof = .truncated && t.plaintextBytes = 0) || t.pendingError.isSome || t.canTlsRead ||
    t.canTlsWrite

def clearRawRead (t : RustlsTransport S K) : RustlsTransport S K :=
  { t with readiness := t.readiness.remove .reading }

def clearRawWrite (t : RustlsTransport S K) : RustlsTransport S K :=
  { t with readiness := t.readiness.remove .writing }

def driveTlsWrite (budget : TransportBudget) (phase : TransportFailurePhase) :
    Run S K TransportProgress := do
  match ← Owner.update fun t =>
      let (result, tls, writer) := writeTls Limited.write t.tls ⟨t.stream, budget.writeBytes⟩
      (result, { t with tls, stream := writer.inner }) with
  | .ok 0 => Owner.fail (.fromIo phase ⟨.writeZero, none⟩)
  | .ok written =>
    Owner.change ({ · with preference := .read })
    refreshState phase
    pure (.new ⟨1, Nat.one_pos⟩ 0 written)
  | .error source =>
    if source.kind = .wouldBlock then
      Owner.change (·.clearRawWrite)
      pure operation
    else Owner.fail (.fromIo phase source)

def driveTlsRead (budget : TransportBudget) (phase : TransportFailurePhase) :
    Run S K TransportProgress := do
  match ← Owner.update fun t =>
      let (result, tls, reader) := readTls Limited.read t.tls ⟨t.stream, budget.readBytes⟩
      (result, { t with tls, stream := reader.inner }) with
  | .ok 0 =>
    Owner.change fun t =>
      { t.clearRawRead with eof := if t.eof = .clean then .clean else .truncated }
    let t ← Owner.read
    if t.plaintextBytes = 0 ∧ t.eof = .truncated then
      Owner.fail (truncatedError phase) else pure operation
  | .ok read =>
    refreshState phase
    Owner.change ({ · with preference := .write })
    pure (.new ⟨1, Nat.one_pos⟩ read 0)
  | .error source =>
    if source.kind = .wouldBlock then
      Owner.change (·.clearRawRead)
      pure operation
    else Owner.fail (.fromIo phase source)

def driveTlsOnce (budget : TransportBudget) (readPhase writePhase : TransportFailurePhase) :
    Run S K TransportProgress := do
  match ← Owner.update takePendingError with
  | some error => Owner.fail error
  | none =>
    let t ← Owner.read
    if t.eof = .truncated ∧ t.plaintextBytes = 0 then Owner.fail (truncatedError readPhase)
    else
      match t.preference, t.canTlsRead, t.canTlsWrite with
      | .read, true, _ => driveTlsRead budget readPhase
      | .write, true, false => driveTlsRead budget readPhase
      | .write, _, true => driveTlsWrite budget writePhase
      | .read, false, true => driveTlsWrite budget writePhase
      | .write, false, false => pure .idle
      | .read, false, false => pure .idle

/-! ### Plaintext -/

def isOpen (t : RustlsTransport S K) : Bool := t.phase = .opened

def canReadPlaintext (t : RustlsTransport S K) : Bool := t.plaintextBytes ≠ 0 || t.eof = .clean

def canAcceptPlaintext (t : RustlsTransport S K) : Bool :=
  !wantsWrite t.tls && t.readiness.intersects .writing

def read (t : RustlsTransport S K) {n : ℕ} (buffer : List.Vector UInt8 n) :
    (Except IoError ℕ × List.Vector UInt8 n) × RustlsTransport S K :=
  match TlsConnection.readPlaintext t.tls n with
  | (.error error, tls) => ((.error error, buffer), { t with tls })
  | (.ok bytes, tls) =>
    ((.ok bytes.length, Peer.fill bytes buffer),
      { t with tls, plaintextBytes := t.plaintextBytes - bytes.length })

def write (t : RustlsTransport S K) (buffer : List UInt8) :
    Except IoError ℕ × RustlsTransport S K :=
  if buffer.isEmpty then (.ok 0, t)
  else if !t.canAcceptPlaintext then (.error ⟨.wouldBlock, none⟩, t)
  else
    match TlsConnection.writePlaintext t.tls buffer with
    | (.error error, tls) => (.error error, { t with tls })
    | (.ok 0, tls) => (.error ⟨.wouldBlock, none⟩, { t with tls })
    | (.ok written, tls) =>
      match refreshState .write { t with tls } with
      | (.error error, t) => (.ok written, t.recordPendingError error)
      | (.ok (), t) => (.ok written, t)

/-! ### The port -/

def driveEstablishment (policy : TcpSocketPolicy) (budget : TransportBudget) :
    Run S K TransportProgress := do
  let t ← Owner.read
  let progress ← match t.phase with
    | .connecting => completeConnect
    | .noDelay => applyNoDelay policy
    | .keepalive => applyKeepalive policy
    | .handshaking => driveTlsOnce budget .establishment .establishment
    | .opened => pure .idle
  Owner.change fun t =>
    if t.phase = .handshaking ∧ isHandshaking t.tls = false ∧ wantsWrite t.tls = false then
      { t with phase := .opened } else t
  pure progress

def driveTransport (budget : TransportBudget) : Run S K TransportProgress := do
  let t ← Owner.read
  if t.shutdown = .started then driveTlsWrite budget .shutdown
  else driveTlsOnce budget .transportRead .transportWrite

def beginShutdown : Run S K TransportProgress := do
  onTls fun tls => ((), sendCloseNotify tls)
  Owner.change ({ · with shutdown := .started })
  refreshState .shutdown
  pure operation

def canEstablish (t : RustlsTransport S K) : Bool :=
  match t.phase with
  | .connecting => t.canConnect
  | .noDelay => true
  | .keepalive => true
  | .handshaking => t.canTlsProgress
  | .opened => false

def hasTransportWork (t : RustlsTransport S K) : Bool :=
  if t.shutdown = .started then t.canTlsWrite else t.canTlsProgress

def isShutdownComplete (t : RustlsTransport S K) : Bool :=
  t.shutdown = .started && !wantsWrite t.tls

def canRead (t : RustlsTransport S K) : Bool := t.isOpen && t.canReadPlaintext

def canWrite (t : RustlsTransport S K) : Bool :=
  t.isOpen && t.shutdown = .notStarted && t.canAcceptPlaintext

def desiredInterest (t : RustlsTransport S K) (hasWrites : Bool) : Interest :=
  match t.phase with
  | .connecting => .readWrite
  | .noDelay => .readWrite
  | .keepalive => .readWrite
  | phase =>
    let read := t.shutdown = .notStarted && t.eof = .live && wantsRead t.tls
    let write := wantsWrite t.tls || (phase = .opened && t.shutdown = .notStarted && hasWrites)
    match read, write with
    | true, true => .readWrite
    | false, true => ⟨false, true⟩
    | _, false => ⟨true, false⟩

end RustlsTransport

instance {S K : Type} [TcpStream S] [TlsConnection K] : SlotTransport (RustlsTransport S K) where
  read t _ buffer := t.read buffer
  write t bytes := t.write bytes
  driveEstablishment t policy budget := RustlsTransport.driveEstablishment policy budget t
  driveTransport t budget := RustlsTransport.driveTransport budget t
  beginShutdown t _ := RustlsTransport.beginShutdown t
  canEstablish t := (t.canEstablish, t)
  hasTransportWork t := (t.hasTransportWork, t)
  isShutdownComplete t := (t.isShutdownComplete, t)
  isOpen t := (t.isOpen, t)
  canRead t := (t.canRead, t)
  canWrite t := (t.canWrite, t)
  desiredInterest t hasWrites := (t.desiredInterest hasWrites, t)
  pressure t := (t.limits.pressure, t)
  pressureLimit t := (t.limits.transportLimits, t)
  clearRead t := t.clearRawRead
  clearWrite t := t.clearRawWrite

end Bornera.Rustls
