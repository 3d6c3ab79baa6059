import Bornera.Rustls.Connection
import Bornera.Lib.Transducer

/-!
# Socket-free TLS sessions

`RustlsClientSession` (`client_session.rs`, `client_io.rs`, `client_status.rs`) and
`RustlsServerSession` (`server_session.rs`, `server_io.rs`, `server_status.rs`) drive one rustls
connection each for a caller that owns the bytes. They are two copies of one program, and both are
translated here. A failed call is known by its diagnostic; a read returns the bytes it copied and a
drain the bytes it produced.
-/

namespace Bornera.Rustls

open Bornera.Core Slot Lib TlsConnection

inductive RustlsPeerClosure where
  | opened | clean | truncated
  deriving DecidableEq, Repr

/-- A slice as a reader: what is left of it. -/
def sliceReader (source : List UInt8) (room : ℕ) : Except IoError (List UInt8) × List UInt8 :=
  (.ok (source.take room), source.drop room)

/-- A slice as a writer: the room that is left in it, and what was put into it. -/
def sliceWriter (sink : ℕ × List UInt8) (bytes : List UInt8) : Except IoError ℕ × ℕ × List UInt8 :=
  (.ok (min bytes.length sink.1), sink.1 - bytes.length, sink.2 ++ bytes.take sink.1)

/-- What a session lets its caller see. -/
structure SessionStatus where
  flags : UInt8
  readablePlaintextBytes : ℕ
  tlsEgressBytes : ℕ
  peerClosure : RustlsPeerClosure
  failure : Option TransportDiagnostic
  deriving DecidableEq

def statusHandshaking : UInt8 := (1 : UInt8) <<< 0
def statusOpen : UInt8 := (1 : UInt8) <<< 1
def statusWantsRead : UInt8 := (1 : UInt8) <<< 2
def statusWantsWrite : UInt8 := (1 : UInt8) <<< 3
def statusCloseNotifySent : UInt8 := (1 : UInt8) <<< 4

/-- Why there is no session. -/
inductive SessionError where
  | capacity (required supplied : ℕ)
  | transport (source : TransportDiagnostic)
  | tls (source : RustlsError)
  deriving DecidableEq

/-! ### The client -/

structure RustlsClientSession (K : Type) where
  tls : K
  limits : RustlsTransportLimits
  plaintextBytes : ℕ
  tlsEgressBytes : ℕ
  peerClosure : RustlsPeerClosure
  opened : Bool
  closeNotifySent : Bool
  failure : Option TransportDiagnostic

namespace RustlsClientSession

variable {K : Type} [TlsConnection K]

/-- The methods of a session. -/
abbrev Run (K α : Type) : Type := Owner TransportDiagnostic (RustlsClientSession K) α

/-- A method of the connection. -/
def onTls {α : Type} (f : K → α × K) : Run K α :=
  Owner.update fun s => ((f s.tls).1, { s with tls := (f s.tls).2 })

/-- A session on a connection, or on the error of making one. -/
def new (limits : RustlsTransportLimits) (supplied : ℕ) (tls : Except RustlsError K) :
    Except SessionError (RustlsClientSession K) :=
  if supplied < limits.transportLimits then .error (.capacity limits.transportLimits supplied)
  else
    match tls with
    | .error error => .error (.tls error)
    | .ok tls =>
      match processNewPackets (setBufferLimit tls limits.applicationWriteBufferBytes) with
      | (.error error, _) => .error (.tls error)
      | (.ok state, tls) =>
        match limits.validateState state .establishment with
        | .error error => .error (.transport error)
        | .ok () =>
          .ok ⟨tls, limits, state.plaintextBytesToRead, state.tlsBytesToWrite, .opened, false,
            false, none⟩

def status (s : RustlsClientSession K) : SessionStatus where
  flags :=
    let failed := s.failure.isSome
    let wantsRead := wantsRead s.tls && s.peerClosure = .opened && !failed
    ((isHandshaking s.tls).toUInt8 * statusHandshaking) |||
      ((s.opened && !s.closeNotifySent && !failed).toUInt8 * statusOpen) |||
      (wantsRead.toUInt8 * statusWantsRead) ||| ((wantsWrite s.tls).toUInt8 * statusWantsWrite) |||
      (s.closeNotifySent.toUInt8 * statusCloseNotifySent)
  readablePlaintextBytes := s.plaintextBytes
  tlsEgressBytes := s.tlsEgressBytes
  peerClosure := s.peerClosure
  failure := s.failure

/-- Has rustls process what it was given, and observes it. -/
def refresh (phase : TransportFailurePhase) : Run K Unit := do
  match ← onTls processNewPackets with
  | .error error => Owner.fail (protocolError phase error)
  | .ok state =>
    let s ← Owner.read
    Owner.settle (s.limits.validateState state phase)
    Owner.change ({ · with
      plaintextBytes := state.plaintextBytesToRead
      tlsEgressBytes := state.tlsBytesToWrite })
    if state.peerHasClosed then Owner.change ({ · with peerClosure := .clean })
    if !isHandshaking s.tls && !wantsWrite s.tls then Owner.change ({ · with opened := true })

def ensureProgressing : Run K Unit := do
  let s ← Owner.read
  Owner.settle (s.failure.elim (.ok ()) .error)

/-- The first failure stays. -/
def getOrInsertFailure (s : RustlsClientSession K) (diagnostic : TransportDiagnostic) :
    RustlsClientSession K :=
  { s with failure := some (s.failure.getD diagnostic) }

def latch {α : Type} (diagnostic : TransportDiagnostic) : Run K α := do
  Owner.change (·.getOrInsertFailure diagnostic)
  Owner.fail diagnostic

def readPhase (s : RustlsClientSession K) : TransportFailurePhase :=
  if isHandshaking s.tls then .establishment else .transportRead

def writePhase (s : RustlsClientSession K) : TransportFailurePhase :=
  if isHandshaking s.tls then .establishment
  else if s.closeNotifySent then .shutdown
  else .transportWrite

/-- The inbound charge; no slice is longer than a `usize`. -/
def ingressLimit (s : RustlsClientSession K) : ℕ := s.limits.pressure.inbound

def ingestTls (ciphertext : List UInt8) : Run K ℕ := do
  if ciphertext.isEmpty then pure 0
  else
    ensureProgressing
    let s ← Owner.read
    if s.peerClosure ≠ .opened then Owner.fail (callerStateError s.readPhase .invalidInput)
    else
      let source := ciphertext.take s.ingressLimit
      match ← onTls fun tls =>
          let (result, tls, _) := readTls sliceReader tls source; (result, tls) with
      | .error error => Owner.fail (.fromIo s.readPhase error)
      | .ok read =>
        match ← (refresh s.readPhase).attempt with
        | .error error => latch error
        | .ok () => pure read

def readPlaintext (room : ℕ) : Run K (List UInt8) := do
  if room = 0 then pure []
  else
    ensureProgressing
    let s ← Owner.read
    if s.peerClosure = .truncated ∧ s.plaintextBytes = 0 then latch (truncatedError s.readPhase)
    else
      match ← onTls (TlsConnection.readPlaintext · room) with
      | .ok read =>
        Owner.change fun s => { s with plaintextBytes := s.plaintextBytes - read.length }
        pure read
      | .error error =>
        if error.kind = .unexpectedEof then
          Owner.change ({ · with peerClosure := .truncated })
          let s ← Owner.read
          latch (truncatedError s.readPhase)
        else if error.kind = .wouldBlock then Owner.fail (callerStateError .read .wouldBlock)
        else latch (.fromIo .read error)

def writePlaintext (plaintext : List UInt8) : Run K ℕ := do
  if plaintext.isEmpty then pure 0
  else
    ensureProgressing
    let s ← Owner.read
    if !s.opened || s.closeNotifySent then Owner.fail (callerStateError .write .invalidInput)
    else
      match ← onTls (TlsConnection.writePlaintext · plaintext) with
      | .error error => Owner.fail (.fromIo .write error)
      | .ok written =>
        match ← (refresh .write).attempt with
        | .error error => Owner.change (·.getOrInsertFailure error)
        | .ok () => pure ()
        pure written

def drainTls (room : ℕ) : Run K (List UInt8) := do
  let s ← Owner.read
  if room = 0 ∨ wantsWrite s.tls = false then pure []
  else
    match ← onTls fun tls =>
        let (result, tls, sink) :=
          writeTls sliceWriter tls (room, []); (result.map fun written =>
          (written, sink.2), tls) with
    | .error error => Owner.fail (.fromIo s.writePhase error)
    | .ok (written, produced) =>
      if s.failure.isNone then
        match ← (refresh s.writePhase).attempt with
        | .error error => Owner.change (·.getOrInsertFailure error)
        | .ok () => pure ()
      else Owner.change fun s => { s with tlsEgressBytes := s.tlsEgressBytes - written }
      pure produced

/-- The truncation, once no plaintext is left. -/
def finishTruncated : Run K Unit := do
  let s ← Owner.read
  if s.plaintextBytes = 0 then latch (truncatedError s.readPhase)

def finishInput : Run K Unit := do
  ensureProgressing
  let s ← Owner.read
  if s.peerClosure = .clean then pure ()
  else if s.peerClosure = .opened then
    match ← onTls fun tls => let (result, tls, _) := readTls sliceReader tls []; (result, tls) with
    | .error error => Owner.fail (.fromIo s.readPhase error)
    | .ok _ =>
      match ← (refresh s.readPhase).attempt with
      | .error error => latch error
      | .ok () =>
        Owner.change fun s =>
          { s with peerClosure := if s.peerClosure ≠ .clean then .truncated else s.peerClosure }
        finishTruncated
  else finishTruncated

def sendCloseNotify : Run K Unit := do
  ensureProgressing
  let s ← Owner.read
  if s.closeNotifySent then pure ()
  else if !s.opened then Owner.fail (callerStateError .shutdown .invalidInput)
  else
    onTls fun tls => ((), TlsConnection.sendCloseNotify tls)
    Owner.change ({ · with closeNotifySent := true })
    match ← (refresh .shutdown).attempt with
    | .ok () => pure ()
    | .error error => latch error

end RustlsClientSession

/-! ### The server -/

structure RustlsServerSession (K : Type) where
  tls : K
  limits : RustlsTransportLimits
  plaintextBytes : ℕ
  tlsEgressBytes : ℕ
  peerClosure : RustlsPeerClosure
  opened : Bool
  closeNotifySent : Bool
  failure : Option TransportDiagnostic

namespace RustlsServerSession

variable {K : Type} [TlsConnection K]

abbrev Run (K α : Type) : Type := Owner TransportDiagnostic (RustlsServerSession K) α

def onTls {α : Type} (f : K → α × K) : Run K α :=
  Owner.update fun s => ((f s.tls).1, { s with tls := (f s.tls).2 })

def new (limits : RustlsTransportLimits) (supplied : ℕ) (tls : Except RustlsError K) :
    Except SessionError (RustlsServerSession K) :=
  if supplied < limits.transportLimits then .error (.capacity limits.transportLimits supplied)
  else
    match tls with
    | .error error => .error (.tls error)
    | .ok tls =>
      match processNewPackets (setBufferLimit tls limits.applicationWriteBufferBytes) with
      | (.error error, _) => .error (.tls error)
      | (.ok state, tls) =>
        match limits.validateState state .establishment with
        | .error error => .error (.transport error)
        | .ok () =>
          .ok ⟨tls, limits, state.plaintextBytesToRead, state.tlsBytesToWrite, .opened, false,
            false, none⟩

def status (s : RustlsServerSession K) : SessionStatus where
  flags :=
    let failed := s.failure.isSome
    let wantsRead := wantsRead s.tls && s.peerClosure = .opened && !failed
    ((isHandshaking s.tls).toUInt8 * statusHandshaking) |||
      ((s.opened && !s.closeNotifySent && !failed).toUInt8 * statusOpen) |||
      (wantsRead.toUInt8 * statusWantsRead) ||| ((wantsWrite s.tls).toUInt8 * statusWantsWrite) |||
      (s.closeNotifySent.toUInt8 * statusCloseNotifySent)
  readablePlaintextBytes := s.plaintextBytes
  tlsEgressBytes := s.tlsEgressBytes
  peerClosure := s.peerClosure
  failure := s.failure

def refresh (phase : TransportFailurePhase) : Run K Unit := do
  match ← onTls processNewPackets with
  | .error error => Owner.fail (protocolError phase error)
  | .ok state =>
    let s ← Owner.read
    Owner.settle (s.limits.validateState state phase)
    Owner.change ({ · with
      plaintextBytes := state.plaintextBytesToRead
      tlsEgressBytes := state.tlsBytesToWrite })
    if state.peerHasClosed then Owner.change ({ · with peerClosure := .clean })
    if !isHandshaking s.tls && !wantsWrite s.tls then Owner.change ({ · with opened := true })

def ensureProgressing : Run K Unit := do
  let s ← Owner.read
  match s.failure with
  | some diagnostic => Owner.fail diagnostic
  | none => pure ()

def recordFailure (diagnostic : TransportDiagnostic) : Run K Unit :=
  Owner.change fun s => { s with failure := some (s.failure.getD diagnostic) }

def latch {α : Type} (diagnostic : TransportDiagnostic) : Run K α := do
  recordFailure diagnostic
  Owner.fail diagnostic

def readPhase (s : RustlsServerSession K) : TransportFailurePhase :=
  if isHandshaking s.tls then .establishment else .transportRead

def writePhase (s : RustlsServerSession K) : TransportFailurePhase :=
  if isHandshaking s.tls then .establishment
  else if s.closeNotifySent then .shutdown
  else .transportWrite

def ingressLimit (s : RustlsServerSession K) : ℕ := s.limits.pressure.inbound

def ingestTls (ciphertext : List UInt8) : Run K ℕ := do
  if ciphertext.isEmpty then pure 0
  else
    ensureProgressing
    let s ← Owner.read
    if s.peerClosure ≠ .opened then Owner.fail (callerStateError s.readPhase .invalidInput)
    else
      let source := ciphertext.take s.ingressLimit
      match ← onTls fun tls =>
          let (result, tls, _) := readTls sliceReader tls source; (result, tls) with
      | .error error => Owner.fail (.fromIo s.readPhase error)
      | .ok read =>
        match ← (refresh s.readPhase).attempt with
        | .error error => latch error
        | .ok () => pure read

def readPlaintext (room : ℕ) : Run K (List UInt8) := do
  if room = 0 then pure []
  else
    ensureProgressing
    let s ← Owner.read
    if s.peerClosure = .truncated ∧ s.plaintextBytes = 0 then latch (truncatedError s.readPhase)
    else
      match ← onTls (TlsConnection.readPlaintext · room) with
      | .ok read =>
        Owner.change fun s => { s with plaintextBytes := s.plaintextBytes - read.length }
        pure read
      | .error error =>
        if error.kind = .unexpectedEof then
          Owner.change ({ · with peerClosure := .truncated })
          let s ← Owner.read
          latch (truncatedError s.readPhase)
        else if error.kind = .wouldBlock then Owner.fail (callerStateError .read .wouldBlock)
        else latch (.fromIo .read error)

def writePlaintext (plaintext : List UInt8) : Run K ℕ := do
  if plaintext.isEmpty then pure 0
  else
    ensureProgressing
    let s ← Owner.read
    if !s.opened || s.closeNotifySent then Owner.fail (callerStateError .write .invalidInput)
    else
      match ← onTls (TlsConnection.writePlaintext · plaintext) with
      | .error error => Owner.fail (.fromIo .write error)
      | .ok written =>
        match ← (refresh .write).attempt with
        | .error error => recordFailure error
        | .ok () => pure ()
        pure written

def drainTls (room : ℕ) : Run K (List UInt8) := do
  let s ← Owner.read
  if room = 0 ∨ wantsWrite s.tls = false then pure []
  else
    match ← onTls fun tls =>
        let (result, tls, sink) :=
          writeTls sliceWriter tls (room, []); (result.map fun written =>
          (written, sink.2), tls) with
    | .error error => Owner.fail (.fromIo s.writePhase error)
    | .ok (written, produced) =>
      if s.failure.isNone then
        match ← (refresh s.writePhase).attempt with
        | .error error => recordFailure error
        | .ok () => pure ()
      else Owner.change fun s => { s with tlsEgressBytes := s.tlsEgressBytes - written }
      pure produced

def finishTruncated : Run K Unit := do
  let s ← Owner.read
  if s.plaintextBytes = 0 then latch (truncatedError s.readPhase)

def finishInput : Run K Unit := do
  ensureProgressing
  let s ← Owner.read
  if s.peerClosure = .clean then pure ()
  else if s.peerClosure = .opened then
    match ← onTls fun tls => let (result, tls, _) := readTls sliceReader tls []; (result, tls) with
    | .error error => Owner.fail (.fromIo s.readPhase error)
    | .ok _ =>
      match ← (refresh s.readPhase).attempt with
      | .error error => latch error
      | .ok () =>
        Owner.change fun s =>
          { s with peerClosure := if s.peerClosure ≠ .clean then .truncated else s.peerClosure }
        finishTruncated
  else finishTruncated

def sendCloseNotify : Run K Unit := do
  ensureProgressing
  let s ← Owner.read
  if s.closeNotifySent then pure ()
  else if !s.opened then Owner.fail (callerStateError .shutdown .invalidInput)
  else
    onTls fun tls => ((), TlsConnection.sendCloseNotify tls)
    Owner.change ({ · with closeNotifySent := true })
    match ← (refresh .shutdown).attempt with
    | .ok () => pure ()
    | .error error => latch error

end RustlsServerSession

/-! ### Calls -/

/-- A call of a session. -/
inductive SessionCall where
  | ingestTls (ciphertext : List UInt8)
  | readPlaintext (room : ℕ)
  | writePlaintext (plaintext : List UInt8)
  | drainTls (room : ℕ)
  | finishInput
  | sendCloseNotify
  deriving DecidableEq

/-- What a call hands back: a count, the bytes put into a buffer, or nothing. -/
inductive SessionAnswer where
  | count (bytes : ℕ)
  | bytes (contents : List UInt8)
  | done
  deriving DecidableEq

namespace RustlsClientSession

variable {K : Type} [TlsConnection K]

def perform : SessionCall → Run K SessionAnswer
  | .ingestTls ciphertext => do pure (.count (← ingestTls ciphertext))
  | .readPlaintext room => do pure (.bytes (← readPlaintext room))
  | .writePlaintext plaintext => do pure (.count (← writePlaintext plaintext))
  | .drainTls room => do pure (.bytes (← drainTls room))
  | .finishInput => do
    finishInput
    pure .done
  | .sendCloseNotify => do
    sendCloseNotify
    pure .done

/-- One call as a step. -/
def step (s : RustlsClientSession K) (call : SessionCall) :
    RustlsClientSession K × Except TransportDiagnostic SessionAnswer :=
  ((perform call s).2, (perform call s).1)

end RustlsClientSession

namespace RustlsServerSession

variable {K : Type} [TlsConnection K]

def perform : SessionCall → Run K SessionAnswer
  | .ingestTls ciphertext => do pure (.count (← ingestTls ciphertext))
  | .readPlaintext room => do pure (.bytes (← readPlaintext room))
  | .writePlaintext plaintext => do pure (.count (← writePlaintext plaintext))
  | .drainTls room => do pure (.bytes (← drainTls room))
  | .finishInput => do
    finishInput
    pure .done
  | .sendCloseNotify => do
    sendCloseNotify
    pure .done

def step (s : RustlsServerSession K) (call : SessionCall) :
    RustlsServerSession K × Except TransportDiagnostic SessionAnswer :=
  ((perform call s).2, (perform call s).1)

end RustlsServerSession
end Bornera.Rustls
