import Bornera.Slot.Ports

/-!
# What the TLS crate is built on

The diagnostics and limits of the TLS crate (`diagnostic.rs`, `config.rs`, `transport.rs`) and the
rustls connection it drives. The connection is an interface: `TlsConnection` has its methods and
`TlsStream` what their documentation promises about the plaintext of the peer.

`read_tls` and `write_tls` make one call of the reader or writer they are given and report what it
reported, so each is split into what it asks for and what it makes of the answer.
-/

namespace Bornera.Slot.IoErrorKind

/-! ### Categories the TLS crate names -/

def unexpectedEof : IoErrorKind := .unnamed 0
def invalidInput : IoErrorKind := .unnamed 1
def invalidData : IoErrorKind := .unnamed 2
def outOfMemory : IoErrorKind := .unnamed 3
def writeZero : IoErrorKind := .unnamed 4
def notConnected : IoErrorKind := .unnamed 5

end Bornera.Slot.IoErrorKind

namespace Bornera.Rustls

open Bornera.Core Slot

/-! ### Diagnostics -/

inductive RustlsDiagnostic where
  | protocol | certificate | serverName | truncated | capacity | callerState
  deriving DecidableEq, Repr

def RustlsDiagnostic.code : RustlsDiagnostic → ℕ
  | .protocol => 1
  | .certificate => 2
  | .serverName => 3
  | .truncated => 4
  | .capacity => 5
  | .callerState => 6

inductive CertificateError where
  | notValidForName | notValidForNameContext
  | unnamed (code : ℕ)
  deriving DecidableEq, Repr

/-- The errors of rustls, told apart as far as a diagnostic does. -/
inductive RustlsError where
  | invalidCertificate (source : CertificateError)
  | invalidCertRevocationList
  | noCertificatesPresented
  | unsupportedNameType
  | unnamed (code : ℕ)
  deriving DecidableEq, Repr

def protocolError (phase : TransportFailurePhase) (error : RustlsError) : TransportDiagnostic :=
  let (failure, code) : TransportFailureKind × RustlsDiagnostic :=
    match error with
    | .invalidCertificate .notValidForName => (.serverName, .serverName)
    | .invalidCertificate .notValidForNameContext => (.serverName, .serverName)
    | .unsupportedNameType => (.serverName, .serverName)
    | .invalidCertificate _ => (.certificate, .certificate)
    | .invalidCertRevocationList => (.certificate, .certificate)
    | .noCertificatesPresented => (.certificate, .certificate)
    | .unnamed _ => (.protocol, .protocol)
  .new phase failure .invalidData (some code.code)

def truncatedError (phase : TransportFailurePhase) : TransportDiagnostic :=
  .new phase .truncated .unexpectedEof (some RustlsDiagnostic.truncated.code)

def callerStateError (phase : TransportFailurePhase) (kind : IoErrorKind) : TransportDiagnostic :=
  .new phase .contract kind (some RustlsDiagnostic.callerState.code)

/-- Only a truncation is reported as one. -/
lemma protocolError_failure (phase : TransportFailurePhase) (error : RustlsError) :
    (protocolError phase error).failure ≠ .truncated := by
  rcases error with (_ | _ | _) | _ | _ | _ | _ <;> exact fun h => by cases h

/-! ### Limits -/

/-- The bounds of one TLS connection; the charge covers the logical maxima. -/
structure RustlsTransportLimits where
  applicationWriteBufferBytes : ℕ
  maxTlsEgressBytes : ℕ
  maxPlaintextBytes : ℕ
  pressure : TransportPressure
  write_pos : 0 < applicationWriteBufferBytes
  egress_pos : 0 < maxTlsEgressBytes
  plaintext_pos : 0 < maxPlaintextBytes
  inbound_pos : 0 < pressure.inbound
  protocol_pos : 0 < pressure.protocol
  plaintext_le : applicationWriteBufferBytes + maxPlaintextBytes ≤ pressure.plaintext
  egress_le : maxTlsEgressBytes ≤ pressure.outbound

inductive RustlsTransportLimitsError where
  | addressSpace
  | missingInboundCharge
  | missingProtocolCharge
  | egressCharge (minimum supplied : ℕ)
  | plaintextCharge (minimum supplied : ℕ)
  deriving DecidableEq, Repr

/-- What `process_new_packets` reports. -/
structure IoState where
  tlsBytesToWrite : ℕ
  plaintextBytesToRead : ℕ
  peerHasClosed : Bool
  deriving DecidableEq, Repr

namespace RustlsTransportLimits

/-- The counts are nonzero and fit the machine. -/
def new (applicationWriteBufferBytes maxTlsEgressBytes maxPlaintextBytes : ℕ+)
    (pressure : TransportPressure) :
    Except RustlsTransportLimitsError RustlsTransportLimits :=
  if hinbound : pressure.inbound = 0 then .error .missingInboundCharge
  else if hprotocol : pressure.protocol = 0 then .error .missingProtocolCharge
  else if u64Max < (applicationWriteBufferBytes : ℕ) + maxPlaintextBytes then .error .addressSpace
  else if hplaintext : pressure.plaintext < applicationWriteBufferBytes + maxPlaintextBytes then
    .error (.plaintextCharge (applicationWriteBufferBytes + maxPlaintextBytes) pressure.plaintext)
  else if hegress : pressure.outbound < maxTlsEgressBytes then
    .error (.egressCharge maxTlsEgressBytes pressure.outbound)
  else .ok {
    applicationWriteBufferBytes
    maxTlsEgressBytes
    maxPlaintextBytes
    pressure
    write_pos := applicationWriteBufferBytes.pos
    egress_pos := maxTlsEgressBytes.pos
    plaintext_pos := maxPlaintextBytes.pos
    inbound_pos := Nat.pos_of_ne_zero hinbound
    protocol_pos := Nat.pos_of_ne_zero hprotocol
    plaintext_le := not_lt.mp hplaintext
    egress_le := not_lt.mp hegress }

variable (l : RustlsTransportLimits)

/-- The charge advertised to the owner. -/
def transportLimits : ℕ := l.pressure.total

def validateState (state : IoState) (phase : TransportFailurePhase) :
    Except TransportDiagnostic Unit :=
  if l.maxTlsEgressBytes < state.tlsBytesToWrite ∨
    l.maxPlaintextBytes < state.plaintextBytesToRead then
    .error (.new phase .capacity .outOfMemory (some RustlsDiagnostic.capacity.code))
  else .ok ()

lemma validateState_error {state : IoState} {phase : TransportFailurePhase}
    {d : TransportDiagnostic}
    (h : l.validateState state phase = .error d) : d.failure ≠ .truncated := by
  unfold validateState at h
  split at h
  · cases h
    exact fun h => by cases h
  · cases h

end RustlsTransportLimits

/-! ### The connection -/

/-- A rustls connection. `readRoom` is the length of the buffer that `read_tls` offers its reader,
or why it does not call it: an error, or a close that was read before. `writeOffer` is what
`write_tls` offers its writer. -/
class TlsConnection (K : Type) where
  wantsRead : K → Bool
  wantsWrite : K → Bool
  isHandshaking : K → Bool
  setBufferLimit : K → ℕ → K
  readRoom : K → Except (Option IoError) ℕ
  readTaken : K → Except IoError (List UInt8) → K
  writeOffer : K → List UInt8
  writeTaken : K → Except IoError ℕ → K
  processNewPackets : K → Except RustlsError IoState × K
  readPlaintext : K → ℕ → Except IoError (List UInt8) × K
  writePlaintext : K → List UInt8 → Except IoError ℕ × K
  sendCloseNotify : K → K

namespace TlsConnection

variable {K S : Type} [TlsConnection K]

/-- `read_tls` with a reader that keeps a state. -/
def readTls (read : S → ℕ → Except IoError (List UInt8) × S) (k : K) (s : S) :
    Except IoError ℕ × K × S :=
  match readRoom k with
  | .error none => (.ok 0, k, s)
  | .error (some error) => (.error error, k, s)
  | .ok room =>
    let (answer, s) := read s room
    (answer.map List.length, readTaken k answer, s)

/-- `write_tls` with a writer that keeps a state. -/
def writeTls (write : S → List UInt8 → Except IoError ℕ × S) (k : K) (s : S) :
    Except IoError ℕ × K × S :=
  if wantsWrite k then
    let (answer, s) := write s (writeOffer k)
    (answer, writeTaken k answer, s)
  else (.ok 0, k, s)

end TlsConnection

/-- The inbound side of a connection: the plaintext authenticated so far, what of it is still to be
read, whether an authenticated close was processed, and whether all packets read were processed. -/
structure Inbound where
  stream : List UInt8
  pending : List UInt8
  closed : Bool
  current : Bool
  deriving DecidableEq

/-- The promises of a rustls connection. Its reader takes the plaintext in order, ends cleanly only
after an authenticated close, and complains of an early end or of nothing to read only when nothing
is left. Packets are processed once, and a close is never taken back. -/
class TlsStream (K : Type) extends TlsConnection K where
  inbound : K → Inbound
  read_ok : ∀ (k : K) (room : ℕ) (bytes : List UInt8) (k' : K),
    readPlaintext k room = (.ok bytes, k') →
    bytes.length ≤ room ∧ (inbound k).pending = bytes ++ (inbound k').pending ∧
      inbound k' = { inbound k with pending := (inbound k').pending } ∧
      (0 < room → bytes = [] → (inbound k).pending = [] ∧ (inbound k).closed = true)
  read_error : ∀ (k : K) (room : ℕ) (error : IoError) (k' : K),
    readPlaintext k room = (.error error, k') →
    inbound k' = inbound k ∧
      (error.kind = .unexpectedEof → (inbound k).pending = [] ∧ (inbound k).closed = false) ∧
      (error.kind = .wouldBlock → (inbound k).pending = [])
  process_ok : ∀ (k : K) (state : IoState) (k' : K), processNewPackets k = (.ok state, k') →
    state.plaintextBytesToRead = (inbound k').pending.length ∧
      state.peerHasClosed = (inbound k').closed ∧
      (state.tlsBytesToWrite ≠ 0 → wantsWrite k' = true) ∧
      ∃ more, (inbound k').stream = (inbound k).stream ++ more ∧
        (inbound k').pending = (inbound k).pending ++ more ∧
        ((inbound k).closed = true → (inbound k').closed = true) ∧ (inbound k').current = true ∧
        ((inbound k).current = true → more = [] ∧ (inbound k').closed = (inbound k).closed)
  process_error : ∀ (k : K) (error : RustlsError) (k' : K),
    processNewPackets k = (.error error, k') →
    (inbound k).stream <+: (inbound k').stream ∧
      ((inbound k).closed = true → (inbound k').closed = true)
  read_taken : ∀ (k : K) (answer : Except IoError (List UInt8)),
    inbound (readTaken k answer) =
      { inbound k with current := (inbound (readTaken k answer)).current }
  write_taken : ∀ (k : K) (answer : Except IoError ℕ), inbound (writeTaken k answer) = inbound k
  write_plaintext : ∀ (k : K) (bytes : List UInt8), inbound (writePlaintext k bytes).2 = inbound k
  close_notify : ∀ (k : K), inbound (sendCloseNotify k) = inbound k
  buffer_limit : ∀ (k : K) (limit : ℕ), inbound (setBufferLimit k limit) = inbound k

/-- A connection that has read nothing. -/
def TlsStream.Fresh {K : Type} [TlsStream K] (k : K) : Prop := inbound k = ⟨[], [], false, true⟩

/-! ### The smallest connection -/

/-- A connection without a handshake or encryption: a zero closes it, and every
other byte is plaintext. -/
structure PlainTls where
  unread : List UInt8
  stream : List UInt8
  pending : List UInt8
  closed : Bool
  ended : Bool
  deriving DecidableEq

namespace PlainTls

def fresh : PlainTls := ⟨[], [], [], false, false⟩

/-- The plaintext among the bytes that were read. -/
def authenticated (k : PlainTls) : List UInt8 := if k.closed then [] else k.unread.takeWhile (· ≠ 0)

def processed (k : PlainTls) : PlainTls where
  unread := []
  stream := k.stream ++ k.authenticated
  pending := k.pending ++ k.authenticated
  closed := k.closed || k.unread.contains 0
  ended := k.ended

def readTaken (k : PlainTls) : Except IoError (List UInt8) → PlainTls
  | .ok bytes => { k with unread := k.unread ++ bytes, ended := k.ended || bytes.isEmpty }
  | .error _ => k

def readPlaintext (k : PlainTls) (room : ℕ) : Except IoError (List UInt8) × PlainTls :=
  if k.pending = [] then
    if k.closed then (.ok [], k)
    else (.error ⟨if k.ended then .unexpectedEof else .wouldBlock, none⟩, k)
  else (.ok (k.pending.take room), { k with pending := k.pending.drop room })

end PlainTls

instance : TlsStream PlainTls where
  wantsRead k := !k.closed
  wantsWrite _ := false
  isHandshaking _ := false
  setBufferLimit k _ := k
  readRoom k := if k.closed then .error none else .ok 16
  readTaken := PlainTls.readTaken
  writeOffer _ := []
  writeTaken k _ := k
  processNewPackets k := (.ok ⟨0, k.processed.pending.length, k.processed.closed⟩, k.processed)
  readPlaintext := PlainTls.readPlaintext
  writePlaintext k bytes := (.ok bytes.length, k)
  sendCloseNotify k := k
  inbound k := ⟨k.stream, k.pending, k.closed, k.unread.isEmpty⟩
  read_ok k room bytes k' h := by
    unfold PlainTls.readPlaintext at h
    by_cases hpending : k.pending = []
    · rw [if_pos hpending] at h
      split at h
      · next hclosed =>
        cases h
        simp [hpending, hclosed]
      · cases h
    · rw [if_neg hpending] at h
      cases h
      refine ⟨List.length_take_le _ _, (List.take_append_drop _ _).symm, rfl, fun hroom hnone => ?_⟩
      rcases List.take_eq_nil_iff.mp hnone with hzero | hnil
      · exact absurd hzero hroom.ne'
      · exact absurd hnil hpending
  read_error k room error k' h := by
    unfold PlainTls.readPlaintext at h
    split at h
    · next hpending =>
      split at h
      · cases h
      · next hclosed =>
        cases h
        exact ⟨rfl, fun _ => ⟨hpending, Bool.eq_false_iff.mpr hclosed⟩, fun _ => hpending⟩
    · cases h
  process_ok k state k' h := by
    cases h
    refine ⟨rfl, rfl, fun h => absurd rfl h, k.authenticated, rfl, rfl, fun h =>
      ?_, rfl, fun h => ?_⟩
    · have hclosed : k.closed = true := h
      simp [PlainTls.processed, hclosed]
    · have hempty : k.unread = [] := List.isEmpty_iff.mp h
      simp [PlainTls.processed, PlainTls.authenticated, hempty]
  process_error k error k' h := by cases h
  read_taken k answer := by cases answer <;> rfl
  write_taken _ _ := rfl
  write_plaintext _ _ := rfl
  close_notify _ := rfl
  buffer_limit _ _ := rfl

/-- Limits for four bytes of plaintext. -/
def RustlsTransportLimits.sample : RustlsTransportLimits :=
  ⟨1, 1, 4, ⟨16, 1, 5, 1, by decide⟩, by decide, by decide, by decide, by decide, by decide,
    by decide, by decide⟩

end Bornera.Rustls
