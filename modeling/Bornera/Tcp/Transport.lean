import Bornera.Rustls.Progress
import Bornera.Shared.Basic
import Bornera.Slot.Health

/-!
# The TCP transport of a slot

`TcpTransport` (`tcp.rs`, `tcp_port.rs`) is a nonblocking TCP stream with the phases of its
establishment: it is connected, gets its socket policy in one or two steps, and is open. It keeps
the contract of a slot (`tcp_never_fails`), and it is open only on a confirmed connection with its
whole policy applied, each setting once (`tcp_policy_first`).
-/

namespace Bornera.Tcp

open Bornera.Core Slot Lib
open Rustls (TcpStream)

inductive TransportPhase where
  | connecting | noDelay | keepalive | opened
  deriving DecidableEq, Repr

structure TcpTransport (S : Type) where
  stream : S
  phase : TransportPhase
  readiness : Readiness

namespace TcpTransport

variable {S : Type} [TcpStream S]

/-- The methods that may fail. -/
abbrev Run (S α : Type) : Type := Owner TransportDiagnostic (TcpTransport S) α

/-- A transport on a stream, or on the error of making it. -/
def connect (stream : Except IoError S) : Except IoError (TcpTransport S) :=
  stream.map (⟨·, .connecting, .empty⟩)

def observe (t : TcpTransport S) (readiness : Readiness) : TcpTransport S :=
  { t with readiness := t.readiness.union readiness }

/-- A method of the stream. -/
def onStream {α : Type} (f : S → α × S) : Run S α :=
  Owner.update fun t => ((f t.stream).1, { t with stream := (f t.stream).2 })

/-- One operation without bytes. -/
def operation : TransportProgress := .new ⟨1, Nat.one_pos⟩ 0 0

def clearConnect (t : TcpTransport S) : TcpTransport S :=
  { t with readiness := t.readiness.remove .connecting }

/-! ### Establishment -/

def completeConnect : Run S TransportProgress := do
  match ← onStream TcpStream.takeError with
  | .error source => Owner.fail (.fromIo .connect source)
  | .ok (some source) => Owner.fail (.fromIo .connect source)
  | .ok none =>
    match ← onStream TcpStream.peerAddr with
    | .ok () =>
      Owner.change fun t =>
        { t with phase := .noDelay, readiness := { t.readiness with error := false } }
      pure operation
    | .error source =>
      if source.kind = .notConnected then
        Owner.change (·.clearConnect)
        pure operation
      else Owner.fail (.fromIo .connect source)

def applyNoDelay (policy : TcpSocketPolicy) : Run S TransportProgress := do
  match ← onStream (TcpStream.setNodelay · (policy.noDelay = .enabled)) with
  | .error source => Owner.fail (.fromIo .socketPolicy source)
  | .ok () =>
    Owner.change ({ · with phase := if policy.keepalive.isSome then .keepalive else .opened })
    pure operation

def applyKeepalive (policy : TcpSocketPolicy) : Run S TransportProgress := do
  match policy.keepalive with
  | none =>
    Owner.change ({ · with phase := .opened })
    pure operation
  | some idle =>
    match ← onStream (TcpStream.setTcpKeepalive · idle) with
    | .error source => Owner.fail (.fromIo .socketPolicy source)
    | .ok () =>
      Owner.change ({ · with phase := .opened })
      pure operation

def driveEstablishment (policy : TcpSocketPolicy) : Run S TransportProgress := do
  let t ← Owner.read
  match t.phase with
  | .connecting => completeConnect
  | .noDelay => applyNoDelay policy
  | .keepalive => applyKeepalive policy
  | .opened => pure .idle

def canEstablish (t : TcpTransport S) : Bool :=
  match t.phase with
  | .connecting => t.readiness.intersects .connecting
  | .noDelay => true
  | .keepalive => true
  | .opened => false

/-! ### The port -/

def isOpen (t : TcpTransport S) : Bool := t.phase = .opened

def canRead (t : TcpTransport S) : Bool := t.isOpen && t.readiness.intersects .reading

def canWrite (t : TcpTransport S) : Bool := t.isOpen && t.readiness.intersects .writing

def clearRead (t : TcpTransport S) : TcpTransport S :=
  { t with readiness := t.readiness.remove .reading }

def clearWrite (t : TcpTransport S) : TcpTransport S :=
  { t with readiness := t.readiness.remove .writing }

def desiredInterest (t : TcpTransport S) (hasWrites : Bool) : Interest :=
  if t.phase = .connecting ∨ hasWrites then .readWrite else ⟨true, false⟩

def read (t : TcpTransport S) {n : ℕ} (buffer : List.Vector UInt8 n) :
    (Except IoError ℕ × List.Vector UInt8 n) × TcpTransport S :=
  match TcpStream.read t.stream n with
  | (.error error, stream) => ((.error error, buffer), { t with stream })
  | (.ok bytes, stream) => ((.ok bytes.length, Peer.fill bytes buffer), { t with stream })

def write (t : TcpTransport S) (buffer : List UInt8) : Except IoError ℕ × TcpTransport S :=
  ((TcpStream.write t.stream buffer).1, { t with stream := (TcpStream.write t.stream buffer).2 })

end TcpTransport

instance {S : Type} [TcpStream S] : SlotTransport (TcpTransport S) where
  read t _ buffer := t.read buffer
  write t bytes := t.write bytes
  driveEstablishment t policy _ := TcpTransport.driveEstablishment policy t
  driveTransport t _ := (.ok .idle, t)
  beginShutdown t _ := (.ok TcpTransport.operation, t)
  canEstablish t := (t.canEstablish, t)
  hasTransportWork t := (false, t)
  isShutdownComplete t := (true, t)
  isOpen t := (t.isOpen, t)
  canRead t := (t.canRead, t)
  canWrite t := (t.canWrite, t)
  desiredInterest t hasWrites := (t.desiredInterest hasWrites, t)
  pressure t := (⟨0, 0, 0, 0, Nat.zero_le _⟩, t)
  pressureLimit t := (0, t)
  clearRead t := t.clearRead
  clearWrite t := t.clearWrite

instance {S : Type} [TcpStream S] : Shared.RegisteredTransport (TcpTransport S) where
  observeReadiness t readiness := t.observe readiness

namespace TcpTransport

variable {S : Type} [TcpStream S]

/-! ### The contract -/

/-- What a step of the establishment does to the phase: a failure leaves it,
and work is one operation. -/
structure Establishes (t : TcpTransport S)
    (r : Except TransportDiagnostic TransportProgress × TcpTransport S) : Prop where
  failed : ∀ source, r.1 = .error source → r.2.phase = t.phase
  works : ∀ p, r.1 = .ok p → p = operation ∨ t.phase = .opened

lemma completeConnect_establishes (t : TcpTransport S) : Establishes t (completeConnect t) := by
  unfold completeConnect onStream
  rw [Owner.update_bind]
  rcases TcpStream.takeError t.stream with ⟨source | _ | source, stream⟩
  · exact ⟨fun _ _ => rfl, fun _ h => by cases h⟩
  · dsimp only
    rw [Owner.update_bind]
    dsimp only
    rcases TcpStream.peerAddr stream with ⟨source | _, stream'⟩
    · dsimp only
      split
      · exact ⟨fun _ h => (by cases h), fun _ h => .inl (by cases h; rfl)⟩
      · exact ⟨fun _ _ => rfl, fun _ h => by cases h⟩
    · exact ⟨fun _ h => (by cases h), fun _ h => .inl (by cases h; rfl)⟩
  · exact ⟨fun _ _ => rfl, fun _ h => by cases h⟩

lemma applyNoDelay_establishes (t : TcpTransport S) (policy : TcpSocketPolicy) :
    Establishes t (applyNoDelay policy t) := by
  unfold applyNoDelay onStream
  rw [Owner.update_bind]
  dsimp only
  rcases TcpStream.setNodelay t.stream (policy.noDelay = .enabled) with ⟨source | _, stream⟩
  · exact ⟨fun _ _ => rfl, fun _ h => by cases h⟩
  · exact ⟨fun _ h => (by cases h), fun _ h => .inl (by cases h; rfl)⟩

lemma applyKeepalive_establishes (t : TcpTransport S) (policy : TcpSocketPolicy) :
    Establishes t (applyKeepalive policy t) := by
  unfold applyKeepalive onStream
  cases policy.keepalive with
  | none => exact ⟨fun _ h => (by cases h), fun _ h => .inl (by cases h; rfl)⟩
  | some idle =>
    dsimp only
    rw [Owner.update_bind]
    dsimp only
    rcases TcpStream.setTcpKeepalive t.stream idle with ⟨source | _, stream⟩
    · exact ⟨fun _ _ => rfl, fun _ h => by cases h⟩
    · exact ⟨fun _ h => (by cases h), fun _ h => .inl (by cases h; rfl)⟩

lemma driveEstablishment_establishes (t : TcpTransport S) (policy : TcpSocketPolicy) :
    Establishes t (driveEstablishment policy t) := by
  unfold driveEstablishment
  rw [Owner.read_bind]
  cases hphase : t.phase with
  | connecting => exact completeConnect_establishes t
  | noDelay => exact applyNoDelay_establishes t policy
  | keepalive => exact applyKeepalive_establishes t policy
  | opened => exact ⟨fun _ h => (by cases h), fun _ _ => .inr hphase⟩

lemma operation_valid (budget : TransportBudget) : (operation : TransportProgress).Valid budget :=
  Peer.progress_valid budget

omit [TcpStream S] in
lemma isOpen_congr {t t' : TcpTransport S} (h : t'.phase = t.phase) : t'.isOpen = t.isOpen := by
  unfold isOpen
  rw [h]

lemma read_phase (t : TcpTransport S) {n : ℕ} (buffer : List.Vector UInt8 n) :
    (t.read buffer).2.phase = t.phase := by
  unfold read
  split <;> rfl

end TcpTransport

open TcpTransport

instance {S : Type} [TcpStream S] : HonestTransport (TcpTransport S) where
  canEstablish_same _ := rfl
  hasTransportWork_same _ := rfl
  isShutdownComplete_same _ := rfl
  isOpen_same _ := rfl
  canRead_same _ := rfl
  canWrite_same _ := rfl
  desiredInterest_same _ _ := rfl
  pressure_same _ := rfl
  pressureLimit_same _ := rfl
  establishes t policy budget progress hcan hreport := by
    rcases (driveEstablishment_establishes t policy).works progress hreport with rfl | hopened
    · exact operation_valid budget
    · simp only [SlotTransport.canEstablish, canEstablish, hopened] at hcan
      cases hcan
  drives _ _ _ hwork := by cases hwork
  begins _ budget _ hreport := by
    cases hreport
    exact operation_valid budget
  failed_open t policy _ source hfailed :=
    isOpen_congr ((driveEstablishment_establishes t policy).failed source hfailed)
  drive_open _ _ := rfl
  begin_open _ _ := rfl
  read_open t _ slice := isOpen_congr (read_phase t slice)
  write_open _ _ := rfl
  clearRead_open _ := rfl
  clearWrite_open _ := rfl

/-- A TCP transport reads and writes what its socket does, and retains nothing. -/
lemma dutiful_tcp {S : Type} [TcpStream S] : Dutiful 0 (fun _ : TcpTransport S => True) where
  toLasting := lasting_all
  reads t _ n slice count hreport := by
    have hle := TcpStream.read_le t.stream n
    simp only [SlotTransport.read, TcpTransport.read] at hreport
    generalize TcpStream.read t.stream n = answer at hle hreport
    obtain ⟨source | bytes, stream⟩ := answer
    · cases hreport
    · cases hreport
      exact hle bytes rfl
  writes t _ bytes count hreport := TcpStream.write_le t.stream bytes count hreport
  limit_eq _ _ := rfl
  within _ _ := Nat.zero_le _

/-! ### A slot with the transport -/

/-- What the host does to a transport between the quanta: observe readiness,
while the socket goes on. -/
def Drifts {S : Type} (t t' : TcpTransport S) : Prop :=
  ∃ stream readiness, t' = { t with stream, readiness }

section
variable {B D C R E S : Type} {Q W : Type → Type} [ByteBudget B] [FrameDecoder D R E] [Retained R]
  [InboundClassifier C R] [EventBatch Q] [BoundedTimers W] [TcpStream S]

/-- **A slot over native TCP never fails.** Whatever its socket does, whatever its limits but the
room for four events, and whatever its caller asks for but a finalization as drained: no call
returns a failure, and the slot runs. -/
theorem tcp_never_fails (setup : SlotSetup D C R E) (hevents : 4 ≤ setup.limits.lifecycle.maxEvents)
    {stream : Except IoError S} {t₀ : TcpTransport S}
    (hconnect : TcpTransport.connect stream = .ok t₀) (calls : List (SlotCall (TcpTransport S)))
    (hundrained : .finalize .drained ∉ calls)
    (hhosts : Hosts Drifts t₀ (setup.history B Q W calls)) :
    ∀ ev ∈ setup.history B Q W calls, ev.output.error = none ∧
      ∀ s ∈ ev.after.slot, s.state = .running := by
  refine dutiful_never_fails setup dutiful_tcp (Nat.zero_le _) hevents (fun t t' h => ?_)
    (fun _ _ _ _ => trivial) t₀ trivial ?_ calls
    hundrained hhosts
  · obtain ⟨stream, readiness, rfl⟩ := h
    rfl
  · cases stream with
    | error => cases hconnect
    | ok stream =>
      cases hconnect
      rfl

end

/-- Connects, and closes on request. -/
def sampleCalls : List (SlotCall (TcpTransport Rustls.SampleSocket)) :=
  [.driveQuantum 0 (some ⟨⟨⟩, .connecting, ⟨false, true, false, false, false⟩⟩), .openAdmission,
    .finalize .requested, .settleTransportClosed]

theorem tcp_never_fails_sample :
    (SlotSetup.sample.final Counted ListBatch ListTimers sampleCalls).slot.any
      (·.transportState = .closed) ∧
      ∀ ev ∈ SlotSetup.sample.history Counted ListBatch ListTimers sampleCalls,
        ev.output.error = none ∧ ∀ s ∈ ev.after.slot, s.state = .running := by
  have hconnect : TcpTransport.connect (.ok (⟨⟩ : Rustls.SampleSocket)) =
    .ok ⟨⟨⟩, .connecting, .empty⟩ := rfl
  refine ⟨by decide +kernel, tcp_never_fails SlotSetup.sample (by decide) hconnect sampleCalls
    (by simp [sampleCalls]) ⟨?_, ?_, ?_, ?_, trivial⟩⟩
  · rintro _ ⟨⟩
    exact ⟨_, _, rfl⟩
  · rintro _ ⟨⟩
  · rintro _ ⟨⟩
  · rintro _ ⟨⟩

/-! ### The policy -/

/-- A call of a socket, with whether it was answered by a success. -/
inductive SocketCall where
  | takeError (clean : Bool)
  | peerAddr (connected : Bool)
  | setNodelay (enabled done : Bool)
  | setTcpKeepalive (idle : ℕ+) (done : Bool)
  | read
  | write
  deriving DecidableEq

/-- A setting of a socket. -/
inductive Setting where
  | noDelay (enabled : Bool)
  | keepalive (idle : ℕ+)
  deriving DecidableEq

/-- The setting that a call has made. -/
def SocketCall.setting : SocketCall → Option Setting
  | setNodelay enabled true => some (.noDelay enabled)
  | setTcpKeepalive idle true => some (.keepalive idle)
  | _ => none

/-- The settings of a policy, in their order. -/
def settings (policy : TcpSocketPolicy) : List Setting :=
  .noDelay (policy.noDelay = .enabled) :: policy.keepalive.toList.map .keepalive

/-- The settings made so far. -/
def settled (log : List SocketCall) : List Setting := log.filterMap SocketCall.setting

/-- A socket that writes down its calls. -/
structure Logged (S : Type) where
  inner : S
  log : List SocketCall

section
variable {S α : Type}

def succeeded (answer : Except IoError α) : Bool := answer.toOption.isSome

/-- The answer of a call, written down. -/
def Logged.note (s : Logged S) (answer : α × S) (call : α → SocketCall) : α × Logged S :=
  (answer.1, ⟨answer.2, s.log ++ [call answer.1]⟩)

variable [TcpStream S]

instance : TcpStream (Logged S) where
  takeError s :=
    s.note (TcpStream.takeError s.inner) fun answer => .takeError (answer.toOption = some none)
  peerAddr s := s.note (TcpStream.peerAddr s.inner) fun answer => .peerAddr (succeeded answer)
  setNodelay s enabled :=
    s.note (TcpStream.setNodelay s.inner enabled) fun answer =>
    .setNodelay enabled (succeeded answer)
  setTcpKeepalive s idle :=
    s.note (TcpStream.setTcpKeepalive s.inner idle) fun answer =>
    .setTcpKeepalive idle (succeeded answer)
  read s room := s.note (TcpStream.read s.inner room) fun _ => .read
  write s bytes := s.note (TcpStream.write s.inner bytes) fun _ => .write
  read_le s room bytes h := TcpStream.read_le s.inner room bytes h
  write_le s bytes written h := TcpStream.write_le s.inner bytes written h

end

/-- What can happen to a transport: the calls of its owner, an observation, and
time for its socket. -/
inductive TransportCall (S : Type) where
  | read {n : ℕ} (buffer : List.Vector UInt8 n)
  | write (bytes : List UInt8)
  | driveEstablishment
  | clearRead
  | clearWrite
  | observe (readiness : Readiness)
  | elapse (inner : S)

section
variable {S : Type} [TcpStream S]

/-- The transport after a call of an owner with the policy. -/
def TransportCall.step (policy : TcpSocketPolicy) (t : TcpTransport (Logged S)) :
    TransportCall S → TcpTransport (Logged S)
  | read buffer => (t.read buffer).2
  | write bytes => (t.write bytes).2
  | driveEstablishment => (TcpTransport.driveEstablishment policy t).2
  | clearRead => t.clearRead
  | clearWrite => t.clearWrite
  | observe readiness => t.observe readiness
  | elapse inner => { t with stream := { t.stream with inner } }

end

/-- The connection was confirmed before any setting was made. -/
def Confirmed (log : List SocketCall) : Prop :=
  ∃ pre post, log = pre ++ [.takeError true, .peerAddr true] ++ post ∧ settled pre = []

/-- What the socket has seen in each phase. -/
def Applied (policy : TcpSocketPolicy) (log : List SocketCall) : TransportPhase → Prop
  | .connecting => settled log = []
  | .noDelay => settled log = [] ∧ Confirmed log
  | .keepalive =>
    settled log = [.noDelay (policy.noDelay = .enabled)] ∧ policy.keepalive.isSome ∧ Confirmed log
  | .opened => settled log = settings policy ∧ Confirmed log

variable {policy : TcpSocketPolicy} {log : List SocketCall} {phase : TransportPhase}

lemma settled_append (more : List SocketCall) :
    settled (log ++ more) = settled log ++ settled more :=
  List.filterMap_append ..

lemma Confirmed.append (h : Confirmed log) (more : List SocketCall) : Confirmed (log ++ more) := by
  obtain ⟨pre, post, rfl, hquiet⟩ := h
  exact ⟨pre, post ++ more, by simp, hquiet⟩

/-- A call that makes no setting leaves what was applied. -/
lemma Applied.quiet (h : Applied policy log phase) {call : SocketCall}
    (hcall : call.setting = none) :
    Applied policy (log ++ [call]) phase := by
  have hsettled : settled (log ++ [call]) = settled log := by simp [settled, hcall]
  cases phase with
  | connecting => exact hsettled.trans h
  | noDelay => exact ⟨hsettled.trans h.1, h.2.append _⟩
  | keepalive => exact ⟨hsettled.trans h.1, h.2.1, h.2.2.append _⟩
  | opened => exact ⟨hsettled.trans h.1, h.2.append _⟩

/-- The transport has applied what its phase says. -/
def Proper {S : Type} (policy : TcpSocketPolicy) (t : TcpTransport (Logged S)) : Prop :=
  Applied policy t.stream.log t.phase

section
variable {S : Type} [TcpStream S] {t : TcpTransport (Logged S)}

lemma completeConnect_proper (h : Proper policy t)
    (hphase : t.phase = .connecting) : Proper policy (completeConnect t).2 := by
  have hquiet : settled t.stream.log = [] := by
    unfold Proper at h
    rwa [hphase] at h
  unfold completeConnect onStream
  rw [Owner.update_bind]
  simp only [TcpStream.takeError, Logged.note]
  rcases TcpStream.takeError t.stream.inner with ⟨source | _ | source, inner⟩
  · exact h.quiet rfl
  · dsimp only
    rw [Owner.update_bind]
    simp only [TcpStream.peerAddr, Logged.note]
    rcases TcpStream.peerAddr inner with ⟨source | _, inner'⟩
    · dsimp only
      split
      · exact (h.quiet rfl).quiet rfl
      · exact (h.quiet rfl).quiet rfl
    · have hlog : t.stream.log ++ [.takeError true] ++ [.peerAddr true] =
        t.stream.log ++ [.takeError true, .peerAddr true] ++ [] := by simp
      refine ⟨?_, t.stream.log, [], hlog, hquiet⟩
      exact (settled_append _).trans (by rw [settled_append, hquiet]; rfl)
  · exact h.quiet rfl

lemma applyNoDelay_proper (h : Proper policy t)
    (hphase : t.phase = .noDelay) : Proper policy (applyNoDelay policy t).2 := by
  obtain ⟨hquiet, hconfirmed⟩ : settled t.stream.log = [] ∧ Confirmed t.stream.log := by
    unfold Proper at h
    rwa [hphase] at h
  unfold applyNoDelay onStream
  rw [Owner.update_bind]
  simp only [TcpStream.setNodelay, Logged.note]
  rcases TcpStream.setNodelay t.stream.inner (policy.noDelay = .enabled) with ⟨source | _, inner⟩
  · exact h.quiet rfl
  · have hsettled : settled (t.stream.log ++ [.setNodelay (policy.noDelay = .enabled) true]) =
        [.noDelay (policy.noDelay = .enabled)] := by
      rw [settled_append, hquiet]
      rfl
    have hconfirmed' := hconfirmed.append [.setNodelay (policy.noDelay = .enabled) true]
    cases hkeepalive : policy.keepalive with
    | none =>
      refine ⟨?_, hconfirmed'⟩
      rw [settings, hkeepalive]
      exact hsettled
    | some idle => exact ⟨hsettled, Option.isSome_of_eq_some hkeepalive, hconfirmed'⟩

lemma applyKeepalive_proper (h : Proper policy t)
    (hphase : t.phase = .keepalive) : Proper policy (applyKeepalive policy t).2 := by
  obtain ⟨hsettled, hsome, hconfirmed⟩ : settled t.stream.log =
    [.noDelay (policy.noDelay = .enabled)] ∧ policy.keepalive.isSome ∧
      Confirmed t.stream.log := by
    unfold Proper at h
    rwa [hphase] at h
  obtain ⟨idle, hidle⟩ := Option.isSome_iff_exists.mp hsome
  unfold applyKeepalive onStream
  rw [hidle]
  dsimp only
  rw [Owner.update_bind]
  simp only [TcpStream.setTcpKeepalive, Logged.note]
  rcases TcpStream.setTcpKeepalive t.stream.inner idle with ⟨source | _, inner⟩
  · exact h.quiet rfl
  · refine ⟨?_, hconfirmed.append _⟩
    exact (settled_append _).trans (by rw [hsettled, settings, hidle]; rfl)

/-- **Every call keeps what was applied.** -/
lemma step_proper (h : Proper policy t)
    (call : TransportCall S) : Proper policy (call.step policy t) := by
  cases call with
  | read buffer =>
    simp only [TransportCall.step, TcpTransport.read, TcpStream.read, Logged.note]
    generalize TcpStream.read t.stream.inner _ = answer
    obtain ⟨source | bytes, inner⟩ := answer
    · exact Applied.quiet h (rfl : SocketCall.read.setting = none)
    · exact Applied.quiet h (rfl : SocketCall.read.setting = none)
  | write bytes => exact h.quiet rfl
  | driveEstablishment =>
    simp only [TransportCall.step, TcpTransport.driveEstablishment]
    rw [Owner.read_bind]
    cases hphase : t.phase with
    | connecting => exact completeConnect_proper h hphase
    | noDelay => exact applyNoDelay_proper h hphase
    | keepalive => exact applyKeepalive_proper h hphase
    | opened => exact h
  | clearRead => exact h
  | clearWrite => exact h
  | observe readiness => exact h
  | elapse inner => exact h

/-- What was applied in any phase is a beginning of the policy. -/
lemma Applied.begins (h : Applied policy log phase) : settled log <+: settings policy := by
  cases phase with
  | connecting => exact h ▸ List.nil_prefix
  | noDelay => exact h.1 ▸ List.nil_prefix
  | keepalive =>
    obtain ⟨hsettled, _⟩ := h
    rw [hsettled]
    exact ⟨_, rfl⟩
  | opened => exact h.1 ▸ List.prefix_rfl

/-- **The policy comes first.** In every run of a transport, whatever its socket answers: the
settings that were made are a beginning of those of the policy, each made once and in their order, a
failed one being tried again before the next. Where the transport is open, readable or writable, all
of them were made, on a connection that was confirmed before the first. -/
theorem tcp_policy_first (policy : TcpSocketPolicy) (inner : S) (calls : List (TransportCall S)) :
    let t := calls.foldl (TransportCall.step policy) ⟨⟨inner, []⟩, .connecting, .empty⟩
    settled t.stream.log <+: settings policy ∧
      (t.isOpen = true ∨ t.canRead = true ∨ t.canWrite = true →
          settled t.stream.log = settings policy ∧ Confirmed t.stream.log) := by
  have hproper : ∀ (calls : List (TransportCall S)) (t : TcpTransport (Logged S)), Proper policy t →
      Proper policy (calls.foldl (TransportCall.step policy) t) := by
    intro calls
    induction calls with
    | nil => exact fun _ h => h
    | cons call calls ih => exact fun t h => ih _ (step_proper h call)
  have hfinal := hproper calls ⟨⟨inner, []⟩, .connecting, .empty⟩ rfl
  generalize calls.foldl (TransportCall.step policy) ⟨⟨inner, []⟩, .connecting, .empty⟩ =
    t at hfinal ⊢
  refine ⟨Applied.begins hfinal, fun hopen => ?_⟩
  have hphase : t.phase = .opened := by
    rcases hopen with h | h | h
    · exact of_decide_eq_true h
    · exact of_decide_eq_true (Bool.and_eq_true_iff.mp h).1
    · exact of_decide_eq_true (Bool.and_eq_true_iff.mp h).1
  unfold Proper at hfinal
  rw [hphase] at hfinal
  exact hfinal

end

end Bornera.Tcp
