import Bornera.Lib.Keeping
import Bornera.Rustls.Progress
import Bornera.Slot.Health

/-!
# A slot over TLS

The TLS transport reads and writes no more than it is given when its connection does, and its bound
on memory is that of its limits, which nothing changes. So a slot over one never fails.
-/

namespace Bornera.Rustls

open Bornera.Core Slot Lib TlsConnection RustlsTransport
open Owner (Keeps)

variable {S K : Type} [TcpStream S] [TlsConnection K]

/-! ### Limits -/

/-- The limits stay. -/
def Limits (t t' : RustlsTransport S K) : Prop := t'.limits = t.limits

instance : Std.Refl (Limits : RustlsTransport S K → RustlsTransport S K → Prop) := ⟨fun _ => rfl⟩

instance : IsTrans (RustlsTransport S K) Limits := ⟨fun _ _ _ h h' => Eq.trans h' h⟩

omit [TcpStream S] in
lemma refreshState_limits (phase : TransportFailurePhase) :
    Keeps Limits (refreshState phase : RustlsTransport.Run S K Unit) := by
  unfold refreshState
  refine .bind (.update fun _ => rfl) fun answer => ?_
  cases answer with
  | error source => exact .fail _
  | ok state =>
    refine .read fun t => ?_
    refine ((Keeps.settle _ : Keeps Limits _).bind fun _ => ?_) t
    exact .bind (.change fun _ => rfl) fun _ => .ite (.change fun _ => rfl) (.pure _)

lemma driveTlsWrite_limits (budget : TransportBudget) (phase : TransportFailurePhase) :
    Keeps Limits (driveTlsWrite budget phase : RustlsTransport.Run S K TransportProgress) := by
  unfold driveTlsWrite
  refine .bind (.update fun _ => rfl) fun answer => ?_
  rcases answer with source | _ | written
  · exact .ite (.bind (.change fun _ => rfl) fun _ => .pure _) (.fail _)
  · exact .fail _
  · exact .bind (.change fun _ => rfl) fun _ => (refreshState_limits phase).bind fun _ => .pure _

lemma driveTlsRead_limits (budget : TransportBudget) (phase : TransportFailurePhase) :
    Keeps Limits (driveTlsRead budget phase : RustlsTransport.Run S K TransportProgress) := by
  unfold driveTlsRead
  refine .bind (.update fun _ => rfl) fun answer => ?_
  rcases answer with source | _ | read
  · exact .ite (.bind (.change fun _ => rfl) fun _ => .pure _) (.fail _)
  · refine .bind (.change fun _ => rfl) fun _ => .read fun t => ?_
    exact (Keeps.ite (.fail _) (.pure _) : Keeps Limits _) t
  · exact .bind (refreshState_limits phase) fun _ => .bind (.change fun _ => rfl) fun _ => .pure _

lemma driveTlsOnce_limits (budget : TransportBudget)
    (readPhase writePhase : TransportFailurePhase) :
    Keeps Limits
      (driveTlsOnce budget readPhase writePhase : RustlsTransport.Run S K TransportProgress) := by
  have hread := driveTlsRead_limits (S := S) (K := K) budget readPhase
  have hwrite := driveTlsWrite_limits (S := S) (K := K) budget writePhase
  unfold driveTlsOnce
  refine .bind (.update fun _ => rfl) fun pending => ?_
  cases pending with
  | some error => exact .fail _
  | none =>
    refine .read fun t => ?_
    split
    · exact rfl
    · cases t.preference <;> cases t.canTlsRead <;> cases t.canTlsWrite
      all_goals first | exact hread t | exact hwrite t | exact rfl

omit [TcpStream S] [TlsConnection K] in
lemma onStream_limits {α : Type} (f : S → α × S) :
    Keeps Limits (onStream f : RustlsTransport.Run S K α) := .update fun _ => rfl

section
omit [TlsConnection K]

lemma completeConnect_limits :
    Keeps Limits (completeConnect : RustlsTransport.Run S K TransportProgress) := by
  unfold completeConnect
  refine (onStream_limits _).bind fun error => ?_
  rcases error with source | _ | source
  · exact .fail _
  · refine (onStream_limits _).bind fun peer => ?_
    cases peer with
    | error source => exact .ite (.bind (.change fun _ => rfl) fun _ => .pure _) (.fail _)
    | ok => exact .bind (.change fun _ => rfl) fun _ => .pure _
  · exact .fail _

lemma applyNoDelay_limits (policy : TcpSocketPolicy) :
    Keeps Limits (applyNoDelay policy : RustlsTransport.Run S K TransportProgress) := by
  unfold applyNoDelay
  refine (onStream_limits _).bind fun answer => ?_
  cases answer with
  | error source => exact .fail _
  | ok => exact .bind (.change fun _ => rfl) fun _ => .pure _

lemma applyKeepalive_limits (policy : TcpSocketPolicy) :
    Keeps Limits (applyKeepalive policy : RustlsTransport.Run S K TransportProgress) := by
  unfold applyKeepalive
  cases policy.keepalive with
  | none => exact .bind (.change fun _ => rfl) fun _ => .pure _
  | some idle =>
    refine (onStream_limits _).bind fun answer => ?_
    cases answer with
    | error source => exact .fail _
    | ok => exact .bind (.change fun _ => rfl) fun _ => .pure _

end

lemma driveEstablishment_limits (policy : TcpSocketPolicy) (budget : TransportBudget) :
    Keeps Limits
      (driveEstablishment policy budget : RustlsTransport.Run S K TransportProgress) := by
  have hopens : ∀ progress : TransportProgress, Keeps Limits (do
      Owner.change fun t : RustlsTransport S K =>
        if t.phase = .handshaking ∧ isHandshaking t.tls = false ∧ wantsWrite t.tls = false then
          { t with phase := .opened } else t
      pure progress : RustlsTransport.Run S K TransportProgress) := by
    refine fun progress => .bind (.change fun t => ?_) fun _ => .pure _
    unfold Limits
    split <;> rfl
  unfold driveEstablishment
  refine .read fun t => ?_
  cases t.phase with
  | connecting => exact completeConnect_limits.bind hopens t
  | noDelay => exact (applyNoDelay_limits policy).bind hopens t
  | keepalive => exact (applyKeepalive_limits policy).bind hopens t
  | handshaking => exact (driveTlsOnce_limits budget _ _).bind hopens t
  | opened => exact hopens _ t

lemma driveTransport_limits (budget : TransportBudget) :
    Keeps Limits (driveTransport budget : RustlsTransport.Run S K TransportProgress) := by
  unfold driveTransport
  refine .read fun t => ?_
  exact (Keeps.ite (driveTlsWrite_limits budget _) (driveTlsOnce_limits budget _ _) :
    Keeps Limits _) t

section
omit [TcpStream S]

lemma beginShutdown_limits :
    Keeps Limits (beginShutdown : RustlsTransport.Run S K TransportProgress) := by
  unfold beginShutdown
  exact .bind (.update fun _ => rfl) fun _ => .bind (.change fun _ => rfl) fun _ =>
    (refreshState_limits _).bind fun _ => .pure _

lemma read_limits (t : RustlsTransport S K) {n : ℕ} (buffer : List.Vector UInt8 n) :
    (t.read buffer).2.limits = t.limits := by
  unfold RustlsTransport.read
  split <;> rfl

lemma write_limits (t : RustlsTransport S K) (bytes : List UInt8) :
    (t.write bytes).2.limits = t.limits := by
  unfold RustlsTransport.write
  split
  · rfl
  · split
    · rfl
    · split
      next => rfl
      next => rfl
      next written tls _ hanswer =>
        have hkept := refreshState_limits .write { t with tls }
        split
        next source t' hrefreshed =>
          rw [hrefreshed] at hkept
          exact hkept
        next t' hrefreshed =>
          rw [hrefreshed] at hkept
          exact hkept

/-- A write takes what its connection takes. -/
lemma write_count (t : RustlsTransport S K) {bytes : List UInt8} {count : ℕ}
    (h : (t.write bytes).1 = .ok count) :
    count = 0 ∨ (writePlaintext t.tls bytes).1 = .ok count := by
  unfold RustlsTransport.write at h
  split at h
  · cases h
    exact .inl rfl
  · split at h
    · cases h
    · split at h
      next => cases h
      next => cases h
      next written tls _ hanswer =>
        split at h
        next source t' hrefreshed =>
          cases h
          exact .inr (congrArg Prod.fst hanswer)
        next t' hrefreshed =>
          cases h
          exact .inr (congrArg Prod.fst hanswer)

end

/-- **TLS transports with the limits**, on a connection that keeps its word, are dutiful. -/
lemma dutiful_tls (limits : RustlsTransportLimits)
    (hreads : ∀ (k : K) (room : ℕ) (bytes : List UInt8), (readPlaintext k room).1 = .ok bytes →
      bytes.length ≤ room)
    (hwrites : ∀ (k : K) (bytes : List UInt8) (written : ℕ),
      (writePlaintext k bytes).1 = .ok written → written ≤ bytes.length) :
    Dutiful limits.transportLimits (fun t : RustlsTransport S K => t.limits = limits) where
  read t ht _ slice := (read_limits t slice).trans ht
  write t ht bytes := (write_limits t bytes).trans ht
  establish t ht policy budget := (driveEstablishment_limits policy budget t).trans ht
  drive t ht budget := (driveTransport_limits budget t).trans ht
  beginShutdown t ht _ := (beginShutdown_limits t).trans ht
  canEstablish _ ht := ht
  hasTransportWork _ ht := ht
  isShutdownComplete _ ht := ht
  isOpen _ ht := ht
  canRead _ ht := ht
  canWrite _ ht := ht
  pressure _ ht := ht
  pressureLimit _ ht := ht
  clearRead _ ht := ht
  clearWrite _ ht := ht
  reads t _ n slice count hreport := by
    have hle := hreads t.tls n
    simp only [SlotTransport.read, RustlsTransport.read] at hreport
    generalize readPlaintext t.tls n = answer at hle hreport
    obtain ⟨source | bytes, tls⟩ := answer
    · cases hreport
    · cases hreport
      exact hle bytes rfl
  writes t _ bytes count hreport := by
    rcases write_count t hreport with rfl | hcount
    · exact Nat.zero_le _
    · exact hwrites t.tls bytes count hcount
  limit_eq _ ht := congrArg RustlsTransportLimits.transportLimits ht
  within t ht := by
    rw [← ht]
    exact le_rfl

/-! ### Slots -/

omit [TcpStream S] in
lemma connect_limits {limits : RustlsTransportLimits} {supplied : ℕ} {tls : Except RustlsError K}
    {stream : Except IoError S} {t : RustlsTransport S K}
    (h : connect limits supplied tls stream = .ok t) : t.limits = limits := by
  unfold connect at h
  split at h
  · cases h
  · repeat' split at h
    all_goals cases h
    rfl

section
variable {B D C R E : Type} {Q W : Type → Type} [ByteBudget B] [FrameDecoder D R E] [Retained R]
  [InboundClassifier C R] [EventBatch Q] [BoundedTimers W]

/-- **A slot over TLS never fails.** Let its transport come from a connect with limits that
the slot has memory for, on a connection that reads and writes no more than it is given, and
let the slot have room for the four events of the lifecycle. Then whatever the socket and the
peer do, and whatever the caller asks for but a finalization as drained: no call returns a
failure, and the slot runs. -/
theorem tls_never_fails (setup : SlotSetup D C R E) (hevents : 4 ≤ setup.limits.lifecycle.maxEvents)
    (hreads : ∀ (k : K) (room : ℕ) (bytes : List UInt8), (readPlaintext k room).1 = .ok bytes →
      bytes.length ≤ room)
    (hwrites : ∀ (k : K) (bytes : List UInt8) (written : ℕ),
      (writePlaintext k bytes).1 = .ok written → written ≤ bytes.length)
    {limits : RustlsTransportLimits} {supplied : ℕ} {tls : Except RustlsError K}
    {stream : Except IoError S} {t₀ : RustlsTransport S K}
    (hconnect : connect limits supplied tls stream = .ok t₀)
    (hlimits : limits.transportLimits ≤ setup.limits.transportRetainedBytes)
    (calls : List (SlotCall (RustlsTransport S K))) (hundrained : .finalize .drained ∉ calls)
    (hhosts : Hosts Drifts t₀ (setup.history B Q W calls)) :
    ∀ ev ∈ setup.history B Q W calls, ev.output.error = none ∧
      ∀ s ∈ ev.after.slot, s.state = .running := by
  refine dutiful_never_fails setup (dutiful_tls limits hreads hwrites) hlimits hevents
    (fun t t' h => ?_) (fun t t' h ht => ?_) t₀
    (connect_limits hconnect) (decide_eq_false (by rw [connect_phase hconnect]; decide)) calls
      hundrained hhosts
  · obtain ⟨stream, readiness, rfl⟩ := h
    rfl
  · obtain ⟨stream, readiness, rfl⟩ := h
    exact ht

end

/-- The quanta of `sampleQuanta`, then a close on request. -/
def sampleLife : List (SlotCall (RustlsTransport SampleSocket SampleTls)) :=
  sampleQuanta ++ [.finalize .requested, .settleTransportClosed]

/-- The slot drives its handshake, and is closed in the middle of it. -/
theorem tls_never_fails_sample :
    (sampleSetup.final Counted ListBatch ListTimers sampleLife).slot.any
      (·.transportState = .closed) ∧
      ∀ ev ∈ sampleSetup.history Counted ListBatch ListTimers sampleLife,
        ev.output.error = none ∧ ∀ s ∈ ev.after.slot, s.state = .running := by
  have hconnect : connect .sample 23 (.ok (⟨⟩ : SampleTls)) (.ok (⟨⟩ : SampleSocket)) =
    .ok sampleTransport := rfl
  refine ⟨by decide +kernel, tls_never_fails sampleSetup (by decide)
    (fun k room bytes h => by cases h) (fun k bytes written h => ?_) hconnect
    (by decide) sampleLife (by simp [sampleLife, sampleQuanta]) ⟨?_, ?_, ?_, trivial⟩⟩
  · cases h
    exact le_rfl
  · rintro _ ⟨⟩
    exact ⟨_, _, rfl⟩
  · rintro _ ⟨⟩
  · rintro _ ⟨⟩

end Bornera.Rustls
