import Bornera.Rustls.Transport
import Bornera.Slot.Contract

/-!
# The TLS transport keeps the contract on progress

Whatever the connection and the socket answer, a step that `RustlsTransport` advertises fails or
does one operation within its budget. A TLS step that moves bytes gives the turn to the other
direction, and nothing but a TLS step takes it back.
-/

namespace Bornera.Rustls

open Bornera.Core Slot Lib TlsConnection RustlsTransport

variable {S K : Type} [TcpStream S] [TlsConnection K]

/-! ### Bytes within a budget -/

lemma Limited.read_length {r : Limited S} {room : ℕ} {bytes : List UInt8}
    (h : (r.read room).1 = .ok bytes) :
    bytes.length ≤ r.remaining := by
  unfold Limited.read at h
  split at h
  · cases h
  · have hle := TcpStream.read_le r.inner (min room r.remaining)
    rcases hread : TcpStream.read r.inner (min room r.remaining) with ⟨error | taken, inner⟩
    · rw [hread] at h
      cases h
    · rw [hread] at h hle
      cases h
      exact (hle bytes rfl).trans (min_le_right _ _)

lemma Limited.write_length {w : Limited S} {buffer : List UInt8} {written : ℕ}
    (h : (w.write buffer).1 = .ok written) :
    written ≤ w.remaining := by
  unfold Limited.write at h
  split at h
  · cases h
  · have hle := TcpStream.write_le w.inner (buffer.take (min buffer.length w.remaining))
    rcases hwrite : TcpStream.write w.inner (buffer.take (min buffer.length w.remaining))
      with ⟨error | taken, inner⟩
    · rw [hwrite] at h
      cases h
    · rw [hwrite] at h hle
      cases h
      have htaken := hle written rfl
      rw [List.length_take] at htaken
      omega

lemma readTls_length {k : K} {stream : S} {budget read : ℕ}
    (h : (readTls Limited.read k ⟨stream, budget⟩).1 = .ok read) : read ≤ budget := by
  unfold readTls at h
  split at h
  · cases h
    exact Nat.zero_le _
  · cases h
  · next room _ =>
    have hlength := @Limited.read_length S _ ⟨stream, budget⟩ room
    rcases hread : Limited.read (⟨stream, budget⟩ : Limited S) room with ⟨error | bytes, reader⟩
    · rw [hread] at h
      cases h
    · rw [hread] at h hlength
      cases h
      exact hlength rfl

lemma writeTls_length {k : K} {stream : S} {budget written : ℕ}
    (h : (writeTls Limited.write k ⟨stream, budget⟩).1 = .ok written) : written ≤ budget := by
  unfold writeTls at h
  split at h
  · exact Limited.write_length h
  · cases h
    exact Nat.zero_le _

/-! ### TLS steps -/

/-- The other direction. -/
def TlsPreference.other : TlsPreference → TlsPreference
  | .read => .write
  | .write => .read

/-- The direction a report of work is about. -/
def serves (p : TransportProgress) : Option TlsPreference :=
  if 0 < p.readBytes then some .read else if 0 < p.writtenBytes then some .write else none

/-- One operation within a budget. -/
structure OneOperation (budget : TransportBudget) (p : TransportProgress) : Prop where
  operations : p.operations = 1
  read : p.readBytes ≤ budget.readBytes
  written : p.writtenBytes ≤ budget.writeBytes

/-- What a TLS step that succeeds leaves: the phase, and the turn of the
direction it did not serve. -/
structure TlsStep (budget : TransportBudget) (t : RustlsTransport S K) (p : TransportProgress)
    (t' : RustlsTransport S K) :
    Prop extends OneOperation budget p where
  phase : t'.phase = t.phase
  preference : t'.preference = (serves p).elim t.preference TlsPreference.other

/-- What everything but a TLS step leaves. -/
structure Unmoved (t t' : RustlsTransport S K) : Prop where
  phase : t'.phase = t.phase
  preference : t'.preference = t.preference

lemma OneOperation.nothing (budget : TransportBudget) : OneOperation budget operation :=
  ⟨rfl, Nat.zero_le _, Nat.zero_le _⟩

lemma OneOperation.valid {budget : TransportBudget} {p : TransportProgress}
    (h : OneOperation budget p) : p.Valid budget := by
  refine ⟨?_, ?_⟩
  · have hone : 1 ≤ (budget.operations : ℕ) := budget.operations.pos
    simp [TransportProgress.fits, h.operations, h.read, h.written, hone]
  · simp [TransportProgress.isIdle, h.operations]

omit [TcpStream S] [TlsConnection K] in
/-- A step that served nothing. -/
lemma Unmoved.step {budget : TransportBudget} {t t' : RustlsTransport S K} (h : Unmoved t t') :
    TlsStep budget t operation t' :=
  ⟨.nothing budget, h.phase, h.preference⟩

omit [TcpStream S] in
/-- The packets are processed, and the turn stays. -/
lemma refreshState_unmoved (t : RustlsTransport S K) (phase : TransportFailurePhase) :
    Owner.Triple (Unmoved t) (refreshState phase : Run S K Unit) (fun _ => Unmoved t)
      (fun _ => Unmoved t) := by
  refine .bind (R := fun _ => Unmoved t) (.update fun t' h => ⟨h.phase, h.preference⟩)
    fun result => ?_
  cases result with
  | error error => exact .fail fun t' h => h
  | ok state =>
    refine .read fun t' =>
      .bind (R := fun _ => Unmoved t) (.settle (fun _ _ _ h => h.2) fun _ _ _ h => h.2) fun _ => ?_
    refine .bind (R := fun _ => Unmoved t) (.change fun t' h => ⟨h.phase, h.preference⟩) fun _ => ?_
    exact .ite (fun _ => .change fun t' h => ⟨h.phase, h.preference⟩) fun _ => .pure fun t' h => h

lemma driveTlsWrite_spec (t : RustlsTransport S K) (budget : TransportBudget)
    (phase : TransportFailurePhase) :
    Owner.Triple (· = t) (driveTlsWrite budget phase : Run S K TransportProgress)
      (fun p t' => TlsStep budget t p t' ∧ p.readBytes = 0) (fun _ t' => t'.phase = t.phase) := by
  refine .bind (R := fun result t' =>
    Unmoved t t' ∧ ∀ written : ℕ, result = .ok written → written ≤ (budget.writeBytes : ℕ))
    (.update ?_) fun result => ?_
  · rintro t rfl
    exact ⟨⟨rfl, rfl⟩, fun written => writeTls_length⟩
  · rcases result with source | (_ | written)
    · refine .ite (fun _ => ?_) fun _ => .fail fun t' h => h.1.phase
      exact .bind (R := fun _ => Unmoved t)
          (.change fun t' h => ⟨h.1.phase, h.1.preference⟩) fun _ =>
        .pure fun t' h => ⟨h.step, rfl⟩
    · exact .fail fun t' h => h.1.phase
    · refine .bind (R := fun _ t' =>
        Unmoved { t with preference := .read } t' ∧ written + 1 ≤ budget.writeBytes)
        (.change fun t' h => ⟨⟨h.1.phase, rfl⟩, h.2 _ rfl⟩) fun _ => ?_
      refine .bind (R := fun _ t' =>
        Unmoved { t with preference := .read } t' ∧ written + 1 ≤ budget.writeBytes)
        (fun t' h => ?_) fun _ => .pure fun t' h =>
          ⟨⟨⟨rfl, Nat.zero_le _, h.2⟩, h.1.phase, h.1.preference⟩, rfl⟩
      have hrefresh := refreshState_unmoved { t with preference := .read } phase t' h.1
      rcases hrun : refreshState phase t' with ⟨error | _, t''⟩
      · rw [hrun] at hrefresh
        exact hrefresh.phase
      · rw [hrun] at hrefresh
        exact ⟨hrefresh, h.2⟩

lemma driveTlsRead_spec (t : RustlsTransport S K) (budget : TransportBudget)
    (phase : TransportFailurePhase) :
    Owner.Triple (· = t) (driveTlsRead budget phase : Run S K TransportProgress)
      (fun p t' => TlsStep budget t p t' ∧ p.writtenBytes = 0)
        (fun _ t' => t'.phase = t.phase) := by
  refine .bind (R := fun result t' =>
    Unmoved t t' ∧ ∀ read : ℕ, result = .ok read → read ≤ (budget.readBytes : ℕ))
    (.update ?_) fun result => ?_
  · rintro t rfl
    exact ⟨⟨rfl, rfl⟩, fun read => readTls_length⟩
  · have hcleared : Owner.Triple (Unmoved t) (pure operation : Run S K TransportProgress)
        (fun p t' => TlsStep budget t p t' ∧ p.writtenBytes = 0) (fun _ t' => t'.phase = t.phase) :=
      .pure fun t' h => ⟨h.step, rfl⟩
    rcases result with source | (_ | read)
    · refine .ite (fun _ => ?_) fun _ => .fail fun t' h => h.1.phase
      exact .bind (.change fun t' h => ⟨h.1.phase, h.1.preference⟩) fun _ => hcleared
    · refine .bind (R := fun _ => Unmoved t) (.change fun t' h => ⟨h.1.phase, h.1.preference⟩)
        fun _ => .read fun t' => ?_
      refine .ite (fun _ => .fail fun t' h => h.2.phase) fun _ =>
        hcleared.weaken (fun _ h => h.2) (fun _ _ h => h) fun _ _ h => h
    · refine .bind (R := fun _ t' => Unmoved t t' ∧ read + 1 ≤ (budget.readBytes : ℕ))
        (fun t' h => ?_) fun _ => ?_
      · have hrefresh := refreshState_unmoved t phase t' h.1
        rcases hrun : refreshState phase t' with ⟨error | _, t''⟩
        · rw [hrun] at hrefresh
          exact hrefresh.phase
        · rw [hrun] at hrefresh
          exact ⟨hrefresh, h.2 _ rfl⟩
      · refine .bind (R := fun _ t' =>
          (t'.phase = t.phase ∧ t'.preference = .write) ∧ read + 1 ≤ (budget.readBytes : ℕ))
          (.change fun t' h => ⟨⟨h.1.phase, rfl⟩, h.2⟩) fun _ => ?_
        exact .pure fun t' h => ⟨⟨⟨rfl, h.2, Nat.zero_le _⟩, h.1.1, h.1.2⟩, rfl⟩

lemma serves_read {p : TransportProgress} (h : p.writtenBytes = 0) : ∀ d ∈ serves p, d = .read := by
  intro d hd
  unfold serves at hd
  split at hd
  · cases hd
    rfl
  · simp [h] at hd

lemma serves_write {p : TransportProgress} (h : p.readBytes = 0) : ∀ d ∈ serves p, d = .write := by
  intro d hd
  unfold serves at hd
  rw [if_neg (by omega)] at hd
  split at hd
  · cases hd
    rfl
  · cases hd

/-- What a step of the TLS connection does, with both directions ready for the
one whose turn it is. -/
structure Serves (t : RustlsTransport S K) (p : TransportProgress)
    (t' : RustlsTransport S K) : Prop where
  preference : t'.preference = (serves p).elim t.preference TlsPreference.other
  turn : t.canTlsRead = true → t.canTlsWrite = true → ∀ d ∈ serves p, d = t.preference

/-- A step of the TLS connection that does one operation when there is something to do. -/
abbrev Once (budget : TransportBudget) (t : RustlsTransport S K)
    (m : Run S K TransportProgress) : Prop :=
  Owner.Triple (· = t) m
    (fun p t' =>
      t'.phase = t.phase ∧ (t.canTlsProgress = true → OneOperation budget p) ∧ Serves t p t')
    (fun _ t' => t'.phase = t.phase)

lemma once_read {t : RustlsTransport S K} (budget : TransportBudget) (phase : TransportFailurePhase)
    (hturn : t.canTlsRead = true → t.canTlsWrite = true → t.preference = .read) :
    Once budget t (driveTlsRead budget phase) :=
  (driveTlsRead_spec t budget phase).weaken (fun _ h => h)
    (fun _ _ h => ⟨h.1.phase, fun _ => h.1.toOneOperation, h.1.preference,
    fun hr hw d hd => (serves_read h.2 d hd).trans (hturn hr hw).symm⟩) fun _ _ h => h

lemma once_write {t : RustlsTransport S K} (budget : TransportBudget)
    (phase : TransportFailurePhase)
    (hturn : t.canTlsRead = true → t.canTlsWrite = true → t.preference = .write) :
    Once budget t (driveTlsWrite budget phase) :=
  (driveTlsWrite_spec t budget phase).weaken (fun _ h => h)
    (fun _ _ h => ⟨h.1.phase, fun _ => h.1.toOneOperation, h.1.preference,
    fun hr hw d hd => (serves_write h.2 d hd).trans (hturn hr hw).symm⟩) fun _ _ h => h

omit [TcpStream S] in
lemma once_idle {t : RustlsTransport S K} (budget : TransportBudget)
    (h : t.canTlsProgress = false) :
    Once budget t (pure .idle) := by
  refine .pure ?_
  rintro t rfl
  exact ⟨rfl, fun hcan => absurd hcan (Bool.eq_false_iff.mp h), rfl, fun _ _ d hd => by cases hd⟩

lemma once_driveTlsOnce (t : RustlsTransport S K) (budget : TransportBudget)
    (readPhase writePhase : TransportFailurePhase) :
    Once budget t (driveTlsOnce budget readPhase writePhase) := by
  rintro t rfl
  unfold driveTlsOnce
  rw [Owner.update_bind, takePendingError]
  cases hpending : t.pendingError with
  | some error => rfl
  | none =>
    have hkept : { t with pendingError := none } = t := by rw [← hpending]
    dsimp only
    rw [Owner.read_bind, hkept]
    by_cases heof : t.eof = .truncated ∧ t.plaintextBytes = 0
    · rw [if_pos heof]
      rfl
    · rw [if_neg heof]
      refine (show Once budget t _ from ?_) t rfl
      split
      · next hpreference _ => exact once_read budget readPhase fun _ _ => hpreference
      · next hw => exact once_read budget readPhase fun _ h => absurd h (Bool.eq_false_iff.mp hw)
      · next hpreference _ => exact once_write budget writePhase fun _ _ => hpreference
      · next hr _ => exact once_write budget writePhase fun h => absurd h (Bool.eq_false_iff.mp hr)
      · next hr hw =>
          exact once_idle budget (by simpa [canTlsProgress, hr, hw, hpending] using heof)
      · next hr hw =>
          exact once_idle budget (by simpa [canTlsProgress, hr, hw, hpending] using heof)

/-! ### The port -/

/-- A step before the handshake: one operation, and the turn stays. A failure
leaves the phase too. -/
abbrev Early (t : RustlsTransport S K) (m : Run S K TransportProgress) : Prop :=
  Owner.Triple (· = t) m (fun p t' => p = operation ∧ t'.preference = t.preference)
    (fun _ => Unmoved t)

section
omit [TcpStream S] [TlsConnection K]

lemma early_change {t : RustlsTransport S K} {f : RustlsTransport S K → RustlsTransport S K}
    (h : ∀ t, (f t).preference = t.preference) :
    Owner.Triple (Unmoved t) (do
      Owner.change f
      pure operation : Run S K TransportProgress)
      (fun p t' => p = operation ∧ t'.preference = t.preference) (fun _ => Unmoved t) :=
  .bind (R := fun _ t' => t'.preference = t.preference)
      (.change fun t' ht => (h t').trans ht.preference) fun _ =>
    .pure fun _ h => ⟨rfl, h⟩

/-- A step that asks the stream first. -/
lemma early_ask {α : Type} (ask : S → α × S) {t : RustlsTransport S K}
    {f : α → Run S K TransportProgress}
    (h : ∀ a, Owner.Triple (Unmoved t) (f a)
      (fun p t' => p = operation ∧ t'.preference = t.preference) (fun _ => Unmoved t)) :
    Owner.Triple (Unmoved t) (onStream ask >>= f)
      (fun p t' => p = operation ∧ t'.preference = t.preference) (fun _ => Unmoved t) :=
  .bind (R := fun _ => Unmoved t) (.update fun _ h => ⟨h.phase, h.preference⟩) h

end

section
omit [TlsConnection K]

lemma early_completeConnect (t : RustlsTransport S K) : Early t completeConnect := by
  refine Owner.Triple.weaken (early_ask (t := t) _ fun result => ?_) (fun _ h => h ▸ ⟨rfl, rfl⟩)
    (fun _ _ h => h) fun _ _ h => h
  rcases result with source | _ | source
  · exact .fail fun _ h => h
  · refine early_ask _ fun result => ?_
    rcases result with source | _
    · exact .ite (fun _ => early_change fun _ => rfl) fun _ => .fail fun _ h => h
    · exact early_change fun _ => rfl
  · exact .fail fun _ h => h

lemma early_applyNoDelay (t : RustlsTransport S K) (policy : TcpSocketPolicy) :
    Early t (applyNoDelay policy) := by
  refine Owner.Triple.weaken (early_ask (t := t) _ fun result => ?_) (fun _ h => h ▸ ⟨rfl, rfl⟩)
    (fun _ _ h => h) fun _ _ h => h
  rcases result with source | _
  · exact .fail fun _ h => h
  · exact early_change fun _ => rfl

lemma early_applyKeepalive (t : RustlsTransport S K) (policy : TcpSocketPolicy) :
    Early t (applyKeepalive policy) := by
  unfold applyKeepalive
  cases policy.keepalive with
  | none =>
    exact Owner.Triple.weaken (early_change fun _ => rfl) (fun _ h => h ▸ ⟨rfl, rfl⟩)
      (fun _ _ h => h) fun _ _ h => h
  | some idle =>
    refine Owner.Triple.weaken (early_ask (t := t) _ fun result => ?_) (fun _ h => h ▸ ⟨rfl, rfl⟩)
      (fun _ _ h => h) fun _ _ h => h
    rcases result with source | _
    · exact .fail fun _ h => h
    · exact early_change fun _ => rfl

end

/-- What a step of the establishment does: within the handshake it is a TLS step, and outside it
leaves the turn. One that fails leaves the phase. -/
structure Established (budget : TransportBudget) (t : RustlsTransport S K) (p : TransportProgress)
    (t' : RustlsTransport S K) : Prop where
  work : t.canEstablish = true → OneOperation budget p
  handshake : t.phase = .handshaking → Serves t p t'
  early : t.phase ≠ .handshaking → t'.preference = t.preference

section
omit [TcpStream S]

lemma Early.establishes {t : RustlsTransport S K} {budget : TransportBudget}
    {m : Run S K TransportProgress} (h : Early t m) (hphase : t.phase ≠ .handshaking) :
    Owner.Triple (· = t) m (Established budget t)
      (fun _ t' =>
        t'.phase = t.phase ∧ (t.phase ≠ .handshaking → t'.preference = t.preference)) := by
  refine h.weaken (fun _ h => h) (fun p t' h => ?_) fun _ t' h => ⟨h.phase, fun _ => h.preference⟩
  obtain ⟨rfl, hpreference⟩ := h
  exact ⟨fun _ => .nothing budget, fun h => absurd h hphase, fun _ => hpreference⟩

/-- The step that opens the transport leaves the turn. -/
lemma Established.opens {budget : TransportBudget} {t t' : RustlsTransport S K}
    {p : TransportProgress} (h : Established budget t p t')
    (phase : TransportPhase) : Established budget t p { t' with phase } :=
  ⟨h.work, fun hphase => ⟨(h.handshake hphase).preference, (h.handshake hphase).turn⟩, h.early⟩

end

lemma driveEstablishment_spec (t : RustlsTransport S K) (policy : TcpSocketPolicy)
    (budget : TransportBudget) :
    Owner.Triple (· = t) (driveEstablishment policy budget) (Established budget t)
      (fun _ t' =>
        t'.phase = t.phase ∧ (t.phase ≠ .handshaking → t'.preference = t.preference)) := by
  rintro t rfl
  unfold driveEstablishment
  rw [Owner.read_bind]
  have hopens (p : TransportProgress) : Owner.Triple (Established budget t p) (do
      Owner.change fun t =>
        if t.phase = .handshaking ∧ isHandshaking t.tls = false ∧ wantsWrite t.tls = false then
          { t with phase := .opened } else t
      pure p : Run S K TransportProgress) (Established budget t)
      (fun _ t' =>
        t'.phase = t.phase ∧ (t.phase ≠ .handshaking → t'.preference = t.preference)) := by
    refine .bind (R := fun _ => Established budget t p) (.change fun t' h => ?_) fun _ =>
      .pure fun _ h => h
    split
    · exact h.opens _
    · exact h
  refine (show Owner.Triple (· = t) _ (Established budget t) (fun _ t' => t'.phase = t.phase ∧
    (t.phase ≠ .handshaking → t'.preference = t.preference)) from ?_) t rfl
  split
  · next hphase =>
      exact ((early_completeConnect t).establishes (by rw [hphase]; decide)).bind hopens
  · next hphase =>
      exact ((early_applyNoDelay t policy).establishes (by rw [hphase]; decide)).bind hopens
  · next hphase =>
      exact ((early_applyKeepalive t policy).establishes (by rw [hphase]; decide)).bind hopens
  · next hphase =>
    refine Owner.Triple.bind ?_ hopens
    refine (once_driveTlsOnce t budget .establishment .establishment).weaken (fun _ h => h)
      (fun p t' h => ⟨fun hcan => h.2.1 ?_, fun _ => h.2.2, fun hne => absurd hphase hne⟩)
      fun _ t' h => ⟨h, fun hne => absurd hphase hne⟩
    simpa [canEstablish, hphase] using hcan
  · next hphase =>
    refine Owner.Triple.bind (.pure ?_) hopens
    rintro t' rfl
    refine ⟨fun hcan => ?_, fun hhandshaking => ?_, fun _ => rfl⟩
    · simp [canEstablish, hphase] at hcan
    · rw [hphase] at hhandshaking
      cases hhandshaking

lemma driveTransport_spec (t : RustlsTransport S K) (budget : TransportBudget) :
    Owner.Triple (· = t) (driveTransport budget)
      (fun p t' => (t.hasTransportWork = true → OneOperation budget p) ∧
        t'.preference = (serves p).elim t.preference TlsPreference.other ∧
        (t.shutdown = .notStarted → Serves t p t') ∧ t'.phase = t.phase)
          (fun _ t' => t'.phase = t.phase) := by
  rintro t rfl
  unfold driveTransport
  rw [Owner.read_bind]
  by_cases hshutdown : t.shutdown = .started
  · rw [if_pos hshutdown]
    refine (driveTlsWrite_spec t budget .shutdown).weaken (fun _ h => h) (fun p t' h => ?_)
      (fun _ _ h => h) t rfl
    have hlate : t.shutdown = .notStarted → Serves t p t' := fun hnot => by
      rw [hshutdown] at hnot
      cases hnot
    exact ⟨fun _ => h.1.toOneOperation, h.1.preference, hlate, h.1.phase⟩
  · rw [if_neg hshutdown]
    refine (once_driveTlsOnce t budget .transportRead .transportWrite).weaken (fun _ h => h)
      (fun p t' h => ?_)
      (fun _ _ h => h) t rfl
    refine ⟨fun hwork => h.2.1 ?_, h.2.2.preference, fun _ => h.2.2, h.1⟩
    simpa [hasTransportWork, hshutdown] using hwork

section
omit [TcpStream S]

lemma beginShutdown_spec (t : RustlsTransport S K) :
    Owner.Triple (· = t) beginShutdown (fun p t' => p = operation ∧ Unmoved t t')
      (fun _ => Unmoved t) := by
  refine .bind (R := fun _ => Unmoved t) (.update fun _ h => h ▸ ⟨rfl, rfl⟩) fun _ => ?_
  refine .bind (R := fun _ => Unmoved t) (.change fun _ h => ⟨h.phase, h.preference⟩) fun _ => ?_
  exact .bind (refreshState_unmoved t .shutdown) fun _ => .pure fun _ h => ⟨rfl, h⟩

lemma read_unmoved (t : RustlsTransport S K) {n : ℕ} (buffer : List.Vector UInt8 n) :
    Unmoved t (t.read buffer).2 := by
  unfold RustlsTransport.read
  rcases TlsConnection.readPlaintext t.tls n with ⟨error | bytes, tls⟩ <;> exact ⟨rfl, rfl⟩

lemma write_unmoved (t : RustlsTransport S K) (buffer : List UInt8) :
    Unmoved t (t.write buffer).2 := by
  unfold RustlsTransport.write
  split
  · exact ⟨rfl, rfl⟩
  · split
    · exact ⟨rfl, rfl⟩
    · rcases TlsConnection.writePlaintext t.tls buffer with ⟨error | (_ | written), tls⟩
      · exact ⟨rfl, rfl⟩
      · exact ⟨rfl, rfl⟩
      · have hrefresh := refreshState_unmoved t .write { t with tls } ⟨rfl, rfl⟩
        rcases hrun : refreshState .write { t with tls } with ⟨error | _, t'⟩ <;>
          rw [hrun] at hrefresh
        · simp only [hrun]
          exact ⟨hrefresh.phase, hrefresh.preference⟩
        · simp only [hrun]
          exact hrefresh

end

lemma driveTransport_phase (t : RustlsTransport S K) (budget : TransportBudget) :
    (driveTransport budget t).2.phase = t.phase := by
  have hspec := driveTransport_spec t budget t rfl
  rcases hrun : driveTransport budget t with ⟨error | p, t'⟩ <;> rw [hrun] at hspec
  · exact hspec
  · exact hspec.2.2.2

omit [TcpStream S] in
lemma beginShutdown_unmoved (t : RustlsTransport S K) : Unmoved t (beginShutdown t).2 := by
  have hspec := beginShutdown_spec t t rfl
  rcases hrun : beginShutdown t with ⟨error | p, t'⟩ <;> rw [hrun] at hspec
  · exact hspec
  · exact hspec.2

/-- **What the transport advertises it does**: the step fails, or is one
operation within its budget. -/
theorem advertised_work (t : RustlsTransport S K) (budget : TransportBudget)
    (p : TransportProgress) :
    (∀ policy, t.canEstablish = true → (driveEstablishment policy budget t).1 = .ok p →
      OneOperation budget p) ∧
      (t.hasTransportWork = true → (driveTransport budget t).1 = .ok p → OneOperation budget p) ∧
      ((beginShutdown t).1 = .ok p → OneOperation budget p) := by
  refine ⟨fun policy hcan h => ?_, fun hwork h => ?_, fun h => ?_⟩
  · have hspec := driveEstablishment_spec t policy budget t rfl
    rcases hrun : driveEstablishment policy budget t with ⟨error | p', t'⟩ <;>
      rw [hrun] at hspec h <;> cases h
    exact hspec.work hcan
  · have hspec := driveTransport_spec t budget t rfl
    rcases hrun : driveTransport budget t with ⟨error | p', t'⟩ <;> rw [hrun] at hspec h <;> cases h
    exact hspec.1 hwork
  · have hspec := beginShutdown_spec t t rfl
    rcases hrun : beginShutdown t with ⟨error | p', t'⟩ <;> rw [hrun] at hspec h <;> cases h
    exact hspec.1 ▸ .nothing budget

omit [TcpStream S] [TlsConnection K] in
lemma isOpen_congr {t t' : RustlsTransport S K} (h : t'.phase = t.phase) :
    t'.isOpen = t.isOpen := by
  unfold RustlsTransport.isOpen
  rw [h]

instance : HonestTransport (RustlsTransport S K) where
  canEstablish_same _ := rfl
  hasTransportWork_same _ := rfl
  isShutdownComplete_same _ := rfl
  isOpen_same _ := rfl
  canRead_same _ := rfl
  canWrite_same _ := rfl
  desiredInterest_same _ _ := rfl
  pressure_same _ := rfl
  pressureLimit_same _ := rfl
  establishes t policy budget p hcan h := ((advertised_work t budget p).1 policy hcan h).valid
  drives t budget p hwork h := ((advertised_work t budget p).2.1 hwork h).valid
  begins t budget p h := ((advertised_work t budget p).2.2 h).valid
  failed_open t policy budget source h := by
    have hspec := driveEstablishment_spec t policy budget t rfl
    refine isOpen_congr ?_
    change (driveEstablishment policy budget t).1 = .error source at h
    change (driveEstablishment policy budget t).2.phase = t.phase
    rcases hrun : driveEstablishment policy budget t with ⟨error | p, t'⟩ <;>
      rw [hrun] at hspec h <;> cases h
    exact hspec.1
  drive_open t budget := isOpen_congr (driveTransport_phase t budget)
  begin_open t _ := isOpen_congr (beginShutdown_unmoved t).phase
  read_open t _ slice := isOpen_congr (read_unmoved t slice).phase
  write_open t bytes := isOpen_congr (write_unmoved t bytes).phase
  clearRead_open _ := rfl
  clearWrite_open _ := rfl

/-! ### Alternation -/

/-- What can happen to a transport: the calls of its owner, an observation, and
time for its socket. -/
inductive TransportCall (S : Type) where
  | read {n : ℕ} (buffer : List.Vector UInt8 n)
  | write (bytes : List UInt8)
  | driveEstablishment (policy : TcpSocketPolicy) (budget : TransportBudget)
  | driveTransport (budget : TransportBudget)
  | beginShutdown (budget : TransportBudget)
  | clearRead
  | clearWrite
  | observe (readiness : Readiness)
  | elapse (stream : S)

namespace TransportCall

/-- The transport after a call, and the progress of a call that reports some. -/
def step (t : RustlsTransport S K) :
    TransportCall S → RustlsTransport S K × Option (Except TransportDiagnostic TransportProgress)
  | read buffer => ((t.read buffer).2, none)
  | write bytes => ((t.write bytes).2, none)
  | driveEstablishment policy budget =>
    ((RustlsTransport.driveEstablishment policy budget t).2,
      some (RustlsTransport.driveEstablishment policy budget t).1)
  | driveTransport budget =>
    ((RustlsTransport.driveTransport budget t).2, some (RustlsTransport.driveTransport budget t).1)
  | beginShutdown _ =>
    ((RustlsTransport.beginShutdown t).2, some (RustlsTransport.beginShutdown t).1)
  | clearRead => (t.clearRawRead, none)
  | clearWrite => (t.clearRawWrite, none)
  | observe readiness => (t.observe readiness, none)
  | elapse stream => ({ t with stream }, none)

/-- The calls that drive the TLS connection. -/
def drivesTls (t : RustlsTransport S K) : TransportCall S → Bool
  | driveEstablishment _ _ => t.phase = .handshaking
  | driveTransport _ => true
  | _ => false

end TransportCall

/-- One event in the life of a transport. -/
abbrev TransportEvent (S K : Type) : Type :=
  Transducer.Event (RustlsTransport S K) (TransportCall S)
    (Option (Except TransportDiagnostic TransportProgress))

/-- A TLS step that succeeded. -/
def TransportEvent.Steps (ev : TransportEvent S K) (p : TransportProgress) : Prop :=
  ev.input.drivesTls ev.before = true ∧ ev.output = some (.ok p)

/-- What is not a TLS step leaves the turn. -/
lemma step_aside {t : RustlsTransport S K} {call : TransportCall S} (h : call.drivesTls t = false) :
    (call.step t).1.preference = t.preference := by
  cases call with
  | read buffer => exact (read_unmoved t buffer).preference
  | write bytes => exact (write_unmoved t bytes).preference
  | driveEstablishment policy budget =>
    have hphase : t.phase ≠ .handshaking := of_decide_eq_false h
    have hspec := driveEstablishment_spec t policy budget t rfl
    simp only [TransportCall.step]
    rcases hrun : driveEstablishment policy budget t with ⟨error | p, t'⟩ <;> rw [hrun] at hspec
    · exact hspec.2 hphase
    · exact hspec.early hphase
  | driveTransport budget => cases h
  | beginShutdown budget => exact (beginShutdown_unmoved t).preference
  | _ => rfl

/-- A TLS step gives the turn to the direction it did not serve. With both directions ready it
serves the one whose turn it is. -/
lemma step_turn {t : RustlsTransport S K} {call : TransportCall S} {p : TransportProgress}
    (h : call.drivesTls t = true) (hp : (call.step t).2 = some (.ok p)) :
    (call.step t).1.preference = (serves p).elim t.preference TlsPreference.other ∧
      (t.shutdown = .notStarted → t.canTlsRead = true → t.canTlsWrite = true →
        ∀ d ∈ serves p, d = t.preference) := by
  cases call with
  | driveEstablishment policy budget =>
    have hphase : t.phase = .handshaking := of_decide_eq_true h
    have hspec := driveEstablishment_spec t policy budget t rfl
    simp only [TransportCall.step] at hp ⊢
    rcases hrun : driveEstablishment policy budget t with ⟨error | p', t'⟩ <;>
      rw [hrun] at hspec hp <;> cases hp
    exact ⟨(hspec.handshake hphase).preference, fun _ => (hspec.handshake hphase).turn⟩
  | driveTransport budget =>
    have hspec := driveTransport_spec t budget t rfl
    simp only [TransportCall.step] at hp ⊢
    rcases hrun : driveTransport budget t with ⟨error | p', t'⟩ <;>
      rw [hrun] at hspec hp <;> cases hp
    exact ⟨hspec.2.1, fun hshutdown => (hspec.2.2.1 hshutdown).turn⟩
  | _ => cases h

/-- Between two steps that move bytes the turn stays. -/
lemma quiet_run {t : RustlsTransport S K} (calls : List (TransportCall S))
    (h : ∀ ev ∈ Transducer.history TransportCall.step t calls, ev.input.drivesTls ev.before = true →
      ∃ p, ev.output = some (.ok p) ∧ serves p = none) :
    (Transducer.final TransportCall.step t calls).preference = t.preference := by
  induction calls generalizing t with
  | nil => rfl
  | cons call calls ih =>
    have hrest := ih (t := (call.step t).1) fun ev hev => h ev (List.mem_cons_of_mem _ hev)
    refine hrest.trans ?_
    cases hdrives : call.drivesTls t with
    | false => exact step_aside hdrives
    | true =>
      obtain ⟨p, hp, hnone⟩ := h _ List.mem_cons_self hdrives
      rw [(step_turn hdrives hp).1, hnone]
      rfl

lemma TlsPreference.other_ne (d : TlsPreference) : d.other ≠ d := by cases d <;> decide

/-- **Two successful TLS steps that move bytes, with nothing moved between them, serve different
directions** when both are ready before the second. -/
theorem alternates {t : RustlsTransport S K} {calls : List (TransportCall S)}
    {pre mid post : List (TransportEvent S K)} {first second : TransportEvent S K}
    {p q : TransportProgress}
    (hhistory : Transducer.history TransportCall.step t calls =
      pre ++ first :: (mid ++ second :: post))
    (hfirst : first.Steps p) (hsecond : second.Steps q) (hp : serves p ≠ none)
    (hq : serves q ≠ none)
    (hmid : ∀ ev ∈ mid, ev.input.drivesTls ev.before = true → ∃ r, ev.output = some (.ok r) ∧
      serves r = none)
    (hshutdown : second.before.shutdown = .notStarted) (hread : second.before.canTlsRead = true)
    (hwrite : second.before.canTlsWrite = true) : serves p ≠ serves q := by
  obtain ⟨calls₁, call₁, rest, rfl, rfl, rfl⟩ := Transducer.history_split hhistory
  rw [Transducer.history_append, List.append_cancel_left_eq] at hhistory
  obtain ⟨calls₂, call₂, rest, rfl, rfl, rfl⟩ :=
    Transducer.history_split (List.cons_injective hhistory)
  obtain ⟨d, hd⟩ := Option.ne_none_iff_exists'.mp hp
  obtain ⟨d', hd'⟩ := Option.ne_none_iff_exists'.mp hq
  have hserved := (step_turn hsecond.1 hsecond.2).2 hshutdown hread hwrite d' hd'
  have hturn := (step_turn hfirst.1 hfirst.2).1
  have hquiet := quiet_run calls₂ hmid
  rw [hd, hd']
  intro h
  cases h
  rw [hd] at hturn
  exact TlsPreference.other_ne d (hturn.symm.trans (hquiet.symm.trans hserved.symm))

/-! ### A slot with the transport -/

/-- A call that fails, or does one operation within its budget. -/
def Meets (budget : TransportBudget)
    (result : Except TransportDiagnostic TransportProgress) : Prop :=
  (∃ source, result = .error source) ∨ ∃ p, result = .ok p ∧ OneOperation budget p

lemma Meets.of_ok {budget : TransportBudget} {result : Except TransportDiagnostic TransportProgress}
    (h : ∀ p, result = .ok p → OneOperation budget p) : Meets budget result := by
  cases result with
  | error source => exact .inl ⟨source, rfl⟩
  | ok p => exact .inr ⟨p, rfl, h p rfl⟩

/-- What the host does to a transport between the quanta: observe readiness,
while the socket goes on. -/
def Drifts (t t' : RustlsTransport S K) : Prop :=
  ∃ stream readiness, t' = { t with stream, readiness }

omit [TcpStream S] in
lemma connect_phase {limits : RustlsTransportLimits} {supplied : ℕ} {tls : Except RustlsError K}
    {stream : Except IoError S} {t : RustlsTransport S K}
    (h : connect limits supplied tls stream = .ok t) : t.phase = .connecting := by
  unfold connect at h
  split at h
  · cases h
  · repeat' split at h
    all_goals cases h
    rfl

section
variable {B D C R E : Type} {Q W : Type → Type} [ByteBudget B] [FrameDecoder D R E] [Retained R]
  [InboundClassifier C R] [EventBatch Q] [TimerQueue W]

/-- **The TLS transport keeps the contract on progress.** In any state an advertised step
fails or is one operation within its budget; a slot that drives the transport from its connect
never complains of progress; and before the shutdown TLS steps that move bytes alternate while
both directions are ready. -/
theorem progress_contract {limits : RustlsTransportLimits} {supplied : ℕ}
    {tls : Except RustlsError K} {stream : Except IoError S} {t₀ : RustlsTransport S K}
    (hconnect : connect limits supplied tls stream = .ok t₀) (setup : SlotSetup D C R E) :
    (∀ (t : RustlsTransport S K) (policy : TcpSocketPolicy) (budget : TransportBudget),
      (t.canEstablish = true → Meets budget (driveEstablishment policy budget t).1) ∧
      (t.hasTransportWork = true → Meets budget (driveTransport budget t).1) ∧
        Meets budget (beginShutdown t).1) ∧
    (∀ calls, Hosts Drifts t₀ (setup.history B Q W calls) →
      ∀ ev ∈ setup.history B Q W calls, ∀ error ∈ ev.output.error, error.misreports = false) ∧
    ∀ (t : RustlsTransport S K) (calls : List (TransportCall S))
      (pre mid post : List (TransportEvent S K))
      (first second : TransportEvent S K) (p q : TransportProgress),
      Transducer.history TransportCall.step t calls = pre ++ first :: (mid ++ second :: post) →
      first.Steps p → second.Steps q → serves p ≠ none → serves q ≠ none →
      (∀ ev ∈ mid, ev.input.drivesTls ev.before = true → ∃ r, ev.output = some (.ok r) ∧
        serves r = none) →
      second.before.shutdown = .notStarted → second.before.canTlsRead = true →
        second.before.canTlsWrite = true →
      serves p ≠ serves q := by
  refine ⟨fun t policy budget =>
    ⟨fun hcan => .of_ok fun p => (advertised_work t budget p).1 policy hcan,
    fun hwork => .of_ok fun p => (advertised_work t budget p).2.1 hwork, .of_ok fun p =>
      (advertised_work t budget p).2.2⟩,
    fun calls hhosts => ?_, fun t calls pre mid post first second p q => alternates⟩
  refine honest_run (fun t t' h => ?_) (fun s hs _ _ => ?_) calls hhosts
  · obtain ⟨stream, readiness, rfl⟩ := h
    rfl
  · exact decide_eq_false (by rw [connect_phase hconnect]; decide)

end
/-- A socket that always has a byte to read and takes what is written. -/
structure SampleSocket where
  deriving DecidableEq

instance : TcpStream SampleSocket where
  takeError s := (.ok none, s)
  peerAddr s := (.ok (), s)
  setNodelay s _ := (.ok (), s)
  setTcpKeepalive s _ := (.ok (), s)
  read s room := (.ok ([7].take room), s)
  write s bytes := (.ok bytes.length, s)
  read_le s room bytes h := by
    cases h
    exact List.length_take_le _ _
  write_le s bytes written h := by
    cases h
    exact le_rfl

/-- A connection that always has a byte to send, and takes every byte for another packet. -/
structure SampleTls where
  deriving DecidableEq

instance : TlsConnection SampleTls where
  wantsRead _ := true
  wantsWrite _ := true
  isHandshaking _ := true
  setBufferLimit k _ := k
  readRoom _ := .ok 16
  readTaken k _ := k
  writeOffer _ := [1]
  writeTaken k _ := k
  processNewPackets k := (.ok ⟨1, 0, false⟩, k)
  readPlaintext k _ := (.error ⟨.wouldBlock, none⟩, k)
  writePlaintext k bytes := (.ok bytes.length, k)
  sendCloseNotify k := k

/-- A transport that was just connected. -/
def sampleTransport : RustlsTransport SampleSocket SampleTls :=
  ⟨⟨⟩, ⟨⟩, .connecting, .empty, .write, 0, .live, .notStarted, .sample, none⟩

def sampleBudget : TransportBudget := ⟨⟨1, Nat.one_pos⟩, 4, 4⟩

/-- A slot with memory for the transport. -/
def sampleSetup : SlotSetup ByteDecoder ByteClassifier UInt8 Empty :=
  { SlotSetup.sample with limits := { SlotSetup.sample.limits with transportRetainedBytes := 23 } }

/-- The transport sees its socket become ready, and is driven. -/
def sampleQuanta : List (SlotCall (RustlsTransport SampleSocket SampleTls)) :=
  [.driveQuantum 0 (some { sampleTransport with readiness := ⟨true, true, false, false, false⟩ })]

/-- A slot establishes the transport, and two TLS steps write a byte and read one. -/
theorem progress_contract_sample :
    connect .sample 23 (.ok ⟨⟩) (.ok ⟨⟩) = .ok sampleTransport ∧
      (∀ ev ∈ sampleSetup.history Counted ListBatch ListTimers sampleQuanta,
        ∀ error ∈ ev.output.error,
        error.misreports = false) ∧
      serves (.new ⟨1, Nat.one_pos⟩ 0 1) ≠ serves (.new ⟨1, Nat.one_pos⟩ 1 0) := by
  have hconnect : connect .sample 23 (.ok (⟨⟩ : SampleTls)) (.ok (⟨⟩ : SampleSocket)) =
    .ok sampleTransport := rfl
  obtain ⟨-, hslot, hturns⟩ :=
    progress_contract (B := Counted) (Q := ListBatch) (W := ListTimers) hconnect sampleSetup
  refine ⟨hconnect, hslot sampleQuanta ⟨?_, trivial⟩, ?_⟩
  · rintro t ⟨⟩
    exact ⟨_, _, rfl⟩
  · exact hturns (sampleTransport.observe ⟨true, true, false, false, false⟩)
      [.driveTransport sampleBudget, .driveTransport sampleBudget] [] [] [] _ _ _ _
        rfl ⟨rfl, rfl⟩ ⟨rfl, rfl⟩
      (by decide) (by decide) (fun ev hev => by cases hev) rfl rfl rfl

end Bornera.Rustls
