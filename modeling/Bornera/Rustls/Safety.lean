import Bornera.Rustls.Outcomes

/-!
# What a TLS session promises

The promises are read off the ways a call ends, for every run from a fresh connection. The server's
copy of the program mirrors the client's, so what is proved of the one holds of the other.
-/

namespace Bornera.Rustls

open Bornera.Core Slot Lib TlsConnection TlsStream

namespace RustlsClientSession

variable {K : Type} [TlsStream K] {s s' : RustlsClientSession K} {got : List UInt8}
  {call : SessionCall} {out : Except TransportDiagnostic SessionAnswer}

/-! ### The state between calls -/

/-- The session after a run that handed out `got`: until a failure, what was handed out and what is
pending are the plaintext authenticated so far. A clean closure is always an authenticated one. -/
structure Sound (got : List UInt8) (s : RustlsClientSession K) : Prop where
  synced : s.failure = none → Synced s
  balance : s.failure = none → got ++ (inbound s.tls).pending = (inbound s.tls).stream
  ordered : got <+: (inbound s.tls).stream
  exhausted : ∀ d, s.failure = some d → d.failure = .truncated → got = (inbound s.tls).stream
  authentic : s.peerClosure = .clean → (inbound s.tls).closed = true

lemma Keeps.balance {out : List UInt8} (h : Keeps s out s')
    (hbalance : got ++ (inbound s.tls).pending = (inbound s.tls).stream) :
    (got ++ out) ++ (inbound s'.tls).pending = (inbound s'.tls).stream := by
  obtain ⟨more, hstream, hpending⟩ := h.more
  rw [hstream, List.append_assoc, ← hpending, ← hbalance, List.append_assoc]

/-- **A call keeps the session sound.** -/
theorem Outcome.sound (h : Outcome s call out s') (hs : Sound got s) :
    Sound (got ++ handedOut call out) s' := by
  cases h with
  | vacant hvacant hnone =>
    rw [hnone, List.append_nil]
    exact hs
  | halted hfailed hcall =>
    rw [handedOut_error, List.append_nil]
    exact hs
  | flushed k bytes hfailed hcall hsame hout =>
    have hnone : handedOut call out = [] := by
      cases call <;> first | rfl | cases hcall
    rw [hnone, List.append_nil]
    refine ⟨fun h => absurd h hfailed, fun h => absurd h hfailed, ?_, ?_, ?_⟩
    · show got <+: (inbound k).stream
      rw [hsame]
      exact hs.ordered
    · show ∀ d, s.failure = some d → d.failure = .truncated → got = (inbound k).stream
      rw [hsame]
      exact hs.exhausted
    · show s.peerClosure = .clean → (inbound k).closed = true
      rw [hsame]
      exact hs.authentic
  | refused k hrunning hsame hd =>
    rw [handedOut_error, List.append_nil]
    obtain ⟨hplain, hclean, hcurrent⟩ := hs.synced hrunning
    refine ⟨fun h => ⟨?_, ?_, ?_⟩, fun h => ?_, ?_, fun d h => ?_, ?_⟩
    · simpa [hsame] using hplain
    · simpa [hsame] using hclean
    · simpa [hsame] using hcurrent
    · simpa [hsame] using hs.balance hrunning
    · simpa [hsame] using hs.ordered
    · rw [show s.failure = some d from h] at hrunning
      cases hrunning
    · simpa [hsame] using hs.authentic
  | failed d hrunning hclosure hopened hstream hclosed hd hout hnone =>
    rw [hnone, List.append_nil]
    refine ⟨fun h => (by cases h), fun h => (by cases h), hs.ordered.trans hstream, fun d' h hd' =>
      ?_, fun h => ?_⟩
    · cases h
      exact absurd hd' hd
    · exact hclosed (hs.authentic (hclosure.symm.trans h))
  | truncated hrunning hkeeps hclean hpending =>
    have hbalance := hkeeps.balance (hs.balance hrunning)
    rw [hpending, List.append_nil, List.append_nil] at hbalance
    rw [handedOut_error, List.append_nil]
    exact ⟨fun h => (by cases h), fun h => (by cases h), hbalance ▸ List.prefix_refl _, fun _ _ _ =>
      hbalance, hclean⟩
  | progressed hrunning hfailure hsynced hkeeps =>
    have hbalance := hkeeps.balance (hs.balance hrunning)
    refine ⟨fun _ => hsynced, fun _ => hbalance, ⟨_, hbalance⟩, fun d h => ?_, hsynced.clean.mpr⟩
    rw [hfailure] at h
    cases h

end RustlsClientSession

/-! ### What is promised -/

/-- What one event of a session promises, after a run that handed out `got`. -/
structure Safe {K : Type} [TlsStream K] (got : List UInt8) (e : SessionEvent K) : Prop where
  /-- The closure of the peer only leaves `opened`, -/
  closure : e.after.peerClosure = e.before.peerClosure ∨ e.before.peerClosure = .opened
  /-- it is clean only after an authenticated close, -/
  authentic : e.after.peerClosure = .clean → (inbound e.after.tls).closed = true
  /-- and it does leave at a raw end of the input that is accepted. -/
  ended : e.input = .finishInput → e.output = .ok .done → e.after.peerClosure ≠ .opened
  /-- Plaintext is handed out in order, -/
  ordered : got ++ handedOut e.input e.output <+: (inbound e.after.tls).stream
  /-- all of it before a truncation is reported, -/
  truncation : ∀ d, e.output = .error d → d.failure = .truncated →
    got = (inbound e.after.tls).stream
  /-- after a raw end by every read, unless it latches another failure, -/
  drains : e.before.peerClosure = .truncated → e.before.failure = none →
    ∀ room, e.input = .readPlaintext room → 0 < room →
    (∃ bytes, bytes ≠ [] ∧ e.output = .ok (.bytes bytes)) ∨
      (∃ d, e.output = .error d ∧ e.after.failure = some d ∧
        (d.failure = .truncated → got = (inbound e.before.tls).stream))
  /-- and a read ends cleanly only after an authenticated close. -/
  clean : ∀ room, e.input = .readPlaintext room → 0 < room → e.output = .ok (.bytes []) →
    e.before.peerClosure = .clean
  /-- The first failure stays, -/
  sticky : ∀ d, e.before.failure = some d → e.after.failure = some d
  /-- and then only `drain_tls` does anything. -/
  halted : ∀ d, e.before.failure = some d → e.input.isDrain = false →
    e.after = e.before ∧ (e.input.isVacant = false → e.output = .error d)
  /-- The session opens when the handshake is done and all egress was drained, and stays so. -/
  opens : e.before.opened = false → e.after.opened = true →
    isHandshaking e.after.tls = false ∧ wantsWrite e.after.tls = false ∧ e.after.tlsEgressBytes = 0
  opened : e.before.opened = true → e.after.opened = true
  /-- What the connection accepted is reported. -/
  accepted : ∀ plaintext, e.input = .writePlaintext plaintext → plaintext ≠ [] →
    e.before.failure = none →
    e.before.opened = true → e.before.closeNotifySent = false →
    ∀ n, (writePlaintext e.before.tls plaintext).1 = .ok n → e.output = .ok (.count n)

namespace RustlsClientSession

variable {K : Type} [TlsStream K] {s s' : RustlsClientSession K} {got : List UInt8}
  {call : SessionCall} {out : Except TransportDiagnostic SessionAnswer}

lemma Outcome.closure (h : Outcome s call out s') :
    s'.peerClosure = s.peerClosure ∨ s.peerClosure = .opened := by
  cases h with
  | vacant => exact .inl rfl
  | halted => exact .inl rfl
  | flushed => exact .inl rfl
  | refused => exact .inl rfl
  | failed d hrunning hclosure => exact .inl hclosure
  | truncated hrunning hkeeps => exact hkeeps.closure
  | progressed hrunning hfailure hsynced hkeeps => exact hkeeps.closure

lemma Outcome.sticky (h : Outcome s call out s') {d : TransportDiagnostic}
    (hd : s.failure = some d) :
    s'.failure = some d ∧ (call.isDrain = false → s' = s ∧
      (call.isVacant = false → out = .error d)) := by
  have hfailed : s.failure ≠ none := by simp [hd]
  cases h with
  | vacant hvacant =>
    refine ⟨hd, fun _ => ⟨rfl, fun h => ?_⟩⟩
    rw [hvacant] at h
    cases h
  | halted hfailure =>
    rw [hd] at hfailure
    cases hfailure
    exact ⟨hd, fun _ => ⟨rfl, fun _ => rfl⟩⟩
  | flushed k bytes _ hcall =>
    refine ⟨hd, fun h => ?_⟩
    rw [hcall] at h
    cases h
  | refused k hrunning => exact absurd hrunning hfailed
  | failed d hrunning => exact absurd hrunning hfailed
  | truncated hrunning => exact absurd hrunning hfailed
  | progressed hrunning => exact absurd hrunning hfailed

lemma Outcome.opened (h : Outcome s call out s') :
    (s.opened = true → s'.opened = true) ∧ (s.opened = false → s'.opened = true →
      isHandshaking s'.tls = false ∧ wantsWrite s'.tls = false ∧ s'.tlsEgressBytes = 0) := by
  have hsame {t : RustlsClientSession K} (ht : t.opened = s.opened) :
      (s.opened = true → t.opened = true) ∧ (s.opened = false → t.opened = true →
        isHandshaking t.tls = false ∧ wantsWrite t.tls = false ∧ t.tlsEgressBytes = 0) := by
    refine ⟨fun h => ht.trans h, fun h h' => ?_⟩
    rw [ht, h] at h'
    cases h'
  cases h with
  | vacant => exact hsame rfl
  | halted => exact hsame rfl
  | flushed => exact hsame rfl
  | refused => exact hsame rfl
  | failed d hrunning hclosure hopened => exact hsame hopened
  | truncated hrunning hkeeps => exact ⟨hkeeps.opened, hkeeps.opens⟩
  | progressed hrunning hfailure hsynced hkeeps => exact ⟨hkeeps.opened, hkeeps.opens⟩

lemma Outcome.truncation (h : Outcome s call out s') (hs : Sound got s) {d : TransportDiagnostic}
    (hout : out = .error d) (hd : d.failure = .truncated) : got = (inbound s'.tls).stream := by
  cases h with
  | vacant => cases hout
  | halted hfailure =>
    cases hout
    exact hs.exhausted d hfailure hd
  | flushed k bytes hfailed hcall hsame huntruncated => exact absurd hd (huntruncated d hout)
  | refused k hrunning hsame huntruncated =>
    cases hout
    exact absurd hd huntruncated
  | failed d' hrunning hclosure hopened hstream hclosed hd' huntruncated =>
    exact absurd hd (huntruncated d hout)
  | truncated hrunning hkeeps hclean hpending =>
    have hbalance := hkeeps.balance (hs.balance hrunning)
    rwa [hpending, List.append_nil, List.append_nil] at hbalance
  | progressed => cases hout

/-- A raw end that is accepted is recorded. -/
lemma finishInput_ended (h : (finishInput s).1 = .ok ()) :
    (finishInput s).2.peerClosure ≠ .opened := by
  have hend (t : RustlsClientSession K) : (finishTruncated t).2.peerClosure = t.peerClosure := by
    unfold finishTruncated
    simp only [Owner.read_bind]
    split <;> rfl
  unfold finishInput at h ⊢
  rw [progressing] at h ⊢
  cases hfailure : s.failure with
  | some d =>
    rw [hfailure] at h
    cases h
  | none =>
    simp only [hfailure, Owner.read_bind] at h ⊢
    split at h
    · next hclean =>
      rw [if_pos hclean]
      show s.peerClosure ≠ .opened
      rw [hclean]
      exact fun h => by cases h
    · next hclean =>
      rw [if_neg hclean]
      split at h
      · next hopen =>
        rw [if_pos hopen]
        rcases s.readTls_slice [] with ⟨error, hread⟩ | ⟨n, k, rest, hread, haligned⟩
        · simp only [onTls, Owner.update_bind, hread] at h
          cases h
        · simp only [onTls, Owner.update_bind, hread, Owner.attempt_bind] at h ⊢
          rcases hrefresh : refresh s.readPhase { s with tls := k } with ⟨d | _, t⟩
          · rw [hfailure] at hrefresh
            simp only [hfailure, hrefresh] at h
            cases h
          · rw [hfailure] at hrefresh
            simp only [Owner.change_bind]
            rw [hend]
            by_cases hclean : t.peerClosure = .clean
            · simp [hclean]
            · simp [hclean]
      · next hopen =>
        rw [if_neg hopen, hend]
        exact hopen

/-- A read of a running session, by what its connection says. -/
lemma readPlaintext_run {room : ℕ} (hroom : 0 < room) (hfailure : s.failure = none) :
    readPlaintext room s =
      if s.peerClosure = .truncated ∧ s.plaintextBytes = 0 then latch (truncatedError s.readPhase) s
      else match TlsConnection.readPlaintext s.tls room with
        | (.ok bytes, tls) =>
          (.ok bytes, { s with tls, plaintextBytes := s.plaintextBytes - bytes.length })
        | (.error error, tls) =>
          if error.kind = .unexpectedEof then
            latch (truncatedError ({ s with tls } : RustlsClientSession K).readPhase)
              { s with tls, peerClosure := .truncated }
          else if error.kind = .wouldBlock then
            (.error (callerStateError .read .wouldBlock), { s with tls })
          else latch (.fromIo .read error) { s with tls } := by
  unfold readPlaintext
  rw [if_neg hroom.ne', progressing_none hfailure]
  simp only [Owner.read_bind, onTls]
  split
  · rfl
  · rcases hread : TlsConnection.readPlaintext s.tls room with ⟨error | bytes, k⟩
    · simp only [Owner.update_bind, hread]
      split
      · rfl
      · split <;> rfl
    · simp only [Owner.update_bind, hread, Owner.change_bind, Owner.pure_run]

omit [TlsStream K] in
lemma latch_run (d : TransportDiagnostic) (hfailure : s.failure = none) :
    (latch d s : Except TransportDiagnostic (List UInt8) × _) =
      (.error d, { s with failure := some d }) := by
  unfold latch
  simp [getOrInsertFailure, hfailure]

/-- A read ends cleanly only after an authenticated close. -/
lemma readPlaintext_clean {room : ℕ} (hroom : 0 < room) (hs : s.failure = none → Synced s)
    (h : (readPlaintext room s).1 = .ok []) : s.peerClosure = .clean := by
  cases hfailure : s.failure with
  | some d =>
    unfold readPlaintext at h
    rw [if_neg hroom.ne', progressing, hfailure] at h
    cases h
  | none =>
    rw [readPlaintext_run hroom hfailure] at h
    split at h
    · cases h
    · rcases hread : TlsConnection.readPlaintext s.tls room with ⟨error | bytes, k⟩
      · rw [hread] at h
        simp only at h
        split at h
        · cases h
        · split at h <;> cases h
      · rw [hread] at h
        cases h
        obtain ⟨-, -, -, hend⟩ := read_ok _ _ _ _ hread
        exact (hs hfailure).clean.mp (hend hroom rfl).2

/-- After a raw end every read hands out plaintext, until the failure that ends the session. -/
lemma readPlaintext_drains {room : ℕ} (hroom : 0 < room) (hs : Sound got s)
    (hclosure : s.peerClosure = .truncated) (hfailure : s.failure = none) :
    (∃ bytes, bytes ≠ [] ∧ (readPlaintext room s).1 = .ok bytes) ∨
      ∃ d, (readPlaintext room s).1 = .error d ∧ (readPlaintext room s).2.failure = some d ∧
        (d.failure = .truncated → got = (inbound s.tls).stream) := by
  have hsynced := hs.synced hfailure
  have hbalance := hs.balance hfailure
  rw [readPlaintext_run hroom hfailure]
  by_cases hdone : s.plaintextBytes = 0
  · rw [if_pos ⟨hclosure, hdone⟩, latch_run _ hfailure]
    refine .inr ⟨_, rfl, rfl, fun _ => ?_⟩
    rwa [hsynced.exhausted hdone, List.append_nil] at hbalance
  · rw [if_neg fun h => hdone h.2]
    -- the connection has plaintext left, so it neither ends nor blocks
    have hpending : (inbound s.tls).pending ≠ [] :=
      fun h => hdone (by rw [hsynced.plaintext, h, List.length_nil])
    rcases hread : TlsConnection.readPlaintext s.tls room with ⟨error | bytes, k⟩
    · obtain ⟨-, hearly, hblock⟩ := read_error _ _ _ _ hread
      have hkind : error.kind ≠ .unexpectedEof := fun h => hpending (hearly h).1
      have hkind' : error.kind ≠ .wouldBlock := fun h => hpending (hblock h)
      simp only [if_neg hkind, if_neg hkind', latch_run (s := { s with tls := k }) _ hfailure]
      exact .inr ⟨_, rfl, rfl, fun h => absurd h (fromIo_failure _ _)⟩
    · obtain ⟨-, -, -, hend⟩ := read_ok _ _ _ _ hread
      exact .inl ⟨bytes, fun h => hpending (hend hroom h).1, rfl⟩

/-- What the connection accepted is reported, whatever the refresh after it says. -/
lemma writePlaintext_accepted {plaintext : List UInt8} (hempty : plaintext ≠ [])
    (hfailure : s.failure = none) (hopened : s.opened = true) (hsent : s.closeNotifySent = false)
    {n : ℕ} (h : (TlsConnection.writePlaintext s.tls plaintext).1 = .ok n) :
    (writePlaintext plaintext s).1 = .ok n := by
  unfold writePlaintext
  have hsome : ¬plaintext.isEmpty = true := fun h => hempty (List.isEmpty_iff.mp h)
  have hguard : ¬(!s.opened || s.closeNotifySent) = true := by simp [hopened, hsent]
  rw [if_neg hsome, progressing, hfailure]
  simp only [Owner.read_bind, if_neg hguard, onTls, Owner.update_bind, h, Owner.attempt_bind]
  cases (refresh .write { s with tls :=
    (TlsConnection.writePlaintext s.tls plaintext).2 }).1 <;> rfl

/-- **Every call of a sound session is safe.** -/
theorem Sound.safe (hs : Sound got s) (call : SessionCall) :
    Safe got (Transducer.event step s call) := by
  have houtcome := perform_outcome hs.synced call
  have hread {room : ℕ} (h : call = .readPlaintext room) :
      perform call s = ((readPlaintext room s).1.map .bytes, (readPlaintext room s).2) := by
    rw [h]
    exact Owner.bind_pure_run _ _ _
  constructor
  · exact houtcome.closure
  · exact (houtcome.sound hs).authentic
  · rintro rfl hout
    have hperform : perform .finishInput s =
        ((finishInput s).1.map fun _ => .done, (finishInput s).2) :=
      Owner.bind_pure_run _ _ _
    have hout : (perform .finishInput s).1 = .ok .done := hout
    show (perform .finishInput s).2.peerClosure ≠ .opened
    rw [hperform] at hout ⊢
    refine finishInput_ended ?_
    rcases hresult : (finishInput s).1 with d | _
    · rw [hresult] at hout
      cases hout
    · rfl
  · exact (houtcome.sound hs).ordered
  · exact fun d hout hd => houtcome.truncation hs hout hd
  · intro hclosure hfailure room hcall hroom
    show (∃ bytes, bytes ≠ [] ∧ (perform call s).1 = .ok (.bytes bytes)) ∨
      ∃ d, (perform call s).1 = .error d ∧ (perform call s).2.failure = some d ∧
        (d.failure = .truncated → got = (inbound s.tls).stream)
    rw [hread hcall]
    rcases readPlaintext_drains hroom hs hclosure hfailure
      with ⟨bytes, hbytes, hresult⟩ | ⟨d, hresult, hd⟩
    · exact .inl ⟨bytes, hbytes, by rw [hresult]; rfl⟩
    · exact .inr ⟨d, by rw [hresult]; rfl, hd⟩
  · intro room hcall hroom hout
    have hout : (perform call s).1 = .ok (.bytes []) := hout
    rw [hread hcall] at hout
    refine readPlaintext_clean (s := s) hroom hs.synced ?_
    rcases hresult : (readPlaintext room s).1 with d | bytes
    · rw [hresult] at hout
      cases hout
    · rw [hresult] at hout
      cases hout
      rfl
  · exact fun d hd => (houtcome.sticky hd).1
  · exact fun d hd => (houtcome.sticky hd).2
  · exact houtcome.opened.2
  · exact houtcome.opened.1
  · rintro plaintext rfl hempty hfailure hopened hsent n hn
    have hperform : perform (.writePlaintext plaintext) s =
        ((writePlaintext plaintext s).1.map .count, (writePlaintext plaintext s).2) :=
          Owner.bind_pure_run _ _ _
    show (perform (.writePlaintext plaintext) s).1 = .ok (.count n)
    have haccepted : (writePlaintext plaintext s).1 = .ok n :=
      writePlaintext_accepted hempty hfailure hopened hsent hn
    rw [hperform, haccepted]
    rfl

end RustlsClientSession
/-! ### The server's copy -/

namespace RustlsServerSession

variable {K : Type} [TlsConnection K]

/-- The client's session with the same data. -/
abbrev twin (s : RustlsServerSession K) : RustlsClientSession K :=
  ⟨s.tls, s.limits, s.plaintextBytes, s.tlsEgressBytes, s.peerClosure, s.opened,
    s.closeNotifySent, s.failure⟩

open Owner (Mirrors)

omit [TlsConnection K] in
lemma onTls_mirrors {α : Type} (f : K → α × K) :
    Mirrors twin (onTls f) (RustlsClientSession.onTls f) :=
  .update fun _ => rfl

lemma refresh_mirrors (phase : TransportFailurePhase) :
    Mirrors twin (refresh phase : Run K Unit) (RustlsClientSession.refresh phase) := by
  refine (onTls_mirrors _).bind fun result => ?_
  cases result with
  | error error => exact .fail _
  | ok state =>
    refine .read fun s => (Mirrors.settle _).bind fun _ => .bind (.change fun _ => rfl) fun _ => ?_
    refine .ite (.bind (.change fun _ => rfl) fun _ => ?_) ?_
    · exact .ite (.change fun _ => rfl) (.pure _)
    · exact .ite (.change fun _ => rfl) (.pure _)

section
omit [TlsConnection K]

lemma ensureProgressing_mirrors :
    Mirrors twin (ensureProgressing : Run K Unit) RustlsClientSession.ensureProgressing := by
  intro s
  unfold ensureProgressing RustlsClientSession.ensureProgressing
  simp only [Owner.read_bind]
  cases s.failure with
  | none => rfl
  | some d => rfl

lemma recordFailure_mirrors (d : TransportDiagnostic) :
    Mirrors twin (recordFailure d : Run K Unit) (Owner.change (·.getOrInsertFailure d)) :=
  .change fun _ => rfl

lemma latch_mirrors {α : Type} (d : TransportDiagnostic) :
    Mirrors twin (latch d : Run K α) (RustlsClientSession.latch d) :=
  (recordFailure_mirrors d).bind fun _ => .fail d

end

lemma ingestTls_mirrors (ciphertext : List UInt8) :
    Mirrors twin (ingestTls ciphertext : Run K ℕ) (RustlsClientSession.ingestTls ciphertext) := by
  refine .ite (.pure 0) (ensureProgressing_mirrors.bind fun _ => .read fun s => .ite (.fail _) ?_)
  refine (onTls_mirrors _).bind fun result => ?_
  cases result with
  | error error => exact .fail _
  | ok n =>
    refine (refresh_mirrors _).attempt.bind fun result => ?_
    cases result with
    | error error => exact latch_mirrors _
    | ok => exact .pure _

lemma readPlaintext_mirrors (room : ℕ) :
    Mirrors twin (readPlaintext room : Run K (List UInt8))
      (RustlsClientSession.readPlaintext room) := by
  refine .ite (.pure []) (ensureProgressing_mirrors.bind fun _ => .read fun s =>
    .ite (latch_mirrors _) ?_)
  refine (onTls_mirrors _).bind fun result => ?_
  cases result with
  | ok bytes => exact .bind (.change fun _ => rfl) fun _ => .pure _
  | error error =>
    refine .ite (.bind (.change fun _ => rfl) fun _ => .read fun s => latch_mirrors _) ?_
    exact .ite (.fail _) (latch_mirrors _)

lemma writePlaintext_mirrors (plaintext : List UInt8) :
    Mirrors twin (writePlaintext plaintext : Run K ℕ)
      (RustlsClientSession.writePlaintext plaintext) := by
  refine .ite (.pure 0) (ensureProgressing_mirrors.bind fun _ => .read fun s => .ite (.fail _) ?_)
  refine (onTls_mirrors _).bind fun result => ?_
  cases result with
  | error error => exact .fail _
  | ok n =>
    refine (refresh_mirrors _).attempt.bind fun result => ?_
    cases result with
    | error error => exact (recordFailure_mirrors _).bind fun _ => .pure _
    | ok => exact .pure _

lemma drainTls_mirrors (room : ℕ) :
    Mirrors twin (drainTls room : Run K (List UInt8)) (RustlsClientSession.drainTls room) := by
  refine .read fun s => .ite (.pure []) ?_
  refine (onTls_mirrors _).bind fun result => ?_
  cases result with
  | error error => exact .fail _
  | ok drained =>
    refine .ite ?_ (.bind (.change fun _ => rfl) fun _ => .pure _)
    refine (refresh_mirrors _).attempt.bind fun result => ?_
    cases result with
    | error error => exact (recordFailure_mirrors _).bind fun _ => .pure _
    | ok => exact .pure _

lemma finishTruncated_mirrors :
    Mirrors twin (finishTruncated : Run K Unit) RustlsClientSession.finishTruncated :=
  .read fun _ => .ite (latch_mirrors _) (.pure ())

lemma finishInput_mirrors :
    Mirrors twin (finishInput : Run K Unit) RustlsClientSession.finishInput := by
  refine ensureProgressing_mirrors.bind fun _ =>
    .read fun s => .ite (.pure ()) (.ite ?_ finishTruncated_mirrors)
  refine (onTls_mirrors _).bind fun result => ?_
  cases result with
  | error error => exact .fail _
  | ok n =>
    refine (refresh_mirrors _).attempt.bind fun result => ?_
    cases result with
    | error error => exact latch_mirrors _
    | ok => exact .bind (.change fun _ => rfl) fun _ => finishTruncated_mirrors

lemma sendCloseNotify_mirrors :
    Mirrors twin (sendCloseNotify : Run K Unit) RustlsClientSession.sendCloseNotify := by
  refine ensureProgressing_mirrors.bind fun _ => .read fun s => .ite (.pure ()) (.ite (.fail _) ?_)
  refine (onTls_mirrors _).bind fun _ => .bind (.change fun _ => rfl) fun _ => ?_
  refine (refresh_mirrors _).attempt.bind fun result => ?_
  cases result with
  | error error => exact latch_mirrors _
  | ok => exact .pure ()

/-- **The two programs are one**: a call of the server's session does what it
does on the client's. -/
theorem perform_mirrors (call : SessionCall) :
    Mirrors twin (perform call : Run K SessionAnswer) (RustlsClientSession.perform call) := by
  cases call with
  | ingestTls ciphertext => exact (ingestTls_mirrors ciphertext).bind fun _ => .pure _
  | readPlaintext room => exact (readPlaintext_mirrors room).bind fun _ => .pure _
  | writePlaintext plaintext => exact (writePlaintext_mirrors plaintext).bind fun _ => .pure _
  | drainTls room => exact (drainTls_mirrors room).bind fun _ => .pure _
  | finishInput => exact finishInput_mirrors.bind fun _ => .pure _
  | sendCloseNotify => exact sendCloseNotify_mirrors.bind fun _ => .pure _

lemma step_mirrors (s : RustlsServerSession K) (call : SessionCall) :
    RustlsClientSession.step s.twin call = ((step s call).1.twin, (step s call).2) := by
  unfold RustlsClientSession.step step
  rw [perform_mirrors call s]

/-- The constructors agree as well. -/
lemma new_twin (limits : RustlsTransportLimits) (supplied : ℕ) (tls : Except RustlsError K) :
    (new limits supplied tls).map twin = RustlsClientSession.new limits supplied tls := by
  unfold new RustlsClientSession.new
  split
  · rfl
  · cases tls with
    | error error => rfl
    | ok tls =>
      dsimp only
      rcases processNewPackets (setBufferLimit tls limits.applicationWriteBufferBytes)
        with ⟨error | state, k⟩
      · rfl
      · dsimp only
        cases limits.validateState state .establishment with
        | error error => rfl
        | ok => rfl

end RustlsServerSession

/-! ### Runs -/

/-- Every event of a run is safe after the events before it. -/
def SafeRun {K : Type} [TlsStream K] (h : List (SessionEvent K)) : Prop :=
  ∀ pre e post, h = pre ++ e :: post → Safe (delivered pre) e

namespace RustlsClientSession

variable {K : Type} [TlsStream K] {s : RustlsClientSession K}

/-- A new session on a fresh connection is sound. -/
lemma new_sound {limits : RustlsTransportLimits} {supplied : ℕ} {tls : K} (hfresh : Fresh tls)
    (h : new limits supplied (.ok tls) = .ok s) : Sound [] s := by
  unfold new at h
  split at h
  · cases h
  · rcases hprocess : processNewPackets (setBufferLimit tls limits.applicationWriteBufferBytes)
      with ⟨error | state, k⟩
    · simp only [hprocess] at h
      cases h
    · simp only [hprocess] at h
      obtain ⟨hlength, -, -, more, hstream, hpending, -, hcurrent, hold⟩ :=
        process_ok _ _ _ hprocess
      have hstart := buffer_limit tls limits.applicationWriteBufferBytes
      rw [hfresh] at hstart
      rw [hstart] at hstream hpending hold
      obtain ⟨rfl, hclosed⟩ := hold rfl
      cases hvalid : limits.validateState state .establishment with
      | error error =>
        simp only [hvalid] at h
        cases h
      | ok =>
        simp only [hvalid] at h
        cases h
        refine ⟨fun _ => ⟨hlength, ?_, fun _ => hcurrent⟩, fun _ =>
          ?_, List.nil_prefix, fun d h => (by cases h), fun h => by cases h⟩
        · simp [hclosed]
        · simp [hstream, hpending]

omit [TlsStream K] in
lemma delivered_snoc (h : List (SessionEvent K)) (e : SessionEvent K) :
    delivered (h ++ [e]) = delivered h ++ handedOut e.input e.output := by
  simp [delivered]

/-- A run of a sound session stays sound. -/
theorem sound_run (hs : Sound [] s) (calls : List SessionCall) :
    Sound (delivered (Transducer.history step s calls)) (Transducer.final step s calls) := by
  refine Transducer.history_induction (P := fun h s => Sound (delivered h) s) hs
    (fun h s call hs => ?_) calls
  rw [delivered_snoc]
  exact (perform_outcome hs.synced call).sound hs

theorem safe_run (hs : Sound [] s) (calls : List SessionCall) :
    SafeRun (Transducer.history step s calls) := by
  intro pre e post h
  obtain ⟨before, call, after, -, rfl, rfl⟩ := Transducer.history_split h
  exact (sound_run hs before).safe call

end RustlsClientSession

/-- **TLS sessions are safe.** A client's and a server's session on the same connection, which was
fresh when they were made, answer every sequence of calls alike and show the same status throughout;
and in each of the two runs every call is safe. -/
theorem sessions_safe {K : Type} [TlsStream K] (limits : RustlsTransportLimits) (supplied : ℕ)
    (tls : K) (hfresh : Fresh tls) (calls : List SessionCall) :
    (RustlsServerSession.new limits supplied (.ok tls)).map RustlsServerSession.twin =
        RustlsClientSession.new limits supplied (.ok tls) ∧
      ∀ client server, RustlsClientSession.new limits supplied (.ok tls) = .ok client →
        RustlsServerSession.new limits supplied (.ok tls) = .ok server →
        let ofClient := Transducer.history RustlsClientSession.step client calls
        let ofServer := Transducer.history RustlsServerSession.step server calls
        SafeRun ofClient ∧ SafeRun (ofServer.map (Transducer.Event.map RustlsServerSession.twin)) ∧
          ofServer.map (·.output) = ofClient.map (·.output) ∧
          ofServer.map (·.after.status) = ofClient.map (·.after.status) := by
  refine ⟨RustlsServerSession.new_twin limits supplied (.ok tls),
    fun client server hclient hserver => ?_⟩
  have htwin := RustlsServerSession.new_twin limits supplied (.ok tls)
  rw [hserver, hclient] at htwin
  cases htwin
  have hmirror := Transducer.history_map RustlsServerSession.step_mirrors server calls
  have hsafe := RustlsClientSession.safe_run (RustlsClientSession.new_sound hfresh hclient) calls
  refine ⟨hsafe, hmirror ▸ hsafe, ?_, ?_⟩
  · rw [hmirror, List.map_map]
    rfl
  · rw [hmirror, List.map_map]
    rfl

/-- Two bytes arrive, the raw end comes without a close, and the plaintext is read. -/
def sampleSessionCalls : List SessionCall :=
  [.ingestTls [1, 2], .finishInput, .readPlaintext 1, .readPlaintext 4, .readPlaintext 4,
    .drainTls 4]

/-- Both sessions hand out the two bytes before they report the truncation. -/
theorem sessions_safe_sample :
    ∃ client server, RustlsClientSession.new .sample 23 (.ok PlainTls.fresh) = .ok client ∧
      RustlsServerSession.new .sample 23 (.ok PlainTls.fresh) = .ok server ∧
      SafeRun (Transducer.history RustlsClientSession.step client sampleSessionCalls) ∧
      (Transducer.history RustlsClientSession.step client sampleSessionCalls).map (·.output) =
        [.ok (.count 2), .ok .done, .ok (.bytes [1]), .ok (.bytes [2]),
          .error (truncatedError .transportRead), .ok (.bytes [])] ∧
      (Transducer.history RustlsServerSession.step server sampleSessionCalls).map (·.output) =
        (Transducer.history RustlsClientSession.step client sampleSessionCalls).map (·.output) := by
  have hsafe := (sessions_safe .sample 23 PlainTls.fresh rfl sampleSessionCalls).2 _ _ rfl rfl
  exact ⟨_, _, rfl, rfl, hsafe.1, by decide +kernel, hsafe.2.2.1⟩

end Bornera.Rustls
