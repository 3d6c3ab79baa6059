import Bornera.Rustls.Session

/-!
# How the calls of a TLS session end

A session is a view of its connection, refreshed in every call. Every call ends in one of a few ways
(`Outcome`), which say what became of the plaintext, the closure, the failure and the open flag.
-/

namespace Bornera.Rustls

open Bornera.Core Slot Lib TlsConnection TlsStream

/-- One event of a session. -/
abbrev SessionEvent (K : Type) : Type :=
  Transducer.Event (RustlsClientSession K) SessionCall (Except TransportDiagnostic SessionAnswer)

/-- The plaintext a call hands out. -/
def handedOut : SessionCall → Except TransportDiagnostic SessionAnswer → List UInt8
  | .readPlaintext _, .ok (.bytes contents) => contents
  | _, _ => []

@[simp] lemma handedOut_error (call : SessionCall) (d : TransportDiagnostic) :
    handedOut call (.error d) = [] := by
  cases call <;> rfl

/-- The plaintext a run hands out. -/
def delivered {K : Type} (h : List (SessionEvent K)) : List UInt8 :=
  (h.map fun e => handedOut e.input e.output).flatten

namespace RustlsClientSession

variable {K : Type} [TlsStream K] {s s' : RustlsClientSession K} {got : List UInt8}

/-! ### Refreshing -/

/-- The session after a successful refresh. -/
def observed (s : RustlsClientSession K) (state : IoState) : RustlsClientSession K :=
  { s with
    plaintextBytes := state.plaintextBytesToRead
    tlsEgressBytes := state.tlsBytesToWrite
    peerClosure := if state.peerHasClosed then .clean else s.peerClosure
    opened := s.opened || (!isHandshaking s.tls && !wantsWrite s.tls) }

lemma refresh_run (s : RustlsClientSession K) (phase : TransportFailurePhase) :
    refresh phase s = match processNewPackets s.tls with
      | (.error error, tls) => (.error (protocolError phase error), { s with tls })
      | (.ok state, tls) => match s.limits.validateState state phase with
        | .error error => (.error error, { s with tls })
        | .ok () => (.ok (), observed { s with tls } state) := by
  unfold refresh onTls
  simp only [Owner.update_bind]
  rcases processNewPackets s.tls with ⟨_ | state, tls⟩
  · rfl
  · simp only [Owner.read_bind]
    cases s.limits.validateState state phase with
    | error error => rfl
    | ok =>
      simp only [Owner.settle_ok, Owner.pure_bind_run, Owner.change_bind, observed]
      cases state.peerHasClosed <;> cases (!isHandshaking tls && !wantsWrite tls) <;>
        simp [Owner.bind_run]

/-- The session agrees with its connection. -/
structure Synced (s : RustlsClientSession K) : Prop where
  plaintext : s.plaintextBytes = (inbound s.tls).pending.length
  clean : (inbound s.tls).closed = true ↔ s.peerClosure = .clean
  current : s.peerClosure = .truncated → (inbound s.tls).current = true

/-- What the session knows is as before, and the connection has at most authenticated more, of which
`out` was taken. -/
structure Keeps (s : RustlsClientSession K) (out : List UInt8)
    (s' : RustlsClientSession K) : Prop where
  closure : s'.peerClosure = s.peerClosure ∨ s.peerClosure = .opened
  opened : s.opened = true → s'.opened = true
  opens : s.opened = false → s'.opened = true →
    isHandshaking s'.tls = false ∧ wantsWrite s'.tls = false ∧ s'.tlsEgressBytes = 0
  more : ∃ more, (inbound s'.tls).stream = (inbound s.tls).stream ++ more ∧
    (inbound s.tls).pending ++ more = out ++ (inbound s'.tls).pending

/-- A refresh that fails only changes the connection, and no truncation is reported by it. -/
lemma refresh_error {phase : TransportFailurePhase} {d : TransportDiagnostic}
    (h : refresh phase s = (.error d, s')) :
    d.failure ≠ .truncated ∧ s' = { s with tls := s'.tls } ∧
      (inbound s.tls).stream <+: (inbound s'.tls).stream ∧
      ((inbound s.tls).closed = true → (inbound s'.tls).closed = true) := by
  rw [refresh_run] at h
  rcases hprocess : processNewPackets s.tls with ⟨error | state, tls⟩
  · rw [hprocess] at h
    cases h
    exact ⟨protocolError_failure _ _, rfl, process_error _ _ _ hprocess⟩
  · simp only [hprocess] at h
    obtain ⟨-, -, -, more, hstream, -, hmono, -⟩ := process_ok _ _ _ hprocess
    cases hvalid : s.limits.validateState state phase with
    | error error =>
      simp only [hvalid] at h
      cases h
      exact ⟨s.limits.validateState_error hvalid, rfl, ⟨more, hstream.symm⟩, hmono⟩
    | ok =>
      simp only [hvalid] at h
      cases h

/-- A refresh that succeeds makes the session agree with its connection. -/
lemma refresh_ok {phase : TransportFailurePhase}
    (hclean : (inbound s.tls).closed = true ↔ s.peerClosure = .clean)
    (hcurrent : s.peerClosure = .truncated → (inbound s.tls).current = true)
    (h : refresh phase s = (.ok (), s')) :
    Synced s' ∧ Keeps s [] s' ∧ s'.failure = s.failure ∧ (inbound s'.tls).current = true := by
  rw [refresh_run] at h
  rcases hprocess : processNewPackets s.tls with ⟨error | state, tls⟩
  · rw [hprocess] at h
    cases h
  · simp only [hprocess] at h
    obtain ⟨hlength, hclosed, hegress, more, hstream, hpending, hmono, hnow, hold⟩ :=
      process_ok _ _ _ hprocess
    cases hvalid : s.limits.validateState state phase with
    | error error =>
      simp only [hvalid] at h
      cases h
    | ok =>
      simp only [hvalid] at h
      cases h
      refine ⟨⟨hlength, ?_, fun _ => hnow⟩, ⟨?_, ?_, ?_, more, hstream, hpending.symm⟩, rfl, hnow⟩
      · -- an authenticated close is seen here or was seen before
        by_cases hpeer : state.peerHasClosed = true
        · simp [observed, hpeer, ← hclosed]
        · have hopen : ¬(inbound s.tls).closed = true := fun h => hpeer (hclosed.trans (hmono h))
          simp only [observed, hpeer, Bool.false_eq_true, if_false, ← hclosed]
          exact ⟨fun h => (by cases h), fun h => absurd (hclean.mpr h) hopen⟩
      · by_cases hpeer : state.peerHasClosed = true
        · rcases hc : s.peerClosure with _ | _ | _
          · exact .inr rfl
          · exact .inl (by simp [observed, hpeer])
          · -- after a raw end nothing is left to process
            have hsame := (hold (hcurrent hc)).2
            have hfalse : ¬(inbound s.tls).closed = true := fun h => by
              rw [hclean.mp h] at hc
              cases hc
            exact absurd (hsame ▸ hclosed ▸ hpeer) hfalse
        · exact .inl (by simp [observed, hpeer])
      · intro ho
        simp [observed, ho]
      · intro ho ho'
        simp only [observed, ho, Bool.false_or, Bool.and_eq_true, Bool.not_eq_true'] at ho'
        refine ⟨ho'.1, ho'.2, ?_⟩
        by_contra hne
        have hwants := hegress hne
        rw [ho'.2] at hwants
        cases hwants

/-! ### How a call ends -/

end RustlsClientSession

namespace SessionCall

/-- Nothing is asked: the buffer has no room, or nothing is offered. -/
def isVacant : SessionCall → Bool
  | .ingestTls ciphertext => ciphertext.isEmpty
  | .readPlaintext room => room = 0
  | .writePlaintext plaintext => plaintext.isEmpty
  | .drainTls room => room = 0
  | .finishInput => false
  | .sendCloseNotify => false

def isDrain : SessionCall → Bool
  | .drainTls _ => true
  | _ => false

end SessionCall

namespace RustlsClientSession

variable {K : Type} [TlsStream K] {s s' : RustlsClientSession K} {got : List UInt8}
  {call : SessionCall} {out : Except TransportDiagnostic SessionAnswer}

/-- No truncation is reported. -/
def Untruncated (out : Except TransportDiagnostic SessionAnswer) : Prop :=
  ∀ d, out = .error d → d.failure ≠ .truncated

/-- The ways a call ends: it asked for nothing, met a failure latched before, drained a failed
session, was refused, latched a failure, found the truncation, or made progress. -/
inductive Outcome (s : RustlsClientSession K) (call : SessionCall) :
    Except TransportDiagnostic SessionAnswer → RustlsClientSession K → Prop
  | vacant {answer : SessionAnswer} (hvacant : call.isVacant = true)
    (hnone : handedOut call (.ok answer) = []) :
    Outcome s call (.ok answer) s
  | halted {d : TransportDiagnostic} (hfailed : s.failure = some d) (hcall : call.isDrain = false) :
    Outcome s call (.error d) s
  | flushed {out : Except TransportDiagnostic SessionAnswer} (k : K) (bytes : ℕ)
    (hfailed : s.failure ≠ none)
    (hcall : call.isDrain = true) (hsame : inbound k = inbound s.tls) (hout : Untruncated out) :
    Outcome s call out { s with tls := k, tlsEgressBytes := bytes }
  | refused {d : TransportDiagnostic} (k : K) (hrunning : s.failure = none)
    (hsame : inbound k = inbound s.tls)
    (hd : d.failure ≠ .truncated) : Outcome s call (.error d) { s with tls := k }
  | failed {out : Except TransportDiagnostic SessionAnswer} {t : RustlsClientSession K}
    (d : TransportDiagnostic)
    (hrunning : s.failure = none) (hclosure : t.peerClosure = s.peerClosure)
    (hopened : t.opened = s.opened)
    (hstream : (inbound s.tls).stream <+: (inbound t.tls).stream)
    (hclosed : (inbound s.tls).closed = true → (inbound t.tls).closed = true)
    (hd : d.failure ≠ .truncated)
    (hout : Untruncated out) (hnone : handedOut call out = []) : Outcome s call out
      { t with failure := some d }
  | truncated {d : TransportDiagnostic} {t : RustlsClientSession K} (hrunning : s.failure = none)
    (hkeeps : Keeps s [] t)
    (hclean : t.peerClosure = .clean → (inbound t.tls).closed = true)
    (hpending : (inbound t.tls).pending = []) : Outcome s call (.error d)
      { t with failure := some d }
  | progressed {answer : SessionAnswer} {t : RustlsClientSession K} (hrunning : s.failure = none)
    (hfailure : t.failure = none) (hsynced : Synced t)
    (hkeeps : Keeps s (handedOut call (.ok answer)) t) :
    Outcome s call (.ok answer) t

/-! ### The calls one by one -/

section
omit [TlsStream K]

/-- A method that checks for a failure first. -/
lemma progressing {α : Type} (f : Unit → Run K α) (s : RustlsClientSession K) :
    (ensureProgressing >>= f) s = match s.failure with
      | none => f () s
      | some d => (.error d, s) := by
  unfold ensureProgressing
  simp only [Owner.bind_run, Owner.read_run]
  cases s.failure <;> rfl

lemma progressing_none {α : Type} (hfailure : s.failure = none) (f : Unit → Run K α) :
    (ensureProgressing >>= f) s = f () s := by
  rw [progressing, hfailure]

end

/-- The sessions know the same, on connections that have authenticated the same. -/
structure Aligned (s t : RustlsClientSession K) : Prop where
  closure : t.peerClosure = s.peerClosure
  opened : t.opened = s.opened
  failure : t.failure = s.failure
  stream : (inbound t.tls).stream = (inbound s.tls).stream
  pending : (inbound t.tls).pending = (inbound s.tls).pending
  closed : (inbound t.tls).closed = (inbound s.tls).closed

lemma Keeps.after {t : RustlsClientSession K} {out : List UInt8} (h : Keeps t out s')
    (ht : Aligned s t) : Keeps s out s' where
  closure := ht.closure ▸ h.closure
  opened := ht.opened ▸ h.opened
  opens := ht.opened ▸ h.opens
  more := by
    rw [← ht.stream, ← ht.pending]
    exact h.more

lemma Keeps.refl (s : RustlsClientSession K) : Keeps s [] s where
  closure := .inl rfl
  opened h := h
  opens h h' := absurd h' (by simp [h])
  more := ⟨[], by simp, by simp⟩

/-- What a slice gives to `read_tls` is no plaintext yet. -/
lemma readTls_slice (s : RustlsClientSession K) (source : List UInt8) :
    (∃ error, readTls sliceReader s.tls source = (.error error, s.tls, source)) ∨
      ∃ n k rest, readTls sliceReader s.tls source = (.ok n, k, rest) ∧
        Aligned s { s with tls := k } := by
  unfold readTls
  rcases readRoom s.tls with (_ | error) | room
  · exact .inr ⟨0, s.tls, source, rfl, rfl, rfl, rfl, rfl, rfl, rfl⟩
  · exact .inl ⟨error, rfl⟩
  · have htaken := read_taken s.tls (.ok (source.take room))
    refine .inr ⟨_, _, _, rfl, rfl, rfl, rfl, ?_, ?_, ?_⟩
    · exact (congrArg Inbound.stream htaken :)
    · exact (congrArg Inbound.pending htaken :)
    · exact (congrArg Inbound.closed htaken :)

/-- A refresh at the end of a call: it makes progress, or its failure is latched, whatever the call
answers then. -/
lemma refresh_outcome {t : RustlsClientSession K} (call : SessionCall) (answer : SessionAnswer)
    (phase : TransportFailurePhase) (hrunning : s.failure = none) (hs : Synced s) (ht : Aligned s t)
    (hcurrent : t.peerClosure = .truncated → (inbound t.tls).current = true)
    (hnone : handedOut call (.ok answer) = []) :
    (∃ d, (refresh phase t).1 = .error d ∧ d.failure ≠ .truncated ∧ ∀ {out}, Untruncated out →
      handedOut call out = [] →
      Outcome s call out ((refresh phase t).2.getOrInsertFailure d)) ∨
    (refresh phase t).1 = .ok () ∧ Outcome s call (.ok answer) (refresh phase t).2 := by
  rcases hrefresh : refresh phase t with ⟨d | _, t'⟩
  · obtain ⟨hd, ht', hmore, hclosed⟩ := refresh_error hrefresh
    refine .inl ⟨d, rfl, hd, fun hout hnone => ?_⟩
    have hlatched : t'.getOrInsertFailure d = { t' with failure := some d } := by
      rw [ht']
      simp [getOrInsertFailure, ht.failure, hrunning]
    show Outcome s call _ (t'.getOrInsertFailure d)
    rw [hlatched]
    refine .failed d hrunning ?_ ?_ (ht.stream ▸ hmore) (ht.closed ▸ hclosed) hd hout hnone
    · rw [ht', ← ht.closure]
    · rw [ht', ← ht.opened]
  · have hclean : (inbound t.tls).closed = true ↔ t.peerClosure = .clean := by
      rw [ht.closed, ht.closure]
      exact hs.clean
    obtain ⟨hsynced, hkeeps, hsame, -⟩ := refresh_ok hclean hcurrent hrefresh
    refine .inr ⟨rfl, .progressed hrunning ?_ hsynced ?_⟩
    · rw [hsame, ht.failure, hrunning]
    · rw [hnone]
      exact hkeeps.after ht

lemma untruncated_ok (answer : SessionAnswer) : Untruncated (.ok answer) := fun _ h => by cases h

lemma untruncated_error {d : TransportDiagnostic} (h : d.failure ≠ .truncated) :
    Untruncated (.error d) :=
  fun _ heq => by
    cases heq
    exact h

lemma fromIo_failure (phase : TransportFailurePhase) (error : IoError) :
    (TransportDiagnostic.fromIo phase error).failure ≠ .truncated := fun h => by cases h

lemma callerStateError_failure (phase : TransportFailurePhase) (kind : IoErrorKind) :
    (callerStateError phase kind).failure ≠ .truncated := fun h => by cases h

/-- An operation of the connection that leaves its inbound side alone. -/
lemma aligned_of_inbound {k : K} (h : inbound k = inbound s.tls) : Aligned s { s with tls := k } :=
  ⟨rfl, rfl, rfl, congrArg Inbound.stream h, congrArg Inbound.pending h, congrArg Inbound.closed h⟩

theorem ingestTls_outcome (hs : s.failure = none → Synced s) (ciphertext : List UInt8) :
    Outcome s (.ingestTls ciphertext) (perform (.ingestTls ciphertext) s).1
      (perform (.ingestTls ciphertext) s).2 := by
  simp only [perform, Owner.bind_pure_run]
  unfold ingestTls
  by_cases hempty : ciphertext.isEmpty = true
  · rw [if_pos hempty]
    exact .vacant hempty rfl
  · rw [if_neg hempty, progressing]
    cases hfailure : s.failure with
    | some d => exact .halted hfailure rfl
    | none =>
      simp only [Owner.read_bind, onTls]
      by_cases hopen : s.peerClosure = .opened
      · rw [if_neg (not_not.mpr hopen)]
        rcases s.readTls_slice (ciphertext.take s.ingressLimit)
          with ⟨error, hread⟩ | ⟨n, k, rest, hread, haligned⟩
        · simp only [Owner.update_bind, hread]
          exact .refused s.tls hfailure rfl (fromIo_failure _ _)
        · simp only [Owner.update_bind, hread, Owner.attempt_bind]
          -- the peer has not ended its input yet
          have hcurrent : s.peerClosure = .truncated → (inbound k).current = true := fun h => by
            rw [hopen] at h
            cases h
          rcases refresh_outcome (.ingestTls ciphertext) (.count n) s.readPhase hfailure
            (hs hfailure) haligned
              hcurrent rfl with ⟨d, hresult, hd, hfails⟩ | ⟨hresult, hdone⟩
          · simp only [hresult]
            exact hfails (untruncated_error hd) rfl
          · simp only [hresult]
            exact hdone
      · rw [if_pos hopen]
        exact .refused s.tls hfailure rfl (callerStateError_failure _ _)

theorem writePlaintext_outcome (hs : s.failure = none → Synced s) (plaintext : List UInt8) :
    Outcome s (.writePlaintext plaintext) (perform (.writePlaintext plaintext) s).1
      (perform (.writePlaintext plaintext) s).2 := by
  simp only [perform, Owner.bind_pure_run]
  unfold writePlaintext
  by_cases hempty : plaintext.isEmpty = true
  · rw [if_pos hempty]
    exact .vacant hempty rfl
  · rw [if_neg hempty, progressing]
    cases hfailure : s.failure with
    | some d => exact .halted hfailure rfl
    | none =>
      simp only [Owner.read_bind, onTls]
      split
      · exact .refused s.tls hfailure rfl (callerStateError_failure _ _)
      · have hsame := write_plaintext s.tls plaintext
        rcases hwrite : TlsConnection.writePlaintext s.tls plaintext with ⟨error | n, k⟩
        · rw [hwrite] at hsame
          simp only [Owner.update_bind, hwrite]
          exact .refused k hfailure hsame (fromIo_failure _ _)
        · rw [hwrite] at hsame
          simp only [Owner.update_bind, hwrite, Owner.attempt_bind]
          have hcurrent : s.peerClosure = .truncated → (inbound k).current = true := fun h => by
            rw [hsame]
            exact (hs hfailure).current h
          rcases refresh_outcome (.writePlaintext plaintext) (.count n) .write hfailure
            (hs hfailure)
              (aligned_of_inbound hsame) hcurrent rfl
                with ⟨d, hresult, hd, hfails⟩ | ⟨hresult, hdone⟩
          · -- what was accepted is reported all the same
            simp only [hresult, Owner.change_bind]
            exact hfails (untruncated_ok _) rfl
          · simp only [hresult]
            exact hdone

theorem sendCloseNotify_outcome (hs : s.failure = none → Synced s) :
    Outcome s .sendCloseNotify (perform .sendCloseNotify s).1 (perform .sendCloseNotify s).2 := by
  simp only [perform, Owner.bind_pure_run]
  unfold sendCloseNotify
  rw [progressing]
  cases hfailure : s.failure with
  | some d => exact .halted hfailure rfl
  | none =>
    simp only [Owner.read_bind, onTls]
    split
    · exact .progressed hfailure hfailure (hs hfailure) (.refl s)
    · split
      · exact .refused s.tls hfailure rfl (callerStateError_failure _ _)
      · have hsame := close_notify s.tls
        simp only [Owner.update_bind, Owner.change_bind, Owner.attempt_bind]
        have hcurrent : s.peerClosure = .truncated →
            (inbound (TlsConnection.sendCloseNotify s.tls)).current = true := fun h => by
          rw [hsame]
          exact (hs hfailure).current h
        have haligned : Aligned s
            { s with tls := TlsConnection.sendCloseNotify s.tls, closeNotifySent := true } :=
          ⟨rfl, rfl, rfl, congrArg Inbound.stream hsame, congrArg Inbound.pending hsame,
            congrArg Inbound.closed hsame⟩
        rcases refresh_outcome .sendCloseNotify .done .shutdown hfailure (hs hfailure) haligned
          hcurrent rfl
          with ⟨d, hresult, hd, hfails⟩ | ⟨hresult, hdone⟩
        · simp only [hresult]
          exact hfails (untruncated_error hd) rfl
        · simp only [hresult]
          exact hdone

theorem drainTls_outcome (hs : s.failure = none → Synced s) (room : ℕ) :
    Outcome s (.drainTls room) (perform (.drainTls room) s).1 (perform (.drainTls room) s).2 := by
  simp only [perform, Owner.bind_pure_run]
  unfold drainTls
  simp only [Owner.read_bind]
  by_cases hidle : room = 0 ∨ wantsWrite s.tls = false
  · rw [if_pos hidle]
    by_cases hfailure : s.failure = none
    · exact .progressed hfailure hfailure (hs hfailure) (.refl s)
    · exact .flushed s.tls s.tlsEgressBytes hfailure rfl rfl (untruncated_ok _)
  · rw [if_neg hidle]
    have hwants : wantsWrite s.tls = true := by
      by_contra h
      exact hidle (.inr (Bool.eq_false_iff.mpr h))
    have hsame := write_taken s.tls (.ok (min (writeOffer s.tls).length room))
    simp only [onTls, Owner.update_bind, writeTls, hwants, if_true, sliceWriter, Except.map]
    by_cases hfailure : s.failure = none
    · have hnone : s.failure.isNone = true := by simp [hfailure]
      simp only [hnone, if_true, Owner.attempt_bind]
      have hcurrent : s.peerClosure = .truncated →
          (inbound (writeTaken s.tls (.ok (min (writeOffer s.tls).length room)))).current =
              true := fun h => by
        rw [hsame]
        exact (hs hfailure).current h
      rcases refresh_outcome (.drainTls room) (.bytes ((writeOffer s.tls).take room)) s.writePhase
        hfailure (hs hfailure)
          (aligned_of_inbound hsame) hcurrent rfl with ⟨d, hresult, hd, hfails⟩ | ⟨hresult, hdone⟩
      · simp only [hresult, Owner.change_bind]
        exact hfails (untruncated_ok _) rfl
      · simp only [hresult]
        exact hdone
    · have hsome : s.failure.isNone = false :=
        Bool.eq_false_iff.mpr fun h => hfailure (Option.isNone_iff_eq_none.mp h)
      simp only [hsome, Bool.false_eq_true, if_false, Owner.change_bind, Owner.pure_run]
      exact .flushed _ _ hfailure rfl hsame (untruncated_ok _)

/-- A read that found plaintext. -/
lemma Synced.read {k : K} {room : ℕ} {bytes : List UInt8} (hs : Synced s)
    (hread : TlsConnection.readPlaintext s.tls room = (.ok bytes, k)) :
    Synced { s with tls := k, plaintextBytes := s.plaintextBytes - bytes.length } ∧
      Keeps s bytes { s with tls := k, plaintextBytes := s.plaintextBytes - bytes.length } := by
  obtain ⟨-, hpending, hsame, -⟩ := read_ok _ _ _ _ hread
  have hclosed : (inbound k).closed = (inbound s.tls).closed := (congrArg Inbound.closed hsame :)
  have hcurrent : (inbound k).current = (inbound s.tls).current :=
    (congrArg Inbound.current hsame :)
  have hstream : (inbound k).stream = (inbound s.tls).stream := (congrArg Inbound.stream hsame :)
  constructor
  · constructor
    · have hlength := hs.plaintext
      rw [hpending, List.length_append] at hlength
      show s.plaintextBytes - bytes.length = (inbound k).pending.length
      omega
    · show (inbound k).closed = true ↔ _
      rw [hclosed]
      exact hs.clean
    · intro h
      show (inbound k).current = true
      rw [hcurrent]
      exact hs.current h
  · refine ⟨.inl rfl, fun h => h, fun h h' => absurd h' (by simp [h]), [], ?_, ?_⟩
    · simp [hstream]
    · simp [hpending]

/-- An early end of the connection is found only when nothing is left and no close was seen. -/
lemma Synced.early_end {k : K} {room : ℕ} {error : IoError} (hs : Synced s)
    (hread : TlsConnection.readPlaintext s.tls room = (.error error, k))
    (hkind : error.kind = .unexpectedEof) :
    Keeps s [] { s with tls := k, peerClosure := .truncated } ∧ (inbound k).pending = [] := by
  obtain ⟨hsame, hend, -⟩ := read_error _ _ _ _ hread
  obtain ⟨hpending, hopen⟩ := hend hkind
  refine ⟨⟨?_, fun h => h, fun h h' => absurd h' (by simp [h]), [], ?_, ?_⟩, ?_⟩
  · rcases hclosure : s.peerClosure with _ | _ | _
    · exact .inr rfl
    · have hclosed := hs.clean.mpr hclosure
      rw [hopen] at hclosed
      cases hclosed
    · exact .inl rfl
  · simp [hsame]
  · simp [hsame]
  · rw [hsame, hpending]

/-- The truncation is latched when the session knows of no plaintext. -/
lemma Outcome.of_truncated {t : RustlsClientSession K} {d : TransportDiagnostic}
    (hrunning : s.failure = none) (hfailure : t.failure = none) (hkeeps : Keeps s [] t)
    (hclean : t.peerClosure = .clean → (inbound t.tls).closed = true)
    (hpending : (inbound t.tls).pending = []) :
    Outcome s call (.error d) (t.getOrInsertFailure d) := by
  have hlatched : t.getOrInsertFailure d = { t with failure := some d } := by
    simp [getOrInsertFailure, hfailure]
  rw [hlatched]
  exact .truncated hrunning hkeeps hclean hpending

lemma Synced.exhausted (hs : Synced s) (h : s.plaintextBytes = 0) : (inbound s.tls).pending = [] :=
  List.eq_nil_of_length_eq_zero (hs.plaintext.symm.trans h)

theorem readPlaintext_outcome (hs : s.failure = none → Synced s) (room : ℕ) :
    Outcome s (.readPlaintext room) (perform (.readPlaintext room) s).1
      (perform (.readPlaintext room) s).2 := by
  simp only [perform, Owner.bind_pure_run]
  unfold readPlaintext
  by_cases hroom : room = 0
  · rw [if_pos hroom]
    exact .vacant (by simp [SessionCall.isVacant, hroom]) rfl
  · rw [if_neg hroom, progressing]
    cases hfailure : s.failure with
    | some d => exact .halted hfailure rfl
    | none =>
      have hsynced := hs hfailure
      simp only [Owner.read_bind]
      split
      · next hdone =>
          exact .of_truncated hfailure hfailure (.refl s) hsynced.clean.mpr
            (hsynced.exhausted hdone.2)
      · rcases hread : TlsConnection.readPlaintext s.tls room with ⟨error | bytes, k⟩
        · simp only [onTls, Owner.update_bind, hread]
          obtain ⟨hsame, -, -⟩ := read_error _ _ _ _ hread
          split
          · next hkind =>
            obtain ⟨hkeeps, hpending⟩ := hsynced.early_end hread hkind
            simp only [Owner.change_bind, Owner.read_bind]
            exact .of_truncated hfailure hfailure hkeeps (fun h => by cases h) hpending
          · split
            · exact .refused k hfailure hsame (callerStateError_failure _ _)
            · have hlatched : ({ s with tls := k } : RustlsClientSession K).getOrInsertFailure
                (.fromIo .read error) =
                  { { s with tls := k } with failure := some (.fromIo .read error) } := by
                simp [getOrInsertFailure, hfailure]
              simp only [latch, Owner.change_bind, Owner.fail_run]
              rw [hlatched]
              exact .failed _ hfailure rfl rfl (by simp [hsame]) (by simp [hsame])
                (fromIo_failure _ _)
                (untruncated_error (fromIo_failure _ _)) rfl
        · simp only [onTls, Owner.update_bind, hread, Owner.change_bind, Owner.pure_run]
          obtain ⟨hsynced', hkeeps⟩ := hsynced.read hread
          exact .progressed hfailure hfailure hsynced' hkeeps

/-- The end of `finish_input` when the input was truncated, or found clean just now. -/
lemma finishTruncated_outcome {t : RustlsClientSession K} (hrunning : s.failure = none)
    (hfailure : t.failure = none) (ht : Synced t) (hkeeps : Keeps s [] t) :
    Outcome s .finishInput ((finishTruncated t).1.map fun _ => .done) (finishTruncated t).2 := by
  unfold finishTruncated
  simp only [Owner.read_bind]
  split
  · next hdone => exact .of_truncated hrunning hfailure hkeeps ht.clean.mpr (ht.exhausted hdone)
  · exact .progressed hrunning hfailure ht hkeeps

/-- A raw end closes an open input as truncated, unless an authenticated close came first. -/
lemma Synced.ended {t : RustlsClientSession K} (ht : Synced t)
    (hcurrent : (inbound t.tls).current = true) (hkeeps : Keeps s [] t)
    (hopen : s.peerClosure = .opened) :
    Synced { t with peerClosure := if t.peerClosure ≠ .clean then .truncated else t.peerClosure } ∧
      Keeps s [] { t with peerClosure := if t.peerClosure ≠ .clean then
          .truncated else t.peerClosure } := by
  refine ⟨⟨ht.plaintext, ?_, fun _ => hcurrent⟩,
    ⟨.inr hopen, hkeeps.opened, hkeeps.opens, hkeeps.more⟩⟩
  by_cases hclean : t.peerClosure = .clean
  · simpa [hclean] using ht.clean
  · simpa [hclean] using ht.clean

theorem finishInput_outcome (hs : s.failure = none → Synced s) :
    Outcome s .finishInput (perform .finishInput s).1 (perform .finishInput s).2 := by
  simp only [perform, Owner.bind_pure_run]
  unfold finishInput
  rw [progressing]
  cases hfailure : s.failure with
  | some d => exact .halted hfailure rfl
  | none =>
    have hsynced := hs hfailure
    simp only [Owner.read_bind]
    split
    · exact .progressed hfailure hfailure hsynced (.refl s)
    · split
      · next hopen =>
        rcases s.readTls_slice [] with ⟨error, hread⟩ | ⟨n, k, rest, hread, haligned⟩
        · simp only [onTls, Owner.update_bind, hread]
          exact .refused s.tls hfailure rfl (fromIo_failure _ _)
        · simp only [onTls, Owner.update_bind, hread, Owner.attempt_bind]
          have hclean : (inbound k).closed = true ↔ s.peerClosure = .clean :=
            haligned.closed ▸ hsynced.clean
          rcases hrefresh : refresh s.readPhase { s with tls := k } with ⟨d | _, t⟩
          · obtain ⟨hd, ht, hmore, hclosed⟩ := refresh_error hrefresh
            have hlatched : t.getOrInsertFailure d = { t with failure := some d } := by
              rw [ht]
              simp [getOrInsertFailure, hfailure]
            simp only [latch, Owner.change_bind, Owner.fail_run]
            rw [hlatched]
            refine .failed d hfailure ?_ ?_ (haligned.stream ▸ hmore) (haligned.closed ▸ hclosed) hd
              (untruncated_error hd) rfl
            · rw [ht]
            · rw [ht]
          · obtain ⟨ht, hkeeps, hsame, hcurrent⟩ :=
              refresh_ok hclean (fun h => by rw [hopen] at h; cases h) hrefresh
            obtain ⟨hended, hends⟩ := ht.ended hcurrent (hkeeps.after haligned) hopen
            simp only [Owner.change_bind]
            exact finishTruncated_outcome hfailure (hsame.trans hfailure) hended hends
      · exact finishTruncated_outcome hfailure hfailure hsynced (.refl s)

/-- **Every call ends in one of these ways**, when the session agrees with its connection. -/
theorem perform_outcome (hs : s.failure = none → Synced s) (call : SessionCall) :
    Outcome s call (perform call s).1 (perform call s).2 := by
  cases call with
  | ingestTls ciphertext => exact ingestTls_outcome hs ciphertext
  | readPlaintext room => exact readPlaintext_outcome hs room
  | writePlaintext plaintext => exact writePlaintext_outcome hs plaintext
  | drainTls room => exact drainTls_outcome hs room
  | finishInput => exact finishInput_outcome hs
  | sendCloseNotify => exact sendCloseNotify_outcome hs

end RustlsClientSession
end Bornera.Rustls
