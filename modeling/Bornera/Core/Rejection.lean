import Bornera.Core.Ownership

/-!
# Rejection

A call that is refused, or that finds nothing to do, leaves the world exactly as it was, and a
permit dropped right after its reservation gives back all it took. Calls that name another epoch
are always of this kind.
-/

namespace Bornera.Core

open Lib Epoch

variable {B F R : Type} [ByteBudget B]

/-- Two ledgers with the same capacity in use. -/
structure ReservationLedger.SameCapacity (l l' : ReservationLedger) : Prop where
  operations : l.operations = l'.operations
  permits : l.permits = l'.permits
  retainedBytes : l.retainedBytes = l'.retainedBytes
  writeFrames : l.writeFrames = l'.writeFrames
  writeRetainedBytes : l.writeRetainedBytes = l'.writeRetainedBytes
  keys : ∀ key, l.activeKeys.contains key = l'.activeKeys.contains key

/-- What no call changes in a world. `R` is the type of inbound frames. -/
structure Atomic (R : Type) (debug : Bool) (w : World B F) : Prop where
  /-- A refused reservation. -/
  reserve : ∀ now options error,
    (w.step debug (.reserve now options : Call F R)).2 = .reserved (.error error) →
    (w.step debug (.reserve now options : Call F R)).1 = w
  /-- A refused commit gives permit and frame back, and nothing later can tell. -/
  commit : ∀ index frame view error,
    (w.step debug (.commit index frame view : Call F R)).2 = .committed (.error error) →
    (w.step debug (.commit index frame view : Call F R)).1 = w ∧
      w.permits[index]? = some error.permit ∧
      error.frame = frame ∧ ∀ later : List (Call F R),
        Transducer.history (World.step debug)
          (w.step debug (.commit index frame view : Call F R)).1 later =
          Transducer.history (World.step debug) w later
  /-- A commit with a permit of another ledger. -/
  commitForeign : ∀ permit frame view error,
    (w.step debug (.commitForeign permit frame view : Call F R)).2 = .committed (.error error) →
    (w.step debug (.commitForeign permit frame view : Call F R)).1 = w ∧ error.permit = permit ∧
      error.frame = frame
  /-- A permit dropped right after its reservation. -/
  drop : ∀ now options permit,
    (w.step debug (.reserve now options : Call F R)).2 = .reserved (.ok permit) →
    let dropped := ((w.step debug (.reserve now options : Call F R)).1.step debug
      (.dropPermit w.permits.length : Call F R)).1
    dropped.permits = w.permits ∧ dropped.core.machine.ledger.SameCapacity w.core.machine.ledger
  /-- A report the writer refuses. -/
  report : ∀ epoch effect written source,
    (w.step debug (.advanceWrite epoch effect written : Call F R)).2 =
      .transition (.error (.write source)) →
    (w.step debug (.advanceWrite epoch effect written : Call F R)).1 = w
  /-- An input or a reply that finds nothing to do. -/
  ignored : ∀ (call : Call F R) t, Drives call → (w.step debug call).2 = .transition (.ok t) →
    Ignorable t.disposition → (w.step debug call).1 = w ∧ t.effects = []
  /-- An input that names another epoch. -/
  foreignInput : ∀ input, w.core.poisoned = none →
    ConnectionInput.epoch input ≠ w.core.machine.epoch →
    ∃ t, (w.step debug (.apply input : Call F R)).2 = .transition (.ok t) ∧ Ignorable t.disposition
  /-- A reply that names another epoch. -/
  foreignReply : ∀ reply : InboundReply R, w.core.poisoned = none →
    reply.epoch ≠ w.core.machine.epoch →
    ∃ t, (w.step debug (.applyReply reply : Call F R)).2 = .transition (.ok t) ∧
      Ignorable t.disposition
  /-- A report that names another epoch. -/
  foreignReport : ∀ epoch effect written, w.core.poisoned = none → epoch ≠ w.core.machine.epoch →
    (w.step debug (.advanceWrite epoch effect written : Call F R)).2 =
      .transition (.error (.write (.staleEpoch w.core.machine.epoch epoch)))

variable {limits : ConnectionLimits} {e e' : Epoch F} {r : Response F R}

lemma Epoch.Step.ignorable_quiet {call : Call F R} {t : ConnectionTransition R}
    (h : Step e call (.transition (.ok t)) e') (ht : Ignorable t.disposition) : t.effects = [] := by
  cases h with
  | ignored _ _ _ quiet => exact quiet
  | closed _ _ closes => cases closes <;> exact ht.elim
  | _ => exact ht.elim

lemma Epoch.Step.foreign_input {input : ConnectionInput} (h : Step e (.apply input : Call F R) r e')
    (hp : e.poisoned = none) (hi : input.epoch ≠ e.epoch) :
    ∃ t, r = .transition (.ok t) ∧ Ignorable t.disposition := by
  cases h with
  | unavailable names => cases names
  | refused _ poisoned => simp [hp] at poisoned
  | ignored _ _ nothing => exact ⟨_, rfl, nothing⟩
  | removed _ _ _ _ removes => cases removes <;> exact absurd rfl hi
  | closed _ _ closes => cases closes <;> exact absurd rfl hi
  | _ => exact absurd rfl hi

lemma Epoch.Step.foreign_reply {reply : InboundReply R}
    (h : Step e (.applyReply reply : Call F R) r e') (hp : e.poisoned = none)
    (hi : reply.epoch ≠ e.epoch) :
    ∃ t, r = .transition (.ok t) ∧ Ignorable t.disposition := by
  cases h with
  | unavailable names => cases names
  | refused _ poisoned => simp [hp] at poisoned
  | ignored _ _ nothing => exact ⟨_, rfl, nothing⟩
  | removed _ _ _ _ removes => cases removes
  | closed _ _ closes => cases closes <;> exact absurd rfl hi
  | replied => exact absurd rfl hi

lemma Epoch.Step.foreign_report {epoch : ConnectionEpoch} {effect : EffectId} {n : ℕ}
    (h : Step e (.advanceWrite epoch effect n : Call F R) r e') (hp : e.poisoned = none)
    (hi : epoch ≠ e.epoch) :
    r = .transition (.error (.write (.staleEpoch e.epoch epoch))) := by
  cases h with
  | unavailable names => cases names
  | refused _ poisoned => simp [hp] at poisoned
  | ignored ignores => cases ignores
  | removed _ _ _ _ removes => cases removes
  | closed _ _ closes => cases closes
  | unmoved _ unmoved =>
    cases unmoved with
    | stale => rfl
    | idle current => exact absurd current hi
    | disordered current => exact absurd current hi
  | _ => exact absurd rfl hi

/-- The same permits and the same lane use the same capacity. -/
lemma sameCapacity {w w' : World B F} (h : Holds limits w e) (h' : Holds limits w' e')
    (hpermits : e'.permits = e.permits) (hlane : e'.lane = e.lane) :
    w'.core.machine.ledger.SameCapacity w.core.machine.ledger := by
  have hx := h.exact
  have hx' := h'.exact
  have hp : w'.permits = w.permits := by rw [h'.permits, h.permits, hpermits]
  have hr : w'.core.machine.matching.pending = w.core.machine.matching.pending := by
    rw [h'.core.policy.pending, h.core.policy.pending, hlane]
  have hf : w'.core.writes.frames = w.core.writes.frames := by
    rw [h'.core.writer.frames, h.core.writer.frames, Epoch.frames, Epoch.frames, hlane]
  refine ⟨?_, ?_, ?_, ?_, ?_, fun key => ?_⟩
  · rw [hx'.operations, hx.operations, hp, hr]
  · rw [hx'.permits, hx.permits, hp]
  · rw [hx'.retainedBytes, hx.retainedBytes, hp, hr]
  · rw [hx'.writeFrames, hx.writeFrames, hp, hr]
  · rw [hx'.writeRetainedBytes, hx.writeRetainedBytes, hp, hf]
  · rw [Bool.eq_iff_iff, hx'.keys, hx.keys, hp, hr]

/-- A permit dropped right after its reservation. -/
lemma reserve_drop {w : World B F} (h : Holds limits w e) (debug : Bool) {now : ℕ}
    {options : OperationOptions} {p : OperationPermit}
    (hr : (w.step debug (.reserve now options : Call F R)).2 = .reserved (.ok p)) :
    let dropped := ((w.step debug (.reserve now options : Call F R)).1.step debug
      (.dropPermit w.permits.length : Call F R)).1
    dropped.permits = w.permits ∧
        dropped.core.machine.ledger.SameCapacity w.core.machine.ledger := by
  intro dropped
  obtain ⟨e₁, h₁, hs₁, _⟩ := follows_step h debug (.reserve now options : Call F R)
  obtain ⟨e₂, h₂, hs₂, _⟩ := follows_step h₁ debug (.dropPermit w.permits.length : Call F R)
  rw [hr] at hs₁
  cases hs₁
  have hlive : (w.step debug (.reserve now options : Call F R)).1.permits[w.permits.length]? =
      some p := by
    rw [h₁.permits, h.permits]
    simp
  have hdropped : ((w.step debug (.reserve now options : Call F R)).1.step debug
      (.dropPermit w.permits.length : Call F R)).2 = .dropped := by
    simp only [World.step] at hlive ⊢
    rw [hlive]
  have hlast : (e.permits ++ [p]).eraseIdx w.permits.length = e.permits := by
    rw [h.permits, List.eraseIdx_append_of_length_le le_rfl, Nat.sub_self]
    exact List.append_nil _
  rw [hdropped] at hs₂
  cases hs₂
  exact ⟨h₂.permits.trans (hlast.trans h.permits.symm), sameCapacity h h₂ hlast rfl⟩

/-- **Rejection is atomic and epochs are fenced**, in every reachable state. -/
theorem rejection_atomic (s : Setup) (calls : List (Call F R)) :
    Atomic R s.debug (s.final B calls) := by
  obtain ⟨e, hw, _⟩ := ledgered_run (B := B) s calls
  have hepoch := hw.core.policy.epoch
  refine ⟨?_, ?_, ?_, ?_, ?_, ?_, ?_, ?_, ?_⟩
  · intro now options error hr
    obtain ⟨_, _, _, hquiet⟩ := follows_step hw s.debug (.reserve now options : Call F R)
    exact hquiet (by rw [hr]; trivial)
  · intro index frame view error hr
    obtain ⟨_, _, hs, hquiet⟩ := follows_step hw s.debug (.commit index frame view : Call F R)
    have hsame := hquiet (by rw [hr]; trivial)
    rw [hr] at hs
    cases hs with
    | commitRefused live => exact ⟨hsame, hw.permits ▸ live, rfl, fun later => by rw [hsame]⟩
  · intro permit frame view error hr
    obtain ⟨_, _, hs, hquiet⟩ :=
      follows_step hw s.debug (.commitForeign permit frame view : Call F R)
    have hsame := hquiet (by rw [hr]; trivial)
    rw [hr] at hs
    cases hs with
    | foreignRefused => exact ⟨hsame, rfl, rfl⟩
  · intro now options permit hr
    exact reserve_drop hw s.debug hr
  · intro epoch effect written source hr
    obtain ⟨_, _, _, hquiet⟩ :=
      follows_step hw s.debug (.advanceWrite epoch effect written : Call F R)
    exact hquiet (by rw [hr]; trivial)
  · intro call t _ hr ht
    obtain ⟨_, _, hs, hquiet⟩ := follows_step hw s.debug call
    rw [hr] at hs hquiet
    exact ⟨hquiet ht, hs.ignorable_quiet ht⟩
  · intro input hp hi
    obtain ⟨_, _, hs, _⟩ := follows_step hw s.debug (.apply input : Call F R)
    exact hs.foreign_input (hw.core.poisoned ▸ hp) (hepoch ▸ hi)
  · intro reply hp hi
    obtain ⟨_, _, hs, _⟩ := follows_step hw s.debug (.applyReply reply : Call F R)
    exact hs.foreign_reply (hw.core.poisoned ▸ hp) (hepoch ▸ hi)
  · intro epoch effect written hp hi
    obtain ⟨_, _, hs, _⟩ := follows_step hw s.debug (.advanceWrite epoch effect written : Call F R)
    rw [hepoch]
    exact hs.foreign_report (hw.core.poisoned ▸ hp) (hepoch ▸ hi)

end Bornera.Core
