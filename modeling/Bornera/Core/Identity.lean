import Bornera.Core.Delivery

/-!
# Identities

The operation and effect identities of one epoch count up from their seeds and are never issued
twice. A domain that has issued its last number issues nothing more: every later reservation is
refused and changes nothing.
-/

namespace Bornera.Core

open Lib Epoch

variable {B F R : Type} [ByteBudget B] {e e' : Epoch F} {call : Call F R} {r : Response F R}

/-- The permit a call hands out. -/
def Response.issued : Response F R → List OperationPermit
  | .reserved (.ok permit) => [permit]
  | _ => []

/-- The permits handed out over a history. -/
def issued (h : List (CallEvent B F R)) : List OperationPermit :=
  h.flatMap fun ev => ev.output.issued

/-- The numbers a domain has issued, against the next one. -/
structure Numbered (ids : List ℕ) (next : Option ℕ) : Prop where
  increasing : ids.Pairwise (· < ·)
  issued : ∀ n ∈ ids, Issued next n
  exhausted : u64Max ∈ ids → next = none

lemma Numbered.new (next : Option ℕ) : Numbered [] next :=
  ⟨List.Pairwise.nil, fun n hn => (by cases hn), fun hmax => (by cases hmax)⟩

/-- The next number is greater than all before it. -/
lemma Numbered.take {ids : List ℕ} {n : ℕ} (h : Numbered ids (some n)) :
    Numbered (ids ++ [n]) (checkedAdd n 1) := by
  have hbelow : ∀ m ∈ ids, m < n := fun m hm => h.issued m hm n rfl
  refine ⟨?_, ?_, ?_⟩
  · rw [List.pairwise_append]
    refine ⟨h.increasing, List.pairwise_singleton _ n, fun m hm k hk => ?_⟩
    rw [List.mem_singleton.mp hk]
    exact hbelow m hm
  · intro m hm
    rcases List.mem_append.mp hm with hm | hm
    · exact (h.issued m hm).next rfl
    · rw [List.mem_singleton.mp hm]
      exact issued_self n
  · intro hmax
    rcases List.mem_append.mp hmax with hmax | hmax
    · exact absurd (h.exhausted hmax) (Option.some_ne_none n)
    · rw [← List.mem_singleton.mp hmax]
      rfl

/-- A call hands out nothing, or the next identity of both domains. -/
lemma Epoch.Step.issuing (h : Step e call r e') :
    (r.issued = [] ∧ e'.identities = e.identities) ∨
    ∃ p operation effect, r.issued = [p] ∧ p.operation = ⟨operation⟩ ∧ p.effect = ⟨effect⟩ ∧
      e.identities = ⟨some operation, some effect⟩ ∧
        e'.identities = ⟨checkedAdd operation 1, checkedAdd effect 1⟩ := by
  cases h with
  | @reserved p operation effect _ _ _ operations effects identity =>
    refine .inr ⟨p, operation, effect, rfl, identity.1, identity.2, ?_, rfl⟩
    rw [← operations, ← effects]
  | _ => exact .inl ⟨rfl, by first | rfl | exact drained_identities _⟩

/-- Both domains of an epoch, against a history. -/
structure Issues (h : List (CallEvent B F R)) (e : Epoch F) : Prop where
  operations : Numbered ((issued h).map (·.operation.get)) e.identities.operation
  effects : Numbered ((issued h).map (·.effect.get)) e.identities.effect

omit [ByteBudget B] in
lemma Issues.step {h : List (CallEvent B F R)} {ev : CallEvent B F R} (hi : Issues h e)
    (hs : Step e ev.input ev.output e') : Issues (h ++ [ev]) e' := by
  have hsnoc : issued (h ++ [ev]) = issued h ++ ev.output.issued := by simp [issued]
  obtain ⟨hnone, hsame⟩ | ⟨p, operation, effect, hone, hop, heff, hids, hnext⟩ := hs.issuing
  · refine ⟨?_, ?_⟩
    · rw [hsnoc, hnone, List.append_nil, hsame]
      exact hi.operations
    · rw [hsnoc, hnone, List.append_nil, hsame]
      exact hi.effects
  · have hops := hi.operations
    have heffs := hi.effects
    rw [hids] at hops heffs
    refine ⟨?_, ?_⟩
    · rw [hsnoc, hone, List.map_append, List.map_singleton, hop, hnext]
      exact hops.take
    · rw [hsnoc, hone, List.map_append, List.map_singleton, heff, hnext]
      exact heffs.take

theorem issues_run (s : Setup) (calls : List (Call F R)) :
    ∃ e, Holds s.limits (s.final B calls) e ∧ Issues (s.history B calls) e := by
  refine s.run_induction (Q := Issues) ?_ ?_ calls
  · exact ⟨Numbered.new _, Numbered.new _⟩
  · intro h w e call e' hw hi hs _
    exact hi.step hs

/-! ### One reservation -/

namespace ConnectionMachine

variable {m : ConnectionMachine}

/-- What a machine without identities answers. -/
def exhaustion (m : ConnectionMachine) (now : ℕ) (options : OperationOptions) : ReserveError :=
  if m.gate.admits options.admissionClass = false then .admissionClosed
  else if options.deadline.isElapsedAt now then .deadlineElapsed
  else .identityExhausted

/-- A machine without identities refuses every reservation, and stays as it is. -/
lemma reserve_exhausted (h : m.identities.available = false) (now : ℕ)
    (options : OperationOptions) :
    m.reserve now options = (.error (m.exhaustion now options), m) := by
  unfold reserve exhaustion
  cases m.gate.admits options.admissionClass with
  | false => rfl
  | true =>
    rw [h]
    cases options.deadline.isElapsedAt now <;> rfl

/-- Once the ledger grants a reservation, the identities are taken: nothing is rolled back. -/
lemma reserve_granted {now : ℕ} {options : OperationOptions}
    (hadmits : m.gate.admits options.admissionClass = true)
    (hpending : options.deadline.isElapsedAt now = false)
    (havailable : m.identities.available = true) {reservation : Reservation}
    {ledger : ReservationLedger}
    (hledger : m.ledger.reserve options.retainedBytes options.writeRetainedBytes =
      (.ok reservation, ledger)) :
    ∃ permit, (m.reserve now options).1 = .ok permit ∧ permit.reservation = reservation ∧
      (m.reserve now options).2.ledger = ledger := by
  unfold IdentityGenerator.available at havailable
  obtain ⟨hop, heff⟩ := Bool.and_eq_true_iff.mp havailable
  obtain ⟨operation, hoperation⟩ := Option.isSome_iff_exists.mp hop
  obtain ⟨effect, heffect⟩ := Option.isSome_iff_exists.mp heff
  unfold reserve
  simp only [hadmits, hpending, hledger, IdentityGenerator.available, IdentityGenerator.take,
    hoperation, heffect]
  exact ⟨_, rfl, rfl, rfl⟩

end ConnectionMachine

omit [ByteBudget B] in
/-- A domain that has issued its last number has nothing available. -/
lemma Issues.exhausted {h : List (CallEvent B F R)} (hi : Issues h e)
    (hlast : ∃ p ∈ issued h, p.operation.get = u64Max ∨ p.effect.get = u64Max) :
    e.identities.available = false := by
  obtain ⟨p, hp, hlast | hlast⟩ := hlast
  · have hnone := hi.operations.exhausted (List.mem_map.mpr ⟨p, hp, hlast⟩)
    simp [IdentityGenerator.available, hnone]
  · have hnone := hi.effects.exhausted (List.mem_map.mpr ⟨p, hp, hlast⟩)
    simp [IdentityGenerator.available, hnone]

/-- What a core answers to a reservation is what its machine answers, unless it is poisoned. -/
lemma Holds.reserve_error {limits : ConnectionLimits} {w : World B F} (hw : Holds limits w e)
    (debug : Bool) {now : ℕ} {options : OperationOptions} {error : ReserveError}
    (hmachine : w.core.machine.reserve now options = (.error error, w.core.machine)) :
    (w.step debug (.reserve now options : Call F R)).2 =
      .reserved (.error (if w.core.poisoned = none then error else .ownerPoisoned)) := by
  have hpoisoned := hw.core.poisoned
  cases hp : e.poisoned with
  | none =>
    rw [hp] at hpoisoned
    have hrun : w.core.reserve debug now options = (.error error, w.core) := by
      simp only [ConnectionCore.reserve, hw.core.guardAdmission hw.wf hp, hmachine]
    rw [hpoisoned, if_pos rfl]
    simp only [World.step, hrun]
  | some source =>
    rw [hp] at hpoisoned
    have hrun : (w.core.reserve debug now options).1 = .error .ownerPoisoned := by
      simp only [ConnectionCore.reserve, hw.core.guardAdmission_poisoned hp]
    rw [hpoisoned, if_neg (Option.some_ne_none source)]
    simp only [World.step]
    split
    · next heq =>
      rw [heq] at hrun
      cases hrun
      rfl
    · next heq =>
      rw [heq] at hrun
      cases hrun

/-- **Identities never alias.** Over every run, from any seeds, both kinds of identities strictly
increase; after the last number of either, every reservation is refused and changes nothing; and a
reservation that the ledger grants is never rolled back. -/
theorem identities_never_alias (s : Setup) (calls : List (Call F R)) :
    let h := s.history B calls
    ((issued h).map (·.operation.get)).Pairwise (· < ·) ∧
      ((issued h).map (·.effect.get)).Pairwise (· < ·) ∧
    ((issued h).map (·.operation)).Nodup ∧ ((issued h).map (·.effect)).Nodup ∧
    (∀ pre ev post now options, h = pre ++ ev :: post → ev.input = .reserve now options →
      (∃ p ∈ issued pre, p.operation.get = u64Max ∨ p.effect.get = u64Max) →
      let m := ev.before.core.machine
      m.reserve now options = (.error (m.exhaustion now options), m) ∧ ev.after = ev.before ∧
        ev.output = .reserved (.error
          (if ev.before.core.poisoned = none then m.exhaustion now options else .ownerPoisoned))) ∧
    ∀ ev ∈ h, ∀ now options reservation ledger, let m := ev.before.core.machine
      m.gate.admits options.admissionClass = true → options.deadline.isElapsedAt now = false →
      m.identities.available = true →
      m.ledger.reserve options.retainedBytes options.writeRetainedBytes =
        (.ok reservation, ledger) →
      ∃ permit, (m.reserve now options).1 = .ok permit ∧ permit.reservation = reservation ∧
        (m.reserve now options).2.ledger = ledger := by
  obtain ⟨e, _, hi⟩ := issues_run (B := B) s calls
  have hops := hi.operations.increasing
  have heffs := hi.effects.increasing
  refine ⟨hops, heffs, ?_, ?_, ?_, ?_⟩
  · refine List.Nodup.of_map OperationId.get ?_
    rw [List.map_map]
    exact hops.imp fun hlt => hlt.ne
  · refine List.Nodup.of_map EffectId.get ?_
    rw [List.map_map]
    exact heffs.imp fun hlt => hlt.ne
  · intro pre ev post now options hev hinput hlast
    obtain ⟨calls₁, call, _, _, rfl, rfl⟩ := Transducer.history_split hev
    obtain ⟨e, hw, hi⟩ := issues_run (B := B) s calls₁
    have hnone := hi.exhausted hlast
    rw [← hw.core.policy.identities] at hnone
    have hmachine := ConnectionMachine.reserve_exhausted hnone now options
    cases hinput
    have houtput := hw.reserve_error (R := R) s.debug hmachine
    obtain ⟨_, _, _, hquiet⟩ := follows_step hw s.debug (.reserve now options : Call F R)
    refine ⟨hmachine, hquiet ?_, houtput⟩
    rw [houtput]
    trivial
  · intro ev _ now options reservation ledger m hadmits hpending havailable hledger
    exact ConnectionMachine.reserve_granted hadmits hpending havailable hledger

/-- The second reservation finds the operations exhausted, with effects left. -/
example :
    let s : Setup := { Setup.sample with seeds := ⟨u64Max, 3⟩ }
    let reserve : Call (List UInt8) Unit := .reserve 0 { deadline := ⟨9⟩, writeRetainedBytes := 8 }
    let h := s.history Counted [.apply (.openAdmission ⟨1⟩), reserve, reserve]
    (issued h).map (fun p => (p.operation.get, p.effect.get)) = [(u64Max, 3)] := by decide

end Bornera.Core
