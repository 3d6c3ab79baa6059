import Bornera.Core.Invariant

/-!
# The policy machine refines the lane

`PolicyOf limits m e` relates the machine to an epoch: the same gate, phase and identities, the
records of the lane as its pending list, and a ledger that counts exactly the permits and the
lane. One lemma for each function of the machine says which epoch it moves to and which effects it
emits.
-/

namespace Bornera.Core

open Lib.Lookup

variable {F R : Type}

/-- What the permits and the lane of an epoch hold. -/
def Epoch.holdings (e : Epoch F) : List Holding :=
  e.permits.map Holding.ofPermit ++ e.lane.map fun x => Holding.ofRecord x.record

/-- **The machine is in the state of the epoch.** -/
structure PolicyOf (limits : ConnectionLimits) (m : ConnectionMachine) (e : Epoch F) : Prop where
  ledgerId : m.ledgerId = e.ledgerId
  epoch : m.epoch = e.epoch
  phase : m.phase = e.phase
  gate : m.gate = e.gate
  closeReason : m.closeReason = e.closeReason
  identities : m.identities = e.identities
  pending : m.matching.pending = e.lane.map Item.record
  accounts : Accounts limits m.ledger e.holdings

namespace PolicyOf

variable {limits : ConnectionLimits} {m : ConnectionMachine} {e : Epoch F}

theorem new (ledgerId : ℕ) (epoch : ConnectionEpoch) (limits : ConnectionLimits)
    (seeds : IdentitySeeds) :
    PolicyOf limits (ConnectionMachine.withIdentitySeeds ledgerId epoch limits seeds)
      (Epoch.new ledgerId epoch seeds : Epoch F) :=
  ⟨rfl, rfl, rfl, rfl, rfl, rfl, rfl, Accounts.new limits⟩

/-! ### Looking operations up -/

/-- What the matching discipline does with the operation in the middle of a split lane. -/
structure Found (m : ConnectionMachine) (pre : List (Item F)) (x : Item F)
    (post : List (Item F)) : Prop where
  get : m.matching.get x.id = some x.record
  getIndexed : m.matching.getIndexed x.id = some (pre.length, x.record)
  remove : m.matching.remove x.id =
    some (x.record, { m.matching with pending := (pre ++ post).map Item.record })
  modify : ∀ f, m.matching.modify x.id f =
    { m.matching with pending := pre.map Item.record ++ f x.record :: post.map Item.record }

lemma found_first (h : PolicyOf limits m e) {pre post : List (Item F)} {x : Item F}
    (hl : e.lane = pre ++ x :: post) (hpre : ∀ y ∈ pre, y.id ≠ x.id) : Found m pre x post := by
  have hpend : m.matching.pending = pre.map Item.record ++ x.record :: post.map Item.record := by
    rw [h.pending, hl, List.map_append, List.map_cons]
  have hpre' : ∀ r ∈ pre.map Item.record, decide (r.id = x.id) = false := by
    intro r hr
    obtain ⟨y, hy, rfl⟩ := List.mem_map.mp hr
    exact decide_eq_false (hpre y hy)
  have hx : decide (x.record.id = x.id) = true := decide_eq_true rfl
  refine ⟨?_, ?_, ?_, fun f => ?_⟩
  · rw [OrderedVerified.get, hpend]
    exact find?_mid hpre' hx
  · rw [OrderedVerified.getIndexed, hpend, findIndexed_mid hpre' hx, List.length_map]
  · rw [OrderedVerified.remove, hpend, removeFirst_mid hpre' hx, List.map_append]
    rfl
  · rw [OrderedVerified.modify, hpend, modifyFirst_mid hpre' hx]

lemma found (h : PolicyOf limits m e) (hw : e.Wf) {pre post : List (Item F)} {x : Item F}
    (hl : e.lane = pre ++ x :: post) : Found m pre x post := by
  refine h.found_first hl ?_
  have hid := hw.operations.of_append_right
  rw [hl] at hid
  exact (ne_key_of_nodup hid).1

/-- An operation is not in the lane, or the lane splits around it. -/
theorem lookup (h : PolicyOf limits m e) (id : OperationId) :
    m.matching.get id = none ∧ (∀ x ∈ e.lane, x.id ≠ id) ∨
    ∃ pre x post, e.lane = pre ++ x :: post ∧ x.id = id ∧ Found m pre x post := by
  rcases first_match (fun x : Item F => decide (x.id = id)) e.lane
    with hn | ⟨pre, x, post, hl, hpre, hx⟩
  · refine Or.inl ⟨find?_none fun r hr => ?_, fun x hx => of_decide_eq_false (hn x hx)⟩
    rw [h.pending] at hr
    obtain ⟨x, hx, rfl⟩ := List.mem_map.mp hr
    exact hn x hx
  · obtain rfl := of_decide_eq_true hx
    exact Or.inr ⟨pre, x, post, hl, rfl, h.found_first hl fun y hy =>
      of_decide_eq_false (hpre y hy)⟩

/-! ### The holdings -/

lemma holdings_split {pre post : List (Item F)} {x : Item F} (hl : e.lane = pre ++ x :: post) :
    e.holdings.Perm (Holding.ofRecord x.record :: { e with lane := pre ++ post }.holdings) := by
  unfold Epoch.holdings
  rw [hl]
  simp only [List.map_append, List.map_cons]
  rw [← List.append_assoc, ← List.append_assoc]
  exact List.perm_middle

/-- The ledger after one operation has left the lane. -/
lemma accounts_remove (h : PolicyOf limits m e) {pre post : List (Item F)} {x : Item F}
    (hl : e.lane = pre ++ x :: post) :
    Accounts limits (m.ledger.releaseOperation x.record.reservation x.record.writeHeld)
      { e with lane := pre ++ post }.holdings :=
  (h.accounts.perm (holdings_split hl)).releaseAll

lemma holdings_replace {pre post : List (Item F)} {x y : Item F} (hl : e.lane = pre ++ x :: post)
    (hr : Holding.ofRecord y.record = Holding.ofRecord x.record) :
    { e with lane := pre ++ y :: post }.holdings = e.holdings := by
  simp [Epoch.holdings, hl, hr]

/-! ### Closing -/

/-- The machine after the records of a list are released, the front first. -/
lemma closeRecords_eq (reason : CloseReason) (failure : Option (OperationId × OperationFailure))
    (records : List OperationRecord) (m : ConnectionMachine) (t : ConnectionTransition R) :
    ConnectionMachine.closeRecords reason failure records m t =
      ({ t with effects := t.effects ++
          records.flatMap (ConnectionMachine.closeEffects m.epoch reason failure) },
        { m with
          matching.pending := []
          ledger := records.foldl (fun l r => l.releaseOperation r.reservation r.writeHeld)
              m.ledger }) := by
  induction records generalizing m t with
  | nil => simp [ConnectionMachine.closeRecords]
  | cons r rs ih =>
    rw [ConnectionMachine.closeRecords, ih]
    simp [List.append_assoc]

lemma accounts_foldl {l : ReservationLedger} {records : List OperationRecord} {hs : List Holding}
    (h : Accounts limits l (records.map Holding.ofRecord ++ hs)) :
    Accounts limits (records.foldl
      (fun l r => l.releaseOperation r.reservation r.writeHeld) l) hs := by
  induction records generalizing l with
  | nil => exact h
  | cons r rs ih => exact ih (Accounts.releaseAll (x := Holding.ofRecord r) h)

/-- The effects the machine emits for the lane when it closes. -/
def closeLane (e : Epoch F) (reason : CloseReason)
    (failure : Option (OperationId × OperationFailure)) :
    List (ConnectionEffect R) :=
  e.lane.flatMap fun x => ConnectionMachine.closeEffects e.epoch reason failure x.record

/-- Closing a live machine empties the lane. -/
theorem closeWithFailureInto (h : PolicyOf limits m e) (hlive : e.phase = .live)
    (reason : CloseReason) (failure : Option (OperationId × OperationFailure))
    (t : ConnectionTransition R) :
    ∃ m', m.closeWithFailureInto reason failure t =
        ({ t with
          effects := t.effects ++ .closeEpoch e.epoch reason :: closeLane e reason failure }, m') ∧
      PolicyOf limits m' (e.close reason) := by
  refine ⟨{ m with
    gate := .closed
    phase := .closing
    closeReason := some reason
    matching.pending := []
    ledger := m.matching.pending.foldl
      (fun l r => l.releaseOperation r.reservation r.writeHeld) m.ledger },
    ?_, ?_⟩
  · unfold ConnectionMachine.closeWithFailureInto
    rw [if_neg (by simp [h.phase, hlive]), closeRecords_eq]
    refine congrArg₂ Prod.mk ?_ rfl
    simp only [ConnectionTransition.push, h.pending, h.epoch, closeLane, List.flatMap_map,
      List.append_assoc, List.singleton_append]
  · refine ⟨h.ledgerId, h.epoch, rfl, rfl, rfl, h.identities, rfl, ?_⟩
    have hacc := h.accounts
    unfold Epoch.holdings at hacc
    have hperm := hacc.perm List.perm_append_comm
    rw [show (e.lane.map fun x => Holding.ofRecord x.record) =
      m.matching.pending.map Holding.ofRecord by rw [h.pending, List.map_map]; rfl] at hperm
    have := accounts_foldl hperm
    simpa [Epoch.holdings, Epoch.close] using this

/-- The end of a drain. -/
theorem finishDrain (h : PolicyOf limits m e) (hg : e.phase = .live ↔ e.gate ≠ .closed)
    (t : ConnectionTransition R) :
    ∃ m', m.finishDrain t = ({ t with effects := t.effects ++ e.drainEffects }, m') ∧
      PolicyOf limits m' e.drained := by
  by_cases hd : e.gate = .draining ∧ e.lane = []
  · have hlive : e.phase = .live := by rw [hg, hd.1]; simp
    obtain ⟨m', hm, hp⟩ := h.closeWithFailureInto hlive .drained none t
    refine ⟨m', ?_, ?_⟩
    · rw [ConnectionMachine.finishDrain, if_pos (by
        simp [OrderedVerified.isEmpty, h.gate, h.pending, hd.1, hd.2]),
          ConnectionMachine.closeInto, hm]
      simp [closeLane, Epoch.drainEffects, Epoch.drains, hd.1, hd.2]
    · rw [Epoch.drained, if_pos (by simp [Epoch.drains, hd.1, hd.2])]
      exact hp
  · have hnd : e.drains = false := by
      simp only [Epoch.drains, List.isEmpty_iff, decide_eq_false_iff_not]
      exact hd
    refine ⟨m, ?_, ?_⟩
    · rw [ConnectionMachine.finishDrain, if_neg (by
        simpa [OrderedVerified.isEmpty, h.gate, h.pending] using hd)]
      simp [Epoch.drainEffects, hnd]
    · rw [Epoch.drained, if_neg (by simp [hnd])]
      exact h

/-! ### Changes of the lane -/

/-- The machine after one operation is removed and `l` is its ledger, up to the end of the drain. -/
theorem removed (h : PolicyOf limits m e) (hg : e.phase = .live ↔ e.gate ≠ .closed)
    {pre post : List (Item F)} {l : ReservationLedger}
    (hacc : Accounts limits l { e with lane := pre ++ post }.holdings)
    (t : ConnectionTransition R) :
    ∃ m', { m with
          matching := { m.matching with pending := (pre ++ post).map Item.record }
          ledger := l }.finishDrain t =
        ({ t with effects := t.effects ++ { e with lane := pre ++ post }.drainEffects }, m') ∧
      PolicyOf limits m' { e with lane := pre ++ post }.drained := by
  have hmid : PolicyOf limits
      { m with
        matching := { m.matching with pending := (pre ++ post).map Item.record }
        ledger := l }
      { e with lane := pre ++ post } :=
    ⟨h.ledgerId, h.epoch, h.phase, h.gate, h.closeReason, h.identities, rfl, hacc⟩
  exact hmid.finishDrain hg t

/-- The machine after a record changes without touching what it holds. -/
lemma replaced (h : PolicyOf limits m e) {pre post : List (Item F)} {x y : Item F}
    (hl : e.lane = pre ++ x :: post) (hr : Holding.ofRecord y.record = Holding.ofRecord x.record) :
    PolicyOf limits
      { m with matching := { m.matching with
        pending := pre.map Item.record ++ y.record :: post.map Item.record } }
      { e with lane := pre ++ y :: post } :=
  ⟨h.ledgerId, h.epoch, h.phase, h.gate, h.closeReason, h.identities, by simp,
    by rw [holdings_replace hl hr]; exact h.accounts⟩

/-! ### Admission -/

/-- A reservation gives a permit with new identities and a key nobody holds, or changes nothing. -/
theorem reserve (h : PolicyOf limits m e) (now : ℕ) (options : OperationOptions) :
    (∃ error, m.reserve now options = (.error error, m) ∧ error ≠ .ownerPoisoned) ∨
    ∃ p m' operation effect, m.reserve now options = (.ok p, m') ∧
      e.identities.operation = some operation ∧ e.identities.effect = some effect ∧
      p.operation = ⟨operation⟩ ∧ p.effect = ⟨effect⟩ ∧ p.ledger = e.ledgerId ∧ p.epoch = e.epoch ∧
      p.reservation.matchKey ∉ e.holdings.map Holding.key ∧
        e.gate.admits options.admissionClass = true ∧
      PolicyOf limits m'
        { e with
          permits := e.permits ++ [p]
          identities := ⟨checkedAdd operation 1, checkedAdd effect 1⟩ } := by
  unfold ConnectionMachine.reserve
  split
  · exact Or.inl ⟨_, rfl, by decide⟩
  next hadmits =>
  rw [Bool.not_eq_true, Bool.not_eq_false', h.gate] at hadmits
  split
  · exact Or.inl ⟨_, rfl, by decide⟩
  cases hav : m.identities.available
  · exact Or.inl ⟨.identityExhausted, by simp, by decide⟩
  simp only [Bool.not_true, Bool.false_eq_true, if_false]
  rcases h.accounts.reserve_cases options.retainedBytes options.writeRetainedBytes with
    ⟨res, l', hres, _, _, hfresh, hacc⟩ | ⟨error, hres, hsound⟩
  · unfold IdentityGenerator.available at hav
    obtain ⟨operation, ho⟩ := Option.isSome_iff_exists.mp (Bool.and_eq_true_iff.mp hav).1
    obtain ⟨effect, he⟩ := Option.isSome_iff_exists.mp (Bool.and_eq_true_iff.mp hav).2
    rw [hres]
    simp only [IdentityGenerator.take, ho, he]
    refine Or.inr ⟨_, _, operation, effect, rfl, h.identities ▸ ho, h.identities ▸ he, rfl, rfl,
      h.ledgerId, h.epoch, hfresh, hadmits, ?_⟩
    refine ⟨h.ledgerId, h.epoch, h.phase, h.gate, h.closeReason, rfl, h.pending, hacc.perm ?_⟩
    unfold Epoch.holdings
    rw [List.map_append, List.append_assoc]
    exact List.perm_middle.symm
  · rw [hres]
    exact Or.inl ⟨error, rfl, hsound⟩

lemma holdings_permit {p : OperationPermit} {index : ℕ} (hp : e.permits[index]? = some p) :
    e.holdings.Perm (Holding.ofPermit p ::
      { e with permits := e.permits.eraseIdx index }.holdings) := by
  unfold Epoch.holdings
  exact ((Epoch.perm_eraseIdx hp).map Holding.ofPermit).append_right _

/-- The drop of a permit. -/
theorem dropped (h : PolicyOf limits m e) {p : OperationPermit} {index : ℕ}
    (hp : e.permits[index]? = some p) :
    PolicyOf limits { m with ledger := m.ledger.rollbackPermit p.reservation }
      { e with permits := e.permits.eraseIdx index } :=
  ⟨h.ledgerId, h.epoch, h.phase, h.gate, h.closeReason, h.identities, h.pending,
    (h.accounts.perm (holdings_permit hp)).releaseAll⟩

/-- A commit moves a permit to the end of the lane. -/
theorem commitPermit (h : PolicyOf limits m e) {p : OperationPermit} {index : ℕ}
    (hp : e.permits[index]? = some p) (frame : F) {measure : FrameMeasure}
    (hle : measure.retainedBytes ≤ p.reservation.writeRetainedBytes) :
    (m.commitPermit p measure.retainedBytes).1 =
        (p.operation, (⟨.applied, none, [.scheduleDeadline e.epoch p.operation p.deadline]⟩ :
          ConnectionTransition R)) ∧
      PolicyOf limits (m.commitPermit (R := R) p measure.retainedBytes).2
        { e with
          permits := e.permits.eraseIdx index
          lane := e.lane ++ [Item.accept p frame measure] } := by
  constructor
  · simp [ConnectionMachine.commitPermit, ConnectionTransition.push, ConnectionTransition.new,
      ConnectionMachine.recordOf, h.epoch]
  · refine ⟨h.ledgerId, h.epoch, h.phase, h.gate, h.closeReason, h.identities, ?_, ?_⟩
    · simp [ConnectionMachine.commitPermit, OrderedVerified.push, h.pending, Item.accept]
    · have hc := (h.accounts.perm (holdings_permit hp)).commit hle
      refine hc.perm ?_
      simp only [Epoch.holdings, List.map_append, List.map_cons, List.map_nil]
      rw [← List.append_assoc]
      exact (List.perm_append_singleton _ _).symm

/-! ### Write progress -/

/-- The first byte of a frame turns its record into a writing one. -/
theorem writeStarted (h : PolicyOf limits m e) (hw : e.Wf) (hp : e.poisoned = none)
    {pre post : List (Item F)} {x : Item F} {w : QueuedWrite F} (hf : e.AtFront pre x w post)
    (hs : w.started = false) :
    ∃ m', m.writeStarted (R := R) e.epoch w.operation w.effect = (.new .applied, m') ∧
      PolicyOf limits m'
        { e with lane := pre ++
          { x with record := { x.record with delivery := .possiblySent, phase := .writing } } ::
              post } := by
  have hx := hf.mem
  have hb := hw.bound x hx
  have hfound := h.found hw hf.lane
  have hq : x.record.phase = .queued := by
    cases hw.sound hp x hx with
    | awaiting gone => exact absurd hf.write (by simp [gone])
    | queued _ _ phase => exact phase
    | started here started =>
      rw [hf.write] at here
      cases here
      simp [started] at hs
  refine ⟨{ m with matching := { m.matching with pending := pre.map Item.record ++
    { x.record with delivery := .possiblySent, phase := .writing } :: post.map Item.record } },
    ?_, ?_⟩
  · unfold ConnectionMachine.writeStarted
    rw [if_neg (by simp [h.epoch]), hb.operation w hf.write, hfound.get]
    simp only
    rw [if_neg (by simp [hq]), if_neg (by simp [hb.effect w hf.write]), if_neg (by simp [hq]),
      hfound.modify]
  · exact h.replaced (y := { x with
      record := { x.record with delivery := .possiblySent, phase := .writing } })
      hf.lane rfl

/-- A whole frame gives back the write half of its operation, and ends an operation without a
reply. -/
theorem writeCompleted (h : PolicyOf limits m e) (hg : e.phase = .live ↔ e.gate ≠ .closed)
    {pre post : List (Item F)} {x : Item F} (hl : e.lane = pre ++ x :: post)
    (hfound : Found m pre x post) (hheld : x.record.writeHeld = true)
    (hphase : x.record.phase ≠ .awaitingReply) :
    (x.record.completion = .replyExpected →
      ∃ m', m.writeCompleted (R := R) e.epoch x.id x.record.effect = (.new .applied, m') ∧
        PolicyOf limits m'
          { e with lane := pre ++ ⟨x.record.released, none⟩ :: post }) ∧
    (x.record.completion = .writeComplete →
      ∃ m', m.writeCompleted (R := R) e.epoch x.id x.record.effect =
          (⟨.applied, none, .cancelDeadline e.epoch x.id ::
            x.publish e.epoch (.writeComplete x.record.delivery) ++
              { e with lane := pre ++ post }.drainEffects⟩, m') ∧
        PolicyOf limits m' { e with lane := pre ++ post }.drained) := by
  have hready : ¬((x.record.phase ≠ .writing ∧ x.record.phase ≠ .terminal ∧
    x.record.phase ≠ .queued) ∨
      x.record.writeHeld = false) := by
    rw [hheld]
    cases hph : x.record.phase <;> simp_all
  have hacc : Accounts limits (m.ledger.releaseWrite x.record.reservation.writeRetainedBytes)
      (⟨x.record.reservation, false, false⟩ :: { e with lane := pre ++ post }.holdings) := by
    have hsplit := h.accounts.perm (holdings_split hl)
    unfold Holding.ofRecord at hsplit
    rw [hheld] at hsplit
    exact hsplit.releaseWrite
  constructor
  · intro hreply
    refine ⟨{ m with
      ledger := m.ledger.releaseWrite x.record.reservation.writeRetainedBytes
      matching := { m.matching with
        pending := pre.map Item.record ++ x.record.released :: post.map Item.record } }, ?_, ?_⟩
    · unfold ConnectionMachine.writeCompleted
      rw [if_neg (by simp [h.epoch]), hfound.get]
      simp only
      rw [if_neg (by simp), if_neg hready, if_pos hreply, hfound.modify]
      rfl
    · refine ⟨h.ledgerId, h.epoch, h.phase, h.gate, h.closeReason, h.identities, by simp, ?_⟩
      exact hacc.perm
        (holdings_split (e := { e with lane := pre ++ ⟨x.record.released, none⟩ :: post }) rfl).symm
  · intro hreply
    obtain ⟨m', hm, hpol⟩ := h.removed (R := R) hg
      (Accounts.releaseAll (x := ⟨x.record.reservation, false, false⟩) hacc)
      ⟨.applied, none, .cancelDeadline e.epoch x.id ::
        x.publish e.epoch (.writeComplete x.record.delivery)⟩
    refine ⟨m', ?_, hpol⟩
    rw [← hm]
    unfold ConnectionMachine.writeCompleted
    rw [if_neg (by simp [h.epoch]), hfound.get]
    simp only
    rw [if_neg (by simp), if_neg hready, if_neg (by simp [hreply]), hfound.remove]
    simp only [Item.publish, Item.owed, h.epoch]
    by_cases ht : x.record.phase = .terminal
    · simp [ht, ConnectionTransition.push, ConnectionTransition.new]
      rfl
    · simp [ht, ConnectionTransition.push, ConnectionTransition.new]
      rfl

end PolicyOf
end Bornera.Core
