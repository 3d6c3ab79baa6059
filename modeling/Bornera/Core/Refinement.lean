import Bornera.Core.Reconcile

/-!
# The core refines the epoch

Every public call of a core in the state of a well-formed epoch does one `Epoch.Step`, and a call
whose answer is quiet leaves the core as it was. `refines_step` puts the calls together;
`Reached` carries the relation along runs.
-/

namespace Bornera.Core

open Lib Lib.Lookup Epoch

variable {B F R : Type} [ByteBudget B]

/-- The answers of a call that did nothing. -/
def Response.Quiet : Response F R → Prop
  | .reserved (.error _) => True
  | .committed (.error _) => True
  | .transition (.ok t) => Ignorable t.disposition
  | .transition (.error (.write _)) => True
  | .transition (.error (.poisoned _)) => True
  | .unavailable => True
  | _ => False

/-- A call answered with `r` that leaves the core `c'`: one step of the epoch, and none of the
core when the answer is quiet. -/
def Simulates (limits : ConnectionLimits) (c : ConnectionCore B F) (e : Epoch F) (call : Call F R)
    (r : Response F R) (c' : ConnectionCore B F) : Prop :=
  ∃ e', Refines limits c' e' ∧ Step e call r e' ∧ (r.Quiet → c' = c)

variable {limits : ConnectionLimits} {c : ConnectionCore B F} {e : Epoch F}

/-! ### Driven transitions -/

/-- What the machine may do with an input or a reply: nothing, or one step of the epoch that
reconciliation follows. -/
def Driven (B : Type) [ByteBudget B] (limits : ConnectionLimits) (m : ConnectionMachine)
    (e : Epoch F) (call : Call F R)
    (f : ConnectionMachine → ConnectionTransition R × ConnectionMachine) : Prop :=
  (Ignores e call ∧ ∃ t, f m = (t, m) ∧ Ignorable t.disposition ∧ t.effects = []) ∨
  ∃ t m' e' effects, f m = (t, m') ∧ PolicyOf limits m' e' ∧
    Reconciles B limits t.effects effects e e' ∧
    e'.poisoned = none ∧ ¬Ignorable t.disposition ∧
      Step e call (.transition (.ok { t with effects })) e'

lemma settled_poisoned (h : Refines limits c e) {source : ConnectionCoreInvariant}
    (hp : e.poisoned = some source) (debug : Bool) (prepare : ConnectionCore.Run B F Unit)
    (f : ConnectionMachine → ConnectionTransition R × ConnectionMachine) :
    ConnectionCore.settled (ConnectionCore.drive debug prepare f) c =
      (.error (.poisoned source), c) := by
  unfold ConnectionCore.settled ConnectionCore.drive
  rw [Owner.bind_error (Owner.bind_error (h.ensureHealthy_poisoned hp) _)]

/-- A transition that finds nothing to do changes only the journal. -/
lemma Refines.drive_ignored (h : Refines limits c e) (hw : e.Wf) (hp : e.poisoned = none)
    (debug : Bool) {prepare : ConnectionCore.Run B F Unit} (hprep : Arms limits prepare c)
    {f : ConnectionMachine → ConnectionTransition R × ConnectionMachine}
    {t : ConnectionTransition R} (hmove : f c.machine = (t, c.machine)) (hq : t.effects = []) :
    ∃ j, ConnectionCore.drive debug prepare f c = (.ok t, { c with journal := j }) ∧
      Kept limits j := by
  obtain ⟨j, hj, hk, _⟩ := hprep
  refine ⟨j, ?_, hk⟩
  have htransit : ConnectionCore.transit f { c with journal := j } =
      (.ok t, { c with journal := j }) := by
    simp only [ConnectionCore.transit, Owner.update_run, hmove]
  have hreconcile : ConnectionCore.reconcile t { c with journal := j } =
      (.ok t, { c with journal := j }) := by
    unfold ConnectionCore.reconcile
    rw [hq]
    cases t
    cases hq
    rfl
  have hhealthy : ConnectionCore.ensureHealthy { c with journal := j } =
      (.ok (), { c with journal := j }) :=
    ensureHealthy_ok h.policy.accounts.sound (h.poisoned.trans hp)
  unfold ConnectionCore.drive
  rw [Owner.bind_ok (h.ensureHealthy hp), Owner.bind_ok (h.verifyOwnershipOnHotPath hw debug),
    Owner.bind_ok hj, Owner.bind_ok htransit, Owner.bind_ok hreconcile, Owner.bind_ok hhealthy]
  rfl

/-- A transition that finds nothing to do gives the core back. -/
lemma Refines.ignored (h : Refines limits c e) (hw : e.Wf) (hp : e.poisoned = none) (debug : Bool)
    {prepare : ConnectionCore.Run B F Unit} (hprep : Arms limits prepare c)
    {f : ConnectionMachine → ConnectionTransition R × ConnectionMachine}
    {t : ConnectionTransition R} (hmove : f c.machine = (t, c.machine)) (hq : t.effects = []) :
    ConnectionCore.settled (ConnectionCore.drive debug prepare f) c = (.ok t, c) := by
  obtain ⟨j, hdrive, hk⟩ := h.drive_ignored hw hp debug hprep hmove hq
  have hclear : j.clear = c.journal := by
    rw [← h.journal.clear_eq (h.unarmed hp)]
    unfold RecoveryJournal.clear
    rw [hk.operationSlots, hk.writeSlots, h.journal.operationSlots, h.journal.writeSlots]
  unfold ConnectionCore.settled
  rw [Owner.bind_ok hdrive]
  simp only [ConnectionCore.clearJournal, Owner.change_bind, Owner.pure_run, hclear]

/-- The journal never outgrows its slots while a transition is driven. -/
lemma Refines.driven_kept (h : Refines limits c e) (hw : e.Wf) (hp : e.poisoned = none)
    (debug : Bool) {prepare : ConnectionCore.Run B F Unit} (hprep : Arms limits prepare c)
    {call : Call F R} {f : ConnectionMachine → ConnectionTransition R × ConnectionMachine}
    (hd : Driven B limits c.machine e call f) :
    Kept limits (ConnectionCore.drive debug prepare f c).2.journal := by
  rcases hd with ⟨_, t, hmove, _, hq⟩ | ⟨t, m', e', effects, hmove, hpol, hrec, _⟩
  · obtain ⟨j, hdrive, hk⟩ := h.drive_ignored hw hp debug hprep hmove hq
    rw [hdrive]
    exact hk
  · obtain ⟨q, j, hdrive, _, hk⟩ := h.drive hw hp debug hprep hmove hpol hrec
    rw [hdrive]
    exact hk

theorem Refines.driven (h : Refines limits c e) (hw : e.Wf) (hp : e.poisoned = none) (debug : Bool)
    {prepare : ConnectionCore.Run B F Unit} (hprep : Arms limits prepare c) {call : Call F R}
    {f : ConnectionMachine → ConnectionTransition R × ConnectionMachine}
    (hd : Driven B limits c.machine e call f) :
    Simulates limits c e call
      (.transition (ConnectionCore.settled (ConnectionCore.drive debug prepare f) c).1)
      (ConnectionCore.settled (ConnectionCore.drive debug prepare f) c).2 := by
  rcases hd with ⟨hcall, t, hmove, hig, hq⟩ | ⟨t, m', e', effects, hmove, hpol, hrec, hp',
    happlied, hstep⟩
  · rw [h.ignored hw hp debug hprep hmove hq]
    exact ⟨e, h, .ignored hcall hp hig hq, fun _ => rfl⟩
  · obtain ⟨q, j, hdrive, hwriter, hk⟩ := h.drive hw hp debug hprep hmove hpol hrec
    obtain ⟨hset, href⟩ := h.settled hp hdrive hpol hwriter hk hp'
    rw [hset]
    exact ⟨e', href, hstep, fun hquiet => absurd hquiet happlied⟩

/-! ### Inputs -/

section Inputs

variable {m : ConnectionMachine} (h : PolicyOf limits m e) (hw : e.Wf) (hp : e.poisoned = none)

lemma driven_ignored {call : Call F R}
    {f : ConnectionMachine → ConnectionTransition R × ConnectionMachine} (hcall : Ignores e call)
    (d : InputDisposition) (cancelled : Option CancelOutcome) (hd : Ignorable d)
    (hf : f m = (⟨d, cancelled, []⟩, m)) : Driven B limits m e call f :=
  Or.inl ⟨hcall, _, hf, hd, rfl⟩

lemma frames_replace {pre post : List (Item F)} {x y : Item F} (hl : e.lane = pre ++ x :: post)
    (hy : y.write = x.write) : { e with lane := pre ++ y :: post }.frames = e.frames := by
  simp only [frames, hl, List.filterMap_append, List.filterMap_cons, hy]

include h hw hp

omit hw in
lemma driven_openAdmission (epoch : ConnectionEpoch) :
    Driven (R := R) B limits m e (.apply (.openAdmission epoch)) (·.openAdmission epoch) := by
  by_cases hep : epoch = m.epoch
  swap
  · exact driven_ignored (.stale (h.epoch ▸ hep)) .ignoredStaleEpoch none trivial (if_pos hep)
  by_cases hlive : m.phase = .live ∧ m.gate = .sessionOnly
  · refine Or.inr ⟨.new .applied, { m with gate := .opened }, { e with gate := .opened }, [],
      ?_, ?_, ?_, hp,
      id, ?_⟩
    · simp only [ConnectionMachine.openAdmission, if_neg (not_not.mpr hep), if_pos hlive]
    · exact ⟨h.ledgerId, h.epoch, h.phase, rfl, h.closeReason, h.identities, h.pending, h.accounts⟩
    · exact reconciles_quiet (by simp [ConnectionTransition.new]) rfl rfl
    · rw [hep, h.epoch]
      exact .opened hp (h.phase ▸ hlive.1) (h.gate ▸ hlive.2)
  · refine driven_ignored (.input ?_) .ignoredInvalidPhase none trivial ?_
    · rw [h.phase, h.gate, not_and_or] at hlive
      exact hlive
    simp only [ConnectionMachine.openAdmission, if_neg (not_not.mpr hep), if_neg hlive]
    rfl

/-- The removal of an unsent operation, by a cancel or a deadline. -/
lemma driven_removed {call : Call F R}
    {f : ConnectionMachine → ConnectionTransition R × ConnectionMachine} {pre post : List (Item F)}
    {x : Item F} {outcome : OperationOutcome R} {cancelled : Option CancelOutcome}
    (hl : e.lane = pre ++ x :: post) (hd : x.record.delivery = .notSent)
    (hr : Removes e x call outcome cancelled) (hf : f m = { m with
      matching := { m.matching with pending := (pre ++ post).map Item.record }
      ledger := m.ledger.releaseOperation x.record.reservation x.record.writeHeld }.finishDrain
        ⟨.applied, cancelled, ConnectionMachine.removeEffects e.epoch x.record outcome⟩) :
    Driven B limits m e call f := by
  obtain ⟨m', hm, hpol⟩ := h.removed hw.gate (h.accounts_remove hl)
    (⟨.applied, cancelled, ConnectionMachine.removeEffects e.epoch x.record outcome⟩ :
      ConnectionTransition R)
  refine Or.inr ⟨_, m', _, _, hf.trans hm, hpol,
    reconciles_removed hw hl outcome limits.frames_pos, ?_, id,
    .removed hp hl ?_ hd hr⟩
  · rw [drained_poisoned]
    exact hp
  · exact (hw.sound hp x (by simp [hl])).owed_of_unsent hd

lemma driven_cancel (epoch : ConnectionEpoch) (operation : OperationId) :
    Driven (R := R) B limits m e (.apply (.cancel epoch operation)) (·.cancel epoch operation) := by
  by_cases hep : epoch = m.epoch
  swap
  · exact driven_ignored (.stale (h.epoch ▸ hep)) .ignoredStaleEpoch (some .alreadyTerminal) trivial
      (if_pos hep)
  rcases h.lookup operation with ⟨hnone, habsent⟩ | ⟨pre, x, post, hl, hx, hfound⟩
  · refine driven_ignored (.input fun x hx hid => absurd hid (habsent x hx))
      .ignoredUnknownOperation
      (some .alreadyTerminal) trivial ?_
    simp only [ConnectionMachine.cancel, if_neg (not_not.mpr hep), hnone]
    rfl
  subst hx
  by_cases ht : x.record.phase = .terminal
  · refine driven_ignored (.input fun y hy hid => ?_) .alreadyTerminal
      (some .alreadyTerminal) trivial ?_
    · obtain rfl := List.inj_on_of_nodup_map hw.operations.of_append_right hy (by simp [hl]) hid
      simp [Item.owed, ht]
    simp only [ConnectionMachine.cancel, if_neg (not_not.mpr hep), hfound.get, if_pos ht]
    rfl
  rw [hep, h.epoch]
  by_cases hd : x.record.delivery = .notSent
  · refine driven_removed h hw hp hl hd .cancel ?_
    simp only [ConnectionMachine.cancel, ne_eq, h.epoch, not_true, if_false, hfound.get,
      if_neg ht, if_pos hd,
      hfound.remove]
  · have hsent : x.record.delivery = .possiblySent := by
      cases hdel : x.record.delivery
      · exact absurd hdel hd
      · rfl
    refine Or.inr ⟨⟨.applied, some (.observationCancelled .possiblySent),
        [.publishOutcome e.epoch x.id (.cancelled .possiblySent)]⟩,
      { m with matching := { m.matching with
        pending := pre.map Item.record ++ x.bury.record :: post.map Item.record } },
      { e with lane := pre ++ x.bury :: post }, _, ?_, h.replaced (y := x.bury) hl rfl,
      reconciles_quiet (by simp [ConnectionEffect.isDiscard]) rfl (frames_replace hl rfl), hp, id,
      .buried hp hl (by simp [Item.owed, ht]) hsent⟩
    simp only [ConnectionMachine.cancel, ne_eq, h.epoch, not_true, if_false, hfound.get,
      if_neg ht, if_neg hd,
      hfound.modify]
    rfl

/-- A close of a live epoch. -/
lemma driven_closed (hroom : e.frames.length ≤ limits.maxWriteFrames) {call : Call F R}
    {f : ConnectionMachine → ConnectionTransition R × ConnectionMachine} {reason : CloseReason}
    {failure : Option (OperationId × OperationFailure)} {disposition : InputDisposition}
    (hlive : e.phase = .live) (hc : Closes e call reason failure disposition)
    (hf : f m = m.closeWithFailureInto reason failure (.new disposition)) :
    Driven B limits m e call f := by
  obtain ⟨m', hm, hpol⟩ :=
    h.closeWithFailureInto hlive reason failure (.new disposition : ConnectionTransition R)
  refine Or.inr ⟨_, m', e.close reason, _, hf.trans hm, hpol,
    reconciles_close hw hroom reason failure, hp, ?_,
    .closed hp hlive hc⟩
  cases hc <;> exact id

lemma driven_deadlineElapsed (hroom : e.frames.length ≤ limits.maxWriteFrames)
    (epoch : ConnectionEpoch) (operation : OperationId) (now : ℕ) :
    Driven (R := R) B limits m e (.apply (.deadlineElapsed epoch operation now))
      (·.deadlineElapsed epoch operation now) := by
  by_cases hep : epoch = m.epoch
  swap
  · exact driven_ignored (.stale (h.epoch ▸ hep)) .ignoredStaleEpoch none trivial (if_pos hep)
  rcases h.lookup operation with ⟨hnone, habsent⟩ | ⟨pre, x, post, hl, hx, hfound⟩
  · refine driven_ignored (.input habsent) .ignoredUnknownOperation none trivial ?_
    simp only [ConnectionMachine.deadlineElapsed, if_neg (not_not.mpr hep), hnone]
    rfl
  subst hx
  have hmem : x ∈ e.lane := by simp [hl]
  rw [hep, h.epoch]
  cases hel : x.record.deadline.isElapsedAt now
  · refine Or.inr ⟨⟨.applied, none, [.scheduleDeadline e.epoch x.id x.record.deadline]⟩, m,
      e, _, ?_, h,
      reconciles_quiet (by simp [ConnectionEffect.isDiscard]) rfl rfl, hp, id,
        .rescheduled hp hmem hel⟩
    simp only [ConnectionMachine.deadlineElapsed, ne_eq, h.epoch, not_true, if_false,
      hfound.get, hel,
      Bool.not_false, if_true]
    rfl
  by_cases hd : x.record.delivery = .possiblySent
  · have hlive : e.phase = .live := by
      by_contra hn
      simp [hw.idle hn] at hmem
    refine driven_closed h hw hp hroom hlive (.late hmem hd hel) ?_
    simp only [ConnectionMachine.deadlineElapsed, ne_eq, h.epoch, not_true, if_false,
      hfound.get, hel,
      Bool.not_true, Bool.false_eq_true, if_pos hd, ConnectionMachine.closeInto]
  · have hunsent : x.record.delivery = .notSent := by
      cases hdel : x.record.delivery
      · rfl
      · exact absurd hdel hd
    refine driven_removed h hw hp hl hunsent (.deadline hel) ?_
    simp only [ConnectionMachine.deadlineElapsed, ne_eq, h.epoch, not_true, if_false,
      hfound.get, hel,
      Bool.not_true, Bool.false_eq_true, if_neg hd, hfound.remove]

lemma driven_replyMalformed (hroom : e.frames.length ≤ limits.maxWriteFrames)
    (epoch : ConnectionEpoch) :
    Driven (R := R) B limits m e (.apply (.replyMalformed epoch)) (·.replyMalformed epoch) := by
  by_cases hep : epoch = m.epoch
  swap
  · exact driven_ignored (.stale (h.epoch ▸ hep)) .ignoredStaleEpoch none trivial (if_pos hep)
  by_cases hlive : m.phase = .live
  · rw [hep, h.epoch]
    refine driven_closed h hw hp hroom (h.phase ▸ hlive) .malformed ?_
    simp only [ConnectionMachine.replyMalformed, ne_eq, h.epoch, hlive, not_true, if_false,
      ConnectionMachine.closeInto]
  · refine driven_ignored (.input (show e.phase ≠ .live from h.phase ▸ hlive)) .ignoredInvalidPhase
      none trivial ?_
    simp only [ConnectionMachine.replyMalformed, if_neg (not_not.mpr hep), if_pos hlive]
    rfl

lemma driven_closeRequested (hroom : e.frames.length ≤ limits.maxWriteFrames)
    (epoch : ConnectionEpoch) (reason : CloseReason) :
    Driven (R := R) B limits m e (.apply (.closeRequested epoch reason))
      (·.closeRequested epoch reason) := by
  by_cases hep : epoch = m.epoch
  swap
  · exact driven_ignored (.stale (h.epoch ▸ hep)) .ignoredStaleEpoch none trivial (if_pos hep)
  by_cases hlive : m.phase = .live
  · rw [hep, h.epoch]
    refine driven_closed h hw hp hroom (h.phase ▸ hlive) (.requested reason) ?_
    simp only [ConnectionMachine.closeRequested, ne_eq, h.epoch, hlive, not_true, if_false,
      ConnectionMachine.closeInto]
  · refine driven_ignored (.input (show e.phase ≠ .live from h.phase ▸ hlive)) .ignoredInvalidPhase
      none trivial ?_
    simp only [ConnectionMachine.closeRequested, if_neg (not_not.mpr hep), if_pos hlive]
    rfl

section
omit hw

lemma driven_beginDrain (epoch : ConnectionEpoch) :
    Driven (R := R) B limits m e (.apply (.beginDrain epoch)) (·.beginDrain epoch) := by
  by_cases hep : epoch = m.epoch
  swap
  · exact driven_ignored (.stale (h.epoch ▸ hep)) .ignoredStaleEpoch none trivial (if_pos hep)
  by_cases hphase : m.phase ≠ .live ∨ m.gate = .closed ∨ m.gate = .draining
  · refine driven_ignored (.input
      (show e.phase ≠ .live ∨ e.gate = .closed ∨ e.gate = .draining from h.phase ▸ h.gate ▸ hphase))
      .ignoredInvalidPhase none trivial ?_
    simp only [ConnectionMachine.beginDrain, if_neg (not_not.mpr hep), if_pos hphase]
    rfl
  have hlive : e.phase = .live := by
    rw [← h.phase]
    by_contra hn
    exact hphase (Or.inl hn)
  have hgate : e.gate = .sessionOnly ∨ e.gate = .opened := by
    rw [← h.gate]
    cases hg : m.gate <;> simp_all
  have hpol : PolicyOf limits { m with gate := .draining } { e with gate := .draining } :=
    ⟨h.ledgerId, h.epoch, h.phase, rfl, h.closeReason, h.identities, h.pending, h.accounts⟩
  obtain ⟨m', hm, hpol'⟩ :=
    hpol.finishDrain (by simp [hlive]) (.new .applied : ConnectionTransition R)
  rw [hep, h.epoch]
  refine Or.inr ⟨⟨.applied, none, { e with gate := .draining }.drainEffects⟩, m', _, _, ?_, hpol',
    reconciles_quiet (drainEffects_quiet _) (by rw [drained_epoch])
      (by rw [drained_frames]; rfl), ?_, id,
    .draining hp hlive hgate⟩
  · show m.beginDrain e.epoch = _
    rw [ConnectionMachine.beginDrain, if_neg (by simp [h.epoch]), if_neg hphase]
    exact hm
  · rw [drained_poisoned]
    exact hp

lemma driven_epochClosed (epoch : ConnectionEpoch) :
    Driven (R := R) B limits m e (.apply (.epochClosed epoch)) (·.epochClosed epoch) := by
  by_cases hep : epoch = m.epoch
  swap
  · exact driven_ignored (.stale (h.epoch ▸ hep)) .ignoredStaleEpoch none trivial (if_pos hep)
  by_cases hphase : m.phase = .closing
  · rw [hep, h.epoch]
    refine Or.inr ⟨.new .applied, { m with phase := .closed, gate := .closed },
      { e with phase := .closed, gate := .closed }, [], ?_,
      ⟨h.ledgerId, h.epoch, rfl, rfl, h.closeReason, h.identities, h.pending, h.accounts⟩,
      reconciles_quiet (by simp [ConnectionTransition.new]) rfl rfl, hp, id,
        .confirmed hp (h.phase ▸ hphase)⟩
    simp only [ConnectionMachine.epochClosed, ne_eq, h.epoch, hphase, not_true, if_false]
  · refine driven_ignored (.input (show e.phase ≠ .closing from h.phase ▸ hphase))
      .ignoredInvalidPhase none trivial ?_
    simp only [ConnectionMachine.epochClosed, if_neg (not_not.mpr hep), if_pos hphase]
    rfl

end

theorem driven_apply (hroom : e.frames.length ≤ limits.maxWriteFrames) (input : ConnectionInput) :
    Driven (R := R) B limits m e (.apply input) (·.apply input) := by
  cases input with
  | openAdmission epoch => exact driven_openAdmission h hp epoch
  | cancel epoch operation => exact driven_cancel h hw hp epoch operation
  | deadlineElapsed epoch operation now =>
    exact driven_deadlineElapsed h hw hp hroom epoch operation now
  | replyMalformed epoch => exact driven_replyMalformed h hw hp hroom epoch
  | beginDrain epoch => exact driven_beginDrain h hp epoch
  | closeRequested epoch reason => exact driven_closeRequested h hw hp hroom epoch reason
  | epochClosed epoch => exact driven_epochClosed h hp epoch

/-- A reply the front is ready for, with its key. -/
lemma driven_replied {x : Item F} {rest : List (Item F)} (hl : e.lane = x :: rest)
    (hlive : e.phase = .live) (hready : ConnectionMachine.repliable x.record = true) (frame : R) :
    Driven B limits m e (.applyReply ⟨e.epoch, x.key, frame⟩)
      (·.applyReply ⟨e.epoch, x.key, frame⟩) := by
  have hheld : x.record.writeHeld = false := by
    simp only [ConnectionMachine.repliable, decide_eq_true_eq] at hready
    exact hready.2
  have hgone : x.write = none := by
    have hb := (hw.bound x (by simp [hl])).held
    rw [hheld] at hb
    cases hwr : x.write with
    | none => rfl
    | some w => simp [hwr] at hb
  have hacc := h.accounts_remove (show e.lane = [] ++ x :: rest from hl)
  rw [hheld] at hacc
  obtain ⟨m', hm, hpol⟩ := h.removed hw.gate hacc
    (⟨.applied, none, .cancelDeadline e.epoch x.id :: x.publish e.epoch (.reply frame)⟩ :
      ConnectionTransition R)
  refine Or.inr ⟨⟨.applied, none,
    .cancelDeadline e.epoch x.id :: x.publish e.epoch (.reply frame) ++
    { e with lane := rest }.drainEffects⟩, m', _, _, ?_, hpol, reconciles_quiet ?_ ?_ ?_, ?_, id,
    .replied hp hlive hl hready⟩
  · show m.applyReply ⟨e.epoch, x.key, frame⟩ = _
    rw [ConnectionMachine.applyReply, if_neg (by simp [h.epoch]),
      if_neg (by simp [h.phase, hlive]), h.pending,
      hl, List.map_cons]
    simp only
    rw [if_neg (by simp [hready]), if_neg (by simp [Item.key])]
    refine Eq.trans ?_ hm
    rw [h.epoch]
    by_cases ht : x.record.phase = .terminal
    · simp only [ht, ne_eq, not_true, if_false, Item.publish, Item.owed, decide_false,
        Bool.false_eq_true]
      rfl
    · simp only [ht, ne_eq, not_false_eq_true, if_true, Item.publish, Item.owed, decide_true]
      rfl
  · intro y hy
    rcases List.mem_append.mp hy with hy | hy
    · rcases List.mem_cons.mp hy with rfl | hy
      · rfl
      · exact publish_quiet _ _ _ y hy
    · exact drainEffects_quiet _ y hy
  · rw [drained_epoch]
  · rw [drained_frames]
    simp only [frames, hl, List.nil_append, List.filterMap_cons_none hgone]
  · rw [drained_poisoned]
    exact hp

theorem driven_applyReply (hroom : e.frames.length ≤ limits.maxWriteFrames)
    (reply : InboundReply R) :
    Driven B limits m e (.applyReply reply) (·.applyReply reply) := by
  obtain ⟨epoch, key, frame⟩ := reply
  by_cases hep : epoch = m.epoch
  swap
  · exact driven_ignored (.reply (Or.inl (h.epoch ▸ hep))) .ignoredStaleEpoch none trivial
      (if_pos hep)
  by_cases hlive : m.phase = .live
  swap
  · refine driven_ignored (.reply (Or.inr (h.phase ▸ hlive))) .ignoredInvalidPhase none trivial ?_
    simp only [ConnectionMachine.applyReply, if_neg (not_not.mpr hep), if_pos hlive]
    rfl
  have hlive' : e.phase = .live := h.phase ▸ hlive
  rw [hep, h.epoch]
  cases hl : e.lane with
  | nil =>
    refine driven_closed h hw hp hroom hlive' (.unexpected (by simp [hl])) ?_
    simp only [ConnectionMachine.applyReply, ne_eq, h.epoch, hlive, not_true, if_false,
      h.pending, hl,
      List.map_nil, ConnectionMachine.closeInto]
  | cons x rest =>
    cases hready : ConnectionMachine.repliable x.record
    · refine driven_closed h hw hp hroom hlive' (.unexpected ?_) ?_
      · intro y ys hy
        rw [hl] at hy
        cases hy
        exact hready
      · simp only [ConnectionMachine.applyReply, ne_eq, h.epoch, hlive, not_true, if_false,
          h.pending, hl,
          List.map_cons, hready, Bool.not_false, if_true, ConnectionMachine.closeInto]
    · by_cases hkey : key = x.key
      · rw [hkey]
        exact driven_replied h hw hp hl hlive' hready frame
      · refine driven_closed h hw hp hroom hlive' (.mismatch hl hready hkey) ?_
        have hkey' : ¬key = x.record.reservation.matchKey := hkey
        simp only [ConnectionMachine.applyReply, ne_eq, h.epoch, hlive, not_true, if_false,
          h.pending, hl,
          List.map_cons, hready, Bool.not_true, Bool.false_eq_true, hkey',
            not_false_eq_true, if_true]
        rfl

end Inputs

/-- An input does one step of the epoch. -/
theorem Refines.apply (h : Refines limits c e) (hw : e.Wf) (debug : Bool)
    (input : ConnectionInput) :
    Simulates (R := R) limits c e (.apply input)
      (.transition (ConnectionCore.apply debug input c).1)
      (ConnectionCore.apply (R := R) debug input c).2 := by
  cases hp : e.poisoned with
  | none =>
    exact h.driven hw hp debug (h.prepareInputJournal input)
      (driven_apply h.policy hw hp (h.frames_le hw) input)
  | some source =>
    rw [ConnectionCore.apply, settled_poisoned h hp]
    exact ⟨e, h, .refused (.apply input) hp, fun _ => rfl⟩

/-- A reply does one step of the epoch. -/
theorem Refines.applyReply (h : Refines limits c e) (hw : e.Wf) (debug : Bool)
    (reply : InboundReply R) :
    Simulates limits c e (.applyReply reply)
      (.transition (ConnectionCore.applyReply debug reply c).1)
      (ConnectionCore.applyReply debug reply c).2 := by
  cases hp : e.poisoned with
  | none =>
    exact h.driven hw hp debug (h.prepareReplyJournal reply)
      (driven_applyReply h.policy hw hp (h.frames_le hw) reply)
  | some source =>
    rw [ConnectionCore.applyReply, settled_poisoned h hp]
    exact ⟨e, h, .refused (.applyReply reply) hp, fun _ => rfl⟩

/-! ### Write progress -/

lemma atFront_of_frames {w : QueuedWrite F} {rest : List (QueuedWrite F)}
    (hf : e.frames = w :: rest) :
    ∃ pre x post, e.AtFront pre x w post ∧ post.filterMap Item.write = rest := by
  obtain ⟨pre, x, post, hl, hpre, hx, hrest⟩ := List.filterMap_eq_cons_iff.mp hf
  exact ⟨pre, x, post, ⟨hl, hpre, hx⟩, hrest⟩

lemma Epoch.AtFront.filterMap_pre {pre post : List (Item F)} {x : Item F} {w : QueuedWrite F}
    (h : e.AtFront pre x w post) : pre.filterMap Item.write = [] :=
  List.filterMap_eq_nil_iff.mpr h.before

/-- The frames once the item at the front has changed. -/
lemma Epoch.AtFront.frames_replace {pre post : List (Item F)} {x y : Item F} {w v : QueuedWrite F}
    (h : e.AtFront pre x w post) (hy : y.write = some v) :
    { e with lane := pre ++ y :: post }.frames = v :: post.filterMap Item.write := by
  simp only [frames, List.filterMap_append, h.filterMap_pre, List.filterMap_cons_some hy,
    List.nil_append]

lemma absorbWriteTransition_quiet {combined t : ConnectionTransition R}
    (hd : t.disposition = .applied) (hq : ∀ x ∈ t.effects, x.isDiscard = false)
    (operation : OperationId) (effect : EffectId) (c : ConnectionCore B F) :
    ConnectionCore.absorbWriteTransition combined t operation effect c =
      (.ok { combined with effects := combined.effects ++ t.effects }, c) := by
  have hrec : ConnectionCore.reconcile t c = (.ok t, c) := by
    unfold ConnectionCore.reconcile
    rw [Owner.bind_ok (reconcileEffects_quiet hq [] c), List.nil_append]
    rfl
  unfold ConnectionCore.absorbWriteTransition
  rw [if_neg (by simp [hd]), Owner.bind_ok hrec]
  rfl

/-- The item at the front while a report of `n` bytes is under way: the record has heard of it, the
frame is still as it was. -/
def Item.heard (x : Item F) (w : QueuedWrite F) (n : ℕ) : Item F := ⟨x.reported w n, x.write⟩

/-- The first half of the policy's part of a report. -/
lemma absorb_started {m : ConnectionMachine} (hm : PolicyOf limits m e) (hw : e.Wf)
    (hp : e.poisoned = none) {pre post : List (Item F)} {x : Item F} {w : QueuedWrite F}
    (hf : e.AtFront pre x w post) (n : ℕ) (complete : Bool) {c : ConnectionCore B F}
    (hc : c.machine = m) :
    ∃ m', PolicyOf limits m' { e with lane := pre ++ x.heard w n :: post } ∧
      ConnectionCore.absorbProgress (R := R) e.epoch w.effect w.operation
          (if 0 < n ∧ w.started = false then .crossed else .unchanged) complete c =
        (if complete then do
          let t ← ConnectionCore.transit (·.writeCompleted e.epoch w.operation w.effect)
          ConnectionCore.absorbWriteTransition (.new .applied) t w.operation w.effect
        else pure (.new .applied)) { c with machine := m' } := by
  by_cases hb : 0 < n ∧ w.started = false
  · obtain ⟨m', hstart, hpol⟩ := hm.writeStarted (R := R) hw hp hf hb.2
    have hheard : x.heard w n =
        { x with record := { x.record with delivery := .possiblySent, phase := .writing } } := by
      simp [Item.heard, Item.reported, hb]
    refine ⟨m', by rw [hheard]; exact hpol, ?_⟩
    have htransit : ConnectionCore.transit
      (·.writeStarted (R := R) e.epoch w.operation w.effect) c =
        (.ok (.new .applied), { c with machine := m' }) := by
      simp only [ConnectionCore.transit, Owner.update_run, hc, hstart]
    have habsorb : ConnectionCore.absorbWriteTransition (R := R) (.new .applied)
      (.new .applied) w.operation
        w.effect { c with machine := m' } = (.ok (.new .applied), { c with machine := m' }) :=
      absorbWriteTransition_quiet rfl (by simp [ConnectionTransition.new]) _ _ _
    unfold ConnectionCore.absorbProgress
    rw [if_pos hb]
    simp only [if_true]
    rw [Owner.bind_ok htransit, Owner.bind_ok habsorb]
  · refine ⟨m, ?_, ?_⟩
    · have hheard : x.heard w n = x := by simp [Item.heard, Item.reported, hb]
      rw [hheard, ← hf.lane]
      exact hm
    · unfold ConnectionCore.absorbProgress
      rw [if_neg hb]
      simp only [reduceCtorEq, if_false, Owner.pure_bind_run]
      rw [← hc]

/-- Only the epoch and the frames matter to the writer. -/
lemma WriterOf.congr {q : WriteQueue B F} (h : WriterOf limits q e) {e' : Epoch F}
    (he : e'.epoch = e.epoch) (hf : e'.frames = e.frames) : WriterOf limits q e' :=
  ⟨h.epoch.trans he.symm, h.maxFrames, h.maxRetained, h.frames.trans hf.symm, h.balanced⟩

lemma Blank.kept_progress {j : RecoveryJournal F} (h : Blank limits j) :
    Kept limits j.beginWriteProgress :=
  ⟨h.operationSlots, h.writeSlots, Nat.zero_le _, Nat.zero_le _, rfl⟩

/-- A report that fails in the writer fails as a whole, with the core as the writer left it. -/
lemma progress_failed (h : Refines limits c e) (hp : e.poisoned = none) {epoch : ConnectionEpoch}
    {effect : EffectId} {n : ℕ} {error : ConnectionCoreError} {c' : ConnectionCore B F}
    (hwriter : ConnectionCore.advanceWriter epoch effect n
      { c with journal := c.journal.beginWriteProgress } = (.error error, c')) :
    ConnectionCore.progress (R := R) epoch effect n c = (.error error, c') := by
  unfold ConnectionCore.progress
  rw [Owner.bind_ok (h.ensureHealthy hp), Owner.change_bind, Owner.bind_error hwriter]

/-- A report the writer refuses without a change leaves the core as it was. -/
lemma Refines.unmoved (h : Refines limits c e) (hp : e.poisoned = none) {epoch : ConnectionEpoch}
    {effect : EffectId} {n : ℕ} {source : WriteProgressError}
    (hadv : c.writes.advance epoch effect n = (.error source, c.writes))
    (hu : Unmoved e epoch effect source) :
    ConnectionCore.progress (R := R) epoch effect n c = (.error (.write source), c) := by
  have hwriter : ConnectionCore.advanceWriter epoch effect n
      { c with journal := c.journal.beginWriteProgress } = (.error (.write source), c) := by
    have hclear : c.journal.beginWriteProgress.clear = c.journal := by
      rw [← h.journal.clear_eq (h.unarmed hp)]
      rfl
    unfold ConnectionCore.advanceWriter
    rw [hadv]
    cases hu <;> simp only [hclear]
  exact progress_failed h hp hwriter

section Report

variable {pre post : List (Item F)} {x : Item F} {w : QueuedWrite F} {n : ℕ}
  (h : Refines limits c e) (hw : e.Wf) (hp : e.poisoned = none) (hf : e.AtFront pre x w post)
include h hw hp hf

omit hw hf in
/-- A report goes to the writer first, and from there to the policy. -/
lemma progress_accepted {report : WriteProgress F} {q : WriteQueue B F} {t : ConnectionTransition R}
    {m' : ConnectionMachine} {j : RecoveryJournal F}
    (hadv : c.writes.advance e.epoch w.effect n = (.ok report, q))
    (habs : ConnectionCore.absorbReport e.epoch w.effect report
      { c with journal := c.journal.beginWriteProgress, writes := q } =
      (.ok t, { c with machine := m', writes := q, journal := j }))
    (hl : m'.ledger.poisoned = false) :
    ConnectionCore.progress e.epoch w.effect n c =
      (.ok t, { c with machine := m', writes := q, journal := j }) := by
  have hwriter : ConnectionCore.advanceWriter e.epoch w.effect n
      { c with journal := c.journal.beginWriteProgress } =
      (.ok report, { c with journal := c.journal.beginWriteProgress, writes := q }) := by
    simp only [ConnectionCore.advanceWriter, hadv]
  have hhealthy : ConnectionCore.ensureHealthy { c with machine := m', writes := q, journal := j } =
      (.ok (), { c with machine := m', writes := q, journal := j }) :=
    ensureHealthy_ok hl (h.poisoned.trans hp)
  unfold ConnectionCore.progress
  rw [Owner.bind_ok (h.ensureHealthy hp), Owner.change_bind, Owner.bind_ok hwriter,
    Owner.bind_ok habs,
    Owner.bind_ok hhealthy]
  rfl

/-- A report that leaves the frame unfinished. -/
lemma progress_pending
    (hadv : c.writes.advance e.epoch w.effect n =
      (.ok (.pending w.operation (if 0 < n ∧ w.started = false then .crossed else .unchanged)),
        { c.writes with frames := { w with
          started := w.started || decide (0 < n), written := w.written + n } ::
            post.filterMap Item.write })) :
    ∃ m' q j, ConnectionCore.progress (R := R) e.epoch w.effect n c =
        (.ok ⟨.applied, none, []⟩, { c with machine := m', writes := q, journal := j }) ∧
      PolicyOf limits m' { e with lane := pre ++ x.progress w n :: post } ∧
      WriterOf limits q { e with lane := pre ++ x.progress w n :: post } ∧ Kept limits j := by
  obtain ⟨m', hpol, habs⟩ := absorb_started (R := R) h.policy hw hp hf n false
    (c := { c with
      journal := c.journal.beginWriteProgress
      writes := { c.writes with
        frames := { w with
          started := w.started || decide (0 < n)
          written := w.written + n } :: post.filterMap Item.write } }) rfl
  refine ⟨m', _, _, progress_accepted h hp hadv habs hpol.accounts.sound, ?_, ?_,
    h.journal.kept_progress⟩
  · exact ⟨hpol.ledgerId, hpol.epoch, hpol.phase, hpol.gate, hpol.closeReason, hpol.identities,
      hpol.pending.trans (by simp [Item.heard, Item.progress]),
      by simpa [Epoch.holdings, Item.heard, Item.progress] using hpol.accounts⟩
  · refine ⟨h.writer.epoch, h.writer.maxFrames, h.writer.maxRetained,
      (hf.frames_replace rfl).symm, ?_⟩
    refine h.writer.balanced.reframe ?_
    rw [h.writer.frames, frames, hf.lane, frames_mid hf.write, hf.filterMap_pre]
    rfl

omit hp in
/-- A finished frame and its record fit into the journal. -/
lemma journalCompletion_ok {q : WriteQueue B F} (delivery : Delivery) :
    ∃ j, ConnectionCore.journalCompletion
          ⟨w.operation, w.effect, w.frame, w.measure, w.measure.wireBytes, delivery⟩
          { c with journal := c.journal.beginWriteProgress, writes := q } =
        (.ok (), { c with journal := j, writes := q }) ∧ Kept limits j := by
  have hb := hw.bound x hf.mem
  have hindexed := (h.policy.found hw hf.lane).getIndexed
  rw [← hb.operation w hf.write] at hindexed
  have hroom : c.journal.beginWriteProgress.writes.length <
      c.journal.beginWriteProgress.writeSlots := by
    show 0 < c.journal.writeSlots
    rw [h.journal.writeSlots]
    exact limits.frames_pos
  have hkept : Kept limits { c.journal.beginWriteProgress with
      writes := c.journal.beginWriteProgress.writes ++
        [⟨w.operation, w.effect, w.frame, w.measure, w.measure.wireBytes, delivery⟩] } :=
    ⟨h.journal.operationSlots, h.journal.writeSlots, Nat.zero_le _, hroom, rfl⟩
  obtain ⟨j, hj, hk, _⟩ := retainOperation_room hkept limits.operations_pos x.record pre.length
  refine ⟨j, ?_, hk⟩
  unfold ConnectionCore.journalCompletion RecoveryJournal.retainWrite
  rw [if_pos hroom]
  simp only [hindexed, ConnectionCore.armJournal, hj]

/-- A report that finishes the frame. -/
lemma progress_complete {q : WriteQueue B F} {delivery : Delivery}
    (hq : q.epoch = c.writes.epoch ∧ q.maxFrames = c.writes.maxFrames ∧
      q.maxRetainedBytes = c.writes.maxRetainedBytes ∧ q.frames = post.filterMap Item.write)
    (hbal : q.Balanced)
    (hadv : c.writes.advance e.epoch w.effect n =
      (.ok (.complete w.operation w.effect w.frame w.measure
        (if 0 < n ∧ w.started = false then .crossed else .unchanged) delivery), q)) :
    ∃ m' j t e', ConnectionCore.progress (R := R) e.epoch w.effect n c =
        (.ok t, { c with machine := m', writes := q, journal := j }) ∧
      PolicyOf limits m' e' ∧ WriterOf limits q e' ∧ Kept limits j ∧ e'.poisoned = none ∧
      t.disposition = .applied ∧ (w.written + n = w.measure.wireBytes →
        Step e (.advanceWrite e.epoch w.effect n) (.transition (.ok t)) e') := by
  have hx := hf.mem
  have hb := hw.bound x hx
  have hsound := hw.sound hp x hx
  obtain ⟨j, hj, hk⟩ := journalCompletion_ok h hw hf (q := q) delivery
  obtain ⟨m₁, hpol, habs⟩ := absorb_started (R := R) h.policy hw hp hf n true
    (c := { c with journal := j, writes := q }) rfl
  have hids : ∀ y ∈ pre, y.id ≠ (x.heard w n).id := by
    have hid := hw.operations.of_append_right
    rw [hf.lane] at hid
    rw [show (x.heard w n).id = x.id from Item.reported_id]
    exact (ne_key_of_nodup hid).1
  have hfound := hpol.found_first rfl hids
  have hphase : (x.heard w n).record.phase ≠ .awaitingReply := by
    show (x.reported w n).phase ≠ .awaitingReply
    unfold Item.reported
    split
    · simp
    · cases hsound with
      | awaiting gone => exact absurd hf.write (by simp [gone])
      | queued _ _ phase => simp [phase]
      | started _ _ phase => rcases phase with hph | hph <;> simp [hph]
  have hheld : (x.heard w n).record.writeHeld = true := by
    show (x.reported w n).writeHeld = true
    rw [Item.reported_held, hb.held, hf.write]
    rfl
  have hid : (x.heard w n).id = w.operation := Item.reported_id.trans (hb.operation w hf.write).symm
  have heff : (x.heard w n).record.effect = w.effect :=
    Item.reported_effect.trans (hb.effect w hf.write).symm
  have hreport : ∀ {m' : ConnectionMachine} {t : ConnectionTransition R},
      m₁.writeCompleted e.epoch w.operation w.effect = (t, m') → t.disposition = .applied →
      t.cancelOutcome = none → (∀ y ∈ t.effects, y.isDiscard = false) →
      ConnectionCore.absorbReport e.epoch w.effect
        (.complete w.operation w.effect w.frame w.measure
          (if 0 < n ∧ w.started = false then .crossed else .unchanged) delivery)
        { c with journal := c.journal.beginWriteProgress, writes := q } =
      (.ok t, { c with machine := m', writes := q, journal := j }) := by
    intro m' t hm hd hcan hquiet
    have htransit : ConnectionCore.transit (·.writeCompleted (R := R) e.epoch w.operation w.effect)
        { c with machine := m₁, writes := q, journal := j } =
        (.ok t, { c with machine := m', writes := q, journal := j }) := by
      simp only [ConnectionCore.transit, Owner.update_run, hm]
    rw [ConnectionCore.absorbReport, Owner.bind_ok hj, habs, if_pos rfl, Owner.bind_ok htransit,
      absorbWriteTransition_quiet hd hquiet w.operation w.effect]
    cases t
    cases hd
    cases hcan
    rfl
  have hwriter : ∀ {e' : Epoch F}, e'.epoch = e.epoch → e'.frames = post.filterMap Item.write →
      WriterOf limits q e' := by
    intro e' he hfr
    exact ⟨(hq.1.trans h.writer.epoch).trans he.symm, hq.2.1.trans h.writer.maxFrames,
      hq.2.2.1.trans h.writer.maxRetained, hq.2.2.2.trans hfr.symm, hbal⟩
  obtain ⟨hreply, hplain⟩ := hpol.writeCompleted (R := R) hw.gate rfl hfound hheld hphase
  rw [hid, heff] at hreply hplain
  cases hcomp : x.record.completion with
  | replyExpected =>
    obtain ⟨m', hm, hpol'⟩ := hreply (Item.reported_completion.trans hcomp)
    refine ⟨m', j, .new .applied, { e with lane := pre ++ x.finish w n :: post },
      progress_accepted h hp hadv (hreport hm rfl rfl (by simp [ConnectionTransition.new]))
        hpol'.accounts.sound, hpol', hwriter rfl ?_, hk, hp, rfl, fun hwhole =>
          .finished hp hf hwhole hcomp⟩
    simp only [frames, List.filterMap_append, hf.filterMap_pre, List.nil_append]
    exact List.filterMap_cons_none rfl
  | writeComplete =>
    obtain ⟨m', hm, hpol'⟩ := hplain (Item.reported_completion.trans hcomp)
    have howed : (x.heard w n).owed = x.owed := by
      simp only [Item.owed, Item.heard, ne_eq, Item.reported_terminal hsound hf.write]
    have hpublish : (x.heard w n).publish (R := R) e.epoch
      (.writeComplete (x.heard w n).record.delivery) =
        x.publish e.epoch (.writeComplete (x.reported w n).delivery) := by
      unfold Item.publish
      rw [howed, show (x.heard w n).id = x.id from Item.reported_id]
      rfl
    rw [hpublish, hb.operation w hf.write] at hm
    refine ⟨m', j, _, { e with lane := pre ++ post }.drained,
      progress_accepted h hp hadv (hreport (by rw [hb.operation w hf.write]; exact hm) rfl rfl ?_)
        hpol'.accounts.sound, hpol', hwriter ?_ ?_, hk, ?_, rfl, fun hwhole =>
          .completed hp hf hwhole hcomp⟩
    · intro y hy
      rcases List.mem_append.mp hy with hy | hy
      · rcases List.mem_cons.mp hy with rfl | hy
        · rfl
        · exact publish_quiet _ _ _ y hy
      · exact drainEffects_quiet _ y hy
    · rw [drained_epoch]
    · rw [drained_frames]
      simp only [frames, List.filterMap_append, hf.filterMap_pre, List.nil_append]
    · rw [drained_poisoned]
      exact hp

omit hw in
/-- A report of more bytes than the frame has left poisons the core. -/
lemma progress_overran (hadv : c.writes.advance e.epoch w.effect n =
      (.error (.exceedsRemaining n (w.measure.wireBytes - w.written)),
        { c.writes with frames := { w with started := true } :: post.filterMap Item.write })) :
    ∃ c', ConnectionCore.progress (R := R) e.epoch w.effect n c =
        (.error (.invariant (.writeProgressContract n (w.measure.wireBytes - w.written))), c') ∧
      Refines limits c' { e with
        lane := pre ++ x.overrun w :: post
        poisoned := some (.writeProgressContract n (w.measure.wireBytes - w.written)) } ∧
      Kept limits c'.journal := by
  have hwriter : ConnectionCore.advanceWriter e.epoch w.effect n
      { c with journal := c.journal.beginWriteProgress } =
      (.error (.invariant (.writeProgressContract n (w.measure.wireBytes - w.written))),
        { c with
          writes := { c.writes with
            frames := { w with started := true } :: post.filterMap Item.write }
          journal := c.journal.beginWriteProgress
          poisoned := some (.writeProgressContract n (w.measure.wireBytes - w.written)) }) := by
    unfold ConnectionCore.advanceWriter
    rw [hadv]
    simp only [ConnectionCore.poison, h.poisoned.trans hp]
    rfl
  refine ⟨_, progress_failed h hp hwriter, ?_, h.journal.kept_progress⟩
  have hpol := h.policy
  refine ⟨?_, ⟨h.writer.epoch, h.writer.maxFrames, h.writer.maxRetained, ?_, ?_⟩, rfl,
    ⟨h.journal.operationSlots, h.journal.writeSlots, rfl, rfl, rfl⟩, fun hn => by simp at hn⟩
  · refine ⟨hpol.ledgerId, hpol.epoch, hpol.phase, hpol.gate, hpol.closeReason,
      hpol.identities, ?_, ?_⟩
    · simp [hpol.pending, hf.lane, Item.overrun]
    · simpa [Epoch.holdings, hf.lane, Item.overrun] using hpol.accounts
  · exact (hf.frames_replace rfl).symm
  · refine h.writer.balanced.reframe ?_
    rw [h.writer.frames, frames, hf.lane, frames_mid hf.write, hf.filterMap_pre]
    rfl

end Report

/-- The outcomes of a report on a healthy core, just before the journal is cleared: the writer
refuses it without a change, both follow it, or it breaks the contract. -/
inductive Reports (limits : ConnectionLimits) (c : ConnectionCore B F) (e : Epoch F)
    (epoch : ConnectionEpoch) (effect : EffectId)
    (n : ℕ) : Except ConnectionCoreError (ConnectionTransition R) × ConnectionCore B F → Prop where
  | unmoved {source : WriteProgressError} (unmoved : Unmoved e epoch effect source) :
    Reports limits c e epoch effect n (.error (.write source), c)
  | moved {t : ConnectionTransition R} {m : ConnectionMachine} {q : WriteQueue B F}
    {j : RecoveryJournal F}
    {e' : Epoch F} (policy : PolicyOf limits m e') (writer : WriterOf limits q e')
    (kept : Kept limits j)
    (healthy : e'.poisoned = none) (applied : t.disposition = .applied)
    (step : Step e (.advanceWrite epoch effect n) (.transition (.ok t)) e') :
    Reports limits c e epoch effect n (.ok t, { c with machine := m, writes := q, journal := j })
  | overran {source : ConnectionCoreInvariant} {c' : ConnectionCore B F} {e' : Epoch F}
    (refines : Refines limits c' e') (kept : Kept limits c'.journal)
    (step : Step (R := R) e (.advanceWrite epoch effect n)
      (.transition (.error (.invariant source))) e') :
    Reports limits c e epoch effect n (.error (.invariant source), c')

/-- A report of progress at the front of the writer. -/
lemma reports_front (h : Refines limits c e) (hw : e.Wf) (hp : e.poisoned = none)
    {pre post : List (Item F)} {x : Item F} {w : QueuedWrite F} (hf : e.AtFront pre x w post)
    (n : ℕ) :
    Reports (R := R) limits c e e.epoch w.effect n
      (ConnectionCore.progress e.epoch w.effect n c) := by
  have hb := hw.bound x hf.mem
  have hq : c.writes.frames = w :: post.filterMap Item.write := by
    rw [h.writer.frames, frames, hf.lane, frames_mid hf.write, hf.filterMap_pre, List.nil_append]
  rcases h.writer.balanced.advance hq (hb.written w hf.write) h.writer.epoch.symm n with
    ⟨hover, hadv⟩ | ⟨hlt, hadv⟩ | ⟨hwhole, budget, hadv, hbal⟩
  · obtain ⟨c', hrun, href, hk⟩ := progress_overran (R := R) h hp hf hadv
    rw [hrun]
    exact .overran href hk (.overran hp hf (by omega))
  · obtain ⟨m', q, j, hrun, hpol, hwriter, hk⟩ := progress_pending (R := R) h hw hp hf hadv
    rw [hrun]
    exact .moved hpol hwriter hk hp rfl (.progressed hp hf hlt)
  · obtain ⟨m', j, t, e', hrun, hpol, hwriter, hk, hp', hd, hstep⟩ :=
      progress_complete (R := R) h hw hp hf (by exact ⟨rfl, rfl, rfl, rfl⟩) hbal hadv
    rw [hrun]
    exact .moved hpol hwriter hk hp' hd (hstep hwhole)

theorem Refines.reports (h : Refines limits c e) (hw : e.Wf) (hp : e.poisoned = none)
    (epoch : ConnectionEpoch) (effect : EffectId) (n : ℕ) :
    Reports (R := R) limits c e epoch effect n (ConnectionCore.progress epoch effect n c) := by
  have hunmoved : ∀ {source : WriteProgressError},
      c.writes.advance epoch effect n = (.error source, c.writes) → Unmoved e epoch effect source →
      Reports (R := R) limits c e epoch effect n (ConnectionCore.progress epoch effect n c) := by
    intro source hadv hu
    rw [h.unmoved hp hadv hu]
    exact .unmoved hu
  by_cases hep : epoch = e.epoch
  swap
  · refine hunmoved ?_ (.stale hep)
    unfold WriteQueue.advance
    rw [if_pos (by rw [h.writer.epoch]; exact hep), h.writer.epoch]
  have hcur : ¬(epoch ≠ c.writes.epoch) := by rw [h.writer.epoch]; exact not_not.mpr hep
  cases hfr : e.frames with
  | nil =>
    refine hunmoved ?_ (.idle hep hfr)
    unfold WriteQueue.advance
    rw [if_neg hcur, h.writer.frames, hfr]
  | cons w rest =>
    by_cases heff : w.effect = effect
    · obtain ⟨pre, x, post, hf, _⟩ := atFront_of_frames hfr
      rw [hep, ← heff]
      exact reports_front h hw hp hf n
    · refine hunmoved ?_ (.disordered hep hfr heff)
      unfold WriteQueue.advance
      rw [if_neg hcur, h.writer.frames, hfr]
      simp only
      rw [if_pos heff]

/-- A report of write progress does one step of the epoch. -/
theorem Refines.advanceWrite (h : Refines limits c e) (hw : e.Wf) (epoch : ConnectionEpoch)
    (effect : EffectId) (n : ℕ) :
    Simulates (R := R) limits c e (.advanceWrite epoch effect n)
      (.transition (ConnectionCore.advanceWrite epoch effect n c).1)
      (ConnectionCore.advanceWrite (R := R) epoch effect n c).2 := by
  have herror : ∀ {error : ConnectionCoreError} {c' : ConnectionCore B F},
      ConnectionCore.progress (R := R) epoch effect n c = (.error error, c') →
      ConnectionCore.advanceWrite (R := R) epoch effect n c = (.error error, c') := by
    intro error c' hrun
    unfold ConnectionCore.advanceWrite ConnectionCore.settled
    rw [Owner.bind_error hrun]
  cases hp : e.poisoned with
  | some source =>
    have hrun : ConnectionCore.progress (R := R) epoch effect n c =
        (.error (.poisoned source), c) := by
      unfold ConnectionCore.progress
      rw [Owner.bind_error (h.ensureHealthy_poisoned hp)]
    rw [herror hrun]
    exact ⟨e, h, .refused (.advanceWrite epoch effect n) hp, fun _ => rfl⟩
  | none =>
    have hreports := h.reports (R := R) hw hp epoch effect n
    generalize hrun : ConnectionCore.progress (R := R) epoch effect n c = result at hreports
    cases hreports with
    | unmoved unmoved =>
      rw [herror hrun]
      exact ⟨e, h, .unmoved hp unmoved n, fun _ => rfl⟩
    | moved policy writer kept healthy applied step =>
      obtain ⟨hset, href⟩ := h.settled hp hrun policy writer kept healthy
      rw [ConnectionCore.advanceWrite, hset]
      refine ⟨_, href, step, fun hquiet => ?_⟩
      simp only [Response.Quiet, applied] at hquiet
      exact hquiet.elim
    | overran refines _ step =>
      rw [herror hrun]
      exact ⟨_, refines, step, fun hquiet => hquiet.elim⟩

/-! ### Permits -/

/-- A reservation does one step of the epoch. -/
theorem Refines.reserve (h : Refines limits c e) (hw : e.Wf) (debug : Bool) (now : ℕ)
    (options : OperationOptions) :
    Simulates (R := R) limits c e (.reserve now options) (.reserved (c.reserve debug now options).1)
      (c.reserve debug now options).2 := by
  cases hp : e.poisoned with
  | some source =>
    unfold ConnectionCore.reserve
    rw [h.guardAdmission_poisoned hp]
    exact ⟨e, h, .reserveRefused e now options _, fun _ => rfl⟩
  | none =>
    unfold ConnectionCore.reserve
    rw [h.guardAdmission hw hp]
    simp only
    rcases h.policy.reserve now options with
      ⟨error, hres, _⟩ | ⟨p, m', operation, effect, hres, ho, he, hpo, hpe, hpl, hpep, hfresh,
        hadmits, hpol⟩
    · rw [hres]
      exact ⟨e, h, .reserveRefused e now options error, fun _ => rfl⟩
    · rw [hres]
      refine ⟨_, ⟨hpol, h.writer.congr rfl rfl, h.poisoned, h.journal, h.unarmed⟩,
        .reserved hp ho he ⟨hpo, hpe⟩ ⟨hpl, hpep⟩ ?_ hadmits, fun hquiet => hquiet.elim⟩
      simpa [Epoch.holdings, Function.comp_def, Holding.key, Holding.ofPermit,
        Holding.ofRecord, Item.key]
        using hfresh

/-- A healthy core does not answer a reservation as a poisoned one. -/
lemma Refines.reserve_healthy (h : Refines limits c e) (hw : e.Wf) (hp : e.poisoned = none)
    (debug : Bool) (now : ℕ)
    (options : OperationOptions) : (c.reserve debug now options).1 ≠ .error .ownerPoisoned := by
  unfold ConnectionCore.reserve
  rw [h.guardAdmission hw hp]
  simp only
  rcases h.policy.reserve now options
    with ⟨error, hres, hsound⟩ | ⟨p, m', operation, effect, hres, -⟩
  · rw [hres]
    exact fun heq => hsound (Except.error.inj heq)
  · rw [hres]
    exact fun heq => nomatch heq

/-- The drop of a live permit does one step of the epoch. -/
theorem Refines.dropPermit (h : Refines limits c e) {p : OperationPermit} {index : ℕ}
    (hlive : e.permits[index]? = some p) :
    Refines limits (c.dropPermit p) { e with permits := e.permits.eraseIdx index } :=
  ⟨h.policy.dropped hlive, h.writer.congr rfl rfl, h.poisoned, h.journal, h.unarmed⟩

/-- The room a permit holds in the writer. -/
lemma Refines.permit_room (h : Refines limits c e) (hw : e.Wf) {p : OperationPermit} {index : ℕ}
    (hlive : e.permits[index]? = some p) :
    e.frames.length < limits.maxWriteFrames ∧
      WriteQueue.charge e.frames + p.reservation.writeRetainedBytes ≤
        limits.maxWriteRetainedBytes := by
  have hmem : p ∈ e.permits := List.mem_of_getElem? hlive
  have hpos : 0 < e.permits.length := List.length_pos_of_mem hmem
  have hsum : p.reservation.writeRetainedBytes ≤
      (e.permits.map fun p => p.reservation.writeRetainedBytes).sum :=
    List.single_le_sum (fun _ _ => Nat.zero_le _) _ (List.mem_map_of_mem hmem)
  have h1 := h.writeFrames hw
  have h2 := h.writeRetained hw
  have h3 := h.policy.accounts.frames_le
  have h4 := h.policy.accounts.writeRetained_le
  omega

/-- A commit does one step of the epoch. -/
theorem Refines.commit (h : Refines limits c e) (hw : e.Wf) (debug : Bool) {p : OperationPermit}
    {index : ℕ} (hlive : e.permits[index]? = some p) (frame : F) (view : FrameView F) :
    Simulates (R := R) limits c e (.commit index frame view)
      (.committed (c.commit debug p frame view).1)
      (c.commit (R := R) debug p frame view).2 := by
  have hmem : p ∈ e.permits := List.mem_of_getElem? hlive
  cases hp : e.poisoned with
  | some source =>
    unfold ConnectionCore.commit
    rw [h.guardAdmission_poisoned hp]
    exact ⟨e, h, .commitRefused hlive frame view .ownerPoisoned, fun _ => rfl⟩
  | none =>
  unfold ConnectionCore.commit
  rw [h.guardAdmission hw hp]
  simp only
  cases hfail : c.machine.commitFailure p (FrameMeasure.capture view frame).retainedBytes with
  | some kind => exact ⟨e, h, .commitRefused hlive frame view kind, fun _ => rfl⟩
  | none =>
    unfold ConnectionMachine.commitFailure at hfail
    split at hfail
    · cases hfail
    split at hfail
    · cases hfail
    split at hfail
    · cases hfail
    next hadmit hsmall =>
    have hadmit' : e.gate.admits p.admissionClass = true := by
      rw [← h.policy.gate]
      simpa using hadmit
    obtain ⟨hroom, hbytes⟩ := h.permit_room hw hlive
    have hle : (FrameMeasure.capture view frame).retainedBytes ≤
      p.reservation.writeRetainedBytes := by omega
    have hnew : ∀ w ∈ c.writes.frames, w.operation ≠ p.operation ∧ w.effect ≠ p.effect := by
      intro w hwm
      rw [h.writer.frames] at hwm
      obtain ⟨y, hy, hyw⟩ := List.mem_filterMap.mp hwm
      have hb := hw.bound y hy
      have hop := List.nodup_append.mp hw.operations
      have heff := List.nodup_append.mp hw.effects
      refine ⟨?_, ?_⟩
      · rw [hb.operation w hyw]
        exact fun heq => hop.2.2 _ (List.mem_map_of_mem hmem) _ (List.mem_map_of_mem hy) heq.symm
      · rw [hb.effect w hyw]
        exact fun heq => heff.2.2 _ (List.mem_map_of_mem hmem) _ (List.mem_map_of_mem hy) heq.symm
    obtain ⟨budget, hadm, hbal⟩ :=
      h.writer.balanced.admitWrite (FrameMeasure.capture view frame) frame
      (fun w hwm => (hnew w hwm).1) (fun w hwm => (hnew w hwm).2)
      (by rw [h.writer.frames, h.writer.maxFrames]; exact hroom)
      (by rw [h.writer.frames, h.writer.maxRetained]; omega)
    rw [h.writer.epoch, ← (hw.home p hmem).2] at hadm
    obtain ⟨haccepted, hpol⟩ := h.policy.commitPermit (R := R) hlive frame hle
    rw [hadm]
    simp only [haccepted]
    refine ⟨_, ⟨hpol, ⟨?_, h.writer.maxFrames, h.writer.maxRetained, ?_, ?_⟩, h.poisoned,
      h.journal, h.unarmed⟩,
      .committed hp hlive hadmit', fun hquiet => hquiet.elim⟩
    · exact (hw.home p hmem).2
    · show c.writes.frames ++ _ = _
      rw [h.writer.frames, frames, frames, List.filterMap_append]
      rfl
    · rw [h.writer.epoch, ← (hw.home p hmem).2] at hbal
      exact hbal

/-- A healthy core does not answer a commit as a poisoned one. -/
lemma Refines.commit_healthy (h : Refines limits c e) (hw : e.Wf) (hp : e.poisoned = none)
    (debug : Bool) (p : OperationPermit) (frame : F) (view : FrameView F)
    {error : FrameCommitError F}
    (herror : (c.commit (R := R) debug p frame view).1 = .error error) :
    error.failure ≠ .policy .ownerPoisoned := by
  unfold ConnectionCore.commit at herror
  rw [h.guardAdmission hw hp] at herror
  simp only at herror
  split at herror
  · next kind hfail =>
    cases herror
    unfold ConnectionMachine.commitFailure at hfail
    split at hfail
    · cases hfail
      simp
    · split at hfail
      · cases hfail
        simp
      · split at hfail <;> cases hfail
        simp
  · split at herror
    · cases herror
      simp
    · cases herror

/-- A permit of another ledger is refused. -/
theorem Refines.commitForeign (h : Refines limits c e) (hw : e.Wf) (debug : Bool)
    {p : OperationPermit} (hforeign : p.ledger ≠ c.machine.ledgerId) (frame : F)
    (view : FrameView F) :
    Simulates (R := R) limits c e (.commitForeign p frame view)
      (.committed (c.commit debug p frame view).1)
      (c.commit (R := R) debug p frame view).2 := by
  cases hp : e.poisoned with
  | some source =>
    unfold ConnectionCore.commit
    rw [h.guardAdmission_poisoned hp]
    exact ⟨e, h, .foreignRefused e p frame view .ownerPoisoned, fun _ => rfl⟩
  | none =>
    unfold ConnectionCore.commit
    rw [h.guardAdmission hw hp]
    have hfail : c.machine.commitFailure p (FrameMeasure.capture view frame).retainedBytes =
        some .foreignPermit :=
      if_pos (Or.inl fun heq => hforeign heq.symm)
    simp only [hfail]
    exact ⟨e, h, .foreignRefused e p frame view .foreignPermit, fun _ => rfl⟩

/-! ### The write front -/

/-- A look at the write front does one step of the epoch. -/
theorem Refines.frontWrite (h : Refines limits c e) (hw : e.Wf) (view : FrameView F) (maximum : ℕ) :
    Simulates (R := R) limits c e (.frontWrite view maximum)
      (.offered (c.frontWrite view maximum).1)
      (c.frontWrite view maximum).2 := by
  cases hp : e.poisoned with
  | some source =>
    unfold ConnectionCore.frontWrite
    rw [h.poisoned, hp]
    exact ⟨e, h, .offerRefused hp view maximum, fun _ => rfl⟩
  | none =>
    unfold ConnectionCore.frontWrite
    rw [h.poisoned, hp]
    simp only [h.policy.accounts.sound, Bool.false_eq_true, if_false]
    cases hfr : e.frames with
    | nil =>
      unfold WriteQueue.front
      rw [h.writer.frames, hfr]
      exact ⟨e, h, .offered hp (.nothing hfr), fun _ => rfl⟩
    | cons w rest =>
      obtain ⟨pre, x, post, hf, _⟩ := atFront_of_frames hfr
      have hwritten := (hw.bound x hf.mem).written w hf.write
      unfold WriteQueue.front
      rw [h.writer.frames, hfr]
      simp only
      by_cases hlen : (view.bytes w.frame).length = w.measure.wireBytes
      · have hrange : getRange (view.bytes w.frame) w.written w.measure.wireBytes =
            some ((view.bytes w.frame).drop w.written) := by
          unfold getRange
          rw [if_pos ⟨hwritten, hlen.ge⟩, ← hlen, List.take_length]
        have hoffer : ∀ bytes : List UInt8, getRange bytes 0 (min bytes.length maximum) =
            some (bytes.take maximum) := by
          intro bytes
          unfold getRange
          rw [if_pos ⟨Nat.zero_le _, Nat.min_le_left _ _⟩, List.drop_zero, Nat.min_comm,
            ← List.take_take, List.take_length]
        rw [if_neg (not_not.mpr hlen), hrange]
        simp only [hoffer, h.writer.epoch]
        exact ⟨e, h, .offered hp (.slice hfr hlen), fun _ => rfl⟩
      · rw [if_pos hlen]
        simp only [ConnectionCore.poison, h.poisoned.trans hp]
        refine ⟨{ e with poisoned := some (.frameContractViolation _) },
          ⟨?_, h.writer.congr rfl rfl, rfl, h.journal, fun hn => by cases hn⟩,
          .reshaped hp hfr hlen maximum, fun hquiet => hquiet.elim⟩
        have hpol := h.policy
        exact ⟨hpol.ledgerId, hpol.epoch, hpol.phase, hpol.gate, hpol.closeReason, hpol.identities,
          hpol.pending, hpol.accounts⟩

/-! ### Recovery -/

/-- Without journal entries the wire-order loop takes the records as they stand. -/
lemma recoverIndices_plain (indices : List ℕ) (current : List OperationRecord) (s : Recovering F)
    (hlen : indices.length = current.length) :
    Recovering.recoverIndices [] indices [] current s =
      ([], [], current.foldl Recovering.recoverCurrentOperation s) := by
  induction indices generalizing current s with
  | nil =>
    obtain rfl := List.eq_nil_of_length_eq_zero hlen.symm
    rfl
  | cons i is ih =>
    cases current with
    | nil => simp at hlen
    | cons r rs =>
      rw [Recovering.recoverIndices]
      simp only [List.filter_nil, List.not_mem_nil, not_false_eq_true, decide_true,
        removeFirst, if_true]
      exact ih rs _ (by simpa using hlen)

lemma recoverInWireOrder_plain (current : List OperationRecord) (s : Recovering F) :
    s.recoverInWireOrder [] current = current.foldl Recovering.recoverCurrentOperation s := by
  simp [Recovering.recoverInWireOrder,
    recoverIndices_plain (List.range current.length) current s List.length_range]

/-- One record of the lane meets its own frame and leaves the others alone. -/
lemma recoverCurrentOperation_item {x : Item F} {xs : List (Item F)} (hb : ∀ y ∈ x :: xs, y.Bound)
    (hids : ((x :: xs).map Item.id).Nodup) (l : ReservationLedger)
    (operations : List (RecoveredOperation F)) (diverged : Bool) :
    Recovering.recoverCurrentOperation
        ⟨l, ((x :: xs).filterMap Item.write).map QueuedWrite.intoDiscarded, operations,
          diverged⟩ x.record =
      ⟨l.releaseOperation x.record.reservation x.record.writeHeld,
        (xs.filterMap Item.write).map QueuedWrite.intoDiscarded,
        operations ++ ([x].filter Item.owed).map Item.recovered, diverged⟩ := by
  have hx := hb x (List.mem_cons_self ..)
  have howed : [x].filter Item.owed = if x.record.phase ≠ .terminal then [x] else [] := by
    by_cases ht : x.record.phase = .terminal <;> simp [Item.owed, ht]
  cases hwr : x.write with
  | none =>
    have hheld : x.record.writeHeld = false := by rw [hx.held, hwr]; rfl
    have hnone : takeWrite ((xs.filterMap Item.write).map QueuedWrite.intoDiscarded) x.record.id
        x.record.effect = none := by
      refine removeFirst_none fun d hd => ?_
      obtain ⟨w, hw, rfl⟩ := List.mem_map.mp hd
      obtain ⟨y, hy, hyw⟩ := List.mem_filterMap.mp hw
      rw [List.map_cons, List.nodup_cons] at hids
      refine decide_eq_false fun hd => hids.1 ?_
      rw [show x.id = y.id from hd.1.symm.trans
        ((hb y (List.mem_cons_of_mem _ hy)).operation w hyw)]
      exact List.mem_map_of_mem hy
    rw [List.filterMap_cons_none hwr, howed]
    simp only [Recovering.recoverCurrentOperation, Recovering.pairWrite, hnone, hheld]
    by_cases ht : x.record.phase = .terminal
    · simp [ht]
    · simp [ht, Item.recovered, Item.id, Item.delivery, hwr]
  | some w =>
    have hheld : x.record.writeHeld = true := by rw [hx.held, hwr]; rfl
    have htake : takeWrite (w.intoDiscarded ::
      (xs.filterMap Item.write).map QueuedWrite.intoDiscarded)
        x.record.id x.record.effect =
        some (w.intoDiscarded, (xs.filterMap Item.write).map QueuedWrite.intoDiscarded) := by
      refine removeFirst_mid (show ∀ y ∈ ([] : List (DiscardedWrite F)), _ = false from by simp)
        (decide_eq_true ⟨?_, ?_⟩)
      · exact hx.operation w hwr
      · exact hx.effect w hwr
    rw [List.filterMap_cons_some hwr, List.map_cons, howed]
    simp only [Recovering.recoverCurrentOperation, Recovering.pairWrite, htake, hheld]
    by_cases ht : x.record.phase = .terminal
    · simp [ht]
    · simp [ht, Item.recovered, Item.id, Item.delivery, hwr, QueuedWrite.intoDiscarded]

/-- The loop over the records of a lane. -/
lemma recover_lane (lane : List (Item F)) (hb : ∀ y ∈ lane, y.Bound)
    (hids : (lane.map Item.id).Nodup) (l : ReservationLedger)
    (operations : List (RecoveredOperation F)) (diverged : Bool) :
    (lane.map Item.record).foldl Recovering.recoverCurrentOperation
        ⟨l, (lane.filterMap Item.write).map QueuedWrite.intoDiscarded, operations, diverged⟩ =
      ⟨(lane.map Item.record).foldl (fun l r => l.releaseOperation r.reservation r.writeHeld) l, [],
        operations ++ (lane.filter Item.owed).map Item.recovered, diverged⟩ := by
  induction lane generalizing l operations with
  | nil => simp
  | cons x xs ih =>
    rw [List.map_cons, List.foldl_cons, recoverCurrentOperation_item hb hids]
    rw [List.map_cons, List.nodup_cons] at hids
    rw [ih (fun y hy => hb y (List.mem_cons_of_mem _ hy)) hids.2]
    cases ho : x.owed <;> simp [ho]

/-- Recovery does one step of the epoch. -/
theorem Refines.recover (h : Refines limits c e) (hw : e.Wf) :
    Simulates (R := R) limits c e .recover (.recovered c.recover.1) c.recover.2 := by
  have hfold := recover_lane e.lane hw.bound hw.operations.of_append_right c.machine.ledger []
    (c.journal.armed || false)
  rw [← h.policy.pending] at hfold
  have hacc : Accounts limits
      (c.machine.matching.pending.foldl (fun l r => l.releaseOperation r.reservation r.writeHeld)
        c.machine.ledger) (e.permits.map Holding.ofPermit) := by
    refine PolicyOf.accounts_foldl ?_
    rw [h.policy.pending, List.map_map]
    exact h.policy.accounts.perm List.perm_append_comm
  have hs : (⟨c.machine.ledger, c.writes.frames.map QueuedWrite.intoDiscarded ++ [], [],
      c.journal.armed || false⟩ : Recovering F).recoverInWireOrder [] c.machine.matching.pending =
      ⟨c.machine.matching.pending.foldl (fun l r => l.releaseOperation r.reservation r.writeHeld)
        c.machine.ledger, [], (e.lane.filter Item.owed).map Item.recovered, c.journal.armed ||
            false⟩ := by
    rw [recoverInWireOrder_plain, List.append_nil, h.writer.frames]
    exact hfold
  have hrun : c.recover =
      (⟨e.epoch, (e.lane.filter Item.owed).map Item.recovered, [], c.journal.armed || false⟩,
        { machine := { c.machine with
            ledger := c.machine.matching.pending.foldl
              (fun l r => l.releaseOperation r.reservation r.writeHeld) c.machine.ledger
            matching.pending := [] }
          writes := c.writes.discardAll.2
          journal := { c.journal with
            operations := [], writes := [], overflowWrite := none, armed := false }
          poisoned := c.poisoned <|> some .recovered }) := by
    simp only [ConnectionCore.recover, WriteQueue.discardAll, RecoveryJournal.takeWrites,
      RecoveryJournal.takeOperations, h.journal.operations, h.journal.writes, h.journal.overflow,
      Option.toList_none, List.isEmpty_nil, Bool.not_true, List.append_nil, h.policy.epoch]
    rw [← List.append_nil (c.writes.frames.map QueuedWrite.intoDiscarded), hs]
    simp only [List.isEmpty_nil, if_true, hacc.sound, Bool.false_eq_true, if_false]
  rw [hrun]
  have hpol := h.policy
  refine ⟨_, ⟨?_, ?_, ?_, ?_, ?_⟩, .recovered e _, fun hquiet => hquiet.elim⟩
  · refine ⟨hpol.ledgerId, hpol.epoch, hpol.phase, hpol.gate, hpol.closeReason,
      hpol.identities, rfl, ?_⟩
    simpa [Epoch.holdings] using hacc
  · exact ⟨h.writer.epoch, h.writer.maxFrames, h.writer.maxRetained, rfl,
      h.writer.balanced.discardAll⟩
  · rw [h.poisoned]
  · exact ⟨h.journal.operationSlots, h.journal.writeSlots, rfl, rfl, rfl⟩
  · exact fun _ => rfl

/-! ### Runs -/

lemma drained_permits (e : Epoch F) : e.drained.permits = e.permits := by
  unfold Epoch.drained
  split <;> rfl

/-- The world is in the state of the epoch. -/
structure Holds (limits : ConnectionLimits) (w : World B F) (e : Epoch F) : Prop where
  core : Refines limits w.core e
  permits : w.permits = e.permits
  wf : e.Wf

/-- One call of the code: one step of the epoch, and none of the world when the answer is quiet. -/
def Follows (limits : ConnectionLimits) (w : World B F) (e : Epoch F) (call : Call F R)
    (after : World B F × Response F R) : Prop :=
  ∃ e', Holds limits after.1 e' ∧ Step e call after.2 e' ∧ (after.2.Quiet → after.1 = w)

lemma Simulates.follows {w : World B F} (h : Holds limits w e) {call : Call F R} {r : Response F R}
    {c' : ConnectionCore B F} (hs : Simulates limits w.core e call r c')
    (hkeep : ∀ {e'}, Step e call r e' → e'.permits = e.permits) :
    Follows limits w e call ({ w with core := c' }, r) := by
  obtain ⟨e', href, hstep, hquiet⟩ := hs
  exact ⟨e', ⟨href, h.permits.trans (hkeep hstep).symm, hstep.wf h.wf⟩, hstep,
    fun hq => World.ext (hquiet hq) rfl⟩

/-- The call takes no permit and gives none. -/
def Call.KeepsPermits : Call F R → Prop
  | .reserve _ _ | .commit _ _ _ | .dropPermit _ => False
  | _ => True

lemma Epoch.Step.permits_eq {call : Call F R} {r : Response F R} {e' : Epoch F}
    (h : Step e call r e') (hc : call.KeepsPermits) : e'.permits = e.permits := by
  cases h <;> first | exact hc.elim | rfl | exact drained_permits _

/-- **One call of the code is one step of the epoch**, and a quiet one leaves
the world as it was. -/
theorem follows_step {w : World B F} (h : Holds limits w e) (debug : Bool) (call : Call F R) :
    Follows limits w e call (w.step debug call) := by
  have hw := h.wf
  cases call with
  | reserve now options =>
    have hs := h.core.reserve (R := R) hw debug now options
    simp only [World.step]
    cases hres : w.core.reserve debug now options with
    | mk result c' =>
    rw [hres] at hs
    cases result with
    | error error => exact hs.follows h fun hstep => by cases hstep; rfl
    | ok p =>
      obtain ⟨e', href, hstep, _⟩ := hs
      refine ⟨e', ⟨href, ?_, hstep.wf hw⟩, hstep, fun hq => hq.elim⟩
      cases hstep
      rw [h.permits]
  | commit index frame view =>
    simp only [World.step, World.commit]
    cases hlive : w.permits[index]? with
    | none => exact ⟨e, h, .unavailable e (.commit index frame view), fun _ => rfl⟩
    | some p =>
      have hlive' : e.permits[index]? = some p := h.permits ▸ hlive
      have hs := h.core.commit (R := R) hw debug hlive' frame view
      simp only
      cases hres : w.core.commit (R := R) debug p frame view with
      | mk result c' =>
      rw [hres] at hs
      cases result with
      | error error => exact hs.follows h fun hstep => by cases hstep; rfl
      | ok accepted =>
        obtain ⟨e', href, hstep, _⟩ := hs
        refine ⟨e', ⟨href, ?_, hstep.wf hw⟩, hstep, fun hq => hq.elim⟩
        cases hstep
        rw [h.permits]
  | commitForeign p frame view =>
    simp only [World.step]
    split
    · exact ⟨e, h, .unavailable e (.commitForeign p frame view), fun _ => rfl⟩
    · next hforeign =>
      exact (h.core.commitForeign (R := R) hw debug hforeign frame view).follows h
        fun hstep => hstep.permits_eq trivial
  | dropPermit index =>
    simp only [World.step]
    cases hlive : w.permits[index]? with
    | none => exact ⟨e, h, .unavailable e (.dropPermit index), fun _ => rfl⟩
    | some p =>
      have hlive' : e.permits[index]? = some p := h.permits ▸ hlive
      refine ⟨_, ⟨h.core.dropPermit hlive', ?_, hw.dropped index⟩, .dropped hlive',
        fun hq => hq.elim⟩
      rw [h.permits]
  | apply input =>
    exact (h.core.apply hw debug input).follows h fun hstep => hstep.permits_eq trivial
  | applyReply reply =>
    exact (h.core.applyReply hw debug reply).follows h fun hstep => hstep.permits_eq trivial
  | frontWrite view maximum =>
    exact (h.core.frontWrite hw view maximum).follows h fun hstep => hstep.permits_eq trivial
  | advanceWrite epoch effect written =>
    exact (h.core.advanceWrite hw epoch effect written).follows h fun hstep =>
      hstep.permits_eq trivial
  | recover => exact (h.core.recover hw).follows h fun hstep => hstep.permits_eq trivial

/-- The first world is in the state of the first epoch. -/
theorem holds_new (ledgerId : ℕ) (epoch : ConnectionEpoch) (limits : ConnectionLimits)
    (seeds : IdentitySeeds) :
    Holds limits (World.new ledgerId epoch limits seeds : World B F)
      (Epoch.new ledgerId epoch seeds) :=
  ⟨refines_new ledgerId epoch limits seeds, rfl, wf_new ledgerId epoch seeds⟩

end Bornera.Core
