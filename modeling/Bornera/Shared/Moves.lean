import Bornera.Shared.Queue

/-!
# The moves of a set

A public call of a set is a sequence of small moves: what it does to one entry, to the
selector and to all entries at once. An invariant that every move keeps holds in every
reachable set (`Reach.keeps`).
-/

namespace Bornera.Shared

open Bornera.Core Slot Lib ConnectionSlot Relation

variable {B D C R E T P X V : Type} {Q W : Type → Type} {M : Type → Type} [ByteBudget B]
  [FrameDecoder D R E] [Retained R] [InboundClassifier C R] [EventBatch Q] [TimerQueue W]
  [FencedTable M ConnectionIdentity ResourceToken] [RegisteredTransport T] [MioPoller P T]
  [CommandMailbox X]

/-! ### One entry -/

/-- The permits taken from a connection, the selector, and the entry. -/
abbrev EntryState (B D C R : Type) (Q W : Type → Type) (T P : Type) : Type :=
  List OperationPermit × P × ConnectionEntry B D C R Q W T

/-- The calls of a slot that bring no transport and end no lifetime. -/
def Access : SlotCall T → Prop
  | .driveQuantum _ _ | .settleTransportClosed | .recover _ => False
  | _ => True

/-- **What a set does to one entry.** -/
inductive EntryMove
    (k : ResourceToken) : EntryState B D C R Q W T P → EntryState B D C R Q W T P → Prop where
  /-- The flag of the queue changes. -/
  | flag (permits : List OperationPermit) (p : P) (entry : ConnectionEntry B D C R Q W T)
    (queued : Bool) :
    EntryMove k (permits, p, entry) (permits, p, { entry with readyQueued := queued })
  /-- A public method of the slot. -/
  | call {permits permits' : List OperationPermit} (p : P) {entry : ConnectionEntry B D C R Q W T}
    {c : SlotCall T}
    {slot : ConnectionSlot B D C R Q W} (access : Access c)
    (answer : (SlotWorld.slotStep entry.slot permits c).1 = ⟨some slot, permits'⟩) :
    EntryMove k (permits, p, entry) (permits', p, { entry with slot })
  /-- A quantum. -/
  | drive (permits : List OperationPermit) (p : P)
    (entry : ConnectionEntry B D C R Q W T) (now : ℕ) :
    EntryMove k (permits, p, entry) (permits, p, (entry.driveSlot now).2)
  | settle (permits : List OperationPermit) (p : P) (entry : ConnectionEntry B D C R Q W T) :
    EntryMove k (permits, p, entry) (permits, (entry.settleEntry p k).2)
  | sync (permits : List OperationPermit) (p : P) (entry : ConnectionEntry B D C R Q W T) :
    EntryMove k (permits, p, entry) (permits, (entry.syncInterest p k).2)
  /-- The transport is asked whether it has something to do. -/
  | ask (permits : List OperationPermit) (p : P) (entry : ConnectionEntry B D C R Q W T) (now : ℕ) :
    EntryMove k (permits, p, entry) (permits, p, (entry.hasWork now).2)
  | observe (permits : List OperationPermit) (p : P) {entry entry' : ConnectionEntry B D C R Q W T}
    {readiness : Readiness}
    (observed : entry.observeReadiness readiness = some entry') : EntryMove k (permits, p, entry)
      (permits, p, entry')

/-- A sequence of moves of one entry. -/
abbrev Edits (k : ResourceToken) : EntryState B D C R Q W T P → EntryState B D C R Q W T P → Prop :=
  ReflTransGen (EntryMove k)

/-! ### The set -/

/-- The sets differ in their queue, their mailbox and their counters. -/
structure Beside (s s' : ConnectionSet B D C R Q W T P X M) : Prop where
  limits : s'.limits = s.limits
  poller : s'.poller = s.poller
  resources : s'.resources = s.resources
  ownerFailure : s'.ownerFailure = s.ownerFailure

/-- **The moves of a set.** -/
inductive SetMove : SetWorld B D C R Q W T P X M → SetWorld B D C R Q W T P X M → Prop where
  | beside (permits : ResourceToken → List OperationPermit)
    {s s' : ConnectionSet B D C R Q W T P X M} (beside : Beside s s') :
    SetMove ⟨s, permits⟩ ⟨s', permits⟩
  | poll (permits : ResourceToken → List OperationPermit) (s : ConnectionSet B D C R Q W T P X M)
    (maximum : ℕ) (events : List PollEvent) :
    SetMove ⟨s, permits⟩ ⟨{ s with
      poller := (MioPoller.poll (T := T) s.poller maximum events).2.2 }, permits⟩
  | edit {permits : ResourceToken → List OperationPermit} {s : ConnectionSet B D C R Q W T P X M}
    {k : ResourceToken}
    {entry entry' : ConnectionEntry B D C R Q W T} {poller : P} {taken : List OperationPermit}
    (find : s.find k = some entry)
    (edits : Edits k (permits k, s.poller, entry) (taken, poller, entry')) :
    SetMove ⟨s, permits⟩ ⟨({ s with poller } : ConnectionSet B D C R Q W T P X M).store k entry',
      Function.update permits k taken⟩
  /-- A permit of a connection that is gone is dropped. -/
  | forget (permits : ResourceToken → List OperationPermit) {s : ConnectionSet B D C R Q W T P X M}
    {k : ResourceToken} (index : ℕ)
    (gone : s.find k = none) : SetMove ⟨s, permits⟩
      ⟨s, Function.update permits k ((permits k).eraseIdx index)⟩
  | fence (permits : ResourceToken → List OperationPermit) {s : ConnectionSet B D C R Q W T P X M}
    (source : MioError)
    (running : s.ownerFailure = none) : SetMove ⟨s, permits⟩
      ⟨s.latchSelectorFailure source, permits⟩
  | remove (permits : ResourceToken → List OperationPermit) (s : ConnectionSet B D C R Q W T P X M)
    (k : ResourceToken) :
    SetMove ⟨s, permits⟩ ⟨s.withdraw k, permits⟩
  /-- An entry is removed with its transport. -/
  | release (permits : ResourceToken → List OperationPermit) {s : ConnectionSet B D C R Q W T P X M}
    {k : ResourceToken}
    {entry : ConnectionEntry B D C R Q W T} (find : s.find k = some entry) :
    SetMove ⟨s, permits⟩ ⟨(s.releaseTransport k entry).2.withdraw k, permits⟩
  | connect (permits : ResourceToken → List OperationPermit) (s : ConnectionSet B D C R Q W T P X M)
    (config : ConnectionConfig)
    (limits : ConnectionSlotLimits) (decoder : D) (classifier : C)
    (connector : Unit → Except IoError T × Unit) :
    SetMove ⟨s, permits⟩ ⟨(s.connectWith config limits decoder classifier connector
      ()).2.1, permits⟩

/-- A sequence of moves. -/
abbrev Reach : SetWorld B D C R Q W T P X M → SetWorld B D C R Q W T P X M → Prop :=
  ReflTransGen SetMove

/-- An invariant that every move keeps is kept by a sequence of moves. -/
theorem Reach.keeps {I : SetWorld B D C R Q W T P X M → Prop} {w w' : SetWorld B D C R Q W T P X M}
    (h : Reach w w') (hmove : ∀ a b, SetMove a b → I a → I b) (hw : I w) : I w' := by
  induction h with
  | refl => exact hw
  | tail _ hlast ih => exact hmove _ _ hlast ih

/-- The same for the moves of one entry. -/
theorem Edits.keeps {k : ResourceToken} {I : EntryState B D C R Q W T P → Prop}
    {x y : EntryState B D C R Q W T P} (h : Edits k x y)
    (hmove : ∀ a b, EntryMove k a b → I a → I b) (hx : I x) : I y := by
  induction h with
  | refl => exact hx
  | tail _ hlast ih => exact hmove _ _ hlast ih

namespace ConnectionSet

variable {permits : ResourceToken → List OperationPermit}
  {s s' s'' : ConnectionSet B D C R Q W T P X M} {k : ResourceToken}
  {entry entry' : ConnectionEntry B D C R Q W T}

/-- The permits stay where they are. -/
def Goes (permits : ResourceToken → List OperationPermit)
    (s s' : ConnectionSet B D C R Q W T P X M) : Prop :=
  Reach ⟨s, permits⟩ ⟨s', permits⟩

lemma Goes.refl (s : ConnectionSet B D C R Q W T P X M) : Goes permits s s := ReflTransGen.refl

lemma Goes.trans (h : Goes permits s s') (h' : Goes permits s' s'') : Goes permits s s'' :=
  ReflTransGen.trans h h'

lemma Goes.beside (h : Beside s s') : Goes permits s s' := .single (.beside permits h)

/-- An edit that takes no permit. -/
lemma Goes.edit {poller : P} (hfind : s.find k = some entry)
    (hedits : Edits k (permits k, s.poller, entry) (permits k, poller, entry')) :
    Goes permits s (({ s with poller } : ConnectionSet B D C R Q W T P X M).store k entry') := by
  have hmove := SetMove.edit (X := X) hfind hedits
  rw [Function.update_eq_self] at hmove
  exact .single hmove

/-- An edit that leaves the selector alone. -/
lemma Goes.store (hfind : s.find k = some entry)
    (hedits : Edits k (permits k, s.poller, entry) (permits k, s.poller, entry')) :
    Goes permits s (s.store k entry') := Goes.edit hfind hedits

lemma goes_enqueue (s : ConnectionSet B D C R Q W T P X M) (k : ResourceToken) :
    Goes permits s (s.enqueue k) := by
  unfold ConnectionSet.enqueue
  cases hfind : s.find k with
  | none => exact .refl s
  | some entry =>
    dsimp only
    split
    · exact .refl s
    · exact (Goes.store hfind (.single (.flag _ _ entry true))).trans (.beside ⟨rfl, rfl, rfl, rfl⟩)

lemma goes_unqueue (s : ConnectionSet B D C R Q W T P X M) (k : ResourceToken) :
    Goes permits s (s.unqueue k) :=
  .beside ⟨rfl, rfl, rfl, rfl⟩

lemma goes_discharge (s : ConnectionSet B D C R Q W T P X M) (k : ResourceToken) :
    Goes permits s (s.discharge k) :=
  (goes_unqueue s k).trans (.single (.remove permits (s.unqueue k) k))

lemma goes_latch (s : ConnectionSet B D C R Q W T P X M) (source : MioError) :
    Goes permits s (s.latchSelectorFailure source) := by
  by_cases hrunning : s.ownerFailure = none
  · exact .single (.fence permits source hrunning)
  · unfold latchSelectorFailure
    rw [if_pos (Option.isSome_iff_ne_none.mpr hrunning)]
    exact .refl s

lemma goes_latchReadiness (s : ConnectionSet B D C R Q W T P X M) (error : EngineError) :
    Goes permits s (s.latchReadinessError error) := by
  cases error with
  | mio source => exact goes_latch s source
  | _ => exact .refl s

/-! ### The turn -/

section
omit [ByteBudget B] [Retained R] [InboundClassifier C R] [EventBatch Q] [TimerQueue W]

/-- A failure that was latched is not latched twice. -/
lemma latchFailure_again (slot : ConnectionSlot B D C R Q W) (error : EngineError) :
    (slot.latchFailure error).latchFailure error = slot.latchFailure error := by
  have htwice : ∀ reason, (slot.latchOwnerFailure reason).latchOwnerFailure reason =
      slot.latchOwnerFailure reason := by
    intro reason
    unfold latchOwnerFailure
    cases hstate : slot.state with
    | running => rfl
    | failed => simp [hstate, EngineState.failure]
  cases error <;> first | rfl | exact htwice _

/-- A method that failed has latched its failure. -/
lemma guarded_latched {α : Type} {m : Slot.Run B D C R Q W α}
    {slot slot' : ConnectionSlot B D C R Q W} {error : EngineError}
    (h : guarded m slot = (.error error, slot')) : slot'.latchFailure error = slot' := by
  cases hstate : slot.state with
  | failed reason =>
    simp only [guarded, Owner.bind_run, ensureRunning, hstate, EngineState.failure] at h
    cases h
    rfl
  | running =>
    simp only [guarded, Owner.bind_run, ensureRunning, hstate, EngineState.failure, latch] at h
    split at h
    · cases h
    · cases h
      exact latchFailure_again _ _

end

/-- The call of the slot that carries out a command. -/
def accessOf : ConnectionCommand → SlotCall T
  | .openAdmission _ => .openAdmission
  | .cancel _ operation => .cancel operation
  | .beginDrain _ deadline => .beginDrain deadline
  | .close _ => .finalize .requested

omit [ByteBudget B] [Retained R] [InboundClassifier C R] [EventBatch Q] [TimerQueue W] in
lemma obeyed_guarded {α : Type} (m : Slot.Run B D C R Q W α) (slot : ConnectionSlot B D C R Q W) :
    (match (discard (guarded m) : Slot.Run B D C R Q W Unit) slot with
      | (.ok (), slot) => slot
      | (.error error, slot) => slot.latchFailure error) = (guarded m slot).2 := by
  have hrun : (discard (guarded m) : Slot.Run B D C R Q W Unit) slot =
      ((guarded m slot).1.map fun _ => (), (guarded m slot).2) := by
    change (guarded m >>= fun _ => pure ()) slot = _
    rw [Owner.bind_run]
    rcases guarded m slot with ⟨_ | _, _⟩ <;> rfl
  rw [hrun]
  rcases hguarded : guarded m slot with ⟨error | a, slot'⟩
  · exact guarded_latched hguarded
  · rfl

lemma obeyed_answer (command : ConnectionCommand) (taken : List OperationPermit)
    (slot : ConnectionSlot B D C R Q W) :
    (SlotWorld.slotStep slot taken (accessOf command : SlotCall T)).1 =
      ⟨some (obeyed command slot), taken⟩ := by
  cases command with
  | openAdmission connection =>
    exact congrArg (fun slot => SlotWorld.mk (some slot) taken)
      (obeyed_guarded openAdmissionInner slot).symm
  | cancel connection operation =>
    exact congrArg (fun slot => SlotWorld.mk (some slot) taken)
      (obeyed_guarded (cancelInner operation) slot).symm
  | beginDrain connection deadline =>
    exact congrArg (fun slot => SlotWorld.mk (some slot) taken)
      (obeyed_guarded (beginDrainInner deadline) slot).symm
  | close connection =>
    exact congrArg (fun slot => SlotWorld.mk (some slot) taken)
      (obeyed_guarded (finalizeInner .requested) slot).symm

omit [RegisteredTransport T] in
lemma access_accessOf (command : ConnectionCommand) : Access (accessOf command : SlotCall T) := by
  cases command <;> trivial

lemma goes_applyCommand (s : ConnectionSet B D C R Q W T P X M) (command : ConnectionCommand) :
    Goes permits s (s.applyCommand command) := by
  obtain ⟨_, hstale⟩ | ⟨entry, hfind, hlive⟩ := applyCommand_cases s command
  · rw [hstale]
    exact .beside ⟨rfl, rfl, rfl, rfl⟩
  · rw [hlive]
    exact (Goes.store hfind (.single
      (.call _ (access_accessOf command) (obeyed_answer command _ _)))).trans (goes_enqueue _ _)

lemma goes_foldl {α : Type}
    {f : ConnectionSet B D C R Q W T P X M → α → ConnectionSet B D C R Q W T P X M}
    (h : ∀ s a, Goes permits s (f s a)) (s : ConnectionSet B D C R Q W T P X M)
    (as : List α) : Goes permits s (as.foldl f s) := by
  induction as generalizing s with
  | nil => exact .refl s
  | cons a as ih => exact (h s a).trans (ih (f s a))

lemma goes_driveCommands (s : ConnectionSet B D C R Q W T P X M) :
    Goes permits s s.driveCommands.2 := by
  have hstart : Goes permits s { s with
      commands := (CommandMailbox.drainInto s.commands s.limits.commandsPerTurn).2
      commandMorePending := (CommandMailbox.drainInto s.commands s.limits.commandsPerTurn).1.2 } :=
        .beside ⟨rfl, rfl, rfl, rfl⟩
  exact hstart.trans (goes_foldl goes_applyCommand _ _)

lemma goes_ingestEvent (s : ConnectionSet B D C R Q W T P X M) (event : PollEvent) :
    Goes permits s (s.ingestEvent event) := by
  obtain hsame | hstale | ⟨token, readiness, entry, entry', _, hfind, hobserved, hlive⟩ :=
    ingestEvent_cases s event
  · rw [hsame]
    exact .refl s
  · rw [hstale]
    exact .beside ⟨rfl, rfl, rfl, rfl⟩
  · rw [hlive]
    exact (Goes.store hfind (.single (.observe _ _ hobserved))).trans (goes_enqueue _ _)

lemma goes_ingestReadiness (s : ConnectionSet B D C R Q W T P X M) :
    Goes permits s s.ingestReadiness.2 := by
  have hstart : Goes permits s { s with pollEvents := [] } := .beside ⟨rfl, rfl, rfl, rfl⟩
  exact hstart.trans (goes_foldl goes_ingestEvent _ _)

lemma edits_shouldEnqueue (taken : List OperationPermit) (p : P)
    (entry : ConnectionEntry B D C R Q W T) (now : ℕ) :
    Edits k (taken, p, entry) (taken, p, (entry.shouldEnqueue now).2) := by
  unfold ConnectionEntry.shouldEnqueue
  split
  · exact .refl
  · exact .single (.ask taken p entry now)

lemma goes_enqueueCandidate (now : ℕ) (s : ConnectionSet B D C R Q W T P X M) (k : ResourceToken) :
    Goes permits s (s.enqueueCandidate now k) := by
  unfold ConnectionSet.enqueueCandidate
  cases hfind : s.find k with
  | none => exact .refl s
  | some entry =>
    have hedits := edits_shouldEnqueue (k := k) (permits k) s.poller entry now
    dsimp only
    split
    · next heq =>
      rw [heq] at hedits
      exact (Goes.store hfind hedits).trans (goes_enqueue _ _)
    · next heq =>
      rw [heq] at hedits
      exact Goes.store hfind hedits

lemma goes_enqueueCandidates (now : ℕ) (s : ConnectionSet B D C R Q W T P X M) :
    Goes permits s (s.enqueueCandidates now) :=
  goes_foldl (goes_enqueueCandidate now) s _

lemma goes_pollSelector (maximum : ℕ) (s : ConnectionSet B D C R Q W T P X M) :
    Goes permits s (pollSelector maximum s).2 := by
  obtain ⟨hrunning, hensure⟩ | ⟨reason, _, hensure⟩ := ensureOwnerRunning_cases s
  · have hrun : pollSelector maximum s = _ := Owner.bind_ok hensure _
    have hpolled : Goes permits s
        { s with poller := (MioPoller.poll (T := T) s.poller maximum s.pollEvents).2.2 } :=
      .single (.poll permits s maximum s.pollEvents)
    rw [hrun]
    rcases hpoll : MioPoller.poll (T := T) s.poller maximum s.pollEvents
      with ⟨source | report, pollEvents, poller⟩
    · rw [hpoll] at hpolled
      have hfilled : Goes permits { s with poller } { s with poller, pollEvents } :=
        .beside ⟨rfl, rfl, rfl, rfl⟩
      exact (hpolled.trans hfilled).trans (goes_latch _ source)
    · rw [hpoll] at hpolled
      exact hpolled.trans (.beside ⟨rfl, rfl, rfl, rfl⟩)
  · have hrun : pollSelector maximum s = _ := Owner.bind_error hensure _
    rw [hrun]
    exact .refl s

lemma goes_pollIo (maximum : ℕ) (s : ConnectionSet B D C R Q W T P X M) :
    Goes permits s (pollIo maximum s).2 := by
  have hpolled : Goes permits s _ := goes_pollSelector maximum s
  unfold pollIo
  rw [Owner.bind_run]
  generalize pollSelector maximum s = polled at hpolled ⊢
  obtain ⟨error | report, s₁⟩ := polled
  · exact hpolled
  · exact hpolled.trans (.beside ⟨rfl, rfl, rfl, rfl⟩)

lemma goes_ingestPollBatches (s : ConnectionSet B D C R Q W T P X M) :
    Goes permits s (ingestPollBatches s).2 := by
  have hfirst : Goes permits s _ := goes_ingestReadiness s
  unfold ingestPollBatches
  simp only [Owner.update_bind, Owner.read_bind]
  generalize s.ingestReadiness.2 = s₁ at hfirst ⊢
  split
  · have hpolled : Goes permits s₁ _ := goes_pollSelector 0 s₁
    rw [Owner.bind_run]
    generalize pollSelector 0 s₁ = polled at hpolled ⊢
    obtain ⟨error | report, s₂⟩ := polled
    · exact hfirst.trans hpolled
    · have hreport : Goes permits s₂ (s₂.observePoll report) := .beside ⟨rfl, rfl, rfl, rfl⟩
      exact ((hfirst.trans hpolled).trans hreport).trans (goes_ingestReadiness _)
  · exact hfirst

lemma edits_isRunnable (taken : List OperationPermit) (p : P)
    (entry : ConnectionEntry B D C R Q W T) (now : ℕ) (saturated : Bool) :
    Edits k (taken, p, entry) (taken, p, (entry.isRunnable now saturated).2) := by
  unfold ConnectionEntry.isRunnable
  split
  · exact .refl
  · split
    · exact .refl
    · exact .single (.ask taken p entry now)

/-- The driving of an entry is a quantum, a settlement, an update of the interest and a
question, as far as it goes. -/
lemma edits_drive (taken : List OperationPermit) (p : P) (entry : ConnectionEntry B D C R Q W T)
    (now : ℕ) :
    Edits k (taken, p, entry) (taken, (entry.drive now p k).2) := by
  have hdrive : Edits k (taken, p, entry) (taken, p, (entry.driveSlot now).2) :=
    .single (.drive taken p entry now)
  have hsettle := hdrive.tail (.settle taken p (entry.driveSlot now).2)
  unfold ConnectionEntry.drive
  rcases hran : (entry.driveSlot now).2.settleEntry p k with ⟨error | settled, p₁, entry₁⟩
  · rw [hran] at hsettle
    dsimp only
    rw [hran]
    exact hsettle
  · rw [hran] at hsettle
    have hsync := hsettle.tail (.sync taken p₁ entry₁)
    dsimp only
    rw [hran]
    dsimp only
    rcases hsynced : entry₁.syncInterest p₁ k with ⟨error | interest, p₂, entry₂⟩
    · rw [hsynced] at hsync
      exact hsync
    · rw [hsynced] at hsync
      exact hsync.trans (edits_isRunnable taken p₂ entry₂ now _)

lemma goes_driveReady (now turns : ℕ) (s : ConnectionSet B D C R Q W T P X M) :
    Goes permits s (driveReady now turns s).2 := by
  induction turns generalizing s with
  | zero => exact .refl s
  | succ turns ih =>
    unfold driveReady
    cases hready : s.ready with
    | nil => exact .refl s
    | cons k ready =>
      have hpop : Goes permits s { s with ready } := .beside ⟨rfl, rfl, rfl, rfl⟩
      cases hfind : s.find k with
      | none =>
        have hfind' : ({ s with ready } : ConnectionSet B D C R Q W T P X M).find k = none := hfind
        have hstale : Goes permits ({ s with ready } : ConnectionSet B D C R Q W T P X M)
            { s with ready, staleResourceEvents := saturatingAdd s.staleResourceEvents 1 } :=
              .beside ⟨rfl, rfl, rfl, rfl⟩
        simp only [hfind']
        exact (hpop.trans hstale).trans (ih _)
      | some entry =>
        have hfind' : ({ s with ready } : ConnectionSet B D C R Q W T P X M).find k =
          some entry := hfind
        have hedits : Edits k (permits k, s.poller, entry) _ :=
          (ReflTransGen.single (.flag _ _ entry false)).trans (edits_drive _ _ _ now)
        simp only [hfind']
        rcases hdrive : ConnectionEntry.drive now s.poller k
            { entry with readyQueued := false } with
          ⟨error | ⟨progress, requeue⟩, poller, driven⟩
        · rw [hdrive] at hedits
          exact (hpop.trans (Goes.edit hfind' hedits)).trans (goes_latchReadiness _ error)
        · rw [hdrive] at hedits
          have hstored := hpop.trans (Goes.edit hfind' hedits)
          dsimp only
          rw [Owner.bind_pure_run]
          split
          · exact (hstored.trans (goes_enqueue _ k)).trans (ih _)
          · exact hstored.trans (ih _)

lemma goes_turnComponent (now : ℕ) (s : ConnectionSet B D C R Q W T P X M) :
    Goes permits s (turnComponent now s).2 := by
  unfold turnComponent
  obtain ⟨_, hensure⟩ | ⟨reason, _, hensure⟩ := ensureOwnerRunning_cases s
  · rw [Owner.bind_ok hensure, Owner.update_bind, Owner.bind_run]
    have hcommands : Goes permits s _ := goes_driveCommands s
    have hpolled : Goes permits s.driveCommands.2 _ := goes_ingestPollBatches s.driveCommands.2
    generalize ingestPollBatches s.driveCommands.2 = polled at hpolled ⊢
    obtain ⟨error | work, s₁⟩ := polled
    · exact hcommands.trans hpolled
    · dsimp only
      rw [Owner.change_bind, Owner.read_bind, Owner.bind_run]
      have hqueued : Goes permits s₁ _ := goes_enqueueCandidates now s₁
      have hdriven : Goes permits (s₁.enqueueCandidates now) _ :=
        goes_driveReady now (s₁.enqueueCandidates now).limits.readyConnectionsPerTurn
          (s₁.enqueueCandidates now)
      have hall := ((hcommands.trans hpolled).trans hqueued).trans hdriven
      generalize driveReady now _ (s₁.enqueueCandidates now) = driven at hall ⊢
      obtain ⟨error | work', s₂⟩ := driven <;> exact hall
  · rw [Owner.bind_error hensure]
    exact .refl s

/-! ### Access -/

lemma goes_settleConnection (k : ResourceToken) (s : ConnectionSet B D C R Q W T P X M) :
    Goes permits s (settleConnection k s).2 := by
  unfold settleConnection
  cases hfind : s.find k with
  | none => exact .refl s
  | some entry =>
    have hedits : Edits k (permits k, s.poller, entry)
        (permits k, (entry.settleEntry s.poller k).2) :=
      .single (.settle (permits k) s.poller entry)
    dsimp only
    rcases hsettle : entry.settleEntry s.poller k with ⟨error | settled, poller, entry₁⟩
    · rw [hsettle] at hedits
      exact (Goes.edit hfind hedits).trans (goes_latchReadiness _ error)
    · rw [hsettle] at hedits
      have hstored := Goes.edit hfind hedits
      have hself : (({ s with poller } : ConnectionSet B D C R Q W T P X M).store k entry₁).find k =
          some entry₁ :=
        find_store_self (s := { s with poller }) hfind entry₁
      have hflagged : Goes permits
        (({ s with poller } : ConnectionSet B D C R Q W T P X M).store k entry₁)
          (if settled ≠ 0 then
            ((({ s with poller } : ConnectionSet B D C R Q W T P X M).store k
            entry₁).unqueue k).store k
            { entry₁ with readyQueued := false }
                else ({ s with poller } : ConnectionSet B D C R Q W T P X M).store k entry₁) := by
        split
        · refine (goes_unqueue _ k).trans (Goes.store ?_ (.single (.flag _ _ entry₁ false)))
          exact hself
        · exact .refl _
      dsimp only
      split <;> exact hstored.trans hflagged

lemma goes_applyAndEnqueue {α : Type} (connection : ConnectionToken)
    {action : Slot.Run B D C R Q W α} {c : SlotCall T} (haccess : Access c)
    (hanswer : ∀ slot taken, (SlotWorld.slotStep slot taken c).1 =
      (⟨some (action slot).2, taken⟩ : SlotWorld B D C R Q W))
    (s : ConnectionSet B D C R Q W T P X M) :
    Goes permits s (s.applyAndEnqueue connection action).2 := by
  unfold applyAndEnqueue
  cases hentry : s.entry connection with
  | none => exact .refl s
  | some entry =>
    have hcalled : Goes permits s _ :=
      Goes.store (entry_find hentry).1 (.single (.call s.poller haccess (hanswer entry.slot _)))
    dsimp only
    rcases haction : action entry.slot with ⟨result, slot⟩
    rw [haction] at hcalled
    have hsettled :=
      (hcalled.trans (goes_enqueue _ connection.resource)).trans
      (goes_settleConnection connection.resource _)
    dsimp only at hsettled ⊢
    rcases hran : settleConnection connection.resource
      ((s.store connection.resource { entry with slot }).enqueue connection.resource)
      with ⟨settled, s₁⟩
    rw [hran] at hsettled
    cases result <;> cases settled <;> exact hsettled

/-- A commit takes its permit when its slot accepts it; a stale one only settles. -/
lemma reach_commit {connection : ConnectionToken} {permit : OperationPermit} {frame : OutboundFrame}
    {c : SlotCall T} {l : List OperationPermit} {permits' : ResourceToken → List OperationPermit}
    (haccess : Access c) (hanswer : ∀ entry, s.entry connection = some entry →
      (SlotWorld.slotStep entry.slot (permits connection.resource) c).1 =
        ⟨some (entry.slot.commit permit frame).2, l⟩)
    (hstale : s.entry connection = none → permits' = permits)
    (htaken : ∀ entry, s.entry connection = some entry →
      permits' = Function.update permits connection.resource l) :
    Reach ⟨s, permits⟩ ⟨(s.commit connection permit frame).2, permits'⟩ := by
  unfold ConnectionSet.commit
  cases hentry : s.entry connection with
  | none =>
    rw [hstale hentry]
    exact (goes_enqueue s connection.resource).trans (goes_settleConnection connection.resource _)
  | some entry =>
    rw [htaken entry hentry]
    have hmove : SetMove ⟨s, permits⟩
      ⟨s.store connection.resource { entry with slot := (entry.slot.commit permit frame).2 },
        Function.update permits connection.resource l⟩ :=
      .edit (entry_find hentry).1 (.single (.call s.poller haccess (hanswer entry hentry)))
    exact .head hmove ((goes_enqueue _ connection.resource).trans
      (goes_settleConnection connection.resource _))

lemma goes_retire (connection : ConnectionToken) (s : ConnectionSet B D C R Q W T P X M) :
    Goes permits s (s.retire connection).2 := by
  unfold retire
  split
  · exact .refl s
  · split
    · exact .refl s
    · split
      · exact .refl s
      · split
        · exact .refl s
        · exact goes_discharge s _

/-! ### Recovery -/

omit [ByteBudget B] [Retained R] [InboundClassifier C R] [EventBatch Q] [TimerQueue W] in
lemma find_releaseTransport (hfind : s.find k = some entry) :
    ((s.releaseTransport k entry).2.find k).isSome := by
  unfold releaseTransport
  cases hhere : entry.transport with
  | none => exact Option.isSome_of_eq_some hfind
  | some t =>
    dsimp only
    generalize MioPoller.deregister s.poller t k = released
    obtain ⟨cleanup, poller, t₁⟩ := released
    dsimp only
    generalize captureTransportPressure (entry.slot, t₁) = looked
    obtain ⟨pressure, slot, t₂⟩ := looked
    have hself : ∀ row, (({ s with poller } : ConnectionSet B D C R Q W T P X M).store k row).find
        k = some row :=
      find_store_self (s := { s with poller }) hfind
    cases cleanup with
    | ok _ => cases pressure <;> exact Option.isSome_of_eq_some (hself _)
    | error source =>
      have hlatched : ∀ s : ConnectionSet B D C R Q W T P X M, (s.find k).isSome →
          ((s.latchSelectorFailure source).find k).isSome := by
        intro s hs
        by_cases hrunning : s.ownerFailure = none
        · rw [find_latch source hrunning, Option.isSome_map]
          exact hs
        · unfold latchSelectorFailure
          rw [if_pos (Option.isSome_iff_ne_none.mpr hrunning)]
          exact hs
      cases pressure <;> exact hlatched _ (Option.isSome_of_eq_some (hself _))

lemma goes_recoverConnection {connection : ConnectionToken}
    (hfind : s.find connection.resource = some entry) (reason : OwnerFailure) :
    Goes permits s (s.recoverConnection connection entry reason).2 := by
  have hthere := find_releaseTransport hfind
  have hreleased : Goes permits s _ := .single (.release permits hfind)
  unfold recoverConnection
  rcases hran : s.releaseTransport connection.resource entry with ⟨⟨cleanup, failed⟩, s₁⟩
  rw [hran] at hthere hreleased
  dsimp only
  split
  · next hnone =>
    rw [hnone] at hthere
    cases hthere
  · exact hreleased.trans (goes_unqueue _ _)

lemma goes_tryRecover (connection : ConnectionToken) (s : ConnectionSet B D C R Q W T P X M) :
    Goes permits s (s.tryRecover connection).2 := by
  unfold tryRecover
  cases hentry : s.entry connection with
  | none => exact .refl s
  | some entry =>
    dsimp only
    split
    · exact .refl s
    · exact goes_recoverConnection (entry_find hentry).1 _

lemma goes_abandon (connection : ConnectionToken) (requested : OwnerFailure)
    (s : ConnectionSet B D C R Q W T P X M) :
    Goes permits s (s.abandon connection requested).2 := by
  unfold abandon
  cases hentry : s.entry connection with
  | none => exact .refl s
  | some entry => exact goes_recoverConnection (entry_find hentry).1 _

end ConnectionSet

/-! ### Calls -/

open ConnectionSet

/-- An outcome drain or an event drain changes one slot. -/
lemma goes_drain {permits : ResourceToken → List OperationPermit}
    {s : ConnectionSet B D C R Q W T P X M} {connection : ConnectionToken}
    {entry : ConnectionEntry B D C R Q W T} {slot : ConnectionSlot B D C R Q W} {c : SlotCall T}
    (haccess : Access c) (hentry : s.entry connection = some entry)
    (hanswer : (SlotWorld.slotStep entry.slot (permits connection.resource) c).1 =
      ⟨some slot, permits connection.resource⟩) :
    Goes permits s (s.store connection.resource { entry with slot }) :=
  Goes.store (entry_find hentry).1 (.single (.call s.poller haccess hanswer))

lemma acceptedBy_committed (result : Except EngineCommitError OperationId)
    (settled : Except EngineError ℕ) :
    SetWorld.acceptedBy (committed result settled) = Slot.acceptedBy result := by
  cases result <;> cases settled <;> rfl

/-- **Every call of a set is a sequence of moves.** -/
theorem reach_step (w : SetWorld B D C R Q W T P X M) (call : SetCall D C T) :
    Reach w (w.step call : _ × SetResponse R E).1 := by
  obtain ⟨s, permits⟩ := w
  cases call with
  | connect config limits decoder classifier connected =>
    exact .single (.connect permits s config limits decoder classifier fun _ => (connected, ()))
  | reserve connection now options =>
    simp only [SetWorld.step, ConnectionSet.reserve]
    cases hentry : s.entry connection with
    | none => exact .refl
    | some entry =>
      dsimp only
      rcases hreserve : entry.slot.reserve now options with ⟨error | permit, slot⟩
      · refine goes_drain (c := .reserve now options) trivial hentry ?_
        simp only [SlotWorld.slotStep, hreserve]
      · refine .single (SetMove.edit (entry_find hentry).1
          (.single (.call (c := .reserve now options) s.poller trivial ?_)))
        simp only [SlotWorld.slotStep, hreserve]
  | commit connection index frame =>
    simp only [SetWorld.step]
    cases hpermit : (permits connection.resource)[index]? with
    | none => exact .refl
    | some permit =>
      cases hentry : s.entry connection with
      | none =>
        refine reach_commit (c := .commit index frame) (l := []) trivial (fun entry hsome => ?_)
          (fun _ => ?_) (fun entry hsome => ?_)
        · cases hentry.symm.trans hsome
        · simp only [ConnectionSet.commit, hentry, SetWorld.acceptedBy, Option.isSome_none,
            Bool.false_eq_true, if_false]
        · cases hentry.symm.trans hsome
      | some entry =>
        refine reach_commit (c := .commit index frame)
          (l := if (Slot.acceptedBy (entry.slot.commit permit frame).1).isSome then
            (permits connection.resource).eraseIdx index
            else permits connection.resource) trivial (fun entry' hsome => ?_) (fun hnone => ?_)
              (fun entry' hsome => ?_)
        · cases hentry.symm.trans hsome
          simp only [SlotWorld.slotStep, hpermit]
        · cases hentry.symm.trans hnone
        · simp only [ConnectionSet.commit, hentry, acceptedBy_committed, SetWorld.permitting]
          split
          · rfl
          · exact (Function.update_eq_self ..).symm
  | commitForeign connection permit frame =>
    simp only [SetWorld.step]
    split
    · exact .refl
    · next hforeign =>
      refine reach_commit (c := .commitForeign permit frame) (l := permits connection.resource)
        trivial (fun entry hentry => ?_)
        (fun _ => rfl) (fun _ _ => (Function.update_eq_self ..).symm)
      have hledger : ¬permit.ledger = entry.slot.core.machine.ledgerId := fun heq =>
        hforeign (by rw [(entry_find hentry).1]; simp [heq])
      simp only [SlotWorld.slotStep, if_neg hledger]
  | dropPermit resource index =>
    simp only [SetWorld.step]
    cases hpermit : (permits resource)[index]? with
    | none => exact .refl
    | some permit =>
      dsimp only
      cases hfind : FencedTable.get s.resources resource with
      | none =>
        have hsame : FencedTable.modify s.resources resource
            (fun entry : ConnectionEntry B D C R Q W T =>
            { entry with slot := SlotWorld.dropPermit entry.slot permit }) = s.resources := by
          unfold FencedTable.modify
          rw [hfind]
        rw [hsame]
        exact .single (.forget permits index hfind)
      | some entry =>
        have hset : FencedTable.modify s.resources resource
            (fun entry : ConnectionEntry B D C R Q W T =>
            { entry with slot := SlotWorld.dropPermit entry.slot permit }) =
              FencedTable.set s.resources resource
                  { entry with slot := SlotWorld.dropPermit entry.slot permit } := by
          unfold FencedTable.modify
          rw [hfind]
        rw [hset]
        refine .single (SetMove.edit hfind
          (.single (.call (c := .dropPermit index) s.poller trivial ?_)))
        simp only [SlotWorld.slotStep, hpermit]
  | openAdmission connection =>
    exact goes_applyAndEnqueue connection (c := .openAdmission) trivial (fun _ _ => rfl) s
  | cancel connection operation =>
    exact goes_applyAndEnqueue connection (c := .cancel operation) trivial (fun _ _ => rfl) s
  | beginDrain connection deadline =>
    exact goes_applyAndEnqueue connection (c := .beginDrain deadline) trivial (fun _ _ => rfl) s
  | finalize connection reason =>
    exact goes_applyAndEnqueue connection (c := .finalize reason) trivial (fun _ _ => rfl) s
  | drainOutcomes connection =>
    simp only [SetWorld.step, ConnectionSet.drainOutcomes]
    cases hentry : s.entry connection with
    | none => exact .refl
    | some entry => exact goes_drain (c := .drainOutcomes) trivial hentry rfl
  | drainEvents connection =>
    simp only [SetWorld.step, ConnectionSet.drainEvents]
    cases hentry : s.entry connection with
    | none => exact .refl
    | some entry => exact goes_drain (c := .drainEvents) trivial hentry rfl
  | retire connection => exact goes_retire connection s
  | tryRecover connection => exact goes_tryRecover connection s
  | abandon connection requested => exact goes_abandon connection requested s
  | pollIo maximum => exact goes_pollIo maximum s
  | turn now => exact goes_turnComponent now s

/-- So is what a run goes on with. -/
lemma reach_final (setup : SetSetup P X) (calls more : List (SetCall D C T)) :
    Reach (setup.final B Q W M calls : SetWorld B D C R Q W T P X M)
      (setup.final B Q W M (calls ++ more)) := by
  unfold SetSetup.final
  rw [Transducer.final_append]
  generalize (Transducer.final SetWorld.step setup.world calls : SetWorld B D C R Q W T P X M) = w
  induction more generalizing w with
  | nil => exact .refl
  | cons call more ih => exact (reach_step w call).trans (ih _)

/-- **The rule for runs of a set.** What a new set has and every move keeps
holds in every reachable set. -/
theorem reach_run {I : SetWorld B D C R Q W T P X M → Prop} (setup : SetSetup P X)
    (hnew : I setup.world) (hmove : ∀ a b, SetMove a b → I a → I b)
    (calls : List (SetCall D C T)) : I (setup.final B Q W M calls) :=
  Transducer.history_induction (P := fun _ w => I w) hnew
    (fun _ w call h => (reach_step w call).keeps hmove h) calls

end Bornera.Shared
