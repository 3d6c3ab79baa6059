import Bornera.Shared.Entries

/-!
# Connecting is atomic

A connection is admitted completely or not at all: every failure of `connect_with` leaves the
entries, the queue and the registered sources as they were. The one exception is a deregistration
that fails after the registered transport broke its contract; it fences the whole set.
-/

namespace Bornera.Shared

open Bornera.Core Slot Lib ConnectionSlot ConnectionSet

variable {B D C R E T P X V : Type} {Q W : Type → Type} {M : Type → Type} [ByteBudget B]
  [FrameDecoder D R E] [Retained R] [InboundClassifier C R] [EventBatch Q] [TimerQueue W]
  [FencedTable M ConnectionIdentity ResourceToken] [RegisteredTransport T] [MioPoller P T]
  [LawfulPoller P T] [CommandMailbox X]

/-! ### The registered sources -/

variable (T) in
/-- The selector watches nothing but tokens that the table has issued. -/
def Watched (s : ConnectionSet B D C R Q W T P X M) : Prop :=
  ∀ x, LawfulPoller.registered T s.poller x → FencedTable.issued s.resources x

omit [RegisteredTransport T] in
lemma registered_deregister {p : P} {t : T} {k x : ResourceToken}
    (h : LawfulPoller.registered T (MioPoller.deregister p t k).2.1 x) :
    x = k ∨ LawfulPoller.registered T p x := by
  rcases hran : MioPoller.deregister p t k with ⟨error | _, p', t'⟩
  · rw [hran] at h
    by_cases hx : x = k
    · exact .inl hx
    · exact .inr ((LawfulPoller.deregister_error p p' t t' k error hran x hx).mp h)
  · rw [hran] at h
    exact .inr ((LawfulPoller.deregister_ok p p' t t' k hran x).mp h).2

omit [InboundClassifier C R] in
lemma registered_settleEntry {p : P} {k x : ResourceToken} {entry : ConnectionEntry B D C R Q W T}
    (h : LawfulPoller.registered T (entry.settleEntry p k).2.1 x) :
    x = k ∨ LawfulPoller.registered T p x := by
  unfold ConnectionEntry.settleEntry at h
  dsimp only at h
  split at h
  · exact .inr h
  · split at h
    · exact .inr h
    · next t _ =>
      refine registered_deregister (t := t) ?_
      split at h
      · exact h
      · split at h <;> exact h

omit [ByteBudget B] [Retained R] [InboundClassifier C R] [EventBatch Q] [TimerQueue W] in
lemma registered_syncInterest {p : P} {k x : ResourceToken} {entry : ConnectionEntry B D C R Q W T}
    (h : LawfulPoller.registered T (entry.syncInterest p k).2.1 x) :
    LawfulPoller.registered T p x := by
  unfold ConnectionEntry.syncInterest at h
  dsimp only at h
  split at h
  · exact h
  · next t _ =>
    split at h
    · exact h
    · refine (LawfulPoller.reregister_same p
        (SlotTransport.desiredInterest t (0 < entry.slot.core.queuedWriteFrames)).2 k
        (SlotTransport.desiredInterest t (0 < entry.slot.core.queuedWriteFrames)).1 x).mp ?_
      split at h
      · exact h
      · split at h <;> exact h

/-- What is done to one entry registers no other source. -/
lemma EntryMove.registered {k x : ResourceToken} {a b : EntryState B D C R Q W T P}
    (h : EntryMove k a b)
    (hx : LawfulPoller.registered T b.2.1 x) : x = k ∨ LawfulPoller.registered T a.2.1 x := by
  cases h with
  | settle permits p entry => exact registered_settleEntry hx
  | sync permits p entry => exact .inr (registered_syncInterest hx)
  | _ => exact .inr hx

lemma Edits.registered {k x : ResourceToken} {a b : EntryState B D C R Q W T P} (h : Edits k a b)
    (hx : LawfulPoller.registered T b.2.1 x) : x = k ∨ LawfulPoller.registered T a.2.1 x := by
  refine h.keeps (I := fun y =>
    LawfulPoller.registered T y.2.1 x → x = k ∨ LawfulPoller.registered T a.2.1 x) ?_ .inr hx
  intro c d hmove hc hd
  rcases hmove.registered hd with hk | hbefore
  · exact .inl hk
  · exact hc hbefore

/-! ### What connecting leaves behind -/

/-- The entries, the queue and the registered sources are as before. -/
structure AsBefore (s s' : ConnectionSet B D C R Q W T P X M) : Prop where
  find : ∀ x, s'.find x = s.find x
  ready : s'.ready = s.ready
  ownerFailure : s'.ownerFailure = s.ownerFailure
  registered : ∀ x, LawfulPoller.registered T s'.poller x ↔ LawfulPoller.registered T s.poller x

/-- The set is fenced: its owner and every live slot have failed. -/
structure Fenced (source : MioError) (s s' : ConnectionSet B D C R Q W T P X M) : Prop where
  ownerFailure : s'.ownerFailure = some .readiness
  ready : s'.ready = []
  find : ∀ x, s'.find x = (s.find x).map (ConnectionEntry.fence source)
  failed : ∀ x entry, s'.find x = some entry → entry.slot.state.failure.isSome

/-- Exactly one entry is added and queued, and its transport is bound within
the ceiling of its slot. -/
structure Admitted (config : ConnectionConfig) (limits : ConnectionSlotLimits)
    (s s' : ConnectionSet B D C R Q W T P X M) (token : ConnectionToken) : Prop where
  identity : token.identity = config.identity
  fresh : s.find token.resource = none
  others : ∀ x, x ≠ token.resource → s'.find x = s.find x
  ready : s'.ready = s.ready ++ [token.resource]
  registered : ∀ x, LawfulPoller.registered T s'.poller x ↔ x = token.resource ∨
    LawfulPoller.registered T s.poller x
  ownerFailure : s'.ownerFailure = s.ownerFailure
  entry : ∃ entry, s'.find token.resource = some entry ∧ entry.identity = config.identity ∧
    entry.readyQueued = true ∧
    entry.transport.isSome ∧ entry.slot.state = .running ∧ entry.slot.limits = limits ∧
    ∃ limit pressure, entry.slot.transportRetainedLimit = some limit ∧
      limit ≤ limits.transportRetainedBytes ∧
      entry.slot.transportPressure = some pressure ∧ pressure.total ≤ limit

/-- The memory of a transport is looked at after its registration: its limit is another than the one
that was bound, or it holds more. -/
def Breaks (bound : TransportPressure × ℕ) (t : T) : Prop :=
  (SlotTransport.pressureLimit (SlotTransport.pressure t).2).1 ≠ bound.2 ∨
    bound.2 < (SlotTransport.pressure t).1.total

/-- The registration of a transport under a token succeeds, the transport breaks its bound on the
way, and its deregistration fails. -/
def Strands (p : P) (k : ResourceToken) (queued : Bool) (t : T) (bound : TransportPressure × ℕ)
    (source : MioError) : Prop :=
  let (interest, t) := SlotTransport.desiredInterest t queued
  let (registration, p, t) := MioPoller.register p t k interest
  registration = .ok () ∧ Breaks bound t ∧
    (MioPoller.deregister p (SlotTransport.pressureLimit (SlotTransport.pressure t).2).2 k).1 =
      .error source

/-- The entry of a new connection. -/
abbrev newEntry (config : ConnectionConfig) (slot : ConnectionSlot B D C R Q W) :
    ConnectionEntry B D C R Q W T :=
  ⟨config.identity, slot, none, .readWrite, false⟩

/-- The call strands the transport of its connector: under the token of its entry, with the
bound that was read off it. -/
inductive Stranded (s : ConnectionSet B D C R Q W T P X M) (config : ConnectionConfig)
    (limits : ConnectionSlotLimits) (decoder : D) (classifier : C)
    (connector : V → Except IoError T × V) (v : V) (source : MioError) : Prop where
  | mk {slot : ConnectionSlot B D C R Q W} {k : ResourceToken}
    {resources : M (ConnectionEntry B D C R Q W T)}
    {t t₁ : T} {bound : TransportPressure × ℕ}
    (running : s.ownerFailure = none)
    (created : (ConnectionSlot.new config.slot limits decoder classifier :
      Except (FrameDecodeError E) _) = .ok slot)
    (enrolled : FencedTable.enroll s.resources config.identity (newEntry config slot) =
      (some k, resources))
    (connected : (connector v).1 = .ok t)
    (bounded : (bindTransport limits.transportRetainedBytes t : Except (ConnectError E) _ × T) =
      (.ok bound, t₁))
    (strands : Strands s.poller k (0 < slot.core.queuedWriteFrames) t₁ bound source) :
    Stranded s config limits decoder classifier connector v source

/-- A resource slot is reserved for the connection. -/
def Reserved (s : ConnectionSet B D C R Q W T P X M) (config : ConnectionConfig)
    (limits : ConnectionSlotLimits) (decoder : D) (classifier : C) : Prop :=
  s.ownerFailure = none ∧ ∃ slot,
    (ConnectionSlot.new config.slot limits decoder classifier :
      Except (FrameDecodeError E) _) = .ok slot ∧
    (FencedTable.enroll s.resources config.identity (newEntry (T := T) config slot)).1.isSome

variable {s s' : ConnectionSet B D C R Q W T P X M} {k : ResourceToken}
  {entry : ConnectionEntry B D C R Q W T}

/-- A set with a row for a new entry. -/
structure Prepared (s s₁ : ConnectionSet B D C R Q W T P X M) (k : ResourceToken)
    (entry : ConnectionEntry B D C R Q W T) : Prop where
  running : s.ownerFailure = none
  fresh : s.find k = none
  unwatched : ¬LawfulPoller.registered T s.poller k
  find : ∀ x, s₁.find x = if x = k then some entry else s.find x
  ready : s₁.ready = s.ready
  ownerFailure : s₁.ownerFailure = s.ownerFailure
  issued : ∀ x, FencedTable.issued s₁.resources x ↔ x = k ∨ FencedTable.issued s.resources x

omit [ByteBudget B] [Retained R] [InboundClassifier C R] [EventBatch Q] [TimerQueue W]
  [RegisteredTransport T] [CommandMailbox X] in
lemma Prepared.enrolled (hrunning : s.ownerFailure = none) (hwatched : Watched T s)
    {resources : M (ConnectionEntry B D C R Q W T)} {i : ConnectionIdentity}
    (henroll : FencedTable.enroll s.resources i entry = (some k, resources)) :
    Prepared s { s with resources } k entry := by
  obtain ⟨hfresh, hget, hissued, _⟩ := FencedTable.enroll_some _ _ _ _ _ henroll
  refine ⟨hrunning, ?_, fun hk => hfresh (hwatched k hk), hget, rfl, rfl, hissued⟩
  rw [← Option.not_isSome_iff_eq_none]
  exact fun hsome => hfresh (FencedTable.issued_of_get _ _ hsome)

variable {s₁ : ConnectionSet B D C R Q W T P X M}

section
omit [RegisteredTransport T] [CommandMailbox X] [ByteBudget B] [Retained R] [InboundClassifier C R]
  [EventBatch Q] [TimerQueue W]

/-- The row may be changed, whatever the selector is now. -/
lemma Prepared.store (h : Prepared s s₁ k entry) (poller : P)
    (entry' : ConnectionEntry B D C R Q W T) :
    Prepared s (({ s₁ with poller } : ConnectionSet B D C R Q W T P X M).store k entry') k
      entry' := by
  refine ⟨h.running, h.fresh, h.unwatched, fun x => ?_, h.ready, h.ownerFailure, fun x => ?_⟩
  · have hself : ({ s₁ with poller } : ConnectionSet B D C R Q W T P X M).find k = some entry :=
      (h.find k).trans (if_pos rfl)
    rw [find_store, hself]
    split
    · rfl
    · next hx => exact (h.find x).trans (if_neg hx)
  · exact (FencedTable.issued_set ..).trans (h.issued x)

lemma Prepared.find_withdraw (h : Prepared s s₁ k entry) (x : ResourceToken) :
    (s₁.withdraw k).find x = s.find x := by
  rw [ConnectionSet.find_withdraw, h.find]
  split
  · next hx => rw [hx, h.fresh]
  · rfl

/-- A row that is withdrawn is as if it had never been there. -/
lemma Prepared.withdraw (h : Prepared s s₁ k entry)
    (hsources : ∀ x, LawfulPoller.registered T s₁.poller x ↔ LawfulPoller.registered T s.poller x) :
    AsBefore s (s₁.withdraw k) :=
  ⟨h.find_withdraw, h.ready, h.ownerFailure, hsources⟩

end

omit [RegisteredTransport T] [ByteBudget B] [Retained R] [InboundClassifier C R] [EventBatch Q]
  [TimerQueue W] in
/-- The same when the set is fenced before. -/
lemma Prepared.fenced (h : Prepared s s₁ k entry) (source : MioError) :
    Fenced source s ((s₁.latchSelectorFailure source).withdraw k) := by
  have hrunning : s₁.ownerFailure = none := h.ownerFailure.trans h.running
  have hlatched : s₁.latchSelectorFailure source =
      { s₁ with
        ownerFailure := some .readiness
        commands := CommandMailbox.close s₁.commands
        ready := []
        resources := FencedTable.modifyAll s₁.resources (ConnectionEntry.fence source) } := by
    unfold latchSelectorFailure
    rw [hrunning]
    rfl
  have hfind : ∀ x, ((s₁.latchSelectorFailure source).withdraw k).find x =
      (s.find x).map (ConnectionEntry.fence source) := by
    intro x
    rw [ConnectionSet.find_withdraw, find_latch source hrunning, h.find]
    split
    · next hx =>
      rw [hx, h.fresh]
      rfl
    · rfl
  refine ⟨by rw [hlatched]; rfl, by rw [hlatched]; rfl, hfind, fun x entry' hentry => ?_⟩
  rw [hfind, Option.map_eq_some_iff] at hentry
  obtain ⟨before, _, rfl⟩ := hentry
  exact Option.isSome_iff_ne_none.mpr fun hnone =>
    latchOwnerFailure_state _ _ (failure_none_iff.mp hnone)

/-- At most one token is registered and issued. -/
structure Widens (s s' : ConnectionSet B D C R Q W T P X M) (k : ResourceToken) : Prop where
  registered : ∀ x, LawfulPoller.registered T s'.poller x → x = k ∨
    LawfulPoller.registered T s.poller x
  issued : ∀ x, FencedTable.issued s'.resources x ↔ x = k ∨ FencedTable.issued s.resources x

omit [ByteBudget B] [Retained R] [InboundClassifier C R] [EventBatch Q] [TimerQueue W]
  [RegisteredTransport T] [CommandMailbox X] in
lemma Widens.watched (h : Widens s s' k) (hs : Watched T s) : Watched T s' := fun x hx =>
  (h.issued x).mpr ((h.registered x hx).imp_right (hs x))

/-- **What an attempt to connect comes to.** It strands a transport where `stuck` holds of the
error of the deregistration. -/
inductive Attempt (stuck : MioError → Prop) (config : ConnectionConfig)
    (limits : ConnectionSlotLimits) (s s' : ConnectionSet B D C R Q W T P X M) :
    Except (ConnectError E) ConnectionToken → Prop where
  | undone (error : ConnectError E) (free : ∀ source, ¬stuck source) (before : AsBefore s s') :
    Attempt stuck config limits s s' (.error error)
  | stranded {source : MioError} (strands : ∀ cause, stuck cause ↔ cause = source)
    (fenced : Fenced source s s') :
    Attempt stuck config limits s s' (.error (.mio source))
  | admitted {token : ConnectionToken} (free : ∀ source, ¬stuck source)
    (admitted : Admitted config limits s s' token) :
    Attempt stuck config limits s s' (.ok token)

omit [ByteBudget B] [FrameDecoder D R E] [Retained R] [InboundClassifier C R] [EventBatch Q]
  [TimerQueue W] [RegisteredTransport T] [CommandMailbox X] in
lemma Attempt.congr {stuck stuck' : MioError → Prop} {config : ConnectionConfig}
    {limits : ConnectionSlotLimits} {result : Except (ConnectError E) ConnectionToken}
    (h : Attempt stuck config limits s s' result)
    (heq : ∀ source, stuck' source ↔ stuck source) : Attempt stuck' config limits s s' result := by
  cases h with
  | undone error free before =>
    exact .undone error (fun source => (heq source).not.mpr (free source)) before
  | stranded strands fenced =>
    exact .stranded (fun cause => (heq cause).trans (strands cause)) fenced
  | admitted free admitted =>
    exact .admitted (fun source => (heq source).not.mpr (free source)) admitted

variable {config : ConnectionConfig} {limits : ConnectionSlotLimits}

section
omit [FrameDecoder D R E] [ByteBudget B] [Retained R] [InboundClassifier C R] [EventBatch Q]
  [TimerQueue W]

/-- A transport that broke its contract is deregistered, and its entry withdrawn. -/
lemma Prepared.undoRegistration {t t₀ : T} {interest : Interest} {p : P} (h : Prepared s s₁ k entry)
    (hpoller : s₁.poller = p)
    (hregistered : MioPoller.register s.poller t₀ k interest = (.ok (), p, t))
    (error : ConnectError E) :
    Attempt (fun source =>
      (MioPoller.deregister p (SlotTransport.pressureLimit (SlotTransport.pressure t).2).2 k).1 =
      .error source)
        config limits s (s₁.undoRegistration k entry
          (SlotTransport.pressureLimit (SlotTransport.pressure t).2).2 error).2
        (s₁.undoRegistration k entry
          (SlotTransport.pressureLimit (SlotTransport.pressure t).2).2 error).1 ∧
      Widens s (s₁.undoRegistration k entry
        (SlotTransport.pressureLimit (SlotTransport.pressure t).2).2 error).2 k := by
  have hafter := LawfulPoller.register_ok _ _ _ _ _ _ hregistered
  unfold ConnectionSet.undoRegistration
  rw [hpoller]
  rcases hcleanup : MioPoller.deregister p
    (SlotTransport.pressureLimit (SlotTransport.pressure t).2).2 k with ⟨cleanup, p₁, t₁⟩
  have hstored := h.store p₁ { entry with
    slot := { entry.slot with transportPressure := some (SlotTransport.pressure t₁).1 },
      transport := some (SlotTransport.pressure t₁).2 }
  dsimp only
  generalize hs₂ : ({ s₁ with poller := p₁ } : ConnectionSet B D C R Q W T P X M).store k _ =
    s₂ at hstored
  have hp₁ : s₂.poller = p₁ := by rw [← hs₂]; rfl
  cases cleanup with
  | error source =>
    refine ⟨.stranded (fun cause => ?_) (hstored.fenced source), ?_, fun x => ?_⟩
    · exact ⟨fun heq => (by cases heq; rfl), fun heq => heq ▸ rfl⟩
    · intro x hx
      by_cases hxk : x = k
      · exact .inl hxk
      · have hx' : LawfulPoller.registered T p₁ x := hp₁ ▸ latch_poller s₂ source ▸ hx
        exact (hafter x).mp ((LawfulPoller.deregister_error p p₁ _ t₁ k source hcleanup x
          hxk).mp hx')
    · exact (FencedTable.issued_remove ..).trans
        ((latch_issued s₂ source x).trans (hstored.issued x))
  | ok _ =>
    have hgone := LawfulPoller.deregister_ok p p₁ _ t₁ k hcleanup
    have hsame : ∀ x, LawfulPoller.registered T s₂.poller x ↔
        LawfulPoller.registered T s.poller x := by
      intro x
      rw [hp₁, hgone, hafter]
      refine ⟨fun ⟨hx, hor⟩ => hor.resolve_left hx, fun hx => ⟨?_, .inr hx⟩⟩
      rintro rfl
      exact h.unwatched hx
    exact ⟨.undone error (fun _ => nofun) (hstored.withdraw hsame), fun x hx =>
      .inr ((hsame x).mp hx),
      fun x => (FencedTable.issued_remove ..).trans (hstored.issued x)⟩

/-- The registration of a prepared entry. -/
lemma Prepared.registerEntry (h : Prepared s s₁ k entry) (hpoller : s₁.poller = s.poller)
    (hqueued : entry.readyQueued = false) (hidentity : entry.identity = config.identity)
    (hstate : entry.slot.state = .running) (hlimits : entry.slot.limits = limits) (t : T)
    {bound : TransportPressure × ℕ} (hbound : bound.2 ≤ limits.transportRetainedBytes) :
    Attempt (Strands s.poller k (0 < entry.slot.core.queuedWriteFrames) t bound) config limits s
        (s₁.registerEntry k entry t bound : Except (ConnectError E) _ × _).2
        (s₁.registerEntry k entry t bound : Except (ConnectError E) _ × _).1 ∧
      Widens s (s₁.registerEntry k entry t bound : Except (ConnectError E) _ × _).2 k := by
  unfold Strands
  unfold ConnectionSet.registerEntry
  rw [hpoller]
  generalize SlotTransport.desiredInterest t (0 < entry.slot.core.queuedWriteFrames) = desired
  obtain ⟨interest, t₁⟩ := desired
  dsimp only
  rcases hregister : MioPoller.register s.poller t₁ k interest with ⟨registration, p, t₂⟩
  have hstored := h.store p { entry with
    slot := { entry.slot with
      transportPressure := some (SlotTransport.pressure t₂).1,
      transportRetainedLimit := some bound.2 }
    interest
    transport := some (SlotTransport.pressureLimit (SlotTransport.pressure t₂).2).2 }
  dsimp only at hstored ⊢
  generalize hs₂ : ({ s₁ with poller := p } : ConnectionSet B D C R Q W T P X M).store k _ =
    s₂ at hstored
  have hp : s₂.poller = p := by rw [← hs₂]; rfl
  cases registration with
  | error source =>
    have hsame : ∀ x, LawfulPoller.registered T s₂.poller x ↔
        LawfulPoller.registered T s.poller x := fun x => by
      rw [hp]
      exact LawfulPoller.register_error _ _ _ _ _ _ _ hregister x
    exact ⟨.undone _ (fun _ hstuck => nomatch hstuck.1) (hstored.withdraw hsame),
      fun x hx => .inr ((hsame x).mp hx), fun x =>
        (FencedTable.issued_remove ..).trans (hstored.issued x)⟩
  | ok _ =>
    have hstuck (hbreaks : Breaks bound t₂) (source : MioError) :
        ((.ok () : Except MioError Unit) = .ok () ∧ Breaks bound t₂ ∧
          (MioPoller.deregister p (SlotTransport.pressureLimit (SlotTransport.pressure t₂).2).2
            k).1 = .error source) ↔
        (MioPoller.deregister p (SlotTransport.pressureLimit (SlotTransport.pressure t₂).2).2 k).1 =
            .error source :=
      ⟨fun hall => hall.2.2, fun hcleanup => ⟨rfl, hbreaks, hcleanup⟩⟩
    dsimp only
    split
    · next hlimit =>
      exact (hstored.undoRegistration hp hregister _).imp_left fun hundone =>
        hundone.congr (hstuck (.inl hlimit))
    · split
      · next hpressure =>
        exact (hstored.undoRegistration hp hregister _).imp_left fun hundone =>
          hundone.congr (hstuck (.inr hpressure))
      · next hkept hfits =>
        have hfree : ∀ source : MioError,
          ¬((.ok () : Except MioError Unit) = .ok () ∧ Breaks bound t₂ ∧
            (MioPoller.deregister p (SlotTransport.pressureLimit (SlotTransport.pressure t₂).2).2
                k).1 = .error source) :=
          fun _ hall => hall.2.1.elim hkept hfits
        have hself := (hstored.find k).trans (if_pos rfl)
        have henqueue : s₂.enqueue k = { s₂.store k { entry with
            slot := { entry.slot with
              transportPressure := some (SlotTransport.pressure t₂).1,
              transportRetainedLimit := some bound.2 }
            interest
            transport := some (SlotTransport.pressureLimit (SlotTransport.pressure t₂).2).2
            readyQueued := true } with ready := s₂.ready ++ [k] } := by
          unfold ConnectionSet.enqueue
          rw [hself]
          exact if_neg (by simp [hqueued])
        have hafter := LawfulPoller.register_ok _ _ _ _ _ _ hregister
        have hqueuedFind : ∀ x, (s₂.enqueue k).find x = if x = k then some { entry with
            slot := { entry.slot with
              transportPressure := some (SlotTransport.pressure t₂).1,
              transportRetainedLimit := some bound.2 }
            interest
            transport := some (SlotTransport.pressureLimit (SlotTransport.pressure t₂).2).2
            readyQueued := true } else s.find x := by
          intro x
          rw [henqueue]
          exact (hstored.store s₂.poller _).find x
        refine ⟨.admitted hfree ⟨hidentity, h.fresh, fun x hx =>
          (hqueuedFind x).trans (if_neg hx), ?_, fun x => ?_, ?_, ?_⟩, ?_, fun x => ?_⟩
        · rw [henqueue, ← hstored.ready]
        · rw [henqueue]
          exact hp ▸ hafter x
        · rw [henqueue, ← hstored.ownerFailure]
          rfl
        · exact ⟨_, (hqueuedFind k).trans (if_pos rfl), hidentity, rfl, rfl, hstate, hlimits,
            bound.2, _, rfl, hbound, rfl, not_lt.mp hfits⟩
        · intro x hx
          rw [henqueue] at hx
          exact (hafter x).mp (hp ▸ hx)
        · rw [henqueue]
          exact (FencedTable.issued_set ..).trans (hstored.issued x)

end

section
variable {decoder : D} {classifier : C}

section
omit [Retained R] [InboundClassifier C R] [LawfulPoller P T]

/-- Without a reserved slot nothing changes, whatever the connector is. -/
lemma connectWith_unreserved (hnot : ¬Reserved s config limits decoder classifier) :
    ∃ error : ConnectError E, ∀ (connector : V → Except IoError T × V) v,
      s.connectWith config limits decoder classifier connector v = (.error error, s, v) := by
  by_cases hfailed : s.ownerFailure = none
  · cases hslot : (ConnectionSlot.new config.slot limits decoder classifier :
        Except (FrameDecodeError E) (ConnectionSlot B D C R Q W)) with
    | error error =>
      exact ⟨.decoder error, fun connector v =>
        by simp only [ConnectionSet.connectWith, hfailed, hslot]⟩
    | ok slot =>
      refine ⟨.resourceAdmission, fun connector v => ?_⟩
      unfold ConnectionSet.connectWith
      split
      · next reason hreason => cases hfailed.symm.trans hreason
      · rw [hslot]
        dsimp only
        split
        · next resources henroll =>
          obtain rfl := FencedTable.enroll_none _ _ _ _ henroll
          rfl
        · next k resources henroll => exact absurd ⟨hfailed, slot, hslot, by rw [henroll]; rfl⟩ hnot
  · obtain ⟨reason, hreason⟩ := Option.ne_none_iff_exists'.mp hfailed
    exact ⟨.ownerFailed reason, fun connector v =>
      by simp only [ConnectionSet.connectWith, hreason]⟩

/-- With one, the connector is called, and its transport is bound and registered. -/
lemma connectWith_reserved {slot : ConnectionSlot B D C R Q W}
    {resources : M (ConnectionEntry B D C R Q W T)} (hrunning : s.ownerFailure = none)
    (hslot : (ConnectionSlot.new config.slot limits decoder classifier :
      Except (FrameDecodeError E) _) = .ok slot)
    (henroll : FencedTable.enroll s.resources config.identity (newEntry config slot) =
      (some k, resources)) (connector : V → Except IoError T × V) (v : V) :
    s.connectWith config limits decoder classifier connector v =
      match connector v with
      | (.error source, v) =>
        (.error (.io source),
          ({ s with resources } : ConnectionSet B D C R Q W T P X M).withdraw k, v)
      | (.ok t, v) =>
        match bindTransport limits.transportRetainedBytes t with
        | (.error error, _) =>
          (.error error, ({ s with resources } : ConnectionSet B D C R Q W T P X M).withdraw k, v)
        | (.ok bound, t) =>
          ((({ s with resources } : ConnectionSet B D C R Q W T P X M).registerEntry k
              (newEntry config slot) t bound).1,
            (({ s with resources } : ConnectionSet B D C R Q W T P X M).registerEntry (E := E) k
              (newEntry config slot) t bound).2, v) := by
  unfold ConnectionSet.connectWith
  split
  · next reason hreason => cases hrunning.symm.trans hreason
  · rw [hslot]
    dsimp only
    generalize FencedTable.enroll s.resources _ _ = enrolled at henroll ⊢
    subst henroll
    rfl

end

omit [Retained R] [InboundClassifier C R] [LawfulPoller P T] [CommandMailbox X] in
/-- A reserved call strands a transport where its registration does. -/
lemma stranded_iff {slot : ConnectionSlot B D C R Q W}
    {resources : M (ConnectionEntry B D C R Q W T)} (hrunning : s.ownerFailure = none)
    (hslot : (ConnectionSlot.new config.slot limits decoder classifier :
      Except (FrameDecodeError E) _) = .ok slot)
    (henroll : FencedTable.enroll s.resources config.identity (newEntry config slot) =
      (some k, resources))
    (connector : V → Except IoError T × V) (v : V) (source : MioError) :
    Stranded s config limits decoder classifier connector v source ↔
      ∃ t t₁ bound, (connector v).1 = .ok t ∧
      (bindTransport limits.transportRetainedBytes t : Except (ConnectError E) _ × T) =
        (.ok bound, t₁) ∧
      Strands s.poller k (0 < slot.core.queuedWriteFrames) t₁ bound source := by
  constructor
  · rintro ⟨_, created, enrolled, connected, bounded, strands⟩
    cases hslot.symm.trans created
    cases henroll.symm.trans enrolled
    exact ⟨_, _, _, connected, bounded, strands⟩
  · rintro ⟨t, t₁, bound, connected, bounded, strands⟩
    exact ⟨hrunning, hslot, henroll, connected, bounded, strands⟩

omit [Retained R] [InboundClassifier C R] in
/-- **An attempt to connect is undone, strands, or admits one entry.** -/
lemma connectWith_attempt (hwatched : Watched T s) (connector : V → Except IoError T × V) (v : V) :
    Attempt (Stranded s config limits decoder classifier connector v) config limits s
        (s.connectWith config limits decoder classifier connector v :
          Except (ConnectError E) _ × _).2.1
        (s.connectWith config limits decoder classifier connector v :
          Except (ConnectError E) _ × _).1 ∧
      Watched T (s.connectWith config limits decoder classifier connector v :
        Except (ConnectError E) _ × _).2.1 ∧
      (Reserved s config limits decoder classifier →
        (s.connectWith config limits decoder classifier connector v :
          Except (ConnectError E) _ × _).2.2 = (connector v).2) := by
  by_cases hreserved : Reserved s config limits decoder classifier
  · obtain ⟨hrunning, slot, hslot, hsome⟩ := hreserved
    rcases henroll : FencedTable.enroll s.resources config.identity (newEntry (T := T) config slot)
      with ⟨_ | k, resources⟩
    · rw [henroll] at hsome
      cases hsome
    · have hprepared := Prepared.enrolled hrunning hwatched henroll
      have hwithdrawn : AsBefore s
          (({ s with resources } : ConnectionSet B D C R Q W T P X M).withdraw k) :=
        hprepared.withdraw fun _ => Iff.rfl
      have hwidens : Widens s (
          ({ s with resources } : ConnectionSet B D C R Q W T P X M).withdraw k) k :=
        ⟨fun x hx => .inr hx, fun x => (FencedTable.issued_remove ..).trans (hprepared.issued x)⟩
      obtain ⟨hwithin, hsetup⟩ := new_setup hslot
      rw [connectWith_reserved hrunning hslot henroll]
      have hstranded := stranded_iff hrunning hslot henroll connector v
      rcases hconnected : connector v with ⟨source | t, v'⟩
      · refine ⟨.undone _ (fun cause hstuck => ?_) hwithdrawn, hwidens.watched hwatched,
          fun _ => rfl⟩
        obtain ⟨_, _, _, hsame, _⟩ := (hstranded cause).mp hstuck
        rw [hconnected] at hsame
        cases hsame
      · dsimp only
        rcases hbind : (bindTransport limits.transportRetainedBytes t :
          Except (ConnectError E) _ × T) with ⟨error | bound, t₁⟩
        · refine ⟨.undone _ (fun cause hstuck => ?_) hwithdrawn, hwidens.watched hwatched,
            fun _ => rfl⟩
          obtain ⟨_, _, _, hsame, hbound, _⟩ := (hstranded cause).mp hstuck
          rw [hconnected] at hsame
          cases hsame
          cases hbind.symm.trans hbound
        · obtain ⟨_, _, _, hceiling, _⟩ := bindTransport_looks hbind
          obtain ⟨hattempt, hwide⟩ : Attempt _ config limits s _ _ ∧ _ :=
            hprepared.registerEntry (E := E) rfl rfl rfl
            (by rw [hsetup]; rfl) (by rw [hsetup]; rfl) t₁ hceiling
          refine ⟨hattempt.congr fun cause => (hstranded cause).trans ⟨?_, fun strands => ?_⟩,
            hwide.watched hwatched, fun _ => rfl⟩
          · rintro ⟨_, _, _, hsame, hbound, strands⟩
            rw [hconnected] at hsame
            cases hsame
            cases hbind.symm.trans hbound
            exact strands
          · exact ⟨t, t₁, bound, by rw [hconnected], hbind, strands⟩
  · obtain ⟨error, hrun⟩ := connectWith_unreserved (V := V) hreserved
    rw [hrun connector v]
    refine ⟨.undone error ?_ ⟨fun _ => rfl, rfl, rfl, fun _ => Iff.rfl⟩, hwatched, fun h =>
      absurd h hreserved⟩
    rintro cause ⟨running, created, enrolled, _⟩
    exact hreserved ⟨running, _, created, by rw [enrolled]; rfl⟩

end

/-! ### Runs -/

omit [ByteBudget B] [Retained R] [InboundClassifier C R] [EventBatch Q] [TimerQueue W] in
lemma releaseTransport_registered {s : ConnectionSet B D C R Q W T P X M} {k x : ResourceToken}
    {entry : ConnectionEntry B D C R Q W T}
    (h : LawfulPoller.registered T (s.releaseTransport k entry).2.poller x) :
    x = k ∨ LawfulPoller.registered T s.poller x := by
  unfold releaseTransport at h
  cases htransport : entry.transport with
  | none =>
    rw [htransport] at h
    exact .inr h
  | some t =>
    refine registered_deregister (t := t) ?_
    rw [htransport] at h
    dsimp only at h
    generalize MioPoller.deregister s.poller t k = released at h ⊢
    obtain ⟨source | _, poller, t₁⟩ := released
    · dsimp only at h
      rcases hlooked : captureTransportPressure (entry.slot, t₁) with ⟨_ | _, slot, t₂⟩
      · rw [hlooked] at h
        dsimp only at h
        rw [latch_poller] at h
        exact h
      · rw [hlooked] at h
        dsimp only at h
        rw [latch_poller] at h
        exact h
    · dsimp only at h
      rcases hlooked : captureTransportPressure (entry.slot, t₁) with ⟨_ | _, slot, t₂⟩
      · rw [hlooked] at h
        exact h
      · rw [hlooked] at h
        exact h

/-- The moves of a set keep its selector to the tokens of its table. -/
lemma SetMove.watched {w w' : SetWorld B D C R Q W T P X M} (h : SetMove w w')
    (hw : Watched T w.set) : Watched T w'.set := by
  cases h with
  | beside permits beside =>
    unfold Watched
    rw [beside.poller, beside.resources]
    exact hw
  | poll permits s maximum events =>
    exact fun x hx => hw x ((LawfulPoller.poll_same s.poller maximum events x).mp hx)
  | @edit permits s k entry entry' poller taken find edits =>
    intro x hx
    refine (FencedTable.issued_set ..).mpr ?_
    rcases edits.registered hx with rfl | hbefore
    · exact FencedTable.issued_of_get _ _ (Option.isSome_of_eq_some find)
    · exact hw x hbefore
  | forget permits index gone => exact hw
  | @fence permits s source running =>
    intro x hx
    refine (latch_issued s source x).mpr (hw x ?_)
    rw [latch_poller] at hx
    exact hx
  | remove permits s k => exact fun x hx => (FencedTable.issued_remove ..).mpr (hw x hx)
  | @release permits s k entry find =>
    intro x hx
    refine (FencedTable.issued_remove ..).mpr ((releaseTransport_issued s k entry x).mpr ?_)
    rcases releaseTransport_registered hx with rfl | hbefore
    · exact FencedTable.issued_of_get _ _ (Option.isSome_of_eq_some find)
    · exact hw x hbefore
  | connect permits s config limits decoder classifier connector =>
    exact (connectWith_attempt hw connector ()).2.1

/-- Every reachable set watches nothing but tokens of its table, when its
selector started with none. -/
lemma watched_run (setup : SetSetup P X) (hblank : ∀ x, ¬LawfulPoller.registered T setup.poller x)
    (calls : List (SetCall D C T)) :
    Watched T (setup.final B Q W M calls : SetWorld B D C R Q W T P X M).set :=
  reach_run setup (I := fun w => Watched T w.set) (fun x hx => absurd hx (hblank x))
    (fun _ _ hmove hw => hmove.watched hw) calls

/-- **Connecting is atomic.** In every reachable set, with any connector and transport: a failure
leaves the entries, the queue and the registered sources as they were, or the transport of the
connector broke its bound during its registration and could not be deregistered; then, and only
then, the set is fenced with every live slot. A success adds one entry, queued once, whose bound
limit is within the ceiling and whose observed memory is within that limit. Without a reserved slot
the connector is not called. -/
theorem connect_atomic (setup : SetSetup P X)
    (hblank : ∀ x, ¬LawfulPoller.registered T setup.poller x) (calls : List (SetCall D C T))
    (config : ConnectionConfig) (limits : ConnectionSlotLimits) (decoder : D) (classifier : C)
    (connector : V → Except IoError T × V) (v : V) :
    let s := (setup.final B Q W M calls : SetWorld B D C R Q W T P X M).set
    let ran : Except (ConnectError E) ConnectionToken × _ × V :=
      s.connectWith config limits decoder classifier connector v
    (∀ error, ran.1 = .error error → AsBefore s ran.2.1 ∨
      ∃ source, error = .mio source ∧
        Stranded s config limits decoder classifier connector v source ∧
        Fenced source s ran.2.1) ∧
    (∀ source, Stranded s config limits decoder classifier connector v source →
      ran.1 = .error (.mio source) ∧ Fenced source s ran.2.1) ∧
    (∀ token, ran.1 = .ok token → Admitted config limits s ran.2.1 token ∧
      ran.2.1.ready.count token.resource = 1) ∧
    (Reserved s config limits decoder classifier → ran.2.2 = (connector v).2) ∧
    (¬Reserved s config limits decoder classifier → ∀ (other : V → Except IoError T × V) u,
      s.connectWith config limits decoder classifier other u = (ran.1, s, u)) := by
  dsimp only
  have hwatched := watched_run (B := B) (R := R) (Q := Q) (W := W) (M := M) setup hblank calls
  have horderly := orderly_run (B := B) (R := R) (Q := Q) (W := W) (M := M) setup calls
  generalize (setup.final B Q W M calls : SetWorld B D C R Q W T P X M).set =
    s at hwatched horderly ⊢
  obtain ⟨hattempt, _, hcalled⟩ :
      Attempt (Stranded s config limits decoder classifier connector v) config limits s
        (s.connectWith config limits decoder classifier connector v :
          Except (ConnectError E) _ × _).2.1 _ ∧ _ :=
    connectWith_attempt hwatched connector v
  refine ⟨fun error herror => ?_, fun source hstranded => ?_, fun token htoken =>
    ?_, hcalled, fun hnot other u => ?_⟩
  · rw [herror] at hattempt
    cases hattempt with
    | undone _ _ before => exact .inl before
    | stranded strands fenced => exact .inr ⟨_, rfl, (strands _).mpr rfl, fenced⟩
  · generalize s.connectWith config limits decoder classifier connector v = ran at hattempt ⊢
    obtain ⟨result, s', v'⟩ := ran
    cases hattempt with
    | undone _ free => exact absurd hstranded (free source)
    | stranded strands fenced =>
      obtain rfl := (strands source).mp hstranded
      exact ⟨rfl, fenced⟩
    | admitted free => exact absurd hstranded (free source)
  · rw [htoken] at hattempt
    cases hattempt with
    | admitted _ hadmitted =>
      have hready : token.resource ∉ s.ready := fun hmem => by
        obtain ⟨entry, hentry, _⟩ := (horderly.lists.mem_iff token.resource).mp hmem
        cases hadmitted.fresh.symm.trans hentry
      refine ⟨hadmitted, ?_⟩
      rw [hadmitted.ready, List.count_append, List.count_eq_zero_of_not_mem hready,
        List.count_singleton_self]
  · obtain ⟨error, hrun⟩ := connectWith_unreserved (V := V) hnot
    rw [hrun connector v]
    exact hrun other u

/-- A peer is admitted to an empty set. -/
theorem connect_atomic_sample :
    let s := (SetSetup.sample.final Counted ListBatch ListTimers ListTable
      ([] : List (SetCall ByteDecoder ByteClassifier Peer))).set
    let ran : Except (ConnectError Empty) ConnectionToken × _ × Unit :=
      s.connectWith .sample SlotSetup.sample.limits ⟨[]⟩ ⟨⟩ (fun u => (.ok Peer.waiting, u)) ()
    ran.1.toOption = some ⟨⟨0⟩, ConnectionConfig.sample.identity⟩ ∧
      Admitted .sample SlotSetup.sample.limits s ran.2.1
          ⟨⟨0⟩, ConnectionConfig.sample.identity⟩ := by
  have hadmitted :=
    (connect_atomic (B := Counted) (Q := ListBatch) (W := ListTimers) (M := ListTable)
    SetSetup.sample
    (fun _ => List.not_mem_nil) ([] : List (SetCall ByteDecoder ByteClassifier Peer)) .sample
      SlotSetup.sample.limits
    (⟨[]⟩ : ByteDecoder) (⟨⟩ : ByteClassifier) (fun u : Unit => (.ok Peer.waiting, u)) ()).2.2.1
  exact ⟨rfl, (hadmitted ⟨⟨0⟩, ConnectionConfig.sample.identity⟩ rfl).1⟩

end Bornera.Shared
