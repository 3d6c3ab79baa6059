import Bornera.Shared.Entries
import Bornera.Slot.Memory

/-!
# The memory of the transports of a set

Within a set the memory of a transport is also looked at when its readiness is observed and after
each change of its registration. A broken contract fails the slot in the same call there too, or is
told by the report of the recovery.
-/

namespace Bornera.Shared

open Bornera.Core Bornera.Core.Epoch Slot Lib ConnectionSlot ConnectionSet Relation

variable {B D C R E T P X V : Type} {Q W : Type → Type} {M : Type → Type} [ByteBudget B]
  [FrameDecoder D R E] [Retained R] [InboundClassifier C R] [EventBatch Q] [TimerQueue W]
  [FencedTable M ConnectionIdentity ResourceToken] [RegisteredTransport T] [MioPoller P T]
  [CommandMailbox X]

variable {permits : List OperationPermit} {s s' : ConnectionSlot B D C R Q W}
  {entry entry' : ConnectionEntry B D C R Q W T}

/-! ### Slots -/

/-- The memory of the transport is fail-closed: while the slot runs, the last report
is within the bound, which is within the ceiling; after a broken contract it does not
run, and its recovery tells. -/
structure FailClosed (s : ConnectionSlot B D C R Q W) : Prop where
  within : s.state = .running →
    ∀ pressure ∈ s.transportPressure, ∃ limit ∈ s.transportRetainedLimit,
    pressure.total ≤ limit ∧ limit ≤ s.limits.transportRetainedBytes
  failed : s.transportContractDiverged = true → s.state ≠ .running ∧
    ∀ reason cleanupFailed, (s.recoverOwned reason cleanupFailed).1.ownershipDiverged = true

omit [Retained R] [InboundClassifier C R] [TimerQueue W] in
lemma FailClosed.of_guarded (h : Guarded s) : FailClosed s where
  within hrunning pressure hpressure := by
    have hkept : s.memory.diverged = false := Bool.eq_false_iff.mpr fun hd => h.failed hd hrunning
    obtain ⟨limit, hlimit, hle⟩ := h.sound.pressure hkept pressure hpressure
    exact ⟨limit, hlimit, hle, h.sound.ceiling limit hlimit⟩
  failed hd := ⟨h.failed hd, fun reason cleanupFailed => by simp [recoverOwned, hd]⟩

/-- **What happens to a slot within a set guards its memory.** -/
lemma Handling.guarded {a b : Holding B D C R Q W T} (h : Handling P a b) {e : Epoch OutboundFrame}
    (howns : Owns a.1 a.2.1 e)
    (ha : Guarded a.2.1) : Guarded b.2.1 ∧ a.2.1.memory.Heeds b.2.1.memory := by
  cases h with
  | @call permits permits' s s' t c access answer =>
    obtain ⟨e', hstep, _⟩ := follows_slot howns c
    rw [answer] at hstep
    exact hstep.guarded ha
  | drive permits s t now =>
    obtain ⟨e', hstep, _⟩ := follows_slot howns (.driveQuantum now t)
    exact hstep.guarded ha
  | @settle permits s t ready =>
    obtain ⟨e', hstep, _⟩ := follows_slot howns (.settleTransportClosed : SlotCall T)
    exact hstep.guarded ha
  | @look permits s t ok =>
    obtain ⟨hmemory, hwithin⟩ := capture_memory s t
    dsimp only
    rw [hmemory]
    refine ⟨⟨by rw [hmemory]; exact ha.sound.look _ _, fun hd hrunning => ?_⟩, Memory.look_heeds ..⟩
    rw [hmemory, Memory.look_diverged] at hd
    rcases hd with hbefore | hbroken
    · rw [(capture_ready s t).2] at hrunning
      exact ha.failed hbefore hrunning
    · exact hbroken (hwithin.mp ok)
  | fail permits s t reason =>
    obtain ⟨hmemory, _⟩ := capture_memory s t
    dsimp only
    rw [latchOwnerFailure_memory, hmemory]
    refine ⟨⟨?_, fun _ => latchOwnerFailure_state _ _⟩, Memory.look_heeds ..⟩
    rw [latchOwnerFailure_memory, hmemory]
    exact ha.sound.look _ _
  | latch permits s t reason => exact ⟨ha.latch reason, latchOwnerFailure_memory s reason ▸ .refl _⟩
  | note permits s t diagnostic => exact ha.settled rfl id
  | complete permits request complete => exact ha.settled rfl id
  | handle permits s handled => exact ha.settled rfl id
  | drop permits t failed => exact ha.settled rfl id

/-- The slot of an entry is owned and guarded, and heeds what another slot knew. -/
structure Kept (m : Memory) (a : Holding B D C R Q W T) : Prop where
  owns : ∃ e, Owns a.1 a.2.1 e
  guarded : Guarded a.2.1
  heeds : m.Heeds a.2.1.memory

lemma Kept.handlings {m : Memory} {a b : Holding B D C R Q W T} (ha : Kept m a)
    (h : Handlings P a b) : Kept m b :=
  h.keeps (I := Kept m) (fun _ _ hmove ⟨⟨_, howns⟩, hguarded, hheeds⟩ =>
    ⟨hmove.owns howns, (hmove.guarded howns hguarded).1,
      hheeds.trans (hmove.guarded howns hguarded).2⟩) ha

/-! ### Runs -/

/-- The slot of an entry is owned and guarded. -/
def Tended (permits : List OperationPermit) (entry : ConnectionEntry B D C R Q W T) : Prop :=
  (∃ e, Owns permits entry.slot e) ∧ Guarded entry.slot

section
omit [Retained R] [InboundClassifier C R] [EventBatch Q] [TimerQueue W] [RegisteredTransport T]

lemma Tended.kept (h : Tended permits entry) :
    Kept entry.slot.memory (permits, entry.slot, entry.transport) :=
  ⟨h.1, h.2, .refl _⟩

lemma Kept.tended {m : Memory} (h : Kept m (permits, entry.slot, entry.transport)) :
    Tended permits entry :=
  ⟨h.owns, h.guarded⟩

end

omit [Retained R] [InboundClassifier C R] in
/-- A new slot is owned and guarded, with its first looks. -/
lemma Newcomer.tended (h : Newcomer P entry) : Tended [] entry := by
  cases h with
  | @mk config limits decoder classifier slot t₀ t₁ t₂ t₃ t₄ t₅ t₆ before after limit
    interest p p' k
      new first bound within fits wanted registered second same fits' =>
    obtain ⟨hdecoder, rfl⟩ := new_setup new
    refine ⟨⟨_, holds_new ..⟩, ⟨⟨?_, ?_⟩, fun hd => by cases hd⟩⟩
    · rintro _ ⟨⟩
      exact within
    · rintro _ _ ⟨⟩
      exact ⟨limit, rfl, fits'⟩

/-- Every live entry of a reachable set is tended. -/
lemma tended_run (setup : SetSetup P X) (calls : List (SetCall D C T)) :
    Entries (fun _ => Tended) (setup.final B Q W M calls : SetWorld B D C R Q W T P X M) := by
  refine entries_run (fun k a b hedits ha => ?_) (fun k permits entry source h => ?_)
    (fun k entry h => h.tended) setup calls
  · exact (ha.kept.handlings hedits.handled).tended
  · exact (h.kept.handlings (P := P) (fence_handled permits source entry)).tended

/-- A token is never given to another connection. -/
lemma SetMove.issued {k : ResourceToken} {w w' : SetWorld B D C R Q W T P X M} (h : SetMove w w')
    (hk : FencedTable.issued w.set.resources k) :
    FencedTable.issued w'.set.resources k := by
  cases h with
  | beside permits beside => exact beside.resources ▸ hk
  | poll => exact hk
  | edit => exact (FencedTable.issued_set ..).mpr hk
  | forget => exact hk
  | fence permits source running => exact (latch_issued ..).mpr hk
  | remove => exact (FencedTable.issued_remove ..).mpr hk
  | release permits find =>
    exact (FencedTable.issued_remove ..).mpr ((releaseTransport_issued ..).mpr hk)
  | connect permits s config limits decoder classifier connector =>
    exact (connectWith_descends config limits decoder classifier connector s ()).2 k hk

/-- Every entry is tended, and the one under `k`, if it is still live, heeds what it knew. -/
def Remembers (k : ResourceToken) (m : Memory) (x : ResourceToken) (permits : List OperationPermit)
    (entry : ConnectionEntry B D C R Q W T) : Prop :=
  Tended permits entry ∧ (x = k → m.Heeds entry.slot.memory)

lemma Remembers.handlings {k x : ResourceToken} {m : Memory} {permits' : List OperationPermit}
    (h : Remembers k m x permits entry)
    (hhandled : Handlings P (permits, entry.slot, entry.transport)
      (permits', entry'.slot, entry'.transport)) :
    Remembers k m x permits' entry' := by
  have hkept := h.1.kept.handlings hhandled
  exact ⟨hkept.tended, fun hx => (h.2 hx).trans hkept.heeds⟩

/-- **A bound is kept for as long as the connection lives.** -/
lemma remembered {k : ResourceToken} {w w' : SetWorld B D C R Q W T P X M}
    (hw : Entries (fun _ => Tended) w) (hreach : Reach w w') (hfind : w.set.find k = some entry)
    (hfind' : w'.set.find k = some entry') : entry.slot.memory.Heeds entry'.slot.memory := by
  have hrun : FencedTable.issued w'.set.resources k ∧
      Entries (Remembers k entry.slot.memory) w' := by
    refine hreach.keeps (I := fun w =>
      FencedTable.issued w.set.resources k ∧ Entries (Remembers k entry.slot.memory) w) ?_
        ⟨?_, ?_, ?_⟩
    · rintro a b hmove ⟨hissued, ha⟩
      refine ⟨hmove.issued hissued,
        hmove.entries (fun x c d hedits hc => ?_) (fun x permits row source h => ?_)
        (fun x row hx hnew => ?_) ha⟩
      · exact hc.handlings hedits.handled
      · exact h.handlings (P := P) (fence_handled permits source row)
      · refine ⟨hnew.tended, fun hxk => ?_⟩
        rw [hxk] at hx
        exact absurd hissued hx
    · exact FencedTable.issued_of_get _ _ (Option.isSome_of_eq_some hfind)
    · intro x row hrow
      refine ⟨hw.entry x row hrow, fun hx => ?_⟩
      rw [hx] at hrow
      cases hfind.symm.trans hrow
      exact .refl _
    · exact hw.unissued
  exact (hrun.2.entry k entry' hfind').2 rfl

/-! ### Audited transports -/

instance : RegisteredTransport (Audited T) where
  toSlotTransport := inferInstance
  observeReadiness u readiness :=
    { u with inner := RegisteredTransport.observeReadiness u.inner readiness }

/-- The list of reports starts when the transport is registered. -/
instance : MioPoller P (Audited T) where
  register p u k interest :=
    ((MioPoller.register p u.inner k interest).1, (MioPoller.register p u.inner k interest).2.1,
      ⟨(MioPoller.register p u.inner k interest).2.2, []⟩)
  reregister p u k interest :=
    ((MioPoller.reregister p u.inner k interest).1, (MioPoller.reregister p u.inner k interest).2.1,
      { u with inner := (MioPoller.reregister p u.inner k interest).2.2 })
  deregister p u k :=
    ((MioPoller.deregister p u.inner k).1, (MioPoller.deregister p u.inner k).2.1,
      { u with inner := (MioPoller.deregister p u.inner k).2.2 })
  poll p maximum events := MioPoller.poll (T := T) p maximum events

/-- The reports of a transport start with its registration, and the selector adds none. -/
class Reporting (N T : Type) [MioPoller N (Audited T)] : Prop where
  register : ∀ (p : N) (u : Audited T) k interest,
    (MioPoller.register p u k interest).2.2.reports = []
  reregister : ∀ (p : N) (u : Audited T) k interest,
    (MioPoller.reregister p u k interest).2.2.reports = u.reports
  deregister : ∀ (p : N) (u : Audited T) k, (MioPoller.deregister p u k).2.2.reports = u.reports

instance : Reporting P T := ⟨fun _ _ _ _ => rfl, fun _ _ _ _ => rfl, fun _ _ _ => rfl⟩

section
variable {N : Type} [MioPoller N (Audited T)] [Reporting N T]

lemma Handled.reports {u u' : Audited T} (h : Handled N u u') : u'.reports = u.reports := by
  cases h with
  | touched touch => exact touch.reports
  | reregistered => exact Reporting.reregister ..
  | deregistered => exact Reporting.deregister ..
  | _ => rfl

/-- The slot is owned, and every report of its transport is accounted for. -/
structure Reckoned (a : Holding B D C R Q W (Audited T)) : Prop where
  owns : ∃ e, Owns a.1 a.2.1 e
  accounts : ∀ u ∈ a.2.2, a.2.1.memory.Accounts u.reports

lemma Handling.reckoned {a b : Holding B D C R Q W (Audited T)} (h : Handling N a b)
    (hguarded : Guarded a.2.1) (ha : Reckoned a) :
    Reckoned b := by
  obtain ⟨e, howns⟩ := ha.owns
  refine ⟨h.owns howns, ?_⟩
  have hheeds := (h.guarded howns hguarded).2
  have haccounts := ha.accounts
  cases h with
  | call t access answer => exact fun u hu => hheeds.accounts (haccounts u hu)
  | drive permits s t now => exact howns.accounts now t haccounts
  | settle permits t ready => exact fun u hu => by cases hu
  | @look permits s t ok =>
    rintro u ⟨⟩
    exact Accounted.looked (haccounts t rfl) rfl
  | fail permits s t reason =>
    rintro u ⟨⟩
    dsimp only
    rw [latchOwnerFailure_memory]
    exact Accounted.looked (haccounts t rfl) rfl
  | latch permits s t reason => exact fun u hu => hheeds.accounts (haccounts u hu)
  | note permits s t diagnostic => exact fun u hu => hheeds.accounts (haccounts u hu)
  | @complete permits s t reason deadline request complete =>
    rintro u ⟨⟩
    exact hheeds.accounts (haccounts t rfl)
  | handle permits s handled =>
    rintro u ⟨⟩
    dsimp only
    rw [handled.reports]
    exact haccounts _ rfl
  | drop permits t failed => exact fun u hu => by cases hu

/-- An entry that is tended and whose transport is reckoned with. -/
def Audits (permits : List OperationPermit)
    (entry : ConnectionEntry B D C R Q W (Audited T)) : Prop :=
  Tended permits entry ∧ ∀ u ∈ entry.transport, entry.slot.memory.Accounts u.reports

lemma Audits.handlings {permits' : List OperationPermit}
    {entry entry' : ConnectionEntry B D C R Q W (Audited T)} (h : Audits permits entry)
    (hhandled : Handlings N (permits, entry.slot, entry.transport)
      (permits', entry'.slot, entry'.transport)) : Audits permits' entry' := by
  have hboth : Guarded entry'.slot ∧ Reckoned (permits', entry'.slot, entry'.transport) := by
    refine hhandled.keeps (I := fun a => Guarded a.2.1 ∧ Reckoned a) ?_ ⟨h.1.2, h.1.1, h.2⟩
    rintro a b hmove ⟨hguarded, hreckoned⟩
    obtain ⟨e, howns⟩ := hreckoned.owns
    exact ⟨(hmove.guarded howns hguarded).1, hmove.reckoned hguarded hreckoned⟩
  exact ⟨⟨hboth.2.owns, hboth.1⟩, hboth.2.accounts⟩

lemma pressure_reports {u u' : Audited T} {held : TransportPressure}
    (h : SlotTransport.pressure u = (held, u')) :
    u'.reports = u.reports ++ [.pressure held] := by
  cases h
  rfl

lemma limit_reports {u u' : Audited T} {bytes : ℕ}
    (h : SlotTransport.pressureLimit u = (bytes, u')) :
    u'.reports = u.reports ++ [.limit bytes] := by
  cases h
  rfl

omit [RegisteredTransport T] in
lemma register_reports {p p' : N} {u u' : Audited T} {k : ResourceToken} {interest : Interest}
    {result : Except MioError Unit}
    (h : MioPoller.register p u k interest = (result, p', u')) : u'.reports = [] := by
  have hstart := Reporting.register p u k interest
  rw [h] at hstart
  exact hstart

omit [Retained R] [InboundClassifier C R] in
lemma Newcomer.audits {entry : ConnectionEntry B D C R Q W (Audited T)} (h : Newcomer N entry) :
    Audits [] entry := by
  refine ⟨h.tended, ?_⟩
  cases h with
  | @mk config limits decoder classifier slot t₀ t₁ t₂ t₃ t₄ t₅ t₆ before after limit
    interest p p' k
      new first bound within fits wanted registered second same fits' =>
    obtain ⟨hdecoder, rfl⟩ := new_setup new
    rintro u ⟨⟩ report hreport
    rw [limit_reports same, pressure_reports second, register_reports registered] at hreport
    simp only [List.nil_append, List.cons_append, List.mem_cons, List.not_mem_nil,
      or_false] at hreport
    refine .inl ?_
    rcases hreport with rfl | rfl
    · exact ⟨limit, rfl, fits'⟩
    · exact ⟨rfl, within⟩

lemma audits_run (setup : SetSetup N X) (calls : List (SetCall D C (Audited T))) :
    Entries (fun _ => Audits)
      (setup.final B Q W M calls : SetWorld B D C R Q W (Audited T) N X M) := by
  refine entries_run (fun k a b hedits ha => ?_) (fun k permits entry source h => ?_)
    (fun k entry h => h.audits) setup calls
  · exact ha.handlings hedits.handled
  · exact h.handlings (N := N) (fence_handled permits source entry)

end

/-! ### Transports that are dropped -/

/-- A selector that keeps the transports it deregistered, as it handed them back. -/
structure Logged (P T : Type) where
  inner : P
  released : List (ResourceToken × T)

instance : MioPoller (Logged P T) T where
  register p t k interest :=
    ((MioPoller.register p.inner t k interest).1,
      { p with inner := (MioPoller.register p.inner t k interest).2.1 },
      (MioPoller.register p.inner t k interest).2.2)
  reregister p t k interest :=
    ((MioPoller.reregister p.inner t k interest).1,
      { p with inner := (MioPoller.reregister p.inner t k interest).2.1 },
      (MioPoller.reregister p.inner t k interest).2.2)
  deregister p t k :=
    ((MioPoller.deregister p.inner t k).1,
      ⟨(MioPoller.deregister p.inner t k).2.1,
        p.released ++ [(k, (MioPoller.deregister p.inner t k).2.2)]⟩,
      (MioPoller.deregister p.inner t k).2.2)
  poll p maximum events :=
    ((MioPoller.poll (T := T) p.inner maximum events).1,
      (MioPoller.poll (T := T) p.inner maximum events).2.1,
      { p with inner := (MioPoller.poll (T := T) p.inner maximum events).2.2 })

variable (T) in
/-- The same set with audited transports, over a selector that keeps what it releases. -/
def SetSetup.logged (setup : SetSetup P X) : SetSetup (Logged P (Audited T)) X :=
  ⟨setup.limits, ⟨setup.poller, []⟩, setup.commands⟩

instance : Reporting (Logged P (Audited T)) T :=
  ⟨fun _ _ _ _ => rfl, fun _ _ _ _ => rfl, fun _ _ _ => rfl⟩

/-- A transport after one look at its memory. -/
def afterLook (t : T) : T := (SlotTransport.pressure (SlotTransport.pressureLimit t).2).2

omit [ByteBudget B] [Retained R] [InboundClassifier C R] [EventBatch Q] [TimerQueue W] in
lemma capture_looked (s : ConnectionSlot B D C R Q W) (t : T) :
    (captureTransportPressure (s, t)).2.2 = afterLook t := by
  rw [capture_run]
  split
  · rfl
  · split <;> rfl

section
variable {entry entry' : ConnectionEntry B D C R Q W (Audited T)} {x k : ResourceToken}
  {u : Audited T}

include E in
/-- A settlement that releases the transport accounts for all its reports, those
of the last look included. -/
lemma settleEntry_released (ha : Audits permits entry) (p : Logged P (Audited T))
    (hx : (x, u) ∈ (entry.settleEntry p k).2.1.released) :
    (x, u) ∈ p.released ∨ x = k ∧
      (entry.settleEntry p k).2.2.slot.memory.Accounts (afterLook u).reports := by
  have hseen : Audits permits entry.observeShutdown :=
    ha.handlings (observeShutdown_handled (E := E) (P := Logged P (Audited T)) permits entry)
  obtain ⟨_, hrun⟩ | ⟨hready, ⟨_, hrun⟩ | ⟨t, htransport, hrun⟩⟩ := settleEntry_cases p k entry
  · rw [hrun] at hx
    exact .inl hx
  · rw [hrun] at hx
    exact .inl hx
  have hlast : (captureTransportPressure
    (entry.observeShutdown.slot, (MioPoller.deregister p t k).2.2)).2.1.memory.Accounts
      (afterLook (MioPoller.deregister p t k).2.2).reports := by
    rw [← capture_looked entry.observeShutdown.slot]
    exact Accounted.looked (hseen.2 t htransport) rfl
  have hheeds : (captureTransportPressure
    (entry.observeShutdown.slot, (MioPoller.deregister p t k).2.2)).2.1.memory.Heeds
      (entry.settleEntry p k).2.2.slot.memory := by
    have hkept := hseen.1.kept
    rw [htransport] at hkept
    have hlooked := hkept.handlings (E := E) (P := Logged P (Audited T))
      ((ReflTransGen.single (.handle permits _ (.deregistered p t k))).trans
        (Handlings.looks permits _ _))
    have hsame := capture_ready entry.observeShutdown.slot (MioPoller.deregister p t k).2.2
    rw [hrun]
    dsimp only
    generalize captureTransportPressure
      (entry.observeShutdown.slot, (MioPoller.deregister p t k).2.2) = looked at hlooked hsame ⊢
    obtain ⟨look, slot, t'⟩ := looked
    dsimp only at hlooked hsame ⊢
    cases (MioPoller.deregister p t k).1 with
    | error source =>
      rw [latchFailure_memory]
      cases source <;> exact .refl _
    | ok _ =>
      cases look with
      | error error =>
        rw [latchFailure_memory]
        exact .refl _
      | ok _ =>
        have hready' : slot.transportReleaseReady = true := by
          unfold transportReleaseReady
          rw [hsame.1]
          exact hready
        have hstep : Handlings (E := E) (Logged P (Audited T)) (permits, slot, some t')
            (permits, slot.settleTransportClosed.2, none) :=
          .single (.settle permits _ hready')
        exact (Kept.handlings ⟨hlooked.owns, hlooked.guarded, .refl _⟩ hstep).heeds
  have hreleased : (entry.settleEntry p k).2.1.released =
      p.released ++ [(k, (MioPoller.deregister p t k).2.2)] := by
    rw [hrun]
    dsimp only
    split <;> rfl
  rw [hreleased] at hx
  rcases List.mem_append.mp hx with hold | hnew
  · exact .inl hold
  · cases List.mem_singleton.mp hnew
    exact .inr ⟨rfl, hheeds.accounts hlast⟩

omit [ByteBudget B] [Retained R] [InboundClassifier C R] [EventBatch Q] [TimerQueue W] in
lemma syncInterest_released (p : Logged P (Audited T)) (k : ResourceToken)
    (entry : ConnectionEntry B D C R Q W (Audited T)) :
    (entry.syncInterest p k).2.1.released = p.released := by
  unfold ConnectionEntry.syncInterest
  dsimp only
  split
  · rfl
  · split
    · rfl
    · split
      · rfl
      · split <;> rfl

include E in
/-- What is done to one entry releases no transport but its own, and accounts
for all its reports. -/
lemma EntryMove.released {a b : EntryState B D C R Q W (Audited T) (Logged P (Audited T))}
    (h : EntryMove k a b) (ha : Audits a.1 a.2.2) (hx : (x, u) ∈ b.2.1.released) :
    (x, u) ∈ a.2.1.released ∨ x = k ∧ b.2.2.slot.memory.Accounts (afterLook u).reports := by
  cases h with
  | settle permits p entry => exact settleEntry_released (E := E) ha p hx
  | sync permits p entry =>
    rw [syncInterest_released] at hx
    exact .inl hx
  | _ => exact .inl hx

include E in
lemma Edits.released {a b : EntryState B D C R Q W (Audited T) (Logged P (Audited T))}
    (h : Edits k a b) (ha : Audits a.1 a.2.2) (hx : (x, u) ∈ b.2.1.released) :
    (x, u) ∈ a.2.1.released ∨ x = k ∧ b.2.2.slot.memory.Accounts (afterLook u).reports := by
  have hall : Audits b.1 b.2.2 ∧ ∀ x u, (x, u) ∈ b.2.1.released →
      (x, u) ∈ a.2.1.released ∨ x = k ∧ b.2.2.slot.memory.Accounts (afterLook u).reports := by
    refine h.keeps (I := fun y => Audits y.1 y.2.2 ∧ ∀ x u, (x, u) ∈ y.2.1.released →
      (x, u) ∈ a.2.1.released ∨ x = k ∧ y.2.2.slot.memory.Accounts (afterLook u).reports) ?_
        ⟨ha, fun _ _ => .inl⟩
    rintro c d hmove ⟨hc, hold⟩
    have hhandled := hmove.handled (E := E)
    refine ⟨hc.handlings hhandled, fun x u hx => ?_⟩
    rcases hmove.released (E := E) hc hx with hbefore | hnew
    · exact (hold x u hbefore).imp_right fun ⟨hk, haccounts⟩ =>
        ⟨hk, (hc.1.kept.handlings hhandled).heeds.accounts haccounts⟩
    · exact .inr hnew
  exact hall.2 x u hx

variable {s : ConnectionSet B D C R Q W (Audited T) (Logged P (Audited T)) X M}

omit [ByteBudget B] [Retained R] [InboundClassifier C R] [EventBatch Q] [TimerQueue W] in
lemma releaseTransport_released (hx : (x, u) ∈ (s.releaseTransport k entry).2.poller.released) :
    (x, u) ∈ s.poller.released ∨ x = k := by
  unfold releaseTransport at hx
  cases htransport : entry.transport with
  | none =>
    rw [htransport] at hx
    exact .inl hx
  | some t =>
    have hreleased : (x, u) ∈ s.poller.released ++
        [(k, (MioPoller.deregister s.poller t k).2.2)] := by
      rw [htransport] at hx
      dsimp only at hx
      split at hx
      · exact hx
      · exact hx
      · rw [latch_poller] at hx
        exact hx
      · rw [latch_poller] at hx
        exact hx
    rcases List.mem_append.mp hreleased with hold | hnew
    · exact .inl hold
    · cases List.mem_singleton.mp hnew
      exact .inr rfl

omit [FrameDecoder D R E] [ByteBudget B] [Retained R] [InboundClassifier C R] [EventBatch Q]
  [TimerQueue W] in
/-- A transport that is released while its connection is made leaves with its entry. -/
lemma Row.undo_released {s₁ : ConnectionSet B D C R Q W (Audited T) (Logged P (Audited T)) X M}
    (h : Row s s₁ k entry) (hsame : s₁.poller.released = s.poller.released) (t : Audited T)
    (error : ConnectError E)
    (hx : (x, u) ∈ (s₁.undoRegistration k entry' t error).2.poller.released) :
    (x, u) ∈ s.poller.released ∨
      FencedTable.issued (s₁.undoRegistration k entry' t error).2.resources x ∧
      (s₁.undoRegistration k entry' t error).2.find x = none := by
  have hreleased : (x, u) ∈ s₁.poller.released ++
      [(k, (MioPoller.deregister s₁.poller t k).2.2)] := by
    unfold ConnectionSet.undoRegistration at hx
    dsimp only at hx
    split at hx
    · simp only [ConnectionSet.withdraw, latch_poller] at hx
      exact hx
    · exact hx
  rcases List.mem_append.mp hreleased with hold | hnew
  · exact .inl (hsame ▸ hold)
  obtain ⟨rfl, -⟩ := Prod.mk.inj (List.mem_singleton.mp hnew)
  have hissued := (h.issued x).mpr (.inl rfl)
  refine .inr ?_
  unfold ConnectionSet.undoRegistration
  dsimp only
  split
  · exact ⟨(FencedTable.issued_remove ..).mpr
      ((latch_issued ..).mpr ((FencedTable.issued_set ..).mpr hissued)),
      (find_withdraw ..).trans (if_pos rfl)⟩
  · exact ⟨(FencedTable.issued_remove ..).mpr ((FencedTable.issued_set ..).mpr hissued),
      (find_withdraw ..).trans (if_pos rfl)⟩

omit [ByteBudget B] [Retained R] [InboundClassifier C R] [EventBatch Q] [TimerQueue W]
  [RegisteredTransport T] [MioPoller P T] [CommandMailbox X] in
lemma enqueue_poller (s : ConnectionSet B D C R Q W T P X M) (k : ResourceToken) :
    (s.enqueue k).poller = s.poller := by
  unfold ConnectionSet.enqueue
  split
  · rfl
  · split <;> rfl

omit [FrameDecoder D R E] [ByteBudget B] [Retained R] [InboundClassifier C R] [EventBatch Q]
  [TimerQueue W] in
lemma Row.register_released {s₁ : ConnectionSet B D C R Q W (Audited T) (Logged P (Audited T)) X M}
    (h : Row s s₁ k entry) (hsame : s₁.poller.released = s.poller.released) (t : Audited T)
    (bound : TransportPressure × ℕ)
    (hx : (x, u) ∈
      (s₁.registerEntry k entry t bound : Except (ConnectError E) _ × _).2.poller.released) :
    (x, u) ∈ s.poller.released ∨
      FencedTable.issued
        (s₁.registerEntry k entry t bound : Except (ConnectError E) _ × _).2.resources x ∧
      (s₁.registerEntry k entry t bound : Except (ConnectError E) _ × _).2.find x = none := by
  unfold ConnectionSet.registerEntry at hx ⊢
  dsimp only at hx ⊢
  generalize (SlotTransport.desiredInterest t (decide (0 < entry.slot.core.queuedWriteFrames))) =
    desired at hx ⊢
  obtain ⟨interest, t₁⟩ := desired
  have hregistered : (MioPoller.register s₁.poller t₁ k interest).2.1.released =
    s.poller.released := hsame
  dsimp only at hx ⊢
  generalize MioPoller.register s₁.poller t₁ k interest = registered at hregistered hx ⊢
  obtain ⟨registration, p, t₂⟩ := registered
  dsimp only at hregistered hx ⊢
  cases registration with
  | error source =>
    refine .inl ?_
    rw [← hregistered]
    exact hx
  | ok _ =>
    dsimp only at hx ⊢
    split at hx
    · next hlimit =>
      rw [if_pos hlimit]
      exact (h.store p _).undo_released hregistered _ _ hx
    · next hlimit =>
      rw [if_neg hlimit]
      split at hx
      · next hfull =>
        rw [if_pos hfull]
        exact (h.store p _).undo_released hregistered _ _ hx
      · refine .inl ?_
        rw [← hregistered]
        dsimp only at hx
        rw [enqueue_poller] at hx
        exact hx

omit [Retained R] [InboundClassifier C R] in
/-- An attempt to connect releases no transport but one that leaves with its entry. -/
lemma connectWith_released {config : ConnectionConfig} {limits : ConnectionSlotLimits} {decoder : D}
    {classifier : C} {connector : V → Except IoError (Audited T) × V} {v v' : V}
    {result : Except (ConnectError E) ConnectionToken}
    {s' : ConnectionSet B D C R Q W (Audited T) (Logged P (Audited T)) X M}
    (hrun : s.connectWith config limits decoder classifier connector v = (result, s', v'))
    (hx : (x, u) ∈ s'.poller.released) :
    (x, u) ∈ s.poller.released ∨ FencedTable.issued s'.resources x ∧ s'.find x = none := by
  unfold ConnectionSet.connectWith at hrun
  split at hrun
  · cases hrun
    exact .inl hx
  next hrunning =>
  split at hrun
  · cases hrun
    exact .inl hx
  next slot _ =>
  dsimp only at hrun
  split at hrun
  · cases hrun
    exact .inl hx
  next k resources henroll =>
  obtain ⟨hfresh, hget, hissued, _⟩ := FencedTable.enroll_some _ _ _ _ _ henroll
  have hrow : Row s { s with resources } k ⟨config.identity, slot, none, .readWrite, false⟩ :=
    ⟨hrunning, hfresh, hget, hissued⟩
  split at hrun
  · cases hrun
    exact .inl hx
  · split at hrun
    · cases hrun
      exact .inl hx
    · next bound t _ =>
      cases hrun
      exact hrow.register_released rfl t bound hx

variable {w w' : SetWorld B D C R Q W (Audited T) (Logged P (Audited T)) X M}

/-- **The release of a transport.** A move releases none but that of a connection it knows, whose
entry accounts for all its reports or is gone. -/
lemma SetMove.released (h : SetMove w w') (hw : Entries (fun _ => Audits) w)
    (hx : (x, u) ∈ w'.set.poller.released) :
    (x, u) ∈ w.set.poller.released ∨ FencedTable.issued w'.set.resources x ∧
      ∀ entry, w'.set.find x = some entry → entry.slot.memory.Accounts (afterLook u).reports := by
  cases h with
  | beside permits beside =>
    rw [beside.poller] at hx
    exact .inl hx
  | poll => exact .inl hx
  | @edit permits s k entry entry' poller taken find edits =>
    rcases edits.released (E := E) (hw.entry k entry find) hx with hold | ⟨rfl, haccounts⟩
    · exact .inl hold
    · refine .inr ⟨(FencedTable.issued_set ..).mpr
        (FencedTable.issued_of_get _ _ (Option.isSome_of_eq_some find)), ?_⟩
      rintro row hrow
      cases (find_store_self (s := { s with poller }) find entry').symm.trans hrow
      exact haccounts
  | forget => exact .inl hx
  | fence permits source running =>
    rw [latch_poller] at hx
    exact .inl hx
  | remove => exact .inl hx
  | @release permits s k entry find =>
    rcases releaseTransport_released hx with hold | rfl
    · exact .inl hold
    · refine .inr ⟨(FencedTable.issued_remove ..).mpr ((releaseTransport_issued ..).mpr
        (FencedTable.issued_of_get _ _ (Option.isSome_of_eq_some find))), fun row hrow => ?_⟩
      rw [find_withdraw, if_pos rfl] at hrow
      cases hrow
  | connect permits s config limits decoder classifier connector =>
    refine (connectWith_released rfl hx).imp_right fun ⟨hissued, hgone⟩ =>
      ⟨hissued, fun row hrow => ?_⟩
    cases hgone.symm.trans hrow

/-- A connection that is gone does not come back. -/
lemma SetMove.absent {w w' : SetWorld B D C R Q W T P X M} (h : SetMove w w')
    (hw : Entries (fun _ => Tended) w) (hissued : FencedTable.issued w.set.resources x)
    (hgone : w.set.find x = none) : w'.set.find x = none := by
  have hothers : Entries (fun y _ _ => y ≠ x) w' := by
    refine h.entries (fun _ _ _ _ => id) (fun _ _ _ _ => id)
      (fun y _ hy _ hyx => hy (hyx ▸ hissued)) ⟨?_, hw.unissued⟩
    rintro y entry hfind rfl
    cases hgone.symm.trans hfind
  by_contra hlive
  obtain ⟨entry, hfind⟩ := Option.ne_none_iff_exists'.mp hlive
  exact hothers.entry x entry hfind rfl

/-- **Every transport that was released is accounted for** while its connection lives. -/
lemma released_run (setup : SetSetup (Logged P (Audited T)) X) (hblank : setup.poller.released = [])
    (calls : List (SetCall D C (Audited T))) {entry : ConnectionEntry B D C R Q W (Audited T)}
    (hfind : (setup.final B Q W M calls :
      SetWorld B D C R Q W (Audited T) (Logged P (Audited T)) X M).set.find x = some entry)
    (hx : (x, u) ∈ (setup.final B Q W M calls :
      SetWorld B D C R Q W (Audited T) (Logged P (Audited T)) X M).set.poller.released) :
    entry.slot.memory.Accounts (afterLook u).reports := by
  have hrun := reach_run setup
    (I := fun w : SetWorld B D C R Q W (Audited T) (Logged P (Audited T)) X M =>
      Entries (fun _ => Audits) w ∧
      ∀ x u, (x, u) ∈ w.set.poller.released → FencedTable.issued w.set.resources x ∧
        ∀ entry, w.set.find x = some entry → entry.slot.memory.Accounts (afterLook u).reports)
    ⟨audits_run setup [], fun x u hx => ?_⟩ ?_ calls
  · exact (hrun.2 x u hx).2 entry hfind
  · change (x, u) ∈ setup.poller.released at hx
    rw [hblank] at hx
    cases hx
  · rintro a b hmove ⟨ha, hreleased⟩
    have htended : Entries (fun _ => Tended) a :=
      ⟨fun k entry hk => (ha.entry k entry hk).1, ha.unissued⟩
    refine ⟨hmove.entries (fun k c d hedits hc => hc.handlings hedits.handled)
      (fun k permits entry source h =>
        h.handlings (N := Logged P (Audited T)) (fence_handled permits source entry))
      (fun k entry _ h => h.audits) ha, fun x u hx => ?_⟩
    rcases hmove.released ha hx with hold | hnew
    · obtain ⟨hissued, haccounts⟩ := hreleased x u hold
      refine ⟨hmove.issued hissued, fun row hrow => ?_⟩
      cases hbefore : a.set.find x with
      | none => cases (hmove.absent htended hissued hbefore).symm.trans hrow
      | some before =>
        exact (remembered htended (.single hmove) hbefore hrow).accounts (haccounts before hbefore)
    · exact hnew

end

/-! ### The last look -/

/-- The transport holds or bounds what the slot did not agree to. -/
def Overruns (s : ConnectionSlot B D C R Q W) (t : T) : Prop :=
  ¬s.memory.Within (SlotTransport.pressureLimit t).1
    (SlotTransport.pressure (SlotTransport.pressureLimit t).2).1

omit [ByteBudget B] [Retained R] [InboundClassifier C R] [EventBatch Q] [TimerQueue W] in
lemma capture_overruns {t : T} (h : Overruns s t) :
    (captureTransportPressure (s, t)).2.1.transportContractDiverged = true ∧
    ∃ source, (captureTransportPressure (s, t)).1 = .error (.invariant source) := by
  obtain ⟨hmemory, hwithin⟩ := capture_memory s t
  refine ⟨?_, ?_⟩
  · have hdiverged := (Memory.look_diverged s.memory _ _).mpr (.inr h)
    rw [← hmemory] at hdiverged
    exact hdiverged
  · cases hlook : (captureTransportPressure (s, t)).1 with
    | ok => exact absurd (hwithin.mp hlook) h
    | error error =>
      obtain ⟨source, rfl⟩ := capture_invariant hlook
      exact ⟨source, rfl⟩

omit [InboundClassifier C R] in
/-- A transport that overruns when it is settled fails its slot, though it is
deregistered and dropped. -/
lemma settleEntry_overruns {t : T} (p : P) (k : ResourceToken)
    (hready : entry.observeShutdown.slot.transportReleaseReady = true)
    (htransport : entry.observeShutdown.transport = some t)
    (hover : Overruns entry.observeShutdown.slot (MioPoller.deregister p t k).2.2) :
    (entry.settleEntry p k).2.2.slot.state ≠ .running ∧
      (entry.settleEntry p k).2.2.slot.transportContractDiverged = true := by
  obtain ⟨hdiverged, source, hlook⟩ := capture_overruns hover
  have hlatched : ∀ (s : ConnectionSlot B D C R Q W) (reason : OwnerFailure),
      (s.latchOwnerFailure reason).transportContractDiverged = s.transportContractDiverged := by
    intro s reason
    rw [latchOwnerFailure_frame]
  obtain ⟨hunready, _⟩ | ⟨_, ⟨hgone, _⟩ | ⟨t', ht', hrun⟩⟩ := settleEntry_cases p k entry
  · cases hready.symm.trans hunready
  · cases htransport.symm.trans hgone
  · cases htransport.symm.trans ht'
    rw [hrun]
    dsimp only
    rw [hlook]
    cases (MioPoller.deregister p t k).1 with
    | ok _ => exact ⟨latchOwnerFailure_state _ _, (hlatched _ _).trans hdiverged⟩
    | error cause =>
      refine ⟨latchOwnerFailure_state _ _, (hlatched _ _).trans ?_⟩
      cases cause <;> exact hdiverged

omit [ByteBudget B] [Retained R] [InboundClassifier C R] [EventBatch Q] [TimerQueue W] in
/-- A broken contract is known after the release of the transport, be it an old
one or one of the last look. -/
lemma releaseTransport_diverged {s : ConnectionSet B D C R Q W T P X M} {k : ResourceToken}
    (hfind : s.find k = some entry) (hbroken : entry.slot.transportContractDiverged = true ∨
      ∃ t, entry.transport = some t ∧ Overruns entry.slot (MioPoller.deregister s.poller t k).2.2) :
    ∀ entry', (s.releaseTransport k entry).2.find k = some entry' →
      entry'.slot.transportContractDiverged = true := by
  unfold releaseTransport
  cases htransport : entry.transport with
  | none =>
    rintro entry' hentry'
    cases hfind.symm.trans hentry'
    rcases hbroken with hdiverged | ⟨t, ht, _⟩
    · exact hdiverged
    · cases htransport.symm.trans ht
  | some t =>
    have hdiverged : (captureTransportPressure
        (entry.slot, (MioPoller.deregister s.poller t
        k).2.2)).2.1.transportContractDiverged = true := by
      rcases hbroken with hbefore | ⟨t', ht', hover⟩
      · have hmemory := (capture_memory entry.slot (MioPoller.deregister s.poller t k).2.2).1
        have hheeds :=
          (Memory.look_heeds entry.slot.memory
          (SlotTransport.pressureLimit (MioPoller.deregister s.poller t k).2.2).1
          (SlotTransport.pressure (SlotTransport.pressureLimit
            (MioPoller.deregister s.poller t k).2.2).2).1).diverged hbefore
        rw [← hmemory] at hheeds
        exact hheeds
      · cases htransport.symm.trans ht'
        exact (capture_overruns hover).1
    dsimp only
    generalize MioPoller.deregister s.poller t k = released at hdiverged ⊢
    obtain ⟨cleanup, poller, t₁⟩ := released
    generalize captureTransportPressure (entry.slot, t₁) = looked at hdiverged ⊢
    obtain ⟨pressure, slot, t₂⟩ := looked
    dsimp only at hdiverged ⊢
    have hself : ∀ row, (({ s with poller } : ConnectionSet B D C R Q W T P X M).store k row).find
        k = some row :=
      find_store_self (s := { s with poller }) hfind
    have hfenced : ∀ (s₁ : ConnectionSet B D C R Q W T P X M) (source : MioError)
        (row entry' : ConnectionEntry B D C R Q W T),
        s₁.find k = some row → row.slot.transportContractDiverged = true →
          (s₁.latchSelectorFailure source).find k = some entry' →
        entry'.slot.transportContractDiverged = true := by
      intro s₁ source row entry' hrow hknown hentry'
      by_cases hrunning : s₁.ownerFailure = none
      · rw [find_latch source hrunning, hrow] at hentry'
        cases hentry'
        dsimp only [ConnectionEntry.fence]
        rw [latchOwnerFailure_frame]
        cases source <;> exact hknown
      · unfold latchSelectorFailure at hentry'
        rw [if_pos (Option.isSome_iff_ne_none.mpr hrunning), hrow] at hentry'
        cases hentry'
        exact hknown
    intro entry' hentry'
    cases cleanup with
    | ok _ =>
      have hstored : (({ s with poller } : ConnectionSet B D C R Q W T P X M).store k
        { entry with slot, transport := some t₂ }).find k =
          some entry' := by cases pressure <;> exact hentry'
      cases (hself _).symm.trans hstored
      exact hdiverged
    | error source =>
      have hlatched : ((({ s with poller } : ConnectionSet B D C R Q W T P X M).store k
          { entry with slot, transport := some t₂ }).latchSelectorFailure source).find k =
              some entry' := by
        cases pressure <;> exact hentry'
      exact hfenced _ source _ entry' (hself _) hdiverged hlatched

omit [Retained R] [InboundClassifier C R] [TimerQueue W] in
/-- **A recovery tells of a broken contract.** -/
lemma recoverConnection_tells {s : ConnectionSet B D C R Q W T P X M} {connection : ConnectionToken}
    {reason : OwnerFailure} {report : RecoveryReport R}
    (hfind : s.find connection.resource = some entry)
    (hrun : (s.recoverConnection connection entry reason).1 = .ok report)
    (hbroken : entry.slot.transportContractDiverged = true ∨
      ∃ t, entry.transport = some t ∧ Overruns entry.slot
      (MioPoller.deregister s.poller t connection.resource).2.2) :
    report.ownershipDiverged = true := by
  have hknown := releaseTransport_diverged hfind hbroken
  unfold recoverConnection at hrun
  dsimp only at hrun
  split at hrun
  · cases hrun
  · next row hrow =>
    cases hrun
    simp [recoverOwned, hknown row hrow]

/-- Either way of recovering a connection. -/
def Recovers (s : ConnectionSet B D C R Q W T P X M) (connection : ConnectionToken)
    (report : RecoveryReport R) : Prop :=
  (s.tryRecover connection).1 = .ok report ∨
    ∃ requested, (s.abandon connection requested).1 = .ok report

omit [Retained R] [InboundClassifier C R] [TimerQueue W] in
lemma Recovers.tells {s : ConnectionSet B D C R Q W T P X M} {connection : ConnectionToken}
    {report : RecoveryReport R} (h : Recovers s connection report)
    (hfind : s.find connection.resource = some entry)
    (hbroken : entry.slot.transportContractDiverged = true ∨
      ∃ t, entry.transport = some t ∧ Overruns entry.slot
      (MioPoller.deregister s.poller t connection.resource).2.2) :
    report.ownershipDiverged = true := by
  rcases h with hrun | ⟨requested, hrun⟩
  · unfold tryRecover at hrun
    split at hrun
    · cases hrun
    · next row hrow =>
      cases hfind.symm.trans (entry_find hrow).1
      split at hrun
      · cases hrun
      · exact recoverConnection_tells hfind hrun hbroken
  · unfold abandon at hrun
    split at hrun
    · cases hrun
    · next row hrow =>
      cases hfind.symm.trans (entry_find hrow).1
      exact recoverConnection_tells hfind hrun hbroken

/-! ### The theorem -/

/-- A report is within the bound, or the slot has failed over it. -/
def Answered (s : ConnectionSlot B D C R Q W) (report : Report) : Prop :=
  s.memory.Conforms report ∨ s.transportContractDiverged = true ∧ s.state ≠ .running

omit [ByteBudget B] [Retained R] [InboundClassifier C R] [EventBatch Q] [TimerQueue W] in
lemma Answered.of_guarded (h : Guarded s) {report : Report}
    (hreport : s.memory.Conforms report ∨ s.memory.diverged = true) :
    Answered s report := hreport.imp_right fun hd => ⟨hd, h.failed hd⟩

/-- A quantum answers every report of its transport. -/
lemma quantum_answers {e : Epoch OutboundFrame} (howns : Owns permits s e) (hs : Guarded s)
    (now : ℕ) (t : T) :
    ∀ u ∈ (driveQuantum now (s, some (⟨t, []⟩ : Audited T))).2.2, ∀ report ∈ u.reports,
      Answered (driveQuantum now (s, some (⟨t, []⟩ : Audited T))).2.1 report := by
  intro u hu report hreport
  obtain ⟨e', hstep, _⟩ := follows_slot howns (.driveQuantum now (some (⟨t, []⟩ : Audited T)))
  have haccounts := howns.accounts now (some (⟨t, []⟩ : Audited T)) (by rintro _ ⟨⟩ _ ⟨⟩)
  exact .of_guarded (hstep.guarded hs).1 (haccounts u hu report hreport)

/-- **The memory of a transport is fail-closed.** In every reachable slot, driven directly or within
a set: while it runs, the last report of its transport is within the bound, which is within the
ceiling and stays what it was first. A report beyond that, at any look, fails the slot in the same
call, also when the transport is settled and dropped by it; that is never forgotten, and the report
of every later recovery tells. -/
theorem transport_memory_fail_closed (single : SlotSetup D C R E) (setup : SetSetup P X) :
    (∀ (calls more : List (SlotCall T)) (s : ConnectionSlot B D C R Q W),
      s ∈ (single.final B Q W calls).slot →
      FailClosed s ∧
      (∀ s' ∈ (single.final B Q W (calls ++ more)).slot,
        (∀ limit ∈ s.transportRetainedLimit, limit ∈ s'.transportRetainedLimit) ∧
        (s.transportContractDiverged = true → s'.transportContractDiverged = true)) ∧
      ∀ (now : ℕ) (t : T), ∀ u ∈ (driveQuantum now (s, some (⟨t, []⟩ : Audited T))).2.2,
        ∀ report ∈ u.reports,
        Answered (driveQuantum now (s, some (⟨t, []⟩ : Audited T))).2.1 report) ∧
    (∀ (calls more : List (SetCall D C T)) (k : ResourceToken)
      (entry : ConnectionEntry B D C R Q W T),
      (setup.final B Q W M calls : SetWorld B D C R Q W T P X M).set.find k = some entry →
      FailClosed entry.slot ∧
      (∀ entry', (setup.final B Q W M (calls ++ more) : SetWorld B D C R Q W T P X M).set.find k =
        some entry' →
        (∀ limit ∈ entry.slot.transportRetainedLimit, limit ∈ entry'.slot.transportRetainedLimit) ∧
        (entry.slot.transportContractDiverged = true →
          entry'.slot.transportContractDiverged = true)) ∧
      (∀ (p : P) (t : T), entry.observeShutdown.slot.transportReleaseReady = true →
        entry.observeShutdown.transport = some t →
        Overruns entry.observeShutdown.slot (MioPoller.deregister p t k).2.2 →
        (entry.settleEntry p k).2.2.slot.transportContractDiverged = true ∧
          (entry.settleEntry p k).2.2.slot.state ≠ .running) ∧
      ∀ identity report, Recovers (setup.final B Q W M calls : SetWorld B D C R Q W T P X M).set
        ⟨k, identity⟩ report →
        (entry.slot.transportContractDiverged = true ∨ ∃ t, entry.transport = some t ∧
          Overruns entry.slot
          (MioPoller.deregister
            (setup.final B Q W M calls : SetWorld B D C R Q W T P X M).set.poller t k).2.2) →
        report.ownershipDiverged = true) ∧
    (∀ (calls : List (SetCall D C (Audited T))) (k : ResourceToken)
      (entry : ConnectionEntry B D C R Q W (Audited T)),
      (setup.final B Q W M calls : SetWorld B D C R Q W (Audited T) P X M).set.find k = some entry →
      ∀ u ∈ entry.transport, ∀ report ∈ u.reports, Answered entry.slot report) ∧
    ∀ (calls : List (SetCall D C (Audited T))) (k : ResourceToken)
      (entry : ConnectionEntry B D C R Q W (Audited T)),
      ((setup.logged T).final B Q W M calls : SetWorld B D C R Q W (Audited T) _ X M).set.find k =
        some entry →
      ∀ u, (k, u) ∈ ((setup.logged T).final B Q W M calls :
        SetWorld B D C R Q W (Audited T) _ X M).set.poller.released →
        ∀ report ∈ (afterLook u).reports, Answered entry.slot report := by
  refine ⟨fun calls more s hs => ?_, fun calls more k entry hfind =>
    ?_, fun calls k entry hfind u hu report hreport => ?_,
    fun calls k entry hfind u hu report hreport => ?_⟩
  · obtain ⟨e, howns, hguarded⟩ := guarded_run single calls hs
    refine ⟨.of_guarded hguarded, fun s' hs' => ?_, fun now t =>
      quantum_answers howns hguarded now t⟩
    have hheeds := memory_heeded single calls more hs hs'
    exact ⟨hheeds.limit, hheeds.diverged⟩
  · have htended := tended_run (B := B) (Q := Q) (W := W) (M := M) setup calls
    refine ⟨.of_guarded (htended.entry k entry hfind).2, fun entry' hfind' =>
      ?_, fun p t hready htransport hover => ?_,
      fun identity report hrecovers hbroken => hrecovers.tells hfind hbroken⟩
    · have hheeds := remembered htended (reach_final setup calls more) hfind hfind'
      exact ⟨hheeds.limit, hheeds.diverged⟩
    · exact (settleEntry_overruns p k hready htransport hover).symm
  · obtain ⟨⟨_, hguarded⟩, haccounts⟩ :=
      (audits_run (B := B) (Q := Q) (W := W) (M := M) setup calls).entry k entry hfind
    exact .of_guarded hguarded (haccounts u hu report hreport)
  · have htended :=
      (tended_run (B := B) (Q := Q) (W := W) (M := M) (setup.logged T) calls).entry k entry hfind
    exact .of_guarded htended.2 (released_run (setup.logged T) rfl calls hfind hu report hreport)

end Bornera.Shared
