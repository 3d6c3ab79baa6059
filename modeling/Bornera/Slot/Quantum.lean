import Bornera.Slot.Contract
import Bornera.Slot.Outstanding

/-!
# The bound of a quantum

A quantum counts its work, and says whether more was ready when its budget ran out. The question
whether something is ready (`has_runnable_io`, `has_runnable_shutdown`) and the code that does it
are separate. Here they are compared: a rotation finds nothing exactly when no class of I/O is
ready, so a quantum that is not saturated leaves nothing behind.
-/

namespace Bornera.Slot

open Bornera.Core Bornera.Core.Epoch Lib ConnectionSlot BoundedTimers

variable {B D C R E T : Type} {Q W : Type → Type} [ByteBudget B] [FrameDecoder D R E] [Retained R]
  [InboundClassifier C R] [EventBatch Q] [SlotTransport T] [SteadyTransport T]

section
variable [TimerQueue W] {s s' : ConnectionSlot B D C R Q W} {t : T}

/-! ### Looks -/

/-- The computation answers and changes nothing. -/
def Looks {σ α : Type} (m : Owner EngineError σ α) (x : σ) (a : α) : Prop := m x = (.ok a, x)

section
variable {σ α : Type} {x : σ}

lemma looks_pure (a : α) : Looks (pure a) x a := rfl

lemma looks_either {m n : Owner EngineError σ Bool} {a b : Bool} (hm : Looks m x a)
    (hn : Looks n x b) :
    Looks (Owner.either m n) x (a || b) := by
  unfold Looks Owner.either
  rw [Owner.bind_ok hm]
  cases a with
  | true => rfl
  | false => exact hn

lemma looks_both {m n : Owner EngineError σ Bool} {a b : Bool} (hm : Looks m x a)
    (hn : Looks n x b) :
    Looks (Owner.both m n) x (a && b) := by
  unfold Looks Owner.both
  rw [Owner.bind_ok hm]
  cases a with
  | true => exact hn
  | false => rfl

omit [ByteBudget B] [Retained R] [InboundClassifier C R] [EventBatch Q] [SlotTransport T]
  [SteadyTransport T] [TimerQueue W] in
lemma looks_ask {f : T → α × T} (h : ∀ t, (f t).2 = t) (x : ConnectionSlot B D C R Q W × T) :
    Looks (Owner.ask f : Driving B D C R Q W T α) x (f x.2).1 := by
  unfold Looks
  rw [Owner.ask_run, h]

end

/-! ### What is ready -/

/-- A class of I/O has something to do. -/
def readyFor (s : ConnectionSlot B D C R Q W) (t : T) : IoPreference → Bool
  | .transport =>
    if s.isConnecting then (SlotTransport.isOpen t).1 || (SlotTransport.canEstablish t).1
    else (SlotTransport.hasTransportWork t).1
  | .decode => s.decoderPending
  | .read => s.isTransportOpen && (SlotTransport.canRead t).1
  | .write =>
    s.isTransportOpen && ((SlotTransport.isOpen t).1 && (decide (0 < s.core.queuedWriteFrames) &&
      (s.core.frontWriteIsEmpty || (SlotTransport.canWrite t).1)))

/-- The answer of `has_runnable_io`. -/
def runnableIo (s : ConnectionSlot B D C R Q W) (t : T) : Bool :=
  s.decoderPending || ((s.isConnecting &&
    ((SlotTransport.isOpen t).1 || (SlotTransport.canEstablish t).1)) ||
    ((s.isTransportOpen && (SlotTransport.hasTransportWork t).1) ||
      (readyFor s t .read || readyFor s t .write)))

omit [ByteBudget B] [Retained R] [InboundClassifier C R] [EventBatch Q] [TimerQueue W] in
lemma hasRunnableIo_looks (x : ConnectionSlot B D C R Q W × T) :
    Looks hasRunnableIo x (runnableIo x.1 x.2) := by
  refine looks_either (looks_pure _) (looks_either (looks_both (looks_pure _) (looks_either ?_ ?_))
    (looks_either (looks_both (looks_pure _) ?_) (looks_either (looks_both (looks_pure _) ?_)
      (looks_both (looks_pure _)
        (looks_both ?_ (looks_both (looks_pure _) (looks_either (looks_pure _) ?_)))))))
  · exact looks_ask SteadyTransport.isOpen_same x
  · exact looks_ask SteadyTransport.canEstablish_same x
  · exact looks_ask SteadyTransport.hasTransportWork_same x
  · exact looks_ask SteadyTransport.canRead_same x
  · exact looks_ask SteadyTransport.isOpen_same x
  · exact looks_ask SteadyTransport.canWrite_same x

section
omit [ByteBudget B] [Retained R] [InboundClassifier C R] [EventBatch Q] [SteadyTransport T]
  [TimerQueue W]

/-- What is runnable is ready in its class. -/
lemma ready_of_runnable (h : runnableIo s t = true) : ∃ current, readyFor s t current = true := by
  simp only [runnableIo, Bool.or_eq_true, Bool.and_eq_true] at h
  rcases h with hpending | ⟨hconnecting, hopen⟩ | ⟨hopened, hwork⟩ | hread | hwrite
  · exact ⟨.decode, hpending⟩
  · exact ⟨.transport, by simpa [readyFor, hconnecting] using hopen⟩
  · have hnot : s.isConnecting = false := by
      rw [isTransportOpen, decide_eq_true_iff] at hopened
      simp [isConnecting, hopened]
    exact ⟨.transport, by simpa [readyFor, hnot] using hwork⟩
  · exact ⟨.read, hread⟩
  · exact ⟨.write, hwrite⟩

/-- Before a transport is closing the converse holds. -/
lemma runnable_of_ready (hstate : s.transportState = .connecting ∨ s.transportState = .opened)
    {current : IoPreference} (h : readyFor s t current = true) : runnableIo s t = true := by
  simp only [runnableIo, Bool.or_eq_true, Bool.and_eq_true]
  cases current with
  | transport =>
    rcases hstate with hstate | hstate
    · refine .inr (.inl ⟨by simp [isConnecting, hstate], ?_⟩)
      simpa [readyFor, isConnecting, hstate] using h
    · refine .inr (.inr (.inl ⟨by simp [isTransportOpen, hstate], ?_⟩))
      simpa [readyFor, isConnecting, hstate] using h
  | decode => exact .inl h
  | read => exact .inr (.inr (.inr (.inl h)))
  | write => exact .inr (.inr (.inr (.inr h)))

end

/-! ### One class of I/O -/

section
omit [InboundClassifier C R]

lemma driveTransportOnce_idle (remaining : ℕ) (h : readyFor s t .transport = false) :
    driveTransportOnce remaining (s, t) = (.ok none, s, t) := by
  unfold driveTransportOnce
  rw [slot_bind]
  by_cases hconnecting : s.isConnecting = true
  · simp only [readyFor, hconnecting, if_true, Bool.or_eq_false_iff] at h
    rw [if_pos hconnecting, Owner.ask_bind, h.1, SteadyTransport.isOpen_same]
    dsimp only
    rw [if_neg Bool.false_ne_true]
    by_cases hzero : remaining = 0
    · rw [if_pos hzero]
      rfl
    · rw [if_neg hzero, establish, slot_bind, Owner.ask_bind, h.2,
        SteadyTransport.canEstablish_same]
      rfl
  · simp only [readyFor, hconnecting, Bool.false_eq_true, if_false] at h
    rw [if_neg hconnecting]
    by_cases hzero : remaining = 0
    · rw [if_pos hzero]
      rfl
    · rw [if_neg hzero, driveTransportWork, slot_bind, Owner.ask_bind, h,
        SteadyTransport.hasTransportWork_same]
      rfl

lemma driveTransportOnce_busy {remaining : ℕ} (hpos : 0 < remaining)
    (h : readyFor s t .transport = true) :
    Busy (driveTransportOnce remaining) (s, t) := by
  unfold Busy driveTransportOnce
  rw [slot_bind]
  by_cases hconnecting : s.isConnecting = true
  · simp only [readyFor, hconnecting, if_true, Bool.or_eq_true] at h
    rw [if_pos hconnecting, Owner.ask_bind, SteadyTransport.isOpen_same]
    split
    · exact fun y hy => (by cases hy)
    · next hclosed =>
      rw [if_neg hpos.ne', establish, slot_bind, Owner.ask_bind, h.resolve_left hclosed, if_pos rfl]
      refine busy_bind fun result y => ?_
      split
      · exact busy_bind fun _ _ => busy_bind fun _ _ => busy_some _ _
      · refine busy_bind fun _ _ => busy_bind fun _ _ => ?_
        split
        · exact busy_bind fun _ _ => busy_bind fun _ _ => busy_some _ _
        · exact busy_some _ _
  · simp only [readyFor, hconnecting, Bool.false_eq_true, if_false] at h
    rw [if_neg hconnecting, if_neg hpos.ne', driveTransportWork, slot_bind, Owner.ask_bind,
      h, if_pos rfl]
    refine busy_bind fun result y => ?_
    split
    · exact busy_bind fun _ _ => busy_bind fun _ _ => busy_some _ _
    · exact busy_bind fun _ _ => busy_some _ _

end

omit [SteadyTransport T] [InboundClassifier C R] in
lemma driveReadOnce_busy (h : (SlotTransport.canRead t).1 = true) : Busy driveReadOnce (s, t) := by
  unfold Busy driveReadOnce
  rw [Owner.ask_bind, h, if_pos rfl, slot_bind]
  split
  · exact busy_bind fun _ _ => busy_some _ _
  · refine busy_bind fun result y => ?_
    split
    · exact busy_bind fun _ _ => busy_some _ _
    · split <;> exact busy_bind fun _ _ => busy_some _ _
    · split
      · exact busy_bind fun _ _ => busy_some _ _
      · exact busy_bind fun _ _ => busy_bind fun _ _ => busy_some _ _

omit [ByteBudget B] in
/-- The writer shows nothing without a frame, and nothing of an empty one. -/
lemma frontWrite_shows {c c' : ConnectionCore B OutboundFrame} {maximum : ℕ}
    {slice : Option WriteSlice} (h : c.frontWrite OutboundFrame.view maximum = (.ok slice, c')) :
    (slice = none ↔ c.queuedWriteFrames = 0) ∧ ∀ front ∈ slice, c.frontWriteIsEmpty = true →
      front.bytes = [] := by
  have hfront : c.writes.front OutboundFrame.view maximum = .ok slice := by
    unfold ConnectionCore.frontWrite at h
    split at h
    · cases h
    · split at h
      · cases h
      · split at h
        · next heq =>
          cases h
          exact heq
        · cases h
  unfold ConnectionCore.queuedWriteFrames ConnectionCore.frontWriteIsEmpty
  unfold WriteQueue.front at hfront
  cases hframes : c.writes.frames with
  | nil =>
    rw [hframes] at hfront
    cases hfront
    simp
  | cons w rest =>
    rw [hframes] at hfront
    dsimp only at hfront
    split at hfront
    · cases hfront
    · next hlength =>
      split at hfront
      · cases hfront
      · next remaining hrange =>
        split at hfront
        · cases hfront
        · next offered hoffered =>
          cases hfront
          refine ⟨by simp, fun front hfront hempty => ?_⟩
          cases hfront
          have hnil : OutboundFrame.view.bytes w.frame = [] := by
            rw [← List.length_eq_zero_iff, not_not.mp hlength]
            simpa using hempty
          unfold getRange at hrange hoffered
          split at hrange <;> cases hrange
          split at hoffered <;> cases hoffered
          simp [hnil]

omit [InboundClassifier C R] in
lemma driveWriteOnce_busy (hopen : (SlotTransport.isOpen t).1 = true)
    (hqueued : 0 < s.core.queuedWriteFrames)
    (hready : s.core.frontWriteIsEmpty = true ∨ (SlotTransport.canWrite t).1 = true) :
    Busy driveWriteOnce (s, t) := by
  unfold Busy driveWriteOnce
  rw [Owner.ask_bind, hopen, if_pos rfl, SteadyTransport.isOpen_same]
  dsimp only
  obtain ⟨slice, hfront⟩ | ⟨source, core, hfront⟩ := frontWrite_cases s.core s.limits.ioChunkBytes
  · have hcore : (Owner.onFst frontWriteCore : Driving B D C R Q W T (Option WriteSlice)) (s, t) =
        (.ok slice, s, t) := by
      simp only [Owner.onFst_run, frontWriteCore, onCore, hfront, Except.mapError]
    obtain ⟨hnone, hempty⟩ := frontWrite_shows hfront
    rw [Owner.bind_ok hcore]
    cases slice with
    | none => exact absurd (hnone.mp rfl) hqueued.ne'
    | some front =>
      dsimp only
      by_cases hnil : front.bytes.isEmpty = true
      · rw [if_pos hnil]
        exact busy_bind fun _ _ => busy_some _ _
      · have hfull : ¬s.core.frontWriteIsEmpty = true :=
          fun h => hnil (by rw [hempty front rfl h]; rfl)
        rw [if_neg hnil, Owner.ask_bind, hready.resolve_left hfull, if_pos rfl]
        exact busy_bind fun _ _ => busy_some _ _
  · have hcore : (Owner.onFst frontWriteCore : Driving B D C R Q W T (Option WriteSlice)) (s, t) =
        (.error (.core source), { s with core }, t) := by
      simp only [Owner.onFst_run, frontWriteCore, onCore, hfront, Except.mapError]
    intro y hy
    rw [Owner.bind_error hcore] at hy
    cases hy

/-- **A class that is ready does not end without progress.** -/
theorem driveClass_busy {remaining : ℕ} (hpos : 0 < remaining) {current : IoPreference}
    (h : readyFor s t current = true) :
    Busy (driveClass remaining current) (s, t) := by
  cases current with
  | transport => exact driveTransportOnce_busy hpos h
  | decode =>
    have hpending : s.decoderPending = true := h
    unfold Busy
    rw [driveClass, slot_bind, if_pos hpending]
    exact busy_bind fun _ _ => busy_some _ _
  | read =>
    simp only [readyFor, Bool.and_eq_true] at h
    unfold Busy
    rw [driveClass, slot_bind, if_pos h.1]
    exact driveReadOnce_busy h.2
  | write =>
    simp only [readyFor, Bool.and_eq_true, Bool.or_eq_true, decide_eq_true_eq] at h
    unfold Busy
    rw [driveClass, slot_bind, if_pos h.1]
    exact driveWriteOnce_busy h.2.1 h.2.2.1 h.2.2.2

/-- The writer offers a byte of every frame that is not empty. -/
def Offering (s : ConnectionSlot B D C R Q W) : Prop :=
  ∃ slice, s.core.frontWrite OutboundFrame.view s.limits.ioChunkBytes = (.ok slice, s.core) ∧
    ∀ front ∈ slice, front.bytes = [] → s.core.frontWriteIsEmpty = true

omit [InboundClassifier C R] in
lemma driveWriteOnce_idle (hoffer : Offering s)
    (h : ((SlotTransport.isOpen t).1 &&
      (decide (0 < s.core.queuedWriteFrames) &&
        (s.core.frontWriteIsEmpty || (SlotTransport.canWrite t).1))) = false) :
    driveWriteOnce (s, t) = (.ok none, s, t) := by
  obtain ⟨slice, hfront, hshown⟩ := hoffer
  have hcore : (Owner.onFst frontWriteCore : Driving B D C R Q W T (Option WriteSlice)) (s, t) =
      (.ok slice, s, t) := by
    simp only [Owner.onFst_run, frontWriteCore, onCore, hfront, Except.mapError]
  unfold driveWriteOnce
  rw [Owner.ask_bind, SteadyTransport.isOpen_same]
  dsimp only
  split
  · next hopen =>
    rw [hopen, Bool.true_and, Bool.and_eq_false_iff] at h
    rw [Owner.bind_ok hcore]
    cases slice with
    | none => rfl
    | some front =>
      have hqueued : s.core.queuedWriteFrames ≠ 0 := fun hzero => by
        cases (frontWrite_shows hfront).1.mpr hzero
      have hunready := h.resolve_left (by simpa using hqueued)
      rw [Bool.or_eq_false_iff] at hunready
      have hfull : ¬front.bytes.isEmpty = true := fun hnil => by
        rw [hshown front rfl (List.isEmpty_iff.mp hnil)] at hunready
        cases hunready.1
      dsimp only
      rw [if_neg hfull, Owner.ask_bind, hunready.2, SteadyTransport.canWrite_same]
      rfl
  · rfl

/-- **A class that is not ready changes nothing.** -/
theorem driveClass_idle (remaining : ℕ) (hoffer : Offering s) {current : IoPreference}
    (h : readyFor s t current = false) :
    driveClass remaining current (s, t) = (.ok none, s, t) := by
  cases current with
  | transport => exact driveTransportOnce_idle remaining h
  | decode =>
    have hpending : ¬s.decoderPending = true := by simpa [readyFor] using h
    rw [driveClass, slot_bind, if_neg hpending]
    rfl
  | read =>
    rw [driveClass, slot_bind]
    split
    · next hopen =>
      have hunready : (SlotTransport.canRead t).1 = false := by simpa [readyFor, hopen] using h
      unfold driveReadOnce
      rw [Owner.ask_bind, hunready, SteadyTransport.canRead_same]
      rfl
    · rfl
  | write =>
    rw [driveClass, slot_bind]
    split
    · next hopen =>
      rw [readyFor, hopen, Bool.true_and] at h
      exact driveWriteOnce_idle hoffer h
    · rfl

omit [InboundClassifier C R] in
lemma driveWriteOnce_none {z : ConnectionSlot B D C R Q W × T}
    (h : driveWriteOnce (s, t) = (.ok none, z)) : z = (s, t) := by
  have hslot : z.1 = s := idles_driveWriteOnce (s, t) z h
  unfold driveWriteOnce at h
  rw [Owner.ask_bind, SteadyTransport.isOpen_same] at h
  dsimp only at h
  split at h
  · obtain ⟨slice, hfront⟩ | ⟨source, core, hfront⟩ := frontWrite_cases s.core s.limits.ioChunkBytes
    · have hcore : (Owner.onFst frontWriteCore : Driving B D C R Q W T (Option WriteSlice)) (s, t) =
          (.ok slice, s, t) := by
        simp only [Owner.onFst_run, frontWriteCore, onCore, hfront, Except.mapError]
      rw [Owner.bind_ok hcore] at h
      cases slice with
      | none =>
        cases h
        rfl
      | some front =>
        dsimp only at h
        split at h
        · exact absurd h (busy_bind (fun _ _ => busy_some _ _) z)
        · rw [Owner.ask_bind, SteadyTransport.canWrite_same] at h
          split at h
          · exact absurd h (busy_bind (fun _ _ => busy_some _ _) z)
          · cases h
            rfl
    · have hcore : (Owner.onFst frontWriteCore : Driving B D C R Q W T (Option WriteSlice)) (s, t) =
          (.error (.core source), { s with core }, t) := by
        simp only [Owner.onFst_run, frontWriteCore, onCore, hfront, Except.mapError]
      rw [Owner.bind_error hcore] at h
      cases h
  · cases h
    rfl

/-- A class that ends without progress was not ready, and has changed nothing. -/
lemma driveClass_none {remaining : ℕ} (hpos : 0 < remaining) {current : IoPreference}
    {z : ConnectionSlot B D C R Q W × T} (h : driveClass remaining current (s, t) = (.ok none, z)) :
    z = (s, t) ∧ readyFor s t current = false := by
  have hunready : readyFor s t current = false := by
    by_contra hready
    exact driveClass_busy hpos (by simpa using hready) z h
  refine ⟨?_, hunready⟩
  cases current with
  | write =>
    rw [driveClass, slot_bind] at h
    split at h
    · exact driveWriteOnce_none h
    · cases h
      rfl
  | transport =>
    rw [driveClass, driveTransportOnce_idle remaining hunready] at h
    cases h
    rfl
  | decode =>
    have hpending : ¬s.decoderPending = true := by simpa [readyFor] using hunready
    rw [driveClass, slot_bind, if_neg hpending] at h
    cases h
    rfl
  | read =>
    rw [driveClass, slot_bind] at h
    split at h
    · next hopen =>
      have hclosed : (SlotTransport.canRead t).1 = false := by
        have hopen' : s.isTransportOpen = true := hopen
        simpa [readyFor, hopen'] using hunready
      rw [driveReadOnce, Owner.ask_bind, hclosed, SteadyTransport.canRead_same] at h
      cases h
      rfl
    · cases h
      rfl

/-! ### The rotation -/

/-- Slots that differ in what is known of the memory of their transport. -/
def Glanced (s s' : ConnectionSlot B D C R Q W) : Prop :=
  s' = { s with
    transportDiagnostic := s'.transportDiagnostic
    transportPressure := s'.transportPressure
    transportRetainedLimit := s'.transportRetainedLimit
    transportContractDiverged := s'.transportContractDiverged }

section
omit [ByteBudget B] [Retained R] [InboundClassifier C R] [EventBatch Q] [TimerQueue W]

lemma Glanced.refl (s : ConnectionSlot B D C R Q W) : Glanced s s := rfl

lemma Glanced.trans {s'' : ConnectionSlot B D C R Q W} (h : Glanced s s') (h' : Glanced s' s'') :
    Glanced s s'' := by
  unfold Glanced at *
  rw [h', h]

end

omit [SteadyTransport T] [ByteBudget B] [Retained R] [InboundClassifier C R] [EventBatch Q]
  [TimerQueue W] in
lemma glanced_capture (s : ConnectionSlot B D C R Q W) (t : T) :
    Glanced s (captureTransportPressure (s, t)).2.1 := capture_frame s t

omit [ByteBudget B] [Retained R] [InboundClassifier C R] [EventBatch Q] [SteadyTransport T]
  [TimerQueue W] in
lemma Glanced.ready (h : Glanced s s') (t : T) (current : IoPreference) :
    readyFor s' t current = readyFor s t current := by
  rw [h]
  rfl

omit [ByteBudget B] [Retained R] [InboundClassifier C R] [EventBatch Q] [TimerQueue W] in
lemma Glanced.offering (h : Glanced s s') (hoffer : Offering s) : Offering s' := by
  rw [h]
  exact hoffer

omit [ByteBudget B] [Retained R] [InboundClassifier C R] [EventBatch Q] [SteadyTransport T]
  [TimerQueue W] in
lemma Glanced.runnableIo (h : Glanced s s') (t : T) :
    Slot.runnableIo s' t = Slot.runnableIo s t := by
  rw [h]
  rfl

omit [SteadyTransport T] [ByteBudget B] [Retained R] [InboundClassifier C R] [EventBatch Q]
  [TimerQueue W] in
/-- A transport within its memory is found so again. -/
lemma capture_again (h : (captureTransportPressure (s, t)).1 = .ok ()) :
    (captureTransportPressure ((captureTransportPressure (s, t)).2.1, t)).1 = .ok () := by
  rw [capture_run] at h
  split at h
  · cases h
  · next hlimit =>
    split at h
    · next hfits =>
      rw [capture_run s t, if_neg hlimit, if_pos hfits, capture_run]
      dsimp only
      rw [if_neg, if_pos hfits]
      rintro (hlt | hne)
      · exact hlimit (.inl hlt)
      · simp at hne
    · cases h

/-- **A rotation that ends without progress found none of its classes ready**, and has changed
nothing but what is known of the memory. -/
lemma driveFrom_none {remaining : ℕ} (hpos : 0 < remaining) {classes : ℕ} {current : IoPreference}
    {y : ConnectionSlot B D C R Q W × T}
    (h : driveFrom remaining classes current (s, t) = (.ok none, y)) :
    Glanced s y.1 ∧ y.2 = t ∧ ∀ place < classes,
      readyFor s t (IoPreference.next^[place] current) = false := by
  induction classes generalizing s current with
  | zero =>
    cases h
    exact ⟨.refl s, rfl, fun place hplace => by omega⟩
  | succ classes ih =>
    rw [driveFrom_succ] at h
    cases hclass : driveClass remaining current (s, t) with
    | mk result z =>
    have hlook := capture_same (B := B) (D := D) (C := C) (R := R) (Q := Q) (W := W) z
    have hglance := glanced_capture z.1 z.2
    rw [hclass] at h
    dsimp only at h
    cases hcapture : captureTransportPressure z with
    | mk pressure u =>
    have hz : captureTransportPressure (z.1, z.2) = (pressure, u) := hcapture
    rw [hz] at hglance
    rw [hcapture] at h hlook
    cases result with
    | error => cases h
    | ok progressed =>
      cases pressure with
      | error => cases h
      | ok =>
        cases progressed with
        | some => cases h
        | none =>
          obtain ⟨rfl, hunready⟩ := driveClass_none hpos hclass
          have hu : u = (u.1, t) := Prod.ext rfl hlook.2
          dsimp only at h
          rw [hu] at h
          obtain ⟨hglance', htransport, hrest⟩ := ih h
          refine ⟨hglance.trans hglance', htransport, fun place hplace => ?_⟩
          cases place with
          | zero => exact hunready
          | succ place =>
            rw [Function.iterate_succ_apply, ← hglance.ready t]
            exact hrest place (by omega)

/-- Every class comes up in a rotation. -/
lemma exists_place (current preference : IoPreference) :
    ∃ place < 4, IoPreference.next^[place] preference = current := by
  cases preference <;> cases current
  all_goals first
    | exact ⟨0, by decide, rfl⟩
    | exact ⟨1, by decide, rfl⟩
    | exact ⟨2, by decide, rfl⟩
    | exact ⟨3, by decide, rfl⟩

lemma driveReadyOnce_none {remaining : ℕ} (hpos : 0 < remaining)
    {y : ConnectionSlot B D C R Q W × T} (h : driveReadyOnce remaining (s, t) = (.ok none, y)) :
    Glanced s y.1 ∧ y.2 = t ∧ runnableIo s t = false := by
  rw [driveReadyOnce, slot_bind] at h
  obtain ⟨hglance, htransport, hnone⟩ := driveFrom_none hpos h
  refine ⟨hglance, htransport, ?_⟩
  by_contra hrunnable
  obtain ⟨current, hready⟩ := ready_of_runnable (by simpa using hrunnable)
  obtain ⟨place, hplace, rfl⟩ := exists_place current s.ioPreference
  rw [hnone place hplace] at hready
  cases hready

/-- A rotation over classes that are not ready, with a transport within its memory. -/
lemma driveFrom_idle (remaining : ℕ) {classes : ℕ} {current : IoPreference} (hoffer : Offering s)
    (hmemory : (captureTransportPressure (s, t)).1 = .ok ())
    (h : ∀ current, readyFor s t current = false) :
    (driveFrom remaining classes current (s, t)).1 = .ok none := by
  induction classes generalizing s current with
  | zero => rfl
  | succ classes ih =>
    have hglance := glanced_capture s t
    have hagain := capture_again hmemory
    have hsame := (capture_same (s, t)).2
    rw [driveFrom_succ, driveClass_idle remaining hoffer (h current)]
    dsimp only
    cases hcapture : captureTransportPressure (s, t) with
    | mk pressure u =>
    rw [hcapture] at hmemory hglance hagain hsame
    cases hmemory
    have hu : u = (u.1, t) := Prod.ext rfl hsame
    dsimp only
    rw [hu]
    exact ih (hglance.offering hoffer) hagain fun current =>
      (hglance.ready t current).trans (h current)

/-- **`has_runnable_io` agrees with the rotation**, before the transport is
closing and within its memory. -/
theorem runnable_iff_driveReadyOnce {remaining : ℕ} (hpos : 0 < remaining) (hoffer : Offering s)
    (hstate : s.transportState = .connecting ∨ s.transportState = .opened)
    (hmemory : (captureTransportPressure (s, t)).1 = .ok ()) :
    runnableIo s t = true ↔ (driveReadyOnce remaining (s, t)).1 ≠ .ok none := by
  constructor
  · intro hrunnable hnone
    have hrun : driveReadyOnce remaining (s, t) = (.ok none, (driveReadyOnce remaining (s, t)).2) :=
      Prod.ext hnone rfl
    rw [(driveReadyOnce_none hpos hrun).2.2] at hrunnable
    cases hrunnable
  · intro hbusy
    by_contra hrunnable
    refine hbusy ?_
    rw [driveReadyOnce, slot_bind]
    refine driveFrom_idle remaining hoffer hmemory fun current => ?_
    by_contra hready
    exact hrunnable (runnable_of_ready hstate (by simpa using hready))

/-! ### Work is counted by one -/

/-- A computation that makes progress counts one. -/
def Counts {σ : Type} (m : Owner EngineError σ (Option ℕ)) (x : σ) : Prop :=
  ∀ n y, m x = (.ok (some n), y) → n = 1

lemma counts_one {σ : Type} (x : σ) : Counts (pure (some 1)) x := by
  rintro n y ⟨⟩
  rfl

lemma counts_none {σ : Type} (x : σ) : Counts (pure none) x := by rintro n y ⟨⟩

lemma counts_bind {σ α : Type} {m : Owner EngineError σ α} {f : α → Owner EngineError σ (Option ℕ)}
    {x : σ} (h : ∀ a y, m x = (.ok a, y) → Counts (f a) y) : Counts (m >>= f) x := by
  intro n y hy
  obtain ⟨a, z, hm, hf⟩ := Owner.ok_of_bind hy
  exact h a z hm n y hf

omit [ByteBudget B] [Retained R] [InboundClassifier C R] [EventBatch Q] [TimerQueue W] in
/-- Valid progress on a budget of one operation is one operation. -/
lemma operations_eq {progress : TransportProgress}
    (h : validateTransportProgress s.transportBudget progress = .ok ()) :
    progress.operations = 1 := by
  unfold validateTransportProgress at h
  split at h
  · cases h
  · next hfits =>
    split at h
    · cases h
    · next hbusy =>
      have hle : progress.operations ≤ 1 := by
        simp only [TransportProgress.fits, Bool.not_eq_true', Bool.not_eq_false, Bool.and_eq_true,
          decide_eq_true_eq] at hfits
        exact hfits.1.1
      have hne : progress.operations ≠ 0 := by
        intro hzero
        obtain ⟨hread, hwritten⟩ := progress.counted hzero
        exact hbusy (by simp [TransportProgress.isIdle, hzero, hread, hwritten])
      omega

omit [SlotTransport T] [SteadyTransport T] [ByteBudget B] [Retained R] [InboundClassifier C R]
  [EventBatch Q] [TimerQueue W] in
lemma counts_validated {x : ConnectionSlot B D C R Q W × T} {progress : TransportProgress}
    {f : Unit → Driving B D C R Q W T (Option ℕ)}
    (h : progress.operations = 1 → ∀ y, Counts (f ()) y) :
    Counts (Owner.settle (validateTransportProgress s.transportBudget progress) >>= f) x := by
  refine counts_bind fun _ y hvalid => ?_
  cases hresult : validateTransportProgress s.transportBudget progress with
  | error =>
    rw [hresult] at hvalid
    cases hvalid
  | ok => exact h (operations_eq hresult) y

omit [SteadyTransport T] [InboundClassifier C R] in
lemma counts_driveTransportOnce (remaining : ℕ) (x : ConnectionSlot B D C R Q W × T) :
    Counts (driveTransportOnce remaining) x := by
  unfold driveTransportOnce establish driveTransportWork
  refine counts_bind fun s y _ => ?_
  split
  · refine counts_bind fun early y _ => ?_
    split
    · exact fun n y hy => (by cases hy)
    · split
      · exact counts_none _
      · refine counts_bind fun s y _ => counts_bind fun advertised y _ => ?_
        split
        · refine counts_bind fun result y _ => ?_
          split
          · exact counts_bind fun _ _ _ => counts_bind fun _ _ _ => counts_one _
          · refine counts_validated fun hone y => counts_bind fun opened y _ => ?_
            rw [hone]
            split
            · exact counts_bind fun _ _ _ => counts_bind fun _ _ _ => counts_one _
            · exact counts_one _
        · exact counts_none _
  · split
    · exact counts_none _
    · refine counts_bind fun s y _ => counts_bind fun advertised y _ => ?_
      split
      · refine counts_bind fun result y _ => ?_
        split
        · exact counts_bind fun _ _ _ => counts_bind fun _ _ _ => counts_one _
        · refine counts_validated fun hone y => ?_
          rw [hone]
          exact counts_one _
      · exact counts_none _

section
omit [InboundClassifier C R] [SteadyTransport T]

lemma counts_driveReadOnce (x : ConnectionSlot B D C R Q W × T) : Counts driveReadOnce x := by
  unfold driveReadOnce
  refine counts_bind fun readable y _ => ?_
  split
  · refine counts_bind fun s y _ => ?_
    split
    · exact counts_bind fun _ _ _ => counts_one _
    · refine counts_bind fun result y _ => ?_
      split
      · exact counts_bind fun _ _ _ => counts_one _
      · split <;> exact counts_bind fun _ _ _ => counts_one _
      · split
        · exact counts_bind fun _ _ _ => counts_one _
        · exact counts_bind fun _ _ _ => counts_bind fun _ _ _ => counts_one _
  · exact counts_none _

lemma counts_driveWriteOnce (x : ConnectionSlot B D C R Q W × T) : Counts driveWriteOnce x := by
  unfold driveWriteOnce
  refine counts_bind fun opened y _ => ?_
  split
  · refine counts_bind fun slice y _ => ?_
    split
    · exact counts_none _
    · split
      · exact counts_bind fun _ _ _ => counts_one _
      · refine counts_bind fun writable y _ => ?_
        split
        · exact counts_bind fun _ _ _ => counts_one _
        · exact counts_none _
  · exact counts_none _

end

section
omit [SteadyTransport T]

lemma counts_driveClass (remaining : ℕ) (current : IoPreference)
    (x : ConnectionSlot B D C R Q W × T) :
    Counts (driveClass remaining current) x := by
  cases current with
  | transport => exact counts_driveTransportOnce remaining x
  | decode =>
    refine counts_bind fun s y _ => ?_
    split
    · exact counts_bind fun _ _ _ => counts_one _
    · exact counts_none _
  | read =>
    refine counts_bind fun s y _ => ?_
    split
    · exact counts_driveReadOnce y
    · exact counts_none _
  | write =>
    refine counts_bind fun s y _ => ?_
    split
    · exact counts_driveWriteOnce y
    · exact counts_none _

lemma counts_driveFrom (remaining classes : ℕ) (current : IoPreference)
    (x : ConnectionSlot B D C R Q W × T) :
    Counts (driveFrom remaining classes current) x := by
  induction classes generalizing current x with
  | zero => exact counts_none x
  | succ classes ih =>
    intro n y hy
    rw [driveFrom_succ] at hy
    cases hclass : driveClass remaining current x with
    | mk result z =>
    rw [hclass] at hy
    dsimp only at hy
    cases hcapture : captureTransportPressure z with
    | mk pressure u =>
    rw [hcapture] at hy
    cases result with
    | error => cases hy
    | ok progressed =>
      cases pressure with
      | error => cases hy
      | ok =>
        cases progressed with
        | some progressed =>
          cases hy
          exact counts_driveClass remaining current x _ _ hclass
        | none => exact ih current.next u n y hy

lemma counts_driveReadyOnce (remaining : ℕ) (x : ConnectionSlot B D C R Q W × T) :
    Counts (driveReadyOnce remaining) x :=
  counts_driveFrom remaining 4 x.1.ioPreference x

end

lemma counts_driveDecoderAlone (s : ConnectionSlot B D C R Q W) : Counts driveDecoderAlone s := by
  unfold driveDecoderAlone
  refine counts_bind fun s y _ => ?_
  split
  · exact counts_bind fun _ _ _ => counts_bind fun _ _ _ => counts_one _
  · exact counts_none _

section
omit [SteadyTransport T] [ByteBudget B] [Retained R] [InboundClassifier C R] [EventBatch Q]
  [TimerQueue W]

lemma counts_shutdownStep {reason : CloseReason} {deadline : Deadline}
    {drive : T → TransportBudget → Except TransportDiagnostic TransportProgress × T}
    (x : ConnectionSlot B D C R Q W × T) :
    Counts (shutdownStep reason deadline drive) x := by
  intro n y hy
  have hrun := shutdownStep_run reason deadline drive x.1 x.2
  rw [show (x.1, x.2) = x from rfl, hy] at hrun
  generalize captureTransportPressure (x.1, (drive x.2 x.1.transportBudget).2) = captured at hrun
  obtain ⟨pressure, s₁, t₁⟩ := captured
  dsimp only at hrun
  cases hdrive : (drive x.2 x.1.transportBudget).1 with
  | error source =>
    rw [hdrive] at hrun
    cases pressure with
    | error => cases hrun
    | ok =>
      cases hrun
      rfl
  | ok progress =>
    rw [hdrive] at hrun
    cases pressure with
    | error => cases hrun
    | ok =>
      dsimp only at hrun
      split at hrun
      · cases hrun
      · next hvalid =>
        cases hrun
        exact operations_eq hvalid

lemma counts_driveShutdownOnce (now remaining : ℕ) (x : ConnectionSlot B D C R Q W × T) :
    Counts (driveShutdownOnce now remaining) x := by
  unfold driveShutdownOnce driveStarted
  refine counts_bind fun s y _ => ?_
  split
  · split
    · exact counts_bind fun _ _ _ => counts_one _
    · split
      · exact counts_none _
      · exact counts_shutdownStep _
  · split
    · exact counts_bind fun _ _ _ => counts_one _
    · split
      · exact counts_none _
      · refine counts_bind fun complete y _ => ?_
        split
        · exact counts_bind fun _ _ _ => counts_none _
        · refine counts_bind fun working y _ => ?_
          split
          · exact counts_shutdownStep _
          · exact counts_none _
  · exact counts_none _

end

/-! ### The loop of I/O -/

/-- No I/O is ready, or without a transport nothing to decode. -/
def Rests (x : ConnectionSlot B D C R Q W × Option T) : Prop :=
  match x.2 with
  | none => x.1.decoderPending = false
  | some t => runnableIo x.1 t = false

omit [ByteBudget B] [Retained R] [InboundClassifier C R] [EventBatch Q] [SteadyTransport T]
  [TimerQueue W] in
lemma Rests.decoderPending {x : ConnectionSlot B D C R Q W × Option T} (h : Rests x) :
    x.1.decoderPending = false := by
  obtain ⟨s, t⟩ := x
  cases t with
  | none => exact h
  | some t =>
    have hrests : runnableIo s t = false := h
    simp only [runnableIo, Bool.or_eq_false_iff] at hrests
    exact hrests.1

omit [SteadyTransport T] in
lemma counts_withTransport (remaining : ℕ) (x : ConnectionSlot B D C R Q W × Option T) :
    Counts (withTransport driveDecoderAlone (driveReadyOnce remaining)) x := by
  obtain ⟨s, t⟩ := x
  intro n y hy
  cases t with
  | none =>
    have hresult : (driveDecoderAlone s).1 = .ok (some n) := congrArg Prod.fst hy
    exact counts_driveDecoderAlone s n _ (Prod.ext hresult rfl)
  | some t =>
    have hresult : (driveReadyOnce remaining (s, t)).1 = .ok (some n) := congrArg Prod.fst hy
    exact counts_driveReadyOnce remaining (s, t) n _ (Prod.ext hresult rfl)

/-- A turn of the loop without progress. -/
lemma rests_withTransport {remaining : ℕ} (hpos : 0 < remaining)
    {x y : ConnectionSlot B D C R Q W × Option T}
    (h : withTransport driveDecoderAlone (driveReadyOnce remaining) x = (.ok none, y)) :
    Rests y := by
  obtain ⟨s, t⟩ := x
  cases t with
  | none =>
    unfold withTransport driveDecoderAlone at h
    dsimp only at h
    by_cases hpending : s.decoderPending = true
    · exfalso
      have hresult := congrArg Prod.fst h
      dsimp only at hresult
      rw [Owner.read_bind, if_pos hpending] at hresult
      rcases hran : driveDecoderOnce s with ⟨error | _, s₁⟩
      · rw [Owner.bind_error hran] at hresult
        cases hresult
      · rw [Owner.bind_ok hran] at hresult
        cases hresult
    · rw [Owner.read_bind, if_neg hpending] at h
      cases h
      simpa [Rests] using hpending
  | some t =>
    have hresult : (driveReadyOnce remaining (s, t)).1 = .ok none := congrArg Prod.fst h
    have hrun : driveReadyOnce remaining (s, t) = (.ok none, (driveReadyOnce remaining (s, t)).2) :=
      Prod.ext hresult rfl
    obtain ⟨hglance, htransport, hidle⟩ := driveReadyOnce_none hpos hrun
    have hy : y = ((driveReadyOnce remaining (s, t)).2.1,
      some (driveReadyOnce remaining (s, t)).2.2) := (congrArg Prod.snd h).symm
    rw [hy, htransport]
    exact (hglance.runnableIo t).trans hidle

/-- **The loop of I/O** uses its budget up, meets a close, or leaves nothing ready. -/
lemma ioLoop_ok {budget turns work work' : ℕ} {x y : ConnectionSlot B D C R Q W × Option T}
    (hturns : work + turns = budget) (h : ioLoop budget turns work x = (.ok work', y)) :
    work' ≤ budget ∧ (work' = budget ∨ y.1.closeRequest ≠ none ∨ Rests y) := by
  induction turns generalizing work x with
  | zero =>
    cases h
    exact ⟨hturns.le, .inl hturns⟩
  | succ turns ih =>
    rw [ioLoop, slot_bind] at h
    split at h
    · next hgoes =>
      obtain ⟨progressed, z, hstep, hnext⟩ := Owner.ok_of_bind h
      cases progressed with
      | none =>
        cases hnext
        exact ⟨by omega, .inr (.inr (rests_withTransport (by omega) hstep))⟩
      | some progressed =>
        have hone := counts_withTransport _ _ _ _ hstep
        exact ih (by omega) hnext
    · next hstops =>
      cases h
      refine ⟨by omega, .inr (.inl fun hnone => hstops ⟨by omega, hnone⟩)⟩

omit [ByteBudget B] [Retained R] [InboundClassifier C R] [EventBatch Q] [SlotTransport T]
  [SteadyTransport T] [TimerQueue W] in
lemma looks_withTransport {m : Driving B D C R Q W T Bool} {s : ConnectionSlot B D C R Q W}
    {u : Option T} {f : T → Bool}
    (h : ∀ t, Looks m (s, t) (f t)) : Looks (withTransport (pure false) m) (s, u) (u.any f) := by
  cases u with
  | none => rfl
  | some t =>
    unfold Looks withTransport
    dsimp only
    rw [h t]
    rfl

omit [ByteBudget B] [Retained R] [InboundClassifier C R] [EventBatch Q] [TimerQueue W] in
/-- What is left to decode, to read or to write. -/
lemma looks_runnable (x : ConnectionSlot B D C R Q W × Option T) :
    Looks (Owner.either (pure x.1.decoderPending) (withTransport (pure false) hasRunnableIo)) x
      (x.1.decoderPending || x.2.any (runnableIo x.1)) :=
  looks_either (looks_pure _) (looks_withTransport fun t => hasRunnableIo_looks (x.1, t))

omit [ByteBudget B] [Retained R] [InboundClassifier C R] [EventBatch Q] [SteadyTransport T]
  [TimerQueue W] in
lemma rests_of_unready {x : ConnectionSlot B D C R Q W × Option T}
    (h : (x.1.decoderPending || x.2.any (runnableIo x.1)) = false) :
    Rests x := by
  obtain ⟨s, t⟩ := x
  rw [Bool.or_eq_false_iff] at h
  cases t with
  | none => exact h.1
  | some t => exact h.2

/-- **I/O that is not saturated leaves nothing ready**, unless it meets a close. -/
lemma driveIo_ok {budget : ℕ} {x y : ConnectionSlot B D C R Q W × Option T}
    {progress : SlotProgress} (h : driveIo budget x = (.ok progress, y)) :
    progress.work ≤ budget ∧ (progress.saturated = false → y.1.closeRequest = none → Rests y) := by
  unfold driveIo at h
  obtain ⟨work, z, hloop, h⟩ := Owner.ok_of_bind h
  rw [slot_bind] at h
  obtain ⟨hle, hend⟩ := ioLoop_ok (Nat.zero_add budget) hloop
  have hlook :=
    looks_both (looks_pure (x := z) (decide (work = budget ∧ z.1.closeRequest = none)))
    (looks_runnable z)
  unfold Looks at hlook
  rw [Owner.bind_ok hlook] at h
  cases h
  refine ⟨hle, fun hunsaturated hnone => ?_⟩
  dsimp only at hunsaturated
  rcases hend with hfull | hclose | hrests
  · rw [decide_eq_true ⟨hfull, hnone⟩, Bool.true_and] at hunsaturated
    exact rests_of_unready hunsaturated
  · exact absurd hnone hclose
  · exact hrests

/-! ### The loop of the shutdown -/

/-- The answer of `has_runnable_shutdown`. -/
def runnableShutdown (now : ℕ) (s : ConnectionSlot B D C R Q W) (t : T) : Bool :=
  match s.closeRequest with
  | some (.core _ (.pending _)) => true
  | some (.core _ (.started deadline)) =>
    deadline.isElapsedAt now ||
      ((SlotTransport.isShutdownComplete t).1 || (SlotTransport.hasTransportWork t).1)
  | _ => false

omit [ByteBudget B] [Retained R] [InboundClassifier C R] [EventBatch Q] [TimerQueue W] in
lemma hasRunnableShutdown_looks (now : ℕ) (s : ConnectionSlot B D C R Q W) (t : T) :
    Looks (hasRunnableShutdown now) (s, t) (runnableShutdown now s t) := by
  unfold Looks hasRunnableShutdown runnableShutdown
  rw [slot_bind]
  dsimp only
  rcases s.closeRequest with _ | ⟨reason, shutdown⟩ | _
  · rfl
  · cases shutdown with
    | started deadline =>
      exact looks_either (looks_pure _)
        (looks_either (looks_ask SteadyTransport.isShutdownComplete_same (s, t))
        (looks_ask SteadyTransport.hasTransportWork_same (s, t)))
    | _ => rfl
  · rfl

omit [SteadyTransport T] [ByteBudget B] [Retained R] [InboundClassifier C R] [EventBatch Q]
  [TimerQueue W] in
lemma shutdownStep_busy {reason : CloseReason} {deadline : Deadline}
    {drive : T → TransportBudget → Except TransportDiagnostic TransportProgress × T}
    (x : ConnectionSlot B D C R Q W × T) :
    Busy (shutdownStep reason deadline drive) x := by
  unfold shutdownStep
  refine busy_bind fun s y => busy_bind fun result y => busy_bind fun pressure y => ?_
  split
  · exact busy_bind fun _ _ => busy_bind fun _ _ => busy_some _ _
  · split
    · exact busy_bind fun _ y z hz => by cases hz
    · split
      · exact busy_bind fun _ y z hz => by cases hz
      · exact busy_bind fun _ _ => busy_bind fun _ _ => busy_some _ _

omit [ByteBudget B] [Retained R] [InboundClassifier C R] [EventBatch Q] [SteadyTransport T]
  [TimerQueue W] in
/-- A turn of the shutdown, by its state. -/
lemma driveShutdownOnce_run (now remaining : ℕ) (x : ConnectionSlot B D C R Q W × T) :
    (∃ reason deadline, (x.1.closeRequest = some (.core reason (.pending deadline)) ∨
      x.1.closeRequest = some (.core reason (.started deadline))) ∧
      deadline.isElapsedAt now = true ∧
        driveShutdownOnce now remaining x = (.ok (some 1), x.1.shutdownTimedOut reason, x.2)) ∨
    (∃ reason deadline, x.1.closeRequest = some (.core reason (.pending deadline)) ∧ 0 < remaining ∧
      driveShutdownOnce now remaining x =
        shutdownStep reason deadline SlotTransport.beginShutdown x) ∨
    (∃ reason deadline, x.1.closeRequest = some (.core reason (.started deadline)) ∧
      deadline.isElapsedAt now = false ∧ 0 < remaining ∧
      driveShutdownOnce now remaining x = driveStarted reason deadline x) ∨
    driveShutdownOnce now remaining x = (.ok none, x) ∧ (0 < remaining →
      x.1.closeRequest.all fun directive => directive.shutdownDeadline.isNone) := by
  rcases hrequest : x.1.closeRequest with _ | ⟨reason, shutdown⟩ | _
  · exact .inr (.inr (.inr ⟨by simp only [driveShutdownOnce, slot_bind, hrequest]; rfl,
      fun _ => rfl⟩))
  · cases shutdown with
    | pending deadline =>
      by_cases helapsed : deadline.isElapsedAt now = true
      · refine .inl ⟨reason, deadline, .inl rfl, helapsed, ?_⟩
        simp only [driveShutdownOnce, slot_bind, hrequest, if_pos helapsed]
        rfl
      · by_cases hzero : remaining = 0
        · refine .inr (.inr (.inr ⟨?_, fun hpos => absurd hzero hpos.ne'⟩))
          simp only [driveShutdownOnce, slot_bind, hrequest, if_neg helapsed, if_pos hzero]
          rfl
        · refine .inr (.inl ⟨reason, deadline, rfl, Nat.pos_of_ne_zero hzero, ?_⟩)
          simp only [driveShutdownOnce, slot_bind, hrequest, if_neg helapsed, if_neg hzero]
    | started deadline =>
      by_cases helapsed : deadline.isElapsedAt now = true
      · refine .inl ⟨reason, deadline, .inr rfl, helapsed, ?_⟩
        simp only [driveShutdownOnce, slot_bind, hrequest, if_pos helapsed]
        rfl
      · by_cases hzero : remaining = 0
        · refine .inr (.inr (.inr ⟨?_, fun hpos => absurd hzero hpos.ne'⟩))
          simp only [driveShutdownOnce, slot_bind, hrequest, if_neg helapsed, if_pos hzero]
          rfl
        · refine .inr (.inr (.inl ⟨reason, deadline, rfl, by simpa using helapsed,
            Nat.pos_of_ne_zero hzero, ?_⟩))
          simp only [driveShutdownOnce, slot_bind, hrequest, if_neg helapsed, if_neg hzero]
    | immediate =>
      exact .inr (.inr (.inr ⟨by simp only [driveShutdownOnce, slot_bind, hrequest]; rfl,
        fun _ => rfl⟩))
    | complete =>
      exact .inr (.inr (.inr ⟨by simp only [driveShutdownOnce, slot_bind, hrequest]; rfl,
        fun _ => rfl⟩))
  · exact .inr (.inr (.inr ⟨by simp only [driveShutdownOnce, slot_bind, hrequest]; rfl,
      fun _ => rfl⟩))

omit [ByteBudget B] [Retained R] [InboundClassifier C R] [EventBatch Q] [TimerQueue W] in
/-- A turn of the shutdown without progress. -/
lemma driveShutdownOnce_none {now remaining : ℕ} (hpos : 0 < remaining)
    {y : ConnectionSlot B D C R Q W × T}
    (h : driveShutdownOnce now remaining (s, t) = (.ok none, y)) :
    runnableShutdown now y.1 y.2 = false := by
  obtain ⟨_, _, _, _, hrun⟩ | ⟨reason, deadline, _, _, hrun⟩ | ⟨reason, deadline, hrequest, hearly,
      _, hrun⟩ | ⟨hrun, hquiet⟩ :=
    driveShutdownOnce_run now remaining (s, t)
  · rw [hrun] at h
    cases h
  · rw [hrun] at h
    exact absurd h (shutdownStep_busy _ y)
  · rw [hrun, driveStarted, Owner.ask_bind, SteadyTransport.isShutdownComplete_same] at h
    split at h
    · cases h
      rfl
    · next hincomplete =>
      rw [Owner.ask_bind, SteadyTransport.hasTransportWork_same] at h
      split at h
      · exact absurd h (shutdownStep_busy _ y)
      · next hidle =>
        cases h
        dsimp only at hrequest hincomplete hidle
        unfold runnableShutdown
        dsimp only
        rw [hrequest]
        simp [hearly, hincomplete, hidle]
  · rw [hrun] at h
    cases h
    have hall := hquiet hpos
    unfold runnableShutdown
    dsimp only at hall ⊢
    rcases hrequest : s.closeRequest with _ | ⟨reason, shutdown⟩ | _
    · rfl
    · rw [hrequest] at hall
      cases shutdown with
      | pending => cases hall
      | started => cases hall
      | _ => rfl
    · rfl

omit [SteadyTransport T] [ByteBudget B] [Retained R] [InboundClassifier C R] [EventBatch Q]
  [TimerQueue W] in
/-- A step of the shutdown does not withdraw the close. -/
lemma driveShutdownOnce_pending (now remaining : ℕ) (x : ConnectionSlot B D C R Q W × T)
    (h : x.1.closeRequest.isSome) :
    (driveShutdownOnce now remaining x).2.1.closeRequest.isSome := by
  have hstep : ∀ (reason : CloseReason) (deadline : Deadline)
      (drive : T → TransportBudget → Except TransportDiagnostic TransportProgress × T)
      (y : ConnectionSlot B D C R Q W × T),
          (shutdownStep reason deadline drive y).2.1.closeRequest.isSome :=
        fun reason deadline drive y => by
    obtain ⟨shutdown, hrequest⟩ := shutdownStep_reason reason deadline drive y.1 y.2
    rw [hrequest]
    rfl
  obtain ⟨_, _, _, _, hrun⟩ | ⟨reason, deadline, _, _, hrun⟩ | ⟨reason, deadline, _, _, _,
      hrun⟩ | ⟨hrun, _⟩ :=
    driveShutdownOnce_run now remaining x
  · rw [hrun]
    rfl
  · rw [hrun]
    exact hstep _ _ _ _
  · rw [hrun, driveStarted, Owner.ask_bind]
    split
    · rfl
    · rw [Owner.ask_bind]
      split
      · exact hstep _ _ _ _
      · exact h
  · rw [hrun]
    exact h

section
omit [ByteBudget B] [Retained R] [InboundClassifier C R] [EventBatch Q] [TimerQueue W]

/-- **The loop of the shutdown** uses its budget up or leaves nothing to do. -/
lemma closeLoop_ok {now budget turns work work' : ℕ} {x y : ConnectionSlot B D C R Q W × Option T}
    (hturns : work + turns = budget) (hpending : x.1.closeRequest.isSome)
    (h : closeLoop now budget turns work x = (.ok work', y)) :
    work' ≤ budget ∧ y.1.closeRequest.isSome ∧
      (work' = budget ∨ y.2.any (runnableShutdown now y.1) = false) := by
  induction turns generalizing work x with
  | zero =>
    cases h
    exact ⟨hturns.le, hpending, .inl hturns⟩
  | succ turns ih =>
    rw [closeLoop, if_pos (by omega)] at h
    obtain ⟨progressed, z, hstep, hnext⟩ := Owner.ok_of_bind h
    obtain ⟨s, u⟩ := x
    cases u with
    | none =>
      cases hstep
      cases hnext
      exact ⟨by omega, hpending, .inr rfl⟩
    | some t =>
      have hresult : (driveShutdownOnce now (budget - work) (s, t)).1 = .ok progressed :=
        congrArg Prod.fst hstep
      have hrun : driveShutdownOnce now (budget - work) (s, t) =
          (.ok progressed, (driveShutdownOnce now (budget - work) (s, t)).2) :=
        Prod.ext hresult rfl
      have hz : z = ((driveShutdownOnce now (budget - work) (s, t)).2.1,
          some (driveShutdownOnce now (budget - work) (s, t)).2.2) :=
        (congrArg Prod.snd hstep).symm
      have hkept := driveShutdownOnce_pending now (budget - work) (s, t) hpending
      cases progressed with
      | none =>
        cases hnext
        rw [hz]
        exact ⟨by omega, hkept, .inr (driveShutdownOnce_none (by omega) hrun)⟩
      | some progressed =>
        have hone := counts_driveShutdownOnce now (budget - work) (s, t) _ _ hrun
        exact ih (by omega) (by rw [hz]; exact hkept) hnext

lemma driveCloseQuantum_ok {now budget work : ℕ} (hwork : work ≤ budget)
    {x y : ConnectionSlot B D C R Q W × Option T} {progress : SlotProgress}
    (hpending : x.1.closeRequest.isSome)
    (h : driveCloseQuantum now budget work x = (.ok progress, y)) :
    progress.work ≤ budget ∧ y.1.closeRequest.isSome ∧
      (progress.saturated = false → y.2.any (runnableShutdown now y.1) = false) := by
  unfold driveCloseQuantum at h
  obtain ⟨work', z, hloop, h⟩ := Owner.ok_of_bind h
  obtain ⟨hle, hkept, hend⟩ := closeLoop_ok (by omega) hpending hloop
  have hlook := looks_both (looks_pure (x := z) (decide (work' = budget)))
    (looks_withTransport (s := z.1) (u := z.2) fun t => hasRunnableShutdown_looks now z.1 t)
  unfold Looks at hlook
  rw [Owner.bind_ok hlook] at h
  cases h
  refine ⟨hle, hkept, fun hunsaturated => ?_⟩
  dsimp only at hunsaturated
  rcases hend with hfull | hidle
  · rw [decide_eq_true hfull, Bool.true_and] at hunsaturated
    exact hunsaturated
  · exact hidle

end

end

/-! ### The writer -/

section
variable [BoundedTimers W] {s s' : ConnectionSlot B D C R Q W} {e e' : Epoch OutboundFrame}
  {permits permits' : List OperationPermit} {cause : SlotCall T}

/-- Every frame in the writer shows the bytes that were measured at its commit. -/
def Measured (e : Epoch OutboundFrame) : Prop :=
  ∀ x ∈ e.lane, ∀ w ∈ x.write, (OutboundFrame.view.bytes w.frame).length = w.measure.wireBytes

lemma Measured.subset (h : Measured e) (hlane : ∀ y ∈ e'.lane, y ∈ e.lane) : Measured e' :=
  fun y hy => h y (hlane y hy)

lemma Measured.replace (h : Measured e) {pre post : List (Item OutboundFrame)}
    {x y : Item OutboundFrame} (hl : e.lane = pre ++ x :: post) (hl' : e'.lane = pre ++ y :: post)
    (hwrite : ∀ w' ∈ y.write, ∃ w ∈ x.write, w.frame = w'.frame ∧ w.measure = w'.measure) :
    Measured e' := by
  intro z hz w' hw'
  rw [hl', List.mem_append, List.mem_cons] at hz
  rcases hz with hz | rfl | hz
  · exact h z (by rw [hl]; exact List.mem_append_left _ hz) w' hw'
  · obtain ⟨w, hw, hframe, hmeasure⟩ := hwrite w' hw'
    rw [← hframe, ← hmeasure]
    exact h x (by simp [hl]) w hw
  · exact h z (by rw [hl]; exact List.mem_append_right _ (List.mem_cons_of_mem _ hz)) w' hw'

/-- No transition of the core changes a frame. -/
lemma Measured.step {X : Type} {call : Call OutboundFrame X} {r : Response OutboundFrame X}
    (he : Measured e) (h : Step e call r e')
    (hcall : ∀ index frame view, call = .commit index frame view → view = OutboundFrame.view) :
    Measured e' := by
  cases h with
  | @committed _ p _ frame view =>
    obtain rfl := hcall _ _ _ rfl
    intro x hx w hw
    rcases List.mem_append.mp hx with hx | hx
    · exact he x hx w hw
    · rw [List.mem_singleton.mp hx] at hw
      cases hw
      rfl
  | removed _ lane =>
    refine he.subset fun y hy => ?_
    rw [lane]
    exact (sublist_remove _ _ _).subset (mem_drained hy)
  | @buried _ _ x _ lane => exact he.replace (y := x.bury) lane rfl fun w hw => ⟨w, hw, rfl, rfl⟩
  | closed => exact fun y hy => by cases hy
  | draining => exact he.subset fun y hy => (mem_drained hy :)
  | replied _ _ front =>
    refine he.subset fun y hy => ?_
    rw [front]
    exact List.mem_cons_of_mem _ (mem_drained hy)
  | @progressed _ _ x w n _ front =>
    refine he.replace (y := x.progress w n) front.lane rfl fun w' hw' => ⟨w, front.write, ?_⟩
    cases hw'
    exact ⟨rfl, rfl⟩
  | @finished _ _ x w n _ front =>
    refine he.replace (y := x.finish w n) front.lane rfl fun w' hw' => ?_
    cases hw'
  | completed _ front =>
    refine he.subset fun y hy => ?_
    rw [front.lane]
    exact (sublist_remove _ _ _).subset (mem_drained hy)
  | @overran _ _ x w _ _ front =>
    refine he.replace (y := x.overrun w) front.lane rfl fun w' hw' => ⟨w, front.write, ?_⟩
    cases hw'
    exact ⟨rfl, rfl⟩
  | recovered => exact fun y hy => by cases hy
  | _ => exact he

section
omit [SteadyTransport T]

lemma Move.measured {a b : Scene B D C R Q W T} (h : Move permits cause a b)
    (ha : Measured a.epoch) : Measured b.epoch := by
  rcases h.stepped with hsame | ⟨_, _, _, hstep, hcall⟩
  · rw [hsame]
    exact ha
  · exact ha.step hstep fun _ _ _ heq => absurd heq (hcall _ _ _)

lemma SlotStep.measured {call : SlotCall T} {r : SlotResponse R T}
    (h : SlotStep s e permits call r (some s') e' permits') (howns : Owns permits s e)
    (he : Measured e) : Measured e' := by
  cases h using SlotStep.casesPlain with
  | plain _ hplain =>
    rw [hplain.epoch]
    exact he
  | drove running guards path latched =>
    exact path.keeps (I := fun sc => Measured sc.epoch) howns he fun a b hmove _ ha =>
      hmove.measured ha
  | committed running step latched =>
    refine he.step step fun _ _ _ heq => ?_
    cases heq
    rfl
  | aborted => exact he
  | confirmed request ready step published => exact he.step step fun _ _ _ heq => by cases heq
  | unpublished request ready step published => exact he.step step fun _ _ _ heq => by cases heq
  | unconfirmed request ready step => exact he.step step fun _ _ _ heq => by cases heq

end

omit [Retained R] [InboundClassifier C R] [EventBatch Q] [BoundedTimers W] in
/-- **A healthy writer offers a byte of every frame that is not empty.** -/
lemma Measured.offering (h : Measured e) (howns : Owns permits s e) (hhealthy : e.poisoned = none) :
    Offering s := by
  obtain ⟨e₁, _, hstep, _⟩ :=
    follows_step howns s.debug
    (.frontWrite OutboundFrame.view s.limits.ioChunkBytes : Call OutboundFrame Unit)
  simp only [World.step] at hstep
  obtain ⟨slice, hfront⟩ | ⟨source, core, hfront⟩ := frontWrite_cases s.core s.limits.ioChunkBytes
  · refine ⟨slice, hfront, fun front hmem hnil => ?_⟩
    rw [hfront] at hstep
    cases hstep with
    | offered _ offers =>
      cases offers with
      | nothing => cases hmem
      | @slice w rest hframes stable =>
        cases hmem
        have hw : w ∈ e.frames := by
          rw [hframes]
          exact List.mem_cons_self
        obtain ⟨x, hx, hwrite⟩ := List.mem_filterMap.mp hw
        have hle : w.measure.wireBytes ≤ w.written := by
          have hlength := congrArg List.length hnil
          have hchunk := s.limits.chunk_pos
          rw [List.length_take, List.length_drop, stable, List.length_nil] at hlength
          omega
        have hempty : w.measure.wireBytes = 0 := by
          cases howns.wf.sound hhealthy x hx with
          | awaiting gone =>
            rw [gone] at hwrite
            cases hwrite
          | queued here _ _ _ written =>
            cases here.symm.trans hwrite
            omega
          | started here _ _ _ _ partly =>
            cases here.symm.trans hwrite
            omega
        unfold ConnectionCore.frontWriteIsEmpty
        rw [howns.core.writer.frames, hframes]
        simp [hempty]
  · exfalso
    rw [hfront] at hstep
    cases hstep with
    | offerRefused poisoned =>
      rw [hhealthy] at poisoned
      cases poisoned
    | reshaped _ front changed =>
      obtain ⟨x, hx, hwrite⟩ := List.mem_filterMap.mp (front ▸ List.mem_cons_self : _ ∈ e.frames)
      exact changed (h x hx _ hwrite)

/-! ### The quantum -/

omit [InboundClassifier C R] in
/-- The loop over the deadlines stays within its budget. -/
lemma driveDeadlines_le {now budget work : ℕ} (h : driveDeadlines now budget s = (.ok work, s')) :
    work ≤ budget := by
  induction budget generalizing s s' work with
  | zero =>
    cases h
    exact le_rfl
  | succ budget ih =>
    rw [driveDeadlines, Owner.read_bind] at h
    split at h
    · obtain ⟨_, s₁, _, h⟩ := Owner.ok_of_bind h
      obtain ⟨_, s₂, _, h⟩ := Owner.ok_of_bind h
      cases h
      omega
    · split at h
      · obtain ⟨_, s₁, _, h⟩ := Owner.ok_of_bind h
        cases h
        omega
      · obtain ⟨event, s₁, _, h⟩ := Owner.ok_of_bind h
        cases event with
        | none =>
          cases h
          omega
        | some event =>
          obtain ⟨tr, s₂, _, h⟩ := Owner.ok_of_bind h
          obtain ⟨_, s₃, _, h⟩ := Owner.ok_of_bind h
          rw [Owner.read_bind] at h
          split at h
          · cases h
            omega
          · obtain ⟨more, s₄, hmore, h⟩ := Owner.ok_of_bind h
            have hle := ih hmore
            cases h
            omega

section
omit [ByteBudget B] [Retained R] [InboundClassifier C R] [EventBatch Q]

/-- What has elapsed is due. -/
lemma elapsed_of_hasDueDeadline {now : ℕ} (h : s.hasDueDeadline now = false) :
    s.elapsed now = [] := by
  rw [hasDueDeadline, Bool.or_eq_false_iff, Bool.or_eq_false_iff] at h
  obtain ⟨⟨hconnect, hdrain⟩, htimers⟩ := h
  refine List.eq_nil_iff_forall_not_mem.mpr fun due hdue => ?_
  obtain ⟨hnow, ⟨deadline, hset, rfl⟩ | ⟨hconnecting, rfl⟩ | ⟨clock, hclock, rfl⟩⟩ :=
    mem_elapsed.mp hdue
  · rw [hset] at hdrain
    simp only [Option.any_some, Deadline.isElapsedAt, decide_eq_false_iff_not] at hdrain
    exact hdrain hnow
  · rw [hconnecting, Bool.true_and, Deadline.isElapsedAt, decide_eq_false_iff_not] at hconnect
    exact hconnect hnow
  · have hlate : ¬(TimerQueue.nextDeadline s.timers).all (now + 1 ≤ ·.moment) = true :=
      fun hall => by
      have hle := (nextDeadline_clocks s (now + 1)).mp hall clock hclock
      have hmoment : clock.2.moment ≤ now := hnow
      omega
    cases hnext : TimerQueue.nextDeadline s.timers with
    | none => exact hlate (by rw [hnext]; rfl)
    | some deadline =>
      rw [hnext] at htimers hlate
      simp only [Option.any_some, Deadline.isElapsedAt, decide_eq_false_iff_not] at htimers
      simp only [Option.all_some, decide_eq_true_eq] at hlate
      omega

/-- What has elapsed is a deadline of the slot. -/
lemma dues_of_elapsed {now : ℕ} {due : Due} (h : due ∈ s.elapsed now) : due.moment ∈ s.dues := by
  rw [dues, Multiset.mem_add, Multiset.mem_add]
  obtain ⟨_, ⟨deadline, hset, rfl⟩ | ⟨hconnecting, rfl⟩ | ⟨clock, hclock, rfl⟩⟩ := mem_elapsed.mp h
  · refine .inl (.inl ?_)
    simp [ConnectionSlot.held, hset, Due.moment]
  · refine .inl (.inr ?_)
    rw [ConnectionSlot.attempt, if_pos hconnecting]
    exact Multiset.mem_singleton_self _
  · exact .inr (Multiset.mem_coe.mpr (List.mem_map.mpr ⟨clock, hclock, rfl⟩))

/-- Without new deadlines nothing elapses. -/
lemma elapsed_of_dues_le {now : ℕ} (hnone : s.closeRequest = none) (hle : s'.dues ≤ s.dues)
    (h : s.elapsed now = []) :
    s'.elapsed now = [] := by
  refine List.eq_nil_iff_forall_not_mem.mpr fun due hdue => ?_
  exact elapsed_of_dues hnone (Multiset.mem_of_le hle (dues_of_elapsed hdue))
    (mem_elapsed.mp hdue).1 h

end

/-- What a quantum leaves behind, when it is not saturated. -/
structure Settled (now : ℕ) (x : ConnectionSlot B D C R Q W × Option T) : Prop where
  elapsed : x.1.closeRequest = none → x.1.elapsed now = []
  rests : x.1.closeRequest = none → Rests x
  shutdown : x.1.closeRequest.isSome → x.2.any (runnableShutdown now x.1) = false

omit [ByteBudget B] [Retained R] [InboundClassifier C R] [EventBatch Q] in
lemma settled_close {now budget work : ℕ} (hwork : work ≤ budget)
    {x y : ConnectionSlot B D C R Q W × Option T} {progress : SlotProgress}
    (hpending : x.1.closeRequest.isSome)
    (h : driveCloseQuantum now budget work x = (.ok progress, y)) :
    progress.work ≤ budget ∧ (progress.saturated = false → Settled now y) := by
  obtain ⟨hle, hkept, hidle⟩ := driveCloseQuantum_ok hwork hpending h
  have hsome : y.1.closeRequest ≠ none := Option.isSome_iff_ne_none.mp hkept
  exact ⟨hle, fun hunsaturated =>
    ⟨fun hnone => absurd hnone hsome, fun hnone => absurd hnone hsome, fun _ => hidle hunsaturated⟩⟩

/-- **A quantum counts no more than its budget, and leaves nothing behind when
it is not saturated.** -/
theorem Steady.settled (h : Steady permits s e) {now : ℕ} {u : Option T} {progress : SlotProgress}
    {y : ConnectionSlot B D C R Q W × Option T}
    (hok : driveQuantumInner now (s, u) = (.ok progress, y)) :
    progress.work ≤ s.limits.ioOperations ∧ (progress.saturated = false → Settled now y) := by
  obtain ⟨⟨s₁, u₁⟩, work, s₂, hcapture, hpending, hafter⟩ := driveQuantumInner_ok hok
  obtain ⟨hsteady, _, hlimits⟩ := h.glanced hcapture
  dsimp only at hsteady hlimits hpending hafter
  rw [hlimits] at hpending hafter
  generalize s.limits.ioOperations = budget at hpending hafter ⊢
  -- The deadlines: within the budget, and none is left when some of it remains.
  have hdeadlines : work ≤ budget ∧ (∃ e₂, Steady permits s₂ e₂) ∧
      (work < budget → s₂.closeRequest = none → s₂.elapsed now = []) := by
    unfold drivePending at hpending
    split at hpending
    · next hnone =>
      have hwalks : Walks permits (.driveQuantum now u) (fun s => (s, u))
          (driveDeadlines now budget) s₁ :=
        walks_driveDeadlines now budget s₁
      obtain ⟨e₂, hsteady₂, _⟩ := hsteady.walked hwalks hpending
      have hidle := ((hsteady.poised hnone).follows (.refl s₁) now budget).2.idle
      rw [hpending] at hidle
      exact ⟨driveDeadlines_le hpending, ⟨e₂, hsteady₂⟩, hidle work rfl⟩
    · next hsome =>
      cases hpending
      exact ⟨Nat.zero_le _, ⟨e, hsteady⟩, fun _ hnone => absurd hnone hsome⟩
  obtain ⟨hwork, ⟨e₂, hsteady₂⟩, hidle⟩ := hdeadlines
  rw [afterDeadlines, slot_bind] at hafter
  split at hafter
  · next hclosing => exact settled_close hwork hclosing hafter
  · next hopen =>
    have hnone : s₂.closeRequest = none := by simpa using hopen
    split at hafter
    · next hfull =>
      rw [Owner.bind_ok (looks_runnable (s₂, u₁))] at hafter
      cases hafter
      refine ⟨hwork, fun hunsaturated => ?_⟩
      rw [Bool.or_eq_false_iff] at hunsaturated
      refine ⟨fun _ => elapsed_of_hasDueDeadline hunsaturated.1, fun _ =>
        rests_of_unready hunsaturated.2, fun hsome => ?_⟩
      exact absurd hnone (Option.isSome_iff_ne_none.mp hsome)
    · next hfew =>
      obtain ⟨io, z, hio, hafter⟩ := Owner.ok_of_bind hafter
      obtain ⟨hiowork, hiorests⟩ := driveIo_ok hio
      rw [slot_bind] at hafter
      split at hafter
      · next hclosing => exact settled_close (by omega) hclosing hafter
      · next hopen' =>
        have hnone' : z.1.closeRequest = none := by simpa using hopen'
        cases hafter
        refine ⟨?_, fun hunsaturated => ⟨fun _ => ?_, hiorests hunsaturated, fun hsome => ?_⟩⟩
        · dsimp only
          omega
        · have hwalks : Walks permits (.driveQuantum now u) along (driveIo (budget - work))
            (s₂, u₁) := walks_driveIo _ _
          obtain ⟨_, _, hle⟩ := hsteady₂.walked_le hwalks hio drains_quantum
          exact elapsed_of_dues_le hnone hle (hidle (by omega) hnone)
        · exact absurd hnone' (Option.isSome_iff_ne_none.mp hsome)

/-! ### Runs -/

section
omit [SteadyTransport T]

/-- Every run keeps its slot in its phase, with its timers and its frames. -/
theorem measured_run (setup : SlotSetup D C R E) (calls : List (SlotCall T)) :
    Standing (fun _ s e _ => Phased s e ∧ (s.state = .running → Timed s e) ∧ Measured e)
      (fun _ => True) (setup.history B Q W calls) (setup.final B Q W calls) := by
  refine standing_run setup ⟨Phased.new setup, fun _ => Timed.new setup, fun x hx => by cases hx⟩ ?_
    (fun _ _ _ _ _ _ _ _ _ _ _ _ => trivial) (fun _ _ _ _ _ => trivial) calls
  intro h s e permits call s' e' ev howns ⟨hphased, htimed, hmeasured⟩ hstep _ _ _ howns'
  exact ⟨hphased.step howns hstep, (Timed.step htimed howns howns' hstep).1,
    hstep.measured howns hmeasured⟩

/-- Between two calls a running slot is steady, and its writer offers what it has. -/
lemma steady_final (setup : SlotSetup D C R E) (calls : List (SlotCall T))
    (hslot : s ∈ (setup.final B Q W calls).slot) (hrunning : s.state = .running) :
    (∃ e, Steady (setup.final B Q W calls).permits s e) ∧ Offering s := by
  have hrun := measured_run (B := B) (Q := Q) (W := W) setup calls
  unfold Standing at hrun
  rw [Option.mem_def.mp hslot] at hrun
  obtain ⟨e, howns, hphased, htimed, hmeasured⟩ := hrun
  have hsteady := hphased.steady howns htimed hrunning
  exact ⟨⟨e, hsteady⟩, hmeasured.offering howns hsteady.healthy⟩

end

/-- **A quantum is bounded and loses no work.** In every running slot, at every moment and with
every transport whose questions do not change it: a quantum that succeeds counts no more than
its budget; when it is not saturated and no close is pending, no deadline has elapsed and no
I/O is runnable; when it is not saturated and a close is pending, no shutdown is runnable.
While the transport is connecting or open, within its memory, `has_runnable_io` says whether
the rotation finds something. -/
theorem quantum_loses_no_work (setup : SlotSetup D C R E) (calls : List (SlotCall T))
    (s : ConnectionSlot B D C R Q W) (hslot : s ∈ (setup.final B Q W calls).slot)
    (hrunning : s.state = .running) (now : ℕ) :
    (∀ (u u' : Option T) (s' : ConnectionSlot B D C R Q W) (progress : SlotProgress),
      driveQuantum now (s, u) = (.ok progress, s', u') →
      progress.work ≤ s.limits.ioOperations ∧
      (progress.saturated = false → s'.closeRequest = none →
        s'.elapsed now = [] ∧ s'.hasDueDeadline now = false ∧
        (∀ t ∈ u', (hasRunnableIo (s', t)).1 = .ok false) ∧
          (u' = none → s'.decoderPending = false)) ∧
      (progress.saturated = false → s'.closeRequest ≠ none →
        ∀ t ∈ u', (hasRunnableShutdown now (s', t)).1 = .ok false)) ∧
    ∀ (t : T) (remaining : ℕ), 0 < remaining → s.transportState = .connecting ∨
      s.transportState = .opened →
      s.closeRequest = none → (captureTransportPressure (s, t)).1 = .ok () →
      ((hasRunnableIo (s, t)).1 = .ok true ↔ (driveReadyOnce remaining (s, t)).1 ≠ .ok none) := by
  obtain ⟨⟨e, hsteady⟩, hoffer⟩ := steady_final setup calls hslot hrunning
  refine ⟨fun u u' s' progress hquantum => ?_, fun t remaining hpos hstate _ hmemory => ?_⟩
  · rw [driveQuantum_run hrunning] at hquantum
    have hinner : driveQuantumInner now (s, u) = (.ok progress, s', u') := by
      cases hran : driveQuantumInner now (s, u) with
      | mk result y =>
      rw [hran] at hquantum
      cases hquantum
      rfl
    obtain ⟨hwork, hsettled⟩ := hsteady.settled hinner
    refine ⟨hwork, fun hunsaturated hnone => ?_, fun hunsaturated hsome t ht => ?_⟩
    · have helapsed := (hsettled hunsaturated).elapsed hnone
      have hrests := (hsettled hunsaturated).rests hnone
      refine ⟨helapsed, hasDueDeadline_of_elapsed helapsed, fun t ht => ?_, fun habsent =>
        hrests.decoderPending⟩
      cases ht
      have hidle : runnableIo s' t = false := hrests
      rw [hasRunnableIo_looks (s', t), hidle]
    · cases ht
      have hidle : runnableShutdown now s' t = false :=
        (hsettled hunsaturated).shutdown (Option.isSome_iff_ne_none.mpr hsome)
      rw [hasRunnableShutdown_looks now s' t, hidle]
  · rw [← runnable_iff_driveReadyOnce hpos hoffer hstate hmemory, hasRunnableIo_looks (s, t)]
    exact ⟨fun h => by simpa using h, fun h => by rw [h]⟩

instance : SteadyTransport Peer :=
  ⟨fun _ => rfl, fun _ => rfl, fun _ => rfl, fun _ => rfl, fun _ => rfl, fun _ => rfl, fun _ _ =>
    rfl, fun _ => rfl, fun _ => rfl⟩

/-- A committed frame is runnable; a quantum writes it and rests. -/
theorem quantum_loses_no_work_sample :
    ∃ s ∈ (SlotSetup.sample.final Counted ListBatch ListTimers sampleSlotCalls).slot,
      (hasRunnableIo (s, (⟨true, [], false⟩ : Peer))).1 = .ok true ∧
      (driveReadyOnce 2 (s, (⟨true, [], false⟩ : Peer))).1 ≠ .ok none ∧
      ∃ s', driveQuantum 5 (s, some (⟨true, [], false⟩ : Peer)) =
        (.ok ⟨1, false⟩, s', some ⟨true, [], false⟩) ∧
        s'.elapsed 5 = [] ∧ (hasRunnableIo (s', (⟨true, [], false⟩ : Peer))).1 = .ok false := by
  have hsample : ((SlotSetup.sample.final Counted ListBatch ListTimers
      sampleSlotCalls).slot.any fun s =>
      s.state = .running ∧ s.transportState = .opened ∧ s.closeRequest = none ∧
      (captureTransportPressure (s, (⟨true, [], false⟩ : Peer))).1.toOption = some () ∧
      (hasRunnableIo (s, (⟨true, [], false⟩ : Peer))).1.toOption = some true ∧
      (driveQuantum 5 (s, some (⟨true, [], false⟩ : Peer))).1.toOption = some ⟨1, false⟩ ∧
      (driveQuantum 5 (s, some (⟨true, [], false⟩ : Peer))).2.1.closeRequest = none ∧
      (driveQuantum 5 (s, some (⟨true, [], false⟩ : Peer))).2.2 = some ⟨true, [], false⟩) =
        true := by decide +kernel
  obtain ⟨s, hslot, hall⟩ := Option.any_eq_true .. |>.mp hsample
  obtain ⟨hrunning, hopened, hnone, hmemory, hrunnable, hquantum, hnone', htransport⟩ :=
    of_decide_eq_true hall
  have hok {α : Type} {r : Except EngineError α} {a : α} (h : r.toOption = some a) : r = .ok a := by
    cases r with
    | error => cases h
    | ok => exact congrArg Except.ok (Option.some.inj h)
  obtain ⟨hsettles, hagrees⟩ :=
    quantum_loses_no_work SlotSetup.sample sampleSlotCalls s hslot hrunning 5
  refine ⟨s, hslot, hok hrunnable,
    (hagrees _ 2 Nat.two_pos (.inr hopened) hnone (hok hmemory)).mp (hok hrunnable), ?_⟩
  have hrun : driveQuantum 5 (s, some (⟨true, [], false⟩ : Peer)) =
      (.ok ⟨1, false⟩, (driveQuantum 5 (s, some (⟨true, [], false⟩ : Peer))).2.1,
          some ⟨true, [], false⟩) :=
    Prod.ext (hok hquantum) (Prod.ext rfl htransport)
  obtain ⟨_, hidle, _⟩ := hsettles _ _ _ _ hrun
  obtain ⟨helapsed, _, hio, _⟩ := hidle rfl hnone'
  exact ⟨_, hrun, helapsed, hio _ rfl⟩

end

end Bornera.Slot
