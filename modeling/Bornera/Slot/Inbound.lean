import Bornera.Slot.Beside

/-!
# The room of a slot for its input

A read is as long as what the decoder may still retain, and one frame is decoded between two reads.
So the decoder is fed within its bound, never twice in a row, and never after a failure; and when
every frame it hands out frees some memory, a slot closes for want of room only over what its
decoder really did. The decoder is observed through `Recorded`, which lists its calls.
-/

namespace Bornera.Slot

open Bornera.Core Bornera.Core.Epoch Lib ConnectionSlot

/-! ### Recorded decoders -/

/-- One call of a decoder: what it retained before, its answer, and what it retained after. -/
inductive DecoderEvent (R E : Type) where
  | fed (before incoming : ℕ) (result : Except E Unit) (after : ℕ)
  | asked (before : ℕ) (result : Except E (Option R)) (after : ℕ)

namespace DecoderEvent

variable {R E : Type} [Retained R]

def before : DecoderEvent R E → ℕ
  | fed before _ _ _ => before
  | asked before _ _ => before

def after : DecoderEvent R E → ℕ
  | fed _ _ _ after => after
  | asked _ _ after => after

def feeds : DecoderEvent R E → Bool
  | fed _ _ _ _ => true
  | asked _ _ _ => false

def erred : DecoderEvent R E → Bool
  | fed _ _ result _ => !result.isOk
  | asked _ result _ => !result.isOk

/-- The call stops the driver of the decoder. -/
def Breaks (limit : ℕ) (ev : DecoderEvent R E) : Prop := ev.erred = true ∨ limit < ev.after

/-- A feed is of some bytes, and there is room for them. -/
def Fits (limit : ℕ) : DecoderEvent R E → Prop
  | fed before incoming _ _ => 0 < incoming ∧ before + incoming ≤ limit
  | asked _ _ _ => True

/-- A call that may come after another: nothing follows a failure, and no feed another feed. -/
structure Follows (limit : ℕ) (a b : DecoderEvent R E) : Prop where
  whole : ¬a.Breaks limit
  before : b.before = a.after
  alternate : a.feeds = true → b.feeds = false

/-- The call leaves no room, or hands out a frame that is too large. -/
def Overflows (limits : ConnectionSlotLimits) : DecoderEvent R E → Prop
  | fed _ _ _ after => limits.decoderBytes < after
  | asked _ (.ok (some frame)) after =>
    limits.decoderBytes < after ∨ limits.replyBytes < Retained.retainedBytes frame
  | asked _ (.ok none) after => limits.decoderBytes ≤ after
  | asked _ (.error _) _ => False

end DecoderEvent

/-- A decoder with the list of its calls. -/
structure Recorded (D R E : Type) where
  inner : D
  events : List (DecoderEvent R E)

variable {B D C R E T : Type} {Q W : Type → Type} [ByteBudget B] [FrameDecoder D R E] [Retained R]
  [InboundClassifier C R] [EventBatch Q] [TimerQueue W] [SlotTransport T]

namespace Recorded

/-- The record of a feed. -/
def feeding (d : Recorded D R E) (bytes : List UInt8) : DecoderEvent R E :=
  .fed (FrameDecoder.retainedBytes d.inner) bytes.length (FrameDecoder.feed d.inner bytes).1
    (FrameDecoder.retainedBytes (FrameDecoder.feed d.inner bytes).2)

/-- The record of a request for a frame. -/
def asking (d : Recorded D R E) : DecoderEvent R E :=
  .asked (FrameDecoder.retainedBytes d.inner) (FrameDecoder.nextFrame d.inner).1
    (FrameDecoder.retainedBytes (FrameDecoder.nextFrame d.inner).2)

/-- It does what its decoder does. -/
instance : FrameDecoder (Recorded D R E) R E where
  feed d bytes :=
    ((FrameDecoder.feed d.inner bytes).1,
    ⟨(FrameDecoder.feed d.inner bytes).2, d.events ++ [d.feeding bytes]⟩)
  nextFrame d :=
    ((FrameDecoder.nextFrame d.inner).1,
    ⟨(FrameDecoder.nextFrame d.inner).2, d.events ++ [d.asking]⟩)
  retainedBytes d := FrameDecoder.retainedBytes d.inner

end Recorded

/-! ### The driver -/

/-- What a driver and the calls of its decoder have to do with each other. -/
structure Charted (limit : ℕ) (f : FrameDriver (Recorded D R E)) : Prop where
  bound : f.maxRetainedBytes = limit
  chain : f.decoder.events.IsChain (DecoderEvent.Follows limit)
  fits : ∀ ev ∈ f.decoder.events, ev.Fits limit
  last : ∀ ev ∈ f.decoder.events.getLast?, ev.after = f.retainedBytes ∧
    (ev.Breaks limit → f.failed = true)
  within : f.failed = false → f.retainedBytes ≤ limit

/-- One call of the decoder through its driver. -/
structure Driven (limit : ℕ) (f f' : FrameDriver (Recorded D R E))
    (ev : DecoderEvent R E) : Prop where
  bound : f'.maxRetainedBytes = f.maxRetainedBytes
  events : f'.decoder.events = f.decoder.events ++ [ev]
  before : ev.before = f.retainedBytes
  after : ev.after = f'.retainedBytes
  breaks : ev.Breaks limit → f'.failed = true
  whole : f'.failed = false → ¬ev.Breaks limit

variable {limit : ℕ} {f : FrameDriver (Recorded D R E)}

omit [Retained R] in
lemma Charted.driven {f' : FrameDriver (Recorded D R E)} {ev : DecoderEvent R E}
    (h : Charted limit f) (hd : Driven limit f f' ev) (hwhole : f.failed = false)
    (hfits : ev.Fits limit)
    (halternate : ∀ last ∈ f.decoder.events.getLast?, last.feeds = true → ev.feeds = false) :
    Charted limit f' where
  bound := hd.bound.trans h.bound
  chain := by
    rw [hd.events, List.isChain_append]
    refine ⟨h.chain, List.isChain_singleton ev, fun last hlast ev' hev => ?_⟩
    cases hev
    obtain ⟨hafter, hbreaks⟩ := h.last last hlast
    refine ⟨fun hb => ?_, hd.before.trans hafter.symm, halternate last hlast⟩
    rw [hbreaks hb] at hwhole
    cases hwhole
  fits ev' hmem := by
    rw [hd.events, List.mem_append, List.mem_singleton] at hmem
    rcases hmem with hmem | rfl
    · exact h.fits ev' hmem
    · exact hfits
  last ev' hmem := by
    rw [hd.events, List.getLast?_concat] at hmem
    cases hmem
    exact ⟨hd.after, hd.breaks⟩
  within hfailed := by
    rw [← hd.after]
    exact not_lt.mp fun hlt => hd.whole hfailed (.inr hlt)

/-- How a driver answers for the call `ev` of its decoder. -/
inductive Answers {α : Type} (limit : ℕ) (ev : DecoderEvent R E)
    (f' : FrameDriver (Recorded D R E)) :
    Except (FrameDecodeError E) α → Prop where
  | whole (a : α) (whole : f'.failed = false) : Answers limit ev f' (.ok a)
  | erred (source : E) : Answers limit ev f' (.error (.decoder source))
  | overgrown (retained bound : ℕ) (unerred : ev.erred = false) (grown : limit < ev.after) :
    Answers limit ev f' (.error (.retainedContractViolation retained bound))

section
omit [Retained R]

lemma DecoderEvent.breaks_iff {ev : DecoderEvent R E} (h : ev.erred = false) :
    ev.Breaks limit ↔ limit < ev.after := by
  unfold DecoderEvent.Breaks
  simp [h]

/-- The check of the driver after a call of the decoder that succeeded. -/
lemma validate_driven (h : Charted limit f) (hwhole : f.failed = false) {d : Recorded D R E}
    {ev : DecoderEvent R E} (hevents : d.events = f.decoder.events ++ [ev])
    (hbefore : ev.before = f.retainedBytes) (hafter : ev.after = FrameDecoder.retainedBytes d)
    (hunerred : ev.erred = false) :
    Driven limit f ({ f with decoder := d }.validateRetained (E := E)).2 ev ∧
      Answers limit ev ({ f with decoder := d }.validateRetained (E := E)).2
          ({ f with decoder := d }.validateRetained (E := E)).1 := by
  unfold FrameDriver.validateRetained
  split
  · next hgrown =>
    have hlt : limit < ev.after := by
      rw [hafter, ← h.bound]
      exact hgrown
    exact ⟨⟨rfl, hevents, hbefore, hafter, fun _ => rfl, fun hf => by cases hf⟩,
      .overgrown _ _ hunerred hlt⟩
  · next hfits =>
    have hnot : ¬ev.Breaks limit := by
      rw [DecoderEvent.breaks_iff hunerred, hafter, ← h.bound]
      exact hfits
    exact ⟨⟨rfl, hevents, hbefore, hafter, fun hb => absurd hb hnot, fun _ => hnot⟩,
      .whole () hwhole⟩

/-- **A feed for which there is room reaches the decoder.** -/
lemma feed_driven (h : Charted limit f) (hwhole : f.failed = false) (hlimit : limit ≤ u64Max)
    {bytes : List UInt8} (hroom : f.retainedBytes + bytes.length ≤ limit) :
    Driven limit f (f.feed bytes).2 (f.decoder.feeding bytes) ∧
      Answers limit (f.decoder.feeding bytes) (f.feed bytes).2 (f.feed bytes).1 := by
  have hlength : ¬u64Max < bytes.length := by omega
  have hadd : checkedAdd f.retainedBytes bytes.length = some (f.retainedBytes + bytes.length) := by
    unfold checkedAdd
    rw [if_pos (by omega)]
  have haccepted : ¬f.retainedBytes + bytes.length > f.maxRetainedBytes := by
    rw [h.bound]
    omega
  unfold FrameDriver.feed
  rw [if_neg (by simp [hwhole]), if_neg hlength, hadd]
  dsimp only
  rw [if_neg haccepted]
  cases hfeed : (FrameDecoder.feed f.decoder.inner bytes).1 with
  | error error =>
    have hrecord : FrameDecoder.feed f.decoder bytes =
      (.error error, (FrameDecoder.feed f.decoder bytes).2) := Prod.ext hfeed rfl
    rw [hrecord]
    exact ⟨⟨rfl, rfl, rfl, rfl, fun _ => rfl, fun hf => by cases hf⟩, .erred error⟩
  | ok answer =>
    cases answer
    have hrecord : FrameDecoder.feed f.decoder bytes =
      (.ok (), (FrameDecoder.feed f.decoder bytes).2) := Prod.ext hfeed rfl
    have hunerred : (f.decoder.feeding bytes).erred = false := by
      simp only [Recorded.feeding, hfeed, DecoderEvent.erred]
      rfl
    rw [hrecord]
    exact validate_driven h hwhole rfl rfl rfl hunerred

/-- **A driver that has not failed asks its decoder.** -/
lemma next_driven (h : Charted limit f) (hwhole : f.failed = false) :
    Driven limit f f.nextFrame.2 f.decoder.asking ∧
      Answers limit f.decoder.asking f.nextFrame.2 f.nextFrame.1 ∧
      ∀ frame, f.nextFrame.1 = .ok frame →
        (FrameDecoder.nextFrame f.decoder.inner).1 = .ok frame := by
  unfold FrameDriver.nextFrame
  rw [if_neg (by simp [hwhole])]
  cases hnext : (FrameDecoder.nextFrame f.decoder.inner).1 with
  | error error =>
    have hrecord : FrameDecoder.nextFrame f.decoder =
      (.error error, (FrameDecoder.nextFrame f.decoder).2) := Prod.ext hnext rfl
    rw [hrecord]
    exact ⟨⟨rfl, rfl, rfl, rfl, fun _ => rfl, fun hf => by cases hf⟩, .erred error,
      fun frame hframe => by cases hframe⟩
  | ok frame =>
    have hrecord : FrameDecoder.nextFrame f.decoder =
      (.ok frame, (FrameDecoder.nextFrame f.decoder).2) := Prod.ext hnext rfl
    have hunerred : f.decoder.asking.erred = false := by
      simp only [Recorded.asking, hnext, DecoderEvent.erred]
      rfl
    rw [hrecord]
    dsimp only
    have hchecked :=
      validate_driven (d := (FrameDecoder.nextFrame f.decoder).2) h hwhole rfl rfl rfl hunerred
    rcases hvalid : ({ f with decoder := (FrameDecoder.nextFrame f.decoder).2 }.validateRetained)
      with ⟨error | ⟨⟩, f'⟩ <;>
      rw [hvalid] at hchecked ⊢
    · refine ⟨hchecked.1, ?_, fun frame hframe => by cases hframe⟩
      obtain ⟨_, hanswers⟩ := hchecked
      cases hanswers with
      | erred source => exact .erred source
      | overgrown retained bound unerred grown => exact .overgrown retained bound unerred grown
    · obtain ⟨hdriven, hanswers⟩ := hchecked
      cases hanswers with
      | whole _ whole =>
        exact ⟨hdriven, .whole frame whole, fun frame' hframe => by cases hframe; rfl⟩

end

/-! ### The slot and its decoder -/

variable {permits : List OperationPermit} {strict : Prop} {current : IoPreference}
  {e : Epoch OutboundFrame} {s s' : ConnectionSlot B (Recorded D R E) C R Q W}

/-- Every frame a decoder hands out frees some memory. -/
def Drains (D : Type) {R E : Type} [FrameDecoder D R E] : Prop :=
  ∀ (d : D) frame, (FrameDecoder.nextFrame d).1 = .ok (some frame) →
    FrameDecoder.retainedBytes (FrameDecoder.nextFrame d).2 < FrameDecoder.retainedBytes d

/-- The last call of the decoder. -/
def ConnectionSlot.lastEvent (s : ConnectionSlot B (Recorded D R E) C R Q W) :
    Option (DecoderEvent R E) :=
  s.decoder.decoder.events.getLast?

/-- The decoder may be fed: it was asked for a frame since the last feed, and,
when `strict`, it has room. -/
structure Roomy (strict : Prop) (s : ConnectionSlot B (Recorded D R E) C R Q W) : Prop where
  asked : ∀ ev ∈ s.lastEvent, ev.feeds = false
  room : strict → s.decoder.retainedBytes < s.limits.decoderBytes

/-- What the rotation relies on when it comes to the class `current`. -/
structure Turned (strict : Prop) (current : IoPreference)
    (s : ConnectionSlot B (Recorded D R E) C R Q W) : Prop where
  whole : s.decoder.failed = false
  dry : s.decoderPending = false → Roomy strict s
  reading : current = .read → Roomy strict s

/-- What holds of the decoder of a slot in any state. -/
structure Metered (s : ConnectionSlot B (Recorded D R E) C R Q W) : Prop where
  charted : Charted s.limits.decoderBytes s.decoder
  buffer : 0 < s.readBuffer.length

/-- A close for want of room is the fault of the decoder's last call. -/
def Excused (strict : Prop) (s : ConnectionSlot B (Recorded D R E) C R Q W) : Prop :=
  strict → ∀ shutdown, s.closeRequest = some (.core .inboundRetainedCapacity shutdown) →
    ∃ ev ∈ s.lastEvent, ev.Overflows s.limits

/-- The invariant of the rotation. -/
structure Inbound (strict : Prop) (current : IoPreference)
    (s : ConnectionSlot B (Recorded D R E) C R Q W) : Prop
    extends Metered s where
  turned : s.Active → Turned strict current s
  excused : Excused strict s

section
omit [ByteBudget B] [Retained R] [InboundClassifier C R] [EventBatch Q] [TimerQueue W]

lemma Roomy.congr (h : Roomy strict s) (hdecoder : s'.decoder = s.decoder)
    (hlimits : s'.limits = s.limits) : Roomy strict s' := by
  obtain ⟨hasked, hroom⟩ := h
  refine ⟨?_, ?_⟩
  · unfold ConnectionSlot.lastEvent
    rw [hdecoder]
    exact hasked
  · rw [hdecoder, hlimits]
    exact hroom

lemma Turned.congr (h : Turned strict current s) (hdecoder : s'.decoder = s.decoder)
    (hpending : s'.decoderPending = s.decoderPending)
    (hlimits : s'.limits = s.limits) : Turned strict current s' where
  whole := hdecoder ▸ h.whole
  dry hd := (h.dry (hpending ▸ hd)).congr hdecoder hlimits
  reading hr := (h.reading hr).congr hdecoder hlimits

/-- The rotation comes to another class. -/
lemma Turned.retarget {current' : IoPreference} (h : Turned strict current s)
    (hread : current' = .read → Roomy strict s) :
    Turned strict current' s := ⟨h.whole, h.dry, hread⟩

end

omit [ByteBudget B] [FrameDecoder D R E] [Retained R] [InboundClassifier C R] [EventBatch Q]
  [TimerQueue W] in
lemma Beside.lastEvent (h : Beside strict s s') : s'.lastEvent = s.lastEvent := by
  unfold ConnectionSlot.lastEvent
  rw [h.decoder]

section
omit [ByteBudget B] [Retained R] [InboundClassifier C R] [EventBatch Q] [TimerQueue W]

lemma Metered.congr (h : Metered s) (hdecoder : s'.decoder = s.decoder)
    (hlimits : s'.limits = s.limits)
    (hbuffer : s'.readBuffer.length = s.readBuffer.length) : Metered s' := by
  refine ⟨?_, by rw [hbuffer]; exact h.buffer⟩
  rw [hdecoder, hlimits]
  exact h.charted

lemma Metered.beside (h : Metered s) (hb : Beside strict s s') : Metered s' :=
  h.congr hb.decoder hb.limits (by rw [hb.buffer])

end

omit [ByteBudget B] [FrameDecoder D R E] [InboundClassifier C R] [EventBatch Q] [TimerQueue W] in
lemma Excused.beside (h : Excused strict s) (hb : Beside strict s s') : Excused strict s' := by
  intro hstrict shutdown hrequest
  obtain ⟨shutdown', hrequest'⟩ := hb.reason hstrict shutdown hrequest
  obtain ⟨ev, hlast, hoverflows⟩ := h hstrict shutdown' hrequest'
  refine ⟨ev, ?_, hb.limits ▸ hoverflows⟩
  rw [hb.lastEvent]
  exact hlast

section
omit [ByteBudget B] [InboundClassifier C R] [EventBatch Q] [TimerQueue W]

/-- **What leaves the input alone keeps the invariant.** -/
lemma Inbound.beside (h : Inbound strict current s) (hb : Beside strict s s') :
    Inbound strict current s' where
  toMetered := h.toMetered.beside hb
  turned ha := (h.turned (hb.active ha)).congr hb.decoder hb.pending hb.limits
  excused := h.excused.beside hb

lemma Inbound.retarget {current' : IoPreference} (h : Inbound strict current s)
    (hread : current' = .read → s.Active → Roomy strict s) : Inbound strict current' s :=
  ⟨h.toMetered, fun ha => (h.turned ha).retarget fun hr => hread hr ha, h.excused⟩

end

omit [ByteBudget B] [FrameDecoder D R E] [InboundClassifier C R] [EventBatch Q] [TimerQueue W] in
/-- Without a close there is nothing to excuse. -/
lemma excused_of_none (h : s.closeRequest = none) : Excused strict s :=
  fun _ _ hrequest => by cases h.symm.trans hrequest

/-! ### A close that the slot asks for -/

/-- An input that closes a live epoch. -/
def Shuts (input : ConnectionInput) : Prop :=
  ∀ (e e' : Epoch OutboundFrame) (tr : ConnectionTransition Unit), e.epoch = input.epoch →
    e.phase = .live →
    Step e (.apply input) (.transition (.ok tr)) e' → ∃ reason, closings tr.effects = [reason]

lemma shuts_close (epoch : ConnectionEpoch) (reason : CloseReason) :
    Shuts (.closeRequested epoch reason) := by
  intro e e' tr hepoch hlive hstep
  cases hstep with
  | ignored ignores =>
    cases ignores with
    | stale other => exact absurd hepoch.symm other
    | input deaf => exact absurd hlive deaf
  | removed _ _ _ _ removes => cases removes
  | closed _ _ closes => exact ⟨_, closings_closing _ _ _⟩

lemma shuts_malformed (epoch : ConnectionEpoch) : Shuts (.replyMalformed epoch) := by
  intro e e' tr hepoch hlive hstep
  cases hstep with
  | ignored ignores =>
    cases ignores with
    | stale other => exact absurd hepoch.symm other
    | input deaf => exact absurd hlive deaf
  | removed _ _ _ _ removes => cases removes
  | closed _ _ closes => exact ⟨_, closings_closing _ _ _⟩

omit [Retained R] in
lemma shuts_closing (epoch : ConnectionEpoch) (error : FrameDecodeError E) :
    Shuts (closingInput epoch error) := by
  cases error with
  | decoderFailed => exact shuts_malformed epoch
  | decoder source => exact shuts_malformed epoch
  | _ => exact shuts_close epoch _

lemma closingInput_epoch (epoch : ConnectionEpoch) (error : FrameDecodeError E) :
    (closingInput epoch error).epoch = epoch := by
  cases error <;> rfl

omit [InboundClassifier C R] in
/-- **A close of its own epoch leaves no active slot.** -/
lemma closeWith_inactive {s : ConnectionSlot B D C R Q W} {input : ConnectionInput}
    (he : Owns permits s e) (hshuts : Shuts input) (hepoch : input.epoch = s.epoch)
    (hnone : s.closeRequest = none)
    (hok : ((do let tr ← applyCore input; interpretUnit tr : Run B D C R Q W Unit) s).1 = .ok ()) :
    ¬((do let tr ← applyCore input; interpretUnit tr : Run B D C R Q W Unit) s).2.Active := by
  rintro ⟨hrequest, hlive⟩
  obtain ⟨e', hholds, hstep, _⟩ := follows_step (R := Unit) he s.debug (.apply input)
  cases hm : ConnectionCore.apply s.debug input s.core with
  | mk result core =>
  rw [World.step, World.transition, hm] at hholds hstep
  cases result with
  | error source =>
    rw [Owner.bind_error (applyCore_error hm)] at hok
    cases hok
  | ok tr =>
    rw [Owner.bind_ok (applyCore_ok hm)] at hrequest hlive
    have hcore : (interpretUnit tr { s with core }).2.core = core := interpret_core ..
    rw [hcore, hholds.core.policy.phase] at hlive
    have hbefore : e.phase = .live := hstep.live_before he.wf hlive
    obtain ⟨reason, hone⟩ :=
      hshuts e e' tr (he.core.policy.epoch.symm.trans hepoch.symm) hbefore hstep
    obtain ⟨s₁, _, hclosed, _⟩ := interpret_close (s := { s with core }) unitOutcome hone hnone
    rw [interpretUnit, hclosed] at hrequest
    cases hrequest

/-! ### Decoding -/

lemma reply_reason {X : Type} {e : Epoch OutboundFrame} {reply : InboundReply X}
    {reason : CloseReason} {failure : Option (OperationId × OperationFailure)}
    {disposition : InputDisposition} (h : Closes e (.applyReply reply) reason failure disposition) :
    reason ≠ .inboundRetainedCapacity := by
  cases h <;> simp

/-- A delivered frame leaves the input alone, and closes for want of room only
when it is too large. -/
lemma spares_deliver (s : ConnectionSlot B D C R Q W) (frame : R) :
    Spares permits (strict ∧ Retained.retainedBytes frame ≤ s.limits.replyBytes) s
      (deliver frame s).2 := by
  rw [deliver, Owner.read_bind]
  split
  · next hlarge => exact keeps_closeFor permits _ (fun h => absurd h.2 (not_le.mpr hlarge)) s
  · rw [Owner.update_bind]
    cases hkey : InboundClassifier.replyKey s.classifier frame with
    | mk key classifier =>
    refine IsTrans.trans s { s with classifier } _
      (spares_of_frame rfl (.of_same rfl rfl rfl rfl rfl rfl rfl)) ?_
    cases key with
    | none => exact keeps_closeMalformed permits _ { s with classifier }
    | some key =>
      intro e he
      obtain ⟨e', hholds, hstep, _⟩ := follows_step he s.debug (.applyReply ⟨s.epoch, key, frame⟩)
      cases hm : ConnectionCore.applyReply s.debug ⟨s.epoch, key, frame⟩ s.core with
      | mk result core =>
      rw [World.step, World.transition, hm] at hholds hstep
      have happly : (applyReplyCore key frame : Run B D C R Q W _) { s with classifier } =
          (result.mapError .core, { s with core, classifier }) := by
        show onCore (ConnectionCore.applyReply s.debug ⟨s.epoch, key, frame⟩) _ = _
        simp only [onCore, hm]
      have hbeside : Beside (strict ∧ Retained.retainedBytes frame ≤ s.limits.replyBytes)
          { s with classifier } { s with core, classifier } :=
        beside_core he hholds hstep
      dsimp only
      cases result with
      | error source =>
        rw [Owner.bind_error happly]
        exact ⟨⟨e', hholds⟩, hbeside⟩
      | ok tr =>
        rw [Owner.bind_ok happly]
        have hint : Beside (strict ∧ Retained.retainedBytes frame ≤ s.limits.replyBytes)
          { s with core, classifier }
            (interpretReply tr { s with core, classifier }).2 := by
          exact beside_interpret (other_of_step hstep fun reason failure disposition hcloses _ =>
            reply_reason hcloses) _
        exact ⟨⟨e', owns_of_eq hint.limits (interpret_core ..) hholds⟩, hbeside.trans hint⟩

omit [FrameDecoder D R E] [InboundClassifier C R] in
lemma spares_closeDecodeError (s : ConnectionSlot B D C R Q W) (error : FrameDecodeError E) :
    Spares permits False s (closeDecodeError error s).2 := by
  rw [closeDecodeError_eq]
  refine spares_closeWith ?_
  cases error with
  | decoderFailed => exact spared_malformed _
  | decoder source => exact spared_malformed _
  | _ => exact spared_close fun h => h.elim

omit [InboundClassifier C R] in
variable (strict) in
/-- A close after a failure of the decoder, for want of room only when its last call left none. -/
lemma Metered.closeDecodeError (h : Metered s) (error : FrameDecodeError E) (he : Owns permits s e)
    (hnone : s.closeRequest = none)
    (hexcuse : closingInput s.epoch error ≠ .replyMalformed s.epoch →
      ∃ ev ∈ s.lastEvent, ev.Overflows s.limits) :
    Metered (closeDecodeError error s).2 ∧
      ((closeDecodeError error s).1 = .ok () →
        ∀ next, Inbound strict next (closeDecodeError error s).2) := by
  obtain ⟨_, hbeside⟩ := spares_closeDecodeError s error e he
  refine ⟨h.beside hbeside, fun hok next => ⟨h.beside hbeside, fun hactive => ?_, ?_⟩⟩
  · rw [closeDecodeError_eq] at hok hactive
    exact absurd hactive (closeWith_inactive he (shuts_closing _ error)
      (closingInput_epoch _ error) hnone hok)
  · by_cases hmalformed : closingInput s.epoch error = .replyMalformed s.epoch
    · rw [closeDecodeError_eq, hmalformed]
      obtain ⟨_, hstrict⟩ := keeps_closeMalformed permits strict s e he
      exact (excused_of_none hnone).beside hstrict
    · intro _ _ _
      obtain ⟨ev, hlast, hoverflows⟩ := hexcuse hmalformed
      refine ⟨ev, ?_, hbeside.limits ▸ hoverflows⟩
      rw [hbeside.lastEvent]
      exact hlast

omit [ByteBudget B] [InboundClassifier C R] [EventBatch Q] [TimerQueue W] [Retained R] in
/-- The slot after a call of its decoder. -/
lemma Metered.driven {d : FrameDriver (Recorded D R E)} {ev : DecoderEvent R E} (h : Metered s)
    (hd : Driven s.limits.decoderBytes s.decoder d ev) (hwhole : s.decoder.failed = false)
    (hfits : ev.Fits s.limits.decoderBytes)
    (halternate : ∀ last ∈ s.lastEvent, last.feeds = true → ev.feeds = false)
    (hdecoder : s'.decoder = d) (hlimits : s'.limits = s.limits)
    (hbuffer : s'.readBuffer = s.readBuffer) : Metered s' ∧ s'.lastEvent = some ev := by
  refine ⟨⟨?_, by rw [hbuffer]; exact h.buffer⟩, ?_⟩
  · rw [hdecoder, hlimits]
    exact h.charted.driven hd hwhole hfits halternate
  · unfold ConnectionSlot.lastEvent
    rw [hdecoder, hd.events, List.getLast?_concat]

/-- A driver that has failed answers that it has, and the slot closes once more. -/
lemma Inbound.decodeFailed (h : Inbound strict current s) (he : Owns permits s e)
    (hnone : s.closeRequest = none) (hfailed : s.decoder.failed = true) :
    Metered (driveDecoderOnce s).2 ∧ ∀ next, Inbound strict next (driveDecoderOnce s).2 := by
  have hnext : s.decoder.nextFrame = (.error .decoderFailed, s.decoder) := by
    unfold FrameDriver.nextFrame
    rw [if_pos hfailed]
  have hrun : driveDecoderOnce s = closeMalformed { s with decoderPending := false } := by
    rw [driveDecoderOnce, Owner.update_bind, hnext]
    rfl
  obtain ⟨_, hbeside⟩ := keeps_closeMalformed permits strict { s with decoderPending := false } e he
  rw [hrun]
  have hsame : Metered { s with decoderPending := false } := h.toMetered.congr rfl rfl rfl
  have hexcused : Excused strict { s with decoderPending := false } := excused_of_none hnone
  have hmetered := hsame.beside hbeside
  refine ⟨hmetered, fun next => ⟨hmetered, fun hactive => ?_, hexcused.beside hbeside⟩⟩
  have hwhole := (h.turned (hbeside.active hactive)).whole
  rw [hfailed] at hwhole
  cases hwhole

/-- **One step of the decoder keeps the invariant**, and the rotation may come to a read. -/
lemma Inbound.decodeOnce (h : Inbound strict current s) (hdrains : strict → Drains D)
    (he : Owns permits s e) (hnone : s.closeRequest = none) :
    Metered (driveDecoderOnce s).2 ∧
      ((driveDecoderOnce s).1 = .ok () → ∀ next, Inbound strict next (driveDecoderOnce s).2) := by
  cases hfailed : s.decoder.failed with
  | true =>
    obtain ⟨hmetered, hinbound⟩ := h.decodeFailed he hnone hfailed
    exact ⟨hmetered, fun _ => hinbound⟩
  | false =>
  obtain ⟨hdriven, hanswers, hframe⟩ := next_driven h.charted hfailed
  rcases hnext : s.decoder.nextFrame with ⟨result, d⟩
  rw [hnext] at hdriven hanswers hframe
  have hcalled (s₁ : ConnectionSlot B (Recorded D R E) C R Q W) (hdecoder : s₁.decoder = d)
    (hlimits : s₁.limits = s.limits)
      (hbuffer : s₁.readBuffer = s.readBuffer) : Metered s₁ ∧
          s₁.lastEvent = some s.decoder.decoder.asking :=
    h.toMetered.driven hdriven hfailed trivial (fun _ _ _ => rfl) hdecoder hlimits hbuffer
  -- after an answer the decoder was asked last
  have hroomy {s₁ : ConnectionSlot B (Recorded D R E) C R Q W} (hdecoder : s₁.decoder = d)
    (hlimits : s₁.limits = s.limits)
      (hbuffer : s₁.readBuffer = s.readBuffer)
          (hroom : strict → d.retainedBytes < s.limits.decoderBytes) : Roomy strict s₁ := by
    refine ⟨fun ev hev => ?_, fun hstrict => ?_⟩
    · rw [(hcalled s₁ hdecoder hlimits hbuffer).2] at hev
      cases hev
      rfl
    · rw [hdecoder, hlimits]
      exact hroom hstrict
  rw [driveDecoderOnce, Owner.update_bind, hnext]
  cases result with
  | error error =>
    obtain ⟨hmetered, hlast⟩ := hcalled { s with decoder := d, decoderPending := false } rfl rfl rfl
    refine hmetered.closeDecodeError strict error he hnone fun hcapacity => ⟨_, hlast, ?_⟩
    cases hanswers with
    | erred source => exact absurd rfl hcapacity
    | overgrown retained bound unerred grown =>
      unfold Recorded.asking at unerred grown ⊢
      cases hresult : (FrameDecoder.nextFrame s.decoder.decoder.inner).1 with
      | error error =>
        rw [hresult] at unerred
        cases unerred
      | ok frame =>
        cases frame with
        | none => exact le_of_lt grown
        | some frame => exact .inl grown
  | ok frame =>
  have hasked := hframe frame rfl
  have hwhole : d.failed = false := by cases hanswers with | whole _ whole => exact whole
  cases frame with
  | some frame =>
    dsimp only
    obtain ⟨hmetered, hlast⟩ := hcalled { s with decoder := d } rfl rfl rfl
    have hspares : Spares permits (strict ∧ Retained.retainedBytes frame ≤ s.limits.replyBytes)
        { s with decoder := d } _ :=
      spares_deliver { s with decoder := d } frame
    obtain ⟨_, hbeside⟩ := hspares e he
    have hlater := Metered.beside hmetered hbeside
    refine ⟨hlater, fun _ next => ⟨hlater, fun hactive => ?_, fun hstrict shutdown hrequest => ?_⟩⟩
    · have hturned := h.turned (hbeside.active hactive)
      have hroom : Roomy strict { s with decoder := d } := hroomy rfl rfl rfl fun hstrict =>
        ((hdrains hstrict _ _ hasked).trans_le' (le_of_eq hdriven.after.symm)).trans_le
          (h.charted.within hfailed)
      exact Turned.congr (s := { s with decoder := d }) ⟨hwhole, fun _ => hroom, fun _ => hroom⟩
        hbeside.decoder hbeside.pending
        hbeside.limits
    · by_cases hsmall : Retained.retainedBytes frame ≤ s.limits.replyBytes
      · obtain ⟨_, hsome⟩ := hbeside.reason ⟨hstrict, hsmall⟩ shutdown hrequest
        cases hnone.symm.trans hsome
      · refine ⟨s.decoder.decoder.asking, ?_, ?_⟩
        · rw [hbeside.lastEvent]
          exact hlast
        · unfold Recorded.asking
          rw [hasked, hbeside.limits]
          exact .inr (not_le.mp hsmall)
  | none =>
    dsimp only
    rw [Owner.change_bind, Owner.read_bind]
    obtain ⟨hmetered, hlast⟩ := hcalled { s with decoder := d, decoderPending := false } rfl rfl rfl
    split
    · next hfull =>
      have hkeeps : KeepsInput permits False
          (closeFor .inboundRetainedCapacity : Run B (Recorded D R E) C R Q W Unit) :=
        keeps_closeFor permits False fun h => h.elim
      obtain ⟨_, hbeside⟩ := hkeeps { s with decoder := d, decoderPending := false } e he
      have hlater := Metered.beside hmetered hbeside
      refine ⟨hlater, fun hok next =>
        ⟨hlater, fun hactive => ?_, fun _ _ _ => ⟨s.decoder.decoder.asking, ?_, ?_⟩⟩⟩
      · exact absurd hactive (closeWith_inactive
          (s := { s with decoder := d, decoderPending := false }) he
          (shuts_close _ .inboundRetainedCapacity) rfl hnone hok)
      · rw [hbeside.lastEvent]
        exact hlast
      · unfold Recorded.asking
        rw [hasked, hbeside.limits]
        exact hfull.trans (le_of_eq hdriven.after.symm)
    · next hfits =>
      have hroom : Roomy strict { s with decoder := d, decoderPending := false } :=
        hroomy rfl rfl rfl fun _ => not_le.mp hfits
      exact ⟨hmetered, fun _ next =>
        ⟨hmetered, fun _ => ⟨hwhole, fun _ => hroom, fun _ => hroom⟩, excused_of_none hnone⟩⟩

/-! ### Reading -/

variable (permits) in
/-- The core is that of an epoch. -/
def Owned (s : ConnectionSlot B D C R Q W) : Prop := ∃ e, Owns permits s e

omit [ByteBudget B] [InboundClassifier C R] [EventBatch Q] [TimerQueue W] in
lemma Inbound.congr (h : Inbound strict current s) (hcore : s'.core = s.core)
    (hrequest : s'.closeRequest = s.closeRequest) (hdecoder : s'.decoder = s.decoder)
    (hpending : s'.decoderPending = s.decoderPending) (hlimits : s'.limits = s.limits)
    (hbuffer : s'.readBuffer.length = s.readBuffer.length) : Inbound strict current s' where
  toMetered := h.toMetered.congr hdecoder hlimits hbuffer
  turned ha := (h.turned ⟨hrequest ▸ ha.1, hcore ▸ ha.2⟩).congr hdecoder hpending hlimits
  excused hstrict shutdown hr := by
    have hlast : s'.lastEvent = s.lastEvent := by
      unfold ConnectionSlot.lastEvent
      rw [hdecoder]
    obtain ⟨ev, hev, hoverflows⟩ := h.excused hstrict shutdown (hrequest ▸ hr)
    exact ⟨ev, hlast ▸ hev, hlimits ▸ hoverflows⟩

section
omit [InboundClassifier C R]

/-- A close for a reason of its own keeps the invariant. -/
lemma Inbound.lost {reason : CloseReason} (h : Inbound strict current s) (he : Owned permits s)
    (hreason : Other strict reason) :
    Inbound strict current (closeFor reason s).2 := by
  obtain ⟨e, he⟩ := he
  exact h.beside (keeps_closeFor permits strict hreason s e he).2

/-- **A feed keeps the invariant**: the read before it was within the room of the decoder. -/
lemma Inbound.feedDecoder (h : Inbound strict .read s) (he : Owns permits s e) (hactive : s.Active)
    {read : ℕ} (hread : 0 < read) (hroom : read ≤ s.readLength) :
    Metered (feedDecoder read s).2 ∧
      ((feedDecoder read s).1 = .ok () → Inbound strict .write (feedDecoder read s).2) := by
  have hturned := h.turned hactive
  have hlength : (s.readBuffer.take read).length = read := by
    have hle : s.readLength ≤ s.readBuffer.length := min_le_right _ _
    rw [List.length_take]
    omega
  have hfits : s.decoder.retainedBytes + (s.readBuffer.take read).length ≤
      s.limits.decoderBytes := by
    have hle : s.readLength ≤ s.limits.decoderBytes - s.decoder.retainedBytes := min_le_left _ _
    have hwithin := h.charted.within hturned.whole
    omega
  obtain ⟨hdriven, hanswers⟩ := feed_driven h.charted hturned.whole s.limits.decoder_le hfits
  have halternate : ∀ last ∈ s.lastEvent, last.feeds = true →
      (s.decoder.decoder.feeding (s.readBuffer.take read)).feeds = false := by
    intro last hlast hfeeds
    rw [(hturned.reading rfl).asked last hlast] at hfeeds
    cases hfeeds
  rcases hfeed : s.decoder.feed (s.readBuffer.take read) with ⟨result, d⟩
  rw [hfeed] at hdriven hanswers
  have hcalled (s₁ : ConnectionSlot B (Recorded D R E) C R Q W) (hdecoder : s₁.decoder = d)
    (hlimits : s₁.limits = s.limits)
      (hbuffer : s₁.readBuffer = s.readBuffer) : Metered s₁ ∧
          s₁.lastEvent = some (s.decoder.decoder.feeding (s.readBuffer.take read)) :=
    h.toMetered.driven hdriven hturned.whole ⟨by rw [hlength]; exact hread, hfits⟩ halternate
      hdecoder hlimits hbuffer
  rw [ConnectionSlot.feedDecoder, Owner.update_bind, hfeed]
  cases result with
  | error error =>
    obtain ⟨hmetered, hlast⟩ := hcalled { s with decoder := d } rfl rfl rfl
    obtain ⟨hlater, hclosed⟩ :=
      hmetered.closeDecodeError strict error he hactive.1 fun hcapacity => by
      refine ⟨s.decoder.decoder.feeding (s.readBuffer.take read), hlast, ?_⟩
      cases hanswers with
      | erred source => exact absurd rfl hcapacity
      | overgrown retained bound unerred grown => exact grown
    exact ⟨hlater, fun hok => hclosed hok .write⟩
  | ok answer =>
    cases answer
    have hmetered : Metered { s with decoder := d, decoderPending := true } :=
      (hcalled { s with decoder := d, decoderPending := true } rfl rfl rfl).1
    have hwhole : d.failed = false := by cases hanswers with | whole _ whole => exact whole
    exact ⟨hmetered, fun _ =>
      ⟨hmetered, fun _ => ⟨hwhole, fun hdry => (by cases hdry), fun hread => (by cases hread)⟩,
      excused_of_none hactive.1⟩⟩

end

/-- Where the rotation reads. -/
structure Reading (permits : List OperationPermit) (strict : Prop)
    (s : ConnectionSlot B (Recorded D R E) C R Q W) : Prop where
  inbound : Inbound strict .read s
  active : s.Active
  owned : Owned permits s

section
omit [InboundClassifier C R] [EventBatch Q] [TimerQueue W]

/-- The room of a strict read is never zero. -/
lemma Reading.zero (h : Reading permits strict s) (hzero : s.readLength = 0) : ¬strict := by
  intro hstrict
  have hroom := ((h.inbound.turned h.active).reading rfl).room hstrict
  have hbuffer := h.inbound.buffer
  unfold readLength at hzero
  omega

lemma Reading.refilled (h : Reading permits strict s) (t : T) :
    Reading permits strict (refilled s t) where
  inbound := h.inbound.congr rfl rfl rfl rfl rfl (refilled_length s t)
  active := h.active
  owned := h.owned

end

omit [ByteBudget B] [InboundClassifier C R] [EventBatch Q] [TimerQueue W] in
lemma Inbound.written (h : Inbound strict .read s) : Inbound strict .write s :=
  h.retarget fun hread => by cases hread

section
omit [SlotTransport T] [InboundClassifier C R]

variable (permits strict) in
/-- A close within a read. -/
lemma triple_readLost {reason : CloseReason} (h : reason ≠ .inboundRetainedCapacity) :
    Owner.Triple (fun x : ConnectionSlot B (Recorded D R E) C R Q W × T =>
      Reading permits strict x.1)
      (Owner.onFst (closeFor reason)) (fun _ x => Inbound strict .write x.1)
        (fun _ x => Metered x.1) := by
  refine (keeps_lost permits strict h).onFst.triple (fun x y hx hspares => ?_)
    fun x y hx hspares => ?_
  · obtain ⟨e, he⟩ := hx.owned
    exact hx.inbound.written.beside (hspares e he).2
  · obtain ⟨e, he⟩ := hx.owned
    exact hx.inbound.toMetered.beside (hspares e he).2

lemma triple_feedDecoder {read : ℕ} (hread : 0 < read) :
    Owner.Triple (fun x : ConnectionSlot B (Recorded D R E) C R Q W × T =>
      Reading permits strict x.1 ∧ read ≤ x.1.readLength)
      (Owner.onFst (feedDecoder read)) (fun _ x => Inbound strict .write x.1)
        (fun _ x => Metered x.1) := by
  rintro ⟨s, t⟩ ⟨h, hroom⟩
  obtain ⟨e, he⟩ := h.owned
  have hfed := h.inbound.feedDecoder he h.active hread hroom
  rw [Owner.onFst_run]
  dsimp only at hroom ⊢
  rcases hrun : feedDecoder read s with ⟨error | ⟨⟩, s'⟩ <;> rw [hrun] at hfed
  · exact hfed.1
  · exact hfed.2 rfl

end

omit [InboundClassifier C R] in
variable (permits) in
/-- **A read keeps the invariant.** Its branch without room is one that a
strict read does not take. -/
theorem triple_driveReadOnce :
    Owner.Triple (fun x : ConnectionSlot B (Recorded D R E) C R Q W × T =>
      Reading permits strict x.1) driveReadOnce
      (fun _ x => Inbound strict .write x.1) (fun _ x => Metered x.1) := by
  refine .bind (.ask _) fun readable => .ite (fun _ => ?_) fun _ => ?_
  · refine .reads fun x hx => .ite (fun hzero => ?_) fun _ => ?_
    · refine .bind (R := fun _ x => Inbound strict .write x.1) ?_ fun _ => .pure fun _ h => h
      refine (keeps_closeFor permits False fun h => h.elim).onFst.triple (fun y z hy hspares => ?_)
        fun y z hy hspares => ?_
      · cases hy
        obtain ⟨e, he⟩ := hx.owned
        obtain ⟨_, hbeside⟩ := hspares e he
        exact ⟨hx.inbound.toMetered.beside hbeside, fun ha =>
          (hx.inbound.written.turned (hbeside.active ha)).congr hbeside.decoder
          hbeside.pending hbeside.limits, fun hstrict => absurd hstrict (hx.zero hzero)⟩
      · cases hy
        obtain ⟨e, he⟩ := hx.owned
        exact hx.inbound.toMetered.beside (hspares e he).2
    · refine .bind (R := fun _ y => Reading permits strict y.1 ∧ y.1.readLength = x.1.readLength) ?_
        fun result => ?_
      · rintro y rfl
        exact ⟨hx.refilled y.2, refilled_readLength y.1 y.2⟩
      · split
        · exact .bind ((triple_readLost permits strict (by decide)).weaken (fun _ h => h.1)
              (fun _ _ h => h) fun _ _ h => h) fun _ =>
            .pure fun _ h => h
        · next read hread =>
          refine .ite (fun _ =>
            .bind (R := fun _ x => Inbound strict .write x.1)
                (.fail fun _ h => h.1.inbound.toMetered) fun _ =>
            .pure fun _ h => h) fun hsmall => ?_
          refine .bind ((triple_feedDecoder (Nat.pos_of_ne_zero fun hzero => ?_)).weaken
            (fun y h => ⟨h.1, ?_⟩) (fun _ _ h => h)
            fun _ _ h => h) fun _ => .pure fun _ h => h
          · exact hread (by rw [hzero])
          · rw [h.2]
            exact not_lt.mp hsmall
        · next source =>
          refine .ite (fun _ =>
            .bind ((Owner.Triple.ask _).weaken (fun _ h => h.1) (fun _ _ h => h)
                fun _ _ h => h) fun _ =>
            .pure fun _ h => h.inbound.written) fun _ => ?_
          refine .bind (R := fun _ y => Reading permits strict y.1) ?_ fun _ =>
            .bind (triple_readLost permits strict (by decide)) fun _ =>
            .pure fun _ h => h
          exact fun y hy => ⟨hy.1.inbound.congr rfl rfl rfl rfl rfl rfl, hy.1.active, hy.1.owned⟩
  · exact .pure fun _ h => h.inbound.written

end Bornera.Slot
