import Bornera.Slot.Basic
import Bornera.Lib.Owner

/-!
# What a slot is plugged into

The adapters of a slot (`FrameDecoder`, `InboundClassifier`, `SlotTransport`) are arbitrary: a
method returns an answer and the adapter it leaves behind. The methods of a transport that only
look may change their answer from one call to the next, so they too leave a transport behind.

The queues of the runtime are interfaces with what their documentation promises. `FrameDriver`
(`framing/driver.rs`) is the bounded driver around a decoder.
-/

namespace Bornera.Slot

open Bornera.Core Lib

/-! ### Adapters -/

/-- Incremental decoding of inbound frames of type `R`. The memory a decoder reports is taken to be
a function of the decoder: it does not change between two of its calls. -/
class FrameDecoder (D : Type) (R E : outParam Type) where
  feed : D → List UInt8 → Except E Unit × D
  nextFrame : D → Except E (Option R) × D
  retainedBytes : D → ℕ

/-- Correlation of a complete frame; a frame that is no reply has no key. -/
class InboundClassifier (C : Type) (R : outParam Type) where
  replyKey : C → R → Option MatchKey × C

/-- Readiness interest of a transport. -/
structure Interest where
  read : Bool
  write : Bool
  deriving DecidableEq, Repr

def Interest.readWrite : Interest := ⟨true, true⟩

/-- A set of readiness observations. -/
structure Readiness where
  readable : Bool
  writable : Bool
  readClosed : Bool
  writeClosed : Bool
  error : Bool
  deriving DecidableEq, Repr

/-- A nonblocking byte transport. `read` fills a slice of the length it is given; a progression
that fails is known by its diagnostic. -/
class SlotTransport (T : Type) where
  read : T → {n : ℕ} → List.Vector UInt8 n → (Except IoError ℕ × List.Vector UInt8 n) × T
  write : T → List UInt8 → Except IoError ℕ × T
  driveEstablishment : T → TcpSocketPolicy → TransportBudget →
    Except TransportDiagnostic TransportProgress × T
  driveTransport : T → TransportBudget → Except TransportDiagnostic TransportProgress × T
  beginShutdown : T → TransportBudget → Except TransportDiagnostic TransportProgress × T
  canEstablish : T → Bool × T
  hasTransportWork : T → Bool × T
  isShutdownComplete : T → Bool × T
  isOpen : T → Bool × T
  canRead : T → Bool × T
  canWrite : T → Bool × T
  desiredInterest : T → Bool → Interest × T
  pressure : T → TransportPressure × T
  pressureLimit : T → ℕ × T
  clearRead : T → T
  clearWrite : T → T

/-- A transport whose looks change nothing. -/
class SteadyTransport (T : Type) [SlotTransport T] : Prop where
  canEstablish_same : ∀ t : T, (SlotTransport.canEstablish t).2 = t
  hasTransportWork_same : ∀ t : T, (SlotTransport.hasTransportWork t).2 = t
  isShutdownComplete_same : ∀ t : T, (SlotTransport.isShutdownComplete t).2 = t
  isOpen_same : ∀ t : T, (SlotTransport.isOpen t).2 = t
  canRead_same : ∀ t : T, (SlotTransport.canRead t).2 = t
  canWrite_same : ∀ t : T, (SlotTransport.canWrite t).2 = t
  desiredInterest_same : ∀ (t : T) (hasWrites : Bool),
    (SlotTransport.desiredInterest t hasWrites).2 = t
  pressure_same : ∀ t : T, (SlotTransport.pressure t).2 = t
  pressureLimit_same : ∀ t : T, (SlotTransport.pressureLimit t).2 = t

/-! ### Queues of the runtime -/

/-- The memory retained by a list of values. -/
def retainedSum {α : Type} [Retained α] (xs : List α) : ℕ := (xs.map Retained.retainedBytes).sum

/-- A bounded queue of events that hands back what it rejects. `contents` and `limits` say what it
holds; a push succeeds exactly within the limits. -/
class EventBatch (Q : Type → Type) where
  new : {α : Type} → EventBatchLimits → Q α
  len : {α : Type} → Q α → ℕ
  tryPush : {α : Type} → [Retained α] → Q α → α → Except α Unit × Q α
  drain : {α : Type} → Q α → List α × Q α
  contents : {α : Type} → Q α → List α
  limits : {α : Type} → Q α → EventBatchLimits
  contents_new : ∀ {α : Type} (l : EventBatchLimits), contents (new l : Q α) = []
  limits_new : ∀ {α : Type} (l : EventBatchLimits), limits (new l : Q α) = l
  len_eq : ∀ {α : Type} (q : Q α), len q = (contents q).length
  push_fits : ∀ {α : Type} [Retained α] (q : Q α) (a : α),
    (contents q).length < (limits q).maxEvents →
    retainedSum (contents q) + Retained.retainedBytes a ≤ (limits q).maxRetainedBytes →
    (tryPush q a).1 = .ok () ∧ contents (tryPush q a).2 = contents q ++ [a] ∧
      limits (tryPush q a).2 = limits q
  push_full : ∀ {α : Type} [Retained α] (q : Q α) (a : α),
    ¬((contents q).length < (limits q).maxEvents ∧
    retainedSum (contents q) + Retained.retainedBytes a ≤ (limits q).maxRetainedBytes) →
    (tryPush q a).1 = .error a ∧ contents (tryPush q a).2 = contents q ∧
      limits (tryPush q a).2 = limits q
  drain_eq : ∀ {α : Type} (q : Q α), (drain q).1 = contents q ∧ contents (drain q).2 = [] ∧
    limits (drain q).2 = limits q

/-- A batch as a list with its limits. -/
structure ListBatch (α : Type) where
  bound : EventBatchLimits
  events : List α

/-- The event fits into the batch. -/
def ListBatch.fits {α : Type} [Retained α] (q : ListBatch α) (a : α) : Bool :=
  q.events.length < q.bound.maxEvents ∧
    retainedSum q.events + Retained.retainedBytes a ≤ q.bound.maxRetainedBytes

instance : EventBatch ListBatch where
  new l := ⟨l, []⟩
  len q := q.events.length
  tryPush q a := if q.fits a then (.ok (), ⟨q.bound, q.events ++ [a]⟩) else (.error a, q)
  drain q := (q.events, ⟨q.bound, []⟩)
  contents q := q.events
  limits q := q.bound
  contents_new _ := rfl
  limits_new _ := rfl
  len_eq _ := rfl
  push_fits q a h₁ h₂ := by
    have hfit : q.fits a = true := decide_eq_true ⟨h₁, h₂⟩
    rw [if_pos hfit]
    exact ⟨rfl, rfl, rfl⟩
  push_full q a h := by
    have hfit : ¬q.fits a = true := fun hf => h (of_decide_eq_true hf)
    rw [if_neg hfit]
    exact ⟨rfl, rfl, rfl⟩
  drain_eq _ := ⟨rfl, rfl, rfl⟩

/-- The name of a scheduled timer. -/
structure TimerToken where
  get : ℕ
  deriving DecidableEq, Repr

/-- A queue of timers that carry values. -/
class TimerQueue (W : Type → Type) where
  new : {α : Type} → ℕ → TimerLimits → W α
  len : {α : Type} → W α → ℕ
  schedule : {α : Type} → [Retained α] → W α → Deadline → α → Option TimerToken × W α
  cancel : {α : Type} → W α → TimerToken → Option α × W α
  nextDeadline : {α : Type} → W α → Option Deadline
  popDue : {α : Type} → W α → ℕ → Option (TimerToken × α) × W α

/-- An armed timer. -/
structure Timer (α : Type) where
  token : TimerToken
  deadline : Deadline
  value : α
  deriving DecidableEq

/-- A bounded queue of timers: a timer is scheduled exactly within the limits, under a token of its
own, a cancel removes exactly the timer it names, and the earliest elapsed timer is taken first. -/
class BoundedTimers (W : Type → Type) extends TimerQueue W where
  armed : {α : Type} → W α → List (Timer α)
  limits : {α : Type} → W α → TimerLimits
  armed_new : ∀ {α : Type} (owner : ℕ) (l : TimerLimits), armed (new owner l : W α) = []
  limits_new : ∀ {α : Type} (owner : ℕ) (l : TimerLimits), limits (new owner l : W α) = l
  len_eq : ∀ {α : Type} (q : W α), len q = (armed q).length
  distinct : ∀ {α : Type} (q : W α), ((armed q).map Timer.token).Nodup
  schedule_fits : ∀ {α : Type} [Retained α] (q : W α) (d : Deadline) (a : α),
    (armed q).length < (limits q).maxTimers →
    retainedSum ((armed q).map Timer.value) + Retained.retainedBytes a ≤
      (limits q).maxRetainedBytes →
    ∃ token, (schedule q d a).1 = some token ∧
      armed (schedule q d a).2 = armed q ++ [⟨token, d, a⟩] ∧
      limits (schedule q d a).2 = limits q
  schedule_full : ∀ {α : Type} [Retained α] (q : W α) (d : Deadline) (a : α),
    ¬((armed q).length < (limits q).maxTimers ∧
      retainedSum ((armed q).map Timer.value) + Retained.retainedBytes a ≤
        (limits q).maxRetainedBytes) →
    (schedule q d a).1 = none ∧ armed (schedule q d a).2 = armed q ∧
      limits (schedule q d a).2 = limits q
  cancel_eq : ∀ {α : Type} (q : W α) (token : TimerToken),
    armed (cancel q token).2 = (armed q).filter (·.token ≠ token) ∧
      limits (cancel q token).2 = limits q
  nextDeadline_eq : ∀ {α : Type} (q : W α),
    (nextDeadline q = none ↔ armed q = []) ∧
    ∀ d ∈ nextDeadline q, (∃ timer ∈ armed q, timer.deadline = d) ∧
      ∀ timer ∈ armed q, d.moment ≤ timer.deadline.moment
  popDue_none : ∀ {α : Type} (q : W α) (now : ℕ),
    (∀ timer ∈ armed q, timer.deadline.isElapsedAt now = false) →
    (popDue q now).1 = none ∧ armed (popDue q now).2 = armed q ∧ limits (popDue q now).2 = limits q
  popDue_some : ∀ {α : Type} (q : W α) (now : ℕ),
    (∃ timer ∈ armed q, timer.deadline.isElapsedAt now = true) →
    ∃ timer ∈ armed q, timer.deadline.isElapsedAt now = true ∧
      (∀ other ∈ armed q, timer.deadline.moment ≤ other.deadline.moment) ∧
      (popDue q now).1 = some (timer.token, timer.value) ∧
      armed (popDue q now).2 = (armed q).filter (·.token ≠ timer.token) ∧
        limits (popDue q now).2 = limits q

/-- A queue of timers as a list in the order of scheduling. Tokens are counted up. -/
structure ListTimers (α : Type) where
  bound : TimerLimits
  next : ℕ
  timers : List (Timer α)
  distinct : (timers.map Timer.token).Nodup
  fresh : ∀ timer ∈ timers, timer.token.get < next

namespace ListTimers

variable {α : Type}

/-- The timer fits into the queue. -/
def fits [Retained α] (q : ListTimers α) (a : α) : Bool :=
  q.timers.length < q.bound.maxTimers ∧
    retainedSum (q.timers.map Timer.value) + Retained.retainedBytes a ≤ q.bound.maxRetainedBytes

def insert (q : ListTimers α) (deadline : Deadline) (value : α) : ListTimers α where
  bound := q.bound
  next := q.next + 1
  timers := q.timers ++ [⟨⟨q.next⟩, deadline, value⟩]
  distinct := by
    have hfresh : ∀ timer ∈ q.timers, timer.token ≠ ⟨q.next⟩ := fun timer hmem heq => by
      have hlt := q.fresh timer hmem
      rw [heq] at hlt
      exact lt_irrefl _ hlt
    simpa [List.nodup_append, q.distinct] using hfresh
  fresh timer hmem := by
    rcases List.mem_append.mp hmem with hmem | hmem
    · exact Nat.lt_succ_of_lt (q.fresh timer hmem)
    · rw [List.mem_singleton.mp hmem]
      exact Nat.lt_succ_self _

def remove (q : ListTimers α) (token : TimerToken) : ListTimers α where
  bound := q.bound
  next := q.next
  timers := q.timers.filter (·.token ≠ token)
  distinct := q.distinct.sublist (List.filter_sublist.map _)
  fresh timer hmem := q.fresh timer (List.mem_of_mem_filter hmem)

/-- The earliest timer, the first of those with one deadline. -/
def earliest (q : ListTimers α) : Option (Timer α) :=
  q.timers.argmin fun timer => timer.deadline.moment

def popDue (q : ListTimers α) (now : ℕ) : Option (TimerToken × α) × ListTimers α :=
  match q.earliest with
  | none => (none, q)
  | some timer =>
    if timer.deadline.isElapsedAt now then
      (some (timer.token, timer.value), q.remove timer.token) else (none, q)

lemma earliest_some {q : ListTimers α} {timer : Timer α} (h : q.earliest = some timer) :
    timer ∈ q.timers ∧ ∀ other ∈ q.timers, timer.deadline.moment ≤ other.deadline.moment :=
  ⟨List.argmin_mem h,
    fun other hmem =>
      List.le_of_mem_argmin (f := fun timer : Timer α => timer.deadline.moment) (a := other) hmem h⟩

lemma earliest_none {q : ListTimers α} (h : q.earliest = none) : q.timers = [] :=
  List.argmin_eq_none.mp h

end ListTimers

instance : BoundedTimers ListTimers where
  new _ l := ⟨l, 0, [], List.nodup_nil, fun _ h => by cases h⟩
  len q := q.timers.length
  schedule q d a := if q.fits a then (some ⟨q.next⟩, q.insert d a) else (none, q)
  cancel q token := ((q.timers.find? (·.token = token)).map Timer.value, q.remove token)
  nextDeadline q := q.earliest.map Timer.deadline
  popDue := ListTimers.popDue
  armed q := q.timers
  limits q := q.bound
  armed_new _ _ := rfl
  limits_new _ _ := rfl
  len_eq _ := rfl
  distinct q := q.distinct
  schedule_fits q d a hcount hbytes := by
    have hfit : q.fits a = true := decide_eq_true ⟨hcount, hbytes⟩
    rw [if_pos hfit]
    exact ⟨⟨q.next⟩, rfl, rfl, rfl⟩
  schedule_full q d a h := by
    have hfit : ¬q.fits a = true := fun hf => h (of_decide_eq_true hf)
    rw [if_neg hfit]
    exact ⟨rfl, rfl, rfl⟩
  cancel_eq _ _ := ⟨rfl, rfl⟩
  nextDeadline_eq q := by
    refine ⟨by simp [ListTimers.earliest], fun d hd => ?_⟩
    obtain ⟨timer, htimer, rfl⟩ := Option.mem_map.mp hd
    obtain ⟨hmem, hmin⟩ := ListTimers.earliest_some htimer
    exact ⟨⟨timer, hmem, rfl⟩, hmin⟩
  popDue_none q now h := by
    unfold ListTimers.popDue
    cases hfirst : q.earliest with
    | none => exact ⟨rfl, rfl, rfl⟩
    | some timer =>
      have hearly := h timer (ListTimers.earliest_some hfirst).1
      simp [hearly]
  popDue_some q now h := by
    obtain ⟨due, hdue, helapsed⟩ := h
    unfold ListTimers.popDue
    cases hfirst : q.earliest with
    | none =>
      rw [ListTimers.earliest_none hfirst] at hdue
      cases hdue
    | some timer =>
      obtain ⟨hmem, hmin⟩ := ListTimers.earliest_some hfirst
      have hnow : timer.deadline.isElapsedAt now = true :=
        decide_eq_true ((hmin due hdue).trans (of_decide_eq_true helapsed))
      refine ⟨timer, hmem, hnow, hmin, ?_⟩
      simp [hnow, ListTimers.remove]

/-! ### The decoder's driver -/

inductive FrameDecodeError (E : Type) where
  | decoderFailed
  | retainedByteCapacity (retained incoming limit : ℕ)
  | inputSizeOverflow
  | decoder (source : E)
  | retainedContractViolation (retained limit : ℕ)

/-- A decoder within a bound on its memory, which stops at its first failure. -/
structure FrameDriver (D : Type) where
  decoder : D
  maxRetainedBytes : ℕ
  failed : Bool

namespace FrameDriver

variable {D R E : Type} [FrameDecoder D R E]

def retainedBytes (f : FrameDriver D) : ℕ := FrameDecoder.retainedBytes f.decoder

def new (decoder : D) (maxRetainedBytes : ℕ) : Except (FrameDecodeError E) (FrameDriver D) :=
  let retained := FrameDecoder.retainedBytes decoder
  if retained > maxRetainedBytes then .error (.retainedContractViolation retained maxRetainedBytes)
  else .ok ⟨decoder, maxRetainedBytes, false⟩

def validateRetained (f : FrameDriver D) : Except (FrameDecodeError E) Unit × FrameDriver D :=
  if f.retainedBytes > f.maxRetainedBytes then
    (.error (.retainedContractViolation f.retainedBytes f.maxRetainedBytes),
      { f with failed := true })
  else (.ok (), f)

def feed (f : FrameDriver D) (bytes : List UInt8) :
    Except (FrameDecodeError E) Unit × FrameDriver D :=
  if f.failed then (.error .decoderFailed, f)
  else if u64Max < bytes.length then (.error .inputSizeOverflow, f)
  else
    match checkedAdd f.retainedBytes bytes.length with
    | none => (.error (.retainedByteCapacity f.retainedBytes bytes.length f.maxRetainedBytes), f)
    | some accepted =>
      if accepted > f.maxRetainedBytes then
        (.error (.retainedByteCapacity f.retainedBytes bytes.length f.maxRetainedBytes), f)
      else
        match FrameDecoder.feed f.decoder bytes with
        | (.error error, decoder) => (.error (.decoder error), { f with decoder, failed := true })
        | (.ok (), decoder) => { f with decoder }.validateRetained

def nextFrame (f : FrameDriver D) : Except (FrameDecodeError E) (Option R) × FrameDriver D :=
  if f.failed then (.error .decoderFailed, f)
  else
    match FrameDecoder.nextFrame f.decoder with
    | (.error error, decoder) => (.error (.decoder error), { f with decoder, failed := true })
    | (.ok frame, decoder) =>
      match { f with decoder }.validateRetained with
      | (.error error, f) => (.error error, f)
      | (.ok (), f) => (.ok frame, f)

end FrameDriver
end Bornera.Slot
