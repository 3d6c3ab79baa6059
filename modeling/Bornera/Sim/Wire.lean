import Bornera.Slot.Ports
import Bornera.Lib.Transducer

/-!
# The wire of the simulator

The test protocol of `wire.rs`: a reply is a header of eight bytes, with the match key and the
length of the payload, and the payload. `SimDecoder` keeps what it has of one frame between chunks.
A chunk must not run past the end of a frame, and a complete frame is drained before the next chunk.
-/

namespace Bornera.Sim

open Bornera.Core Slot Lib

/-! ### Frames -/

inductive SimFrameError where
  | tooLarge
  deriving DecidableEq, Repr

/-- Bytes with their exact size. -/
structure SimFrame where
  bytes : List UInt8
  retained : ℕ
  retained_eq : retained = bytes.length
  retained_le : retained ≤ u64Max

/-- A frame is its bytes. -/
lemma SimFrame.bytes_injective : Function.Injective SimFrame.bytes := by
  rintro ⟨bytes, retained, hretained, _⟩ ⟨bytes', retained', hretained', _⟩ h
  subst h hretained hretained'
  rfl

instance : DecidableEq SimFrame := SimFrame.bytes_injective.decidableEq

def SimFrame.copyFromSlice (bytes : List UInt8) : Except SimFrameError SimFrame :=
  if h : bytes.length ≤ u64Max then .ok ⟨bytes, bytes.length, rfl, h⟩ else .error .tooLarge

structure SimReply where
  key : MatchKey
  payload : List UInt8
  deriving DecidableEq

instance : Retained SimReply := ⟨fun reply => min reply.payload.length u64Max⟩

inductive SimWireError where
  | payloadTooLarge | undrainedFrame | multipleFrames | stateDiverged
  deriving DecidableEq, Repr

def headerBytes : ℕ := 8

/-! ### Numbers of four bytes -/

/-- The most significant byte first. -/
def toBeBytes (n : UInt32) : List UInt8 :=
  [.ofNat (n.toNat / 2 ^ 24), .ofNat (n.toNat / 2 ^ 16), .ofNat (n.toNat / 2 ^ 8), .ofNat n.toNat]

def fromBeBytes (bytes : List UInt8) : ℕ := bytes.foldl (fun n byte => n * 256 + byte.toNat) 0

lemma toBeBytes_length (n : UInt32) : (toBeBytes n).length = 4 := rfl

lemma fromBeBytes_toBeBytes (n : UInt32) : fromBeBytes (toBeBytes n) = n.toNat := by
  have hn : n.toNat < 2 ^ 32 := n.toNat_lt
  simp only [toBeBytes, fromBeBytes, List.foldl_cons, List.foldl_nil, UInt8.toNat_ofNat']
  omega

/-! ### The decoder -/

structure SimDecoder where
  maximumPayload : ℕ
  header : List UInt8
  headerUsed : ℕ
  key : Option MatchKey
  payload : Option (List UInt8)
  payloadUsed : ℕ
  ready : Option SimReply
  deriving DecidableEq

/-- Overwrites a part of a buffer. -/
def overwrite (buffer : List UInt8) (start : ℕ) (bytes : List UInt8) : List UInt8 :=
  buffer.take start ++ bytes ++ buffer.drop (start + bytes.length)

/-- The key in a header. -/
def keyOf (header : List UInt8) : MatchKey := ⟨.ofNat (fromBeBytes (header.take 4))⟩

/-- The length of the payload in a header. -/
def lengthOf (header : List UInt8) : ℕ := fromBeBytes ((header.drop 4).take 4)

namespace SimDecoder

def new (maximumPayload : ℕ) : SimDecoder :=
  ⟨maximumPayload, List.replicate headerBytes 0, 0, none, none, 0, none⟩

/-- Fills the header, and reads it once it is complete. What is left of the input comes last. -/
def acceptHeader (d : SimDecoder) (input : List UInt8) :
    Except SimWireError Unit × SimDecoder × List UInt8 :=
  let accepted := min (headerBytes - d.headerUsed) input.length
  let header := overwrite d.header d.headerUsed (input.take accepted)
  let d := { d with header, headerUsed := d.headerUsed + accepted }
  let input := input.drop accepted
  if d.headerUsed ≠ headerBytes then (.ok (), d, input)
  else if d.maximumPayload < lengthOf header then (.error .payloadTooLarge, d, input)
  else if lengthOf header = 0 then
    (.ok (), { d with ready := some ⟨keyOf header, []⟩, headerUsed := 0 }, input)
  else
    (.ok (), { d with
      key := some (keyOf header), payload := some (List.replicate (lengthOf header) 0) }, input)

/-- Fills the payload, and completes the frame with it. -/
def acceptPayload (d : SimDecoder) (input : List UInt8) :
    Except SimWireError Unit × SimDecoder × List UInt8 :=
  match d.payload with
  | none => (.ok (), d, input)
  | some payload =>
    let accepted := min (payload.length - d.payloadUsed) input.length
    let filled := overwrite payload d.payloadUsed (input.take accepted)
    let d := { d with payload := some filled, payloadUsed := d.payloadUsed + accepted }
    let input := input.drop accepted
    if d.payloadUsed ≠ filled.length then (.ok (), d, input)
    else
      match d.key with
      | none => (.error .stateDiverged, d, input)
      | some key =>
        (.ok (), { d with
          key := none, payload := none, ready := some ⟨key, filled⟩, headerUsed := 0,
          payloadUsed := 0 }, input)

/-- One turn of the loop. -/
def accept (d : SimDecoder) (input : List UInt8) :
    Except SimWireError Unit × SimDecoder × List UInt8 :=
  if d.payload.isSome then d.acceptPayload input else d.acceptHeader input

/-- The loop over a chunk. It has no answer when its fuel runs out. -/
def feedLoop : ℕ → SimDecoder → List UInt8 → Option (Except SimWireError Unit × SimDecoder)
  | _, d, [] => some (.ok (), d)
  | 0, _, _ :: _ => none
  | fuel + 1, d, byte :: bytes =>
    match d.accept (byte :: bytes) with
    | (.error error, d, _) => some (.error error, d)
    | (.ok (), d, rest) =>
      if d.ready.isSome ∧ rest ≠ [] then some (.error .multipleFrames, d) else feedLoop fuel d rest

/-- Every turn of the loop takes a byte of the chunk (`feedLoop_answers`). -/
def feed (d : SimDecoder) (bytes : List UInt8) : Except SimWireError Unit × SimDecoder :=
  if d.ready.isSome then
    (.error .undrainedFrame, d) else (feedLoop bytes.length d bytes).getD (.ok (), d)

def nextFrame (d : SimDecoder) : Except SimWireError (Option SimReply) × SimDecoder :=
  (.ok d.ready, { d with ready := none })

def retainedBytes (d : SimDecoder) : ℕ :=
  match d.payload with
  | some payload => min payload.length u64Max
  | none => (d.ready.map Retained.retainedBytes).getD 0

instance : FrameDecoder SimDecoder SimReply SimWireError := ⟨feed, nextFrame, retainedBytes⟩

end SimDecoder

/-- The classifier of the simulator reads the key of a reply. -/
structure SimClassifier where
  deriving DecidableEq

instance : InboundClassifier SimClassifier SimReply := ⟨fun c reply => (some reply.key, c)⟩

def encodeReply (key : MatchKey) (payload : SimFrame) : Except SimWireError (List UInt8) :=
  if payload.bytes.length < 2 ^ 32 then
    .ok (toBeBytes key.get ++ toBeBytes (.ofNat payload.bytes.length) ++ payload.bytes)
  else .error .payloadTooLarge

/-! ### Where a decoder stands -/

namespace SimDecoder

variable {d : SimDecoder} {done bytes : List UInt8} {maximum : ℕ}

/-- The decoder has `done` of a header that is not complete. -/
structure Heading (maximum : ℕ) (d : SimDecoder) (done : List UInt8) : Prop where
  limit : d.maximumPayload = maximum
  short : done.length < headerBytes
  header : d.header.take done.length = done
  room : d.header.length = headerBytes
  used : d.headerUsed = done.length
  key : d.key = none
  payload : d.payload = none
  fresh : d.payloadUsed = 0
  ready : d.ready = none

/-- The decoder has `done` of a frame: its header, and a part of its payload. -/
structure Filling (maximum : ℕ) (d : SimDecoder) (done : List UInt8) : Prop where
  limit : d.maximumPayload = maximum
  long : headerBytes ≤ done.length
  short : done.length < headerBytes + lengthOf done
  bounded : lengthOf done ≤ maximum
  room : d.header.length = headerBytes
  key : d.key = some (keyOf done)
  payload : ∃ payload, d.payload = some payload ∧ payload.length = lengthOf done ∧
    payload.take (done.drop headerBytes).length = done.drop headerBytes
  used : d.payloadUsed = (done.drop headerBytes).length
  ready : d.ready = none

/-- The decoder has a complete frame. -/
structure Complete (maximum : ℕ) (d : SimDecoder) (reply : SimReply) : Prop where
  limit : d.maximumPayload = maximum
  room : d.header.length = headerBytes
  used : d.headerUsed = 0
  key : d.key = none
  payload : d.payload = none
  fresh : d.payloadUsed = 0
  ready : d.ready = some reply

/-- The decoder stopped at a header that asks for too much. -/
structure Oversized (maximum : ℕ) (d : SimDecoder) : Prop where
  limit : d.maximumPayload = maximum
  room : d.header.length = headerBytes
  used : d.headerUsed = headerBytes
  large : maximum < lengthOf d.header
  payload : d.payload = none
  ready : d.ready = none

/-- The decoder waits for the rest of a frame. -/
def Waiting (maximum : ℕ) (d : SimDecoder) (done : List UInt8) : Prop :=
  Heading maximum d done ∨ Filling maximum d done

/-- What becomes of the bytes of one frame, from its first byte on. -/
inductive Fed (maximum : ℕ)
    (bytes : List UInt8) : Except SimWireError Unit × SimDecoder → Prop where
  | waiting {d : SimDecoder} (waiting : Waiting maximum d bytes) : Fed maximum bytes (.ok (), d)
  | complete {d : SimDecoder} (bounded : lengthOf bytes ≤ maximum)
    (whole : bytes.length = headerBytes + lengthOf bytes)
    (complete : Complete maximum d ⟨keyOf bytes, bytes.drop headerBytes⟩) : Fed maximum
      bytes (.ok (), d)
  | oversized {d : SimDecoder} (long : headerBytes ≤ bytes.length)
    (large : maximum < lengthOf bytes)
    (oversized : Oversized maximum d) : Fed maximum bytes (.error .payloadTooLarge, d)
  | multiple {d : SimDecoder} {reply : SimReply} (bounded : lengthOf bytes ≤ maximum)
    (beyond : headerBytes + lengthOf bytes < bytes.length) (complete : Complete maximum d reply) :
    Fed maximum bytes (.error .multipleFrames, d)

/-- What one turn of the loop makes of these bytes, with `rest` left. -/
inductive Turned (maximum : ℕ)
    (bytes rest : List UInt8) : Except SimWireError Unit × SimDecoder × List UInt8 → Prop where
  | waiting {d : SimDecoder} (waiting : Waiting maximum d bytes) : Turned maximum bytes rest
    (.ok (), d, rest)
  | complete {d : SimDecoder} (bounded : lengthOf bytes ≤ maximum)
    (whole : bytes.length = headerBytes + lengthOf bytes)
    (complete : Complete maximum d ⟨keyOf bytes, bytes.drop headerBytes⟩) : Turned maximum bytes
      rest (.ok (), d, rest)
  | oversized {d : SimDecoder} (long : headerBytes ≤ bytes.length)
    (large : maximum < lengthOf bytes)
    (oversized : Oversized maximum d) : Turned maximum bytes rest (.error .payloadTooLarge, d, rest)

/-! ### Buffers -/

lemma overwrite_take {buffer done : List UInt8} (h : buffer.take done.length = done)
    (bytes : List UInt8) :
    (overwrite buffer done.length bytes).take (done ++ bytes).length = done ++ bytes := by
  have hlen : (done ++ bytes).length = (buffer.take done.length ++ bytes).length := by rw [h]
  unfold overwrite
  rw [hlen, List.take_left, h]

lemma overwrite_length {buffer bytes : List UInt8} {start : ℕ}
    (h : start + bytes.length ≤ buffer.length) :
    (overwrite buffer start bytes).length = buffer.length := by
  simp only [overwrite, List.length_append, List.length_take, List.length_drop]
  omega

/-- A buffer that is filled to its end. -/
lemma overwrite_full {buffer done bytes : List UInt8} (h : buffer.take done.length = done)
    (hfull : done.length + bytes.length = buffer.length) :
    overwrite buffer done.length bytes = done ++ bytes := by
  unfold overwrite
  rw [h, hfull, List.drop_length, List.append_nil]

/-- A header is read from the first eight bytes. -/
lemma lengthOf_append {header : List UInt8} (h : headerBytes ≤ header.length) (rest : List UInt8) :
    lengthOf (header ++ rest) = lengthOf header := by
  unfold lengthOf
  unfold headerBytes at h
  rw [List.drop_append_of_le_length (by omega), List.take_append_of_le_length]
  rw [List.length_drop]
  omega

lemma keyOf_append {header : List UInt8} (h : headerBytes ≤ header.length) (rest : List UInt8) :
    keyOf (header ++ rest) = keyOf header := by
  unfold keyOf
  unfold headerBytes at h
  rw [List.take_append_of_le_length (by omega)]

/-! ### One turn -/

/-- The header takes all there is, or is completed and read. -/
lemma acceptHeader_turned (h : Heading maximum d done) (bytes : List UInt8) :
    Turned maximum (done ++ bytes.take (headerBytes - done.length))
      (bytes.drop (headerBytes - done.length)) (d.acceptHeader bytes) := by
  have hshort := h.short
  have hmin : bytes.take (min (headerBytes - d.headerUsed) bytes.length) =
      bytes.take (headerBytes - done.length) := by
    rw [h.used, ← List.take_take, List.take_length]
  have hrest : bytes.drop (min (headerBytes - d.headerUsed) bytes.length) =
      bytes.drop (headerBytes - done.length) := by
    rw [h.used]
    rcases Nat.le_total (headerBytes - done.length) bytes.length with hle | hle
    · rw [Nat.min_eq_left hle]
    · rw [Nat.min_eq_right hle, List.drop_length, List.drop_eq_nil_of_le hle]
  have hlen : (bytes.take (headerBytes - done.length)).length =
      min (headerBytes - d.headerUsed) bytes.length := by
    rw [h.used, List.length_take]
  unfold acceptHeader
  simp only [hmin, hrest]
  generalize hn : min (headerBytes - d.headerUsed) bytes.length = n at hlen ⊢
  generalize bytes.take (headerBytes - done.length) = taken at hlen ⊢
  generalize bytes.drop (headerBytes - done.length) = rest
  have hroom : done.length + taken.length ≤ d.header.length := by
    rw [h.room, hlen, ← hn, h.used]
    omega
  have hused : d.headerUsed + n = (done ++ taken).length := by rw [h.used, List.length_append, hlen]
  rw [h.used] at hused ⊢
  by_cases hfull : done.length + n = headerBytes
  · have hheader : overwrite d.header done.length taken = done ++ taken :=
      overwrite_full h.header (by rw [h.room, hlen]; exact hfull)
    have hlong : (done ++ taken).length = headerBytes := hused.symm.trans hfull
    rw [if_neg (not_not.mpr hfull), hheader, h.limit]
    by_cases hlarge : maximum < lengthOf (done ++ taken)
    · rw [if_pos hlarge]
      exact .oversized hlong.ge hlarge ⟨rfl, hlong, hfull, hlarge, h.payload, h.ready⟩
    · rw [if_neg hlarge]
      have hbounded : lengthOf (done ++ taken) ≤ maximum := Nat.le_of_not_lt hlarge
      have hnone : (done ++ taken).drop headerBytes = [] := List.drop_eq_nil_of_le hlong.le
      by_cases hzero : lengthOf (done ++ taken) = 0
      · rw [if_pos hzero]
        refine .complete hbounded (by omega) ⟨rfl, hlong, rfl, h.key, h.payload, h.fresh, ?_⟩
        rw [hnone]
      · rw [if_neg hzero]
        refine .waiting (.inr ⟨rfl, hlong.ge, by omega, hbounded, hlong, rfl,
          ⟨_, rfl, List.length_replicate, ?_⟩, ?_, h.ready⟩)
        · rw [hnone]
          rfl
        · rw [hnone]
          exact h.fresh
  · rw [if_pos hfull]
    refine .waiting (.inl ⟨h.limit, ?_, overwrite_take h.header taken, ?_, hused, h.key, h.payload,
      h.fresh, h.ready⟩)
    · have hle : (done ++ taken).length ≤ headerBytes := by
        rw [List.length_append, ← h.room]; exact hroom
      omega
    · exact (overwrite_length hroom).trans h.room

/-- The payload takes all there is, or is completed and makes a frame. -/
lemma acceptPayload_turned (h : Filling maximum d done) (bytes : List UInt8) :
    Turned maximum (done ++ bytes.take (headerBytes + lengthOf done - done.length))
      (bytes.drop (headerBytes + lengthOf done - done.length)) (d.acceptPayload bytes) := by
  obtain ⟨payload, hpayload, hlength, hfilled⟩ := h.payload
  have hshort := h.short
  have hlong := h.long
  have hpart : (done.drop headerBytes).length = done.length - headerBytes := List.length_drop
  have hneed : payload.length - d.payloadUsed = headerBytes + lengthOf done - done.length := by
    rw [hlength, h.used, hpart]
    omega
  have hmin : bytes.take (min (payload.length - d.payloadUsed) bytes.length) =
      bytes.take (headerBytes + lengthOf done - done.length) := by
    rw [hneed, ← List.take_take, List.take_length]
  have hrest : bytes.drop (min (payload.length - d.payloadUsed) bytes.length) =
      bytes.drop (headerBytes + lengthOf done - done.length) := by
    rw [hneed]
    rcases Nat.le_total (headerBytes + lengthOf done - done.length) bytes.length with hle | hle
    · rw [Nat.min_eq_left hle]
    · rw [Nat.min_eq_right hle, List.drop_length, List.drop_eq_nil_of_le hle]
  have hlen : (bytes.take (headerBytes + lengthOf done - done.length)).length =
      min (payload.length - d.payloadUsed) bytes.length := by
    rw [hneed, List.length_take]
  unfold acceptPayload
  simp only [hpayload, hmin, hrest]
  generalize hn : min (payload.length - d.payloadUsed) bytes.length = n at hlen ⊢
  generalize bytes.take (headerBytes + lengthOf done - done.length) = taken at hlen ⊢
  generalize bytes.drop (headerBytes + lengthOf done - done.length) = rest
  have hroom : (done.drop headerBytes).length + taken.length ≤ payload.length := by
    rw [hlen, ← hn, h.used]
    omega
  have hsame : lengthOf (done ++ taken) = lengthOf done := lengthOf_append hlong taken
  have hdrop : (done ++ taken).drop headerBytes = done.drop headerBytes ++ taken :=
    List.drop_append_of_le_length hlong
  have hsum : (done ++ taken).length = done.length + n := by rw [List.length_append, hlen]
  rw [h.used] at hn ⊢
  have hkept : (overwrite payload (done.drop headerBytes).length taken).length = payload.length :=
    overwrite_length hroom
  rw [hkept]
  by_cases hfull : (done.drop headerBytes).length + n = payload.length
  · have hpayload' : overwrite payload (done.drop headerBytes).length taken =
        done.drop headerBytes ++ taken :=
      overwrite_full hfilled (by rw [hlen]; exact hfull)
    rw [if_neg (not_not.mpr hfull), h.key, hpayload']
    refine .complete (hsame ▸ h.bounded) ?_ ⟨h.limit, h.room, rfl, rfl, rfl, rfl, ?_⟩
    · rw [hsame, hsum]
      omega
    · rw [hdrop, keyOf_append hlong]
  · rw [if_pos hfull]
    refine .waiting (.inr ⟨h.limit, ?_, ?_, hsame ▸ h.bounded, h.room, ?_, ⟨_, rfl, ?_, ?_⟩,
      ?_, h.ready⟩)
    · rw [hsum]
      omega
    · rw [hsame, hsum]
      omega
    · rw [h.key, keyOf_append hlong]
    · rw [hsame, hkept, hlength]
    · rw [hdrop]
      exact overwrite_take hfilled taken
    · rw [hdrop, List.length_append, hlen]

/-- **One turn** of the loop takes some of the chunk. -/
lemma accept_turned (h : Waiting maximum d done) (hbytes : bytes ≠ []) :
    ∃ taken rest, bytes = taken ++ rest ∧ taken ≠ [] ∧
      Turned maximum (done ++ taken) rest (d.accept bytes) := by
  have htake : ∀ n, 0 < n → bytes.take n ≠ [] := fun n hn => by
    simp only [ne_eq, List.take_eq_nil_iff, hbytes, or_false]
    omega
  rcases h with hheading | hfilling
  · have hneed : 0 < headerBytes - done.length := Nat.sub_pos_of_lt hheading.short
    refine ⟨_, _, (List.take_append_drop (headerBytes - done.length) bytes).symm, htake _ hneed, ?_⟩
    unfold accept
    rw [hheading.payload]
    exact acceptHeader_turned hheading bytes
  · have hneed : 0 < headerBytes + lengthOf done - done.length := Nat.sub_pos_of_lt hfilling.short
    obtain ⟨payload, hpayload, _⟩ := hfilling.payload
    refine ⟨_, _, (List.take_append_drop (headerBytes + lengthOf done - done.length) bytes).symm,
      htake _ hneed, ?_⟩
    unfold accept
    rw [hpayload]
    exact acceptPayload_turned hfilling bytes

/-! ### One chunk -/

lemma feedLoop_nil (fuel : ℕ) (d : SimDecoder) : feedLoop fuel d [] = some (.ok (), d) := by
  cases fuel <;> rfl

lemma Waiting.unready (h : Waiting maximum d done) : d.ready = none := by
  rcases h with h | h
  · exact h.ready
  · exact h.ready

/-- **One chunk**: the loop ends, and what it makes of the chunk depends on the frame as a whole. -/
theorem feedLoop_fed (h : Waiting maximum d done) {fuel : ℕ} (hfuel : bytes.length ≤ fuel) :
    ∃ result, feedLoop fuel d bytes = some result ∧ Fed maximum (done ++ bytes) result := by
  induction fuel generalizing d done bytes with
  | zero =>
    rw [List.length_eq_zero_iff.mp (Nat.le_zero.mp hfuel), List.append_nil]
    exact ⟨_, rfl, .waiting h⟩
  | succ fuel ih =>
    cases bytes with
    | nil =>
      rw [List.append_nil]
      exact ⟨_, rfl, .waiting h⟩
    | cons byte bytes =>
      obtain ⟨taken, rest, hsplit, htaken, hturned⟩ := accept_turned h (List.cons_ne_nil byte bytes)
      have hrest : rest.length ≤ fuel := by
        have hpos := List.length_pos_of_ne_nil htaken
        have hlen := congrArg List.length hsplit
        rw [List.length_append] at hlen
        omega
      rw [feedLoop]
      generalize d.accept (byte :: bytes) = turned at hturned ⊢
      rw [hsplit, ← List.append_assoc]
      cases hturned with
      | @waiting d' waiting =>
        obtain ⟨result, hrun, hfed⟩ := ih waiting hrest
        refine ⟨result, ?_, hfed⟩
        simp only [waiting.unready, Option.isSome_none, Bool.false_eq_true, false_and, if_false]
        exact hrun
      | @complete d' bounded whole complete =>
        have hlong : headerBytes ≤ (done ++ taken).length := by omega
        simp only [complete.ready, Option.isSome_some, true_and]
        by_cases hnil : rest = []
        · rw [hnil, if_neg (not_not.mpr rfl), feedLoop_nil, List.append_nil]
          exact ⟨_, rfl, .complete bounded whole complete⟩
        · rw [if_pos hnil]
          have hpos := List.length_pos_of_ne_nil hnil
          refine ⟨_, rfl, .multiple ?_ ?_ complete⟩
          · rw [lengthOf_append hlong]
            exact bounded
          · rw [lengthOf_append hlong, List.length_append]
            omega
      | @oversized d' long large oversized =>
        refine ⟨_, rfl, .oversized ?_ ?_ oversized⟩
        · rw [List.length_append]
          omega
        · rw [lengthOf_append long]
          exact large

theorem feed_fed (h : Waiting maximum d done) (bytes : List UInt8) :
    Fed maximum (done ++ bytes) (d.feed bytes) := by
  obtain ⟨result, hrun, hfed⟩ := feedLoop_fed h (le_refl bytes.length)
  unfold feed
  rw [h.unready, hrun]
  exact hfed

/-! ### Any calls -/

/-- A decoder waits for bytes, has a frame, or has stopped. -/
inductive Sound (maximum : ℕ) (d : SimDecoder) : Prop where
  | waiting (done : List UInt8) (waiting : Waiting maximum d done)
  | complete (reply : SimReply) (complete : Complete maximum d reply)
  | oversized (oversized : Oversized maximum d)

lemma new_waiting (maximum : ℕ) : Waiting maximum (new maximum) [] :=
  .inl ⟨rfl, by decide, rfl, rfl, rfl, rfl, rfl, rfl, rfl⟩

lemma Complete.drained {reply : SimReply} (h : Complete maximum d reply) :
    Waiting maximum d.nextFrame.2 [] :=
  .inl ⟨h.limit, by decide, rfl, h.room, h.used, h.key, h.payload, h.fresh, rfl⟩

lemma nextFrame_unready (h : d.ready = none) : d.nextFrame = (.ok none, d) := by
  unfold nextFrame
  rw [h, ← h]

lemma Fed.sound {result : Except SimWireError Unit × SimDecoder} (h : Fed maximum bytes result) :
    Sound maximum result.2 ∧ result.1 ≠ .error .stateDiverged := by
  cases h with
  | waiting waiting => exact ⟨.waiting _ waiting, by simp⟩
  | complete _ _ complete => exact ⟨.complete _ complete, by simp⟩
  | oversized _ _ oversized => exact ⟨.oversized oversized, by simp⟩
  | multiple _ _ complete => exact ⟨.complete _ complete, by simp⟩

/-- A decoder that has stopped reads the same header again. -/
lemma Oversized.feedLoop (h : Oversized maximum d) (bytes : List UInt8) :
    feedLoop bytes.length d bytes = some (.ok (), d) ∨
      feedLoop bytes.length d bytes = some (.error .payloadTooLarge, d) := by
  cases bytes with
  | nil => exact .inl (feedLoop_nil _ d)
  | cons byte bytes =>
    have hsame : overwrite d.header headerBytes [] = d.header := by
      simp [overwrite, ← h.room]
    have haccept : d.accept (byte :: bytes) = (.error .payloadTooLarge, d, byte :: bytes) := by
      have hnone : min (headerBytes - d.headerUsed) (byte :: bytes).length = 0 := by
        rw [h.used]; simp
      simp only [accept, h.payload, Option.isSome_none, Bool.false_eq_true, if_false, acceptHeader,
        hnone, List.take_zero,
        List.drop_zero, Nat.add_zero]
      rw [h.used, hsame, if_neg (not_not.mpr rfl), h.limit, if_pos h.large, ← h.used, ← h.limit,
        ← h.payload]
    refine .inr ?_
    simp only [List.length_cons, SimDecoder.feedLoop, haccept]

/-- From any state of a run the loop ends. -/
theorem Sound.answers (h : Sound maximum d) (hready : d.ready = none) (bytes : List UInt8) :
    ∃ result, feedLoop bytes.length d bytes = some result ∧ Sound maximum result.2 ∧
      result.1 ≠ .error .stateDiverged := by
  cases h with
  | waiting done waiting =>
    obtain ⟨result, hrun, hfed⟩ := feedLoop_fed waiting (le_refl bytes.length)
    exact ⟨result, hrun, hfed.sound⟩
  | complete reply complete =>
    rw [complete.ready] at hready
    cases hready
  | oversized oversized =>
    rcases oversized.feedLoop bytes with hrun | hrun
    · exact ⟨_, hrun, .oversized oversized, by simp⟩
    · exact ⟨_, hrun, .oversized oversized, by simp⟩

lemma feed_undrained {reply : SimReply} (h : d.ready = some reply) (bytes : List UInt8) :
    d.feed bytes = (.error .undrainedFrame, d) := by
  unfold feed
  rw [h]
  rfl

lemma Sound.feed (h : Sound maximum d) (bytes : List UInt8) :
    Sound maximum (d.feed bytes).2 ∧ (d.feed bytes).1 ≠ .error .stateDiverged := by
  cases hready : d.ready with
  | some reply =>
    rw [feed_undrained hready]
    exact ⟨h, by simp⟩
  | none =>
    obtain ⟨result, hrun, hsound⟩ := h.answers hready bytes
    unfold SimDecoder.feed
    rw [hready, hrun]
    exact hsound

lemma Sound.nextFrame (h : Sound maximum d) : Sound maximum d.nextFrame.2 := by
  cases h with
  | waiting done waiting =>
    rw [nextFrame_unready waiting.unready]
    exact .waiting done waiting
  | complete reply complete => exact .waiting [] complete.drained
  | oversized oversized =>
    rw [nextFrame_unready oversized.ready]
    exact .oversized oversized

end SimDecoder

/-- A call of the decoder. -/
inductive WireCall where
  | feed (bytes : List UInt8)
  | nextFrame

inductive WireResponse where
  | fed (result : Except SimWireError Unit)
  | frame (result : Except SimWireError (Option SimReply))

def WireResponse.error : WireResponse → Option SimWireError
  | .fed (.error error) => some error
  | .frame (.error error) => some error
  | _ => none

def WireResponse.reply : WireResponse → Option SimReply
  | .frame (.ok reply) => reply
  | _ => none

def SimDecoder.step (d : SimDecoder) : WireCall → SimDecoder × WireResponse
  | .feed bytes => ((d.feed bytes).2, .fed (d.feed bytes).1)
  | .nextFrame => (d.nextFrame.2, .frame d.nextFrame.1)

abbrev WireEvent : Type := Transducer.Event SimDecoder WireCall WireResponse

/-- The frames a history hands out. -/
def delivered (h : List WireEvent) : List SimReply := h.filterMap fun ev => ev.output.reply

lemma sound_run (maximum : ℕ) (calls : List WireCall) :
    (Transducer.final SimDecoder.step (.new maximum) calls).Sound maximum := by
  refine Transducer.history_induction (P := fun _ d => SimDecoder.Sound maximum d) ?_
    (fun _ d call hd => ?_) calls
  · exact .waiting [] (SimDecoder.new_waiting maximum)
  · cases call with
    | feed bytes => exact (hd.feed bytes).1
    | nextFrame => exact hd.nextFrame

/-! ### Streams of frames -/

/-- The bytes of a reply. -/
def encoding (reply : MatchKey × SimFrame) : List UInt8 :=
  toBeBytes reply.1.get ++ toBeBytes (.ofNat reply.2.bytes.length) ++ reply.2.bytes

/-- The reply that is decoded. -/
def decoded (reply : MatchKey × SimFrame) : SimReply := ⟨reply.1, reply.2.bytes⟩

/-- The payload is within the maximum of the decoder and in a `u32`. -/
def Fits (maximum : ℕ) (reply : MatchKey × SimFrame) : Prop :=
  reply.2.bytes.length ≤ maximum ∧ reply.2.bytes.length < 2 ^ 32

lemma encodeReply_ok {maximum : ℕ} {reply : MatchKey × SimFrame} (h : Fits maximum reply) :
    encodeReply reply.1 reply.2 = .ok (encoding reply) := if_pos h.2

lemma encoding_length (reply : MatchKey × SimFrame) :
    (encoding reply).length = headerBytes + reply.2.bytes.length := by
  simp only [encoding, List.length_append, toBeBytes_length, headerBytes]

lemma keyOf_encoding (reply : MatchKey × SimFrame) : keyOf (encoding reply) = reply.1 := by
  have htake : (encoding reply).take 4 = toBeBytes reply.1.get := by
    unfold encoding
    rw [List.append_assoc, List.take_append_of_le_length (toBeBytes_length _).ge,
      List.take_of_length_le (toBeBytes_length _).le]
  unfold keyOf
  rw [htake, fromBeBytes_toBeBytes, UInt32.ofNat_toNat]

lemma lengthOf_encoding {maximum : ℕ} {reply : MatchKey × SimFrame} (h : Fits maximum reply) :
    lengthOf (encoding reply) = reply.2.bytes.length := by
  have hdrop : (encoding reply).drop 4 =
      toBeBytes (.ofNat reply.2.bytes.length) ++ reply.2.bytes := by
    unfold encoding
    rw [List.append_assoc]
    exact List.drop_left' (toBeBytes_length _)
  unfold lengthOf
  rw [hdrop, List.take_append_of_le_length (toBeBytes_length _).ge,
    List.take_of_length_le (toBeBytes_length _).le,
    fromBeBytes_toBeBytes]
  exact Nat.mod_eq_of_lt h.2

lemma drop_encoding (reply : MatchKey × SimFrame) :
    (encoding reply).drop headerBytes = reply.2.bytes := by
  unfold encoding
  exact List.drop_left' rfl

/-- The bytes of a frame that is not complete. -/
def Unfinished (maximum : ℕ) (bytes : List UInt8) : Prop :=
  bytes.length < headerBytes ∨ lengthOf bytes ≤ maximum ∧
    bytes.length < headerBytes + lengthOf bytes

/-- The chunks make up the stream of these frames, and none of them runs past the end of a frame. -/
structure Divides (frames chunks : List (List UInt8)) : Prop where
  whole : chunks.flatten = frames.flatten
  within : ∀ pre chunk post, chunks = pre ++ chunk :: post → ∀ front back, frames = front ++ back →
    ¬(pre.flatten.length < front.flatten.length ∧
      front.flatten.length < pre.flatten.length + chunk.length)

/-- Each chunk is fed, and `nextFrame` is called after it, as often as the number
beside it says and once more. -/
def drives (pieces : List (List UInt8 × ℕ)) : List WireCall :=
  pieces.flatMap fun piece => .feed piece.1 :: List.replicate (piece.2 + 1) .nextFrame

namespace SimDecoder

variable {d : SimDecoder} {done bytes : List UInt8} {maximum : ℕ}

lemma Waiting.unfinished (h : Waiting maximum d bytes) : Unfinished maximum bytes := by
  rcases h with h | h
  · exact .inl h.short
  · exact .inr ⟨h.bounded, h.short⟩

/-- What a decoder answers to a chunk, by the frame as far as it is known. -/
def verdict (maximum : ℕ) (bytes : List UInt8) : Except SimWireError Unit :=
  if bytes.length < headerBytes then .ok ()
  else if maximum < lengthOf bytes then .error .payloadTooLarge
  else if headerBytes + lengthOf bytes < bytes.length then .error .multipleFrames
  else .ok ()

lemma Fed.verdict {result : Except SimWireError Unit × SimDecoder} (h : Fed maximum bytes result) :
    result.1 = SimDecoder.verdict maximum bytes := by
  unfold SimDecoder.verdict
  cases h with
  | waiting waiting =>
    rcases waiting.unfinished with hshort | ⟨hbounded, hshort⟩
    · rw [if_pos hshort]
    · by_cases hlong : bytes.length < headerBytes
      · rw [if_pos hlong]
      · rw [if_neg hlong, if_neg (Nat.not_lt.mpr hbounded), if_neg (Nat.not_lt.mpr hshort.le)]
  | complete bounded whole complete =>
    rw [if_neg (by omega), if_neg (Nat.not_lt.mpr bounded), if_neg (Nat.not_lt.mpr whole.le)]
  | oversized long large oversized => rw [if_neg (Nat.not_lt.mpr long), if_pos large]
  | multiple bounded beyond complete =>
    rw [if_neg (by omega), if_neg (Nat.not_lt.mpr bounded), if_pos beyond]

/-- A chunk that leaves its frame unfinished is taken. -/
lemma Fed.of_unfinished {result : Except SimWireError Unit × SimDecoder}
    (h : Fed maximum bytes result)
    (hbytes : Unfinished maximum bytes) : result.1 = .ok () ∧ Waiting maximum result.2 bytes := by
  cases h with
  | waiting waiting => exact ⟨rfl, waiting⟩
  | complete bounded whole complete => rcases hbytes with h | ⟨_, h⟩ <;> omega
  | oversized long large oversized => rcases hbytes with h | ⟨_, h⟩ <;> omega
  | multiple bounded beyond complete => rcases hbytes with h | ⟨_, h⟩ <;> omega

/-- A chunk that ends its frame completes it. -/
lemma Fed.of_whole {result : Except SimWireError Unit × SimDecoder} (h : Fed maximum bytes result)
    (hbounded : lengthOf bytes ≤ maximum) (hwhole : bytes.length = headerBytes + lengthOf bytes) :
    result.1 = .ok () ∧ Complete maximum result.2 ⟨keyOf bytes, bytes.drop headerBytes⟩ := by
  cases h with
  | waiting waiting => rcases waiting.unfinished with h | ⟨_, h⟩ <;> omega
  | complete _ _ complete => exact ⟨rfl, complete⟩
  | oversized long large oversized => omega
  | multiple bounded beyond complete => omega

/-! ### Draining -/

/-- A history without a failure that delivers these frames and ends here. -/
structure Drives (d : SimDecoder) (calls : List WireCall) (replies : List SimReply)
    (d' : SimDecoder) : Prop where
  accepted : ∀ ev ∈ Transducer.history step d calls, ev.output.error = none
  delivers : delivered (Transducer.history step d calls) = replies
  final : Transducer.final step d calls = d'

lemma Drives.trans {d' d'' : SimDecoder} {calls calls' : List WireCall}
    {replies replies' : List SimReply} (h : Drives d calls replies d')
    (h' : Drives d' calls' replies' d'') :
    Drives d (calls ++ calls') (replies ++ replies') d'' := by
  have hfinal := h.final
  refine ⟨fun ev hev => ?_, ?_, ?_⟩
  · rw [Transducer.history_append, List.mem_append, hfinal] at hev
    exact hev.elim (h.accepted ev) (h'.accepted ev)
  · rw [Transducer.history_append, hfinal, delivered, List.filterMap_append]
    exact congrArg₂ _ h.delivers h'.delivers
  · rw [Transducer.final_append, hfinal]
    exact h'.final

lemma drives_feed (h : (d.feed bytes).1 = .ok ()) : Drives d [.feed bytes] [] (d.feed bytes).2 := by
  refine ⟨fun ev hev => ?_, ?_, rfl⟩
  · rw [List.mem_singleton.mp hev]
    simp only [Transducer.event, step, h, WireResponse.error]
  · rfl

lemma drives_nextFrame (d : SimDecoder) : Drives d [.nextFrame] d.ready.toList d.nextFrame.2 := by
  refine ⟨fun ev hev => ?_, ?_, rfl⟩
  · rw [List.mem_singleton.mp hev]
    rfl
  · unfold delivered Transducer.history Transducer.event
    simp only [step, nextFrame, Transducer.history, List.filterMap_cons, List.filterMap_nil,
      WireResponse.reply]
    cases d.ready <;> rfl

/-- Once drained, a decoder has nothing more. -/
lemma drives_idle (h : d.ready = none) (n : ℕ) : Drives d (List.replicate n .nextFrame) [] d := by
  induction n with
  | zero => exact ⟨fun ev hev => (by cases hev), rfl, rfl⟩
  | succ n ih =>
    have hnext := drives_nextFrame d
    rw [nextFrame_unready h, h] at hnext
    exact hnext.trans ih

lemma drives_drain {reply : SimReply} (h : Complete maximum d reply) (n : ℕ) :
    Drives d (List.replicate (n + 1) .nextFrame) [reply] d.nextFrame.2 := by
  have hnext := drives_nextFrame d
  rw [h.ready] at hnext
  exact hnext.trans (drives_idle rfl n)

/-! ### Round trip -/

/-- A part of a frame is unfinished. -/
lemma unfinished_of_front (rest : List UInt8) (hbounded : lengthOf (bytes ++ rest) ≤ maximum)
    (hshort : bytes.length < headerBytes + lengthOf (bytes ++ rest)) :
    Unfinished maximum bytes := by
  by_cases hlong : headerBytes ≤ bytes.length
  · rw [lengthOf_append hlong] at hbounded hshort
    exact .inr ⟨hbounded, hshort⟩
  · exact .inl (Nat.lt_of_not_le hlong)

lemma Unfinished.front {rest : List UInt8} (h : Unfinished maximum (bytes ++ rest)) :
    Unfinished maximum bytes := by
  rcases h with hshort | ⟨hbounded, hshort⟩
  · rw [List.length_append] at hshort
    exact .inl (by omega)
  · rw [List.length_append] at hshort
    exact unfinished_of_front rest hbounded (by omega)

/-- The chunks to come, after `done` of the first of these frames: they make up the frames and
`tail`, and none of them runs past the end of a frame. -/
structure Ahead (done : List UInt8) (frames : List (List UInt8)) (tail : List UInt8)
    (chunks : List (List UInt8)) : Prop where
  begun : ∀ frame rest, frames = frame :: rest → done.length < frame.length
  whole : done ++ chunks.flatten = frames.flatten ++ tail
  within : ∀ pre chunk post, chunks = pre ++ chunk :: post → ∀ front back, frames = front ++ back →
    ¬(done.length + pre.flatten.length < front.flatten.length ∧
      front.flatten.length < done.length + pre.flatten.length + chunk.length)

/-- A chunk is taken that does not end the frame. -/
lemma Ahead.take {frames chunks : List (List UInt8)} {tail chunk : List UInt8}
    (h : Ahead done frames tail (chunk :: chunks))
    (hbegun : ∀ frame rest, frames = frame :: rest → (done ++ chunk).length < frame.length) :
    Ahead (done ++ chunk) frames tail chunks := by
  refine ⟨hbegun, ?_, ?_⟩
  · rw [List.append_assoc, ← List.flatten_cons]
    exact h.whole
  · intro pre next post hsplit front back hfront
    have hwithin := h.within (chunk :: pre) next post (by rw [hsplit]; rfl) front back hfront
    simp only [List.flatten_cons, List.length_append] at hwithin ⊢
    omega

/-- A chunk is taken that ends the frame. -/
lemma Ahead.finish {frames chunks : List (List UInt8)} {tail chunk : List UInt8}
    (h : Ahead done ((done ++ chunk) :: frames) tail (chunk :: chunks))
    (hframes : ∀ frame ∈ frames, frame ≠ []) :
    Ahead [] frames tail chunks := by
  refine ⟨fun frame rest hsplit => ?_, ?_, ?_⟩
  · exact List.length_pos_of_ne_nil (hframes frame (hsplit ▸ List.mem_cons_self))
  · have hwhole := h.whole
    rw [List.flatten_cons, List.flatten_cons, ← List.append_assoc,
      List.append_assoc (done ++ chunk)] at hwhole
    exact List.append_cancel_left hwhole
  · intro pre next post hsplit front back hfront
    have hwithin :=
      h.within (chunk :: pre) next post (by rw [hsplit]; rfl) ((done ++ chunk) :: front) back
      (by rw [hfront]; rfl)
    simp only [List.flatten_cons, List.length_append, List.length_nil] at hwithin ⊢
    omega

lemma encoding_ne_nil (reply : MatchKey × SimFrame) : encoding reply ≠ [] := by
  refine List.ne_nil_of_length_pos ?_
  rw [encoding_length]
  exact Nat.lt_of_lt_of_le (by decide) (Nat.le_add_right headerBytes _)

/-- **Chunks decode to the frames they divide**, and the decoder is left with what is unfinished. -/
theorem drives_ahead {replies : List (MatchKey × SimFrame)} {tail : List UInt8}
    (hfits : ∀ reply ∈ replies, Fits maximum reply) (htail : Unfinished maximum tail)
    {pieces : List (List UInt8 × ℕ)} (hwait : Waiting maximum d done)
    (h : Ahead done (replies.map encoding) tail (pieces.map Prod.fst)) :
    ∃ d', Drives d (drives pieces) (replies.map decoded) d' ∧ Waiting maximum d' tail := by
  induction pieces generalizing replies d done with
  | nil =>
    have hwhole := h.whole
    cases replies with
    | nil =>
      rw [List.map_nil, List.flatten_nil, List.append_nil, List.map_nil, List.flatten_nil,
        List.nil_append] at hwhole
      exact ⟨d, drives_idle hwait.unready 0, hwhole ▸ hwait⟩
    | cons reply replies =>
      have hshort := h.begun _ _ rfl
      have hlen := congrArg List.length hwhole
      simp only [List.map_cons, List.flatten_cons, List.map_nil, List.flatten_nil, List.append_nil,
        List.length_append] at hlen
      omega
  | cons piece pieces ih =>
    obtain ⟨chunk, extra⟩ := piece
    have hfed := feed_fed hwait chunk
    have hwhole := h.whole
    rw [List.map_cons, List.flatten_cons, ← List.append_assoc] at hwhole
    cases replies with
    | nil =>
      rw [List.map_nil, List.flatten_nil, List.nil_append] at hwhole
      obtain ⟨hok, hnext⟩ := hfed.of_unfinished (Unfinished.front (hwhole ▸ htail))
      obtain ⟨d', hrest, htail'⟩ := ih hfits hnext (h.take fun frame rest hnone => (by cases hnone))
      exact ⟨d', ((drives_feed hok).trans (drives_idle hnext.unready (extra + 1))).trans
        hrest, htail'⟩
    | cons reply replies =>
      have hfit := hfits reply List.mem_cons_self
      have hlen := encoding_length reply
      have hlength := lengthOf_encoding hfit
      have hshort := h.begun _ _ rfl
      have hend := h.within [] chunk _ rfl [encoding reply] (replies.map encoding) rfl
      simp only [List.flatten_nil, List.length_nil, List.flatten_cons, List.append_nil] at hend
      have hle : (done ++ chunk).length ≤ (encoding reply).length := by
        rw [List.length_append]
        omega
      -- the bytes so far are a part of the frame
      rw [List.map_cons, List.flatten_cons, List.append_assoc (encoding reply)] at hwhole
      obtain ⟨rest, hframe⟩ : ∃ rest, encoding reply = (done ++ chunk) ++ rest :=
        (List.prefix_of_prefix_length_le ⟨_, hwhole⟩ ⟨_, rfl⟩ hle).imp fun _ heq => heq.symm
      by_cases hfull : (done ++ chunk).length = (encoding reply).length
      · have hnil : rest = [] := by
          have := congrArg List.length hframe
          rw [List.length_append] at this
          exact List.length_eq_zero_iff.mp (by omega)
        rw [hnil, List.append_nil] at hframe
        rw [← hframe] at hfed
        obtain ⟨hok, hcomplete⟩ := hfed.of_whole (hlength ▸ hfit.1) (hlen.trans (by rw [hlength]))
        rw [keyOf_encoding, drop_encoding] at hcomplete
        rw [List.map_cons, hframe] at h
        obtain ⟨d', hrest, htail'⟩ :=
          ih (fun r hr => hfits r (List.mem_cons_of_mem _ hr)) hcomplete.drained
          (h.finish fun frame hmem => by
            obtain ⟨r, _, rfl⟩ := List.mem_map.mp hmem
            exact encoding_ne_nil r)
        exact ⟨d', ((drives_feed hok).trans (drives_drain hcomplete extra)).trans hrest, htail'⟩
      · have hpart : Unfinished maximum (done ++ chunk) := by
          refine unfinished_of_front rest ?_ ?_
          · rw [← hframe, hlength]
            exact hfit.1
          · rw [← hframe, hlength]
            omega
        obtain ⟨hok, hnext⟩ := hfed.of_unfinished hpart
        obtain ⟨d', hrest, htail'⟩ := ih hfits hnext (h.take fun frame rest' heq => by
          cases heq
          exact Nat.lt_of_le_of_ne hle hfull)
        exact ⟨d', ((drives_feed hok).trans (drives_idle hnext.unready (extra + 1))).trans
          hrest, htail'⟩

end SimDecoder

lemma Divides.ahead {replies : List (MatchKey × SimFrame)} {tail : List UInt8}
    {chunks : List (List UInt8)} (h : Divides (replies.map encoding ++ [tail]) chunks) :
    SimDecoder.Ahead [] (replies.map encoding) tail chunks := by
  refine ⟨fun frame rest hsplit => ?_, ?_, ?_⟩
  · have hmem : frame ∈ replies.map encoding := hsplit ▸ List.mem_cons_self
    obtain ⟨reply, _, rfl⟩ := List.mem_map.mp hmem
    exact List.length_pos_of_ne_nil (SimDecoder.encoding_ne_nil reply)
  · rw [List.nil_append, h.whole, List.flatten_append, List.flatten_singleton]
  · intro pre chunk post hsplit front back hfront
    have hwithin :=
      h.within pre chunk post hsplit front (back ++ [tail]) (by rw [hfront, List.append_assoc])
    simpa using hwithin

lemma Divides.snoc_nil {frames chunks : List (List UInt8)} (h : Divides frames chunks) :
    Divides (frames ++ [[]]) chunks := by
  refine ⟨by rw [List.flatten_append, h.whole]; simp,
    fun pre chunk post hsplit front back hfront => ?_⟩
  -- the empty frame at the end changes no boundary
  rcases List.eq_nil_or_concat back with rfl | ⟨back, last, rfl⟩
  · rw [List.append_nil] at hfront
    have hwithin := h.within pre chunk post hsplit frames [] (by simp)
    rw [← hfront]
    simpa using hwithin
  · rw [List.concat_eq_append, ← List.append_assoc] at hfront
    exact h.within pre chunk post hsplit front back (List.append_inj_left' hfront rfl)

lemma mapM_encodeReply {maximum : ℕ} {replies : List (MatchKey × SimFrame)}
    (h : ∀ reply ∈ replies, Fits maximum reply) :
    replies.mapM (fun reply => encodeReply reply.1 reply.2) = .ok (replies.map encoding) := by
  induction replies with
  | nil => rfl
  | cons reply replies ih =>
    rw [List.mapM_cons, encodeReply_ok (h reply List.mem_cons_self), ih fun r hr =>
      h r (List.mem_cons_of_mem _ hr)]
    rfl

/-- **The wire of the simulator**. Chunks that respect the ends of the frames decode to the
replies that were encoded. At any point of such a stream the answer to the next chunk is known
from the bytes of its frame. A frame that is not drained blocks the decoder, and no calls at
all make its state diverge. -/
theorem wire_round_trip (maximum : ℕ) :
    (∀ replies : List (MatchKey × SimFrame), (∀ reply ∈ replies, Fits maximum reply) →
      ∃ frames, replies.mapM (fun reply => encodeReply reply.1 reply.2) = .ok frames ∧
        (∀ pieces : List (List UInt8 × ℕ), Divides frames (pieces.map Prod.fst) →
          let h := Transducer.history SimDecoder.step (.new maximum) (drives pieces)
          (∀ ev ∈ h, ev.output.error = none) ∧ delivered h = replies.map decoded) ∧
        ∀ tail, Unfinished maximum tail → ∀ pieces : List (List UInt8 × ℕ),
          Divides (frames ++ [tail]) (pieces.map Prod.fst) →
          let d := Transducer.final SimDecoder.step (.new maximum) (drives pieces)
          ∀ chunk, (d.feed chunk).1 = SimDecoder.verdict maximum (tail ++ chunk)) ∧
    ∀ calls, ∀ ev ∈ Transducer.history SimDecoder.step (.new maximum) calls,
      ev.output.error ≠ some .stateDiverged ∧
      (ev.before.ready = none → ∀ bytes,
        (SimDecoder.feedLoop bytes.length ev.before bytes).isSome = true) ∧
      (ev.before.ready ≠ none → ∀ bytes, ev.input = .feed bytes →
        ev.output = .fed (.error .undrainedFrame) ∧ ev.after = ev.before) := by
  refine ⟨fun replies hfits => ⟨_, mapM_encodeReply hfits, ?_, ?_⟩, ?_⟩
  · intro pieces hdivides
    obtain ⟨d, hdrives, _⟩ :=
      SimDecoder.drives_ahead hfits (.inl (by decide)) (SimDecoder.new_waiting maximum)
      hdivides.snoc_nil.ahead
    exact ⟨hdrives.accepted, hdrives.delivers⟩
  · intro tail htail pieces hdivides
    obtain ⟨d, hdrives, hwait⟩ :=
      SimDecoder.drives_ahead hfits htail (SimDecoder.new_waiting maximum) hdivides.ahead
    rw [hdrives.final]
    exact fun chunk => (SimDecoder.feed_fed hwait chunk).verdict
  · intro calls ev hev
    obtain ⟨pre, post, hsplit⟩ := List.append_of_mem hev
    obtain ⟨before, call, _, _, _, rfl⟩ := Transducer.history_split hsplit
    have hsound := sound_run maximum before
    generalize Transducer.final SimDecoder.step (.new maximum) before = d at hsound ⊢
    refine ⟨?_, fun hready bytes => ?_, fun hready bytes hinput => ?_⟩
    · cases call with
      | feed bytes =>
        have hsafe := (hsound.feed bytes).2
        simp only [Transducer.event, SimDecoder.step, WireResponse.error]
        cases hresult : (d.feed bytes).1 with
        | ok => simp
        | error error =>
          rw [hresult] at hsafe
          simpa using hsafe
      | nextFrame => exact fun hnone => (by cases hnone)
    · obtain ⟨result, hrun, _⟩ := hsound.answers hready bytes
      exact Option.isSome_of_eq_some hrun
    · obtain ⟨reply, hreply⟩ := Option.ne_none_iff_exists'.mp hready
      cases hinput
      have hfeed : d.feed bytes = (.error .undrainedFrame, d) :=
        SimDecoder.feed_undrained hreply bytes
      exact ⟨congrArg WireResponse.fed (congrArg Prod.fst hfeed), congrArg Prod.snd hfeed⟩

/-- A reply without a payload, and one whose chunks split its header. -/
example :
    let chunks := [[0, 0, 0, 7, 0, 0, 0, 0], [0, 0], [0, 1, 0, 0, 0, 2, 5], [6]]
    delivered (Transducer.history SimDecoder.step (.new 4) (drives (chunks.map (·, 1)))) =
      [⟨⟨7⟩, []⟩, ⟨⟨1⟩, [5, 6]⟩] := by decide +kernel

end Bornera.Sim
