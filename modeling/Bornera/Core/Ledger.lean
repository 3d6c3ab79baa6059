import Bornera.Core.KeySet

/-!
# The reservation ledger

`ReservationLedger` (`admission/ledger.rs`) counts what permits and accepted operations hold.
`Accounts limits l hs` says that the ledger `l` counts exactly the holdings `hs`, within its
limits; one lemma for each operation of the ledger says which holding it adds, changes or drops.
-/

namespace Bornera.Core

/-- Bounded resource accounting behind permits and accepted operations. -/
structure ReservationLedger where
  limits : ConnectionLimits
  operations : ℕ
  permits : ℕ
  retainedBytes : ℕ
  writeFrames : ℕ
  writeRetainedBytes : ℕ
  activeKeys : ActiveKeySet
  nextKey : MatchKey
  poisoned : Bool
  deriving DecidableEq

namespace ReservationLedger

def new (limits : ConnectionLimits) : ReservationLedger where
  limits := limits
  operations := 0
  permits := 0
  retainedBytes := 0
  writeFrames := 0
  writeRetainedBytes := 0
  activeKeys := ActiveKeySet.new limits.maxOperations
  nextKey := limits.matchKeys.first
  poisoned := false

def poison (l : ReservationLedger) : ReservationLedger := { l with poisoned := true }

/-- The first inactive key among `attempts` keys from `candidate` on. -/
def candidateFrom (l : ReservationLedger) : ℕ → MatchKey → Option MatchKey
  | 0, _ => none
  | attempts + 1, candidate =>
    if l.activeKeys.contains candidate then
      l.candidateFrom attempts (l.limits.matchKeys.next candidate)
    else some candidate

def allocateKey (l : ReservationLedger) : Except ReserveError MatchKey × ReservationLedger :=
  match checkedAdd l.activeKeys.len 1 with
  | none => (.error .ownerPoisoned, l.poison)
  | some attempts =>
    match l.candidateFrom attempts l.nextKey with
    | some candidate => (.ok candidate, { l with nextKey := l.limits.matchKeys.next candidate })
    | none => (.error .matchKeyExhausted, l)

def reserve (l : ReservationLedger) (retainedBytes writeRetainedBytes : ℕ) :
    Except ReserveError Reservation × ReservationLedger :=
  if l.poisoned then (.error .ownerPoisoned, l)
  else if l.operations = l.limits.maxOperations then (.error .operationCapacity, l)
  else
    match checkedAdd l.retainedBytes retainedBytes with
    | none => (.error .retainedByteCapacity, l)
    | some nextRetained =>
      if l.limits.maxRetainedBytes < nextRetained then (.error .retainedByteCapacity, l)
      else if l.writeFrames = l.limits.maxWriteFrames then (.error .writeCapacity, l)
      else
        match checkedAdd l.writeRetainedBytes writeRetainedBytes with
        | none => (.error .writeCapacity, l)
        | some nextWrite =>
          if l.limits.maxWriteRetainedBytes < nextWrite then (.error .writeCapacity, l)
          else
            match l.allocateKey with
            | (.error e, l) => (.error e, l)
            | (.ok key, l) =>
              match ActiveKeySet.insert l.activeKeys key with
              | (keys, false) =>
                (.error .ownerPoisoned, { l with activeKeys := keys, poisoned := true })
              | (keys, true) =>
                (.ok ⟨retainedBytes, writeRetainedBytes, key⟩,
                  { l with
                    operations := l.operations + 1
                    permits := l.permits + 1
                    retainedBytes := nextRetained
                    writeFrames := l.writeFrames + 1
                    writeRetainedBytes := nextWrite
                    activeKeys := keys })

def commit (l : ReservationLedger) (reservation : Reservation) (actual : ℕ) :
    ReservationLedger :=
  match checkedSub l.permits 1 with
  | none => l.poison
  | some permits =>
    match checkedSub reservation.writeRetainedBytes actual with
    | none => l.poison
    | some unused =>
      match checkedSub l.writeRetainedBytes unused with
      | none => l.poison
      | some writeRetainedBytes => { l with permits, writeRetainedBytes }

/-- The write half of a release: the frame count and bytes after it. -/
def releasedWrite (l : ReservationLedger) (reservation : Reservation) (writeHeld : Bool) :
    Option (ℕ × ℕ) :=
  if writeHeld then
    match checkedSub l.writeFrames 1,
        checkedSub l.writeRetainedBytes reservation.writeRetainedBytes with
    | some writeFrames, some writeRetainedBytes => some (writeFrames, writeRetainedBytes)
    | _, _ => none
  else some (l.writeFrames, l.writeRetainedBytes)

def releaseAll (l : ReservationLedger) (reservation : Reservation)
    (writeHeld releasePermit : Bool) :
    ReservationLedger :=
  match checkedSub l.operations 1 with
  | none => l.poison
  | some operations =>
    match checkedSub l.retainedBytes reservation.retainedBytes with
    | none => l.poison
    | some retainedBytes =>
      match (if releasePermit then checkedSub l.permits 1 else some l.permits) with
      | none => l.poison
      | some permits =>
        match l.releasedWrite reservation writeHeld with
        | none => l.poison
        | some (writeFrames, writeRetainedBytes) =>
          match ActiveKeySet.remove l.activeKeys reservation.matchKey with
          | (keys, false) => { l with activeKeys := keys, poisoned := true }
          | (keys, true) =>
            { l with
              operations, permits, retainedBytes, writeFrames, writeRetainedBytes,
              activeKeys := keys }

def rollbackPermit (l : ReservationLedger) (reservation : Reservation) : ReservationLedger :=
  l.releaseAll reservation true true

def releaseOperation (l : ReservationLedger) (reservation : Reservation) (writeHeld : Bool) :
    ReservationLedger :=
  l.releaseAll reservation writeHeld false

def releaseWrite (l : ReservationLedger) (writeRetainedBytes : ℕ) : ReservationLedger :=
  match checkedSub l.writeFrames 1 with
  | none => l.poison
  | some writeFrames =>
    match checkedSub l.writeRetainedBytes writeRetainedBytes with
    | none => l.poison
    | some retained => { l with writeFrames, writeRetainedBytes := retained }

end ReservationLedger

/-! ### Holdings -/

/-- What one permit or accepted operation holds. -/
structure Holding where
  reservation : Reservation
  permit : Bool
  writeHeld : Bool

namespace Holding

def key (h : Holding) : MatchKey := h.reservation.matchKey

/-- The write bytes charged for a holding. -/
def writeCharge (h : Holding) : ℕ := if h.writeHeld then h.reservation.writeRetainedBytes else 0

/-- The holding of a permit. -/
def ofPermit (p : OperationPermit) : Holding := ⟨p.reservation, true, true⟩

/-- The holding of a pending record. -/
def ofRecord (r : OperationRecord) : Holding := ⟨r.reservation, false, r.writeHeld⟩

end Holding

/-- **The ledger counts exactly the holdings**, none of its counts passes its limit, and the next
key to be tried lies in the configured range. -/
structure Accounts (limits : ConnectionLimits) (l : ReservationLedger)
    (hs : List Holding) : Prop where
  limits_eq : l.limits = limits
  sound : l.poisoned = false
  operations : l.operations = hs.length
  permits : l.permits = hs.countP Holding.permit
  retained : l.retainedBytes = (hs.map fun h => h.reservation.retainedBytes).sum
  frames : l.writeFrames = hs.countP Holding.writeHeld
  writeRetained : l.writeRetainedBytes = (hs.map Holding.writeCharge).sum
  keys : l.activeKeys.Represents limits.maxOperations (hs.map Holding.key)
  space : ∀ h ∈ hs, limits.matchKeys.Contains h.key
  cursor : limits.matchKeys.Contains l.nextKey
  operations_le : hs.length ≤ limits.maxOperations
  retained_le : l.retainedBytes ≤ limits.maxRetainedBytes
  frames_le : l.writeFrames ≤ limits.maxWriteFrames
  writeRetained_le : l.writeRetainedBytes ≤ limits.maxWriteRetainedBytes

namespace Accounts

variable {limits : ConnectionLimits} {l : ReservationLedger} {hs : List Holding}

theorem new (limits : ConnectionLimits) : Accounts limits (ReservationLedger.new limits) [] where
  limits_eq := rfl
  sound := rfl
  operations := rfl
  permits := rfl
  retained := rfl
  frames := rfl
  writeRetained := rfl
  keys := ActiveKeySet.represents_new _
  space := by simp
  cursor := ⟨UInt32.le_refl _, limits.matchKeys.nonempty⟩
  operations_le := Nat.zero_le _
  retained_le := Nat.zero_le _
  frames_le := Nat.zero_le _
  writeRetained_le := Nat.zero_le _

theorem perm (h : Accounts limits l hs) {hs' : List Holding} (hp : hs.Perm hs') :
    Accounts limits l hs' :=
  { h with
    operations := by rw [h.operations, hp.length_eq]
    permits := by rw [h.permits, hp.countP_eq]
    retained := by rw [h.retained]; exact (hp.map _).sum_eq
    frames := by rw [h.frames, hp.countP_eq]
    writeRetained := by rw [h.writeRetained]; exact (hp.map _).sum_eq
    keys := h.keys.perm (hp.map _)
    space := fun x hx => h.space x (hp.mem_iff.mpr hx)
    operations_le := by rw [← hp.length_eq]; exact h.operations_le }

/-! ### Key allocation -/

theorem contains_next {s : MatchKeySpace} {key : MatchKey} (h : s.Contains key) :
    s.Contains (s.next key) := by
  unfold MatchKeySpace.next
  split
  · exact ⟨UInt32.le_refl _, s.nonempty⟩
  · next hne =>
    obtain ⟨h1, h2⟩ := h
    have hlt : key.get.toNat < s.last.get.toNat := by
      refine lt_of_le_of_ne (UInt32.le_iff_toNat_le.mp h2) fun heq => hne (UInt32.toNat_inj.mp heq)
    have hadd : (key.get + 1).toNat = key.get.toNat + 1 := by
      rw [UInt32.toNat_add]
      have := s.last.get.toNat_lt
      exact Nat.mod_eq_of_lt (by simp; omega)
    constructor
    · rw [UInt32.le_iff_toNat_le, hadd]
      have := UInt32.le_iff_toNat_le.mp h1
      omega
    · rw [UInt32.le_iff_toNat_le, hadd]
      omega

lemma candidateFrom_spec (h : Accounts limits l hs) {attempts : ℕ} {candidate key : MatchKey}
    (hc : limits.matchKeys.Contains candidate)
    (hk : l.candidateFrom attempts candidate = some key) :
    limits.matchKeys.Contains key ∧ key ∉ hs.map Holding.key := by
  induction attempts generalizing candidate with
  | zero => simp [ReservationLedger.candidateFrom] at hk
  | succ attempts ih =>
    rw [ReservationLedger.candidateFrom] at hk
    split at hk
    · exact ih (by rw [h.limits_eq]; exact contains_next hc) hk
    · next hin =>
      cases hk
      exact ⟨hc, fun hmem => hin ((h.keys.contains_iff key).mpr hmem)⟩

lemma keys_len_lt (h : Accounts limits l hs) : l.activeKeys.len + 1 ≤ u64Max := by
  rw [h.keys.len_eq]
  have := ActiveKeySet.card_matchKey_list h.keys.nodup
  unfold u64Max
  omega

/-- The two ends of a key allocation: a fresh key of the range, or nothing changed. -/
theorem allocateKey_cases (h : Accounts limits l hs) :
    (∃ key, l.allocateKey = (.ok key, { l with nextKey := l.limits.matchKeys.next key }) ∧
      limits.matchKeys.Contains key ∧ key ∉ hs.map Holding.key) ∨
    l.allocateKey = (.error .matchKeyExhausted, l) := by
  unfold ReservationLedger.allocateKey checkedAdd
  rw [if_pos h.keys_len_lt]
  simp only
  cases hc : l.candidateFrom (l.activeKeys.len + 1) l.nextKey with
  | none => exact Or.inr rfl
  | some key => exact Or.inl ⟨key, rfl, h.candidateFrom_spec h.cursor hc⟩

/-! ### The operations -/

/-- The two ends of a reservation: a new holding with a fresh key, or an error and nothing
changed. -/
theorem reserve_cases (h : Accounts limits l hs) (r w : ℕ) :
    (∃ res l', l.reserve r w = (.ok res, l') ∧ res.retainedBytes = r ∧ res.writeRetainedBytes = w ∧
      res.matchKey ∉ hs.map Holding.key ∧ Accounts limits l' (⟨res, true, true⟩ :: hs)) ∨
    (∃ e, l.reserve r w = (.error e, l) ∧ e ≠ .ownerPoisoned) := by
  unfold ReservationLedger.reserve
  rw [h.sound]
  simp only [Bool.false_eq_true, if_false]
  split
  · exact Or.inr ⟨_, rfl, by decide⟩
  next hops =>
  cases hr : checkedAdd l.retainedBytes r with
  | none => exact Or.inr ⟨_, rfl, by decide⟩
  | some nextRetained =>
  simp only
  split
  · exact Or.inr ⟨_, rfl, by decide⟩
  next hret =>
  split
  · exact Or.inr ⟨_, rfl, by decide⟩
  next hfr =>
  cases hw : checkedAdd l.writeRetainedBytes w with
  | none => exact Or.inr ⟨_, rfl, by decide⟩
  | some nextWrite =>
  simp only
  split
  · exact Or.inr ⟨_, rfl, by decide⟩
  next hwr =>
  rcases h.allocateKey_cases with ⟨key, hal, hspace, hfresh⟩ | hal
  · rw [hal]
    simp only
    have hlen : hs.length < limits.maxOperations := by
      have h1 := h.operations
      have h2 := h.operations_le
      rw [h.limits_eq] at hops
      omega
    obtain ⟨keys, hins, hrep⟩ := h.keys.insert hfresh (by simpa using hlen)
    rw [hins]
    have hr' : nextRetained = l.retainedBytes + r := by
      unfold checkedAdd at hr; split at hr <;> simp_all
    have hw' : nextWrite = l.writeRetainedBytes + w := by
      unfold checkedAdd at hw; split at hw <;> simp_all
    refine Or.inl ⟨_, _, rfl, rfl, rfl, hfresh, ?_⟩
    have hlim := h.limits_eq
    refine
      { limits_eq := hlim
        sound := h.sound
        operations := by simp [h.operations]
        permits := by simp [h.permits]
        retained := by simp only [List.map_cons, List.sum_cons, hr', h.retained]; omega
        frames := by simp [h.frames]
        writeRetained := by
          simp only [List.map_cons, List.sum_cons, Holding.writeCharge, hw',
            h.writeRetained, if_true]
          omega
        keys := hrep
        space := ?_
        cursor := hlim ▸ contains_next (hlim.symm ▸ hspace)
        operations_le := hlen
        retained_le := by rw [← hlim]; show nextRetained ≤ _; omega
        frames_le := by
          have := h.frames_le
          rw [hlim] at hfr
          show l.writeFrames + 1 ≤ _
          omega
        writeRetained_le := by rw [← hlim]; show nextWrite ≤ _; omega }
    intro x hx
    rcases List.mem_cons.mp hx with rfl | hx
    · exact hspace
    · exact h.space x hx
  · rw [hal]
    exact Or.inr ⟨_, rfl, by decide⟩

lemma checkedSub_of_le {a b : ℕ} (h : b ≤ a) : checkedSub a b = some (a - b) := if_pos h

/-- A commit turns a permit into a pending record and gives back the write bytes the frame does
not use. -/
theorem commit {res : Reservation} {actual : ℕ}
    (h : Accounts limits l (⟨res, true, true⟩ :: hs)) (hle : actual ≤ res.writeRetainedBytes) :
    Accounts limits (l.commit res actual)
      (⟨{ res with writeRetainedBytes := actual }, false, true⟩ :: hs) := by
  have hp := h.permits
  have hw := h.writeRetained
  simp only [List.countP_cons, if_true] at hp
  simp only [List.map_cons, List.sum_cons, Holding.writeCharge, if_true] at hw
  unfold ReservationLedger.commit
  rw [checkedSub_of_le (show 1 ≤ l.permits by omega)]
  simp only
  rw [checkedSub_of_le hle]
  simp only
  rw [checkedSub_of_le (show res.writeRetainedBytes - actual ≤ l.writeRetainedBytes by omega)]
  refine
    { limits_eq := h.limits_eq
      sound := h.sound
      operations := h.operations
      permits := by simp only [List.countP_cons]; simp; omega
      retained := h.retained
      frames := h.frames
      writeRetained := by
        simp only [List.map_cons, List.sum_cons, Holding.writeCharge, if_true]
        omega
      keys := h.keys
      space := ?_
      cursor := h.cursor
      operations_le := h.operations_le
      retained_le := h.retained_le
      frames_le := h.frames_le
      writeRetained_le := by
        have := h.writeRetained_le
        show l.writeRetainedBytes - _ ≤ _
        omega }
  intro x hx
  rcases List.mem_cons.mp hx with rfl | hx
  · show limits.matchKeys.Contains res.matchKey
    exact h.space ⟨res, _, _⟩ (List.mem_cons_self ..)
  · exact h.space x (List.mem_cons_of_mem _ hx)

/-- A release drops the holding it names. -/
theorem releaseAll {x : Holding} (h : Accounts limits l (x :: hs)) :
    Accounts limits (l.releaseAll x.reservation x.writeHeld x.permit) hs := by
  have ho := h.operations
  have hr := h.retained
  have hp := h.permits
  have hf := h.frames
  have hw := h.writeRetained
  simp only [List.length_cons] at ho
  simp only [List.map_cons, List.sum_cons] at hr hw
  simp only [List.countP_cons] at hp hf
  have hole := h.operations_le
  simp only [List.length_cons] at hole
  obtain ⟨keys, hrem, hrep⟩ := ActiveKeySet.Represents.remove
    (show l.activeKeys.Represents limits.maxOperations
      (x.reservation.matchKey :: hs.map Holding.key)
      from h.keys) (by simpa using hole)
  have hpermit : (if x.permit then checkedSub l.permits 1 else some l.permits) =
      some (hs.countP Holding.permit) := by
    cases hx : x.permit
    · simp only [hx, Bool.false_eq_true, if_false] at hp ⊢
      rw [hp, Nat.add_zero]
    · simp only [hx, if_true] at hp ⊢
      rw [checkedSub_of_le (by omega), hp, Nat.add_sub_cancel]
  have hwrite : l.releasedWrite x.reservation x.writeHeld =
      some (hs.countP Holding.writeHeld, (hs.map Holding.writeCharge).sum) := by
    unfold ReservationLedger.releasedWrite
    cases hx : x.writeHeld
    · simp only [hx, Holding.writeCharge, Bool.false_eq_true, if_false] at hf hw ⊢
      rw [hf, hw, Nat.add_zero, Nat.zero_add]
    · simp only [hx, Holding.writeCharge, if_true] at hf hw ⊢
      rw [checkedSub_of_le (by omega), checkedSub_of_le (by omega)]
      simp only [hf, hw, Nat.add_sub_cancel, Nat.add_sub_cancel_left]
  unfold ReservationLedger.releaseAll
  rw [checkedSub_of_le (show 1 ≤ l.operations by omega)]
  simp only
  rw [checkedSub_of_le (show x.reservation.retainedBytes ≤ l.retainedBytes by omega), hpermit]
  simp only [hwrite, hrem]
  have hfl := h.frames_le
  have hwl := h.writeRetained_le
  have hrl := h.retained_le
  exact
    { limits_eq := h.limits_eq
      sound := h.sound
      operations := by simp only; omega
      permits := rfl
      retained := by simp only; omega
      frames := rfl
      writeRetained := rfl
      keys := hrep
      space := fun y hy => h.space y (List.mem_cons_of_mem _ hy)
      cursor := h.cursor
      operations_le := by omega
      retained_le := by simp only; omega
      frames_le := by simp only; omega
      writeRetained_le := by simp only; omega }

/-- A full write gives back the write half of a record. -/
theorem releaseWrite {res : Reservation} (h : Accounts limits l (⟨res, false, true⟩ :: hs)) :
    Accounts limits (l.releaseWrite res.writeRetainedBytes) (⟨res, false, false⟩ :: hs) := by
  have hf := h.frames
  have hw := h.writeRetained
  simp only [List.map_cons, List.sum_cons, Holding.writeCharge, if_true] at hw
  simp only [List.countP_cons, if_true] at hf
  have hfl := h.frames_le
  have hwl := h.writeRetained_le
  unfold ReservationLedger.releaseWrite
  rw [checkedSub_of_le (show 1 ≤ l.writeFrames by omega)]
  simp only
  rw [checkedSub_of_le (show res.writeRetainedBytes ≤ l.writeRetainedBytes by omega)]
  refine
    { limits_eq := h.limits_eq
      sound := h.sound
      operations := h.operations
      permits := h.permits
      retained := h.retained
      frames := by simp only [List.countP_cons]; simp; omega
      writeRetained := by
        simp only [List.map_cons, List.sum_cons, Holding.writeCharge, Bool.false_eq_true, if_false]
        omega
      keys := h.keys
      space := ?_
      cursor := h.cursor
      operations_le := h.operations_le
      retained_le := h.retained_le
      frames_le := by simp only; omega
      writeRetained_le := by simp only; omega }
  intro x hx
  rcases List.mem_cons.mp hx with rfl | hx
  · show limits.matchKeys.Contains res.matchKey
    exact h.space ⟨res, _, _⟩ (List.mem_cons_self ..)
  · exact h.space x (List.mem_cons_of_mem _ hx)

end Accounts
end Bornera.Core
