import Bornera.Core.Ledger

/-!
# The allocation of match keys

A reservation takes the first inactive key from a cursor that goes round the configured range and
never back (`admission/ledger.rs`, `limits.rs`). The search is bounded by one more than the number
of active keys, which is enough: so many candidates are distinct, or are the whole range. `Keyed` is
what a ledger keeps of its keys under any calls, balanced or not.
-/

namespace Bornera.Core

open Lib

/-! ### The range as a circle -/

namespace MatchKeySpace

variable (s : MatchKeySpace) {key other : MatchKey}

/-- The number of keys of the range. -/
def size : ℕ := s.last.get.toNat - s.first.get.toNat + 1

/-- The place of a key in the range. -/
def place (key : MatchKey) : ℕ := key.get.toNat - s.first.get.toNat

variable {s}

lemma toNat_bounds (h : s.Contains key) :
    s.first.get.toNat ≤ key.get.toNat ∧ key.get.toNat ≤ s.last.get.toNat :=
  ⟨UInt32.le_iff_toNat_le.mp h.1, UInt32.le_iff_toNat_le.mp h.2⟩

lemma place_lt (h : s.Contains key) : s.place key < s.size := by
  have hbounds := toNat_bounds h
  unfold place size
  omega

lemma place_inj (h : s.Contains key) (h' : s.Contains other) (heq : s.place key = s.place other) :
    key = other := by
  have hbounds := toNat_bounds h
  have hbounds' := toNat_bounds h'
  unfold place at heq
  have hnat : key.get.toNat = other.get.toNat := by omega
  exact congrArg MatchKey.mk (UInt32.toNat_inj.mp hnat)

/-- The candidate after a key before the last one is computed without overflow. -/
lemma succ_lt (h : s.Contains key) (hne : key.get ≠ s.last.get) : key.get.toNat + 1 < 2 ^ 32 := by
  have hbounds := toNat_bounds h
  have hlast := s.last.get.toNat_lt
  have hnat : key.get.toNat ≠ s.last.get.toNat := fun heq => hne (UInt32.toNat_inj.mp heq)
  omega

lemma place_next (h : s.Contains key) : s.place (s.next key) = (s.place key + 1) % s.size := by
  have hbounds := toNat_bounds h
  unfold next
  split
  · next heq =>
    have hfull : s.place key + 1 = s.size := by
      unfold place size
      rw [heq]
    rw [hfull, Nat.mod_self]
    simp [place]
  · next hne =>
    have hlt := succ_lt h hne
    have hnat : key.get.toNat ≠ s.last.get.toNat := fun heq => hne (UInt32.toNat_inj.mp heq)
    have hadd : (key.get + 1).toNat = key.get.toNat + 1 := by
      rw [UInt32.toNat_add]
      exact Nat.mod_eq_of_lt (by simpa using hlt)
    have hsmall : s.place key + 1 < s.size := by
      unfold place size
      omega
    rw [Nat.mod_eq_of_lt hsmall]
    unfold place
    rw [hadd]
    omega

lemma contains_iterate (h : s.Contains key) (n : ℕ) : s.Contains (s.next^[n] key) := by
  induction n with
  | zero => exact h
  | succ n ih =>
    rw [Function.iterate_succ_apply']
    exact Accounts.contains_next ih

lemma place_iterate (h : s.Contains key) (n : ℕ) :
    s.place (s.next^[n] key) = (s.place key + n) % s.size := by
  induction n with
  | zero => exact (Nat.mod_eq_of_lt (place_lt h)).symm
  | succ n ih =>
    rw [Function.iterate_succ_apply', place_next (contains_iterate h n), ih, Nat.mod_add_mod,
      Nat.add_assoc]

/-- Every key of the range comes round. -/
lemma exists_iterate (h : s.Contains key) (h' : s.Contains other) :
    ∃ n < s.size, s.next^[n] key = other := by
  have hlt := place_lt h
  have hlt' := place_lt h'
  have hpos : 0 < s.size := by omega
  refine ⟨(s.place other + (s.size - s.place key)) % s.size, Nat.mod_lt _ hpos, ?_⟩
  refine place_inj (contains_iterate h _) h' ?_
  rw [place_iterate h, Nat.add_mod_mod,
    show s.place key + (s.place other + (s.size - s.place key)) = s.place other + s.size by omega,
    Nat.add_mod_right, Nat.mod_eq_of_lt hlt']

/-- A key comes round only after all the others. -/
lemma size_le_of_iterate (h : s.Contains key) {n : ℕ} (hn : 0 < n) (heq : s.next^[n] key = key) :
    s.size ≤ n := by
  have hplace := place_iterate h n
  rw [heq] at hplace
  by_contra hlt
  have hsmall := place_lt h
  rcases Nat.lt_or_ge (s.place key + n) s.size with hin | hout
  · rw [Nat.mod_eq_of_lt hin] at hplace
    omega
  · rw [Nat.mod_eq_sub_mod hout, Nat.mod_eq_of_lt (by omega)] at hplace
    omega

/-- The keys of less than one round are distinct. -/
lemma iterate_nodup (h : s.Contains key) {n : ℕ} (hn : n ≤ s.size) :
    ((List.range n).map fun i => s.next^[i] key).Nodup := by
  refine List.Nodup.map_on ?_ List.nodup_range
  intro i hi j hj heq
  rw [List.mem_range] at hi hj
  by_contra hne
  rcases Nat.lt_or_gt_of_ne hne with hlt | hlt
  · have hback := size_le_of_iterate (contains_iterate h i) (n := j - i) (by omega) (by
      rw [← Function.iterate_add_apply, Nat.sub_add_cancel hlt.le]
      exact heq.symm)
    omega
  · have hback := size_le_of_iterate (contains_iterate h j) (n := i - j) (by omega) (by
      rw [← Function.iterate_add_apply, Nat.sub_add_cancel hlt.le]
      exact heq)
    omega

end MatchKeySpace

/-! ### The search -/

namespace ReservationLedger

variable (l : ReservationLedger)

/-- The candidates the search looks at, up to the first inactive one. -/
def scanFrom : ℕ → MatchKey → List MatchKey
  | 0, _ => []
  | attempts + 1, candidate =>
    candidate :: if l.activeKeys.contains candidate then
      scanFrom attempts (l.limits.matchKeys.next candidate) else []

/-- The keys the cursor passes in one allocation. -/
def scanned : List MatchKey := l.scanFrom (l.activeKeys.len + 1) l.nextKey

/-- The checks of a reservation before it looks for a key. -/
def Admits (retainedBytes writeRetainedBytes : ℕ) : Prop :=
  l.poisoned = false ∧ l.operations ≠ l.limits.maxOperations ∧
    (∃ n, checkedAdd l.retainedBytes retainedBytes = some n ∧ n ≤ l.limits.maxRetainedBytes) ∧
    l.writeFrames ≠ l.limits.maxWriteFrames ∧
    ∃ n, checkedAdd l.writeRetainedBytes writeRetainedBytes = some n ∧
      n ≤ l.limits.maxWriteRetainedBytes

/-- Every key of the range is active. -/
def Exhausted : Prop := ∀ key, l.limits.matchKeys.Contains key → l.activeKeys.contains key = true

variable {l}

lemma candidateFrom_none {attempts : ℕ} {candidate : MatchKey}
    (h : l.candidateFrom attempts candidate = none) :
    ∀ i < attempts, l.activeKeys.contains (l.limits.matchKeys.next^[i] candidate) = true := by
  induction attempts generalizing candidate with
  | zero => exact fun i hi => absurd hi (Nat.not_lt_zero i)
  | succ attempts ih =>
    rw [candidateFrom] at h
    split at h
    · next hactive =>
      intro i hi
      cases i with
      | zero => exact hactive
      | succ i => exact ih h i (Nat.lt_of_succ_lt_succ hi)
    · cases h

/-- A search that succeeds goes forward from its candidate to the first inactive key. -/
lemma candidateFrom_some {attempts : ℕ} {candidate key : MatchKey}
    (h : l.candidateFrom attempts candidate = some key) :
    ∃ n, key = l.limits.matchKeys.next^[n] candidate ∧ l.activeKeys.contains key = false ∧
      l.scanFrom attempts candidate =
        (List.range (n + 1)).map (fun i => l.limits.matchKeys.next^[i] candidate) ∧
      ∀ i < n, l.activeKeys.contains (l.limits.matchKeys.next^[i] candidate) = true := by
  induction attempts generalizing candidate with
  | zero => cases h
  | succ attempts ih =>
    rw [candidateFrom] at h
    split at h
    · next hactive =>
      obtain ⟨n, hkey, hinactive, hscan, hbefore⟩ := ih h
      refine ⟨n + 1, hkey, hinactive, ?_, ?_⟩
      · rw [scanFrom, if_pos hactive, hscan]
        conv_rhs => rw [List.range_succ_eq_map, List.map_cons, List.map_map]
        rfl
      · intro i hi
        cases i with
        | zero => exact hactive
        | succ i => exact hbefore i (Nat.lt_of_succ_lt_succ hi)
    · next hinactive =>
      cases h
      refine ⟨0, rfl, by simpa using hinactive, ?_, fun i hi => absurd hi (Nat.not_lt_zero i)⟩
      rw [scanFrom, if_neg hinactive]
      rfl

end ReservationLedger

/-! ### What a ledger keeps of its keys -/

/-- The table stands for the keys of as many operations as are counted, within the range and the
limit, and the cursor is in the range. -/
structure Keyed (l : ReservationLedger) (keys : List MatchKey) : Prop where
  table : l.activeKeys.Represents l.limits.maxOperations keys
  operations : l.operations = keys.length
  operations_le : keys.length ≤ l.limits.maxOperations
  space : ∀ key ∈ keys, l.limits.matchKeys.Contains key
  cursor : l.limits.matchKeys.Contains l.nextKey

namespace Keyed

variable {l l' : ReservationLedger} {keys : List MatchKey}

lemma new (limits : ConnectionLimits) : Keyed (.new limits) [] :=
  ⟨ActiveKeySet.represents_new _, rfl, Nat.zero_le _, fun _ h => (by cases h), UInt32.le_refl _,
    limits.matchKeys.nonempty⟩

lemma congr (h : Keyed l keys) (hkeys : l'.activeKeys = l.activeKeys)
    (hlimits : l'.limits = l.limits) (hoperations : l'.operations = l.operations)
    (hcursor : l'.nextKey = l.nextKey) : Keyed l' keys :=
  ⟨by rw [hkeys, hlimits]; exact h.table, hoperations.trans h.operations,
    by rw [hlimits]; exact h.operations_le,
    by rw [hlimits]; exact h.space, by rw [hlimits, hcursor]; exact h.cursor⟩

lemma attempts_eq (h : Keyed l keys) : checkedAdd l.activeKeys.len 1 = some (keys.length + 1) := by
  have hcard := ActiveKeySet.card_matchKey_list h.table.nodup
  rw [h.table.len_eq, checkedAdd, if_pos]
  unfold u64Max
  omega

/-- **The search is complete**: it fails only when every key of the range is active. -/
theorem exhausted_of_none (h : Keyed l keys)
    (hnone : l.candidateFrom (keys.length + 1) l.nextKey = none) : l.Exhausted := by
  have hall := ReservationLedger.candidateFrom_none hnone
  have hsize : l.limits.matchKeys.size ≤ keys.length := by
    by_contra hgt
    -- one more distinct candidate than there are active keys
    have hnodup := MatchKeySpace.iterate_nodup h.cursor (n := keys.length + 1) (by omega)
    have hsub : ((List.range (keys.length + 1)).map fun i => l.limits.matchKeys.next^[i] l.nextKey)
        ⊆ keys := by
      intro key hmem
      obtain ⟨i, hi, rfl⟩ := List.mem_map.mp hmem
      exact (h.table.contains_iff _).mp (hall i (List.mem_range.mp hi))
    have hle := (hnodup.subperm hsub).length_le
    simp at hle
  intro key hkey
  obtain ⟨n, hn, rfl⟩ := MatchKeySpace.exists_iterate h.cursor hkey
  exact hall n (by omega)

/-- The two ends of a key allocation. -/
theorem allocateKey_cases (h : Keyed l keys) :
    (∃ n, l.allocateKey = (.ok (l.limits.matchKeys.next^[n] l.nextKey),
        { l with nextKey := l.limits.matchKeys.next^[n + 1] l.nextKey }) ∧
      l.activeKeys.contains (l.limits.matchKeys.next^[n] l.nextKey) = false ∧
      l.scanned = (List.range (n + 1)).map (fun i => l.limits.matchKeys.next^[i] l.nextKey) ∧
      ∀ i < n, l.activeKeys.contains (l.limits.matchKeys.next^[i] l.nextKey) = true) ∨
    l.allocateKey = (.error .matchKeyExhausted, l) ∧ l.Exhausted := by
  unfold ReservationLedger.allocateKey
  rw [h.attempts_eq]
  simp only
  cases hsearch : l.candidateFrom (keys.length + 1) l.nextKey with
  | none => exact .inr ⟨rfl, h.exhausted_of_none hsearch⟩
  | some key =>
    obtain ⟨n, rfl, hinactive, hscan, hbefore⟩ := ReservationLedger.candidateFrom_some hsearch
    refine .inl ⟨n, ?_, hinactive, ?_, hbefore⟩
    · rw [Function.iterate_succ_apply']
    · rw [ReservationLedger.scanned, h.table.len_eq]
      exact hscan

/-- **A reservation within the other limits** fails for want of a key exactly
when all are active. -/
theorem reserve_admitted (h : Keyed l keys) {r w : ℕ} (hadmits : l.Admits r w) :
    (∃ n res l', l.reserve r w = (.ok res, l') ∧
      res.matchKey = l.limits.matchKeys.next^[n] l.nextKey ∧
      l.activeKeys.contains res.matchKey = false ∧
      l.scanned = (List.range (n + 1)).map (fun i => l.limits.matchKeys.next^[i] l.nextKey) ∧
      (∀ i < n, l.activeKeys.contains (l.limits.matchKeys.next^[i] l.nextKey) = true) ∧
      l'.nextKey = l.limits.matchKeys.next^[n + 1] l.nextKey ∧ l'.limits = l.limits ∧
        Keyed l' (res.matchKey :: keys)) ∨
    l.reserve r w = (.error .matchKeyExhausted, l) ∧ l.Exhausted := by
  obtain ⟨hsound, hoperations, ⟨nextRetained, hretained, hretainedLe⟩, hframes, nextWrite, hwrite,
    hwriteLe⟩ := hadmits
  unfold ReservationLedger.reserve
  rw [hsound, if_neg (by simp), if_neg hoperations, hretained]
  simp only
  rw [if_neg (not_lt.mpr hretainedLe), if_neg hframes, hwrite]
  simp only
  rw [if_neg (not_lt.mpr hwriteLe)]
  rcases h.allocateKey_cases with ⟨n, halloc, hinactive, hscan, hbefore⟩ | ⟨halloc, hexhausted⟩
  · have habsent : l.limits.matchKeys.next^[n] l.nextKey ∉ keys := by
      intro hmem
      rw [(h.table.contains_iff _).mpr hmem] at hinactive
      cases hinactive
    have hlt : keys.length < l.limits.maxOperations := by
      refine lt_of_le_of_ne h.operations_le fun heq => hoperations ?_
      rw [h.operations, heq]
    obtain ⟨table, hinsert, hrep⟩ := h.table.insert habsent hlt
    rw [halloc]
    simp only [hinsert]
    refine .inl ⟨n, _, _, rfl, rfl, hinactive, hscan, hbefore, rfl, rfl, hrep, ?_, hlt, ?_, ?_⟩
    · simp [h.operations]
    · intro key hmem
      rcases List.mem_cons.mp hmem with rfl | hmem
      · exact MatchKeySpace.contains_iterate h.cursor n
      · exact h.space key hmem
    · exact MatchKeySpace.contains_iterate h.cursor (n + 1)
  · rw [halloc]
    exact .inr ⟨rfl, hexhausted⟩

/-- A reservation beyond another limit changes nothing. -/
lemma reserve_refused {r w : ℕ} (hadmits : ¬l.Admits r w) :
    ∃ error, l.reserve r w = (.error error, l) ∧ error ≠ .matchKeyExhausted := by
  unfold ReservationLedger.reserve
  split
  · exact ⟨_, rfl, by decide⟩
  next hsound =>
  split
  · exact ⟨_, rfl, by decide⟩
  next hoperations =>
  cases hretained : checkedAdd l.retainedBytes r with
  | none => exact ⟨_, rfl, by decide⟩
  | some nextRetained =>
  simp only
  split
  · exact ⟨_, rfl, by decide⟩
  next hretainedLe =>
  split
  · exact ⟨_, rfl, by decide⟩
  next hframes =>
  cases hwrite : checkedAdd l.writeRetainedBytes w with
  | none => exact ⟨_, rfl, by decide⟩
  | some nextWrite =>
  simp only
  split
  · exact ⟨_, rfl, by decide⟩
  next hwriteLe =>
  refine absurd ?_ hadmits
  exact ⟨by simpa using hsound, hoperations, ⟨nextRetained, hretained, not_lt.mp hretainedLe⟩,
    hframes, nextWrite, hwrite,
    not_lt.mp hwriteLe⟩

/-- A release gives back at most the key it names, and leaves the cursor. -/
lemma releaseAll (h : Keyed l keys) (res : Reservation) (writeHeld releasePermit : Bool) :
    (∃ keys', Keyed (l.releaseAll res writeHeld releasePermit) keys') ∧
      (l.releaseAll res writeHeld releasePermit).nextKey = l.nextKey ∧
      (l.releaseAll res writeHeld releasePermit).limits = l.limits := by
  have hpoison : Keyed l.poison keys := h.congr rfl rfl rfl rfl
  unfold ReservationLedger.releaseAll
  cases hoperations : checkedSub l.operations 1 with
  | none => exact ⟨⟨_, hpoison⟩, rfl, rfl⟩
  | some operations =>
  simp only
  cases checkedSub l.retainedBytes res.retainedBytes with
  | none => exact ⟨⟨_, hpoison⟩, rfl, rfl⟩
  | some retained =>
  simp only
  cases (if releasePermit then checkedSub l.permits 1 else some l.permits) with
  | none => exact ⟨⟨_, hpoison⟩, rfl, rfl⟩
  | some permits =>
  simp only
  cases l.releasedWrite res writeHeld with
  | none => exact ⟨⟨_, hpoison⟩, rfl, rfl⟩
  | some released =>
  obtain ⟨writeFrames, writeRetained⟩ := released
  simp only
  by_cases hmem : res.matchKey ∈ keys
  · obtain ⟨pre, post, rfl⟩ := List.append_of_mem hmem
    have hperm : (pre ++ res.matchKey :: post).Perm (res.matchKey :: (pre ++ post)) :=
      List.perm_middle
    have hlength := hperm.length_eq
    have hle := h.operations_le
    obtain ⟨table, hremove, hrep⟩ :=
      (h.table.perm hperm).remove (by rw [hlength, List.length_cons] at hle; omega)
    rw [hremove]
    refine ⟨⟨pre ++ post, hrep, ?_, ?_, fun key hkey => h.space key ?_, h.cursor⟩, rfl, rfl⟩
    · have hcount := h.operations
      unfold checkedSub at hoperations
      rw [hlength, List.length_cons] at hcount
      split at hoperations <;> cases hoperations
      simp only
      omega
    · rw [hlength, List.length_cons] at hle
      exact (Nat.le_succ _).trans hle
    · exact hperm.mem_iff.mpr (List.mem_cons_of_mem _ hkey)
  · rw [h.table.remove_absent hmem]
    exact ⟨⟨keys, h.congr rfl rfl rfl rfl⟩, rfl, rfl⟩

end Keyed

/-! ### Runs of a ledger -/

/-- A call of the ledger. A release may name any reservation, also one that was never made. -/
inductive LedgerCall where
  | reserve (retainedBytes writeRetainedBytes : ℕ)
  | rollbackPermit (reservation : Reservation)
  | commit (reservation : Reservation) (actual : ℕ)
  | releaseOperation (reservation : Reservation) (writeHeld : Bool)
  | releaseWrite (writeRetainedBytes : ℕ)

/-- The ledger after a call, and the answer of a reservation. -/
def LedgerCall.run (l : ReservationLedger) :
    LedgerCall → ReservationLedger × Option (Except ReserveError Reservation)
  | .reserve retainedBytes writeRetainedBytes =>
    ((l.reserve retainedBytes writeRetainedBytes).2,
      some (l.reserve retainedBytes writeRetainedBytes).1)
  | .rollbackPermit reservation => (l.rollbackPermit reservation, none)
  | .commit reservation actual => (l.commit reservation actual, none)
  | .releaseOperation reservation writeHeld => (l.releaseOperation reservation writeHeld, none)
  | .releaseWrite writeRetainedBytes => (l.releaseWrite writeRetainedBytes, none)

/-- One event of a run. -/
abbrev LedgerEvent : Type :=
  Transducer.Event ReservationLedger LedgerCall (Option (Except ReserveError Reservation))

namespace LedgerEvent

/-- The key an event gives out. -/
def issued (ev : LedgerEvent) : Option MatchKey :=
  match ev.output with
  | some (.ok reservation) => some reservation.matchKey
  | _ => none

/-- The keys the cursor passes in an event. -/
def trail (ev : LedgerEvent) : List MatchKey := if ev.issued.isSome then ev.before.scanned else []

end LedgerEvent

/-- The ledger after a list of calls. -/
def ledgerAfter (limits : ConnectionLimits) (calls : List LedgerCall) : ReservationLedger :=
  Transducer.final LedgerCall.run (.new limits) calls

/-- The events of a list of calls. -/
def ledgerHistory (limits : ConnectionLimits) (calls : List LedgerCall) : List LedgerEvent :=
  Transducer.history LedgerCall.run (.new limits) calls

variable {l : ReservationLedger} {keys : List MatchKey}

/-- The cursor moves over the keys it passes: the last is given out, and the others are active. -/
def Sweeps (ev : LedgerEvent) : Prop :=
  ev.trail = (List.range ev.trail.length).map
    (fun i => ev.before.limits.matchKeys.next^[i] ev.before.nextKey) ∧
    ev.after.nextKey = ev.before.limits.matchKeys.next^[ev.trail.length] ev.before.nextKey ∧
    ev.trail.getLast? = ev.issued ∧
    ∀ key ∈ ev.trail, ev.issued = some key ∨ ev.before.activeKeys.contains key = true

lemma Sweeps.still {ev : LedgerEvent} (hissued : ev.issued = none)
    (hcursor : ev.after.nextKey = ev.before.nextKey) :
    Sweeps ev := by
  have hnil : ev.trail = [] := by simp [LedgerEvent.trail, hissued]
  unfold Sweeps
  rw [hnil]
  exact ⟨rfl, hcursor, hissued.symm, fun _ h => by cases h⟩

/-- **One call** keeps the keys of a ledger, and moves the cursor forward over what it passes. -/
theorem Keyed.step (h : Keyed l keys) (call : LedgerCall) :
    (∃ keys', Keyed (call.run l).1 keys') ∧ (call.run l).1.limits = l.limits ∧
      Sweeps (Transducer.event LedgerCall.run l call) := by
  cases call with
  | reserve r w =>
    by_cases hadmits : l.Admits r w
    · rcases h.reserve_admitted hadmits
        with ⟨n, res, l', hrun, hkey, hinactive, hscan, hbefore, hcursor, hlimits,
        hkeyed⟩ | ⟨hrun, -⟩
      · have htrail : LedgerEvent.trail (Transducer.event LedgerCall.run l (.reserve r w)) =
            l.scanned := by
          simp [LedgerEvent.trail, LedgerEvent.issued, Transducer.event, LedgerCall.run, hrun]
        have hissued : LedgerEvent.issued (Transducer.event LedgerCall.run l (.reserve r w)) =
            some res.matchKey := by
          simp [LedgerEvent.issued, Transducer.event, LedgerCall.run, hrun]
        simp only [LedgerCall.run, hrun]
        refine ⟨⟨_, hkeyed⟩, hlimits, ?_⟩
        unfold Sweeps
        rw [htrail, hissued]
        simp only [Transducer.event, LedgerCall.run, hrun, hscan, List.length_map,
          List.length_range]
        refine ⟨trivial, hcursor, ?_, fun key hmem => ?_⟩
        · rw [List.range_succ, List.map_append, List.map_singleton, List.getLast?_concat, hkey]
        · obtain ⟨i, hi, rfl⟩ := List.mem_map.mp hmem
          rcases Nat.lt_or_ge i n with hlt | hge
          · exact .inr (hbefore i hlt)
          · have hlast : i = n := by
              have := List.mem_range.mp hi
              omega
            rw [hlast, hkey]
            exact .inl rfl
      · have hissued : LedgerEvent.issued
            (Transducer.event LedgerCall.run l (.reserve r w)) = none := by
          simp [LedgerEvent.issued, Transducer.event, LedgerCall.run, hrun]
        refine ⟨?_, ?_, Sweeps.still hissued ?_⟩ <;>
          simp only [Transducer.event, LedgerCall.run, hrun]
        exact ⟨keys, h⟩
    · obtain ⟨error, hrun, -⟩ := Keyed.reserve_refused hadmits
      have hissued : LedgerEvent.issued
          (Transducer.event LedgerCall.run l (.reserve r w)) = none := by
        simp [LedgerEvent.issued, Transducer.event, LedgerCall.run, hrun]
      refine ⟨?_, ?_, Sweeps.still hissued ?_⟩ <;>
        simp only [Transducer.event, LedgerCall.run, hrun]
      exact ⟨keys, h⟩
  | rollbackPermit reservation =>
    obtain ⟨hkeyed, hcursor, hlimits⟩ := h.releaseAll reservation true true
    exact ⟨hkeyed, hlimits, Sweeps.still rfl hcursor⟩
  | releaseOperation reservation writeHeld =>
    obtain ⟨hkeyed, hcursor, hlimits⟩ := h.releaseAll reservation writeHeld false
    exact ⟨hkeyed, hlimits, Sweeps.still rfl hcursor⟩
  | commit reservation actual =>
    have hframe : (l.commit reservation actual).activeKeys = l.activeKeys ∧
      (l.commit reservation actual).limits = l.limits ∧
        (l.commit reservation actual).operations = l.operations ∧
            (l.commit reservation actual).nextKey = l.nextKey := by
      unfold ReservationLedger.commit
      split
      · exact ⟨rfl, rfl, rfl, rfl⟩
      · split
        · exact ⟨rfl, rfl, rfl, rfl⟩
        · split <;> exact ⟨rfl, rfl, rfl, rfl⟩
    exact ⟨⟨keys, h.congr hframe.1 hframe.2.1 hframe.2.2.1 hframe.2.2.2⟩, hframe.2.1,
      Sweeps.still rfl hframe.2.2.2⟩
  | releaseWrite bytes =>
    have hframe : (l.releaseWrite bytes).activeKeys = l.activeKeys ∧
      (l.releaseWrite bytes).limits = l.limits ∧
        (l.releaseWrite bytes).operations = l.operations ∧
            (l.releaseWrite bytes).nextKey = l.nextKey := by
      unfold ReservationLedger.releaseWrite
      split
      · exact ⟨rfl, rfl, rfl, rfl⟩
      · split <;> exact ⟨rfl, rfl, rfl, rfl⟩
    exact ⟨⟨keys, h.congr hframe.1 hframe.2.1 hframe.2.2.1 hframe.2.2.2⟩, hframe.2.1,
      Sweeps.still rfl hframe.2.2.2⟩

/-- **A run** keeps the keys of a ledger, and its cursor goes forward over all it passes. -/
theorem Keyed.run (h : Keyed l keys) (calls : List LedgerCall) :
    (∃ keys', Keyed (Transducer.final LedgerCall.run l calls) keys') ∧
      (Transducer.final LedgerCall.run l calls).limits = l.limits ∧
      (∀ ev ∈ Transducer.history LedgerCall.run l calls, Sweeps ev) ∧
      ∀ trail, trail = (Transducer.history LedgerCall.run l calls).flatMap LedgerEvent.trail →
        trail = (List.range trail.length).map (fun i => l.limits.matchKeys.next^[i] l.nextKey) ∧
        (Transducer.final LedgerCall.run l calls).nextKey =
          l.limits.matchKeys.next^[trail.length] l.nextKey := by
  induction calls generalizing l keys with
  | nil =>
    refine ⟨⟨keys, h⟩, rfl, fun _ hev => (by cases hev), ?_⟩
    rintro trail rfl
    exact ⟨rfl, rfl⟩
  | cons call calls ih =>
    obtain ⟨⟨keys', hkeyed⟩, hlimits, hsweeps⟩ := h.step call
    obtain ⟨hkeyed', hlimits', hevents, htrail⟩ := ih hkeyed
    obtain ⟨hpath, hcursor⟩ := htrail _ rfl
    obtain ⟨hhere, hnext, -⟩ := id hsweeps
    refine ⟨hkeyed', hlimits'.trans hlimits, ?_, ?_⟩
    · exact List.forall_mem_cons.mpr ⟨hsweeps, hevents⟩
    · rintro trail rfl
      simp only [Transducer.history, Transducer.final, List.flatMap_cons, List.length_append]
      generalize (Transducer.history LedgerCall.run (call.run l).1 calls).flatMap
        LedgerEvent.trail = later at hpath hcursor ⊢
      generalize hev : Transducer.event LedgerCall.run l call = ev at hhere hnext ⊢
      have hbefore : ev.before = l := by rw [← hev]; rfl
      have hafter : ev.after = (call.run l).1 := by rw [← hev]; rfl
      rw [hbefore] at hhere hnext
      rw [hafter] at hnext
      rw [hlimits] at hpath hcursor
      rw [hnext] at hpath hcursor
      refine ⟨?_, ?_⟩
      · rw [List.range_add, List.map_append, ← hhere, List.map_map]
        conv_lhs => rw [hpath]
        refine congrArg (LedgerEvent.trail ev ++ ·) (List.map_congr_left fun i _ => ?_)
        simp only [Function.comp_apply]
        rw [← Function.iterate_add_apply, Nat.add_comm]
      · rw [hcursor, ← Function.iterate_add_apply, Nat.add_comm]

/-- What a reservation of the ledger does, whatever was done before. -/
structure Allocates (limits : ConnectionLimits) (l : ReservationLedger) : Prop where
  complete : ∀ r w, l.Admits r w → ((l.reserve r w).1 = .error .matchKeyExhausted ↔ l.Exhausted)
  total : ∀ r w, l.Admits r w → ¬l.Exhausted → ∃ res, (l.reserve r w).1 = .ok res
  fresh : ∀ r w res, (l.reserve r w).1 = .ok res →
    limits.matchKeys.Contains res.matchKey ∧ l.activeKeys.contains res.matchKey = false ∧
      res.matchKey ∈ l.scanned
  inRange : ∀ r w res, (l.reserve r w).1 = .ok res → ∀ key ∈ l.scanned,
    limits.matchKeys.Contains key ∧
      (key.get ≠ limits.matchKeys.last.get → key.get.toNat + 1 < 2 ^ 32)
  unmoved : ∀ r w error, (l.reserve r w).1 = .error error → (l.reserve r w).2.nextKey = l.nextKey

lemma Keyed.allocates (h : Keyed l keys) : Allocates l.limits l := by
  have hcontains : l.Exhausted →
      ∀ n, l.activeKeys.contains (l.limits.matchKeys.next^[n] l.nextKey) = true :=
    fun hexhausted n => hexhausted _ (MatchKeySpace.contains_iterate h.cursor n)
  have hmoved : ∀ r w res, (l.reserve r w).1 = .ok res → l.Admits r w := by
    intro r w res hres
    by_contra hadmits
    obtain ⟨error, hrun, -⟩ := reserve_refused hadmits
    rw [hrun] at hres
    cases hres
  refine ⟨fun r w hadmits => ?_, fun r w hadmits hfree => ?_, fun r w res hres =>
    ?_, fun r w res hres => ?_, fun r w error herror => ?_⟩
  · rcases h.reserve_admitted hadmits
      with ⟨n, res, l', hrun, hkey, hinactive, _⟩ | ⟨hrun, hexhausted⟩
    · refine ⟨fun heq => ?_, fun hexhausted => ?_⟩
      · rw [hrun] at heq
        cases heq
      · rw [hkey, hcontains hexhausted n] at hinactive
        cases hinactive
    · rw [hrun]
      exact ⟨fun _ => hexhausted, fun _ => rfl⟩
  · rcases h.reserve_admitted hadmits with ⟨n, res, l', hrun, _⟩ | ⟨_, hexhausted⟩
    · exact ⟨res, by rw [hrun]⟩
    · exact absurd hexhausted hfree
  · rcases h.reserve_admitted (hmoved r w res hres)
      with ⟨n, res', l', hrun, hkey, hinactive, hscan, _⟩ | ⟨hrun, _⟩
    · rw [hrun] at hres
      cases hres
      refine ⟨?_, hinactive, ?_⟩
      · rw [hkey]
        exact MatchKeySpace.contains_iterate h.cursor n
      · rw [hscan, hkey]
        exact List.mem_map.mpr ⟨n, List.mem_range.mpr (Nat.lt_succ_self n), rfl⟩
    · rw [hrun] at hres
      cases hres
  · rcases h.reserve_admitted (hmoved r w res hres)
      with ⟨n, res', l', hrun, hkey, hinactive, hscan, _⟩ | ⟨hrun, _⟩
    · intro key hmem
      rw [hscan] at hmem
      obtain ⟨i, _, rfl⟩ := List.mem_map.mp hmem
      have hin := MatchKeySpace.contains_iterate h.cursor i
      exact ⟨hin, MatchKeySpace.succ_lt hin⟩
    · rw [hrun] at hres
      cases hres
  · by_cases hadmits : l.Admits r w
    · rcases h.reserve_admitted hadmits with ⟨n, res, l', hrun, _⟩ | ⟨hrun, _⟩
      · rw [hrun] at herror
        cases herror
      · rw [hrun]
    · obtain ⟨error', hrun, -⟩ := reserve_refused hadmits
      rw [hrun]

/-- The last of the keys passed from a cursor on. -/
lemma getLast_range_map {f : ℕ → MatchKey} {trail : List MatchKey} {key : MatchKey}
    (h : trail = (List.range trail.length).map f) (hlast : trail.getLast? = some key) :
    0 < trail.length ∧ key = f (trail.length - 1) := by
  have hne : trail ≠ [] := by
    rintro rfl
    cases hlast
  have hpos : 0 < trail.length := List.length_pos_iff.mpr hne
  refine ⟨hpos, ?_⟩
  rw [List.getLast?_eq_getElem?] at hlast
  rw [h, List.getElem?_map] at hlast
  simp only [List.length_map, List.length_range, List.getElem?_range (Nat.sub_lt hpos Nat.one_pos),
    Option.map_some,
    Option.some.injEq] at hlast
  exact hlast.symm

/-- Between two events that give out one key the cursor passes every other key of the range. -/
lemma Keyed.round (h : Keyed l keys) {call : LedgerCall} {calls : List LedgerCall}
    {key other : MatchKey}
    (hfirst : LedgerEvent.issued (Transducer.event LedgerCall.run l call) = some key)
    {mid : List LedgerEvent} {last : LedgerEvent}
    (hlater : Transducer.history LedgerCall.run (call.run l).1 calls = mid ++ [last])
    (hlast : last.issued = some key) (hother : l.limits.matchKeys.Contains other)
    (hne : other ≠ key) :
    ∃ ev ∈ mid ++ [last], other ∈ ev.trail := by
  obtain ⟨⟨keys', hkeyed⟩, hlimits, hpath, hcursor, hend, _⟩ := h.step call
  obtain ⟨_, _, hsweeps, hrun⟩ := hkeyed.run calls
  obtain ⟨htrail, _⟩ := hrun _ rfl
  rw [hlater] at hsweeps htrail
  rw [hfirst] at hend
  -- the cursor stands right after the key when the first event is over
  obtain ⟨hpos, hkey⟩ := getLast_range_map hpath hend
  have hin : l.limits.matchKeys.Contains key := by
    rw [hkey]
    exact MatchKeySpace.contains_iterate h.cursor _
  have hstart : (call.run l).1.nextKey = l.limits.matchKeys.next key := by
    have hsucc : (call.run l).1.nextKey =
      l.limits.matchKeys.next^[(LedgerEvent.trail (Transducer.event LedgerCall.run l call)).length]
      l.nextKey := hcursor
    rw [hsucc, ← Nat.sub_add_cancel hpos, Function.iterate_succ_apply', hkey]
    rfl
  rw [hlimits, hstart] at htrail
  -- the last event of the round ends at the key again
  obtain ⟨_, _, hlastEnd, _⟩ := hsweeps last (by simp)
  rw [hlast] at hlastEnd
  generalize hall : (mid ++ [last]).flatMap LedgerEvent.trail = trail at htrail
  have hover : trail.getLast? = some key := by
    rw [← hall, List.flatMap_append, List.flatMap_singleton, List.getLast?_append, hlastEnd]
    rfl
  obtain ⟨hpos', hback⟩ := getLast_range_map htrail hover
  have hround : l.limits.matchKeys.next^[trail.length] key = key := by
    rw [← Nat.sub_add_cancel hpos', Function.iterate_succ_apply]
    exact hback.symm
  have hsize := MatchKeySpace.size_le_of_iterate hin hpos' hround
  obtain ⟨m, hm, hplace⟩ := MatchKeySpace.exists_iterate hin hother
  have hmpos : 0 < m := by
    refine Nat.pos_of_ne_zero fun hzero => hne ?_
    rw [← hplace, hzero]
    rfl
  have hmem : other ∈ trail := by
    rw [htrail]
    refine List.mem_map.mpr ⟨m - 1, List.mem_range.mpr (by omega), ?_⟩
    rw [← hplace, ← Function.iterate_succ_apply, Nat.succ_eq_add_one, Nat.sub_add_cancel hmpos]
  rw [← hall] at hmem
  exact List.mem_flatMap.mp hmem

/-- **Key allocation is complete, fresh and maximally spread.** Under any calls of the ledger,
a reservation that the other limits admit fails for want of a key exactly when every key of the
range is active; a key that is given out is inactive and in the range, and so is every
candidate before it, whose successor is computed without overflow; a failed reservation leaves
the cursor; and between two issues of one key every other key of the range was issued, or was
active when the cursor passed it. -/
theorem key_allocation (limits : ConnectionLimits) (calls : List LedgerCall) :
    Allocates limits (ledgerAfter limits calls) ∧
    ∀ pre mid post first last key,
      ledgerHistory limits calls = pre ++ first :: mid ++ last :: post →
      LedgerEvent.issued first = some key → LedgerEvent.issued last = some key →
      ∀ other, limits.matchKeys.Contains other → other ≠ key →
        (∃ ev ∈ mid, LedgerEvent.issued ev = some other) ∨
        ∃ ev ∈ mid ++ [last], ev.issued.isSome = true ∧ other ∈ ev.before.scanned ∧
          ev.before.activeKeys.contains other = true := by
  obtain ⟨⟨keys, hkeyed⟩, hlimits, _⟩ := (Keyed.new limits).run calls
  refine ⟨?_, ?_⟩
  · have hallocates := hkeyed.allocates
    rw [hlimits] at hallocates
    exact hallocates
  · intro pre mid post first last key hhistory hfirst hlast other hother hne
    rw [List.append_assoc, List.cons_append] at hhistory
    obtain ⟨calls₁, call, calls₂, rfl, rfl, rfl⟩ := Transducer.history_split hhistory
    obtain ⟨⟨keys₁, hkeyed₁⟩, hlimits₁, _⟩ := (Keyed.new limits).run calls₁
    -- the events after the first one are a run of their own
    have hrest : Transducer.history LedgerCall.run
      (call.run (Transducer.final LedgerCall.run (.new limits) calls₁)).1 calls₂ =
        mid ++ last :: post := by
      rw [ledgerHistory, Transducer.history_append] at hhistory
      exact (List.cons.inj (List.append_cancel_left hhistory)).2
    obtain ⟨calls₃, call₃, calls₄, rfl, hmid, hlastEq⟩ := Transducer.history_split hrest
    have hlater : Transducer.history LedgerCall.run
      (call.run (Transducer.final LedgerCall.run (.new limits) calls₁)).1
        (calls₃ ++ [call₃]) = mid ++ [last] := by
      rw [Transducer.history_snoc, ← hmid, ← hlastEq]
    have hother₁ : (Transducer.final LedgerCall.run (.new limits)
        calls₁).limits.matchKeys.Contains other := by
      rw [hlimits₁]
      exact hother
    obtain ⟨ev, hmem, hpassed⟩ := hkeyed₁.round hfirst hlater hlast hother₁ hne
    have hsweeps : Sweeps ev := by
      obtain ⟨⟨keys₂, hkeyed₂⟩, _, _⟩ := hkeyed₁.step call
      refine (hkeyed₂.run (calls₃ ++ [call₃])).2.2.1 ev ?_
      rw [hlater]
      exact hmem
    have hissued : ev.issued.isSome = true := by
      by_contra hnone
      rw [LedgerEvent.trail, if_neg hnone] at hpassed
      cases hpassed
    rcases hsweeps.2.2.2 other hpassed with hhere | hactive
    · rcases List.mem_append.mp hmem with hmid' | hlast'
      · exact .inl ⟨ev, hmid', hhere⟩
      · rw [List.mem_singleton.mp hlast', hlast] at hhere
        exact absurd (Option.some.inj hhere).symm hne
    · rw [LedgerEvent.trail, if_pos hissued] at hpassed
      exact .inr ⟨ev, hmem, hissued, hpassed, hactive⟩

end Bornera.Core
