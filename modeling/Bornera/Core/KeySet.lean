import Mathlib.Data.Fintype.Card
import Mathlib.Data.Fintype.EquivFin
import Bornera.Lib.Probing
import Bornera.Lib.Transducer
import Bornera.Core.Basic

/-!
# The set of active match keys

`ActiveKeySet` (`admission/key_set.rs`) is a linear-probing table of match keys, sized once for
the configured number of operations. The table is the library's; this module fixes the hash and
the size of the source and shows that the table always has a free slot: it has twice as many
slots as keys, or so many that all match keys together do not fill it.
-/

namespace Bornera.Core

open Lib Lib.Probing

/-! ### Sizes -/

/-- The smallest power of two not below `n`. -/
def nextPowerOfTwo (n : ℕ) : ℕ := if n ≤ 1 then 1 else 2 ^ (Nat.log2 (n - 1) + 1)

def checkedMul (a b : ℕ) : Option ℕ := if a * b ≤ u64Max then some (a * b) else none

def checkedNextPowerOfTwo (n : ℕ) : Option ℕ :=
  if nextPowerOfTwo n ≤ u64Max then some (nextPowerOfTwo n) else none

lemma le_nextPowerOfTwo (n : ℕ) : n ≤ nextPowerOfTwo n := by
  unfold nextPowerOfTwo
  split
  · omega
  · have := Nat.lt_log2_self (n := n - 1)
    omega

/-! ### The table -/

/-- Membership of the active match keys of one epoch. -/
abbrev ActiveKeySet := Table MatchKey

namespace ActiveKeySet

/-- The slots a set for `maxKeys` keys is given. -/
def tableSize (maxKeys : ℕ) : ℕ :=
  max (((checkedMul maxKeys 2).bind checkedNextPowerOfTwo).getD maxKeys) 1

def new (maxKeys : ℕ) : ActiveKeySet := ⟨List.replicate (tableSize maxKeys) none, 0⟩

/-- The slot a key is looked for first. -/
def home (slots : ℕ) (key : MatchKey) : ℕ := (key.get * 0x9e3779b1).toNat % slots

def contains (s : ActiveKeySet) (key : MatchKey) : Bool := (s.find (home s.slots.length) key).isSome

def insert (s : ActiveKeySet) (key : MatchKey) : ActiveKeySet × Bool :=
  Table.insert (home s.slots.length) s key

def remove (s : ActiveKeySet) (key : MatchKey) : ActiveKeySet × Bool :=
  Table.remove (home s.slots.length) s key

/-! ### A free slot at all times -/

lemma card_matchKey_list {keys : List MatchKey} (h : keys.Nodup) : keys.length ≤ 2 ^ 32 := by
  have hinj : Function.Injective fun k : MatchKey => k.get.toBitVec.toFin := by
    intro a b hab
    cases a; cases b
    simpa [UInt32.toFin_inj] using hab
  have hmap := h.map hinj
  have := hmap.length_le_card
  simpa using this

/-- **The table is never full**: distinct keys, no more than the set was made for, leave a free
slot. When the doubled size does not fit the machine word, the table alone has more slots than
there are match keys. -/
theorem length_lt_tableSize {keys : List MatchKey} {maxKeys : ℕ} (h : keys.Nodup)
    (hle : keys.length ≤ maxKeys) : keys.length < tableSize maxKeys := by
  have hcard := card_matchKey_list h
  unfold tableSize checkedMul checkedNextPowerOfTwo
  have hp := le_nextPowerOfTwo (maxKeys * 2)
  by_cases h1 : maxKeys * 2 ≤ u64Max
  · rw [if_pos h1]
    by_cases h2 : nextPowerOfTwo (maxKeys * 2) ≤ u64Max
    · simp only [Option.bind_some, if_pos h2, Option.getD_some]
      omega
    · simp only [Option.bind_some, if_neg h2, Option.getD_none]
      -- doubling then overflows only from `2 ^ 62` keys on
      have hbig : 2 ^ 62 < maxKeys := by
        by_contra hcon
        apply h2
        have hsmall : nextPowerOfTwo (maxKeys * 2) ≤ 2 ^ 63 := by
          unfold nextPowerOfTwo
          split
          · exact Nat.one_le_two_pow
          · refine Nat.pow_le_pow_right (by omega) ?_
            have : Nat.log2 (maxKeys * 2 - 1) < 63 := by
              rw [Nat.log2_lt (by omega)]
              omega
            omega
        exact hsmall.trans (by unfold u64Max; omega)
      omega
  · rw [if_neg h1]
    simp only [Option.bind_none, Option.getD_none]
    have : u64Max < maxKeys * 2 := by omega
    unfold u64Max at this
    omega

/-! ### The set the table stands for -/

/-- The table holds exactly the keys of a list without repetitions that it was sized for. -/
structure Represents (s : ActiveKeySet) (maxKeys : ℕ) (keys : List MatchKey) : Prop where
  linked : s.Linked (home s.slots.length)
  size : s.slots.length = tableSize maxKeys
  len_eq : s.len = keys.length
  nodup : keys.Nodup
  holds_iff : ∀ k, s.Holds k ↔ k ∈ keys

lemma tableSize_pos (maxKeys : ℕ) : 0 < tableSize maxKeys := by
  unfold tableSize
  omega

theorem represents_new (maxKeys : ℕ) : (new maxKeys).Represents maxKeys [] := by
  have hslot : ∀ p k, (new maxKeys).slot p ≠ some k := by
    intro p k h
    have hlt := Table.slot_lt h
    unfold new Table.slot at h
    simp only [List.getD_eq_getElem?_getD, List.getElem?_replicate] at h
    split at h <;> simp at h
  refine ⟨⟨fun k => ?_, fun p k h => absurd h (hslot p k), fun p _ k h => absurd h (hslot p k), ?_⟩,
    by simp [new], rfl, List.nodup_nil, fun k => ?_⟩
  · exact Nat.mod_lt _ (by simp [new, tableSize_pos])
  · simp [new, List.countP_replicate]
  · simp only [List.not_mem_nil, iff_false]
    rintro ⟨p, hp⟩
    exact hslot p k hp

variable {s : ActiveKeySet} {maxKeys : ℕ} {keys : List MatchKey}

theorem Represents.contains_iff (h : s.Represents maxKeys keys) (key : MatchKey) :
    s.contains key = true ↔ key ∈ keys := by
  unfold contains
  rw [Table.find_isSome_iff h.linked, h.holds_iff]

theorem Represents.insert (h : s.Represents maxKeys keys) {key : MatchKey} (habs : key ∉ keys)
    (hle : keys.length < maxKeys) :
    ∃ s', ActiveKeySet.insert s key = (s', true) ∧ s'.Represents maxKeys (key :: keys) := by
  have hlt : s.len < s.slots.length := by
    rw [h.len_eq, h.size]
    exact length_lt_tableSize h.nodup hle.le
  obtain ⟨s', hins, hlink, hn, hlen, hholds⟩ :=
    Table.insert_absent h.linked (fun hh => habs ((h.holds_iff key).mp hh)) hlt
  refine ⟨s', hins, ⟨by rw [hn]; exact hlink, by rw [hn, h.size], ?_, ?_, fun k => ?_⟩⟩
  · rw [hlen, h.len_eq, List.length_cons]
  · exact List.nodup_cons.mpr ⟨habs, h.nodup⟩
  · rw [hholds, h.holds_iff, List.mem_cons]

theorem Represents.remove {key : MatchKey} (h : s.Represents maxKeys (key :: keys))
    (hle : keys.length < maxKeys) :
    ∃ s', ActiveKeySet.remove s key = (s', true) ∧ s'.Represents maxKeys keys := by
  have hnd := List.nodup_cons.mp h.nodup
  have hlt : s.len < s.slots.length := by
    rw [h.len_eq, h.size]
    exact length_lt_tableSize h.nodup (by simpa using hle)
  obtain ⟨s', hrem, hlink, hn, hlen, hholds⟩ :=
    Table.remove_spec h.linked ((h.holds_iff key).mpr (List.mem_cons_self ..)) hlt
  refine ⟨s', hrem, ⟨by rw [hn]; exact hlink, by rw [hn, h.size], ?_, hnd.2, fun k => ?_⟩⟩
  · rw [hlen, h.len_eq, List.length_cons, Nat.add_sub_cancel]
  · rw [hholds, h.holds_iff, List.mem_cons]
    constructor
    · rintro ⟨rfl | hk, hne⟩
      · exact absurd rfl hne
      · exact hk
    · intro hk
      exact ⟨Or.inr hk, fun heq => hnd.1 (heq ▸ hk)⟩

theorem Represents.perm (h : s.Represents maxKeys keys) {keys' : List MatchKey}
    (hp : keys.Perm keys') :
    s.Represents maxKeys keys' :=
  ⟨h.linked, h.size, by rw [h.len_eq, hp.length_eq], hp.nodup_iff.mp h.nodup,
    fun k => by rw [h.holds_iff, hp.mem_iff]⟩

/-- A key that is there is not inserted again. -/
theorem Represents.insert_mem (h : s.Represents maxKeys keys) {key : MatchKey} (hmem : key ∈ keys) :
    ActiveKeySet.insert s key = (s, false) := by
  obtain ⟨p, hp⟩ := (h.holds_iff key).mpr hmem
  exact Table.insert_of_slot h.linked hp

/-- A key that is not there is not removed. -/
theorem Represents.remove_absent (h : s.Represents maxKeys keys) {key : MatchKey}
    (habs : key ∉ keys) :
    ActiveKeySet.remove s key = (s, false) := by
  have hnone : s.find (home s.slots.length) key = none := by
    rw [← Option.not_isSome_iff_eq_none, Table.find_isSome_iff h.linked, h.holds_iff]
    exact habs
  rw [ActiveKeySet.remove, Table.remove, hnone]

end ActiveKeySet

/-! ### Runs of a set -/

/-- A call of the set. -/
inductive KeyCall where
  | insert (key : MatchKey)
  | remove (key : MatchKey)
  | contains (key : MatchKey)
  deriving DecidableEq, Repr

namespace KeyCall

/-- What the table does on a call. -/
def run (s : ActiveKeySet) : KeyCall → ActiveKeySet × Bool
  | .insert key => s.insert key
  | .remove key => s.remove key
  | .contains key => (s, s.contains key)

/-- What a finite set does on a call. -/
def spec (keys : Finset MatchKey) : KeyCall → Finset MatchKey × Bool
  | .insert key => (Insert.insert key keys, key ∉ keys)
  | .remove key => (keys.erase key, key ∈ keys)
  | .contains key => (keys, key ∈ keys)

/-- On a call, the table does what the set it stands for does. -/
lemma run_spec {s : ActiveKeySet} {maxKeys : ℕ} {keys : Finset MatchKey}
    (h : s.Represents maxKeys keys.toList) (call : KeyCall) (hle : keys.card ≤ maxKeys)
    (hfits : (spec keys call).1.card ≤ maxKeys) :
    (run s call).2 = (spec keys call).2 ∧
      (run s call).1.Represents maxKeys (spec keys call).1.toList := by
  cases call with
  | insert key =>
    by_cases hmem : key ∈ keys
    · have hsame := h.insert_mem (Finset.mem_toList.mpr hmem)
      simp only [run, spec, hsame, hmem, Finset.insert_eq_of_mem, not_true_eq_false, decide_false]
      exact ⟨trivial, h⟩
    · have hlt : keys.toList.length < maxKeys := by
        simp only [spec, Finset.card_insert_of_notMem hmem] at hfits
        rw [Finset.length_toList]
        exact hfits
      obtain ⟨s', hins, hrep⟩ := h.insert (fun hin => hmem (Finset.mem_toList.mp hin)) hlt
      have hperm := (Finset.toList_insert hmem).symm
      simp only [run, spec, hins, hmem, not_false_eq_true, decide_true]
      exact ⟨trivial, hrep.perm hperm⟩
  | remove key =>
    by_cases hmem : key ∈ keys
    · have hperm : keys.toList.Perm (key :: (keys.erase key).toList) := by
        conv_lhs => rw [← Finset.insert_erase hmem]
        exact Finset.toList_insert (Finset.notMem_erase key keys)
      have hlt : (keys.erase key).toList.length < maxKeys := by
        have hlength := hperm.length_eq
        rw [Finset.length_toList, List.length_cons] at hlength
        omega
      obtain ⟨s', hrem, hrep⟩ := (h.perm hperm).remove hlt
      simp only [run, spec, hrem, hmem, decide_true]
      exact ⟨trivial, hrep⟩
    · have hsame := h.remove_absent (fun hin => hmem (Finset.mem_toList.mp hin))
      simp only [run, spec, hsame, hmem, Finset.erase_eq_of_notMem hmem, decide_false]
      exact ⟨trivial, h⟩
  | contains key =>
    refine ⟨?_, h⟩
    have hiff := h.contains_iff key
    rw [Finset.mem_toList] at hiff
    simp only [run, spec]
    by_cases hmem : key ∈ keys
    · rw [hiff.mpr hmem, decide_eq_true hmem]
    · rw [decide_eq_false hmem, Bool.eq_false_iff]
      exact fun hin => hmem (hiff.mp hin)

/-- The table after a list of calls, and the set it stands for. -/
def table (maxKeys : ℕ) (calls : List KeyCall) : ActiveKeySet :=
  Transducer.final run (ActiveKeySet.new maxKeys) calls

def members (calls : List KeyCall) : Finset MatchKey := Transducer.final spec ∅ calls

/-- The answers of the table, and of the set it stands for. -/
def answers (maxKeys : ℕ) (calls : List KeyCall) : List Bool :=
  (Transducer.history run (ActiveKeySet.new maxKeys) calls).map Transducer.Event.output

def specAnswers (calls : List KeyCall) : List Bool :=
  (Transducer.history spec ∅ calls).map Transducer.Event.output

/-- Runs of the table and of the set go together. -/
theorem represents_run (maxKeys : ℕ) (calls : List KeyCall)
    (hfits : ∀ n, (members (calls.take n)).card ≤ maxKeys) :
    answers maxKeys calls = specAnswers calls ∧
      (table maxKeys calls).Represents maxKeys (members calls).toList := by
  induction calls using List.reverseRecOn with
  | nil =>
    refine ⟨rfl, ?_⟩
    have hnone : (members []).toList = [] := Finset.toList_empty
    rw [hnone]
    exact ActiveKeySet.represents_new maxKeys
  | append_singleton calls call ih =>
    have hbefore : ∀ n, (members (calls.take n)).card ≤ maxKeys := by
      intro n
      have hmin := hfits (min n calls.length)
      rw [List.take_append_of_le_length (Nat.min_le_right _ _), ← List.take_eq_take_min] at hmin
      exact hmin
    obtain ⟨hanswers, hrep⟩ := ih hbefore
    have hle : (members calls).card ≤ maxKeys := by
      have hall := hbefore calls.length
      rwa [List.take_length] at hall
    have hafter : (spec (members calls) call).1.card ≤ maxKeys := by
      have hall := hfits (calls ++ [call]).length
      rw [List.take_length, members, Transducer.final_snoc] at hall
      exact hall
    obtain ⟨hanswer, hrep'⟩ := run_spec hrep call hle hafter
    refine ⟨?_, ?_⟩
    · simp only [answers, specAnswers, Transducer.history_snoc, List.map_append] at hanswers ⊢
      rw [hanswers]
      exact congrArg (fun answer => _ ++ [answer]) hanswer
    · rw [members, table, Transducer.final_snoc, Transducer.final_snoc]
      exact hrep'

end KeyCall

/-- The key is found, and the loop that moves the keys after it ends in what the removal leaves. -/
def ActiveKeySet.RemovalEnds (s : ActiveKeySet) (key : MatchKey) : Prop :=
  ∃ index, s.find (home s.slots.length) key = some index ∧
    Table.Relocates (home s.slots.length)
      (({ s.put index none with len := s.len - 1 } : ActiveKeySet).next index)
      { s.put index none with len := s.len - 1 } (s.remove key)

/-- **The table refines a finite set.** As long as there are no more keys than it was made for, the
table answers every insertion, removal and question as the finite set does, counts its members and
finds exactly those, whatever collides and in whatever order keys are removed; and the loop that
moves the keys after a removed one ends. -/
theorem activeKeySet_refines (maxKeys : ℕ) (calls : List KeyCall)
    (hfits : ∀ n, (KeyCall.members (calls.take n)).card ≤ maxKeys) :
    KeyCall.answers maxKeys calls = KeyCall.specAnswers calls ∧
    (KeyCall.table maxKeys calls).len = (KeyCall.members calls).card ∧
    (∀ key, (KeyCall.table maxKeys calls).contains key = true ↔ key ∈ KeyCall.members calls) ∧
    ∀ key ∈ KeyCall.members calls, (KeyCall.table maxKeys calls).RemovalEnds key := by
  obtain ⟨hanswers, hrep⟩ := KeyCall.represents_run maxKeys calls hfits
  refine ⟨hanswers, ?_, fun key => ?_, fun key hmem => ?_⟩
  · rw [hrep.len_eq, Finset.length_toList]
  · rw [hrep.contains_iff, Finset.mem_toList]
  · have hle : (KeyCall.members calls).card ≤ maxKeys := by
      have hall := hfits calls.length
      rwa [List.take_length] at hall
    have hgone := (KeyCall.run_spec hrep (.remove key) hle ((Finset.card_erase_le).trans hle)).1
    simp only [KeyCall.run, KeyCall.spec, hmem, decide_true] at hgone
    have hremoved : (KeyCall.table maxKeys calls).remove key =
        (((KeyCall.table maxKeys calls).remove key).1, true) :=
      Prod.ext rfl hgone
    unfold ActiveKeySet.RemovalEnds
    rw [hremoved]
    exact Table.remove_relocates hremoved

/-- Two keys with one home: the first is removed, and the second is still found. -/
theorem activeKeySet_refines_sample :
    let calls : List KeyCall :=
  [.insert ⟨0⟩, .insert ⟨4⟩, .remove ⟨0⟩, .insert ⟨4⟩, .contains ⟨4⟩, .remove ⟨0⟩]
    KeyCall.answers 2 calls = [true, true, true, false, true, false] ∧
        (KeyCall.table 2 calls).RemovalEnds ⟨4⟩ := by
  have hfits : ∀ n, (KeyCall.members
      (([.insert ⟨0⟩, .insert ⟨4⟩, .remove ⟨0⟩, .insert ⟨4⟩, .contains ⟨4⟩, .remove ⟨0⟩] :
          List KeyCall).take n)).card ≤ 2 := by
    intro n
    rcases Nat.lt_or_ge n 6 with hlt | hge
    · interval_cases n <;> decide +kernel
    · rw [List.take_of_length_le (by simpa using hge)]
      decide +kernel
  have hrefines := activeKeySet_refines 2 _ hfits
  exact ⟨hrefines.1.trans (by decide +kernel), hrefines.2.2.2 ⟨4⟩ (by decide +kernel)⟩

end Bornera.Core
