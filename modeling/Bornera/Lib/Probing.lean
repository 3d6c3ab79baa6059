import Mathlib.Data.List.Basic
import Mathlib.Data.List.Count
import Mathlib.Tactic

/-!
# Linear probing with relocating deletion

A table of a fixed number of slots, a key stored at the first free slot met from its home, and a
deletion that empties one slot and inserts the following keys of its run again.

* `Linked home t` — the invariant: every stored key is reached from its home through occupied
  slots, and is stored once;
* `find_isSome_iff`, `insert_spec`, `remove_spec` — on a table with a free slot the three
  operations are those of a finite set, whatever the homes of the keys.
-/

namespace Lib.Probing

/-- The slots of a table and the number of keys it counts. -/
structure Table (K : Type) where
  slots : List (Option K)
  len : ℕ
  deriving DecidableEq, Repr

namespace Table

variable {K : Type}

/-- The content of one slot; there is nothing outside the table. -/
def slot (t : Table K) (index : ℕ) : Option K := t.slots.getD index none

/-- Writes one slot. -/
def put (t : Table K) (index : ℕ) (content : Option K) : Table K :=
  { t with slots := t.slots.set index content }

/-- The slot after `index`, round the end of the table. -/
def next (t : Table K) (index : ℕ) : ℕ := if index + 1 = t.slots.length then 0 else index + 1

variable [DecidableEq K]

/-- Looks at no more than `fuel` slots from `index` on, up to the first free one. -/
def findFrom (t : Table K) (key : K) : ℕ → ℕ → Option ℕ
  | 0, _ => none
  | fuel + 1, index =>
    match t.slot index with
    | some existing => if existing = key then some index else t.findFrom key fuel (t.next index)
    | none => none

/-- Where `key` is stored. -/
def find (home : K → ℕ) (t : Table K) (key : K) : Option ℕ :=
  t.findFrom key t.slots.length (home key)

/-- Stores `key` at the first free slot among the `fuel` slots from `index` on. -/
def insertFrom (t : Table K) (key : K) : ℕ → ℕ → Table K × Bool
  | 0, _ => (t, false)
  | fuel + 1, index =>
    match t.slot index with
    | some existing => if existing = key then (t, false) else t.insertFrom key fuel (t.next index)
    | none => ({ t.put index (some key) with len := t.len + 1 }, true)

/-- Adds `key`; the flag is false when it was stored already, or the table is full. -/
def insert (home : K → ℕ) (t : Table K) (key : K) : Table K × Bool :=
  t.insertFrom key t.slots.length (home key)

/-- Takes the keys out from `cursor` on, up to the first free slot, and inserts each again. -/
def relocate (home : K → ℕ) : ℕ → ℕ → Table K → Table K × Bool
  | 0, _, t => (t, false)
  | fuel + 1, cursor, t =>
    match t.slot cursor with
    | none => (t, true)
    | some displaced =>
      match ({ t.put cursor none with len := t.len - 1 } : Table K).insert home displaced with
      | (t', true) => relocate home fuel (t'.next cursor) t'
      | (t', false) => (t', false)

/-- Removes `key`; the flag is false when it was not stored. -/
def remove (home : K → ℕ) (t : Table K) (key : K) : Table K × Bool :=
  match t.find home key with
  | none => (t, false)
  | some index =>
    let t := { t.put index none with len := t.len - 1 }
    relocate home t.slots.length (t.next index) t

/-- The loop of a deletion without a bound on its turns, when it ends: it starts at `cursor` and
leaves a table and a flag. -/
inductive Relocates (home : K → ℕ) : ℕ → Table K → Table K × Bool → Prop where
  | done {cursor : ℕ} {t : Table K} (free : t.slot cursor = none) : Relocates home
    cursor t (t, true)
  | moved {cursor : ℕ} {t t' : Table K} {displaced : K} {r : Table K × Bool}
    (taken : t.slot cursor = some displaced)
    (inserted : ({ t.put cursor none with len := t.len - 1 } : Table K).insert home
      displaced = (t', true))
    (rest : Relocates home (t'.next cursor) t' r) : Relocates home cursor t r
  | stuck {cursor : ℕ} {t t' : Table K} {displaced : K} (taken : t.slot cursor = some displaced)
    (inserted : ({ t.put cursor none with len := t.len - 1 } : Table K).insert home displaced =
      (t', false)) :
    Relocates home cursor t (t', false)

/-! ### Slots -/

section
omit [DecidableEq K]

@[simp] lemma put_length (t : Table K) (p : ℕ) (c : Option K) :
    (t.put p c).slots.length = t.slots.length := by
  simp [put]

lemma slot_lt {t : Table K} {p : ℕ} {k : K} (h : t.slot p = some k) : p < t.slots.length := by
  by_contra hp
  simp [slot, List.getD_eq_getElem?_getD, List.getElem?_eq_none (Nat.le_of_not_lt hp)] at h

lemma slot_put {t : Table K} {p : ℕ} (hp : p < t.slots.length) (c : Option K) (q : ℕ) :
    (t.put p c).slot q = if q = p then c else t.slot q := by
  unfold slot put
  rw [List.getD_eq_getElem?_getD, List.getElem?_set, List.getD_eq_getElem?_getD]
  by_cases h : q = p
  · subst h; simp [hp]
  · simp [h, Ne.symm h]

/-- The `len` of a table plays no part in what its slots hold. -/
@[simp] lemma slot_mk (t : Table K) (n p : ℕ) :
    ({ t with len := n } : Table K).slot p = t.slot p := rfl

lemma next_eq {t : Table K} {p : ℕ} (hp : p < t.slots.length) :
    t.next p = (p + 1) % t.slots.length := by
  unfold next
  split
  · next h => rw [h, Nat.mod_self]
  · rw [Nat.mod_eq_of_lt (by omega)]

end

/-! ### The invariant -/

/-- The key is stored in the table. -/
def Holds (t : Table K) (key : K) : Prop := ∃ p, t.slot p = some key

/-- The `d` slots from `a` on, round the table, are occupied. -/
def Run (t : Table K) (a d : ℕ) : Prop := ∀ i < d, t.slot ((a + i) % t.slots.length) ≠ none

/-- The slot `p` is the home of `key`, or is reached from it through occupied slots. -/
def Reached (home : K → ℕ) (t : Table K) (key : K) (p : ℕ) : Prop :=
  ∃ d < t.slots.length, p = (home key + d) % t.slots.length ∧ t.Run (home key) d

/-- The invariant of linear probing, except that the keys stored at the slots of `off` need not
be reached from their homes. -/
structure LinkedOff (home : K → ℕ) (t : Table K) (off : ℕ → Prop) : Prop where
  home_lt : ∀ k, home k < t.slots.length
  reached : ∀ p k, t.slot p = some k → ¬ off p → t.Reached home k p
  once : ∀ p q k, t.slot p = some k → t.slot q = some k → p = q
  len_eq : t.len = t.slots.countP Option.isSome

/-- **The invariant of linear probing**: every stored key is reached from its home. -/
def Linked (home : K → ℕ) (t : Table K) : Prop := t.LinkedOff home fun _ => False

/-! ### Positions round the table -/

/-- The slots from `a` on repeat after one round only. -/
lemma add_mod_inj {n a i j : ℕ} (hi : i < n) (hj : j < n) (h : (a + i) % n = (a + j) % n) :
    i = j := by
  have hm : i ≡ j [MOD n] := Nat.ModEq.add_left_cancel' a h
  exact Nat.ModEq.eq_of_lt_of_lt hm hi hj

lemma add_mod_shift {n a b i : ℕ} (h : (a + i) % n = b % n) (j : ℕ) :
    (a + (i + j)) % n = (b + j) % n := by
  rw [← Nat.add_assoc]
  exact Nat.ModEq.add_right j h

/-- Every slot is met within one round from any other. -/
lemma exists_offset {n : ℕ} (a : ℕ) {p : ℕ} (hp : p < n) : ∃ d < n, p = (a + d) % n := by
  refine ⟨(p + (n - a % n)) % n, Nat.mod_lt _ (by omega), ?_⟩
  have ha : a % n < n := Nat.mod_lt _ (by omega)
  have h : (a + (p + (n - a % n)) % n) % n = (a % n + (p + (n - a % n))) % n := by
    rw [Nat.add_mod, Nat.mod_mod, ← Nat.add_mod, Nat.mod_add_mod]
  rw [h, show a % n + (p + (n - a % n)) = p + n by omega, Nat.add_mod_right, Nat.mod_eq_of_lt hp]

section
omit [DecidableEq K]

/-- From any slot on there is a first free one, when there is a free one at all. -/
lemma exists_first_free {t : Table K} (a : ℕ) {e : ℕ} (he : e < t.slots.length)
    (hfree : t.slot e = none) :
    ∃ d < t.slots.length, t.slot ((a + d) % t.slots.length) = none ∧ t.Run a d := by
  classical
  obtain ⟨d₀, hd₀, rfl⟩ := exists_offset a he
  have hex : ∃ d, t.slot ((a + d) % t.slots.length) = none := ⟨d₀, hfree⟩
  have hle : Nat.find hex ≤ d₀ := Nat.find_min' hex hfree
  exact ⟨Nat.find hex, by omega, Nat.find_spec hex, fun i hi => Nat.find_min hex hi⟩

/-- A table that counts fewer keys than slots has a free slot. -/
lemma exists_free {home : K → ℕ} {off : ℕ → Prop} {t : Table K} (h : t.LinkedOff home off)
    (hlt : t.len < t.slots.length) : ∃ e < t.slots.length, t.slot e = none := by
  rw [h.len_eq] at hlt
  have hex : ∃ c ∈ t.slots, ¬ c.isSome = true := by
    by_contra hall
    push Not at hall
    have := List.countP_eq_length.mpr hall
    omega
  obtain ⟨c, hc, hnone⟩ := hex
  obtain ⟨e, he, hec⟩ := List.mem_iff_getElem.mp hc
  refine ⟨e, he, ?_⟩
  unfold slot
  rw [List.getD_eq_getElem?_getD, List.getElem?_eq_getElem he, hec]
  simpa using hnone

end

/-! ### What a walk does -/

section Walk

variable {t : Table K} {key : K} {a d : ℕ}

omit [DecidableEq K] in
lemma next_walk (hn : 0 < t.slots.length) (i : ℕ) :
    t.next ((a + i) % t.slots.length) = (a + (i + 1)) % t.slots.length := by
  rw [next_eq (Nat.mod_lt _ hn), Nat.mod_add_mod, Nat.add_assoc]

/-- A search goes through occupied slots that hold other keys. -/
lemma findFrom_walk (hn : 0 < t.slots.length)
    (hrun : ∀ i < d, ∃ k, t.slot ((a + i) % t.slots.length) = some k ∧ k ≠ key) (fuel : ℕ) :
    t.findFrom key (d + fuel) (a % t.slots.length) =
      t.findFrom key fuel ((a + d) % t.slots.length) := by
  induction d generalizing fuel with
  | zero => simp
  | succ d ih =>
    obtain ⟨k, hk, hne⟩ := hrun d (by omega)
    rw [show d + 1 + fuel = d + (fuel + 1) by omega, ih (fun i hi => hrun i (by omega))]
    rw [findFrom]
    simp only [hk, hne, if_false, next_walk hn]

/-- An insertion goes through occupied slots that hold other keys. -/
lemma insertFrom_walk (hn : 0 < t.slots.length)
    (hrun : ∀ i < d, ∃ k, t.slot ((a + i) % t.slots.length) = some k ∧ k ≠ key) (fuel : ℕ) :
    t.insertFrom key (d + fuel) (a % t.slots.length) =
      t.insertFrom key fuel ((a + d) % t.slots.length) := by
  induction d generalizing fuel with
  | zero => simp
  | succ d ih =>
    obtain ⟨k, hk, hne⟩ := hrun d (by omega)
    rw [show d + 1 + fuel = d + (fuel + 1) by omega, ih (fun i hi => hrun i (by omega))]
    rw [insertFrom]
    simp only [hk, hne, if_false, next_walk hn]

lemma slot_of_findFrom {fuel p q : ℕ} (h : t.findFrom key fuel p = some q) :
    t.slot q = some key := by
  induction fuel generalizing p with
  | zero => simp [findFrom] at h
  | succ fuel ih =>
    rw [findFrom] at h
    split at h
    · next existing hs =>
      split at h
      · next heq =>
        cases h
        rw [hs, heq]
      · exact ih h
    · cases h

end Walk

variable {home : K → ℕ}

omit [DecidableEq K] in
/-- The keys met on the way to a stored key are other keys. -/
lemma Linked.run_ne {t : Table K} (h : t.Linked home) {key : K} {d : ℕ} (hd : d < t.slots.length)
    (hrun : t.Run (home key) d) (hp : t.slot ((home key + d) % t.slots.length) = some key) :
    ∀ i < d, ∃ k, t.slot ((home key + i) % t.slots.length) = some k ∧ k ≠ key := by
  intro i hi
  obtain ⟨k, hk⟩ := Option.ne_none_iff_exists'.mp (hrun i hi)
  refine ⟨k, hk, ?_⟩
  rintro rfl
  have := add_mod_inj (by omega) hd (h.once _ _ _ hk hp)
  omega

theorem find_of_slot {t : Table K} (h : t.Linked home) {key : K} {p : ℕ}
    (hp : t.slot p = some key) :
    t.find home key = some p := by
  obtain ⟨d, hd, rfl, hrun⟩ := h.reached p key hp id
  unfold find
  have hw := findFrom_walk (by omega) (h.run_ne hd hrun hp) (t.slots.length - d)
  rw [show d + (t.slots.length - d) = t.slots.length by omega,
    Nat.mod_eq_of_lt (h.home_lt key)] at hw
  rw [hw, show t.slots.length - d = (t.slots.length - d - 1) + 1 by omega, findFrom]
  simp [hp]

/-- A stored key is not inserted again. -/
theorem insert_of_slot {t : Table K} (h : t.Linked home) {key : K} {p : ℕ}
    (hp : t.slot p = some key) :
    t.insert home key = (t, false) := by
  obtain ⟨d, hd, rfl, hrun⟩ := h.reached p key hp id
  unfold insert
  have hw := insertFrom_walk (by omega) (h.run_ne hd hrun hp) (t.slots.length - d)
  rw [show d + (t.slots.length - d) = t.slots.length by omega,
    Nat.mod_eq_of_lt (h.home_lt key)] at hw
  rw [hw, show t.slots.length - d = (t.slots.length - d - 1) + 1 by omega, insertFrom]
  simp [hp]

/-- **Search.** A key is found exactly when it is stored. -/
theorem find_isSome_iff {t : Table K} (h : t.Linked home) (key : K) :
    (t.find home key).isSome = true ↔ t.Holds key := by
  constructor
  · intro hf
    obtain ⟨p, hp⟩ := Option.isSome_iff_exists.mp hf
    exact ⟨p, slot_of_findFrom hp⟩
  · rintro ⟨p, hp⟩
    rw [find_of_slot h hp]
    rfl

/-! ### Insertion -/

section
omit [DecidableEq K]

lemma Run.put_some {t : Table K} {a d p : ℕ} (h : t.Run a d) (hp : p < t.slots.length) (k : K) :
    (t.put p (some k)).Run a d := by
  intro i hi
  rw [put_length, slot_put hp]
  split
  · simp
  · exact h i hi

lemma Run.put_none {t : Table K} {a d p : ℕ} (h : t.Run a d) (hp : p < t.slots.length)
    (hfree : ∀ i < d, (a + i) % t.slots.length ≠ p) : (t.put p none).Run a d := by
  intro i hi
  rw [put_length, slot_put hp, if_neg (hfree i hi)]
  exact h i hi

end

/-- What `insert` gives: the key is stored at the first free slot met from its home. -/
structure Inserted (home : K → ℕ) (off : ℕ → Prop) (t t' : Table K) (key : K) (d : ℕ) : Prop where
  linked : t'.LinkedOff home off
  length_eq : t'.slots.length = t.slots.length
  len_eq : t'.len = t.len + 1
  free : t.slot ((home key + d) % t.slots.length) = none
  run : t.Run (home key) d
  slot_eq : ∀ q, t'.slot q = if q = (home key + d) % t.slots.length then some key else t.slot q

/-- **Insertion.** An absent key goes to the first free slot met from its home, and every key
reached before is reached after. -/
theorem insert_spec {off : ℕ → Prop} {t : Table K} (h : t.LinkedOff home off) {key : K}
    (habs : ¬ t.Holds key) {e : ℕ} (he : e < t.slots.length) (hfree : t.slot e = none) :
    ∃ t' d, d < t.slots.length ∧ t.insert home key = (t', true) ∧ Inserted home off t t' key d := by
  obtain ⟨d, hd, hslot, hrun⟩ := exists_first_free (home key) he hfree
  set p := (home key + d) % t.slots.length with hp
  have hlt : p < t.slots.length := Nat.mod_lt _ (by omega)
  have hne : ∀ i < d, ∃ k, t.slot ((home key + i) % t.slots.length) = some k ∧ k ≠ key := by
    intro i hi
    obtain ⟨k, hk⟩ := Option.ne_none_iff_exists'.mp (hrun i hi)
    exact ⟨k, hk, fun hkey => habs ⟨_, hkey ▸ hk⟩⟩
  have hins : t.insert home key = ({ t.put p (some key) with len := t.len + 1 }, true) := by
    unfold insert
    have hw := insertFrom_walk (by omega) hne (t.slots.length - d)
    rw [show d + (t.slots.length - d) = t.slots.length by omega,
      Nat.mod_eq_of_lt (h.home_lt key)] at hw
    rw [hw, show t.slots.length - d = (t.slots.length - d - 1) + 1 by omega, insertFrom, ← hp]
    simp [hslot]
  have hq : ∀ q, ({ t.put p (some key) with len := t.len + 1 } : Table K).slot q =
      if q = p then some key else t.slot q := fun q => slot_put hlt _ q
  refine ⟨_, d, hd, hins, ⟨⟨?_, ?_, ?_, ?_⟩, by simp, rfl, hslot, hrun, hq⟩⟩
  · intro k; simpa using h.home_lt k
  · intro q k hqk hoff
    rw [hq] at hqk
    by_cases hqp : q = p
    · rw [if_pos hqp, Option.some.injEq] at hqk
      subst hqk
      exact ⟨d, by simpa using hd, by simpa [hp] using hqp, hrun.put_some hlt key⟩
    · rw [if_neg hqp] at hqk
      obtain ⟨d', hd', hpos, hrun'⟩ := h.reached q k hqk hoff
      exact ⟨d', by simpa using hd', by simpa using hpos, hrun'.put_some hlt key⟩
  · intro q r k hqk hrk
    rw [hq] at hqk hrk
    by_cases hqp : q = p <;> by_cases hrp : r = p
    · rw [hqp, hrp]
    · rw [if_pos hqp, Option.some.injEq] at hqk
      rw [if_neg hrp, ← hqk] at hrk
      exact absurd ⟨r, hrk⟩ habs
    · rw [if_pos hrp, Option.some.injEq] at hrk
      rw [if_neg hqp, ← hrk] at hqk
      exact absurd ⟨q, hqk⟩ habs
    · rw [if_neg hqp] at hqk
      rw [if_neg hrp] at hrk
      exact h.once q r k hqk hrk
  · have hget : t.slots[p] = none := by
      simpa [slot, List.getD_eq_getElem?_getD, List.getElem?_eq_getElem hlt] using hslot
    show t.len + 1 = (t.slots.set p (some key)).countP Option.isSome
    rw [List.countP_set hlt, hget, h.len_eq]
    simp

omit [DecidableEq K] in
theorem Inserted.holds_iff {off : ℕ → Prop} {t t' : Table K} {key : K} {d : ℕ}
    (h : Inserted home off t t' key d) (x : K) : t'.Holds x ↔ x = key ∨ t.Holds x := by
  constructor
  · rintro ⟨q, hq⟩
    rw [h.slot_eq] at hq
    split at hq
    · exact Or.inl (Option.some.inj hq).symm
    · exact Or.inr ⟨q, hq⟩
  · rintro (rfl | ⟨q, hq⟩)
    · exact ⟨_, by rw [h.slot_eq, if_pos rfl]⟩
    · refine ⟨q, ?_⟩
      rw [h.slot_eq, if_neg, hq]
      rintro rfl
      rw [h.free] at hq
      cases hq

/-- **Insertion of an absent key** into a table with a free slot. -/
theorem insert_absent {t : Table K} (h : t.Linked home) {key : K} (habs : ¬ t.Holds key)
    (hlt : t.len < t.slots.length) :
    ∃ t', t.insert home key = (t', true) ∧ t'.Linked home ∧ t'.slots.length = t.slots.length ∧
      t'.len = t.len + 1 ∧ ∀ x, t'.Holds x ↔ x = key ∨ t.Holds x := by
  obtain ⟨e, he, hfree⟩ := exists_free h hlt
  obtain ⟨t', d, -, hins, hsp⟩ := insert_spec h habs he hfree
  exact ⟨t', hins, hsp.linked, hsp.length_eq, hsp.len_eq, hsp.holds_iff⟩

/-! ### Deletion -/

section
omit [DecidableEq K]

/-- Emptying a slot forgets its key and no other. -/
lemma linkedOff_put_none {off off' : ℕ → Prop} {t : Table K} (h : t.LinkedOff home off) {p : ℕ}
    {k : K} (hk : t.slot p = some k)
    (hoff : ∀ q k', t.slot q = some k' → q ≠ p → ¬ off' q → ∃ d < t.slots.length,
      q = (home k' + d) % t.slots.length ∧ t.Run (home k') d ∧
        ∀ i < d, (home k' + i) % t.slots.length ≠ p) :
    ({ t.put p none with len := t.len - 1 } : Table K).LinkedOff home off' := by
  have hlt := slot_lt hk
  have hq : ∀ q, ({ t.put p none with len := t.len - 1 } : Table K).slot q =
      if q = p then none else t.slot q := fun q => slot_put hlt _ q
  refine ⟨fun k' => by simpa using h.home_lt k', ?_, ?_, ?_⟩
  · intro q k' hqk hn
    rw [hq] at hqk
    by_cases hqp : q = p
    · rw [if_pos hqp] at hqk; cases hqk
    · rw [if_neg hqp] at hqk
      obtain ⟨d, hd, hpos, hrun, hav⟩ := hoff q k' hqk hqp hn
      exact ⟨d, by simpa using hd, by simpa using hpos, hrun.put_none hlt hav⟩
  · intro q r k' hqk hrk
    rw [hq] at hqk hrk
    split at hqk
    · cases hqk
    · split at hrk
      · cases hrk
      · exact h.once q r k' hqk hrk
  · have hget : t.slots[p] = some k := by
      simpa [slot, List.getD_eq_getElem?_getD, List.getElem?_eq_getElem hlt] using hk
    show t.len - 1 = (t.slots.set p none).countP Option.isSome
    rw [List.countP_set hlt, hget, h.len_eq]
    simp

lemma holds_put_none {off : ℕ → Prop} {t : Table K} (h : t.LinkedOff home off) {p : ℕ} {k : K}
    (hk : t.slot p = some k) (x : K) :
    ({ t.put p none with len := t.len - 1 } : Table K).Holds x ↔ t.Holds x ∧ x ≠ k := by
  have hlt := slot_lt hk
  constructor
  · rintro ⟨q, hq⟩
    rw [slot_mk, slot_put hlt] at hq
    split at hq
    · cases hq
    · next hqp =>
      refine ⟨⟨q, hq⟩, ?_⟩
      rintro rfl
      exact hqp (h.once q p x hq hk)
  · rintro ⟨⟨q, hq⟩, hne⟩
    refine ⟨q, ?_⟩
    rw [slot_mk, slot_put hlt, if_neg, hq]
    rintro rfl
    rw [hk, Option.some.injEq] at hq
    exact hne hq.symm

end

/-- The slots from `p₀ + j` to `p₀ + m`, which the loop of a deletion has still to look at. -/
def Ahead (t : Table K) (p₀ m j q : ℕ) : Prop := ∃ i, j ≤ i ∧ i < m ∧ q = (p₀ + i) % t.slots.length

/-- The state of the loop of a deletion at `p₀`, before it looks at slot `p₀ + j`: the slots up to
the free slot `p₀ + m` are occupied, by keys whose way from home does not pass that free slot. -/
structure Relocating (home : K → ℕ) (t : Table K) (p₀ m j : ℕ) : Prop where
  linked : t.LinkedOff home (t.Ahead p₀ m j)
  m_lt : m < t.slots.length
  free : t.slot ((p₀ + m) % t.slots.length) = none
  ahead : ∀ i, j ≤ i → i < m → ∃ k, t.slot ((p₀ + i) % t.slots.length) = some k ∧
    ∃ d < t.slots.length, (p₀ + i) % t.slots.length = (home k + d) % t.slots.length ∧
      ∀ d' < d, (home k + d') % t.slots.length ≠ (p₀ + m) % t.slots.length

omit [DecidableEq K] in
/-- The way to a key that is reached, and is not ahead, does not pass the slot looked at: from
there on it would meet the free slot or end ahead. -/
lemma Relocating.avoid {t : Table K} {p₀ m j : ℕ} (h : Relocating home t p₀ m j) (hj : j < m)
    {q d : ℕ} {k : K} (hq : t.slot q = some k) (hpos : q = (home k + d) % t.slots.length)
    (hrun : t.Run (home k) d) (hah : ¬ t.Ahead p₀ m (j + 1) q) :
    ∀ i < d, (home k + i) % t.slots.length ≠ (p₀ + j) % t.slots.length := by
  intro i hi heq
  by_cases hend : i + (m - j) < d
  · refine hrun _ hend ?_
    rw [add_mod_shift heq, show p₀ + j + (m - j) = p₀ + m by omega]
    exact h.free
  · have hqd : q = (p₀ + j + (d - i)) % t.slots.length := by
      rw [hpos, ← add_mod_shift heq, show i + (d - i) = d by omega]
    rcases Nat.lt_or_ge (d - i) (m - j) with hlt | hge
    · exact hah ⟨j + (d - i), by omega, by omega, by rw [hqd, Nat.add_assoc]⟩
    · rw [hqd, show p₀ + j + (d - i) = p₀ + m by omega, h.free] at hq
      cases hq

/-- One turn of the loop of a deletion. -/
lemma Relocating.step {t : Table K} {p₀ m j : ℕ} (h : Relocating home t p₀ m j) (hj : j < m) :
    ∃ k t', t.slot ((p₀ + j) % t.slots.length) = some k ∧
      ({ t.put ((p₀ + j) % t.slots.length) none with len := t.len - 1 } : Table K).insert home k =
        (t', true) ∧
      Relocating home t' p₀ m (j + 1) ∧ t'.slots.length = t.slots.length ∧ t'.len = t.len ∧
      ∀ x, t'.Holds x ↔ t.Holds x := by
  obtain ⟨k, hk, d, hd, hpos, hav⟩ := h.ahead j le_rfl hj
  set c := (p₀ + j) % t.slots.length with hc
  have hlt := slot_lt hk
  have hlen : 0 < t.len := by
    rw [h.linked.len_eq, List.countP_pos_iff]
    refine ⟨some k, ?_, rfl⟩
    have hget : t.slots[c] = some k := by
      simpa [slot, List.getD_eq_getElem?_getD, List.getElem?_eq_getElem hlt] using hk
    exact hget ▸ List.getElem_mem hlt
  -- the table without the key at the slot looked at
  set t₁ : Table K := { t.put c none with len := t.len - 1 } with ht₁
  have hn₁ : t₁.slots.length = t.slots.length := by simp [t₁]
  have hs₁ : ∀ q, t₁.slot q = if q = c then none else t.slot q := fun q => slot_put hlt _ q
  have hlink₁ : t₁.LinkedOff home (t.Ahead p₀ m (j + 1)) := by
    refine linkedOff_put_none h.linked hk fun q k' hq hqc hah => ?_
    have hnot : ¬ t.Ahead p₀ m j q := by
      rintro ⟨i, hji, him, rfl⟩
      rcases Nat.eq_or_lt_of_le hji with rfl | hlt'
      · exact hqc rfl
      · exact hah ⟨i, hlt', him, rfl⟩
    obtain ⟨d', hd', hpos', hrun'⟩ := h.linked.reached q k' hq hnot
    exact ⟨d', hd', hpos', hrun', h.avoid hj hq hpos' hrun' hah⟩
  have habs : ¬ t₁.Holds k := fun hh => ((holds_put_none h.linked hk k).mp hh).2 rfl
  obtain ⟨t', ds, -, hins, hsp⟩ :=
    insert_spec hlink₁ habs (e := c) (by omega) (by rw [hs₁, if_pos rfl])
  have hn' : t'.slots.length = t.slots.length := by rw [hsp.length_eq, hn₁]
  -- the key goes no further than where it was, so the free slot stays free
  have hds : ds ≤ d := by
    by_contra hcon
    refine hsp.run d (by omega) ?_
    rw [hn₁, ← hpos, hs₁, if_pos rfl]
  have hfree : (home k + ds) % t₁.slots.length ≠ (p₀ + m) % t.slots.length := by
    rw [hn₁]
    rcases Nat.lt_or_eq_of_le hds with hlt' | rfl
    · exact hav ds hlt'
    · rw [← hpos]
      intro heq
      rw [heq, h.free] at hk
      cases hk
  have hcm : (p₀ + m) % t.slots.length ≠ c := by
    intro heq
    rw [← heq, h.free] at hk
    cases hk
  refine ⟨k, t', hk, hins, ⟨?_, by have := h.m_lt; omega, ?_, ?_⟩, hn', ?_, fun x => ?_⟩
  · have : t'.Ahead p₀ m (j + 1) = t.Ahead p₀ m (j + 1) := by unfold Ahead; rw [hn']
    rw [this]
    exact hsp.linked
  · rw [hn', hsp.slot_eq, if_neg (Ne.symm hfree), hs₁, if_neg hcm]
    exact h.free
  · intro i hji him
    obtain ⟨k', hk', d', hd', hpos', hav'⟩ := h.ahead i (by omega) him
    have hne : (p₀ + i) % t.slots.length ≠ c := fun heq => by
      have := add_mod_inj (by have := h.m_lt; omega) (by have := h.m_lt; omega) heq
      omega
    have hslot : t₁.slot ((p₀ + i) % t.slots.length) = some k' := by rw [hs₁, if_neg hne, hk']
    rw [hn']
    refine ⟨k', ?_, d', hd', hpos', hav'⟩
    rw [hsp.slot_eq, if_neg, hslot]
    intro heq
    rw [heq, hsp.free] at hslot
    cases hslot
  · rw [hsp.len_eq]
    show t.len - 1 + 1 = t.len
    omega
  · rw [hsp.holds_iff, holds_put_none h.linked hk]
    constructor
    · rintro (rfl | ⟨hx, -⟩)
      · exact ⟨c, hk⟩
      · exact hx
    · intro hx
      by_cases hxk : x = k
      · exact Or.inl hxk
      · exact Or.inr ⟨hx, hxk⟩

/-- A bounded loop that ends well is the loop without a bound. -/
lemma relocates_of_relocate {fuel cursor : ℕ} {t t' : Table K}
    (h : relocate home fuel cursor t = (t', true)) :
    Relocates home cursor t (t', true) := by
  induction fuel generalizing cursor t with
  | zero => simp [relocate] at h
  | succ fuel ih =>
    rw [relocate] at h
    cases hslot : t.slot cursor with
    | none =>
      rw [hslot] at h
      cases h
      exact .done hslot
    | some displaced =>
      simp only [hslot] at h
      cases hins : ({ t.put cursor none with len := t.len - 1 } : Table K).insert home
          displaced with
      | mk t₁ inserted =>
      rw [hins] at h
      cases inserted with
      | false => simp at h
      | true => exact .moved hslot hins (ih h)

/-- The loop of a deletion ends at the free slot, having moved keys only. -/
theorem relocate_spec {t : Table K} {p₀ m j : ℕ} (h : Relocating home t p₀ m j) (hj : j ≤ m)
    (fuel : ℕ) (hfuel : m - j < fuel) :
    ∃ t', relocate home fuel ((p₀ + j) % t.slots.length) t = (t', true) ∧ t'.Linked home ∧
      t'.slots.length = t.slots.length ∧ t'.len = t.len ∧ ∀ x, t'.Holds x ↔ t.Holds x := by
  induction fuel generalizing t j with
  | zero => omega
  | succ fuel ih =>
    rcases Nat.eq_or_lt_of_le hj with rfl | hlt
    · refine ⟨t, ?_, ⟨h.linked.home_lt, ?_, h.linked.once, h.linked.len_eq⟩, rfl, rfl,
        fun x => Iff.rfl⟩
      · rw [relocate, h.free]
      · intro p k hp _
        refine h.linked.reached p k hp ?_
        rintro ⟨i, hi, hi', -⟩
        omega
    · obtain ⟨k, t', hk, hins, hrel, hn, hlen, hholds⟩ := h.step hlt
      obtain ⟨t'', hloop, hlink, hn'', hlen'', hholds''⟩ := ih hrel hlt (by omega)
      have hpos : 0 < t'.slots.length := by have := h.m_lt; omega
      refine ⟨t'', ?_, hlink, by omega, by omega, fun x => by rw [hholds'', hholds]⟩
      rw [relocate, hk]
      simp only [hins]
      rw [← hn, next_walk hpos]
      exact hloop

/-- **Deletion.** On a table with a free slot the loop ends, exactly the key is gone, and every
other key is still found. -/
theorem remove_spec {t : Table K} (h : t.Linked home) {key : K} (hkey : t.Holds key)
    (hlt : t.len < t.slots.length) :
    ∃ t', t.remove home key = (t', true) ∧ t'.Linked home ∧ t'.slots.length = t.slots.length ∧
      t'.len = t.len - 1 ∧ ∀ x, t'.Holds x ↔ t.Holds x ∧ x ≠ key := by
  obtain ⟨p, hp⟩ := hkey
  have hplt := slot_lt hp
  obtain ⟨e, he, hfree⟩ := exists_free h hlt
  -- the first free slot after the key
  obtain ⟨m, hm, hmfree, hmrun⟩ := exists_first_free (p + 1) he hfree
  have hm1 : m + 1 < t.slots.length := by
    by_contra hcon
    have hmod : (p + 1 + m) % t.slots.length = p := by
      rw [show p + 1 + m = p + t.slots.length by omega, Nat.add_mod_right, Nat.mod_eq_of_lt hplt]
    rw [hmod, hp] at hmfree
    cases hmfree
  have hme : (p + 1 + m) % t.slots.length = (p + (m + 1)) % t.slots.length := by
    rw [show p + 1 + m = p + (m + 1) by omega]
  rw [hme] at hmfree
  have hne : (p + (m + 1)) % t.slots.length ≠ p := by
    intro heq
    rw [heq, hp] at hmfree
    cases hmfree
  set t₁ : Table K := { t.put p none with len := t.len - 1 } with ht₁
  have hn₁ : t₁.slots.length = t.slots.length := by simp [t₁]
  have hs₁ : ∀ q, t₁.slot q = if q = p then none else t.slot q := fun q => slot_put hplt _ q
  have hrel : Relocating home t₁ p (m + 1) 1 := by
    refine ⟨?_, by omega, ?_, ?_⟩
    · refine linkedOff_put_none h hp fun q k hq hqp hah => ?_
      obtain ⟨d, hd, hpos, hrun⟩ := h.reached q k hq id
      refine ⟨d, hd, hpos, hrun, fun i hi heq => ?_⟩
      -- a way through the emptied slot would end ahead, or meet the free slot
      have heq' : (home k + i) % t.slots.length = p % t.slots.length := by
        rw [heq, Nat.mod_eq_of_lt hplt]
      by_cases hend : i + (m + 1) < d
      · refine hrun _ hend ?_
        rw [add_mod_shift heq']
        exact hmfree
      · have hqd : q = (p + (d - i)) % t.slots.length := by
          rw [hpos, ← add_mod_shift heq', show i + (d - i) = d by omega]
        rcases Nat.lt_or_ge (d - i) (m + 1) with hlt' | hge
        · exact hah ⟨d - i, by omega, hlt', by rw [hqd, hn₁]⟩
        · rw [hqd, show d - i = m + 1 by omega, hmfree] at hq
          cases hq
    · rw [hn₁, hs₁, if_neg hne]
      exact hmfree
    · intro i hi1 him
      have hocc := hmrun (i - 1) (by omega)
      rw [show p + 1 + (i - 1) = p + i by omega] at hocc
      obtain ⟨k, hk⟩ := Option.ne_none_iff_exists'.mp hocc
      obtain ⟨d, hd, hpos, hrun⟩ := h.reached _ k hk id
      have hip : (p + i) % t.slots.length ≠ p := by
        intro heq
        have h0 : (p + i) % t.slots.length = (p + 0) % t.slots.length := by
          rw [heq, Nat.add_zero, Nat.mod_eq_of_lt hplt]
        have := add_mod_inj (by omega) (by omega) h0
        omega
      rw [hn₁]
      refine ⟨k, by rw [hs₁, if_neg hip, hk], d, hd, hpos, fun d' hd' heq => ?_⟩
      exact hrun d' hd' (by rw [heq]; exact hmfree)
  obtain ⟨t', hloop, hlink, hn', hlen', hholds⟩ :=
    relocate_spec hrel (by omega) t.slots.length (by omega)
  refine ⟨t', ?_, hlink, by omega, hlen', fun x => by rw [hholds, holds_put_none h hp]⟩
  unfold remove
  rw [find_of_slot h hp]
  simp only
  rw [← ht₁, hn₁, next_eq (by omega)]
  exact hloop

/-- A deletion that succeeds found its key, and its loop ends without a bound on its turns. -/
theorem remove_relocates {t t' : Table K} {key : K} (h : t.remove home key = (t', true)) :
    ∃ index, t.find home key = some index ∧
      Relocates home (({ t.put index none with len := t.len - 1 } : Table K).next index)
        { t.put index none with len := t.len - 1 } (t', true) := by
  unfold remove at h
  cases hfind : t.find home key with
  | none =>
    rw [hfind] at h
    simp at h
  | some index =>
    rw [hfind] at h
    exact ⟨index, rfl, relocates_of_relocate h⟩

end Table
end Lib.Probing
