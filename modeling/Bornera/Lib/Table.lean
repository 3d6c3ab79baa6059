import Mathlib.Tactic

/-!
# Tables with fenced keys

A bounded table that chooses its keys. A key it has issued is never issued again, so a copy of it
that outlives its row names nothing. A row is admitted under an identity of its owner's, and the
table may refuse it. `modify` and `modifyAll` change rows in place.
-/

namespace Lib

/-- A bounded table under keys of its own. `issued` are the keys of the past and the present. -/
class FencedTable (M : Type → Type) (I K : outParam Type) [DecidableEq K] where
  new : {α : Type} → ℕ → M α
  keys : {α : Type} → M α → List K
  get : {α : Type} → M α → K → Option α
  set : {α : Type} → M α → K → α → M α
  enroll : {α : Type} → M α → I → α → Option K × M α
  remove : {α : Type} → M α → K → M α
  capacity : {α : Type} → M α → ℕ
  issued : {α : Type} → M α → K → Prop
  get_new : ∀ {α : Type} (n : ℕ) (k : K), get (new n : M α) k = none
  issued_new : ∀ {α : Type} (n : ℕ) (k : K), ¬issued (new n : M α) k
  capacity_new : ∀ {α : Type} (n : ℕ), capacity (new n : M α) = n
  mem_keys : ∀ {α : Type} (m : M α) (k : K), k ∈ keys m ↔ (get m k).isSome
  nodup_keys : ∀ {α : Type} (m : M α), (keys m).Nodup
  length_le : ∀ {α : Type} (m : M α), (keys m).length ≤ capacity m
  issued_of_get : ∀ {α : Type} (m : M α) (k : K), (get m k).isSome → issued m k
  get_set : ∀ {α : Type} (m : M α) (k : K) (a : α) (x : K),
    get (set m k a) x = if x = k then (get m k).map fun _ => a else get m x
  keys_set : ∀ {α : Type} (m : M α) (k : K) (a : α), keys (set m k a) = keys m
  capacity_set : ∀ {α : Type} (m : M α) (k : K) (a : α), capacity (set m k a) = capacity m
  issued_set : ∀ {α : Type} (m : M α) (k : K) (a : α) (x : K), issued (set m k a) x ↔ issued m x
  enroll_some : ∀ {α : Type} (m m' : M α) (i : I) (a : α) (k : K), enroll m i a = (some k, m') →
    ¬issued m k ∧ (∀ x, get m' x = if x = k then some a else get m x) ∧
      (∀ x, issued m' x ↔ x = k ∨ issued m x) ∧ capacity m' = capacity m
  enroll_none : ∀ {α : Type} (m m' : M α) (i : I) (a : α), enroll m i a = (none, m') → m' = m
  get_remove : ∀ {α : Type} (m : M α) (k x : K), get (remove m k) x = if x = k then
    none else get m x
  issued_remove : ∀ {α : Type} (m : M α) (k x : K), issued (remove m k) x ↔ issued m x
  capacity_remove : ∀ {α : Type} (m : M α) (k : K), capacity (remove m k) = capacity m

namespace FencedTable

variable {M : Type → Type} {I K : Type} [DecidableEq K] [FencedTable M I K] {α : Type}

/-- Changes a row, when it is there. -/
def modify (m : M α) (k : K) (f : α → α) : M α :=
  match get m k with
  | none => m
  | some a => set m k (f a)

/-- Changes the rows of a list of keys. -/
def modifyEach (f : α → α) (m : M α) (ks : List K) : M α := ks.foldl (fun m k => modify m k f) m

/-- Changes every row. -/
def modifyAll (m : M α) (f : α → α) : M α := modifyEach f m (keys m)

lemma get_modify (m : M α) (k : K) (f : α → α) (x : K) :
    get (modify m k f) x = if x = k then (get m k).map f else get m x := by
  unfold modify
  cases h : get m k with
  | none =>
    by_cases hx : x = k
    · rw [if_pos hx, hx]
      exact h
    · rw [if_neg hx]
  | some a =>
    dsimp only
    rw [get_set, h]
    rfl

lemma capacity_modify (m : M α) (k : K) (f : α → α) : capacity (modify m k f) = capacity m := by
  unfold modify
  split
  · rfl
  · exact capacity_set ..

lemma issued_modify (m : M α) (k : K) (f : α → α) (x : K) :
    issued (modify m k f) x ↔ issued m x := by
  unfold modify
  split
  · rfl
  · exact issued_set ..

lemma get_modifyEach (f : α → α) (m : M α) {ks : List K} (h : ks.Nodup) (x : K) :
    get (modifyEach f m ks) x = if x ∈ ks then (get m x).map f else get m x := by
  induction ks generalizing m with
  | nil => rfl
  | cons k ks ih =>
    obtain ⟨hk, hks⟩ := List.nodup_cons.mp h
    change get (modifyEach f (modify m k f) ks) x = _
    rw [ih (modify m k f) hks, get_modify]
    by_cases hx : x = k
    · rw [if_pos hx, if_neg (hx ▸ hk), if_pos (List.mem_cons.mpr (.inl hx)), hx]
    · rw [if_neg hx]
      simp only [List.mem_cons, hx, false_or]

/-- Every row is changed, and no other appears. -/
lemma get_modifyAll (m : M α) (f : α → α) (x : K) : get (modifyAll m f) x = (get m x).map f := by
  unfold modifyAll
  rw [get_modifyEach f m (nodup_keys m)]
  split
  · rfl
  · next h =>
    rw [mem_keys, Bool.not_eq_true, Option.isSome_eq_false_iff, Option.isNone_iff_eq_none] at h
    rw [h]
    rfl

lemma modifyEach_keeps {P : M α → Prop} (f : α → α) (hmodify : ∀ m k, P m → P (modify m k f))
    {m : M α} (h : P m) (ks : List K) :
    P (modifyEach f m ks) := by
  induction ks generalizing m with
  | nil => exact h
  | cons k ks ih => exact ih (hmodify m k h)

lemma capacity_modifyAll (m : M α) (f : α → α) : capacity (modifyAll m f) = capacity m :=
  modifyEach_keeps (P := fun m' => capacity m' = capacity m) f
    (fun m' k h => (capacity_modify m' k f).trans h) rfl _

lemma issued_modifyAll (m : M α) (f : α → α) (x : K) : issued (modifyAll m f) x ↔ issued m x :=
  modifyEach_keeps (P := fun m' => issued m' x ↔ issued m x) f
    (fun m' k h => (issued_modify m' k f x).trans h) Iff.rfl _

end FencedTable
end Lib
