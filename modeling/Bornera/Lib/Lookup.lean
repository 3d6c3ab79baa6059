import Mathlib.Data.List.Basic
import Mathlib.Tactic

/-!
# The first match of a list

Lists searched for the first entry that satisfies a predicate: the entry with its index, its
removal and its change in place. Every list either has no match or splits around its first one
(`first_match`), and each operation is computed on such a split.
-/

namespace Lib.Lookup

variable {α β : Type}

/-- The first match, with its index. -/
def findIndexed (p : α → Bool) : List α → Option (ℕ × α)
  | [] => none
  | x :: xs => if p x then some (0, x) else (findIndexed p xs).map fun (i, y) => (i + 1, y)

/-- The first match and the list without it. -/
def removeFirst (p : α → Bool) : List α → Option (α × List α)
  | [] => none
  | x :: xs => if p x then some (x, xs) else (removeFirst p xs).map fun (y, ys) => (y, x :: ys)

/-- The list with its first match changed. -/
def modifyFirst (p : α → Bool) (f : α → α) : List α → List α
  | [] => []
  | x :: xs => if p x then f x :: xs else x :: modifyFirst p f xs

/-- A list has no match, or it splits around the first one. -/
theorem first_match (p : α → Bool) (l : List α) :
    (∀ x ∈ l, p x = false) ∨
    ∃ pre x post, l = pre ++ x :: post ∧ (∀ y ∈ pre, p y = false) ∧ p x = true := by
  induction l with
  | nil => exact Or.inl (by simp)
  | cons a l ih =>
    cases ha : p a
    · rcases ih with h | ⟨pre, x, post, rfl, hpre, hx⟩
      · refine Or.inl fun x hx => ?_
        rcases List.mem_cons.mp hx with rfl | hx
        · exact ha
        · exact h x hx
      · refine Or.inr ⟨a :: pre, x, post, rfl, fun y hy => ?_, hx⟩
        rcases List.mem_cons.mp hy with rfl | hy
        · exact ha
        · exact hpre y hy
    · exact Or.inr ⟨[], a, l, rfl, by simp, ha⟩

section NoMatch

variable {p : α → Bool} {l : List α} (h : ∀ x ∈ l, p x = false)
include h

lemma find?_none : l.find? p = none := by
  rw [List.find?_eq_none]
  intro x hx
  simp [h x hx]

lemma removeFirst_none : removeFirst p l = none := by
  induction l with
  | nil => rfl
  | cons a l ih =>
    rw [removeFirst, if_neg (by simp [h a (List.mem_cons_self ..)]),
      ih fun x hx => h x (List.mem_cons_of_mem _ hx)]
    rfl

end NoMatch

section Match

variable {p : α → Bool} {pre post : List α} {x : α} (hpre : ∀ y ∈ pre, p y = false)
  (hx : p x = true)
include hpre hx

lemma find?_mid : (pre ++ x :: post).find? p = some x := by
  rw [List.find?_append, find?_none hpre, List.find?_cons_of_pos hx]
  rfl

lemma findIndexed_mid : findIndexed p (pre ++ x :: post) = some (pre.length, x) := by
  induction pre with
  | nil => rw [List.nil_append, findIndexed, if_pos hx]; rfl
  | cons a pre ih =>
    rw [List.cons_append, findIndexed, if_neg (by simp [hpre a (List.mem_cons_self ..)]),
      ih fun y hy => hpre y (List.mem_cons_of_mem _ hy)]
    rfl

lemma removeFirst_mid : removeFirst p (pre ++ x :: post) = some (x, pre ++ post) := by
  induction pre with
  | nil => rw [List.nil_append, removeFirst, if_pos hx]; rfl
  | cons a pre ih =>
    rw [List.cons_append, removeFirst, if_neg (by simp [hpre a (List.mem_cons_self ..)]),
      ih fun y hy => hpre y (List.mem_cons_of_mem _ hy)]
    rfl

lemma modifyFirst_mid (f : α → α) : modifyFirst p f (pre ++ x :: post) = pre ++ f x :: post := by
  induction pre with
  | nil => rw [List.nil_append, modifyFirst, if_pos hx]; rfl
  | cons a pre ih =>
    rw [List.cons_append, modifyFirst, if_neg (by simp [hpre a (List.mem_cons_self ..)]),
      ih fun y hy => hpre y (List.mem_cons_of_mem _ hy)]
    rfl

end Match

/-- With distinct keys, only one entry of a split has the key of its middle. -/
lemma ne_key_of_nodup [DecidableEq β] {key : α → β} {pre post : List α} {x : α}
    (h : ((pre ++ x :: post).map key).Nodup) :
    (∀ y ∈ pre, key y ≠ key x) ∧ (∀ y ∈ post, key y ≠ key x) := by
  rw [List.map_append, List.map_cons, List.nodup_middle, List.nodup_cons, List.mem_append] at h
  refine ⟨fun y hy heq => h.1 (Or.inl ?_), fun y hy heq => h.1 (Or.inr ?_)⟩
  · exact heq ▸ List.mem_map_of_mem hy
  · exact heq ▸ List.mem_map_of_mem hy

/-- With distinct keys, an entry and the entries with other keys are all there is. -/
lemma perm_cons_filter [DecidableEq β] {key : α → β} {l : List α} {x : α} (h : (l.map key).Nodup)
    (hmem : x ∈ l) :
    l.Perm (x :: l.filter fun y => key y ≠ key x) := by
  obtain ⟨pre, post, rfl⟩ := List.append_of_mem hmem
  obtain ⟨hpre, hpost⟩ := ne_key_of_nodup h
  have hkept : (pre ++ x :: post).filter (fun y => key y ≠ key x) = pre ++ post := by
    rw [List.filter_append, List.filter_cons_of_neg (by simp), ← List.filter_append,
      List.filter_eq_self]
    intro y hy
    rcases List.mem_append.mp hy with hy | hy
    · exact decide_eq_true (hpre y hy)
    · exact decide_eq_true (hpost y hy)
  rw [hkept]
  exact List.perm_middle

/-- In a list without repetitions no two elements come in both orders. -/
lemma sublist_swap {l : List α} (h : l.Nodup) {a b : α} (hab : [a, b].Sublist l)
    (hba : [b, a].Sublist l) :
    False := by
  induction l with
  | nil => simp at hab
  | cons c l ih =>
    obtain ⟨hc, hl⟩ := List.nodup_cons.mp h
    cases hab with
    | cons _ hab =>
      cases hba with
      | cons _ hba => exact ih hl hab hba
      | cons_cons _ hba => exact hc (hab.subset (by simp))
    | cons_cons _ hb =>
      cases hba with
      | cons _ hba => exact hc (hba.subset (by simp))
      | cons_cons _ _ => exact hc (hb.subset (by simp))

/-- Where no two entries match, the removal of the first match is the removal of all matches. -/
lemma removeFirst_unique {p : α → Bool} {l : List α}
    (h : l.Pairwise fun x y => ¬(p x = true ∧ p y = true)) :
    removeFirst p l = (l.find? p).map fun x => (x, l.filter fun y => !p y) := by
  induction l with
  | nil => rfl
  | cons a l ih =>
    obtain ⟨ha, hl⟩ := List.pairwise_cons.mp h
    cases hp : p a with
    | true =>
      have hothers : (l.filter fun y => !p y) = l := by
        rw [List.filter_eq_self]
        intro y hy
        have hno := ha y hy
        simpa [hp] using hno
      rw [removeFirst, if_pos hp, List.find?_cons_of_pos hp,
        List.filter_cons_of_neg (by simp [hp]), hothers]
      rfl
    | false =>
      rw [removeFirst, if_neg (by simp [hp]), List.find?_cons_of_neg (by simp [hp]), ih hl,
        List.filter_cons_of_pos (by simp [hp])]
      cases l.find? p <;> rfl

end Lib.Lookup
