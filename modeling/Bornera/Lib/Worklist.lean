import Mathlib.Tactic

/-!
# Worklists with flags

A queue of keys, and a flag at each key that says whether it is queued. The queue lists every
flagged key exactly once when each operation changes both.
-/

namespace Lib.Worklist

variable {K : Type} {queue : List K} {flagged flagged' : K → Prop} {k : K}

/-- The queue lists each flagged key once, and no other. -/
structure Lists (queue : List K) (flagged : K → Prop) : Prop where
  nodup : queue.Nodup
  mem_iff : ∀ k, k ∈ queue ↔ flagged k

namespace Lists

lemma congr (h : Lists queue flagged) (hsame : ∀ x, flagged' x ↔ flagged x) :
    Lists queue flagged' :=
  ⟨h.nodup, fun x => (h.mem_iff x).trans (hsame x).symm⟩

/-- A key without a flag is queued last and flagged. -/
lemma push (h : Lists queue flagged) (hk : ¬flagged k)
    (hflag : ∀ x, flagged' x ↔ x = k ∨ flagged x) :
    Lists (queue ++ [k]) flagged' := by
  have hnew : k ∉ queue := fun hmem => hk ((h.mem_iff k).mp hmem)
  refine ⟨?_, fun x => ?_⟩
  · rw [List.nodup_append]
    refine ⟨h.nodup, List.nodup_singleton k, fun a ha b hb => ?_⟩
    rw [List.mem_singleton.mp hb]
    rintro rfl
    exact hnew ha
  · rw [List.mem_append, List.mem_singleton, h.mem_iff, hflag, or_comm]

/-- The front of the queue is taken, and its flag cleared. -/
lemma pop (h : Lists (k :: queue) flagged) (hflag : ∀ x, flagged' x ↔ x ≠ k ∧ flagged x) :
    Lists queue flagged' := by
  obtain ⟨hk, hqueue⟩ := List.nodup_cons.mp h.nodup
  refine ⟨hqueue, fun x => ?_⟩
  rw [hflag, ← h.mem_iff, List.mem_cons]
  refine ⟨fun hx => ⟨fun heq => hk (heq ▸ hx), .inr hx⟩, fun ⟨hne, hx⟩ => hx.resolve_left hne⟩

/-- A key is taken out of the queue, and its flag cleared. -/
lemma drop [DecidableEq K] (h : Lists queue flagged) (hflag : ∀ x, flagged' x ↔ x ≠ k ∧ flagged x) :
    Lists (queue.filter (· ≠ k)) flagged' := by
  refine ⟨h.nodup.filter _, fun x => ?_⟩
  rw [List.mem_filter, h.mem_iff, hflag, and_comm, decide_eq_true_eq]

lemma clear (hflag : ∀ x, ¬flagged x) : Lists ([] : List K) flagged :=
  ⟨List.nodup_nil, fun x => ⟨fun hx => (by cases hx), fun hx => absurd hx (hflag x)⟩⟩

/-- The queue is no longer than what its keys are among. -/
lemma length_le (h : Lists queue flagged) {keys : List K} (hkeys : ∀ x, flagged x → x ∈ keys) :
    queue.length ≤ keys.length := by
  refine (h.nodup.subperm fun x hx => hkeys x ?_).length_le
  exact (h.mem_iff x).mp hx

end Lists
end Lib.Worklist
