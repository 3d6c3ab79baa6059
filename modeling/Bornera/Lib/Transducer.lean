import Mathlib.Data.List.Basic
import Mathlib.Tactic

/-!
# Histories of a deterministic system

A system that takes an input, changes its state and gives an output. `final` is the state after a
list of inputs and `history` the list of its events, each with the state before it. A property of
a history and the state it ends in is proved by `history_induction`, from what one step does.
-/

namespace Lib.Transducer

variable {σ ι ω : Type}

/-- One step of a run: the state before it, the input, the output and the state after it. -/
structure Event (σ ι ω : Type) where
  before : σ
  input : ι
  output : ω
  after : σ

/-- The event of one step. -/
def event (step : σ → ι → σ × ω) (s : σ) (i : ι) : Event σ ι ω := ⟨s, i, (step s i).2, (step s i).1⟩

/-- The state after a list of inputs. -/
def final (step : σ → ι → σ × ω) : σ → List ι → σ
  | s, [] => s
  | s, i :: is => final step (step s i).1 is

/-- The events of a list of inputs, the first one first. -/
def history (step : σ → ι → σ × ω) : σ → List ι → List (Event σ ι ω)
  | _, [] => []
  | s, i :: is => event step s i :: history step (step s i).1 is

variable {step : σ → ι → σ × ω}

lemma final_snoc (s : σ) (is : List ι) (i : ι) :
    final step s (is ++ [i]) = (step (final step s is) i).1 := by
  induction is generalizing s with
  | nil => rfl
  | cons j is ih => exact ih _

lemma final_append (s : σ) (is js : List ι) :
    final step s (is ++ js) = final step (final step s is) js := by
  induction is generalizing s with
  | nil => rfl
  | cons i is ih => exact ih _

lemma history_inputs (s : σ) (is : List ι) : (history step s is).map Event.input = is := by
  induction is generalizing s with
  | nil => rfl
  | cons i is ih => simp [history, event, ih]

lemma history_append (s : σ) (is js : List ι) :
    history step s (is ++ js) = history step s is ++ history step (final step s is) js := by
  induction is generalizing s with
  | nil => rfl
  | cons i is ih => simp [history, final, ih]

lemma history_snoc (s : σ) (is : List ι) (i : ι) :
    history step s (is ++ [i]) = history step s is ++ [event step (final step s is) i] := by
  rw [history_append]
  rfl

/-- **The invariant rule.** What holds of the empty history and is kept by every step holds of
every history and the state it ends in. -/
theorem history_induction {P : List (Event σ ι ω) → σ → Prop} {s₀ : σ} (h₀ : P [] s₀)
    (hstep : ∀ h s i, P h s → P (h ++ [event step s i]) (step s i).1) :
    ∀ is, P (history step s₀ is) (final step s₀ is) := by
  intro is
  induction is using List.reverseRecOn with
  | nil => exact h₀
  | append_singleton is i ih =>
    rw [history_snoc, final_snoc]
    exact hstep _ _ _ ih

/-- An event seen through a view of the states. -/
def Event.map {τ : Type} (π : σ → τ) (e : Event σ ι ω) : Event τ ι ω :=
  ⟨π e.before, e.input, e.output, π e.after⟩

/-- A system that mirrors another has its histories. -/
theorem history_map {τ : Type} {π : σ → τ} {step' : τ → ι → τ × ω}
    (h : ∀ s i, step' (π s) i = (π (step s i).1, (step s i).2)) (s : σ)
    (is : List ι) : history step' (π s) is = (history step s is).map (Event.map π) := by
  induction is generalizing s with
  | nil => rfl
  | cons i is ih =>
    simp only [history, event, List.map_cons, h, ih]
    rfl

/-- Every event of a history is one step from the state its predecessors end in. -/
theorem history_split {s₀ : σ} {is : List ι} {pre post : List (Event σ ι ω)} {e : Event σ ι ω}
    (h : history step s₀ is = pre ++ e :: post) :
    ∃ is₁ i is₂, is = is₁ ++ i :: is₂ ∧ pre = history step s₀ is₁ ∧
      e = event step (final step s₀ is₁) i := by
  induction pre generalizing s₀ is with
  | nil =>
    cases is with
    | nil => simp [history] at h
    | cons i is =>
      simp only [history, List.nil_append, List.cons.injEq] at h
      exact ⟨[], i, is, rfl, rfl, h.1.symm⟩
  | cons e' pre ih =>
    cases is with
    | nil => simp [history] at h
    | cons i is =>
      simp only [history, List.cons_append, List.cons.injEq] at h
      obtain ⟨is₁, j, is₂, rfl, rfl, rfl⟩ := ih h.2
      exact ⟨i :: is₁, j, is₂, rfl, by rw [← h.1]; rfl, rfl⟩

end Lib.Transducer
