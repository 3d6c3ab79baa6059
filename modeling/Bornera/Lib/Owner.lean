import Mathlib.Tactic

/-!
# An owner that may fail

A computation that changes a state and may fail, where a failure keeps what was changed before
it: the shape of a method on a mutable receiver that returns a result. `Owner ε σ` is its monad.
-/

namespace Lib

/-- Computations on a state `σ` that may fail with an `ε`; the state survives a failure. -/
def Owner (ε σ α : Type) : Type := σ → Except ε α × σ

namespace Owner

variable {ε σ τ α β : Type}

instance : Monad (Owner ε σ) where
  pure a := fun s => (.ok a, s)
  bind m f := fun s =>
    match m s with
    | (.ok a, s') => f a s'
    | (.error e, s') => (.error e, s')

/-- Stops with a failure. -/
def fail (e : ε) : Owner ε σ α := fun s => (.error e, s)

/-- Reads the state. -/
def read : Owner ε σ σ := fun s => (.ok s, s)

/-- Reads a part of the state. -/
def reads (f : σ → α) : Owner ε σ α := fun s => (.ok (f s), s)

/-- Changes the state. -/
def change (f : σ → σ) : Owner ε σ Unit := fun s => (.ok (), f s)

/-- Changes the state and returns a value. -/
def update (f : σ → α × σ) : Owner ε σ α := fun s => (.ok (f s).1, (f s).2)

/-- The result of `m`, kept as a value. -/
def attempt (m : Owner ε σ α) : Owner ε σ (Except ε α) := fun s => (.ok (m s).1, (m s).2)

/-- A result computed before. -/
def settle : Except ε α → Owner ε σ α
  | .ok a => pure a
  | .error e => fail e

/-- One of two answers, the second asked only after a no. -/
def either (a b : Owner ε σ Bool) : Owner ε σ Bool := do
  if ← a then pure true else b

/-- Both of two answers, the second asked only after a yes. -/
def both (a b : Owner ε σ Bool) : Owner ε σ Bool := do
  if ← a then b else pure false

/-- A computation on the first part of a pair. -/
def onFst (m : Owner ε σ α) : Owner ε (σ × τ) α := fun s => ((m s.1).1, (m s.1).2, s.2)

/-- A question to the second part of a pair, which may change it. -/
def ask (f : τ → α × τ) : Owner ε (σ × τ) α := fun s => (.ok (f s.2).1, s.1, (f s.2).2)

/-! ### Evaluation -/

@[simp] lemma pure_run (a : α) (s : σ) : (pure a : Owner ε σ α) s = (.ok a, s) := rfl
@[simp] lemma fail_run (e : ε) (s : σ) : (fail e : Owner ε σ α) s = (.error e, s) := rfl
@[simp] lemma read_run (s : σ) : (read : Owner ε σ σ) s = (.ok s, s) := rfl
@[simp] lemma reads_run (f : σ → α) (s : σ) : (reads f : Owner ε σ α) s = (.ok (f s), s) := rfl
@[simp] lemma change_run (f : σ → σ) (s : σ) : (change f : Owner ε σ Unit) s = (.ok (), f s) := rfl
@[simp] lemma update_run (f : σ → α × σ) (s : σ) :
    (update f : Owner ε σ α) s = (.ok (f s).1, (f s).2) := rfl
@[simp] lemma attempt_run (m : Owner ε σ α) (s : σ) : m.attempt s = (.ok (m s).1, (m s).2) := rfl
@[simp] lemma settle_ok (a : α) : (settle (.ok a) : Owner ε σ α) = pure a := rfl
@[simp] lemma settle_error (e : ε) : (settle (.error e) : Owner ε σ α) = fail e := rfl

lemma bind_run (m : Owner ε σ α) (f : α → Owner ε σ β) (s : σ) :
    (m >>= f) s = match m s with
      | (.ok a, s') => f a s'
      | (.error e, s') => (.error e, s') := rfl

/-- A bind after a success goes on from the state left behind. -/
lemma bind_ok {m : Owner ε σ α} {a : α} {s s' : σ} (h : m s = (.ok a, s')) (f : α → Owner ε σ β) :
    (m >>= f) s = f a s' := by
  rw [bind_run, h]

/-- A bind after a failure is that failure. -/
lemma bind_error {m : Owner ε σ α} {e : ε} {s s' : σ} (h : m s = (.error e, s'))
    (f : α → Owner ε σ β) : (m >>= f) s = (.error e, s') := by
  rw [bind_run, h]

/-- A bind that succeeds has a success before it. -/
lemma ok_of_bind {m : Owner ε σ α} {f : α → Owner ε σ β} {b : β} {s s' : σ}
    (h : (m >>= f) s = (.ok b, s')) :
    ∃ a s₁, m s = (.ok a, s₁) ∧ f a s₁ = (.ok b, s') := by
  rw [bind_run] at h
  rcases hrun : m s with ⟨e | a, s₁⟩ <;> rw [hrun] at h
  · cases h
  · exact ⟨a, s₁, rfl, h⟩

/-- A bind that only changes the answer. -/
lemma bind_pure_run (m : Owner ε σ α) (k : α → β) (s : σ) :
    (m >>= fun a => pure (k a)) s = ((m s).1.map k, (m s).2) := by
  rw [bind_run]
  cases m s with
  | mk result s' => cases result <;> rfl

lemma bind_assoc_run {γ : Type} (m : Owner ε σ α) (f : α → Owner ε σ β) (g : β → Owner ε σ γ)
    (s : σ) :
    (m >>= fun a => f a >>= g) s = ((m >>= f) >>= g) s := by
  simp only [bind_run]
  cases m s with
  | mk result s' => cases result <;> rfl

lemma map_map {γ : Type} (r : Except ε α) (f : α → β) (g : β → γ) :
    (r.map f).map g = r.map fun a => g (f a) := by
  cases r <;> rfl

@[simp] lemma read_bind (f : σ → Owner ε σ β) (s : σ) : (read >>= f) s = f s s := rfl
@[simp] lemma reads_bind (g : σ → α) (f : α → Owner ε σ β) (s : σ) :
    (reads g >>= f) s = f (g s) s := rfl
@[simp] lemma change_bind (g : σ → σ) (f : Unit → Owner ε σ β) (s : σ) :
    (change g >>= f) s = f () (g s) := rfl
@[simp] lemma update_bind (g : σ → α × σ) (f : α → Owner ε σ β) (s : σ) :
    (update g >>= f) s = f (g s).1 (g s).2 := rfl
@[simp] lemma fail_bind (e : ε) (f : α → Owner ε σ β) (s : σ) :
    ((fail e : Owner ε σ α) >>= f) s = (.error e, s) := rfl
@[simp] lemma attempt_bind (m : Owner ε σ α) (f : Except ε α → Owner ε σ β) (s : σ) :
    (m.attempt >>= f) s = f (m s).1 (m s).2 := rfl
@[simp] lemma ask_run (f : τ → α × τ) (s : σ × τ) :
    (ask f : Owner ε (σ × τ) α) s = (.ok (f s.2).1, s.1, (f s.2).2) := rfl
@[simp] lemma ask_bind (g : τ → α × τ) (f : α → Owner ε (σ × τ) β) (s : σ × τ) :
    (ask g >>= f) s = f (g s.2).1 (s.1, (g s.2).2) := rfl
@[simp] lemma onFst_run (m : Owner ε σ α) (s : σ × τ) :
    onFst m s = ((m s.1).1, (m s.1).2, s.2) := rfl
@[simp] lemma pure_bind_run (a : α) (f : α → Owner ε σ β) (s : σ) : (pure a >>= f) s = f a s := rfl

/-! ### Mirroring -/

/-- Seen through `π`, the one computation does what the other does. -/
def Mirrors (π : σ → τ) (m : Owner ε σ α) (n : Owner ε τ α) : Prop :=
  ∀ s, n (π s) = ((m s).1, π (m s).2)

namespace Mirrors

variable {π : σ → τ} {m : Owner ε σ α} {n : Owner ε τ α}

lemma pure (a : α) : Mirrors π (Pure.pure a : Owner ε σ α) (Pure.pure a) := fun _ => rfl

lemma fail (e : ε) : Mirrors π (Owner.fail e : Owner ε σ α) (Owner.fail e) := fun _ => rfl

lemma settle (r : Except ε α) : Mirrors π (Owner.settle r) (Owner.settle r) := by
  cases r with
  | ok a => exact pure a
  | error e => exact fail e

lemma change {f : σ → σ} {g : τ → τ} (h : ∀ s, g (π s) = π (f s)) :
    Mirrors π (Owner.change f : Owner ε σ Unit) (Owner.change g) := fun s => by
  rw [change_run, change_run, h]

lemma update {f : σ → α × σ} {g : τ → α × τ} (h : ∀ s, g (π s) = ((f s).1, π (f s).2)) :
    Mirrors π (Owner.update f : Owner ε σ α) (Owner.update g) := fun s => by
  rw [update_run, update_run, h]

lemma attempt (h : Mirrors π m n) : Mirrors π m.attempt n.attempt := fun s => by
  rw [attempt_run, attempt_run, h s]

lemma bind {f : α → Owner ε σ β} {g : α → Owner ε τ β} (h : Mirrors π m n)
    (hf : ∀ a, Mirrors π (f a) (g a)) :
    Mirrors π (m >>= f) (n >>= g) := by
  intro s
  rw [bind_run, bind_run, h s]
  rcases m s with ⟨e | a, s'⟩
  · rfl
  · exact hf a s'

lemma read {f : σ → Owner ε σ β} {g : τ → Owner ε τ β} (h : ∀ s, Mirrors π (f s) (g (π s))) :
    Mirrors π (Owner.read >>= f) (Owner.read >>= g) := fun s => h s s

lemma ite {c : Prop} [Decidable c] {m' : Owner ε σ α} {n' : Owner ε τ α} (h : Mirrors π m n)
    (h' : Mirrors π m' n') :
    Mirrors π (if c then m else m') (if c then n else n') := by
  split
  · exact h
  · exact h'

end Mirrors

/-! ### Pre- and postconditions -/

/-- From a state in `P` the computation answers within `Q` or fails within `F`. -/
def Triple (P : σ → Prop) (m : Owner ε σ α) (Q : α → σ → Prop) (F : ε → σ → Prop) : Prop :=
  ∀ s, P s → match m s with
    | (.ok a, s') => Q a s'
    | (.error e, s') => F e s'

namespace Triple

variable {P : σ → Prop} {m : Owner ε σ α} {Q : α → σ → Prop} {F : ε → σ → Prop}

lemma pure {a : α} (h : ∀ s, P s → Q a s) : Triple P (Pure.pure a : Owner ε σ α) Q F := h

lemma fail {e : ε} (h : ∀ s, P s → F e s) : Triple P (Owner.fail e : Owner ε σ α) Q F := h

lemma change {f : σ → σ} {R : Unit → σ → Prop} (h : ∀ s, P s → R () (f s)) :
    Triple P (Owner.change f : Owner ε σ Unit) R F := h

lemma update {f : σ → α × σ} (h : ∀ s, P s → Q (f s).1 (f s).2) :
    Triple P (Owner.update f : Owner ε σ α) Q F := h

lemma settle {r : Except ε α} (hok : ∀ a, r = .ok a → ∀ s, P s → Q a s)
    (herror : ∀ e, r = .error e → ∀ s, P s → F e s) :
    Triple P (Owner.settle r) Q F := by
  cases r with
  | ok a => exact hok a rfl
  | error e => exact herror e rfl

/-- The rule of sequencing. -/
lemma bind {f : α → Owner ε σ β} {R : α → σ → Prop} {Q : β → σ → Prop} (hm : Triple P m R F)
    (hf : ∀ a, Triple (R a) (f a) Q F) :
    Triple P (m >>= f) Q F := by
  intro s hs
  have hmid := hm s hs
  rw [bind_run]
  rcases hrun : m s with ⟨e | a, s'⟩
  · rw [hrun] at hmid
    exact hmid
  · rw [hrun] at hmid
    exact hf a s' hmid

/-- A computation that starts with a look at its state. -/
lemma read {f : σ → Owner ε σ α} (h : ∀ s, Triple (fun s' => s' = s ∧ P s') (f s) Q F) :
    Triple P (Owner.read >>= f) Q F :=
  fun s hs => h s s ⟨rfl, hs⟩

lemma reads {g : σ → β} {f : β → Owner ε σ α}
    (h : ∀ s, P s → Triple (fun s' => s' = s) (f (g s)) Q F) :
    Triple P (Owner.reads g >>= f) Q F := fun s hs => h s hs s rfl

lemma attempt {R : Except ε α → σ → Prop}
    (hm : Triple P m (fun a => R (.ok a)) (fun e => R (.error e))) :
    Triple P m.attempt R F := by
  intro s hs
  have hmid := hm s hs
  rw [attempt_run]
  rcases hrun : m s with ⟨e | a, s'⟩ <;> rw [hrun] at hmid <;> exact hmid

lemma weaken {P' : σ → Prop} {Q' : α → σ → Prop} {F' : ε → σ → Prop} (hm : Triple P m Q F)
    (hP : ∀ s, P' s → P s) (hQ : ∀ a s, Q a s → Q' a s)
    (hF : ∀ e s, F e s → F' e s) : Triple P' m Q' F' := by
  intro s hs
  have hmid := hm s (hP s hs)
  rcases hrun : m s with ⟨e | a, s'⟩ <;> rw [hrun] at hmid
  · exact hF e s' hmid
  · exact hQ a s' hmid

lemma ite {c : Prop} [Decidable c] {m' : Owner ε σ α} (h : c → Triple P m Q F)
    (h' : ¬c → Triple P m' Q F) :
    Triple P (if c then m else m') Q F := by
  split
  · next hc => exact h hc
  · next hc => exact h' hc

end Triple
end Owner
end Lib
