import Bornera.Lib.Owner

/-!
# What a computation leaves alone

`Keeps ρ m`: whatever the computation `m` answers, the state it leaves is related by `ρ` to the
state it was given. When `ρ` is reflexive and transitive, the computations that keep it are closed
under sequencing and branching, so a frame condition is proved of the primitive ones only.
-/

namespace Lib.Owner

variable {ε σ τ α β : Type} {ρ : σ → σ → Prop}

/-- The state left behind is related to the one before. -/
def Keeps (ρ : σ → σ → Prop) (m : Owner ε σ α) : Prop := ∀ s, ρ s (m s).2

namespace Keeps

variable {m : Owner ε σ α}

lemma change {f : σ → σ} (h : ∀ s, ρ s (f s)) : Keeps ρ (Owner.change f : Owner ε σ Unit) := h

lemma update {f : σ → α × σ} (h : ∀ s, ρ s (f s).2) : Keeps ρ (Owner.update f : Owner ε σ α) := h

lemma congr {n : Owner ε σ α} (h : ∀ s, m s = n s) (hn : Keeps ρ n) : Keeps ρ m :=
  fun s => h s ▸ hn s

lemma attempt (h : Keeps ρ m) : Keeps ρ m.attempt := h

/-- A computation that starts with a look at its state. -/
lemma read {f : σ → Owner ε σ α} (h : ∀ s, ρ s (f s s).2) : Keeps ρ (Owner.read >>= f) := h

lemma onFst (h : Keeps ρ m) : Keeps (fun x y : σ × τ => ρ x.1 y.1) (Owner.onFst m) := fun x => h x.1

lemma ite {c : Prop} [Decidable c] {m' : Owner ε σ α} (h : Keeps ρ m) (h' : Keeps ρ m') :
    Keeps ρ (if c then m else m') := by
  split
  · exact h
  · exact h'

/-- The postcondition of a computation that keeps a relation. -/
lemma triple {P : σ → Prop} {Q F : σ → Prop} (hm : Keeps ρ m) (hQ : ∀ s s', P s → ρ s s' → Q s')
    (hF : ∀ s s', P s → ρ s s' → F s') :
    Triple P m (fun _ => Q) (fun _ => F) := by
  intro s hs
  have hkept := hm s
  rcases hrun : m s with ⟨e | a, s'⟩ <;> rw [hrun] at hkept
  · exact hF s s' hs hkept
  · exact hQ s s' hs hkept

section
variable [Std.Refl ρ]

lemma pure (a : α) : Keeps ρ (Pure.pure a : Owner ε σ α) := fun s => Std.Refl.refl s

lemma fail (e : ε) : Keeps ρ (Owner.fail e : Owner ε σ α) := fun s => Std.Refl.refl s

lemma settle (r : Except ε α) : Keeps ρ (Owner.settle r) := by
  cases r with
  | ok a => exact pure a
  | error e => exact fail e

lemma reads (f : σ → α) : Keeps ρ (Owner.reads f : Owner ε σ α) := fun s => Std.Refl.refl s

/-- A question to the second part of a pair. -/
lemma ask (f : τ → α × τ) :
    Keeps (fun x y : σ × τ => ρ x.1 y.1) (Owner.ask f : Owner ε (σ × τ) α) :=
  fun x => Std.Refl.refl x.1

end

section
variable [IsTrans σ ρ]

/-- The rule of sequencing. -/
lemma bind {f : α → Owner ε σ β} (hm : Keeps ρ m) (hf : ∀ a, Keeps ρ (f a)) :
    Keeps ρ (m >>= f) := by
  intro s
  have hfirst := hm s
  rw [bind_run]
  rcases hrun : m s with ⟨e | a, s'⟩ <;> rw [hrun] at hfirst
  · exact hfirst
  · exact IsTrans.trans _ _ _ hfirst (hf a s')

variable [Std.Refl ρ]

lemma either {a b : Owner ε σ Bool} (ha : Keeps ρ a) (hb : Keeps ρ b) :
    Keeps ρ (Owner.either a b) :=
  ha.bind fun _ => (pure true).ite hb

lemma both {a b : Owner ε σ Bool} (ha : Keeps ρ a) (hb : Keeps ρ b) : Keeps ρ (Owner.both a b) :=
  ha.bind fun _ => hb.ite (pure false)

end
end Keeps

/-- A question to the second part of a pair leaves the first alone. -/
lemma Triple.ask {P : σ → Prop} {F : ε → σ × τ → Prop} (f : τ → α × τ) :
    Triple (fun x : σ × τ => P x.1) (Owner.ask f : Owner ε (σ × τ) α) (fun _ x => P x.1) F :=
  fun _ h => h

/-- A computation that goes on with an answer from before its last step. -/
lemma bind_tap_run (m : Owner ε σ α) (n : α → Owner ε σ Unit) (k : α → Owner ε σ β) (s : σ) :
    (m >>= fun a => n a >>= fun _ => k a) s =
      ((m >>= fun a => n a >>= fun _ => Pure.pure a) >>= k) s := by
  simp only [bind_run]
  cases m s with
  | mk result s₁ =>
  cases result with
  | error e => rfl
  | ok a =>
    dsimp only
    cases n a s₁ with
    | mk result s₂ => cases result <;> rfl

end Lib.Owner
