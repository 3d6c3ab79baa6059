import Bornera.Core.Epoch
import Mathlib.Data.List.Perm.Basic

/-!
# The invariant of an epoch

`Epoch.Wf` is the joint invariant of lane, permits, gate and phase, and `Step.wf` shows that every
step keeps it. `Loose` is the same without its last clause, that a draining epoch has work left:
it is what holds just before `drained` restores that clause.
-/

namespace Bornera.Core

variable {F R : Type}

/-! ### Items -/

namespace Item

/-- Record and frame agree on what they are. This holds of poisoned epochs too. -/
structure Bound (x : Item F) : Prop where
  held : x.record.writeHeld = x.write.isSome
  operation : ∀ w, x.write = some w → w.operation = x.id
  effect : ∀ w, x.write = some w → w.effect = x.record.effect
  bytes : ∀ w, x.write = some w → x.record.reservation.writeRetainedBytes = w.measure.retainedBytes
  written : ∀ w, x.write = some w → w.written ≤ w.measure.wireBytes
  sent : ∀ w, x.write = some w → x.record.delivery = .possiblySent → w.started = true

/-- The three places of an operation in a healthy epoch: waiting for its reply, with a frame of
which no byte has gone, with a frame partly gone. -/
inductive Sound (x : Item F) : Prop where
  | awaiting (gone : x.write = none) (reply : x.record.completion = .replyExpected)
    (phase : x.record.phase = .awaitingReply ∨ x.record.phase = .terminal ∧
      x.record.delivery = .possiblySent)
  | queued {w : QueuedWrite F} (here : x.write = some w) (started : w.started = false)
    (phase : x.record.phase = .queued) (delivery : x.record.delivery = .notSent)
    (written : w.written = 0)
  | started {w : QueuedWrite F} (here : x.write = some w) (started : w.started = true)
    (phase : x.record.phase = .writing ∨ x.record.phase = .terminal)
    (delivery : x.record.delivery = .possiblySent) (positive : 0 < w.written)
    (partly : w.written < w.measure.wireBytes)

/-- The item holds a frame of which no byte has gone. -/
def Fresh (x : Item F) : Prop := ∃ w, x.write = some w ∧ w.started = false

/-- Behind an item that holds a frame there are only fresh ones. -/
def Before (x y : Item F) : Prop := x.write.isSome = true → y.Fresh

variable {x : Item F}

lemma Sound.not_fresh (h : x.Sound) (hd : x.record.delivery = .possiblySent) : ¬x.Fresh := by
  rintro ⟨w, hw, hs⟩
  cases h with
  | awaiting gone => simp [gone] at hw
  | queued _ _ _ delivery => simp [delivery] at hd
  | started here started =>
    rw [here] at hw
    cases hw
    simp [started] at hs

lemma Sound.terminal_sent (h : x.Sound) (ht : x.record.phase = .terminal) :
    x.record.delivery = .possiblySent := by
  cases h with
  | awaiting _ _ phase =>
    rcases phase with hp | hp
    · simp [hp] at ht
    · exact hp.2
  | queued _ _ phase => simp [phase] at ht
  | started _ _ _ delivery => exact delivery

lemma Sound.owed_of_unsent (h : x.Sound) (hd : x.record.delivery = .notSent) : x.owed = true := by
  simp only [owed, ne_eq, decide_not, Bool.not_eq_true', decide_eq_false_iff_not]
  intro ht
  simp [h.terminal_sent ht] at hd

lemma bury_bound (h : x.Bound) : x.bury.Bound :=
  ⟨h.held, h.operation, h.effect, h.bytes, h.written, h.sent⟩

lemma bury_sound (h : x.Sound) (hd : x.record.delivery = .possiblySent) : x.bury.Sound := by
  cases h with
  | awaiting gone reply => exact .awaiting gone reply (Or.inr ⟨rfl, hd⟩)
  | queued _ _ _ delivery => simp [delivery] at hd
  | started here started _ delivery positive partly =>
    exact .started here started (Or.inr rfl) delivery positive partly

lemma accept_bound (p : OperationPermit) (frame : F) (m : FrameMeasure) :
    (accept p frame m).Bound := by
  refine ⟨rfl, ?_, ?_, ?_, ?_, ?_⟩ <;> rintro w ⟨⟩
  · rfl
  · rfl
  · rfl
  · exact Nat.zero_le _
  · rintro ⟨⟩

lemma accept_sound (p : OperationPermit) (frame : F) (m : FrameMeasure) :
    (accept p frame m).Sound :=
  .queued rfl rfl rfl rfl rfl

lemma accept_fresh (p : OperationPermit) (frame : F) (m : FrameMeasure) :
    (accept p frame m).Fresh :=
  ⟨_, rfl, rfl⟩

/-! ### Reports -/

variable {w : QueuedWrite F} {n : ℕ}

lemma reported_id : (x.reported w n).id = x.id := by unfold reported; split <;> rfl
lemma progress_id : (x.progress w n).id = x.id := reported_id
lemma finish_id : (x.finish w n).id = x.id := reported_id
lemma reported_effect : (x.reported w n).effect = x.record.effect := by
  unfold reported; split <;> rfl
lemma reported_reservation : (x.reported w n).reservation = x.record.reservation := by
  unfold reported; split <;> rfl
lemma reported_completion : (x.reported w n).completion = x.record.completion := by
  unfold reported; split <;> rfl
lemma reported_held : (x.reported w n).writeHeld = x.record.writeHeld := by
  unfold reported; split <;> rfl
lemma reported_deadline : (x.reported w n).deadline = x.record.deadline := by
  unfold reported; split <;> rfl

/-- The delivery after a report says whether the frame has started. -/
lemma reported_delivery (h : x.Sound) (hw : x.write = some w) :
    (x.reported w n).delivery = if w.started || decide (0 < n) then
      .possiblySent else .notSent := by
  unfold reported
  cases h with
  | awaiting gone => simp [gone] at hw
  | queued here started _ delivery =>
    rw [hw] at here
    cases here
    by_cases hn : 0 < n <;> simp [started, hn, delivery]
  | started here started _ delivery =>
    rw [hw] at here
    cases here
    simp [started, delivery]

/-- A report keeps whether the observer is owed an outcome. -/
lemma reported_terminal (h : x.Sound) (hw : x.write = some w) :
    (x.reported w n).phase = .terminal ↔ x.record.phase = .terminal := by
  unfold reported
  split
  · next hc =>
    cases h with
    | awaiting gone => simp [gone] at hw
    | queued here started phase => simp [phase]
    | started here started =>
      rw [hw] at here
      cases here
      simp [started] at hc
  · rfl

lemma progress_bound (h : x.Bound) (hs : x.Sound) (hw : x.write = some w)
    (hle : w.written + n ≤ w.measure.wireBytes) : (x.progress w n).Bound := by
  refine ⟨?_, ?_, ?_, ?_, ?_, ?_⟩
  · rw [show (x.progress w n).record = x.reported w n from rfl, reported_held, h.held, hw]
    rfl
  · rintro _ ⟨⟩
    exact (h.operation w hw).trans reported_id.symm
  · rintro _ ⟨⟩
    exact (h.effect w hw).trans reported_effect.symm
  · rintro _ ⟨⟩
    show (x.reported w n).reservation.writeRetainedBytes = _
    rw [reported_reservation]
    exact h.bytes w hw
  · rintro _ ⟨⟩
    exact hle
  · rintro _ ⟨⟩ hd
    rw [show (x.progress w n).record = x.reported w n from rfl, reported_delivery hs hw] at hd
    show (w.started || decide (0 < n)) = true
    by_contra hc
    simp [hc] at hd

lemma progress_sound (hs : x.Sound) (hw : x.write = some w)
    (hlt : w.written + n < w.measure.wireBytes) : (x.progress w n).Sound := by
  cases hs with
  | awaiting gone => simp [gone] at hw
  | queued here started phase delivery written =>
    rw [hw] at here
    cases here
    by_cases hn : 0 < n
    · refine .started rfl ?_ (Or.inl ?_) ?_ ?_ hlt
      · simp [hn]
      · simp [progress, reported, hn, started]
      · simp [progress, reported, hn, started]
      · show 0 < w.written + n
        omega
    · refine .queued rfl ?_ ?_ ?_ ?_
      · simp [hn, started]
      · simp [progress, reported, hn, phase]
      · simp [progress, reported, hn, delivery]
      · show w.written + n = 0
        omega
  | started here started phase delivery positive =>
    rw [hw] at here
    cases here
    refine .started rfl ?_ ?_ ?_ ?_ hlt
    · simp [started]
    · simpa [progress, reported, started] using phase
    · simpa [progress, reported, started] using delivery
    · show 0 < w.written + n
      omega

lemma finish_bound : (x.finish w n).Bound := by
  refine ⟨rfl, ?_, ?_, ?_, ?_, ?_⟩ <;> rintro _ ⟨⟩

lemma finish_sound (hs : x.Sound) (hw : x.write = some w)
    (hr : x.record.completion = .replyExpected) :
    (x.finish w n).Sound := by
  refine .awaiting rfl (reported_completion.trans hr) ?_
  by_cases ht : (x.reported w n).phase = .terminal
  · refine Or.inr ⟨by simp [finish, OperationRecord.released, ht], ?_⟩
    show (x.reported w n).delivery = _
    have hx := hs.terminal_sent ((reported_terminal hs hw).mp ht)
    unfold reported
    split
    · rfl
    · exact hx
  · exact Or.inl (by simp [finish, OperationRecord.released, ht])

lemma overrun_bound (h : x.Bound) (hw : x.write = some w) : (x.overrun w).Bound := by
  refine ⟨?_, ?_, ?_, ?_, ?_, ?_⟩
  · exact h.held.trans (by rw [hw]; rfl)
  · rintro _ ⟨⟩; exact h.operation w hw
  · rintro _ ⟨⟩; exact h.effect w hw
  · rintro _ ⟨⟩; exact h.bytes w hw
  · rintro _ ⟨⟩; exact h.written w hw
  · rintro _ ⟨⟩ _; rfl

end Item

/-! ### Epochs -/

namespace Epoch

/-- A number that the generator has passed. -/
def Issued (next : Option ℕ) (n : ℕ) : Prop := ∀ m, next = some m → n < m

/-- The invariant, apart from what drains. -/
structure Loose (e : Epoch F) : Prop where
  bound : ∀ x ∈ e.lane, x.Bound
  sound : e.poisoned = none → ∀ x ∈ e.lane, x.Sound
  order : e.poisoned = none → e.lane.Pairwise Item.Before
  operations : (e.permits.map (·.operation) ++ e.lane.map Item.id).Nodup
  effects : (e.permits.map (·.effect) ++ e.lane.map (·.record.effect)).Nodup
  issued : ∀ id ∈ e.permits.map (·.operation) ++ e.lane.map Item.id,
    Issued e.identities.operation id.get
  issuedEffects : ∀ id ∈ e.permits.map (·.effect) ++ e.lane.map (·.record.effect),
    Issued e.identities.effect id.get
  home : ∀ p ∈ e.permits, p.ledger = e.ledgerId ∧ p.epoch = e.epoch
  gate : e.phase = .live ↔ e.gate ≠ .closed
  reason : e.phase = .live ↔ e.closeReason = none
  idle : e.phase ≠ .live → e.lane = []
  recovered : e.poisoned = some .recovered → e.lane = []

/-- **The joint invariant of an epoch.** -/
structure Wf (e : Epoch F) : Prop extends Loose e where
  draining : e.poisoned = none → e.gate = .draining → e.lane ≠ []

lemma wf_new (ledgerId : ℕ) (epoch : ConnectionEpoch) (seeds : IdentitySeeds) :
    (new ledgerId epoch seeds : Epoch F).Wf where
  bound := by simp [new]
  sound := by simp [new]
  order := by simp [new]
  operations := by simp [new]
  effects := by simp [new]
  issued := by simp [new]
  issuedEffects := by simp [new]
  home := by simp [new]
  gate := by simp [new]
  reason := by simp [new]
  idle := by simp [new]
  recovered := by simp [new]
  draining := by simp [new]

variable {e : Epoch F}

lemma Loose.close (h : e.Loose) (reason : CloseReason) : (e.close reason).Wf where
  bound := by simp [Epoch.close]
  sound := by simp [Epoch.close]
  order := by simp [Epoch.close]
  operations := by
    have := h.operations.of_append_left
    simpa [Epoch.close] using this
  effects := by
    have := h.effects.of_append_left
    simpa [Epoch.close] using this
  issued id hid := h.issued id (by
    simp only [Epoch.close, List.map_nil, List.append_nil] at hid
    exact List.mem_append_left _ hid)
  issuedEffects id hid := h.issuedEffects id (by
    simp only [Epoch.close, List.map_nil, List.append_nil] at hid
    exact List.mem_append_left _ hid)
  home := h.home
  gate := by simp [Epoch.close]
  reason := by simp [Epoch.close]
  idle := fun _ => rfl
  recovered := fun _ => rfl
  draining := by simp [Epoch.close]

/-- Ending the drain gives back the last clause. -/
lemma Loose.drained (h : e.Loose) : e.drained.Wf := by
  unfold Epoch.drained
  split
  · exact h.close .drained
  · next hd =>
    refine { h with draining := fun _ hg he => hd ?_ }
    simp [drains, hg, he]

/-- Some operations may leave the lane. -/
lemma Loose.sublist (h : e.Loose) {lane : List (Item F)} (hs : lane.Sublist e.lane) :
    { e with lane }.Loose where
  bound x hx := h.bound x (hs.subset hx)
  sound hp x hx := h.sound hp x (hs.subset hx)
  order hp := (h.order hp).sublist hs
  operations := h.operations.sublist ((List.Sublist.refl _).append (hs.map _))
  effects := h.effects.sublist ((List.Sublist.refl _).append (hs.map _))
  issued id hid := h.issued id (((List.Sublist.refl _).append (hs.map _)).subset hid)
  issuedEffects id hid := h.issuedEffects id (((List.Sublist.refl _).append (hs.map _)).subset hid)
  home := h.home
  gate := h.gate
  reason := h.reason
  idle hp := List.sublist_nil.mp (h.idle hp ▸ hs)
  recovered hp := List.sublist_nil.mp (h.recovered hp ▸ hs)

lemma order_replace {pre post : List (Item F)} {x y : Item F}
    (h : (pre ++ x :: post).Pairwise Item.Before) (hpre : ∀ z ∈ pre, z.write = none)
    (hy : y.write.isSome = true → x.write.isSome = true) :
    (pre ++ y :: post).Pairwise Item.Before := by
  rw [List.pairwise_append, List.pairwise_cons] at h ⊢
  obtain ⟨h1, ⟨h2, h3⟩, _⟩ := h
  refine ⟨h1, ⟨fun z hz hheld => h2 z hz (hy hheld), h3⟩, ?_⟩
  intro z hz _ _ hheld
  simp [hpre z hz] at hheld

/-- One operation may change in place, keeping its identities. -/
lemma Wf.replace (h : e.Wf) {pre post : List (Item F)} {x y : Item F}
    (hl : e.lane = pre ++ x :: post) (hid : y.id = x.id) (heff : y.record.effect = x.record.effect)
    (hb : y.Bound) (hs : e.poisoned = none → y.Sound)
    (ho : e.poisoned = none → (pre ++ y :: post).Pairwise Item.Before) :
    { e with lane := pre ++ y :: post }.Wf := by
  have hids : (pre ++ y :: post).map Item.id = e.lane.map Item.id := by simp [hl, hid]
  have heffs : (pre ++ y :: post).map (·.record.effect) = e.lane.map (·.record.effect) := by
    simp [hl, heff]
  have hmem : ∀ z ∈ pre ++ y :: post, z = y ∨ z ∈ e.lane := by
    intro z hz
    rw [hl]
    simp only [List.mem_append, List.mem_cons] at hz ⊢
    rcases hz with hz | hz | hz
    · exact Or.inr (Or.inl hz)
    · exact Or.inl hz
    · exact Or.inr (Or.inr (Or.inr hz))
  have hne : e.lane ≠ [] := by simp [hl]
  refine
    { bound := fun z hz => ?_
      sound := fun hp z hz => ?_
      order := ho
      operations := by rw [hids]; exact h.operations
      effects := by rw [heffs]; exact h.effects
      issued := by rw [hids]; exact h.issued
      issuedEffects := by rw [heffs]; exact h.issuedEffects
      home := h.home
      gate := h.gate
      reason := h.reason
      idle := fun hp => absurd (h.idle hp) hne
      recovered := fun hp => absurd (h.recovered hp) hne
      draining := fun _ _ => by simp }
  · rcases hmem z hz with rfl | hz
    · exact hb
    · exact h.bound z hz
  · rcases hmem z hz with rfl | hz
    · exact hs hp
    · exact h.sound hp z hz

/-- A poison leaves the weaker half of the invariant. -/
lemma Wf.poison (h : e.Wf) (source : ConnectionCoreInvariant) (hs : source ≠ .recovered) :
    { e with poisoned := some source }.Wf :=
  { bound := h.bound
    sound := by simp
    order := by simp
    operations := h.operations
    effects := h.effects
    issued := h.issued
    issuedEffects := h.issuedEffects
    home := h.home
    gate := h.gate
    reason := h.reason
    idle := h.idle
    recovered := fun hp => absurd (Option.some.inj hp) hs
    draining := by simp }

lemma perm_eraseIdx {l : List OperationPermit} {i : ℕ} {p : OperationPermit} (h : l[i]? = some p) :
    l.Perm (p :: l.eraseIdx i) := by
  obtain ⟨hi, rfl⟩ := List.getElem?_eq_some_iff.mp h
  exact (List.getElem_cons_eraseIdx_perm hi).symm

lemma Wf.dropped (h : e.Wf) (index : ℕ) : { e with permits := e.permits.eraseIdx index }.Wf :=
  have hs := List.eraseIdx_sublist e.permits index
  { h with
    operations := h.operations.sublist ((hs.map _).append (List.Sublist.refl _))
    effects := h.effects.sublist ((hs.map _).append (List.Sublist.refl _))
    issued := fun id hid => h.issued id (((hs.map _).append (List.Sublist.refl _)).subset hid)
    issuedEffects :=
      fun id hid => h.issuedEffects id (((hs.map _).append (List.Sublist.refl _)).subset hid)
    home := fun p hp => h.home p (hs.subset hp) }

lemma Issued.next {m n : ℕ} {next : Option ℕ} (hm : next = some m) (h : Issued next n) :
    Issued (checkedAdd m 1) n := by
  intro k hk
  have := h m hm
  unfold checkedAdd at hk
  split at hk
  · cases hk
    omega
  · cases hk

lemma issued_self (m : ℕ) : Issued (checkedAdd m 1) m := by
  intro k hk
  unfold checkedAdd at hk
  split at hk
  · cases hk
    omega
  · cases hk

lemma Wf.reserved (h : e.Wf) {p : OperationPermit} {operation effect : ℕ}
    (ho : e.identities.operation = some operation) (he : e.identities.effect = some effect)
    (hid : p.operation = ⟨operation⟩ ∧ p.effect = ⟨effect⟩)
    (hhome : p.ledger = e.ledgerId ∧ p.epoch = e.epoch) :
    { e with
      permits := e.permits ++ [p]
      identities := ⟨checkedAdd operation 1, checkedAdd effect 1⟩ }.Wf := by
  have hpo : p.operation ∉ e.permits.map (·.operation) ++ e.lane.map Item.id := fun hm =>
    absurd (h.issued _ hm operation ho) (by rw [hid.1]; exact lt_irrefl _)
  have hpe : p.effect ∉ e.permits.map (·.effect) ++ e.lane.map (·.record.effect) := fun hm =>
    absurd (h.issuedEffects _ hm effect he) (by rw [hid.2]; exact lt_irrefl _)
  have hperm : ∀ {α : Type} (a : α) (l l' : List α), (l ++ [a] ++ l').Perm (a :: (l ++ l')) := by
    intro α a l l'
    rw [List.append_assoc, List.singleton_append]
    exact List.perm_middle
  refine { h with operations := ?_, effects := ?_, issued := ?_, issuedEffects := ?_, home := ?_ }
  · simp only [List.map_append, List.map_cons, List.map_nil]
    exact (hperm _ _ _).nodup_iff.mpr (List.nodup_cons.mpr ⟨hpo, h.operations⟩)
  · simp only [List.map_append, List.map_cons, List.map_nil]
    exact (hperm _ _ _).nodup_iff.mpr (List.nodup_cons.mpr ⟨hpe, h.effects⟩)
  · intro id hm
    simp only [List.map_append, List.map_cons, List.map_nil] at hm
    rcases List.mem_cons.mp ((hperm _ _ _).mem_iff.mp hm) with rfl | hm
    · rw [hid.1]
      exact issued_self operation
    · exact (h.issued id hm).next ho
  · intro id hm
    simp only [List.map_append, List.map_cons, List.map_nil] at hm
    rcases List.mem_cons.mp ((hperm _ _ _).mem_iff.mp hm) with rfl | hm
    · rw [hid.2]
      exact issued_self effect
    · exact (h.issuedEffects id hm).next he
  · intro q hq
    rcases List.mem_append.mp hq with hq | hq
    · exact h.home q hq
    · rw [List.mem_singleton.mp hq]
      exact hhome

lemma Wf.committed (h : e.Wf) {p : OperationPermit} {index : ℕ} (hp : e.permits[index]? = some p)
    (hgate : e.gate.admits p.admissionClass = true) (hpois : e.poisoned = none) (frame : F)
    (m : FrameMeasure) :
    { e with
      permits := e.permits.eraseIdx index
      lane := e.lane ++ [Item.accept p frame m] }.Wf := by
  have hlive : e.phase = .live := by
    rw [h.gate]
    intro hc
    simp [hc, AdmissionGate.admits] at hgate
  have hmove : ∀ {α : Type} (f : OperationPermit → α) (l : List α),
      (e.permits.map f ++ l).Perm ((e.permits.eraseIdx index).map f ++ (l ++ [f p])) := by
    intro α f l
    refine (((perm_eraseIdx hp).map f).append_right l).trans ?_
    rw [← List.append_assoc]
    exact (List.perm_append_singleton _ _).symm
  refine
    { bound := ?_, sound := ?_, order := ?_, operations := ?_, effects := ?_, issued := ?_
      issuedEffects := ?_, home := fun q hq => h.home q ((List.eraseIdx_sublist _ _).subset hq)
      gate := h.gate, reason := h.reason, idle := fun hn => absurd hlive hn
      recovered := fun hr => by simp [hpois] at hr
      draining := fun _ _ => by simp }
  · intro x hx
    rcases List.mem_append.mp hx with hx | hx
    · exact h.bound x hx
    · rw [List.mem_singleton.mp hx]
      exact Item.accept_bound p frame m
  · intro hpn x hx
    rcases List.mem_append.mp hx with hx | hx
    · exact h.sound hpn x hx
    · rw [List.mem_singleton.mp hx]
      exact Item.accept_sound p frame m
  · intro hpn
    rw [List.pairwise_append]
    refine ⟨h.order hpn, List.pairwise_singleton _ _, ?_⟩
    intro x _ y hy _
    rw [List.mem_singleton.mp hy]
    exact Item.accept_fresh p frame m
  · rw [List.map_append]
    exact (hmove (·.operation) _).nodup_iff.mp h.operations
  · rw [List.map_append]
    exact (hmove (·.effect) _).nodup_iff.mp h.effects
  · intro id hid
    rw [List.map_append] at hid
    exact h.issued id ((hmove (·.operation) _).mem_iff.mpr hid)
  · intro id hid
    rw [List.map_append] at hid
    exact h.issuedEffects id ((hmove (·.effect) _).mem_iff.mpr hid)

lemma sublist_remove (pre post : List (Item F)) (x : Item F) :
    (pre ++ post).Sublist (pre ++ x :: post) :=
  (List.Sublist.refl pre).append (List.sublist_cons_self x post)

lemma pre_unheld {pre post : List (Item F)} {x : Item F}
    (h : (pre ++ x :: post).Pairwise Item.Before) (hx : ¬x.Fresh) : ∀ y ∈ pre, y.write = none := by
  intro y hy
  rw [List.pairwise_append] at h
  have hyx := h.2.2 y hy x (List.mem_cons_self ..)
  cases hw : y.write with
  | none => rfl
  | some w => exact absurd (hyx (by rw [hw]; rfl)) hx

lemma AtFront.mem {pre post : List (Item F)} {x : Item F} {w : QueuedWrite F}
    (h : e.AtFront pre x w post) :
    x ∈ e.lane := by
  simp [h.lane]

/-- **Every step keeps the invariant.** -/
theorem Step.wf {e' : Epoch F} {c : Call F R} {r : Response F R} (hstep : Step e c r e')
    (h : e.Wf) :
    e'.Wf := by
  cases hstep with
  | unavailable => exact h
  | reserveRefused => exact h
  | reserved _ operations effects identity home => exact h.reserved operations effects identity home
  | commitRefused => exact h
  | foreignRefused => exact h
  | committed healthy live admitted => exact h.committed live admitted healthy _ _
  | dropped => exact h.dropped _
  | refused => exact h
  | ignored => exact h
  | opened healthy live gate =>
    refine { h with gate := ?_, draining := by simp }
    simp [live]
  | rescheduled => exact h
  | removed healthy lane =>
    exact (h.toLoose.sublist (by rw [lane]; exact sublist_remove _ _ _)).drained
  | @buried pre post x healthy lane owed sent =>
    have hx : x ∈ e.lane := by simp [lane]
    have hsx := h.sound healthy x hx
    have ho := h.order healthy
    rw [lane] at ho
    exact h.replace lane rfl rfl (Item.bury_bound (h.bound x hx))
      (fun _ => Item.bury_sound hsx sent)
      fun _ => order_replace ho (pre_unheld ho (hsx.not_fresh sent)) id
  | closed => exact h.toLoose.close _
  | draining healthy live gate =>
    have hl : { e with gate := .draining }.Loose :=
      { h.toLoose with gate := by simp [live] }
    exact hl.drained
  | confirmed healthy phase =>
    have hl : e.lane = [] := h.idle (by simp [phase])
    refine
      { h with
        gate := by simp
        reason := ?_
        idle := fun _ => hl
        draining := by simp }
    have := h.reason
    simpa [phase] using this
  | replied _ _ front =>
    exact (h.toLoose.sublist (by rw [front]; exact List.sublist_cons_self _ _)).drained
  | unmoved => exact h
  | @progressed pre post x w n healthy front unfinished =>
    have hx := front.mem
    have ho := h.order healthy
    rw [front.lane] at ho
    exact h.replace front.lane Item.progress_id Item.reported_effect
      (Item.progress_bound (h.bound x hx) (h.sound healthy x hx) front.write unfinished.le)
      (fun _ => Item.progress_sound (h.sound healthy x hx) front.write unfinished)
      fun _ => order_replace ho front.before fun _ => by rw [front.write]; rfl
  | @finished pre post x w n healthy front whole reply =>
    have hx := front.mem
    have ho := h.order healthy
    rw [front.lane] at ho
    exact h.replace front.lane Item.finish_id Item.reported_effect Item.finish_bound
      (fun _ => Item.finish_sound (h.sound healthy x hx) front.write reply)
      fun _ => order_replace ho front.before fun hs => by simp [Item.finish] at hs
  | completed healthy front =>
    exact (h.toLoose.sublist (by rw [front.lane]; exact sublist_remove _ _ _)).drained
  | @overran pre post x w n healthy front excess =>
    have hx := front.mem
    have hp := h.poison (.writeProgressContract n (w.measure.wireBytes - w.written)) (by simp)
    exact hp.replace front.lane rfl rfl (Item.overrun_bound (h.bound x hx) front.write)
      (by simp) (by simp)
  | offered => exact h
  | offerRefused => exact h
  | reshaped => exact h.poison _ (by simp)
  | recovered =>
    have hl := h.toLoose.sublist (List.nil_sublist e.lane)
    have hne : (e.poisoned <|> some .recovered) ≠ none := by cases e.poisoned <;> simp
    exact
      { hl with
        sound := fun hp => absurd hp hne
        order := fun hp => absurd hp hne
        recovered := fun _ => rfl
        draining := fun hp => absurd hp hne }

end Epoch
end Bornera.Core
