import Bornera.Slot.Steps

/-!
# The memory of a transport

A slot binds the first limit its transport reports, within its own ceiling, and checks every later
report against it. `Memory` is what it remembers, and `look` what one report makes of it. A report
beyond the bound is never forgotten, and the slot that saw it fails in the same call.
-/

namespace Bornera.Slot

open Bornera.Core Bornera.Core.Epoch Lib ConnectionSlot

variable {B D C R E T : Type} {Q W : Type → Type} [ByteBudget B] [FrameDecoder D R E] [Retained R]
  [InboundClassifier C R] [EventBatch Q] [TimerQueue W] [SlotTransport T]

/-! ### The bound -/

/-- What a slot knows of the memory of its transport. -/
structure Memory where
  ceiling : ℕ
  limit : Option ℕ
  pressure : Option TransportPressure
  diverged : Bool

namespace Memory

/-- A report of a limit and of what is held. -/
def look (m : Memory) (limit : ℕ) (pressure : TransportPressure) : Memory :=
  if m.ceiling < limit ∨ m.limit.any (· ≠ limit) then
    { m with pressure := some pressure, diverged := true }
  else
    { m with
      limit := some limit
      pressure := some pressure
      diverged := m.diverged || decide (limit < pressure.total) }

/-- The report keeps the contract. -/
def Within (m : Memory) (limit : ℕ) (pressure : TransportPressure) : Prop :=
  limit ≤ m.ceiling ∧ (∀ bound ∈ m.limit, bound = limit) ∧ pressure.total ≤ limit

/-- The bound is within the ceiling, and the last report within the bound unless one was not. -/
structure Sound (m : Memory) : Prop where
  ceiling : ∀ limit ∈ m.limit, limit ≤ m.ceiling
  pressure : m.diverged = false → ∀ pressure ∈ m.pressure, ∃ limit ∈ m.limit, pressure.total ≤ limit

/-- What is never forgotten: the bound, and a report beyond it. -/
structure Heeds (m m' : Memory) : Prop where
  ceiling : m'.ceiling = m.ceiling
  limit : ∀ limit ∈ m.limit, limit ∈ m'.limit
  diverged : m.diverged = true → m'.diverged = true

variable {m m' m'' : Memory} {limit : ℕ} {pressure : TransportPressure}

lemma Heeds.refl (m : Memory) : Heeds m m := ⟨rfl, fun _ h => h, id⟩

lemma Heeds.trans (h : Heeds m m') (h' : Heeds m' m'') : Heeds m m'' :=
  ⟨h'.ceiling.trans h.ceiling, fun limit hl =>
    h'.limit limit (h.limit limit hl), h'.diverged ∘ h.diverged⟩

lemma look_heeds (m : Memory) (limit : ℕ) (pressure : TransportPressure) :
    Heeds m (m.look limit pressure) := by
  unfold look
  split
  · exact ⟨rfl, fun _ h => h, fun _ => rfl⟩
  · next hkeeps =>
    refine ⟨rfl, fun bound hbound => ?_, fun h => by simp [h]⟩
    have hsame : bound = limit := by
      by_contra hne
      exact hkeeps (.inr (Option.any_eq_true .. |>.mpr ⟨bound, hbound, by simpa using hne⟩))
    exact congrArg some hsame.symm

lemma Sound.look (h : m.Sound) (limit : ℕ) (pressure : TransportPressure) :
    (m.look limit pressure).Sound := by
  unfold Memory.look
  split
  · exact ⟨h.ceiling, fun hfalse => by cases hfalse⟩
  · next hkeeps =>
    constructor
    · intro bound hbound
      cases hbound
      exact not_lt.mp fun hlt => hkeeps (.inl hlt)
    · intro hfalse held hheld
      cases hheld
      refine ⟨limit, rfl, ?_⟩
      simp only [Bool.or_eq_false_iff, decide_eq_false_iff_not] at hfalse
      exact not_lt.mp hfalse.2

/-- A report beyond the contract is noted. -/
lemma look_diverged (m : Memory) (limit : ℕ) (pressure : TransportPressure) :
    (m.look limit pressure).diverged = true ↔ m.diverged = true ∨ ¬m.Within limit pressure := by
  unfold look Within
  split
  · next hbreaks =>
    refine ⟨fun _ => .inr fun ⟨hceiling, hbound, _⟩ => ?_, fun _ => rfl⟩
    rcases hbreaks with hlt | hany
    · omega
    · obtain ⟨bound, hmem, hne⟩ := Option.any_eq_true .. |>.mp hany
      exact of_decide_eq_true hne (hbound bound hmem)
  · next hkeeps =>
    simp only [Bool.or_eq_true, decide_eq_true_eq]
    refine or_congr_right ⟨fun hlt hwithin => by omega, fun hnot => ?_⟩
    by_contra hge
    refine hnot ⟨not_lt.mp fun hlt => hkeeps (.inl hlt), fun bound hbound => ?_, not_lt.mp hge⟩
    by_contra hne
    exact hkeeps (.inr (Option.any_eq_true .. |>.mpr ⟨bound, hbound, by simpa using hne⟩))

end Memory

/-- The memory of a slot. -/
def ConnectionSlot.memory (s : ConnectionSlot B D C R Q W) : Memory :=
  ⟨s.limits.transportRetainedBytes, s.transportRetainedLimit, s.transportPressure,
    s.transportContractDiverged⟩

variable {permits : List OperationPermit} {cause : SlotCall T} {s s' : ConnectionSlot B D C R Q W}

omit [ByteBudget B] [Retained R] [InboundClassifier C R] [EventBatch Q] [TimerQueue W] in
/-- **The code takes each report as `look` says**, and fails exactly on one
that breaks the contract. -/
lemma capture_memory (s : ConnectionSlot B D C R Q W) (t : T) :
    (captureTransportPressure (s, t)).2.1.memory =
      s.memory.look (SlotTransport.pressureLimit t).1
        (SlotTransport.pressure (SlotTransport.pressureLimit t).2).1 ∧
    ((captureTransportPressure (s, t)).1 = .ok () ↔
      s.memory.Within (SlotTransport.pressureLimit t).1
        (SlotTransport.pressure (SlotTransport.pressureLimit t).2).1) := by
  have hwithin :=
    Memory.look_diverged { s.memory with diverged := false } (SlotTransport.pressureLimit t).1
    (SlotTransport.pressure (SlotTransport.pressureLimit t).2).1
  simp only [Bool.false_eq_true, false_or] at hwithin
  have hsame : ∀ limit pressure,
      ({ s.memory with diverged := false } : Memory).Within limit pressure ↔
      s.memory.Within limit pressure :=
    fun _ _ => Iff.rfl
  rw [hsame, ← not_iff_not, not_not] at hwithin
  rw [capture_run, ← hwithin]
  unfold Memory.look ConnectionSlot.memory
  split
  · exact ⟨rfl, by simp⟩
  · split
    · next hfits => exact ⟨by simp [Nat.not_lt.mpr hfits], by simp [Nat.not_lt.mpr hfits]⟩
    · next hfull =>
        exact ⟨by simp [ConnectionSlot.diverge, not_le.mp hfull], by simp [not_le.mp hfull]⟩

/-! ### Moves -/

omit [ByteBudget B] [InboundClassifier C R] in
lemma interpret_memory {X : Type}
    (outcomeOf : OperationOutcome X → Except EngineInvariant (OperationOutcome R))
    (tr : ConnectionTransition X)
    (s : ConnectionSlot B D C R Q W) : (interpret outcomeOf tr s).2.memory = s.memory := by
  rw [interpret_frame]
  rfl

omit [ByteBudget B] [Retained R] [InboundClassifier C R] [TimerQueue W] in
lemma publishNext_memory (event : ℕ → ConnectionEpoch → ConnectionEvent)
    (s : ConnectionSlot B D C R Q W) :
    (publishNext event s).2.memory = s.memory := by
  rw [publishNext_frame]
  rfl

omit [ByteBudget B] [EventBatch Q] in
lemma Occasion.memory {t t' : Option T} {call : Call OutboundFrame Unit}
    {tr : Option (ConnectionTransition Unit)}
    {f : ConnectionSlot B D C R Q W → ConnectionSlot B D C R Q W}
    (h : Occasion cause s t call tr f t')
    (s₁ : ConnectionSlot B D C R Q W) : (f s₁).memory = s₁.memory := by
  rw [h.frame s₁]
  rfl

omit [ByteBudget B] [Retained R] [InboundClassifier C R] [EventBatch Q] [TimerQueue W] in
/-- A step of the shutdown looks once, after the transport has made it, and
fails on a broken contract. -/
lemma shutdownStep_memory (reason : CloseReason) (deadline : Deadline)
    (drive : T → TransportBudget → Except TransportDiagnostic TransportProgress × T)
    (s : ConnectionSlot B D C R Q W) (t : T) :
    (shutdownStep reason deadline drive (s, t)).2.1.memory =
      (captureTransportPressure (s, (drive t s.transportBudget).2)).2.1.memory ∧
    ((captureTransportPressure (s, (drive t s.transportBudget).2)).1 ≠ .ok () →
      (fault (shutdownStep reason deadline drive (s, t)).1).isSome) := by
  rw [shutdownStep_run]
  generalize captureTransportPressure (s, (drive t s.transportBudget).2) = captured
  obtain ⟨result, s₁, t₁⟩ := captured
  dsimp only
  cases (drive t s.transportBudget).1 with
  | error source =>
    refine ⟨rfl, fun hbroken => ?_⟩
    cases result with
    | error => rfl
    | ok => exact absurd rfl hbroken
  | ok progress =>
    cases result with
    | error => exact ⟨rfl, fun _ => rfl⟩
    | ok =>
      dsimp only
      split <;> exact ⟨rfl, fun hbroken => absurd rfl hbroken⟩

/-- **A move leaves the memory as it is, or takes one report of the transport**, and a report that
breaks the contract is a failure. -/
theorem Move.memory {a b : Scene B D C R Q W T} (h : Move permits cause a b) :
    b.slot.memory = a.slot.memory ∨
    ∃ limit pressure, b.slot.memory = a.slot.memory.look limit pressure ∧
      (¬a.slot.memory.Within limit pressure → b.fault.isSome) := by
  have hlook : ∀ (s : ConnectionSlot B D C R Q W) (t : T) (flt : Option EngineError),
      ((captureTransportPressure (s, t)).1 ≠ .ok () → flt.isSome) →
      ∃ limit pressure, (captureTransportPressure (s, t)).2.1.memory =
        s.memory.look limit pressure ∧
        (¬s.memory.Within limit pressure → flt.isSome) := by
    intro s t flt hbroken
    obtain ⟨hmemory, hwithin⟩ := capture_memory s t
    exact ⟨_, _, hmemory, fun hnot => hbroken fun hok => hnot (hwithin.mp hok)⟩
  cases h with
  | @exchange s _ _ _ _ _ tr f core occasion =>
    exact .inl ((interpret_memory _ _ _).trans (occasion.memory _))
  | refused occasion => exact .inl (occasion.memory _)
  | replied => exact .inl (interpret_memory _ _ _)
  | admitted => exact .inl (publishNext_memory _ _)
  | opened => exact .inl (publishNext_memory _ _)
  | pressed s t e flt =>
    refine .inr (hlook s t _ fun hbroken => ?_)
    cases flt with
    | some => rfl
    | none =>
      rcases hresult : (captureTransportPressure (s, t)).1 with error | _
      · rfl
      · exact absurd hresult hbroken
  | quiet s t e undue =>
    refine .inl ?_
    dsimp only
    rw [popDue_frame]
    rfl
  | forced s s' t e called forced =>
    refine .inl ?_
    dsimp only
    rw [forceShutdown_frame forced]
    rfl
  | @shut s t e reason _ deadline drive request shuts =>
    obtain ⟨hmemory, hfails⟩ := shutdownStep_memory reason deadline drive s t
    dsimp only
    rw [hmemory]
    exact .inr (hlook s _ _ hfails)
  | _ => exact .inl rfl

/-- A failure in the course of a call stays. -/
lemma Move.faulted {a b : Scene B D C R Q W T} (h : Move permits cause a b) (ha : a.fault.isSome) :
    b.fault.isSome := by
  cases h with
  | pressed s t e flt =>
    cases flt with
    | none => cases ha
    | some => rfl
  | _ => cases ha

/-- **A path heeds the memory**: a report that breaks the contract makes it fail. -/
theorem Path.memory {a b : Scene B D C R Q W T} (h : Path permits cause a b) :
    a.slot.memory.Heeds b.slot.memory ∧
    (a.slot.memory.Sound → b.slot.memory.Sound) ∧
      (b.slot.memory.diverged = true → a.slot.memory.diverged = true ∨ b.fault.isSome) := by
  induction h with
  | refl => exact ⟨.refl _, id, .inl⟩
  | tail _ hmove ih =>
    obtain ⟨hheeds, hsound, hdiverged⟩ := ih
    rcases hmove.memory with hsame | ⟨limit, pressure, hlook, hfails⟩
    · rw [hsame]
      exact ⟨hheeds, hsound, fun h => (hdiverged h).imp_right hmove.faulted⟩
    · rw [hlook]
      refine ⟨hheeds.trans (Memory.look_heeds ..), fun h => (hsound h).look limit pressure,
        fun h => ?_⟩
      rcases (Memory.look_diverged ..).mp h with hbefore | hbroken
      · exact (hdiverged hbefore).imp_right hmove.faulted
      · exact .inr (hfails hbroken)

/-! ### Calls -/

/-- A slot whose transport broke its contract has failed. -/
structure Guarded (s : ConnectionSlot B D C R Q W) : Prop where
  sound : s.memory.Sound
  failed : s.memory.diverged = true → s.state ≠ .running

section
omit [ByteBudget B] [Retained R] [InboundClassifier C R] [EventBatch Q] [TimerQueue W]

lemma Guarded.of_memory (h : Guarded s) (hmemory : s'.memory = s.memory)
    (hstate : s'.state = .running → s.state = .running) : Guarded s' :=
  ⟨hmemory ▸ h.sound, fun hd hrunning => h.failed (hmemory ▸ hd) (hstate hrunning)⟩

lemma Guarded.settled (h : Guarded s) (hmemory : s'.memory = s.memory)
    (hstate : s'.state = .running → s.state = .running) :
    Guarded s' ∧ s.memory.Heeds s'.memory := ⟨h.of_memory hmemory hstate, hmemory ▸ .refl _⟩

lemma latchOwnerFailure_memory (s : ConnectionSlot B D C R Q W) (reason : OwnerFailure) :
    (s.latchOwnerFailure reason).memory = s.memory := by
  rw [latchOwnerFailure_frame]
  rfl

lemma latchFailure_memory (s : ConnectionSlot B D C R Q W) (error : EngineError) :
    (s.latchFailure error).memory = s.memory := by
  unfold latchFailure
  split
  · rfl
  · exact latchOwnerFailure_memory ..

lemma Guarded.latch (h : Guarded s) (reason : OwnerFailure) :
    Guarded (s.latchOwnerFailure reason) :=
  h.of_memory (latchOwnerFailure_memory s reason) fun hrunning =>
    absurd hrunning (latchOwnerFailure_state s reason)

lemma Latched.memory {flt : Option EngineError} (h : Latched s flt s') : s'.memory = s.memory := by
  rw [h.frame]
  rfl

lemma Latched.unfaulted {flt : Option EngineError} (h : Latched s flt s')
    (hrunning : s'.state = .running) : flt = none := by
  cases h with
  | running => rfl
  | failed error => exact absurd hrunning (latchOwnerFailure_state _ _)

end

variable {e e' : Epoch OutboundFrame} {permits' : List OperationPermit}

/-- **A call heeds the memory**, and a slot that is running after it has seen no broken contract. -/
theorem SlotStep.guarded {call : SlotCall T} {r : SlotResponse R T}
    (h : SlotStep s e permits call r (some s') e' permits')
    (hs : Guarded s) : Guarded s' ∧ s.memory.Heeds s'.memory := by
  cases h using SlotStep.casesPlain with
  | plain _ hplain =>
    rcases hplain.slot with hslot | ⟨_, _, hslot⟩
    · have hmemory : s'.memory = s.memory := by
        rw [hslot]
        rfl
      refine ⟨hs.of_memory hmemory fun hrunning => ?_, hmemory ▸ .refl _⟩
      rw [hslot] at hrunning
      exact hrunning
    · rw [hslot]
      exact ⟨hs.latch _, latchOwnerFailure_memory s _ ▸ .refl _⟩
  | drove running guards path latched =>
    obtain ⟨hheeds, hsound, hdiverged⟩ := path.memory
    rw [← latched.memory] at hheeds hsound hdiverged
    refine ⟨⟨hsound hs.sound, fun hd hrunning => ?_⟩, hheeds⟩
    rcases hdiverged hd with hbefore | hfault
    · exact hs.failed hbefore running
    · rw [latched.unfaulted hrunning] at hfault
      cases hfault
  | committed running step latched =>
    have hmemory := latched.memory.trans (interpret_memory unitOutcome _ _)
    exact ⟨hs.of_memory hmemory fun _ => running, hmemory ▸ .refl _⟩
  | aborted => exact ⟨hs.of_memory rfl id, .refl _⟩
  | confirmed request ready step published =>
    exact hs.settled (publishNext_memory _ _) fun hrunning => by
      rw [publishClosed, publishNext_frame] at hrunning
      exact hrunning
  | unpublished request ready step published =>
    exact hs.settled ((latchOwnerFailure_memory _ _).trans (publishNext_memory _ _)) fun hrunning =>
      absurd hrunning (latchOwnerFailure_state _ _)
  | unconfirmed request ready step =>
    exact hs.settled (latchOwnerFailure_memory _ _) fun hrunning =>
      absurd hrunning (latchOwnerFailure_state _ _)

/-! ### Runs -/

omit [Retained R] [InboundClassifier C R] in
lemma Guarded.new (setup : SlotSetup D C R E) : Guarded (setup.slot : ConnectionSlot B D C R Q W) :=
  ⟨⟨fun _ h => (by cases h), fun _ _ h => (by cases h)⟩, fun h => by cases h⟩

/-- In every run the memory is guarded. -/
lemma guarded_run (setup : SlotSetup D C R E) (calls : List (SlotCall T))
    (hslot : s ∈ (setup.final B Q W calls).slot) :
    ∃ e, Owns (setup.final B Q W calls).permits s e ∧ Guarded s := by
  have hrun : Standing (fun _ s _ _ => Guarded s) (fun _ => True) (setup.history B Q W calls)
      (setup.final B Q W calls) := by
    refine standing_run setup (Guarded.new setup) ?_ (fun _ _ _ _ _ _ _ _ _ _ _ _ => trivial)
      (fun _ _ _ _ _ => trivial) calls
    intro h s e permits call s' e' ev _ hs hstep _ _ _ _
    exact (hstep.guarded hs).1
  unfold Standing at hrun
  rw [Option.mem_def.mp hslot] at hrun
  exact hrun

/-- What a slot knows of the memory is heeded by every later slot of the run. -/
lemma memory_heeded (setup : SlotSetup D C R E) (calls more : List (SlotCall T))
    (hslot : s ∈ (setup.final B Q W calls).slot)
    (hslot' : s' ∈ (setup.final B Q W (calls ++ more)).slot) : s.memory.Heeds s'.memory := by
  induction more using List.reverseRecOn generalizing s' with
  | nil =>
    rw [List.append_nil] at hslot'
    cases Option.mem_unique hslot hslot'
    exact .refl _
  | append_singleton more call ih =>
    have hfinal : (setup.final B Q W (calls ++ (more ++ [call]))) =
        (SlotWorld.step (setup.final B Q W (calls ++ more)) call).1 := by
      rw [← List.append_assoc]
      exact Transducer.final_snoc _ _ _
    rw [hfinal] at hslot'
    cases hbefore : (setup.final B Q W (calls ++ more)).slot with
    | none =>
      unfold SlotWorld.step at hslot'
      rw [hbefore] at hslot'
      cases call with
      | dropPermit index => cases hslot'
      | _ => cases (Option.mem_def.mp hslot').symm.trans hbefore
    | some s₁ =>
      obtain ⟨e, howns, hguarded⟩ := guarded_run setup (calls ++ more) hbefore
      obtain ⟨e', hstep, _⟩ := follows_slot howns call
      unfold SlotWorld.step at hslot'
      rw [hbefore] at hslot'
      rw [Option.mem_def.mp hslot'] at hstep
      exact (ih hbefore).trans (hstep.guarded hguarded).2

/-! ### Audited transports -/

/-- What a transport says about its memory. -/
inductive Report where
  | limit (bytes : ℕ)
  | pressure (held : TransportPressure)

/-- The report is within what is bound. -/
def Memory.Conforms (m : Memory) : Report → Prop
  | .limit bytes => bytes ∈ m.limit ∧ bytes ≤ m.ceiling
  | .pressure held => ∃ limit ∈ m.limit, held.total ≤ limit

/-- A transport with the list of all its reports. -/
structure Audited (T : Type) where
  inner : T
  reports : List Report

/-- The transport makes a step. -/
def Audited.goes {α : Type} (u : Audited T) (ran : α × T) : α × Audited T :=
  (ran.1, { u with inner := ran.2 })

/-- It does what its transport does, and lists its reports. -/
instance : SlotTransport (Audited T) where
  read u {_} slice := u.goes (SlotTransport.read u.inner slice)
  write u bytes := u.goes (SlotTransport.write u.inner bytes)
  driveEstablishment u policy budget :=
    u.goes (SlotTransport.driveEstablishment u.inner policy budget)
  driveTransport u budget := u.goes (SlotTransport.driveTransport u.inner budget)
  beginShutdown u budget := u.goes (SlotTransport.beginShutdown u.inner budget)
  canEstablish u := u.goes (SlotTransport.canEstablish u.inner)
  hasTransportWork u := u.goes (SlotTransport.hasTransportWork u.inner)
  isShutdownComplete u := u.goes (SlotTransport.isShutdownComplete u.inner)
  isOpen u := u.goes (SlotTransport.isOpen u.inner)
  canRead u := u.goes (SlotTransport.canRead u.inner)
  canWrite u := u.goes (SlotTransport.canWrite u.inner)
  desiredInterest u hasWrites := u.goes (SlotTransport.desiredInterest u.inner hasWrites)
  pressure u := ((SlotTransport.pressure u.inner).1,
    ⟨(SlotTransport.pressure u.inner).2,
      u.reports ++ [.pressure (SlotTransport.pressure u.inner).1]⟩)
  pressureLimit u := ((SlotTransport.pressureLimit u.inner).1,
    ⟨(SlotTransport.pressureLimit u.inner).2,
      u.reports ++ [.limit (SlotTransport.pressureLimit u.inner).1]⟩)
  clearRead u := { u with inner := SlotTransport.clearRead u.inner }
  clearWrite u := { u with inner := SlotTransport.clearWrite u.inner }

lemma Memory.Heeds.conforms {m m' : Memory} (h : m.Heeds m') {report : Report}
    (hm : m.Conforms report) : m'.Conforms report := by
  cases report with
  | limit bytes => exact ⟨h.limit bytes hm.1, h.ceiling ▸ hm.2⟩
  | pressure held =>
    obtain ⟨limit, hlimit, hle⟩ := hm
    exact ⟨limit, h.limit limit hlimit, hle⟩

/-- Every report so far conforms, or a broken contract was noted. -/
def Memory.Accounts (m : Memory) (reports : List Report) : Prop :=
  ∀ report ∈ reports, m.Conforms report ∨ m.diverged = true

lemma Memory.Heeds.accounts {m m' : Memory} (h : m.Heeds m') {reports : List Report}
    (hm : m.Accounts reports) : m'.Accounts reports :=
  fun report hreport => (hm report hreport).imp h.conforms h.diverged

/-- A look accounts for its two reports. -/
lemma Memory.Accounts.look {m : Memory} {reports : List Report} (h : m.Accounts reports) (limit : ℕ)
    (pressure : TransportPressure) :
    (m.look limit pressure).Accounts (reports ++ [.limit limit, .pressure pressure]) := by
  intro report hreport
  rcases List.mem_append.mp hreport with hold | hnew
  · exact (m.look_heeds limit pressure).accounts h report hold
  · by_cases hwithin : m.Within limit pressure
    · refine .inl ?_
      have hlimit : (m.look limit pressure).limit = some limit ∧
          (m.look limit pressure).ceiling = m.ceiling := by
        unfold Memory.look
        rw [if_neg]
        · exact ⟨rfl, rfl⟩
        · rintro (hlt | hany)
          · exact absurd hwithin.1 (not_le.mpr hlt)
          · obtain ⟨bound, hmem, hne⟩ := Option.any_eq_true .. |>.mp hany
            exact of_decide_eq_true hne (hwithin.2.1 bound hmem)
      simp only [List.mem_cons, List.not_mem_nil, or_false] at hnew
      rcases hnew with rfl | rfl
      · exact ⟨hlimit.1, hlimit.2 ▸ hwithin.1⟩
      · exact ⟨limit, hlimit.1, hwithin.2.2⟩
    · exact .inr ((m.look_diverged limit pressure).mpr (.inr hwithin))

omit [ByteBudget B] [Retained R] [InboundClassifier C R] [EventBatch Q] [TimerQueue W] in
/-- A look at an audited transport. -/
lemma capture_reports (s : ConnectionSlot B D C R Q W) (u : Audited T) :
    ∃ limit pressure, (captureTransportPressure (s, u)).2.1.memory = s.memory.look limit pressure ∧
      (captureTransportPressure (s, u)).2.2.reports =
        u.reports ++ [.limit limit, .pressure pressure] := by
  refine ⟨_, _, (capture_memory s u).1, ?_⟩
  have hreports : (SlotTransport.pressure (SlotTransport.pressureLimit u).2).2.reports =
      u.reports ++ [.limit (SlotTransport.pressureLimit u).1,
          .pressure (SlotTransport.pressure (SlotTransport.pressureLimit u).2).1] := by
    rw [show ([.limit _, .pressure _] : List Report) = [.limit _] ++ [.pressure _] from rfl,
      ← List.append_assoc]
    rfl
  rw [capture_run]
  split
  · exact hreports
  · split <;> exact hreports

/-- Nothing but a look at the memory adds a report. -/
lemma Touch.reports {u u' : Audited T} (h : Touch u u') : u'.reports = u.reports := by
  cases h <;> rfl

lemma ShutsBy.reports {deadline : Deadline} {shutdown : ShutdownState}
    {drive : Audited T → TransportBudget → Except TransportDiagnostic TransportProgress × Audited T}
    (h : ShutsBy (Audited T) deadline shutdown drive) (u : Audited T)
    (budget : TransportBudget) : (drive u budget).2.reports = u.reports := by
  cases h <;> rfl

omit [ByteBudget B] [Retained R] [InboundClassifier C R] [EventBatch Q] [TimerQueue W] in
lemma shutdownStep_transport (reason : CloseReason) (deadline : Deadline)
    (drive : Audited T → TransportBudget → Except TransportDiagnostic TransportProgress × Audited T)
    (s : ConnectionSlot B D C R Q W)
    (u : Audited T) : (shutdownStep reason deadline drive (s, u)).2.2.reports =
      (captureTransportPressure (s, (drive u s.transportBudget).2)).2.2.reports := by
  rw [shutdownStep_run]
  generalize captureTransportPressure (s, (drive u s.transportBudget).2) = captured
  obtain ⟨result, s₁, u₁⟩ := captured
  dsimp only
  split
  · rfl
  · rfl
  · split <;> rfl

/-- Every report of the transport is accounted for. -/
def Accounted (sc : Scene B D C R Q W (Audited T)) : Prop :=
  ∀ u ∈ sc.transport, sc.slot.memory.Accounts u.reports

omit [ByteBudget B] [Retained R] [InboundClassifier C R] [EventBatch Q] [TimerQueue W]
  [SlotTransport T] in
lemma Accounted.same {a b : Scene B D C R Q W (Audited T)} (ha : Accounted a)
    (hmemory : b.slot.memory = a.slot.memory)
    (hreports : ∀ u' ∈ b.transport, ∃ u ∈ a.transport, u'.reports = u.reports) : Accounted b := by
  intro u' hu'
  obtain ⟨u, hu, heq⟩ := hreports u' hu'
  rw [hmemory, heq]
  exact ha u hu

omit [ByteBudget B] [Retained R] [InboundClassifier C R] [EventBatch Q] [TimerQueue W] in
lemma Accounted.looked {s : ConnectionSlot B D C R Q W} {u u₀ : Audited T}
    (h : s.memory.Accounts u₀.reports) (hreports : u.reports = u₀.reports) :
    (captureTransportPressure (s, u)).2.1.memory.Accounts
      (captureTransportPressure (s, u)).2.2.reports := by
  obtain ⟨limit, pressure, hmemory, hnew⟩ := capture_reports s u
  rw [hmemory, hnew, hreports]
  exact h.look limit pressure

omit [ByteBudget B] [EventBatch Q] in
lemma Occasion.reports {cause : SlotCall (Audited T)} {t t' : Option (Audited T)}
    {call : Call OutboundFrame Unit} {tr : Option (ConnectionTransition Unit)}
    {f : ConnectionSlot B D C R Q W → ConnectionSlot B D C R Q W}
    (h : Occasion cause s t call tr f t') : ∀ u' ∈ t', ∃ u ∈ t, u'.reports = u.reports := by
  cases h with
  | wrote _ offered here =>
    rintro u' ⟨⟩
    exact ⟨_, here, rfl⟩
  | _ => exact fun u' hu' => ⟨u', hu', rfl⟩

lemma Move.accounted {cause : SlotCall (Audited T)} {a b : Scene B D C R Q W (Audited T)}
    (h : Move permits cause a b) (ha : Accounted a) :
    Accounted b := by
  have hkept : ∀ {t : Option (Audited T)}, ∀ u' ∈ t, ∃ u ∈ t, u'.reports = u.reports :=
    fun u' hu' => ⟨u', hu', rfl⟩
  cases h with
  | @exchange s _ _ _ _ _ tr f core occasion =>
    exact ha.same ((interpret_memory _ _ _).trans (occasion.memory _)) occasion.reports
  | refused occasion => exact ha.same (occasion.memory _) occasion.reports
  | replied => exact ha.same (interpret_memory _ _ _) hkept
  | admitted => exact ha.same (publishNext_memory _ _) hkept
  | opened s t e =>
    refine ha.same (publishNext_memory _ _) ?_
    rintro u' ⟨⟩
    exact ⟨_, rfl, rfl⟩
  | pressed s t e flt =>
    rintro u' ⟨⟩
    exact Accounted.looked (ha t rfl) rfl
  | quiet s t e undue =>
    refine ha.same ?_ hkept
    dsimp only
    rw [popDue_frame]
    rfl
  | forced s s' t e called forced =>
    refine ha.same ?_ hkept
    dsimp only
    rw [forceShutdown_frame forced]
    rfl
  | @shut s t e reason _ deadline drive request shuts =>
    rintro u' ⟨⟩
    dsimp only
    rw [(shutdownStep_memory reason deadline drive s t).1, shutdownStep_transport]
    exact Accounted.looked (ha t rfl) (shuts.reports t _)
  | completed s t e =>
    refine ha.same rfl ?_
    rintro u' ⟨⟩
    exact ⟨_, rfl, rfl⟩
  | touched s e touch =>
    refine ha.same rfl ?_
    rintro u' ⟨⟩
    exact ⟨_, rfl, touch.reports⟩
  | overread s t e =>
    refine ha.same rfl ?_
    rintro u' ⟨⟩
    exact ⟨_, rfl, rfl⟩
  | misreported s e misreports =>
    refine ha.same rfl ?_
    rintro u' ⟨⟩
    cases misreports <;> exact ⟨_, rfl, rfl⟩
  | openedEarly s t e =>
    refine ha.same rfl ?_
    rintro u' ⟨⟩
    exact ⟨_, rfl, rfl⟩
  | _ => exact ha.same rfl hkept

/-- **A quantum accounts for every report of its transport.** -/
lemma Owns.accounts {e : Epoch OutboundFrame} (howns : Owns permits s e) (now : ℕ)
    (t : Option (Audited T)) (ht : ∀ u ∈ t, s.memory.Accounts u.reports) :
    ∀ u' ∈ (driveQuantum now (s, t)).2.2,
      (driveQuantum now (s, t)).2.1.memory.Accounts u'.reports := by
  cases hstate : s.state with
  | failed reason =>
    have hrun : driveQuantum now (s, t) = (.error (.ownerFailed reason), s, t) := by
      simp only [driveQuantum, ensureRunning, hstate, EngineState.failure]
    rw [hrun]
    exact ht
  | running =>
    have hwalks : Walks permits (.driveQuantum now t) along (driveQuantumInner now) (s, t) :=
      walks_driveQuantumInner rfl (s, t)
    obtain ⟨hown, hpath⟩ := hwalks
    obtain ⟨e', hpath⟩ := hpath e howns
    have hlatched := latched_of_own hown (driveQuantumInner now (s, t)).2.1
    have haccounted :=
      hpath.keeps (I := Accounted) howns ht fun _ _ hmove _ ha => hmove.accounted ha
    rw [driveQuantum_run hstate]
    intro u' hu'
    dsimp only
    rw [hlatched.memory]
    exact haccounted u' hu'

end Bornera.Slot
