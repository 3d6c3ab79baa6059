import Bornera.Core.Settlement

/-!
# Recovery is an exact merge

A core that fails in the middle of a transition leaves two partial lists: the journal of the records
it was about to change, by their wire index, and the records that are still pending. `Fate` says
what became of each record of before the transition; the loops of the recovery
(`connection/{recovery,recovery_item}.rs`) treat the fates in wire order
(`recoverInWireOrder_fates`), and each fate takes the frame of its own identity.
-/

namespace Bornera.Core

open Lib Lib.Lookup

variable {B F : Type}

/-! ### What recovery finds -/

/-- What the journal keeps of a record. -/
def JournalOperation.of (wireIndex : ℕ) (record : OperationRecord) : JournalOperation :=
  ⟨wireIndex, record.id, record.effect, record.delivery, record.phase, record.writeHeld⟩

/-- A journal of records from before a transition: nothing, all of them, or one. -/
inductive Journals (records : List OperationRecord) : List JournalOperation → Prop where
  | empty : Journals records []
  | whole : Journals records (records.mapIdx JournalOperation.of)
  | one {index : ℕ} {record : OperationRecord} (here : records[index]? = some record) :
    Journals records [.of index record]

/-- The records of before a transition and those still pending after it: some of the journaled ones
are gone, and the others may have changed, except for their identities. -/
inductive Remains
    (journal : List JournalOperation) : List OperationRecord → List OperationRecord → Prop where
  | nil : Remains journal [] []
  | kept {record current : OperationRecord} {records pending : List OperationRecord}
    (same : current.id = record.id ∧ current.effect = record.effect)
    (rest : Remains journal records pending) :
    Remains journal (record :: records) (current :: pending)
  | gone {record : OperationRecord} {records pending : List OperationRecord}
    (journaled : record.id ∈ journal.map JournalOperation.operation)
    (rest : Remains journal records pending) :
    Remains journal (record :: records) pending

/-- The write has the identities of the record. -/
def OperationRecord.owns (record : OperationRecord) (write : DiscardedWrite F) : Bool :=
  write.operation = record.id ∧ write.effect = record.effect

/-- The record of an operation as recovery sees it: the pending one, or else the journaled one. -/
def standing (pending : List OperationRecord) (record : OperationRecord) : OperationRecord :=
  (pending.find? (·.id = record.id)).getD record

/-- What is recovered for a record, with the frame of its identity. -/
def restored (writes : List (DiscardedWrite F)) (record : OperationRecord) : RecoveredOperation F :=
  match writes.find? record.owns with
  | some write => ⟨record.id, weaken record.delivery write.delivery, some write.frame⟩
  | none => ⟨record.id, record.delivery, none⟩

/-- What is recovered for a record of before the transition, when it is not settled. -/
def emitted (pending : List OperationRecord) (writes : List (DiscardedWrite F))
    (record : OperationRecord) :
    Option (RecoveredOperation F) :=
  if (standing pending record).phase ≠ .terminal then
    some (restored writes (standing pending record)) else none

/-- The write has the identities of the journal entry. -/
def JournalOperation.owns (entry : JournalOperation) (write : DiscardedWrite F) : Bool :=
  write.operation = entry.operation ∧ write.effect = entry.effect

/-- The journal alone has the operation, and has it unsettled. -/
def JournalOperation.alone (pending : List OperationRecord) (entry : JournalOperation) : Bool :=
  !pending.any (·.id = entry.operation) && entry.phase ≠ .terminal

/-- The write has neither the identities of a pending record nor those of an unsettled one
that only the journal has. -/
def unmatched (journal : List JournalOperation) (pending : List OperationRecord)
    (write : DiscardedWrite F) : Bool :=
  !(pending.any (·.owns write) || journal.any fun entry => entry.alone pending && entry.owns write)

/-- Some record says that it holds a frame and there is none, or the other way round. -/
def heldAmiss (journal : List JournalOperation) (pending : List OperationRecord)
    (writes : List (DiscardedWrite F)) : Bool :=
  pending.any (fun record => record.writeHeld != writes.any record.owns) ||
    journal.any fun entry => entry.alone pending && entry.writeHeld != writes.any entry.owns

/-- No two frames have the same identities. -/
def Identified (writes : List (DiscardedWrite F)) : Prop :=
  (writes.map fun write => (write.operation, write.effect)).Nodup

/-- All frames of a core, those of the writer first. -/
def ConnectionCore.retained [ByteBudget B] (c : ConnectionCore B F) : List (DiscardedWrite F) :=
  c.writes.discardAll.1 ++ c.journal.takeWrites.1

/-! ### Fates -/

/-- What became of a record. -/
structure Fate where
  before : OperationRecord
  after : Option OperationRecord
  journaled : Bool

namespace Fate

/-- A record that is gone is in the journal, and one that is not has kept its identities. -/
structure Fair (f : Fate) : Prop where
  gone : f.after = none → f.journaled = true
  same : ∀ current ∈ f.after, current.id = f.before.id ∧ current.effect = f.before.effect

/-- The record as recovery sees it. -/
def record (f : Fate) : OperationRecord := f.after.getD f.before

/-- Recovery gives the record its frame. -/
def claims (f : Fate) : Bool := f.after.isSome || f.before.phase ≠ .terminal

/-- The journal of a list of fates, from one wire index on. -/
def journal : ℕ → List Fate → List JournalOperation
  | _, [] => []
  | wireIndex, f :: fates =>
    if f.journaled then
      .of wireIndex f.before :: journal (wireIndex + 1) fates else journal (wireIndex + 1) fates

/-- The records that are still pending. -/
def pending (fates : List Fate) : List OperationRecord := fates.filterMap Fate.after

/-- What recovery does for one record. -/
def recover (s : Recovering F) (f : Fate) : Recovering F :=
  match f.after with
  | some current => s.recoverCurrentOperation current
  | none => s.recoverJournalOperation (.of 0 f.before)

lemma recoverJournalOperation_index (s : Recovering F) (index : ℕ) (record : OperationRecord) :
    s.recoverJournalOperation (.of index record) = s.recoverJournalOperation (.of 0 record) := rfl

variable {fates : List Fate} {f : Fate}

lemma journal_index_le {n : ℕ} {entry : JournalOperation} (h : entry ∈ journal n fates) :
    n ≤ entry.wireIndex ∧ entry.wireIndex < n + fates.length := by
  induction fates generalizing n with
  | nil => cases h
  | cons f fates ih =>
    rw [journal] at h
    rw [List.length_cons]
    split at h
    · rcases List.mem_cons.mp h with rfl | h
      · exact ⟨le_rfl, by simp only [JournalOperation.of]; omega⟩
      · have hrest := ih h
        omega
    · have hrest := ih h
      omega

lemma journal_operations (n : ℕ) (fates : List Fate) :
    (journal n fates).map JournalOperation.operation = (fates.filter Fate.journaled).map fun f =>
      f.before.id := by
  induction fates generalizing n with
  | nil => rfl
  | cons f fates ih =>
    rw [journal]
    cases hj : f.journaled with
    | true =>
      rw [if_pos rfl, List.filter_cons_of_pos hj, List.map_cons, List.map_cons, ih]
      rfl
    | false =>
      rw [if_neg (by simp), List.filter_cons_of_neg (by simp [hj]), ih]

/-- The records of a list of fates that recovery may meet. -/
structure Distinct (fates : List Fate) : Prop where
  fair : ∀ f ∈ fates, f.Fair
  nodup : (fates.map fun f => f.before.id).Nodup

lemma Distinct.tail (h : Distinct (f :: fates)) : Distinct fates :=
  ⟨fun g hg => h.fair g (List.mem_cons_of_mem _ hg), (List.nodup_cons.mp h.nodup).2⟩

/-- The pending records of the other fates have other identities. -/
lemma Distinct.pending_ne (h : Distinct (f :: fates)) :
    ∀ record ∈ pending fates, record.id ≠ f.before.id := by
  intro record hmem heq
  obtain ⟨g, hg, hafter⟩ := List.mem_filterMap.mp hmem
  have hsame := ((h.tail.fair g hg).same record hafter).1
  exact (List.nodup_cons.mp h.nodup).1 (List.mem_map.mpr ⟨g, hg, hsame.symm.trans heq⟩)

/-- **The loop over the wire indices meets the fates in order.** -/
theorem recoverIndices_fates (ids : List OperationId) (fates : List Fate) (n : ℕ) (s : Recovering F)
    (h : Distinct fates) (hids : ∀ f ∈ fates, f.before.id ∈ ids ↔ f.journaled = true) :
    Recovering.recoverIndices ids (List.range' n fates.length) (journal n fates) (pending fates) s =
      ([], [], fates.foldl recover s) := by
  induction fates generalizing n s with
  | nil => rfl
  | cons f fates ih =>
    have hlater : ∀ entry ∈ journal (n + 1) fates, entry.wireIndex ≠ n := by
      intro entry hmem
      have hle := (journal_index_le hmem).1
      omega
    have hnone : (journal (n + 1) fates).filter (·.wireIndex = n) = [] := by
      rw [List.filter_eq_nil_iff]
      intro entry hmem
      simpa using hlater entry hmem
    have hrest : (journal (n + 1) fates).filter (·.wireIndex ≠ n) = journal (n + 1) fates := by
      rw [List.filter_eq_self]
      intro entry hmem
      simpa using hlater entry hmem
    have hnext := fun s' => ih (n + 1) s' h.tail fun g hg => hids g (List.mem_cons_of_mem _ hg)
    have hfair := h.fair f (List.mem_cons_self ..)
    rw [List.length_cons, List.range'_succ, Recovering.recoverIndices, List.foldl_cons, journal]
    cases hj : f.journaled with
    | true =>
      rw [if_pos rfl, List.filter_cons_of_pos (by simp [JournalOperation.of]), hnone]
      simp only
      rw [List.filter_cons_of_neg (by simp [JournalOperation.of]), hrest, Recovering.recoverEntries]
      simp only [Bool.false_eq_true, if_false]
      cases hafter : f.after with
      | some current =>
        obtain ⟨hid, heffect⟩ := hfair.same current hafter
        have hpending : pending (f :: fates) = current :: pending fates := by simp [pending, hafter]
        have hhead : removeFirst (fun record =>
          decide (record.id = (JournalOperation.of n f.before).operation))
            (current :: pending fates) = some (current, pending fates) := by
          rw [removeFirst, if_pos]
          exact decide_eq_true hid
        rw [hpending, hhead]
        simp only [JournalOperation.of, heffect, ne_eq, not_true_eq_false, if_false,
          Recovering.recoverEntries]
        rw [hnext, recover, hafter]
      | none =>
        have hpending : pending (f :: fates) = pending fates := by simp [pending, hafter]
        have hgone : removeFirst (fun record =>
          decide (record.id = (JournalOperation.of n f.before).operation)) (pending fates) = none :=
          removeFirst_none fun record hmem => decide_eq_false (h.pending_ne record hmem)
        rw [hpending, hgone]
        simp only [Recovering.recoverEntries]
        rw [recoverJournalOperation_index, hnext, recover, hafter]
    | false =>
      rw [if_neg (by simp), hnone]
      simp only
      cases hafter : f.after with
      | none => rw [hfair.gone hafter] at hj; cases hj
      | some current =>
        obtain ⟨hid, _⟩ := hfair.same current hafter
        have hpending : pending (f :: fates) = current :: pending fates := by simp [pending, hafter]
        have hfree : current.id ∉ ids := by
          rw [hid, hids f (List.mem_cons_self ..), hj]
          simp
        rw [hpending, removeFirst, if_pos (by simpa using hfree)]
        simp only
        rw [hnext, recover, hafter]

/-- A record is pending exactly when it is not gone. -/
lemma Distinct.any_pending (h : Distinct fates) (hf : f ∈ fates) :
    (pending fates).any (·.id = f.before.id) = f.after.isSome := by
  cases hafter : f.after with
  | some current =>
    rw [Option.isSome_some, List.any_eq_true]
    exact ⟨current, List.mem_filterMap.mpr ⟨f, hf, hafter⟩,
      decide_eq_true ((h.fair f hf).same current hafter).1⟩
  | none =>
    rw [Option.isSome_none, List.any_eq_false]
    intro record hmem heq
    obtain ⟨g, hg, hgafter⟩ := List.mem_filterMap.mp hmem
    have hids : g.before.id = f.before.id :=
      ((h.fair g hg).same record hgafter).1.symm.trans (of_decide_eq_true heq)
    have hsame : g = f := List.inj_on_of_nodup_map h.nodup hg hf hids
    rw [hsame, hafter] at hgafter
    cases hgafter

lemma countP_journal (p : OperationId → Bool) (n : ℕ) (fates : List Fate) :
    (journal n fates).countP (fun entry => p entry.operation) = fates.countP fun f =>
      f.journaled && p f.before.id := by
  induction fates generalizing n with
  | nil => rfl
  | cons f fates ih =>
    rw [journal, List.countP_cons]
    cases hj : f.journaled with
    | true => simp [List.countP_cons, ih, JournalOperation.of]
    | false => simp [ih]

/-- Pending and gone records together are those of before the transition. -/
lemma Distinct.length_eq (h : Distinct fates) :
    (pending fates).length + (journal 0 fates).countP
      (fun entry => !(pending fates).any (·.id = entry.operation)) = fates.length := by
  have hgone : (journal 0 fates).countP
    (fun entry => !(pending fates).any (·.id = entry.operation)) =
      fates.countP fun f => f.after.isNone := by
    rw [countP_journal (fun id => !(pending fates).any (·.id = id))]
    refine List.countP_congr fun f hf => ?_
    rw [h.any_pending hf]
    cases hafter : f.after with
    | some => simp
    | none => simp [(h.fair f hf).gone hafter]
  have hkept : (pending fates).length = fates.countP fun f => f.after.isSome := by
    rw [pending, List.length_filterMap_eq_countP]
  rw [hgone, hkept, List.length_eq_countP_add_countP (fun f : Fate => f.after.isSome)]
  congr 1
  refine List.countP_congr fun f _ => ?_
  cases f.after <;> simp

/-- **Recovery treats the fates in wire order**, and nothing else. -/
theorem recoverInWireOrder_fates (h : Distinct fates) (s : Recovering F) :
    s.recoverInWireOrder (journal 0 fates) (pending fates) = fates.foldl recover s := by
  have hids : ∀ f ∈ fates, f.before.id ∈ (journal 0 fates).map JournalOperation.operation ↔
      f.journaled = true := by
    intro f hf
    rw [journal_operations, List.mem_map]
    constructor
    · rintro ⟨g, hg, hsame⟩
      obtain ⟨hg, hjournaled⟩ := List.mem_filter.mp hg
      rw [← List.inj_on_of_nodup_map h.nodup hg hf hsame]
      exact hjournaled
    · exact fun hj => ⟨f, List.mem_filter.mpr ⟨hf, hj⟩, rfl⟩
  have hwithin : (journal 0 fates).any
      (fun entry => decide (fates.length ≤ entry.wireIndex)) = false := by
    rw [List.any_eq_false]
    intro entry hmem
    have hlt := (journal_index_le hmem).2
    simp only [decide_eq_true_eq]
    omega
  have hloop := recoverIndices_fates _ fates 0 s h hids
  rw [← List.range_eq_range'] at hloop
  unfold Recovering.recoverInWireOrder
  simp only [h.length_eq, hwithin, Bool.false_eq_true, if_false, hloop, List.foldl_nil]

/-! ### What is taken for a fate -/

lemma identified_filter {writes : List (DiscardedWrite F)} (h : Identified writes)
    (p : DiscardedWrite F → Bool) :
    Identified (writes.filter p) := h.sublist (List.filter_sublist.map _)

lemma takeWrite_eq {writes : List (DiscardedWrite F)} (h : Identified writes)
    (record : OperationRecord) :
    takeWrite writes record.id record.effect =
      (writes.find? record.owns).map fun write =>
        (write, writes.filter fun write => !record.owns write) := by
  refine removeFirst_unique (p := record.owns) ?_
  refine (List.pairwise_map.mp h).imp fun {x y} hne hboth => hne ?_
  have hx := of_decide_eq_true hboth.1
  have hy := of_decide_eq_true hboth.2
  rw [hx.1, hx.2, hy.1, hy.2]

/-- The state of a recovery after a record has taken the frame of its identities. -/
def paired (s : Recovering F) (record : OperationRecord) : Recovering F :=
  { s with
    writes := s.writes.filter fun write => !record.owns write
    ownershipDiverged := s.ownershipDiverged || record.writeHeld != s.writes.any record.owns }

lemma pairWrite_eq {s : Recovering F} (h : Identified s.writes) (record : OperationRecord) :
    s.pairWrite record.id record.effect record.delivery record.writeHeld =
      (restored s.writes record, paired s record) := by
  unfold Recovering.pairWrite
  rw [takeWrite_eq h]
  cases hfind : s.writes.find? record.owns with
  | none =>
    have hany : s.writes.any record.owns = false := by
      rw [List.any_eq_false]
      exact List.find?_eq_none.mp hfind
    have hall : (s.writes.filter fun write => !record.owns write) = s.writes := by
      rw [List.filter_eq_self]
      intro write hmem
      simpa using List.find?_eq_none.mp hfind write hmem
    simp only [Option.map_none, restored, hfind, paired, hany, hall]
    cases record.writeHeld <;> simp [Recovering.diverge]
  | some write =>
    have hany : s.writes.any record.owns = true := by
      rw [List.any_eq_true]
      exact ⟨write, List.mem_of_find?_eq_some hfind, List.find?_some hfind⟩
    simp only [Option.map_some, restored, hfind, paired, hany]
    cases record.writeHeld <;> simp [Recovering.diverge]

/-- The ledger after a fate: a pending record gives back what it held. -/
def released (ledger : ReservationLedger) (f : Fate) : ReservationLedger :=
  match f.after with
  | some current => ledger.releaseOperation current.reservation current.writeHeld
  | none => ledger

/-- What is recovered for a fate. -/
def emitted (writes : List (DiscardedWrite F)) (f : Fate) : Option (RecoveredOperation F) :=
  if f.record.phase ≠ .terminal then some (restored writes f.record) else none

/-- The held flag of a record that takes a frame disagrees with the frames. -/
def disagrees (writes : List (DiscardedWrite F)) (f : Fate) : Bool :=
  f.claims && f.record.writeHeld != writes.any f.record.owns

/-- The write is not taken by the fate. -/
def spares (f : Fate) (write : DiscardedWrite F) : Bool := !(f.claims && f.record.owns write)

/-- **What recovery does for one fate.** -/
lemma recover_eq {s : Recovering F} (h : Identified s.writes) (f : Fate) :
    recover s f = ⟨released s.ledger f, s.writes.filter f.spares,
      s.operations ++ (f.emitted s.writes).toList,
      s.ownershipDiverged || f.disagrees s.writes⟩ := by
  cases hafter : f.after with
  | some current =>
    have hrecord : f.record = current := by simp [record, hafter]
    have hclaims : f.claims = true := by simp [claims, hafter]
    have hspares : (f.spares : DiscardedWrite F → Bool) = fun write => !current.owns write := by
      funext write
      simp [spares, hclaims, hrecord]
    simp only [recover, hafter, Recovering.recoverCurrentOperation, pairWrite_eq h]
    by_cases hterminal : current.phase = .terminal
    · simp [released, hafter, emitted, disagrees, hrecord, hclaims, hspares, hterminal, paired]
    · simp [released, hafter, emitted, disagrees, hrecord, hclaims, hspares, hterminal, paired]
  | none =>
    have hrecord : f.record = f.before := by simp [record, hafter]
    simp only [recover, hafter, Recovering.recoverJournalOperation, JournalOperation.of]
    by_cases hterminal : f.before.phase = .terminal
    · have hclaims : f.claims = false := by simp [claims, hafter, hterminal]
      have hspares : s.writes.filter f.spares = s.writes := by
        rw [List.filter_eq_self]
        intro write _
        simp [spares, hclaims]
      simp [released, hafter, emitted, disagrees, hrecord, hclaims, hspares, hterminal]
    · have hclaims : f.claims = true := by simp [claims, hafter, hterminal]
      have hspares : (f.spares : DiscardedWrite F → Bool) = fun write => !f.before.owns write := by
        funext write
        simp [spares, hclaims, hrecord]
      have hpair := pairWrite_eq h f.before
      simp only [if_neg hterminal, hpair]
      simp [released, hafter, emitted, disagrees, hrecord, hclaims, hspares, hterminal, paired]

lemma Fair.record_id (h : f.Fair) : f.record.id = f.before.id := by
  unfold record
  cases hafter : f.after with
  | none => rfl
  | some current => exact (h.same current hafter).1

/-- A record has the frames of the record it was. -/
lemma Fair.owns_eq (h : f.Fair) (write : DiscardedWrite F) :
    f.record.owns write = f.before.owns write := by
  unfold record
  cases hafter : f.after with
  | none => rfl
  | some current =>
    obtain ⟨hid, heffect⟩ := h.same current hafter
    simp only [Option.getD_some, OperationRecord.owns, hid, heffect]

/-- Frames spared by one fate are all the frames of another. -/
lemma owns_spared {g : Fate} (hid : g.record.id ≠ f.record.id) {write : DiscardedWrite F}
    (h : g.record.owns write = true) :
    f.spares write = true := by
  have hwrite := of_decide_eq_true h
  have hother : f.record.owns write = false := by
    refine decide_eq_false fun hboth => hid ?_
    rw [← hwrite.1, hboth.1]
  simp [spares, hother]

lemma restored_spared {g : Fate} (hid : g.record.id ≠ f.record.id)
    (writes : List (DiscardedWrite F)) :
    restored (writes.filter f.spares) g.record = restored writes g.record ∧
      (writes.filter f.spares).any g.record.owns = writes.any g.record.owns := by
  have hfind : (writes.filter f.spares).find? g.record.owns = writes.find? g.record.owns := by
    rw [List.find?_filter]
    congr 1
    funext write
    cases howns : g.record.owns write with
    | false => simp
    | true => simp [owns_spared hid howns]
  refine ⟨by rw [restored, hfind, restored], ?_⟩
  rw [List.any_filter]
  congr 1
  funext write
  cases howns : g.record.owns write with
  | false => simp
  | true => simp [owns_spared hid howns]

/-- **What recovery does for all fates.** -/
theorem foldl_recover (h : Distinct fates) {s : Recovering F} (hw : Identified s.writes) :
    fates.foldl recover s = ⟨fates.foldl released s.ledger, s.writes.filter fun write =>
      fates.all (·.spares write),
      s.operations ++ fates.filterMap (emitted s.writes), s.ownershipDiverged ||
        fates.any (disagrees s.writes)⟩ := by
  induction fates generalizing s with
  | nil => simp
  | cons f fates ih =>
    have hids : ∀ g ∈ fates, g.record.id ≠ f.record.id := by
      intro g hg heq
      rw [(h.tail.fair g hg).record_id, (h.fair f (List.mem_cons_self ..)).record_id] at heq
      exact (List.nodup_cons.mp h.nodup).1 (List.mem_map.mpr ⟨g, hg, heq⟩)
    rw [List.foldl_cons, recover_eq hw f, ih h.tail (identified_filter hw _)]
    have hemitted : fates.filterMap (emitted (s.writes.filter f.spares)) =
        fates.filterMap (emitted s.writes) := by
      refine List.filterMap_congr fun g hg => ?_
      simp only [emitted, (restored_spared (hids g hg) s.writes).1]
    have hdisagrees : fates.any (disagrees (s.writes.filter f.spares)) =
        fates.any (disagrees s.writes) := by
      rw [Bool.eq_iff_iff, List.any_eq_true, List.any_eq_true]
      refine exists_congr fun g => and_congr_right fun hg => ?_
      simp only [disagrees, (restored_spared (hids g hg) s.writes).2]
    simp only [hemitted, hdisagrees, List.filter_filter]
    congr 1
    · refine List.filter_congr fun write _ => ?_
      simp [List.all_cons, Bool.and_comm]
    · rw [List.filterMap_cons, List.append_assoc]
      cases emitted s.writes f <;> simp
    · simp [Bool.or_assoc]

/-! ### The fates of a recovery -/

/-- The journal of the fates of some records: those whose operation satisfies `p`. -/
lemma journal_eq (p : OperationId → Bool) (n : ℕ) (h : ∀ f ∈ fates, f.journaled = p f.before.id) :
    journal n fates = ((fates.map Fate.before).mapIdx fun i record =>
      JournalOperation.of (n + i) record).filter fun entry => p entry.operation := by
  induction fates generalizing n with
  | nil => rfl
  | cons f fates ih =>
    have hrest := ih (n + 1) fun g hg => h g (List.mem_cons_of_mem _ hg)
    have hshift : (fun i record => JournalOperation.of (n + (i + 1)) record) = fun i record =>
      JournalOperation.of (n + 1 + i) record := by
      funext i record
      rw [Nat.add_right_comm, Nat.add_assoc]
    rw [journal, h f (List.mem_cons_self ..), List.map_cons, List.mapIdx_cons, hshift, hrest,
      List.filter_cons]
    rfl

/-- **Every journal and what remains of the records come from fates.** -/
theorem exists_fates {records pending : List OperationRecord} {journal : List JournalOperation}
    (hids : (records.map OperationRecord.id).Nodup) (hj : Journals records journal)
    (hr : Remains journal records pending) :
    ∃ fates, Distinct fates ∧ fates.map Fate.before = records ∧ Fate.pending fates = pending ∧
      Fate.journal 0 fates = journal := by
  let p : OperationId → Bool := fun id => decide (id ∈ journal.map JournalOperation.operation)
  have hfates : ∃ fates, fates.map Fate.before = records ∧ Fate.pending fates = pending ∧
      ∀ f ∈ fates, f.Fair ∧ f.journaled = p f.before.id := by
    clear hids hj
    induction hr with
    | nil => exact ⟨[], rfl, rfl, fun f hf => by cases hf⟩
    | @kept record current records pending same rest ih =>
      obtain ⟨fates, hbefore, hpending, hall⟩ := ih
      refine ⟨⟨record, some current, p record.id⟩ :: fates, by rw [List.map_cons, hbefore], ?_, ?_⟩
      · simp only [Fate.pending, List.filterMap_cons, ← hpending]
      · refine List.forall_mem_cons.mpr ⟨⟨⟨fun hnone => (by cases hnone), ?_⟩, rfl⟩, hall⟩
        rintro _ ⟨⟩
        exact same
    | @gone record records pending journaled rest ih =>
      obtain ⟨fates, hbefore, hpending, hall⟩ := ih
      refine ⟨⟨record, none, p record.id⟩ :: fates, by rw [List.map_cons, hbefore], ?_, ?_⟩
      · simp only [Fate.pending, List.filterMap_cons, ← hpending]
      · refine List.forall_mem_cons.mpr ⟨⟨⟨fun _ => decide_eq_true journaled, ?_⟩, rfl⟩, hall⟩
        rintro _ ⟨⟩
  obtain ⟨fates, hbefore, hpending, hall⟩ := hfates
  refine ⟨fates, ⟨fun f hf => (hall f hf).1, ?_⟩, hbefore, hpending, ?_⟩
  · rw [← hbefore, List.map_map] at hids
    exact hids
  rw [journal_eq p 0 fun f hf => (hall f hf).2, hbefore]
  simp only [Nat.zero_add]
  have hoperations : (records.mapIdx JournalOperation.of).map JournalOperation.operation =
      records.map OperationRecord.id := by
    refine List.ext_getElem? fun i => ?_
    simp only [List.getElem?_map, List.getElem?_mapIdx, Option.map_map]
    rfl
  cases hj with
  | empty => exact List.filter_eq_nil_iff.mpr fun entry _ => by simp [p]
  | whole =>
    rw [List.filter_eq_self]
    exact fun entry hentry => decide_eq_true (List.mem_map_of_mem hentry)
  | @one index record here =>
    have hmem : JournalOperation.of index record ∈ records.mapIdx JournalOperation.of :=
      List.mem_of_getElem? (i := index) (by rw [List.getElem?_mapIdx, here]; rfl)
    have hsame : ∀ entry ∈ records.mapIdx JournalOperation.of,
        p entry.operation = (entry == JournalOperation.of index record) := by
      intro entry hentry
      rw [Bool.eq_iff_iff, beq_iff_eq]
      constructor
      · intro hp
        rw [← hoperations] at hids
        exact List.inj_on_of_nodup_map hids hentry hmem (by simpa [p] using hp)
      · rintro rfl
        simp [p]
    have hnodup : (records.mapIdx JournalOperation.of).Nodup := by
      rw [← hoperations] at hids
      exact hids.of_map
    rw [List.filter_congr hsame, List.filter_beq, List.count_eq_one_of_mem hnodup hmem,
      List.replicate_one]

/-! ### What the fates add up to -/

/-- The pending record of a fate's identity is the one of the fate. -/
lemma Distinct.standing_eq (h : Distinct fates) (hf : f ∈ fates) :
    standing (pending fates) f.before = f.record := by
  have hfind : (pending fates).find? (·.id = f.before.id) = f.after := by
    have hany := h.any_pending hf
    cases hfound : (pending fates).find? (·.id = f.before.id) with
    | none =>
      have hnone : (pending fates).any (·.id = f.before.id) = false :=
        List.any_eq_false.mpr (List.find?_eq_none.mp hfound)
      rw [hnone] at hany
      exact (Option.not_isSome_iff_eq_none.mp (by simp [← hany])).symm
    | some record =>
      obtain ⟨g, hg, hafter⟩ := List.mem_filterMap.mp (List.mem_of_find?_eq_some hfound)
      have hid : record.id = f.before.id := by simpa using List.find?_some hfound
      have hsame : g = f :=
        List.inj_on_of_nodup_map h.nodup hg hf (((h.fair g hg).same record hafter).1.symm.trans hid)
      rw [← hsame, hafter]
  rw [standing, hfind]
  rfl

/-- What holds of a fate that takes a frame holds of a pending record or of one
only the journal has. -/
lemma any_claims (q : OperationId → EffectId → Bool → Bool) {current : List OperationRecord} (n : ℕ)
    (h : ∀ f ∈ fates, current.any (·.id = f.before.id) = f.after.isSome)
    (hfair : ∀ f ∈ fates, f.Fair) :
    (fates.any fun f => f.claims && q f.record.id f.record.effect f.record.writeHeld) =
      ((pending fates).any (fun record => q record.id record.effect record.writeHeld) ||
        (journal n fates).any fun entry =>
          entry.alone current && q entry.operation entry.effect entry.writeHeld) := by
  induction fates generalizing n with
  | nil => rfl
  | cons f fates ih =>
    have hrest :=
      ih (n + 1) (fun g hg => h g (List.mem_cons_of_mem _ hg)) fun g hg =>
      hfair g (List.mem_cons_of_mem _ hg)
    have hcurrent : current.any (·.id = (JournalOperation.of n f.before).operation) =
      f.after.isSome := h f (List.mem_cons_self ..)
    have hcons : pending (f :: fates) = f.after.toList ++ pending fates := by
      simp only [pending, List.filterMap_cons]
      cases f.after <;> rfl
    rw [List.any_cons, hrest, hcons, journal]
    cases hafter : f.after with
    | some record =>
      have halone : (JournalOperation.of n f.before).alone current = false := by
        rw [JournalOperation.alone, hcurrent, hafter]
        rfl
      cases hj : f.journaled <;> simp [claims, Fate.record, hafter, halone, Bool.or_assoc]
    | none =>
      have halone : (JournalOperation.of n f.before).alone current =
          decide (f.before.phase ≠ .terminal) := by
        rw [JournalOperation.alone, hcurrent, hafter]
        rfl
      rw [(hfair f (List.mem_cons_self ..)).gone hafter, if_pos rfl, List.any_cons, halone]
      simp only [claims, Fate.record, hafter, JournalOperation.of]
      simp [Bool.or_left_comm]

/-- The frames that no fate takes. -/
lemma Distinct.all_spares (h : Distinct fates) (write : DiscardedWrite F) :
    (fates.all fun f => f.spares write) = unmatched (journal 0 fates) (pending fates) write := by
  have hany :=
    any_claims (fun id effect _ => decide (write.operation = id ∧ write.effect = effect)) 0
    (fun _ hf => h.any_pending hf) h.fair
  have hall : (fates.all fun f => f.spares write) = !fates.any fun f =>
    f.claims && f.record.owns write := by
    rw [List.not_any_eq_all_not]
    rfl
  rw [hall]
  exact congrArg Bool.not hany

/-- The fates whose record disagrees with the frames. -/
lemma Distinct.any_disagrees (h : Distinct fates) (writes : List (DiscardedWrite F)) :
    fates.any (disagrees writes) = heldAmiss (journal 0 fates) (pending fates) writes :=
  any_claims (fun id effect held => held != writes.any fun write =>
    decide (write.operation = id ∧ write.effect = effect)) 0
    (fun _ hf => h.any_pending hf) h.fair

lemma restored_operation (writes : List (DiscardedWrite F)) (record : OperationRecord) :
    (restored writes record).operation = record.id := by
  unfold restored
  split <;> rfl

/-- What is recovered keeps the order of the records. -/
lemma emitted_sublist (h : ∀ f ∈ fates, f.Fair) (writes : List (DiscardedWrite F)) :
    ((fates.filterMap (emitted writes)).map RecoveredOperation.operation).Sublist
      (fates.map fun f => f.before.id) := by
  induction fates with
  | nil => exact List.Sublist.slnil
  | cons f fates ih =>
    have hrest := ih fun g hg => h g (List.mem_cons_of_mem _ hg)
    rw [List.filterMap_cons, List.map_cons, emitted]
    split_ifs with hphase
    · simp only [List.map_cons, restored_operation, (h f (List.mem_cons_self ..)).record_id]
      exact hrest.cons_cons _
    · exact hrest.cons _

end Fate

/-! ### Poison -/

lemma ReservationLedger.releaseAll_poisoned {l : ReservationLedger} (h : l.poisoned = true)
    (reservation : Reservation) (writeHeld releasePermit : Bool) :
    (l.releaseAll reservation writeHeld releasePermit).poisoned = true := by
  unfold ReservationLedger.releaseAll
  split
  · rfl
  split
  · rfl
  split
  · rfl
  split
  · rfl
  split
  · rfl
  · exact h

lemma Fate.released_poisoned {fates : List Fate} {l : ReservationLedger} (h : l.poisoned = true) :
    (fates.foldl Fate.released l).poisoned = true := by
  induction fates generalizing l with
  | nil => exact h
  | cons f fates ih =>
    refine ih ?_
    unfold Fate.released
    split
    · exact ReservationLedger.releaseAll_poisoned h ..
    · exact h

/-! ### The recovery of a core -/

variable [ByteBudget B]

/-- The last two checks of a recovery. -/
def Recovering.checked (s : Recovering F) : Recovering F :=
  let s := if s.writes.isEmpty then s else s.diverge
  if s.ledger.poisoned then s.diverge else s

lemma Recovering.checked_eq (s : Recovering F) : s.checked =
    ⟨s.ledger, s.writes, s.operations, s.ownershipDiverged || !s.writes.isEmpty ||
      s.ledger.poisoned⟩ := by
  unfold Recovering.checked
  cases hwrites : s.writes.isEmpty <;> cases hledger : s.ledger.poisoned <;>
    simp [Recovering.diverge, hledger]

/-- The state of a recovery when every record has been treated. -/
def ConnectionCore.recovering (c : ConnectionCore B F) : Recovering F :=
  Recovering.recoverInWireOrder ⟨c.machine.ledger, c.retained, [], c.journal.armed ||
    !c.journal.operations.isEmpty⟩
    c.journal.operations c.machine.matching.pending

/-- **The recovery of any core.** -/
lemma ConnectionCore.recover_eq (c : ConnectionCore B F) :
    c.recover = (⟨c.machine.epoch, c.recovering.operations, c.recovering.writes,
        c.recovering.ownershipDiverged || !c.recovering.writes.isEmpty ||
          c.recovering.ledger.poisoned⟩,
      { machine := { c.machine with ledger := c.recovering.ledger, matching.pending := [] }
        writes := c.writes.discardAll.2
        journal := { c.journal with
          operations := [], writes := [], overflowWrite := none, armed := false }
        poisoned := c.poisoned <|> some .recovered }) := by
  have hchecked : c.recover =
    (⟨c.machine.epoch, c.recovering.checked.operations, c.recovering.checked.writes,
        c.recovering.checked.ownershipDiverged⟩,
      { machine := { c.machine with ledger := c.recovering.checked.ledger, matching.pending := [] }
        writes := c.writes.discardAll.2
        journal := { c.journal with
          operations := [], writes := [], overflowWrite := none, armed := false }
        poisoned := c.poisoned <|> some .recovered }) := rfl
  rw [hchecked, Recovering.checked_eq]

/-! ### Further recoveries -/

/-- A core that has nothing left to recover and can do nothing else. -/
structure ConnectionCore.Spent (c : ConnectionCore B F) : Prop where
  poisoned : c.poisoned ≠ none
  pending : c.machine.matching.pending = []
  journal : c.journal.operations = []
  retained : c.retained = []

lemma ConnectionCore.recover_spent (c : ConnectionCore B F) : c.recover.2.Spent := by
  rw [c.recover_eq]
  refine ⟨?_, rfl, rfl, rfl⟩
  cases hp : c.poisoned <;> simp

omit [ByteBudget B] in
/-- A core that is poisoned refuses, and stays as it is. -/
lemma ensureHealthy_refuses {c : ConnectionCore B F} (h : c.poisoned ≠ none) :
    ∃ error, ConnectionCore.ensureHealthy c = (.error error, c) := by
  obtain ⟨source, hsource⟩ := Option.ne_none_iff_exists'.mp h
  have hlatched : { c with poisoned := c.poisoned <|> some .reservationAccounting } = c := by
    cases c
    simp only at hsource
    rw [hsource]
    rfl
  unfold ConnectionCore.ensureHealthy
  split
  · exact ⟨_, by rw [ConnectionCore.poison, hlatched]⟩
  · rw [hsource]
    exact ⟨_, rfl⟩

lemma guardAdmission_refuses {c : ConnectionCore B F} (h : c.poisoned ≠ none) (debug : Bool) :
    ∃ error, ConnectionCore.guardAdmission debug c = (.error error, c) := by
  obtain ⟨error, hrefuses⟩ := ensureHealthy_refuses h
  exact ⟨error, Owner.bind_error hrefuses _⟩

omit [ByteBudget B] in
lemma settled_refuses {α : Type} {c : ConnectionCore B F} (h : c.poisoned ≠ none)
    {f : Unit → ConnectionCore.Run B F α} :
    (ConnectionCore.settled (ConnectionCore.ensureHealthy >>= f) c).2 = c := by
  obtain ⟨error, hrefuses⟩ := ensureHealthy_refuses h
  unfold ConnectionCore.settled
  rw [Owner.bind_error (Owner.bind_error hrefuses _)]

lemma recover_of_spent {c : ConnectionCore B F} (h : c.Spent) :
    c.recover.1.operations = [] ∧ c.recover.1.unmatchedWrites = [] := by
  have hnothing : c.recovering =
      ⟨c.machine.ledger, [], [], c.journal.armed || !c.journal.operations.isEmpty⟩ := by
    unfold ConnectionCore.recovering
    rw [h.journal, h.pending, h.retained]
    rfl
  rw [c.recover_eq, hnothing]
  exact ⟨rfl, rfl⟩

/-- Every call leaves a spent core spent. -/
lemma ConnectionCore.Spent.step {R : Type} {w : World B F} (h : w.core.Spent) (debug : Bool)
    (call : Call F R) :
    (w.step debug call).1.core.Spent := by
  obtain ⟨error, hguard⟩ := guardAdmission_refuses h.poisoned debug
  cases call with
  | reserve now options =>
    simpa only [World.step, ConnectionCore.reserve, hguard] using h
  | commit index frame view =>
    simp only [World.step, World.commit]
    split
    · exact h
    · simpa only [ConnectionCore.commit, hguard] using h
  | commitForeign permit frame view =>
    simp only [World.step]
    split
    · exact h
    · simpa only [ConnectionCore.commit, hguard] using h
  | dropPermit index =>
    simp only [World.step]
    split
    · exact h
    · exact ⟨h.poisoned, h.pending, h.journal, h.retained⟩
  | apply input =>
    have hkept : (ConnectionCore.apply (R := R) debug input w.core).2 = w.core :=
      settled_refuses h.poisoned
    simpa only [World.step, World.transition, hkept] using h
  | applyReply reply =>
    have hkept : (ConnectionCore.applyReply debug reply w.core).2 = w.core :=
      settled_refuses h.poisoned
    simpa only [World.step, World.transition, hkept] using h
  | frontWrite view maximum =>
    obtain ⟨source, hsource⟩ := Option.ne_none_iff_exists'.mp h.poisoned
    simpa only [World.step, ConnectionCore.frontWrite, hsource] using h
  | advanceWrite epoch effect written =>
    have hkept : (ConnectionCore.advanceWrite (R := R) epoch effect written w.core).2 = w.core :=
      settled_refuses h.poisoned
    simpa only [World.step, World.transition, hkept] using h
  | recover => exact w.core.recover_spent

/-- **Nothing is recovered twice**, whatever is called in between. -/
theorem recovers_nothing {R : Type} {w : World B F} (h : w.core.Spent) (debug : Bool)
    (calls : List (Call F R)) :
    (Transducer.final (World.step debug) w calls).core.recover.1.operations = [] ∧
      (Transducer.final (World.step debug) w calls).core.recover.1.unmatchedWrites = [] := by
  induction calls generalizing w with
  | nil => exact recover_of_spent h
  | cons call calls ih => exact ih (h.step debug call)

/-! ### The merge -/

/-- What is recovered of a core, for the records of before its last transition. -/
structure Merges (c : ConnectionCore B F) (records : List OperationRecord) : Prop where
  /-- The unsettled operations, as they stand, each with the frame of its identity. -/
  operations : c.recover.1.operations =
    records.filterMap (emitted c.machine.matching.pending c.retained)
  /-- Once each, and in order. -/
  once : (c.recover.1.operations.map RecoveredOperation.operation).Sublist
    (records.map OperationRecord.id) ∧
    (c.recover.1.operations.map RecoveredOperation.operation).Nodup
  /-- A frame comes back with its operation, and the weaker of the two deliveries. -/
  frames : ∀ record ∈ records, (standing c.machine.matching.pending record).phase ≠ .terminal →
    ∀ write ∈ c.retained, record.owns write = true →
      ∃ recovered ∈ c.recover.1.operations, recovered.operation = record.id ∧
        recovered.frame = some write.frame ∧
        (recovered.delivery = .possiblySent ↔
          (standing c.machine.matching.pending record).delivery = .possiblySent ∨
            write.delivery = .possiblySent)
  /-- The other frames. -/
  unmatchedWrites : c.recover.1.unmatchedWrites =
    c.retained.filter (unmatched c.journal.operations c.machine.matching.pending)
  /-- When ownership has diverged. -/
  ownershipDiverged : c.recover.1.ownershipDiverged = true ↔
    c.journal.armed = true ∨ c.journal.operations ≠ [] ∨
      heldAmiss c.journal.operations c.machine.matching.pending c.retained = true ∨
      c.recover.1.unmatchedWrites ≠ [] ∨ c.recover.2.machine.ledger.poisoned = true
  /-- A ledger that was poisoned stays so. -/
  poisoned : c.machine.ledger.poisoned = true → c.recover.2.machine.ledger.poisoned = true
  /-- Nothing is left for a later recovery. -/
  further : ∀ (R : Type) (debug : Bool) (permits : List OperationPermit) (calls : List (Call F R)),
    (Transducer.final (World.step debug) ⟨c.recover.2, permits⟩
      calls).core.recover.1.operations = [] ∧
      (Transducer.final (World.step debug) ⟨c.recover.2, permits⟩
        calls).core.recover.1.unmatchedWrites = []

lemma weaken_eq_possiblySent (a b : Delivery) :
    weaken a b = .possiblySent ↔ a = .possiblySent ∨ b = .possiblySent := by
  cases a <;> cases b <;> decide

/-- The frame of a record is the only one of its identities. -/
lemma restored_of_owns {writes : List (DiscardedWrite F)} (h : Identified writes)
    {record : OperationRecord} {write : DiscardedWrite F} (hmem : write ∈ writes)
    (howns : record.owns write = true) :
    restored writes record = ⟨record.id, weaken record.delivery write.delivery,
      some write.frame⟩ := by
  unfold restored
  cases hfind : writes.find? record.owns with
  | none => exact absurd howns (List.find?_eq_none.mp hfind write hmem)
  | some found =>
    have hfound : found.operation = record.id ∧ found.effect = record.effect := by
      simpa [OperationRecord.owns] using List.find?_some hfind
    have hwrite := of_decide_eq_true howns
    have hsame : found = write := by
      refine List.inj_on_of_nodup_map h (List.mem_of_find?_eq_some hfind) hmem ?_
      rw [hfound.1, hfound.2, hwrite.1, hwrite.2]
    rw [hsame]

/-- **Recovery is an exact merge.** -/
theorem recover_merges (c : ConnectionCore B F) (records : List OperationRecord)
    (hids : (records.map OperationRecord.id).Nodup) (hj : Journals records c.journal.operations)
    (hr : Remains c.journal.operations records c.machine.matching.pending)
    (hw : Identified c.retained) : Merges c records := by
  obtain ⟨fates, hd, rfl, hpending, hjournal⟩ := Fate.exists_fates hids hj hr
  have hrecovering : c.recovering =
    ⟨fates.foldl Fate.released c.machine.ledger, c.retained.filter fun write =>
    fates.all (·.spares write),
      fates.filterMap (Fate.emitted c.retained),
      c.journal.armed || !c.journal.operations.isEmpty ||
          fates.any (Fate.disagrees c.retained)⟩ := by
    unfold ConnectionCore.recovering
    rw [← hpending, ← hjournal, Fate.recoverInWireOrder_fates hd, Fate.foldl_recover hd hw,
      List.nil_append]
  have hstanding : ∀ f ∈ fates, standing c.machine.matching.pending f.before = f.record := by
    intro f hf
    rw [← hpending, hd.standing_eq hf]
  have hoperations : c.recover.1.operations =
      (fates.map Fate.before).filterMap (emitted c.machine.matching.pending c.retained) := by
    rw [c.recover_eq, hrecovering, List.filterMap_map]
    refine List.filterMap_congr fun f hf => ?_
    simp only [Fate.emitted, emitted, Function.comp_apply, hstanding f hf]
  have hsublist : (c.recover.1.operations.map RecoveredOperation.operation).Sublist
      ((fates.map Fate.before).map OperationRecord.id) := by
    rw [c.recover_eq, hrecovering, List.map_map]
    exact Fate.emitted_sublist hd.fair _
  refine ⟨hoperations, ⟨hsublist, hsublist.nodup hids⟩, ?_, ?_, ?_, ?_, ?_⟩
  · intro record hrecord hphase write hwrite howns
    obtain ⟨f, hf, rfl⟩ := List.mem_map.mp hrecord
    have hsame : (standing c.machine.matching.pending f.before).owns write = true := by
      rw [hstanding f hf, (hd.fair f hf).owns_eq, howns]
    refine ⟨_, hoperations ▸ List.mem_filterMap.mpr ⟨f.before, hrecord, if_pos hphase⟩, ?_⟩
    rw [restored_of_owns hw hwrite hsame]
    exact ⟨by rw [hstanding f hf, (hd.fair f hf).record_id], rfl, weaken_eq_possiblySent ..⟩
  · rw [c.recover_eq, hrecovering, ← hjournal, ← hpending]
    exact List.filter_congr fun write _ => hd.all_spares write
  · rw [← hjournal, ← hpending, ← hd.any_disagrees, hjournal]
    simp only [c.recover_eq, hrecovering, Bool.or_eq_true, Bool.not_eq_true',
      List.isEmpty_eq_false_iff, or_assoc, ne_eq]
  · intro hp
    rw [c.recover_eq, hrecovering]
    exact Fate.released_poisoned hp
  · intro R debug permits calls
    exact recovers_nothing c.recover_spent debug calls

/-- One of three accepted operations that have not been written. -/
def sampleRecord (n : ℕ) : OperationRecord where
  id := ⟨n⟩
  effect := ⟨n⟩
  deadline := ⟨9⟩
  reservation := ⟨4, 4, ⟨n.toUInt32⟩⟩
  phase := .queued
  completion := .replyExpected
  delivery := .notSent
  writeHeld := true

/-- A core that failed while it cancelled the second of three operations. -/
def sampleFault : ConnectionCore Counted (List UInt8) :=
  let c := ConnectionCore.withIdentitySeeds 0 ⟨1⟩ Setup.sample.limits ⟨3, 3⟩
  { c with
    machine.matching.pending := [sampleRecord 0, sampleRecord 2]
    writes.frames :=
      [⟨⟨0⟩, ⟨0⟩, [1], .capture .short [1], 0, false⟩,
      ⟨⟨2⟩, ⟨2⟩, [3], .capture .short [3], 0, false⟩]
    journal := { c.journal with operations := [.of 1 (sampleRecord 1)], armed := true } }

theorem recover_merges_sample :
    Merges sampleFault ([0, 1, 2].map sampleRecord) ∧
    sampleFault.recover.1.operations =
      [⟨⟨0⟩, .notSent, some [1]⟩, ⟨⟨1⟩, .notSent, none⟩, ⟨⟨2⟩, .notSent, some [3]⟩] := by
  have hframes : (sampleFault.retained.map fun write =>
    (write.operation, write.effect)).Nodup := by decide
  have hjournal : Journals ([0, 1, 2].map sampleRecord) [.of 1 (sampleRecord 1)] := .one rfl
  refine ⟨recover_merges sampleFault _ (by decide) hjournal ?_ hframes, by decide⟩
  exact .kept ⟨rfl, rfl⟩ (.gone (by decide) (.kept ⟨rfl, rfl⟩ .nil))

end Bornera.Core
