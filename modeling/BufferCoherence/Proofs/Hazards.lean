import BufferCoherence.HazardTracker
import BufferCoherence.Proofs.Locations

/-!
# Barriers and the history of requests

One set of uses stands for a whole history of requests. A history is the list of the uses that were
asked for since the tracking started over, the newest first; `HazardTracker.after` is the tracker
that it leaves.

* What is tracked is the last request that wrote, joined with all that was read since
  (`uses_after`). What reads and what writes in it stays apart, but what the writing request itself
  read is no longer told from what was read since.
* **`barriers_at_hazards`**: as long as no request reads and writes at once, the barriers are those
  of the hazards, and no more.
* **`late_read_fenced_iff`**: a request that does both counts its own readers as if they had waited
  for it. A later read waits for the write, except where all that did not wait yet was read by the
  writing request itself; `unfenced_read` is such a read.
-/

namespace BufferCoherence

/-! ## 1. Sets of flags, bit by bit -/

namespace FlagSet

variable {k : FlagKind} {a b c : FlagSet k}

/-- Two sets of the same bits are the same. -/
theorem ext_bits (h : ∀ i, a.bits.getLsbD i = b.bits.getLsbD i) : a = b :=
  eq_of_bits (BitVec.eq_of_getLsbD_eq fun i _ => h i)

theorem getLsbD_union (i : Nat) :
    (a ∪ b).bits.getLsbD i = (a.bits.getLsbD i || b.bits.getLsbD i) := BitVec.getLsbD_or

theorem getLsbD_inter (i : Nat) :
    (a ∩ b).bits.getLsbD i = (a.bits.getLsbD i && b.bits.getLsbD i) := BitVec.getLsbD_and

theorem getLsbD_sdiff (i : Nat) :
    (a \ b).bits.getLsbD i = (a.bits.getLsbD i && !b.bits.getLsbD i) := by
  rw [bits_sdiff, BitVec.getLsbD_and, BitVec.getLsbD_not]
  by_cases hi : i < 32
  · simp [hi]
  · rw [BitVec.getLsbD_of_ge a.bits i (by omega), Bool.false_and, Bool.false_and]

theorem getLsbD_empty (i : Nat) : (∅ : FlagSet k).bits.getLsbD i = false := BitVec.getLsbD_zero

theorem isEmpty_eq_false_iff : a.isEmpty = false ↔ a ≠ ∅ := by
  rw [← Bool.not_eq_true, FlagSet.isEmpty_iff]

@[simp] theorem empty_union : ∅ ∪ a = a :=
  ext_bits fun i => by rw [getLsbD_union, getLsbD_empty, Bool.false_or]

@[simp] theorem union_empty : a ∪ ∅ = a :=
  ext_bits fun i => by rw [getLsbD_union, getLsbD_empty, Bool.or_false]

theorem union_comm : a ∪ b = b ∪ a :=
  ext_bits fun i => by rw [getLsbD_union, getLsbD_union, Bool.or_comm]

theorem union_assoc : a ∪ b ∪ c = a ∪ (b ∪ c) :=
  ext_bits fun i => by simp only [getLsbD_union, Bool.or_assoc]

theorem eq_empty_iff : a = ∅ ↔ ∀ i, a.bits.getLsbD i = false := by
  constructor
  · rintro rfl i
    exact getLsbD_empty i
  · exact fun h => ext_bits fun i => by rw [h i, getLsbD_empty]

end FlagSet

open FlagSet

/-! ## 2. What reads and what writes -/

namespace BindFlags

variable {m a b : BindFlags}

/-- A request that does not write has nothing but readers. -/
theorem readers_of_writing (h : m.writing = ∅) {i : Nat} (hi : m.bits.getLsbD i = true) :
    readers.bits.getLsbD i = true := by
  have := eq_empty_iff.mp h i
  rw [writing, getLsbD_sdiff, hi, Bool.true_and, Bool.not_eq_false'] at this
  exact this

/-- A request that does not write reads all it has. -/
theorem reading_of_writing (h : m.writing = ∅) : m.reading = m := by
  refine ext_bits fun i => ?_
  rw [reading, getLsbD_inter]
  cases hi : m.bits.getLsbD i with
  | false => rfl
  | true => rw [readers_of_writing h hi, Bool.true_and]

/-- A request that does not read writes with all it has. -/
theorem writing_of_reading (h : m.reading = ∅) : m.writing = m := by
  refine ext_bits fun i => ?_
  have := eq_empty_iff.mp h i
  rw [reading, getLsbD_inter] at this
  rw [writing, getLsbD_sdiff]
  cases hi : m.bits.getLsbD i with
  | false => rfl
  | true => rw [hi, Bool.true_and] at this; rw [this]; rfl

theorem writing_union : (a ∪ b).writing = a.writing ∪ b.writing :=
  ext_bits fun i => by
    simp only [writing, getLsbD_sdiff, getLsbD_union, Bool.and_or_distrib_right]

theorem reading_union : (a ∪ b).reading = a.reading ∪ b.reading :=
  ext_bits fun i => by
    simp only [reading, getLsbD_inter, getLsbD_union, Bool.and_or_distrib_right]

/-- Only the readers of a set count for a request that does not write. -/
theorem has_reading (h : m.writing = ∅) : a.reading.has m = a.has m := by
  rw [Bool.eq_iff_iff, has_iff, has_iff]
  refine forall_congr' fun i => imp_congr_right fun hi => ?_
  rw [reading, getLsbD_inter, readers_of_writing h hi, Bool.and_true]

/-- What writes, going by the named flags, is what is left beside the readers. -/
theorem writes_iff (h : (FlagSet.known .bind).has m = true) :
    HazardTracker.writes m = true ↔ m.writing ≠ ∅ := by
  have hwriting : m ∩ readers.complement = m.writing := by
    refine ext_bits fun i => ?_
    rw [getLsbD_inter, complement, getLsbD_sdiff, writing, getLsbD_sdiff]
    cases hi : m.bits.getLsbD i with
    | false => rfl
    | true => rw [(has_iff _ _).mp h i hi, Bool.true_and, Bool.true_and]
  unfold HazardTracker.writes meets
  rw [hwriting, Bool.not_eq_true', isEmpty_eq_false_iff]

/-- A request of readers alone does not write. -/
theorem writes_eq_false (h : m.writing = ∅) : HazardTracker.writes m = false := by
  have hnone : m ∩ readers.complement = ∅ := by
    refine eq_empty_iff.mpr fun i => ?_
    rw [getLsbD_inter, complement, getLsbD_sdiff]
    cases hi : m.bits.getLsbD i with
    | false => rfl
    | true => rw [readers_of_writing h hi, Bool.not_true, Bool.and_false, Bool.and_false]
  unfold HazardTracker.writes meets
  rw [hnone]
  rfl

end BindFlags

open BindFlags

/-! ## 3. What one request does -/

namespace HazardTracker

variable {t : HazardTracker} {mask : BindFlags}

/-- A request that writes is all that is tracked afterwards. -/
theorem next_write (h : writes mask = true) : t.next mask = ⟨mask⟩ := by
  rw [next, if_pos h]

/-- A request that reads joins what is tracked. -/
theorem uses_next_read (h : mask.writing = ∅) : (t.next mask).uses = t.uses ∪ mask := by
  rw [next, if_neg (by rw [writes_eq_false h]; exact Bool.false_ne_true)]
  cases hhas : t.uses.has mask with
  | false => rfl
  | true => exact (union_eq_self hhas).symm

/-- A request that writes waits for the tracked readers, or else for all that is tracked. -/
theorem barrier_write (h : writes mask = true) :
    t.barrier? mask =
      if t.uses = ∅ then none
      else some ⟨if t.uses.reading = ∅ then t.uses else t.uses.reading, mask⟩ := by
  have hawaited : t.awaited mask =
      if t.uses.reading = ∅ then t.uses else t.uses.reading := by
    simp only [awaited, if_pos h, FlagSet.isEmpty_iff]
    rfl
  simp only [barrier?, hawaited, FlagSet.isEmpty_iff]
  by_cases hr : t.uses.reading = ∅
  · rw [if_pos hr]
  · have hu : t.uses ≠ ∅ := by
      intro he
      rw [he] at hr
      exact hr (by decide)
    rw [if_neg hr, if_neg hr, if_neg hu]

/-- A request that reads waits for the tracked writers, unless all it asks for is tracked. -/
theorem barrier_read (h : mask.writing = ∅) :
    t.barrier? mask =
      if t.uses.has mask = true ∨ t.uses.writing = ∅ then none
      else some ⟨t.uses.writing, mask⟩ := by
  have hwrites : ¬ writes mask = true := by rw [writes_eq_false h]; exact Bool.false_ne_true
  simp only [barrier?, awaited, if_neg hwrites]
  cases hhas : t.uses.has mask with
  | false =>
    simp only [Bool.not_false, if_true, Bool.false_eq_true, false_or, FlagSet.isEmpty_iff]
    rfl
  | true =>
    simp only [Bool.not_true, Bool.false_eq_true, if_false, true_or, if_true, FlagSet.isEmpty_iff]

/-! ## 4. Histories -/

/-- The tracker after a history of requests, the newest first. -/
def after : List BindFlags → HazardTracker
  | [] => idle
  | mask :: past => ((after past).request mask).2

/-- The last request of a history that wrote. -/
def lastWrite? (past : List BindFlags) : Option BindFlags :=
  past.find? fun m => m.writing ≠ ∅

/-- What was read since a history last wrote. -/
def readSince : List BindFlags → BindFlags
  | [] => ∅
  | mask :: past => if mask.writing = ∅ then readSince past ∪ mask else ∅

section

variable {past : List BindFlags}

theorem lastWrite?_read (h : mask.writing = ∅) :
    lastWrite? (mask :: past) = lastWrite? past := by
  rw [lastWrite?, List.find?_cons_of_neg (by simp [h])]
  rfl

theorem lastWrite?_write (h : mask.writing ≠ ∅) : lastWrite? (mask :: past) = some mask := by
  rw [lastWrite?, List.find?_cons_of_pos (by simp [h])]

/-- The last request that wrote is one of the requests, and wrote. -/
theorem lastWrite?_some {w : BindFlags} (h : lastWrite? past = some w) :
    w ∈ past ∧ w.writing ≠ ∅ :=
  ⟨List.mem_of_find?_eq_some h, by simpa using List.find?_some h⟩

/-- Nothing that was read since the last write writes. -/
theorem writing_readSince (past : List BindFlags) : (readSince past).writing = ∅ := by
  induction past with
  | nil => decide
  | cons mask past ih =>
    unfold readSince
    split
    · rename_i h
      rw [writing_union, ih, h, empty_union]
    · decide

/-- **What is tracked**: the last request that wrote, and all that was read since. -/
theorem uses_after (hknown : ∀ m ∈ past, (FlagSet.known .bind).has m = true) :
    (after past).uses = (lastWrite? past).getD ∅ ∪ readSince past := by
  induction past with
  | nil => rfl
  | cons mask past ih =>
    obtain ⟨hmask, hpast⟩ := List.forall_mem_cons.mp hknown
    show ((after past).next mask).uses = _
    by_cases h : mask.writing = ∅
    · rw [uses_next_read h, ih hpast, lastWrite?_read h, readSince, if_pos h, union_assoc]
    · rw [next_write ((writes_iff hmask).mpr h), lastWrite?_write h, readSince, if_neg h,
        Option.getD_some, union_empty]

end

/-! ## 5. Requests that read or write, but not both -/

/-- Named uses, some at least, that all read or all write. -/
def Plain (mask : BindFlags) : Prop :=
  mask ≠ ∅ ∧ (FlagSet.known .bind).has mask = true ∧ (mask.reading = ∅ ∨ mask.writing = ∅)

instance (mask : BindFlags) : Decidable (Plain mask) :=
  inferInstanceAs (Decidable (_ ∧ _ ∧ _))

section

variable {past : List BindFlags}

/-- The last write of a plain history does nothing but write. -/
theorem Plain.reading_lastWrite (h : ∀ m ∈ past, Plain m) :
    ((lastWrite? past).getD ∅).reading = ∅ := by
  cases hw : lastWrite? past with
  | none => decide
  | some w =>
    obtain ⟨hmem, hwrites⟩ := lastWrite?_some hw
    exact (h w hmem).2.2.resolve_right hwrites

theorem Plain.uses_after (h : ∀ m ∈ past, Plain m) :
    (after past).uses = (lastWrite? past).getD ∅ ∪ readSince past :=
  HazardTracker.uses_after fun m hm => (h m hm).2.1

/-- The readers that are tracked after a plain history were read since the last write. -/
theorem Plain.reading_after (h : ∀ m ∈ past, Plain m) :
    (after past).uses.reading = readSince past := by
  rw [Plain.uses_after h, reading_union, Plain.reading_lastWrite h, empty_union,
    reading_of_writing (writing_readSince past)]

/-- The writers that are tracked after a plain history are those of the last write. -/
theorem Plain.writing_after (h : ∀ m ∈ past, Plain m) :
    (after past).uses.writing = (lastWrite? past).getD ∅ := by
  rw [Plain.uses_after h, writing_union, writing_readSince, union_empty,
    writing_of_reading (Plain.reading_lastWrite h)]

/-- Something is tracked as soon as something was asked for. -/
theorem Plain.uses_after_eq_empty_iff (h : ∀ m ∈ past, Plain m) :
    (after past).uses = ∅ ↔ past = [] := by
  constructor
  · intro he
    cases past with
    | nil => rfl
    | cons mask past =>
      obtain ⟨hne, hknown, -⟩ := h mask List.mem_cons_self
      by_cases hw : mask.writing = ∅
      · have hreading := Plain.reading_after h
        rw [he, readSince, if_pos hw] at hreading
        refine absurd (eq_empty_iff.mpr fun i => ?_) hne
        have := congrArg (·.bits.getLsbD i) hreading
        simp only [getLsbD_union] at this
        exact (Bool.or_eq_false_iff.mp (this.symm.trans (by simp [reading]))).2
      · have hwriting := Plain.writing_after h
        rw [he, lastWrite?_write hw, Option.getD_some] at hwriting
        exact absurd hwriting.symm hne
  · rintro rfl
    rfl

/-- **Barriers exactly at hazards.** After any history of plain requests, one more plain request is
    answered with a barrier just where it has to wait:

    * a write waits if anything was asked for before, for what was read since the last write if
      anything was, else for the last write;
    * a read waits if there was a write and not all it asks for was read since, and it waits for
      that write.

    The barrier is always one to what is asked for, and what is tracked after a history is the last
    write joined with what was read since. -/
theorem barriers_at_hazards (past : List BindFlags) (mask : BindFlags)
    (hpast : ∀ m ∈ past, Plain m) (hmask : Plain mask) :
    (mask.writing ≠ ∅ →
      ((after past).request mask).1 =
        if past = [] then none
        else some ⟨if readSince past = ∅ then (lastWrite? past).getD ∅ else readSince past,
          mask⟩) ∧
    (mask.writing = ∅ →
      ((after past).request mask).1 =
        match lastWrite? past with
        | none => none
        | some w => if (readSince past).has mask = true then none else some ⟨w, mask⟩) ∧
    (after past).uses = (lastWrite? past).getD ∅ ∪ readSince past := by
  refine ⟨fun hw => ?_, fun hr => ?_, Plain.uses_after hpast⟩
  · show (after past).barrier? mask = _
    rw [barrier_write ((writes_iff hmask.2.1).mpr hw), Plain.reading_after hpast]
    simp only [Plain.uses_after_eq_empty_iff hpast]
    by_cases hs : readSince past = ∅
    · rw [if_pos hs, if_pos hs, Plain.uses_after hpast, hs, union_empty]
    · rw [if_neg hs, if_neg hs]
  · show (after past).barrier? mask = _
    rw [barrier_read hr, ← has_reading hr, Plain.reading_after hpast, Plain.writing_after hpast]
    cases hw : lastWrite? past with
    | none => rw [Option.getD_none, if_pos (.inr rfl)]
    | some w =>
      have hne : w ≠ ∅ := (hpast w (lastWrite?_some hw).1).1
      simp only [Option.getD_some, hne, or_false]

/-- A write, two reads and a write again: the second read waits for the write since it asks for more
    than the first one, and the second write waits for both reads. -/
theorem write_read_read_write_barriers :
    ((after [indexBuffer, vertexBuffer, unorderedAccess]).request unorderedAccess).1 =
      some ⟨vertexBuffer ∪ indexBuffer, unorderedAccess⟩ := by
  have h := (barriers_at_hazards [indexBuffer, vertexBuffer, unorderedAccess] unorderedAccess
    (by decide) (by decide)).1 (by decide)
  exact h.trans (by decide)

end

/-! ## 6. Requests that read and write at once -/

/-- The barrier that a request is answered with has `w` among what it waits for. -/
def waitsFor (t : HazardTracker) (mask w : BindFlags) : Bool :=
  (t.request mask).1.any fun b => b.source.has w

/-- What has waited for `w`, among the requests `reads` that were made after `past`: the targets of
    the barriers whose source has `w`. -/
def fenced (w : BindFlags) (past : List BindFlags) : List BindFlags → BindFlags
  | [] => ∅
  | r :: reads =>
    let answer := ((after (reads ++ past)).request r).1.filter fun b => b.source.has w
    fenced w past reads ∪ answer.elim ∅ (·.target)

section

variable {reads : List BindFlags} {w : BindFlags}

/-- **What is tracked after a write and some reads**: the whole of the writing request, with its own
    readers, and what has waited for it since. What writes in it is what that request wrote. -/
theorem uses_after_reads (earlier : List BindFlags) (hwrites : writes mask = true)
    (hmask : mask.writing ≠ ∅) (hw : mask.writing.has w = true)
    (hreads : ∀ m ∈ reads, m.writing = ∅) :
    (after (reads ++ mask :: earlier)).uses = mask ∪ fenced w (mask :: earlier) reads ∧
      (fenced w (mask :: earlier) reads).writing = ∅ := by
  induction reads with
  | nil =>
    refine ⟨?_, show (∅ : BindFlags).writing = ∅ by decide⟩
    show ((after earlier).next mask).uses = _
    rw [next_write hwrites, fenced, union_empty]
  | cons r reads ih =>
    obtain ⟨hr, hreads⟩ := List.forall_mem_cons.mp hreads
    obtain ⟨huses, hfenced⟩ := ih hreads
    have hsource : (after (reads ++ mask :: earlier)).uses.writing = mask.writing := by
      rw [huses, writing_union, hfenced, union_empty]
    have hbarrier := barrier_read (t := after (reads ++ mask :: earlier)) hr
    rw [hsource] at hbarrier
    show ((after (reads ++ mask :: earlier)).next r).uses = _ ∧ _
    simp only [fenced, request, hbarrier]
    cases hhas : (after (reads ++ mask :: earlier)).uses.has r with
    | true =>
      -- no barrier, and nothing new to track
      rw [if_pos (.inl rfl), Option.filter_none, Option.elim_none, union_empty, uses_next_read hr,
        union_eq_self hhas]
      exact ⟨huses, hfenced⟩
    | false =>
      rw [if_neg (by simp [hmask]), Option.filter_some_pos (by exact hw), Option.elim_some,
        uses_next_read hr, huses, union_assoc, writing_union, hfenced, hr, empty_union]
      exact ⟨rfl, rfl⟩

/-- **When a read waits for the write before it.** A request wrote, with readers of its own or
    without, and after it there were only reads. One more read is answered with a barrier from what
    was written, unless all it asks for has waited for the write or was read by the writing request
    itself. So a read that asks for something that did not wait yet does wait for a write `w`,
    except where the readers of the writing request make up for all that is missing. -/
theorem late_read_fenced_iff (earlier reads : List BindFlags) (mask r w : BindFlags)
    (hknown : (FlagSet.known .bind).has mask = true) (hmask : mask.writing ≠ ∅)
    (hw : mask.writing.has w = true) (hreads : ∀ m ∈ r :: reads, m.writing = ∅) :
    let t := after (reads ++ mask :: earlier)
    let ready := fenced w (mask :: earlier) reads
    (t.request r).1 =
        (if (ready ∪ mask.reading).has r = true then none else some ⟨mask.writing, r⟩) ∧
      ((ready.has r = false → t.waitsFor r w = true) ↔
        (ready.has r = true ∨ (ready ∪ mask.reading).has r = false)) := by
  obtain ⟨hr, hreads⟩ := List.forall_mem_cons.mp hreads
  obtain ⟨huses, hready⟩ :=
    uses_after_reads earlier ((writes_iff hknown).mpr hmask) hmask hw hreads
  intro t ready
  have hcovers : t.uses.has r = (ready ∪ mask.reading).has r := by
    rw [show t.uses = mask ∪ ready from huses, ← has_reading hr, reading_union,
      reading_of_writing hready, union_comm]
  have hanswer : (t.request r).1 =
      if (ready ∪ mask.reading).has r = true then none else some ⟨mask.writing, r⟩ := by
    show t.barrier? r = _
    rw [barrier_read hr, hcovers, show t.uses.writing = mask.writing by
      rw [show t.uses = mask ∪ ready from huses, writing_union, hready, union_empty]]
    simp only [hmask, or_false]
  refine ⟨hanswer, ?_⟩
  unfold waitsFor
  rw [hanswer]
  cases (ready ∪ mask.reading).has r with
  | true =>
    rw [if_pos rfl, Option.any_none]
    cases ready.has r <;> simp
  | false =>
    rw [if_neg Bool.false_ne_true, Option.any_some, hw]
    simp

/-- A write that reads vertices as well, and an index read that waits for it: a constant read after
    that still waits for the write. -/
theorem late_read_fenced_iff_constants :
    let past := [indexBuffer, unorderedAccess ∪ vertexBuffer]
    ((after past).request constantBuffer).1 = some ⟨unorderedAccess, constantBuffer⟩ := by
  have h := (late_read_fenced_iff [] [indexBuffer] (unorderedAccess ∪ vertexBuffer) constantBuffer
    unorderedAccess (by decide) (by decide) (by decide) (by decide)).1
  exact h.trans (by decide)

/-- **A read that does not wait**: the buffer is written and read as vertices at once, and then read
    as vertices. No barrier after the write has the vertices among its targets, and the read is
    answered with none. -/
theorem unfenced_read :
    let mask := unorderedAccess ∪ vertexBuffer
    mask.writing.has unorderedAccess = true ∧ vertexBuffer.writing = ∅ ∧
      (fenced unorderedAccess [mask] []).has vertexBuffer = false ∧
      ((after [mask]).request vertexBuffer).1 = none := by decide

end

end HazardTracker

end BufferCoherence
