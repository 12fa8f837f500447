import BufferCoherence.Proofs.Spans
import Mathlib.Data.List.DropRight

/-!
# A history of dirty spans

What a set of dirty spans holds after any calls: reports of spans and of the whole buffer, and calls
that clear the set, one after another. The calls behind the last one that cleared the set
(`sinceClear`) are what the set stands for. Memory for one more span is to be had throughout.

* `DirtySpans.received` says once what a report does to the set, in five cases: where the memory for
  one more span is not to be had, the set is full, as if there was no room for it.
* `accounts_after` is the invariant of a history: the recorded spans lie within the buffer, there is
  room for them, none is covered by an earlier one, and as long as the set is not full its bytes are
  exactly the reported ones. It is full where the whole buffer was reported, or a span was that no
  recorded one covers and that there was no room for.
* **`spans_cover_reports`** puts it together: what the spans of a history cover, and that a full set
  stays full until it is cleared.
-/

namespace BufferCoherence

/-! ## 1. What one call reports -/

/-- A call that changes a set of dirty spans. -/
inductive SpanCall where
  | mark (offset size : Nat)
  | markAll
  | clear
deriving DecidableEq

namespace SpanCall

variable {total i : Nat} {c : SpanCall}

/-- The set after a call. -/
def apply (d : DirtySpans) : SpanCall → DirtySpans
  | .mark offset size => d.mark offset size
  | .markAll => d.markAll
  | .clear => d.clear

/-- **The call stands for the whole buffer** of `total` bytes: by its name, by the span that it
    gives or leaves open, or because the span leaves the buffer. -/
def Whole (total : Nat) : SpanCall → Prop
  | .mark offset size => offset = 0 ∧ (size = 0 ∨ size = total) ∨ total < offset + size
  | .markAll => True
  | .clear => False

instance (total : Nat) : (c : SpanCall) → Decidable (c.Whole total)
  | .mark _ _ => inferInstanceAs (Decidable (_ ∧ (_ ∨ _) ∨ _))
  | .markAll => inferInstanceAs (Decidable True)
  | .clear => inferInstanceAs (Decidable False)

/-- The call reports the byte at an index as changed. -/
def Reports (total : Nat) (c : SpanCall) (i : Nat) : Prop :=
  if c.Whole total then i < total
  else match c with
    | .mark offset size => ByteRange.Holds ⟨offset, size⟩ i
    | _ => False

theorem reports_of_whole (h : c.Whole total) : c.Reports total i ↔ i < total := by
  unfold Reports
  rw [if_pos h]

theorem reports_mark {offset size : Nat} (h : ¬ (mark offset size).Whole total) :
    (mark offset size).Reports total i ↔ ByteRange.Holds ⟨offset, size⟩ i := by
  unfold Reports
  rw [if_neg h]

/-- A span that does not stand for the whole buffer lies within it. -/
theorem stop_le_of_not_whole {offset size : Nat} (h : ¬ (mark offset size).Whole total) :
    offset + size ≤ total :=
  Nat.le_of_not_lt fun hlt => h (.inr hlt)

/-- What is reported are bytes of the buffer. -/
theorem lt_of_reports (h : c.Reports total i) : i < total := by
  by_cases hw : c.Whole total
  · exact (reports_of_whole hw).mp h
  · cases c with
    | mark offset size => exact ((reports_mark hw).mp h).2.trans_le (stop_le_of_not_whole hw)
    | markAll => exact absurd trivial hw
    | clear =>
      unfold Reports at h
      rw [if_neg hw] at h
      exact h.elim

end SpanCall

namespace ByteRange

variable {r s : ByteRange}

theorem covers_iff : r.covers s = true ↔ r.offset ≤ s.offset ∧ s.stop ≤ r.stop := by
  unfold covers
  rw [Bool.and_eq_true, decide_eq_true_iff, decide_eq_true_iff]

/-- A byte of a covered span is one of the span that covers it. -/
theorem Holds.of_covers {i : Nat} (h : s.Holds i) (hc : r.covers s = true) : r.Holds i := by
  obtain ⟨hoffset, hstop⟩ := covers_iff.mp hc
  exact ⟨hoffset.trans h.1, h.2.trans_le hstop⟩

end ByteRange

namespace DirtySpans

variable {d : DirtySpans} {total limit : Nat} {calls : List SpanCall}

/-- A set with the span over everything covers exactly the bytes of the buffer. -/
theorem covers_iff_of_full (h : d.isFull = true) (i : Nat) : d.Covers i ↔ i < d.size := by
  unfold Covers CoveredBy
  rw [isFull_iff.mp h]
  simp [whole, ByteRange.Holds, ByteRange.stop]

/-- **What a report does to the set.** -/
inductive Received (d : DirtySpans) (offset size : Nat) : DirtySpans → Prop where
  /-- It stands for the whole buffer. -/
  | whole (h : (SpanCall.mark offset size).Whole d.size) : Received d offset size d.markAll
  /-- It says nothing new. -/
  | covered (h : ¬ (SpanCall.mark offset size).Whole d.size)
      (hc : ∃ r ∈ d.spans, r.covers ⟨offset, size⟩ = true) : Received d offset size d
  /-- There is no room for it. -/
  | overflow (h : ¬ (SpanCall.mark offset size).Whole d.size)
      (hc : ∀ r ∈ d.spans, r.covers ⟨offset, size⟩ = false) (hroom : d.limit ≤ d.spans.length) :
      Received d offset size d.markAll
  /-- There is room for it, but no memory. -/
  | starved (h : ¬ (SpanCall.mark offset size).Whole d.size)
      (hc : ∀ r ∈ d.spans, r.covers ⟨offset, size⟩ = false) (hroom : d.spans.length < d.limit)
      (hmemory : d.growable = false) : Received d offset size d.markAll
  /-- It is recorded. -/
  | recorded (h : ¬ (SpanCall.mark offset size).Whole d.size)
      (hc : ∀ r ∈ d.spans, r.covers ⟨offset, size⟩ = false) (hroom : d.spans.length < d.limit)
      (hmemory : d.growable = true) :
      Received d offset size { d with spans := d.spans ++ [⟨offset, size⟩] }

theorem received (d : DirtySpans) (offset size : Nat) :
    d.Received offset size (d.mark offset size) := by
  by_cases hwhole : (offset == 0 && (size == 0 || size == d.size)) = true
  · have hmark : d.mark offset size = d.markAll := by
      unfold mark receive
      rw [if_pos hwhole]
    rw [hmark]
    refine .whole (.inl ?_)
    simpa using hwhole
  by_cases hfits : fits offset size d.size = true
  swap
  · have hmark : d.mark offset size = d.markAll := by
      unfold mark receive
      rw [if_neg hwhole, if_pos (by simpa using hfits)]
    rw [hmark]
    exact .whole (.inr (Nat.lt_of_not_le fun h => hfits (fits_iff.mpr h)))
  have hinside : offset + size ≤ d.size := fits_iff.mp hfits
  have hpart : ¬ (SpanCall.mark offset size).Whole d.size := by
    rintro (h | h)
    · exact hwhole (by simpa using h)
    · omega
  by_cases hcovered : ∃ r ∈ d.spans, r.covers ⟨offset, size⟩ = true
  · have hmark : d.mark offset size = d := by
      unfold mark receive
      rw [if_neg hwhole, if_neg (by simp [hfits]),
        if_pos (by rw [List.any_eq_true.mpr hcovered, Bool.or_true])]
    rw [hmark]
    exact .covered hpart hcovered
  · have hfree : ∀ r ∈ d.spans, r.covers ⟨offset, size⟩ = false := fun r hr =>
      Bool.eq_false_iff.mpr fun h => hcovered ⟨r, hr, h⟩
    -- a full set covers all that lies within the buffer
    have hopen : d.isFull = false := Bool.eq_false_iff.mpr fun h => by
      have hall := hfree d.whole (by rw [isFull_iff.mp h]; exact List.mem_singleton_self _)
      have hcovers : d.whole.covers ⟨offset, size⟩ = true :=
        ByteRange.covers_iff.mpr ⟨Nat.zero_le _, hinside.trans (Nat.zero_add _).ge⟩
      rw [hcovers] at hall
      cases hall
    have hany : (d.isFull || d.spans.any (·.covers ⟨offset, size⟩)) = false := by
      rw [hopen, Bool.false_or]
      exact List.any_eq_false.mpr fun r hr => by simp [hfree r hr]
    by_cases hroom : d.limit ≤ d.spans.length
    · have hmark : d.mark offset size = d.markAll := by
        unfold mark receive
        rw [if_neg hwhole, if_neg (by simp [hfits]), if_neg (by simp [hany]), if_pos hroom]
      rw [hmark]
      exact .overflow hpart hfree hroom
    · cases hmemory : d.growable with
      | false =>
        have hmark : d.mark offset size = d.markAll := by
          unfold mark receive
          rw [if_neg hwhole, if_neg (by simp [hfits]), if_neg (by simp [hany]), if_neg hroom,
            if_pos (by simp [hmemory])]
        rw [hmark]
        exact .starved hpart hfree (Nat.lt_of_not_le hroom) hmemory
      | true =>
        have hmark : d.mark offset size = { d with spans := d.spans ++ [⟨offset, size⟩] } := by
          unfold mark receive
          rw [if_neg hwhole, if_neg (by simp [hfits]), if_neg (by simp [hany]), if_neg hroom,
            if_neg (by simp [hmemory])]
        rw [hmark]
        exact .recorded hpart hfree (Nat.lt_of_not_le hroom) hmemory

/-! ## 2. Histories -/

/-- The set of a new buffer after some calls. -/
def after (total limit : Nat) (calls : List SpanCall) : DirtySpans :=
  calls.foldl SpanCall.apply (clean total limit)

/-- The calls behind the last one that cleared the set. -/
def sinceClear (calls : List SpanCall) : List SpanCall := calls.rtakeWhile fun c => c ≠ .clear

/-- The byte at an index was reported since the set was last cleared. -/
def Reported (total : Nat) (calls : List SpanCall) (i : Nat) : Prop :=
  ∃ c ∈ sinceClear calls, c.Reports total i

/-- The whole buffer was reported since the set was last cleared. -/
def WholeReported (total : Nat) (calls : List SpanCall) : Prop :=
  ∃ c ∈ sinceClear calls, c.Whole total

/-- A span, one that does not stand for the whole buffer, finds no room in the set: no recorded one
    covers it, and there are as many of them as there may be. -/
def NoRoom (total limit : Nat) (before : List SpanCall) (offset size : Nat) : Prop :=
  ¬ (SpanCall.mark offset size).Whole total ∧
    (after total limit before).spans.length = max limit 1 ∧
    ∀ r ∈ (after total limit before).spans, r.covers ⟨offset, size⟩ = false

/-- Since the set was last cleared, a span was reported that found no room in it. -/
def Overflowed (total limit : Nat) (calls : List SpanCall) : Prop :=
  ∃ before offset size rest, calls = before ++ SpanCall.mark offset size :: rest ∧
    SpanCall.clear ∉ rest ∧ NoRoom total limit before offset size

theorem after_snoc (calls : List SpanCall) (c : SpanCall) :
    after total limit (calls ++ [c]) = c.apply (after total limit calls) := by
  unfold after
  rw [List.foldl_append]
  rfl

@[simp] theorem size_after : (after total limit calls).size = total := by
  induction calls using List.reverseRecOn with
  | nil => rfl
  | append_singleton calls c ih =>
    rw [after_snoc]
    cases c with
    | mark offset size => exact (size_mark _ _ _).trans ih
    | markAll => exact ih
    | clear => exact ih

@[simp] theorem limit_after : (after total limit calls).limit = max limit 1 := by
  induction calls using List.reverseRecOn with
  | nil => rfl
  | append_singleton calls c ih =>
    rw [after_snoc]
    cases c with
    | mark offset size => exact (limit_mark _ _ _).trans ih
    | markAll => exact ih
    | clear => exact ih

@[simp] theorem growable_after : (after total limit calls).growable = true := by
  induction calls using List.reverseRecOn with
  | nil => rfl
  | append_singleton calls c ih =>
    rw [after_snoc]
    cases c with
    | mark offset size => exact (growable_mark _ _ _).trans ih
    | markAll => exact ih
    | clear => exact ih

theorem spans_of_full (h : (after total limit calls).isFull = true) :
    (after total limit calls).spans = [⟨0, total⟩] := by
  rw [isFull_iff.mp h, whole, size_after]

theorem sinceClear_clear (calls : List SpanCall) : sinceClear (calls ++ [.clear]) = [] :=
  List.rtakeWhile_concat_neg _ _ _ (by simp)

theorem sinceClear_snoc {c : SpanCall} (h : c ≠ .clear) (calls : List SpanCall) :
    sinceClear (calls ++ [c]) = sinceClear calls ++ [c] :=
  List.rtakeWhile_concat_pos _ _ _ (by simpa using h)

theorem not_reported_clear (i : Nat) : ¬ Reported total (calls ++ [.clear]) i := by
  unfold Reported
  rw [sinceClear_clear]
  simp

theorem reported_snoc {c : SpanCall} (h : c ≠ .clear) {i : Nat} :
    Reported total (calls ++ [c]) i ↔ Reported total calls i ∨ c.Reports total i := by
  unfold Reported
  rw [sinceClear_snoc h]
  simp [or_and_right, exists_or]

theorem not_wholeReported_clear : ¬ WholeReported total (calls ++ [.clear]) := by
  unfold WholeReported
  rw [sinceClear_clear]
  simp

theorem wholeReported_snoc {c : SpanCall} (h : c ≠ .clear) :
    WholeReported total (calls ++ [c]) ↔ WholeReported total calls ∨ c.Whole total := by
  unfold WholeReported
  rw [sinceClear_snoc h]
  simp [or_and_right, exists_or]

/-- Where the whole buffer was reported, its bytes were. -/
theorem reported_iff_of_whole (h : WholeReported total calls) (i : Nat) :
    Reported total calls i ↔ i < total := by
  obtain ⟨c, hc, hwhole⟩ := h
  exact ⟨fun ⟨_, _, hr⟩ => SpanCall.lt_of_reports hr,
    fun hi => ⟨c, hc, (SpanCall.reports_of_whole hwhole).mpr hi⟩⟩

/-- The last call found no room, or an earlier one that was not followed by a clear. -/
theorem overflowed_snoc {c : SpanCall} : Overflowed total limit (calls ++ [c]) ↔
    (c ≠ .clear ∧ Overflowed total limit calls) ∨
      ∃ offset size, c = .mark offset size ∧ NoRoom total limit calls offset size := by
  constructor
  · rintro ⟨before, offset, size, rest, hcalls, hrest, hfull⟩
    rcases List.eq_nil_or_concat' rest with rfl | ⟨rest', c', rfl⟩
    · obtain ⟨rfl, hc⟩ := List.append_inj' hcalls rfl
      cases hc
      exact .inr ⟨offset, size, rfl, hfull⟩
    · rw [← List.cons_append, ← List.append_assoc] at hcalls
      obtain ⟨rfl, hc⟩ := List.append_inj' hcalls rfl
      cases hc
      rw [List.mem_append, List.mem_singleton, not_or] at hrest
      exact .inl ⟨Ne.symm hrest.2, before, offset, size, rest', rfl, hrest.1, hfull⟩
  · rintro (⟨hc, before, offset, size, rest, rfl, hrest, hfull⟩ | ⟨offset, size, rfl, hfull⟩)
    · refine ⟨before, offset, size, rest ++ [c], by simp, ?_, hfull⟩
      rw [List.mem_append, List.mem_singleton, not_or]
      exact ⟨hrest, Ne.symm hc⟩
    · exact ⟨calls, offset, size, [], rfl, List.not_mem_nil, hfull⟩

theorem not_overflowed_clear : ¬ Overflowed total limit (calls ++ [.clear]) := by
  rw [overflowed_snoc]
  rintro (⟨h, -⟩ | ⟨_, _, h, -⟩)
  · exact h rfl
  · cases h

/-! ## 3. The invariant of a history -/

/-- **What the set holds after some calls.** -/
structure Accounts (total limit : Nat) (calls : List SpanCall) : Prop where
  /-- No span leaves the buffer. -/
  inside : ∀ r ∈ (after total limit calls).spans, r.stop ≤ total
  /-- There is room for the spans. -/
  room : (after total limit calls).spans.length ≤ max limit 1
  /-- No span is covered by an earlier one. -/
  apart : (after total limit calls).spans.Pairwise fun r s => r.covers s = false
  /-- The span over the whole buffer is alone. -/
  alone : ⟨0, total⟩ ∈ (after total limit calls).spans →
    (after total limit calls).isFull = true
  /-- A set that is not full covers what was reported. -/
  exact : (after total limit calls).isFull = false → ∀ i,
    (after total limit calls).Covers i ↔ Reported total calls i
  /-- The set is full for one of two reasons. -/
  full : (after total limit calls).isFull = true ↔
    WholeReported total calls ∨ Overflowed total limit calls

theorem Accounts.nil (total limit : Nat) : Accounts total limit [] where
  inside := nofun
  room := Nat.zero_le _
  apart := .nil
  alone := nofun
  exact := fun _ i => iff_of_false (not_coveredBy_nil i) (by simp [Reported, sinceClear])
  full := by
    refine iff_of_false Bool.false_ne_true ?_
    rintro (⟨c, hc, -⟩ | ⟨before, offset, size, rest, h, -⟩)
    · simp [sinceClear] at hc
    · simp at h

theorem Accounts.clear (total limit : Nat) (calls : List SpanCall) :
    Accounts total limit (calls ++ [.clear]) := by
  have hafter : after total limit (calls ++ [.clear]) = (after total limit calls).clear :=
    after_snoc calls .clear
  constructor <;> rw [hafter]
  · exact nofun
  · exact Nat.zero_le _
  · exact .nil
  · exact nofun
  · exact fun _ i => iff_of_false (not_coveredBy_nil i) (not_reported_clear i)
  · exact iff_of_false Bool.false_ne_true
      (not_or.mpr ⟨not_wholeReported_clear, not_overflowed_clear⟩)

/-- A call that fills the set, if there is a reason for it. -/
theorem Accounts.markAll {c : SpanCall}
    (hafter : after total limit (calls ++ [c]) = (after total limit calls).markAll)
    (hreason : WholeReported total (calls ++ [c]) ∨ Overflowed total limit (calls ++ [c])) :
    Accounts total limit (calls ++ [c]) := by
  have hspans : (after total limit (calls ++ [c])).spans = [⟨0, total⟩] := by
    rw [hafter]
    show [DirtySpans.whole _] = _
    rw [whole, size_after]
  have hfull : (after total limit (calls ++ [c])).isFull = true := by
    rw [hafter]
    exact isFull_markAll _
  constructor
  · rw [hspans]
    intro r hr
    rw [List.mem_singleton.mp hr]
    exact (Nat.zero_add total).le
  · rw [hspans]
    exact Nat.le_max_right limit 1
  · rw [hspans]
    exact List.pairwise_singleton _ _
  · exact fun _ => hfull
  · exact fun h => absurd (hfull.symm.trans h) Bool.false_ne_true.symm
  · exact iff_of_true hfull hreason

/-- A span that is covered already. -/
theorem Accounts.covered (h : Accounts total limit calls) {offset size : Nat}
    (hpart : ¬ (SpanCall.mark offset size).Whole total)
    (hc : ∃ r ∈ (after total limit calls).spans, r.covers ⟨offset, size⟩ = true)
    (hafter : after total limit (calls ++ [.mark offset size]) = after total limit calls) :
    Accounts total limit (calls ++ [.mark offset size]) := by
  have hmark : SpanCall.mark offset size ≠ .clear := nofun
  have hroom : ¬ NoRoom total limit calls offset size := fun hn => by
    obtain ⟨r, hr, hcovers⟩ := hc
    rw [hn.2.2 r hr] at hcovers
    cases hcovers
  constructor <;> rw [hafter]
  · exact h.inside
  · exact h.room
  · exact h.apart
  · exact h.alone
  · intro hopen i
    rw [reported_snoc hmark, SpanCall.reports_mark hpart, h.exact hopen i]
    refine (or_iff_left_of_imp fun hi => ?_).symm
    obtain ⟨r, hr, hcovers⟩ := hc
    exact (h.exact hopen i).mp ⟨r, hr, hi.of_covers hcovers⟩
  · rw [h.full, wholeReported_snoc hmark, overflowed_snoc, or_iff_left hpart]
    simp [hroom]

/-- A span that is recorded. -/
theorem Accounts.recorded (h : Accounts total limit calls) {offset size : Nat}
    (hpart : ¬ (SpanCall.mark offset size).Whole total)
    (hc : ∀ r ∈ (after total limit calls).spans, r.covers ⟨offset, size⟩ = false)
    (hless : (after total limit calls).spans.length < max limit 1)
    (hafter : (after total limit (calls ++ [.mark offset size])).spans =
      (after total limit calls).spans ++ [⟨offset, size⟩]) :
    Accounts total limit (calls ++ [.mark offset size]) := by
  have hmark : SpanCall.mark offset size ≠ .clear := nofun
  have hinside : offset + size ≤ total := SpanCall.stop_le_of_not_whole hpart
  -- the new span is not the one over the whole buffer, and that one is not among the old ones
  have hnew : (⟨0, total⟩ : ByteRange) ≠ ⟨offset, size⟩ := by
    rintro h
    cases h
    exact hpart (.inl ⟨rfl, .inr rfl⟩)
  have hold : (⟨0, total⟩ : ByteRange) ∉ (after total limit calls).spans := fun hm => by
    have hcovers : (⟨0, total⟩ : ByteRange).covers ⟨offset, size⟩ = true :=
      ByteRange.covers_iff.mpr ⟨Nat.zero_le _, hinside.trans (Nat.zero_add _).ge⟩
    rw [hc _ hm] at hcovers
    cases hcovers
  have hmem : (⟨0, total⟩ : ByteRange) ∉
      (after total limit (calls ++ [.mark offset size])).spans := by
    rw [hafter, List.mem_append, List.mem_singleton]
    exact not_or.mpr ⟨hold, hnew⟩
  have hopen {calls : List SpanCall}
      (hm : (⟨0, total⟩ : ByteRange) ∉ (after total limit calls).spans) :
      (after total limit calls).isFull = false := Bool.eq_false_iff.mpr fun hfull => hm (by
    rw [spans_of_full hfull]
    exact List.mem_singleton_self _)
  have hroom : ¬ NoRoom total limit calls offset size := fun hn => hless.ne hn.2.1
  constructor
  · rw [hafter]
    intro r hr
    rcases List.mem_append.mp hr with hr | hr
    · exact h.inside r hr
    · rw [List.mem_singleton.mp hr]
      exact hinside
  · rw [hafter, List.length_append, List.length_singleton]
    exact hless
  · rw [hafter, List.pairwise_append]
    refine ⟨h.apart, List.pairwise_singleton _ _, fun r hr s hs => ?_⟩
    rw [List.mem_singleton.mp hs]
    exact hc r hr
  · exact fun hm => absurd hm hmem
  · intro _ i
    rw [reported_snoc hmark, SpanCall.reports_mark hpart, ← h.exact (hopen hold) i]
    unfold Covers CoveredBy
    rw [hafter]
    simp [or_and_right, exists_or]
  · rw [hopen hmem, wholeReported_snoc hmark, overflowed_snoc, or_iff_left hpart]
    simp only [Bool.false_eq_true, false_iff]
    have hnone := mt h.full.mpr (Bool.eq_false_iff.mp (hopen hold))
    simpa [hroom] using hnone

/-- **Every history leaves a set that accounts for it.** -/
theorem accounts_after (total limit : Nat) (calls : List SpanCall) :
    Accounts total limit calls := by
  induction calls using List.reverseRecOn with
  | nil => exact .nil total limit
  | append_singleton calls c ih =>
    cases c with
    | clear => exact .clear total limit calls
    | markAll =>
      have hcall : SpanCall.markAll ≠ .clear := nofun
      exact .markAll (after_snoc calls .markAll)
        (.inl ((wholeReported_snoc hcall).mpr (.inr trivial)))
    | mark offset size =>
      have hcall : SpanCall.mark offset size ≠ .clear := nofun
      have hafter : after total limit (calls ++ [.mark offset size]) = _ := after_snoc calls _
      have hreceived := (after total limit calls).received offset size
      change (after total limit calls).Received offset size
        ((SpanCall.mark offset size).apply _) at hreceived
      rw [← hafter] at hreceived
      generalize hd : after total limit (calls ++ [.mark offset size]) = d at hreceived
      cases hreceived with
      | whole hwhole =>
        rw [size_after] at hwhole
        exact .markAll hd (.inl ((wholeReported_snoc hcall).mpr (.inr hwhole)))
      | covered hpart hc =>
        rw [size_after] at hpart
        exact ih.covered hpart hc hd
      | overflow hpart hc hroom =>
        rw [size_after] at hpart
        rw [limit_after] at hroom
        exact .markAll hd (.inr (overflowed_snoc.mpr
          (.inr ⟨offset, size, rfl, hpart, ih.room.antisymm hroom, hc⟩)))
      | starved hpart hc hroom hmemory =>
        rw [growable_after] at hmemory
        cases hmemory
      | recorded hpart hc hroom hmemory =>
        rw [size_after] at hpart
        rw [limit_after] at hroom
        exact ih.recorded hpart hc hroom (congrArg spans hd)

/-! ## 4. What a history leaves -/

/-- The set is full exactly if it holds the span over the whole buffer. -/
theorem full_iff_mem : (after total limit calls).isFull = true ↔
    ⟨0, total⟩ ∈ (after total limit calls).spans := by
  refine ⟨fun h => ?_, (accounts_after total limit calls).alone⟩
  rw [spans_of_full h]
  exact List.mem_singleton_self _

/-- The reason why a set is full lasts until it is cleared. -/
theorem full_append (h : (after total limit calls).isFull = true) {more : List SpanCall}
    (hmore : SpanCall.clear ∉ more) : (after total limit (calls ++ more)).isFull = true := by
  induction more using List.reverseRecOn with
  | nil => rwa [List.append_nil]
  | append_singleton more c ih =>
    rw [List.mem_append, List.mem_singleton, not_or] at hmore
    have hc : c ≠ .clear := Ne.symm hmore.2
    have hfull := (accounts_after total limit (calls ++ more)).full.mp (ih hmore.1)
    rw [← List.append_assoc, (accounts_after total limit _).full, wholeReported_snoc hc,
      overflowed_snoc]
    exact hfull.imp .inl fun ho => .inl ⟨hc, ho⟩

/-- **What a history of calls leaves in the set.** No span leaves the buffer, there are at most as
    many as there may be, and none is covered by an earlier one. The bytes of the spans are those
    reported since the set was last cleared, or all bytes of the buffer after a span was reported
    that found no room. The set is full exactly if it holds the span over the whole buffer, which
    has one of the two reasons; that span is alone then, and stays until the set is cleared. -/
theorem spans_cover_reports (total limit : Nat) (calls : List SpanCall) :
    let d := after total limit calls
    (∀ r ∈ d.spans, r.offset + r.size ≤ total) ∧
      d.spans.length ≤ max limit 1 ∧
      d.spans.Pairwise (fun earlier later => earlier.covers later = false) ∧
      ((∀ i, d.Covers i ↔ Reported total calls i) ∨
        (∀ i, d.Covers i ↔ i < total) ∧ Overflowed total limit calls) ∧
      (d.isFull = true ↔ WholeReported total calls ∨ Overflowed total limit calls) ∧
      (d.isFull = true ↔ ⟨0, total⟩ ∈ d.spans) ∧
      (⟨0, total⟩ ∈ d.spans → d.spans = [⟨0, total⟩] ∧ ∀ more, SpanCall.clear ∉ more →
        (after total limit (calls ++ more)).spans = [⟨0, total⟩]) := by
  have h := accounts_after total limit calls
  refine ⟨h.inside, h.room, h.apart, ?_, h.full, full_iff_mem, fun hmem => ?_⟩
  · cases hfull : (after total limit calls).isFull with
    | false => exact .inl (h.exact hfull)
    | true =>
      have hcovers (i : Nat) : (after total limit calls).Covers i ↔ i < total := by
        rw [covers_iff_of_full hfull, size_after]
      rcases h.full.mp hfull with hwhole | hover
      · exact .inl fun i => (hcovers i).trans (reported_iff_of_whole hwhole i).symm
      · exact .inr ⟨hcovers, hover⟩
  · have hfull := full_iff_mem.mpr hmem
    exact ⟨spans_of_full hfull, fun more hmore => spans_of_full (full_append hfull hmore)⟩

/-- Two spans in a set with room for one. The second one fills the set, which stays full. -/
theorem spans_cover_reports_overflow :
    Overflowed 16 1 [.mark 0 4, .mark 8 4] ∧ ¬ WholeReported 16 [.mark 0 4, .mark 8 4] ∧
      (after 16 1 [.mark 0 4, .mark 8 4]).isFull = true ∧
      (after 16 1 ([.mark 0 4, .mark 8 4] ++ [.mark 2 1, .mark 20 4])).spans = [⟨0, 16⟩] := by
  obtain ⟨-, -, -, -, hreasons, hfull, hstays⟩ :=
    spans_cover_reports 16 1 [.mark 0 4, .mark 8 4]
  have hisFull : (after 16 1 [.mark 0 4, .mark 8 4]).isFull = true := rfl
  have hpart : ¬ WholeReported 16 [.mark 0 4, .mark 8 4] := by
    rintro ⟨c, hc, hwhole⟩
    revert c
    decide
  exact ⟨(hreasons.mp hisFull).resolve_left hpart, hpart, hisFull,
    (hstays (hfull.mp hisFull)).2 _ (by decide)⟩

end DirtySpans

end BufferCoherence
