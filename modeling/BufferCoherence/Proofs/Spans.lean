import BufferCoherence.DirtySpans
import BufferCoherence.Proofs.Bytes

/-!
# What the dirty spans cover

The promise of the set of dirty spans, byte by byte: a reported span is covered from then on, what
was covered stays covered until the set is cleared, and no span leaves the buffer.

* `covers_mark` is the promise of one report, whichever way it is received;
* `Fits.mark` keeps the spans inside the buffer.
-/

namespace BufferCoherence

/-- The byte at an index lies in one of the spans. -/
def CoveredBy (spans : List ByteRange) (i : Nat) : Prop := ∃ r ∈ spans, r.Holds i

instance (spans : List ByteRange) (i : Nat) : Decidable (CoveredBy spans i) :=
  inferInstanceAs (Decidable (∃ r ∈ spans, r.Holds i))

theorem not_coveredBy_nil (i : Nat) : ¬ CoveredBy [] i := by
  rintro ⟨r, hr, -⟩
  cases hr

theorem coveredBy_cons {r : ByteRange} {spans : List ByteRange} {i : Nat} :
    CoveredBy (r :: spans) i ↔ r.Holds i ∨ CoveredBy spans i := by
  simp [CoveredBy]

/-- In the spans `new` holds what the source holds there, and elsewhere what `old` holds. -/
def Overlaid (spans : List ByteRange) (source old new : ByteArray) : Prop :=
  new.size = old.size ∧ ∀ i, Bytes.byteAt? new i =
    if CoveredBy spans i then Bytes.byteAt? source i else Bytes.byteAt? old i

theorem fits_iff {offset size total : Nat} :
    fits offset size total = true ↔ offset + size ≤ total := by
  unfold fits
  rw [Bool.and_eq_true, decide_eq_true_iff, decide_eq_true_iff]
  omega

namespace DirtySpans

/-- The byte at an index counts as changed. -/
def Covers (d : DirtySpans) (i : Nat) : Prop := CoveredBy d.spans i

/-- No span leaves the buffer. -/
def Fits (d : DirtySpans) : Prop := ∀ r ∈ d.spans, r.stop ≤ d.size

/-! ## 1. Everything, and nothing -/

theorem covers_markAll {d : DirtySpans} {i : Nat} (h : i < d.size) : d.markAll.Covers i := by
  refine ⟨d.whole, List.mem_singleton_self _, Nat.zero_le _, ?_⟩
  show i < 0 + d.size
  omega

theorem Fits.markAll (d : DirtySpans) : d.markAll.Fits := by
  intro r hr
  rw [List.mem_singleton.mp hr]
  show 0 + d.size ≤ d.size
  omega

theorem Fits.clear (d : DirtySpans) : d.clear.Fits := by
  intro r hr
  cases hr

theorem isPending_eq_false {d : DirtySpans} : d.isPending = false ↔ d.spans = [] := by
  unfold isPending
  rw [Bool.not_eq_false', List.isEmpty_iff]

/-- A full set has the one span over everything. -/
theorem isFull_iff {d : DirtySpans} : d.isFull = true ↔ d.spans = [d.whole] := by
  unfold isFull
  rw [beq_iff_eq]

/-! ## 2. One report -/

/-- What was covered stays covered. -/
theorem Covers.mark {d : DirtySpans} {i : Nat} (h : d.Covers i) (hi : i < d.size)
    (offset size : Nat) : (d.mark offset size).Covers i := by
  unfold DirtySpans.mark
  split
  · exact covers_markAll hi
  · exact covers_markAll hi
  · exact covers_markAll hi
  · exact covers_markAll hi
  · exact h
  · obtain ⟨r, hr, hri⟩ := h
    exact ⟨r, List.mem_append_left _ hr, hri⟩

/-- **A reported span is covered**, whichever way the report is received. -/
theorem covers_mark {d : DirtySpans} {offset size i : Nat} (hi : i < d.size)
    (h : offset ≤ i ∧ i < offset + size) : (d.mark offset size).Covers i := by
  unfold DirtySpans.mark
  split
  · exact covers_markAll hi
  · exact covers_markAll hi
  · exact covers_markAll hi
  · exact covers_markAll hi
  · rename_i hc
    unfold receive at hc
    split at hc; · cases hc
    split at hc; · cases hc
    split at hc
    · rename_i hcov
      rcases (Bool.or_eq_true _ _).mp hcov with hfull | hany
      · refine ⟨d.whole, ?_, Nat.zero_le _, ?_⟩
        · rw [isFull_iff.mp hfull]
          exact List.mem_singleton_self _
        · show i < 0 + d.size
          omega
      · obtain ⟨r, hr, hcr⟩ := List.any_eq_true.mp hany
        unfold ByteRange.covers ByteRange.stop at hcr
        rw [Bool.and_eq_true, decide_eq_true_iff, decide_eq_true_iff] at hcr
        refine ⟨r, hr, ?_, ?_⟩
        · show r.offset ≤ i
          have := hcr.1
          dsimp only at this
          omega
        · show i < r.offset + r.size
          have := hcr.2
          dsimp only at this
          omega
    · split at hc
      · cases hc
      · split at hc <;> cases hc
  · exact ⟨⟨offset, size⟩, List.mem_append_right _ (List.mem_singleton_self _), h.1, h.2⟩

/-- A report keeps the spans inside the buffer. -/
theorem Fits.mark {d : DirtySpans} (h : d.Fits) (offset size : Nat) :
    (d.mark offset size).Fits := by
  unfold DirtySpans.mark
  split
  · exact .markAll d
  · exact .markAll d
  · exact .markAll d
  · exact .markAll d
  · exact h
  · rename_i hr
    unfold receive at hr
    split at hr; · cases hr
    split at hr
    · cases hr
    · rename_i hfit
      intro r hmem
      rcases List.mem_append.mp hmem with hold | hnew
      · exact h r hold
      · rw [List.mem_singleton.mp hnew]
        rw [Bool.not_eq_true, Bool.not_eq_false', fits_iff] at hfit
        exact hfit

end DirtySpans

end BufferCoherence
