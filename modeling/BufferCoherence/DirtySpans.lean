/-!
# Dirty spans

The spans of a buffer that changed since its device object was last brought up to date. The set
is conservative: it says that AT LEAST these bytes changed. `DirtySpans.receive` sorts a new span
into one of six cases; in four of them the set collapses to one span over the whole buffer.

A span of size zero at offset zero stands for the whole buffer; a span of size zero anywhere else
is recorded as it is.
-/

namespace BufferCoherence

/-! ## 1. Spans -/

/-- A span of bytes. -/
structure ByteRange where
  offset : Nat
  size : Nat
deriving DecidableEq

namespace ByteRange

/-- One past the last byte. -/
def stop (r : ByteRange) : Nat := r.offset + r.size

/-- All of `s` lies in the span. -/
def covers (r s : ByteRange) : Bool := r.offset ≤ s.offset && s.stop ≤ r.stop

/-- The byte at an index lies in the span. -/
def Holds (r : ByteRange) (i : Nat) : Prop := r.offset ≤ i ∧ i < r.stop

instance (r : ByteRange) (i : Nat) : Decidable (r.Holds i) := inferInstanceAs (Decidable (_ ∧ _))

end ByteRange

/-- A run of `size` bytes from `offset` on lies within `total` bytes. -/
def fits (offset size total : Nat) : Bool := offset ≤ total && size ≤ total - offset

/-! ## 2. The set -/

/-- The spans recorded so far, oldest first, for a buffer of `size` bytes. -/
structure DirtySpans where
  spans : List ByteRange
  size : Nat
  limit : Nat
  /-- Host memory for one more span is to be had. -/
  growable : Bool
deriving DecidableEq

/-- What becomes of a span that is reported as changed. -/
inductive Reception where
  /-- It stands for the whole buffer. -/
  | whole
  /-- It leaves the buffer, so that the whole buffer counts as changed. -/
  | outside
  /-- It is covered already. -/
  | covered
  /-- There is no room for it, so that the whole buffer counts as changed. -/
  | overflow
  /-- There is no memory for it, so that the whole buffer counts as changed. -/
  | starved
  /-- It is recorded. -/
  | recorded
deriving DecidableEq

namespace DirtySpans

/-- Nothing changed; at most `limit` spans will be recorded, and at least one. -/
def clean (size limit : Nat) : DirtySpans := ⟨[], size, max limit 1, true⟩

/-- The span over the whole buffer. -/
def whole (d : DirtySpans) : ByteRange := ⟨0, d.size⟩

/-- Some span is recorded. -/
def isPending (d : DirtySpans) : Bool := !d.spans.isEmpty

/-- The only span recorded is the whole buffer. -/
def isFull (d : DirtySpans) : Bool := d.spans == [d.whole]

/-- Everything changed. -/
def markAll (d : DirtySpans) : DirtySpans := { d with spans := [d.whole] }

/-- Nothing is left to bring up to date. -/
def clear (d : DirtySpans) : DirtySpans := { d with spans := [] }

/-- How a changed span is received. -/
def receive (d : DirtySpans) (offset size : Nat) : Reception :=
  if offset == 0 && (size == 0 || size == d.size) then .whole
  else if !fits offset size d.size then .outside
  else if d.isFull || d.spans.any (·.covers ⟨offset, size⟩) then .covered
  else if d.limit ≤ d.spans.length then .overflow
  else if !d.growable then .starved
  else .recorded

/-- The set after a span was reported as changed. -/
def mark (d : DirtySpans) (offset size : Nat) : DirtySpans :=
  match d.receive offset size with
  | .whole | .outside | .overflow | .starved => d.markAll
  | .covered => d
  | .recorded => { d with spans := d.spans ++ [⟨offset, size⟩] }

/-! ## 3. First laws -/

@[simp] theorem size_mark (d : DirtySpans) (o s : Nat) : (d.mark o s).size = d.size := by
  unfold mark; split <;> rfl

@[simp] theorem limit_mark (d : DirtySpans) (o s : Nat) : (d.mark o s).limit = d.limit := by
  unfold mark; split <;> rfl

@[simp] theorem growable_mark (d : DirtySpans) (o s : Nat) :
    (d.mark o s).growable = d.growable := by
  unfold mark; split <;> rfl

@[simp] theorem size_markAll (d : DirtySpans) : d.markAll.size = d.size := rfl
@[simp] theorem size_clear (d : DirtySpans) : d.clear.size = d.size := rfl
@[simp] theorem isPending_clear (d : DirtySpans) : d.clear.isPending = false := rfl
@[simp] theorem isPending_markAll (d : DirtySpans) : d.markAll.isPending = true := rfl
@[simp] theorem isFull_markAll (d : DirtySpans) : d.markAll.isFull = true := by
  simp [isFull, markAll, whole]

/-- A reported span is never forgotten: the set is dirty afterwards. -/
theorem isPending_mark (d : DirtySpans) (o s : Nat) : (d.mark o s).isPending = true := by
  unfold mark
  split
  · rfl
  · rfl
  · rfl
  · rfl
  · rename_i h
    unfold receive at h
    split at h; · cases h
    split at h; · cases h
    split at h
    · rename_i hc
      rw [Bool.or_eq_true] at hc
      rcases hc with hc | hc
      · simp [isFull] at hc; simp [isPending, hc]
      · simp at hc; obtain ⟨r, hr, _⟩ := hc
        simp [isPending, List.ne_nil_of_mem hr]
    · split at h
      · cases h
      · split at h <;> cases h
  · simp [isPending]

end DirtySpans

end BufferCoherence
