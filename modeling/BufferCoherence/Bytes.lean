/-!
# Runs of bytes

The content of host copies, objects and host slices is a `ByteArray`. This file holds the few
operations the library needs on it, all total:

* `slice?` reads a run and `splice?` writes one; both answer `none` when the run does not fit;
* `byteAt?` is the view every law is stated through: the byte at an index, if there is one;
* `word32` and `ofWord32` read and write four bytes, lowest first.

Main facts: `byteAt?_slice?` and `byteAt?_splice?` say which byte comes from where.
-/

namespace BufferCoherence.Bytes

/-! ## 1. Reading and writing runs -/

/-- The byte at an index. -/
def byteAt? (b : ByteArray) (i : Nat) : Option UInt8 := b.data[i]?

/-- The most bytes that a run in host memory may hold: what the addresses of a process can tell
    apart. -/
def largestRun : Nat := 1 <<< 47

/-- A run of `n` zero bytes. -/
def zeros (n : Nat) : ByteArray := ⟨Array.replicate n 0⟩

/-- A run of `n` copies of one byte. -/
def fill (n : Nat) (v : UInt8) : ByteArray := ⟨Array.replicate n v⟩

/-- The `len` bytes from `start` on, if they are all there. -/
def slice? (b : ByteArray) (start len : Nat) : Option ByteArray :=
  if start + len ≤ b.size then some (b.extract start (start + len)) else none

/-- The content with `data` written at `start`, if it fits. -/
def splice? (b : ByteArray) (start : Nat) (data : ByteArray) : Option ByteArray :=
  if start + data.size ≤ b.size then some (data.copySlice 0 b start data.size) else none

/-- The content with `data` written at `start`, unchanged where `data` does not fit. -/
def splice (b : ByteArray) (start : Nat) (data : ByteArray) : ByteArray :=
  (splice? b start data).getD b

/-- The first bytes of a run, at most `n` of them. -/
def take (b : ByteArray) (n : Nat) : ByteArray := b.extract 0 n

/-! ## 2. Words of four bytes -/

/-- The four bytes from `i` on as a number, lowest byte first; a missing byte counts as zero. -/
def word32 (b : ByteArray) (i : Nat) : UInt32 :=
  let lane (j : Nat) : UInt32 := ((byteAt? b (i + j)).getD 0).toUInt32
  lane 0 ||| (lane 1 <<< 8) ||| (lane 2 <<< 16) ||| (lane 3 <<< 24)

/-- The four bytes of a number, lowest first. -/
def ofWord32 (w : UInt32) : ByteArray :=
  ⟨#[w.toUInt8, (w >>> 8).toUInt8, (w >>> 16).toUInt8, (w >>> 24).toUInt8]⟩

/-! ## 3. Laws -/

theorem byteAt?_eq_some {b : ByteArray} {i : Nat} (h : i < b.size) :
    byteAt? b i = some b[i] :=
  Array.getElem?_eq_getElem h

theorem byteAt?_eq_none_iff {b : ByteArray} {i : Nat} : byteAt? b i = none ↔ b.size ≤ i :=
  Array.getElem?_eq_none_iff

/-- Two runs with the same bytes are the same run. -/
theorem ext {a b : ByteArray} (h : ∀ i, byteAt? a i = byteAt? b i) : a = b :=
  ByteArray.ext (Array.ext_getElem? h)

@[simp] theorem size_zeros (n : Nat) : (zeros n).size = n := by simp [zeros, ByteArray.size]

theorem byteAt?_zeros (n i : Nat) : byteAt? (zeros n) i = if i < n then some 0 else none := by
  simp [byteAt?, zeros, Array.getElem?_replicate]

theorem size_slice? {b c : ByteArray} {start len : Nat} (h : slice? b start len = some c) :
    c.size = len := by
  unfold slice? at h
  split at h
  · cases h; simp; omega
  · cases h

/-- **A slice holds the bytes of its run**, moved to the front. -/
theorem byteAt?_slice? {b c : ByteArray} {start len : Nat} (h : slice? b start len = some c)
    (i : Nat) : byteAt? c i = if i < len then byteAt? b (start + i) else none := by
  unfold slice? at h
  split at h
  · rename_i hle
    cases h
    simp only [byteAt?, ByteArray.data_extract, Array.getElem?_extract]
    have : b.data.size = b.size := rfl
    by_cases hi : i < len <;> simp [hi] <;> omega
  · cases h

theorem slice?_eq_none_iff {b : ByteArray} {start len : Nat} :
    slice? b start len = none ↔ b.size < start + len := by
  unfold slice?; split <;> simp <;> omega

theorem splice?_eq_none_iff {b d : ByteArray} {start : Nat} :
    splice? b start d = none ↔ b.size < start + d.size := by
  unfold splice?; split <;> simp <;> omega

theorem size_splice? {b c d : ByteArray} {start : Nat} (h : splice? b start d = some c) :
    c.size = b.size := by
  unfold splice? at h
  split at h
  · cases h
    simp [ByteArray.copySlice_eq_append]
    omega
  · cases h

/-- **A splice changes the bytes of its run and no others.** -/
theorem byteAt?_splice? {b c d : ByteArray} {start : Nat} (h : splice? b start d = some c)
    (i : Nat) : byteAt? c i =
      if start ≤ i ∧ i < start + d.size then byteAt? d (i - start) else byteAt? b i := by
  unfold splice? at h
  split at h
  · rename_i hle
    cases h
    have hb : b.data.size = b.size := rfl
    have hd : d.data.size = d.size := rfl
    simp only [byteAt?, ByteArray.copySlice]
    rw [Array.getElem?_append, Array.getElem?_append]
    simp only [Array.size_append, Array.size_extract, Array.getElem?_extract]
    split <;> split <;> (try split) <;> (try split) <;> grind
  · cases h

theorem size_splice (b d : ByteArray) (start : Nat) : (splice b start d).size = b.size := by
  unfold splice
  cases h : splice? b start d with
  | none => rfl
  | some c => exact size_splice? h

end BufferCoherence.Bytes
