import BufferCoherence.Bytes

/-!
# Runs of bytes, byte by byte

What the operations on runs do to each byte. Two runs are shown to be the same by comparing
`byteAt?` everywhere (`ext`), or in front of their common size (`ext_of_size`):

* `byteAt?_extract`, `byteAt?_take` and `byteAt?_splice` say where a byte comes from;
* a splice that fits commutes with `take` (`take_splice`), one over everything leaves nothing of
  the old content (`splice_all`), and writing what is there already changes nothing
  (`splice_extract`);
* what was written is read back (`extract_splice`), and what is beside it stays
  (`extract_splice_apart`).
-/

namespace BufferCoherence.Bytes

/-! ## 1. Where a byte comes from -/

theorem byteAt?_extract (b : ByteArray) (start stop i : Nat) :
    byteAt? (b.extract start stop) i =
      if i < min stop b.size - start then byteAt? b (start + i) else none := by
  simp only [byteAt?, ByteArray.data_extract, Array.getElem?_extract]
  rfl

theorem byteAt?_take (b : ByteArray) (n i : Nat) :
    byteAt? (take b n) i = if i < n then byteAt? b i else none := by
  unfold take
  rw [byteAt?_extract, Nat.zero_add]
  split
  · rw [if_pos (by omega)]
  · split
    · exact (byteAt?_eq_none_iff.mpr (by omega)).symm
    · rfl

theorem byteAt?_splice {b d : ByteArray} {start : Nat} (h : start + d.size ≤ b.size) (i : Nat) :
    byteAt? (splice b start d) i =
      if start ≤ i ∧ i < start + d.size then byteAt? d (i - start) else byteAt? b i := by
  unfold splice
  cases e : splice? b start d with
  | none => rw [splice?_eq_none_iff] at e; omega
  | some c => exact byteAt?_splice? e i

@[simp] theorem size_take (b : ByteArray) (n : Nat) : (take b n).size = min n b.size := by
  unfold take
  rw [ByteArray.size_extract, Nat.sub_zero]

/-! ## 2. Equal runs -/

/-- Runs of one size are the same when their bytes are. -/
theorem ext_of_size {a b : ByteArray} (hs : a.size = b.size)
    (h : ∀ i < a.size, byteAt? a i = byteAt? b i) : a = b := by
  refine ext fun i => ?_
  by_cases hi : i < a.size
  · exact h i hi
  · rw [byteAt?_eq_none_iff.mpr (by omega), byteAt?_eq_none_iff.mpr (by omega)]

/-- Runs that agree from one place to another have the same bytes there. -/
theorem extract_congr {a b : ByteArray} {low high : Nat} (hsize : a.size = b.size)
    (h : ∀ i, low ≤ i → i < high → byteAt? a i = byteAt? b i) :
    a.extract low high = b.extract low high := by
  refine ext fun i => ?_
  rw [byteAt?_extract, byteAt?_extract, hsize]
  split
  · exact h _ (by omega) (by omega)
  · rfl

theorem extract_all {b : ByteArray} {n : Nat} (h : b.size ≤ n) : b.extract 0 n = b := by
  refine ext fun i => ?_
  rw [byteAt?_extract, Nat.zero_add]
  split
  · rfl
  · exact (byteAt?_eq_none_iff.mpr (by omega)).symm

/-- A splice over everything leaves nothing of the old content. -/
theorem splice_all {b d : ByteArray} (h : d.size = b.size) : splice b 0 d = d := by
  refine ext_of_size (by rw [size_splice, h]) fun i hi => ?_
  rw [size_splice] at hi
  rw [byteAt?_splice (by omega), if_pos (by omega), Nat.sub_zero]

/-- A splice of nothing changes nothing. -/
theorem splice_empty (b : ByteArray) {d : ByteArray} (start : Nat) (h : d.size = 0) :
    splice b start d = b := by
  by_cases hs : start ≤ b.size
  · refine ext fun i => ?_
    rw [byteAt?_splice (by omega), if_neg (by omega)]
  · unfold splice
    rw [splice?_eq_none_iff.mpr (by omega), Option.getD_none]

/-- Any byte can be changed. -/
theorem exists_splice_ne {b : ByteArray} {i : Nat} (h : i < b.size) :
    ∃ d : ByteArray, d.size = 1 ∧ splice b i d ≠ b := by
  obtain ⟨x, hx⟩ := Option.ne_none_iff_exists'.mp fun hnone =>
    Nat.not_le_of_lt h (byteAt?_eq_none_iff.mp hnone)
  refine ⟨⟨#[x + 1]⟩, rfl, fun he => ?_⟩
  have hbyte : byteAt? (splice b i ⟨#[x + 1]⟩) i = _ := byteAt?_splice h i
  rw [he, if_pos ⟨Nat.le_refl _, Nat.lt_succ_self _⟩, Nat.sub_self, hx] at hbyte
  have hsame : x = x + 1 := Option.some.inj hbyte
  simp at hsame

/-- To write what is there already changes nothing. -/
theorem splice_extract (b : ByteArray) {start n : Nat} (h : start + n ≤ b.size) :
    splice b start (b.extract start (start + n)) = b := by
  have hs : (b.extract start (start + n)).size = n := by
    rw [ByteArray.size_extract]
    omega
  refine ext fun i => ?_
  rw [byteAt?_splice (by omega), byteAt?_extract]
  by_cases hi : start ≤ i ∧ i < start + n
  · rw [if_pos (by omega), if_pos (by omega), Nat.add_sub_cancel' hi.1]
  · rw [if_neg (by omega)]

/-- What is written in front of `n` is written to the first `n` bytes. -/
theorem take_splice {b d : ByteArray} {start n : Nat} (hd : start + d.size ≤ n)
    (hn : n ≤ b.size) : take (splice b start d) n = splice (take b n) start d := by
  have hs : start + d.size ≤ (take b n).size := by rw [size_take]; omega
  refine ext fun i => ?_
  rw [byteAt?_take, byteAt?_splice (by omega), byteAt?_splice hs, byteAt?_take]
  by_cases hi : start ≤ i ∧ i < start + d.size
  · rw [if_pos hi, if_pos hi, if_pos (by omega)]
  · rw [if_neg hi, if_neg hi]

theorem extract_take {b : ByteArray} {start stop n : Nat} (h : stop ≤ n) :
    (take b n).extract start stop = b.extract start stop := by
  refine ext fun i => ?_
  rw [byteAt?_extract, byteAt?_extract, byteAt?_take, size_take]
  by_cases hi : i < min stop b.size - start
  · rw [if_pos (by omega), if_pos hi, if_pos (by omega)]
  · rw [if_neg (by omega), if_neg hi]

/-- What was written is read back. -/
theorem extract_splice {b d : ByteArray} {start : Nat} (h : start + d.size ≤ b.size) :
    (splice b start d).extract start (start + d.size) = d := by
  refine ext fun i => ?_
  rw [byteAt?_extract, size_splice, byteAt?_splice h]
  by_cases hi : i < d.size
  · rw [if_pos (by omega), if_pos (by omega), Nat.add_sub_cancel_left]
  · rw [if_neg (by omega), byteAt?_eq_none_iff.mpr (by omega)]

/-- What is written beside a run leaves the run. -/
theorem extract_splice_apart {b d : ByteArray} {start low high : Nat}
    (h : start + d.size ≤ b.size) (hapart : start + d.size ≤ low ∨ high ≤ start) :
    (splice b start d).extract low high = b.extract low high := by
  refine ext fun i => ?_
  rw [byteAt?_extract, byteAt?_extract, size_splice, byteAt?_splice h]
  by_cases hi : i < min high b.size - low
  · rw [if_pos hi, if_pos hi, if_neg (by omega)]
  · rw [if_neg hi, if_neg hi]

theorem slice?_eq_some {b : ByteArray} {start len : Nat} (h : start + len ≤ b.size) :
    slice? b start len = some (b.extract start (start + len)) := by
  unfold slice?
  rw [if_pos h]

end BufferCoherence.Bytes
