import BufferCoherence.Vertex.ConversionMap
import BufferCoherence.Proofs.Bytes
import Mathlib

/-!
# What the fixups make of a group

A color is exchanged byte by byte and a position is calculated lane by lane, so that each fixup has
a law of its own.

* **`byteAt?_swapRedBlue`**: red and blue change places, and the other two bytes stay.
* **`dehomogenized_dehomogenize`**: where `w` is neither one nor zero, it becomes its reciprocal
  and the other lanes are multiplied by that; else all four stay, bit by bit (`Dehomogenized`).

The law of a position is one about numbers, and the fixup is one about patterns: it says which
pattern a result has that is not a number. `ofBits_product` and `ofBits_reciprocal` lead from one to
the other. What they rest on is that all such patterns stand for the same (`ofBits_of_isNaN`), and
that any other number is read back from its pattern.
-/

namespace BufferCoherence

/-! ## 1. Words and their bytes -/

namespace Bytes

/-- One byte of a word. -/
def lane (w : UInt32) (k : Nat) : UInt8 := ⟨w.toBitVec.extractLsb' (8 * k) 8⟩

theorem byteAt?_ofWord32 (w : UInt32) {k : Nat} (hk : k < 4) :
    byteAt? (ofWord32 w) k = some (lane w k) := by
  interval_cases k <;> rfl

theorem lane_word32 (b : ByteArray) (i : Nat) {k : Nat} (hk : k < 4) :
    lane (word32 b i) k = (byteAt? b (i + k)).getD 0 := by
  refine UInt8.toBitVec_inj.mp (BitVec.eq_of_getLsbD_eq fun i hi => ?_)
  unfold lane word32
  simp only [BitVec.getLsbD_extractLsb']
  -- bit by bit: of the four bytes that the word is put together from, one is there
  interval_cases k <;> interval_cases i <;> simp [BitVec.getLsbD_of_ge]

/-- Words with the same bytes are the same word. -/
theorem lane_ext {v w : UInt32} (h : ∀ k < 4, lane v k = lane w k) : v = w := by
  refine UInt32.toBitVec_inj.mp (BitVec.eq_of_getLsbD_eq fun i hi => ?_)
  have hbit := congrArg (·.toBitVec.getLsbD (i % 8)) (h (i / 8) (by omega))
  have hlt : i % 8 < 8 := Nat.mod_lt _ (by decide)
  simpa [lane, hlt, Nat.div_add_mod] using hbit

@[simp] theorem size_ofWord32 (w : UInt32) : (ofWord32 w).size = 4 := rfl

theorem word32_ofWord32 (w : UInt32) : word32 (ofWord32 w) 0 = w :=
  lane_ext fun k hk => by
    rw [lane_word32 _ _ hk, Nat.zero_add, byteAt?_ofWord32 w hk, Option.getD_some]

/-- A word depends on its bytes only. -/
theorem word32_congr {a b : ByteArray} {i j : Nat}
    (h : ∀ k < 4, byteAt? a (i + k) = byteAt? b (j + k)) : word32 a i = word32 b j :=
  lane_ext fun k hk => by rw [lane_word32 _ _ hk, lane_word32 _ _ hk, h k hk]

theorem word32_append_left {a b : ByteArray} {i : Nat} (h : i + 4 ≤ a.size) :
    word32 (a ++ b) i = word32 a i :=
  word32_congr fun k hk => by
    unfold byteAt?
    rw [ByteArray.data_append]
    exact Array.getElem?_append_left (Nat.lt_of_lt_of_le (Nat.add_lt_add_left hk i) h)

theorem word32_append_right (a b : ByteArray) : word32 (a ++ b) a.size = word32 b 0 :=
  word32_congr fun k hk => by
    unfold byteAt?
    rw [ByteArray.data_append, Nat.zero_add]
    exact (Array.getElem?_append_right (Nat.le_add_right ..)).trans
      (congrArg (b.data[·]?) (Nat.add_sub_cancel_left ..))

/-- Four words in a row. -/
theorem word32_row (p : Nat → UInt32) {k : Nat} (hk : k < 4) :
    word32 (ofWord32 (p 0) ++ ofWord32 (p 1) ++ ofWord32 (p 2) ++ ofWord32 (p 3)) (4 * k) =
      p k := by
  have hright (row : ByteArray) (w : UInt32) : word32 (row ++ ofWord32 w) row.size = w :=
    (word32_append_right row _).trans (word32_ofWord32 w)
  interval_cases k
  · rw [word32_append_left (by simp), word32_append_left (by simp), word32_append_left (by simp)]
    exact word32_ofWord32 _
  · rw [word32_append_left (by simp), word32_append_left (by simp)]
    exact hright (ofWord32 (p 0)) _
  · rw [word32_append_left (by simp)]
    exact hright (ofWord32 (p 0) ++ ofWord32 (p 1)) _
  · exact hright (ofWord32 (p 0) ++ ofWord32 (p 1) ++ ofWord32 (p 2)) _

theorem byteAt?_extract_of_fits {b : ByteArray} {start n k : Nat} (h : start + n ≤ b.size)
    (hk : k < n) : byteAt? (b.extract start (start + n)) k = byteAt? b (start + k) := by
  rw [byteAt?_extract, if_pos (by omega)]

end Bytes

/-! ## 2. Colors -/

/-- Where the bytes of a packed color come from: red and blue change places. -/
def swappedChannel (k : Nat) : Nat := if k = 0 then 2 else if k = 2 then 0 else k

theorem swappedChannel_lt {k : Nat} (hk : k < 4) : swappedChannel k < 4 := by
  unfold swappedChannel
  split
  · decide
  · split
    · decide
    · exact hk

theorem lane_swapped (w : UInt32) {k : Nat} (hk : k < 4) :
    Bytes.lane ((w &&& (0xff00ff00 : UInt32)) ||| ((w &&& (0x00ff0000 : UInt32)) >>> 16) |||
      ((w &&& (0x000000ff : UInt32)) <<< 16)) k = Bytes.lane w (swappedChannel k) := by
  refine UInt8.toBitVec_inj.mp (BitVec.eq_of_getLsbD_eq fun i hi => ?_)
  unfold Bytes.lane
  simp only [BitVec.getLsbD_extractLsb']
  interval_cases k <;> interval_cases i <;> simp [swappedChannel]

/-- **The fixup of a color exchanges red and blue.** -/
theorem byteAt?_swapRedBlue {group : ByteArray} (hsize : group.size = 4) {k : Nat} (hk : k < 4) :
    Bytes.byteAt? (swapRedBlue group) k = Bytes.byteAt? group (swappedChannel k) := by
  have hk' := swappedChannel_lt hk
  unfold swapRedBlue
  dsimp only
  rw [Bytes.byteAt?_ofWord32 _ hk, lane_swapped _ hk, Bytes.lane_word32 _ _ hk', Nat.zero_add,
    Bytes.byteAt?_eq_some (by omega), Option.getD_some]

/-- The same in content that holds the color at some place. -/
theorem byteAt?_of_extract_swapRedBlue {out data : ByteArray} {start : Nat}
    (hout : out.extract start (start + 4) = swapRedBlue (data.extract start (start + 4)))
    (hsize : out.size = data.size) (hfit : start + 4 ≤ data.size) {k : Nat} (hk : k < 4) :
    Bytes.byteAt? out (start + k) = Bytes.byteAt? data (start + swappedChannel k) := by
  have hrun {b : ByteArray} (hb : start + 4 ≤ b.size) {k : Nat} (hk : k < 4) :=
    Bytes.byteAt?_extract_of_fits (b := b) hb hk
  have hgroup : (data.extract start (start + 4)).size = 4 := by
    rw [ByteArray.size_extract]
    omega
  rw [← hrun (hsize.symm ▸ hfit) hk, hout, byteAt?_swapRedBlue hgroup hk,
    hrun hfit (swappedChannel_lt hk)]

/-! ## 3. Numbers and their patterns -/

section Patterns

open Float.Model (Format)
open Float.Model.UnpackedFloat

theorem isNaN_eq_isNaNBits (w : UInt32) : isNaN w = @isNaNBits Format.binary32 w.toBitVec := by
  have hlt : w.toNat < 2 ^ 32 := w.toNat_lt
  have hexp : (@unpackExponent Format.binary32 w.toBitVec).toNat = w.toNat / 2 ^ 23 % 2 ^ 8 := by
    rw [unpackExponent_def, BitVec.extractLsb'_toNat, Nat.shiftRight_eq_div_pow]
    rfl
  have hman : (@unpackMantissa Format.binary32 w.toBitVec).toNat = w.toNat % 2 ^ 23 := by
    rw [unpackMantissa_def, BitVec.extractLsb'_toNat, Nat.shiftRight_zero]
    rfl
  have hbits : (w &&& 0x7fffffff).toNat = w.toNat % 2 ^ 31 := by
    rw [UInt32.toNat_and]
    exact Nat.and_two_pow_sub_one_eq_mod w.toNat 31
  rw [isNaN, isNaNBits, decide_eq_decide, UInt32.lt_iff_toNat_lt, hbits, ← BitVec.toNat_inj, hexp,
    ne_eq, ← BitVec.toNat_inj, hman]
  change 255 * 2 ^ 23 < w.toNat % 2 ^ 31 ↔
    w.toNat / 2 ^ 23 % 2 ^ 8 = 255 ∧ ¬ w.toNat % 2 ^ 23 = 0
  omega

theorem toBits_nan : Float32.nan.toBits.toBitVec = packedNaN Format.binary32 := by decide +kernel

/-- All the patterns that are no numbers stand for the same. -/
theorem ofBits_of_isNaN {w : UInt32} (h : isNaN w = true) : Float32.ofBits w = Float32.nan := by
  have hpack : pack Format.binary32 (unpack Format.binary32 w.toBitVec) = packedNaN _ := by
    rw [pack_unpack, if_pos (isNaN_eq_isNaNBits w ▸ h)]
  exact Float32.toBits_inj.mp (UInt32.toBitVec_inj.mp (hpack.trans toBits_nan.symm))

theorem unpack_nan : Float32.nan.toModel.unpack = .notANumber :=
  isNaN_iff.mp (Float32.isNaN_eq_decide_eq_nan.trans (decide_eq_true rfl))

theorem ofModel_pack_notANumber : Float32.ofModel (.pack .notANumber) = Float32.nan :=
  Float32.toBits_inj.mp (UInt32.toBitVec_inj.mp toBits_nan.symm)

theorem nan_mul (x : Float32) : Float32.nan * x = Float32.nan := by
  change Float32.ofModel (.pack (mul _ Float32.nan.toModel.unpack x.toModel.unpack)) = _
  rw [unpack_nan]
  exact ofModel_pack_notANumber

theorem mul_nan (x : Float32) : x * Float32.nan = Float32.nan := by
  change Float32.ofModel (.pack (mul _ x.toModel.unpack Float32.nan.toModel.unpack)) = _
  rw [unpack_nan]
  cases x.toModel.unpack <;> exact ofModel_pack_notANumber

theorem div_nan (x : Float32) : x / Float32.nan = Float32.nan := by
  change Float32.ofModel (.pack (div _ x.toModel.unpack Float32.nan.toModel.unpack)) = _
  rw [unpack_nan]
  cases x.toModel.unpack <;> exact ofModel_pack_notANumber

/-- The mark makes no number of a pattern that is none. -/
theorem isNaN_quiet {w : UInt32} (h : isNaN w = true) : isNaN (quiet w) = true := by
  have hbits : quiet w &&& 0x7fffffff = (w &&& 0x7fffffff) ||| 0x00400000 :=
    UInt32.toBitVec_inj.mp (BitVec.and_or_distrib_right)
  rw [isNaN, decide_eq_true_iff] at h ⊢
  refine UInt32.lt_of_lt_of_le h (UInt32.le_iff_toNat_le.mpr ?_)
  rw [hbits, UInt32.toNat_or]
  exact Nat.left_le_or

/-- **The reciprocal of a pattern is that of its number.** -/
theorem ofBits_reciprocal (w : UInt32) :
    Float32.ofBits (reciprocal w) = 1 / Float32.ofBits w := by
  unfold reciprocal
  split
  · next h => rw [ofBits_of_isNaN (isNaN_quiet h), ofBits_of_isNaN h, div_nan]
  · exact Float32.ofBits_toBits _

/-- **The product of two patterns is that of their numbers.** -/
theorem ofBits_product (x w : UInt32) :
    Float32.ofBits (product x w) = Float32.ofBits x * Float32.ofBits w := by
  unfold product
  dsimp only
  split
  · next hx => rw [ofBits_of_isNaN (isNaN_quiet hx), ofBits_of_isNaN hx, nan_mul]
  split
  · next hw => rw [ofBits_of_isNaN (isNaN_quiet hw), ofBits_of_isNaN hw, mul_nan]
  split
  · next hp => rw [ofBits_of_isNaN (by decide), ← ofBits_of_isNaN hp, Float32.ofBits_toBits]
  · exact Float32.ofBits_toBits _

end Patterns

/-! ## 4. Positions -/

/-- The pattern of a lane of a position. -/
def coordinate (b : ByteArray) (start k : Nat) : UInt32 := Bytes.word32 b (start + 4 * k)

/-- The position is in homogeneous coordinates already: its `w` is one, or there is none to divide
    by. -/
def Homogeneous (lanes : Nat → UInt32) : Prop :=
  Float32.ofBits (lanes 3) == 1 ∨ Float32.ofBits (lanes 3) == 0

instance (lanes : Nat → UInt32) : Decidable (Homogeneous lanes) :=
  inferInstanceAs (Decidable (_ ∨ _))

/-- What it is to bring a position of four lanes `x, y, z, w` back to homogeneous coordinates. -/
structure Dehomogenized (before after : Nat → UInt32) : Prop where
  /-- A position that is in them already stays, bit by bit. -/
  kept : Homogeneous before → ∀ k < 4, after k = before k
  /-- Else `w` becomes `1 / w`. -/
  inverted : ¬ Homogeneous before →
    Float32.ofBits (after 3) = 1 / Float32.ofBits (before 3)
  /-- The other lanes are multiplied by that. -/
  scaled : ¬ Homogeneous before → ∀ k < 3,
    Float32.ofBits (after k) = Float32.ofBits (before k) * (1 / Float32.ofBits (before 3))

section Positions

/-- Only the four lanes count. -/
theorem Dehomogenized.congr {before before' after after' : Nat → UInt32}
    (h : Dehomogenized before after) (hbefore : ∀ k < 4, before k = before' k)
    (hafter : ∀ k < 4, after k = after' k) : Dehomogenized before' after' where
  kept hw k hk := by
    rw [Homogeneous, ← hbefore 3 (by decide)] at hw
    rw [← hafter k hk, ← hbefore k hk, h.kept hw k hk]
  inverted hw := by
    rw [Homogeneous, ← hbefore 3 (by decide)] at hw
    rw [← hafter 3 (by decide), ← hbefore 3 (by decide), h.inverted hw]
  scaled hw k hk := by
    rw [Homogeneous, ← hbefore 3 (by decide)] at hw
    rw [← hafter k (by omega), ← hbefore k (by omega), ← hbefore 3 (by decide), h.scaled hw k hk]

variable {group : ByteArray}

theorem dehomogenize_of_homogeneous (h : Homogeneous (coordinate group 0)) :
    dehomogenize group = group := by
  rw [Homogeneous, coordinate, Nat.zero_add] at h
  unfold dehomogenize
  dsimp only
  refine if_neg ?_
  rcases h with h | h <;> simp [bne, h]

/-- The lanes of a position that has to be divided. -/
theorem coordinate_dehomogenize (h : ¬ Homogeneous (coordinate group 0)) {k : Nat} (hk : k < 4) :
    coordinate (dehomogenize group) 0 k =
      if k < 3 then product (coordinate group 0 k) (reciprocal (coordinate group 0 3))
      else reciprocal (coordinate group 0 3) := by
  rw [Homogeneous] at h
  unfold coordinate at h ⊢
  simp only [Nat.zero_add] at h ⊢
  unfold dehomogenize
  dsimp only
  rw [if_pos (by simpa [bne] using h)]
  exact Bytes.word32_row (fun k => if k < 3 then product (Bytes.word32 group (4 * k))
    (reciprocal (Bytes.word32 group (4 * 3))) else reciprocal (Bytes.word32 group (4 * 3))) hk

/-- **The fixup of a position brings it back to homogeneous coordinates.** -/
theorem dehomogenized_dehomogenize (group : ByteArray) :
    Dehomogenized (coordinate group 0) (coordinate (dehomogenize group) 0) where
  kept h k _ := by rw [dehomogenize_of_homogeneous h]
  inverted h := by
    rw [coordinate_dehomogenize h (by decide), if_neg (by decide), ofBits_reciprocal]
  scaled h k hk := by
    rw [coordinate_dehomogenize h (by omega), if_pos hk, ofBits_product, ofBits_reciprocal]

/-- The same in content that holds the position at some place. -/
theorem dehomogenized_of_extract {out data : ByteArray} {start : Nat}
    (hout : out.extract start (start + 16) = dehomogenize (data.extract start (start + 16)))
    (hsize : out.size = data.size) (hfit : start + 16 ≤ data.size) :
    Dehomogenized (coordinate data start) (coordinate out start) := by
  have hlanes {b : ByteArray} (hb : start + 16 ≤ b.size) {k : Nat} (hk : k < 4) :
      coordinate (b.extract start (start + 16)) 0 k = coordinate b start k :=
    Bytes.word32_congr fun i hi => by
      rw [Nat.zero_add, Bytes.byteAt?_extract_of_fits hb (by omega), Nat.add_assoc]
  have hmade := dehomogenized_dehomogenize (data.extract start (start + 16))
  rw [← hout] at hmade
  exact hmade.congr (fun k hk => hlanes hfit hk) fun k hk => hlanes (hsize.symm ▸ hfit) hk

end Positions

end BufferCoherence
