import BufferCoherence.Proofs.Spans
import BufferCoherence.Vulkan.Device

/-!
# Packed ranges

What the ways to copy ranges leave in each byte. Copying from host to host, packing, unpacking and
the copies of a command buffer are all the same: regions moved from one run of bytes to another, one
after the other (`moved`).

* `moved_packed`: ranges that are packed into a staging buffer and taken out of it again end up as
  if they had been copied at once, also where they overlap;
* `byteAt?_copyRanges`: every byte in the union of the ranges is the one the source had, and every
  other byte stays.
-/

namespace BufferCoherence.VulkanDevice

open Vulkan (CopyRegion)

/-! ## 1. Regions -/

/-- Regions of one run of bytes written to another, one after the other. -/
def moved (source : ByteArray) (regions : List CopyRegion) (target : ByteArray) : ByteArray :=
  regions.foldl (fun target r => Bytes.splice target r.targetOffset
    (source.extract r.sourceOffset (r.sourceOffset + r.size))) target

/-- The regions of ranges that are copied from one base to another. -/
def regionsAcross (sourceBase targetBase : Nat) (ranges : List ByteRange) : List CopyRegion :=
  ranges.map fun r => ⟨sourceBase + r.offset, targetBase + r.offset, r.size⟩

variable {source target staging : ByteArray} {ranges : List ByteRange}
  {base sourceBase targetBase : Nat}

theorem copyRanges_cons (source : ByteArray) (sourceBase targetBase : Nat) (r : ByteRange)
    (rest : List ByteRange) (target : ByteArray) :
    copyRanges source sourceBase targetBase (r :: rest) target =
      copyRanges source sourceBase targetBase rest (Bytes.splice target (targetBase + r.offset)
        (source.extract (sourceBase + r.offset) (sourceBase + r.offset + r.size))) := by
  unfold copyRanges
  rw [List.foldl_cons]

theorem copyRanges_eq_moved (source : ByteArray) (sourceBase targetBase : Nat)
    (ranges : List ByteRange) (target : ByteArray) :
    copyRanges source sourceBase targetBase ranges target =
      moved source (regionsAcross sourceBase targetBase ranges) target := by
  unfold copyRanges moved regionsAcross
  rw [List.foldl_map]

theorem pack_eq_moved (data : ByteArray) (ranges : List ByteRange) (target : ByteArray) :
    pack data ranges target = moved data (regionsIn 0 ranges) target := by
  unfold pack moved regionsIn
  rw [List.foldl_map]
  simp only [Nat.zero_add, ByteRange.stop]

theorem unpack_eq_moved (bytes : ByteArray) (ranges : List ByteRange) (target : ByteArray) :
    unpack bytes ranges target = moved bytes (regionsOut 0 ranges) target := by
  unfold unpack moved regionsOut
  rw [List.foldl_map]
  simp only [Nat.zero_add]

@[simp] theorem size_moved (source : ByteArray) (regions : List CopyRegion) (target : ByteArray) :
    (moved source regions target).size = target.size := by
  unfold moved
  induction regions generalizing target with
  | nil => rfl
  | cons r rest ih =>
    rw [List.foldl_cons, ih, Bytes.size_splice]

@[simp] theorem size_copyRanges (source : ByteArray) (sourceBase targetBase : Nat)
    (ranges : List ByteRange) (target : ByteArray) :
    (copyRanges source sourceBase targetBase ranges target).size = target.size := by
  rw [copyRanges_eq_moved, size_moved]

@[simp] theorem size_pack (data : ByteArray) (ranges : List ByteRange) (target : ByteArray) :
    (pack data ranges target).size = target.size := by
  rw [pack_eq_moved, size_moved]

/-! ## 2. Places in a staging buffer -/

/-- The ranges from a source, written to their places from `start` on. -/
def placed (source : ByteArray) (base start : Nat) (ranges : List ByteRange)
    (staging : ByteArray) : ByteArray :=
  moved source ((packed start ranges).map fun (place, r) => ⟨base + r.offset, place, r.size⟩)
    staging

theorem placed_cons (source : ByteArray) (base start : Nat) (r : ByteRange)
    (rest : List ByteRange) (staging : ByteArray) :
    placed source base start (r :: rest) staging = placed source base (start + r.size) rest
      (Bytes.splice staging start
        (source.extract (base + r.offset) (base + r.offset + r.size))) := by
  unfold placed
  rw [packed, List.map_cons]
  unfold moved
  rw [List.foldl_cons]

/-- Every place is as long as its range, and the last one ends where all ranges do. -/
theorem packed_fits {start place : Nat} {r : ByteRange} (h : (place, r) ∈ packed start ranges) :
    place + r.size ≤ start + totalSize ranges := by
  induction ranges generalizing start with
  | nil => cases h
  | cons q rest ih =>
    have htotal : totalSize (q :: rest) = q.size + totalSize rest := rfl
    rcases List.mem_cons.mp h with he | hrest
    · cases he
      omega
    · have hplace := ih hrest
      omega

theorem map_packed (start : Nat) (ranges : List ByteRange) :
    (packed start ranges).map (·.2) = ranges := by
  induction ranges generalizing start with
  | nil => rfl
  | cons r rest ih =>
    unfold packed
    rw [List.map_cons, ih]

/-- The regions out of the places stay in front of the end of all ranges. -/
theorem regionsOut_fit {n : Nat} (hroom : totalSize ranges ≤ n) :
    ∀ r ∈ regionsOut base ranges, r.sourceOffset + r.size ≤ n := by
  intro r hr
  obtain ⟨p, hp, rfl⟩ := List.mem_map.mp hr
  have hplace := packed_fits hp
  show p.1 + p.2.size ≤ n
  omega

theorem regionsIn_fit {n : Nat} (hfit : ∀ r ∈ ranges, base + r.stop ≤ n) :
    ∀ r ∈ regionsIn base ranges, r.sourceOffset + r.size ≤ n := by
  intro r hr
  obtain ⟨p, hp, rfl⟩ := List.mem_map.mp hr
  have hmem : p.2 ∈ ranges := map_packed 0 ranges ▸ List.mem_map_of_mem hp
  have hstop := hfit p.2 hmem
  unfold ByteRange.stop at hstop
  show base + p.2.offset + p.2.size ≤ n
  omega

/-- What is in front of the places stays. -/
theorem byteAt?_placed {start i : Nat} (hsource : ∀ r ∈ ranges, base + r.stop ≤ source.size)
    (hroom : start + totalSize ranges ≤ staging.size) (hi : i < start) :
    Bytes.byteAt? (placed source base start ranges staging) i = Bytes.byteAt? staging i := by
  induction ranges generalizing start staging with
  | nil => rfl
  | cons r rest ih =>
    have hr := hsource r List.mem_cons_self
    have hroom' : start + (r.size + totalSize rest) ≤ staging.size := hroom
    have hstop : r.stop = r.offset + r.size := rfl
    have hrun : (source.extract (base + r.offset) (base + r.offset + r.size)).size = r.size := by
      rw [ByteArray.size_extract]
      omega
    rw [placed_cons, ih (fun q hq => hsource q (List.mem_cons_of_mem r hq))
      (by rw [Bytes.size_splice]; omega) (by omega), Bytes.byteAt?_splice (by omega),
      if_neg (by omega)]

/-- **Each range is in its place**: no place overlaps another one. -/
theorem extract_placed {start place : Nat} {r : ByteRange}
    (hsource : ∀ r ∈ ranges, base + r.stop ≤ source.size)
    (hroom : start + totalSize ranges ≤ staging.size)
    (hplace : (place, r) ∈ packed start ranges) :
    (placed source base start ranges staging).extract place (place + r.size) =
      source.extract (base + r.offset) (base + r.offset + r.size) := by
  induction ranges generalizing start staging with
  | nil => cases hplace
  | cons q rest ih =>
    have hq := hsource q List.mem_cons_self
    have hrest (p : ByteRange) (hp : p ∈ rest) := hsource p (List.mem_cons_of_mem q hp)
    have hroom' : start + (q.size + totalSize rest) ≤ staging.size := hroom
    have hroom'' : start + q.size + totalSize rest ≤ (Bytes.splice staging start
        (source.extract (base + q.offset) (base + q.offset + q.size))).size := by
      rw [Bytes.size_splice]
      omega
    rw [placed_cons]
    rcases List.mem_cons.mp hplace with he | hplace
    · cases he
      have hstop : r.stop = r.offset + r.size := rfl
      have hrun : (source.extract (base + r.offset) (base + r.offset + r.size)).size = r.size := by
        rw [ByteArray.size_extract]
        omega
      have hsize : (placed source base (place + r.size) rest (Bytes.splice staging place
          (source.extract (base + r.offset) (base + r.offset + r.size)))).size = staging.size := by
        unfold placed
        rw [size_moved, Bytes.size_splice]
      refine Bytes.ext_of_size (by rw [hrun, ByteArray.size_extract, hsize]; omega) fun i hi => ?_
      rw [ByteArray.size_extract, hsize] at hi
      rw [Bytes.byteAt?_extract, hsize, if_pos (by omega), byteAt?_placed hrest hroom'' (by omega),
        Bytes.byteAt?_splice (by omega), if_pos (by omega), Nat.add_sub_cancel_left]
    · exact ih hrest hroom'' hplace

/-- Copies that take the same runs do the same. -/
theorem moved_congr {source' : ByteArray} {α : Type} {l : List α} {f g : α → CopyRegion}
    (hplace : ∀ a ∈ l, (f a).targetOffset = (g a).targetOffset)
    (hrun : ∀ a ∈ l, source.extract (f a).sourceOffset ((f a).sourceOffset + (f a).size) =
      source'.extract (g a).sourceOffset ((g a).sourceOffset + (g a).size)) (target : ByteArray) :
    moved source (l.map f) target = moved source' (l.map g) target := by
  unfold moved
  induction l generalizing target with
  | nil => rw [List.map_nil, List.map_nil, List.foldl_nil, List.foldl_nil]
  | cons a rest ih =>
    rw [List.map_cons, List.map_cons, List.foldl_cons, List.foldl_cons,
      hplace a List.mem_cons_self, hrun a List.mem_cons_self]
    exact ih (fun b hb => hplace b (List.mem_cons_of_mem a hb))
      (fun b hb => hrun b (List.mem_cons_of_mem a hb)) _

/-- **Packed and taken out again is copied.** -/
theorem moved_packed (hsource : ∀ r ∈ ranges, sourceBase + r.stop ≤ source.size)
    (hroom : totalSize ranges ≤ staging.size) (targetBase : Nat) (target : ByteArray) :
    moved (moved source (regionsIn sourceBase ranges) staging) (regionsOut targetBase ranges)
      target = copyRanges source sourceBase targetBase ranges target := by
  have hranges : regionsAcross sourceBase targetBase ranges =
      (packed 0 ranges).map fun p =>
        ⟨sourceBase + p.2.offset, targetBase + p.2.offset, p.2.size⟩ := by
    calc regionsAcross sourceBase targetBase ranges
      _ = regionsAcross sourceBase targetBase ((packed 0 ranges).map (·.2)) := by rw [map_packed]
      _ = _ := List.map_map
  rw [copyRanges_eq_moved, hranges]
  refine moved_congr (l := packed 0 ranges)
    (f := fun p => ⟨p.1, targetBase + p.2.offset, p.2.size⟩) ?_ (fun p hp => ?_) target
  · exact fun _ _ => rfl
  · exact extract_placed hsource (by rw [Nat.zero_add]; exact hroom) hp

/-! ## 3. Byte by byte -/

/-- **What copying ranges leaves in each byte**: in the union of the ranges what the source held,
    and elsewhere what was there. -/
theorem byteAt?_copyRanges (hsource : ∀ r ∈ ranges, sourceBase + r.stop ≤ source.size)
    (htarget : ∀ r ∈ ranges, targetBase + r.stop ≤ target.size) (i : Nat) :
    Bytes.byteAt? (copyRanges source sourceBase targetBase ranges target) i =
      if targetBase ≤ i ∧ CoveredBy ranges (i - targetBase) then
        Bytes.byteAt? source (sourceBase + (i - targetBase))
      else Bytes.byteAt? target i := by
  induction ranges generalizing target with
  | nil => exact (if_neg fun h => not_coveredBy_nil _ h.2).symm
  | cons r rest ih =>
    have hr := hsource r List.mem_cons_self
    have hr' := htarget r List.mem_cons_self
    have hstop : r.stop = r.offset + r.size := rfl
    have hrun : (source.extract (sourceBase + r.offset) (sourceBase + r.offset + r.size)).size =
        r.size := by
      rw [ByteArray.size_extract]
      omega
    rw [copyRanges_cons, ih (fun q hq => hsource q (List.mem_cons_of_mem r hq)) (fun q hq => by
      rw [Bytes.size_splice]
      exact htarget q (List.mem_cons_of_mem r hq))]
    by_cases hrest : targetBase ≤ i ∧ CoveredBy rest (i - targetBase)
    · rw [if_pos hrest, if_pos ⟨hrest.1, coveredBy_cons.mpr (.inr hrest.2)⟩]
    · rw [if_neg hrest, Bytes.byteAt?_splice (by omega), hrun]
      by_cases hi : targetBase ≤ i ∧ r.Holds (i - targetBase)
      · have hin : r.offset ≤ i - targetBase ∧ i - targetBase < r.stop := hi.2
        rw [if_pos (by omega), if_pos ⟨hi.1, coveredBy_cons.mpr (.inl hi.2)⟩,
          Bytes.byteAt?_extract, if_pos (by omega)]
        have hplace : sourceBase + r.offset + (i - (targetBase + r.offset)) =
            sourceBase + (i - targetBase) := by omega
        rw [hplace]
      · have hout : ¬ (targetBase + r.offset ≤ i ∧ i < targetBase + r.offset + r.size) := by
          rintro ⟨hlow, hhigh⟩
          refine hi ⟨by omega, ?_⟩
          show r.offset ≤ i - targetBase ∧ i - targetBase < r.stop
          omega
        rw [if_neg hout, if_neg]
        rintro ⟨hlow, hcov⟩
        exact (coveredBy_cons.mp hcov).elim (fun h => hi ⟨hlow, h⟩) fun h => hrest ⟨hlow, h⟩

/-- The one range that is everything. -/
theorem copyRanges_all {size : Nat} (hfit : base + size ≤ source.size) (hsize : target.size = size) :
    copyRanges source base 0 [⟨0, size⟩] target = source.extract base (base + size) := by
  have hrun : (source.extract base (base + size)).size = target.size := by
    rw [ByteArray.size_extract]
    omega
  rw [copyRanges_cons, Nat.zero_add, Nat.add_zero, Bytes.splice_all hrun]
  unfold copyRanges
  rw [List.foldl_nil]

end BufferCoherence.VulkanDevice
