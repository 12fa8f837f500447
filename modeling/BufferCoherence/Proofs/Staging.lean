import BufferCoherence.Proofs.Packing
import BufferCoherence.Proofs.Queue

/-!
# Transfers of the Vulkan device

What a transfer of ranges leaves on the driver, whichever way the bytes take, while any call may
fail. `Copied` says that the ranges were copied, or that nothing happened and the transfer failed,
and `Grants` when it does not fail.

* memory that the host reaches is written and read where it lies;
* else the ranges are packed in a staging buffer, on the way in (`storeStaged_ends`), on the way out
  (`fetchStaged_ends`), or both, within one object (`copyInside_ends`); what was packed and is taken
  out again ends up as if it had been copied at once (`moved_packed`);
* the staging buffer is released on every way out (`withStaging_ends`).
-/

namespace BufferCoherence

open Vulkan (Driver MemoryLocation MemoryRecord CopyRegion CopyCommand)

/-! ## 1. Copies between two buffers -/

namespace Table

variable {α : Type} {t : Table α} {k : Nat} {a b : α}

/-- To put a value where it is changes nothing. -/
theorem insert_self (h : t.get? k = some a) : t.insert k a = t := by
  suffices ∀ rows : List (Nat × α), find k rows = some a → put k a rows = rows from
    congrArg Table.mk (this t.rows h)
  intro rows hrows
  induction rows with
  | nil => cases hrows
  | cons row rest ih =>
    simp only [find] at hrows
    simp only [put]
    split at hrows
    · rename_i hk
      cases hrows
      rw [if_pos hk, ← hk]
    · rename_i hk
      rw [if_neg hk, ih hrows]

/-- Only the last value stays. -/
theorem insert_insert (t : Table α) (k : Nat) (a b : α) :
    (t.insert k a).insert k b = t.insert k b := by
  suffices ∀ rows : List (Nat × α), put k b (put k a rows) = put k b rows from
    congrArg Table.mk (this t.rows)
  intro rows
  induction rows with
  | nil => simp only [put, if_pos]
  | cons row rest ih =>
    simp only [put]
    by_cases hk : row.1 = k
    · rw [if_pos hk, if_pos hk]
      simp only [put, if_pos]
    · rw [if_neg hk, if_neg hk]
      simp only [put]
      rw [if_neg hk, ih]

end Table

namespace Vulkan.Driver

variable {d e : Driver} {b i source target memory : Nat} {m t : MemoryRecord}
  {regions : List CopyRegion}

/-- A buffer of the driver and its memory, both numbered before. -/
structure Holds (d : Driver) (b memory : Nat) (m : MemoryRecord) : Prop where
  bufferKnown : b < d.nextBuffer
  memoryKnown : memory < d.nextMemory
  bound : d.memoryOf? b = some (memory, m)

theorem Holds.kept (h : d.Holds b memory m) (hk : d.Keeps e) : e.Holds b memory m :=
  ⟨Nat.lt_of_lt_of_le h.bufferKnown hk.nextBuffer, Nat.lt_of_lt_of_le h.memoryKnown hk.nextMemory,
    hk.memoryOf? h.bound h.bufferKnown h.memoryKnown⟩

@[simp] theorem nextBuffer_setBytes (d : Driver) (b : Nat) (bytes : ByteArray) :
    (d.setBytes b bytes).nextBuffer = d.nextBuffer := by
  unfold Driver.setBytes
  split
  · rfl
  · rfl

@[simp] theorem nextMemory_setBytes (d : Driver) (b : Nat) (bytes : ByteArray) :
    (d.setBytes b bytes).nextMemory = d.nextMemory := by
  unfold Driver.setBytes
  split
  · rfl
  · rfl

/-- Bytes written to memory of another number. -/
theorem memoryOf?_setBytes_ne (h : d.memoryOf? b = some (memory, m))
    (ht : d.memoryOf? target = some (i, t)) (hne : memory ≠ i) (bytes : ByteArray) :
    (d.setBytes target bytes).memoryOf? b = some (memory, m) := by
  obtain ⟨r, hr, hrm, hget⟩ := memoryOf?_eq_some.mp h
  unfold Driver.setBytes
  simp only [ht]
  refine memoryOf?_eq_some.mpr ⟨r, hr, hrm, ?_⟩
  show (d.memories.insert i _).get? memory = _
  rw [Table.get?_insert, if_neg hne]
  exact hget

/-- To write what is there changes nothing. -/
theorem setBytes_self (h : d.memoryOf? b = some (memory, m)) : d.setBytes b m.bytes = d := by
  obtain ⟨r, -, -, hget⟩ := memoryOf?_eq_some.mp h
  unfold Driver.setBytes
  simp only [h]
  rw [Table.insert_self hget]

/-- Only the bytes written last stay. -/
theorem setBytes_setBytes (h : d.memoryOf? b = some (memory, m)) (x y : ByteArray) :
    (d.setBytes b x).setBytes b y = d.setBytes b y := by
  have hset := memoryOf?_setBytes h x
  unfold Driver.setBytes at hset ⊢
  simp only [h] at hset ⊢
  simp only [hset, Table.insert_insert]

/-- The same bytes written to what is kept. -/
theorem Keeps.setBytesBoth (h : d.Keeps e) (ho : d.Holds b memory m) (bytes : ByteArray) :
    (d.setBytes b bytes).Keeps (e.setBytes b bytes) := by
  unfold Driver.setBytes
  simp only [ho.bound, (ho.kept h).bound]
  refine { h with memories := fun j hj => ?_ }
  rw [Table.get?_insert, Table.get?_insert, h.memories j hj]

/-- **A copy between two buffers writes the regions of the one to the other.** -/
theorem runCopy_eq (hs : d.memoryOf? source = some (i, m))
    (ht : d.memoryOf? target = some (memory, t)) (hne : i ≠ memory)
    (hfit : ∀ r ∈ regions, r.sourceOffset + r.size ≤ m.bytes.size) :
    d.runCopy ⟨source, target, regions⟩ =
      d.setBytes target (VulkanDevice.moved m.bytes regions t.bytes) := by
  show regions.foldl (copyRegion source target) d = _
  induction regions generalizing d t with
  | nil => exact (setBytes_self ht).symm
  | cons r rest ih =>
    have hnext := memoryOf?_setBytes ht (Bytes.splice t.bytes r.targetOffset
      (m.bytes.extract r.sourceOffset (r.sourceOffset + r.size)))
    rw [List.foldl_cons, copyRegion_eq hs ht (hfit r List.mem_cons_self),
      ih (memoryOf?_setBytes_ne hs ht hne _) hnext fun q hq => hfit q (List.mem_cons_of_mem r hq),
      setBytes_setBytes ht]
    rfl

end Vulkan.Driver

namespace VulkanDevice

variable {c : VulkanQueue} {o p : BoundBuffer} {m t : MemoryRecord} {memory i : Nat}
  {base sourceBase targetBase : Nat} {data : ByteArray} {ranges : List ByteRange}

/-! ## 2. Submitted copies and staging buffers -/

/-- No call is refused, and memory for a staging buffer is lent. -/
def Grants (d : Driver) (size : Nat) : Prop :=
  d.Willing ∧ d.lends (max size 1) = true

/-- What a transfer to a buffer comes to: its bytes are replaced, or it fails and they are not. It
    does not fail under `ok`. -/
def Copied (d : Driver) (b : Nat) (bytes : ByteArray) (ok : Prop) (r : Except Failure Unit)
    (e : Driver) : Prop :=
  (e = d ∧ r ≠ .ok () ∨ e = d.setBytes b bytes) ∧ (ok → r = .ok ())

theorem submitCopy_ends (source target : Nat) (regions : List CopyRegion) :
    (submitCopy source target regions).Ends c fun r e =>
      VulkanQueue.Submitted [⟨source, target, regions⟩] c.driver r e.driver := by
  intro j
  unfold submitCopy
  cases regions with
  | nil => exact ⟨.inr ⟨rfl, rfl, rfl, rfl, rfl⟩, fun _ => rfl⟩
  | cons r rest =>
    rw [if_neg (by simp)]
    exact VulkanQueue.submitOnce_ends (fun _ _ h => Driver.recordCopy_cases _ h) j

/-- **A staging buffer is released on every way out**, and leaves what was there as the use of it
    did. -/
theorem withStaging_ends {α : Type} {size : Nat} {location : MemoryLocation}
    {use : BoundBuffer → Attempt VulkanQueue α} {R : Except Failure α → Driver → Prop}
    (hnumbers : ∀ r d, R r d →
      d.nextBuffer = c.driver.nextBuffer ∧ d.nextMemory = c.driver.nextMemory)
    (hrefused : ∀ f, ¬ Grants c.driver size → R (.error f) c.driver)
    (huse : ∀ staging c₁, c.driver.Keeps c₁.driver →
      VulkanQueue.Stages c.driver c₁.driver staging
        ⟨Bytes.zeros (max size 1), location.hostVisible⟩ →
      (use staging).Ends c₁ fun r e => ∃ d, R r d ∧ d.Keeps e.driver) :
    (withStaging size location use).Ends c fun r e => ∃ d, R r d ∧ d.Keeps e.driver := by
  intro j
  unfold withStaging stagingBuffer
  rw [Attempt.wp_bind]
  refine (VulkanQueue.makeBuffer_ends (.refl c.driver) _ _ _).wp
    fun r c₁ k hpost => ?_
  obtain ⟨hkeeps, hstages, hmade⟩ := hpost
  cases r with
  | error f =>
    refine ⟨c.driver, hrefused f fun hgrants => ?_, hkeeps⟩
    obtain ⟨hwilling, hroom⟩ := hgrants
    obtain ⟨staging, hstaging⟩ := hmade hwilling (hwilling.allocationFault? (by omega) hroom)
    cases hstaging
  | ok staging =>
    obtain ⟨-, hs⟩ := hstages staging rfl
    simp only [Attempt.wp_bind, Attempt.wp_always, Attempt.wp_outcome, Attempt.wp_answer]
    refine (huse staging c₁ hkeeps hs).wp fun r c₂ k₂ hpost => ?_
    obtain ⟨d, hR, hd⟩ := hpost
    obtain ⟨hb, hm⟩ := hnumbers r d hR
    exact (VulkanQueue.releaseBuffer_ends hd (hb ▸ hs.buffer) (hm ▸ hs.memory)).wp
      fun _ _ _ hreleased => ⟨d, hR, hreleased⟩

theorem Copied.numbers {d e : Driver} {b : Nat} {bytes : ByteArray} {ok : Prop}
    {r : Except Failure Unit} (h : Copied d b bytes ok r e) :
    e.nextBuffer = d.nextBuffer ∧ e.nextMemory = d.nextMemory := by
  rcases h.1 with ⟨rfl, -⟩ | rfl
  · exact ⟨rfl, rfl⟩
  · exact ⟨Driver.nextBuffer_setBytes _ _ _, Driver.nextMemory_setBytes _ _ _⟩

/-- The staging buffer has memory of its own. -/
theorem ne_staging {d e : Driver} {b : Nat} {staging : BoundBuffer}
    (h : d.Holds b memory m) (hs : VulkanQueue.Stages d e staging t) : memory ≠ staging.memory :=
  fun he => absurd h.memoryKnown (Nat.not_lt.mpr (he ▸ hs.memory))

/-- Submitted copies that come to bytes written to a buffer leave what the buffers were before as
    such a transfer does. -/
theorem copied_of_submitted {base d d' e : Driver} {b : Nat} {bytes : ByteArray} {ok : Prop}
    {cs : List CopyCommand} {r : Except Failure Unit}
    (hsub : VulkanQueue.Submitted cs d r e) (ho : base.Holds b memory m) (hd : base.Keeps d)
    (hd' : base.Keeps d') (hcopy : cs.foldl Driver.runCopy d = d'.setBytes b bytes)
    (hok : ok → base.Willing) : ∃ x, Copied base b bytes ok r x ∧ x.Keeps e := by
  have hr (h : ok) : r = .ok () := hsub.2 ((hok h).of_manner hd.manner)
  rcases hsub.1 with ⟨hsame, hno⟩ | hsame
  · exact ⟨base, ⟨.inl ⟨rfl, hno⟩, hr⟩, hd.same hsame⟩
  · rw [hcopy] at hsame
    exact ⟨base.setBytes b bytes, ⟨.inr rfl, hr⟩, (hd'.setBytesBoth ho bytes).same hsame⟩

/-! ## 3. From the host -/

/-- **Ranges of the host that are stored by way of a staging buffer are copied, or nothing
    happens.** -/
theorem storeStaged_ends (ho : c.driver.Holds o.buffer memory m)
    (hdata : ∀ r ∈ ranges, r.stop ≤ data.size) :
    (storeStaged o base data ranges).Ends c fun r e => ∃ d,
      Copied c.driver o.buffer (copyRanges data 0 base ranges m.bytes)
        (Grants c.driver (totalSize ranges)) r d ∧ d.Keeps e.driver := by
  unfold storeStaged
  refine withStaging_ends (fun _ _ h => h.numbers)
    (fun f hno => ⟨.inl ⟨rfl, nofun⟩, fun h => absurd h hno⟩) fun staging c₁ hkeeps hs j => ?_
  have hmapped := (Driver.mapped?_of_memoryOf? hs.bound).trans (if_pos rfl)
  unfold stagingBytes
  simp only [Attempt.wp_bind, Attempt.wp_get, hmapped, Attempt.wp_pure, Attempt.wp_always,
    VulkanQueue.wp_run]
  -- the ranges are packed in the staging buffer, which is then copied
  have hroom : totalSize ranges ≤ (Bytes.zeros (max (totalSize ranges) 1)).size := by
    rw [Bytes.size_zeros]
    omega
  generalize Bytes.zeros (max (totalSize ranges) 1) = zeros at hs hmapped hroom ⊢
  generalize hd : c₁.driver.setBytes staging.buffer (pack data ranges zeros) = d
  have hpacked : c.driver.Keeps d := hd ▸ hkeeps.setBytes hs.bound hs.memory _
  have hbytes := Driver.memoryOf?_setBytes hs.bound (pack data ranges zeros)
  rw [hd] at hbytes
  refine (submitCopy_ends (c := { c₁ with driver := d }) _ _ _).wp fun r e k hsub => ?_
  refine copied_of_submitted hsub ho hpacked hpacked ?_ fun h => h.1
  show d.runCopy _ = _
  rw [Driver.runCopy_eq hbytes (ho.kept hpacked).bound (ne_staging ho hs).symm
    (regionsOut_fit (by rw [size_pack]; exact hroom)), pack_eq_moved,
    moved_packed (by simpa using hdata) hroom]

/-- No range leaves the source or the target. -/
theorem outside?_eq_none_iff {sourceSize targetSize : Nat} :
    outside? sourceBase sourceSize targetBase targetSize ranges = none ↔
      (∀ r ∈ ranges, sourceBase + r.stop ≤ sourceSize) ∧
        ∀ r ∈ ranges, targetBase + r.stop ≤ targetSize := by
  unfold outside?
  rw [List.find?_eq_none]
  simp only [decide_eq_true_eq, not_or, Nat.not_lt]
  exact ⟨fun h => ⟨fun r hr => (h r hr).1, fun r hr => (h r hr).2⟩,
    fun h r hr => ⟨h.1 r hr, h.2 r hr⟩⟩

/-- **Ranges of the host that are stored are copied, or nothing happens**, and they are stored where
    they fit and no call is refused. -/
theorem store_ends (ho : c.driver.Holds o.buffer memory m) :
    (store o base data ranges).Ends c fun r e => ∃ d,
      Copied c.driver o.buffer (copyRanges data 0 base ranges m.bytes)
        (outside? 0 data.size base o.size ranges = none ∧
          (m.hostVisible = false → Grants c.driver (totalSize ranges))) r d ∧
      (r = .ok () → outside? 0 data.size base o.size ranges = none) ∧ d.Keeps e.driver := by
  intro j
  unfold store requireRanges
  rw [Attempt.wp_bind]
  cases hout : outside? 0 data.size base o.size ranges with
  | some r =>
    exact ⟨c.driver, ⟨.inl ⟨rfl, Failure.ne_ok _ _⟩, fun h => absurd h.1 (Option.some_ne_none _)⟩,
      fun h => absurd h (Failure.ne_ok _ _), .refl _⟩
  | none =>
    simp only [Attempt.wp_pure, Attempt.wp_bind, Attempt.wp_get,
      Driver.mapped?_of_memoryOf? ho.bound]
    cases hv : m.hostVisible with
    | true =>
      simp only [if_true, Attempt.wp_always, VulkanQueue.wp_run]
      exact ⟨_, ⟨.inr rfl, fun _ => rfl⟩, fun _ => trivial, .refl _⟩
    | false =>
      simp only [Bool.false_eq_true, if_false]
      refine (storeStaged_ends ho (by simpa using (outside?_eq_none_iff.mp hout).1)).wp
        fun r e k hpost => ?_
      obtain ⟨d, hcopied, hd⟩ := hpost
      exact ⟨d, ⟨hcopied.1, fun h => hcopied.2 (h.2 trivial)⟩, fun _ => trivial, hd⟩

/-! ## 4. To the host -/

/-- **Ranges that are fetched by way of a staging buffer are the ranges of the object**, and the
    driver keeps what it had. -/
theorem fetchStaged_ends (ho : c.driver.Holds o.buffer memory m)
    (hfit : ∀ r ∈ ranges, base + r.stop ≤ m.bytes.size) :
    (fetchStaged o base data ranges).Ends c fun r e => ∃ d,
      (d = c.driver ∧ (∀ read, r = .ok read → read = copyRanges m.bytes base 0 ranges data) ∧
        (Grants c.driver (totalSize ranges) → ∃ read, r = .ok read)) ∧ d.Keeps e.driver := by
  unfold fetchStaged
  refine withStaging_ends (fun _ _ h => by rw [h.1]; exact ⟨rfl, rfl⟩)
    (fun f hno => ⟨rfl, nofun, fun h => absurd h hno⟩) fun staging c₁ hkeeps hs j => ?_
  have hroom : totalSize ranges ≤ (Bytes.zeros (max (totalSize ranges) 1)).size := by
    rw [Bytes.size_zeros]
    omega
  generalize Bytes.zeros (max (totalSize ranges) 1) = zeros at hs hroom
  -- the ranges are packed by the copy, and taken out by the host
  have hcopy : [⟨o.buffer, staging.buffer, regionsIn base ranges⟩].foldl Driver.runCopy c₁.driver =
      c₁.driver.setBytes staging.buffer (moved m.bytes (regionsIn base ranges) zeros) :=
    Driver.runCopy_eq (ho.kept hkeeps).bound hs.bound (ne_staging ho hs) (regionsIn_fit hfit)
  have hcopied := hkeeps.setBytes hs.bound hs.memory (moved m.bytes (regionsIn base ranges) zeros)
  rw [Attempt.wp_bind]
  refine (submitCopy_ends _ _ _).wp fun reply c₂ k₂ hsub => ?_
  cases reply with
  | error f =>
    refine ⟨c.driver, ⟨rfl, nofun, fun h => ?_⟩, ?_⟩
    · cases hsub.2 (h.1.of_manner hkeeps.manner)
    · rcases hsub.1 with ⟨hsame, -⟩ | hsame
      · exact hkeeps.same hsame
      · rw [hcopy] at hsame
        exact hcopied.same hsame
  | ok _ =>
    rcases hsub.1 with ⟨-, hno⟩ | hsame
    · exact absurd rfl hno
    rw [hcopy] at hsame
    have hbytes := hsame.memoryOf? staging.buffer
    rw [Driver.memoryOf?_setBytes hs.bound] at hbytes
    have hmapped := (Driver.mapped?_of_memoryOf? hbytes).trans (if_pos rfl)
    unfold stagingBytes
    simp only [Attempt.wp_bind, Attempt.wp_get, hmapped, Attempt.wp_pure]
    refine ⟨c.driver, ⟨rfl, fun read hread => ?_, fun _ => ⟨_, rfl⟩⟩,
      hcopied.same hsame⟩
    cases hread
    have hpacked := moved_packed hfit hroom 0 data
    simpa [unpack_eq_moved] using hpacked

/-- **Ranges that are fetched are the ranges of the object**, and the driver keeps what it had. -/
theorem fetch_ends (ho : c.driver.Holds o.buffer memory m)
    (hfit : outside? base o.size 0 data.size ranges = none →
      ∀ r ∈ ranges, base + r.stop ≤ m.bytes.size) :
    (fetch o base data ranges).Ends c fun r e => c.driver.Keeps e.driver ∧
      (∀ read, r = .ok read → outside? base o.size 0 data.size ranges = none ∧
        read = copyRanges m.bytes base 0 ranges data) ∧
      (outside? base o.size 0 data.size ranges = none →
        (m.hostVisible = false → Grants c.driver (totalSize ranges)) → ∃ read, r = .ok read) := by
  intro j
  unfold fetch requireRanges
  rw [Attempt.wp_bind]
  cases hout : outside? base o.size 0 data.size ranges with
  | some r =>
    exact ⟨.refl _, fun _ h => absurd h (Failure.ne_ok _ _),
      fun h => absurd h (Option.some_ne_none _)⟩
  | none =>
    simp only [Attempt.wp_pure, Attempt.wp_bind, Attempt.wp_get,
      Driver.mapped?_of_memoryOf? ho.bound]
    cases hv : m.hostVisible with
    | true =>
      simp only [if_true, Attempt.wp_pure]
      refine ⟨.refl _, fun read hread => ?_, fun _ _ => ⟨_, rfl⟩⟩
      cases hread
      exact ⟨trivial, rfl⟩
    | false =>
      simp only [Bool.false_eq_true, if_false]
      refine (fetchStaged_ends ho (hfit hout)).wp fun r e k hpost => ?_
      obtain ⟨d, ⟨hd, hread, hok⟩, hkeeps⟩ := hpost
      rw [hd] at hkeeps
      exact ⟨hkeeps, fun read h => ⟨trivial, hread read h⟩, fun _ h => hok (h trivial)⟩

/-! ## 5. Between objects -/

/-- Two copies with a barrier between them are recorded one behind the other. -/
theorem records_inside (first second : CopyCommand) :
    Driver.Records (fun id d => (stagingBarrier (d.recordCopy id first)).recordCopy id second)
      [first, second] := by
  intro id d hempty
  obtain ⟨hsame, hget⟩ := Driver.recordCopy_cases first hempty
  have hbarrier : (d.recordCopy id first).Idles (stagingBarrier (d.recordCopy id first)) :=
    Driver.idles_recordBarrier _ _ _ _ _
  obtain ⟨hsame', hget'⟩ := Driver.recordCopy_cases second
    ((congrArg (Table.get? · id) hbarrier.commandBuffers).trans hget)
  exact ⟨(hsame.trans hbarrier.toSameStorage).trans hsame', hget'⟩

/-- **Ranges within one object are copied as they were before, however they overlap**, or nothing
    happens. -/
theorem copyInside_ends (ho : c.driver.Holds o.buffer memory m)
    (hfit : ∀ r ∈ ranges, sourceBase + r.stop ≤ m.bytes.size) :
    (copyInside o targetBase sourceBase ranges).Ends c fun r e => ∃ d,
      Copied c.driver o.buffer (copyRanges m.bytes sourceBase targetBase ranges m.bytes)
        (Grants c.driver (totalSize ranges)) r d ∧ d.Keeps e.driver := by
  unfold copyInside
  refine withStaging_ends (fun _ _ h => h.numbers)
    (fun f hno => ⟨.inl ⟨rfl, nofun⟩, fun h => absurd h hno⟩) fun staging c₁ hkeeps hs j => ?_
  have hroom : totalSize ranges ≤ (Bytes.zeros (max (totalSize ranges) 1)).size := by
    rw [Bytes.size_zeros]
    omega
  generalize Bytes.zeros (max (totalSize ranges) 1) = zeros at hs hroom
  refine (VulkanQueue.submitOnce_ends (records_inside _ _)).wp fun r e k hsub => ?_
  have hbound := (ho.kept hkeeps).bound
  -- the first copy fills the staging buffer, and the second one empties it
  have hin : c₁.driver.runCopy ⟨o.buffer, staging.buffer, regionsIn sourceBase ranges⟩ =
      c₁.driver.setBytes staging.buffer (moved m.bytes (regionsIn sourceBase ranges) zeros) :=
    Driver.runCopy_eq hbound hs.bound (ne_staging ho hs) (regionsIn_fit hfit)
  have hbytes := Driver.memoryOf?_setBytes hs.bound
    (moved m.bytes (regionsIn sourceBase ranges) zeros)
  have hpacked := hkeeps.setBytes hs.bound hs.memory
    (moved m.bytes (regionsIn sourceBase ranges) zeros)
  have hplaces : ∀ r ∈ regionsOut targetBase ranges, r.sourceOffset + r.size ≤
      (moved m.bytes (regionsIn sourceBase ranges) zeros).size :=
    regionsOut_fit (by rw [size_moved]; exact hroom)
  have hout := Driver.runCopy_eq hbytes
    (Driver.memoryOf?_setBytes_ne hbound hs.bound (ne_staging ho hs) _) (ne_staging ho hs).symm
    hplaces
  refine copied_of_submitted hsub ho hkeeps hpacked ?_ fun h => h.1
  show (c₁.driver.runCopy _).runCopy _ = _
  rw [hin, hout, moved_packed hfit hroom]

/-- **Ranges between two objects are copied**, or nothing happens. -/
theorem copyAcross_ends (hp : c.driver.Holds p.buffer i t) (ho : c.driver.Holds o.buffer memory m)
    (hne : memory ≠ i) (hfit : ∀ r ∈ ranges, sourceBase + r.stop ≤ m.bytes.size) :
    (copyAcross p o targetBase sourceBase ranges).Ends c fun r e => ∃ d,
      Copied c.driver p.buffer (copyRanges m.bytes sourceBase targetBase ranges t.bytes)
        c.driver.Willing r d ∧ d.Keeps e.driver := by
  intro j
  unfold copyAcross
  refine (submitCopy_ends _ _ _).wp fun r e k hsub => ?_
  refine copied_of_submitted hsub hp (.refl _) (.refl _) ?_ id
  show c.driver.runCopy _ = _
  rw [copyRanges_eq_moved]
  refine Driver.runCopy_eq ho.bound hp.bound hne fun r hr => ?_
  obtain ⟨q, hq, rfl⟩ := List.mem_map.mp hr
  have hstop := hfit q hq
  unfold ByteRange.stop at hstop
  show sourceBase + q.offset + q.size ≤ _
  omega

/-- **Ranges between objects are copied, or nothing happens**, and they are copied where they fit and
    no call is refused. Only a copy within one object needs a staging buffer. -/
theorem transferBetween_ends {d : VulkanDevice} {target source : ObjectHandle}
    (hp : d.object? target = some p) (ho : d.object? source = some o)
    (hinto : c.driver.Holds p.buffer i t) (hfrom : c.driver.Holds o.buffer memory m)
    (hsize : m.bytes.size = o.size) (hne : target ≠ source → memory ≠ i) :
    (d.transferBetween target targetBase source sourceBase ranges).Ends c fun r e => ∃ x,
      Copied c.driver p.buffer (copyRanges m.bytes sourceBase targetBase ranges t.bytes)
        (outside? sourceBase o.size targetBase p.size ranges = none ∧ c.driver.Willing ∧
          (target = source → Grants c.driver (totalSize ranges))) r x ∧
      (r = .ok () → outside? sourceBase o.size targetBase p.size ranges = none) ∧
      x.Keeps e.driver := by
  intro j
  unfold transferBetween known requireRanges
  simp only [hp, ho, Attempt.wp_bind, Attempt.wp_pure]
  cases hout : outside? sourceBase o.size targetBase p.size ranges with
  | some r =>
    exact ⟨c.driver, ⟨.inl ⟨rfl, Failure.ne_ok _ _⟩, fun h => absurd h.1 (Option.some_ne_none _)⟩,
      fun h => absurd h (Failure.ne_ok _ _), .refl _⟩
  | none =>
    have hfit : ∀ r ∈ ranges, sourceBase + r.stop ≤ m.bytes.size := hsize ▸ (outside?_eq_none_iff.mp hout).1
    simp only [Attempt.wp_pure, Attempt.wp_ite]
    split
    · rename_i he
      subst he
      cases hp.symm.trans ho
      cases hinto.bound.symm.trans hfrom.bound
      refine (copyInside_ends hfrom hfit).wp fun r e k hpost => ?_
      obtain ⟨x, hcopied, hkeeps⟩ := hpost
      exact ⟨x, ⟨hcopied.1, fun h => hcopied.2 (h.2.2 rfl)⟩, fun _ => trivial, hkeeps⟩
    · rename_i he
      refine (copyAcross_ends hinto hfrom (hne he) hfit).wp fun r e k hpost => ?_
      obtain ⟨x, hcopied, hkeeps⟩ := hpost
      exact ⟨x, ⟨hcopied.1, fun h => hcopied.2 h.2.1⟩, fun _ => trivial, hkeeps⟩

end VulkanDevice

end BufferCoherence
