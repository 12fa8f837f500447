import BufferCoherence.Proofs.Ledger
import Mathlib.Data.List.Nodup

/-!
# The balance of the Vulkan device

The books of the driver against the objects of the device. `VulkanDevice.Balanced` says that the
buffers and the memory of the driver are those of the objects, one each, that every object is bound
to its memory, and that no command buffer is in use.

* `Service` is what a device is asked for, and `serve` has it done while the driver refuses what it
  likes. Every service keeps the balance (`Service.perform_balanced`), and so does every sequence of
  services (`serveAll_balanced`);
* a new object is one more in the books and an object given up is one less; a failure, wherever it
  comes, changes nothing;
* `leaks_nothing`: in the end, nothing is left.
-/

namespace BufferCoherence

open Vulkan (Driver MemoryLocation MemoryRecord)

/-! ## 1. Bindings -/

namespace Vulkan.Driver

variable {d e f : Driver} {b i : Nat} {m : MemoryRecord}

/-- Every buffer numbered before is bound to the memory it had, which has the size it had. -/
structure Binds (d e : Driver) : Prop where
  manner : e.manner = d.manner
  nextBuffer : d.nextBuffer ≤ e.nextBuffer
  nextMemory : d.nextMemory ≤ e.nextMemory
  bound : ∀ b i m, d.Holds b i m → ∃ bytes,
    e.memoryOf? b = some (i, ⟨bytes, m.hostVisible⟩) ∧ bytes.size = m.bytes.size

theorem Keeps.binds (h : d.Keeps e) : d.Binds e :=
  ⟨h.manner, h.nextBuffer, h.nextMemory, fun _ _ m ho => ⟨m.bytes, (ho.kept h).bound, rfl⟩⟩

theorem Binds.trans (h : d.Binds e) (h' : e.Binds f) : d.Binds f := by
  refine ⟨h'.manner.trans h.manner, Nat.le_trans h.nextBuffer h'.nextBuffer,
    Nat.le_trans h.nextMemory h'.nextMemory, fun b i m ho => ?_⟩
  obtain ⟨bytes, hbytes, hsize⟩ := h.bound b i m ho
  obtain ⟨bytes', hbytes', hsize'⟩ := h'.bound b i _
    ⟨Nat.lt_of_lt_of_le ho.bufferKnown h.nextBuffer,
      Nat.lt_of_lt_of_le ho.memoryKnown h.nextMemory, hbytes⟩
  exact ⟨bytes', hbytes', hsize'.trans hsize⟩

/-- Bytes replaced by as many. -/
theorem binds_setBytes (hm : d.memoryOf? b = some (i, m)) {bytes : ByteArray}
    (hsize : bytes.size = m.bytes.size) : d.Binds (d.setBytes b bytes) := by
  refine ⟨manner_setBytes _ _ _, Nat.le_of_eq (nextBuffer_setBytes _ _ _).symm,
    Nat.le_of_eq (nextMemory_setBytes _ _ _).symm, fun b' i' m' ho => ?_⟩
  obtain ⟨r, hr, hrm, hget⟩ := memoryOf?_eq_some.mp ho.bound
  obtain ⟨-, -, -, hget'⟩ := memoryOf?_eq_some.mp hm
  unfold Driver.setBytes
  simp only [hm]
  by_cases he : i' = i
  · subst he
    cases hget.symm.trans hget'
    refine ⟨bytes, memoryOf?_eq_some.mpr ⟨r, hr, hrm, ?_⟩, hsize⟩
    show (d.memories.insert i' _).get? i' = _
    rw [Table.get?_insert, if_pos rfl]
  · refine ⟨m'.bytes, memoryOf?_eq_some.mpr ⟨r, hr, hrm, ?_⟩, rfl⟩
    show (d.memories.insert i _).get? i' = _
    rw [Table.get?_insert, if_neg he]
    exact hget

/-- What is released leaves the memory of every other buffer. -/
theorem memoryOf?_released {buffer memory : Nat} (h : d.memoryOf? b = some (i, m))
    (hb : b ≠ buffer) (hi : i ≠ memory) :
    ((d.free memory).destroyBuffer buffer).memoryOf? b = some (i, m) := by
  obtain ⟨r, hr, hrm, hget⟩ := memoryOf?_eq_some.mp h
  have hfree : (d.free memory).memories.get? i = some m ∧
      (d.free memory).buffers.get? b = some r := by
    unfold free
    split
    · refine ⟨?_, hr⟩
      show (d.memories.erase memory).get? i = _
      rw [Table.get?_erase, if_neg hi]
      exact hget
    · exact ⟨hget, hr⟩
  refine memoryOf?_eq_some.mpr ⟨r, ?_, hrm, ?_⟩
  · unfold destroyBuffer
    simp only
    split
    · show ((d.free memory).buffers.erase buffer).get? b = _
      rw [Table.get?_erase, if_neg hb]
      exact hfree.2
    · exact hfree.2
  · unfold destroyBuffer
    simp only
    split
    · exact hfree.1
    · exact hfree.1

end Vulkan.Driver

namespace VulkanDevice

variable {d : VulkanDevice} {c : VulkanQueue} {o : BoundBuffer} {a : ObjectHandle}

theorem Copied.binds {d e : Driver} {b i : Nat} {m : MemoryRecord} {bytes : ByteArray} {ok : Prop}
    {r : Except Failure Unit} (h : Copied d b bytes ok r e) (ho : d.Holds b i m)
    (hsize : bytes.size = m.bytes.size) : d.Binds e := by
  rcases h.1 with ⟨rfl, -⟩ | rfl
  · exact (Driver.Keeps.refl _).binds
  · exact Driver.binds_setBytes ho.bound hsize

/-! ## 2. Objects and books -/

/-- The numbers of the buffers of all objects. -/
def bufferNumbers (d : VulkanDevice) : List Nat := d.objects.rows.map fun row => row.2.buffer

/-- The numbers of the memory of all objects. -/
def memoryNumbers (d : VulkanDevice) : List Nat := d.objects.rows.map fun row => row.2.memory

/-- **The driver has what the objects have**, one each, and no command buffer is in use. -/
structure Balanced (d : VulkanDevice) : Prop where
  books : d.driver.Books d.bufferNumbers d.memoryNumbers []
  bound : ∀ row ∈ d.objects.rows, ∃ m,
    d.driver.memoryOf? row.2.buffer = some (row.2.memory, m) ∧ m.bytes.size = row.2.size
  handles : d.objects.keys.Nodup
  issued : ∀ k ∈ d.objects.keys, k < d.nextHandle

namespace Balanced

theorem new {queue : VulkanQueue} (h : queue.driver.Books [] [] []) (caps : Capabilities) :
    (VulkanDevice.new queue caps).Balanced := ⟨h, nofun, .nil, nofun⟩

theorem mem_of_object? (h : d.object? a = some o) : (a.number, o) ∈ d.objects.rows := by
  unfold object? Table.get? at h
  revert h
  induction d.objects.rows with
  | nil => exact nofun
  | cons row rest ih =>
    intro h
    simp only [Table.find] at h
    split at h
    · rename_i hk
      cases h
      exact List.mem_cons.mpr (.inl (by rw [← hk]))
    · exact List.mem_cons_of_mem _ (ih h)

/-- An object is held by the driver, with as many bytes as it is long. -/
theorem holds (h : d.Balanced) (ho : d.object? a = some o) :
    ∃ m, d.driver.Holds o.buffer o.memory m ∧ m.bytes.size = o.size := by
  have hmem := mem_of_object? ho
  obtain ⟨m, hm, hsize⟩ := h.bound _ hmem
  exact ⟨m, ⟨h.books.oldBuffer _ (List.mem_map_of_mem hmem),
    h.books.oldMemory _ (List.mem_map_of_mem hmem), hm⟩, hsize⟩

/-- Objects of different handles have memory of their own. -/
theorem memory_ne (h : d.Balanced) {p : BoundBuffer} {b : ObjectHandle} (ho : d.object? a = some o)
    (hp : d.object? b = some p) (hne : b ≠ a) : o.memory ≠ p.memory := by
  intro he
  have hnodup : d.memoryNumbers.Nodup := h.books.memories.nodup
  have hrow := List.inj_on_of_nodup_map hnodup (mem_of_object? ho) (mem_of_object? hp) he
  cases a
  cases b
  cases hrow
  exact hne rfl

/-- Where the driver keeps its bindings, every object stays bound. -/
theorem bound_of_binds (h : d.Balanced) {e : Driver} (hbinds : d.driver.Binds e) :
    ∀ row ∈ d.objects.rows, ∃ m,
      e.memoryOf? row.2.buffer = some (row.2.memory, m) ∧ m.bytes.size = row.2.size := by
  intro row hrow
  obtain ⟨m, hm, hsize⟩ := h.bound row hrow
  obtain ⟨bytes, hbytes, hsame⟩ := hbinds.bound _ _ m
    ⟨h.books.oldBuffer _ (List.mem_map_of_mem hrow),
      h.books.oldMemory _ (List.mem_map_of_mem hrow), hm⟩
  exact ⟨_, hbytes, hsame.trans hsize⟩

/-- The queue works on, and the objects stay. -/
theorem onQueue (h : d.Balanced) (hbooks : c.driver.Books d.bufferNumbers d.memoryNumbers [])
    (hbinds : d.driver.Binds c.driver) : Balanced { d with queue := c } :=
  ⟨hbooks, h.bound_of_binds hbinds, h.handles, h.issued⟩

/-- One more object, which the driver has made. -/
theorem insert (h : d.Balanced) (hbinds : d.driver.Binds c.driver)
    (hbooks : c.driver.Books (o.buffer :: d.bufferNumbers) (o.memory :: d.memoryNumbers) [])
    {m : MemoryRecord} (hm : c.driver.memoryOf? o.buffer = some (o.memory, m))
    (hsize : m.bytes.size = o.size) :
    Balanced { d with
      queue := c, nextHandle := d.nextHandle + 1, objects := d.objects.insert d.nextHandle o } := by
  have hnew : d.nextHandle ∉ d.objects.rows.map (·.1) :=
    Driver.Books.fresh h.issued (Nat.le_refl _)
  have hperm : (d.objects.insert d.nextHandle o).rows.Perm
      ((d.nextHandle, o) :: d.objects.rows) := Table.perm_put hnew o
  have hbs := hperm.map (·.2.buffer)
  have hms := hperm.map (·.2.memory)
  have hkeys := hperm.map (·.1)
  refine ⟨hbooks.of_perm hbs.symm hms.symm, fun row hrow => ?_, ?_, fun k hk => ?_⟩
  · rcases List.mem_cons.mp (hperm.mem_iff.mp hrow) with rfl | hrow
    · exact ⟨m, hm, hsize⟩
    · exact h.bound_of_binds hbinds row hrow
  · exact hkeys.nodup_iff.mpr (List.nodup_cons.mpr ⟨hnew, h.handles⟩)
  · exact Driver.Books.old_cons h.issued k (hkeys.mem_iff.mp hk)

/-- An object given up, which the driver has released. -/
theorem erase (h : d.Balanced) (ho : d.object? a = some o)
    (hbooks : ∀ bs ms, d.driver.Books (o.buffer :: bs) (o.memory :: ms) [] →
      c.driver.Books bs ms [])
    (hothers : ∀ b i m, d.driver.memoryOf? b = some (i, m) → b ≠ o.buffer → i ≠ o.memory →
      c.driver.memoryOf? b = some (i, m)) :
    Balanced { d with queue := c, objects := d.objects.erase a.number } := by
  have hperm : d.objects.rows.Perm ((a.number, o) :: (d.objects.erase a.number).rows) :=
    Table.perm_remove ho h.handles
  have hbs : d.bufferNumbers.Perm (o.buffer :: (d.objects.erase a.number).rows.map (·.2.buffer)) :=
    hperm.map _
  have hms : d.memoryNumbers.Perm (o.memory :: (d.objects.erase a.number).rows.map (·.2.memory)) :=
    hperm.map _
  have hbs' := List.nodup_cons.mp (hbs.nodup_iff.mp h.books.buffers.nodup)
  have hms' := List.nodup_cons.mp (hms.nodup_iff.mp h.books.memories.nodup)
  have hkeys := hperm.map (·.1)
  refine ⟨hbooks _ _ (h.books.of_perm hbs hms), fun row hrow => ?_, ?_, fun k hk => ?_⟩
  · obtain ⟨m, hm, hsize⟩ := h.bound row (hperm.mem_iff.mpr (List.mem_cons_of_mem _ hrow))
    refine ⟨m, hothers _ _ m hm (fun he => hbs'.1 ?_) (fun he => hms'.1 ?_), hsize⟩
    · exact he ▸ List.mem_map_of_mem hrow
    · exact he ▸ List.mem_map_of_mem hrow
  · exact (List.nodup_cons.mp (hkeys.nodup_iff.mp h.handles)).2
  · exact h.issued k (hkeys.mem_iff.mpr (List.mem_cons_of_mem _ hk))

end Balanced

/-! ## 3. Services -/

/-- **A transfer keeps the bindings.** -/
theorem transferOn_binds (h : d.Balanced) (target : TransferTarget) (source : TransferSource)
    (ranges : List ByteRange) :
    (d.transferOn target source ranges).Ends d.queue fun _ e => d.driver.Binds e.driver := by
  intro j
  have hsame : d.driver.Binds d.queue.driver := (Driver.Keeps.refl _).binds
  unfold transferOn known
  split
  · rename_i a base data
    cases ho : d.object? a with
    | none => exact hsame
    | some o =>
      obtain ⟨m, hm, hsize⟩ := h.holds ho
      simp only [Step.wp_bind, Attempt.wp_outcome, Attempt.wp_bind, Attempt.wp_pure, Step.wp_pure]
      refine (store_ends hm).wp fun r e k hpost => ?_
      obtain ⟨x, hcopied, _, hkeeps⟩ := hpost
      exact (hcopied.binds hm (size_copyRanges _ _ _ _ _)).trans hkeeps.binds
  · rename_i data a base
    cases ho : d.object? a with
    | none => exact hsame
    | some o =>
      obtain ⟨m, hm, hsize⟩ := h.holds ho
      simp only [Step.wp_bind, Attempt.wp_outcome, Attempt.wp_bind, Attempt.wp_pure]
      refine (fetch_ends hm fun hout => hsize ▸ (outside?_eq_none_iff.mp hout).1).wp
        fun r e k hpost => ?_
      obtain ⟨hkeeps, _⟩ := hpost
      cases r with
      | ok _ => exact hkeeps.binds
      | error _ => exact hkeeps.binds
  · rename_i into targetBase a sourceBase
    simp only [Step.wp_bind, Attempt.wp_outcome]
    cases hp : d.object? into with
    | none =>
      unfold transferBetween known
      simp only [hp, Attempt.wp_bind, Attempt.wp_refuse]
      exact hsame
    | some p =>
      cases ho : d.object? a with
      | none =>
        unfold transferBetween known
        simp only [hp, ho, Attempt.wp_bind, Attempt.wp_pure, Attempt.wp_refuse]
        exact hsame
      | some o =>
        obtain ⟨m, hm, hsize⟩ := h.holds ho
        obtain ⟨t, ht, -⟩ := h.holds hp
        refine (transferBetween_ends hp ho ht hm hsize fun hne => h.memory_ne ho hp hne).wp
          fun r e k hpost => ?_
        obtain ⟨x, hcopied, _, hkeeps⟩ := hpost
        exact (hcopied.binds ht (size_copyRanges _ _ _ _ _)).trans hkeeps.binds
  · split
    · exact hsame
    · exact hsame

theorem transfer_balanced (h : d.Balanced) (target : TransferTarget) (source : TransferSource)
    (ranges : List ByteRange) (flags : MapFlags) :
    (transfer target source ranges flags).Ends d fun _ e => e.Balanced := by
  intro j
  unfold transfer VulkanDevice.onQueue
  simp only [Step.wp_bind, Step.wp_note, Step.wp_get, Step.wp_onPart]
  exact ((transferOn_keepsBooks d target source ranges d.queue h.books).and
    (transferOn_binds h target source ranges)).wp fun _ _ _ hpost =>
      h.onQueue hpost.1 hpost.2

/-- **A new object is one more in the books**, and a failure leaves the device as it was. -/
theorem makeObject_balanced (h : d.Balanced) (request : ObjectRequest) :
    (makeObject request).Ends d fun _ e => e.Balanced := by
  intro j
  unfold makeObject
  simp only [Attempt.wp_bind, Attempt.wp_onPart]
  refine ((VulkanQueue.makeBuffer_books h.books _ _ _).and
    (VulkanQueue.makeBuffer_ends (.refl d.driver) _ _ _)).wp
    fun r c k hpost => ?_
  obtain ⟨hbooks, hkeeps, hstages, _⟩ := hpost
  cases r with
  | error _ => exact h.onQueue hbooks hkeeps.binds
  | ok o =>
    simp only [Attempt.wp_get, Attempt.wp_note, Attempt.wp_set, Attempt.wp_pure]
    obtain ⟨hlength, hs⟩ := hstages o rfl
    exact h.insert hkeeps.binds hbooks hs.bound ((Bytes.size_zeros _).trans hlength.symm)

theorem releaseIdle_others :
    (releaseIdle a o).Ends c fun _ e => ∀ b i m, c.driver.memoryOf? b = some (i, m) →
      b ≠ o.buffer → i ≠ o.memory → e.driver.memoryOf? b = some (i, m) := by
  intro j
  unfold releaseIdle VulkanQueue.releaseBuffer
  rw [Step.wp_bind, VulkanQueue.wp_call]
  have hwaited := (Driver.idles_perform c.driver .queueWaitIdle .waitQueueIdle).toSameStorage
  have hothers (b i : Nat) (m : MemoryRecord) (h : c.driver.memoryOf? b = some (i, m))
      (hb : b ≠ o.buffer) (hi : i ≠ o.memory) :=
    Driver.memoryOf?_released ((hwaited.memoryOf? b).trans h) hb hi
  cases (Driver.waitQueueIdle c.driver).1 with
  | ok _ => exact hothers
  | error _ => exact hothers

/-- **An object given up is one less in the books.** -/
theorem freeObject_balanced (h : d.Balanced) (a : ObjectHandle) :
    (freeObject a).Ends d fun _ e => e.Balanced := by
  intro j
  unfold freeObject VulkanDevice.onQueue
  simp only [Step.wp_bind, Step.wp_modify, Step.wp_get]
  cases ho : object? { d with capture := if d.capture = some a then none else d.capture } a with
  | none => exact ⟨h.books, h.bound, h.handles, h.issued⟩
  | some o =>
    simp only [Step.wp_bind, Step.wp_set, Step.wp_onPart]
    -- what the release does to the books does not depend on what else is in them
    have hbooks (k : Journal) (bs ms : List Nat)
        (hown : d.driver.Books (o.buffer :: bs) (o.memory :: ms) []) :=
      releaseIdle_books a hown k
    have hgone := h.erase (a := a) (c := ((releaseIdle a o) d.queue j).1.2) ho (hbooks j)
      (releaseIdle_others j)
    exact ⟨hgone.books, hgone.bound, hgone.handles, hgone.issued⟩

/-- The wait for the queue leaves everything as it was. -/
theorem openMapping_balanced (h : d.Balanced) (a : ObjectHandle) (offset size : Nat)
    (flags : MapFlags) : (openMapping a offset size flags).Ends d fun _ e => e.Balanced := by
  intro j
  unfold openMapping
  simp only [Attempt.wp_bind, Attempt.wp_get]
  split
  · exact h
  · rename_i o ho
    split
    · exact h
    · split
      · exact h
      · split
        · simp only [Attempt.wp_bind, Attempt.wp_onPart]
          refine ((VulkanQueue.tryCall_keepsBooks (fun d h => h.perform _ _) d.queue h.books).and
            (VulkanQueue.tryCall_idles fun _ => rfl)).wp fun r c k hpost => ?_
          obtain ⟨hbooks, hidles, _⟩ := hpost
          have hwaited := h.onQueue hbooks
            ((Driver.Keeps.refl d.driver).same hidles.toSameStorage).binds
          cases r with
          | error _ => exact hwaited
          | ok _ => exact hwaited
        · exact h

/-- A barrier copies nothing. -/
theorem recordBarrier_balanced (h : d.Balanced) (b : Barrier) :
    (recordBarrier b).Ends d fun _ e => e.Balanced := by
  intro j
  unfold recordBarrier VulkanDevice.onQueue
  simp only [Step.wp_bind, Step.wp_get]
  split
  · exact h
  · rename_i o ho
    simp only [Step.wp_bind, Step.wp_onPart, Attempt.wp_outcome]
    have hrecords : Driver.Records (fun _ => Driver.recordBarrier (Vulkan.stageMask b.source)
        (Vulkan.stageMask b.target) [] [⟨Vulkan.accessMask b.source, Vulkan.accessMask b.target,
          ignoredFamily, ignoredFamily, o.buffer, b.offset, b.size⟩]) [] := fun _ e hempty =>
      ⟨(Driver.idles_recordBarrier e _ _ _ _).toSameStorage, hempty⟩
    refine ((VulkanQueue.submitOnce_keepsBooks (fun _ _ _ h => h.record _) d.queue h.books).and
      (VulkanQueue.submitOnce_ends hrecords)).wp fun r c k hpost => ?_
    obtain ⟨hbooks, hsub, _⟩ := hpost
    have hsame : d.driver.SameStorage c.driver := hsub.elim (·.1) id
    have hdone := h.onQueue hbooks ((Driver.Keeps.refl d.driver).same hsame).binds
    cases r with
    | error _ => exact hdone
    | ok _ => exact hdone

theorem closeMapping_balanced (h : d.Balanced) (a : ObjectHandle) (ranges : List ByteRange) :
    (closeMapping a ranges).Ends d fun _ e => e.Balanced := by
  intro j
  unfold closeMapping
  simp only [Step.wp_bind, Step.wp_get, Step.wp_ite, Step.wp_note, ite_self]
  exact h

theorem poke_balanced (h : d.Balanced) (a : ObjectHandle) (position : Nat) (data : ByteArray) :
    (poke a position data d).Balanced := by
  unfold poke
  split
  · rename_i o ho
    split
    · rename_i bytes hbytes
      obtain ⟨m, hm, -⟩ := h.holds ho
      cases hbytes.symm.trans (Driver.bytes?_of_memoryOf? hm.bound)
      exact h.onQueue (h.books.setBytes _ _)
        (Driver.binds_setBytes hm.bound (Bytes.size_splice _ _ _))
    · exact h
  · exact h

/-! ## 4. Sequences of services -/

/-- What a device is asked for. -/
inductive Service where
  | make (request : ObjectRequest)
  | free (a : ObjectHandle)
  | transfer (target : TransferTarget) (source : TransferSource) (ranges : List ByteRange)
      (flags : MapFlags)
  | openMapping (a : ObjectHandle) (offset size : Nat) (flags : MapFlags)
  | poke (a : ObjectHandle) (position : Nat) (data : ByteArray)
  | closeMapping (a : ObjectHandle) (ranges : List ByteRange)
  | barrier (b : Barrier)
  | beginCapture (a : ObjectHandle)
  | endCapture

/-- The service done, whatever it answers. -/
def Service.perform : Service → Step VulkanDevice Unit
  | .make request => discard (makeObject request).outcome
  | .free a => freeObject a
  | .transfer target source ranges flags =>
    discard (VulkanDevice.transfer target source ranges flags)
  | .openMapping a offset size flags => discard (VulkanDevice.openMapping a offset size flags).outcome
  | .poke a position data => modify (VulkanDevice.poke a position data)
  | .closeMapping a ranges => VulkanDevice.closeMapping a ranges
  | .barrier b => recordBarrier b
  | .beginCapture a => modify (·.beginCapture a)
  | .endCapture => VulkanDevice.endCapture

/-- The device on a driver that refuses these calls. -/
def refusing (refused : List (DriverCall × String)) (d : VulkanDevice) : VulkanDevice :=
  d.setDriver { d.driver with failing := refused }

/-- A service done while the driver refuses these calls. -/
def serve (refused : List (DriverCall × String)) (s : Service) : Step VulkanDevice Unit := do
  modify (refusing refused)
  s.perform

/-- Services done one after the other, each while the driver refuses what it likes. -/
def serveAll (services : List (List (DriverCall × String) × Service)) : Step VulkanDevice Unit :=
  services.forM fun (refused, s) => serve refused s

theorem refusing_balanced (h : d.Balanced) (refused : List (DriverCall × String)) :
    (d.refusing refused).Balanced :=
  ⟨{ h.books with }, h.bound, h.handles, h.issued⟩

theorem Service.perform_balanced (h : d.Balanced) (s : Service) :
    s.perform.Ends d fun _ e => e.Balanced := by
  cases s with
  | make request => exact makeObject_balanced h request
  | free a => exact freeObject_balanced h a
  | transfer target source ranges flags => exact transfer_balanced h target source ranges flags
  | openMapping a offset size flags => exact openMapping_balanced h a offset size flags
  | poke a position data => exact fun _ => poke_balanced h a position data
  | closeMapping a ranges => exact closeMapping_balanced h a ranges
  | barrier b => exact recordBarrier_balanced h b
  | beginCapture a => exact fun _ => ⟨h.books, h.bound, h.handles, h.issued⟩
  | endCapture => exact fun _ => ⟨h.books, h.bound, h.handles, h.issued⟩

/-- **Every sequence of services keeps the balance**, whatever the driver refuses. -/
theorem serveAll_balanced (h : d.Balanced)
    (services : List (List (DriverCall × String) × Service)) :
    (serveAll services).Ends d fun _ e => e.Balanced := by
  induction services generalizing d with
  | nil => exact fun _ => h
  | cons first rest ih =>
    intro j
    show Step.wp (serve first.1 first.2 >>= fun _ => serveAll rest) d j _
    rw [Step.wp_bind]
    refine Step.Ends.wp (s := serve first.1 first.2) (P := fun _ e => e.Balanced)
      (Service.perform_balanced (refusing_balanced h first.1) first.2) fun _ e k he => ?_
    exact ih he k

/-! ## 5. The end -/

/-- Objects released one after the other, until nothing is left in the books. -/
theorem releaseEach_books {left : List BoundBuffer}
    (h : d.driver.Books (left.map (·.buffer)) (left.map (·.memory)) []) :
    (left.forM fun o => VulkanDevice.onQueue (VulkanQueue.releaseBuffer o)).Ends d
      fun _ e => e.driver.Books [] [] [] := by
  induction left generalizing d with
  | nil => exact fun _ => h
  | cons o rest ih =>
    intro j
    show Step.wp (VulkanDevice.onQueue (VulkanQueue.releaseBuffer o) >>= fun _ =>
      rest.forM fun o => VulkanDevice.onQueue (VulkanQueue.releaseBuffer o)) d j _
    rw [Step.wp_bind]
    exact (VulkanQueue.releaseBuffer_books (c := d.queue) h).wp fun _ c k hc =>
      ih (d := { d with queue := c }) hc k

theorem releaseAll_books (h : d.Balanced) :
    (releaseAll : Step VulkanDevice Unit).Ends d fun _ e => e.driver.Books [] [] [] := by
  intro j
  have hleft : d.driver.Books ((d.objects.rows.map (·.2)).map (·.buffer))
      ((d.objects.rows.map (·.2)).map (·.memory)) [] := by
    rw [List.map_map, List.map_map]
    exact h.books
  unfold releaseAll
  rw [Step.wp_bind, Step.wp_get]
  dsimp only
  split
  · rw [Step.wp_bind, Step.wp_note]
    exact releaseEach_books (d := { d with objects := .empty }) hleft _
  · exact releaseEach_books (d := { d with objects := .empty }) hleft j

/-- A device that has ended leaves nothing. -/
theorem finish_books (h : d.Balanced) :
    (finish : Step VulkanDevice Unit).Ends d fun _ e => e.driver.Books [] [] [] := by
  intro j
  have hwaited : Balanced (d.setDriver (Driver.waitDeviceIdle d.driver).2) := by
    refine h.onQueue (c := { d.queue with driver := _ })
      (h.books.perform .deviceWaitIdle .waitDeviceIdle) (Driver.Keeps.binds ?_)
    exact (Driver.Keeps.refl _).same (Driver.idles_perform _ _ _).toSameStorage
  unfold finish
  rw [Step.wp_bind]
  show Step.wp (releaseAll >>= fun _ => VulkanDevice.onQueue VulkanQueue.finish)
    (d.setDriver (Driver.waitDeviceIdle d.driver).2) j
    fun _ e _ => e.driver.Books [] [] []
  rw [Step.wp_bind]
  exact (releaseAll_books hwaited).wp fun _ e k he => (he.perform _ _).record _

/-- A queue that was started has handed out nothing yet. -/
theorem books_start (present : Bool) (family : Nat) (refused : List (DriverCall × String))
    (lends : Nat → Bool) :
    (VulkanQueue.start present family).Ends { Driver.new with failing := refused, lends } fun r _ =>
      ∀ queue, r = .ok queue → queue.driver.Books [] [] [] := by
  have hnew : Driver.Books [] [] [] { Driver.new with failing := refused, lends } :=
    { Driver.books_new with }
  have hpool := hnew.perform (.createCommandPool Driver.transientPool family) .createCommandPool
  refine (VulkanQueue.start_ends _ present family).mono fun r _ h queue hqueue => ?_
  rw [h queue hqueue]
  exact hpool.record _

/-- **The device leaks nothing, and releases nothing twice.** A queue was started, and services were
    done one after the other, each while the driver refused what it liked and lent what it liked.
    Then the driver has one buffer and one piece of memory for every object and nothing else, and no
    command buffer is in use; and after the device has ended, nothing is left. -/
theorem leaks_nothing {present : Bool} {family : Nat} {refused : List (DriverCall × String)}
    {lends : Nat → Bool} {i : Journal} {queue : VulkanQueue}
    (hstart : ((VulkanQueue.start present family).run
      { Driver.new with failing := refused, lends } i).1.1 = .ok queue)
    (caps : Capabilities) (services : List (List (DriverCall × String) × Service)) :
    (serveAll services).Ends (.new queue caps) fun _ d =>
      d.driver.buffers.keys.Perm d.bufferNumbers ∧ d.bufferNumbers.Nodup ∧
      d.driver.memories.keys.Perm d.memoryNumbers ∧ d.memoryNumbers.Nodup ∧
      d.driver.commandBuffers.rows = [] ∧ d.driver.faults = 0 ∧
      ∀ refused, (finish : Step VulkanDevice Unit).Ends (d.refusing refused) fun _ e =>
        e.driver.buffers.rows = [] ∧ e.driver.memories.rows = [] ∧
        e.driver.commandBuffers.rows = [] ∧ e.driver.faults = 0 := by
  have hnew : (VulkanDevice.new queue caps).Balanced :=
    .new (books_start present family refused lends i queue hstart) caps
  refine (serveAll_balanced hnew services).mono fun _ d h => ?_
  refine ⟨h.books.buffers.perm, h.books.buffers.nodup, h.books.memories.perm,
    h.books.memories.nodup, h.books.commandBuffers.rows_eq_nil, h.books.faults, fun refused => ?_⟩
  refine (finish_books (refusing_balanced h refused)).mono fun _ e he => ?_
  exact ⟨he.buffers.rows_eq_nil, he.memories.rows_eq_nil, he.commandBuffers.rows_eq_nil, he.faults⟩

/-- An object is made and three more buffers with it, of which none is left: the first is refused its
    memory, and the staging buffers of two transfers cannot be submitted or are not waited for. -/
theorem leaks_nothing_refused : ∃ queue d k,
    ((VulkanQueue.start true 0).run { Driver.new with failing := [] } (.empty .error)).1.1 =
      .ok queue ∧
    serveAll
      [([], .make ⟨4, .vertex, ∅, .deviceLocal, false, false⟩),
        ([(.bindMemory, "ERROR_OUT_OF_DEVICE_MEMORY")], .make ⟨4, .vertex, ∅, .deviceLocal, false, false⟩),
        ([(.submitCommandBuffer, "ERROR_DEVICE_LOST")],
          .transfer (.object ⟨1⟩ 0) (.host ⟨#[1, 2, 3, 4]⟩) [⟨0, 4⟩] ∅),
        ([(.waitQueueIdle, "ERROR_DEVICE_LOST")],
          .transfer (.object ⟨1⟩ 0) (.object ⟨1⟩ 2) [⟨0, 2⟩] ∅)]
      (.new queue .modern) (.empty .error) = (((), d), k) ∧
    d.driver.nextBuffer = 5 ∧ d.bufferNumbers = [1] ∧
    d.driver.buffers.keys.Perm d.bufferNumbers ∧ d.bufferNumbers.Nodup ∧
    d.driver.memories.keys.Perm d.memoryNumbers ∧ d.memoryNumbers.Nodup ∧
    d.driver.commandBuffers.rows = [] ∧ d.driver.faults = 0 ∧
    ∀ refused, (finish : Step VulkanDevice Unit).Ends (d.refusing refused) fun _ e =>
      e.driver.buffers.rows = [] ∧ e.driver.memories.rows = [] ∧
      e.driver.commandBuffers.rows = [] ∧ e.driver.faults = 0 := by
  have hstart : ((VulkanQueue.start true 0).run { Driver.new with failing := [] }
      (.empty .error)).1.1 = .ok ⟨(Driver.new.createCommandPool 0).2.firstQueue 0, 0⟩ := rfl
  refine ⟨_, _, _, hstart, Step.eq_end _ _ _, ?_, ?_, ?_⟩
  · decide +kernel
  · decide +kernel
  · exact (leaks_nothing hstart .modern _).of_run (Step.eq_end _ _ _)

end VulkanDevice

end BufferCoherence
