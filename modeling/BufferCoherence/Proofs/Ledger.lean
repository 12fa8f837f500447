import BufferCoherence.Proofs.Staging

/-!
# The ledger of the Vulkan device

What the driver has handed out, while any call of it may fail. `Driver.Books` lists the buffers, the
memory and the command buffers that are in use, each once, and says that nothing was ever released
that was not there.

* a call of the driver that makes something adds it to the books, one that releases something takes
  it off, and no other call changes them;
* `makeBuffer_books` and `releaseBuffer_books`: what a new buffer adds and what its release takes
  off, whatever fails in between;
* `withStaging_keepsBooks`, `submitOnce_keepsBooks`: what a staging buffer or a command buffer takes
  is given back on every way out, and so a transfer takes nothing for good
  (`transferOn_keepsBooks`).
-/

namespace BufferCoherence

open Vulkan (Driver MemoryLocation MemoryRecord CopyRegion CopyCommand BufferHazard)

/-! ## 1. The numbers of a table -/

namespace Table

variable {α : Type} {t : Table α} {ks : List Nat} {k : Nat}

theorem isSome_find_iff {rows : List (Nat × α)} :
    (find k rows).isSome = true ↔ k ∈ rows.map (·.1) := by
  induction rows with
  | nil => simp [find]
  | cons row rest ih =>
    simp only [find, List.map_cons, List.mem_cons]
    by_cases h : row.1 = k
    · simp [h]
    · rw [if_neg h, ih]
      exact ⟨.inr, fun hk => hk.resolve_left (Ne.symm h)⟩

theorem put_of_mem {rows : List (Nat × α)} (h : k ∈ rows.map (·.1)) (a : α) :
    (put k a rows).map (·.1) = rows.map (·.1) := by
  induction rows with
  | nil => cases h
  | cons row rest ih =>
    simp only [put]
    by_cases hk : row.1 = k
    · rw [if_pos hk, List.map_cons, List.map_cons, hk]
    · rw [if_neg hk, List.map_cons, List.map_cons, ih]
      exact ((List.mem_cons.mp h).resolve_left (Ne.symm hk))

theorem put_of_not_mem {rows : List (Nat × α)} (h : k ∉ rows.map (·.1)) (a : α) :
    put k a rows = rows ++ [(k, a)] := by
  induction rows with
  | nil => rfl
  | cons row rest ih =>
    rw [List.map_cons, List.mem_cons, not_or] at h
    simp only [put, List.cons_append]
    rw [if_neg (Ne.symm h.1), ih h.2]

theorem remove_of_not_mem {rows : List (Nat × α)} (h : k ∉ rows.map (·.1)) :
    remove k rows = rows := by
  induction rows with
  | nil => rfl
  | cons row rest ih =>
    rw [List.map_cons, List.mem_cons, not_or] at h
    simp only [remove]
    rw [if_neg (Ne.symm h.1), ih h.2]

/-- A number that is new is one row more. -/
theorem perm_put {rows : List (Nat × α)} (h : k ∉ rows.map (·.1)) (a : α) :
    (put k a rows).Perm ((k, a) :: rows) := by
  rw [put_of_not_mem h]
  exact List.perm_append_comm

/-- The row of a number comes off the rows, and no other one. -/
theorem perm_remove {rows : List (Nat × α)} {a : α} (h : find k rows = some a)
    (hnodup : (rows.map (·.1)).Nodup) : rows.Perm ((k, a) :: remove k rows) := by
  induction rows with
  | nil => cases h
  | cons row rest ih =>
    rw [List.map_cons, List.nodup_cons] at hnodup
    simp only [find] at h
    simp only [remove]
    by_cases hk : row.1 = k
    · rw [if_pos hk] at h ⊢
      cases h
      rw [remove_of_not_mem (by rw [← hk]; exact hnodup.1), ← hk]
    · rw [if_neg hk] at h ⊢
      exact ((ih h hnodup.2).cons row).trans (.swap _ _ _)

/-- The numbers in use are `ks`, each once. -/
structure Lists (t : Table α) (ks : List Nat) : Prop where
  perm : t.keys.Perm ks
  nodup : ks.Nodup

namespace Lists

theorem contains_iff (h : t.Lists ks) : t.contains k = true ↔ k ∈ ks :=
  isSome_find_iff.trans h.perm.mem_iff

theorem get?_isSome (h : t.Lists ks) : (t.get? k).isSome = true ↔ k ∈ ks := h.contains_iff

theorem of_perm {js : List Nat} (h : t.Lists ks) (hp : ks.Perm js) : t.Lists js :=
  ⟨h.perm.trans hp, hp.nodup_iff.mp h.nodup⟩

theorem insert_new (h : t.Lists ks) (hk : k ∉ ks) (a : α) : (t.insert k a).Lists (k :: ks) := by
  refine ⟨?_, List.nodup_cons.mpr ⟨hk, h.nodup⟩⟩
  have hnew : k ∉ t.rows.map (·.1) := fun hmem => hk (h.perm.mem_iff.mp hmem)
  have hkeys := (perm_put hnew a).map (·.1)
  exact hkeys.trans (h.perm.cons k)

theorem insert_old (h : t.Lists ks) (hk : k ∈ ks) (a : α) : (t.insert k a).Lists ks := by
  refine ⟨?_, h.nodup⟩
  show ((put k a t.rows).map (·.1)).Perm _
  rw [put_of_mem (h.perm.mem_iff.mpr hk)]
  exact h.perm

theorem erase (h : t.Lists (k :: ks)) : (t.erase k).Lists ks := by
  obtain ⟨a, ha⟩ := Option.isSome_iff_exists.mp (h.get?_isSome.mpr List.mem_cons_self)
  refine ⟨?_, (List.nodup_cons.mp h.nodup).2⟩
  have hrows := (perm_remove ha (h.perm.nodup_iff.mpr h.nodup)).map (·.1)
  exact (List.perm_cons k).mp (hrows.symm.trans h.perm)

/-- A table without numbers is empty. -/
theorem rows_eq_nil (h : t.Lists []) : t.rows = [] := List.map_eq_nil_iff.mp h.perm.eq_nil

end Lists

theorem lists_empty : (empty : Table α).Lists [] := ⟨.refl _, .nil⟩

end Table

/-! ## 2. What the driver has handed out -/

namespace Vulkan.Driver

variable {d e : Driver} {bs ms ids : List Nat} {id buffer memory : Nat}

/-- **The driver has the buffers `bs`, the memory `ms` and the command buffers `ids`**, each once, and
    nothing was released that was not there. -/
structure Books (bs ms ids : List Nat) (d : Driver) : Prop where
  buffers : d.buffers.Lists bs
  memories : d.memories.Lists ms
  commandBuffers : d.commandBuffers.Lists ids
  oldBuffer : ∀ b ∈ bs, b < d.nextBuffer
  oldMemory : ∀ m ∈ ms, m < d.nextMemory
  oldCommand : ∀ c ∈ ids, c < d.nextCommandBuffer
  faults : d.faults = 0

theorem books_new : Driver.new.Books [] [] [] :=
  ⟨Table.lists_empty, Table.lists_empty, Table.lists_empty, nofun, nofun, nofun, rfl⟩

namespace Books

theorem of_perm {bs' ms' : List Nat} (h : d.Books bs ms ids) (hb : bs.Perm bs') (hm : ms.Perm ms') :
    d.Books bs' ms' ids :=
  { h with
    buffers := h.buffers.of_perm hb
    memories := h.memories.of_perm hm
    oldBuffer := fun b hmem => h.oldBuffer b (hb.mem_iff.mpr hmem)
    oldMemory := fun m hmem => h.oldMemory m (hm.mem_iff.mpr hmem) }

/-- To record a call changes nothing in the books. -/
theorem record (h : d.Books bs ms ids) (c : Call) : (d.record c).Books bs ms ids := { h with }

/-- A call that only answers is recorded, whether it is refused or not. -/
theorem perform (h : d.Books bs ms ids) (call : Call) (c : DriverCall) :
    ((d.record call).perform c fun e => ((), e)).2.Books bs ms ids := by
  rcases perform_cases (d.record call) c fun e => ((), e) with ⟨code, -, he⟩ | he
  · rw [he]
    exact h.record call
  · rw [he]
    exact h.record call

theorem fresh {k next : Nat} {ks : List Nat} (h : ∀ b ∈ ks, b < next) (hk : next ≤ k) : k ∉ ks :=
  fun hmem => absurd (h k hmem) (Nat.not_lt.mpr hk)

theorem old_cons {next : Nat} {ks : List Nat} (h : ∀ b ∈ ks, b < next) :
    ∀ b ∈ next :: ks, b < next + 1 := by
  intro b hb
  rcases List.mem_cons.mp hb with rfl | hb
  · exact Nat.lt_succ_self _
  · exact Nat.lt_succ_of_lt (h b hb)

theorem createBuffer (h : d.Books bs ms ids) (size usage : Nat) :
    (Driver.createBuffer size usage d).2.Books
      (match (Driver.createBuffer size usage d).1 with | .ok b => b :: bs | .error _ => bs)
      ms ids := by
  rcases createBuffer_cases size usage d with ⟨code, -, he⟩ | he
  · rw [he]
    exact h.record _
  · rw [he]
    exact { h with
      buffers := h.buffers.insert_new (fresh h.oldBuffer (Nat.le_refl _)) _
      oldBuffer := old_cons h.oldBuffer }

theorem allocate (h : d.Books bs ms ids) (size : Nat) (location : MemoryLocation) :
    (Driver.allocate size location d).2.Books bs
      (match (Driver.allocate size location d).1 with | .ok m => m :: ms | .error _ => ms) ids := by
  rcases allocate_cases size location d with ⟨code, -, he⟩ | he
  · rw [he]
    exact h
  · rw [he]
    exact { h with
      memories := h.memories.insert_new (fresh h.oldMemory (Nat.le_refl _)) _
      oldMemory := old_cons h.oldMemory }

theorem bindMemory (h : d.Books bs ms ids) (hb : buffer ∈ bs) (memory : Nat) :
    (Driver.bindMemory buffer memory d).2.Books bs ms ids := by
  obtain ⟨b, hget⟩ := Option.isSome_iff_exists.mp (h.buffers.get?_isSome.mpr hb)
  rcases bindMemory_cases hget memory with ⟨code, -, he⟩ | he
  · rw [he]
    exact h.record _
  · rw [he]
    exact { h with buffers := h.buffers.insert_old hb _ }

theorem destroyBuffer (h : d.Books (buffer :: bs) ms ids) :
    (d.destroyBuffer buffer).Books bs ms ids := by
  unfold Driver.destroyBuffer
  simp only
  rw [if_pos ((h.record _).buffers.contains_iff.mpr List.mem_cons_self)]
  exact { h with
    buffers := h.buffers.erase
    oldBuffer := fun b hb => h.oldBuffer b (List.mem_cons_of_mem _ hb) }

theorem free (h : d.Books bs (memory :: ms) ids) : (d.free memory).Books bs ms ids := by
  unfold Driver.free
  rw [if_pos (h.memories.contains_iff.mpr List.mem_cons_self)]
  exact { h with
    memories := h.memories.erase
    oldMemory := fun m hm => h.oldMemory m (List.mem_cons_of_mem _ hm) }

theorem allocateCommandBuffer (h : d.Books bs ms ids) :
    d.allocateCommandBuffer.2.Books bs ms
      (match d.allocateCommandBuffer.1 with | .ok id => id :: ids | .error _ => ids) := by
  rcases allocateCommandBuffer_cases d with ⟨code, -, he⟩ | he
  · rw [he]
    exact h.record _
  · rw [he]
    exact { h with
      commandBuffers := h.commandBuffers.insert_new (fresh h.oldCommand (Nat.le_refl _)) _
      oldCommand := old_cons h.oldCommand }

theorem freeCommandBuffer (h : d.Books bs ms (id :: ids)) :
    (d.freeCommandBuffer id).Books bs ms ids := by
  unfold Driver.freeCommandBuffer
  simp only
  rw [if_pos ((h.record _).commandBuffers.contains_iff.mpr List.mem_cons_self)]
  exact { h with
    commandBuffers := h.commandBuffers.erase
    oldCommand := fun c hc => h.oldCommand c (List.mem_cons_of_mem _ hc) }

theorem recordCopy (h : d.Books bs ms ids) (hid : id ∈ ids) (c : CopyCommand) :
    (d.recordCopy id c).Books bs ms ids :=
  { h with commandBuffers := h.commandBuffers.insert_old hid _ }

/-- Bytes are only ever written where there is memory. -/
theorem setBytes (h : d.Books bs ms ids) (b : Nat) (bytes : ByteArray) :
    (d.setBytes b bytes).Books bs ms ids := by
  unfold Driver.setBytes
  split
  · rename_i i m hm
    obtain ⟨-, -, -, hget⟩ := memoryOf?_eq_some.mp hm
    have hmem := h.memories.get?_isSome.mp (Option.isSome_iff_exists.mpr ⟨m, hget⟩)
    exact { h with memories := h.memories.insert_old hmem _ }
  · exact h

theorem copyRegion (h : d.Books bs ms ids) (source target : Nat) (r : CopyRegion) :
    (d.copyRegion source target r).Books bs ms ids := by
  unfold Driver.copyRegion
  split
  · split
    · exact h.setBytes target _
    · exact h
  · exact h

theorem runCopies (h : d.Books bs ms ids) (cs : List CopyCommand) :
    (cs.foldl runCopy d).Books bs ms ids := by
  have hcopy (c : CopyCommand) {d : Driver} (h : d.Books bs ms ids) :
      (d.runCopy c).Books bs ms ids := by
    unfold runCopy
    induction c.regions generalizing d with
    | nil => exact h
    | cons r rest ih => exact ih (h.copyRegion c.source c.target r)
  induction cs generalizing d with
  | nil => exact h
  | cons c rest ih => exact ih (hcopy c h)

/-- Whatever a command buffer copies, it copies between what is there. -/
theorem submit (h : d.Books bs ms ids) (id : Nat) : (Driver.submit id d).2.Books bs ms ids := by
  unfold Driver.submit
  rcases perform_cases (d.record (.queueSubmit 1 1)) .submitCommandBuffer fun e =>
    ((), ((e.commandBuffers.get? id).getD []).foldl Driver.runCopy e) with ⟨code, -, he⟩ | he
  · rw [he]
    exact h.record _
  · rw [he]
    exact (h.record _).runCopies _

end Books

end Vulkan.Driver

/-! ## 3. What the queue gives back -/

namespace VulkanQueue

variable {α β : Type} {c : VulkanQueue} {bs ms ids : List Nat} {o : BoundBuffer}
  {record : Nat → Driver → Driver}

/-- A step that leaves the books as they are. -/
def KeepsBooks (bs ms ids : List Nat) (s : Step VulkanQueue α) : Prop :=
  ∀ c, c.driver.Books bs ms ids → s.Ends c fun _ e => e.driver.Books bs ms ids

namespace KeepsBooks

variable {a : Attempt VulkanQueue α} {f : α → Attempt VulkanQueue β}

theorem pure (v : α) : KeepsBooks bs ms ids (Pure.pure v : Attempt VulkanQueue α).run :=
  fun _ h _ => h

theorem refuse (source : Source) (f : Failure) :
    KeepsBooks bs ms ids (BufferCoherence.refuse source f : Attempt VulkanQueue α).run :=
  fun _ h _ => h

/-- Two attempts, the second one where the first succeeds. -/
theorem bind (ha : KeepsBooks bs ms ids a.run) (hf : ∀ v, KeepsBooks bs ms ids (f v).run) :
    KeepsBooks bs ms ids (a >>= f).run := by
  intro c h j
  show Attempt.wp (a >>= f) c j _
  rw [Attempt.wp_bind]
  refine (ha c h).wp (s := a.run) fun r e k he => ?_
  cases r with
  | error _ => exact he
  | ok v => exact hf v e he k

theorem note (n : Notice) :
    KeepsBooks bs ms ids (liftM (BufferCoherence.note n) : Attempt VulkanQueue Unit).run :=
  fun _ h _ => h

theorem get : KeepsBooks bs ms ids (MonadState.get : Attempt VulkanQueue VulkanQueue).run :=
  fun _ h _ => h

end KeepsBooks

theorem tryCall_keepsBooks {k : DriverCall} {f : Driver → Except String α × Driver}
    (hf : ∀ d : Driver, d.Books bs ms ids → (f d).2.Books bs ms ids) :
    KeepsBooks bs ms ids (tryCall k f).run :=
  fun c h _ => wp_tryCall (fun _ _ => hf c.driver h) fun _ _ _ _ => hf c.driver h

theorem run_keepsBooks {f : Driver → Driver}
    (hf : ∀ d : Driver, d.Books bs ms ids → (f d).Books bs ms ids) :
    KeepsBooks bs ms ids (always (run f)).run :=
  fun c h _ => hf c.driver h

/-- A buffer released is taken off the books with its memory. -/
theorem releaseBuffer_books (h : c.driver.Books (o.buffer :: bs) (o.memory :: ms) ids) :
    (releaseBuffer o).Ends c fun _ e => e.driver.Books bs ms ids := by
  intro j
  unfold releaseBuffer
  simp only [Step.wp_bind, wp_run]
  exact h.free.destroyBuffer

/-- **A new buffer is one more in the books, with its memory; a failure, wherever it comes, leaves
    the books as they were.** -/
theorem makeBuffer_books (h : c.driver.Books bs ms ids) (size usage : Nat)
    (location : MemoryLocation) :
    (makeBuffer size usage location).Ends c fun r e =>
      match r with
      | .ok o => e.driver.Books (o.buffer :: bs) (o.memory :: ms) ids
      | .error _ => e.driver.Books bs ms ids := by
  intro j
  unfold makeBuffer
  rw [Attempt.wp_bind]
  have hcreated := h.createBuffer size usage
  refine wp_tryCall (fun buffer hok => ?_) fun code herror _ _ => ?_
  · rw [hok] at hcreated
    unfold allocateMemory
    simp only [Attempt.wp_bind, Attempt.wp_always, Attempt.wp_outcome, wp_call]
    have hgranted := hcreated.allocate size location
    cases hmemory : (Driver.allocate size location (Driver.createBuffer size usage c.driver).2).1 with
    | error code =>
      rw [hmemory] at hgranted
      simp only [Attempt.wp_bind, Attempt.wp_note, Attempt.wp_throw, Attempt.wp_always, wp_run]
      exact hgranted.destroyBuffer
    | ok memory =>
      rw [hmemory] at hgranted
      simp only [Attempt.wp_pure, Attempt.wp_bind]
      unfold bindBuffer
      simp only [Attempt.wp_bind, Attempt.wp_always, wp_call]
      have hbound := hgranted.bindMemory List.mem_cons_self memory
      cases hbind : (Driver.bindMemory buffer memory (Driver.allocate size location
          (Driver.createBuffer size usage c.driver).2).2).1 with
      | ok _ => exact hbound
      | error code =>
        simp only [Attempt.wp_bind, Attempt.wp_always, Attempt.wp_refuse]
        exact (releaseBuffer_books (c := { c with driver := _ }) hbound).wp fun _ _ _ he => he
  · rw [herror] at hcreated
    exact hcreated

/-- **A staging buffer is given back on every way out.** -/
theorem withStaging_keepsBooks {size : Nat} {location : MemoryLocation}
    {use : BoundBuffer → Attempt VulkanQueue α}
    (huse : ∀ o : BoundBuffer, KeepsBooks (o.buffer :: bs) (o.memory :: ms) ids (use o).run) :
    KeepsBooks bs ms ids (VulkanDevice.withStaging size location use).run := by
  intro c h j
  show Attempt.wp (VulkanDevice.withStaging size location use) c j _
  unfold VulkanDevice.withStaging VulkanDevice.stagingBuffer
  rw [Attempt.wp_bind]
  refine (makeBuffer_books h _ _ _).wp fun r e k he => ?_
  cases r with
  | error _ => exact he
  | ok staging =>
    simp only [Attempt.wp_bind, Attempt.wp_always, Attempt.wp_outcome, Attempt.wp_answer]
    refine (huse staging e he).wp (s := (use staging).run) fun r e' k' he' => ?_
    exact (releaseBuffer_books he').wp fun _ _ _ hreleased => hreleased

theorem runCommands_keepsBooks {id : Nat}
    (hrecord : ∀ d : Driver, d.Books bs ms ids → (record id d).Books bs ms ids) :
    KeepsBooks bs ms ids (runCommands id record).run := by
  unfold runCommands
  refine (tryCall_keepsBooks fun d h => h.perform _ _).bind fun _ =>
    (run_keepsBooks hrecord).bind fun _ =>
    (tryCall_keepsBooks fun d h => h.perform _ _).bind fun _ =>
    (tryCall_keepsBooks fun d h => h.submit id).bind fun _ =>
    (tryCall_keepsBooks fun d h => h.perform _ _).bind fun _ => .note _

/-- **A command buffer is given back on every way out.** -/
theorem submitOnce_keepsBooks
    (hrecord : ∀ id d, id ∈ id :: ids → d.Books bs ms (id :: ids) →
      (record id d).Books bs ms (id :: ids)) :
    KeepsBooks bs ms ids (submitOnce record).run := by
  intro c h j
  show Attempt.wp (submitOnce record) c j _
  unfold submitOnce
  rw [Attempt.wp_bind]
  have hmade := h.allocateCommandBuffer
  refine wp_tryCall (fun id hok => ?_) fun code herror _ _ => ?_
  · rw [hok] at hmade
    simp only [Attempt.wp_bind, Attempt.wp_always, Attempt.wp_outcome, wp_run, Attempt.wp_answer]
    exact (runCommands_keepsBooks (fun d => hrecord id d List.mem_cons_self) _ hmade).wp
      (s := (runCommands id record).run) fun r e k he => he.freeCommandBuffer
  · rw [herror] at hmade
    exact hmade

end VulkanQueue

/-! ## 4. What a transfer gives back -/

namespace VulkanDevice

open VulkanQueue

variable {bs ms ids : List Nat}

theorem submitCopy_keepsBooks (source target : Nat) (regions : List CopyRegion) :
    KeepsBooks bs ms ids (submitCopy source target regions).run := by
  unfold submitCopy
  split
  · exact .pure _
  · exact submitOnce_keepsBooks fun _ _ hid h => h.recordCopy hid _

theorem requireRanges_keepsBooks (sourceBase sourceSize targetBase targetSize : Nat)
    (ranges : List ByteRange) :
    KeepsBooks bs ms ids
      (requireRanges sourceBase sourceSize targetBase targetSize ranges : Attempt VulkanQueue _).run := by
  unfold requireRanges
  split
  · exact .refuse _ _
  · exact .pure _

theorem stagingBytes_keepsBooks (o : BoundBuffer) :
    KeepsBooks bs ms ids (stagingBytes o).run := by
  unfold stagingBytes
  refine .bind .get fun c => ?_
  split
  · exact .pure _
  · exact .refuse _ _

theorem known_keepsBooks (d : VulkanDevice) (h : ObjectHandle) :
    KeepsBooks bs ms ids (d.known h).run := by
  unfold known
  split
  · exact .pure _
  · exact .refuse _ _

theorem store_keepsBooks (o : BoundBuffer) (base : Nat) (data : ByteArray)
    (ranges : List ByteRange) : KeepsBooks bs ms ids (store o base data ranges).run := by
  unfold store
  refine (requireRanges_keepsBooks _ _ _ _ _).bind fun _ => .bind .get fun c => ?_
  split
  · exact run_keepsBooks fun d h => h.setBytes _ _
  · exact withStaging_keepsBooks fun staging => (stagingBytes_keepsBooks staging).bind fun _ =>
      (run_keepsBooks fun d h => h.setBytes _ _).bind fun _ => submitCopy_keepsBooks _ _ _

theorem fetch_keepsBooks (o : BoundBuffer) (base : Nat) (data : ByteArray)
    (ranges : List ByteRange) : KeepsBooks bs ms ids (fetch o base data ranges).run := by
  unfold fetch
  refine (requireRanges_keepsBooks _ _ _ _ _).bind fun _ => .bind .get fun c => ?_
  split
  · exact .pure _
  · exact withStaging_keepsBooks fun staging => (submitCopy_keepsBooks _ _ _).bind fun _ =>
      (stagingBytes_keepsBooks staging).bind fun _ => .pure _

theorem transferBetween_keepsBooks (d : VulkanDevice) (target : ObjectHandle) (targetBase : Nat)
    (source : ObjectHandle) (sourceBase : Nat) (ranges : List ByteRange) :
    KeepsBooks bs ms ids (d.transferBetween target targetBase source sourceBase ranges).run := by
  unfold transferBetween
  refine (known_keepsBooks d target).bind fun into => (known_keepsBooks d source).bind fun o =>
    (requireRanges_keepsBooks _ _ _ _ _).bind fun _ => ?_
  split
  · exact withStaging_keepsBooks fun staging => submitOnce_keepsBooks fun _ _ hid h =>
      ((h.recordCopy hid _).record _).recordCopy hid _
  · exact submitCopy_keepsBooks _ _ _

/-- **A transfer takes nothing for good**, whether it fails or not. -/
theorem transferOn_keepsBooks (d : VulkanDevice) (target : TransferTarget)
    (source : TransferSource) (ranges : List ByteRange) :
    KeepsBooks bs ms ids (d.transferOn target source ranges) := by
  intro c h j
  unfold transferOn
  split
  · rename_i a base data
    exact ((known_keepsBooks d a).bind fun o => store_keepsBooks o base data ranges) c h j
  · rename_i data a base
    rw [Step.wp_bind]
    refine (((known_keepsBooks d a).bind fun o => fetch_keepsBooks o base data ranges) c h).wp
      fun r e k he => ?_
    cases r with
    | ok _ => exact he
    | error _ => exact he
  · exact transferBetween_keepsBooks d _ _ _ _ ranges c h j
  · split
    · exact h
    · exact h

/-- An object that is released is taken off the books. -/
theorem releaseIdle_books {c : VulkanQueue} {o : BoundBuffer} (h : ObjectHandle)
    (hbooks : c.driver.Books (o.buffer :: bs) (o.memory :: ms) ids) :
    (releaseIdle h o).Ends c fun _ e => e.driver.Books bs ms ids := by
  intro j
  unfold releaseIdle
  rw [Step.wp_bind, VulkanQueue.wp_call]
  have hwaited := hbooks.perform .queueWaitIdle .waitQueueIdle
  have hreleased := releaseBuffer_books
    (c := { c with driver := (Driver.waitQueueIdle c.driver).2 }) hwaited
  -- the object is released whether the wait fails or not
  cases (Driver.waitQueueIdle c.driver).1 with
  | ok _ => exact hreleased.wp fun _ _ _ he => he
  | error code =>
    simp only [Step.wp_bind, Step.wp_note]
    exact hreleased.wp fun _ _ _ he => he

end VulkanDevice

end BufferCoherence
