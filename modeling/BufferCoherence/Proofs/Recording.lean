import BufferCoherence.Proofs.Balance
import BufferCoherence.Proofs.Traffic
import Mathlib.Logic.Function.Basic

/-!
# The copies that a Vulkan device records

The driver records every call. What the calls up to some point say of a buffer, its size and whether
it is bound to memory, is read off the record alone (`Vulkan.standings`); a copy further on is held
against it (`CopyCommand.Proper`).

* `Driver.Filed`: every copy in the record is proper, and of each buffer that a device or a transfer
  still holds the record says that it is there, with the size it was made with. Each call of the
  driver keeps that;
* `withStaging_files`, `transferOn_files`: a staging buffer is held as long as a transfer needs it,
  and has room for all ranges. So a transfer files proper copies, whichever calls of it fail;
* **`VulkanDevice.Filed.served`**: whatever a device is asked, its record stays in order.
-/

namespace BufferCoherence

open Vulkan (Driver MemoryLocation CopyRegion CopyCommand)

namespace Vulkan

/-! ## 1. Reading the record -/

/-- What the calls so far say of a buffer that is there. -/
structure Standing where
  size : Nat
  /-- It has been bound to memory. -/
  bound : Bool
deriving DecidableEq

/-- What a call says of the buffers, after what was said before. -/
def Call.tell (s : Nat → Option Standing) : Call → Nat → Option Standing
  | .createBuffer b size _ _ => Function.update s b (some ⟨size, false⟩)
  | .bindBufferMemory b => Function.update s b ((s b).map fun x => { x with bound := true })
  | .destroyBuffer b => Function.update s b none
  | _ => s

/-- What calls, one after the other, say of the buffers in the end. -/
def standings (calls : List Call) : Nat → Option Standing := calls.foldl Call.tell fun _ => none

theorem standings_concat (calls : List Call) (c : Call) :
    standings (calls ++ [c]) = c.tell (standings calls) := List.foldl_concat _ _ _ _

/-- A region within a source and a target of these sizes, with a byte where care is taken. -/
structure CopyRegion.Apt (care : Care) (source target : Nat) (r : CopyRegion) : Prop where
  source : r.sourceOffset + r.size ≤ source
  target : r.targetOffset + r.size ≤ target
  filled : care.full → 0 < r.size

/-- **A copy that is in order**: each of its regions lies within the two buffers, which are there
    and bound to memory; and it has a region where care is taken. -/
def CopyCommand.Proper (care : Care) (s : Nat → Option Standing) (c : CopyCommand) : Prop :=
  (care.ranged → c.regions ≠ []) ∧ ∃ m n,
    s c.source = some ⟨m, true⟩ ∧ s c.target = some ⟨n, true⟩ ∧ ∀ r ∈ c.regions, r.Apt care m n

/-- Every copy among the calls is in order, by what the calls before it say. -/
def Documented (care : Care) (calls : List Call) : Prop :=
  ∀ before source target regions after,
    calls = before ++ .copyBuffer source target regions :: after →
      CopyCommand.Proper care (standings before) ⟨source, target, regions⟩

variable {care : Care} {calls : List Call} {c : Call}

theorem documented_nil : Documented care [] := fun _ _ _ _ _ h =>
  absurd h.symm (List.append_ne_nil_of_right_ne_nil _ (List.cons_ne_nil _ _))

/-- One call more, which is in order if it is a copy. -/
theorem Documented.concat (h : Documented care calls)
    (hc : ∀ source target regions, c = .copyBuffer source target regions →
      CopyCommand.Proper care (standings calls) ⟨source, target, regions⟩) :
    Documented care (calls ++ [c]) := by
  intro before source target regions after he
  rcases List.eq_nil_or_concat after with rfl | ⟨rest, last, rfl⟩
  · obtain ⟨hcalls, hlast⟩ := List.append_inj' he rfl
    cases hlast
    rw [← hcalls]
    exact hc _ _ _ rfl
  · -- the copy came before the last call
    rw [List.concat_eq_append, ← List.cons_append, ← List.append_assoc] at he
    exact h _ _ _ _ _ (List.append_inj' he rfl).1

/-- A call that says nothing of the buffers, and is no copy. -/
def Call.Aside : Call → Prop
  | .createBuffer .. | .bindBufferMemory _ | .destroyBuffer _ | .copyBuffer .. => False
  | _ => True

theorem Call.Aside.tell_eq (h : c.Aside) (s : Nat → Option Standing) : c.tell s = s := by
  cases c with
  | createBuffer | bindBufferMemory | destroyBuffer => exact h.elim
  | _ => rfl

/-! ## 2. The record of the driver -/

namespace Driver

variable {d e : Driver} {held : List (Nat × Nat)} {b size : Nat}

/-- The driver recorded these calls, and numbers its next buffer as before. -/
structure Writes (cs : List Call) (d e : Driver) : Prop where
  calls : e.calls.toList = d.calls.toList ++ cs
  nextBuffer : e.nextBuffer = d.nextBuffer

/-- **The record of the driver is in order**, and says of the buffers `held` that they are there
    with these sizes, each once. -/
structure Filed (care : Care) (held : List (Nat × Nat)) (d : Driver) : Prop where
  documented : Documented care d.calls.toList
  standing : ∀ x ∈ held, standings d.calls.toList x.1 = some ⟨x.2, true⟩
  old : ∀ x ∈ held, x.1 < d.nextBuffer
  distinct : (held.map (·.1)).Nodup

/-- A buffer that has been made and is not held, since it has no memory yet. -/
structure Drafted (care : Care) (b size : Nat) (held : List (Nat × Nat)) (d : Driver) : Prop extends
    Filed care held d where
  draft : standings d.calls.toList b = some ⟨size, false⟩
  made : b < d.nextBuffer
  apart : b ∉ held.map (·.1)

theorem writes_record (d : Driver) (c : Call) : Writes [c] d (d.record c) :=
  ⟨Array.toList_push .., rfl⟩

theorem Writes.refl (d : Driver) : Writes [] d d := ⟨(List.append_nil _).symm, rfl⟩

/-- What records nothing adds nothing. -/
theorem Writes.quiet {f : Driver} {cs : List Call} (h : Writes cs d e) (h' : Writes [] e f) :
    Writes cs d f :=
  ⟨by rw [h'.calls, h.calls, List.append_nil], h'.nextBuffer.trans h.nextBuffer⟩

/-- A call that may be refused is recorded in any case. -/
theorem writes_perform {α : Type} (d : Driver) (call : Call) (c : DriverCall)
    {effect : Driver → α × Driver} (h : ∀ e, Writes [] e (effect e).2) :
    Writes [call] d ((d.record call).perform c effect).2 := by
  rcases perform_cases (d.record call) c effect with ⟨code, -, he⟩ | he
  · rw [he]
    exact writes_record d call
  · rw [he]
    exact (writes_record d call).quiet (h _)

theorem writes_destroyBuffer (d : Driver) (b : Nat) :
    Writes [.destroyBuffer b] d (d.destroyBuffer b) := by
  have hrecord := writes_record d (.destroyBuffer b)
  unfold Driver.destroyBuffer
  dsimp only
  split
  · exact ⟨hrecord.calls, hrecord.nextBuffer⟩
  · exact ⟨hrecord.calls, hrecord.nextBuffer⟩

theorem writes_bindMemory (d : Driver) (b memory : Nat) :
    Writes [.bindBufferMemory b] d (bindMemory b memory d).2 := by
  refine writes_perform d _ _ fun e => ?_
  split
  · exact ⟨(List.append_nil _).symm, rfl⟩
  · exact ⟨(List.append_nil _).symm, rfl⟩

theorem writes_allocate (d : Driver) (size : Nat) (location : MemoryLocation) :
    Writes [] d (allocate size location d).2 := by
  rcases allocate_cases size location d with ⟨code, -, h⟩ | h
  · rw [h]
    exact ⟨(List.append_nil _).symm, rfl⟩
  · rw [h]
    exact ⟨(List.append_nil _).symm, rfl⟩

theorem writes_free (d : Driver) (memory : Nat) : Writes [] d (d.free memory) := by
  unfold Driver.free
  split
  · exact ⟨(List.append_nil _).symm, rfl⟩
  · exact ⟨(List.append_nil _).symm, rfl⟩

theorem writes_setBytes (d : Driver) (b : Nat) (bytes : ByteArray) :
    Writes [] d (d.setBytes b bytes) := by
  unfold Driver.setBytes
  split
  · exact ⟨(List.append_nil _).symm, rfl⟩
  · exact ⟨(List.append_nil _).symm, rfl⟩

theorem writes_allocateCommandBuffer (d : Driver) :
    Writes [.allocateCommandBuffers 0 1] d d.allocateCommandBuffer.2 :=
  writes_perform d _ _ fun _ => ⟨(List.append_nil _).symm, rfl⟩

theorem writes_freeCommandBuffer (d : Driver) (id : Nat) :
    Writes [.freeCommandBuffers 1] d (d.freeCommandBuffer id) := by
  have hrecord := writes_record d (.freeCommandBuffers 1)
  unfold freeCommandBuffer
  dsimp only
  split
  · exact ⟨hrecord.calls, hrecord.nextBuffer⟩
  · exact ⟨hrecord.calls, hrecord.nextBuffer⟩

/-- To make copies records nothing. -/
theorem writes_runCopies (cs : List CopyCommand) (d : Driver) :
    Writes [] d (cs.foldl runCopy d) := by
  have hregion (source target : Nat) (d : Driver) (r : CopyRegion) :
      Writes [] d (d.copyRegion source target r) := by
    unfold Driver.copyRegion
    split
    · split
      · exact writes_setBytes _ _ _
      · exact .refl d
    · exact .refl d
  have hcopy (c : CopyCommand) (d : Driver) : Writes [] d (d.runCopy c) := by
    unfold runCopy
    induction c.regions generalizing d with
    | nil => exact .refl d
    | cons r rest ih => exact (hregion _ _ d r).quiet (ih _)
  induction cs generalizing d with
  | nil => exact .refl d
  | cons c rest ih => exact (hcopy c d).quiet (ih _)

theorem writes_submit (d : Driver) (id : Nat) : Writes [.queueSubmit 1 1] d (submit id d).2 :=
  writes_perform d _ _ fun _ => writes_runCopies _ _

theorem ne_of_apart {x : Nat × Nat} (hb : b ∉ held.map (·.1)) (hx : x ∈ held) : x.1 ≠ b :=
  fun he => hb (List.mem_map.mpr ⟨x, hx, he⟩)

namespace Filed

theorem of_perm {held' : List (Nat × Nat)} (h : d.Filed care held) (hp : held.Perm held') :
    d.Filed care held' where
  documented := h.documented
  standing x hx := h.standing x (hp.mem_iff.mpr hx)
  old x hx := h.old x (hp.mem_iff.mpr hx)
  distinct := (hp.map _).nodup_iff.mp h.distinct

/-- A buffer that is held no longer is still there. -/
theorem tail {x : Nat × Nat} (h : d.Filed care (x :: held)) :
    d.Filed care held ∧ x.1 ∉ held.map (·.1) := by
  have hnodup := List.nodup_cons.mp h.distinct
  exact ⟨⟨h.documented, fun y hy => h.standing y (List.mem_cons_of_mem x hy),
    fun y hy => h.old y (List.mem_cons_of_mem x hy), hnodup.2⟩, hnodup.1⟩

theorem writes_nil (h : d.Filed care held) (hw : Writes [] d e) : e.Filed care held := by
  have hcalls : e.calls.toList = d.calls.toList := by rw [hw.calls, List.append_nil]
  refine ⟨hcalls ▸ h.documented, fun x hx => ?_, fun x hx => ?_, h.distinct⟩
  · rw [hcalls]
    exact h.standing x hx
  · rw [hw.nextBuffer]
    exact h.old x hx

/-- A call that is no copy, and leaves alone what is held. -/
theorem writes_one {c : Call} (h : d.Filed care held) (hw : Writes [c] d e)
    (hc : ∀ source target regions, c ≠ .copyBuffer source target regions)
    (htell : ∀ x ∈ held, c.tell (standings d.calls.toList) x.1 = standings d.calls.toList x.1) :
    e.Filed care held := by
  refine ⟨?_, fun x hx => ?_, fun x hx => ?_, h.distinct⟩
  · rw [hw.calls]
    exact h.documented.concat fun source target regions he => absurd he (hc source target regions)
  · rw [hw.calls, standings_concat, htell x hx]
    exact h.standing x hx
  · rw [hw.nextBuffer]
    exact h.old x hx

theorem writes_aside {c : Call} (h : d.Filed care held) (hw : Writes [c] d e) (hc : c.Aside) :
    e.Filed care held :=
  h.writes_one hw (fun _ _ _ he => by subst he; exact hc) fun x _ => by rw [hc.tell_eq]

/-- **A copy between buffers that are held.** -/
theorem recordCopy {c : CopyCommand} {m n : Nat} (h : d.Filed care held)
    (hs : (c.source, m) ∈ held) (ht : (c.target, n) ∈ held) (hsome : care.ranged → c.regions ≠ [])
    (hfit : ∀ r ∈ c.regions, r.Apt care m n) (id : Nat) :
    (d.recordCopy id c).Filed care held := by
  have hcalls : (d.recordCopy id c).calls.toList =
      d.calls.toList ++ [.copyBuffer c.source c.target c.regions] := Array.toList_push ..
  refine ⟨?_, fun x hx => ?_, h.old, h.distinct⟩
  · rw [hcalls]
    refine h.documented.concat fun source target regions he => ?_
    cases he
    exact ⟨hsome, m, n, h.standing _ hs, h.standing _ ht, hfit⟩
  · rw [hcalls, standings_concat]
    exact h.standing x hx

/-- **A buffer that is released is held no longer.** -/
theorem destroyBuffer (h : d.Filed care held) (hb : b ∉ held.map (·.1)) :
    (d.destroyBuffer b).Filed care held := by
  refine h.writes_one (writes_destroyBuffer d b) (fun _ _ _ => nofun) fun x hx => ?_
  exact Function.update_of_ne (ne_of_apart hb hx) _ _

/-- A buffer that is made has a number of its own; one that is refused leaves a call behind. -/
theorem createBuffer (h : d.Filed care held) (size usage : Nat) :
    match (Driver.createBuffer size usage d).1 with
    | .ok b => (Driver.createBuffer size usage d).2.Drafted care b size held
    | .error _ => (Driver.createBuffer size usage d).2.Filed care held := by
  have hnew : d.nextBuffer ∉ held.map (·.1) := fun hmem => by
    obtain ⟨x, hx, he⟩ := List.mem_map.mp hmem
    exact absurd (h.old x hx) (he ▸ Nat.lt_irrefl _)
  have hrecorded : (d.record (.createBuffer d.nextBuffer size usage 0)).Filed care held := by
    refine h.writes_one (writes_record d _) (fun _ _ _ => nofun) fun x hx => ?_
    exact Function.update_of_ne (ne_of_apart hnew hx) _ _
  rcases createBuffer_cases size usage d with ⟨code, -, he⟩ | he
  · rw [he]
    exact hrecorded
  · rw [he]
    refine ⟨⟨hrecorded.documented, hrecorded.standing, fun x hx => Nat.lt_succ_of_lt (h.old x hx),
      h.distinct⟩, ?_, Nat.lt_succ_self _, hnew⟩
    have hcalls := (writes_record d (.createBuffer d.nextBuffer size usage 0)).calls
    show standings (d.record _).calls.toList _ = _
    rw [hcalls, standings_concat]
    exact Function.update_self _ _ _

end Filed

/-- Memory that is had is not in the record. -/
theorem Drafted.allocate (h : d.Drafted care b size held) (n : Nat) (location : MemoryLocation) :
    (Driver.allocate n location d).2.Drafted care b size held := by
  have hw := writes_allocate d n location
  have hcalls : (Driver.allocate n location d).2.calls.toList = d.calls.toList := by
    rw [hw.calls, List.append_nil]
  refine ⟨h.toFiled.writes_nil hw, ?_, ?_, h.apart⟩
  · rw [hcalls]
    exact h.draft
  · rw [hw.nextBuffer]
    exact h.made

/-- **A buffer that is bound to memory is held**, until it is released where that was refused. -/
theorem Drafted.bindMemory (h : d.Drafted care b size held) (memory : Nat) :
    (Driver.bindMemory b memory d).2.Filed care ((b, size) :: held) := by
  have hw := writes_bindMemory d b memory
  have hothers : (Driver.bindMemory b memory d).2.Filed care held := by
    refine h.toFiled.writes_one hw (fun _ _ _ => nofun) fun x hx => ?_
    exact Function.update_of_ne (ne_of_apart h.apart hx) _ _
  have hbound : standings (Driver.bindMemory b memory d).2.calls.toList b = some ⟨size, true⟩ := by
    rw [hw.calls, standings_concat]
    refine (Function.update_self _ _ _).trans ?_
    rw [h.draft]
    rfl
  refine ⟨hothers.documented, List.forall_mem_cons.mpr ⟨hbound, hothers.standing⟩,
    List.forall_mem_cons.mpr ⟨?_, hothers.old⟩, List.nodup_cons.mpr ⟨h.apart, hothers.distinct⟩⟩
  rw [hw.nextBuffer]
  exact h.made

end Driver

end Vulkan

/-! ## 3. The queue -/

namespace VulkanQueue

variable {care : Care} {held : List (Nat × Nat)} {α : Type} {o : BoundBuffer} {n : Nat}
  {record : Nat → Driver → Driver}

/-- A record that was in order is in order, and says the same of the buffers `held`. -/
def Files (care : Care) (held : List (Nat × Nat)) (c e : VulkanQueue) : Prop :=
  c.driver.Filed care held → e.driver.Filed care held

instance : IsPreorder VulkanQueue (Files care held) where
  refl _ h := h
  trans _ _ _ h h' := h' ∘ h

/-- Only a record that was in order counts. -/
theorem files_of_filed {a : Attempt VulkanQueue α} (h : ∀ c : VulkanQueue,
    c.driver.Filed care held → a.Ends c fun _ e => e.driver.Filed care held) :
    a.Relates (Files care held) := fun c j hc => h c hc j

theorem tryCall_files {k : DriverCall} {f : Driver → Except String α × Driver} {call : Vulkan.Call}
    (hf : ∀ d : Driver, d.Writes [call] (f d).2) (hcall : call.Aside) :
    (tryCall k f).Relates (Files care held) := fun c _ =>
  wp_tryCall (fun _ _ h => h.writes_aside (hf c.driver) hcall)
    fun _ _ _ _ h => h.writes_aside (hf c.driver) hcall

theorem run_files {f : Driver → Driver}
    (hf : ∀ d : Driver, d.Filed care held → (f d).Filed care held) :
    (run f).Relates (Files care held) := fun c _ => hf c.driver

/-- A buffer that is released is held no longer. -/
theorem releaseBuffer_filed {c : VulkanQueue} (h : c.driver.Filed care ((o.buffer, n) :: held)) :
    (releaseBuffer o).Ends c fun _ e => e.driver.Filed care held := by
  intro j
  unfold releaseBuffer
  simp only [Step.wp_bind, wp_run]
  have hfreed := (h.writes_nil (Driver.writes_free c.driver o.memory)).tail
  exact hfreed.1.destroyBuffer hfreed.2

/-- **A new buffer is held with the size that was asked for**; a failure, wherever it comes, leaves
    nothing that is held. -/
theorem makeBuffer_filed {c : VulkanQueue} (h : c.driver.Filed care held) (size usage : Nat)
    (location : MemoryLocation) : (makeBuffer size usage location).Ends c fun r e =>
      match r with
      | .ok o => o.size = size ∧ e.driver.Filed care ((o.buffer, o.size) :: held)
      | .error _ => e.driver.Filed care held := by
  intro j
  unfold makeBuffer
  rw [Attempt.wp_bind]
  have hcreated := h.createBuffer size usage
  refine wp_tryCall (fun b hok => ?_) fun code herror _ _ => ?_
  · rw [hok] at hcreated
    unfold allocateMemory
    simp only [Attempt.wp_bind, Attempt.wp_always, Attempt.wp_outcome, wp_call]
    have hgranted := hcreated.allocate size location
    cases (Driver.allocate size location (Driver.createBuffer size usage c.driver).2).1 with
    | error code =>
      simp only [Attempt.wp_bind, Attempt.wp_note, Attempt.wp_throw, Attempt.wp_always, wp_run]
      exact hgranted.toFiled.destroyBuffer hgranted.apart
    | ok memory =>
      simp only [Attempt.wp_pure, Attempt.wp_bind]
      unfold bindBuffer
      simp only [Attempt.wp_bind, Attempt.wp_always, wp_call]
      have hbound := hgranted.bindMemory memory
      cases (Driver.bindMemory b memory (Driver.allocate size location
          (Driver.createBuffer size usage c.driver).2).2).1 with
      | ok _ => exact ⟨trivial, hbound⟩
      | error code =>
        simp only [Attempt.wp_bind, Attempt.wp_always, Attempt.wp_refuse]
        exact (releaseBuffer_filed (c := { c with driver := _ }) (o := ⟨b, memory, size⟩) hbound).wp
          fun _ _ _ he => he
  · rw [herror] at hcreated
    exact hcreated

/-- **A command buffer files what is recorded in it**, and nothing else that matters. -/
theorem submitOnce_files
    (hrecord : ∀ id (d : Driver), d.Filed care held → (record id d).Filed care held) :
    (submitOnce record).Relates (Files care held) := by
  have hrun (id : Nat) : (runCommands id record).Relates (Files care held) := by
    have hanswer (d : Driver) (call : Vulkan.Call) (k : DriverCall) :
        d.Writes [call] ((d.record call).perform k fun e => ((), e)).2 :=
      Driver.writes_perform d call k fun e => .refl e
    exact .bind (tryCall_files (fun d => hanswer d _ _) trivial) fun _ =>
      .bind (.always (run_files (hrecord id))) fun _ =>
      .bind (tryCall_files (fun d => hanswer d _ _) trivial) fun _ =>
      .bind (tryCall_files (fun d => Driver.writes_submit d id) trivial) fun _ =>
      .bind (tryCall_files (fun d => hanswer d _ _) trivial) fun _ => .note _
  have hfree (id : Nat) : (run (Driver.freeCommandBuffer id)).Relates (Files care held) :=
    run_files fun d h => h.writes_aside (Driver.writes_freeCommandBuffer d id) trivial
  exact .bind (tryCall_files Driver.writes_allocateCommandBuffer trivial) fun id =>
    .bind (.always (.outcome (hrun id))) fun _ => .bind (.always (hfree id)) fun _ => .answer _

end VulkanQueue

/-! ## 4. Transfers -/

namespace VulkanDevice

open VulkanQueue

variable {care : Care} {held : List (Nat × Nat)} {α : Type} {ranges : List ByteRange}
  {source target base sourceBase targetBase m n : Nat} {regions : List CopyRegion}

/-- The regions out of a staging buffer that has room for all ranges. -/
theorem regionsOut_apt (hroom : totalSize ranges ≤ m) (hfit : ∀ r ∈ ranges, base + r.stop ≤ n)
    (hfull : care.full → ∀ r ∈ ranges, 0 < r.size) :
    ∀ r ∈ regionsOut base ranges, r.Apt care m n := by
  intro r hr
  refine ⟨regionsOut_fit hroom r hr, ?_, ?_⟩
  all_goals
    obtain ⟨p, hp, rfl⟩ := List.mem_map.mp hr
    have hmem : p.2 ∈ ranges := map_packed 0 ranges ▸ List.mem_map_of_mem hp
  · have hstop := hfit p.2 hmem
    unfold ByteRange.stop at hstop
    show base + p.2.offset + p.2.size ≤ n
    omega
  · exact fun hf => hfull hf p.2 hmem

/-- The regions into a staging buffer that has room for all ranges. -/
theorem regionsIn_apt (hroom : totalSize ranges ≤ n) (hfit : ∀ r ∈ ranges, base + r.stop ≤ m)
    (hfull : care.full → ∀ r ∈ ranges, 0 < r.size) :
    ∀ r ∈ regionsIn base ranges, r.Apt care m n := by
  intro r hr
  refine ⟨regionsIn_fit hfit r hr, ?_, ?_⟩
  all_goals obtain ⟨p, hp, rfl⟩ := List.mem_map.mp hr
  · have hplace := packed_fits hp
    show p.1 + p.2.size ≤ n
    omega
  · exact fun hf => hfull hf p.2 (map_packed 0 ranges ▸ List.mem_map_of_mem hp)

/-- A staging buffer is held while it is used. -/
theorem withStaging_files {size : Nat} {location : MemoryLocation}
    {use : BoundBuffer → Attempt VulkanQueue α}
    (huse : ∀ o : BoundBuffer, size ≤ o.size →
      (use o).Relates (Files care ((o.buffer, o.size) :: held))) :
    (withStaging size location use).Relates (Files care held) := by
  refine files_of_filed fun c h j => ?_
  unfold withStaging stagingBuffer
  rw [Attempt.wp_bind]
  refine (makeBuffer_filed h _ _ _).wp fun r e k he => ?_
  cases r with
  | error _ => exact he
  | ok o =>
    obtain ⟨hsize, hheld⟩ := he
    simp only [Attempt.wp_bind, Attempt.wp_always, Attempt.wp_outcome, Attempt.wp_answer]
    refine (huse o (by rw [hsize]; exact Nat.le_max_left _ _) e).wp fun r e' k' he' => ?_
    exact (releaseBuffer_filed (he' hheld)).wp fun _ _ _ hreleased => hreleased

/-- **A copy is filed that has a region**, and without one nothing is. -/
theorem submitCopy_files (hs : (source, m) ∈ held) (ht : (target, n) ∈ held)
    (hfit : ∀ r ∈ regions, r.Apt care m n) :
    (submitCopy source target regions).Relates (Files care held) := by
  unfold submitCopy
  split
  · exact .pure _
  · rename_i hsome
    exact submitOnce_files fun id d h =>
      h.recordCopy hs ht (fun _ he => hsome (List.isEmpty_iff.mpr he)) hfit id

/-- What follows may count on the ranges being within the source and the target. -/
theorem requireRanges_files {rest : Attempt VulkanQueue α}
    (h : (∀ r ∈ ranges, sourceBase + r.stop ≤ m) → (∀ r ∈ ranges, targetBase + r.stop ≤ n) →
      rest.Relates (Files care held)) :
    (requireRanges sourceBase m targetBase n ranges >>= fun _ => rest).Relates
      (Files care held) := by
  unfold requireRanges
  split
  · intro c j
    rw [Attempt.wp_bind, Attempt.wp_refuse]
    exact refl_of (Files care held) c
  · rename_i hnone
    obtain ⟨hsource, htarget⟩ := outside?_eq_none_iff.mp hnone
    exact h hsource htarget

theorem stagingBytes_files (o : BoundBuffer) : (stagingBytes o).Relates (Files care held) := by
  refine .bind .get fun c => ?_
  split
  · exact .pure _
  · exact .refuse _ _

theorem setBytes_files (b : Nat) (bytes : ByteArray) :
    (VulkanQueue.run (·.setBytes b bytes)).Relates (Files care held) :=
  run_files fun d h => h.writes_nil (Driver.writes_setBytes d b bytes)

variable {o into : BoundBuffer} {data : ByteArray}

theorem store_files (ho : (o.buffer, o.size) ∈ held)
    (hfull : care.full → ∀ r ∈ ranges, 0 < r.size) :
    (store o base data ranges).Relates (Files care held) := by
  refine requireRanges_files fun _ htarget => .bind .get fun c => ?_
  split
  · exact .always (setBytes_files _ _)
  · exact withStaging_files fun staging hroom => .bind (stagingBytes_files staging) fun _ =>
      .bind (.always (setBytes_files _ _)) fun _ =>
        submitCopy_files List.mem_cons_self (List.mem_cons_of_mem _ ho)
          (regionsOut_apt hroom htarget hfull)

theorem fetch_files (ho : (o.buffer, o.size) ∈ held)
    (hfull : care.full → ∀ r ∈ ranges, 0 < r.size) :
    (fetch o base data ranges).Relates (Files care held) := by
  refine requireRanges_files fun hsource _ => .bind .get fun c => ?_
  split
  · exact .pure _
  · exact withStaging_files fun staging hroom =>
      .bind (submitCopy_files (List.mem_cons_of_mem _ ho) List.mem_cons_self
        (regionsIn_apt hroom hsource hfull)) fun _ =>
      .bind (stagingBytes_files staging) fun _ => .pure _

/-- Within one object two copies are filed, without a look at how many ranges there are. -/
theorem copyInside_files (ho : (o.buffer, o.size) ∈ held) (hsome : care.ranged → ranges ≠ [])
    (htarget : ∀ r ∈ ranges, targetBase + r.stop ≤ o.size)
    (hsource : ∀ r ∈ ranges, sourceBase + r.stop ≤ o.size)
    (hfull : care.full → ∀ r ∈ ranges, 0 < r.size) :
    (copyInside o targetBase sourceBase ranges).Relates (Files care held) := by
  refine withStaging_files fun staging hroom => submitOnce_files fun id d h => ?_
  have hregions {f : Nat × ByteRange → CopyRegion} :
      care.ranged → (packed 0 ranges).map f ≠ [] := fun hranged he => by
    have hranges := map_packed 0 ranges
    rw [List.map_eq_nil_iff.mp he] at hranges
    exact hsome hranged hranges.symm
  have hin := h.recordCopy (c := ⟨o.buffer, staging.buffer, regionsIn sourceBase ranges⟩)
    (List.mem_cons_of_mem _ ho) List.mem_cons_self hregions (regionsIn_apt hroom hsource hfull) id
  have hbarrier := hin.writes_aside (Driver.writes_record _ _) (e := stagingBarrier _) trivial
  exact hbarrier.recordCopy (c := ⟨staging.buffer, o.buffer, regionsOut targetBase ranges⟩)
    List.mem_cons_self (List.mem_cons_of_mem _ ho) hregions (regionsOut_apt hroom htarget hfull) id

theorem copyAcross_files (hinto : (into.buffer, into.size) ∈ held) (ho : (o.buffer, o.size) ∈ held)
    (htarget : ∀ r ∈ ranges, targetBase + r.stop ≤ into.size)
    (hsource : ∀ r ∈ ranges, sourceBase + r.stop ≤ o.size)
    (hfull : care.full → ∀ r ∈ ranges, 0 < r.size) :
    (copyAcross into o targetBase sourceBase ranges).Relates (Files care held) := by
  refine submitCopy_files ho hinto fun r hr => ?_
  obtain ⟨q, hq, rfl⟩ := List.mem_map.mp hr
  have hin := hsource q hq
  have hout := htarget q hq
  unfold ByteRange.stop at hin hout
  refine ⟨?_, ?_, fun hf => hfull hf q hq⟩
  · show sourceBase + q.offset + q.size ≤ o.size
    omega
  · show targetBase + q.offset + q.size ≤ into.size
    omega

/-! ## 5. Devices -/

variable {d : VulkanDevice} {c : VulkanQueue} {a : ObjectHandle}

/-- The buffers of all objects, with their sizes. -/
def holdings (d : VulkanDevice) : List (Nat × Nat) :=
  d.objects.rows.map fun row => (row.2.buffer, row.2.size)

/-- **The record of the device is in order**, and says of the buffer of each object that it is
    there. -/
structure Filed (care : Care) (d : VulkanDevice) : Prop where
  filed : d.driver.Filed care d.holdings
  handles : d.objects.keys.Nodup
  issued : ∀ k ∈ d.objects.keys, k < d.nextHandle

theorem filed_new {queue : VulkanQueue} (h : queue.driver.Filed care []) (caps : Capabilities) :
    (VulkanDevice.new queue caps).Filed care := ⟨h, .nil, nofun⟩

theorem mem_holdings (ho : d.object? a = some o) : (o.buffer, o.size) ∈ d.holdings :=
  List.mem_map_of_mem (Balanced.mem_of_object? ho)

namespace Filed

/-- The queue works on, and the objects stay. -/
theorem onQueue (h : d.Filed care) (hc : Files care d.holdings d.queue c) :
    Filed care { d with queue := c } := ⟨hc h.filed, h.handles, h.issued⟩

/-- One more object, which the driver has made. -/
theorem insert (h : d.Filed care) (hc : c.driver.Filed care ((o.buffer, o.size) :: d.holdings)) :
    Filed care { d with
      queue := c, nextHandle := d.nextHandle + 1, objects := d.objects.insert d.nextHandle o } := by
  have hnew : d.nextHandle ∉ d.objects.rows.map (·.1) :=
    Driver.Books.fresh h.issued (Nat.le_refl _)
  have hperm : (d.objects.insert d.nextHandle o).rows.Perm
      ((d.nextHandle, o) :: d.objects.rows) := Table.perm_put hnew o
  have hheld := hperm.map fun row : Nat × BoundBuffer => (row.2.buffer, row.2.size)
  have hkeys := hperm.map (·.1)
  exact ⟨hc.of_perm hheld.symm,
    hkeys.nodup_iff.mpr (List.nodup_cons.mpr ⟨hnew, h.handles⟩),
    fun k hk => Driver.Books.old_cons h.issued k (hkeys.mem_iff.mp hk)⟩

/-- An object given up, which the driver has released. -/
theorem erase (h : d.Filed care) (ho : d.object? a = some o)
    (hc : ∀ held, d.driver.Filed care ((o.buffer, o.size) :: held) → c.driver.Filed care held) :
    Filed care { d with queue := c, objects := d.objects.erase a.number } := by
  have hperm : d.objects.rows.Perm ((a.number, o) :: (d.objects.erase a.number).rows) :=
    Table.perm_remove ho h.handles
  have hheld := hperm.map fun row : Nat × BoundBuffer => (row.2.buffer, row.2.size)
  have hkeys := hperm.map (·.1)
  exact ⟨hc _ (h.filed.of_perm hheld),
    (List.nodup_cons.mp (hkeys.nodup_iff.mp h.handles)).2,
    fun k hk => h.issued k (hkeys.mem_iff.mpr (List.mem_cons_of_mem _ hk))⟩

end Filed

/-- What follows may count on the object being there. -/
theorem known_files {f : BoundBuffer → Attempt VulkanQueue α}
    (h : ∀ o, d.object? a = some o → (f o).Relates (Files care d.holdings)) :
    (d.known a >>= f).Relates (Files care d.holdings) := by
  unfold known
  cases ho : d.object? a with
  | none =>
    intro c j
    rw [Attempt.wp_bind, Attempt.wp_refuse]
    exact refl_of (Files care d.holdings) c
  | some o => exact h o ho

theorem transferBetween_files {into source : ObjectHandle}
    (hsome : care.ranged → into = source → ranges ≠ [])
    (hfull : care.full → ∀ r ∈ ranges, 0 < r.size) :
    (d.transferBetween into targetBase source sourceBase ranges).Relates
      (Files care d.holdings) := by
  refine known_files fun p hp => known_files fun o ho =>
    requireRanges_files fun hsource htarget => ?_
  split
  · rename_i hsame
    subst hsame
    cases hp.symm.trans ho
    exact copyInside_files (mem_holdings ho) (fun h => hsome h rfl) htarget hsource hfull
  · exact copyAcross_files (mem_holdings hp) (mem_holdings ho) htarget hsource hfull

/-- **A transfer files proper copies**, whether it fails or not. -/
theorem transferOn_files {target : TransferTarget} {source : TransferSource}
    (h : Device.Carries care target source ranges) :
    (d.transferOn target source ranges).Relates (Files care d.holdings) := by
  unfold transferOn
  split
  · exact .bind (.outcome (known_files fun o ho =>
      store_files (mem_holdings ho) h.filled)) fun _ => .pure _
  · refine .bind (.outcome (known_files fun o ho =>
      fetch_files (mem_holdings ho) h.filled)) fun r => ?_
    split
    · exact .pure _
    · exact .pure _
  · rename_i into targetBase a sourceBase
    have hsome : care.ranged → into = a → ranges ≠ [] := fun hranged he =>
      h.ranged hranged into targetBase sourceBase rfl (by rw [he])
    exact .bind (.outcome (transferBetween_files hsome h.filled)) fun _ => .pure _
  · split
    · exact .pure _
    · exact .bind (.outcome (.refuse _ _)) fun _ => .pure _

theorem releaseIdle_filed (a : ObjectHandle)
    (h : c.driver.Filed care ((o.buffer, n) :: held)) :
    (releaseIdle a o).Ends c fun _ e => e.driver.Filed care held := by
  intro j
  unfold releaseIdle
  rw [Step.wp_bind, VulkanQueue.wp_call]
  have hwaited : (Driver.waitQueueIdle c.driver).2.Filed care ((o.buffer, n) :: held) :=
    h.writes_aside (Driver.writes_perform c.driver .queueWaitIdle .waitQueueIdle fun e => .refl e)
      trivial
  have hreleased := releaseBuffer_filed (c := { c with driver := _ }) hwaited
  -- the object is released whether the wait fails or not
  cases (Driver.waitQueueIdle c.driver).1 with
  | ok _ => exact hreleased.wp fun _ _ _ he => he
  | error code =>
    simp only [Step.wp_bind, Step.wp_note]
    exact hreleased.wp fun _ _ _ he => he

namespace Filed

theorem transfer (h : d.Filed care) {target : TransferTarget} {source : TransferSource}
    (hcarries : Device.Carries care target source ranges) (flags : MapFlags) :
    (VulkanDevice.transfer target source ranges flags).Ends d fun _ e => e.Filed care := by
  intro j
  unfold VulkanDevice.transfer VulkanDevice.onQueue
  simp only [Step.wp_bind, Step.wp_note, Step.wp_get, Step.wp_onPart]
  exact (transferOn_files hcarries d.queue).wp fun _ c _ hc => h.onQueue hc

theorem makeObject (h : d.Filed care) (request : ObjectRequest) :
    (VulkanDevice.makeObject request).Ends d fun _ e => e.Filed care := by
  intro j
  unfold VulkanDevice.makeObject
  simp only [Attempt.wp_bind, Attempt.wp_onPart]
  refine (makeBuffer_filed h.filed _ _ _).wp fun r c k hpost => ?_
  cases r with
  | error _ => exact h.onQueue fun _ => hpost
  | ok o =>
    simp only [Attempt.wp_get, Attempt.wp_note, Attempt.wp_set, Attempt.wp_pure]
    exact h.insert hpost.2

theorem freeObject (h : d.Filed care) (a : ObjectHandle) :
    (VulkanDevice.freeObject a).Ends d fun _ e => e.Filed care := by
  intro j
  unfold VulkanDevice.freeObject VulkanDevice.onQueue
  simp only [Step.wp_bind, Step.wp_modify, Step.wp_get]
  cases ho : object? { d with capture := if d.capture = some a then none else d.capture } a with
  | none => exact ⟨h.filed, h.handles, h.issued⟩
  | some o =>
    simp only [Step.wp_bind, Step.wp_set, Step.wp_onPart]
    have hgone := h.erase (a := a) (c := ((releaseIdle a o) d.queue j).1.2) ho fun _ hheld =>
      releaseIdle_filed a hheld j
    exact ⟨hgone.filed, hgone.handles, hgone.issued⟩

theorem openMapping (h : d.Filed care) (a : ObjectHandle) (offset size : Nat) (flags : MapFlags) :
    (VulkanDevice.openMapping a offset size flags).Ends d fun _ e => e.Filed care := by
  intro j
  unfold VulkanDevice.openMapping
  simp only [Attempt.wp_bind, Attempt.wp_get]
  split
  · exact h
  · split
    · exact h
    · split
      · exact h
      · split
        · have hwait : (tryCall .waitQueueIdle Driver.waitQueueIdle).Relates
              (Files care d.holdings) := tryCall_files (fun e =>
            Driver.writes_perform e .queueWaitIdle .waitQueueIdle fun e => .refl e) trivial
          simp only [Attempt.wp_bind, Attempt.wp_onPart]
          refine (hwait d.queue).wp fun r c k hc => ?_
          cases r with
          | error _ => exact h.onQueue hc
          | ok _ => exact h.onQueue hc
        · exact h

/-- A barrier copies nothing. -/
theorem recordBarrier (h : d.Filed care) (b : Barrier) :
    (VulkanDevice.recordBarrier b).Ends d fun _ e => e.Filed care := by
  intro j
  unfold VulkanDevice.recordBarrier VulkanDevice.onQueue
  simp only [Step.wp_bind, Step.wp_get]
  split
  · exact h
  · rename_i o ho
    simp only [Step.wp_bind, Step.wp_onPart, Attempt.wp_outcome]
    have hsubmit : (submitOnce fun _ => Driver.recordBarrier (Vulkan.stageMask b.source)
        (Vulkan.stageMask b.target) [] [⟨Vulkan.accessMask b.source, Vulkan.accessMask b.target,
          ignoredFamily, ignoredFamily, o.buffer, b.offset, b.size⟩]).Relates
            (Files care d.holdings) :=
      submitOnce_files fun _ e he => he.writes_aside (Driver.writes_record e _) trivial
    refine (hsubmit d.queue).wp fun r c k hc => ?_
    cases r with
    | error _ => exact h.onQueue hc
    | ok _ => exact h.onQueue hc

theorem poke (h : d.Filed care) (a : ObjectHandle) (position : Nat) (data : ByteArray) :
    (VulkanDevice.poke a position data d).Filed care := by
  unfold VulkanDevice.poke
  split
  · split
    · exact h.onQueue fun hc => hc.writes_nil (Driver.writes_setBytes _ _ _)
    · exact h
  · exact h

theorem refusing (h : d.Filed care) (refused : List (DriverCall × String)) :
    (d.refusing refused).Filed care :=
  h.onQueue fun hc => ⟨hc.documented, hc.standing, hc.old, hc.distinct⟩

theorem beginCapture (h : d.Filed care) (a : ObjectHandle) : (d.beginCapture a).Filed care :=
  ⟨h.filed, h.handles, h.issued⟩

/-- **Whatever a device is asked, its record stays in order.** -/
theorem serves {e : VulkanDevice} (h : d.Filed care) (hs : Device.Serves care d e) :
    e.Filed care := by
  cases hs with
  | made request j => exact h.makeObject request j
  | freed a j => exact h.freeObject a j
  | transferred hcarries flags j => exact h.transfer hcarries flags j
  | opened a offset size flags j => exact h.openMapping a offset size flags j
  | closed a ranges j =>
    show (VulkanDevice.closeMapping a ranges).wp d j fun _ e _ => e.Filed care
    unfold VulkanDevice.closeMapping
    simp only [Step.wp_bind, Step.wp_get, Step.wp_ite, Step.wp_note, ite_self]
    exact h
  | fenced b j => exact h.recordBarrier b j
  | captured j => exact ⟨h.filed, h.handles, h.issued⟩
  | poked a position data => exact h.poke a position data

theorem served {e : VulkanDevice} (h : d.Filed care)
    (hs : Relation.ReflTransGen (Device.Serves care) d e) : e.Filed care := by
  induction hs with
  | refl => exact h
  | tail _ hs ih => exact ih.serves hs

end Filed

/-- A queue that was started has recorded no copy yet. -/
theorem filed_start (care : Care) (present : Bool) (family : Nat)
    (refused : List (DriverCall × String)) (lends : Nat → Bool) :
    (VulkanQueue.start present family).Ends { Driver.new with failing := refused, lends } fun r _ =>
      ∀ queue, r = .ok queue → queue.driver.Filed care [] := by
  have hnew : Driver.Filed care [] { Driver.new with failing := refused, lends } :=
    ⟨Vulkan.documented_nil, nofun, nofun, .nil⟩
  have hpool : (Driver.createCommandPool family
      { Driver.new with failing := refused, lends }).2.Filed care [] :=
     hnew.writes_aside (Driver.writes_perform _ _ _ fun e => .refl e) trivial
  refine (VulkanQueue.start_ends _ present family).mono fun r _ h queue hqueue => ?_
  rw [h queue hqueue]
  exact hpool.writes_aside (Driver.writes_record _ _) trivial

end VulkanDevice

end BufferCoherence
