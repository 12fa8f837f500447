import BufferCoherence.Proofs.Readback
import BufferCoherence.Proofs.Transfers

/-!
# Devices that are faithful

What a device promises about the bytes it is given, while any call of it may fail (`Faithful`): an
object stores one run of bytes; a new object has room for what was asked for; a transfer into an
object changes its ranges alone, and copies all of them unless it fails; to map an object changes
nothing. Nothing is promised about whether a call succeeds, nor
about what a new object holds.

* the memory device copies all ranges of a transfer or none;
* the Vulkan device does so too, whichever of its calls the driver refuses, and whether the bytes
  go through a staging buffer or not.
-/

namespace BufferCoherence

open Vulkan (Driver MemoryLocation)
open VulkanDevice (copyRanges byteAt?_copyRanges size_copyRanges)

/-- In the ranges, counted from `base`, `new` holds what the source holds, and elsewhere what `old`
    holds; only the latter where the copy is not complete. -/
structure CopiedInto (base : Nat) (ranges : List ByteRange) (data old new : ByteArray)
    (complete : Prop) : Prop where
  size : new.size = old.size
  outside : ∀ i, ¬ CoveredBy ranges i →
    Bytes.byteAt? new (base + i) = Bytes.byteAt? old (base + i)
  inside : complete → ∀ i, CoveredBy ranges i →
    Bytes.byteAt? new (base + i) = Bytes.byteAt? data i

/-- **A device that is faithful about bytes**, whichever of its calls fail. -/
class Faithful (δ : Type) [Device δ] extends ReadsBack δ where
  /-- An object stores one run of bytes. -/
  unique {d : δ} {h : ObjectHandle} {bytes bytes' : ByteArray} (stored : Stores d h bytes)
    (stored' : Stores d h bytes') : bytes = bytes'
  /-- A new object has room for what was asked for. -/
  made (d : δ) (request : ObjectRequest) : (Device.makeObject request).Ends d fun r e =>
    ∀ a, r = .ok a → ∃ bytes, Stores e a.handle bytes ∧ a.offset + request.size ≤ bytes.size
  /-- A transfer into an object changes its ranges alone. -/
  filled {d : δ} {h : ObjectHandle} {old data : ByteArray} {base : Nat} {ranges : List ByteRange}
    (stored : Stores d h old) (fits : base + data.size ≤ old.size)
    (bounded : ∀ r ∈ ranges, r.stop ≤ data.size) (flags : MapFlags) :
    (Device.transfer (.object h base) (.host data) ranges flags).Ends d fun reply e =>
      ∃ new, Stores e h new ∧ CopiedInto base ranges data old new (reply.outcome = .ok ())
  /-- To map an object leaves all bytes alone. -/
  opened {d : δ} {h : ObjectHandle} {bytes : ByteArray} (stored : Stores d h bytes)
    (a : ObjectHandle) (offset size : Nat) (flags : MapFlags) :
    (Device.openMapping a offset size flags).Ends d fun _ e => Stores e h bytes

/-! ## 1. Copies of ranges -/

namespace CopiedInto

variable {base : Nat} {ranges : List ByteRange} {data old : ByteArray}

/-- Nothing was copied. -/
theorem none {complete : Prop} (h : ¬ complete) : CopiedInto base ranges data old old complete :=
  ⟨rfl, fun _ _ => rfl, fun hc => absurd hc h⟩

/-- All ranges were copied. -/
theorem all (complete : Prop) (hfit : base + data.size ≤ old.size)
    (hinside : ∀ r ∈ ranges, r.stop ≤ data.size) :
    CopiedInto base ranges data old (copyRanges data 0 base ranges old) complete := by
  have hbyte (i : Nat) : Bytes.byteAt? (copyRanges data 0 base ranges old) i =
      if base ≤ i ∧ CoveredBy ranges (i - base) then Bytes.byteAt? data (0 + (i - base))
      else Bytes.byteAt? old i := by
    refine byteAt?_copyRanges (fun r hr => ?_) (fun r hr => ?_) i
    · rw [Nat.zero_add]
      exact hinside r hr
    · have := hinside r hr
      omega
  refine ⟨size_copyRanges _ _ _ _ _, fun i hi => ?_, fun _ i hi => ?_⟩
  · rw [hbyte, if_neg fun h => hi (by simpa using h.2)]
  · rw [hbyte, if_pos ⟨Nat.le_add_right _ _, by simpa using hi⟩]
    simp

end CopiedInto

/-! ## 2. The memory device -/

instance : Faithful MemoryDevice where
  unique stored stored' := Option.some.inj (stored.symm.trans stored')
  made d request := (MemoryDevice.makeObject_ends d request).mono fun r e hpost a ha => by
    rcases hpost with ⟨rfl, -, hadds⟩ | ⟨⟨f, rfl⟩, -⟩
    · cases ha
      refine ⟨_, hadds.bytes, ?_⟩
      rw [Bytes.size_zeros]
      exact Nat.le_of_eq (Nat.zero_add _)
    · cases ha
  filled {d h old data base ranges} stored fits bounded flags := by
    have hfrom (r : ByteRange) (hr : r ∈ ranges) : 0 + r.stop ≤ data.size := by
      have := bounded r hr
      omega
    have hto (r : ByteRange) (hr : r ∈ ranges) : base + r.stop ≤ old.size := by
      have := bounded r hr
      omega
    have hobject : (TransferTarget.object h base).writes? d.bytes? = some (old, base) := by
      show (d.bytes? h).map (·, base) = _
      rw [show d.bytes? h = some old from stored]
      rfl
    have hhost : (TransferSource.host data).reads? d.bytes? = some (data, 0) := rfl
    refine (MemoryDevice.transfer_delivers hhost hobject hfrom hto flags).mono
      fun reply e hpost => ?_
    obtain ⟨⟨-, -, hbytes, -⟩, -⟩ := hpost
    exact ⟨_, hbytes, .all _ fits bounded⟩
  opened {d h bytes} stored a offset size flags :=
    (MemoryDevice.openMapping_untouched d a offset size flags).mono fun _ e he =>
      (he.bytes h).trans stored

/-! ## 3. The Vulkan device -/

namespace Vulkan.Driver

/-- To bind a buffer makes neither buffers nor memory. -/
theorem bindMemory_numbers (buffer memory : Nat) (d : Driver) :
    (bindMemory buffer memory d).2.nextBuffer = d.nextBuffer ∧
      (bindMemory buffer memory d).2.nextMemory = d.nextMemory := by
  unfold bindMemory
  rcases perform_cases (d.record (.bindBufferMemory buffer)) .bindMemory _ with ⟨code, -, h⟩ | h
  · rw [h]
    exact ⟨rfl, rfl⟩
  · rw [h]
    dsimp only
    split
    · exact ⟨rfl, rfl⟩
    · exact ⟨rfl, rfl⟩

end Vulkan.Driver

namespace VulkanQueue

theorem bindBuffer_numbers (c : VulkanQueue) (o : BoundBuffer) :
    (bindBuffer o).Ends c fun r e => r = .ok () →
      e.driver.nextBuffer = c.driver.nextBuffer ∧ e.driver.nextMemory = c.driver.nextMemory := by
  intro j
  unfold bindBuffer
  rw [Attempt.wp_bind, Attempt.wp_always, wp_call]
  have hnumbers := Driver.bindMemory_numbers o.buffer o.memory c.driver
  cases (Driver.bindMemory o.buffer o.memory c.driver).1 with
  | ok _ => exact fun _ => hnumbers
  | error code => exact nofun

/-- A new buffer and its memory are known to the driver. -/
theorem makeBuffer_known (c : VulkanQueue) (size usage : Nat) (location : MemoryLocation) :
    (makeBuffer size usage location).Ends c fun r e => ∀ o, r = .ok o →
      o.buffer < e.driver.nextBuffer ∧ o.memory < e.driver.nextMemory := by
  intro j
  unfold makeBuffer tryCall allocateMemory
  simp only [Attempt.wp_bind, Attempt.wp_always, wp_call, Attempt.wp_outcome]
  rcases Driver.createBuffer_cases size usage c.driver with ⟨code, -, he⟩ | he
  · simp only [he, Attempt.wp_refuse]
    exact fun _ h => absurd h (Failure.ne_ok _ _)
  simp only [he, Attempt.wp_pure]
  generalize hmid : Driver.mk _ _ _ _ _ _ _ _ _ _ = e
  have hbuffer : c.driver.nextBuffer < e.nextBuffer := by
    rw [← hmid]
    exact Nat.lt_succ_self _
  unfold Driver.allocate
  cases hfault : e.allocationFault? size with
  | some fault =>
    simp only [Attempt.wp_bind, Attempt.wp_note, Attempt.wp_throw, Attempt.wp_always, wp_run]
    exact fun _ h => absurd h (Failure.ne_ok _ _)
  | none =>
    simp only [Attempt.wp_pure, Attempt.wp_bind]
    refine (bindBuffer_numbers _ _).wp fun r f k hpost => ?_
    cases r with
    | error f => exact fun _ h => absurd h (Failure.ne_ok _ _)
    | ok _ =>
      obtain ⟨hnextBuffer, hnextMemory⟩ := hpost rfl
      rintro o ⟨⟩
      refine ⟨?_, ?_⟩
      · rw [hnextBuffer]
        exact hbuffer
      · rw [hnextMemory]
        exact Nat.lt_succ_self _

end VulkanQueue

namespace VulkanDevice

instance : Faithful VulkanDevice where
  unique {d h bytes bytes'} := by
    rintro ⟨o, memory, visible, ho, -, -, hm⟩ ⟨o', memory', visible', ho', -, -, hm'⟩
    cases ho.symm.trans ho'
    cases hm.symm.trans hm'
    rfl
  made d request := by
    intro j
    show Attempt.wp (makeObject request) d j _
    unfold makeObject
    simp only [Attempt.wp_bind, Attempt.wp_onPart]
    refine ((VulkanQueue.makeBuffer_ends (.refl d.driver) _ _ _).and
      (VulkanQueue.makeBuffer_known _ _ _ _)).wp fun r c k hpost => ?_
    obtain ⟨⟨-, hstages, -⟩, hknown⟩ := hpost
    cases r with
    | error f => exact fun _ => nofun
    | ok o =>
      obtain ⟨hbuffer, hmemory⟩ := hknown o rfl
      rintro a ⟨⟩
      refine ⟨Bytes.zeros request.size, ⟨o, o.memory, _, ?_,
        hbuffer, hmemory, (hstages o rfl).2.bound⟩, ?_⟩
      · show (d.objects.insert d.nextHandle o).get? d.nextHandle = _
        rw [Table.get?_insert, if_pos rfl]
      · rw [Bytes.size_zeros]
        exact Nat.le_of_eq (Nat.zero_add _)
  filled {d h old data base ranges} := by
    rintro ⟨o, memory, visible, ho, hb, hm, hl⟩ hfit hinside flags j
    show Step.wp (transfer _ _ _ flags) d j _
    unfold transfer onQueue transferOn known
    simp only [Step.wp_bind, Step.wp_note, Step.wp_get, Step.wp_onPart, Attempt.wp_outcome,
      Attempt.wp_bind, ho, Attempt.wp_pure]
    refine (store_ends ⟨hb, hm, hl⟩).wp fun r e k hpost => ?_
    obtain ⟨x, ⟨hcopied, -⟩, -, hkeeps⟩ := hpost
    have hstays {bytes : ByteArray} (hx : x.Holds o.buffer memory ⟨bytes, visible⟩) :
        ReadsBack.Stores (δ := VulkanDevice) { d with queue := e } h bytes := by
      have hkept := hx.kept hkeeps
      exact ⟨o, memory, visible, ho, hkept.bufferKnown, hkept.memoryKnown, hkept.bound⟩
    rcases hcopied with ⟨rfl, hno⟩ | rfl
    · exact ⟨old, hstays ⟨hb, hm, hl⟩, .none hno⟩
    · refine ⟨_, hstays ⟨?_, ?_, Driver.memoryOf?_setBytes hl _⟩, .all _ hfit hinside⟩
      · rw [Driver.nextBuffer_setBytes]
        exact hb
      · rw [Driver.nextMemory_setBytes]
        exact hm
  opened {d h bytes} := by
    rintro ⟨o, memory, visible, ho, hb, hm, hl⟩ a offset size flags j
    show Attempt.wp (openMapping a offset size flags) d j _
    unfold openMapping
    rw [Attempt.wp_bind, Attempt.wp_get]
    dsimp only
    have hsame (c : VulkanQueue) (hc : d.driver.SameStorage c.driver) :
        ReadsBack.Stores (δ := VulkanDevice) { d with queue := c } h bytes := by
      refine ⟨o, memory, visible, ho, ?_, ?_, (hc.memoryOf? _).trans hl⟩
      · show _ < c.driver.nextBuffer
        rw [hc.nextBuffer]
        exact hb
      · show _ < c.driver.nextMemory
        rw [hc.nextMemory]
        exact hm
    cases hp : d.object? a with
    | none => exact ⟨o, memory, visible, ho, hb, hm, hl⟩
    | some p =>
      have hstays : ReadsBack.Stores (δ := VulkanDevice) d h bytes :=
        ⟨o, memory, visible, ho, hb, hm, hl⟩
      simp only [Attempt.wp_ite, Attempt.wp_refuse, Attempt.wp_bind, Attempt.wp_pure,
        Attempt.wp_onPart]
      split
      · exact hstays
      · split
        · exact hstays
        · split
          · have hidle (e : Driver) : e.waitQueueIdle =
                (e.record .queueWaitIdle).perform .waitQueueIdle fun e => ((), e) := rfl
            refine (VulkanQueue.tryCall_idles hidle).wp fun r c k hpost => ?_
            cases r with
            | error f => exact hsame c hpost.1.toSameStorage
            | ok _ => exact hsame c hpost.1.toSameStorage
          · exact hstays

end VulkanDevice

end BufferCoherence
