import BufferCoherence.Proofs.Memory
import BufferCoherence.Proofs.Staging

/-!
# Reading objects back

What a device promises about the bytes of its objects, while any call of it may fail (`ReadsBack`):
a run that is read back is what the object stores, a failure spoils neither the object nor the size
of what was to be filled, and to unmap an object leaves its bytes alone. Nothing is promised about
whether a call succeeds.

* the memory device reads an object where it lies;
* the Vulkan device reads memory that the host cannot reach through a staging buffer, and each of
  the nine calls that this takes may be refused.
-/

namespace BufferCoherence

open Vulkan (Driver)

/-- **A device that answers for the bytes of its objects**, whenever it answers. -/
class ReadsBack (δ : Type) [Device δ] where
  /-- The object of a handle stores these bytes. -/
  Stores : δ → ObjectHandle → ByteArray → Prop
  /-- What is stored is what a mapping shows. -/
  peek {d : δ} {h : ObjectHandle} {bytes : ByteArray} {position size : Nat}
    (stored : Stores d h bytes) (fits : position + size ≤ bytes.size) :
    Device.peek d h position size = bytes.extract position (position + size)
  /-- A run that is read back is what is stored. -/
  fetch {d : δ} {h : ObjectHandle} {bytes data : ByteArray} {base size : Nat}
    (stored : Stores d h bytes) (fits : base + size ≤ bytes.size) (sized : data.size = size)
    (flags : MapFlags) :
    (Device.transfer (.host data) (.object h base) [⟨0, size⟩] flags).Ends d fun reply e =>
      Stores e h bytes ∧ reply.host.size = size ∧
        (reply.outcome = .ok () → reply.host = bytes.extract base (base + size))
  /-- To unmap an object leaves all bytes alone. -/
  closed {d : δ} {h : ObjectHandle} {bytes : ByteArray} (stored : Stores d h bytes)
    (a : ObjectHandle) (ranges : List ByteRange) :
    (Device.closeMapping a ranges).Ends d fun _ e => Stores e h bytes

/-- **A run that is read into host memory is read whole or not at all.** -/
class ReadsWhole (δ : Type) [Device δ] : Prop where
  whole (d : δ) {data : ByteArray} {size : Nat} (sized : data.size = size)
    (source : TransferSource) (flags : MapFlags) :
    (Device.transfer (.host data) source [⟨0, size⟩] flags).Ends d fun reply _ =>
      (∃ f, reply.outcome = .error f) → reply.host = data

/-! ## 1. The memory device -/

instance : ReadsBack MemoryDevice where
  Stores d h bytes := d.bytes? h = some bytes
  peek := MemoryDevice.peek_eq
  fetch stored fits sized flags :=
    (MemoryDevice.transfer_out stored fits sized flags).mono fun reply e ⟨_, hhost, he⟩ => by
      refine ⟨(he.bytes _).trans stored, ?_, fun _ => hhost⟩
      rw [hhost, ByteArray.size_extract]
      omega
  closed {d h bytes} stored a ranges :=
    (MemoryDevice.closeMapping_ends d a ranges).mono fun _ e he => (he.bytes h).trans stored

instance : ReadsWhole MemoryDevice where
  whole d _ _ sized source flags :=
    (MemoryDevice.transfer_host sized source flags).mono fun reply e hpost hf => by
      rcases hpost with ⟨run, -, hok, -⟩ | ⟨-, -, hhost, -⟩
      · exact absurd hf (Failure.not_failed hok)
      · exact hhost

/-! ## 2. The Vulkan device -/

namespace VulkanDevice

instance : ReadsBack VulkanDevice where
  Stores d h bytes := ∃ o memory visible, d.object? h = some o ∧
    o.buffer < d.driver.nextBuffer ∧ memory < d.driver.nextMemory ∧
    d.driver.memoryOf? o.buffer = some (memory, ⟨bytes, visible⟩)
  peek {d h bytes position size} := by
    rintro ⟨o, memory, visible, ho, -, -, hl⟩ hfit
    show peek d h position size = _
    unfold peek
    simp only [ho, Option.bind_some, Driver.bytes?_of_memoryOf? hl]
  fetch {d h bytes data base size} := by
    rintro ⟨o, memory, visible, ho, hb, hm, hl⟩ hfit hsize flags j
    show Step.wp (transfer _ _ _ flags) d j _
    unfold transfer onQueue transferOn known
    simp only [Step.wp_bind, Step.wp_note, Step.wp_get, Step.wp_onPart, Attempt.wp_outcome,
      Attempt.wp_bind, ho, Attempt.wp_pure]
    refine (fetch_ends ⟨hb, hm, hl⟩ fun _ => ?_).wp fun r e k ⟨hkeeps, hread, _⟩ => ?_
    · simpa [ByteRange.stop] using hfit
    have hstays : ∃ o memory visible, d.object? h = some o ∧ o.buffer < e.driver.nextBuffer ∧
        memory < e.driver.nextMemory ∧
        e.driver.memoryOf? o.buffer = some (memory, ⟨bytes, visible⟩) :=
      ⟨o, memory, visible, ho, Nat.lt_of_lt_of_le hb hkeeps.nextBuffer,
        Nat.lt_of_lt_of_le hm hkeeps.nextMemory, hkeeps.memoryOf? hl hb hm⟩
    cases r with
    | error f => exact ⟨hstays, hsize, nofun⟩
    | ok read =>
      have hrun : read = bytes.extract base (base + size) :=
        (hread read rfl).2.trans (copyRanges_all hfit hsize)
      refine ⟨hstays, ?_, fun _ => hrun⟩
      show read.size = size
      rw [hrun, ByteArray.size_extract]
      omega
  closed {d h bytes} := by
    rintro stored a ranges j
    show Step.wp (closeMapping a ranges) d j _
    unfold closeMapping
    simp only [Step.wp_bind, Step.wp_get, Step.wp_ite, Step.wp_note, ite_self]
    exact stored

instance : ReadsWhole VulkanDevice where
  whole d data size sized source flags j := by
    show Step.wp (transfer _ _ _ flags) d j _
    unfold transfer onQueue
    simp only [Step.wp_bind, Step.wp_note, Step.wp_get, Step.wp_onPart]
    cases source with
    | object h base =>
      unfold transferOn
      simp only [Step.wp_bind, Attempt.wp_outcome]
      refine Attempt.wp_any fun r e k => ?_
      cases r with
      | ok read => exact fun hf => absurd hf (Failure.not_failed rfl)
      | error f => exact fun _ => rfl
    | host bytes =>
      unfold transferOn
      simp only [copyHost]
      by_cases hfit : (⟨0, size⟩ : ByteRange).stop ≤ data.size ∧
          (⟨0, size⟩ : ByteRange).stop ≤ bytes.size
      · simp only [hfit, and_self, if_true, Step.wp_pure]
        exact fun hf => absurd hf (Failure.not_failed rfl)
      · simp only [hfit, if_false, Step.wp_bind, Attempt.wp_outcome, Attempt.wp_refuse,
          Step.wp_pure]
        exact fun _ => trivial

end VulkanDevice

end BufferCoherence
