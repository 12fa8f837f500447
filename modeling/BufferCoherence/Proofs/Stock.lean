import BufferCoherence.Proofs.Custody
import BufferCoherence.Vulkan.Device

/-!
# The stock of a device

What every device here promises about its objects: they come when they are made and go when they are
given back, and no other call makes one come or go (`KeepsObjects`). Both devices keep the promise,
whatever their memory or their driver refuses.
-/

namespace BufferCoherence

open Vulkan (Driver)

/-- **A device whose objects stay until they are given back.** -/
class KeepsObjects (δ : Type) [Device δ] : Prop where
  /-- A call that neither makes nor frees an object leaves every object where it is. -/
  quiet {d e : δ} (h : Device.Quiet d e) (a : ObjectHandle) : Device.live e a = Device.live d a
  /-- To make an object costs no other one. -/
  make {d : δ} (request : ObjectRequest) (a : ObjectHandle) (h : Device.live d a = true) :
    (Device.makeObject request).Ends d fun _ e => Device.live e a = true
  /-- The object that is given back goes, and no other one. -/
  free {d : δ} (h a : ObjectHandle) : (Device.freeObject h).Ends d fun _ e =>
    Device.live e a = if a = h then false else Device.live d a
  /-- Only an object that is there can be mapped. -/
  mapped {d : δ} (h : ObjectHandle) (offset size : Nat) (flags : MapFlags) :
    (Device.openMapping h offset size flags).Ends d fun r _ =>
      r.toOption.isSome = true → Device.live d h = true

/-- The row of an object erased from a table. -/
theorem Table.isSome_erase {α : Type} (t : Table α) (h a : ObjectHandle) :
    ((t.erase h.number).get? a.number).isSome =
      if a = h then false else (t.get? a.number).isSome := by
  rw [Table.get?_erase]
  by_cases he : a = h
  · rw [if_pos (by rw [he]), if_pos he]
    rfl
  · rw [if_neg fun hn => he (by cases h; cases a; cases hn; rfl), if_neg he]

/-! ## 1. The memory device -/

namespace MemoryDevice

variable {d : MemoryDevice}

instance : KeepsObjects MemoryDevice where
  quiet h a := (sameStock_of_quiet h).live a
  make {d} request a ha := by
    intro j
    show Attempt.wp (makeObject request) d j _
    unfold makeObject
    simp only [Attempt.wp_bind, Attempt.wp_get]
    split
    · simp only [Attempt.wp_bind, Attempt.wp_set, Attempt.wp_pure]
      show (((_ : MemoryDevice).putObject _ _).object? a).isSome = true
      rw [object?_putObject]
      split
      · rfl
      · exact ha
    · exact ha
  free {d} h a := by
    intro j
    show Step.wp (freeObject h) d j _
    unfold freeObject
    simp only [Step.wp_bind, Step.wp_get, Step.wp_ite, Step.wp_note, Step.wp_set, ite_self]
    exact Table.isSome_erase d.objects h a
  mapped {d} h offset size flags := by
    intro j
    show Attempt.wp (openMapping h offset size flags) d j _
    unfold openMapping
    simp only [Attempt.wp_bind, Attempt.wp_get]
    cases ho : d.object? h with
    | none => exact nofun
    | some o =>
      have hlive : Device.live d h = true := Option.isSome_iff_exists.mpr ⟨o, ho⟩
      simp only [Attempt.wp_ite, Attempt.wp_refuse, Attempt.wp_bind, Attempt.wp_set,
        Attempt.wp_pure]
      split
      · exact fun _ => hlive
      · exact fun _ => hlive

end MemoryDevice

/-! ## 2. The Vulkan device -/

namespace VulkanDevice

variable {d e : VulkanDevice} {α : Type}

theorem live_of_objects (he : e.objects = d.objects) (h : ObjectHandle) :
    Device.live e h = Device.live d h := by
  show (e.objects.get? h.number).isSome = (d.objects.get? h.number).isSome
  rw [he]

/-- What the queue does is no matter of the objects. -/
theorem objects_onQueue (p : Step VulkanQueue α) :
    (onQueue p).Ends d fun _ e => e.objects = d.objects := fun _ => rfl

theorem openMapping_ends (h : ObjectHandle) (offset size : Nat) (flags : MapFlags) :
    (openMapping h offset size flags).Ends d fun r e => e.objects = d.objects ∧
      (r.toOption.isSome = true → Device.live d h = true) := by
  intro j
  unfold openMapping
  simp only [Attempt.wp_bind, Attempt.wp_get]
  cases ho : d.object? h with
  | none => exact ⟨rfl, nofun⟩
  | some o =>
    have hlive : Device.live d h = true := Option.isSome_iff_exists.mpr ⟨o, ho⟩
    have hwait : (Attempt.onPart (·.queue) (fun queue d => { d with queue })
        (VulkanQueue.tryCall .waitQueueIdle Driver.waitQueueIdle) :
          Attempt VulkanDevice Unit).Ends d fun _ e => e.objects = d.objects := fun _ => rfl
    simp only [Attempt.wp_ite, Attempt.wp_refuse, Attempt.wp_bind, Attempt.wp_pure]
    split
    · exact ⟨trivial, fun _ => hlive⟩
    · split
      · exact ⟨trivial, fun _ => hlive⟩
      · split
        · refine hwait.wp fun r e k he => ?_
          cases r with
          | error f => exact ⟨he, fun _ => hlive⟩
          | ok _ => exact ⟨he, fun _ => hlive⟩
        · exact ⟨trivial, fun _ => hlive⟩

theorem closeMapping_objects (h : ObjectHandle) (ranges : List ByteRange) :
    (closeMapping h ranges).Ends d fun _ e => e.objects = d.objects := by
  intro j
  unfold closeMapping
  simp only [Step.wp_bind, Step.wp_get, Step.wp_ite, Step.wp_note, ite_self]

theorem recordBarrier_objects (b : Barrier) :
    (recordBarrier b).Ends d fun _ e => e.objects = d.objects := by
  intro j
  unfold recordBarrier
  simp only [Step.wp_bind, Step.wp_get]
  split
  · rfl
  · rw [Step.wp_bind]
    refine (objects_onQueue _).wp fun r e k he => ?_
    split
    · exact he
    · exact he

/-- **A call that neither makes nor frees an object leaves the table as it is.** -/
theorem objects_of_quiet (h : Device.Quiet d e) : e.objects = d.objects := by
  cases h with
  | transfer target source ranges flags j => rfl
  | openMapping h offset size flags j => exact (openMapping_ends h offset size flags j).1
  | closeMapping h ranges j => exact closeMapping_objects h ranges j
  | recordBarrier b j => exact recordBarrier_objects b j
  | endCapture j => rfl
  | poke h position data =>
    show (poke h position data d).objects = d.objects
    unfold poke
    split
    · split
      · rfl
      · rfl
    · rfl

/-- A new object comes under the next handle, and no other one goes. -/
theorem makeObject_ends (request : ObjectRequest) (a : ObjectHandle)
    (ha : Device.live d a = true) :
    (makeObject request).Ends d fun _ e => Device.live e a = true := by
  have hmake (p : Attempt VulkanQueue BoundBuffer) :
      (Attempt.onPart (·.queue) (fun queue d => { d with queue }) p :
        Attempt VulkanDevice BoundBuffer).Ends d fun _ e => e.objects = d.objects := fun _ => rfl
  intro j
  unfold makeObject
  rw [Attempt.wp_bind]
  refine (hmake _).wp fun r e k he => ?_
  cases r with
  | error f =>
    show Device.live e a = true
    rw [live_of_objects he, ha]
  | ok o =>
    simp only [Attempt.wp_bind, Attempt.wp_get, Attempt.wp_note, Attempt.wp_set, Attempt.wp_pure]
    show ((e.objects.insert e.nextHandle o).get? a.number).isSome = true
    rw [Table.get?_insert]
    split
    · rfl
    · rw [he]
      exact ha

theorem freeObject_ends (h a : ObjectHandle) : (freeObject h).Ends d fun _ e =>
    Device.live e a = if a = h then false else Device.live d a := by
  intro j
  unfold freeObject
  simp only [Step.wp_bind, Step.wp_modify, Step.wp_get]
  cases ho : ({ d with capture := if d.capture = some h then none else d.capture } :
      VulkanDevice).object? h with
  | none =>
    -- an unknown object is only told of
    simp only [Step.wp_note]
    show Device.live d a = _
    by_cases he : a = h
    · rw [if_pos he, he]
      exact congrArg Option.isSome ho
    · rw [if_neg he]
  | some o =>
    simp only [Step.wp_bind, Step.wp_set]
    refine (objects_onQueue _).wp fun _ e k he => ?_
    rw [live_of_objects he]
    exact Table.isSome_erase d.objects h a

instance : KeepsObjects VulkanDevice where
  quiet h := live_of_objects (objects_of_quiet h)
  make request a ha := makeObject_ends request a ha
  free h a := freeObject_ends h a
  mapped h offset size flags := (openMapping_ends h offset size flags).mono fun _ _ he => he.2

end VulkanDevice

end BufferCoherence
