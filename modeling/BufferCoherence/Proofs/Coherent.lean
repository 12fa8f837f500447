import BufferCoherence.Buffer.Creation
import BufferCoherence.Proofs.Locations
import BufferCoherence.Proofs.Memory

/-!
# Coherence of the copies of a buffer

Two views of a site on the memory device, and the invariant that ties the copies of a buffer to one
content:

* `Site.copies` is what there is to know about the copies: the shadow, the object with what it
  holds, which of them are current, and what the object lacks. `Site.frame` is the rest of what
  operations depend on. A change that a view does not show leaves the view as it is, by computation;
* `Coherent k c v` says that the copies `v` stand for the content `c`. A current copy holds `c`; an
  object that is not current holds `c` outside the dirty spans. Where `k` is set, the object may
  hold converted vertices, and then it is the shadow that holds `c`;
* `Settled` adds that a current object lacks nothing, and that one that is not current lacks
  something, so that a draw can tell from the dirty spans alone whether there is something to do.
-/

namespace BufferCoherence

/-! ## 1. Views -/

/-- The copies of a buffer. -/
structure Copies where
  size : Nat
  locations : Location
  shadow : Option ByteArray
  pinned : Bool
  object : Option Placement
  /-- What the object holds. -/
  held : Option ByteArray
  dirty : DirtySpans
  objectAllowed : Bool
  kind : BackendKind

namespace Copies

/-- The copies of `l` become current. -/
def markValid (v : Copies) (l : Location) : Copies :=
  { v with
    dirty := if l.has Location.gpuObject then v.dirty.clear else v.dirty
    locations := v.locations ∪ l }

/-- The copies of `l` become stale in a span. -/
def markStale (v : Copies) (l : Location) (offset size : Nat) : Copies :=
  { v with
    dirty := if l.has Location.gpuObject then v.dirty.mark offset size else v.dirty
    locations := v.locations \ l }

/-- The shadow becomes current, with `c` in it. -/
def mirrored (v : Copies) (c : ByteArray) : Copies :=
  { v with shadow := some c, locations := v.locations ∪ Location.sysmem }

theorem markValid_sysmem (v : Copies) :
    v.markValid Location.sysmem = { v with locations := v.locations ∪ Location.sysmem } := by
  unfold markValid
  rw [Location.apart.1.1, if_neg Bool.false_ne_true]

theorem markValid_gpuObject (v : Copies) : v.markValid Location.gpuObject =
    { v with dirty := v.dirty.clear, locations := v.locations ∪ Location.gpuObject } := by
  unfold markValid
  rw [Location.has_itself.2.1, if_pos rfl]

theorem markStale_sysmem (v : Copies) (offset size : Nat) :
    v.markStale Location.sysmem offset size =
      { v with locations := v.locations \ Location.sysmem } := by
  unfold markStale
  rw [Location.apart.1.1, if_neg Bool.false_ne_true]

end Copies

/-- What operations on a buffer depend on besides its copies. -/
structure Frame where
  usage : Usage
  settings : Settings
  mapCount : Nat
  mapBase : Option MapBase
  conversion : ConversionState

namespace Site

/-- What the object of the buffer holds. -/
def objectBytes? (s : Site MemoryDevice) : Option ByteArray :=
  s.buffer.object.bind fun o => s.machine.device.bytes? o.handle

/-- The copies of the buffer. -/
def copies (s : Site MemoryDevice) : Copies where
  size := s.buffer.size
  locations := s.buffer.locations
  shadow := s.buffer.shadow
  pinned := s.buffer.pinned
  object := s.buffer.object.map fun o => ⟨o.handle, o.offset⟩
  held := s.objectBytes?
  dirty := s.buffer.dirty
  objectAllowed := s.buffer.objectAllowed
  kind := s.buffer.backend.kind

/-- The buffer apart from its copies. -/
def frame (s : Site MemoryDevice) : Frame where
  usage := s.buffer.usage
  settings := s.buffer.settings
  mapCount := s.buffer.mapCount
  mapBase := s.buffer.mapBase
  conversion := s.buffer.conversion

variable {s t u : Site MemoryDevice}

theorem copies_markValid (s : Site MemoryDevice) (l : Location) :
    copies { s with buffer := s.buffer.markValid l } = s.copies.markValid l := rfl

theorem copies_markStale (s : Site MemoryDevice) (l : Location) (offset size : Nat) :
    copies { s with buffer := s.buffer.markStale l offset size } =
      s.copies.markStale l offset size := rfl

theorem copies_of_buffer {d : MemoryDevice}
    (h : ∀ o, s.buffer.object = some o → d.bytes? o.handle = s.machine.device.bytes? o.handle) :
    copies { s with machine.device := d } = s.copies := by
  unfold copies objectBytes?
  cases e : s.buffer.object with
  | none => rfl
  | some o => simp only [Option.bind_some, h o e]

/-- A device whose contents are left alone leaves the copies alone. -/
theorem copies_untouched {d : MemoryDevice} (h : s.machine.device.Untouched d) :
    copies { s with machine.device := d } = s.copies :=
  copies_of_buffer fun o _ => h.bytes o.handle

/-- New content of the object is new content of that copy. -/
theorem copies_rewrites {d : MemoryDevice} {o : BufferObject} {c : ByteArray}
    (ho : s.buffer.object = some o) (h : s.machine.device.Rewrites o.handle c d) :
    copies { s with machine.device := d } = { s.copies with held := some c } := by
  unfold copies objectBytes?
  simp only [ho, Option.bind_some, h.bytes]

theorem copies_object_some {a : Placement} (h : s.copies.object = some a) :
    ∃ o, s.buffer.object = some o ∧ a = ⟨o.handle, o.offset⟩ ∧
      s.copies.held = s.machine.device.bytes? o.handle := by
  obtain ⟨o, ho, ha⟩ := Option.map_eq_some_iff.mp h
  refine ⟨o, ho, ha.symm, ?_⟩
  show s.objectBytes? = _
  unfold objectBytes?
  rw [ho, Option.bind_some]

theorem copies_object_isSome : s.copies.object.isSome = s.buffer.object.isSome :=
  Option.isSome_map

/-- The same frame is the same question whether vertices are converted. -/
theorem isConverted_eq (h : t.frame = s.frame) : t.buffer.isConverted = s.buffer.isConverted :=
  congrArg (fun f : Frame => f.conversion.map.isSome) h

theorem isDynamic_eq (h : t.frame = s.frame) : t.buffer.isDynamic = s.buffer.isDynamic :=
  congrArg (fun f : Frame => f.usage.has Usage.dynamic) h

/-- The contents of objects that are neither the buffer's own nor new are left alone. -/
structure Spares (s t : Site MemoryDevice) : Prop where
  caps : t.machine.device.caps = s.machine.device.caps
  refusesObjects : t.machine.device.refusesObjects = s.machine.device.refusesObjects
  shiftsMappings : t.machine.device.shiftsMappings = s.machine.device.shiftsMappings
  nextHandle : s.machine.device.nextHandle ≤ t.machine.device.nextHandle
  own : ∀ o, t.buffer.object = some o → (∃ p, s.buffer.object = some p ∧ p.handle = o.handle) ∨
    s.machine.device.nextHandle ≤ o.handle.number
  others : ∀ h, h.number < s.machine.device.nextHandle →
    (∀ o, s.buffer.object = some o → h ≠ o.handle) →
      t.machine.device.bytes? h = s.machine.device.bytes? h

theorem Spares.refl (s : Site MemoryDevice) : Spares s s :=
  ⟨rfl, rfl, rfl, Nat.le_refl _, fun o ho => .inl ⟨o, ho, rfl⟩, fun _ _ _ => rfl⟩

theorem Spares.trans (h₁ : Spares s t) (h₂ : Spares t u) : Spares s u := by
  refine ⟨h₂.caps.trans h₁.caps, h₂.refusesObjects.trans h₁.refusesObjects,
    h₂.shiftsMappings.trans h₁.shiftsMappings, Nat.le_trans h₁.nextHandle h₂.nextHandle, ?_, ?_⟩
  · intro o ho
    rcases h₂.own o ho with ⟨p, hp, hpo⟩ | hnew
    · rw [← hpo]
      exact h₁.own p hp
    · exact .inr (Nat.le_trans h₁.nextHandle hnew)
  · intro h hlt hne
    rw [h₂.others h (Nat.lt_of_lt_of_le hlt h₁.nextHandle), h₁.others h hlt hne]
    intro o ho he
    rcases h₁.own o ho with ⟨p, hp, hpo⟩ | hnew
    · exact hne p hp (by rw [hpo]; exact he)
    · rw [← he] at hnew
      omega

/-- A step that changes neither the object nor a content spares everything. -/
theorem Spares.of_untouched (hd : s.machine.device.Untouched t.machine.device)
    (ho : t.buffer.object = s.buffer.object) : Spares s t :=
  ⟨hd.caps, hd.refusesObjects, hd.shiftsMappings, Nat.le_of_eq hd.nextHandle.symm,
    fun o h => .inl ⟨o, ho ▸ h, rfl⟩, fun h _ _ => hd.bytes h⟩

/-- A step that changes the content of the object spares the others. -/
theorem Spares.of_rewrites {o : BufferObject} {c : ByteArray} (h : s.buffer.object = some o)
    (hd : s.machine.device.Rewrites o.handle c t.machine.device)
    (ho : t.buffer.object = s.buffer.object) : Spares s t :=
  ⟨hd.caps, hd.refusesObjects, hd.shiftsMappings, Nat.le_of_eq hd.nextHandle.symm,
    fun p hp => .inl ⟨p, ho ▸ hp, rfl⟩, fun h' _ hne => hd.others h' (hne o h)⟩

end Site

/-! ## 2. The invariant -/

/-- **The copies stand for the content `c`.** With `k`, the object may hold converted vertices where
    the shadow is current. -/
structure Coherent (k : Bool) (c : ByteArray) (v : Copies) : Prop where
  size : c.size = v.size
  spanned : v.dirty.size = v.size
  spans : v.dirty.Fits
  kept : v.locations.has Location.discarded = false
  somewhere : v.locations.has Location.sysmem = true ∨ v.locations.has Location.gpuObject = true ∨
    v.locations.has Location.cleared = true
  allowed : v.objectAllowed = true → v.kind ≠ .noObject
  shadow : ∀ m, v.shadow = some m → m.size = v.size ∧ v.size ≤ Bytes.largestRun
  pinned : v.pinned = true → v.shadow.isSome = true
  cleared : v.locations.has Location.cleared = true → c = Bytes.zeros v.size
  mirrored : v.locations.has Location.sysmem = true → v.shadow = some c
  object : ∀ a, v.object = some a → a.offset = 0 ∧
    ∃ b, v.held = some b ∧ b.size = v.size ∧ v.size ≤ Bytes.largestRun
  held : ∀ b, v.held = some b → b.size = v.size
  present : v.locations.has Location.gpuObject = true → v.object.isSome = true
  current : v.locations.has Location.gpuObject = true →
    (k = true → v.locations.has Location.sysmem = false) → v.held = some c
  stale : ∀ b, v.held = some b → v.locations.has Location.gpuObject = false → k = false →
    v.kind ≠ .noObject → ∀ i, ¬ v.dirty.Covers i → Bytes.byteAt? b i = Bytes.byteAt? c i

namespace Coherent

variable {k : Bool} {c : ByteArray} {v : Copies}

/-- An object without converted vertices may count as one with them. -/
theorem weaken (h : Coherent false c v) (k : Bool) : Coherent k c v :=
  { h with
    current := fun hg _ => h.current hg nofun
    stale := fun b hb hg _ => h.stale b hb hg rfl }

theorem of_le {k' : Bool} (h : Coherent k c v) (hk : k = true → k' = true) : Coherent k' c v := by
  cases k with
  | false => exact h.weaken k'
  | true =>
    rw [hk rfl]
    exact h

theorem isEmpty_eq_false (h : Coherent k c v) : v.locations.isEmpty = false :=
  Location.isEmpty_eq_false h.somewhere

/-- A buffer that has an object fits in host memory. -/
theorem room_of_object (h : Coherent k c v) (ho : v.object.isSome = true) :
    v.size ≤ Bytes.largestRun := by
  obtain ⟨a, ha⟩ := Option.isSome_iff_exists.mp ho
  obtain ⟨-, b, -, -, hle⟩ := h.object a ha
  exact hle

/-- The shadow made current holds the content. -/
theorem mirror (h : Coherent k c v) (hroom : v.size ≤ Bytes.largestRun) :
    Coherent k c (v.mirrored c) where
  size := h.size
  spanned := h.spanned
  spans := h.spans
  kept := by simp [Copies.mirrored, h.kept]
  somewhere := .inl (by simp [Copies.mirrored])
  allowed := h.allowed
  shadow m hm := by
    cases hm
    exact ⟨h.size, hroom⟩
  pinned _ := rfl
  cleared hc := h.cleared (by simpa [Copies.mirrored] using hc)
  mirrored _ := rfl
  object := h.object
  held := h.held
  present hg := h.present (by simpa [Copies.mirrored] using hg)
  current hg hk := by
    have hg' : v.locations.has Location.gpuObject = true := by
      simpa [Copies.mirrored] using hg
    cases k with
    | false => exact h.current hg' nofun
    | true => exact absurd (hk rfl) (by simp [Copies.mirrored])
  stale b hb hg := h.stale b hb (by simpa [Copies.mirrored] using hg)

end Coherent

/-- **The copies between two operations**: a current object lacks nothing, and one that is not
    current lacks something. -/
structure Settled (k : Bool) (c : ByteArray) (v : Copies) : Prop extends Coherent k c v where
  complete : v.locations.has Location.gpuObject = true → v.dirty.isPending = false
  lacking : v.object.isSome = true → v.locations.has Location.gpuObject = false →
    v.kind ≠ .noObject → v.dirty.isPending = true

/-- Where the shadow is current already, nothing changes. -/
theorem Copies.mirrored_eq_self {v : Copies} {c : ByteArray} (hs : v.shadow = some c)
    (hl : v.locations.has Location.sysmem = true) : v.mirrored c = v := by
  unfold Copies.mirrored
  rw [FlagSet.union_eq_self hl, ← hs]

end BufferCoherence
