import BufferCoherence.Proofs.Footprints

/-!
# The neighbours of a buffer

Buffers on one memory device share the device and nothing else. Whatever an operation does to a
buffer, and whether it fails or not, it writes to the buffer's own object alone, gives no other
object back, and creates objects under new handles only (`Site.Spares`).

* the buffer keeps to itself (`Site.Minds`) in every deed but the taking over of an object
  (`Site.Deed.minds`). A copy only reads its source, wherever that is;
* `Site.Leaves` is what the neighbours see of it. A buffer that is renamed does not keep to itself,
  since it takes the object that it is handed, but leaves those of its neighbours alone, unless it
  was handed one of them (`applyUpload_leaves`).
-/

namespace BufferCoherence

variable {σ α β : Type}

/-! ## 1. The device -/

namespace MemoryDevice

/-- Every object but one keeps its content; that one may be gone. -/
structure Alters (h : ObjectHandle) (d d' : MemoryDevice) : Prop extends SameKnobs d d' where
  others : ∀ h', h' ≠ h → d'.bytes? h' = d.bytes? h'

/-- What is delivered changes the target alone, also where it does not fit. -/
theorem deliver_alters (d : MemoryDevice) (h : ObjectHandle) (offset : Nat)
    (runs : List (ByteRange × ByteArray)) :
    Alters h d (d.deliver (.object h offset) runs).2.2 := by
  cases ho : d.object? h with
  | none =>
    simp only [deliver, ho]
    exact ⟨.refl d, fun _ _ => rfl⟩
  | some o =>
    simp only [deliver, ho]
    exact ⟨⟨rfl, rfl, rfl, rfl⟩, fun h' hne => by rw [bytes?_putObject, if_neg hne]⟩

/-- A transfer leaves the device as what was delivered does, if anything was. -/
theorem transfer_delivered (d : MemoryDevice) (target : TransferTarget) (source : TransferSource)
    (ranges : List ByteRange) (flags : MapFlags) :
    (transfer target source ranges flags).Ends d fun _ e =>
      e = d ∨ ∃ runs, Untouched (d.deliver target runs).2.2 e := by
  intro j
  unfold transfer
  simp only [Step.wp_bind, Step.wp_get]
  cases d.stage source ranges with
  | error f => exact .inl rfl
  | ok runs =>
    refine .inr ⟨runs, ?_⟩
    rcases hdelivered : d.deliver target runs with ⟨host, failure, e⟩
    simp only [hdelivered]
    cases failure with
    | some f => exact .refl e
    | none => exact ⟨⟨rfl, rfl, rfl, rfl⟩, fun _ => rfl⟩

/-- A transfer writes to its target alone, also where it fails half way. -/
theorem transfer_alters (d : MemoryDevice) (h : ObjectHandle) (offset : Nat)
    (source : TransferSource) (ranges : List ByteRange) (flags : MapFlags) :
    (transfer (.object h offset) source ranges flags).Ends d fun _ e => Alters h d e := by
  refine (d.transfer_delivered _ source ranges flags).mono fun _ e he => ?_
  rcases he with rfl | ⟨runs, he⟩
  · exact ⟨.refl _, fun _ _ => rfl⟩
  · have hd := d.deliver_alters h offset runs
    exact ⟨⟨he.caps.trans hd.caps, he.nextHandle.trans hd.nextHandle,
      he.refusesObjects.trans hd.refusesObjects, he.shiftsMappings.trans hd.shiftsMappings⟩,
      fun h' hne => (he.bytes h').trans (hd.others h' hne)⟩

/-- A transfer to the host leaves every content alone. -/
theorem transfer_untouched (d : MemoryDevice) (data : ByteArray) (source : TransferSource)
    (ranges : List ByteRange) (flags : MapFlags) :
    (transfer (.host data) source ranges flags).Ends d fun _ e => Untouched d e := by
  refine (d.transfer_delivered _ source ranges flags).mono fun _ e he => ?_
  rcases he with rfl | ⟨runs, he⟩
  · exact .refl _
  · exact he

/-- To write in place changes one object. -/
theorem poke_alters (d : MemoryDevice) (h : ObjectHandle) (position : Nat) (data : ByteArray) :
    Alters h d (poke h position data d) := by
  unfold poke
  split
  · exact ⟨⟨rfl, rfl, rfl, rfl⟩, fun h' hne => by rw [bytes?_putObject, if_neg hne]⟩
  · exact ⟨.refl d, fun _ _ => rfl⟩

end MemoryDevice

namespace Site

variable {s t u : Site MemoryDevice}

/-- The object of the buffer was created on its device. -/
def Housed (s : Site MemoryDevice) : Prop :=
  ∀ o, s.buffer.object = some o → o.handle.number < s.machine.device.nextHandle

/-- **The buffer keeps to itself**: all objects but its own are spared, and what it has in the end
    was its own or is new. -/
structure Minds (s t : Site MemoryDevice) : Prop extends Spares s t where
  housed : s.Housed → t.Housed

theorem Minds.refl (s : Site MemoryDevice) : Minds s s := ⟨.refl s, id⟩

theorem Minds.trans (h : Minds s t) (h' : Minds t u) : Minds s u :=
  ⟨h.toSpares.trans h'.toSpares, h'.housed ∘ h.housed⟩

instance : IsPreorder (Site MemoryDevice) Minds where
  refl := Minds.refl
  trans _ _ _ := Minds.trans

/-- What changes the own object, or gives it back, spares the others. -/
theorem Minds.of_alters {o : BufferObject} (ho : s.buffer.object = some o)
    (hd : s.machine.device.Alters o.handle t.machine.device)
    (ht : ∀ p, t.buffer.object = some p → p.handle = o.handle) : Minds s t where
  caps := hd.caps
  refusesObjects := hd.refusesObjects
  shiftsMappings := hd.shiftsMappings
  nextHandle := Nat.le_of_eq hd.nextHandle.symm
  own p hp := .inl ⟨o, ho, (ht p hp).symm⟩
  others h _ hne := hd.others h (hne o ho)
  housed hs p hp := by
    rw [ht p hp, hd.nextHandle]
    exact hs o ho

/-- A new object has a new handle. -/
theorem Minds.of_adds {o : BufferObject} {size : Nat}
    (hd : s.machine.device.Adds size t.machine.device) (ht : t.buffer.object = some o)
    (ho : o.handle = ⟨s.machine.device.nextHandle⟩) : Minds s t := by
  have hown (p : BufferObject) (hp : t.buffer.object = some p) :
      p.handle = ⟨s.machine.device.nextHandle⟩ := by
    rw [← Option.some.inj (ht.symm.trans hp), ho]
  refine ⟨⟨hd.caps, hd.refusesObjects, hd.shiftsMappings, ?_, fun p hp => .inr ?_,
    fun h hlt _ => hd.others h fun he => ?_⟩, fun _ p hp => ?_⟩
  · exact Nat.le_trans (Nat.le_succ _) (Nat.le_of_eq hd.nextHandle.symm)
  · exact Nat.le_of_eq (by rw [hown p hp])
  · rw [he] at hlt
    exact Nat.lt_irrefl _ hlt
  · rw [hown p hp]
    exact Nat.lt_of_lt_of_eq (Nat.lt_succ_self _) hd.nextHandle.symm

/-- Where all contents stay, the object may change its users. -/
theorem Minds.of_untouched (hd : s.machine.device.Untouched t.machine.device)
    (ht : t.buffer.object.map (·.handle) = s.buffer.object.map (·.handle)) : Minds s t := by
  have hown (o : BufferObject) (ho : t.buffer.object = some o) :
      ∃ p, s.buffer.object = some p ∧ p.handle = o.handle := by
    rw [ho, Option.map_some] at ht
    exact Option.map_eq_some_iff.mp ht.symm
  refine ⟨⟨hd.caps, hd.refusesObjects, hd.shiftsMappings, Nat.le_of_eq hd.nextHandle.symm,
    fun o ho => .inl (hown o ho), fun h _ _ => hd.bytes h⟩, fun hs o ho => ?_⟩
  obtain ⟨p, hp, hhandle⟩ := hown o ho
  rw [← hhandle, hd.nextHandle]
  exact hs p hp

/-- Records that change leave all objects alone. -/
theorem Minds.booked {b : Buffer} (hb : b.object.map (·.handle) = s.buffer.object.map (·.handle))
    (users : UserTable) : Minds s ⟨b, { s.machine with users }⟩ := .of_untouched (.refl _) hb

/-! ## 2. Deeds -/

end Site

/-- No object is handed in, and none is written to but by transfers. -/
def DeedKind.Tame : DeedKind → Prop
  | .rename _ | .poke => False
  | _ => True

instance : DeedKind.Maps DeedKind.Tame := .of (by apply DeedKind.Opens.of <;> trivial) trivial

namespace Site

/-- **Every deed but the taking over of an object spares the neighbours.** What is filled or given
    back is the own object. -/
theorem Deed.minds {k : DeedKind} (h : s.Deed k t) (hk : k.Tame) : Minds s t := by
  have hmoved {o : BufferObject} (ho : s.buffer.object = some o) {d : MemoryDevice}
      (hd : s.machine.device.Alters o.handle d) : Minds s { s with machine.device := d } :=
    .of_alters ho hd fun p hp => by rw [Option.some.inj (ho.symm.trans hp)]
  have hleft {d : MemoryDevice} (hd : s.machine.device.Untouched d) :
      Minds s { s with machine.device := d } := .of_untouched hd rfl
  cases h with
  | entered h => exact .booked (by rw [h.object]) s.machine.users
  | users same users => exact .booked same users
  | made _ _ h ho =>
    rcases (MemoryDevice.makeObject_ends _ _).of_run h with ⟨he, -, hd⟩ | ⟨⟨f, hf⟩, -⟩
    · exact .of_adds hd rfl
        ((handle_of_enlist ho).trans (congrArg Placement.handle (Except.ok.inj he)))
    · cases hf
  | refused _ h =>
    rcases (MemoryDevice.makeObject_ends _ _).of_run h with ⟨he, -⟩ | ⟨-, -, rfl⟩
    · cases he
    · exact .refl s
  | @freed o ho _ j =>
    have hd := MemoryDevice.freeObject_ends s.machine.device o.handle j
    exact .of_alters ho ⟨hd.1, hd.2⟩ fun p hp => by cases hp
  | opened _ _ _ _ j => exact hleft (MemoryDevice.openMapping_untouched _ _ _ _ _ j)
  | closed _ _ j => exact hleft (MemoryDevice.closeMapping_ends _ _ _ j)
  | captured => exact hleft ⟨⟨rfl, rfl, rfl, rfl⟩, fun _ => rfl⟩
  | fenced => exact hleft ⟨⟨rfl, rfl, rfl, rfl⟩, fun _ => rfl⟩
  | uploaded ho _ _ _ j => exact hmoved ho (MemoryDevice.transfer_alters _ _ _ _ _ _ j)
  | stored ho _ _ _ _ j => exact hmoved ho (MemoryDevice.transfer_alters _ _ _ _ _ _ j)
  | readBack _ _ _ j => exact hleft (MemoryDevice.transfer_untouched _ _ _ _ _ j)
  | gathered _ _ _ _ j => exact hleft (MemoryDevice.transfer_untouched _ _ _ _ _ j)
  | replaced | given | poked => exact False.elim hk

theorem Deeds.minds (h : Deeds DeedKind.Tame s t) : Minds s t :=
  h.relates fun _ hk _ _ hd => hd.minds hk

end Site

open Site in
theorem Step.Relates.minds {p : Step (Site MemoryDevice) α} (h : p.Relates (Deeds DeedKind.Tame)) :
    p.Relates Minds := fun s => (h s).mono fun _ _ ht => ht.minds

open Site in
theorem Attempt.Relates.minds {a : Attempt (Site MemoryDevice) α}
    (h : a.Relates (Deeds DeedKind.Tame)) : a.Relates Minds := fun s =>
  (h s).mono fun _ _ ht => ht.minds

namespace Site

/-! ## 3. Operations -/

theorem runSource_minds (offset size : Nat) :
    (runSource offset size : Attempt (Site MemoryDevice) TransferSource).Relates Minds :=
  .minds (runSource_deeds offset size)

/-- **A copy reads its source and spares it.** -/
theorem copyRun_minds (offset : Nat) (source : TransferSource) (size : Nat) :
    (copyRun offset source size : Attempt (Site MemoryDevice) Unit).Relates Minds :=
  .minds (copyRun_deeds source trivial trivial)

theorem openFresh_minds (pin : Bool) (data : Option ByteArray) :
    (openFresh pin data : Attempt (Site MemoryDevice) Unit).Relates Minds :=
  .minds (openFresh_deeds trivial trivial (fun _ => trivial) (fun _ => trivial) pin data)

/-- What is mapped is the own object, or the shadow, so that only they are written to. -/
theorem Opened.writeMapped_minds {c : ByteArray} {offset size : Nat} {write : Bool} {m : Mapping}
    (h : Opened c offset size write s m) (data : ByteArray) :
    (writeMapped m data).Ends s fun _ t => Minds s t := by
  intro j
  unfold writeMapped
  cases h with
  | shadow _ _ _ _ =>
    simp only [wp_change]
    exact .of_untouched (.refl _) rfl
  | object o _ _ object _ _ _ =>
    exact .of_alters object (MemoryDevice.poke_alters _ _ _ _) fun p hp => by
      rw [Option.some.inj (object.symm.trans hp)]

/-- A write where nothing is mapped. -/
theorem write_minds {c : ByteArray} (hi : Idle c s) (ha : Aligned s) (offset : Nat)
    (data : ByteArray) (flags : MapFlags) :
    (write offset data flags).Ends s fun _ t => Minds s t := by
  have hwrite : (flags ∪ MapFlags.write).has MapFlags.write = true := by
    rw [FlagSet.has_union_left MapFlags.isFlag_write, Bool.or_eq_true]
    exact .inr (by decide)
  have hmap : (map offset data.size (flags ∪ MapFlags.write) :
      Attempt (Site MemoryDevice) Mapping).Relates Minds :=
    .minds (.deeds (map_phases fun _ => trivial))
  have hunmap : (unmap : Step (Site MemoryDevice) Unit).Relates Minds := .minds unmap_deeds
  intro j
  unfold write
  simp only [Attempt.wp_bind, Attempt.wp_always]
  refine ((map_ends hi ha fun _ => hwrite).and (hmap s)).wp fun r t k hboth => ?_
  obtain ⟨ht, hst⟩ := hboth
  rcases ht with ⟨m, c', rfl, -, -, -, -, -, hm⟩ | ⟨⟨f, rfl⟩, -⟩
  · refine (hm.writeMapped_minds data).wp fun _ u l hu => ?_
    exact (hunmap u).wp fun _ v i hv => (hst.trans hu).trans hv
  · exact hst

/-! ## 4. What the neighbours see -/

variable {A : ObjectHandle → Prop}

/-- The objects of `A` were created on the device, and none of them is the buffer's own. -/
def Apart (A : ObjectHandle → Prop) (s : Site MemoryDevice) : Prop :=
  ∀ a, A a → a.number < s.machine.device.nextHandle ∧ ∀ o, s.buffer.object = some o → a ≠ o.handle

/-- **The objects of `A` are left alone** from the device `d` on: they keep their content, and none
    of them becomes the object of the buffer. -/
structure Leaves (A : ObjectHandle → Prop) (d : MemoryDevice) (t : Site MemoryDevice) : Prop where
  refusesObjects : t.machine.device.refusesObjects = d.refusesObjects
  nextHandle : d.nextHandle ≤ t.machine.device.nextHandle
  bytes : ∀ a, A a → t.machine.device.bytes? a = d.bytes? a
  apart : Apart A t
  housed : t.Housed

theorem Minds.leaves (h : Minds s t) (hs : s.Housed) (hA : Apart A s) :
    Leaves A s.machine.device t := by
  refine ⟨h.refusesObjects, h.nextHandle, fun a ha => h.others a (hA a ha).1 (hA a ha).2,
    fun a ha => ⟨Nat.lt_of_lt_of_le (hA a ha).1 h.nextHandle, fun o ho he => ?_⟩, h.housed hs⟩
  rcases h.own o ho with ⟨p, hp, hhandle⟩ | hnew
  · exact (hA a ha).2 p hp (he.trans hhandle.symm)
  · rw [← he] at hnew
    exact Nat.not_lt_of_le hnew (hA a ha).1

theorem Leaves.next {d : MemoryDevice} (h : Leaves A d t) (h' : Minds t u) : Leaves A d u := by
  have hu := h'.leaves h.housed h.apart
  exact ⟨hu.refusesObjects.trans h.refusesObjects, Nat.le_trans h.nextHandle hu.nextHandle,
    fun a ha => (hu.bytes a ha).trans (h.bytes a ha), hu.apart, hu.housed⟩

/-- The object that is handed in takes the place of the buffer's own, which is given back. -/
theorem Deed.leaves {a : ObjectHandle} (hd : s.Deed (.rename a) t) (hA : Apart A s)
    (hforeign : ¬ A a) (hcreated : a.number < s.machine.device.nextHandle) :
    Leaves A s.machine.device t := by
  -- what is left to show once the object is in place
  have hput {b : Buffer} {o : BufferObject} {d : MemoryDevice} {users : UserTable}
      (hd : s.machine.device.SameKnobs d)
      (hbytes : ∀ h, A h → d.bytes? h = s.machine.device.bytes? h) (ho : o.handle = a) :
      Leaves A s.machine.device
        ⟨{ b with object := some o }, { s.machine with device := d, users }⟩ := by
    refine ⟨hd.refusesObjects, Nat.le_of_eq hd.nextHandle.symm, hbytes,
      fun b hb => ⟨Nat.lt_of_lt_of_eq (hA b hb).1 hd.nextHandle.symm, fun p hp he => ?_⟩,
      fun p hp => ?_⟩
    · rw [← Option.some.inj hp, ho] at he
      exact hforeign (he ▸ hb)
    · rw [← Option.some.inj hp, ho]
      exact Nat.lt_of_lt_of_eq hcreated hd.nextHandle.symm
  cases hd with
  | entered h => cases h
  | @replaced p _ _ _ hp _ ho j =>
    have hfreed := MemoryDevice.freeObject_ends s.machine.device p.handle j
    exact hput hfreed.1 (fun b hb => hfreed.2 b ((hA b hb).2 p hp)) (handle_of_moveUsers ho)
  | given bare ho => exact hput ⟨rfl, rfl, rfl, rfl⟩ (fun _ _ => rfl) (handle_of_enlist ho)

/-- **An upload object that is no neighbour's own** changes nothing for the neighbours, whether it
    is copied or becomes the object of the buffer. -/
theorem applyUpload_leaves {upload : Upload} (hs : s.Housed) (hA : Apart A s)
    (hcreated : upload.placement.handle.number < s.machine.device.nextHandle)
    (hforeign : upload.rename = true → ¬ A upload.placement.handle) (offset size : Nat) :
    (applyUpload upload offset size).Ends s fun _ t => Leaves A s.machine.device t := by
  cases hrename : upload.rename with
  | false =>
    have hminds : (applyUpload upload offset size : Attempt (Site MemoryDevice) Unit).Relates Minds :=
      .minds (applyUpload_deeds (fun h => absurd (hrename.symm.trans h) Bool.false_ne_true)
        fun _ => ⟨trivial, trivial⟩)
    exact (hminds s).mono fun _ _ h => h.leaves hs hA
  | true =>
    refine (applyUpload_replaces (K := DeedKind.Tame) hrename s).mono fun _ t ht => ?_
    split at ht
    · obtain ⟨u, hu, ht⟩ := ht
      exact (hu.leaves hA (hforeign hrename) hcreated).next ht.minds
    · rw [ht]
      exact (Minds.refl s).leaves hs hA

end Site

end BufferCoherence
