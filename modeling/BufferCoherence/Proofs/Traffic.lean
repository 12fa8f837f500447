import BufferCoherence.Proofs.Calls
import BufferCoherence.Proofs.Creation
import BufferCoherence.Proofs.Extents
import BufferCoherence.Proofs.Fleet
import BufferCoherence.Proofs.Isolation
import Mathlib.Logic.Relation

/-!
# What a buffer has copied

Which transfers a buffer asks its device for, on every device and whatever fails. What is copied
from object to object is one range; what is copied from the host into an object are the spans that
the object lacks, and there may be none of them. A range is empty only where something empty was
asked for: a copy of no bytes, or a report of a change that is about no byte (`Call.Full`).

* `Care` is what those take care of who ask a device, and `Device.Carries` what it means for a
  transfer. `Device.Serves` is one call of a device, its transfers with care.
* What carries the ranges through a buffer is that its record of changed spans is without empty ones
  (`Buffer.Filled`). `Site.Sends` is that a buffer which was filled is filled, and that its device
  was served: so it is with every deed that reports and copies with care (`Site.Deed.sends`).
* **`Call.perform_sends`**, `Pair.copy_sends`, `Machine.create_sends` and `RingCall.carryOut_sends`
  sum them up. A buffer never asks for a copy within its object without a range.
-/

namespace BufferCoherence

/-! ## 1. What a device is asked -/

/-- What those who ask a device take care of, if they do. -/
structure Care where
  /-- No transfer within one object is without a range. -/
  ranged : Prop
  /-- Nothing empty is asked for. -/
  full : Prop

variable {δ α : Type} {care : Care}

/-- A transfer asked for with care: one within an object has a range, and every range has a byte. -/
structure Device.Carries (care : Care) (target : TransferTarget) (source : TransferSource)
    (ranges : List ByteRange) : Prop where
  ranged : care.ranged → ∀ h base start, target = .object h base → source = .object h start →
    ranges ≠ []
  filled : care.full → ∀ r ∈ ranges, 0 < r.size

/-- A transfer of one range. -/
theorem Device.Carries.one {target : TransferTarget} {source : TransferSource} {r : ByteRange}
    (h : care.full → 0 < r.size) : Device.Carries care target source [r] :=
  ⟨fun _ _ _ _ _ _ => List.cons_ne_nil _ _, fun hf => List.forall_mem_singleton.mpr (h hf)⟩

/-- A transfer of bytes of the host. -/
theorem Device.Carries.hosted {target : TransferTarget} {data : ByteArray}
    {ranges : List ByteRange} (h : care.full → ∀ r ∈ ranges, 0 < r.size) :
    Device.Carries care target (.host data) ranges :=
  ⟨fun _ _ _ _ _ hs => (nomatch hs), h⟩

/-- **A call of a device.** -/
inductive Device.Serves [Device δ] (care : Care) (d : δ) : δ → Prop where
  | made (request : ObjectRequest) (j : Journal) :
      Serves care d ((Device.makeObject request).run d j).1.2
  | freed (h : ObjectHandle) (j : Journal) : Serves care d (Device.freeObject h d j).1.2
  | transferred {target : TransferTarget} {source : TransferSource} {ranges : List ByteRange}
      (h : Device.Carries care target source ranges) (flags : MapFlags) (j : Journal) :
      Serves care d (Device.transfer target source ranges flags d j).1.2
  | opened (h : ObjectHandle) (offset size : Nat) (flags : MapFlags) (j : Journal) :
      Serves care d ((Device.openMapping h offset size flags).run d j).1.2
  | closed (h : ObjectHandle) (ranges : List ByteRange) (j : Journal) :
      Serves care d (Device.closeMapping h ranges d j).1.2
  | fenced (b : Barrier) (j : Journal) : Serves care d (Device.recordBarrier b d j).1.2
  | captured (j : Journal) : Serves care d (Device.endCapture d j).1.2
  | poked (h : ObjectHandle) (position : Nat) (data : ByteArray) :
      Serves care d (Device.poke h position data d)

/-! ## 2. Records without empty spans -/

/-- A report of a change is about some byte: it has one, or it stands for the whole buffer. -/
def Reporting (offset size : Nat) : Prop := offset = 0 ∨ 0 < size

instance (offset size : Nat) : Decidable (Reporting offset size) :=
  inferInstanceAs (Decidable (_ ∨ _))

/-- The record is of a buffer with bytes, and each of its spans has one. -/
def DirtySpans.Filled (d : DirtySpans) : Prop := 0 < d.size ∧ ∀ r ∈ d.spans, 0 < r.size

namespace DirtySpans.Filled

variable {d : DirtySpans}

theorem markAll (h : d.Filled) : d.markAll.Filled := ⟨h.1, List.forall_mem_singleton.mpr h.1⟩

theorem clear (h : d.Filled) : d.clear.Filled := ⟨h.1, fun _ hr => absurd hr List.not_mem_nil⟩

theorem mark {offset size : Nat} (h : d.Filled) (hr : Reporting offset size) :
    (d.mark offset size).Filled := by
  unfold DirtySpans.mark
  split
  · exact h.markAll
  · exact h.markAll
  · exact h.markAll
  · exact h.markAll
  · exact h
  · rename_i hrecorded
    have hpos : 0 < size := by
      rcases hr with rfl | hpos
      · refine Nat.pos_of_ne_zero fun hzero => ?_
        -- a report of nothing at the start stands for the whole buffer
        subst hzero
        cases hrecorded
      · exact hpos
    refine ⟨h.1, fun r hr => ?_⟩
    rcases List.mem_append.mp hr with hold | hnew
    · exact h.2 r hold
    · rw [List.mem_singleton.mp hnew]
      exact hpos

end DirtySpans.Filled

/-- The buffer has bytes, and each span that its object lacks has one. -/
def Buffer.Filled (b : Buffer) : Prop := 0 < b.size ∧ b.dirty.Filled

namespace Buffer.Filled

variable {b : Buffer}

theorem markValid (h : b.Filled) (l : Location) : (b.markValid l).Filled := by
  refine ⟨h.1, ?_⟩
  unfold Buffer.markValid
  dsimp only
  split
  · exact h.2.clear
  · exact h.2

theorem markStale {offset size : Nat} (h : b.Filled) (l : Location) (hr : Reporting offset size) :
    (b.markStale l offset size).Filled := by
  refine ⟨h.1, ?_⟩
  unfold Buffer.markStale
  dsimp only
  split
  · exact h.2.mark hr
  · exact h.2

theorem restartBarriers (h : b.Filled) : b.restartBarriers.Filled := by
  obtain ⟨backend, hb, -⟩ := Site.restartBarriers_eq b
  rw [hb]
  exact h

end Buffer.Filled

/-! ## 3. Sending -/

namespace Site

/-- **What a buffer sends to its device.** Where nothing empty is asked for, it has to be filled. -/
def Sends [Device δ] (care : Care) (s t : Site δ) : Prop :=
  (care.full → s.buffer.Filled) → (care.full → t.buffer.Filled) ∧
    Relation.ReflTransGen (Device.Serves care) s.machine.device t.machine.device

variable [Device δ]

instance : IsPreorder (Site δ) (Sends care) where
  refl _ h := ⟨h, .refl⟩
  trans _ _ _ h h' hs :=
    have ht := h hs
    have hu := h' ht.1
    ⟨hu.1, ht.2.trans hu.2⟩

/-- Whoever sends may count on the buffer it began with. -/
theorem sends_of_filled {a : Attempt (Site δ) α} {s : Site δ}
    (h : (care.full → s.buffer.Filled) → a.Ends s fun _ t => s.Sends care t) :
    a.Ends s fun _ t => s.Sends care t := fun j hs => h hs j hs

end Site

/-- The deeds that report and copy with care. -/
def DeedKind.Careful (care : Care) : DeedKind → Prop
  | .report offset size | .disclaim offset size => care.full → Reporting offset size
  | .copy size => care.full → 0 < size
  | _ => True

instance : DeedKind.Maps (DeedKind.Careful care) :=
  .of (.of trivial (fun _ => .inl rfl) trivial trivial trivial trivial trivial trivial) trivial

/-- An entry keeps a buffer filled, where it is made with care. -/
theorem Buffer.Entry.filled {b b' : Buffer} {k : DeedKind} (h : b.Entry k b')
    (hk : k.Careful care) (hf : care.full) (hb : b.Filled) : b'.Filled := by
  cases h with
  | valid | sown | claimed => exact hb.markValid _
  | stale | disclaimed => exact hb.markStale _ (hk hf)
  | dirtied => exact ⟨hb.1, hb.2.mark (hk hf)⟩
  | flushed | vacated => exact ⟨hb.1, hb.2.clear⟩
  | restarted => exact hb.restartBarriers
  | _ => exact hb

namespace Site

variable [Device δ]

/-- **What a deed sends to the device.** The spans that an object lacks have bytes, and so has the
    buffer. -/
theorem Deed.sends {s t : Site δ} {k : DeedKind} (h : s.Deed k t) (hk : k.Careful care) :
    s.Sends care t := by
  have hcall {d : δ} (hd : (care.full → s.buffer.Filled) →
      Device.Serves care s.machine.device d) : s.Sends care { s with machine.device := d } :=
    fun hs => ⟨hs, .single (hd hs)⟩
  have hasked {request : ObjectRequest} {r : Except Failure Placement} {d : δ} {j k : Journal}
      (h : (Device.makeObject request).run s.machine.device j = ((r, d), k)) :
      Device.Serves care s.machine.device d := by
    have hmade : Device.Serves care s.machine.device
        ((Device.makeObject request).run s.machine.device j).1.2 := .made request j
    rwa [h] at hmade
  cases h with
  | entered h => exact fun hs => ⟨fun hf => h.filled hk hf (hs hf), .refl⟩
  | users => exact fun hs => ⟨hs, .refl⟩
  | made _ _ h _ =>
    exact fun hs => ⟨fun hf => ⟨(hs hf).1, (hs hf).2.markAll⟩, .single (hasked h)⟩
  | refused _ h => exact hcall fun _ => hasked h
  | freed _ _ j => exact fun hs => ⟨hs, .single (.freed _ j)⟩
  | replaced _ _ j => exact fun hs => ⟨fun hf => (hs hf).restartBarriers, .single (.freed _ j)⟩
  | given => exact fun hs => ⟨fun hf => (hs hf).restartBarriers, .refl⟩
  | opened _ _ _ _ j => exact hcall fun _ => .opened _ _ _ _ j
  | closed _ _ j => exact hcall fun _ => .closed _ _ j
  | captured j => exact hcall fun _ => .captured j
  | fenced _ j => exact hcall fun _ => .fenced _ j
  | uploaded _ _ _ flags j =>
    exact hcall fun hs => .transferred (.hosted fun hf => (hs hf).2.2) flags j
  | readBack _ _ flags j => exact hcall fun hs => .transferred (.one fun hf => (hs hf).1) flags j
  | stored _ _ _ _ flags j => exact hcall fun _ => .transferred (.one fun hf => hk hf) flags j
  | gathered _ _ _ flags j => exact hcall fun _ => .transferred (.one fun hf => hk hf) flags j
  | poked => exact hcall fun _ => .poked _ _ _

end Site

section Sends

open Site

variable [Device δ]

theorem Step.Relates.sends {p : Step (Site δ) α}
    (h : p.Relates (Deeds (DeedKind.Careful care))) : p.Relates (Sends care) := fun s =>
  (h s).mono fun _ _ ht => ht.relates fun _ hk _ _ hd => hd.sends hk

theorem Attempt.Relates.sends {a : Attempt (Site δ) α}
    (h : a.Relates (Deeds (DeedKind.Careful care))) : a.Relates (Sends care) := fun s =>
  (h s).mono fun _ _ ht => ht.relates fun _ hk _ _ hd => hd.sends hk

end Sends

namespace Site

variable [Device δ]

theorem requireRun_sends (offset size : Nat) :
    (requireRun offset size : Attempt (Site δ) Unit).Relates (Sends care) :=
  .sends (requireRun_deeds offset size)

theorem copyRun_sends (offset : Nat) (source : TransferSource) {size : Nat}
    (hsize : care.full → 0 < size) :
    (copyRun offset source size : Attempt (Site δ) Unit).Relates (Sends care) :=
  .sends (copyRun_deeds source hsize fun hf => .inr (hsize hf))

theorem runSource_sends (offset size : Nat) :
    (runSource offset size : Attempt (Site δ) TransferSource).Relates (Sends care) :=
  .sends (runSource_deeds offset size)

/-- What a mapping reports as changed where it is for writing. -/
def Reported (care : Care) (flags : MapFlags) (dirty : ByteRange) : Prop :=
  care.full → flags.has MapFlags.write = true → Reporting dirty.offset dirty.size

/-- A mapping reports its range, or the whole buffer. -/
theorem map_sends {offset size : Nat} {flags : MapFlags}
    (hd : Reported care flags ⟨offset, size⟩) :
    (map offset size flags : Attempt (Site δ) Mapping).Relates (Sends care) :=
  .sends (.deeds (map_phases fun hw hf => hd hf hw))

theorem unmap_sends : (unmap : Step (Site δ) Unit).Relates (Sends care) := .sends unmap_deeds

theorem writeMapped_sends (m : Mapping) (data : ByteArray) :
    (writeMapped m data : Step (Site δ) Unit).Relates (Sends care) :=
  .sends (writeMapped_deeds trivial m data)

theorem destroy_sends : (destroy : Step (Site δ) Unit).Relates (Sends care) :=
  .sends (destroy_deeds trivial)

/-- The first content has as many bytes as there are of it and as fit in. -/
theorem openFresh_sends (pin : Bool) {data : Option ByteArray}
    (hdata : ∀ d, data = some d → 0 < d.size) :
    (openFresh pin data : Attempt (Site δ) Unit).Relates (Sends care) := by
  refine .bind (.always (.outcome (.sends (openStorage_deeds pin)))) fun r => ?_
  split
  · exact .bind (.always (.sends (abandon_deeds trivial))) fun _ => .throw _
  · split
    · exact .pure _
    · rename_i d
      refine fun s => sends_of_filled fun hs j => ?_
      rw [Attempt.wp_bind, Attempt.wp_always, wp_current]
      have hpos : care.full → 0 < (Bytes.take d s.buffer.size).size := fun hf => by
        rw [Bytes.size_take]
        exact Nat.lt_min.mpr ⟨(hs hf).1, hdata d rfl⟩
      have hfill : (fillFresh (Bytes.take d s.buffer.size) : Attempt (Site δ) Unit).Relates
          (Sends care) :=
        .sends (fillFresh_deeds trivial hpos fun hf => .inr (hpos hf))
      refine Attempt.Relates.bind (.always (.outcome hfill)) (fun r => ?_) s j
      split
      · exact .pure _
      · exact .bind (.always destroy_sends) fun _ => .throw _

end Site

variable [Device δ]

/-- **A buffer that is created is filled**, since none is created without bytes. -/
theorem Machine.create_sends (care : Care) (m : Machine δ) (request : BufferRequest)
    (data : Option ByteArray) (settings : Settings) :
    (create request data settings).Ends m fun r m' =>
      Relation.ReflTransGen (Device.Serves care) m.device m'.device ∧
        ∀ b, r = .ok b → care.full → b.Filled := by
  refine create_opens (fun f => ⟨.refl, fun b hb => absurd hb (f.ne_ok b)⟩)
    fun hfault backend objectAllowed _ _ => ?_
  have hpos := size_pos_of_fault? hfault
  have hdata : ∀ d, data = some d → 0 < d.size := fun d hd =>
    Nat.lt_of_lt_of_le hpos (size_le_of_fault? hfault d hd)
  have hopen : (Site.openFresh ((request.granted settings).pinned settings) data :
      Attempt (Site δ) Unit).Relates (Site.Sends care) := Site.openFresh_sends _ hdata
  refine (hopen _).mono fun r t ht => ?_
  have hfresh : (m.freshBuffer (request.granted settings) backend objectAllowed
      settings).buffer.Filled := by
    rw [← size_granted request settings] at hpos
    exact ⟨hpos, hpos, fun _ hr => absurd hr List.not_mem_nil⟩
  obtain ⟨hfilled, hserved⟩ := ht fun _ => hfresh
  refine ⟨hserved, fun b hb => ?_⟩
  cases r with
  | error f => cases hb
  | ok _ =>
    cases hb
    exact hfilled

/-! ## 4. Two buffers -/

namespace Pair

/-- What two buffers send to the device that both are on. -/
def Sends (care : Care) (p q : Pair δ) : Prop :=
  (care.full → p.target.Filled ∧ p.source.Filled) →
    (care.full → q.target.Filled ∧ q.source.Filled) ∧
      Relation.ReflTransGen (Device.Serves care) p.machine.device q.machine.device

instance : IsPreorder (Pair δ) (Sends care) where
  refl _ h := ⟨h, .refl⟩
  trans _ _ _ h h' hs :=
    have ht := h hs
    have hu := h' ht.1
    ⟨hu.1, ht.2.trans hu.2⟩

variable {a : Attempt (Site δ) α}

theorem onTarget_sends (h : a.Relates (Site.Sends care)) : (onTarget a).Relates (Sends care) := by
  intro p j
  rw [wp_onTarget]
  refine (h _).wp fun _ t _ ht hp => ?_
  obtain ⟨hfilled, hserved⟩ := ht fun hf => (hp hf).1
  exact ⟨fun hf => ⟨hfilled hf, (hp hf).2⟩, hserved⟩

theorem onSource_sends (h : a.Relates (Site.Sends care)) : (onSource a).Relates (Sends care) := by
  intro p j
  rw [wp_onSource]
  refine (h _).wp fun _ t _ ht hp => ?_
  obtain ⟨hfilled, hserved⟩ := ht fun hf => (hp hf).2
  exact ⟨fun hf => ⟨(hp hf).1, hfilled hf⟩, hserved⟩

theorem copy_sends (offset sourceOffset : Nat) {size : Nat} (hsize : care.full → 0 < size) :
    (copy offset sourceOffset size : Attempt (Pair δ) Unit).Relates (Sends care) :=
  .bind (onTarget_sends (Site.requireRun_sends _ _)) fun _ =>
    .bind (onSource_sends (Site.requireRun_sends _ _)) fun _ =>
      .bind (onSource_sends (Site.runSource_sends _ _)) fun _ =>
        onTarget_sends (Site.copyRun_sends _ _ hsize)

end Pair

/-! ## 5. Calls -/

section Calls

open Site

/-- The operation copies no empty run, and reports no change that is about no byte. -/
def Operation.Full : Operation → Prop
  | .write offset data _ => Reporting offset data.size
  | .store _ data => 0 < data.size
  | .move _ _ size | .upload _ _ size => 0 < size
  | .read .. | .content | .refresh _ | .keepShadow | .draw _ | .vacate | .dropObject => True

/-- The call copies no empty run, and reports no change that is about no byte. -/
def Call.Full : Call → Prop
  | .complete op => op.Full
  | .map offset size flags => flags.has MapFlags.write = true → Reporting offset size
  | .declareStale _ offset size => Reporting offset size
  | .copy _ _ size => 0 < size
  | .unmap | .poke .. | .address | .declareCurrent _ | .lend .. | .rename _ | .enlist _ |
    .delist _ | .barrier _ | .info => True

instance (op : Operation) : Decidable op.Full := by
  cases op <;> unfold Operation.Full <;> infer_instance

instance (c : Call) : Decidable c.Full := by
  cases c <;> unfold Call.Full <;> infer_instance

theorem Operation.perform_sends (op : Operation) (h : care.full → op.Full) :
    (op.perform : Attempt (Site δ) (Option ByteArray)).Relates (Sends care) := by
  refine .sends (Operation.perform_deeds ?_)
  cases op with
  | write => exact ⟨trivial, h⟩
  | store | move => exact ⟨h, fun hf => .inr (h hf)⟩
  | upload => exact ⟨fun _ => trivial, fun _ => ⟨h, fun hf => .inr (h hf)⟩⟩
  | read | content | refresh | keepShadow | draw | vacate | dropObject => trivial

/-- **What a call sends to the device**, whichever calls of the device fail. -/
theorem Call.perform_sends (c : Call) (h : care.full → c.Full) :
    (c.perform : Step (Site δ) (Option Mapping)).Relates (Sends care) := by
  by_cases hop : ∃ op, c = .complete op
  · obtain ⟨op, rfl⟩ := hop
    exact .discard (.outcome (op.perform_sends h))
  refine .sends (Call.perform_deeds ?_)
  cases c with
  | complete op => exact absurd ⟨op, rfl⟩ hop
  | map => exact fun hw hf => h hf hw
  | declareStale => exact h
  | copy => exact ⟨h, fun hf => .inr (h hf)⟩
  | unmap | poke | address | declareCurrent | lend | rename | enlist | delist | barrier | info =>
    trivial

end Calls

/-! ## 6. Rings -/

/-- The buffer of the ring is filled, if there is one. -/
def Ring.Filled (r : Ring) : Prop := ∀ b, r.buffer = some b → b.Filled

namespace RingSite

/-- What a ring sends to its device. -/
def Sends (care : Care) (s t : RingSite δ) : Prop :=
  (care.full → s.ring.Filled) → (care.full → t.ring.Filled) ∧
    Relation.ReflTransGen (Device.Serves care) s.machine.device t.machine.device

instance : IsPreorder (RingSite δ) (Sends care) where
  refl _ h := ⟨h, .refl⟩
  trans _ _ _ h h' hs :=
    have ht := h hs
    have hu := h' ht.1
    ⟨hu.1, ht.2.trans hu.2⟩

theorem current_sends : (current : Step (RingSite δ) Ring).Relates (Sends care) := .get

theorem change_sends {f : Ring → Ring} (h : ∀ r : Ring, r.Filled → (f r).Filled) :
    (change f : Step (RingSite δ) Unit).Relates (Sends care) :=
  fun s _ hs => ⟨fun hf => h s.ring (hs hf), .refl⟩

theorem onBuffer_sends {p : Step (Site δ) α} (h : p.Relates (Site.Sends care)) :
    (onBuffer p).Relates (Sends care) := by
  intro s j
  rw [wp_onBuffer]
  split
  · exact refl_of (Sends care) s
  · rename_i b hb
    refine (h _).wp fun _ t _ ht hs => ?_
    obtain ⟨hfilled, hserved⟩ := ht fun hf => hs hf b hb
    refine ⟨fun hf b' hb' => ?_, hserved⟩
    cases hb'
    exact hfilled hf

theorem destroyBuffer_sends : (destroyBuffer : Step (RingSite δ) Unit).Relates (Sends care) :=
  .bind (fun s j => onBuffer_sends Site.destroy_sends s j) fun _ => change_sends fun _ _ _ hb =>
    nomatch hb

theorem enlarge_sends (size : Nat) :
    (enlarge size : Attempt (RingSite δ) Unit).Relates (Sends care) := by
  intro s j
  unfold enlarge
  simp only [Attempt.wp_bind, Attempt.wp_always, wp_current, Attempt.wp_note, wp_onMachine]
  refine (Machine.create_sends care _ _ _ _).wp fun r m k hm => ?_
  obtain ⟨hserved, hnew⟩ := hm
  cases r with
  | error f => exact fun hs => ⟨hs, hserved⟩
  | ok b =>
    have hdestroy : (destroyBuffer : Step (RingSite δ) Unit).Relates (Sends care) :=
      destroyBuffer_sends
    refine (hdestroy _).wp fun _ t l ht hs => ?_
    refine ⟨fun hf b' hb' => ?_, hserved.trans (ht hs).2⟩
    cases hb'
    exact hnew b rfl hf

/-- A region is for writing, and has bytes. -/
theorem mapFitting_sends {size : Nat} (hsize : size ≠ 0) (stride : Nat) :
    (mapFitting size stride : Attempt (RingSite δ) RingRegion).Relates (Sends care) := by
  have hplaced (position : Nat) (policy : WritePolicy) :
      (mapPlaced position size policy : Attempt (RingSite δ) Mapping).Relates (Sends care) := by
    have hmap : (Site.map position size (MapFlags.write ∪ policy.flags) :
        Attempt (Site δ) Mapping).Relates (Site.Sends care) :=
      Site.map_sends fun _ _ => .inr (Nat.pos_of_ne_zero hsize)
    refine .bind (.always (onBuffer_sends (.outcome hmap))) fun o => ?_
    split
    · exact .refuse _ _
    · exact .answer _
  refine .bind (.always current_sends) fun r => ?_
  dsimp only
  exact .bind (hplaced _ _) fun _ => .bind (.note _) fun _ =>
    .bind (.always (change_sends fun _ h => h)) fun _ => .pure _

theorem map_sends (size stride : Nat) :
    (map size stride : Attempt (RingSite δ) RingRegion).Relates (Sends care) := by
  rw [map_eq]
  refine .bind (.always current_sends) fun r => .ite (.refuse _ _) ?_
  split
  · exact .refuse _ _
  · rename_i hsize
    exact .ite (.bind (enlarge_sends _) fun _ => mapFitting_sends hsize stride)
      (mapFitting_sends hsize stride)

theorem unmap_sends : (unmap : Step (RingSite δ) Unit).Relates (Sends care) :=
  .bind current_sends fun _ => .ite (.note _)
    (.bind (fun s j => onBuffer_sends Site.unmap_sends s j) fun _ => change_sends fun _ h => h)

theorem append_sends (data : ByteArray) (stride : Nat) :
    (append data stride : Attempt (RingSite δ) Nat).Relates (Sends care) :=
  .bind (map_sends _ _) fun _ =>
    .bind (fun s j => onBuffer_sends (Site.writeMapped_sends _ _) s j) fun _ =>
      .bind (.always unmap_sends) fun _ => .pure _

theorem destroy_sends : (destroy : Step (RingSite δ) Unit).Relates (Sends care) :=
  .bind current_sends fun _ => .ite (.bind unmap_sends fun _ => destroyBuffer_sends)
    destroyBuffer_sends

end RingSite

namespace RingCall

/-- The call performed, on any device. -/
def carryOut : RingCall → Step (RingSite δ) Unit
  | map size stride => Functor.discard (RingSite.map size stride).outcome
  | unmap => RingSite.unmap
  | append data stride => Functor.discard (RingSite.append data stride).outcome
  | buffer c => Functor.discard (RingSite.onBuffer c.perform)

/-- The call copies no empty run, and reports no change that is about no byte; a ring does neither
    on its own. -/
def Full : RingCall → Prop
  | buffer c => c.Full
  | _ => True

instance (c : RingCall) : Decidable c.Full := by
  cases c <;> unfold Full <;> infer_instance

theorem carryOut_sends (c : RingCall) (h : care.full → c.Full) :
    (c.carryOut : Step (RingSite δ) Unit).Relates (RingSite.Sends care) := by
  cases c with
  | map size stride => exact fun s j => RingSite.map_sends size stride s j
  | unmap => exact RingSite.unmap_sends
  | append data stride => exact fun s j => RingSite.append_sends data stride s j
  | buffer c => exact fun s j => RingSite.onBuffer_sends (c.perform_sends h) s j

end RingCall

end BufferCoherence
