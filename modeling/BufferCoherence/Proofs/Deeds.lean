import BufferCoherence.Buffer.Creation
import BufferCoherence.Proofs.Mapping

/-!
# What an operation does, deed by deed

Every operation on a buffer is a sequence of deeds, on any device. A `Deed` is one entry in the
records of the buffer or one call of the device, together with what is known of the buffer at that
moment: that an object which is filled is the buffer's own, that a shadow which is pinned is current,
that an object is given back after the capture into it is over.

* `Buffer.Entry` are the entries and `Site.Deed` is all that can happen at once; a `DeedKind` says
  what else it depends on whether a deed is harmless;
* `Site.Deeds K` are the sequences of deeds of the kinds `K`. The classes `DeedKind.InPlace` to
  `DeedKind.Maps` say which kinds there are in the layers of operations, and one lemma for each
  definition says which layer it belongs to, whatever the device answers and whether it fails or not;
* **`Site.Deeds.relates`**: what every deed keeps between before and after, every operation keeps. A
  relation is checked against the deeds, and no operation is opened for it again.
-/

namespace BufferCoherence

variable {δ α β : Type}

/-! ## 1. Deeds -/

/-- What a deed is about. -/
inductive DeedKind where
  /-- An entry that is about neither of the kinds below. -/
  | book
  /-- A span of the buffer reported as changed, or the whole of it where both numbers are zero. -/
  | report (offset size : Nat)
  /-- A copy declared current by the client, whichever. -/
  | claim
  /-- A span declared stale by the client, wherever. -/
  | disclaim (offset size : Nat)
  /-- The layout of a draw analysed. -/
  | analyse
  /-- The number of mappings, or the mapping of the object. -/
  | hold
  /-- The shadow given up, since the object was loaded. -/
  | release
  /-- The shadow given up, since its content is thrown away. -/
  | discard
  /-- Bytes taken as the whole of a shadow, however many they are. -/
  | seed
  /-- The users of the object, or of the machine. -/
  | users
  /-- An object made for a buffer without one, or refused. -/
  | make
  /-- The object given back to the device. -/
  | free
  /-- An object handed in, in place of the one there was. -/
  | rename (h : ObjectHandle)
  /-- A call of the device that moves no bytes. -/
  | call
  /-- A transfer of the spans that the object lacks, or of the whole buffer to the host. -/
  | load
  /-- A transfer of so many bytes. -/
  | copy (size : Nat)
  /-- Bytes written through a mapping of an object. -/
  | poke

/-- There is a shadow, and it is all zeroes. -/
def Buffer.IsBlank (b : Buffer) : Prop := ∃ n, b.shadow = some (Bytes.zeros n)

/-- One entry in the records of a buffer. -/
inductive Buffer.Entry (b : Buffer) : DeedKind → Buffer → Prop where
  | valid {l : Location} (hl : l.has Location.cleared = false)
      (hd : l.has Location.discarded = true → b.locations.has Location.cleared = false)
      (blank : l.has Location.sysmem = true → b.locations.has Location.cleared = true →
        b.locations.has Location.discarded = true ∨ b.IsBlank) :
      Entry b .book (b.markValid l)
  | stale {l : Location} (offset size : Nat) (hl : l.has Location.sysmem = true →
      l.has Location.cleared = true ∨ b.pinned = false) :
      Entry b (.report offset size) (b.markStale l offset size)
  | claimed (l : Location) : Entry b .claim (b.markValid l)
  | disclaimed (l : Location) (offset size : Nat) :
      Entry b (.disclaim offset size) (b.markStale l offset size)
  | dirtied (offset size : Nat) :
      Entry b (.report offset size) { b with dirty := b.dirty.mark offset size }
  | flushed : Entry b .book { b with dirty := b.dirty.clear }
  | shadowed (room : b.size ≤ Bytes.largestRun) :
      Entry b .book { b with shadow := some (Bytes.zeros b.size) }
  | zeroed {m : ByteArray} (hm : b.shadow = some m) :
      Entry b .book { b with shadow := some (Bytes.zeros m.size) }
  | loaded {m m' : ByteArray} (hm : b.shadow = some m) (hsize : m'.size = m.size)
      (stale : b.locations.has Location.sysmem = false) :
      Entry b .book { b with shadow := some m' }
  | copied {m m' : ByteArray} (size : Nat) (hm : b.shadow = some m) (hsize : m'.size = m.size) :
      Entry b (.copy size) { b with shadow := some m' }
  | poked {m m' : ByteArray} (hm : b.shadow = some m) (hsize : m'.size = m.size) :
      Entry b .poke { b with shadow := some m' }
  | seeded (m : ByteArray) : Entry b .seed { b with shadow := some m }
  | sown : Entry b .seed (b.markValid Location.sysmem)
  | pinned (hs : b.locations.has Location.sysmem = true) : Entry b .book { b with pinned := true }
  | keptFresh : Entry b .book { b with pinned := true, locations := Location.sysmem }
  | released (loose : b.pinned = false) (steady : b.isDynamic = false)
      (stale : b.locations.has Location.sysmem = false) :
      Entry b .release { b with shadow := none }
  | discarded (loose : b.pinned = false) (stale : b.locations.has Location.sysmem = false) :
      Entry b .discard { b with shadow := none }
  | forbidden : Entry b .book { b with objectAllowed := false }
  | vacated : Entry b .book { b with dirty := b.dirty.clear, conversion := .fresh }
  | counted (hysteresis : Hysteresis) : Entry b .book { b with hysteresis }
  | analysed (conversion : ConversionState) : Entry b .analyse { b with conversion }
  | tracked {tracker tracker' : HazardTracker} (hb : b.backend = .modern tracker) :
      Entry b .book { b with backend := .modern tracker' }
  | restarted : Entry b .book b.restartBarriers
  | held (mapCount : Nat) (mapBase : Option MapBase) : Entry b .hold { b with mapCount, mapBase }

/-- No entry is about the object. -/
theorem Buffer.Entry.object {b b' : Buffer} {k : DeedKind} (h : b.Entry k b') :
    b'.object = b.object := by
  cases h with
  | restarted => exact Site.object_restartBarriers b
  | _ => rfl

namespace Site

variable [Device δ] {s t u : Site δ} {k : DeedKind} {K : DeedKind → Prop}

/-- **One entry in the records, or one call of the device.** -/
inductive Deed (s : Site δ) : DeedKind → Site δ → Prop where
  | entered {k : DeedKind} {b : Buffer} (h : s.buffer.Entry k b) : Deed s k { s with buffer := b }
  | users {object : Option BufferObject}
      (same : object.map (·.handle) = s.buffer.object.map (·.handle)) (users : UserTable) :
      Deed s .users ⟨{ s.buffer with object }, { s.machine with users }⟩
  | made {request : ObjectRequest} {a : Placement} {d : δ} {j j' : Journal}
      (allowed : s.buffer.objectAllowed = true) (bare : s.buffer.object = none)
      (h : (Device.makeObject request).run s.machine.device j = ((.ok a, d), j'))
      {o : BufferObject} {users : UserTable}
      (ho : (BufferObject.new a s.buffer.size).enlist s.machine.users s.buffer.user = (o, users)) :
      Deed s .make ⟨{ s.buffer with object := some o, dirty := s.buffer.dirty.markAll },
        { s.machine with device := d, users }⟩
  | refused {request : ObjectRequest} {f : Failure} {d : δ} {j j' : Journal}
      (allowed : s.buffer.objectAllowed = true)
      (h : (Device.makeObject request).run s.machine.device j = ((.error f, d), j')) :
      Deed s .make { s with machine.device := d }
  | freed {o : BufferObject} (ho : s.buffer.object = some o)
      (settled : s.buffer.backend.kind = .legacy → s.buffer.bind.has BindFlags.streamOutput = true →
        Device.captureActive s.machine.device o.handle = true →
          ∃ f i, s.machine.device = (Device.endCapture f i).1.2) (j : Journal) :
      Deed s .free ⟨{ s.buffer with object := none }, { s.machine with
        device := (Device.freeObject o.handle s.machine.device j).1.2
        users := (o.dismissUsers s.machine.users).2 }⟩
  | replaced {p p' o : BufferObject} {users : UserTable} (hp : s.buffer.object = some p)
      {a : Placement} (ho : p.moveUsers (.new a s.buffer.size) s.machine.users = (p', o, users))
      (j : Journal) :
      Deed s (.rename a.handle) ⟨{ s.buffer.restartBarriers with object := some o },
        { s.machine with device := (Device.freeObject p.handle s.machine.device j).1.2, users }⟩
  | given (bare : s.buffer.object = none) {a : Placement} {o : BufferObject} {users : UserTable}
      (ho : (BufferObject.new a s.buffer.size).enlist s.machine.users s.buffer.user = (o, users)) :
      Deed s (.rename a.handle) ⟨{ s.buffer.restartBarriers with object := some o },
        { s.machine with users }⟩
  | opened (h : ObjectHandle) (offset size : Nat) (flags : MapFlags) (j : Journal) :
      Deed s .call { s with machine.device :=
        ((Device.openMapping h offset size flags).run s.machine.device j).1.2 }
  | closed (h : ObjectHandle) (ranges : List ByteRange) (j : Journal) :
      Deed s .call { s with
        machine.device := (Device.closeMapping h ranges s.machine.device j).1.2 }
  | captured (j : Journal) :
      Deed s .call { s with machine.device := (Device.endCapture s.machine.device j).1.2 }
  | fenced (b : Barrier) (j : Journal) :
      Deed s .call { s with machine.device := (Device.recordBarrier b s.machine.device j).1.2 }
  | uploaded {o : BufferObject} (ho : s.buffer.object = some o) (offset : Nat) (data : ByteArray)
      (flags : MapFlags) (j : Journal) :
      Deed s .load { s with machine.device := (Device.transfer (.object o.handle offset)
        (.host data) s.buffer.dirty.spans flags s.machine.device j).1.2 }
  | readBack (data : ByteArray) (source : TransferSource) (flags : MapFlags) (j : Journal) :
      Deed s .load { s with machine.device :=
        (Device.transfer (.host data) source [s.buffer.span] flags s.machine.device j).1.2 }
  | stored {o : BufferObject} (ho : s.buffer.object = some o) (offset : Nat)
      (source : TransferSource) (size : Nat) (flags : MapFlags) (j : Journal) :
      Deed s (.copy size) { s with machine.device := (Device.transfer (.object o.handle offset)
        source [⟨0, size⟩] flags s.machine.device j).1.2 }
  | gathered (data : ByteArray) (source : TransferSource) (size : Nat) (flags : MapFlags)
      (j : Journal) :
      Deed s (.copy size) { s with machine.device :=
        (Device.transfer (.host data) source [⟨0, size⟩] flags s.machine.device j).1.2 }
  | poked (h : ObjectHandle) (position : Nat) (data : ByteArray) :
      Deed s .poke { s with machine.device := Device.poke h position data s.machine.device }

/-- The users of an object say nothing about where it is. -/
theorem handle_of_enlist {o o' : BufferObject} {users users' : UserTable} {u : UserId}
    (h : o.enlist users u = (o', users')) : o'.handle = o.handle :=
  (congrArg (·.1.handle) h).symm.trans (placement_enlist o users u).1

theorem handle_of_moveUsers {o o' next next' : BufferObject} {users users' : UserTable}
    (h : o.moveUsers next users = (o', next', users')) : next'.handle = next.handle :=
  (congrArg (·.2.1.handle) h).symm.trans (placement_moveUsers o next users).1

/-- A sequence of deeds of the kinds `K`. -/
inductive Deeds (K : DeedKind → Prop) (s : Site δ) : Site δ → Prop where
  | here : Deeds K s s
  | next {t u : Site δ} {k : DeedKind} (h : Deeds K s t) (hk : K k) (step : t.Deed k u) :
      Deeds K s u

namespace Deeds

theorem one (hk : K k) (step : s.Deed k t) : Deeds K s t := .next .here hk step

theorem trans (h : Deeds K s t) (h' : Deeds K t u) : Deeds K s u := by
  induction h' with
  | here => exact h
  | next _ hk step ih => exact .next ih hk step

instance : IsPreorder (Site δ) (Deeds K) where
  refl _ := .here
  trans _ _ _ := trans

/-- **What every deed keeps, all of them keep.** -/
theorem relates {R : Site δ → Site δ → Prop} [IsPreorder (Site δ) R] (h : Deeds K s t)
    (hR : ∀ k, K k → ∀ x y : Site δ, x.Deed k y → R x y) : R s t := by
  induction h with
  | here => exact refl_of R s
  | next _ hk step ih => exact trans_of R ih (hR _ hk _ _ step)

end Deeds

end Site

/-! ## 2. Layers -/

namespace DeedKind

/-- Bytes are brought to storage that is there. -/
class InPlace (K : DeedKind → Prop) : Prop where
  book : K .book
  report : K (.report 0 0)
  call : K .call
  load : K .load

/-- A copy is made current: an object may be made, and the shadow released once it was loaded. -/
class Loads (K : DeedKind → Prop) : Prop extends InPlace K where
  make : K .make
  release : K .release

/-- The object is given up. -/
class Unloads (K : DeedKind → Prop) : Prop extends InPlace K where
  free : K .free

/-- A mapping is begun or ended. -/
class Holds (K : DeedKind → Prop) : Prop extends InPlace K where
  hold : K .hold

/-- A range is mapped, as long as the object is not given up. -/
class Opens (K : DeedKind → Prop) : Prop extends Loads K, Holds K where
  discard : K .discard

/-- The object is given up, and a mapping is ended. -/
class Closes (K : DeedKind → Prop) : Prop extends Unloads K, Holds K

/-- All that a mapping takes. -/
class Maps (K : DeedKind → Prop) : Prop extends Opens K, Closes K

section Of

variable {K K' : DeedKind → Prop}

theorem Opens.of (book : K .book) (report : K (.report 0 0)) (call : K .call) (load : K .load)
    (make : K .make) (release : K .release) (hold : K .hold) (discard : K .discard) : Opens K where
  book := book
  report := report
  call := call
  load := load
  make := make
  release := release
  hold := hold
  discard := discard

theorem Closes.of (book : K .book) (report : K (.report 0 0)) (call : K .call) (load : K .load)
    (free : K .free) (hold : K .hold) : Closes K where
  book := book
  report := report
  call := call
  load := load
  free := free
  hold := hold

theorem Maps.of (opens : Opens K) (free : K .free) : Maps K := { opens with free }

/-- Everything but the taking over of an object. -/
def Own : DeedKind → Prop
  | .rename _ => False
  | _ => True

instance : Maps Own := .of (by apply Opens.of <;> trivial) trivial

theorem InPlace.mono [InPlace K] (h : ∀ k, K k → K' k) : InPlace K' :=
  ⟨h _ book, h _ report, h _ call, h _ load⟩

theorem Loads.mono [Loads K] (h : ∀ k, K k → K' k) : Loads K' := { InPlace.mono h with
  make := h _ make
  release := h _ release }

theorem Unloads.mono [Unloads K] (h : ∀ k, K k → K' k) : Unloads K' := { InPlace.mono h with
  free := h _ free }

end Of

end DeedKind

open DeedKind (InPlace)

namespace Site

variable [Device δ] {s t : Site δ} {K : DeedKind → Prop} {k : DeedKind}

theorem current_deeds : (current : Step (Site δ) Buffer).Relates (Deeds K) := .get

/-- The same entry, whatever the buffer. -/
theorem entered_deeds (hk : K k) {g : Buffer → Buffer} (h : ∀ b : Buffer, b.Entry k (g b)) :
    (change g : Step (Site δ) Unit).Relates (Deeds K) :=
  fun s _ => .one hk (.entered (h s.buffer))

theorem shadowBytes_deeds : (shadowBytes : Attempt (Site δ) ByteArray).Relates (Deeds K) := by
  refine .bind (.always current_deeds) fun b => ?_
  split
  · exact .pure _
  · exact .refuse _ _

theorem requireRun_deeds (offset size : Nat) :
    (requireRun offset size : Attempt (Site δ) Unit).Relates (Deeds K) :=
  .bind (.always current_deeds) fun _ => .ite (.refuse _ _) (.pure _)

theorem handOut_deeds (offset size : Nat) :
    (handOut offset size : Attempt (Site δ) Mapping).Relates (Deeds K) := by
  refine .bind (.always current_deeds) fun b => ?_
  split
  · exact .refuse _ _
  · exact .bind (.note _) fun _ => .pure _

theorem declareStaleIn_deeds {l : Location} {offset size : Nat} (hreport : K (.report offset size))
    (hl : l.has Location.sysmem = true → l.has Location.cleared = true) :
    (declareStaleIn l offset size : Step (Site δ) Unit).Relates (Deeds K) := by
  intro s j
  rw [wp_declareStaleIn]
  exact .one hreport (.entered (.stale offset size fun h => .inl (hl h)))

theorem markDirty_deeds {offset size : Nat} (hreport : K (.report offset size)) :
    (markDirty offset size : Step (Site δ) Unit).Relates (Deeds K) :=
  .bind current_deeds fun _ => .bind (.noteAll _) fun _ =>
    entered_deeds hreport fun _ => .dirtied offset size

/-- Bytes moved into the own object. -/
theorem fillObject_deeds {h : ObjectHandle} {offset : Nat} {source : TransferSource}
    {ranges : List ByteRange} {flags : MapFlags} (hk : K k) (hfill : ∀ j, s.Deed k
      { s with machine.device := (Device.transfer (.object h offset) source ranges flags
        s.machine.device j).1.2 }) :
    (fillObject h offset source ranges flags).Ends s fun _ t => Deeds K s t := by
  intro j
  unfold fillObject
  simp only [Attempt.wp_bind, Attempt.wp_always, wp_onDevice, Attempt.wp_answer]
  exact .one hk (hfill j)

/-! ## 3. Bytes brought to storage that is there -/

section InPlace

variable [InPlace K]

theorem declareCurrent_deeds {l : Location} (hl : l.has Location.cleared = false)
    (hd : l.has Location.discarded = false)
    (hs : l.has Location.sysmem = true → s.buffer.locations.has Location.cleared = true →
      s.buffer.locations.has Location.discarded = true ∨ s.buffer.IsBlank) :
    (declareCurrent l).Ends s fun _ t => Deeds K s t := by
  intro j
  rw [wp_declareCurrent]
  exact .one InPlace.book
    (.entered (.valid hl (fun h => absurd (hd.symm.trans h) Bool.false_ne_true) hs))

/-- An object becomes current. -/
theorem declareObject_deeds :
    (declareCurrent Location.gpuObject : Step (Site δ) Unit).Relates (Deeds K) := fun _ =>
  declareCurrent_deeds (by decide) (by decide) fun h => absurd h (by decide)

theorem declareStale_deeds {l : Location}
    (hl : l.has Location.sysmem = true → l.has Location.cleared = true) :
    (declareStale l : Step (Site δ) Unit).Relates (Deeds K) :=
  declareStaleIn_deeds InPlace.report hl

theorem closeMapping_deeds (h : ObjectHandle) (ranges : List ByteRange) :
    (onDevice (Device.closeMapping h ranges) : Step (Site δ) Unit).Relates (Deeds K) :=
  fun _ j => .one InPlace.call (.closed h ranges j)

theorem reserveShadow_deeds : (reserveShadow : Step (Site δ) Bool).Relates (Deeds K) := by
  intro s
  refine (reserveShadow_ends s).mono fun _ t ht => ?_
  rcases ht with ⟨-, -, rfl⟩ | ⟨-, hroom, rfl⟩ | ⟨-, -, rfl⟩
  · exact .here
  · exact .one InPlace.book (.entered (.shadowed hroom))
  · exact .here

omit [InPlace K] in
/-- The bytes of a shadow that is there change, and no other shadow does. -/
theorem rewritten_deeds (hk : K k) {f : ByteArray → ByteArray} (hf : ∀ b : Buffer, ∀ m,
      b.shadow = some m → b.Entry k { b with shadow := some (f m) }) :
    (change fun b => { b with shadow := b.shadow.map f } : Step (Site δ) Unit).Relates (Deeds K) := by
  intro s j
  rw [wp_change]
  cases hm : s.buffer.shadow with
  | none =>
    rw [Option.map_none, ← hm]
    exact .here
  | some m => exact .one hk (.entered (hf _ m hm))

theorem clearShadow_deeds : (clearShadow : Step (Site δ) Unit).Relates (Deeds K) :=
  rewritten_deeds InPlace.book fun _ _ hm => .zeroed hm

/-- A shadow that nothing pins is stale before it goes. -/
theorem giveUpShadow_gone (hk : K k) (s : Site δ) (hgone : ∀ b : Buffer, b.pinned = false →
      b.locations.has Location.sysmem = false → b.usage = s.buffer.usage →
      b.Entry k { b with shadow := none }) :
    giveUpShadow.Ends s fun _ t => Deeds K s t := by
  intro j
  unfold giveUpShadow
  rw [Step.wp_bind, wp_current, Step.wp_ite]
  split
  · exact .here
  · rename_i hpinned
    have hloose : s.buffer.pinned = false := (Bool.not_eq_true _).mp hpinned
    simp only [Step.wp_bind, Step.wp_note, wp_declareStale, wp_change]
    exact .trans (Deeds.one InPlace.report (.entered (.stale 0 0 fun _ => .inr hloose)))
      (.one hk (.entered (hgone (s.buffer.markStale Location.sysmem 0 0) hloose
        (by simp [Buffer.markStale]) rfl)))

omit [InPlace K] in
/-- Bytes moved into a run of the shadow: a call, and an entry. -/
theorem fillShadow_deeds {start size : Nat} {source : TransferSource} {flags : MapFlags}
    {k' : DeedKind} (hk : K k) (hk' : K k')
    (hfill : ∀ data j, s.Deed k { s with machine.device :=
      (Device.transfer (.host data) source [⟨0, size⟩] flags s.machine.device j).1.2 })
    (hentry : ∀ m m', s.buffer.shadow = some m → m'.size = m.size →
      s.buffer.Entry k' { s.buffer with shadow := some m' }) :
    (fillShadow start size source flags).Ends s fun _ t => Deeds K s t := by
  intro j
  unfold fillShadow
  simp only [Attempt.wp_bind, Attempt.wp_always, wp_current]
  cases hm : s.buffer.shadow with
  | none => exact .here
  | some m =>
    simp only [Attempt.wp_bind, Attempt.wp_always, wp_onDevice, wp_change, Attempt.wp_answer]
    exact .trans (Deeds.one hk (hfill _ j))
      (.one hk' (.entered (hentry _ _ hm (Bytes.size_splice _ _ _))))

theorem giveUpLost_deeds : (giveUpLost : Step (Site δ) Unit).Relates (Deeds K) := by
  intro s j
  unfold giveUpLost
  rw [Step.wp_bind, wp_current, Step.wp_ite]
  split
  · rename_i hempty
    simp only [Step.wp_bind, Step.wp_note, wp_declareCurrent]
    -- a buffer without locations is not cleared either
    have hno : s.buffer.locations.has Location.cleared = false := (Bool.not_eq_true _).mp fun hc =>
      absurd ((FlagSet.isEmpty_of_has Location.isFlag.2.2.2 hc).symm.trans hempty)
        Bool.false_ne_true
    exact .one InPlace.book
      (.entered (.valid (by decide) (fun _ => hno) fun h => absurd h (by decide)))
  · exact .here

/-- A copy is made current; what is in `P` after the storage is there is what the load relies on. A
    shadow that counts as current from then on is blank where the content is cleared. -/
theorem refreshWith_deeds {target : Location} {prepare : Step (Site δ) Bool}
    {load : Attempt (Site δ) Unit} {settle : Step (Site δ) Unit} {P : Site δ → Prop}
    (htarget : target.has Location.cleared = false ∧ target.has Location.discarded = false)
    (hlost : ∀ l : Location, (l ∪ Location.discarded).has target = l.has target)
    (hp : ∀ s : Site δ, s.buffer.locations.has target = false → prepare.Ends s fun ready t =>
      Deeds K s t ∧ (ready = true → P t))
    (hl : ∀ s : Site δ, P s → load.Ends s fun r t => Deeds K s t ∧ (r = .ok () →
      target.has Location.sysmem = true → t.buffer.locations.has Location.cleared = true →
        t.buffer.IsBlank))
    (hs : settle.Relates (Deeds K)) :
    (refreshWith target prepare load settle).Relates (Deeds K) := by
  intro s j
  unfold refreshWith
  simp only [Attempt.wp_bind, Attempt.wp_always, wp_current, Attempt.wp_ite]
  split
  · exact .here
  · rename_i hstale
    rw [Bool.not_eq_true] at hstale
    have hstill : giveUpLost.Ends s fun _ t => t.buffer.locations.has target = false := by
      intro j
      unfold giveUpLost
      simp only [Step.wp_bind, wp_current, Step.wp_ite, Step.wp_note, wp_declareCurrent,
        Step.wp_pure]
      split
      · exact (hlost _).trans hstale
      · exact hstale
    refine ((giveUpLost_deeds (K := K) s).and hstill).wp fun _ t j h => ?_
    obtain ⟨ht, htarget'⟩ := h
    rw [Attempt.wp_note]
    refine (hp t htarget').wp fun ready u j h => ?_
    obtain ⟨hu, hready⟩ := h
    cases ready with
    | false => exact ht.trans hu
    | true =>
      simp only [Bool.not_true, Bool.false_eq_true, if_false]
      split
      · rename_i hd
        rw [Attempt.wp_note]
        refine (declareCurrent_deeds (K := K) htarget.1 htarget.2 fun _ _ => .inl hd).wp
          fun _ v _ hv => ?_
        exact (declareStale_deeds (K := K) (by decide) v).wp fun _ w _ hw =>
          ht.trans (hu.trans (hv.trans hw))
      · refine (hl u (hready rfl)).wp fun r v j h => ?_
        obtain ⟨hv, hblank⟩ := h
        cases r with
        | error f => exact ht.trans (hu.trans hv)
        | ok _ =>
          refine (declareCurrent_deeds (K := K) htarget.1 htarget.2 fun hs hc =>
            .inr (hblank rfl hs hc)).wp fun _ w _ hw => ?_
          exact (hs w).wp fun _ x _ hx => ht.trans (hu.trans (hv.trans (hw.trans hx)))

/-- All of the object is read, or the shadow is blank. -/
theorem loadShadow_deeds (hsome : s.buffer.shadow.isSome = true)
    (hs : s.buffer.locations.has Location.sysmem = false) :
    loadShadow.Ends s fun r t => Deeds K s t ∧ (r = .ok () →
      t.buffer.locations.has Location.cleared = true → t.buffer.IsBlank) := by
  obtain ⟨m, hm⟩ := Option.isSome_iff_exists.mp hsome
  intro j
  unfold loadShadow
  rw [Attempt.wp_bind, Attempt.wp_always, wp_current]
  dsimp only
  rw [Attempt.wp_ite]
  split
  · rw [Attempt.wp_always, wp_clearShadow, hm]
    exact ⟨.one InPlace.book (.entered (.zeroed hm)), fun _ _ => ⟨m.size, rfl⟩⟩
  · rename_i hc
    split
    · exact ⟨.here, fun _ hc' => absurd hc' hc⟩
    · rename_i o _
      have hkept : (fillShadow 0 s.buffer.size (.object o.handle o.offset) MapFlags.write).Ends s
          fun _ t => t.buffer.locations = s.buffer.locations := by
        intro j
        unfold fillShadow
        simp only [Attempt.wp_bind, Attempt.wp_always, wp_current, hm, wp_onDevice, wp_change,
          Attempt.wp_answer]
        exact Step.wp_any fun _ _ _ => trivial
      refine ((fillShadow_deeds (K := K) InPlace.load InPlace.book
        (fun data j => .readBack data _ _ j) fun _ _ hm hsize => .loaded hm hsize hs).and
          hkept).wp fun r t _ h => ?_
      exact ⟨h.1, fun _ hc' => absurd (h.2 ▸ hc') hc⟩

theorem refreshShadow_deeds : (refreshShadow : Attempt (Site δ) Unit).Relates (Deeds K) := by
  refine refreshWith_deeds (P := fun t => t.buffer.shadow.isSome = true ∧
    t.buffer.locations.has Location.sysmem = false) (by decide) (by simp) (fun s hs => ?_)
    (fun s ⟨hsome, hs⟩ =>
      (loadShadow_deeds hsome hs).mono fun _ _ ht => ⟨ht.1, fun hr _ => ht.2 hr⟩)
    (.pure _)
  refine ((reserveShadow_deeds (K := K) s).and (reserveShadow_ends s)).mono
    fun ready t ⟨ht, hends⟩ => ?_
  refine ⟨ht, fun hready => ?_⟩
  rcases hends with ⟨-, hsome, rfl⟩ | ⟨-, -, rfl⟩ | ⟨hno, -, -⟩
  · exact ⟨hsome, hs⟩
  · exact ⟨rfl, hs⟩
  · exact absurd (hno.symm.trans hready) Bool.false_ne_true

omit [InPlace K] in
/-- The shadow that was made current is current. -/
theorem refreshShadow_current (s : Site δ) : refreshShadow.Ends s fun r t =>
    r = .ok () → t.buffer.locations.has Location.sysmem = true := by
  have hany {γ : Type} {p : Step (Site δ) γ} {x : Site δ} : p.Ends x fun _ _ => True := fun _ =>
    trivial
  intro j
  unfold refreshShadow refreshWith
  simp only [Attempt.wp_bind, Attempt.wp_always, wp_current, Attempt.wp_ite]
  split
  · rename_i hs
    exact fun _ => hs
  · refine hany.wp fun _ t j _ => ?_
    rw [Attempt.wp_note]
    refine hany.wp fun ready t j _ => ?_
    cases ready with
    | false => exact fun hr => absurd hr (Failure.ne_ok _ _)
    | true =>
      simp only [Bool.not_true, Bool.false_eq_true, if_false, wp_declareCurrent,
        wp_declareStale]
      split
      · simp [Buffer.markValid, Buffer.markStale]
      · refine Attempt.wp_any fun r t j => ?_
        cases r with
        | error f => exact fun hr => absurd hr (Failure.ne_ok _ _)
        | ok _ =>
          rw [Step.wp_pure]
          simp [Buffer.markValid]

/-- A shadow that was made current may be pinned, before anything else is done. -/
theorem pinned_deeds {f : Unit → Attempt (Site δ) α} (hf : ∀ x, (f x).Relates (Deeds K)) :
    (refreshShadow >>= fun _ => always pinShadow >>= f : Attempt (Site δ) α).Relates (Deeds K) := by
  intro s j
  rw [Attempt.wp_bind]
  refine ((refreshShadow_deeds (K := K) s).and (refreshShadow_current s)).wp fun r t j hpost => ?_
  obtain ⟨ht, hs⟩ := hpost
  cases r with
  | error f => exact ht
  | ok _ =>
    rw [Attempt.wp_bind, Attempt.wp_always, wp_pinShadow]
    have hpin := Deeds.one (K := K) InPlace.book (.entered (.pinned (hs rfl)))
    exact (hf () _).wp fun _ u _ hu => ht.trans (hpin.trans hu)

theorem keepShadow_deeds : (keepShadow : Attempt (Site δ) ByteArray).Relates (Deeds K) :=
  pinned_deeds fun _ => shadowBytes_deeds

theorem uploadPlain_deeds : (uploadPlain : Attempt (Site δ) Unit).Relates (Deeds K) := by
  intro s j
  unfold uploadPlain
  rw [Attempt.wp_bind, Attempt.wp_always, wp_current]
  dsimp only
  split
  · rename_i o _ ho
    exact fillObject_deeds InPlace.load (fun j => .uploaded ho _ _ _ j) j
  · exact .here

theorem uploadConverted_deeds : (uploadConverted : Attempt (Site δ) Unit).Relates (Deeds K) := by
  refine pinned_deeds fun _ s j => ?_
  rw [Attempt.wp_bind, Attempt.wp_always, wp_current]
  dsimp only
  split
  · rename_i o _ _ ho
    rw [Attempt.wp_bind, wp_borrowScratch]
    split
    · exact fillObject_deeds InPlace.load (fun j => .uploaded ho _ _ _ j) j
    · exact .here
  · exact .here

theorem materializeCleared_deeds :
    (materializeCleared : Attempt (Site δ) Unit).Relates (Deeds K) :=
  .bind (.always reserveShadow_deeds) fun _ => .ite (.always clearShadow_deeds) (.throw _)

theorem loadObject_deeds : (loadObject : Attempt (Site δ) Unit).Relates (Deeds K) := by
  have hupload (b : Buffer) : Attempt.Relates (Deeds K)
      (if b.isConverted then uploadConverted else uploadPlain : Attempt (Site δ) Unit) :=
    .ite uploadConverted_deeds uploadPlain_deeds
  exact .bind (.always current_deeds) fun _ => .ite
    (.bind materializeCleared_deeds fun _ => .bind (.always current_deeds) hupload)
    (.bind (.always current_deeds) hupload)

theorem saveContent_deeds : (saveContent : Step (Site δ) Unit).Relates (Deeds K) := by
  refine .bind (.outcome refreshShadow_deeds) fun r => ?_
  split
  · exact .pure _
  · exact .bind current_deeds fun _ => .note _

theorem objectRefused_deeds (f : Failure) :
    (objectRefused f : Step (Site δ) Unit).Relates (Deeds K) := by
  refine .bind current_deeds fun b => ?_
  split
  · refine .bind (.note _) fun _ s j => ?_
    exact .trans (Deeds.one InPlace.book (.entered .forbidden))
      (.one InPlace.book (.entered .flushed))
  · exact .note _

theorem endCaptureInto_deeds (h : ObjectHandle) (s : Site δ) :
    (endCaptureInto h).Ends s fun _ t => Deeds K s t ∧ t.buffer = s.buffer ∧
      (s.buffer.bind.has BindFlags.streamOutput = true →
        Device.captureActive t.machine.device h = true →
          ∃ f i, t.machine.device = (Device.endCapture f i).1.2) := by
  intro j
  unfold endCaptureInto
  simp only [Step.wp_bind, Step.wp_get, Step.wp_ite, Step.wp_note, wp_onDevice, Step.wp_pure]
  split
  · exact ⟨.one InPlace.call (.captured _), trivial, fun _ _ => ⟨_, _, rfl⟩⟩
  · rename_i hnot
    refine ⟨.here, trivial, fun hbind hactive => absurd ?_ hnot⟩
    rw [hbind, hactive]
    rfl

theorem countQuietDraw_deeds : (countQuietDraw : Step (Site δ) Unit).Relates (Deeds K) :=
  entered_deeds InPlace.book fun _ => .counted _

theorem countEvent_deeds (event : Hysteresis → Verdict × Hysteresis) :
    (countEvent event : Step (Site δ) Bool).Relates (Deeds K) :=
  .bind current_deeds fun _ => .bind (entered_deeds InPlace.book fun _ => .counted _) fun _ =>
    .pure _

theorem barrier_deeds (bind : BindFlags) : (barrier bind : Step (Site δ) Unit).Relates (Deeds K) := by
  intro s j
  unfold barrier
  simp only [Step.wp_bind, wp_current]
  cases hb : s.buffer.backend with
  | noObject => exact .here
  | legacy target => exact .here
  | modern tracker =>
    have htracked : Deeds K s { s with buffer.backend := .modern (tracker.request bind).2 } :=
      .one InPlace.book (.entered (.tracked hb))
    simp only [Step.wp_bind, wp_change]
    split
    · exact htracked
    · exact htracked
    · simp only [Step.wp_bind, Step.wp_note, wp_onDevice]
      exact htracked.trans (.one InPlace.call (.fenced _ _))

omit [InPlace K] in
theorem claimStale_deeds (c : Prop) [Decidable c] {l : Location} {dirty : ByteRange}
    (hl : l.has Location.sysmem = true → l.has Location.cleared = true)
    (hreport : c → K (.report dirty.offset dirty.size)) :
    (if c then always (declareStaleIn l dirty.offset dirty.size) else pure () :
      Attempt (Site δ) Unit).Relates (Deeds K) := by
  split
  · rename_i hc
    exact .always (declareStaleIn_deeds (hreport hc) hl)
  · exact .pure _

theorem openShadow_deeds {flags : MapFlags} {dirty : ByteRange}
    (hreport : flags.has MapFlags.write = true → K (.report dirty.offset dirty.size)) :
    (openShadow flags dirty : Attempt (Site δ) Unit).Relates (Deeds K) :=
  .bind refreshShadow_deeds fun _ => claimStale_deeds _ (by decide) hreport

theorem claimObject_deeds {flags : MapFlags} {dirty : ByteRange}
    (hreport : flags.has MapFlags.write = true → K (.report dirty.offset dirty.size)) :
    (claimObject flags dirty : Step (Site δ) Unit).Relates (Deeds K) := by
  unfold claimObject
  split
  · rename_i hw
    exact .bind (declareStale_deeds (by decide)) fun _ => markDirty_deeds (hreport hw)
  · exact .pure _

omit [InPlace K] in
/-- The object handed in is the object of the buffer afterwards. -/
theorem Deed.usesObject {h : ObjectHandle} (hd : s.Deed (.rename h) t) :
    t.buffer.usesObject h = true := by
  have hown {b : Buffer} {o : BufferObject} {h : ObjectHandle} (ho : b.object = some o)
      (hh : o.handle = h) : b.usesObject h = true := by
    unfold Buffer.usesObject
    rw [ho, Option.any_some, hh, beq_self_eq_true]
  cases hd with
  | entered h => cases h
  | replaced hp ho j => exact hown rfl (handle_of_moveUsers ho)
  | given bare ho => exact hown rfl (handle_of_enlist ho)

omit [InPlace K] in
theorem renameTo_deed (a : Placement) (s : Site δ) :
    (renameTo a).Ends s fun _ t => s.Deed (.rename a.handle) t := by
  intro j
  unfold renameTo
  simp only [Step.wp_bind, wp_current]
  cases hobj : s.buffer.object with
  | none =>
    unfold enterOwnUser
    simp only [Step.wp_bind, Step.wp_get, Step.wp_set, Step.wp_pure, wp_change]
    exact .given hobj rfl
  | some p =>
    unfold replaceObject
    simp only [Step.wp_bind, wp_current, Step.wp_note, Step.wp_get, Step.wp_set, wp_onDevice,
      Step.wp_pure, wp_change]
    exact .replaced hobj rfl _

theorem takeOver_replaces (a : Placement) (s : Site δ) : (takeOver a).Ends s fun _ t =>
    ∃ u, s.Deed (.rename a.handle) u ∧ Deeds K u t ∧ t.buffer.object = u.buffer.object := by
  intro j
  unfold takeOver
  rw [Step.wp_bind]
  refine (renameTo_deed a s).wp fun _ u k hu => ?_
  simp only [Step.wp_bind, wp_declareCurrent, wp_declareStale]
  refine ⟨u, hu, ?_, rfl⟩
  exact .trans
    (Deeds.one InPlace.book (.entered (.valid (by decide) (fun h => absurd h (by decide))
      fun h => absurd h (by decide))))
    (.one InPlace.report (.entered (.stale 0 0 fun _ => .inl (by decide))))

theorem flushUpload_deeds (c : Bool) (h : ObjectHandle) (ranges : List ByteRange) :
    (if c then always (onDevice (Device.closeMapping h ranges)) else pure () :
      Attempt (Site δ) Unit).Relates (Deeds K) :=
  .ite (.always (closeMapping_deeds h ranges)) (.pure _)

/-- **An upload object that is to be the object of the buffer** takes the place of the one there was,
    unless the run leaves the buffer. Nothing is copied. -/
theorem applyUpload_replaces {upload : Upload} (hrenames : upload.rename = true) {offset size : Nat}
    (s : Site δ) : (applyUpload upload offset size).Ends s fun _ t =>
      if s.buffer.holds offset size then
        ∃ u, s.Deed (.rename upload.placement.handle) u ∧ Deeds K u t
      else t = s := by
  intro j
  unfold applyUpload requireRun
  simp only [Attempt.wp_bind, Attempt.wp_always, wp_current, hrenames, if_true]
  cases hfit : s.buffer.holds offset size with
  | false =>
    simp only [Bool.not_false, if_true, Bool.false_eq_true, if_false, Attempt.wp_refuse]
  | true =>
    simp only [Bool.not_true, Bool.false_eq_true, if_false, if_true, Attempt.wp_pure]
    refine (takeOver_replaces (K := K) upload.placement s).wp fun _ t k ht => ?_
    obtain ⟨u, hu, ht, hobject⟩ := ht
    -- the upload object is the object of the buffer by now
    have huses : t.buffer.usesObject upload.placement.handle = true := by
      unfold Buffer.usesObject
      rw [hobject]
      exact hu.usesObject
    simp only [huses, if_true]
    exact (flushUpload_deeds (K := K) _ _ _ t).wp fun _ v _ hv => ⟨u, hu, ht.trans hv⟩

/-- A new buffer that keeps its shadow, or has to have one. -/
theorem openStorage_deeds (pin : Bool) :
    (openStorage pin : Attempt (Site δ) Unit).Relates (Deeds K) := by
  have hpin : (pinFresh : Step (Site δ) Unit).Relates (Deeds K) :=
    .bind current_deeds fun _ => .bind (.note _) fun _ =>
      entered_deeds InPlace.book fun _ => .keptFresh
  have hrest : Attempt.Relates (Deeds K) (do
      let b ← always current
      if b.locations.has Location.sysmem || !b.objectAllowed then
        if !(← always reserveShadow) then throw .outOfMemory
      note (.created b.id b.size b.backend.kind b.objectAllowed) : Attempt (Site δ) Unit) :=
    .bind (.always current_deeds) fun _ => .ite
      (.bind (.always reserveShadow_deeds) fun _ => .ite (.throw _) (.note _)) (.note _)
  exact .ite (.bind (.always hpin) fun _ => hrest) hrest

end InPlace

end Site

end BufferCoherence
