import BufferCoherence.Proofs.Content
import BufferCoherence.Proofs.Conversion
import BufferCoherence.Proofs.Spans
import BufferCoherence.Proofs.Twins

/-!
# Buffers in lockstep

One buffer on two machines, of which one has a memory device and the other one its twin. `Twin` is
the invariant: the buffer is the same on both, down to its journal-free state, its object is as long
as the buffer, its shadow too, and the spans that it records lie in it. Every definition of the
library then does the same on both, one lemma a definition: the answers are equal and the buffers
stay twins.

A transfer between a buffer and its object is always in bounds, and there is room for its staging
buffer (`DirtySpans.Bounded`). The one call that the devices answer differently is a mapping of an
object that the host does not reach; here that shows in `openMapping_agrees` alone.
-/

namespace BufferCoherence

open Vulkan (Driver MemoryLocation)
open VulkanDevice (totalSize)

/-! ## 1. Sites -/

namespace Site

variable {σ τ α β : Type} {s : Site σ} {t : Site τ} {i j : Journal}

theorem wp₂_current (Q : Buffer → Buffer → Site σ → Site τ → Journal → Journal → Prop) :
    Step.wp₂ (current : Step (Site σ) _) (current : Step (Site τ) _) s i t j Q ↔
      Q s.buffer t.buffer s t i j := Iff.rfl

theorem wp₂_change (f g : Buffer → Buffer)
    (Q : Unit → Unit → Site σ → Site τ → Journal → Journal → Prop) :
    Step.wp₂ (change f : Step (Site σ) _) (change g : Step (Site τ) _) s i t j Q ↔
      Q () () { s with buffer := f s.buffer } { t with buffer := g t.buffer } i j := Iff.rfl

theorem wp₂_changeUsers (f g : UserTable → UserTable)
    (Q : Unit → Unit → Site σ → Site τ → Journal → Journal → Prop) :
    Step.wp₂ (changeUsers f : Step (Site σ) _) (changeUsers g : Step (Site τ) _) s i t j Q ↔
      Q () () { s with machine.users := f s.machine.users }
        { t with machine.users := g t.machine.users } i j := Iff.rfl

theorem wp₂_onDevice (p : Step σ α) (q : Step τ β)
    (Q : α → β → Site σ → Site τ → Journal → Journal → Prop) :
    Step.wp₂ (onDevice p) (onDevice q) s i t j Q ↔
      p.wp₂ q s.machine.device i t.machine.device j fun a b d e i' j' =>
        Q a b { s with machine.device := d } { t with machine.device := e } i' j' := Iff.rfl

end Site

/-! ## 2. The invariant -/

/-- The host reaches the object of the buffer, on a device with memory that it does not reach. -/
def Buffer.reached (b : Buffer) : Bool :=
  (MemoryLocation.ofPreference (MemoryPreference.ofAccess b.access b.usage)).hostVisible

/-- One run of host memory can hold a buffer of `n` bytes, and the driver lends whatever memory a
    transfer of its spans may take, of which there are `limit` at most. Spans that overlap are not
    joined, and each of them may be almost as long as the buffer: no less room will do. -/
structure Roomy (lends : Nat → Bool) (n limit : Nat) : Prop where
  hosted : n ≤ Bytes.largestRun
  lent : ∀ size, 0 < size → size ≤ n * limit → lends size = true

/-- The spans lie in a buffer of `n` bytes, and there is room for all of them together. -/
structure DirtySpans.Bounded (lends : Nat → Bool) (n : Nat) (d : DirtySpans) : Prop where
  size : d.size = n
  fits : d.Fits
  few : d.spans.length ≤ d.limit
  some : 0 < d.limit
  room : Roomy lends n d.limit

namespace DirtySpans.Bounded

variable {lends : Nat → Bool} {n : Nat} {d : DirtySpans}

theorem clean {limit : Nat} (h : Roomy lends n (max limit 1)) :
    (DirtySpans.clean n limit).Bounded lends n :=
  ⟨rfl, fun _ hr => absurd hr List.not_mem_nil, Nat.zero_le _, Nat.le_max_right _ _, h⟩

theorem clear (h : d.Bounded lends n) : d.clear.Bounded lends n :=
  ⟨h.size, .clear d, Nat.zero_le _, h.some, h.room⟩

theorem markAll (h : d.Bounded lends n) : d.markAll.Bounded lends n :=
  ⟨h.size, .markAll d, h.some, h.some, h.room⟩

theorem mark (h : d.Bounded lends n) (offset size : Nat) :
    (d.mark offset size).Bounded lends n := by
  refine ⟨(size_mark d offset size).trans h.size, h.fits.mark offset size, ?_,
    (limit_mark d offset size).symm ▸ h.some, (limit_mark d offset size).symm ▸ h.room⟩
  rw [limit_mark]
  unfold DirtySpans.mark
  split
  · exact h.some
  · exact h.some
  · exact h.some
  · exact h.some
  · exact h.few
  · rename_i hrecorded
    have hroom : d.spans.length < d.limit := by
      unfold receive at hrecorded
      split at hrecorded; · cases hrecorded
      split at hrecorded; · cases hrecorded
      split at hrecorded; · cases hrecorded
      split at hrecorded
      · cases hrecorded
      · omega
    rw [List.length_append]
    exact hroom

/-- The driver lends the memory of an object of the buffer, and of a part of it. -/
theorem lent (h : d.Bounded lends n) {size : Nat} (hpos : 0 < size) (hsize : size ≤ n) :
    lends size = true :=
  h.room.lent size hpos (Nat.le_trans hsize (Nat.le_mul_of_pos_right n h.some))

/-- The driver lends a staging buffer for all spans. -/
theorem staged (h : d.Bounded lends n) (hpos : 0 < n) :
    lends (max (totalSize d.spans) 1) = true := by
  have htotal : totalSize d.spans ≤ d.spans.length * n := by
    have hfits := h.fits
    unfold Fits at hfits
    rw [h.size] at hfits
    revert hfits
    induction d.spans with
    | nil => exact fun _ => Nat.zero_le _
    | cons r rest ih =>
      intro hfits
      have hr := hfits r List.mem_cons_self
      have hrest := ih fun q hq => hfits q (List.mem_cons_of_mem r hq)
      unfold ByteRange.stop at hr
      show r.size + totalSize rest ≤ (rest.length + 1) * n
      rw [Nat.succ_mul]
      omega
  have hfew : d.spans.length * n ≤ n * d.limit := by
    rw [Nat.mul_comm]
    exact Nat.mul_le_mul_left n h.few
  have hone : 1 ≤ n * d.limit := Nat.mul_pos hpos h.some
  exact h.room.lent _ (Nat.le_max_right _ _) (Nat.max_le.mpr ⟨Nat.le_trans htotal hfew, hone⟩)

/-- The driver lends a staging buffer for one run of the buffer. -/
theorem staged_run (h : d.Bounded lends n) (hpos : 0 < n) {size : Nat} (hsize : size ≤ n) :
    lends (max (totalSize [⟨0, size⟩]) 1) = true :=
  h.lent (Nat.le_max_right _ _) (Nat.max_le.mpr ⟨hsize, hpos⟩)

end DirtySpans.Bounded

/-- What stays while a buffer is worked on: what the driver lends, the size of the buffer, whether
    the host reaches its object, how it is mapped, and the objects of all other buffers. -/
structure Footing where
  lends : Nat → Bool
  size : Nat
  reached : Bool
  maps : Nat
  base : Option MapBase
  others : ObjectHandle → Nat → Bool → Prop

/-- A buffer on its footing, on a Vulkan device. -/
structure Fitted (k : Footing) (b : Buffer) (e : VulkanDevice) : Prop where
  size : b.size = k.size
  reached : b.reached = k.reached
  maps : b.mapCount = k.maps
  base : b.mapBase = k.base
  modern : ∃ tracker, b.backend = .modern tracker
  shadow : ∀ m, b.shadow = some m → m.size = k.size
  object : ∀ o, b.object = some o → o.offset = 0 ∧ e.Has o.handle k.size k.reached ∧
    ∀ size reached, ¬ k.others o.handle size reached
  dirty : b.dirty.Bounded k.lends k.size

/-- Two machines whose devices are twins. -/
structure TwinMachines (lends : Nat → Bool) (m : Machine MemoryDevice) (n : Machine VulkanDevice) :
    Prop where
  users : n.users = m.users
  nextBuffer : n.nextBuffer = m.nextBuffer
  devices : Twins lends m.device n.device

/-- **The same buffer on twin machines.** -/
structure Twin (k : Footing) (s : Site MemoryDevice) (t : Site VulkanDevice) : Prop where
  buffer : t.buffer = s.buffer
  machines : TwinMachines k.lends s.machine t.machine
  positive : 0 < k.size
  fitted : Fitted k s.buffer t.machine.device
  others : ∀ a size reached, k.others a size reached → t.machine.device.Has a size reached

variable {k : Footing} {b : Buffer} {e f : VulkanDevice}

namespace Fitted

theorem kept (h : Fitted k b e) (hkeeps : e.KeepsObjects f) : Fitted k b f :=
  { h with object := fun o ho => ⟨(h.object o ho).1, hkeeps _ _ _ (h.object o ho).2.1,
      (h.object o ho).2.2⟩ }

theorem markValid (h : Fitted k b e) (l : Location) : Fitted k (b.markValid l) e := by
  refine { h with dirty := ?_ }
  unfold Buffer.markValid
  dsimp only
  split
  · exact h.dirty.clear
  · exact h.dirty

theorem markStale (h : Fitted k b e) (l : Location) (offset size : Nat) :
    Fitted k (b.markStale l offset size) e := by
  refine { h with dirty := ?_ }
  unfold Buffer.markStale
  dsimp only
  split
  · exact h.dirty.mark offset size
  · exact h.dirty

theorem withShadow (h : Fitted k b e) {m : Option ByteArray}
    (hm : ∀ c, m = some c → c.size = k.size) : Fitted k { b with shadow := m } e :=
  { h with shadow := hm }

theorem currentObject (h : Fitted k b e) {o : BufferObject} (ho : b.currentObject = some o) :
    o.offset = 0 ∧ e.Has o.handle k.size k.reached ∧
      ∀ size reached, ¬ k.others o.handle size reached :=
  h.object o (Buffer.object_of_currentObject ho)

/-- An address in an object is that of the first byte of the buffer's own. -/
theorem address (h : Fitted k b e) {handle : ObjectHandle} {offset : Nat}
    (ha : b.address? = some (.object handle offset)) :
    offset = 0 ∧ e.Has handle k.size k.reached := by
  obtain ⟨o, ho, rfl, rfl⟩ := Buffer.object_of_address? ha
  exact ⟨(h.object o ho).1, (h.object o ho).2.1⟩

/-- What the object of the buffer is asked to be. -/
theorem request (h : Fitted k b e) {request : ObjectRequest}
    (hr : b.objectRequest? = some request) : request.size = k.size ∧
      (MemoryLocation.ofPreference request.memory).hostVisible = k.reached := by
  obtain ⟨tracker, ht⟩ := h.modern
  unfold Buffer.objectRequest? at hr
  simp only [ht] at hr
  cases hr
  exact ⟨h.size, h.reached⟩

theorem restartBarriers (h : Fitted k b e) : Fitted k b.restartBarriers e := by
  obtain ⟨tracker, ht⟩ := h.modern
  have heq : b.restartBarriers = { b with backend := .modern .idle } := by
    unfold Buffer.restartBarriers
    simp only [ht]
  rw [heq]
  exact { h with modern := ⟨_, rfl⟩ }

end Fitted

namespace Twin

variable {s : Site MemoryDevice} {t : Site VulkanDevice}

/-- The buffer changed in the same way on both machines. -/
theorem change (h : Twin k s t) (hb : Fitted k b t.machine.device) :
    Twin k { s with buffer := b } { t with buffer := b } :=
  ⟨rfl, h.machines, h.positive, hb, h.others⟩

/-- The devices worked, and kept their objects. -/
theorem onDevice (h : Twin k s t) {d : MemoryDevice} (hd : Twins k.lends d f)
    (hkeeps : t.machine.device.KeepsObjects f) :
    Twin k { s with machine.device := d } { t with machine.device := f } :=
  ⟨h.buffer, ⟨h.machines.users, h.machines.nextBuffer, hd⟩, h.positive, h.fitted.kept hkeeps,
    fun a size reached ha => hkeeps a size reached (h.others a size reached ha)⟩

/-- What the devices do alike, they do for the buffers. -/
theorem onDevice_agrees {α : Type} (h : Twin k s t) {p : Step MemoryDevice α}
    {q : Step VulkanDevice α} {P : α → MemoryDevice → VulkanDevice → Prop}
    (hp : p.Agree q s.machine.device t.machine.device fun a d e =>
      Twins k.lends d e ∧ t.machine.device.KeepsObjects e ∧ P a d e) :
    (Site.onDevice p).Agree (Site.onDevice q) s t fun a s' t' =>
      Twin k s' t' ∧ s'.buffer = s.buffer ∧ P a s'.machine.device t'.machine.device := by
  intro i j
  rw [Site.wp₂_onDevice]
  exact hp.wp₂ fun a d e _ _ hpost => ⟨rfl, h.onDevice hpost.1 hpost.2.1, rfl, hpost.2.2⟩

theorem tryDevice_agrees {α : Type} (h : Twin k s t) {a : Attempt MemoryDevice α}
    {b : Attempt VulkanDevice α} {P : Except Failure α → MemoryDevice → VulkanDevice → Prop}
    (ha : a.Agree b s.machine.device t.machine.device fun r d e =>
      Twins k.lends d e ∧ t.machine.device.KeepsObjects e ∧ P r d e) :
    (Site.tryDevice a).Agree (Site.tryDevice b) s t fun r s' t' =>
      Twin k s' t' ∧ s'.buffer = s.buffer ∧ P r s'.machine.device t'.machine.device :=
  h.onDevice_agrees (p := a.run) (q := b.run) ha

/-- The buffer that is looked at is the same one. -/
theorem looking_wp₂ {α : Type} (h : Twin k s t) {f : Buffer → Attempt (Site MemoryDevice) α}
    {g : Buffer → Attempt (Site VulkanDevice) α} {i j : Journal}
    {Q : Except Failure α → Except Failure α → Site MemoryDevice → Site VulkanDevice → Journal →
      Journal → Prop} (hf : (f s.buffer).wp₂ (g s.buffer) s i t j Q) :
    (always Site.current >>= f).wp₂ (always Site.current >>= g) s i t j Q := by
  rw [Attempt.wp₂_bind, Attempt.wp₂_always, Site.wp₂_current, h.buffer]
  exact hf

end Twin

/-! ## 3. Steps in lockstep -/

section Lockstep

variable {α β : Type} {s : Site MemoryDevice} {t : Site VulkanDevice}

/-- Begun on twins, both steps answer the same and leave twins. -/
def Step.Lockstep (k : Footing) (p : Step (Site MemoryDevice) α) (q : Step (Site VulkanDevice) α) :
    Prop :=
  ∀ s t, Twin k s t → p.Agree q s t fun _ => Twin k

/-- Begun on twins, both attempts have the same outcome and leave twins. -/
def Attempt.Lockstep (k : Footing) (a : Attempt (Site MemoryDevice) α)
    (b : Attempt (Site VulkanDevice) α) : Prop :=
  ∀ s t, Twin k s t → a.Agree b s t fun _ => Twin k

namespace Step.Lockstep

variable {p p' : Step (Site MemoryDevice) α} {q q' : Step (Site VulkanDevice) α}
  {f : α → Step (Site MemoryDevice) β} {g : α → Step (Site VulkanDevice) β}

theorem pure (a : α) : Step.Lockstep k (Pure.pure a) (Pure.pure a) := fun _ _ h _ _ => ⟨rfl, h⟩

theorem bind (hp : Step.Lockstep k p q) (hf : ∀ a, Step.Lockstep k (f a) (g a)) :
    Step.Lockstep k (p >>= f) (q >>= g) := by
  intro s t h i j
  rw [Step.wp₂_bind]
  exact (hp s t h).wp₂ fun a s' t' i' j' h' => hf a s' t' h' i' j'

theorem ite {c : Prop} [Decidable c] (hp : Step.Lockstep k p q) (hp' : Step.Lockstep k p' q') :
    Step.Lockstep k (if c then p else p') (if c then q else q') := by
  split
  · exact hp
  · exact hp'

theorem note (n : Notice) :
    Step.Lockstep k (liftM (BufferCoherence.note n)) (liftM (BufferCoherence.note n)) :=
  fun _ _ h _ _ => ⟨rfl, h⟩

theorem noteAll (ns : List Notice) :
    Step.Lockstep k (liftM (BufferCoherence.noteAll ns)) (liftM (BufferCoherence.noteAll ns)) :=
  fun _ _ h _ _ => ⟨rfl, h⟩

theorem current : Step.Lockstep k Site.current Site.current := fun _ _ h _ _ => ⟨h.buffer, h⟩

/-- The buffer is looked at, and what follows relies on what it is now. -/
theorem looking {f : Buffer → Step (Site MemoryDevice) β} {g : Buffer → Step (Site VulkanDevice) β}
    (hf : ∀ s t, Twin k s t → (f s.buffer).Agree (g s.buffer) s t fun _ => Twin k) :
    Step.Lockstep k (Site.current >>= f) (Site.current >>= g) := by
  intro s t h i j
  rw [Step.wp₂_bind, Site.wp₂_current, h.buffer]
  exact hf s t h i j

theorem change {f : Buffer → Buffer} (hf : ∀ b e, Fitted k b e → Fitted k (f b) e) :
    Step.Lockstep k (Site.change f) (Site.change f) := by
  intro s t h i j
  rw [Site.wp₂_change, h.buffer]
  exact ⟨rfl, h.change (hf _ _ h.fitted)⟩

theorem changeUsers (f : UserTable → UserTable) :
    Step.Lockstep k (Site.changeUsers f) (Site.changeUsers f) := by
  intro s t h i j
  rw [Site.wp₂_changeUsers, h.machines.users]
  exact ⟨rfl, h.buffer, ⟨rfl, h.machines.nextBuffer, h.machines.devices⟩, h.positive, h.fitted,
    h.others⟩

theorem outcome {a : Attempt (Site MemoryDevice) α} {b : Attempt (Site VulkanDevice) α}
    (h : Attempt.Lockstep k a b) : Step.Lockstep k a.outcome b.outcome := h

end Step.Lockstep

namespace Attempt.Lockstep

variable {a a' : Attempt (Site MemoryDevice) α} {b b' : Attempt (Site VulkanDevice) α}
  {f : α → Attempt (Site MemoryDevice) β} {g : α → Attempt (Site VulkanDevice) β}

theorem pure (x : α) : Attempt.Lockstep k (Pure.pure x) (Pure.pure x) := fun _ _ h _ _ => ⟨rfl, h⟩

theorem throw (e : Failure) : Attempt.Lockstep k (MonadExcept.throw e : Attempt _ α)
    (MonadExcept.throw e) := fun _ _ h _ _ => ⟨rfl, h⟩

theorem refuse (source : Source) (e : Failure) : Attempt.Lockstep k
    (BufferCoherence.refuse source e : Attempt _ α) (BufferCoherence.refuse source e) :=
  fun _ _ h _ _ => ⟨rfl, h⟩

theorem note (n : Notice) :
    Attempt.Lockstep k (liftM (BufferCoherence.note n)) (liftM (BufferCoherence.note n)) :=
  fun _ _ h _ _ => ⟨rfl, h⟩

/-- What follows goes on from twins, and may rely on more. -/
theorem bind_at {P : Except Failure α → Site MemoryDevice → Site VulkanDevice → Prop}
    (ha : a.Agree b s t fun r s' t' => Twin k s' t' ∧ P r s' t')
    (hf : ∀ x s' t', Twin k s' t' → P (.ok x) s' t' →
      (f x).Agree (g x) s' t' fun _ => Twin k) :
    (a >>= f).Agree (b >>= g) s t fun _ => Twin k := fun _ _ =>
  ha.bind_wp₂ (fun x s' t' i' j' h' => hf x s' t' h'.1 h'.2 i' j') fun _ _ _ _ _ h' => ⟨rfl, h'.1⟩

theorem bind (ha : Attempt.Lockstep k a b) (hf : ∀ x, Attempt.Lockstep k (f x) (g x)) :
    Attempt.Lockstep k (a >>= f) (b >>= g) := fun s t h _ _ =>
  (ha s t h).bind_wp₂ (fun x s' t' i' j' h' => hf x s' t' h' i' j') fun _ _ _ _ _ h' => ⟨rfl, h'⟩

theorem ite {c : Prop} [Decidable c] (ha : Attempt.Lockstep k a b)
    (ha' : Attempt.Lockstep k a' b') :
    Attempt.Lockstep k (if c then a else a') (if c then b else b') := by
  split
  · exact ha
  · exact ha'

theorem always {p : Step (Site MemoryDevice) α} {q : Step (Site VulkanDevice) α}
    (h : Step.Lockstep k p q) :
    Attempt.Lockstep k (BufferCoherence.always p) (BufferCoherence.always q) := fun s t h' i j => by
  rw [Attempt.wp₂_always]
  exact (h s t h').wp₂ fun _ _ _ _ _ h'' => ⟨rfl, h''⟩

/-- The buffer is looked at, and what follows relies on what it is now. -/
theorem looking {f : Buffer → Attempt (Site MemoryDevice) β}
    {g : Buffer → Attempt (Site VulkanDevice) β}
    (hf : ∀ s t, Twin k s t → (f s.buffer).Agree (g s.buffer) s t fun _ => Twin k) :
    Attempt.Lockstep k (BufferCoherence.always Site.current >>= f)
      (BufferCoherence.always Site.current >>= g) := by
  intro s t h i j
  exact h.looking_wp₂ (hf s t h i j)

end Attempt.Lockstep

end Lockstep

namespace Site

variable {s : Site MemoryDevice} {t : Site VulkanDevice}

/-! ## 4. Storage -/

theorem declareCurrent_lockstep (l : Location) :
    Step.Lockstep k (declareCurrent l) (declareCurrent l) :=
  .bind (.change fun _ _ h => h.markValid l) fun _ => .bind .current fun _ => .note _

theorem declareStaleIn_lockstep (l : Location) (offset size : Nat) :
    Step.Lockstep k (declareStaleIn l offset size) (declareStaleIn l offset size) := by
  have hrest : Step.Lockstep k
      (change (·.markStale l offset size) >>= fun _ => current >>= fun b =>
        note (.locationsNow b.id b.locations) >>= fun _ =>
          if b.locations.isEmpty then note (.noLocation b.id) else pure ())
      (change (·.markStale l offset size) >>= fun _ => current >>= fun b =>
        note (.locationsNow b.id b.locations) >>= fun _ =>
          if b.locations.isEmpty then note (.noLocation b.id) else pure ()) :=
    .bind (.change fun _ _ h => h.markStale l offset size) fun _ => .bind .current fun b =>
      .bind (.note _) fun _ => .ite (.note _) (.pure _)
  unfold declareStaleIn
  exact .bind .current fun b => .ite (.bind (.noteAll _) fun _ => hrest) hrest

theorem declareStale_lockstep (l : Location) :
    Step.Lockstep k (declareStale l) (declareStale l) := declareStaleIn_lockstep l 0 0

theorem markDirty_lockstep (offset size : Nat) :
    Step.Lockstep k (markDirty offset size) (markDirty offset size) :=
  .bind .current fun _ => .bind (.noteAll _) fun _ =>
    .change fun _ _ h => { h with dirty := h.dirty.mark offset size }

theorem pinShadow_lockstep : Step.Lockstep k pinShadow pinShadow :=
  .change fun _ _ h => { h with }

theorem clearShadow_lockstep : Step.Lockstep k clearShadow clearShadow := by
  refine .change fun b e h => h.withShadow fun m hm => ?_
  obtain ⟨m', hm', rfl⟩ := Option.map_eq_some_iff.mp hm
  rw [Bytes.size_zeros, h.shadow m' hm']

theorem reserveShadow_lockstep : Step.Lockstep k reserveShadow reserveShadow := by
  have hzeroes : Step.Lockstep k (change fun b => { b with shadow := some (Bytes.zeros b.size) })
      (change fun b => { b with shadow := some (Bytes.zeros b.size) }) := by
    refine .change fun b e h => h.withShadow fun m hm => ?_
    cases hm
    rw [Bytes.size_zeros, h.size]
  intro s t h i j
  unfold reserveShadow
  rw [Step.wp₂_bind, Step.wp₂_get, h.buffer, hostLends_eq, hostLends_eq]
  exact Step.Lockstep.ite (.pure _) (.ite (.bind hzeroes fun _ => .pure _)
    (.bind (.note _) fun _ => .pure _)) s t h i j

theorem giveUpShadow_lockstep : Step.Lockstep k giveUpShadow giveUpShadow :=
  .bind .current fun _ => .ite (.note _) (.bind (.note _) fun _ =>
    .bind (declareStale_lockstep _) fun _ => .change fun _ _ h => h.withShadow nofun)

/-! ## 5. The object -/

/-- An object is taken that no other buffer has. -/
theorem adoptObject_agrees (h : Twin k s t) {o : BufferObject} (hoffset : o.offset = 0)
    (hhas : t.machine.device.Has o.handle k.size k.reached)
    (hnew : ∀ size reached, ¬ k.others o.handle size reached) :
    (adoptObject o).Agree (adoptObject o) s t fun _ => Twin k := by
  intro i j
  obtain ⟨hhandle, hplace⟩ := placement_enlist o s.machine.users s.buffer.user
  unfold adoptObject
  rw [Step.wp₂_modify, h.buffer, h.machines.users]
  refine ⟨rfl, rfl, ⟨rfl, h.machines.nextBuffer, h.machines.devices⟩, h.positive, ?_, h.others⟩
  refine { h.fitted with object := fun p hp => ?_, dirty := h.fitted.dirty.markAll }
  have hp : some (o.enlist s.machine.users s.buffer.user).1 = some p := hp
  rw [← Option.some.inj hp, hhandle]
  exact ⟨hplace.trans hoffset, hhas, hnew⟩

/-- **A new object**, which lacks everything. -/
theorem newObject_agrees (h : Twin k s t) {request : ObjectRequest}
    (hrequest : s.buffer.objectRequest? = some request) :
    (newObject request).Agree (newObject request) s t fun r s' t' => Twin k s' t' ∧ r = .ok () := by
  obtain ⟨hsize, hreached⟩ := h.fitted.request hrequest
  have hmake := h.tryDevice_agrees (P := fun r _ e =>
      r = .ok ⟨⟨t.machine.device.nextHandle⟩, 0⟩ ∧
        e.Has ⟨t.machine.device.nextHandle⟩ k.size k.reached)
    ((h.machines.devices.makeObject request (hsize ▸ h.positive)
      (hsize ▸ h.fitted.dirty.room.hosted)
      (h.fitted.dirty.lent (hsize ▸ h.positive) (Nat.le_of_eq hsize))).mono fun r d e hpost => by
        obtain ⟨hr, htwins, hkeeps, hhas⟩ := hpost
        rw [hsize, hreached] at hhas
        exact ⟨htwins, hkeeps, hr, hhas⟩)
  intro i j
  unfold newObject
  refine hmake.bind_wp₂ (fun a s' t' i' j' hpost => ?_) fun f _ _ _ _ hpost => nomatch hpost.2.2.1
  obtain ⟨h', -, ha, hhas⟩ := hpost
  cases ha
  refine h'.looking_wp₂ ?_
  rw [Attempt.wp₂_bind, Attempt.wp₂_always]
  refine (adoptObject_agrees h' (o := .new ⟨⟨t.machine.device.nextHandle⟩, 0⟩ s'.buffer.size) rfl
    hhas fun size reached ho => ?_).wp₂ fun _ s'' t'' _ _ h'' => ⟨rfl, h'', rfl⟩
  -- the handle is new, and so that of no other buffer's object
  exact Nat.lt_irrefl _ ((h.others _ _ _ ho).issued h.machines.devices.balanced)

theorem reserveObject_lockstep : Step.Lockstep k reserveObject reserveObject := by
  unfold reserveObject
  refine .looking fun s t h => ?_
  cases hrequest : s.buffer.objectRequest? with
  | none => exact Step.Lockstep.bind (.note _) (fun _ => .pure _) s t h
  | some request =>
    dsimp only
    split
    · exact Step.Lockstep.pure _ s t h
    split
    · exact Step.Lockstep.bind (.note _) (fun _ => .pure _) s t h
    · intro i j
      rw [Step.wp₂_bind, Step.wp₂_noteAll, Step.wp₂_bind, Attempt.wp₂_outcome]
      refine (newObject_agrees h hrequest).wp₂ fun r s' t' i' j' hpost => ?_
      obtain ⟨h', rfl⟩ := hpost
      exact Step.Lockstep.bind (.change fun _ _ hb => hb.restartBarriers) (fun _ => .pure _)
        s' t' h' i' j'

/-- The object goes back to the device, and the other buffers keep theirs. -/
theorem freeObject_lockstep : Step.Lockstep k freeObject freeObject := by
  intro s t h i j
  unfold freeObject takeObject
  simp only [Step.wp₂_bind, Step.wp₂_get, h.buffer]
  cases hobject : s.buffer.object with
  | none => exact ⟨trivial, h⟩
  | some o =>
    simp only [Step.wp₂_bind, Step.wp₂_set, Step.wp₂_pure, wp₂_onDevice, h.machines.users]
    refine (h.machines.devices.freeObject o.handle).wp₂ fun _ d e _ _ hpost => ?_
    obtain ⟨htwins, hkept⟩ := hpost
    refine ⟨trivial, rfl, ⟨rfl, h.machines.nextBuffer, htwins⟩, h.positive,
      { h.fitted with object := nofun },
      fun a size reached ha => hkept a size reached ?_ (h.others _ _ _ ha)⟩
    rintro rfl
    exact (h.fitted.object o hobject).2.2 size reached ha

theorem removeObject_lockstep : Step.Lockstep k removeObject removeObject := by
  unfold removeObject
  refine .looking fun s t h => ?_
  obtain ⟨tracker, ht⟩ := h.fitted.modern
  rw [ht]
  exact freeObject_lockstep s t h

/-! ## 6. Residency -/

/-- A transfer of the ranges that both ends have. -/
theorem transfer_agrees (h : Twin k s t) {target : TransferTarget} {source : TransferSource}
    {ranges : List ByteRange} (hsource : source.Covers t.machine.device ranges)
    (htarget : target.Covers t.machine.device ranges)
    (hroom : k.lends (max (totalSize ranges) 1) = true) (flags : MapFlags) :
    (onDevice (Device.transfer target source ranges flags)).Agree
      (onDevice (Device.transfer target source ranges flags)) s t fun reply s' t' =>
        Twin k s' t' ∧ s'.buffer = s.buffer ∧ reply.outcome = .ok () ∧
          reply.host.size = target.hostBytes.size :=
  h.onDevice_agrees (P := fun reply _ _ => reply.outcome = .ok () ∧
      reply.host.size = target.hostBytes.size)
    ((h.machines.devices.transfer hsource htarget hroom flags).mono fun _ _ _ hpost =>
      ⟨hpost.2.2.1, hpost.2.2.2, hpost.1, hpost.2.1⟩)

/-- Ranges of the buffer moved to its object. -/
theorem fillObject_agrees (h : Twin k s t) {handle : ObjectHandle} {offset : Nat}
    (hhas : t.machine.device.Has handle k.size k.reached) {source : TransferSource}
    {ranges : List ByteRange} (hsource : source.Covers t.machine.device ranges)
    (hfit : ∀ r ∈ ranges, offset + r.stop ≤ k.size)
    (hroom : k.lends (max (totalSize ranges) 1) = true) (flags : MapFlags) :
    (fillObject handle offset source ranges flags).Agree
      (fillObject handle offset source ranges flags) s t fun _ => Twin k := by
  intro i j
  unfold fillObject
  exact Attempt.Agree.always_wp₂
    (transfer_agrees h hsource (TransferTarget.covers_object hhas hfit) hroom flags)
    fun _ _ _ _ _ hpost => ⟨rfl, hpost.1⟩

/-- A run of the buffer moved to its shadow. -/
theorem fillShadow_agrees (h : Twin k s t) {start size : Nat} (hfit : start + size ≤ k.size)
    {source : TransferSource} (hsource : source.Covers t.machine.device [⟨0, size⟩])
    (flags : MapFlags) :
    (fillShadow start size source flags).Agree (fillShadow start size source flags) s t
      fun _ => Twin k := by
  intro i j
  unfold fillShadow
  refine h.looking_wp₂ ?_
  cases hshadow : s.buffer.shadow with
  | none => exact ⟨rfl, h⟩
  | some shadow =>
    have hsize := h.fitted.shadow shadow hshadow
    have htarget : (TransferTarget.host (shadow.extract start (start + size))).Covers
        t.machine.device [⟨0, size⟩] := TransferTarget.covers_host fun r hr => by
      cases List.mem_singleton.mp hr
      rw [ByteArray.size_extract]
      show 0 + size ≤ _
      omega
    refine Attempt.Agree.always_wp₂ (transfer_agrees h hsource htarget
      (h.fitted.dirty.staged_run h.positive (by omega)) flags) fun reply s' t' _ _ hpost => ?_
    obtain ⟨h', -, -, -⟩ := hpost
    rw [Attempt.wp₂_bind, Attempt.wp₂_always, wp₂_change, h'.buffer]
    refine ⟨rfl, h'.change (h'.fitted.withShadow fun m hm => ?_)⟩
    cases hm
    rw [Bytes.size_splice, hsize]

theorem giveUpLost_lockstep : Step.Lockstep k giveUpLost giveUpLost :=
  .bind .current fun _ => .ite (.bind (.note _) fun _ => declareCurrent_lockstep _) (.pure _)

theorem refreshWith_lockstep {target : Location} {prepare : Step (Site MemoryDevice) Bool}
    {prepare' : Step (Site VulkanDevice) Bool} {load : Attempt (Site MemoryDevice) Unit}
    {load' : Attempt (Site VulkanDevice) Unit} {settle : Step (Site MemoryDevice) Unit}
    {settle' : Step (Site VulkanDevice) Unit} (hp : Step.Lockstep k prepare prepare')
    (hl : Attempt.Lockstep k load load') (hs : Step.Lockstep k settle settle') :
    Attempt.Lockstep k (refreshWith target prepare load settle)
      (refreshWith target prepare' load' settle') := by
  unfold refreshWith
  refine .bind (.always .current) fun b => .ite (.pure _)
    (.bind (.always giveUpLost_lockstep) fun _ => .bind (.always .current) fun b =>
      .bind (.note _) fun _ => .bind (.always hp) fun ready => .ite (.throw _)
        (.bind (.always .current) fun b => .ite ?_ ?_))
  · exact .bind (.note _) fun _ => .bind (.always (declareCurrent_lockstep _)) fun _ =>
      .always (declareStale_lockstep _)
  · exact .bind hl fun _ => .bind (.always (declareCurrent_lockstep _)) fun _ => .always hs

theorem loadShadow_lockstep : Attempt.Lockstep k loadShadow loadShadow := by
  unfold loadShadow
  refine .looking fun s t h => ?_
  split
  · exact Attempt.Lockstep.always clearShadow_lockstep s t h
  · cases hcurrent : s.buffer.currentObject with
    | none => exact Attempt.Lockstep.refuse _ _ s t h
    | some o =>
      obtain ⟨hoffset, hhas, -⟩ := h.fitted.currentObject hcurrent
      dsimp only
      rw [hoffset, h.fitted.size]
      refine fillShadow_agrees h (Nat.le_of_eq (Nat.zero_add _))
        (TransferSource.covers_object hhas fun r hr => ?_) MapFlags.write
      cases List.mem_singleton.mp hr
      exact Nat.le_of_eq ((Nat.zero_add _).trans (Nat.zero_add _))

theorem refreshShadow_lockstep : Attempt.Lockstep k refreshShadow refreshShadow :=
  refreshWith_lockstep reserveShadow_lockstep loadShadow_lockstep (.pure _)

/-- The spans that the object lacks are filled from bytes as long as the buffer. -/
theorem fillSpans_agrees (h : Twin k s t) {o : BufferObject} (ho : s.buffer.object = some o)
    {data : ByteArray} (hdata : data.size = k.size) (flags : MapFlags) :
    (fillObject o.handle o.offset (.host data) s.buffer.dirty.spans flags).Agree
      (fillObject o.handle o.offset (.host data) s.buffer.dirty.spans flags) s t
      fun _ => Twin k := by
  obtain ⟨hoffset, hhas, -⟩ := h.fitted.object o ho
  have hspans (r : ByteRange) (hr : r ∈ s.buffer.dirty.spans) : r.stop ≤ k.size :=
    h.fitted.dirty.size ▸ h.fitted.dirty.fits r hr
  refine fillObject_agrees h hhas (TransferSource.covers_host fun r hr => ?_) (fun r hr => ?_)
    (h.fitted.dirty.staged h.positive) flags
  · rw [hdata]
    exact hspans r hr
  · rw [hoffset, Nat.zero_add]
    exact hspans r hr

theorem uploadPlain_lockstep : Attempt.Lockstep k uploadPlain uploadPlain := by
  unfold uploadPlain
  refine .looking fun s t h => ?_
  cases hshadow : s.buffer.shadow with
  | none => exact Attempt.Lockstep.refuse _ _ s t h
  | some shadow =>
    cases ho : s.buffer.object with
    | none => exact Attempt.Lockstep.refuse _ _ s t h
    | some o => exact fillSpans_agrees h ho (h.fitted.shadow shadow hshadow) _

/-- Both hosts lend a copy to convert vertices in, or neither does. -/
theorem borrowScratch_agrees (h : Twin k s t) (n : Nat) :
    (borrowScratch n).Agree (borrowScratch n) s t fun _ s' t' => s' = s ∧ t' = t := by
  intro i j
  unfold borrowScratch
  rw [Attempt.wp₂_bind, Attempt.wp₂_always, Step.wp₂_get]
  dsimp only
  rw [hostLends_eq, hostLends_eq, h.buffer, Attempt.wp₂_ite]
  split
  · exact ⟨rfl, rfl, rfl⟩
  · exact ⟨rfl, rfl, rfl⟩

theorem uploadConverted_lockstep : Attempt.Lockstep k uploadConverted uploadConverted := by
  unfold uploadConverted
  refine .bind refreshShadow_lockstep fun _ => .bind (.always pinShadow_lockstep) fun _ =>
    .looking fun s t h => ?_
  cases s.buffer.conversion.map with
  | none => exact Attempt.Lockstep.refuse _ _ s t h
  | some map =>
    cases hshadow : s.buffer.shadow with
    | none => exact Attempt.Lockstep.refuse _ _ s t h
    | some shadow =>
      cases ho : s.buffer.object with
      | none => exact Attempt.Lockstep.refuse _ _ s t h
      | some o =>
        refine fun _ _ => (borrowScratch_agrees h shadow.size).bind_wp₂ ?_ ?_
        · rintro _ _ _ i j ⟨rfl, rfl⟩
          exact fillSpans_agrees h ho
            ((map.size_convert _ _).trans (h.fitted.shadow shadow hshadow)) _ i j
        · rintro f _ _ _ _ ⟨rfl, rfl⟩
          exact ⟨rfl, h⟩

theorem loadObject_lockstep : Attempt.Lockstep k loadObject loadObject := by
  have hzeroes : Attempt.Lockstep k materializeCleared materializeCleared :=
    .bind (.always reserveShadow_lockstep) fun _ =>
      .ite (.always clearShadow_lockstep) (.throw _)
  have hupload (b : Buffer) : Attempt.Lockstep k
      (if b.isConverted then uploadConverted else uploadPlain)
      (if b.isConverted then uploadConverted else uploadPlain) :=
    .ite uploadConverted_lockstep uploadPlain_lockstep
  unfold loadObject
  exact .bind (.always .current) fun b => .ite
    (.bind hzeroes fun _ => .bind (.always .current) hupload)
    (.bind (.always .current) hupload)

theorem releaseShadow_lockstep : Step.Lockstep k releaseShadow releaseShadow :=
  .bind .current fun _ => .ite giveUpShadow_lockstep (.pure _)

theorem refreshObject_lockstep : Attempt.Lockstep k refreshObject refreshObject :=
  refreshWith_lockstep reserveObject_lockstep loadObject_lockstep releaseShadow_lockstep

theorem refreshCopy_lockstep (l : Location) :
    Attempt.Lockstep k (refreshCopy l) (refreshCopy l) :=
  .bind (.always .current) fun _ => .ite (.refuse _ _)
    (.ite refreshShadow_lockstep refreshObject_lockstep)

theorem refreshSomewhere_lockstep : Attempt.Lockstep k refreshSomewhere refreshSomewhere := by
  unfold refreshSomewhere
  refine .bind (.always .current) fun b => .ite refreshShadow_lockstep
    (.bind (.always (.outcome refreshObject_lockstep)) fun r => ?_)
  cases r with
  | ok _ => exact .pure _
  | error f => exact .bind (.always .current) fun b => .ite (.throw _) refreshShadow_lockstep

theorem currentAddress_agrees (h : Twin k s t) : currentAddress.Agree currentAddress s t
    fun r s' t' => Twin k s' t' ∧ ∀ a, r = .ok a → s'.buffer.address? = some a := by
  intro i j
  unfold currentAddress
  refine h.looking_wp₂ ?_
  cases ha : s.buffer.address? with
  | none => exact ⟨rfl, h, nofun⟩
  | some a =>
    refine ⟨rfl, h, fun a' ha' => ?_⟩
    cases ha'
    exact ha

/-- Where the bytes are is an address that the buffer has. -/
theorem authoritative_agrees (h : Twin k s t) : authoritative.Agree authoritative s t
    fun r s' t' => Twin k s' t' ∧ ∀ a, r = .ok a → s'.buffer.address? = some a := by
  rw [authoritative_eq, authoritative_eq]
  intro i j
  refine h.looking_wp₂ ?_
  rw [Attempt.wp₂_ite]
  split
  · exact (refreshSomewhere_lockstep s t h).bind_wp₂
      (fun _ s' t' i' j' h' => currentAddress_agrees h' i' j') fun _ _ _ _ _ h' => ⟨rfl, h', nofun⟩
  · exact currentAddress_agrees h i j

theorem shadowBytes_agrees (h : Twin k s t) : shadowBytes.Agree shadowBytes s t
    fun r s' t' => Twin k s' t' ∧ ∀ m, r = .ok m → m.size = k.size := by
  intro i j
  unfold shadowBytes
  refine h.looking_wp₂ ?_
  cases hshadow : s.buffer.shadow with
  | none => exact ⟨rfl, h, nofun⟩
  | some m =>
    refine ⟨rfl, h, fun m' hm => ?_⟩
    cases hm
    exact h.fitted.shadow m hshadow

theorem content_lockstep : Attempt.Lockstep k content content := by
  intro s t h
  unfold content
  refine Attempt.Lockstep.bind_at (authoritative_agrees h) fun a s t h ha => ?_
  cases a with
  | shadow => exact (shadowBytes_agrees h).mono fun _ _ _ hpost => hpost.1
  | object handle offset =>
    obtain ⟨rfl, hhas⟩ := h.fitted.address (ha _ rfl)
    intro i j
    refine h.looking_wp₂ ?_
    have hspan (r : ByteRange) (hr : r ∈ [s.buffer.span]) : r.stop = k.size := by
      cases List.mem_singleton.mp hr
      exact (Nat.zero_add _).trans h.fitted.size
    refine Attempt.Agree.always_wp₂ (transfer_agrees h
      (TransferSource.covers_object hhas fun r hr => ?_) (TransferTarget.covers_host fun r hr => ?_)
      ?_ MapFlags.write) fun reply s' t' _ _ hpost => ?_
    · exact Nat.le_of_eq ((Nat.zero_add _).trans (hspan r hr))
    · rw [Bytes.size_zeros, h.fitted.size]
      exact Nat.le_of_eq (hspan r hr)
    · exact h.fitted.dirty.staged_run h.positive (Nat.le_of_eq h.fitted.size)
    · rw [Attempt.wp₂_bind, Attempt.wp₂_answer, hpost.2.2.1]
      exact ⟨rfl, hpost.1⟩

theorem keepShadow_lockstep : Attempt.Lockstep k keepShadow keepShadow :=
  .bind refreshShadow_lockstep fun _ => .bind (.always pinShadow_lockstep) fun _ _ _ h =>
    (shadowBytes_agrees h).mono fun _ _ _ hpost => hpost.1

end Site

end BufferCoherence
