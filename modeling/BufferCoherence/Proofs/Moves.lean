import BufferCoherence.Buffer.Creation
import BufferCoherence.Proofs.Steps

/-!
# What an operation does to the storage of a buffer

Every operation on a buffer is a sequence of moves, on any device. A `Move` is one change of the
site, and its kind says which storage it may touch:

* most moves leave all storage where it is: they keep the records of the buffer (`book`) or call the
  device without making or freeing an object (`call`);
* the others make an object, free it or put another one in its place, give the shadow up, or change
  what is mapped.

`Step.Within` and `Attempt.Within` say which kinds of moves a definition consists of, one lemma a
definition. What each move of these kinds keeps, the whole operation keeps (`Site.Moves.keeps`), so
that an invariant of the storage is proved move by move, and no operation is opened for it again.
-/

namespace BufferCoherence

variable {δ α β : Type}

/-! ## 1. Moves -/

/-- The buffer's records change, and its storage stays: the same object, no shadow given up, nothing
    mapped or released. -/
structure Buffer.Evolves (b b' : Buffer) : Prop where
  usage : b'.usage = b.usage
  kind : b'.backend.kind = b.backend.kind
  pinned : b.pinned = true → b'.pinned = true
  objectAllowed : b'.objectAllowed = true → b.objectAllowed = true
  shadow : b.shadow.isSome = true → b'.shadow.isSome = true
  object : b'.object.map (·.handle) = b.object.map (·.handle)
  mapCount : b'.mapCount = b.mapCount
  mapBase : b'.mapBase = b.mapBase

theorem Buffer.Evolves.refl (b : Buffer) : b.Evolves b :=
  ⟨rfl, rfl, fun h => h, fun h => h, fun h => h, rfl, rfl, rfl⟩

/-- A call of the device that neither makes nor frees an object. -/
inductive Device.Quiet [Device δ] : δ → δ → Prop where
  | transfer {d : δ} (target : TransferTarget) (source : TransferSource) (ranges : List ByteRange)
      (flags : MapFlags) (j : Journal) :
      Quiet d (Device.transfer target source ranges flags d j).1.2
  | openMapping {d : δ} (h : ObjectHandle) (offset size : Nat) (flags : MapFlags) (j : Journal) :
      Quiet d ((Device.openMapping h offset size flags).run d j).1.2
  | closeMapping {d : δ} (h : ObjectHandle) (ranges : List ByteRange) (j : Journal) :
      Quiet d (Device.closeMapping h ranges d j).1.2
  | recordBarrier {d : δ} (b : Barrier) (j : Journal) : Quiet d (Device.recordBarrier b d j).1.2
  | endCapture {d : δ} (j : Journal) : Quiet d (Device.endCapture d j).1.2
  | poke {d : δ} (h : ObjectHandle) (position : Nat) (data : ByteArray) :
      Quiet d (Device.poke h position data d)

/-- The kind of a move. -/
inductive MoveKind where
  /-- The records of the buffer. -/
  | book
  /-- A call of the device that neither makes nor frees an object. -/
  | call
  /-- An object made for a buffer without one, or refused. -/
  | make
  /-- The shadow given up, since the object was loaded. -/
  | release
  /-- The shadow given up, since its content is thrown away. -/
  | discard
  /-- The object given back to the device. -/
  | free
  /-- An object handed in, in place of the one there was. -/
  | rename (h : ObjectHandle)
  /-- The number of mappings, or the mapping of the object. -/
  | hold

namespace Site

variable [Device δ] {s t u : Site δ} {K K' : List MoveKind}

/-- One change of a site. -/
inductive Move (s : Site δ) : MoveKind → Site δ → Prop where
  | book {b : Buffer} (h : s.buffer.Evolves b) (users : UserTable) :
      Move s .book ⟨b, { s.machine with users }⟩
  | call {d : δ} (h : Device.Quiet s.machine.device d) :
      Move s .call { s with machine.device := d }
  | made {request : ObjectRequest} {a : Placement} {d : δ} {j k : Journal} (size : Nat)
      (bare : s.buffer.object = none)
      (h : (Device.makeObject request).run s.machine.device j = ((.ok a, d), k)) :
      Move s .make ⟨{ s.buffer with object := some (.new a size) }, { s.machine with device := d }⟩
  | refused {request : ObjectRequest} {f : Failure} {d : δ} {j k : Journal}
      (h : (Device.makeObject request).run s.machine.device j = ((.error f, d), k)) :
      Move s .make { s with machine.device := d }
  | released (loose : s.buffer.pinned = false) (steady : s.buffer.isDynamic = false) :
      Move s .release { s with buffer := { s.buffer with shadow := none } }
  | discarded (loose : s.buffer.pinned = false) :
      Move s .discard { s with buffer := { s.buffer with shadow := none } }
  | freed {o : BufferObject} (ho : s.buffer.object = some o) (j : Journal) :
      Move s .free ⟨{ s.buffer with object := none },
        { s.machine with device := (Device.freeObject o.handle s.machine.device j).1.2 }⟩
  | replaced {p o : BufferObject} (hp : s.buffer.object = some p) (j : Journal) :
      Move s (.rename o.handle) ⟨{ s.buffer with object := some o },
        { s.machine with device := (Device.freeObject p.handle s.machine.device j).1.2 }⟩
  | given {o : BufferObject} (bare : s.buffer.object = none) :
      Move s (.rename o.handle) { s with buffer := { s.buffer with object := some o } }
  | held (mapCount : Nat) (mapBase : Option MapBase) :
      Move s .hold { s with buffer := { s.buffer with mapCount, mapBase } }

/-- A sequence of moves of the kinds `K`. -/
inductive Moves (K : List MoveKind) (s : Site δ) : Site δ → Prop where
  | here : Moves K s s
  | next {t u : Site δ} {k : MoveKind} (h : Moves K s t) (hk : k ∈ K) (step : t.Move k u) :
      Moves K s u

namespace Moves

theorem one {k : MoveKind} (step : s.Move k t) (hk : k ∈ K) : Moves K s t := .next .here hk step

theorem trans (h : Moves K s t) (h' : Moves K t u) : Moves K s u := by
  induction h' with
  | here => exact h
  | next _ hk step ih => exact .next ih hk step

instance : IsPreorder (Site δ) (Moves K) where
  refl _ := .here
  trans _ _ _ := trans

theorem mono (h : Moves K s t) (hK : K ⊆ K') : Moves K' s t := by
  induction h with
  | here => exact .here
  | next _ hk step ih => exact .next ih (hK hk) step

/-- **What every move keeps, all of them keep.** -/
theorem keeps {P : Site δ → Prop} (h : Moves K s t)
    (hP : ∀ k ∈ K, ∀ x y : Site δ, x.Move k y → P x → P y) (hs : P s) : P t := by
  induction h with
  | here => exact hs
  | next _ hk step ih => exact hP _ hk _ _ step ih

end Moves

end Site

/-! ## 2. Steps made of moves -/

section Within

variable [Device δ] {K K' : List MoveKind}

/-- The step consists of moves of the kinds `K`. -/
def Step.Within (K : List MoveKind) (p : Step (Site δ) α) : Prop :=
  ∀ s, p.Ends s fun _ t => s.Moves K t

/-- The attempt consists of moves of the kinds `K`, whether it fails or not. -/
def Attempt.Within (K : List MoveKind) (a : Attempt (Site δ) α) : Prop :=
  ∀ s, a.Ends s fun _ t => s.Moves K t

namespace Step.Within

variable {p : Step (Site δ) α} {f : α → Step (Site δ) β}

theorem mono (h : p.Within K) (hK : K ⊆ K') : p.Within K' :=
  fun s => (h s).mono fun _ _ ht => ht.mono hK

theorem pure (a : α) : Step.Within K (Pure.pure a : Step (Site δ) α) := fun _ _ => .here

theorem bind (hp : p.Within K) (hf : ∀ a, (f a).Within K) : Step.Within K (p >>= f) :=
  Step.Relates.bind (R := Site.Moves K) hp hf

theorem current : Step.Within K (Site.current : Step (Site δ) Buffer) := fun _ _ => .here

theorem outcome {a : Attempt (Site δ) α} (h : a.Within K) : Step.Within K a.outcome := h

/-- A change of the records. -/
theorem change {g : Buffer → Buffer} (h : ∀ b : Buffer, b.Evolves (g b)) (hK : .book ∈ K) :
    Step.Within K (Site.change g : Step (Site δ) Unit) :=
  fun s _ => .one (.book (h s.buffer) s.machine.users) hK

/-- A call that neither makes nor frees an object. -/
theorem onDevice {p : Step δ α} (h : ∀ d, p.Ends d fun _ e => Device.Quiet d e)
    (hK : .call ∈ K) : Step.Within K (Site.onDevice p) := by
  intro s j
  rw [Site.wp_onDevice]
  exact (h _).wp fun _ d _ hd => .one (.call hd) hK

end Step.Within

namespace Attempt.Within

variable {a b : Attempt (Site δ) α} {f : α → Attempt (Site δ) β}

theorem mono (h : a.Within K) (hK : K ⊆ K') : a.Within K' :=
  fun s => (h s).mono fun _ _ ht => ht.mono hK

theorem pure (x : α) : Attempt.Within K (Pure.pure x : Attempt (Site δ) α) := fun _ _ => .here

/-- From one site on. -/
theorem bind_at {s : Site δ} (ha : a.Ends s fun _ t => s.Moves K t) (hf : ∀ x, (f x).Within K) :
    (a >>= f).Ends s fun _ t => s.Moves K t := Attempt.Relates.bind_at (R := Site.Moves K) ha hf

theorem bind (ha : a.Within K) (hf : ∀ x, (f x).Within K) : Attempt.Within K (a >>= f) :=
  fun s => bind_at (ha s) hf

theorem ite {c : Prop} [Decidable c] (ha : a.Within K) (hb : b.Within K) :
    Attempt.Within K (if c then a else b) := Attempt.Relates.ite (R := Site.Moves K) ha hb

theorem refuse (source : Source) (e : Failure) :
    Attempt.Within K (BufferCoherence.refuse source e : Attempt (Site δ) α) := fun _ _ => .here

theorem answer (r : Except Failure α) :
    Attempt.Within K (BufferCoherence.answer r : Attempt (Site δ) α) := fun _ _ => .here

theorem note (n : Notice) :
    Attempt.Within K (liftM (BufferCoherence.note n) : Attempt (Site δ) Unit) := fun _ _ => .here

theorem always {p : Step (Site δ) α} (h : p.Within K) :
    Attempt.Within K (BufferCoherence.always p) := h

end Attempt.Within

end Within

end BufferCoherence
