import BufferCoherence.Proofs.Calls

/-!
# Residency

What is true of the storage of a buffer between any two operations of a run, on the memory device:
some copy is current, a current copy has its storage, an object that is current lacks nothing and
one that is not lacks something, and nothing is mapped (`Site.Resident`). It is read off the
invariant of runs (`run_idle`). That a shadow which must stay stays is not about one state but about
what comes after it: no move lets go of the claim (`Site.Move.pinned`), so that no operation does.
-/

namespace BufferCoherence

namespace Site

/-! ## 1. Storage between operations -/

/-- **The storage of a buffer that no operation is at work on.** -/
structure Resident (s : Site MemoryDevice) : Prop where
  somewhere : s.buffer.locations.isEmpty = false
  mirrored : s.buffer.locations.has Location.sysmem = true ∨ s.buffer.pinned = true →
    ∃ m, s.buffer.shadow = some m ∧ m.size = s.buffer.size
  present : s.buffer.locations.has Location.gpuObject = true →
    ∃ o, s.buffer.object = some o ∧ Device.live s.machine.device o.handle = true ∧
      s.buffer.dirty.isPending = false
  lacking : s.buffer.object.isSome = true → s.buffer.locations.has Location.gpuObject = false →
    s.buffer.objectAllowed = true → s.buffer.dirty.isPending = true
  unmapped : s.buffer.mapCount = 0
  baseless : s.buffer.mapBase = none

theorem Idle.resident {s : Site MemoryDevice} {c : ByteArray} (h : Idle c s) : Resident s where
  somewhere := h.isEmpty_eq_false
  mirrored hm := by
    have hsome : s.buffer.shadow.isSome = true := by
      rcases hm with hs | hp
      · rw [show s.buffer.shadow = some c from h.mirrored hs]
        rfl
      · exact h.pinned hp
    obtain ⟨m, hm⟩ := Option.isSome_iff_exists.mp hsome
    exact ⟨m, hm, (h.shadow m hm).1⟩
  present hg := by
    obtain ⟨a, ha⟩ := Option.isSome_iff_exists.mp (h.present hg)
    obtain ⟨-, b, hheld, -⟩ := h.object a ha
    obtain ⟨o, ho, -, hbytes⟩ := copies_object_some ha
    obtain ⟨p, hp, -⟩ := MemoryDevice.bytes?_eq_some (hbytes.symm.trans hheld)
    exact ⟨o, ho, Option.isSome_iff_exists.mpr ⟨p, hp⟩, h.complete hg⟩
  lacking ho hg hallowed :=
    h.lacking (copies_object_isSome.trans ho) hg (h.allowed hallowed)
  unmapped := h.unmapped
  baseless := h.baseless

/-! ## 2. A shadow that must stay -/

/-- No move lets go of a shadow that must stay. -/
theorem Move.pinned {δ : Type} [Device δ] {s t : Site δ} {k : MoveKind} (h : s.Move k t)
    (hp : s.buffer.pinned = true) : t.buffer.pinned = true := by
  cases h with
  | book h => exact h.pinned hp
  | _ => exact hp

end Site

/-- No call lets go of a shadow that must stay. -/
theorem Call.keeps_pinned {δ : Type} [Device δ] (c : Call) {s : Site δ}
    (hp : s.buffer.pinned = true) : c.perform.Ends s fun _ t => t.buffer.pinned = true := by
  have hmoves {K : List MoveKind} {t : Site δ} (ht : s.Moves K t) : t.buffer.pinned = true :=
    ht.keeps (P := fun x => x.buffer.pinned = true) (fun _ _ _ _ step hx => step.pinned hx) hp
  refine (c.perform_moves s).mono fun _ t ht => ?_
  split at ht
  · exact hmoves ht.moves
  · exact hmoves ht

/-- What a buffer comes to after more operations, and what happens meanwhile. -/
inductive Site.Later (s : Site MemoryDevice) : Site MemoryDevice → Prop where
  | now : Later s s
  | meanwhile {t u : Site MemoryDevice} (past : Later s t) (h : t.Meanwhile u) : Later s u
  | performed {t u : Site MemoryDevice} {op : Operation} {r : Except Failure (Option ByteArray)}
      {j k : Journal} (past : Later s t) (allowed : op.Allowed t)
      (h : op.perform.run t j = ((r, u), k)) : Later s u

theorem Site.Later.perform {s t : Site MemoryDevice} (past : Later s t) (op : Operation)
    (allowed : op.Allowed t) (j : Journal) : Later s (op.perform.run t j).1.2 :=
  past.performed allowed rfl

theorem Site.Later.pinned {s t : Site MemoryDevice} (h : s.Later t)
    (hp : s.buffer.pinned = true) : t.buffer.pinned = true := by
  induction h with
  | now => exact hp
  | meanwhile _ h ih =>
    rw [h.buffer]
    exact ih
  | @performed t u op r j k _ _ h ih =>
    have hends : (op.perform.run t j).1.2.buffer.pinned = true :=
      (Call.complete op).keeps_pinned ih j
    rw [h] at hends
    exact hends

/-! ## 3. Runs -/

variable {m : Machine MemoryDevice} {request : BufferRequest} {data : Option ByteArray}
  {settings : Settings} {past : List Happening} {s : Site MemoryDevice}

/-- **Residency.** Wherever a run of complete operations stands, the storage of the buffer is as it
    should be, and a shadow that must stay stays from then on. -/
theorem run_resident (h : Run m request data settings past s) :
    s.Resident ∧ ∀ t, s.Later t → s.buffer.pinned = true → t.buffer.pinned = true := by
  obtain ⟨c, -, hi⟩ := run_idle h
  exact ⟨hi.resident, fun t ht hp => ht.pinned hp⟩

/-- On a device that shifts its mappings: a write that does not wait for the object goes through
    the shadow instead, which has to stay from then on, also when the object is given up for good. -/
theorem run_resident_misaligned :
    ∃ past s t, Run (.new { MemoryDevice.new .legacy with shiftsMappings := true })
        ⟨4, ∅, BindFlags.vertexBuffer, Access.gpu, 0⟩ (some ⟨#[1, 2, 3, 4]⟩) {} past s ∧
      s.buffer.pinned = true ∧ s.buffer.dirty.isPending = true ∧ s.Later t ∧
      t.buffer.object = none ∧
      (s.Resident ∧ ∀ t, s.Later t → s.buffer.pinned = true → t.buffer.pinned = true) := by
  have h₀ := Run.first (.new { MemoryDevice.new .legacy with shiftsMappings := true })
    ⟨4, ∅, BindFlags.vertexBuffer, Access.gpu, 0⟩ (some ⟨#[1, 2, 3, 4]⟩) {} (.empty .error)
    (Option.some_get (by decide +kernel)).symm
  have h₁ := h₀.next (.write 1 ⟨#[9]⟩ MapFlags.noOverwrite)
    ⟨by decide +kernel, fun _ _ _ h => nomatch h⟩ (.empty .error)
  refine ⟨_, _, _, h₁, by decide +kernel, by decide +kernel,
    .perform .now .dropObject ⟨by decide +kernel, fun _ _ _ h => nomatch h⟩ (.empty .error), ?_,
    run_resident h₁⟩
  exact Option.isNone_iff_eq_none.mp (by decide +kernel)

end BufferCoherence
