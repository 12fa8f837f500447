import BufferCoherence.Proofs.Lending

/-!
# Storage outlives its mappings where it is spared

A run of calls on a buffer with mappings outstanding, on any device whose objects stay until they are
given back. As long as each call spares what is mapped, every mapping points into storage that is
there, and the next call keeps it there at every moment or, where it does not spare a mapped object,
takes it away (`Tenancy.storage_stays`).
-/

namespace BufferCoherence

open MoveKind Site

section Tenancy

variable {δ : Type} [Device δ] {s t u : Site δ} {K : List MoveKind} {st : MappedStorage}
  {ms : List Mapping} {m : Mapping}

/-! ## 1. Calls that take a mapped object -/

namespace Site

/-- An object that was replaced is not the buffer's any longer, or it is gone. -/
theorem Renames.takes [KeepsObjects δ] {a h : ObjectHandle} (ht : Renames h s t)
    (ha : s.Holds (.object a)) : ¬ t.Holds (.object a) := by
  obtain ⟨u, v, hu, huv, hv⟩ := ht
  have hkept := hu.stays (MappedStorage.sparedBy_inPlace (.object a) s.buffer).steady ha
  obtain ⟨hobj, -⟩ := hkept.holds
  rintro ⟨hobj', hlive⟩
  rw [hv.handle] at hobj'
  -- the object was given back, and nothing brings it back
  have hgone : Device.live v.machine.device a = false → Device.live t.machine.device a = false :=
    fun hdead => hv.keeps (P := fun x => Device.live x.machine.device a = false)
      (fun k hk x y step hx => by
        cases step with
        | book => exact hx
        | call hd => exact (KeepsObjects.quiet hd a).trans hx
        | _ => simp [MoveKind.inPlace] at hk) hdead
  generalize hk : MoveKind.rename h = k at huv
  cases huv with
  | @replaced p o hp j =>
    have hpa : p.handle = a := by
      rw [hp] at hobj
      exact Option.some.inj hobj
    have hfree : (Device.freeObject p.handle).Ends u.machine.device fun _ e =>
        Device.live e a = if a = p.handle then false else Device.live u.machine.device a :=
      KeepsObjects.free p.handle a
    have hdead := hfree j
    rw [hpa, if_pos rfl] at hdead
    have hdead' := hgone (hpa ▸ hdead)
    exact absurd (hdead'.symm.trans hlive) Bool.false_ne_true
  | given bare =>
    rw [bare] at hobj
    cases hobj
  | _ => cases hk

/-- A buffer that gave its object up has none. -/
theorem vacate_bare (hobj : s.buffer.object.isSome = true)
    (hkind : s.buffer.backend.kind ≠ .noObject) :
    vacate.Ends s fun _ t => t.buffer.object = none := by
  intro j
  unfold vacate
  rw [Step.wp_bind, wp_current]
  simp only [hobj, if_true]
  rw [Step.wp_bind]
  refine (saveContent_within s).wp fun _ t k ht => ?_
  simp only [Step.wp_bind, wp_declareStale]
  refine (removeObject_ends _).wp fun _ u l hu => ?_
  have hkind' : ({ t with buffer := t.buffer.markStale Location.gpuObject 0 0 } :
      Site δ).buffer.backend.kind ≠ .noObject := ht.backend.1 ▸ hkind
  rw [if_neg hkind'] at hu
  rw [wp_change]
  show u.buffer.object = none
  rw [hu]

theorem dropObject_bare (hobj : s.buffer.object.isSome = true)
    (hkind : s.buffer.backend.kind ≠ .noObject) :
    dropObject.Ends s fun _ t => t.buffer.object = none := by
  intro j
  unfold dropObject
  rw [Step.wp_bind, wp_change]
  exact vacate_bare (s := { s with buffer := { s.buffer with objectAllowed := false } }) hobj hkind j

end Site

/-- **A call that does not spare a mapped object takes it.** -/
theorem Call.takes [KeepsObjects δ] (c : Call) {a : ObjectHandle} (ha : s.Holds (.object a))
    (hkind : s.buffer.backend.kind ≠ .noObject) (h : c.frees s.buffer = true) :
    c.perform.Ends s fun _ t => ¬ t.Holds (.object a) := by
  have hobj : s.buffer.object.isSome = true := by
    rw [← Option.isSome_map, ha.1]
    rfl
  have hbare {p : Step (Site δ) Unit} (hp : p.Ends s fun _ t => t.buffer.object = none) :
      p.Ends s fun _ t => ¬ t.Holds (.object a) := hp.mono fun _ t ht hheld => by
    have hsome := hheld.1
    rw [ht] at hsome
    cases hsome
  have hconsumes (hc : (c.consumed? s.buffer).isSome = true) :
      c.perform.Ends s fun _ t => ¬ t.Holds (.object a) := by
    obtain ⟨h, hc⟩ := Option.isSome_iff_exists.mp hc
    refine (c.perform_moves s).mono fun _ t ht => ?_
    rw [hc] at ht
    exact ht.takes ha
  cases c with
  | complete op =>
    cases op with
    | vacate =>
      exact fun j => hbare (vacate_bare hobj hkind) j
    | dropObject => exact fun j => hbare (dropObject_bare hobj hkind) j
    | _ => exact hconsumes h
  | _ => exact hconsumes h

/-! ## 2. Runs -/

section Runs

variable [KeepsObjects δ] {w : Machine δ} {request : BufferRequest} {data : Option ByteArray}
  {settings : Settings}

/-- **A run of calls on a buffer**, each of which spares what is mapped when it is made; the mappings
    `ms` are lent out where it stands. Meanwhile the machine may do anything that leaves the object
    of the buffer alive. -/
inductive Tenancy (w : Machine δ) (request : BufferRequest) (data : Option ByteArray)
    (settings : Settings) : List Mapping → Site δ → Prop where
  | created {b : Buffer} {x : Machine δ} {j k : Journal}
      (h : (Machine.create request data settings).run w j = ((.ok b, x), k)) :
      Tenancy w request data settings [] ⟨b, x⟩
  | meanwhile {ms : List Mapping} {s : Site δ} {x : Machine δ}
      (past : Tenancy w request data settings ms s)
      (own : ∀ o, s.buffer.object = some o → Device.live s.machine.device o.handle = true →
        Device.live x.device o.handle = true) :
      Tenancy w request data settings ms ⟨s.buffer, x⟩
  | called {ms : List Mapping} {s t : Site δ} {c : Call} {a : Option Mapping} {j k : Journal}
      (past : Tenancy w request data settings ms s)
      (spares : ms ≠ [] → c.Spares s.buffer s.buffer.mapped) (h : c.perform s j = ((a, t), k)) :
      Tenancy w request data settings (c.outstanding a ms) t

/-- Moves that map nothing lend nothing out. -/
theorem Site.Lends.unlent (h : Lends [] s) (ht : Moves K s t) (hK : .hold ∉ K) : Lends [] t :=
  (h.moves ht hK fun hne => absurd rfl hne).1

/-- A new buffer lends nothing out. -/
theorem Site.openFresh_lends (h : Lends [] s) (pin : Bool) (data : Option ByteArray) :
    (openFresh pin data).Ends s fun r t => r = .ok () → Lends [] t := by
  refine openFresh_ready
    ((openStorage_within pin s).mono fun _ _ ht _ => h.unlent ht (by simp [MoveKind.inPlace]))
    (fun _ _ ht => ht) fun d t _ hlt => ?_
  exact (fillFresh_within _ t).mono fun _ _ hu _ => hlt.unlent hu (by simp [loading])

theorem Machine.create_lends (w : Machine δ) (request : BufferRequest) (data : Option ByteArray)
    (settings : Settings) : (create request data settings).Ends w fun r x =>
      ∀ b, r = .ok b → Lends [] ⟨b, x⟩ := by
  refine create_opened fun _ backend objectAllowed _ hcapable => ?_
  have hfresh : Lends [] (w.freshBuffer (request.granted settings) backend objectAllowed
      settings) := by
    refine ⟨rfl, fun m hm => absurd hm List.not_mem_nil, fun hne => absurd rfl hne,
      fun _ => rfl, fun hbase => absurd hbase Bool.false_ne_true, fun hn => ?_⟩
    rw [← Bool.not_eq_true]
    exact fun ha => hcapable ha hn
  exact Site.openFresh_lends hfresh _ data

theorem Tenancy.lends (h : Tenancy w request data settings ms s) : Lends ms s := by
  induction h with
  | created h => exact (w.create_lends request data settings).of_run h _ rfl
  | @meanwhile ms s x _ own ih =>
    refine ⟨ih.count, ih.points, fun hms => ?_, ih.baseless, ih.equipped, ih.barred⟩
    have hheld := ih.holds hms
    show Site.Holds _ s.buffer.mapped
    generalize s.buffer.mapped = st at hheld ⊢
    cases st with
    | shadow => exact hheld
    | object a =>
      obtain ⟨hobj, hlive⟩ := hheld
      obtain ⟨o, ho, rfl⟩ := Option.map_eq_some_iff.mp hobj
      exact ⟨hobj, own o ho hlive⟩
  | @called ms s t c a j k _ spares h ih => exact ((c.lends ih spares).of_run h).1

/-- **Storage that is mapped stays**, exactly as long as it is spared. -/
theorem Tenancy.storage_stays (h : Tenancy w request data settings ms s) :
    s.buffer.mapCount = ms.length ∧
      (∀ base, s.buffer.mapBase = some base → ms ≠ [] ∧ s.Holds (.object base.handle)) ∧
      ∀ m ∈ ms, s.Holds m.storage ∧ ∀ c : Call,
        (c.Spares s.buffer m.storage → c.perform.Ends s fun _ t => s.Stays m.storage t) ∧
        (∀ a, m.storage = .object a → ¬ c.Spares s.buffer m.storage →
          c.perform.Ends s fun _ t => ¬ t.Holds m.storage) := by
  have hl := h.lends
  have hequipped {a : ObjectHandle} (ha : s.buffer.mapped = .object a) :
      s.buffer.backend.kind ≠ .noObject := hl.equipped (by
    cases hbase : s.buffer.mapBase with
    | none =>
      rw [Buffer.mapped_of_none hbase] at ha
      cases ha
    | some base => rfl)
  refine ⟨hl.count, fun base hbase => ?_, fun m hm => ?_⟩
  · have hms : ms ≠ [] := fun hms => absurd ((hl.baseless hms).symm.trans hbase) nofun
    have hheld := hl.holds hms
    rw [Buffer.mapped_of_some hbase] at hheld
    exact ⟨hms, hheld⟩
  · have hms := List.ne_nil_of_mem hm
    have hheld := hl.holds hms
    have hpoint := hl.points m hm
    refine ⟨hpoint ▸ hheld, fun c => ⟨fun hspares => ?_, fun a ha hspares => ?_⟩⟩
    · rw [hpoint] at hspares
      exact (c.lends hl fun _ => hspares).mono fun _ t ht => ht.2 m hm
    · have hmapped := hpoint.symm.trans ha
      rw [ha] at hspares ⊢
      rw [hmapped] at hheld
      exact c.takes hheld (hequipped hmapped) (Bool.not_eq_false _ ▸ hspares)

omit [KeepsObjects δ] in
/-- A run that begins. -/
theorem Tenancy.first (w : Machine δ) (request : BufferRequest) (data : Option ByteArray)
    (settings : Settings) (j : Journal) {b : Buffer}
    (hb : ((Machine.create request data settings).run w j).1.1.toOption = some b) :
    Tenancy w request data settings [] ⟨b, ((Machine.create request data settings).run w j).1.2⟩ :=
  .created (Attempt.eq_end_of_ok _ _ _ hb)

omit [KeepsObjects δ] in
/-- The buffer is called next. -/
theorem Tenancy.call (h : Tenancy w request data settings ms s) (c : Call)
    (spares : ms ≠ [] → c.Spares s.buffer s.buffer.mapped) (j : Journal) :
    Tenancy w request data settings (c.outstanding (c.perform s j).1.1 ms) (c.perform s j).1.2 :=
  .called h spares rfl

end Runs

end Tenancy

/-- A draw leaves an object alone that is mapped. -/
theorem storage_stays_through_draw :
    ∃ ms s, Tenancy (.new (MemoryDevice.new .legacy))
        ⟨4, ∅, BindFlags.vertexBuffer, Access.gpu, 0⟩ (some ⟨#[1, 2, 3, 4]⟩) {} ms s ∧
      ms = [⟨.object ⟨1⟩, 1, 2⟩] ∧
      (s.buffer.mapCount = ms.length ∧
        (∀ base, s.buffer.mapBase = some base → ms ≠ [] ∧ s.Holds (.object base.handle)) ∧
        ∀ m ∈ ms, s.Holds m.storage ∧ ∀ c : Call,
          (c.Spares s.buffer m.storage → c.perform.Ends s fun _ t => s.Stays m.storage t) ∧
          (∀ a, m.storage = .object a → ¬ c.Spares s.buffer m.storage →
            c.perform.Ends s fun _ t => ¬ t.Holds m.storage)) := by
  have h₀ := Tenancy.first (.new (MemoryDevice.new .legacy))
    ⟨4, ∅, BindFlags.vertexBuffer, Access.gpu, 0⟩ (some ⟨#[1, 2, 3, 4]⟩) {} (.empty .error)
    (Option.some_get (by decide +kernel)).symm
  have h₁ := h₀.call (.map 1 2 (MapFlags.write ∪ MapFlags.noOverwrite)) (fun h => absurd rfl h)
    (.empty .error)
  have h₂ := h₁.call (.complete (.draw none)) (fun _ => by decide +kernel) (.empty .error)
  exact ⟨_, _, h₂, by decide +kernel, h₂.storage_stays⟩

/-- Where it is not spared, mapped storage goes: a draw gives up the shadow of a buffer that is mapped
    for writing, and a buffer that is asked to gives up its object while that is mapped. -/
theorem mapped_storage_lost :
    (∃ ms s, Tenancy (.new (MemoryDevice.new .legacy))
        ⟨4, ∅, BindFlags.vertexBuffer, Access.gpu, 0⟩ (some ⟨#[1, 2, 3, 4]⟩) {} ms s ∧
      ms = [⟨.shadow, 0, 4⟩] ∧
      ¬ (((Call.complete (.draw none)).perform s (.empty .error)).1.2).Holds .shadow) ∧
    (∃ ms s, Tenancy (.new (MemoryDevice.new .legacy))
        ⟨4, ∅, BindFlags.vertexBuffer, Access.gpu, 0⟩ (some ⟨#[1, 2, 3, 4]⟩) {} ms s ∧
      ms = [⟨.object ⟨1⟩, 0, 4⟩] ∧
      ¬ (((Call.complete .vacate).perform s (.empty .error)).1.2).Holds (.object ⟨1⟩)) := by
  have h₀ := Tenancy.first (.new (MemoryDevice.new .legacy))
    ⟨4, ∅, BindFlags.vertexBuffer, Access.gpu, 0⟩ (some ⟨#[1, 2, 3, 4]⟩) {} (.empty .error)
    (Option.some_get (by decide +kernel)).symm
  constructor
  · have h₁ := h₀.call (.map 0 4 MapFlags.write) (fun h => absurd rfl h) (.empty .error)
    exact ⟨_, _, h₁, by decide +kernel, by decide +kernel⟩
  · have h₁ := h₀.call (.map 0 4 (MapFlags.write ∪ MapFlags.noOverwrite)) (fun h => absurd rfl h)
      (.empty .error)
    exact ⟨_, _, h₁, by decide +kernel, by decide +kernel⟩

end BufferCoherence
