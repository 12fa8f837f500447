import BufferCoherence.Proofs.Fleet
import BufferCoherence.Proofs.Stock
import BufferCoherence.Proofs.Unloading

/-!
# Uploads that name the buffer's own object

An upload object may be the object that the buffer has already. What a buffer is left with after it
was updated from an upload object, on the memory device, from any state:

* `Site.ObjectLive`, `Site.CopiesAgree`: its object is there, and two current copies hold the same
  bytes;
* an upload that is copied, or taken over, leaves one current copy (`copyRun_leaves_one`,
  `takeOver_leaves_one`), so that there is nothing left to agree;
* what is taken over replaces the object there was, which goes (`Renames.live`), also where the two
  are the same;
* `applyUpload_safe_iff`: only an upload that names the buffer's own object can do harm.
-/

namespace BufferCoherence

theorem MemoryDevice.Untouched.live {d d' : MemoryDevice} (h : d.Untouched d') (a : ObjectHandle) :
    Device.live d' a = Device.live d a := by
  have hbytes := congrArg Option.isSome (h.bytes a)
  unfold MemoryDevice.bytes? at hbytes
  rwa [Option.isSome_map, Option.isSome_map] at hbytes

namespace Site

variable {s t : Site MemoryDevice}

/-! ## 1. Safe buffers -/

/-- The object of the buffer, if it has one, is there. -/
def ObjectLive (s : Site MemoryDevice) : Prop :=
  ∀ o, s.buffer.object = some o → Device.live s.machine.device o.handle = true

/-- Where both copies are current and no vertices are converted, the object stores what the shadow
    holds. -/
def CopiesAgree (s : Site MemoryDevice) : Prop :=
  s.buffer.locations.has Location.sysmem = true →
    s.buffer.locations.has Location.gpuObject = true → s.buffer.isConverted = false →
      ∃ c o, s.buffer.shadow = some c ∧ s.buffer.object = some o ∧ Stores c s o

instance : Decidable s.ObjectLive :=
  decidable_of_iff (s.buffer.object.all fun o => Device.live s.machine.device o.handle) (by
    rw [Option.all_eq_true]
    rfl)

instance (c : ByteArray) (o : BufferObject) : Decidable (Stores c s o) :=
  decidable_of_iff ((s.machine.device.bytes? o.handle).any fun bytes =>
    decide (o.offset + s.buffer.size ≤ bytes.size ∧
      (bytes.extract o.offset (o.offset + s.buffer.size)).data = c.data)) (by
    simp only [Option.any_eq_true, decide_eq_true_eq, ← ByteArray.ext_iff]
    rfl)

instance : Decidable s.CopiesAgree :=
  decidable_of_iff (s.buffer.locations.has Location.sysmem = true →
    s.buffer.locations.has Location.gpuObject = true → s.buffer.isConverted = false →
      s.buffer.shadow.any fun c => s.buffer.object.any fun o => decide (Stores c s o)) (by
    simp only [Option.any_eq_true, decide_eq_true_eq, ← exists_and_left]
    rfl)

/-- A buffer that keeps its object, on a device that keeps them all. -/
theorem ObjectLive.kept (h : s.ObjectLive)
    (ho : t.buffer.object.map (·.handle) = s.buffer.object.map (·.handle))
    (hd : ∀ a, Device.live t.machine.device a = Device.live s.machine.device a) :
    t.ObjectLive := fun p hp => by
  rw [hp, Option.map_some] at ho
  obtain ⟨o, hs, hh⟩ := Option.map_eq_some_iff.mp ho.symm
  rw [hd, ← hh]
  exact h o hs

/-- Where one of the copies is stale, there is nothing to agree. -/
theorem copiesAgree_of_one (h : (s.buffer.locations.has Location.sysmem &&
    s.buffer.locations.has Location.gpuObject) = false) : s.CopiesAgree := fun hs hg _ => by
  rw [hs, hg] at h
  exact absurd h.symm Bool.false_ne_true

/-- What a device does without touching a content is no matter of the copies. -/
theorem copiesAgree_untouched {d : MemoryDevice} (h : s.machine.device.Untouched d) :
    CopiesAgree { s with machine.device := d } ↔ s.CopiesAgree := by
  have hstores (c : ByteArray) (o : BufferObject) :
      Stores c { s with machine.device := d } o ↔ Stores c s o := by
    have hstored (bytes : ByteArray) : d.bytes? o.handle = some bytes ↔
        s.machine.device.bytes? o.handle = some bytes := by rw [h.bytes]
    exact exists_congr fun bytes => and_congr_left fun _ => hstored bytes
  unfold CopiesAgree
  simp only [hstores]

/-! ## 2. One current copy -/

/-- Once all locations but one are stale, the shadow and the object are not both current. -/
theorem markStale_leaves_one (b : Buffer) {l : Location}
    (hl : l = Location.sysmem ∨ l = Location.gpuObject) (offset size : Nat) :
    ((b.markStale (Location.all \ l) offset size).locations.has Location.sysmem &&
      (b.markStale (Location.all \ l) offset size).locations.has Location.gpuObject) = false := by
  rcases hl with rfl | rfl
  · simp [Buffer.markStale]
  · simp [Buffer.markStale]

theorem Address.location_cases (a : Address) :
    a.location = Location.sysmem ∨ a.location = Location.gpuObject := by
  cases a with
  | shadow => exact .inl rfl
  | object h offset => exact .inr rfl

/-- **A run that was copied leaves the copy that it went to as the only current one.** -/
theorem copyRun_leaves_one (offset : Nat) (source : TransferSource) (size : Nat)
    (s : Site MemoryDevice) : (copyRun offset source size).Ends s fun r t => ∀ x, r = .ok x →
      (t.buffer.locations.has Location.sysmem &&
        t.buffer.locations.has Location.gpuObject) = false := by
  unfold copyRun
  refine Attempt.ends_bind_ok (fun _ _ => Attempt.ends_bind_ok (fun _ _ =>
    Attempt.ends_bind_ok (fun a _ => ?_) _) _) s
  -- where the bytes come from, and how they arrive, does not matter
  have hstale (y : Site MemoryDevice) :
      (always (declareStaleIn (Location.all \ a.location) offset size)).Ends y fun r t =>
        ∀ x, r = .ok x → (t.buffer.locations.has Location.sysmem &&
          t.buffer.locations.has Location.gpuObject) = false := by
    intro j
    rw [Attempt.wp_always, wp_declareStaleIn]
    exact fun _ _ => markStale_leaves_one y.buffer (Address.location_cases a) offset size
  cases a with
  | object handle base => exact Attempt.ends_bind_ok (fun _ => hstale) _
  | shadow => exact Attempt.ends_bind_ok (fun _ => hstale) _

/-- **An object that was taken over is the only current copy.** -/
theorem takeOver_leaves_one (a : Placement) (s : Site MemoryDevice) :
    (takeOver a).Ends s fun _ t => (t.buffer.locations.has Location.sysmem &&
      t.buffer.locations.has Location.gpuObject) = false := by
  intro j
  unfold takeOver
  simp only [Step.wp_bind, wp_declareCurrent, wp_declareStale]
  exact Step.wp_any fun _ t _ =>
    markStale_leaves_one _ (.inr rfl) 0 0

/-! ## 3. Which objects are there -/

/-- **To make a copy current leaves a buffer that has an object that object**, and the device its
    objects. -/
theorem Moves.same_objects (h : Moves MoveKind.loading s t) (ho : s.buffer.object.isSome = true) :
    t.buffer.object.map (·.handle) = s.buffer.object.map (·.handle) ∧
      ∀ a, Device.live t.machine.device a = Device.live s.machine.device a := by
  refine h.keeps (P := fun x => x.buffer.object.map (·.handle) = s.buffer.object.map (·.handle) ∧
    ∀ a, Device.live x.machine.device a = Device.live s.machine.device a)
    (fun k hk x y step hx => ?_) ⟨rfl, fun _ => rfl⟩
  cases step with
  | book hb => exact ⟨hb.object.trans hx.1, hx.2⟩
  | call hd => exact ⟨hx.1, fun a => (KeepsObjects.quiet hd a).trans (hx.2 a)⟩
  | made size bare hrun =>
    have hhad : s.buffer.object.map (·.handle) = none := by rw [← hx.1, bare, Option.map_none]
    rw [Option.map_eq_none_iff] at hhad
    rw [hhad] at ho
    cases ho
  | @refused request f d j k hrun =>
    rcases (MemoryDevice.makeObject_ends x.machine.device request).of_run hrun with
      ⟨hok, -⟩ | ⟨-, -, hd⟩
    · cases hok
    · rw [← hd] at hx
      exact ⟨hx.1, fun a => hd ▸ hx.2 a⟩
  | released => exact hx
  | _ => simp [MoveKind.loading] at hk

/-- **What takes the place of an object costs it**, whatever it is. -/
theorem Renames.live {a : ObjectHandle} (h : Renames a s t) (b : ObjectHandle) :
    Device.live t.machine.device b = if s.buffer.object.map (·.handle) = some b then false
      else Device.live s.machine.device b := by
  have hquiet {x y : Site MemoryDevice} (hxy : Moves MoveKind.inPlace x y) :
      Device.live y.machine.device b = Device.live x.machine.device b :=
    hxy.keeps (P := fun z => Device.live z.machine.device b = Device.live x.machine.device b)
      (fun k hk z w step hz => by
        cases step with
        | book => exact hz
        | call hd => exact (KeepsObjects.quiet hd b).trans hz
        | _ => simp [MoveKind.inPlace] at hk) rfl
  obtain ⟨u, v, hu, huv, ht⟩ := h
  rw [hquiet ht, ← hu.handle, ← hquiet hu]
  generalize hk : MoveKind.rename a = k at huv
  cases huv with
  | @replaced p o hp j =>
    simp only [hp, Option.map_some, Option.some.injEq, eq_comm (a := p.handle)]
    exact KeepsObjects.free p.handle b j
  | given bare => rw [bare, Option.map_none, if_neg (Option.some_ne_none b).symm]
  | _ => cases hk

/-- What takes the place of an object is there afterwards, unless it is that very object. -/
theorem Renames.objectLive_iff {a : ObjectHandle} (h : Renames a s t) {o : BufferObject}
    (ho : s.buffer.object = some o) (ha : Device.live s.machine.device a = true) :
    t.ObjectLive ↔ a ≠ o.handle := by
  obtain ⟨p, hp, rfl⟩ := Option.map_eq_some_iff.mp h.handle
  have hgone : Device.live t.machine.device p.handle = !decide (o.handle = p.handle) := by
    rw [h.live, ho, ha]
    simp
  unfold ObjectLive
  simp only [hp, Option.some.injEq, forall_eq', hgone, Bool.not_eq_true', decide_eq_false_iff_not]
  exact ne_comm

/-! ## 4. The three ways of an upload -/

section Ways

variable {u : Upload} {offset size : Nat} {r : Except Failure Unit} {j k : Journal}

/-- An upload that is the object already, and shall not become it, is at most unmapped. -/
theorem applyUpload_own (huses : s.buffer.usesObject u.placement.handle = true)
    (hkept : u.rename = false) (hrun : (applyUpload u offset size).run s j = ((r, t), k)) :
    ∃ d, s.machine.device.Untouched d ∧ t = { s with machine.device := d } := by
  refine Attempt.Ends.of_run (a := applyUpload u offset size)
    (P := fun _ t => ∃ d, s.machine.device.Untouched d ∧ t = { s with machine.device := d })
    (fun j => ?_) hrun
  have hself : ∃ d, s.machine.device.Untouched d ∧ s = { s with machine.device := d } :=
    ⟨_, .refl _, rfl⟩
  unfold applyUpload
  simp only [Attempt.wp_bind, wp_requireRun, Attempt.wp_ite, Attempt.wp_always, wp_current, hkept,
    huses, Bool.false_eq_true, if_true, if_false, Attempt.wp_pure, wp_onDevice]
  split
  · split
    · exact (MemoryDevice.closeMapping_ends s.machine.device _ _).wp fun _ d _ hd => ⟨d, hd, rfl⟩
    · exact hself
  · exact hself

/-- An upload that is copied leaves one current copy, and the objects as they are. -/
theorem applyUpload_copied (hother : s.buffer.usesObject u.placement.handle = false)
    (hcopied : u.rename = false)
    (hrun : (applyUpload u offset size).run s j = ((.ok (), t), k)) :
    Moves MoveKind.loading s t ∧ (t.buffer.locations.has Location.sysmem &&
      t.buffer.locations.has Location.gpuObject) = false := by
  refine Attempt.Ends.of_run (P := fun r t => r = .ok () → Moves MoveKind.loading s t ∧
    (t.buffer.locations.has Location.sysmem &&
      t.buffer.locations.has Location.gpuObject) = false) (fun j => ?_) hrun rfl
  unfold applyUpload
  simp only [Attempt.wp_bind, wp_requireRun, Attempt.wp_ite, Attempt.wp_always, wp_current, hcopied,
    hother, Bool.false_eq_true, if_false, Attempt.wp_pure]
  split
  · exact ((copyRun_within _ _ _ s).and (copyRun_leaves_one _ _ _ s)).wp
      fun r y _ hy hok => ⟨hy.1, hy.2 () hok⟩
  · exact fun hok => absurd hok (Failure.ne_ok _ _)

/-- An upload that is taken over leaves one current copy, and costs the object there was. -/
theorem applyUpload_taken (htaken : u.rename = true)
    (hrun : (applyUpload u offset size).run s j = ((.ok (), t), k)) :
    Renames u.placement.handle s t ∧ (t.buffer.locations.has Location.sysmem &&
      t.buffer.locations.has Location.gpuObject) = false := by
  refine Attempt.Ends.of_run (P := fun r t => r = .ok () → Renames u.placement.handle s t ∧
    (t.buffer.locations.has Location.sysmem &&
      t.buffer.locations.has Location.gpuObject) = false) (fun j => ?_) hrun rfl
  unfold applyUpload
  simp only [Attempt.wp_bind, wp_requireRun, Attempt.wp_ite, Attempt.wp_always, wp_current, htaken,
    if_true, Attempt.wp_pure, wp_onDevice]
  split
  · refine ((takeOver_renames _ s).and (takeOver_leaves_one _ s)).wp fun _ y l hy => ?_
    simp only [hy.1.usesObject, if_true]
    split
    · exact fun _ => ⟨hy.1.after (.one (.call (.closeMapping _ _ _)) MoveKind.call_inPlace), hy.2⟩
    · exact fun _ => hy
  · exact fun hok => absurd hok (Failure.ne_ok _ _)

end Ways

/-! ## 5. Every upload -/

/-- **Only an upload that names the buffer's own object can do harm.** A buffer with an object is
    updated from an upload object that is there: afterwards the object of the buffer is there and its
    current copies agree, unless the upload is the object already. That one is destroyed where it is
    to be taken over, and it is left beside the shadow there was where it is not, whatever was
    written to it. A buffer that keeps its object must of course have one that is there. -/
theorem applyUpload_safe_iff {u : Upload} {offset size : Nat} {o : BufferObject} {j k : Journal}
    (ho : s.buffer.object = some o) (hlive : Device.live s.machine.device u.placement.handle = true)
    (hrun : (applyUpload u offset size).run s j = ((.ok (), t), k)) :
    (t.ObjectLive ∧ t.CopiesAgree) ↔ (u.rename = true ∨ s.ObjectLive) ∧
      (u.placement.handle = o.handle → u.rename = false ∧ s.CopiesAgree) := by
  have huses : s.buffer.usesObject u.placement.handle = true ↔ u.placement.handle = o.handle := by
    unfold Buffer.usesObject
    rw [ho, Option.any_some, beq_iff_eq, eq_comm]
  cases hr : u.rename with
  | true =>
    obtain ⟨htaken, hone⟩ := applyUpload_taken hr hrun
    rw [htaken.objectLive_iff ho hlive]
    exact ⟨fun h => ⟨.inl rfl, fun heq => absurd heq h.1⟩,
      fun h => ⟨fun heq => Bool.noConfusion (h.2 heq).1, copiesAgree_of_one hone⟩⟩
  | false =>
    have hkept : (∀ a, Device.live t.machine.device a = Device.live s.machine.device a) →
        t.buffer.object.map (·.handle) = s.buffer.object.map (·.handle) →
        (t.ObjectLive ↔ s.ObjectLive) := fun hd hhandle =>
      ⟨fun h => h.kept hhandle.symm fun a => (hd a).symm, fun h => h.kept hhandle hd⟩
    by_cases heq : u.placement.handle = o.handle
    · -- nothing happens to any content
      obtain ⟨d, hd, rfl⟩ := applyUpload_own (huses.mpr heq) hr hrun
      rw [copiesAgree_untouched hd, hkept hd.live rfl]
      exact ⟨fun h => ⟨.inr h.1, fun _ => ⟨rfl, h.2⟩⟩,
        fun h => ⟨h.1.resolve_left Bool.false_ne_true, (h.2 heq).2⟩⟩
    · have hother : s.buffer.usesObject u.placement.handle = false :=
        Bool.eq_false_iff.mpr fun h => heq (huses.mp h)
      obtain ⟨hmoves, hone⟩ := applyUpload_copied hother hr hrun
      obtain ⟨hhandle, hd⟩ := hmoves.same_objects (by rw [ho]; rfl)
      rw [hkept hd hhandle]
      exact ⟨fun h => ⟨.inr h.1, fun h => absurd h heq⟩,
        fun h => ⟨h.1.resolve_left Bool.false_ne_true, copiesAgree_of_one hone⟩⟩

/-- Bytes are written to an object through a mapping on the device. -/
theorem reached_poked {caps : Capabilities} {f : Fleet} (h : f.Reached caps) (a : ObjectHandle)
    (position : Nat) (data : ByteArray) : Fleet.Reached caps { f with
      machine.device := Device.poke a position data f.machine.device } :=
  .next h (.elsewhere (MemoryDevice.sameStock_of_quiet (.poke a position data)) f.machine.users)

/-- A buffer whose object alone is current, with bytes written to the object in place, and an object
    that the client made. -/
theorem object_written_in_place : ∃ (f : Fleet) (b : Buffer) (o : BufferObject),
    f.Reached .legacy ∧ f.buffers = [b] ∧ b.object = some o ∧ o.handle = ⟨1⟩ ∧
    f.uploads = [⟨2⟩] ∧ b.locations = Location.gpuObject ∧
    (∀ a ∈ [1, 2], Device.live f.machine.device ⟨a⟩ = true) ∧
    ∀ u ∈ ([⟨⟨⟨1⟩, 0⟩, false, true⟩, ⟨⟨⟨2⟩, 0⟩, true, true⟩] : List Upload),
      ((applyUpload u 0 4).run ⟨b, f.machine⟩ (.empty .error)).1.1.toOption = some () := by
  have h₁ := (Fleet.Reached.start : Fleet.Reached .legacy _).create
    ⟨4, ∅, BindFlags.vertexBuffer, Access.gpu, 0⟩ (some ⟨#[1, 2, 3, 4]⟩) {} (.empty .error)
    (Option.some_get (by decide +kernel)).symm
  have h₂ := h₁.bring ⟨#[5, 6, 7, 8]⟩ (.empty .error) (Option.some_get (by decide +kernel)).symm
  have h₃ := reached_poked h₂ ⟨1⟩ 1 ⟨#[9, 9]⟩
  refine ⟨_, _, _, h₃, rfl, (Option.some_get (by decide +kernel)).symm, ?_, ?_, ?_, ?_, ?_⟩
  all_goals decide +kernel

/-- The buffer updated from its own object, and by taking over the other one. -/
theorem applyUpload_safe_written :
    ∃ (f : Fleet) (b : Buffer) (t u : Site MemoryDevice) (k l : Journal),
      f.Reached .legacy ∧ f.buffers = [b] ∧ b.object.map (·.handle) = some ⟨1⟩ ∧
      (applyUpload ⟨⟨⟨1⟩, 0⟩, false, true⟩ 0 4).run ⟨b, f.machine⟩ (.empty .error) =
        ((.ok (), t), k) ∧
      (t.ObjectLive ∧ t.CopiesAgree) ∧
      (applyUpload ⟨⟨⟨2⟩, 0⟩, true, true⟩ 0 4).run ⟨b, f.machine⟩ (.empty .error) =
        ((.ok (), u), l) ∧
      u.ObjectLive ∧ u.CopiesAgree := by
  obtain ⟨f, b, o, hf, hb, ho, hown, -, hl, hlive, hruns⟩ := object_written_in_place
  have hkept := Attempt.eq_end_of_ok _ _ _ (hruns ⟨⟨⟨1⟩, 0⟩, false, true⟩ (by decide))
  have htaken := Attempt.eq_end_of_ok _ _ _ (hruns ⟨⟨⟨2⟩, 0⟩, true, true⟩ (by decide))
  have hlive₁ := hlive 1 (by decide)
  refine ⟨f, b, _, _, _, _, hf, hb, by rw [ho, Option.map_some, hown], hkept, ?_, htaken, ?_⟩
  · refine (applyUpload_safe_iff ho hlive₁ hkept).mpr ⟨.inr fun p hp => ?_, fun _ => ⟨rfl, ?_⟩⟩
    · cases ho.symm.trans hp
      rw [hown]
      exact hlive₁
    · exact copiesAgree_of_one (by rw [hl]; rfl)
  · refine (applyUpload_safe_iff ho (hlive 2 (by decide)) htaken).mpr ⟨.inl rfl, fun heq => ?_⟩
    rw [hown] at heq
    exact absurd heq (by decide)

/-- **An upload may be the object of the buffer already, and then it does harm.** A buffer whose
    copies are both current has bytes written to its object through a mapping on the device. Updated
    from its object, it keeps a shadow that holds something else; updated by taking over its object,
    it is left with an object that is gone. -/
theorem own_object_is_no_upload :
    ∃ (f : Fleet) (b : Buffer) (t u : Site MemoryDevice) (k l : Journal),
      f.Reached .legacy ∧ f.buffers = [b] ∧ b.object.map (·.handle) = some ⟨1⟩ ∧
      Device.live f.machine.device ⟨1⟩ = true ∧
      (applyUpload ⟨⟨⟨1⟩, 0⟩, false, true⟩ 0 4).run ⟨b, f.machine⟩ (.empty .error) =
        ((.ok (), t), k) ∧ ¬ t.CopiesAgree ∧
      (applyUpload ⟨⟨⟨1⟩, 0⟩, true, false⟩ 0 4).run ⟨b, f.machine⟩ (.empty .error) =
        ((.ok (), u), l) ∧ ¬ u.ObjectLive := by
  have h₁ := (Fleet.Reached.start : Fleet.Reached .legacy _).create
    ⟨4, Usage.dynamic, BindFlags.vertexBuffer, Access.gpu, 0⟩ (some ⟨#[1, 2, 3, 4]⟩) {}
    (.empty .error) (Option.some_get (by decide +kernel)).symm
  have h₂ := h₁.call rfl (.complete (.refresh Location.sysmem)) [] (by decide +kernel)
    (.empty .error)
  have h₃ := reached_poked h₂ ⟨1⟩ 1 ⟨#[9, 9]⟩
  refine ⟨_, _, _, _, _, _, h₃, rfl, by decide +kernel, by decide +kernel,
    Attempt.eq_end_of_ok _ _ _ (v := ()) (by decide +kernel), ?_,
    Attempt.eq_end_of_ok _ _ _ (v := ()) (by decide +kernel), ?_⟩
  all_goals decide +kernel

end Site
end BufferCoherence
