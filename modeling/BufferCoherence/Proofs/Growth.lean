import BufferCoherence.Proofs.Streams

/-!
# Requests that a ring could not serve

What a request that failed leaves of a ring, whatever was refused, objects or host memory, and
whatever happened to the ring before.

* A region is open for writing wherever the device mapped the object, noticed or not
  (`Site.OpenAt`), so that nothing is asked of the alignment; bytes written there are in the content
  of some copy, and no more is said of them;
* `RingSite.Course` is what may happen to a ring: requests, releases, uploads, bytes written to the
  region that is mapped, and operations on the buffer in between. While no region is mapped, the
  buffer rests (`RingSite.Course.stands`);
* `map_lends` tells a request that failed apart by whether the ring grew for it. If it did, the old
  buffer is gone (`failed_request_restores_iff`).
-/

namespace BufferCoherence

/-- Bytes written in place, wherever they go, leave the content as long as it is. -/
theorem MemoryDevice.rewrites_poke_somewhere {d : MemoryDevice} {h : ObjectHandle} {c : ByteArray}
    (hc : d.bytes? h = some c) (position : Nat) (data : ByteArray) :
    ∃ c', c'.size = c.size ∧ Rewrites h c' d (poke h position data d) := by
  obtain ⟨o, ho, -, hreq⟩ := bytes?_eq_some hc
  refine ⟨(o.write position data).bytes, (size_bytes _).trans hreq, ?_⟩
  unfold poke
  simp only [ho]
  exact ⟨⟨rfl, rfl, rfl, rfl⟩, by rw [bytes?_putObject, if_pos rfl],
    fun h' hne => by rw [bytes?_putObject, if_neg hne]⟩

namespace Site

variable {s y z : Site MemoryDevice} {c : ByteArray} {offset size : Nat} {m : Mapping}

/-! ## 1. Ranges that are open for writing -/

/-- What a mapping for writing points into, the content being `c`: the shadow, or the object at the
    position where the device mapped it. -/
inductive OpenAt (c : ByteArray) (offset size : Nat) (y : Site MemoryDevice) : Mapping → Prop where
  | shadow (settled : Settled y.buffer.isConverted c y.copies) (base : y.buffer.mapBase = none)
      (accepts : ShadowAccepts y.copies offset size) :
      OpenAt c offset size y ⟨.shadow, offset, size⟩
  | object (o : BufferObject) (position : Nat) (coherent : Coherent false c y.copies)
      (plain : y.buffer.isConverted = false) (object : y.buffer.object = some o)
      (base : y.buffer.mapBase = some ⟨o.handle, position⟩) (accepts : ObjectAccepts y.copies) :
      OpenAt c offset size y ⟨.object o.handle, position + offset, size⟩

theorem Opened.openAt (h : Opened c offset size true y m) : OpenAt c offset size y m := by
  cases h with
  | shadow settled _ base accepts => exact .shadow settled base (accepts rfl)
  | object o coherent plain object _ base accepts =>
    have hat : OpenAt c offset size y ⟨.object o.handle, 0 + offset, size⟩ :=
      .object o 0 coherent plain object base (accepts rfl)
    rwa [Nat.zero_add] at hat

namespace OpenAt

theorem mapping?_eq (h : OpenAt c offset size y m) : y.buffer.mapping? offset size = some m := by
  unfold Buffer.mapping?
  cases h with
  | shadow settled base accepts =>
    rw [base, show y.buffer.shadow = some c from settled.mirrored accepts.current]
    rfl
  | object o position _ _ _ base _ =>
    rw [base]

theorem size_eq (h : OpenAt c offset size y m) : m.size = size := by
  cases h with
  | shadow => rfl
  | object => rfl

theorem touched (h : OpenAt c offset size y m) : Touched c y := by
  cases h with
  | shadow settled base _ => exact .shadow settled base
  | object o position coherent plain _ base accepts =>
    exact .object coherent plain accepts.current (by rw [base]; rfl)

/-- Only the buffer and a view of its copies matter. -/
theorem of_copies (h : OpenAt c offset size y m) (hb : z.buffer = y.buffer)
    (hc : z.copies = y.copies) : OpenAt c offset size z m := by
  cases h with
  | shadow settled base accepts =>
    refine .shadow ?_ (by rw [hb]; exact base) (hc ▸ accepts)
    rw [hb, hc]
    exact settled
  | object o position coherent plain object base accepts =>
    exact .object o position (hc ▸ coherent) (by rw [hb]; exact plain) (by rw [hb]; exact object)
      (by rw [hb]; exact base) (hc ▸ accepts)

/-- Bytes written inside of the range leave it open, the content being another one. -/
theorem writeMapped_ends (h : OpenAt c offset size y m) (hfit : offset + size ≤ c.size)
    {start : Nat} {data : ByteArray} (hinside : start + data.size ≤ m.size) :
    (writeMapped ⟨m.storage, m.position + start, data.size⟩ data).Ends y fun _ z =>
      ∃ c', c'.size = c.size ∧ OpenAt c' offset size z m ∧
        z.buffer.mapCount = y.buffer.mapCount ∧ z.buffer.isConverted = y.buffer.isConverted ∧
        z.buffer.pinned = y.buffer.pinned ∧ z.buffer.settings = y.buffer.settings := by
  intro j
  unfold writeMapped
  cases h with
  | shadow settled base accepts =>
    simp only [wp_change, show y.buffer.shadow = some c from settled.mirrored accepts.current,
      Option.map_some]
    refine ⟨Bytes.splice c (offset + start) data, Bytes.size_splice _ _ _, .shadow ?_ base ?_,
      trivial, rfl, trivial, trivial⟩
    · have hco := accepts.writtenInPlace settled.toCoherent (Nat.le_add_right offset start)
        (by rw [Nat.add_assoc]; exact Nat.add_le_add_left hinside offset) (settled.size ▸ hfit)
      exact { hco with
        complete := settled.complete
        lacking := settled.lacking }
    · exact ⟨accepts.current, accepts.alone, accepts.written, accepts.lacked⟩
  | object o position coherent plain object base accepts =>
    obtain ⟨p, -, hp, -, hheld⟩ := currentObject_eq coherent accepts.current
    cases object.symm.trans hp
    have hbytes := hheld.symm.trans (coherent.current accepts.current (by simp))
    obtain ⟨c', hsize, hd⟩ := MemoryDevice.rewrites_poke_somewhere hbytes
      (position + offset + start) data
    simp only [Step.wp_modify]
    have hcopies := copies_rewrites object hd
    have hco := accepts.writtenInPlace coherent hsize
    rw [← hcopies] at hco
    exact ⟨c', hsize, .object o position hco plain object base
      ⟨accepts.current, accepts.alone, accepts.written⟩, trivial, trivial, trivial, trivial⟩

end OpenAt

/-- Whatever the alignment, a mapping for writing opens the range somewhere. -/
theorem opensAs_openAt (s : Site MemoryDevice) (offset size : Nat) {flags : MapFlags}
    (hwrite : flags.has MapFlags.write = true) :
    OpensAs (fun c => OpenAt c offset size) s offset size flags where
  shadow c y m h := by
    rw [hwrite] at h
    exact h.openAt
  object r c y hsettings hshifts hplain h hg hset hacc hkind hr hfit := by
    by_cases ha : Aligned y
    · refine (openMapping_ends ha hplain h hg hset hacc hkind hr hfit).mono fun a z hz => ?_
      obtain ⟨hok, hcount, hzplain, m, hm⟩ := hz
      rw [hwrite] at hm
      exact ⟨hok, hcount, hzplain, m, hm.openAt⟩
    · -- a shift that no alignment tells apart goes unnoticed
      obtain ⟨hshift, hsmall⟩ := Classical.not_imp.mp ha
      obtain ⟨o, -, hobj, hoff, hheld⟩ := currentObject_eq h hg
      have hbytes : y.machine.device.bytes? o.handle = some c := by
        rw [← hheld]
        exact h.current hg (by simp)
      intro j
      unfold openMapping
      simp only [Attempt.wp_bind, Attempt.wp_always, wp_current, hobj, hoff, wp_tryDevice]
      refine (MemoryDevice.openMapping_ends hbytes h.size.symm flags).wp fun a d j hpost => ?_
      obtain ⟨hok, hd⟩ := hpost
      rw [hok]
      have hone : max y.buffer.settings.resourceAlignment 1 = 1 := by omega
      simp only [hshift, if_true, Attempt.wp_ite, Attempt.wp_always, wp_change, beq_iff_eq]
      rw [hone, if_pos (Nat.mod_one 1)]
      let z : Site MemoryDevice :=
        { y with buffer := { y.buffer with mapBase := some ⟨o.handle, 1⟩ }, machine.device := d }
      have hz : z.copies = y.copies := copies_untouched (s := y) hd
      exact ⟨trivial, trivial, hplain, _, .object (y := z) o 1 (hz ▸ h) hplain hobj rfl
        (hz ▸ hacc hwrite)⟩
  handed c y m h := h.mapping?_eq

end Site

namespace RingSite

variable {s t u : RingSite MemoryDevice} {b : Buffer} {c : ByteArray} {region : RingRegion}
  {lent : Option RingRegion} {size stride : Nat} {j : Journal}

/-! ## 2. What a request leaves -/

/-- What is read back from the buffer of the ring. -/
def Reads (c : ByteArray) (s : RingSite MemoryDevice) : Prop :=
  ∃ b, s.ring.buffer = some b ∧ Site.Reads c ⟨b, s.machine⟩

/-- The same bytes are read back, or none. -/
def SameBytes (s t : RingSite MemoryDevice) : Prop := ∀ c, Reads c t ↔ Reads c s

/-- **A request grows the ring** where nothing is mapped, the buffer is too small for it, and a bigger
    one can be created. -/
structure Grows (s : RingSite MemoryDevice) (size : Nat) (j : Journal) : Prop where
  unmapped : s.ring.mapped = false
  small : s.ring.capacity < size
  granted : s.CanHave (s.ring.grownSize size) j

/-- **The region is mapped**, and it is open for writing wherever it is. -/
structure Lent (region : RingRegion) (s : RingSite MemoryDevice) : Prop where
  mapped : s.ring.mapped = true
  opened : ∃ b c, s.ring.buffer = some b ∧ b.settings = s.ring.settings ∧ b.mapCount = 1 ∧
    (b.isConverted = true → b.pinned = true) ∧ region.position + region.mapping.size ≤ c.size ∧
    Site.OpenAt c region.position region.mapping.size ⟨b, s.machine⟩ region.mapping

/-- A ring that stays where it is, with the same bytes to read. -/
structure Unmoved (c : ByteArray) (s t : RingSite MemoryDevice) : Prop where
  stays : s.ring.Stays t.ring
  mapped : t.ring.mapped = s.ring.mapped
  rests : Rests c t
  bytes : SameBytes s t

/-- The bytes of a buffer that rests are as readable as they were. -/
theorem Rests.sameBytes (h : Rests c s) (ht : Rests c t)
    (hnone : s.ring.buffer = none → t.ring.buffer = none)
    (hsome : ∀ b, s.ring.buffer = some b → ∃ b', t.ring.buffer = some b' ∧
      Site.SameReading ⟨b, s.machine⟩ ⟨b', t.machine⟩) : SameBytes s t := by
  intro d
  unfold Reads
  cases hb : s.ring.buffer with
  | none =>
    rw [hnone hb]
    exact ⟨fun ⟨_, hno, _⟩ => absurd hno nofun, fun ⟨_, hno, _⟩ => absurd hno nofun⟩
  | some b =>
    obtain ⟨b', hb', hsame⟩ := hsome b hb
    simp only [hb', Option.some.injEq, exists_eq_left']
    exact hsame.reads (h b hb).1 (ht b' hb').1

/-- A ring that fails to grow asks its device for nothing. -/
theorem enlarge_device (s : RingSite MemoryDevice) (n : Nat) : (enlarge n).Ends s fun r t =>
    (∃ f, r = .error f) → t.machine.device = s.machine.device := by
  intro j
  unfold enlarge
  simp only [Attempt.wp_bind, Attempt.wp_always, wp_current, Attempt.wp_note, wp_onMachine,
    wp_change]
  refine (Machine.create_bare _ _ _).wp fun r m k hr => ?_
  cases r with
  | error f => exact fun _ => hr.1
  | ok b =>
    refine Step.wp_any fun _ t l => ?_
    rintro ⟨f, hf⟩
    cases hf

/-- **A ring grows, and begins with zeroes**, or it stays as it is. -/
theorem enlarge_lends (h : Rests c s) (n : Nat) : (enlarge n).wp s j fun r t _ =>
    (r = .ok () ∧ s.CanHave n j ∧ t.ring.capacity = n ∧ t.ring.position = 0 ∧
      t.ring.mapped = s.ring.mapped ∧ Rests (Bytes.zeros n) t) ∨
    ((∃ f, r = .error f) ∧ ¬ s.CanHave n j ∧ Unmoved c s t) := by
  refine Attempt.Ends.wp_run ((enlarge_rests h n).and (enlarge_device s n))
    fun r t k hrun hboth => ?_
  obtain ⟨⟨-, -, hrests⟩, hdevice⟩ := hboth
  obtain ⟨-, -, hmapped, hends⟩ := (Attempt.wp_of_run hrun).mp (enlarge_ends (s := s) (j := j) n)
  rcases hends with ⟨rfl, hcan, hcapacity, hposition⟩ | ⟨⟨f, rfl⟩, hcannot, hring⟩
  · rcases hrests with ⟨-, -, hzeros⟩ | ⟨⟨f, hf⟩, -⟩
    · exact .inl ⟨rfl, hcan, hcapacity, hposition, hmapped, hzeros⟩
    · cases hf
  · rcases hrests with ⟨hf, -⟩ | ⟨-, ht, -⟩
    · cases hf
    · refine .inr ⟨⟨f, rfl⟩, hcannot, ?_, hmapped, ht, h.sameBytes ht (fun hb => ?_) fun b hb => ?_⟩
      · rw [hring]
        exact .refl _
      · rw [hring]
        exact hb
      · refine ⟨b, by rw [hring]; exact hb, .of_copies ?_ ?_⟩
        · unfold Site.copies Site.objectBytes?
          rw [hdevice ⟨f, rfl⟩]
        · rw [hdevice ⟨f, rfl⟩]

/-- **A region that the ring has room for is lent**, or the ring stays as it is. -/
theorem mapFitting_lends (h : Rests c s) (size stride : Nat) :
    (mapFitting size stride).Ends s fun r t =>
      (∃ region, r = .ok region ∧ region.mapping.size = size ∧ Lent region t) ∨
        ((∃ f, r = .error f) ∧ Unmoved c s t) := by
  intro j
  unfold mapFitting mapPlaced
  simp only [Attempt.wp_bind, Attempt.wp_always, wp_current, Attempt.wp_note, wp_change,
    Attempt.wp_pure, wp_onBuffer]
  cases hb : s.ring.buffer with
  | none =>
    exact .inr ⟨⟨_, rfl⟩, .refl _, rfl, h, fun _ => .rfl⟩
  | some b =>
    obtain ⟨hi, hset⟩ := h b hb
    let place := s.ring.place size stride
    have hwrite := place.2.has_write
    have hboth := (Site.map_obeys place.1 size (MapFlags.write ∪ place.2.flags) ⟨b, s.machine⟩).and
      (Site.map_opened hi (Site.opensAs_openAt ⟨b, s.machine⟩ place.1 size hwrite) fun _ => hwrite)
    refine (show Step.Ends (Site.map place.1 size _).outcome _ _ from hboth).wp fun r t k hr => ?_
    obtain ⟨hconducts, hcase⟩ := hr
    have hsettings := hconducts.buffer.settings.trans hset
    have hsize : t.buffer.size = b.size := congrArg Nature.size hconducts.buffer.nature
    rcases hcase with ⟨m, rfl, hfit, c', hc', -, hcount, hbacked, hm⟩ | ⟨⟨f, rfl⟩, hidle, hsame, -⟩
    · refine .inl ⟨⟨place.1, place.2, m⟩, rfl, hm.size_eq, rfl, t.buffer, c', rfl, hsettings, hcount,
        fun hc => (hbacked hc).2, ?_, ?_⟩
      · show place.1 + m.size ≤ c'.size
        rw [hm.size_eq, hc']
        exact hfit
      · show Site.OpenAt c' place.1 m.size t m
        rw [hm.size_eq]
        exact hm
    · have hrests : Rests c ⟨{ s.ring with buffer := some t.buffer }, t.machine⟩ := fun b' hb' => by
        cases hb'
        exact ⟨hidle, hsettings⟩
      refine .inr ⟨⟨f, rfl⟩, ⟨?_, rfl, rfl, ?_, rfl⟩, rfl, hrests,
        h.sameBytes hrests (fun hno => ?_) fun b' hb' => ?_⟩
      · rw [hb]
        exact congrArg (fun n => some n.id) hconducts.buffer.nature
      · unfold Ring.capacity
        rw [hb]
        exact hsize
      · cases hb.symm.trans hno
      · cases hb.symm.trans hb'
        exact ⟨t.buffer, rfl, hsame⟩

/-- **What a request comes to**, where the buffer rests while nothing is mapped: a region is lent; or
    the request is refused and nothing happens at all; or the ring stays as it is; or it grew, and has
    nothing but zeroes. -/
theorem map_lends (h : s.ring.mapped = false → Rests c s) (size stride : Nat) :
    (map size stride).wp s j fun r t _ =>
      (s.ring.mapped = false ∧ ∃ region, r = .ok region ∧ region.mapping.size = size ∧
        Lent region t) ∨
      ((∃ f, r = .error f) ∧ ((¬ s.Grows size j ∧ (t = s ∨ s.ring.mapped = false ∧ Unmoved c s t)) ∨
        (s.Grows size j ∧ t.ring.capacity = s.ring.grownSize size ∧ t.ring.position = 0 ∧
          t.ring.mapped = s.ring.mapped ∧ Rests (Bytes.zeros (s.ring.grownSize size)) t))) := by
  rw [map_eq]
  simp only [Attempt.wp_bind, Attempt.wp_always, wp_current, Attempt.wp_ite, Attempt.wp_refuse]
  split
  · rename_i hmapped
    exact .inr ⟨⟨_, rfl⟩, .inl ⟨fun hg => absurd (hg.unmapped.symm.trans hmapped)
      Bool.false_ne_true, .inl trivial⟩⟩
  · rename_i hmapped
    have hfree : s.ring.mapped = false := (Bool.not_eq_true _).mp hmapped
    have hrests := h hfree
    split
    · rename_i hempty
      subst hempty
      exact .inr ⟨⟨_, rfl⟩, .inl ⟨fun hg => absurd hg.small (Nat.not_lt_zero _), .inl trivial⟩⟩
    · split
      · rename_i hsmall
        refine (enlarge_lends hrests (s.ring.grownSize size)).mono fun r t k ht => ?_
        rcases ht with ⟨rfl, hcan, hcapacity, hposition, hkept, hzeros⟩ | ⟨⟨f, rfl⟩, hcannot, ht⟩
        · refine (mapFitting_lends hzeros size stride).wp fun r u l hu => ?_
          rcases hu with hlent | ⟨hf, hu⟩
          · exact .inl ⟨hfree, hlent⟩
          · exact .inr ⟨hf, .inr ⟨⟨hfree, hsmall, hcan⟩, hu.stays.capacity.trans hcapacity,
              hu.stays.position.trans hposition, hu.mapped.trans hkept, hu.rests⟩⟩
        · exact .inr ⟨⟨f, rfl⟩, .inl ⟨fun hg => absurd hg.granted hcannot, .inr ⟨hfree, ht⟩⟩⟩
      · rename_i hroom
        refine (mapFitting_lends hrests size stride).wp fun r t k ht => ?_
        rcases ht with hlent | ⟨hf, ht⟩
        · exact .inl ⟨hfree, hlent⟩
        · exact .inr ⟨hf, .inl ⟨fun hg => absurd hg.small hroom, .inr ⟨hfree, ht⟩⟩⟩

/-! ## 3. Courses -/

/-- Bytes written inside of the region leave it mapped. -/
theorem Lent.writeMapped_ends (h : Lent region s) {start : Nat} {data : ByteArray}
    (inside : start + data.size ≤ region.mapping.size) :
    (onBuffer (Site.writeMapped
      ⟨region.mapping.storage, region.mapping.position + start, data.size⟩ data)).Ends s
        fun _ t => Lent region t := by
  intro j
  obtain ⟨hmapped, b, c, hb, hset, hcount, hbacked, hfit, hopen⟩ := h
  rw [wp_onBuffer, hb]
  refine (hopen.writeMapped_ends hfit inside).wp fun _ t k ht => ?_
  obtain ⟨c', hsize, hopen', hcount', hconv, hpinned, hsettings⟩ := ht
  refine ⟨hmapped, t.buffer, c', rfl, hsettings.trans hset, hcount'.trans hcount, fun hc => ?_,
    by rw [hsize]; exact hfit, hopen'⟩
  rw [hpinned]
  exact hbacked (hconv ▸ hc)

/-- A region that is released leaves a buffer that rests. -/
theorem Lent.unmap_ends (h : Lent region s) :
    unmap.Ends s fun _ t => t.ring.mapped = false ∧ ∃ c, Rests c t := by
  intro j
  obtain ⟨hmapped, b, c, hb, hset, hcount, hbacked, -, hopen⟩ := h
  unfold unmap
  simp only [Step.wp_bind, wp_current, Step.wp_ite, Step.wp_note, wp_discard, wp_change, hmapped,
    Bool.not_true, Bool.false_eq_true, if_false, wp_onBuffer, hb]
  refine ((hopen.touched.unmap_ends hcount hbacked).and (Site.unmap_obeys _)).wp
    fun _ t k ht => ⟨trivial, c, fun b' hb' => ?_⟩
  cases hb'
  exact ⟨ht.1.1, ht.2.buffer.settings.trans hset⟩

/-- What is mapped is lent out; where nothing is, the buffer rests. -/
def Stands (s : RingSite MemoryDevice) : Option RingRegion → Prop
  | none => s.ring.mapped = false ∧ ∃ c, Rests c s
  | some region => Lent region s

theorem Stands.rests (h : s.Stands lent) : ∃ c, s.ring.mapped = false → Rests c s := by
  cases lent with
  | none =>
    obtain ⟨-, c, hc⟩ := h
    exact ⟨c, fun _ => hc⟩
  | some region => exact ⟨.empty, fun hfree => absurd (h.mapped.symm.trans hfree) nofun⟩

/-- A request leaves what is mapped, or lends out one region more where nothing was. -/
theorem Stands.map_ends (h : s.Stands lent) (size stride : Nat) : (map size stride).Ends s
    fun r t => t.Stands (r.toOption.or lent) ∧ ∀ region, r = .ok region →
      s.ring.mapped = false ∧ region.mapping.size = size := by
  intro j
  obtain ⟨c, hc⟩ := h.rests
  refine (map_lends hc size stride).mono fun r t k ht => ?_
  rcases ht with ⟨hfree, region, rfl, hsize, hlent⟩ | ⟨⟨f, rfl⟩, ht⟩
  · refine ⟨hlent, fun region' hr => ?_⟩
    cases hr
    exact ⟨hfree, hsize⟩
  · refine ⟨?_, nofun⟩
    -- what failed while a region was mapped was refused
    have hstands (hfree : s.ring.mapped = false) (hkept : t.ring.mapped = s.ring.mapped)
        {d : ByteArray} (hd : Rests d t) : t.Stands lent := by
      cases lent with
      | none => exact ⟨hkept.trans hfree, d, hd⟩
      | some region => exact absurd (h.mapped.symm.trans hfree) nofun
    rcases ht with ⟨-, rfl | ⟨hfree, ht⟩⟩ | ⟨hgrows, -, -, hkept, hzeros⟩
    · exact h
    · exact hstands hfree ht.mapped ht.rests
    · exact hstands hgrows.unmapped hkept hzeros

theorem Stands.unmap_ends (h : s.Stands lent) : unmap.Ends s fun _ t => t.Stands none := by
  cases lent with
  | some region => exact h.unmap_ends
  | none =>
    intro j
    unfold unmap
    simp only [Step.wp_bind, wp_current, Step.wp_ite, Step.wp_note, h.1, Bool.not_false, if_true]
    exact h

/-- An upload leaves mapped what was. -/
theorem Stands.append_ends (h : s.Stands lent) (data : ByteArray) (stride : Nat) :
    (append data stride).Ends s fun _ t => t.Stands lent := by
  intro j
  unfold append
  rw [Attempt.wp_bind]
  refine Attempt.Ends.wp_run (h.map_ends data.size stride) fun r t k hrun ht => ?_
  obtain ⟨ht, hlent⟩ := ht
  cases r with
  | error f => exact ht
  | ok region =>
    obtain ⟨hfree, hsize⟩ := hlent region rfl
    simp only [Attempt.wp_bind, wp_discard_always, Attempt.wp_always, Attempt.wp_pure]
    have hinside : 0 + data.size ≤ region.mapping.size := by omega
    refine (Lent.writeMapped_ends ht hinside).wp fun _ u l hu => hu.unmap_ends.wp fun _ v n hv => ?_
    cases lent with
    | none => exact hv
    | some region' => exact by cases h.mapped.symm.trans hfree

/-- What else happens on the machine leaves the buffer's object, and what is mapped. -/
theorem Stands.meanwhile (h : s.Stands lent) (other : s.Meanwhile t) : t.Stands lent := by
  cases lent with
  | none =>
    obtain ⟨hfree, c, hc⟩ := h
    exact ⟨by rw [other.ring]; exact hfree, c, other.rests hc⟩
  | some region =>
    obtain ⟨hmapped, b, c, hb, hset, hcount, hbacked, hfit, hopen⟩ := h
    have hmean := other.own b hb
    refine ⟨by rw [other.ring]; exact hmapped, b, c, by rw [other.ring]; exact hb,
      by rw [other.ring]; exact hset, hcount, hbacked, hfit, hopen.of_copies rfl hmean.copies⟩

/-- An operation on the buffer, while nothing is mapped. -/
theorem Stands.used (h : s.Stands none) {op : Operation}
    (allowed : ∀ b, s.ring.buffer = some b → op.Allowed ⟨b, s.machine⟩) :
    (onBuffer (Call.complete op).perform).Ends s fun _ t => t.Stands none := by
  intro j
  obtain ⟨hfree, c, hc⟩ := h
  rw [wp_onBuffer]
  cases hb : s.ring.buffer with
  | none => exact ⟨hfree, c, hc⟩
  | some b =>
    obtain ⟨hi, hset⟩ := hc b hb
    have hidle : op.perform.Ends ⟨b, s.machine⟩ fun _ t => ∃ d, Site.Idle d t :=
      (Site.perform_ends hi (allowed b hb)).mono fun r t ht => by
        rcases ht with ⟨a, d, -, -, -, hd⟩ | ⟨-, hd⟩
        · exact ⟨d, hd⟩
        · exact ⟨c, hd⟩
    have hoperated : (Call.complete op).perform.Ends ⟨b, s.machine⟩ fun _ t => ∃ d, Site.Idle d t :=
      Step.Ends.answering (P := fun t => ∃ d, Site.Idle d t) (.discarding hidle) none
    refine (hoperated.and ((Call.complete op).perform_outcome _)).wp fun _ t k ht => ?_
    obtain ⟨⟨d, hd⟩, houtcome⟩ := ht
    refine ⟨hfree, d, fun b' hb' => ?_⟩
    cases hb'
    exact ⟨hd, (congrArg Nature.settings (Call.nature_of_outcome houtcome)).trans hset⟩

/-- **What may happen to a ring**, with the region that is mapped. What else happens on the machine
    leaves the buffer's object alone, and is free otherwise: objects and memory may be refused at any
    time, and granted again. -/
inductive Course (bind : BindFlags) (settings : Settings) :
    Option RingRegion → RingSite MemoryDevice → Prop where
  | start (m : Machine MemoryDevice) : Course bind settings none ⟨.new bind settings, m⟩
  | meanwhile {lent : Option RingRegion} {s t : RingSite MemoryDevice}
      (h : Course bind settings lent s) (other : s.Meanwhile t) : Course bind settings lent t
  | mapped {lent : Option RingRegion} {s t : RingSite MemoryDevice}
      (h : Course bind settings lent s) (size stride : Nat) {r : Except Failure RingRegion}
      {j k : Journal} (run : (map size stride).run s j = ((r, t), k)) :
      Course bind settings (r.toOption.or lent) t
  | written {region : RingRegion} {s t : RingSite MemoryDevice}
      (h : Course bind settings (some region) s) (start : Nat) (data : ByteArray)
      (inside : start + data.size ≤ region.mapping.size) {a : Option Unit} {j k : Journal}
      (run : onBuffer (Site.writeMapped
        ⟨region.mapping.storage, region.mapping.position + start, data.size⟩ data) s j =
          ((a, t), k)) :
      Course bind settings (some region) t
  | unmapped {lent : Option RingRegion} {s t : RingSite MemoryDevice}
      (h : Course bind settings lent s) {j k : Journal} (run : unmap s j = (((), t), k)) :
      Course bind settings none t
  | appended {lent : Option RingRegion} {s t : RingSite MemoryDevice}
      (h : Course bind settings lent s) (data : ByteArray) (stride : Nat) {r : Except Failure Nat}
      {j k : Journal} (run : (append data stride).run s j = ((r, t), k)) :
      Course bind settings lent t
  | used {s t : RingSite MemoryDevice} (h : Course bind settings none s) (op : Operation)
      (allowed : ∀ b, s.ring.buffer = some b → op.Allowed ⟨b, s.machine⟩)
      {a : Option (Option Mapping)} {j k : Journal}
      (run : onBuffer (Call.complete op).perform s j = ((a, t), k)) : Course bind settings none t

/-- **Wherever a course leads, what is mapped is lent out, and else the buffer rests.** -/
theorem Course.stands {bind : BindFlags} {settings : Settings} (h : Course bind settings lent s) :
    s.Stands lent := by
  induction h with
  | start m =>
    refine ⟨rfl, .empty, fun b hb => ?_⟩
    cases hb
  | meanwhile _ other ih => exact ih.meanwhile other
  | mapped _ size stride run ih => exact ((ih.map_ends size stride).of_run run).1
  | written _ start data inside run ih => exact (Lent.writeMapped_ends ih inside).of_run run
  | unmapped _ run ih => exact ih.unmap_ends.of_run run
  | appended _ data stride run ih => exact (ih.append_ends data stride).of_run run
  | used _ op allowed run ih => exact (ih.used allowed).of_run run

/-! ## 4. Requests that fail -/

/-- **A request that fails leaves the ring as it was exactly where the ring did not grow for it**:
    its capacity, its cursor, whether it is mapped, and the bytes that are read back. Where the ring
    grew, the old buffer is gone. The ring has a bigger one, from the start of which it goes on, and
    which has zeroes to read if anything. -/
theorem failed_request_restores_iff {bind : BindFlags} {settings : Settings}
    (h : Course bind settings lent s) {f : Failure} {k : Journal}
    (failed : (map size stride).run s j = ((.error f, t), k)) :
    t.ring.mapped = s.ring.mapped ∧
      ((t.ring.capacity = s.ring.capacity ∧ t.ring.position = s.ring.position ∧ SameBytes s t) ↔
        ¬ s.Grows size j) ∧
      (s.Grows size j → t.ring.capacity = s.ring.grownSize size ∧ t.ring.position = 0 ∧
        ∀ c, t.Reads c → c = Bytes.zeros (s.ring.grownSize size)) := by
  obtain ⟨c, hc⟩ := h.stands.rests
  rcases (Attempt.wp_of_run failed).mp (map_lends hc size stride) with ⟨-, region, hr, -⟩ |
    ⟨-, ⟨hsteady, ht⟩ | ⟨hgrows, hcapacity, hposition, hmapped, hzeros⟩⟩
  · cases hr
  · have hsame : t.ring.mapped = s.ring.mapped ∧ t.ring.capacity = s.ring.capacity ∧
        t.ring.position = s.ring.position ∧ SameBytes s t := by
      rcases ht with rfl | ⟨-, ht⟩
      · exact ⟨rfl, rfl, rfl, fun _ => .rfl⟩
      · exact ⟨ht.mapped, ht.stays.capacity, ht.stays.position, ht.bytes⟩
    exact ⟨hsame.1, iff_of_true hsame.2 hsteady, fun hg => absurd hg hsteady⟩
  · have hlarger : s.ring.capacity < t.ring.capacity := by
      rw [hcapacity]
      exact Nat.lt_of_lt_of_le hgrows.small (s.ring.size_le_grownSize size)
    refine ⟨hmapped, iff_of_false (fun hkept => ?_) fun hno => hno hgrows,
      fun _ => ⟨hcapacity, hposition, fun d ⟨b, hb, hd⟩ => ?_⟩⟩
    · exact Nat.ne_of_gt hlarger hkept.1
    · exact ((hzeros b hb).1.reads_iff.mp hd).1

namespace Course

variable {bind : BindFlags} {settings : Settings}

/-- Bytes are uploaded next. -/
theorem append (h : Course bind settings lent s) (data : ByteArray) (stride : Nat) (j : Journal) :
    Course bind settings lent ((RingSite.append data stride).run s j).1.2 :=
  .appended h data stride rfl

/-- The buffer gives its object up next. -/
theorem vacate (h : Course bind settings none s) (aligned : s.Aligned) (j : Journal) :
    Course bind settings none (onBuffer (Call.complete .vacate).perform s j).1.2 := by
  obtain ⟨-, c, hc⟩ := h.stands
  exact .used h .vacate (fun b hb => ⟨aligned.buffer (hc b hb).2, nofun⟩) rfl

/-- Objects are refused from now on. -/
theorem refuse (h : Course bind settings lent s) :
    Course bind settings lent { s with machine.device.refusesObjects := true } :=
  .meanwhile h ⟨rfl, fun _ _ => ⟨rfl, fun _ _ => rfl⟩⟩

end Course

/-- A ring whose buffer lost its object, and is refused another one, keeps what was uploaded. -/
theorem failed_request_restores_vacated : ∃ (lent : Option RingRegion) (s t : RingSite MemoryDevice)
    (f : Failure) (j k : Journal), Course BindFlags.vertexBuffer { streamingMinSize := 8 } lent s ∧
    (map 2 1).run s j = ((.error f, t), k) ∧
    ((onBuffer Site.content.outcome s j).1.1.bind Except.toOption) =
      some ⟨#[1, 2, 3, 4, 0, 0, 0, 0]⟩ ∧
    t.ring.capacity = s.ring.capacity ∧ t.ring.position = s.ring.position ∧ SameBytes s t := by
  let empty : RingSite MemoryDevice :=
    ⟨.new BindFlags.vertexBuffer { streamingMinSize := 8 }, .new (MemoryDevice.new .modern)⟩
  let filled := ((RingSite.append ⟨#[1, 2, 3, 4]⟩ 1).run empty (.empty .error)).1.2
  let vacated := (onBuffer (Call.complete .vacate).perform filled (.empty .error)).1.2
  let s : RingSite MemoryDevice := { vacated with machine.device.refusesObjects := true }
  have hfilled : Course BindFlags.vertexBuffer { streamingMinSize := 8 } none filled :=
    Course.append (s := empty) (.start _) _ 1 _
  have h : Course BindFlags.vertexBuffer { streamingMinSize := 8 } none s :=
    Course.refuse (s := vacated) (hfilled.vacate (by decide +kernel) _)
  obtain ⟨f, t, k, failed⟩ := Attempt.eq_error (map 2 1) s (.empty .error) (by decide +kernel)
  exact ⟨none, s, t, f, .empty .error, k, h, failed, by decide +kernel,
    (failed_request_restores_iff h failed).2.1.mpr fun hg => absurd hg.small (by decide +kernel)⟩

/-- A ring with four bytes is asked for more than it has room for, and the device refuses the object
    of the bigger buffer: the four bytes are gone. -/
theorem failed_request_clears : ∃ (lent : Option RingRegion) (s t : RingSite MemoryDevice)
    (f : Failure) (j k : Journal), Course BindFlags.vertexBuffer { streamingMinSize := 8 } lent s ∧
    (map 16 1).run s j = ((.error f, t), k) ∧
    (s.ring.capacity = 8 ∧ s.ring.position = 4 ∧
      ((onBuffer Site.content.outcome s j).1.1.bind Except.toOption) =
        some ⟨#[1, 2, 3, 4, 0, 0, 0, 0]⟩) ∧
    t.ring.capacity = 16 ∧ t.ring.position = 0 ∧
      ((onBuffer Site.content.outcome t j).1.1.bind Except.toOption) = some (Bytes.zeros 16) := by
  let empty : RingSite MemoryDevice :=
    ⟨.new BindFlags.vertexBuffer { streamingMinSize := 8 }, .new (MemoryDevice.new .legacy)⟩
  let filled := ((RingSite.append ⟨#[1, 2, 3, 4]⟩ 1).run empty (.empty .error)).1.2
  let s : RingSite MemoryDevice := { filled with machine.device.refusesObjects := true }
  have h : Course BindFlags.vertexBuffer { streamingMinSize := 8 } none s :=
    Course.refuse (s := filled) (Course.append (s := empty) (.start _) _ 1 _)
  obtain ⟨f, failed⟩ := Attempt.eq_end_of_error (map 16 1) s (.empty .error) (by decide +kernel)
  exact ⟨none, s, _, f, .empty .error, _, h, failed, by decide +kernel, by decide +kernel⟩

end RingSite

end BufferCoherence
