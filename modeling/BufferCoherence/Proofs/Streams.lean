import BufferCoherence.Proofs.Regions

/-!
# What is streamed through a ring

What a client uploads is there for the draws that follow until the ring starts over, whatever
becomes of the buffer in between: its object may be refused, or lost to a mapping that is not aligned
or to draws that convert too often, and its vertices may be converted.

* `StreamRun` is a history of uploads and of operations that leave the content as it is, draws
  before all; it carries what was uploaded since the ring last started over;
* `RingSite.Rests` says of the buffer, if there is one, that no operation is at work on it. An
  upload writes one run of its content, and may change the rest only where the ring starts over
  (`RingSite.append_rests`);
* **`streamed_data_survives`**: everything uploaded since then is read back as it was.
-/

namespace BufferCoherence

variable {δ α β : Type}

/-! ## 1. Operations that leave the content -/

namespace Operation

/-- The operation leaves the content as it is. -/
def Keeps : Operation → Prop
  | read _ _ | content | refresh _ | keepShadow | draw _ | vacate | dropObject => True
  | write _ _ _ | store _ _ | move _ _ _ | upload _ _ _ => False

variable {op : Operation} {brought : Option ByteArray} {c d : ByteArray} {s : Site MemoryDevice}

theorem Keeps.turns (h : op.Keeps) (ht : op.Turns brought c d) : d = c := by
  cases op with
  | write => exact h.elim
  | store => exact h.elim
  | move => exact h.elim
  | upload => exact h.elim
  | _ => exact ht

theorem Keeps.perform_ends (h : op.Keeps) (hi : Site.Idle c s) (ha : s.Aligned) :
    (Call.complete op).perform.Ends s fun _ t => Site.Idle c t ∧ s.Conducts t := by
  have hnone (u : Upload) (offset size : Nat) : op ≠ .upload u offset size := by
    rintro rfl
    exact h
  have hidle : op.perform.Ends s fun _ t => Site.Idle c t :=
    (Site.perform_ends hi ⟨ha, fun u o n he => absurd he (hnone u o n)⟩).mono fun r t ht => by
      rcases ht with ⟨a, d, -, hturns, -, hd⟩ | ⟨-, hd⟩
      · rwa [h.turns hturns] at hd
      · exact hd
  have hconducts : (op.perform : Attempt (Site MemoryDevice) _).Obeys :=
    perform_obeys fun u o n he => absurd he (hnone u o n)
  have hboth : op.perform.outcome.Ends s fun _ t => Site.Idle c t ∧ s.Conducts t :=
    hidle.and (hconducts s)
  exact Step.Ends.answering (P := fun t => Site.Idle c t ∧ s.Conducts t) (.discarding hboth) none

end Operation

/-! ## 2. The buffers of a ring -/

section Buffers

variable [Device δ]

namespace Site

variable {s : Site δ}

/-- The device is not called, and the object stays. -/
def Alike (s t : Site δ) : Prop :=
  t.machine.device = s.machine.device ∧ t.buffer.object = s.buffer.object

omit [Device δ] in
theorem Alike.trans {t u : Site δ} (h : s.Alike t) (h' : t.Alike u) : s.Alike u :=
  ⟨h'.1.trans h.1, h'.2.trans h.2⟩

theorem reserveShadow_alike (s : Site δ) : reserveShadow.Ends s fun _ t => s.Alike t :=
  (reserveShadow_ends s).mono fun _ t ht => by
    rcases ht with ⟨-, -, rfl⟩ | ⟨-, -, rfl⟩ | ⟨-, -, rfl⟩
    · exact ⟨rfl, rfl⟩
    · exact ⟨rfl, rfl⟩
    · exact ⟨rfl, rfl⟩

theorem openStorage_alike (s : Site δ) (pin : Bool) :
    (openStorage pin).Ends s fun _ t => s.Alike t := by
  intro j
  unfold openStorage pinFresh
  simp only [Attempt.wp_bind, Attempt.wp_ite, Attempt.wp_always, Step.wp_bind, wp_current,
    Step.wp_note, wp_change, Attempt.wp_throw, Attempt.wp_note]
  split
  all_goals
    split
    · refine (reserveShadow_alike _).wp fun ready t k ht => ?_
      split
      · exact ht
      · exact ht
    · exact ⟨rfl, rfl⟩

omit [Device δ] in
theorem abandon_alike (s : Site δ) : abandon.Ends s fun _ t => s.Alike t := by
  intro j
  unfold abandon
  simp only [Step.wp_bind, wp_current]
  cases s.buffer.object with
  | none => exact ⟨rfl, rfl⟩
  | some o => exact ⟨rfl, rfl⟩

/-- A new buffer without data asks its device for nothing. -/
theorem openFresh_alike (s : Site δ) (pin : Bool) :
    (openFresh pin none).Ends s fun _ t => s.Alike t := by
  intro j
  unfold openFresh
  simp only [Attempt.wp_bind, Attempt.wp_always, Attempt.wp_outcome]
  refine (openStorage_alike s pin).wp fun r t k ht => ?_
  cases r with
  | error f =>
    simp only [Attempt.wp_bind, Attempt.wp_always, Attempt.wp_throw]
    exact (abandon_alike t).wp fun _ u _ hu => ht.trans hu
  | ok _ => exact ht

end Site

/-- A buffer created without data has no object yet, and its device was not called. -/
theorem Machine.create_bare (m : Machine δ) (request : BufferRequest) (settings : Settings) :
    (create request none settings).Ends m fun r m' =>
      m'.device = m.device ∧ ∀ b, r = .ok b → b.object = none := by
  refine create_opens (fun f => ⟨rfl, fun b hb => absurd hb (f.ne_ok b)⟩) fun _ _ _ _ _ =>
    (Site.openFresh_alike _ _).mono fun r t ht => ⟨ht.1, fun b hb => ?_⟩
  cases r with
  | error f => cases hb
  | ok _ =>
    cases hb
    exact ht.2

/-- A buffer has the settings it was created with. -/
theorem Machine.create_settings (m : Machine δ) (request : BufferRequest)
    (data : Option ByteArray) (settings : Settings) :
    (create request data settings).Ends m fun r _ => ∀ b, r = .ok b → b.settings = settings := by
  refine (create_conducts m request data settings).mono fun r m' hpost b hb => ?_
  rcases hpost with ⟨-, f, hf⟩ | ⟨backend, allowed, b', -, hsame, hconducts⟩
  · cases hf.symm.trans hb
  · cases hsame b hb
    exact hconducts.buffer.settings

end Buffers

namespace Site

variable {s : Site MemoryDevice}

/-- Mappings are shifted as they were. -/
def SameShift (s t : Site MemoryDevice) : Prop :=
  t.machine.device.shiftsMappings = s.machine.device.shiftsMappings

theorem dropMapping_shift (s : Site MemoryDevice) :
    dropMapping.Ends s fun _ t => s.SameShift t := by
  intro j
  unfold dropMapping
  simp only [Step.wp_bind, wp_current, wp_change]
  split
  · rw [wp_onDevice]
    exact (MemoryDevice.closeMapping_ends _ _ _).wp fun _ d k hd => hd.shiftsMappings
  · exact rfl

theorem freeObject_shift (s : Site MemoryDevice) : freeObject.Ends s fun _ t => s.SameShift t := by
  intro j
  unfold freeObject takeObject
  simp only [Step.wp_bind, Step.wp_get]
  cases s.buffer.object with
  | none => exact rfl
  | some o =>
    simp only [Step.wp_bind, Step.wp_set, Step.wp_pure, wp_onDevice]
    exact (MemoryDevice.freeObject_ends _ o.handle).wp fun _ d k hd => hd.1.shiftsMappings

theorem removeObject_shift (s : Site MemoryDevice) :
    removeObject.Ends s fun _ t => s.SameShift t := by
  intro j
  unfold removeObject
  simp only [Step.wp_bind, wp_current]
  cases s.buffer.backend with
  | noObject => exact rfl
  | legacy target =>
    cases s.buffer.object with
    | none => exact rfl
    | some o =>
      have hcapture : (endCaptureInto o.handle).Ends s fun _ t => s.SameShift t := by
        intro j
        unfold endCaptureInto
        simp only [Step.wp_bind, Step.wp_get, Step.wp_ite, Step.wp_note, wp_onDevice, Step.wp_pure]
        split
        · exact rfl
        · exact rfl
      simp only [Step.wp_bind]
      exact hcapture.wp fun _ t k ht => (freeObject_shift t).wp fun _ u l hu => hu.trans ht
  | modern tracker => exact freeObject_shift s j

theorem destroy_shift (s : Site MemoryDevice) : destroy.Ends s fun _ t => s.SameShift t := by
  intro j
  unfold destroy
  simp only [Step.wp_bind, wp_current, Step.wp_note]
  refine (dropMapping_shift s).wp fun _ t k ht => ?_
  refine (removeObject_shift t).wp fun _ u l hu => ?_
  refine (abandon_alike u).wp fun _ v _ hv => ?_
  exact (congrArg MemoryDevice.shiftsMappings hv.1).trans (hu.trans ht)

end Site

/-! ## 3. The content of a ring -/

/-- Every region may be written. -/
theorem WritePolicy.has_write (p : WritePolicy) :
    (MapFlags.write ∪ p.flags).has MapFlags.write = true := by
  cases p with
  | noOverwrite => decide
  | discard => decide

namespace RingSite

variable {s t u : RingSite MemoryDevice} {b : Buffer} {c c' : ByteArray} {m : Mapping}
  {position size stride : Nat} {j : Journal}

/-- Where the device shifts mappings, the alignment that the ring asks for tells them apart. -/
def Aligned (s : RingSite MemoryDevice) : Prop :=
  s.machine.device.shiftsMappings = true → 2 ≤ s.ring.settings.resourceAlignment

instance (s : RingSite MemoryDevice) : Decidable s.Aligned := inferInstanceAs (Decidable (_ → _))

theorem Aligned.buffer (ha : s.Aligned) (h : b.settings = s.ring.settings) :
    Site.Aligned ⟨b, s.machine⟩ := fun hs => by
  rw [h]
  exact ha hs

/-- **The buffer of the ring, if there is one, rests with content `c`**: no operation is at work on
    it. -/
def Rests (c : ByteArray) (s : RingSite MemoryDevice) : Prop :=
  ∀ b, s.ring.buffer = some b → Site.Idle c ⟨b, s.machine⟩ ∧ b.settings = s.ring.settings

/-- Something was written to the buffer of the ring. -/
def Written (s : RingSite MemoryDevice) : Prop :=
  ∃ b, s.ring.buffer = some b ∧ b.locations.has Location.cleared = false

theorem Written.stays {b' : Buffer} (hw : s.Written) (hb : s.ring.buffer = some b)
    (hb' : t.ring.buffer = some b') (h : b.Abides b') : t.Written := by
  obtain ⟨b₀, hb₀, hwritten⟩ := hw
  cases hb.symm.trans hb₀
  rw [← Bool.not_eq_true] at hwritten
  exact ⟨b', hb', (Bool.not_eq_true _).mp fun hc => hwritten (h.cleared hc)⟩

/-- The buffer `b` of the ring is open for writing at a position. -/
structure Opens (b : Buffer) (c : ByteArray) (position size : Nat) (m : Mapping)
    (s : RingSite MemoryDevice) : Prop where
  buffer : s.ring.buffer = some b
  settings : b.settings = s.ring.settings
  count : b.mapCount = 1
  backed : b.isConverted = true → b.pinned = true
  inside : position + size ≤ c.size
  opened : Site.Opened c position size true ⟨b, s.machine⟩ m

/-- A step on the buffer that leaves its content. -/
theorem onBuffer_rests {p : Step (Site MemoryDevice) α} (h : Rests c s) (ha : s.Aligned)
    (hp : ∀ b, Site.Idle c ⟨b, s.machine⟩ → Site.Aligned ⟨b, s.machine⟩ →
      p.Ends ⟨b, s.machine⟩ fun _ t => Site.Idle c t ∧ Site.Conducts ⟨b, s.machine⟩ t) :
    (onBuffer p).Ends s fun _ t => Rests c t ∧ (s.Written → t.Written) := by
  intro j
  rw [wp_onBuffer]
  cases hb : s.ring.buffer with
  | none => exact ⟨h, id⟩
  | some b =>
    obtain ⟨hi, hset⟩ := h b hb
    refine (hp b hi (ha.buffer hset)).wp fun _ t k ht =>
      ⟨fun b' hb' => ?_, fun hw => hw.stays hb rfl ht.2.buffer⟩
    cases hb'
    exact ⟨ht.1, ht.2.buffer.settings.trans hset⟩

/-! ## 4. An upload -/

theorem destroyBuffer_shift (s : RingSite MemoryDevice) : destroyBuffer.Ends s fun _ t =>
    t.ring.settings = s.ring.settings ∧
      t.machine.device.shiftsMappings = s.machine.device.shiftsMappings := by
  intro j
  unfold destroyBuffer
  simp only [Step.wp_bind, wp_discard, wp_change, wp_onBuffer]
  split
  · exact ⟨trivial, trivial⟩
  · exact (Site.destroy_shift _).wp fun _ t k ht => ⟨trivial, ht⟩

/-- A ring that grew has a buffer of zeroes. -/
theorem enlarge_rests (h : Rests c s) (n : Nat) : (enlarge n).Ends s fun r t =>
    t.ring.settings = s.ring.settings ∧
      t.machine.device.shiftsMappings = s.machine.device.shiftsMappings ∧
      ((r = .ok () ∧ t.ring.capacity = n ∧ Rests (Bytes.zeros n) t) ∨
        ((∃ f, r = .error f) ∧ Rests c t ∧ (s.Written → t.Written))) := by
  intro j
  unfold enlarge
  simp only [Attempt.wp_bind, Attempt.wp_always, wp_current, Attempt.wp_note, wp_onMachine,
    wp_change]
  refine (((Machine.create_ends _ _ _ _).and (Machine.create_bare _ _ _)).and
    (Machine.create_settings _ _ _ _)).wp fun r m k hpost => ?_
  obtain ⟨⟨hends, hdevice, hbare⟩, hsettings⟩ := hpost
  cases r with
  | error f =>
    refine ⟨trivial, by rw [hdevice], .inr ⟨⟨f, rfl⟩, fun b hb => ?_, id⟩⟩
    obtain ⟨hi, hset⟩ := h b hb
    exact ⟨Site.Meanwhile.idle (s := ⟨b, s.machine⟩) (t := ⟨b, m⟩)
      ⟨rfl, fun o _ => by rw [hdevice]⟩ hi, hset⟩
  | ok b =>
    obtain ⟨hi, hsize, -⟩ := hends b rfl
    refine (destroyBuffer_shift { s with machine := m }).wp fun _ t l ht => ?_
    refine ⟨ht.1, ?_, .inl ⟨trivial, hsize, fun b' hb' => ?_⟩⟩
    · rw [ht.2, hdevice]
    · -- the new buffer has no object yet, so that the end of the old one is no matter
      cases hb'
      have hlater : Site.Meanwhile ⟨b, m⟩ ⟨b, t.machine⟩ := by
        refine ⟨rfl, fun o ho => ?_⟩
        cases (hbare b rfl).symm.trans ho
      exact ⟨hlater.idle hi, (hsettings b rfl).trans ht.1.symm⟩

/-- A region mapped where it was placed: the buffer is open for it, with another content only where
    it is discarded. -/
theorem mapPlaced_rests (h : Rests c s) (ha : s.Aligned) (position size : Nat)
    (policy : WritePolicy) : (mapPlaced position size policy).Ends s fun r t =>
      (∃ m b c', r = .ok m ∧ (policy = .noOverwrite → c' = c) ∧ Opens b c' position size m t) ∨
        ((∃ f, r = .error f) ∧ Rests c t ∧ (s.Written → t.Written)) := by
  intro j
  unfold mapPlaced
  simp only [Attempt.wp_bind, Attempt.wp_always, wp_onBuffer]
  cases hb : s.ring.buffer with
  | none => exact .inr ⟨⟨_, rfl⟩, h, id⟩
  | some b =>
    obtain ⟨hi, hset⟩ := h b hb
    have hboth := (Site.map_obeys position size _ ⟨b, s.machine⟩).and
      (Site.map_ends hi (ha.buffer hset) fun _ => policy.has_write)
    refine (show Step.Ends (Site.map position size _).outcome _ _ from hboth).wp
      fun r t k hpost => ?_
    obtain ⟨hconducts, hcase⟩ := hpost
    have hsettings := hconducts.buffer.settings.trans hset
    rcases hcase with ⟨m, c', rfl, hfit, hsize, hkept, hcount, hbacked, hm⟩ | ⟨⟨f, rfl⟩, hidle, -⟩
    · refine .inl ⟨m, t.buffer, c', rfl, fun hp => ?_, rfl, hsettings, hcount,
        fun hc => (hbacked hc).2, hsize ▸ hfit, ?_⟩
      · rw [hp] at hkept
        exact hkept (by decide)
      · rw [policy.has_write] at hm
        exact hm
    · refine .inr ⟨⟨f, rfl⟩, fun b' hb' => ?_, fun hw => hw.stays hb rfl hconducts.buffer⟩
      cases hb'
      exact ⟨hidle, hsettings⟩

/-- The same for a region that the ring has room for. -/
theorem mapFitting_rests (h : Rests c s) (ha : s.Aligned) (size stride : Nat) :
    (mapFitting size stride).Ends s fun r t =>
      (∃ region b c', r = .ok region ∧ (region.policy = .noOverwrite → c' = c) ∧
        t.ring.mapped = true ∧ Opens b c' region.position size region.mapping t) ∨
      ((∃ f, r = .error f) ∧ Rests c t ∧ (s.Written → t.Written)) := by
  intro j
  unfold mapFitting
  simp only [Attempt.wp_bind, Attempt.wp_always, wp_current, Attempt.wp_note, wp_change,
    Attempt.wp_pure]
  refine (mapPlaced_rests h ha _ _ _).wp fun r t k hr => ?_
  rcases hr with ⟨m, b, c', rfl, hkept, hopens⟩ | ⟨⟨f, rfl⟩, ht⟩
  · exact .inl ⟨_, b, c', rfl, hkept, trivial, { hopens with }⟩
  · exact .inr ⟨⟨f, rfl⟩, ht⟩

/-- **What a request comes to for the content**: it may be another one only where the ring starts
    over. -/
theorem map_rests (h : Rests c s) (ha : s.Aligned) (size stride : Nat) :
    (map size stride).Ends s fun r t =>
      (∃ region b c', r = .ok region ∧ (¬ s.ring.capacity < t.ring.capacity →
        region.policy = .noOverwrite → c' = c) ∧ t.ring.mapped = true ∧
          Opens b c' region.position size region.mapping t) ∨
      ((∃ f, r = .error f) ∧ ∃ c', Rests c' t ∧ (¬ s.ring.capacity < t.ring.capacity →
        c' = c ∧ (s.Written → t.Written))) := by
  intro j
  rw [map_eq]
  simp only [Attempt.wp_bind, Attempt.wp_always, wp_current, Attempt.wp_ite, Attempt.wp_refuse]
  split
  · exact .inr ⟨⟨_, rfl⟩, c, h, fun _ => ⟨rfl, id⟩⟩
  · split
    · exact .inr ⟨⟨_, rfl⟩, c, h, fun _ => ⟨rfl, id⟩⟩
    · split
      · rename_i hsmall
        refine (enlarge_rests h (s.ring.grownSize size)).wp fun r t k ht => ?_
        obtain ⟨hsettings, hshift, ⟨rfl, hcapacity, ht⟩ | ⟨⟨f, rfl⟩, ht⟩⟩ := ht
        · have hat : t.Aligned := fun hs => by
            rw [hsettings]
            exact ha (hshift ▸ hs)
          refine ((mapFitting_rests ht hat size stride).and (mapFitting_ends size stride)).wp
            fun r u l hu => ?_
          have hgrown : s.ring.capacity < u.ring.capacity := by
            rw [hu.2.2.2.1, hcapacity]
            exact Nat.lt_of_lt_of_le hsmall (s.ring.size_le_grownSize size)
          rcases hu.1 with ⟨region, b, c', rfl, -, hmapped, hopens⟩ | ⟨hr, hrests, -⟩
          · exact .inl ⟨region, b, c', rfl, fun hg => absurd hgrown hg, hmapped, hopens⟩
          · exact .inr ⟨hr, _, hrests, fun hg => absurd hgrown hg⟩
        · exact .inr ⟨⟨f, rfl⟩, c, ht.1, fun _ => ⟨rfl, ht.2⟩⟩
      · refine (mapFitting_rests h ha size stride).wp fun r t k ht => ?_
        rcases ht with ⟨region, b, c', rfl, hkept, hmapped, hopens⟩ | ⟨hr, ht⟩
        · exact .inl ⟨region, b, c', rfl, fun _ => hkept, hmapped, hopens⟩
        · exact .inr ⟨hr, c, ht.1, fun _ => ⟨rfl, ht.2⟩⟩

/-- What is written to the open buffer, and the release of the region. -/
theorem Opens.release {data : ByteArray} (h : Opens b c position data.size m s)
    (hmapped : s.ring.mapped = true) (j : Journal) :
    (onBuffer (Site.writeMapped m data)).wp s j fun _ t k => unmap.wp t k fun _ u _ =>
      Rests (Bytes.splice c position data) u ∧ u.Written := by
  rw [wp_onBuffer, h.buffer]
  refine ((h.opened.writeMapped_ends h.inside).and (Site.writeMapped_obeys m data _)).wp
    fun _ t k ht => ?_
  obtain ⟨⟨htouched, hcount, hconv, hpinned⟩, hwrote⟩ := ht
  unfold unmap
  simp only [Step.wp_bind, wp_current, Step.wp_ite, Step.wp_note, wp_discard, wp_change, hmapped,
    Bool.not_true, Bool.false_eq_true, if_false, wp_onBuffer]
  refine ((htouched.unmap_ends (hcount.trans h.count) fun hc => ?_).and
    (Site.unmap_obeys t)).wp fun _ u l hu => ⟨fun b' hb' => ?_, ?_⟩
  · rw [hpinned]
    exact h.backed (hconv ▸ hc)
  · cases hb'
    exact ⟨hu.1.1, hu.2.buffer.settings.trans (hwrote.buffer.settings.trans h.settings)⟩
  · have hw : s.Written := ⟨b, h.buffer, h.opened.written⟩
    exact hw.stays h.buffer rfl (hwrote.trans hu.2).buffer

/-- **What an upload makes of the content `c`**, its request answered with `o`: one run is written,
    and the rest may be another one only where the ring starts over; `u` is the ring in between. -/
def Appended (data : ByteArray) (c : ByteArray) (o : Except Failure RingRegion)
    (s u t : RingSite MemoryDevice) : Prop :=
  match o with
  | .ok region => ∃ d, (¬ s.ring.capacity < u.ring.capacity → region.policy = .noOverwrite →
      d = c) ∧ region.position + data.size ≤ d.size ∧
        Rests (Bytes.splice d region.position data) t ∧ t.Written
  | .error _ => ∃ d, Rests d t ∧ (¬ s.ring.capacity < u.ring.capacity →
      d = c ∧ (s.Written → t.Written))

theorem append_rests (h : Rests c s) (ha : s.Aligned) (data : ByteArray) (stride : Nat)
    {o : Except Failure RingRegion} {k : Journal}
    (request : (map data.size stride).run s j = ((o, u), k)) :
    (append data stride).wp s j fun _ t _ => s.Appended data c o u t := by
  have hmap := (map_rests h ha data.size stride).of_run request
  unfold append
  rw [Attempt.wp_bind, Attempt.wp_of_run request]
  rcases hmap with ⟨region, b, d, rfl, hkept, hmapped, hopens⟩ | ⟨⟨f, rfl⟩, hrests⟩
  · simp only [Attempt.wp_bind, wp_discard_always, Attempt.wp_always, Attempt.wp_pure]
    exact (hopens.release hmapped k).mono fun _ t l ht => ht.mono fun _ v n hv =>
      ⟨d, hkept, hopens.inside, hv⟩
  · exact hrests

/-- Between two uploads: whatever happens, the content of the buffer's object stays. -/
structure Meanwhile (s t : RingSite MemoryDevice) : Prop where
  ring : t.ring = s.ring
  own : ∀ b, s.ring.buffer = some b → Site.Meanwhile ⟨b, s.machine⟩ ⟨b, t.machine⟩

theorem Meanwhile.rests (h : Meanwhile s t) (hr : Rests c s) : Rests c t := by
  intro b hb
  rw [h.ring] at hb ⊢
  obtain ⟨hi, hset⟩ := hr b hb
  exact ⟨(h.own b hb).idle hi, hset⟩

end RingSite

/-! ## 5. Histories -/

/-- Bytes that were uploaded, and the region they went to. -/
structure Streamed where
  region : RingRegion
  data : ByteArray

namespace Streamed

/-- The content has the bytes in their region. -/
def HeldIn (u : Streamed) (c : ByteArray) : Prop :=
  u.region.mapping.size = u.data.size ∧ c.extract u.region.position u.region.stop = u.data

/-- Bytes written to another region leave them. -/
theorem HeldIn.splice {u : Streamed} {c data : ByteArray} {position : Nat} (h : u.HeldIn c)
    (hfit : position + data.size ≤ c.size)
    (hapart : position + data.size ≤ u.region.position ∨ u.region.stop ≤ position) :
    u.HeldIn (Bytes.splice c position data) := by
  refine ⟨h.1, ?_⟩
  rw [Bytes.extract_splice_apart hfit hapart]
  exact h.2

end Streamed

/-- What a ring stands by does not depend on what is said about it. -/
theorem Ring.map_standing (old new : Ring) (f : α → β) (live : List α) :
    (old.standing new live).map f = old.standing new (live.map f) := by
  unfold standing
  split
  · rfl
  · rfl

theorem Ring.map_outstanding (old new : Ring) (f : α → β) (policy : β → WritePolicy)
    (outcome : Except Failure α) (live : List α) :
    (old.outstanding new (fun a => policy (f a)) outcome live).map f =
      old.outstanding new policy (outcome.map f) (live.map f) := by
  unfold outstanding
  cases outcome with
  | error e => exact old.map_standing new f live
  | ok a =>
    simp only [Except.map]
    split
    · rfl
    · rw [List.map_cons, old.map_standing new f live]

namespace RingSite

variable {kept : List Streamed} {s t u : RingSite MemoryDevice} {c : ByteArray}

/-- **The content of the ring has all that it stands by.** -/
structure Streams (kept : List Streamed) (c : ByteArray) (s : RingSite MemoryDevice) : Prop where
  rests : s.Rests c
  held : ∀ v ∈ kept, v.HeldIn c
  written : kept ≠ [] → s.Written

theorem Streams.meanwhile (h : s.Streams kept c) (other : s.Meanwhile t) : t.Streams kept c := by
  refine ⟨other.rests h.rests, h.held, fun hne => ?_⟩
  obtain ⟨b, hb, hw⟩ := h.written hne
  exact ⟨b, by rw [other.ring]; exact hb, hw⟩

/-- What was uploaded before stays, as long as the ring stands by it, and what is uploaded joins
    it. -/
theorem Streams.uploaded (h : s.Streams kept c) {data : ByteArray} {stride : Nat} {j : Journal}
    {o : Except Failure RingRegion}
    (hserves : s.Serves (kept.map (·.region)) data.size stride j o u.ring)
    (hstays : u.ring.Stays t.ring) (hcontent : s.Appended data c o u t) :
    ∃ d, t.Streams (s.ring.outstanding t.ring (·.region.policy) (o.map (⟨·, data⟩)) kept) d := by
  have hgrowth : s.ring.standing t.ring kept = s.ring.standing u.ring kept := by
    unfold Ring.standing
    rw [hstays.capacity]
  cases o with
  | error f =>
    obtain ⟨d, hrests, hkept⟩ := hcontent
    show ∃ d, t.Streams (s.ring.standing t.ring kept) d
    rw [hgrowth]
    by_cases hgrown : s.ring.capacity < u.ring.capacity
    · rw [Ring.standing, if_pos hgrown]
      exact ⟨d, hrests, fun v hv => absurd hv List.not_mem_nil, fun hne => absurd rfl hne⟩
    · rw [Ring.standing, if_neg hgrown]
      obtain ⟨rfl, hw⟩ := hkept hgrown
      exact ⟨d, hrests, h.held, fun hne => hw (h.written hne)⟩
  | ok region =>
    obtain ⟨d, hkept, hfit, hrests, hwritten⟩ := hcontent
    have hregion := hserves.handsOut region rfl
    have hstop : region.stop = region.position + data.size := by
      rw [RingRegion.stop, hregion.extent]
    have hnew : Streamed.HeldIn ⟨region, data⟩ (Bytes.splice d region.position data) :=
      ⟨hregion.extent, by rw [hstop]; exact Bytes.extract_splice hfit⟩
    refine ⟨_, hrests, fun v hv => ?_, fun _ => hwritten⟩
    replace hv : v ∈ if region.policy = .discard then [⟨region, data⟩]
      else ⟨region, data⟩ :: s.ring.standing t.ring kept := hv
    by_cases hpolicy : region.policy = .discard
    · rw [if_pos hpolicy, List.mem_singleton] at hv
      rw [hv]
      exact hnew
    · rw [if_neg hpolicy, hgrowth] at hv
      rcases List.mem_cons.mp hv with rfl | hv
      · exact hnew
      · -- the region went apart from those that the ring stands by
        have hpolicy := WritePolicy.eq_noOverwrite hpolicy
        have hapart := hregion.apart hpolicy v.region (by
          rw [← Ring.map_standing]
          exact List.mem_map_of_mem hv)
        obtain ⟨hsteady, hv⟩ := Ring.mem_standing.mp hv
        obtain rfl := hkept hsteady hpolicy
        refine (h.held v hv).splice hfit ?_
        rw [← hstop]
        exact hapart

end RingSite

/-- **A history of uploads** and of operations that leave the content, with what was uploaded since
    the ring last started over. What else happens on the machine leaves the buffer's object alone. -/
inductive StreamRun (bind : BindFlags) (settings : Settings) :
    List Streamed → RingSite MemoryDevice → Prop where
  | start (m : Machine MemoryDevice) : StreamRun bind settings [] ⟨.new bind settings, m⟩
  | meanwhile {kept : List Streamed} {s t : RingSite MemoryDevice}
      (h : StreamRun bind settings kept s) (other : s.Meanwhile t) : StreamRun bind settings kept t
  | uploaded {kept : List Streamed} {s t u : RingSite MemoryDevice}
      (h : StreamRun bind settings kept s) (aligned : s.Aligned) (data : ByteArray) (stride : Nat)
      {o : Except Failure RingRegion} {r : Except Failure Nat} {i j k : Journal}
      (request : (RingSite.map data.size stride).run s j = ((o, u), i))
      (run : (RingSite.append data stride).run s j = ((r, t), k)) :
      StreamRun bind settings
        (s.ring.outstanding t.ring (·.region.policy) (o.map (⟨·, data⟩)) kept) t
  | used {kept : List Streamed} {s t : RingSite MemoryDevice} (h : StreamRun bind settings kept s)
      (aligned : s.Aligned) (op : Operation) (keeps : op.Keeps) {a : Option (Option Mapping)}
      {j k : Journal} (run : RingSite.onBuffer (Call.complete op).perform s j = ((a, t), k)) :
      StreamRun bind settings kept t

namespace StreamRun

variable {bind : BindFlags} {settings : Settings} {kept : List Streamed}
  {s : RingSite MemoryDevice}

theorem ringRun (h : StreamRun bind settings kept s) :
    RingRun bind settings (kept.map (·.region)) s := by
  induction h with
  | start m => exact .start m
  | @meanwhile _ s t _ other ih =>
    obtain ⟨ring, machine⟩ := t
    cases other.ring
    exact ih.meanwhile machine
  | uploaded _ _ data stride request run ih =>
    rw [Ring.map_outstanding _ _ Streamed.region RingRegion.policy]
    have hregion (o : Except Failure RingRegion) :
        Except.map Streamed.region (o.map (⟨·, data⟩)) = o := by
      cases o <;> rfl
    rw [hregion]
    exact .uploaded ih data stride request run
  | used _ _ op _ run ih => exact .used ih (.complete op) run

/-- **Wherever a history stands, the content has what was uploaded since the ring started over.** -/
theorem streams (h : StreamRun bind settings kept s) : ∃ c, s.Streams kept c := by
  induction h with
  | start m =>
    refine ⟨.empty, fun b hb => ?_, fun v hv => ?_, fun hne => absurd rfl hne⟩
    · cases hb
    · cases hv
  | meanwhile _ other ih =>
    obtain ⟨c, hs⟩ := ih
    exact ⟨c, hs.meanwhile other⟩
  | uploaded h aligned data stride request run ih =>
    obtain ⟨c, hs⟩ := ih
    have hserves := (Attempt.wp_of_run request).mp (h.ringRun.tidy.1.map_serves data.size stride _)
    have hstays := (Attempt.wp_of_run run).mp (RingSite.append_after data stride request)
    have hcontent := (Attempt.wp_of_run run).mp
      (RingSite.append_rests hs.rests aligned data stride request)
    exact hs.uploaded hserves hstays.2 hcontent
  | used _ aligned op keeps run ih =>
    obtain ⟨c, hs⟩ := ih
    have hends := (RingSite.onBuffer_rests hs.rests aligned fun b hi ha =>
      keeps.perform_ends hi ha).of_run run
    exact ⟨c, hends.1, hs.held, fun hne => hends.2 (hs.written hne)⟩

/-- Bytes are uploaded next. -/
theorem upload (h : StreamRun bind settings kept s) (aligned : s.Aligned) (data : ByteArray)
    (stride : Nat) (j : Journal) : StreamRun bind settings
      (s.ring.outstanding ((RingSite.append data stride).run s j).1.2.ring (·.region.policy)
        (((RingSite.map data.size stride).run s j).1.1.map (⟨·, data⟩)) kept)
      ((RingSite.append data stride).run s j).1.2 := .uploaded h aligned data stride rfl rfl

/-- A draw reads the buffer next. -/
theorem draw (h : StreamRun bind settings kept s) (aligned : s.Aligned) (d : Option Draw)
    (j : Journal) : StreamRun bind settings kept
      (RingSite.onBuffer (Call.complete (.draw d)).perform s j).1.2 :=
  .used h aligned (.draw d) trivial rfl

/-- The device begins, or ends, to shift mappings. -/
theorem shift (h : StreamRun bind settings kept s) (shifts : Bool) : StreamRun bind settings kept
    { s with machine.device.shiftsMappings := shifts } :=
  .meanwhile h ⟨rfl, fun _ _ => ⟨rfl, fun _ _ => rfl⟩⟩

end StreamRun

/-- **Streamed data survives until the ring starts over**: what was uploaded since then is read back
    where its upload said that it begins, whatever draws came in between. -/
theorem streamed_data_survives {bind : BindFlags} {settings : Settings} {kept : List Streamed}
    {s : RingSite MemoryDevice} (h : StreamRun bind settings kept s) :
    (∀ v ∈ kept, ∀ j, ∃ c,
      (RingSite.onBuffer Site.content.outcome s j).1.1 = some (.ok c) ∧
        c.extract v.region.position (v.region.position + v.data.size) = v.data) ∧
    ∀ data stride j, (RingSite.append data stride).wp s j fun r _ _ =>
      r = ((RingSite.map data.size stride).run s j).1.1.map (·.position) := by
  obtain ⟨c, hs⟩ := h.streams
  refine ⟨fun v hv j => ⟨c, ?_, ?_⟩, fun data stride j => ?_⟩
  · obtain ⟨b, hb, hwritten⟩ := hs.written (List.ne_nil_of_mem hv)
    have hreads : Site.Reads c ⟨b, s.machine⟩ :=
      (hs.rests b hb).1.reads fun hc => absurd (hwritten.symm.trans hc) nofun
    have hrun : (RingSite.onBuffer Site.content.outcome).wp s j fun a _ _ => a = some (.ok c) := by
      rw [RingSite.wp_onBuffer, hb]
      exact congrArg some (hreads j)
    exact hrun
  · obtain ⟨hextent, hbytes⟩ := hs.held v hv
    rw [← hextent]
    exact hbytes
  · exact (RingSite.append_after data stride rfl).mono fun r t k hafter => hafter.1

/-- Two uploads into one buffer, the second while mappings are shifted, so that the object is lost;
    draws before and after. -/
theorem streamed_data_survives_misalignment :
    ∃ kept s, StreamRun BindFlags.vertexBuffer { streamingMinSize := 8 } kept s ∧
      kept.map (fun v => (v.region.position, v.data)) =
        [(4, ⟨#[4, 5]⟩), (0, ⟨#[1, 2, 3]⟩)] ∧
      s.ring.buffer.map (·.objectAllowed) = some false ∧
      ((∀ v ∈ kept, ∀ j, ∃ c,
        (RingSite.onBuffer Site.content.outcome s j).1.1 = some (.ok c) ∧
          c.extract v.region.position (v.region.position + v.data.size) = v.data) ∧
      ∀ data stride j, (RingSite.append data stride).wp s j fun r _ _ =>
        r = ((RingSite.map data.size stride).run s j).1.1.map (·.position)) := by
  have h₀ : StreamRun BindFlags.vertexBuffer { streamingMinSize := 8 } [] _ :=
    .start (.new (MemoryDevice.new .legacy))
  have h₁ := h₀.upload (by decide) ⟨#[1, 2, 3]⟩ 1 (.empty .error)
  have h₂ := h₁.draw (by decide +kernel) none (.empty .error)
  have h₃ := (h₂.shift true).upload (by decide +kernel) ⟨#[4, 5]⟩ 4 (.empty .error)
  have h₄ := h₃.draw (by decide +kernel) none (.empty .error)
  exact ⟨_, _, h₄, by decide +kernel, by decide +kernel, streamed_data_survives h₄⟩

end BufferCoherence
