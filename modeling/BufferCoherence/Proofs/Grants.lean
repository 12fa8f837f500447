import BufferCoherence.Proofs.Provisions
import BufferCoherence.Proofs.Regions

/-!
# What a ring grants

Which requests a ring grants while the calls of its device succeed, on any device at all.

* A ring that is too small asks for a buffer of the largest of three sizes, and a buffer for
  constants must be of an aligned size (`Ring.fault?`). Where the request is what decides, nothing
  aligns its size: such a request misfits (`Ring.Misfits`);
* `RingSite.InService` are the rings that requests, releases and uploads lead to, and
  `RingSite.Supplied` is what is true of all of them: the buffer is furnished, one range of it is
  mapped exactly where the ring says so, and a buffer for constants is of an aligned size;
* **`request_granted_iff`**: as long as no call of the device fails and host memory has room,
  exactly the requests that misfit are refused, and those leave the ring alone.
-/

namespace BufferCoherence

variable {δ : Type}

/-! ## 1. The size of a bigger buffer -/

theorem dvd_max {a m n : Nat} (hm : a ∣ m) (hn : a ∣ n) : a ∣ max m n := by
  rcases Nat.le_total m n with h | h
  · rwa [Nat.max_eq_right h]
  · rwa [Nat.max_eq_left h]

namespace Ring

variable {r : Ring} {n size : Nat}

/-- A buffer of `n` bytes for constants would be of a size that is not aligned. -/
def Unaligned (r : Ring) (n : Nat) : Prop :=
  r.bind.has BindFlags.constantBuffer = true ∧ ¬ max r.settings.constantBufferAlignment 1 ∣ n

instance (r : Ring) (n : Nat) : Decidable (r.Unaligned n) := inferInstanceAs (Decidable (_ ∧ _))

/-- **The request misfits**: it alone decides how large a bigger buffer would be, which is not
    aligned. -/
def Misfits (r : Ring) (size : Nat) : Prop :=
  max r.settings.streamingMinSize (r.capacity * 2) < size ∧ r.Unaligned size

instance (r : Ring) (size : Nat) : Decidable (r.Misfits size) :=
  inferInstanceAs (Decidable (_ ∧ _))

/-- The size of the buffer that a request is served from. -/
def serving (r : Ring) (size : Nat) : Nat :=
  if r.capacity < size then r.grownSize size else r.capacity

/-- What is wrong with the buffer that a request needs, if the ring has to ask for one. -/
def fault? (r : Ring) (size : Nat) : Option Failure :=
  if r.capacity < size then (r.bufferRequest (r.grownSize size)).fault? r.settings none else none

theorem buffer_of_capacity (h : 0 < r.capacity) : ∃ b, r.buffer = some b := by
  unfold capacity at h
  cases hb : r.buffer with
  | none =>
    rw [hb] at h
    exact absurd h (Nat.lt_irrefl 0)
  | some b => exact ⟨b, rfl⟩

/-- The larger one of what the ring would have anyway and the request. -/
theorem grownSize_eq (r : Ring) (size : Nat) :
    r.grownSize size = max (max r.settings.streamingMinSize (r.capacity * 2)) size :=
  (Nat.max_assoc _ _ _).symm

/-- A buffer that is not empty is refused for its size alone. -/
theorem fault?_bufferRequest (r : Ring) (hn : 0 < n) :
    (r.bufferRequest n).fault? r.settings none =
      if r.Unaligned n then some (.unalignedConstantSize n) else none := by
  have hsome : ¬ (r.bufferRequest n).size = 0 := Nat.pos_iff_ne_zero.mp hn
  unfold BufferRequest.fault? Unaligned
  simp only [hsome, if_false, Bool.and_eq_true, bne_iff_ne, Nat.dvd_iff_mod_eq_zero]
  rfl

/-- **Only a request that misfits makes the ring ask for what cannot be**, where the settings and
    the buffer that it has are aligned. -/
theorem fault?_eq (hsize : 0 < size)
    (hmin : max r.settings.constantBufferAlignment 1 ∣ r.settings.streamingMinSize)
    (hcapacity : ¬ r.Unaligned r.capacity) :
    r.fault? size = if r.Misfits size then some (.unalignedConstantSize size) else none := by
  have hask := r.fault?_bufferRequest (Nat.lt_of_lt_of_le hsize (r.size_le_grownSize size))
  rw [grownSize_eq] at hask
  unfold fault?
  rw [grownSize_eq]
  by_cases hdecides : max r.settings.streamingMinSize (r.capacity * 2) < size
  · have hsmall : r.capacity < size := by omega
    rw [if_pos hsmall, hask, Nat.max_eq_right (Nat.le_of_lt hdecides)]
    by_cases hunaligned : r.Unaligned size
    · rw [if_pos hunaligned, if_pos ⟨hdecides, hunaligned⟩]
    · rw [if_neg hunaligned, if_neg fun h => hunaligned h.2]
  · rw [if_neg fun h : r.Misfits size => hdecides h.1]
    split
    · -- what the ring would have anyway is aligned
      rw [hask, Nat.max_eq_left (Nat.le_of_not_lt hdecides)]
      refine if_neg fun ⟨hconstants, hunaligned⟩ => hunaligned (dvd_max hmin ?_)
      exact Nat.dvd_mul_right_of_dvd (Decidable.byContradiction fun h =>
        hcapacity ⟨hconstants, h⟩) 2
    · rfl

end Ring

/-! ## 2. What is true of a ring in service -/

namespace RingSite

variable [Device δ] [LendsFreely δ] {bind : BindFlags} {settings : Settings}
  {s t : RingSite (Monitored δ)} {size stride : Nat}

/-- **What is true of a ring in service**: whatever of its buffer counts as current has storage, one
    range of it is mapped exactly where the ring says so, and the size of a buffer for constants is
    aligned. -/
structure Supplied (bind : BindFlags) (settings : Settings) (s : RingSite (Monitored δ)) :
    Prop where
  bind : s.ring.bind = bind
  settings : s.ring.settings = settings
  lent : ∀ b, s.ring.buffer = some b → b.Lent s.ring.mapped
  aligned : ¬ s.ring.Unaligned s.ring.capacity

omit [Device δ] in
/-- A ring whose buffer is as large as it was. -/
theorem Supplied.kept (h : Supplied bind settings s) (hbind : t.ring.bind = s.ring.bind)
    (hsettings : t.ring.settings = s.ring.settings) (hcapacity : t.ring.capacity = s.ring.capacity)
    (hlent : ∀ b, t.ring.buffer = some b → b.Lent t.ring.mapped) : Supplied bind settings t := by
  refine ⟨hbind.trans h.bind, hsettings.trans h.settings, hlent, ?_⟩
  unfold Ring.Unaligned
  rw [hbind, hsettings, hcapacity]
  exact h.aligned

omit [LendsFreely δ] in
theorem destroyBuffer_ends (s : RingSite (Monitored δ)) :
    destroyBuffer.Ends s fun _ t => t.ring = { s.ring with buffer := none } := by
  intro j
  unfold destroyBuffer
  simp only [Step.wp_bind, wp_discard, wp_change, wp_onBuffer]
  split
  · trivial
  · exact Step.wp_any fun _ _ _ => trivial

/-- A ring grows, unless it asks for what cannot be or host memory has no room. -/
theorem enlarge_supplied (h : Supplied bind settings s) (hfree : s.ring.mapped = false) {n : Nat}
    (hn : 0 < n) : (enlarge n).Ends s fun r t => Supplied bind settings t ∧
      t.ring.mapped = false ∧ (r = .ok () → t.ring.capacity = n) ∧
      (∀ f, r = .error f → t.ring = s.ring) ∧
      (∀ f, (s.ring.bufferRequest n).fault? s.ring.settings none = some f → r = .error f) ∧
      (∀ f, r = .error f → (s.ring.bufferRequest n).fault? s.ring.settings none = none →
        Bytes.largestRun < n ∨ (Device.caps s.machine.device).accepts bind = false) := by
  have hbind : (s.ring.bufferRequest n).bind = bind := h.bind
  intro j
  unfold enlarge
  simp only [Attempt.wp_bind, Attempt.wp_always, wp_current, Attempt.wp_note, wp_onMachine,
    wp_change]
  refine (Machine.create_lent s.machine (s.ring.bufferRequest n) s.ring.settings
    (FlagSet.has_self Usage.dynamic)).wp fun r m k hr => ?_
  rw [hbind] at hr
  obtain ⟨hfault, hlent, hexcused⟩ := hr
  cases r with
  | error f =>
    exact ⟨⟨h.bind, h.settings, h.lent, h.aligned⟩, hfree, by rintro ⟨⟩, fun _ _ => trivial,
      fun g hg => by cases hfault g hg; rfl, fun g hg => hexcused f rfl⟩
  | ok b =>
    obtain ⟨hlent, hsize⟩ := hlent b rfl
    have hsound : (s.ring.bufferRequest n).fault? s.ring.settings none = none :=
      Option.eq_none_iff_forall_ne_some.mpr fun f hf => f.ne_ok b (hfault f hf).symm
    have haligned : ¬ s.ring.Unaligned n := fun hu => by
      rw [s.ring.fault?_bufferRequest hn, if_pos hu] at hsound
      cases hsound
    have hgrown (m : Machine (Monitored δ)) : Supplied bind settings
        ⟨{ s.ring with buffer := some b, position := 0 }, m⟩ := by
      refine ⟨h.bind, h.settings, fun b' hb' => ?_, ?_⟩
      · cases hb'
        rw [show Ring.mapped _ = false from hfree]
        exact hlent
      · rw [show Ring.capacity { s.ring with buffer := some b, position := 0 } = n from hsize]
        exact haligned
    rw [hsound]
    refine (destroyBuffer_ends _).wp fun _ t l ht => ?_
    rw [ht]
    exact ⟨hgrown _, hfree, fun _ => hsize, by rintro _ ⟨⟩, by rintro _ ⟨⟩, by rintro _ ⟨⟩⟩

theorem mapPlaced_accounted {b : Buffer} (hb : s.ring.buffer = some b) (h : b.Lent false)
    {position : Nat} (hfits : b.holds position size = true) (policy : WritePolicy) :
    (mapPlaced position size policy).Ends s fun r t =>
      (∀ b', t.ring.buffer = some b' → b'.Lent r.isOk) ∧
        ∀ f, r = .error f → t.machine.device.failed = true ∨ Bytes.largestRun < b.size := by
  intro j
  unfold mapPlaced
  simp only [Attempt.wp_bind, Attempt.wp_always, wp_onBuffer, hb]
  have hboth := (Site.map_accounted (s := ⟨b, s.machine⟩) h hfits).and
    (Site.map_obeys position size (MapFlags.write ∪ policy.flags) ⟨b, s.machine⟩)
  refine (show Step.Ends (Site.map position size _).outcome _ _ from hboth).wp fun r t k ht => ?_
  obtain ⟨⟨haccounted, hlent⟩, hobeys⟩ := ht
  have hsize : t.buffer.size = b.size := congrArg Nature.size hobeys.buffer.nature
  refine ⟨fun b' hb' => ?_, fun f hf => ?_⟩
  · cases hb'
    exact hlent
  · rw [← hsize]
    exact haccounted.excused f hf

/-- **A region that the ring has room for is mapped**, or there is a reason why not. -/
theorem mapFitting_supplied (h : Supplied bind settings s) (hfree : s.ring.mapped = false)
    (hsize : 0 < size) (hroom : size ≤ s.ring.capacity) (stride : Nat) :
    (mapFitting size stride).Ends s fun r t => Supplied bind settings t ∧ ∀ f, r = .error f →
      t.machine.device.failed = true ∨ Bytes.largestRun < s.ring.capacity := by
  obtain ⟨b, hb⟩ := Ring.buffer_of_capacity (Nat.lt_of_lt_of_le hsize hroom)
  have hcapacity : s.ring.capacity = b.size := by
    unfold Ring.capacity
    rw [hb]
    rfl
  have hfits : b.holds (s.ring.place size stride).1 size = true := by
    refine fits_iff.mpr (hcapacity ▸ ?_)
    rcases s.ring.place_cases size stride with ⟨hfits, hat⟩ | ⟨-, hat⟩
    · rw [hat]
      exact hfits
    · rw [hat, Nat.zero_add]
      exact hroom
  have hlent := h.lent b hb
  rw [hfree] at hlent
  intro j
  unfold mapFitting
  simp only [Attempt.wp_bind, Attempt.wp_always, wp_current, Attempt.wp_note, wp_change,
    Attempt.wp_pure]
  refine ((mapPlaced_accounted hb hlent hfits _).and (mapPlaced_ends _ _ _)).wp fun r t k ht => ?_
  obtain ⟨⟨hlent, hexcused⟩, hstays, hmapped, -⟩ := ht
  cases r with
  | ok m =>
    exact ⟨h.kept (t := ⟨_, t.machine⟩) hstays.bind hstays.settings hstays.capacity hlent,
      by rintro _ ⟨⟩⟩
  | error f =>
    refine ⟨h.kept hstays.bind hstays.settings hstays.capacity fun b' hb' => ?_, fun _ _ => ?_⟩
    · rw [hmapped, hfree]
      exact hlent b' hb'
    · rw [hcapacity]
      exact hexcused f rfl

/-- **What a request comes to**: the ring cannot grow, or the request fails for a reason only. -/
theorem map_supplied (h : Supplied bind settings s) (size stride : Nat) :
    (map size stride).Ends s fun r t => Supplied bind settings t ∧
      (s.ring.mapped = false → 0 < size →
        (∀ f, s.ring.fault? size = some f → r = .error f ∧ t.ring = s.ring) ∧
        (∀ f, r = .error f → s.ring.fault? size = none → t.machine.device.failed = true ∨
          Bytes.largestRun < s.ring.serving size ∨
            (Device.caps s.machine.device).accepts bind = false)) := by
  intro j
  rw [map_eq]
  simp only [Attempt.wp_bind, Attempt.wp_always, wp_current, Attempt.wp_ite, Attempt.wp_refuse]
  split
  · rename_i hmapped
    exact ⟨h, fun hfree => absurd (hfree.symm.trans hmapped) Bool.false_ne_true⟩
  · rename_i hmapped
    have hfree : s.ring.mapped = false := (Bool.not_eq_true _).mp hmapped
    split
    · rename_i hempty
      exact ⟨h, fun _ hsize => absurd (hempty ▸ hsize) (Nat.lt_irrefl 0)⟩
    · rename_i hsome
      have hsize := Nat.pos_of_ne_zero hsome
      unfold Ring.fault? Ring.serving
      split
      · rename_i hsmall
        have hgrown := s.ring.size_le_grownSize size
        refine (enlarge_supplied h hfree (Nat.lt_of_lt_of_le hsize hgrown)).wp fun r t k ht => ?_
        obtain ⟨ht, hfree', hcapacity, hkept, hfault, hexcused⟩ := ht
        cases r with
        | error f =>
          refine ⟨ht, fun _ _ => ⟨fun g hg => ?_, fun _ _ hg => .inr (hexcused f rfl hg)⟩⟩
          cases hfault g hg
          exact ⟨rfl, hkept f rfl⟩
        | ok _ =>
          have hroom := hcapacity rfl
          refine (mapFitting_supplied ht hfree' hsize (hroom ▸ hgrown) stride).wp fun r u l hu =>
            ⟨hu.1, fun _ _ => ⟨fun g hg => absurd (hfault g hg).symm (g.ne_ok _), fun f hf _ => ?_⟩⟩
          rw [← hroom]
          exact (hu.2 f hf).imp_right .inl
      · rename_i hroom
        have hfits := Nat.le_of_not_lt hroom
        exact (mapFitting_supplied h hfree hsize hfits stride).wp fun r t k ht =>
          ⟨ht.1, fun _ _ => ⟨by rintro _ ⟨⟩, fun f hf _ => (ht.2 f hf).imp_right .inl⟩⟩

omit [LendsFreely δ] in
theorem unmap_supplied (h : Supplied bind settings s) :
    unmap.Ends s fun _ t => Supplied bind settings t := by
  have hlent : unmap.Ends s fun _ t => ∀ b, t.ring.buffer = some b → b.Lent t.ring.mapped := by
    intro j
    unfold unmap
    simp only [Step.wp_bind, wp_current, Step.wp_ite, Step.wp_note, wp_discard, wp_change]
    split
    · exact h.lent
    · rename_i hmapped
      rw [Bool.not_eq_true', Bool.not_eq_false] at hmapped
      rw [wp_onBuffer]
      split
      · rename_i hnone
        exact fun b hb => by cases hnone.symm.trans hb
      · rename_i b hb
        have hlent := h.lent b hb
        rw [hmapped] at hlent
        refine (Site.unmap_lent (s := ⟨b, s.machine⟩) hlent).wp fun _ t k ht b' hb' => ?_
        cases hb'
        exact ht
  exact (unmap_stays.and hlent).mono fun _ t ht =>
    h.kept ht.1.bind ht.1.settings ht.1.capacity ht.2

omit [LendsFreely δ] in
theorem writeMapped_supplied (h : Supplied bind settings s) (m : Mapping) (data : ByteArray) :
    (onBuffer (Site.writeMapped m data)).Ends s fun _ t => Supplied bind settings t := by
  have hlent : (onBuffer (Site.writeMapped m data)).Ends s fun _ t =>
      ∀ b, t.ring.buffer = some b → b.Lent s.ring.mapped := by
    intro j
    rw [wp_onBuffer]
    split
    · exact h.lent
    · rename_i b hb
      refine (Site.writeMapped_lent (s := ⟨b, s.machine⟩) (h.lent b hb) m data).wp
        fun _ t k ht b' hb' => ?_
      cases hb'
      exact ht
  refine ((onBuffer_obeying (Site.writeMapped_obeys m data)).and hlent).mono
    fun _ t ⟨⟨hs, hmapped⟩, ht⟩ => h.kept hs.bind hs.settings hs.capacity ?_
  rw [hmapped]
  exact ht

theorem append_supplied (h : Supplied bind settings s) (data : ByteArray) (stride : Nat) :
    (append data stride).Ends s fun _ t => Supplied bind settings t := by
  intro j
  unfold append
  rw [Attempt.wp_bind]
  refine (map_supplied h data.size stride).wp fun r t k ht => ?_
  cases r with
  | error f => exact ht.1
  | ok region =>
    simp only [Attempt.wp_bind, wp_discard_always, Attempt.wp_always, Attempt.wp_pure]
    exact (writeMapped_supplied ht.1 region.mapping data).wp fun _ u l hu =>
      (unmap_supplied hu).wp fun _ v n hv => hv

/-! ## 3. Histories -/

/-- **The rings that requests, releases and uploads lead to**, and what is written to a region that
    is mapped. Anything may happen on the machine in between, and failures may be forgotten. -/
inductive InService (bind : BindFlags) (settings : Settings) : RingSite (Monitored δ) → Prop where
  | start (m : Machine (Monitored δ)) : InService bind settings ⟨.new bind settings, m⟩
  | meanwhile {s : RingSite (Monitored δ)} (h : InService bind settings s)
      (m : Machine (Monitored δ)) : InService bind settings { s with machine := m }
  | requested {s t : RingSite (Monitored δ)} (h : InService bind settings s) (size stride : Nat)
      {r : Except Failure RingRegion} {j k : Journal}
      (run : (map size stride).run s j = ((r, t), k)) : InService bind settings t
  | written {s t : RingSite (Monitored δ)} (h : InService bind settings s) (m : Mapping)
      (data : ByteArray) {a : Option Unit} {j k : Journal}
      (run : onBuffer (Site.writeMapped m data) s j = ((a, t), k)) : InService bind settings t
  | released {s t : RingSite (Monitored δ)} (h : InService bind settings s) {j k : Journal}
      (run : unmap s j = (((), t), k)) : InService bind settings t
  | uploaded {s t : RingSite (Monitored δ)} (h : InService bind settings s) (data : ByteArray)
      (stride : Nat) {r : Except Failure Nat} {j k : Journal}
      (run : (append data stride).run s j = ((r, t), k)) : InService bind settings t

/-- **Every ring in service is supplied.** -/
theorem InService.supplied (h : InService bind settings s) : Supplied bind settings s := by
  induction h with
  | start m =>
    have hempty : (Ring.new bind settings).capacity = 0 := rfl
    refine ⟨rfl, rfl, fun b hb => ?_, fun hu => hu.2 ?_⟩
    · cases hb
    · rw [hempty]
      exact Nat.dvd_zero _
  | meanwhile _ m ih => exact ⟨ih.bind, ih.settings, ih.lent, ih.aligned⟩
  | requested _ size stride run ih => exact ((map_supplied ih size stride).of_run run).1
  | written _ m data run ih => exact (writeMapped_supplied ih m data).of_run run
  | released _ run ih => exact (unmap_supplied ih).of_run run
  | uploaded _ data stride run ih => exact (append_supplied ih data stride).of_run run

/-- **A ring grants exactly the requests that do not misfit**, as long as no call of the device
    fails and host memory has room for the buffer; what misfits is refused, and leaves the ring
    alone. -/
theorem request_granted_iff {t : RingSite (Monitored δ)} {r : Except Failure RingRegion}
    {j k : Journal} (h : InService bind settings s) (hfree : s.ring.mapped = false)
    (hsize : 0 < size) (haccepts : (Device.caps s.machine.device).accepts bind = true)
    (hmin : max settings.constantBufferAlignment 1 ∣ settings.streamingMinSize)
    (run : (map size stride).run s j = ((r, t), k)) :
    (t.machine.device.failed = false → s.ring.serving size ≤ Bytes.largestRun →
      ((∃ region, r = .ok region) ↔ ¬ s.ring.Misfits size)) ∧
    (s.ring.Misfits size → r = .error (.unalignedConstantSize size) ∧ t.ring = s.ring) := by
  have hs := h.supplied
  rw [← hs.settings] at hmin
  have hfault := Ring.fault?_eq hsize hmin hs.aligned
  obtain ⟨hrefused, hexcused⟩ := ((map_supplied hs size stride).of_run run).2 hfree hsize
  have hmisfits (hm : s.ring.Misfits size) :
      r = .error (.unalignedConstantSize size) ∧ t.ring = s.ring :=
    hrefused _ (hfault.trans (if_pos hm))
  refine ⟨fun hhealthy hroom => ⟨fun ⟨region, hr⟩ hm => ?_, fun hm => ?_⟩, hmisfits⟩
  · exact Failure.ne_ok _ region ((hmisfits hm).1.symm.trans hr)
  · cases r with
    | ok region => exact ⟨region, rfl⟩
    | error f =>
      rcases hexcused f rfl (hfault.trans (if_neg hm)) with hfailed | hlarge | hrefused
      · exact absurd (hhealthy.symm.trans hfailed) Bool.false_ne_true
      · exact absurd hroom (Nat.not_le_of_lt hlarge)
      · exact absurd (hrefused.symm.trans haccepts) Bool.false_ne_true

omit [LendsFreely δ] in
/-- A region is asked for next. -/
theorem InService.request (h : InService bind settings s) (size stride : Nat) (j : Journal) :
    InService bind settings ((map size stride).run s j).1.2 := .requested h size stride rfl

omit [LendsFreely δ] in
/-- The mapped region is released next. -/
theorem InService.release (h : InService bind settings s) (j : Journal) :
    InService bind settings (unmap s j).1.2 := .released h rfl

/-- A ring of 32 bytes for constants grants 40 bytes, since it grows to 64, and refuses 72. -/
theorem request_granted_doubled : ∃ (s : RingSite (Monitored MemoryDevice)) (j : Journal),
    InService BindFlags.constantBuffer { streamingMinSize := 32 } s ∧ s.ring.capacity = 32 ∧
    (∃ region, ((map 40 0).run s j).1.1 = .ok region) ∧
    ((map 72 0).run s j).1.1 = .error (.unalignedConstantSize 72) ∧
      ((map 72 0).run s j).1.2.ring = s.ring := by
  let empty : RingSite (Monitored MemoryDevice) :=
    ⟨.new BindFlags.constantBuffer { streamingMinSize := 32 },
      .new ⟨MemoryDevice.new .legacy, false⟩⟩
  let mapped := ((map 20 0).run empty (.empty .error)).1.2
  let s := (unmap mapped (.empty .error)).1.2
  have h : InService BindFlags.constantBuffer { streamingMinSize := 32 } s :=
    InService.release (s := mapped) (InService.request (s := empty) (.start _) 20 0 _) _
  have hfree : s.ring.mapped = false := by decide +kernel
  have haccepts : (Device.caps s.machine.device).accepts BindFlags.constantBuffer = true := by
    decide +kernel
  have hrun (a : Attempt (RingSite (Monitored MemoryDevice)) RingRegion) (j : Journal) :
      a.run s j = (((a.run s j).1.1, (a.run s j).1.2), (a.run s j).2) := rfl
  have hgranted := request_granted_iff h hfree (by decide) haccepts (by decide)
    (hrun (map 40 0) (.empty .error))
  have hrefused := request_granted_iff h hfree (by decide) haccepts (by decide)
    (hrun (map 72 0) (.empty .error))
  exact ⟨s, .empty .error, h, by decide +kernel,
    (hgranted.1 (by decide +kernel) (by decide +kernel)).mpr (by decide +kernel),
    hrefused.2 (by decide +kernel)⟩

/-- **An empty ring for constants refuses 20 bytes**, although no call of the device failed. -/
theorem unaligned_request_refused : ∃ (s : RingSite (Monitored MemoryDevice)) (j : Journal),
    InService BindFlags.constantBuffer { streamingMinSize := 16 } s ∧ s.ring.mapped = false ∧
    (Device.caps s.machine.device).accepts BindFlags.constantBuffer = true ∧
    ((map 20 0).run s j).1.1 = .error (.unalignedConstantSize 20) ∧
      ((map 20 0).run s j).1.2.machine.device.failed = false := by
  let s : RingSite (Monitored MemoryDevice) :=
    ⟨.new BindFlags.constantBuffer { streamingMinSize := 16 },
      .new ⟨MemoryDevice.new .legacy, false⟩⟩
  exact ⟨s, .empty .error, .start _, by decide +kernel, by decide +kernel, by decide +kernel,
    by decide +kernel⟩

end RingSite

end BufferCoherence
