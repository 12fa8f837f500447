import BufferCoherence.Proofs.Conduct
import BufferCoherence.Proofs.Rings

/-!
# The regions of a ring

Which regions a ring has handed out since it last started over is known from the history alone
(`RingRun`): a region joins those before it, unless it throws the buffer away or the buffer is
replaced by a bigger one. A region that may be written without waiting must not touch any of them.

* `Ring.HandsOut` is what a region can be relied on for, and `RingSite.Serves` what a request comes
  to, also one that fails: a ring that fails to grow stays as it is, and one that grew but fails to
  map starts over at zero;
* the invariant is that the regions follow one another up to the cursor (`RingSite.Tidy`), so that
  the next one is apart from all of them wherever it begins after it;
* **`ring_regions_apart`** says it of every request at the end of any history, on any device.
-/

namespace BufferCoherence

variable {δ α : Type}

/-! ## 1. Places -/

theorem WritePolicy.eq_noOverwrite {p : WritePolicy} (h : p ≠ .discard) : p = .noOverwrite := by
  cases p with
  | noOverwrite => rfl
  | discard => exact absurd rfl h

namespace RingRegion

/-- Where the region ends. -/
def stop (r : RingRegion) : Nat := r.position + r.mapping.size

/-- No byte is in both regions. -/
def Apart (r r' : RingRegion) : Prop := r.stop ≤ r'.position ∨ r'.stop ≤ r.position

end RingRegion

namespace Ring

variable {r : Ring} {position stride size : Nat}

theorem le_alignUp (position stride : Nat) : position ≤ alignUp position stride :=
  Nat.le_add_right _ _

theorem dvd_alignUp (position stride : Nat) : max stride 1 ∣ alignUp position stride := by
  have hpos : 0 < max stride 1 := Nat.lt_of_lt_of_le Nat.one_pos (Nat.le_max_right ..)
  show max stride 1 ∣ position + (max stride 1 - position % max stride 1) % max stride 1
  generalize max stride 1 = a at hpos ⊢
  have hlt := Nat.mod_lt position hpos
  have hdiv := Nat.div_add_mod position a
  by_cases hzero : position % a = 0
  · rw [hzero, Nat.sub_zero, Nat.mod_self]
    exact Nat.dvd_of_mod_eq_zero hzero
  · rw [Nat.mod_eq_of_lt (Nat.sub_lt hpos (Nat.pos_of_ne_zero hzero))]
    refine ⟨position / a + 1, ?_⟩
    rw [Nat.mul_add, Nat.mul_one]
    omega

/-- A bigger buffer has room for what is asked for. -/
theorem size_le_grownSize (r : Ring) (size : Nat) : size ≤ r.grownSize size :=
  Nat.le_trans (Nat.le_max_right ..) (Nat.le_max_right ..)

/-- Nothing aligned lies between a position and the one aligned up. -/
theorem alignUp_le {q : Nat} (hq : position ≤ q) (hdvd : max stride 1 ∣ q) :
    alignUp position stride ≤ q := by
  have hpos : 0 < max stride 1 := Nat.lt_of_lt_of_le Nat.one_pos (Nat.le_max_right ..)
  have hpad : alignUp position stride < position + max stride 1 :=
    Nat.add_lt_add_left (Nat.mod_lt _ hpos) position
  obtain ⟨m, hm⟩ := dvd_alignUp position stride
  obtain ⟨n, rfl⟩ := hdvd
  rw [hm] at hpad ⊢
  refine Nat.mul_le_mul_left _ (Nat.lt_succ_iff.mp ?_)
  refine Nat.lt_of_mul_lt_mul_left (a := max stride 1) ?_
  rw [Nat.mul_succ]
  omega

theorem alignUp_zero (stride : Nat) : alignUp 0 stride = 0 :=
  Nat.le_zero.mp (alignUp_le (Nat.le_refl 0) (Nat.dvd_zero _))

/-- A region goes behind the cursor where it fits, and to the start of a discarded buffer where it
    does not. -/
theorem place_cases (r : Ring) (size stride : Nat) :
    (alignUp r.position stride + size ≤ r.capacity ∧
        r.place size stride = (alignUp r.position stride, .noOverwrite)) ∨
      (r.capacity < alignUp r.position stride + size ∧ r.place size stride = (0, .discard)) := by
  by_cases hfit : r.capacity < alignUp r.position stride + size
  · exact .inr ⟨hfit, if_pos hfit⟩
  · exact .inl ⟨Nat.le_of_not_lt hfit, if_neg hfit⟩

/-- At the start of a buffer everything fits. -/
theorem place_of_start (r : Ring) (h : r.position = 0) (hroom : size ≤ r.capacity) (stride : Nat) :
    r.place size stride = (0, .noOverwrite) := by
  have hfits : ¬ r.capacity < alignUp r.position stride + size := by
    rw [h, alignUp_zero, Nat.zero_add]
    exact Nat.not_lt_of_le hroom
  unfold place
  rw [if_neg hfits, h, alignUp_zero]

/-! ## 2. Requests -/

/-- What a ring still stands by of what it handed out: nothing, where it grew. -/
def standing (old new : Ring) (live : List α) : List α :=
  if old.capacity < new.capacity then [] else live

theorem mem_standing {old new : Ring} {live : List α} {a : α} :
    a ∈ old.standing new live ↔ ¬ old.capacity < new.capacity ∧ a ∈ live := by
  unfold standing
  by_cases hgrown : old.capacity < new.capacity
  · rw [if_pos hgrown]
    exact ⟨fun ha => absurd ha List.not_mem_nil, fun ha => absurd hgrown ha.1⟩
  · rw [if_neg hgrown]
    exact ⟨fun ha => ⟨hgrown, ha⟩, fun ha => ha.2⟩

/-- What was handed out since the ring last started over, after one more request; `policy` tells how
    each of it may be written. -/
def outstanding (old new : Ring) (policy : α → WritePolicy) (outcome : Except Failure α)
    (live : List α) : List α :=
  match outcome with
  | .error _ => old.standing new live
  | .ok a => if policy a = .discard then [a] else a :: old.standing new live

/-- The mapping is the one that the buffer of the ring has for a run of its bytes. -/
def Hands (r : Ring) (position size : Nat) (m : Mapping) : Prop :=
  ∃ b : Buffer, r.buffer.map (·.id) = some b.id ∧ b.size = r.capacity ∧
    b.mapping? position size = some m

/-- A mapping is as long as it was asked to be. -/
theorem Hands.extent {m : Mapping} (h : r.Hands position size m) : m.size = size := by
  obtain ⟨b, -, -, hm⟩ := h
  unfold Buffer.mapping? at hm
  split at hm
  · cases hm
    rfl
  · split at hm
    · cases hm
      rfl
    · cases hm

/-- **What a region can be relied on for**, for a request of `size` bytes with a stride, where the
    regions `live` were handed out before. -/
structure HandsOut (live : List RingRegion) (old new : Ring) (size stride : Nat)
    (region : RingRegion) : Prop where
  extent : region.mapping.size = size
  handed : new.Hands region.position size region.mapping
  inside : region.stop ≤ new.capacity
  aligned : max stride 1 ∣ region.position
  cursor : new.position = region.stop
  apart : region.policy = .noOverwrite → ∀ r ∈ old.standing new live, region.Apart r
  follows : region.policy = .noOverwrite → ¬ old.capacity < new.capacity →
    old.position ≤ region.position
  discards : region.policy = .discard → region.position = 0 ∧ new.capacity = old.capacity ∧
    ∀ q, old.position ≤ q → max stride 1 ∣ q → old.capacity < q + size

/-- The ring stays where it is. -/
structure Stays (old new : Ring) : Prop where
  buffer : new.buffer.map (·.id) = old.buffer.map (·.id)
  bind : new.bind = old.bind
  settings : new.settings = old.settings
  capacity : new.capacity = old.capacity
  position : new.position = old.position

theorem Stays.refl (r : Ring) : r.Stays r := ⟨rfl, rfl, rfl, rfl, rfl⟩

theorem Stays.trans {r r' r'' : Ring} (h : r.Stays r') (h' : r'.Stays r'') : r.Stays r'' :=
  ⟨h'.buffer.trans h.buffer, h'.bind.trans h.bind, h'.settings.trans h.settings,
    h'.capacity.trans h.capacity, h'.position.trans h.position⟩

theorem Stays.hands {old new : Ring} (h : old.Stays new) {m : Mapping}
    (hm : old.Hands position size m) : new.Hands position size m := by
  obtain ⟨b, hid, hsize, hb⟩ := hm
  exact ⟨b, h.buffer.trans hid, hsize.trans h.capacity.symm, hb⟩

theorem Stays.standing {old new : Ring} (h : old.Stays new) (live : List α) :
    old.standing new live = live :=
  if_neg (by rw [h.capacity]; exact Nat.lt_irrefl _)

end Ring

namespace RingSite

variable [Device δ] {s t u : RingSite δ} {live : List RingRegion} {size stride : Nat} {j : Journal}

/-- A buffer of `size` bytes can be created for the ring. -/
def CanHave (s : RingSite δ) (size : Nat) (j : Journal) : Prop :=
  ∃ b m k, (Machine.create (s.ring.bufferRequest size) none s.ring.settings).run s.machine
    (j.record (.ringGrows s.ring.capacity size)) = ((.ok b, m), k)

/-- **What a request comes to**: it is refused, or the ring grows exactly where it is too small and
    can have a bigger buffer, and what is handed out can be relied on. -/
structure Serves (s : RingSite δ) (live : List RingRegion) (size stride : Nat) (j : Journal)
    (outcome : Except Failure RingRegion) (new : Ring) : Prop where
  refused : s.ring.mapped = true ∨ size = 0 →
    (∃ f, outcome = .error f) ∧ s.ring.Stays new
  grows : s.ring.mapped = false → (s.ring.capacity < new.capacity ↔
    s.ring.capacity < size ∧ s.CanHave (s.ring.grownSize size) j)
  grown : s.ring.capacity < new.capacity →
    new.capacity = max s.ring.settings.streamingMinSize (max (s.ring.capacity * 2) size) ∧
    (∀ region, outcome = .ok region → region.position = 0) ∧
    ∀ f, outcome = .error f → new.position = 0
  failed : ∀ f, outcome = .error f → ¬ s.ring.capacity < new.capacity → s.ring.Stays new
  handsOut : ∀ region, outcome = .ok region → s.ring.HandsOut live new size stride region
  bind : new.bind = s.ring.bind
  settings : new.settings = s.ring.settings

/-- What the ring does afterwards in place has no part in it. -/
theorem Serves.after {o : Except Failure RingRegion} {new new' : Ring}
    (h : s.Serves live size stride j o new) (hn : new.Stays new') :
    s.Serves live size stride j o new' where
  refused hr := ⟨(h.refused hr).1, (h.refused hr).2.trans hn⟩
  grows hm := by rw [hn.capacity]; exact h.grows hm
  grown hg := by
    rw [hn.capacity] at hg ⊢
    rw [hn.position]
    exact h.grown hg
  failed f ho hg := (h.failed f ho (by rwa [hn.capacity] at hg)).trans hn
  handsOut region ho := by
    have hregion := h.handsOut region ho
    refine ⟨hregion.extent, hn.hands hregion.handed, ?_, hregion.aligned, ?_, fun hp => ?_,
      fun hp hg => ?_, fun hp => ?_⟩
    · rw [hn.capacity]
      exact hregion.inside
    · rw [hn.position]
      exact hregion.cursor
    · unfold Ring.standing
      rw [hn.capacity]
      exact hregion.apart hp
    · rw [hn.capacity] at hg
      exact hregion.follows hp hg
    · rw [hn.capacity]
      exact hregion.discards hp
  bind := hn.bind.trans h.bind
  settings := hn.settings.trans h.settings

/-! ## 3. Steps on the buffer -/

omit [Device δ] in
/-- A step on the buffer that leaves it as long as it is leaves the ring where it is. -/
theorem onBuffer_stays {p : Step (Site δ) α}
    (hp : ∀ b, s.ring.buffer = some b → p.Ends ⟨b, s.machine⟩ fun _ t =>
      t.buffer.id = b.id ∧ t.buffer.size = b.size) :
    (onBuffer p).Ends s fun _ t => s.ring.Stays t.ring ∧ t.ring.mapped = s.ring.mapped := by
  intro j
  rw [wp_onBuffer]
  split
  · exact ⟨.refl _, rfl⟩
  · rename_i b hb
    refine (hp b hb).wp fun _ t k ht => ⟨⟨?_, rfl, rfl, ?_, rfl⟩, rfl⟩
    · rw [hb]
      exact congrArg some ht.1
    · unfold Ring.capacity
      rw [hb]
      exact ht.2

/-- A step that conducts a buffer leaves it as long as it is. -/
theorem onBuffer_obeying {p : Step (Site δ) α} (hp : p.Obeys) :
    (onBuffer p).Ends s fun _ t => s.ring.Stays t.ring ∧ t.ring.mapped = s.ring.mapped :=
  onBuffer_stays fun _ _ => (hp _).mono fun _ _ ht =>
    ⟨congrArg Nature.id ht.buffer.nature, congrArg Nature.size ht.buffer.nature⟩

/-- A call on the buffer leaves it as long as it is. -/
theorem onBuffer_call (c : Call) :
    (onBuffer c.perform).Ends s fun _ t => s.ring.Stays t.ring ∧ t.ring.mapped = s.ring.mapped :=
  onBuffer_stays fun b _ => (c.perform_outcome ⟨b, s.machine⟩).mono fun _ _ ht =>
    ⟨congrArg Nature.id (Call.nature_of_outcome ht),
      congrArg Nature.size (Call.nature_of_outcome ht)⟩

theorem unmap_stays : unmap.Ends s fun _ t => s.ring.Stays t.ring := by
  intro j
  unfold unmap
  simp only [Step.wp_bind, wp_current, Step.wp_ite, Step.wp_note, wp_discard, wp_change]
  split
  · exact .refl _
  · exact (onBuffer_obeying Site.unmap_obeys).wp fun _ t _ ht =>
      ht.1.trans ⟨rfl, rfl, rfl, rfl, rfl⟩

end RingSite

namespace Site

variable {s : Site δ} {offset size : Nat}

theorem handOut_hands (s : Site δ) : (handOut offset size).Ends s fun r t =>
    ∀ m, r = .ok m → t.buffer.mapping? offset size = some m := by
  cases hm : s.buffer.mapping? offset size with
  | none =>
    refine (handOut_none hm).mono fun r _ hr m hrm => ?_
    obtain ⟨f, rfl⟩ := hr.1
    cases hrm
  | some m =>
    refine (handOut_some hm).mono fun r t ⟨hr, ht⟩ m' hrm => ?_
    cases hr.symm.trans hrm
    rw [ht]
    exact hm

variable [Device δ]

theorem mapPrepared_hands (s : Site δ) (flags : MapFlags) :
    (mapPrepared offset size flags).Ends s fun r t =>
      ∀ m, r = .ok m → t.buffer.mapping? offset size = some m := by
  have hafter (a : Attempt (Site δ) Unit) (t : Site δ) :
      (a >>= fun _ => handOut offset size).Ends t fun r u =>
        ∀ m, r = .ok m → u.buffer.mapping? offset size = some m := by
    intro j
    rw [Attempt.wp_bind]
    refine Attempt.wp_any fun r u k => ?_
    cases r with
    | error f => exact fun _ h => absurd h (Failure.ne_ok _ _)
    | ok _ => exact handOut_hands u k
  intro j
  rw [mapPrepared_eq, Attempt.wp_bind, Attempt.wp_always, wp_current]
  show Attempt.wp (if _ then _ >>= fun _ => handOut offset size
    else _ >>= fun _ => handOut offset size) s j _
  rw [Attempt.wp_ite]
  split
  · exact hafter _ s j
  · exact hafter _ s j

/-- A mapping is the one that the buffer has for the run that was asked for. -/
theorem map_hands (s : Site δ) (flags : MapFlags) : (map offset size flags).Ends s fun r t =>
    ∀ m, r = .ok m → t.buffer.mapping? offset size = some m := by
  intro j
  unfold map
  simp only [Attempt.wp_bind, Attempt.wp_always, wp_current, Attempt.wp_ite, Attempt.wp_refuse,
    wp_change, Attempt.wp_outcome]
  split
  · exact fun _ h => absurd h (Failure.ne_ok _ _)
  · refine (mapPrepared_hands _ flags).wp fun r t k hr => ?_
    cases r with
    | error f => exact fun _ h => absurd h (Failure.ne_ok _ _)
    | ok m => exact hr

end Site

namespace RingSite

variable [Device δ] {s t u : RingSite δ} {live : List RingRegion} {size stride : Nat} {j : Journal}

/-! ## 4. Steps of a request -/

/-- A ring grows where a bigger buffer can be created, and stays as it is where none can. -/
theorem enlarge_ends (n : Nat) : (enlarge n).wp s j fun r t _ =>
    t.ring.bind = s.ring.bind ∧ t.ring.settings = s.ring.settings ∧
      t.ring.mapped = s.ring.mapped ∧
      ((r = .ok () ∧ s.CanHave n j ∧ t.ring.capacity = n ∧ t.ring.position = 0) ∨
        ((∃ f, r = .error f) ∧ ¬ s.CanHave n j ∧ t.ring = s.ring)) := by
  unfold enlarge
  simp only [Attempt.wp_bind, Attempt.wp_always, wp_current, Attempt.wp_note, wp_onMachine,
    wp_change]
  refine (Machine.create_conducts _ _ _ _).wp_run fun r m k hrun hpost => ?_
  cases r with
  | error f =>
    refine ⟨trivial, trivial, trivial, .inr ⟨⟨f, rfl⟩, ?_, trivial⟩⟩
    rintro ⟨b, m', k', hcan⟩
    rw [hrun] at hcan
    cases hcan
  | ok b =>
    have hsize : b.size = n := by
      rcases hpost with ⟨-, f, hf⟩ | ⟨backend, allowed, b', -, hsame, hconducts⟩
      · cases hf
      · obtain rfl := hsame b rfl
        exact (congrArg Nature.size hconducts.buffer.nature).trans (Machine.size_granted _ _)
    unfold destroyBuffer
    simp only [Step.wp_bind, wp_discard, wp_change]
    refine (onBuffer_obeying Site.destroy_obeys).wp fun _ t l ht => ?_
    exact ⟨ht.1.bind, ht.1.settings, ht.2, .inl ⟨trivial, ⟨b, m, k, hrun⟩, hsize, trivial⟩⟩

/-- A region mapped where it was placed. -/
theorem mapPlaced_ends (position size : Nat) (policy : WritePolicy) :
    (mapPlaced position size policy).Ends s fun r t => s.ring.Stays t.ring ∧
      t.ring.mapped = s.ring.mapped ∧ ∀ m, r = .ok m → t.ring.Hands position size m := by
  intro j
  unfold mapPlaced
  simp only [Attempt.wp_bind, Attempt.wp_always, wp_onBuffer]
  cases hb : s.ring.buffer with
  | none => exact ⟨.refl _, rfl, fun _ h => absurd h (Failure.ne_ok _ _)⟩
  | some b =>
    have hboth := (Site.map_obeys position size (MapFlags.write ∪ policy.flags) ⟨b, s.machine⟩).and
      (Site.map_hands _ _)
    refine (show Step.Ends (Site.map position size _).outcome _ _ from hboth).wp fun r t k hr => ?_
    have hstays : s.ring.Stays { s.ring with buffer := some t.buffer } := by
      refine ⟨?_, rfl, rfl, ?_, rfl⟩
      · rw [hb]
        exact congrArg (fun n => some n.id) hr.1.buffer.nature
      · unfold Ring.capacity
        rw [hb]
        exact congrArg Nature.size hr.1.buffer.nature
    exact ⟨hstays, rfl, fun m hm => ⟨t.buffer, rfl, rfl, hr.2 m hm⟩⟩

/-- A region for which the ring has room. -/
theorem mapFitting_ends (size stride : Nat) : (mapFitting size stride).Ends s fun r t =>
    t.ring.bind = s.ring.bind ∧ t.ring.settings = s.ring.settings ∧
      t.ring.capacity = s.ring.capacity ∧ (∀ f, r = .error f → s.ring.Stays t.ring) ∧
      ∀ region, r = .ok region → t.ring.Hands region.position size region.mapping ∧
        s.ring.place size stride = (region.position, region.policy) ∧
        t.ring.position = region.position + size := by
  intro j
  unfold mapFitting
  simp only [Attempt.wp_bind, Attempt.wp_always, wp_current, Attempt.wp_note, wp_change,
    Attempt.wp_pure]
  refine (mapPlaced_ends _ _ _).wp fun r t k hr => ?_
  obtain ⟨hstays, -, hhands⟩ := hr
  cases r with
  | error f =>
    exact ⟨hstays.bind, hstays.settings, hstays.capacity, fun _ _ => hstays,
      fun _ h => absurd h (Failure.ne_ok _ _)⟩
  | ok m =>
    refine ⟨hstays.bind, hstays.settings, hstays.capacity,
      fun _ h => absurd h.symm (Failure.ne_ok _ _), fun region hregion => ?_⟩
    cases hregion
    exact ⟨hhands m rfl, rfl, rfl⟩

/-! ## 5. Histories -/

/-- **The regions follow one another up to the cursor.** -/
structure Tidy (live : List RingRegion) (s : RingSite δ) : Prop where
  apart : live.Pairwise RingRegion.Apart
  before : ∀ r ∈ live, r.stop ≤ s.ring.position
  cursor : s.ring.position ≤ s.ring.capacity

omit [Device δ] in
theorem Tidy.stays (h : Tidy live s) (hs : s.ring.Stays t.ring) : Tidy live t :=
  ⟨h.apart, by rw [hs.position]; exact h.before, by rw [hs.position, hs.capacity]; exact h.cursor⟩

end RingSite

/-- A region that went where the ring had room for it, behind the ones that the ring stands by. -/
theorem Ring.handsOut_of_place {live : List RingRegion} {size stride : Nat} {old mid new : Ring}
    {region : RingRegion} (hroom : size ≤ mid.capacity)
    (hhanded : new.Hands region.position size region.mapping)
    (hplace : mid.place size stride = (region.position, region.policy))
    (hcapacity : new.capacity = mid.capacity) (hcursor : new.position = region.position + size)
    (hlive : ∀ r ∈ old.standing new live, r.stop ≤ mid.position)
    (hfollows : ¬ old.capacity < new.capacity → old.position ≤ mid.position)
    (hsame : mid.capacity < alignUp mid.position stride + size → old.Stays mid) :
    old.HandsOut live new size stride region := by
  have hextent := hhanded.extent
  have hstop : region.stop = region.position + size := by rw [RingRegion.stop, hextent]
  rcases mid.place_cases size stride with ⟨hfits, hat⟩ | ⟨hfull, hat⟩
  · -- behind the cursor
    rw [hplace, Prod.mk.injEq] at hat
    obtain ⟨hposition, hpolicy⟩ := hat
    refine ⟨hextent, hhanded, ?_, ?_, hcursor.trans hstop.symm, fun _ r hr => .inr ?_,
      fun _ hg => ?_, fun hp => ?_⟩
    · rw [hstop, hcapacity, hposition]
      exact hfits
    · rw [hposition]
      exact dvd_alignUp _ _
    · rw [hposition]
      exact Nat.le_trans (hlive r hr) (le_alignUp _ _)
    · rw [hposition]
      exact Nat.le_trans (hfollows hg) (le_alignUp _ _)
    · cases hpolicy.symm.trans hp
  · -- at the start of the discarded buffer
    rw [hplace, Prod.mk.injEq] at hat
    obtain ⟨hposition, hpolicy⟩ := hat
    have hstays := hsame hfull
    refine ⟨hextent, hhanded, ?_, ?_, hcursor.trans hstop.symm, fun hp => ?_, fun hp => ?_, fun _ =>
      ⟨hposition, hcapacity.trans hstays.capacity, fun q hq hdvd => ?_⟩⟩
    · rw [hstop, hcapacity, hposition, Nat.zero_add]
      exact hroom
    · rw [hposition]
      exact Nat.dvd_zero _
    · cases hpolicy.symm.trans hp
    · cases hpolicy.symm.trans hp
    · rw [← hstays.capacity]
      rw [← hstays.position] at hq
      exact Nat.lt_of_lt_of_le hfull (Nat.add_le_add_right (alignUp_le hq hdvd) size)

namespace RingSite

variable [Device δ] {s t u : RingSite δ} {live : List RingRegion} {size stride : Nat} {j : Journal}

/-- A request that the ring has room for. -/
theorem Tidy.mapFitting_serves (h : Tidy live s) (hfree : s.ring.mapped = false) (hsome : size ≠ 0)
    (hroom : size ≤ s.ring.capacity) (stride : Nat) (j : Journal) :
    (mapFitting size stride).wp s j fun r t _ => s.Serves live size stride j r t.ring := by
  refine (mapFitting_ends size stride).wp fun r t k ht => ?_
  obtain ⟨hbind, hsettings, hcapacity, herror, hok⟩ := ht
  have hsteady : ¬ s.ring.capacity < t.ring.capacity := by
    rw [hcapacity]
    exact Nat.lt_irrefl _
  refine ⟨fun hr => ?_, fun _ => iff_of_false hsteady fun hg => Nat.not_le_of_lt hg.1 hroom,
    fun hg => absurd hg hsteady, fun f hf _ => herror f hf, fun region hr => ?_, hbind, hsettings⟩
  · rcases hr with hr | hr
    · cases hfree.symm.trans hr
    · exact absurd hr hsome
  · obtain ⟨hhanded, hplace, hcursor⟩ := hok region hr
    exact Ring.handsOut_of_place hroom hhanded hplace hcapacity hcursor
      (fun r hr => h.before r (Ring.mem_standing.mp hr).2)
      (fun _ => Nat.le_refl _) fun _ => .refl _

/-- A request for which the ring grew. -/
theorem mapFitting_serves_grown (hfree : s.ring.mapped = false) (hsmall : s.ring.capacity < size)
    (hcan : s.CanHave (s.ring.grownSize size) j) (hbind : t.ring.bind = s.ring.bind)
    (hsettings : t.ring.settings = s.ring.settings)
    (hcapacity : t.ring.capacity = s.ring.grownSize size) (hposition : t.ring.position = 0) :
    (mapFitting size stride).Ends t fun r u => s.Serves live size stride j r u.ring := by
  refine (mapFitting_ends size stride).mono fun r u hu => ?_
  obtain ⟨hbind', hsettings', hcapacity', herror, hok⟩ := hu
  have hroom : size ≤ t.ring.capacity := by
    rw [hcapacity]
    exact s.ring.size_le_grownSize size
  have hgrown : s.ring.capacity < u.ring.capacity := by
    rw [hcapacity']
    exact Nat.lt_of_lt_of_le hsmall hroom
  have hfits := t.ring.place_of_start hposition hroom stride
  refine ⟨fun hr => ?_, fun _ => iff_of_true hgrown ⟨hsmall, hcan⟩,
    fun _ => ⟨hcapacity'.trans hcapacity, fun region hr => ?_,
      fun f hf => (herror f hf).position.trans hposition⟩,
    fun _ _ hg => absurd hgrown hg, fun region hr => ?_, hbind'.trans hbind,
    hsettings'.trans hsettings⟩
  · rcases hr with hr | rfl
    · cases hfree.symm.trans hr
    · exact absurd hsmall (Nat.not_lt_zero _)
  · exact congrArg Prod.fst ((hok region hr).2.1.symm.trans hfits)
  · obtain ⟨hhanded, hplace, hcursor⟩ := hok region hr
    refine Ring.handsOut_of_place hroom hhanded hplace hcapacity' hcursor (fun r hr => ?_)
      (fun hg => absurd hgrown hg) fun hfull => ?_
    · exact absurd hgrown (Ring.mem_standing.mp hr).1
    · rw [hposition, Ring.alignUp_zero, Nat.zero_add] at hfull
      exact absurd hroom (Nat.not_le_of_lt hfull)

/-- **A request is served**, or refused. -/
theorem Tidy.map_serves (h : Tidy live s) (size stride : Nat) (j : Journal) :
    (map size stride).wp s j fun r t _ => s.Serves live size stride j r t.ring := by
  have hsteady {p : Prop} (hg : s.ring.capacity < s.ring.capacity) : p :=
    absurd hg (Nat.lt_irrefl _)
  have hnothing {f : Failure} {P : RingRegion → Prop} (region : RingRegion)
      (h : (Except.error f : Except Failure RingRegion) = .ok region) : P region :=
    absurd h (f.ne_ok region)
  rw [map_eq]
  simp only [Attempt.wp_bind, Attempt.wp_always, wp_current, Attempt.wp_ite, Attempt.wp_refuse]
  split
  · rename_i hmapped
    exact ⟨fun _ => ⟨⟨_, rfl⟩, .refl _⟩, fun hfree => absurd (hfree.symm.trans hmapped)
      Bool.false_ne_true,
      hsteady, fun _ _ _ => .refl _, hnothing, rfl, rfl⟩
  · rename_i hmapped
    have hfree : s.ring.mapped = false := (Bool.not_eq_true _).mp hmapped
    split
    · rename_i hempty
      subst hempty
      exact ⟨fun _ => ⟨⟨_, rfl⟩, .refl _⟩, fun _ => ⟨hsteady, fun hg => absurd hg.1
        (Nat.not_lt_zero _)⟩, hsteady, fun _ _ _ => .refl _, hnothing, rfl, rfl⟩
    · rename_i hsome
      split
      · rename_i hsmall
        refine (enlarge_ends (s.ring.grownSize size)).mono fun r t k ht => ?_
        obtain ⟨hbind, hsettings, -, ⟨rfl, hcan, hcapacity, hposition⟩ | ⟨⟨f, rfl⟩, hcannot, ht⟩⟩ :=
          ht
        · exact mapFitting_serves_grown hfree hsmall hcan hbind hsettings hcapacity hposition k
        · -- without the bigger buffer the ring stays as it is
          simp only [ht]
          exact ⟨fun _ => ⟨⟨f, rfl⟩, .refl _⟩, fun _ => ⟨hsteady, fun hg => absurd hg.2 hcannot⟩,
            hsteady, fun _ _ _ => .refl _, hnothing, rfl, rfl⟩
      · rename_i hroom
        exact h.mapFitting_serves hfree hsome (Nat.le_of_not_lt hroom) stride j

/-- An upload is a request, and what is written and released afterwards leaves the ring where it
    is. -/
theorem append_after (data : ByteArray) (stride : Nat) {o : Except Failure RingRegion} {k : Journal}
    (request : (map data.size stride).run s j = ((o, u), k)) :
    (append data stride).wp s j fun r t _ => r = o.map (·.position) ∧ u.ring.Stays t.ring := by
  unfold append
  rw [Attempt.wp_bind, Attempt.wp_of_run request]
  cases o with
  | error f => exact ⟨rfl, .refl _⟩
  | ok region =>
    simp only [Attempt.wp_bind, wp_discard_always, Attempt.wp_always, Attempt.wp_pure]
    refine (onBuffer_obeying (Site.writeMapped_obeys region.mapping data)).wp fun _ v l hv => ?_
    exact unmap_stays.wp fun _ w n hw => ⟨rfl, hv.1.trans hw⟩

/-- What a request leaves of the regions follows one another up to the cursor. -/
theorem Serves.tidy (h : Tidy live s) {o : Except Failure RingRegion}
    (hs : s.Serves live size stride j o t.ring) :
    Tidy (s.ring.outstanding t.ring RingRegion.policy o live) t := by
  have hapart : (s.ring.standing t.ring live).Pairwise RingRegion.Apart := by
    unfold Ring.standing
    split
    · exact List.Pairwise.nil
    · exact h.apart
  cases o with
  | error f =>
    show Tidy (s.ring.standing t.ring live) t
    by_cases hgrown : s.ring.capacity < t.ring.capacity
    · have hstart := (hs.grown hgrown).2.2 f rfl
      rw [Ring.standing, if_pos hgrown]
      exact ⟨.nil, nofun, by rw [hstart]; exact Nat.zero_le _⟩
    · have hstays := hs.failed f rfl hgrown
      rw [hstays.standing]
      exact h.stays hstays
  | ok region =>
    have hregion := hs.handsOut region rfl
    have hcursor : t.ring.position ≤ t.ring.capacity := by
      rw [hregion.cursor]
      exact hregion.inside
    show Tidy (if region.policy = .discard then [region]
      else region :: s.ring.standing t.ring live) t
    by_cases hpolicy : region.policy = .discard
    · rw [if_pos hpolicy]
      refine ⟨List.pairwise_singleton _ _, fun r hr => ?_, hcursor⟩
      rw [List.mem_singleton.mp hr]
      exact Nat.le_of_eq hregion.cursor.symm
    · rw [if_neg hpolicy]
      have hnew := WritePolicy.eq_noOverwrite hpolicy
      refine ⟨List.pairwise_cons.mpr ⟨hregion.apart hnew, hapart⟩, fun r hr => ?_, hcursor⟩
      rcases List.mem_cons.mp hr with rfl | hr
      · exact Nat.le_of_eq hregion.cursor.symm
      · -- those before it end before the old cursor
        obtain ⟨hsteady, hr⟩ := Ring.mem_standing.mp hr
        rw [hregion.cursor]
        exact Nat.le_trans (h.before r hr) (Nat.le_trans (hregion.follows hnew hsteady)
          (Nat.le_add_right _ _))

end RingSite

/-- **A history of a ring**, with the regions handed out since it last started over. What else happens
    on its machine is free, and so is what is asked of its buffer; an upload hands out the region
    that its request is answered with. -/
inductive RingRun [Device δ] (bind : BindFlags) (settings : Settings) :
    List RingRegion → RingSite δ → Prop where
  | start (m : Machine δ) : RingRun bind settings [] ⟨.new bind settings, m⟩
  | meanwhile {live : List RingRegion} {s : RingSite δ} (h : RingRun bind settings live s)
      (m : Machine δ) : RingRun bind settings live { s with machine := m }
  | mapped {live : List RingRegion} {s t : RingSite δ} (h : RingRun bind settings live s)
      (size stride : Nat) {r : Except Failure RingRegion} {j k : Journal}
      (run : (RingSite.map size stride).run s j = ((r, t), k)) :
      RingRun bind settings (s.ring.outstanding t.ring RingRegion.policy r live) t
  | unmapped {live : List RingRegion} {s t : RingSite δ} (h : RingRun bind settings live s)
      {j k : Journal} (run : RingSite.unmap s j = (((), t), k)) : RingRun bind settings live t
  | uploaded {live : List RingRegion} {s t u : RingSite δ} (h : RingRun bind settings live s)
      (data : ByteArray) (stride : Nat) {o : Except Failure RingRegion} {r : Except Failure Nat}
      {i j k : Journal} (request : (RingSite.map data.size stride).run s j = ((o, u), i))
      (run : (RingSite.append data stride).run s j = ((r, t), k)) :
      RingRun bind settings (s.ring.outstanding t.ring RingRegion.policy o live) t
  | used {live : List RingRegion} {s t : RingSite δ} (h : RingRun bind settings live s) (c : Call)
      {a : Option (Option Mapping)} {j k : Journal}
      (run : RingSite.onBuffer c.perform s j = ((a, t), k)) : RingRun bind settings live t

namespace RingRun

variable [Device δ] {bind : BindFlags} {settings : Settings} {live : List RingRegion}
  {s : RingSite δ}

theorem tidy (h : RingRun bind settings live s) : RingSite.Tidy live s ∧ s.ring.bind = bind ∧
    s.ring.settings = settings := by
  induction h with
  | start m => exact ⟨⟨.nil, nofun, Nat.zero_le _⟩, rfl, rfl⟩
  | meanwhile _ m ih => exact ⟨ih.1.stays (.refl _), ih.2⟩
  | mapped _ size stride run ih =>
    have hserves := (Attempt.wp_of_run run).mp (ih.1.map_serves size stride _)
    exact ⟨hserves.tidy ih.1, hserves.bind.trans ih.2.1, hserves.settings.trans ih.2.2⟩
  | unmapped _ run ih =>
    have hstays := RingSite.unmap_stays.of_run run
    exact ⟨ih.1.stays hstays, hstays.bind.trans ih.2.1, hstays.settings.trans ih.2.2⟩
  | uploaded _ data stride request run ih =>
    have hrequest := (Attempt.wp_of_run request).mp (ih.1.map_serves data.size stride _)
    have hafter := (Attempt.wp_of_run run).mp (RingSite.append_after data stride request)
    have hserves := hrequest.after hafter.2
    exact ⟨hserves.tidy ih.1, hserves.bind.trans ih.2.1, hserves.settings.trans ih.2.2⟩
  | used _ c run ih =>
    have hstays := ((RingSite.onBuffer_call c).of_run run).1
    exact ⟨ih.1.stays hstays, hstays.bind.trans ih.2.1, hstays.settings.trans ih.2.2⟩

/-- Bytes are uploaded next. -/
theorem upload (h : RingRun bind settings live s) (data : ByteArray) (stride : Nat) (j : Journal) :
    RingRun bind settings
      (s.ring.outstanding ((RingSite.append data stride).run s j).1.2.ring RingRegion.policy
        ((RingSite.map data.size stride).run s j).1.1 live)
      ((RingSite.append data stride).run s j).1.2 := .uploaded h data stride rfl rfl

end RingRun

/-- **The regions of a ring never overlap until it starts over**, and every request is served, be it
    for a mapping or by an upload. -/
theorem ring_regions_apart [Device δ] {bind : BindFlags} {settings : Settings}
    {live : List RingRegion} {s : RingSite δ} (h : RingRun bind settings live s) :
    s.ring.bind = bind ∧ s.ring.settings = settings ∧ live.Pairwise RingRegion.Apart ∧
      (∀ size stride j, (RingSite.map size stride).wp s j fun r t _ =>
        s.Serves live size stride j r t.ring) ∧
      ∀ data stride j, (RingSite.append data stride).wp s j fun r t _ => ∃ o,
        s.Serves live data.size stride j o t.ring ∧ r = o.map (·.position) := by
  obtain ⟨htidy, hbind, hsettings⟩ := h.tidy
  refine ⟨hbind, hsettings, htidy.apart, htidy.map_serves, fun data stride j => ?_⟩
  have hserves := (Attempt.wp_of_run rfl).mp (htidy.map_serves data.size stride j)
  exact (RingSite.append_after data stride rfl).mono fun r t _ hafter =>
    ⟨_, hserves.after hafter.2, hafter.1⟩

/-- A ring that was nearly full, started over for lack of room, and goes on from there. -/
theorem ring_regions_apart_after_discard :
    ∃ (live : List RingRegion) (s : RingSite MemoryDevice),
      RingRun BindFlags.vertexBuffer { streamingMinSize := 8 } live s ∧
      live.map (fun r => (r.position, r.mapping.size)) = [(4, 2), (0, 3)] ∧
      (s.ring.bind = BindFlags.vertexBuffer ∧ s.ring.settings = { streamingMinSize := 8 } ∧
        live.Pairwise RingRegion.Apart ∧
        (∀ size stride j, (RingSite.map size stride).wp s j fun r t _ =>
          s.Serves live size stride j r t.ring) ∧
        ∀ data stride j, (RingSite.append data stride).wp s j fun r t _ => ∃ o,
          s.Serves live data.size stride j o t.ring ∧ r = o.map (·.position)) := by
  have h₀ : RingRun BindFlags.vertexBuffer { streamingMinSize := 8 } [] _ :=
    .start (.new (MemoryDevice.new .legacy))
  have h₁ := h₀.upload ⟨#[1, 2, 3, 4, 5, 6]⟩ 1 (.empty .error)
  have h₂ := h₁.upload ⟨#[1, 2, 3]⟩ 1 (.empty .error)
  have h₃ := h₂.upload ⟨#[4, 5]⟩ 4 (.empty .error)
  exact ⟨_, _, h₃, by decide +kernel, ring_regions_apart h₃⟩

end BufferCoherence
