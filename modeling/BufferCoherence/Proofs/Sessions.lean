import BufferCoherence.Proofs.History
import BufferCoherence.Proofs.Nesting

/-!
# Sessions

What the holder of several mappings writes, and what is read back once the last one is released.

* `Session` is any run of mapping, writing through what is mapped, and unmapping; what was written,
  in order, is the content that each of its moments should stand for;
* `Moment.Sound` is the invariant: what is mapped for writing may be written in place. A mapping may
  end it, and then something can be lost (`Moment.Sound.maps`);
* `nested_writes_kept_iff`: nothing can be lost in a session exactly where what is mapped for
  writing is, at every moment, in the copy that the buffer is read from. A mapping that does not
  wait for the object, inside one through the shadow, is not: `nested_write_lost`.
-/

namespace BufferCoherence

/-! ## 1. Moments -/

/-- A range that was mapped: what was asked for, and what was handed out. -/
structure Grant where
  offset : Nat
  size : Nat
  writable : Bool
  mapping : Mapping

/-- A part of a mapped range. -/
def Grant.part (g : Grant) (start size : Nat) : Mapping :=
  ⟨g.mapping.storage, g.mapping.position + start, size⟩

/-- A moment of a session: the buffer, what is mapped, the innermost mapping first, and the content
    with everything written so far in it. -/
structure Moment where
  site : Site MemoryDevice
  grants : List Grant
  content : ByteArray

namespace Moment

/-- What is mapped once the mapping of a range succeeded or failed. -/
def granted (x : Moment) (offset size : Nat) (flags : MapFlags) :
    Except Failure Mapping → List Grant
  | .ok m => ⟨offset, size, flags.has MapFlags.write, m⟩ :: x.grants
  | .error _ => x.grants

/-- A range is mapped, or fails to be; a mapping that throws content away is no part of a
    session. -/
inductive Maps (x : Moment) : Moment → Prop where
  | mapped (offset size : Nat) (flags : MapFlags) (keeps : flags.has MapFlags.discard = false)
      {a : Except Failure Mapping} {t : Site MemoryDevice} {j k : Journal}
      (h : (Site.map offset size flags).run x.site j = ((a, t), k)) :
      Maps x ⟨t, x.granted offset size flags a, x.content⟩

/-- Bytes are written inside a range that is mapped for writing, or the innermost mapping is
    released. -/
inductive Uses (x : Moment) : Moment → Prop where
  | wrote {g : Grant} (outstanding : g ∈ x.grants) (writable : g.writable = true) (start : Nat)
      (data : ByteArray) (inside : start + data.size ≤ g.size) {t : Site MemoryDevice}
      {j k : Journal} (h : Site.writeMapped (g.part start data.size) data x.site j = (((), t), k)) :
      Uses x ⟨t, x.grants, Bytes.splice x.content (g.offset + start) data⟩
  | unmapped {g : Grant} {gs : List Grant} (outstanding : x.grants = g :: gs)
      {t : Site MemoryDevice} {j k : Journal} (h : Site.unmap x.site j = (((), t), k)) :
      Uses x ⟨t, gs, x.content⟩

/-- The rest of a session that maps nothing more. -/
inductive Closing : Moment → Moment → Prop where
  | here {x : Moment} : Closing x x
  | next {x y z : Moment} (step : x.Uses y) (h : Closing y z) : Closing x z

/-- **Nothing written is lost**: however the rest of the session goes, once the last mapping is
    released the bytes read back are those written. Only a buffer that nothing was written to may
    lack the storage for its zeroes. -/
def Kept (x : Moment) : Prop :=
  ∀ y, Closing x y → y.grants = [] → ∀ j : Journal,
    (Site.content.run y.site j).1.1 = .ok y.content ∨
      ((∃ f, (Site.content.run y.site j).1.1 = .error f) ∧ ¬ Site.Reservable y.site ∧
        y.site.buffer.locations.has Location.cleared = true ∧
        y.site.buffer.locations.has Location.gpuObject = false)

/-- What may be written through a mapping is in the copy that the buffer is read from. -/
def Placed (x : Moment) : Prop :=
  ∀ g ∈ x.grants, g.writable = true → 0 < g.size →
    x.site.buffer.address? = some g.mapping.storage.address

end Moment

/-- A session: mapping, writing through what is mapped, and unmapping, in any order; its moments,
    the latest first. -/
inductive Session (x : Moment) : List Moment → Prop where
  | start : Session x [x]
  | next {y z : Moment} {past : List Moment} (h : Session x (y :: past))
      (step : y.Maps z ∨ y.Uses z) : Session x (z :: y :: past)

namespace Moment

variable {x y : Moment} {j : Journal}

/-! ## 2. What is kept -/

/-- What is mapped is mapped in one storage. -/
structure Outstanding (x : Moment) : Prop extends Site.Steady x.content x.site where
  counted : x.site.buffer.mapCount = x.grants.length
  handed : ∀ g ∈ x.grants, g.offset + g.size ≤ x.content.size ∧
    g.mapping = ⟨x.site.buffer.mapped, g.offset, g.size⟩
  released : x.grants = [] → x.site.buffer.mapBase = none

/-- **The invariant of a session**: what is mapped for writing may be written in place. -/
structure Sound (x : Moment) : Prop extends Outstanding x where
  accepted : ∀ g ∈ x.grants, g.writable = true → 0 < g.size →
    x.site.copies.Accepts g.offset g.size x.site.buffer.mapped

/-- A range mapped keeps the invariant, or else the buffer is read from elsewhere now. -/
theorem Sound.map_ends (h : Sound x) (offset size : Nat) {flags : MapFlags}
    (hkeep : flags.has MapFlags.discard = false) :
    (Site.map offset size flags).Ends x.site fun a y =>
      let z : Moment := ⟨y, x.granted offset size flags a, x.content⟩
      Outstanding z ∧ (Sound z ∨ Site.Elsewhere z.content z.site z.site.buffer.mapped) := by
  obtain ⟨s, gs, c⟩ := x
  intro j
  unfold Site.map
  simp only [Attempt.wp_bind, Attempt.wp_always, Site.wp_current, Attempt.wp_ite,
    Attempt.wp_refuse, Site.wp_change, Attempt.wp_outcome]
  have hiff : s.buffer.holds offset size = true ↔ offset + size ≤ s.buffer.size := fits_iff
  cases hfit : s.buffer.holds offset size with
  | false => exact ⟨h.toOutstanding, .inl h⟩
  | true =>
    rw [if_neg (by simp)]
    let t : Site MemoryDevice :=
      { s with buffer := { s.buffer with mapCount := s.buffer.mapCount + 1 } }
    have ht : Site.Steady c t := ⟨h.toCoherent, h.backed, h.aligned, h.based⟩
    have hfirst (hcount : t.buffer.mapCount = 1) : gs = [] := by
      have hlen : s.buffer.mapCount + 1 = 1 := hcount
      rw [show s.buffer.mapCount = gs.length from h.counted] at hlen
      exact List.length_eq_zero_iff.mp (by omega)
    refine (ht.mapPrepared_ends hkeep (fun hcount => h.released (hfirst hcount))
      (hiff.mp hfit)).wp fun a y j hy => ?_
    have hlength : t.buffer.mapCount = gs.length + 1 := congrArg (· + 1) h.counted
    rcases hy with ⟨rfl, hy⟩ | ⟨⟨f, rfl⟩, hsteady, hframe, hgoes⟩
    · have hout : Outstanding ⟨y, ⟨offset, size, flags.has MapFlags.write,
          ⟨y.buffer.mapped, offset, size⟩⟩ :: gs, c⟩ := by
        refine ⟨hy.steady, ?_, List.forall_mem_cons.mpr ⟨⟨?_, rfl⟩, fun g hg => ?_⟩, by simp⟩
        · refine Eq.trans ?_ hlength
          rcases hy.frame with hframe | ⟨-, b, hframe⟩
          · exact congrArg Frame.mapCount hframe
          · exact congrArg Frame.mapCount hframe
        · rw [h.size]
          exact hiff.mp hfit
        · refine ⟨(h.handed g hg).1, (h.handed g hg).2.trans ?_⟩
          rcases hy.frame with hframe | ⟨hcount, -⟩
          · rw [Site.mapped_eq hframe]
            rfl
          · rw [hfirst hcount] at hg
            exact absurd hg List.not_mem_nil
      refine ⟨hout, hy.accepts.imp_left fun haccepts => ⟨hout, ?_⟩⟩
      obtain ⟨hgoes, hnew⟩ := haccepts
      refine List.forall_mem_cons.mpr ⟨fun hw _ => hnew hw, fun g hg hw hsome => ?_⟩
      exact hgoes _ _ (h.accepted g hg hw hsome)
    · simp only [Attempt.wp_bind, Attempt.wp_always, Site.wp_change, Attempt.wp_throw]
      let z : Site MemoryDevice :=
        { y with buffer := { y.buffer with mapCount := y.buffer.mapCount - 1 } }
      have hout : Outstanding ⟨z, gs, c⟩ := by
        refine ⟨⟨hsteady.toCoherent, hsteady.backed, hsteady.aligned, hsteady.based⟩, ?_,
          fun g hg => ?_, fun hgs => ?_⟩
        · show y.buffer.mapCount - 1 = gs.length
          rw [show y.buffer.mapCount = _ from congrArg Frame.mapCount hframe]
          show t.buffer.mapCount - 1 = gs.length
          omega
        · refine ⟨(h.handed g hg).1, (h.handed g hg).2.trans ?_⟩
          have hmapped : y.buffer.mapped = t.buffer.mapped := Site.mapped_eq hframe
          rw [show z.buffer.mapped = s.buffer.mapped from hmapped]
        · exact (congrArg Frame.mapBase hframe).trans (h.released hgs)
      refine ⟨hout, hgoes.imp (fun hgoes => ⟨hout, fun g hg hw hsome => ?_⟩) fun helse => ?_⟩
      · exact hgoes _ _ (h.accepted g hg hw hsome)
      · exact helse.of_copies rfl rfl

/-- Bytes written through a mapping are in the content. -/
theorem Sound.write_ends (h : Sound x) {g : Grant} (hg : g ∈ x.grants) (hw : g.writable = true)
    {start : Nat} {data : ByteArray} (hin : start + data.size ≤ g.size) :
    (Site.writeMapped (g.part start data.size) data).Ends x.site fun _ y =>
      Sound ⟨y, x.grants, Bytes.splice x.content (g.offset + start) data⟩ := by
  obtain ⟨hfit, hm⟩ := h.handed g hg
  have hpart : g.part start data.size = ⟨x.site.buffer.mapped, g.offset + start, data.size⟩ := by
    unfold Grant.part
    rw [hm]
  rw [hpart]
  refine (h.writeMapped_ends (h.accepted g hg hw) (Nat.le_add_right _ _) (by omega) hfit).mono
    fun _ y ⟨hy, hgoes, hframe⟩ => ?_
  refine ⟨⟨hy, (congrArg Frame.mapCount hframe).trans h.counted, fun f hf => ?_, fun hgs =>
    (congrArg Frame.mapBase hframe).trans (h.released hgs)⟩, fun f hf hwf hsome => ?_⟩
  · show f.offset + f.size ≤ (Bytes.splice _ _ _).size ∧ _
    rw [Bytes.size_splice, Site.mapped_eq hframe]
    exact h.handed f hf
  · exact hgoes _ _ (h.accepted f hf hwf hsome)

/-- A mapping released keeps the invariant. -/
theorem Sound.unmap_ends (h : Sound x) {g : Grant} {gs : List Grant} (hgs : x.grants = g :: gs) :
    Site.unmap.Ends x.site fun _ y => Sound ⟨y, gs, x.content⟩ := by
  obtain ⟨s, outstanding, c⟩ := x
  cases hgs
  have hcount : s.buffer.mapCount = gs.length + 1 := h.counted
  cases gs with
  | nil =>
    refine (Site.unmap_last hcount).mono fun _ y ⟨hframe, hcopies, hd⟩ => ?_
    have hconv : y.buffer.isConverted = s.buffer.isConverted :=
      congrArg (fun f : Frame => f.conversion.map.isSome) hframe
    have hbase : y.buffer.mapBase = none := congrArg Frame.mapBase hframe
    refine ⟨⟨⟨?_, fun hc => ?_, hd.shiftsMappings.trans h.aligned,
      fun b hb => nomatch hb.symm.trans hbase⟩, congrArg Frame.mapCount hframe, nofun,
      fun _ => hbase⟩, nofun⟩
    · rw [hconv, hcopies]
      cases hb : s.buffer.mapBase with
      | none => exact h.toCoherent
      | some b =>
        exact { h.toCoherent with
          spans := DirtySpans.Fits.clear _
          stale := fun held hheld _ _ _ i _ => by
            cases hheld.symm.trans (h.based b hb).held
            rfl }
    · rw [hconv] at hc
      exact (congrArg Copies.pinned hcopies).trans (h.backed hc)
  | cons g' gs =>
    refine (Site.unmap_inner (by rw [hcount]; simp)).mono fun _ y hy => ?_
    subst hy
    refine ⟨⟨⟨h.toCoherent, h.backed, h.aligned, h.based⟩, ?_,
      fun f hf => h.handed f (List.mem_cons_of_mem _ hf), nofun⟩,
      fun f hf => h.accepted f (List.mem_cons_of_mem _ hf)⟩
    show s.buffer.mapCount - 1 = _
    rw [hcount]
    rfl

theorem Sound.uses (h : Sound x) (step : x.Uses y) : Sound y := by
  cases step with
  | wrote hg hw start data hin hrun => exact (h.write_ends hg hw hin).of_run hrun
  | unmapped hgs hrun => exact (h.unmap_ends hgs).of_run hrun

theorem Sound.closing (h : Sound x) (hc : Closing x y) : Sound y := by
  induction hc with
  | here => exact h
  | next step _ ih => exact ih (h.uses step)

/-- As long as the invariant holds, nothing is lost. -/
theorem Sound.loses_nothing (h : Sound x) : x.Kept := by
  intro y hc _ j
  have hy := h.closing hc
  rcases Site.content_ends hy.toCoherent j with ⟨-, hok | ⟨hf, hcleared, hg, hno⟩⟩
  · exact .inl hok
  · exact .inr ⟨hf, hno, hcleared, hg⟩

/-- As long as the invariant holds, the buffer is read from where it is written. -/
theorem Sound.placed (h : Sound x) : x.Placed := by
  intro g hg hw hsome
  have ha := h.accepted g hg hw hsome
  rw [(h.handed g hg).2]
  cases hb : x.site.buffer.mapBase with
  | none =>
    rw [Buffer.mapped_of_none hb] at ha ⊢
    have hshadow : x.site.buffer.shadow = some x.content := h.mirrored ha.current
    exact Buffer.address?_shadow ha.current ha.alone (by rw [hshadow]; rfl)
  | some b =>
    rw [Buffer.mapped_of_some hb] at ha ⊢
    obtain ⟨o, ho, hplace, -⟩ := Site.copies_object_some (h.based b hb).object
    rw [Buffer.address?_object ho ha.current fun _ => ha.alone]
    obtain ⟨hh, hoff⟩ := Placement.mk.inj hplace
    rw [← hh, ← hoff]
    rfl

/-! ## 3. What is lost -/

/-- The mappings released one after the other; the buffer is read from elsewhere all the time. -/
theorem closes_elsewhere {s : Site MemoryDevice} {c : ByteArray} {st : MappedStorage}
    (he : Site.Elsewhere c s st) (gs : List Grant) (hcount : s.buffer.mapCount = gs.length)
    (d : ByteArray) : ∃ t, Closing ⟨s, gs, d⟩ ⟨t, [], d⟩ ∧ Site.Elsewhere c t st := by
  induction gs generalizing s with
  | nil => exact ⟨s, .here, he⟩
  | cons g gs ih =>
    rw [List.length_cons] at hcount
    obtain ⟨hnext, hless⟩ := he.unmap_ends (by omega) (.empty .error)
    obtain ⟨t, hclosing, ht⟩ := ih hnext (by rw [hless, hcount]; rfl)
    exact ⟨t, .next (.unmapped rfl (Step.eq_end _ _ _)) hclosing, ht⟩

/-- Where the buffer is read from elsewhere, what is mapped for writing is misplaced, and a byte
    written through it is lost. -/
theorem Outstanding.lost (h : Outstanding x)
    (he : Site.Elsewhere x.content x.site x.site.buffer.mapped) {g : Grant} (hg : g ∈ x.grants)
    (hw : g.writable = true) (hsome : 0 < g.size) : ¬ x.Placed ∧ ¬ x.Kept := by
  obtain ⟨hfit, hm⟩ := h.handed g hg
  have hstorage : g.mapping.storage = x.site.buffer.mapped := by rw [hm]
  refine ⟨fun hplaced => ?_, fun hkept => ?_⟩
  · refine he.address?_ne ?_
    rw [← hstorage]
    exact hplaced g hg hw hsome
  · obtain ⟨data, hone, hne⟩ := Bytes.exists_splice_ne (b := x.content) (i := g.offset) (by omega)
    obtain ⟨hwritten, hcount⟩ := he.write_ends (m := g.part 0 data.size) hstorage data
      (.empty .error)
    obtain ⟨t, hclosing, ht⟩ := closes_elsewhere hwritten x.grants (hcount.trans h.counted)
      (Bytes.splice x.content (g.offset + 0) data)
    have hread := ht.reads (.empty .error)
    rcases hkept _ (.next (.wrote hg hw 0 data (by omega) (Step.eq_end _ _ _)) hclosing) rfl
      (.empty .error) with hok | ⟨⟨f, hf⟩, -⟩
    · exact hne (Except.ok.inj (hok.symm.trans hread))
    · exact nomatch hread.symm.trans hf

/-- One more mapping: the invariant goes on, or something can be lost. -/
theorem Sound.maps (h : Sound x) (step : x.Maps y) : Sound y ∨ (¬ y.Placed ∧ ¬ y.Kept) := by
  cases step with
  | @mapped offset size flags hkeep a t j k hrun =>
    obtain ⟨hout, hsound | helse⟩ := (h.map_ends offset size hkeep).of_run hrun
    · exact .inl hsound
    · by_cases hsome : ∃ g ∈ x.granted offset size flags a, g.writable = true ∧ 0 < g.size
      · obtain ⟨g, hg, hw, hsize⟩ := hsome
        exact .inr (hout.lost helse hg hw hsize)
      · exact .inl ⟨hout, fun g hg hw hsize => absurd ⟨g, hg, hw, hsize⟩ hsome⟩

end Moment

/-! ## 4. Nothing lost -/

/-- A session begins with a buffer that nothing is mapped of. -/
theorem Site.Idle.sound {s : Site MemoryDevice} {c : ByteArray} (h : Site.Idle c s)
    (ha : s.machine.device.shiftsMappings = false) : Moment.Sound ⟨s, [], c⟩ :=
  ⟨⟨⟨h.toCoherent, h.backed, ha, fun _ hb => nomatch hb.symm.trans h.baseless⟩, h.unmapped, nofun,
    fun _ => h.baseless⟩, nofun⟩

/-- **The invariant holds of every moment of a session**, or something can be lost at one. -/
theorem Session.sound_or_lost {x : Moment} {session : List Moment} (h : Session x session)
    (hx : x.Sound) :
    (∀ y ∈ session, y.Sound) ∨ ∃ y ∈ session, ¬ y.Placed ∧ ¬ y.Kept := by
  induction h with
  | start => exact .inl (List.forall_mem_singleton.mpr hx)
  | @next y z past _ step ih =>
    rcases ih with hsound | ⟨w, hw, hlost⟩
    · have hy := hsound y List.mem_cons_self
      rcases step with hmaps | huses
      · rcases hy.maps hmaps with hz | hlost
        · exact .inl (List.forall_mem_cons.mpr ⟨hz, hsound⟩)
        · exact .inr ⟨z, List.mem_cons_self, hlost⟩
      · exact .inl (List.forall_mem_cons.mpr ⟨hy.uses huses, hsound⟩)
    · exact .inr ⟨w, List.mem_cons_of_mem _ hw, hlost⟩

variable {m : Machine MemoryDevice} {request : BufferRequest} {data : Option ByteArray}
  {settings : Settings} {past : List Happening} {s : Site MemoryDevice}

/-- **Nested mappings lose no write exactly where they stay in place.** However a buffer came about,
    on a device that does not shift mappings, and whatever is mapped, written and released in a
    session on it: nothing can be lost at any moment of the session if and only if at each moment
    what is mapped for writing is in the copy that the buffer is read from. -/
theorem nested_writes_kept_iff (h : Run m request data settings past s)
    (ha : s.machine.device.shiftsMappings = false) :
    ∃ c, Explained (firstContent request.size data) past c ∧
      ∀ session, Session ⟨s, [], c⟩ session →
        ((∀ x ∈ session, x.Kept) ↔ ∀ x ∈ session, x.Placed) := by
  obtain ⟨c, hc, hi⟩ := run_idle h
  refine ⟨c, hc, fun session hsession => ?_⟩
  rcases hsession.sound_or_lost (hi.sound ha) with hsound | ⟨x, hx, hplaced, hkept⟩
  · exact ⟨fun _ x hx => (hsound x hx).placed, fun _ x hx => (hsound x hx).loses_nothing⟩
  · exact ⟨fun hall => absurd (hall x hx) hkept, fun hall => absurd (hall x hx) hplaced⟩

/-- A session on a buffer, its content being `c`. -/
theorem Run.session (_ : Run m request data settings past s) (c : ByteArray) :
    Session ⟨s, [], c⟩ [⟨s, [], c⟩] := .start

/-- A range mapped next in a session. -/
theorem Session.map {x y : Moment} {past : List Moment} (h : Session x (y :: past))
    (offset size : Nat) (flags : MapFlags) (keeps : flags.has MapFlags.discard = false)
    (j : Journal) :
    Session x (⟨((Site.map offset size flags).run y.site j).1.2,
      y.granted offset size flags ((Site.map offset size flags).run y.site j).1.1, y.content⟩ ::
        y :: past) :=
  .next h (.inl (.mapped offset size flags keeps rfl))

/-- Bytes written next through the innermost mapping. -/
theorem Session.write {x y : Moment} {past : List Moment} (h : Session x (y :: past)) {g : Grant}
    (innermost : y.grants.head? = some g) (writable : g.writable = true) (start : Nat)
    (data : ByteArray) (inside : start + data.size ≤ g.size) (j : Journal) :
    Session x (⟨(Site.writeMapped (g.part start data.size) data y.site j).1.2, y.grants,
      Bytes.splice y.content (g.offset + start) data⟩ :: y :: past) :=
  .next h (.inr (.wrote (List.mem_of_mem_head? innermost) writable start data inside
    (Step.eq_end _ _ _)))

/-- The innermost mapping released next. -/
theorem Session.unmap {x y : Moment} {past : List Moment} (h : Session x (y :: past)) {g : Grant}
    (innermost : y.grants.head? = some g) (j : Journal) :
    Session x (⟨(Site.unmap y.site j).1.2, y.grants.tail, y.content⟩ :: y :: past) := by
  obtain ⟨gs, hgs⟩ := List.head?_eq_some_iff.mp innermost
  have hcons : y.grants = g :: y.grants.tail := by rw [hgs, List.tail_cons]
  exact .next h (.inr (.unmapped hcons (Step.eq_end _ _ _)))

/-- Sessions on a buffer that was just created. -/
theorem nested_writes_kept_iff_of_created :
    ∃ past s, Run (.new (.new .legacy)) ⟨2, Usage.dynamic, BindFlags.vertexBuffer, Access.gpu, 0⟩
        (some ⟨#[1, 2]⟩) {} past s ∧ s.machine.device.shiftsMappings = false ∧
      ∃ c, Explained ⟨#[1, 2]⟩ past c ∧ ∀ session, Session ⟨s, [], c⟩ session →
        ((∀ x ∈ session, x.Kept) ↔ ∀ x ∈ session, x.Placed) := by
  have h₀ := Run.first (.new (.new .legacy))
    ⟨2, Usage.dynamic, BindFlags.vertexBuffer, Access.gpu, 0⟩ (some ⟨#[1, 2]⟩) {} (.empty .error)
    (Option.some_get (by decide +kernel)).symm
  exact ⟨_, _, h₀, by decide +kernel, nested_writes_kept_iff h₀ (by decide +kernel)⟩

/-- A mapping that does not wait for the object, inside one through the shadow: it makes the object
    the only current copy, and points into the shadow. -/
theorem nested_write_lost :
    ∃ past s c session, Run (.new (.new .legacy))
        ⟨2, Usage.dynamic, BindFlags.vertexBuffer, Access.gpu, 0⟩ (some ⟨#[1, 2]⟩) {} past s ∧
      s.machine.device.shiftsMappings = false ∧ Explained ⟨#[1, 2]⟩ past c ∧
      Session ⟨s, [], c⟩ session ∧ ¬ ∀ x ∈ session, x.Kept := by
  have h₀ := Run.first (.new (.new .legacy))
    ⟨2, Usage.dynamic, BindFlags.vertexBuffer, Access.gpu, 0⟩ (some ⟨#[1, 2]⟩) {} (.empty .error)
    (Option.some_get (by decide +kernel)).symm
  have h₁ := (h₀.session ⟨#[1, 2]⟩).map 0 1 MapFlags.write (by decide) (.empty .error)
  have h₂ := h₁.map 1 1 (MapFlags.write ∪ MapFlags.noOverwrite) (by decide)
    (.empty .error)
  have h₃ := h₂.write (Option.some_get (by decide +kernel)).symm (by decide +kernel) 0 ⟨#[9]⟩
    (by decide +kernel) (.empty .error)
  have h₄ := h₃.unmap (Option.some_get (by decide +kernel)).symm (.empty .error)
  have h₅ := h₄.unmap (Option.some_get (by decide +kernel)).symm (.empty .error)
  refine ⟨_, _, _, _, h₀, by decide +kernel, .start, h₅, fun hkept => ?_⟩
  rcases hkept _ List.mem_cons_self _ .here (List.isEmpty_iff.mp (by decide +kernel))
    (.empty .error) with hok | ⟨-, -, hcleared, -⟩
  · exact absurd (congrArg Except.toOption hok) (by decide +kernel)
  · exact absurd hcleared (by decide +kernel)

end BufferCoherence
