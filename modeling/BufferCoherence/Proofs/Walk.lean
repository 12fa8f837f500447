import BufferCoherence.Proofs.Retagging
import BufferCoherence.Proofs.Selection
import BufferCoherence.Proofs.Fixups

/-!
# The walk over a vertex

An analysis tags single bytes. A conversion goes over the vertex in steps: it makes the fixup of the
byte that it is at, and moves on by the width of that fixup. Nothing but the tags tells it where an
attribute starts. This file says when the two fit together.

* `ConversionMap.Grouped` says of a map that its tagged bytes form groups: each as wide as its
  fixup, at a multiple of four, and no two of them with a common byte. What carries the walk through
  such a map is that it never is inside of a group (`Boundary`).
* **`Grouped.mem_plan_iff`**: the walk makes the fixups of the groups, and no other.
  `Grouped.extract_fix` and `Grouped.byteAt?_fix` are what becomes of a vertex.
* **`declared_attributes_converted`**: of a layout whose attributes are interleaved at multiples of
  four, analysis and conversion convert the attributes that need it in every complete vertex, and
  leave every other byte.
-/

namespace BufferCoherence

/-! ## 1. Steps, one after another -/

namespace ByteFixup

theorem four_dvd_width (f : ByteFixup) : 4 ∣ f.width := by cases f <;> decide

variable {f : ByteFixup} {data : ByteArray} {start room : Nat}

/-- A fixup that has room is made on its group. -/
theorem apply_of_fits (hfix : f ≠ .keep) (hroom : f.width ≤ room)
    (hfit : start + f.width ≤ data.size) : f.apply data start room =
      Bytes.splice data start (f.onGroup (data.extract start (start + f.width))) := by
  unfold apply
  rw [if_neg (by simp [hfix, hroom]), Bytes.slice?_eq_some hfit]

theorem extract_apply_group (hfix : f ≠ .keep) (hroom : f.width ≤ room)
    (hfit : start + f.width ≤ data.size) :
    (f.apply data start room).extract start (start + f.width) =
      f.onGroup (data.extract start (start + f.width)) := by
  have hsize : (f.onGroup (data.extract start (start + f.width))).size = f.width :=
    size_onGroup (by rw [ByteArray.size_extract]; omega)
  rw [apply_of_fits hfix hroom hfit]
  generalize f.onGroup (data.extract start (start + f.width)) = group at hsize ⊢
  rw [← hsize]
  exact Bytes.extract_splice (by omega)

/-- A fixup leaves the bytes beside its group. -/
theorem byteAt?_apply_beside {i : Nat} (hi : f ≠ .keep → ¬ (start ≤ i ∧ i < start + f.width)) :
    Bytes.byteAt? (f.apply data start room) i = Bytes.byteAt? data i := by
  by_cases hmade : f = .keep ∨ room < f.width
  · unfold apply
    rw [if_pos hmade]
  · have hroom : f.width ≤ room := Nat.le_of_not_lt fun h => hmade (.inr h)
    have hfix : f ≠ .keep := fun h => hmade (.inl h)
    by_cases hfit : start + f.width ≤ data.size
    · have hsize : (f.onGroup (data.extract start (start + f.width))).size = f.width :=
        size_onGroup (by rw [ByteArray.size_extract]; omega)
      rw [apply_of_fits hfix hroom hfit, Bytes.byteAt?_splice (by omega), hsize,
        if_neg (hi hfix)]
    · unfold apply
      rw [if_neg hmade, Bytes.slice?_eq_none_iff.mpr (Nat.lt_of_not_le hfit)]

end ByteFixup

namespace ConversionMap

/-- The byte is one of those that a step is made on. -/
def Holds (step : Nat × ByteFixup) (i : Nat) : Prop :=
  step.1 ≤ i ∧ i < step.1 + step.2.width

/-- A vertex with steps made on it, one after another. -/
def make (stride : Nat) (steps : List (Nat × ByteFixup)) (vertex : ByteArray) : ByteArray :=
  steps.foldl (fun d (j, f) => f.apply d j (stride - j)) vertex

section Steps

variable {stride : Nat} {steps : List (Nat × ByteFixup)} {vertex : ByteArray}

theorem make_cons (s : Nat × ByteFixup) : make stride (s :: steps) vertex =
    make stride steps (s.2.apply vertex s.1 (stride - s.1)) := rfl

/-- What no step is made on stays. -/
theorem byteAt?_make {i : Nat} (h : ∀ s ∈ steps, s.2 ≠ .keep → ¬ Holds s i) :
    Bytes.byteAt? (make stride steps vertex) i = Bytes.byteAt? vertex i := by
  induction steps generalizing vertex with
  | nil => rfl
  | cons s rest ih =>
    rw [make_cons, ih fun t ht => h t (List.mem_cons_of_mem _ ht)]
    exact ByteFixup.byteAt?_apply_beside (h s List.mem_cons_self)

theorem size_make : (make stride steps vertex).size = vertex.size := by
  induction steps generalizing vertex with
  | nil => rfl
  | cons s rest ih => rw [make_cons, ih, ByteFixup.size_apply]

/-- **Each step is made on what was there at the start**, where every step ends before the next. -/
theorem extract_make (hsize : vertex.size = stride)
    (hapart : steps.Pairwise fun s t => s.1 + s.2.width ≤ t.1) {s : Nat × ByteFixup}
    (hs : s ∈ steps) (hfix : s.2 ≠ .keep) (hfit : s.1 + s.2.width ≤ stride) :
    (make stride steps vertex).extract s.1 (s.1 + s.2.width) =
      s.2.onGroup (vertex.extract s.1 (s.1 + s.2.width)) := by
  induction steps generalizing vertex with
  | nil => cases hs
  | cons a rest ih =>
    obtain ⟨hfirst, hrest⟩ := List.pairwise_cons.mp hapart
    rw [make_cons]
    rcases List.mem_cons.mp hs with hsa | hs
    · -- the later steps leave what this one has made
      rw [← hsa] at hfirst ⊢
      rw [Bytes.extract_congr size_make fun i _ hi => byteAt?_make fun t ht _ hholds =>
        Nat.not_le_of_lt hi (Nat.le_trans (hfirst t ht) hholds.1)]
      exact ByteFixup.extract_apply_group hfix (by omega) (by omega)
    · -- this step left what the later one is made on
      rw [ih ((ByteFixup.size_apply ..).trans hsize) hrest hs]
      refine congrArg s.2.onGroup (Bytes.extract_congr (ByteFixup.size_apply ..) fun i hi _ => ?_)
      exact ByteFixup.byteAt?_apply_beside fun _ hin =>
        Nat.not_le_of_lt hin.2 (Nat.le_trans (hfirst s hs) hi)

end Steps

/-! ## 2. Groups of bytes, and the walk through them -/

/-- **The tagged bytes of a map form groups**: of the width of their fixup, at multiples of four,
    and no two with a common byte. -/
structure Grouped (m : ConversionMap) (groups : List (Nat × ByteFixup)) : Prop where
  fixup_ne : ∀ g ∈ groups, g.2 ≠ .keep
  aligned : ∀ g ∈ groups, 4 ∣ g.1
  fits : ∀ g ∈ groups, g.1 + g.2.width ≤ m.stride
  eq_of_holds : ∀ g ∈ groups, ∀ g' ∈ groups, ∀ i, Holds g i → Holds g' i → g = g'
  tag_of_holds : ∀ g ∈ groups, ∀ i, Holds g i → m.tag i = g.2
  holds_of_tag : ∀ i, m.tag i ≠ .keep → ∃ g ∈ groups, Holds g i

/-- A place where the walk may be: a multiple of four that is not inside of a group, unless at its
    start. -/
def Boundary (groups : List (Nat × ByteFixup)) (j : Nat) : Prop :=
  4 ∣ j ∧ ∀ g ∈ groups, Holds g j → g.1 = j

theorem boundary_zero (groups : List (Nat × ByteFixup)) : Boundary groups 0 :=
  ⟨Nat.dvd_zero 4, fun _ _ h => Nat.le_zero.mp h.1⟩

theorem le_of_mem_planFrom {m : ConversionMap} {fuel j : Nat} {s : Nat × ByteFixup}
    (hs : s ∈ m.planFrom fuel j) : j ≤ s.1 := by
  induction fuel generalizing j with
  | zero => cases hs
  | succ fuel ih =>
    unfold planFrom at hs
    split at hs
    · rcases List.mem_cons.mp hs with rfl | hs
      · exact Nat.le_refl _
      · exact Nat.le_trans (Nat.le_add_right _ _) (ih hs)
    · cases hs

/-- Every step of the walk ends before the next. -/
theorem pairwise_planFrom (m : ConversionMap) (fuel j : Nat) :
    (m.planFrom fuel j).Pairwise fun s t => s.1 + s.2.width ≤ t.1 := by
  induction fuel generalizing j with
  | zero => exact List.Pairwise.nil
  | succ fuel ih =>
    unfold planFrom
    split
    · exact List.pairwise_cons.mpr ⟨fun t ht => le_of_mem_planFrom ht, ih _⟩
    · exact List.Pairwise.nil

theorem fix_eq_make (m : ConversionMap) (vertex : ByteArray) :
    m.fix vertex = make m.stride m.plan vertex := by
  unfold fix convertVertex make
  simp only [Nat.zero_add]

namespace Grouped

variable {m : ConversionMap} {groups : List (Nat × ByteFixup)} {fuel j v i : Nat}
  {s g : Nat × ByteFixup} {vertex data : ByteArray}

/-- At a boundary a tag is that of a group. -/
theorem mem_of_boundary (h : m.Grouped groups) (hj : Boundary groups j) (htag : m.tag j ≠ .keep) :
    (j, m.tag j) ∈ groups := by
  obtain ⟨g, hg, hholds⟩ := h.holds_of_tag j htag
  rw [h.tag_of_holds g hg j hholds, ← hj.2 g hg hholds]
  exact hg

theorem holds_start (g : Nat × ByteFixup) : Holds g g.1 :=
  ⟨Nat.le_refl _, Nat.lt_add_of_pos_right g.2.width_pos⟩

/-- **A step of the walk goes from boundary to boundary.** -/
theorem boundary_step (h : m.Grouped groups) (hj : Boundary groups j) :
    Boundary groups (j + (m.tag j).width) := by
  refine ⟨Nat.dvd_add hj.1 (ByteFixup.four_dvd_width _), fun g hg hholds => ?_⟩
  refine Decidable.byContradiction fun hne => ?_
  have hbefore : g.1 < j + (m.tag j).width := Nat.lt_of_le_of_ne hholds.1 hne
  by_cases htag : m.tag j = .keep
  · -- the group starts at the last boundary, or before it, and so holds it
    rw [htag] at hholds hbefore
    have haligned := h.aligned g hg
    have hdvd := hj.1
    have hstart : g.1 ≤ j := by
      simp only [ByteFixup.width] at hbefore
      omega
    have := h.tag_of_holds g hg j ⟨hstart, Nat.lt_of_le_of_lt (Nat.le_add_right _ _) hholds.2⟩
    exact h.fixup_ne g hg (this.symm.trans htag)
  · -- the group that the step is made on ends here
    have hstep := h.mem_of_boundary hj htag
    have hpos := (m.tag j).width_pos
    have hend := hholds.2
    have hsame : g = (j, m.tag j) :=
      h.eq_of_holds g hg _ hstep (j + (m.tag j).width - 1) ⟨by omega, by omega⟩
        ⟨by dsimp only; omega, by dsimp only; omega⟩
    rw [hsame] at hend
    exact Nat.lt_irrefl _ hend

/-- No step leaves out the start of a group. -/
theorem step_le (h : m.Grouped groups) (hj : Boundary groups j) (hg : g ∈ groups)
    (hlt : j < g.1) : j + (m.tag j).width ≤ g.1 := by
  refine Nat.le_of_not_lt fun hbefore => ?_
  by_cases htag : m.tag j = .keep
  · have haligned := h.aligned g hg
    have hdvd := hj.1
    rw [htag] at hbefore
    simp only [ByteFixup.width] at hbefore
    omega
  · have hsame := h.eq_of_holds g hg _ (h.mem_of_boundary hj htag) g.1 (holds_start g)
      ⟨Nat.le_of_lt hlt, hbefore⟩
    rw [hsame] at hlt
    exact Nat.lt_irrefl _ hlt

theorem mem_planFrom (h : m.Grouped groups) (hj : Boundary groups j)
    (hfuel : m.stride ≤ j + fuel) (hg : g ∈ groups) (hle : j ≤ g.1) :
    g ∈ m.planFrom fuel j := by
  have hfits := h.fits g hg
  have hpos := g.2.width_pos
  induction fuel generalizing j with
  | zero => omega
  | succ fuel ih =>
    unfold planFrom
    rw [if_pos (by omega)]
    by_cases hstart : g.1 = j
    · have htag := h.tag_of_holds g hg j (hstart ▸ holds_start g)
      rw [htag, ← hstart]
      exact List.mem_cons_self
    · have hpos' := (m.tag j).width_pos
      exact List.mem_cons_of_mem _ (ih (h.boundary_step hj) (by omega)
        (h.step_le hj hg (Nat.lt_of_le_of_ne hle (Ne.symm hstart))))

theorem of_mem_planFrom (h : m.Grouped groups) (hj : Boundary groups j)
    (hs : s ∈ m.planFrom fuel j) (hfix : s.2 ≠ .keep) : s ∈ groups := by
  induction fuel generalizing j with
  | zero => cases hs
  | succ fuel ih =>
    unfold planFrom at hs
    split at hs
    · rcases List.mem_cons.mp hs with rfl | hs
      · exact h.mem_of_boundary hj hfix
      · exact ih (h.boundary_step hj) hs
    · cases hs

/-- **The fixups that the walk makes are those of the groups.** -/
theorem mem_plan_iff (h : m.Grouped groups) (hfix : s.2 ≠ .keep) : s ∈ m.plan ↔ s ∈ groups :=
  ⟨fun hs => h.of_mem_planFrom (boundary_zero groups) hs hfix,
    fun hg => h.mem_planFrom (boundary_zero groups) (Nat.le_add_left _ _) hg (Nat.zero_le _)⟩

/-- A vertex converted has the fixup of each group made on it. -/
theorem extract_fix (h : m.Grouped groups) (hg : g ∈ groups) (hsize : vertex.size = m.stride) :
    (m.fix vertex).extract g.1 (g.1 + g.2.width) =
      g.2.onGroup (vertex.extract g.1 (g.1 + g.2.width)) := by
  have hfix := h.fixup_ne g hg
  rw [fix_eq_make]
  exact extract_make hsize (m.pairwise_planFrom _ _) ((h.mem_plan_iff hfix).mpr hg) hfix
    (h.fits g hg)

/-- The bytes of a vertex that are in no group stay. -/
theorem byteAt?_fix (h : m.Grouped groups) (hi : ∀ g ∈ groups, ¬ Holds g i) :
    Bytes.byteAt? (m.fix vertex) i = Bytes.byteAt? vertex i := by
  rw [fix_eq_make]
  exact byteAt?_make fun s hs hfix => hi s ((h.mem_plan_iff hfix).mp hs)

/-! ## 3. Every vertex -/

/-- Each group of each complete vertex is converted. -/
theorem extract_convertAll (h : m.Grouped groups) (hg : g ∈ groups)
    (hv : v < data.size / m.stride) :
    (m.convertAll data).extract (v * m.stride + g.1) (v * m.stride + g.1 + g.2.width) =
      g.2.onGroup (data.extract (v * m.stride + g.1) (v * m.stride + g.1 + g.2.width)) := by
  have hfits := h.fits g hg
  have hvertex (d : ByteArray) : (m.vertex d v).extract g.1 (g.1 + g.2.width) =
      d.extract (v * m.stride + g.1) (v * m.stride + g.1 + g.2.width) := by
    unfold vertex
    rw [ByteArray.extract_extract, Nat.min_eq_left (by omega), Nat.add_assoc]
  have hsize : (m.vertex data v).size = m.stride := by
    have := m.vertex_fits hv
    unfold vertex
    rw [ByteArray.size_extract]
    omega
  rw [← hvertex, ← hvertex, m.vertex_convertAll hv, h.extract_fix hg hsize]

/-- The bytes that are in no group of any vertex stay. -/
theorem byteAt?_convertAll (h : m.Grouped groups) (hi : ∀ v < data.size / m.stride,
      ∀ g ∈ groups, ¬ (v * m.stride + g.1 ≤ i ∧ i < v * m.stride + g.1 + g.2.width)) :
    Bytes.byteAt? (m.convertAll data) i = Bytes.byteAt? data i := by
  by_cases hin : i < data.size / m.stride * m.stride
  · obtain ⟨hv, hb⟩ := m.byte_in_vertex hin
    have hplace := Nat.div_add_mod' i m.stride
    rw [← hplace, ← m.byteAt?_vertex (by rw [size_convertAll]; exact hv) hb,
      ← m.byteAt?_vertex hv hb, m.vertex_convertAll hv]
    refine h.byteAt?_fix fun g hg hholds => hi _ hv g hg ?_
    have hlow := hholds.1
    have hhigh := hholds.2
    omega
  · exact m.byteAt?_convertAll (Nat.le_of_not_lt hin)

end Grouped

/-- One span over everything touches every vertex once. -/
theorem convert_whole (m : ConversionMap) (hstride : m.stride ≠ 0) (data : ByteArray) :
    m.convert data [⟨0, data.size⟩] = m.convertAll data := by
  have htouched : m.touched data.size ⟨0, data.size⟩ = List.range (data.size / m.stride) := by
    unfold touched ByteRange.stop
    dsimp only
    rw [Nat.zero_div, Nat.zero_add, Nat.min_eq_right (Nat.le_succ _), Nat.sub_zero]
    simp only [Nat.zero_add, List.map_id']
  rw [m.convert_eq hstride, List.flatMap_singleton, htouched]
  rfl

end ConversionMap

/-! ## 4. Layouts that a vertex can be walked with -/

/-- Where the attribute of a vertex starts in the content. -/
def VertexAttribute.place (e : VertexAttribute) (stride v : Nat) : Nat :=
  v * stride + e.offset % stride

/-- An attribute that does not leave the vertex lies on the bytes from its offset on. -/
theorem VertexAttribute.covers_iff {e : VertexAttribute} {stride i : Nat}
    (hfits : e.offset % stride + e.format.width ≤ stride) :
    e.Covers stride i ↔ e.offset % stride ≤ i ∧ i < e.offset % stride + e.format.width := by
  have hinside {k : Nat} (hk : k < e.format.width) :
      (e.offset + k) % stride = e.offset % stride + k := by
    rw [← Nat.mod_add_mod, Nat.mod_eq_of_lt (by omega)]
  constructor
  · rintro ⟨k, hk, rfl⟩
    rw [hinside hk]
    omega
  · rintro ⟨hlow, hhigh⟩
    refine ⟨i - e.offset % stride, by omega, ?_⟩
    rw [hinside (by omega)]
    omega

namespace VertexLayout

/-- **Interleaved attributes at multiples of four**, none of which leaves the vertex. -/
structure Walkable (l : VertexLayout) (buffer : BufferId) (stride : Nat) : Prop
    extends l.Interleaved buffer stride where
  stride_dvd : 4 ∣ stride
  offset_dvd : ∀ a ∈ l.fed buffer, 4 ∣ a.2.offset % stride
  fits : ∀ a ∈ l.fed buffer, a.2.offset % stride + a.2.format.width ≤ stride

/-- The groups of bytes that the attributes of a layout need to have converted. -/
def groups (l : VertexLayout) (buffer : BufferId) (fixup : FixupFlags) (stride : Nat) :
    List (Nat × ByteFixup) :=
  ((l.fed buffer).filter fun a => l.needs fixup a.1 a.2 ≠ .keep).map
    fun a => (a.2.offset % stride, l.needs fixup a.1 a.2)

variable {l : VertexLayout} {buffer : BufferId} {fixup : FixupFlags} {stride i : Nat}
  {a : AttributeSlot × VertexAttribute} {g : Nat × ByteFixup}

theorem mem_groups : g ∈ l.groups buffer fixup stride ↔ ∃ a ∈ l.fed buffer,
    l.needs fixup a.1 a.2 ≠ .keep ∧ (a.2.offset % stride, l.needs fixup a.1 a.2) = g := by
  unfold groups
  simp only [List.mem_map, List.mem_filter, decide_eq_true_eq, and_assoc]

/-- The fixup that an attribute needs is as wide as the attribute. -/
theorem width_needs (h : l.Convertible buffer fixup) (ha : a ∈ l.fed buffer)
    (hneeds : l.needs fixup a.1 a.2 ≠ .keep) :
    (l.needs fixup a.1 a.2).width = a.2.format.width := by
  unfold needs at hneeds ⊢
  split
  · rename_i hcolor
    rw [eq_of_beq (Bool.and_eq_true_iff.mp hcolor).2]
    rfl
  · split
    · rename_i hposition
      simp only [Bool.and_eq_true, beq_iff_eq] at hposition
      rw [h a ha hposition.1.1 hposition.1.2 hposition.2]
      rfl
    · rename_i hcolor hposition
      rw [if_neg hcolor, if_neg hposition] at hneeds
      exact absurd rfl hneeds

theorem needs_of_color (hformat : a.2.format = .b8g8r8a8Unorm)
    (hcolor : fixup.has FixupFlags.color = true) : l.needs fixup a.1 a.2 = .color := by
  unfold needs
  rw [hcolor, hformat]
  rfl

theorem needs_of_position (h : l.Convertible buffer fixup) (ha : a ∈ l.fed buffer)
    (hslot : a.1 = .position) (hposition : fixup.has FixupFlags.position = true)
    (htransformed : l.transformed = true) : l.needs fixup a.1 a.2 = .position := by
  have hformat := h a ha hslot hposition htransformed
  unfold needs
  simp [hslot, hposition, htransformed, hformat]

/-- Where an attribute needs a fixup, there is one to make. -/
theorem isEmpty_of_needs {slot : AttributeSlot} {e : VertexAttribute}
    (hneeds : l.needs fixup slot e ≠ .keep) : fixup.isEmpty = false := by
  refine Bool.eq_false_iff.mpr fun hempty => hneeds ?_
  rw [(FlagSet.isEmpty_iff fixup).mp hempty]
  unfold needs
  rw [show FlagSet.has ∅ FixupFlags.color = false by decide,
    show FlagSet.has ∅ FixupFlags.position = false by decide]
  simp

/-- The bytes of a group are those that its attribute lies on. -/
theorem Walkable.holds_iff (hl : l.Walkable buffer stride)
    (hconvertible : l.Convertible buffer fixup) (ha : a ∈ l.fed buffer)
    (hneeds : l.needs fixup a.1 a.2 ≠ .keep) :
    ConversionMap.Holds (a.2.offset % stride, l.needs fixup a.1 a.2) i ↔ a.2.Covers stride i := by
  rw [VertexAttribute.covers_iff (hl.fits a ha), ← width_needs hconvertible ha hneeds]
  exact Iff.rfl

/-- The attribute of a complete vertex lies within the content. -/
theorem Walkable.place_fits (hl : l.Walkable buffer stride) (ha : a ∈ l.fed buffer) {size v : Nat}
    (hv : v < size / stride) : a.2.place stride v + a.2.format.width ≤ size := by
  have hfits := hl.fits a ha
  have hvertex := Nat.mul_le_mul_right stride (Nat.succ_le_of_lt hv)
  have hsize := Nat.div_mul_le_self size stride
  rw [Nat.succ_mul] at hvertex
  unfold VertexAttribute.place
  omega

end VertexLayout

namespace ConversionState

open ConversionMap

variable {buffer : BufferId} {layout : VertexLayout} {fixup : FixupFlags} {stride : Nat}

theorem sound_fresh : fresh.Sound := Reached.fresh.sound

/-- **The first analysis leaves the groups of the layout.** -/
theorem grouped_painted (hl : layout.Walkable buffer stride)
    (hconvertible : layout.Convertible buffer fixup) :
    (fresh.painted buffer layout fixup stride).Grouped (layout.groups buffer fixup stride) := by
  have hinterleaved := hl.toInterleaved
  obtain ⟨hregular, hstride⟩ := regular_painted buffer layout fixup sound_fresh hl.stride_ne
  have htag {a : AttributeSlot × VertexAttribute} (ha : a ∈ layout.fed buffer) {i : Nat}
      (hc : a.2.Covers stride i) :
      (fresh.painted buffer layout fixup stride).tag i = layout.needs fixup a.1 a.2 :=
    tag_painted_of_covers sound_fresh hinterleaved (hconvertible.demanded ha) hc
  constructor
  case fixup_ne =>
    intro g hg
    obtain ⟨a, -, hneeds, rfl⟩ := VertexLayout.mem_groups.mp hg
    exact hneeds
  case aligned =>
    intro g hg
    obtain ⟨a, ha, -, rfl⟩ := VertexLayout.mem_groups.mp hg
    exact hl.offset_dvd a ha
  case fits =>
    intro g hg
    obtain ⟨a, ha, hneeds, rfl⟩ := VertexLayout.mem_groups.mp hg
    rw [hstride, VertexLayout.width_needs hconvertible ha hneeds]
    exact hl.fits a ha
  case eq_of_holds =>
    intro g hg g' hg' i hi hi'
    obtain ⟨a, ha, hneeds, rfl⟩ := VertexLayout.mem_groups.mp hg
    obtain ⟨a', ha', hneeds', rfl⟩ := VertexLayout.mem_groups.mp hg'
    rw [hl.holds_iff hconvertible ha hneeds] at hi
    rw [hl.holds_iff hconvertible ha' hneeds'] at hi'
    have hlt : i < stride := by
      obtain ⟨k, -, rfl⟩ := hi
      exact Nat.mod_lt _ (Nat.pos_of_ne_zero hl.stride_ne)
    by_cases hsame : a = a'
    · rw [hsame]
    · exact absurd ⟨hi, hi'⟩ (hinterleaved.apart_of_ne ha ha' hsame i hlt)
  case tag_of_holds =>
    intro g hg i hi
    obtain ⟨a, ha, hneeds, rfl⟩ := VertexLayout.mem_groups.mp hg
    exact htag ha ((hl.holds_iff hconvertible ha hneeds).mp hi)
  case holds_of_tag =>
    -- a byte that is tagged is not free, and so an attribute lies on it
    intro i hi
    have hlt : i < stride := by
      refine Nat.lt_of_not_le fun hle => hi (tag_of_le ?_)
      rw [hregular.size, hstride]
      exact hle
    have hcovered : ¬ layout.Free buffer fixup stride i := fun hfree =>
      hi (tag_painted_of_free sound_fresh hl.stride_ne hlt hfree)
    obtain ⟨d, hd, hc⟩ := VertexLayout.not_free.mp hcovered
    obtain ⟨slot, hfed, hfixup⟩ := VertexLayout.mem_demands hd
    have hneeds : layout.needs fixup slot d.element ≠ .keep := by
      rw [← htag hfed hc]
      exact hi
    exact ⟨_, VertexLayout.mem_groups.mpr ⟨_, hfed, hneeds, rfl⟩,
      (hl.holds_iff hconvertible hfed hneeds).mpr hc⟩

/-- The fixup that an attribute needs is made on it in every complete vertex. -/
theorem extract_converted {data : ByteArray} {v : Nat} {a : AttributeSlot × VertexAttribute}
    (hl : layout.Walkable buffer stride) (hconvertible : layout.Convertible buffer fixup)
    (hv : v < data.size / stride) (ha : a ∈ layout.fed buffer)
    (hneeds : layout.needs fixup a.1 a.2 ≠ .keep) :
    let start := a.2.place stride v
    let width := (layout.needs fixup a.1 a.2).width
    ((fresh.painted buffer layout fixup stride).convertAll data).extract start (start + width) =
      (layout.needs fixup a.1 a.2).onGroup (data.extract start (start + width)) := by
  have hstride := (regular_painted buffer layout fixup sound_fresh hl.stride_ne).2
  rw [← hstride] at hv
  have hmade := (grouped_painted hl hconvertible).extract_convertAll
    (VertexLayout.mem_groups.mpr ⟨a, ha, hneeds, rfl⟩) hv
  rw [hstride] at hmade
  exact hmade

/-- A byte that no attribute needs to have converted stays. -/
theorem byteAt?_converted {data : ByteArray} {i : Nat} (hl : layout.Walkable buffer stride)
    (hconvertible : layout.Convertible buffer fixup)
    (hi : ∀ v < data.size / stride, ∀ a ∈ layout.fed buffer, layout.needs fixup a.1 a.2 ≠ .keep →
      ¬ (a.2.place stride v ≤ i ∧ i < a.2.place stride v + a.2.format.width)) :
    Bytes.byteAt? ((fresh.painted buffer layout fixup stride).convertAll data) i =
      Bytes.byteAt? data i := by
  have hstride := (regular_painted buffer layout fixup sound_fresh hl.stride_ne).2
  refine (grouped_painted hl hconvertible).byteAt?_convertAll fun v hv g hg hin => ?_
  obtain ⟨a, ha, hneeds, rfl⟩ := VertexLayout.mem_groups.mp hg
  rw [hstride] at hv hin
  refine hi v hv a ha hneeds ?_
  rw [← VertexLayout.width_needs hconvertible ha hneeds]
  exact hin

/-- **Analysis and conversion convert the declared attributes, and nothing else.** If some attribute
    needs a fixup, a new buffer has a map after the analysis. Converted with it, all at once, any
    content has in every complete vertex red and blue exchanged in the colors and the position
    brought back to homogeneous coordinates, where they need it, and every other byte as it was.
    Of a position it is said twice: as the fixup of its 16 bytes, which fixes the patterns that are
    no numbers, and by what becomes of the numbers in its lanes. -/
theorem declared_attributes_converted (staticDecl : Bool) (hl : layout.Walkable buffer stride)
    (hconvertible : layout.Convertible buffer fixup)
    (hneeds : ∃ a ∈ layout.fed buffer, layout.needs fixup a.1 a.2 ≠ .keep) :
    ∃ m, (fresh.analyse buffer layout fixup staticDecl).conversion.map = some m ∧
      ∀ data : ByteArray,
        let out := m.convert data [⟨0, data.size⟩]
        out.size = data.size ∧
        (∀ v < data.size / stride, ∀ a ∈ layout.fed buffer,
          let start := a.2.place stride v
          (a.2.format = .b8g8r8a8Unorm → fixup.has FixupFlags.color = true → ∀ k < 4,
            Bytes.byteAt? out (start + k) = Bytes.byteAt? data (start + swappedChannel k)) ∧
          (a.1 = .position → fixup.has FixupFlags.position = true → layout.transformed = true →
            out.extract start (start + 16) = dehomogenize (data.extract start (start + 16)) ∧
            Dehomogenized (coordinate data start) (coordinate out start))) ∧
        ∀ i, (∀ v < data.size / stride, ∀ a ∈ layout.fed buffer,
            layout.needs fixup a.1 a.2 ≠ .keep →
              ¬ (a.2.place stride v ≤ i ∧ i < a.2.place stride v + a.2.format.width)) →
          Bytes.byteAt? out i = Bytes.byteAt? data i := by
  obtain ⟨a₀, ha₀, hneeds₀⟩ := hneeds
  have hstride := (regular_painted buffer layout fixup sound_fresh hl.stride_ne).2
  refine ⟨_, map_analyse_of_needs sound_fresh rfl (VertexLayout.isEmpty_of_needs hneeds₀)
    hl.toInterleaved hconvertible ha₀ hneeds₀, fun data => ?_⟩
  rw [convert_whole _ (hstride.symm ▸ hl.stride_ne)]
  refine ⟨size_convertAll _ _, fun v hv a ha =>
    ⟨fun hformat hcolor k hk => ?_, fun hslot hposition htransformed => ?_⟩,
    fun i hi => byteAt?_converted hl hconvertible hi⟩
  · have hneeds := VertexLayout.needs_of_color (l := layout) hformat hcolor
    have hmade := extract_converted hl hconvertible hv ha (by rw [hneeds]; nofun)
    have hfit := hl.place_fits ha hv
    rw [hneeds] at hmade
    rw [hformat] at hfit
    exact byteAt?_of_extract_swapRedBlue hmade (size_convertAll _ _) hfit hk
  · have hneeds := VertexLayout.needs_of_position hconvertible ha hslot hposition htransformed
    have hmade := extract_converted hl hconvertible hv ha (by rw [hneeds]; nofun)
    have hfit := hl.place_fits ha hv
    rw [hneeds] at hmade
    rw [hconvertible a ha hslot hposition htransformed] at hfit
    exact ⟨hmade, dehomogenized_of_extract hmade (size_convertAll _ _) hfit⟩

/-- Two such vertices, at `(4, 6, 8)` with a `w` of two and at `(4, 6, 8)` with a `w` of one. -/
def windowVertices : ByteArray :=
  ⟨#[0, 0, 0x80, 0x40, 0, 0, 0xc0, 0x40, 0, 0, 0, 0x41, 0, 0, 0, 0x40, 1, 2, 3, 4,
    0, 0, 0x80, 0x40, 0, 0, 0xc0, 0x40, 0, 0, 0, 0x41, 0, 0, 0x80, 0x3f, 5, 6, 7, 8]⟩

/-- Converted, the first is at `(2, 3, 4)` with a `w` of one half, and the position of the second is
    as it was. Of the color of the second, red is where blue was. -/
theorem declared_attributes_converted_window :
    windowLayout.Walkable ⟨0⟩ 20 ∧ windowLayout.Convertible ⟨0⟩ everyFixup ∧
      ∃ m, behindWindow.map = some m ∧
        let out := m.convert windowVertices [⟨0, windowVertices.size⟩]
        (List.range 4).map (fun k => Float32.ofBits (coordinate out 0 k)) = [2, 3, 4, 0.5] ∧
        (List.range 4).map (coordinate out 20) = (List.range 4).map (coordinate windowVertices 20) ∧
        Bytes.byteAt? out 36 = some 7 := by
  have hl : windowLayout.Walkable ⟨0⟩ 20 :=
    ⟨⟨by decide, by decide, by decide⟩, by decide, by decide, by decide⟩
  have hconvertible : windowLayout.Convertible ⟨0⟩ everyFixup := by decide
  have hposition : (.position, ⟨.r32g32b32a32Float, 20, 0, ⟨0⟩⟩) ∈ windowLayout.fed ⟨0⟩ := by decide
  have hcolor : (.diffuse, ⟨.b8g8r8a8Unorm, 20, 16, ⟨0⟩⟩) ∈ windowLayout.fed ⟨0⟩ := by decide
  obtain ⟨m, hm, hconvert⟩ := declared_attributes_converted false hl hconvertible
    ⟨_, hcolor, by decide⟩
  obtain ⟨-, hvertex, -⟩ := hconvert windowVertices
  have hfirst := ((hvertex 0 (by decide) _ hposition).2 rfl (by decide) (by decide)).2
  have hsecond := ((hvertex 1 (by decide) _ hposition).2 rfl (by decide) (by decide)).2
  refine ⟨hl, hconvertible, m, hm, ?_, ?_,
    ((hvertex 1 (by decide) _ hcolor).1 rfl (by decide) 0 (by decide))⟩
  · have hw : ¬ Homogeneous (coordinate windowVertices 0) := by decide +kernel
    let lane (k : Nat) := Float32.ofBits (coordinate windowVertices 0 k)
    calc (List.range 4).map (fun k => Float32.ofBits (coordinate _ 0 k))
        = (List.range 4).map (fun k => if k < 3 then lane k * (1 / lane 3) else 1 / lane 3) :=
          List.map_congr_left fun k hk => ?_
      _ = [2, 3, 4, 0.5] := by decide +kernel
    split
    · next hlt => exact hfirst.scaled hw k hlt
    · next hge =>
      obtain rfl : k = 3 := by
        have := List.mem_range.mp hk
        omega
      exact hfirst.inverted hw
  · have hw : Homogeneous (coordinate windowVertices 20) := by decide +kernel
    exact List.map_congr_left fun k hk => hsecond.kept hw k (List.mem_range.mp hk)

end ConversionState

end BufferCoherence
