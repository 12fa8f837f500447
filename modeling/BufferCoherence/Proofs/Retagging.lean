import BufferCoherence.Proofs.Surveys
import BufferCoherence.FlagSet.Catalogue
import Mathlib.Data.List.Pairwise

/-!
# Layouts of interleaved attributes

The usual layout has the attributes of a buffer interleaved: they share one stride, and no two of
them lie on one byte (`VertexLayout.Interleaved`). What its analysis leaves is the demands painted
over the map that was there before, as far as that has the stride (`Painting.tag_foldl`).

* **`covered_bytes_tagged`**: whatever layouts were analysed before, each byte of an attribute is
  tagged as the attribute needs it.
* **`map_analyse_eq_iff`**: a byte that no attribute lies on keeps its tag. So two histories leave
  the same map exactly if they agree on these bytes, and the map goes away exactly if neither an
  attribute nor one of these bytes needs a fixup.
* `stale_position_stays` is a layout behind another one: four bytes of the old position stay tagged
  between the new position and the color, and the walk over the vertex misses the color.
-/

namespace BufferCoherence

open ConversionMap

/-! ## 1. Demands painted one after another -/

namespace Painting

variable {m : ConversionMap} {ds : List Demand} {stride i : Nat} {f : ByteFixup}

theorem regular_foldl (h : m.Regular) (ds : List Demand) :
    (ds.foldl paint m).Regular ∧ (ds.foldl paint m).stride = m.stride := by
  induction ds generalizing m with
  | nil => exact ⟨h, rfl⟩
  | cons d rest ih => exact ih (h.paint d)

/-- **The tag of a byte** after demands that agree on it: theirs, if one of them covers it, and else
    the one that it had. -/
theorem tag_foldl (h : m.Regular) (hi : i < m.stride)
    (hagree : ∀ d ∈ ds, d.element.Covers m.stride i → d.fixup = f) :
    (ds.foldl paint m).tag i =
      if ∃ d ∈ ds, d.element.Covers m.stride i then f else m.tag i := by
  induction ds generalizing m with
  | nil => exact (if_neg fun ⟨d, hd, _⟩ => nomatch hd).symm
  | cons d rest ih =>
    rw [List.foldl_cons, ih (h.paint d) hi fun d' hd' => hagree d' (List.mem_cons_of_mem _ hd'),
      stride_paint, h.tag_paint hi]
    by_cases hd : d.element.Covers m.stride i
    · rw [if_pos hd, hagree d List.mem_cons_self hd, ite_self,
        if_pos ⟨d, List.mem_cons_self, hd⟩]
    · rw [if_neg hd]
      simp only [List.mem_cons, exists_eq_or_imp, hd, false_or]

/-- Two demands that lie on one byte ask for the same. -/
def Agree (stride : Nat) (ds : List Demand) : Prop :=
  ∀ d ∈ ds, ∀ d' ∈ ds, ∀ i < stride, d.element.Covers stride i → d'.element.Covers stride i →
    d.fixup = d'.fixup

instance (stride : Nat) (ds : List Demand) : Decidable (Agree stride ds) :=
  inferInstanceAs (Decidable (∀ d ∈ ds, ∀ d' ∈ ds, ∀ i < stride, _))

/-- Demands that agree are met when all are painted. -/
theorem meets_foldl (h : m.Regular) (hagree : Agree m.stride ds) {d : Demand} (hd : d ∈ ds) :
    (ds.foldl paint m).Meets d := by
  refine meets_of_covers fun i hc => ?_
  rw [(regular_foldl h ds).2] at hc
  have hi : i < m.stride := by
    obtain ⟨k, -, rfl⟩ := hc
    exact Nat.mod_lt _ (Nat.pos_of_ne_zero h.stride_ne)
  rw [tag_foldl h hi (f := d.fixup) fun d' hd' hc' => hagree d' hd' d hd i hi hc' hc,
    if_pos ⟨d, hd, hc⟩]

/-- A byte outside of all demands keeps its tag. -/
theorem tag_foldl_of_uncovered (h : m.Regular) (hi : i < m.stride)
    (hfree : ∀ d ∈ ds, ¬ d.element.Covers m.stride i) : (ds.foldl paint m).tag i = m.tag i := by
  rw [tag_foldl h hi (f := .keep) fun d hd hc => absurd hc (hfree d hd),
    if_neg fun ⟨d, hd, hc⟩ => hfree d hd hc]

theorem paint_keep_plain {d : Demand} (h : d.fixup = .keep) :
    (plain stride).paint d = plain stride := by
  refine paint_of_meets fun k _ => ?_
  rw [tag_plain, h]

/-- What is not heeded would paint nothing. -/
theorem foldl_heeded (map : Option ConversionMap) (hstride : ∀ d ∈ ds, d.element.stride ≠ 0) :
    (heeded map ds).foldl paint (ground map stride) = ds.foldl paint (ground map stride) := by
  cases map with
  | some m => rfl
  | none =>
    induction ds with
    | nil => rfl
    | cons d rest ih =>
      have hrest : ∀ d' ∈ rest, d'.element.stride ≠ 0 :=
        fun d' hd' => hstride d' (List.mem_cons_of_mem _ hd')
      by_cases hidle : d.Idle
      · have hkeep : d.fixup = .keep := hidle.resolve_right (hstride d List.mem_cons_self)
        rw [heeded_of_idle hidle, ih hrest, List.foldl_cons, ground_none, paint_keep_plain hkeep]
      · rw [heeded_of_head hidle]

end Painting

/-! ## 2. Interleaved attributes -/

/-- Two attributes do not lie on one byte of a vertex. -/
def VertexAttribute.Apart (stride : Nat) (e e' : VertexAttribute) : Prop :=
  ∀ i < stride, ¬ (e.Covers stride i ∧ e'.Covers stride i)

instance (stride : Nat) (e e' : VertexAttribute) : Decidable (e.Apart stride e') :=
  inferInstanceAs (Decidable (∀ i < stride, ¬ (_ ∧ _)))

namespace VertexLayout

variable {l : VertexLayout} {buffer : BufferId} {fixup : FixupFlags} {stride : Nat}

/-- **The attributes that a buffer feeds are interleaved**: they have one stride, and no two of them
    lie on one byte of a vertex. -/
structure Interleaved (l : VertexLayout) (buffer : BufferId) (stride : Nat) : Prop where
  stride_ne : stride ≠ 0
  stride_eq : ∀ a ∈ l.fed buffer, a.2.stride = stride
  apart : (l.fed buffer).Pairwise fun a b => a.2.Apart stride b.2

/-- The position of a transformed layout has a format that can be converted. -/
def Convertible (l : VertexLayout) (buffer : BufferId) (fixup : FixupFlags) : Prop :=
  ∀ a ∈ l.fed buffer, a.1 = .position → fixup.has FixupFlags.position = true →
    l.transformed = true → a.2.format = .r32g32b32a32Float

instance (l : VertexLayout) (buffer : BufferId) (fixup : FixupFlags) :
    Decidable (l.Convertible buffer fixup) :=
  inferInstanceAs (Decidable (∀ a ∈ l.fed buffer, _))

/-- Nothing that the layout demands lies on the byte. -/
def Free (l : VertexLayout) (buffer : BufferId) (fixup : FixupFlags) (stride i : Nat) : Prop :=
  ∀ d ∈ l.demands buffer fixup, ¬ d.element.Covers stride i

instance (l : VertexLayout) (buffer : BufferId) (fixup : FixupFlags) (stride i : Nat) :
    Decidable (l.Free buffer fixup stride i) :=
  inferInstanceAs (Decidable (∀ d ∈ l.demands buffer fixup, ¬ _))

theorem not_free {i : Nat} : ¬ l.Free buffer fixup stride i ↔
    ∃ d ∈ l.demands buffer fixup, d.element.Covers stride i := by
  simp only [Free, not_forall, not_not, exists_prop]

/-- In a convertible layout every attribute demands what it needs. -/
theorem Convertible.demanded (h : l.Convertible buffer fixup) {a : AttributeSlot × VertexAttribute}
    (ha : a ∈ l.fed buffer) :
    (⟨a.2, l.needs fixup a.1 a.2⟩ : Demand) ∈ l.demands buffer fixup :=
  List.mem_filterMap.mpr ⟨a, ha, demand?_isSome (h a ha)⟩

namespace Interleaved

theorem stride_demands (h : l.Interleaved buffer stride) :
    ∀ d ∈ l.demands buffer fixup, d.element.stride = stride := by
  intro d hd
  obtain ⟨slot, hfed, -⟩ := mem_demands hd
  exact h.stride_eq _ hfed

theorem apart_of_ne (h : l.Interleaved buffer stride) {a b : AttributeSlot × VertexAttribute}
    (ha : a ∈ l.fed buffer) (hb : b ∈ l.fed buffer) (hne : a ≠ b) : a.2.Apart stride b.2 :=
  have : Std.Symm fun a b : AttributeSlot × VertexAttribute => a.2.Apart stride b.2 :=
    ⟨fun _ _ hab i hi hboth => hab i hi hboth.symm⟩
  h.apart.forall ha hb hne

/-- Interleaved attributes demand nothing different of one byte. -/
theorem agree (h : l.Interleaved buffer stride) :
    Painting.Agree stride (l.demands buffer fixup) := by
  intro d hd d' hd' i hi hc hc'
  obtain ⟨slot, hfed, hfixup⟩ := mem_demands hd
  obtain ⟨slot', hfed', hfixup'⟩ := mem_demands hd'
  by_cases hsame : (slot, d.element) = (slot', d'.element)
  · obtain ⟨rfl, helement⟩ := Prod.mk.inj hsame
    rw [hfixup, hfixup', helement]
  · exact absurd ⟨hc, hc'⟩ (h.apart_of_ne hfed hfed' hsame i hi)

end Interleaved

end VertexLayout

/-! ## 3. What the analysis leaves -/

namespace ConversionState

variable {c c₁ c₂ : ConversionState} {buffer : BufferId} {layout : VertexLayout}
  {fixup : FixupFlags} {stride : Nat}

/-- The map with what the layout demands painted over what was there. -/
def painted (c : ConversionState) (buffer : BufferId) (layout : VertexLayout)
    (fixup : FixupFlags) (stride : Nat) : ConversionMap :=
  (layout.demands buffer fixup).foldl paint (ground c.map stride)

theorem regular_ground_map (h : c.Sound) (hstride : stride ≠ 0) :
    (ground c.map stride).Regular :=
  regular_ground (fun m hm => (h m hm).1) (.inr hstride)

theorem regular_painted (buffer : BufferId) (layout : VertexLayout) (fixup : FixupFlags)
    (h : c.Sound) (hstride : stride ≠ 0) :
    (c.painted buffer layout fixup stride).Regular ∧
      (c.painted buffer layout fixup stride).stride = stride := by
  have hfold := Painting.regular_foldl (regular_ground_map h hstride)
    (layout.demands buffer fixup)
  exact ⟨hfold.1, hfold.2.trans (stride_ground c.map hstride)⟩

/-- Where nothing is heeded no map is left: there was none, or there are no demands. -/
theorem map_analyse_of_unheeded {staticDecl : Bool} (hfirst : (c.analysed && staticDecl) = false)
    (hfixup : fixup.isEmpty = false) (h : heeded c.map (layout.demands buffer fixup) = []) :
    (c.analyse buffer layout fixup staticDecl).conversion.map = none := by
  have hrun : c.survey buffer layout fixup = .start c.map := by
    unfold survey
    rw [Survey.foldl_heeded, show (Survey.start c.map).map = c.map from rfl, h]
    rfl
  rw [(analyse_of_layout hfirst hfixup).2, hrun]
  cases c.map with
  | none => rfl
  | some m => rfl

/-- The analysis of demands of one stride, as far as they are heeded. -/
theorem map_analyse_of_uniform {staticDecl : Bool}
    (hfirst : (c.analysed && staticDecl) = false) (hfixup : fixup.isEmpty = false)
    (hstride : stride ≠ 0) (hne : heeded c.map (layout.demands buffer fixup) ≠ [])
    (huniform : ∀ d ∈ heeded c.map (layout.demands buffer fixup), d.element.stride = stride) :
    let painted := (heeded c.map (layout.demands buffer fixup)).foldl paint (ground c.map stride)
    (c.analyse buffer layout fixup staticDecl).conversion.map =
      if painted.hasFixup = true then some painted else none := by
  intro painted
  obtain ⟨hclear, hs, hmap⟩ := Survey.foldl_start_of_uniform hstride hne huniform
  have hclear' : ¬ (c.survey buffer layout fixup).conflict = true := fun h =>
    nomatch h.symm.trans hclear
  rw [(analyse_of_layout hfirst hfixup).2, if_neg hclear']
  unfold survey
  split
  · rename_i hfix
    rw [Survey.finish_of_useful hmap (by rw [hs]; exact hstride) hfix, hmap]
  · rename_i hfix
    rw [Survey.finish_of_unused hmap (.inr (Bool.eq_false_iff.mpr hfix))]

/-- **The analysis of interleaved attributes** leaves their demands painted over what was there,
    unless there are none or no byte is left to convert. -/
theorem map_analyse_of_interleaved {staticDecl : Bool}
    (hfirst : (c.analysed && staticDecl) = false) (hfixup : fixup.isEmpty = false)
    (hl : layout.Interleaved buffer stride) :
    (c.analyse buffer layout fixup staticDecl).conversion.map =
      if layout.demands buffer fixup ≠ [] ∧ (c.painted buffer layout fixup stride).hasFixup = true
      then some (c.painted buffer layout fixup stride) else none := by
  have huniform : ∀ d ∈ layout.demands buffer fixup, d.element.stride = stride :=
    hl.stride_demands
  have hstrides : ∀ d ∈ layout.demands buffer fixup, d.element.stride ≠ 0 :=
    fun d hd => (huniform d hd).symm ▸ hl.stride_ne
  have hpainted : (heeded c.map (layout.demands buffer fixup)).foldl paint (ground c.map stride) =
      c.painted buffer layout fixup stride := Painting.foldl_heeded c.map hstrides
  by_cases hne : heeded c.map (layout.demands buffer fixup) = []
  · rw [map_analyse_of_unheeded hfirst hfixup hne, if_neg]
    rintro ⟨hdemands, hfix⟩
    cases hmap : c.map with
    | some m => exact hdemands (by rw [← hne, hmap, heeded_some])
    | none =>
      -- what is painted is the plain map
      rw [← hpainted, hne, hmap] at hfix
      obtain ⟨i, -, htag⟩ := (regular_plain hl.stride_ne).hasFixup_iff.mp hfix
      exact htag (tag_plain i)
  · have hdemands : layout.demands buffer fixup ≠ [] := fun h => hne (by
      rw [h]
      cases c.map <;> rfl)
    have hmap : (c.analyse buffer layout fixup staticDecl).conversion.map = _ :=
      map_analyse_of_uniform hfirst hfixup hl.stride_ne hne
        fun d hd => huniform d (mem_of_heeded hd)
    rw [hpainted] at hmap
    rw [hmap]
    simp only [ne_eq, hdemands, not_false_eq_true, true_and]

/-! ## 4. Bytes that an attribute lies on -/

/-- Both fixups. -/
def everyFixup : FixupFlags := FixupFlags.color ∪ FixupFlags.position

/-- A position in window coordinates and a color behind it, 20 bytes in all. -/
def windowLayout : VertexLayout :=
  ((VertexLayout.empty true).set .position (some ⟨.r32g32b32a32Float, 20, 0, ⟨0⟩⟩)).set
    .diffuse (some ⟨.b8g8r8a8Unorm, 20, 16, ⟨0⟩⟩)

/-- One vertex of it. -/
def windowVertex : ByteArray :=
  ⟨#[0, 0, 0, 0, 0, 0, 0, 0, 0, 0, 0, 0, 0, 0, 0, 0, 1, 2, 3, 4]⟩

/-- A new buffer, after that layout. -/
def behindWindow : ConversionState := (fresh.analyse ⟨0⟩ windowLayout everyFixup false).conversion

theorem reached_behindWindow : Reached behindWindow := Reached.fresh.analyse _ _ _ _

/-- What is painted meets every demand. -/
theorem meets_painted (h : c.Sound) (hl : layout.Interleaved buffer stride) {d : Demand}
    (hd : d ∈ layout.demands buffer fixup) : (c.painted buffer layout fixup stride).Meets d := by
  refine Painting.meets_foldl (regular_ground_map h hl.stride_ne) ?_ hd
  rw [stride_ground c.map hl.stride_ne]
  exact hl.agree

theorem tag_painted_of_covers (h : c.Sound) (hl : layout.Interleaved buffer stride) {d : Demand}
    (hd : d ∈ layout.demands buffer fixup) {i : Nat} (hc : d.element.Covers stride i) :
    (c.painted buffer layout fixup stride).tag i = d.fixup := by
  obtain ⟨k, hk, rfl⟩ := hc
  have hmeets := meets_painted h hl hd k hk
  rw [(regular_painted buffer layout fixup h hl.stride_ne).2] at hmeets
  exact hmeets

/-- The bytes of an attribute are tagged as it needs them. -/
theorem painted_needs (h : c.Sound) (hl : layout.Interleaved buffer stride)
    (hconvertible : layout.Convertible buffer fixup) {a : AttributeSlot × VertexAttribute}
    (ha : a ∈ layout.fed buffer) {k : Nat} (hk : k < a.2.format.width) :
    (c.painted buffer layout fixup stride).tag ((a.2.offset + k) % stride) =
      layout.needs fixup a.1 a.2 :=
  tag_painted_of_covers h hl (hconvertible.demanded ha) ⟨k, hk, rfl⟩

/-- Where an attribute needs a fixup, what is painted is left. -/
theorem map_analyse_of_needs {staticDecl : Bool} (h : c.Sound)
    (hfirst : (c.analysed && staticDecl) = false) (hfixup : fixup.isEmpty = false)
    (hl : layout.Interleaved buffer stride) (hconvertible : layout.Convertible buffer fixup)
    {a : AttributeSlot × VertexAttribute} (ha : a ∈ layout.fed buffer)
    (hneeds : layout.needs fixup a.1 a.2 ≠ .keep) :
    (c.analyse buffer layout fixup staticDecl).conversion.map =
      some (c.painted buffer layout fixup stride) := by
  have hdemanded := hconvertible.demanded ha
  rw [map_analyse_of_interleaved hfirst hfixup hl,
    if_pos ⟨List.ne_nil_of_mem hdemanded, (regular_painted buffer layout fixup h
      hl.stride_ne).1.hasFixup_of_meets (meets_painted h hl hdemanded) hneeds⟩]

/-- **Covered bytes carry the right tag, whatever was analysed before.** After the analysis of
    interleaved attributes there is a map if one of them needs a fixup, a map has their stride and
    as many tags, and each byte that an attribute lies on is tagged as the attribute needs it. -/
theorem covered_bytes_tagged (h : Reached c) (hl : layout.Interleaved buffer stride)
    (hconvertible : layout.Convertible buffer fixup) (hfixup : fixup.isEmpty = false) :
    let after := (c.analyse buffer layout fixup false).conversion.map
    ((∃ a ∈ layout.fed buffer, layout.needs fixup a.1 a.2 ≠ .keep) → ∃ m, after = some m) ∧
      (∀ m, after = some m → m.stride = stride ∧ m.tags.size = stride ∧
        ∀ a ∈ layout.fed buffer, ∀ k < a.2.format.width,
          m.tags[(a.2.offset + k) % stride]? = some (layout.needs fixup a.1 a.2)) ∧
      (after = none → ∀ a ∈ layout.fed buffer, layout.needs fixup a.1 a.2 = .keep) := by
  intro after
  have hafter : after = _ :=
    map_analyse_of_interleaved (Bool.and_false _) hfixup hl
  obtain ⟨hregular, hstride⟩ := regular_painted buffer layout fixup h.sound hl.stride_ne
  have hsome : (∃ a ∈ layout.fed buffer, layout.needs fixup a.1 a.2 ≠ .keep) →
      after = some (c.painted buffer layout fixup stride) := fun ⟨_, ha, hneeds⟩ =>
    map_analyse_of_needs h.sound (Bool.and_false _) hfixup hl hconvertible ha hneeds
  refine ⟨fun hneeds => ⟨_, hsome hneeds⟩, fun m hm => ?_, fun hnone a ha => ?_⟩
  · rw [hafter] at hm
    split at hm
    · cases hm
      refine ⟨hstride, hregular.size.trans hstride, fun a ha k hk => ?_⟩
      have hlt : (a.2.offset + k) % stride < stride :=
        Nat.mod_lt _ (Nat.pos_of_ne_zero hl.stride_ne)
      rw [getElem?_tags (by rw [hregular.size, hstride]; exact hlt),
        painted_needs h.sound hl hconvertible ha hk]
    · cases hm
  · refine Decidable.byContradiction fun hneeds => ?_
    cases hnone.symm.trans (hsome ⟨a, ha, hneeds⟩)

/-- A normal, and a color that goes on at the start of the vertex: 22 bytes behind the start of a
    vertex of 8. -/
def wrappedLayout : VertexLayout :=
  ((VertexLayout.empty false).set .normal (some ⟨.r8g8b8a8Unorm, 8, 2, ⟨0⟩⟩)).set
    .diffuse (some ⟨.b8g8r8a8Unorm, 8, 22, ⟨0⟩⟩)

/-- Behind a layout of another stride, the third byte of the color is the first of the vertex. -/
theorem covered_bytes_tagged_around :
    wrappedLayout.Interleaved ⟨0⟩ 8 ∧ wrappedLayout.Convertible ⟨0⟩ FixupFlags.color ∧
      ∃ m, (behindWindow.analyse ⟨0⟩ wrappedLayout FixupFlags.color false).conversion.map = some m ∧
        m.tags[(22 + 2) % 8]? = some .color ∧ m.tags[(2 + 3) % 8]? = some .keep := by
  have hl : wrappedLayout.Interleaved ⟨0⟩ 8 := ⟨by decide, by decide, by decide⟩
  have hconvertible : wrappedLayout.Convertible ⟨0⟩ FixupFlags.color := by decide
  have h := covered_bytes_tagged reached_behindWindow hl hconvertible (by decide)
  have hcolor : (.diffuse, ⟨.b8g8r8a8Unorm, 8, 22, ⟨0⟩⟩) ∈ wrappedLayout.fed ⟨0⟩ := by decide
  have hnormal : (.normal, ⟨.r8g8b8a8Unorm, 8, 2, ⟨0⟩⟩) ∈ wrappedLayout.fed ⟨0⟩ := by decide
  have hneeds :
      wrappedLayout.needs FixupFlags.color .diffuse ⟨.b8g8r8a8Unorm, 8, 22, ⟨0⟩⟩ = .color := by
    decide
  have hkeeps :
      wrappedLayout.needs FixupFlags.color .normal ⟨.r8g8b8a8Unorm, 8, 2, ⟨0⟩⟩ = .keep := by
    decide
  obtain ⟨m, hm⟩ := h.1 ⟨_, hcolor, by rw [hneeds]; decide⟩
  have htags := (h.2.1 m hm).2.2
  refine ⟨hl, hconvertible, m, hm, ?_, ?_⟩
  · rw [← hneeds]
    exact htags _ hcolor 2 (by decide)
  · rw [← hkeeps]
    exact htags _ hnormal 3 (by decide)

/-! ## 5. Bytes that no attribute lies on -/

/-- The tag that a byte had before, as far as the map had the stride. -/
def leftover (c : ConversionState) (stride i : Nat) : ByteFixup :=
  match c.map with
  | some m => if m.stride = stride then m.tag i else .keep
  | none => .keep

theorem tag_ground (c : ConversionState) (hstride : stride ≠ 0) (i : Nat) :
    (ground c.map stride).tag i = c.leftover stride i := by
  unfold leftover
  cases c.map with
  | none => exact tag_plain i
  | some m =>
    dsimp only
    split
    · rename_i hm
      rw [ground_of_stride (.inr hm)]
    · rename_i hm
      rw [ground_of_ne hstride hm, tag_plain]

theorem tag_painted_of_free (h : c.Sound) (hstride : stride ≠ 0) {i : Nat} (hi : i < stride)
    (hfree : layout.Free buffer fixup stride i) :
    (c.painted buffer layout fixup stride).tag i = c.leftover stride i := by
  rw [← tag_ground c hstride]
  have hground := stride_ground c.map hstride
  refine Painting.tag_foldl_of_uncovered (regular_ground_map h hstride) (hground.symm ▸ hi) ?_
  rw [hground]
  exact hfree

/-- Two histories have the same painted over them exactly if they agree on the free bytes. -/
theorem painted_eq_iff (h₁ : c₁.Sound) (h₂ : c₂.Sound) (hl : layout.Interleaved buffer stride) :
    c₁.painted buffer layout fixup stride = c₂.painted buffer layout fixup stride ↔
      ∀ i < stride, layout.Free buffer fixup stride i →
        c₁.leftover stride i = c₂.leftover stride i := by
  constructor
  · intro heq i hi hfree
    rw [← tag_painted_of_free h₁ hl.stride_ne hi hfree, heq,
      tag_painted_of_free h₂ hl.stride_ne hi hfree]
  · intro hleft
    obtain ⟨hregular₁, hstride₁⟩ := regular_painted buffer layout fixup h₁ hl.stride_ne
    obtain ⟨hregular₂, hstride₂⟩ := regular_painted buffer layout fixup h₂ hl.stride_ne
    refine hregular₁.ext hregular₂ (hstride₁.trans hstride₂.symm) fun i hi => ?_
    rw [hstride₁] at hi
    by_cases hfree : layout.Free buffer fixup stride i
    · rw [tag_painted_of_free h₁ hl.stride_ne hi hfree,
        tag_painted_of_free h₂ hl.stride_ne hi hfree, hleft i hi hfree]
    · obtain ⟨d, hd, hc⟩ := VertexLayout.not_free.mp hfree
      rw [tag_painted_of_covers h₁ hl hd hc, tag_painted_of_covers h₂ hl hd hc]

/-- Nothing is left to convert exactly if neither an attribute nor a free byte needs a fixup. -/
theorem hasFixup_painted_iff (h : c.Sound) (hl : layout.Interleaved buffer stride) :
    (c.painted buffer layout fixup stride).hasFixup = false ↔
      (∀ d ∈ layout.demands buffer fixup, d.fixup = .keep) ∧
        ∀ i < stride, layout.Free buffer fixup stride i → c.leftover stride i = .keep := by
  obtain ⟨hregular, hstride⟩ := regular_painted buffer layout fixup h hl.stride_ne
  rw [← Bool.not_eq_true, hregular.hasFixup_iff, hstride]
  constructor
  · intro hnone
    have hkeep {i : Nat} (hi : i < stride) :
        (c.painted buffer layout fixup stride).tag i = .keep :=
      Decidable.byContradiction fun hne => hnone ⟨i, hi, hne⟩
    refine ⟨fun d hd => Decidable.byContradiction fun hne => hnone ?_, fun i hi hfree => ?_⟩
    · obtain ⟨i, hi, htag⟩ :=
        hregular.hasFixup_iff.mp (hregular.hasFixup_of_meets (meets_painted h hl hd) hne)
      rw [hstride] at hi
      exact ⟨i, hi, htag⟩
    · rw [← tag_painted_of_free h hl.stride_ne hi hfree]
      exact hkeep hi
  · rintro ⟨hdemands, hleft⟩ ⟨i, hi, hne⟩
    by_cases hfree : layout.Free buffer fixup stride i
    · rw [tag_painted_of_free h hl.stride_ne hi hfree] at hne
      exact hne (hleft i hi hfree)
    · obtain ⟨d, hd, hc⟩ := VertexLayout.not_free.mp hfree
      rw [tag_painted_of_covers h hl hd hc] at hne
      exact hne (hdemands d hd)

/-- No map is left exactly if nothing is demanded, or nothing is left to convert. -/
theorem map_analyse_eq_none_iff (h : c.Sound) (hl : layout.Interleaved buffer stride)
    (hfixup : fixup.isEmpty = false) :
    (c.analyse buffer layout fixup false).conversion.map = none ↔
      layout.demands buffer fixup = [] ∨ (∀ d ∈ layout.demands buffer fixup, d.fixup = .keep) ∧
        ∀ i < stride, layout.Free buffer fixup stride i → c.leftover stride i = .keep := by
  rw [map_analyse_of_interleaved (Bool.and_false _) hfixup hl, ← hasFixup_painted_iff h hl]
  by_cases hnil : layout.demands buffer fixup = []
  · rw [if_neg fun h => h.1 hnil]
    exact iff_of_true rfl (.inl hnil)
  · rw [or_iff_right hnil, ← Bool.not_eq_true]
    split
    · rename_i hleft
      exact iff_of_false nofun (not_not_intro hleft.2)
    · rename_i hleft
      exact iff_of_true rfl fun hfix => hleft ⟨hnil, hfix⟩

/-- A map that is left is what was painted. -/
theorem map_analyse_of_ne_none (hl : layout.Interleaved buffer stride)
    (hfixup : fixup.isEmpty = false)
    (h : (c.analyse buffer layout fixup false).conversion.map ≠ none) :
    (c.analyse buffer layout fixup false).conversion.map =
      some (c.painted buffer layout fixup stride) := by
  rw [map_analyse_of_interleaved (Bool.and_false _) hfixup hl] at h ⊢
  split at h
  · rename_i hleft
    rw [if_pos hleft]
  · exact absurd rfl h

/-- **What an analysis owes to the layouts before it.** After the analysis of interleaved attributes
    two histories have the same map exactly if the layout demands nothing, or if they had the same
    tags on the bytes that no attribute lies on. And there is no map exactly if the layout demands
    nothing, or if it demands no fixup and none was left on such a byte. -/
theorem map_analyse_eq_iff (h₁ : Reached c₁) (h₂ : Reached c₂)
    (hl : layout.Interleaved buffer stride) (hfixup : fixup.isEmpty = false) :
    ((c₁.analyse buffer layout fixup false).conversion.map =
        (c₂.analyse buffer layout fixup false).conversion.map ↔
      layout.demands buffer fixup = [] ∨ ∀ i < stride, layout.Free buffer fixup stride i →
        c₁.leftover stride i = c₂.leftover stride i) ∧
    ((c₁.analyse buffer layout fixup false).conversion.map = none ↔
      layout.demands buffer fixup = [] ∨ (∀ d ∈ layout.demands buffer fixup, d.fixup = .keep) ∧
        ∀ i < stride, layout.Free buffer fixup stride i → c₁.leftover stride i = .keep) := by
  refine ⟨⟨fun heq => ?_, ?_⟩, map_analyse_eq_none_iff h₁.sound hl hfixup⟩
  · by_cases hnone : (c₁.analyse buffer layout fixup false).conversion.map = none
    · -- two histories that left nothing to convert
      rcases (map_analyse_eq_none_iff h₁.sound hl hfixup).mp hnone with hnil | ⟨-, hleft₁⟩
      · exact .inl hnil
      rcases (map_analyse_eq_none_iff h₂.sound hl hfixup).mp (heq ▸ hnone) with hnil | ⟨-, hleft₂⟩
      · exact .inl hnil
      exact .inr fun i hi hfree => (hleft₁ i hi hfree).trans (hleft₂ i hi hfree).symm
    · refine .inr ((painted_eq_iff h₁.sound h₂.sound hl).mp (Option.some.inj ?_))
      rw [← map_analyse_of_ne_none hl hfixup hnone,
        ← map_analyse_of_ne_none hl hfixup (heq ▸ hnone), heq]
  · rintro (hnil | hleft)
    · rw [(map_analyse_eq_none_iff h₁.sound hl hfixup).mpr (.inl hnil),
        (map_analyse_eq_none_iff h₂.sound hl hfixup).mpr (.inl hnil)]
    · rw [map_analyse_of_interleaved (Bool.and_false _) hfixup hl,
        map_analyse_of_interleaved (Bool.and_false _) hfixup hl,
        (painted_eq_iff h₁.sound h₂.sound hl).mpr hleft]

/-- A position of three coordinates, in vertices of 20 bytes. -/
def spaceLayout : VertexLayout :=
  (VertexLayout.empty false).set .position (some ⟨.r32g32b32Float, 20, 0, ⟨0⟩⟩)

/-- The same with a color at the place where `windowLayout` has it. -/
def spaceColorLayout : VertexLayout :=
  spaceLayout.set .diffuse (some ⟨.b8g8r8a8Unorm, 20, 16, ⟨0⟩⟩)

/-- A shorter position behind the one in window coordinates: the new buffer and the other one do not
    have the same on the bytes between position and color, and so the maps differ. -/
theorem map_analyse_eq_iff_behind_window :
    spaceColorLayout.Interleaved ⟨0⟩ 20 ∧ everyFixup.isEmpty = false ∧
      ¬ ((behindWindow.analyse ⟨0⟩ spaceColorLayout everyFixup false).conversion.map =
        (fresh.analyse ⟨0⟩ spaceColorLayout everyFixup false).conversion.map) := by
  have hl : spaceColorLayout.Interleaved ⟨0⟩ 20 := ⟨by decide, by decide, by decide⟩
  have hfixup : everyFixup.isEmpty = false := by decide
  refine ⟨hl, hfixup, fun heq => ?_⟩
  rcases (map_analyse_eq_iff reached_behindWindow .fresh hl hfixup).1.mp heq with h | h
  · exact absurd h (by decide)
  · exact absurd (h 12 (by decide) (by decide)) (by decide +kernel)

/-- **Tags of an earlier layout stay.** Behind a layout in window coordinates, one with a shorter
    position and the same color has the last four bytes of the old position tagged, which it has not
    on its own; and one with that position alone, which needs no fixup at all, leaves a map. -/
theorem stale_position_stays :
    Reached behindWindow ∧ Reached fresh ∧ everyFixup.isEmpty = false ∧
      spaceColorLayout.Interleaved ⟨0⟩ 20 ∧
      (behindWindow.analyse ⟨0⟩ spaceColorLayout everyFixup false).conversion.map ≠
        (fresh.analyse ⟨0⟩ spaceColorLayout everyFixup false).conversion.map ∧
      spaceLayout.Interleaved ⟨0⟩ 20 ∧
      (∀ a ∈ spaceLayout.fed ⟨0⟩, spaceLayout.needs everyFixup a.1 a.2 = .keep) ∧
      (behindWindow.analyse ⟨0⟩ spaceLayout everyFixup false).conversion.map ≠ none :=
  ⟨reached_behindWindow, .fresh, by decide, ⟨by decide, by decide, by decide⟩,
    by decide +kernel, ⟨by decide, by decide, by decide⟩, by decide, by decide +kernel⟩

/-- The walk over a vertex takes the old tag at byte 12 for a position, which has no room, and goes
    on behind the color: nothing is converted. -/
example :
    (behindWindow.analyse ⟨0⟩ spaceColorLayout everyFixup false).conversion.map.map
      (·.convert windowVertex [⟨0, 20⟩]) = some windowVertex := by decide +kernel

end ConversionState

end BufferCoherence
