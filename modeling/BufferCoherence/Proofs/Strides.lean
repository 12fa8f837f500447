import BufferCoherence.Proofs.Repetition

/-!
# Passes that leave the map

A draw loads the object anew only where the analysis of its layout reports a change. So a change
that is not reported would leave converted bytes that are out of date.

* **`unreported_analysis_keeps_map`**: an analysis that reports no change leaves the map as it was,
  stride and tags included. That takes in the pass that is abandoned half way, at a second stride:
  it may have tagged bytes and replaced the map before, and none of that is kept.
* `Unreported.map_eq` is the same for any number of analyses.
* **`mixed_strides_skipped_iff`** is about layouts whose attributes have different strides. The pass
  compares the strides of the attributes that it tags, and no others: where there is no map, an
  attribute that needs no fixup is passed over with its stride, until the first one makes a map.
* `mixed_strides_converted` is such a layout. Its first analysis makes a map, and the second one is
  skipped.
-/

namespace BufferCoherence

/-! ## 1. Attributes of different strides -/

/-- Two of the attributes have different strides; an attribute without a stride agrees with all. -/
def Mixed (attributes : List (AttributeSlot × VertexAttribute)) : Prop :=
  ∃ a ∈ attributes, ∃ b ∈ attributes, a.2.stride ≠ 0 ∧ b.2.stride ≠ 0 ∧ a.2.stride ≠ b.2.stride

instance (attributes : List (AttributeSlot × VertexAttribute)) : Decidable (Mixed attributes) :=
  inferInstanceAs (Decidable (∃ a ∈ attributes, ∃ b ∈ attributes, _ ∧ _ ∧ _))

namespace VertexLayout

variable {l : VertexLayout} {buffer : BufferId} {fixup : FixupFlags}

/-- The attributes that a buffer feeds and that need a fixup. -/
def needy (l : VertexLayout) (buffer : BufferId) (fixup : FixupFlags) :
    List (AttributeSlot × VertexAttribute) :=
  (l.fed buffer).filter fun a => l.needs fixup a.1 a.2 ≠ .keep

theorem mem_fed {a : AttributeSlot × VertexAttribute} :
    a ∈ l.fed buffer ↔ l.element a.1 = some a.2 ∧ a.2.buffer = buffer := by
  obtain ⟨slot, e⟩ := a
  unfold fed
  rw [List.mem_filterMap]
  constructor
  · rintro ⟨slot', -, h⟩
    split at h
    · rename_i e' he
      split at h
      · rename_i hbuffer
        cases h
        exact ⟨he, hbuffer⟩
      · cases h
    · cases h
  · rintro ⟨he, hbuffer⟩
    refine ⟨slot, slot.mem_all, ?_⟩
    dsimp only at he hbuffer ⊢
    rw [he]
    exact if_pos hbuffer

/-- A slot feeds one attribute. -/
theorem eq_of_slot {a b : AttributeSlot × VertexAttribute} (ha : a ∈ l.fed buffer)
    (hb : b ∈ l.fed buffer) (h : a.1 = b.1) : a.2 = b.2 :=
  Option.some.inj ((mem_fed.mp ha).1.symm.trans (h ▸ (mem_fed.mp hb).1))

/-- Of attributes of different strides one is demanded: only the position can fail to be. -/
theorem exists_demand_of_mixed (h : Mixed (l.fed buffer)) :
    ∃ d ∈ l.demands buffer fixup, d.element.stride ≠ 0 := by
  obtain ⟨a, ha, b, hb, ha0, hb0, hne⟩ := h
  have demanded {x : AttributeSlot × VertexAttribute} (hx : x ∈ l.fed buffer)
      (hslot : x.1 ≠ .position) : (⟨x.2, l.needs fixup x.1 x.2⟩ : Demand) ∈
        l.demands buffer fixup :=
    List.mem_filterMap.mpr ⟨x, hx, demand?_isSome fun h => absurd h hslot⟩
  by_cases hposition : a.1 = .position
  · have hslot : b.1 ≠ .position := fun h =>
      hne (congrArg VertexAttribute.stride (eq_of_slot ha hb (hposition.trans h.symm)))
    exact ⟨_, demanded hb hslot, hb0⟩
  · exact ⟨_, demanded ha hposition, ha0⟩

namespace Convertible

/-- Where there is a map, all attributes of a convertible layout are heeded. -/
theorem clash_of_map (h : l.Convertible buffer fixup) (hmixed : Mixed (l.fed buffer))
    {map : Option ConversionMap} (hmap : map ≠ none) :
    Clash (heeded map (l.demands buffer fixup)) := by
  obtain ⟨m, rfl⟩ := Option.ne_none_iff_exists'.mp hmap
  obtain ⟨a, ha, b, hb, hstrides⟩ := hmixed
  exact ⟨_, h.demanded ha, _, h.demanded hb, hstrides⟩

/-- Attributes that need a fixup are heeded with a map and without. -/
theorem clash_of_needy (h : l.Convertible buffer fixup) (hmixed : Mixed (l.needy buffer fixup))
    (map : Option ConversionMap) : Clash (heeded map (l.demands buffer fixup)) := by
  obtain ⟨a, ha, b, hb, ha0, hb0, hne⟩ := hmixed
  have heeds {x : AttributeSlot × VertexAttribute} (hx : x ∈ l.needy buffer fixup)
      (h0 : x.2.stride ≠ 0) : (⟨x.2, l.needs fixup x.1 x.2⟩ : Demand) ∈
        heeded map (l.demands buffer fixup) := by
    obtain ⟨hfed, hneeds⟩ := List.mem_filter.mp hx
    have hfix : l.needs fixup x.1 x.2 ≠ .keep := by simpa using hneeds
    exact heeded_of_not_idle (h.demanded hfed) fun hidle => hidle.elim hfix h0
  exact ⟨_, heeds ha ha0, _, heeds hb hb0, ha0, hb0, hne⟩

end Convertible

end VertexLayout

namespace ConversionState

variable {c c' : ConversionState} {buffer : BufferId} {layout : VertexLayout} {fixup : FixupFlags}
  {staticDecl : Bool}

/-! ## 2. Analyses that report no change -/

/-- **A pass is abandoned half way**: a layout is gone through, and two of the attributes that are
    tagged have different strides. -/
def Abandons (c : ConversionState) (buffer : BufferId) (layout : VertexLayout)
    (fixup : FixupFlags) (staticDecl : Bool) : Prop :=
  (c.analysed && staticDecl) = false ∧ fixup.isEmpty = false ∧
    (Pass.run buffer layout fixup c.map).conflict = true

/-- A pass is abandoned where the strides of what it heeds conflict. -/
theorem abandons_iff : c.Abandons buffer layout fixup staticDecl ↔
    (c.analysed && staticDecl) = false ∧ fixup.isEmpty = false ∧
      c.Conflicts buffer layout fixup := by
  have hrun : (Pass.run buffer layout fixup c.map).conflict =
      (c.survey buffer layout fixup).conflict :=
    congrArg Survey.conflict (survey_eq c buffer layout fixup)
  unfold Abandons
  rw [hrun, conflict_survey_iff]

/-- What an abandoned pass did is undone, and it reports nothing. -/
theorem analyse_of_abandons (h : c.Abandons buffer layout fixup staticDecl) :
    (c.analyse buffer layout fixup staticDecl).changed = false ∧
      (c.analyse buffer layout fixup staticDecl).conversion.map = c.map := by
  obtain ⟨hfirst, hfixup, hconflict⟩ := abandons_iff.mp h
  refine ⟨?_, map_analyse_of_conflicts hfirst hfixup hconflict⟩
  rw [(analyse_of_layout hfirst hfixup).1, conflict_survey_iff.mpr hconflict, Bool.not_true,
    Bool.false_and]

/-- **A change that is not reported never happens.** An analysis that reports no change leaves the
    map as it was, whether there was one and with which stride and tags; and a pass that is
    abandoned half way reports none, whatever it had done until then. -/
theorem unreported_analysis_keeps_map (c : ConversionState) (buffer : BufferId)
    (layout : VertexLayout) (fixup : FixupFlags) (staticDecl : Bool) :
    let answer := c.analyse buffer layout fixup staticDecl
    (answer.changed = false → answer.conversion.map = c.map) ∧
      (c.Abandons buffer layout fixup staticDecl →
        answer.changed = false ∧ answer.conversion.map = c.map) :=
  ⟨map_analyse, analyse_of_abandons⟩

/-- Two colors, of which the first replaces the map of a window layout before the second one ends
    the pass. -/
def twoStrides : VertexLayout :=
  ((VertexLayout.empty false).set .diffuse (some ⟨.b8g8r8a8Unorm, 16, 0, ⟨0⟩⟩)).set
    .specular (some ⟨.b8g8r8a8Unorm, 24, 4, ⟨0⟩⟩)

/-- A pass that has replaced the map and tagged bytes of it when it is abandoned. -/
theorem unreported_analysis_keeps_window_map :
    Reached behindWindow ∧ behindWindow.Abandons ⟨0⟩ twoStrides everyFixup false ∧
      (Pass.run ⟨0⟩ twoStrides everyFixup behindWindow.map).changed = true ∧
      (Pass.run ⟨0⟩ twoStrides everyFixup behindWindow.map).map ≠ behindWindow.map ∧
      (behindWindow.analyse ⟨0⟩ twoStrides everyFixup false).changed = false ∧
      (behindWindow.analyse ⟨0⟩ twoStrides everyFixup false).conversion.map =
        behindWindow.map := by
  have hkeeps := unreported_analysis_keeps_map behindWindow ⟨0⟩ twoStrides everyFixup false
  have habandons : behindWindow.Abandons ⟨0⟩ twoStrides everyFixup false :=
    ⟨rfl, rfl, by decide +kernel⟩
  have hquiet := (hkeeps.2 habandons).1
  exact ⟨reached_behindWindow, habandons, by decide +kernel, by decide +kernel, hquiet,
    hkeeps.1 hquiet⟩

/-- The first state leads to the second by analyses that report no change. -/
inductive Unreported (c : ConversionState) : ConversionState → Prop where
  | refl : Unreported c c
  | analyse {c' : ConversionState} (h : Unreported c c') (buffer : BufferId)
      (layout : VertexLayout) (fixup : FixupFlags) (staticDecl : Bool)
      (hquiet : (c'.analyse buffer layout fixup staticDecl).changed = false) :
      Unreported c (c'.analyse buffer layout fixup staticDecl).conversion

/-- **As long as nothing is reported the map stays.** -/
theorem Unreported.map_eq (h : Unreported c c') : c'.map = c.map := by
  induction h with
  | refl => rfl
  | analyse _ buffer layout fixup staticDecl hquiet ih => exact (map_analyse hquiet).trans ih

/-! ## 3. Layouts of different strides -/

/-- **When attributes of different strides have the pass skipped.** The analysis reports no change
    and leaves the map exactly if two of the attributes that it heeds have different strides, or if
    the map meets every demand as it is; without a map that means that none is made. Where there is
    a map, or where the attributes of different strides need a fixup themselves, the pass is always
    skipped, as long as the position can be converted. -/
theorem mixed_strides_skipped_iff (h : Reached c) (hfixup : fixup.isEmpty = false)
    (hmixed : Mixed (layout.fed buffer)) :
    let answer := c.analyse buffer layout fixup false
    let skipped := answer.changed = false ∧ answer.conversion.map = c.map
    (skipped ↔ c.Conflicts buffer layout fixup ∨ c.Meets buffer layout fixup) ∧
      (layout.Convertible buffer fixup →
        c.map ≠ none ∨ Mixed (layout.needy buffer fixup) → skipped) := by
  intro answer skipped
  have hfirst : (c.analysed && false) = false := Bool.and_false _
  refine ⟨?_, fun hconvertible hor => ?_⟩
  · have hquiet : skipped ↔ answer.changed = false := and_iff_left_of_imp map_analyse
    rw [hquiet, changed_analyse_iff h.sound hfirst hfixup]
    exact or_congr_right (and_iff_left fun _ => VertexLayout.exists_demand_of_mixed hmixed)
  · refine analyse_of_abandons (abandons_iff.mpr ⟨hfirst, hfixup, ?_⟩)
    rcases hor with hmap | hneedy
    · exact hconvertible.clash_of_map hmixed hmap
    · exact hconvertible.clash_of_needy hneedy c.map

/-- The two colors behind a window layout. -/
theorem mixed_strides_skipped_behind_window :
    Mixed (twoStrides.fed ⟨0⟩) ∧ behindWindow.map ≠ none ∧
      (behindWindow.analyse ⟨0⟩ twoStrides everyFixup false).changed = false ∧
      (behindWindow.analyse ⟨0⟩ twoStrides everyFixup false).conversion.map =
        behindWindow.map := by
  have hmixed : Mixed (twoStrides.fed ⟨0⟩) := by decide +kernel
  have hmap : behindWindow.map ≠ none := by decide +kernel
  have hconvertible : twoStrides.Convertible ⟨0⟩ everyFixup := by decide +kernel
  exact ⟨hmixed, hmap,
    (mixed_strides_skipped_iff reached_behindWindow rfl hmixed).2 hconvertible (.inl hmap)⟩

/-- A position of 12 bytes a vertex, and a color of 16. -/
def strayPosition : VertexLayout :=
  ((VertexLayout.empty false).set .position (some ⟨.r32g32b32Float, 12, 0, ⟨0⟩⟩)).set
    .diffuse (some ⟨.b8g8r8a8Unorm, 16, 12, ⟨0⟩⟩)

/-- **Different strides that are not noticed.** The position of a new buffer is passed over before
    the color makes a map, so that the analysis reports a change. The second analysis of the same
    layout finds that map, heeds both, and is skipped. -/
theorem mixed_strides_converted :
    let first := fresh.analyse ⟨0⟩ strayPosition FixupFlags.color false
    let second := first.conversion.analyse ⟨0⟩ strayPosition FixupFlags.color false
    Reached fresh ∧ FixupFlags.color.isEmpty = false ∧ Mixed (strayPosition.fed ⟨0⟩) ∧
      first.changed = true ∧ first.conversion.map ≠ fresh.map ∧
      first.conversion.Abandons ⟨0⟩ strayPosition FixupFlags.color false ∧
      second.changed = false :=
  ⟨.fresh, rfl, by decide +kernel, by decide +kernel, by decide +kernel,
    ⟨rfl, rfl, by decide +kernel⟩, by decide +kernel⟩

end ConversionState

end BufferCoherence
