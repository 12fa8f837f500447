import BufferCoherence.Proofs.Draw
import BufferCoherence.Proofs.Retagging

/-!
# One layout analysed twice

An analysis that reports a change has the object loaded anew, and enough of them have it dropped. So
it matters that a layout that did not change reports none.

* `changed_analyse_iff` says when an analysis reports no change: its strides conflict, or the map
  that it finds meets every demand as it is.
* **`analyse_again_iff`**: a second analysis finds the map that the first one left. It reports no
  change exactly if its strides conflict or that map meets every demand; and it does where every
  attribute has a stride and attributes that share a byte ask for the same.
* `analyse_again_changes` has two layouts for which it is not so: an attribute without a stride that
  comes before the one that makes the map, and two attributes that ask for something different of
  one byte.
-/

namespace BufferCoherence

open ConversionMap

/-! ## 1. Analyses that report no change -/

namespace Survey

variable {s : Survey} {d : Demand} {ds : List Demand} {m : ConversionMap}

theorem stride_step (h : s.stride ≠ 0) (d : Demand) : (s.step d).stride ≠ 0 := by
  unfold step
  split
  · exact h
  · split
    · exact h
    · show (if d.element.stride = 0 then s.stride else d.element.stride) ≠ 0
      split
      · exact h
      · assumption

/-- Once there is a stride there stays one. -/
theorem stride_foldl_ne (h : s.stride ≠ 0) (ds : List Demand) : (ds.foldl step s).stride ≠ 0 := by
  induction ds generalizing s with
  | nil => exact h
  | cons d rest ih => exact ih (stride_step h d)

/-- Where there is a map, a demand with a stride leaves one. -/
theorem stride_foldl_of_mem (hmap : s.map = some m) (hd : d ∈ ds) (h0 : d.element.stride ≠ 0)
    (hclear : (ds.foldl step s).conflict = false) : (ds.foldl step s).stride ≠ 0 := by
  induction ds generalizing s m with
  | nil => cases hd
  | cons a rest ih =>
    rw [List.foldl_cons] at hclear ⊢
    have hstep := step_of_clear hmap hclear
    rcases List.mem_cons.mp hd with rfl | hrest
    · refine stride_foldl_ne ?_ rest
      rw [hstep]
      exact (if_neg h0).trans_ne h0
    · rw [hstep] at hclear ⊢
      exact ih rfl hrest hclear

end Survey

/-- **A consistent layout**: every attribute has a stride, and two of one stride that lie on one
    byte ask for the same. -/
structure VertexLayout.Consistent (l : VertexLayout) (buffer : BufferId) (fixup : FixupFlags) :
    Prop where
  stride_ne : ∀ d ∈ l.demands buffer fixup, d.element.stride ≠ 0
  agree : ∀ d ∈ l.demands buffer fixup, ∀ d' ∈ l.demands buffer fixup,
    d.element.stride = d'.element.stride → ∀ i < d.element.stride,
      d.element.Covers d.element.stride i → d'.element.Covers d.element.stride i →
        d.fixup = d'.fixup

/-- Demands of one stride agree. -/
theorem VertexLayout.Consistent.agree_of_uniform {l : VertexLayout} {buffer : BufferId}
    {fixup : FixupFlags} (h : l.Consistent buffer fixup) {ds : List Demand} {stride : Nat}
    (hmem : ∀ d ∈ ds, d ∈ l.demands buffer fixup) (huniform : ∀ d ∈ ds, d.element.stride = stride) :
    Painting.Agree stride ds := by
  intro d hd d' hd' i hi hc hc'
  have hs := huniform d hd
  refine h.agree d (hmem d hd) d' (hmem d' hd') (hs.trans (huniform d' hd').symm) i ?_ ?_ ?_
  · rw [hs]
    exact hi
  · rw [hs]
    exact hc
  · rw [hs]
    exact hc'

namespace ConversionState

variable {c : ConversionState} {buffer : BufferId} {layout : VertexLayout} {fixup : FixupFlags}
  {staticDecl : Bool}

/-- A survey that reports no change has the map that it started with. -/
theorem map_survey_of_unchanged (h : (c.survey buffer layout fixup).changed = false) :
    (c.survey buffer layout fixup).map = c.map := by
  rw [← survey_eq] at h ⊢
  exact (Pass.follows_foldl (Pass.follows_visit buffer layout fixup) _ _).2 h

/-- The strides of the attributes that an analysis heeds conflict. -/
def Conflicts (c : ConversionState) (buffer : BufferId) (layout : VertexLayout)
    (fixup : FixupFlags) : Prop :=
  Clash (heeded c.map (layout.demands buffer fixup))

instance (c : ConversionState) (buffer : BufferId) (layout : VertexLayout) (fixup : FixupFlags) :
    Decidable (c.Conflicts buffer layout fixup) :=
  inferInstanceAs (Decidable (Clash _))

theorem conflict_survey_iff :
    (c.survey buffer layout fixup).conflict = true ↔ c.Conflicts buffer layout fixup :=
  Survey.conflict_iff c.map _

/-- Every demand of the layout is met by the map as it is. -/
def Meets (c : ConversionState) (buffer : BufferId) (layout : VertexLayout)
    (fixup : FixupFlags) : Prop :=
  ∀ d ∈ layout.demands buffer fixup, d.MetBy c.map

instance (c : ConversionState) (buffer : BufferId) (layout : VertexLayout) (fixup : FixupFlags) :
    Decidable (c.Meets buffer layout fixup) :=
  inferInstanceAs (Decidable (∀ d ∈ layout.demands buffer fixup, _))

/-- After a conflict the map is what it was. -/
theorem map_analyse_of_conflicts (hfirst : (c.analysed && staticDecl) = false)
    (hfixup : fixup.isEmpty = false) (h : c.Conflicts buffer layout fixup) :
    (c.analyse buffer layout fixup staticDecl).conversion.map = c.map := by
  rw [(analyse_of_layout hfirst hfixup).2, if_pos (conflict_survey_iff.mpr h)]

/-- A conflict is found again. -/
theorem Conflicts.analyse (hfirst : (c.analysed && staticDecl) = false)
    (hfixup : fixup.isEmpty = false) (h : c.Conflicts buffer layout fixup) :
    (c.analyse buffer layout fixup staticDecl).conversion.Conflicts buffer layout fixup := by
  unfold Conflicts
  rw [map_analyse_of_conflicts hfirst hfixup h]
  exact h

/-- A survey has a stride only from a demand. -/
theorem exists_stride_of_survey (h : (c.survey buffer layout fixup).stride ≠ 0) :
    ∃ d ∈ layout.demands buffer fixup, d.element.stride ≠ 0 := by
  rcases Survey.stride_foldl _ h with h0 | ⟨d, hd, hstride⟩
  · exact absurd h0 h
  · exact ⟨d, hd, hstride ▸ h⟩

/-- **When an analysis reports no change**: the strides conflict, or every demand is met by the map
    as it is, and some attribute has a stride if there is one. -/
theorem changed_analyse_iff (h : c.Sound) (hfirst : (c.analysed && staticDecl) = false)
    (hfixup : fixup.isEmpty = false) :
    (c.analyse buffer layout fixup staticDecl).changed = false ↔
      c.Conflicts buffer layout fixup ∨ c.Meets buffer layout fixup ∧
        (c.map ≠ none → ∃ d ∈ layout.demands buffer fixup, d.element.stride ≠ 0) := by
  rw [(analyse_of_layout hfirst hfixup).1, Bool.and_eq_false_iff, Bool.not_eq_false',
    conflict_survey_iff]
  by_cases hconflict : c.Conflicts buffer layout fixup
  · exact iff_of_true (.inl hconflict) (.inl hconflict)
  have hclear : (c.survey buffer layout fixup).conflict = false :=
    Bool.eq_false_iff.mpr fun h => hconflict (conflict_survey_iff.mp h)
  have hchanged : (c.survey buffer layout fixup).changed = false ↔ c.Meets buffer layout fixup :=
    Survey.changed_iff hclear
  simp only [hconflict, false_or]
  rw [← hchanged]
  constructor
  · intro hfinish
    have hunchanged := Survey.changed_of_finish hfinish
    refine ⟨hunchanged, fun hmap => ?_⟩
    obtain ⟨m, hm⟩ := Option.ne_none_iff_exists'.mp hmap
    have hkept : (c.survey buffer layout fixup).map = some m :=
      (map_survey_of_unchanged hunchanged).trans hm
    have hstride : (c.survey buffer layout fixup).stride ≠ 0 := fun h0 => by
      rw [Survey.finish_of_unused hkept (.inl h0)] at hfinish
      cases hfinish
    exact exists_stride_of_survey hstride
  · rintro ⟨hunchanged, hsome⟩
    have hkept : (c.survey buffer layout fixup).map = c.map :=
      map_survey_of_unchanged hunchanged
    cases hmap : c.map with
    | none => rw [Survey.finish_of_none (hkept.trans hmap), hunchanged]
    | some m =>
      obtain ⟨d, hd, h0⟩ := hsome (by rw [hmap]; nofun)
      have hstride : (c.survey buffer layout fixup).stride ≠ 0 :=
        Survey.stride_foldl_of_mem (m := m) hmap hd h0 hclear
      rw [Survey.finish_of_useful (hkept.trans hmap) hstride (h m hmap).2, hunchanged]

/-! ## 2. The second analysis -/

/-- Where an analysis leaves a map without a conflict, some attribute has a stride. -/
theorem exists_stride_of_map (hfirst : (c.analysed && staticDecl) = false)
    (hfixup : fixup.isEmpty = false) (hconflict : ¬ c.Conflicts buffer layout fixup)
    (hmap : (c.analyse buffer layout fixup staticDecl).conversion.map ≠ none) :
    ∃ d ∈ layout.demands buffer fixup, d.element.stride ≠ 0 := by
  rw [(analyse_of_layout hfirst hfixup).2,
    if_neg fun h => hconflict (conflict_survey_iff.mp h)] at hmap
  obtain ⟨m, hm⟩ := Option.ne_none_iff_exists'.mp hmap
  exact exists_stride_of_survey (Survey.map_finish hm).2.1

/-- Demands of different strides conflict, unless they are not heeded. -/
theorem stride_eq_of_not_conflicts (hconflict : ¬ c.Conflicts buffer layout fixup)
    {d d' : Demand} (hd : d ∈ heeded c.map (layout.demands buffer fixup))
    (hd' : d' ∈ heeded c.map (layout.demands buffer fixup)) (h0 : d.element.stride ≠ 0)
    (h0' : d'.element.stride ≠ 0) : d.element.stride = d'.element.stride :=
  Decidable.byContradiction fun hne => hconflict ⟨d, hd, d', hd', h0, h0', hne⟩

/-- **What a consistent layout leaves meets it**, unless its strides conflict. -/
theorem meets_analyse_of_consistent (h : c.Sound) (hfirst : (c.analysed && staticDecl) = false)
    (hfixup : fixup.isEmpty = false) (hl : layout.Consistent buffer fixup)
    (hconflict : ¬ (c.analyse buffer layout fixup staticDecl).conversion.Conflicts buffer layout
      fixup) :
    (c.analyse buffer layout fixup staticDecl).conversion.Meets buffer layout fixup := by
  have hfree : ¬ c.Conflicts buffer layout fixup := fun hc => hconflict (hc.analyse hfirst hfixup)
  have hmem : ∀ d ∈ heeded c.map (layout.demands buffer fixup), d ∈ layout.demands buffer fixup :=
    fun d hd => mem_of_heeded hd
  cases hheeded : heeded c.map (layout.demands buffer fixup) with
  | nil =>
    -- nothing is heeded: the analysis finds no map and makes none
    intro d hd
    rw [map_analyse_of_unheeded hfirst hfixup hheeded]
    refine Decidable.byContradiction fun hidle => ?_
    have hmem : d ∈ heeded c.map (layout.demands buffer fixup) := heeded_of_not_idle hd hidle
    rw [hheeded] at hmem
    cases hmem
  | cons d₀ rest =>
    have hd₀ : d₀ ∈ heeded c.map (layout.demands buffer fixup) := by
      rw [hheeded]
      exact List.mem_cons_self
    have hstride := hl.stride_ne d₀ (hmem d₀ hd₀)
    have huniform : ∀ d ∈ heeded c.map (layout.demands buffer fixup),
        d.element.stride = d₀.element.stride := fun d hd =>
      stride_eq_of_not_conflicts hfree hd hd₀ (hl.stride_ne d (hmem d hd)) hstride
    have hmap : (c.analyse buffer layout fixup staticDecl).conversion.map = _ :=
      map_analyse_of_uniform hfirst hfixup hstride (List.ne_nil_of_mem hd₀) huniform
    have hground := regular_ground_map h hstride
    have hfold := Painting.regular_foldl hground (heeded c.map (layout.demands buffer fixup))
    have hs := stride_ground c.map hstride
    intro d hd
    split at hmap
    · -- the map that is left has the stride of all attributes, or they conflict
      have hall : ∀ d ∈ layout.demands buffer fixup, d.element.stride = d₀.element.stride := by
        intro d hd
        refine stride_eq_of_not_conflicts hconflict ?_ ?_ (hl.stride_ne d hd) hstride
        · rw [hmap]
          exact hd
        · rw [hmap]
          exact hmem d₀ hd₀
      rw [hmap, Painting.foldl_heeded c.map hl.stride_ne]
      refine ⟨Painting.meets_foldl hground ?_ hd, fun _ => ?_⟩
      · rw [hs]
        exact hl.agree_of_uniform (fun d hd => hd) hall
      · rw [(Painting.regular_foldl hground _).2, hs, hall d hd]
    · rename_i hfix
      rw [hmap]
      refine Decidable.byContradiction fun hidle => hfix ?_
      have hd' : d ∈ heeded c.map (layout.demands buffer fixup) := heeded_of_not_idle hd hidle
      refine hfold.1.hasFixup_of_meets (Painting.meets_foldl hground ?_ hd')
        fun hkeep => hidle (.inl hkeep)
      rw [hs]
      exact hl.agree_of_uniform hmem huniform

/-- **One layout analysed twice.** The second analysis reports no change and leaves the map exactly
    if the declaration is static, if there is no fixup to make, if the strides that it heeds
    conflict, or if the map that the first one left meets every demand. A consistent layout is
    analysed twice without a change, whatever was analysed before. -/
theorem analyse_again_iff (h : Reached c) (buffer : BufferId) (layout : VertexLayout)
    (fixup : FixupFlags) (staticDecl : Bool) :
    let first := (c.analyse buffer layout fixup staticDecl).conversion
    let second := first.analyse buffer layout fixup staticDecl
    (second.changed = false ∧ second.conversion.map = first.map ↔
      staticDecl = true ∨ fixup.isEmpty = true ∨ first.Conflicts buffer layout fixup ∨
        first.Meets buffer layout fixup) ∧
      (layout.Consistent buffer fixup →
        second.changed = false ∧ second.conversion.map = first.map) := by
  intro first second
  have hquiet : second.changed = false ∧ second.conversion.map = first.map ↔
      second.changed = false := and_iff_left_of_imp map_analyse
  rw [hquiet]
  by_cases hstatic : staticDecl = true
  · have hsecond : second = ⟨first, false, []⟩ := analyse_of_static analysed_analyse hstatic
    rw [hsecond]
    exact ⟨iff_of_true rfl (.inl hstatic), fun _ => rfl⟩
  have hdynamic (a : Bool) : (a && staticDecl) = false := by
    rw [Bool.eq_false_iff.mpr hstatic, Bool.and_false]
  by_cases hempty : fixup.isEmpty = true
  · have hfirst : first.map = none :=
      congrArg (·.conversion.map) (analyse_of_empty (hdynamic c.analysed) hempty)
    have hsecond : second.changed = first.map.isSome :=
      congrArg Analysis.changed (analyse_of_empty (hdynamic first.analysed) hempty)
    rw [hsecond, hfirst]
    exact ⟨iff_of_true rfl (.inr (.inl hempty)), fun _ => rfl⟩
  have hfixup := Bool.eq_false_iff.mpr hempty
  have hchanged : second.changed = false ↔
      first.Conflicts buffer layout fixup ∨ first.Meets buffer layout fixup := by
    rw [changed_analyse_iff h.sound.analyse (hdynamic first.analysed) hfixup]
    refine ⟨Or.imp_right And.left, fun hor => ?_⟩
    by_cases hconflict : first.Conflicts buffer layout fixup
    · exact .inl hconflict
    · exact .inr ⟨hor.resolve_left hconflict,
        exists_stride_of_map (hdynamic c.analysed) hfixup fun hc =>
          hconflict (hc.analyse (hdynamic c.analysed) hfixup)⟩
  rw [hchanged]
  refine ⟨⟨fun hor => .inr (.inr hor), fun hor => ?_⟩, fun hl => ?_⟩
  · exact (hor.resolve_left hstatic).resolve_left hempty
  · by_cases hconflict : first.Conflicts buffer layout fixup
    · exact .inl hconflict
    · exact .inr (meets_analyse_of_consistent h.sound (hdynamic c.analysed) hfixup hl hconflict)

/-- The layout in window coordinates, analysed twice for a new buffer. -/
theorem analyse_again_iff_window :
    windowLayout.Consistent ⟨0⟩ everyFixup ∧
      (behindWindow.analyse ⟨0⟩ windowLayout everyFixup false).changed = false ∧
      (behindWindow.analyse ⟨0⟩ windowLayout everyFixup false).conversion.map =
        behindWindow.map := by
  have hl : windowLayout.Consistent ⟨0⟩ everyFixup := ⟨by decide, by decide⟩
  exact ⟨hl, (analyse_again_iff .fresh ⟨0⟩ windowLayout everyFixup false).2 hl⟩

/-- One color for all vertices, and behind it one for each. -/
def constantLayout : VertexLayout :=
  ((VertexLayout.empty false).set .diffuse (some ⟨.b8g8r8a8Unorm, 0, 0, ⟨0⟩⟩)).set
    .specular (some ⟨.b8g8r8a8Unorm, 8, 4, ⟨0⟩⟩)

/-- A color that is read as a texture coordinate, too. -/
def sharedLayout : VertexLayout :=
  ((VertexLayout.empty false).set .diffuse (some ⟨.b8g8r8a8Unorm, 4, 0, ⟨0⟩⟩)).set
    .texCoord0 (some ⟨.r8g8b8a8Unorm, 4, 0, ⟨0⟩⟩)

/-- **Two layouts that are reported as changed again.** The constant color is passed over as long as
    there is no map, and tagged at the second analysis: the map is another one then. The shared
    color is tagged and cleared by every analysis, which leaves no map. -/
theorem analyse_again_changes :
    let first := (fresh.analyse ⟨0⟩ constantLayout everyFixup false).conversion
    let shared := (fresh.analyse ⟨0⟩ sharedLayout everyFixup false).conversion
    Reached first ∧
      (first.analyse ⟨0⟩ constantLayout everyFixup false).changed = true ∧
      (first.analyse ⟨0⟩ constantLayout everyFixup false).conversion.map ≠ first.map ∧
      Reached shared ∧
      (shared.analyse ⟨0⟩ sharedLayout everyFixup false).changed = true :=
  ⟨Reached.fresh.analyse _ _ _ _, by decide +kernel, by decide +kernel,
    Reached.fresh.analyse _ _ _ _, by decide +kernel⟩

end ConversionState

end BufferCoherence
