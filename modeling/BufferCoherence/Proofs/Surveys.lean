import BufferCoherence.Proofs.Demands

/-!
# What a whole pass finds

A pass goes over the demands of a layout, one after another. This file says what it has found when
it is through, as far as the demands and the map at the start tell:

* without a map the first demands that make none are passed over (`heeded` is what is left);
* **`Survey.conflict_iff`**: there is a conflict exactly if two heeded demands have different
  strides;
* **`Survey.changed_iff`**: nothing changes exactly if the map at the start meets every demand;
* `Survey.foldl_start_of_uniform`: heeded demands of one stride are painted over the ground, one
  after another.

`ConversionState.analyse_of_layout` is the answer of the analysis in these words, and
`ConversionState.Reached.sound` what holds of every map that analyses lead to.
-/

namespace BufferCoherence

/-! ## 1. Regular maps -/

namespace ConversionMap

/-- The map has one fixup for each byte of a vertex, and the vertex has bytes. -/
structure Regular (m : ConversionMap) : Prop where
  stride_ne : m.stride ≠ 0
  size : m.tags.size = m.stride

variable {m : ConversionMap} {d : Demand} {stride : Nat}

theorem regular_plain (h : stride ≠ 0) : (plain stride).Regular := ⟨h, Array.size_replicate⟩

theorem tag_plain (i : Nat) : (plain stride).tag i = .keep := by
  unfold tag plain
  rw [Array.getElem?_replicate]
  split <;> rfl

theorem Regular.paint (h : m.Regular) (d : Demand) : (m.paint d).Regular :=
  ⟨h.stride_ne, size_paint.trans h.size⟩

theorem Regular.tag_paint (h : m.Regular) {i : Nat} (hi : i < m.stride) :
    (m.paint d).tag i = if d.element.Covers m.stride i then d.fixup else m.tag i :=
  ConversionMap.tag_paint (h.size.symm ▸ hi)

/-- Regular maps of one stride are the same when each byte has the same fixup. -/
theorem Regular.ext {a b : ConversionMap} (ha : a.Regular) (hb : b.Regular)
    (hstride : a.stride = b.stride) (htag : ∀ i < a.stride, a.tag i = b.tag i) : a = b := by
  refine ext_tags hstride fun i => ?_
  by_cases hi : i < a.stride
  · rw [getElem?_tags (by rw [ha.size]; exact hi),
      getElem?_tags (by rw [hb.size, ← hstride]; exact hi), htag i hi]
  · rw [Array.getElem?_eq_none (by rw [ha.size]; omega),
      Array.getElem?_eq_none (by rw [hb.size, ← hstride]; omega)]

/-- A regular map converts something exactly if some byte of a vertex has a fixup. -/
theorem Regular.hasFixup_iff (h : m.Regular) :
    m.hasFixup = true ↔ ∃ i < m.stride, m.tag i ≠ .keep := by
  unfold hasFixup
  rw [Array.any_eq_true]
  constructor
  · rintro ⟨i, hi, hne⟩
    refine ⟨i, h.size ▸ hi, ?_⟩
    have htag := Option.some.inj ((getElem?_tags hi).symm.trans (Array.getElem?_eq_getElem hi))
    rw [htag]
    exact of_decide_eq_true hne
  · rintro ⟨i, hi, hne⟩
    have hi' : i < m.tags.size := h.size.symm ▸ hi
    have htag := Option.some.inj ((getElem?_tags hi').symm.trans (Array.getElem?_eq_getElem hi'))
    refine ⟨i, hi', decide_eq_true ?_⟩
    rw [← htag]
    exact hne

/-- A map that meets a demand for a fixup converts something. -/
theorem Regular.hasFixup_of_meets (h : m.Regular) (hmeets : m.Meets d) (hd : d.fixup ≠ .keep) :
    m.hasFixup = true := by
  refine h.hasFixup_iff.mpr
    ⟨(d.element.offset + 0) % m.stride, Nat.mod_lt _ (Nat.pos_of_ne_zero h.stride_ne), ?_⟩
  rw [hmeets 0 d.element.format.width_pos]
  exact hd

end ConversionMap

open ConversionMap

theorem regular_ground {map : Option ConversionMap} {stride : Nat}
    (h : ∀ m, map = some m → m.Regular) (hne : map ≠ none ∨ stride ≠ 0) :
    (ground map stride).Regular := by
  cases map with
  | none => exact regular_plain (hne.resolve_left fun h => h rfl)
  | some m =>
    by_cases hm : stride = 0 ∨ m.stride = stride
    · rw [ground_of_stride hm]
      exact h m rfl
    · have hstride : stride ≠ 0 := fun h0 => hm (.inl h0)
      rw [ground_of_ne hstride fun h' => hm (.inr h')]
      exact regular_plain hstride

/-! ## 2. What each step keeps -/

/-- Two demands have different strides. -/
def Clash (ds : List Demand) : Prop :=
  ∃ d ∈ ds, ∃ d' ∈ ds, d.element.stride ≠ 0 ∧ d'.element.stride ≠ 0 ∧
    d.element.stride ≠ d'.element.stride

instance (ds : List Demand) : Decidable (Clash ds) :=
  inferInstanceAs (Decidable (∃ d ∈ ds, ∃ d' ∈ ds, _ ∧ _ ∧ _))

/-- **The demand is met by a map**: the map has its stride, if it has one, and its bytes are tagged
    as it asks. Without a map, the demand makes none. -/
def Demand.MetBy (d : Demand) : Option ConversionMap → Prop
  | some m => m.Meets d ∧ (d.element.stride ≠ 0 → d.element.stride = m.stride)
  | none => d.Idle

instance (d : Demand) : (map : Option ConversionMap) → Decidable (d.MetBy map)
  | some m => inferInstanceAs (Decidable (m.Meets d ∧ (_ → _)))
  | none => inferInstanceAs (Decidable d.Idle)

/-- **The demands that a pass heeds**: all of them where there is a map, and else the ones from the
    first that makes a map on. -/
def heeded (map : Option ConversionMap) (ds : List Demand) : List Demand :=
  if map.isSome then ds else ds.dropWhile fun d => d.Idle

@[simp] theorem heeded_some (m : ConversionMap) (ds : List Demand) : heeded (some m) ds = ds := rfl

theorem heeded_of_idle {d : Demand} (h : d.Idle) (ds : List Demand) :
    heeded none (d :: ds) = heeded none ds :=
  List.dropWhile_cons_of_pos (p := fun d : Demand => decide d.Idle) (decide_eq_true h)

theorem heeded_of_head {d : Demand} (h : ¬ d.Idle) (ds : List Demand) :
    heeded none (d :: ds) = d :: ds :=
  List.dropWhile_cons_of_neg (p := fun d : Demand => decide d.Idle) (by simpa using h)

theorem mem_of_heeded {map : Option ConversionMap} {ds : List Demand} {d : Demand}
    (h : d ∈ heeded map ds) : d ∈ ds := by
  cases map with
  | none => exact (List.dropWhile_sublist _).subset h
  | some m => exact h

/-- The first heeded demand makes a map. -/
theorem not_idle_of_heeded {ds rest : List Demand} {d : Demand}
    (h : heeded none ds = d :: rest) : ¬ d.Idle := by
  induction ds with
  | nil => cases h
  | cons a ds ih =>
    by_cases ha : a.Idle
    · rw [heeded_of_idle ha] at h
      exact ih h
    · rw [heeded_of_head ha] at h
      exact (List.cons.inj h).1 ▸ ha

/-- A demand that makes a map is heeded. -/
theorem heeded_of_not_idle {map : Option ConversionMap} {ds : List Demand} {d : Demand}
    (hd : d ∈ ds) (h : ¬ d.Idle) : d ∈ heeded map ds := by
  cases map with
  | some m => exact hd
  | none =>
    induction ds with
    | nil => cases hd
    | cons a ds ih =>
      by_cases ha : a.Idle
      · rw [heeded_of_idle ha]
        exact ih ((List.mem_cons.mp hd).resolve_left fun he => h (he ▸ ha))
      · rw [heeded_of_head ha]
        exact hd

namespace Survey

variable {s : Survey} {d : Demand} {ds : List Demand} {m : ConversionMap} {stride : Nat}

/-- Without a map there is no stride, and a stride is that of the map. -/
structure Sound (s : Survey) : Prop where
  regular : ∀ m, s.map = some m → m.Regular
  stride : s.stride ≠ 0 → ∃ m, s.map = some m ∧ m.stride = s.stride

theorem Sound.start {map : Option ConversionMap} (h : ∀ m, map = some m → m.Regular) :
    (start map).Sound :=
  ⟨h, fun h0 => absurd rfl h0⟩

theorem map_ne_none_of_not_passesOver (h : ¬ s.PassesOver d) :
    s.map ≠ none ∨ d.element.stride ≠ 0 := by
  by_cases hmap : s.map = none
  · exact .inr fun h0 => h ⟨hmap, .inr h0⟩
  · exact .inl hmap

theorem Sound.step (h : s.Sound) (d : Demand) : (s.step d).Sound := by
  by_cases hconflict : s.conflict = true
  · rw [step_of_conflict hconflict]
    exact h
  have hclear := Bool.eq_false_iff.mpr hconflict
  by_cases hpasses : s.PassesOver d
  · rw [step_of_passesOver hpasses]
    exact h
  by_cases hclash : s.Clashes d
  · rw [step_of_clashes hclear hpasses hclash]
    exact ⟨h.regular, h.stride⟩
  rw [step_tagged hclear hpasses hclash]
  refine ⟨fun m hm => ?_, fun hne => ⟨_, rfl, ?_⟩⟩
  · cases hm
    exact (regular_ground h.regular (map_ne_none_of_not_passesOver hpasses)).paint d
  · -- the stride is that of the ground
    rw [stride_paint]
    simp only [tagged] at hne ⊢
    by_cases h0 : d.element.stride = 0
    · rw [if_pos h0] at hne ⊢
      obtain ⟨m, hm, hstride⟩ := h.stride hne
      rw [hm, ground_of_stride (.inl h0), hstride]
    · rw [if_neg h0]
      exact stride_ground s.map h0

theorem Sound.foldl (h : s.Sound) (ds : List Demand) : (ds.foldl Survey.step s).Sound := by
  induction ds generalizing s with
  | nil => exact h
  | cons d rest ih => exact ih (h.step d)

/-- A conflict ends the pass. -/
theorem foldl_of_conflict (h : s.conflict = true) (ds : List Demand) :
    ds.foldl step s = s := by
  induction ds with
  | nil => rfl
  | cons d rest ih => rw [List.foldl_cons, step_of_conflict h, ih]

theorem changed_step (h : s.changed = true) (d : Demand) : (s.step d).changed = true := by
  unfold step
  split
  · exact h
  · split
    · exact h
    · simp only [tagged, h, Bool.true_or]

/-- A change stays reported. -/
theorem changed_foldl (h : s.changed = true) (ds : List Demand) :
    (ds.foldl step s).changed = true := by
  induction ds generalizing s with
  | nil => exact h
  | cons d rest ih => exact ih (changed_step h d)

/-- The stride of a survey is that of a demand. -/
theorem stride_foldl (ds : List Demand) (h : (ds.foldl step s).stride ≠ 0) :
    (ds.foldl step s).stride = s.stride ∨
      ∃ d ∈ ds, d.element.stride = (ds.foldl step s).stride := by
  induction ds generalizing s with
  | nil => exact .inl rfl
  | cons d rest ih =>
    rw [List.foldl_cons] at h ⊢
    rcases ih h with hs | ⟨d', hd', hstride⟩
    · rw [hs] at h ⊢
      have hcases : (s.step d).stride = s.stride ∨ (s.step d).stride = d.element.stride := by
        unfold step
        split
        · exact .inl rfl
        · split
          · exact .inl rfl
          · simp only [tagged]
            split
            · exact .inl rfl
            · exact .inr rfl
      rcases hcases with hc | hc
      · exact .inl hc
      · exact .inr ⟨d, List.mem_cons_self, hc.symm⟩
    · exact .inr ⟨d', List.mem_cons_of_mem _ hd', hstride⟩

/-- Demands that are not heeded do nothing. -/
theorem foldl_heeded (s : Survey) (ds : List Demand) :
    ds.foldl step s = (heeded s.map ds).foldl step s := by
  cases hmap : s.map with
  | some m => rfl
  | none =>
    induction ds with
    | nil => rfl
    | cons d rest ih =>
      by_cases hidle : d.Idle
      · rw [List.foldl_cons, step_of_passesOver ⟨hmap, hidle⟩, ih, heeded_of_idle hidle]
      · rw [heeded_of_head hidle]

/-! ## 3. Conflicts -/

theorem clash_cons_of_zero (h : d.element.stride = 0) : Clash (d :: ds) ↔ Clash ds := by
  constructor
  · rintro ⟨a, ha, b, hb, ha0, hb0, hne⟩
    have mem_rest {x : Demand} (hx : x ∈ d :: ds) (hx0 : x.element.stride ≠ 0) : x ∈ ds :=
      (List.mem_cons.mp hx).resolve_left fun he => hx0 (he ▸ h)
    exact ⟨a, mem_rest ha ha0, b, mem_rest hb hb0, ha0, hb0, hne⟩
  · rintro ⟨a, ha, b, hb, hab⟩
    exact ⟨a, List.mem_cons_of_mem _ ha, b, List.mem_cons_of_mem _ hb, hab⟩

theorem clash_cons (h : d.element.stride ≠ 0) : Clash (d :: ds) ↔
    (∃ a ∈ ds, a.element.stride ≠ 0 ∧ a.element.stride ≠ d.element.stride) ∨ Clash ds := by
  constructor
  · rintro ⟨a, ha, b, hb, ha0, hb0, hne⟩
    rcases List.mem_cons.mp ha with rfl | ha
    · rcases List.mem_cons.mp hb with rfl | hb
      · exact absurd rfl hne
      · exact .inl ⟨b, hb, hb0, Ne.symm hne⟩
    · rcases List.mem_cons.mp hb with hbd | hb
      · exact .inl ⟨a, ha, ha0, hbd ▸ hne⟩
      · exact .inr ⟨a, ha, b, hb, ha0, hb0, hne⟩
  · rintro (⟨a, ha, ha0, hne⟩ | ⟨a, ha, b, hb, hab⟩)
    · exact ⟨a, List.mem_cons_of_mem _ ha, d, List.mem_cons_self, ha0, h, hne⟩
    · exact ⟨a, List.mem_cons_of_mem _ ha, b, List.mem_cons_of_mem _ hb, hab⟩

theorem not_passesOver_of_map (h : s.map = some m) : ¬ s.PassesOver d :=
  fun hp => nomatch h.symm.trans hp.1

theorem conflict_foldl_of_map (hclear : s.conflict = false) (hmap : s.map = some m) :
    (ds.foldl step s).conflict = true ↔ (∃ d ∈ ds, s.Clashes d) ∨ Clash ds := by
  induction ds generalizing s m with
  | nil => simp [hclear, Clash]
  | cons d rest ih =>
    rw [List.foldl_cons]
    by_cases hclash : s.Clashes d
    · rw [step_of_clashes hclear (not_passesOver_of_map hmap) hclash, foldl_of_conflict rfl]
      exact iff_of_true rfl (.inl ⟨d, List.mem_cons_self, hclash⟩)
    rw [step_tagged hclear (not_passesOver_of_map hmap) hclash,
      ih (s := s.tagged d) hclear rfl]
    simp only [List.mem_cons, exists_eq_or_imp, hclash, false_or]
    by_cases h0 : d.element.stride = 0
    · have hstride : (s.tagged d).stride = s.stride := if_pos h0
      simp only [clash_cons_of_zero h0, Clashes, hstride]
    · have hstride : (s.tagged d).stride = d.element.stride := if_neg h0
      have hsame : s.stride = 0 ∨ s.stride = d.element.stride := by
        by_cases hs : s.stride = 0
        · exact .inl hs
        · exact .inr (Decidable.not_not.mp fun hne => hclash ⟨h0, hs, Ne.symm hne⟩)
      rw [clash_cons h0, ← or_assoc]
      refine or_congr_left ?_
      simp only [Clashes, hstride]
      constructor
      · rintro ⟨a, ha, ha0, -, hne⟩
        exact .inr ⟨a, ha, ha0, hne⟩
      · rintro (⟨a, ha, ha0, hs0, hne⟩ | ⟨a, ha, ha0, hne⟩)
        · exact ⟨a, ha, ha0, h0, (hsame.resolve_left hs0) ▸ hne⟩
        · exact ⟨a, ha, ha0, h0, hne⟩

/-- **A pass ends in a conflict exactly if two demands that it heeds have different strides.** -/
theorem conflict_iff (map : Option ConversionMap) (ds : List Demand) :
    (ds.foldl step (start map)).conflict = true ↔ Clash (heeded map ds) := by
  have hfree (d : Demand) : ¬ (start map).Clashes d := fun h => h.2.1 rfl
  rw [foldl_heeded]
  cases hmap : map with
  | some m =>
    subst hmap
    rw [conflict_foldl_of_map (m := m) rfl rfl]
    exact or_iff_right fun ⟨d, _, h⟩ => hfree d h
  | none =>
    subst hmap
    rw [show (start none).map = none from rfl]
    cases hds : heeded none ds with
    | nil => exact iff_of_false Bool.false_ne_true fun ⟨d, hd, _⟩ => nomatch hd
    | cons d rest =>
      have hidle := not_idle_of_heeded hds
      have h0 : d.element.stride ≠ 0 := fun h => hidle (.inr h)
      have hstride : ((start none).tagged d).stride = d.element.stride := if_neg h0
      rw [List.foldl_cons, step_tagged rfl (fun h => hidle h.2) (hfree d),
        conflict_foldl_of_map (s := (start none).tagged d) rfl rfl, clash_cons h0]
      simp only [Clashes, hstride]
      exact or_congr_left (exists_congr fun a => and_congr_right fun _ =>
        and_congr_right fun _ => and_iff_right h0)

/-! ## 4. Changes -/

theorem changed_tagged : (s.tagged d).changed = (s.changed ||
    decide (s.map ≠ some (ground s.map d.element.stride)) ||
    !decide ((ground s.map d.element.stride).Meets d)) := rfl

/-- A demand that changes nothing is met by the map as it is. -/
theorem changed_tagged_of_map (hmap : s.map = some m) :
    (s.tagged d).changed = false ↔ s.changed = false ∧ d.MetBy (some m) := by
  rw [changed_tagged, hmap]
  by_cases hstride : d.element.stride = 0 ∨ m.stride = d.element.stride
  · rw [ground_of_stride hstride]
    have hsame : d.element.stride ≠ 0 → d.element.stride = m.stride :=
      fun h => (hstride.resolve_left h).symm
    simp only [ne_eq, not_true_eq_false, decide_false, Bool.or_false, Bool.or_eq_false_iff,
      Bool.not_eq_false', decide_eq_true_eq]
    exact and_congr_right fun _ => (and_iff_left hsame).symm
  · have h0 : d.element.stride ≠ 0 := fun h => hstride (.inl h)
    have hne : m.stride ≠ d.element.stride := fun h => hstride (.inr h)
    have hground : m ≠ .plain d.element.stride := fun h => hne (congrArg ConversionMap.stride h)
    rw [ground_of_ne h0 hne]
    refine iff_of_false ?_ fun h => hne (h.2.2 h0).symm
    simp [hground]

/-- A demand that changes nothing leaves the map. -/
theorem map_tagged_of_unchanged (h : (s.tagged d).changed = false) :
    (s.tagged d).map = s.map := by
  obtain ⟨hbefore, hmeets⟩ := Bool.or_eq_false_iff.mp (changed_tagged.symm.trans h)
  have hground := Decidable.not_not.mp (of_decide_eq_false (Bool.or_eq_false_iff.mp hbefore).2)
  rw [hground]
  refine congrArg some (paint_of_meets ?_)
  simpa using hmeets

/-- In a pass without a conflict every demand is tagged, once there is a map. -/
theorem step_of_clear {rest : List Demand} (hmap : s.map = some m)
    (hclear : (rest.foldl step (s.step d)).conflict = false) : s.step d = s.tagged d := by
  have hfree : s.conflict = false := by
    refine Bool.eq_false_iff.mpr fun h => ?_
    rw [step_of_conflict h, foldl_of_conflict h, h] at hclear
    cases hclear
  refine step_tagged hfree (not_passesOver_of_map hmap) fun h => ?_
  rw [step_of_clashes hfree (not_passesOver_of_map hmap) h, foldl_of_conflict rfl] at hclear
  cases hclear

theorem changed_foldl_of_map (hmap : s.map = some m)
    (hclear : (ds.foldl step s).conflict = false) :
    (ds.foldl step s).changed = false ↔ s.changed = false ∧ ∀ d ∈ ds, d.MetBy (some m) := by
  induction ds generalizing s with
  | nil => simp
  | cons d rest ih =>
    rw [List.foldl_cons] at hclear ⊢
    have hstep := step_of_clear hmap hclear
    rw [hstep] at hclear ⊢
    rw [List.forall_mem_cons, ← and_assoc, ← changed_tagged_of_map hmap]
    by_cases hchanged : (s.tagged d).changed = false
    · rw [ih ((map_tagged_of_unchanged hchanged).trans hmap) hclear]
    · have hstays := changed_foldl (Bool.not_eq_false _ ▸ hchanged) rest
      rw [hstays]
      exact iff_of_false nofun fun h => hchanged h.1

/-- **A pass without a conflict changes nothing exactly if the map at the start meets every
    demand.** -/
theorem changed_iff {map : Option ConversionMap}
    (hclear : (ds.foldl step (start map)).conflict = false) :
    (ds.foldl step (start map)).changed = false ↔ ∀ d ∈ ds, d.MetBy map := by
  cases map with
  | some m =>
    rw [changed_foldl_of_map (m := m) rfl hclear]
    exact and_iff_right rfl
  | none =>
    rw [foldl_heeded] at hclear ⊢
    rw [show (start none).map = none from rfl] at hclear ⊢
    cases hds : heeded none ds with
    | nil =>
      refine iff_of_true rfl fun d hd => Decidable.byContradiction fun hidle => ?_
      change ¬ d.Idle at hidle
      have hheeded : d ∈ heeded none ds := heeded_of_not_idle hd hidle
      rw [hds] at hheeded
      cases hheeded
    | cons d rest =>
      have hidle := not_idle_of_heeded hds
      have hheeded : d ∈ heeded none ds := hds ▸ List.mem_cons_self
      have hstep : (start none).step d = (start none).tagged d :=
        step_tagged rfl (fun h => hidle h.2) fun h => h.2.1 rfl
      rw [List.foldl_cons, hstep, changed_foldl rfl rest]
      exact iff_of_false nofun fun h => hidle (h d (mem_of_heeded hheeded))

/-! ## 5. Demands of one stride -/

theorem foldl_of_uniform (ds : List Demand) (hclear : s.conflict = false)
    (hmap : s.map = some m) (hstride : s.stride = stride) (hm : m.stride = stride)
    (huniform : ∀ d ∈ ds, d.element.stride = stride) :
    (ds.foldl step s).conflict = false ∧ (ds.foldl step s).stride = stride ∧
      (ds.foldl step s).map = some (ds.foldl paint m) := by
  induction ds generalizing s m with
  | nil => exact ⟨hclear, hstride, hmap⟩
  | cons d rest ih =>
    have hd := huniform d List.mem_cons_self
    have hstep : s.step d = s.tagged d := by
      refine step_tagged hclear (not_passesOver_of_map hmap) fun h => h.2.2 ?_
      rw [hd, hstride]
    have hground : ground s.map d.element.stride = m := by
      rw [hmap, ground_of_stride (.inr (hm.trans hd.symm))]
    rw [List.foldl_cons, List.foldl_cons, hstep]
    refine ih hclear ?_ ?_ hm fun d' hd' => huniform d' (List.mem_cons_of_mem _ hd')
    · show some ((ground s.map d.element.stride).paint d) = _
      rw [hground]
    · show (if d.element.stride = 0 then s.stride else d.element.stride) = stride
      rw [hstride, hd, ite_self]

/-- **Heeded demands of one stride are painted over the ground, one after another.** -/
theorem foldl_start_of_uniform {map : Option ConversionMap} (hstride : stride ≠ 0)
    (hne : heeded map ds ≠ []) (huniform : ∀ d ∈ heeded map ds, d.element.stride = stride) :
    (ds.foldl step (start map)).conflict = false ∧
      (ds.foldl step (start map)).stride = stride ∧
      (ds.foldl step (start map)).map =
        some ((heeded map ds).foldl paint (ground map stride)) := by
  rw [foldl_heeded, show (start map).map = map from rfl]
  cases hds : heeded map ds with
  | nil => exact absurd hds hne
  | cons d rest =>
    rw [hds] at huniform
    have hd := huniform d List.mem_cons_self
    have hpasses : ¬ (start map).PassesOver d := fun h => by
      have hnone : map = none := h.1
      rw [hnone] at hds
      exact not_idle_of_heeded hds h.2
    have hstep : (start map).step d = (start map).tagged d :=
      step_tagged rfl hpasses fun h => h.2.1 rfl
    rw [List.foldl_cons, List.foldl_cons, hstep]
    refine foldl_of_uniform rest rfl ?_ ?_ ?_ fun d' hd' => huniform d' (List.mem_cons_of_mem _ hd')
    · show some ((ground map d.element.stride).paint d) = _
      rw [hd]
    · show (if d.element.stride = 0 then 0 else d.element.stride) = stride
      rw [hd, if_neg hstride]
    · rw [stride_paint, stride_ground map hstride]

end Survey

/-! ## 6. The answer of an analysis -/

namespace Survey

variable {s : Survey} {m : ConversionMap}

/-- The survey with a map of no use removed: one that no attribute was tagged in, or one that
    converts nothing. -/
def finish (s : Survey) : Survey :=
  match s.map with
  | some m => if s.stride = 0 || !m.hasFixup then { s with map := none, changed := true } else s
  | none => s

theorem finish_of_none (h : s.map = none) : s.finish = s := by
  unfold finish
  rw [h]

theorem finish_of_useful (h : s.map = some m) (hstride : s.stride ≠ 0)
    (hfixup : m.hasFixup = true) : s.finish = s := by
  unfold finish
  rw [h]
  simp [hstride, hfixup]

theorem finish_of_unused (h : s.map = some m) (hunused : s.stride = 0 ∨ m.hasFixup = false) :
    s.finish = { s with map := none, changed := true } := by
  unfold finish
  rw [h]
  rcases hunused with h0 | h0 <;> simp [h0]

/-- What is left of a map that is of use. -/
theorem map_finish (h : s.finish.map = some m) :
    s.map = some m ∧ s.stride ≠ 0 ∧ m.hasFixup = true := by
  cases hmap : s.map with
  | none =>
    rw [finish_of_none hmap, hmap] at h
    cases h
  | some m' =>
    by_cases hunused : s.stride = 0 ∨ m'.hasFixup = false
    · rw [finish_of_unused hmap hunused] at h
      cases h
    · have hstride : s.stride ≠ 0 := fun h => hunused (.inl h)
      have hfixup : m'.hasFixup = true := by simpa using fun h => hunused (.inr h)
      rw [finish_of_useful hmap hstride hfixup, hmap] at h
      cases h
      exact ⟨rfl, hstride, hfixup⟩

theorem changed_of_finish (h : s.finish.changed = false) : s.changed = false := by
  unfold finish at h
  split at h
  · split at h
    · cases h
    · exact h
  · exact h

end Survey

theorem Pass.survey_dropUnused (p : Pass) (buffer : BufferId) :
    (p.dropUnused buffer).survey = p.survey.finish := by
  cases hmap : p.map with
  | none =>
    rw [Survey.finish_of_none hmap]
    unfold dropUnused mapUnused
    rw [hmap]
    rfl
  | some m =>
    unfold dropUnused mapUnused Survey.finish
    rw [hmap, show p.survey.map = some m from hmap]
    dsimp only
    rw [show p.survey.stride = p.stride from rfl]
    split
    · split <;> rfl
    · rfl

namespace ConversionState

variable {c : ConversionState} {buffer : BufferId} {layout : VertexLayout} {fixup : FixupFlags}
  {staticDecl : Bool}

/-- What the analysis of a layout finds for a buffer with a map. -/
def survey (c : ConversionState) (buffer : BufferId) (layout : VertexLayout)
    (fixup : FixupFlags) : Survey :=
  (layout.demands buffer fixup).foldl Survey.step (.start c.map)

theorem survey_eq (c : ConversionState) (buffer : BufferId) (layout : VertexLayout)
    (fixup : FixupFlags) :
    (Pass.run buffer layout fixup c.map).survey = c.survey buffer layout fixup :=
  Pass.survey_run buffer layout fixup c.map

/-- With a static declaration only the first layout counts. -/
theorem analyse_of_static (hanalysed : c.analysed = true) (hstatic : staticDecl = true) :
    c.analyse buffer layout fixup staticDecl = ⟨c, false, []⟩ := by
  unfold analyse
  rw [if_pos (by rw [hanalysed, hstatic]; rfl)]

theorem analyse_of_empty (hfirst : (c.analysed && staticDecl) = false)
    (hfixup : fixup.isEmpty = true) :
    c.analyse buffer layout fixup staticDecl = ⟨⟨none, true⟩, c.map.isSome, [.noFixup]⟩ := by
  unfold analyse
  rw [if_neg (by rw [hfirst]; exact Bool.false_ne_true), if_pos hfixup]

/-- **The answer of an analysis**, in terms of what it finds: after a conflict the map is what it
    was, and else it is what the pass leaves, unless that is of no use. -/
theorem analyse_of_layout (hfirst : (c.analysed && staticDecl) = false)
    (hfixup : fixup.isEmpty = false) :
    (c.analyse buffer layout fixup staticDecl).changed =
        (!(c.survey buffer layout fixup).conflict &&
          (c.survey buffer layout fixup).finish.changed) ∧
      (c.analyse buffer layout fixup staticDecl).conversion.map =
        if (c.survey buffer layout fixup).conflict then c.map
        else (c.survey buffer layout fixup).finish.map := by
  have hsurvey := c.survey_eq buffer layout fixup
  have hfinish := Pass.survey_dropUnused (Pass.run buffer layout fixup c.map) buffer
  have hconflict : (Pass.run buffer layout fixup c.map).conflict = _ :=
    congrArg Survey.conflict hsurvey
  rw [hsurvey] at hfinish
  have hmap : ((Pass.run buffer layout fixup c.map).dropUnused buffer).map = _ :=
    congrArg Survey.map hfinish
  have hchanged : ((Pass.run buffer layout fixup c.map).dropUnused buffer).changed = _ :=
    congrArg Survey.changed hfinish
  unfold analyse
  rw [if_neg (by rw [hfirst]; exact Bool.false_ne_true),
    if_neg (by rw [hfixup]; exact Bool.false_ne_true)]
  dsimp only
  rw [hconflict]
  by_cases hc : (c.survey buffer layout fixup).conflict = true
  · rw [if_pos hc, if_pos hc, hc]
    exact ⟨rfl, rfl⟩
  · rw [if_neg hc, if_neg hc, Bool.eq_false_iff.mpr hc, Bool.not_false, Bool.true_and]
    split
    · exact ⟨hchanged, hmap⟩
    · exact ⟨hchanged, hmap⟩

theorem analysed_analyse :
    (c.analyse buffer layout fixup staticDecl).conversion.analysed = true := by
  unfold analyse
  split
  · rename_i h
    exact (Bool.and_eq_true_iff.mp h).1
  · split
    · rfl
    · dsimp only
      split <;> rfl

/-! ## 7. Histories -/

/-- **What analyses lead to**, of any layouts, for any buffers, one after another. -/
inductive Reached : ConversionState → Prop where
  | fresh : Reached .fresh
  | analyse {c : ConversionState} (h : Reached c) (buffer : BufferId) (layout : VertexLayout)
      (fixup : FixupFlags) (staticDecl : Bool) :
      Reached (c.analyse buffer layout fixup staticDecl).conversion

/-- A map is regular, and of use. -/
def Sound (c : ConversionState) : Prop := ∀ m, c.map = some m → m.Regular ∧ m.hasFixup = true

theorem Sound.survey (h : c.Sound) : (c.survey buffer layout fixup).Sound :=
  (Survey.Sound.start fun m hm => (h m hm).1).foldl _

theorem Sound.analyse (h : c.Sound) :
    (c.analyse buffer layout fixup staticDecl).conversion.Sound := by
  by_cases hstatic : (c.analysed && staticDecl) = true
  · obtain ⟨h₁, h₂⟩ := Bool.and_eq_true_iff.mp hstatic
    rw [analyse_of_static h₁ h₂]
    exact h
  have hfirst := Bool.eq_false_iff.mpr hstatic
  by_cases hempty : fixup.isEmpty = true
  · rw [analyse_of_empty hfirst hempty]
    exact nofun
  intro m hm
  rw [(analyse_of_layout hfirst (Bool.eq_false_iff.mpr hempty)).2] at hm
  split at hm
  · exact h m hm
  · obtain ⟨hmap, -, hfixup⟩ := Survey.map_finish hm
    exact ⟨h.survey.regular m hmap, hfixup⟩

/-- **A map that analyses lead to is regular and converts something.** -/
theorem Reached.sound (h : Reached c) : c.Sound := by
  induction h with
  | fresh => exact nofun
  | analyse _ buffer layout fixup staticDecl ih => exact ih.analyse

end ConversionState

end BufferCoherence
