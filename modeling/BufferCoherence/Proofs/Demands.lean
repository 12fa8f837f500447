import BufferCoherence.Vertex.Analysis

/-!
# What a layout demands of a conversion map

An attribute that a buffer feeds lies on certain bytes of the vertex (`VertexAttribute.Covers`) and
needs one fixup on all of them. This file takes the analysis of a layout from single bytes to such
demands:

* `VertexLayout.needs` is the fixup that an attribute needs, `VertexLayout.demands` what a layout
  demands of the map of one buffer, in the order of the slots;
* `ConversionMap.paint` tags the bytes of a demand at once, `ConversionMap.Meets` says that they
  are tagged already;
* `Survey` is a pass without what it has to tell, and `Survey.step` what one demand does to it.
  **`Pass.survey_run`**: the pass over the slots is the fold of that step over the demands.
-/

namespace BufferCoherence

/-! ## 1. Attributes and their bytes -/

/-- The attribute lies on byte `i` of a vertex of `stride` bytes. An attribute that leaves the
    vertex goes on at its start. -/
def VertexAttribute.Covers (e : VertexAttribute) (stride i : Nat) : Prop :=
  ∃ k < e.format.width, (e.offset + k) % stride = i

instance (e : VertexAttribute) (stride i : Nat) : Decidable (e.Covers stride i) :=
  inferInstanceAs (Decidable (∃ k < e.format.width, (e.offset + k) % stride = i))

/-- An attribute and the fixup that is to be made on its bytes. -/
structure Demand where
  element : VertexAttribute
  fixup : ByteFixup
deriving DecidableEq

namespace Demand

/-- The demand alone makes no map: nothing is to be converted, or the vertex is not known. -/
def Idle (d : Demand) : Prop := d.fixup = .keep ∨ d.element.stride = 0

instance (d : Demand) : Decidable d.Idle := inferInstanceAs (Decidable (_ ∨ _))

end Demand

namespace VertexLayout

variable (l : VertexLayout) (buffer : BufferId) (fixup : FixupFlags)

/-- The attributes that a buffer feeds, in the order of the slots. -/
def fed : List (AttributeSlot × VertexAttribute) :=
  AttributeSlot.all.filterMap fun slot =>
    match l.element slot with
    | some e => if e.buffer = buffer then some (slot, e) else none
    | none => none

/-- The fixup that an attribute needs: a packed color has red and blue swapped, and the position of
    a transformed layout is brought back to homogeneous coordinates. -/
def needs (slot : AttributeSlot) (e : VertexAttribute) : ByteFixup :=
  if fixup.has FixupFlags.color && e.format == .b8g8r8a8Unorm then .color
  else if slot == .position && fixup.has FixupFlags.position && l.transformed then .position
  else .keep

/-- What an attribute demands of a map; a transformed position that cannot be converted demands
    nothing. -/
def demand? (slot : AttributeSlot) (e : VertexAttribute) : Option Demand :=
  match treatment fixup l.transformed true slot e.format with
  | .tag f => some ⟨e, f⟩
  | _ => none

/-- **What the layout demands of the map of a buffer**, in the order of the slots. -/
def demands : List Demand := (l.fed buffer).filterMap fun a => l.demand? fixup a.1 a.2

variable {l buffer fixup}

/-- An attribute demands the fixup that it needs, if it demands one. -/
theorem demand?_eq_some {slot : AttributeSlot} {e : VertexAttribute} {d : Demand}
    (h : l.demand? fixup slot e = some d) : d = ⟨e, l.needs fixup slot e⟩ := by
  unfold demand? treatment at h
  unfold needs
  split at h
  · rename_i f hf
    obtain rfl := Option.some.inj h
    split at hf
    · rename_i hcolor
      cases hf
      rw [if_pos hcolor]
    · rename_i hcolor
      rw [if_neg hcolor]
      split at hf
      · rename_i hposition
        rw [if_pos hposition]
        split at hf
        · cases hf
          rfl
        · cases hf
      · rename_i hposition
        rw [if_neg hposition]
        rw [if_pos rfl] at hf
        cases hf
        rfl
  · cases h

/-- Only a transformed position can fail to demand what it needs. -/
theorem demand?_isSome {slot : AttributeSlot} {e : VertexAttribute}
    (h : slot = .position → fixup.has FixupFlags.position = true → l.transformed = true →
      e.format = .r32g32b32a32Float) :
    l.demand? fixup slot e = some ⟨e, l.needs fixup slot e⟩ := by
  cases hd : l.demand? fixup slot e with
  | some d => rw [demand?_eq_some hd]
  | none =>
    unfold demand? treatment at hd
    split at hd
    · cases hd
    · rename_i hf
      split at hf
      · exact absurd rfl (hf _)
      · split at hf
        · rename_i hposition
          simp only [Bool.and_eq_true, beq_iff_eq] at hposition
          rw [h hposition.1.1 hposition.1.2 hposition.2] at hf
          exact absurd rfl (hf _)
        · rw [if_pos rfl] at hf
          exact absurd rfl (hf _)

theorem mem_demands {d : Demand} (h : d ∈ l.demands buffer fixup) :
    ∃ slot, (slot, d.element) ∈ l.fed buffer ∧ d.fixup = l.needs fixup slot d.element := by
  obtain ⟨⟨slot, e⟩, hfed, hd⟩ := List.mem_filterMap.mp h
  obtain rfl := demand?_eq_some hd
  exact ⟨slot, hfed, rfl⟩

end VertexLayout

/-! ## 2. The bytes of a demand tagged at once -/

namespace ConversionMap

variable (m : ConversionMap) (d : Demand)

/-- The map with some bytes tagged. -/
def paintWhere (p : Nat → Bool) (f : ByteFixup) : ConversionMap :=
  { m with tags := m.tags.mapIdx fun i t => if p i then f else t }

/-- **The map with the bytes of a demand tagged.** -/
def paint : ConversionMap := m.paintWhere (fun i => d.element.Covers m.stride i) d.fixup

/-- Every byte of a demand is tagged as it asks. -/
def Meets : Prop :=
  ∀ k < d.element.format.width, m.tag ((d.element.offset + k) % m.stride) = d.fixup

instance : Decidable (m.Meets d) :=
  inferInstanceAs (Decidable (∀ k < d.element.format.width, _))

variable {m d}

/-- Two maps of one stride with the same tags are the same. -/
theorem ext_tags {a b : ConversionMap} (hstride : a.stride = b.stride)
    (htags : ∀ i : Nat, a.tags[i]? = b.tags[i]?) : a = b := by
  cases a
  cases b
  cases hstride
  exact congrArg _ (Array.ext_getElem? htags)

theorem tag_of_le {i : Nat} (h : m.tags.size ≤ i) : m.tag i = .keep := by
  unfold tag
  rw [Array.getElem?_eq_none h]
  rfl

theorem getElem?_tags {i : Nat} (h : i < m.tags.size) : m.tags[i]? = some (m.tag i) := by
  unfold tag
  rw [Array.getElem?_eq_getElem h]
  rfl

theorem tags_paintWhere {p : Nat → Bool} {f : ByteFixup} (i : Nat) :
    (m.paintWhere p f).tags[i]? = (m.tags[i]?).map fun t => if p i then f else t := by
  simp only [paintWhere, Array.getElem?_mapIdx]

@[simp] theorem stride_paint : (m.paint d).stride = m.stride := rfl

@[simp] theorem size_paint : (m.paint d).tags.size = m.tags.size := Array.size_mapIdx

theorem tag_paint {i : Nat} (hi : i < m.tags.size) :
    (m.paint d).tag i = if d.element.Covers m.stride i then d.fixup else m.tag i := by
  have htags := m.tags_paintWhere (p := fun i => d.element.Covers m.stride i) (f := d.fixup) i
  rw [getElem?_tags hi] at htags
  unfold tag paint
  rw [htags]
  simp only [Option.map_some, Option.getD_some, decide_eq_true_eq]
  rfl

theorem tags_setTag {i j : Nat} {f : ByteFixup} :
    (m.setTag i f).tags[j]? = (m.tags[j]?).map fun t => if j = i then f else t := by
  simp only [setTag, Array.getElem?_setIfInBounds]
  split
  · rename_i hij
    subst hij
    split
    · rename_i hi
      rw [Array.getElem?_eq_getElem hi, Option.map_some, if_pos rfl]
    · rename_i hi
      rw [Array.getElem?_eq_none (Nat.le_of_not_lt hi)]
      rfl
  · rename_i hij
    cases m.tags[j]? with
    | none => rfl
    | some t => rw [Option.map_some, if_neg (Ne.symm hij)]

/-- A byte tagged before others of the same demand. -/
theorem paintWhere_setTag {p q : Nat → Bool} {i : Nat} {f : ByteFixup}
    (h : ∀ j, q j = (j == i || p j)) : (m.setTag i f).paintWhere p f = m.paintWhere q f := by
  refine ext_tags rfl fun j => ?_
  rw [tags_paintWhere, tags_paintWhere, tags_setTag, Option.map_map]
  refine congrArg (fun g => (m.tags[j]?).map g) (funext fun t => ?_)
  rw [Function.comp_apply, h j]
  by_cases hp : p j = true
  · rw [if_pos hp, hp, Bool.or_true, if_pos rfl]
  · rw [if_neg hp, Bool.eq_false_iff.mpr hp, Bool.or_false]
    simp only [beq_iff_eq]

/-- A byte that is tagged already need not be tagged. -/
theorem paintWhere_of_tag {p q : Nat → Bool} {i : Nat} {f : ByteFixup} (htag : m.tag i = f)
    (h : ∀ j, q j = (j == i || p j)) : m.paintWhere p f = m.paintWhere q f := by
  have hset : m.setTag i f = m := by
    refine ext_tags rfl fun j => ?_
    rw [tags_setTag]
    by_cases hj : j < m.tags.size
    · rw [getElem?_tags hj, Option.map_some]
      split
      · rename_i hji
        rw [hji, htag]
      · rfl
    · rw [Array.getElem?_eq_none (Nat.le_of_not_lt hj)]
      rfl
  rw [← paintWhere_setTag h, hset]

/-- To tag nothing changes nothing. -/
theorem paintWhere_none {p : Nat → Bool} {f : ByteFixup} (h : ∀ i, p i = false) :
    m.paintWhere p f = m := by
  refine ext_tags rfl fun j => ?_
  rw [tags_paintWhere]
  simp only [h j, Bool.false_eq_true, if_false, Option.map_id_fun', id_eq]

/-- A demand that is met changes nothing. -/
theorem paint_of_meets (h : m.Meets d) : m.paint d = m := by
  refine ext_tags rfl fun i => ?_
  by_cases hi : i < m.tags.size
  · rw [getElem?_tags hi, getElem?_tags (by rw [size_paint]; exact hi), tag_paint hi]
    split
    · rename_i hc
      obtain ⟨k, hk, rfl⟩ := hc
      rw [h k hk]
    · rfl
  · rw [Array.getElem?_eq_none (by rw [size_paint]; omega), Array.getElem?_eq_none (by omega)]

/-- A demand is met when the bytes that its attribute lies on have its fixup. -/
theorem meets_of_covers (h : ∀ i, d.element.Covers m.stride i → m.tag i = d.fixup) :
    m.Meets d :=
  fun k hk => h _ ⟨k, hk, rfl⟩

end ConversionMap

/-! ## 3. A pass without what it has to tell -/

/-- What a pass has found so far. -/
structure Survey where
  map : Option ConversionMap
  /-- The stride of the attributes tagged so far; zero while there is none. -/
  stride : Nat
  /-- The map differs from the one at the start. -/
  changed : Bool
  /-- Two attributes have different strides. -/
  conflict : Bool

/-- The map that an attribute of a stride is tagged in: a map of another stride is replaced by a
    plain one, and an attribute without a stride takes the map as it is. -/
def ground (map : Option ConversionMap) (stride : Nat) : ConversionMap :=
  match map with
  | some m => if stride = 0 ∨ m.stride = stride then m else .plain stride
  | none => .plain stride

namespace Survey

/-- The survey of a buffer with a map, before the first attribute. -/
def start (map : Option ConversionMap) : Survey := ⟨map, 0, false, false⟩

/-- The demand is passed over: there is no map, and it makes none. -/
def PassesOver (s : Survey) (d : Demand) : Prop := s.map = none ∧ d.Idle

/-- The demand has another stride than the ones before. -/
def Clashes (s : Survey) (d : Demand) : Prop :=
  d.element.stride ≠ 0 ∧ s.stride ≠ 0 ∧ d.element.stride ≠ s.stride

instance (s : Survey) (d : Demand) : Decidable (s.PassesOver d) :=
  inferInstanceAs (Decidable (_ ∧ _))

instance (s : Survey) (d : Demand) : Decidable (s.Clashes d) :=
  inferInstanceAs (Decidable (_ ∧ _ ∧ _))

/-- The survey with a demand tagged. -/
def tagged (s : Survey) (d : Demand) : Survey :=
  let m := ground s.map d.element.stride
  { s with
    map := some (m.paint d)
    stride := if d.element.stride = 0 then s.stride else d.element.stride
    changed := s.changed || decide (s.map ≠ some m) || !decide (m.Meets d) }

/-- **What one demand does to a survey.** -/
def step (s : Survey) (d : Demand) : Survey :=
  if s.conflict = true ∨ s.PassesOver d then s
  else if s.Clashes d then { s with conflict := true }
  else s.tagged d

variable {s : Survey} {d : Demand} {m : ConversionMap}

theorem step_of_conflict (h : s.conflict = true) : s.step d = s := if_pos (.inl h)

theorem step_of_passesOver (h : s.PassesOver d) : s.step d = s := if_pos (.inr h)

theorem step_of_clashes (hclear : s.conflict = false) (hheeded : ¬ s.PassesOver d)
    (h : s.Clashes d) : s.step d = { s with conflict := true } := by
  unfold step
  rw [if_neg (by simp [hclear, hheeded]), if_pos h]

theorem step_tagged (hclear : s.conflict = false) (hheeded : ¬ s.PassesOver d)
    (h : ¬ s.Clashes d) : s.step d = s.tagged d := by
  unfold step
  rw [if_neg (by simp [hclear, hheeded]), if_neg h]

end Survey

@[simp] theorem ground_none (stride : Nat) : ground none stride = .plain stride := rfl

theorem ground_of_stride {m : ConversionMap} {stride : Nat} (h : stride = 0 ∨ m.stride = stride) :
    ground (some m) stride = m := if_pos h

theorem ground_of_ne {m : ConversionMap} {stride : Nat} (h0 : stride ≠ 0)
    (h : m.stride ≠ stride) : ground (some m) stride = .plain stride :=
  if_neg fun h' => h'.elim h0 h

/-- Where there is a stride, the ground has it. -/
theorem stride_ground (map : Option ConversionMap) {stride : Nat} (h : stride ≠ 0) :
    (ground map stride).stride = stride := by
  cases map with
  | none => rfl
  | some m =>
    by_cases hm : m.stride = stride
    · rw [ground_of_stride (.inr hm), hm]
    · rw [ground_of_ne h hm]
      rfl

namespace Pass

/-- A pass without what it has to tell. -/
def survey (p : Pass) : Survey := ⟨p.map, p.stride, p.changed, p.conflict⟩

variable {p : Pass} {m : ConversionMap} {e : VertexAttribute} {f : ByteFixup}

/-- Bytes tagged one after another. -/
theorem survey_tagEach (ks : List Nat) (h : p.map = some m) (offset : Nat) :
    (ks.foldl (fun p k => match p.map with
      | some m => p.tagByte m ((offset % m.stride + k) % m.stride) f
      | none => p) p).survey =
      { p.survey with
        map := some (m.paintWhere (fun i => ks.any fun k => (offset + k) % m.stride == i) f)
        changed := p.changed || ks.any fun k => m.tag ((offset + k) % m.stride) ≠ f } := by
  induction ks generalizing p m with
  | nil =>
    simp only [List.foldl_nil, List.any_nil, Bool.or_false]
    rw [ConversionMap.paintWhere_none fun _ => rfl, ← h]
    rfl
  | cons k rest ih =>
    rw [List.foldl_cons, h]
    dsimp only
    rw [Nat.mod_add_mod]
    -- the bytes of the rest, in front of which this one is tagged
    have hbytes (i : Nat) : (k :: rest).any (fun k => (offset + k) % m.stride == i) =
        (i == (offset + k) % m.stride || rest.any fun k => (offset + k) % m.stride == i) := by
      rw [List.any_cons, Bool.beq_comm]
    by_cases htag : m.tag ((offset + k) % m.stride) = f
    · have hnext : p.tagByte m ((offset + k) % m.stride) f = p := if_pos htag
      rw [hnext, ih h, ConversionMap.paintWhere_of_tag htag hbytes, List.any_cons,
        decide_eq_false (not_not_intro htag), Bool.false_or]
    · have hnext : p.tagByte m ((offset + k) % m.stride) f =
          { p with map := some (m.setTag ((offset + k) % m.stride) f), changed := true }.tell
            (.tagChanged ((offset + k) % m.stride) (m.tag ((offset + k) % m.stride)) f) :=
        if_neg htag
      rw [hnext, ih (m := m.setTag ((offset + k) % m.stride) f) rfl, List.any_cons,
        decide_eq_true htag, Bool.true_or, Bool.or_true]
      exact congrArg (fun m' => ({ p.survey with map := some m', changed := true } : Survey))
        (ConversionMap.paintWhere_setTag hbytes)

theorem survey_tagBytes (h : p.map = some m) :
    (p.tagBytes e f).survey =
      { p.survey with
        map := some (m.paint ⟨e, f⟩)
        changed := p.changed || !decide (m.Meets ⟨e, f⟩) } := by
  have hbytes (i : Nat) : ((List.range e.format.width).any fun k =>
      (e.offset + k) % m.stride == i) = decide (e.Covers m.stride i) := by
    rw [Bool.eq_iff_iff, decide_eq_true_iff]
    simp only [List.any_eq_true, List.mem_range, beq_iff_eq]
    exact Iff.rfl
  have hmeets : ((List.range e.format.width).any fun k =>
      m.tag ((e.offset + k) % m.stride) ≠ f) = !decide (m.Meets ⟨e, f⟩) := by
    rw [Bool.eq_iff_iff, Bool.not_eq_true', decide_eq_false_iff_not]
    simp only [List.any_eq_true, List.mem_range, ConversionMap.Meets, decide_eq_true_eq]
    simp
  refine (survey_tagEach _ h e.offset).trans ?_
  rw [hmeets]
  simp only [hbytes]
  rfl

/-- The stride of an attribute taken over, where it does not clash. -/
theorem survey_takeStride (hclash : ¬ p.survey.Clashes ⟨e, f⟩)
    (hmap : p.map ≠ none ∨ e.stride ≠ 0) :
    (p.takeStride e).survey =
      { p.survey with
        map := some (ground p.map e.stride)
        stride := if e.stride = 0 then p.stride else e.stride
        changed := p.changed || decide (p.map ≠ some (ground p.map e.stride)) } := by
  unfold takeStride
  by_cases hstride : e.stride = 0
  · obtain ⟨m, hm⟩ := Option.ne_none_iff_exists'.mp (hmap.resolve_right (not_not_intro hstride))
    rw [if_pos hstride, if_pos hstride, hm, ground_of_stride (.inl hstride)]
    simp [survey, tell, hm]
  · rw [if_neg hstride, if_neg hstride, if_neg fun h => hclash ⟨hstride, h.1, h.2⟩]
    cases hm : p.map with
    | none => simp [survey, tell]
    | some m =>
      by_cases heq : m.stride = e.stride
      · rw [ground_of_stride (.inr heq)]
        simp [survey, hm, heq]
      · have hne : m ≠ .plain e.stride := fun h => heq (congrArg ConversionMap.stride h)
        rw [ground_of_ne hstride heq]
        simp [survey, tell, heq, hne]

/-- **An attribute tagged is one step of the survey.** -/
theorem survey_tagAttribute (hclear : p.conflict = false) (hmap : p.map ≠ none ∨ f ≠ .keep) :
    (p.tagAttribute e f).survey = p.survey.step ⟨e, f⟩ := by
  unfold tagAttribute
  dsimp only
  by_cases hpasses : p.survey.PassesOver ⟨e, f⟩
  · -- no map, and no stride to make one
    have hnone : p.map = none := hpasses.1
    have hstride : e.stride = 0 := hpasses.2.resolve_left (hmap.resolve_left (not_not_intro hnone))
    have htake : p.takeStride e = p.tell (.strideZero e.format) := if_pos hstride
    rw [Survey.step_of_passesOver hpasses, htake]
    simp [tell, hclear, hnone, survey]
  · by_cases hclash : p.survey.Clashes ⟨e, f⟩
    · have htake : p.takeStride e =
          { p with conflict := true }.tell (.stridesConflict e.stride p.stride) := by
        unfold takeStride
        rw [if_neg hclash.1, if_pos ⟨hclash.2.1, hclash.2.2⟩]
      rw [Survey.step_of_clashes hclear hpasses hclash, htake]
      rfl
    · have hsome : p.map ≠ none ∨ e.stride ≠ 0 := by
        by_cases hnone : p.map = none
        · exact .inr fun h => hpasses ⟨hnone, .inr h⟩
        · exact .inl hnone
      have htake := survey_takeStride hclash hsome
      have hconflict : (p.takeStride e).conflict = false :=
        (congrArg Survey.conflict htake).trans hclear
      have hground : (p.takeStride e).map = some (ground p.map e.stride) :=
        congrArg Survey.map htake
      rw [if_neg (by rw [hconflict]; exact Bool.false_ne_true), hground,
        Survey.step_tagged hclear hpasses hclash]
      dsimp only
      rw [survey_tagBytes hground, htake]
      have hchanged : (p.takeStride e).changed = _ := congrArg Survey.changed htake
      rw [hchanged]
      rfl

/-- Without a map, an attribute that needs no fixup is not tagged. -/
theorem treatment_unmapped (fixup : FixupFlags) (transformed : Bool) (slot : AttributeSlot)
    (format : VertexFormat) : treatment fixup transformed false slot format =
      if treatment fixup transformed true slot format = .tag .keep then .skip
      else treatment fixup transformed true slot format := by
  unfold treatment
  split
  · rfl
  · split
    · split <;> rfl
    · rfl

/-- One attribute of the pass, if it demands something, is one step of the survey. -/
theorem survey_visit (buffer : BufferId) (layout : VertexLayout) (fixup : FixupFlags)
    (slot : AttributeSlot) {e : VertexAttribute} (he : layout.element slot = some e)
    (hbuffer : e.buffer = buffer) :
    (visit buffer layout fixup p slot).survey =
      match layout.demand? fixup slot e with
      | some d => p.survey.step d
      | none => p.survey := by
  unfold visit
  rw [he]
  dsimp only
  by_cases hconflict : p.conflict = true
  · rw [if_pos hconflict]
    split
    · rw [Survey.step_of_conflict hconflict]
    · rfl
  · have hclear : p.conflict = false := Bool.eq_false_iff.mpr hconflict
    rw [if_neg hconflict, if_neg (not_not_intro hbuffer)]
    unfold VertexLayout.demand?
    cases hmap : p.map with
    | some m =>
      rw [Option.isSome_some]
      cases treatment fixup layout.transformed true slot e.format with
      | tag f => exact survey_tagAttribute hclear (.inl (by rw [hmap]; nofun))
      | unexpected => rfl
      | skip => rfl
    | none =>
      rw [Option.isSome_none, treatment_unmapped]
      cases treatment fixup layout.transformed true slot e.format with
      | tag f =>
        by_cases hkeep : f = .keep
        · rw [hkeep, if_pos rfl]
          exact (Survey.step_of_passesOver ⟨hmap, .inl rfl⟩).symm
        · rw [if_neg fun h => hkeep (Treatment.tag.inj h)]
          exact survey_tagAttribute hclear (.inr hkeep)
      | unexpected => rfl
      | skip => rfl

/-- **The pass over the slots is the fold of the step over what the layout demands.** -/
theorem survey_run (buffer : BufferId) (layout : VertexLayout) (fixup : FixupFlags)
    (map : Option ConversionMap) :
    (run buffer layout fixup map).survey =
      (layout.demands buffer fixup).foldl Survey.step (.start map) := by
  unfold run VertexLayout.demands VertexLayout.fed
  rw [show Survey.start map = survey ⟨map, 0, false, false, []⟩ from rfl]
  generalize (⟨map, 0, false, false, []⟩ : Pass) = p
  induction AttributeSlot.all generalizing p with
  | nil => rfl
  | cons slot rest ih =>
    rw [List.foldl_cons, ih, List.filterMap_cons]
    cases he : layout.element slot with
    | none =>
      have hvisit : visit buffer layout fixup p slot = p := by
        unfold visit
        rw [he]
        split <;> rfl
      rw [hvisit]
    | some e =>
      dsimp only
      by_cases hbuffer : e.buffer = buffer
      · rw [if_pos hbuffer, survey_visit buffer layout fixup slot he hbuffer, List.filterMap_cons]
        cases layout.demand? fixup slot e with
        | none => rfl
        | some d => rfl
      · have hvisit : visit buffer layout fixup p slot = p := by
          unfold visit
          rw [he]
          dsimp only
          rw [if_pos hbuffer, ite_self]
        rw [if_neg hbuffer, hvisit]

end Pass

end BufferCoherence
