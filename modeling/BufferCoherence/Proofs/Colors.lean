import BufferCoherence.Proofs.Walk

/-!
# Colors converted twice

A map that fixes nothing but colors undoes its own conversion, wherever its tags are: a color that
starts at any byte, one that is cut off by the end of the vertex, and tags that no attribute left.

* `Fitting` are the steps of a walk that are made on something; a step at the end of the vertex may
  lack the room. No two of them meet, so that each is made on what was there at the start.
* **`make_make`**: a vertex that is fixed twice is what it was (`fix_fix`).
* **`convert_convert`**: how often spans touch a vertex decides between two outcomes only, converted
  and not, and a second conversion with the same spans leads back.
-/

namespace BufferCoherence

/-! ## 1. Red and blue, exchanged twice -/

theorem swappedChannel_swappedChannel (k : Nat) : swappedChannel (swappedChannel k) = k := by
  unfold swappedChannel
  split <;> split <;> (try split) <;> omega

/-- Red and blue exchanged twice are where they were. -/
theorem swapRedBlue_swapRedBlue {group : ByteArray} (hsize : group.size = 4) :
    swapRedBlue (swapRedBlue group) = group := by
  have hswapped (g : ByteArray) : (swapRedBlue g).size = 4 := rfl
  refine Bytes.ext_of_size (hswapped _ |>.trans hsize.symm) fun k hk => ?_
  rw [hswapped] at hk
  rw [byteAt?_swapRedBlue (hswapped _) hk, byteAt?_swapRedBlue hsize (swappedChannel_lt hk),
    swappedChannel_swappedChannel]

namespace ConversionMap

/-! ## 2. Steps that have room -/

/-- The step is made on something: it is a fixup, and the vertex has room for its group. -/
def Fitting (stride : Nat) (s : Nat × ByteFixup) : Prop :=
  s.2 ≠ .keep ∧ s.1 + s.2.width ≤ stride

instance (stride : Nat) (s : Nat × ByteFixup) : Decidable (Fitting stride s) :=
  inferInstanceAs (Decidable (_ ∧ _))

section Steps

variable {stride : Nat} {steps : List (Nat × ByteFixup)} {vertex : ByteArray}

/-- A step without room does nothing. -/
theorem apply_of_not_fitting {s : Nat × ByteFixup} (h : ¬ Fitting stride s) :
    s.2.apply vertex s.1 (stride - s.1) = vertex := by
  have hpos := s.2.width_pos
  unfold ByteFixup.apply
  refine if_pos ?_
  by_cases hkeep : s.2 = .keep
  · exact .inl hkeep
  · have hlong : ¬ s.1 + s.2.width ≤ stride := fun hle => h ⟨hkeep, hle⟩
    exact .inr (by omega)

/-- Only the steps that have room count. -/
theorem make_filter_fitting :
    make stride (steps.filter (Fitting stride ·)) vertex = make stride steps vertex := by
  induction steps generalizing vertex with
  | nil => rfl
  | cons s rest ih =>
    rw [make_cons]
    by_cases hs : Fitting stride s
    · rw [List.filter_cons_of_pos (p := (Fitting stride ·)) (decide_eq_true hs), make_cons, ih]
    · rw [List.filter_cons_of_neg (p := (Fitting stride ·)) (by rwa [decide_eq_true_eq]), ih,
        apply_of_not_fitting hs]

/-- **Colors that are swapped twice are what they were**, where every step ends before the next. -/
theorem make_make (hsize : vertex.size = stride)
    (hapart : steps.Pairwise fun s t => s.1 + s.2.width ≤ t.1)
    (hcolors : ∀ s ∈ steps, s.2 ≠ .position) :
    make stride steps (make stride steps vertex) = vertex := by
  have hmake (v : ByteArray) :
      make stride steps v = make stride (steps.filter (Fitting stride ·)) v :=
    make_filter_fitting.symm
  rw [hmake, hmake]
  have hapart' := hapart.filter (fun s => decide (Fitting stride s))
  have hfitting : ∀ s ∈ steps.filter (Fitting stride ·), Fitting stride s ∧ s.2 = .color := by
    intro s hs
    obtain ⟨hmem, hfits⟩ := List.mem_filter.mp hs
    have hfits' : Fitting stride s := of_decide_eq_true hfits
    refine ⟨hfits', ?_⟩
    cases hf : s.2 with
    | keep => exact absurd hf hfits'.1
    | color => rfl
    | position => exact absurd hf (hcolors s hmem)
  generalize steps.filter (Fitting stride ·) = made at hapart' hfitting ⊢
  refine Bytes.ext fun i => ?_
  by_cases hi : ∃ s ∈ made, Holds s i
  · -- the byte is one of a color, which was there at the start of each round
    obtain ⟨s, hs, hlow, hhigh⟩ := hi
    obtain ⟨⟨hfix, hfits⟩, hcolor⟩ := hfitting s hs
    have hround (v : ByteArray) (hv : v.size = stride) :
        (make stride made v).extract s.1 (s.1 + s.2.width) =
          swapRedBlue (v.extract s.1 (s.1 + s.2.width)) := by
      rw [extract_make hv hapart' hs hfix hfits, hcolor]
      rfl
    have hgroup : (vertex.extract s.1 (s.1 + s.2.width)).size = 4 := by
      rw [ByteArray.size_extract, hcolor]
      rw [hcolor] at hfits
      simp only [ByteFixup.width] at hfits ⊢
      omega
    have hsame : (make stride made (make stride made vertex)).extract s.1 (s.1 + s.2.width) =
        vertex.extract s.1 (s.1 + s.2.width) := by
      rw [hround _ (size_make.trans hsize), hround _ hsize, swapRedBlue_swapRedBlue hgroup]
    have hbyte (v : ByteArray) (hv : v.size = stride) :
        Bytes.byteAt? (v.extract s.1 (s.1 + s.2.width)) (i - s.1) = Bytes.byteAt? v i := by
      rw [Bytes.byteAt?_extract, if_pos (by omega), Nat.add_sub_cancel' hlow]
    rw [← hbyte _ (size_make.trans (size_make.trans hsize)), hsame, hbyte _ hsize]
  · have hnone : ∀ s ∈ made, s.2 ≠ .keep → ¬ Holds s i := fun s hs _ h => hi ⟨s, hs, h⟩
    rw [byteAt?_make hnone, byteAt?_make hnone]

end Steps

/-! ## 3. Maps of colors -/

/-- No byte of the vertex is that of a position. -/
def ColorsOnly (m : ConversionMap) : Prop := .position ∉ m.tags

variable {m : ConversionMap} {data : ByteArray} {v : Nat}

theorem ColorsOnly.tag_ne (h : m.ColorsOnly) (i : Nat) : m.tag i ≠ .position := by
  by_cases hi : i < m.tags.size
  · intro htag
    refine h (Array.mem_of_getElem? (i := i) ?_)
    rw [getElem?_tags hi, htag]
  · rw [tag_of_le (Nat.le_of_not_lt hi)]
    nofun

/-- A step of the walk makes the fixup of the byte that it is at. -/
theorem tag_of_mem_planFrom {fuel j : Nat} {s : Nat × ByteFixup} (hs : s ∈ m.planFrom fuel j) :
    s.2 = m.tag s.1 := by
  induction fuel generalizing j with
  | zero => cases hs
  | succ fuel ih =>
    unfold planFrom at hs
    split at hs
    · rcases List.mem_cons.mp hs with rfl | hs
      · rfl
      · exact ih hs
    · cases hs

theorem size_vertex (hv : v < data.size / m.stride) : (m.vertex data v).size = m.stride := by
  have := m.vertex_fits hv
  unfold vertex
  rw [ByteArray.size_extract]
  omega

/-- **A vertex that is fixed twice is what it was.** -/
theorem ColorsOnly.fix_fix (h : m.ColorsOnly) {vertex : ByteArray}
    (hsize : vertex.size = m.stride) : m.fix (m.fix vertex) = vertex := by
  rw [fix_eq_make, fix_eq_make]
  refine make_make hsize (m.pairwise_planFrom _ _) fun s hs => ?_
  rw [tag_of_mem_planFrom hs]
  exact h.tag_ne s.1

/-- What is undone by doing it again depends on whether it is done an even number of times. -/
theorem repeat_of_undone {α : Type} {f : α → α} {a : α} (h : f (f a) = a) (n : Nat) :
    Nat.repeat f n a = if n % 2 = 0 then a else f a := by
  induction n with
  | zero => rfl
  | succ n ih =>
    show f (Nat.repeat f n a) = _
    rw [ih]
    by_cases hn : n % 2 = 0
    · rw [if_pos hn, if_neg (by omega)]
    · rw [if_neg hn, if_pos (by omega), h]

/-- A vertex is converted where an odd number of spans touch it. -/
theorem ColorsOnly.vertex_convert (h : m.ColorsOnly) (hv : v < data.size / m.stride)
    (spans : List ByteRange) : m.vertex (m.convert data spans) v =
      if spans.countP (m.Touches · v) % 2 = 0 then m.vertex data v
      else m.fix (m.vertex data v) := by
  rw [ConversionMap.vertex_convert m hv, repeat_of_undone (h.fix_fix (size_vertex hv))]

/-- A color that the walk comes to, and that has room, has red and blue exchanged. -/
theorem byteAt?_fix_color {vertex : ByteArray} (hsize : vertex.size = m.stride) {j k : Nat}
    (hj : (j, .color) ∈ m.plan) (hroom : j + 4 ≤ m.stride) (hk : k < 4) :
    Bytes.byteAt? (m.fix vertex) (j + k) = Bytes.byteAt? vertex (j + swappedChannel k) := by
  have hmade : (m.fix vertex).extract j (j + 4) = swapRedBlue (vertex.extract j (j + 4)) := by
    rw [fix_eq_make]
    exact extract_make hsize (m.pairwise_planFrom _ _) hj nofun hroom
  exact byteAt?_of_extract_swapRedBlue hmade (m.size_convertVertex 0 vertex)
    (hsize.symm ▸ hroom) hk

/-- **The conversion of colors undoes itself.** A conversion by a map without positions, of any
    stride and with any tags, has red and blue exchanged in the colors that the walk comes to, in
    each complete vertex that an odd number of spans touch. A second one with the same spans has
    everything as it was. -/
theorem convert_convert (m : ConversionMap) (h : m.ColorsOnly) (data : ByteArray)
    (spans : List ByteRange) :
    m.convert (m.convert data spans) spans = data ∧
      ∀ v < data.size / m.stride, ¬ spans.countP (m.Touches · v) % 2 = 0 →
        ∀ j, (j, .color) ∈ m.plan → j + 4 ≤ m.stride → ∀ k < 4,
          Bytes.byteAt? (m.convert data spans) (v * m.stride + (j + k)) =
            Bytes.byteAt? data (v * m.stride + (j + swappedChannel k)) := by
  constructor
  · refine m.ext_vertices (by rw [size_convert, size_convert]) (fun v hv => ?_) fun i hi => ?_
    · have hv' : v < (m.convert data spans).size / m.stride := by rwa [size_convert]
      rw [h.vertex_convert hv', h.vertex_convert hv]
      split
      · rfl
      · exact h.fix_fix (size_vertex hv)
    · rw [m.byteAt?_convert (by rwa [size_convert]), m.byteAt?_convert hi]
  · intro v hv hodd j hj hroom k hk
    have hk' := swappedChannel_lt hk
    have hv' : v < (m.convert data spans).size / m.stride := by rwa [size_convert]
    rw [← m.byteAt?_vertex hv' (by omega), h.vertex_convert hv, if_neg hodd,
      byteAt?_fix_color (size_vertex hv) hj hroom hk, m.byteAt?_vertex hv (by omega)]

/-- Vertices of seven bytes whose colors start at byte 1, at byte 5 and around the end: the walk
    comes to bytes 0 and 4, and has room for the first one only. Spans side by side touch the second
    vertex twice. -/
theorem convert_convert_around :
    let m : ConversionMap := ⟨7, #[.color, .color, .color, .keep, .color, .color, .color]⟩
    let data : ByteArray := ⟨#[1, 2, 3, 4, 5, 6, 7, 8, 9, 10, 11, 12, 13, 14, 15]⟩
    let spans : List ByteRange := [⟨0, 7⟩, ⟨7, 3⟩, ⟨100, 0⟩]
    m.ColorsOnly ∧ m.convert data spans ≠ data ∧
      m.convert (m.convert data spans) spans = data := by
  intro m data spans
  have h : m.ColorsOnly := by simp [ColorsOnly, m]
  exact ⟨h, by decide +kernel, (convert_convert m h data spans).1⟩

end ConversionMap

end BufferCoherence
