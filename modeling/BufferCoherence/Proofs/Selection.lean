import BufferCoherence.Proofs.Conversion

/-!
# What a list of spans selects

A conversion is given the spans that changed, and works on the vertices that they touch. What is
asked of it is `ConversionMap.convertTouched`: each complete vertex that some span touches is
converted once, however many of the spans touch it, and nothing else changes.

* Content is its complete vertices and what is left behind them (`ext_vertices`).
* **`convert_eq_convertTouched_iff`**: nothing but touched vertices changes, and each of them is
  converted as often as spans touch it. That is what is asked for exactly where the vertices that
  several spans touch do not show it.
* `convert_adjacent` is a case where they do: two spans side by side both touch the vertex between
  them, and its colors are swapped twice.
-/

namespace BufferCoherence

namespace ConversionMap

variable (m : ConversionMap) {c d : ByteArray} {v i : Nat} {spans : List ByteRange}

/-! ## 1. Content by its vertices -/

/-- A byte of a complete vertex, or one behind them all. -/
theorem byte_in_vertex (hi : i < c.size / m.stride * m.stride) :
    i / m.stride < c.size / m.stride ∧ i % m.stride < m.stride := by
  have hs : 0 < m.stride := by
    refine Nat.pos_of_ne_zero fun h0 => ?_
    rw [h0, Nat.mul_zero] at hi
    exact Nat.not_lt_zero _ hi
  exact ⟨(Nat.div_lt_iff_lt_mul hs).mpr hi, Nat.mod_lt _ hs⟩

/-- Content is its complete vertices and the bytes behind them. -/
theorem ext_vertices (hsize : c.size = d.size)
    (hvertex : ∀ v < d.size / m.stride, m.vertex c v = m.vertex d v)
    (hrest : ∀ i, d.size / m.stride * m.stride ≤ i → Bytes.byteAt? c i = Bytes.byteAt? d i) :
    c = d := by
  refine Bytes.ext fun i => ?_
  by_cases hi : i < d.size / m.stride * m.stride
  · obtain ⟨hv, hb⟩ := m.byte_in_vertex hi
    rw [← Nat.div_add_mod' i m.stride, ← m.byteAt?_vertex (by rw [hsize]; exact hv) hb,
      ← m.byteAt?_vertex hv hb, hvertex _ hv]
  · exact hrest i (Nat.le_of_not_lt hi)

/-! ## 2. Each selected vertex once -/

/-- The complete vertices that some span touches, each of them once. -/
def selected (total : Nat) (spans : List ByteRange) : List Nat :=
  (List.range (total / m.stride)).filter fun v => spans.any (m.Touches · v)

/-- **The content with each complete vertex converted once that some span touches.** -/
def convertTouched (data : ByteArray) (spans : List ByteRange) : ByteArray :=
  m.convertEach (m.selected data.size spans) data

theorem count_selected {total : Nat} (hv : v < total / m.stride) :
    (m.selected total spans).count v = if ∃ r ∈ spans, m.Touches r v then 1 else 0 := by
  unfold selected
  by_cases h : ∃ r ∈ spans, m.Touches r v
  · have hany : (spans.any (m.Touches · v)) = true := by simpa using h
    rw [if_pos h, List.count_filter (by exact hany), List.count_range, if_pos hv]
  · rw [if_neg h, List.count_eq_zero]
    intro hmem
    exact h (by simpa using (List.mem_filter.mp hmem).2)

theorem size_convertTouched : (m.convertTouched d spans).size = d.size := m.size_convertEach _ _

theorem vertex_convertTouched (hv : v < d.size / m.stride) :
    m.vertex (m.convertTouched d spans) v =
      if ∃ r ∈ spans, m.Touches r v then m.fix (m.vertex d v) else m.vertex d v := by
  unfold convertTouched
  rw [m.vertex_convertEach hv, m.count_selected hv]
  split <;> rfl

theorem byteAt?_convertTouched (hi : d.size / m.stride * m.stride ≤ i) :
    Bytes.byteAt? (m.convertTouched d spans) i = Bytes.byteAt? d i :=
  m.byteAt?_convertEach (fun _ hw => List.mem_range.mp (List.mem_filter.mp hw).1) hi

/-! ## 3. Conversions of spans -/

/-- A vertex that no span touches stays. -/
theorem vertex_convert_of_untouched (hv : v < d.size / m.stride)
    (h : ¬ ∃ r ∈ spans, m.Touches r v) : m.vertex (m.convert d spans) v = m.vertex d v := by
  rw [m.vertex_convert hv, List.countP_eq_zero.mpr fun r hr ht =>
    h ⟨r, hr, of_decide_eq_true ht⟩]
  rfl

/-- A byte outside of the touched vertices stays. -/
theorem byteAt?_convert_of_untouched
    (h : ∀ v < d.size / m.stride, (∃ r ∈ spans, m.Touches r v) →
      ¬ (v * m.stride ≤ i ∧ i < v * m.stride + m.stride)) :
    Bytes.byteAt? (m.convert d spans) i = Bytes.byteAt? d i := by
  by_cases hi : i < d.size / m.stride * m.stride
  · obtain ⟨hv, hb⟩ := m.byte_in_vertex hi
    have huntouched : ¬ ∃ r ∈ spans, m.Touches r (i / m.stride) := by
      intro ht
      have := Nat.div_add_mod' i m.stride
      exact h _ hv ht (by omega)
    have hvertex := m.vertex_convert_of_untouched hv huntouched
    rw [← Nat.div_add_mod' i m.stride, ← m.byteAt?_vertex hv hb, ← hvertex,
      m.byteAt?_vertex (by rw [size_convert]; exact hv) hb]
  · exact m.byteAt?_convert (Nat.le_of_not_lt hi) spans

/-- **When each selected vertex is converted exactly once.** Whatever the spans are, a conversion
    changes no byte outside of the complete vertices that they touch, and what it does to a vertex
    is to convert it once for every span that touches it. So the content has each selected vertex
    converted exactly once just where no vertex shows that several spans touched it. -/
theorem convert_eq_convertTouched_iff (data : ByteArray) (spans : List ByteRange) :
    (∀ i, (∀ v < data.size / m.stride, (∃ r ∈ spans, m.Touches r v) →
        ¬ (v * m.stride ≤ i ∧ i < v * m.stride + m.stride)) →
      Bytes.byteAt? (m.convert data spans) i = Bytes.byteAt? data i) ∧
    (∀ v < data.size / m.stride, m.vertex (m.convert data spans) v =
      Nat.repeat m.fix (spans.countP (m.Touches · v)) (m.vertex data v)) ∧
    (m.convert data spans = m.convertTouched data spans ↔
      ∀ v < data.size / m.stride, 2 ≤ spans.countP (m.Touches · v) →
        Nat.repeat m.fix (spans.countP (m.Touches · v)) (m.vertex data v) =
          m.fix (m.vertex data v)) := by
  refine ⟨fun i => m.byteAt?_convert_of_untouched, fun v hv => m.vertex_convert hv spans, ?_⟩
  constructor
  · intro heq v hv htwice
    have htouched : ∃ r ∈ spans, m.Touches r v := by
      simpa using List.countP_pos_iff.mp (Nat.lt_of_lt_of_le Nat.two_pos htwice)
    rw [← m.vertex_convert hv, heq, m.vertex_convertTouched hv, if_pos htouched]
  · intro hagree
    refine m.ext_vertices (by rw [size_convert, size_convertTouched]) (fun v hv => ?_)
      fun i hi => ?_
    · rw [size_convertTouched] at hv
      rw [m.vertex_convertTouched hv]
      by_cases htouched : ∃ r ∈ spans, m.Touches r v
      · rw [if_pos htouched, m.vertex_convert hv]
        have hpos : 0 < spans.countP (m.Touches · v) :=
          List.countP_pos_iff.mpr (by simpa using htouched)
        rcases Nat.lt_or_ge 1 (spans.countP (m.Touches · v)) with hmany | hone
        · exact hagree v hv hmany
        · rw [show spans.countP (m.Touches · v) = 1 by omega]
          rfl
      · rw [if_neg htouched, m.vertex_convert_of_untouched hv htouched]
    · rw [size_convertTouched] at hi
      rw [m.byteAt?_convert hi, m.byteAt?_convertTouched hi]

/-- **Two spans side by side**: the first one ends where the second vertex starts, so that both
    touch that vertex, and its colors are swapped and swapped back. -/
theorem convert_adjacent :
    let colors : ConversionMap := ⟨4, Array.replicate 4 .color⟩
    let data : ByteArray := ⟨#[1, 2, 3, 4, 5, 6, 7, 8]⟩
    let spans : List ByteRange := [⟨0, 4⟩, ⟨4, 4⟩]
    colors.convert data spans = ⟨#[3, 2, 1, 4, 5, 6, 7, 8]⟩ ∧
      colors.convertTouched data spans = ⟨#[3, 2, 1, 4, 7, 6, 5, 8]⟩ ∧
      colors.convert data spans ≠ colors.convertTouched data spans := by
  decide +kernel

end ConversionMap

end BufferCoherence
