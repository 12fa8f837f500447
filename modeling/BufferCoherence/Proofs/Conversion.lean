import BufferCoherence.Vertex.ConversionMap
import BufferCoherence.Proofs.Bytes
import BufferCoherence.Proofs.Spans

/-!
# Conversion of vertices, vertex by vertex

A conversion goes over the content in place. This file takes it apart:

* `ConversionMap.fix` converts one vertex, and `convertAll` every complete one, once;
* `vertex_convert`: each complete vertex is converted as often as there are spans that touch it, and
  `vertex_convertAll` is the case where that is once;
* `Faithful` says of spans when loading them over content that was converted before has the bytes
  of converting everything once (`overlaid_convert_iff`). Of the fixups nothing is used but how many
  bytes they give back.
-/

namespace BufferCoherence

/-! ## 1. Runs of a longer run -/

namespace Bytes

variable {b d : ByteArray} {base len start : Nat}

/-- What is written inside a run is written to the run. -/
theorem extract_splice_inside (hlow : base ≤ start) (hhigh : start + d.size ≤ base + len)
    (hfit : base + len ≤ b.size) : (splice b start d).extract base (base + len) =
      splice (b.extract base (base + len)) (start - base) d := by
  have hs : (b.extract base (base + len)).size = len := by
    rw [ByteArray.size_extract]
    omega
  refine ext fun i => ?_
  rw [byteAt?_extract, size_splice, byteAt?_splice (by omega), byteAt?_splice (by omega),
    byteAt?_extract]
  by_cases hi : i < len
  · rw [if_pos (by omega)]
    by_cases hin : start - base ≤ i ∧ i < start - base + d.size
    · rw [if_pos (by omega), if_pos hin, show base + i - start = i - (start - base) by omega]
    · rw [if_neg (by omega), if_neg hin, if_pos (by omega)]
  · rw [if_neg (by omega), if_neg (by omega), if_neg (by omega)]

theorem slice?_extract {j w : Nat} (hw : j + w ≤ len) (hfit : base + len ≤ b.size) :
    slice? (b.extract base (base + len)) j w = slice? b (base + j) w := by
  have hs : (b.extract base (base + len)).size = len := by
    rw [ByteArray.size_extract]
    omega
  rw [slice?_eq_some (by omega), slice?_eq_some (by omega)]
  refine congrArg some (ext fun i => ?_)
  rw [byteAt?_extract, byteAt?_extract, byteAt?_extract]
  by_cases hi : i < w
  · rw [if_pos (by omega), if_pos (by omega), if_pos (by omega), Nat.add_assoc]
  · rw [if_neg (by omega), if_neg (by omega)]

end Bytes

/-! ## 2. One fixup -/

namespace ByteFixup

/-- A fixup gives back as many bytes as it was given. -/
theorem size_onGroup {f : ByteFixup} {group : ByteArray} (h : group.size = f.width) :
    (f.onGroup group).size = f.width := by
  cases f with
  | keep => exact h
  | color => rfl
  | position =>
    show (dehomogenize group).size = 16
    unfold dehomogenize
    dsimp only
    split
    · simp only [ByteArray.size_append]
      rfl
    · exact h

variable (f : ByteFixup) (data : ByteArray) (start room : Nat)

theorem size_apply : (f.apply data start room).size = data.size := by
  unfold apply
  split
  · rfl
  · split
    · exact Bytes.size_splice _ _ _
    · rfl

/-- A fixup stays in the area it is given. -/
theorem byteAt?_apply {i : Nat} (hi : ¬ (start ≤ i ∧ i < start + room)) :
    Bytes.byteAt? (f.apply data start room) i = Bytes.byteAt? data i := by
  unfold apply
  split
  · rfl
  · rename_i hroom
    split
    · rename_i group hgroup
      have hsize := size_onGroup (Bytes.size_slice? hgroup)
      have hfit : start + f.width ≤ data.size := by
        refine Nat.le_of_not_lt fun hlt => ?_
        rw [Bytes.slice?_eq_none_iff.mpr hlt] at hgroup
        cases hgroup
      rw [Bytes.byteAt?_splice (by omega), if_neg (by omega)]
    · rfl

/-- A fixup inside a run works on the run alone. -/
theorem extract_apply {base len j : Nat} (hroom : 0 < room → j + room ≤ len)
    (hfit : base + len ≤ data.size) :
    (f.apply data (base + j) room).extract base (base + len) =
      f.apply (data.extract base (base + len)) j room := by
  unfold apply
  by_cases hkeep : f = .keep ∨ room < f.width
  · rw [if_pos hkeep, if_pos hkeep]
  · rw [if_neg hkeep, if_neg hkeep]
    have hpos := f.width_pos
    have hle := hroom (by omega)
    rw [Bytes.slice?_extract (by omega) hfit]
    split
    · rename_i group hgroup
      have hsize := size_onGroup (Bytes.size_slice? hgroup)
      rw [Bytes.extract_splice_inside (by omega) (by omega) hfit, Nat.add_sub_cancel_left]
    · rfl

end ByteFixup

namespace ConversionMap

variable (m : ConversionMap) {c d p new : ByteArray} {v i : Nat}

/-! ## 3. One vertex -/

/-- The bytes of a vertex. -/
def vertex (data : ByteArray) (v : Nat) : ByteArray :=
  data.extract (v * m.stride) (v * m.stride + m.stride)

/-- One vertex converted. -/
def fix (vertex : ByteArray) : ByteArray := m.convertVertex 0 vertex

theorem size_convertVertex (base : Nat) (data : ByteArray) :
    (m.convertVertex base data).size = data.size := by
  unfold convertVertex
  generalize m.plan = steps
  induction steps generalizing data with
  | nil => rfl
  | cons step rest ih => rw [List.foldl_cons, ih, ByteFixup.size_apply]

/-- The conversion of a vertex leaves every other byte. -/
theorem byteAt?_convertVertex {base : Nat} (hi : ¬ (base ≤ i ∧ i < base + m.stride)) :
    Bytes.byteAt? (m.convertVertex base d) i = Bytes.byteAt? d i := by
  unfold convertVertex
  generalize m.plan = steps
  induction steps generalizing d with
  | nil => rfl
  | cons step rest ih =>
    rw [List.foldl_cons, ih]
    exact ByteFixup.byteAt?_apply _ _ _ _ (by omega)

/-- The conversion of a vertex is that of its bytes alone. -/
theorem extract_convertVertex {base : Nat} (hfit : base + m.stride ≤ d.size) :
    (m.convertVertex base d).extract base (base + m.stride) =
      m.fix (d.extract base (base + m.stride)) := by
  unfold fix convertVertex
  generalize m.plan = steps
  induction steps generalizing d with
  | nil => rfl
  | cons step rest ih =>
    obtain ⟨j, f⟩ := step
    rw [List.foldl_cons, List.foldl_cons, ih (by rw [ByteFixup.size_apply]; exact hfit),
      ByteFixup.extract_apply f d _ (by omega) hfit]
    dsimp only
    rw [Nat.zero_add]

/-- The vertices of content that is complete lie within it. -/
theorem vertex_fits (hv : v < d.size / m.stride) : v * m.stride + m.stride ≤ d.size := by
  have hle : (v + 1) * m.stride ≤ d.size / m.stride * m.stride := Nat.mul_le_mul_right _ hv
  have := Nat.div_mul_le_self d.size m.stride
  rw [Nat.succ_mul] at hle
  omega

theorem byteAt?_vertex (hv : v < d.size / m.stride) {b : Nat} (hb : b < m.stride) :
    Bytes.byteAt? (m.vertex d v) b = Bytes.byteAt? d (v * m.stride + b) := by
  have hfit := m.vertex_fits hv
  unfold vertex
  rw [Bytes.byteAt?_extract, if_pos (by omega)]

theorem vertex_convertVertex (hv : v < d.size / m.stride) (w : Nat) :
    m.vertex (m.convertVertex (w * m.stride) d) v =
      if w = v then m.fix (m.vertex d v) else m.vertex d v := by
  have hfit := m.vertex_fits hv
  by_cases hwv : w = v
  · rw [if_pos hwv, hwv]
    exact m.extract_convertVertex hfit
  · rw [if_neg hwv]
    refine Bytes.ext fun b => ?_
    unfold vertex
    rw [Bytes.byteAt?_extract, Bytes.byteAt?_extract, size_convertVertex]
    split
    · refine m.byteAt?_convertVertex fun hin => ?_
      -- two vertices that are not the same do not meet
      rcases Nat.lt_or_gt_of_ne hwv with hlt | hlt
      · have := Nat.mul_le_mul_right m.stride (Nat.succ_le_of_lt hlt)
        rw [Nat.succ_mul] at this
        omega
      · have := Nat.mul_le_mul_right m.stride (Nat.succ_le_of_lt hlt)
        rw [Nat.succ_mul] at this
        omega
    · rfl

/-! ## 4. Many vertices -/

/-- The content with vertices converted one after another. -/
def convertEach (vertices : List Nat) (data : ByteArray) : ByteArray :=
  vertices.foldl (fun d v => m.convertVertex (v * m.stride) d) data

/-- **The content with every complete vertex converted, exactly once.** -/
def convertAll (data : ByteArray) : ByteArray :=
  m.convertEach (List.range (data.size / m.stride)) data

theorem size_convertEach (vertices : List Nat) (data : ByteArray) :
    (m.convertEach vertices data).size = data.size := by
  unfold convertEach
  induction vertices generalizing data with
  | nil => rfl
  | cons v rest ih => rw [List.foldl_cons, ih, size_convertVertex]

theorem size_convertAll (data : ByteArray) : (m.convertAll data).size = data.size :=
  m.size_convertEach _ _

theorem repeat_shift {α : Type} (f : α → α) (n : Nat) (a : α) :
    Nat.repeat f (n + 1) a = Nat.repeat f n (f a) := by
  induction n with
  | zero => rfl
  | succ n ih => exact congrArg f ih

/-- A vertex is converted as often as it is in the list. -/
theorem vertex_convertEach (hv : v < d.size / m.stride) (vertices : List Nat) :
    m.vertex (m.convertEach vertices d) v =
      Nat.repeat m.fix (vertices.count v) (m.vertex d v) := by
  unfold convertEach
  induction vertices generalizing d with
  | nil => rfl
  | cons w rest ih =>
    rw [List.foldl_cons, ih (by rw [size_convertVertex]; exact hv), m.vertex_convertVertex hv,
      List.count_cons]
    by_cases hwv : w = v
    · rw [if_pos hwv, if_pos (beq_iff_eq.mpr hwv), repeat_shift]
    · rw [if_neg hwv, if_neg (by rw [beq_iff_eq]; exact hwv), Nat.add_zero]

/-- The bytes after the complete vertices stay. -/
theorem byteAt?_convertEach {n : Nat} {vertices : List Nat} (hall : ∀ w ∈ vertices, w < n)
    (hi : n * m.stride ≤ i) :
    Bytes.byteAt? (m.convertEach vertices d) i = Bytes.byteAt? d i := by
  unfold convertEach
  induction vertices generalizing d with
  | nil => rfl
  | cons w rest ih =>
    have hw := Nat.mul_le_mul_right m.stride (Nat.succ_le_of_lt (hall w List.mem_cons_self))
    rw [Nat.succ_mul] at hw
    rw [List.foldl_cons, ih fun w' hw' => hall w' (List.mem_cons_of_mem _ hw')]
    exact m.byteAt?_convertVertex (by omega)

theorem vertex_convertAll (hv : v < d.size / m.stride) :
    m.vertex (m.convertAll d) v = m.fix (m.vertex d v) := by
  unfold convertAll
  rw [m.vertex_convertEach hv, List.count_range, if_pos hv]
  rfl

theorem byteAt?_convertAll (hi : d.size / m.stride * m.stride ≤ i) :
    Bytes.byteAt? (m.convertAll d) i = Bytes.byteAt? d i :=
  m.byteAt?_convertEach (fun _ hw => List.mem_range.mp hw) hi

/-! ## 5. Spans -/

/-- A span touches a vertex, also where it ends at its first byte. -/
def Touches (r : ByteRange) (v : Nat) : Prop :=
  r.offset / m.stride ≤ v ∧ v ≤ r.stop / m.stride

instance (r : ByteRange) (v : Nat) : Decidable (m.Touches r v) :=
  inferInstanceAs (Decidable (_ ∧ _))

theorem count_touched {total : Nat} (hv : v < total / m.stride) (r : ByteRange) :
    (m.touched total r).count v = if m.Touches r v then 1 else 0 := by
  unfold touched
  dsimp only
  rw [← List.range'_eq_map_range, List.count_range_1']
  by_cases ht : m.Touches r v
  · have hr : r.offset / m.stride ≤ v ∧ v ≤ r.stop / m.stride := ht
    rw [if_pos (by omega), if_pos ht]
  · have hr : ¬ (r.offset / m.stride ≤ v ∧ v ≤ r.stop / m.stride) := ht
    rw [if_neg (by omega), if_neg ht]

theorem mem_touched {total : Nat} {r : ByteRange} (hv : v ∈ m.touched total r) :
    v < total / m.stride := by
  unfold touched at hv
  dsimp only at hv
  obtain ⟨n, hn, rfl⟩ := List.mem_map.mp hv
  have := List.mem_range.mp hn
  omega

theorem convert_eq (hs : m.stride ≠ 0) (data : ByteArray) (spans : List ByteRange) :
    m.convert data spans = m.convertEach (spans.flatMap (m.touched data.size)) data := by
  unfold convert
  rw [if_neg hs]
  rfl

theorem size_convert (data : ByteArray) (spans : List ByteRange) :
    (m.convert data spans).size = data.size := by
  by_cases hs : m.stride = 0
  · unfold convert
    rw [if_pos hs]
  · rw [m.convert_eq hs, size_convertEach]

/-- **A vertex is converted once for every span that touches it.** -/
theorem vertex_convert (hv : v < d.size / m.stride) (spans : List ByteRange) :
    m.vertex (m.convert d spans) v =
      Nat.repeat m.fix (spans.countP (m.Touches · v)) (m.vertex d v) := by
  have hs : m.stride ≠ 0 := fun h0 => by
    rw [h0, Nat.div_zero] at hv
    exact Nat.not_lt_zero _ hv
  rw [m.convert_eq hs, m.vertex_convertEach hv]
  congr 1
  induction spans with
  | nil => rfl
  | cons r rest ih =>
    rw [List.flatMap_cons, List.count_append, ih, m.count_touched hv, List.countP_cons,
      Nat.add_comm]
    simp only [decide_eq_true_iff]

theorem byteAt?_convert (hi : d.size / m.stride * m.stride ≤ i) (spans : List ByteRange) :
    Bytes.byteAt? (m.convert d spans) i = Bytes.byteAt? d i := by
  by_cases hs : m.stride = 0
  · unfold convert
    rw [if_pos hs]
  · rw [m.convert_eq hs]
    refine m.byteAt?_convertEach (fun w hw => ?_) hi
    obtain ⟨r, -, hr⟩ := List.mem_flatMap.mp hw
    exact m.mem_touched hr

/-! ## 6. Loads -/

/-- **When a load of the spans is faithful**, the content having been `p` at the load before and
    being `c` now: at each byte of a complete vertex that lies in a span, converting the vertex once
    for every span that touches it comes to the same as converting it once; and at any other byte
    of it, the vertex converts to what it converted to before. -/
def Faithful (spans : List ByteRange) (p c : ByteArray) : Prop :=
  ∀ v < c.size / m.stride, ∀ b < m.stride,
    Bytes.byteAt? (if CoveredBy spans (v * m.stride + b)
        then Nat.repeat m.fix (spans.countP (m.Touches · v)) (m.vertex c v)
        else m.fix (m.vertex p v)) b =
      Bytes.byteAt? (m.fix (m.vertex c v)) b

/-- A load of everything is faithful. -/
theorem faithful_whole (p c : ByteArray) : m.Faithful [⟨0, c.size⟩] p c := by
  intro v hv b hb
  have hfit := m.vertex_fits hv
  have hcovered : CoveredBy [⟨0, c.size⟩] (v * m.stride + b) := by
    refine ⟨_, List.mem_singleton_self _, Nat.zero_le _, ?_⟩
    show _ < 0 + c.size
    omega
  have htouches : m.Touches ⟨0, c.size⟩ v := by
    refine ⟨by rw [Nat.zero_div]; exact Nat.zero_le _, ?_⟩
    show v ≤ (0 + c.size) / m.stride
    rw [Nat.zero_add]
    exact Nat.le_of_lt hv
  rw [if_pos hcovered, List.countP_singleton, decide_eq_true htouches, if_pos rfl]
  rfl

/-- **A load over the vertices converted before has every vertex converted once exactly where it is
    faithful.** -/
theorem overlaid_convert_iff {spans : List ByteRange} (hsize : p.size = c.size)
    (hclean : ∀ i, ¬ CoveredBy spans i → Bytes.byteAt? p i = Bytes.byteAt? c i)
    (hnew : Overlaid spans (m.convert c spans) (m.convertAll p) new) :
    new = m.convertAll c ↔ m.Faithful spans p c := by
  -- the two sides, byte by byte of a complete vertex
  have hbyte {v b : Nat} (hv : v < c.size / m.stride) (hb : b < m.stride) :
      Bytes.byteAt? new (v * m.stride + b) =
        Bytes.byteAt? (if CoveredBy spans (v * m.stride + b)
          then Nat.repeat m.fix (spans.countP (m.Touches · v)) (m.vertex c v)
          else m.fix (m.vertex p v)) b := by
    have hvp : v < p.size / m.stride := by
      rw [hsize]
      exact hv
    rw [hnew.2]
    split
    · rw [← m.vertex_convert hv, m.byteAt?_vertex (by rw [size_convert]; exact hv) hb]
    · rw [← m.vertex_convertAll hvp, m.byteAt?_vertex (by rw [size_convertAll]; exact hvp) hb]
  have hall {v b : Nat} (hv : v < c.size / m.stride) (hb : b < m.stride) :
      Bytes.byteAt? (m.convertAll c) (v * m.stride + b) =
        Bytes.byteAt? (m.fix (m.vertex c v)) b := by
    rw [← m.vertex_convertAll hv, m.byteAt?_vertex (by rw [size_convertAll]; exact hv) hb]
  constructor
  · rintro rfl v hv b hb
    rw [← hbyte hv hb]
    exact hall hv hb
  · intro hf
    refine Bytes.ext fun i => ?_
    by_cases hi : i < c.size / m.stride * m.stride
    · have hs : 0 < m.stride := by
        refine Nat.pos_of_ne_zero fun h0 => ?_
        rw [h0, Nat.mul_zero] at hi
        exact Nat.not_lt_zero _ hi
      have hv : i / m.stride < c.size / m.stride := (Nat.div_lt_iff_lt_mul hs).mpr hi
      have hb : i % m.stride < m.stride := Nat.mod_lt _ hs
      rw [← Nat.div_add_mod' i m.stride, hbyte hv hb, hall hv hb]
      exact hf _ hv _ hb
    · have hi' : c.size / m.stride * m.stride ≤ i := Nat.le_of_not_lt hi
      rw [hnew.2, m.byteAt?_convertAll hi']
      split
      · exact m.byteAt?_convert hi' spans
      · rename_i hcov
        rw [m.byteAt?_convertAll (by rw [hsize]; exact hi')]
        exact hclean i hcov

/-- **A load of everything has every vertex converted once**, whatever was there before. -/
theorem overlaid_convert_whole {old : ByteArray} (hsize : new.size = c.size)
    (hnew : Overlaid [⟨0, c.size⟩] (m.convert c [⟨0, c.size⟩]) old new) :
    new = m.convertAll c := by
  have hover : Overlaid [⟨0, c.size⟩] (m.convert c [⟨0, c.size⟩]) (m.convertAll c) new := by
    refine ⟨hsize.trans (m.size_convertAll c).symm, fun i => ?_⟩
    by_cases hi : CoveredBy [⟨0, c.size⟩] i
    · rw [if_pos hi, hnew.2, if_pos hi]
    · have hle : c.size ≤ i := by
        refine Nat.le_of_not_lt fun hlt => hi ⟨_, List.mem_singleton_self _, Nat.zero_le _, ?_⟩
        show i < 0 + c.size
        omega
      rw [if_neg hi, Bytes.byteAt?_eq_none_iff.mpr (by omega),
        Bytes.byteAt?_eq_none_iff.mpr (by rw [size_convertAll]; exact hle)]
  exact (m.overlaid_convert_iff rfl (fun _ _ => rfl) hover).mpr (m.faithful_whole c c)

end ConversionMap

end BufferCoherence
