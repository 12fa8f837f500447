import BufferCoherence.Proofs.Walk

/-!
# Every access of a conversion

An analysis reads and writes tags at remainders by a stride, and a conversion cuts runs out of the
content that it is given. This file carries both out once more with accesses that can miss: a tag
past the end of the map, a run past the end of the content and a division by zero answer `none`. The
walk over a vertex is given no bound on its steps; it ends since no fixup is without bytes.

* `ConversionState.analyse?` and `ConversionMap.convert?` are the two, access by access.
* `analyse?_eq`, `convert?_eq`: on a regular map no access misses.
* **`conversion_stays_in_bounds`**: that is so after every history of analyses and resets, and what
  a conversion changes are bytes of complete vertices that a span touches.
-/

namespace BufferCoherence

/-! ## 1. Accesses that can miss -/

/-- The remainder of a division, which there is none of by zero. -/
def remainder? (a b : Nat) : Option Nat := if b = 0 then none else some (a % b)

/-- The quotient of a division, which there is none of by zero. -/
def quotient? (a b : Nat) : Option Nat := if b = 0 then none else some (a / b)

theorem remainder?_eq {a b : Nat} (h : b ≠ 0) : remainder? a b = some (a % b) := if_neg h

theorem quotient?_eq {a b : Nat} (h : b ≠ 0) : quotient? a b = some (a / b) := if_neg h

/-- **Steps that do not miss, one after another**, as long as each of them keeps what the next one
    needs. -/
theorem foldlM_eq_some {α β : Type} {f : β → α → Option β} {g : β → α → β} {P : β → Prop}
    {l : List α} (hstep : ∀ b, P b → ∀ a ∈ l, f b a = some (g b a) ∧ P (g b a)) {b : β}
    (hb : P b) : l.foldlM f b = some (l.foldl g b) ∧ P (l.foldl g b) := by
  induction l generalizing b with
  | nil => exact ⟨rfl, hb⟩
  | cons a rest ih =>
    obtain ⟨hfirst, hkept⟩ := hstep b hb a List.mem_cons_self
    rw [List.foldlM_cons, hfirst]
    exact ih (fun b hb a ha => hstep b hb a (List.mem_cons_of_mem _ ha)) hkept

/-- The map with the fixup of one byte replaced, if the byte is there. -/
def ConversionMap.setTag? (m : ConversionMap) (i : Nat) (f : ByteFixup) : Option ConversionMap :=
  if i < m.tags.size then some (m.setTag i f) else none

/-! ## 2. The analysis, access by access -/

namespace Pass

/-- One byte of the vertex tagged. -/
def tagByte? (p : Pass) (m : ConversionMap) (i : Nat) (f : ByteFixup) : Option Pass := do
  let old ← m.tags[i]?
  if old = f then return p
  let tagged ← m.setTag? i f
  return { p with map := some tagged, changed := true }.tell (.tagChanged i old f)

/-- The bytes of an attribute tagged. -/
def tagBytes? (p : Pass) (e : VertexAttribute) (f : ByteFixup) : Option Pass :=
  (List.range e.format.width).foldlM (fun p i =>
    match p.map with
    | some m => do
      let start ← remainder? e.offset m.stride
      let place ← remainder? (start + i) m.stride
      p.tagByte? m place f
    | none => some p) p

/-- An attribute tagged with a fixup. -/
def tagAttribute? (p : Pass) (e : VertexAttribute) (f : ByteFixup) : Option Pass :=
  let p := p.takeStride e
  if p.conflict then some p
  else match p.map with
    | none => some (p.tell (.strideUnknown e.format))
    | some _ => p.tagBytes? e f

/-- An attribute slot visited. -/
def visit? (buffer : BufferId) (layout : VertexLayout) (fixup : FixupFlags) (p : Pass)
    (slot : AttributeSlot) : Option Pass :=
  if p.conflict then some p
  else match layout.element slot with
    | none => some p
    | some e =>
      if e.buffer ≠ buffer then some p
      else match treatment fixup layout.transformed p.map.isSome slot e.format with
        | .tag f => p.tagAttribute? e f
        | .unexpected => some (p.tell (.formatUnexpected e.format))
        | .skip => some p

/-- A pass over all slots, starting from a map. -/
def run? (buffer : BufferId) (layout : VertexLayout) (fixup : FixupFlags)
    (map : Option ConversionMap) : Option Pass :=
  AttributeSlot.all.foldlM (visit? buffer layout fixup) ⟨map, 0, false, false, []⟩

/-- The map of the pass, if there is one, is regular. -/
def Regular (p : Pass) : Prop := ∀ m, p.map = some m → m.Regular

variable {p : Pass} {m : ConversionMap} {e : VertexAttribute} {f : ByteFixup} {i : Nat}

theorem Regular.setTag (h : m.Regular) : (m.setTag i f).Regular :=
  ⟨h.stride_ne, (Array.size_setIfInBounds ..).trans h.size⟩

theorem tagByte?_eq (hp : p.Regular) (hm : m.Regular) (hi : i < m.stride) :
    p.tagByte? m i f = some (p.tagByte m i f) ∧ (p.tagByte m i f).Regular := by
  have hin : i < m.tags.size := hm.size.symm ▸ hi
  unfold tagByte? tagByte
  rw [ConversionMap.getElem?_tags hin]
  by_cases htag : m.tag i = f
  · rw [if_pos htag]
    exact ⟨if_pos htag, hp⟩
  · rw [if_neg htag]
    refine ⟨?_, fun m' hm' => ?_⟩
    · show (if m.tag i = f then _ else _) = _
      rw [if_neg htag]
      unfold ConversionMap.setTag?
      rw [if_pos hin]
      rfl
    · cases hm'
      exact Regular.setTag hm

theorem tagBytes?_eq (hp : p.Regular) (e : VertexAttribute) (f : ByteFixup) :
    p.tagBytes? e f = some (p.tagBytes e f) ∧ (p.tagBytes e f).Regular := by
  refine foldlM_eq_some (fun p hp i _ => ?_) hp
  cases hmap : p.map with
  | none => exact ⟨rfl, hp⟩
  | some m =>
    have hm := hp m hmap
    dsimp only
    rw [remainder?_eq hm.stride_ne, Option.bind_eq_bind, Option.bind_some,
      remainder?_eq hm.stride_ne, Option.bind_some]
    exact tagByte?_eq hp hm (Nat.mod_lt _ (Nat.pos_of_ne_zero hm.stride_ne))

/-- A map that is made for a stride is regular, since no map is made for a stride of zero. -/
theorem Regular.takeStride (hp : p.Regular) (e : VertexAttribute) : (p.takeStride e).Regular := by
  unfold Pass.takeStride
  split
  · exact hp
  · rename_i hstride
    split
    · exact hp
    · dsimp only
      split
      · exact hp
      · intro m hm
        cases hm
        exact ConversionMap.regular_plain hstride

theorem tagAttribute?_eq (hp : p.Regular) (e : VertexAttribute) (f : ByteFixup) :
    p.tagAttribute? e f = some (p.tagAttribute e f) ∧ (p.tagAttribute e f).Regular := by
  have htaken := hp.takeStride e
  unfold tagAttribute? tagAttribute
  dsimp only
  split
  · exact ⟨rfl, htaken⟩
  · cases (p.takeStride e).map with
    | none => exact ⟨rfl, htaken⟩
    | some _ => exact tagBytes?_eq htaken e f

theorem visit?_eq {buffer : BufferId} {layout : VertexLayout} {fixup : FixupFlags} (hp : p.Regular)
    (slot : AttributeSlot) : visit? buffer layout fixup p slot =
      some (visit buffer layout fixup p slot) ∧ (visit buffer layout fixup p slot).Regular := by
  unfold visit? visit
  split
  · exact ⟨rfl, hp⟩
  · cases layout.element slot with
    | none => exact ⟨rfl, hp⟩
    | some e =>
      dsimp only
      split
      · exact ⟨rfl, hp⟩
      · cases treatment fixup layout.transformed p.map.isSome slot e.format with
        | tag f => exact tagAttribute?_eq hp e f
        | unexpected => exact ⟨rfl, hp⟩
        | skip => exact ⟨rfl, hp⟩

theorem run?_eq {map : Option ConversionMap} (h : ∀ m, map = some m → m.Regular)
    (buffer : BufferId) (layout : VertexLayout) (fixup : FixupFlags) :
    run? buffer layout fixup map = some (run buffer layout fixup map) :=
  (foldlM_eq_some (P := Regular) (b := ⟨map, 0, false, false, []⟩)
    (fun _ hp slot _ => visit?_eq hp slot) h).1

end Pass

/-! ## 3. The conversion, access by access -/

namespace ConversionMap

/-- The walk over the vertex at `base`, from its byte `j` on. Each step takes what is left of the
    vertex and the tag of its first byte; nothing but the tags moves it on, and each of them
    does. -/
def walk? (m : ConversionMap) (base j : Nat) (data : ByteArray) : Option ByteArray :=
  if j < m.stride then do
    let tail ← Bytes.slice? data (base + j) (m.stride - j)
    let f ← m.tags[j]?
    m.walk? base (j + f.width) (f.apply data (base + j) tail.size)
  else some data
termination_by m.stride - j
decreasing_by
  have hwidth := f.width_pos
  omega

/-- The content with the vertices converted that the spans touch, span after span. -/
def convert? (m : ConversionMap) (data : ByteArray) (spans : List ByteRange) : Option ByteArray :=
  if m.stride = 0 then some data
  else do
    let total ← quotient? data.size m.stride
    spans.foldlM (fun d r => do
      let first ← quotient? r.offset m.stride
      let last ← quotient? r.stop m.stride
      (List.range' first (min (last + 1) total - first)).foldlM
        (fun d v => m.walk? (v * m.stride) 0 d) d) data

variable {m : ConversionMap} {data : ByteArray} {base v : Nat}

/-- **The walk misses nothing.** What is left of the stride bounds its steps. -/
theorem Regular.walk?_eq (h : m.Regular) (hfit : base + m.stride ≤ data.size) {fuel j : Nat}
    (hfuel : m.stride ≤ j + fuel) : m.walk? base j data =
      some ((m.planFrom fuel j).foldl
        (fun d (j, f) => f.apply d (base + j) (m.stride - j)) data) := by
  induction fuel generalizing j data with
  | zero =>
    rw [walk?, if_neg (by omega)]
    rfl
  | succ fuel ih =>
    rw [walk?, planFrom]
    by_cases hj : j < m.stride
    · have hwidth := (m.tag j).width_pos
      have hsize : (data.extract (base + j) (base + j + (m.stride - j))).size = m.stride - j := by
        rw [ByteArray.size_extract]
        omega
      rw [if_pos hj, if_pos hj, Bytes.slice?_eq_some (by omega),
        getElem?_tags (h.size.symm ▸ hj), List.foldl_cons]
      simp only [Option.bind_eq_bind, Option.bind_some, hsize]
      exact ih (by rw [ByteFixup.size_apply]; exact hfit) (by omega)
    · rw [if_neg hj, if_neg hj]
      rfl

theorem Regular.walk?_vertex (h : m.Regular) (hv : v < data.size / m.stride) :
    m.walk? (v * m.stride) 0 data = some (m.convertVertex (v * m.stride) data) :=
  h.walk?_eq (m.vertex_fits hv) (by omega)

/-- **A conversion by a regular map misses nothing**, whatever the spans are. -/
theorem Regular.convert?_eq (h : m.Regular) (data : ByteArray) (spans : List ByteRange) :
    m.convert? data spans = some (m.convert data spans) := by
  unfold convert? convert
  simp only [if_neg h.stride_ne, quotient?_eq h.stride_ne, Option.bind_eq_bind, Option.bind_some,
    List.foldl_flatMap]
  refine (foldlM_eq_some (P := fun d : ByteArray => d.size = data.size) (fun d hd r _ => ?_) rfl).1
  have htouched : List.range' (r.offset / m.stride)
      (min (r.stop / m.stride + 1) (data.size / m.stride) - r.offset / m.stride) =
        m.touched data.size r := List.range'_eq_map_range
  rw [htouched]
  refine foldlM_eq_some (P := fun d : ByteArray => d.size = data.size) (fun d hd v hv => ?_) hd
  refine ⟨h.walk?_vertex ?_, (m.size_convertVertex _ _).trans hd⟩
  rw [hd]
  exact m.mem_touched hv

end ConversionMap

/-! ## 4. Histories of analyses and resets -/

namespace ConversionState

/-- The layout of a draw analysed for one buffer. -/
def analyse? (c : ConversionState) (buffer : BufferId) (layout : VertexLayout)
    (fixup : FixupFlags) (staticDecl : Bool) : Option Analysis :=
  if c.analysed && staticDecl then some ⟨c, false, []⟩
  else if fixup.isEmpty then some ⟨⟨none, true⟩, c.map.isSome, [.noFixup]⟩
  else do
    let p ← Pass.run? buffer layout fixup c.map
    if p.conflict then
      return ⟨⟨c.map, true⟩, false, (p.tell (.analysisSkipped buffer)).told.reverse⟩
    let p := p.dropUnused buffer
    let p := if p.changed then p.tell (.mapChanged buffer) else p
    return ⟨⟨p.map, true⟩, p.changed, p.told.reverse⟩

/-- **An analysis that starts from a regular map misses nothing.** -/
theorem Sound.analyse?_eq {c : ConversionState} (h : c.Sound) (buffer : BufferId)
    (layout : VertexLayout) (fixup : FixupFlags) (staticDecl : Bool) :
    c.analyse? buffer layout fixup staticDecl =
      some (c.analyse buffer layout fixup staticDecl) := by
  unfold analyse? ConversionState.analyse
  split
  · rfl
  · split
    · rfl
    · rw [Pass.run?_eq (fun m hm => (h m hm).1), Option.bind_eq_bind, Option.bind_some]
      dsimp only
      split <;> rfl

/-- What is done with the conversion state of a buffer. -/
inductive Use where
  | analyse (buffer : BufferId) (layout : VertexLayout) (fixup : FixupFlags) (staticDecl : Bool)
  | reset

/-- What becomes of the state; a reset forgets all of it. -/
def Use.after (c : ConversionState) : Use → ConversionState
  | .analyse buffer layout fixup staticDecl =>
    (c.analyse buffer layout fixup staticDecl).conversion
  | .reset => .fresh

/-- The same, access by access. -/
def Use.after? (c : ConversionState) : Use → Option ConversionState
  | .analyse buffer layout fixup staticDecl =>
    (c.analyse? buffer layout fixup staticDecl).map (·.conversion)
  | .reset => some .fresh

theorem Sound.use {c : ConversionState} (h : c.Sound) (use : Use) :
    use.after? c = some (use.after c) ∧ (use.after c).Sound := by
  cases use with
  | analyse buffer layout fixup staticDecl =>
    refine ⟨?_, h.analyse⟩
    unfold Use.after?
    dsimp only
    rw [h.analyse?_eq]
    rfl
  | reset => exact ⟨rfl, sound_fresh⟩

/-- **A conversion stays in bounds and in its vertices.** After any history of analyses and resets,
    none of which misses with an access, a map has a stride, and as many tags. A conversion by it
    misses nothing and comes to its end, whatever the content and the spans are; it keeps the size
    of the content, the bytes behind the last complete vertex, and the vertices that no span
    touches. -/
theorem conversion_stays_in_bounds (uses : List Use) :
    uses.foldlM Use.after? .fresh = some (uses.foldl Use.after .fresh) ∧
      ∀ m, (uses.foldl Use.after .fresh).map = some m → m.stride ≠ 0 ∧ m.tags.size = m.stride ∧
        ∀ data spans,
          m.convert? data spans = some (m.convert data spans) ∧
          (m.convert data spans).size = data.size ∧
          (∀ i, data.size / m.stride * m.stride ≤ i →
            Bytes.byteAt? (m.convert data spans) i = Bytes.byteAt? data i) ∧
          ∀ v < data.size / m.stride,
            (∀ r ∈ spans, ¬ (r.offset / m.stride ≤ v ∧ v ≤ r.stop / m.stride)) →
            ∀ k < m.stride, Bytes.byteAt? (m.convert data spans) (v * m.stride + k) =
              Bytes.byteAt? data (v * m.stride + k) := by
  obtain ⟨hrun, hsound⟩ := foldlM_eq_some (P := Sound) (l := uses)
    (fun c hc use _ => hc.use use) sound_fresh
  refine ⟨hrun, fun m hm => ?_⟩
  have hregular := (hsound m hm).1
  refine ⟨hregular.stride_ne, hregular.size, fun data spans => ⟨hregular.convert?_eq data spans,
    m.size_convert _ _, fun i hi => m.byteAt?_convert hi spans, fun v hv huntouched k hk => ?_⟩⟩
  have hvertex : m.vertex (m.convert data spans) v = m.vertex data v :=
    m.vertex_convert_of_untouched hv fun ⟨r, hr, ht⟩ => huntouched r hr ht
  rw [← m.byteAt?_vertex (by rwa [ConversionMap.size_convert]) hk, hvertex, m.byteAt?_vertex hv hk]

/-- A color across the end of a vertex of seven bytes, told to a buffer that was reset. The walk
    comes to its bytes 0 and 4; spans past the end of the content touch its last vertex only. -/
theorem conversion_stays_in_bounds_around :
    let l : VertexLayout := (VertexLayout.empty false).set .diffuse
      (some ⟨.b8g8r8a8Unorm, 7, 5 + 7 * 3, ⟨0⟩⟩)
    let uses : List Use := [.analyse ⟨0⟩ windowLayout everyFixup false, .reset,
      .analyse ⟨0⟩ l everyFixup true]
    let m : ConversionMap := ⟨7, #[.color, .color, .keep, .keep, .keep, .color, .color]⟩
    let data : ByteArray := ⟨#[1, 2, 3, 4, 5, 6, 7, 8, 9, 10, 11, 12, 13, 14, 15]⟩
    let spans : List ByteRange := [⟨9, 0⟩, ⟨40, 100⟩]
    (uses.foldl Use.after .fresh).map = some m ∧
      m.convert? data spans = some ⟨#[1, 2, 3, 4, 5, 6, 7, 10, 9, 8, 11, 12, 13, 14, 15]⟩ ∧
      Bytes.byteAt? (m.convert data spans) (0 * 7 + 2) = Bytes.byteAt? data (0 * 7 + 2) := by
  intro l uses m data spans
  have hmap : (uses.foldl Use.after .fresh).map = some m := by decide +kernel
  obtain ⟨-, -, hall⟩ := (conversion_stays_in_bounds uses).2 m hmap
  obtain ⟨hconvert, -, -, huntouched⟩ := hall data spans
  refine ⟨hmap, hconvert.trans (congrArg some (by decide +kernel)), ?_⟩
  exact huntouched 0 (by decide) (by decide) 2 (by decide)

end ConversionState

end BufferCoherence
