import BufferCoherence.Device.Memory
import BufferCoherence.Proofs.Bytes
import BufferCoherence.Proofs.Spans
import BufferCoherence.Proofs.Steps

/-!
# The memory device and the content of its objects

What the calls of the memory device do to the content of objects. `bytes?` is the view that
everything is stated through: the content of an object, if the handle names one. A call either
leaves every content alone (`Untouched`) or replaces one of them (`Rewrites`):

* a transfer of one run reads the run or fails without a trace (`transfer_into`, `transfer_out`);
* an upload of several spans leaves in each span what the source holds there (`transfer_spans`);
* a new object has a handle of its own, is as large as asked for, and empty (`makeObject_ends`).
-/

namespace BufferCoherence.MemoryDevice

variable {d d' e : MemoryDevice} {h : ObjectHandle} {c : ByteArray}

/-! ## 1. Contents -/

/-- The content of an object. -/
def bytes? (d : MemoryDevice) (h : ObjectHandle) : Option ByteArray := (d.object? h).map (·.bytes)

/-- What a device is, apart from its objects. -/
structure SameKnobs (d d' : MemoryDevice) : Prop where
  caps : d'.caps = d.caps
  nextHandle : d'.nextHandle = d.nextHandle
  refusesObjects : d'.refusesObjects = d.refusesObjects
  shiftsMappings : d'.shiftsMappings = d.shiftsMappings

theorem SameKnobs.refl (d : MemoryDevice) : SameKnobs d d := ⟨rfl, rfl, rfl, rfl⟩

/-- Every object keeps its content. -/
structure Untouched (d d' : MemoryDevice) : Prop extends SameKnobs d d' where
  bytes : ∀ h, d'.bytes? h = d.bytes? h

theorem Untouched.refl (d : MemoryDevice) : Untouched d d := ⟨.refl d, fun _ => rfl⟩

/-- One object has new content, and every other one keeps its own. -/
structure Rewrites (h : ObjectHandle) (c : ByteArray) (d d' : MemoryDevice) : Prop
    extends SameKnobs d d' where
  bytes : d'.bytes? h = some c
  others : ∀ h', h' ≠ h → d'.bytes? h' = d.bytes? h'

theorem size_bytes (o : HostObject) : o.bytes.size = o.request.size := by
  unfold HostObject.bytes
  rw [Bytes.size_take]
  exact Nat.min_eq_left o.covered

theorem bytes?_eq_some (h' : d.bytes? h = some c) :
    ∃ o, d.object? h = some o ∧ o.bytes = c ∧ o.request.size = c.size := by
  obtain ⟨o, ho, rfl⟩ := Option.map_eq_some_iff.mp h'
  exact ⟨o, ho, rfl, (size_bytes o).symm⟩

/-- The host can hold what it holds. -/
theorem size_le_largestRun (h' : d.bytes? h = some c) : c.size ≤ Bytes.largestRun := by
  obtain ⟨o, -, -, hs⟩ := bytes?_eq_some h'
  rw [← hs]
  exact o.hosted

theorem object?_putObject (d : MemoryDevice) (h h' : ObjectHandle) (o : HostObject) :
    (d.putObject h o).object? h' = if h' = h then some o else d.object? h' := by
  unfold putObject object?
  rw [Table.get?_insert]
  cases h; cases h'
  simp only [ObjectHandle.mk.injEq]

theorem bytes?_putObject (d : MemoryDevice) (h h' : ObjectHandle) (o : HostObject) :
    (d.putObject h o).bytes? h' = if h' = h then some o.bytes else d.bytes? h' := by
  unfold bytes?
  rw [object?_putObject]
  split <;> rfl

/-- An object replaced by one with other content; whatever else is recorded. -/
theorem rewrites_putObject (d : MemoryDevice) (h : ObjectHandle) (o : HostObject)
    (call : DeviceCall) : Rewrites h o.bytes d ((d.putObject h o).record call) :=
  ⟨⟨rfl, rfl, rfl, rfl⟩, by show (d.putObject h o).bytes? h = _; rw [bytes?_putObject, if_pos rfl],
    fun h' hne => by show (d.putObject h o).bytes? h' = _; rw [bytes?_putObject, if_neg hne]⟩

theorem bytes_withStorage (o : HostObject) (storage : ByteArray)
    (hs : storage.size = o.storage.size) :
    (o.withStorage storage hs).bytes = Bytes.take storage o.request.size := rfl

/-! ## 2. Reading -/

/-- The first bytes of a source, as many as asked for. -/
def firstRun? (d : MemoryDevice) (source : TransferSource) (size : Nat) : Option ByteArray :=
  match source with
  | .host data => Bytes.slice? data 0 size
  | .object h offset => (d.bytes? h).bind fun c => Bytes.slice? c offset size

theorem size_firstRun? {source : TransferSource} {size : Nat} {run : ByteArray}
    (hr : d.firstRun? source size = some run) : run.size = size := by
  cases source with
  | host data => exact Bytes.size_slice? hr
  | object h offset =>
    obtain ⟨c, -, hc⟩ := Option.bind_eq_some_iff.mp hr
    exact Bytes.size_slice? hc

theorem readRun_first (d : MemoryDevice) (source : TransferSource) (size : Nat) :
    (∃ run, d.firstRun? source size = some run ∧ d.readRun source ⟨0, size⟩ = .ok run) ∨
      (d.firstRun? source size = none ∧ ∃ f, d.readRun source ⟨0, size⟩ = .error f) := by
  cases source with
  | host data =>
    simp only [firstRun?, readRun, Nat.zero_add]
    cases Bytes.slice? data 0 size with
    | some run => exact .inl ⟨run, rfl, rfl⟩
    | none => exact .inr ⟨rfl, _, rfl⟩
  | object h offset =>
    simp only [firstRun?, readRun, Nat.add_zero, bytes?]
    cases d.object? h with
    | none => exact .inr ⟨rfl, _, rfl⟩
    | some o =>
      simp only [Option.map_some, Option.bind_some]
      cases Bytes.slice? o.bytes offset size with
      | some run => exact .inl ⟨run, rfl, rfl⟩
      | none => exact .inr ⟨rfl, _, rfl⟩

/-- The spans of host bytes, each with what the bytes hold there. -/
def runsOf (data : ByteArray) (spans : List ByteRange) : List (ByteRange × ByteArray) :=
  spans.map fun r => (r, data.extract r.offset r.stop)

theorem stage_host {data : ByteArray} {spans : List ByteRange}
    (hs : ∀ r ∈ spans, r.stop ≤ data.size) :
    d.stage (.host data) spans = .ok (runsOf data spans) := by
  induction spans with
  | nil => rfl
  | cons r rest ih =>
    have hr : r.offset + r.size ≤ data.size := hs r List.mem_cons_self
    have hrun : d.readRun (.host data) r = .ok (data.extract r.offset r.stop) := by
      simp only [readRun, Nat.zero_add]
      rw [Bytes.slice?_eq_some hr]
      rfl
    simp only [stage, hrun]
    rw [ih fun r' hr' => hs r' (List.mem_cons_of_mem r hr')]
    rfl

/-! ## 3. Writing -/

theorem writeRanges_one (base limit : Nat) (r : ByteRange) (run data : ByteArray)
    (h : base + r.offset + run.size ≤ limit) :
    writeRanges base limit [(r, run)] data = (Bytes.splice data (base + r.offset) run, true) := by
  simp only [writeRanges]
  rw [if_pos h]

/-- The spans of one source, written one after the other, leave in each span what the source holds
    there, and nothing else changes. -/
theorem writeRanges_spans {source : ByteArray} {limit : Nat} {spans : List ByteRange}
    (hs : ∀ r ∈ spans, r.stop ≤ source.size) (hl : ∀ r ∈ spans, r.stop ≤ limit)
    (data : ByteArray) (hd : limit ≤ data.size) :
    (writeRanges 0 limit (runsOf source spans) data).2 = true ∧
      ∀ i, Bytes.byteAt? (writeRanges 0 limit (runsOf source spans) data).1 i =
        if CoveredBy spans i then Bytes.byteAt? source i else Bytes.byteAt? data i := by
  induction spans generalizing data with
  | nil => exact ⟨rfl, fun i => (if_neg (not_coveredBy_nil i)).symm⟩
  | cons r rest ih =>
    have hr : r.offset + r.size ≤ source.size := hs r List.mem_cons_self
    have hrl : r.offset + r.size ≤ limit := hl r List.mem_cons_self
    have hsize : (source.extract r.offset r.stop).size = r.size := by
      show (source.extract r.offset (r.offset + r.size)).size = _
      rw [ByteArray.size_extract]
      omega
    have hstep : writeRanges 0 limit (runsOf source (r :: rest)) data =
        writeRanges 0 limit (runsOf source rest)
          (Bytes.splice data r.offset (source.extract r.offset r.stop)) := by
      show writeRanges 0 limit ((r, _) :: runsOf source rest) data = _
      simp only [writeRanges, Nat.zero_add]
      rw [if_pos (by omega)]
    rw [hstep]
    obtain ⟨hdone, hbytes⟩ := ih (fun r' h' => hs r' (List.mem_cons_of_mem r h'))
      (fun r' h' => hl r' (List.mem_cons_of_mem r h'))
      (Bytes.splice data r.offset (source.extract r.offset r.stop))
      (by rw [Bytes.size_splice]; exact hd)
    refine ⟨hdone, fun i => ?_⟩
    rw [hbytes i]
    by_cases hrest : CoveredBy rest i
    · rw [if_pos hrest, if_pos (coveredBy_cons.mpr (.inr hrest))]
    · rw [if_neg hrest, Bytes.byteAt?_splice (by omega), hsize]
      by_cases hi : r.Holds i
      · have hi' : r.offset ≤ i ∧ i < r.offset + r.size := hi
        have hstop : r.stop = r.offset + r.size := rfl
        rw [if_pos hi', if_pos (coveredBy_cons.mpr (.inl hi)), Bytes.byteAt?_extract,
          if_pos (by omega), Nat.add_sub_cancel' hi'.1]
      · have hi' : ¬ (r.offset ≤ i ∧ i < r.offset + r.size) := hi
        rw [if_neg hi', if_neg fun h => (coveredBy_cons.mp h).elim hi hrest]

/-! ## 4. Transfers -/

/-- **A run copied into an object**: it is read and written as a whole, or there is no trace. -/
theorem transfer_into {base size : Nat} (hc : d.bytes? h = some c) (hfit : base + size ≤ c.size)
    (source : TransferSource) (flags : MapFlags) :
    (transfer (.object h base) source [⟨0, size⟩] flags).Ends d fun reply d' =>
      (∃ run, d.firstRun? source size = some run ∧ reply.outcome = .ok () ∧
        Rewrites h (Bytes.splice c base run) d d') ∨
      (d.firstRun? source size = none ∧ (∃ f, reply.outcome = .error f) ∧ d' = d) := by
  intro j
  obtain ⟨o, ho, hoc, hreq⟩ := bytes?_eq_some hc
  unfold transfer
  simp only [Step.wp_bind, Step.wp_get, stage]
  rcases readRun_first d source size with ⟨run, hrun, hread⟩ | ⟨hrun, f, hread⟩
  · have hsize := size_firstRun? hrun
    have hwritten := writeRanges_one base o.request.size ⟨0, size⟩ run o.storage (by
      show base + 0 + run.size ≤ o.request.size
      omega)
    simp only [hread, deliver, ho, hwritten, if_true, Step.wp_bind, Step.wp_set, Step.wp_pure]
    refine .inl ⟨run, hrun, trivial, ?_⟩
    have hnew : (o.withStorage (Bytes.splice o.storage (base + 0) run)
        (Bytes.size_splice _ _ _)).bytes = Bytes.splice c base run := by
      rw [bytes_withStorage, Nat.add_zero, Bytes.take_splice (by omega) o.covered]
      exact congrArg (Bytes.splice · base run) hoc
    rw [← hnew]
    exact rewrites_putObject d h _ _
  · simp only [hread, Step.wp_bind, Step.wp_note, Step.wp_pure]
    exact .inr ⟨hrun, ⟨f, rfl⟩, trivial⟩

/-- **A run copied to the host**: it is read as a whole, or there is no trace. -/
theorem transfer_host {size : Nat} {data : ByteArray} (hdata : data.size = size)
    (source : TransferSource) (flags : MapFlags) :
    (transfer (.host data) source [⟨0, size⟩] flags).Ends d fun reply d' =>
      (∃ run, d.firstRun? source size = some run ∧ reply.outcome = .ok () ∧ reply.host = run ∧
        Untouched d d') ∨
      (d.firstRun? source size = none ∧ (∃ f, reply.outcome = .error f) ∧ reply.host = data ∧
        d' = d) := by
  intro j
  unfold transfer
  simp only [Step.wp_bind, Step.wp_get, stage]
  rcases readRun_first d source size with ⟨run, hrun, hread⟩ | ⟨hrun, f, hread⟩
  · have hsize := size_firstRun? hrun
    have hwritten := writeRanges_one 0 data.size ⟨0, size⟩ run data (by
      show 0 + 0 + run.size ≤ data.size
      omega)
    simp only [hread, deliver, hwritten, if_true, Step.wp_bind, Step.wp_set, Step.wp_pure]
    exact .inl ⟨run, hrun, trivial, Bytes.splice_all (hsize.trans hdata.symm),
      ⟨rfl, rfl, rfl, rfl⟩, fun _ => rfl⟩
  · simp only [hread, Step.wp_bind, Step.wp_note, Step.wp_pure]
    exact .inr ⟨hrun, ⟨f, rfl⟩, rfl, trivial⟩

/-- The first run of an object that has it. -/
theorem firstRun?_object {offset size : Nat} (hc : d.bytes? h = some c)
    (hfit : offset + size ≤ c.size) :
    d.firstRun? (.object h offset) size = some (c.extract offset (offset + size)) := by
  unfold firstRun?
  simp only [hc, Option.bind_some]
  exact Bytes.slice?_eq_some hfit

/-- The first run of bytes that the host gives whole. -/
theorem firstRun?_host {data : ByteArray} {size : Nat} (hdata : data.size = size) :
    d.firstRun? (.host data) size = some data := by
  have hfit : 0 + size = data.size := by rw [hdata, Nat.zero_add]
  have hall : data.extract 0 (0 + size) = data := Bytes.extract_all (Nat.le_of_eq hfit.symm)
  exact (Bytes.slice?_eq_some (Nat.le_of_eq hfit)).trans (congrArg some hall)

/-- A run copied to the host from an object that has it. -/
theorem transfer_out {offset size : Nat} {data : ByteArray} (hc : d.bytes? h = some c)
    (hfit : offset + size ≤ c.size) (hdata : data.size = size) (flags : MapFlags) :
    (transfer (.host data) (.object h offset) [⟨0, size⟩] flags).Ends d fun reply d' =>
      reply.outcome = .ok () ∧ reply.host = c.extract offset (offset + size) ∧
        Untouched d d' := by
  refine (transfer_host hdata _ flags).mono fun reply d' hd => ?_
  have hrun := firstRun?_object hc hfit
  rcases hd with ⟨run, hrun', hok, hhost, hd⟩ | ⟨hnone, -⟩
  · cases hrun.symm.trans hrun'
    exact ⟨hok, hhost, hd⟩
  · cases hrun.symm.trans hnone

/-- **Spans copied from the host into an object**: in each span the object holds what the host
    holds there, and elsewhere what it held. -/
theorem transfer_spans {data : ByteArray} {spans : List ByteRange} (hc : d.bytes? h = some c)
    (hdata : data.size = c.size) (hs : ∀ r ∈ spans, r.stop ≤ c.size) (flags : MapFlags) :
    (transfer (.object h 0) (.host data) spans flags).Ends d fun reply d' =>
      reply.outcome = .ok () ∧ ∃ c', Rewrites h c' d d' ∧ Overlaid spans data c c' := by
  intro j
  obtain ⟨o, ho, hoc, hreq⟩ := bytes?_eq_some hc
  have hsource (r : ByteRange) (hr : r ∈ spans) : r.stop ≤ data.size := hdata ▸ hs r hr
  have hlimit (r : ByteRange) (hr : r ∈ spans) : r.stop ≤ o.request.size := hreq ▸ hs r hr
  obtain ⟨hdone, hbytes⟩ := writeRanges_spans hsource hlimit o.storage o.covered
  unfold transfer
  simp only [Step.wp_bind, Step.wp_get, stage_host hsource, deliver, ho,
    hdone, if_true, Step.wp_set, Step.wp_pure]
  refine ⟨trivial, _, rewrites_putObject d h _ _, ?_, fun i => ?_⟩
  · rw [size_bytes]
    exact hreq
  · rw [bytes_withStorage, Bytes.byteAt?_take, hbytes i, ← hoc]
    unfold HostObject.bytes
    rw [Bytes.byteAt?_take]
    by_cases hi : i < o.request.size
    · rw [if_pos hi, if_pos hi]
    · rw [if_neg hi, if_neg hi]
      split
      · exact (Bytes.byteAt?_eq_none_iff.mpr (by omega)).symm
      · rfl

/-! ## 5. Objects and mappings -/

/-- The device creates objects of a size when it is asked to. -/
def Grants (d : MemoryDevice) (size : Nat) : Prop :=
  size ≤ Bytes.largestRun ∧ d.refusesObjects = false

/-- The device has one object more, which holds zeroes. -/
structure Adds (size : Nat) (d d' : MemoryDevice) : Prop where
  caps : d'.caps = d.caps
  nextHandle : d'.nextHandle = d.nextHandle + 1
  refusesObjects : d'.refusesObjects = d.refusesObjects
  shiftsMappings : d'.shiftsMappings = d.shiftsMappings
  bytes : d'.bytes? ⟨d.nextHandle⟩ = some (Bytes.zeros size)
  others : ∀ h, h ≠ ⟨d.nextHandle⟩ → d'.bytes? h = d.bytes? h

theorem makeObject_ends (d : MemoryDevice) (request : ObjectRequest) :
    (makeObject request).Ends d fun r d' =>
      (r = .ok ⟨⟨d.nextHandle⟩, 0⟩ ∧ d.Grants request.size ∧ Adds request.size d d') ∨
      ((∃ f, r = .error f) ∧ ¬ d.Grants request.size ∧ d' = d) := by
  intro j
  unfold makeObject
  simp only [Attempt.wp_bind, Attempt.wp_get]
  by_cases hg : request.size ≤ Bytes.largestRun ∧ d.refusesObjects = false
  · rw [dif_pos hg]
    refine .inl ⟨rfl, hg, rfl, rfl, rfl, rfl, ?_, fun h' hne => ?_⟩
    · show ({ d with nextHandle := d.nextHandle + 1 }.putObject ⟨d.nextHandle⟩ _).bytes? _ = _
      rw [bytes?_putObject, if_pos rfl]
      refine congrArg some (Bytes.ext_of_size ?_ fun i hi => ?_)
      · rw [size_bytes, Bytes.size_zeros]
        rfl
      · rw [size_bytes] at hi
        have hi' : i < request.size := hi
        show Bytes.byteAt? (Bytes.take (Bytes.zeros (HostObject.storageSize request.size))
          request.size) i = _
        have := HostObject.le_storageSize request.size
        rw [Bytes.byteAt?_take, if_pos hi', Bytes.byteAt?_zeros, Bytes.byteAt?_zeros,
          if_pos (by omega), if_pos hi']
    · show ({ d with nextHandle := d.nextHandle + 1 }.putObject ⟨d.nextHandle⟩ _).bytes? _ = _
      rw [bytes?_putObject, if_neg hne]
      rfl
  · rw [dif_neg hg]
    exact .inr ⟨⟨_, rfl⟩, hg, rfl⟩

theorem freeObject_ends (d : MemoryDevice) (h : ObjectHandle) :
    (freeObject h).Ends d fun _ d' =>
      SameKnobs d d' ∧ ∀ h', h' ≠ h → d'.bytes? h' = d.bytes? h' := by
  intro j
  unfold freeObject
  simp only [Step.wp_bind, Step.wp_get, Step.wp_ite, Step.wp_note, Step.wp_set,
    ite_self]
  refine ⟨⟨rfl, rfl, rfl, rfl⟩, fun h' hne => ?_⟩
  unfold bytes? object?
  show ((d.objects.erase h.number).get? h'.number).map _ = _
  rw [Table.get?_erase, if_neg fun he => hne (by cases h; cases h'; cases he; rfl)]

/-- An object replaced by itself, mapped or not. -/
theorem untouched_mapped (d : MemoryDevice) {o : HostObject} (ho : d.object? h = some o)
    (mapped : Bool) (call : DeviceCall) :
    Untouched d ((d.putObject h { o with mapped }).record call) := by
  refine ⟨⟨rfl, rfl, rfl, rfl⟩, fun h' => ?_⟩
  show (d.putObject h _).bytes? h' = _
  rw [bytes?_putObject]
  split
  · rename_i he
    rw [he]
    unfold bytes?
    rw [ho]
    rfl
  · rfl

/-- To map an object leaves every content alone. -/
theorem openMapping_untouched (d : MemoryDevice) (h : ObjectHandle)
    (offset size : Nat) (flags : MapFlags) :
    (openMapping h offset size flags).Ends d fun _ d' => Untouched d d' := by
  intro j
  unfold openMapping
  rw [Attempt.wp_bind, Attempt.wp_get]
  dsimp only
  cases ho : d.object? h with
  | none => exact .refl d
  | some o =>
    rw [Attempt.wp_ite]
    split
    · exact .refl d
    · rw [Attempt.wp_bind, Attempt.wp_set]
      exact untouched_mapped d ho true _

/-- Where a mapping starts in the storage; one byte later where the device shifts mappings. -/
theorem openMapping_ends {size : Nat} (hc : d.bytes? h = some c) (hsize : size = c.size)
    (flags : MapFlags) :
    (openMapping h 0 size flags).Ends d fun r d' =>
      r = .ok (if d.shiftsMappings then 1 else 0) ∧ Untouched d d' := by
  intro j
  obtain ⟨o, ho, -, hreq⟩ := bytes?_eq_some hc
  unfold openMapping
  simp only [Attempt.wp_bind, Attempt.wp_get, ho]
  rw [if_neg (by omega)]
  simp only [Attempt.wp_bind, Attempt.wp_set, Attempt.wp_pure, Nat.zero_add]
  exact ⟨trivial, untouched_mapped d ho true _⟩

theorem closeMapping_ends (d : MemoryDevice) (h : ObjectHandle) (ranges : List ByteRange) :
    (closeMapping h ranges).Ends d fun _ d' => Untouched d d' := by
  intro j
  unfold closeMapping
  simp only [Step.wp_bind, Step.wp_get]
  cases ho : d.object? h with
  | none =>
    simp only [Step.wp_bind, Step.wp_note, Step.wp_set]
    exact ⟨⟨rfl, rfl, rfl, rfl⟩, fun _ => rfl⟩
  | some o =>
    simp only [Step.wp_set]
    exact untouched_mapped d ho false _

/-- Bytes written in place change the content where they fit. -/
theorem rewrites_poke {position : Nat} {data : ByteArray} (hc : d.bytes? h = some c)
    (hfit : position + data.size ≤ c.size) :
    Rewrites h (Bytes.splice c position data) d (poke h position data d) := by
  obtain ⟨o, ho, hoc, hreq⟩ := bytes?_eq_some hc
  unfold poke
  simp only [ho]
  have hnew : (o.write position data).bytes = Bytes.splice c position data := by
    unfold HostObject.write
    rw [bytes_withStorage, Bytes.take_splice (by omega) o.covered]
    exact congrArg (Bytes.splice · position data) hoc
  rw [← hnew]
  exact ⟨⟨rfl, rfl, rfl, rfl⟩, by rw [bytes?_putObject, if_pos rfl],
    fun h' hne => by rw [bytes?_putObject, if_neg hne]⟩

/-- Bytes read in place are those of the content. -/
theorem peek_eq {position size : Nat} (hc : d.bytes? h = some c) (hfit : position + size ≤ c.size) :
    peek d h position size = c.extract position (position + size) := by
  obtain ⟨o, ho, hoc, hreq⟩ := bytes?_eq_some hc
  unfold peek
  simp only [ho]
  rw [← hoc]
  exact (Bytes.extract_take (by omega)).symm

end BufferCoherence.MemoryDevice
