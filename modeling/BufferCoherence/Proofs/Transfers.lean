import BufferCoherence.Proofs.Balance
import BufferCoherence.Proofs.Memory

/-!
# Transfers on both devices

The memory device and the Vulkan device side by side. Both are seen through the contents of their
objects (`bytes?`), and a transfer of ranges that are in bounds does the same to both views
(`transfers_agree`): in the union of the ranges the target holds what the source held, and nothing
else changes (`Delivers`), however the ranges overlap, also within one object.

* the memory device reads every range before it writes any (`MemoryDevice.transfer_delivers`);
* the Vulkan device goes one of its ways (`VulkanDevice.transfer_delivers`), which fails nowhere if
  the driver refuses no call and has room for the staging buffer.
-/

namespace BufferCoherence

open Vulkan (Driver MemoryRecord)
open VulkanDevice (copyRanges copyRanges_cons totalSize Grants)

/-! ## 1. What a transfer delivers -/

/-- The bytes that a source reads from, and where its ranges count from. -/
def TransferSource.reads? (view : ObjectHandle → Option ByteArray) :
    TransferSource → Option (ByteArray × Nat)
  | .host data => some (data, 0)
  | .object h base => (view h).map (·, base)

/-- The bytes that a target writes to, and where its ranges count from. -/
def TransferTarget.writes? (view : ObjectHandle → Option ByteArray) :
    TransferTarget → Option (ByteArray × Nat)
  | .host data => some (data, 0)
  | .object h base => (view h).map (·, base)

/-- The transfer succeeds, the target holds `result`, and nothing else changes. -/
def Delivers (target : TransferTarget) (result : ByteArray) (reply : TransferReply)
    (view view' : ObjectHandle → Option ByteArray) : Prop :=
  reply.outcome = .ok () ∧
    match target with
    | .host _ => reply.host = result ∧ ∀ h, view' h = view h
    | .object h _ => reply.host = ByteArray.empty ∧ view' h = some result ∧
        ∀ h', h' ≠ h → view' h' = view h'

namespace Delivers

variable {target : TransferTarget} {result : ByteArray} {reply reply' : TransferReply}
  {view view' view'' : ObjectHandle → Option ByteArray}

/-- The answer is determined. -/
theorem reply_unique (h : Delivers target result reply view view')
    (h' : Delivers target result reply' view view'') : reply = reply' := by
  obtain ⟨hok, h⟩ := h
  obtain ⟨hok', h'⟩ := h'
  have hhost : reply.host = reply'.host := by
    cases target with
    | host _ => exact h.1.trans h'.1.symm
    | object _ _ => exact h.1.trans h'.1.symm
  cases reply
  cases reply'
  cases hhost
  cases hok.trans hok'.symm
  rfl

/-- All contents are determined. -/
theorem view_unique (h : Delivers target result reply view view')
    (h' : Delivers target result reply' view view'') (a : ObjectHandle) : view' a = view'' a := by
  obtain ⟨-, h⟩ := h
  obtain ⟨-, h'⟩ := h'
  cases target with
  | host _ => exact (h.2 a).trans (h'.2 a).symm
  | object b _ =>
    by_cases hab : a = b
    · rw [hab, h.2.1, h'.2.1]
    · rw [h.2.2 a hab, h'.2.2 a hab]

end Delivers

/-! ## 2. The memory device -/

namespace MemoryDevice

variable {d : MemoryDevice} {content into : ByteArray} {sourceBase targetBase : Nat}
  {ranges : List ByteRange}

/-- The ranges of a source, each with what the source holds there. -/
def runsFrom (content : ByteArray) (base : Nat) (ranges : List ByteRange) :
    List (ByteRange × ByteArray) :=
  ranges.map fun r => (r, content.extract (base + r.offset) (base + r.offset + r.size))

theorem stage_eq {source : TransferSource}
    (hsource : source.reads? d.bytes? = some (content, sourceBase))
    (hfit : ∀ r ∈ ranges, sourceBase + r.stop ≤ content.size) :
    d.stage source ranges = .ok (runsFrom content sourceBase ranges) := by
  induction ranges with
  | nil => rfl
  | cons r rest ih =>
    have hr : sourceBase + r.offset + r.size ≤ content.size := by
      have := hfit r List.mem_cons_self
      unfold ByteRange.stop at this
      omega
    have hread : d.readRun source r =
        .ok (content.extract (sourceBase + r.offset) (sourceBase + r.offset + r.size)) := by
      unfold readRun
      cases source with
      | host data =>
        cases hsource
        simp only [Bytes.slice?_eq_some hr]
      | object h base =>
        obtain ⟨c, hc, hpair⟩ := Option.map_eq_some_iff.mp hsource
        cases hpair
        obtain ⟨o, ho, rfl, -⟩ := bytes?_eq_some hc
        simp only [ho, Bytes.slice?_eq_some hr]
    unfold stage
    rw [hread, ih fun q hq => hfit q (List.mem_cons_of_mem r hq)]
    rfl

/-- Runs that fit are written, one after the other. -/
theorem writeRanges_runsFrom {limit : Nat}
    (hsource : ∀ r ∈ ranges, sourceBase + r.stop ≤ content.size)
    (htarget : ∀ r ∈ ranges, targetBase + r.stop ≤ limit) (data : ByteArray) :
    writeRanges targetBase limit (runsFrom content sourceBase ranges) data =
      (copyRanges content sourceBase targetBase ranges data, true) := by
  induction ranges generalizing data with
  | nil => rfl
  | cons r rest ih =>
    have hr := hsource r List.mem_cons_self
    have hr' := htarget r List.mem_cons_self
    unfold ByteRange.stop at hr hr'
    have hrun : (content.extract (sourceBase + r.offset) (sourceBase + r.offset + r.size)).size =
        r.size := by
      rw [ByteArray.size_extract]
      omega
    show writeRanges _ _ ((r, _) :: runsFrom content sourceBase rest) data = _
    simp only [writeRanges]
    rw [if_pos (by omega), ih (fun q hq => hsource q (List.mem_cons_of_mem r hq))
      fun q hq => htarget q (List.mem_cons_of_mem r hq), copyRanges_cons]

/-- Ranges written in front of the bytes to spare. -/
theorem take_copyRanges {size : Nat} (hsource : ∀ r ∈ ranges, sourceBase + r.stop ≤ content.size)
    (htarget : ∀ r ∈ ranges, targetBase + r.stop ≤ size) (data : ByteArray)
    (hsize : size ≤ data.size) :
    Bytes.take (copyRanges content sourceBase targetBase ranges data) size =
      copyRanges content sourceBase targetBase ranges (Bytes.take data size) := by
  induction ranges generalizing data with
  | nil => rfl
  | cons r rest ih =>
    have hr := hsource r List.mem_cons_self
    have hr' := htarget r List.mem_cons_self
    unfold ByteRange.stop at hr hr'
    rw [copyRanges_cons, copyRanges_cons, ih (fun q hq => hsource q (List.mem_cons_of_mem r hq))
      (fun q hq => htarget q (List.mem_cons_of_mem r hq)) _ (by rw [Bytes.size_splice]; exact hsize),
      Bytes.take_splice (by rw [ByteArray.size_extract]; omega) hsize]

/-- **A transfer in bounds succeeds, and copies its ranges.** -/
theorem transfer_delivers {target : TransferTarget} {source : TransferSource}
    (hsource : source.reads? d.bytes? = some (content, sourceBase))
    (htarget : target.writes? d.bytes? = some (into, targetBase))
    (hfrom : ∀ r ∈ ranges, sourceBase + r.stop ≤ content.size)
    (hto : ∀ r ∈ ranges, targetBase + r.stop ≤ into.size) (flags : MapFlags) :
    (transfer target source ranges flags).Ends d fun reply d' =>
      Delivers target (copyRanges content sourceBase targetBase ranges into) reply d.bytes?
        d'.bytes? ∧ SameKnobs d d' := by
  intro j
  unfold transfer
  simp only [Step.wp_bind, Step.wp_get, stage_eq hsource hfrom]
  cases target with
  | host data =>
    cases htarget
    simp only [deliver, writeRanges_runsFrom hfrom hto, if_true, Step.wp_bind, Step.wp_set,
      Step.wp_pure]
    exact ⟨⟨rfl, rfl, fun _ => rfl⟩, rfl, rfl, rfl, rfl⟩
  | object h base =>
    obtain ⟨c, hc, hpair⟩ := Option.map_eq_some_iff.mp htarget
    cases hpair
    obtain ⟨o, ho, rfl, hreq⟩ := bytes?_eq_some hc
    rw [← hreq] at hto
    simp only [deliver, ho, writeRanges_runsFrom hfrom hto, if_true, Step.wp_bind, Step.wp_set,
      Step.wp_pure]
    have hsize := VulkanDevice.size_copyRanges content sourceBase targetBase ranges o.storage
    have hnew : (o.withStorage (copyRanges content sourceBase targetBase ranges o.storage) hsize).bytes =
        copyRanges content sourceBase targetBase ranges o.bytes := by
      rw [bytes_withStorage]
      exact take_copyRanges hfrom hto o.storage o.covered
    have hrewrites := rewrites_putObject d h
      (o.withStorage (copyRanges content sourceBase targetBase ranges o.storage) hsize)
      (.transfer (.object h) source.endpoint ranges flags)
    rw [hnew] at hrewrites
    exact ⟨⟨rfl, rfl, hrewrites.bytes, hrewrites.others⟩, hrewrites.toSameKnobs⟩

end MemoryDevice

/-! ## 3. The Vulkan device -/

namespace VulkanDevice

variable {d : VulkanDevice} {c : VulkanQueue} {o : BoundBuffer} {a : ObjectHandle}
  {content into : ByteArray} {sourceBase targetBase : Nat} {ranges : List ByteRange}

/-- The content of an object. -/
def bytes? (d : VulkanDevice) (a : ObjectHandle) : Option ByteArray :=
  (d.object? a).bind fun o => d.driver.bytes? o.buffer

/-- The host reaches the memory of the object. -/
def visible (d : VulkanDevice) (a : ObjectHandle) : Bool :=
  ((d.object? a).bind fun o => d.driver.mapped? o.buffer).isSome

/-- The transfer goes through a staging buffer. -/
def Staged (d : VulkanDevice) : TransferTarget → TransferSource → Prop
  | .object a _, .host _ => d.visible a = false
  | .host _, .object a _ => d.visible a = false
  | .object a _, .object b _ => a = b
  | .host _, .host _ => False

namespace Balanced

theorem bytes?_eq (h : d.Balanced) (ho : d.object? a = some o) :
    ∃ m, d.driver.Holds o.buffer o.memory m ∧ m.bytes.size = o.size ∧
      d.bytes? a = some m.bytes ∧ d.visible a = m.hostVisible := by
  obtain ⟨m, hm, hsize⟩ := h.holds ho
  refine ⟨m, hm, hsize, ?_, ?_⟩
  · unfold bytes?
    rw [ho, Option.bind_some, Driver.bytes?_of_memoryOf? hm.bound]
  · unfold visible
    rw [ho, Option.bind_some, Driver.mapped?_of_memoryOf? hm.bound]
    cases m.hostVisible <;> rfl

/-- Content belongs to an object that holds it. -/
theorem object_of_bytes? (h : d.Balanced) (hc : d.bytes? a = some content) :
    ∃ o, d.object? a = some o ∧ o.size = content.size ∧
      d.driver.Holds o.buffer o.memory ⟨content, d.visible a⟩ := by
  obtain ⟨o, ho, -⟩ := Option.bind_eq_some_iff.mp hc
  obtain ⟨m, hm, hsize, hbytes, hvisible⟩ := h.bytes?_eq ho
  cases hbytes.symm.trans hc
  exact ⟨o, ho, hsize.symm, hvisible ▸ hm⟩

/-- Where the driver keeps what it had, every object keeps its content. -/
theorem bytes?_kept (h : d.Balanced) (hkeeps : d.driver.Keeps c.driver) (b : ObjectHandle) :
    bytes? { d with queue := c } b = d.bytes? b := by
  show (d.object? b).bind (fun o => c.driver.bytes? o.buffer) = _
  cases hb : d.object? b with
  | none =>
    unfold bytes?
    rw [hb]
    rfl
  | some p =>
    obtain ⟨m, hm, -, hbytes, -⟩ := h.bytes?_eq hb
    rw [hbytes, Option.bind_some, Driver.bytes?_of_memoryOf? (hm.kept hkeeps).bound]

/-- Bytes written to the memory of an object are its content, and that of no other one. -/
theorem bytes?_written (h : d.Balanced) (ho : d.object? a = some o) {bytes : ByteArray}
    (hkeeps : (d.driver.setBytes o.buffer bytes).Keeps c.driver) (b : ObjectHandle) :
    bytes? { d with queue := c } b = if b = a then some bytes else d.bytes? b := by
  show (d.object? b).bind (fun o => c.driver.bytes? o.buffer) = _
  obtain ⟨m, hm, -, -⟩ := h.bytes?_eq ho
  have hwritten {p : BoundBuffer} {t : MemoryRecord} (hp : d.driver.Holds p.buffer p.memory t)
      {t' : MemoryRecord}
      (ht : (d.driver.setBytes o.buffer bytes).memoryOf? p.buffer = some (p.memory, t')) :
      c.driver.bytes? p.buffer = some t'.bytes :=
    Driver.bytes?_of_memoryOf? (Driver.Holds.kept ⟨by simpa using hp.bufferKnown,
      by simpa using hp.memoryKnown, ht⟩ hkeeps).bound
  split
  · rename_i hab
    rw [hab, ho]
    exact hwritten hm (Driver.memoryOf?_setBytes hm.bound bytes)
  · rename_i hab
    cases hb : d.object? b with
    | none =>
      unfold bytes?
      rw [hb]
      rfl
    | some p =>
      obtain ⟨t, ht, -, hbytes, -⟩ := h.bytes?_eq hb
      rw [hbytes]
      exact hwritten ht (Driver.memoryOf?_setBytes_ne ht.bound hm.bound
        (h.memory_ne hb ho (Ne.symm hab)) bytes)

end Balanced

/-- Ranges in bounds are copied from host to host, all of them. -/
theorem copyHost_eq {data : ByteArray} (hfrom : ∀ r ∈ ranges, r.stop ≤ data.size)
    (hto : ∀ r ∈ ranges, r.stop ≤ into.size) :
    copyHost data ranges into = (copyRanges data 0 0 ranges into, none) := by
  induction ranges generalizing into with
  | nil => rfl
  | cons r rest ih =>
    unfold copyHost
    rw [if_pos ⟨hto r List.mem_cons_self, hfrom r List.mem_cons_self⟩,
      ih (fun q hq => hfrom q (List.mem_cons_of_mem r hq)) fun q hq => by
        rw [Bytes.size_splice]
        exact hto q (List.mem_cons_of_mem r hq)]
    unfold copyRanges
    rw [List.foldl_cons]
    simp only [Nat.zero_add, ByteRange.stop]

/-- What a transfer to an object leaves of the views. -/
theorem delivers_of_copied (h : d.Balanced) (ho : d.object? a = some o) (base : Nat)
    {bytes : ByteArray} {ok : Prop} {r : Except Failure Unit} {x : Driver}
    (hcopied : Copied d.driver o.buffer bytes ok r x) (hok : ok) (hkeeps : x.Keeps c.driver) :
    Delivers (.object a base) bytes ⟨ByteArray.empty, r⟩ d.bytes? (bytes? { d with queue := c }) := by
  have hr : r = .ok () := hcopied.2 hok
  rcases hcopied.1 with ⟨-, hno⟩ | rfl
  · exact absurd hr hno
  · refine ⟨hr, rfl, ?_, fun b hb => ?_⟩
    · rw [h.bytes?_written ho hkeeps, if_pos rfl]
    · rw [h.bytes?_written ho hkeeps, if_neg hb]

/-- **A transfer in bounds succeeds where the driver refuses nothing, and copies its ranges**,
    whichever way they go. -/
theorem transfer_delivers {target : TransferTarget} {source : TransferSource} (h : d.Balanced)
    (hwilling : d.driver.Willing) (hsource : source.reads? d.bytes? = some (content, sourceBase))
    (htarget : target.writes? d.bytes? = some (into, targetBase))
    (hfrom : ∀ r ∈ ranges, sourceBase + r.stop ≤ content.size)
    (hto : ∀ r ∈ ranges, targetBase + r.stop ≤ into.size)
    (hroom : d.Staged target source → d.driver.lends (max (totalSize ranges) 1) = true)
    (flags : MapFlags) :
    (transfer target source ranges flags).Ends d fun reply e =>
      Delivers target (copyRanges content sourceBase targetBase ranges into) reply d.bytes?
        e.bytes? := by
  intro j
  unfold transfer VulkanDevice.onQueue transferOn
  simp only [Step.wp_bind, Step.wp_note, Step.wp_get, Step.wp_onPart]
  cases target with
  | host data =>
    cases htarget
    cases source with
    | host data' =>
      cases hsource
      simp only [Nat.zero_add] at hfrom hto
      simp only [copyHost_eq hfrom hto]
      exact ⟨rfl, rfl, fun _ => rfl⟩
    | object b base =>
      obtain ⟨_, hc, hpair⟩ := Option.map_eq_some_iff.mp hsource
      cases hpair
      obtain ⟨o, ho, hsize, hm⟩ := h.object_of_bytes? hc
      simp only [Nat.zero_add] at hto
      have hinside : outside? sourceBase o.size 0 into.size ranges = none :=
        outside?_eq_none_iff.mpr ⟨hsize ▸ hfrom, by simpa using hto⟩
      unfold known
      simp only [Step.wp_bind, Attempt.wp_outcome, Attempt.wp_bind, ho, Attempt.wp_pure]
      refine (fetch_ends hm fun _ => hfrom).wp fun r c k hpost => ?_
      obtain ⟨hkeeps, hread, hok⟩ := hpost
      obtain ⟨read, rfl⟩ := hok hinside fun hv => ⟨hwilling, hroom hv⟩
      obtain ⟨-, rfl⟩ := hread read rfl
      exact ⟨rfl, rfl, h.bytes?_kept hkeeps⟩
  | object a base =>
    obtain ⟨_, hc, hpair⟩ := Option.map_eq_some_iff.mp htarget
    cases hpair
    obtain ⟨o, ho, hsize, hm⟩ := h.object_of_bytes? hc
    cases source with
    | host data' =>
      cases hsource
      simp only [Nat.zero_add] at hfrom
      have hinside : outside? 0 content.size targetBase o.size ranges = none :=
        outside?_eq_none_iff.mpr ⟨by simpa using hfrom, hsize ▸ hto⟩
      unfold known
      simp only [Step.wp_bind, Attempt.wp_outcome, Attempt.wp_bind, ho, Attempt.wp_pure]
      refine (store_ends hm).wp fun r c k hpost => ?_
      obtain ⟨x, hcopied, _, hkeeps⟩ := hpost
      exact delivers_of_copied h ho targetBase hcopied ⟨hinside, fun hv => ⟨hwilling, hroom hv⟩⟩ hkeeps
    | object b base' =>
      obtain ⟨_, hc', hpair⟩ := Option.map_eq_some_iff.mp hsource
      cases hpair
      obtain ⟨p, hp, hsize', hm'⟩ := h.object_of_bytes? hc'
      have hinside : outside? sourceBase p.size targetBase o.size ranges = none :=
        outside?_eq_none_iff.mpr ⟨hsize' ▸ hfrom, hsize ▸ hto⟩
      simp only [Step.wp_bind, Attempt.wp_outcome]
      refine (transferBetween_ends ho hp hm hm' hsize'.symm fun hne => h.memory_ne hp ho hne).wp
        fun r c k hpost => ?_
      obtain ⟨x, hcopied, _, hkeeps⟩ := hpost
      exact delivers_of_copied h ho targetBase hcopied
        ⟨hinside, hwilling, fun hab => ⟨hwilling, hroom hab⟩⟩ hkeeps

end VulkanDevice

/-! ## 4. Both devices -/

/-- In the union of the ranges, counted from the bases, the result is what the source held, and
    elsewhere it is what the target held. -/
structure RangesCopied (ranges : List ByteRange) (sourceBase targetBase : Nat)
    (source target result : ByteArray) : Prop where
  size : result.size = target.size
  bytes : ∀ i, Bytes.byteAt? result i =
    if targetBase ≤ i ∧ CoveredBy ranges (i - targetBase) then
      Bytes.byteAt? source (sourceBase + (i - targetBase))
    else Bytes.byteAt? target i

/-- **Both devices transfer the same bytes.** The objects of both have equal contents, the driver
    refuses no call and lends the memory of the staging buffer, if there is one, and every range
    lies in its source and in its target. Then both transfers succeed and hand back the same, the
    target holds what the source held in the union of the ranges and what it held elsewhere, and all
    contents are equal again. -/
theorem transfers_agree {d : MemoryDevice} {e : VulkanDevice} (hbalanced : e.Balanced)
    (hwilling : e.driver.Willing) (hequal : ∀ h, e.bytes? h = d.bytes? h)
    {target : TransferTarget} {source : TransferSource} {ranges : List ByteRange}
    {content into : ByteArray} {sourceBase targetBase : Nat}
    (hsource : source.reads? d.bytes? = some (content, sourceBase))
    (htarget : target.writes? d.bytes? = some (into, targetBase))
    (hfit : ∀ r ∈ ranges, sourceBase + r.stop ≤ content.size ∧ targetBase + r.stop ≤ into.size)
    (hroom : e.Staged target source → e.driver.lends (max (totalSize ranges) 1) = true)
    (flags : MapFlags) :
    ∃ result, RangesCopied ranges sourceBase targetBase content into result ∧
      (MemoryDevice.transfer target source ranges flags).Ends d fun reply d' =>
        Delivers target result reply d.bytes? d'.bytes? ∧
        (VulkanDevice.transfer target source ranges flags).Ends e fun reply' e' =>
          Delivers target result reply' e.bytes? e'.bytes? ∧
          reply' = reply ∧ ∀ h, e'.bytes? h = d'.bytes? h := by
  have hfrom (r : ByteRange) (hr : r ∈ ranges) := (hfit r hr).1
  have hto (r : ByteRange) (hr : r ∈ ranges) := (hfit r hr).2
  have hviews : e.bytes? = d.bytes? := funext hequal
  refine ⟨copyRanges content sourceBase targetBase ranges into,
    ⟨VulkanDevice.size_copyRanges _ _ _ _ _, VulkanDevice.byteAt?_copyRanges hfrom hto⟩, ?_⟩
  refine (MemoryDevice.transfer_delivers hsource htarget hfrom hto flags).mono
    fun reply d' ⟨hd, _⟩ => ⟨hd, ?_⟩
  refine (VulkanDevice.transfer_delivers hbalanced hwilling (hviews ▸ hsource) (hviews ▸ htarget)
    hfrom hto hroom flags).mono fun reply' e' he => ⟨he, ?_⟩
  rw [hviews] at he
  exact ⟨he.reply_unique hd, he.view_unique hd⟩

/-- The contents of all objects are equal where those in the tables are. -/
theorem bytes?_eq_of_keys {d : MemoryDevice} {e : VulkanDevice}
    (h : ∀ k ∈ d.objects.keys ++ e.objects.keys, e.bytes? ⟨k⟩ = d.bytes? ⟨k⟩) (a : ObjectHandle) :
    e.bytes? a = d.bytes? a := by
  by_cases ha : a.number ∈ d.objects.keys ++ e.objects.keys
  · exact h a.number ha
  · rw [List.mem_append, not_or] at ha
    have hd : d.object? a = none :=
      Option.not_isSome_iff_eq_none.mp fun hsome => ha.1 (Table.isSome_find_iff.mp hsome)
    have he : e.object? a = none :=
      Option.not_isSome_iff_eq_none.mp fun hsome => ha.2 (Table.isSome_find_iff.mp hsome)
    unfold VulkanDevice.bytes? MemoryDevice.bytes?
    rw [hd, he]
    rfl

/-- Two ranges that overlap each other, moved within an object that the host does not reach, onto
    bytes that are still to be read. -/
theorem transfers_agree_overlapping : ∃ (d : MemoryDevice) (e : VulkanDevice) (c : ByteArray),
    c = ⟨#[1, 2, 3, 4, 5, 6]⟩ ∧ e.Balanced ∧ e.driver.Willing ∧ (∀ h, e.bytes? h = d.bytes? h) ∧
    d.bytes? ⟨1⟩ = some c ∧ e.visible ⟨1⟩ = false ∧
    ∃ result, RangesCopied [⟨0, 3⟩, ⟨2, 2⟩] 0 2 c c result ∧
      (MemoryDevice.transfer (.object ⟨1⟩ 2) (.object ⟨1⟩ 0) [⟨0, 3⟩, ⟨2, 2⟩] ∅).Ends d
        fun reply d' => Delivers (.object ⟨1⟩ 2) result reply d.bytes? d'.bytes? ∧
          (VulkanDevice.transfer (.object ⟨1⟩ 2) (.object ⟨1⟩ 0) [⟨0, 3⟩, ⟨2, 2⟩] ∅).Ends e
            fun reply' e' => Delivers (.object ⟨1⟩ 2) result reply' e.bytes? e'.bytes? ∧
              reply' = reply ∧ ∀ h, e'.bytes? h = d'.bytes? h := by
  let request : ObjectRequest := ⟨6, .vertex, ∅, .deviceLocal, false, false⟩
  let filled : Step MemoryDevice Unit := do
    discard (MemoryDevice.makeObject request).outcome
    discard (MemoryDevice.transfer (.object ⟨1⟩ 0) (.host ⟨#[1, 2, 3, 4, 5, 6]⟩) [⟨0, 6⟩] ∅)
  let d := (filled (.new .modern) (.empty .error)).1.2
  let services : List (List (DriverCall × String) × VulkanDevice.Service) :=
    [([], .make request),
      ([], .transfer (.object ⟨1⟩ 0) (.host ⟨#[1, 2, 3, 4, 5, 6]⟩) [⟨0, 6⟩] ∅)]
  let e := (VulkanDevice.serveAll services (.new ⟨.new, 0⟩ .modern) (.empty .error)).1.2
  have hbalanced : e.Balanced :=
    VulkanDevice.serveAll_balanced (.new Driver.books_new .modern) services (.empty .error)
  have hwilling : e.driver.Willing := fun k => by cases k <;> decide +kernel
  have hequal : ∀ h, e.bytes? h = d.bytes? h := bytes?_eq_of_keys (by decide +kernel)
  have hbytes : d.bytes? ⟨1⟩ = some ⟨#[1, 2, 3, 4, 5, 6]⟩ := by decide +kernel
  refine ⟨d, e, _, rfl, hbalanced, hwilling, hequal, hbytes, by decide +kernel, ?_⟩
  have hsource : (TransferSource.object ⟨1⟩ 0).reads? d.bytes? = some (_, 0) :=
    congrArg (Option.map (·, 0)) hbytes
  have htarget : (TransferTarget.object ⟨1⟩ 2).writes? d.bytes? = some (_, 2) :=
    congrArg (Option.map (·, 2)) hbytes
  exact transfers_agree hbalanced hwilling hequal hsource htarget (by decide +kernel)
    (fun _ => by decide +kernel) ∅

end BufferCoherence
