import BufferCoherence.Proofs.History
import BufferCoherence.Proofs.Neighbours

/-!
# Benches

Several buffers on one machine, and the commands that are given to them: a buffer is created, worked
on, or copied to from another one.

* `Bench.Reads` and `Bench.Shows` say what is read back from one of the buffers, now or ever, and
  `Bench.Alike` that it is the same on two benches;
* `Bench.Sound` is the invariant of benches on a memory device: every buffer is idle with some
  content, and its object, if it has one, is no other buffer's. A step on one buffer that leaves the
  objects of the others alone keeps the bench sound (`Sound.put`), and what is read back from the
  others (`Sound.others_alike`).
-/

namespace BufferCoherence

/-! ## 1. Benches and commands -/

/-- A machine with its buffers, the first one first. -/
structure Bench (δ : Type) where
  machine : Machine δ
  buffers : List Buffer

namespace Bench

variable {δ α : Type}

/-- No buffers yet. -/
def new (device : δ) : Bench δ := ⟨.new device, []⟩

/-- The buffer of a number as it is now, with the machine. -/
def put (w : Bench δ) (n : Nat) (s : Site δ) : Bench δ := ⟨s.machine, w.buffers.set n s.buffer⟩

theorem put_self {w : Bench δ} {n : Nat} {b : Buffer} (hb : w.buffers[n]? = some b) :
    w.put n ⟨b, w.machine⟩ = w := by
  obtain ⟨hn, rfl⟩ := List.getElem?_eq_some_iff.mp hb
  unfold put
  rw [List.set_getElem_self]

theorem buffers_put_self {w : Bench δ} {n : Nat} {b : Buffer} (hb : w.buffers[n]? = some b)
    (s : Site δ) : (w.put n s).buffers[n]? = some s.buffer :=
  List.getElem?_set_self (List.getElem?_eq_some_iff.mp hb).1

theorem buffers_put_ne {n m : Nat} (hne : m ≠ n) (w : Bench δ) (s : Site δ) :
    (w.put n s).buffers[m]? = w.buffers[m]? := List.getElem?_set_ne (Ne.symm hne)

/-- An attempt on the buffer of a number. -/
def onBuffer (n : Nat) (b : Buffer) (a : Attempt (Site δ) α) : Attempt (Bench δ) α :=
  a.onPart (fun w => ⟨b, w.machine⟩) fun s w => w.put n s

/-- An attempt on two buffers. -/
def onPair (n m : Nat) (target source : Buffer) (a : Attempt (Pair δ) α) : Attempt (Bench δ) α :=
  a.onPart (fun w => ⟨target, source, w.machine⟩)
    fun p w => (w.put m ⟨p.source, p.machine⟩).put n ⟨p.target, p.machine⟩

end Bench

/-- A command to a bench. A buffer that is not there does nothing, and a buffer is not copied from
    itself as if it were another one. -/
inductive Command where
  | create (request : BufferRequest) (data : Option ByteArray) (settings : Settings)
  | operate (n : Nat) (operation : Operation)
  | copy (n m offset sourceOffset size : Nat)

namespace Command

/-- The command carried out; the answer is the bytes that were asked for, if any were. -/
def perform {δ : Type} [Device δ] : Command → Attempt (Bench δ) (Option ByteArray)
  | create request data settings => do
    let b ← Attempt.onPart Bench.machine (fun machine w => { w with machine })
      (Machine.create request data settings)
    modify fun w => { w with buffers := w.buffers ++ [b] }
    pure none
  | operate n operation => do
    match (← get).buffers[n]? with
    | none => pure none
    | some b => Bench.onBuffer n b operation.perform
  | copy n m offset sourceOffset size => do
    let w ← get
    match w.buffers[n]?, w.buffers[m]? with
    | some target, some source =>
      if n = m then pure none
      else do
        Bench.onPair n m target source (Pair.copy offset sourceOffset size)
        pure none
    | _, _ => pure none

end Command

/-! ## 2. What is read back -/

namespace Site

variable {s t : Site MemoryDevice} {c d : ByteArray}

/-- The content that is read back, if not now, then once other things have happened to the
    machine. -/
def Shows (c : ByteArray) (s : Site MemoryDevice) : Prop := ∃ t, Meanwhile s t ∧ Reads c t

/-- An idle buffer shows its content where the host has room for it. -/
theorem Idle.shows_iff (h : Idle c s) : Shows d s ↔ d = c ∧
    (s.buffer.locations.has Location.cleared = true → s.buffer.size ≤ Bytes.largestRun) := by
  constructor
  · rintro ⟨t, hst, hd⟩
    obtain ⟨hdc, ht⟩ := (hst.idle h).reads_iff.mp hd
    unfold Readable at ht
    rw [hst.buffer] at ht
    exact ⟨hdc, fun hc => (ht hc).1⟩
  · rintro ⟨rfl, hroom⟩
    -- a time at which the device grants objects
    let t : Site MemoryDevice := { s with machine.device.refusesObjects := false }
    have hst : Meanwhile s t := ⟨rfl, fun _ _ => rfl⟩
    exact ⟨t, hst, (hst.idle h).reads_iff.mpr ⟨rfl, fun hc => ⟨hroom hc, fun _ => rfl⟩⟩⟩

theorem SameReading.shows (h : SameReading s t) (hs : Idle c s) (ht : Idle c t) :
    Shows d t ↔ Shows d s := by
  rw [hs.shows_iff, ht.shows_iff, h.cleared, h.size]

end Site

namespace Bench

variable {w v u : Bench MemoryDevice} {n i : Nat} {s : Site MemoryDevice} {b : Buffer}
  {c : ByteArray}

/-- The content that is read back from the buffer of a number. -/
def Reads (w : Bench MemoryDevice) (n : Nat) (c : ByteArray) : Prop :=
  ∃ b, w.buffers[n]? = some b ∧ Site.Reads c ⟨b, w.machine⟩

/-- The content that is read back from the buffer of a number, now or later. -/
def Shows (w : Bench MemoryDevice) (n : Nat) (c : ByteArray) : Prop :=
  ∃ b, w.buffers[n]? = some b ∧ Site.Shows c ⟨b, w.machine⟩

/-- **The buffer of a number reads the same on both benches**, now and ever. -/
structure Alike (w v : Bench MemoryDevice) (n : Nat) : Prop where
  now : ∀ c, v.Reads n c ↔ w.Reads n c
  ever : ∀ c, v.Shows n c ↔ w.Shows n c

theorem Alike.refl (w : Bench MemoryDevice) (n : Nat) : Alike w w n :=
  ⟨fun _ => .rfl, fun _ => .rfl⟩

theorem Alike.trans (h : Alike w v n) (h' : Alike v u n) : Alike w u n :=
  ⟨fun c => (h'.now c).trans (h.now c), fun c => (h'.ever c).trans (h.ever c)⟩

theorem reads_iff (hb : w.buffers[n]? = some b) : w.Reads n c ↔ Site.Reads c ⟨b, w.machine⟩ := by
  refine ⟨fun ⟨b', hb', hc⟩ => ?_, fun hc => ⟨b, hb, hc⟩⟩
  cases hb.symm.trans hb'
  exact hc

theorem shows_iff (hb : w.buffers[n]? = some b) : w.Shows n c ↔ Site.Shows c ⟨b, w.machine⟩ := by
  refine ⟨fun ⟨b', hb', hc⟩ => ?_, fun hc => ⟨b, hb, hc⟩⟩
  cases hb.symm.trans hb'
  exact hc

/-- Something is read back from an idle buffer where its content is readable. -/
theorem exists_reads_iff (hb : w.buffers[n]? = some b) (hi : Site.Idle c ⟨b, w.machine⟩) :
    (∃ d, w.Reads n d) ↔ Site.Readable ⟨b, w.machine⟩ := by
  simp only [reads_iff hb, hi.reads_iff, exists_eq_left]

/-- An idle buffer that is as readable as before. -/
theorem Alike.of_reading {b' : Buffer} (hb : w.buffers[n]? = some b)
    (hb' : v.buffers[n]? = some b') (hi : Site.Idle c ⟨b, w.machine⟩)
    (hi' : Site.Idle c ⟨b', v.machine⟩)
    (h : Site.SameReading ⟨b, w.machine⟩ ⟨b', v.machine⟩) : Alike w v n where
  now d := by rw [reads_iff hb, reads_iff hb', h.reads hi hi']
  ever d := by rw [shows_iff hb, shows_iff hb', h.shows hi hi']

/-- The same buffer, worked on. -/
theorem Alike.of_put (hb : w.buffers[n]? = some b) (hi : Site.Idle c ⟨b, w.machine⟩)
    (hi' : Site.Idle c s) (h : Site.SameReading ⟨b, w.machine⟩ s) : Alike w (w.put n s) n :=
  .of_reading hb (buffers_put_self hb s) hi hi' h

theorem Alike.of_missing (hw : w.buffers[n]? = none) (hv : v.buffers[n]? = none) : Alike w v n where
  now _ := iff_of_false (fun ⟨_, hb, _⟩ => nomatch hv.symm.trans hb)
    fun ⟨_, hb, _⟩ => nomatch hw.symm.trans hb
  ever _ := iff_of_false (fun ⟨_, hb, _⟩ => nomatch hv.symm.trans hb)
    fun ⟨_, hb, _⟩ => nomatch hw.symm.trans hb

/-! ## 3. The invariant -/

/-- An object of a buffer of another number. -/
def Neighbour (w : Bench MemoryDevice) (n : Nat) (a : ObjectHandle) : Prop :=
  ∃ m b o, m ≠ n ∧ w.buffers[m]? = some b ∧ b.object = some o ∧ o.handle = a

/-- **Every buffer is idle, and has an object of its own**, if it has one. -/
structure Sound (w : Bench MemoryDevice) : Prop where
  idle : ∀ (n : Nat) (b : Buffer), w.buffers[n]? = some b → ∃ c, Site.Idle c ⟨b, w.machine⟩
  housed : ∀ (n : Nat) (b : Buffer), w.buffers[n]? = some b → Site.Housed ⟨b, w.machine⟩
  apart : ∀ (n : Nat) (b : Buffer), w.buffers[n]? = some b →
    Site.Apart (w.Neighbour n) ⟨b, w.machine⟩

/-- A bench without buffers. -/
theorem Sound.new (d : MemoryDevice) : Sound (.new d) := by
  have hnone (n : Nat) (b : Buffer) : ([] : List Buffer)[n]? ≠ some b := by
    rw [List.getElem?_nil]
    exact nofun
  exact ⟨fun n b hb => absurd hb (hnone n b), fun n b hb => absurd hb (hnone n b),
    fun n b hb => absurd hb (hnone n b)⟩

/-- Between two commands: whatever happens to the machine, the objects of the buffers keep their
    content, and no handle is given a second time. -/
structure Meanwhile (w v : Bench MemoryDevice) : Prop where
  buffers : v.buffers = w.buffers
  nextHandle : w.machine.device.nextHandle ≤ v.machine.device.nextHandle
  own : ∀ (n : Nat) (b : Buffer), w.buffers[n]? = some b →
    Site.Meanwhile ⟨b, w.machine⟩ ⟨b, v.machine⟩

theorem Sound.meanwhile (h : Sound w) (hv : Meanwhile w v) : Sound v := by
  have hneighbour (n : Nat) : v.Neighbour n = w.Neighbour n := by
    unfold Neighbour
    rw [hv.buffers]
  refine ⟨fun n b hb => ?_, fun n b hb o ho => ?_, fun n b hb a ha => ?_⟩
  all_goals rw [hv.buffers] at hb
  · obtain ⟨c, hc⟩ := h.idle n b hb
    exact ⟨c, (hv.own n b hb).idle hc⟩
  · exact Nat.lt_of_lt_of_le (h.housed n b hb o ho) hv.nextHandle
  · rw [hneighbour] at ha
    obtain ⟨hlt, hne⟩ := h.apart n b hb a ha
    exact ⟨Nat.lt_of_lt_of_le hlt hv.nextHandle, hne⟩

namespace Sound

/-- A neighbour of a buffer that was worked on is idle as it was. -/
theorem neighbour_idle (hl : Site.Leaves (w.Neighbour n) w.machine.device s) (hi : i ≠ n)
    (hb : w.buffers[i]? = some b) (hc : Site.Idle c ⟨b, w.machine⟩) :
    Site.Idle c ⟨b, s.machine⟩ ∧ Site.SameReading ⟨b, w.machine⟩ ⟨b, s.machine⟩ := by
  have hmean : Site.Meanwhile ⟨b, w.machine⟩ ⟨b, s.machine⟩ :=
    ⟨rfl, fun o ho => hl.bytes o.handle ⟨i, b, o, hi, hb, ho, rfl⟩⟩
  exact ⟨hmean.idle hc, .of_copies hmean.copies hl.refusesObjects⟩

/-- One buffer was worked on or is new, and left the objects of the others alone. -/
theorem replaced (h : Sound w) {buffers : List Buffer}
    (hl : Site.Leaves (w.Neighbour n) w.machine.device s) (hi : Site.Idle c s)
    (hown : buffers[n]? = some s.buffer) (hrest : ∀ m, m ≠ n → buffers[m]? = w.buffers[m]?) :
    Sound ⟨s.machine, buffers⟩ := by
  refine ⟨fun m b hb => ?_, fun m b hb => ?_, fun m b hb a => ?_⟩
  · by_cases hm : m = n
    · subst hm
      cases hown.symm.trans hb
      exact ⟨c, hi⟩
    · have hold := (hrest m hm).symm.trans hb
      obtain ⟨d, hd⟩ := h.idle m b hold
      exact ⟨d, (neighbour_idle hl hm hold hd).1⟩
  · by_cases hm : m = n
    · subst hm
      cases hown.symm.trans hb
      exact hl.housed
    · exact fun o ho => Nat.lt_of_lt_of_le (h.housed m b ((hrest m hm).symm.trans hb) o ho)
        hl.nextHandle
  · rintro ⟨l, c, o, hlm, hc, ho, rfl⟩
    by_cases hln : l = n
    · -- the object of the buffer that was worked on is no neighbour's
      subst hln
      cases hown.symm.trans hc
      have hold := (hrest m (Ne.symm hlm)).symm.trans hb
      refine ⟨hl.housed o ho, fun p hp he => ?_⟩
      exact (hl.apart p.handle ⟨m, b, p, Ne.symm hlm, hold, hp, rfl⟩).2 o ho he.symm
    · have hc' := (hrest l hln).symm.trans hc
      by_cases hm : m = n
      · subst hm
        cases hown.symm.trans hb
        exact hl.apart o.handle ⟨l, c, o, hln, hc', ho, rfl⟩
      · have hold := h.apart m b ((hrest m hm).symm.trans hb) o.handle ⟨l, c, o, hlm, hc', ho, rfl⟩
        exact ⟨Nat.lt_of_lt_of_le hold.1 hl.nextHandle, hold.2⟩

/-- One buffer was worked on. -/
theorem put (h : Sound w) (hb : w.buffers[n]? = some b)
    (hl : Site.Leaves (w.Neighbour n) w.machine.device s) (hi : Site.Idle c s) :
    Sound (w.put n s) :=
  h.replaced hl hi (buffers_put_self hb s) fun _ hm => buffers_put_ne hm w s

/-- A buffer is new. -/
theorem push (h : Sound w) (hl : Site.Leaves (w.Neighbour w.buffers.length) w.machine.device s)
    (hi : Site.Idle c s) : Sound ⟨s.machine, w.buffers ++ [s.buffer]⟩ := by
  refine h.replaced hl hi List.getElem?_concat_length fun m hm => ?_
  rw [List.getElem?_append]
  split
  · rfl
  · rw [List.getElem?_eq_none (by simp only [List.length_singleton]; omega),
      List.getElem?_eq_none (by omega)]

/-- **The others read the same** after a step on one buffer that left their objects alone. -/
theorem others_alike (h : Sound w) (hl : Site.Leaves (w.Neighbour n) w.machine.device s)
    (hi : i ≠ n) : Alike w (w.put n s) i := by
  have hsame := buffers_put_ne hi w s
  cases hb : w.buffers[i]? with
  | none => exact .of_missing hb (hsame.trans hb)
  | some b =>
    obtain ⟨c, hc⟩ := h.idle i b hb
    obtain ⟨hc', hreading⟩ := neighbour_idle hl hi hb hc
    exact .of_reading hb (hsame.trans hb) hc hc' hreading

end Sound

end Bench

end BufferCoherence
