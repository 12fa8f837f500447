import BufferCoherence.Proofs.Benches
import BufferCoherence.Proofs.Calls

/-!
# Copies between buffers

A run of one buffer is copied to another buffer of the same memory device, whatever was done to both
of them before: each may be host only or managed, hold converted vertices, have been renamed, or not
have any bytes yet.

* `Bench.Reached` are the benches that commands lead to, while other things happen to the machine.
  Each of them is sound (`Reached.sound`), since every command keeps a bench so
  (`Command.perform_sound`);
* `Sound.copy_ends` is the copy itself, as two steps on sound benches: one makes the source
  current, the other one fills the target. Each of them is seen by one buffer alone;
* `Bench.copy_exact_and_isolated` is what it comes to: the target is edited or left alone, and
  every other buffer is left alone.
-/

namespace BufferCoherence

/-! ## 1. Operations and creations leave the neighbours alone -/

section Neighbours

open Site

variable {A : ObjectHandle → Prop} {s : Site MemoryDevice} {c : ByteArray}

/-- An operation on a buffer leaves the objects of its neighbours alone, unless the buffer is handed
    one of them for its own. -/
theorem Operation.perform_leaves {op : Operation} (hi : Idle c s) (hop : op.Allowed s)
    (hs : s.Housed) (hA : Apart A s)
    (hforeign : ∀ u offset size, op = .upload u offset size → u.rename = true →
      ¬ A u.placement.handle) : op.perform.Ends s fun _ t => Leaves A s.machine.device t := by
  obtain ⟨ha, hbrings⟩ := hop
  have hspared (h : op.Permitted DeedKind.Tame) :
      op.perform.Ends s fun _ t => Leaves A s.machine.device t :=
    (Attempt.Relates.minds (Operation.perform_deeds h) s).mono fun _ _ hm => hm.leaves hs hA
  cases op with
  | write offset data flags =>
    have hends := (write_minds hi ha offset data flags).mono fun _ _ hm => hm.leaves hs hA
    exact hends.answering _
  | upload u offset size =>
    exact (applyUpload_leaves hs hA (hbrings u offset size rfl).created
      (hforeign u offset size rfl) offset size).answering _
  | store | move => exact hspared ⟨trivial, trivial⟩
  | read | content | refresh | keepShadow | draw | vacate | dropObject => exact hspared trivial

/-- A new buffer leaves the objects that are there alone, also where it fails to be created. -/
theorem Machine.create_leaves (m : Machine MemoryDevice)
    (hA : ∀ a, A a → a.number < m.device.nextHandle) (request : BufferRequest)
    (data : Option ByteArray) (settings : Settings) :
    (create request data settings).Ends m fun r m' => ∃ b, Leaves A m.device ⟨b, m'⟩ ∧
      ∀ b', r = .ok b' → b' = b := by
  have hfresh (request : BufferRequest) (backend : Backend) (objectAllowed : Bool)
      {t : Site MemoryDevice}
      (ht : Minds (m.freshBuffer request backend objectAllowed settings) t) :
      Leaves A m.device t := by
    have hbare : (m.freshBuffer request backend objectAllowed settings).buffer.object = none := rfl
    have hnone (o : BufferObject)
        (ho : (m.freshBuffer request backend objectAllowed settings).buffer.object = some o) :
        False := Option.some_ne_none o (ho.symm.trans hbare)
    exact ht.leaves (fun o ho => (hnone o ho).elim)
      fun a ha => ⟨hA a ha, fun o ho => (hnone o ho).elim⟩
  have hkept : ∃ b, Leaves A m.device ⟨b, m⟩ := by
    have h := hfresh request .noObject false (.refl _)
    exact ⟨_, h.refusesObjects, h.nextHandle, h.bytes, h.apart, h.housed⟩
  refine create_opens (fun f => ?_) fun _ backend objectAllowed _ _ => ?_
  · obtain ⟨b, hb⟩ := hkept
    exact ⟨b, hb, fun _ h => absurd h (f.ne_ok _)⟩
  · refine (openFresh_minds _ data _).mono fun r y hy => ⟨y.buffer, hfresh _ _ _ hy, ?_⟩
    rintro b' hb'
    cases r with
    | error f => cases hb'
    | ok _ => exact (Except.ok.inj hb').symm

end Neighbours

/-! ## 2. A copy -/

namespace Pair

variable {δ α : Type} {p : Pair δ} {j : Journal} {a : Attempt (Site δ) α}
  {Q : Except Failure α → Pair δ → Journal → Prop}

theorem wp_onTarget : (onTarget a).wp p j Q ↔ a.wp ⟨p.target, p.machine⟩ j fun r s k =>
    Q r ⟨s.buffer, p.source, s.machine⟩ k := Iff.rfl

theorem wp_onSource : (onSource a).wp p j Q ↔ a.wp ⟨p.source, p.machine⟩ j fun r s k =>
    Q r ⟨p.target, s.buffer, s.machine⟩ k := Iff.rfl

end Pair

namespace Bench

variable {w v : Bench MemoryDevice} {n m : Nat} {target source : Buffer}

/-- A source that is the object of a neighbour is spared. -/
theorem Sound.source_spared (h : Sound w) (hn : w.buffers[n]? = some target)
    {run : TransferSource} (hrun : ∀ a base, run = .object a base → w.Neighbour n a) (size : Nat)
    {t : Site MemoryDevice} (ht : Site.Spares ⟨target, w.machine⟩ t) :
    t.machine.device.firstRun? run size = w.machine.device.firstRun? run size := by
  cases run with
  | host data => rfl
  | object a base =>
    obtain ⟨hcreated, hother⟩ := h.apart n target hn a (hrun a base rfl)
    unfold MemoryDevice.firstRun?
    simp only [ht.others a hcreated hother]

/-- **The source made current** is seen by no buffer, and the run holds what is read there. -/
theorem Sound.source_ends (h : Sound w) (hm : w.buffers[m]? = some source) {offset size : Nat}
    (hfit : offset + size ≤ source.size) :
    (Site.runSource offset size).Ends ⟨source, w.machine⟩ fun r s =>
      Sound (w.put m s) ∧ (∀ i, Alike w (w.put m s) i) ∧
      ((∃ run d, r = .ok run ∧ w.Reads m d ∧
          s.machine.device.firstRun? run size = some (d.extract offset (offset + size)) ∧
          ∀ n, m ≠ n → ∀ a base, run = .object a base → (w.put m s).Neighbour n a) ∨
        ((∃ f, r = .error f) ∧ ¬ ∃ d, w.Reads m d)) := by
  obtain ⟨d, hd⟩ := h.idle m source hm
  refine ((Site.runSource_ends hd hfit).and (Site.runSource_minds _ _ _)).mono
    fun r s ⟨⟨hi, hsame, hcase⟩, hminds⟩ => ?_
  have hl := hminds.leaves (h.housed m source hm) (h.apart m source hm)
  refine ⟨h.put hm hl hi, fun i => ?_, ?_⟩
  · by_cases him : i = m
    · subst him
      exact .of_put hm hd hi hsame
    · exact h.others_alike hl him
  · rcases hcase with ⟨run, rfl, hreadable, hrun, hobject⟩ | ⟨hf, hno⟩
    · refine .inl ⟨run, d, rfl, (reads_iff hm).mpr (hd.reads_iff.mpr ⟨rfl, hreadable⟩), hrun, ?_⟩
      rintro n hne a base he
      obtain ⟨o, ho, hhandle⟩ := hobject a base he
      exact ⟨m, s.buffer, o, hne, buffers_put_self hm s, ho, hhandle⟩
    · exact .inr ⟨hf, fun hr => hno ((exists_reads_iff hm hd).mp hr)⟩

/-- **The target filled**: it is seen by the target alone. -/
theorem Sound.target_ends (h : Sound w) (hn : w.buffers[n]? = some target) {offset size : Nat}
    (hfit : offset + size ≤ target.size) {run : TransferSource} {bytes : ByteArray}
    (hbytes : w.machine.device.firstRun? run size = some bytes)
    (hrun : ∀ a base, run = .object a base → w.Neighbour n a) :
    (Site.copyRun offset run size).Ends ⟨target, w.machine⟩ fun r t =>
      Sound (w.put n t) ∧ (∀ i, i ≠ n → Alike w (w.put n t) i) ∧
      ((r = .ok () ∧ ∃ c, w.Reads n c ∧ (w.put n t).Reads n (Bytes.splice c offset bytes)) ∨
        ((∃ f, r = .error f) ∧ Alike w (w.put n t) n ∧ ¬ ∃ c, w.Reads n c)) := by
  obtain ⟨c, hc⟩ := h.idle n target hn
  refine ((Site.copyRun_ends hc fun t => h.source_spared hn hrun size).and
    (Site.copyRun_minds _ _ _ _)).mono fun r t ⟨⟨_, hcase⟩, hminds⟩ => ?_
  have hl := hminds.leaves (h.housed n target hn) (h.apart n target hn)
  rcases hcase with ⟨bytes', rfl, -, hbytes', hreadable, hreadable', hi⟩ | ⟨hf, hi, hsame, hno⟩
  · cases hbytes.symm.trans hbytes'
    refine ⟨h.put hn hl hi, fun i => h.others_alike hl, .inl ⟨rfl, c, ?_, ?_⟩⟩
    · exact (reads_iff hn).mpr (hc.reads_iff.mpr ⟨rfl, hreadable⟩)
    · exact (reads_iff (buffers_put_self hn t)).mpr (hi.reads_iff.mpr ⟨rfl, hreadable'⟩)
  · refine ⟨h.put hn hl hi, fun i => h.others_alike hl,
      .inr ⟨hf, .of_put hn hc hi hsame, fun hr => hno ⟨hfit, ?_, ?_⟩⟩⟩
    · rw [show MemoryDevice.firstRun? _ run size = some bytes from hbytes]
      rfl
    · exact (exists_reads_iff hn hc).mp hr

/-- **A copy on a sound bench**: it is refused where a run is not there; and else it edits the
    target, or fails where one of the two contents cannot be read. -/
theorem Sound.copy_ends (h : Sound w) (hn : w.buffers[n]? = some target)
    (hm : w.buffers[m]? = some source) (hne : n ≠ m) (offset sourceOffset size : Nat) :
    (onPair n m target source (Pair.copy offset sourceOffset size)).Ends w fun r v =>
      Sound v ∧ (∀ i, i ≠ n → Alike w v i) ∧
      ((¬ (offset + size ≤ target.size ∧ sourceOffset + size ≤ source.size) ∧ v = w ∧
          ∃ f, r = .error f ∧ f.kind = .invalidArgument) ∨
        (offset + size ≤ target.size ∧ sourceOffset + size ≤ source.size ∧
          ((r = .ok () ∧ ∃ c d, w.Reads n c ∧ w.Reads m d ∧
              v.Reads n (Bytes.splice c offset (d.extract sourceOffset (sourceOffset + size)))) ∨
            ((∃ f, r = .error f) ∧ Alike w v n ∧
              ¬ ((∃ c, w.Reads n c) ∧ ∃ d, w.Reads m d))))) := by
  have hback : (w.put m ⟨source, w.machine⟩).put n ⟨target, w.machine⟩ = w := by
    rw [put_self hm, put_self hn]
  intro j
  unfold onPair Pair.copy
  rw [Attempt.wp_onPart, Attempt.wp_bind, Pair.wp_onTarget, Site.wp_requireRun]
  by_cases hfit : offset + size ≤ target.size
  · rw [if_pos hfit]
    dsimp only
    rw [Attempt.wp_bind, Pair.wp_onSource, Site.wp_requireRun]
    by_cases hsrc : sourceOffset + size ≤ source.size
    · rw [if_pos hsrc]
      dsimp only
      rw [Attempt.wp_bind, Pair.wp_onSource]
      refine (h.source_ends hm hsrc).wp fun r s k ⟨hw, halike, hcase⟩ => ?_
      have hn' : (w.put m s).buffers[n]? = some target := (buffers_put_ne hne w s).trans hn
      rcases hcase with ⟨run, d, rfl, hd, hbytes, hrun⟩ | ⟨⟨f, rfl⟩, hno⟩
      · dsimp only
        rw [Pair.wp_onTarget]
        refine (hw.target_ends hn' hfit hbytes (hrun n hne.symm)).wp
          fun r t k ⟨hv, hothers, hcase⟩ => ?_
        refine ⟨hv, fun i hi => (halike i).trans (hothers i hi), .inr ⟨hfit, hsrc, ?_⟩⟩
        rcases hcase with ⟨rfl, c, hc, hc'⟩ | ⟨hf, hsame, hno⟩
        · exact .inl ⟨rfl, c, d, ((halike n).now c).mp hc, hd, hc'⟩
        · refine .inr ⟨hf, (halike n).trans hsame, fun ⟨⟨c, hc⟩, _⟩ => hno ⟨c, ?_⟩⟩
          exact ((halike n).now c).mpr hc
      · -- the target was not worked on
        have hkept : (w.put m s).put n ⟨target, s.machine⟩ = w.put m s := put_self hn'
        dsimp only
        rw [hkept]
        exact ⟨hw, fun i _ => halike i, .inr ⟨hfit, hsrc, .inr ⟨⟨f, rfl⟩, halike n,
          fun hr => hno hr.2⟩⟩⟩
    · rw [if_neg hsrc]
      dsimp only
      rw [hback]
      exact ⟨h, fun i _ => .refl w i, .inl ⟨fun hr => hsrc hr.2, rfl, _, rfl, rfl⟩⟩
  · rw [if_neg hfit]
    dsimp only
    rw [hback]
    exact ⟨h, fun i _ => .refl w i, .inl ⟨fun hr => hfit hr.1, rfl, _, rfl, rfl⟩⟩

end Bench

/-! ## 3. Runs -/

variable {w v : Bench MemoryDevice}

/-- What the caller of a command sees to: a buffer is not handed the object of another one for its
    own. -/
def Command.Allowed (w : Bench MemoryDevice) : Command → Prop
  | operate n op => ∀ b, w.buffers[n]? = some b → op.Allowed ⟨b, w.machine⟩ ∧
      ∀ u offset size, op = .upload u offset size → u.rename = true →
        ¬ w.Neighbour n u.placement.handle
  | _ => True

/-- Two buffers that are there, and are not the same one. -/
theorem Command.wp_copy {δ : Type} [Device δ] {w : Bench δ} {n m : Nat} {target source : Buffer}
    (hn : w.buffers[n]? = some target) (hm : w.buffers[m]? = some source) (hne : n ≠ m)
    (offset sourceOffset size : Nat) (j : Journal)
    (Q : Except Failure (Option ByteArray) → Bench δ → Journal → Prop) :
    (Command.copy n m offset sourceOffset size).perform.wp w j Q ↔
      (Bench.onPair n m target source (Pair.copy offset sourceOffset size)).wp w j
        fun r v k => Q (r.map fun _ => none) v k := by
  unfold Command.perform
  dsimp only
  rw [Attempt.wp_bind, Attempt.wp_get]
  simp only [hn, hm]
  rw [if_neg hne, Attempt.wp_bind]
  refine iff_of_eq (congrArg _ ?_)
  funext r v k
  cases r <;> rfl

/-- A copy as a command ends as the copy does. -/
theorem Command.copy_run {δ : Type} [Device δ] {w v : Bench δ} {n m offset sourceOffset size : Nat}
    {target source : Buffer} {r : Except Failure (Option ByteArray)} {j k : Journal}
    (hn : w.buffers[n]? = some target) (hm : w.buffers[m]? = some source) (hne : n ≠ m)
    (h : (Command.copy n m offset sourceOffset size).perform.run w j = ((r, v), k)) :
    ∃ r' : Except Failure Unit,
      (Bench.onPair n m target source (Pair.copy offset sourceOffset size)).run w j =
        ((r', v), k) ∧ r'.map (fun _ => none) = r := by
  have hrun := (Attempt.wp_of_run (Q := fun r' v' k' => r' = r ∧ v' = v ∧ k' = k) h).mpr
    ⟨rfl, rfl, rfl⟩
  rw [Command.wp_copy hn hm hne] at hrun
  obtain ⟨hr, hv, hk⟩ := hrun
  exact ⟨_, Prod.ext (Prod.ext rfl hv) hk, hr⟩

/-- **Every command keeps a bench sound**, whether it fails or not. -/
theorem Command.perform_sound (h : w.Sound) {command : Command} (hc : command.Allowed w) :
    command.perform.Ends w fun _ v => v.Sound := by
  intro j
  unfold Command.perform
  cases command with
  | create request data settings =>
    dsimp only
    rw [Attempt.wp_bind, Attempt.wp_onPart]
    have hhoused (a : ObjectHandle) (ha : w.Neighbour w.buffers.length a) :
        a.number < w.machine.device.nextHandle := by
      obtain ⟨n, b, o, -, hb, ho, rfl⟩ := ha
      exact h.housed n b hb o ho
    refine ((Machine.create_ends w.machine request data settings).and
      (w.machine.create_leaves hhoused request data settings)).wp
        fun r m k ⟨hidle, b, hl, hr⟩ => ?_
    cases r with
    | error f =>
      refine h.meanwhile ⟨rfl, hl.nextHandle, fun n b hb => ⟨rfl, fun o ho => ?_⟩⟩
      exact hl.bytes o.handle ⟨n, b, o, Nat.ne_of_lt (List.getElem?_eq_some_iff.mp hb).1, hb, ho,
        rfl⟩
    | ok b' =>
      cases hr b' rfl
      exact h.push hl (hidle b rfl).1
  | operate n op =>
    dsimp only
    rw [Attempt.wp_bind, Attempt.wp_get]
    dsimp only
    cases hb : w.buffers[n]? with
    | none => exact h
    | some b =>
      unfold Bench.onBuffer
      dsimp only
      rw [Attempt.wp_onPart]
      obtain ⟨c, hi⟩ := h.idle n b hb
      obtain ⟨hop, hforeign⟩ := hc b hb
      refine ((Site.perform_ends hi hop).and
        (op.perform_leaves hi hop (h.housed n b hb) (h.apart n b hb) hforeign)).wp
          fun r s k ⟨hcase, hl⟩ => ?_
      rcases hcase with ⟨_, d, _, _, _, hd⟩ | ⟨_, hd⟩
      · exact h.put hb hl hd
      · exact h.put hb hl hd
  | copy n m offset sourceOffset size =>
    dsimp only
    rw [Attempt.wp_bind, Attempt.wp_get]
    dsimp only
    cases hn : w.buffers[n]? with
    | none => exact h
    | some target =>
      cases hm : w.buffers[m]? with
      | none => exact h
      | some source =>
        dsimp only
        split
        · exact h
        · rw [Attempt.wp_bind]
          refine (h.copy_ends hn hm ‹_› offset sourceOffset size).wp fun r v k hv => ?_
          cases r with
          | ok _ => exact hv.1
          | error f => exact hv.1

/-- **A bench as commands leave it**, with other things happening to the machine between them. No
    command reads the journal, which may be any. -/
inductive Bench.Reached : Bench MemoryDevice → Prop where
  | new (d : MemoryDevice) : Reached (.new d)
  | meanwhile {w v : Bench MemoryDevice} (reached : Reached w) (h : w.Meanwhile v) : Reached v
  | performed {w v : Bench MemoryDevice} {command : Command}
      {r : Except Failure (Option ByteArray)} {j k : Journal} (reached : Reached w)
      (allowed : command.Allowed w) (h : command.perform.run w j = ((r, v), k)) : Reached v

namespace Bench

theorem Reached.next (reached : Reached w) (command : Command) (allowed : command.Allowed w)
    (j : Journal) : Reached (command.perform.run w j).1.2 := .performed reached allowed rfl

/-- **A bench is sound wherever commands lead.** -/
theorem Reached.sound (h : Reached w) : Sound w := by
  induction h with
  | new d => exact .new d
  | meanwhile _ hv ih => exact ih.meanwhile hv
  | performed _ allowed hrun ih => exact (Command.perform_sound ih allowed).of_run hrun

variable {n m offset sourceOffset size : Nat} {target source : Buffer}
  {r : Except Failure (Option ByteArray)} {j k : Journal}

/-- **A copy is exact, and isolated.** From one buffer to another of the same device, whatever was
    done to them before: a copy that leaves one of the buffers is refused as an invalid argument,
    and changes nothing at all. One that succeeds has put the bytes that were read from the source
    into those that were read from the target. No other buffer reads differently afterwards, now or
    ever, the source included; nor does the target of a copy that fails. And the copy succeeds where
    both runs are there and both contents can be read. -/
theorem copy_exact_and_isolated (hw : Reached w) (hn : w.buffers[n]? = some target)
    (hm : w.buffers[m]? = some source) (hne : n ≠ m)
    (h : (Command.copy n m offset sourceOffset size).perform.run w j = ((r, v), k)) :
    (¬ (offset + size ≤ target.size ∧ sourceOffset + size ≤ source.size) →
        v = w ∧ ∃ f, r = .error f ∧ f.kind = .invalidArgument) ∧
      (∀ a, r = .ok a → ∃ c d, w.Reads n c ∧ w.Reads m d ∧
        v.Reads n (Bytes.splice c offset (d.extract sourceOffset (sourceOffset + size)))) ∧
      (∀ f, r = .error f → Alike w v n) ∧
      (∀ i, i ≠ n → Alike w v i) ∧
      ((∃ a, r = .ok a) ↔ (offset + size ≤ target.size ∧ sourceOffset + size ≤ source.size) ∧
        (∃ c, w.Reads n c) ∧ ∃ d, w.Reads m d) := by
  obtain ⟨r, hrun, rfl⟩ := Command.copy_run hn hm hne h
  obtain ⟨-, hothers, hcase⟩ :=
    (hw.sound.copy_ends hn hm hne offset sourceOffset size).of_run hrun
  rcases hcase with ⟨hout, hsame, f, rfl, hkind⟩ |
    ⟨hfit, hsrc, ⟨rfl, c, d, hc, hd, hv⟩ | ⟨⟨f, rfl⟩, hsame, hno⟩⟩
  · exact ⟨fun _ => ⟨hsame, f, rfl, hkind⟩, nofun, fun _ _ => hsame ▸ .refl w n, hothers,
      iff_of_false nofun fun hr => hout hr.1⟩
  · exact ⟨fun hout => absurd ⟨hfit, hsrc⟩ hout, fun _ _ => ⟨c, d, hc, hd, hv⟩, nofun, hothers,
      iff_of_true ⟨none, rfl⟩ ⟨⟨hfit, hsrc⟩, ⟨c, hc⟩, d, hd⟩⟩
  · exact ⟨fun hout => absurd ⟨hfit, hsrc⟩ hout, nofun, fun _ _ => hsame, hothers,
      iff_of_false nofun fun hr => hno hr.2⟩

/-- Two bytes of a managed buffer copied into a buffer that nothing was written to. -/
theorem copy_into_zeroes : ∃ w v target source j k, Reached w ∧
    w.buffers[1]? = some target ∧ w.buffers[0]? = some source ∧ (1 : Nat) ≠ 0 ∧
    target.locations = Location.cleared ∧
    (Command.copy 1 0 1 2 2).perform.run w j = ((.ok none, v), k) ∧
    (∃ c d, w.Reads 1 c ∧ w.Reads 0 d ∧ v.Reads 1 (Bytes.splice c 1 (d.extract 2 (2 + 2)))) ∧
    ∀ i, i ≠ 1 → Alike w v i := by
  have h₀ := (Reached.new (.new .legacy)).next
    (.create ⟨4, Usage.managed, BindFlags.vertexBuffer, Access.gpu, 0⟩ (some ⟨#[1, 2, 3, 4]⟩) {})
    trivial (.empty .error)
  have h₁ := h₀.next (.create ⟨4, ∅, BindFlags.vertexBuffer, Access.gpu, 0⟩ none {}) trivial
    (.empty .error)
  obtain ⟨w, hw, ⟨target, ht, hcleared⟩, ⟨source, hs⟩, v, k, hrun⟩ : ∃ w, Reached w ∧
      (∃ target, w.buffers[1]? = some target ∧ target.locations = Location.cleared) ∧
      (∃ source, w.buffers[0]? = some source) ∧
      ∃ v k, (Command.copy 1 0 1 2 2).perform.run w (.empty .error) = ((.ok none, v), k) :=
    ⟨_, h₁, ⟨_, (Option.some_get (by decide +kernel)).symm, by decide +kernel⟩,
      ⟨_, (Option.some_get (by decide +kernel)).symm⟩, _, _,
      Attempt.eq_end_of_ok _ _ _ (by decide +kernel)⟩
  obtain ⟨-, hdone, -, hothers, -⟩ := copy_exact_and_isolated hw ht hs (by decide) hrun
  exact ⟨w, v, target, source, _, k, hw, ht, hs, by decide, hcleared, hrun, hdone none rfl, hothers⟩

end Bench

end BufferCoherence
