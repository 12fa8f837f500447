import BufferCoherence.Proofs.Accord
import BufferCoherence.Proofs.Benches

/-!
# Rehearsals

A program for a Vulkan device, rehearsed on a memory device: the same commands, one after the other,
to the buffers of a bench of each. `Twins` of whole benches is the invariant (`TwinBenches`), and
`outcome_eq_iff` is what a rehearsal is worth: the outcomes are the same up to the first command
that maps an object which the host does not reach. The memory device maps that one too, and the
Vulkan device refuses it.
-/

namespace BufferCoherence

open Vulkan (Driver MemoryLocation)

/-! ## 1. What may be rehearsed -/

/-- An object of a buffer of another number. -/
def Bench.Others {δ : Type} (w : Bench δ) (n : Nat) (a : ObjectHandle) (size : Nat)
    (reached : Bool) : Prop :=
  ∃ m b o, m ≠ n ∧ w.buffers[m]? = some b ∧ b.object = some o ∧ o.handle = a ∧ b.size = size ∧
    b.reached = reached

/-- The operation maps no object that the host does not reach. -/
def Operation.Reaches (b : Buffer) : Operation → Prop
  | write _ _ flags => b.mapsShadow (flags ∪ MapFlags.write) = true ∨ b.reached = true
  | read _ _ => b.mapsShadow MapFlags.read = true ∨ b.reached = true
  | _ => True

namespace Command

/-- The command maps no object that the host does not reach. -/
def Reaches {δ : Type} (w : Bench δ) : Command → Prop
  | operate n operation => ∀ b, w.buffers[n]? = some b → operation.Reaches b
  | _ => True

/-- There is room for all that the buffer may need, and nothing is handed in that was made
    elsewhere. -/
def Ordinary (lends : Nat → Bool) : Command → Prop
  | create request _ settings => Roomy lends request.size (max settings.spanLimit 1)
  | operate _ operation => ∀ u offset size, operation ≠ .upload u offset size
  | copy .. => True

/-- A driver that lends whatever it is asked for has room for what one run of host memory holds. -/
theorem ordinary_create {request : BufferRequest} {data : Option ByteArray} {settings : Settings}
    (h : request.size ≤ Bytes.largestRun) :
    (create request data settings).Ordinary fun _ => true := ⟨h, fun _ _ _ => rfl⟩

end Command

/-! ## 2. Twin benches -/

/-- The same buffers on twin machines, each with an object of its own. -/
structure TwinBenches (lends : Nat → Bool) (w : Bench MemoryDevice) (v : Bench VulkanDevice) :
    Prop where
  buffers : v.buffers = w.buffers
  machines : TwinMachines lends w.machine v.machine
  twin : ∀ n b, w.buffers[n]? = some b →
    Twin (b.footing lends (w.Others n)) ⟨b, w.machine⟩ ⟨b, v.machine⟩

namespace TwinBenches

variable {lends : Nat → Bool} {w w' : Bench MemoryDevice} {v v' : Bench VulkanDevice} {n : Nat}

/-- The object of a buffer is there, on the Vulkan device. -/
theorem has_object (h : TwinBenches lends w v) {a : ObjectHandle} {size : Nat} {reached : Bool}
    (ha : w.Others n a size reached) : v.machine.device.Has a size reached := by
  obtain ⟨m, b, o, -, hb, ho, rfl, rfl, rfl⟩ := ha
  exact ((h.twin m b hb).fitted.object o ho).2.1

/-- One buffer was worked on or is new, and the others stayed as they were. -/
theorem replaced (h : TwinBenches lends w v) {s : Site MemoryDevice} {t : Site VulkanDevice}
    (ht : Twin (s.buffer.footing lends (w.Others n)) s t) (hw : w'.machine = s.machine)
    (hv : v'.machine = t.machine) (hsame : v'.buffers = w'.buffers)
    (hown : w'.buffers[n]? = some s.buffer)
    (hrest : ∀ m, m ≠ n → w'.buffers[m]? = w.buffers[m]?) : TwinBenches lends w' v' := by
  have hothers : w'.Others n = w.Others n := by
    funext a size reached
    refine propext ⟨fun ⟨m, b, o, hm, hb, ho⟩ => ⟨m, b, o, hm, (hrest m hm).symm.trans hb, ho⟩,
      fun ⟨m, b, o, hm, hb, ho⟩ => ⟨m, b, o, hm, (hrest m hm).trans hb, ho⟩⟩
  refine ⟨hsame, by rw [hw, hv]; exact ht.machines, fun m b hb => ?_⟩
  rw [hw, hv]
  by_cases hm : m = n
  · cases hm
    cases hown.symm.trans hb
    rw [hothers]
    exact ht.settled (s.buffer.unmapped_footing _ _)
  · rw [hrest m hm] at hb
    have hold := h.twin m b hb
    refine ⟨rfl, ht.machines, hold.positive, { hold.fitted with object := fun o ho => ?_ },
      fun a size reached ha => ?_⟩
    · refine ⟨(hold.fitted.object o ho).1, ht.others _ _ _ ⟨m, b, o, hm, hb, ho, rfl, rfl, rfl⟩, ?_⟩
      rintro size reached ⟨l, c, p, hl, hc, hp, hhandle, -, -⟩
      by_cases hln : l = n
      · -- the object of the buffer that was worked on is no other buffer's
        cases hln
        cases hown.symm.trans hc
        exact (ht.fitted.object p hp).2.2 _ _ ⟨m, b, o, hm, hb, ho, hhandle.symm, rfl, rfl⟩
      · rw [hrest l hln] at hc
        exact (hold.fitted.object o ho).2.2 _ _ ⟨l, c, p, hl, hc, hp, hhandle, rfl, rfl⟩
    · obtain ⟨l, c, p, hl, hc, hp, rfl, rfl, rfl⟩ := ha
      by_cases hln : l = n
      · cases hln
        cases hown.symm.trans hc
        exact (ht.fitted.object p hp).2.1
      · rw [hrest l hln] at hc
        exact ht.others _ _ _ ⟨l, c, p, hln, hc, hp, rfl, rfl, rfl⟩

/-- One buffer was worked on. -/
theorem put (h : TwinBenches lends w v) {b : Buffer} (hb : w.buffers[n]? = some b)
    {s : Site MemoryDevice} {t : Site VulkanDevice} (ht : Twin (b.footing lends (w.Others n)) s t) :
    TwinBenches lends (w.put n s) (v.put n t) := by
  have hfooting := ht.fitted.footing_eq (b.unmapped_footing _ _)
  have hn : n < w.buffers.length := (List.getElem?_eq_some_iff.mp hb).1
  refine h.replaced (hfooting ▸ ht) rfl rfl ?_ (List.getElem?_set_self hn) fun m hm =>
    List.getElem?_set_ne (Ne.symm hm)
  show v.buffers.set n t.buffer = w.buffers.set n s.buffer
  rw [ht.buffer, h.buffers]

/-- A buffer is new. -/
theorem push (h : TwinBenches lends w v) {b : Buffer} {m : Machine MemoryDevice}
    {k : Machine VulkanDevice}
    (ht : Twin (b.footing lends (w.Others w.buffers.length)) ⟨b, m⟩ ⟨b, k⟩) :
    TwinBenches lends ⟨m, w.buffers ++ [b]⟩ ⟨k, v.buffers ++ [b]⟩ := by
  refine h.replaced (n := w.buffers.length) (s := ⟨b, m⟩) (t := ⟨b, k⟩) ht rfl rfl
    (congrArg (· ++ [b]) h.buffers) ?_ fun m hm => ?_
  · exact List.getElem?_concat_length
  · show (w.buffers ++ [b])[m]? = w.buffers[m]?
    rw [List.getElem?_append]
    split
    · rfl
    · rw [List.getElem?_eq_none (by simp only [List.length_singleton]; omega),
        List.getElem?_eq_none (by omega)]

/-- The machines worked, and every buffer stayed. -/
theorem kept (h : TwinBenches lends w v) {m : Machine MemoryDevice} {k : Machine VulkanDevice}
    (hmachines : TwinMachines lends m k)
    (hothers : ∀ a size reached, w.Others w.buffers.length a size reached →
      k.device.Has a size reached) :
    TwinBenches lends { w with machine := m } { v with machine := k } := by
  refine ⟨h.buffers, hmachines, fun n b hb => ?_⟩
  have hold := h.twin n b hb
  have hhas {l : Nat} {c : Buffer} {o : BufferObject} (hc : w.buffers[l]? = some c)
      (ho : c.object = some o) : k.device.Has o.handle c.size c.reached :=
    hothers _ _ _ ⟨l, c, o, Nat.ne_of_lt (List.getElem?_eq_some_iff.mp hc).1, hc, ho, rfl, rfl, rfl⟩
  refine ⟨rfl, hmachines, hold.positive, { hold.fitted with object := fun o ho =>
    ⟨(hold.fitted.object o ho).1, hhas hb ho, (hold.fitted.object o ho).2.2⟩ }, ?_⟩
  rintro a size reached ⟨l, c, o, -, hc, ho, rfl, rfl, rfl⟩
  exact hhas hc ho

end TwinBenches

/-! ## 3. Commands on twin benches -/

variable {k : Footing} {s : Site MemoryDevice} {t : Site VulkanDevice}

/-- **An operation in lockstep**, which maps no object that the host does not reach. -/
theorem Operation.perform_agrees (h : Twin k s t) (hk : k.Unmapped) {op : Operation}
    (hplain : ∀ u offset size, op ≠ .upload u offset size) (hreaches : op.Reaches s.buffer) :
    op.perform.Agree op.perform s t fun _ => Twin k := by
  cases op with
  | write offset data flags =>
    exact (Site.write_agrees h hk (h.fitted.reached ▸ hreaches) offset data).answering _
  | read offset size =>
    exact (Site.read_agrees h hk (h.fitted.reached ▸ hreaches) offset size).answering _
  | content => exact Attempt.Agree.answering (Site.content_lockstep s t h) _
  | store offset data =>
    exact Attempt.Agree.answering (Site.storeBytes_lockstep offset data s t h) _
  | move offset sourceOffset size =>
    exact Attempt.Agree.answering (Site.moveRun_lockstep offset sourceOffset size s t h) _
  | upload u offset size => exact absurd rfl (hplain u offset size)
  | refresh l => exact Attempt.Agree.answering (Site.refreshCopy_lockstep l s t h) _
  | keepShadow => exact Attempt.Agree.answering (Site.keepShadow_lockstep s t h) _
  | draw d =>
    exact Attempt.Agree.answering
      (Attempt.Lockstep.always (Site.readyForDraw_lockstep d) s t h) fun _ => none
  | vacate =>
    exact Attempt.Agree.answering (Attempt.Lockstep.always Site.vacate_lockstep s t h) fun _ => none
  | dropObject =>
    exact Attempt.Agree.answering (Attempt.Lockstep.always Site.dropObject_lockstep s t h)
      fun _ => none

/-- An operation that maps an object which the host does not reach fails on the Vulkan device. -/
theorem Operation.perform_refused (h : Twin k s t) (hk : k.Unmapped) {op : Operation}
    (hreaches : ¬ op.Reaches s.buffer) : op.perform.Ends t fun r _ => ∃ f, r = .error f := by
  have hmissed {flags : MapFlags}
      (hno : ¬ (s.buffer.mapsShadow flags = true ∨ s.buffer.reached = true)) :
      s.buffer.mapsShadow flags = false ∧ k.reached = false := by
    rw [not_or, Bool.not_eq_true, Bool.not_eq_true, h.fitted.reached] at hno
    exact hno
  intro j
  cases op with
  | write offset data flags =>
    obtain ⟨hshadow, hreached⟩ := hmissed hreaches
    refine (Attempt.wp_bind _ _ _).mpr
      ((Site.write_refused h hk hshadow hreached offset data).wp fun r _ _ hpost => ?_)
    obtain ⟨f, rfl⟩ := hpost
    exact ⟨f, rfl⟩
  | read offset size =>
    obtain ⟨hshadow, hreached⟩ := hmissed hreaches
    refine (Attempt.wp_bind _ _ _).mpr
      ((Site.read_refused h hk hshadow hreached offset size).wp fun r _ _ hpost => ?_)
    obtain ⟨f, rfl⟩ := hpost
    exact ⟨f, rfl⟩
  | _ => exact absurd trivial hreaches

namespace Pair

variable {σ τ α β : Type} {p : Pair σ} {q : Pair τ} {i j : Journal} {a : Attempt (Site σ) α}
  {b : Attempt (Site τ) β}
  {Q : Except Failure α → Except Failure β → Pair σ → Pair τ → Journal → Journal → Prop}

theorem wp₂_onTarget : (onTarget a).wp₂ (onTarget b) p i q j Q ↔
    a.wp₂ b ⟨p.target, p.machine⟩ i ⟨q.target, q.machine⟩ j fun r r' s t i' j' =>
      Q r r' ⟨s.buffer, p.source, s.machine⟩ ⟨t.buffer, q.source, t.machine⟩ i' j' := Iff.rfl

theorem wp₂_onSource : (onSource a).wp₂ (onSource b) p i q j Q ↔
    a.wp₂ b ⟨p.source, p.machine⟩ i ⟨q.source, q.machine⟩ j fun r r' s t i' j' =>
      Q r r' ⟨p.target, s.buffer, s.machine⟩ ⟨q.target, t.buffer, t.machine⟩ i' j' := Iff.rfl

end Pair

namespace TwinBenches

variable {lends : Nat → Bool} {w : Bench MemoryDevice} {v : Bench VulkanDevice} {n m : Nat}
  {target source : Buffer}

/-- **A copy from one buffer to another in lockstep.** -/
theorem copy_agrees (h : TwinBenches lends w v) (hn : w.buffers[n]? = some target)
    (hm : w.buffers[m]? = some source) (hne : n ≠ m) (offset sourceOffset size : Nat) :
    (Bench.onPair n m target source (Pair.copy offset sourceOffset size)).Agree
      (Bench.onPair n m target source (Pair.copy offset sourceOffset size)) w v
      fun _ => TwinBenches lends := by
  have hsource := h.twin m source hm
  -- after the source was worked on, the target stands on another footing
  have hnext {s : Site MemoryDevice} {t : Site VulkanDevice}
      (hs : Twin (source.footing lends (w.Others m)) s t) :
      Twin (target.footing lends ((w.put m s).Others n)) ⟨target, s.machine⟩ ⟨target, t.machine⟩ :=
    (h.put hm hs).twin n target ((List.getElem?_set_ne hne.symm).trans hn)
  have hdone {s s' : Site MemoryDevice} {t t' : Site VulkanDevice}
      (hs : Twin (source.footing lends (w.Others m)) s t)
      (ht : Twin (target.footing lends ((w.put m s).Others n)) s' t') :
      TwinBenches lends ((w.put m s).put n s') ((v.put m t).put n t') :=
    (h.put hm hs).put ((List.getElem?_set_ne hne.symm).trans hn) ht
  intro i j
  unfold Bench.onPair Pair.copy
  rw [Attempt.wp₂_onPart, Attempt.wp₂_bind, Pair.wp₂_onTarget]
  refine (Site.requireRun_agrees (h.twin n target hn) offset size).wp₂ fun r s t i j hpost => ?_
  obtain ⟨⟨rfl, rfl⟩, -⟩ := hpost
  cases r with
  | error f => exact ⟨rfl, hdone hsource (hnext hsource)⟩
  | ok _ =>
    dsimp only
    rw [Attempt.wp₂_bind, Pair.wp₂_onSource]
    refine (Site.requireRun_agrees hsource sourceOffset size).wp₂ fun r s t i j hpost => ?_
    obtain ⟨⟨rfl, rfl⟩, hfit⟩ := hpost
    cases r with
    | error f => exact ⟨rfl, hdone hsource (hnext hsource)⟩
    | ok _ =>
      dsimp only
      rw [Attempt.wp₂_bind, Pair.wp₂_onSource]
      refine (Site.runSource_agrees hsource (hfit rfl)).wp₂ fun r s t i j hpost => ?_
      obtain ⟨hs, hrun⟩ := hpost
      cases r with
      | error f => exact ⟨rfl, hdone hs (hnext hs)⟩
      | ok run =>
        dsimp only
        rw [Pair.wp₂_onTarget]
        have hknown : run.Known (target.footing lends ((w.put m s).Others n)) size := by
          obtain ⟨data, rfl, hdata⟩ | ⟨o, ho, rfl⟩ := hrun run rfl
          · exact hdata
          · have hm' : (w.put m s).buffers[m]? = some s.buffer :=
              List.getElem?_set_self (List.getElem?_eq_some_iff.mp hm).1
            refine ⟨_, _, ⟨m, s.buffer, o, hne.symm, hm', ho, rfl, rfl, rfl⟩, ?_⟩
            rw [hs.fitted.size]
            exact hfit rfl
        refine (Site.copyRun_agrees (hnext hs) offset hknown).wp₂ fun _ s' t' _ _ ht => ?_
        have hends := hdone hs ht
        exact ⟨rfl, hends⟩

end TwinBenches

/-- **A command in lockstep**, which maps no object that the host does not reach. -/
theorem Command.perform_agrees {lends : Nat → Bool} {w : Bench MemoryDevice}
    {v : Bench VulkanDevice} (h : TwinBenches lends w v) {c : Command} (hc : c.Ordinary lends)
    (hreaches : c.Reaches w) : c.perform.Agree c.perform w v fun _ => TwinBenches lends := by
  intro i j
  unfold Command.perform
  cases c with
  | create request data settings =>
    dsimp only
    rw [Attempt.wp₂_bind, Attempt.wp₂_onPart]
    have hothers : ∀ a size reached, w.Others w.buffers.length a size reached →
        v.machine.device.Has a size reached := fun _ _ _ => h.has_object
    refine (Machine.create_agrees h.machines hothers request data settings hc).wp₂
      fun r x y _ _ hpost => ?_
    obtain ⟨⟨hmachines, hothers⟩, hnew⟩ := hpost
    cases r with
    | error f => exact ⟨rfl, h.kept hmachines hothers⟩
    | ok b => exact ⟨rfl, h.push (hnew b rfl)⟩
  | operate n op =>
    dsimp only
    rw [Attempt.wp₂_bind, Attempt.wp₂_get]
    dsimp only
    rw [h.buffers]
    cases hb : w.buffers[n]? with
    | none => exact ⟨rfl, h⟩
    | some b =>
      unfold Bench.onBuffer
      dsimp only
      rw [Attempt.wp₂_onPart]
      exact (op.perform_agrees (h.twin n b hb) (b.unmapped_footing _ _) hc (hreaches b hb)).wp₂
        fun _ _ _ _ _ ht => ⟨rfl, h.put hb ht⟩
  | copy n m offset sourceOffset size =>
    dsimp only
    rw [Attempt.wp₂_bind, Attempt.wp₂_get]
    dsimp only
    rw [h.buffers]
    cases hn : w.buffers[n]? with
    | none => exact ⟨rfl, h⟩
    | some target =>
      cases hm : w.buffers[m]? with
      | none => exact ⟨rfl, h⟩
      | some source =>
        dsimp only
        split
        · exact ⟨rfl, h⟩
        · exact (h.copy_agrees hn hm ‹_› offset sourceOffset size).answering (fun _ => none) i j

/-- A command that maps an object which the host does not reach fails on the Vulkan device. -/
theorem Command.perform_refused {lends : Nat → Bool} {w : Bench MemoryDevice}
    {v : Bench VulkanDevice} (h : TwinBenches lends w v) {c : Command} (hreaches : ¬ c.Reaches w) :
    c.perform.Ends v fun r _ => ∃ f, r = .error f := by
  cases c with
  | operate n op =>
    simp only [Reaches, not_forall] at hreaches
    obtain ⟨b, hb, hno⟩ := hreaches
    intro j
    unfold Command.perform
    simp only [Attempt.wp_bind, Attempt.wp_get, h.buffers, hb]
    unfold Bench.onBuffer
    rw [Attempt.wp_onPart]
    exact op.perform_refused (h.twin n b hb) (b.unmapped_footing _ _) hno j
  | _ => exact absurd trivial hreaches

/-! ## 4. Rehearsals -/

/-- The same commands on a memory device and on a Vulkan device, neither of which has objects yet.
    There is room for every command, and none maps an object that the host does not reach. -/
inductive Rehearsal (queue : VulkanQueue) (caps : Capabilities) :
    Bench MemoryDevice → Bench VulkanDevice → Prop where
  | start : Rehearsal queue caps (.new (.new caps)) (.new (.new queue caps))
  | next {w w' : Bench MemoryDevice} {v v' : Bench VulkanDevice} {c : Command}
      {r r' : Except Failure (Option ByteArray)} {i i' j j' : Journal}
      (rehearsal : Rehearsal queue caps w v) (ordinary : c.Ordinary queue.driver.lends)
      (reaches : c.Reaches w)
      (hw : c.perform.run w i = ((r, w'), i')) (hv : c.perform.run v j = ((r', v'), j')) :
      Rehearsal queue caps w' v'

namespace Rehearsal

variable {queue : VulkanQueue} {caps : Capabilities} {w : Bench MemoryDevice}
  {v : Bench VulkanDevice} {lends : Nat → Bool} {present : Bool} {family : Nat} {i : Journal}

/-- One more command, with whatever journals. -/
theorem andThen (h : Rehearsal queue caps w v) (c : Command)
    (ordinary : c.Ordinary queue.driver.lends) (reaches : c.Reaches w) (j k : Journal) :
    Rehearsal queue caps (c.perform.run w j).1.2 (c.perform.run v k).1.2 :=
  .next h ordinary reaches rfl rfl

/-- A queue on a driver that refuses no call, and lends what it is made to lend. -/
theorem manner_start
    (hstart :
      ((VulkanQueue.start present family).run { Driver.new with lends } i).1.1 = .ok queue) :
    queue.driver.Willing ∧ queue.driver.lends = lends := by
  rw [VulkanQueue.start_ends _ present family i queue hstart]
  exact ⟨fun _ => rfl, rfl⟩

/-- **The benches of a rehearsal are twins.** -/
theorem twin
    (hstart : ((VulkanQueue.start present family).run { Driver.new with lends } i).1.1 = .ok queue)
    (hmodern : caps.backend = .modern) (h : Rehearsal queue caps w v) :
    TwinBenches queue.driver.lends w v := by
  induction h with
  | start =>
    have hbooks := VulkanDevice.books_start present family [] lends i queue hstart
    exact ⟨rfl, ⟨rfl, rfl, .new hbooks (manner_start hstart).1 hmodern⟩, fun _ _ hb => nomatch hb⟩
  | next _ ordinary reaches hw hv ih =>
    exact ((Command.perform_agrees ih ordinary reaches).of_run hw hv).2

/-- **What a rehearsal is worth**, on a driver that refuses no call, whatever memory it lends. A
    command that maps no object which the host does not reach has the same outcome on both devices;
    any other one fails on the Vulkan device, and so they agree where it fails on the memory device
    too. -/
theorem outcome_eq_iff
    (hstart : ((VulkanQueue.start present family).run { Driver.new with lends } i).1.1 = .ok queue)
    (hmodern : caps.backend = .modern) (h : Rehearsal queue caps w v) {c : Command}
    (hc : c.Ordinary lends) (j k : Journal) :
    (c.Reaches w → (c.perform.run v k).1.1 = (c.perform.run w j).1.1) ∧
      ((c.perform.run v k).1.1.toOption = (c.perform.run w j).1.1.toOption ↔
        c.Reaches w ∨ (c.perform.run w j).1.1.toOption = none) := by
  have htwin : TwinBenches lends w v := (manner_start hstart).2 ▸ h.twin hstart hmodern
  have hsame (hreaches : c.Reaches w) : (c.perform.run v k).1.1 = (c.perform.run w j).1.1 :=
    ((Command.perform_agrees htwin hc hreaches) j k).1
  refine ⟨hsame, fun heq => ?_, ?_⟩
  · by_cases hreaches : c.Reaches w
    · exact .inl hreaches
    · obtain ⟨f, hf⟩ := Command.perform_refused htwin hreaches k
      rw [← heq, hf]
      exact .inr rfl
  · rintro (hreaches | hnone)
    · rw [hsame hreaches]
    · by_cases hreaches : c.Reaches w
      · rw [hsame hreaches]
      · obtain ⟨f, hf⟩ := Command.perform_refused htwin hreaches k
        rw [hnone, hf]
        rfl

/-- A buffer that the host does not reach, with its first content. -/
def opening : Command :=
  .create ⟨4, ∅, BindFlags.vertexBuffer, Access.gpu, 0⟩ (some ⟨#[1, 2, 3, 4]⟩) {}

/-- A driver that lends whatever it is asked for. -/
def generous : Driver := { Driver.new with lends := fun _ => true }

/-- A buffer is written through its shadow and copied to another one, which is read back. -/
theorem outcome_eq_iff_copied : ∃ queue w v,
    ((VulkanQueue.start true 0).run generous (.empty .error)).1.1 = .ok queue ∧
    Capabilities.modern.backend = .modern ∧ Rehearsal queue .modern w v ∧
    (Command.operate 1 .content).Ordinary (fun _ => true) ∧
    ((Command.operate 1 .content).perform.run w (.empty .error)).1.1.toOption =
      some (some ⟨#[9, 8, 3, 4]⟩) ∧
    (((Command.operate 1 .content).Reaches w →
      ((Command.operate 1 .content).perform.run v (.empty .error)).1.1 =
        ((Command.operate 1 .content).perform.run w (.empty .error)).1.1) ∧
    (((Command.operate 1 .content).perform.run v (.empty .error)).1.1.toOption =
        ((Command.operate 1 .content).perform.run w (.empty .error)).1.1.toOption ↔
      (Command.operate 1 .content).Reaches w ∨
        ((Command.operate 1 .content).perform.run w (.empty .error)).1.1.toOption = none)) := by
  let queue : VulkanQueue := ⟨(generous.createCommandPool 0).2.firstQueue 0, 0⟩
  have hstart : ((VulkanQueue.start true 0).run generous (.empty .error)).1.1 = .ok queue := rfl
  have hopening : opening.Ordinary queue.driver.lends := Command.ordinary_create (by decide)
  have h₀ : Rehearsal queue .modern _ _ :=
    Rehearsal.start.andThen opening hopening trivial (.empty .error) (.empty .error)
  have h₁ := h₀.andThen opening hopening trivial (.empty .error) (.empty .error)
  -- without a promise not to overwrite, a write goes through the shadow
  have h₂ := h₁.andThen (.operate 0 (.write 0 ⟨#[9, 8]⟩ ∅)) nofun (fun _ _ => .inl rfl)
    (.empty .error) (.empty .error)
  have h₃ := h₂.andThen (.copy 1 0 0 0 4) trivial trivial (.empty .error) (.empty .error)
  have hordinary : (Command.operate 1 .content).Ordinary (fun _ => true) := fun _ _ _ h => nomatch h
  exact ⟨queue, _, _, hstart, rfl, h₃, hordinary, by decide +kernel,
    outcome_eq_iff hstart rfl h₃ hordinary (.empty .error) (.empty .error)⟩

/-- **A read that the Vulkan device refuses**, of a buffer that was just created. -/
theorem read_differs : ∃ queue w v,
    ((VulkanQueue.start true 0).run generous (.empty .error)).1.1 = .ok queue ∧
    Rehearsal queue .modern w v ∧ (Command.operate 0 (.read 0 4)).Ordinary (fun _ => true) ∧
    ((Command.operate 0 (.read 0 4)).perform.run w (.empty .error)).1.1.toOption =
      some (some ⟨#[1, 2, 3, 4]⟩) ∧
    ((Command.operate 0 (.read 0 4)).perform.run v (.empty .error)).1.1.toOption = none := by
  let queue : VulkanQueue := ⟨(generous.createCommandPool 0).2.firstQueue 0, 0⟩
  have hstart : ((VulkanQueue.start true 0).run generous (.empty .error)).1.1 = .ok queue := rfl
  have hopening : opening.Ordinary queue.driver.lends := Command.ordinary_create (by decide)
  have h : Rehearsal queue .modern _ _ :=
    Rehearsal.start.andThen opening hopening trivial (.empty .error) (.empty .error)
  exact ⟨queue, _, _, hstart, h, nofun, by decide +kernel, by decide +kernel⟩

end Rehearsal

end BufferCoherence
