import BufferCoherence.Proofs.Custody
import BufferCoherence.Proofs.Rings

/-!
# Fleets

All that lives on one memory device: buffers, rings, and the objects that bring new content until a
buffer takes them over. Whatever happens to a fleet, its objects are accounted for
(`Fleet.Reached.balanced`): each is held by one buffer, one ring or the client alone, none is left
behind where a creation fails or a buffer ends, and none is given back twice.
-/

namespace BufferCoherence

/-- The object of the buffer of a ring. -/
def Ring.handles (r : Ring) : List ObjectHandle := (r.buffer.map (·.handles)).getD []

namespace RingSite

variable {α : Type} {s t : RingSite MemoryDevice} {others : List ObjectHandle}

/-! ## 1. Rings -/

/-- The objects of the device are that of the ring and those of the others. -/
structure Custody (others : List ObjectHandle) (s : RingSite MemoryDevice) : Prop where
  accounts : s.machine.device.Accounts (s.ring.handles ++ others)
  equipped : ∀ b, s.ring.buffer = some b → b.backend.kind ≠ .noObject
  capable : s.machine.device.caps.backend ≠ .noObject

/-- The custody of a ring is that of its buffer. -/
theorem custody_some {b : Buffer} (hb : s.ring.buffer = some b) :
    Custody others s ↔ Site.Custody others ⟨b, s.machine⟩ := by
  have hhandles : s.ring.handles = b.handles := by
    unfold Ring.handles
    rw [hb]
    rfl
  constructor
  · rintro ⟨haccounts, hequipped, hcapable⟩
    rw [hhandles] at haccounts
    exact ⟨haccounts, hequipped b hb, hcapable⟩
  · rintro ⟨haccounts, hequipped, hcapable⟩
    refine ⟨by rw [hhandles]; exact haccounts, fun b' hb' => ?_, hcapable⟩
    cases hb.symm.trans hb'
    exact hequipped

theorem custody_none (hb : s.ring.buffer = none) : Custody others s ↔
    s.machine.device.Accounts others ∧ s.machine.device.caps.backend ≠ .noObject := by
  have hhandles : s.ring.handles = [] := by
    unfold Ring.handles
    rw [hb]
    rfl
  constructor
  · rintro ⟨haccounts, -, hcapable⟩
    rw [hhandles] at haccounts
    exact ⟨haccounts, hcapable⟩
  · rintro ⟨haccounts, hcapable⟩
    refine ⟨by rw [hhandles]; exact haccounts, fun b hb' => ?_, hcapable⟩
    cases hb.symm.trans hb'

/-- What the buffer of a ring keeps, the ring keeps. -/
theorem onBuffer_custody {p : Step (Site MemoryDevice) α} (consumed : List ObjectHandle)
    (hs : Custody (consumed ++ others) s) (hnone : s.ring.buffer = none → consumed = [])
    (hp : ∀ b, s.ring.buffer = some b → Site.Custody (consumed ++ others) ⟨b, s.machine⟩ →
      p.Ends ⟨b, s.machine⟩ fun _ t => Site.Custody others t) :
    (onBuffer p).Ends s fun _ t => Custody others t := by
  intro j
  rw [wp_onBuffer]
  split
  · rename_i hb
    rw [hnone hb] at hs
    exact hs
  · rename_i b hb
    exact (hp b hb ((custody_some hb).mp hs)).wp fun _ t _ ht => (custody_some rfl).mpr ht

/-- A step on the buffer of a ring that takes over nothing. -/
theorem onBuffer_within {p : Step (Site MemoryDevice) α} (hp : p.Within MoveKind.mapping)
    (hs : Custody others s) : (onBuffer p).Ends s fun _ t => Custody others t :=
  onBuffer_custody [] hs (fun _ => rfl) fun _ _ hb =>
    (hp _).mono fun _ _ ht => Site.mapping_custody ht hb

/-- Without its buffer a ring holds nothing. -/
theorem destroyBuffer_returns (hs : Custody others s) : destroyBuffer.Ends s fun _ t =>
    t.machine.device.Accounts others ∧ t.machine.device.caps.backend ≠ .noObject ∧
      t.ring.buffer = none := by
  intro j
  unfold destroyBuffer
  simp only [Step.wp_bind, wp_discard, wp_onBuffer, wp_change]
  split
  · rename_i hb
    obtain ⟨haccounts, hcapable⟩ := (custody_none hb).mp hs
    exact ⟨haccounts, hcapable, trivial⟩
  · rename_i b hb
    exact (Site.destroy_returns ((custody_some hb).mp hs)).wp fun _ t _ ht =>
      ⟨ht.1, ht.2, trivial⟩

/-- A ring that grows gives its old buffer back, and one that cannot grow keeps it. -/
theorem enlarge_custody (hs : Custody others s) (size : Nat) :
    (enlarge size).Ends s fun _ t => Custody others t := by
  intro j
  unfold enlarge
  simp only [Attempt.wp_bind, Attempt.wp_always, wp_current, Attempt.wp_note, wp_onMachine,
    wp_change]
  refine (Machine.create_custody hs.accounts hs.capable _ _ _).wp fun r m k hm => ?_
  cases r with
  | error f => exact ⟨hm.1, hs.equipped, hm.2⟩
  | ok b =>
    -- both buffers exist, and the old one goes
    have hold : Custody (b.handles ++ others) { s with machine := m } := by
      refine ⟨hm.accounts.perm ?_, hs.equipped, hm.capable⟩
      rw [← List.append_assoc, ← List.append_assoc]
      exact List.perm_append_comm.append_right others
    refine (destroyBuffer_returns hold).wp fun _ t l hpost => ?_
    obtain ⟨haccounts, hcapable, _⟩ := hpost
    exact (custody_some rfl).mpr ⟨haccounts, hm.equipped, hcapable⟩

theorem mapPlaced_custody (hs : Custody others s) (position size : Nat) (policy : WritePolicy) :
    (mapPlaced position size policy).Ends s fun _ t => Custody others t := by
  intro j
  unfold mapPlaced
  simp only [Attempt.wp_bind, Attempt.wp_always]
  refine (onBuffer_within (.outcome (Site.map_within _ _ _)) hs).wp fun o t k ht => ?_
  cases o with
  | none => exact ht
  | some r => exact ht

/-- The cursor of a ring is not about what it holds. -/
theorem Custody.cursor (hs : Custody others s) (position : Nat) (mapped : Bool) :
    Custody others { s with ring := { s.ring with position, mapped } } :=
  ⟨hs.accounts, hs.equipped, hs.capable⟩

theorem mapFitting_custody (hs : Custody others s) (size stride : Nat) :
    (mapFitting size stride).Ends s fun _ t => Custody others t := by
  intro j
  unfold mapFitting
  simp only [Attempt.wp_bind, Attempt.wp_always, wp_current, Attempt.wp_note, wp_change,
    Attempt.wp_pure]
  refine (mapPlaced_custody hs _ _ _).wp fun r u k hu => ?_
  cases r with
  | error f => exact hu
  | ok m => exact hu.cursor _ _

theorem map_custody (hs : Custody others s) (size stride : Nat) :
    (map size stride).Ends s fun _ t => Custody others t := by
  intro j
  rw [map_eq]
  simp only [Attempt.wp_bind, Attempt.wp_always, wp_current, Attempt.wp_ite, Attempt.wp_refuse]
  split
  · exact hs
  · split
    · exact hs
    · split
      · refine (enlarge_custody hs _).wp fun r t k ht => ?_
        cases r with
        | error f => exact ht
        | ok _ => exact mapFitting_custody ht size stride k
      · exact mapFitting_custody hs size stride j

theorem unmap_custody (hs : Custody others s) : unmap.Ends s fun _ t => Custody others t := by
  intro j
  unfold unmap
  simp only [Step.wp_bind, wp_current, Step.wp_ite, Step.wp_note, wp_discard, wp_change]
  split
  · exact hs
  · exact (onBuffer_within (Site.unmap_within.mono MoveKind.holding_mapping) hs).wp
      fun _ t _ ht => ht.cursor _ _

theorem append_custody (hs : Custody others s) (data : ByteArray) (stride : Nat) :
    (append data stride).Ends s fun _ t => Custody others t := by
  intro j
  unfold append
  simp only [Attempt.wp_bind]
  refine (map_custody hs _ _).wp fun r t k ht => ?_
  cases r with
  | error f => exact ht
  | ok region =>
    simp only [wp_discard_always, Attempt.wp_always, Attempt.wp_pure]
    refine (onBuffer_within ((Site.writeMapped_within _ _).mono MoveKind.inPlace_mapping) ht).wp
      fun _ u l hu => ?_
    exact (unmap_custody hu).wp fun _ v n hv => hv

/-- A ring that ended holds nothing. -/
theorem destroy_returns (hs : Custody others s) : destroy.Ends s fun _ t =>
    t.machine.device.Accounts others ∧ t.machine.device.caps.backend ≠ .noObject := by
  intro j
  unfold destroy
  simp only [Step.wp_bind, wp_current, Step.wp_ite]
  split
  · refine (unmap_custody hs).wp fun _ t k ht => ?_
    exact (destroyBuffer_returns ht).wp fun _ u l hu => ⟨hu.1, hu.2.1⟩
  · exact (destroyBuffer_returns hs).wp fun _ u l hu => ⟨hu.1, hu.2.1⟩

end RingSite

/-! ## 2. Two buffers -/

open Site in
/-- A copy between two buffers leaves each its own object. -/
theorem Pair.copy_custody {p : Pair MemoryDevice} {others : List ObjectHandle}
    (ht : Site.Custody (p.source.handles ++ others) ⟨p.target, p.machine⟩)
    (hs : p.source.backend.kind ≠ .noObject) (offset sourceOffset size : Nat) :
    (Pair.copy offset sourceOffset size).Ends p fun _ q =>
      Site.Custody (q.source.handles ++ others) ⟨q.target, q.machine⟩ ∧
        q.source.backend.kind ≠ .noObject := by
  intro j
  unfold Pair.copy Pair.onTarget Pair.onSource requireRun
  simp only [Attempt.wp_bind, Attempt.wp_onPart, Attempt.wp_always, wp_current, Attempt.wp_ite,
    Attempt.wp_refuse, Attempt.wp_pure]
  split
  · exact ⟨ht, hs⟩
  · split
    · exact ⟨ht, hs⟩
    · have hsource : Site.Custody (p.target.handles ++ others) ⟨p.source, p.machine⟩ := by
        refine ⟨ht.accounts.perm ?_, hs, ht.capable⟩
        rw [← List.append_assoc, ← List.append_assoc]
        exact List.perm_append_comm.append_right others
      refine (runSource_within _ _ _).wp fun r t k hmoves => ?_
      have hlent := mapping_custody (hmoves.mono MoveKind.loading_mapping) hsource
      have htarget : Site.Custody (t.buffer.handles ++ others) ⟨p.target, t.machine⟩ := by
        refine ⟨hlent.accounts.perm ?_, ht.equipped, hlent.capable⟩
        rw [← List.append_assoc, ← List.append_assoc]
        exact List.perm_append_comm.append_right others
      cases r with
      | error f => exact ⟨htarget, hlent.equipped⟩
      | ok source =>
        refine (copyRun_within _ _ _ _).wp fun r u l hmoves => ?_
        exact ⟨mapping_custody (hmoves.mono MoveKind.loading_mapping) htarget, hlent.equipped⟩

/-! ## 3. Fleets -/

/-- What lives on one device: buffers, rings, and the objects that the client made and that no
    buffer took over yet. -/
structure Fleet where
  machine : Machine MemoryDevice
  buffers : List Buffer
  rings : List Ring
  uploads : List ObjectHandle

/-- What is asked of a ring. -/
inductive RingCall where
  | map (size stride : Nat)
  | unmap
  | append (data : ByteArray) (stride : Nat)
  /-- A call on the buffer of the ring. -/
  | buffer (c : Call)

namespace RingCall

/-- The call performed. -/
def perform : RingCall → Step (RingSite MemoryDevice) Unit
  | map size stride => Functor.discard (RingSite.map size stride).outcome
  | unmap => RingSite.unmap
  | append data stride => Functor.discard (RingSite.append data stride).outcome
  | buffer c => Functor.discard (RingSite.onBuffer c.perform)

/-- The object that the buffer of the ring takes over by the call. -/
def consumed? (r : Ring) : RingCall → Option ObjectHandle
  | buffer c => r.buffer.bind fun b => c.consumed? b
  | _ => none

theorem custody (c : RingCall) {s : RingSite MemoryDevice} {others : List ObjectHandle}
    (hs : RingSite.Custody ((c.consumed? s.ring).toList ++ others) s) :
    c.perform.Ends s fun _ t => RingSite.Custody others t := by
  cases c with
  | map size stride => exact RingSite.map_custody hs size stride
  | unmap => exact RingSite.unmap_custody hs
  | append data stride => exact RingSite.append_custody hs data stride
  | buffer c =>
    refine RingSite.onBuffer_custody _ hs (fun hb => ?_) fun b hb hsite => ?_
    · unfold consumed?
      rw [hb]
      rfl
    · unfold consumed? at hsite
      rw [hb] at hsite
      exact c.custody hsite

end RingCall

namespace Fleet

variable {f g : Fleet} {caps : Capabilities}

/-- The handles that are held: those of the buffers, of the rings, and of the client. -/
def handles (f : Fleet) : List ObjectHandle :=
  f.buffers.flatMap Buffer.handles ++ (f.rings.flatMap Ring.handles ++ f.uploads)

/-- One thing that happens to a fleet. The order of the buffers and rings says nothing, and a call
    that takes over an object takes one that the client still has. -/
inductive Step (f : Fleet) : Fleet → Prop where
  | created (request : BufferRequest) (data : Option ByteArray) (settings : Settings) {b : Buffer}
      {m : Machine MemoryDevice} {j k : Journal}
      (h : (Machine.create request data settings).run f.machine j = ((.ok b, m), k)) :
      Step f { f with machine := m, buffers := b :: f.buffers }
  | refused (request : BufferRequest) (data : Option ByteArray) (settings : Settings)
      {e : Failure} {m : Machine MemoryDevice} {j k : Journal}
      (h : (Machine.create request data settings).run f.machine j = ((.error e, m), k)) :
      Step f { f with machine := m }
  | called {b : Buffer} {rest : List Buffer} (hb : f.buffers.Perm (b :: rest)) (c : Call)
      {uploads : List ObjectHandle}
      (brought : f.uploads.Perm ((c.consumed? b).toList ++ uploads)) {a : Option Mapping}
      {t : Site MemoryDevice} {j k : Journal} (h : c.perform ⟨b, f.machine⟩ j = ((a, t), k)) :
      Step f { f with machine := t.machine, buffers := t.buffer :: rest, uploads }
  | copied {b c : Buffer} {rest : List Buffer} (hb : f.buffers.Perm (b :: c :: rest))
      (offset sourceOffset size : Nat) {r : Except Failure Unit} {p : Pair MemoryDevice}
      {j k : Journal}
      (h : (Pair.copy offset sourceOffset size).run ⟨b, c, f.machine⟩ j = ((r, p), k)) :
      Step f { f with machine := p.machine, buffers := p.target :: p.source :: rest }
  | destroyed {b : Buffer} {rest : List Buffer} (hb : f.buffers.Perm (b :: rest))
      {t : Site MemoryDevice} {j k : Journal}
      (h : Site.destroy ⟨b, f.machine⟩ j = (((), t), k)) :
      Step f { f with machine := t.machine, buffers := rest }
  | ringMade (bind : BindFlags) (settings : Settings) :
      Step f { f with rings := .new bind settings :: f.rings }
  | ringCalled {r : Ring} {rest : List Ring} (hr : f.rings.Perm (r :: rest)) (c : RingCall)
      {uploads : List ObjectHandle}
      (brought : f.uploads.Perm ((c.consumed? r).toList ++ uploads)) {t : RingSite MemoryDevice}
      {j k : Journal} (h : c.perform ⟨r, f.machine⟩ j = (((), t), k)) :
      Step f { f with machine := t.machine, rings := t.ring :: rest, uploads }
  | ringDestroyed {r : Ring} {rest : List Ring} (hr : f.rings.Perm (r :: rest))
      {t : RingSite MemoryDevice} {j k : Journal}
      (h : RingSite.destroy ⟨r, f.machine⟩ j = (((), t), k)) :
      Step f { f with machine := t.machine, rings := rest }
  | brought (data : ByteArray) {a : Placement} {d : MemoryDevice} {j k : Journal}
      (h : (MemoryDevice.makeUpload data).run f.machine.device j = ((.ok a, d), k)) :
      Step f { f with machine.device := d, uploads := a.handle :: f.uploads }
  | notBrought (data : ByteArray) {e : Failure} {d : MemoryDevice} {j k : Journal}
      (h : (MemoryDevice.makeUpload data).run f.machine.device j = ((.error e, d), k)) :
      Step f { f with machine.device := d }
  /-- Whatever else happens to the device and to the users, while no object comes or goes. -/
  | elsewhere {d : MemoryDevice} (h : MemoryDevice.SameStock f.machine.device d)
      (users : UserTable) :
      Step f { f with machine.device := d, machine.users := users }

/-- What a fleet on a new device comes to. -/
inductive Reached (caps : Capabilities) : Fleet → Prop where
  | start : Reached caps ⟨.new (.new caps), [], [], []⟩
  | next {f g : Fleet} (h : Reached caps f) (step : f.Step g) : Reached caps g

/-- **The invariant of a fleet.** -/
structure Sound (f : Fleet) : Prop where
  accounts : f.machine.device.Accounts f.handles
  buffers : ∀ b ∈ f.buffers, b.backend.kind ≠ .noObject
  rings : ∀ r ∈ f.rings, ∀ b, r.buffer = some b → b.backend.kind ≠ .noObject
  capable : f.machine.device.caps.backend ≠ .noObject

/-! ## 4. What happens to a fleet -/

/-- A buffer taken out of the fleet for a call, with what the call consumes. -/
theorem Sound.buffer (hf : Sound f) {b : Buffer} {rest : List Buffer}
    (hb : f.buffers.Perm (b :: rest)) {consumed uploads : List ObjectHandle}
    (hu : f.uploads.Perm (consumed ++ uploads)) :
    Site.Custody (consumed ++ handles ⟨f.machine, rest, f.rings, uploads⟩) ⟨b, f.machine⟩ := by
  refine ⟨hf.accounts.perm ?_, hf.buffers b (hb.mem_iff.mpr List.mem_cons_self), hf.capable⟩
  have hbuffers := hb.flatMap_right Buffer.handles
  rw [List.flatMap_cons] at hbuffers
  unfold handles
  refine (hbuffers.append (hu.append_left _)).trans (List.perm_iff_count.mpr fun a => ?_)
  simp only [List.count_append]
  omega

/-- A buffer put back after a call. -/
theorem sound_of_buffer {m : Machine MemoryDevice} {b : Buffer} {rest : List Buffer}
    {rings : List Ring} {uploads : List ObjectHandle}
    (hb : Site.Custody (handles ⟨m, rest, rings, uploads⟩) ⟨b, m⟩)
    (hrest : ∀ b ∈ rest, b.backend.kind ≠ .noObject)
    (hrings : ∀ r ∈ rings, ∀ b, r.buffer = some b → b.backend.kind ≠ .noObject) :
    Sound ⟨m, b :: rest, rings, uploads⟩ := by
  refine ⟨?_, List.forall_mem_cons.mpr ⟨hb.equipped, hrest⟩, hrings, hb.capable⟩
  have haccounts := hb.accounts
  unfold handles at haccounts ⊢
  rw [List.flatMap_cons, List.append_assoc]
  exact haccounts

/-- A ring taken out of the fleet for a call, with what the call consumes. -/
theorem Sound.ring (hf : Sound f) {r : Ring} {rest : List Ring} (hr : f.rings.Perm (r :: rest))
    {consumed uploads : List ObjectHandle} (hu : f.uploads.Perm (consumed ++ uploads)) :
    RingSite.Custody (consumed ++ handles ⟨f.machine, f.buffers, rest, uploads⟩)
      ⟨r, f.machine⟩ := by
  refine ⟨hf.accounts.perm ?_, hf.rings r (hr.mem_iff.mpr List.mem_cons_self), hf.capable⟩
  have hrings := hr.flatMap_right Ring.handles
  rw [List.flatMap_cons] at hrings
  unfold handles
  refine ((hrings.append hu).append_left _).trans (List.perm_iff_count.mpr fun a => ?_)
  simp only [List.count_append]
  omega

/-- A ring put back after a call. -/
theorem sound_of_ring {m : Machine MemoryDevice} {r : Ring} {buffers : List Buffer}
    {rest : List Ring} {uploads : List ObjectHandle}
    (hr : RingSite.Custody (handles ⟨m, buffers, rest, uploads⟩) ⟨r, m⟩)
    (hbuffers : ∀ b ∈ buffers, b.backend.kind ≠ .noObject)
    (hrest : ∀ r ∈ rest, ∀ b, r.buffer = some b → b.backend.kind ≠ .noObject) :
    Sound ⟨m, buffers, r :: rest, uploads⟩ := by
  refine ⟨hr.accounts.perm ?_, hbuffers, List.forall_mem_cons.mpr ⟨hr.equipped, hrest⟩,
    hr.capable⟩
  unfold handles
  rw [List.flatMap_cons]
  refine List.perm_iff_count.mpr fun a => ?_
  simp only [List.count_append]
  omega

/-- An upload object is one more to hold; one that is refused leaves the device as it is. -/
theorem makeUpload_accounts {d : MemoryDevice} {hs : List ObjectHandle} (ha : d.Accounts hs)
    (data : ByteArray) : (MemoryDevice.makeUpload data).Ends d fun r d' => d'.caps = d.caps ∧
      match r with
      | .ok a => d'.Accounts (a.handle :: hs)
      | .error _ => d' = d := by
  intro j
  unfold MemoryDevice.makeUpload
  simp only [Attempt.wp_bind]
  refine (MemoryDevice.makeObject_accounts ha _).wp fun r e k hpost => ?_
  obtain ⟨hcaps, he⟩ := hpost
  cases r with
  | error f => exact ⟨hcaps, he⟩
  | ok a =>
    simp only [Attempt.wp_modify, Attempt.wp_pure]
    split
    · rename_i o ho
      have hstock := MemoryDevice.sameStock_putObject ho (o.write 0 data)
      exact ⟨hstock.caps.trans hcaps, hstock.accounts he⟩
    · exact ⟨hcaps, he⟩

/-- The rest of a permuted list. -/
theorem forall_rest {α : Type} {P : α → Prop} {l rest : List α} {a : α}
    (hl : l.Perm (a :: rest)) (h : ∀ x ∈ l, P x) : ∀ x ∈ rest, P x :=
  fun x hx => h x (hl.mem_iff.mpr (List.mem_cons_of_mem a hx))

/-- **Whatever happens to a fleet keeps its invariant.** -/
theorem Step.sound (h : f.Step g) (hf : Sound f) : Sound g := by
  cases h with
  | created request data settings h =>
    have hb := (Machine.create_custody hf.accounts hf.capable request data settings).of_run h
    exact sound_of_buffer hb hf.buffers hf.rings
  | refused request data settings h =>
    obtain ⟨haccounts, hcapable⟩ :=
      (Machine.create_custody hf.accounts hf.capable request data settings).of_run h
    exact ⟨haccounts, hf.buffers, hf.rings, hcapable⟩
  | called hb c brought h =>
    have ht := (c.custody (hf.buffer hb brought)).of_run h
    exact sound_of_buffer ht (forall_rest hb hf.buffers) hf.rings
  | @copied b c rest hb offset sourceOffset size r p j k h =>
    have hswap : f.buffers.Perm (c :: b :: rest) := hb.trans (.swap c b rest)
    have hsource := hf.buffers c (hswap.mem_iff.mpr List.mem_cons_self)
    have htarget := hf.buffer hb (.refl ([] ++ f.uploads))
    have hpair : Site.Custody (c.handles ++ handles ⟨f.machine, rest, f.rings, f.uploads⟩)
        ⟨b, f.machine⟩ := by
      refine ⟨htarget.accounts.perm ?_, htarget.equipped, htarget.capable⟩
      unfold handles
      rw [List.flatMap_cons, List.append_assoc]
      exact .refl _
    obtain ⟨hends, hequipped⟩ := (Pair.copy_custody (p := ⟨b, c, f.machine⟩) hpair hsource offset
      sourceOffset size).of_run h
    have hrest := (List.forall_mem_cons.mp (forall_rest hb hf.buffers)).2
    refine sound_of_buffer ⟨hends.accounts.perm ?_, hends.equipped, hends.capable⟩
      (List.forall_mem_cons.mpr ⟨hequipped, hrest⟩) hf.rings
    unfold handles
    rw [List.flatMap_cons, List.append_assoc]
  | destroyed hb h =>
    obtain ⟨haccounts, hcapable⟩ :=
      (Site.destroy_returns (hf.buffer hb (.refl ([] ++ f.uploads)))).of_run h
    exact ⟨haccounts, forall_rest hb hf.buffers, hf.rings, hcapable⟩
  | ringMade bind settings =>
    have hbare : (Ring.new bind settings).buffer = none := rfl
    refine sound_of_ring ((RingSite.custody_none hbare).mpr ⟨hf.accounts, hf.capable⟩) hf.buffers
      hf.rings
  | ringCalled hr c brought h =>
    have ht := (c.custody (hf.ring hr brought)).of_run h
    exact sound_of_ring ht hf.buffers (forall_rest hr hf.rings)
  | ringDestroyed hr h =>
    obtain ⟨haccounts, hcapable⟩ :=
      (RingSite.destroy_returns (hf.ring hr (.refl ([] ++ f.uploads)))).of_run h
    exact ⟨haccounts, hf.buffers, forall_rest hr hf.rings, hcapable⟩
  | brought data h =>
    obtain ⟨hcaps, haccounts⟩ := (makeUpload_accounts hf.accounts data).of_run h
    refine ⟨haccounts.perm ?_, hf.buffers, hf.rings, Site.capable_of_caps hcaps hf.capable⟩
    unfold handles
    refine List.perm_iff_count.mpr fun x => ?_
    simp only [List.count_append, List.count_cons]
    omega
  | notBrought data h =>
    obtain ⟨-, hsame⟩ := (makeUpload_accounts hf.accounts data).of_run h
    cases hsame
    exact hf
  | elsewhere h users =>
    exact ⟨h.accounts hf.accounts, hf.buffers, hf.rings,
      Site.capable_of_caps h.caps hf.capable⟩

/-- A new device is accounted for. -/
theorem accounts_new (caps : Capabilities) : (MemoryDevice.new caps).Accounts [] := by
  have hlive (h : ObjectHandle) : Device.live (MemoryDevice.new caps) h = false := rfl
  have hdestroyed : (MemoryDevice.new caps).destroyed = [] := rfl
  refine ⟨.nil, fun h => ?_, fun h hh => absurd hh List.not_mem_nil, ?_, fun h hh => ?_⟩
  · rw [hlive]
    exact ⟨fun ht => absurd ht Bool.false_ne_true, fun hh => absurd hh List.not_mem_nil⟩
  · rw [hdestroyed]
    exact .nil
  · rw [hdestroyed] at hh
    exact absurd hh List.not_mem_nil

theorem Reached.sound (h : Reached caps f) (hcaps : caps.backend ≠ .noObject) : Sound f := by
  induction h with
  | start =>
    exact ⟨accounts_new caps, fun b hb => absurd hb List.not_mem_nil,
      fun r hr => absurd hr List.not_mem_nil, hcaps⟩
  | next _ step ih => exact step.sound ih

/-! ## 5. Balance -/

/-- **The objects of a fleet are accounted for.** -/
structure Balanced (f : Fleet) : Prop where
  /-- The object of a buffer is there. -/
  live : ∀ b ∈ f.buffers, ∀ o, b.object = some o → Device.live f.machine.device o.handle = true
  /-- No handle is held twice, be it by buffers, by rings or by the client. -/
  distinct : f.handles.Nodup
  /-- The objects that are there are those that are held. -/
  held : ∀ h, Device.live f.machine.device h = true ↔ h ∈ f.handles
  /-- A creation that fails leaves the same objects. -/
  refused : ∀ (request : BufferRequest) (data : Option ByteArray) (settings : Settings)
    (j k : Journal) (e : Failure) (m : Machine MemoryDevice),
    (Machine.create request data settings).run f.machine j = ((.error e, m), k) →
      ∀ h, Device.live m.device h = Device.live f.machine.device h
  /-- No object was given back twice. -/
  once : f.machine.device.destroyed.Nodup
  /-- Without buffers and rings, only the objects of the client are left. -/
  left : f.buffers = [] → f.rings = [] →
    ∀ h, Device.live f.machine.device h = true ↔ h ∈ f.uploads

/-- **Object lifecycle balance.** Whatever happens on a device with objects, to any number of
    buffers and rings and with objects refused or granted, every object is held exactly once and
    given back at most once. -/
theorem Reached.balanced (h : Reached caps f) (hcaps : caps.backend ≠ .noObject) : Balanced f := by
  have hf := h.sound hcaps
  refine ⟨fun b hb o ho => ?_, hf.accounts.distinct, hf.accounts.live, ?_, hf.accounts.once, ?_⟩
  · refine (hf.accounts.live _).mpr (List.mem_append_left _ (List.mem_flatMap.mpr ⟨b, hb, ?_⟩))
    rw [Buffer.handles_of_some ho]
    exact List.mem_singleton_self _
  · intro request data settings j k e m hrun a
    have hg := (Step.refused request data settings hrun).sound hf
    exact Bool.eq_iff_iff.mpr ((hg.accounts.live a).trans (hf.accounts.live a).symm)
  · intro hbuffers hrings a
    have hlive := hf.accounts.live a
    unfold handles at hlive
    rw [hbuffers, hrings] at hlive
    exact hlive

/-- A buffer is created next. -/
theorem Reached.create (h : Reached caps f) (request : BufferRequest) (data : Option ByteArray)
    (settings : Settings) (j : Journal) {b : Buffer}
    (hb : ((Machine.create request data settings).run f.machine j).1.1.toOption = some b) :
    Reached caps { f with
      machine := ((Machine.create request data settings).run f.machine j).1.2
      buffers := b :: f.buffers } :=
  .next h (.created request data settings (Attempt.eq_end_of_ok _ _ _ hb))

/-- An object that brings content is made next. -/
theorem Reached.bring (h : Reached caps f) (data : ByteArray) (j : Journal) {a : Placement}
    (ha : ((MemoryDevice.makeUpload data).run f.machine.device j).1.1.toOption = some a) :
    Reached caps { f with
      machine.device := ((MemoryDevice.makeUpload data).run f.machine.device j).1.2
      uploads := a.handle :: f.uploads } :=
  .next h (.brought data (Attempt.eq_end_of_ok _ _ _ ha))

/-- The buffer in front is called next. -/
theorem Reached.call (h : Reached caps f) {b : Buffer} {rest : List Buffer}
    (hb : f.buffers = b :: rest) (c : Call) (uploads : List ObjectHandle)
    (brought : f.uploads.Perm ((c.consumed? b).toList ++ uploads)) (j : Journal) :
    Reached caps { f with
      machine := (c.perform ⟨b, f.machine⟩ j).1.2.machine
      buffers := (c.perform ⟨b, f.machine⟩ j).1.2.buffer :: rest
      uploads } :=
  .next h (.called (by rw [hb]) c brought rfl)

/-- The ring in front is called next. -/
theorem Reached.callRing (h : Reached caps f) {r : Ring} {rest : List Ring}
    (hr : f.rings = r :: rest) (c : RingCall) (uploads : List ObjectHandle)
    (brought : f.uploads.Perm ((c.consumed? r).toList ++ uploads)) (j : Journal) :
    Reached caps { f with
      machine := (c.perform ⟨r, f.machine⟩ j).1.2.machine
      rings := (c.perform ⟨r, f.machine⟩ j).1.2.ring :: rest
      uploads } :=
  .next h (.ringCalled (by rw [hr]) c brought (BufferCoherence.Step.eq_end _ _ _))

/-- A buffer whose object was replaced by one of two that the client made, and a ring that grew. -/
theorem balanced_after_rename :
    ∃ f, Reached .legacy f ∧ f.handles = [⟨2⟩, ⟨5⟩, ⟨3⟩] ∧
      f.machine.device.destroyed = [⟨1⟩, ⟨4⟩] ∧ Capabilities.legacy.backend ≠ .noObject ∧
      Balanced f := by
  have h₁ := (.start : Reached .legacy _).create
    ⟨4, ∅, BindFlags.vertexBuffer, Access.gpu, 0⟩ (some ⟨#[1, 2, 3, 4]⟩) {} (.empty .error)
    (Option.some_get (by decide +kernel)).symm
  have h₂ := h₁.bring ⟨#[5, 6, 7, 8]⟩ (.empty .error) (Option.some_get (by decide +kernel)).symm
  have h₃ := h₂.bring ⟨#[9]⟩ (.empty .error) (Option.some_get (by decide +kernel)).symm
  have h₄ := h₃.call rfl (.complete (.upload ⟨⟨⟨2⟩, 0⟩, true, false⟩ 0 4)) [⟨3⟩]
    (by decide +kernel) (.empty .error)
  have h₅ := h₄.next (.ringMade BindFlags.vertexBuffer { streamingMinSize := 4 })
  have h₆ := h₅.callRing rfl (.append ⟨#[1, 2]⟩ 1) [⟨3⟩] (by decide +kernel)
    (.empty .error)
  have h₇ := h₆.callRing rfl (.append ⟨#[1, 2, 3, 4, 5]⟩ 1) [⟨3⟩] (by decide +kernel)
    (.empty .error)
  exact ⟨_, h₇, by decide +kernel, by decide +kernel, by decide, h₇.balanced (by decide)⟩

end Fleet

end BufferCoherence
