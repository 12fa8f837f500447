import BufferCoherence.Proofs.Calls

/-!
# What a buffer asks of its device

Whatever an operation does to a buffer, and whether it fails or not, some things hold on every
device:

* what the buffer is stays as it was created (`Buffer.nature`);
* objects are made only for a buffer that may have one, and a buffer that may not have one never may
  again;
* a buffer that can be captured into gives no object back before it ended the capture. The exception
  is a buffer that is renamed: the object that it had is given back as it is (`Site.Renamed`);
* no content is cleared, unless the client declares it.

`Site.Deals` is the first three of them as one relation between before and after, and `Site.Conducts`
all of them. Every deed but the taking over of an object deals with the device so (`Site.Deed.deals`),
and so do the calls made of them (`Call.perform_outcome`).
-/

namespace BufferCoherence

variable {δ α β : Type}

/-! ## 1. What a buffer is -/

/-- What is fixed when a buffer is created. -/
structure Nature where
  id : BufferId
  size : Nat
  usage : Usage
  bind : BindFlags
  access : Access
  elementStride : Nat
  settings : Settings
  user : UserId
  kind : BackendKind

/-- The device has binding targets, and a capture may write to the buffer. -/
def Nature.Capturable (n : Nature) : Prop :=
  n.kind = .legacy ∧ n.bind.has BindFlags.streamOutput = true

namespace Buffer

/-- What the buffer is. -/
def nature (b : Buffer) : Nature :=
  ⟨b.id, b.size, b.usage, b.bind, b.access, b.elementStride, b.settings, b.user, b.backend.kind⟩

/-- The buffer stays what it is, comes to be allowed no object, and is not cleared. -/
structure Abides (b b' : Buffer) : Prop where
  nature : b'.nature = b.nature
  allowed : b'.objectAllowed = true → b.objectAllowed = true
  cleared : b'.locations.has Location.cleared = true → b.locations.has Location.cleared = true

variable {b b' b'' : Buffer}

theorem Abides.refl (b : Buffer) : b.Abides b := ⟨rfl, fun h => h, fun h => h⟩

theorem Abides.trans (h : b.Abides b') (h' : b'.Abides b'') : b.Abides b'' :=
  ⟨h'.nature.trans h.nature, h.allowed ∘ h'.allowed, h.cleared ∘ h'.cleared⟩

/-- A buffer keeps the settings it was created with. -/
theorem Abides.settings (h : b.Abides b') : b'.settings = b.settings :=
  congrArg Nature.settings h.nature

theorem abides_markValid (b : Buffer) {l : Location} (hl : l.has Location.cleared = false) :
    b.Abides (b.markValid l) := by
  refine ⟨rfl, fun h => h, fun hc => ?_⟩
  have hunion : (b.locations ∪ l).has Location.cleared = true := hc
  rwa [(Location.has_union _ _).2.2.2, hl, Bool.or_false] at hunion

theorem abides_markStale (b : Buffer) (l : Location) (offset size : Nat) :
    b.Abides (b.markStale l offset size) := by
  refine ⟨rfl, fun h => h, fun hc => ?_⟩
  have hdiff : (b.locations \ l).has Location.cleared = true := hc
  rw [(Location.has_sdiff _ _).2.2.2, Bool.and_eq_true] at hdiff
  exact hdiff.1

theorem nature_restartBarriers (b : Buffer) : b.restartBarriers.nature = b.nature := by
  obtain ⟨backend, hb, hk⟩ := Site.restartBarriers_eq b
  rw [hb]
  unfold nature
  rw [hk]

theorem abides_restartBarriers (b : Buffer) : b.Abides b.restartBarriers := by
  obtain ⟨backend, hb, -⟩ := Site.restartBarriers_eq b
  refine ⟨b.nature_restartBarriers, fun h => ?_, fun h => ?_⟩
  · rwa [hb] at h
  · rwa [hb] at h

end Buffer

/-! ## 2. What a device is asked -/

/-- A device that was called: objects were made only if `allowed`, and where `careful` none was given
    back that was being captured into when no capture had just been ended. -/
inductive Device.Asked [Device δ] (allowed careful : Prop) (d : δ) : δ → Prop where
  | here : Asked allowed careful d d
  | quiet {e f : δ} (h : Asked allowed careful d e) (call : Device.Quiet e f) :
      Asked allowed careful d f
  | made {e : δ} (h : Asked allowed careful d e) (may : allowed) (request : ObjectRequest)
      (j : Journal) : Asked allowed careful d ((Device.makeObject request).run e j).1.2
  | freed {e : δ} (h : Asked allowed careful d e) (a : ObjectHandle)
      (released : careful → Device.captureActive e a = true →
        ∃ f i, e = (Device.endCapture f i).1.2) (j : Journal) :
      Asked allowed careful d (Device.freeObject a e j).1.2

namespace Device.Asked

variable [Device δ] {allowed allowed' careful careful' : Prop} {d e f : δ}

theorem trans (h : Device.Asked allowed careful d e) (h' : Device.Asked allowed careful e f) :
    Device.Asked allowed careful d f := by
  induction h' with
  | here => exact h
  | quiet _ call ih => exact .quiet ih call
  | made _ may request j ih => exact .made ih may request j
  | freed _ a released j ih => exact .freed ih a released j

theorem mono (h : Device.Asked allowed careful d e) (ha : allowed → allowed')
    (hc : careful' → careful) : Device.Asked allowed' careful' d e := by
  induction h with
  | here => exact .here
  | quiet _ call ih => exact .quiet ih call
  | made _ may request j ih => exact .made ih (ha may) request j
  | freed _ a released j ih => exact .freed ih a (fun h => released (hc h)) j

end Device.Asked

namespace Site

variable [Device δ] {s t u : Site δ}

/-- The device is asked for what the buffer of a site may ask for. -/
def Asks (s : Site δ) (d : δ) : Prop :=
  Device.Asked (s.buffer.objectAllowed = true) s.buffer.nature.Capturable s.machine.device d

/-- **How a buffer deals with its device**, whatever its client declares. -/
structure Deals (s t : Site δ) : Prop where
  nature : t.buffer.nature = s.buffer.nature
  allowed : t.buffer.objectAllowed = true → s.buffer.objectAllowed = true
  asked : s.Asks t.machine.device

/-- **How an operation conducts a buffer.** -/
structure Conducts (s t : Site δ) : Prop where
  buffer : s.buffer.Abides t.buffer
  asked : s.Asks t.machine.device

theorem Asks.after {d : δ} (hn : t.buffer.nature = s.buffer.nature)
    (ha : t.buffer.objectAllowed = true → s.buffer.objectAllowed = true)
    (h : s.Asks t.machine.device) (h' : t.Asks d) : s.Asks d :=
  h.trans (h'.mono ha fun hc => by rw [hn]; exact hc)

theorem Deals.refl (s : Site δ) : s.Deals s := ⟨rfl, id, .here⟩

theorem Deals.trans (h : s.Deals t) (h' : t.Deals u) : s.Deals u :=
  ⟨h'.nature.trans h.nature, h.allowed ∘ h'.allowed, .after h.nature h.allowed h.asked h'.asked⟩

theorem Conducts.refl (s : Site δ) : s.Conducts s := ⟨.refl _, .here⟩

theorem Conducts.trans (h : s.Conducts t) (h' : t.Conducts u) : s.Conducts u :=
  ⟨h.buffer.trans h'.buffer, .after h.buffer.nature h.buffer.allowed h.asked h'.asked⟩

instance : IsPreorder (Site δ) Deals where
  refl := Deals.refl
  trans _ _ _ := Deals.trans

instance : IsPreorder (Site δ) Conducts where
  refl := Conducts.refl
  trans _ _ _ := Conducts.trans

theorem Conducts.deals (h : s.Conducts t) : s.Deals t :=
  ⟨h.buffer.nature, h.buffer.allowed, h.asked⟩

/-- The object that a buffer has is given back as it is. -/
def Displaces (s : Site δ) (d : δ) : Prop :=
  match s.buffer.object with
  | none => d = s.machine.device
  | some o => ∃ j, d = (Device.freeObject o.handle s.machine.device j).1.2

/-- **How a buffer is renamed.** -/
structure Renamed (s t : Site δ) : Prop where
  nature : t.buffer.nature = s.buffer.nature
  allowed : t.buffer.objectAllowed = s.buffer.objectAllowed
  displaces : s.Displaces t.machine.device

end Site

/-! ## 3. Deeds -/

namespace DeedKind

/-- No object is handed in, and nothing is current because the client says so. -/
def Sober : DeedKind → Prop
  | .rename _ | .claim => False
  | _ => True

theorem Sober.own {k : DeedKind} (h : k.Sober) : k.Own := by
  cases k with
  | rename | claim => exact False.elim h
  | _ => trivial

instance : Maps Sober := .of (by apply Opens.of <;> trivial) trivial

end DeedKind

/-- No entry changes what the buffer is, or allows it an object. -/
theorem Buffer.Entry.nature {b b' : Buffer} {k : DeedKind} (h : b.Entry k b') :
    b'.nature = b.nature ∧ (b'.objectAllowed = true → b.objectAllowed = true) := by
  cases h with
  | forbidden => exact ⟨rfl, fun h => absurd h Bool.false_ne_true⟩
  | tracked hb =>
    refine ⟨?_, fun h => h⟩
    unfold Buffer.nature
    rw [hb]
    rfl
  | restarted => exact ⟨b.nature_restartBarriers, b.abides_restartBarriers.allowed⟩
  | _ => exact ⟨rfl, fun h => h⟩

/-- No entry clears the content, but for what the client declares. -/
theorem Buffer.Entry.cleared {b b' : Buffer} {k : DeedKind} (h : b.Entry k b') (hk : k.Sober) :
    b'.locations.has Location.cleared = true → b.locations.has Location.cleared = true := by
  cases h with
  | valid hl => exact (b.abides_markValid hl).cleared
  | sown => exact (b.abides_markValid (by decide)).cleared
  | stale offset size => exact (b.abides_markStale _ offset size).cleared
  | disclaimed l offset size => exact (b.abides_markStale l offset size).cleared
  | claimed => exact False.elim hk
  | keptFresh => exact fun hc => absurd (Location.apart.1.2.2.symm.trans hc) Bool.false_ne_true
  | restarted => exact b.abides_restartBarriers.cleared
  | _ => exact fun h => h

namespace Site

variable [Device δ] {s t : Site δ} {k : DeedKind}

/-- **Every deed but the taking over of an object deals with the device so.** -/
theorem Deed.deals (h : s.Deed k t) (hk : k.Own) : s.Deals t := by
  have hquiet {d : δ} (hq : Device.Quiet s.machine.device d) :
      s.Deals { s with machine.device := d } := ⟨rfl, fun h => h, .quiet .here hq⟩
  have hasked {request : ObjectRequest} {r : Except Failure Placement} {d : δ} {j k : Journal}
      (allowed : s.buffer.objectAllowed = true)
      (h : (Device.makeObject request).run s.machine.device j = ((r, d), k)) : s.Asks d := by
    have hmade := Device.Asked.made (.here : s.Asks s.machine.device) allowed request j
    rwa [h] at hmade
  cases h with
  | entered h => exact ⟨h.nature.1, h.nature.2, .here⟩
  | users => exact ⟨rfl, fun h => h, .here⟩
  | made allowed _ h _ => exact ⟨rfl, fun h => h, hasked allowed h⟩
  | refused allowed h => exact ⟨rfl, fun h => h, hasked allowed h⟩
  | @freed o ho settled j =>
    exact ⟨rfl, fun h => h, .freed .here o.handle (fun hc => settled hc.1 hc.2) j⟩
  | replaced | given => exact False.elim hk
  | opened => exact hquiet (.openMapping _ _ _ _ _)
  | closed => exact hquiet (.closeMapping _ _ _)
  | captured => exact hquiet (.endCapture _)
  | fenced => exact hquiet (.recordBarrier _ _)
  | uploaded | readBack | stored | gathered => exact hquiet (.transfer _ _ _ _ _)
  | poked => exact hquiet (.poke _ _ _)

/-- **And clears nothing**, unless the client declares it. -/
theorem Deed.conducts (h : s.Deed k t) (hk : k.Sober) : s.Conducts t := by
  have hdeals := h.deals hk.own
  refine ⟨⟨hdeals.nature, hdeals.allowed, ?_⟩, hdeals.asked⟩
  cases h with
  | entered h => exact h.cleared hk
  | replaced | given => exact False.elim hk
  | _ => exact fun h => h

/-- **A buffer that is renamed gives the object that it had back as it is.** -/
theorem Deed.renamed {h : ObjectHandle} (hd : s.Deed (.rename h) t) : s.Renamed t := by
  have hallowed : s.buffer.restartBarriers.objectAllowed = s.buffer.objectAllowed := by
    obtain ⟨backend, hb, -⟩ := Site.restartBarriers_eq s.buffer
    rw [hb]
  cases hd with
  | entered h => cases h
  | replaced hp ho j =>
    refine ⟨s.buffer.nature_restartBarriers, hallowed, ?_⟩
    unfold Displaces
    rw [hp]
    exact ⟨j, rfl⟩
  | given bare ho =>
    refine ⟨s.buffer.nature_restartBarriers, hallowed, ?_⟩
    unfold Displaces
    rw [bare]

end Site

/-! ## 4. Operations -/

section Obeys

variable [Device δ]

open Site

/-- The step conducts the buffer so. -/
def Step.Obeys (p : Step (Site δ) α) : Prop := ∀ s, p.Ends s fun _ t => s.Conducts t

/-- The attempt conducts the buffer so, whether it fails or not. -/
def Attempt.Obeys (a : Attempt (Site δ) α) : Prop := ∀ s, a.Ends s fun _ t => s.Conducts t

theorem Step.Obeys.of_deeds {p : Step (Site δ) α} (h : p.Relates (Deeds DeedKind.Sober)) : p.Obeys :=
  fun s => (h s).mono fun _ _ ht => ht.relates fun _ hk _ _ hd => hd.conducts hk

theorem Attempt.Obeys.of_deeds {a : Attempt (Site δ) α} (h : a.Relates (Deeds DeedKind.Sober)) :
    a.Obeys := fun s => (h s).mono fun _ _ ht => ht.relates fun _ hk _ _ hd => hd.conducts hk

namespace Site

theorem objectRefused_obeys (f : Failure) : (objectRefused f : Step (Site δ) Unit).Obeys :=
  .of_deeds (objectRefused_deeds f)

theorem reserveObject_obeys : (reserveObject : Step (Site δ) Bool).Obeys :=
  .of_deeds reserveObject_deeds

theorem removeObject_obeys : (removeObject : Step (Site δ) Unit).Obeys :=
  .of_deeds removeObject_deeds

theorem destroy_obeys : (destroy : Step (Site δ) Unit).Obeys := .of_deeds (destroy_deeds trivial)

theorem map_obeys (offset size : Nat) (flags : MapFlags) :
    (map offset size flags : Attempt (Site δ) Mapping).Obeys :=
  .of_deeds (.deeds (map_phases fun _ => trivial))

theorem unmap_obeys : (unmap : Step (Site δ) Unit).Obeys := .of_deeds unmap_deeds

theorem writeMapped_obeys (m : Mapping) (data : ByteArray) :
    (writeMapped m data : Step (Site δ) Unit).Obeys := .of_deeds (writeMapped_deeds trivial m data)

theorem openFresh_obeys (pin : Bool) (data : Option ByteArray) :
    (openFresh pin data : Attempt (Site δ) Unit).Obeys :=
  .of_deeds (openFresh_deeds trivial trivial (fun _ => trivial) (fun _ => trivial) pin data)

end Site

/-- An operation that hands in no object. -/
theorem Operation.perform_obeys {op : Operation}
    (h : ∀ u offset size, op = .upload u offset size → u.rename = false) :
    (op.perform : Attempt (Site δ) (Option ByteArray)).Obeys :=
  .of_deeds (Operation.perform_deeds (Operation.permitted trivial (fun _ => trivial)
    (fun _ _ => trivial) (fun _ _ => trivial) fun u offset size he hr =>
      absurd ((h u offset size he).symm.trans hr) Bool.false_ne_true))

end Obeys

/-- **A creation conducts the buffer that it creates**, also where it fails in the end. -/
theorem Machine.create_conducts [Device δ] (m : Machine δ) (request : BufferRequest)
    (data : Option ByteArray) (settings : Settings) :
    (create request data settings).Ends m fun r m' =>
      (m' = m ∧ ∃ f, r = .error f) ∨ ∃ backend objectAllowed b,
        backend.kind = (Device.caps m.device).backend ∧ (∀ b', r = .ok b' → b' = b) ∧
        (m.freshBuffer (request.granted settings) backend objectAllowed settings).Conducts
          ⟨b, m'⟩ := by
  refine create_opens (fun f => .inl ⟨rfl, f, rfl⟩) fun _ backend objectAllowed hkind _ =>
    (Site.openFresh_obeys _ data _).mono fun r t ht => ?_
  refine .inr ⟨backend, objectAllowed, t.buffer, hkind, fun b' hb' => ?_, ht⟩
  cases r with
  | error f => cases hb'
  | ok _ =>
    cases hb'
    rfl

/-! ## 5. Calls -/

section Calls

variable [Device δ]

open Site

namespace Call

/-- What becomes of a buffer by a call. -/
def Outcome (c : Call) (s t : Site δ) : Prop :=
  match c.consumed? s.buffer with
  | some _ => ∃ u, s.Renamed u ∧ u.Deals t
  | none => s.Deals t

variable {c : Call} {s t : Site δ}

theorem nature_of_outcome (h : c.Outcome s t) : t.buffer.nature = s.buffer.nature := by
  unfold Outcome at h
  split at h
  · obtain ⟨u, hu, ht⟩ := h
    exact ht.nature.trans hu.nature
  · exact h.nature

/-- **Every call deals with the device so**, and a call that hands in an object has the one there was
    given back as it is. -/
theorem perform_outcome (c : Call) (s : Site δ) :
    c.perform.Ends s fun _ t => c.Outcome s t := by
  have hdeals {s t : Site δ} (h : Deeds DeedKind.Own s t) : s.Deals t :=
    h.relates fun _ hk _ _ hd => hd.deals hk
  refine (c.perform_own s).mono fun _ t ht => ?_
  unfold Outcome
  cases hc : c.consumed? s.buffer with
  | none =>
    rw [hc] at ht
    exact hdeals ht
  | some h =>
    rw [hc] at ht
    obtain ⟨u, hu, ht⟩ := ht
    exact ⟨u, hu.renamed, hdeals ht⟩

end Call

end Calls

end BufferCoherence
