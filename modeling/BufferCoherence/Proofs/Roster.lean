import BufferCoherence.Proofs.Calls
import BufferCoherence.Proofs.Users

/-!
# The roll of a buffer

What an operation does to the users of a buffer, on any device. Of all that an operation works on,
four things bear on its users: the object with its registry, the buffer's own user, the kind of the
backend, and the cells of the users. They are the `Roll` of a site, and few deeds change it:

* a buffer without an object is given one, and its own user is registered (`Roll.adopt`);
* an object that is given up dismisses its users (`Roll.dismiss`), and one that is replaced sends
  them to the next one (`Roll.rename`);
* a user is registered, taken from the registry, or refreshed.

The phases of an operation say what it does to the roll, whatever the device answers and whether the
operation fails or not: the first one may find an object for a buffer without one (`Roll.Grown`), and
the second one may give it up (`Roll.Lost`). Both make up `Roll.Turned`: no operation gives up an
object and goes on to make another one. `Call.perform_roll` sums them up.
-/

namespace BufferCoherence

/-! ## 1. Rolls -/

/-- What bears on the users of a buffer. -/
structure Roll where
  object : Option BufferObject
  /-- The buffer's own user. -/
  user : UserId
  kind : BackendKind
  users : UserTable

/-- The roll of the buffer of a site. -/
def Site.roll {δ : Type} (s : Site δ) : Roll :=
  ⟨s.buffer.object, s.buffer.user, s.buffer.backend.kind, s.machine.users⟩

namespace Roll

/-- The object changed, with the cells of the users. -/
def onObject (x : Roll) (f : BufferObject → UserTable → BufferObject × UserTable) : Roll :=
  match x.object with
  | none => x
  | some o => { x with object := some (f o x.users).1, users := (f o x.users).2 }

/-- A new object, with the buffer's own user registered. -/
def adopt (x : Roll) (a : Placement) (size : Nat) : Roll :=
  let e := (BufferObject.new a size).enlist x.users x.user
  { x with object := some e.1, users := e.2 }

/-- The object given up. -/
def dismiss (x : Roll) : Roll :=
  match x.object with
  | none => x
  | some o => { x with object := none, users := (o.dismissUsers x.users).2 }

/-- A new object in place of the one there was. -/
def rename (x : Roll) (a : Placement) (size : Nat) : Roll :=
  match x.object with
  | none => x.adopt a size
  | some p =>
    let m := p.moveUsers (.new a size) x.users
    { x with object := some m.2.1, users := m.2.2 }

/-- The buffer's own user refreshed, if it has no view of the object. -/
def inform (x : Roll) : Roll :=
  match x.kind, x.object with
  | .modern, some o =>
    if (x.users.cell x.user).hasView then x
    else { x with users := (o.refresh x.users x.user).2 }
  | _, _ => x

/-- The view that the buffer's own user remembers, or that of the object where it has none. -/
def info (x : Roll) : Option ObjectView :=
  match x.kind, x.object with
  | .modern, some o => some ((x.users.cell x.user).view.getD o.view)
  | _, _ => none

/-- Nothing changed. -/
def Same (x y : Roll) : Prop := y = x

/-- A buffer without an object may have one now. -/
def Grown (x y : Roll) : Prop := Same x y ∨ x.object = none ∧ ∃ a size, y = x.adopt a size

/-- The object may be given up. -/
def Lost (x y : Roll) : Prop := Same x y ∨ y = x.dismiss

/-- The object may have been given up in the end. -/
def Turned (x y : Roll) : Prop := ∃ z, Grown x z ∧ (Same z y ∨ y = z.dismiss)

/-- What comes of a change by `R` and, unless it is skipped, another one by `S`. -/
class Chain (R S : Roll → Roll → Prop) (T : outParam (Roll → Roll → Prop)) : Prop where
  first {x y : Roll} : R x y → T x y
  both {x y z : Roll} : R x y → S y z → T x z

variable {x y z : Roll}

theorem object_dismiss (x : Roll) : x.dismiss.object = none := by
  unfold dismiss
  split
  · assumption
  · rfl

theorem dismiss_of_bare (h : x.object = none) : x.dismiss = x := by
  unfold dismiss
  rw [h]

theorem Grown.turned (h : Grown x y) : Turned x y := ⟨y, h, .inl rfl⟩

instance : Std.Refl Grown := ⟨fun _ => .inl rfl⟩

instance : Std.Refl Lost := ⟨fun _ => .inl rfl⟩

/-- An object is made once. -/
instance : Chain Grown Grown Grown where
  first h := h
  both := by
    rintro x y z (rfl | ⟨hx, a, size, rfl⟩) hz
    · exact hz
    · rcases hz with rfl | ⟨hy, -⟩
      · exact .inr ⟨hx, a, size, rfl⟩
      · cases hy

/-- An object is given up once. -/
instance : Chain Lost Lost Lost where
  first h := h
  both := by
    rintro x y z (rfl | rfl) hz
    · exact hz
    · rcases hz with rfl | rfl
      · exact .inr rfl
      · exact .inr (dismiss_of_bare x.object_dismiss)

instance : Chain Grown Lost Turned where
  first := Grown.turned
  both hy hz := ⟨_, hy, hz⟩

/-- The backend and the own user are chosen once. -/
structure Kept (x y : Roll) : Prop where
  user : y.user = x.user
  kind : y.kind = x.kind

theorem kept_onObject (x : Roll) (f : BufferObject → UserTable → BufferObject × UserTable) :
    Kept x (x.onObject f) := by
  unfold Roll.onObject
  split
  · exact ⟨rfl, rfl⟩
  · exact ⟨rfl, rfl⟩

theorem Turned.kept (h : Turned x y) : Kept x y := by
  obtain ⟨z, hz, hy⟩ := h
  have hz : Kept x z := by
    rcases hz with rfl | ⟨-, a, size, rfl⟩
    · exact ⟨rfl, rfl⟩
    · exact ⟨rfl, rfl⟩
  rcases hy with rfl | rfl
  · exact hz
  · unfold Roll.dismiss
    split
    · exact hz
    · exact ⟨hz.user, hz.kind⟩

theorem kept_rename (x : Roll) (a : Placement) (size : Nat) : Kept x (x.rename a size) := by
  unfold Roll.rename
  split
  · exact ⟨rfl, rfl⟩
  · exact ⟨rfl, rfl⟩

theorem object_rename (x : Roll) (a : Placement) (size : Nat) : (x.rename a size).object ≠ none := by
  unfold Roll.rename
  split
  · exact Option.some_ne_none _
  · exact Option.some_ne_none _

theorem kept_inform (x : Roll) : Kept x x.inform := by
  unfold Roll.inform
  split
  · split
    · exact ⟨rfl, rfl⟩
    · exact ⟨rfl, rfl⟩
  · exact ⟨rfl, rfl⟩

theorem object_inform (x : Roll) : x.inform.object = x.object := by
  unfold Roll.inform
  split
  · split
    · rfl
    · rfl
  · rfl

end Roll

open Roll

/-! ## 2. Deeds -/

namespace DeedKind

/-- The deeds that leave the users to themselves, apart from a new object. -/
def Joining : DeedKind → Prop
  | .users | .free | .rename _ => False
  | _ => True

/-- The deeds that leave the users to themselves, apart from an object that is given up. -/
def Leaving : DeedKind → Prop
  | .users | .make | .rename _ => False
  | _ => True

instance : Opens Joining := by apply Opens.of <;> trivial

instance : Closes Leaving := by apply Closes.of <;> trivial

end DeedKind

open DeedKind (Joining Leaving)

namespace Site

section Entries

variable {δ : Type}

theorem roll_restartBarriers (s : Site δ) :
    ({ s with buffer := s.buffer.restartBarriers } : Site δ).roll = s.roll := by
  obtain ⟨backend, hb, hk⟩ := Site.restartBarriers_eq s.buffer
  rw [hb]
  unfold roll
  rw [hk]

/-- No entry in the records is about the users. -/
theorem roll_entered {s : Site δ} {k : DeedKind} {b : Buffer} (h : s.buffer.Entry k b) :
    ({ s with buffer := b } : Site δ).roll = s.roll := by
  cases h with
  | restarted => exact roll_restartBarriers s
  | tracked hb =>
    unfold roll
    rw [hb]
    rfl
  | _ => rfl

end Entries

variable {δ : Type} [Device δ] {s t : Site δ} {k : DeedKind}

/-- **A deed that makes an object registers the buffer's own user.** -/
theorem Deed.grown (h : s.Deed k t) (hk : k.Joining) : Grown s.roll t.roll := by
  cases h with
  | entered h => exact .inl (roll_entered h)
  | @made _ a _ _ _ _ bare _ _ _ ho =>
    refine .inr ⟨bare, a, s.buffer.size, ?_⟩
    simp only [roll, Roll.adopt, ho]
  | users | freed | replaced | given => exact False.elim hk
  | _ => exact .inl rfl

/-- **A deed that gives the object up dismisses its users.** -/
theorem Deed.lost (h : s.Deed k t) (hk : k.Leaving) : Lost s.roll t.roll := by
  cases h with
  | entered h => exact .inl (roll_entered h)
  | freed ho settled j =>
    refine .inr ?_
    simp only [roll, Roll.dismiss, ho]
  | users | made | refused | replaced | given => exact False.elim hk
  | _ => exact .inl rfl

/-- **An object that is handed in is sent the users** of the one there was. -/
theorem Deed.roll_renamed {h : ObjectHandle} (hd : s.Deed (.rename h) t) :
    ∃ a : Placement, a.handle = h ∧ t.roll = s.roll.rename a s.buffer.size := by
  obtain ⟨backend, hb, hkind⟩ := Site.restartBarriers_eq s.buffer
  cases hd with
  | entered h => cases h
  | replaced hp ho j =>
    refine ⟨_, rfl, ?_⟩
    simp only [roll, Roll.rename, hp, ho, hb, hkind]
  | given bare ho =>
    refine ⟨_, rfl, ?_⟩
    simp only [roll, Roll.rename, Roll.adopt, bare, ho, hb, hkind]

end Site

/-! ## 3. Operations -/

section Leads

variable {δ α : Type}

/-- What the step does to the roll. -/
def Step.Leads (R : Roll → Roll → Prop) (p : Step (Site δ) α) : Prop :=
  ∀ s, p.Ends s fun _ t => R s.roll t.roll

/-- What the attempt does to the roll, whether it fails or not. -/
def Attempt.Leads (R : Roll → Roll → Prop) (a : Attempt (Site δ) α) : Prop :=
  ∀ s, a.Ends s fun _ t => R s.roll t.roll

variable [Device δ] {s t : Site δ} {R : Roll → Roll → Prop} {K : DeedKind → Prop}

/-- What one deed does to the roll, many of them do. -/
theorem Site.Deeds.leads [Std.Refl R] [Chain R R R] (h : Deeds K s t)
    (hR : ∀ k, K k → ∀ x y : Site δ, x.Deed k y → R x.roll y.roll) : R s.roll t.roll := by
  induction h with
  | here => exact Std.Refl.refl s.roll
  | next _ hk step ih => exact Chain.both ih (hR _ hk _ _ step)

theorem Site.Deeds.grown (h : Deeds Joining s t) : Grown s.roll t.roll :=
  h.leads fun _ hk _ _ hd => hd.grown hk

theorem Site.Deeds.lost (h : Deeds Leaving s t) : Lost s.roll t.roll :=
  h.leads fun _ hk _ _ hd => hd.lost hk

/-- **An object that is given up is not followed by another one.** -/
theorem Site.Phases.turned (h : Phases Joining Leaving s t) : Turned s.roll t.roll := by
  obtain ⟨u, hu, ht⟩ := h
  exact Chain.both hu.grown ht.lost

theorem Attempt.Leads.grown {a : Attempt (Site δ) α} (h : a.Relates (Site.Deeds Joining)) :
    a.Leads Grown := fun s => (h s).mono fun _ _ ht => ht.grown

end Leads

namespace Site

variable {δ : Type} [Device δ]

/-- A new buffer that is ready has the roll of a new one, or an object besides. -/
theorem openFresh_grown (pin : Bool) (data : Option ByteArray) (s : Site δ) :
    (openFresh pin data).Ends s fun r t => r = .ok () → Grown s.roll t.roll := by
  refine openFresh_ready ((Attempt.Leads.grown (openStorage_deeds pin) s).mono fun _ _ ht _ => ht)
    (fun _ _ ht => ht) fun d t _ ht => ?_
  have hfill : (fillFresh (Bytes.take d t.buffer.size)).Ends t fun _ u => Grown t.roll u.roll :=
    Attempt.Leads.grown (fillFresh_deeds trivial trivial trivial) t
  exact hfill.mono fun _ _ hu _ => Chain.both ht hu

end Site

/-- The roll of a buffer without an object, whose own user was just made. -/
def Roll.fresh (kind : BackendKind) (users : UserTable) : Roll :=
  ⟨none, users.add.1, kind, users.add.2⟩

/-- **A buffer that is created** has a user of its own, and at most an object besides. -/
theorem Machine.create_roll {δ : Type} [Device δ] (m : Machine δ) (request : BufferRequest)
    (data : Option ByteArray) (settings : Settings) :
    (create request data settings).Ends m fun r m' => ∀ b, r = .ok b →
      Grown (.fresh (Device.caps m.device).backend m.users) (Site.mk b m').roll := by
  refine create_opened fun _ backend objectAllowed hkind _ => ?_
  have hroll : (m.freshBuffer (request.granted settings) backend objectAllowed settings).roll =
      .fresh (Device.caps m.device).backend m.users :=
    congrArg (fun kind => Roll.mk none m.users.add.1 kind m.users.add.2) hkind
  rw [← hroll]
  exact Site.openFresh_grown _ data _

namespace Site

variable {δ : Type} [Device δ]

/-! ## 4. Users -/

omit [Device δ] in
theorem enlistUser_roll (u : UserId) (s : Site δ) : (enlistUser u).Ends s fun r t =>
    r = s.buffer.object.isSome ∧ t.roll = s.roll.onObject fun o t => o.enlist t u := by
  intro j
  unfold enlistUser
  simp only [Step.wp_bind, Step.wp_get]
  cases hobj : s.buffer.object with
  | none =>
    simp only [Step.wp_pure, roll, Roll.onObject, hobj]
    exact ⟨rfl, trivial⟩
  | some o =>
    simp only [Step.wp_bind, Step.wp_set, Step.wp_pure, roll, Roll.onObject, hobj]
    exact ⟨rfl, trivial⟩

omit [Device δ] in
theorem delistUser_roll (u : UserId) : (delistUser u : Step (Site δ) Unit).Leads fun x y =>
    y = x.onObject fun o t => o.delist t u := by
  intro s j
  unfold delistUser
  simp only [Step.wp_bind, Step.wp_get]
  cases hobj : s.buffer.object with
  | none => simp only [Step.wp_pure, roll, Roll.onObject, hobj]
  | some o => simp only [Step.wp_set, roll, Roll.onObject, hobj]

omit [Device δ] in
theorem objectInfo_roll (s : Site δ) :
    objectInfo.Ends s fun r t => r = s.roll.info ∧ t.roll = s.roll.inform := by
  intro j
  unfold objectInfo Roll.info Roll.inform
  simp only [Step.wp_bind, Step.wp_get]
  cases hb : s.buffer.backend with
  | modern tracker =>
    cases hobj : s.buffer.object with
    | none =>
      simp only [Step.wp_pure, roll, hb, hobj, Backend.kind]
      exact ⟨trivial, trivial⟩
    | some o =>
      cases hview : (s.machine.users.cell s.buffer.user).view with
      | none =>
        simp only [Step.wp_bind, Step.wp_set, Step.wp_pure, roll, hb, hobj, Backend.kind, hview,
          UserCell.hasView, Option.isSome_none, Bool.false_eq_true, if_false, Option.getD_none]
        exact ⟨rfl, trivial⟩
      | some v =>
        simp only [Step.wp_pure, roll, hb, hobj, Backend.kind, hview, UserCell.hasView,
          Option.isSome_some, if_true, Option.getD_some]
        exact ⟨trivial, trivial⟩
  | noObject =>
    simp only [Step.wp_pure, roll, hb, Backend.kind]
    exact ⟨trivial, trivial⟩
  | legacy target =>
    simp only [Step.wp_pure, roll, hb, Backend.kind]
    exact ⟨trivial, trivial⟩

end Site

/-! ## 5. Calls -/

section Calls

variable {δ : Type} [Device δ]

open Site

namespace Call

/-- The user that a call is about. -/
def subject? : Call → Option UserId
  | enlist u | delist u => some u
  | _ => none

/-- **What a call does to the roll of a buffer**: it is about a user, or it asks for the view of the
    object, or it hands in the object that it consumes, or none of them. -/
inductive Changes (c : Call) (b : Buffer) (x : Roll) : Roll → Prop where
  | enlist (u : UserId) (hc : c = .enlist u) : Changes c b x (x.onObject fun o t => o.enlist t u)
  | delist (u : UserId) (hc : c = .delist u) : Changes c b x (x.onObject fun o t => o.delist t u)
  | info (hc : c = .info) : Changes c b x x.inform
  | rename (a : Placement) (hc : c.consumed? b = some a.handle) : Changes c b x (x.rename a b.size)
  | turned {y : Roll} (hc : c.consumed? b = none) (h : Turned x y) : Changes c b x y

/-- A call that is about no user and asks for no view hands in the object that it consumes. -/
theorem perform_rest (c : Call) (s : Site δ) (hsubject : c.subject? = none) (hinfo : c ≠ .info) :
    c.perform.Ends s fun _ t => c.Changes s.buffer s.roll t.roll := by
  have hpermitted (hcopied : ∀ u offset size, c = .complete (.upload u offset size) →
      u.rename = false) (hrename : ∀ a, c ≠ .rename a) : c.Permitted Joining := by
    cases c with
    | complete op =>
      exact Operation.permitted trivial (fun _ => trivial) (fun _ _ => trivial) (fun _ _ => trivial)
        fun u offset size he hr =>
          absurd ((hcopied u offset size (congrArg _ he)).symm.trans hr) Bool.false_ne_true
    | enlist u | delist u => exact absurd hsubject (Option.some_ne_none u)
    | info => exact absurd rfl hinfo
    | rename a => exact absurd rfl (hrename a)
    | map => exact fun _ => trivial
    | copy => exact ⟨trivial, trivial⟩
    | unmap | poke | address | declareCurrent | declareStale | lend | barrier => trivial
  refine (c.perform_splits (K := Joining) (L := Leaving) s id hpermitted).mono fun _ t ht => ?_
  cases hc : c.consumed? s.buffer with
  | none =>
    rw [hc] at ht
    exact .turned hc ht.turned
  | some h =>
    rw [hc] at ht
    obtain ⟨u, hu, ht⟩ := ht
    obtain ⟨a, rfl, hroll⟩ := hu.roll_renamed
    -- the object that was handed in is there, so that no other one is made
    have hsame : t.roll = u.roll := by
      rcases ht.grown with hsame | ⟨hbare, -⟩
      · exact hsame
      · rw [hroll] at hbare
        exact absurd hbare (object_rename _ _ _)
    rw [hsame, hroll]
    exact .rename a hc

/-- **Every call changes the roll in one of these ways**, whatever the device answers. -/
theorem perform_roll (c : Call) (s : Site δ) :
    c.perform.Ends s fun _ t => c.Changes s.buffer s.roll t.roll := by
  cases c with
  | enlist u =>
    exact Step.Ends.answering (P := fun t => (enlist u).Changes s.buffer s.roll t.roll)
      (.discarding ((enlistUser_roll u s).mono fun _ t ht => by rw [ht.2]; exact .enlist u rfl)) none
  | delist u =>
    exact Step.Ends.answering (P := fun t => (delist u).Changes s.buffer s.roll t.roll)
      ((delistUser_roll u s).mono fun _ t ht => by rw [ht]; exact .delist u rfl) none
  | info =>
    exact Step.Ends.answering (P := fun t => info.Changes s.buffer s.roll t.roll)
      (.discarding ((objectInfo_roll s).mono fun _ t ht => by rw [ht.2]; exact .info rfl)) none
  | _ => exact perform_rest _ s rfl fun h => by cases h

/-! Whatever a call changes, the backend and the own user are chosen once. -/

theorem Changes.kept {c : Call} {b : Buffer} {x y : Roll} (h : c.Changes b x y) : Kept x y := by
  cases h with
  | enlist u hc => exact kept_onObject x _
  | delist u hc => exact kept_onObject x _
  | info hc => exact kept_inform x
  | rename a hc => exact kept_rename x a _
  | turned hc h => exact h.kept

end Call

end Calls

end BufferCoherence
