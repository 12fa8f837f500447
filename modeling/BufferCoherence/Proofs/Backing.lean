import BufferCoherence.Proofs.Sparing

/-!
# What operations leave of the shadow

What becomes of the shadow of a buffer, of the locations and of the conversion map, whatever the
device answers and whether the operation fails or not.

* `Buffer.Sized`: the shadow and the record of changed spans are those of a buffer of its size;
* `Buffer.Grounded`: besides, a pinned shadow is current as long as the content is cleared;
* `Buffer.Upholds` is the relation between before and after: what was grounded stays so, nothing is
  cleared or converted that was not, and what was pinned stays pinned. So it is with every deed but
  the analysis of a layout, which may bring a map, and what the client declares
  (`Site.Deed.upholds`);
* `refreshWith_fails` says from where an attempt to make a copy current can fail.
-/

namespace BufferCoherence

/-! ## 1. The invariant -/

namespace Buffer

/-- The shadow is as large as the buffer, and so is what is recorded as changed. -/
structure Sized (b : Buffer) : Prop where
  shadow : ∀ m, b.shadow = some m → m.size = b.size ∧ b.size ≤ Bytes.largestRun
  dirty : b.dirty.size = b.size

/-- Cleared content is not discarded, and while the content is cleared a pinned shadow is current. -/
structure Grounded (b : Buffer) : Prop extends Sized b where
  kept : b.locations.has Location.cleared = true → b.locations.has Location.discarded = false
  mirrored : b.pinned = true → b.locations.has Location.cleared = true →
    b.locations.has Location.sysmem = true

/-- Neither the shadow and its use nor the locations and the map change. -/
structure Resembles (b b' : Buffer) : Prop where
  size : b'.size = b.size
  dirty : b'.dirty.size = b.dirty.size
  locations : b'.locations = b.locations
  shadow : b'.shadow = b.shadow
  pinned : b'.pinned = b.pinned
  conversion : b'.conversion = b.conversion

/-- What was grounded stays so: nothing is cleared or converted that was not, and a pinned shadow
    stays pinned. -/
structure Upholds (b b' : Buffer) : Prop where
  size : b'.size = b.size
  cleared : b'.locations.has Location.cleared = true → b.locations.has Location.cleared = true
  pinned : b.pinned = true → b'.pinned = true
  converted : b'.isConverted = true → b.isConverted = true
  sized : b.Sized → b'.Sized
  grounded : b.Grounded → b'.Grounded

variable {b b' b'' : Buffer}

theorem Resembles.refl (b : Buffer) : b.Resembles b := ⟨rfl, rfl, rfl, rfl, rfl, rfl⟩

theorem Resembles.trans (h : b.Resembles b') (h' : b'.Resembles b'') : b.Resembles b'' :=
  ⟨h'.size.trans h.size, h'.dirty.trans h.dirty, h'.locations.trans h.locations,
    h'.shadow.trans h.shadow, h'.pinned.trans h.pinned, h'.conversion.trans h.conversion⟩

theorem Upholds.refl (b : Buffer) : b.Upholds b :=
  ⟨rfl, fun h => h, fun h => h, fun h => h, fun h => h, fun h => h⟩

theorem Upholds.trans (h : b.Upholds b') (h' : b'.Upholds b'') : b.Upholds b'' :=
  ⟨h'.size.trans h.size, h.cleared ∘ h'.cleared, h'.pinned ∘ h.pinned, h.converted ∘ h'.converted,
    h'.sized ∘ h.sized, h'.grounded ∘ h.grounded⟩

theorem Resembles.sized (h : b.Resembles b') (hs : b.Sized) : b'.Sized :=
  ⟨by rw [h.shadow, h.size]; exact hs.shadow, h.dirty.trans (hs.dirty.trans h.size.symm)⟩

/-- The spans of the buffer may change, and its locations may. -/
theorem Sized.respanned (h : b.Sized) {dirty : DirtySpans} (hd : dirty.size = b.dirty.size)
    (locations : Location) : { b with dirty, locations }.Sized :=
  ⟨h.shadow, hd.trans h.dirty⟩

theorem Sized.markValid (h : b.Sized) (l : Location) : (b.markValid l).Sized :=
  h.respanned (by split <;> rfl) _

theorem Sized.markStale (h : b.Sized) (l : Location) (offset size : Nat) :
    (b.markStale l offset size).Sized :=
  h.respanned (by split <;> simp) _

/-- Other records than those of the shadow and its use. -/
theorem Upholds.records (h : b.Resembles b') : b.Upholds b' where
  size := h.size
  cleared hc := h.locations ▸ hc
  pinned hp := h.pinned.trans hp
  converted hconv := (congrArg (·.map.isSome) h.conversion).symm.trans hconv
  sized hs := h.sized hs
  grounded hg := ⟨h.sized hg.toSized, by rw [h.locations]; exact hg.kept,
    by rw [h.pinned, h.locations]; exact hg.mirrored⟩

theorem upholds_markValid (b : Buffer) {l : Location} (hl : l.has Location.cleared = false)
    (hd : l.has Location.discarded = true → b.locations.has Location.cleared = false) :
    b.Upholds (b.markValid l) := by
  have hcleared : (b.markValid l).locations.has Location.cleared =
      b.locations.has Location.cleared := by simp [markValid, hl]
  refine ⟨rfl, fun hc => hcleared ▸ hc, fun h => h, fun h => h, fun h => h.markValid l, fun h =>
    ⟨h.toSized.markValid l, fun hc => ?_, fun hp hc => ?_⟩⟩
  · rw [hcleared] at hc
    have hno : l.has Location.discarded = false :=
      (Bool.not_eq_true _).mp fun hd' => absurd ((hd hd').symm.trans hc) Bool.false_ne_true
    simp [markValid, h.kept hc, hno]
  · rw [hcleared] at hc
    simp [markValid, h.mirrored hp hc]

/-- The shadow may become stale where cleared content is written, or where nothing pins it. -/
theorem upholds_markStale (b : Buffer) {l : Location}
    (hl : l.has Location.sysmem = true → l.has Location.cleared = true ∨ b.pinned = false)
    (offset size : Nat) : b.Upholds (b.markStale l offset size) := by
  have hcleared : (b.markStale l offset size).locations.has Location.cleared =
      (b.locations.has Location.cleared && !l.has Location.cleared) := by simp [markStale]
  have hwas : (b.markStale l offset size).locations.has Location.cleared = true →
      b.locations.has Location.cleared = true ∧ l.has Location.cleared = false := by
    rw [hcleared, Bool.and_eq_true, Bool.not_eq_true']
    exact fun h => h
  refine ⟨rfl, fun hc => (hwas hc).1, fun h => h, fun h => h,
    fun h => h.markStale l offset size, fun h =>
      ⟨h.toSized.markStale l offset size, fun hc => ?_, fun hp hc => ?_⟩⟩
  · simp [markStale, h.kept (hwas hc).1]
  · have hno : l.has Location.sysmem = false := (Bool.not_eq_true _).mp fun hs => by
      rcases hl hs with hl | hloose
      · exact absurd ((hwas hc).2.symm.trans hl) Bool.false_ne_true
      · exact absurd (hloose.symm.trans hp) Bool.false_ne_true
    simp [markStale, h.mirrored hp (hwas hc).1, hno]

theorem resembles_restartBarriers (b : Buffer) : b.Resembles b.restartBarriers := by
  obtain ⟨backend, hb, -⟩ := Site.restartBarriers_eq b
  rw [hb]
  exact ⟨rfl, rfl, rfl, rfl, rfl, rfl⟩

/-- A shadow that fits. -/
theorem upholds_shadow (b : Buffer) {m : ByteArray}
    (hm : b.Sized → m.size = b.size ∧ b.size ≤ Bytes.largestRun) :
    b.Upholds { b with shadow := some m } :=
  have hsized (h : b.Sized) : { b with shadow := some m }.Sized :=
    ⟨fun _ hsome => Option.some.inj hsome ▸ hm h, h.dirty⟩
  ⟨rfl, fun h => h, fun h => h, fun h => h, hsized, fun h =>
    ⟨hsized h.toSized, h.kept, h.mirrored⟩⟩

/-- The bytes of a shadow that is there. -/
theorem upholds_rewrite {m m' : ByteArray} (hm : b.shadow = some m) (hsize : m'.size = m.size) :
    b.Upholds { b with shadow := some m' } :=
  b.upholds_shadow fun h => hsize ▸ h.shadow m hm

/-- A current shadow may be pinned. -/
theorem upholds_pinned (b : Buffer) (hs : b.locations.has Location.sysmem = true) :
    b.Upholds { b with pinned := true } :=
  ⟨rfl, fun h => h, fun _ => rfl, fun h => h, fun h => ⟨h.shadow, h.dirty⟩,
    fun h => ⟨⟨h.shadow, h.dirty⟩, h.kept, fun _ _ => hs⟩⟩

/-- The shadow may go. -/
theorem upholds_without (b : Buffer) : b.Upholds { b with shadow := none } :=
  ⟨rfl, fun h => h, fun h => h, fun h => h, fun h => ⟨nofun, h.dirty⟩,
    fun h => ⟨⟨nofun, h.dirty⟩, h.kept, h.mirrored⟩⟩

/-- A new buffer may be made to keep its shadow. -/
theorem upholds_keptFresh (b : Buffer) :
    b.Upholds { b with pinned := true, locations := Location.sysmem } := by
  have hno {P : Prop} (hc : Location.sysmem.has Location.cleared = true) : P :=
    absurd (Location.apart.1.2.2.symm.trans hc) Bool.false_ne_true
  exact ⟨rfl, fun hc => hno hc, fun _ => rfl, fun h => h, fun h => ⟨h.shadow, h.dirty⟩,
    fun h => ⟨⟨h.shadow, h.dirty⟩, fun hc => hno hc, fun _ hc => hno hc⟩⟩

/-- A buffer without an object converts nothing. -/
theorem upholds_vacated (b : Buffer) :
    b.Upholds { b with dirty := b.dirty.clear, conversion := .fresh } :=
  ⟨rfl, fun h => h, fun h => h, fun h => absurd h Bool.false_ne_true,
    fun h => ⟨h.shadow, h.dirty⟩, fun h => ⟨⟨h.shadow, h.dirty⟩, h.kept, h.mirrored⟩⟩

end Buffer

namespace Site

variable {δ : Type} {s t : Site δ}

/-- What happens to the buffer is steady. -/
def Upholds (s t : Site δ) : Prop := s.buffer.Upholds t.buffer

/-- Nothing happens to the bytes of the buffer outside of its object. -/
def Resembles (s t : Site δ) : Prop := s.buffer.Resembles t.buffer

instance : IsPreorder (Site δ) Resembles where
  refl s := .refl s.buffer
  trans _ _ _ h h' := Buffer.Resembles.trans h h'

instance : IsPreorder (Site δ) Upholds where
  refl s := .refl s.buffer
  trans _ _ _ h h' := Buffer.Upholds.trans h h'

end Site

/-! ## 2. Deeds -/

/-- No layout is analysed, nothing is current or stale because the client says so, and no bytes are
    taken as a shadow. -/
def DeedKind.Steady : DeedKind → Prop
  | .analyse | .claim | .disclaim .. | .seed => False
  | _ => True

instance : DeedKind.Maps DeedKind.Steady := .of (by apply DeedKind.Opens.of <;> trivial) trivial

theorem Buffer.Entry.upholds {b b' : Buffer} {k : DeedKind} (h : b.Entry k b') (hk : k.Steady) :
    b.Upholds b' := by
  cases h with
  | valid hl hd blank => exact b.upholds_markValid hl hd
  | stale offset size hl => exact b.upholds_markStale hl offset size
  | dirtied => exact .records ⟨rfl, DirtySpans.size_mark _ _ _, rfl, rfl, rfl, rfl⟩
  | shadowed room => exact b.upholds_shadow fun _ => ⟨Bytes.size_zeros _, room⟩
  | zeroed hm => exact upholds_rewrite hm (Bytes.size_zeros _)
  | loaded hm hsize | copied _ hm hsize | poked hm hsize => exact upholds_rewrite hm hsize
  | pinned hs => exact b.upholds_pinned hs
  | keptFresh => exact b.upholds_keptFresh
  | released | discarded => exact b.upholds_without
  | vacated => exact b.upholds_vacated
  | restarted => exact .records b.resembles_restartBarriers
  | flushed | forbidden | counted | tracked | held =>
    exact .records ⟨rfl, rfl, rfl, rfl, rfl, rfl⟩
  | claimed | disclaimed | seeded | sown | analysed => exact False.elim hk

namespace Site

/-- **What a deed does to the buffer is steady.** No call of the device touches it. -/
theorem Deed.upholds {δ : Type} [Device δ] {s t : Site δ} {k : DeedKind} (h : s.Deed k t)
    (hk : k.Steady) : Upholds s t := by
  cases h with
  | entered h => exact h.upholds hk
  | made => exact .records ⟨rfl, DirtySpans.size_markAll _, rfl, rfl, rfl, rfl⟩
  | users | freed => exact .records ⟨rfl, rfl, rfl, rfl, rfl, rfl⟩
  | replaced | given =>
    exact .records (s.buffer.resembles_restartBarriers.trans ⟨rfl, rfl, rfl, rfl, rfl, rfl⟩)
  | _ => exact .refl s.buffer

end Site

section Upholds

open Site

variable {δ α : Type} [Device δ]

theorem Step.Relates.upholds {p : Step (Site δ) α} (h : p.Relates (Deeds DeedKind.Steady)) :
    p.Relates Upholds := fun s => (h s).mono fun _ _ ht => ht.relates fun _ hk _ _ hd =>
  hd.upholds hk

theorem Attempt.Relates.upholds {a : Attempt (Site δ) α}
    (h : a.Relates (Deeds DeedKind.Steady)) : a.Relates Upholds := fun s =>
  (h s).mono fun _ _ ht => ht.relates fun _ hk _ _ hd => hd.upholds hk

end Upholds

namespace Site

variable {δ α : Type} {s t : Site δ}

/-! ## 3. Making a copy current -/

/-- What is current is not made current. -/
theorem wp_refreshWith_of_current {target : Location} {prepare : Step (Site δ) Bool}
    {load : Attempt (Site δ) Unit} {settle : Step (Site δ) Unit} {j : Journal}
    (h : s.buffer.locations.has target = true)
    (Q : Except Failure Unit → Site δ → Journal → Prop) :
    (refreshWith target prepare load settle).wp s j Q ↔ Q (.ok ()) s j := by
  unfold refreshWith
  simp only [Attempt.wp_bind, Attempt.wp_always, wp_current, Attempt.wp_ite, h, if_true,
    Attempt.wp_pure]

/-- An attempt to make a copy current fails for want of storage, or while the bytes are loaded, and
    only where the copy was not current. -/
theorem refreshWith_fails {target : Location} {prepare : Step (Site δ) Bool}
    {load : Attempt (Site δ) Unit} {settle : Step (Site δ) Unit} {P : Site δ → Prop}
    (hempty : s.buffer.locations.isEmpty = false)
    (hp : s.buffer.locations.has target = false → prepare.Ends s fun ready t =>
      (ready = false → P t) ∧
        (ready = true → t.buffer.locations.has Location.discarded = false →
          load.Ends t fun r u => (∃ f, r = .error f) → P u)) :
    (refreshWith target prepare load settle).Ends s fun r t => (∃ f, r = .error f) → P t := by
  have hok {x : Unit} {Q : Prop} : (∃ f, (Except.ok x : Except Failure Unit) = .error f) → Q := by
    rintro ⟨f, hf⟩
    cases hf
  intro j
  unfold refreshWith
  simp only [Attempt.wp_bind, Attempt.wp_always, wp_current, Attempt.wp_ite]
  split
  · exact hok
  · rename_i htarget
    rw [wp_giveUpLost hempty, Attempt.wp_note]
    refine (hp ((Bool.not_eq_true _).mp htarget)).wp fun ready t k ht => ?_
    obtain ⟨hno, hyes⟩ := ht
    cases ready with
    | false => exact fun _ => hno rfl
    | true =>
      simp only [Bool.not_true, Bool.false_eq_true, if_false]
      split
      · exact hok
      · rename_i hkept
        refine (hyes rfl ((Bool.not_eq_true _).mp hkept)).wp fun r u l hu => ?_
        cases r with
        | error f => exact hu
        | ok _ => exact hok

/-! ## 4. The object -/

theorem objectRefused_resembles (f : Failure) :
    (objectRefused f : Step (Site δ) Unit).Relates Resembles := by
  refine .bind (fun s _ => .refl s.buffer) fun b => ?_
  split
  · exact .bind (.note _) fun _ _ _ => ⟨rfl, rfl, rfl, rfl, rfl, rfl⟩
  · exact .note _

/-- **To make an object exist changes nothing else.** -/
theorem reserveObject_resembles [Device δ] :
    (reserveObject : Step (Site δ) Bool).Relates Resembles := by
  have hcurrent : (current : Step (Site δ) Buffer).Relates Resembles := fun s _ => .refl s.buffer
  have hnew (request : ObjectRequest) :
      (newObject request : Attempt (Site δ) Unit).Relates Resembles :=
    .bind (fun s _ => .refl s.buffer) fun _ => .bind (.always hcurrent) fun _ =>
      .bind (.always fun _ _ => ⟨rfl, rfl, rfl, rfl, rfl, rfl⟩) fun _ => .note _
  refine .bind hcurrent fun b => ?_
  split
  · exact .bind (.note _) fun _ => .pure _
  · refine .ite (.pure _) (.ite (.bind (.note _) fun _ => .pure _) (.bind (.noteAll _) fun _ =>
      .bind (.outcome (hnew _)) fun r => ?_))
    split
    · exact .bind (fun s _ => s.buffer.resembles_restartBarriers) fun _ => .pure _
    · exact .bind (objectRefused_resembles _) fun _ => .pure _

end Site

end BufferCoherence
