import BufferCoherence.Proofs.Moves
import BufferCoherence.Proofs.Phases

/-!
# The moves of every operation

Which kinds of moves a definition consists of, whatever the device answers and whether the operation
fails or not. A deed is one move or two (`Site.Deed.moves`), so that the deeds of an operation say
it. The kinds grow from layer to layer:

* bringing bytes to storage that is there is `MoveKind.inPlace`, and making a copy current
  `MoveKind.loading`: an object may be made, and the shadow released once it was loaded;
* giving the object up is `MoveKind.unloading`, a draw is both (`MoveKind.drawing`), and mapping adds
  the shadow that is thrown away, and what is mapped (`MoveKind.mapping`).
-/

namespace BufferCoherence

/-! ## 1. Kinds -/

namespace MoveKind

/-- All storage stays. -/
def inPlace : List MoveKind := [book, call]

/-- A copy is made current. -/
def loading : List MoveKind := [book, call, make, release]

/-- The object is given up. -/
def unloading : List MoveKind := [book, call, free]

/-- A copy is made current, or the object is given up. -/
def drawing : List MoveKind := [book, call, make, release, free]

/-- A mapping is ended. -/
def holding : List MoveKind := [book, call, hold]

/-- A range is mapped. -/
def mapping : List MoveKind := [book, call, make, release, free, discard, hold]

theorem inPlace_loading : inPlace ⊆ loading := by simp [inPlace, loading]

theorem inPlace_unloading : inPlace ⊆ unloading := by simp [inPlace, unloading]

theorem loading_drawing : loading ⊆ drawing := by simp [loading, drawing]

theorem unloading_drawing : unloading ⊆ drawing := by simp [unloading, drawing]

theorem inPlace_drawing : inPlace ⊆ drawing := List.Subset.trans inPlace_loading loading_drawing

theorem drawing_mapping : drawing ⊆ mapping := by simp [drawing, mapping]

theorem loading_mapping : loading ⊆ mapping := List.Subset.trans loading_drawing drawing_mapping

theorem inPlace_mapping : inPlace ⊆ mapping := List.Subset.trans inPlace_drawing drawing_mapping

theorem inPlace_holding : inPlace ⊆ holding := by simp [inPlace, holding]

theorem holding_mapping : holding ⊆ mapping := by simp [holding, mapping]

theorem unloading_mapping : unloading ⊆ mapping := List.Subset.trans unloading_drawing drawing_mapping

theorem call_inPlace : call ∈ inPlace := by simp [inPlace]

end MoveKind

open MoveKind

open DeedKind (InPlace Loads Unloads Holds Opens Maps)

/-! ## 2. Records -/

namespace Buffer

variable {b : Buffer}

/-- Other records than those of the storage and of the uses. -/
theorem Evolves.records {b' : Buffer} (hu : b'.usage = b.usage)
    (hk : b'.backend.kind = b.backend.kind) (hp : b'.pinned = b.pinned)
    (ha : b'.objectAllowed = b.objectAllowed) (hs : b'.shadow = b.shadow)
    (ho : b'.object = b.object) (hc : b'.mapCount = b.mapCount) (hb : b'.mapBase = b.mapBase) :
    b.Evolves b' :=
  ⟨hu, hk, fun h => hp.trans h, fun h => ha.symm.trans h, fun h => by rw [hs]; exact h, by rw [ho],
    hc, hb⟩

theorem evolves_markValid (b : Buffer) (l : Location) : b.Evolves (b.markValid l) :=
  .records rfl rfl rfl rfl rfl rfl rfl rfl

theorem evolves_markStale (b : Buffer) (l : Location) (offset size : Nat) :
    b.Evolves (b.markStale l offset size) :=
  .records rfl rfl rfl rfl rfl rfl rfl rfl

theorem evolves_restartBarriers (b : Buffer) : b.Evolves b.restartBarriers := by
  obtain ⟨backend, hb, hk⟩ := Site.restartBarriers_eq b
  rw [hb]
  exact .records rfl hk rfl rfl rfl rfl rfl rfl

/-- A shadow that is there changes its bytes. -/
theorem evolves_shadow (b : Buffer) (m : ByteArray) : b.Evolves { b with shadow := some m } :=
  ⟨rfl, rfl, fun h => h, fun h => h, fun _ => rfl, rfl, rfl, rfl⟩

/-- The users of the object change, or which of its bytes are out of date. -/
theorem evolves_object (b : Buffer) {object : Option BufferObject}
    (h : object.map (·.handle) = b.object.map (·.handle)) (dirty : DirtySpans) :
    b.Evolves { b with object, dirty } :=
  ⟨rfl, rfl, fun h => h, fun h => h, fun h => h, h, rfl, rfl⟩

end Buffer

/-! ## 3. Deeds -/

namespace DeedKind

/-- The kinds of moves that a deed consists of. -/
def moves : DeedKind → List MoveKind
  | .book | .report .. | .claim | .disclaim .. | .analyse | .seed | .users => [.book]
  | .call | .load => [.call]
  | .copy _ | .poke => inPlace
  | .hold => [.hold]
  | .release => [.release]
  | .discard => [.discard]
  | .make => [.book, .make]
  | .free => [.book, .free]
  | .rename h => .rename h :: inPlace

/-- The deeds that consist of moves of the kinds `K`. -/
def Within (K : List MoveKind) (k : DeedKind) : Prop := k.moves ⊆ K

theorem Within.mono {K K' : List MoveKind} {k : DeedKind} (h : k.Within K) (hK : K ⊆ K') :
    k.Within K' := List.Subset.trans h hK

theorem Within.booked {K : List MoveKind} {k : DeedKind} (hk : k.moves = [.book])
    (hK : inPlace ⊆ K) : k.Within K := by
  unfold Within
  rw [hk]
  exact List.cons_subset.mpr ⟨hK List.mem_cons_self, List.nil_subset K⟩

theorem Within.brings {K : List MoveKind} {k : DeedKind} (hk : k.moves = inPlace)
    (hK : inPlace ⊆ K) : k.Within K := by
  unfold Within
  rw [hk]
  exact hK

instance : InPlace (Within inPlace) where
  book := by simp [Within, moves, inPlace]
  report := by simp [Within, moves, inPlace]
  call := by simp [Within, moves, inPlace]
  load := by simp [Within, moves, inPlace]

instance : Loads (Within loading) where
  toInPlace := InPlace.mono (K := Within inPlace) fun _ h => h.mono inPlace_loading
  make := by simp [Within, moves, loading]
  release := by simp [Within, moves, loading]

instance : Unloads (Within unloading) where
  toInPlace := InPlace.mono (K := Within inPlace) fun _ h => h.mono inPlace_unloading
  free := by simp [Within, moves, unloading]

instance : Loads (Within drawing) := .mono (K := Within loading) fun _ h => h.mono loading_drawing

instance : Unloads (Within drawing) :=
  .mono (K := Within unloading) fun _ h => h.mono unloading_drawing

instance : Holds (Within holding) where
  toInPlace := InPlace.mono (K := Within inPlace) fun _ h => h.mono inPlace_holding
  hold := by simp [Within, moves, holding]

instance : Opens (Within mapping) where
  toLoads := Loads.mono (K := Within loading) fun _ h => h.mono loading_mapping
  hold := by simp [Within, moves, mapping]
  discard := by simp [Within, moves, mapping]

instance : Maps (Within mapping) := .of inferInstance (by simp [Within, moves, mapping])

end DeedKind

namespace Site

variable {δ : Type} [Device δ] {K : List MoveKind} {s t : Site δ}

/-- An entry is one move. -/
theorem Deed.entry_moves {b : Buffer} {k : DeedKind} (h : s.buffer.Entry k b) :
    Moves k.moves s { s with buffer := b } := by
  have hbook {k : DeedKind} {b : Buffer} (he : s.buffer.Evolves b) (hk : .book ∈ k.moves) :
      Moves k.moves s { s with buffer := b } := .one (.book he s.machine.users) hk
  cases h with
  | valid | sown | claimed => exact hbook (s.buffer.evolves_markValid _) List.mem_cons_self
  | stale | disclaimed => exact hbook (s.buffer.evolves_markStale _ _ _) List.mem_cons_self
  | shadowed | zeroed | loaded | copied | poked | seeded =>
    exact hbook (s.buffer.evolves_shadow _) List.mem_cons_self
  | dirtied | flushed | vacated | counted | analysed =>
    exact hbook (.records rfl rfl rfl rfl rfl rfl rfl rfl) List.mem_cons_self
  | pinned | keptFresh =>
    exact hbook ⟨rfl, rfl, fun _ => rfl, fun h => h, fun h => h, rfl, rfl, rfl⟩ List.mem_cons_self
  | forbidden =>
    exact hbook ⟨rfl, rfl, fun h => h, fun h => absurd h Bool.false_ne_true, fun h => h, rfl, rfl,
      rfl⟩ List.mem_cons_self
  | tracked hb =>
    exact hbook (.records rfl (by rw [hb]; rfl) rfl rfl rfl rfl rfl rfl) List.mem_cons_self
  | restarted => exact hbook s.buffer.evolves_restartBarriers List.mem_cons_self
  | released loose steady => exact .one (.released loose steady) List.mem_cons_self
  | discarded loose => exact .one (.discarded loose) List.mem_cons_self
  | held mapCount mapBase => exact .one (.held mapCount mapBase) List.mem_cons_self

/-- One object handed in takes the place of the one there was; before and after it, all storage
    stays. -/
def Renames (h : ObjectHandle) (s t : Site δ) : Prop :=
  ∃ u v, Moves inPlace s u ∧ u.Move (.rename h) v ∧ Moves inPlace v t

theorem Renames.after {s t u : Site δ} {h : ObjectHandle} (hs : Renames h s t)
    (ht : Moves inPlace t u) : Renames h s u := by
  obtain ⟨v, w, hv, hw, hu⟩ := hs
  exact ⟨v, w, hv, hw, hu.trans ht⟩

theorem Renames.moves {s t : Site δ} {h : ObjectHandle} (hs : Renames h s t) :
    Moves (.rename h :: inPlace) s t := by
  obtain ⟨u, v, hu, hv, ht⟩ := hs
  have hsub : inPlace ⊆ MoveKind.rename h :: inPlace := List.subset_cons_self _ _
  exact (Moves.next (hu.mono hsub) List.mem_cons_self hv).trans (ht.mono hsub)

/-- Where all storage stays, the buffer has the object it had. -/
theorem Moves.handle {s t : Site δ} (h : Moves inPlace s t) :
    t.buffer.object.map (·.handle) = s.buffer.object.map (·.handle) :=
  h.keeps (P := fun x => x.buffer.object.map (·.handle) = s.buffer.object.map (·.handle))
    (fun k hk x y step hx => by
      cases step with
      | book h => exact h.object.trans hx
      | call => exact hx
      | _ => simp [inPlace] at hk) rfl

/-- The object handed in is the object of the buffer afterwards. -/
theorem Renames.handle {s t : Site δ} {h : ObjectHandle} (hs : Renames h s t) :
    t.buffer.object.map (·.handle) = some h := by
  obtain ⟨u, v, -, hv, ht⟩ := hs
  rw [ht.handle]
  generalize hk : MoveKind.rename h = k at hv
  cases hv with
  | replaced | given =>
    cases hk
    rfl
  | _ => cases hk

/-- What took the place of the object is in use. -/
theorem Renames.usesObject {s t : Site δ} {h : ObjectHandle} (hs : Renames h s t) :
    t.buffer.usesObject h = true := by
  obtain ⟨o, ho, hh⟩ := Option.map_eq_some_iff.mp hs.handle
  unfold Buffer.usesObject
  rw [ho, Option.any_some, hh, beq_self_eq_true]

/-- The barriers start over, and the users are told, before the object is put in place. -/
theorem Deed.renames {h : ObjectHandle} (hd : s.Deed (.rename h) t) : Renames h s t := by
  have hbefore (users : UserTable) :
      Moves inPlace s ⟨s.buffer.restartBarriers, { s.machine with users }⟩ :=
    .one (.book s.buffer.evolves_restartBarriers users) List.mem_cons_self
  cases hd with
  | entered h => cases h
  | @replaced p p' o users hp a ho j =>
    have hreplaced := Move.replaced (o := o)
      (s := ⟨s.buffer.restartBarriers, { s.machine with users }⟩)
      ((object_restartBarriers _).trans hp) j
    rw [show o.handle = a.handle from handle_of_moveUsers ho] at hreplaced
    exact ⟨_, _, hbefore users, hreplaced, .here⟩
  | @given bare a o users ho =>
    have hgiven := Move.given (o := o)
      (s := ⟨s.buffer.restartBarriers, { s.machine with users }⟩)
      ((object_restartBarriers _).trans bare)
    rw [show o.handle = a.handle from handle_of_enlist ho] at hgiven
    exact ⟨_, _, hbefore users, hgiven, .here⟩

/-- **A deed is one move or two.** -/
theorem Deed.moves {k : DeedKind} (h : s.Deed k t) : Moves k.moves s t := by
  have hquiet {k : DeedKind} {d : δ} (hq : Device.Quiet s.machine.device d)
      (hk : .call ∈ k.moves) : Moves k.moves s { s with machine.device := d } :=
    .one (.call hq) hk
  cases h with
  | entered h => exact entry_moves h
  | users same users =>
    exact .one (.book (s.buffer.evolves_object same s.buffer.dirty) users) List.mem_cons_self
  | made allowed bare h ho =>
    refine .next (.one (.made s.buffer.size bare h) (by simp [DeedKind.moves])) List.mem_cons_self
      (.book (Buffer.evolves_object _ ?_ _) _)
    exact congrArg some (handle_of_enlist ho)
  | refused allowed h => exact .one (.refused h) (by simp [DeedKind.moves])
  | @freed o ho settled j =>
    have hfreed := Move.freed
      (s := ⟨s.buffer, { s.machine with users := (o.dismissUsers s.machine.users).2 }⟩) ho j
    exact .next (.one (.book (.refl s.buffer) _) List.mem_cons_self) (by simp [DeedKind.moves])
      hfreed
  | replaced hp ho j => exact (Deed.replaced hp ho j).renames.moves
  | given bare ho => exact (Deed.given bare ho).renames.moves
  | opened => exact hquiet (.openMapping _ _ _ _ _) List.mem_cons_self
  | closed => exact hquiet (.closeMapping _ _ _) List.mem_cons_self
  | captured => exact hquiet (.endCapture _) List.mem_cons_self
  | fenced => exact hquiet (.recordBarrier _ _) List.mem_cons_self
  | uploaded | readBack => exact hquiet (.transfer _ _ _ _ _) List.mem_cons_self
  | stored | gathered => exact hquiet (.transfer _ _ _ _ _) call_inPlace
  | poked => exact hquiet (.poke _ _ _) call_inPlace

/-- Deeds of which every one is moves of the kinds `K`. -/
theorem Deeds.moves (h : Deeds (DeedKind.Within K) s t) : Moves K s t :=
  h.relates fun _ hk _ _ hd => hd.moves.mono hk

end Site

theorem Step.Within.of_deeds {δ α : Type} [Device δ] {K : List MoveKind} {p : Step (Site δ) α}
    (h : p.Relates (Site.Deeds (DeedKind.Within K))) : p.Within K :=
  fun s => (h s).mono fun _ _ ht => ht.moves

theorem Attempt.Within.of_deeds {δ α : Type} [Device δ] {K : List MoveKind}
    {a : Attempt (Site δ) α} (h : a.Relates (Site.Deeds (DeedKind.Within K))) : a.Within K :=
  fun s => (h s).mono fun _ _ ht => ht.moves

namespace Site

variable {δ : Type} [Device δ] {K : List MoveKind}

/-! ## 4. Records -/

theorem declareCurrent_within (l : Location) :
    (declareCurrent l : Step (Site δ) Unit).Within inPlace := by
  intro s j
  simp only [wp_declareCurrent]
  exact .one (.book (s.buffer.evolves_markValid l) _) List.mem_cons_self

theorem declareStaleIn_within (l : Location) (offset size : Nat) :
    (declareStaleIn l offset size : Step (Site δ) Unit).Within inPlace := by
  intro s j
  simp only [wp_declareStaleIn]
  exact .one (.book (s.buffer.evolves_markStale l offset size) _) List.mem_cons_self

theorem pinShadow_within : (pinShadow : Step (Site δ) Unit).Within inPlace :=
  .change (fun _ => ⟨rfl, rfl, fun _ => rfl, fun h => h, fun h => h, rfl, rfl, rfl⟩)
    List.mem_cons_self

theorem claimStale_within (c : Prop) [Decidable c] (l : Location) (dirty : ByteRange) :
    (if c then always (declareStaleIn l dirty.offset dirty.size) else pure () :
      Attempt (Site δ) Unit).Within inPlace :=
  .ite (.always (declareStaleIn_within _ _ _)) (.pure _)

/-- The shadow is given up only where it may go. -/
theorem giveUpShadow_within (hK : inPlace ⊆ K) (hd : .discard ∈ K) :
    (giveUpShadow : Step (Site δ) Unit).Within K := by
  have : InPlace (DeedKind.Within K) := .mono (K := DeedKind.Within inPlace) fun _ h => h.mono hK
  have hdiscard : DeedKind.Within K .discard := List.cons_subset.mpr ⟨hd, List.nil_subset K⟩
  exact Step.Within.of_deeds fun s =>
    giveUpShadow_gone hdiscard s fun _ loose stale _ => .discarded loose stale

/-! ## 5. Where the bytes are -/

theorem fillObject_within (handle : ObjectHandle) (offset : Nat) (source : TransferSource)
    (ranges : List ByteRange) (flags : MapFlags) :
    (fillObject handle offset source ranges flags : Attempt (Site δ) Unit).Within inPlace :=
  .bind (.always (.onDevice (fun _ j => .transfer _ _ _ _ j) call_inPlace)) fun _ => .answer _

theorem fillShadow_within (start size : Nat) (source : TransferSource) (flags : MapFlags) :
    (fillShadow start size source flags : Attempt (Site δ) Unit).Within inPlace := by
  unfold fillShadow
  refine .bind (.always .current) fun b => ?_
  split
  · exact .refuse _ _
  · refine .bind (.always (.onDevice (fun _ j => .transfer _ _ _ _ j) call_inPlace)) fun reply =>
      .bind (.always (.change (fun b => b.evolves_shadow _) List.mem_cons_self)) fun _ => .answer _

theorem currentAddress_within : (currentAddress : Attempt (Site δ) Address).Within K := by
  unfold currentAddress
  refine .bind (.always .current) fun b => ?_
  split
  · exact .pure _
  · exact .refuse _ _

theorem shadowBytes_within : (shadowBytes : Attempt (Site δ) ByteArray).Within K := by
  unfold shadowBytes
  refine .bind (.always .current) fun b => ?_
  split
  · exact .pure _
  · exact .refuse _ _

/-- What it takes to know where the bytes are is all it takes to read them. -/
theorem content_moves {s : Site δ} (hK : inPlace ⊆ K)
    (h : authoritative.Ends s fun _ t => Moves K s t) : content.Ends s fun _ t => Moves K s t := by
  unfold content
  refine Attempt.Within.bind_at h fun a => ?_
  split
  · exact shadowBytes_within
  · exact .bind (.always .current) fun b => .bind (.always (Step.Within.mono
      (.onDevice (fun _ j => .transfer _ _ _ _ j) call_inPlace) hK)) fun reply =>
        .bind (.answer _) fun _ => .pure _

omit [Device δ] in
theorem requireRun_ends (offset size : Nat) (s : Site δ) :
    (requireRun offset size).Ends s fun _ t => t = s := by
  intro j
  unfold requireRun
  simp only [Attempt.wp_bind, Attempt.wp_always, wp_current, Attempt.wp_ite, Attempt.wp_refuse,
    Attempt.wp_pure, ite_self]

theorem requireRun_bind {α : Type} {s : Site δ} {offset size : Nat} {a : Attempt (Site δ) α}
    (h : a.Ends s fun _ t => Moves K s t) :
    (requireRun offset size >>= fun _ => a).Ends s fun _ t => Moves K s t := by
  intro j
  rw [Attempt.wp_bind]
  refine (requireRun_ends offset size s).wp fun r t k ht => ?_
  subst ht
  cases r with
  | error e => exact .here
  | ok _ => exact h k

theorem copyRun_moves {s : Site δ} (hK : inPlace ⊆ K) (offset : Nat) (source : TransferSource)
    (size : Nat) (h : authoritative.Ends s fun _ t => Moves K s t) :
    (copyRun offset source size).Ends s fun _ t => Moves K s t := by
  have hstale (l : Location) := (declareStaleIn_within (δ := δ) l offset size).mono hK
  unfold copyRun
  refine requireRun_bind fun j => ?_
  rw [Attempt.wp_bind, Attempt.wp_always, wp_current]
  refine Attempt.Within.bind_at h (fun a => ?_) j
  cases a with
  | object handle base =>
    exact .bind ((fillObject_within _ _ _ _ _).mono hK) fun _ => .always (hstale _)
  | shadow =>
    exact .bind ((fillShadow_within _ _ _ _).mono hK) fun _ => .always (hstale _)

theorem moveInShadow_within (offset sourceOffset size : Nat) :
    (moveInShadow offset sourceOffset size : Attempt (Site δ) Unit).Within inPlace := by
  unfold moveInShadow
  refine .bind (.always .current) fun b => ?_
  split
  · exact .refuse _ _
  · exact .always (.change (fun b => b.evolves_shadow _) List.mem_cons_self)

theorem moveRun_moves {s : Site δ} (hK : inPlace ⊆ K) (offset sourceOffset size : Nat)
    (h : authoritative.Ends s fun _ t => Moves K s t) :
    (moveRun offset sourceOffset size).Ends s fun _ t => Moves K s t := by
  have hstale (l : Location) := (declareStaleIn_within (δ := δ) l offset size).mono hK
  unfold moveRun
  refine requireRun_bind (requireRun_bind (Attempt.Within.bind_at h fun a => ?_))
  cases a with
  | object handle base =>
    exact .bind ((fillObject_within _ _ _ _ _).mono hK) fun _ => .always (hstale _)
  | shadow =>
    exact .bind ((moveInShadow_within _ _ _).mono hK) fun _ => .always (hstale _)

theorem runSource_moves {s : Site δ} (offset size : Nat)
    (h : authoritative.Ends s fun _ t => Moves K s t) :
    (runSource offset size).Ends s fun _ t => Moves K s t := by
  unfold runSource
  refine Attempt.Within.bind_at h fun a => ?_
  split
  · exact .pure _
  · exact .bind shadowBytes_within fun _ => .pure _

/-- An upload object that is not to be the object of the buffer is only read. -/
theorem applyUpload_moves {s : Site δ} (hK : inPlace ⊆ K) {upload : Upload} (offset size : Nat)
    (hcopied : upload.rename = false) (h : authoritative.Ends s fun _ t => Moves K s t) :
    (applyUpload upload offset size).Ends s fun _ t => Moves K s t := by
  unfold applyUpload
  rw [hcopied]
  refine requireRun_bind fun j => ?_
  simp only [Bool.false_eq_true, if_false, Attempt.wp_bind, Attempt.wp_always, wp_current]
  by_cases huses : s.buffer.usesObject upload.placement.handle = true
  · simp only [huses, if_true]
    exact (Attempt.Within.of_deeds (flushUpload_deeds _ _ _)).mono hK s j
  · simp only [huses]
    exact copyRun_moves hK _ _ _ h j

/-! ## 6. A copy made current -/

theorem refreshShadow_within :
    (refreshShadow : Attempt (Site δ) Unit).Within inPlace := .of_deeds refreshShadow_deeds

theorem refreshObject_within :
    (refreshObject : Attempt (Site δ) Unit).Within loading := .of_deeds refreshObject_deeds

theorem refreshCopy_within (l : Location) :
    (refreshCopy l : Attempt (Site δ) Unit).Within loading := .of_deeds (refreshCopy_deeds l)

theorem authoritative_within :
    (authoritative : Attempt (Site δ) Address).Within loading := .of_deeds authoritative_deeds

theorem content_within :
    (content : Attempt (Site δ) ByteArray).Within loading := .of_deeds content_deeds

theorem keepShadow_within :
    (keepShadow : Attempt (Site δ) ByteArray).Within inPlace := .of_deeds keepShadow_deeds

theorem copyRun_within (offset : Nat) (source : TransferSource) (size : Nat) :
    (copyRun offset source size : Attempt (Site δ) Unit).Within loading := fun s =>
  copyRun_moves inPlace_loading _ _ _ (authoritative_within s)

theorem moveRun_within (offset sourceOffset size : Nat) :
    (moveRun offset sourceOffset size : Attempt (Site δ) Unit).Within loading := fun s =>
  moveRun_moves inPlace_loading _ _ _ (authoritative_within s)

theorem runSource_within (offset size : Nat) :
    (runSource offset size : Attempt (Site δ) TransferSource).Within loading :=
  .of_deeds (runSource_deeds _ _)

theorem fillFresh_within (data : ByteArray) :
    (fillFresh data : Attempt (Site δ) Unit).Within loading := .of_deeds
  (fillFresh_deeds (.booked rfl inPlace_loading) (.brings rfl inPlace_loading)
    (.booked rfl inPlace_loading))

/-! ## 7. The object -/

theorem saveContent_within :
    (saveContent : Step (Site δ) Unit).Within inPlace := .of_deeds saveContent_deeds

theorem vacate_within :
    (vacate : Step (Site δ) Unit).Within unloading := .of_deeds vacate_deeds

theorem dropObject_within :
    (dropObject : Step (Site δ) Unit).Within unloading := .of_deeds dropObject_deeds

theorem renameTo_renames (a : Placement) (s : Site δ) :
    (renameTo a).Ends s fun _ t => Renames a.handle s t :=
  (renameTo_deed a s).mono fun _ _ ht => ht.renames

theorem takeOver_renames (a : Placement) (s : Site δ) :
    (takeOver a).Ends s fun _ t => Renames a.handle s t :=
  (takeOver_replaces (K := DeedKind.Within inPlace) a s).mono fun _ _ ⟨_, hu, ht, _⟩ =>
    hu.renames.after ht.moves

/-- Any other upload object takes the place of the object, unless the run leaves the buffer. -/
theorem applyUpload_renames {upload : Upload} (offset size : Nat) (s : Site δ)
    (hrenames : upload.rename = true) : (applyUpload upload offset size).Ends s fun _ t =>
      if s.buffer.holds offset size then Renames upload.placement.handle s t else t = s := by
  refine (applyUpload_replaces (K := DeedKind.Within inPlace) hrenames s).mono fun _ t ht => ?_
  cases hfit : s.buffer.holds offset size with
  | false => simpa only [hfit, Bool.false_eq_true, if_false] using ht
  | true =>
    simp only [hfit, if_true] at ht ⊢
    obtain ⟨u, hu, ht⟩ := ht
    exact hu.renames.after ht.moves

theorem enlistUser_within (u : UserId) :
    (enlistUser u : Step (Site δ) Bool).Within inPlace :=
  .of_deeds (enlistUser_deeds (.booked rfl (List.Subset.refl _)) u)

theorem delistUser_within (u : UserId) :
    (delistUser u : Step (Site δ) Unit).Within inPlace :=
  .of_deeds (delistUser_deeds (.booked rfl (List.Subset.refl _)) u)

theorem objectInfo_within :
    (objectInfo : Step (Site δ) (Option ObjectView)).Within inPlace :=
  .of_deeds (objectInfo_deeds (.booked rfl (List.Subset.refl _)))

theorem abandon_within :
    (abandon : Step (Site δ) Unit).Within inPlace :=
  .of_deeds (abandon_deeds (.booked rfl (List.Subset.refl _)))

/-! ## 8. Draws -/

theorem countQuietDraw_within :
    (countQuietDraw : Step (Site δ) Unit).Within inPlace := .of_deeds countQuietDraw_deeds

theorem loadPending_within :
    (loadPending : Step (Site δ) Unit).Within loading := .of_deeds loadPending_deeds

theorem reload_within :
    (reload : Step (Site δ) Unit).Within loading := .of_deeds reload_deeds

theorem readyForDraw_within (draw : Option Draw) :
    (readyForDraw draw : Step (Site δ) Unit).Within drawing := .of_deeds
  (.deeds (readyForDraw_phases (.booked rfl inPlace_drawing) draw))

theorem barrier_within (bind : BindFlags) :
    (barrier bind : Step (Site δ) Unit).Within inPlace := .of_deeds (barrier_deeds bind)

/-! ## 9. Mapping -/

theorem openShadow_within (flags : MapFlags) (dirty : ByteRange) :
    (openShadow flags dirty : Attempt (Site δ) Unit).Within inPlace := .of_deeds
  (openShadow_deeds fun _ => .booked rfl (List.Subset.refl _))

theorem discardIntoObject_within :
    (discardIntoObject : Attempt (Site δ) Unit).Within loading := .of_deeds discardIntoObject_deeds

theorem readyObject_within (flags : MapFlags) :
    (readyObject flags : Attempt (Site δ) Unit).Within loading :=
  .of_deeds (readyObject_deeds flags)

theorem claimObject_within (flags : MapFlags) (dirty : ByteRange) :
    (claimObject flags dirty : Step (Site δ) Unit).Within inPlace := .of_deeds
  (claimObject_deeds fun _ => .booked rfl (List.Subset.refl _))

theorem map_within (offset size : Nat) (flags : MapFlags) :
    (map offset size flags : Attempt (Site δ) Mapping).Within mapping := .of_deeds
  (.deeds (map_phases fun _ => .booked rfl inPlace_mapping))

theorem unmap_within :
    (unmap : Step (Site δ) Unit).Within holding := .of_deeds unmap_deeds

theorem writeMapped_within (m : Mapping) (data : ByteArray) :
    (writeMapped m data : Step (Site δ) Unit).Within inPlace := .of_deeds
  (writeMapped_deeds (.brings rfl (List.Subset.refl _)) m data)

theorem write_within (offset : Nat) (data : ByteArray) (flags : MapFlags) :
    (write offset data flags : Attempt (Site δ) Unit).Within mapping := .of_deeds
  (.deeds (write_phases (.brings rfl inPlace_mapping) (.booked rfl inPlace_mapping)))

theorem read_within (offset size : Nat) :
    (read offset size : Attempt (Site δ) ByteArray).Within mapping :=
  .of_deeds (.deeds (read_phases _ _))

/-! ## 10. The first and the last operation -/

theorem openStorage_within (pin : Bool) :
    (openStorage pin : Attempt (Site δ) Unit).Within inPlace := .of_deeds (openStorage_deeds pin)

theorem dropMapping_within :
    (dropMapping : Step (Site δ) Unit).Within holding := .of_deeds dropMapping_deeds

theorem destroy_within :
    (destroy : Step (Site δ) Unit).Within mapping := .of_deeds
  (destroy_deeds (.booked rfl inPlace_mapping))

end Site

end BufferCoherence
