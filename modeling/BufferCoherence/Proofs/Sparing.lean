import BufferCoherence.Proofs.Nesting
import BufferCoherence.Proofs.Stock

/-!
# Storage that is mapped, and calls that spare it

A mapping points into the shadow or into the object (`MappedStorage`), and nothing but the number of
mappings says that somebody still uses it. Which moves take a storage away is known
(`MappedStorage.takenBy`), so that a call spares it where no such move is among those it consists of:

* the object goes with the calls that free it or put another one in its place (`Call.frees`); a draw
  is not one of them, since it leaves a mapped object alone;
* the shadow goes where a copy of a steady, unpinned buffer is made current in its object, or where
  content is thrown away (`Call.sheds`).

`Site.Stays` says more than that the storage is there in the end: it is there after each move.
-/

namespace BufferCoherence

open MoveKind

namespace Site

variable {δ : Type} [Device δ] {s t u : Site δ} {K : List MoveKind} {st : MappedStorage}

/-! ## 1. Storage that stays -/

/-- The storage is there: the shadow, or an object that is the buffer's and alive. -/
def Holds (s : Site δ) : MappedStorage → Prop
  | .shadow => s.buffer.shadow.isSome = true
  | .object h =>
    s.buffer.object.map (·.handle) = some h ∧ Device.live s.machine.device h = true

instance (s : Site δ) : (st : MappedStorage) → Decidable (s.Holds st)
  | .shadow => inferInstanceAs (Decidable (_ = true))
  | .object _ => inferInstanceAs (Decidable (_ ∧ _))

/-- **The storage is there all along**, from one site to another. -/
inductive Stays (st : MappedStorage) (s : Site δ) : Site δ → Prop where
  | here (h : s.Holds st) : Stays st s s
  | next {t u : Site δ} {k : MoveKind} (past : Stays st s t) (step : t.Move k u)
      (h : u.Holds st) : Stays st s u

theorem Stays.holds (h : Stays st s t) : t.Holds st := by
  cases h with
  | here h => exact h
  | next _ _ h => exact h

end Site

/-- The kinds of moves that take a storage away. -/
def MappedStorage.takenBy : MappedStorage → MoveKind → Prop
  | .shadow, .release | .shadow, .discard => True
  | .object _, .free | .object _, .rename _ => True
  | _, _ => False

/-- The shadow goes once the object was loaded. -/
def Buffer.isLoose (b : Buffer) : Bool := !b.pinned && !b.isDynamic

namespace MappedStorage

variable {b : Buffer} {K K' : List MoveKind} {st : MappedStorage}

/-- **The moves of these kinds leave the storage of a buffer there**, and what is mapped as it is. A
    shadow that is not loose is not released. -/
structure SparedBy (st : MappedStorage) (b : Buffer) (K : List MoveKind) : Prop where
  unheld : .hold ∉ K
  steady : ∀ k ∈ K, st.takenBy k → k = .release ∧ b.isLoose = false

theorem SparedBy.mono (h : SparedBy st b K') (hK : K ⊆ K') : SparedBy st b K :=
  ⟨fun hk => h.unheld (hK hk), fun k hk => h.steady k (hK hk)⟩

theorem sparedBy_inPlace (st : MappedStorage) (b : Buffer) : SparedBy st b inPlace where
  unheld := by simp [inPlace]
  steady k hk htaken := by cases st <;> cases k <;> simp_all [inPlace, takenBy]

theorem sparedBy_loading_object (h : ObjectHandle) (b : Buffer) :
    SparedBy (.object h) b loading where
  unheld := by simp [loading]
  steady k hk htaken := by cases k <;> simp_all [loading, takenBy]

theorem sparedBy_drawing (hb : b.isLoose = false) : SparedBy .shadow b drawing where
  unheld := by simp [drawing]
  steady k hk htaken := by cases k <;> simp_all [drawing, takenBy]

theorem sparedBy_unloading (b : Buffer) : SparedBy .shadow b unloading where
  unheld := by simp [unloading]
  steady k hk htaken := by cases k <;> simp_all [unloading, takenBy]

theorem sparedBy_rename (h : ObjectHandle) (b : Buffer) :
    SparedBy .shadow b (.rename h :: inPlace) where
  unheld := by simp [inPlace]
  steady k hk htaken := by cases k <;> simp_all [inPlace, takenBy]

end MappedStorage

namespace Site

variable {δ : Type} [Device δ] {s t u : Site δ} {K : List MoveKind} {st : MappedStorage}

theorem Move.isLoose {k : MoveKind} (h : s.Move k t) (hs : s.buffer.isLoose = false) :
    t.buffer.isLoose = false := by
  cases h with
  | @book b hb _ =>
    unfold Buffer.isLoose Buffer.isDynamic at hs ⊢
    rw [hb.usage]
    cases hp : s.buffer.pinned with
    | true =>
      rw [hb.pinned hp]
      rfl
    | false =>
      rw [hp] at hs
      rw [show s.buffer.usage.has Usage.dynamic = true by simpa using hs, Bool.not_true,
        Bool.and_false]
  | _ => exact hs

/-- A move that does not take a storage away leaves it there. -/
theorem Move.holds [KeepsObjects δ] {k : MoveKind} (h : s.Move k t) (hk : ¬ st.takenBy k)
    (hs : s.Holds st) : t.Holds st := by
  cases st with
  | shadow =>
    cases h with
    | book hb _ => exact hb.shadow hs
    | released | discarded => exact absurd trivial hk
    | _ => exact hs
  | object a =>
    obtain ⟨hobj, hlive⟩ := hs
    cases h with
    | book hb _ => exact ⟨hb.object.trans hobj, hlive⟩
    | call hd => exact ⟨hobj, (KeepsObjects.quiet hd a).trans hlive⟩
    | made _ bare _ =>
      rw [bare] at hobj
      cases hobj
    | refused hrun =>
      exact ⟨hobj, (KeepsObjects.make _ a hlive).of_run hrun⟩
    | freed | replaced | given => exact absurd trivial hk
    | _ => exact ⟨hobj, hlive⟩

/-- **Storage stays over moves that do not take it away**; a shadow that is not loose is not released. -/
theorem Moves.stays [KeepsObjects δ] (h : Moves K s t)
    (hK : ∀ k ∈ K, st.takenBy k → k = .release ∧ s.buffer.isLoose = false) (hs : s.Holds st) :
    Stays st s t := by
  have hboth : Stays st s t ∧ (s.buffer.isLoose = false → t.buffer.isLoose = false) := by
    induction h with
    | here => exact ⟨.here hs, fun h => h⟩
    | @next t u k _ hk step ih =>
      obtain ⟨hstays, hloose⟩ := ih
      refine ⟨.next hstays step (step.holds (fun htaken => ?_) hstays.holds),
        fun h => step.isLoose (hloose h)⟩
      obtain ⟨rfl, hsteady⟩ := hK k hk htaken
      cases step with
      | released loose steady =>
        have hfalse := hloose hsteady
        unfold Buffer.isLoose at hfalse
        rw [loose, steady] at hfalse
        cases hfalse
  exact hboth.1

/-- What no move of these kinds changes. -/
theorem Moves.unheld (h : Moves K s t) (hK : .hold ∉ K) :
    t.buffer.mapCount = s.buffer.mapCount ∧ t.buffer.mapBase = s.buffer.mapBase :=
  h.keeps (P := fun x => x.buffer.mapCount = s.buffer.mapCount ∧
      x.buffer.mapBase = s.buffer.mapBase) (fun k hk x y step hx => by
    cases step with
    | book hb => exact ⟨hb.mapCount.trans hx.1, hb.mapBase.trans hx.2⟩
    | held => exact absurd hk hK
    | _ => exact hx) ⟨rfl, rfl⟩

/-- The kind stays, and leave to have an object does not come back. -/
theorem Moves.backend (h : Moves K s t) : t.buffer.backend.kind = s.buffer.backend.kind ∧
    (t.buffer.objectAllowed = true → s.buffer.objectAllowed = true) :=
  h.keeps (P := fun x => x.buffer.backend.kind = s.buffer.backend.kind ∧
      (x.buffer.objectAllowed = true → s.buffer.objectAllowed = true)) (fun k hk x y step hx => by
    cases step with
    | book hb => exact ⟨hb.kind.trans hx.1, fun ha => hx.2 (hb.objectAllowed ha)⟩
    | _ => exact hx) ⟨rfl, fun h => h⟩

end Site

/-! ## 2. Calls that spare what is mapped -/

namespace Buffer

/-- The shadow goes where cleared or discarded content gets its bytes in the object. -/
def shedsByReading (b : Buffer) : Bool :=
  b.isLoose && b.objectAllowed && b.locations.meets Location.sentinel

/-- The shadow goes where a range is mapped in the object: the content is thrown away with it, or is
    in the object from then on. -/
def shedsByMapping (b : Buffer) (flags : MapFlags) : Bool :=
  !b.mapsShadow flags &&
    (flags.has MapFlags.discard || (b.isLoose && !b.locations.has Location.gpuObject))

end Buffer

namespace Call

/-- The call may give the shadow up. -/
def sheds (b : Buffer) : Call → Bool
  | complete (.write _ _ flags) => b.shedsByMapping (flags ∪ MapFlags.write)
  | complete (.read _ _) => b.shedsByMapping MapFlags.read
  | map _ _ flags => b.shedsByMapping flags
  | complete (.draw _) => b.isLoose && b.objectAllowed
  | complete (.refresh l) =>
    l == Location.gpuObject && b.isLoose && !b.locations.has Location.gpuObject
  | complete (.upload u _ _) => !u.rename && b.shedsByReading
  | complete .content | complete (.store ..) | complete (.move ..) | address | copy .. | lend .. =>
    b.shedsByReading
  | _ => false

/-- The call gives the object up, or puts another one in its place. -/
def frees (b : Buffer) : Call → Bool
  | complete .vacate | complete .dropObject => true
  | c => (c.consumed? b).isSome

/-- **The call spares a storage**, in which something is mapped. -/
def Spares (c : Call) (b : Buffer) : MappedStorage → Prop
  | .shadow => c.sheds b = false
  | .object _ => c.frees b = false

instance (c : Call) (b : Buffer) : (st : MappedStorage) → Decidable (c.Spares b st)
  | .shadow => inferInstanceAs (Decidable (_ = false))
  | .object _ => inferInstanceAs (Decidable (_ = false))

/-- The call maps and unmaps nothing. -/
def isPlain : Call → Bool
  | map .. | unmap | complete (.write ..) | complete (.read ..) => false
  | _ => true

end Call

section Plain

variable {δ : Type} [Device δ] {s : Site δ} {st : MappedStorage} {K : List MoveKind}

namespace Site

/-- Where there is nothing to load, or nowhere to load it, all storage stays. -/
theorem authoritative_inPlace (h : s.buffer.locations.meets Location.sentinel = false ∨
    s.buffer.objectAllowed = false) : authoritative.Ends s fun _ t => Moves inPlace s t := by
  intro j
  rw [authoritative_eq, Attempt.wp_bind, Attempt.wp_always, wp_current]
  by_cases hsentinel : s.buffer.locations.meets Location.sentinel = true
  · have hallowed : s.buffer.objectAllowed = false := by
      rcases h with h | h
      · exact absurd (h.symm.trans hsentinel) Bool.false_ne_true
      · exact h
    simp only [hsentinel, if_true]
    refine Attempt.Within.bind_at (fun j => ?_) (fun _ => currentAddress_within) j
    unfold refreshSomewhere
    rw [Attempt.wp_bind, Attempt.wp_always, wp_current]
    simp only [hallowed, Bool.not_false, if_true]
    exact refreshShadow_within s j
  · simp only [hsentinel]
    exact currentAddress_within s j

/-- An object that is current is not loaded. -/
theorem refreshObject_current (h : s.buffer.locations.has Location.gpuObject = true) :
    refreshObject.Ends s fun _ t => t = s := by
  intro j
  unfold refreshObject refreshWith
  simp only [Attempt.wp_bind, Attempt.wp_always, wp_current, h, if_true, Attempt.wp_pure]

theorem refreshCopy_moves {l : Location} (hK : inPlace ⊆ K)
    (h : l = Location.gpuObject → refreshObject.Ends s fun _ t => Moves K s t) :
    (refreshCopy l).Ends s fun _ t => Moves K s t := by
  intro j
  unfold refreshCopy
  simp only [Attempt.wp_bind, Attempt.wp_always, wp_current, Attempt.wp_ite, Attempt.wp_refuse]
  split
  · exact .here
  · rename_i hloadable
    split
    · exact refreshShadow_within.mono hK s j
    · rename_i hsysmem
      refine h ?_ j
      unfold Location.isLoadable at hloadable
      simpa [hsysmem] using hloadable

/-- A draw leaves an object alone that is mapped, and a buffer that may have no object. -/
theorem readyForDraw_declines (h : s.buffer.objectAllowed = false ∨
    (0 < s.buffer.mapCount ∧ s.buffer.mapBase.isSome = true)) (draw : Option Draw) :
    (readyForDraw draw).Ends s fun _ t => t = s := by
  intro j
  unfold readyForDraw
  simp only [Step.wp_bind, wp_current, Step.wp_ite, Step.wp_note]
  by_cases hmapped : (decide (s.buffer.mapCount > 0) && s.buffer.mapBase.isSome) = true
  · rw [if_pos hmapped]
    trivial
  · have hallowed : s.buffer.objectAllowed = false := by
      rcases h with h | ⟨hc, hb⟩
      · exact h
      · exact absurd (by rw [hb, Bool.and_true]; exact decide_eq_true hc) hmapped
    rw [if_neg hmapped, hallowed]
    simp only [Bool.false_eq_true, if_false, Step.wp_pure, ite_self]

/-- It takes no storage that is mapped to know where the bytes are. -/
theorem authoritative_spared (h : st = .shadow → s.buffer.shedsByReading = false) :
    ∃ K, inPlace ⊆ K ∧ st.SparedBy s.buffer K ∧
      authoritative.Ends s fun _ t => Moves K s t := by
  cases st with
  | object a =>
    exact ⟨loading, inPlace_loading, MappedStorage.sparedBy_loading_object a s.buffer,
      authoritative_within s⟩
  | shadow =>
    cases hloose : s.buffer.isLoose with
    | false =>
      exact ⟨loading, inPlace_loading, (MappedStorage.sparedBy_drawing hloose).mono loading_drawing,
        authoritative_within s⟩
    | true =>
      have hsheds := h rfl
      unfold Buffer.shedsByReading at hsheds
      rw [hloose, Bool.true_and, Bool.and_eq_false_iff] at hsheds
      exact ⟨inPlace, List.Subset.refl _, MappedStorage.sparedBy_inPlace _ _,
        authoritative_inPlace hsheds.symm⟩

open MappedStorage

theorem applyUpload_spared (u : Upload) (offset size : Nat)
    (hsheds : st = .shadow → (!u.rename && s.buffer.shedsByReading) = false)
    (hfrees : (u.rename && s.buffer.holds offset size) = true → st = .shadow) :
    ∃ K, st.SparedBy s.buffer K ∧
      (applyUpload u offset size).Ends s fun _ t => Moves K s t := by
  cases hr : u.rename with
  | false =>
    have hread (he : st = .shadow) : s.buffer.shedsByReading = false := by
      simpa only [hr, Bool.not_false, Bool.true_and] using hsheds he
    obtain ⟨K, hin, hK, hends⟩ := authoritative_spared hread
    exact ⟨K, hK, applyUpload_moves hin offset size hr hends⟩
  | true =>
    have hends := applyUpload_renames offset size s hr
    cases hfit : s.buffer.holds offset size with
    | false =>
      rw [hfit] at hends
      exact ⟨inPlace, sparedBy_inPlace _ _, hends.mono fun _ t ht => ht ▸ .here⟩
    | true =>
      rw [hfit] at hends
      rw [hfrees (by rw [hr, hfit]; rfl)]
      exact ⟨_, sparedBy_rename u.placement.handle _, hends.mono fun _ t ht => ht.moves⟩

theorem refreshCopy_spared (l : Location)
    (hsheds : st = .shadow → (l == Location.gpuObject && s.buffer.isLoose &&
      !s.buffer.locations.has Location.gpuObject) = false) :
    ∃ K, st.SparedBy s.buffer K ∧ (refreshCopy l).Ends s fun _ t => Moves K s t := by
  by_cases hload : l = Location.gpuObject ∧ s.buffer.locations.has Location.gpuObject = false
  · obtain ⟨rfl, hg⟩ := hload
    refine ⟨loading, ?_, refreshCopy_within _ s⟩
    cases st with
    | object a => exact sparedBy_loading_object a _
    | shadow =>
      have hloose := hsheds rfl
      rw [hg, beq_self_eq_true, Bool.true_and, Bool.not_false, Bool.and_true] at hloose
      exact (sparedBy_drawing hloose).mono loading_drawing
  · refine ⟨inPlace, sparedBy_inPlace _ _, refreshCopy_moves (List.Subset.refl _) fun hl => ?_⟩
    have hg : s.buffer.locations.has Location.gpuObject = true := by
      rw [← Bool.not_eq_false]
      exact fun hg => hload ⟨hl, hg⟩
    exact (refreshObject_current hg).mono fun _ t ht => ht ▸ .here

theorem readyForDraw_spared (draw : Option Draw) (hcount : 0 < s.buffer.mapCount)
    (hobject : ∀ a, st = .object a → s.buffer.mapBase.isSome = true)
    (hsheds : st = .shadow → (s.buffer.isLoose && s.buffer.objectAllowed) = false) :
    ∃ K, st.SparedBy s.buffer K ∧ (readyForDraw draw).Ends s fun _ t => Moves K s t := by
  cases st with
  | object a =>
    exact ⟨inPlace, sparedBy_inPlace _ _, (readyForDraw_declines (.inr ⟨hcount, hobject a rfl⟩)
      draw).mono fun _ t ht => ht ▸ .here⟩
  | shadow =>
    rcases Bool.and_eq_false_iff.mp (hsheds rfl) with hloose | hallowed
    · exact ⟨drawing, sparedBy_drawing hloose, readyForDraw_within draw s⟩
    · exact ⟨inPlace, sparedBy_inPlace _ _, (readyForDraw_declines (.inl hallowed) draw).mono
        fun _ t ht => ht ▸ .here⟩

end Site

open Site MappedStorage

omit [Device δ] in
/-- A step that answers nothing. -/
theorem Step.Ends.silent {α : Type} {p : Step (Site δ) α} {P : Site δ → Prop}
    (h : p.Ends s fun _ t => P t) :
    Step.Ends (do discard p; return none : Step (Site δ) (Option Mapping)) s
      fun a t => a = none ∧ P t := fun j => ⟨rfl, h j⟩

/-- **A call that spares what is mapped leaves it there**, and maps and unmaps nothing. -/
theorem Call.plain_spared (c : Call) (hplain : c.isPlain = true) (hcount : 0 < s.buffer.mapCount)
    (h : c.Spares s.buffer s.buffer.mapped) :
    ∃ K, s.buffer.mapped.SparedBy s.buffer K ∧
      c.perform.Ends s fun a t => a = none ∧ Moves K s t := by
  have hdraw : ∀ a, s.buffer.mapped = .object a → s.buffer.mapBase.isSome = true := by
    intro a ha
    cases hbase : s.buffer.mapBase with
    | none =>
      rw [Buffer.mapped_of_none hbase] at ha
      cases ha
    | some base => rfl
  generalize s.buffer.mapped = st at h hdraw ⊢
  have hsheds : st = .shadow → c.sheds s.buffer = false := by
    rintro rfl
    exact h
  have hfrees : (c.frees s.buffer = true) → st = .shadow := by
    intro hf
    cases st with
    | shadow => rfl
    | object a => exact absurd (hf.symm.trans h) nofun
  have hinPlace {α : Type} {p : Step (Site δ) α} (hp : p.Within inPlace) :
      ∃ K, st.SparedBy s.buffer K ∧
        Step.Ends (do discard p; return none : Step (Site δ) (Option Mapping)) s
          fun a t => a = none ∧ Moves K s t :=
    ⟨inPlace, sparedBy_inPlace _ _, Step.Ends.silent (hp s)⟩
  have hread (hsheds : st = .shadow → s.buffer.shedsByReading = false) {α : Type}
      {a : Attempt (Site δ) α} (ha : ∀ {K}, inPlace ⊆ K →
        (authoritative.Ends s fun _ t => Moves K s t) → a.Ends s fun _ t => Moves K s t) :
      ∃ K, st.SparedBy s.buffer K ∧
        Step.Ends (do discard a.outcome; return none : Step (Site δ) (Option Mapping)) s
          fun a t => a = none ∧ Moves K s t := by
    obtain ⟨K, hin, hK, hends⟩ := authoritative_spared hsheds
    exact ⟨K, hK, Step.Ends.silent (ha hin hends)⟩
  cases c with
  | complete op =>
    cases op with
    | write | read => cases hplain
    | content =>
      exact hread hsheds fun hin ha =>
        Attempt.Within.bind_at (content_moves hin ha) fun _ => .pure _
    | store offset data =>
      exact hread hsheds fun hin ha =>
        Attempt.Within.bind_at (copyRun_moves hin _ _ _ ha) fun _ => .pure _
    | move offset sourceOffset size =>
      exact hread hsheds fun hin ha =>
        Attempt.Within.bind_at (moveRun_moves hin _ _ _ ha) fun _ => .pure _
    | upload u offset size =>
      obtain ⟨K, hK, hends⟩ := applyUpload_spared u offset size hsheds fun hu => hfrees (by
        show Option.isSome (if u.rename && s.buffer.holds offset size then
          some u.placement.handle else none) = true
        rw [if_pos hu]
        rfl)
      exact ⟨K, hK, Step.Ends.silent (hends.answering _)⟩
    | refresh l =>
      obtain ⟨K, hK, hends⟩ := refreshCopy_spared l hsheds
      exact ⟨K, hK, Step.Ends.silent (hends.answering _)⟩
    | keepShadow => exact hinPlace (.outcome (.bind keepShadow_within fun _ => .pure _))
    | draw d =>
      obtain ⟨K, hK, hends⟩ := readyForDraw_spared d hcount hdraw hsheds
      exact ⟨K, hK, Step.Ends.silent hends⟩
    | vacate =>
      rw [hfrees rfl]
      exact ⟨_, sparedBy_unloading _, Step.Ends.silent (vacate_within s)⟩
    | dropObject =>
      rw [hfrees rfl]
      exact ⟨_, sparedBy_unloading _, Step.Ends.silent (dropObject_within s)⟩
  | map | unmap => cases hplain
  | poke m data => exact hinPlace (writeMapped_within _ _)
  | address => exact hread hsheds fun _ ha => ha
  | declareCurrent l => exact hinPlace (declareCurrent_within _)
  | declareStale l offset size => exact hinPlace (declareStaleIn_within _ _ _)
  | copy offset source size =>
    exact hread hsheds fun hin ha => copyRun_moves hin _ _ _ ha
  | lend offset size => exact hread hsheds fun hin ha => runSource_moves _ _ ha
  | rename a =>
    rw [hfrees rfl]
    exact ⟨_, sparedBy_rename a.handle _,
      Step.Ends.silent ((renameTo_renames a s).mono fun _ t ht => ht.moves)⟩
  | enlist u => exact hinPlace (enlistUser_within _)
  | delist u => exact hinPlace (delistUser_within _)
  | barrier bind => exact hinPlace (barrier_within _)
  | info => exact hinPlace objectInfo_within

end Plain

end BufferCoherence
