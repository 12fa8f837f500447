import BufferCoherence.Proofs.Footprints
import BufferCoherence.Proofs.History

/-!
# Calls

Everything that can be asked of a buffer while it exists: the complete operations of a history, and
what they leave out, such as mapping and unmapping on their own, the copies a client declares current
or stale, and objects handed in. `Call.perform_moves` is the one statement about all of them: a call
consists of moves, and it takes over an object at most once, and only the one it consumes.
-/

namespace BufferCoherence

/-- A call on a buffer, whatever is mapped. -/
inductive Call where
  | complete (op : Operation)
  | map (offset size : Nat) (flags : MapFlags)
  | unmap
  /-- Bytes written through a mapping. -/
  | poke (m : Mapping) (data : ByteArray)
  | address
  | declareCurrent (l : Location)
  | declareStale (l : Location) (offset size : Nat)
  /-- A run copied from anywhere. -/
  | copy (offset : Nat) (source : TransferSource) (size : Nat)
  /-- A run made the source of a copy. -/
  | lend (offset size : Nat)
  | rename (a : Placement)
  | enlist (u : UserId)
  | delist (u : UserId)
  | barrier (bind : BindFlags)
  | info

namespace Call

variable {δ : Type} [Device δ]

/-- The call performed; the answer is the mapping that was handed out, if one was. -/
def perform : Call → Step (Site δ) (Option Mapping)
  | complete op => do
    discard op.perform.outcome
    pure none
  | map offset size flags => return (← (Site.map offset size flags).outcome).toOption
  | unmap => do
    Site.unmap
    pure none
  | poke m data => do
    Site.writeMapped m data
    pure none
  | address => do
    discard Site.authoritative.outcome
    pure none
  | declareCurrent l => do
    Site.declareCurrent l
    pure none
  | declareStale l offset size => do
    Site.declareStaleIn l offset size
    pure none
  | copy offset source size => do
    discard (Site.copyRun offset source size).outcome
    pure none
  | lend offset size => do
    discard (Site.runSource offset size).outcome
    pure none
  | rename a => do
    Site.renameTo a
    pure none
  | enlist u => do
    discard (Site.enlistUser u)
    pure none
  | delist u => do
    Site.delistUser u
    pure none
  | barrier bind => do
    Site.barrier bind
    pure none
  | info => do
    discard Site.objectInfo
    pure none

/-- The object that becomes the object of the buffer by the call. -/
def consumed? (b : Buffer) : Call → Option ObjectHandle
  | complete (.upload u offset size) =>
    if u.rename && b.holds offset size then some u.placement.handle else none
  | rename a => some a.handle
  | _ => none

omit [Device δ] in
theorem consumed?_upload (b : Buffer) (u : Upload) (offset size : Nat) :
    (complete (.upload u offset size)).consumed? b =
      if u.rename && b.holds offset size then some u.placement.handle else none := rfl

end Call

/-- What is answered has no part in what a step relates. -/
theorem Step.Relates.discard {σ α : Type} {R : σ → σ → Prop} [IsPreorder σ R] {p : Step σ α}
    (h : p.Relates R) : Step.Relates R
      (Functor.discard p >>= fun _ => Pure.pure (none : Option Mapping)) :=
  .bind (fun s j => h s j) fun _ => .pure _

section Deeds

variable {δ : Type} [Device δ] {K L : DeedKind → Prop}

open Site

/-- `K` has the kinds of deeds that the operation takes, besides those of mapping. -/
def Operation.Permitted (K : DeedKind → Prop) : Operation → Prop
  | .write offset data _ => K .poke ∧ K (.report offset data.size)
  | .store offset data => K (.copy data.size) ∧ K (.report offset data.size)
  | .move offset _ size => K (.copy size) ∧ K (.report offset size)
  | .upload u offset size => (u.rename = true → K (.rename u.placement.handle)) ∧
      (u.rename = false → K (.copy size) ∧ K (.report offset size))
  | .draw _ => K .analyse
  | .read .. | .content | .refresh _ | .keepShadow | .vacate | .dropObject => True

/-- `K` has the kinds of deeds that the call takes, besides those of mapping. -/
def Call.Permitted (K : DeedKind → Prop) : Call → Prop
  | .complete op => op.Permitted K
  | .map offset size flags => flags.has MapFlags.write = true → K (.report offset size)
  | .poke .. => K .poke
  | .declareCurrent _ => K .claim
  | .declareStale _ offset size => K (.disclaim offset size)
  | .copy offset _ size => K (.copy size) ∧ K (.report offset size)
  | .rename a => K (.rename a.handle)
  | .enlist _ | .delist _ | .info => K .users
  | .unmap | .address | .lend .. | .barrier _ => True

/-- What the kinds of deeds have to include, whichever the operation. -/
theorem Operation.permitted {op : Operation} (hpoke : K .poke) (hcopy : ∀ size, K (.copy size))
    (hreport : ∀ offset size, K (.report offset size)) (hdraw : ∀ d, op = .draw d → K .analyse)
    (hrename : ∀ u offset size, op = .upload u offset size → u.rename = true →
      K (.rename u.placement.handle)) : op.Permitted K := by
  cases op with
  | write => exact ⟨hpoke, hreport _ _⟩
  | store | move => exact ⟨hcopy _, hreport _ _⟩
  | upload u offset size => exact ⟨hrename u offset size rfl, fun _ => ⟨hcopy _, hreport _ _⟩⟩
  | draw d => exact hdraw d rfl
  | read | content | refresh | keepShadow | vacate | dropObject => trivial

/-- What the kinds of deeds have to include, whichever the call. -/
theorem Call.permitted {c : Call} (hpoke : K .poke) (hcopy : ∀ size, K (.copy size))
    (hreport : ∀ offset size, K (.report offset size)) (hdraw : K .analyse) (husers : K .users)
    (hclaim : K .claim) (hdisclaim : ∀ offset size, K (.disclaim offset size))
    (hupload : ∀ u offset size, c = .complete (.upload u offset size) → u.rename = true →
      K (.rename u.placement.handle))
    (hrename : ∀ a, c = .rename a → K (.rename a.handle)) : c.Permitted K := by
  cases c with
  | complete op =>
    exact Operation.permitted hpoke hcopy hreport (fun _ _ => hdraw) fun u offset size he =>
      hupload u offset size (congrArg Call.complete he)
  | map => exact fun _ => hreport _ _
  | poke => exact hpoke
  | declareCurrent => exact hclaim
  | declareStale => exact hdisclaim _ _
  | copy => exact ⟨hcopy _, hreport _ _⟩
  | rename a => exact hrename a rfl
  | enlist | delist | info => exact husers
  | unmap | address | lend | barrier => trivial

section Phases

variable [DeedKind.Opens K] [DeedKind.Closes L]

/-- **A complete operation has two phases**: an object that it gives up is not followed by another. -/
theorem Operation.perform_phases {op : Operation} (h : op.Permitted K) (hpoke : K .poke → L .poke) :
    (op.perform : Attempt (Site δ) (Option ByteArray)).Relates (Phases K L) := by
  cases op with
  | write offset data flags => exact .after (write_phases (hpoke h.1) h.2) fun _ => .pure _
  | read offset size => exact .after (read_phases _ _) fun _ => .pure _
  | content => exact .first (.bind content_deeds fun _ => .pure _)
  | store offset data => exact .first (.bind (copyRun_deeds _ h.1 h.2) fun _ => .pure _)
  | move offset sourceOffset size => exact .first (.bind (moveRun_deeds _ h.1 h.2) fun _ => .pure _)
  | upload u offset size => exact .first (.bind (applyUpload_deeds h.1 h.2) fun _ => .pure _)
  | refresh l => exact .first (.bind (refreshCopy_deeds _) fun _ => .pure _)
  | keepShadow => exact .first (.bind keepShadow_deeds fun _ => .pure _)
  | draw d => exact .after (.always (readyForDraw_phases h d)) fun _ => .pure _
  | vacate => exact .last (.bind (.always vacate_deeds) fun _ => .pure _)
  | dropObject => exact .last (.bind (.always dropObject_deeds) fun _ => .pure _)

/-- **A call has two phases**: an object that it gives up is not followed by another. -/
theorem Call.perform_phases {c : Call} (h : c.Permitted K) (hpoke : K .poke → L .poke) :
    (c.perform : Step (Site δ) (Option Mapping)).Relates (Phases K L) := by
  cases c with
  | complete op =>
    exact .after (.outcome (Operation.perform_phases h hpoke)) fun _ => .pure _
  | map offset size flags => exact .after (.outcome (map_phases h)) fun _ => .pure _
  | unmap => exact .first (.bind unmap_deeds fun _ => .pure _)
  | poke m data => exact .first (.bind (writeMapped_deeds h m data) fun _ => .pure _)
  | address => exact .first (.discard (.outcome authoritative_deeds))
  | declareCurrent l =>
    refine .first (.bind (fun s j => ?_) fun _ => .pure _)
    rw [wp_declareCurrent]
    exact .one h (.entered (.claimed l))
  | declareStale l offset size =>
    refine .first (.bind (fun s j => ?_) fun _ => .pure _)
    rw [wp_declareStaleIn]
    exact .one h (.entered (.disclaimed l offset size))
  | copy offset source size => exact .first (.discard (.outcome (copyRun_deeds source h.1 h.2)))
  | lend offset size => exact .first (.discard (.outcome (runSource_deeds offset size)))
  | rename a =>
    exact .first (.bind (fun s => (renameTo_deed a s).mono fun _ _ ht => .one h ht) fun _ => .pure _)
  | enlist u => exact .first (.discard (enlistUser_deeds h u))
  | delist u => exact .first (.bind (delistUser_deeds h u) fun _ => .pure _)
  | barrier bind => exact .first (.bind (barrier_deeds bind) fun _ => .pure _)
  | info => exact .first (.discard (objectInfo_deeds h))

end Phases

/-- **A complete operation is a sequence of deeds.** -/
theorem Operation.perform_deeds [DeedKind.Maps K] {op : Operation} (h : op.Permitted K) :
    (op.perform : Attempt (Site δ) (Option ByteArray)).Relates (Deeds K) :=
  .deeds (perform_phases h id)

/-- **A call is a sequence of deeds.** -/
theorem Call.perform_deeds [DeedKind.Maps K] {c : Call} (h : c.Permitted K) :
    (c.perform : Step (Site δ) (Option Mapping)).Relates (Deeds K) := .deeds (perform_phases h id)

/-- **A call takes over the object that it consumes**, before all else. A call that hands in no object
    has two phases, where it is permitted. -/
theorem Call.perform_splits [DeedKind.Opens K] [DeedKind.Closes L] (c : Call) (s : Site δ)
    (hpoke : K .poke → L .poke)
    (hpermitted : (∀ u offset size, c = .complete (.upload u offset size) → u.rename = false) →
      (∀ a, c ≠ .rename a) → c.Permitted K) :
    c.perform.Ends s fun _ t =>
      match c.consumed? s.buffer with
      | some a => ∃ u, s.Deed (.rename a) u ∧ Deeds K u t
      | none => Phases K L s t := by
  by_cases hrename : ∃ a, c = .rename a
  · obtain ⟨a, rfl⟩ := hrename
    have hends : (renameTo a).Ends s fun _ t => ∃ u, s.Deed (.rename a.handle) u ∧ Deeds K u t :=
      (renameTo_deed a s).mono fun _ t ht => ⟨t, ht, .here⟩
    exact hends
  by_cases hup : ∃ u offset size, c = .complete (.upload u offset size) ∧ u.rename = true
  · obtain ⟨u, offset, size, rfl, hr⟩ := hup
    have hends : (applyUpload u offset size).Ends s fun _ t =>
        match (Call.complete (.upload u offset size)).consumed? s.buffer with
        | some a => ∃ u, s.Deed (.rename a) u ∧ Deeds K u t
        | none => Phases K L s t := by
      refine (applyUpload_replaces (K := K) hr s).mono fun r t ht => ?_
      rw [consumed?_upload, hr, Bool.true_and]
      cases hfit : s.buffer.holds offset size with
      | true =>
        rw [hfit, if_pos rfl] at ht
        exact ht
      | false =>
        rw [hfit, if_neg Bool.false_ne_true] at ht
        rw [ht]
        exact .first .here
    exact hends.answering fun _ => none
  · have hcopied (u : Upload) (offset size : Nat) (he : c = .complete (.upload u offset size)) :
        u.rename = false := (Bool.not_eq_true _).mp fun hr => hup ⟨u, offset, size, he, hr⟩
    have hnone : c.consumed? s.buffer = none := by
      unfold consumed?
      split
      · rename_i u offset size
        rw [hcopied u offset size rfl, Bool.false_and, if_neg Bool.false_ne_true]
      · rename_i a
        exact absurd ⟨a, rfl⟩ hrename
      · rfl
    rw [hnone]
    exact perform_phases (hpermitted hcopied fun a he => hrename ⟨a, he⟩) hpoke s

/-- A call takes over the object that it consumes, and else nothing. -/
theorem Call.perform_own (c : Call) (s : Site δ) : c.perform.Ends s fun _ t =>
    match c.consumed? s.buffer with
    | some a => ∃ u, s.Deed (.rename a) u ∧ Deeds DeedKind.Own u t
    | none => Deeds DeedKind.Own s t := by
  refine (c.perform_splits (K := DeedKind.Own) (L := DeedKind.Own) s id fun hcopied hrename =>
    permitted trivial (fun _ => trivial) (fun _ _ => trivial) trivial trivial trivial
      (fun _ _ => trivial)
      (fun u offset size he hr => absurd ((hcopied u offset size he).symm.trans hr)
        Bool.false_ne_true)
      fun a he => absurd he (hrename a)).mono fun _ t ht => ?_
  cases hc : c.consumed? s.buffer with
  | some a =>
    rw [hc] at ht
    exact ht
  | none =>
    rw [hc] at ht
    exact ht.deeds

end Deeds

section Moves

variable {δ α : Type} [Device δ] {K : List MoveKind}

open Site MoveKind

theorem Step.Within.discard {p : Step (Site δ) α} (h : p.Within K) :
    Step.Within K (Functor.discard p >>= fun _ => Pure.pure (none : Option Mapping)) :=
  Step.Relates.discard (R := Moves K) h

/-- The moves that a complete operation consists of, apart from a takeover. -/
def Operation.kinds : Operation → List MoveKind
  | .write .. | .read .. => mapping
  | .content | .store .. | .move .. | .upload .. | .refresh _ => loading
  | .keepShadow => inPlace
  | .draw _ => drawing
  | .vacate | .dropObject => unloading

/-- The moves that a call consists of, apart from a takeover. -/
def Call.kinds : Call → List MoveKind
  | .complete op => op.kinds
  | .map .. => mapping
  | .unmap => holding
  | .address | .copy .. | .lend .. | .rename _ => loading
  | .poke .. | .declareCurrent _ | .declareStale .. | .enlist _ | .delist _ | .barrier _ | .info =>
    inPlace

theorem Call.kinds_mapping (c : Call) : c.kinds ⊆ mapping := by
  cases c with
  | complete op =>
    cases op with
    | write | read => exact List.Subset.refl _
    | content | store | move | upload | refresh => exact loading_mapping
    | keepShadow => exact inPlace_mapping
    | draw => exact drawing_mapping
    | vacate | dropObject => exact unloading_mapping
  | map => exact List.Subset.refl _
  | unmap => exact holding_mapping
  | address | copy | lend | rename => exact loading_mapping
  | poke | declareCurrent | declareStale | enlist | delist | barrier | info => exact inPlace_mapping

theorem Operation.perform_within {op : Operation} (h : ∀ u offset size, op ≠ .upload u offset size) :
    (op.perform : Attempt (Site δ) (Option ByteArray)).Within op.kinds := by
  cases op with
  | write offset data flags => exact .bind (write_within _ _ _) fun _ => .pure _
  | read offset size => exact .bind (read_within _ _) fun _ => .pure _
  | content => exact .bind content_within fun _ => .pure _
  | store offset data => exact .bind (copyRun_within _ _ _) fun _ => .pure _
  | move offset sourceOffset size => exact .bind (moveRun_within _ _ _) fun _ => .pure _
  | upload u offset size => exact absurd rfl (h u offset size)
  | refresh l => exact .bind (refreshCopy_within _) fun _ => .pure _
  | keepShadow => exact .bind keepShadow_within fun _ => .pure _
  | draw d => exact .bind (.always (readyForDraw_within _)) fun _ => .pure _
  | vacate => exact .bind (.always vacate_within) fun _ => .pure _
  | dropObject => exact .bind (.always dropObject_within) fun _ => .pure _

/-- **Every call consists of moves of its kinds**, and takes over the object that it consumes. -/
theorem Call.perform_moves (c : Call) (s : Site δ) : c.perform.Ends s fun _ t =>
    match c.consumed? s.buffer with
    | some h => Renames h s t
    | none => Moves c.kinds s t := by
  cases c with
  | complete op =>
    by_cases hup : ∃ u offset size, op = .upload u offset size
    · obtain ⟨u, offset, size, rfl⟩ := hup
      have hends : (Operation.upload u offset size).perform.Ends s fun _ t =>
          match (complete (.upload u offset size)).consumed? s.buffer with
          | some h => Renames h s t
          | none => Moves loading s t := by
        intro j
        unfold Operation.perform consumed?
        simp only [Attempt.wp_bind, Attempt.wp_pure]
        cases hr : u.rename with
        | false =>
          refine (applyUpload_moves inPlace_loading offset size hr (authoritative_within s)).wp
            fun r t k ht => ?_
          cases r <;> exact ht
        | true =>
          refine (applyUpload_renames offset size s hr).wp fun r t k ht => ?_
          cases hfit : s.buffer.holds offset size with
          | true =>
            rw [hfit, if_pos rfl] at ht
            cases r <;> exact ht
          | false =>
            rw [hfit, if_neg Bool.false_ne_true] at ht
            subst ht
            cases r <;> exact .here
      exact hends
    · have hnone : (complete op).consumed? s.buffer = none := by
        cases op with
        | upload u offset size => exact absurd ⟨u, offset, size, rfl⟩ hup
        | _ => rfl
      rw [hnone]
      exact Step.Within.discard (.outcome (Operation.perform_within fun u offset size he =>
        hup ⟨u, offset, size, he⟩)) s
  | map offset size flags =>
    exact Step.Within.bind (.outcome (map_within _ _ _)) (fun _ => .pure _) s
  | unmap => exact Step.Within.bind unmap_within (fun _ => .pure _) s
  | poke m data => exact Step.Within.bind (writeMapped_within _ _) (fun _ => .pure _) s
  | address => exact Step.Within.discard (.outcome authoritative_within) s
  | declareCurrent l => exact Step.Within.bind (declareCurrent_within l) (fun _ => .pure _) s
  | declareStale l offset size =>
    exact Step.Within.bind (declareStaleIn_within _ _ _) (fun _ => .pure _) s
  | copy offset source size => exact Step.Within.discard (.outcome (copyRun_within _ _ _)) s
  | lend offset size => exact Step.Within.discard (.outcome (runSource_within _ _)) s
  | rename a => exact fun j => (renameTo_renames a s).wp fun _ t k ht => ht
  | enlist u => exact Step.Within.discard (enlistUser_within u) s
  | delist u => exact Step.Within.bind (delistUser_within u) (fun _ => .pure _) s
  | barrier bind => exact Step.Within.bind (barrier_within bind) (fun _ => .pure _) s
  | info => exact Step.Within.discard objectInfo_within s

end Moves

end BufferCoherence
