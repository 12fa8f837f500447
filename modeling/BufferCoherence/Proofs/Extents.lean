import BufferCoherence.Proofs.Anchors

/-!
# The extent of a buffer

The shadow of a buffer and its record of changed spans are as large as the buffer itself
(`Buffer.Sized`), whatever is asked of it and whatever its devices answer: with mappings outstanding,
after a client declared copies current or stale, and after calls that failed.

* `Call.perform_keepsSize`: a call keeps a buffer sized, since every deed of it does
  (`Site.Deed.keepsSize`);
* `Buffer.Handled` is what creation and calls lead to, and `Buffer.Handled.sized` says so of it.
-/

namespace BufferCoherence

/-! ## 1. Deeds -/

/-- No bytes are taken as a shadow, however many they are. -/
def DeedKind.Fitting : DeedKind → Prop
  | .seed => False
  | _ => True

instance : DeedKind.Maps DeedKind.Fitting := .of (by apply DeedKind.Opens.of <;> trivial) trivial

namespace Site

variable {δ : Type} {s t : Site δ}

/-- A buffer that was sized is sized. -/
def KeepsSize (s t : Site δ) : Prop := s.buffer.Sized → t.buffer.Sized

instance : IsPreorder (Site δ) KeepsSize where
  refl _ h := h
  trans _ _ _ h h' := h' ∘ h

/-- **A deed keeps a buffer sized**, also where a layout is analysed or the client declares what is
    current. -/
theorem Deed.keepsSize [Device δ] {k : DeedKind} (h : s.Deed k t) (hk : k.Fitting) :
    KeepsSize s t := by
  have hsteady (hk : k.Steady) : KeepsSize s t := (h.upholds hk).sized
  cases h with
  | entered h =>
    cases h with
    | claimed l => exact fun hs => hs.markValid l
    | disclaimed l offset size => exact fun hs => hs.markStale l offset size
    | analysed => exact fun hs => ⟨hs.shadow, hs.dirty⟩
    | seeded | sown => exact False.elim hk
    | _ => exact hsteady trivial
  | _ => exact hsteady trivial

end Site

/-! ## 2. Calls -/

open Site in
/-- **A call keeps a buffer sized**, whichever calls of the device fail. -/
theorem Call.perform_keepsSize {δ : Type} [Device δ] (c : Call) :
    (c.perform : Step (Site δ) (Option Mapping)).Relates KeepsSize := by
  have hpermitted : c.Permitted DeedKind.Fitting :=
    permitted trivial (fun _ => trivial) (fun _ _ => trivial) trivial trivial trivial
      (fun _ _ => trivial) (fun _ _ _ _ _ => trivial) fun _ _ => trivial
  exact fun s => (perform_deeds hpermitted s).mono fun _ _ ht =>
    ht.relates fun _ hk _ _ hd => hd.keepsSize hk

/-- **A buffer that was created, and that calls were performed on**, each of them on some device in
    some state, with whatever is mapped. Any of them may have failed. -/
inductive Buffer.Handled : Buffer → Prop where
  | created {δ : Type} [Device δ] {request : BufferRequest} {data : Option ByteArray}
      {settings : Settings} {m x : Machine δ} {b : Buffer} {j k : Journal}
      (h : (Machine.create request data settings).run m j = ((.ok b, x), k)) : Handled b
  | called {δ : Type} [Device δ] {s t : Site δ} {c : Call} {a : Option Mapping} {j k : Journal}
      (past : Handled s.buffer) (h : c.perform s j = ((a, t), k)) : Handled t.buffer

theorem Buffer.Handled.call {δ : Type} [Device δ] {s : Site δ} (past : s.buffer.Handled) (c : Call)
    (j : Journal) : (c.perform s j).1.2.buffer.Handled :=
  .called (a := (c.perform s j).1.1) (k := (c.perform s j).2) past rfl

/-- **Every buffer has the extent that it was created with**, and so have its shadow and its record of
    changed spans. -/
theorem Buffer.Handled.sized {b : Buffer} (h : b.Handled) : b.Sized := by
  induction h with
  | created h => exact ((Machine.create_anchored _ _ _ _).of_run h _ rfl).toSized
  | called past h ih => exact (Call.perform_keepsSize _ _).of_run h ih

end BufferCoherence
