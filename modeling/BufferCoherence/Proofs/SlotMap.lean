import BufferCoherence.Object.SlotMap

/-!
# What a key finds

The laws of slot maps. A map is seen through `SlotMap.get?`; a tidy map (`SlotMap.Tidy`) has every
free slot empty and listed once, which is all that its operations rely on:

* a new value is found under its key, which found nothing before, and every other key finds what it
  found (`get?_insert`, `get?_insert_key`);
* a value that is erased is found no more, and nothing else is lost (`get?_erase`);
* the values that stay are those that pass the test (`get?_keep`).

The list of the values holds what the keys find (`mem_values`).
-/

namespace BufferCoherence.SlotMap

variable {α : Type} {m : SlotMap α} {k k' : SlotKey} {a b : α}

/-! ## 1. Keys -/

theorem get?_eq_some : m.get? k = some a ↔ m.slots[k.slot]? = some ⟨k.version, some a⟩ := by
  unfold get?
  split
  · rename_i s hs
    obtain ⟨version, content⟩ := s
    rw [hs]
    simp only [Option.ite_none_right_eq_some, Option.some.injEq, Slot.mk.injEq]
  · rename_i hs
    rw [hs]
    simp only [reduceCtorEq]

/-- A slot holds one value, under one key. -/
theorem eq_of_slot (h : m.get? k = some a) (h' : m.get? k' = some b) (hslot : k.slot = k'.slot) :
    k = k' ∧ a = b := by
  rw [get?_eq_some] at h h'
  rw [hslot, h'] at h
  obtain ⟨slot, version⟩ := k
  obtain ⟨slot', version'⟩ := k'
  cases hslot
  cases h
  exact ⟨rfl, rfl⟩

@[simp] theorem get?_empty (k : SlotKey) : (empty : SlotMap α).get? k = none := rfl

/-! ## 2. Tidy maps -/

/-- **Every free slot is empty**, and it is listed once. -/
structure Tidy (m : SlotMap α) : Prop where
  once : m.free.Nodup
  vacant : ∀ i ∈ m.free, ∃ v, m.slots[i]? = some ⟨v, none⟩

theorem tidy_empty : (empty : SlotMap α).Tidy := ⟨.nil, nofun⟩

/-- A free slot is found under no key. -/
theorem Tidy.get?_free (h : m.Tidy) (hk : k.slot ∈ m.free) : m.get? k = none := by
  obtain ⟨v, hv⟩ := h.vacant _ hk
  refine Option.eq_none_iff_forall_ne_some.mpr fun a ha => ?_
  rw [get?_eq_some, hv] at ha
  cases ha

/-! ## 3. Inserting -/

/-- The key of a new value found nothing before. -/
theorem get?_insert_key (h : m.Tidy) (a : α) : m.get? (m.insert a).1 = none := by
  unfold insert
  split
  · rename_i i free hfree
    exact h.get?_free (by rw [hfree]; exact List.mem_cons_self)
  · refine Option.eq_none_iff_forall_ne_some.mpr fun b hb => ?_
    rw [get?_eq_some, List.getElem?_eq_none (Nat.le_refl _)] at hb
    cases hb

/-- A slot changed is found under the key of its new version alone. -/
theorem get?_set {i version : Nat} {content : Option α} {free : List Nat}
    (hi : i < m.slots.length) :
    get? ⟨m.slots.set i ⟨version, content⟩, free⟩ k =
      if k.slot = i then (if k.version = version then content else none) else m.get? k := by
  unfold get?
  by_cases hk : k.slot = i
  · subst hk
    rw [if_pos rfl, List.getElem?_set_self hi]
    by_cases hv : k.version = version
    · simp only [hv, if_true]
    · simp only [hv, Ne.symm hv, if_false]
  · rw [if_neg hk, List.getElem?_set_ne (Ne.symm hk)]

/-- And so is a new slot. -/
theorem get?_push {version : Nat} {content : Option α} {free : List Nat} :
    get? ⟨m.slots ++ [⟨version, content⟩], free⟩ k =
      if k.slot = m.slots.length then (if k.version = version then content else none)
      else m.get? k := by
  unfold get?
  by_cases hk : k.slot = m.slots.length
  · rw [if_pos hk, hk, List.getElem?_concat_length]
    by_cases hv : k.version = version
    · simp only [hv, if_true]
    · simp only [hv, Ne.symm hv, if_false]
  · rw [if_neg hk]
    by_cases hlt : k.slot < m.slots.length
    · rw [List.getElem?_append_left hlt]
    · rw [List.getElem?_eq_none (l := m.slots) (by omega), List.getElem?_eq_none]
      rw [List.length_append, List.length_singleton]
      omega

/-- **A new value is found under its key**, and every other key finds what it found. -/
theorem get?_insert (h : m.Tidy) (a : α) (k : SlotKey) :
    (m.insert a).2.get? k = if k = (m.insert a).1 then some a else m.get? k := by
  obtain ⟨slot, version⟩ := k
  -- the slot that is used held nothing, so that only the new version is found there
  have hused {i v : Nat} (hvacant : m.get? ⟨i, version⟩ = none) :
      (if slot = i then (if version = v then some a else none) else m.get? ⟨slot, version⟩) =
        if (⟨slot, version⟩ : SlotKey) = ⟨i, v⟩ then some a else m.get? ⟨slot, version⟩ := by
    by_cases hslot : slot = i
    · subst hslot
      simp only [SlotKey.mk.injEq, true_and, if_true, hvacant]
    · simp only [SlotKey.mk.injEq, hslot, false_and, if_false]
  unfold insert
  split
  · rename_i i free hfree
    have hmem : i ∈ m.free := by rw [hfree]; exact List.mem_cons_self
    obtain ⟨v, hv⟩ := h.vacant i hmem
    rw [get?_set (List.getElem?_eq_some_iff.mp hv).1]
    exact hused (h.get?_free hmem)
  · rw [get?_push]
    refine hused (Option.eq_none_iff_forall_ne_some.mpr fun b hb => ?_)
    rw [get?_eq_some, List.getElem?_eq_none (Nat.le_refl _)] at hb
    cases hb

/-- Any other value is found where it was. -/
theorem get?_insert_of_ne (h : m.Tidy) (hba : b ≠ a) :
    (m.insert a).2.get? k = some b ↔ m.get? k = some b := by
  rw [get?_insert h]
  split
  · rename_i hk
    rw [hk, get?_insert_key h]
    simp only [Option.some.injEq, Ne.symm hba, reduceCtorEq]
  · exact Iff.rfl

theorem tidy_insert (h : m.Tidy) (a : α) : (m.insert a).2.Tidy := by
  unfold insert
  split
  · rename_i i free hfree
    have hnodup := hfree ▸ h.once
    obtain ⟨hi, honce⟩ := List.nodup_cons.mp hnodup
    refine ⟨honce, fun j hj => ?_⟩
    rw [List.getElem?_set_ne fun (e : i = j) => hi (e ▸ hj)]
    exact h.vacant j (by rw [hfree]; exact List.mem_cons_of_mem _ hj)
  · exact ⟨.nil, nofun⟩

/-! ## 4. Removing -/

theorem get?_freeSlot (m : SlotMap α) (i : Nat) (k : SlotKey) :
    (m.freeSlot i).get? k = if k.slot = i then none else m.get? k := by
  unfold freeSlot
  by_cases hi : i < m.slots.length
  · rw [get?_set hi]
    simp only [ite_self]
  · rw [List.set_eq_of_length_le (Nat.le_of_not_lt hi)]
    by_cases hk : k.slot = i
    · subst hk
      rw [if_pos rfl]
      unfold get?
      rw [List.getElem?_eq_none (Nat.le_of_not_lt hi)]
    · rw [if_neg hk]
      rfl

/-- A slot that is in use can be freed. -/
theorem tidy_freeSlot (h : m.Tidy) (hk : m.get? k = some a) : (m.freeSlot k.slot).Tidy := by
  have hslot := get?_eq_some.mp hk
  have hnew : k.slot ∉ m.free := fun hmem => by
    rw [h.get?_free hmem] at hk
    cases hk
  refine ⟨List.nodup_cons.mpr ⟨hnew, h.once⟩, fun i hi => ?_⟩
  unfold freeSlot
  by_cases he : i = k.slot
  · subst he
    exact ⟨_, List.getElem?_set_self (List.getElem?_eq_some_iff.mp hslot).1⟩
  · rw [List.getElem?_set_ne (Ne.symm he)]
    exact h.vacant i ((List.mem_cons.mp hi).resolve_left he)

/-- **An erased key finds nothing**, and every other key finds what it found. -/
theorem get?_erase (m : SlotMap α) (k k' : SlotKey) :
    (m.erase k).get? k' = if k' = k then none else m.get? k' := by
  unfold erase
  cases hk : m.get? k with
  | none =>
    by_cases he : k' = k
    · rw [if_pos he, he]
      simpa using hk
    · rw [if_neg he]
      rfl
  | some a =>
    simp only [Option.isSome_some, if_true, get?_freeSlot]
    by_cases hslot : k'.slot = k.slot
    · rw [if_pos hslot]
      split
      · rfl
      · rename_i he
        exact (Option.eq_none_iff_forall_ne_some.mpr fun b hb => he (eq_of_slot hb hk hslot).1).symm
    · rw [if_neg hslot, if_neg fun he => hslot (congrArg SlotKey.slot he)]

/-- Any value but the one that is erased is found where it was. -/
theorem get?_erase_of_ne (hk : m.get? k = some a) (hba : b ≠ a) :
    (m.erase k).get? k' = some b ↔ m.get? k' = some b := by
  rw [get?_erase]
  split
  · rename_i he
    rw [he, hk]
    simp only [Option.some.injEq, Ne.symm hba, reduceCtorEq]
  · exact Iff.rfl

theorem tidy_erase (h : m.Tidy) (k : SlotKey) : (m.erase k).Tidy := by
  unfold erase
  cases hk : m.get? k with
  | none => exact h
  | some a => exact tidy_freeSlot h hk

/-! ## 5. The values -/

theorem mem_entries : (k, a) ∈ m.entries ↔ m.get? k = some a := by
  rw [get?_eq_some]
  unfold entries
  rw [List.mem_filterMap]
  constructor
  · rintro ⟨⟨⟨version, content⟩, i⟩, hmem, hsome⟩
    obtain ⟨b, hb, he⟩ := Option.map_eq_some_iff.mp hsome
    cases he
    rw [List.mk_mem_zipIdx_iff_getElem?] at hmem
    cases hb
    exact hmem
  · intro h
    exact ⟨(⟨k.version, some a⟩, k.slot), List.mk_mem_zipIdx_iff_getElem?.mpr h, rfl⟩

/-- No slot is listed twice. -/
theorem entries_apart (m : SlotMap α) : m.entries.Pairwise fun x y => x.1.slot ≠ y.1.slot := by
  unfold entries
  refine List.Pairwise.filterMap (R := fun x y : Slot α × Nat => x.2 ≠ y.2) _ ?_ ?_
  · rintro ⟨s, i⟩ ⟨s', i'⟩ hne b hb b' hb'
    obtain ⟨a, -, rfl⟩ := Option.map_eq_some_iff.mp hb
    obtain ⟨a', -, rfl⟩ := Option.map_eq_some_iff.mp hb'
    exact hne
  · refine List.pairwise_map.mp ?_
    show (m.slots.zipIdx.map Prod.snd).Pairwise _
    rw [List.zipIdx_map_snd]
    exact List.nodup_range'

/-- The values are what the keys find. -/
theorem mem_values : a ∈ m.values ↔ ∃ k, m.get? k = some a := by
  unfold values
  rw [List.mem_map]
  constructor
  · rintro ⟨⟨k, b⟩, hmem, rfl⟩
    exact ⟨k, mem_entries.mp hmem⟩
  · rintro ⟨k, hk⟩
    exact ⟨(k, a), mem_entries.mpr hk, rfl⟩

/-- Values under one key each are listed once, whatever the others are. -/
theorem filter_values_nodup {test : α → Bool} (h : ∀ k k' a, test a = true →
    m.get? k = some a → m.get? k' = some a → k = k') : (m.values.filter test).Nodup := by
  refine List.pairwise_filter.mpr (List.pairwise_map.mpr (m.entries_apart.imp_of_mem ?_))
  rintro ⟨k, a⟩ ⟨k', a'⟩ hx hy hne hta - he
  have he : a = a' := he
  subst he
  exact hne (congrArg SlotKey.slot (h k k' a hta (mem_entries.mp hx) (mem_entries.mp hy)))

/-! ## 6. Keeping what passes a test -/

/-- Part of the values looked at: of those, the ones that pass stay. -/
theorem foldl_keep (test : α → Bool) (rows : List (SlotKey × α)) (h : m.Tidy)
    (hapart : rows.Pairwise fun x y => x.1.slot ≠ y.1.slot)
    (hrows : ∀ x ∈ rows, m.get? x.1 = some x.2) :
    let m' := rows.foldl (fun m (x : SlotKey × α) => if test x.2 then m else m.freeSlot x.1.slot) m
    m'.Tidy ∧ ∀ k a, m'.get? k = some a ↔
      m.get? k = some a ∧ ((k, a) ∈ rows → test a = true) := by
  induction rows generalizing m with
  | nil => exact ⟨h, fun k a => ⟨fun hk => ⟨hk, nofun⟩, fun hk => hk.1⟩⟩
  | cons x rest ih =>
    obtain ⟨hx, hrest⟩ := List.pairwise_cons.mp hapart
    have hfound := hrows x List.mem_cons_self
    rw [List.foldl_cons]
    by_cases htest : test x.2 = true
    · rw [if_pos htest]
      obtain ⟨htidy, hget⟩ := ih h hrest fun y hy => hrows y (List.mem_cons_of_mem _ hy)
      refine ⟨htidy, fun k a => (hget k a).trans (and_congr_right fun _ => ?_)⟩
      refine ⟨fun hin hmem => ?_, fun hin hmem => hin (List.mem_cons_of_mem _ hmem)⟩
      rcases List.mem_cons.mp hmem with rfl | hmem
      · exact htest
      · exact hin hmem
    · rw [if_neg htest]
      obtain ⟨htidy, hget⟩ := ih (tidy_freeSlot h hfound) hrest fun y hy => by
        rw [get?_freeSlot, if_neg (Ne.symm (hx y hy))]
        exact hrows y (List.mem_cons_of_mem _ hy)
      refine ⟨htidy, fun k a => (hget k a).trans ?_⟩
      rw [get?_freeSlot]
      by_cases hslot : k.slot = x.1.slot
      · -- the slot is the one that was freed, and its value did not pass
        rw [if_pos hslot]
        refine ⟨nofun, fun ⟨hk, hin⟩ => absurd ?_ htest⟩
        obtain ⟨rfl, rfl⟩ := eq_of_slot hk hfound hslot
        exact hin List.mem_cons_self
      · rw [if_neg hslot]
        refine and_congr_right fun _ => ⟨fun hin hmem => ?_, fun hin hmem =>
          hin (List.mem_cons_of_mem _ hmem)⟩
        rcases List.mem_cons.mp hmem with rfl | hmem
        · exact absurd rfl hslot
        · exact hin hmem

theorem tidy_keep (h : m.Tidy) (test : α → Bool) : (m.keep test).Tidy :=
  (foldl_keep test _ h m.entries_apart fun _ hx => mem_entries.mp hx).1

/-- **What is kept is what passes the test.** -/
theorem get?_keep (h : m.Tidy) (test : α → Bool) (k : SlotKey) (a : α) :
    (m.keep test).get? k = some a ↔ m.get? k = some a ∧ test a = true := by
  refine ((foldl_keep test _ h m.entries_apart fun _ hx => mem_entries.mp hx).2 k a).trans
    (and_congr_right fun hk => ?_)
  rw [mem_entries]
  exact ⟨fun hin => hin hk, fun htest _ => htest⟩

theorem get?_clear (h : m.Tidy) (k : SlotKey) : m.clear.get? k = none :=
  Option.eq_none_iff_forall_ne_some.mpr fun a ha =>
    absurd ((get?_keep h (fun _ => false) k a).mp ha).2 Bool.false_ne_true

end BufferCoherence.SlotMap
