import BufferCoherence.FlagSet.Catalogue

/-!
# Sets of locations, flag by flag

What the operations on flag sets do to a single flag, and what the sets of locations that the
library uses hold. With these lemmas for `simp`, a question about which copies of a buffer are
current after some declarations comes down to the same question before them.
-/

namespace BufferCoherence

namespace FlagSet

variable {k : FlagKind}

/-! ## 1. Single flags -/

/-- A set of one flag alone. -/
def IsFlag (f : FlagSet k) : Prop := ∃ i < 32, f = single i

theorem getLsbD_single {i : Nat} (hi : i < 32) (n : Nat) :
    (single i : FlagSet k).bits.getLsbD n = decide (n = i) := by
  show (1#32 <<< i).getLsbD n = _
  rw [BitVec.getLsbD_shiftLeft, BitVec.getLsbD_one]
  by_cases h : n = i
  · subst h
    simp [hi]
  · simp only [h, decide_false]
    by_cases hn : n < i
    · simp [hn]
    · simp [show n - i ≠ 0 by omega]

theorem has_single {a : FlagSet k} {i : Nat} (hi : i < 32) :
    a.has (single i) = a.bits.getLsbD i := by
  rw [Bool.eq_iff_iff, has_iff]
  constructor
  · intro h
    exact h i (by rw [getLsbD_single hi, decide_eq_true_iff])
  · intro h n hn
    rw [getLsbD_single hi, decide_eq_true_iff] at hn
    rw [hn]
    exact h

theorem has_union_left {a b f : FlagSet k} (hf : f.IsFlag) :
    (a ∪ b).has f = (a.has f || b.has f) := by
  obtain ⟨i, hi, rfl⟩ := hf
  rw [has_single hi, has_single hi, has_single hi, bits_union, BitVec.getLsbD_or]

theorem has_sdiff_left {a b f : FlagSet k} (hf : f.IsFlag) :
    (a \ b).has f = (a.has f && !b.has f) := by
  obtain ⟨i, hi, rfl⟩ := hf
  rw [has_single hi, has_single hi, has_single hi, bits_sdiff, BitVec.getLsbD_and,
    BitVec.getLsbD_not]
  simp [hi]

/-- A set that holds a flag is not empty. -/
theorem isEmpty_of_has {a f : FlagSet k} (hf : f.IsFlag) (h : a.has f = true) :
    a.isEmpty = false := by
  obtain ⟨i, hi, rfl⟩ := hf
  rw [has_single hi] at h
  cases he : a.isEmpty with
  | false => rfl
  | true =>
    rw [(isEmpty_iff a).mp he, bits_empty, BitVec.getLsbD_zero] at h
    cases h

theorem meets_flag {a f : FlagSet k} (hf : f.IsFlag) : a.meets f = a.has f := by
  obtain ⟨i, hi, rfl⟩ := hf
  rw [Bool.eq_iff_iff]
  constructor
  · intro h
    cases hn : a.has (single i) with
    | true => rfl
    | false =>
      rw [has_single hi] at hn
      have he : a ∩ single i = ∅ := by
        refine eq_of_bits (BitVec.eq_of_getLsbD_eq fun n _ => ?_)
        rw [bits_inter, BitVec.getLsbD_and, getLsbD_single hi, bits_empty, BitVec.getLsbD_zero]
        by_cases hni : n = i
        · rw [hni, hn, Bool.false_and]
        · simp [hni]
      rw [meets, he] at h
      cases h
  · intro h
    rw [meets, show a ∩ single i = single i from eq_of_beq h,
      isEmpty_of_has ⟨i, hi, rfl⟩ (has_self _)]
    rfl

/-- To meet a union is to meet one of its parts. -/
theorem meets_union (a b c : FlagSet k) : a.meets (b ∪ c) = (a.meets b || a.meets c) := by
  have h : a ∩ (b ∪ c) = ∅ ↔ a ∩ b = ∅ ∧ a ∩ c = ∅ := by
    constructor
    · intro h
      have hb : a.bits &&& (b.bits ||| c.bits) = 0#32 := congrArg FlagSet.bits h
      constructor <;> refine eq_of_bits (BitVec.eq_of_getLsbD_eq fun n _ => ?_)
      all_goals
        have := congrArg (·.getLsbD n) hb
        simp only [BitVec.getLsbD_and, BitVec.getLsbD_or, BitVec.getLsbD_zero, bits_inter,
          bits_empty] at this ⊢
        revert this
        cases a.bits.getLsbD n <;> cases b.bits.getLsbD n <;> cases c.bits.getLsbD n <;> simp
    · rintro ⟨h₁, h₂⟩
      have e₁ : a.bits &&& b.bits = 0#32 := congrArg FlagSet.bits h₁
      have e₂ : a.bits &&& c.bits = 0#32 := congrArg FlagSet.bits h₂
      refine eq_of_bits ?_
      show a.bits &&& (b.bits ||| c.bits) = 0#32
      rw [BitVec.and_or_distrib_left, e₁, e₂]
      rfl
  unfold meets
  rw [← Bool.not_and, Bool.eq_iff_iff, Bool.not_eq_true', Bool.not_eq_true',
    ← Bool.not_eq_true, ← Bool.not_eq_true, Bool.and_eq_true, isEmpty_iff, isEmpty_iff, isEmpty_iff,
    h]

/-- A set that has all of another one is its own union with it. -/
theorem union_eq_self {a b : FlagSet k} (h : a.has b = true) : a ∪ b = a := by
  rw [has_iff] at h
  refine eq_of_bits (BitVec.eq_of_getLsbD_eq fun n _ => ?_)
  rw [bits_union, BitVec.getLsbD_or]
  cases hb : b.bits.getLsbD n
  · rw [Bool.or_false]
  · rw [h n hb, Bool.or_true]

end FlagSet

theorem MapFlags.isFlag_write : MapFlags.write.IsFlag := ⟨1, by omega, rfl⟩

theorem MapFlags.isFlag_discard : MapFlags.discard.IsFlag := ⟨2, by omega, rfl⟩

/-! ## 2. The four locations -/

namespace Location

/-- Each location is one flag. -/
theorem isFlag : sysmem.IsFlag ∧ gpuObject.IsFlag ∧ discarded.IsFlag ∧ cleared.IsFlag :=
  ⟨⟨0, by omega, rfl⟩, ⟨1, by omega, rfl⟩, ⟨2, by omega, rfl⟩, ⟨3, by omega, rfl⟩⟩

/-- No location is part of another. -/
@[simp] theorem apart :
    (sysmem.has gpuObject = false ∧ sysmem.has discarded = false ∧ sysmem.has cleared = false) ∧
    (gpuObject.has sysmem = false ∧ gpuObject.has discarded = false ∧
      gpuObject.has cleared = false) ∧
    (discarded.has sysmem = false ∧ discarded.has gpuObject = false ∧
      discarded.has cleared = false) ∧
    (cleared.has sysmem = false ∧ cleared.has gpuObject = false ∧
      cleared.has discarded = false) := by decide

@[simp] theorem has_itself : sysmem.has sysmem = true ∧ gpuObject.has gpuObject = true ∧
    discarded.has discarded = true ∧ cleared.has cleared = true := by decide

@[simp] theorem all_has : all.has sysmem = true ∧ all.has gpuObject = true ∧
    all.has discarded = true ∧ all.has cleared = true := by decide

section

variable (a b : Location)

/-- A union has what one of its parts has. -/
@[simp] theorem has_union : (a ∪ b).has sysmem = (a.has sysmem || b.has sysmem) ∧
    (a ∪ b).has gpuObject = (a.has gpuObject || b.has gpuObject) ∧
    (a ∪ b).has discarded = (a.has discarded || b.has discarded) ∧
    (a ∪ b).has cleared = (a.has cleared || b.has cleared) :=
  ⟨FlagSet.has_union_left isFlag.1, FlagSet.has_union_left isFlag.2.1,
    FlagSet.has_union_left isFlag.2.2.1, FlagSet.has_union_left isFlag.2.2.2⟩

/-- A difference has what the first set has and the second one has not. -/
@[simp] theorem has_sdiff : (a \ b).has sysmem = (a.has sysmem && !b.has sysmem) ∧
    (a \ b).has gpuObject = (a.has gpuObject && !b.has gpuObject) ∧
    (a \ b).has discarded = (a.has discarded && !b.has discarded) ∧
    (a \ b).has cleared = (a.has cleared && !b.has cleared) :=
  ⟨FlagSet.has_sdiff_left isFlag.1, FlagSet.has_sdiff_left isFlag.2.1,
    FlagSet.has_sdiff_left isFlag.2.2.1, FlagSet.has_sdiff_left isFlag.2.2.2⟩

@[simp] theorem meets_sentinel : a.meets sentinel = (a.has discarded || a.has cleared) := by
  unfold sentinel
  rw [FlagSet.meets_union, FlagSet.meets_flag isFlag.2.2.1, FlagSet.meets_flag isFlag.2.2.2]

end

/-- A buffer with some current copy is not without location. -/
theorem isEmpty_eq_false {a : Location}
    (h : a.has sysmem = true ∨ a.has gpuObject = true ∨ a.has cleared = true) :
    a.isEmpty = false := by
  rcases h with h | h | h
  · exact FlagSet.isEmpty_of_has isFlag.1 h
  · exact FlagSet.isEmpty_of_has isFlag.2.1 h
  · exact FlagSet.isEmpty_of_has isFlag.2.2.2 h

/-- A set of locations that are named is empty, or has one of them. -/
theorem has_of_named {a : Location} (h : all.has a = true) (hne : a.isEmpty = false) :
    a.has sysmem = true ∨ a.has gpuObject = true ∨ a.has discarded = true ∨
      a.has cleared = true := by
  have hinter : a ∩ all = a := by
    rw [show a ∩ all = all ∩ a from FlagSet.eq_of_bits (BitVec.and_comm _ _)]
    exact eq_of_beq h
  have hmeets : a.meets (stored ∪ sentinel) = true := by
    rw [show stored ∪ sentinel = all from rfl, FlagSet.meets, hinter, hne]
    rfl
  unfold stored sentinel at hmeets
  simp only [FlagSet.meets_union, FlagSet.meets_flag isFlag.1, FlagSet.meets_flag isFlag.2.1,
    FlagSet.meets_flag isFlag.2.2.1, FlagSet.meets_flag isFlag.2.2.2] at hmeets
  simpa only [Bool.or_eq_true, or_assoc] using hmeets

end Location

end BufferCoherence
