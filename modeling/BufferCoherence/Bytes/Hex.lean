import BufferCoherence.Bytes

/-!
# Bytes as text

Two written forms of a run of bytes: every byte as two hexadecimal digits, the higher one first, and
a digest of 64 bits for runs that are too long to show. Reading takes digits of either case.

Main fact: `ofHex?_hexText` says that a written run reads back as it was.
-/

namespace BufferCoherence.Bytes

/-! ## 1. Digits -/

/-- The digit of a number below sixteen. -/
def hexDigit (n : UInt8) : Char := Nat.digitChar (n.toNat % 16)

/-- The number of a digit. -/
def digitValue? (c : Char) : Option UInt8 :=
  let value (first : Char) (base : Nat) : UInt8 := (c.toNat - first.toNat + base).toUInt8
  if '0' ≤ c ∧ c ≤ '9' then some (value '0' 0)
  else if 'a' ≤ c ∧ c ≤ 'f' then some (value 'a' 10)
  else if 'A' ≤ c ∧ c ≤ 'F' then some (value 'A' 10)
  else none

/-! ## 2. Runs -/

/-- The digits of a run. -/
def hexDigits : List UInt8 → List Char
  | [] => []
  | v :: rest => hexDigit (v / 16) :: hexDigit (v % 16) :: hexDigits rest

/-- The bytes written by a list of digits; `none` where something is not a digit, or a digit is
    left over. -/
def ofHexDigits? : List Char → Option (List UInt8)
  | [] => some []
  | [_] => none
  | a :: b :: rest => do
    let high ← digitValue? a
    let low ← digitValue? b
    let bytes ← ofHexDigits? rest
    pure ((high * 16 + low) :: bytes)

/-- The written form of a run. -/
def hexText (b : ByteArray) : String := String.ofList (hexDigits b.data.toList)

/-- The run with a written form. -/
def ofHex? (s : String) : Option ByteArray :=
  (ofHexDigits? s.toList).map fun bytes => ⟨bytes.toArray⟩

/-! ## 3. Digest -/

/-- A digest of 64 bits: each byte is mixed in by an exclusive or and a product. -/
def digest (b : ByteArray) : UInt64 :=
  b.foldl (fun h v => (h ^^^ v.toUInt64) * 0x100000001b3) 0xcbf29ce484222325

/-- A digest as sixteen digits. -/
def digestText (n : UInt64) : String :=
  let digits := Nat.toDigits 16 n.toNat
  String.ofList (List.replicate (16 - digits.length) '0' ++ digits)

/-! ## 4. Reading back -/

theorem digitValue?_ofFin :
    ∀ i : Fin 16, digitValue? (hexDigit (.ofNat i.val)) = some (.ofNat i.val) := by decide

theorem digitValue?_hexDigit (n : UInt8) (h : n < 16) :
    digitValue? (hexDigit n) = some n := by
  have lt : n.toNat < 16 := h
  simpa using digitValue?_ofFin ⟨n.toNat, lt⟩

theorem ofHexDigits?_hexDigits (l : List UInt8) : ofHexDigits? (hexDigits l) = some l := by
  induction l with
  | nil => rfl
  | cons v rest ih =>
    have high : v / 16 < 16 := by
      rw [UInt8.lt_iff_toNat_lt, UInt8.toNat_div]
      have := v.toNat_lt
      simp only [UInt8.reduceToNat]
      omega
    have low : v % 16 < 16 := by
      rw [UInt8.lt_iff_toNat_lt, UInt8.toNat_mod]
      simp only [UInt8.reduceToNat]
      omega
    have whole : v / 16 * 16 + v % 16 = v := by
      apply UInt8.toNat_inj.1
      have := v.toNat_lt
      simp only [UInt8.toNat_add, UInt8.toNat_mul, UInt8.toNat_div, UInt8.toNat_mod,
        UInt8.reduceToNat]
      omega
    simp [hexDigits, ofHexDigits?, digitValue?_hexDigit _ high, digitValue?_hexDigit _ low, ih,
      whole]

/-- **A written run reads back as it was.** -/
theorem ofHex?_hexText (b : ByteArray) : ofHex? (hexText b) = some b := by
  simp [ofHex?, hexText, ofHexDigits?_hexDigits]

end BufferCoherence.Bytes
