import CallSite.Pattern.Scan
import CallSite.Proofs.Spelling

/-!
# Digits and escapes of bytes

What the digits of an escape are worth, whether they are read as characters or as bytes, and how
to tell whether a backslash is taken by the one before it.
-/
namespace CallSite

/-- The code of a hexadecimal digit of value `n`, of either case. -/
def IsHexDigit (code n : Nat) : Prop :=
  (n < 10 ∧ code = 0x30 + n) ∨
    (10 ≤ n ∧ n < 16 ∧ (code = 0x41 + (n - 10) ∨ code = 0x61 + (n - 10)))

theorem IsHexDigit.lt {code n : Nat} (h : IsHexDigit code n) : n < 16 := by
  rw [IsHexDigit] at h
  omega

theorem IsHexDigit.unique {code m n : Nat} (hm : IsHexDigit code m) (hn : IsHexDigit code n) :
    m = n := by
  rw [IsHexDigit] at hm hn
  omega

theorem hexValue?_eq_some_iff {c : Char} {n : Nat} :
    hexValue? c = some n ↔ IsHexDigit c.toNat n := by
  have hle {a b : Char} : a ≤ b ↔ a.toNat ≤ b.toNat := by
    rw [Char.le_def, UInt32.le_iff_toNat_le]
    rfl
  simp only [hexValue?, hle, Char.reduceToNat, IsHexDigit]
  split_ifs <;> simp only [Option.some.injEq, false_iff] <;> omega

namespace Pattern.Scan

/-- The character that a byte is when each byte is one. -/
theorem toNat_ofNat_byte (b : UInt8) : (Char.ofNat b.toNat).toNat = b.toNat := by
  have hb : b.toNat < 256 := b.toNat_lt
  exact Utf8.toNat_char (.inl (by omega))

theorem digitValue?_eq_some_iff {b : UInt8} {n : Nat} :
    digitValue? b = some n ↔ IsHexDigit b.toNat n := by
  rw [digitValue?, hexValue?_eq_some_iff, toNat_ofNat_byte]

/-! ### Runs of backslashes -/

/-- How many backslashes a source ends in. -/
def closingRun (bs : Bytes) : Nat := (bs.reverse.takeWhile (· = backslash)).length

theorem closingRun_append_backslash (bs : Bytes) :
    closingRun (bs ++ [backslash]) = closingRun bs + 1 := by
  simp [closingRun]

theorem closingRun_append_of_ne (bs : Bytes) {b : UInt8} (hb : b ≠ backslash) :
    closingRun (bs ++ [b]) = 0 := by
  simp [closingRun, hb]

end Pattern.Scan
end CallSite
