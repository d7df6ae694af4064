import CallSite.Text.Numeral
import CallSite.Text.Utf8

/-!
# Scanning a source for escapes
-/
namespace CallSite.Pattern.Scan

def backslash : UInt8 := 0x5C
def letterX : UInt8 := 0x78
def letterU : UInt8 := 0x75

/-- The value of a byte that is a hexadecimal digit of either case. -/
def digitValue? (b : UInt8) : Option Nat := hexValue? (Char.ofNat b.toNat)

/-- Whether all bytes are below `80`, where `\xHH` counts as the byte it denotes. The scan
goes on behind such an escape. A single digit denotes a byte below `80` and `\x` without a
digit is no escape; both are passed over byte by byte. -/
def isSevenBit : Bytes → Bool
  | [] => true
  | a :: rest =>
    if !isAscii a then false
    else
      match rest with
      | x :: high :: low :: behind =>
        match digitValue? high, digitValue? low with
        | some h, some l =>
          if a = backslash ∧ x = letterX then
            if 0x80 ≤ h * 16 + l then false else isSevenBit behind
          else isSevenBit (x :: high :: low :: behind)
        | _, _ => isSevenBit (x :: high :: low :: behind)
      | rest => isSevenBit rest

/-- Whether there is a `\u` whose backslash no other backslash takes away. -/
def hasUnicodeEscape : Bytes → Bool
  | [] => false
  | [_] => false
  | a :: b :: rest =>
    if a = backslash then b = letterU || hasUnicodeEscape rest else hasUnicodeEscape (b :: rest)

end CallSite.Pattern.Scan
