/-!
# UTF-8 byte strings

Byte strings are read from the front, one well-formed scalar value or one broken stretch
at a time. A broken stretch is the longest beginning of a well-formed sequence that is not
continued, or else a single byte.
-/
namespace CallSite

abbrev Bytes := List UInt8

def isAscii (b : UInt8) : Bool := b < 0x80

namespace Utf8

/-- What the first byte of a longer sequence asks of those after it: its own bits, the
range of the second byte, and how many further bytes follow that one. -/
structure Lead where
  bits : Nat
  low : UInt8
  high : UInt8
  more : Nat
  deriving Repr, DecidableEq

/-- The second byte's range is narrowed after `E0`, `ED`, `F0` and `F4`: overlong forms,
surrogates and values above `10FFFF` are no scalar values. -/
def lead? (a : UInt8) : Option Lead :=
  if a < 0xC2 then none
  else if a < 0xE0 then some ⟨a.toNat - 0xC0, 0x80, 0xBF, 0⟩
  else if a < 0xF0 then
    some ⟨a.toNat - 0xE0, if a = 0xE0 then 0xA0 else 0x80, if a = 0xED then 0x9F else 0xBF, 1⟩
  else if a < 0xF5 then
    some ⟨a.toNat - 0xF0, if a = 0xF0 then 0x90 else 0x80, if a = 0xF4 then 0x8F else 0xBF, 2⟩
  else none

/-- What stands at the front of a byte string, with the number of bytes it takes. -/
inductive Front where
  | done
  | scalar (c : Char) (width : Nat)
  | broken (width : Nat)
  deriving Repr, DecidableEq

/-- Appends the six bits of `b` to the value read so far. -/
def extend (value : Nat) (b : UInt8) : Nat := value * 64 + (b.toNat - 0x80)

/-- Reads the bytes still missing from a sequence of which `width` bytes were read. -/
def tails (value width : Nat) : Nat → Bytes → Front
  | 0, _ => .scalar (Char.ofNat value) width
  | more + 1, b :: rest =>
    if 0x80 ≤ b ∧ b ≤ 0xBF then tails (extend value b) (width + 1) more rest
    else .broken width
  | _ + 1, [] => .broken width

def front : Bytes → Front
  | [] => .done
  | a :: rest =>
    if isAscii a then .scalar (Char.ofNat a.toNat) 1
    else
      match lead? a, rest with
      | some lead, b :: rest =>
        if lead.low ≤ b ∧ b ≤ lead.high then tails (extend lead.bits b) 2 lead.more rest
        else .broken 1
      | _, _ => .broken 1

/-- The pieces of a byte string after its first `skip` bytes: a scalar value, or `none` for
a broken stretch. -/
def piecesFrom : Nat → Bytes → List (Option Char)
  | _, [] => []
  | skip + 1, _ :: rest => piecesFrom skip rest
  | 0, b :: rest =>
    match front (b :: rest) with
    | .scalar c width => some c :: piecesFrom (width - 1) rest
    | .broken width => none :: piecesFrom (width - 1) rest
    | .done => []

def pieces (bs : Bytes) : List (Option Char) := piecesFrom 0 bs

def isValid (bs : Bytes) : Bool := (pieces bs).all Option.isSome

/-- The characters of a byte string, each broken stretch replaced by U+FFFD. -/
def lossyChars (bs : Bytes) : List Char := (pieces bs).map (·.getD '\uFFFD')

def lossy (bs : Bytes) : String := String.ofList (lossyChars bs)

def decode? (bs : Bytes) : Option String :=
  if isValid bs then some (lossy bs) else none

/-- The bytes that spell one scalar value. -/
def encodeChar (c : Char) : Bytes :=
  let n := c.toNat
  let tail (unit : Nat) : UInt8 := UInt8.ofNat (0x80 + n / unit % 64)
  if n < 0x80 then [UInt8.ofNat n]
  else if n < 0x800 then [UInt8.ofNat (0xC0 + n / 64), tail 1]
  else if n < 0x10000 then [UInt8.ofNat (0xE0 + n / 4096), tail 64, tail 1]
  else [UInt8.ofNat (0xF0 + n / 262144), tail 4096, tail 64, tail 1]

def encodeChars (cs : List Char) : Bytes := cs.flatMap encodeChar

def encode (s : String) : Bytes := encodeChars s.toList

/-- The scalar value whose bytes end where `before`, which is in reverse, begins. The read
starts at the nearest of its last four bytes that can start a sequence, so it may end
before the position it started from. -/
def back (before : Bytes) : Front :=
  match before.take 4 with
  | [] => .done
  | recent =>
    let continuation (b : UInt8) : Bool := 0x80 ≤ b && b ≤ 0xBF
    let skipped := (recent.dropLast.takeWhile continuation).length
    front (recent.take (skipped + 1)).reverse

end Utf8
end CallSite
