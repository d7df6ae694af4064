import CallSite.Regex.Fault
import CallSite.Regex.Syntax
import CallSite.Text.Utf8

/-!
# Flags, and what they make of the parts of a pattern
-/
namespace CallSite.Regex

structure Flags where
  ignoreCase : Bool := false
  multiLine : Bool := true
  dotAll : Bool := false
  swapGreed : Bool := false
  unicode : Bool := true
  crlf : Bool := false
  extended : Bool := false
  deriving Repr, DecidableEq

namespace Flags

/-- Unicode mode reads scalar values, the other mode reads bytes. -/
def alphabet (flags : Flags) : Alphabet :=
  if flags.unicode then .scalars else .octets

/-- Sets the flag with this letter. -/
def set? (flags : Flags) (letter : Char) (on : Bool) : Option Flags :=
  match letter with
  | 'i' => some { flags with ignoreCase := on }
  | 'm' => some { flags with multiLine := on }
  | 's' => some { flags with dotAll := on }
  | 'U' => some { flags with swapGreed := on }
  | 'u' => some { flags with unicode := on }
  | 'R' => some { flags with crlf := on }
  | 'x' => some { flags with extended := on }
  | _ => none

/-- Closes a set under case variants where case is ignored. -/
def folded (flags : Flags) (set : ClassSet) : ClassSet :=
  if flags.ignoreCase then .anyCase flags.alphabet set else set

/-- A literal character. In byte mode `\xHH`, marked by `octet`, is one byte, and any other
character stands for its UTF-8 bytes. -/
def literal (flags : Flags) (c : Char) (octet : Bool) : Regex :=
  if !flags.unicode && octet && 0x80 ≤ c.toNat then .byte (UInt8.ofNat c.toNat)
  else if flags.ignoreCase && 1 < (flags.alphabet.variants c.toNat).length then
    .oneOf flags.alphabet (.anyCase flags.alphabet (.single c.toNat))
  else .ofBytes (Utf8.encodeChar c)

/-- The symbol that a character in a class stands for. -/
def symbol (flags : Flags) (c : Char) (octet : Bool) : Except Fault Nat :=
  if flags.unicode || octet || c.toNat < 0x80 then .ok c.toNat else .error .notAByte

def dot (flags : Flags) : Regex :=
  .oneOf flags.alphabet (if flags.dotAll then .complement .none else .notLineEnd flags.crlf)

def caret (flags : Flags) : Assertion :=
  if flags.multiLine then .lineStart flags.crlf else .textStart

def dollar (flags : Flags) : Assertion :=
  if flags.multiLine then .lineEnd flags.crlf else .textEnd

end Flags
end CallSite.Regex
