import CallSite.Pattern.Fragment
import CallSite.Pattern.Options

/-!
# The source of a pattern

Fragments are joined in order. Those that are all ASCII fit into every encoding; the others
must agree on one, which becomes the encoding of the source.
-/
namespace CallSite.Pattern

structure Source where
  bytes : Bytes
  encoding : Encoding
  deriving Repr, DecidableEq

namespace Source

def lossy (s : Source) : String := Utf8.lossy s.bytes

/-- The bytes joined so far, and the encoding that the first non-ASCII fragment asked for. -/
structure Joined where
  bytes : Bytes := []
  agreed : Option Encoding := none
  deriving Repr, DecidableEq

/-- The encoding agreed on once a fragment is added to those before it. -/
def agree (o : Options) (agreed : Option Encoding) (f : Fragment) :
    Except PatternError (Option Encoding) :=
  if f.encoding = .utf8 ∧ ¬ Utf8.isValid f.bytes then
    .error (.invalidMultibyte f.encoding (Utf8.lossy f.bytes))
  else if f.isAsciiOnly then .ok agreed
  else if o.noEncoding ∧ f.encoding ≠ .binary then .error (.nonAsciiWithoutEncoding f.encoding)
  else
    match agreed with
    | none => .ok (some f.encoding)
    | some seen =>
      if seen = f.encoding then .ok agreed else .error (.encodingMismatch seen f.encoding)

def join (o : Options) (j : Joined) : List Fragment → Except PatternError Joined
  | [] => .ok j
  | f :: rest => do
    let agreed ← agree o j.agreed f
    join o ⟨j.bytes ++ f.bytes, agreed⟩ rest

/-- The encoding of a source whose non-ASCII fragments, if any, agreed on `agreed`. -/
def settle (o : Options) (agreed : Option Encoding) : Encoding :=
  if o.noEncoding then .binary
  else agreed.getD (if o.fixedEncoding then .utf8 else .usAscii)

/-- Joins fragments and settles the encoding of the result. -/
def ofFragments (o : Options) (fragments : List Fragment) : Except PatternError Source := do
  let j ← join o {} fragments
  return ⟨j.bytes, settle o j.agreed⟩

end Source
end CallSite.Pattern
