import CallSite.Cache
import CallSite.Identity
import CallSite.Pattern.Encoding
import CallSite.Text.Quoted
import CallSite.Text.Utf8

/-!
# Fragments

A pattern is built from fragments, each a piece of text with its encoding. A fragment from
the same buffer as an earlier one is the same fragment, not merely an equal one.
-/
namespace CallSite.Pattern

structure Fragment where
  buffer : Shared Bytes
  encoding : Encoding
  deriving Repr, DecidableEq

namespace Fragment

def bytes (f : Fragment) : Bytes := f.buffer.content

def isAsciiOnly (f : Fragment) : Bool := f.bytes.all isAscii

/-- Same buffer and same encoding. -/
def same (a b : Fragment) : Bool := a.buffer.same b.buffer && a.encoding == b.encoding

/-- Same bytes and same encoding. -/
def equal (a b : Fragment) : Bool := a.bytes == b.bytes && a.encoding == b.encoding

/-- One sequence stands for another if it is as long and its fragments do one by one. -/
def pairwise (test : Fragment → Fragment → Bool) : List Fragment → List Fragment → Bool
  | [], [] => true
  | a :: as, b :: bs => test a b && pairwise test as bs
  | _, _ => false

instance : CacheKey (List Fragment) where
  sameIdentity := pairwise same
  contentEq := pairwise equal

def inspect (f : Fragment) : String :=
  "Fragment(" ++ Quoted.quote (Utf8.lossy f.bytes) ++ ", " ++ f.encoding.name ++ ")"

end Fragment
end CallSite.Pattern
