import CallSite.Cache
import CallSite.Identity
import CallSite.Text.Quoted

/-!
# Names and symbols

A name is text as a call site holds it: many names may have the same text. A symbol stands
for the text alone.
-/
namespace CallSite

abbrev Name := Shared String

structure Symbol where
  text : String
  deriving Repr, DecidableEq

namespace Symbol

/-- The text behind a colon. -/
def inspect (s : Symbol) : String := ":" ++ s.text

end Symbol

namespace Name

def text (name : Name) : String := name.content

def symbol (name : Name) : Symbol := ⟨name.text⟩

instance : CacheKey Name where
  sameIdentity := Shared.same
  contentEq a b := a.text == b.text

end Name
end CallSite
