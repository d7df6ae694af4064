/-!
# Identity

Text and bytes that are stored once and passed around are told apart from separately made
copies by a tag that is given out when they are stored.
-/
namespace CallSite

/-- A stored value. Two stored values are the same one when both the tag and the content
agree, so identity never holds between different contents. -/
structure Shared (α : Type) where
  content : α
  tag : Nat
  deriving Repr, DecidableEq

namespace Shared

variable {α : Type} [DecidableEq α]

def same (a b : Shared α) : Bool := a == b

theorem content_eq_of_same {a b : Shared α} (h : a.same b = true) : a.content = b.content := by
  have : a = b := by simpa [same] using h
  rw [this]

end Shared
end CallSite
