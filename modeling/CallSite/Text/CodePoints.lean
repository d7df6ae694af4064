/-!
# Sets of code points

A set is stored as the increasing list of points at which membership switches, starting
outside. The tables of the character properties are such lists.
-/
namespace CallSite

structure CodePoints where
  switches : List Nat
  deriving Repr, DecidableEq

namespace CodePoints

/-- Membership of `n`, when the points before it have left us at `inside`. -/
def memberFrom (inside : Bool) : List Nat → Nat → Bool
  | [], _ => inside
  | p :: rest, n => if n < p then inside else memberFrom (!inside) rest n

def member (s : CodePoints) (n : Nat) : Bool :=
  memberFrom false s.switches n

end CodePoints
end CallSite
