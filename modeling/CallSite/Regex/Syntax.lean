import CallSite.Regex.ClassSet

/-!
# Regular expressions

The expressions that patterns denote, after flags have been settled: every literal is a
byte, every class says whether it reads a scalar value or a byte.
-/
namespace CallSite.Regex

/-- A place in relation to the words around it. -/
inductive WordEdge where
  | boundary
  | inside
  | start
  | stop
  | afterGap
  | beforeGap
  deriving Repr, DecidableEq

/-- A condition on a place in the text that reads nothing. -/
inductive Assertion where
  | textStart
  | textEnd
  | lineStart (crlf : Bool)
  | lineEnd (crlf : Bool)
  | word (edge : WordEdge) (alphabet : Alphabet)
  deriving Repr, DecidableEq

end CallSite.Regex

namespace CallSite

/-- Of two alternatives the first is preferred; a greedy repetition prefers to go on. -/
inductive Regex where
  | empty
  | byte (b : UInt8)
  | oneOf (alphabet : Regex.Alphabet) (set : Regex.ClassSet)
  | look (a : Regex.Assertion)
  | seq (a b : Regex)
  | alt (a b : Regex)
  | repeated (a : Regex) (min : Nat) (max : Option Nat) (greedy : Bool)
  | capture (a : Regex)
  deriving Repr, DecidableEq

namespace Regex

/-- No match of the expression reads anything. -/
def readsNothing : Regex → Bool
  | empty | look _ => true
  | byte _ | oneOf .. => false
  | seq a b | alt a b => a.readsNothing && b.readsNothing
  | repeated a _ max _ => a.readsNothing || max == some 0
  | capture a => a.readsNothing

/-- Every match of the expression reads something. -/
def readsSomething : Regex → Bool
  | empty | look _ => false
  | byte _ | oneOf .. => true
  | seq a b => a.readsSomething || b.readsSomething
  | alt a b => a.readsSomething && b.readsSomething
  | repeated a min _ _ => min != 0 && a.readsSomething
  | capture a => a.readsSomething

def hasCapture : Regex → Bool
  | empty | look _ | byte _ | oneOf .. => false
  | seq a b | alt a b => a.hasCapture || b.hasCapture
  | repeated a _ _ _ => a.hasCapture
  | capture _ => true

def hasLook : Regex → Bool
  | look _ => true
  | empty | byte _ | oneOf .. => false
  | seq a b | alt a b => a.hasLook || b.hasLook
  | repeated a _ _ _ | capture a => a.hasLook

/-- Repetition, with the counts cut down where more would read nothing new. -/
def times (a : Regex) (min : Nat) (max : Option Nat) (greedy : Bool) : Regex :=
  let (min, max) :=
    if a.readsNothing then (Nat.min min 1, some (Nat.min (max.getD 1) 1)) else (min, max)
  if max = some 0 then empty
  else if min = 1 ∧ max = some 1 then a
  else repeated a min max greedy

def ofBytes (bs : List UInt8) : Regex :=
  match bs with
  | [] => empty
  | [b] => byte b
  | b :: rest => seq (byte b) (ofBytes rest)

def ofList : List Regex → Regex
  | [] => empty
  | [a] => a
  | a :: rest => seq a (ofList rest)

/-- The first of several alternatives is preferred. -/
def ofAlternatives : List Regex → Regex
  | [] => empty
  | [a] => a
  | a :: rest => alt a (ofAlternatives rest)

end Regex
end CallSite
