import CallSite.Regex.Syntax
import CallSite.Text.Utf8

/-!
# Places in a text

A place is an offset together with the bytes on both sides of it, so that assertions see
the whole text wherever a search begins.
-/
namespace CallSite.Regex

/-- `before` is in reverse, the nearest byte first. -/
structure Place where
  offset : Nat
  before : Bytes
  after : Bytes
  deriving Repr, DecidableEq

namespace Place

def start (text : Bytes) : Place := ⟨0, [], text⟩

/-- The place `n` bytes further on, or the end. -/
def advance (p : Place) : Nat → Place
  | 0 => p
  | n + 1 =>
    match p.after with
    | [] => p
    | b :: after => advance ⟨p.offset + 1, b :: p.before, after⟩ n

/-- What stands on one side of a place: whether it is part of a word, and whether it is
intact, which only broken text is not. Where the text ends there is nothing of either. -/
structure Neighbour where
  intact : Bool
  word : Bool
  deriving Repr, DecidableEq

def neighbour (alphabet : Alphabet) (front : Utf8.Front) (byte? : Option UInt8) : Neighbour :=
  match alphabet with
  | .octets =>
    match byte? with
    | none => ⟨true, false⟩
    | some b => ⟨true, (ClassSet.ofProperty .octets .word).contains b.toNat⟩
  | .scalars =>
    match front with
    | .done => ⟨true, false⟩
    | .broken _ => ⟨false, false⟩
    | .scalar c _ => ⟨true, CodePoints.word.member c.toNat⟩

/-- Assertions that hold between two things that are no word also ask that both be text. -/
def atEdge (edge : WordEdge) (left right : Neighbour) : Bool :=
  match edge with
  | .boundary => left.word != right.word
  | .inside => left.intact && right.intact && left.word == right.word
  | .start => !left.word && right.word
  | .stop => left.word && !right.word
  | .afterGap => left.intact && !left.word
  | .beforeGap => right.intact && !right.word

def isFeed : Option UInt8 → Bool
  | some b => b == 0x0A
  | none => false

def isReturn : Option UInt8 → Bool
  | some b => b == 0x0D
  | none => false

def holds (p : Place) : Assertion → Bool
  | .textStart => p.before.isEmpty
  | .textEnd => p.after.isEmpty
  | .lineStart false => p.before.isEmpty || isFeed p.before.head?
  | .lineEnd false => p.after.isEmpty || isFeed p.after.head?
  | .lineStart true =>
    p.before.isEmpty || isFeed p.before.head? ||
      (isReturn p.before.head? && !isFeed p.after.head?)
  | .lineEnd true =>
    p.after.isEmpty || isReturn p.after.head? ||
      (isFeed p.after.head? && !isReturn p.before.head?)
  | .word edge alphabet =>
    atEdge edge (neighbour alphabet (Utf8.back p.before) p.before.head?)
      (neighbour alphabet (Utf8.front p.after) p.after.head?)

/-- The place behind the symbol at `p`, if there is one and the set contains it. -/
def read? (p : Place) (alphabet : Alphabet) (set : ClassSet) : Option Place :=
  match alphabet with
  | .octets =>
    match p.after with
    | b :: _ => if set.contains b.toNat then some (p.advance 1) else none
    | [] => none
  | .scalars =>
    match Utf8.front p.after with
    | .scalar c width => if set.contains c.toNat then some (p.advance width) else none
    | _ => none

end Place
end CallSite.Regex
