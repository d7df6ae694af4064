import CallSite.Regex.Place
import CallSite.Regex.Program

/-!
# Searching

The machine follows the preferred branch first and comes back to the others when it fails,
so the first match it meets is the preferred one. What lies ahead of an instruction at a
place depends on the two alone; each pair is therefore tried only once.
-/
namespace CallSite.Regex

structure Program where
  code : Array Instruction
  deriving Repr, DecidableEq

def Program.ofRegex (regex : Regex) : Program :=
  ⟨(regex.codeAt 0 ++ [Instruction.accept]).toArray⟩

structure Thread where
  pc : Nat
  place : Place
  deriving Repr, DecidableEq

/-- The pairs of an instruction and an offset that have been tried. -/
structure Tried where
  stride : Nat
  marks : Array Bool
  deriving Repr, DecidableEq

namespace Tried

def none (program : Program) (length : Nat) : Tried :=
  ⟨length + 1, Array.replicate (program.code.size * (length + 1)) false⟩

def index (tried : Tried) (t : Thread) : Nat := t.pc * tried.stride + t.place.offset

def has (tried : Tried) (t : Thread) : Bool := tried.marks[tried.index t]?.getD true

def mark (tried : Tried) (t : Thread) : Tried :=
  { tried with marks := tried.marks.setIfInBounds (tried.index t) true }

end Tried

/-- Where an instruction leads, the preferred way first. -/
def Instruction.next (i : Instruction) (t : Thread) : List Thread :=
  match i with
  | .byte b =>
    match t.place.after with
    | a :: _ => if a == b then [⟨t.pc + 1, t.place.advance 1⟩] else []
    | [] => []
  | .oneOf alphabet set =>
    match t.place.read? alphabet set with
    | some place => [⟨t.pc + 1, place⟩]
    | none => []
  | .look a => if t.place.holds a then [⟨t.pc + 1, t.place⟩] else []
  | .fork first second => [⟨first, t.place⟩, ⟨second, t.place⟩]
  | .jump target => [⟨target, t.place⟩]
  | .accept => []

namespace Program

/-- Follows the threads of a stack until one accepts, and answers where it does. -/
def explore (program : Program) : Nat → List Thread → Tried → Option Nat × Tried
  | 0, _, tried => (none, tried)
  | _ + 1, [], tried => (none, tried)
  | fuel + 1, t :: stack, tried =>
    if tried.has t then explore program fuel stack tried
    else
      match program.code[t.pc]? with
      | none => explore program fuel stack tried
      | some .accept => (some t.place.offset, tried)
      | some i => explore program fuel (i.next t ++ stack) (tried.mark t)

/-- Enough for one exploration: each pair is marked at most once and then leads to at most
two threads. -/
def fuel (program : Program) (length : Nat) : Nat :=
  2 * program.code.size * (length + 1) + 2

/-- The first match that starts at `place` or later; `ahead` is the text from there on. -/
def findFrom (program : Program) (fuel : Nat) : (ahead : Bytes) → Place → Tried → Option (Nat × Nat)
  | [], place, tried =>
    (program.explore fuel [⟨0, place⟩] tried).1.map (place.offset, ·)
  | _ :: ahead, place, tried =>
    match program.explore fuel [⟨0, place⟩] tried with
    | (some stop, _) => some (place.offset, stop)
    | (none, tried) => findFrom program fuel ahead (place.advance 1) tried

/-- The leftmost match at or after an offset of the text, as its two ends. -/
def find? (program : Program) (text : Bytes) (start : Nat) : Option (Nat × Nat) :=
  let length := text.length
  let place := (Place.start text).advance start
  program.findFrom (program.fuel length) place.after place (.none program length)

end Program
end CallSite.Regex
