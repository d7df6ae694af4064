import CallSite.Regex.Syntax

/-!
# Programs

An expression is compiled to a list of instructions for a machine that reads the text from
a place onwards. The code of an expression, laid out at `at`, is entered at its first
instruction and left by going on behind its last one.
-/
namespace CallSite.Regex

inductive Instruction where
  | byte (b : UInt8)
  | oneOf (alphabet : Alphabet) (set : ClassSet)
  | look (a : Assertion)
  /-- Try `first`; if that leads to no match, try `second`. -/
  | fork (first second : Nat)
  | jump (target : Nat)
  | accept
  deriving Repr, DecidableEq

end CallSite.Regex

namespace CallSite

namespace Regex

/-- Number of instructions in the code of an expression. -/
def codeSize : Regex → Nat
  | empty => 0
  | byte _ | oneOf .. | look _ => 1
  | seq a b => a.codeSize + b.codeSize
  | alt a b => a.codeSize + b.codeSize + 2
  | repeated a min max _ =>
    match max with
    | some max => min * a.codeSize + (max - min) * (a.codeSize + 1)
    | none => if min = 0 then a.codeSize + 2 else min * a.codeSize + 1
  | capture a => a.codeSize

/-- Memory for the compiled form in bytes, as an estimate that grows with the number of
instructions and with the ranges of their classes. -/
def footprint : Regex → Nat
  | empty => 0
  | byte _ | look _ => 32
  | oneOf .octets _ => 96
  | oneOf .scalars set => 64 * set.extent + 96
  | seq a b => a.footprint + b.footprint
  | alt a b => a.footprint + b.footprint + 64
  | repeated a min max _ =>
    match max with
    | some max => min * a.footprint + (max - min) * (a.footprint + 32)
    | none => Nat.max min 1 * a.footprint + 64
  | capture a => a.footprint + 64

/-- A two-way choice between going on and leaving; the greedy one goes on first. -/
def choice (greedy : Bool) (onward out : Nat) : Instruction :=
  if greedy then .fork onward out else .fork out onward

/-- The code of an expression, laid out at `at`. An unbounded repetition of an expression
that can match without reading is entered at most once more after each round, so that its
preferences stay in order. -/
def codeAt : Regex → (start : Nat) → List Instruction
  | empty, _ => []
  | byte b, _ => [.byte b]
  | oneOf alphabet set, _ => [.oneOf alphabet set]
  | look a, _ => [.look a]
  | seq a b, start => a.codeAt start ++ b.codeAt (start + a.codeSize)
  | alt a b, start =>
    let second := start + a.codeSize + 2
    .fork (start + 1) second :: a.codeAt (start + 1) ++
      .jump (second + b.codeSize) :: b.codeAt second
  | repeated a min max greedy, start =>
    let size := a.codeSize
    let required := (List.range min).flatMap fun i => a.codeAt (start + i * size)
    let rest := start + min * size
    match max with
    | some max =>
      let out := rest + (max - min) * (size + 1)
      required ++ (List.range (max - min)).flatMap fun i =>
        let here := rest + i * (size + 1)
        choice greedy (here + 1) out :: a.codeAt (here + 1)
    | none =>
      if min = 0 then
        let out := start + size + 2
        let again := if a.readsSomething then .jump start else choice greedy (start + 1) out
        choice greedy (start + 1) out :: a.codeAt (start + 1) ++ [again]
      else
        required ++ [choice greedy (rest - size) (rest + 1)]
  | capture a, start => a.codeAt start

end Regex
end CallSite
