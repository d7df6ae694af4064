import CallSite.Proofs.Base

/-!
# Programs that read constants

A program gives the code of loaders, lookups and hooks. That code, and the code that a run
starts with, may change tables and hooks, read through any resolver, and keep a memory of its
own. It sees everything but the memos of the resolvers. A run keeps a log of all calls that
resolvers make and of how all calls to them end.
-/
namespace CallSite.Reading

/-- `ι` are the resolvers, `ℓ` the lookups, `η` the hooks, and `μ` is what code remembers. -/
inductive Call (ι ℓ η μ : Type) where
  | look
  | leave (store : Store η) (memory : μ)
  | load (resolver : ι) (path : String)
  | read (resolver : ι) (lookup : ℓ) (ns : Namespace) (name : Name)
  | resolve (resolver : ι) (lookup : ℓ) (ns : Namespace) (name : Name) (found : Option Constant)
  | missing (ns : Namespace) (symbol : Symbol)

variable {ι ℓ η μ : Type}

/-- `look` answers with all tables and the memory; `leave` puts others in their place. -/
def Call.Reply : Call ι ℓ η μ → Type
  | look => Store η × μ
  | leave .. | load .. => Unit
  | read .. | resolve .. | missing .. => Value

abbrev ReadingCode (ι ℓ η μ α : Type) := Code (Call ι ℓ η μ) Call.Reply ResolveError α

/-- What the loader of each resolver, each lookup and each hook does. -/
structure Program (ι ℓ η μ : Type) where
  load : ι → String → ReadingCode ι ℓ η μ Unit
  lookup : ℓ → Namespace → Name → ReadingCode ι ℓ η μ (Option Constant)
  hook : η → Namespace → Symbol → ReadingCode ι ℓ η μ Value

/-- `asked` is the name that a hook is to stand in for, if a read has come to it. -/
inductive Event (ι ℓ η : Type) where
  | load (resolver : ι) (path : String)
  | lookup (lookup : ℓ) (ns : Namespace) (name : Name)
  | hook (hook : η) (ns : Namespace) (symbol : Symbol) (asked : Option Name)
  | left
  | loaded (ending : Except (Stop ResolveError) Unit)
  | answered (ending : Except (Stop ResolveError) Value)

/-- The log is last first; each entry has the tables at its time. -/
structure State (ι ℓ η μ : Type) extends Base ι η where
  memory : μ
  log : List (Event ι ℓ η × Store η) := []

namespace State

def record (e : Event ι ℓ η) (s : State ι ℓ η μ) : State ι ℓ η μ :=
  { s with log := (e, s.store) :: s.log }

def base : Slot (State ι ℓ η μ) (Base ι η) where
  get := State.toBase
  set s toBase := { s with toBase }

end State

namespace Program

variable [DecidableEq ι]

/-- A way to run the code of loaders, lookups and hooks. -/
abbrev Runner (ι ℓ η μ : Type) :=
  Code.Runner (Call ι ℓ η μ) Call.Reply (State ι ℓ η μ) ResolveError

/-- Runs code, and logs that it begins. -/
def enter {α : Type} (run : Runner ι ℓ η μ) (e : Event ι ℓ η) (code : ReadingCode ι ℓ η μ α) :
    Act (State ι ℓ η μ) ResolveError α := do
  modify (State.record e)
  run code

/-- Runs a hook for the name `asked`, or for a symbol that code has passed itself. -/
def dispatch (P : Program ι ℓ η μ) (run : Runner ι ℓ η μ) (asked : Option Name) (hook : η)
    (ns : Namespace) (symbol : Symbol) : Act (State ι ℓ η μ) ResolveError Value :=
  enter run (.hook hook ns symbol asked) (P.hook hook ns symbol)

/-- The resolver as it works for a call about the name `asked`. -/
def resolver (P : Program ι ℓ η μ) (run : Runner ι ℓ η μ) (i : ι) (asked : Option Name) :
    Resolver (State ι ℓ η μ) η :=
  State.base.resolver i (fun path => enter run (.load i path) (P.load i path))
    (P.dispatch run asked)

def strategy (P : Program ι ℓ η μ) (run : Runner ι ℓ η μ) (l : ℓ) :
    Lookup (State ι ℓ η μ) := fun ns name =>
  enter run (.lookup l ns name) (P.lookup l ns name)

/-- What a call does, given a way to run code and fuel for chains of load units. -/
def perform (P : Program ι ℓ η μ) (run : Runner ι ℓ η μ) (fuel : Nat) :
    (c : Call ι ℓ η μ) → Act (State ι ℓ η μ) ResolveError c.Reply
  | .look => fun s => .ok (s.store, s.memory) s
  | .leave store memory => modify fun s => State.record .left { s with store, memory }
  | .load i path => ((P.resolver run i none).load path).noting fun ending =>
      State.record (.loaded ending)
  | .read i l ns name =>
    ((P.resolver run i (some name)).read (P.strategy run l) fuel ns name).noting fun ending =>
      State.record (.answered ending)
  | .resolve i l ns name found =>
    ((P.resolver run i (some name)).resolve (P.strategy run l) ns name fuel found).noting
      fun ending => State.record (.answered ending)
  | .missing ns symbol =>
    (CallSite.missing State.base.store (P.dispatch run none) ns symbol).noting fun ending =>
      State.record (.answered ending)

/-- Runs code of the program. -/
def exec (P : Program ι ℓ η μ) : Nat → Runner ι ℓ η μ := Code.exec P.perform

end Program
end CallSite.Reading
