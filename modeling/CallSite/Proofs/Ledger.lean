import CallSite.Proofs.Base
import CallSite.Resolve.Feature

/-!
# Programs whose calls are written down

A program gives the code of loaders, load units and hooks. That code, and the code that a run
starts with, creates namespaces, changes their constants and hooks, requires features of any
number of loaders and reads through any number of resolvers. It sees everything, keeps a memory of
its own, fails and panics. A run writes down every call as it begins and as it ends, and where the
code of a loader, a unit or a hook begins. So whenever code runs, the tables that it finds are
written down.
-/
namespace CallSite.Ledger

/-- `ι` are the resolvers, `ℓ` the loaders of features, `η` the hooks, `υ` the load units, and `μ`
is what code remembers. -/
inductive Call (ι ℓ η υ μ : Type) where
  | look
  | keep (memory : μ)
  | change (c : Change η)
  | register (loader : ℓ) (path : String) (unit : υ)
  | require (loader : ℓ) (path : String)
  | read (resolver : ι) (lookup : Strategy) (ns : Namespace) (name : Name)

variable {ι ℓ η υ μ : Type}

/-- All that code can see. -/
structure View (ι ℓ η υ μ : Type) extends Base ι η where
  features : ℓ → Features υ
  memory : μ

def Call.Reply : Call ι ℓ η υ μ → Type
  | look => View ι ℓ η υ μ
  | keep _ | register .. => Unit
  | change c => c.Reply
  | require .. => Bool
  | read .. => Value

abbrev LedgerCode (ι ℓ η υ μ α : Type) := Code (Call ι ℓ η υ μ) Call.Reply ResolveError α

/-- What the loader of each resolver does, what each unit does when it is run for a path, and what
each hook does. The code of a resolver that loads features is to require the path. -/
structure Program (ι ℓ η υ μ : Type) where
  load : ι → String → LedgerCode ι ℓ η υ μ Unit
  unit : υ → String → LedgerCode ι ℓ η υ μ Unit
  hook : η → Namespace → Symbol → LedgerCode ι ℓ η υ μ Value

inductive Event (ι ℓ η υ μ : Type) where
  | began (c : Call ι ℓ η υ μ)
  | ended (c : Call ι ℓ η υ μ) (ending : Except (Stop ResolveError) c.Reply)
  | load (resolver : ι) (path : String)
  | unit (loader : ℓ) (unit : υ) (path : String)
  | hook (hook : η) (ns : Namespace) (symbol : Symbol)

/-- The log is last first; each entry has the tables at its time. -/
structure State (ι ℓ η υ μ : Type) extends View ι ℓ η υ μ where
  log : List (Event ι ℓ η υ μ × Store η) := []

namespace State

def record (e : Event ι ℓ η υ μ) (s : State ι ℓ η υ μ) : State ι ℓ η υ μ :=
  { s with log := (e, s.store) :: s.log }

def base : Slot (State ι ℓ η υ μ) (Base ι η) where
  get s := s.toBase
  set s toBase := { s with toBase }

def featuresSlot [DecidableEq ℓ] (loader : ℓ) : Slot (State ι ℓ η υ μ) (Features υ) where
  get s := s.features loader
  set s features := { s with features := Function.update s.features loader features }
  get_set s features := by simp
  set_set s features features' := by simp

end State

namespace Program

/-- A way to run the code of loaders, units and hooks. -/
abbrev Runner (ι ℓ η υ μ : Type) :=
  Code.Runner (Call ι ℓ η υ μ) Call.Reply (State ι ℓ η υ μ) ResolveError

variable [DecidableEq ι] [DecidableEq ℓ]

/-- Runs code, and writes down that it begins. -/
def enter {α : Type} (run : Runner ι ℓ η υ μ) (e : Event ι ℓ η υ μ)
    (code : LedgerCode ι ℓ η υ μ α) : Act (State ι ℓ η υ μ) ResolveError α := do
  modify (State.record e)
  run code

def runUnit (P : Program ι ℓ η υ μ) (run : Runner ι ℓ η υ μ) (loader : ℓ) (unit : υ)
    (path : String) : Act (State ι ℓ η υ μ) ResolveError Unit :=
  enter run (.unit loader unit path) (P.unit unit path)

def resolver (P : Program ι ℓ η υ μ) (run : Runner ι ℓ η υ μ) (i : ι) :
    Resolver (State ι ℓ η υ μ) η :=
  State.base.resolver i (fun path => enter run (.load i path) (P.load i path))
    fun hook ns symbol => enter run (.hook hook ns symbol) (P.hook hook ns symbol)

/-- What a call does, given a way to run code and fuel for chains of load units. -/
def act (P : Program ι ℓ η υ μ) (run : Runner ι ℓ η υ μ) (fuel : Nat) :
    (c : Call ι ℓ η υ μ) → Act (State ι ℓ η υ μ) ResolveError c.Reply
  | .look => fun s => .ok s.toView s
  | .keep memory => modify fun s => { s with memory }
  | .change c => State.base.store.update c.run
  | .register loader path unit => (State.featuresSlot loader).modify (·.register path unit)
  | .require loader path =>
    Features.require (State.featuresSlot loader) (P.runUnit run loader) path
  | .read i l ns name => (P.resolver run i).read (l.lookup State.base.store) fuel ns name

/-- Makes a call, and writes down that it begins and how it ends. -/
def perform (P : Program ι ℓ η υ μ) (run : Runner ι ℓ η υ μ) (fuel : Nat)
    (c : Call ι ℓ η υ μ) : Act (State ι ℓ η υ μ) ResolveError c.Reply := do
  modify (State.record (.began c))
  (P.act run fuel c).noting fun ending => State.record (.ended c ending)

/-- Runs code of the program. -/
def exec (P : Program ι ℓ η υ μ) : Nat → Runner ι ℓ η υ μ := Code.exec P.perform

end Program
end CallSite.Ledger
