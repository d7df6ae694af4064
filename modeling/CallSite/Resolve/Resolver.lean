import CallSite.Resolve.Error

/-!
# Reading constants

A constant that is bound to a value is that value. One that waits for a load unit is taken
out of its namespace, the unit is run and the name looked up again; if anything in that
fails, the marker is put back, so that a later read tries again. A name that nothing is
bound to goes to the hook of the namespace where the read began.
-/
namespace CallSite

/-- Where a resolver finds the store and its own memo of symbols, and how it runs load
units and hooks. -/
structure Resolver (σ η : Type) where
  store : Slot σ (Store η)
  memo : Slot σ (SiteCache Name Symbol)
  load : String → Act σ ResolveError Unit
  runHook : η → Namespace → Symbol → Act σ ResolveError Value

/-- An answer to "what is this name bound to, seen from here?". -/
abbrev Lookup (σ : Type) := Namespace → Name → Act σ ResolveError (Option Constant)

namespace Lookup

variable {σ η : Type}

def own (store : Slot σ (Store η)) : Lookup σ := fun ns name => do
  return (← store.read).lookupOwn ns name

def nearest (store : Slot σ (Store η)) : Lookup σ := fun ns name => do
  return (← store.read).lookupNearest ns name

end Lookup

/-- The symbol of a name, from the memo if it is there, and kept there if there is room. -/
def memoSymbol (memo : SiteCache Name Symbol) (name : Name) : Symbol × SiteCache Name Symbol :=
  match memo.probe name with
  | (.hit symbol, memo) => (symbol, memo)
  | (.unstable, memo) => (name.symbol, memo)
  | (.miss, memo) =>
    match memo.offer name name.symbol with
    | (.existing symbol, memo) => (symbol, memo)
    | (_, memo) => (name.symbol, memo)

/-- Asks the hook that is now installed, or fails if there is none. -/
def missing {σ η : Type} (store : Slot σ (Store η))
    (runHook : η → Namespace → Symbol → Act σ ResolveError Value) (ns : Namespace)
    (symbol : Symbol) : Act σ ResolveError Value := do
  match (← store.read).hook? ns with
  | some hook => runHook hook ns symbol
  | none => Act.fail (.nameNotFound ns.name symbol)

section Missing

variable {σ η : Type} {store : Slot σ (Store η)}
  {runHook : η → Namespace → Symbol → Act σ ResolveError Value} {ns : Namespace}
  {symbol : Symbol} {s : σ}

theorem missing_of_hook {hook : η} (h : (store.get s).hook? ns = some hook) :
    missing store runHook ns symbol s = runHook hook ns symbol s := by
  simp only [missing, Bind.bind, EStateM.bind, Slot.read, h]

theorem missing_of_no_hook (h : (store.get s).hook? ns = none) :
    missing store runHook ns symbol s = .error (.failure (.nameNotFound ns.name symbol)) s := by
  simp only [missing, Bind.bind, EStateM.bind, Slot.read, h]
  rfl

end Missing

namespace Resolver

variable {σ η : Type}

/-- Takes a marker away while `x` runs, and puts it back if `x` does not end with a value. -/
def withoutMarker {α : Type} (r : Resolver σ η) (declaring : Namespace) (name path : String)
    (x : Act σ ResolveError α) : Act σ ResolveError α := do
  r.store.modify (·.remove declaring name)
  x.onStop (r.store.adjust (·.mark declaring name path))

/-- Resolves what a lookup of `name` from `ns` has found. Each load unit that is run takes
one unit of fuel. -/
def resolve (r : Resolver σ η) (lookup : Lookup σ) (ns : Namespace) (name : Name) :
    Nat → Option Constant → Act σ ResolveError Value
  | _, none => do
    let symbol ← r.memo.update (memoSymbol · name)
    missing r.store r.runHook ns symbol
  | _, some ⟨_, _, .value v⟩ => pure v
  | 0, some ⟨_, _, .autoload _⟩ => Act.outOfFuel
  | fuel + 1, some ⟨declaring, declared, .autoload path⟩ =>
    r.withoutMarker declaring declared.text path do
      r.load path
      resolve r lookup ns name fuel (← lookup ns name)

def read (r : Resolver σ η) (lookup : Lookup σ) (fuel : Nat) (ns : Namespace) (name : Name) :
    Act σ ResolveError Value := do
  r.resolve lookup ns name fuel (← lookup ns name)

end Resolver
end CallSite
