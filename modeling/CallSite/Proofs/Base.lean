import CallSite.Proofs.Code
import CallSite.Resolve.Resolver
import Mathlib.Logic.Function.Basic

/-!
# What resolvers work on

The machines that run programs with resolvers differ in what code may see and in what is written
down about it. They agree in what resolvers work on, the tables of all namespaces and a memo for
each resolver, and in what code does to the tables.
-/
namespace CallSite

namespace Slot

variable {σ τ υ : Type}

/-- A part of a part. -/
def inner (slot : Slot σ τ) (part : Slot τ υ) : Slot σ υ where
  get s := part.get (slot.get s)
  set s u := slot.set s (part.set (slot.get s) u)
  get_set s u := by rw [slot.get_set, part.get_set]
  set_set s u u' := by rw [slot.get_set, slot.set_set, part.set_set]

end Slot

/-! ### Tables and memos -/

/-- `ι` are the resolvers and `η` the hooks. -/
structure Base (ι η : Type) where
  store : Store η
  memos : ι → SiteCache Name Symbol

namespace Base

variable {ι η : Type}

def storeSlot : Slot (Base ι η) (Store η) where
  get := Base.store
  set b store := { b with store }

variable [DecidableEq ι]

def memoSlot (resolver : ι) : Slot (Base ι η) (SiteCache Name Symbol) where
  get b := b.memos resolver
  set b memo := { b with memos := Function.update b.memos resolver memo }
  get_set b memo := by simp
  set_set b memo memo' := by simp

end Base

namespace Slot

variable {σ ι η : Type}

/-- The tables in a state of which the base is a part. -/
def store (base : Slot σ (Base ι η)) : Slot σ (Store η) := base.inner Base.storeSlot

variable [DecidableEq ι]

def memo (base : Slot σ (Base ι η)) (resolver : ι) : Slot σ (SiteCache Name Symbol) :=
  base.inner (Base.memoSlot resolver)

/-- A resolver that works on the base, and how it runs load units and hooks. -/
def resolver (base : Slot σ (Base ι η)) (i : ι) (load : String → Act σ ResolveError Unit)
    (runHook : η → Namespace → Symbol → Act σ ResolveError Value) : Resolver σ η where
  store := base.store
  memo := base.memo i
  load
  runHook

end Slot

/-! ### Changes of tables -/

/-- What code may do to the tables: it creates a namespace, or touches one constant or the hook of
one. -/
inductive Change (η : Type) where
  | create (name : String) (parent : Option Namespace)
  | set (ns : Namespace) (name : String) (v : Value)
  | autoload (ns : Namespace) (name path : String)
  | remove (ns : Namespace) (name : String)
  | defineNested (outer : Namespace) (name : String)
  | setHook (ns : Namespace) (hook : Option η)

namespace Change

variable {η : Type}

def Reply : Change η → Type
  | set .. | remove .. => Option Binding
  | autoload .. => Bool
  | create .. | defineNested .. => Namespace
  | setHook .. => Unit

/-- The answer, with the tables afterwards. -/
def run : (c : Change η) → Store η → c.Reply × Store η
  | create name none => (·.createRoot name)
  | create name (some parent) => (·.createChild name parent)
  | set ns name v => (·.setConstant ns name v)
  | autoload ns name path => (·.autoload ns name path)
  | remove ns name => (·.removeConstant ns name)
  | defineNested outer name => (·.defineNested outer name)
  | setHook ns hook => fun s => ((), s.setHook ns hook)

end Change

/-! ### Lookups in the tables -/

inductive Strategy where
  | own
  | nearest
  deriving Repr, DecidableEq

namespace Strategy

variable {σ η : Type}

/-- What a name is found to be bound to. -/
def found (store : Store η) (ns : Namespace) (name : Name) : Strategy → Option Constant
  | own => store.lookupOwn ns name
  | nearest => store.lookupNearest ns name

def lookup (store : Slot σ (Store η)) : Strategy → Lookup σ
  | own => Lookup.own store
  | nearest => Lookup.nearest store

theorem binding?_of_found {store : Store η} {ns : Namespace} {name : Name} {l : Strategy}
    {c : Constant} (h : l.found store ns name = some c) :
    store.binding? c.declaring c.name.text = some c.binding := by
  cases l with
  | own => exact Store.binding?_of_lookupOwn h
  | nearest => exact Store.binding?_of_lookupNearest h

theorem lookup_eq (store : Slot σ (Store η)) (l : Strategy) (ns : Namespace) (name : Name)
    (s : σ) : l.lookup store ns name s = .ok (l.found (store.get s) ns name) s := by
  cases l with
  | own => rfl
  | nearest => rfl

theorem read_eq {r : Resolver σ η} {store : Slot σ (Store η)} {l : Strategy} {ns : Namespace}
    {name : Name} {fuel : Nat} {s : σ} :
    r.read (l.lookup store) fuel ns name s =
      r.resolve (l.lookup store) ns name fuel (l.found (store.get s) ns name) s :=
  Act.bind_of_ok (lookup_eq store l ns name s)

end Strategy
end CallSite
