import CallSite.Scenario.Step

/-!
# The state of a scenario

Handles lead to values or to numbered objects. A handle that is used again leads to
something new, while what already holds an object keeps it.
-/
namespace CallSite.Scenario

inductive Failure where
  | resolve (e : ResolveError)
  | pattern (e : PatternError)
  deriving Repr, DecidableEq

namespace Failure

/-- A failure inside a load unit, a hook or a lookup. -/
def asResolve : Failure → ResolveError
  | resolve e => e
  | pattern e => .runtime e.message

/-- A failure inside a fragment source or a compiler. -/
def asPattern : Failure → PatternError
  | resolve e => .fragment e.message
  | pattern e => e

end Failure

structure SiteState where
  length : Nat
  unstable : Bool
  stats : SiteStats
  deriving Repr, DecidableEq

structure SpaceInfo where
  name : String
  id : Nat
  count : Nat
  parent : Option String
  inspect : String
  ancestors : List String
  deriving Repr, DecidableEq

structure FeatureInfo where
  loaded : Bool
  count : Nat
  units : Nat
  deriving Repr, DecidableEq

/-- What a step answers. -/
inductive Answer where
  | nothing
  | flag (b : Bool)
  | number (n : Nat)
  | text (s : String)
  | noText
  | value (v : Value)
  | inspected (v : Value)
  | binding (b : Option Binding)
  | constant (c : Option Constant)
  | spaceInfo (info : SpaceInfo)
  | features (info : FeatureInfo)
  | requests (paths : List String)
  | memoStats (stats : SiteStats) (disabled : Bool)
  | options (o : Pattern.Options)
  | advisories (messages : List String)
  | logged (messages : List String)
  | siteState (s : SiteState)
  | pattern (p : Pattern)
  | built (p : Pattern) (s : SiteState)
  | found (span : Option (Nat × Nat))

inductive Event where
  | step (label : String) (outcome : Except Failure Answer)
  | hook (ns name : String)
  | unit (path : String)
  | lookup (call : Nat) (ns name : String)
  | compile (text : String) (encoding : Pattern.Encoding)
  | evaluate (label : String)

/-- A loader runs each unit once, or every time and keeps a record of the requests. -/
inductive Loader where
  | feature (f : Features Block)
  | script (units : Dict String Block) (requests : List String)

/-- A way to look names up; the scenario's own ones are numbered. -/
inductive LookupTarget where
  | own
  | nearest
  | custom (number : Nat)
  deriving Repr, DecidableEq

/-- A lookup of the scenario's own, with the number of calls so far. -/
structure CustomLookup where
  inner : LookupTarget
  fail : List Nat
  error : ResolveError
  aliases : List (String × String)
  fixed : List (String × Option Constant)
  calls : Nat := 0

/-- The literal compiler remembers the texts whose block it has run. -/
inductive CompilerState where
  | dialect (sizeLimit : Option Nat)
  | literal (c : LiteralCompiler Step) (met : List String)

/-- Advice goes to a sink, or to the log if there is none. -/
structure SiteParts where
  options : Pattern.Options
  warn : Bool
  compiler : Nat
  sink : Option Nat
  deriving Repr, DecidableEq

/-- Kinds of numbered objects; each has handles of its own. -/
inductive Kind where
  | loader
  | lookup
  | resolver
  | compiler
  | sink
  | site
  deriving Repr, DecidableEq

/-- `fresh` numbers the objects and tags what is stored. `resolvers` gives the loader of
each resolver, `advice` the messages that went to the log, and `log` is last first. -/
structure World where
  fresh : Nat := 0
  store : Store (Hook Step) := {}
  spaces : Dict String Namespace := .empty
  names : Dict String Name := .empty
  vars : Dict String Value := .empty
  fragments : Dict String Pattern.Fragment := .empty
  patterns : Dict String Pattern := .empty
  handles : Dict (Kind × String) Nat := .empty
  loaders : Dict Nat Loader := .empty
  lookups : Dict Nat CustomLookup := .empty
  resolvers : Dict Nat Nat := .empty
  memos : Dict Nat (SiteCache Name Symbol) := .empty
  compilers : Dict Nat CompilerState := .empty
  sinks : Dict Nat (List String) := .empty
  sites : Dict Nat SiteParts := .empty
  caches : Dict Nat (SiteCache (List Pattern.Fragment) (Shared Pattern.Template)) := .empty
  advice : List String := []
  log : List Event := []

abbrev Script (α : Type) := Act World Failure α

namespace World

def smallest : Limit := ⟨1, Nat.one_pos⟩

def storeSlot : Slot World (Store (Hook Step)) where
  get := World.store
  set w s := { w with store := s }

def freshSlot : Slot World Nat where
  get := World.fresh
  set w n := { w with fresh := n }

/-- The memo of a resolver. -/
def memoSlot (number : Nat) : Slot World (SiteCache Name Symbol) where
  get w := (w.memos.get? number).getD { limit := smallest }
  set w memo := { w with memos := w.memos.insert number memo }
  get_set w memo := by simp
  set_set w memo memo' := by simp

/-- The cache of a pattern site. -/
def cacheSlot (number : Nat) :
    Slot World (SiteCache (List Pattern.Fragment) (Shared Pattern.Template)) where
  get w := (w.caches.get? number).getD { limit := smallest }
  set w cache := { w with caches := w.caches.insert number cache }
  get_set w cache := by simp
  set_set w cache cache' := by simp

/-- The features of a loader that runs units once. -/
def featureSlot (number : Nat) : Slot World (Features Block) where
  get w :=
    match w.loaders.get? number with
    | some (.feature f) => f
    | _ => {}
  set w f := { w with loaders := w.loaders.insert number (.feature f) }
  get_set w f := by simp
  set_set w f f' := by simp

def record (e : Event) (w : World) : World := { w with log := e :: w.log }

/-- Sends advice to a sink, or to the log. -/
def advise (sink : Option Nat) (message : String) (w : World) : World :=
  match sink with
  | none => { w with advice := w.advice ++ [message] }
  | some number =>
    { w with sinks := w.sinks.insert number ((w.sinks.get? number).getD [] ++ [message]) }

theorem cacheSlot_advise (number : Nat) (sink : Option Nat) (message : String) (w : World) :
    (cacheSlot number).get (w.advise sink message) = (cacheSlot number).get w := by
  cases sink <;> rfl

def siteState (w : World) (number : Nat) : SiteState :=
  let cache := (cacheSlot number).get w
  ⟨cache.length, cache.unstable, cache.stats⟩

end World

namespace Script

variable {ε α : Type}

/-- A handle that leads nowhere is a mistake in the scenario itself. -/
def known (what handle : String) : Option α → Act World ε α
  | some a => pure a
  | none => Act.panic ("no " ++ what ++ " is known as " ++ handle)

def world : Act World ε World := get

def space (handle : String) : Act World ε Namespace := do
  known "namespace" handle ((← world).spaces.get? handle)

def pattern (handle : String) : Act World ε Pattern := do
  known "pattern" handle ((← world).patterns.get? handle)

def number (kind : Kind) (handle : String) : Act World ε Nat := do
  known "object" handle ((← world).handles.get? (kind, handle))

/-- A new tag or object number. -/
def fresh : Act World ε Nat := World.freshSlot.update fun n => (n, n + 1)

/-- Gives a handle to a new object of a kind. -/
def create (kind : Kind) (handle : String) : Act World ε Nat := do
  let n ← fresh
  modify fun w => { w with handles := w.handles.insert (kind, handle) n }
  return n

def record (e : Event) : Act World ε Unit := modify (·.record e)

def name : NameRef → Act World ε Name
  | .text s => return ⟨s, ← fresh⟩
  | .handle h => do known "name" h ((← world).names.get? h)

def fragment (f : FragmentText) : Act World ε Pattern.Fragment :=
  return ⟨⟨f.bytes, ← fresh⟩, f.encoding⟩

mutual

def value : Expr → Act World ε Value
  | .literal v => pure v
  | .scope h => return .scope (← space h)
  | .var h => do known "value" h ((← world).vars.get? h)
  | .concat parts => return .string (← text parts)

def text : List Expr → Act World ε String
  | [] => pure ""
  | e :: rest => do
    let v ← value e
    return v.display ++ (← text rest)

end

def constant (c : ConstantExpr) : Act World ε Constant := do
  let declaring ← space c.declaring
  let name ← name c.name
  match c.binding with
  | .value e => return ⟨declaring, name, .value (← value e)⟩
  | .autoload path => return ⟨declaring, name, .autoload path⟩

def constant? : Option ConstantExpr → Act World ε (Option Constant)
  | some c => return some (← constant c)
  | none => pure none

def target : LookupRef → Act World ε LookupTarget
  | .own => pure .own
  | .nearest => pure .nearest
  | .custom h => return .custom (← number .lookup h)

end Script
end CallSite.Scenario
