import CallSite.Pattern.Site
import CallSite.Resolve.Feature
import CallSite.Resolve.Resolver

/-!
# Scenarios

A scenario is a list of steps that drive namespaces, loaders, resolvers and pattern sites,
known by handles. Load units, hooks, fragment sources and pattern compilers are blocks of
further steps, so they can do whatever a scenario can.
-/
namespace CallSite.Scenario

/-- The text of a new name, or the handle of a name made earlier. -/
inductive NameRef where
  | text (s : String)
  | handle (h : String)
  deriving Repr, DecidableEq

/-- A value, worked out when it is needed. `concat` joins the values as text. -/
inductive Expr where
  | literal (v : Value)
  | scope (handle : String)
  | var (handle : String)
  | concat (parts : List Expr)
  deriving Repr

inductive LookupRef where
  | own
  | nearest
  | custom (handle : String)
  deriving Repr, DecidableEq

inductive BindingExpr where
  | value (e : Expr)
  | autoload (path : String)
  deriving Repr

structure ConstantExpr where
  declaring : String
  name : NameRef
  binding : BindingExpr
  deriving Repr

structure FragmentText where
  bytes : Bytes
  encoding : Pattern.Encoding
  deriving Repr, DecidableEq

/-- Where a pattern site takes a fragment from: a kept one, or code that logs its label. -/
inductive FragmentSource (step : Type) where
  | kept (handle : String)
  | code (label : String) (block : List step) (result : Except PatternError FragmentText)

inductive HookResult where
  | echo
  | label
  | value (e : Expr)
  | raise (e : ResolveError)
  deriving Repr

/-- A missing-name hook: a block to run, then what to answer. -/
structure Hook (step : Type) where
  block : List step
  result : HookResult

/-- A compiler that finds the source literally. It may fail on some texts, answer another
source or encoding, and run a block the first time it meets a text. -/
structure LiteralCompiler (step : Type) where
  encode : List (Pattern.Encoding × Pattern.Encoding)
  replace : List (String × Bytes)
  fail : List (String × String)
  onCompile : List (String × List step)

inductive CompilerSpec (step : Type) where
  | dialect (sizeLimit : Option Nat)
  | literal (c : LiteralCompiler step)

/-- A lookup of the scenario's own. Calls are numbered from 0. -/
structure LookupSpec where
  inner : LookupRef
  fail : List Nat
  error : ResolveError
  aliases : List (String × String)
  fixed : List (String × Option ConstantExpr)
  deriving Repr

/-- Flag letters, to be read strictly or taken as they come. -/
inductive OptionLetters where
  | strict (letters : String)
  | occurring (letters : String)
  deriving Repr, DecidableEq

def OptionLetters.options : OptionLetters → Except PatternError Pattern.Options
  | strict letters => Pattern.Options.parse letters
  | occurring letters => .ok (Pattern.Options.ofOccurring letters)

inductive LoaderKind where
  | feature
  | script
  deriving Repr, DecidableEq

/-- Steps on namespaces, names and values. -/
inductive SpaceStep where
  | create (id name : String) (parent : Option String)
  | nested (ns name id : String)
  | info (ns : String)
  | set (ns : String) (name : NameRef) (value : Expr)
  | autoload (ns : String) (name : NameRef) (path : String)
  | autoloadPath (ns name : String)
  | get (ns name : String)
  | defined (ns name : String)
  | remove (ns name : String)
  | count (ns : String)
  | name (id text : String)
  | asScope (var id : String)
  | equal (a b : Expr)
  | value (e : Expr)
  deriving Repr

/-- Steps that set up loaders, lookups and resolvers, or look at them. -/
inductive LoaderStep where
  | loader (id : String) (kind : LoaderKind)
  | info (loader path : String)
  | lookup (id : String) (spec : LookupSpec)
  | resolver (id loader : String) (limit : Limit)
  | stats (resolver : String)
  deriving Repr

/-- Steps that set up pattern sites, or use patterns that were built. -/
inductive PatternStep where
  | fragment (id : String) (text : FragmentText)
  | sink (id : String)
  | advise (sink message : String)
  | advisories (sink : Option String)
  | site (id : String) (options : OptionLetters) (limit : Limit)
      (warn : Bool) (compiler sink : Option String)
  | siteInfo (site : String)
  | matchAt (pattern : String) (text : Bytes) (start : Nat)
  | isMatch (pattern : String) (text : Bytes)
  | info (pattern : String)
  | reset (pattern : String)
  | copy (pattern as : String)
  | instantiate (pattern as : String)
  | shares (a b : String)
  deriving Repr

/-- A step. The last few run code: that of units, hooks, lookups, sources or compilers. -/
inductive Step where
  | space (s : SpaceStep)
  | loading (s : LoaderStep)
  | pattern (s : PatternStep)
  | hook (ns : String) (hook : Option (Hook Step))
  | unit (loader path : String) (block : List Step)
  | compiler (id : String) (spec : CompilerSpec Step)
  | rescued (s : Step)
  | raise (e : ResolveError)
  | panic (message : String)
  | missing (ns name : String)
  | require (loader path : String)
  | loadVia (resolver path : String)
  | lookup (ns : String) (name : NameRef) (lookup : LookupRef)
  | read (resolver ns : String) (name : NameRef) (lookup : LookupRef) (keep : Option String)
  | resolve (resolver ns : String) (name : NameRef) (found : Option ConstantExpr)
      (lookup : LookupRef) (keep : Option String)
  | build (site : String) (fragments : List FragmentText) (as : Option String)
  | buildFrom (site : String) (sources : List (FragmentSource Step)) (as : Option String)

abbrev Block := List Step

namespace SpaceStep

def label : SpaceStep → String
  | create .. => "ns"
  | nested .. => "nested"
  | info .. => "ns_info"
  | set .. => "set"
  | autoload .. => "autoload"
  | autoloadPath .. => "autoload_path"
  | get .. => "get"
  | defined .. => "defined"
  | remove .. => "remove"
  | count .. => "count"
  | name .. => "name"
  | asScope .. => "as_ns"
  | equal .. => "eq"
  | value .. => "value"

end SpaceStep

namespace LoaderStep

def label : LoaderStep → String
  | loader .. => "loader"
  | info .. => "loader_info"
  | lookup .. => "lookup_def"
  | resolver .. => "resolver"
  | stats .. => "stats"

end LoaderStep

namespace PatternStep

def label : PatternStep → String
  | fragment .. => "fragment"
  | sink .. => "sink"
  | advise .. => "advise"
  | advisories .. => "advisories"
  | site .. => "site"
  | siteInfo .. => "site_info"
  | matchAt .. => "match"
  | isMatch .. => "is_match"
  | info .. => "pattern"
  | reset .. => "reset"
  | copy .. => "clone"
  | instantiate .. => "instantiate"
  | shares .. => "shares"

end PatternStep

namespace Step

/-- The word that a step is logged with. -/
def label : Step → String
  | space s => s.label
  | loading s => s.label
  | pattern s => s.label
  | hook .. => "hook"
  | unit .. => "unit"
  | compiler .. => "backend"
  | rescued s => s.label
  | raise .. => "raise"
  | panic .. => "panic"
  | missing .. => "missing"
  | require .. => "require"
  | loadVia .. => "load_via"
  | lookup .. => "lookup"
  | read .. => "read"
  | resolve .. => "resolve"
  | build .. => "build"
  | buildFrom .. => "build_from"

end Step
end CallSite.Scenario
