import CallSite.Filter.Arguments
import CallSite.Filter.Lines
import CallSite.Pattern.Dialect
import CallSite.Pattern.Site
import CallSite.Settings.Limits

/-!
# The line filter

The filter builds one pattern at a pattern site and prints the input lines that it matches,
or their number.
-/
namespace CallSite.Filter

/-- What the filter takes as given: how patterns are compiled and how settings files are read. -/
structure Libraries where
  engine : Pattern.Engine
  readSettings : CacheLimits.Reader

/-- What the filter is run in. -/
structure Surroundings where
  environment : CacheLimits.Environment
  /-- What reading a path leads to. -/
  file : String → Except FileProblem Bytes
  input : Bytes

inductive Failure where
  | settings (e : SettingsError)
  | pattern (e : PatternError)
  | unopened (path : String) (problem : FileProblem)
  | unread (problem : FileProblem)
  deriving Repr, DecidableEq

namespace Failure

def message : Failure → String
  | settings e => e.message
  | pattern e => e.message
  | unopened path problem => "Failed to open '" ++ path ++ "': " ++ problem.message
  | unread problem => "Failed to read input: " ++ problem.message

end Failure

/-! ### The pattern -/

/-- The state of a site that stands alone. -/
structure Workspace where
  cache : SiteCache (List Pattern.Fragment) (Shared Pattern.Template)
  nextTag : Nat
  advice : List String

def cacheSlot : Slot Workspace (SiteCache (List Pattern.Fragment) (Shared Pattern.Template)) where
  get := Workspace.cache
  set w c := { w with cache := c }

def tagSlot : Slot Workspace Nat where
  get := Workspace.nextTag
  set w n := { w with nextTag := n }

def site (compile : Pattern.Compiler Workspace) (limits : CacheLimits) (o : Pattern.Options) :
    Pattern.Site Workspace where
  options := o
  warnUnstable := limits.warnUnstable
  compile
  cache := cacheSlot
  nextTag := tagSlot
  advise message w := { w with advice := w.advice ++ [message] }

/-- Each argument is a UTF-8 fragment in a buffer of its own. -/
def fragments (texts : List String) : List Pattern.Fragment :=
  texts.mapIdx fun i text => ⟨⟨Utf8.encode text, i⟩, .utf8⟩

/-- The state before the first build, when as many tags are taken as there are fragments. -/
def start (limits : CacheLimits) (texts : List String) : Workspace :=
  ⟨{ limit := limits.default }, texts.length, []⟩

def buildPattern (engine : Pattern.Engine) (limits : CacheLimits) (o : Pattern.Options)
    (texts : List String) : Except PatternError Pattern × Workspace :=
  let site := site (Pattern.dialectCompiler engine none) limits o
  match site.build (fragments texts) (start limits texts) with
  | .ok p w => (.ok p, w)
  | .error (.failure e) w => (.error e, w)
  | .error (.panic message) w => (.error (.fragment message), w)
  | .error .outOfFuel w => (.error (.fragment "out of fuel"), w)

/-! ### The lines -/

/-- The lines in which a pattern is found, in order. Each search starts at the beginning of
its line, and the outcome of the last one is kept. -/
def matching (p : Pattern) : List Bytes → List Bytes × Pattern
  | [] => ([], p)
  | line :: rest =>
    let (found, p) := p.matchAt line 0
    let (selected, p) := matching p rest
    (if found.isSome then line :: selected else selected, p)

def output (countOnly : Bool) (selected : List Bytes) : Bytes :=
  if countOnly then Utf8.encode (toString selected.length) ++ [lineFeed] else unlines selected

/-! ### Running it -/

def limits (lib : Libraries) (s : Surroundings) (i : Invocation) :
    Except SettingsError CacheLimits :=
  match i.config with
  | some path => CacheLimits.ofFile lib.readSettings path (s.file path)
  | none => .ok (CacheLimits.ofEnvironment s.environment)

/-- The text to filter. A directory can be opened but not read. -/
def inputOf (s : Surroundings) (i : Invocation) : Except Failure Bytes :=
  match i.input with
  | none => .ok s.input
  | some path =>
    match s.file path with
    | .ok bytes => .ok bytes
    | .error .isDirectory => .error (.unread .isDirectory)
    | .error problem => .error (.unopened path problem)

/-- Settles the limits, the flags and the pattern, in this order. -/
def prepare (lib : Libraries) (s : Surroundings) (i : Invocation) : Except Failure Pattern := do
  let limits ← (limits lib s i).mapError Failure.settings
  let o ← (Pattern.Options.parse i.flags).mapError Failure.pattern
  (buildPattern lib.engine limits o i.fragments).1.mapError Failure.pattern

/-- What the filter prints. Nothing is printed unless all of it can be. -/
def filter (lib : Libraries) (s : Surroundings) (i : Invocation) : Except Failure Bytes := do
  let p ← prepare lib s i
  let text ← inputOf s i
  return output i.countOnly (matching p (lines text)).1

end CallSite.Filter
