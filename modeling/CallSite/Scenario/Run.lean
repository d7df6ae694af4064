import CallSite.Pattern.Dialect
import CallSite.Scenario.Loading
import CallSite.Scenario.Patterns
import CallSite.Scenario.Spaces

/-!
# Running a scenario

Steps that run code are given the way to run a step, one level further down. The levels
are the fuel: a scenario that nests for ever runs out of it.
-/
namespace CallSite.Scenario

/-- The way to run a step inside another. -/
abbrev Runner := Step → Script Answer

open Script

/-- Runs the steps of a block in order. Each is logged behind what it logged itself; one
that fails ends the block unless it is to be rescued, and a panic is not logged. -/
def runBlock (run : Runner) : Block → Script Unit
  | [] => pure ()
  | step :: rest => do
    let outcome ← (run step).caught
    record (.step step.label outcome)
    match outcome, step with
    | .error _, .rescued _ => runBlock run rest
    | .error e, _ => Act.fail e
    | .ok _, _ => runBlock run rest

def runUnit (run : Runner) (block : Block) (path : String) : Act World ResolveError Unit := do
  record (.unit path)
  (runBlock run block).mapFailure Failure.asResolve

/-- Requires a path of a loader. A loader that runs units every time has nothing to answer. -/
def runLoader (run : Runner) (number : Nat) (path : String) :
    Act World ResolveError (Option Bool) := do
  match (← world).loaders.get? number with
  | some (.script units requests) =>
    modify fun w =>
      { w with loaders := w.loaders.insert number (.script units (requests ++ [path])) }
    match units.get? path with
    | none => Act.fail (.noSuchUnit path)
    | some block =>
      runUnit run block path
      return none
  | _ => return some (← Features.require (World.featureSlot number) (runUnit run) path)

def runHook (run : Runner) (hook : Hook Step) (ns : Namespace) (symbol : Symbol) :
    Act World ResolveError Value := do
  record (.hook ns.name symbol.text)
  (runBlock run hook.block).mapFailure Failure.asResolve
  match hook.result with
  | .echo => return .symbol symbol
  | .label => return .string (ns.nestedName symbol.text ++ "?")
  | .value e => Script.value e
  | .raise e => Act.fail e

/-- A lookup of the scenario's own counts the call, then fails, answers a fixed constant, or
passes the name on under its alias. Each lookup passed through takes one unit of fuel. -/
def runLookup : Nat → LookupTarget → Lookup World
  | _, .own => Lookup.own World.storeSlot
  | _, .nearest => Lookup.nearest World.storeSlot
  | 0, .custom _ => fun _ _ => Act.outOfFuel
  | fuel + 1, .custom number => fun ns name => do
    let l ← known "lookup" (toString number) ((← world).lookups.get? number)
    modify fun w => { w with lookups := w.lookups.insert number { l with calls := l.calls + 1 } }
    record (.lookup l.calls ns.name name.text)
    if l.fail.contains l.calls then Act.fail l.error
    else
      match l.fixed.lookup name.text with
      | some c => return c
      | none =>
        match l.aliases.lookup name.text with
        | some other => runLookup fuel l.inner ns (← Script.name (.text other))
        | none => runLookup fuel l.inner ns name

def resolver (run : Runner) (number loader : Nat) : Resolver World (Hook Step) where
  store := World.storeSlot
  memo := World.memoSlot number
  load path := do discard (runLoader run loader path)
  runHook := runHook run

/-- The resolver that a handle leads to. -/
def resolverOf {ε : Type} (run : Runner) (handle : String) :
    Act World ε (Resolver World (Hook Step)) := do
  let n ← number .resolver handle
  return resolver run n (← known "resolver" handle ((← world).resolvers.get? n))

/-- The literal compiler logs what it compiles, and runs the block of a text the first time
it meets it. The dialect compiles with the engine that the scenario is run with. -/
def runCompiler (engine : Pattern.Engine) (run : Runner) (number : Nat) :
    Pattern.Compiler World := fun s o => do
  match (← world).compilers.get? number with
  | some (.literal c met) =>
    record (.compile s.lossy s.encoding)
    match c.onCompile.lookup s.lossy with
    | some block =>
      if !met.contains s.lossy then
        modify fun w =>
          { w with compilers := w.compilers.insert number (.literal c (s.lossy :: met)) }
        (runBlock run block).mapFailure Failure.asPattern
    | none => pure ()
    Act.ofExcept (c.finish s)
  | some (.dialect sizeLimit) => Pattern.dialectCompiler engine sizeLimit s o
  | none => Pattern.dialectCompiler engine none s o

/-- The pattern site that a handle leads to, with its number. -/
def siteOf {ε : Type} (engine : Pattern.Engine) (run : Runner) (handle : String) :
    Act World ε (Nat × Pattern.Site World) := do
  let n ← number .site handle
  let parts ← known "site" handle ((← world).sites.get? n)
  return (n, {
    options := parts.options
    warnUnstable := parts.warn
    compile := runCompiler engine run parts.compiler
    cache := World.cacheSlot n
    nextTag := World.freshSlot
    advise := World.advise parts.sink
    cache_advise := fun message w => World.cacheSlot_advise n parts.sink message w })

/-- A fragment source as code. -/
def evaluate (run : Runner) : FragmentSource Step → Act World PatternError Pattern.Fragment
  | .kept handle => do known "fragment" handle ((← world).fragments.get? handle)
  | .code label block result => do
    record (.evaluate label)
    (runBlock run block).mapFailure Failure.asPattern
    fragment (← Act.ofExcept result)

/-- Builds a pattern at a site and keeps it, if it was built and a handle is given. -/
def runBuild (engine : Pattern.Engine) (run : Runner) (handle : String) (as : Option String)
    (build : Pattern.Site World → Act World PatternError Pattern) : Script Answer := do
  let (n, site) ← siteOf engine run handle
  let p ← (build site).mapFailure Failure.pattern
  match as with
  | some h => keepPattern h p
  | none => pure ()
  return .built p ((← world).siteState n)

def runRead (keep : Option String) (x : Act World ResolveError Value) : Script Answer := do
  let v ← x.mapFailure Failure.resolve
  match keep with
  | some h => modify fun w => { w with vars := w.vars.insert h v }
  | none => pure ()
  return .value v

/-- Runs one step, with `run` for the steps inside it and `fuel` for chains of load units. -/
def runStep (engine : Pattern.Engine) (run : Runner) (fuel : Nat) : Step → Script Answer
  | .space s => s.run
  | .loading s => s.run
  | .pattern s => s.run
  | .hook ns hook => do
    let ns ← space ns
    World.storeSlot.modify (·.setHook ns hook)
    return .nothing
  | .unit loader path block => registerUnit loader path block
  | .compiler id spec => createCompiler id spec
  | .rescued s => run s
  | .raise e => Act.fail (.resolve e)
  | .panic message => Act.panic message
  | .missing ns name => do
    let ns ← space ns
    let x := CallSite.missing World.storeSlot (runHook run) ns ⟨name⟩
    return .value (← x.mapFailure Failure.resolve)
  | .require loader path => do
    let n ← number .loader loader
    match ← (runLoader run n path).mapFailure Failure.resolve with
    | some ran => return .flag ran
    | none => return .nothing
  | .loadVia handle path => do
    let r ← resolverOf run handle
    (r.load path).mapFailure Failure.resolve
    return .nothing
  | .lookup ns name lookup => do
    let ns ← space ns
    let name ← Script.name name
    let lookup ← target lookup
    return .constant (← (runLookup fuel lookup ns name).mapFailure Failure.resolve)
  | .read handle ns name lookup keep => do
    let r ← resolverOf run handle
    let ns ← space ns
    let name ← Script.name name
    let lookup ← target lookup
    runRead keep (r.read (runLookup fuel lookup) fuel ns name)
  | .resolve handle ns name found lookup keep => do
    let r ← resolverOf run handle
    let ns ← space ns
    let name ← Script.name name
    let found ← constant? found
    let lookup ← target lookup
    runRead keep (r.resolve (runLookup fuel lookup) ns name fuel found)
  | .build handle fragments as =>
    runBuild engine run handle as fun site => do site.build (← fragments.mapM fragment)
  | .buildFrom handle sources as =>
    runBuild engine run handle as fun site => site.buildFrom (sources.map (evaluate run))

/-- Runs a step with at most `fuel` levels of steps inside steps. -/
def exec (engine : Pattern.Engine) : Nat → Runner
  | 0 => fun _ => Act.outOfFuel
  | fuel + 1 => runStep engine (exec engine fuel) fuel

/-- How a top-level step ended. -/
inductive Outcome where
  | answer (a : Answer)
  | failure (e : Failure)
  | panic (message : String)
  | outOfFuel

/-- What a top-level step answered, with what was logged during it. -/
structure Report where
  outcome : Outcome
  events : List Event

/-- Runs a top-level step. Nothing that happens in it stops the scenario. -/
def report (engine : Pattern.Engine) (fuel : Nat) (step : Step) (w : World) : Report × World :=
  let finish (outcome : Outcome) (w : World) : Report × World :=
    (⟨outcome, w.log.reverse⟩, { w with log := [] })
  match exec engine fuel step w with
  | .ok a w => finish (.answer a) w
  | .error (.failure e) w => finish (.failure e) w
  | .error (.panic message) w => finish (.panic message) w
  | .error .outOfFuel w => finish .outOfFuel w

/-- Runs the steps of a scenario in order. -/
def reports (engine : Pattern.Engine) (fuel : Nat) : List Step → World → List Report
  | [], _ => []
  | step :: rest, w =>
    let (r, w) := report engine fuel step w
    r :: reports engine fuel rest w

end CallSite.Scenario
