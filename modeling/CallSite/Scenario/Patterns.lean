import CallSite.Scenario.World

/-!
# Steps on pattern sites and patterns
-/
namespace CallSite.Scenario

/-- The first place at or after `start` where `needle` stands in a text. -/
def findLiteral (needle : Bytes) : (offset start : Nat) → Bytes → Option (Nat × Nat)
  | offset, start, text =>
    if start ≤ offset ∧ needle.isPrefixOf text then some (offset, offset + needle.length)
    else
      match text with
      | [] => none
      | _ :: rest => findLiteral needle (offset + 1) start rest

def literalMatcher (needle : Bytes) : Pattern.Matcher where
  find? text start := findLiteral needle 0 start text
  inspect := "Literal(" ++ Quoted.quote (Utf8.lossy needle) ++ ")"

/-- What the literal compiler makes of a source once its block has run. -/
def LiteralCompiler.finish {step : Type} (c : LiteralCompiler step) (s : Pattern.Source) :
    Except PatternError Pattern.Compiled :=
  match c.fail.lookup s.lossy with
  | some words => .error (.syntaxError s.lossy words)
  | none =>
    .ok ⟨literalMatcher s.bytes,
      ⟨(c.replace.lookup s.lossy).getD s.bytes, (c.encode.lookup s.encoding).getD s.encoding⟩⟩

open Script in
def keepPattern {ε : Type} (handle : String) (p : Pattern) : Act World ε Unit :=
  modify fun w => { w with patterns := w.patterns.insert handle p }

open Script in
def createSite {ε : Type} (id : String) (options : Pattern.Options) (limit : Limit) (warn : Bool)
    (compiler sink : Option String) : Act World ε Unit := do
  let sink ← match sink with
    | some h => pure (some (← number .sink h))
    | none => pure none
  let compiler ← match compiler with
    | some h => number .compiler h
    | none =>
      let n ← fresh
      modify fun w => { w with compilers := w.compilers.insert n (.dialect none) }
      pure n
  let n ← create .site id
  modify fun w =>
    { w with
      sites := w.sites.insert n ⟨options, warn, compiler, sink⟩
      caches := w.caches.insert n { limit } }

open Script in
def createCompiler {ε : Type} (id : String) (spec : CompilerSpec Step) : Act World ε Answer := do
  let n ← create .compiler id
  let c : CompilerState :=
    match spec with
    | .dialect sizeLimit => .dialect sizeLimit
    | .literal c => .literal c []
  modify fun w => { w with compilers := w.compilers.insert n c }
  return .nothing

open Script in
def PatternStep.run : PatternStep → Script Answer
  | fragment id text => do
    let f ← Script.fragment text
    modify fun w => { w with fragments := w.fragments.insert id f }
    return .nothing
  | sink id => do
    let n ← create .sink id
    modify fun w => { w with sinks := w.sinks.insert n [] }
    return .nothing
  | advise handle message => do
    let n ← number .sink handle
    modify (·.advise (some n) message)
    return .nothing
  | advisories none => return .logged (← world).advice
  | advisories (some handle) => do
    let n ← number .sink handle
    return .advisories (((← world).sinks.get? n).getD [])
  | site id letters limit warn compiler handle => do
    let options ← (Act.ofExcept letters.options).mapFailure Failure.pattern
    createSite id options limit warn compiler handle
    return .options options
  | siteInfo handle => do
    let n ← number .site handle
    return .siteState ((← world).siteState n)
  | matchAt handle text start => do
    let (found, p) := (← Script.pattern handle).matchAt text start
    keepPattern handle p
    return .found found
  | isMatch handle text => return .flag ((← Script.pattern handle).isMatch text)
  | info handle => return .pattern (← Script.pattern handle)
  | reset handle => do
    keepPattern handle (← Script.pattern handle).reset
    return .nothing
  | copy handle as => do
    keepPattern as (← Script.pattern handle)
    return .nothing
  | instantiate handle as => do
    keepPattern as (.ofTemplate (← Script.pattern handle).template)
    return .nothing
  | shares a b => return .flag ((← Script.pattern a).sharesTemplate (← Script.pattern b))

end CallSite.Scenario
