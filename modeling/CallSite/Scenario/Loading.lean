import CallSite.Scenario.World

/-!
# Steps on loaders, lookups and resolvers
-/
namespace CallSite.Scenario

/-- A loader with one more unit, in place of an earlier one for the same path. -/
def Loader.register (path : String) (block : Block) : Loader → Loader
  | feature f => feature (f.register path block)
  | script units requests => script (units.insert path block) requests

def Loader.info (path : String) : Loader → Answer
  | feature f => .features ⟨f.isLoaded path, f.loadCount path, f.unitCount⟩
  | script _ requests => .requests requests

open Script in
def registerUnit {ε : Type} (loader path : String) (block : Block) : Act World ε Answer := do
  let n ← number .loader loader
  let l ← known "loader" loader ((← world).loaders.get? n)
  modify fun w => { w with loaders := w.loaders.insert n (l.register path block) }
  return .nothing

open Script in
def fixedConstants {ε : Type} :
    List (String × Option ConstantExpr) → Act World ε (List (String × Option Constant))
  | [] => pure []
  | (name, c) :: rest => return (name, ← constant? c) :: (← fixedConstants rest)

open Script in
def LoaderStep.run {ε : Type} : LoaderStep → Act World ε Answer
  | loader id kind => do
    let n ← create .loader id
    let l : Loader :=
      match kind with
      | .feature => .feature {}
      | .script => .script .empty []
    modify fun w => { w with loaders := w.loaders.insert n l }
    return .nothing
  | info handle path => do
    let n ← number .loader handle
    return (← known "loader" handle ((← world).loaders.get? n)).info path
  | lookup id spec => do
    let inner ← target spec.inner
    let fixed ← fixedConstants spec.fixed
    let n ← create .lookup id
    let l : CustomLookup := ⟨inner, spec.fail, spec.error, spec.aliases, fixed, 0⟩
    modify fun w => { w with lookups := w.lookups.insert n l }
    return .nothing
  | resolver id handle limit => do
    let l ← number .loader handle
    let n ← create .resolver id
    modify fun w =>
      { w with resolvers := w.resolvers.insert n l, memos := w.memos.insert n { limit } }
    return .nothing
  | stats handle => do
    let memo ← (World.memoSlot (← number .resolver handle)).read
    return .memoStats memo.stats memo.unstable

end CallSite.Scenario
