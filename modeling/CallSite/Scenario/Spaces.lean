import CallSite.Scenario.World

/-!
# Steps on namespaces and values
-/
namespace CallSite.Scenario

namespace World

def spaceInfo (w : World) (ns : Namespace) : SpaceInfo where
  name := ns.name
  id := ns.id
  count := w.store.constantCount ns
  parent := ns.parent?.map Namespace.name
  inspect := w.store.inspect ns
  ancestors := ns.ancestors.map Namespace.name

end World

open Script in
/-- Gives a handle to a namespace that an operation on the store has made. -/
def keepSpace {ε : Type} (handle : String)
    (make : Store (Hook Step) → Namespace × Store (Hook Step)) : Act World ε Namespace := do
  let ns ← World.storeSlot.update make
  modify fun w => { w with spaces := w.spaces.insert handle ns }
  return ns

open Script in
def SpaceStep.run {ε : Type} : SpaceStep → Act World ε Answer
  | create id text parent => do
    let created := (← world).store.created
    match parent with
    | none => discard <| keepSpace id (·.createRoot text)
    | some h =>
      let parent ← space h
      discard <| keepSpace id (·.createChild text parent)
    return .number created
  | nested ns text id => do
    let outer ← space ns
    return .text (← keepSpace id (·.defineNested outer text)).name
  | info ns => do
    let ns ← space ns
    return .spaceInfo ((← world).spaceInfo ns)
  | set ns ref e => do
    let ns ← space ns
    let name ← Script.name ref
    let v ← Script.value e
    return .binding (← World.storeSlot.update (·.setConstant ns name.text v))
  | autoload ns ref path => do
    let ns ← space ns
    let name ← Script.name ref
    return .flag (← World.storeSlot.update (·.autoload ns name.text path))
  | autoloadPath ns text => do
    let ns ← space ns
    match (← world).store.autoloadPath? ns text with
    | some path => return .text path
    | none => return .noText
  | get ns text => do
    let ns ← space ns
    return .binding ((← world).store.binding? ns text)
  | defined ns text => do
    let ns ← space ns
    return .flag ((← world).store.isDefined ns text)
  | remove ns text => do
    let ns ← space ns
    return .binding (← World.storeSlot.update (·.removeConstant ns text))
  | count ns => do
    let ns ← space ns
    return .number ((← world).store.constantCount ns)
  | name id text => do
    let tag ← fresh
    modify fun w => { w with names := w.names.insert id ⟨text, tag⟩ }
    return .nothing
  | asScope var id => do
    match (← Script.value (.var var)).scope? with
    | some ns =>
      modify fun w => { w with spaces := w.spaces.insert id ns }
      return .text ns.name
    | none => return .noText
  | equal a b => return .flag ((← Script.value a).equal (← Script.value b))
  | value e => return .inspected (← Script.value e)

end CallSite.Scenario
