import CallSite.Dict
import CallSite.Namespace

/-!
# The store of namespaces

The store holds the constants of all namespaces and their missing-name hooks. Every
operation touches one binding of one namespace.
-/
namespace CallSite

/-- `created` counts the namespaces made so far; `η` is what a hook is. -/
structure Store (η : Type) where
  created : Nat := 0
  bindings : Dict (Nat × String) Binding := .empty
  hooks : Dict Nat η := .empty

/-- A constant as a lookup finds it. The namespace that declares it need not be the one
where the lookup began. -/
structure Constant where
  declaring : Namespace
  name : Name
  binding : Binding
  deriving Repr, DecidableEq

namespace Store

variable {η : Type}

def binding? (s : Store η) (ns : Namespace) (name : String) : Option Binding :=
  s.bindings.get? (ns.id, name)

def isDefined (s : Store η) (ns : Namespace) (name : String) : Bool :=
  (s.binding? ns name).isSome

def autoloadPath? (s : Store η) (ns : Namespace) (name : String) : Option String :=
  (s.binding? ns name).bind Binding.autoloadPath?

def constantCount (s : Store η) (ns : Namespace) : Nat :=
  s.bindings.countKeys (·.1 == ns.id)

def bind (s : Store η) (ns : Namespace) (name : String) (b : Binding) : Store η :=
  { s with bindings := s.bindings.insert (ns.id, name) b }

def remove (s : Store η) (ns : Namespace) (name : String) : Store η :=
  { s with bindings := s.bindings.erase (ns.id, name) }

/-- Puts a marker in place, whatever was there. -/
def mark (s : Store η) (ns : Namespace) (name path : String) : Store η :=
  s.bind ns name (.autoload path)

/-- Binds a name to a value and answers what it was bound to before. -/
def setConstant (s : Store η) (ns : Namespace) (name : String) (v : Value) :
    Option Binding × Store η :=
  (s.binding? ns name, s.bind ns name (.value v))

/-- Registers a load unit for a name that is not bound, and answers whether it was not. -/
def autoload (s : Store η) (ns : Namespace) (name path : String) : Bool × Store η :=
  if s.isDefined ns name then (false, s) else (true, s.mark ns name path)

/-- Removes a binding and answers what it was. -/
def removeConstant (s : Store η) (ns : Namespace) (name : String) : Option Binding × Store η :=
  (s.binding? ns name, s.remove ns name)

/-- A new namespace that no lookup leaves. -/
def createRoot (s : Store η) (name : String) : Namespace × Store η :=
  (.root s.created name, { s with created := s.created + 1 })

/-- A new namespace whose lookups go on to `parent`. -/
def createChild (s : Store η) (name : String) (parent : Namespace) : Namespace × Store η :=
  (.child s.created name parent, { s with created := s.created + 1 })

/-- A new namespace bound as a constant of `outer`. Lookups in it do not go on to `outer`. -/
def defineNested (s : Store η) (outer : Namespace) (name : String) : Namespace × Store η :=
  let (ns, s) := s.createRoot (outer.nestedName name)
  (ns, (s.setConstant outer name (.scope ns)).2)

def hook? (s : Store η) (ns : Namespace) : Option η := s.hooks.get? ns.id

/-- Installs a hook in place of any other, or takes it away. -/
def setHook (s : Store η) (ns : Namespace) : Option η → Store η
  | some hook => { s with hooks := s.hooks.insert ns.id hook }
  | none => { s with hooks := s.hooks.erase ns.id }

/-- Looks a name up in the namespace alone. -/
def lookupOwn (s : Store η) (ns : Namespace) (name : Name) : Option Constant :=
  (s.binding? ns name.text).map (⟨ns, name, ·⟩)

/-- Looks a name up in the namespace and its ancestors; the nearest declaration wins. -/
def lookupNearest (s : Store η) (ns : Namespace) (name : Name) : Option Constant :=
  ns.ancestors.findSome? (s.lookupOwn · name)

def inspect (s : Store η) (ns : Namespace) : String :=
  let parent :=
    match ns.parent? with
    | some parent => "Some(" ++ Quoted.quote parent.name ++ ")"
    | none => "None"
  "Namespace \x7b id: NamespaceId(" ++ toString ns.id ++ "), name: " ++ Quoted.quote ns.name ++
    ", parent: " ++ parent ++ ", constants: " ++ toString (s.constantCount ns) ++ " \x7d"

theorem binding?_bind (s : Store η) (ns : Namespace) (name : String) (b : Binding)
    (ns' : Namespace) (name' : String) :
    (s.bind ns name b).binding? ns' name' =
      if ns'.id = ns.id ∧ name' = name then some b else s.binding? ns' name' := by
  simp [bind, binding?, Dict.get?_insert]

theorem binding?_remove (s : Store η) (ns : Namespace) (name : String)
    (ns' : Namespace) (name' : String) :
    (s.remove ns name).binding? ns' name' =
      if ns'.id = ns.id ∧ name' = name then none else s.binding? ns' name' := by
  simp [remove, binding?, Dict.get?_erase]

theorem binding?_of_lookupOwn {s : Store η} {ns : Namespace} {name : Name} {c : Constant}
    (h : s.lookupOwn ns name = some c) :
    s.binding? c.declaring c.name.text = some c.binding := by
  obtain ⟨b, hb, rfl⟩ := Option.map_eq_some_iff.1 h
  exact hb

theorem binding?_of_lookupNearest {s : Store η} {ns : Namespace} {name : Name} {c : Constant}
    (h : s.lookupNearest ns name = some c) :
    s.binding? c.declaring c.name.text = some c.binding := by
  obtain ⟨_, _, hfound⟩ := List.exists_of_findSome?_eq_some h
  exact binding?_of_lookupOwn hfound

end Store
end CallSite
