import CallSite.Symbol

/-!
# Namespaces and what their constants are bound to

A namespace is known by its number. Its name and the namespace its lookups go on to are
settled when it is created; the constants it declares are kept in a store.
-/
namespace CallSite

inductive Namespace where
  | root (id : Nat) (name : String)
  | child (id : Nat) (name : String) (parent : Namespace)
  deriving Repr, DecidableEq

namespace Namespace

def id : Namespace → Nat
  | root id _ | child id _ _ => id

def name : Namespace → String
  | root _ name | child _ name _ => name

def parent? : Namespace → Option Namespace
  | root .. => none
  | child _ _ parent => some parent

/-- The namespace itself and those its lookups go on to, nearest first. -/
def ancestors : Namespace → List Namespace
  | root id name => [root id name]
  | child id name parent => child id name parent :: parent.ancestors

def nestedName (ns : Namespace) (name : String) : String := ns.name ++ "::" ++ name

end Namespace

inductive Value where
  | nil
  | bool (b : Bool)
  | integer (n : Int)
  | string (text : String)
  | symbol (s : Symbol)
  | scope (ns : Namespace)
  deriving Repr, DecidableEq

namespace Value

def typeName : Value → String
  | nil => "nil"
  | bool _ => "Bool"
  | integer _ => "Integer"
  | string _ => "String"
  | symbol _ => "Symbol"
  | scope _ => "Namespace"

def boolText (b : Bool) : String := if b then "true" else "false"

/-- The value as it is spelled in code. -/
def inspect : Value → String
  | nil => "nil"
  | bool b => boolText b
  | integer n => toString n
  | string text => Quoted.quote text
  | symbol s => s.inspect
  | scope ns => "#<Namespace " ++ ns.name ++ ">"

/-- The value as text. -/
def display : Value → String
  | nil => "nil"
  | bool b => boolText b
  | integer n => toString n
  | string text => text
  | symbol s => s.text
  | scope ns => ns.name

def scope? : Value → Option Namespace
  | scope ns => some ns
  | _ => none

/-- Namespaces are equal when they are the same one; all else is compared by content. -/
def equal : Value → Value → Bool
  | scope a, scope b => a.id == b.id
  | a, b => a == b

end Value

/-- A constant is bound to a value, or to a load unit that is still to define it. -/
inductive Binding where
  | value (v : Value)
  | autoload (path : String)
  deriving Repr, DecidableEq

namespace Binding

def isAutoload : Binding → Bool
  | value _ => false
  | autoload _ => true

def autoloadPath? : Binding → Option String
  | value _ => none
  | autoload path => some path

def inspect : Binding → String
  | value v => "Value(" ++ v.inspect ++ ")"
  | autoload path => "Autoload(" ++ Quoted.quote path ++ ")"

end Binding
end CallSite
