import CallSite.Effect
import CallSite.Store

/-!
# Why a constant has no value
-/
namespace CallSite

inductive ResolveError where
  /-- Nothing is bound to the name, and no hook stood in. -/
  | nameNotFound (ns : String) (name : Symbol)
  /-- A load unit is not there, or failed while it ran. -/
  | loadFailed (path message : String)
  | lookup (message : String)
  /-- Anything that load units and hooks raise. -/
  | runtime (message : String)
  deriving Repr, DecidableEq

namespace ResolveError

def message : ResolveError → String
  | nameNotFound ns name => "uninitialized constant " ++ ns ++ "::" ++ name.text
  | loadFailed path message => message ++ " -- " ++ path
  | lookup message => "Lookup error: " ++ message
  | runtime message => "Runtime error: " ++ message

/-- No unit is registered for the path. -/
def noSuchUnit (path : String) : ResolveError :=
  .loadFailed path "cannot load such file"

end ResolveError
end CallSite
