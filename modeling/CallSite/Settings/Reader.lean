import CallSite.Settings.Limits
import CallSite.Settings.Toml

/-!
# A reader of settings files

Settings files are TOML documents with one table, `cache`. This is a reader for those in which
that table is written in one of the usual ways; it does not tell what is wrong with the others.
-/
namespace CallSite.CacheLimits

/-- How the table of settings was opened. Only dotted keys can add to it from outside. -/
inductive Opened where
  | not
  | byHeader
  | byDottedKeys
  | whole
  deriving Repr, DecidableEq

def count? : Toml.Scalar → Option Nat
  | .integer (.ofNat n) => some n
  | _ => none

def switch? : Toml.Scalar → Option Bool
  | .boolean b => some b
  | _ => none

/-- Sets one key that was not set before. -/
def Section.set? (s : Section) (key : String) (value : Toml.Scalar) : Option Section :=
  match key with
  | "constant" => do
    if s.constant.isSome then none else return { s with constant := some (← count? value) }
  | "default" => do
    if s.default.isSome then none else return { s with default := some (← count? value) }
  | "warn-unstable" => do
    if s.warnUnstable.isSome then none else return { s with warnUnstable := some (← switch? value) }
  | _ => none

def Section.setAll? (s : Section) : List (Toml.Key × Toml.Scalar) → Option Section
  | [] => some s
  | ([key], value) :: rest => do (← s.set? key value).setAll? rest
  | _ => none

/-- Settings given in order, all of them; what follows them has no meaning. -/
def Section.ofItems? : List Toml.Scalar → Option Section
  | constant :: default :: warn :: _ =>
    return ⟨some (← count? constant), some (← count? default), some (← switch? warn)⟩
  | _ => none

/-- Takes in one statement of a settings file. -/
def readStatement (opened : Opened) (s : Section) : Toml.Statement → Option (Opened × Section)
  | .header ["cache"] => if opened = .not then some (.byHeader, s) else none
  | .assign ["cache", key] (.scalar value) =>
    if opened = .not ∨ opened = .byDottedKeys then
      return (.byDottedKeys, ← s.set? key value)
    else none
  | .assign ["cache"] (.table entries) =>
    if opened = .not then return (.whole, ← s.setAll? entries) else none
  | .assign ["cache"] (.array items) =>
    if opened = .not then return (.whole, ← Section.ofItems? items) else none
  | .assign [key] (.scalar value) =>
    if opened = .byHeader then return (.byHeader, ← s.set? key value) else none
  | _ => none

def readStatements (opened : Opened) (s : Section) : List Toml.Statement → Option Section
  | [] => some s
  | statement :: rest => do
    let (opened, s) ← readStatement opened s statement
    readStatements opened s rest

/-- The reader of this library. -/
def readToml : Reader := fun text =>
  match (Toml.read? text).bind (readStatements .not {}) with
  | some s => .ok s
  | none => .error "not a table of cache settings"

end CallSite.CacheLimits
