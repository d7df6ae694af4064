import CallSite.Pattern.Error

/-!
# Pattern options

Options are written as flag letters behind the pattern.
-/
namespace CallSite.Pattern

structure Options where
  ignoreCase : Bool := false
  /-- The dot matches line feeds too. -/
  multiline : Bool := false
  /-- Blanks and comments in the source are ignored. -/
  extended : Bool := false
  /-- An all-ASCII source counts as UTF-8. -/
  fixedEncoding : Bool := false
  /-- The source has no encoding; it is scanned to tell US-ASCII from ASCII-8BIT. -/
  noEncoding : Bool := false
  deriving Repr, DecidableEq

namespace Options

def set? (o : Options) (letter : Char) : Option Options :=
  match letter with
  | 'i' => some { o with ignoreCase := true }
  | 'm' => some { o with multiline := true }
  | 'x' => some { o with extended := true }
  | 'u' => some { o with fixedEncoding := true }
  | 'n' => some { o with noEncoding := true }
  | _ => none

/-- Sets the options of a list of letters; the first one that is no flag is an error. -/
def setAll (o : Options) : List Char → Except PatternError Options
  | [] => .ok o
  | letter :: rest =>
    match o.set? letter with
    | some o => o.setAll rest
    | none => .error (.invalidOption letter)

/-- Reads flag letters. A pattern cannot both fix its encoding and have none. -/
def parse (letters : String) : Except PatternError Options := do
  let o ← ({} : Options).setAll letters.toList
  if o.fixedEncoding && o.noEncoding then throw (.invalidOption 'n')
  return o

/-- The options whose letters occur, with no check on the rest. -/
def ofOccurring (letters : String) : Options :=
  { ignoreCase := letters.contains 'i'
    multiline := letters.contains 'm'
    extended := letters.contains 'x'
    fixedEncoding := letters.contains 'u'
    noEncoding := letters.contains 'n' }

/-- The letters that a pattern is shown with; a fixed encoding is not among them. -/
def flagLetters (o : Options) : List Char :=
  (if o.multiline then ['m'] else []) ++ (if o.ignoreCase then ['i'] else []) ++
    (if o.extended then ['x'] else []) ++ (if o.noEncoding then ['n'] else [])

def flags (o : Options) : String := String.ofList o.flagLetters

end Options
end CallSite.Pattern
