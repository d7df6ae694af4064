import CallSite.Cache
import CallSite.Text.Blank
import CallSite.Text.Utf8

/-!
# Cache limits

A program settles its cache limits once, from the environment or from a settings file.
Whatever is not set there keeps its default.
-/
namespace CallSite

/-- `constant` is for the missing names of a resolver, `default` for the fragments of a
pattern site. -/
structure CacheLimits where
  constant : Limit := ⟨8, by decide⟩
  default : Limit := ⟨8, by decide⟩
  warnUnstable : Bool := true
  deriving Repr, DecidableEq

inductive FileProblem where
  | notFound
  | isDirectory
  | notUtf8
  /-- As the system describes it. -/
  | other (text : String)
  deriving Repr, DecidableEq

def FileProblem.message : FileProblem → String
  | notFound => "No such file or directory (os error 2)"
  | isDirectory => "Is a directory (os error 21)"
  | notUtf8 => "stream did not contain valid UTF-8"
  | other text => text

inductive LimitName where
  | constant
  | default
  deriving Repr, DecidableEq

def LimitName.text : LimitName → String
  | constant => "constant"
  | default => "default"

inductive SettingsError where
  | unreadable (path : String) (problem : FileProblem)
  /-- The text is no settings file, in the words of its reader. -/
  | malformed (words : String)
  /-- The limit is zero. -/
  | invalidLimit (name : LimitName)
  deriving Repr, DecidableEq

def SettingsError.message : SettingsError → String
  | unreadable path problem => "Failed to read '" ++ path ++ "': " ++ problem.message
  | malformed words => "Invalid configuration: " ++ words
  | invalidLimit name => "Cache limit '" ++ name.text ++ "' must be a positive integer"

namespace CacheLimits

/-! ### The environment -/

/-- The values of the variables that are set. -/
structure Environment where
  constant : Option Bytes := none
  default : Option Bytes := none
  warnUnstable : Option Bytes := none
  deriving Repr, DecidableEq

def isBlank (c : Char) : Bool := CodePoints.blank.member c.toNat

/-- Drops blanks from both ends. -/
def trim (cs : List Char) : List Char :=
  ((cs.dropWhile isBlank).reverse.dropWhile isBlank).reverse

/-- The value of decimal digits, of which there is at least one. -/
def decimal? (cs : List Char) : Option Nat :=
  if cs.isEmpty then none
  else cs.foldlM (fun n c => if '0' ≤ c ∧ c ≤ '9' then some (n * 10 + (c.toNat - 0x30)) else none) 0

/-- The greatest limit that can be set, the largest number of 64 bits. -/
def greatest : Nat := 0xFFFFFFFFFFFFFFFF

/-- Digits with an optional plus sign and blanks around them. -/
def limitOf? (text : List Char) : Option Limit := do
  let digits :=
    match trim text with
    | '+' :: digits => digits
    | digits => digits
  let n ← decimal? digits
  if n ≤ greatest then Limit.ofNat? n else none

/-- One of the words for yes or no, in any case, with blanks around it. -/
def switchOf? (text : List Char) : Option Bool :=
  match String.ofList ((trim text).map Char.toLower) with
  | "1" | "true" | "yes" | "on" => some true
  | "0" | "false" | "no" | "off" => some false
  | _ => none

/-- The text of a variable. A value that is not UTF-8 counts as not set. -/
def textOf? (value : Option Bytes) : Option (List Char) :=
  value.bind fun bs => if Utf8.isValid bs then some (Utf8.lossyChars bs) else none

/-- Limits from the environment. A value that cannot be read counts as not set. -/
def ofEnvironment (env : Environment) : CacheLimits :=
  let defaults : CacheLimits := {}
  { constant := ((textOf? env.constant).bind limitOf?).getD defaults.constant
    default := ((textOf? env.default).bind limitOf?).getD defaults.default
    warnUnstable := ((textOf? env.warnUnstable).bind switchOf?).getD defaults.warnUnstable }

/-! ### Settings files -/

/-- What a settings file sets. -/
structure Section where
  constant : Option Nat := none
  default : Option Nat := none
  warnUnstable : Option Bool := none
  deriving Repr, DecidableEq

/-- Reads the text of a settings file, or says in its own words why it is none: the text need not
follow the format of such files, nor set only what can be set. -/
abbrev Reader := String → Except String Section

def positive (name : LimitName) (default : Limit) : Option Nat → Except SettingsError Limit
  | none => .ok default
  | some n =>
    match Limit.ofNat? n with
    | some limit => .ok limit
    | none => .error (.invalidLimit name)

/-- Limits from a section; of two that are zero the constant one is reported. -/
def ofSection (s : Section) : Except SettingsError CacheLimits := do
  let defaults : CacheLimits := {}
  let constant ← positive .constant defaults.constant s.constant
  let default ← positive .default defaults.default s.default
  return ⟨constant, default, s.warnUnstable.getD defaults.warnUnstable⟩

/-- Limits from the text of a settings file. -/
def ofText (read : Reader) (text : String) : Except SettingsError CacheLimits :=
  match read text with
  | .ok s => ofSection s
  | .error words => .error (.malformed words)

/-- Limits from a settings file, given what reading the path has led to. -/
def ofFile (read : Reader) (path : String) :
    Except FileProblem Bytes → Except SettingsError CacheLimits
  | .error problem => .error (.unreadable path problem)
  | .ok bytes =>
    match Utf8.decode? bytes with
    | some text => ofText read text
    | none => .error (.unreadable path .notUtf8)

end CacheLimits
end CallSite
