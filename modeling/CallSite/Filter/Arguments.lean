/-!
# Command-line arguments

Options and fragments may stand in any order; behind `--` there are fragments only. The
first argument that is wrong is reported, and a request for help or for the version is
answered where it stands.
-/
namespace CallSite.Filter

structure Invocation where
  fragments : List String := []
  flags : String := ""
  config : Option String := none
  input : Option String := none
  countOnly : Bool := false
  verbose : Bool := false
  deriving Repr, DecidableEq

inductive Request where
  | help
  | version
  | filter (i : Invocation)
  deriving Repr, DecidableEq

inductive ArgumentError where
  | missingFile (option : String)
  | unknownOption (argument : String)
  | missingFragments
  deriving Repr, DecidableEq

namespace ArgumentError

def message : ArgumentError → String
  | missingFile option => "Missing file after " ++ option
  | unknownOption argument => "Unknown option: " ++ argument
  | missingFragments => "Missing pattern fragments"

end ArgumentError

/-- Arguments that are fragments wherever they stand: all that do not begin with a hyphen,
and a hyphen alone. -/
def isFragment (argument : String) : Bool :=
  match argument.toList with
  | '-' :: _ :: _ => false
  | _ => true

namespace Invocation

/-- A pattern needs at least one fragment. -/
def complete (i : Invocation) : Except ArgumentError Request :=
  if i.fragments.isEmpty then .error .missingFragments else .ok (.filter i)

def addFlag (i : Invocation) (letter : String) : Invocation :=
  { i with flags := i.flags ++ letter }

def addFragments (i : Invocation) (more : List String) : Invocation :=
  { i with fragments := i.fragments ++ more }

/-- Takes in the arguments one after another. -/
def take (i : Invocation) : List String → Except ArgumentError Request
  | [] => i.complete
  | "-h" :: _ | "--help" :: _ => .ok .help
  | "-V" :: _ | "--version" :: _ => .ok .version
  | "-i" :: rest => (i.addFlag "i").take rest
  | "-m" :: rest => (i.addFlag "m").take rest
  | "-x" :: rest => (i.addFlag "x").take rest
  | "-n" :: rest => (i.addFlag "n").take rest
  | "-u" :: rest => (i.addFlag "u").take rest
  | ["-c"] | ["--config"] => .error (.missingFile "--config")
  | "-c" :: path :: rest | "--config" :: path :: rest => take { i with config := some path } rest
  | ["--input"] => .error (.missingFile "--input")
  | "--input" :: path :: rest => take { i with input := some path } rest
  | "--count" :: rest => take { i with countOnly := true } rest
  | "-v" :: rest | "--verbose" :: rest => take { i with verbose := true } rest
  | "--" :: rest => (i.addFragments rest).complete
  | argument :: rest =>
    if isFragment argument then (i.addFragments [argument]).take rest
    else .error (.unknownOption argument)

end Invocation

/-- Reads the arguments behind the program's own name. -/
def readArguments (arguments : List String) : Except ArgumentError Request :=
  ({} : Invocation).take arguments

end CallSite.Filter
