import CallSite.Filter.Run

/-!
# How a run of the filter ends
-/
namespace CallSite.Filter

def versionNumber : String := "0.1.0"

def usage : String :=
  "LateBind v" ++ versionNumber ++ "\n" ++
  "\n" ++
  "USAGE:\n" ++
  "    latebind [OPTIONS] <FRAGMENT>...\n" ++
  "\n" ++
  "OPTIONS:\n" ++
  "    -h, --help             Print this help message\n" ++
  "    -V, --version          Print version information\n" ++
  "    -i                     Ignore case\n" ++
  "    -m                     Let '.' match newlines\n" ++
  "    -x                     Extended syntax (ignore whitespace and comments)\n" ++
  "    -n                     No encoding (byte-oriented pattern)\n" ++
  "    -u                     Fixed encoding (UTF-8)\n" ++
  "    -c, --config <FILE>    Read cache limits from a TOML file\n" ++
  "    --input <FILE>         Read input from FILE (default: stdin)\n" ++
  "    --count                Print the number of matching lines only\n" ++
  "    -v, --verbose          Log cache activity to stderr\n" ++
  "\n" ++
  "ARGUMENTS:\n" ++
  "    <FRAGMENT>...          Pattern fragments, joined in order\n" ++
  "\n" ++
  "EXAMPLES:\n" ++
  "    latebind -i 'err' 'or'\n" ++
  "    cat app.log | latebind --count 'timeout'\n"

/-- What a run leads to: usage or the version on request, the lines, or a complaint. -/
inductive Ending where
  | help
  | version
  | printed (output : Bytes)
  | misused (e : ArgumentError)
  | failed (e : Failure)
  deriving Repr, DecidableEq

namespace Ending

def code : Ending → UInt32
  | help | version | printed _ => 0
  | misused _ | failed _ => 1

def out : Ending → Bytes
  | version => Utf8.encode ("LateBind " ++ versionNumber ++ "\n")
  | printed output => output
  | help | misused _ | failed _ => []

def err : Ending → String
  | version | printed _ => ""
  | help => usage
  | misused e => "Error: " ++ e.message ++ "\n\n" ++ usage
  | failed e => "Error: " ++ e.message ++ "\n"

end Ending

/-- Runs the filter with the arguments behind its own name. -/
def run (lib : Libraries) (s : Surroundings) (arguments : List String) : Ending :=
  match readArguments arguments with
  | .error e => .misused e
  | .ok .help => .help
  | .ok .version => .version
  | .ok (.filter i) =>
    match filter lib s i with
    | .ok output => .printed output
    | .error e => .failed e

end CallSite.Filter
