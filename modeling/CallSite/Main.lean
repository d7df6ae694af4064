import CallSite.Filter.Exit
import CallSite.Regex.Compile
import CallSite.Settings.Reader

/-!
# The command line
-/
open CallSite CallSite.Filter

/-- The engine and the reader that come with the filter. -/
def libraries : Libraries where
  engine := Regex.engine
  readSettings := CacheLimits.readToml

/-- Reads a file, and says why if it cannot. -/
def readPath (path : String) : IO (Except FileProblem Bytes) := do
  try
    return .ok (← IO.FS.readBinFile path).toList
  catch
    | .noFileOrDirectory .. => return .error .notFound
    | e => return .error (.other (toString e))

/-- The files that an invocation names, each read once. -/
def readFiles (i : Invocation) : IO (List (String × Except FileProblem Bytes)) :=
  (i.config.toList ++ i.input.toList).mapM fun path => return (path, ← readPath path)

def environmentValue (name : String) : IO (Option Bytes) :=
  return (← IO.getEnv name).map Utf8.encode

/-- Everything on standard input. -/
def readInput : IO Bytes := do
  return (← (← IO.getStdin).readBinToEnd).toList

def finish (e : Ending) : IO UInt32 := do
  (← IO.getStderr).putStr e.err
  (← IO.getStdout).write (ByteArray.mk e.out.toArray)
  (← IO.getStdout).flush
  return e.code

def main (arguments : List String) : IO UInt32 := do
  match readArguments arguments with
  | .ok (.filter i) =>
    let files ← readFiles i
    let file path := (files.lookup path).getD (.error .notFound)
    let environment : CacheLimits.Environment :=
      ⟨← environmentValue "LATEBIND_CONSTANT_CACHE", ← environmentValue "LATEBIND_DEFAULT_CACHE",
        ← environmentValue "LATEBIND_WARN_UNSTABLE"⟩
    match prepare libraries ⟨environment, file, []⟩ i with
    | .error e => finish (.failed e)
    | .ok _ =>
      let input ← if i.input.isSome then pure [] else readInput
      finish (run libraries ⟨environment, file, input⟩ arguments)
  | _ => finish (run libraries ⟨{}, fun _ => .error .notFound, []⟩ arguments)
