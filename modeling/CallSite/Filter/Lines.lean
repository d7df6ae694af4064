import CallSite.Text.Utf8

/-!
# Lines

Lines are what stands between line feeds. A line feed at the very end begins no new line,
and a carriage return belongs to its line.
-/
namespace CallSite.Filter

def lineFeed : UInt8 := 0x0A

/-- The lines of a text of which `line`, in reverse, was read last. -/
def linesFrom (line : Bytes) : Bytes → List Bytes
  | [] => if line.isEmpty then [] else [line.reverse]
  | b :: rest =>
    if b = lineFeed then line.reverse :: linesFrom [] rest else linesFrom (b :: line) rest

def lines (text : Bytes) : List Bytes := linesFrom [] text

/-- The lines, each with a line feed behind it. -/
def unlines (ls : List Bytes) : Bytes := ls.flatMap (· ++ [lineFeed])

end CallSite.Filter
