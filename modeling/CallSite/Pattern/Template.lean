import CallSite.Effect
import CallSite.Pattern.Source

/-!
# Templates and their instances

A template is what compiling a source gives. Instances share it and each keep the outcome
of their own last match.
-/
namespace CallSite.Pattern

/-- Finds the leftmost match at or after an offset, as its two ends. -/
structure Matcher where
  find? : Bytes → Nat → Option (Nat × Nat)
  inspect : String

/-- What a compiler makes of a source; it may settle on another source than it was given. -/
structure Compiled where
  matcher : Matcher
  source : Source

/-- A way to compile sources. It is code of the embedding program. -/
abbrev Compiler (σ : Type) := Source → Options → Act σ PatternError Compiled

structure Template where
  matcher : Matcher
  source : Bytes
  encoding : Encoding
  options : Options

end CallSite.Pattern

namespace CallSite

structure Pattern where
  template : Shared Pattern.Template
  last : Option (Nat × Nat) := none
  attempts : Nat := 0

namespace Pattern

/-- An instance that has matched nothing yet. -/
def ofTemplate (t : Shared Template) : Pattern := { template := t }

/-- What can be told about an instance, up to which template it shares. -/
def facts (p : Pattern) : Template × Option (Nat × Nat) × Nat :=
  (p.template.content, p.last, p.attempts)

def source (p : Pattern) : Bytes := p.template.content.source

def encoding (p : Pattern) : Encoding := p.template.content.encoding

def options (p : Pattern) : Options := p.template.content.options

/-- Searches from an offset and keeps the outcome. -/
def matchAt (p : Pattern) (text : Bytes) (start : Nat) : Option (Nat × Nat) × Pattern :=
  let found := p.template.content.matcher.find? text start
  (found, { p with last := found, attempts := p.attempts + 1 })

/-- Whether there is a match anywhere. Nothing is kept. -/
def isMatch (p : Pattern) (text : Bytes) : Bool :=
  (p.template.content.matcher.find? text 0).isSome

def reset (p : Pattern) : Pattern := ofTemplate p.template

/-- Both are instances of the same template. -/
def sharesTemplate (a b : Pattern) : Bool := a.template.tag == b.template.tag

/-- The source between slashes, with the flags behind it. -/
def display (p : Pattern) : String :=
  "/" ++ Utf8.lossy p.source ++ "/" ++ p.options.flags

end Pattern
end CallSite
