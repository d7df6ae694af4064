import CallSite.Pattern.Dialect
import CallSite.Regex.Parser
import CallSite.Regex.Search

/-!
# From a pattern to a program

Compiled programs are limited in size. A pattern that stands for a few literal texts is
searched for as it is: it needs no program, so no limit is too small for it.

This makes one engine of the pattern dialect, and no more than that. It refuses every `\p` and
`\P`, since it knows no character property by name, and what it takes for the size of a program
is an estimate.
-/
namespace CallSite.Regex

/-- Bounds on the texts that are searched for without a program. -/
def literalClassLimit : Nat := 10
def literalRepeatLimit : Nat := 10
def literalLengthLimit : Nat := 100
def literalCountLimit : Nat := 250

def crossed (as bs : List Bytes) : Option (List Bytes) :=
  let all := as.flatMap fun a => bs.map (a ++ ·)
  if literalCountLimit < as.length * bs.length then none
  else if all.any (literalLengthLimit < ·.length) then none
  else some all

/-- All the texts an expression matches, in order of preference, if they are few and short. -/
def literals? : Regex → Option (List Bytes)
  | empty => some [[]]
  | byte b => some [[b]]
  | oneOf .octets set => (set.members? literalClassLimit).map (·.map fun n => [UInt8.ofNat n])
  | oneOf .scalars set =>
    (set.members? literalClassLimit).map (·.map fun n => Utf8.encodeChar (Char.ofNat n))
  | look _ | capture _ => none
  | seq a b => do crossed (← a.literals?) (← b.literals?)
  | alt a b => do
    let all := (← a.literals?) ++ (← b.literals?)
    if literalCountLimit < all.length then none else some all
  | repeated a min max greedy => do
    let texts ← a.literals?
    if min = 0 ∧ max = some 1 then
      some (if greedy then texts ++ [[]] else [] :: texts)
    else if max = some min ∧ min ≤ literalRepeatLimit then
      (List.range min).foldlM (fun all _ => crossed all texts) [[]]
    else none

def isLiteral (regex : Regex) : Bool :=
  match regex.literals? with
  | some texts => !texts.isEmpty && texts.all (!·.isEmpty)
  | none => false

/-- The size limit when none is asked for, ten mebibytes. -/
def defaultSizeLimit : Nat := 10 * 1024 * 1024

def compile (flags : Flags) (sizeLimit : Nat) (pattern : List Char) : Except Fault Program := do
  let regex ← parse flags pattern
  if !regex.isLiteral && sizeLimit < regex.footprint + 64 then throw .tooLarge
  return .ofRegex regex

def Flags.ofDialect (flags : Pattern.Engine.Flags) : Flags where
  ignoreCase := flags.ignoreCase
  multiLine := flags.multiLine
  dotAll := flags.dotAll
  unicode := flags.unicode
  extended := flags.extended

def Program.matcher (program : Program) (text : List Char) : Pattern.Matcher where
  find? := program.find?
  inspect := "Regex(" ++ Quoted.quote (String.ofList text) ++ ")"

/-- The engine of this library. -/
def engine : Pattern.Engine := fun flags sizeLimit text =>
  match compile (.ofDialect flags) (sizeLimit.getD defaultSizeLimit) text with
  | .error fault => .error fault.message
  | .ok program => .ok (program.matcher text)

end CallSite.Regex
