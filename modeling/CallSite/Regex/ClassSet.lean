import CallSite.Text.Blank
import CallSite.Text.CaseVariants
import CallSite.Text.Digit
import CallSite.Text.Word

/-!
# Sets in a pattern

A class in a pattern is kept as it is built up: ranges and character properties, joined by
set operations. Membership is computed from that expression.
-/
namespace CallSite.Regex

/-- What one step of a pattern reads: a scalar value of the text, or a single byte. -/
inductive Alphabet where
  | scalars
  | octets
  deriving Repr, DecidableEq

/-- The symbols that differ from `n` at most by case. -/
def Alphabet.variants : Alphabet → Nat → List Nat
  | .scalars => CaseVariants.all
  | .octets => CaseVariants.ascii

inductive Property where
  | word
  | digit
  | blank
  deriving Repr, DecidableEq

namespace Property

def points : Property → CodePoints
  | word => .word
  | digit => .decimalDigit
  | blank => .blank

/-- The ASCII members, as ranges. -/
def asciiRanges : Property → List (Nat × Nat)
  | word => [(0x30, 0x39), (0x41, 0x5A), (0x5F, 0x5F), (0x61, 0x7A)]
  | digit => [(0x30, 0x39)]
  | blank => [(0x09, 0x0D), (0x20, 0x20)]

end Property

inductive ClassSet where
  | none
  | range (low high : Nat)
  | property (p : Property)
  | either (a b : ClassSet)
  | both (a b : ClassSet)
  | without (a b : ClassSet)
  | onlyOne (a b : ClassSet)
  | complement (a : ClassSet)
  | anyCase (alphabet : Alphabet) (a : ClassSet)
  deriving Repr, DecidableEq

namespace ClassSet

def contains : ClassSet → Nat → Bool
  | none, _ => false
  | range low high, n => low ≤ n && n ≤ high
  | property p, n => p.points.member n
  | either a b, n => a.contains n || b.contains n
  | both a b, n => a.contains n && b.contains n
  | without a b, n => a.contains n && !b.contains n
  | onlyOne a b, n => a.contains n != b.contains n
  | complement a, n => !a.contains n
  | anyCase alphabet a, n => (alphabet.variants n).any a.contains

def single (n : Nat) : ClassSet := range n n

def ofRanges : List (Nat × Nat) → ClassSet
  | [] => none
  | [(low, high)] => range low high
  | (low, high) :: rest => either (range low high) (ofRanges rest)

def negate (negated : Bool) (a : ClassSet) : ClassSet :=
  if negated then complement a else a

/-- A property as `alphabet` sees it; bytes know its ASCII members only. -/
def ofProperty (alphabet : Alphabet) (p : Property) : ClassSet :=
  match alphabet with
  | .scalars => property p
  | .octets => ofRanges p.asciiRanges

/-- Everything but the line feed, and the carriage return too where it ends lines. -/
def notLineEnd (crlf : Bool) : ClassSet :=
  complement (if crlf then either (single 0x0A) (single 0x0D) else single 0x0A)

/-- The classes named between `[:` and `:]`. -/
def named? : String → Option ClassSet
  | "alnum" => some (ofRanges [(0x30, 0x39), (0x41, 0x5A), (0x61, 0x7A)])
  | "alpha" => some (ofRanges [(0x41, 0x5A), (0x61, 0x7A)])
  | "ascii" => some (range 0x00 0x7F)
  | "blank" => some (ofRanges [(0x09, 0x09), (0x20, 0x20)])
  | "cntrl" => some (ofRanges [(0x00, 0x1F), (0x7F, 0x7F)])
  | "digit" => some (range 0x30 0x39)
  | "graph" => some (range 0x21 0x7E)
  | "lower" => some (range 0x61 0x7A)
  | "print" => some (range 0x20 0x7E)
  | "punct" => some (ofRanges [(0x21, 0x2F), (0x3A, 0x40), (0x5B, 0x60), (0x7B, 0x7E)])
  | "space" => some (ofRanges [(0x09, 0x0D), (0x20, 0x20)])
  | "upper" => some (range 0x41 0x5A)
  | "word" => some (ofRanges [(0x30, 0x39), (0x41, 0x5A), (0x5F, 0x5F), (0x61, 0x7A)])
  | "xdigit" => some (ofRanges [(0x30, 0x39), (0x41, 0x46), (0x61, 0x66)])
  | _ => Option.none

/-- The number of ranges it takes to write the set down, counted from above. -/
def extent : ClassSet → Nat
  | none | range .. => 1
  | property p => p.points.switches.length / 2
  | either a b | both a b | without a b | onlyOne a b => a.extent + b.extent
  | complement a => a.extent + 1
  | anyCase _ a => 2 * a.extent

/-- A short list that has every member, for sets built from short ranges. -/
def candidates? : ClassSet → Option (List Nat)
  | none => some []
  | range low high =>
    if high - low < 64 then some (List.range' low (high + 1 - low)) else Option.none
  | property _ | complement _ => Option.none
  | either a b | onlyOne a b => return (← a.candidates?) ++ (← b.candidates?)
  | both a _ | without a _ => a.candidates?
  | anyCase alphabet a => (a.candidates?).map (·.flatMap alphabet.variants)

/-- The members in increasing order, if there are at most `limit` and they are close by. -/
def members? (limit : Nat) (a : ClassSet) : Option (List Nat) := do
  let found := ((← a.candidates?).filter a.contains).mergeSort.eraseReps
  if found.length ≤ limit then some found else Option.none

end ClassSet
end CallSite.Regex
