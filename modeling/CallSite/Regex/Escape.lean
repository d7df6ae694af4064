import CallSite.Regex.Flags
import CallSite.Text.Numeral

/-!
# Escapes

What follows a backslash: a character that would otherwise have a meaning, a character by
number, a class, or an assertion. With extended syntax, blanks and comments may stand
between the digits of a number.
-/
namespace CallSite.Regex

def isBlank (c : Char) : Bool := CodePoints.blank.member c.toNat

/-- Drops blanks and `#` comments; a comment ends with its line. -/
def skipBlank (inComment : Bool) : List Char → List Char
  | [] => []
  | c :: rest =>
    if inComment then skipBlank (c != '\n') rest
    else if isBlank c then skipBlank false rest
    else if c == '#' then skipBlank true rest
    else c :: rest

/-- Drops what the extended syntax ignores, if it is on. -/
def Flags.skip (flags : Flags) (cs : List Char) : List Char :=
  if flags.extended then skipBlank false cs else cs

/-- Reads exactly `count` digits. -/
def readHex (flags : Flags) : (count value : Nat) → List Char → Except Fault (Nat × List Char)
  | 0, value, cs => .ok (value, cs)
  | _ + 1, _, [] => .error .endsInEscape
  | count + 1, value, c :: cs =>
    match hexValue? c with
    | some d => readHex flags count (value * 16 + d) (flags.skip cs)
    | none => .error .hexDigitExpected

/-- Reads digits up to the closing brace. -/
def readBracedHex (flags : Flags) :
    (fuel : Nat) → (value? : Option Nat) → List Char → Except Fault (Nat × List Char)
  | 0, _, _ => .error .endsInEscape
  | _ + 1, _, [] => .error .endsInEscape
  | fuel + 1, value?, c :: cs =>
    if c == '\x7d' then
      match value? with
      | some value => .ok (value, flags.skip cs)
      | none => .error .hexDigitExpected
    else
      match hexValue? c with
      | some d => readBracedHex flags fuel (some (value?.getD 0 * 16 + d)) (flags.skip cs)
      | none => .error .hexDigitExpected

/-- Something a pattern can name in one go. `octet` marks `\xHH`. -/
inductive Primitive where
  | literal (c : Char) (octet : Bool)
  | property (p : Property) (negated : Bool)
  | look (a : Assertion)
  deriving Repr, DecidableEq

/-- Reads the digits after `\x`, `\u` or `\U`: as many as `digits`, or any number in braces. -/
def readNumbered (flags : Flags) (digits : Nat) (cs : List Char) :
    Except Fault (Primitive × List Char) := do
  let cs := flags.skip cs
  let braced := cs.head? == some '\x7b'
  let (n, rest) ←
    if braced then readBracedHex flags cs.length none (flags.skip cs.tail)
    else readHex flags digits 0 cs
  match scalar? n with
  | some c => return (.literal c (!braced && digits == 2), rest)
  | none => throw .notAScalar

def wordEdge? : String → Option WordEdge
  | "start" => some .start
  | "end" => some .stop
  | "start-half" => some .afterGap
  | "end-half" => some .beforeGap
  | _ => none

def isEdgeLetter (c : Char) : Bool :=
  ('a' ≤ c && c ≤ 'z') || ('A' ≤ c && c ≤ 'Z') || c == '-'

def readEdgeName (flags : Flags) :
    (fuel : Nat) → (name : List Char) → List Char → Except Fault (WordEdge × List Char)
  | fuel + 1, name, c :: cs =>
    if isEdgeLetter c then readEdgeName flags fuel (name ++ [c]) (flags.skip cs)
    else if c == '\x7d' then
      match wordEdge? (String.ofList name) with
      | some edge => .ok (edge, cs)
      | none => .error .badWordEdge
    else .error .badWordEdge
  | _, _, _ => .error .badWordEdge

/-- After `\b`: the name of a special boundary in braces, or nothing that belongs to it. -/
def readBoundary (flags : Flags) (cs : List Char) : Except Fault (WordEdge × List Char) :=
  match cs with
  | '\x7b' :: inner =>
    match flags.skip inner with
    | [] => .error .badWordEdge
    | c :: rest =>
      if isEdgeLetter c then readEdgeName flags (rest.length + 2) [] (c :: rest)
      else .ok (.boundary, cs)
  | cs => .ok (.boundary, cs)

/-- Reads what follows a backslash. Every ASCII character but letters and digits may be
escaped to stand for itself; `\<` and `\>` are the two ends of a word. Character properties have
no names here. -/
def readEscape (flags : Flags) : List Char → Except Fault (Primitive × List Char)
  | [] => .error .endsInEscape
  | c :: cs =>
    let char (n : Nat) : Except Fault (Primitive × List Char) :=
      .ok (.literal (Char.ofNat n) false, cs)
    let property (p : Property) (negated : Bool) : Except Fault (Primitive × List Char) :=
      .ok (.property p negated, cs)
    let look (a : Assertion) : Except Fault (Primitive × List Char) := .ok (.look a, cs)
    match c with
    | 'x' => readNumbered flags 2 cs
    | 'u' => readNumbered flags 4 cs
    | 'U' => readNumbered flags 8 cs
    | 'p' | 'P' => .error .unknownProperty
    | 'd' => property .digit false
    | 'D' => property .digit true
    | 's' => property .blank false
    | 'S' => property .blank true
    | 'w' => property .word false
    | 'W' => property .word true
    | 'a' => char 0x07
    | 't' => char 0x09
    | 'n' => char 0x0A
    | 'v' => char 0x0B
    | 'f' => char 0x0C
    | 'r' => char 0x0D
    | 'A' => look .textStart
    | 'z' => look .textEnd
    | 'B' => look (.word .inside flags.alphabet)
    | '<' => look (.word .start flags.alphabet)
    | '>' => look (.word .stop flags.alphabet)
    | 'b' => do
      let (edge, rest) ← readBoundary flags cs
      return (.look (.word edge flags.alphabet), rest)
    | c =>
      if '0' ≤ c ∧ c ≤ '9' then .error .backreference
      else if c.toNat < 0x80 ∧ ¬ c.isAlpha then .ok (.literal c false, cs)
      else .error .unknownEscape

end CallSite.Regex
