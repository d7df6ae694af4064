import CallSite.Text.Numeral

/-!
# The TOML of settings files

Settings are whole numbers and truth values under dotted keys, in tables with or without a
header of their own. This is a reader for that part of TOML: every other kind of value is
refused, as is anything that is not TOML. A document is read into its statements.
-/
namespace CallSite.Toml

inductive Scalar where
  | integer (n : Int)
  | boolean (b : Bool)
  deriving Repr, DecidableEq

abbrev Key := List String

inductive Value where
  | scalar (s : Scalar)
  | array (items : List Scalar)
  | table (entries : List (Key × Scalar))
  deriving Repr, DecidableEq

inductive Statement where
  | header (key : Key)
  | assign (key : Key) (value : Value)
  deriving Repr, DecidableEq

/-- What was read and what is left, or nothing if the text does not start with it. -/
abbrev Read (α : Type) := List Char → Option (α × List Char)

def isBlank (c : Char) : Bool := c == ' ' || c == '\t'

/-- Characters that no comment or string may hold. -/
def isControl (c : Char) : Bool := (c.toNat < 0x20 && c != '\t') || c.toNat == 0x7F

def skipBlank (cs : List Char) : List Char := cs.dropWhile isBlank

def isBare (c : Char) : Bool := c.isAlphanum || c == '-' || c == '_'

/-- Exactly `count` hexadecimal digits. -/
def readHex : (count value : Nat) → Read Nat
  | 0, value, cs => some (value, cs)
  | count + 1, value, c :: cs => do readHex count (value * 16 + (← hexValue? c)) cs
  | _ + 1, _, [] => none

/-- What stands behind a backslash in a string. -/
def readEscape : Read Char
  | 'b' :: cs => some ('\x08', cs)
  | 't' :: cs => some ('\t', cs)
  | 'n' :: cs => some ('\n', cs)
  | 'f' :: cs => some ('\x0c', cs)
  | 'r' :: cs => some ('\r', cs)
  | '"' :: cs => some ('"', cs)
  | '\\' :: cs => some ('\\', cs)
  | 'u' :: cs => do
    let (n, cs) ← readHex 4 0 cs
    return (← scalar? n, cs)
  | 'U' :: cs => do
    let (n, cs) ← readHex 8 0 cs
    return (← scalar? n, cs)
  | _ => none

/-- The rest of a string in double quotes. -/
def readQuoted : (fuel : Nat) → (read : List Char) → Read String
  | _, read, '"' :: cs => some (String.ofList read.reverse, cs)
  | fuel + 1, read, '\\' :: cs => do
    let (c, cs) ← readEscape cs
    readQuoted fuel (c :: read) cs
  | fuel + 1, read, c :: cs => if isControl c then none else readQuoted fuel (c :: read) cs
  | _, _, _ => none

def readSimpleKey : Read String
  | '"' :: cs => readQuoted cs.length [] cs
  | '\'' :: cs =>
    let text := cs.takeWhile (· != '\'')
    match cs.dropWhile (· != '\'') with
    | _ :: rest => if text.any isControl then none else some (String.ofList text, rest)
    | [] => none
  | cs =>
    let text := cs.takeWhile isBare
    if text.isEmpty then none else some (String.ofList text, cs.dropWhile isBare)

/-- Simple keys with dots between them; blanks around the dots are ignored. -/
def readKey : (fuel : Nat) → Read Key
  | 0, _ => none
  | fuel + 1, cs => do
    let (first, rest) ← readSimpleKey cs
    match skipBlank rest with
    | '.' :: rest =>
      let (others, rest) ← readKey fuel (skipBlank rest)
      return (first :: others, rest)
    | rest => return ([first], rest)

/-- Digits of a base, with single underscores between them. `value?` is what was read up to
here, and an underscore must be followed by a digit. -/
def readDigits (base : Nat) : (value? : Option Nat) → (afterUnderscore : Bool) → Read Nat
  | value?, afterUnderscore, [] => if afterUnderscore then none else value?.map (·, [])
  | value?, afterUnderscore, c :: cs =>
    match (hexValue? c).filter (· < base), value? with
    | some d, _ => readDigits base (some (value?.getD 0 * base + d)) false cs
    | none, some value =>
      if c == '_' && !afterUnderscore then readDigits base (some value) true cs
      else if afterUnderscore then none else some (value, c :: cs)
    | none, none => none

/-- A whole number. Decimal ones may have a sign and have no leading zeros. -/
def readInteger (cs : List Char) : Option (Int × List Char) :=
  let based (base : Nat) (cs : List Char) : Option (Int × List Char) :=
    (readDigits base none false cs).map fun (n, rest) => ((n : Int), rest)
  let decimal (cs : List Char) : Option (Int × List Char) :=
    match cs with
    | '0' :: rest =>
      match rest with
      | c :: _ => if c.isDigit || c == '_' then none else some (0, rest)
      | [] => some (0, [])
    | cs => based 10 cs
  match cs with
  | '0' :: 'x' :: rest => based 16 rest
  | '0' :: 'o' :: rest => based 8 rest
  | '0' :: 'b' :: rest => based 2 rest
  | '+' :: rest => decimal rest
  | '-' :: rest => (decimal rest).map fun (n, rest) => (-n, rest)
  | cs => decimal cs

/-- Whole numbers have 64 bits, one of them for the sign. -/
def inRange (n : Int) : Bool := -0x8000000000000000 ≤ n && n < 0x8000000000000000

def readScalar : Read Scalar
  | 't' :: 'r' :: 'u' :: 'e' :: cs => some (.boolean true, cs)
  | 'f' :: 'a' :: 'l' :: 's' :: 'e' :: cs => some (.boolean false, cs)
  | cs => do
    let (n, rest) ← readInteger cs
    if inRange n then some (.integer n, rest) else none

/-- The end of a line, or of the text, behind blanks and a comment. -/
def readLineEnd (cs : List Char) : Option (List Char) :=
  let cs := skipBlank cs
  let cs? :=
    match cs with
    | '#' :: comment =>
      let rest := comment.dropWhile (!isControl ·)
      some rest
    | cs => some cs
  match cs? with
  | some [] => some []
  | some ('\n' :: rest) => some rest
  | some ('\r' :: '\n' :: rest) => some rest
  | _ => none

/-- Blanks, comments and line ends between the items of an array. -/
def skipLines : (fuel : Nat) → List Char → List Char
  | 0, cs => cs
  | fuel + 1, cs =>
    match skipBlank cs with
    | [] => []
    | c :: rest =>
      if c == '#' || c == '\n' || c == '\r' then
        match readLineEnd (c :: rest) with
        | some rest => skipLines fuel rest
        | none => c :: rest
      else c :: rest

/-- The items of an array behind its bracket. A comma may follow the last one. -/
def readItems : (fuel : Nat) → Read (List Scalar)
  | 0, _ => none
  | fuel + 1, cs =>
    match skipLines cs.length cs with
    | ']' :: rest => some ([], rest)
    | cs => do
      let (first, rest) ← readScalar cs
      match skipLines rest.length rest with
      | ',' :: rest =>
        let (others, rest) ← readItems fuel rest
        return (first :: others, rest)
      | ']' :: rest => return ([first], rest)
      | _ => none

/-- One `key = value` with a scalar value. -/
def readEntry (cs : List Char) : Option ((Key × Scalar) × List Char) := do
  let (key, rest) ← readKey (cs.length + 1) cs
  match skipBlank rest with
  | '=' :: rest =>
    let (value, rest) ← readScalar (skipBlank rest)
    return ((key, value), rest)
  | _ => none

/-- The entries of an inline table, of which there is at least one. No comma follows the
last one. -/
def readEntries : (fuel : Nat) → Read (List (Key × Scalar))
  | 0, _ => none
  | fuel + 1, cs => do
    let (first, rest) ← readEntry (skipBlank cs)
    match skipBlank rest with
    | ',' :: rest =>
      let (others, rest) ← readEntries fuel rest
      return (first :: others, rest)
    | '\x7d' :: rest => return ([first], rest)
    | _ => none

def readValue (cs : List Char) : Option (Value × List Char) :=
  match cs with
  | '[' :: rest => (readItems (rest.length + 1) rest).map fun (items, rest) => (.array items, rest)
  | '\x7b' :: rest =>
    match skipBlank rest with
    | '\x7d' :: rest => some (.table [], rest)
    | rest => (readEntries (rest.length + 1) rest).map fun (entries, rest) => (.table entries, rest)
  | cs => (readScalar cs).map fun (s, rest) => (.scalar s, rest)

def readStatement (cs : List Char) : Option (Statement × List Char) :=
  match cs with
  | '[' :: rest => do
    let (key, rest) ← readKey (rest.length + 1) (skipBlank rest)
    match skipBlank rest with
    | ']' :: rest => return (.header key, rest)
    | _ => none
  | cs => do
    let (key, rest) ← readKey (cs.length + 1) cs
    match skipBlank rest with
    | '=' :: rest =>
      let (value, rest) ← readValue (skipBlank rest)
      return (.assign key value, rest)
    | _ => none

def readStatements : (fuel : Nat) → List Char → Option (List Statement)
  | 0, _ => none
  | fuel + 1, cs =>
    match readLineEnd cs with
    | some [] => some []
    | some rest => readStatements fuel rest
    | none => do
      let (first, rest) ← readStatement (skipBlank cs)
      match ← readLineEnd rest with
      | [] => return [first]
      | rest => return first :: (← readStatements fuel rest)

/-- The statements of a document. A byte order mark in front is ignored. -/
def read? (text : String) : Option (List Statement) :=
  let cs :=
    match text.toList with
    | '\uFEFF' :: cs => cs
    | cs => cs
  readStatements (cs.length + 1) cs

end CallSite.Toml
