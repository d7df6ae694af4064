import CallSite.Regex.Class
import CallSite.Text.Letter

/-!
# Reading a pattern

A pattern is read from left to right into the expression it denotes under the flags in
force. Groups that are open are kept on a stack, with the flags to go back to.
-/
namespace CallSite.Regex

/-- An expression with the nesting of the pattern it was read from. A flag setting is a
node that no operator can repeat. -/
structure Node where
  regex : Regex
  depth : Nat
  repeatable : Bool := true
  deriving Repr, DecidableEq

namespace Node

def leaf (regex : Regex) : Node := ⟨regex, 0, true⟩

/-- Nodes that stand side by side, or one above the other, nest one level deeper than they
do alone. `nodes` is last first. -/
def gather (join : List Regex → Regex) (nodes : List Node) : Node :=
  match nodes with
  | [] => leaf .empty
  | [node] => node
  | nodes =>
    ⟨join (nodes.reverse.map (·.regex)), (nodes.foldl (fun d node => max d node.depth) 0) + 1, true⟩

end Node

/-- What waits outside an open group. -/
structure OpenGroup where
  items : List Node
  branches : List Node
  flags : Flags
  captures : Bool
  deriving Repr, DecidableEq

/-- `items` is the branch being read and `branches` those before it, both last first. -/
structure Reader where
  rest : List Char
  flags : Flags
  items : List Node := []
  branches : List Node := []
  groups : List OpenGroup := []
  names : List String := []
  deriving Repr, DecidableEq

namespace Reader

/-- The deepest nesting that is accepted. -/
def depthLimit : Nat := 250

/-- Counts in braces must fit in 32 bits. -/
def countLimit : Nat := 0xFFFFFFFF

def push (r : Reader) (rest : List Char) (node : Node) : Reader :=
  { r with rest, items := node :: r.items }

/-- What was read since the group opened. -/
def contents (r : Reader) : Node :=
  .gather .ofAlternatives (.gather .ofList r.items :: r.branches)

def openGroup (r : Reader) (rest : List Char) (flags : Flags) (captures : Bool) : Reader :=
  { r with
    rest, flags, items := [], branches := []
    groups := ⟨r.items, r.branches, r.flags, captures⟩ :: r.groups }

def closeGroup (r : Reader) (rest : List Char) : Except Fault Reader :=
  match r.groups with
  | [] => .error .unopenedGroup
  | group :: groups =>
    let inner := r.contents
    let regex := if group.captures then .capture inner.regex else inner.regex
    let node : Node := ⟨regex, inner.depth + 1, true⟩
    .ok { r with
      rest, groups, flags := group.flags
      items := node :: group.items, branches := group.branches }

/-- A letter may start a group's name, and so may an underscore; after that there may also be
numbers, dots and brackets. -/
def isNameChar (first : Bool) (c : Char) : Bool :=
  if first then c == '_' || CodePoints.isLetter c.toNat
  else c == '_' || c == '.' || c == '[' || c == ']' || CodePoints.isLetterOrNumber c.toNat

/-- Reads a group's name after its opening `<`. -/
def readName (r : Reader) (rest : List Char) : Except Fault Reader :=
  let name := rest.takeWhile (· != '>')
  match name, rest.dropWhile (· != '>') with
  | first :: others, '>' :: rest =>
    if !(isNameChar true first && others.all (isNameChar false)) then .error .badGroupName
    else if r.names.contains (String.ofList name) then .error .repeatedGroupName
    else
      let r := { r with names := String.ofList name :: r.names }
      .ok (r.openGroup rest r.flags true)
  | _, _ => .error .badGroupName

/-- Reads flag letters up to `)` or `:`. The flags after a hyphen are turned off; no letter
may come twice, nor may the hyphen, and a flag must follow it. -/
def readFlags (flags : Flags) :
    (seen : List Char) → List Char → Except Fault (Flags × List Char × List Char)
  | _, [] => .error .unclosedGroup
  | seen, c :: rest =>
    if c == ')' || c == ':' then
      if seen.head? == some '-' then .error .danglingNegation else .ok (flags, seen, c :: rest)
    else if seen.contains c then .error .repeatedFlag
    else if c == '-' then readFlags flags (c :: seen) rest
    else
      match flags.set? c (!seen.contains '-') with
      | some flags => readFlags flags (c :: seen) rest
      | none => .error .unknownFlag

/-- Reads what follows an opening parenthesis. -/
def readOpening (r : Reader) (rest : List Char) : Except Fault Reader :=
  match r.flags.skip rest with
  | '?' :: '=' :: _ | '?' :: '!' :: _ | '?' :: '<' :: '=' :: _ | '?' :: '<' :: '!' :: _ =>
    .error .lookAround
  | '?' :: 'P' :: '<' :: rest | '?' :: '<' :: rest => r.readName rest
  | '?' :: rest => do
    match ← readFlags r.flags [] rest with
    | (flags, seen, ')' :: rest) =>
      if seen.isEmpty then throw .nothingToRepeat
      return { r.push rest ⟨.empty, 0, false⟩ with flags }
    | (flags, _, rest) => return r.openGroup rest.tail flags false
  | rest => .ok (r.openGroup rest r.flags true)

/-- Reads a decimal number. Blanks around it are ignored, whatever the flags. -/
def readCount (flags : Flags) (cs : List Char) : Except Fault (Option Nat × List Char) :=
  let rec digits : Nat → Option Nat → List Char → Option Nat × List Char
    | fuel + 1, value?, c :: rest =>
      if '0' ≤ c ∧ c ≤ '9' then
        digits fuel (some (value?.getD 0 * 10 + (c.toNat - '0'.toNat))) (flags.skip rest)
      else (value?, c :: rest)
    | _, value?, rest => (value?, rest)
  let cs := cs.dropWhile isBlank
  let (value?, rest) := digits cs.length none cs
  let rest := flags.skip (rest.dropWhile isBlank)
  if value?.any (countLimit < ·) then .error .countTooLarge else .ok (value?, rest)

/-- Reads the counts after an opening brace, which never stands for itself. -/
def readCounts (flags : Flags) (rest : List Char) :
    Except Fault (Nat × Option Nat × List Char) := do
  let (min?, rest) ← readCount flags (flags.skip rest)
  let (max?, rest) ←
    match rest with
    | ',' :: rest =>
      match flags.skip rest with
      | '\x7d' :: rest => pure (none, '\x7d' :: rest)
      | rest =>
        let (max?, rest) ← readCount flags rest
        if max?.isNone then throw .countExpected
        pure (max?, rest)
    | rest => pure (min?, rest)
  let some min := min? | throw .countExpected
  match rest with
  | '\x7d' :: rest => return (min, max?, flags.skip rest)
  | _ => throw .unclosedCount

/-- Repeats the item just read. A `?` that follows at once makes the repetition lazy. -/
def repeatLast (r : Reader) (min : Nat) (max? : Option Nat) (rest : List Char) :
    Except Fault Reader :=
  match r.items with
  | node :: items =>
    if !node.repeatable then .error .nothingToRepeat
    else if max?.any (· < min) then .error .countsReversed
    else
      let lazy := rest.head? == some '?'
      let rest := if lazy then rest.tail else rest
      let regex := node.regex.times min max? (lazy == r.flags.swapGreed)
      .ok { r with rest, items := ⟨regex, node.depth + 1, true⟩ :: items }
  | [] => .error .nothingToRepeat

def meaning (flags : Flags) : Primitive → Regex
  | .literal c octet => flags.literal c octet
  | .property p negated => .oneOf flags.alphabet (.negate negated (.ofProperty flags.alphabet p))
  | .look a => .look a

/-- Reads one item, operator or parenthesis. -/
def step (r : Reader) (c : Char) (rest : List Char) : Except Fault Reader := do
  match c with
  | '(' => r.readOpening rest
  | ')' => r.closeGroup rest
  | '|' => return { r with rest, items := [], branches := .gather .ofList r.items :: r.branches }
  | '[' =>
    let (node, rest) ← readClass r.flags rest
    return r.push rest ⟨.oneOf r.flags.alphabet node.set, node.depth, true⟩
  | '?' => r.repeatLast 0 (some 1) rest
  | '*' => r.repeatLast 0 none rest
  | '+' => r.repeatLast 1 none rest
  | '\x7b' =>
    if r.items.isEmpty then throw .nothingToRepeat
    let (min, max?, rest) ← readCounts r.flags rest
    r.repeatLast min max? rest
  | '\\' =>
    let (primitive, rest) ← readEscape r.flags rest
    return r.push rest (.leaf (meaning r.flags primitive))
  | '.' => return r.push rest (.leaf r.flags.dot)
  | '^' => return r.push rest (.leaf (.look r.flags.caret))
  | '$' => return r.push rest (.leaf (.look r.flags.dollar))
  | c => return r.push rest (.leaf (r.flags.literal c false))

def run : Nat → Reader → Except Fault Reader
  | 0, r => .ok r
  | fuel + 1, r =>
    match r.flags.skip r.rest with
    | [] => .ok r
    | c :: rest => do run fuel (← r.step c rest)

end Reader

/-- Reads a whole pattern. Every step takes at least one character, so the length of the
pattern is fuel enough. -/
def parse (flags : Flags) (pattern : List Char) : Except Fault Regex := do
  let r ← ({ rest := pattern, flags } : Reader).run pattern.length
  if !r.groups.isEmpty then throw .unclosedGroup
  let node := r.contents
  if Reader.depthLimit < node.depth then throw .tooDeep
  return node.regex

end CallSite.Regex
