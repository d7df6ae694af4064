import CallSite.Regex.Escape

/-!
# Bracketed classes

A bracket holds single characters, ranges, named classes and further brackets, and may
join what stands to the left and right of `&&`, `--` and `~~`. Brackets that are open are
kept on a stack.
-/
namespace CallSite.Regex

structure ClassNode where
  set : ClassSet
  depth : Nat
  deriving Repr, DecidableEq

namespace ClassNode

def leaf (set : ClassSet) : ClassNode := ⟨set, 0⟩

/-- The union of what was read, last first. Only a union of several counts as nesting. -/
def union (items : List ClassNode) : ClassNode :=
  match items with
  | [] => leaf .none
  | [item] => item
  | items =>
    ⟨items.foldr (fun item set => .either set item.set) .none,
      (items.foldl (fun d item => max d item.depth) 0) + 1⟩

end ClassNode

inductive SetOp where
  | both
  | without
  | onlyOne
  deriving Repr, DecidableEq

def SetOp.apply : SetOp → ClassSet → ClassSet → ClassSet
  | both => .both
  | without => .without
  | onlyOne => .onlyOne

/-- What waits below the part of a bracket that is being read. -/
inductive ClassFrame where
  | bracket (negated : Bool) (outer : List ClassNode)
  | operand (op : SetOp) (left : ClassNode)
  deriving Repr, DecidableEq

structure ClassReader where
  rest : List Char
  items : List ClassNode
  frames : List ClassFrame
  deriving Repr, DecidableEq

namespace ClassReader

/-- Reads an opening bracket with what may follow it only there: a `^`, hyphens that stand
for themselves, and a `]` that does. -/
def enter (flags : Flags) (rest : List Char) (outer : List ClassNode)
    (frames : List ClassFrame) : ClassReader :=
  let rest := flags.skip rest
  let negated := rest.head? == some '^'
  let rest := if negated then flags.skip rest.tail else rest
  let rec hyphens : Nat → List Char → List ClassNode → List Char × List ClassNode
    | fuel + 1, '-' :: rest, items => hyphens fuel (flags.skip rest) (.leaf (.single 0x2D) :: items)
    | _, rest, items => (rest, items)
  let (rest, items) := hyphens rest.length rest []
  match items, rest with
  | [], ']' :: rest => ⟨flags.skip rest, [.leaf (.single 0x5D)], .bracket negated outer :: frames⟩
  | items, rest => ⟨rest, items, .bracket negated outer :: frames⟩

/-- A named class `[:name:]` after its opening bracket, if there is one. -/
def named? (flags : Flags) (rest : List Char) : Option (ClassSet × List Char) :=
  match rest with
  | ':' :: rest =>
    let negated := rest.head? == some '^'
    let rest := if negated then rest.tail else rest
    match rest.dropWhile (· != ':') with
    | ':' :: ']' :: after =>
      (ClassSet.named? (String.ofList (rest.takeWhile (· != ':')))).map fun set =>
        (.negate negated (flags.folded set), after)
    | _ => none
  | _ => none

/-- What was read since the last operator, joined to the operand on its left. -/
def operand (flags : Flags) (items : List ClassNode) :
    List ClassFrame → ClassNode × List ClassFrame
  | .operand op left :: frames =>
    let right := ClassNode.union items
    (⟨op.apply (flags.folded left.set) (flags.folded right.set), max left.depth right.depth + 1⟩,
      frames)
  | frames => (.union items, frames)

def push (r : ClassReader) (rest : List Char) (set : ClassSet) : ClassReader :=
  { r with rest, items := .leaf set :: r.items }

def operator (flags : Flags) (r : ClassReader) (op : SetOp) (rest : List Char) : ClassReader :=
  let (left, frames) := operand flags r.items r.frames
  ⟨rest, [], .operand op left :: frames⟩

def readItem (flags : Flags) : List Char → Except Fault (Primitive × List Char)
  | [] => .error .unclosedClass
  | '\\' :: rest => readEscape flags rest
  | c :: rest => .ok (.literal c false, rest)

def itemSet (flags : Flags) : Primitive → Except Fault ClassSet
  | .literal c octet => return .single (← flags.symbol c octet)
  | .property p negated => .ok (.negate negated (.ofProperty flags.alphabet p))
  | .look _ => .error .notInClass

def rangeEnd (flags : Flags) : Primitive → Except Fault Nat
  | .literal c octet => flags.symbol c octet
  | _ => .error .rangeEndNotLiteral

/-- The character after a hyphen. Blanks are looked past, and so is one `#`. -/
def peek? (flags : Flags) (rest : List Char) : Option Char :=
  if flags.extended then
    match rest.dropWhile isBlank with
    | '#' :: rest => (rest.dropWhile isBlank).head?
    | rest => rest.head?
  else rest.head?

/-- Reads a single member or a range. A hyphen before `]` or another hyphen makes no range. -/
def readMember (flags : Flags) (r : ClassReader) : Except Fault ClassReader := do
  let (first, rest) ← readItem flags r.rest
  match flags.skip rest with
  | [] => throw .unclosedClass
  | '-' :: after =>
    if peek? flags after == some ']' || peek? flags after == some '-' then
      return r.push ('-' :: after) (← itemSet flags first)
    else
      let (last, rest) ← readItem flags (flags.skip after)
      let low ← rangeEnd flags first
      let high ← rangeEnd flags last
      if high < low then throw .rangeReversed
      return r.push rest (.range low high)
  | rest => return r.push rest (← itemSet flags first)

/-- Closes the innermost bracket; the outermost one yields the whole class. -/
def close (flags : Flags) (r : ClassReader) (rest : List Char) :
    Except Fault (ClassReader ⊕ (ClassNode × List Char)) :=
  match operand flags r.items r.frames with
  | (node, .bracket negated outer :: frames) =>
    let closed : ClassNode := ⟨.negate negated (flags.folded node.set), node.depth + 1⟩
    if frames.isEmpty then .ok (.inr (closed, rest))
    else .ok (.inl ⟨rest, closed :: outer, frames⟩)
  | _ => .error .unclosedClass

def step (flags : Flags) (r : ClassReader) :
    Except Fault (ClassReader ⊕ (ClassNode × List Char)) :=
  match flags.skip r.rest with
  | [] => .error .unclosedClass
  | '[' :: rest =>
    match named? flags rest with
    | some (set, rest) => .ok (.inl (r.push rest set))
    | none => .ok (.inl (enter flags rest r.items r.frames))
  | ']' :: rest => r.close flags rest
  | '&' :: '&' :: rest => .ok (.inl (operator flags r .both rest))
  | '-' :: '-' :: rest => .ok (.inl (operator flags r .without rest))
  | '~' :: '~' :: rest => .ok (.inl (operator flags r .onlyOne rest))
  | rest => return .inl (← { r with rest }.readMember flags)

def run (flags : Flags) : Nat → ClassReader → Except Fault (ClassNode × List Char)
  | 0, _ => .error .unclosedClass
  | fuel + 1, r => do
    match ← r.step flags with
    | .inl r => run flags fuel r
    | .inr done => return done

end ClassReader

/-- Reads a class whose opening bracket has been read. Every step of the reader takes at
least one character, so the length of the pattern is fuel enough. -/
def readClass (flags : Flags) (rest : List Char) : Except Fault (ClassNode × List Char) :=
  (ClassReader.enter flags rest [] []).run flags (rest.length + 1)

end CallSite.Regex
