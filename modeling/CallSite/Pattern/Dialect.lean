import CallSite.Pattern.Scan
import CallSite.Pattern.Template

/-!
# Compiling with the pattern dialect

A UTF-8 source is compiled as it is and matched by scalar values. A source in any other
encoding is matched by bytes; its bytes from `80` on are written as escapes first. What the text
means is left to the engine that compiles it, and any engine will do.
-/
namespace CallSite.Pattern

/-! ### Engines -/

/-- How an engine is to read a text. -/
structure Engine.Flags where
  ignoreCase : Bool
  /-- Line anchors stand for the ends of lines and not only for those of the whole text. -/
  multiLine : Bool
  /-- The dot stands for line ends too. -/
  dotAll : Bool
  extended : Bool
  unicode : Bool
  deriving Repr, DecidableEq

/-- Compiles texts of the dialect under a limit on the size of what it makes of them, which is its
own if none is given. It says in its own words what is wrong with a text. What it makes of one is
asked for matches only at offsets that the searched bytes have. -/
abbrev Engine := Engine.Flags → (sizeLimit : Option Nat) → (text : List Char) →
  Except String Matcher

/-! ### Sources in the dialect -/

/-- Two hexadecimal digits in upper case. -/
def byteDigits (b : UInt8) : List Char :=
  let digit (n : Nat) : Char := Char.ofNat (if n < 10 then 0x30 + n else 0x37 + n)
  [digit (b.toNat / 16), digit (b.toNat % 16)]

/-- A byte as the dialect reads it back: itself if it is ASCII, else an escape. -/
def spellByte (b : UInt8) : List Char :=
  if isAscii b then [Char.ofNat b.toNat] else '\\' :: 'x' :: byteDigits b

namespace Source

/-- The text of a source in the dialect. -/
def dialectText (s : Source) : Except PatternError (List Char) :=
  if s.encoding = .utf8 then
    if Utf8.isValid s.bytes then .ok (Utf8.lossyChars s.bytes)
    else .error (.invalidMultibyte .utf8 s.lossy)
  else .ok (s.bytes.flatMap spellByte)

/-- Line anchors are always on; Unicode mode is on for UTF-8 alone. -/
def dialectFlags (s : Source) (o : Options) : Engine.Flags where
  ignoreCase := o.ignoreCase
  multiLine := true
  dotAll := o.multiline
  extended := o.extended
  unicode := s.encoding = .utf8

/-- The encoding after compilation: an ASCII source that names characters by `\u` is UTF-8. -/
def promoted (s : Source) (o : Options) : Encoding :=
  if s.encoding = .usAscii ∧ ¬ o.noEncoding ∧ Scan.hasUnicodeEscape s.bytes then .utf8
  else s.encoding

end Source

/-! ### Compiling -/

/-- There is no match behind the end of the searched bytes; everywhere else the engine is asked. -/
def dialectMatcher (m : Matcher) : Matcher where
  find? text start := if text.length < start then none else m.find? text start
  inspect := "RegexMatcher(" ++ m.inspect ++ ")"

/-- Compiles a source with an engine of the pattern dialect. -/
def compileDialect (engine : Engine) (sizeLimit : Option Nat) (s : Source) (o : Options) :
    Except PatternError Compiled := do
  let text ← s.dialectText
  match engine (s.dialectFlags o) sizeLimit text with
  | .error words => throw (.syntaxError s.lossy words)
  | .ok m => return ⟨dialectMatcher m, ⟨s.bytes, s.promoted o⟩⟩

section Compile

variable {engine : Engine} {sizeLimit : Option Nat} {s : Source} {o : Options} {c : Compiled}
  {e : PatternError}

theorem compileDialect_eq_ok_iff : compileDialect engine sizeLimit s o = .ok c ↔
    ∃ text m, s.dialectText = .ok text ∧ engine (s.dialectFlags o) sizeLimit text = .ok m ∧
      c = ⟨dialectMatcher m, ⟨s.bytes, s.promoted o⟩⟩ := by
  rw [compileDialect]
  cases htext : s.dialectText with
  | error e => simp [Bind.bind, Except.bind]
  | ok text =>
    cases hm : engine (s.dialectFlags o) sizeLimit text with
    | error words => simp [Bind.bind, Except.bind, hm, throw, throwThe, MonadExceptOf.throw]
    | ok m => simp [Bind.bind, Except.bind, hm, pure, Except.pure, eq_comm]

/-- A source is refused because it has no text in the dialect, or by the engine. -/
theorem compileDialect_eq_error_iff : compileDialect engine sizeLimit s o = .error e ↔
    s.dialectText = .error e ∨ ∃ text words, s.dialectText = .ok text ∧
      engine (s.dialectFlags o) sizeLimit text = .error words ∧ e = .syntaxError s.lossy words := by
  rw [compileDialect]
  cases htext : s.dialectText with
  | error e => simp [Bind.bind, Except.bind]
  | ok text =>
    cases hm : engine (s.dialectFlags o) sizeLimit text with
    | error words =>
      simp [Bind.bind, Except.bind, hm, throw, throwThe, MonadExceptOf.throw, eq_comm]
    | ok m => simp [Bind.bind, Except.bind, hm, pure, Except.pure]

end Compile

/-- The pattern dialect as a compiler that changes no state. -/
def dialectCompiler {σ : Type} (engine : Engine) (sizeLimit : Option Nat) : Compiler σ := fun s o =>
  Act.ofExcept (compileDialect engine sizeLimit s o)

section Compiler

variable {σ : Type} {engine : Engine} {sizeLimit : Option Nat} {s : Source} {o : Options}
  {x x' : σ}

theorem dialectCompiler_eq_ok_iff {c : Compiled} :
    dialectCompiler engine sizeLimit s o x = .ok c x' ↔
      compileDialect engine sizeLimit s o = .ok c ∧ x = x' := Act.ofExcept_eq_ok_iff

theorem dialectCompiler_eq_failure_iff {e : PatternError} :
    dialectCompiler engine sizeLimit s o x = .error (.failure e) x' ↔
      compileDialect engine sizeLimit s o = .error e ∧ x = x' := Act.ofExcept_eq_failure_iff

end Compiler
end CallSite.Pattern
