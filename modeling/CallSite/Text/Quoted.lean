import CallSite.Text.Hidden

/-!
# Quoted text

Text in double quotes, as values and names are shown to a person who looks for exactly
what they hold.
-/
namespace CallSite.Quoted

/-- Hexadecimal digits in lower case, without leading zeros. -/
def hex (n : Nat) : List Char := Nat.toDigits 16 n

/-- The spelling of one character inside quotes: a short escape, its code point in braces
if it would not show, or itself. -/
def spell (c : Char) : List Char :=
  match c with
  | '"' => ['\\', '"']
  | '\\' => ['\\', '\\']
  | '\n' => ['\\', 'n']
  | '\r' => ['\\', 'r']
  | '\t' => ['\\', 't']
  | '\x00' => ['\\', '0']
  | c =>
    if CodePoints.hidden.member c.toNat then ['\\', 'u', '\x7b'] ++ hex c.toNat ++ ['\x7d']
    else [c]

def quote (s : String) : String :=
  String.ofList ('"' :: s.toList.flatMap spell ++ ['"'])

end CallSite.Quoted
