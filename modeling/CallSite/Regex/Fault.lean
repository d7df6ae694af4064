/-!
# What can be wrong with a pattern
-/
namespace CallSite.Regex

inductive Fault where
  | unclosedGroup
  | unopenedGroup
  | unclosedClass
  | lookAround
  | backreference
  | unknownEscape
  | unknownProperty
  | endsInEscape
  | hexDigitExpected
  | notAScalar
  | nothingToRepeat
  | unclosedCount
  | countExpected
  | countTooLarge
  | countsReversed
  | unknownFlag
  | repeatedFlag
  | danglingNegation
  | badGroupName
  | repeatedGroupName
  | badWordEdge
  | rangeReversed
  | rangeEndNotLiteral
  | notInClass
  | notAByte
  | tooDeep
  | tooLarge
  deriving Repr, DecidableEq

namespace Fault

def message : Fault → String
  | unclosedGroup => "unclosed group"
  | unopenedGroup => "unopened group"
  | unclosedClass => "unclosed character class"
  | lookAround => "look-around is not supported"
  | backreference => "backreferences are not supported"
  | unknownEscape => "unrecognized escape sequence"
  | unknownProperty => "unknown character property"
  | endsInEscape => "pattern ends in an escape sequence"
  | hexDigitExpected => "hexadecimal digit expected"
  | notAScalar => "escape is not a scalar value"
  | nothingToRepeat => "repetition operator without an expression"
  | unclosedCount => "unclosed counted repetition"
  | countExpected => "repetition count expected"
  | countTooLarge => "repetition count is too large"
  | countsReversed => "repetition counts are reversed"
  | unknownFlag => "unrecognized flag"
  | repeatedFlag => "repeated flag"
  | danglingNegation => "flag negation without a flag"
  | badGroupName => "invalid group name"
  | repeatedGroupName => "repeated group name"
  | badWordEdge => "unknown word boundary"
  | rangeReversed => "range ends are reversed"
  | rangeEndNotLiteral => "range end is not a single character"
  | notInClass => "escape is not allowed in a character class"
  | notAByte => "character class item is not a byte"
  | tooDeep => "pattern is nested too deeply"
  | tooLarge => "compiled pattern exceeds the size limit"

end Fault
end CallSite.Regex
