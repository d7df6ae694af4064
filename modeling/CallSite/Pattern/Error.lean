import CallSite.Pattern.Encoding

/-!
# Why a pattern cannot be built
-/
namespace CallSite

inductive PatternError where
  /-- What a compiler has against a source, in its own words. -/
  | syntaxError (source words : String)
  /-- Two fragments with non-ASCII bytes are in different encodings. -/
  | encodingMismatch (left right : Pattern.Encoding)
  /-- Non-ASCII text in a pattern that is to have no encoding. -/
  | nonAsciiWithoutEncoding (encoding : Pattern.Encoding)
  /-- Bytes that their own encoding does not allow. -/
  | invalidMultibyte (encoding : Pattern.Encoding) (source : String)
  | invalidOption (flag : Char)
  /-- A fragment could not be evaluated. -/
  | fragment (text : String)
  deriving Repr, DecidableEq

namespace PatternError

def message : PatternError → String
  | syntaxError source words => words ++ ": /" ++ source ++ "/"
  | encodingMismatch left right =>
    "encoding mismatch in dynamic regexp : " ++ left.name ++ " and " ++ right.name
  | nonAsciiWithoutEncoding encoding =>
    "/.../n has a non escaped non ASCII character in non ASCII-8BIT script (" ++
      encoding.name ++ ")"
  | invalidMultibyte encoding source =>
    "invalid multibyte character (" ++ encoding.name ++ "): /" ++ source ++ "/"
  | invalidOption flag => "unknown regexp option: " ++ flag.toString
  | fragment text => "Fragment evaluation failed: " ++ text

end PatternError
end CallSite
