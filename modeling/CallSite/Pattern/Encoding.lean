/-!
# Encodings
-/
namespace CallSite.Pattern

/-- How the bytes of a fragment or of a pattern's source map to characters. -/
inductive Encoding where
  | utf8
  | usAscii
  | binary
  | latin1
  deriving Repr, DecidableEq

namespace Encoding

def name : Encoding → String
  | utf8 => "UTF-8"
  | usAscii => "US-ASCII"
  | binary => "ASCII-8BIT"
  | latin1 => "ISO-8859-1"

/-- Each byte is one character. -/
def isSingleByte : Encoding → Bool
  | utf8 => false
  | usAscii | binary | latin1 => true

end Encoding
end CallSite.Pattern
