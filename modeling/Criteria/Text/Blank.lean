import Criteria.Text.CharClass

/-!
# White space

The 25 characters of the property White_Space, and the trimming of a
text at both ends. A text is blank when trimming leaves nothing of it.
-/

namespace Criteria.Text

/-- The property White_Space. -/
def blank : CharClass := .ofSpans
  [[(0x9, 0xD), (0x20, 0x20), (0x85, 0x85), (0xA0, 0xA0), (0x1680, 0x1680), (0x2000, 0x200A),
    (0x2028, 0x2029), (0x202F, 0x202F), (0x205F, 0x205F), (0x3000, 0x3000)]]

def isBlankChar (c : Char) : Bool := blank.contains c

/-- The characters from the first to the last that is not white space. -/
def trimChars (cs : List Char) : List Char :=
  ((cs.dropWhile isBlankChar).reverse.dropWhile isBlankChar).reverse

def trim (s : String) : String := String.ofList (trimChars s.toList)

/-- Trimming leaves nothing. -/
def isBlank (s : String) : Bool := (trimChars s.toList).isEmpty

end Criteria.Text
