import Criteria.Text.CharClass

/-!
# Syllables

Hangul syllables are written as blocks, or spelled out by their parts:
leading consonants, vowels and trailing consonants, in that order. The
parts of one syllable are one perceived character, whichever of them are
blocks. The vowel signs of Kirat Rai compose in the same way.
-/

namespace Criteria.Text

inductive SyllablePart where
  | leading
  | vowel
  | trailing
  /-- A block without a trailing consonant. -/
  | openBlock
  /-- A block with a trailing consonant. -/
  | closedBlock
deriving DecidableEq, Repr

/-- The break class L. -/
def leadingConsonant : CharClass := .ofSpans [[(0x1100, 0x115F), (0xA960, 0xA97C)]]

/-- The break class V. -/
def syllableVowel : CharClass := .ofSpans
  [[(0x1160, 0x11A7), (0xD7B0, 0xD7C6), (0x16D63, 0x16D63), (0x16D67, 0x16D6A)]]

/-- The break class T. -/
def trailingConsonant : CharClass := .ofSpans [[(0x11A8, 0x11FF), (0xD7CB, 0xD7FB)]]

/-- The break classes LV and LVT. -/
def syllableBlock : CharClass := .ofSpans [[(0xAC00, 0xD7A3)]]

/-- The break class LV: the blocks come in the order of their trailing
consonants, every twenty-eighth without one. -/
def openSyllable : CharClass := ⟨[{ first := 0xAC00, last := 0xD788, stride := 28 }]⟩

namespace SyllablePart

def of? (c : Char) : Option SyllablePart :=
  if leadingConsonant.contains c then some .leading
  else if syllableVowel.contains c then some .vowel
  else if trailingConsonant.contains c then some .trailing
  else if openSyllable.contains c then some .openBlock
  else if syllableBlock.contains c then some .closedBlock
  else none

/-- The syllable of the first part goes on with the second. -/
def goesOn : SyllablePart → SyllablePart → Bool
  | .leading, next => next != .trailing
  | .vowel, next | .openBlock, next => next == .vowel || next == .trailing
  | .trailing, next | .closedBlock, next => next == .trailing

end SyllablePart

/-- Both characters are parts of one syllable. -/
def sharesSyllable (a b : Char) : Bool :=
  match SyllablePart.of? a, SyllablePart.of? b with
  | some first, some second => first.goesOn second
  | _, _ => false

end Criteria.Text
