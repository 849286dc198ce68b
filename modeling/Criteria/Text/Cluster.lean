import Criteria.Text.ClusterTable
import Criteria.Text.Syllable

/-!
# Grapheme clusters

A text is cut into the characters a reader perceives: a base with the
marks that follow it and the signs that go before it, a line end, a
control, the parts of a syllable, a conjunct of consonants, a flag, or
pictographs held together by joiners.

Most boundaries show in the two characters around them. Three do not: a
flag is two regional indicators and not three, a conjunct needs a linker
somewhere between its consonants, and a joiner holds pictographs only.
`Context` keeps what those three need to know of the text so far.
-/

namespace Criteria.Text

/-- The joiner that holds two pictographs together. -/
def joiner : Char := Char.ofNat 0x200D

/-- The non-joiner, which keeps two consonants apart. -/
def nonJoiner : Char := Char.ofNat 0x200C

/-- Marks of the break class Extend. -/
def extending (c : Char) : Bool := attaching.contains c && !spacingMark.contains c

/-! ## What is open -/

/-- What of a joined pictograph has been read so far. -/
inductive Pictograph where
  | outside
  | base
  | joined
deriving DecidableEq

/-- The state after `c`: a pictograph with marks stays open until its
joiner, and only a pictograph right after the joiner is held. -/
def Pictograph.next (p : Pictograph) (c : Char) : Pictograph :=
  if pictographic.contains c then .base
  else match p with
    | .base => if c = joiner then .joined else if extending c then .base else .outside
    | _ => .outside

/-- What of a conjunct has been read so far. -/
inductive Conjunct where
  | outside
  | unlinked
  | linked
deriving DecidableEq

/-- The state after `c`: a consonant with marks stays open, and is linked
from the first linker on. -/
def Conjunct.next (k : Conjunct) (c : Char) : Conjunct :=
  if conjunctConsonant.contains c then .unlinked
  else match k with
    | .outside => .outside
    | kept =>
      if conjunctLinker.contains c then .linked
      else if c = joiner || (extending c && c != nonJoiner) then kept
      else .outside

/-- The last character, and what the text up to it leaves open. -/
structure Context where
  last : Char
  pictograph : Pictograph
  conjunct : Conjunct
  /-- The last character is the first half of a flag. -/
  halfFlag : Bool

namespace Context

/-- The text begins with `c`. -/
def start (c : Char) : Context :=
  { last := c
    pictograph := Pictograph.outside.next c
    conjunct := Conjunct.outside.next c
    halfFlag := regional.contains c }

/-- The text goes on with `c`. -/
def next (k : Context) (c : Char) : Context :=
  { last := c
    pictograph := k.pictograph.next c
    conjunct := k.conjunct.next c
    halfFlag := regional.contains c && !k.halfFlag }

/-- No boundary falls before `c`. -/
def stays (k : Context) (c : Char) : Bool :=
  if k.last = '\r' && c = '\n' then true
  else if breaking.contains k.last || breaking.contains c then false
  else attaching.contains c || c == joiner || prepended.contains k.last
    || sharesSyllable k.last c
    || (k.conjunct == .linked && conjunctConsonant.contains c)
    || (k.pictograph == .joined && pictographic.contains c)
    || (k.halfFlag && regional.contains c)

end Context

/-! ## Clusters -/

/-- The clusters from a cluster under way: its characters so far, last
first, and the context they leave. -/
def clustersFrom (held : List Char) (k : Context) : List Char → List (List Char)
  | [] => [held.reverse]
  | c :: rest =>
    if k.stays c then clustersFrom (c :: held) (k.next c) rest
    else held.reverse :: clustersFrom [c] (k.next c) rest

def clusters : List Char → List (List Char)
  | [] => []
  | c :: rest => clustersFrom [c] (.start c) rest

end Criteria.Text
