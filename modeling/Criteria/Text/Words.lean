import Criteria.Text.Case
import Criteria.Text.Cluster

/-!
# Names in small letters

A name such as `BlogPost` or `Blog-post` is cut into its words, and the
words are written in small letters with underscores between them. The
separators are dropped; a word also begins where a small letter meets a
capital one, where letters and digits meet, and at the last capital of a
run of capitals that a small letter follows. Empty words do not count.
-/

namespace Criteria.Text

/-- What a cluster contributes to the cutting of a name. -/
inductive Shape where
  | separator
  | upper
  | lower
  | digit
  | other
deriving DecidableEq

def Shape.of (cluster : List Char) : Shape :=
  if cluster = ['_'] || cluster = ['-'] || cluster = [' '] then .separator
  else if cluster.all Char.isDigit then .digit
  else if isUpperCase cluster then .upper
  else if isLowerCase cluster then .lower
  else .other

/-- A word begins at a cluster of shape `here` after one of shape
`before`. -/
def Shape.meets (before here : Shape) : Bool :=
  match before, here with
  | .lower, .upper => true
  | .upper, .digit => true
  | .digit, .upper => true
  | .digit, .lower => true
  | .lower, .digit => true
  | _, _ => false

/-- A run of capitals hands its last one to the word that follows. -/
def Shape.endsRun (before here : Shape) (after : Option Shape) : Bool :=
  before == .upper && here == .upper && after == some .lower

/-- A word begins at a cluster, given the shapes around it. -/
def beginsWord (before : Option Shape) (here : Shape) (after : Option Shape) : Bool :=
  match before with
  | none => false
  | some b => b.meets here || b.endsRun here after

/-- The words from a word under way; some of them may be empty. -/
def cut (word : List Char) (before : Option Shape) :
    List (Shape × List Char) → List (List Char)
  | [] => [word]
  | (.separator, _) :: rest => word :: cut [] (some .separator) rest
  | (shape, cluster) :: rest =>
    if beginsWord before shape (rest.head?.map (·.1)) then
      word :: cut cluster (some shape) rest
    else cut (word ++ cluster) (some shape) rest

def words (cs : List Char) : List (List Char) :=
  (cut [] none ((clusters cs).map fun k => (Shape.of k, k))).filter (!·.isEmpty)

/-- The words in small letters, joined by underscores. Only columns that a
schema leaves unnamed are called after it, and no general statement looks
into it: where words begin and which letters are small, with the tables of
characters behind that, is one convention among many, and the statements
would hold for any other. -/
def snake (name : String) : String :=
  "_".intercalate ((words name.toList).map fun w => String.ofList (lowerChars w))

end Criteria.Text
