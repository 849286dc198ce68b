import Criteria.Error

/-!
# Errors written out

An error as one line, and as a paragraph with all that is known about it.
-/

namespace Criteria.Error

/-- One line: the code in brackets and the message. -/
def display (e : Error) : String := "[" ++ e.code.text ++ "] " ++ e.message

/-- A line of the context, if it is known. -/
def contextLine (label : String) : Option String → String
  | some s => "  → " ++ label ++ ": " ++ s ++ "\n"
  | none => ""

/-- The suggestions, numbered from one. -/
def suggestionLines (suggestions : List String) : String :=
  String.join (suggestions.zipIdx.map fun (s, i) =>
    "  " ++ Text.numeral (i + 1) ++ ". " ++ s ++ "\n")

/-- The whole error, a line to each thing known about it. -/
def displayFull (e : Error) : String :=
  "Error [" ++ e.code.text ++ "]: " ++ e.message ++ "\n"
    ++ contextLine "While" e.context.operation
    ++ contextLine "Model" e.context.model
    ++ contextLine "Fragment" e.context.fragment
    ++ contextLine "Column" e.context.column
    ++ (if e.context.suggestions.isEmpty then ""
        else "\nSuggestions:\n" ++ suggestionLines e.context.suggestions)

end Criteria.Error
