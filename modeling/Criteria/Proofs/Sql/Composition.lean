import Criteria.Proofs.Sql.Leaves

/-!
# What a condition is written with

The grammar of the texts of conditions, as far as columns go: a text is
made of columns and conditions from elsewhere, with placeholders and words
of a fixed vocabulary between them (`Composed`). The columns and the
conditions from elsewhere in the text of a condition are those of its
leaves, in their order (`Condition.text_composed`). So a column cannot hide
in the rest of a text.
-/

namespace Criteria.Sql

/-- The words that conditions are written with. -/
def vocabulary : List String :=
  ["(", ")", " ", "NOT ", "NOT (", " AND ", " OR ", " IS ", "NULL", "BETWEEN ", "IN (", "LIKE ",
    "=", "<", "<=", ">", ">="]

/-- The text is made of these columns and of these conditions from
elsewhere, from left to right, of placeholders and of words. -/
inductive Composed (style : PlaceholderStyle) : String → List String → List String → Prop
  | nil : Composed style "" [] []
  | column (text : String) : Composed style text [text] []
  | given (text : String) : Composed style text [] [text]
  | placeholder (n : Nat) : Composed style (style.placeholder n) [] []
  | word {text : String} (h : text ∈ vocabulary) : Composed style text [] []
  | append {x y : String} {columns columns' givens givens' : List String}
      (h : Composed style x columns givens) (h' : Composed style y columns' givens') :
      Composed style (x ++ y) (columns ++ columns') (givens ++ givens')

namespace Composed

variable {style : PlaceholderStyle} {x y : String} {columns givens : List String}

/-- What has no columns may stand behind. -/
theorem before (h : Composed style x columns givens) (h' : Composed style y [] []) :
    Composed style (x ++ y) columns givens := by
  have hboth := h.append h'
  rwa [List.append_nil, List.append_nil] at hboth

/-- What has no columns may stand in front. -/
theorem after (h : Composed style x [] []) (h' : Composed style y columns givens) :
    Composed style (x ++ y) columns givens := h.append h'

theorem parenthesized (h : Composed style x columns givens) :
    Composed style (Condition.parenthesized x) columns givens :=
  (after (.word (by decide)) h).before (.word (by decide))

end Composed

theorem Connective.separator_composed (style : PlaceholderStyle) (k : Connective) :
    Composed style k.separator [] [] := by
  cases k with
  | all => exact .word (by decide)
  | any => exact .word (by decide)

theorem Comparison.symbol_composed (style : PlaceholderStyle) (c : Comparison) :
    Composed style c.symbol [] [] := by
  refine .word ?_
  cases c <;> decide

theorem Test.text_composed (config : Config) (t : Test) :
    Composed config.placeholders (t.text config)
      [qualified config.quoteTables t.label t.column] [] := by
  have hcolumn : Composed config.placeholders (qualified config.quoteTables t.label t.column)
      [qualified config.quoteTables t.label t.column] [] := .column _
  have hno : Composed config.placeholders (if t.negated then "NOT " else "") [] [] := by
    split
    · exact .word (by decide)
    · exact .nil
  have hmark (n : Nat) : Composed config.placeholders (config.placeholders.placeholder n) [] [] :=
    .placeholder n
  have hword : ∀ text ∈ vocabulary, Composed config.placeholders text [] [] := fun _ h => .word h
  have hblank := hcolumn.before (hword " " (by decide))
  unfold Test.text
  cases t.form with
  | isNull =>
      exact ((hcolumn.before (hword " IS " (by decide))).before hno).before
        (hword "NULL" (by decide))
  | between start finish =>
      have hstart := ((hblank.before hno).before (hword "BETWEEN " (by decide))).before
        (hmark start)
      exact (hstart.before (hword " AND " (by decide))).before (hmark finish)
  | inList n =>
      have hopen := (hblank.before hno).before (hword "IN (" (by decide))
      exact (hopen.before (hmark n)).before (hword ")" (by decide))
  | like n =>
      exact ((hblank.before hno).before (hword "LIKE " (by decide))).before (hmark n)
  | compare c n =>
      have hsign := (hblank.before (c.symbol_composed _)).before (hword " " (by decide))
      have hplain := hsign.before (hmark n)
      simp only
      split
      · exact ((hword "NOT (" (by decide)).after hplain).before (hword ")" (by decide))
      · exact hplain

namespace Condition

/-- The column of a test as it is written. -/
def columnText? (config : Config) (c : Condition) : Option String :=
  c.column?.map fun x => qualified config.quoteTables x.1 x.2

/-- A condition from elsewhere as it is written. -/
def givenText? (config : Config) : Condition → Option String
  | .given text bound count => some (config.placeholders.renumber bound count text)
  | _ => none

mutual

theorem text_composed (config : Config) : ∀ c : Condition,
    Composed config.placeholders (c.text config) (c.leaves.filterMap (columnText? config))
      (c.leaves.filterMap (givenText? config))
  | .given .. => .given _
  | .test t => t.text_composed config
  | .not c => (Composed.word (by decide)).after (text_composed config c).parenthesized
  | .joined k parts => partTexts_composed config k parts

theorem partTexts_composed (config : Config) (k : Connective) : ∀ parts : List Condition,
    Composed config.placeholders (k.separator.intercalate (partTexts config parts))
      ((allLeaves parts).filterMap (columnText? config))
      ((allLeaves parts).filterMap (givenText? config))
  | [] => .nil
  | c :: rest => by
      have hc := (text_composed config c).parenthesized
      have hrest := partTexts_composed config k rest
      rw [allLeaves, List.filterMap_append, List.filterMap_append]
      cases rest with
      | nil =>
          rw [partTexts, partTexts, String.intercalate_singleton]
          have hall := hc.append hrest
          rwa [partTexts, String.intercalate_nil, String.append_empty] at hall
      | cons d rest =>
          rw [partTexts, partTexts, String.intercalate_cons_cons, ← partTexts]
          exact (hc.before (k.separator_composed _)).append hrest

end

end Condition

end Criteria.Sql
