import Criteria.Proofs.Sql.Leaves
import Criteria.Proofs.Text.Numeral
import Criteria.Sql.Join

/-!
# Quotes

Quoting of tables adds double quotes to a text and does nothing else. As
long as the names that are written have none of their own, a text without
quoting is the quoted text with every double quote deleted: a column, a
test, a condition (`Condition.text_unquoted`), a join
(`Hop.clause_unquoted`).
-/

namespace Criteria.Sql

/-! ## Deleting quotes -/

/-- The text with every double quote deleted. -/
def dropQuotes (text : String) : String := String.ofList (text.toList.filter (· ≠ '"'))

@[simp] theorem dropQuotes_append (x y : String) :
    dropQuotes (x ++ y) = dropQuotes x ++ dropQuotes y := by
  rw [dropQuotes, String.toList_append, List.filter_append, String.ofList_append, ← dropQuotes,
    ← dropQuotes]

theorem dropQuotes_eq {text : String} (h : '"' ∉ text.toList) : dropQuotes text = text := by
  have hkept : text.toList.filter (· ≠ '"') = text.toList := by
    rw [List.filter_eq_self]
    intro c hc
    have hne : c ≠ '"' := fun heq => h (heq ▸ hc)
    simpa using hne
  rw [dropQuotes, hkept, String.ofList_toList]

theorem dropQuotes_intercalate (separator : String) (texts : List String) :
    dropQuotes (separator.intercalate texts)
      = (dropQuotes separator).intercalate (texts.map dropQuotes) := by
  induction texts with
  | nil => rfl
  | cons text rest ih =>
      cases rest with
      | nil => rfl
      | cons next rest =>
          rw [List.map_cons] at ih
          rw [String.intercalate_cons_cons, dropQuotes_append, dropQuotes_append, ih, List.map_cons,
            List.map_cons, String.intercalate_cons_cons]

/-! ## Identifiers -/

theorem doubleQuotes_eq {name : List Char} (h : '"' ∉ name) : doubleQuotes name = name := by
  induction name with
  | nil => rfl
  | cons c name ih =>
      have hc : c ≠ '"' := fun heq => h (heq ▸ List.mem_cons_self ..)
      rw [doubleQuotes, if_neg hc, ih fun hmem => h (List.mem_cons_of_mem _ hmem)]

theorem tableName_unquoted {name : String} (h : '"' ∉ name.toList) :
    dropQuotes (tableName true name) = tableName false name := by
  have hquoted : tableName true name = "\"" ++ name ++ "\"" := by
    rw [tableName, if_pos rfl, quoted, doubleQuotes_eq h]
    simp [← String.toList_inj]
  have hquote : dropQuotes "\"" = "" := by decide
  rw [hquoted, dropQuotes_append, dropQuotes_append, hquote, dropQuotes_eq h]
  simp [tableName]

theorem qualified_unquoted {table column : String} (htable : '"' ∉ table.toList)
    (hcolumn : '"' ∉ column.toList) :
    dropQuotes (qualified true table column) = qualified false table column := by
  have hpoint : dropQuotes "." = "." := dropQuotes_eq (by decide)
  unfold qualified
  split
  · exact dropQuotes_eq hcolumn
  · rw [dropQuotes_append, dropQuotes_append, tableName_unquoted htable, dropQuotes_eq hcolumn,
      hpoint]

theorem dropQuotes_placeholder (style : PlaceholderStyle) (n : Nat) :
    dropQuotes (style.placeholder n) = style.placeholder n := by
  refine dropQuotes_eq ?_
  cases style with
  | question =>
      have hmark : '"' ∉ "?".toList := by decide
      exact hmark
  | dollar =>
      rw [PlaceholderStyle.placeholder, String.toList_append, List.mem_append,
        Text.toList_numeral]
      rintro (h | h)
      · exact absurd h (by decide)
      · exact absurd (Text.isDigit_of_mem_digits h) (by decide)

/-! ## Tests and conditions -/

theorem Test.text_unquoted {t : Test} (hlabel : '"' ∉ t.label.toList)
    (hcolumn : '"' ∉ t.column.toList) (style : PlaceholderStyle) :
    dropQuotes (t.text ⟨style, true⟩) = t.text ⟨style, false⟩ := by
  have hname := qualified_unquoted hlabel hcolumn
  have hno : dropQuotes (if t.negated then "NOT " else "") = if t.negated then "NOT " else "" := by
    split <;> exact dropQuotes_eq (by decide)
  unfold Test.text
  cases t.form with
  | compare c n =>
      have hsymbol : dropQuotes c.symbol = c.symbol := by
        cases c <;> exact dropQuotes_eq (by decide)
      simp only
      split <;>
        simp (disch := decide) only [dropQuotes_append, hname, hsymbol, dropQuotes_placeholder,
          dropQuotes_eq]
  | _ =>
      simp (disch := decide) only [dropQuotes_append, hname, hno, dropQuotes_placeholder,
        dropQuotes_eq]

namespace Condition

variable {style : PlaceholderStyle}

/-- Without quoting, what is written is the same but for double quotes. -/
def Unquoted (style : PlaceholderStyle) (c : Condition) : Prop :=
  dropQuotes (c.text ⟨style, true⟩) = c.text ⟨style, false⟩

theorem dropQuotes_parenthesized (text : String) :
    dropQuotes (parenthesized text) = parenthesized (dropQuotes text) := by
  simp (disch := decide) only [parenthesized, dropQuotes_append, dropQuotes_eq]

mutual

theorem text_unquoted : ∀ {c : Condition}, (∀ leaf ∈ c.leaves, leaf.Unquoted style) →
    c.Unquoted style
  | .given .., h => h _ (List.mem_singleton_self _)
  | .test _, h => h _ (List.mem_singleton_self _)
  | .not c, h => by
      have hc : dropQuotes (c.text ⟨style, true⟩) = c.text ⟨style, false⟩ := text_unquoted h
      have hnot : dropQuotes "NOT " = "NOT " := dropQuotes_eq (by decide)
      rw [Unquoted, text, text, dropQuotes_append, dropQuotes_parenthesized, hc, hnot]
  | .joined connective parts, h => by
      have hseparator : dropQuotes connective.separator = connective.separator := by
        cases connective <;> exact dropQuotes_eq (by decide)
      rw [Unquoted, text, text, dropQuotes_intercalate, hseparator, partTexts_unquoted h]

theorem partTexts_unquoted : ∀ {parts : List Condition},
    (∀ leaf ∈ allLeaves parts, leaf.Unquoted style) →
      (partTexts ⟨style, true⟩ parts).map dropQuotes = partTexts ⟨style, false⟩ parts
  | [], _ => rfl
  | c :: rest, h => by
      have hc : dropQuotes (c.text ⟨style, true⟩) = c.text ⟨style, false⟩ :=
        text_unquoted fun leaf hleaf => h leaf (List.mem_append_left _ hleaf)
      have hrest := partTexts_unquoted fun leaf hleaf => h leaf (List.mem_append_right _ hleaf)
      rw [partTexts, partTexts, List.map_cons, dropQuotes_parenthesized, hc, hrest]

end

end Condition

/-! ## Joins -/

namespace Hop

/-- All names that a hop is written with. -/
def names (h : Hop) : List String :=
  [h.table, h.label, h.left.label, h.left.column, h.right.label, h.right.column]

end Hop

theorem ColumnAt.text_unquoted {c : ColumnAt} (hlabel : '"' ∉ c.label.toList)
    (hcolumn : '"' ∉ c.column.toList) : dropQuotes (c.text true) = c.text false := by
  have hpoint : dropQuotes "." = "." := dropQuotes_eq (by decide)
  rw [text, text, dropQuotes_append, dropQuotes_append, tableName_unquoted hlabel,
    dropQuotes_eq hcolumn, hpoint]

namespace Hop

theorem text_unquoted {h : Hop} (hnames : ∀ name ∈ h.names, '"' ∉ name.toList)
    (kind : JoinKind) : dropQuotes (h.text true kind) = h.text false kind := by
  simp only [names, List.mem_cons, List.not_mem_nil, or_false, forall_eq_or_imp, forall_eq]
    at hnames
  obtain ⟨htable, hlabel, hleft, hleft', hright, hright'⟩ := hnames
  have hdeclaration : dropQuotes (h.declaration true) = h.declaration false := by
    unfold declaration
    split
    · exact tableName_unquoted htable
    · have has : dropQuotes " AS " = " AS " := dropQuotes_eq (by decide)
      rw [dropQuotes_append, dropQuotes_append, tableName_unquoted htable,
        tableName_unquoted hlabel, has]
  have hkind : dropQuotes kind.keywords = kind.keywords := by
    cases kind <;> exact dropQuotes_eq (by decide)
  simp (disch := decide) only [text, dropQuotes_append, hkind, hdeclaration,
    ColumnAt.text_unquoted hleft hleft', ColumnAt.text_unquoted hright hright', dropQuotes_eq]

theorem clause_unquoted {hops : List Hop} (h : ∀ hop ∈ hops, ∀ name ∈ hop.names, '"' ∉ name.toList)
    (kind : JoinKind) : dropQuotes (clause true kind hops) = clause false kind hops := by
  have htexts : (hops.map (text true kind)).map dropQuotes = hops.map (text false kind) := by
    rw [List.map_map]
    exact List.map_congr_left fun hop hmem => text_unquoted (h hop hmem) kind
  have hblank : dropQuotes " " = " " := dropQuotes_eq (by decide)
  rw [clause, dropQuotes_intercalate, htexts, hblank, clause]

end Hop

end Criteria.Sql
