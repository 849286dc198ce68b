import Criteria.Proofs.Sql.Leaves
import Criteria.Proofs.Text.Numeral

/-!
# Placeholders of a condition

Which placeholders a reader meets who goes through a condition from left
to right and skips what stands between single quotes. `placeholders` is
that reader; it knows nothing of how conditions are written.

A text that has no question mark, no dollar sign and no single quote is
passed over (`placeholders_clean`), a placeholder is met as it was
written if no digit follows (`placeholders_mark`), and the question marks
of a condition from elsewhere are met under the numbers they take
(`placeholders_renumber`). A condition is put together from such texts,
so its placeholders are those of its leaves in their order
(`Condition.placeholders_text`).
-/

namespace Criteria.Sql

/-! ## Reading placeholders -/

/-- The placeholders outside single quotes; a dollar sign takes the digits
after it. -/
def placeholders (inLiteral : Bool) : List Char → List String
  | [] => []
  | c :: rest =>
    if c = '\'' then placeholders (!inLiteral) rest
    else if inLiteral then placeholders inLiteral rest
    else if c = '?' then "?" :: placeholders inLiteral rest
    else if c = '$' then
      String.ofList ('$' :: rest.takeWhile Char.isDigit) :: placeholders inLiteral rest
    else placeholders inLiteral rest

/-- No placeholder can be read out of the text, and no literal opened. -/
def Clean (text : List Char) : Prop := ∀ c ∈ text, c ≠ '\'' ∧ c ≠ '?' ∧ c ≠ '$'

instance (text : List Char) : Decidable (Clean text) :=
  List.decidableBAll (fun c => c ≠ '\'' ∧ c ≠ '?' ∧ c ≠ '$') text

/-- What follows does not go on with digits. -/
def Apart (rest : List Char) : Prop := ∀ c ∈ rest.head?, c.isDigit = false

instance (rest : List Char) : Decidable (Apart rest) :=
  Option.decidableForallMem rest.head?

theorem Clean.append {x y : List Char} (hx : Clean x) (hy : Clean y) : Clean (x ++ y) :=
  fun c hc => (List.mem_append.mp hc).elim (hx c) (hy c)

theorem placeholders_clean {text : List Char} (h : Clean text) (rest : List Char) :
    placeholders false (text ++ rest) = placeholders false rest := by
  induction text with
  | nil => rfl
  | cons c text ih =>
      obtain ⟨hquote, hquestion, hdollar⟩ := h c (List.mem_cons_self ..)
      have htail : Clean text := fun d hd => h d (List.mem_cons_of_mem _ hd)
      rw [List.cons_append, placeholders, if_neg hquote, if_neg Bool.false_ne_true,
        if_neg hquestion, if_neg hdollar, ih htail]

theorem clean_digits (n : Nat) : Clean (Text.digits n) := by
  intro c hc
  have hdigit := Text.isDigit_of_mem_digits hc
  refine ⟨?_, ?_, ?_⟩ <;> rintro rfl <;> revert hdigit <;> decide

theorem takeWhile_digits (n : Nat) {rest : List Char} (h : Apart rest) :
    (Text.digits n ++ rest).takeWhile Char.isDigit = Text.digits n := by
  rw [List.takeWhile_append_of_pos fun c hc => Text.isDigit_of_mem_digits hc]
  cases rest with
  | nil => simp
  | cons c rest => simp [h c rfl]

theorem placeholders_dollar (n : Nat) {rest : List Char} (h : Apart rest) :
    placeholders false ('$' :: (Text.digits n ++ rest))
      = PlaceholderStyle.dollar.placeholder n :: placeholders false rest := by
  have htoken : PlaceholderStyle.dollar.placeholder n = String.ofList ('$' :: Text.digits n) := by
    apply String.toList_injective
    simp [PlaceholderStyle.placeholder, Text.toList_numeral]
  rw [placeholders, if_neg (by decide), if_neg Bool.false_ne_true, if_neg (by decide), if_pos rfl,
    takeWhile_digits n h, placeholders_clean (clean_digits n), htoken]

/-- A placeholder is met as it was written. -/
theorem placeholders_mark (style : PlaceholderStyle) (n : Nat) {rest : List Char}
    (h : Apart rest) :
    placeholders false ((style.placeholder n).toList ++ rest)
      = style.placeholder n :: placeholders false rest := by
  cases style with
  | question =>
      rw [PlaceholderStyle.placeholder, show "?".toList = ['?'] from rfl]
      rfl
  | dollar =>
      have htext : (PlaceholderStyle.dollar.placeholder n).toList = '$' :: Text.digits n := by
        simp [PlaceholderStyle.placeholder, Text.toList_numeral]
      rw [htext]
      exact placeholders_dollar n h

/-! ## Conditions from elsewhere -/

/-- What a condition from elsewhere has to be like, read from inside a
literal or from outside. -/
structure Readable (inLiteral : Bool) (text : List Char) : Prop where
  balanced : (inLiteral.toNat + text.count '\'') % 2 = 0
  noDollar : '$' ∉ text
  /-- No question mark outside single quotes is followed by a digit. -/
  apart : ∀ i, text[i]? = some '?' → (inLiteral.toNat + (text.take i).count '\'') % 2 = 0 →
    Apart (text.drop (i + 1))

namespace Readable

variable {inLiteral : Bool} {c : Char} {text : List Char}

theorem of_quote (h : Readable inLiteral ('\'' :: text)) : Readable (!inLiteral) text where
  balanced := by
    have := h.balanced
    rw [List.count_cons_self] at this
    cases inLiteral <;> simp only [Bool.not_true, Bool.not_false, Bool.toNat_true,
      Bool.toNat_false] at this ⊢ <;> omega
  noDollar := fun hmem => h.noDollar (List.mem_cons_of_mem _ hmem)
  apart := fun i hmark hlive => by
    refine h.apart (i + 1) hmark ?_
    rw [List.take_succ_cons, List.count_cons_self]
    cases inLiteral <;> simp only [Bool.not_true, Bool.not_false, Bool.toNat_true,
      Bool.toNat_false] at hlive ⊢ <;> omega

theorem of_other (h : Readable inLiteral (c :: text)) (hc : c ≠ '\'') :
    Readable inLiteral text where
  balanced := by
    have := h.balanced
    rwa [List.count_cons_of_ne hc] at this
  noDollar := fun hmem => h.noDollar (List.mem_cons_of_mem _ hmem)
  apart := fun i hmark hlive => by
    refine h.apart (i + 1) hmark ?_
    rwa [List.take_succ_cons, List.count_cons_of_ne hc]

theorem ne_dollar (h : Readable inLiteral (c :: text)) : c ≠ '$' := fun heq =>
  h.noDollar (heq ▸ List.mem_cons_self ..)

/-- Readable text does not end inside a literal. -/
theorem of_nil (h : Readable inLiteral []) : inLiteral = false := by
  cases inLiteral with
  | false => rfl
  | true => exact absurd h.balanced (by decide)

end Readable

/-- Readable text is left outside of literals, and without dollar signs a
placeholder does not reach beyond it. -/
theorem placeholders_readable {inLiteral : Bool} {text : List Char}
    (h : Readable inLiteral text) (rest : List Char) :
    placeholders inLiteral (text ++ rest)
      = placeholders inLiteral text ++ placeholders false rest := by
  induction text generalizing inLiteral with
  | nil =>
      rw [h.of_nil]
      rfl
  | cons c text ih =>
      rw [List.cons_append, placeholders, placeholders]
      by_cases hquote : c = '\''
      · subst hquote
        rw [if_pos rfl, if_pos rfl, ih h.of_quote]
      · rw [if_neg hquote, if_neg hquote, if_neg h.ne_dollar, if_neg h.ne_dollar,
          ih (h.of_other hquote)]
        split
        · rfl
        · split <;> rfl

theorem placeholders_question {inLiteral : Bool} {text : List Char}
    (h : Readable inLiteral text) :
    ∀ token ∈ placeholders inLiteral text, token = "?" := by
  induction text generalizing inLiteral with
  | nil => exact fun _ hmem => nomatch hmem
  | cons c text ih =>
      intro token hmem
      rw [placeholders] at hmem
      by_cases hquote : c = '\''
      · subst hquote
        rw [if_pos rfl] at hmem
        exact ih h.of_quote token hmem
      · have ih := ih (h.of_other hquote)
        rw [if_neg hquote, if_neg h.ne_dollar] at hmem
        split at hmem
        · exact ih token hmem
        · split at hmem
          · exact (List.mem_cons.mp hmem).elim id (ih token)
          · exact ih token hmem

theorem number_apart {bound pending : Nat} {inLiteral : Bool} {text rest : List Char}
    (h : Apart (text ++ rest)) (hrest : Apart rest) :
    Apart (number bound pending inLiteral text ++ rest) := by
  cases text with
  | nil => exact hrest
  | cons c text =>
      have hc : c.isDigit = false := h c rfl
      rw [number]
      split
      · rintro d ⟨⟩
        exact hc
      · split
        · rintro d ⟨⟩
          rfl
        · rintro d ⟨⟩
          exact hc

/-- Question marks that take numbers are met under these numbers. -/
theorem placeholders_number {bound pending : Nat} {inLiteral : Bool} {text rest : List Char}
    (h : Readable inLiteral text) (hcount : (placeholders inLiteral text).length = pending)
    (hrest : Apart rest) :
    placeholders inLiteral (number bound pending inLiteral text ++ rest)
      = (List.range' (bound + 1) pending).map PlaceholderStyle.dollar.placeholder
          ++ placeholders false rest := by
  induction text generalizing bound pending inLiteral with
  | nil =>
      subst hcount
      rw [h.of_nil]
      rfl
  | cons c text ih =>
      rw [placeholders] at hcount
      rw [number]
      by_cases hquote : c = '\''
      · subst hquote
        rw [if_pos rfl] at hcount ⊢
        rw [List.cons_append, placeholders, if_pos rfl]
        exact ih h.of_quote hcount
      have hother := h.of_other hquote
      rw [if_neg hquote, if_neg h.ne_dollar] at hcount
      rw [if_neg hquote]
      cases inLiteral with
      | true =>
          rw [if_pos rfl] at hcount
          rw [if_neg (by simp), List.cons_append, placeholders, if_neg hquote, if_pos rfl]
          exact ih hother hcount
      | false =>
          rw [if_neg Bool.false_ne_true] at hcount
          by_cases hquestion : c = '?'
          · rw [if_pos hquestion, List.length_cons] at hcount
            subst hquestion hcount
            have happart : Apart (text ++ rest) := by
              have := h.apart 0 rfl rfl
              cases text with
              | nil => exact hrest
              | cons d text => exact this
            rw [if_pos (by simp), List.cons_append, List.cons_append, List.append_assoc,
              placeholders_dollar _ (number_apart happart hrest), Nat.add_sub_cancel,
              ih hother rfl, List.range'_succ, List.map_cons, List.cons_append]
          · rw [if_neg hquestion] at hcount
            rw [if_neg (by simp [hquestion]), List.cons_append, placeholders, if_neg hquote,
              if_neg Bool.false_ne_true, if_neg hquestion, if_neg h.ne_dollar]
            exact ih hother hcount

/-- A condition from elsewhere has its own placeholders, whichever way
they are written. -/
theorem placeholders_renumber (style : PlaceholderStyle) {bound count : Nat} {text : String}
    {rest : List Char} (h : Readable false text.toList)
    (hcount : (placeholders false text.toList).length = count) (hrest : Apart rest) :
    placeholders false ((style.renumber bound count text).toList ++ rest)
      = (List.range' (bound + 1) count).map style.placeholder ++ placeholders false rest := by
  cases style with
  | question =>
      have hmarks : placeholders false text.toList
          = (List.range' (bound + 1) count).map PlaceholderStyle.question.placeholder := by
        have hconst : (List.range' (bound + 1) count).map PlaceholderStyle.question.placeholder
            = List.replicate count "?" := by
          rw [List.eq_replicate_iff, List.length_map, List.length_range']
          exact ⟨rfl, fun token hmem => by
            obtain ⟨n, -, rfl⟩ := List.mem_map.mp hmem
            rfl⟩
        rw [hconst, List.eq_replicate_iff]
        exact ⟨hcount, placeholders_question h⟩
      rw [PlaceholderStyle.renumber, placeholders_readable h, hmarks]
  | dollar =>
      rw [PlaceholderStyle.renumber, String.toList_ofList]
      exact placeholders_number h hcount hrest

/-! ## Tests -/

theorem clean_doubleQuotes {name : List Char} (h : Clean name) : Clean (doubleQuotes name) := by
  induction name with
  | nil => exact h
  | cons c name ih =>
      have hc := h c (List.mem_cons_self ..)
      have htail := ih fun d hd => h d (List.mem_cons_of_mem _ hd)
      intro d hd
      rw [doubleQuotes] at hd
      split at hd <;> simp only [List.mem_cons] at hd
      · rcases hd with rfl | rfl | hd
        · decide
        · decide
        · exact htail d hd
      · rcases hd with rfl | hd
        · exact hc
        · exact htail d hd

theorem clean_qualified {quote : Bool} {table column : String} (htable : Clean table.toList)
    (hcolumn : Clean column.toList) : Clean (qualified quote table column).toList := by
  have hname : Clean (tableName quote table).toList := by
    cases quote with
    | false => exact htable
    | true =>
        rw [tableName, if_pos rfl, quoted, String.toList_ofList]
        exact (Clean.append (x := ['"']) (by decide) (clean_doubleQuotes htable)).append (by decide)
  unfold qualified
  split
  · exact hcolumn
  · rw [String.toList_append, String.toList_append]
    exact (hname.append (by decide)).append hcolumn

namespace Condition

/-- Before anything that does not go on with digits, the text of the
condition is read as the placeholders with these numbers. -/
def ReadsAs (config : Config) (c : Condition) (ns : List Nat) : Prop :=
  ∀ rest, Apart rest → placeholders false ((c.text config).toList ++ rest)
    = ns.map config.placeholders.placeholder ++ placeholders false rest

variable {config : Config}

theorem readsAs_test {t : Test} (hlabel : Clean t.label.toList) (hcolumn : Clean t.column.toList) :
    (Condition.test t).ReadsAs config t.form.numbers := by
  intro rest hrest
  have hname : Clean (qualified config.quoteTables t.label t.column).toList :=
    clean_qualified hlabel hcolumn
  have hno : Clean (if t.negated then "NOT " else "").toList := by
    split <;> decide
  have hmark {n : Nat} {rest : List Char} (h : Apart rest) :=
    placeholders_mark config.placeholders n h
  have hand {rest : List Char} : Apart (" AND ".toList ++ rest) := by
    rintro c ⟨⟩
    rfl
  have hclose {rest : List Char} : Apart (")".toList ++ rest) := by
    rintro c ⟨⟩
    rfl
  cases hform : t.form with
  | isNull =>
      simp only [text, Test.text, hform, String.toList_append, List.append_assoc]
      rw [placeholders_clean hname, placeholders_clean (by decide), placeholders_clean hno,
        placeholders_clean (by decide)]
      rfl
  | between start finish =>
      simp only [text, Test.text, hform, String.toList_append, List.append_assoc]
      rw [placeholders_clean hname, placeholders_clean (by decide), placeholders_clean hno,
        placeholders_clean (by decide), hmark hand, placeholders_clean (by decide), hmark hrest]
      rfl
  | inList n =>
      simp only [text, Test.text, hform, String.toList_append, List.append_assoc]
      rw [placeholders_clean hname, placeholders_clean (by decide), placeholders_clean hno,
        placeholders_clean (by decide), hmark hclose, placeholders_clean (by decide)]
      rfl
  | like n =>
      simp only [text, Test.text, hform, String.toList_append, List.append_assoc]
      rw [placeholders_clean hname, placeholders_clean (by decide), placeholders_clean hno,
        placeholders_clean (by decide), hmark hrest]
      rfl
  | compare c n =>
      have hsymbol : Clean c.symbol.toList := by
        cases c <;> decide
      simp only [text, Test.text, hform]
      split
      · simp only [String.toList_append, List.append_assoc]
        rw [placeholders_clean (by decide), placeholders_clean hname,
          placeholders_clean (by decide), placeholders_clean hsymbol,
          placeholders_clean (by decide), hmark hclose, placeholders_clean (by decide)]
        rfl
      · simp only [String.toList_append, List.append_assoc]
        rw [placeholders_clean hname, placeholders_clean (by decide),
          placeholders_clean hsymbol, placeholders_clean (by decide), hmark hrest]
        rfl

/-! ## Conditions -/

theorem placeholders_parenthesized {c : Condition} {ns : List Nat} (h : c.ReadsAs config ns)
    (rest : List Char) :
    placeholders false ((parenthesized (c.text config)).toList ++ rest)
      = ns.map config.placeholders.placeholder ++ placeholders false rest := by
  have hclose : Apart (")".toList ++ rest) := by
    rintro c ⟨⟩
    rfl
  simp only [parenthesized, String.toList_append, List.append_assoc]
  rw [placeholders_clean (by decide), h _ hclose, placeholders_clean (by decide)]

mutual

/-- If the leaves are read as the placeholders that they have, then so is
the condition. -/
theorem readsAs : ∀ {c : Condition}, (∀ leaf ∈ c.leaves, leaf.ReadsAs config leaf.numbers) →
    c.ReadsAs config (c.leaves.flatMap numbers)
  | .given text bound count, h => by
      rw [leaves, List.flatMap_singleton]
      exact h _ (List.mem_singleton_self _)
  | .test t, h => by
      rw [leaves, List.flatMap_singleton]
      exact h _ (List.mem_singleton_self _)
  | .not c, h => by
      intro rest _
      have hc := readsAs (c := c) h
      rw [text, String.toList_append, List.append_assoc, placeholders_clean (by decide),
        placeholders_parenthesized hc]
      rfl
  | .joined connective parts, h => by
      intro rest _
      rw [text, leaves]
      exact placeholders_partTexts connective h rest

theorem placeholders_partTexts (connective : Connective) : ∀ {parts : List Condition},
    (∀ leaf ∈ allLeaves parts, leaf.ReadsAs config leaf.numbers) → ∀ rest,
      placeholders false
          ((connective.separator.intercalate (partTexts config parts)).toList ++ rest)
        = ((allLeaves parts).flatMap numbers).map config.placeholders.placeholder
            ++ placeholders false rest
  | [], _, rest => by
      simp [partTexts, allLeaves]
  | c :: parts, h, rest => by
      have hc := readsAs (c := c) fun leaf hleaf => h leaf (List.mem_append_left _ hleaf)
      have hparts := placeholders_partTexts connective
        fun leaf hleaf => h leaf (List.mem_append_right _ hleaf)
      have hseparator : Clean connective.separator.toList := by
        cases connective <;> decide
      rw [allLeaves, List.flatMap_append, List.map_append, List.append_assoc, ← hparts,
        ← placeholders_parenthesized hc]
      cases parts with
      | nil => simp [partTexts]
      | cons d parts =>
          simp only [partTexts, String.intercalate_cons_cons, String.toList_append,
            List.append_assoc]
          rw [placeholders_parenthesized hc, placeholders_clean hseparator,
            ← placeholders_parenthesized hc]

end

theorem placeholders_text {c : Option Condition}
    (h : ∀ leaf ∈ allLeaves c.toList, leaf.ReadsAs config leaf.numbers) :
    (c.map (text config)).toList.flatMap (fun s => placeholders false s.toList)
      = ((allLeaves c.toList).flatMap numbers).map config.placeholders.placeholder := by
  cases c with
  | none => rfl
  | some c =>
      have hleaves : allLeaves [c] = c.leaves := List.append_nil _
      rw [Option.toList_some, hleaves] at h ⊢
      have hread := readsAs h [] fun _ hmem => nomatch hmem
      rw [List.append_nil] at hread
      simpa [placeholders] using hread

end Condition

end Criteria.Sql
