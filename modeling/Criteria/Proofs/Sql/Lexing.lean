import Criteria.Proofs.Sql.Leaves
import Criteria.Proofs.Sql.Parsing
import Criteria.Proofs.Text.Numeral

/-!
# Tokens of a condition

The text of a condition, under quoted tables, is cut into the tokens that
one expects of it (`Condition.lex_text`), whatever its tables are called.
Only the columns have to be plain names. A name or a placeholder ends
where a blank or a closing parenthesis follows, and in a condition one of
them always does, unless the text ends there.
-/

namespace Criteria.Sql

/-! ## Expected tokens -/

/-- A token as it is shown in a style of placeholders. -/
def Token.shown (style : PlaceholderStyle) : Token → Token
  | .mark n => .mark (match style with
    | .question => none
    | .dollar => n)
  | t => t

def Test.tokens (t : Test) : List Token :=
  let column := [.name t.label, .point, .column t.column]
  let no := if t.negated then [.keyword .not] else []
  match t.form with
  | .isNull => column ++ [.keyword .is] ++ no ++ [.keyword .null]
  | .between a b =>
    column ++ no ++ [.keyword .between, .mark (some a), .keyword .and, .mark (some b)]
  | .inList n => column ++ no ++ [.keyword .isIn, .opening, .mark (some n), .closing]
  | .like n => column ++ no ++ [.keyword .like, .mark (some n)]
  | .compare c n =>
    let plain := column ++ [.sign c, .mark (some n)]
    if t.negated then [.keyword .not, .opening] ++ plain ++ [.closing] else plain

def Connective.keyword : Connective → Keyword
  | .all => .and
  | .any => .or

def parenthesizedTokens (tokens : List Token) : List Token := [.opening] ++ tokens ++ [.closing]

namespace Condition

mutual

/-- The tokens of a condition that is made of tests, its placeholders
numbered. -/
def tokens : Condition → List Token
  | .given .. => []
  | .test t => t.tokens
  | .not c => .keyword .not :: parenthesizedTokens (tokens c)
  | .joined k parts => List.intercalate [.keyword k.keyword] (partTokens parts)
termination_by structural c => c

def partTokens : List Condition → List (List Token)
  | [] => []
  | c :: rest => parenthesizedTokens (tokens c) :: partTokens rest
termination_by structural l => l

end

end Condition

/-! ## Pieces -/

@[simp] theorem emit_emit (xs ys : List Token) (more : Option (List Token)) :
    emit xs (emit ys more) = emit (xs ++ ys) more := by
  cases more <;> simp [emit]

@[simp] theorem emit_nil (more : Option (List Token)) : emit [] more = more := by
  cases more <;> rfl

/-- The text ends here, or what follows cannot go on with a piece. -/
def Closes (rest : List Char) : Prop := ∀ c ∈ rest.head?, c = ' ' ∨ c = ')'

theorem closes_blank (rest : List Char) : Closes (' ' :: rest) := by
  rintro c ⟨⟩
  exact .inl rfl

theorem closes_parenthesis (rest : List Char) : Closes (')' :: rest) := by
  rintro c ⟨⟩
  exact .inr rfl

@[simp] theorem lex_blank (rest : List Char) : lex .blank (' ' :: rest) = lex .blank rest := by
  simp [lex, Piece.extend, Piece.close, Piece.begin]

@[simp] theorem lex_opening (rest : List Char) :
    lex .blank ('(' :: rest) = emit [.opening] (lex .blank rest) := by
  simp [lex, Piece.extend, Piece.close, Piece.begin]

@[simp] theorem lex_closing (rest : List Char) :
    lex .blank (')' :: rest) = emit [.closing] (lex .blank rest) := by
  simp [lex, Piece.extend, Piece.close, Piece.begin]

/-- A piece is closed, and the rest is read as if it were on its own. -/
theorem lex_close {p : Piece} {done : List Token} {rest : List Char} (hclose : p.close = some done)
    (hblank : p.extend ' ' = none) (hparenthesis : p.extend ')' = none) (h : Closes rest) :
    lex p rest = emit done (lex .blank rest) := by
  cases rest with
  | nil =>
      rw [lex, hclose]
      simp [lex, Piece.close, emit]
  | cons c rest =>
      rcases h c rfl with rfl | rfl
      · rw [lex_blank, lex, hblank, hclose]
        simp [Piece.begin]
      · rw [lex_closing, lex, hparenthesis, hclose]
        simp [Piece.begin]

/-- Characters that belong to a piece only make it longer. -/
theorem lex_longer {piece : List Char → Piece} {more : List Char}
    (h : ∀ read, ∀ c ∈ more, (piece read).extend c = some (piece (read ++ [c])))
    (read rest : List Char) :
    lex (piece read) (more ++ rest) = lex (piece (read ++ more)) rest := by
  induction more generalizing read with
  | nil => rw [List.nil_append, List.append_nil]
  | cons c more ih =>
      have hc := h read c (List.mem_cons_self ..)
      have ih := ih fun read d hd => h read d (List.mem_cons_of_mem _ hd)
      rw [List.cons_append, lex, hc]
      show lex (piece (read ++ [c])) (more ++ rest) = _
      rw [ih, List.append_assoc, List.singleton_append]

theorem lex_word {afterPoint : Bool} {word : List Char}
    (h : ∀ c ∈ word, isIdentifierRest c = true) (read rest : List Char) :
    lex (.word afterPoint read) (word ++ rest) = lex (.word afterPoint (read ++ word)) rest := by
  refine lex_longer (fun read c hc => ?_) read rest
  rw [Piece.extend, if_pos (h c hc)]

theorem lex_number {digits : List Char} (h : ∀ c ∈ digits, c.isDigit = true)
    (read rest : List Char) :
    lex (.number read) (digits ++ rest) = lex (.number (read ++ digits)) rest := by
  refine lex_longer (fun read c hc => ?_) read rest
  rw [Piece.extend, if_pos (h c hc)]

/-- Doubled quotes are read as single ones. -/
theorem lex_quoted (read name rest : List Char) :
    lex (.quoted read) (doubleQuotes name ++ '"' :: rest)
      = lex (.quoteSeen (read ++ name)) rest := by
  induction name generalizing read with
  | nil => simp [doubleQuotes, lex, Piece.extend]
  | cons c name ih =>
      rw [doubleQuotes]
      by_cases hc : c = '"'
      · subst hc
        simp [lex, Piece.extend, ih]
      · simp [lex, Piece.extend, hc, ih]

/-- A letter begins a word. -/
theorem Piece.begin_word {c : Char} (h : isIdentifierStart c = true) (after : Piece) :
    after.begin c = some ([], .word after.isPoint [c]) := by
  have hne (d : Char) (hd : isIdentifierStart d = false) : c ≠ d := by
    rintro rfl
    rw [hd] at h
    cases h
  rw [Piece.begin, if_neg (hne ' ' rfl), if_neg (hne '"' rfl), if_neg (hne '.' rfl),
    if_neg (hne '(' rfl), if_neg (hne ')' rfl), if_neg (hne '?' rfl), if_neg (hne '$' rfl),
    if_neg (hne '=' rfl), if_neg (hne '<' rfl), if_neg (hne '>' rfl), if_pos h]

/-! ## Columns, placeholders and words -/

/-- A plain name has a letter, and then what may follow one. -/
theorem exists_of_isPlain {name : String} (h : isPlain name = true) :
    ∃ c cs, name.toList = c :: cs ∧ isIdentifierStart c = true
      ∧ ∀ d ∈ cs, isIdentifierRest d = true := by
  unfold isPlain at h
  split at h
  · cases h
  · rename_i c cs hchars
    obtain ⟨hstart, hrest⟩ := Bool.and_eq_true_iff.mp h
    exact ⟨c, cs, hchars, hstart, List.all_eq_true.mp hrest⟩

/-- What cannot stand in an identifier does not stand in a plain name. -/
theorem not_mem_of_isPlain {name : String} (h : isPlain name = true) {d : Char}
    (hd : isIdentifierRest d = false) : d ∉ name.toList := by
  obtain ⟨c, cs, hchars, hstart, hrest⟩ := exists_of_isPlain h
  have hfirst : isIdentifierRest c = true := by
    simp only [isIdentifierStart, isIdentifierRest, Char.isAlphanum, Bool.or_eq_true] at hstart ⊢
    exact hstart.imp_left .inl
  intro hmem
  rw [hchars] at hmem
  rcases List.mem_cons.mp hmem with rfl | hmem
  · exact absurd (hfirst.symm.trans hd) (by decide)
  · exact absurd ((hrest d hmem).symm.trans hd) (by decide)

theorem qualified_plain {column : String} (hplain : isPlain column = true) (quote : Bool)
    (label : String) : qualified quote label column = tableName quote label ++ "." ++ column := by
  have hnoPoint : column.toList.contains '.' = false := by
    rw [List.contains_eq_mem, decide_eq_false_iff_not]
    exact not_mem_of_isPlain hplain (by decide)
  rw [qualified, hnoPoint, if_neg Bool.false_ne_true]

theorem lex_label (label : String) (rest : List Char) :
    lex .blank ((quoted label).toList ++ '.' :: rest) = emit [.name label] (lex .point rest) := by
  have hopen (X : List Char) : lex .blank ('"' :: X) = lex (.quoted []) X := by
    simp [lex, Piece.extend, Piece.close, Piece.begin]
  have hpoint (X : List Char) : lex (.quoteSeen label.toList) ('.' :: X)
      = emit [.name label] (lex .point X) := by
    simp [lex, Piece.extend, Piece.close, Piece.begin, String.ofList_toList]
  rw [quoted, String.toList_ofList, List.cons_append, List.cons_append, List.append_assoc,
    List.singleton_append, hopen, lex_quoted, List.nil_append, hpoint]

theorem lex_bareColumn {column : String} (hplain : isPlain column = true) {rest : List Char}
    (h : Closes rest) :
    lex .point (column.toList ++ rest) = emit [.point, .column column] (lex .blank rest) := by
  obtain ⟨c, cs, hchars, hstart, hcs⟩ := exists_of_isPlain hplain
  have hword (X : List Char) : lex .point (c :: X) = emit [.point] (lex (.word true [c]) X) := by
    simp [lex, Piece.extend, Piece.close, Piece.begin_word hstart, Piece.isPoint]
  have hclose : (Piece.word true (c :: cs)).close = some [.column column] := by
    rw [← hchars, Piece.close, String.ofList_toList]
  rw [hchars, List.cons_append, hword, lex_word hcs, List.singleton_append,
    lex_close hclose rfl rfl h, emit_emit]
  rfl

theorem lex_column {label column : String} (hplain : isPlain column = true) {rest : List Char}
    (h : Closes rest) :
    lex .blank ((qualified true label column).toList ++ rest)
      = emit [.name label, .point, .column column] (lex .blank rest) := by
  rw [qualified_plain hplain, tableName, if_pos rfl, String.toList_append, String.toList_append,
    List.append_assoc, List.append_assoc]
  show lex .blank ((quoted label).toList ++ '.' :: (column.toList ++ rest)) = _
  rw [lex_label, lex_bareColumn hplain h, emit_emit]
  rfl

theorem lex_mark (style : PlaceholderStyle) (n : Nat) {rest : List Char} (h : Closes rest) :
    lex .blank ((style.placeholder n).toList ++ rest)
      = emit [Token.shown style (.mark (some n))] (lex .blank rest) := by
  cases style with
  | question =>
      rw [PlaceholderStyle.placeholder, show "?".toList = ['?'] from rfl]
      simp [lex, Piece.extend, Piece.close, Piece.begin, Token.shown]
  | dollar =>
      have hdigits : ∀ c ∈ Text.digits n, c.isDigit = true :=
        fun _ hc => Text.isDigit_of_mem_digits hc
      have hopen (X : List Char) : lex .blank ('$' :: X) = lex (.number []) X := by
        simp [lex, Piece.extend, Piece.close, Piece.begin]
      have hclose : (Piece.number (Text.digits n)).close = some [.mark (some n)] := by
        have hne : (Text.digits n).isEmpty = false := by
          rw [List.isEmpty_eq_false_iff]
          exact Nat.toDigits_ne_nil
        rw [Piece.close, hne, if_neg Bool.false_ne_true, Text.ofDigitChars_digits]
      rw [PlaceholderStyle.placeholder, String.toList_append, Text.toList_numeral,
        show "$".toList = ['$'] from rfl, List.append_assoc, List.singleton_append, hopen,
        lex_number hdigits, List.nil_append, lex_close hclose rfl rfl h]
      rfl

theorem lex_keyword {word : String} {k : Keyword} (hread : Keyword.read? word = some k)
    (hplain : isPlain word = true) {rest : List Char} (h : Closes rest) :
    lex .blank (word.toList ++ rest) = emit [.keyword k] (lex .blank rest) := by
  obtain ⟨c, cs, hchars, hstart, hcs⟩ := exists_of_isPlain hplain
  have hbegin (X : List Char) : lex .blank (c :: X) = lex (.word false [c]) X := by
    simp [lex, Piece.extend, Piece.close, Piece.begin_word hstart, Piece.isPoint]
  have hclose : (Piece.word false (c :: cs)).close = some [.keyword k] := by
    rw [← hchars, Piece.close, String.ofList_toList, hread]
    rfl
  rw [hchars, List.cons_append, hbegin, lex_word hcs, List.singleton_append,
    lex_close hclose rfl rfl h]

theorem lex_sign (c : Comparison) (rest : List Char) :
    lex .blank (c.symbol.toList ++ ' ' :: rest) = emit [.sign c] (lex .blank rest) := by
  cases c with
  | equal =>
      show lex .blank ('=' :: ' ' :: rest) = _
      simp [lex, Piece.extend, Piece.close, Piece.begin]
  | less =>
      show lex .blank ('<' :: ' ' :: rest) = _
      simp [lex, Piece.extend, Piece.close, Piece.begin]
  | lessOrEqual =>
      show lex .blank ('<' :: '=' :: ' ' :: rest) = _
      simp [lex, Piece.extend, Piece.close, Piece.begin]
  | greater =>
      show lex .blank ('>' :: ' ' :: rest) = _
      simp [lex, Piece.extend, Piece.close, Piece.begin]
  | greaterOrEqual =>
      show lex .blank ('>' :: '=' :: ' ' :: rest) = _
      simp [lex, Piece.extend, Piece.close, Piece.begin]

theorem lex_no (negated : Bool) (rest : List Char) :
    lex .blank ((if negated then "NOT " else "").toList ++ rest)
      = emit (if negated then [.keyword .not] else []) (lex .blank rest) := by
  cases negated with
  | false => exact (emit_nil _).symm
  | true =>
      show lex .blank ("NOT".toList ++ ' ' :: rest) = _
      rw [lex_keyword rfl rfl (closes_blank _), lex_blank]
      rfl

theorem lex_separator (k : Connective) (rest : List Char) :
    lex .blank (k.separator.toList ++ rest) = emit [.keyword k.keyword] (lex .blank rest) := by
  cases k with
  | all =>
      show lex .blank (' ' :: ("AND".toList ++ ' ' :: rest)) = _
      rw [lex_blank, lex_keyword rfl rfl (closes_blank _), lex_blank]
      rfl
  | any =>
      show lex .blank (' ' :: ("OR".toList ++ ' ' :: rest)) = _
      rw [lex_blank, lex_keyword rfl rfl (closes_blank _), lex_blank]
      rfl

/-! ## Tests and conditions -/

variable {config : Config}

/-- Where nothing goes on with its last piece, a text is cut into the
tokens as they are shown. -/
def Cuts (config : Config) (text : String) (tokens : List Token) : Prop :=
  ∀ rest, Closes rest → lex .blank (text.toList ++ rest)
    = emit (tokens.map (Token.shown config.placeholders)) (lex .blank rest)

theorem lex_test {t : Test} (hquote : config.quoteTables = true)
    (hplain : isPlain t.column = true) : Cuts config (t.text config) t.tokens := by
  intro rest hrest
  have hmark {n : Nat} {rest : List Char} (h : Closes rest) :=
    lex_mark config.placeholders n h
  cases hform : t.form with
  | isNull =>
      simp only [Test.text, hquote, hform, String.toList_append, List.append_assoc]
      show lex .blank ((qualified true t.label t.column).toList
        ++ ' ' :: ("IS".toList ++ ' ' :: (_ ++ ("NULL".toList ++ rest)))) = _
      rw [lex_column hplain (closes_blank _), lex_blank, lex_keyword rfl rfl (closes_blank _),
        lex_blank, lex_no, lex_keyword rfl rfl hrest, Test.tokens, hform]
      cases t.negated <;> simp [Token.shown]
  | between start finish =>
      simp only [Test.text, hquote, hform, String.toList_append, List.append_assoc]
      show lex .blank ((qualified true t.label t.column).toList
        ++ ' ' :: (_ ++ ("BETWEEN".toList ++ ' ' :: (_ ++ ' ' :: ("AND".toList
          ++ ' ' :: ((config.placeholders.placeholder finish).toList ++ rest)))))) = _
      rw [lex_column hplain (closes_blank _), lex_blank, lex_no,
        lex_keyword rfl rfl (closes_blank _), lex_blank, hmark (closes_blank _), lex_blank,
        lex_keyword rfl rfl (closes_blank _), lex_blank, hmark hrest, Test.tokens, hform]
      cases t.negated <;> simp [Token.shown]
  | inList n =>
      simp only [Test.text, hquote, hform, String.toList_append, List.append_assoc]
      show lex .blank ((qualified true t.label t.column).toList
        ++ ' ' :: (_ ++ ("IN".toList ++ ' ' :: '(' :: (_ ++ ')' :: rest)))) = _
      rw [lex_column hplain (closes_blank _), lex_blank, lex_no,
        lex_keyword rfl rfl (closes_blank _), lex_blank, lex_opening,
        hmark (closes_parenthesis _), lex_closing, Test.tokens, hform]
      cases t.negated <;> simp [Token.shown]
  | like n =>
      simp only [Test.text, hquote, hform, String.toList_append, List.append_assoc]
      show lex .blank ((qualified true t.label t.column).toList
        ++ ' ' :: (_ ++ ("LIKE".toList
          ++ ' ' :: ((config.placeholders.placeholder n).toList ++ rest)))) = _
      rw [lex_column hplain (closes_blank _), lex_blank, lex_no,
        lex_keyword rfl rfl (closes_blank _), lex_blank, hmark hrest, Test.tokens, hform]
      cases t.negated <;> simp [Token.shown]
  | compare c n =>
      simp only [Test.text, hquote, hform, Test.tokens]
      cases t.negated with
      | false =>
          simp only [Bool.false_eq_true, if_false, String.toList_append, List.append_assoc]
          show lex .blank ((qualified true t.label t.column).toList
            ++ ' ' :: (c.symbol.toList
              ++ ' ' :: ((config.placeholders.placeholder n).toList ++ rest))) = _
          rw [lex_column hplain (closes_blank _), lex_blank, lex_sign, hmark hrest]
          simp [Token.shown]
      | true =>
          simp only [if_true, String.toList_append, List.append_assoc]
          show lex .blank ("NOT".toList ++ ' ' :: '(' :: ((qualified true t.label t.column).toList
            ++ ' ' :: (c.symbol.toList ++ ' ' :: (_ ++ ')' :: rest)))) = _
          rw [lex_keyword rfl rfl (closes_blank _), lex_blank, lex_opening,
            lex_column hplain (closes_blank _), lex_blank, lex_sign, hmark (closes_parenthesis _),
            lex_closing]
          simp [Token.shown]

namespace Condition

theorem lex_parenthesized {c : Condition} (h : Cuts config (c.text config) c.tokens)
    (rest : List Char) :
    lex .blank ((parenthesized (c.text config)).toList ++ rest)
      = emit ((parenthesizedTokens c.tokens).map (Token.shown config.placeholders))
          (lex .blank rest) := by
  simp only [parenthesized, String.toList_append, List.append_assoc]
  show lex .blank ('(' :: ((c.text config).toList ++ ')' :: rest)) = _
  rw [lex_opening, h _ (closes_parenthesis rest), lex_closing]
  simp [parenthesizedTokens, Token.shown]

mutual

theorem lex_text (hquote : config.quoteTables = true) : ∀ {c : Condition} {e : Expr},
    c.expr? = some e → (∀ column ∈ c.leaves.filterMap column?, isPlain column.2 = true) →
    Cuts config (c.text config) c.tokens
  | .test t, _, _, hplain => by
      refine lex_test hquote (hplain (t.label, t.column) ?_)
      exact List.mem_singleton_self _
  | .not c, e, he, hplain => by
      intro rest _
      obtain ⟨inner, hinner, -⟩ := expr?_not.mp he
      have hc := lex_parenthesized (lex_text hquote hinner hplain)
      rw [text, String.toList_append, List.append_assoc]
      show lex .blank ("NOT".toList ++ ' ' :: (_ ++ rest)) = _
      rw [lex_keyword rfl rfl (closes_blank _), lex_blank, hc, tokens]
      simp [Token.shown]
  | .joined k parts, e, he, hplain => by
      intro rest _
      obtain ⟨_, _, hparts, -⟩ := expr?_joined.mp he
      exact lex_partTexts hquote k hparts hplain rest

theorem lex_partTexts (hquote : config.quoteTables = true) (k : Connective) :
    ∀ {parts : List Condition} {es : List Expr}, exprs? parts = some es →
      (∀ column ∈ (allLeaves parts).filterMap column?, isPlain column.2 = true) → ∀ rest,
      lex .blank ((k.separator.intercalate (partTexts config parts)).toList ++ rest)
        = emit ((List.intercalate [.keyword k.keyword] (partTokens parts)).map
            (Token.shown config.placeholders)) (lex .blank rest)
  | [], _, _, _, rest => by
      simp [partTexts, partTokens]
  | c :: parts, es, hes, hplain, rest => by
      obtain ⟨e, es', he, hes', -⟩ := exprs?_cons.mp hes
      rw [allLeaves, List.filterMap_append] at hplain
      have hc := lex_parenthesized (lex_text hquote he fun column hmem =>
        hplain column (List.mem_append_left _ hmem))
      have hparts := lex_partTexts hquote k hes' fun column hmem =>
        hplain column (List.mem_append_right _ hmem)
      cases parts with
      | nil =>
          simp only [partTexts, partTokens, String.intercalate_singleton,
            List.intercalate_singleton]
          exact hc rest
      | cons d parts =>
          simp only [partTexts, partTokens, String.intercalate_cons_cons,
            List.intercalate_cons_cons, String.toList_append, List.append_assoc] at hparts ⊢
          rw [hc, lex_separator, hparts rest]
          simp [Token.shown]

end

end Condition

end Criteria.Sql
