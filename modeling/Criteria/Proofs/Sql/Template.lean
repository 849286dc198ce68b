import Criteria.Proofs.Sql.Leaves
import Criteria.Proofs.Text.Numeral

/-!
# Templates of conditions

A condition with its placeholders left open: what is written is the same
whatever numbers they have and however they look. `Condition.template`
keeps the text and forgets the numbers; if the numbers go up one by one,
the text is the template filled in from there (`Condition.text_eq_fill`).

A condition from elsewhere is cut at its live question marks, and its
numbering fills them in (`number_eq_fill`).
-/

namespace Criteria.Sql

/-- A character of a condition, or room for a placeholder. -/
inductive Glyph where
  | char (c : Char)
  | hole
deriving DecidableEq

abbrev Template := List Glyph

namespace Template

def ofString (text : String) : Template := text.toList.map .char

/-- The number of placeholders left open. -/
def holes (t : Template) : Nat := t.count .hole

/-- The template with its holes filled by the placeholders from
`bound + 1` on. -/
def fill (mark : Nat → String) (bound : Nat) : Template → List Char
  | [] => []
  | .char c :: rest => c :: fill mark bound rest
  | .hole :: rest => (mark (bound + 1)).toList ++ fill mark (bound + 1) rest

/-- The number of placeholders left open in some templates together. -/
def allHoles : List Template → Nat
  | [] => 0
  | t :: rest => t.holes + allHoles rest

/-- Templates filled one after another. -/
def fillAll (mark : Nat → String) (bound : Nat) : List Template → List String
  | [] => []
  | t :: rest => String.ofList (t.fill mark bound) :: fillAll mark (bound + t.holes) rest

variable {mark mark' : Nat → String} {bound : Nat}

@[simp] theorem holes_append (x y : Template) : (x ++ y).holes = x.holes + y.holes :=
  List.count_append

@[simp] theorem holes_ofString (text : String) : (ofString text).holes = 0 := by
  simp [ofString, holes, List.count_eq_zero]

@[simp] theorem holes_nil : holes [] = 0 := rfl

@[simp] theorem holes_char (c : Char) (t : Template) : holes (.char c :: t) = holes t := by
  simp [holes]

@[simp] theorem holes_hole (t : Template) : holes (.hole :: t) = holes t + 1 := by
  simp [holes]

@[simp] theorem fill_nil : fill mark bound [] = [] := rfl

@[simp] theorem fill_char (c : Char) (t : Template) :
    fill mark bound (.char c :: t) = c :: fill mark bound t := rfl

@[simp] theorem fill_hole (t : Template) : fill mark bound (.hole :: t)
    = (mark (bound + 1)).toList ++ fill mark (bound + 1) t := rfl

@[simp] theorem fill_append (x y : Template) :
    fill mark bound (x ++ y) = fill mark bound x ++ fill mark (bound + x.holes) y := by
  induction x generalizing bound with
  | nil => rfl
  | cons glyph x ih =>
      cases glyph with
      | char c => simp [ih]
      | hole => simp [ih, Nat.add_assoc, Nat.add_comm 1]

@[simp] theorem fill_ofString (text : String) :
    fill mark bound (ofString text) = text.toList := by
  unfold ofString
  induction text.toList with
  | nil => rfl
  | cons c text ih => simp [ih]

theorem fill_congr {t : Template}
    (h : ∀ n, bound < n → n ≤ bound + t.holes → mark n = mark' n) :
    fill mark bound t = fill mark' bound t := by
  induction t generalizing bound with
  | nil => rfl
  | cons glyph t ih =>
      cases glyph with
      | char c =>
          have hrest : fill mark bound t = fill mark' bound t :=
            ih fun n hn hle => h n hn (by simpa using hle)
          rw [fill, fill, hrest]
      | hole =>
          rw [holes_hole] at h
          have hfirst : mark (bound + 1) = mark' (bound + 1) := h _ (by omega) (by omega)
          have hrest : fill mark (bound + 1) t = fill mark' (bound + 1) t :=
            ih fun n hn hle => h n (by omega) (by omega)
          rw [fill, fill, hfirst, hrest]

/-- Without holes it makes no difference what is bound. -/
theorem fill_closed {t : Template} (h : t.holes = 0) (bound' : Nat) :
    fill mark bound t = fill mark bound' t := by
  induction t with
  | nil => rfl
  | cons glyph t ih =>
      cases glyph with
      | char c =>
          rw [holes_char] at h
          rw [fill_char, fill_char, ih h]
      | hole => simp at h

end Template

open Template (ofString)

/-! ## Conditions from elsewhere -/

/-- A text cut at its question marks outside of literals. -/
def cut (inLiteral : Bool) : List Char → Template
  | [] => []
  | c :: rest =>
    if c = '\'' then .char c :: cut (!inLiteral) rest
    else if c = '?' && !inLiteral then .hole :: cut inLiteral rest
    else .char c :: cut inLiteral rest

/-- Filled with question marks, the text is what it was. -/
theorem fill_cut_question {mark : Nat → String} {bound : Nat} (inLiteral : Bool)
    (text : List Char) (h : ∀ n, bound < n → mark n = "?") :
    (cut inLiteral text).fill mark bound = text := by
  induction text generalizing inLiteral bound with
  | nil => rfl
  | cons c text ih =>
      rw [cut]
      by_cases hquote : c = '\''
      · rw [if_pos hquote, Template.fill, ih _ h]
      · rw [if_neg hquote]
        by_cases hlive : (c = '?' && !inLiteral) = true
        · have hc : c = '?' := by simp at hlive; exact hlive.1
          rw [if_pos hlive, Template.fill, h _ (Nat.lt_succ_self bound),
            ih _ fun n hn => h n (by omega), hc]
          rfl
        · rw [if_neg hlive, Template.fill, ih _ h]

theorem number_zero (bound : Nat) (inLiteral : Bool) (text : List Char) :
    number bound 0 inLiteral text = text := by
  induction text generalizing inLiteral with
  | nil => rfl
  | cons c text ih => simp [number, ih]

/-- Live question marks take the numbers that are pending, and stay as
they are when there are none left. -/
theorem number_eq_fill (bound pending : Nat) (inLiteral : Bool) (text : List Char) :
    number bound pending inLiteral text = (cut inLiteral text).fill
      (fun n => if n ≤ bound + pending then PlaceholderStyle.dollar.placeholder n else "?")
      bound := by
  induction text generalizing inLiteral bound pending with
  | nil => rfl
  | cons c text ih =>
      by_cases hpending : pending = 0
      · subst hpending
        rw [number_zero, fill_cut_question]
        intro n hn
        rw [if_neg (by omega)]
      · rw [number, cut]
        by_cases hquote : c = '\''
        · rw [if_pos hquote, if_pos hquote, Template.fill, ih]
        · rw [if_neg hquote, if_neg hquote]
          by_cases hlive : (c = '?' && !inLiteral) = true
          · have hsum : bound + 1 + (pending - 1) = bound + pending := by omega
            rw [if_pos (by simp [hlive]; omega), if_pos hlive, Template.fill, ih, hsum,
              if_pos (by omega)]
            simp [PlaceholderStyle.placeholder, Text.toList_numeral]
          · rw [if_neg (by simp [hlive]), if_neg hlive, Template.fill, ih]

/-- With a value for each live question mark, all of them become
placeholders. -/
theorem renumber_eq_fill (style : PlaceholderStyle) {text : String} {bound count : Nat}
    (h : (cut false text.toList).holes = count) :
    style.renumber bound count text
      = String.ofList ((cut false text.toList).fill style.placeholder bound) := by
  cases style with
  | question =>
      have hsame : (cut false text.toList).fill PlaceholderStyle.question.placeholder bound
          = text.toList := fill_cut_question false text.toList fun _ _ => rfl
      rw [hsame, String.ofList_toList]
      rfl
  | dollar =>
      rw [PlaceholderStyle.renumber, number_eq_fill]
      refine congrArg String.ofList (Template.fill_congr fun n _ hn => ?_)
      rw [if_pos (by omega)]

/-- Texts joined by AND, each in parentheses if there are two or more. -/
def conjoined : List String → Option String
  | [] => none
  | [text] => some text
  | texts => some (" AND ".intercalate (texts.map Condition.parenthesized))

/-! ## Templates -/

/-- The text of a test, its placeholders left open. -/
def Test.template (quote : Bool) (t : Test) : Template :=
  let column := ofString (qualified quote t.label t.column)
  let no := ofString (if t.negated then "NOT " else "")
  match t.form with
  | .isNull => column ++ ofString " IS " ++ no ++ ofString "NULL"
  | .between _ _ =>
    column ++ ofString " " ++ no ++ ofString "BETWEEN " ++ [.hole] ++ ofString " AND " ++ [.hole]
  | .inList _ => column ++ ofString " " ++ no ++ ofString "IN (" ++ [.hole] ++ ofString ")"
  | .like _ => column ++ ofString " " ++ no ++ ofString "LIKE " ++ [.hole]
  | .compare c _ =>
    let plain := column ++ ofString " " ++ ofString c.symbol ++ ofString " " ++ [.hole]
    if t.negated then ofString "NOT (" ++ plain ++ ofString ")" else plain

namespace Condition

variable {config : Config}

mutual

def template (quote : Bool) : Condition → Template
  | .given text _ _ => cut false text.toList
  | .test t => t.template quote
  | .not c => ofString "NOT (" ++ template quote c ++ ofString ")"
  | .joined connective parts => joinedTemplate quote connective parts
termination_by structural c => c

def joinedTemplate (quote : Bool) (connective : Connective) : List Condition → Template
  | [] => []
  | c :: rest =>
    ofString "(" ++ template quote c ++ ofString ")"
      ++ (if rest.isEmpty then [] else ofString connective.separator)
      ++ joinedTemplate quote connective rest
termination_by structural l => l

end

variable {config : Config}

theorem test_holes (quote : Bool) (t : Test) :
    (t.template quote).holes = t.form.numbers.length := by
  unfold Test.template
  cases t.form with
  | compare c n =>
      simp only [TestForm.numbers]
      split <;> simp
  | _ => simp [TestForm.numbers]

theorem test_text_eq_fill (t : Test) {bound : Nat}
    (h : t.form.numbers = List.range' (bound + 1) t.form.numbers.length) :
    (t.text config).toList
      = (t.template config.quoteTables).fill config.placeholders.placeholder bound := by
  unfold Test.text Test.template
  cases hform : t.form with
  | isNull => simp [-List.append_assoc]
  | between start finish =>
      rw [hform] at h
      cases h
      simp
  | inList n =>
      rw [hform] at h
      cases h
      simp
  | like n =>
      rw [hform] at h
      cases h
      simp
  | compare c n =>
      rw [hform] at h
      cases h
      simp only
      split <;> simp

/-- What a template has to do with the numbers of a leaf: nothing but how
many there are. -/
def Regular (quote : Bool) (leaf : Condition) : Prop :=
  leaf.numbers.length = (leaf.template quote).holes

theorem regular_test (quote : Bool) (t : Test) : (Condition.test t).Regular quote :=
  (test_holes quote t).symm

/-- Numbers that go up one by one do so on both sides of a cut. -/
theorem range'_split {xs ys : List Nat} {start n : Nat} (h : xs ++ ys = List.range' start n) :
    xs = List.range' start xs.length ∧ ys = List.range' (start + xs.length) ys.length := by
  obtain ⟨k, hk, hxs, hys⟩ := List.range'_eq_append_iff.mp h.symm
  rw [hxs, hys]
  simp

mutual

theorem holes_template {quote : Bool} : ∀ {c : Condition},
    (∀ leaf ∈ c.leaves, leaf.Regular quote) →
      (c.template quote).holes = (c.leaves.flatMap numbers).length
  | .given text bound count, h => by
      rw [leaves, List.flatMap_singleton]
      exact (h _ (List.mem_singleton_self _)).symm
  | .test t, _ => by
      rw [leaves, List.flatMap_singleton]
      exact test_holes quote t
  | .not c, h => by
      have hc := holes_template (c := c) h
      simpa [template, leaves] using hc
  | .joined connective parts, h => holes_joinedTemplate connective h

theorem holes_joinedTemplate {quote : Bool} (connective : Connective) :
    ∀ {parts : List Condition}, (∀ leaf ∈ allLeaves parts, leaf.Regular quote) →
      (joinedTemplate quote connective parts).holes = ((allLeaves parts).flatMap numbers).length
  | [], _ => rfl
  | c :: rest, h => by
      have hc := holes_template (c := c) fun leaf hleaf => h leaf (List.mem_append_left _ hleaf)
      have hrest : (joinedTemplate quote connective rest).holes
          = ((allLeaves rest).flatMap numbers).length :=
        holes_joinedTemplate connective fun leaf hleaf => h leaf (List.mem_append_right _ hleaf)
      rw [joinedTemplate, allLeaves, List.flatMap_append, List.length_append, ← hc, ← hrest]
      cases rest <;> simp

end

mutual

/-- If the numbers of a condition go up one by one, its text is the
template filled in from there. -/
theorem text_eq_fill {bound : Nat} : ∀ {c : Condition},
    (∀ leaf ∈ c.leaves, leaf.Regular config.quoteTables) →
      c.leaves.flatMap numbers = List.range' (bound + 1) (c.leaves.flatMap numbers).length →
      (c.text config).toList
        = (c.template config.quoteTables).fill config.placeholders.placeholder bound
  | .given text bound' count, h, hn => by
      have hholes : count = (cut false text.toList).holes := by
        have hregular := h _ (List.mem_singleton_self _)
        simpa [Regular, numbers, template] using hregular
      rw [leaves, List.flatMap_singleton, numbers, List.length_range'] at hn
      rw [Condition.text, renumber_eq_fill _ hholes.symm, String.toList_ofList, template]
      by_cases hcount : count = 0
      · exact Template.fill_closed (hholes ▸ hcount) bound
      · obtain ⟨n, rfl⟩ := Nat.exists_eq_succ_of_ne_zero hcount
        rw [List.range'_succ, List.range'_succ, List.cons.injEq] at hn
        rw [Nat.succ.inj hn.1]
  | .test t, _, hn => by
      rw [leaves, List.flatMap_singleton] at hn
      exact test_text_eq_fill t hn
  | .not c, h, hn => by
      have hc := text_eq_fill (c := c) h hn
      rw [text, template, parenthesized]
      simp [hc]
  | .joined connective parts, h, hn => joinedText_eq_fill connective h hn

theorem joinedText_eq_fill {bound : Nat} (connective : Connective) :
    ∀ {parts : List Condition}, (∀ leaf ∈ allLeaves parts, leaf.Regular config.quoteTables) →
      (allLeaves parts).flatMap numbers
        = List.range' (bound + 1) ((allLeaves parts).flatMap numbers).length →
      (connective.separator.intercalate (partTexts config parts)).toList
        = (joinedTemplate config.quoteTables connective parts).fill
            config.placeholders.placeholder bound
  | [], _, _ => rfl
  | c :: rest, h, hn => by
      have hleaves : ∀ leaf ∈ c.leaves, leaf.Regular config.quoteTables :=
        fun leaf hleaf => h leaf (List.mem_append_left _ hleaf)
      rw [allLeaves, List.flatMap_append] at hn
      obtain ⟨hfirst, hsecond⟩ := range'_split hn
      have hc := text_eq_fill (c := c) hleaves hfirst
      rw [← holes_template hleaves, Nat.add_right_comm] at hsecond
      have hrest := joinedText_eq_fill connective
        (fun leaf hleaf => h leaf (List.mem_append_right _ hleaf)) hsecond
      rw [joinedTemplate, partTexts]
      cases rest with
      | nil => simp [partTexts, parenthesized, joinedTemplate, hc]
      | cons d rest =>
          rw [partTexts, String.intercalate_cons_cons, ← partTexts, String.toList_append,
            String.toList_append, hrest]
          simp [parenthesized, hc]

end

/-! ## Parts of a conjunction -/

theorem allHoles_template {quote : Bool} {parts : List Condition}
    (h : ∀ leaf ∈ allLeaves parts, leaf.Regular quote) :
    Template.allHoles (parts.map (template quote))
      = ((allLeaves parts).flatMap numbers).length := by
  induction parts with
  | nil => rfl
  | cons c rest ih =>
      have hc := holes_template (c := c) fun leaf hleaf => h leaf (List.mem_append_left _ hleaf)
      have hrest := ih fun leaf hleaf => h leaf (List.mem_append_right _ hleaf)
      rw [List.map_cons, Template.allHoles, hc, hrest, allLeaves, List.flatMap_append,
        List.length_append]

theorem partTexts_eq_map (parts : List Condition) :
    partTexts config parts = (parts.map (text config)).map parenthesized := by
  induction parts with
  | nil => rfl
  | cons c rest ih => rw [partTexts, ih, List.map_cons, List.map_cons]

theorem combine_text (parts : List Condition) :
    (combine .all parts).map (text config) = conjoined (parts.map (text config)) := by
  match parts with
  | [] => rfl
  | [_] => rfl
  | c :: d :: rest =>
      have hjoined : combine .all (c :: d :: rest) = some (.joined .all (c :: d :: rest)) := rfl
      rw [hjoined, Option.map_some, text, partTexts_eq_map]
      rfl

theorem texts_eq_fillAll {bound : Nat} {parts : List Condition}
    (h : ∀ leaf ∈ allLeaves parts, leaf.Regular config.quoteTables)
    (hn : (allLeaves parts).flatMap numbers
      = List.range' (bound + 1) ((allLeaves parts).flatMap numbers).length) :
    parts.map (text config) = Template.fillAll config.placeholders.placeholder bound
      (parts.map (template config.quoteTables)) := by
  induction parts generalizing bound with
  | nil => rfl
  | cons c rest ih =>
      have hleaves : ∀ leaf ∈ c.leaves, leaf.Regular config.quoteTables :=
        fun leaf hleaf => h leaf (List.mem_append_left _ hleaf)
      rw [allLeaves, List.flatMap_append] at hn
      obtain ⟨hfirst, hsecond⟩ := range'_split hn
      rw [← holes_template hleaves, Nat.add_right_comm] at hsecond
      have hrest := ih (fun leaf hleaf => h leaf (List.mem_append_right _ hleaf)) hsecond
      rw [List.map_cons, List.map_cons, Template.fillAll, hrest, ← text_eq_fill hleaves hfirst,
        String.ofList_toList]

end Condition

/-! ## Dollar signs -/

/-- No dollar sign is written but those of placeholders. -/
def Template.NoDollar (t : Template) : Prop := .char '$' ∉ t

instance (t : Template) : Decidable t.NoDollar := inferInstanceAs (Decidable (¬ _ ∈ t))

namespace Template

theorem noDollar_append {x y : Template} : (x ++ y).NoDollar ↔ x.NoDollar ∧ y.NoDollar := by
  simp [NoDollar]

theorem noDollar_ofString {text : String} : (ofString text).NoDollar ↔ '$' ∉ text.toList := by
  simp [NoDollar, ofString]

theorem noDollar_hole : NoDollar [.hole] := by
  simp [NoDollar]

end Template

open Template (noDollar_append noDollar_ofString noDollar_hole)

theorem mem_doubleQuotes {c : Char} {name : List Char} (h : c ∈ doubleQuotes name) :
    c = '"' ∨ c ∈ name := by
  induction name with
  | nil => cases h
  | cons d name ih =>
      rw [doubleQuotes] at h
      split at h <;> simp only [List.mem_cons] at h ⊢ <;> grind

theorem dollar_not_mem_qualified {quote : Bool} {table column : String}
    (htable : '$' ∉ table.toList) (hcolumn : '$' ∉ column.toList) :
    '$' ∉ (qualified quote table column).toList := by
  have hname : '$' ∉ (tableName quote table).toList := by
    cases quote with
    | false => exact htable
    | true =>
        rw [tableName, if_pos rfl, quoted, String.toList_ofList]
        intro h
        simp only [List.cons_append, List.mem_cons, List.mem_append, List.not_mem_nil,
          or_false] at h
        rcases h with h | h | h
        · cases h
        · rcases mem_doubleQuotes h with h | h
          · cases h
          · exact htable h
        · cases h
  unfold qualified
  split
  · exact hcolumn
  · simp only [String.toList_append, List.mem_append]
    rintro ((h | h) | h)
    · exact hname h
    · exact absurd h (by decide)
    · exact hcolumn h

namespace Condition

theorem noDollar_test {quote : Bool} {t : Test} (hlabel : '$' ∉ t.label.toList)
    (hcolumn : '$' ∉ t.column.toList) : (t.template quote).NoDollar := by
  have hname : (ofString (qualified quote t.label t.column)).NoDollar :=
    noDollar_ofString.mpr (dollar_not_mem_qualified hlabel hcolumn)
  have hno : (ofString (if t.negated then "NOT " else "")).NoDollar := by
    split <;> decide
  unfold Test.template
  cases t.form with
  | compare c n =>
      have hsymbol : (ofString c.symbol).NoDollar := by
        cases c <;> decide
      simp only
      split <;> simp only [noDollar_append, hname, hsymbol, noDollar_hole, true_and, and_true] <;>
        decide
  | _ =>
      simp only [noDollar_append, hname, hno, noDollar_hole, true_and, and_true]
      decide

mutual

theorem noDollar_template {quote : Bool} : ∀ {c : Condition},
    (∀ leaf ∈ c.leaves, (leaf.template quote).NoDollar) → (c.template quote).NoDollar
  | .given .., h => h _ (List.mem_singleton_self _)
  | .test _, h => h _ (List.mem_singleton_self _)
  | .not c, h => by
      have hc := noDollar_template (c := c) h
      rw [template, noDollar_append, noDollar_append]
      exact ⟨⟨by decide, hc⟩, by decide⟩
  | .joined connective parts, h => noDollar_joinedTemplate connective h

theorem noDollar_joinedTemplate {quote : Bool} (connective : Connective) :
    ∀ {parts : List Condition}, (∀ leaf ∈ allLeaves parts, (leaf.template quote).NoDollar) →
      (joinedTemplate quote connective parts).NoDollar
  | [], _ => by simp [joinedTemplate, Template.NoDollar]
  | c :: rest, h => by
      have hc := noDollar_template (c := c) fun leaf hleaf => h leaf (List.mem_append_left _ hleaf)
      have hrest : (joinedTemplate quote connective rest).NoDollar :=
        noDollar_joinedTemplate connective fun leaf hleaf =>
          h leaf (List.mem_append_right _ hleaf)
      have hseparator : Template.NoDollar
          (if rest.isEmpty then [] else ofString connective.separator) := by
        split
        · decide
        · cases connective <;> decide
      simp only [joinedTemplate, noDollar_append]
      exact ⟨⟨⟨⟨by decide, hc⟩, by decide⟩, hseparator⟩, hrest⟩

end

end Condition

end Criteria.Sql
