import Criteria.Proofs.Text.Numeral
import Criteria.Sql.Binder

/-!
# Conditions that are spliced in

What becomes of a condition with question marks of its own when a binder
takes it in. The main statement, `Binder.splice_places`, says it place by
place: a live question mark turns into the placeholder of its value while
values last, and every other character stays.

Which question marks are live is settled by `literals`, a reader of string
literals in which two quotes inside a literal stand for one quote. The
numbering looks at one character at a time and knows no such pairs. The two
agree on every text, whether its literals end or not (`literals_cons`):
the second quote of a pair opens again what the first one has closed.
-/

namespace Criteria.Sql

/-! ## String literals -/

/-- For each character of a text whether it belongs to a string literal,
read from inside a literal or from outside. Two quotes inside a literal
do not end it; a literal that is not ended goes on to the end of the
text. -/
def literals : Bool → List Char → List Bool
  | _, [] => []
  | true, '\'' :: '\'' :: rest => true :: true :: literals true rest
  | true, '\'' :: rest => true :: literals false rest
  | true, _ :: rest => true :: literals true rest
  | false, '\'' :: rest => true :: literals true rest
  | false, _ :: rest => false :: literals false rest

/-- On which side of a literal a character leaves the text after it. -/
def sideAfter (inside : Bool) (c : Char) : Bool := if c = '\'' then !inside else inside

theorem literals_cons (inside : Bool) (c : Char) (text : List Char) :
    literals inside (c :: text)
      = (inside || c = '\'') :: literals (sideAfter inside c) text := by
  by_cases hquote : c = '\''
  · subst hquote
    cases inside with
    | false => simp [literals, sideAfter]
    | true =>
        -- A pair of quotes is left as it was entered, from inside.
        cases text with
        | nil => simp [literals]
        | cons d text =>
            by_cases hpair : d = '\'' <;> simp [literals, sideAfter, hpair]
  · cases inside <;> simp [literals, sideAfter, hquote]

/-! ## Live question marks -/

/-- At this place of the text there is a question mark outside of
literals. -/
def Live (inside : Bool) (text : List Char) (place : Nat) : Prop :=
  text[place]? = some '?' ∧ (literals inside text)[place]? = some false

instance (inside : Bool) (text : List Char) (place : Nat) : Decidable (Live inside text place) :=
  inferInstanceAs (Decidable (_ ∧ _))

/-- The number of live question marks to the left of a place. -/
def liveBefore (inside : Bool) (text : List Char) (place : Nat) : Nat :=
  (List.range place).countP fun q => Live inside text q

variable {inside : Bool} {c : Char} {text : List Char}

theorem live_zero : Live inside (c :: text) 0 ↔ c = '?' ∧ inside = false := by
  rw [Live, literals_cons, List.getElem?_cons_zero, List.getElem?_cons_zero, Option.some_inj,
    Option.some_inj, Bool.or_eq_false_iff]
  constructor
  · rintro ⟨hmark, hinside, -⟩
    exact ⟨hmark, hinside⟩
  · rintro ⟨rfl, hinside⟩
    exact ⟨rfl, hinside, rfl⟩

theorem live_succ (place : Nat) :
    Live inside (c :: text) (place + 1) ↔ Live (sideAfter inside c) text place := by
  rw [Live, literals_cons, List.getElem?_cons_succ, List.getElem?_cons_succ, ← Live]

theorem liveBefore_succ (place : Nat) : liveBefore inside (c :: text) (place + 1)
    = liveBefore (sideAfter inside c) text place
      + if Live inside (c :: text) 0 then 1 else 0 := by
  have hshift : ((fun q => decide (Live inside (c :: text) q)) ∘ Nat.succ)
      = fun q => decide (Live (sideAfter inside c) text q) :=
    funext fun q => decide_eq_decide.mpr (live_succ q)
  rw [liveBefore, List.range_succ_eq_map, List.countP_cons, List.countP_map, hshift, liveBefore]
  simp only [decide_eq_true_eq]

/-! ## Numbering -/

/-- What is written for a character at a place, if values `bound + 1` to
`bound + count` go to the live question marks in order. -/
def placed (bound count : Nat) (inside : Bool) (text : List Char) (place : Nat) (c : Char) :
    List Char :=
  if Live inside text place ∧ liveBefore inside text place < count then
    (PlaceholderStyle.dollar.placeholder (bound + liveBefore inside text place + 1)).toList
  else [c]

variable {bound count : Nat}

theorem placed_live (h : Live inside (c :: text) 0) (place : Nat) (d : Char) :
    placed bound (count + 1) inside (c :: text) (place + 1) d
      = placed (bound + 1) count (sideAfter inside c) text place d := by
  have hcount : ∀ n, n + 1 < count + 1 ↔ n < count := fun n => Nat.succ_lt_succ_iff
  have hnumber : ∀ n, bound + (n + 1) + 1 = bound + 1 + n + 1 := fun n => by omega
  simp only [placed, live_succ, liveBefore_succ, if_pos h, hcount, hnumber]

theorem placed_other (h : ¬(Live inside (c :: text) 0 ∧ 0 < count)) (place : Nat) (d : Char) :
    placed bound count inside (c :: text) (place + 1) d
      = placed bound count (sideAfter inside c) text place d := by
  simp only [placed, live_succ, liveBefore_succ]
  by_cases hlive : Live inside (c :: text) 0
  · obtain rfl : count = 0 := Nat.eq_zero_of_not_pos fun hpos => h ⟨hlive, hpos⟩
    simp
  · rw [if_neg hlive, Nat.add_zero]

/-- Numbering writes at every place what belongs there. -/
theorem number_eq_placed (bound count : Nat) (inside : Bool) (text : List Char) :
    number bound count inside text = (text.mapIdx (placed bound count inside text)).flatten := by
  induction text generalizing bound count inside with
  | nil => rfl
  | cons c text ih =>
      rw [List.mapIdx_cons, List.flatten_cons, number]
      by_cases hlive : Live inside (c :: text) 0 ∧ 0 < count
      · obtain ⟨hmark, hside⟩ := live_zero.mp hlive.1
        obtain ⟨n, rfl⟩ : ∃ n, count = n + 1 := ⟨count - 1, by omega⟩
        have hhead : placed bound (n + 1) inside (c :: text) 0 c
            = '$' :: Text.digits (bound + 1) := by
          rw [placed, if_pos ⟨hlive.1, Nat.succ_pos n⟩]
          simp [PlaceholderStyle.placeholder, Text.toList_numeral, liveBefore]
        have hrest : (fun place => placed bound (n + 1) inside (c :: text) (place + 1))
            = placed (bound + 1) n inside text := by
          have hafter : sideAfter inside c = inside := by rw [hmark]; rfl
          funext place d
          rw [placed_live hlive.1, hafter]
        rw [if_neg (by rw [hmark]; decide), if_pos (by simp [hmark, hside]), hhead, hrest,
          Nat.add_sub_cancel, ih]
      · have hhead : placed bound count inside (c :: text) 0 c = [c] := if_neg hlive
        have hrest : (fun place => placed bound count inside (c :: text) (place + 1))
            = placed bound count (sideAfter inside c) text := by
          funext place d
          exact placed_other hlive place d
        rw [hhead, hrest, ← ih, sideAfter]
        by_cases hquote : c = '\''
        · rw [if_pos hquote, if_pos hquote]
          rfl
        · have hpass : ¬(c = '?' && !inside && decide (0 < count)) = true := by
            rw [live_zero] at hlive
            simpa [and_assoc] using hlive
          rw [if_neg hquote, if_neg hpass, if_neg hquote]
          rfl

/-! ## Splicing -/

/-- A condition that is spliced in leaves its values in the binder, after
those that were there. In the style of question marks its text is left
alone. In the numbered style each live question mark takes the next number
while values last, and every character apart from these is kept in its
place. -/
theorem Binder.splice_places (b : Binder) (condition : String) (values : List Value) :
    (b.splice condition values).2 = { b with values := b.values ++ values }
      ∧ (b.style = .question → (b.splice condition values).1 = condition)
      ∧ (b.style = .dollar → (b.splice condition values).1.toList
          = (condition.toList.mapIdx
              (placed b.size values.length false condition.toList)).flatten) := by
  refine ⟨rfl, fun hstyle => ?_, fun hstyle => ?_⟩
  · rw [splice, hstyle]
    rfl
  · rw [splice, hstyle, PlaceholderStyle.renumber, String.toList_ofList, number_eq_placed]

/-- The mark in the literal stays, and so does the one that finds no value
left. -/
theorem Binder.splice_places_literal :
    (Binder.splice { style := .dollar, values := [.null] } "a = ? AND b = 'it''s ?' AND c = ?"
      [.bool true]).1 = "a = $2 AND b = 'it''s ?' AND c = ?" := by
  obtain ⟨-, -, hdollar⟩ := splice_places { style := .dollar, values := [.null] }
    "a = ? AND b = 'it''s ?' AND c = ?" [.bool true]
  exact String.toList_injective ((hdollar rfl).trans (by decide))

end Criteria.Sql
