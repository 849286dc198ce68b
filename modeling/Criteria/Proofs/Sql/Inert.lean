import Criteria.Proofs.Sql.Lexing
import Criteria.Proofs.Sql.Template

/-!
# Texts that numbering passes over

The numbering of placeholders knows single quotes and nothing else: to it
a quoted identifier is text like any other, and what stands in it can be
taken for a literal or a placeholder. `Inert` says of a text that it
does no harm before a placeholder: no literal is open at its end, and
each of its question marks stands in a literal. That is exactly when the
one value goes to the placeholder behind it (`number_opening`).

Only the single quotes and question marks of a text matter for this
(`inert_signs`), so quoting an identifier changes nothing
(`signs_tableName`).
-/

namespace Criteria.Sql

/-- Read from inside a literal or from outside, the text leaves no literal
open, and all its question marks are inside of literals. -/
structure Inert (inLiteral : Bool) (text : List Char) : Prop where
  balanced : (inLiteral.toNat + text.count '\'') % 2 = 0
  quiet : ∀ i, text[i]? = some '?' → (inLiteral.toNat + (text.take i).count '\'') % 2 = 1

namespace Inert

variable {inLiteral : Bool} {c : Char} {text : List Char}

theorem nil_iff : Inert inLiteral [] ↔ inLiteral = false := by
  constructor
  · intro h
    have hbalanced := h.balanced
    cases inLiteral with
    | false => rfl
    | true => simp at hbalanced
  · rintro rfl
    exact ⟨rfl, fun i hi => by simp at hi⟩

/-- How a character before the text counts: a single quote changes sides. -/
theorem parity (inLiteral : Bool) (n : Nat) :
    (inLiteral.toNat + (n + 1)) % 2 = ((!inLiteral).toNat + n) % 2 := by
  cases inLiteral <;> simp only [Bool.not_true, Bool.not_false, Bool.toNat_true,
    Bool.toNat_false] <;> omega

theorem quote_iff : Inert inLiteral ('\'' :: text) ↔ Inert (!inLiteral) text := by
  constructor
  · intro h
    have hbalanced := h.balanced
    rw [List.count_cons_self, parity] at hbalanced
    refine ⟨hbalanced, fun i hi => ?_⟩
    have hquiet := h.quiet (i + 1) hi
    rwa [List.take_succ_cons, List.count_cons_self, parity] at hquiet
  · intro h
    refine ⟨?_, fun i hi => ?_⟩
    · rw [List.count_cons_self, parity]
      exact h.balanced
    · cases i with
      | zero => cases hi
      | succ i =>
          rw [List.take_succ_cons, List.count_cons_self, parity]
          exact h.quiet i hi

theorem other_iff (hc : c ≠ '\'') :
    Inert inLiteral (c :: text) ↔ (c = '?' → inLiteral = true) ∧ Inert inLiteral text := by
  have hcount : ∀ l : List Char, (c :: l).count '\'' = l.count '\'' :=
    fun l => List.count_cons_of_ne hc
  constructor
  · intro h
    refine ⟨fun hmark => ?_, ?_, fun i hi => ?_⟩
    · have hquiet := h.quiet 0 (by simp [hmark])
      cases inLiteral with
      | false => simp at hquiet
      | true => rfl
    · have hbalanced := h.balanced
      rwa [hcount] at hbalanced
    · have hquiet := h.quiet (i + 1) hi
      rwa [List.take_succ_cons, hcount] at hquiet
  · rintro ⟨hmark, h⟩
    refine ⟨?_, fun i hi => ?_⟩
    · rw [hcount]
      exact h.balanced
    · cases i with
      | zero =>
          have hopen := hmark (by simpa using hi)
          rw [hopen]
          rfl
      | succ i =>
          rw [List.take_succ_cons, hcount]
          exact h.quiet i hi

end Inert

/-! ## One placeholder -/

/-- The one value that is pending goes to a placeholder just when the text
before it is inert; what stands behind it does not matter. -/
theorem number_opening (bound : Nat) (inLiteral : Bool) (opening closing : List Char) :
    number bound 1 inLiteral (opening ++ '?' :: closing)
        = opening ++ ('$' :: Text.digits (bound + 1) ++ closing)
      ↔ Inert inLiteral opening := by
  induction opening generalizing inLiteral with
  | nil =>
      rw [Inert.nil_iff, List.nil_append, List.nil_append, number, if_neg (by decide)]
      cases inLiteral with
      | false => simp [number_zero]
      | true => simp
  | cons c opening ih =>
      rw [List.cons_append, List.cons_append, number]
      by_cases hquote : c = '\''
      · rw [if_pos hquote, hquote, Inert.quote_iff, ← ih, List.cons.injEq, and_iff_right rfl]
      · rw [if_neg hquote, Inert.other_iff hquote, ← ih]
        by_cases hlive : c = '?' ∧ inLiteral = false
        · obtain ⟨rfl, rfl⟩ := hlive
          simp
        · have hmark : c = '?' → inLiteral = true := by
            intro hc
            simpa [hc] using hlive
          have hpass : ¬(c = '?' && !inLiteral && decide (0 < 1)) = true := by
            simpa using hmark
          rw [if_neg hpass, List.cons.injEq, and_iff_right rfl, and_iff_right hmark]

/-! ## Signs -/

/-- The characters that numbering looks at. -/
def isSign (c : Char) : Bool := c = '\'' || c = '?'

def signs (text : List Char) : List Char := text.filter isSign

@[simp] theorem signs_append (x y : List Char) : signs (x ++ y) = signs x ++ signs y :=
  List.filter_append ..

theorem signs_cons_of_not {c : Char} (h : isSign c = false) (text : List Char) :
    signs (c :: text) = signs text :=
  List.filter_cons_of_neg (by simp [h])

theorem inert_signs (inLiteral : Bool) (text : List Char) :
    Inert inLiteral (signs text) ↔ Inert inLiteral text := by
  induction text generalizing inLiteral with
  | nil => exact Iff.rfl
  | cons c text ih =>
      by_cases hquote : c = '\''
      · subst hquote
        rw [Inert.quote_iff, ← ih, ← Inert.quote_iff]
        rfl
      · rw [Inert.other_iff hquote, ← ih]
        by_cases hmark : c = '?'
        · subst hmark
          rw [← Inert.other_iff (by decide)]
          rfl
        · rw [signs_cons_of_not (by simp [isSign, hquote, hmark])]
          exact (and_iff_right fun h => absurd h hmark).symm

theorem signs_doubleQuotes (name : List Char) : signs (doubleQuotes name) = signs name := by
  induction name with
  | nil => rfl
  | cons c name ih =>
      rw [doubleQuotes]
      by_cases hc : c = '"'
      · subst hc
        rw [if_pos rfl, signs_cons_of_not (by decide), signs_cons_of_not (by decide), ih,
          signs_cons_of_not (by decide)]
      · rw [if_neg hc, signs, signs, List.filter_cons, List.filter_cons, ← signs, ← signs, ih]

/-- Quoted or not, an identifier has the signs of its name. -/
theorem signs_tableName (quote : Bool) (name : String) :
    signs (tableName quote name).toList = signs name.toList := by
  cases quote with
  | false => rfl
  | true =>
      have hquoted : (tableName true name).toList = '"' :: doubleQuotes name.toList ++ ['"'] :=
        String.toList_ofList
      have hclose : signs ['"'] = [] := rfl
      rw [hquoted, signs_append, signs_cons_of_not (by decide), signs_doubleQuotes, hclose,
        List.append_nil]

/-- A plain identifier has none. -/
theorem signs_plain {name : String} (h : isPlain name = true) : signs name.toList = [] := by
  refine List.filter_eq_nil_iff.mpr fun c hc hsign => ?_
  have hno : c = '\'' ∨ c = '?' := by simpa [isSign] using hsign
  rcases hno with rfl | rfl
  · exact not_mem_of_isPlain h (by decide) hc
  · exact not_mem_of_isPlain h (by decide) hc

end Criteria.Sql
