import Criteria.Proofs.Sql.Clauses

/-!
# Quoted names stand for themselves

A name in quotes is read back as it is, whatever it is made of: no quote
in it can end it early, and nothing that follows is drawn into it. The one
thing to be kept away from it is a further quote. What is written behind a
quoted name in a statement never begins with one, so the name can be told
from the text around it (`quoted_append`), and declarations of tables and
references to their columns are written alike only where they are the same
(`Hop.declaration_inj`, `ColumnAt.text_inj`).
-/

namespace Criteria.Sql

/-- Two texts that begin with quoted names are the same only if the names
and what follows them are. -/
theorem quoted_append {a b : String} {x y : List Char} (hx : x.head? ≠ some '"')
    (hy : y.head? ≠ some '"') (h : (quoted a).toList ++ x = (quoted b).toList ++ y) :
    a = b ∧ x = y := by
  have ha : Reader.name.run ((quoted a).toList ++ x) = some (a, x) := Reader.name_quoted a hx
  have hb : Reader.name.run ((quoted b).toList ++ y) = some (b, y) := Reader.name_quoted b hy
  rw [h, hb] at ha
  cases ha
  exact ⟨rfl, rfl⟩

theorem quoted_injective : Function.Injective quoted := fun a b h =>
  (quoted_append (x := []) (y := []) nofun nofun (by rw [h])).1

theorem Hop.declaration_inj {h h' : Hop} (heq : h.declaration true = h'.declaration true) :
    h.table = h'.table ∧ h.label = h'.label := by
  have hsplit (h : Hop) : (h.declaration true).toList = (quoted h.table).toList
      ++ if h.label = h.table then [] else " AS ".toList ++ (quoted h.label).toList := by
    unfold declaration
    split <;> simp [tableName]
  have happart (h : Hop) : (if h.label = h.table then [] else
      " AS ".toList ++ (quoted h.label).toList).head? ≠ some '"' := by
    split <;> simp
  have hlists := congrArg String.toList heq
  rw [hsplit, hsplit] at hlists
  obtain ⟨htable, hrest⟩ := quoted_append (happart h) (happart h') hlists
  refine ⟨htable, ?_⟩
  rw [htable] at hrest
  split at hrest <;> split at hrest
  · rename_i hplain hplain'
    rw [hplain, hplain']
  · simp at hrest
  · simp at hrest
  · have hlabel := (List.append_cancel_left_eq ..).mp hrest
    exact quoted_injective (String.toList_injective hlabel)

theorem ColumnAt.text_inj {c c' : ColumnAt} (heq : c.text true = c'.text true) : c = c' := by
  have hsplit (c : ColumnAt) : (c.text true).toList
      = (quoted c.label).toList ++ '.' :: c.column.toList := by
    simp [text, tableName]
  have hlists := congrArg String.toList heq
  rw [hsplit, hsplit] at hlists
  obtain ⟨hlabel, hrest⟩ := quoted_append (by simp) (by simp) hlists
  obtain ⟨label, column⟩ := c
  obtain rfl : label = c'.label := hlabel
  obtain rfl : column = c'.column := String.toList_injective (List.cons.inj hrest).2
  rfl

/-- A reader of identifiers takes a quoted name for what it is and leaves
what follows, if that does not begin with a quote. So different names are
quoted differently, and with quoted tables no two declarations and no two
columns are written alike that differ in a table, an alias or a column. -/
theorem quoted_kept :
    (∀ (name : String) (rest : List Char), rest.head? ≠ some '"' →
        Reader.name.run ((quoted name).toList ++ rest) = some (name, rest))
      ∧ Function.Injective quoted
      ∧ Function.Injective (tableName true)
      ∧ (∀ h h' : Hop, h.declaration true = h'.declaration true →
          h.table = h'.table ∧ h.label = h'.label)
      ∧ ∀ c c' : ColumnAt, c.text true = c'.text true → c = c' :=
  ⟨fun name _ hrest => Reader.name_quoted name hrest, quoted_injective, quoted_injective,
    fun _ _ => Hop.declaration_inj, fun _ _ => ColumnAt.text_inj⟩

/-- A name that is made of quotes, before an alias. -/
theorem quoted_kept_quotes : Reader.name.run ((quoted "\"\"").toList ++ " AS ".toList)
    = some ("\"\"", " AS ".toList) := by
  obtain ⟨hread, -⟩ := quoted_kept
  exact hread "\"\"" " AS ".toList (by decide)

end Criteria.Sql
