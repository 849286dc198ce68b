import Criteria.Proofs.Plan.Walk
import Criteria.Proofs.Sql.Inert
import Criteria.Repository.Selection

/-!
# Selections of associated records

An association gives the records of one owner as a subject with a base
condition, in which the key of the owner is the one placeholder
(`Scoping.text_eq`). The selection of all of them always compiles, and
binds the key alone.

Where placeholders are numbered, its condition is numbered like any other
condition from elsewhere, by a reader that knows no quoted identifiers.
Table names can hold what that reader takes for a literal or for a
placeholder, so the key gets its number just when the names, one after
another as they are written, are inert (`association_compiled`); a name
with a question mark takes the number instead, and one with a single
apostrophe keeps it from the key (`association_compiled_torn`).
-/

namespace Criteria

/-! ## The condition around its placeholder -/

namespace Scoping

/-- What is written before the placeholder. -/
def opening (quote : Bool) : Scoping → String
  | .keyed column => column.text quote ++ " = "
  | .through column table sourceColumn targetColumn =>
    let between := Sql.tableName quote table
    column.text quote ++ " IN (SELECT " ++ between ++ "." ++ targetColumn ++ " FROM " ++ between
      ++ " WHERE " ++ between ++ "." ++ sourceColumn ++ " = "

def closing : Scoping → String
  | .keyed _ => ""
  | .through .. => ")"

/-- The condition with its placeholder written as `mark`. -/
def marked (quote : Bool) (mark : String) (c : Scoping) : String :=
  c.opening quote ++ mark ++ c.closing

theorem text_eq (quote : Bool) (c : Scoping) : c.text quote = c.marked quote "?" := by
  have hkeyed : " = ?" = " = " ++ "?" := rfl
  have hthrough : " = ?)" = " = " ++ "?" ++ ")" := rfl
  cases c with
  | keyed column => rw [text, marked, opening, closing, String.append_empty, hkeyed,
      String.append_assoc]
  | through column table sourceColumn targetColumn =>
      simp only [text, marked, opening, closing, hthrough, String.append_assoc]

/-- The key columns. -/
def columns : Scoping → List String
  | .keyed column => [column.column]
  | .through column _ sourceColumn targetColumn => [column.column, targetColumn, sourceColumn]

/-- The tables as often as they are named, one after another. -/
def tables : Scoping → List String
  | .keyed column => [column.label]
  | .through column table _ _ => [column.label, table, table, table]

/-- Nothing but the names of the tables matters for the numbering. -/
theorem signs_opening {c : Scoping} (h : ∀ column ∈ c.columns, Sql.isPlain column = true)
    (quote : Bool) :
    Sql.signs (c.opening quote).toList = Sql.signs (c.tables.flatMap String.toList) := by
  have hpoint : Sql.signs ".".toList = [] := rfl
  have hequal : Sql.signs " = ".toList = [] := rfl
  have hselect : Sql.signs " IN (SELECT ".toList = [] := rfl
  have hfrom : Sql.signs " FROM ".toList = [] := rfl
  have hwhere : Sql.signs " WHERE ".toList = [] := rfl
  cases c with
  | keyed column =>
      have hcolumn := Sql.signs_plain (h column.column (by simp [columns]))
      simp only [opening, tables, Sql.ColumnAt.text, String.toList_append, Sql.signs_append,
        Sql.signs_tableName, hcolumn, hpoint, hequal, List.append_nil, List.flatMap_singleton]
  | through column table sourceColumn targetColumn =>
      have hcolumn := Sql.signs_plain (h column.column (by simp [columns]))
      have hsource := Sql.signs_plain (h sourceColumn (by simp [columns]))
      have htarget := Sql.signs_plain (h targetColumn (by simp [columns]))
      simp only [opening, tables, Sql.ColumnAt.text, String.toList_append, Sql.signs_append,
        Sql.signs_tableName, hcolumn, hsource, htarget, hpoint, hequal, hselect, hfrom, hwhere,
        List.append_nil, List.nil_append, List.append_assoc, List.flatMap_cons, List.flatMap_nil]

/-- In the numbered style the placeholder gets its number just when the
names of the tables are inert; in the other nothing is to be done. -/
theorem renumber_text {c : Scoping} (h : ∀ column ∈ c.columns, Sql.isPlain column = true)
    (quote : Bool) (style : Sql.PlaceholderStyle) :
    style.renumber 0 1 (c.text quote) = c.marked quote (style.placeholder 1)
      ↔ (style = .dollar → Sql.Inert false (c.tables.flatMap String.toList)) := by
  cases style with
  | question => simp [Sql.PlaceholderStyle.renumber, Sql.PlaceholderStyle.placeholder, text_eq]
  | dollar =>
      have htext : (c.marked quote "?").toList
          = (c.opening quote).toList ++ '?' :: c.closing.toList := by
        simp [marked]
      have hmarked : (c.marked quote (Sql.PlaceholderStyle.dollar.placeholder 1)).toList
          = (c.opening quote).toList ++ ('$' :: Text.digits (0 + 1) ++ c.closing.toList) := by
        simp [marked, Sql.PlaceholderStyle.placeholder, Text.toList_numeral]
      rw [Sql.PlaceholderStyle.renumber, ← String.toList_inj, String.toList_ofList, text_eq, htext,
        hmarked, Sql.number_opening, ← Sql.inert_signs, signs_opening h, Sql.inert_signs]
      exact ⟨fun hinert _ => hinert, fun hinert => hinert rfl⟩

end Scoping

/-! ## Selections without filters -/

/-- A filter that asks for nothing compiles to its base. -/
theorem Schema.compile_root {s : Schema} {id : ModelId} {table : String}
    (htable : s.table id = .ok table) (config : Config) (base : BaseCondition) :
    s.compile config id .root (some base) = .ok
      { condition := some (config.placeholders.renumber 0 base.values.length base.condition)
        bindValues := base.values } := by
  rw [compile_run htable]
  rfl

theorem Repository.association_ok {repo : Repository} {owner : ModelId} {name : String}
    {a : Association} {ownerEnd targetEnd : Endpoint}
    (hassociation : repo.schema.association owner name = .ok a)
    (howner : repo.schema.endpoint owner = .ok ownerEnd)
    (htarget : repo.schema.endpoint a.target = .ok targetEnd) (key : Value) :
    repo.association owner name key = .ok (.within a.target
      { condition := a.scopingCondition ownerEnd targetEnd repo.config.quoteTables
        values := [key] }) := by
  rw [Repository.association, hassociation]
  simp only [bind, Except.bind, howner, htarget]
  rfl

/-- A selection on which nothing was done compiles the filter that asks for
nothing. -/
theorem Selection.compiled_all {ρ : Type} {repo : Repository} {subject : Subject} {q : Query}
    (h : repo.schema.compile repo.config subject.model .root subject.base = .ok q) :
    ((Selection.all subject : Selection ρ).compiled repo).1 = .ok q := by
  rw [Selection.compiled, Selection.all, h]

/-- All records that an association gives to an owner: the selection
compiles, binds the key of the owner and nothing more, and its condition
is that of the association with the placeholder in the style of the
repository, unless numbers are asked for and the names of the tables get
in the way. -/
theorem Repository.association_compiled {repo : Repository} {owner : ModelId} {name : String}
    {a : Association} {ownerEnd targetEnd : Endpoint}
    (hassociation : repo.schema.association owner name = .ok a)
    (howner : repo.schema.endpoint owner = .ok ownerEnd)
    (htarget : repo.schema.endpoint a.target = .ok targetEnd)
    (hcolumns : ∀ column ∈ (a.scoping ownerEnd targetEnd).columns, Sql.isPlain column = true)
    (key : Value) (ρ : Type) :
    ∃ subject q, repo.association owner name key = .ok subject
      ∧ subject.model = a.target
      ∧ ((Selection.all subject : Selection ρ).compiled repo).1 = .ok q
      ∧ q.bindValues = [key]
      ∧ a.scopingCondition ownerEnd targetEnd repo.config.quoteTables
          = (a.scoping ownerEnd targetEnd).marked repo.config.quoteTables "?"
      ∧ (q.condition = some ((a.scoping ownerEnd targetEnd).marked repo.config.quoteTables
            (repo.config.placeholders.placeholder 1))
          ↔ (repo.config.placeholders = .dollar →
              Sql.Inert false ((a.scoping ownerEnd targetEnd).tables.flatMap String.toList))) := by
  have hsubject := Repository.association_ok hassociation howner htarget key
  have hcompile := Schema.compile_root (Schema.endpoint_ok htarget).1 repo.config
    { condition := a.scopingCondition ownerEnd targetEnd repo.config.quoteTables, values := [key] }
  refine ⟨_, _, hsubject, rfl, Selection.compiled_all hcompile, rfl, Scoping.text_eq .., ?_⟩
  rw [Option.some.injEq]
  exact Scoping.renumber_text hcolumns ..

/-- Shelves and the books that stand on them. -/
def Schema.library : Schema :=
  { models := #[
      { name := "Shelf", table := some "the \"shelves\""
        associations := [
          { name := "books", target := ⟨1⟩
            kind := .manyToMany { table := "stands 'on?' shelf", sourceColumn := some "shelf_id"
                                  targetColumn := some "book_id" } }] },
      { name := "Book", table := some "books" }] }

def Repository.library : Repository := { schema := .library, config := .postgres }

/-- Names of tables may have quotes, if those are in pairs. -/
theorem Repository.association_compiled_library :
    ∃ subject q, Repository.library.association ⟨0⟩ "books" (.int 7) = .ok subject
      ∧ ((Selection.all subject : Selection Unit).compiled .library).1 = .ok q
      ∧ q.bindValues = [.int 7]
      ∧ q.condition = some ("\"books\".id IN (SELECT \"stands 'on?' shelf\".book_id "
          ++ "FROM \"stands 'on?' shelf\" WHERE \"stands 'on?' shelf\".shelf_id = $1)") := by
  have hassociation : ∃ a ownerEnd targetEnd,
      Repository.library.schema.association ⟨0⟩ "books" = .ok a
        ∧ Repository.library.schema.endpoint ⟨0⟩ = .ok ownerEnd
        ∧ Repository.library.schema.endpoint a.target = .ok targetEnd
        ∧ a.scoping ownerEnd targetEnd
          = .through ⟨"books", "id"⟩ "stands 'on?' shelf" "shelf_id" "book_id" :=
    ⟨_, _, _, rfl, rfl, rfl, rfl⟩
  obtain ⟨a, ownerEnd, targetEnd, ha, howner, htarget, hscoping⟩ := hassociation
  have hplain : ∀ column ∈ (a.scoping ownerEnd targetEnd).columns,
      Sql.isPlain column = true := by
    rw [hscoping]
    decide
  have hinert : Sql.Inert false
      ((a.scoping ownerEnd targetEnd).tables.flatMap String.toList) := by
    have hsigns : Sql.signs ((a.scoping ownerEnd targetEnd).tables.flatMap String.toList)
        = ['\'', '?', '\'', '\'', '?', '\'', '\'', '?', '\''] := by
      rw [hscoping]
      rfl
    rw [← Sql.inert_signs, hsigns]
    simp [Sql.Inert.quote_iff, Sql.Inert.other_iff, Sql.Inert.nil_iff]
  obtain ⟨subject, q, hsubject, -, hcompiled, hvalues, -, hcondition⟩ :=
    Repository.association_compiled ha howner htarget hplain (.int 7) Unit
  refine ⟨subject, q, hsubject, hcompiled, hvalues, ?_⟩
  rw [hcondition.mpr fun _ => hinert, hscoping]
  rfl

/-- Blogs and their posts, in a table of some name. -/
def Repository.blogs (posts : String) : Repository where
  schema :=
    { models := #[
        { name := "Blog", table := some "blogs"
          associations := [
            { name := "posts", kind := .hasMany, target := ⟨1⟩, foreignKey := some "blog_id" }] },
        { name := "Post", table := some posts }] }
  config := .postgres

/-- A question mark in the name of a table is taken for the placeholder,
and a single quote hides the placeholder. -/
theorem Repository.association_compiled_torn :
    (∃ subject q, (Repository.blogs "what?").association ⟨0⟩ "posts" (.int 3) = .ok subject
      ∧ ((Selection.all subject : Selection Unit).compiled (.blogs "what?")).1 = .ok q
      ∧ q.bindValues = [.int 3] ∧ q.condition = some "\"what$1\".blog_id = ?")
    ∧ ∃ subject q, (Repository.blogs "o'posts").association ⟨0⟩ "posts" (.int 3) = .ok subject
      ∧ ((Selection.all subject : Selection Unit).compiled (.blogs "o'posts")).1 = .ok q
      ∧ q.bindValues = [.int 3] ∧ q.condition = some "\"o'posts\".blog_id = ?" :=
  ⟨⟨_, _, rfl, rfl, rfl, by decide⟩, ⟨_, _, rfl, rfl, rfl, by decide⟩⟩

end Criteria
