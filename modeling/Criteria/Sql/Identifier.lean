/-!
# Identifiers

How tables and columns are named in a statement. A quoted identifier
doubles the quotes inside it, so a reader that undoes the doubling gets
the name back, whatever it holds.
-/

namespace Criteria.Sql

/-- Every double quote twice. -/
def doubleQuotes : List Char → List Char
  | [] => []
  | c :: rest => if c = '"' then '"' :: '"' :: doubleQuotes rest else c :: doubleQuotes rest

/-- The name as a quoted identifier. -/
def quoted (name : String) : String :=
  String.ofList ('"' :: doubleQuotes name.toList ++ ['"'])

def isIdentifierStart (c : Char) : Bool := c.isAlpha || c == '_'

def isIdentifierRest (c : Char) : Bool := c.isAlphanum || c == '_'

/-- An ASCII letter or underscore, then letters, digits and
underscores. -/
def isPlain (name : String) : Bool :=
  match name.toList with
  | [] => false
  | c :: rest => isIdentifierStart c && rest.all isIdentifierRest

/-- A table or an alias as it is written in a statement. -/
def tableName (quote : Bool) (name : String) : String :=
  if quote then quoted name else name

/-- A column under a table or an alias. A column that has a point in it
is qualified already and stays as it is. -/
def qualified (quote : Bool) (table column : String) : String :=
  if column.toList.contains '.' then column else tableName quote table ++ "." ++ column

end Criteria.Sql
