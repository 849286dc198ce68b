import Criteria.Query

/-!
# Queries as JSON

A query has a form as JSON, an object of its nine fields. It is read back
from such an object, where fields that may be null may also be missing
and fields of other names do not matter, or from an array of the nine
fields in order.
-/

namespace Criteria.Query

def optional {α : Type} (write : α → Json) : Option α → Json
  | some a => write a
  | none => .null

def strings (ss : List String) : Json := .array (ss.map .string)

def number (n : UInt64) : Json := .int n.toNat

def toJson (q : Query) : Json :=
  .ofFields
    [("condition", optional .string q.condition),
      ("bind_values", .array (Value.itemsToJson q.bindValues)),
      ("joins", strings q.joins),
      ("limit", optional number q.limit),
      ("offset", optional number q.offset),
      ("order", optional .string q.order),
      ("group_by", optional .string q.groupBy),
      ("select_columns", optional strings q.selected),
      ("distinct", .bool q.distinct)]

/-- A field that may be null, and otherwise must be readable. -/
def readOptional {α : Type} (read : Json → Option α) : Json → Option (Option α)
  | .null => some none
  | j => (read j).map some

def readString : Json → Option String
  | .string s => some s
  | _ => none

def readStrings : Json → Option (List String)
  | .array items => items.mapM readString
  | _ => none

def readValues : Json → Option (List Value)
  | .array items => some (items.map Value.ofJson)
  | _ => none

/-- A whole number of 64 bits. -/
def readNumber : Json → Option UInt64
  | .int n => if 0 ≤ n && n < UInt64.size then some (UInt64.ofNat n.toNat) else none
  | _ => none

def readBool : Json → Option Bool
  | .bool b => some b
  | _ => none

/-- The nine fields in the order of the structure. -/
def ofItems? : List Json → Option Query
  | [condition, bindValues, joins, limit, offset, order, groupBy, selected, distinct] => do
    let condition ← readOptional readString condition
    let bindValues ← readValues bindValues
    let joins ← readStrings joins
    let limit ← readOptional readNumber limit
    let offset ← readOptional readNumber offset
    let order ← readOptional readString order
    let groupBy ← readOptional readString groupBy
    let selected ← readOptional readStrings selected
    let distinct ← readBool distinct
    return { condition, bindValues, joins, limit, offset, order, groupBy, selected, distinct }
  | _ => none

/-- An object by the names of its fields, where those that may be null
may also be missing, or an array of all nine. -/
def ofJson? : Json → Option Query
  | .array items => ofItems? items
  | .object fields => do
    let field name := (fields.lookup name).getD .null
    ofItems?
      [field "condition", field "bind_values", field "joins", field "limit", field "offset",
        field "order", field "group_by", field "select_columns", field "distinct"]
  | _ => none

end Criteria.Query
