import Criteria.Json.Written

/-!
# Bind values

The values a filter compares columns with, as they are bound to the
placeholders of a statement: scalars, JSON documents and lists of values.
A document and a list are different things even where their JSON agrees,
so `ofJson` and `toJson` are not inverse: JSON has one kind of array and
no way to say which of the two was meant, and it is read as a document.
-/

namespace Criteria

inductive Value where
  | null
  | bool (b : Bool)
  | int (i : Int64)
  | float (d : Double)
  | string (s : String)
  | json (j : Json)
  | list (vs : List Value)

namespace Value

def isNull : Value → Bool
  | .null => true
  | _ => false

def isList : Value → Bool
  | .list _ => true
  | _ => false

def asList? : Value → Option (List Value)
  | .list vs => some vs
  | _ => none

/-- The word for the form of a value. -/
def kind : Value → String
  | .null => "null"
  | .bool _ => "bool"
  | .int _ => "int"
  | .float _ => "float"
  | .string _ => "string"
  | .json _ => "json"
  | .list _ => "list"

/-- A value as a row count: an integer by its 64 bits, anything else is
none. -/
def count? : Value → Option UInt64
  | .int i => some i.toUInt64
  | _ => none

mutual

/-- Equality of values of one form; floats are compared by value. -/
def same : Value → Value → Bool
  | .null, .null => true
  | .bool a, .bool b => a == b
  | .int a, .int b => a == b
  | .float a, .float b => a.same b
  | .string a, .string b => a == b
  | .json a, .json b => a.same b
  | .list a, .list b => sameItems a b
  | _, _ => false
termination_by structural a => a

def sameItems : List Value → List Value → Bool
  | [], [] => true
  | a :: as, b :: bs => same a b && sameItems as bs
  | _, _ => false
termination_by structural a => a

end

/-! ## As JSON -/

mutual

def toJson : Value → Json
  | .null => .null
  | .bool b => .bool b
  | .int i => .int i.toInt
  | .float d => .ofDouble d
  | .string s => .string s
  | .json j => j
  | .list vs => .array (itemsToJson vs)
termination_by structural v => v

def itemsToJson : List Value → List Json
  | [] => []
  | v :: rest => toJson v :: itemsToJson rest
termination_by structural l => l

end

/-- The whole number is one of the integers that a value can hold. -/
def fits (n : Int) : Bool := Int64.minValue.toInt ≤ n && n ≤ Int64.maxValue.toInt

/-- The value that a JSON value denotes. The forms are tried in the order
null, truth value, integer, float, string, document: an integer too great
for 64 bits with a sign is a float, and arrays and objects are documents. -/
def ofJson : Json → Value
  | .null => .null
  | .bool b => .bool b
  | .int n => if fits n then .int (Int64.ofInt n) else .float (.ofInt n)
  | .double d => .float d
  | .string s => .string s
  | .array items => .json (.array items)
  | .object fields => .json (.object fields)

def text (v : Value) : String := v.toJson.text

end Value

end Criteria
