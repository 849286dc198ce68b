import Criteria.Json
import Criteria.Decimal.Layout
import Criteria.Text.Numeral

/-!
# JSON written out

The compact text of a JSON value: no blanks, fields in their order,
strings with the escapes that the grammar demands and no others, doubles
with the fewest digits that read back.
-/

namespace Criteria.Json

/-- Doubles are positional from five places behind the point up to
sixteen before it. -/
def doubles : Decimal.Layout := { leastPositional := -5, greatestPositional := 15 }

/-- Hexadecimal digits of a control character, four of them. -/
def controlDigits (n : Nat) : List Char :=
  let ds := Nat.toDigits 16 n
  List.replicate (4 - ds.length) '0' ++ ds

def escape (c : Char) : List Char :=
  if c = '"' then ['\\', '"']
  else if c = '\\' then ['\\', '\\']
  else if c.toNat = 0x8 then ['\\', 'b']
  else if c.toNat = 0xC then ['\\', 'f']
  else if c = '\n' then ['\\', 'n']
  else if c = '\r' then ['\\', 'r']
  else if c = '\t' then ['\\', 't']
  else if c.toNat < 0x20 then ['\\', 'u'] ++ controlDigits c.toNat
  else [c]

def stringText (s : String) : String :=
  String.ofList ('"' :: s.toList.flatMap escape ++ ['"'])

mutual

def text : Json → String
  | .null => "null"
  | .bool true => "true"
  | .bool false => "false"
  | .int n => Text.signedNumeral n
  | .double d => doubles.text d
  | .string s => stringText s
  | .array items => "[" ++ ",".intercalate (itemTexts items) ++ "]"
  | .object fields => "\x7b" ++ ",".intercalate (fieldTexts fields) ++ "\x7d"
termination_by structural j => j

def itemTexts : List Json → List String
  | [] => []
  | j :: rest => text j :: itemTexts rest
termination_by structural l => l

def fieldTexts : List (String × Json) → List String
  | [] => []
  | (name, j) :: rest => (stringText name ++ ":" ++ text j) :: fieldTexts rest
termination_by structural l => l

end

end Criteria.Json
