import Criteria.Json

/-!
# Reading JSON

A reader of JSON texts over their characters. Every step consumes a
character or hands the rest on with less fuel, so the length of the text
is fuel enough and no answer depends on it.

A numeral without fraction and exponent is a whole number if it fits 64
bits, with or without sign; a minus sign before zero makes a double, as
do a fraction, an exponent and excess size. Digits past the 64 bits of a
significand only move the exponent.
-/

namespace Criteria.Json.Read

def skipBlanks : List Char → List Char :=
  List.dropWhile fun c => c == ' ' || c == '\n' || c == '\r' || c == '\t'

/-- What remains after the characters of `word`. -/
def expect (word : List Char) (cs : List Char) : Option (List Char) :=
  if word.isPrefixOf cs then some (cs.drop word.length) else none

/-! ## Strings -/

def hexDigit? (c : Char) : Option Nat :=
  if '0' ≤ c && c ≤ '9' then some (c.toNat - '0'.toNat)
  else if 'a' ≤ c && c ≤ 'f' then some (c.toNat - 'a'.toNat + 10)
  else if 'A' ≤ c && c ≤ 'F' then some (c.toNat - 'A'.toNat + 10)
  else none

/-- The number that four hexadecimal digits denote. -/
def unit? (a b c d : Char) : Option Nat := do
  let a ← hexDigit? a
  let b ← hexDigit? b
  let c ← hexDigit? c
  let d ← hexDigit? d
  return ((a * 16 + b) * 16 + c) * 16 + d

def isHighSurrogate (n : Nat) : Bool := 0xD800 ≤ n && n < 0xDC00

def isLowSurrogate (n : Nat) : Bool := 0xDC00 ≤ n && n < 0xE000

def simpleEscape? (c : Char) : Option Char :=
  match c with
  | '"' => some '"'
  | '\\' => some '\\'
  | '/' => some '/'
  | 'b' => some '\x08'
  | 'f' => some '\x0c'
  | 'n' => some '\n'
  | 'r' => some '\r'
  | 't' => some '\t'
  | _ => none

/-- The rest of a string after its opening quote; `done` holds its
characters so far, last first. A surrogate stands only in a pair. -/
def stringFrom (done : List Char) : List Char → Option (String × List Char)
  | [] => none
  | '"' :: rest => some (String.ofList done.reverse, rest)
  | '\\' :: 'u' :: a :: b :: c :: d :: rest =>
    match unit? a b c d with
    | none => none
    | some high =>
      if isHighSurrogate high then
        match rest with
        | '\\' :: 'u' :: e :: f :: g :: h :: rest =>
          match unit? e f g h with
          | none => none
          | some low =>
            if isLowSurrogate low then
              stringFrom
                (Char.ofNat (0x10000 + (high - 0xD800) * 0x400 + (low - 0xDC00)) :: done) rest
            else none
        | _ => none
      else if isLowSurrogate high then none
      else stringFrom (Char.ofNat high :: done) rest
  | '\\' :: c :: rest =>
    match simpleEscape? c with
    | some c => stringFrom (c :: done) rest
    | none => none
  | c :: rest => if c.toNat < 0x20 then none else stringFrom (c :: done) rest

/-! ## Numerals -/

def digitValue (c : Char) : Nat := c.toNat - '0'.toNat

/-- A significand of at most 64 bits and the digits that no longer fit. -/
def significand (start : Nat) (ds : List Char) : Nat × List Char :=
  match ds with
  | [] => (start, [])
  | d :: rest =>
    if start * 10 + digitValue d < UInt64.size then significand (start * 10 + digitValue d) rest
    else (start, d :: rest)

/-- The parts of a numeral: its sign, the digits before and behind the
point, and the exponent; a part that is not written is `none`. -/
structure Numeral where
  negative : Bool
  whole : List Char
  fraction : Option (List Char)
  exponent : Option Int

/-- A sign and the number that the digits of an exponent denote. -/
def exponentFrom (cs : List Char) : Option (Int × List Char) :=
  let (negative, cs) := match cs with
    | '-' :: rest => (true, rest)
    | '+' :: rest => (false, rest)
    | _ => (false, cs)
  let ds := cs.takeWhile Char.isDigit
  if ds.isEmpty then none
  else
    let n := ds.foldl (fun n d => n * 10 + digitValue d) 0
    some (if negative then -(n : Int) else n, cs.drop ds.length)

/-- A numeral at the head of a text. No zero stands before other digits,
and a point has a digit on both sides. -/
def numeralFrom (cs : List Char) : Option (Numeral × List Char) :=
  let (negative, cs) := match cs with
    | '-' :: rest => (true, rest)
    | _ => (false, cs)
  let whole := cs.takeWhile Char.isDigit
  if whole.isEmpty || (whole.head? == some '0' && 1 < whole.length) then none
  else
    let rest := cs.drop whole.length
    let afterPoint := match rest with
      | '.' :: r => some (r.takeWhile Char.isDigit, r.drop (r.takeWhile Char.isDigit).length)
      | _ => none
    if afterPoint.any (·.1.isEmpty) then none
    else
      let fraction := afterPoint.map (·.1)
      let rest := (afterPoint.map (·.2)).getD rest
      match rest with
      | 'e' :: r | 'E' :: r =>
        (exponentFrom r).map fun (e, r) => (⟨negative, whole, fraction, some e⟩, r)
      | _ => some (⟨negative, whole, fraction, none⟩, rest)

/-- The value of a numeral; none if it is too great for a double. -/
def Numeral.value? (n : Numeral) : Option Json :=
  let (leading, excess) := significand 0 n.whole
  let asDouble (s : Nat) (e : Int) : Option Json :=
    (Double.ofDecimal? s e).map fun d => .double (if n.negative then d.negate else d)
  if n.fraction.isNone && n.exponent.isNone && excess.isEmpty then
    if !n.negative then some (.int leading)
    else if leading = 0 || -(leading : Int) < Int64.minValue.toInt then asDouble leading 0
    else some (.int (-leading))
  else
    let fraction := n.fraction.getD []
    let (s, unread) := significand leading fraction
    let read := fraction.length - unread.length
    asDouble s ((excess.length : Int) - read + n.exponent.getD 0)

/-! ## Values -/

mutual

/-- A value at the head of a text, and what follows it. -/
def valueFrom : Nat → List Char → Option (Json × List Char)
  | 0, _ => none
  | fuel + 1, cs =>
    match skipBlanks cs with
    | '"' :: rest => (stringFrom [] rest).map fun (s, rest) => (.string s, rest)
    | '[' :: rest =>
      match skipBlanks rest with
      | ']' :: rest => some (.array [], rest)
      | rest => itemsFrom fuel [] rest
    | '\x7b' :: rest =>
      match skipBlanks rest with
      | '\x7d' :: rest => some (.object [], rest)
      | rest => fieldsFrom fuel [] rest
    | 'n' :: rest => (expect ['u', 'l', 'l'] rest).map fun rest => (.null, rest)
    | 't' :: rest => (expect ['r', 'u', 'e'] rest).map fun rest => (.bool true, rest)
    | 'f' :: rest => (expect ['a', 'l', 's', 'e'] rest).map fun rest => (.bool false, rest)
    | rest =>
      match numeralFrom rest with
      | some (n, rest) => n.value?.map fun j => (j, rest)
      | none => none

/-- The items of an array from one of them on; `done` holds the earlier
ones, last first. -/
def itemsFrom : Nat → List Json → List Char → Option (Json × List Char)
  | 0, _, _ => none
  | fuel + 1, done, cs =>
    match valueFrom fuel cs with
    | none => none
    | some (j, rest) =>
      match skipBlanks rest with
      | ',' :: rest => itemsFrom fuel (j :: done) rest
      | ']' :: rest => some (.array (j :: done).reverse, rest)
      | _ => none

/-- The fields of an object from one of them on. -/
def fieldsFrom : Nat → List (String × Json) → List Char → Option (Json × List Char)
  | 0, _, _ => none
  | fuel + 1, done, cs =>
    match skipBlanks cs with
    | '"' :: rest =>
      match stringFrom [] rest with
      | none => none
      | some (name, rest) =>
        match skipBlanks rest with
        | ':' :: rest =>
          match valueFrom fuel rest with
          | none => none
          | some (j, rest) =>
            let done := insertField name j done
            match skipBlanks rest with
            | ',' :: rest => fieldsFrom fuel done rest
            | '\x7d' :: rest => some (.object done, rest)
            | _ => none
        | _ => none
    | _ => none

end

end Criteria.Json.Read

namespace Criteria.Json

/-- The value that a text denotes, if it is one JSON value and nothing
more than blanks around it. -/
def ofText? (text : String) : Option Json :=
  let cs := text.toList
  match Read.valueFrom (cs.length + 1) cs with
  | some (j, rest) => if (Read.skipBlanks rest).isEmpty then some j else none
  | none => none

end Criteria.Json
