import Criteria.Proofs.Sql.Logic

/-!
# Reading a condition

How SQL reads the text of a condition, as far as conditions of this kind
go. The reader is independent of how conditions are written; it has four
stages.

The text is cut into tokens (`lex`). Question marks take the numbers from
one on (`settle`). A column with its comparison becomes one operand, so
the `AND` of a range is none of the connectives, and an inner `NOT`
negates that operand alone (`operands`). Operands are joined by a machine
that knows parentheses, and that `NOT` binds before `AND` and `AND`
before `OR` (`Machine.step`).
-/

namespace Criteria.Sql

/-! ## Tokens -/

inductive Keyword where
  | not
  | and
  | or
  | is
  | null
  | between
  | isIn
  | like
deriving DecidableEq, Repr

def Keyword.read? (word : String) : Option Keyword :=
  if word = "NOT" then some .not
  else if word = "AND" then some .and
  else if word = "OR" then some .or
  else if word = "IS" then some .is
  else if word = "NULL" then some .null
  else if word = "BETWEEN" then some .between
  else if word = "IN" then some .isIn
  else if word = "LIKE" then some .like
  else none

inductive Token where
  /-- A quoted name, without its quotes. -/
  | name (text : String)
  | point
  /-- A bare name that follows a point. -/
  | column (text : String)
  | keyword (k : Keyword)
  | sign (c : Comparison)
  /-- A placeholder, with its number if it shows one. -/
  | mark (n : Option Nat)
  | opening
  | closing
deriving DecidableEq, Repr

/-- What the reader of a text is in the middle of. -/
inductive Piece where
  | blank
  | point
  | word (afterPoint : Bool) (read : List Char)
  | quoted (read : List Char)
  /-- A quote inside a quoted name, which ends the name unless another
  quote follows. -/
  | quoteSeen (read : List Char)
  | number (read : List Char)
  | less
  | lessOrEqual
  | greater
  | greaterOrEqual
deriving DecidableEq, Repr

namespace Piece

/-- The tokens of a piece that is not gone on with. -/
def close : Piece → Option (List Token)
  | .blank => some []
  | .point => some [.point]
  | .word true read => some [.column (String.ofList read)]
  | .word false read => (Keyword.read? (String.ofList read)).map fun k => [.keyword k]
  | .quoted _ => none
  | .quoteSeen read => some [.name (String.ofList read)]
  | .number read =>
    if read.isEmpty then none else some [.mark (some (Nat.ofDigitChars 10 read 0))]
  | .less => some [.sign .less]
  | .lessOrEqual => some [.sign .lessOrEqual]
  | .greater => some [.sign .greater]
  | .greaterOrEqual => some [.sign .greaterOrEqual]

/-- The piece with one more character, if that belongs to it. -/
def extend (p : Piece) (c : Char) : Option Piece :=
  match p with
  | .word afterPoint read =>
    if isIdentifierRest c then some (.word afterPoint (read ++ [c])) else none
  | .quoted read => some (if c = '"' then .quoteSeen read else .quoted (read ++ [c]))
  | .quoteSeen read => if c = '"' then some (.quoted (read ++ [c])) else none
  | .number read => if c.isDigit then some (.number (read ++ [c])) else none
  | .less => if c = '=' then some .lessOrEqual else none
  | .greater => if c = '=' then some .greaterOrEqual else none
  | _ => none

def isPoint : Piece → Bool
  | .point => true
  | _ => false

/-- The piece that a character begins after another, and the tokens that
it is by itself. -/
def begin (after : Piece) (c : Char) : Option (List Token × Piece) :=
  if c = ' ' then some ([], .blank)
  else if c = '"' then some ([], .quoted [])
  else if c = '.' then some ([], .point)
  else if c = '(' then some ([.opening], .blank)
  else if c = ')' then some ([.closing], .blank)
  else if c = '?' then some ([.mark none], .blank)
  else if c = '$' then some ([], .number [])
  else if c = '=' then some ([.sign .equal], .blank)
  else if c = '<' then some ([], .less)
  else if c = '>' then some ([], .greater)
  else if isIdentifierStart c then some ([], .word after.isPoint [c])
  else none

end Piece

/-- Tokens before those that are still to come, if these can be read. -/
def emit (tokens : List Token) (more : Option (List Token)) : Option (List Token) :=
  more.map (tokens ++ ·)

/-- The tokens of a text of which a piece has been read. -/
def lex (p : Piece) : List Char → Option (List Token)
  | [] => p.close
  | c :: rest =>
    match p.extend c with
    | some longer => lex longer rest
    | none =>
      match p.close, p.begin c with
      | some done, some (new, next) => emit (done ++ new) (lex next rest)
      | _, _ => none

/-- Question marks are numbered from left to right. -/
def settle (next : Nat) : List Token → List Token
  | [] => []
  | .mark none :: rest => .mark (some next) :: settle (next + 1) rest
  | t :: rest => t :: settle next rest

/-! ## Operands -/

inductive Item where
  | operand (e : Expr)
  | not
  | and
  | or
  | opening
  | closing
deriving DecidableEq, Repr

/-- Columns with their comparisons are operands, everything else stands
for itself. -/
def operands : List Token → Option (List Item)
  | [] => some []
  | .opening :: rest => (operands rest).map (.opening :: ·)
  | .closing :: rest => (operands rest).map (.closing :: ·)
  | .keyword .not :: rest => (operands rest).map (.not :: ·)
  | .keyword .and :: rest => (operands rest).map (.and :: ·)
  | .keyword .or :: rest => (operands rest).map (.or :: ·)
  | .name l :: .point :: .column c :: .keyword .is :: .keyword .null :: rest =>
    (operands rest).map (.operand (.atom ⟨l, c, .isNull⟩) :: ·)
  | .name l :: .point :: .column c :: .keyword .is :: .keyword .not :: .keyword .null :: rest =>
    (operands rest).map (.operand (.not (.atom ⟨l, c, .isNull⟩)) :: ·)
  | .name l :: .point :: .column c :: .keyword .between :: .mark (some a) :: .keyword .and
      :: .mark (some b) :: rest =>
    (operands rest).map (.operand (.atom ⟨l, c, .between a b⟩) :: ·)
  | .name l :: .point :: .column c :: .keyword .not :: .keyword .between :: .mark (some a)
      :: .keyword .and :: .mark (some b) :: rest =>
    (operands rest).map (.operand (.not (.atom ⟨l, c, .between a b⟩)) :: ·)
  | .name l :: .point :: .column c :: .keyword .isIn :: .opening :: .mark (some n) :: .closing
      :: rest =>
    (operands rest).map (.operand (.atom ⟨l, c, .inList n⟩) :: ·)
  | .name l :: .point :: .column c :: .keyword .not :: .keyword .isIn :: .opening
      :: .mark (some n) :: .closing :: rest =>
    (operands rest).map (.operand (.not (.atom ⟨l, c, .inList n⟩)) :: ·)
  | .name l :: .point :: .column c :: .keyword .like :: .mark (some n) :: rest =>
    (operands rest).map (.operand (.atom ⟨l, c, .like n⟩) :: ·)
  | .name l :: .point :: .column c :: .keyword .not :: .keyword .like :: .mark (some n) :: rest =>
    (operands rest).map (.operand (.not (.atom ⟨l, c, .like n⟩)) :: ·)
  | .name l :: .point :: .column c :: .sign s :: .mark (some n) :: rest =>
    (operands rest).map (.operand (.atom ⟨l, c, .compare s n⟩) :: ·)
  | _ => none

/-! ## Precedence -/

/-- What has been read between a parenthesis and the next: the disjunction
so far, the conjunction since the last `OR`, and how many times the next
operand is negated. -/
structure Level where
  any : Option Expr := none
  all : Option Expr := none
  nots : Nat := 0
deriving DecidableEq, Repr

namespace Level

def negated (n : Nat) (e : Expr) : Expr := Nat.repeat Expr.not n e

/-- One more operand. -/
def take (l : Level) (e : Expr) : Level :=
  let e := negated l.nots e
  { l with
    all := some (match l.all with
      | none => e
      | some before => .and before e)
    nots := 0 }

/-- All that has been read. -/
def expr? (l : Level) : Option Expr :=
  match l.any, l.all with
  | none, all => all
  | some before, some e => some (.or before e)
  | some _, none => none

end Level

/-- The open parentheses from the inside out, the level inside them, and
whether an operand has been read that a connective may follow. -/
structure Machine where
  outer : List Level := []
  level : Level := {}
  full : Bool := false
deriving DecidableEq, Repr

namespace Machine

def step (m : Machine) : Item → Option Machine
  | .operand e =>
    if m.full then none else some { m with level := m.level.take e, full := true }
  | .not =>
    if m.full then none else some { m with level.nots := m.level.nots + 1 }
  | .opening =>
    if m.full then none else some { outer := m.level :: m.outer }
  | .and => if m.full then some { m with full := false } else none
  | .or => if m.full then some { m with level := { any := m.level.expr? }, full := false } else none
  | .closing =>
    match m.full, m.outer, m.level.expr? with
    | true, l :: outer, some e => some { outer, level := l.take e, full := true }
    | _, _, _ => none

def run (m : Machine) : List Item → Option Machine
  | [] => some m
  | i :: rest => (m.step i).bind fun next => next.run rest

/-- What has been read, if nothing is missing. -/
def result? (m : Machine) : Option Expr :=
  if m.full && m.outer.isEmpty then m.level.expr? else none

end Machine

/-- The expression that a text is read as. -/
def read (text : String) : Option Expr := do
  let tokens ← lex .blank text.toList
  let items ← operands (settle 1 tokens)
  let m ← ({} : Machine).run items
  m.result?

end Criteria.Sql
