import Mathlib.Data.List.Forall2
import Criteria.Query.Json

/-!
# Queries read back from JSON

A query without floating-point numbers is read back from its JSON, and
all of it but the bind values comes back as it was (`ofJson?_toJson`).

JSON tells fewer values apart than there are. A list and the document
that is the same array are written alike, as are a scalar and the
document that holds it, so no reading can return both as they were
(`list_read_as_document`). What is sure of a bind value read back is the
relation `Value.Returned`: scalars, and documents that are arrays or
objects, come back the same; a document that holds a scalar comes back as
the scalar; of a list it is only said that its JSON comes back.
-/

namespace Criteria

/-! ## Without floating-point numbers -/

namespace Json

mutual

/-- No number in the value is a double. -/
def exact : Json → Bool
  | .double _ => false
  | .array items => exactItems items
  | .object fields => exactFields fields
  | _ => true
termination_by structural j => j

def exactItems : List Json → Bool
  | [] => true
  | j :: rest => exact j && exactItems rest
termination_by structural l => l

def exactFields : List (String × Json) → Bool
  | [] => true
  | (_, j) :: rest => exact j && exactFields rest
termination_by structural l => l

end

end Json

namespace Value

mutual

/-- The value is no float and holds none. -/
def exact : Value → Bool
  | .float _ => false
  | .json j => j.exact
  | .list vs => exactItems vs
  | _ => true
termination_by structural v => v

def exactItems : List Value → Bool
  | [] => true
  | v :: rest => exact v && exactItems rest
termination_by structural l => l

end

/-! ## Values -/

/-- A value for which JSON has a form of its own: null, a truth value, an
integer or a string. -/
def isScalar : Value → Bool
  | .null | .bool _ | .int _ | .string _ => true
  | _ => false

/-- What is sure of the value that comes back for one written as JSON.
Nothing is said of a document that is a whole number outside the integers
of a value, nor of the form in which a list comes back. -/
inductive Returned : Value → Value → Prop
  | scalar (v : Value) (h : v.isScalar = true) : Returned v v
  | document (v : Value) (h : v.isScalar = true) : Returned (.json v.toJson) v
  | array (items : List Json) : Returned (.json (.array items)) (.json (.array items))
  | object (fields : List (String × Json)) :
      Returned (.json (.object fields)) (.json (.object fields))
  | list (vs : List Value) (w : Value) (h : w.toJson = (Value.list vs).toJson) :
      Returned (.list vs) w
  | great (n : Int) (w : Value) (h : fits n = false) : Returned (.json (.int n)) w

/-- Every 64-bit integer is one that a value can hold. -/
theorem fits_toInt (i : Int64) : fits i.toInt = true := by
  have hleast := Int64.minValue_le_toInt i
  have hgreatest := Int64.toInt_le i
  simp only [fits, Bool.and_eq_true, decide_eq_true_eq]
  exact ⟨by simpa using hleast, by simpa using hgreatest⟩

theorem toInt_ofInt_of_fits {n : Int} (h : fits n = true) : (Int64.ofInt n).toInt = n := by
  simp only [fits, Bool.and_eq_true, decide_eq_true_eq] at h
  have hmax : Int64.maxValue.toInt = 2 ^ 63 - 1 := rfl
  exact Int64.toInt_ofInt_of_le h.1 (by omega)

theorem ofJson_toJson_scalar {v : Value} (h : v.isScalar = true) : ofJson v.toJson = v := by
  cases v with
  | null => rfl
  | bool b => rfl
  | int i => simp only [toJson, ofJson, fits_toInt, if_true, Int64.ofInt_toInt]
  | string s => rfl
  | float d => cases h
  | json j => cases h
  | list vs => cases h

/-- A document is read as itself, or as the scalar that it holds. -/
theorem returned_document {j : Json} (h : j.exact = true) : Returned (.json j) (ofJson j) := by
  cases j with
  | null => exact .document .null rfl
  | bool b => exact .document (.bool b) rfl
  | int n =>
      by_cases hn : fits n = true
      · have hint : (Value.int (Int64.ofInt n)).toJson = .int n := by
          rw [toJson, toInt_ofInt_of_fits hn]
        have hread : ofJson (.int n) = .int (Int64.ofInt n) := if_pos hn
        rw [hread, ← hint]
        exact .document _ rfl
      · exact .great n _ (by simpa using hn)
  | double d => cases h
  | string s => exact .document (.string s) rfl
  | array items => exact .array items
  | object fields => exact .object fields

theorem returned_ofJson_toJson {v : Value} (h : v.exact = true) :
    Returned v (ofJson v.toJson) := by
  cases v with
  | float d => cases h
  | json j => exact returned_document h
  | list vs => exact .list vs _ rfl
  | null => exact .scalar _ rfl
  | bool b => exact .scalar _ rfl
  | string s => exact .scalar _ rfl
  | int i =>
      have hscalar : (Value.int i).isScalar = true := rfl
      rw [ofJson_toJson_scalar hscalar]
      exact .scalar _ hscalar

theorem returned_items {vs : List Value} (h : exactItems vs = true) :
    List.Forall₂ Returned vs ((itemsToJson vs).map ofJson) := by
  induction vs with
  | nil => exact .nil
  | cons v rest ih =>
      have hsplit : v.exact = true ∧ exactItems rest = true := by
        simpa only [exactItems, Bool.and_eq_true] using h
      exact .cons (returned_ofJson_toJson hsplit.1) (ih hsplit.2)

end Value

/-! ## The other fields -/

namespace Query

/-- A field that may be null is read back, where what is written is never
null and is read back itself. -/
theorem readOptional_optional {α : Type} {write : α → Json} {read : Json → Option α}
    (hread : ∀ a, read (write a) = some a) (hnull : ∀ a, write a ≠ .null) (o : Option α) :
    readOptional read (optional write o) = some o := by
  cases o with
  | none => rfl
  | some a =>
      have hdocument : readOptional read (write a) = (read (write a)).map some := by
        unfold readOptional
        split
        · exact absurd ‹_› (hnull a)
        · rfl
      rw [optional, hdocument, hread]
      rfl

theorem readString_string (s : String) : readString (.string s) = some s := rfl

theorem readStrings_strings (ss : List String) : readStrings (strings ss) = some ss := by
  have hitems : (ss.map Json.string).mapM readString = some ss := by
    induction ss with
    | nil => rfl
    | cons s rest ih =>
        rw [List.map_cons, List.mapM_cons, readString_string, ih]
        rfl
  exact hitems

theorem readNumber_number (n : UInt64) : readNumber (number n) = some n := by
  have hbound : (n.toNat : Int) < UInt64.size := by
    have hlt := n.toNat_lt
    simp only [UInt64.size]
    omega
  have hin : (decide (0 ≤ (n.toNat : Int)) && decide ((n.toNat : Int) < UInt64.size)) = true := by
    simp only [Int.natCast_nonneg, hbound, decide_true, Bool.and_self]
  simp only [readNumber, number, hin, if_true, Int.toNat_natCast, UInt64.ofNat_toNat]

theorem readValues_array (vs : List Value) :
    readValues (.array (Value.itemsToJson vs)) =
      some ((Value.itemsToJson vs).map Value.ofJson) := rfl

/-- The fields of a query in the order of their names. -/
theorem toJson_eq (q : Query) :
    q.toJson = .object
      [("bind_values", .array (Value.itemsToJson q.bindValues)),
        ("condition", optional .string q.condition),
        ("distinct", .bool q.distinct),
        ("group_by", optional .string q.groupBy),
        ("joins", strings q.joins),
        ("limit", optional number q.limit),
        ("offset", optional number q.offset),
        ("order", optional .string q.order),
        ("select_columns", optional strings q.selected)] := by
  simp only [toJson, Json.ofFields, List.foldl_cons, List.foldl_nil, Json.insertField,
    String.reduceLT, String.reduceEq, if_true, if_false]

/-- The query that comes back. -/
theorem ofJson?_toJson_eq (q : Query) :
    Query.ofJson? q.toJson =
      some { q with bindValues := (Value.itemsToJson q.bindValues).map Value.ofJson } := by
  have htext : ∀ o, readOptional readString (optional Json.string o) = some o :=
    readOptional_optional readString_string nofun
  have hcount : ∀ o, readOptional readNumber (optional number o) = some o :=
    readOptional_optional readNumber_number nofun
  have hcolumns : ∀ o, readOptional readStrings (optional strings o) = some o :=
    readOptional_optional readStrings_strings nofun
  rw [toJson_eq]
  simp [Query.ofJson?, ofItems?, List.lookup_cons, htext, hcount, hcolumns, readValues_array,
    readStrings_strings, readBool]

/-- No bind value is a float or holds one. -/
def exact (q : Query) : Bool := Value.exactItems q.bindValues

/-- A query without floating-point numbers is read back from its JSON
with all its fields, and with a value in the place of each bind value. -/
theorem ofJson?_toJson {q : Query} (hexact : q.exact = true) :
    ∃ q', Query.ofJson? q.toJson = some q' ∧
      q = { q' with bindValues := q.bindValues } ∧
      List.Forall₂ Value.Returned q.bindValues q'.bindValues := by
  refine ⟨_, ofJson?_toJson_eq q, rfl, ?_⟩
  exact Value.returned_items hexact

def archived : Query where
  condition := some "posts.id IN (?) AND posts.meta = ? AND posts.title = ?"
  bindValues :=
    [.list [.int (-1), .list [.null]], .json (.object [("tags", .array [.string "a"])]),
      .string "on \"paper\"", .json (.bool true), .json (.int 9223372036854775808)]
  joins := ["INNER JOIN \"photos\" ON \"photos\".id = \"posts\".photo_id"]
  limit := some 18446744073709551615
  selected := some ["posts.id"]
  distinct := true

theorem ofJson?_toJson_archived :
    archived.exact = true ∧
    ∃ q', Query.ofJson? archived.toJson = some q' ∧
      archived = { q' with bindValues := archived.bindValues } ∧
      List.Forall₂ Value.Returned archived.bindValues q'.bindValues :=
  ⟨by decide, ofJson?_toJson (by decide)⟩

/-! ## What JSON does not tell apart -/

/-- The query comes back as another one that has the same JSON; so one of
the two does not come back under any reading. -/
structure MistakenFor (q q' : Query) : Prop where
  exact : q.exact = true ∧ q'.exact = true
  same : q.toJson = q'.toJson
  read : Query.ofJson? q.toJson = some q'
  differ : q' ≠ q

/-- A list that is bound to one placeholder. -/
def listed : Query := { condition := some "posts.id IN (?)", bindValues := [.list [.int 1, .int 2]] }

def filed : Query := { listed with bindValues := [.json (.array [.int 1, .int 2])] }

/-- A list comes back as a document, and a document that holds null as
null. -/
theorem list_read_as_document :
    MistakenFor listed filed
      ∧ MistakenFor { bindValues := [.json .null] } { bindValues := [.null] } := by
  refine ⟨⟨by decide, rfl, ofJson?_toJson_eq listed, fun h => ?_⟩,
    ⟨by decide, rfl, ofJson?_toJson_eq _, fun h => ?_⟩⟩
  · have hvalues := congrArg Query.bindValues h
    simp [filed, listed] at hvalues
  · have hvalues := congrArg Query.bindValues h
    simp at hvalues

end Query

end Criteria
