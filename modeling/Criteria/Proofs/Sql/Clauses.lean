import Criteria.Proofs.Sql.Tables

/-!
# Reading joins and conditions for a key

How SQL reads the text of joins and of a condition for a key, as far as
texts of this kind go. The readers know nothing of how the texts are
written. A quoted name is read whatever it holds; a bare name ends at the
first mark, so it must have none (`Bare`).

The main statements are `readJoins_clause` and `KeyCondition.read_text`:
what is written is read as what was meant, with quoted tables and with
bare ones.
-/

namespace Criteria.Sql

/-! ## Readers -/

/-- A reader takes something from the beginning of a text. -/
abbrev Reader := StateT (List Char) Option

namespace Reader

variable {α β : Type}

/-- The reader takes the text, which stands for a value, and leaves the
rest. -/
def Takes (r : Reader α) (text : String) (a : α) (rest : List Char) : Prop :=
  r.run (text.toList ++ rest) = some (a, rest)

theorem Takes.bind {r : Reader α} {f : α → Reader β} {text more : String} {a : α} {b : β}
    {rest : List Char} (h : r.Takes text a (more.toList ++ rest)) (h' : (f a).Takes more b rest) :
    (r >>= f).Takes (text ++ more) b rest := by
  rw [Takes, String.toList_append, List.append_assoc, StateT.run_bind, h]
  exact h'

theorem Takes.pure (a : α) (rest : List Char) : (Pure.pure a : Reader α).Takes "" a rest := rfl

/-- What comes next takes nothing more. -/
theorem Takes.done {r : Reader α} {f : α → Reader β} {text : String} {a : α} {b : β}
    {rest : List Char} (h : r.Takes text a rest) (h' : (f a).Takes "" b rest) :
    (r >>= f).Takes text b rest := by
  rw [Takes, StateT.run_bind, h]
  exact h'

theorem Takes.map {r : Reader α} {f : α → β} {text : String} {a : α} {rest : List Char}
    (h : r.Takes text a rest) : (r >>= fun a => Pure.pure (f a)).Takes text (f a) rest :=
  h.done (.pure (f a) rest)

theorem Takes.orElse_left {r r' : Reader α} {text : String} {a : α} {rest : List Char}
    (h : r.Takes text a rest) : (r <|> r').Takes text a rest := by
  show (r.run (text.toList ++ rest) <|> r'.run (text.toList ++ rest)) = _
  rw [h]
  rfl

theorem Takes.orElse_right {r r' : Reader α} {text : String} {a : α} {rest : List Char}
    (hfails : r.run (text.toList ++ rest) = none) (h : r'.Takes text a rest) :
    (r <|> r').Takes text a rest := by
  show (r.run (text.toList ++ rest) <|> r'.run (text.toList ++ rest)) = _
  rw [hfails]
  exact h

/-- What is returned when the reader takes all of a text. -/
def all (r : Reader α) (text : String) : Option α :=
  match r.run text.toList with
  | some (a, []) => some a
  | _ => none

theorem Takes.all {r : Reader α} {text : String} {a : α} (h : r.Takes text a []) :
    r.all text = some a := by
  rw [Takes, List.append_nil] at h
  rw [Reader.all, h]

/-! ## Words and names -/

def literal (word : String) : Reader Unit := fun cs =>
  if word.toList.isPrefixOf cs then some ((), cs.drop word.toList.length) else none

theorem literal_takes (word : String) (rest : List Char) : (literal word).Takes word () rest := by
  have hprefix : word.toList.isPrefixOf (word.toList ++ rest) = true := by simp
  show (if word.toList.isPrefixOf (word.toList ++ rest) = true then _ else none) = _
  rw [if_pos hprefix, List.drop_left]

theorem literal_fails {word : String} {cs : List Char} (h : word.toList.isPrefixOf cs = false)
    (f : Unit → Reader α) : (literal word >>= f).run cs = none := by
  have hnone : (literal word).run cs = none := by
    show (if word.toList.isPrefixOf cs = true then _ else none) = _
    rw [h, if_neg Bool.false_ne_true]
  rw [StateT.run_bind, hnone]
  rfl

/-- A character that ends a bare name. -/
def isMark (c : Char) : Bool :=
  [' ', '.', ',', ';', '=', '?', '(', ')', '\'', '"'].contains c

/-- The longest beginning of the text without a mark. -/
def bareName : Reader String := fun cs =>
  let word := cs.takeWhile (!isMark ·)
  if word.isEmpty then none else some (String.ofList word, cs.dropWhile (!isMark ·))

/-- The characters up to the quote that ends a quoted name, of which two
stand for one inside it. -/
def quotedBody : List Char → Option (List Char × List Char)
  | [] => none
  | '"' :: '"' :: rest => (quotedBody rest).map fun (name, rest) => ('"' :: name, rest)
  | '"' :: rest => some ([], rest)
  | c :: rest => (quotedBody rest).map fun (name, rest) => (c :: name, rest)

def name : Reader String := fun
  | '"' :: rest => (quotedBody rest).map fun (name, rest) => (String.ofList name, rest)
  | cs => bareName cs

end Reader

/-- A name that can be read without quotes. -/
def Bare (name : String) : Prop := name ≠ "" ∧ ∀ c ∈ name.toList, Reader.isMark c = false

instance (name : String) : Decidable (Bare name) :=
  decidable_of_iff (name ≠ "" ∧ name.toList.all (!Reader.isMark ·) = true) (by simp [Bare])

/-- A name that can be read as it is written. -/
def Legible (quote : Bool) (name : String) : Prop := quote = true ∨ Bare name

instance (quote : Bool) (name : String) : Decidable (Legible quote name) :=
  inferInstanceAs (Decidable (quote = true ∨ Bare name))

/-- The text ends here, or goes on with a blank or a point. -/
def Pauses (rest : List Char) : Prop := ∀ c ∈ rest.head?, c = ' ' ∨ c = '.'

theorem pauses_nil : Pauses [] := nofun

theorem pauses_cons {c : Char} (hc : c = ' ' ∨ c = '.') (cs : List Char) : Pauses (c :: cs) := by
  rintro d ⟨⟩
  exact hc

theorem pauses_text {word : String} {c : Char} {cs : List Char} (hword : word.toList = c :: cs)
    (hc : c = ' ' ∨ c = '.') (more : String) (rest : List Char) :
    Pauses ((word ++ more).toList ++ rest) := by
  rw [String.toList_append, hword]
  exact pauses_cons hc _

namespace Reader

theorem bareName_takes {word : String} (h : Bare word) {rest : List Char} (hrest : Pauses rest) :
    bareName.Takes word word rest := by
  have hword : ∀ c ∈ word.toList, (!isMark c) = true := fun c hc => by rw [h.2 c hc]; rfl
  have hends : rest.takeWhile (!isMark ·) = [] ∧ rest.dropWhile (!isMark ·) = rest := by
    cases rest with
    | nil => exact ⟨rfl, rfl⟩
    | cons c rest => rcases hrest c rfl with rfl | rfl <;> exact ⟨rfl, rfl⟩
  have hne : word.toList.isEmpty = false := by
    rw [List.isEmpty_eq_false_iff]
    exact fun hnil => h.1 (String.toList_inj.mp hnil)
  show (if ((word.toList ++ rest).takeWhile (!isMark ·)).isEmpty = true then none else _) = _
  rw [List.takeWhile_append_of_pos hword, List.dropWhile_append_of_pos hword, hends.1, hends.2,
    List.append_nil, hne, if_neg Bool.false_ne_true, String.ofList_toList]

/-- Doubled quotes are read as single ones, up to a quote that stands by
itself. -/
theorem quotedBody_doubleQuotes (cs : List Char) {rest : List Char}
    (hrest : rest.head? ≠ some '"') :
    quotedBody (doubleQuotes cs ++ '"' :: rest) = some (cs, rest) := by
  induction cs with
  | nil =>
      rw [doubleQuotes, List.nil_append]
      cases rest with
      | nil => rfl
      | cons c rest =>
          have hc : c ≠ '"' := fun heq => hrest (congrArg some heq)
          simp [quotedBody, hc]
  | cons c cs ih =>
      by_cases hc : c = '"'
      · simp [doubleQuotes, hc, quotedBody, ih]
      · simp [doubleQuotes, hc, quotedBody, ih]

/-- A quoted name is read back, unless what follows would go on with it. -/
theorem name_quoted (s : String) {rest : List Char} (hrest : rest.head? ≠ some '"') :
    name.Takes (quoted s) s rest := by
  have hbody := quotedBody_doubleQuotes s.toList hrest
  rw [Takes, quoted, String.toList_ofList, List.append_assoc]
  show ((quotedBody (doubleQuotes s.toList ++ '"' :: rest)).map _) = _
  rw [hbody]
  show some (String.ofList s.toList, rest) = _
  rw [String.ofList_toList]

theorem name_takes {quote : Bool} {s : String} (h : Legible quote s) {rest : List Char}
    (hrest : Pauses rest) : name.Takes (tableName quote s) s rest := by
  cases quote with
  | true =>
      rw [tableName, if_pos rfl]
      refine name_quoted s fun heq => ?_
      rcases hrest '"' heq with hc | hc <;> cases hc
  | false =>
      have hbare : Bare s := h.resolve_left Bool.false_ne_true
      obtain ⟨c, cs, hchars⟩ : ∃ c cs, s.toList = c :: cs := by
        cases hs : s.toList with
        | nil => exact absurd (String.toList_inj.mp hs) hbare.1
        | cons c cs => exact ⟨c, cs, rfl⟩
      -- A name that began with a quote would be taken for a quoted one.
      have hc : c ≠ '"' := by
        rintro rfl
        have hmark := hbare.2 '"' (by rw [hchars]; exact List.mem_cons_self ..)
        cases hmark
      have hsame : name.run (s.toList ++ rest) = bareName.run (s.toList ++ rest) := by
        rw [hchars, List.cons_append]
        show name (c :: (cs ++ rest)) = _
        unfold name
        split
        · rename_i heq
          exact absurd (List.cons.inj heq).1 hc
        · rfl
      rw [Takes, tableName, if_neg Bool.false_ne_true, hsame]
      exact bareName_takes hbare hrest

/-! ## Columns and joins -/

def column : Reader ColumnAt := do
  let label ← name
  literal "."
  let column ← bareName
  return ⟨label, column⟩

def joinKind : Reader JoinKind :=
  (do literal "INNER JOIN"; return .inner) <|> (do literal "LEFT OUTER JOIN"; return .left)

/-- The name that a table goes by. -/
def label (table : String) : Reader String := (do literal " AS "; name) <|> return table

def hop : Reader (JoinKind × Hop) := do
  let kind ← joinKind
  literal " "
  let table ← name
  let label ← label table
  literal " ON "
  let left ← column
  literal " = "
  let right ← column
  return (kind, ⟨table, label, left, right⟩)

/-- Joins with blanks between them, at most as many as the fuel. -/
def hops : Nat → Reader (List (JoinKind × Hop))
  | 0 => failure
  | fuel + 1 => do
    let first ← hop
    (do literal " "; let rest ← hops fuel; return first :: rest) <|> return [first]

end Reader

namespace ColumnAt

def Legible (quote : Bool) (c : ColumnAt) : Prop := Sql.Legible quote c.label ∧ Bare c.column

instance (quote : Bool) (c : ColumnAt) : Decidable (c.Legible quote) :=
  inferInstanceAs (Decidable (Sql.Legible quote c.label ∧ Bare c.column))

theorem takes {quote : Bool} {c : ColumnAt} (h : c.Legible quote) {rest : List Char}
    (hrest : Pauses rest) : Reader.column.Takes (c.text quote) c rest := by
  rw [text, String.append_assoc]
  refine (Reader.name_takes h.1 (pauses_text rfl (.inr rfl) _ _)).bind ?_
  refine (Reader.literal_takes "." _).bind ?_
  exact (Reader.bareName_takes h.2 hrest).map

end ColumnAt

namespace Hop

/-- All names of the join can be read as they are written. -/
structure Legible (quote : Bool) (h : Hop) : Prop where
  table : Sql.Legible quote h.table
  label : Sql.Legible quote h.label
  left : h.left.Legible quote
  right : h.right.Legible quote

instance (quote : Bool) (h : Hop) : Decidable (h.Legible quote) :=
  decidable_of_iff (Sql.Legible quote h.table ∧ Sql.Legible quote h.label
      ∧ h.left.Legible quote ∧ h.right.Legible quote)
    ⟨fun ⟨table, label, left, right⟩ => ⟨table, label, left, right⟩,
      fun h => ⟨h.table, h.label, h.left, h.right⟩⟩

/-- What is written after the table if it goes by another name. -/
def aliasText (quote : Bool) (h : Hop) : String :=
  if h.label = h.table then "" else " AS " ++ tableName quote h.label

theorem declaration_eq (quote : Bool) (h : Hop) :
    h.declaration quote = tableName quote h.table ++ h.aliasText quote := by
  unfold declaration aliasText
  split
  · rw [String.append_empty]
  · rw [String.append_assoc]

theorem aliasText_pauses (quote : Bool) (h : Hop) (more : String) (rest : List Char) :
    Pauses ((h.aliasText quote ++ (" ON " ++ more)).toList ++ rest) := by
  unfold aliasText
  split
  · rw [String.empty_append]
    exact pauses_text rfl (.inl rfl) more rest
  · rw [String.append_assoc]
    exact pauses_text rfl (.inl rfl) _ rest

theorem label_takes {quote : Bool} {h : Hop} (hlegible : h.Legible quote) (more : String)
    (rest : List Char) :
    (Reader.label h.table).Takes (h.aliasText quote) h.label
      ((" ON " ++ more).toList ++ rest) := by
  unfold aliasText Reader.label
  split
  · rename_i hsame
    have hother : " AS ".toList.isPrefixOf ("".toList ++ ((" ON " ++ more).toList ++ rest))
        = false := by
      rw [String.toList_append]
      rfl
    rw [hsame]
    exact .orElse_right (Reader.literal_fails hother _) (.pure _ _)
  · have hpauses : Pauses ((" ON " ++ more).toList ++ rest) := pauses_text rfl (.inl rfl) more rest
    exact .orElse_left ((Reader.literal_takes _ _).bind (Reader.name_takes hlegible.label hpauses))

theorem joinKind_takes (kind : JoinKind) (rest : List Char) :
    Reader.joinKind.Takes kind.keywords kind rest := by
  cases kind with
  | inner => exact .orElse_left (Reader.literal_takes _ _).map
  | left => exact .orElse_right rfl (Reader.literal_takes _ _).map

theorem takes {quote : Bool} {h : Hop} (hlegible : h.Legible quote) (kind : JoinKind)
    {rest : List Char} (hrest : Pauses rest) :
    Reader.hop.Takes (h.text quote kind) (kind, h) rest := by
  rw [text, declaration_eq]
  simp only [String.append_assoc]
  refine (joinKind_takes kind _).bind ?_
  refine (Reader.literal_takes " " _).bind ?_
  refine (Reader.name_takes hlegible.table (aliasText_pauses quote h _ _)).bind ?_
  refine (label_takes hlegible _ _).bind ?_
  refine (Reader.literal_takes " ON " _).bind ?_
  refine (ColumnAt.takes hlegible.left (pauses_text rfl (.inl rfl) _ _)).bind ?_
  refine (Reader.literal_takes " = " _).bind ?_
  exact (ColumnAt.takes hlegible.right hrest).map

theorem clause_singleton (quote : Bool) (kind : JoinKind) (h : Hop) :
    clause quote kind [h] = h.text quote kind := by
  rw [clause, List.map_singleton, String.intercalate_singleton]

theorem clause_cons_cons (quote : Bool) (kind : JoinKind) (h h' : Hop) (rest : List Hop) :
    clause quote kind (h :: h' :: rest)
      = h.text quote kind ++ (" " ++ clause quote kind (h' :: rest)) := by
  rw [clause, List.map_cons, List.map_cons, String.intercalate_cons_cons, ← List.map_cons,
    ← clause, String.append_assoc]

/-- Each join takes at least one character. -/
theorem length_le_clause (quote : Bool) (kind : JoinKind) (hops : List Hop) :
    hops.length ≤ (clause quote kind hops).length := by
  have htext (h : Hop) : 1 ≤ (h.text quote kind).length := by
    have hkeywords : 1 ≤ kind.keywords.length := by cases kind <;> decide
    simp only [text, String.length_append]
    omega
  induction hops with
  | nil => exact Nat.zero_le _
  | cons h rest ih =>
      have hh := htext h
      cases rest with
      | nil => rwa [clause_singleton]
      | cons h' rest =>
          rw [clause_cons_cons, String.length_append, String.length_append, List.length_cons]
          omega

/-- Joins are taken as they were meant, as far as the fuel reaches. -/
theorem allTake {quote : Bool} {kind : JoinKind} {hops : List Hop} (hne : hops ≠ [])
    (hlegible : ∀ h ∈ hops, h.Legible quote) {fuel : Nat} (hfuel : hops.length ≤ fuel) :
    (Reader.hops fuel).Takes (clause quote kind hops) (hops.map (kind, ·)) [] := by
  induction hops generalizing fuel with
  | nil => exact absurd rfl hne
  | cons h rest ih =>
      obtain ⟨fuel, rfl⟩ : ∃ n, fuel = n + 1 := Nat.exists_eq_add_one.mpr (by simp at hfuel; omega)
      have hh := hlegible h (List.mem_cons_self ..)
      cases rest with
      | nil =>
          -- The text ends here, so no blank calls for another join.
          have hlast : " ".toList.isPrefixOf ("".toList ++ ([] : List Char)) = false := rfl
          rw [clause_singleton]
          exact (takes hh kind pauses_nil).done
            (.orElse_right (Reader.literal_fails hlast _) (.pure [(kind, h)] []))
      | cons h' rest =>
          rw [clause_cons_cons]
          refine (takes hh kind ?_).bind (.orElse_left ?_)
          · exact pauses_text rfl (.inl rfl) _ _
          · refine (Reader.literal_takes " " _).bind ?_
            have hfuel' : (h' :: rest).length ≤ fuel := Nat.le_of_succ_le_succ hfuel
            have hrest := ih (List.cons_ne_nil _ _)
              (fun g hg => hlegible g (List.mem_cons_of_mem _ hg)) hfuel'
            exact hrest.map

end Hop

/-- The joins of a clause, if all of it can be read. -/
def readJoins (clause : String) : Option (List (JoinKind × Hop)) :=
  (Reader.hops clause.length).all clause

/-- A clause is read as its joins. -/
theorem readJoins_clause {quote : Bool} {hops : List Hop} (hne : hops ≠ [])
    (hlegible : ∀ h ∈ hops, h.Legible quote) (kind : JoinKind) :
    readJoins (Hop.clause quote kind hops) = some (hops.map (kind, ·)) :=
  (Hop.allTake hne hlegible (Hop.length_le_clause quote kind hops)).all

/-! ## Conditions for a key -/

namespace KeyCondition

def text (quote : Bool) : KeyCondition → String
  | .equals column => column.text quote ++ " = ?"
  | .listed column selected table keyed =>
    column.text quote ++ " IN (SELECT " ++ selected.text quote ++ " FROM " ++ tableName quote table
      ++ " WHERE " ++ keyed.text quote ++ " = ?)"

/-- All names of the condition can be read as they are written. -/
def Legible (quote : Bool) : KeyCondition → Prop
  | .equals column => column.Legible quote
  | .listed column selected table keyed => column.Legible quote ∧ selected.Legible quote
    ∧ Sql.Legible quote table ∧ keyed.Legible quote

end KeyCondition

def Reader.keyCondition : Reader KeyCondition := do
  let column ← column
  (do literal " = ?"; return .equals column) <|> (do
    literal " IN (SELECT "
    let selected ← Reader.column
    literal " FROM "
    let table ← name
    literal " WHERE "
    let keyed ← Reader.column
    literal " = ?)"
    return .listed column selected table keyed)

/-- The condition for a key, if all of the text can be read. -/
def KeyCondition.read (text : String) : Option KeyCondition := Reader.keyCondition.all text

/-- A condition for a key is read as it was meant. -/
theorem KeyCondition.read_text {quote : Bool} {c : KeyCondition} (h : c.Legible quote) :
    read (c.text quote) = some c := by
  cases c with
  | equals column =>
      have hcolumn : Reader.column.Takes (column.text quote) column (" = ?".toList ++ []) :=
        ColumnAt.takes h (pauses_cons (.inl rfl) _)
      have hequals := (Reader.literal_takes " = ?" []).map (f := fun _ => equals column)
      exact (hcolumn.bind hequals.orElse_left).all
  | listed column selected table keyed =>
      obtain ⟨hcolumn, hselected, htable, hkeyed⟩ := h
      have hkeyed : Reader.column.Takes (keyed.text quote) keyed (" = ?)".toList ++ []) :=
        ColumnAt.takes hkeyed (pauses_cons (.inl rfl) _)
      refine Reader.Takes.all ?_
      simp only [text, String.append_assoc]
      refine (ColumnAt.takes hcolumn (pauses_text rfl (.inl rfl) _ _)).bind ?_
      refine .orElse_right (Reader.literal_fails ?_ _) ?_
      -- A list begins with another word than an equation.
      · rw [String.toList_append, List.append_assoc]
        rfl
      refine (Reader.literal_takes _ _).bind ?_
      refine (ColumnAt.takes hselected (pauses_text rfl (.inl rfl) _ _)).bind ?_
      refine (Reader.literal_takes _ _).bind ?_
      refine (Reader.name_takes htable (pauses_text rfl (.inl rfl) _ _)).bind ?_
      refine (Reader.literal_takes _ _).bind ?_
      refine hkeyed.bind ?_
      exact (Reader.literal_takes _ _).map

end Criteria.Sql
