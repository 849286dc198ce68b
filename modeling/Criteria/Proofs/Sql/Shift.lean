import Criteria.Proofs.Sql.Template

/-!
# Conditions after other values

What comes after `k` more values has all its placeholders shifted by `k`,
and nothing else of it changes: its template is the same
(`Condition.template_shift`), filled in from further on
(`Condition.texts_shift_eq_fillAll`).
-/

namespace Criteria.Sql

def TestForm.shift (k : Nat) : TestForm → TestForm
  | .isNull => .isNull
  | .between start finish => .between (k + start) (k + finish)
  | .inList n => .inList (k + n)
  | .like n => .like (k + n)
  | .compare c n => .compare c (k + n)

theorem TestForm.numbers_shift (k : Nat) (f : TestForm) :
    (f.shift k).numbers = f.numbers.map (k + ·) := by
  cases f <;> rfl

namespace Condition

mutual

/-- The condition after `k` more values. -/
def shift (k : Nat) : Condition → Condition
  | .given text bound count => .given text (k + bound) count
  | .test t => .test { t with form := t.form.shift k }
  | .not c => .not (shift k c)
  | .joined connective parts => .joined connective (shiftAll k parts)
termination_by structural c => c

def shiftAll (k : Nat) : List Condition → List Condition
  | [] => []
  | c :: rest => shift k c :: shiftAll k rest
termination_by structural l => l

end

theorem shiftAll_eq_map (k : Nat) (parts : List Condition) :
    shiftAll k parts = parts.map (shift k) := by
  induction parts with
  | nil => rfl
  | cons c rest ih => rw [shiftAll, ih, List.map_cons]

theorem combine_shift (k : Nat) (connective : Connective) (parts : List Condition) :
    combine connective (parts.map (shift k)) = (combine connective parts).map (shift k) := by
  match parts with
  | [] => rfl
  | [_] => rfl
  | c :: d :: rest =>
      rw [← shiftAll_eq_map]
      rfl

theorem negateIf_shift (k : Nat) (negated : Bool) (c : Condition) :
    negateIf negated (c.shift k) = (negateIf negated c).shift k := by
  cases negated <;> rfl

theorem test_template_shift (quote : Bool) (k : Nat) (t : Test) :
    Test.template quote { t with form := t.form.shift k } = t.template quote := by
  unfold Test.template
  cases t.form <;> rfl

mutual

/-- A template knows nothing of the numbers. -/
theorem template_shift (quote : Bool) (k : Nat) : ∀ c : Condition,
    (c.shift k).template quote = c.template quote
  | .given .. => rfl
  | .test t => test_template_shift quote k t
  | .not c => by rw [shift, template, template, template_shift quote k c]
  | .joined connective parts => joinedTemplate_shift quote k connective parts

theorem joinedTemplate_shift (quote : Bool) (k : Nat) (connective : Connective) :
    ∀ parts : List Condition, joinedTemplate quote connective (shiftAll k parts)
      = joinedTemplate quote connective parts
  | [] => rfl
  | c :: rest => by
      have hempty : (shiftAll k rest).isEmpty = rest.isEmpty := by cases rest <;> rfl
      rw [shiftAll, joinedTemplate, joinedTemplate, template_shift quote k c, hempty,
        joinedTemplate_shift quote k connective rest]

end

mutual

theorem leaves_shift (k : Nat) : ∀ c : Condition, (c.shift k).leaves = c.leaves.map (shift k)
  | .given .. => rfl
  | .test _ => rfl
  | .not c => leaves_shift k c
  | .joined _ parts => allLeaves_shiftAll k parts

theorem allLeaves_shiftAll (k : Nat) : ∀ parts : List Condition,
    allLeaves (shiftAll k parts) = (allLeaves parts).map (shift k)
  | [] => rfl
  | c :: rest => by
      rw [shiftAll, allLeaves, allLeaves, List.map_append, leaves_shift k c,
        allLeaves_shiftAll k rest]

end

theorem numbers_shift (k : Nat) (c : Condition) : (c.shift k).numbers = c.numbers.map (k + ·) := by
  cases c with
  | given text bound count =>
      rw [shift, numbers, numbers, List.map_add_range', Nat.add_assoc]
  | test t => exact t.form.numbers_shift k
  | not c => rfl
  | joined connective parts => rfl

theorem regular_shift {quote : Bool} {leaf : Condition} (h : leaf.Regular quote) (k : Nat) :
    (leaf.shift k).Regular quote := by
  rw [Regular, numbers_shift, template_shift, List.length_map]
  exact h

theorem allLeaves_map_shift (k : Nat) (parts : List Condition) :
    allLeaves (parts.map (shift k)) = (allLeaves parts).map (shift k) := by
  rw [← shiftAll_eq_map, allLeaves_shiftAll]

/-- Placeholders that are numbered from one on come after `k` others. -/
theorem numbers_map_shift (k : Nat) {parts : List Condition} {count : Nat}
    (h : (allLeaves parts).flatMap numbers = List.range' 1 count) :
    (allLeaves (parts.map (shift k))).flatMap numbers = List.range' (k + 1) count := by
  have hnumbers : (allLeaves (parts.map (shift k))).flatMap numbers
      = ((allLeaves parts).flatMap numbers).map (k + ·) := by
    simp only [allLeaves_map_shift, List.flatMap_map, numbers_shift, List.map_flatMap]
  rw [hnumbers, h, List.map_add_range']

theorem columns_map_shift (k : Nat) (parts : List Condition) :
    (allLeaves (parts.map (shift k))).filterMap column?
      = (allLeaves parts).filterMap column? := by
  have hcolumn : column? ∘ shift k = column? := by
    funext c
    cases c <;> rfl
  rw [allLeaves_map_shift, List.filterMap_map, hcolumn]

/-- The texts of shifted parts, filled in from further on. -/
theorem texts_shift_eq_fillAll {config : Config} (k : Nat) {parts : List Condition}
    (h : ∀ leaf ∈ allLeaves parts, leaf.Regular config.quoteTables)
    (hn : (allLeaves parts).flatMap numbers
      = List.range' 1 ((allLeaves parts).flatMap numbers).length) :
    (parts.map (shift k)).map (text config) = Template.fillAll config.placeholders.placeholder k
      (parts.map (template config.quoteTables)) := by
  have htemplates : (parts.map (shift k)).map (template config.quoteTables)
      = parts.map (template config.quoteTables) := by
    simp only [List.map_map, Function.comp_def, template_shift]
  have hregular : ∀ leaf ∈ allLeaves (parts.map (shift k)), leaf.Regular config.quoteTables := by
    intro leaf hleaf
    rw [allLeaves_map_shift] at hleaf
    obtain ⟨c, hc, rfl⟩ := List.mem_map.mp hleaf
    exact regular_shift (h c hc) k
  have hnumbers := numbers_map_shift k hn
  have hrange : (allLeaves (parts.map (shift k))).flatMap numbers
      = List.range' (k + 1) ((allLeaves (parts.map (shift k))).flatMap numbers).length := by
    rw [hnumbers, List.length_range']
  rw [texts_eq_fillAll hregular hrange, htemplates]

end Condition

end Criteria.Sql
