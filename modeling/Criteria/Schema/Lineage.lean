import Criteria.Schema.Model

/-!
# Lineages

A type, its parent, the parent of that, and so on. Every lookup climbs
the lineage of a type and takes the nearest answer.

A number that no registration has issued is a broken promise of the
caller. Since a lookup stops at its answer, such a number is met only by
a lookup that climbs as far as it.
-/

namespace Criteria

/-- The types up to one without a parent, or up to a number that was
never issued. -/
structure Lineage where
  types : List (ModelId × Model)
  unissued : Option ModelId := none

namespace Lineage

/-- The lineage from a number on, as far as the fuel reaches. -/
def climb (models : Array Model) : Nat → ModelId → Lineage
  | 0, _ => { types := [] }
  | fuel + 1, id =>
    match models[id.index]? with
    | none => { types := [], unissued := some id }
    | some m =>
      match m.parent with
      | none => { types := [(id, m)] }
      | some parent =>
        let above := climb models fuel parent
        { above with types := (id, m) :: above.types }

/-- The nearest answer of a type in the lineage. -/
def findSome? {β : Type} (l : Lineage) (f : Model → Option β) : Except Failure (Option β) :=
  match l.types.findSome? (fun t => f t.2), l.unissued with
  | some b, _ => .ok (some b)
  | none, none => .ok none
  | none, some id => .error (.broken (.unissuedModel id.index))

/-- All types of the lineage, the nearest first. -/
def all (l : Lineage) : Except Failure (List (ModelId × Model)) :=
  match l.unissued with
  | none => .ok l.types
  | some id => .error (.broken (.unissuedModel id.index))

/-- A type that satisfies the test was met before the end. -/
def any (l : Lineage) (test : Model → Bool) : Bool := l.types.any fun t => test t.2

end Lineage

end Criteria
