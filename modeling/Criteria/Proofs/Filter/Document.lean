import Criteria.Filter.Scope
import Criteria.Proofs.Filter.Restriction

/-!
# Filters as documents

A filter read from top to bottom: its restrictions and the associations
that it visits, each with the path of associations that leads there from
the subject. First comes the tree, depth first, a visit before the body
of its join; then the columns that rows are ordered by, and then those
they are grouped by, whose paths visit associations one after another.

Planning is a walk over this document (`Plan.Walk`), so what a plan binds
and joins, and in which order, can be said of the document alone.
-/

namespace Criteria

open Sql (Connective JoinKind)

/-! ## Visits -/

/-- An association visited at the end of a path of associations. -/
structure Visit where
  path : List String
  association : String
  kind : JoinKind
deriving DecidableEq, Repr

namespace Visit

/-- The path that ends with the association itself. -/
def target (v : Visit) : List String := v.path ++ [v.association]

/-- One more visit, unless somebody came the same way before. -/
def note (seen : List Visit) (v : Visit) : List Visit :=
  if v.target ∈ seen.map target then seen else seen ++ [v]

/-- The first visits along each path, in the order of the visits. -/
def firsts (visits : List Visit) : List Visit := visits.foldl note []

end Visit

/-! ## Sites -/

/-- What stands at one place of a document. -/
inductive Site where
  | restriction (path : List String) (r : Restriction)
  | visit (v : Visit)

namespace Site

def visit? : Site → Option Visit
  | .restriction .. => none
  | .visit v => some v

def restriction? : Site → Option (List String × Restriction)
  | .restriction path r => some (path, r)
  | .visit _ => none

end Site

mutual

def Node.sites (path : List String) : Node → List Site
  | .restriction r => [.restriction path r]
  | .group ⟨_, _, children⟩ => Node.allSites path children
  | .join association kind ⟨_, _, children⟩ =>
    .visit ⟨path, association, kind⟩ :: Node.allSites (path ++ [association]) children
termination_by structural n => n

def Node.allSites (path : List String) : List Node → List Site
  | [] => []
  | child :: rest => child.sites path ++ Node.allSites path rest
termination_by structural l => l

end

theorem Node.allSites_append (path : List String) (xs ys : List Node) :
    Node.allSites path (xs ++ ys) = Node.allSites path xs ++ Node.allSites path ys := by
  induction xs with
  | nil => rfl
  | cons x xs ih => rw [List.cons_append, Node.allSites, ih, Node.allSites, List.append_assoc]

/-- The visits of a walk along associations. -/
def Visit.along (path : List String) : List String → List Visit
  | [] => []
  | association :: rest =>
    ⟨path, association, .inner⟩ :: Visit.along (path ++ [association]) rest

def ColumnRef.visits : ColumnRef → List Visit
  | .path associations _ => Visit.along [] associations
  | _ => []

namespace Scope

/-- The sites of the tree. -/
def treeSites (scope : Scope) : List Site := Node.allSites [] scope.group.children

/-- The columns of the orders, then those of the groupings. -/
def columns (scope : Scope) : List ColumnRef :=
  scope.clauses.order.map (·.column) ++ scope.clauses.groupBy

def sites (scope : Scope) : List Site :=
  scope.treeSites ++ (scope.columns.flatMap ColumnRef.visits).map Site.visit

def visits (scope : Scope) : List Visit := scope.sites.filterMap Site.visit?

/-- The restrictions of the tree, each with the path of its join scope. -/
def restrictions (scope : Scope) : List (List String × Restriction) :=
  scope.treeSites.filterMap Site.restriction?

end Scope

/-! ## Operands -/

def Site.operands : Site → List Value
  | .restriction _ r => r.operands
  | .visit _ => []

/-- The operands of all restrictions, in the order of the document. -/
def Scope.operands (scope : Scope) : List Value :=
  scope.restrictions.flatMap (·.2.operands)

theorem flatMap_operands (sites : List Site) :
    sites.flatMap Site.operands
      = (sites.filterMap Site.restriction?).flatMap (·.2.operands) := by
  induction sites with
  | nil => rfl
  | cons site rest ih =>
      cases site with
      | restriction path r =>
          simp [Site.operands, Site.restriction?, ih]
      | visit v => simp [List.filterMap_cons, Site.operands, Site.restriction?, ih]

/-- Columns bind nothing. -/
theorem Scope.sites_operands (scope : Scope) :
    scope.sites.flatMap Site.operands = scope.operands := by
  have hvisits (vs : List Visit) : (vs.map Site.visit).flatMap Site.operands = [] := by
    rw [List.flatMap_map, List.flatMap_eq_nil_iff]
    exact fun _ _ => rfl
  rw [Scope.sites, List.flatMap_append, hvisits, List.append_nil, flatMap_operands,
    Scope.operands, Scope.restrictions]

end Criteria
