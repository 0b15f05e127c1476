import GeoSearch.Predicate.Basic
import GeoSearch.Schema.Basic
/-!
Predicates as trees: combinations above, and below them the leaves that look at a feature, at the fields
of their operands.
-/
namespace GeoSearch.Predicate

/-- Looks at a feature itself. -/
def isLeaf : Predicate → Bool
  | .everything => false
  | .nothing => false
  | .and _ => false
  | .or _ => false
  | .not _ => false
  | _ => true

mutual

def leaves : Predicate → List Predicate
  | .everything => []
  | .nothing => []
  | .and children => allLeaves children
  | .or children => allLeaves children
  | .not child => leaves child
  | leaf => [leaf]

def allLeaves : List Predicate → List Predicate
  | [] => []
  | child :: rest => leaves child ++ allLeaves rest

end

theorem allLeaves_eq_flatMap (children : List Predicate) :
    allLeaves children = children.flatMap leaves := by
  induction children with
  | nil => rfl
  | cons child rest ih => simp [allLeaves, ih]

theorem leaves_of_isLeaf {p : Predicate} (leaf : p.isLeaf) : p.leaves = [p] := by
  cases p <;> first | rfl | cases leaf

/-- What holds of all leaves and is kept by every combination holds of all trees. -/
@[elab_as_elim]
theorem tree_induction {motive : Predicate → Prop}
    (everything : motive .everything) (nothing : motive .nothing)
    (and : ∀ children, (∀ child ∈ children, motive child) → motive (.and children))
    (or : ∀ children, (∀ child ∈ children, motive child) → motive (.or children))
    (not : ∀ child, motive child → motive (.not child))
    (leaf : ∀ p, p.isLeaf → motive p) : ∀ p, motive p
  | .everything => everything
  | .nothing => nothing
  | .and children => and children fun child _ =>
    tree_induction everything nothing and or not leaf child
  | .or children => or children fun child _ =>
    tree_induction everything nothing and or not leaf child
  | .not child => not child (tree_induction everything nothing and or not leaf child)
  | .compare relation left right => leaf (.compare relation left right) rfl
  | .between operand lower upper => leaf (.between operand lower upper) rfl
  | .like operand pattern wildcards => leaf (.like operand pattern wildcards) rfl
  | .isNull operand => leaf (.isNull operand) rfl
  | .ids identifiers => leaf (.ids identifiers) rfl
  | .spatial relation left right => leaf (.spatial relation left right) rfl
  | .distance relation left right limit units => leaf (.distance relation left right limit units) rfl
  | .temporal relation left right => leaf (.temporal relation left right) rfl

/-! ### Fields -/

def operands : Predicate → List Operand
  | .compare _ left right => [left, right]
  | .between operand lower upper => [operand, lower, upper]
  | .like operand _ _ => [operand]
  | .isNull operand => [operand]
  | .spatial _ left right => [left, right]
  | .distance _ left right _ _ => [left, right]
  | .temporal _ left right => [left, right]
  | _ => []

/-- The fields of all properties that stand in the leaves of a tree. -/
def fields (type : FeatureType) (p : Predicate) : List String :=
  (p.leaves.flatMap operands).filterMap fun operand =>
    operand.property?.map fun name => (type.resolve name).field

end GeoSearch.Predicate
