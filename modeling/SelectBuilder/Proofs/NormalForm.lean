import SelectBuilder.Proofs.ConditionTree
import SelectBuilder.Proofs.Numeral

namespace SelectBuilder

/-!
# What a condition says

A formula is a condition without anything that cannot be seen in SQL.  Groups
without a comparison are gone, and so are groups around a single member.
Membership always has a list, and in no values it is a constant; equality with
`NULL` is a test; a number written bare is only the number.  Everything else
in a condition is kept: junctions, nesting, order, targets and operators.
-/

/-- One value on the right side of a comparison. -/
inductive Scalar where
  | null
  | number (number : Number)
  | value (value : Value)
  | raw (sql : String)
deriving DecidableEq, Repr

/-- The right side of a comparison. -/
inductive RightSide where
  | single (scalar : Scalar)
  | tuple (scalars : List Scalar)
deriving DecidableEq, Repr

inductive Formula where
  | constant (truth : Bool)
  | isNull (target : Target) (negated : Bool)
  | compare (target : Target) (operator : Operator) (right : RightSide)
  | group (junction : Junction) (members : List Formula)
deriving Repr

/-- Members that belong together.  One alone is no group, and none is nothing. -/
def Formula.ofMembers (junction : Junction) : List Formula -> Option Formula
  | [] => none
  | [only] => some only
  | members => some (.group junction members)

namespace Scalar

def ofValue (value : Value) : Scalar :=
  value.number?.elim (.value value) .number

/-- The values of a list are bare numbers only when all of them are. -/
def ofValues (values : List Value) : List Scalar :=
  if values.all Value.isNumeric then values.map ofValue else values.map .value

end Scalar

def Term.rightSide : Term -> RightSide
  | .null => .single .null
  | .scalar value => .single (.ofValue value)
  | .list values => .tuple (Scalar.ofValues values)
  | .raw sql => .single (.raw sql)

/-- A single value as the list of it alone. -/
def RightSide.asTuple : RightSide -> RightSide
  | .single scalar => .tuple [scalar]
  | .tuple scalars => .tuple scalars

def Comparison.normal (comparison : Comparison) : Formula :=
  match comparison.operator, comparison.term with
  | .member, .list [] => .constant false
  | .notMember, .list [] => .constant true
  | .equal, .null => .isNull comparison.target false
  | .notEqual, .null => .isNull comparison.target true
  | .member, term | .notMember, term =>
      .compare comparison.target comparison.operator term.rightSide.asTuple
  | operator, term => .compare comparison.target operator term.rightSide

namespace Condition

mutual

/-- The formula of a condition, if there is anything to be seen of it. -/
def normal : Condition -> Option Formula
  | .compare comparison => some comparison.normal
  | .group junction children => Formula.ofMembers junction (normals children)

def normals : List Condition -> List Formula
  | [] => []
  | child :: rest =>
      match normal child with
      | none => normals rest
      | some formula => formula :: normals rest

end

theorem normals_eq_filterMap (children : List Condition) :
    normals children = children.filterMap normal := by
  induction children with
  | nil => rfl
  | cons child rest ih =>
      rw [normals, List.filterMap_cons]
      cases normal child <;> simp [ih]

theorem normal_group (junction : Junction) (children : List Condition) :
    (group junction children).normal =
      Formula.ofMembers junction (children.filterMap normal) := by
  rw [normal, normals_eq_filterMap]

/-- There is a formula exactly when the condition is not empty. -/
theorem normal_eq_none_iff (condition : Condition) :
    condition.normal = none ↔ condition.isEmpty = true := by
  induction condition using induction with
  | compare comparison => simp [normal, isEmpty]
  | group junction children ih =>
      have members : Formula.ofMembers junction (children.filterMap normal) = none ↔
          children.filterMap normal = [] := by
        unfold Formula.ofMembers
        split <;> simp_all
      rw [normal_group, members, List.filterMap_eq_nil_iff, isEmpty, allEmpty_eq_all,
        List.all_eq_true]
      constructor
      · intro none child member
        exact (ih child member).mp (none child member)
      · intro empty child member
        exact (ih child member).mpr (empty child member)

theorem isEmpty_eq_false_of_normal {condition : Condition} {formula : Formula}
    (normal : condition.normal = some formula) : condition.isEmpty = false := by
  rw [← Bool.not_eq_true, ← normal_eq_none_iff, normal]
  exact Option.some_ne_none formula

end Condition
end SelectBuilder
