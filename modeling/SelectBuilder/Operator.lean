import SelectBuilder.BuildError

namespace SelectBuilder

/-- How a target is compared with a term. -/
inductive Operator where
  | equal
  | notEqual
  | lessThan
  | lessOrEqual
  | greaterThan
  | greaterOrEqual
  | member
  | notMember
  | like
  | notLike
deriving DecidableEq, Repr

namespace Operator

def all : List Operator :=
  [.equal, .notEqual, .lessThan, .lessOrEqual, .greaterThan, .greaterOrEqual,
    .member, .notMember, .like, .notLike]

theorem mem_all (operator : Operator) : operator ∈ all := by
  cases operator <;> decide

/-- The name by which a filter asks for an operator. -/
def name : Operator -> String
  | .equal => "equal"
  | .notEqual => "not_equal"
  | .lessThan => "less_than"
  | .lessOrEqual => "less_than_or_equal_to"
  | .greaterThan => "greater_than"
  | .greaterOrEqual => "greater_than_or_equal_to"
  | .member => "in"
  | .notMember => "not_in"
  | .like => "like"
  | .notLike => "not_like"

def sql : Operator -> String
  | .equal => "="
  | .notEqual => "!="
  | .lessThan => "<"
  | .lessOrEqual => "<="
  | .greaterThan => ">"
  | .greaterOrEqual => ">="
  | .member => "IN"
  | .notMember => "NOT IN"
  | .like => "LIKE"
  | .notLike => "NOT LIKE"

/-- The operators whose right side is always a list. -/
def isMembership : Operator -> Bool
  | .member | .notMember => true
  | _ => false

/-- The operator of exactly this name. -/
def ofName? (name : String) : Option Operator :=
  all.find? fun operator => operator.name = name

theorem ofName?_name (operator : Operator) : ofName? operator.name = some operator := by
  cases operator <;> decide

/-- A name outside the ten known ones is refused as it was given. -/
def ofName (name : String) : Except BuildError Operator :=
  match ofName? name with
  | some operator => .ok operator
  | none => .error (.invalidOperator name)

end Operator
end SelectBuilder
