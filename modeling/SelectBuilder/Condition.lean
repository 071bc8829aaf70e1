import SelectBuilder.Column
import SelectBuilder.Fragment
import SelectBuilder.Operator

namespace SelectBuilder

/-!
# Conditions

A condition is a comparison, or a group of conditions that hold together or
in the alternative.  Groups without a comparison anywhere are invisible: they
write nothing, and their parent writes no junction for them.  Every group but
the outermost is parenthesized, so AND and OR never meet on one level.
-/

/-- A target compared with a term. -/
structure Comparison where
  target : Target
  operator : Operator
  term : Term
deriving DecidableEq, Repr

namespace Comparison

/-- Nothing is a member of the empty list, whatever the target, so such a
comparison is a constant.  Equality with `NULL` has words of its own. -/
def fragment (comparison : Comparison) : Fragment :=
  let target := Piece.text comparison.target.sql
  let operator := comparison.operator.sql
  match comparison.operator, comparison.term with
  | .member, .list [] => [.text "1=0"]
  | .notMember, .list [] => [.text "1=1"]
  | .equal, .null => [target, .text " IS NULL"]
  | .notEqual, .null => [target, .text " IS NOT NULL"]
  | .member, term | .notMember, term | _, term@(.list _) =>
      [target, .text (" " ++ operator ++ " (")] ++ term.fragment ++ [.text ")"]
  | _, term => [target, .text (" " ++ operator ++ " ")] ++ term.fragment

def agrees (first second : Comparison) : Bool :=
  first.target = second.target && first.operator = second.operator
    && first.term.agrees second.term

end Comparison

/-- How the members of a group belong together. -/
inductive Junction where
  | and
  | or
deriving DecidableEq, Repr

def Junction.sql : Junction -> String
  | .and => " AND "
  | .or => " OR "

inductive Condition where
  | compare (comparison : Comparison)
  | group (junction : Junction) (children : List Condition)
deriving Repr

namespace Condition

mutual

/-- A condition is empty when there is no comparison in it. -/
def isEmpty : Condition -> Bool
  | .compare _ => false
  | .group _ children => allEmpty children

def allEmpty : List Condition -> Bool
  | [] => true
  | child :: rest => isEmpty child && allEmpty rest

end

theorem allEmpty_eq_all (children : List Condition) :
    allEmpty children = children.all isEmpty := by
  induction children with
  | nil => rfl
  | cons child rest ih => simp [allEmpty, ih]

mutual

/-- A condition as SQL; a nested group stands in parentheses. -/
def fragment (nested : Bool) : Condition -> Fragment
  | .compare comparison => comparison.fragment
  | .group junction children =>
      if allEmpty children then []
      else
        let inside := Fragment.separated junction.sql (visible children)
        if nested then Piece.text "(" :: (inside ++ [Piece.text ")"]) else inside

/-- The members of a group that are to be seen, each as nested SQL. -/
def visible : List Condition -> List Fragment
  | [] => []
  | child :: rest =>
      if isEmpty child then visible rest else fragment true child :: visible rest

end

theorem visible_eq_map_filter (children : List Condition) :
    visible children = (children.filter fun child => !child.isEmpty).map (fragment true) := by
  induction children with
  | nil => rfl
  | cons child rest ih => cases empty : child.isEmpty <;> simp [visible, empty, ih]

/-- A condition as a clause of its own. -/
def build (mode : RenderMode) (condition : Condition) : Statement :=
  (condition.fragment false).build mode

mutual

/-- Conditions of one shape with agreeing comparisons agree. -/
def agrees : Condition -> Condition -> Bool
  | .compare first, .compare second => first.agrees second
  | .group junction children, .group otherJunction others =>
      junction = otherJunction && agreeAll children others
  | _, _ => false

def agreeAll : List Condition -> List Condition -> Bool
  | [], [] => true
  | child :: rest, other :: others => agrees child other && agreeAll rest others
  | _, _ => false

end

end Condition
end SelectBuilder
