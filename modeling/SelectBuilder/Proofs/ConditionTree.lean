import SelectBuilder.Condition

namespace SelectBuilder

/-!
# Condition trees

What is proved of a condition follows its tree: once for a comparison, once
for a group whose members are known.  The comparisons of a tree, from left to
right, are all that is ever written of it besides junctions and parentheses.
-/

theorem Operator.isMembership_eq_false {operator : Operator}
    (notMember : operator = .member -> False) (notNotMember : operator = .notMember -> False) :
    operator.isMembership = false := by
  cases operator with
  | member => exact (notMember rfl).elim
  | notMember => exact (notNotMember rfl).elim
  | _ => rfl

/-- A comparison is written in one of six forms. -/
theorem Comparison.fragment_cases {target : Target} {motive : Operator -> Term -> Fragment -> Prop}
    (noMember : motive .member (.list []) [.text "1=0"])
    (everyMember : motive .notMember (.list []) [.text "1=1"])
    (isNull : motive .equal .null [.text target.sql, .text " IS NULL"])
    (isNotNull : motive .notEqual .null [.text target.sql, .text " IS NOT NULL"])
    (tuple : forall operator term,
      (if operator.isMembership then term ≠ .list [] else ∃ values, term = .list values) ->
      motive operator term
        ([.text target.sql, .text (" " ++ operator.sql ++ " (")] ++ term.fragment ++ [.text ")"]))
    (single : forall operator term, operator.isMembership = false ->
      (forall values, term ≠ .list values) ->
      (operator = .equal ∨ operator = .notEqual -> term ≠ .null) ->
      motive operator term
        ([.text target.sql, .text (" " ++ operator.sql ++ " ")] ++ term.fragment))
    (operator : Operator) (term : Term) :
    motive operator term (Comparison.fragment ⟨target, operator, term⟩) := by
  unfold Comparison.fragment
  simp only
  split
  · exact noMember
  · exact everyMember
  · exact isNull
  · exact isNotNull
  · next some => exact tuple .member term some
  · next some => exact tuple .notMember term some
  · next values _ _ notMember notNotMember =>
      have scalar := Operator.isMembership_eq_false notMember notNotMember
      exact tuple operator (.list values) (by rw [scalar]; exact ⟨values, rfl⟩)
  · next notMember notNotMember notList _ _ notNull notNotNull =>
      have scalar := Operator.isMembership_eq_false notMember notNotMember
      apply single operator term scalar notList
      intro equality null
      rcases equality with equal | notEqual
      · exact notNull equal null
      · exact notNotNull notEqual null

/-! ## Raw SQL -/

def Target.isRaw : Target -> Bool
  | .raw _ => true
  | _ => false

def Term.isRaw : Term -> Bool
  | .raw _ => true
  | _ => false

def Comparison.isRawFree (comparison : Comparison) : Bool :=
  !comparison.target.isRaw && !comparison.term.isRaw

namespace Condition

/-! ## Trees -/

theorem induction {motive : Condition -> Prop}
    (compare : forall comparison, motive (.compare comparison))
    (group : forall junction children, (forall child, child ∈ children -> motive child) ->
      motive (.group junction children)) (condition : Condition) : motive condition := by
  cases condition with
  | compare comparison => exact compare comparison
  | group junction children =>
      exact group junction children fun child member => induction compare group child
termination_by condition
decreasing_by
  simp only [Condition.group.sizeOf_spec]
  have smaller := List.sizeOf_lt_of_mem member
  omega

/-- The first condition is the second one, or stands in it at some depth. -/
inductive Within : Condition -> Condition -> Prop where
  | here (condition : Condition) : Within condition condition
  | deeper {inner child : Condition} {junction : Junction} {children : List Condition}
      (member : child ∈ children) (inside : Within inner child) :
      Within inner (.group junction children)

mutual

/-- The comparisons of a condition, from left to right. -/
def comparisons : Condition -> List Comparison
  | .compare comparison => [comparison]
  | .group _ children => allComparisons children

def allComparisons : List Condition -> List Comparison
  | [] => []
  | child :: rest => comparisons child ++ allComparisons rest

end

theorem allComparisons_eq_flatMap (children : List Condition) :
    allComparisons children = children.flatMap comparisons := by
  induction children with
  | nil => rfl
  | cons child rest ih => rw [allComparisons, ih, List.flatMap_cons]

theorem comparisons_group (junction : Junction) (children : List Condition) :
    (group junction children).comparisons = children.flatMap comparisons := by
  rw [comparisons, allComparisons_eq_flatMap]

/-- What holds of the comparisons of every member holds of those of the group. -/
theorem forall_mem_comparisons_group {property : Comparison -> Prop} (junction : Junction)
    {children : List Condition}
    (each : forall child, child ∈ children ->
      forall comparison, comparison ∈ child.comparisons -> property comparison) :
    forall comparison, comparison ∈ (group junction children).comparisons ->
      property comparison := by
  intro comparison member
  rw [comparisons_group] at member
  rcases List.mem_flatMap.mp member with ⟨child, among, inside⟩
  exact each child among comparison inside

/-- There is no raw SQL in any comparison. -/
def isRawFree (condition : Condition) : Bool :=
  condition.comparisons.all Comparison.isRawFree

theorem isRawFree_group (junction : Junction) (children : List Condition) :
    (group junction children).isRawFree = children.all isRawFree := by
  rw [isRawFree, comparisons_group, List.all_flatMap]
  rfl

/-- A condition is empty exactly when no comparison is in it. -/
theorem isEmpty_iff (condition : Condition) :
    condition.isEmpty = true ↔ condition.comparisons = [] := by
  induction condition using induction with
  | compare comparison => simp [isEmpty, comparisons]
  | group junction children ih =>
      rw [comparisons_group, isEmpty, allEmpty_eq_all, List.all_eq_true, List.flatMap_eq_nil_iff]
      constructor
      · intro empty child member
        exact (ih child member).mp (empty child member)
      · intro none child member
        exact (ih child member).mpr (none child member)

/-- Members that are not seen have no comparisons to lose. -/
theorem flatMap_comparisons_filter (children : List Condition) :
    (children.filter fun child => !child.isEmpty).flatMap comparisons =
      children.flatMap comparisons := by
  induction children with
  | nil => rfl
  | cons child rest ih =>
      cases empty : child.isEmpty with
      | true =>
          have none := child.isEmpty_iff.mp empty
          simp [empty, none, ih]
      | false => simp [empty, ih]

/-- A group as SQL, by its members that are to be seen. -/
theorem fragment_group (nested : Bool) (junction : Junction) (children : List Condition) :
    (group junction children).fragment nested =
      if (group junction children).isEmpty then []
      else
        let inside := Fragment.separated junction.sql
          ((children.filter fun child => !child.isEmpty).map (fragment true))
        if nested then Piece.text "(" :: (inside ++ [Piece.text ")"]) else inside := by
  rw [fragment, isEmpty, visible_eq_map_filter]

end Condition
end SelectBuilder
