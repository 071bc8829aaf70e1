import Mathlib.Data.List.Basic
import SelectBuilder.Proofs.ConditionTree
import SelectBuilder.Query.Statement

namespace SelectBuilder

/-!
# The values that a query binds

Which values become parameters, and in which order, can be told from the
conditions alone, without writing any of them: first those of the joins, join
after join, then those of the `WHERE` clause, and in each condition those of its
comparisons from left to right.  The statement binds exactly these.
-/

/-- Numbers stand bare, alone or among each other.  Any other value is bound,
and in a list it has all the others bound with it. -/
def Term.boundValues : Term -> List Value
  | .null | .raw _ => []
  | .scalar value => if value.isNumeric then [] else [value]
  | .list values => if values.all Value.isNumeric then [] else values

def Condition.boundValues (condition : Condition) : List Value :=
  condition.comparisons.flatMap fun comparison => comparison.term.boundValues

namespace Query

/-- The values in the conditions of the joins, in the order of the joins. -/
def onValues (query : Query) : List Value :=
  query.joins.flatMap fun join => join.condition.boundValues

/-- The values in the conditions of the `WHERE` clause. -/
def whereValues (query : Query) : List Value :=
  query.conditions.flatMap Condition.boundValues

end Query

/-! ## Clauses without values -/

/-- A fragment without any value in it. -/
def Fragment.IsText (fragment : Fragment) : Prop :=
  forall piece, piece ∈ fragment -> ∃ sql, piece = .text sql

namespace Fragment.IsText

theorem nil : IsText [] := fun _ member => by cases member

theorem single (sql : String) : IsText [.text sql] := by
  intro piece member
  exact ⟨sql, List.mem_singleton.mp member⟩

theorem append {first second : Fragment} (left : IsText first) (right : IsText second) :
    IsText (first ++ second) := by
  intro piece member
  rcases List.mem_append.mp member with front | back
  · exact left piece front
  · exact right piece back

theorem parameters {fragment : Fragment} (isText : IsText fragment) :
    fragment.parameters .prepared = [] := by
  apply List.flatMap_eq_nil_iff.mpr
  intro piece member
  rcases isText piece member with ⟨sql, rfl⟩
  rfl

end Fragment.IsText

namespace Query

/-- The statement up to the joins. -/
def opening (query : Query) : Fragment :=
  query.selectClause ++ query.fromClause

/-- The statement behind its conditions. -/
def ending (query : Query) : Fragment :=
  query.groupClause ++ query.orderClause ++ query.limitClause ++ query.offsetClause

theorem fragment_eq (query : Query) :
    query.fragment = query.opening ++ query.joinClauses ++ query.whereClause ++ query.ending := by
  simp [fragment, opening, ending]

theorem isText_opening (query : Query) : query.opening.IsText :=
  (Fragment.IsText.single _).append (.single _)

theorem isText_ending (query : Query) : query.ending.IsText := by
  have group : query.groupClause.IsText := by
    unfold groupClause
    split
    · exact .nil
    · exact .single _
  have order : query.orderClause.IsText := by
    unfold orderClause
    split
    · exact .nil
    · exact .single _
  have limit : query.limitClause.IsText := by
    unfold limitClause
    cases query.limit with
    | none => exact .nil
    | some number => exact .single _
  have offset : query.offsetClause.IsText := by
    unfold offsetClause
    cases query.offset with
    | none => exact .nil
    | some number => exact .single _
  exact ((group.append order).append limit).append offset

end Query

/-! ## What the writers bind -/

theorem Fragment.parameters_inline (formatter : Value -> String) (fragment : Fragment) :
    fragment.parameters (.inline formatter) = [] := by
  apply List.flatMap_eq_nil_iff.mpr
  intro piece _
  cases piece <;> rfl

theorem Value.parameters_listFragment (values : List Value) :
    (listFragment values).parameters .prepared =
      if values.all isNumeric then [] else values := by
  rw [listFragment, Fragment.parameters_separated, List.flatMap_map]
  cases values.all isNumeric with
  | true => exact List.flatMap_eq_nil_iff.mpr fun _ _ => rfl
  | false => exact List.flatMap_singleton' values

theorem Term.parameters_fragment (term : Term) :
    term.fragment.parameters .prepared = term.boundValues := by
  cases term with
  | null => rfl
  | raw sql => rfl
  | scalar value =>
      rw [fragment, Value.fragment, boundValues]
      cases value.isNumeric <;> rfl
  | list values => exact Value.parameters_listFragment values

theorem Comparison.parameters_fragment (comparison : Comparison) :
    comparison.fragment.parameters .prepared = comparison.term.boundValues := by
  rcases comparison with ⟨target, operator, term⟩
  refine fragment_cases
    (motive := fun _ term fragment => fragment.parameters .prepared = term.boundValues)
    ?noMember ?everyMember ?isNull ?isNotNull ?tuple ?single operator term
  case tuple =>
    intro operator term _
    rw [← term.parameters_fragment]
    simp [Fragment.parameters, Piece.parameters]
  case single =>
    intro operator term _ _ _
    rw [← term.parameters_fragment]
    simp [Fragment.parameters, Piece.parameters]
  all_goals rfl

theorem Condition.boundValues_group (junction : Junction) (children : List Condition) :
    (group junction children).boundValues = children.flatMap boundValues := by
  rw [boundValues, comparisons_group, List.flatMap_assoc]
  rfl

theorem Condition.boundValues_of_isEmpty {condition : Condition}
    (empty : condition.isEmpty = true) : condition.boundValues = [] := by
  rw [boundValues, condition.isEmpty_iff.mp empty, List.flatMap_nil]

/-- Members that are not seen have no values to lose. -/
theorem Condition.flatMap_boundValues_filter (children : List Condition) :
    (children.filter fun child => !child.isEmpty).flatMap boundValues =
      children.flatMap boundValues := by
  unfold boundValues
  rw [← List.flatMap_assoc, flatMap_comparisons_filter, List.flatMap_assoc]

/-- A condition binds the values of its comparisons, nested or not. -/
theorem Condition.parameters_fragment (nested : Bool) (condition : Condition) :
    (condition.fragment nested).parameters .prepared = condition.boundValues := by
  induction condition using Condition.induction generalizing nested with
  | compare comparison =>
      rw [fragment, comparison.parameters_fragment, boundValues, comparisons,
        List.flatMap_singleton]
  | group junction children ih =>
      rw [fragment_group]
      cases empty : (group junction children).isEmpty with
      | true => exact (boundValues_of_isEmpty empty).symm
      | false =>
          have members : ((children.filter fun child => !child.isEmpty).map
              (fragment true)).flatMap (Fragment.parameters .prepared) =
                children.flatMap boundValues := by
            rw [List.flatMap_map, ← flatMap_boundValues_filter]
            apply List.flatMap_congr
            intro child member
            exact ih child (List.mem_filter.mp member).1 true
          have inside : (Fragment.separated junction.sql ((children.filter fun child =>
              !child.isEmpty).map (fragment true))).parameters .prepared =
                (group junction children).boundValues := by
            rw [Fragment.parameters_separated, members, boundValues_group]
          rw [if_neg Bool.false_ne_true, ← inside]
          cases nested <;> simp [Fragment.parameters, Piece.parameters]

theorem Join.parameters_fragment (database : Option String) (join : Join) :
    (join.fragment database).parameters .prepared = join.condition.boundValues := by
  rw [fragment, Fragment.parameters_cons, join.condition.parameters_fragment]
  rfl

namespace Query

theorem parameters_joinClauses (query : Query) :
    query.joinClauses.parameters .prepared = query.onValues := by
  unfold joinClauses onValues Fragment.parameters
  rw [List.flatMap_assoc]
  apply List.flatMap_congr
  intro join _
  exact join.parameters_fragment query.database

theorem parameters_whereClause (query : Query) :
    query.whereClause.parameters .prepared = query.whereValues := by
  have group := (Condition.group .and query.conditions).parameters_fragment false
  rw [Condition.boundValues_group] at group
  unfold whereClause whereValues
  simp only
  rw [← group]
  cases empty : (Condition.group .and query.conditions).isEmpty with
  | true => rw [if_pos rfl, group, ← Condition.boundValues_group .and,
      Condition.boundValues_of_isEmpty empty]; rfl
  | false => rfl

/-- Only the joins and the `WHERE` clause have values in them. -/
theorem parameters_fragment (query : Query) :
    query.fragment.parameters .prepared = query.onValues ++ query.whereValues := by
  rw [fragment_eq, Fragment.parameters_append, Fragment.parameters_append,
    Fragment.parameters_append, query.isText_opening.parameters, query.isText_ending.parameters,
    parameters_joinClauses, parameters_whereClause, List.nil_append, List.append_nil]

end Query
end SelectBuilder
