import SelectBuilder.Proofs.ColumnReading
import SelectBuilder.Proofs.ConditionTree
import SelectBuilder.Query

namespace SelectBuilder

/-!
# The names that a query mentions

Each part of a query mentions names: a column its table's and its own, a
selection also its alias, a join its database, its table and its alias.  The
wildcard is no name, and a comparison that is a constant mentions none.

Raw SQL is the caller's, and nothing is known of the names in it.  The one
exception is the foreign column of a join, which is quoted already when it
becomes a term.  A query is *named* when there is no other raw SQL in it.
-/

/-! ## Names -/

def Column.names (column : Column) : List String :=
  column.table.toList ++ if column.name = "*" then [] else [column.name]

/-- Raw SQL mentions names only when it is one whole column. -/
def rawNames (sql : String) : List String :=
  match Column.read sql.toList with
  | some (column, []) => column.names
  | _ => []

def Target.names : Target -> List String
  | .column reference => reference.names
  | .raw sql => rawNames sql

def Term.names : Term -> List String
  | .raw sql => rawNames sql
  | _ => []

/-- Membership in no values is a constant, and the target is not written. -/
def Comparison.names (comparison : Comparison) : List String :=
  if comparison.operator.isMembership ∧ comparison.term = .list [] then []
  else comparison.target.names ++ comparison.term.names

theorem Comparison.names_of_not_constant {target : Target} {operator : Operator} {term : Term}
    (written : ¬ (operator.isMembership = true ∧ term = .list [])) :
    Comparison.names ⟨target, operator, term⟩ = target.names ++ term.names :=
  if_neg written

def Condition.names (condition : Condition) : List String :=
  condition.comparisons.flatMap Comparison.names

theorem Condition.names_group (junction : Junction) (children : List Condition) :
    (group junction children).names = children.flatMap names := by
  unfold names
  rw [comparisons_group, List.flatMap_assoc]

def Selection.names (selection : Selection) : List String :=
  selection.target.names ++ selection.aliasName.toList

def Join.names (database : Option String) (join : Join) : List String :=
  database.toList ++ [join.table, join.aliasName] ++ join.condition.names

/-- The names of a query's statement, clause by clause.  Without selections
all columns of the base table are selected. -/
def Query.names (query : Query) : List String :=
  (if query.selections.isEmpty then [query.base] else query.selections.flatMap Selection.names)
    ++ [query.base]
    ++ query.joins.flatMap (Join.names query.database)
    ++ query.conditions.flatMap Condition.names
    ++ query.grouping.flatMap Target.names
    ++ query.ordering.flatMap fun entry => entry.1.names

theorem rawNames_sql (column : Column) : rawNames column.sql = column.names := by
  have read := column.read_sql [] (by simp) (by simp)
  rw [List.append_nil] at read
  rw [rawNames, read]

/-! ## Parts without raw SQL -/

def Target.IsColumn : Target -> Prop
  | .column _ => True
  | .raw _ => False

def Term.IsNamed : Term -> Prop
  | .raw sql => ∃ column : Column, sql = column.sql
  | _ => True

structure Comparison.IsNamed (comparison : Comparison) : Prop where
  target : comparison.target.IsColumn
  term : comparison.term.IsNamed

def Condition.IsNamed (condition : Condition) : Prop :=
  forall comparison, comparison ∈ condition.comparisons -> comparison.IsNamed

theorem Condition.isNamed_group (junction : Junction) {children : List Condition}
    (each : forall child, child ∈ children -> child.IsNamed) :
    (Condition.group junction children).IsNamed :=
  forall_mem_comparisons_group junction each

theorem Condition.isNamed_of_mem {junction : Junction} {children : List Condition}
    (named : (Condition.group junction children).IsNamed) {child : Condition}
    (among : child ∈ children) : child.IsNamed := by
  intro comparison inside
  apply named comparison
  rw [comparisons_group]
  exact List.mem_flatMap.mpr ⟨child, among, inside⟩

/-- A query without raw SQL, in the scopes that are still open too. -/
structure Query.IsNamed (query : Query) : Prop where
  selections : forall selection, selection ∈ query.selections -> selection.target.IsColumn
  joins : forall join, join ∈ query.joins -> join.condition.IsNamed
  conditions : forall condition, condition ∈ query.conditions -> condition.IsNamed
  scopes : forall scope, scope ∈ query.scopes ->
    forall condition, condition ∈ scope -> condition.IsNamed
  grouping : forall target, target ∈ query.grouping -> target.IsColumn
  ordering : forall entry, entry ∈ query.ordering -> entry.1.IsColumn

end SelectBuilder
