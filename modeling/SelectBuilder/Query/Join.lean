import SelectBuilder.Query.Alias

namespace SelectBuilder

/-!
# Joining a table

A join is planned completely before anything of it is recorded: its kind, its
alias and both of its filters are checked in this order, and the first fault
is the error.  A refused join therefore leaves the query as it was, the
counters too.
-/

/-- The alias of a join, and where the search for the next one begins: an alias
of the caller's choice leaves the counter alone. -/
structure AliasChoice where
  aliasName : String
  nextCounter : Option Nat
deriving DecidableEq, Repr

/-- A join that has been found in order. -/
structure JoinPlan where
  join : Join
  nextCounter : Option Nat
  /-- The group of the conditions on the result, if there are any. -/
  group : Option Condition
  columns : List String
  groupBy : Option String

namespace Query

def chooseAlias (query : Query) (table : String) (name : Option String) : AliasChoice :=
  match name with
  | some name => ⟨name, none⟩
  | none =>
      let number := query.nextNumber table
      ⟨numberedAlias table number, some (number + 1)⟩

/-- The local column equals the foreign one. -/
def keyCondition (source aliasName : String) (foreignKey : ForeignKey) : Condition :=
  .compare
    ⟨.column ⟨some source, foreignKey.localColumn⟩, .equal,
      .raw (Identifier.qualify (some aliasName) foreignKey.foreign)⟩

def planJoin (query : Query) (table : String) (foreignKey : ForeignKey)
    (options : JoinOptions) : Except BuildError JoinPlan := do
  let kind ← options.kind.elim (.ok .inner) JoinKind.ofName
  let choice := query.chooseAlias table options.name
  if query.aliasInUse choice.aliasName then throw (.duplicateAlias choice.aliasName)
  let conditions ← options.conditions.compile choice.aliasName
  let group ← options.filter.compileGroup choice.aliasName
  let key := keyCondition (options.source.getD query.base) choice.aliasName foreignKey
  return {
    join := ⟨kind, table, choice.aliasName, .group .and (key :: conditions)⟩
    nextCounter := choice.nextCounter
    group := group
    columns := options.columns
    groupBy := options.groupBy }

/-- A field of a join, selected under the alias and its own name. -/
def selectField (aliasName : String) (query : Query) (field : String) : Query :=
  query.select (.qualified aliasName field) { aliasName := some (aliasName ++ "_" ++ field) }

/-- Record a planned join with all that it brings along: its conditions on the
result, its columns and its grouping. -/
def record (query : Query) (plan : JoinPlan) : Query :=
  let aliasName := plan.join.aliasName
  let counted := plan.nextCounter.elim query (query.setCounter plan.join.table)
  let joined := { counted with joins := counted.joins ++ [plan.join] }
  let filtered := plan.group.elim joined joined.pushCondition
  let selected := plan.columns.foldl (selectField aliasName) filtered
  plan.groupBy.elim selected fun column => selected.groupBy (.qualified aliasName column)

/-- A selected field of a join. -/
def fieldSelection (aliasName field : String) : Selection :=
  ⟨.column ⟨some aliasName, field⟩, none, some (aliasName ++ "_" ++ field)⟩

/-- The query with all of a planned join but its conditions on the result. -/
def attach (query : Query) (plan : JoinPlan) : Query :=
  let column (name : String) : Target := .column ⟨some plan.join.aliasName, name⟩
  { query with
    selections := query.selections ++ plan.columns.map (fieldSelection plan.join.aliasName)
    joins := query.joins ++ [plan.join]
    grouping := query.grouping ++ plan.groupBy.toList.map column
    counters := (plan.nextCounter.elim query (query.setCounter plan.join.table)).counters }

theorem foldl_selectField (aliasName : String) (columns : List String) (query : Query) :
    columns.foldl (selectField aliasName) query =
      { query with selections := query.selections ++ columns.map (fieldSelection aliasName) } := by
  induction columns generalizing query with
  | nil => simp
  | cons field rest ih =>
      rw [List.foldl_cons, ih]
      simp [selectField, select, fieldSelection, Key.resolve]

/-- The conditions of a join touch nothing that the rest of it touches. -/
theorem record_eq (query : Query) (plan : JoinPlan) :
    query.record plan =
      plan.group.elim (query.attach plan) (query.attach plan).pushCondition := by
  rcases plan with ⟨join, nextCounter, group, columns, groupByColumn⟩
  unfold record
  simp only [foldl_selectField]
  cases scopes : query.scopes <;> cases nextCounter <;> cases group <;> cases groupByColumn <;>
    simp [attach, pushCondition, setCounter, groupBy, Key.resolve, scopes]

/-- Record a planned join, one part after the other. -/
def recordSteps (plan : JoinPlan) : Procedure Unit := do
  let aliasName := plan.join.aliasName
  plan.nextCounter.forM fun next => modify (·.setCounter plan.join.table next)
  modify fun query => { query with joins := query.joins ++ [plan.join] }
  plan.group.forM fun group => modify (·.pushCondition group)
  plan.columns.forM fun field => modify (selectField aliasName · field)
  plan.groupBy.forM fun column => modify (·.groupBy (.qualified aliasName column))

theorem outcome_recordSteps (plan : JoinPlan) (query : Query) :
    (recordSteps plan).outcome query = .success (query.record plan) := by
  rcases plan with ⟨join, nextCounter, group, columns, groupBy⟩
  unfold recordSteps record
  cases nextCounter <;> cases group <;> cases groupBy <;>
    exact Procedure.outcome_forM columns (selectField join.aliasName) _ _

/-- Join a table to the query. -/
def joinSteps (table : String) (foreignKey : ForeignKey) (options : JoinOptions) :
    Procedure Unit := do
  let plan ← (← get).planJoin table foreignKey options
  recordSteps plan

def join (query : Query) (table : String) (foreignKey : ForeignKey)
    (options : JoinOptions) : Outcome :=
  (joinSteps table foreignKey options).outcome query

theorem join_eq (query : Query) (table : String) (foreignKey : ForeignKey)
    (options : JoinOptions) :
    query.join table foreignKey options =
      match query.planJoin table foreignKey options with
      | .error error => .failure error query
      | .ok plan => .success (query.record plan) := by
  unfold join joinSteps
  rw [Procedure.outcome_get, Procedure.outcome_attempt]
  cases query.planJoin table foreignKey options with
  | error error => rfl
  | ok plan => exact outcome_recordSteps plan query

end Query
end SelectBuilder
