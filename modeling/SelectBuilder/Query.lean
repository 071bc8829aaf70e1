import SelectBuilder.Join
import SelectBuilder.Selection

namespace SelectBuilder

/-!
# Queries

A `Query` is everything said so far about one `SELECT`.  Nothing in it has been
written yet; `Query.build` does that, and may do it at any time.

Conditions go to the innermost open scope of alternatives, or to the `WHERE`
clause when no scope is open.
-/

inductive Direction where
  | ascending
  | descending
deriving DecidableEq, Repr

namespace Direction

def sql : Direction -> String
  | .ascending => "ASC"
  | .descending => "DESC"

/-- The direction of this name, in any case of its letters. -/
def ofName (name : String) : Except BuildError Direction :=
  if sameWord name "asc" then .ok .ascending
  else if sameWord name "desc" then .ok .descending
  else .error (.invalidOrderDirection name)

end Direction

structure Query where
  /-- The table that the query selects from. -/
  base : String
  mode : RenderMode
  /-- The database that qualifies joined tables. -/
  database : Option String
  selections : List Selection
  joins : List Join
  /-- The conditions of the `WHERE` clause, which hold together. -/
  conditions : List Condition
  /-- The open scopes of alternatives, the innermost first. -/
  scopes : List (List Condition)
  grouping : List Target
  ordering : List (Target × Direction)
  limit : Option UInt64
  offset : Option UInt64
  distinct : Bool
  /-- For every table the number at which the search for its next alias begins. -/
  counters : String -> Nat

/-- How a query is to be set up. -/
structure QueryOptions where
  prepared : Bool := true
  formatter : Option (Value -> String) := none
  database : Option String := none

/-- Inline rendering is possible only with a formatter; prepared rendering
needs none and ignores it. -/
def QueryOptions.mode (options : QueryOptions) : Except BuildError RenderMode :=
  if options.prepared then .ok .prepared
  else
    match options.formatter with
    | some formatter => .ok (.inline formatter)
    | none => .error .formatterMissing

namespace Query

/-- A query of which nothing but the base table is known. -/
def start (base : String) (mode : RenderMode) (database : Option String) : Query where
  base := base
  mode := mode
  database := database
  selections := []
  joins := []
  conditions := []
  scopes := []
  grouping := []
  ordering := []
  limit := none
  offset := none
  distinct := false
  counters _ := 0

def prepared (base : String) : Query :=
  start base .prepared none

def inline (base : String) (formatter : Value -> String) : Query :=
  start base (.inline formatter) none

def ofOptions (base : String) (options : QueryOptions) : Except BuildError Query := do
  return start base (← options.mode) options.database

/-- The aliases of the joins, in order. -/
def aliases (query : Query) : List String :=
  query.joins.map Join.aliasName

/-- The selected columns as they are written, in order. -/
def columns (query : Query) : List String :=
  query.selections.map Selection.sql

/-- Add a condition to the innermost open scope, or to the `WHERE` clause. -/
def pushCondition (query : Query) (condition : Condition) : Query :=
  match query.scopes with
  | [] => { query with conditions := query.conditions ++ [condition] }
  | innermost :: outer => { query with scopes := (innermost ++ [condition]) :: outer }

/-! ## Calls that cannot fail -/

/-- Select a column.  A bare key belongs to the base table. -/
def select (query : Query) (key : Key) (options : ColumnOptions) : Query :=
  { query with
    selections :=
      query.selections ++ [⟨key.resolve query.base, options.function, options.aliasName⟩] }

/-- Select this column and no other. -/
def selectOnly (query : Query) (key : Key) (options : ColumnOptions) : Query :=
  { query with selections := [] }.select key options

/-- Group by a key.  A bare one belongs to the base table. -/
def groupBy (query : Query) (key : Key) : Query :=
  { query with grouping := query.grouping ++ [key.resolve query.base] }

def resetOrder (query : Query) : Query :=
  { query with ordering := [] }

def setLimit (query : Query) (limit : UInt64) : Query :=
  { query with limit := some limit }

def setOffset (query : Query) (offset : UInt64) : Query :=
  { query with offset := some offset }

def setDistinct (query : Query) (distinct : Bool) : Query :=
  { query with distinct := distinct }

end Query

/-! ## Calls that can fail -/

/-- What a call leaves behind: whether it succeeded, and the query as it is
when the call returns. -/
structure Outcome where
  result : Except BuildError Unit
  query : Query

namespace Outcome

def success (query : Query) : Outcome := ⟨.ok (), query⟩

def failure (error : BuildError) (query : Query) : Outcome := ⟨.error error, query⟩

end Outcome

/-- A call, step by step.  Where a step fails the call ends, and whatever the
steps before it did to the query stays done. -/
abbrev Procedure := ExceptT BuildError (StateM Query)

namespace Procedure

/-- Take all steps of a procedure on a query. -/
def outcome (procedure : Procedure Unit) (query : Query) : Outcome :=
  let finished := procedure.run.run query
  ⟨finished.1, finished.2⟩

theorem outcome_get (next : Query -> Procedure Unit) (query : Query) :
    (get >>= next : Procedure Unit).outcome query = (next query).outcome query := rfl

/-- An attempt that does not touch the query fails with the query as it is. -/
theorem outcome_attempt {Result : Type} (attempt : Except BuildError Result)
    (next : Result -> Procedure Unit) (query : Query) :
    (liftM attempt >>= next : Procedure Unit).outcome query =
      match attempt with
      | .ok result => (next result).outcome query
      | .error error => .failure error query := by
  cases attempt <;> rfl

/-- One change for every part of a list, in its order. -/
theorem outcome_forM {Part : Type} (parts : List Part) (change : Query -> Part -> Query)
    (next : Procedure Unit) (query : Query) :
    ((parts.forM fun part => modify (change · part)) >>= fun _ => next).outcome query =
      next.outcome (parts.foldl change query) := by
  induction parts generalizing query with
  | nil => rfl
  | cons part rest ih => exact ih (change query part)

end Procedure

namespace Query

/-- Add the comparisons of a filter as one group. -/
def filterSteps (filter : Filter) : Procedure Unit := do
  let group ← filter.compileGroup (← get).base
  group.forM fun group => modify (·.pushCondition group)

def filter (query : Query) (filter : Filter) : Outcome :=
  (filterSteps filter).outcome query

theorem filter_eq (query : Query) (filter : Filter) :
    query.filter filter =
      match filter.compileGroup query.base with
      | .error error => .failure error query
      | .ok none => .success query
      | .ok (some group) => .success (query.pushCondition group) := by
  unfold Query.filter filterSteps
  rw [Procedure.outcome_get, Procedure.outcome_attempt]
  rcases filter.compileGroup query.base with error | _ | group <;> rfl

/-- Order by a key, behind the keys that are there already.  A bare one
belongs to the base table. -/
def orderBySteps (key : Key) (direction : String) : Procedure Unit := do
  let direction ← Direction.ofName direction
  modify fun query =>
    { query with ordering := query.ordering ++ [(key.resolve query.base, direction)] }

def orderBy (query : Query) (key : Key) (direction : String) : Outcome :=
  (orderBySteps key direction).outcome query

theorem orderBy_eq (query : Query) (key : Key) (direction : String) :
    query.orderBy key direction =
      match Direction.ofName direction with
      | .error error => .failure error query
      | .ok direction =>
          .success
            { query with ordering := query.ordering ++ [(key.resolve query.base, direction)] } := by
  unfold orderBy orderBySteps
  rw [Procedure.outcome_attempt]
  cases Direction.ofName direction <;> rfl

/-! ## Scopes of alternatives -/

/-- Collect the conditions from here on as alternatives. -/
def openScope (query : Query) : Query :=
  { query with scopes := [] :: query.scopes }

/-- Hand the alternatives collected in the innermost scope to what encloses
it, as one group.  A scope without any leaves no group behind. -/
def closeScope (query : Query) : Query :=
  match query.scopes with
  | [] => query
  | [] :: outer => { query with scopes := outer }
  | alternatives :: outer => { query with scopes := outer }.pushCondition (.group .or alternatives)

/-- What a scope comes to, given what happened inside.  When that failed, the query
is again the one from before the scope. -/
def settleScope (before : Query) (inside : Outcome) : Outcome :=
  match inside.result with
  | .ok () => .success inside.query.closeScope
  | .error error => .failure error before

/-- Run a body in a scope of alternatives. -/
def either (query : Query) (body : Query -> Outcome) : Outcome :=
  query.settleScope (body query.openScope)

end Query
end SelectBuilder
