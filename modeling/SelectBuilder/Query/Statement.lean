import SelectBuilder.Query

namespace SelectBuilder

/-!
# The statement of a query

A statement is the clauses of a query one after the other.  A clause with
nothing in it is left out.  Conditions of scopes that are still open are not
part of the statement yet.
-/

namespace Query

/-- The selected columns; every column of the base table when there are none. -/
def selectClause (query : Query) : Fragment :=
  let columns :=
    match query.columns with
    | [] => Identifier.qualify (some query.base) "*"
    | columns => ", ".intercalate columns
  [.text ("SELECT " ++ (if query.distinct then "DISTINCT " else "") ++ columns)]

def fromClause (query : Query) : Fragment :=
  [.text (" FROM " ++ Identifier.quote query.base)]

def joinClauses (query : Query) : Fragment :=
  query.joins.flatMap fun join => Piece.text " " :: join.fragment query.database

def whereClause (query : Query) : Fragment :=
  let condition := Condition.group .and query.conditions
  if condition.isEmpty then [] else Piece.text " WHERE " :: condition.fragment false

def groupClause (query : Query) : Fragment :=
  match query.grouping with
  | [] => []
  | targets => [.text (" GROUP BY " ++ ", ".intercalate (targets.map Target.sql))]

/-- A target and the direction in which it is ordered. -/
def orderSql (entry : Target × Direction) : String :=
  entry.1.sql ++ " " ++ entry.2.sql

def orderClause (query : Query) : Fragment :=
  match query.ordering with
  | [] => []
  | entries => [.text (" ORDER BY " ++ ", ".intercalate (entries.map orderSql))]

def limitClause (query : Query) : Fragment :=
  query.limit.elim [] fun limit => [.text (" LIMIT " ++ limit.toNat.repr)]

def offsetClause (query : Query) : Fragment :=
  query.offset.elim [] fun offset => [.text (" OFFSET " ++ offset.toNat.repr)]

/-- The whole statement, with its values still in place. -/
def fragment (query : Query) : Fragment :=
  query.selectClause ++ query.fromClause ++ query.joinClauses ++ query.whereClause
    ++ query.groupClause ++ query.orderClause ++ query.limitClause ++ query.offsetClause

/-- The statement as the query's mode has it. -/
def build (query : Query) : Statement :=
  query.fragment.build query.mode

end Query
end SelectBuilder
