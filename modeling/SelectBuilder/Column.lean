import SelectBuilder.Identifier

namespace SelectBuilder

/-!
# Columns, targets and keys

A `Key` is what a caller names; a `Target` is what stands in SQL.  The step
between them, `Key.resolve`, gives a bare column the table it belongs to.
-/

/-- A column, with the table or join alias that qualifies it. -/
structure Column where
  table : Option String
  name : String
deriving DecidableEq, Repr

/-- The quoted, qualified column. -/
def Column.sql (column : Column) : String :=
  Identifier.qualify column.table column.name

/-- What can be compared, selected, grouped or ordered by: a column, or a
fragment of SQL that is trusted as it stands. -/
inductive Target where
  | column (reference : Column)
  | raw (sql : String)
deriving DecidableEq, Repr

def Target.sql : Target -> String
  | .column reference => reference.sql
  | .raw text => text

/-- A column as a caller names it. -/
inductive Key where
  | bare (name : String)
  | qualified (table name : String)
  | raw (sql : String)
deriving DecidableEq, Repr

namespace Key

instance : Coe String Key := ⟨Key.bare⟩

instance : Coe (String × String) Key := ⟨fun pair => .qualified pair.1 pair.2⟩

/-- A bare column belongs to the table at hand, a qualified one to the table
it names; raw SQL belongs to none. -/
def resolve (key : Key) (defaultTable : String) : Target :=
  match key with
  | .bare name => .column ⟨some defaultTable, name⟩
  | .qualified table name => .column ⟨some table, name⟩
  | .raw sql => .raw sql

end Key
end SelectBuilder
