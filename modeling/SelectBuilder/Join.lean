import SelectBuilder.Filter
import SelectBuilder.Text.LetterCase

namespace SelectBuilder

/-!
# Joins

A join binds a table to an alias.  `JoinOptions` is what a caller may ask for,
`Join` is what is recorded once all of it has been found in order.
-/

inductive JoinKind where
  | inner
  | left
  | right
deriving DecidableEq, Repr

namespace JoinKind

def all : List JoinKind := [.inner, .left, .right]

def name : JoinKind -> String
  | .inner => "inner"
  | .left => "left"
  | .right => "right"

def sql : JoinKind -> String
  | .inner => "INNER JOIN"
  | .left => "LEFT OUTER JOIN"
  | .right => "RIGHT OUTER JOIN"

def ofName? (name : String) : Option JoinKind :=
  all.find? fun kind => sameWord kind.name name

/-- The kind of this name, in any case of its letters. -/
def ofName (name : String) : Except BuildError JoinKind :=
  match ofName? name with
  | some kind => .ok kind
  | none => .error (.invalidJoinType name)

end JoinKind

/-- The column of the joined table and the column of the source table that
have to be equal. -/
structure ForeignKey where
  foreign : String
  localColumn : String
deriving DecidableEq, Repr

/-- A foreign key usually refers to the source's `id`. -/
instance : Coe String ForeignKey := ⟨fun foreign => ⟨foreign, "id"⟩⟩

instance : Coe (String × String) ForeignKey := ⟨fun pair => ⟨pair.1, pair.2⟩⟩

structure JoinOptions where
  /-- The name of the kind; an inner join when there is none. -/
  kind : Option String := none
  /-- An alias of the caller's choice, instead of a numbered one. -/
  name : Option String := none
  /-- The table or alias that holds the local column, instead of the base table. -/
  source : Option String := none
  /-- Further conditions of the join itself.  Bare keys belong to the alias. -/
  conditions : Filter := {}
  /-- Conditions on the result.  Bare keys belong to the alias. -/
  filter : Filter := {}
  /-- Columns of the joined table to select, each under the alias and its name. -/
  columns : List String := []
  /-- A column of the joined table to group by. -/
  groupBy : Option String := none
deriving DecidableEq, Repr

namespace JoinOptions

/-- Group by the joined table's `id`. -/
def groupById (options : JoinOptions) : JoinOptions :=
  { options with groupBy := some "id" }

def agrees (first second : JoinOptions) : Bool :=
  first.kind = second.kind && first.name = second.name && first.source = second.source
    && first.conditions.agrees second.conditions && first.filter.agrees second.filter
    && first.columns = second.columns && first.groupBy = second.groupBy

end JoinOptions

/-- A recorded join. -/
structure Join where
  kind : JoinKind
  table : String
  aliasName : String
  condition : Condition

/-- A join as a clause.  The database, when there is one, qualifies the table. -/
def Join.fragment (database : Option String) (join : Join) : Fragment :=
  let qualifier := database.elim "" fun database => Identifier.quote database ++ "."
  Piece.text
      (join.kind.sql ++ " " ++ qualifier ++ Identifier.quote join.table ++ " AS "
        ++ Identifier.quote join.aliasName ++ " ON ")
    :: join.condition.fragment true

end SelectBuilder
