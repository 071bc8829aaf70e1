import SelectBuilder.Query

namespace SelectBuilder

/-!
# Aliases of joined tables

A join without a name of its own gets its table's name and a number.  The
number is the first one, from the table's counter on, whose alias is not in
use.  There are only finitely many aliases in use, so skipping as many numbers
as there are of them always leads to a free one.
-/

/-- The alias of a table with a number. -/
def numberedAlias (table : String) (number : Nat) : String :=
  table ++ "_" ++ number.repr

/-- The first number from `number` on whose alias is not in use, when at most
`skips` numbers have to be skipped. -/
def freeNumber (inUse : String -> Bool) (table : String) : (skips number : Nat) -> Nat
  | 0, number => number
  | skips + 1, number =>
      if inUse (numberedAlias table number) then freeNumber inUse table skips (number + 1)
      else number

namespace Query

/-- An alias is in use when it names the base table or a join. -/
def aliasInUse (query : Query) (aliasName : String) : Bool :=
  aliasName = query.base || query.aliases.contains aliasName

/-- The number that the next unnamed join of a table gets. -/
def nextNumber (query : Query) (table : String) : Nat :=
  freeNumber query.aliasInUse table (query.joins.length + 1) (query.counters table)

/-- Let the next search for an alias of this table begin at a number. -/
def setCounter (query : Query) (table : String) (number : Nat) : Query :=
  { query with
    counters := fun other => if other = table then number else query.counters other }

end Query
end SelectBuilder
