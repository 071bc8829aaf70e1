import SelectBuilder.Column

namespace SelectBuilder

/-- What a caller may ask for when selecting a column. -/
structure ColumnOptions where
  function : Option String := none
  aliasName : Option String := none
deriving DecidableEq, Repr

/-- A member of the list that a query selects. -/
structure Selection where
  target : Target
  function : Option String
  aliasName : Option String
deriving DecidableEq, Repr

namespace Selection

/-- The target, inside a call when there is a function, and under the alias
when there is one. -/
def sql (selection : Selection) : String :=
  let called :=
    match selection.function with
    | some function => Identifier.functionName function ++ "( " ++ selection.target.sql ++ " )"
    | none => selection.target.sql
  match selection.aliasName with
  | some aliasName => called ++ " AS " ++ Identifier.quote aliasName
  | none => called

end Selection
end SelectBuilder
