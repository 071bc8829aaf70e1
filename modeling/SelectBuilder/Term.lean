import SelectBuilder.Value

namespace SelectBuilder

/-- The right side of a comparison. -/
inductive Term where
  | null
  | scalar (value : Value)
  | list (values : List Value)
  /-- A fragment of SQL that is trusted as it stands. -/
  | raw (sql : String)
deriving DecidableEq, Repr

namespace Term

def isNull : Term -> Bool
  | .null => true
  | _ => false

section Conversions

variable {Source : Type} [IsScalar Source]

def ofScalar (source : Source) : Term :=
  .scalar (toValue source)

/-- What is missing is `NULL`. -/
def ofOption (source : Option Source) : Term :=
  source.elim .null ofScalar

def ofList (sources : List Source) : Term :=
  .list (sources.map toValue)

end Conversions

/-- Terms of one form with agreeing values agree. -/
def agrees : Term -> Term -> Bool
  | .null, .null => true
  | .scalar first, .scalar second => first.agrees second
  | .list first, .list second => first.isEqv second Value.agrees
  | .raw first, .raw second => first = second
  | _, _ => false

end Term
end SelectBuilder
