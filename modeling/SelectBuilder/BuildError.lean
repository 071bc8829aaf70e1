namespace SelectBuilder

/-!
# Why a call is refused

Every refusal comes from the arguments of the call itself.  The causes are
kept apart from their wording, which is `BuildError.message`.
-/

/-- Why a piece of input cannot be used as a filter. -/
inductive ValueFault where
  /-- A document that describes a filter has to be an object. -/
  | notAnObject
  /-- An integer that does not fit in 64 bits with a sign. -/
  | outOfRange (integer : Int)
  /-- Anything but a scalar where one is needed, with its text. -/
  | notAScalar (found : String)
  /-- A caller's own objection. -/
  | stated (reason : String)
deriving DecidableEq, Repr

def ValueFault.message : ValueFault -> String
  | .notAnObject => "filter must be a JSON object"
  | .outOfRange integer => "integer " ++ integer.repr ++ " out of range"
  | .notAScalar found => "expected a scalar, got " ++ found
  | .stated reason => reason

inductive BuildError where
  | invalidOperator (name : String)
  | invalidJoinType (name : String)
  /-- Values were to be written inline, and nothing says how. -/
  | formatterMissing
  | invalidOrderDirection (name : String)
  | duplicateAlias (aliasName : String)
  | invalidValue (fault : ValueFault)
deriving DecidableEq, Repr

namespace BuildError

def message : BuildError -> String
  | .invalidOperator name => "Invalid operator: " ++ name
  | .invalidJoinType name => "Invalid join type: " ++ name
  | .formatterMissing => "Inline rendering requires a value formatter"
  | .invalidOrderDirection name => "Invalid order direction: " ++ name
  | .duplicateAlias aliasName => "Duplicate join alias: " ++ aliasName
  | .invalidValue fault => "Invalid value: " ++ fault.message

def isInvalidOperator : BuildError -> Bool
  | .invalidOperator _ => true
  | _ => false

/-- The errors about the shape of a query: its joins and its order. -/
def concernsQueryShape : BuildError -> Bool
  | .invalidJoinType _ | .duplicateAlias _ | .invalidOrderDirection _ => true
  | _ => false

end BuildError
end SelectBuilder
