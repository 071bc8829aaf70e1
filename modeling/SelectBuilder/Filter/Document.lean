import SelectBuilder.Filter

namespace SelectBuilder

/-!
# Filters from JSON documents

A filter is described by an object whose names are columns.  A member that is
an object again holds terms under operator names; an array is a list of
scalars; anything else is one term.  What fits nowhere is refused, and of
several such places the first in the document counts.
-/

/-- A scalar.  Integers have to fit in 64 bits with a sign: a greater one could only
survive as a float that is some other number. -/
def Value.ofJson (document : Json) : Except BuildError Value :=
  match document with
  | .bool value => .ok (.bool value)
  | .integer value =>
      if Int64.minValue.toInt ≤ value ∧ value ≤ Int64.maxValue.toInt then
        .ok (.integer (Int64.ofInt value))
      else .error (.invalidValue (.outOfRange value))
  | .float value => .ok (.float value)
  | .text value => .ok (.text value)
  | other => .error (.invalidValue (.notAScalar other.compact))

def Term.ofJson (document : Json) : Except BuildError Term :=
  match document with
  | .null => .ok .null
  | .array items => Term.list <$> items.mapM Value.ofJson
  | other => Term.scalar <$> Value.ofJson other

def Operand.ofJson (document : Json) : Except BuildError Operand :=
  match document with
  | .object members =>
      Operand.operators <$> members.mapM fun member =>
        (member.1, ·) <$> Term.ofJson member.2
  | other => Operand.term <$> Term.ofJson other

/-- Every name in the object is a bare column. -/
def Filter.ofJson (document : Json) : Except BuildError Filter :=
  match document with
  | .object members =>
      Filter.mk <$> members.mapM fun member =>
        (Key.bare member.1, ·) <$> Operand.ofJson member.2
  | _ => .error (.invalidValue .notAnObject)

end SelectBuilder
