import SelectBuilder.Json.Document
import SelectBuilder.Number.Widening
import SelectBuilder.Timestamp
import SelectBuilder.Uuid

namespace SelectBuilder

/-!
# Scalar values

The values that a column can be compared with.  A value has a text of its own
(`Value.display`), a JSON document (`Value.toJson`), and a class: the numeric
ones are harmless in SQL and are written bare, all others are bound.
-/

inductive Value where
  | bool (value : Bool)
  | integer (value : Int64)
  | float (value : Double)
  | text (value : String)
  | uuid (value : Uuid)
  | timestamp (value : Timestamp)
deriving DecidableEq, Repr

namespace Value

/-- Integers and finite numbers. -/
def isNumeric : Value -> Bool
  | .integer _ => true
  | .float number => number.isFinite
  | _ => false

/-- Numbers in plain text never have an exponent, and whole ones no point.  A
tie between two decimals goes to the greater one. -/
def floatLayout : Decimal.Layout where
  inPlace _ := true
  keepsPoint := false
  tie := .up

def floatText (number : Double) : String :=
  match number.read with
  | .notANumber => "NaN"
  | .infinite negative => if negative then "-inf" else "inf"
  | .finite negative magnitude => floatLayout.writeSigned negative magnitude

/-- The text of a value. -/
def display : Value -> String
  | .bool value => if value then "true" else "false"
  | .integer value => integerText value.toInt
  | .float value => floatText value
  | .text value => value
  | .uuid value => value.text
  | .timestamp value => value.text "+00:00"

/-- The document of a value: identifiers and instants become text. -/
def toJson : Value -> Json
  | .bool value => .bool value
  | .integer value => .integer value.toInt
  | .float value => .float value
  | .text value => .text value
  | .uuid value => .text value.text
  | .timestamp value => .text (value.text "Z")

/-- Values of one kind with equal content agree.  Numbers are compared as numbers, an
integer never with a float. -/
def agrees : Value -> Value -> Bool
  | .float first, .float second => first.agrees second
  | first, second => decide (first = second)

end Value

/-- The types whose elements are scalar values. -/
class IsScalar (Source : Type) where
  toValue : Source -> Value

export IsScalar (toValue)

instance : IsScalar Value := ⟨id⟩
instance : IsScalar Bool := ⟨.bool⟩
instance : IsScalar Int8 := ⟨fun number => .integer number.toInt64⟩
instance : IsScalar Int16 := ⟨fun number => .integer number.toInt64⟩
instance : IsScalar Int32 := ⟨fun number => .integer number.toInt64⟩
instance : IsScalar Int64 := ⟨.integer⟩
instance : IsScalar UInt8 := ⟨fun number => .integer (Int64.ofNat number.toNat)⟩
instance : IsScalar UInt16 := ⟨fun number => .integer (Int64.ofNat number.toNat)⟩
instance : IsScalar UInt32 := ⟨fun number => .integer (Int64.ofNat number.toNat)⟩
instance : IsScalar Single := ⟨fun number => .float number.widen⟩
instance : IsScalar Double := ⟨.float⟩
instance : IsScalar String := ⟨.text⟩
instance : IsScalar Uuid := ⟨.uuid⟩
instance : IsScalar Timestamp := ⟨.timestamp⟩

end SelectBuilder
