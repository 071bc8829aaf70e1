import SelectBuilder.Json.Quoted
import SelectBuilder.Number.Shortest

namespace SelectBuilder

/-!
# JSON documents

A document keeps the order of the members of its objects, because the order
of conditions in SQL follows it.  Integers are told apart from other numbers.
-/

inductive Json where
  | null
  | bool (value : Bool)
  | integer (value : Int)
  | float (value : Double)
  | text (value : String)
  | array (items : List Json)
  | object (members : List (String × Json))

namespace Json

/-- Add a member.  A name that is there already keeps its place and takes the new
document. -/
def setMember (name : String) (document : Json) :
    List (String × Json) -> List (String × Json)
  | [] => [(name, document)]
  | member :: rest =>
      if member.1 = name then (name, document) :: rest
      else member :: setMember name document rest

/-- The object that results from reading these members one after the other. -/
def ofMembers (members : List (String × Json)) : Json :=
  .object (members.foldl (fun known member => setMember member.1 member.2 known) [])

/-- Numbers stay in place from four zeros behind the point to sixteen digits
before it, and always have a point or an exponent.  A tie between two decimals
goes to the even one. -/
def floatLayout : Decimal.Layout where
  inPlace exponent := -5 ≤ exponent && exponent ≤ 15
  keepsPoint := true
  tie := .even

/-- A number in a document; only finite ones have a text of their own. -/
def floatText (number : Double) : String :=
  match number.read with
  | .finite negative magnitude => floatLayout.writeSigned negative magnitude
  | _ => "null"

mutual

/-- A document without any blanks. -/
def compact : Json -> String
  | .null => "null"
  | .bool true => "true"
  | .bool false => "false"
  | .integer value => integerText value
  | .float value => floatText value
  | .text value => quoted value
  | .array items => "[" ++ ",".intercalate (compactItems items) ++ "]"
  | .object members => "\x7b" ++ ",".intercalate (compactMembers members) ++ "\x7d"

def compactItems : List Json -> List String
  | [] => []
  | item :: rest => compact item :: compactItems rest

def compactMembers : List (String × Json) -> List String
  | [] => []
  | (name, document) :: rest =>
      (quoted name ++ ":" ++ compact document) :: compactMembers rest

end

end Json
end SelectBuilder
