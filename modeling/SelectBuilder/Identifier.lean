namespace SelectBuilder
namespace Identifier

/-!
# Quoted identifiers

A table, column or alias name may be any text at all.  It becomes harmless in
SQL by standing between two marks, with every mark of its own written twice:
a single mark after the opening one can then only be the closing one.

Two names are never quoted.  A column called exactly `*` is the wildcard, and
the name of a function is cut down to the characters that are safe bare.
-/

/-- The backtick, which opens and closes a quoted name. -/
def mark : Char := '\x60'

/-- The characters of a name with every mark written twice. -/
def doubled : List Char -> List Char
  | [] => []
  | head :: rest =>
      if head = mark then mark :: mark :: doubled rest else head :: doubled rest

/-- A name between marks. -/
def quote (name : String) : String :=
  String.ofList (mark :: (doubled name.toList ++ [mark]))

@[simp] theorem toList_quote (name : String) :
    (quote name).toList = mark :: (doubled name.toList ++ [mark]) := by
  simp [quote]

/-- A column's own name: the wildcard is bare, every other name is quoted. -/
def columnName (name : String) : String :=
  if name = "*" then "*" else quote name

/-- A column, after its table and a dot when it has one. -/
def qualify (table : Option String) (column : String) : String :=
  match table with
  | none => columnName column
  | some table => quote table ++ "." ++ columnName column

/-- The characters that a function name keeps.  The letters and digits meant
here are those of ASCII alone. -/
def isFunctionCharacter (character : Char) : Bool :=
  character.isAlphanum || character = '_'

/-- A function name, which is written bare: whatever else it holds is
dropped rather than quoted. -/
def functionName (name : String) : String :=
  String.ofList (name.toList.filter isFunctionCharacter)

@[simp] theorem toList_functionName (name : String) :
    (functionName name).toList = name.toList.filter isFunctionCharacter := by
  simp [functionName]

end Identifier
end SelectBuilder
