import SelectBuilder.Term

namespace SelectBuilder

/-!
# SQL with values in it

A fragment of SQL is a list of pieces: text, and places where a value is
bound.  How a bound value appears is decided by one reading of the pieces at
the very end, so that a fragment is the same whichever way it will be read.
-/

inductive Piece where
  | text (sql : String)
  | bound (value : Value)
deriving DecidableEq, Repr

abbrev Fragment := List Piece

/-- How bound values appear: as placeholders with a list of parameters, or as
literals, whose inside the caller's formatter writes. -/
inductive RenderMode where
  | prepared
  | inline (formatter : Value -> String)

def RenderMode.isPrepared : RenderMode -> Bool
  | .prepared => true
  | .inline _ => false

def Piece.sql : RenderMode -> Piece -> String
  | _, .text sql => sql
  | .prepared, .bound _ => "?"
  | .inline formatter, .bound value => "'" ++ formatter value ++ "'"

def Piece.parameters : RenderMode -> Piece -> List Value
  | .prepared, .bound value => [value]
  | _, _ => []

/-- Finished SQL and the values for its placeholders, in their order. -/
structure Statement where
  sql : String
  parameters : List Value
deriving DecidableEq, Repr

namespace Statement

def toJson (statement : Statement) : Json :=
  .object
    [("sql", .text statement.sql), ("params", .array (statement.parameters.map Value.toJson))]

def agrees (first second : Statement) : Bool :=
  first.sql = second.sql && first.parameters.isEqv second.parameters Value.agrees

end Statement

namespace Fragment

def sql (mode : RenderMode) (fragment : Fragment) : String :=
  String.join (fragment.map (Piece.sql mode))

def parameters (mode : RenderMode) (fragment : Fragment) : List Value :=
  fragment.flatMap (Piece.parameters mode)

def build (mode : RenderMode) (fragment : Fragment) : Statement :=
  ⟨fragment.sql mode, fragment.parameters mode⟩

@[simp] theorem toList_sql_append (mode : RenderMode) (first second : Fragment) :
    (sql mode (first ++ second)).toList = (sql mode first).toList ++ (sql mode second).toList := by
  simp [sql]

@[simp] theorem parameters_append (mode : RenderMode) (first second : Fragment) :
    parameters mode (first ++ second) = parameters mode first ++ parameters mode second := by
  simp [parameters]

theorem toList_sql_cons (mode : RenderMode) (piece : Piece) (rest : Fragment) :
    (sql mode (piece :: rest)).toList = (piece.sql mode).toList ++ (sql mode rest).toList := by
  simp [sql]

theorem parameters_cons (mode : RenderMode) (piece : Piece) (rest : Fragment) :
    parameters mode (piece :: rest) = piece.parameters mode ++ parameters mode rest := by
  simp [parameters]

theorem sql_append (mode : RenderMode) (first second : Fragment) :
    sql mode (first ++ second) = sql mode first ++ sql mode second := by
  simp [sql]

theorem sql_cons (mode : RenderMode) (piece : Piece) (rest : Fragment) :
    sql mode (piece :: rest) = piece.sql mode ++ sql mode rest := by
  simp [sql]

theorem sql_text (mode : RenderMode) (text : String) : sql mode [.text text] = text := by
  simp [sql, Piece.sql]

/-- Fragments one after the other, with a text between every two. -/
def separated (separator : String) (fragments : List Fragment) : Fragment :=
  [Piece.text separator].intercalate fragments

theorem toList_sql_separated (mode : RenderMode) (separator : String)
    (fragments : List Fragment) :
    (sql mode (separated separator fragments)).toList =
      separator.toList.intercalate (fragments.map fun fragment => (sql mode fragment).toList) := by
  induction fragments with
  | nil => rfl
  | cons first rest ih =>
      cases rest with
      | nil => simp [separated]
      | cons second others =>
          rw [separated] at ih ⊢
          rw [List.intercalate_cons_cons, List.append_assoc, toList_sql_append,
            List.singleton_append, toList_sql_cons, ih]
          simp [Piece.sql]

theorem sql_separated (mode : RenderMode) (separator : String) (fragments : List Fragment) :
    sql mode (separated separator fragments) =
      separator.intercalate (fragments.map (sql mode)) := by
  apply String.toList_inj.mp
  rw [toList_sql_separated, String.toList_intercalate, List.map_map]
  rfl

theorem parameters_separated (mode : RenderMode) (separator : String)
    (fragments : List Fragment) :
    parameters mode (separated separator fragments) = fragments.flatMap (parameters mode) := by
  induction fragments with
  | nil => rfl
  | cons first rest ih =>
      cases rest with
      | nil => simp [separated]
      | cons second others =>
          rw [separated] at ih ⊢
          rw [List.intercalate_cons_cons, List.append_assoc, parameters_append,
            List.singleton_append, parameters_cons, ih]
          cases mode <;> rfl

end Fragment

/-- Numbers are written bare and all other values bound. -/
def Value.fragment (value : Value) : Fragment :=
  if value.isNumeric then [.text value.display] else [.bound value]

/-- The values of a list stand bare only when all of them are numbers;
otherwise every one is bound, the numbers too. -/
def Value.listFragment (values : List Value) : Fragment :=
  let piece (value : Value) : Piece :=
    if values.all Value.isNumeric then .text value.display else .bound value
  Fragment.separated ", " (values.map fun value => [piece value])

/-- A term as it stands behind an operator, a list without its parentheses. -/
def Term.fragment : Term -> Fragment
  | .null => [.text "NULL"]
  | .scalar value => value.fragment
  | .list values => Value.listFragment values
  | .raw sql => [.text sql]

end SelectBuilder
