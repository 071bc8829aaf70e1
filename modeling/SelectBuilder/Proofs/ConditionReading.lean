import SelectBuilder.Proofs.Lexing
import SelectBuilder.Proofs.NormalForm

namespace SelectBuilder
namespace Reader

/-!
# Reading conditions

A reader goes through the lexemes of a condition once.  A placeholder takes the
next parameter.  What stands in parentheses becomes one item when they close,
and it is known then what it is as a condition and what it is as a list of values.
Between two parentheses OR separates first and AND inside of that, so AND binds
more tightly.  In the end every parenthesis is closed, and every parameter is
taken.
-/

/-- What can stand between two parentheses: lexemes, parameters in the place of
their placeholders, and what was in parentheses itself. -/
inductive Item where
  | lexeme (lexeme : Lexeme)
  | value (value : Value)
  | enclosed (formula : Option Formula) (tuple : Option (List Scalar))

def Item.isWord (word : Word) : Item -> Bool
  | .lexeme (.word other) => other = word
  | _ => false

def Item.isComma : Item -> Bool
  | .lexeme .comma => true
  | _ => false

/-! ## Comparisons -/

/-- Read a column with the table before it, if there is one. -/
def readColumn : List Item -> Option (Column × List Item)
  | .lexeme (.name table) :: .lexeme .point :: .lexeme (.name name) :: rest =>
      some (⟨some table, name⟩, rest)
  | .lexeme (.name table) :: .lexeme .point :: .lexeme .wildcard :: rest =>
      some (⟨some table, "*"⟩, rest)
  | .lexeme (.name name) :: rest => some (⟨none, name⟩, rest)
  | .lexeme .wildcard :: rest => some (⟨none, "*"⟩, rest)
  | _ => none

/-- The words of an operator. -/
def operatorWords : Operator -> List Word
  | .equal => [.equal]
  | .notEqual => [.notEqual]
  | .lessThan => [.lessThan]
  | .lessOrEqual => [.lessOrEqual]
  | .greaterThan => [.greaterThan]
  | .greaterOrEqual => [.greaterOrEqual]
  | .member => [.member]
  | .notMember => [.not, .member]
  | .like => [.like]
  | .notLike => [.not, .like]

/-- Read the words of an operator. -/
def readOperator : List Item -> Option (Operator × List Item)
  | .lexeme (.word .not) :: .lexeme (.word second) :: rest =>
      (Operator.all.find? fun operator => operatorWords operator = [.not, second]).map (·, rest)
  | .lexeme (.word first) :: rest =>
      (Operator.all.find? fun operator => operatorWords operator = [first]).map (·, rest)
  | _ => none

def scalarOf : Item -> Option Scalar
  | .lexeme (.word .null) => some .null
  | .lexeme (.number number) => some (.number number)
  | .value value => some (.value value)
  | _ => none

def singleOf : List Item -> Option Scalar
  | [item] => scalarOf item
  | _ => none

/-- The values between parentheses, with a comma between every two. -/
def tupleOf : List Item -> Option (List Scalar)
  | [] => some []
  | items => (items.splitOnP Item.isComma).mapM singleOf

/-- Membership is in a list of one value at least.  Every other operator has
one value, or a list. -/
def rightSideOf (operator : Operator) : List Item -> Option RightSide
  | [.enclosed _ tuple] =>
      tuple.bind fun scalars =>
        if operator.isMembership ∧ scalars = [] then none else some (.tuple scalars)
  | items => if operator.isMembership then none else (singleOf items).map .single

/-- A column and what is said of it. -/
def comparisonOf (items : List Item) : Option Formula := do
  let (column, rest) ← readColumn items
  match rest with
  | [.lexeme (.word .is), .lexeme (.word .null)] => return .isNull (.column column) false
  | [.lexeme (.word .is), .lexeme (.word .not), .lexeme (.word .null)] =>
      return .isNull (.column column) true
  | _ =>
      let (operator, right) ← readOperator rest
      return .compare (.column column) operator (← rightSideOf operator right)

/-! ## Conditions -/

/-- What stands between two words of a junction: a condition in parentheses, one
of the constants `1=0` and `1=1`, or a comparison. -/
def atomOf : List Item -> Option Formula
  | [.enclosed formula _] => formula
  | [.lexeme (.number ⟨false, 1, 0⟩), .lexeme (.word .equal), .lexeme (.number ⟨false, 0, 0⟩)] =>
      some (.constant false)
  | [.lexeme (.number ⟨false, 1, 0⟩), .lexeme (.word .equal), .lexeme (.number ⟨false, 1, 0⟩)] =>
      some (.constant true)
  | items => comparisonOf items

def conjunctionOf (items : List Item) : Option Formula := do
  let members ← (items.splitOnP (Item.isWord .and)).mapM atomOf
  Formula.ofMembers .and members

def formulaOf (items : List Item) : Option Formula := do
  let members ← (items.splitOnP (Item.isWord .or)).mapM conjunctionOf
  Formula.ofMembers .or members

/-! ## The whole text -/

/-- How far the reader has got: the items behind the innermost open parenthesis, those
behind the ones around it, and the parameters that are not taken yet. -/
structure Reading where
  items : List Item
  outer : List (List Item)
  parameters : List Value

namespace Reading

def add (reading : Reading) (item : Item) : Reading :=
  { reading with items := reading.items ++ [item] }

def step (reading : Reading) : Lexeme -> Option Reading
  | .opening => some { reading with items := [], outer := reading.items :: reading.outer }
  | .closing =>
      match reading.outer with
      | [] => none
      | before :: outer =>
          let item : Item := .enclosed (formulaOf reading.items) (tupleOf reading.items)
          some { reading with items := before ++ [item], outer := outer }
  | .placeholder =>
      match reading.parameters with
      | [] => none
      | value :: rest => some ({ reading with parameters := rest }.add (.value value))
  | lexeme => some (reading.add (.lexeme lexeme))

end Reading

/-- Read a condition with its parameters. -/
def readCondition (statement : Statement) : Option Formula := do
  let lexemes ← lex statement.sql.toList
  let reading ← lexemes.foldlM Reading.step ⟨[], [], statement.parameters⟩
  if reading.outer.isEmpty ∧ reading.parameters.isEmpty then formulaOf reading.items else none

end Reader
end SelectBuilder
