import SelectBuilder.Proofs.ColumnReading
import SelectBuilder.Proofs.Numeral

namespace SelectBuilder
namespace Reader

/-!
# How SQL falls into lexemes

Whoever reads SQL first divides it into lexemes: quoted names, words, signs,
numbers and single characters.  A word, a sign and a number are each as long as
they can be, and blanks only keep lexemes apart.
-/

/-- The words and signs that conditions are written with. -/
inductive Word where
  | and
  | or
  | not
  | is
  | null
  | member
  | like
  | equal
  | notEqual
  | lessThan
  | lessOrEqual
  | greaterThan
  | greaterOrEqual
deriving DecidableEq, Repr

namespace Word

def all : List Word :=
  [.and, .or, .not, .is, .null, .member, .like, .equal, .notEqual, .lessThan, .lessOrEqual,
    .greaterThan, .greaterOrEqual]

def text : Word -> List Char
  | .and => "AND".toList
  | .or => "OR".toList
  | .not => "NOT".toList
  | .is => "IS".toList
  | .null => "NULL".toList
  | .member => "IN".toList
  | .like => "LIKE".toList
  | .equal => "=".toList
  | .notEqual => "!=".toList
  | .lessThan => "<".toList
  | .lessOrEqual => "<=".toList
  | .greaterThan => ">".toList
  | .greaterOrEqual => ">=".toList

def ofText? (text : List Char) : Option Word :=
  all.find? fun word => word.text = text

theorem ofText?_text (word : Word) : ofText? word.text = some word := by
  cases word <;> decide

end Word

inductive Lexeme where
  | name (text : String)
  | word (word : Word)
  | number (number : Number)
  | placeholder
  | wildcard
  | point
  | comma
  | opening
  | closing
deriving DecidableEq, Repr

/-- The characters that are a lexeme by themselves. -/
def Lexeme.ofCharacter? : Char -> Option Lexeme
  | '?' => some .placeholder
  | '*' => some .wildcard
  | '.' => some .point
  | ',' => some .comma
  | '(' => some .opening
  | ')' => some .closing
  | _ => none

def isSign (character : Char) : Bool :=
  "=!<>".toList.contains character

/-- Read the longest run of letters, or of signs, as a word. -/
def readWord (text : List Char) : Option (Word × List Char) :=
  let belongs := if text.head?.any Char.isAlpha then Char.isAlpha else isSign
  (Word.ofText? (text.takeWhile belongs)).map fun word => (word, text.dropWhile belongs)

/-- Read digits, and behind a point more digits. -/
def readNumber (negative : Bool) (text : List Char) : Option (Number × List Char) :=
  let whole := text.takeWhile Char.isDigit
  if whole.isEmpty then none
  else
    match text.dropWhile Char.isDigit with
    | '.' :: behind =>
        let fraction := behind.takeWhile Char.isDigit
        some
          (⟨negative, Nat.ofDigitChars 10 (whole ++ fraction) 0, fraction.length⟩,
            behind.dropWhile Char.isDigit)
    | rest => some (⟨negative, Nat.ofDigitChars 10 whole 0, 0⟩, rest)

/-- Read the lexeme that begins with a character. -/
def readLexeme (head : Char) (rest : List Char) : Option (Lexeme × List Char) :=
  if head = Identifier.mark then
    (Identifier.readInside rest).map fun found => (.name (String.ofList found.1), found.2)
  else if head = '-' then
    (readNumber true rest).map fun found => (.number found.1, found.2)
  else if head.isDigit then
    (readNumber false (head :: rest)).map fun found => (.number found.1, found.2)
  else
    match Lexeme.ofCharacter? head with
    | some lexeme => some (lexeme, rest)
    | none => (readWord (head :: rest)).map fun found => (.word found.1, found.2)

/-! ## Every lexeme takes something away -/

theorem length_dropWhile_lt {belongs : Char -> Bool} {text : List Char}
    (some : text.takeWhile belongs ≠ []) : (text.dropWhile belongs).length < text.length := by
  have whole := congrArg List.length (List.takeWhile_append_dropWhile (p := belongs) (l := text))
  have positive := List.length_pos_iff.mpr some
  rw [List.length_append] at whole
  omega

theorem length_readInside {text name rest : List Char}
    (found : Identifier.readInside text = some (name, rest)) : rest.length ≤ text.length := by
  have written := congrArg List.length (Identifier.readInside_eq_some_iff.mp found).1
  rw [List.length_append, List.length_cons] at written
  omega

theorem length_readWord {text rest : List Char} {word : Word}
    (found : readWord text = some (word, rest)) : rest.length < text.length := by
  rcases Option.map_eq_some_iff.mp found with ⟨inner, read, same⟩
  cases same
  apply length_dropWhile_lt
  intro none
  have unnamed : Word.ofText? [] = .none := by decide
  rw [none, unnamed] at read
  cases read

theorem length_readNumber {negative : Bool} {text rest : List Char} {number : Number}
    (found : readNumber negative text = some (number, rest)) : rest.length < text.length := by
  unfold readNumber at found
  by_cases none : text.takeWhile Char.isDigit = []
  · simp [none] at found
  · have shorter := length_dropWhile_lt none
    simp only [List.isEmpty_iff, none, if_false] at found
    split at found
    · next behind point =>
        cases found
        have further := (List.dropWhile_sublist Char.isDigit (l := behind)).length_le
        rw [point, List.length_cons] at shorter
        omega
    · cases found
      exact shorter

theorem length_readLexeme {head : Char} {rest behind : List Char} {lexeme : Lexeme}
    (found : readLexeme head rest = some (lexeme, behind)) : behind.length ≤ rest.length := by
  unfold readLexeme at found
  split at found
  · rcases Option.map_eq_some_iff.mp found with ⟨inner, read, same⟩
    cases same
    exact length_readInside read
  · split at found
    · rcases Option.map_eq_some_iff.mp found with ⟨inner, read, same⟩
      cases same
      exact Nat.le_of_lt (length_readNumber read)
    · split at found
      · rcases Option.map_eq_some_iff.mp found with ⟨inner, read, same⟩
        cases same
        exact Nat.le_of_lt_succ (length_readNumber read)
      · split at found
        · cases found
          exact Nat.le_refl _
        · rcases Option.map_eq_some_iff.mp found with ⟨inner, read, same⟩
          cases same
          exact Nat.le_of_lt_succ (length_readWord read)

/-- All lexemes of a text. -/
def lex : List Char -> Option (List Lexeme)
  | [] => some []
  | head :: rest =>
      if head = ' ' then lex rest
      else
        match _ : readLexeme head rest with
        | none => none
        | some (lexeme, behind) => (lex behind).map (lexeme :: ·)
termination_by text => text.length
decreasing_by
  · exact Nat.lt_succ_self _
  · exact Nat.lt_succ_of_le (length_readLexeme ‹_›)

theorem lex_blank (rest : List Char) : lex (' ' :: rest) = lex rest := by
  rw [lex, if_pos rfl]

theorem lex_lexeme {head : Char} {rest behind : List Char} {lexeme : Lexeme}
    (notBlank : head ≠ ' ') (found : readLexeme head rest = some (lexeme, behind)) :
    lex (head :: rest) = (lex behind).map (lexeme :: ·) := by
  rw [lex, if_neg notBlank]
  split
  · next none =>
      rw [found] at none
      cases none
  · next same =>
      rw [found] at same
      cases same
      rfl

/-! ## What a writer puts together -/

theorem takeWhile_append_stop {belongs : Char -> Bool} {text rest : List Char}
    (all : text.all belongs = true) (stops : rest.head?.any belongs = false) :
    (text ++ rest).takeWhile belongs = text ∧ (text ++ rest).dropWhile belongs = rest := by
  have each := List.all_eq_true.mp all
  rw [List.takeWhile_append_of_pos each, List.dropWhile_append_of_pos each]
  cases rest with
  | nil => simp
  | cons next behind =>
      rw [List.head?_cons, Option.any_some] at stops
      simp [stops]

theorem readWord_text (word : Word) {rest : List Char}
    (noLetter : rest.head?.any Char.isAlpha = false) (noSign : rest.head?.any isSign = false) :
    readWord (word.text ++ rest) = some (word, rest) := by
  have starts : (word.text ++ rest).head? = word.text.head? := by
    cases word <;> rfl
  have uniform : (word.text.head?.any Char.isAlpha = true ∧ word.text.all Char.isAlpha = true) ∨
      (word.text.head?.any Char.isAlpha = false ∧ word.text.all isSign = true) := by
    cases word <;> decide
  unfold readWord
  rw [starts]
  rcases uniform with ⟨letter, all⟩ | ⟨sign, all⟩
  · rcases takeWhile_append_stop all noLetter with ⟨taken, dropped⟩
    simp [letter, taken, dropped, Word.ofText?_text]
  · rcases takeWhile_append_stop all noSign with ⟨taken, dropped⟩
    simp [sign, taken, dropped, Word.ofText?_text]

theorem lex_word (word : Word) (rest : List Char)
    (noLetter : rest.head?.any Char.isAlpha = false) (noSign : rest.head?.any isSign = false) :
    lex (word.text ++ rest) = (lex rest).map (.word word :: ·) := by
  have read := readWord_text word noLetter noSign
  cases text : word.text with
  | nil => cases word <;> cases text
  | cons head tail =>
      have plain : head ≠ ' ' ∧ head ≠ Identifier.mark ∧ head ≠ '-' ∧ head.isDigit = false ∧
          Lexeme.ofCharacter? head = none := by
        cases word <;> cases text <;> decide
      rcases plain with ⟨notBlank, notMark, notMinus, notDigit, notAlone⟩
      rw [text] at read
      apply lex_lexeme notBlank
      rw [List.cons_append] at read
      simp [readLexeme, notMark, notMinus, notDigit, notAlone, read]

theorem readNumber_numeral (numeral : Numeral) {rest : List Char}
    (noDigit : rest.head?.any Char.isDigit = false) (noPoint : rest.head? ≠ some '.') :
    readNumber numeral.negative (numeral.whole ++ numeral.tail ++ rest) =
      some (numeral.number, rest) := by
  rcases numeral with ⟨negative, whole, fraction, someDigits, digits⟩
  have wholeDigits : whole.all Char.isDigit = true :=
    List.all_eq_true.mpr fun character member => digits character (List.mem_append_left _ member)
  have fractionDigits : fraction.all Char.isDigit = true :=
    List.all_eq_true.mpr fun character member => digits character (List.mem_append_right _ member)
  unfold readNumber
  rw [List.append_assoc]
  cases fraction with
  | nil =>
      rcases takeWhile_append_stop wholeDigits noDigit with ⟨taken, dropped⟩
      simp only [Numeral.tail, List.nil_append, taken, dropped, List.isEmpty_iff, someDigits,
        if_false]
      split
      · next starts =>
          exact absurd rfl noPoint
      · simp [Numeral.number]
  | cons first others =>
      have point : (('.' :: (first :: others)) ++ rest).head?.any Char.isDigit = false := rfl
      rcases takeWhile_append_stop wholeDigits point with ⟨taken, dropped⟩
      rcases takeWhile_append_stop fractionDigits noDigit with ⟨takenBehind, droppedBehind⟩
      rw [List.cons_append] at takenBehind droppedBehind
      simp only [Numeral.tail, taken, dropped, List.isEmpty_iff, someDigits, if_false]
      simp [Numeral.number, takenBehind, droppedBehind]

theorem lex_number (numeral : Numeral) (rest : List Char)
    (noDigit : rest.head?.any Char.isDigit = false) (noPoint : rest.head? ≠ some '.') :
    lex (numeral.text ++ rest) = (lex rest).map (.number numeral.number :: ·) := by
  have read := readNumber_numeral numeral noDigit noPoint
  unfold Numeral.text
  cases negative : numeral.negative with
  | true =>
      rw [negative, List.append_assoc] at read
      apply lex_lexeme (by decide)
      have notMark : '-' ≠ Identifier.mark := by decide
      simp [readLexeme, notMark, read]
  | false =>
      rw [negative] at read
      cases whole : numeral.whole with
      | nil => exact absurd whole numeral.whole_ne_nil
      | cons first others =>
          have isDigit : first.isDigit = true :=
            numeral.isDigit_of_mem first (by rw [whole]; exact List.mem_cons_self)
          have different : forall other : Char, other.isDigit = false -> first ≠ other := by
            intro other notDigit same
            rw [same, notDigit] at isDigit
            cases isDigit
          rw [whole] at read
          apply lex_lexeme (different ' ' rfl)
          simp only [List.cons_append, List.append_assoc] at read
          simp [readLexeme, different Identifier.mark rfl, different '-' rfl, isDigit, read]

theorem lex_name (name : String) (rest : List Char)
    (detached : rest.head? ≠ some Identifier.mark) :
    lex ((Identifier.quote name).toList ++ rest) = (lex rest).map (.name name :: ·) := by
  have inside := Identifier.readInside_doubled name.toList rest detached
  rw [Identifier.toList_quote, List.cons_append]
  apply lex_lexeme (by decide)
  simp [readLexeme, inside]

/-! ## Texts by their lexemes -/

/-- What may follow a word or a number without becoming a part of it. -/
def Boundary (rest : List Char) : Prop :=
  forall next, rest.head? = some next -> next = ' ' ∨ next = ',' ∨ next = ')'

theorem Boundary.nil : Boundary [] := fun _ none => by cases none

theorem Boundary.stops {rest : List Char} (boundary : Boundary rest) {belongs : Char -> Bool}
    (blank : belongs ' ' = false) (comma : belongs ',' = false) (closing : belongs ')' = false) :
    rest.head?.any belongs = false := by
  cases rest with
  | nil => rfl
  | cons next behind =>
      rcases boundary next rfl with same | same | same <;> subst same <;> assumption

theorem Boundary.head_ne {rest : List Char} (boundary : Boundary rest) {character : Char}
    (other : character ∉ [' ', ',', ')']) : rest.head? ≠ some character := by
  intro starts
  apply other
  rcases boundary character starts with same | same | same <;> simp [same]

/-- These lexemes are in the text, when what follows cannot be a part of the last one. -/
def Lexes (text : List Char) (lexemes : List Lexeme) : Prop :=
  forall rest, Boundary rest -> lex (text ++ rest) = (lex rest).map (lexemes ++ ·)

/-- These lexemes are in the text, whatever follows. -/
def Opens (text : List Char) (lexemes : List Lexeme) : Prop :=
  forall rest, lex (text ++ rest) = (lex rest).map (lexemes ++ ·)

theorem Opens.append {first second : List Char} {lexemes others : List Lexeme}
    (opens : Opens first lexemes) (lexes : Lexes second others) :
    Lexes (first ++ second) (lexemes ++ others) := by
  intro rest boundary
  rw [List.append_assoc, opens, lexes rest boundary]
  simp [Function.comp_def]

theorem Lexes.append {first second : List Char} {lexemes others : List Lexeme}
    (left : Lexes first lexemes) (right : Lexes second others)
    (meets : forall rest, Boundary rest -> Boundary (second ++ rest)) :
    Lexes (first ++ second) (lexemes ++ others) := by
  intro rest boundary
  rw [List.append_assoc, left _ (meets rest boundary), right rest boundary]
  simp [Function.comp_def]

end Reader
end SelectBuilder
