namespace SelectBuilder

/-!
# Words compared without regard to case

Keywords such as join kinds and sort directions are recognized in any case.
Only the letters of ASCII have a case here: a letter of another alphabet is
equal to itself alone.
-/

/-- The letters of a word, all in lower case. -/
def lowerLetters (word : String) : List Char :=
  word.toList.map Char.toLower

/-- Whether two words differ in the case of their letters at most. -/
def sameWord (first second : String) : Bool :=
  lowerLetters first = lowerLetters second

end SelectBuilder
