import SelectBuilder.Text.Unshown

namespace SelectBuilder

/-!
# Text quoted for a reader

In a description, text stands in quotes in such a way that every character
can be seen: what does not show by itself is given by its code point.
-/

/-- A code point in base sixteen, between braces. -/
def codePointText (character : Char) : List Char :=
  ['\x5c', 'u', '\x7b'] ++ Nat.toDigits 16 character.toNat ++ ['\x7d']

def shownCharacter (character : Char) : List Char :=
  match character with
  | '\x22' => ['\x5c', '\x22']
  | '\x5c' => ['\x5c', '\x5c']
  | '\x00' => ['\x5c', '0']
  | '\n' => ['\x5c', 'n']
  | '\r' => ['\x5c', 'r']
  | '\t' => ['\x5c', 't']
  | other => if isUnshown other then codePointText other else [other]

def quotedForReader (text : String) : String :=
  String.ofList ('\x22' :: (text.toList.flatMap shownCharacter ++ ['\x22']))

end SelectBuilder
