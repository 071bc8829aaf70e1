namespace SelectBuilder
namespace Json

/-!
# Quoted strings of a JSON document

A quote, a backslash and the control characters below the blank are escaped;
every other character stands for itself.
-/

/-- A digit of base sixteen, in lower case, at a power of sixteen. -/
def hexDigit (number place : Nat) : Char :=
  Nat.digitChar (number / Nat.pow 16 place % 16)

/-- How one character stands in a quoted string. -/
def escaped (character : Char) : List Char :=
  match character with
  | '\x22' => ['\x5c', '\x22']
  | '\x5c' => ['\x5c', '\x5c']
  | '\x08' => ['\x5c', 'b']
  | '\x0c' => ['\x5c', 'f']
  | '\n' => ['\x5c', 'n']
  | '\r' => ['\x5c', 'r']
  | '\t' => ['\x5c', 't']
  | other =>
      if other.toNat < 32 then
        ['\x5c', 'u', '0', '0', hexDigit other.toNat 1, hexDigit other.toNat 0]
      else [other]

def quoted (text : String) : String :=
  String.ofList ('\x22' :: (text.toList.flatMap escaped ++ ['\x22']))

end Json
end SelectBuilder
