namespace SelectBuilder

/-- A universally unique identifier: 128 bits. -/
structure Uuid where
  bits : BitVec 128
deriving DecidableEq, Repr

namespace Uuid

/-- All 32 digits in base sixteen, in lower case. -/
def digits (uuid : Uuid) : List Char :=
  (List.range 32).map fun place =>
    Nat.digitChar (uuid.bits.toNat / Nat.pow 16 (31 - place) % 16)

/-- The digits in groups of 8, 4, 4, 4 and 12, with hyphens between. -/
def text (uuid : Uuid) : String :=
  let group (start length : Nat) := (uuid.digits.drop start).take length
  String.ofList
    (['-'].intercalate [group 0 8, group 8 4, group 12 4, group 16 4, group 20 12])

end Uuid
end SelectBuilder
