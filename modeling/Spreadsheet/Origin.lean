/-! Origins of values that equal nothing, by which such a value is known when it is met again. -/

namespace Spreadsheet

/-- Where a value comes from that equals nothing, not even itself. -/
inductive Origin where
  /-- It was entered, under an index that no other such value has. -/
  | entered (index : Nat)
  /-- It was computed, where these places lead that a reader of the whole passes in turn. -/
  | computed (places : List Nat)
  deriving DecidableEq, Repr

namespace Origin

/-- The origin of a value that has just been computed. -/
def fresh : Origin := .computed []

/-- The origin of a value, seen from the list in which the value stands at or under a place. -/
def under (place : Nat) : Origin → Origin
  -- What was entered keeps its index wherever it goes.
  | entered index => entered index
  | computed places => computed (place :: places)

end Origin
end Spreadsheet
