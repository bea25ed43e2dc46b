import Spreadsheet.Function.Argument
import Spreadsheet.Proofs.Number.Worth
import Spreadsheet.Proofs.Outcome

/-!
What functions read from whole numbers: the number itself, or a count that is not below zero. Values
that are read exactly, and the whole numbers that they are read as.
-/

namespace Spreadsheet

namespace Value

/-- A value that is read without rounding: nothing, a truth value, or a whole number of any size. -/
inductive Exact : Value → Prop where
  /-- Nothing. -/
  | blank : Exact blank
  /-- A truth value. -/
  | truth (b : Bool) : Exact (truth b)
  /-- A whole number. -/
  | whole (n : ℤ) : Exact (whole n)

/-- The whole number that an exact value is read as, if it is read as any. -/
def whole? : Value → Option ℤ
  -- The truth is one and its opposite is zero.
  | truth b => some b.toNat
  | number (.whole n) => some n
  | _ => none

/-- The whole numbers that some values and the values in their lists are read as, in order. -/
def wholes (vs : List Value) : List ℤ :=
  -- Nothing is left out.
  (leavesOfAll vs).filterMap whole?

/-- Values that are exact, in lists of any depth. -/
def AllExact (vs : List Value) : Prop :=
  -- Lists are looked into.
  ∀ leaf ∈ leavesOfAll vs, leaf.Exact

variable {v : Value} {vs ws : List Value}

/-- An exact value is read as its whole number. -/
theorem Exact.toNumber? (exact : v.Exact) (epoch : Epoch) :
    v.toNumber? epoch = .ok (v.whole?.map .whole) := by
  -- Each of the three sorts is read by its own rule.
  cases exact <;> rfl

/-- The values in two lists of values are those in the first and those in the second. -/
theorem leavesOfAll_append (vs ws : List Value) :
    leavesOfAll (vs ++ ws) = leavesOfAll vs ++ leavesOfAll ws := by
  -- The induction is along the first list.
  induction vs with
  | nil => rw [List.nil_append, leavesOfAll, List.nil_append]
  | cons v rest ih => rw [List.cons_append, leavesOfAll, leavesOfAll, ih, List.append_assoc]

/-- The whole numbers of two lists are those of the first and those of the second. -/
theorem wholes_append (vs ws : List Value) : wholes (vs ++ ws) = wholes vs ++ wholes ws := by
  rw [wholes, leavesOfAll_append, List.filterMap_append, wholes, wholes]

/-- Two lists of exact values make one. -/
theorem AllExact.append (exact : AllExact vs) (exact' : AllExact ws) : AllExact (vs ++ ws) := by
  intro leaf member
  -- A leaf of the whole is one of either list.
  rw [leavesOfAll_append, List.mem_append] at member
  exact member.elim (exact leaf) (exact' leaf)

end Value

namespace Argument

/-- From exact values functions read their whole numbers. -/
theorem numbers_of_exact {vs : List Value} (exact : Value.AllExact vs) :
    numbers vs = .ok ((Value.wholes vs).map .whole) := by
  rw [Value.AllExact] at exact
  rw [numbers, Value.wholes]
  generalize Value.leavesOfAll vs = leaves at exact
  -- The induction is along the leaves, each of which gives its number or none.
  induction leaves with
  | nil => rfl
  | cons leaf rest ih =>
    have first := (exact leaf List.mem_cons_self).toNumber? .from1900
    have others := ih fun other member => exact other (List.mem_cons_of_mem leaf member)
    rw [Value.numbers, first, others, List.filterMap_cons]
    cases leaf.whole? <;> rfl

/-- A whole number reads as itself. -/
theorem finite?_whole (n : ℤ) : finite? (.whole n) = .ok (some (.whole n)) := rfl

/-- A whole number counts from zero on. -/
theorem size_whole (default n : ℤ) : size default (.whole n) = .ok n.toNat := by
  rw [size, finite?_whole]
  show (do return (← ((Number.whole n).truncate : Except Fault Int)).toNat : Except Failure Nat) = _
  rw [Number.truncate_whole]
  rfl

/-- A text reads as itself. -/
theorem text_text (s : String) : text (.text s) = .ok s := rfl

end Argument
end Spreadsheet
