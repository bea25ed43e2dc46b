import Spreadsheet.Proofs.Number.Writable
import Spreadsheet.Proofs.Operator.Apply

/-!
Lists as operands: an operator refuses them, whatever the other operand is, unless it ends before it
looks at the list. A division by zero fails for the zero before the dividend is looked at, and a moment
with an offset ends whatever needs a number of it first.
-/

namespace Spreadsheet

/-- A number can be read from a text, or none, if no information separator is in it. -/
theorem Literal.exists_leading? {s : String} (plain : ∀ c ∈ s.toList, Text.isSeparator c = false) :
    ∃ found, leading? s = .ok found := by
  -- No blank in front is a separator, so the one fault of reading a number does not occur.
  have blanks : (s.toList.takeWhile Text.isBlank).any Text.isSeparator = false := by
    rw [List.any_eq_false]
    intro c member
    simp [plain c ((List.takeWhile_prefix _).mem member)]
  unfold leading?
  dsimp only
  split
  · exact ⟨none, rfl⟩
  · rename_i x rest found
    exact ⟨some x, by rw [blanks]; rfl⟩

/-- The kinds of failures that an operator has for operands that are no lists. -/
def singleKinds : List ErrorKind := [.coercion, .divisionByZero]

namespace Value

/--
A value that formulas can compute with: a number that can be written, a text without information
separators, or anything else but a foreign value. The items of a list are not looked at.
-/
def Ordinary : Value → Prop
  | number n => n.Writable
  | text s => ∀ c ∈ s.toList, Text.isSeparator c = false
  | foreign _ => False
  | blank | truth _ | moment _ | day _ | list _ => True

/-- A moment with an offset. -/
def isZoned : Value → Bool
  -- The items of a list are not looked at.
  | moment m => m.offset.isSome
  | _ => false

/--
What reads an operand of an operator, a number of it if `numeric` says so: it refuses a list, fails for
a moment with an offset if it needs a number, and finds what it looks for in any other ordinary value.
-/
structure Guards {α : Type} (numeric : Bool) (read : Value → Except Failure α) : Prop where
  refuses {v : Value} (list : v.isList = true) : read v = .error (.formula .listInContext)
  stops {v : Value} (needed : numeric = true) (zoned : v.isZoned = true) :
    read v = .error (.fault .zoned)
  reads {v : Value} (ordinary : v.Ordinary) (single : ¬v.isList = true)
    (readable : ¬(numeric = true ∧ v.isZoned = true)) : ∃ a, read v = .ok a

/-- Looking for one value passes everything but a list. -/
theorem scalar_guards : Guards false scalar where
  refuses list := by rw [scalar, if_pos list]
  stops needed := by cases needed
  reads _ single _ := ⟨_, by rw [scalar, if_neg single]⟩

/-- A number is read from every ordinary value but a list or a moment with an offset. -/
theorem toNumber_guards (epoch : Epoch) : Guards true (toNumber epoch) where
  -- One case for each kind of value in each of the three laws.
  refuses {v} list := by
    cases v with
    | list items => rfl
    | _ => cases list
  stops {v} _ zoned := by
    cases v with
    | moment m =>
      obtain ⟨offset, known⟩ := Option.isSome_iff_exists.mp zoned
      rw [toNumber, Epoch.serial, known]
      rfl
    | _ => cases zoned
  reads {v} ordinary single readable := by
    cases v with
    | text s =>
      obtain ⟨found, read⟩ := Literal.exists_leading? ordinary
      rw [toNumber, read]
      cases found <;> exact ⟨_, rfl⟩
    | list items => exact absurd rfl single
    | foreign f => exact ordinary.elim
    | moment m =>
      have plain : m.offset = none := by simpa [isZoned] using readable
      rw [toNumber, Epoch.serial, plain]
      exact ⟨_, rfl⟩
    | blank | truth _ | number _ | day _ => exact ⟨_, rfl⟩

/-- The text of one value is that of every ordinary value but a list. -/
theorem text_guards : Guards false fun v => v.scalar >>= toText where
  refuses list := by
    rw [scalar_guards.refuses list]
    rfl
  stops needed := by cases needed
  reads {v} ordinary single _ := by
    -- Only numbers are written in a way that can fail, and this one is short enough.
    rw [scalar, if_neg single]
    show ∃ s, v.toText = .ok s
    cases v with
    | number n =>
      obtain ⟨s, written⟩ := Number.exists_text ordinary
      rw [toText, written]
      exact ⟨s, rfl⟩
    | list items => exact absurd rfl single
    | foreign f => exact ordinary.elim
    | blank | truth _ | text _ | moment _ | day _ => simp [toText]

namespace Guards

variable {α β : Type} {numeric : Bool} {read : Value → Except Failure α} {left right : Value}

/-- Reading an operand that is no list fails at a moment with an offset alone, which is a fault. -/
theorem fails (guards : Guards numeric read) (ordinary : left.Ordinary)
    (single : ¬left.isList = true) : FailsAmong singleKinds (read left) := by
  -- Either the operand stops the reading, which is no failure of formulas, or it is read.
  by_cases met : numeric = true ∧ left.isZoned = true
  · rw [guards.stops met.1 met.2]
    trivial
  · obtain ⟨a, found⟩ := guards.reads ordinary single met
    rw [found]
    trivial

/-- Reading two operands ends at a list, if the first one can be read or is the list. -/
theorem both_refuse (guards : Guards numeric read) (ordinary : left.Ordinary)
    (list : left.isList = true ∨ right.isList = true)
    (readable : ¬(numeric = true ∧ left.isZoned = true)) (next : α → α → Except Failure β) :
    (read left >>= fun a => read right >>= fun b => next a b) =
      .error (.formula .listInContext) := by
  -- The first list that is met ends the reading; before it everything is read.
  by_cases first : left.isList = true
  · rw [guards.refuses first]
    rfl
  · obtain ⟨a, found⟩ := guards.reads ordinary first readable
    rw [found, guards.refuses (list.resolve_left first)]
    rfl

end Guards

/-- Only foreign values have no type. -/
theorem type_fails (v : Value) : FailsAmong singleKinds v.type := by
  -- Foreign values are of no type, which is a coercion.
  cases v with
  | foreign f => exact List.mem_cons_self
  | _ => trivial

end Value

/-- A failure for a list where one value is needed. -/
def RefusesRange {α : Type} (x : Except Failure α) : Prop :=
  ∃ e : FormulaError, x = .error (.formula e) ∧ e.kind = .invalidRangeUsage

namespace BinaryOp

open Value (Guards scalar_guards toNumber_guards text_guards type_fails)

variable {op : BinaryOp} {left right : Value}

/-- A division whose divisor reads as zero. -/
def DividesByZero (op : BinaryOp) (right : Value) : Prop :=
  op = .div ∧ ∃ n, right.toNumber .from1900 = .ok n ∧ n.isZero = true

/-- An operator that needs numbers of its operands. -/
def isNumeric : BinaryOp → Bool
  -- Values are equal or joined as what they are.
  | eq | ne | concat => false
  | lt | gt | le | ge | add | sub | mul | div | pow => true

/-- The operand that an operator reads first. -/
def firstRead (op : BinaryOp) (left right : Value) : Value :=
  -- Only a division reads the right one before the left one.
  if op = .div then right else left

/-- An operator that needs a number of a moment with an offset before it reads the other operand. -/
def MeetsZone (op : BinaryOp) (left right : Value) : Prop :=
  op.isNumeric = true ∧ (op.firstRead left right).isZoned = true

/-- What reads both operands through one guard, the left one first, and fails later for no list. -/
def ReadsBoth (numeric : Bool) (compute : Value → Value → Except Failure Value) : Prop :=
  ∃ (α : Type) (read : Value → Except Failure α) (next : α → α → Except Failure Value),
    Guards numeric read ∧ (∀ a b, FailsAmong singleKinds (next a b)) ∧
      ∀ left right, compute left right = read left >>= fun a => read right >>= fun b => next a b

/-- Arithmetic on the numbers of two operands reads both of them. -/
theorem onNumbers_readsBoth {α : Type} (operation : Number → Number → Except Fault α)
    (make : α → Value) :
    ReadsBoth true fun left right => do return make (← onNumbers operation left right) := by
  refine ⟨_, _, fun a b => do return make (← (operation a b : Except Fault α)),
    toNumber_guards .from1900, fun a b => ?_, fun left right => ?_⟩
  · -- What is done with the numbers may be a fault, but no failure of formulas.
    dsimp only
    cases operation a b <;> trivial
  · simp only [onNumbers, bind_assoc]

/-- Comparing two operands reads both of them. -/
theorem equal_readsBoth (make : Bool → Value) :
    ReadsBoth false fun left right => do return make (← left.equal right) := by
  -- The types are compared before the values are.
  refine ⟨_, _, fun a b => do
      let s ← a.type
      let t ← b.type
      return make (s == t && a.same b), scalar_guards, fun a b => ?_, fun left right => ?_⟩
  · exact a.type_fails.bind fun _ _ => b.type_fails.bind fun _ _ => trivial
  · simp only [Value.equal, bind_assoc, pure_bind]

/-- Joining two operands reads both of them. -/
theorem join_readsBoth : ReadsBoth false join := by
  refine ⟨_, _, fun s t => return .text (s ++ t), text_guards, fun _ _ => trivial,
    fun left right => ?_⟩
  simp only [join, bind_assoc]

/-- A power reads both of its operands. -/
theorem raise_readsBoth : ReadsBoth true raise := by
  refine ⟨_, _, _, toNumber_guards .from1900, fun base exponent => ?_, fun left right => rfl⟩
  -- A zero to a negative power is a division by zero, the other failures are faults.
  split
  · trivial
  · trivial
  · split
    · exact List.mem_cons_of_mem _ List.mem_cons_self
    · trivial

/-- Every operator but division reads both of its operands. -/
theorem compute_readsBoth (other : op ≠ .div) : ReadsBoth op.isNumeric op.compute := by
  -- One case for each operator.
  cases op with
  | eq => exact equal_readsBoth .truth
  | ne => exact equal_readsBoth fun b => .truth !b
  | lt | gt | le | ge => exact onNumbers_readsBoth _ .truth
  | add | sub | mul => exact onNumbers_readsBoth _ .number
  | concat => exact join_readsBoth
  | pow => exact raise_readsBoth
  | div => exact absurd rfl other

section Division

variable (ordinary' : right.Ordinary)

/-- A division by zero fails for the zero, whatever is divided. -/
theorem compute_of_dividesByZero (divides : op.DividesByZero right) :
    op.compute left right = .error (.formula .divisionByZero) := by
  obtain ⟨rfl, n, read, zero⟩ := divides
  -- The divisor is all that is read.
  rw [compute, divide, read]
  exact if_pos zero

include ordinary'

/-- A list is no divisor, and no dividend of a divisor that is a number other than zero. -/
theorem divide_refuses (list : left.isList = true ∨ right.isList = true)
    (nonzero : ¬DividesByZero .div right) (readable : ¬right.isZoned = true) :
    divide left right = .error (.formula .listInContext) := by
  -- The divisor comes first: it is the list, or a number other than zero before the dividend.
  have guards := toNumber_guards .from1900
  by_cases second : right.isList = true
  · rw [divide, guards.refuses second]
    rfl
  · obtain ⟨n, read⟩ := guards.reads ordinary' second fun met => readable met.2
    have other : ¬n.isZero = true := fun zero => nonzero ⟨rfl, n, read, zero⟩
    rw [divide, read, guards.refuses (list.resolve_right second)]
    exact if_neg other

/-- A quotient of values that are no lists fails for no list. -/
theorem divide_fails (ordinary : left.Ordinary) (first : ¬left.isList = true)
    (second : ¬right.isList = true) :
    FailsAmong singleKinds (divide left right) := by
  have guards := toNumber_guards .from1900
  -- First the divisor is read, then it is tested, and only then the dividend is read.
  refine (guards.fails ordinary' second).bind fun divisor _ => ?_
  dsimp only
  split
  · exact List.mem_cons_of_mem _ List.mem_cons_self
  · refine (guards.fails ordinary first).bind fun dividend _ => ?_
    cases dividend.div divisor <;> trivial

end Division

/-- An operator that needs a number of a moment with an offset fails there, whatever else it is given. -/
theorem compute_of_meetsZone (meets : op.MeetsZone left right) :
    op.compute left right = .error (.fault .zoned) := by
  obtain ⟨needed, zoned⟩ := meets
  by_cases division : op = .div
  · -- The divisor is read before anything else is done.
    subst division
    rw [firstRead, if_pos rfl] at zoned
    rw [compute, divide, (toNumber_guards .from1900).stops rfl zoned]
    rfl
  · rw [firstRead, if_neg division] at zoned
    obtain ⟨_, read, next, guards, -, same⟩ := compute_readsBoth division
    rw [same, guards.stops needed zoned]
    rfl

section Operands

variable (ordinary : left.Ordinary) (ordinary' : right.Ordinary)

include ordinary ordinary'

/-- An operator refuses a list on either side, unless it ends at the other operand before. -/
theorem compute_refuses (list : left.isList = true ∨ right.isList = true)
    (nonzero : ¬op.DividesByZero right) (readable : ¬op.MeetsZone left right) :
    op.compute left right = .error (.formula .listInContext) := by
  -- Division has its own order, all other operators read the left operand first.
  by_cases division : op = .div
  · subst division
    exact divide_refuses ordinary' list nonzero fun zoned => readable ⟨rfl, zoned⟩
  · rw [MeetsZone, firstRead, if_neg division] at readable
    obtain ⟨_, read, next, guards, -, same⟩ := compute_readsBoth division
    rw [same]
    exact guards.both_refuse ordinary list readable next

/-- An operator between values that are no lists fails for no list. -/
theorem compute_fails (first : ¬left.isList = true) (second : ¬right.isList = true) :
    FailsAmong singleKinds (op.compute left right) := by
  -- Division has its own order, all other operators go on once both operands are read.
  by_cases division : op = .div
  · subst division
    exact divide_fails ordinary' ordinary first second
  · obtain ⟨_, read, next, guards, fails, same⟩ := compute_readsBoth division
    rw [same]
    exact (guards.fails ordinary first).bind fun a _ =>
      (guards.fails ordinary' second).bind fun b _ => fails a b

end Operands

/-- What formulas fail for is left as it was. -/
theorem apply_eq_error_iff {e : FormulaError} :
    op.apply left right = .error (.formula e) ↔ op.compute left right = .error (.formula e) := by
  -- Only faults are turned into other failures, and into one of formulas only for overflow.
  unfold apply
  split
  · rename_i f failed
    rw [failed]
    split <;> simp
  · rfl

/-- A moment with an offset that a number is needed of is a fault, which no operator hides. -/
theorem apply_of_meetsZone (meets : op.MeetsZone left right) :
    op.apply left right = .error (.fault .zoned) := by
  rw [apply, compute_of_meetsZone meets]
  rfl

/--
An operator refuses a list on either side, and nothing else in this way. Only two operations on a list
do not, which end before they look at it: a division by zero fails for the zero, since the divisor is
looked at before the dividend is, and an operation that needs a number of a moment with an offset first
fails for that.
-/
theorem apply_refusesRange (op : BinaryOp) {left right : Value} (ordinary : left.Ordinary)
    (ordinary' : right.Ordinary) :
    (RefusesRange (op.apply left right) ↔ (left.isList = true ∨ right.isList = true) ∧
        ¬op.DividesByZero right ∧ ¬op.MeetsZone left right) ∧
      ((left.isList = true ∨ right.isList = true) → ¬op.DividesByZero right →
        ¬op.MeetsZone left right → op.apply left right = .error (.formula .listInContext)) ∧
      (op.DividesByZero right → op.apply left right = .error (.formula .divisionByZero)) ∧
      (op.MeetsZone left right → op.apply left right = .error (.fault .zoned)) := by
  -- The ways to end are settled first, which leaves the converse of the first part.
  have refused : (left.isList = true ∨ right.isList = true) → ¬op.DividesByZero right →
      ¬op.MeetsZone left right → op.apply left right = .error (.formula .listInContext) :=
    fun list nonzero readable =>
      apply_eq_error_iff.mpr (compute_refuses ordinary ordinary' list nonzero readable)
  have divided : op.DividesByZero right → op.apply left right = .error (.formula .divisionByZero) :=
    fun divides => apply_eq_error_iff.mpr (compute_of_dividesByZero divides)
  refine ⟨⟨?_, fun ⟨list, nonzero, readable⟩ => ⟨_, refused list nonzero readable, rfl⟩⟩, refused,
    divided, apply_of_meetsZone⟩
  rintro ⟨e, failed, kind⟩
  refine ⟨?_, fun divides => ?_, fun meets => ?_⟩
  · -- Without any list an operator fails in other ways only.
    by_contra single
    obtain ⟨first, second⟩ := not_or.mp single
    have computed := apply_eq_error_iff.mp failed
    have among := (compute_fails ordinary ordinary' first second).kind_mem computed
    rw [kind] at among
    exact absurd among (by decide)
  · -- The two exceptions end in their own ways.
    rw [divided divides] at failed
    cases failed
    cases kind
  · rw [apply_of_meetsZone meets] at failed
    cases failed

/--
Divided by one a range is refused, a number is not; by a blank the range fails for the zero, and added
to a moment in universal time it fails for the moment.
-/
theorem apply_refusesRange_pair :
    (Value.list [.whole 1, .whole 2]).Ordinary ∧ (Value.whole 1).Ordinary ∧
      div.apply (.list [.whole 1, .whole 2]) (.whole 1) = .error (.formula .listInContext) ∧
      ¬RefusesRange (div.apply (.whole 1) (.whole 1)) ∧
      div.DividesByZero .blank ∧
      div.apply (.list [.whole 1, .whole 2]) .blank = .error (.formula .divisionByZero) ∧
      add.apply (.moment ⟨⟨2024, 1, 1⟩, .midnight, some ⟨0⟩⟩) (.list [.whole 1, .whole 2]) =
        .error (.fault .zoned) := by
  have short : (Value.whole 1).Ordinary := show 1 < 10 ^ digitLimit by decide +kernel
  have listed : (Value.list [.whole 1, .whole 2]).Ordinary := trivial
  have empty : Value.blank.Ordinary := trivial
  have midnight : (Value.moment ⟨⟨2024, 1, 1⟩, .midnight, some ⟨0⟩⟩).Ordinary := trivial
  -- One is not zero, and a blank is.
  have one : ¬div.DividesByZero (.whole 1) := by
    rintro ⟨-, n, read, zero⟩
    cases read
    exact absurd zero (by decide)
  have zero : div.DividesByZero .blank := ⟨rfl, _, rfl, by decide⟩
  refine ⟨listed, short, ?_, fun refused => ?_, zero, ?_, ?_⟩
  · exact (apply_refusesRange div listed short).2.1 (.inl rfl) one fun meets => nomatch meets.2
  · exact absurd ((apply_refusesRange div short short).1.mp refused).1 (by decide)
  · exact (apply_refusesRange div listed empty).2.2.1 zero
  · exact (apply_refusesRange add midnight listed).2.2.2 ⟨rfl, rfl⟩

/-- Not every list is refused: one that is divided by zero fails for the zero. -/
theorem list_divided_by_zero :
    ¬∀ (op : BinaryOp) (left right : Value), left.Ordinary → right.Ordinary →
      (RefusesRange (op.apply left right) ↔ left.isList = true ∨ right.isList = true) := by
  intro all
  -- One list divided by zero is enough.
  have short : (Value.whole 0).Ordinary := show 0 < 10 ^ digitLimit by decide +kernel
  have computed : div.apply (.list [.whole 1]) (.whole 0) = .error (.formula .divisionByZero) := rfl
  obtain ⟨e, failed, kind⟩ := (all div (.list [.whole 1]) (.whole 0) trivial short).mpr (.inl rfl)
  rw [computed] at failed
  cases failed
  cases kind

end BinaryOp
end Spreadsheet
