import Spreadsheet.Operator.Apply
import Spreadsheet.Proofs.Number.Faults
import Spreadsheet.Proofs.Zoned

/-!
How conversions and operators fail: for a reason that lies in the values they are given, with a fault
of conversion, or at a moment with an offset, if one of the values has such a moment in it.
-/

namespace Spreadsheet

/-- The kinds of failures that belong to the computation with values. -/
def computingKinds : List ErrorKind := [.coercion, .divisionByZero, .numeric, .invalidRangeUsage]

/-- A fault is of a sort, or it is that of a moment with an offset, where there is one. -/
def Fault.OrZoned (zoned : Prop) (faults : Fault → Prop) (f : Fault) : Prop :=
  -- The moment is met whatever else the computation can fail for.
  faults f ∨ f = .zoned ∧ zoned

/--
A computation with values fails only for reasons that lie in them, with faults of a sort, or at a moment
with an offset if `zoned` says that the values have one.
-/
abbrev Computes {α : Type} (zoned : Prop) (faults : Fault → Prop) (x : Except Failure α) : Prop :=
  FailsOnly (Failure.Among computingKinds (Fault.OrZoned zoned faults)) x

variable {zoned : Prop} {faults : Fault → Prop}

namespace Computes

variable {α β : Type}

/-- A value that is there already is no failure. -/
theorem done (a : α) : Computes zoned faults (pure a : Except Failure α) := trivial

/-- A reason that lies in the values. -/
theorem refuse {e : FormulaError} (kind : e.kind ∈ computingKinds) :
    Computes zoned faults (throw (.formula e) : Except Failure α) := kind

/-- One computation after another. -/
theorem bind {x : Except Failure α} {next : α → Except Failure β} (first : Computes zoned faults x)
    (second : ∀ a, Computes zoned faults (next a)) : Computes zoned faults (x >>= next) :=
  Delivers.bind first fun a _ => second a

/-- Arithmetic is a computation that meets no moments. -/
theorem lift {P : α → Prop} {x : Except Fault α} (first : Delivers P faults x) :
    Delivers P (Failure.Among computingKinds (Fault.OrZoned zoned faults))
      (liftM x : Except Failure α) :=
  .lift (first.fails fun _ => .inl)

/-- Arithmetic before a computation. -/
theorem arithmetic {x : Except Fault α} {next : α → Except Failure β} (first : FailsOnly faults x)
    (second : ∀ a, Computes zoned faults (next a)) :
    Computes zoned faults ((liftM x : Except Failure α) >>= next) :=
  bind (lift first) second

/-- A computation may fail with more faults than it does. -/
theorem wider {more : Fault → Prop} {x : Except Failure α} (computes : Computes zoned faults x)
    (weaker : ∀ f, faults f → more f) : Computes zoned more x :=
  Delivers.fails computes fun _ among =>
    among.mono (List.Subset.refl _) fun f => Or.imp_left (weaker f)

/-- A fault of conversion is one of conversion or of range. -/
theorem ranged {x : Except Failure α} (computes : Computes zoned Fault.Conversion x) :
    Computes zoned Fault.Ranged x :=
  computes.wider fun _ => .inl

/-- A fault of conversion is one of arithmetic. -/
theorem proper {x : Except Failure α} (computes : Computes zoned Fault.Conversion x) :
    Computes zoned Fault.Proper x :=
  computes.wider fun _ conversion => Fault.Ranged.proper (.inl conversion)

/-- A computation that has met no fault can be said to have faults of any sort. -/
theorem faultless {more : Fault → Prop} {x : Except Failure α} (computes : Computes zoned faults x)
    (other : ∀ f, x = .error (.fault f) → False) : Computes zoned more x := by
  -- What is left is a value, or a reason that lies in the values.
  cases computed : x with
  | ok a => trivial
  | error e =>
    cases e with
    | formula e => exact computes.kind_mem computed
    | fault f => exact absurd computed (other f)

end Computes

/-- Only moments with an offset have no serial number. -/
theorem Epoch.serial_computes (epoch : Epoch) {m : Moment} (told : (Value.moment m).Told zoned) :
    Computes zoned faults (liftM (epoch.serial m) : Except Failure Float) := by
  -- A moment without an offset has one.
  rw [serial]
  split
  · trivial
  · rename_i offset known
    exact .inr ⟨rfl, told (.moment (by rw [known]; rfl))⟩

namespace Value

/-- Only values without a type fail to give it. -/
theorem type_computes (v : Value) : Computes zoned faults v.type := by
  -- A value without a type is a matter of conversion.
  cases v with
  | foreign f => exact Computes.refuse (List.mem_of_elem_eq_true rfl)
  | _ => trivial

/-- Only lists are refused where one value is needed. -/
theorem scalar_computes (v : Value) : Computes zoned faults v.scalar := by
  -- The value is not looked at otherwise.
  rw [scalar]
  split
  · exact Computes.refuse (by decide)
  · trivial

/-- A value that gives no number fails for what it is. -/
theorem toNumber_computes (epoch : Epoch) {v : Value} (told : v.Told zoned) :
    Computes zoned Fault.Conversion (v.toNumber epoch) := by
  -- A text fails as its literal does, a moment as its serial number.
  cases v with
  | moment m => exact (epoch.serial_computes told).bind fun _ => .done _
  | text s =>
    refine Computes.arithmetic (Literal.leading?_converts s) fun found => ?_
    cases found <;> trivial
  | list vs => exact Computes.refuse (by decide)
  | foreign f => exact Computes.refuse (List.mem_of_elem_eq_true rfl)
  | _ => trivial

/-- Looking for a number in an argument fails for a text or a moment alone. -/
theorem toNumber?_computes (epoch : Epoch) {v : Value} (told : v.Told zoned) :
    Computes zoned Fault.Conversion (v.toNumber? epoch) := by
  -- A list of one value is that value.
  induction v using toNumber?.induct with
  | case5 m =>
    rw [toNumber?]
    exact (epoch.serial_computes told).bind fun _ => .done _
  | case4 s =>
    rw [toNumber?]
    exact Computes.arithmetic (Literal.leading?_converts s) fun found => Computes.done _
  | case7 v ih =>
    rw [toNumber?]
    exact ih fun inside => told (.item List.mem_cons_self inside)
  | case8 vs many =>
    rw [toNumber?]
    · trivial
    · exact many
  | _ => simp only [toNumber?]; trivial

/-- A number fails to be written for its length alone. -/
theorem number_text_converts (n : Number) : FailsOnly Fault.Conversion n.text := by
  unfold Number.text
  -- The limit is too large to be computed.
  generalize Nat.pow 10 digitLimit = limit
  split
  · split
    · exact .tooLongToWrite
    · trivial
  · trivial
  · trivial

/-- A value that gives no text fails for what it is. -/
theorem toText_computes (v : Value) : Computes zoned Fault.Conversion v.toText := by
  -- A list of one value is that value.
  induction v using toText.induct with
  | case3 n =>
    rw [toText]
    exact Computes.lift (number_text_converts n)
  | case7 v ih =>
    rw [toText]
    exact ih
  | case8 vs many =>
    rw [toText]
    · exact Computes.refuse (by decide)
    · exact many
  | case9 f =>
    rw [toText]
    exact Computes.refuse (List.mem_of_elem_eq_true rfl)
  | _ => simp only [toText]; trivial

/-- Values are compared for reasons to fail that lie in them. -/
theorem equal_computes (left right : Value) : Computes zoned faults (left.equal right) :=
  (scalar_computes left).bind fun a => (scalar_computes right).bind fun b =>
    (type_computes a).bind fun _ => (type_computes b).bind fun _ => .done _

end Value

/-- Joining texts fails as its parts do. -/
theorem BinaryOp.join_computes (left right : Value) : Computes zoned Fault.Conversion (join left right) :=
  left.scalar_computes.bind fun a => a.toText_computes.bind fun _ =>
    right.scalar_computes.bind fun b => b.toText_computes.bind fun _ => .done _

section Operands

variable {left right : Value} (told : left.Told zoned) (told' : right.Told zoned)

include told told'

namespace BinaryOp

/-- An operation on numbers fails as reading the numbers does, or for range. -/
theorem onNumbers_computes {α : Type} {operation : Number → Number → Except Fault α}
    (each : ∀ a b, FailsOnly Fault.Ranged (operation a b)) :
    Computes zoned Fault.Ranged (onNumbers operation left right) :=
  (Value.toNumber_computes _ told).ranged.bind fun a =>
    (Value.toNumber_computes _ told').ranged.bind fun b => Computes.lift (each a b)

/-- A quotient fails as its parts do, for range, or for a zero. -/
theorem divide_computes : Computes zoned Fault.Ranged (divide left right) := by
  -- The zero is a reason of its own, so the quotient has none to fail for.
  refine (Value.toNumber_computes _ told').ranged.bind fun divisor => ?_
  dsimp only
  split
  · exact Computes.refuse (by decide)
  · rename_i some
    refine (Value.toNumber_computes _ told).ranged.bind fun dividend => ?_
    exact .arithmetic (dividend.div_ranged (Bool.of_not_eq_true some)) fun _ => .done _

/-- A power fails as its parts do, for range, or for a zero. -/
theorem raise_computes : Computes zoned Fault.Ranged (raise left right) := by
  -- The base is read before the exponent.
  refine (Value.toNumber_computes _ told).ranged.bind fun base => ?_
  refine (Value.toNumber_computes _ told').ranged.bind fun exponent => ?_
  split
  · trivial
  · trivial
  · rename_i f failed
    -- A zero is a reason of its own, other faults stay faults.
    split
    · exact Computes.refuse (by decide)
    · rename_i other
      rcases (base.power_delivers exponent).of_error failed with ranged | zero
      · exact .inl ranged
      · exact absurd zero other

/-- An operator fails as its parts do, or for range. -/
theorem compute_computes (op : BinaryOp) :
    Computes zoned Fault.Ranged (op.compute left right) := by
  -- One case for each operator.
  cases op with
  | eq | ne => exact (left.equal_computes right).bind fun _ => .done _
  | lt | gt | le | ge =>
    refine Computes.bind (onNumbers_computes told told' fun a b => ?_) fun _ => .done _
    -- Comparing numbers does not fail.
    trivial
  | add => exact (onNumbers_computes told told' Number.add_ranged).bind fun _ => .done _
  | sub => exact (onNumbers_computes told told' Number.sub_ranged).bind fun _ => .done _
  | mul => exact (onNumbers_computes told told' Number.mul_ranged).bind fun _ => .done _
  | concat => exact (join_computes left right).ranged
  | div => exact divide_computes told told'
  | pow => exact raise_computes told told'

/-- An operator fails for reasons that lie in its operands, or for a conversion. -/
theorem apply_computes (op : BinaryOp) :
    Computes zoned Fault.Conversion (op.apply left right) := by
  have computes := compute_computes told told' op
  rw [apply]
  split
  · rename_i f failed
    -- A result that is out of range is no failure.
    split
    · trivial
    · rename_i inRange
      rcases computes.of_error failed with (conversion | overflow) | met
      · exact .inl conversion
      · exact absurd overflow inRange
      · exact .inr met
  · rename_i other
    -- What is no fault is left as it was.
    exact computes.faultless other

end BinaryOp

end Operands

/-- A sign fails for reasons that lie in its operand, or for a conversion. -/
theorem UnaryOp.apply_computes (op : UnaryOp) {operand : Value} (told : operand.Told zoned) :
    Computes zoned Fault.Conversion (op.apply operand) := by
  -- Both signs only read the operand.
  refine (Value.toNumber_computes _ told).bind fun n => ?_
  cases op <;> trivial

end Spreadsheet
