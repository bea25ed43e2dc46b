import Spreadsheet.Proofs.Evaluator.Behaves
import Spreadsheet.Proofs.Expr.Parser
import Spreadsheet.Proofs.Function.Builtin

/-!
How evaluations with the built-in functions fail: for a reason that belongs to formulas, because a
conversion between a text and a number is at fault, or at a moment with an offset that a cell of the
sheet holds. No fault of range, of a zero, or of other kinds of arguments is left over.
-/

namespace Spreadsheet

/-- A cell without a formula holds a moment with an offset, alone or in a list. -/
def Sheet.Zoned (sheet : Sheet) : Prop :=
  -- The values that cells with a formula hold are never read.
  ∃ p cell, sheet p = some cell ∧ cell.activeFormula? = none ∧ cell.value.Zoned

/-- What the cells hold is told by the sheet. -/
theorem Sheet.holds_told (sheet : Sheet) : sheet.Holds (Value.Told sheet.Zoned) :=
  fun p cell found without inside => ⟨p, cell, found, without, inside⟩

/-- A failure belongs to formulas, or a conversion or a moment with an offset is at fault. -/
def Failure.Expected (zoned : Prop) : Failure → Prop
  -- Reasons of formulas are of any kind.
  | .formula _ => True
  | .fault f => Fault.OrZoned zoned Fault.Conversion f

variable {zoned : Prop}

/-- Whatever kinds of reasons there are, they belong to formulas. -/
theorem Failure.Among.expected {kinds : List ErrorKind} {faults : Fault → Prop} {e : Failure}
    (among : e.Among kinds faults) (allowed : ∀ f, faults f → Fault.OrZoned zoned Fault.Conversion f) :
    e.Expected zoned := by
  -- Of the two sorts of failures only faults are asked about.
  cases e with
  | formula e => trivial
  | fault f => exact allowed f among

/-- A computation with values that has no other faults fails as expected. -/
theorem Computes.expected {α : Type} {x : Except Failure α}
    (computes : Computes zoned Fault.Conversion x) : FailsOnly (Failure.Expected zoned) x :=
  computes.fails fun _ among => among.expected fun _ allowed => allowed

/-- With the built-in functions every part of a formula fails as expected, and brings no moment in. -/
theorem upholds_expected :
    Upholds .builtin (fun _ => True) (Value.Told zoned) (Failure.Expected zoned) where
  formula _ := trivial
  reading text := (Expr.ofFormula_delivers text).mono (fun _ _ => trivial) fun _ among =>
    among.expected fun _ => .inl
  computed := Value.Computed.told
  list := Value.told_list
  apart := Value.told_apart
  unary op v told := Gives.delivers (Gives.told (op.apply_gives v)) (op.apply_computes told).expected
  binary op v w told told' :=
    -- What an operator gives is computed, and its faults are conversions or moments.
    Gives.delivers (Gives.told (op.apply_gives v w)) (BinaryOp.apply_computes told told' op).expected
  call name f found vs told fits := by
    obtain ⟨b, rfl⟩ := Registry.exists_of_find?_builtin found
    -- A function that is called has no faults of its own left.
    have computes : Computes zoned Fault.Proper ((SheetFunction.ofBuiltin b).compute vs) :=
      b.apply_computes told fits
    have gives : Gives (Value.Told zoned) ((SheetFunction.ofBuiltin b).compute vs) := b.apply_told told
    exact Gives.delivers (SheetFunction.call_gives gives name)
      ((SheetFunction.call_computes computes name).wider fun _ => False.elim).expected
  record _ _ _ _ := trivial
  clear := trivial

namespace Evaluator

/--
Whatever is recorded, pending and on the sheet, an evaluation with the built-in functions that gives no
value fails for a reason that belongs to formulas; because a text is no number or a number is too long,
which is a matter of the value; or at a moment with an offset, if a cell of the sheet holds one. It
never fails for range, for a zero, or for other arguments of the wrong kind.
-/
theorem evaluate_fails (maxDepth : Int) (sheet : Sheet) (id formula : String) (w : Workspace)
    {e : Failure} (failed : ((builtin maxDepth).evaluate sheet id formula w).1 = .error e) :
    (∃ reason, e = .formula reason) ∨ (∃ f, e = .fault f ∧ f.Conversion ∧ f.family = .value) ∨
      e = .fault .zoned ∧ sheet.Zoned := by
  -- Nothing is asked of the records, so any workspace will do.
  have behaves : Behaves (fun _ => True) (Value.Told sheet.Zoned) (Failure.Expected sheet.Zoned)
      ((builtin maxDepth).evaluate sheet id formula) :=
    evaluate_behaves upholds_expected sheet.holds_told id formula
  -- The law of the parts is read at the workspace that there is.
  have expected : e.Expected sheet.Zoned := (behaves w trivial).2.of_error failed
  cases e with
  | formula reason => exact .inl ⟨reason, rfl⟩
  | fault f =>
    rcases expected with conversion | ⟨rfl, zoned⟩
    · exact .inr (.inl ⟨f, rfl, conversion, conversion.family_eq⟩)
    · exact .inr (.inr ⟨rfl, zoned⟩)

/-- A sheet whose first cell holds the start of a day in universal time. -/
def zonedSheet : Sheet :=
  -- An offset of zero is an offset.
  (Grid.empty.put ⟨0, 0⟩
    ⟨.moment ⟨⟨2024, 1, 1⟩, .midnight, some ⟨0⟩⟩, none, .date⟩).sheet

/--
A digit that is no decimal one is read as a number, which it is not; and a moment with an offset has no
serial number to add to. Neither failure belongs to formulas.
-/
theorem evaluate_escapes :
    ((builtin 100).evaluate Grid.empty.sheet "A1" "=²" .empty).1 =
        .error (.fault (.notWhole "²")) ∧
      ((builtin 100).evaluate zonedSheet "B1" "=A1+1" .empty).1 = .error (.fault .zoned) :=
  -- Both evaluations are computed, up to the fault in which they end.
  ⟨eq_error_of_map (f := fun _ => ()) (by decide +kernel),
    eq_error_of_map (f := fun _ => ()) (by decide +kernel)⟩

/-- So the formula of such a digit fails for a conversion, and that of such a moment for the moment. -/
theorem evaluate_fails_superscript :
    ((builtin 100).evaluate Grid.empty.sheet "A1" "=²" .empty).1 =
        .error (.fault (.notWhole "²")) ∧
      (Fault.notWhole "²").Conversion ∧ (Fault.notWhole "²").family = .value ∧
      ((builtin 100).evaluate zonedSheet "B1" "=A1+1" .empty).1 = .error (.fault .zoned) ∧
      zonedSheet.Zoned := by
  have failed : ((builtin 100).evaluate Grid.empty.sheet "A1" "=²" .empty).1 =
      .error (.fault (.notWhole "²")) :=
    eq_error_of_map (f := fun _ => ()) (by decide +kernel)
  have failed' : ((builtin 100).evaluate zonedSheet "B1" "=A1+1" .empty).1 = .error (.fault .zoned) :=
    eq_error_of_map (f := fun _ => ()) (by decide +kernel)
  -- Of the three ways to fail only a conversion has this fault.
  have converts : (Fault.notWhole "²").Conversion ∧ (Fault.notWhole "²").family = .value := by
    rcases evaluate_fails 100 Grid.empty.sheet "A1" "=²" .empty failed with
      ⟨reason, other⟩ | ⟨f, same, conversion⟩ | ⟨other, -⟩
    · cases other
    · cases same
      exact conversion
    · cases other
  -- Here only the moment has the fault, which shows that the sheet holds one.
  have zoned : zonedSheet.Zoned := by
    rcases evaluate_fails 100 zonedSheet "B1" "=A1+1" .empty failed' with
      ⟨reason, other⟩ | ⟨f, same, conversion, -⟩ | ⟨-, zoned⟩
    · cases other
    · cases same
      cases conversion
    · exact zoned
  exact ⟨failed, converts.1, converts.2, failed', zoned⟩

end Evaluator
end Spreadsheet
