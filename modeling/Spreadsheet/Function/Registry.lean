import Spreadsheet.Function.Builtin

/-! The functions an evaluator knows: the built-in ones, and those registered with it. -/

namespace Spreadsheet

/-- A function that formulas can call. -/
structure SheetFunction where
  /-- Its parameters; without a signature any arguments are passed on. -/
  signature : Option Signature
  /-- What it computes. -/
  compute : List Value → Except Failure Value
  /-- A call drops all recorded dependencies before it computes. -/
  dropsDependencies : Bool

namespace SheetFunction

/-- A built-in function. -/
def ofBuiltin (b : Builtin) : SheetFunction := ⟨some b.signature, b.apply, false⟩

/-- Why a number of arguments does not fit, if it does not. -/
def problem? (f : SheetFunction) (count : Nat) : Option ArgumentProblem :=
  -- Without a signature everything fits.
  f.signature.bind fun signature => signature.problem? count

/-- What a call gives; faults of value, range and zero are reported under the function's name. -/
def call (f : SheetFunction) (name : String) (arguments : List Value) : Except Failure Value :=
  -- Failures of formulas pass through, and so does an operation on the wrong kinds of values.
  match f.compute arguments with
  | .error (.fault fault) =>
    if fault.family = .mismatch then .error (.fault fault)
    else .error (.formula (.numeric name fault))
  | result => result

end SheetFunction

/-- The functions registered beside the built-in ones, the latest one first. -/
structure Registry where
  added : List (String × SheetFunction)

namespace Registry

/-- The built-in functions alone. -/
def builtin : Registry := ⟨[]⟩

/-- Registers a function under a name in upper case. -/
def register (registry : Registry) (name : String) (f : SheetFunction) : Registry :=
  -- The latest function of a name hides all others.
  ⟨(Text.upper name, f) :: registry.added⟩

/-- The function with a name in upper case. -/
def find? (registry : Registry) (name : String) : Option SheetFunction :=
  -- A registered function hides a built-in one.
  match registry.added.lookup name with
  | some f => some f
  | none => (Builtin.named? name).map SheetFunction.ofBuiltin

/-- All names, each once. -/
def names (registry : Registry) : List String :=
  -- Built-in functions come first.
  (Builtin.all.map Builtin.name ++ registry.added.map (·.1)).eraseDups

end Registry
end Spreadsheet
