import Spreadsheet.Failure

/-!
What a computation that may fail delivers: a law for its value, and the failures that it allows.
-/

namespace Spreadsheet

variable {α β ε : Type} {P P' : α → Prop} {Q : β → Prop} {allowed allowed' : ε → Prop}
variable {kinds more : List ErrorKind} {faults faults' : Fault → Prop}

namespace Fault

/-- A number was looked for in a text, or a text for a number, and the text is not one or too long. -/
inductive Conversion : Fault → Prop where
  /-- A text is no whole number. -/
  | notWhole (text : String) : Conversion (.notWhole text)
  /-- A text is no double. -/
  | notFloat (text : String) : Conversion (.notFloat text)
  /-- A whole number is too long to write. -/
  | tooLongToWrite : Conversion .tooLongToWrite
  /-- A whole number is too long to read. -/
  | tooLongToRead (count : Nat) : Conversion (.tooLongToRead count)

/-- A conversion fails for the value that it is given. -/
theorem Conversion.family_eq {f : Fault} (conversion : f.Conversion) : f.family = .value := by
  cases conversion <;> rfl

/-- A fault of arithmetic: the operation had a rule for its arguments. -/
def Proper (f : Fault) : Prop := f.family ≠ .mismatch

/-- A fault of conversion or of range. -/
def Ranged (f : Fault) : Prop := f.Conversion ∨ f.family = .overflow

/-- A fault of conversion or of range is one of arithmetic. -/
theorem Ranged.proper {f : Fault} (ranged : f.Ranged) : f.Proper := by
  -- Neither of the two families is that of a mismatch.
  rcases ranged with conversion | overflow
  · rw [Proper, conversion.family_eq]
    decide
  · rw [Proper, overflow]
    decide

/-- A division by zero is a fault of arithmetic. -/
theorem proper_of_zeroDivision {f : Fault} (zero : f.family = .zeroDivision) : f.Proper := by
  rw [Proper, zero]
  decide

end Fault

/-- A failure belongs to formulas and is of one of these kinds, or it is a fault of this sort. -/
def Failure.Among (kinds : List ErrorKind) (faults : Fault → Prop) : Failure → Prop
  -- Faults have no kind.
  | .formula e => e.kind ∈ kinds
  | .fault f => faults f

/-- A value is as told, or a failure is allowed. -/
def Delivers (P : α → Prop) (allowed : ε → Prop) : Except ε α → Prop
  -- Nothing is said about which of the two it is.
  | .ok a => P a
  | .error e => allowed e

/-- A failure is allowed if there is one. -/
abbrev FailsOnly (allowed : ε → Prop) (x : Except ε α) : Prop := Delivers (fun _ => True) allowed x

/-- A failure of formulas is of one of these kinds if there is one. -/
abbrev FailsAmong (kinds : List ErrorKind) (x : Except Failure α) : Prop :=
  FailsOnly (Failure.Among kinds fun _ => True) x

/-- More kinds and sorts of faults allow every failure that fewer do. -/
theorem Failure.Among.mono {e : Failure} (among : e.Among kinds faults) (wider : kinds ⊆ more)
    (weaker : ∀ f, faults f → faults' f) : e.Among more faults' := by
  cases e with
  | formula e => exact wider among
  | fault f => exact weaker f among

/-- A computation without a value to be used has failed. -/
theorem eq_error_of_map {f : α → β} {x : Except ε α} {e : ε} (failed : x.map f = .error e) :
    x = .error e := by
  -- A value would have been mapped to a value.
  cases x <;> cases failed
  rfl

/-- One computation after another has a value exactly if both of them have one. -/
theorem bind_eq_ok_iff {x : Except ε α} {next : α → Except ε β} {b : β} :
    x >>= next = .ok b ↔ ∃ a, x = .ok a ∧ next a = .ok b := by
  -- In each case there is one candidate for the value in between.
  cases x with
  | ok a => exact ⟨fun done => ⟨a, rfl, done⟩, by rintro ⟨a', ⟨⟩, done⟩; exact done⟩
  | error e => exact ⟨(nomatch ·), by rintro ⟨a', ⟨⟩, -⟩⟩

/-- A value of arithmetic is one of formulas. -/
theorem lift_eq_ok_iff {x : Except Fault α} {a : α} :
    (liftM x : Except Failure α) = .ok a ↔ x = .ok a := by
  -- Lifting changes the type of the failure only.
  cases x with
  | ok b => exact ⟨fun done => congrArg _ (Except.ok.inj done), fun done => congrArg _ (Except.ok.inj done)⟩
  | error fault => exact ⟨(nomatch ·), (nomatch ·)⟩

namespace Delivers

/-- A value delivers whatever holds of it. -/
theorem pure {a : α} (holds : P a) : Delivers P allowed (Pure.pure a : Except ε α) := holds

/-- A computation delivers no less if less is asked of it. -/
theorem mono {x : Except ε α} (delivers : Delivers P allowed x) (weaker : ∀ a, P a → P' a)
    (wider : ∀ e, allowed e → allowed' e) : Delivers P' allowed' x := by
  -- The value and the failure are told apart, and each has its own weakening.
  cases x with
  | ok a => exact weaker a delivers
  | error e => exact wider e delivers

/-- A computation may fail in more ways than it does. -/
theorem fails {x : Except ε α} (delivers : Delivers P allowed x)
    (wider : ∀ e, allowed e → allowed' e) : Delivers P allowed' x :=
  delivers.mono (fun _ holds => holds) wider

/-- A computation delivers what it gives. -/
theorem itself {x : Except ε α} (fails : FailsOnly allowed x) :
    Delivers (fun a => x = .ok a) allowed x := by
  cases x with
  | ok a => exact rfl
  | error e => exact fails

/-- One computation after another delivers what the second one does with the first one's values. -/
theorem bind {x : Except ε α} {next : α → Except ε β} (first : Delivers P allowed x)
    (second : ∀ a, P a → Delivers Q allowed (next a)) : Delivers Q allowed (x >>= next) := by
  -- A failure of the first computation is that of both.
  cases x with
  | ok a => exact second a first
  | error e => exact first

/-- A value that is used fails as computing it does. -/
theorem map {x : Except ε α} (delivers : FailsOnly allowed x) (f : α → β) :
    FailsOnly allowed (x.map f) := by
  cases x <;> exact delivers

/-- Arithmetic fails with its faults alone. -/
theorem lift {x : Except Fault α} (delivers : Delivers P faults x) :
    Delivers P (Failure.Among kinds faults) (liftM x : Except Failure α) := by
  cases x <;> exact delivers

/-- A list of computations delivers a list of what each of them does. -/
theorem mapM {f : α → Except ε β} (each : ∀ a, Delivers Q allowed (f a)) (as : List α) :
    Delivers (fun bs => ∀ b ∈ bs, Q b) allowed (as.mapM f) := by
  -- The first failure ends it.
  induction as with
  | nil => simp [List.mapM_nil, Delivers, Pure.pure, Except.pure]
  | cons a rest ih =>
    rw [List.mapM_cons]
    -- The value of the first computation goes in front of those of the others.
    exact (each a).bind fun b holds => ih.bind fun bs all => pure (by simpa using ⟨holds, all⟩)

/-- What holds of every value that is delivered. -/
theorem of_ok {x : Except ε α} {a : α} (delivers : Delivers P allowed x) (done : x = .ok a) :
    P a := by
  -- The statement about the outcome is read at the outcome that there is.
  subst done
  exact delivers

/-- Every failure is allowed. -/
theorem of_error {x : Except ε α} {e : ε} (delivers : Delivers P allowed x)
    (failed : x = .error e) : allowed e := by
  subst failed
  exact delivers

/-- The kinds of the failures of formulas. -/
theorem kind_mem {x : Except Failure α} {e : FormulaError}
    (delivers : Delivers P (Failure.Among kinds faults) x) (failed : x = .error (.formula e)) :
    e.kind ∈ kinds :=
  delivers.of_error failed

/-- What fails for conversion or range alone has a rule for its arguments. -/
theorem proper {x : Except Fault α} (delivers : Delivers P Fault.Ranged x) :
    Delivers P Fault.Proper x :=
  delivers.fails fun _ ranged => ranged.proper

end Delivers
end Spreadsheet
