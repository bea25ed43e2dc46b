import Spreadsheet.Proofs.Evaluator.Meaning
import Spreadsheet.Proofs.Function.Builtin
import Spreadsheet.Proofs.Step

/-!
Evaluations that follow a meaning: they keep an invariant of the workspace, and their outcome is
what the meaning says or a failure of a kind that the meaning does not know.
-/

namespace Spreadsheet

/-- An evaluation keeps an invariant and does what a meaning says, or fails in its own way. -/
structure Follows {α : Type} (Inv : Workspace → Prop) (Own : FormulaError → Prop) (Good : Prop)
    (work : Evaluation α) (meaning : Except Failure α) : Prop where
  keeps : Stateful.Keeps Inv work
  agrees : ∀ w, Inv w → (work w).1 = meaning ∨ ∃ e, (work w).1 = .error (.formula e) ∧ Own e
  /-- What a success shows. -/
  good : ∀ w v, Inv w → (work w).1 = .ok v → Good

namespace Follows

variable {α β : Type} {Inv : Workspace → Prop} {Own : FormulaError → Prop} {Good More : Prop}

/-- An evaluation that leaves the workspace alone follows its own outcome. -/
theorem lift (x : Except Failure α) : Follows Inv Own True (ofExcept x) x := by
  -- The workspace is not looked at.
  cases x with
  | ok a => exact ⟨fun _ inv => inv, fun _ _ => .inl rfl, fun _ _ _ _ => trivial⟩
  | error e => exact ⟨fun _ inv => inv, fun _ _ => .inl rfl, fun _ _ _ _ => trivial⟩

/-- A value follows itself. -/
theorem pure (a : α) : Follows Inv Own True (Pure.pure a) (Pure.pure a) :=
  ⟨fun _ inv => inv, fun _ _ => .inl rfl, fun _ _ _ _ => trivial⟩

/-- A failure follows itself, and what a success would show is not asked. -/
theorem refuse (e : FormulaError) :
    Follows Inv Own Good (Evaluation.refuse e : Evaluation α) (throw (.formula e)) :=
  ⟨fun _ inv => inv, fun _ _ => .inl rfl, fun _ _ _ done => nomatch done⟩

/-- A success shows no less if less is asked of it. -/
theorem imp {work : Evaluation α} {meaning : Except Failure α}
    (follows : Follows Inv Own Good work meaning) (weaker : Good → More) :
    Follows Inv Own More work meaning :=
  ⟨follows.keeps, follows.agrees, fun w v inv done => weaker (follows.good w v inv done)⟩

/-- One evaluation after another follows the meanings one after the other. -/
theorem bind {work : Evaluation α} {meaning : Except Failure α} {next : α → Evaluation β}
    {onwards : α → Except Failure β} (first : Follows Inv Own Good work meaning)
    (second : ∀ a, Follows Inv Own More (next a) (onwards a)) :
    Follows Inv Own (Good ∧ More) (work >>= next) (meaning >>= onwards) := by
  -- The second evaluation starts in the workspace that the first one leaves.
  refine ⟨first.keeps.bind fun a => (second a).keeps, fun w inv => ?_, fun w v inv done => ?_⟩
  · rw [Stateful.bind_run]
    -- A failure of the first evaluation is that of the whole, in both ways of failing.
    rcases first.agrees w inv with same | ⟨e, failed, own⟩
    · rw [same]
      cases meaning with
      -- The second evaluation agrees in the workspace that the first one leaves.
      | ok a => exact (second a).agrees _ (first.keeps w inv)
      | error e => exact .inl rfl
    · rw [failed]
      exact .inr ⟨e, rfl, own⟩
  · rw [Stateful.bind_run] at done
    -- For both to succeed the first one has to.
    cases ended : (work w).1 with
    | ok a =>
      rw [ended] at done
      exact ⟨first.good w a inv ended, (second a).good _ v (first.keeps w inv) done⟩
    | error e =>
      rw [ended] at done
      cases done

/-- Evaluations one after the other follow their meanings one after the other. -/
theorem mapM {work : Position → Evaluation β} {meaning : Position → Except Failure β}
    {Shown : Position → Prop} (ps : List Position)
    (each : ∀ p ∈ ps, Follows Inv Own (Shown p) (work p) (meaning p)) :
    Follows Inv Own (∀ p ∈ ps, Shown p) (ps.mapM work) (ps.mapM meaning) := by
  -- The induction is along the positions.
  induction ps with
  | nil => exact (pure []).imp (by simp)
  | cons p rest ih =>
    rw [List.mapM_cons, List.mapM_cons]
    have others := ih fun q member => each q (by simp [member])
    refine ((each p (by simp)).bind fun v => others.bind fun vs => pure (v :: vs)).imp ?_
    -- What is shown holds for the first position and for the others.
    rintro ⟨here, there, -⟩ q member
    rcases List.mem_cons.mp member with rfl | later
    · exact here
    · exact there q later

end Follows

namespace Expr

variable {Inv : Workspace → Prop} {Own : FormulaError → Prop} {Shown : Position → Prop}
  {registry : Registry} {read : Position → Evaluation Value}
  {value : Position → Except Failure Value}

mutual
/-- Evaluating an expression follows its meaning if reading cells follows their values. -/
theorem evaluate_follows (plain : registry.Plain) (e : Expr)
    (each : ∀ p ∈ e.positions, Follows Inv Own (Shown p) (read p) (value p)) :
    Follows Inv Own (∀ p ∈ e.positions, Shown p) (e.evaluate registry read)
      (e.meaning registry value) := by
  -- The cases follow the expression.
  match e with
  | number n =>
    simp only [evaluate, meaning]
    exact (Follows.pure _).imp (by simp [positions])
  | text s =>
    simp only [evaluate, meaning]
    exact (Follows.pure _).imp (by simp [positions])
  | truth b =>
    simp only [evaluate, meaning]
    exact (Follows.pure _).imp (by simp [positions])
  | cell p =>
    simp only [evaluate, meaning]
    -- A reference is read, so it does what reading does.
    exact (each p (by simp [positions])).imp (by simp [positions])
  | area a =>
    simp only [evaluate, meaning]
    exact ((Follows.mapM a.positions each).bind fun vs => .pure _).imp And.left
  | unary op operand =>
    simp only [evaluate, meaning]
    have inside := evaluate_follows plain operand each
    exact (inside.bind fun v => .lift _).imp And.left
  | binary op left right =>
    simp only [evaluate, meaning]
    -- What is shown by either operand is shown by both.
    have first := evaluate_follows plain left fun p member => each p (List.mem_append_left _ member)
    have second :=
      evaluate_follows plain right fun p member => each p (List.mem_append_right _ member)
    refine (first.bind fun v => second.bind fun w => .lift _).imp ?_
    rintro ⟨here, there, -⟩ p member
    exact (List.mem_append.mp member).elim (here p) (there p)
  | call name arguments =>
    simp only [evaluate, meaning]
    have inside := evaluateAll_follows plain arguments each
    -- A function is found in both, and it does not drop what is recorded.
    cases found : registry.find? name with
    | none => exact .refuse _
    | some f =>
      have keeps := plain.keeps found
      refine (inside.bind fun vs => (?_ : Follows Inv Own True _ _)).imp And.left
      -- The number of arguments may be wrong, and then the function is not called.
      cases f.problem? (Value.apart vs).length with
      | some problem => exact .refuse _
      | none =>
        simp only [keeps]
        exact .lift _

/-- Evaluating some expressions follows their meanings if reading cells follows their values. -/
theorem evaluateAll_follows (plain : registry.Plain) (es : List Expr)
    (each : ∀ p ∈ positionsOfAll es, Follows Inv Own (Shown p) (read p) (value p)) :
    Follows Inv Own (∀ p ∈ positionsOfAll es, Shown p) (evaluateAll registry read es)
      (meanings registry value es) := by
  -- The cases follow the list.
  match es with
  | [] =>
    simp only [evaluateAll, meanings]
    exact (Follows.pure _).imp (by simp [positionsOfAll])
  | e :: rest =>
    simp only [evaluateAll, meanings]
    -- The first expression and the others show their own positions.
    have first := evaluate_follows plain e fun p member => each p (List.mem_append_left _ member)
    have others :=
      evaluateAll_follows plain rest fun p member => each p (List.mem_append_right _ member)
    refine (first.bind fun v => others.bind fun vs => .pure _).imp ?_
    rintro ⟨here, there, -⟩ p member
    exact (List.mem_append.mp member).elim (here p) (there p)
end

end Expr
end Spreadsheet
