import Spreadsheet.Proofs.Evaluator.Within

/-!
A new evaluator reports a circular reference exactly where a chain of references runs into a cycle:
behind a cycle no value is given, and without one no circular reference is reported.
-/

namespace Spreadsheet

open Relation DependencyGraph

variable {zoned : Prop} {faults : Fault → Prop}

/-- The kinds of failures that a formula can mean: none of them tells of a cycle. -/
def meaningKinds : List ErrorKind :=
  [.unknownFunction, .functionArgument, .evaluationDepth] ++ Expr.readingKinds ++ computingKinds

/-- A failure for a reason that lies in the values is one that a formula can mean. -/
theorem Computes.meant {α : Type} {x : Except Failure α} (computes : Computes zoned faults x) :
    FailsAmong meaningKinds x :=
  -- The kinds of computing are among those of meaning.
  computes.fails fun _ among => among.mono (List.subset_append_right _ _) fun _ _ => trivial

/-- An operator fails for a reason that lies in its operands, whatever moments are in them. -/
theorem BinaryOp.apply_meant (op : BinaryOp) (left right : Value) :
    FailsAmong meaningKinds (op.apply left right) :=
  (apply_computes (fun _ => trivial) (fun _ => trivial) op).meant

/-- A sign fails for a reason that lies in its operand, whatever moments are in it. -/
theorem UnaryOp.apply_meant (op : UnaryOp) (operand : Value) :
    FailsAmong meaningKinds (op.apply operand) :=
  (op.apply_computes fun _ => trivial).meant

namespace Expr

variable {registry : Registry} {value : Position → Except Failure Value}

mutual
/-- An expression fails as reading its cells does, or for reasons that lie in the values. -/
theorem meaning_fails (plain : registry.Plain) (each : ∀ p, FailsAmong meaningKinds (value p))
    (e : Expr) : FailsAmong meaningKinds (e.meaning registry value) := by
  -- The cases follow the expression.
  match e with
  | number _ | text _ | truth _ => simp only [meaning]; trivial
  | cell p => simpa only [meaning] using each p
  | area a =>
    simp only [meaning]
    -- The cells of an area are read one by one.
    exact (Delivers.mapM each a.positions).bind fun _ _ => trivial
  | unary op operand =>
    simp only [meaning]
    exact (meaning_fails plain each operand).bind fun v _ => op.apply_meant v
  | binary op left right =>
    simp only [meaning]
    exact (meaning_fails plain each left).bind fun v _ =>
      (meaning_fails plain each right).bind fun w _ => op.apply_meant v w
  | call name arguments =>
    simp only [meaning]
    cases found : registry.find? name with
    -- An unknown name is a failure of a formula.
    | none => exact List.mem_of_elem_eq_true rfl
    | some f =>
      refine (meanings_fail plain each arguments).bind fun vs _ => ?_
      -- The number of the arguments is checked before the function is called.
      cases fits : f.problem? (Value.apart vs).length with
      | some problem => exact List.mem_of_elem_eq_true rfl
      | none => exact (SheetFunction.call_computes (plain.computes found fits) name).meant

/-- Expressions fail as reading their cells does, or for reasons that lie in the values. -/
theorem meanings_fail (plain : registry.Plain) (each : ∀ p, FailsAmong meaningKinds (value p))
    (es : List Expr) : FailsAmong meaningKinds (meanings registry value es) := by
  -- The cases follow the list.
  match es with
  | [] => simp only [meanings]; trivial
  | e :: rest =>
    simp only [meanings]
    exact (meaning_fails plain each e).bind fun _ _ =>
      (meanings_fail plain each rest).bind fun _ _ => trivial
end

end Expr

namespace Evaluator

variable {sheet : Sheet} {formulas : Formulas}

/-- No formula means a failure that tells of a cycle. -/
theorem meaningWithin_fails (evaluator : Evaluator) (plain : evaluator.registry.Plain)
    (sheet : Sheet) (room : Nat) (id : CellId) (formula : String) :
    FailsAmong meaningKinds (evaluator.meaningWithin sheet room id formula) := by
  -- The induction is on the room; cells that are read have less of it.
  induction room generalizing id formula with
  | zero => exact List.mem_of_elem_eq_true rfl
  | succ room ih =>
    have wider : Expr.readingKinds ⊆ meaningKinds := by decide
    have reading := (Expr.ofFormula_delivers formula).fails fun _ misread =>
      misread.mono wider fun _ _ => trivial
    refine reading.bind fun e _ => ?_
    -- What is seen at a position is a value, or a formula that is read with less room.
    have each : ∀ p, FailsAmong meaningKinds
        (valueSeen sheet (evaluator.meaningWithin sheet room) p) := by
      intro p
      unfold valueSeen
      split
      · exact ih p.id _
      · trivial
    refine (Expr.meaning_fails plain each e).bind fun v _ => ?_
    dsimp only
    split
    · exact List.mem_of_elem_eq_true rfl
    · trivial

/--
The references between the cells of a sheet when one of them is given a formula: that cell reads the
references of the formula, and every other cell with a formula those of its own.
-/
inductive ReadsWith (sheet : Sheet) (c : CellId) (formula : String) :
    CellId → CellId → Prop where
  /-- The cell with the given formula. -/
  | given {b : CellId} (refers : b ∈ Expr.referencesIn formula) : ReadsWith sheet c formula c b
  /-- Another cell. -/
  | other {p : Position} {own : String} {b : CellId} (on : p.OnSheet) (apart : p.id ≠ c)
    (has : Sheet.formulaAt sheet p = some own) (refers : b ∈ Expr.referencesIn own) :
    ReadsWith sheet c formula p.id b

namespace ReadsWith

variable {c a b x : CellId} {formula : String}

/-- What is read where one cell is given a formula has a name. -/
theorem named (reads : ReadsWith sheet c formula a b) : ∃ q : Position, q.Named ∧ q.id = b := by
  cases reads with
  | given refers => exact Expr.exists_of_mem_referencesIn refers
  | other _ _ _ refers => exact Expr.exists_of_mem_referencesIn refers

/-- What the formulas of cells refer to is read. -/
theorem of_reads (reads : (Sheet.formulasWith sheet c formula).Reads a b) :
    ReadsWith sheet c formula a b := by
  -- The cell with the given formula is told apart from the others.
  obtain ⟨own, has⟩ := reads.has_formula
  rw [Formulas.Reads, Formulas.references_of_some has] at reads
  rw [Sheet.formulasWith] at has
  split at has
  · rename_i here
    subst here
    cases has
    exact .given reads
  · rename_i separate
    obtain ⟨p, named, rfl, stands⟩ := Sheet.named_of_formulas has
    exact .other named.onSheet separate stands reads

/-- Of the cells that are reached, what they read is what their formulas refer to. -/
theorem reads_of_reached (reads : ReadsWith sheet c formula a b)
    (reached : ReflTransGen (ReadsWith sheet c formula) c a) :
    (Sheet.formulasWith sheet c formula).Reads a b := by
  cases reads with
  | given refers => simpa [Formulas.Reads, Formulas.references, Sheet.formulasWith] using refers
  | other on separate has refers =>
    rename_i p own
    -- Only cells with names are reached, and they are found by their ids.
    obtain ⟨z, _, last⟩ := (ReflTransGen.cases_tail reached).resolve_left separate
    obtain ⟨q, named, same⟩ := last.named
    cases Position.id_inj named.onSheet on same
    simpa [Formulas.Reads, Formulas.references, Sheet.formulasWith, separate,
      Sheet.formulas_id sheet named, has] using refers

/-- The cell with the given formula reaches the same cells by what is read and by the formulas. -/
theorem transGen_iff : TransGen (ReadsWith sheet c formula) c x ↔
    TransGen (Sheet.formulasWith sheet c formula).Reads c x := by
  refine ⟨fun reached => ?_, TransGen.mono (fun _ _ => of_reads) _ _⟩
  -- The induction is along the way, every cell of which is reached.
  induction reached with
  | single reads => exact .single (reads.reads_of_reached .refl)
  | tail before reads ih => exact .tail ih (reads.reads_of_reached before.to_reflTransGen)

end ReadsWith

/-- Behind a cell lies a cycle of references exactly if there is one by the formulas. -/
theorem cycleBehind_readsWith (sheet : Sheet) (c : CellId) (formula : String) :
    CycleBehind (ReadsWith sheet c formula) c ↔
      CycleBehind (Sheet.formulasWith sheet c formula).Reads c := by
  -- Whatever is reached from the cell is read by formulas of the sheet or by the given one.
  refine ⟨fun cycle => ?_, fun cycle => cycle.mono fun x y => .of_reads⟩
  exact cycle.transfer fun x y reached reads => reads.reads_of_reached reached

/--
A new evaluator with the built-in functions tells exactly whether references run into a cycle: if
they do it gives no value, and if they do not it reports no circular reference.
-/
theorem circular_exact (maxDepth : Int) (sheet : Sheet) {c : Position} (on : c.OnSheet)
    (formula : String) :
    (CycleBehind (ReadsWith sheet c.id formula) c.id →
      ∀ v, ((builtin maxDepth).evaluate sheet c.id formula .empty).1 ≠ .ok v) ∧
    (¬ CycleBehind (ReadsWith sheet c.id formula) c.id →
      ∀ e, ((builtin maxDepth).evaluate sheet c.id formula .empty).1 = .error (.formula e) →
        e.kind ≠ .circularReference) := by
  have has : Sheet.formulasWith sheet c.id formula c.id = some formula := if_pos rfl
  -- The evaluation starts in an empty workspace, with the given formula for its cell.
  have evaluates := evaluate_evaluates (builtin maxDepth) Registry.plain_builtin on
    (w := .empty) rfl has (agrees_formulasWith sheet c.id formula)
  rw [cycleBehind_readsWith]
  refine ⟨fun cycle v done => (evaluates.terminates v done).no_cycle cycle, ?_⟩
  intro acyclic e failed circular
  rcases evaluates.agrees with meant | ⟨e', failed', reported⟩
  · -- What a formula means is no circular reference.
    have fails := meaningWithin_fails (builtin maxDepth) Registry.plain_builtin sheet maxDepth.toNat
      c.id formula
    have among := fails.kind_mem (meant.symm.trans failed)
    rw [circular] at among
    exact absurd among (by decide)
  · -- In an empty graph every cycle is one of references.
    exact acyclic (reported.cycleBehind.mono fun x y => Known.of_empty)

/-- A sheet whose first two cells refer to each other. -/
def loop : Sheet :=
  -- The cells hold nothing but their formulas.
  ((Grid.empty.put ⟨0, 0⟩ ⟨.blank, some "=B1", .text⟩).put ⟨1, 0⟩ ⟨.blank, some "=A1", .text⟩).sheet

/-- Behind a cell outside a cycle no value is given either. -/
theorem circular_exact_outside : (⟨2, 0⟩ : Position).OnSheet ∧
    CycleBehind (ReadsWith loop (⟨2, 0⟩ : Position).id "=A1") (⟨2, 0⟩ : Position).id ∧
    ∀ v, ((builtin 100).evaluate loop (⟨2, 0⟩ : Position).id "=A1" .empty).1 ≠ .ok v := by
  have on : (⟨2, 0⟩ : Position).OnSheet := ⟨by decide, by decide⟩
  -- The formula leads to the first cell, which leads to the second one and from there back.
  have enter : ReadsWith loop (⟨2, 0⟩ : Position).id "=A1" (⟨2, 0⟩ : Position).id
      (⟨0, 0⟩ : Position).id := .given (by decide +kernel)
  have there : ReadsWith loop (⟨2, 0⟩ : Position).id "=A1" (⟨0, 0⟩ : Position).id
      (⟨1, 0⟩ : Position).id :=
    .other ⟨by decide, by decide⟩ (by decide +kernel) rfl (by decide +kernel)
  have back : ReadsWith loop (⟨2, 0⟩ : Position).id "=A1" (⟨1, 0⟩ : Position).id
      (⟨0, 0⟩ : Position).id :=
    .other ⟨by decide, by decide⟩ (by decide +kernel) rfl (by decide +kernel)
  have cycle : CycleBehind (ReadsWith loop (⟨2, 0⟩ : Position).id "=A1") (⟨2, 0⟩ : Position).id :=
    ⟨_, .single enter, .head there (.single back)⟩
  exact ⟨on, cycle, (circular_exact 100 loop on "=A1").1 cycle⟩

end Evaluator
end Spreadsheet
