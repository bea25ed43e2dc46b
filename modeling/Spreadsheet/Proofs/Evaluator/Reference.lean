import Mathlib.Data.Set.Card
import Mathlib.Data.Int.Interval
import Spreadsheet.Proofs.Evaluator.Circular

/-!
What the formula of a cell comes to by recursion along references alone, without pending cells,
records or a limit of depth. A new evaluator gives exactly that while chains of references are short
enough for it, and fails where one of them is too long.
-/

namespace Spreadsheet

open Relation DependencyGraph

variable {formulas : Formulas} {registry : Registry} {sheet : Sheet} {a b id : CellId}
  {formula : String} {cells : List CellId}

/-- Where links lead to finitely many cells, every walk from a cell without cycles ends. -/
theorem terminates_of_finite {r : CellId → CellId → Prop} {names : Set CellId}
    (finite : names.Finite) (within : ∀ x y, r x y → y ∈ names) (acyclic : ¬ CycleBehind r a) :
    Terminates r a := by
  have inside : ∀ x, {y | TransGen r x y} ⊆ names := by
    intro x y reached
    -- Whatever is reached by some links is reached by a last one.
    obtain ⟨z, -, last⟩ := TransGen.tail'_iff.mp reached
    exact within z y last
  -- The induction is on the number of cells behind the cell, which each link makes smaller.
  induction count : {y | TransGen r a y}.ncard using Nat.strong_induction_on generalizing a with
  | _ n ih =>
    refine ⟨a, fun b link => ?_⟩
    have acyclic' : ¬ CycleBehind r b := by
      rintro ⟨x, reached, around⟩
      exact acyclic ⟨x, .head link reached, around⟩
    refine ih _ ?_ acyclic' rfl
    rw [← count]
    -- The cell that the link leads to is behind the first cell and not behind itself.
    refine Set.ncard_lt_ncard ⟨fun x reached => .head link reached, fun all => ?_⟩
      (finite.subset (inside a))
    exact acyclic' ⟨b, .refl, all (TransGen.single link)⟩

/-- Only finitely many cells have a name. -/
theorem Position.finite_names : {id | ∃ p : Position, p.Named ∧ p.id = id}.Finite := by
  -- Columns are bounded by the letters of an id, and rows by its digits.
  refine ((Set.finite_Icc (0 : Int) Column.count).image2 (fun column row => id ⟨column, row⟩)
    (Set.finite_Icc (0 : Int) (10 ^ digitLimit : Nat))).subset ?_
  rintro _ ⟨p, named, rfl⟩
  have column := named.onSheet.column
  have row := named.onSheet.row
  have short := named.readable
  rw [Readable] at short
  exact ⟨p.column, ⟨column.1, column.2.le⟩, p.row, ⟨row, by omega⟩, rfl⟩

/-- Where no cycle of references is behind a cell, every chain of references from it ends. -/
theorem Formulas.terminates_of_acyclic (acyclic : ¬ CycleBehind formulas.Reads a) :
    Terminates formulas.Reads a :=
  terminates_of_finite Position.finite_names (fun _ _ reads => reads.named) acyclic

/-- Whether a cell refers to another one can be looked up in its formula. -/
instance : Decidable (formulas.Reads a b) :=
  inferInstanceAs (Decidable (b ∈ formulas.references a))

/-- What a cell refers to is smaller than the cell, where every chain of references ends. -/
instance : WellFoundedRelation {x // Terminates formulas.Reads x} := Acc.wfRel

/-- The value that a cell holds itself. -/
def Sheet.held (sheet : Sheet) (p : Position) : Value :=
  -- Where there is no cell there is a blank.
  ((sheet p).map Cell.value).getD .blank

/-- The value of an expression as a whole, which is no list; `value` gives the values of cells. -/
def Expr.wholeMeaning (registry : Registry) (value : Position → Except Failure Value) (e : Expr) :
    Except Failure Value := do
  -- Lists belong to functions.
  let v ← e.meaning registry value
  if v.isList then throw (.formula .listAlone)
  return v

/-- The value of an expression as a whole depends on the cells that it reads and on no others. -/
theorem Expr.wholeMeaning_congr {value value' : Position → Except Failure Value} (e : Expr)
    (same : ∀ p ∈ e.positions, value p = value' p) :
    e.wholeMeaning registry value = e.wholeMeaning registry value' := by
  rw [wholeMeaning, wholeMeaning, meaning_congr e same]

/--
What the formula of a cell comes to: its expression is computed from left to right, with each
reference replaced by the value that the cell there holds, or by what its own formula comes to.
-/
def Formulas.outcome (formulas : Formulas) (registry : Registry) (sheet : Sheet) (id : CellId)
    (formula : String) (ends : Terminates formulas.Reads id) : Except Failure Value := do
  let e ← Expr.ofFormula formula
  e.wholeMeaning registry fun p =>
    match formulas p.id with
    | none => .ok (sheet.held p)
    | some own =>
      -- An expression asks for no cell that its formula does not refer to.
      if reads : formulas.Reads id p.id then
        formulas.outcome registry sheet p.id own (ends.inv reads)
      else .ok .blank
termination_by (⟨id, ends⟩ : {x // Terminates formulas.Reads x})
decreasing_by exact reads

/-- A chain of cells with formulas, each of which is referred to by the one before it. -/
structure Formulas.Chain (formulas : Formulas) (id : CellId) (cells : List CellId) : Prop where
  starts : cells.head? = some id
  linked : cells.IsChain formulas.Reads
  filled : ∀ x ∈ cells, ∃ formula, formulas x = some formula

namespace Formulas.Chain

/-- A cell with a formula is a chain by itself. -/
theorem single (has : formulas id = some formula) : formulas.Chain id [id] :=
  ⟨rfl, .singleton id, by simp [has]⟩

/-- A cell that refers to the start of a chain makes it longer. -/
theorem cons (reads : formulas.Reads id b) (chain : formulas.Chain b cells) :
    formulas.Chain id (id :: cells) := by
  -- A chain that has a start has a rest behind it.
  obtain ⟨rest, rfl⟩ : ∃ rest, cells = b :: rest := List.head?_eq_some_iff.mp chain.starts
  refine ⟨rfl, List.isChain_cons_cons.mpr ⟨reads, chain.linked⟩, ?_⟩
  exact List.forall_mem_cons.mpr ⟨reads.has_formula, chain.filled⟩

/-- A chain is its first cell alone, or goes on with a cell that the first one refers to. -/
theorem eq_single_or_cons (chain : formulas.Chain id cells) :
    cells = [id] ∨ ∃ b rest, cells = id :: rest ∧ formulas.Reads id b ∧ formulas.Chain b rest := by
  obtain ⟨rest, rfl⟩ : ∃ rest, cells = id :: rest := List.head?_eq_some_iff.mp chain.starts
  cases rest with
  | nil => exact .inl rfl
  | cons b rest =>
    have linked := List.isChain_cons_cons.mp chain.linked
    have filled := fun x member => chain.filled x (List.mem_cons_of_mem id member)
    exact .inr ⟨b, b :: rest, rfl, linked.1, rfl, linked.2, filled⟩

end Formulas.Chain

namespace Expr

variable {value : Position → Except Failure Value}

/-- Cells that are read one after another all have a value if the list of them has one. -/
theorem mapM_reads {ps : List Position} {vs : List Value} (done : ps.mapM value = .ok vs) :
    ∀ p ∈ ps, ∃ v, value p = .ok v := by
  -- The induction is along the list, whose first failure would end it.
  induction ps generalizing vs with
  | nil => simp
  | cons p rest ih =>
    rw [List.mapM_cons, bind_eq_ok_iff] at done
    obtain ⟨v, first, done⟩ := done
    obtain ⟨others, later, -⟩ := bind_eq_ok_iff.mp done
    exact List.forall_mem_cons.mpr ⟨⟨v, first⟩, ih later⟩

mutual
/-- An expression has a value only if every cell that it reads has one. -/
theorem meaning_reads (e : Expr) {v : Value} (done : e.meaning registry value = .ok v) :
    ∀ p ∈ e.positions, ∃ w, value p = .ok w := by
  -- The cases follow the expression.
  match e with
  | number _ | text _ | truth _ => simp [positions]
  | cell p => simpa [positions] using ⟨v, by simpa only [meaning] using done⟩
  | area a =>
    rw [meaning, bind_eq_ok_iff] at done
    obtain ⟨vs, read, -⟩ := done
    exact mapM_reads read
  | unary op operand =>
    rw [meaning, bind_eq_ok_iff] at done
    obtain ⟨v', inner, -⟩ := done
    exact meaning_reads operand inner
  | binary op left right =>
    rw [meaning, bind_eq_ok_iff] at done
    obtain ⟨v', first, done⟩ := done
    obtain ⟨w', second, -⟩ := bind_eq_ok_iff.mp done
    exact List.forall_mem_append.mpr ⟨meaning_reads left first, meaning_reads right second⟩
  | call name arguments =>
    rw [meaning] at done
    split at done
    · cases done
    · obtain ⟨vs, read, -⟩ := bind_eq_ok_iff.mp done
      exact meanings_read arguments read

/-- Expressions have values only if every cell that they read has one. -/
theorem meanings_read (es : List Expr) {vs : List Value}
    (done : meanings registry value es = .ok vs) :
    ∀ p ∈ positionsOfAll es, ∃ w, value p = .ok w := by
  -- The cases follow the list.
  match es with
  | [] => simp [positionsOfAll]
  | e :: rest =>
    rw [meanings, bind_eq_ok_iff] at done
    obtain ⟨v, first, done⟩ := done
    obtain ⟨others, later, -⟩ := bind_eq_ok_iff.mp done
    exact List.forall_mem_append.mpr ⟨meaning_reads e first, meanings_read rest later⟩
end

end Expr

namespace Evaluator

variable {evaluator : Evaluator} {room : Nat}

/-- The formulas are those of the sheet at every cell behind a cell. -/
def AgreesBehind (formulas : Formulas) (sheet : Sheet) (id : CellId) : Prop :=
  -- The formula of the cell itself may be given from outside.
  ∀ q : Position, q.Named → TransGen formulas.Reads id q.id →
    formulas q.id = Sheet.formulaAt sheet q

/-- What is behind a cell that is referred to is behind the cell that refers to it. -/
theorem AgreesBehind.of_reads (agree : AgreesBehind formulas sheet id)
    (reads : formulas.Reads id b) : AgreesBehind formulas sheet b :=
  fun q named reached => agree q named (.head reads reached)

/-- A cell without cycles behind it is the only one whose formula may be given from outside. -/
theorem AgreesBehind.of_acyclic (agree : Agrees formulas sheet [id])
    (acyclic : ¬ CycleBehind formulas.Reads id) : AgreesBehind formulas sheet id := by
  intro q named reached
  -- The cell itself is behind itself only on a cycle.
  refine agree q named fun member => acyclic ⟨id, .refl, ?_⟩
  rwa [List.mem_singleton.mp member] at reached

/-- What is seen of a cell is its formula's value, or the value that it holds. -/
theorem valueSeen_eq {p : Position} {value : CellId → String → Except Failure Value}
    (same : formulas p.id = Sheet.formulaAt sheet p) :
    valueSeen sheet value p =
      match formulas p.id with
      | none => .ok (sheet.held p)
      | some own => value p.id own := by
  rw [same, valueSeen]
  cases has : Sheet.formulaAt sheet p with
  | none => rw [Sheet.seen_of_none has]; rfl
  | some own => rw [Sheet.seen_eq_formula.mpr has]

/-- With room for every chain of references a formula means what it comes to. -/
theorem meaningWithin_eq_outcome (has : formulas id = some formula)
    (agree : AgreesBehind formulas sheet id) (ends : Terminates formulas.Reads id)
    (short : ∀ cells, formulas.Chain id cells → cells.length ≤ room) :
    evaluator.meaningWithin sheet room id formula =
      formulas.outcome evaluator.registry sheet id formula ends := by
  -- The induction is on the room, which a chain from a cell that is read leaves one of.
  induction room generalizing id formula with
  | zero => exact absurd (short [id] (.single has)) (by simp)
  | succ room ih =>
    -- Both sides read the same expression; they differ in how the cells in it are valued.
    rw [Formulas.outcome]
    cases parsed : Expr.ofFormula formula with
    | error failure => rw [meaningWithin_of_error parsed]; rfl
    | ok e =>
      rw [meaningWithin_of_ok parsed]
      refine Expr.wholeMeaning_congr e fun p member => ?_
      have named : p.Named := (Expr.ofFormula_delivers formula).of_ok parsed p member
      have reads : formulas.Reads id p.id :=
        (Formulas.reads_iff has parsed).mpr ⟨p, member, rfl⟩
      -- A cell without a formula is held by the sheet; one with a formula has less room.
      rw [valueSeen_eq (agree p named (.single reads))]
      cases own : formulas p.id with
      | none => rfl
      | some text =>
        dsimp only
        rw [dif_pos reads]
        refine ih own (agree.of_reads reads) _ fun cells chain => ?_
        exact Nat.le_of_succ_le_succ (short (id :: cells) (.cons reads chain))

/-- A formula has a value only with room for every chain of references from its cell. -/
theorem chain_length_le {v : Value} (has : formulas id = some formula)
    (agree : AgreesBehind formulas sheet id)
    (done : evaluator.meaningWithin sheet room id formula = .ok v)
    (chain : formulas.Chain id cells) : cells.length ≤ room := by
  -- The induction is on the room; every cell that is read has a value with less of it.
  induction room generalizing id formula v cells with
  | zero => cases done
  | succ room ih =>
    rcases chain.eq_single_or_cons with rfl | ⟨b, rest, rfl, reads, onwards⟩
    · simp
    · -- The value of the formula came from values of all the cells that it reads.
      obtain ⟨e, parsed, done⟩ := bind_eq_ok_iff.mp done
      obtain ⟨w, meant, -⟩ := bind_eq_ok_iff.mp done
      obtain ⟨p, member, rfl⟩ := (Formulas.reads_iff has parsed).mp reads
      have named : p.Named := (Expr.ofFormula_delivers formula).of_ok parsed p member
      obtain ⟨own, has'⟩ := onwards.filled p.id (List.mem_of_head? onwards.starts)
      obtain ⟨v', valued⟩ := Expr.meaning_reads e meant p member
      rw [valueSeen_eq (agree p named (.single reads)), has'] at valued
      exact Nat.succ_le_succ (ih has' (agree.of_reads reads) valued onwards)

/--
Where no cycle of references is behind a cell, a new evaluator with the built-in functions gives
exactly what the cell's formula comes to if each chain of references from it is within the limit of
depth, and fails if one of them is longer.
-/
theorem evaluate_refines (maxDepth : Int) (sheet : Sheet) {c : Position} (on : c.OnSheet)
    (formula : String)
    (acyclic : ¬ CycleBehind (Sheet.formulasWith sheet c.id formula).Reads c.id) :
    ((∀ cells, (Sheet.formulasWith sheet c.id formula).Chain c.id cells →
        (cells.length : Int) ≤ maxDepth) →
      ((builtin maxDepth).evaluate sheet c.id formula .empty).1 =
        (Sheet.formulasWith sheet c.id formula).outcome .builtin sheet c.id formula
          (Formulas.terminates_of_acyclic acyclic)) ∧
    ((∃ cells, (Sheet.formulasWith sheet c.id formula).Chain c.id cells ∧
        maxDepth < (cells.length : Int)) →
      ∃ e, ((builtin maxDepth).evaluate sheet c.id formula .empty).1 = .error e) := by
  have has : Sheet.formulasWith sheet c.id formula c.id = some formula := if_pos rfl
  have agrees := agrees_formulasWith sheet c.id formula
  have agree := AgreesBehind.of_acyclic agrees acyclic
  have evaluates := evaluate_evaluates (builtin maxDepth) Registry.plain_builtin on
    (w := .empty) rfl has agrees
  -- In an empty graph every cycle that is found would be one of references.
  have meant := evaluates.agrees.resolve_right fun ⟨e, _, reported⟩ =>
    acyclic (reported.cycleBehind.mono fun x y => Known.of_empty)
  rw [meant]
  refine ⟨fun short => ?_, fun ⟨cells, chain, long⟩ => ?_⟩
  · refine meaningWithin_eq_outcome has agree _ fun cells chain => ?_
    have within := short cells chain
    simp only [builtin]
    omega
  · -- A value would have left room for the chain.
    cases done : (builtin maxDepth).meaningWithin sheet (builtin maxDepth).maxDepth.toNat c.id
      formula with
    | error e => exact ⟨e, rfl⟩
    | ok v =>
      have within := chain_length_le has agree done chain
      have positive : 0 < cells.length := List.length_pos_of_mem (List.mem_of_head? chain.starts)
      simp only [builtin] at within
      omega

/-- A sheet whose first cell holds a number and whose second one adds one to it. -/
def stair : Sheet :=
  -- A third cell is given a formula from outside.
  ((Grid.empty.put ⟨0, 0⟩ ⟨.whole 2, none, .number⟩).put ⟨1, 0⟩ ⟨.blank, some "=A1+1", .text⟩).sheet

/--
A formula that refers to both cells comes to its value with room for two cells inside one another,
and fails with room for one.
-/
theorem evaluate_refines_stair : (⟨2, 0⟩ : Position).OnSheet ∧
    ∃ acyclic : ¬ CycleBehind (Sheet.formulasWith stair (⟨2, 0⟩ : Position).id "=A1*B1").Reads
        (⟨2, 0⟩ : Position).id,
      ((builtin 2).evaluate stair (⟨2, 0⟩ : Position).id "=A1*B1" .empty).1 =
        (Sheet.formulasWith stair (⟨2, 0⟩ : Position).id "=A1*B1").outcome .builtin stair
          (⟨2, 0⟩ : Position).id "=A1*B1" (Formulas.terminates_of_acyclic acyclic) ∧
      ∃ e, ((builtin 1).evaluate stair (⟨2, 0⟩ : Position).id "=A1*B1" .empty).1 = .error e := by
  have on : (⟨2, 0⟩ : Position).OnSheet := ⟨by decide, by decide⟩
  have has : Sheet.formulasWith stair (⟨2, 0⟩ : Position).id "=A1*B1" (⟨2, 0⟩ : Position).id =
      some "=A1*B1" := if_pos rfl
  have agrees := agrees_formulasWith stair (⟨2, 0⟩ : Position).id "=A1*B1"
  have evaluates := evaluate_evaluates (builtin 2) Registry.plain_builtin on
    (w := .empty) rfl has agrees
  -- A value shows that chains of references end, and how long they are.
  obtain ⟨v, done⟩ : ∃ v, ((builtin 2).evaluate stair (⟨2, 0⟩ : Position).id "=A1*B1"
      .empty).1 = .ok v := by
    have valued : ((builtin 2).evaluate stair (⟨2, 0⟩ : Position).id "=A1*B1"
        .empty).1.isOk = true := by decide +kernel
    cases outcome : ((builtin 2).evaluate stair (⟨2, 0⟩ : Position).id "=A1*B1" .empty).1 with
    | ok v => exact ⟨v, rfl⟩
    | error e => simp [outcome, Except.isOk, Except.toBool] at valued
  have acyclic := (evaluates.terminates v done).no_cycle
  have meant := evaluates.agrees.resolve_right <| by
    rintro ⟨e, failed, -⟩
    cases done.symm.trans failed
  have short : ∀ cells, (Sheet.formulasWith stair (⟨2, 0⟩ : Position).id "=A1*B1").Chain
      (⟨2, 0⟩ : Position).id cells → (cells.length : Int) ≤ 2 := fun cells chain =>
    Int.ofNat_le.mpr (chain_length_le has (.of_acyclic agrees acyclic) (meant.symm.trans done) chain)
  have second : Sheet.formulasWith stair (⟨2, 0⟩ : Position).id "=A1*B1" (⟨1, 0⟩ : Position).id =
      some "=A1+1" := by decide +kernel
  have long : (Sheet.formulasWith stair (⟨2, 0⟩ : Position).id "=A1*B1").Chain
      (⟨2, 0⟩ : Position).id [(⟨2, 0⟩ : Position).id, (⟨1, 0⟩ : Position).id] :=
    .cons (by decide +kernel) (.single second)
  exact ⟨on, acyclic, (evaluate_refines 2 stair on "=A1*B1" acyclic).1 short,
    (evaluate_refines 1 stair on "=A1*B1" acyclic).2 ⟨_, long, by decide⟩⟩

end Evaluator
end Spreadsheet
