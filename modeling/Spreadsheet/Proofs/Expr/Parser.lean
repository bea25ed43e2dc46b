import Spreadsheet.Proofs.Expr.Derived

/-!
What reading a formula delivers: an expression that refers to cells of a sheet alone, or a failure
that belongs to reading.
-/

namespace Spreadsheet

namespace Area

/-- The ids of an area are those of its positions, in their order. -/
theorem ids_eq_map (area : Area) : area.ids = area.positions.map Position.id := by
  simp only [ids, positions, List.map_flatMap, List.map_map]
  rfl

/-- A whole number between two others lies between them in either order. -/
theorem mem_between {a b x : Int} : x ∈ between a b ↔ min a b ≤ x ∧ x ≤ max a b := by
  -- The numbers are counted from the smaller one on.
  rw [between, List.mem_map]
  constructor
  · rintro ⟨steps, small, rfl⟩
    rw [List.mem_range] at small
    omega
  · rintro ⟨low, high⟩
    exact ⟨(x - min a b).toNat, List.mem_range.mpr (by omega), by omega⟩

/-- A position of an area lies between its corners. -/
theorem mem_positions {area : Area} {p : Position} : p ∈ area.positions ↔
    p.column ∈ between area.start.column area.finish.column ∧
      p.row ∈ between area.start.row area.finish.row := by
  -- The columns are gone through, and in each of them the rows.
  simp only [positions, List.mem_flatMap, List.mem_map]
  constructor
  · rintro ⟨column, inColumns, row, inRows, rfl⟩
    exact ⟨inColumns, inRows⟩
  · rintro ⟨inColumns, inRows⟩
    exact ⟨p.column, inColumns, p.row, inRows, rfl⟩

end Area

namespace Position

/-- Between two positions with names lie only positions with names. -/
theorem Named.of_mem_positions {area : Area} {p : Position} (start : area.start.Named)
    (finish : area.finish.Named) (member : p ∈ area.positions) : p.Named := by
  -- Between the corners both coordinates are as large as those of a corner.
  rw [Area.mem_positions, Area.mem_between, Area.mem_between] at member
  have := start.onSheet.column
  have := finish.onSheet.column
  have := start.onSheet.row
  have := finish.onSheet.row
  have short := start.readable
  have short' := finish.readable
  rw [Readable] at short short'
  refine ⟨⟨by omega, by omega⟩, ?_⟩
  -- The row is no larger than the larger of the two corners' rows.
  rw [Readable]
  rcases le_total area.start.row area.finish.row with up | down
  · exact lt_of_le_of_lt (by omega) short'
  · exact lt_of_le_of_lt (by omega) short

end Position

namespace Expr

mutual
/-- The positions that an expression reads, in the order of reading. -/
def positions : Expr → List Position
  -- An area stands for all of its positions.
  | number _ | text _ | truth _ => []
  | cell p => [p]
  | area a => a.positions
  | unary _ operand => positions operand
  | binary _ left right => positions left ++ positions right
  | call _ arguments => positionsOfAll arguments

/-- The positions that some expressions read, in the order of reading. -/
def positionsOfAll : List Expr → List Position
  -- Argument by argument.
  | [] => []
  | e :: rest => positions e ++ positionsOfAll rest
end

mutual
/-- The references of an expression are the ids of the positions it reads. -/
theorem references_eq_map (e : Expr) : e.references = e.positions.map Position.id := by
  -- The cases follow the expression.
  match e with
  | number _ | text _ | truth _ => rfl
  | cell p => rfl
  | area a => exact a.ids_eq_map
  | unary _ operand => exact references_eq_map operand
  -- The references of the left operand come first in both lists.
  | binary _ left right =>
    rw [references, positions, List.map_append, references_eq_map left, references_eq_map right]
  | call _ arguments => exact referencesOfAll_eq_map arguments

/-- The references of some expressions are the ids of the positions they read. -/
theorem referencesOfAll_eq_map (es : List Expr) :
    referencesOfAll es = (positionsOfAll es).map Position.id := by
  -- The cases follow the list.
  match es with
  | [] => rfl
  | e :: rest =>
    rw [referencesOfAll, positionsOfAll, List.map_append, references_eq_map e,
      referencesOfAll_eq_map rest]
end

/-- An expression refers only to positions that have names. -/
def Proper (e : Expr) : Prop := ∀ p ∈ e.positions, p.Named

/-- Some expressions refer only to positions that have names. -/
def AllProper (es : List Expr) : Prop := ∀ p ∈ positionsOfAll es, p.Named

/-- The kinds of failures that belong to reading. -/
def readingKinds : List ErrorKind := [.lex, .parse]

/-- A text that is no formula fails for its tokens, or for a number that is not one or too long. -/
abbrev Misread : Failure → Prop := Failure.Among readingKinds Fault.Conversion

mutual
/-- What the grammar derives refers only to positions with names. -/
theorem Derives.proper {level : Nat} {ts : List Token} {e : Expr} (derives : Derives level ts e) :
    e.Proper := by
  -- The cases follow the derivation, in which references name positions.
  match derives with
  | .number _ | .text _ | .truth _ => simp [Proper, positions]
  | .cell reads =>
    have named := (Position.ofText_delivers _).of_ok reads
    simpa [Proper, positions] using named
  | .area start finish =>
    have corners := And.intro ((Position.ofText_delivers _).of_ok start)
      ((Position.ofText_delivers _).of_ok finish)
    exact fun p member => Position.Named.of_mem_positions corners.1 corners.2 member
  | .constant .. => simp [Proper, positions, positionsOfAll]
  | .call _ _ _ inside => exact inside.proper
  | .parenthesized _ _ inside => exact inside.proper
  | .unary _ operand => exact operand.proper
  | .binary _ first second =>
    intro p member
    rcases List.mem_append.mp member with left | right
    · exact first.proper p left
    · exact second.proper p right
  | .alone _ one => exact one.proper

/-- Arguments that the grammar derives refer only to positions with names. -/
theorem Lists.proper {ts : List Token} {es : List Expr} (lists : Lists ts es) : AllProper es := by
  match lists with
  | .single one => simpa [AllProper, positionsOfAll, Proper] using one.proper
  | .cons _ one others =>
    intro p member
    rcases List.mem_append.mp member with here | there
    · exact one.proper p here
    · exact others.proper p there
end

/-- Tokens read into an expression refer only to positions with names. -/
theorem ofTokens_delivers (ts : List Token) : Delivers Proper Misread (ofTokens ts) :=
  (ofTokens_derives ts).mono (fun _ derives => derives.proper) fun _ refused =>
    refused.mono (by simp [readingKinds]) fun _ fault => fault.1

end Expr

namespace Token

/-- What is no sequence of tokens is a matter of the characters. -/
abbrev Unlexed (e : FormulaError) : Prop := e.kind = .lex

/-- A number fails only where it has a second point. -/
theorem number_unlexed (pointed : Bool) (read cs : List Char) :
    FailsOnly Unlexed (number pointed read cs) := by
  -- The induction is along the text, and only a point can fail.
  induction cs generalizing pointed read with
  | nil => trivial
  | cons c cs ih =>
    rw [number]
    split_ifs
    · exact ih _ _
    · exact rfl
    · exact ih _ _
    · trivial

/-- A token that cannot be read begins with a spoilt number or with a strange character. -/
theorem next_unlexed (c : Char) (cs : List Char) : FailsOnly Unlexed (next c cs) := by
  -- An operator symbol is one way to begin a token; the other ways are tried one by one.
  cases symbol : operator? (c :: cs) with
  | some found =>
    simp only [next, symbol]
    split_ifs with quote digits letter
    · trivial
    · exact (number_unlexed _ _ _).map _
    · trivial
    · trivial
  | none =>
    simp only [next, symbol]
    split_ifs with quote digits letter opening closing comma
    · trivial
    · exact (number_unlexed _ _ _).map _
    · trivial
    · trivial
    · trivial
    · trivial
    · exact rfl

/-- A text falls into tokens unless one of them cannot be read. -/
theorem scan_unlexed (cs : List Char) : FailsOnly Unlexed (scan cs) := by
  -- The induction is that of the scan, which goes on behind each token.
  induction cs using scan.induct with
  | case1 =>
    rw [scan]
    trivial
  | case2 c rest blank ih =>
    rw [scan, if_pos blank]
    exact ih
  | case3 c rest filled e found =>
    -- Reading the token ends the scan with its own failure.
    rw [scan, if_neg filled]
    split
    · rename_i found'
      exact (next_unlexed c rest).of_error found'
    · rename_i found'
      cases found.symm.trans found'
  | case4 c rest filled token after found shorter ih =>
    rw [scan, if_neg filled]
    split
    · rename_i found'
      cases found.symm.trans found'
    · rename_i found'
      cases found.symm.trans found'
      exact ih.map _

end Token

/-- A formula is read as an expression that refers to cells of a sheet, or fails to be read. -/
theorem Expr.ofFormula_delivers (formula : String) :
    Delivers Expr.Proper Expr.Misread (Expr.ofFormula formula) := by
  -- Either the characters are at fault or the tokens are.
  rw [Expr.ofFormula]
  cases tokens : Token.ofFormula formula with
  | ok ts => exact Expr.ofTokens_delivers ts
  | error e =>
    have kind := (Token.scan_unlexed _).of_error tokens
    show e.kind ∈ Expr.readingKinds
    rw [kind]
    decide

end Spreadsheet
