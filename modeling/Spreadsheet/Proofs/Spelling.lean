import Mathlib.Data.List.Basic
import Spreadsheet.Proofs.Position

/-!
The spellings of a reference. A text in upper case names the cell that the text names, and it is the
cell's id exactly if no zero stands in front of the row and no line end follows.
-/

namespace Spreadsheet

namespace Text

/-- The digits of a positive number do not start with a zero. -/
theorem head?_natDigits {n : Nat} (positive : 0 < n) : (natDigits n).head? ≠ some '0' := by
  -- The induction takes digits off at the end until one is left.
  fun_induction natDigits n with
  | case1 n small => interval_cases n <;> simp_all [digitChar]
  | case2 n large ih =>
    rw [List.head?_append_of_ne_nil _ (natDigits_ne_nil _)]
    exact ih (by omega)

end Text

namespace Literal

/-- Digits without a zero in front are those of their value. -/
theorem natDigits_digitsValue {cs : List Char} (digits : ∀ c ∈ cs, c.isDigit = true)
    (nonempty : cs ≠ []) (lead : cs.head? ≠ some '0') :
    Text.natDigits (digitsValue cs) = cs ∧ 0 < digitsValue cs := by
  -- The induction takes the last digit off, as the value is read from the left.
  induction cs using List.reverseRecOn with
  | nil => exact absurd rfl nonempty
  | append_singleton cs c ih =>
    obtain ⟨d, small, rfl⟩ := Text.digitChar_of_isDigit (digits c (by simp))
    rw [digitsValue_append, Text.digitValue?_digitChar small, Option.getD_some]
    by_cases first : cs = []
    · -- A single digit is not the zero.
      subst first
      have positive : d ≠ 0 := by
        rintro rfl
        exact lead rfl
      rw [show digitsValue [] = 0 from rfl, Nat.zero_mul, Nat.zero_add, Text.natDigits, if_pos small]
      exact ⟨rfl, by omega⟩
    · rw [List.head?_append_of_ne_nil _ first] at lead
      obtain ⟨same, positive⟩ := ih (fun c member => digits c (by simp [member])) first lead
      rw [Text.natDigits, if_neg (by omega), show (digitsValue cs * 10 + d) / 10 = digitsValue cs by
        omega, show (digitsValue cs * 10 + d) % 10 = d by omega, same]
      exact ⟨rfl, by omega⟩

end Literal

namespace Column

/-- A character with a number is the capital letter at its place. -/
theorem eq_letter_of_value? {c : Char} {n : Nat} (read : value? c = some n) :
    c = letter (n - 1) := by
  have bounds := value?_bounds read
  unfold value? at read
  -- Only the characters from A to Z have a number, which is their distance from the one before A.
  split at read
  · simp only [Option.some.injEq] at read
    rw [letter, show 0x41 + (n - 1) = c.toNat by omega, Char.ofNat_toNat]
  · simp at read

/-- Letters with a number are those of the column with that number. -/
theorem letters_of_number? {cs : List Char} {n : Nat} (read : number? cs = some n) :
    letters n = cs := by
  -- The induction takes the last letter off, as the number is read from the left.
  induction cs using List.reverseRecOn generalizing n with
  | nil =>
    obtain rfl : 0 = n := by simpa [number?] using read
    rw [letters, if_pos rfl]
  | append_singleton cs c ih =>
    rw [number?_append, Option.bind_eq_some_iff] at read
    obtain ⟨before, earlier, read⟩ := read
    obtain ⟨last, value, rfl⟩ := Option.map_eq_some_iff.mp read
    have bounds := value?_bounds value
    rw [letters, if_neg (by omega), show (before * 26 + last - 1) / 26 = before by omega,
      show (before * 26 + last - 1) % 26 = last - 1 by omega, ih earlier,
      ← eq_letter_of_value? value]

/-- The upper case of letters that name a column are those of the column. -/
theorem upper_of_index {cs : List Char} {column : Int}
    (read : index (String.ofList cs) = .ok column) :
    0 ≤ column ∧ (letters (column + 1).toNat).length ≤ 3 ∧
      cs.flatMap Text.upperChar = letters (column + 1).toNat := by
  -- The letters are put in upper case before they are counted and read.
  unfold index at read
  rw [Text.upper, String.toList_ofList, String.toList_ofList] at read
  dsimp only at read
  -- Only one to three letters with a number name a column.
  split at read
  · cases read
  · rename_i shape
    simp only [not_or, not_lt] at shape
    split at read
    · rename_i number found
      cases read
      have positive := (number?_le found).1 shape.1
      have same := letters_of_number? found
      rw [show ((number : Int) - 1 + 1).toNat = number by omega, same]
      exact ⟨by omega, shape.2, rfl⟩
    · cases read

end Column

namespace Position

variable {s : String} {p : Position}

/-- The parts of a text that names a position. -/
structure Spells (s : String) (p : Position) (letters digits tail : List Char) : Prop where
  parts : Parts s letters digits tail
  short : digits.length ≤ digitLimit
  column : Column.index (String.ofList letters) = .ok p.column
  row : (Literal.digitsValue digits : Int) = p.row + 1
  positive : 0 ≤ p.row

/-- A text that names a position is read as it, from its parts. -/
theorem Spells.ofText? {letters digits tail : List Char} (spells : Spells s p letters digits tail) :
    ofText? s = .ok (some p) := by
  obtain ⟨parts, short, column, row, positive⟩ := spells
  -- Neither of the two ways to fail is open to the parts.
  have nonzero : Literal.digitsValue digits ≠ 0 := by omega
  simp [Position.ofText?, parts.parts?, not_lt.mpr short, nonzero, column, row, Bind.bind, Except.bind,
    Pure.pure, Except.pure]

/-- Only a text that spells a position is read as it. -/
theorem exists_spells (read : ofText? s = .ok (some p)) :
    ∃ letters digits tail, Spells s p letters digits tail := by
  unfold Position.ofText? at read
  -- The text has to pass every test on the way to a position.
  split at read
  · cases read
  · rename_i letters digits found
    obtain ⟨tail, parts⟩ := exists_parts found
    dsimp only at read
    split at read
    · cases read
    · rename_i short
      split at read
      · cases read
      · rename_i nonzero
        obtain ⟨column, index, made⟩ := bind_eq_ok_iff.mp read
        cases made
        exact ⟨letters, digits, tail, parts, not_lt.mp short, index, by simp, by simp; omega⟩

private theorem upperChar_of_capital {n : Nat} {c : Char} (member : c ∈ Column.letters n) :
    Text.upperChar c = [c] := by
  obtain ⟨k, small, rfl⟩ := Column.letter_of_mem_letters member
  -- There are only twenty-six capitals.
  interval_cases k <;> rfl

private theorem upperChar_of_isDigit {c : Char} (digit : c.isDigit = true) :
    Text.upperChar c = [c] := by
  obtain ⟨d, small, rfl⟩ := Text.digitChar_of_isDigit digit
  interval_cases d <;> rfl

variable {letters digits tail : List Char}

/-- In upper case the letters of a spelling are those of the id, and the rest of it stays. -/
theorem Spells.upper_toList (spells : Spells s p letters digits tail) :
    (Text.upper s).toList = p.idLetters ++ (digits ++ tail) := by
  have column := (Column.upper_of_index spells.column).2.2
  have number : digits.flatMap Text.upperChar = digits :=
    flatMap_upperChar fun c member => upperChar_of_isDigit (spells.parts.allDigits c member)
  have ending : tail.flatMap Text.upperChar = tail := by
    -- A line end, or nothing, has no other case.
    rcases spells.parts.ends with rfl | rfl <;> rfl
  rw [Text.upper, String.toList_ofList, spells.parts.toList, List.flatMap_append,
    List.flatMap_append, column, number, ending, idLetters]

/-- In upper case a spelling of a position is another one of it. -/
theorem Spells.upper (spells : Spells s p letters digits tail) :
    Spells (Text.upper s) p p.idLetters digits tail := by
  obtain ⟨first, few, -⟩ := Column.upper_of_index spells.column
  have nonempty : p.idLetters ≠ [] := by
    rw [idLetters, Column.letters, if_neg (by omega)]
    simp
  refine ⟨⟨spells.upper_toList, fun c member => ?_, spells.parts.allDigits, nonempty,
    spells.parts.someDigit, spells.parts.ends⟩, spells.short, ?_, spells.row, spells.positive⟩
  · obtain ⟨k, small, rfl⟩ := Column.letter_of_mem_letters member
    exact isLetter_letter small
  · -- Capitals are their own upper case, and they have the number of the column.
    have fixed : p.idLetters.flatMap Text.upperChar = p.idLetters :=
      flatMap_upperChar fun c member => upperChar_of_capital member
    have number : Column.number? p.idLetters = some (p.column + 1).toNat := Column.number?_letters _
    have short : p.idLetters.length ≤ 3 := few
    simp only [Column.index, Text.upper, String.toList_ofList, fixed, nonempty, false_or,
      not_lt.mpr short, if_false, number, Except.ok.injEq]
    omega

/-- A text in upper case names the position that the text names. -/
theorem ofText?_upper (read : ofText? s = .ok (some p)) :
    ofText? (Text.upper s) = .ok (some p) := by
  obtain ⟨letters, digits, tail, spells⟩ := exists_spells read
  exact spells.upper.ofText?

/-- A text that is written as ids are but for the case of its letters. -/
def isPlain (s : String) : Bool :=
  -- The row has no zero in front, and no line end follows.
  match parts? s with
  | some (letters, digits) => s.toList == letters ++ digits && digits.head? != some '0'
  | none => false

/-- The upper case of a text that names a position is its id exactly if the text is plain. -/
theorem upper_eq_id_iff (read : ofText? s = .ok (some p)) :
    Text.upper s = p.id ↔ isPlain s = true := by
  obtain ⟨letters, digits, tail, spells⟩ := exists_spells read
  have named := (ofText?_delivers s).of_ok read p rfl
  have plain : isPlain s = true ↔ tail = [] ∧ digits.head? ≠ some '0' := by
    simp [isPlain, spells.parts.parts?, spells.parts.toList]
  rw [plain, ← String.toList_inj, spells.upper_toList, id_toList named.onSheet]
  rw [List.append_cancel_left_eq, idDigits]
  have row : (p.row + 1).toNat = Literal.digitsValue digits := by
    have value := spells.row
    omega
  constructor
  · intro same
    -- The line end is no digit, and the digits of the id do not start with a zero.
    have ended : tail = [] := by
      rcases spells.parts.ends with none | rfl
      · exact none
      · have inside : '\n' ∈ Text.natDigits (p.row + 1).toNat := same ▸ by simp
        obtain ⟨d, small, newline⟩ := Text.digitChar_of_mem_natDigits inside
        interval_cases d <;> simp [Text.digitChar] at newline
    subst ended
    rw [List.append_nil] at same
    have positive := spells.positive
    exact ⟨rfl, same ▸ Text.head?_natDigits (by omega)⟩
  · rintro ⟨rfl, lead⟩
    rw [List.append_nil, row]
    exact (Literal.natDigits_digitsValue spells.parts.allDigits spells.parts.someDigit lead).1.symm

/-- A text has no row number, or one that is short enough to be read. -/
def isRowReadable (s : String) : Bool :=
  -- Only a text of the form of a reference has a row number.
  match parts? s with
  | some (_, digits) => digits.length ≤ digitLimit
  | none => true

/-- Letters that name no column do not parse. -/
theorem index_ne_fault (letters : String) (f : Fault) :
    Column.index letters ≠ .error (.fault f) := by
  -- Letters either fail to parse or give a column.
  unfold Column.index
  dsimp only
  split
  · simp
  · split <;> simp

/-- A reference is a fault only if its row number is too long to be read. -/
theorem not_isRowReadable {f : Fault} (failed : ofText s = .error (.fault f)) :
    ¬isRowReadable s := by
  intro readable
  unfold ofText ofText? at failed
  cases found : parts? s with
  | none => simp [found, Bind.bind, Except.bind, throw, throwThe, MonadExceptOf.throw] at failed
  | some parts =>
    obtain ⟨letters, digits⟩ := parts
    have short : ¬digitLimit < digits.length := by simpa [isRowReadable, found] using readable
    -- What is left to fail is a row number of zero, or the column.
    by_cases zero : Literal.digitsValue digits = 0
    · simp [found, short, zero, Bind.bind, Except.bind, Pure.pure, Except.pure, throw, throwThe,
        MonadExceptOf.throw] at failed
    · cases column : Column.index (String.ofList letters) with
      | ok column' =>
        simp [found, short, zero, column, Bind.bind, Except.bind, Pure.pure, Except.pure] at failed
      | error e =>
        obtain rfl : e = .fault f := by
          simpa [found, short, zero, column, Bind.bind, Except.bind, Pure.pure, Except.pure] using failed
        exact index_ne_fault _ _ column

/-- A reference that names a position has no colon. -/
theorem colon_not_mem {p : Position} (read : ofText s = .ok p) : ':' ∉ s.toList := by
  obtain ⟨letters, digits, tail, spells⟩ := exists_spells (ofText_eq_ok.mp read)
  rw [spells.parts.toList]
  intro member
  -- The colon is neither a letter nor a digit nor a line end.
  rcases List.mem_append.mp member with letter | behind
  · exact absurd (spells.parts.allLetters _ letter) (by decide)
  · rcases List.mem_append.mp behind with digit | ending
    · exact absurd (spells.parts.allDigits _ digit) (by decide)
    · rcases spells.parts.ends with rfl | rfl <;> simp at ending

end Position
end Spreadsheet
