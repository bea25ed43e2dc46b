import Mathlib.Data.List.Induction
import Mathlib.Data.List.TakeWhile
import Mathlib.Tactic.IntervalCases
import Spreadsheet.Position
import Spreadsheet.Proofs.Outcome

/-! Ids and positions: every position on a sheet is read back from its id, and no other text is. -/

namespace Spreadsheet

namespace Text

/-- The value of a digit below ten is the digit. -/
@[simp] theorem digitValue?_digitChar {n : Nat} (small : n < 10) :
    digitValue? (digitChar n) = some n := by
  -- Each of the ten digits is looked up.
  interval_cases n <;> rfl

/-- A digit of any script has a value below ten. -/
theorem digitValue?_le (c : Char) : (digitValue? c).getD 0 ≤ 9 := by
  -- The digit lies less than ten places behind its zero.
  unfold digitValue?
  cases found : decimalZeros.find? fun start => start ≤ c.toNat && c.toNat < start + 10 with
  | none => simp
  | some start =>
    have near := List.find?_some found
    simp only [Bool.and_eq_true, decide_eq_true_eq] at near
    simp only [Option.map_some, Option.getD_some]
    omega

/-- The digits of a number are among the ten. -/
theorem digitChar_of_mem_natDigits {n : Nat} {c : Char} (member : c ∈ natDigits n) :
    ∃ d < 10, c = digitChar d := by
  fun_induction natDigits n with
  | case1 n small => exact ⟨n, small, by simpa using member⟩
  -- The last digit is a remainder, and the others are digits by induction.
  | case2 n large ih =>
    rcases List.mem_append.mp member with earlier | last
    · exact ih earlier
    · exact ⟨n % 10, Nat.mod_lt n (by decide), by simpa using last⟩

/-- Whatever counts as a digit in a reference is among the ten. -/
theorem digitChar_of_isDigit {c : Char} (digit : c.isDigit = true) : ∃ d < 10, c = digitChar d := by
  -- The ten digits follow one another, so the distance from zero tells which one it is.
  have range : 48 ≤ c.toNat ∧ c.toNat ≤ 57 := Char.isDigit_iff_toNat.mp digit
  refine ⟨c.toNat - 48, by omega, ?_⟩
  rw [digitChar, show 0x30 + (c.toNat - 48) = c.toNat by omega, Char.ofNat_toNat]

/-- Every number has a digit. -/
theorem natDigits_ne_nil (n : Nat) : natDigits n ≠ [] := by
  unfold natDigits
  split <;> simp

/-- A number below a power of ten has no more digits than that. -/
theorem length_natDigits_le {n k : Nat} (positive : 0 < k) (small : n < 10 ^ k) :
    (natDigits n).length ≤ k := by
  obtain ⟨k, rfl⟩ := Nat.exists_eq_succ_of_ne_zero positive.ne'
  -- The induction is on the number of digits that are allowed.
  induction k generalizing n with
  | zero => rw [natDigits, if_pos (by simpa using small)]; simp
  | succ k ih =>
    rw [natDigits]
    split
    · simp
    · -- Without its last digit the number lies below the next smaller power.
      have less : n / 10 < 10 ^ (k + 1) := by
        rw [Nat.div_lt_iff_lt_mul (by decide), ← Nat.pow_succ]
        exact small
      have fewer := ih k.succ_pos less
      rw [List.length_append, List.length_singleton]
      omega

end Text

namespace Literal

/-- One more digit shifts the value by one place. -/
theorem digitsValue_append (cs : List Char) (c : Char) :
    digitsValue (cs ++ [c]) = digitsValue cs * 10 + (Text.digitValue? c).getD 0 := by
  simp [digitsValue]

/-- The digits of a number have its value. -/
@[simp] theorem digitsValue_natDigits (n : Nat) : digitsValue (Text.natDigits n) = n := by
  fun_induction Text.natDigits n with
  | case1 n small => simp [digitsValue, small]
  | case2 n large ih =>
    -- The last digit is the remainder, and what stands before it is worth the quotient.
    rw [digitsValue_append, ih, Text.digitValue?_digitChar (Nat.mod_lt n (by decide))]
    simp only [Option.getD_some]
    omega

/-- Digits have a value below the power of ten of their count. -/
theorem digitsValue_lt (cs : List Char) : digitsValue cs < 10 ^ cs.length := by
  -- The induction takes the last digit off, as the value is read from the left.
  induction cs using List.reverseRecOn with
  | nil => simp [digitsValue]
  | append_singleton cs c ih =>
    have last := Text.digitValue?_le c
    rw [digitsValue_append, List.length_append, List.length_singleton, Nat.pow_succ]
    omega

end Literal

namespace Column

/-- The letters of a column are capitals. -/
theorem letter_of_mem_letters {n : Nat} {c : Char} (member : c ∈ letters n) :
    ∃ k < 26, c = letter k := by
  fun_induction letters n with
  | case1 => simp at member
  -- The last letter stands for a remainder, like a digit.
  | case2 n positive ih =>
    rcases List.mem_append.mp member with earlier | last
    · exact ih earlier
    · exact ⟨(n - 1) % 26, Nat.mod_lt _ (by decide), by simpa using last⟩

/-- The number of a capital letter is one more than its place. -/
theorem value?_letter {k : Nat} (small : k < 26) : value? (letter k) = some (k + 1) := by
  interval_cases k <;> rfl

/-- A capital letter has a number from one to twenty-six. -/
theorem value?_bounds {c : Char} {n : Nat} (read : value? c = some n) : 1 ≤ n ∧ n ≤ 26 := by
  unfold value? at read
  -- Only the characters from A to Z have a number.
  split at read
  · rename_i range
    have low : 'A'.toNat ≤ c.toNat := range.1
    have high : c.toNat ≤ 'Z'.toNat := range.2
    have first : 'A'.toNat = 65 := rfl
    have last : 'Z'.toNat = 90 := rfl
    simp only [Option.some.injEq] at read
    omega
  · simp at read

/-- One more letter shifts the number by one place of twenty-six. -/
theorem number?_append (cs : List Char) (c : Char) :
    number? (cs ++ [c]) = (number? cs).bind fun n => (value? c).map (n * 26 + ·) := by
  simp [number?, List.foldlM_append]

/-- The letters of a column have its number. -/
theorem number?_letters (n : Nat) : number? (letters n) = some n := by
  fun_induction letters n with
  | case1 => rfl
  | case2 n positive ih =>
    -- What stands before the last letter has the number of the quotient.
    rw [number?_append, ih, Option.bind_some, value?_letter (Nat.mod_lt _ (by decide)),
      Option.map_some, Option.some.injEq]
    omega

/-- The columns of a sheet have at most three letters. -/
theorem length_letters_le {n : Nat} (within : n ≤ count) : (letters n).length ≤ 3 := by
  -- Each letter divides the number by twenty-six.
  rw [count] at within
  -- One letter reaches as far as the alphabet, and two letters its square further.
  have one : ∀ m ≤ 26, (letters m).length ≤ 1 := by
    intro m small
    rw [letters]
    split
    · simp
    · rw [show (m - 1) / 26 = 0 by omega, letters]; simp
  have two : ∀ m ≤ 702, (letters m).length ≤ 2 := by
    intro m small
    rw [letters]
    split
    · simp
    · have fewer := one ((m - 1) / 26) (by omega)
      rw [List.length_append, List.length_singleton]
      omega
  rw [letters]
  split
  · simp
  · have fewer := two ((n - 1) / 26) (by omega)
    rw [List.length_append, List.length_singleton]
    omega

/-- A number read from letters is bounded by their count, and positive if there are any. -/
theorem number?_le {cs : List Char} {n : Nat} (read : number? cs = some n) :
    (cs ≠ [] → 1 ≤ n) ∧ 25 * n + 26 ≤ 26 ^ (cs.length + 1) := by
  -- The bound is the sum of the powers of twenty-six, which one more letter carries along.
  induction cs using List.reverseRecOn generalizing n with
  | nil =>
    have : n = 0 := by simpa [number?, eq_comm] using read
    subst this
    exact ⟨by simp, by simp⟩
  | append_singleton cs c ih =>
    rw [number?_append, Option.bind_eq_some_iff] at read
    obtain ⟨before, earlier, read⟩ := read
    obtain ⟨last, value, same⟩ := Option.map_eq_some_iff.mp read
    -- The last letter is worth no more than twenty-six.
    have bounds := value?_bounds value
    have bound := (ih earlier).2
    rw [List.length_append, List.length_singleton, Nat.pow_succ]
    exact ⟨fun _ => by omega, by omega⟩

/-- One to three capital letters name a column of a sheet. -/
theorem number?_bounds {cs : List Char} {n : Nat} (nonempty : cs ≠ []) (few : cs.length ≤ 3)
    (read : number? cs = some n) : 1 ≤ n ∧ n ≤ count := by
  obtain ⟨positive, bound⟩ := number?_le read
  -- Three letters reach exactly the last column.
  have most : 26 ^ (cs.length + 1) ≤ 26 ^ 4 := Nat.pow_le_pow_right (by decide) (by omega)
  have numeral : 26 ^ 4 = 456976 := rfl
  rw [count]
  exact ⟨positive nonempty, by omega⟩

end Column

namespace Position

/-- A position that a sheet has: in one of its columns, and in any row. -/
structure OnSheet (p : Position) : Prop where
  column : 0 ≤ p.column ∧ p.column < Column.count
  row : 0 ≤ p.row

/-- The row number is short enough to be read back from text. -/
def Readable (p : Position) : Prop := (p.row + 1).toNat < 10 ^ digitLimit

/-- A position whose id can be written and read back: a sheet has it, and its row is readable. -/
structure Named (p : Position) : Prop where
  onSheet : p.OnSheet
  readable : p.Readable

variable {p q : Position}

/-- The column letters of an id. -/
def idLetters (p : Position) : List Char := Column.letters (p.column + 1).toNat

/-- The row digits of an id. -/
def idDigits (p : Position) : List Char := Text.natDigits (p.row + 1).toNat

/-- The id of a position on a sheet is its letters and its digits. -/
theorem id_toList (on : p.OnSheet) : p.id.toList = p.idLetters ++ p.idDigits := by
  have row := on.row
  -- The row counts from one, so it is written without a sign.
  have sign : ¬ p.row + 1 < 0 := by omega
  have size : (p.row + 1).natAbs = (p.row + 1).toNat := by omega
  simp [id, idLetters, idDigits, Text.intDigits, sign, size]

/-- Letters of a column count as letters, digits of a row do not. -/
theorem isLetter_letter {k : Nat} (small : k < 26) : isLetter (Column.letter k) = true := by
  interval_cases k <;> rfl

/-- A digit is no letter. -/
theorem isLetter_digitChar {d : Nat} (small : d < 10) : isLetter (Text.digitChar d) = false := by
  interval_cases d <;> rfl

/-- A digit is a digit. -/
theorem isDigit_digitChar {d : Nat} (small : d < 10) : (Text.digitChar d).isDigit = true := by
  interval_cases d <;> rfl

/-- A text that is letters and digits, and perhaps a line end. -/
structure Parts (s : String) (letters digits tail : List Char) : Prop where
  toList : s.toList = letters ++ (digits ++ tail)
  allLetters : ∀ c ∈ letters, isLetter c = true
  allDigits : ∀ c ∈ digits, c.isDigit = true
  someLetter : letters ≠ []
  someDigit : digits ≠ []
  ends : tail = [] ∨ tail = ['\n']

/-- What counts as a digit in a reference is no letter. -/
theorem isLetter_of_isDigit {c : Char} (digit : c.isDigit = true) : isLetter c = false := by
  obtain ⟨d, small, rfl⟩ := Text.digitChar_of_isDigit digit
  exact isLetter_digitChar small

/-- The two parts of a text are read from it. -/
theorem Parts.parts? {s : String} {letters digits tail : List Char}
    (parts : Parts s letters digits tail) : parts? s = some (letters, digits) := by
  -- The letters end where the first digit stands, and the digits where the line end may stand.
  have stop : (digits ++ tail).takeWhile isLetter = [] ∧
      (digits ++ tail).dropWhile isLetter = digits ++ tail := by
    -- The first digit ends the letters.
    obtain ⟨d, rest, shape⟩ := List.exists_cons_of_ne_nil parts.someDigit
    have first := isLetter_of_isDigit (parts.allDigits d (by simp [shape]))
    simp [shape, first]
  -- Nothing or a line end follows the digits.
  have last : tail.takeWhile Char.isDigit = [] ∧ tail.dropWhile Char.isDigit = tail := by
    rcases parts.ends with rfl | rfl <;> decide
  rw [Position.parts?, parts.toList, List.takeWhile_append_of_pos parts.allLetters,
    List.dropWhile_append_of_pos parts.allLetters, stop.1, stop.2, List.append_nil,
    List.takeWhile_append_of_pos parts.allDigits, List.dropWhile_append_of_pos parts.allDigits, last.1,
    last.2, List.append_nil]
  exact if_pos ⟨parts.someLetter, parts.someDigit, parts.ends⟩

/-- Two parts that are read from a text are those that it is made of. -/
theorem exists_parts {s : String} {letters digits : List Char}
    (read : parts? s = some (letters, digits)) : ∃ tail, Parts s letters digits tail := by
  unfold Position.parts? at read
  dsimp only at read
  split at read
  · rename_i shape
    obtain ⟨rfl, rfl⟩ := Prod.mk.inj (Option.some.inj read)
    refine ⟨_, ?_, fun c => List.mem_takeWhile_imp, fun c => List.mem_takeWhile_imp, shape.1,
      shape.2.1, shape.2.2⟩
    -- The three parts are put together again.
    rw [List.takeWhile_append_dropWhile, List.takeWhile_append_dropWhile]
  · cases read

/-- An id is made of its letters and its digits. -/
theorem parts_id (on : p.OnSheet) : Parts p.id p.idLetters p.idDigits [] := by
  have column := on.column
  refine ⟨by rw [List.append_nil, id_toList on], fun c member => ?_, fun c member => ?_, ?_,
    Text.natDigits_ne_nil _, .inl rfl⟩
  · obtain ⟨k, small, rfl⟩ := Column.letter_of_mem_letters member
    exact isLetter_letter small
  · obtain ⟨d, small, rfl⟩ := Text.digitChar_of_mem_natDigits member
    exact isDigit_digitChar small
  · rw [idLetters, Column.letters, if_neg (by omega)]
    simp

/-- The two parts of an id are read back from it. -/
theorem parts?_id (on : p.OnSheet) : parts? p.id = some (p.idLetters, p.idDigits) :=
  (parts_id on).parts?

/-- Positions of a sheet with one id are one position. -/
theorem id_inj (on : p.OnSheet) (on' : q.OnSheet) (same : p.id = q.id) : p = q := by
  -- Both parts of the id are the same, and each gives its coordinate back.
  -- Reading each id gives its two parts.
  have parts : some (p.idLetters, p.idDigits) = some (q.idLetters, q.idDigits) := by
    rw [← parts?_id on, ← parts?_id on', same]
  simp only [Option.some.injEq, Prod.mk.injEq, idLetters, idDigits] at parts
  have column : some (p.column + 1).toNat = some (q.column + 1).toNat := by
    rw [← Column.number?_letters, ← Column.number?_letters, parts.1]
  have row : (p.row + 1).toNat = (q.row + 1).toNat := by
    rw [← Literal.digitsValue_natDigits (p.row + 1).toNat, parts.2, Literal.digitsValue_natDigits]
  obtain ⟨column₁, row₁⟩ := p
  obtain ⟨column₂, row₂⟩ := q
  have := on.column
  have := on'.column
  have := on.row
  have := on'.row
  -- The coordinates are not negative, so they are given back by their successors.
  simp only [Option.some.injEq, Position.mk.injEq] at *
  omega

/-- Capitals and digits are their own upper case. -/
theorem upperChar_of_mem_id (on : p.OnSheet) {c : Char} (member : c ∈ p.id.toList) :
    Text.upperChar c = [c] := by
  rw [id_toList on] at member
  -- A character of the id is one of the letters or one of the digits.
  rcases List.mem_append.mp member with letter | digit
  · obtain ⟨k, small, rfl⟩ := Column.letter_of_mem_letters letter
    interval_cases k <;> rfl
  · obtain ⟨d, small, rfl⟩ := Text.digitChar_of_mem_natDigits digit
    interval_cases d <;> rfl

/-- Texts whose characters are their own upper case are so too. -/
theorem flatMap_upperChar {cs : List Char} (fixed : ∀ c ∈ cs, Text.upperChar c = [c]) :
    cs.flatMap Text.upperChar = cs := by
  -- The induction is along the characters.
  induction cs with
  | nil => rfl
  | cons c rest ih =>
    rw [List.flatMap_cons, fixed c (by simp), ih fun c member => fixed c (by simp [member])]
    rfl

/-- The id of a position on a sheet is in upper case. -/
@[simp] theorem upper_id (on : p.OnSheet) : Text.upper p.id = p.id := by
  rw [Text.upper, flatMap_upperChar fun c member => upperChar_of_mem_id on member,
    String.ofList_toList]

/-- The letters of an id give the column. -/
theorem index_idLetters (on : p.OnSheet) :
    Column.index (String.ofList p.idLetters) = .ok p.column := by
  have column := on.column
  have fixed : Text.upper (String.ofList p.idLetters) = String.ofList p.idLetters := by
    rw [Text.upper, String.toList_ofList, flatMap_upperChar fun c member => ?_]
    exact upperChar_of_mem_id on (by rw [id_toList on]; simp [member])
  -- A column has a letter at least, and three of them at most.
  have someLetter : p.idLetters ≠ [] := by
    rw [idLetters, Column.letters, if_neg (by omega)]
    simp
  have few : p.idLetters.length ≤ 3 := Column.length_letters_le (by omega)
  have number : Column.number? p.idLetters = some (p.column + 1).toNat := Column.number?_letters _
  simp only [Column.index, fixed, String.toList_ofList, someLetter, false_or, not_lt.mpr few,
    if_false, number, Except.ok.injEq]
  omega

/-- Every position with a name is read back from its id. -/
theorem ofText?_id (named : p.Named) : ofText? p.id = .ok (some p) := by
  obtain ⟨on, readable⟩ := named
  have row := on.row
  -- The row is short enough to be read.
  have short : ¬ digitLimit < p.idDigits.length :=
    not_lt.mpr (Text.length_natDigits_le (by decide) readable)
  have value : Literal.digitsValue p.idDigits = (p.row + 1).toNat := Literal.digitsValue_natDigits _
  have positive : (p.row + 1).toNat ≠ 0 := by omega
  -- The row number counts from one, so one is taken off again.
  have back : (⟨p.column, max (p.row + 1) 0 - 1⟩ : Position) = p := by
    rw [max_eq_left (by omega), add_sub_cancel_right]
  simp [ofText?, parts?_id on, short, value, positive, index_idLetters on, back, Bind.bind,
    Except.bind, Pure.pure, Except.pure]

/-- Only a position with a name is read back from its id. -/
theorem of_ofText?_id (on : p.OnSheet) (read : ofText? p.id = .ok (some q)) : p.Named ∧ q = p := by
  by_cases readable : p.Readable
  · rw [ofText?_id ⟨on, readable⟩] at read
    cases read
    exact ⟨⟨on, readable⟩, rfl⟩
  · -- A row that is too long has too many digits.
    have long : digitLimit < p.idDigits.length := by
      by_contra short
      have value : Literal.digitsValue p.idDigits = (p.row + 1).toNat :=
        Literal.digitsValue_natDigits _
      have small := Literal.digitsValue_lt p.idDigits
      rw [value] at small
      exact readable (small.trans_le (Nat.pow_le_pow_right (by decide) (not_lt.mp short)))
    simp [ofText?, parts?_id on, long, Bind.bind, Except.bind, throw, throwThe,
      MonadExceptOf.throw] at read

/-- A text that is no name of a cell does not parse, or its row is too long to read. -/
abbrev Misnamed : Failure → Prop := Failure.Among [.parse] Fault.Conversion

/-- Letters name a column of a sheet, or fail to parse. -/
theorem index_delivers (letters : String) :
    Delivers (fun column : Int => 0 ≤ column ∧ column < Column.count) Misnamed
      (Column.index letters) := by
  unfold Column.index
  dsimp only
  -- Letters of a wrong number, or characters that are no letters, do not parse.
  split
  · exact .head _
  · rename_i shape
    simp only [not_or, not_lt] at shape
    split
    · rename_i number found
      have bounds := Column.number?_bounds shape.1 shape.2 found
      exact ⟨by omega, by omega⟩
    · exact .head _

/-- Whatever position a text names has a name; letters that name no column fail to parse. -/
theorem ofText?_delivers (s : String) :
    Delivers (fun found => ∀ p ∈ found, p.Named) Misnamed (ofText? s) := by
  unfold ofText?
  -- A text without the form of a reference names nothing, which is no failure.
  split
  · simp [Delivers]
  · rename_i letters digits _
    dsimp only
    split
    · exact Fault.Conversion.tooLongToRead _
    · rename_i short
      split
      · simp [Delivers, Pure.pure, Except.pure]
      · rename_i nonzero
        -- Few digits have a value below the limit.
        have value := Literal.digitsValue_lt digits
        have limit : 10 ^ digits.length ≤ 10 ^ digitLimit :=
          Nat.pow_le_pow_right (by decide) (not_lt.mp short)
        refine (index_delivers _).bind fun column within => .pure ?_
        rintro p ⟨⟩
        refine ⟨⟨within, by simp only; omega⟩, ?_⟩
        simpa [Readable] using lt_of_lt_of_le value limit

/-- A text read as a reference gives a position with a name, or fails to parse. -/
theorem ofText_delivers (s : String) : Delivers Named Misnamed (ofText s) := by
  refine (ofText?_delivers s).bind fun found named => ?_
  cases found with
  | none => exact .head _
  | some p => exact named p rfl

/-- Reading a reference gives the position that the text names. -/
theorem ofText_eq_ok {s : String} : ofText s = .ok p ↔ ofText? s = .ok (some p) := by
  unfold ofText
  -- Reading a reference adds the failure for a text that is none.
  cases read : ofText? s with
  | error e => simp [Bind.bind, Except.bind]
  | ok found =>
    cases found <;> simp [Bind.bind, Except.bind, Pure.pure, Except.pure, throw, throwThe,
      MonadExceptOf.throw]

end Position
end Spreadsheet
