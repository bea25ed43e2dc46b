import Spreadsheet.Proofs.Spelling

/-!
Ids and positions are inverse to each other: the id that is written for a position names it, no
other position has it, and a text that names a position is its id but for case, zeros and a line
end.
-/

namespace Spreadsheet

namespace Column

/-- The columns of a sheet have the letters of their numbers. -/
theorem name_of_lt {index : Int} (first : 0 ≤ index) (last : index < count) :
    name index = .ok (letters (index + 1).toNat) := by
  -- The letters are counted from one, the columns from zero.
  rw [name, if_neg (by omega), if_neg (by omega), show index.toNat + 1 = (index + 1).toNat by omega]

end Column

namespace Position

variable {s : String} {p q : Position} {letters digits tail : List Char}

/-- The id of a position that a sheet has is written if its row is not too long. -/
theorem checkedId_of_named (named : p.Named) : p.checkedId = .ok p.id := by
  -- The column has letters, so only the length of the row can stop the id.
  obtain ⟨⟨⟨first, last⟩, row⟩, readable⟩ := named
  rw [Readable] at readable
  rw [checkedId, Column.name_of_lt first last]
  -- How many digits the limit is does not matter.
  generalize digitLimit = limit at readable ⊢
  have short : ¬Nat.pow 10 limit ≤ (p.row + 1).natAbs := by
    rw [Nat.pow_eq]
    omega
  exact if_neg short

/-- A row that is too long to be read is too long to be written. -/
theorem checkedId_of_not_readable (on : p.OnSheet) (long : ¬p.Readable) :
    p.checkedId = .error .tooLongToWrite := by
  obtain ⟨⟨first, last⟩, row⟩ := on
  rw [Readable] at long
  rw [checkedId, Column.name_of_lt first last]
  -- The same test is made on the way out as on the way in.
  generalize digitLimit = limit at long ⊢
  have beyond : Nat.pow 10 limit ≤ (p.row + 1).natAbs := by
    rw [Nat.pow_eq]
    omega
  exact if_pos beyond

/-- Positions for which one id is written are one position. -/
theorem checkedId_inj (named : p.Named) (named' : q.Named) (same : p.checkedId = q.checkedId) :
    p = q := by
  -- Both ids are written, and ids of positions of a sheet are distinct.
  rw [checkedId_of_named named, checkedId_of_named named', Except.ok.injEq] at same
  exact id_inj named.onSheet named'.onSheet same

/-- The first digit of a text in parts is the one that its digits begin with. -/
theorem Parts.find?_isDigit (parts : Parts s letters digits tail) :
    s.toList.find? Char.isDigit = digits.head? := by
  -- Letters are no digits, so the first digit is behind all of them.
  have letters : letters.find? Char.isDigit = none := by
    simp only [List.find?_eq_none]
    intro c member digit
    have other := isLetter_of_isDigit digit
    simp [parts.allLetters c member] at other
  obtain ⟨d, others, rfl⟩ := List.exists_cons_of_ne_nil parts.someDigit
  have first : d.isDigit = true := parts.allDigits d List.mem_cons_self
  simp [parts.toList, List.find?_append, letters, first]

/-- A text in parts has a line end in it exactly if one follows the digits. -/
theorem Parts.newline_mem (parts : Parts s letters digits tail) : '\n' ∈ s.toList ↔ tail ≠ [] := by
  -- Neither letters nor digits contain a line end.
  have noLetter : '\n' ∉ letters := fun member => absurd (parts.allLetters _ member) (by decide)
  have noDigit : '\n' ∉ digits := fun member => absurd (parts.allDigits _ member) (by decide)
  rcases parts.ends with rfl | rfl <;> simp [parts.toList, noLetter, noDigit]

/-- A text that names a position is plain if no line end and no leading zero is in it. -/
theorem isPlain_iff (read : ofText? s = .ok (some p)) :
    isPlain s = true ↔ '\n' ∉ s.toList ∧ s.toList.find? Char.isDigit ≠ some '0' := by
  -- A text that names a position falls into letters, digits and maybe a line end.
  obtain ⟨letters, digits, tail, spells⟩ := exists_spells read
  have parts := spells.parts
  rw [parts.newline_mem, parts.find?_isDigit, not_not]
  simp [isPlain, parts.parts?, parts.toList]

/-- The id written for the position that a text names is the text in upper case if it is plain. -/
theorem checkedId_eq_upper_iff (read : ofText? s = .ok (some p)) :
    p.checkedId = .ok (Text.upper s) ↔
      '\n' ∉ s.toList ∧ s.toList.find? Char.isDigit ≠ some '0' := by
  -- The id in upper case is the text in upper case exactly if the text is plain.
  have named := (ofText?_delivers s).of_ok read p rfl
  rw [checkedId_of_named named, Except.ok.injEq, ← isPlain_iff read, ← upper_eq_id_iff read,
    eq_comm]

/--
Ids and positions are inverse to each other. A position with a name has an id that is read as the
position, and shares it with no other one. The id of the position that a text names is the text in
upper case exactly if the text has neither a line end nor a zero in front of its digits.
-/
theorem checkedId_inverse :
    (∀ p : Position, p.Named → ∃ id, p.checkedId = .ok id ∧ ofText? id = .ok (some p)) ∧
      (∀ p q : Position, p.Named → q.Named → p.checkedId = q.checkedId → p = q) ∧
      ∀ (s : String) (p : Position), ofText? s = .ok (some p) →
        (p.checkedId = .ok (Text.upper s) ↔
          '\n' ∉ s.toList ∧ s.toList.find? Char.isDigit ≠ some '0') := by
  -- The three laws were proved one by one; what is written is read again.
  refine ⟨fun p named => ?_, fun p q => checkedId_inj, fun s p => checkedId_eq_upper_iff⟩
  exact ⟨p.id, checkedId_of_named named, ofText?_id named⟩

/-- The last column of two letters and the first one of three have ids of their own. -/
theorem checkedId_inverse_carry :
    Named ⟨701, 9⟩ ∧ Named ⟨702, 9⟩ ∧ checkedId ⟨701, 9⟩ ≠ checkedId ⟨702, 9⟩ ∧
      (∃ id, checkedId ⟨702, 9⟩ = .ok id ∧ ofText? id = .ok (some ⟨702, 9⟩)) ∧
      ofText? "zz10" = .ok (some ⟨701, 9⟩) ∧ checkedId ⟨701, 9⟩ = .ok "ZZ10" := by
  -- The limit of digits must not be calculated.
  have small : 10 < 10 ^ digitLimit := by decide +kernel
  have last : Named ⟨701, 9⟩ := ⟨⟨by decide, by decide⟩, small⟩
  have next : Named ⟨702, 9⟩ := ⟨⟨by decide, by decide⟩, small⟩
  have read : ofText? "zz10" = .ok (some ⟨701, 9⟩) := by decide
  obtain ⟨written, distinct, upper⟩ := checkedId_inverse
  refine ⟨last, next, fun same => ?_, written _ next, read, ?_⟩
  · exact absurd (distinct _ _ last next same) (by decide)
  · exact (upper "zz10" _ read).mpr (by decide)

end Position
end Spreadsheet
