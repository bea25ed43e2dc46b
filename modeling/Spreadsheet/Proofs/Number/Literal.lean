import Spreadsheet.Proofs.Token.Next

/-! Digits alone, as they are read as a whole number. -/

namespace Spreadsheet

namespace Literal

variable {cs : List Char}

/-- Nothing is cut off digits. -/
theorem unframed_of_digits (digits : ∀ c ∈ cs, Text.isDecimal c = true) :
    unframed (String.ofList cs) = cs := by
  -- A digit is no blank, so nothing goes at the near end of digits.
  have kept : ∀ ds : List Char, (∀ c ∈ ds, Text.isDecimal c = true) →
      ds.dropWhile (fun c => Text.isBlank c && !Text.isSeparator c) = ds := by
    intro ds digits
    cases ds with
    | nil => rfl
    | cons c ds =>
      have digit : Text.isDigit c = true := by simp [Text.isDigit, digits c List.mem_cons_self]
      simp [Text.isBlank_of_isDigit digit]
  -- The far end is the near end of the reversed digits, which are digits as well.
  rw [unframed, Text.trimBy, String.toList_ofList, kept cs digits,
    kept cs.reverse fun c member => digits c (List.mem_reverse.mp member), List.reverse_reverse]

/-- Digits have no underscores among them. -/
theorem withoutMarks?_of_digits (digits : ∀ c ∈ cs, Text.isDecimal c = true) :
    withoutMarks? cs = some cs := by
  -- An underscore is not a digit, which rules out every case with a mark.
  have unmarked : ¬Text.isDecimal '_' = true := by decide +kernel
  fun_induction withoutMarks? cs with
  | case1 => rfl
  | case2 rest => exact absurd (digits '_' (by simp)) unmarked
  | case3 c d rest both ih => exact absurd (digits '_' (by simp)) unmarked
  | case4 c d rest other => exact absurd (digits '_' (by simp)) unmarked
  | case5 c rest first marked ih =>
    rw [ih fun c member => digits c (List.mem_cons_of_mem _ member)]
    rfl

/-- Digits, if there are not too many, are read as the whole number that they have as value. -/
theorem whole_of_digits (digits : ∀ c ∈ cs, Text.isDecimal c = true) (nonempty : cs ≠ [])
    (short : cs.length ≤ digitLimit) : whole (String.ofList cs) = .ok (digitsValue cs) := by
  -- Neither sign is a digit.
  have unsigned : sign cs = ([], cs) := by
    unfold sign
    split
    · exact absurd (digits '+' List.mem_cons_self) (by decide +kernel)
    · exact absurd (digits '-' List.mem_cons_self) (by decide +kernel)
    · rfl
  -- So all characters belong to the marked digits, and nothing is left behind them.
  have all : ∀ c ∈ cs, (fun c => Text.isDecimal c || decide (c = '_')) c = true := by
    intro c member
    simp [digits c member]
  have marked : markedDigits cs = (cs, []) := by
    rw [markedDigits, List.takeWhile_eq_self_iff.mpr all, List.dropWhile_eq_nil_iff.mpr all]
  obtain ⟨c, others, rfl⟩ := List.exists_cons_of_ne_nil nonempty
  -- The last test is that of the length, which is passed.
  rw [whole, unframed_of_digits digits, unsigned]
  simpa [marked, withoutMarks?_of_digits digits] using short

end Literal

namespace Text

/-- The digits of a number are decimal digits. -/
theorem isDecimal_of_mem_natDigits {n : Nat} {c : Char} (member : c ∈ natDigits n) :
    isDecimal c = true := by
  obtain ⟨d, small, rfl⟩ := digitChar_of_mem_natDigits member
  simp [isDecimal, digitValue?_digitChar small]

end Text

end Spreadsheet
