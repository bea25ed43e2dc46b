import Spreadsheet.Function.Builtin
import Spreadsheet.Proofs.Function.Argument

/-!
The parts that functions cut from a text: how long they are and where in the text they stand.
-/

namespace Spreadsheet.Textual

variable {cs : List Char} {n : Nat}

/-- The last characters of a list are an end of it. -/
theorem exists_append_tail (cs : List Char) (n : Nat) : ∃ rest, cs = rest ++ tail cs n := by
  -- In each case the list is all of it, or what is behind some first characters.
  rw [tail]
  split
  · exact ⟨cs, (List.append_nil cs).symm⟩
  · split
    · exact ⟨_, (List.take_append_drop _ cs).symm⟩
    · exact ⟨_, (List.take_append_drop _ cs).symm⟩

/-- Up to the length of the list there are as many last characters as are asked for. -/
theorem length_tail_of_le (le : n ≤ cs.length) : (tail cs n).length = n := by
  -- Zero characters come apart, since there the list would count from its other end.
  rw [tail]
  split
  · rename_i none
    rw [none, List.length_nil]
  · rw [List.length_drop]
    omega

/-- Beyond its length, only the excess over it is given, up to the whole list. -/
theorem length_tail_of_lt (lt : cs.length < n) :
    (tail cs n).length = min (n - cs.length) cs.length := by
  -- The place to start at is counted from the end once more, which leaves the excess.
  rw [tail, if_neg (by omega), if_neg (by omega), List.length_drop]
  omega

/-- What is left of the last characters are the first ones. -/
theorem take_append_tail (le : n ≤ cs.length) : cs.take n ++ tail cs (cs.length - n) = cs := by
  -- The two places are the same one, counted from either side.
  rw [tail]
  split
  · rename_i none
    rw [List.append_nil, List.take_of_length_le (by omega)]
  · rw [if_pos (Nat.sub_le _ _), Nat.sub_sub_self le, List.take_append_drop]

/-- The first characters of a text by a whole number. -/
theorem left_whole (s : String) (n : ℤ) :
    -- The number of characters is whole, so it is taken as it is; what is negative counts as zero.
    Builtin.left.apply [.text s, .whole n] = .ok (.text (.ofList (s.toList.take n.toNat))) := by
  rw [Builtin.apply, left, Argument.size_whole, Argument.text_text]
  rfl

/-- The last characters of a text by a whole number. -/
theorem right_whole (s : String) (n : ℤ) :
    -- The count is the same as for the first characters.
    Builtin.right.apply [.text s, .whole n] = .ok (.text (.ofList (tail s.toList n.toNat))) := by
  rw [Builtin.apply, right, Argument.size_whole, Argument.text_text]
  rfl

/-- A part of a text by whole numbers. -/
theorem mid_whole (s : String) (i n : ℤ) :
    -- The place counts from one, and anything below counts as one.
    Builtin.mid.apply [.text s, .whole i, .whole n] =
      .ok (.text (.ofList ((s.toList.drop (i.toNat - 1)).take n.toNat))) := by
  rw [Builtin.apply, middle, Argument.size_whole, Argument.size_whole, Argument.text_text]
  rfl

section Text

variable (s : String) (n i : ℤ)

/-- Lists that make the characters of a text make the text. -/
theorem eq_append {s : String} {front back : List Char} (parts : s.toList = front ++ back) :
    s = .ofList front ++ .ofList back := by
  rw [← String.ofList_append, ← parts, String.ofList_toList]

/-- The first characters are the beginning of the text, as long as asked for up to what there is. -/
theorem left_begins : ∃ t rest, Builtin.left.apply [.text s, .whole n] = .ok (.text t) ∧
    s = t ++ rest ∧ (t.length : ℤ) = min (max n 0) s.length := by
  refine ⟨_, _, left_whole s n, eq_append (List.take_append_drop n.toNat s.toList).symm, ?_⟩
  -- Taking characters ends with the list.
  rw [String.length_ofList, List.length_take, String.length_toList]
  omega

/-- The last characters are the end of the text, as long as asked for up to what there is, or as what is
asked for beyond this as long as that is less. -/
theorem right_ends : ∃ t rest, Builtin.right.apply [.text s, .whole n] = .ok (.text t) ∧
    s = rest ++ t ∧ (t.length : ℤ) = if s.length < n ∧ n < 2 * s.length then n - s.length
      else min (max n 0) s.length := by
  -- Whatever is given is an end of the text, only its length takes two forms.
  obtain ⟨rest, parts⟩ := exists_append_tail s.toList n.toNat
  refine ⟨_, _, right_whole s n, eq_append parts, ?_⟩
  have length : s.toList.length = s.length := String.length_toList
  rw [String.length_ofList]
  -- Beyond the length the excess counts, and beyond twice the length it is the whole text.
  rcases Nat.lt_or_ge s.toList.length n.toNat with more | le
  · rw [length_tail_of_lt more, length]
    split <;> omega
  · rw [length_tail_of_le le, if_neg (by omega)]
    omega

/-- The middle part stands where asked for, and is as long as asked for up to what there is. -/
theorem mid_stands : ∃ before t rest,
    Builtin.mid.apply [.text s, .whole i, .whole n] = .ok (.text t) ∧
      s = before ++ t ++ rest ∧ (before.length : ℤ) = min (max i 1 - 1) s.length ∧
      (t.length : ℤ) = min (max n 0) (s.length - before.length) := by
  -- The text falls into three parts: before the place, what is taken there, and the rest.
  have length : s.toList.length = s.length := String.length_toList
  have parts : s.toList = s.toList.take (i.toNat - 1) ++ (s.toList.drop (i.toNat - 1)).take n.toNat ++
      (s.toList.drop (i.toNat - 1)).drop n.toNat := by
    rw [List.append_assoc, List.take_append_drop, List.take_append_drop]
  refine ⟨.ofList (s.toList.take (i.toNat - 1)), _, .ofList ((s.toList.drop (i.toNat - 1)).drop n.toNat),
    mid_whole s i n, ?_, ?_, ?_⟩
  · rw [← String.ofList_append]
    exact eq_append parts
  · rw [String.length_ofList, List.length_take, length]
    omega
  · rw [String.length_ofList, String.length_ofList, List.length_take, List.length_take,
      List.length_drop, length]
    omega

variable {n}

/-- On both sides of a place inside of the text the parts make the text. -/
theorem left_append (nonneg : 0 ≤ n) (le : n ≤ s.length) : ∃ t u,
    Builtin.left.apply [.text s, .whole n] = .ok (.text t) ∧ s = t ++ u ∧
      Builtin.right.apply [.text s, .whole (s.length - n)] = .ok (.text u) ∧
      Builtin.mid.apply [.text s, .whole (n + 1), .whole s.length] = .ok (.text u) := by
  have length : s.toList.length = s.length := String.length_toList
  have before : n.toNat ≤ s.toList.length := by omega
  have after : (s.length - n).toNat = s.toList.length - n.toNat := by omega
  -- Both other parts are what is left of the first characters.
  have rest : tail s.toList (s.length - n).toNat = s.toList.drop n.toNat := by
    rw [after]
    exact List.append_cancel_left ((take_append_tail before).trans (List.take_append_drop _ _).symm)
  have rest' : (s.toList.drop ((n + 1).toNat - 1)).take (s.length : ℤ).toNat = s.toList.drop n.toNat := by
    -- Counted from one, the place behind the first characters is one more than their number.
    have place : (n + 1).toNat - 1 = n.toNat := by omega
    rw [place, List.take_of_length_le (by rw [List.length_drop]; omega)]
  refine ⟨_, .ofList (s.toList.drop n.toNat), left_whole s n,
    eq_append (List.take_append_drop _ _).symm, ?_, ?_⟩
  · rw [right_whole, rest]
  · rw [mid_whole, rest']

end Text

/-- What three functions cut from a text by whole numbers. The first characters and the middle part are
as long as asked for, from zero up to what the text has; so are the last characters, unless more are
asked for than there are but less than twice as many: then it is only the excess. The parts on both
sides of a place inside of the text make the text. -/
theorem slices_exact (s : String) (n i : ℤ) :
    (∃ t rest, Builtin.left.apply [.text s, .whole n] = .ok (.text t) ∧ s = t ++ rest ∧
      (t.length : ℤ) = min (max n 0) s.length) ∧
    (∃ t rest, Builtin.right.apply [.text s, .whole n] = .ok (.text t) ∧ s = rest ++ t ∧
      (t.length : ℤ) = if s.length < n ∧ n < 2 * s.length then n - s.length
        else min (max n 0) s.length) ∧
    (∃ before t rest, Builtin.mid.apply [.text s, .whole i, .whole n] = .ok (.text t) ∧
      s = before ++ t ++ rest ∧ (before.length : ℤ) = min (max i 1 - 1) s.length ∧
      (t.length : ℤ) = min (max n 0) (s.length - before.length)) ∧
    (0 ≤ n → n ≤ s.length → ∃ t u,
      Builtin.left.apply [.text s, .whole n] = .ok (.text t) ∧ s = t ++ u ∧
      Builtin.right.apply [.text s, .whole (s.length - n)] = .ok (.text u) ∧
      Builtin.mid.apply [.text s, .whole (n + 1), .whole s.length] = .ok (.text u)) :=
  ⟨left_begins s n, right_ends s n, mid_stands s n i, left_append s⟩

/-- The text of three characters cut after the first two: the two parts make the text. -/
theorem slices_exact_three : (0 : ℤ) ≤ 2 ∧ (2 : ℤ) ≤ ("abc".length : ℤ) ∧ ∃ t u,
    Builtin.left.apply [.text "abc", .whole 2] = .ok (.text t) ∧ "abc" = t ++ u ∧
    Builtin.right.apply [.text "abc", .whole ("abc".length - 2)] = .ok (.text u) ∧
    Builtin.mid.apply [.text "abc", .whole (2 + 1), .whole "abc".length] = .ok (.text u) :=
  ⟨by decide, by decide, (slices_exact "abc" 2 1).2.2.2 (by decide) (by decide)⟩

/-- Four last characters of a text of three are only one. -/
theorem right_short : ¬ ∀ (s : String) (n : ℤ), ∃ t rest, Builtin.right.apply [.text s, .whole n] =
    .ok (.text t) ∧ s = rest ++ t ∧ (t.length : ℤ) = min (max n 0) s.length := by
  intro lengths
  -- Four characters are asked for, and the promise is three of them.
  obtain ⟨t, rest, done, -, length⟩ := lengths "abc" 4
  have one : Builtin.right.apply [.text "abc", .whole 4] = .ok (.text "c") := by
    rw [right_whole]
    rfl
  rw [one] at done
  cases done
  exact absurd length (by decide)

end Spreadsheet.Textual
