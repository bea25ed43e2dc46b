import Spreadsheet.Proofs.Number.Decimal
import Spreadsheet.Proofs.Token.Next

/-!
The number that a text starts with: it is written as the grammar of decimals says, no longer prefix of
the text is, and the double that is read is the one to which this number rounds.
-/

namespace Spreadsheet.Literal

/-- Decimal digits of any script. -/
def Digits (ds : List Char) : Prop :=
  -- There may be none.
  ∀ c ∈ ds, Text.isDecimal c = true

/-- Whether a text is digits alone can be decided. -/
instance (ds : List Char) : Decidable (Digits ds) := List.decidableBAll _ ds

/-- An optional sign, and whether it is a minus. -/
inductive Sign : List Char → Bool → Prop where
  /-- No sign at all. -/
  | missing : Sign [] false
  /-- A sign that changes nothing. -/
  | plus : Sign ['+'] false
  /-- A sign that negates. -/
  | minus : Sign ['-'] true

/-- The digits of a number around its point. -/
inductive Mantissa : List Char → List Char → List Char → Prop where
  /-- Digits alone. -/
  | whole {before : List Char} (digits : Digits before) (some : before ≠ []) :
      Mantissa before before []
  /-- Digits with a point and maybe more digits. -/
  | pointed {before after : List Char} (digits : Digits before) (some : before ≠ [])
      (digits' : Digits after) : Mantissa (before ++ '.' :: after) before after
  /-- A point with digits behind it. -/
  | fraction {after : List Char} (digits : Digits after) (some : after ≠ []) :
      Mantissa ('.' :: after) [] after

/-- An optional exponent, and the power of ten that it stands for. -/
inductive Exponent : List Char → ℤ → Prop where
  /-- No exponent at all. -/
  | missing : Exponent [] 0
  /-- A letter, an optional sign, and at least one digit. -/
  | given {c : Char} {mark ds : List Char} {negative : Bool} (letter : c = 'e' ∨ c = 'E')
      (sign : Sign mark negative) (digits : Digits ds) (some : ds ≠ []) :
      Exponent (c :: (mark ++ ds)) (if negative then -(digitsValue ds : ℤ) else digitsValue ds)

/-- A decimal: its sign, and the significand and the power of ten that it stands for. -/
inductive Decimal : List Char → Bool → Nat → ℤ → Prop where
  /-- An optional sign, digits around an optional point, and an optional exponent. -/
  | parts {mark digits before after power : List Char} {negative : Bool} {k : ℤ}
      (sign : Sign mark negative) (mantissa : Mantissa digits before after)
      (exponent : Exponent power k) :
      Decimal (mark ++ (digits ++ power)) negative (digitsValue (before ++ after)) (k - after.length)

/-- Blanks and a decimal behind them. -/
inductive Form : List Char → Bool → Nat → ℤ → Prop where
  /-- There may be no blanks. -/
  | behind {blanks text : List Char} {negative : Bool} {n : Nat} {e : ℤ}
      (blank : ∀ c ∈ blanks, Text.isBlank c = true) (decimal : Decimal text negative n e) :
      Form (blanks ++ text) negative n e

/-- The longest prefix of a text that is a decimal behind blanks. -/
structure Longest (cs p : List Char) : Prop where
  prefixed : p <+: cs
  form : ∃ negative n e, Form p negative n e
  longest : ∀ q, q <+: cs → (∃ negative n e, Form q negative n e) → q.length ≤ p.length

/-- What makes a text begin with a number: an optional sign and a digit, or a point and a digit. -/
inductive Begins : List Char → Prop where
  /-- A digit in front. -/
  | digit {mark : List Char} {negative : Bool} {c : Char} (sign : Sign mark negative)
      (digit : Text.isDecimal c = true) (rest : List Char) : Begins (mark ++ c :: rest)
  /-- A point in front of the first digit. -/
  | point {mark : List Char} {negative : Bool} {c : Char} (sign : Sign mark negative)
      (digit : Text.isDecimal c = true) (rest : List Char) : Begins (mark ++ '.' :: c :: rest)

variable {cs ds more rest text before after mark p : List Char} {negative : Bool} {n : Nat} {e k : ℤ}

section Digits

/-- Digits that are read are digits of the text in front of what is left. -/
theorem digits_sound (read : digits cs = (ds, rest)) : cs = ds ++ rest ∧ Digits ds := by
  -- What is taken and what is left make up the text, and only digits are taken.
  cases read
  exact ⟨List.takeWhile_append_dropWhile.symm, fun c member => List.mem_takeWhile_imp member⟩

/-- Digits are read together with those behind them. -/
theorem digits_append (all : Digits ds) (read : digits cs = (more, rest)) :
    digits (ds ++ cs) = (ds ++ more, rest) := by
  -- The run of digits goes on through all that are in front.
  cases read
  rw [digits, List.takeWhile_append_of_pos all, List.dropWhile_append_of_pos all]

/-- A point is no digit. -/
theorem digits_point (cs : List Char) : digits ('.' :: cs) = ([], '.' :: cs) := by
  have other : Text.isDecimal '.' = false := by decide +kernel
  simp [digits, other]

/-- No digit is a sign. -/
theorem unsigned_of_digits (all : Digits ds) (some : ds ≠ []) (cs : List Char) :
    ∀ c ∈ (ds ++ cs).head?, c ≠ '+' ∧ c ≠ '-' := by
  -- The first of the digits is what would have to be a sign.
  obtain ⟨d, others, rfl⟩ := List.exists_cons_of_ne_nil some
  rintro c ⟨⟩
  have digit := all d List.mem_cons_self
  constructor <;>
  · rintro rfl
    exact absurd digit (by decide +kernel)

end Digits

section Sign

/-- A sign that is read is one in front of what is left. -/
theorem sign_sound (read : sign cs = (mark, rest)) :
    cs = mark ++ rest ∧ Sign mark (mark = ['-']) := by
  -- One case for each of the two signs, and one for anything else.
  unfold sign at read
  split at read <;> cases read
  · exact ⟨rfl, .plus⟩
  · exact ⟨rfl, .minus⟩
  · exact ⟨rfl, .missing⟩

/-- A sign is read in front of anything that does not begin with one. -/
theorem sign_append (sign : Sign mark negative) (other : ∀ c ∈ cs.head?, c ≠ '+' ∧ c ≠ '-') :
    Literal.sign (mark ++ cs) = (mark, cs) ∧ decide (mark = ['-']) = negative := by
  -- Without a sign it is the text behind that decides, and it does not begin with one.
  cases sign with
  | missing =>
    refine ⟨?_, rfl⟩
    rw [List.nil_append]
    unfold Literal.sign
    split
    · exact absurd rfl (other '+' rfl).1
    · exact absurd rfl (other '-' rfl).2
    · rfl
  | plus => exact ⟨rfl, rfl⟩
  | minus => exact ⟨rfl, rfl⟩

end Sign

section Mantissa

/-- The digits that are read are written around an optional point in front of what is left. -/
theorem mantissa?_sound (read : mantissa? cs = some (before, after, rest)) :
    ∃ text, cs = text ++ rest ∧ Mantissa text before after := by
  -- One case for each branch of the reader, in its order.
  unfold mantissa? at read
  split at read
  · -- No digits, but a point: there must be some behind it.
    rename_i found
    obtain ⟨rfl, -⟩ := digits_sound found
    split at read
    · cases read
    · rename_i some found'
      obtain ⟨rfl, all⟩ := digits_sound found'
      cases read
      exact ⟨_, rfl, .fraction all some⟩
  · cases read
  · -- Digits and a point: there may be more behind it, or none.
    rename_i some found
    obtain ⟨rfl, all⟩ := digits_sound found
    cases read
    obtain ⟨split, all'⟩ := digits_sound rfl
    refine ⟨_, ?_, .pointed all some all'⟩
    rw [List.append_assoc, List.cons_append, ← split]
  · -- Digits alone.
    rename_i some _ found
    obtain ⟨rfl, all⟩ := digits_sound found
    cases read
    exact ⟨_, rfl, .whole all some⟩

/-- Digits in front of a point are read with those behind it. -/
theorem mantissa?_of_pointed (some : before ≠ []) (read : digits cs = (before, '.' :: rest)) :
    mantissa? cs = Option.some (before, digits rest) := by
  obtain ⟨d, others, rfl⟩ := List.exists_cons_of_ne_nil some
  simp only [mantissa?, read]

/-- Digits without a point behind them are read alone. -/
theorem mantissa?_of_whole (some : before ≠ []) (read : digits cs = (before, rest))
    (noPoint : ∀ c ∈ rest.head?, c ≠ '.') : mantissa? cs = Option.some (before, [], rest) := by
  obtain ⟨d, others, rfl⟩ := List.exists_cons_of_ne_nil some
  rw [mantissa?, read]
  cases rest with
  | nil => rfl
  | cons c rest => simp [noPoint c rfl]

/-- Digits behind a point are read if there are some. -/
theorem mantissa?_of_fraction (some : after ≠ []) (read : digits cs = (after, rest)) :
    mantissa? ('.' :: cs) = Option.some ([], after, rest) := by
  obtain ⟨d, others, rfl⟩ := List.exists_cons_of_ne_nil some
  simp only [mantissa?, digits_point, read]

/-- Digits around an optional point are read, maybe with more digits and a point behind them. -/
theorem mantissa?_append (mantissa : Mantissa text before after) (cs : List Char) :
    ∃ before' after' more rest, mantissa? (text ++ cs) = some (before', after', rest) ∧
      cs = more ++ rest ∧ (∀ c ∈ more, Text.isDecimal c = true ∨ c = '.') ∧
      (more = [] → before' = before ∧ after' = after) := by
  -- The digits that follow the text are read with it, as far as there are any.
  obtain ⟨more, rest, read⟩ : ∃ more rest, digits cs = (more, rest) := ⟨_, _, rfl⟩
  obtain ⟨rfl, all⟩ := digits_sound read
  have same {ds : List Char} (none : more = []) : ds ++ more = ds := by rw [none, List.append_nil]
  cases mantissa with
  | whole digits some =>
    have some' := List.append_ne_nil_of_left_ne_nil some more
    by_cases pointed : ∃ behind, rest = '.' :: behind
    · -- The point that follows is read too, with the digits behind it.
      obtain ⟨behind, rfl⟩ := pointed
      obtain ⟨behind, left, read'⟩ : ∃ ds left, Literal.digits behind = (ds, left) := ⟨_, _, rfl⟩
      obtain ⟨rfl, all'⟩ := digits_sound read'
      refine ⟨text ++ more, behind, more ++ '.' :: behind, left, ?_, by simp, ?_, by simp⟩
      · rw [mantissa?_of_pointed some' (digits_append digits read), read']
      · intro c member
        rcases List.mem_append.mp member with front | behind
        · exact .inl (all c front)
        · exact (List.mem_cons.mp behind).symm.imp_left (all' c)
    · refine ⟨_, _, more, rest, mantissa?_of_whole some' (digits_append digits read) ?_, rfl,
        fun c member => .inl (all c member), fun none => ⟨same none, rfl⟩⟩
      -- A point that is not read would be the first character of what is left.
      rintro c head rfl
      exact pointed ⟨rest.tail, (List.cons_head?_tail head).symm⟩
  -- The digits before the point end there, so only those behind it can go on.
  | pointed digits some digits' =>
    have point : Literal.digits (before ++ '.' :: after ++ (more ++ rest)) =
        (before, '.' :: (after ++ (more ++ rest))) := by
      rw [List.append_assoc, List.cons_append, digits_append digits (digits_point _), List.append_nil]
    refine ⟨_, _, more, rest, ?_, rfl, fun c member => .inl (all c member),
      fun none => ⟨rfl, same none⟩⟩
    rw [mantissa?_of_pointed some point, digits_append digits' read]
  -- The digits behind the point go on, and there is nothing in front of it.
  | fraction digits some =>
    exact ⟨_, _, more, rest,
      mantissa?_of_fraction (List.append_ne_nil_of_left_ne_nil some more) (digits_append digits read),
      rfl, fun c member => .inl (all c member), fun none => ⟨rfl, same none⟩⟩

end Mantissa

section Exponent

/-- A letter in front of a sign and digits makes an exponent of them. -/
theorem exponent_of_digits {c : Char} {ds' : List Char} (letter : c = 'e' ∨ c = 'E')
    (read : sign cs = (mark, ds')) (read' : digits ds' = (ds, rest)) (some : ds ≠ []) :
    exponent (c :: cs) =
      (if mark = ['-'] then -(digitsValue ds : ℤ) else digitsValue ds, rest) := by
  obtain ⟨d, others, rfl⟩ := List.exists_cons_of_ne_nil some
  have marked : (decide (c = 'e') || decide (c = 'E')) = true := by simpa using letter
  simp only [exponent, if_pos marked, read, read']

/-- The exponent that is read is written in front of what is left. -/
theorem exponent_sound (read : exponent cs = (k, rest)) :
    ∃ text, cs = text ++ rest ∧ Exponent text k := by
  -- Each way in which nothing is read leaves the text as it is.
  unfold exponent at read
  split at read
  · split at read
    · -- Behind the letter come an optional sign and digits, each of them with what is left.
      rename_i c cs letter
      obtain ⟨mark, signed, read'⟩ : ∃ mark signed, sign cs = (mark, signed) := ⟨_, _, rfl⟩
      obtain ⟨ds, left, read''⟩ : ∃ ds left, digits signed = (ds, left) := ⟨_, _, rfl⟩
      rw [read'] at read
      dsimp only at read
      rw [read''] at read
      obtain ⟨rfl, sign⟩ := sign_sound read'
      obtain ⟨rfl, all⟩ := digits_sound read''
      split at read
      · cases read
        exact ⟨[], rfl, .missing⟩
      · -- There are digits: then the letter and the sign belong to the exponent too.
        rename_i some same
        cases same
        cases read
        refine ⟨c :: (mark ++ ds), by simp, ?_⟩
        have given := Exponent.given (by simpa using letter) sign all some
        simpa using given
    · cases read
      exact ⟨[], rfl, .missing⟩
  · cases read
    exact ⟨[], rfl, .missing⟩

/-- An exponent is read, maybe with more digits behind it. -/
theorem exponent_append (exponent : Exponent text k) (cs : List Char) :
    ∃ k' more rest, Literal.exponent (text ++ cs) = (k', rest) ∧ cs = more ++ rest ∧
      (more = [] → k' = k) := by
  cases exponent with
  -- Without an exponent whatever is read is what follows.
  | missing =>
    obtain ⟨k', rest, read⟩ : ∃ k' rest, Literal.exponent cs = (k', rest) := ⟨_, _, rfl⟩
    obtain ⟨text, split, exponent⟩ := exponent_sound read
    refine ⟨k', text, rest, read, split, ?_⟩
    rintro rfl
    cases exponent
    rfl
  -- With one its digits can only go on, which changes its power unless there are no more.
  | @given c mark ds negative letter sign all some =>
    obtain ⟨more, rest, read⟩ : ∃ more rest, digits cs = (more, rest) := ⟨_, _, rfl⟩
    obtain ⟨rfl, -⟩ := digits_sound read
    obtain ⟨signed, minus⟩ := sign_append sign (unsigned_of_digits all some (more ++ rest))
    have found := exponent_of_digits letter signed (digits_append all read)
      (List.append_ne_nil_of_left_ne_nil some more)
    rw [← List.append_assoc, ← List.cons_append] at found
    refine ⟨_, more, rest, found, rfl, ?_⟩
    rintro rfl
    rw [List.append_nil, ← minus]
    simp

end Exponent

section Decimal

/-- No sign is read twice. -/
theorem unsigned_of_mantissa (mantissa : Mantissa text before after) (cs : List Char) :
    ∀ c ∈ (text ++ cs).head?, c ≠ '+' ∧ c ≠ '-' := by
  -- A text begins with a digit or with a point, and neither is a sign.
  cases mantissa with
  | whole digits some => exact unsigned_of_digits digits some cs
  | pointed digits some digits' =>
    rw [List.append_assoc]
    exact unsigned_of_digits digits some _
  | fraction digits some =>
    rintro c ⟨⟩
    decide

/-- No letter of an exponent is read as a part of the digits. -/
theorem eq_nil_of_exponent {power : List Char} (exponent : Exponent power k) (given : power ≠ [])
    (split : power ++ cs = more ++ rest) (inside : ∀ c ∈ more, Text.isDecimal c = true ∨ c = '.') :
    more = [] := by
  cases exponent with
  | missing => exact absurd rfl given
  | given letter sign all some =>
    -- A letter would be the first of the characters, yet it is no digit and no point.
    cases more with
    | nil => rfl
    | cons d more =>
      obtain ⟨rfl, -⟩ := List.cons.inj split
      have digit := inside _ List.mem_cons_self
      rcases letter with rfl | rfl
      · exact absurd digit (by decide +kernel)
      · exact absurd digit (by decide +kernel)

/-- What is read of the parts is put together. -/
theorem signed?_of_parts {unsigned power : List Char} (marked : sign cs = (mark, unsigned))
    (found : mantissa? unsigned = some (before, after, power)) (raised : exponent power = (k, rest)) :
    signed? cs =
      some (Double.ofDecimal (mark = ['-']) (digitsValue (before ++ after)) (k - after.length), rest) := by
  -- The three readers are called one after the other, each on what the last one left.
  simp only [signed?, unsigned?, marked, found, raised, Option.map_some]

/-- A number that is read is the double of a decimal in front of what is left. -/
theorem signed?_sound {x : Float} (read : signed? cs = some (x, rest)) :
    ∃ text negative n e, cs = text ++ rest ∧ Decimal text negative n e ∧
      x = Double.ofDecimal negative n e := by
  -- Each of the three readers is sound, so the text falls into three parts.
  obtain ⟨mark, unsigned, marked⟩ : ∃ mark unsigned, sign cs = (mark, unsigned) := ⟨_, _, rfl⟩
  rw [signed?, marked] at read
  obtain ⟨⟨before, after, power⟩, found, value⟩ := Option.map_eq_some_iff.mp read
  obtain ⟨k, left, raised⟩ : ∃ k left, exponent power = (k, left) := ⟨_, _, rfl⟩
  dsimp only at value
  rw [raised] at value
  cases value
  obtain ⟨rfl, sign⟩ := sign_sound marked
  obtain ⟨digits, rfl, mantissa⟩ := mantissa?_sound found
  obtain ⟨power, rfl, exponent⟩ := exponent_sound raised
  exact ⟨_, _, _, _, by simp, .parts sign mantissa exponent, rfl⟩

/-- A decimal is read, maybe with more characters behind it. -/
theorem signed?_append (decimal : Decimal text negative n e) (cs : List Char) :
    ∃ x more rest, signed? (text ++ cs) = some (x, rest) ∧ cs = more ++ rest ∧
      (more = [] → x = Double.ofDecimal negative n e) := by
  cases decimal with
  -- The sign is read as it is, since no digits begin with one.
  | @parts mark digits before after power negative k sign mantissa exponent =>
    obtain ⟨signed, minus⟩ := sign_append sign (unsigned_of_mantissa mantissa (power ++ cs))
    obtain ⟨before', after', more, left, found, split, inside, same⟩ :=
      mantissa?_append mantissa (power ++ cs)
    -- Only without an exponent more digits can be read than there are.
    have raised : ∃ k' more' rest, Literal.exponent left = (k', rest) ∧ cs = more' ++ rest ∧
        (more' = [] → more = [] ∧ k' = k) := by
      -- Behind an exponent only the exponent itself can go on.
      rcases eq_or_ne power [] with rfl | given
      · cases exponent
        obtain ⟨k', more', rest, read, rfl, none⟩ := exponent_append .missing left
        refine ⟨k', more ++ more', rest, read, by simpa using split, fun empty => ?_⟩
        obtain ⟨rfl, rfl⟩ := List.append_eq_nil_iff.mp empty
        exact ⟨rfl, none rfl⟩
      · obtain rfl := eq_nil_of_exponent exponent given split inside
        obtain ⟨k', more', rest, read, rfl, none⟩ := exponent_append exponent cs
        rw [List.nil_append] at split
        exact ⟨k', more', rest, split ▸ read, rfl, fun empty => ⟨rfl, none empty⟩⟩
    -- With nothing more to read all three parts are as they were written.
    obtain ⟨k', more', rest, raised, rfl, none⟩ := raised
    have read := signed?_of_parts signed found raised
    rw [← List.append_assoc digits, ← List.append_assoc mark, minus] at read
    refine ⟨_, more', rest, read, rfl, fun empty => ?_⟩
    obtain ⟨rfl, rfl⟩ := none empty
    obtain ⟨rfl, rfl⟩ := same rfl
    rfl

end Decimal

section Text

/-- A decimal begins a text with a number. -/
theorem Decimal.begins (decimal : Decimal text negative n e) (cs : List Char) :
    Begins (text ++ cs) := by
  cases decimal with
  | parts sign mantissa exponent =>
    -- The sign is the same in both, so the digits around the point decide.
    rw [List.append_assoc, List.append_assoc]
    cases mantissa with
    | whole all some =>
      obtain ⟨d, others, rfl⟩ := List.exists_cons_of_ne_nil some
      exact .digit sign (all d List.mem_cons_self) _
    | pointed all some all' =>
      obtain ⟨d, others, rfl⟩ := List.exists_cons_of_ne_nil some
      exact .digit sign (all d List.mem_cons_self) _
    | fraction all some =>
      obtain ⟨d, others, rfl⟩ := List.exists_cons_of_ne_nil some
      exact .point sign (all d List.mem_cons_self) _

/-- A text that begins with a number has a decimal in front. -/
theorem Begins.exists_decimal (begins : Begins cs) :
    ∃ text rest negative n e, cs = text ++ rest ∧ Decimal text negative n e := by
  cases begins with
  | @digit mark negative c sign digit rest =>
    -- One digit is enough for a decimal, or a point with one digit.
    have whole : Mantissa [c] [c] [] := .whole (by simpa [Digits] using digit) (by simp)
    exact ⟨mark ++ ([c] ++ []), rest, _, _, _, by simp, .parts sign whole .missing⟩
  | @point mark negative c sign digit rest =>
    have fraction : Mantissa ['.', c] [] [c] := .fraction (by simpa [Digits] using digit) (by simp)
    exact ⟨mark ++ (['.', c] ++ []), rest, _, _, _, by simp, .parts sign fraction .missing⟩

/-- A text that begins with a number has no blank in front. -/
theorem Begins.dropWhile (begins : Begins cs) : cs.dropWhile Text.isBlank = cs := by
  -- Neither a digit nor a sign nor a point is a blank.
  have filled {c : Char} (digit : Text.isDecimal c = true) : Text.isBlank c = false :=
    Text.isBlank_of_isDigit (by simp [Text.isDigit, digit])
  have others : Text.isBlank '+' = false ∧ Text.isBlank '-' = false ∧ Text.isBlank '.' = false := by
    decide
  cases begins with
  | digit sign digit rest => cases sign <;> simp [others, filled digit]
  | point sign digit rest => cases sign <;> simp [others]

/-- A number is read exactly if the text begins with one. -/
theorem signed?_eq_none_iff : signed? cs = none ↔ ¬Begins cs := by
  -- A text has a decimal in front exactly if it begins with a number, and then one is read.
  rw [iff_not_comm]
  constructor
  · intro begins
    obtain ⟨text, rest, negative, n, e, rfl, decimal⟩ := begins.exists_decimal
    obtain ⟨x, more, rest, read, -⟩ := signed?_append decimal rest
    simp [read]
  · intro some
    obtain ⟨⟨x, rest⟩, read⟩ := Option.ne_none_iff_exists'.mp some
    obtain ⟨text, negative, n, e, rfl, decimal, -⟩ := signed?_sound read
    exact decimal.begins rest

/-- Behind all blanks of a text stands the decimal that is behind some of them. -/
theorem Form.dropWhile (form : Form p negative n e) (cs : List Char) :
    ∃ text, Decimal text negative n e ∧ (p ++ cs).dropWhile Text.isBlank = text ++ cs := by
  cases form with
  -- The blanks are dropped up to the decimal, which has none in front.
  | @behind blanks text negative n e blank decimal =>
    refine ⟨text, decimal, ?_⟩
    rw [List.append_assoc, List.dropWhile_append_of_pos blank, (decimal.begins cs).dropWhile]

/-- No decimal behind blanks goes on behind what is read, and only what is read ends there. -/
theorem Form.append {x : Float} (form : Form p negative n e)
    (read : signed? ((p ++ cs).dropWhile Text.isBlank) = some (x, rest)) :
    rest.length ≤ cs.length ∧ (cs.length ≤ rest.length → x = Double.ofDecimal negative n e) := by
  -- The reader finds at least this decimal, and goes on behind it only with more characters.
  obtain ⟨text, decimal, behind⟩ := form.dropWhile cs
  obtain ⟨x', more, rest', read', rfl, none⟩ := signed?_append decimal cs
  rw [behind, read', Option.some_inj, Prod.mk.injEq] at read
  obtain ⟨rfl, rfl⟩ := read
  simp only [List.length_append]
  exact ⟨by omega, fun short => none (List.length_eq_zero_iff.mp (by omega))⟩

/-- What stands in front of what is left is the longest decimal behind blanks. -/
theorem longest_of_signed? {x : Float} (read : signed? (cs.dropWhile Text.isBlank) = some (x, rest)) :
    Longest cs (cs.take (cs.length - rest.length)) := by
  -- The blanks, the decimal that is read, and what is left make up the whole text.
  obtain ⟨text, negative, n, e, behind, decimal, -⟩ := signed?_sound read
  have whole : cs = cs.takeWhile Text.isBlank ++ text ++ rest := by
    rw [List.append_assoc, ← behind, List.takeWhile_append_dropWhile]
  have size := congrArg List.length whole
  have taken : cs.take (cs.length - rest.length) = cs.takeWhile Text.isBlank ++ text := by
    generalize cs.takeWhile Text.isBlank = blanks at whole
    subst whole
    rw [List.length_append, Nat.add_sub_cancel, List.take_left]
  rw [taken]
  refine ⟨⟨rest, whole.symm⟩, ⟨_, _, _, .behind (fun c => List.mem_takeWhile_imp) decimal⟩, ?_⟩
  -- Any other decimal behind blanks ends no later than what is read.
  rintro q ⟨left, rfl⟩ ⟨negative', n', e', form⟩
  have short := (form.append read).1
  simp only [List.length_append] at size ⊢
  omega

/-- The longest decimal behind blanks is the one that is read. -/
theorem Longest.signed? (longest : Longest cs p) (form : Form p negative n e) :
    ∃ rest, signed? (cs.dropWhile Text.isBlank) = some (Double.ofDecimal negative n e, rest) ∧
      p = cs.take (cs.length - rest.length) := by
  -- What is read behind the blanks is a decimal, and at least as long as this one.
  obtain ⟨behind, rfl⟩ := longest.prefixed
  obtain ⟨text, decimal, front⟩ := form.dropWhile behind
  obtain ⟨x, more, rest, read, -, -⟩ := signed?_append decimal behind
  rw [← front] at read
  have found := longest_of_signed? read
  -- Both are longest, so that they end at the same place.
  have least := found.longest p longest.prefixed longest.form
  have most := longest.longest _ found.prefixed found.form
  have same : p.length = (p ++ behind).length - rest.length := by
    rw [List.length_take] at least most
    omega
  -- So nothing more is read than this decimal, and its value is the one that is given.
  have value := (form.append read).2
  refine ⟨rest, ?_, ?_⟩
  · rw [← value (by rw [List.length_append] at same; omega)]
    exact read
  · rw [← same, List.take_left]

/--
Either the text does not begin with a number behind its blanks, and none is read, or the double is
read to which the longest decimal rounds. An information separator in front makes this a fault.
-/
theorem leading_greedy (s : String) :
    (leading? s = .ok none ↔ ¬Begins (s.toList.dropWhile Text.isBlank)) ∧
      (Begins (s.toList.dropWhile Text.isBlank) → ∃ p, Longest s.toList p) ∧
      ∀ p negative n e, Longest s.toList p → Form p negative n e →
        ∃ x, Double.Rounds (if negative then -((n : ℚ) * 10 ^ e) else n * 10 ^ e) x ∧
          Double.isNegative x = negative ∧
          leading? s = if (s.toList.takeWhile Text.isBlank).any Text.isSeparator then
            .error (.notFloat (String.ofList p)) else .ok (some x) := by
  refine ⟨?_, ?_, ?_⟩
  · -- Only a missing number gives none: a number behind a separator is a fault instead.
    rw [← signed?_eq_none_iff, leading?]
    cases signed? (s.toList.dropWhile Text.isBlank) with
    | none => simp
    | some found =>
      dsimp only
      split <;> simp
  · -- A number that the text begins with is read, and what is read is longest.
    intro begins
    obtain ⟨⟨x, rest⟩, read⟩ :=
      Option.ne_none_iff_exists'.mp (mt signed?_eq_none_iff.mp (not_not.mpr begins))
    exact ⟨_, longest_of_signed? read⟩
  · -- The longest decimal is read; then its blanks are looked at for separators.
    intro p negative n e longest form
    obtain ⟨rest, read, front⟩ := longest.signed? form
    refine ⟨_, Double.ofDecimal_rounds negative n e, Double.isNegative_ofDecimal negative n e, ?_⟩
    rw [leading?, read, front]

/-- A sign, digits around a point, and an exponent that lacks its digits. -/
theorem leading_greedy_unfinished :
    Longest " -12.5e+z".toList " -12.5".toList ∧
      ∃ x, Double.Rounds (-((125 : ℕ) * 10 ^ (-1 : ℤ))) x ∧ Double.isNegative x = true ∧
        leading? " -12.5e+z" = .ok (some x) := by
  -- The reader stops in front of the letter, since no digit follows its sign.
  have read : signed? (" -12.5e+z".toList.dropWhile Text.isBlank) =
      some (Double.ofDecimal true 125 (-1), "e+z".toList) := rfl
  have longest : Longest " -12.5e+z".toList " -12.5".toList := longest_of_signed? read
  -- The decimal is built by its parts, so that the law tells which double is read.
  have digits : Mantissa "12.5".toList "12".toList "5".toList :=
    @Mantissa.pointed ['1', '2'] ['5'] (by decide +kernel) (by simp) (by decide +kernel)
  have form : Form " -12.5".toList true 125 (-1) :=
    @Form.behind [' '] _ _ _ _ (List.forall_mem_singleton.mpr (by decide)) (.parts .minus digits .missing)
  obtain ⟨x, rounds, sign, read⟩ := (leading_greedy " -12.5e+z").2.2 _ _ _ _ longest form
  rw [if_pos rfl] at rounds
  rw [if_neg (by decide)] at read
  exact ⟨longest, x, rounds, sign, read⟩

/-- An information separator in front of a number: it is blank, but nothing can be read behind it. -/
theorem leading_raises : ¬∀ s, ∃ found, leading? s = .ok found := by
  intro total
  obtain ⟨found, read⟩ := total "\x1c5"
  have raised : leading? "\x1c5" = .error (.notFloat "\x1c5") := by rfl
  rw [raised] at read
  cases read

end Text

end Spreadsheet.Literal
