import Mathlib.Data.Bool.AllAny
import Spreadsheet.Operator.Basic
import Spreadsheet.Proofs.Position
import Spreadsheet.Token.Lexer

/-!
Each kind of token as it is written in a text: it is read back as long as nothing behind it can belong
to it too.
-/

namespace Spreadsheet

namespace Text

/-- No digit of any script is a blank. -/
theorem isBlank_of_isDigit {c : Char} (digit : isDigit c = true) : isBlank c = false := by
  -- The blanks are few, and each can be looked up.
  have all : ∀ span ∈ blankSpans, ∀ n ∈ List.range' span.1 (span.2 + 1 - span.1),
      isDigit (Char.ofNat n) = false := by decide
  by_contra blank
  rw [Bool.not_eq_false] at blank
  obtain ⟨span, member, inside⟩ := List.any_eq_true.mp blank
  simp only [Bool.and_eq_true, decide_eq_true_eq] at inside
  have within : c.toNat ∈ List.range' span.1 (span.2 + 1 - span.1) :=
    List.mem_range'_1.mpr ⟨inside.1, by omega⟩
  have none := all span member c.toNat within
  rw [Char.ofNat_toNat, digit] at none
  cases none

/-- What holds of the first 128 characters holds of every ASCII character. -/
theorem of_ascii {P : Char → Prop} (all : ∀ n < 128, P (Char.ofNat n)) {c : Char}
    (ascii : c.toNat < 128) : P c := by
  simpa using all c.toNat ascii

end Text

namespace Token

variable {token : Token} {c : Char} {cs ds rest name : List Char}

/-- A token as it is written: a text literal in its quotes, anything else as it is. -/
def written (token : Token) : List Char :=
  -- The quotes are not part of the text of a literal.
  match token.kind with
  | .string => '"' :: (token.text.toList ++ ['"'])
  | _ => token.text.toList

/-- A token that is written in front of some text is read back and leaves that text. -/
def ReadBefore (token : Token) (rest : List Char) : Prop :=
  ∃ c cs, token.written = c :: cs ∧ Text.isBlank c = false ∧ next c (cs ++ rest) = .ok (token, rest)

/-- An empty text has no tokens. -/
@[simp] theorem scan_nil : scan [] = .ok [] := by
  rw [scan]

/-- A blank in front is passed over, anything else begins a token that the others follow. -/
theorem scan_cons (c : Char) (cs : List Char) :
    scan (c :: cs) = if Text.isBlank c then scan cs else
      (next c cs).bind fun found => (scan found.2).map (found.1 :: ·) := by
  rw [scan]
  split
  · rfl
  · split
    · rename_i failed
      rw [failed]
      rfl
    · rename_i token after found
      -- The pair is taken apart in the definition, and named in the statement.
      show (scan after).map (token :: ·) = _
      rw [found]
      rfl

/-- Spaces are passed over. -/
theorem scan_spaces (count : Nat) (cs : List Char) :
    scan (List.replicate count ' ' ++ cs) = scan cs := by
  induction count with
  | zero => rfl
  | succ count ih =>
    -- A space is a blank, so the scan goes on behind it.
    rw [List.replicate_succ, List.cons_append, scan, if_pos (by decide)]
    exact ih

/-- A token that is read back is the first one of the text. -/
theorem scan_of_readBefore (read : ReadBefore token rest) :
    scan (token.written ++ rest) = (scan rest).map (token :: ·) := by
  obtain ⟨c, cs, written, filled, found⟩ := read
  -- The first character of the token is not a blank, and reading on gives the token.
  rw [written, List.cons_append, scan_cons, if_neg (by simp [filled]), found]
  rfl

/-- The characters that end whatever stands in front of an operator, a parenthesis or a comma. -/
def separators : List Char := " ),+-*/^&=<>".toList

/-- Nothing follows, or what does begins with a separator. -/
def Separated (rest : List Char) : Prop := ∀ c ∈ rest.head?, c ∈ separators

/-- Digits and no more than one point are read up to a separator. -/
theorem number_append (parts : ∀ c ∈ ds, Text.isDigit c = true ∨ c = '.') (pointed : Bool)
    (single : ds.count '.' ≤ if pointed then 0 else 1) (separated : Separated rest)
    (read : List Char) : number pointed read (ds ++ rest) = .ok (read.reverse ++ ds, rest) := by
  -- The induction is along the characters, each of which joins those that were read.
  -- Whether a point was read before is part of the statement, since it changes on the way.
  induction ds generalizing pointed read with
  | nil =>
    cases rest with
    | nil => simp [number]
    | cons c rest =>
      -- Neither a digit nor a point separates.
      have other : ∀ c ∈ separators, Text.isDigit c = false ∧ c ≠ '.' :=
        List.all_iff_forall_prop.mp (by decide)
      obtain ⟨noDigit, noPoint⟩ := other c (separated c rfl)
      simp [number, noDigit, noPoint]
  | cons d ds ih =>
    have behind := fun c member => parts c (List.mem_cons_of_mem d member)
    rw [List.cons_append, number]
    rcases parts d List.mem_cons_self with digit | rfl
    · -- A digit joins what was read, and the count of points stays.
      have noPoint : d ≠ '.' := by
        rintro rfl
        exact absurd digit (by decide)
      rw [List.count_cons_of_ne noPoint] at single
      rw [if_pos digit, ih behind pointed single]
      simp
    · -- No point was read before this one, and none follows it.
      rw [List.count_cons_self] at single
      cases pointed with
      | true => exact absurd single (by simp)
      | false =>
        have none : ds.count '.' ≤ if true then 0 else 1 := Nat.le_of_succ_le_succ single
        rw [if_neg (by decide), if_pos rfl, if_neg (by decide), ih behind true none]
        simp

/-- Without a point in front only a digit starts a number. -/
theorem startsNumber_cons (noPoint : c ≠ '.') (cs : List Char) :
    startsNumber (c :: cs) = Text.isDigit c := by
  unfold startsNumber
  -- The definition has a case for a point in front of a digit, and one for any other character.
  split
  · rename_i same
    exact absurd (List.cons.inj same).1 noPoint
  · rename_i same
    rw [(List.cons.inj same).1]
  · rename_i same
    cases same

/-- What a number starts, it starts in front of anything. -/
theorem startsNumber_append (starts : startsNumber cs = true) (rest : List Char) :
    startsNumber (cs ++ rest) = true := by
  cases cs with
  | nil => cases starts
  | cons c cs =>
    by_cases point : c = '.'
    · -- Behind a point the next character decides, and it is the same one.
      subst point
      cases cs with
      | nil => exact absurd starts (by decide)
      | cons d cs => exact starts
    · rw [startsNumber_cons point] at starts
      rw [List.cons_append, startsNumber_cons point, starts]

/-- The text of a number: digits, with one point at most, which is not the last character. -/
structure Numeral (ds : List Char) : Prop where
  starts : startsNumber ds = true
  parts : ∀ c ∈ ds, Text.isDigit c = true ∨ c = '.'
  single : ds.count '.' ≤ 1
  finished : ds.getLast? ≠ some '.'

/-- No character of a number is a blank. -/
theorem Numeral.filled (numeral : Numeral ds) : ∀ c ∈ ds, Text.isBlank c = false := by
  intro c member
  rcases numeral.parts c member with digit | rfl
  · exact Text.isBlank_of_isDigit digit
  · decide

/-- Digits alone are the text of a number. -/
theorem numeral_of_digits (digits : ∀ c ∈ ds, Text.isDigit c = true) (nonempty : ds ≠ []) :
    Numeral ds := by
  obtain ⟨c, cs, rfl⟩ := List.exists_cons_of_ne_nil nonempty
  -- A point is no digit, so there is none in the text.
  have absent : '.' ∉ c :: cs := fun member => absurd (digits '.' member) (by decide)
  have noPoint : c ≠ '.' := fun same => absent (same ▸ List.mem_cons_self)
  refine ⟨?_, fun d member => .inl (digits d member), ?_, fun last => ?_⟩
  · rw [startsNumber_cons noPoint, digits c List.mem_cons_self]
  · rw [List.count_eq_zero_of_not_mem absent]
    exact Nat.zero_le 1
  · exact absent (List.mem_of_getLast? last)

/-- A number is read back. -/
theorem readBefore_numeral (numeral : Numeral ds) (separated : Separated rest) :
    ReadBefore ⟨.number, String.ofList ds⟩ rest := by
  obtain ⟨starts, parts, single, finished⟩ := id numeral
  cases ds with
  | nil => cases starts
  | cons c cs =>
    -- A quote is neither a digit nor a point, so the text is not taken for a literal.
    have noQuote : c ≠ '"' := by
      rintro rfl
      rcases parts '"' List.mem_cons_self with digit | point
      · exact absurd digit (by decide)
      · cases point
    -- All of the characters are read, and what separates is left.
    have read : number false [] (c :: (cs ++ rest)) = .ok (c :: cs, rest) :=
      number_append parts false single separated []
    have begins : startsNumber (c :: (cs ++ rest)) = true := startsNumber_append starts rest
    refine ⟨c, cs, String.toList_ofList, numeral.filled c List.mem_cons_self, ?_⟩
    rw [next, if_neg noQuote, if_pos begins, read]
    simp only [Except.map, withoutFinalPoint, if_neg finished]

/-- A number of digits alone is read back. -/
theorem readBefore_number (digits : ∀ c ∈ ds, Text.isDigit c = true) (nonempty : ds ≠ [])
    (separated : Separated rest) : ReadBefore ⟨.number, String.ofList ds⟩ rest :=
  readBefore_numeral (numeral_of_digits digits nonempty) separated

/-- A text literal is read back if it has no quote inside. -/
theorem readBefore_string {s : String} (plain : '"' ∉ s.toList) (rest : List Char) :
    ReadBefore ⟨.string, s⟩ rest := by
  -- Up to the closing quote every character belongs to the literal.
  have inside : ∀ c ∈ s.toList, decide (c ≠ '"') = true := by
    intro c member
    rw [decide_eq_true_eq]
    rintro rfl
    exact plain member
  refine ⟨'"', s.toList ++ ['"'], rfl, by decide, ?_⟩
  rw [next, if_pos rfl, List.append_assoc, List.takeWhile_append_of_pos inside,
    List.dropWhile_append_of_pos inside]
  simp

/-- Nothing follows, or what does is no part of a name. -/
def Ended (rest : List Char) : Prop := ∀ c ∈ rest.head?, isWord c = false

/-- A separator is no part of a name. -/
theorem Separated.ended (separated : Separated rest) : Ended rest := by
  have other : ∀ c ∈ separators, isWord c = false :=
    List.all_iff_forall_prop.mp (by decide)
  exact fun c member => other c (separated c member)

/-- A name is read up to its end. -/
theorem word_append (name : ∀ c ∈ cs, isWord c = true) (ended : Ended rest) :
    word (cs ++ rest) = cs ∧ afterWord (cs ++ rest) = rest := by
  -- The name is what a condition holds of up to the first character that violates it.
  rw [word, afterWord, List.takeWhile_append_of_pos name, List.dropWhile_append_of_pos name]
  cases rest with
  | nil => simp
  | cons c rest => simp [ended c rfl]

/-- Names are written in ASCII. -/
theorem ascii_of_isWord (word : isWord c = true) : c.toNat < 128 := by
  -- The letters end with a small one, and the digits come before them.
  have upper : c.isUpper = true → c.toNat ≤ 90 := fun upper =>
    UInt32.le_iff_toNat_le.mp (of_decide_eq_true upper).2
  have lower : c.isLower = true → c.toNat ≤ 122 := fun lower =>
    UInt32.le_iff_toNat_le.mp (of_decide_eq_true ((Bool.and_eq_true _ _).mp lower).2)
  have digit : c.isDigit = true → c.toNat ≤ 57 := fun digit => (Char.isDigit_iff_toNat.mp digit).2
  simp only [isWord, Bool.or_eq_true, decide_eq_true_eq] at word
  rcases word with alphanum | rfl
  · rcases (Bool.or_eq_true _ _).mp alphanum with alpha | isDigit
    · rcases (Bool.or_eq_true _ _).mp alpha with isUpper | isLower
      · exact (upper isUpper).trans_lt (by decide)
      · exact (lower isLower).trans_lt (by decide)
    · exact (digit isDigit).trans_lt (by decide)
  · decide

/-- A letter in upper case is a letter. -/
theorem isAlpha_of_isUpper (upper : c.isUpper = true) : c.isAlpha = true :=
  (Bool.or_eq_true _ _).mpr (.inl upper)

/-- A letter is a part of a name. -/
theorem isWord_of_isAlpha (letter : c.isAlpha = true) : isWord c = true := by
  simp [isWord, Char.isAlphanum, letter]

/-- No character of a name is a blank. -/
theorem isBlank_of_isWord (word : isWord c = true) : Text.isBlank c = false :=
  -- There are few characters in ASCII, and each can be tried.
  Text.of_ascii (P := fun c => isWord c = true → Text.isBlank c = false) (by decide)
    (ascii_of_isWord word) word

/-- A text that begins with a letter is read as a name. -/
theorem next_letter (letter : c.isAlpha = true) (cs : List Char) :
    next c cs = .ok (named (c :: cs)) := by
  -- A letter is none of the characters that begin something else.
  have other : c ≠ '"' ∧ c ≠ '.' ∧ Text.isDigit c = false :=
    Text.of_ascii (P := fun c => c.isAlpha = true → c ≠ '"' ∧ c ≠ '.' ∧ Text.isDigit c = false)
      (by decide) (ascii_of_isWord (isWord_of_isAlpha letter)) letter
  obtain ⟨noQuote, noPoint, noDigit⟩ := other
  rw [next, if_neg noQuote, startsNumber_cons noPoint, noDigit, if_neg (by decide), if_pos letter]

/-- A character of a name in upper case. -/
def isCapital (c : Char) : Bool :=
  -- Digits and underscores have no case.
  c.isUpper || c.isDigit || c = '_'

/-- A name in upper case: a letter, and then letters, digits and underscores. -/
def isName : List Char → Bool
  -- There is a letter at least.
  | c :: cs => c.isUpper && cs.all isCapital
  | [] => false

/-- The characters of names in upper case are parts of names, and change no more. -/
theorem of_isCapital (capital : isCapital c = true) : isWord c = true ∧ c.toUpper = c := by
  -- A capital letter, a digit and an underscore each belong to a name.
  have part : isWord c = true := by
    simp only [isCapital, Bool.or_eq_true, decide_eq_true_eq] at capital
    rcases capital with (upper | digit) | rfl
    · exact isWord_of_isAlpha (isAlpha_of_isUpper upper)
    · simp [isWord, Char.isAlphanum, digit]
    · decide
  have same : c.toUpper = c :=
    Text.of_ascii (P := fun c => isCapital c = true → c.toUpper = c) (by decide)
      (ascii_of_isWord part) capital
  exact ⟨part, same⟩

/-- All characters of a name may stand in it. -/
theorem isCapital_of_isName (isName : isName name = true) : ∀ c ∈ name, isCapital c = true := by
  cases name with
  | nil => simp
  | cons first others =>
    simp only [Token.isName, Bool.and_eq_true, List.all_eq_true] at isName
    rintro c member
    rcases List.mem_cons.mp member with rfl | behind
    · simp [isCapital, isName.1]
    · exact isName.2 c behind

/-- Upper case stays as it is. -/
theorem upperWord_of_isCapital (capitals : ∀ c ∈ cs, isCapital c = true) :
    upperWord cs = String.ofList cs := by
  -- Every character is its own capital.
  have same : cs.map Char.toUpper = cs :=
    (List.map_congr_left fun c member => (of_isCapital (capitals c member)).2).trans (List.map_id' cs)
  rw [upperWord, same]

/-- A name is read up to its end, as it is. -/
theorem capitals_append (capitals : ∀ c ∈ cs, isCapital c = true) (ended : Ended rest) :
    word (cs ++ rest) = cs ∧ afterWord (cs ++ rest) = rest ∧ upperWord cs = String.ofList cs := by
  obtain ⟨taken, left⟩ := word_append (fun c member => (of_isCapital (capitals c member)).1) ended
  exact ⟨taken, left, upperWord_of_isCapital capitals⟩

/-- A token that begins with a name is read back if the name leads to it. -/
theorem readBefore_of_named (more : List Char) (isName : isName name = true)
    (written : token.written = name ++ more)
    (found : named (name ++ (more ++ rest)) = (token, rest)) : ReadBefore token rest := by
  cases name with
  | nil => cases isName
  | cons c cs =>
    -- Names begin with a capital letter, so a name is looked for.
    have letter : c.isAlpha = true := isAlpha_of_isUpper ((Bool.and_eq_true _ _).mp isName).1
    refine ⟨c, cs ++ more, written, isBlank_of_isWord (isWord_of_isAlpha letter), ?_⟩
    rw [next_letter letter, List.append_assoc, ← List.cons_append, found]

/-- The name of a truth value, which names nothing else. -/
def isTruth (name : List Char) : Bool := name = "TRUE".toList || name = "FALSE".toList

/-- A name of a truth value is one of the two texts. -/
theorem isTruth_iff : isTruth name ↔ String.ofList name = "TRUE" ∨ String.ofList name = "FALSE" := by
  -- Texts are compared by their characters.
  simp [isTruth, String.ext_iff]

/-- A truth value is read back. -/
theorem readBefore_boolean (isName : isName name = true) (truth : isTruth name = true)
    (ended : Ended rest) : ReadBefore ⟨.boolean, String.ofList name⟩ rest := by
  -- The whole name is taken, and it is compared in upper case.
  obtain ⟨taken, left, upper⟩ := capitals_append (isCapital_of_isName isName) ended
  refine readBefore_of_named [] isName (by simp [written]) ?_
  rw [List.nil_append, named, taken, left, upper, if_pos (isTruth_iff.mp truth)]

/-- The name of a function in front of a parenthesis is read back. -/
theorem readBefore_function (isName : isName name = true) (other : ¬isTruth name) (cs : List Char) :
    ReadBefore ⟨.function, String.ofList name⟩ ('(' :: cs) := by
  -- A parenthesis ends the name.
  have ended : Ended ('(' :: cs) := by
    rintro c ⟨⟩
    decide
  obtain ⟨taken, left, upper⟩ := capitals_append (isCapital_of_isName isName) ended
  refine readBefore_of_named [] isName (by simp [written]) ?_
  rw [List.nil_append, named, taken, left, upper, if_neg (isTruth_iff.not.mp other)]
  rfl

/-- The two ends of an area are read back. -/
theorem readBefore_area {far : List Char} (isName : isName name = true) (other : ¬isTruth name)
    (capitals : ∀ c ∈ far, isCapital c = true) (ended : Ended rest) :
    ReadBefore ⟨.area, String.ofList name ++ ":" ++ String.ofList far⟩ rest := by
  -- The colon ends the first name, and what follows the area ends the second one.
  have colon : Ended (':' :: (far ++ rest)) := by
    rintro c ⟨⟩
    decide
  obtain ⟨taken, left, upper⟩ := capitals_append (isCapital_of_isName isName) colon
  obtain ⟨taken', left', upper'⟩ := capitals_append capitals ended
  refine readBefore_of_named (':' :: far) isName (by simp [written]) ?_
  rw [List.cons_append, named, taken, left, upper, if_neg (isTruth_iff.not.mp other)]
  simp only [taken', left', upper']

/-- A reference is read back where neither a parenthesis nor a colon follows. -/
theorem readBefore_cell (isName : isName name = true) (other : ¬isTruth name)
    (reference : Position.isReference (String.ofList name) = true) (separated : Separated rest) :
    ReadBefore ⟨.cell, String.ofList name⟩ rest := by
  obtain ⟨taken, left, upper⟩ :=
    capitals_append (isCapital_of_isName isName) separated.ended
  refine readBefore_of_named [] isName (by simp [written]) ?_
  rw [List.nil_append, named, taken, left, upper, if_neg (isTruth_iff.not.mp other)]
  -- What follows would have to be a separator.
  split
  · exact absurd (separated '(' rfl) (by decide)
  · exact absurd (separated ':' rfl) (by decide)
  · rw [if_pos reference]

/-- An operator is read back where no character follows that would join it. -/
theorem readBefore_operator (op : BinaryOp) (alone : ∀ c ∈ rest.head?, c ≠ '=' ∧ c ≠ '>') :
    ReadBefore ⟨.operator, op.symbol⟩ rest := by
  -- Only the three symbols that begin with a bracket look at what follows.
  cases rest with
  | nil => cases op <;> exact ⟨_, _, rfl, by decide, rfl⟩
  | cons c cs =>
    -- What follows is none of the characters that make a longer symbol.
    obtain ⟨noEquals, noGreater⟩ := alone c rfl
    cases op
    case lt =>
      have single : operator? ('<' :: c :: cs) = some (⟨.operator, "<"⟩, c :: cs) := by
        simp [operator?, noEquals, noGreater]
      refine ⟨'<', [], rfl, by decide, ?_⟩
      rw [List.nil_append, next, single]
      rfl
    case gt =>
      have single : operator? ('>' :: c :: cs) = some (⟨.operator, ">"⟩, c :: cs) := by
        simp [operator?, noEquals]
      refine ⟨'>', [], rfl, by decide, ?_⟩
      rw [List.nil_append, next, single]
      rfl
    all_goals exact ⟨_, _, rfl, by decide, rfl⟩

end Token
end Spreadsheet
