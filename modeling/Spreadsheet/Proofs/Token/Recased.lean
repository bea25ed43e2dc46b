import Spreadsheet.Expr.Parser
import Spreadsheet.Proofs.Token.Reread

/-!
The case of letters outside of text literals: it makes no difference to what a formula is read as,
nor to how reading it fails. Every text is read as the text in which these letters are capitals.
-/

namespace Spreadsheet

namespace Text

/-- A character that is no letter has no case. -/
theorem toUpper_of_isAlpha_eq_false {c : Char} (noLetter : c.isAlpha = false) : c.toUpper = c := by
  -- Changing to upper case looks only for small letters.
  have small : c.isLower = false := (Bool.or_eq_false_iff.mp noLetter).2
  have outside : ¬('a'.val ≤ c.val ∧ c.val ≤ 'z'.val) := by
    intro inside
    have lower : c.isLower = true :=
      Bool.and_eq_true_iff.mpr ⟨decide_eq_true inside.1, decide_eq_true inside.2⟩
    exact absurd lower (by simp [small])
  exact dif_neg outside

/-- A character is a letter exactly if its upper case is one. -/
theorem isAlpha_toUpper (c : Char) : c.toUpper.isAlpha = c.isAlpha := toUpper_congr (by decide) c

/-- A character that is no letter is the upper case of itself alone. -/
theorem toUpper_eq_iff {c d : Char} (noLetter : d.isAlpha = false) : c.toUpper = d ↔ c = d := by
  -- The upper case of a letter is a letter, so what is in question was none before.
  constructor
  · rintro rfl
    rw [isAlpha_toUpper] at noLetter
    exact (toUpper_of_isAlpha_eq_false noLetter).symm
  · rintro rfl
    exact toUpper_of_isAlpha_eq_false noLetter

/-- A letter of a name is no digit of any script. -/
theorem isDigit_of_isAlpha {c : Char} (letter : c.isAlpha = true) : isDigit c = false :=
  of_ascii (P := fun c => c.isAlpha = true → isDigit c = false) (by decide)
    (Token.ascii_of_isWord (Token.isWord_of_isAlpha letter)) letter

/-- A character is a digit exactly if its upper case is one. -/
theorem isDigit_toUpper (c : Char) : isDigit c.toUpper = isDigit c := by
  -- A letter is no digit in either case, and any other character stays as it is.
  by_cases letter : c.isAlpha = true
  · rw [isDigit_of_isAlpha letter, isDigit_of_isAlpha ((isAlpha_toUpper c).trans letter)]
  · rw [Bool.not_eq_true] at letter
    rw [toUpper_of_isAlpha_eq_false letter]

/-- No digit of any script is a letter of a name. -/
theorem isAlpha_of_isDigit {c : Char} (digit : isDigit c = true) : c.isAlpha = false := by
  -- A letter that is a digit would be both.
  by_contra letter
  rw [Bool.not_eq_false] at letter
  simp [isDigit_of_isAlpha letter] at digit

end Text

namespace Token

/--
Two texts that are the same but for the case of letters outside of text literals; `quoted` tells
whether they begin inside of one.
-/
def isRecased (quoted : Bool) : List Char → List Char → Bool
  -- A quote opens a literal and the next one closes it.
  | [], [] => true
  | c :: cs, d :: ds =>
    (if quoted || c == '"' then c == d else c.toUpper == d.toUpper) &&
      isRecased (quoted != (c == '"')) cs ds
  | _, _ => false

/-- A text with capitals for the letters outside of its literals. -/
def capitalized (quoted : Bool) : List Char → List Char
  -- A quote is no letter.
  | [] => []
  | c :: cs => (if quoted then c else c.toUpper) :: capitalized (quoted != (c == '"')) cs

variable {c : Char} {cs ds : List Char}

/-- Texts that differ in the case of such letters alone have the same capitals. -/
theorem capitalized_congr {quoted : Bool} (same : isRecased quoted cs ds = true) :
    capitalized quoted cs = capitalized quoted ds := by
  -- By induction on the text, keeping track of whether a literal is open.
  induction cs generalizing quoted ds with
  | nil =>
    cases ds with
    | nil => rfl
    | cons d ds => simp [isRecased] at same
  | cons c cs ih =>
    cases ds with
    | nil => simp [isRecased] at same
    | cons d ds =>
      simp only [isRecased, Bool.and_eq_true] at same
      obtain ⟨first, others⟩ := same
      -- Both texts have a quote here or neither has, so the literals stay in step.
      have quotes : (c == '"') = (d == '"') ∧
          (if quoted then c else c.toUpper) = if quoted then d else d.toUpper := by
        split at first
        · obtain rfl : c = d := by simpa using first
          simp
        · rename_i outside
          have equal : c.toUpper = d.toUpper := by simpa using first
          have quote : c = '"' ↔ d = '"' := by
            rw [← Text.toUpper_eq_iff (d := '"') (by decide), equal,
              Text.toUpper_eq_iff (by decide)]
          simp_all
      rw [capitalized, capitalized, quotes.2, ← quotes.1, ih others]

/-- Outside of literals each character is in upper case, and a quote opens a literal. -/
theorem capitalized_cons (c : Char) (cs : List Char) :
    capitalized false (c :: cs) = c.toUpper :: capitalized (c == '"') cs := by
  simp [capitalized]

/-- Outside of literals a character that is no quote is followed by the capitals of the rest. -/
theorem capitalized_cons_of_ne (noQuote : c ≠ '"') :
    capitalized false (c :: cs) = c.toUpper :: capitalized false cs := by
  rw [capitalized_cons, beq_eq_false_iff_ne.mpr noQuote]

/-- The capitals of a text start with what is no letter exactly if the text does. -/
theorem capitalized_eq_cons {d : Char} (noLetter : d.isAlpha = false) (noQuote : d ≠ '"') :
    capitalized false cs = d :: ds ↔ ∃ rest, cs = d :: rest ∧ ds = capitalized false rest := by
  -- Such a character has no case, so it is the first one of the text itself.
  constructor
  · intro capitals
    cases cs with
    | nil => cases capitals
    | cons c rest =>
      obtain ⟨first, others⟩ := List.cons.inj capitals
      obtain rfl : c = d := (Text.toUpper_eq_iff noLetter).mp first
      rw [beq_eq_false_iff_ne.mpr noQuote] at others
      exact ⟨rest, rfl, others.symm⟩
  · rintro ⟨rest, rfl, rfl⟩
    rw [capitalized_cons_of_ne noQuote, Text.toUpper_of_isAlpha_eq_false noLetter]

/-- A part of a name is no quote. -/
theorem ne_quote_of_isWord (part : isWord c = true) : c ≠ '"' := by
  rintro rfl
  exact absurd part (by decide)

/-- A blank is no quote. -/
theorem ne_quote_of_isBlank (blank : Text.isBlank c = true) : c ≠ '"' := by
  rintro rfl
  exact absurd blank (by decide)

/-- The name at the start of the capitals is that of the text, and so is what follows it. -/
theorem word_capitalized (cs : List Char) :
    word (capitalized false cs) = (word cs).map Char.toUpper ∧
      afterWord (capitalized false cs) = capitalized false (afterWord cs) := by
  -- By induction on the name, which ends where no part of a name follows.
  induction cs with
  | nil => simp [capitalized, word, afterWord]
  | cons c cs ih =>
    -- A character and its upper case are both parts of a name or both not.
    have part : isWord c.toUpper = isWord c := Text.toUpper_congr (by decide) c
    by_cases inside : isWord c = true
    · rw [capitalized_cons_of_ne (ne_quote_of_isWord inside)]
      simp only [word, afterWord] at ih ⊢
      simp [part, inside, ih]
    · simp [capitalized, word, afterWord, part, inside]

/-- The upper case of a name in upper case is that of the name. -/
theorem upperWord_map_toUpper (cs : List Char) :
    upperWord (cs.map Char.toUpper) = upperWord cs := by
  -- Being in upper case already, the name is not changed again.
  have same : Char.toUpper ∘ Char.toUpper = Char.toUpper := funext (Text.toUpper_congr (by decide))
  rw [upperWord, upperWord, List.map_map, same]

/-- What is read in front of some text, with capitals in that text. -/
abbrev capitalRest {α : Type} : α × List Char → α × List Char := Prod.map id (capitalized false)

/-- A name is read from the capitals as from the text. -/
theorem named_capitalized (cs : List Char) :
    named (capitalized false cs) = capitalRest (named cs) := by
  -- The reading turns on the name in upper case and on what stands behind it.
  obtain ⟨name, behind⟩ := word_capitalized cs
  simp only [named, name, behind, upperWord_map_toUpper, Position.isReference_toUpper]
  generalize afterWord cs = rest
  split
  · rfl
  · -- What follows the name is a parenthesis or a colon in both texts or in neither.
    split
    · rename_i opens
      obtain ⟨tail, rfl, -⟩ := (capitalized_eq_cons (by decide) (by decide)).mp opens
      rfl
    · rename_i colon
      obtain ⟨far, rfl, rfl⟩ := (capitalized_eq_cons (by decide) (by decide)).mp colon
      obtain ⟨end', behind'⟩ := word_capitalized far
      simp only [end', behind', upperWord_map_toUpper, Prod.map_apply, id_eq]
    · rename_i noOpening noColon
      have opening : ∀ tail, rest ≠ '(' :: tail := by
        rintro tail rfl
        exact noOpening _ (capitalized_cons_of_ne (by decide))
      have colon : ∀ far, rest ≠ ':' :: far := by
        rintro far rfl
        exact noColon _ (capitalized_cons_of_ne (by decide))
      split
      · split
        · exact (opening _ rfl).elim
        · exact (colon _ rfl).elim
        · rfl
      · split
        · exact (opening _ rfl).elim
        · exact (colon _ rfl).elim
        · rfl

/-- A number is read from the capitals as from the text. -/
theorem number_capitalized (pointed : Bool) (read cs : List Char) :
    number pointed read (capitalized false cs) = (number pointed read cs).map capitalRest := by
  -- By induction on the text: digits and the first point are read, anything else ends the number.
  induction cs generalizing pointed read with
  | nil => simp [capitalized, number, Except.map]
  | cons c cs ih =>
    have point : c.toUpper = '.' ↔ c = '.' := Text.toUpper_eq_iff (by decide)
    by_cases digit : Text.isDigit c = true
    · have noLetter := Text.isAlpha_of_isDigit digit
      have noQuote : c ≠ '"' := by
        rintro rfl
        exact absurd digit (by decide)
      rw [capitalized_cons_of_ne noQuote, Text.toUpper_of_isAlpha_eq_false noLetter]
      simp [number, digit, ih]
    · by_cases isPoint : c = '.'
      · subst isPoint
        rw [capitalized_cons_of_ne (by decide)]
        cases pointed with
        | false => simp [number, digit, ih]
        | true => simp [number, digit, Except.map]
      · simp [capitalized, number, Text.isDigit_toUpper, digit, point, isPoint, Except.map]

/-- A text starts a number exactly if its capitals do. -/
theorem startsNumber_capitalized (noLetter : c.isAlpha = false) (noQuote : c ≠ '"') :
    startsNumber (c :: capitalized false cs) = startsNumber (c :: cs) := by
  -- A point starts a number with the digit behind it, anything else has to be a digit.
  by_cases point : c = '.'
  · subst point
    cases cs with
    | nil => rfl
    | cons d ds => exact Text.isDigit_toUpper d
  · rw [startsNumber_cons point, startsNumber_cons point]

/-- An operator is read from the capitals as from the text. -/
theorem operator?_capitalized (c : Char) (cs : List Char) :
    operator? (c :: capitalized false cs) = (operator? (c :: cs)).map capitalRest := by
  -- A character joins the first one in the text exactly if it does so in the capitals.
  have second : ∀ d : Char, d.isAlpha = false → d ≠ '"' → (∀ rest, cs = d :: rest → False) →
      ∀ rest, capitalized false cs = d :: rest → False := by
    intro d noLetter noQuote absent rest capitals
    obtain ⟨tail, same, -⟩ := (capitalized_eq_cons noLetter noQuote).mp capitals
    exact absent tail same
  -- Each operator of two characters is tried before those of one.
  by_cases less : ∃ rest, c = '<' ∧ cs = '=' :: rest
  · obtain ⟨rest, rfl, rfl⟩ := less
    rfl
  · by_cases other : ∃ rest, c = '<' ∧ cs = '>' :: rest
    · obtain ⟨rest, rfl, rfl⟩ := other
      rfl
    · by_cases greater : ∃ rest, c = '>' ∧ cs = '=' :: rest
      · obtain ⟨rest, rfl, rfl⟩ := greater
        rfl
      · simp only [not_exists, not_and] at less other greater
        rw [operator?, operator?]
        · split <;> rfl
        · exact less
        · exact other
        · exact greater
        · exact fun rest first => second '=' (by decide) (by decide) (less · first) rest
        · exact fun rest first => second '>' (by decide) (by decide) (other · first) rest
        · exact fun rest first => second '=' (by decide) (by decide) (greater · first) rest

/-- A literal is read from the capitals as from the text. -/
theorem literal_capitalized (cs : List Char) :
    (capitalized true cs).takeWhile (· ≠ '"') = cs.takeWhile (· ≠ '"') ∧
      ((capitalized true cs).dropWhile (· ≠ '"')).drop 1 =
        capitalized false ((cs.dropWhile (· ≠ '"')).drop 1) := by
  -- By induction on the text: inside of a literal nothing has been changed.
  induction cs with
  | nil => simp [capitalized]
  | cons c cs ih =>
    by_cases quote : c = '"'
    · subst quote
      simp [capitalized]
    · rw [capitalized, beq_eq_false_iff_ne.mpr quote]
      simpa [quote] using ih

/-- A token is read from the capitals as from the text. -/
theorem next_capitalized (c : Char) (cs : List Char) :
    next c.toUpper (capitalized (c == '"') cs) = (next c cs).map capitalRest := by
  -- A quote opens a literal, a letter a name, and anything else has no case.
  by_cases quote : c = '"'
  · subst quote
    obtain ⟨inside, behind⟩ := literal_capitalized cs
    show next '"' (capitalized true cs) = _
    rw [next, next, if_pos rfl, if_pos rfl, inside, behind]
    rfl
  · -- Outside of a literal the rest is in capitals too.
    rw [beq_eq_false_iff_ne.mpr quote]
    by_cases letter : c.isAlpha = true
    · have letter' : c.toUpper.isAlpha = true := (Text.isAlpha_toUpper c).trans letter
      rw [next_letter letter, next_letter letter', ← capitalized_cons_of_ne quote,
        named_capitalized]
      rfl
    · rw [Bool.not_eq_true] at letter
      have starts : startsNumber (c :: capitalized false cs) = startsNumber (c :: cs) :=
        startsNumber_capitalized letter quote
      -- Numbers begin with this very character, which is the same in the capitals.
      have digits := number_capitalized false [] (c :: cs)
      rw [capitalized_cons_of_ne quote] at digits
      rw [Text.toUpper_of_isAlpha_eq_false letter] at digits ⊢
      simp only [next, quote, starts, letter, digits, operator?_capitalized, if_false]
      split
      · cases number false [] (c :: cs) <;> rfl
      · cases operator? (c :: cs) with
        | some found => rfl
        | none =>
          simp only [Option.map_none, Bool.false_eq_true, if_false]
          split_ifs <;> rfl

/-- A character is a blank exactly if its upper case is one. -/
theorem isBlank_toUpper (c : Char) : Text.isBlank c.toUpper = Text.isBlank c :=
  Text.toUpper_congr (by decide) c

/-- The tokens of the capitals are those of the text. -/
theorem scan_capitalized (cs : List Char) : scan (capitalized false cs) = scan cs := by
  -- The induction is that of the scan, which goes on behind each token.
  induction cs using scan.induct with
  | case1 => rfl
  -- A blank is passed in both.
  | case2 c rest blank ih =>
    rw [capitalized_cons_of_ne (ne_quote_of_isBlank blank), scan_cons, scan_cons, isBlank_toUpper,
      if_pos blank, if_pos blank, ih]
  -- A token that cannot be read fails alike.
  | case3 c rest filled e failed =>
    have capitals := next_capitalized c rest
    rw [failed] at capitals
    rw [capitalized_cons, scan_cons, scan_cons, isBlank_toUpper, if_neg filled, if_neg filled,
      capitals, failed]
    rfl
  -- Behind a token both scans go on with what is left.
  | case4 c rest filled token after found shorter ih =>
    have capitals := next_capitalized c rest
    rw [found] at capitals
    rw [capitalized_cons, scan_cons, scan_cons, isBlank_toUpper, if_neg filled, if_neg filled,
      capitals, found]
    show (scan (capitalized false after)).map (token :: ·) = (scan after).map (token :: ·)
    rw [ih]

/-- The last character of the capitals is a blank exactly if that of the text is. -/
theorem capitalized_append_singleton (quoted : Bool) (cs : List Char) (c : Char) :
    ∃ d, capitalized quoted (cs ++ [c]) = capitalized quoted cs ++ [d] ∧
      Text.isBlank d = Text.isBlank c := by
  -- By induction on the text in front of the last character.
  induction cs generalizing quoted with
  | nil =>
    cases quoted with
    | false => exact ⟨c.toUpper, rfl, isBlank_toUpper c⟩
    | true => exact ⟨c, rfl, rfl⟩
  | cons first rest ih =>
    obtain ⟨d, last, blank⟩ := ih (quoted != (first == '"'))
    refine ⟨d, ?_, blank⟩
    rw [List.cons_append, capitalized, last]
    rfl

/-- Cutting blanks off at the end leaves the capitals of what it leaves of the text. -/
theorem reverse_dropWhile_capitalized (quoted : Bool) (cs : List Char) :
    ((capitalized quoted cs).reverse.dropWhile Text.isBlank).reverse =
      capitalized quoted (cs.reverse.dropWhile Text.isBlank).reverse := by
  -- The induction takes blanks off at the end until there is another character.
  induction cs using List.reverseRecOn with
  | nil => rfl
  | append_singleton cs c ih =>
    obtain ⟨d, last, blank⟩ := capitalized_append_singleton quoted cs c
    rw [last, List.reverse_append, List.reverse_append, List.reverse_singleton,
      List.reverse_singleton, List.singleton_append, List.singleton_append, List.dropWhile_cons,
      List.dropWhile_cons, blank]
    split
    · exact ih
    · simp [last]

/-- Cutting off blanks leaves the capitals of what it leaves of the text. -/
theorem trim_capitalized (cs : List Char) :
    Text.trim (capitalized false cs) = capitalized false (Text.trim cs) := by
  -- At the near end blank by blank goes, as each is its own capital.
  have front : (capitalized false cs).dropWhile Text.isBlank =
      capitalized false (cs.dropWhile Text.isBlank) := by
    induction cs with
    | nil => rfl
    | cons c cs ih =>
      by_cases blank : Text.isBlank c = true
      · simp [capitalized_cons_of_ne (ne_quote_of_isBlank blank), isBlank_toUpper, blank, ih]
      · simp [capitalized_cons, isBlank_toUpper, blank]
  rw [Text.trim, Text.trimBy, front, reverse_dropWhile_capitalized, Text.trim, Text.trimBy]

/-- The equals sign in front is that of the text. -/
theorem body_capitalized (s : String) :
    body (String.ofList (capitalized false s.toList)) = capitalized false (body s) := by
  rw [body, body, String.toList_ofList, trim_capitalized]
  -- Only a sign of equality in front goes on its own, and it is no letter.
  generalize Text.trim s.toList = cs
  symm
  split
  · rfl
  · rename_i noEquals
    split
    · rename_i equals
      obtain ⟨rest, rfl, -⟩ := (capitalized_eq_cons (by decide) (by decide)).mp equals
      exact (noEquals rest rfl).elim
    · rfl

/-- The tokens of a formula in capitals are those of the formula. -/
theorem ofFormula_capitalized (s : String) :
    ofFormula (String.ofList (capitalized false s.toList)) = ofFormula s := by
  -- Once what surrounds the formula is gone the scan is the same.
  rw [ofFormula, body_capitalized, scan_capitalized, ofFormula]

end Token

/--
Two formulas that differ only in the case of letters outside of text literals are read as one
expression, or reading both of them fails in the same way.
-/
theorem Expr.ofFormula_recased {s t : String}
    (same : Token.isRecased false s.toList t.toList = true) :
    Expr.ofFormula s = Expr.ofFormula t := by
  -- Both texts are read as their common capitals.
  rw [Expr.ofFormula, Expr.ofFormula, ← Token.ofFormula_capitalized s,
    ← Token.ofFormula_capitalized t, Token.capitalized_congr same]

/-- A formula in mixed case with a text literal is read as the one in small letters. -/
theorem Expr.ofFormula_recased_mixed :
    Token.isRecased false "=if(a1:b2 > \"x y\", sum(c3), true)".toList
      "=IF(A1:b2 > \"x y\", Sum(C3), tRuE)".toList = true ∧
    Expr.ofFormula "=if(a1:b2 > \"x y\", sum(c3), true)" =
      Expr.ofFormula "=IF(A1:b2 > \"x y\", Sum(C3), tRuE)" :=
  ⟨by decide, Expr.ofFormula_recased (by decide)⟩

end Spreadsheet
