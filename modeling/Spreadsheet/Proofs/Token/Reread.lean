import Spreadsheet.Proofs.Token.Written

/-!
Tokens that were read from a text and are written out again: whatever the text was, they are read back
as they are, with a space between them.
-/

namespace Spreadsheet

namespace Text

/-- What is the same for the upper case of every ASCII character is the same for that of any. -/
theorem toUpper_congr {α : Type} {f : Char → α}
    (ascii : ∀ n < 128, f (Char.ofNat n).toUpper = f (Char.ofNat n)) (c : Char) :
    f c.toUpper = f c := by
  -- A character in ASCII is looked up, and any other one is its own capital.
  by_cases small : c.toNat < 128
  · exact of_ascii (P := fun c => f c.toUpper = f c) ascii small
  · -- Beyond the small letters nothing changes.
    have beyond : ¬('a'.val ≤ c.val ∧ c.val ≤ 'z'.val) := fun letter =>
      small ((UInt32.le_iff_toNat_le.mp letter.2).trans_lt (by decide))
    have same : c.toUpper = c := dif_neg beyond
    rw [same]

end Text

namespace Position

/-- A text in upper case has the form of a reference exactly if the text has. -/
theorem isReference_toUpper (cs : List Char) :
    isReference (String.ofList (cs.map Char.toUpper)) = isReference (String.ofList cs) := by
  -- Each class of characters is the same for capitals, as is the end of a line.
  have letter : isLetter ∘ Char.toUpper = isLetter := funext (Text.toUpper_congr (by decide))
  have digit : Char.isDigit ∘ Char.toUpper = Char.isDigit := funext (Text.toUpper_congr (by decide))
  have lineEnd : ∀ ds : List Char, ds.map Char.toUpper = ['\n'] ↔ ds = ['\n'] := by
    intro ds
    have same : ∀ c : Char, c.toUpper = '\n' ↔ c = '\n' := fun c => by
      simpa using Text.toUpper_congr (f := fun c => decide (c = '\n')) (by decide) c
    simp [List.map_eq_singleton_iff, same]
  -- Letters and digits end in the same places, and so does the whole.
  simp only [isReference, parts?, String.toList_ofList, List.takeWhile_map, List.dropWhile_map,
    letter, digit, ne_eq, List.map_eq_nil_iff, lineEnd]
  split <;> rfl

end Position

namespace Token

variable {token : Token} {ts : List Token} {c : Char} {cs ds rest name : List Char}

/-- A token as it is read from some text: a number may have a point. -/
inductive Legible : Token → Prop where
  /-- Digits and a point. -/
  | number {ds : List Char} (numeral : Numeral ds) : Legible ⟨.number, String.ofList ds⟩
  /-- Any other token. -/
  | plain {token : Token} (plain : Plain token) : Legible token

/-- A token that is read back without a parenthesis behind it. -/
def Lone (token : Token) : Prop :=
  -- In front of a parenthesis a reference would be the name of a function.
  token.kind = .function → Position.isReference token.text = false

/-- A legible token ends with a character that is no blank. -/
theorem Legible.endsFilled (legible : Legible token) : EndsFilled token.written := by
  cases legible with
  | @number ds numeral =>
    -- A number begins and ends with characters that are no blanks.
    refine endsFilled_of_all (fun none => ?_) (by simpa [written] using numeral.filled)
    have empty : ds = [] := by simpa [written] using none
    subst empty
    cases numeral.starts
  | plain plain => exact plain.endsFilled

/-- The one legible token that opens a parenthesis. -/
theorem Legible.eq_opening (legible : Legible token) (kind : token.kind = .opening) :
    token = ⟨.opening, "("⟩ := by
  cases legible with
  | number => cases kind
  | plain plain =>
    -- Each other token has another kind.
    cases plain with
    | opening => rfl
    | _ => cases kind

/-- The name of a function is read back in front of a parenthesis. -/
theorem Legible.readOpening (legible : Legible token) (function : token.kind = .function)
    (rest : List Char) : ReadBefore token ('(' :: rest) := by
  cases legible with
  | number => cases function
  | plain plain => exact plain.readBefore (by rw [Parted, function]; rfl)

/-- A name that has no other meaning is read back as that of a function. -/
theorem readBefore_alone (isName : isName name = true) (other : ¬isTruth name)
    (noReference : Position.isReference (String.ofList name) = false) (separated : Separated rest) :
    ReadBefore ⟨.function, String.ofList name⟩ rest := by
  -- The whole name is taken, and no special meaning is left for it.
  obtain ⟨taken, left, upper⟩ := capitals_append (isCapital_of_isName isName) separated.ended
  refine readBefore_of_named [] isName (by simp [written]) ?_
  rw [List.nil_append, named, taken, left, upper, if_neg (isTruth_iff.not.mp other)]
  -- What follows would have to be a separator.
  split
  · exact absurd (separated '(' rfl) (by decide)
  · exact absurd (separated ':' rfl) (by decide)
  · rw [if_neg (by simp [noReference])]

/-- A legible token is read back in front of a space, and at the end of a text. -/
theorem Legible.readAlone (legible : Legible token) (lone : Lone token)
    (spaced : ∀ c ∈ rest.head?, c = ' ') : ReadBefore token rest := by
  -- A space is one of the separators.
  have separated : Separated rest := by
    intro c member
    rw [spaced c member]
    decide
  cases legible with
  | number numeral => exact readBefore_numeral numeral separated
  | plain plain =>
    -- Functions are special: without a parenthesis the name has to be no reference.
    by_cases function : token.kind = .function
    · cases plain with
      | function isName other =>
        exact readBefore_alone isName other (lone rfl) separated
      | _ => cases function
    · cases rest with
      | nil => exact plain.readBefore (parted_nil function)
      | cons d rest =>
        obtain rfl : d = ' ' := spaced d rfl
        exact plain.readBefore (parted_space function rest)

/-- What is read as a number is digits and no more than one point. -/
theorem number_parts {pointed : Bool} {read : List Char}
    (found : number pointed read cs = .ok (ds, rest)) :
    ∃ mid, ds = read.reverse ++ mid ∧ (∀ c ∈ mid, Text.isDigit c = true ∨ c = '.') ∧
      mid.count '.' ≤ if pointed then 0 else 1 := by
  -- The induction is along the text, each character of which is a part of the number or ends it.
  induction cs generalizing pointed read with
  | nil =>
    cases found
    exact ⟨[], by simp⟩
  | cons c cs ih =>
    rw [number] at found
    -- A digit belongs to the number and leaves the count of points.
    split at found
    · rename_i digit
      obtain ⟨mid, rfl, parts, single⟩ := ih found
      have noPoint : c ≠ '.' := by
        rintro rfl
        exact absurd digit (by decide)
      refine ⟨c :: mid, by simp, List.forall_mem_cons.mpr ⟨.inl digit, parts⟩, ?_⟩
      rwa [List.count_cons_of_ne noPoint]
    · split at found
      · rename_i point
        subst point
        -- A second point is refused.
        cases pointed with
        | true => cases found
        | false =>
          obtain ⟨mid, rfl, parts, single⟩ := ih found
          refine ⟨'.' :: mid, by simp, List.forall_mem_cons.mpr ⟨.inr rfl, parts⟩, ?_⟩
          rw [List.count_cons_self]
          exact Nat.succ_le_succ single
      · -- Any other character ends the number.
        cases found
        exact ⟨[], by simp⟩

/-- Without a point at its end, what is read as a number is the text of one. -/
theorem exists_numeral (starts : startsNumber ds = true)
    (parts : ∀ c ∈ ds, Text.isDigit c = true ∨ c = '.') (single : ds.count '.' ≤ 1) :
    ∃ text, Numeral text ∧ withoutFinalPoint ds = String.ofList text := by
  unfold withoutFinalPoint
  split
  · rename_i last
    obtain ⟨before, rfl⟩ := List.getLast?_eq_some_iff.mp last
    -- The point at the end is the only one.
    have absent : '.' ∉ before := by
      simpa [List.count_append, List.count_eq_zero] using single
    cases before with
    | nil => exact absurd starts (by decide)
    | cons c before =>
      -- Without the point the number still starts with a digit.
      have noPoint : c ≠ '.' := fun same => absent (same ▸ List.mem_cons_self)
      rw [List.cons_append, startsNumber_cons noPoint] at starts
      refine ⟨c :: before, ⟨by rw [startsNumber_cons noPoint, starts], fun d member => ?_, ?_, ?_⟩,
        by rw [List.dropLast_concat]⟩
      · exact parts d (List.mem_append_left _ member)
      · rw [List.count_eq_zero_of_not_mem absent]
        exact Nat.zero_le 1
      · exact fun last => absent (List.mem_of_getLast? last)
  · rename_i finished
    exact ⟨ds, ⟨starts, parts, single, finished⟩, rfl⟩

/-- What is read as a number at the start of one starts a number as well. -/
theorem startsNumber_of_number (starts : startsNumber (c :: cs) = true)
    (found : number false [] (c :: cs) = .ok (ds, rest)) : startsNumber ds = true := by
  rw [number] at found
  -- The number begins with a digit, or with a point in front of one.
  by_cases point : c = '.'
  · subst point
    cases cs with
    | nil => exact absurd starts (by decide)
    | cons d cs =>
      have digit : Text.isDigit d = true := starts
      rw [if_neg (by decide), if_pos rfl, if_neg (by decide), number, if_pos digit] at found
      obtain ⟨mid, rfl, -⟩ := number_parts found
      exact digit
  · rw [startsNumber_cons point] at starts
    rw [if_pos starts] at found
    obtain ⟨mid, rfl, -⟩ := number_parts found
    exact (startsNumber_cons point mid).trans starts

/-- The upper case of what may stand in a name may stand in a name in upper case. -/
theorem isCapital_toUpper (word : isWord c = true) : isCapital c.toUpper = true :=
  Text.of_ascii (P := fun c => isWord c = true → isCapital c.toUpper = true) (by decide)
    (ascii_of_isWord word) word

/-- The upper case of a name is a name in upper case. -/
theorem isName_word (letter : c.isAlpha = true) (cs : List Char) :
    isName ((word (c :: cs)).map Char.toUpper) = true := by
  have part : isWord c = true := isWord_of_isAlpha letter
  -- A letter in upper case is a capital, by trying all of them.
  have upper : c.toUpper.isUpper = true :=
    Text.of_ascii (P := fun c => c.isAlpha = true → c.toUpper.isUpper = true) (by decide)
      (ascii_of_isWord part) letter
  rw [word, List.takeWhile_cons_of_pos part, List.map_cons]
  simp only [isName, upper, Bool.true_and, List.all_map, List.all_eq_true, Function.comp_apply]
  exact fun d member => isCapital_toUpper (List.mem_takeWhile_imp member)

/-- What begins with a letter is read as a legible token, which is alone or in front of a parenthesis. -/
theorem named_legible (letter : c.isAlpha = true) (found : named (c :: cs) = (token, rest)) :
    Legible token ∧ (Lone token ∨ rest.head? = some '(') := by
  -- A name in upper case is what every case below is about.
  have isName := isName_word letter cs
  unfold named at found
  dsimp only at found
  split at found
  · rename_i truth
    cases found
    -- The truth values are told by the name in upper case.
    rcases truth with same | same
    · exact ⟨same ▸ .plain (.boolean true), .inl nofun⟩
    · exact ⟨same ▸ .plain (.boolean false), .inl nofun⟩
  · rename_i truth
    -- What follows the name decides between a function, an area and a cell.
    have other : ¬isTruth ((word (c :: cs)).map Char.toUpper) := isTruth_iff.not.mpr truth
    split at found
    · rename_i follows
      cases found
      exact ⟨.plain (.function isName other), .inr (by rw [follows]; rfl)⟩
    · cases found
      refine ⟨.plain (.area isName other fun d member => ?_), .inl nofun⟩
      obtain ⟨e, inside, rfl⟩ := List.mem_map.mp member
      exact isCapital_toUpper (List.mem_takeWhile_imp inside)
    · -- The form of a reference does not depend on the case.
      have form := Position.isReference_toUpper (word (c :: cs))
      split at found
      · rename_i reference
        cases found
        exact ⟨.plain (.cell isName other (form.trans reference)), .inl nofun⟩
      · rename_i noReference
        cases found
        exact ⟨.plain (.function isName other),
          .inl fun _ => form.trans (Bool.eq_false_iff.mpr noReference)⟩

/-- What is read as an operator is one. -/
theorem operator?_legible (found : operator? cs = some (token, rest)) :
    ∃ op : BinaryOp, token = ⟨.operator, op.symbol⟩ := by
  unfold operator? at found
  -- The longer symbols come first.
  split at found
  · cases found
    exact ⟨.le, rfl⟩
  · cases found
    exact ⟨.ne, rfl⟩
  · cases found
    exact ⟨.ge, rfl⟩
  · split at found
    · rename_i symbol
      cases found
      -- Each of the single characters is the symbol of an operator.
      have all : "+-*/^&=<>".toList.all fun c =>
          [BinaryOp.add, .sub, .mul, .div, .pow, .concat, .eq, .lt, .gt].any fun op =>
            op.symbol == String.ofList [c] := by decide
      have known := List.all_eq_true.mp all _ (List.contains_iff_mem.mp symbol)
      obtain ⟨op, -, same⟩ := List.any_eq_true.mp known
      exact ⟨op, by rw [eq_of_beq same]⟩
    · cases found
  · cases found

/-- Every token is legible, and is alone unless a parenthesis follows it. -/
theorem next_legible (found : next c cs = .ok (token, rest)) :
    Legible token ∧ (Lone token ∨ rest.head? = some '(') := by
  -- The cases follow the first character.
  unfold next at found
  split at found
  · -- Inside of the quotes there is no quote.
    cases found
    refine ⟨.plain (.string fun member => ?_), .inl nofun⟩
    rw [String.toList_ofList] at member
    simpa using List.mem_takeWhile_imp member
  · split at found
    · -- A number is read on from its first character.
      rename_i starts
      cases read : number false [] (c :: cs) with
      | error e =>
        rw [read] at found
        cases found
      | ok result =>
        obtain ⟨ds, after⟩ := result
        rw [read] at found
        cases found
        obtain ⟨mid, rfl, parts, single⟩ := number_parts read
        obtain ⟨text, numeral, same⟩ :=
          exists_numeral (startsNumber_of_number starts read) parts single
        exact ⟨same ▸ .number numeral, .inl nofun⟩
    · split at found
      · -- What begins with a letter is left to the lemma on names.
        rename_i letter
        exact named_legible letter (Except.ok.inj found)
      · split at found
        · rename_i result read
          cases found
          obtain ⟨op, rfl⟩ := operator?_legible read
          exact ⟨.plain (.operator op), .inl nofun⟩
        · split at found
          · cases found
            exact ⟨.plain .opening, .inl nofun⟩
          · split at found
            · cases found
              exact ⟨.plain .closing, .inl nofun⟩
            · split at found
              · cases found
                exact ⟨.plain .comma, .inl nofun⟩
              · cases found

/-- Tokens that can be read from a text in this order. -/
inductive Lexed : List Token → Prop where
  /-- No tokens. -/
  | nil : Lexed []
  /-- A token with nothing behind it. -/
  | single {token : Token} (legible : Legible token) (lone : Lone token) : Lexed [token]
  /-- A token in front of others, the first of which is a parenthesis if it has to be. -/
  | cons {token next : Token} {ts : List Token} (legible : Legible token)
    (fits : Lone token ∨ next.kind = .opening) (others : Lexed (next :: ts)) :
    Lexed (token :: next :: ts)

/-- Tokens that can be read from a text are legible. -/
theorem Lexed.legible (lexed : Lexed ts) : ∀ token ∈ ts, Legible token := by
  -- The induction is along the tokens as they were read.
  induction lexed with
  | nil => simp
  | single legible => exact List.forall_mem_singleton.mpr legible
  | cons legible _ _ ih => exact List.forall_mem_cons.mpr ⟨legible, ih⟩

/-- The first token of a text that begins with a parenthesis is that parenthesis. -/
theorem scan_opening (scanned : scan cs = .ok ts) (opens : cs.head? = some '(') :
    ∃ others, ts = ⟨.opening, "("⟩ :: others := by
  obtain ⟨more, rfl⟩ := List.head?_eq_some_iff.mp opens
  have read : ReadBefore ⟨.opening, "("⟩ more := ⟨_, [], rfl, by decide, rfl⟩
  -- The parenthesis is a token for itself, whatever follows it.
  have first : scan ('(' :: more) = (scan more).map (⟨.opening, "("⟩ :: ·) := scan_of_readBefore read
  rw [first] at scanned
  cases behind : scan more with
  | error e =>
    rw [behind] at scanned
    cases scanned
  | ok others =>
    rw [behind] at scanned
    cases scanned
    exact ⟨others, rfl⟩

/-- The tokens of any text can be read in their order. -/
theorem scan_lexed (scanned : scan cs = .ok ts) : Lexed ts := by
  -- The induction follows the scanning, each step of which leaves a shorter text.
  fun_induction scan cs generalizing ts with
  | case1 =>
    cases scanned
    exact .nil
  | case2 c rest blank ih => exact ih scanned
  | case3 c rest filled e failed => cases scanned
  | case4 c rest filled token after found shorter ih =>
    -- The scan succeeds behind the token as well, and those tokens can be read by induction.
    cases behind : scan after with
    | error e =>
      rw [behind] at scanned
      cases scanned
    | ok others =>
      rw [behind] at scanned
      cases scanned
      have lexed := ih behind
      obtain ⟨legible, fits⟩ := next_legible found
      cases others with
      | nil =>
        -- Nothing follows the token, so no parenthesis does.
        refine .single legible (fits.resolve_right fun opens => ?_)
        obtain ⟨others, none⟩ := scan_opening behind opens
        cases none
      | cons next others =>
        refine .cons legible (fits.imp_right fun opens => ?_) lexed
        obtain ⟨others, same⟩ := scan_opening behind opens
        cases same
        rfl

/-- Tokens one after the other with a space between them, but none behind the name of a function. -/
def rewritten (ts : List Token) : String := String.ofList ('=' :: spaced (fun _ => 1) ts)

/-- Tokens that can be read from a text are read back when they are written out. -/
theorem scan_rewritten (lexed : Lexed ts) : scan (spaced (fun _ => 1) ts) = .ok ts := by
  -- The induction is along the tokens, each of which is read back before the others.
  induction lexed with
  | nil => exact scan_nil
  | @single token legible lone =>
    -- At the end of the text there is nothing to be parted from.
    have last : ∀ c ∈ ([] : List Char).head?, c = ' ' := nofun
    have read := scan_of_readBefore (legible.readAlone lone last)
    rwa [List.append_nil, scan_nil] at read
  | @cons token next ts legible fits others ih =>
    rw [spaced]
    split
    · rename_i called
      -- The parenthesis comes right behind the name.
      obtain rfl := (others.legible next List.mem_cons_self).eq_opening called.2
      obtain ⟨rest, begins⟩ := spaced_cons (fun _ => 1) ⟨.opening, "("⟩ ts
      have read := scan_of_readBefore (legible.readOpening called.1 rest)
      have opens : '(' :: rest = spaced (fun _ => 1) (⟨.opening, "("⟩ :: ts) := begins.symm
      rw [opens, ih] at read
      exact read
    · rename_i apart
      -- A token that is not in front of its parenthesis can stand alone.
      have lone : Lone token := fun function =>
        fits.elim (fun lone => lone function) fun opening => absurd ⟨function, opening⟩ apart
      rw [scan_of_readBefore (legible.readAlone lone (by rintro c ⟨⟩; rfl)), scan_spaces, ih]
      rfl

/-- Only the equals sign is taken off in front of tokens that are written out. -/
theorem body_rewritten (lexed : Lexed ts) : body (rewritten ts) = spaced (fun _ => 1) ts := by
  cases ts with
  | nil => decide
  | cons token ts =>
    -- The last token ends the text with a character that is no blank.
    have filled := endsFilled_spaced (fun t member => (lexed.legible t member).endsFilled)
      (List.cons_ne_nil token ts) fun _ => 1
    rw [body, rewritten, String.toList_ofList, trim_of_endsFilled (by decide) filled]
    rfl

/--
The tokens of any formula, written out one after the other behind an equals sign, are the tokens of what
is written: text literals in quotes and everything else as it is, with one space between neighbours and
none between the name of a function and its parenthesis.
-/
theorem ofFormula_rewritten {text : String} (read : Token.ofFormula text = .ok ts) :
    Token.ofFormula (rewritten ts) = .ok ts := by
  -- The order of the tokens is all that is needed of the text.
  have lexed : Lexed ts := scan_lexed read
  rw [Token.ofFormula, body_rewritten lexed, scan_rewritten lexed]

/-- The tokens of a formula in which one name is first that of a cell and then that of a function. -/
def logarithms : List Token :=
  [⟨.cell, "LOG10"⟩, ⟨.opening, "("⟩, ⟨.number, "2"⟩, ⟨.closing, ")"⟩, ⟨.operator, "&"⟩,
    ⟨.function, "LOG10"⟩, ⟨.opening, "("⟩, ⟨.number, ".5"⟩, ⟨.closing, ")"⟩, ⟨.operator, "&"⟩,
    ⟨.string, "x"⟩]

/-- A point at the end of a number and a quote that is not closed are read back without a trace. -/
theorem ofFormula_rewritten_logarithms :
    Token.ofFormula " log10 (2.)&Log10(.5)&\"x " = .ok logarithms ∧
      Token.ofFormula "=LOG10 ( 2 ) & LOG10( .5 ) & \"x\"" = .ok logarithms := by
  have read : Token.ofFormula " log10 (2.)&Log10(.5)&\"x " = .ok logarithms := by decide +kernel
  exact ⟨read, ofFormula_rewritten read⟩

end Token
end Spreadsheet
