import Spreadsheet.Proofs.Token.Next

/-!
Formulas made of tokens. Tokens that stay apart are read back from a formula, with or without blanks
between them.
-/

namespace Spreadsheet.Token

variable {token next : Token} {ts : List Token} {gap : Nat → Nat} {c : Char} {cs rest name : List Char}

/-- A token that texts hold as it is written. -/
inductive Plain : Token → Prop where
  /-- Digits alone. -/
  | number {ds : List Char} (digits : ∀ c ∈ ds, Text.isDigit c = true) (nonempty : ds ≠ []) :
    Plain ⟨.number, String.ofList ds⟩
  /-- A text without a quote. -/
  | string {s : String} (unquoted : '"' ∉ s.toList) : Plain ⟨.string, s⟩
  /-- One of the two truth values. -/
  | boolean (b : Bool) : Plain ⟨.boolean, if b then "TRUE" else "FALSE"⟩
  /-- The symbol of an operator. -/
  | operator (op : BinaryOp) : Plain ⟨.operator, op.symbol⟩
  /-- An opening parenthesis. -/
  | opening : Plain ⟨.opening, "("⟩
  /-- A closing parenthesis. -/
  | closing : Plain ⟨.closing, ")"⟩
  /-- A comma. -/
  | comma : Plain ⟨.comma, ","⟩
  /-- A name of the form of a reference. -/
  | cell {name : List Char} (isName : isName name = true) (other : ¬isTruth name)
      (reference : Position.isReference (String.ofList name) = true) :
    Plain ⟨.cell, String.ofList name⟩
  /-- A name, a colon, and what may stand in a name. -/
  | area {name far : List Char} (isName : isName name = true) (other : ¬isTruth name)
      (capitals : ∀ c ∈ far, isCapital c = true) :
    Plain ⟨.area, String.ofList name ++ ":" ++ String.ofList far⟩
  /-- A name that is no truth value. -/
  | function {name : List Char} (isName : isName name = true) (other : ¬isTruth name) :
    Plain ⟨.function, String.ofList name⟩

/-- Nothing that follows a token can belong to it, or make another token of it. -/
def Parted (token : Token) (rest : List Char) : Prop :=
  -- Text literals, parentheses and commas end of themselves.
  match token.kind with
  | .number | .boolean | .cell | .area => Separated rest
  | .operator => ∀ c ∈ rest.head?, c ≠ '=' ∧ c ≠ '>'
  | .function => rest.head? = some '('
  | .string | .opening | .closing | .comma => True

/-- A plain token that is parted from what follows is read back. -/
theorem Plain.readBefore (plain : Plain token) (parted : token.Parted rest) :
    ReadBefore token rest := by
  -- Each kind of token has its lemma, and asks for no more than its kind is parted by.
  cases plain with
  | number digits nonempty => exact readBefore_number digits nonempty parted
  | string unquoted => exact readBefore_string unquoted rest
  | boolean b =>
    have ended := Separated.ended parted
    cases b
    · exact readBefore_boolean (by decide) (by decide) ended
    · exact readBefore_boolean (by decide) (by decide) ended
  | operator op => exact readBefore_operator op parted
  | opening | closing | comma => exact ⟨_, [], rfl, by decide, rfl⟩
  | cell isName other reference => exact readBefore_cell isName other reference parted
  | area isName other capitals => exact readBefore_area isName other capitals (Separated.ended parted)
  | function isName other =>
    -- The name of a function is parted by a parenthesis, which begins what follows.
    obtain ⟨cs, rfl⟩ := List.head?_eq_some_iff.mp parted
    exact readBefore_function isName other cs

/-- At the end of a text every token but the name of a function is parted. -/
theorem parted_nil (other : token.kind ≠ .function) : token.Parted [] := by
  -- There is no first character to ask about.
  unfold Parted
  split <;> simp_all [Separated]

/-- In front of a blank every token but the name of a function is parted. -/
theorem parted_space (other : token.kind ≠ .function) (rest : List Char) :
    token.Parted (' ' :: rest) := by
  -- A blank ends whatever a token is made of.
  have blank : Separated (' ' :: rest) := by
    rintro c ⟨⟩
    decide
  unfold Parted
  split <;> simp_all

/-- Two tokens that stay apart even without a blank between them. -/
def Apart (token next : Token) : Prop := ∀ rest, token.Parted (next.written ++ rest)

/--
Tokens with blanks between them, as many as there shall be behind each; there are none between the name
of a function and its parenthesis.
-/
def spaced (gap : Nat → Nat) : List Token → List Char
  -- The gaps are counted from the end of the text.
  | [] => []
  | [token] => token.written
  | token :: next :: others =>
    let blanks := if token.kind = .function ∧ next.kind = .opening then 0 else gap others.length
    token.written ++ (List.replicate blanks ' ' ++ spaced gap (next :: others))

/-- A formula of some tokens, with blanks in front of them and between them. -/
def formula (gap : Nat → Nat) (ts : List Token) : String :=
  -- The equals sign is no token.
  String.ofList ('=' :: (List.replicate (gap ts.length) ' ' ++ spaced gap ts))

/-- Tokens begin with the first of them. -/
theorem spaced_cons (gap : Nat → Nat) (token : Token) (ts : List Token) :
    ∃ rest, spaced gap (token :: ts) = token.written ++ rest := by
  cases ts with
  | nil => exact ⟨[], (List.append_nil _).symm⟩
  | cons => exact ⟨_, rfl⟩

/-- With or without blanks a token is parted from what follows, if it is so without them. -/
theorem Apart.parted (apart : Apart token next) (blanks : Nat)
    (none : token.kind = .function → blanks = 0) :
    token.Parted (List.replicate blanks ' ' ++ spaced gap (next :: ts)) := by
  -- With a blank the token is parted by it, and without one by the next token.
  cases blanks with
  | zero =>
    obtain ⟨rest, begins⟩ := spaced_cons gap next ts
    rw [begins]
    exact apart rest
  | succ blanks => exact parted_space (fun function => nomatch none function) _

/-- A character that plain tokens of a kind begin with. -/
def leads : TokenKind → Char → Bool
  -- Truth values and references are names too.
  | .number, c => Text.isDigit c
  | .string, c => c = '"'
  | .operator, c => "+-*/^&=<>".toList.contains c
  | .opening, c => c = '('
  | .closing, c => c = ')'
  | .comma, c => c = ','
  | .boolean, c | .cell, c | .area, c | .function, c => isCapital c

/-- The first character of a plain token is one of its kind. -/
theorem Plain.leads (plain : Plain token) :
    ∃ c cs, token.written = c :: cs ∧ Token.leads token.kind c = true := by
  -- Names are not empty, and all their characters are capitals.
  have named : ∀ {name : List Char}, isName name = true →
      ∃ c cs, name = c :: cs ∧ isCapital c = true := by
    intro name isName
    cases name with
    | nil => cases isName
    | cons c cs => exact ⟨c, cs, rfl, isCapital_of_isName isName c List.mem_cons_self⟩
  cases plain with
  | number digits nonempty =>
    obtain ⟨c, cs, rfl⟩ := List.exists_cons_of_ne_nil nonempty
    exact ⟨c, cs, String.toList_ofList, digits c List.mem_cons_self⟩
  | string | opening | closing | comma => exact ⟨_, _, rfl, rfl⟩
  | boolean b => cases b <;> exact ⟨_, _, rfl, by decide⟩
  | operator op => cases op <;> exact ⟨_, _, rfl, by decide⟩
  | cell isName | function isName =>
    obtain ⟨c, cs, rfl, capital⟩ := named isName
    exact ⟨c, cs, String.toList_ofList, capital⟩
  | @area name far isName =>
    obtain ⟨c, cs, rfl, capital⟩ := named isName
    exact ⟨c, cs ++ ':' :: far, by simp [written], capital⟩

/-- The name of a function is parted in front of an opening parenthesis only. -/
theorem Apart.kind_eq (apart : Apart token next) (plain : Plain next)
    (function : token.kind = .function) : next.kind = .opening := by
  obtain ⟨c, cs, written, leads⟩ := plain.leads
  -- In front of nothing else the name would not be parted.
  have parenthesis : c = '(' := by simpa [Parted, function, written] using apart []
  subst parenthesis
  -- Among the characters that tokens begin with the parenthesis stands for itself alone.
  revert leads
  cases next.kind <;> decide +kernel

/-- Plain tokens that stay apart are read back from a text, whatever blanks stand between them. -/
theorem scan_spaced (plain : ∀ token ∈ ts, Plain token) (apart : ts.IsChain Apart)
    (last : ∀ token ∈ ts.getLast?, token.kind ≠ .function) : scan (spaced gap ts) = .ok ts := by
  -- The induction is along the tokens, each of which is read back before the others.
  induction ts with
  | nil => exact scan_nil
  | cons token ts ih =>
    have first := plain token List.mem_cons_self
    cases ts with
    | nil =>
      -- The last token has nothing behind it.
      have read := first.readBefore (parted_nil (last token rfl))
      have scanned := scan_of_readBefore read
      rw [List.append_nil, scan_nil] at scanned
      exact scanned
    | cons next others =>
      rw [List.isChain_cons_cons] at apart
      -- Once the blanks are passed over, the other tokens are read back by induction.
      have others := ih (fun t member => plain t (List.mem_cons_of_mem _ member)) apart.2 last
      rw [spaced, scan_of_readBefore (first.readBefore (apart.1.parted _ ?_)), scan_spaces, others]
      · rfl
      · intro function
        rw [if_pos ⟨function, apart.1.kind_eq (plain next (by simp)) function⟩]

/-- A text that ends with a character that is no blank. -/
def EndsFilled (cs : List Char) : Prop := ∃ before c, cs = before ++ [c] ∧ Text.isBlank c = false

/-- Whatever stands in front of a text, the end is the same. -/
theorem EndsFilled.behind (filled : EndsFilled cs) (ds : List Char) : EndsFilled (ds ++ cs) := by
  obtain ⟨before, c, rfl, filled⟩ := filled
  exact ⟨ds ++ before, c, (List.append_assoc ..).symm, filled⟩

/-- A text of filled characters ends with one. -/
theorem endsFilled_of_all (nonempty : cs ≠ []) (all : ∀ c ∈ cs, Text.isBlank c = false) :
    EndsFilled cs := by
  -- The text is split in front of its last character.
  have split := List.dropLast_concat_getLast nonempty
  exact ⟨_, _, split.symm, all _ (List.getLast_mem nonempty)⟩

/-- Names end with a character that is no blank. -/
theorem endsFilled_of_isName (isName : isName name = true) : EndsFilled name := by
  refine endsFilled_of_all ?_ fun c member => ?_
  · rintro rfl
    cases isName
  · exact isBlank_of_isWord (of_isCapital (isCapital_of_isName isName c member)).1

/-- A plain token ends with a character that is no blank. -/
theorem Plain.endsFilled (plain : Plain token) : EndsFilled token.written := by
  cases plain with
  | number digits nonempty =>
    refine endsFilled_of_all (by simpa [written] using nonempty) fun c member => ?_
    exact Text.isBlank_of_isDigit (digits c (by simpa [written] using member))
  | @string s => exact ⟨'"' :: s.toList, '"', rfl, by decide⟩
  | boolean b => cases b <;> exact endsFilled_of_isName (by decide)
  | operator op =>
    cases op <;> exact endsFilled_of_all (by decide) (List.all_iff_forall_prop.mp (by decide))
  | opening | closing | comma =>
    exact endsFilled_of_all (by decide) (List.all_iff_forall_prop.mp (by decide))
  | cell isName | function isName => simpa [written] using endsFilled_of_isName isName
  | @area name far isName other capitals =>
    -- An area is its two ends with a colon between them.
    have joined : (String.ofList name ++ ":" ++ String.ofList far).toList = name ++ ':' :: far := by
      simp
    rw [written, joined]
    -- The far end may be empty, and then the colon is the last character.
    have behind : EndsFilled (':' :: far) := by
      refine endsFilled_of_all (List.cons_ne_nil _ _) fun c member => ?_
      rcases List.mem_cons.mp member with rfl | inside
      · decide
      · exact isBlank_of_isWord (of_isCapital (capitals c inside)).1
    exact behind.behind name

/-- Tokens end with the last of them. -/
theorem endsFilled_spaced (filled : ∀ token ∈ ts, EndsFilled token.written) (nonempty : ts ≠ [])
    (gap : Nat → Nat) : EndsFilled (spaced gap ts) := by
  induction ts with
  | nil => exact absurd rfl nonempty
  | cons token ts ih =>
    cases ts with
    -- The last token ends the text, and the others only stand in front of it.
    | nil => exact filled token List.mem_cons_self
    | cons next others =>
      have others :=
        ih (fun t member => filled t (List.mem_cons_of_mem _ member)) (List.cons_ne_nil _ _)
      exact (others.behind _).behind _

/-- Nothing is cut off a text that begins and ends with characters that are no blanks. -/
theorem trim_of_endsFilled (first : Text.isBlank c = false) (filled : EndsFilled cs) :
    Text.trim (c :: cs) = c :: cs := by
  obtain ⟨before, d, rfl, last⟩ := filled
  -- Cutting blanks off looks at both ends alone.
  simp [Text.trim, Text.trimBy, first, last]

/-- Only the equals sign is taken off in front of tokens. -/
theorem body_formula (plain : ∀ token ∈ ts, Plain token) (nonempty : ts ≠ []) (gap : Nat → Nat) :
    body (formula gap ts) = List.replicate (gap ts.length) ' ' ++ spaced gap ts := by
  -- Formulas are cut before they are read, and both the equals sign and the last token are filled.
  have ends := endsFilled_spaced (fun token member => (plain token member).endsFilled) nonempty gap
  have filled := ends.behind (List.replicate (gap ts.length) ' ')
  rw [body, formula, String.toList_ofList, trim_of_endsFilled (by decide) filled]
  rfl

/-- Plain tokens that stay apart are read back from a formula. -/
theorem ofFormula_formula (plain : ∀ token ∈ ts, Plain token) (nonempty : ts ≠ [])
    (apart : ts.IsChain Apart) (last : ∀ token ∈ ts.getLast?, token.kind ≠ .function)
    (gap : Nat → Nat) : Token.ofFormula (formula gap ts) = .ok ts := by
  rw [Token.ofFormula, body_formula plain nonempty, scan_spaces, scan_spaced plain apart last]

end Spreadsheet.Token
