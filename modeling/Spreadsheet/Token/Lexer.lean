import Spreadsheet.Position
import Spreadsheet.Text.Blank
import Spreadsheet.Text.Digit
import Spreadsheet.Token

/-! Formula text read into tokens. -/

namespace Spreadsheet.Token

/-- A character of a name. -/
def isWord (c : Char) : Bool :=
  -- Names are written in ASCII.
  c.isAlphanum || c = '_'

/-- The name at the start of a text. -/
def word (cs : List Char) : List Char := cs.takeWhile isWord

/-- What follows the name at the start of a text. -/
def afterWord (cs : List Char) : List Char := cs.dropWhile isWord

/-- A name in upper case. -/
def upperWord (cs : List Char) : String :=
  -- Names are ASCII, and so is their upper case.
  String.ofList (cs.map Char.toUpper)

/--
The number at the start of a text, with what follows it. A point belongs to the number even without
digits behind it; `pointed` tells that one was read, and `read` holds what was read, last first.
-/
def number (pointed : Bool) (read : List Char) :
    List Char → Except FormulaError (List Char × List Char)
  -- A second point spoils the number.
  | [] => .ok (read.reverse, [])
  | c :: rest =>
    if Text.isDigit c then number pointed (c :: read) rest
    else if c = '.' then
      if pointed then .error (.secondPoint (String.ofList (read.reverse ++ ['.'])))
      else number true ('.' :: read) rest
    else .ok (read.reverse, c :: rest)

/-- The text of a number without a point at its end. -/
def withoutFinalPoint (cs : List Char) : String :=
  -- The number has one point at most.
  String.ofList (if cs.getLast? = some '.' then cs.dropLast else cs)

/-- The token that starts with a name, and what follows it. -/
def named (cs : List Char) : Token × List Char :=
  -- What follows the name tells a function from an area and from a cell.
  let name := word cs
  let rest := afterWord cs
  let upper := upperWord name
  if upper = "TRUE" ∨ upper = "FALSE" then (⟨.boolean, upper⟩, rest)
  else
    match rest with
    | '(' :: _ => (⟨.function, upper⟩, rest)
    | ':' :: far => (⟨.area, upper ++ ":" ++ upperWord (word far)⟩, afterWord far)
    | _ =>
      if Position.isReference (String.ofList name) then (⟨.cell, upper⟩, rest)
      else (⟨.function, upper⟩, rest)

/-- The operator at the start of a text, and what follows it. -/
def operator? : List Char → Option (Token × List Char)
  -- Two characters are one operator wherever they can be.
  | '<' :: '=' :: rest => some (⟨.operator, "<="⟩, rest)
  | '<' :: '>' :: rest => some (⟨.operator, "<>"⟩, rest)
  | '>' :: '=' :: rest => some (⟨.operator, ">="⟩, rest)
  | c :: rest =>
    if "+-*/^&=<>".toList.contains c then some (⟨.operator, String.ofList [c]⟩, rest) else none
  | [] => none

/-- A text that a number can start: a digit, or a point before a digit. -/
def startsNumber : List Char → Bool
  -- The point alone starts nothing.
  | '.' :: d :: _ => Text.isDigit d
  | c :: _ => Text.isDigit c
  | [] => false

/-- The token at the start of a text that does not start with a blank, and what follows it. -/
def next (c : Char) (rest : List Char) : Except FormulaError (Token × List Char) :=
  -- A text literal runs to the next quote, or to the end without one.
  if c = '"' then
    .ok (⟨.string, String.ofList (rest.takeWhile (· ≠ '"'))⟩, (rest.dropWhile (· ≠ '"')).drop 1)
  else if startsNumber (c :: rest) then
    (number false [] (c :: rest)).map fun (read, rest) => (⟨.number, withoutFinalPoint read⟩, rest)
  else if c.isAlpha then .ok (named (c :: rest))
  else
    match operator? (c :: rest) with
    | some found => .ok found
    | none =>
      if c = '(' then .ok (⟨.opening, "("⟩, rest)
      else if c = ')' then .ok (⟨.closing, ")"⟩, rest)
      else if c = ',' then .ok (⟨.comma, ","⟩, rest)
      else .error (.unexpectedCharacter c)

/-- A number leaves no more of the text than it was given. -/
theorem number_rest_length {pointed : Bool} {read cs digits rest : List Char}
    (found : number pointed read cs = .ok (digits, rest)) : rest.length ≤ cs.length := by
  -- Every step either stops or goes on with a shorter text.
  induction cs generalizing pointed read with
  | nil => simp only [number, Except.ok.injEq, Prod.mk.injEq] at found; simp [← found.2]
  | cons c cs ih =>
    simp only [number] at found
    split at found
    · exact Nat.le_succ_of_le (ih found)
    · split at found
      · split at found
        · exact nomatch found
        · exact Nat.le_succ_of_le (ih found)
      · simp only [Except.ok.injEq, Prod.mk.injEq] at found
        simp [← found.2]

/-- A number takes at least one character of a text that it can start. -/
theorem number_rest_lt {c : Char} {cs digits rest : List Char} (starts : startsNumber (c :: cs) = true)
    (found : number false [] (c :: cs) = .ok (digits, rest)) : rest.length < (c :: cs).length := by
  -- The first character is a digit or a point, and both are taken.
  have first : Text.isDigit c = true ∨ c = '.' := by
    unfold startsNumber at starts
    split at starts <;> simp_all
  simp only [number] at found
  rcases first with digit | rfl
  · simp only [digit, ↓reduceIte] at found
    exact Nat.lt_succ_of_le (number_rest_length found)
  · split at found
    · exact Nat.lt_succ_of_le (number_rest_length found)
    · simp only [↓reduceIte, Bool.false_eq_true] at found
      exact Nat.lt_succ_of_le (number_rest_length found)

/-- A name takes at least one character of a text that starts with a letter. -/
theorem named_rest_lt {c : Char} {cs : List Char} (letter : c.isAlpha = true) :
    (named (c :: cs)).2.length < (c :: cs).length := by
  -- The first letter belongs to the name, and an area takes its far end from the rest.
  have inside : isWord c = true := by simp [isWord, Char.isAlphanum, letter]
  have shorter : (afterWord (c :: cs)).length < (c :: cs).length := by
    simp only [afterWord, List.dropWhile_cons_of_pos inside]
    exact Nat.lt_succ_of_le (List.dropWhile_sublist _).length_le
  simp only [named]
  split
  · exact shorter
  · split
    · exact shorter
    · rename_i far rest
      rw [rest] at shorter
      have := (List.dropWhile_sublist isWord (l := far)).length_le
      simp only [List.length_cons] at shorter ⊢
      simp only [afterWord]
      omega
    · split <;> exact shorter

/-- An operator takes at least one character. -/
theorem operator_rest_lt {cs rest : List Char} {token : Token}
    (found : operator? cs = some (token, rest)) : rest.length < cs.length := by
  -- Each case names the rest it leaves.
  unfold operator? at found
  split at found
  · rw [← (Prod.mk.inj (Option.some.inj found)).2]; simp only [List.length_cons]; omega
  · rw [← (Prod.mk.inj (Option.some.inj found)).2]; simp only [List.length_cons]; omega
  · rw [← (Prod.mk.inj (Option.some.inj found)).2]; simp only [List.length_cons]; omega
  · split at found
    · simp only [Option.some.injEq, Prod.mk.injEq] at found; simp [← found.2]
    · exact nomatch found
  · exact nomatch found

/-- Every token takes at least one character. -/
theorem next_rest_lt {c : Char} {cs rest : List Char} {token : Token}
    (found : next c cs = .ok (token, rest)) : rest.length < (c :: cs).length := by
  -- The cases follow the first character.
  unfold next at found
  split at found
  · simp only [Except.ok.injEq, Prod.mk.injEq] at found
    have := (List.dropWhile_sublist (fun d => decide (d ≠ '"')) (l := cs)).length_le
    rw [← found.2, List.length_drop, List.length_cons]
    omega
  · split at found
    · rename_i starts
      cases read : number false [] (c :: cs) with
      | error e => simp [read, Except.map] at found
      | ok result =>
        simp only [read, Except.map, Except.ok.injEq, Prod.mk.injEq] at found
        rw [← found.2]
        exact number_rest_lt starts read
    · split at found
      · rename_i letter
        simp only [Except.ok.injEq] at found
        rw [← (Prod.mk.inj found).2]
        exact named_rest_lt letter
      · split at found
        · rename_i result read
          simp only [Except.ok.injEq] at found
          subst found
          exact operator_rest_lt read
        · split at found
          · simp only [Except.ok.injEq, Prod.mk.injEq] at found; simp [← found.2]
          · split at found
            · simp only [Except.ok.injEq, Prod.mk.injEq] at found; simp [← found.2]
            · split at found
              · simp only [Except.ok.injEq, Prod.mk.injEq] at found; simp [← found.2]
              · exact nomatch found

/-- The tokens of a text, blanks between them left out. -/
def scan (cs : List Char) : Except FormulaError (List Token) :=
  -- Every step leaves a shorter text.
  match cs with
  | [] => .ok []
  | c :: rest =>
    if Text.isBlank c then scan rest
    else
      match found : next c rest with
      | .error e => .error e
      | .ok (token, after) =>
        have := next_rest_lt found
        (scan after).map (token :: ·)
termination_by cs.length
decreasing_by
  · exact Nat.lt_succ_self rest.length
  · assumption

/-- The text of a formula without the blanks around it and the equals sign in front. -/
def body (formula : String) : List Char :=
  -- Only one equals sign belongs to the formula as such.
  match Text.trim formula.toList with
  | '=' :: rest => rest
  | cs => cs

/-- The tokens of a formula. -/
def ofFormula (formula : String) : Except FormulaError (List Token) := scan (body formula)

end Spreadsheet.Token
