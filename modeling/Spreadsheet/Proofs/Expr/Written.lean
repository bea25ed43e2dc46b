import Spreadsheet.Proofs.Expr.Accepted
import Spreadsheet.Proofs.Expr.Joined
import Spreadsheet.Proofs.Number.Literal
import Spreadsheet.Value.Convert

/-!
Expressions written out as formulas. Parentheses stand where the ladder of the grammar asks for them, and
wherever else they are added; with any blanks between the tokens, the formula is read back as the
expression.
-/

namespace Spreadsheet.Expr

/-- The level at which an operator stands on the ladder. -/
def rung (op : BinaryOp) : Nat :=
  -- The first level that has it is the only one.
  ladder.findIdx fun level => level.any fun entry => entry.2 = op

/-- The symbol under which a list of symbols has an operator. -/
def spelling {Op : Type} [DecidableEq Op] (listed : List (String × Op)) (op : Op) : String :=
  -- All operators are listed.
  ((listed.find? fun entry => entry.2 = op).map Prod.fst).getD ""

/-- Every operator stands on the ladder at its level. -/
theorem spelling_mem_rungs (op : BinaryOp) : (spelling ladder.flatten op, op) ∈ rungs (rung op) := by
  cases op <;> decide

/-- Every sign is listed. -/
theorem spelling_mem_signs (op : UnaryOp) : (spelling signs op, op) ∈ signs := by
  cases op <;> decide

/-- How tightly an expression holds together as it is written without parentheses around it. -/
def level : Expr → Nat
  -- Whatever is no operation stands for itself.
  | unary _ _ => signLevel
  | binary op _ _ => rung op
  | _ => plainLevel

/-- Some tokens within pairs of parentheses. -/
def enclosed : Nat → List Token → List Token
  -- Each pair goes around all of what is inside.
  | 0, ts => ts
  | pairs + 1, ts => ⟨.opening, "("⟩ :: (enclosed pairs ts ++ [⟨.closing, ")"⟩])

/-- How many pairs of parentheses to add at which part of an expression, by the way to the part. -/
abbrev Redundant := List Nat → Nat

/-- The parentheses to add within a part of an expression. -/
def Redundant.within (extra : Redundant) (part : Nat) : Redundant :=
  -- The way to a part of the part goes on from it.
  fun way => extra (part :: way)

/--
The pairs of parentheses around an expression where a level is asked for: one if it is looser, and
those that are added.
-/
def pairs (extra : Redundant) (place : Nat) (e : Expr) : Nat :=
  -- What is added here has no way to go.
  extra [] + if e.level < place then 1 else 0

/-- The text of a number; a number without a text has none. -/
def numeral (n : Number) : String :=
  -- Only a number that is too long to write has no text.
  n.text.toOption.getD ""

mutual
/-- The tokens of an expression without parentheses around it. -/
def bare (extra : Redundant) : Expr → List Token
  -- Left operands may be of the level of the operator, right operands have to be tighter.
  | number n => [⟨.number, numeral n⟩]
  | text s => [⟨.string, s⟩]
  | truth b => [⟨.boolean, if b then "TRUE" else "FALSE"⟩]
  | cell p => [⟨.cell, p.id⟩]
  | area a => [⟨.area, a.start.id ++ ":" ++ a.finish.id⟩]
  | unary op e =>
    ⟨.operator, spelling signs op⟩ ::
      enclosed (pairs (extra.within 0) signLevel e) (bare (extra.within 0) e)
  | binary op left right =>
    enclosed (pairs (extra.within 0) (rung op) left) (bare (extra.within 0) left) ++
      ⟨.operator, spelling ladder.flatten op⟩ ::
        enclosed (pairs (extra.within 1) (rung op + 1) right) (bare (extra.within 1) right)
  | call name es =>
    ⟨.function, name⟩ :: ⟨.opening, "("⟩ :: (bareArguments extra 0 es ++ [⟨.closing, ")"⟩])

/-- The tokens of arguments, with commas between them; `part` counts those in front. -/
def bareArguments (extra : Redundant) (part : Nat) : List Expr → List Token
  -- There is no comma behind the last one.
  | [] => []
  | [e] => enclosed (pairs (extra.within part) 0 e) (bare (extra.within part) e)
  | e :: next :: others =>
    enclosed (pairs (extra.within part) 0 e) (bare (extra.within part) e) ++
      ⟨.comma, ","⟩ :: bareArguments extra (part + 1) (next :: others)
end

/-- The tokens of an expression, parentheses around it included. -/
def tokens (extra : Redundant) (e : Expr) : List Token :=
  -- Around the whole there are only those that are added.
  enclosed (pairs extra 0 e) (bare extra e)

/-- An expression as a formula, with parentheses and blanks added. -/
def written (extra : Redundant) (gap : Nat → Nat) (e : Expr) : String :=
  -- Where blanks may stand is a matter of the tokens.
  Token.formula gap (e.tokens extra)

/-- The name of a function as formulas can have it: in upper case, and no truth value. -/
def isFunctionName (name : String) : Bool :=
  -- Names of cells are names of functions too.
  Token.isName name.toList && !Token.isTruth name.toList

mutual
/-- An expression that formulas can say: its literals and references can be read, and its names. -/
def Writable : Expr → Prop
  -- Numbers are without a sign, and texts without a quote.
  | number n => ∃ k : Nat, n = .whole k ∧ k < 10 ^ digitLimit
  | text s => '"' ∉ s.toList
  | truth _ => True
  | cell p => p.Named
  | area a => a.start.Named ∧ a.finish.Named
  | unary _ e => Writable e
  | binary _ left right => Writable left ∧ Writable right
  | call name es => isFunctionName name = true ∧ AllWritable es

/-- Expressions that formulas can say. -/
def AllWritable : List Expr → Prop
  -- One after the other.
  | [] => True
  | e :: es => Writable e ∧ AllWritable es
end

/-- No expression is tighter than what stands for itself. -/
theorem level_le (e : Expr) : e.level ≤ plainLevel := by
  cases e with
  | binary op =>
    exact ((level_lt_of_mem_rungs (spelling_mem_rungs op)).trans (Nat.lt_succ_self _)).le
  | unary => exact Nat.le_succ _
  | _ => exact le_refl _

variable {tight : Nat} {ts : List Token} {e : Expr}

/-- In parentheses an expression is derived at every level, without them where it is tight enough. -/
theorem Derives.enclosed (derives : Derives tight ts e) (within : tight ≤ plainLevel) (pairs : Nat)
    {level : Nat} (asked : level ≤ plainLevel) (bare : pairs = 0 → level ≤ tight) :
    Derives level (enclosed pairs ts) e := by
  -- The induction is on the pairs, inside which any level may be asked for.
  induction pairs generalizing level with
  | zero => exact derives.loosen (bare rfl) within
  | succ pairs ih =>
    have inside := ih (Nat.zero_le _) fun _ => Nat.zero_le _
    exact (Derives.parenthesized "(" ")" inside).loosen asked (le_refl _)

/-- Where a level is asked for, there are parentheses unless the expression is tight enough. -/
theorem Derives.placed (derives : Derives e.level ts e) {place : Nat} (asked : place ≤ plainLevel)
    (extra : Redundant) : Derives place (Expr.enclosed (pairs extra place e) ts) e := by
  refine derives.enclosed (level_le e) _ asked fun none => ?_
  -- Without parentheses nothing looser than what is asked for is left.
  rw [pairs] at none
  split at none <;> omega

/-- A whole number that is not too long has its digits as text. -/
theorem numeral_whole {k : Nat} (short : k < 10 ^ digitLimit) :
    numeral (.whole k) = String.ofList (Text.natDigits k) := by
  have unsigned : ¬(k : Int) < 0 := by omega
  -- The limit of digits is passed by no number that is short enough.
  have written : (Number.whole k).text = .ok (Text.ofInt k) := by
    simp only [Number.text, Number.normalize, Nat.pow_eq, Int.natAbs_natCast, not_le.mpr short,
      if_false]
  rw [numeral, written, Text.ofInt, Text.intDigits, if_neg unsigned]
  rfl

/-- The digits of a whole number are read as the number. -/
theorem literalNumber_natDigits {k : Nat} (short : k < 10 ^ digitLimit) :
    literalNumber (String.ofList (Text.natDigits k)) = .ok (.whole k) := by
  have digits : ∀ c ∈ Text.natDigits k, Text.isDecimal c = true :=
    fun c member => Text.isDecimal_of_mem_natDigits member
  -- The point is what would make the number a double.
  have pointless : (Text.natDigits k).contains '.' = false := by
    by_contra point
    rw [Bool.not_eq_false, List.contains_iff_mem] at point
    exact absurd (digits '.' point) (by decide +kernel)
  have read := Literal.whole_of_digits digits (Text.natDigits_ne_nil k)
    (Text.length_natDigits_le (by decide) short)
  rw [literalNumber, String.toList_ofList, pointless, if_neg (by decide), read,
    Literal.digitsValue_natDigits]
  rfl

mutual
/-- The tokens of an expression derive it, at the level at which it is written. -/
theorem bare_derives (extra : Redundant) (e : Expr) (writable : e.Writable) :
    Derives e.level (bare extra e) e := by
  -- The cases follow the expression.
  match e with
  | .number n =>
    obtain ⟨k, rfl, short⟩ := writable
    rw [bare, numeral_whole short]
    exact .number (literalNumber_natDigits short)
  | .text s => exact .text s
  | .truth b => cases b <;> exact .truth _
  | .cell p => exact .cell (Position.ofText_eq_ok.mpr (Position.ofText?_id writable))
  | .area a =>
    exact .area (Position.ofText_eq_ok.mpr (Position.ofText?_id writable.1))
      (Position.ofText_eq_ok.mpr (Position.ofText?_id writable.2))
  | .unary op e =>
    exact .unary (spelling_mem_signs op) ((bare_derives _ e writable).placed (Nat.le_succ _) _)
  | .binary op left right =>
    have on := spelling_mem_rungs op
    have operators : rung op + 1 ≤ plainLevel :=
      (level_lt_of_mem_rungs on).trans (Nat.lt_succ_self _)
    exact .binary on ((bare_derives _ left writable.1).placed (Nat.le_of_succ_le operators) _)
      ((bare_derives _ right writable.2).placed operators _)
  | .call name es =>
    rw [bare]
    cases es with
    | nil => exact .constant name "(" ")"
    | cons => exact .call name "(" ")" (bareArguments_lists extra 0 _ nofun writable.2)

/-- The tokens of arguments derive them. -/
theorem bareArguments_lists (extra : Redundant) (part : Nat) (es : List Expr) (some : es ≠ [])
    (writable : AllWritable es) : Lists (bareArguments extra part es) es := by
  -- The cases follow the list of arguments.
  match es with
  | [] => exact absurd rfl some
  | [e] => exact .single ((bare_derives _ e writable.1).placed (Nat.zero_le _) _)
  | e :: next :: others =>
    exact .cons "," ((bare_derives _ e writable.1).placed (Nat.zero_le _) _)
      (bareArguments_lists extra (part + 1) (next :: others) nofun writable.2)
end

/-- The id of a cell of a sheet is a name of the form of a reference. -/
theorem id_isName {p : Position} (on : p.OnSheet) : Token.isName p.id.toList = true ∧
    ¬Token.isTruth p.id.toList ∧ Position.isReference p.id = true := by
  -- Letters of columns are capitals, and digits of rows are digits.
  have letters : ∀ c ∈ p.idLetters, c.isUpper = true := by
    intro c member
    obtain ⟨k, small, rfl⟩ := Column.letter_of_mem_letters member
    interval_cases k <;> rfl
  have digits := (Position.parts_id on).allDigits
  refine ⟨?_, ?_, by simp [Position.isReference, Position.parts?_id on]⟩
  · obtain ⟨c, cs, shape⟩ := List.exists_cons_of_ne_nil (Position.parts_id on).someLetter
    rw [Position.id_toList on, shape, List.cons_append, Token.isName, letters c (by simp [shape]),
      Bool.true_and, List.all_eq_true]
    intro d member
    rcases List.mem_append.mp member with letter | digit
    · simp [Token.isCapital, letters d (by simp [shape, letter])]
    · simp [Token.isCapital, digits d digit]
  · -- No digit stands in the names of the truth values.
    obtain ⟨d, ds, shape⟩ := List.exists_cons_of_ne_nil (Position.parts_id on).someDigit
    have digit : d.isDigit = true := digits d (by simp [shape])
    have inside : d ∈ p.id.toList := by simp [Position.id_toList on, shape]
    have undigited : ∀ c ∈ "TRUE".toList ++ "FALSE".toList, c.isDigit = false :=
      List.all_iff_forall_prop.mp (by decide)
    have other : d ∉ "TRUE".toList ++ "FALSE".toList := fun member => by
      simp [undigited d member] at digit
    intro truth
    simp only [Token.isTruth, Bool.or_eq_true, decide_eq_true_eq] at truth
    rcases truth with same | same
    · exact other (List.mem_append_left _ (same ▸ inside))
    · exact other (List.mem_append_right _ (same ▸ inside))

/-- Parentheses around plain tokens are plain. -/
theorem enclosed_plain (plain : ∀ token ∈ ts, token.Plain) (pairs : Nat) :
    ∀ token ∈ enclosed pairs ts, token.Plain := by
  -- The induction is on the pairs, each of which adds a token on either side.
  induction pairs with
  | zero => exact plain
  | succ pairs ih =>
    rw [enclosed, List.forall_mem_cons, List.forall_mem_append, List.forall_mem_singleton]
    exact ⟨.opening, ih, .closing⟩

mutual
/-- The tokens of an expression that formulas can say are plain. -/
theorem bare_plain (extra : Redundant) (e : Expr) (writable : e.Writable) :
    ∀ token ∈ bare extra e, token.Plain := by
  -- The cases follow the expression, as each kind of token is plain for a reason of its own.
  match e with
  | .number n =>
    obtain ⟨k, rfl, short⟩ := writable
    have digits : ∀ c ∈ Text.natDigits k, Text.isDigit c = true := fun c member => by
      simp [Text.isDigit, Text.isDecimal_of_mem_natDigits member]
    rw [bare, numeral_whole short, List.forall_mem_singleton]
    exact .number digits (Text.natDigits_ne_nil k)
  | .text s =>
    rw [bare, List.forall_mem_singleton]
    exact .string writable
  | .truth b =>
    rw [bare, List.forall_mem_singleton]
    exact .boolean b
  | .cell p =>
    obtain ⟨isName, other, reference⟩ := id_isName writable.onSheet
    rw [bare, List.forall_mem_singleton, ← String.ofList_toList (s := p.id)]
    exact .cell isName other (String.ofList_toList ▸ reference)
  | .area a =>
    obtain ⟨isName, other, -⟩ := id_isName writable.1.onSheet
    have far := Token.isCapital_of_isName (id_isName writable.2.onSheet).1
    rw [bare, List.forall_mem_singleton, ← String.ofList_toList (s := a.start.id),
      ← String.ofList_toList (s := a.finish.id)]
    exact .area isName other far
  | .unary op e =>
    rw [bare, List.forall_mem_cons]
    have sign : (⟨.operator, spelling signs op⟩ : Token).Plain := by
      cases op
      · exact .operator .add
      · exact .operator .sub
    exact ⟨sign, enclosed_plain (bare_plain _ e writable) _⟩
  | .binary op left right =>
    rw [bare, List.forall_mem_append, List.forall_mem_cons, (mem_rungs.mp (spelling_mem_rungs op)).1]
    exact ⟨enclosed_plain (bare_plain _ left writable.1) _, .operator op,
      enclosed_plain (bare_plain _ right writable.2) _⟩
  | .call name es =>
    obtain ⟨named, arguments⟩ := writable
    obtain ⟨isName, other⟩ : Token.isName name.toList = true ∧ ¬Token.isTruth name.toList := by
      simpa [isFunctionName] using named
    rw [bare, List.forall_mem_cons, List.forall_mem_cons, List.forall_mem_append,
      List.forall_mem_singleton, ← String.ofList_toList (s := name)]
    exact ⟨.function isName other, .opening, bareArguments_plain extra 0 es arguments, .closing⟩

/-- The tokens of arguments that formulas can say are plain. -/
theorem bareArguments_plain (extra : Redundant) (part : Nat) (es : List Expr)
    (writable : AllWritable es) : ∀ token ∈ bareArguments extra part es, token.Plain := by
  -- The cases follow the list of arguments.
  match es with
  | [] => exact nofun
  | [e] => exact enclosed_plain (bare_plain _ e writable.1) _
  | e :: next :: others =>
    rw [bareArguments, List.forall_mem_append, List.forall_mem_cons]
    exact ⟨enclosed_plain (bare_plain _ e writable.1) _, .comma,
      bareArguments_plain extra (part + 1) (next :: others) writable.2⟩
end

/--
An expression that is written as a formula is read back, whatever parentheses are added to those that
its levels ask for, and whatever blanks stand between its tokens.
-/
theorem ofFormula_written (writable : e.Writable) (extra : Redundant) (gap : Nat → Nat) :
    ofFormula (e.written extra gap) = .ok e := by
  have derives : Derives 0 (e.tokens extra) e :=
    (bare_derives extra e writable).placed (Nat.zero_le _) extra
  have plain : ∀ token ∈ e.tokens extra, token.Plain := enclosed_plain (bare_plain extra e writable) _
  -- Tokens that the grammar puts next to each other stay apart.
  obtain ⟨adjacent, ends⟩ := derives.joined
  have apart : (e.tokens extra).IsChain Token.Apart :=
    adjacent.imp_of_mem_imp fun _ next _ member behind => behind.apart (plain next member)
  have last : ∀ token ∈ (e.tokens extra).getLast?, token.kind ≠ .function := by
    intro token member function
    exact ends token member (by simp [function])
  obtain ⟨token, rest, shape, -⟩ := derives.begins
  have scanned := Token.ofFormula_formula plain (by simp [shape]) apart last gap
  rw [ofFormula, written, scanned]
  exact derives.ofTokens

/--
A sum behind a sign and a difference behind a minus need their parentheses, which the levels spare all
other operations; a pair around the whole and blanks change nothing.
-/
theorem ofFormula_written_padded :
    let number (k : Nat) : Expr := .number (.whole k)
    let product : Expr := .binary .mul (.unary .minus (.binary .add (number 1) (number 2)))
      (.binary .pow (.cell ⟨0, 0⟩) (number 4))
    let difference : Expr := .binary .sub (.binary .add product (number 5))
      (.binary .sub (number 3) (number 1))
    let total : Expr := .call "SUM" [.area ⟨⟨1, 0⟩, ⟨2, 2⟩⟩, .text "x"]
    let e : Expr := .binary .lt (.binary .concat difference total) (.truth true)
    e.Writable ∧
      ofFormula "=-(1+2)*A1^4+5-(3-1)&SUM(B1:C3,\"x\")<TRUE" = .ok e ∧
      ofFormula "= ( - ( 1 + 2 ) * A1 ^ 4 + 5 - ( 3 - 1 ) & SUM( B1:C3 , \"x\" ) < TRUE )" = .ok e := by
  intro number product difference total e
  -- Everything that is written here is far below the limits of length.
  have short : ∀ k < 100, k < 10 ^ digitLimit := fun k small => small.trans (by decide +kernel)
  have named : ∀ column row : Nat, column < 99 → row < 99 → Position.Named ⟨column, row⟩ := by
    intro column row left top
    refine ⟨⟨⟨by simp, by simp [Column.count]; omega⟩, by simp⟩, short _ (by simp; omega)⟩
  have digit (k : Nat) (small : k < 10) : (number k).Writable := ⟨k, rfl, short k (by omega)⟩
  have operands : product.Writable :=
    ⟨⟨digit 1 (by decide), digit 2 (by decide)⟩, named 0 0 (by decide) (by decide),
      digit 4 (by decide)⟩
  have differences : difference.Writable :=
    ⟨⟨operands, digit 5 (by decide)⟩, digit 3 (by decide), digit 1 (by decide)⟩
  have area : Writable (.area ⟨⟨1, 0⟩, ⟨2, 2⟩⟩) :=
    ⟨named 1 0 (by decide) (by decide), named 2 2 (by decide) (by decide)⟩
  have unquoted : Writable (.text "x") := show '"' ∉ "x".toList by decide
  have arguments : AllWritable [.area ⟨⟨1, 0⟩, ⟨2, 2⟩⟩, .text "x"] := ⟨area, unquoted, trivial⟩
  have writable : e.Writable := ⟨⟨differences, by decide, arguments⟩, trivial⟩
  have bare : e.written (fun _ => 0) (fun _ => 0) =
      "=-(1+2)*A1^4+5-(3-1)&SUM(B1:C3,\"x\")<TRUE" := by
    decide +kernel
  have padded : e.written (fun way => if way = [] then 1 else 0) (fun _ => 1) =
      "= ( - ( 1 + 2 ) * A1 ^ 4 + 5 - ( 3 - 1 ) & SUM( B1:C3 , \"x\" ) < TRUE )" := by
    decide +kernel
  exact ⟨writable, bare ▸ ofFormula_written writable _ _, padded ▸ ofFormula_written writable _ _⟩

end Spreadsheet.Expr
