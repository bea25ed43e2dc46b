import Mathlib.Data.List.GetD
import Spreadsheet.Expr.Parser
import Spreadsheet.Proofs.Spelling

/-!
The grammar of expressions, with a ladder of its own that lists the operators from the loosest level to
the tightest. A level is a chain of operands of the next level that groups to the left, signs bind
tighter than all operators, and literals, references, calls and parentheses tighter than signs.
-/

namespace Spreadsheet

namespace BinaryOp

/-- Only an operator's own symbol is read as the operator. -/
theorem ofSymbol?_eq_some {s : String} {op : BinaryOp} : ofSymbol? s = some op ↔ s = op.symbol := by
  constructor
  · intro read
    unfold ofSymbol? at read
    -- One case for each symbol, and one for all other texts.
    split at read <;> cases read <;> rfl
  · rintro rfl
    exact ofSymbol?_symbol op

end BinaryOp

namespace UnaryOp

/-- Only an operator's own symbol is read as the operator. -/
theorem ofSymbol?_eq_some {s : String} {op : UnaryOp} : ofSymbol? s = some op ↔ s = op.symbol := by
  constructor
  · intro read
    unfold ofSymbol? at read
    -- One case for each symbol, and one for all other texts.
    split at read <;> cases read <;> rfl
  · rintro rfl
    exact ofSymbol?_symbol op

end UnaryOp

namespace Expr

/-- The part of a text in front of its first colon. -/
def nearEnd (text : String) : String := String.ofList (text.toList.takeWhile (· ≠ ':'))

/-- The part of a text behind its first colon, empty without one. -/
def farEnd (text : String) : String := String.ofList ((text.toList.dropWhile (· ≠ ':')).drop 1)

/-- An area is read from its two ends. -/
theorem literalArea_eq_ok {text : String} {a : Area} : literalArea text = .ok a ↔
    Position.ofText (nearEnd text) = .ok a.start ∧ Position.ofText (farEnd text) = .ok a.finish := by
  have unfolded : literalArea text = do
    let start ← Position.ofText (nearEnd text)
    let finish ← Position.ofText (farEnd text)
    return ⟨start, finish⟩ := rfl
  rw [unfolded, bind_eq_ok_iff]
  constructor
  · rintro ⟨start, near, rest⟩
    -- The first reference is read, and then the second one.
    obtain ⟨finish, far, done⟩ := bind_eq_ok_iff.mp rest
    cases done
    exact ⟨near, far⟩
  · rintro ⟨near, far⟩
    exact ⟨a.start, near, bind_eq_ok_iff.mpr ⟨a.finish, far, rfl⟩⟩

/-- A text with an area is made of the two ends and a colon between them. -/
theorem ends_of_literalArea {text : String} {a : Area} (read : literalArea text = .ok a) :
    text = nearEnd text ++ ":" ++ farEnd text := by
  obtain ⟨-, far⟩ := literalArea_eq_ok.mp read
  -- Without a colon the far end is empty and names nothing.
  have behind : text.toList.dropWhile (· ≠ ':') ≠ [] := by
    intro none
    rw [farEnd, none] at far
    cases far
  obtain ⟨c, rest, shape⟩ := List.exists_cons_of_ne_nil behind
  have colon : c = ':' := by
    have head := List.head?_dropWhile_not (fun c => decide (c ≠ ':')) text.toList
    simpa only [shape, List.head?_cons, decide_eq_false_iff_not, not_not] using head
  subst colon
  have split := List.takeWhile_append_dropWhile (p := (· ≠ ':')) (l := text.toList)
  rw [shape] at split
  simp only [← String.toList_inj, nearEnd, farEnd, String.toList_append, String.toList_ofList, shape,
    List.append_assoc]
  exact split.symm

/-- Two references around a colon are the ends of an area. -/
theorem literalArea_join {near far : String} {p q : Position} (start : Position.ofText near = .ok p)
    (finish : Position.ofText far = .ok q) : literalArea (near ++ ":" ++ far) = .ok ⟨p, q⟩ := by
  -- The first reference has no colon, so the text is cut right behind it.
  have plain : ∀ c ∈ near.toList, decide (c ≠ ':') = true := by
    intro c member
    rw [decide_eq_true_eq]
    rintro rfl
    exact Position.colon_not_mem start member
  refine literalArea_eq_ok.mpr ⟨?_, ?_⟩
  · rw [nearEnd, String.toList_append, String.toList_append, List.append_assoc,
      List.takeWhile_append_of_pos plain]
    simpa using start
  · rw [farEnd, String.toList_append, String.toList_append, List.append_assoc,
      List.dropWhile_append_of_pos plain]
    simpa using finish

/-- The operators between operands with their symbols, level by level. -/
def ladder : List (List (String × BinaryOp)) :=
  -- Comparisons are the loosest level, powers the tightest.
  [[("=", .eq), ("<>", .ne), ("<", .lt), (">", .gt), ("<=", .le), (">=", .ge)],
    [("&", .concat)],
    [("+", .add), ("-", .sub)],
    [("*", .mul), ("/", .div)],
    [("^", .pow)]]

/-- The signs before an operand with their symbols. -/
def signs : List (String × UnaryOp) := [("+", .plus), ("-", .minus)]

/-- The operators of a level with their symbols. -/
def rungs (level : Nat) : List (String × BinaryOp) := ladder.getD level []

/-- The level of signs, above those of the operators between operands. -/
abbrev signLevel : Nat := ladder.length

/-- The level of what stands for itself, above that of signs. -/
abbrev plainLevel : Nat := signLevel + 1

mutual
/-- Some tokens derive an expression of a level. The texts of parentheses are free. -/
inductive Derives : Nat → List Token → Expr → Prop where
  /-- A number that can be read. -/
  | number {text : String} {n : Number} (reads : literalNumber text = .ok n) :
    Derives plainLevel [⟨.number, text⟩] (.number n)
  /-- A text literal. -/
  | text (s : String) : Derives plainLevel [⟨.string, s⟩] (.text s)
  /-- A truth value. -/
  | truth (s : String) : Derives plainLevel [⟨.boolean, s⟩] (.truth (s = "TRUE"))
  /-- A reference to a position that has a name. -/
  | cell {s : String} {p : Position} (reads : Position.ofText s = .ok p) :
    Derives plainLevel [⟨.cell, s⟩] (.cell p)
  /-- An area between two references. -/
  | area {near far : String} {p q : Position} (start : Position.ofText near = .ok p)
      (finish : Position.ofText far = .ok q) :
    Derives plainLevel [⟨.area, near ++ ":" ++ far⟩] (.area ⟨p, q⟩)
  /-- A function without arguments. -/
  | constant (name opening closing : String) :
    Derives plainLevel [⟨.function, name⟩, ⟨.opening, opening⟩, ⟨.closing, closing⟩] (.call name [])
  /-- A function with arguments. -/
  | call (name opening closing : String) {ts : List Token} {es : List Expr} (inside : Lists ts es) :
    Derives plainLevel
      (⟨.function, name⟩ :: ⟨.opening, opening⟩ :: (ts ++ [⟨.closing, closing⟩])) (.call name es)
  /-- Any expression in parentheses. -/
  | parenthesized (opening closing : String) {ts : List Token} {e : Expr} (inside : Derives 0 ts e) :
    Derives plainLevel (⟨.opening, opening⟩ :: (ts ++ [⟨.closing, closing⟩])) e
  /-- A sign and its operand. -/
  | unary {symbol : String} {op : UnaryOp} (sign : (symbol, op) ∈ signs) {ts : List Token} {e : Expr}
      (operand : Derives signLevel ts e) :
    Derives signLevel (⟨.operator, symbol⟩ :: ts) (.unary op e)
  /-- A chain of a level and one more operand of the next level. -/
  | binary {level : Nat} {symbol : String} {op : BinaryOp} (rung : (symbol, op) ∈ rungs level)
      {ts us : List Token} {left right : Expr} (first : Derives level ts left)
      (second : Derives (level + 1) us right) :
    Derives level (ts ++ ⟨.operator, symbol⟩ :: us) (.binary op left right)
  /-- An operand of the next level alone. -/
  | alone {level : Nat} {ts : List Token} {e : Expr} (below : level < plainLevel)
      (one : Derives (level + 1) ts e) : Derives level ts e

/-- Some tokens derive one or more expressions with commas between them. -/
inductive Lists : List Token → List Expr → Prop where
  /-- A single expression. -/
  | single {ts : List Token} {e : Expr} (one : Derives 0 ts e) : Lists ts [e]
  /-- An expression, a comma and further expressions. -/
  | cons (comma : String) {ts us : List Token} {e : Expr} {es : List Expr} (one : Derives 0 ts e)
      (others : Lists us es) : Lists (ts ++ ⟨.comma, comma⟩ :: us) (e :: es)
end

/-- The operators that the reader knows at a level are those of the ladder, under the same symbols. -/
theorem mem_rungs {level : Nat} {symbol : String} {op : BinaryOp} :
    (symbol, op) ∈ rungs level ↔ symbol = op.symbol ∧ op.level = level := by
  constructor
  · intro rung
    -- Each level is looked up in the ladder.
    have listed : ∀ level < signLevel, ∀ entry ∈ rungs level,
        entry.1 = entry.2.symbol ∧ entry.2.level = level := by decide
    -- Above the last level the ladder has nothing.
    have below : level < signLevel := by
      by_contra above
      rw [rungs, List.getD_eq_default _ _ (not_lt.mp above)] at rung
      cases rung
    exact listed level below _ rung
  · rintro ⟨rfl, rfl⟩
    -- Every operator stands on the ladder at its level.
    cases op <;> decide

/-- The signs that the reader knows are those of the grammar, under the same symbols. -/
theorem mem_signs {symbol : String} {op : UnaryOp} : (symbol, op) ∈ signs ↔ symbol = op.symbol := by
  -- There are two signs, and each has its symbol.
  cases op <;> simp [signs, UnaryOp.symbol]

/-- The reader has as many levels as the ladder. -/
theorem signLevel_eq : signLevel = BinaryOp.levelCount := rfl

/-- No level above the ladder has operators. -/
theorem level_lt_of_mem_rungs {level : Nat} {symbol : String} {op : BinaryOp}
    (rung : (symbol, op) ∈ rungs level) : level < signLevel := by
  obtain ⟨-, rfl⟩ := mem_rungs.mp rung
  exact op.level_lt

/-- The operator of a level that a token stands for has the token's text on the ladder. -/
theorem operatorAt?_eq_some {level : Nat} {token : Token} {op : BinaryOp} :
    operatorAt? level token = some op ↔
      ∃ symbol, token = ⟨.operator, symbol⟩ ∧ (symbol, op) ∈ rungs level := by
  obtain ⟨kind, text⟩ := token
  -- Only operator tokens are looked up.
  rw [operatorAt?]
  split
  · rename_i same
    subst same
    -- The symbol of the token is looked up first, and its level is compared.
    simp [mem_rungs, Option.filter_eq_some_iff, BinaryOp.ofSymbol?_eq_some]
  · rename_i other
    simp [other]

/-- The sign that a token stands for has the token's text in the grammar. -/
theorem signOf?_eq_some {token : Token} {op : UnaryOp} :
    signOf? token = some op ↔ ∃ symbol, token = ⟨.operator, symbol⟩ ∧ (symbol, op) ∈ signs := by
  obtain ⟨kind, text⟩ := token
  -- The same is done for signs, without levels.
  rw [signOf?]
  split
  · rename_i same
    subst same
    simp [mem_signs, UnaryOp.ofSymbol?_eq_some]
  · rename_i other
    simp [other]

end Expr

/-- A token is no fault by itself: a number can be read, and so can the rows of references. -/
def Token.isReadable (token : Token) : Bool :=
  -- All other tokens stand for something, whatever their text is.
  match token.kind with
  | .number => (Expr.literalNumber token.text).isOk
  | .cell => Position.isRowReadable token.text
  | .area =>
    Position.isRowReadable (Expr.nearEnd token.text) && Position.isRowReadable (Expr.farEnd token.text)
  | _ => true

/-- A token that an expression can begin with; the operators among them are signs. -/
def Token.Begins (token : Token) : Prop :=
  match token.kind with
  | .closing | .comma => False
  | .operator => ∃ op, (token.text, op) ∈ Expr.signs
  | _ => True

/-- No expression begins with a closing parenthesis. -/
theorem Token.Begins.kind_ne {token : Token} (begins : token.Begins) : token.kind ≠ .closing := by
  -- The definition says nothing else about closing parentheses.
  intro same
  rwa [Token.Begins, same] at begins

namespace Expr

/-- What derives an expression of a level derives it at every looser level. -/
theorem Derives.loosen {level tight : Nat} {ts : List Token} {e : Expr} (derives : Derives tight ts e)
    (looser : level ≤ tight) (within : tight ≤ plainLevel) : Derives level ts e := by
  obtain ⟨steps, rfl⟩ := Nat.exists_eq_add_of_le looser
  -- The induction is on the number of levels between the two.
  induction steps with
  | zero => exact derives
  | succ steps ih => exact ih (.alone within derives) (by omega) (by omega)

/-- An expression begins with a token that can begin one; without a sign it is no operator. -/
theorem Derives.begins {level : Nat} {ts : List Token} {e : Expr} (derives : Derives level ts e) :
    ∃ token rest, ts = token :: rest ∧ token.Begins ∧
      (level = plainLevel → token.kind ≠ .operator) := by
  match derives with
  | .number _ | .text _ | .truth _ | .cell _ | .area _ _ | .constant .. | .call ..
  | .parenthesized .. =>
    exact ⟨_, _, rfl, trivial, fun _ => nofun⟩
  | .unary sign one => exact ⟨_, _, rfl, ⟨_, sign⟩, fun same => absurd same (by decide)⟩
  | .binary rung first second =>
    -- A chain begins with its first operand.
    obtain ⟨token, rest, rfl, begins, _⟩ := first.begins
    refine ⟨token, rest ++ _, rfl, begins, fun plain => ?_⟩
    have below := level_lt_of_mem_rungs rung
    rw [plain] at below
    exact absurd below (by decide)
  | .alone below one =>
    -- An operand alone begins as it does at its own level.
    obtain ⟨token, rest, rfl, begins, _⟩ := one.begins
    exact ⟨token, rest, rfl, begins, fun plain => absurd below (by omega)⟩

/-- Several expressions begin as the first of them does. -/
theorem Lists.begins {ts : List Token} {es : List Expr} (lists : Lists ts es) :
    ∃ token rest, ts = token :: rest ∧ token.Begins := by
  -- What stands behind the first one does not matter.
  cases lists with
  | single one =>
    obtain ⟨token, rest, rfl, begins, _⟩ := one.begins
    exact ⟨token, rest, rfl, begins⟩
  | cons comma one others =>
    obtain ⟨token, rest, rfl, begins, _⟩ := one.begins
    exact ⟨token, _, rfl, begins⟩

end Expr
end Spreadsheet
