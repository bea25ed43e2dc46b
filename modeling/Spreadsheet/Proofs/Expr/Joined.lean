import Mathlib.Data.List.Chain
import Spreadsheet.Proofs.Expr.Grammar
import Spreadsheet.Proofs.Token.Written

/-!
Which tokens stand next to each other in an expression. Those that do stay apart in a text, so an
expression can be written without blanks.
-/

namespace Spreadsheet

namespace Token

/-- A token that an expression can end with. -/
def Ends (token : Token) : Prop :=
  -- The name of a function is followed by its arguments.
  token.kind ∉ [.operator, .opening, .comma, .function]

/-- The second token can stand behind the first one in an expression. -/
def Adjacent (token next : Token) : Prop :=
  match token.kind with
  -- What ends an operand has an operator, a closing parenthesis or a comma behind it.
  | .opening | .comma => True
  | .operator => next.Begins
  | .function => next.kind = .opening
  | _ => next.kind ∈ [.operator, .closing, .comma]

variable {token next : Token}

/-- Behind what ends an expression comes an operator, a closing parenthesis or a comma. -/
theorem Ends.adjacent (ends : token.Ends) (kind : next.kind ∈ [.operator, .closing, .comma]) :
    Adjacent token next := by
  -- All kinds that an expression can end with are in the last case.
  unfold Adjacent
  split <;> simp_all [Ends]

/-- Operators, closing parentheses and commas begin with separators. -/
theorem Plain.separated (plain : Plain token) (kind : token.kind ∈ [.operator, .closing, .comma])
    (rest : List Char) : Separated (token.written ++ rest) := by
  -- The first character of a token decides, and a plain token tells which one it is by its kind.
  obtain ⟨c, cs, written, leads⟩ := plain.leads
  rw [written]
  rintro d ⟨⟩
  simp only [List.mem_cons, List.not_mem_nil, or_false] at kind
  rcases kind with same | same | same
  · -- The symbols are among the separators.
    have symbols : "+-*/^&=<>".toList ⊆ separators := by decide
    rw [same] at leads
    exact symbols (List.contains_iff_mem.mp leads)
  · -- The others are written in one way.
    obtain rfl : c = ')' := by simpa [same, Token.leads] using leads
    decide
  · obtain rfl : c = ',' := by simpa [same, Token.leads] using leads
    decide

/-- What an expression begins with joins no operator in front of it. -/
theorem Plain.unjoined (plain : Plain token) (begins : token.Begins) (rest : List Char) :
    ∀ c ∈ (token.written ++ rest).head?, c ≠ '=' ∧ c ≠ '>' := by
  by_cases kind : token.kind = .operator
  · -- An operator in front of an operand is a sign.
    obtain ⟨_, text⟩ := token
    subst kind
    obtain ⟨op, sign⟩ := begins
    obtain rfl := Expr.mem_signs.mp sign
    cases op <;> rintro c ⟨⟩ <;> decide
  · -- No token of any other kind is written with one of these characters in front.
    obtain ⟨c, cs, written, leads⟩ := plain.leads
    rw [written]
    rintro d ⟨⟩
    constructor
    · rintro rfl
      revert kind leads
      cases token.kind <;> decide +kernel
    · rintro rfl
      revert kind leads
      cases token.kind <;> decide +kernel

/-- Plain tokens that can stand next to each other stay apart without a blank. -/
theorem Adjacent.apart (adjacent : Adjacent token next) (plain : Plain next) : Apart token next := by
  -- What must not follow a token depends on its kind, and the neighbours that are allowed do not.
  intro rest
  obtain ⟨kind, text⟩ := token
  cases kind with
  | number | boolean | cell | area => exact plain.separated adjacent rest
  | operator => exact plain.unjoined adjacent rest
  | function =>
    obtain ⟨c, cs, written, leads⟩ := plain.leads
    have opening : next.kind = .opening := adjacent
    obtain rfl : c = '(' := by simpa [opening, Token.leads] using leads
    rw [written]
    rfl
  | string | opening | closing | comma => trivial

end Token

namespace Expr

/-- Tokens of which each can stand behind the one before, and an expression can end with the last. -/
structure Joined (ts : List Token) : Prop where
  adjacent : ts.IsChain Token.Adjacent
  ends : ∀ token ∈ ts.getLast?, token.Ends

/-- A single token is joined if an expression can end with it. -/
theorem joined_singleton {token : Token} (ends : token.Ends) : Joined [token] :=
  ⟨.singleton _, by simpa using ends⟩

variable {ts us : List Token} {token next : Token}

/-- One more token is joined to those that can stand behind it. -/
theorem Joined.cons (joined : Joined (next :: ts)) (adjacent : Token.Adjacent token next) :
    Joined (token :: next :: ts) :=
  ⟨List.isChain_cons_cons.mpr ⟨adjacent, joined.adjacent⟩, joined.ends⟩

/-- Behind what is joined there can be an operator, a closing parenthesis or a comma. -/
theorem Joined.append (joined : Joined ts) (others : Joined (token :: us))
    (kind : token.kind ∈ [.operator, .closing, .comma]) : Joined (ts ++ token :: us) := by
  have between : ∀ last ∈ ts.getLast?, ∀ first ∈ (token :: us).head?, Token.Adjacent last first := by
    -- Both neighbours are known: the last token can end an expression, the first is the one given.
    intro last member first found
    obtain rfl : token = first := by simpa using found
    exact (joined.ends last member).adjacent kind
  exact ⟨List.isChain_append.mpr ⟨joined.adjacent, others.adjacent, between⟩,
    by simpa using others.ends⟩

mutual
/-- The tokens of an expression stand next to each other as tokens can. -/
theorem Derives.joined {level : Nat} {ts : List Token} {e : Expr} (derives : Derives level ts e) :
    Joined ts := by
  -- By recursion on the derivation. Every token in front of an operand, an argument or a closing
  -- parenthesis is joined to the first one of what follows.
  match derives with
  | .number _ | .text _ | .truth _ | .cell _ | .area _ _ =>
    exact joined_singleton (by simp [Token.Ends])
  -- A call without arguments.
  | .constant name opening closing =>
    have closed : Joined [⟨.closing, closing⟩] := joined_singleton (by simp [Token.Ends])
    have opened : Joined (⟨.opening, opening⟩ :: _) := closed.cons trivial
    exact opened.cons rfl
  -- A call with arguments: what is inside is closed first, then opened, then named.
  | .call name opening closing inside =>
    have closed : Joined [⟨.closing, closing⟩] := joined_singleton (by simp [Token.Ends])
    have arguments := inside.joined.append closed (by simp)
    obtain ⟨token, rest, rfl, -⟩ := inside.begins
    have opened : Joined (⟨.opening, opening⟩ :: _) := arguments.cons trivial
    exact opened.cons rfl
  | .parenthesized opening closing inside =>
    have closed : Joined [⟨.closing, closing⟩] := joined_singleton (by simp [Token.Ends])
    have whole := inside.joined.append closed (by simp)
    obtain ⟨token, rest, rfl, -⟩ := inside.begins
    exact whole.cons trivial
  -- A sign stands in front of its operand, which begins as an operand does.
  | .unary _ one =>
    have operand := one.joined
    obtain ⟨token, rest, rfl, begins, -⟩ := one.begins
    exact operand.cons begins
  -- The operator can stand behind its first operand and in front of the second.
  | .binary _ first second =>
    have right := second.joined
    obtain ⟨token, rest, rfl, begins, -⟩ := second.begins
    exact first.joined.append (right.cons begins) (by simp)
  | .alone _ one => exact one.joined

/-- The tokens of several expressions stand next to each other as tokens can. -/
theorem Lists.joined {ts : List Token} {es : List Expr} (lists : Lists ts es) : Joined ts := by
  -- A comma stands between an argument and the others.
  match lists with
  | .single one => exact one.joined
  | .cons comma one others =>
    have behind := others.joined
    obtain ⟨token, rest, rfl, begins⟩ := others.begins
    exact one.joined.append (behind.cons trivial) (by simp)
end

end Expr
end Spreadsheet
