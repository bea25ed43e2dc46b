import Spreadsheet.Proofs.Expr.Derived

/-!
Whatever the grammar derives is read as what is derived. Together with the converse, reading accepts
exactly the grammar, and the grammar derives one expression at most.
-/

namespace Spreadsheet.Expr

/-- A part of the reader gives this and leaves these tokens. -/
def Reads {α : Type} {P : List Token → Prop} (read : Except Failure (α × { rest // P rest })) (a : α)
    (rest : List Token) : Prop :=
  ∃ fits, read = .ok (a, ⟨rest, fits⟩)

section Reads

variable {level : Nat} {symbol : String} {ts us rest : List Token} {e left right : Expr}
  {es : List Expr}

/-- A chain is read as its first operand and then as what goes on from it. -/
theorem chain_reads (below : level < signLevel) (first : Reads (chain (level + 1) ts) left us)
    (onwards : Reads (chainFrom level left us) e rest) : Reads (chain level ts) e rest := by
  obtain ⟨_, first⟩ := first
  obtain ⟨_, onwards⟩ := onwards
  -- The condition of the recursion holds, and both parts are known.
  rw [chain, if_pos (signLevel_eq ▸ below), first]
  simp only [Bind.bind, Except.bind, onwards]
  exact ⟨_, rfl⟩

/-- Above the operators a chain is a signed operand. -/
theorem chain_signLevel (ts : List Token) : chain signLevel ts = signed ts := by
  rw [chain, if_neg (signLevel_eq ▸ lt_irrefl _)]

/-- A chain goes on with an operator of its level. -/
theorem chainFrom_reads {op : BinaryOp} (rung : (symbol, op) ∈ rungs level)
    (next : Reads (chain (level + 1) ts) right us)
    (onwards : Reads (chainFrom level (.binary op left right) us) e rest) :
    Reads (chainFrom level left (⟨.operator, symbol⟩ :: ts)) e rest := by
  obtain ⟨_, next⟩ := next
  obtain ⟨_, onwards⟩ := onwards
  rw [chainFrom, operatorAt?_eq_some.mpr ⟨symbol, rfl, rung⟩]
  simp only [Bind.bind, Except.bind, next, onwards]
  exact ⟨_, rfl⟩

/-- No operator of a level or of a tighter one stands in front of some tokens. -/
-- The head of the tokens is enough: a chain looks at no more.
def Stops (level : Nat) (ts : List Token) : Prop :=
  ∀ tight symbol op, level ≤ tight → (symbol, op) ∈ rungs tight →
    ts.head? ≠ some ⟨.operator, symbol⟩

/-- Where no operator of the level follows, a chain ends. -/
theorem chainFrom_stops (stops : Stops level ts) : Reads (chainFrom level e ts) e ts := by
  cases ts with
  | nil =>
    rw [chainFrom]
    exact ⟨_, rfl⟩
  | cons token ts =>
    have other : operatorAt? level token = none := by
      refine Option.eq_none_iff_forall_not_mem.mpr fun op found => ?_
      -- An operator found there would be one of the level, which the tokens do not begin with.
      obtain ⟨symbol, rfl, rung⟩ := operatorAt?_eq_some.mp found
      exact stops level symbol op le_rfl rung rfl
    rw [chainFrom, other]
    exact ⟨_, rfl⟩

/-- Signs and what is tighter stop at every token. -/
theorem stops_of_le (tight : signLevel ≤ level) (ts : List Token) : Stops level ts :=
  -- There is no operator as tight as a sign.
  fun _ _ _ within rung => absurd (tight.trans within) (not_le.mpr (level_lt_of_mem_rungs rung))

/-- What stops an operator stops a tighter one. -/
theorem Stops.mono {level' : Nat} (stops : Stops level ts) (tighter : level ≤ level') :
    Stops level' ts :=
  fun tight symbol op within => stops tight symbol op (tighter.trans within)

/-- Tokens that begin with no operator stop every chain. -/
theorem stops_of_kind {kind : TokenKind} {text : String} (other : kind ≠ .operator) :
    Stops level (⟨kind, text⟩ :: ts) := by
  rintro tight symbol op - - same
  -- Tokens with one head have one kind.
  cases same
  exact other rfl

/-- A looser operator in front stops a chain. -/
theorem stops_of_mem_rungs {op : BinaryOp} (rung : (symbol, op) ∈ rungs level) :
    Stops (level + 1) (⟨.operator, symbol⟩ :: ts) := by
  rintro tight symbol' other within rung' found
  obtain rfl : symbol = symbol' := congrArg Token.text (Option.some.inj found)
  obtain ⟨spelled, rfl⟩ := mem_rungs.mp rung
  obtain ⟨spelled', rfl⟩ := mem_rungs.mp rung'
  -- Two operators with one symbol are one operator, which stands at one level.
  obtain rfl : other = op := by
    rw [← Option.some_inj, ← BinaryOp.ofSymbol?_symbol, ← spelled', spelled,
      BinaryOp.ofSymbol?_symbol]
  omega

/-- A reader that gives something gives nothing else. -/
theorem Reads.unique {α : Type} {P : List Token → Prop}
    {read : Except Failure (α × { rest // P rest })} {a b : α} (one : Reads read a us)
    (other : Reads read b rest) : a = b ∧ us = rest := by
  obtain ⟨_, one⟩ := one
  obtain ⟨_, other⟩ := other
  cases one.symm.trans other
  exact ⟨rfl, rfl⟩

/-- A sign is read with its operand. -/
theorem signed_reads {op : UnaryOp} (sign : (symbol, op) ∈ signs)
    (operand : Reads (signed ts) e rest) :
    Reads (signed (⟨.operator, symbol⟩ :: ts)) (.unary op e) rest := by
  obtain ⟨_, operand⟩ := operand
  rw [signed, signOf?_eq_some.mpr ⟨symbol, rfl, sign⟩]
  simp only [Bind.bind, Except.bind, operand]
  exact ⟨_, rfl⟩

/-- What begins with no operator has no sign. -/
theorem signed_unsigned {token : Token} (kind : token.kind ≠ .operator) (ts : List Token) :
    signed (token :: ts) = primary (token :: ts) := by
  have unsigned : signOf? token = none := by
    -- A sign is an operator.
    refine Option.eq_none_iff_forall_not_mem.mpr fun op found => kind ?_
    obtain ⟨symbol, rfl, -⟩ := signOf?_eq_some.mp found
    rfl
  rw [signed, unsigned]

/-- A function is read with its arguments. -/
theorem primary_function {name : String} (arguments : Reads (argumentList name ts) es rest) :
    Reads (primary (⟨.function, name⟩ :: ts)) (.call name es) rest := by
  obtain ⟨_, arguments⟩ := arguments
  rw [primary]
  simp only [Bind.bind, Except.bind, arguments]
  exact ⟨_, rfl⟩

/-- Parentheses are read with the expression inside. -/
theorem primary_parenthesized {opening closing : String}
    (inside : Reads (chain 0 ts) e (⟨.closing, closing⟩ :: rest)) :
    Reads (primary (⟨.opening, opening⟩ :: ts)) e rest := by
  obtain ⟨_, inside⟩ := inside
  rw [primary]
  simp only [Bind.bind, Except.bind, inside]
  exact ⟨_, rfl⟩

/-- Arguments are read in their parentheses. -/
theorem argumentList_reads {name opening closing : String}
    (inside : Reads (arguments ts) es (⟨.closing, closing⟩ :: rest))
    (some : ts.head?.map (·.kind) ≠ .some .closing) :
    Reads (argumentList name (⟨.opening, opening⟩ :: ts)) es rest := by
  obtain ⟨_, inside⟩ := inside
  rw [argumentList]
  · simp only [Bind.bind, Except.bind, inside]
    exact ⟨_, rfl⟩
  · -- The other rule for arguments needs the closing parenthesis that is excluded here.
    rintro text us rfl
    exact some rfl

/-- The last argument is read alone. -/
theorem arguments_single {closing : String}
    (one : Reads (chain 0 ts) e (⟨.closing, closing⟩ :: rest)) :
    Reads (arguments ts) [e] (⟨.closing, closing⟩ :: rest) := by
  obtain ⟨_, one⟩ := one
  rw [arguments]
  simp only [Bind.bind, Except.bind, one]
  exact ⟨_, rfl⟩

/-- An argument is read with those behind the comma. -/
theorem arguments_cons {comma : String} (one : Reads (chain 0 ts) e (⟨.comma, comma⟩ :: us))
    (others : Reads (arguments us) es rest) : Reads (arguments ts) (e :: es) rest := by
  obtain ⟨_, one⟩ := one
  obtain ⟨_, others⟩ := others
  rw [arguments]
  simp only [Bind.bind, Except.bind, one, others]
  exact ⟨_, rfl⟩

end Reads

/-- The part of the reader for a level. -/
def readAt (level : Nat) (ts : List Token) : Except Failure (Expr × Rest ts) :=
  -- What stands for itself is a primary expression.
  if level < plainLevel then chain level ts else primary ts

/--
What derives an expression of a level is read as that expression, whatever follows it: no operator that
is tighter, and with operators of the level the chain goes on from the expression.
-/
def ReadsOn (level : Nat) (ts : List Token) (e : Expr) : Prop :=
  ∀ rest, Stops (level + 1) rest → ∀ e' rest', Reads (chainFrom level e rest) e' rest' →
    Reads (readAt level (ts ++ rest)) e' rest'

section ReadsOn

variable {level : Nat} {ts us rest : List Token} {e left right : Expr} {es : List Expr}

/-- An expression that nothing goes on from is read alone. -/
theorem ReadsOn.alone (reads : ReadsOn level ts e) (stops : Stops level rest) :
    Reads (readAt level (ts ++ rest)) e rest :=
  reads rest (stops.mono (Nat.le_succ _)) e rest (chainFrom_stops stops)

/-- Above the operators an expression is read alone, whatever follows. -/
theorem readsOn_of_tight (tight : signLevel ≤ level)
    (reads : ∀ rest, Reads (readAt level (ts ++ rest)) e rest) : ReadsOn level ts e := by
  intro rest _ e' rest' onwards
  -- From above the operators nothing goes on, so the chain that goes on is the expression itself.
  obtain ⟨rfl, rfl⟩ := (chainFrom_stops (stops_of_le tight rest)).unique onwards
  exact reads rest

/-- What stands for itself is read on if it is a primary expression. -/
theorem readsOn_plain (reads : ∀ rest, Reads (primary (ts ++ rest)) e rest) :
    ReadsOn plainLevel ts e :=
  readsOn_of_tight (Nat.le_succ _) reads

/-- At the levels below, an expression is read as a chain. -/
theorem ReadsOn.chain (reads : ReadsOn level ts e) (below : level < plainLevel)
    (stops : Stops level rest) : Reads (chain level (ts ++ rest)) e rest := by
  have alone := reads.alone stops
  rwa [readAt, if_pos below] at alone

end ReadsOn

mutual
/-- What derives an expression is read as it. -/
theorem Derives.reads {level : Nat} {ts : List Token} {e : Expr} (derives : Derives level ts e) :
    ReadsOn level ts e := by
  match derives with
  -- What stands for itself is one token, or parentheses around tokens, in front of the others.
  | .number reads =>
    refine readsOn_plain fun rest => ?_
    rw [List.singleton_append, primary]
    simp only [reads, liftM, monadLift, MonadLift.monadLift, Except.mapError, Bind.bind, Except.bind]
    exact ⟨_, rfl⟩
  | .text _ | .truth _ =>
    refine readsOn_plain fun rest => ?_
    rw [List.singleton_append, primary]
    exact ⟨_, rfl⟩
  | .cell reads =>
    refine readsOn_plain fun rest => ?_
    rw [List.singleton_append, primary]
    simp only [reads, Bind.bind, Except.bind]
    exact ⟨_, rfl⟩
  | .area start finish  =>
    refine readsOn_plain fun rest => ?_
    rw [List.singleton_append, primary]
    simp only [literalArea_join start finish, Bind.bind, Except.bind]
    exact ⟨_, rfl⟩
  | .constant name opening closing =>
    -- A function without arguments is read by a rule of its own.
    refine readsOn_plain fun rest => ?_
    rw [List.cons_append, List.cons_append, List.singleton_append]
    refine primary_function ?_
    rw [argumentList]
    exact ⟨_, rfl⟩
  | .call name opening closing inside =>
    refine readsOn_plain fun rest => ?_
    rw [List.cons_append, List.cons_append, List.append_assoc]
    refine primary_function (argumentList_reads (inside.reads closing rest) ?_)
    -- The first argument does not begin with a closing parenthesis.
    obtain ⟨token, us, rfl, begins⟩ := inside.begins
    exact fun same => begins.kind_ne (Option.some.inj same)
  | .parenthesized opening closing inside =>
    refine readsOn_plain fun rest => ?_
    rw [List.cons_append, List.append_assoc]
    -- A closing parenthesis is no operator, so the chain inside stops there.
    exact primary_parenthesized (inside.reads.chain (by decide) (stops_of_kind (by decide)))
  | .unary sign one =>
    refine readsOn_of_tight (le_refl _) fun rest => ?_
    -- Behind a sign there is a signed operand again.
    have operand := one.reads.chain (Nat.lt_succ_self _) (stops_of_le (le_refl _) rest)
    rw [chain_signLevel] at operand
    rw [readAt, if_pos (Nat.lt_succ_self _), chain_signLevel]
    exact signed_reads sign operand
  | .binary rung first second =>
    -- The tokens of the left operand are followed by the operator and those of the right one.
    intro rest stops e' rest' onwards
    have below : level < signLevel := level_lt_of_mem_rungs rung
    -- The chain is read up to the operator, and goes on with the operand behind it.
    have operand := second.reads.chain (Nat.succ_lt_succ below) stops
    rw [List.append_assoc]
    exact first.reads _ (stops_of_mem_rungs rung) e' rest' (chainFrom_reads rung operand onwards)
  | .alone below one =>
    intro rest stops e' rest' onwards
    -- The level is one of operators or that of signs.
    have reads := one.reads
    rcases (Nat.le_of_lt_succ below).lt_or_eq with operators | rfl
    · -- The operand stands alone at the next level, and the chain goes on from it.
      have first := reads.chain (Nat.succ_lt_succ operators) stops
      rw [readAt, if_pos below]
      exact chain_reads operators first onwards
    · -- What stands for itself has no sign in front.
      obtain ⟨rfl, rfl⟩ := (chainFrom_stops (stops_of_le (le_refl _) rest)).unique onwards
      have primary := reads.alone (stops_of_le (Nat.le_succ _) rest)
      obtain ⟨token, us, rfl, -, unsigned⟩ := one.begins
      rw [readAt, if_pos below, chain_signLevel, List.cons_append, signed_unsigned (unsigned rfl)]
      rwa [readAt, if_neg (lt_irrefl _)] at primary

/-- What derives several expressions is read as them. -/
theorem Lists.reads {ts : List Token} {es : List Expr} (lists : Lists ts es) (closing : String)
    (rest : List Token) :
    Reads (arguments (ts ++ ⟨.closing, closing⟩ :: rest)) es (⟨.closing, closing⟩ :: rest) := by
  match lists with
  | .single one => exact arguments_single (one.reads.chain (by decide) (stops_of_kind (by decide)))
  | .cons comma one others =>
    rw [List.append_assoc]
    exact arguments_cons (one.reads.chain (by decide) (stops_of_kind (by decide)))
      (others.reads closing rest)
end

/-- What derives an expression is read as it. -/
theorem Derives.ofTokens {ts : List Token} {e : Expr} (derives : Derives 0 ts e) :
    ofTokens ts = .ok e := by
  -- Where nothing is left nothing can go on.
  have stops : Stops 0 [] := fun _ _ _ _ _ => nofun
  obtain ⟨_, read⟩ := derives.reads.chain (by decide) stops
  have all : Expr.ofTokens (ts ++ []) = .ok e := by
    rw [Expr.ofTokens, read]
    rfl
  rwa [List.append_nil] at all

/--
Tokens of which none is a fault by itself are read as an expression exactly if the grammar derives it
from them. It derives one at most, and where it derives none the tokens do not parse.
-/
theorem ofTokens_exact {ts : List Token} (readable : ∀ token ∈ ts, token.isReadable) :
    (∀ e, ofTokens ts = .ok e ↔ Derives 0 ts e) ∧
    (∀ e e', Derives 0 ts e → Derives 0 ts e' → e = e') ∧
    ((∀ e, ¬Derives 0 ts e) →
      ∃ cause, ofTokens ts = .error (.formula cause) ∧ cause.kind = .parse) := by
  have delivers := ofTokens_derives ts
  refine ⟨fun e => ⟨delivers.of_ok, Derives.ofTokens⟩, fun e e' one other => ?_, fun none => ?_⟩
  · -- Two expressions derived from the same tokens are both what is read.
    have same := one.ofTokens.symm.trans other.ofTokens
    exact Except.ok.inj same
  · -- What is read would be derived, so without a derivation reading fails.
    cases read : Expr.ofTokens ts with
    | ok e => exact absurd (delivers.of_ok read) (none e)
    | error failure =>
      have refused := delivers.of_error read
      cases failure with
      | formula cause => exact ⟨cause, rfl, List.mem_singleton.mp refused⟩
      | fault f =>
        obtain ⟨-, token, member, unreadable⟩ := refused
        exact absurd (readable token member) unreadable

/--
The levels part a comparison, joined texts, a sum, a product and a power without any parentheses; signs
bind tighter than all of them, and commas part arguments.
-/
theorem ofTokens_exact_levels :
    let ts : List Token :=
      [⟨.number, "1"⟩, ⟨.operator, "+"⟩, ⟨.number, "2"⟩, ⟨.operator, "*"⟩, ⟨.operator, "-"⟩,
        ⟨.cell, "A1"⟩, ⟨.operator, "^"⟩, ⟨.number, "4"⟩, ⟨.operator, "&"⟩, ⟨.function, "SUM"⟩,
        ⟨.opening, "("⟩, ⟨.area, "B1:C2"⟩, ⟨.comma, ","⟩, ⟨.string, "x"⟩, ⟨.closing, ")"⟩,
        ⟨.operator, "<"⟩, ⟨.number, "6"⟩]
    let power : Expr := .binary .pow (.unary .minus (.cell ⟨0, 0⟩)) (.number (.whole 4))
    let sum : Expr := .binary .add (.number (.whole 1)) (.binary .mul (.number (.whole 2)) power)
    let total : Expr := .call "SUM" [.area ⟨⟨1, 0⟩, ⟨2, 1⟩⟩, .text "x"]
    (∀ token ∈ ts, token.isReadable) ∧
      ofTokens ts = .ok (.binary .lt (.binary .concat sum total) (.number (.whole 6))) := by
  intro ts power sum total
  have readable : ∀ token ∈ ts, token.isReadable := by decide +kernel
  have number {level text n} (reads : literalNumber text = .ok n) (below : level ≤ plainLevel) :
      Derives level [⟨.number, text⟩] (.number n) := (Derives.number reads).loosen below le_rfl
  have minus : ("-", .minus) ∈ signs := by decide
  have cell : Derives plainLevel [⟨.cell, "A1"⟩] (.cell ⟨0, 0⟩) := .cell rfl
  -- The operators follow from the tightest to the loosest, each with operands of the next level.
  have powers := Derives.binary (show ("^", .pow) ∈ rungs 4 by decide)
    (.alone (by decide) (.unary minus (.alone (by decide) cell)))
    (number (show literalNumber "4" = .ok (.whole 4) from rfl) (by decide))
  have product := Derives.binary (show ("*", .mul) ∈ rungs 3 by decide)
    (number (show literalNumber "2" = .ok (.whole 2) from rfl) (by decide)) powers
  have sums := Derives.binary (show ("+", .add) ∈ rungs 2 by decide)
    (number (show literalNumber "1" = .ok (.whole 1) from rfl) (by decide)) product
  have area : Derives plainLevel [⟨.area, "B1" ++ ":" ++ "C2"⟩] (.area ⟨⟨1, 0⟩, ⟨2, 1⟩⟩) :=
    .area rfl rfl
  have inside : Lists ([⟨.area, "B1:C2"⟩] ++ ⟨.comma, ","⟩ :: [⟨.string, "x"⟩])
      [.area ⟨⟨1, 0⟩, ⟨2, 1⟩⟩, .text "x"] :=
    .cons "," (area.loosen (by decide) (by decide))
      (.single (.loosen (.text "x") (by decide) (by decide)))
  have call := (Derives.call "SUM" "(" ")" inside).loosen (by decide : 2 ≤ plainLevel) le_rfl
  have joined := Derives.binary (show ("&", .concat) ∈ rungs 1 by decide) (.alone (by decide) sums) call
  have compared := Derives.binary (show ("<", .lt) ∈ rungs 0 by decide) (.alone (by decide) joined)
    (number (show literalNumber "6" = .ok (.whole 6) from rfl) (by decide))
  exact ⟨readable, ((ofTokens_exact readable).1 _).mpr compared⟩

end Spreadsheet.Expr
