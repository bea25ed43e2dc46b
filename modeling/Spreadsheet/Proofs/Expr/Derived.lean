import Spreadsheet.Proofs.Expr.Grammar
import Spreadsheet.Proofs.Number.Faults

/-!
Whatever is read from tokens is derived from them by the grammar. Tokens that are not read do not
parse, unless one of them is a fault by itself.
-/

namespace Spreadsheet.Expr

/-- A text that should be a number fails for not being one, or for its length. -/
theorem literalNumber_converts (text : String) :
    FailsOnly Fault.Conversion (literalNumber text) := by
  -- A text is read as a decimal or as a whole number, and both conversions have their own failures.
  unfold literalNumber
  split
  · exact (Literal.float_converts text).map _
  · exact (Literal.whole_converts text).map _

/-- Tokens that are no expression do not parse, or one of them is a fault by itself. -/
abbrev Refused (ts : List Token) : Failure → Prop :=
  Failure.Among [.parse] fun f => f.Conversion ∧ ∃ token ∈ ts, ¬token.isReadable

/-- An expression of a level is read from what derives it, and the other tokens are left. -/
abbrev ReadDerived (level : Nat) {ts : List Token} (read : Except Failure (Expr × Rest ts)) : Prop :=
  Delivers (fun r => ∃ taken, ts = taken ++ r.2 ∧ Derives level taken r.1) (Refused ts) read

/-- A chain goes on from what derives its first operands. -/
abbrev ContinuesDerived (level : Nat) (left : Expr) {ts : List Token}
    (read : Except Failure (Expr × Remainder ts)) : Prop :=
  ∀ before, Derives level before left →
    Delivers (fun r => ∃ taken, ts = taken ++ r.2 ∧ Derives level (before ++ taken) r.1)
      (Refused ts) read

/-- Arguments are read from what derives them, parentheses included. -/
abbrev ReadCalled (name : String) {ts : List Token}
    (read : Except Failure (List Expr × Rest ts)) : Prop :=
  Delivers (fun r => ∃ taken, ts = taken ++ r.2 ∧
    -- The name stands in front of what is taken, so the whole call is derived at once.
    Derives plainLevel (⟨.function, name⟩ :: taken) (.call name r.1)) (Refused ts) read

/-- Expressions with commas between them are read from what derives them. -/
abbrev ReadListed {ts : List Token} (read : Except Failure (List Expr × Rest ts)) : Prop :=
  Delivers (fun r => ∃ taken, ts = taken ++ r.2 ∧ Lists taken r.1) (Refused ts) read

/-- What some of the tokens are refused for, all of them are. -/
theorem Refused.within {ts us : List Token} {e : Failure} (refused : Refused us e) (part : us ⊆ ts) :
    Refused ts e :=
  refused.mono (List.Subset.refl _) fun _ fault =>
    ⟨fault.1, fault.2.imp fun _ token => ⟨part token.1, token.2⟩⟩

/-- What the tokens behind the first one are refused for, all of them are. -/
theorem Refused.cons {ts : List Token} {e : Failure} (refused : Refused ts e) (token : Token) :
    Refused (token :: ts) e :=
  refused.within (List.subset_cons_self _ _)

/-- What the last tokens are refused for, all of them are. -/
theorem Refused.behind {ts taken rest : List Token} {e : Failure} (refused : Refused rest e)
    (same : ts = taken ++ rest) : Refused ts e :=
  refused.within (same ▸ List.subset_append_right _ _)

/-- Tokens that are taken one part after the other. -/
theorem append_taken {ts before rest taken left : List Token} (same : ts = before ++ rest)
    (more : rest = taken ++ left) : ts = (before ++ taken) ++ left := by
  rw [same, more, List.append_assoc]

/-- A failure to parse refuses any tokens. -/
theorem refused_of_parse {α : Type} {P : α → Prop} {ts : List Token} {e : FormulaError}
    (parse : e.kind = .parse) :
    Delivers P (Refused ts) (throw (.formula e) : Except Failure α) :=
  List.mem_singleton.mpr parse

/-- A number that cannot be read is refused. -/
theorem literalNumber_refused (text : String) (after : List Token) :
    Delivers (fun n => literalNumber text = .ok n) (Refused (⟨.number, text⟩ :: after))
      (liftM (literalNumber text) : Except Failure Number) := by
  -- The failure is a fault of the conversion, and the token with the text is the unreadable one.
  cases read : literalNumber text with
  | ok n => rfl
  | error f =>
    refine ⟨(literalNumber_converts text).of_error read, ⟨.number, text⟩, List.mem_cons_self, ?_⟩
    simp [Token.isReadable, read, Except.isOk, Except.toBool]

/-- A text that names no position is refused where its row is part of a token. -/
theorem reference_refused (s : String) {ts : List Token}
    (part : ¬Position.isRowReadable s → ∃ token ∈ ts, ¬token.isReadable) :
    Delivers (fun p => Position.ofText s = .ok p) (Refused ts) (Position.ofText s) := by
  cases read : Position.ofText s with
  | ok p => rfl
  | error e =>
    -- Without a position the text fails in its grammar, or as a fault in the number of its row.
    have misnamed := (Position.ofText_delivers s).of_error read
    cases e with
    | formula e => exact misnamed
    | fault f => exact ⟨misnamed, part (Position.not_isRowReadable read)⟩

/-- A text that is no area is refused. -/
theorem literalArea_refused (text : String) (after : List Token) :
    Delivers (fun a => literalArea text = .ok a) (Refused (⟨.area, text⟩ :: after))
      (literalArea text) := by
  -- Both corners are parts of the one token, so a fault in either makes this token unreadable.
  have read : ∀ s, (s = nearEnd text ∨ s = farEnd text) →
      Delivers (fun p => Position.ofText s = .ok p) (Refused (⟨.area, text⟩ :: after))
        (Position.ofText s) := by
    rintro s either
    refine reference_refused s fun unreadable => ⟨_, List.mem_cons_self, fun readable => ?_⟩
    have both := Bool.and_eq_true_iff.mp readable
    rcases either with rfl | rfl
    · exact unreadable both.1
    · exact unreadable both.2
  refine ((read _ (.inl rfl)).bind fun p start => (read _ (.inr rfl)).bind fun q finish => ?_).mono
    (fun a same => same) fun _ refused => refused
  exact .pure (literalArea_eq_ok.mpr ⟨start, finish⟩)

mutual
/-- A chain of a level is read from what derives it. -/
theorem chain_derives (level : Nat) (ts : List Token) (within : level ≤ signLevel) :
    ReadDerived level (chain level ts) := by
  rw [chain]
  split
  · rename_i below
    -- The first operand is a chain by itself, and the chain goes on from it.
    refine (chain_derives (level + 1) ts below).bind ?_
    rintro ⟨left, rest, shorter⟩ ⟨before, same, derives⟩
    have going := chainFrom_derives level left rest before (.alone (Nat.lt_succ_of_lt below) derives)
    refine (going.fails fun _ refused => refused.behind same).bind ?_
    rintro ⟨e, rest, _⟩ ⟨taken, more, derives⟩
    exact .pure ⟨before ++ taken, append_taken same more, derives⟩
  · rename_i above
    -- Above the last operators only a signed operand is left.
    rw [le_antisymm within (not_lt.mp above)]
    exact signed_derives ts
termination_by 8 * ts.length + (7 - min level 5)
decreasing_by all_goals simp only [BinaryOp.levelCount] at *; omega

/-- A chain goes on from what derives its first operands. -/
theorem chainFrom_derives (level : Nat) (left : Expr) (ts : List Token) :
    ContinuesDerived level left (chainFrom level left ts) := by
  intro before derives
  match ts with
  | [] =>
    rw [chainFrom]
    -- Nothing follows: what derives the first operands derives the chain.
    exact .pure ⟨[], rfl, (List.append_nil _).symm ▸ derives⟩
  | token :: after =>
    rw [chainFrom]
    split
    · -- No operator of the level follows, so the chain ends in front of the token.
      exact .pure ⟨[], rfl, (List.append_nil _).symm ▸ derives⟩
    · rename_i op found
      obtain ⟨symbol, rfl, rung⟩ := operatorAt?_eq_some.mp found
      -- The operand behind the operator belongs to the next level.
      have first := chain_derives (level + 1) after (level_lt_of_mem_rungs rung)
      refine Delivers.bind (first.fails fun _ refused => refused.cons _) ?_
      rintro ⟨right, rest, shorter⟩ ⟨operand, next, second⟩
      have going := chainFrom_derives level (.binary op left right) rest _
        -- The chain so far becomes the left operand: operators of a level group from the left.
        (.binary rung derives second)
      refine Delivers.bind (going.fails fun _ refused => (refused.behind next).cons _) ?_
      rintro ⟨e, rest, _⟩ ⟨taken, more, derives⟩
      refine .pure ⟨⟨.operator, symbol⟩ :: (operand ++ taken), ?_, by simpa using derives⟩
      exact congrArg (_ :: ·) (append_taken next more)
termination_by 8 * ts.length + 7
decreasing_by all_goals simp only [List.length_cons] at *; omega

/-- An operand with its signs is read from what derives it. -/
theorem signed_derives (ts : List Token) : ReadDerived signLevel (signed ts) := by
  match ts with
  | [] =>
    rw [signed]
    exact refused_of_parse rfl
  | token :: after =>
    rw [signed]
    split
    · -- Without a sign the operand stands for itself.
      refine (primary_derives (token :: after)).mono ?_ fun _ refused => refused
      rintro r ⟨taken, same, derives⟩
      exact ⟨taken, same, .alone (Nat.lt_succ_self _) derives⟩
    · rename_i op found
      obtain ⟨symbol, rfl, sign⟩ := signOf?_eq_some.mp found
      -- Further signs are read by the same rule, so they nest from the outside inwards.
      refine Delivers.bind ((signed_derives after).fails fun _ refused => refused.cons _) ?_
      rintro ⟨operand, rest, _⟩ ⟨taken, same, derives⟩
      exact .pure ⟨_ :: taken, congrArg (_ :: ·) same, .unary sign derives⟩
termination_by 8 * ts.length + 1
decreasing_by all_goals simp only [List.length_cons] at *; omega

/-- What stands for itself is read from what derives it. -/
theorem primary_derives (ts : List Token) : ReadDerived plainLevel (primary ts) := by
  -- The kind of the first token tells what is read.
  match ts with
  | [] =>
    rw [primary]
    exact refused_of_parse rfl
  | ⟨.number, s⟩ :: after =>
    rw [primary]
    exact (literalNumber_refused s after).bind fun n reads => .pure ⟨[_], rfl, .number reads⟩
  | ⟨.string, s⟩ :: after =>
    rw [primary]
    exact .pure ⟨[_], rfl, .text s⟩
  | ⟨.boolean, s⟩ :: after =>
    rw [primary]
    exact .pure ⟨[_], rfl, .truth s⟩
  | ⟨.cell, s⟩ :: after =>
    rw [primary]
    refine (reference_refused s fun unreadable => ?_).bind fun p reads =>
      .pure ⟨[_], rfl, .cell reads⟩
    exact ⟨_, List.mem_cons_self, unreadable⟩
  | ⟨.area, s⟩ :: after =>
    rw [primary]
    refine (literalArea_refused s after).bind fun a reads => .pure ⟨[_], rfl, ?_⟩
    obtain ⟨start, finish⟩ := literalArea_eq_ok.mp reads
    rw [ends_of_literalArea reads]
    exact .area start finish
  | ⟨.function, name⟩ :: after =>
    rw [primary]
    have called := argumentList_derives name after
    refine Delivers.bind (called.fails fun _ refused => refused.cons _) ?_
    rintro ⟨es, rest, _⟩ ⟨taken, same, derives⟩
    exact .pure ⟨_ :: taken, congrArg (_ :: ·) same, derives⟩
  | ⟨.opening, opening⟩ :: after =>
    rw [primary]
    -- Inside the parentheses any operator may stand, so the level starts again at the loosest one.
    have inside := chain_derives 0 after (Nat.zero_le _)
    refine Delivers.bind (inside.fails fun _ refused => refused.cons _) ?_
    rintro ⟨e, rest, shorter⟩ ⟨taken, same, derives⟩
    dsimp only at same ⊢
    split
    · rename_i closing rest _
      refine .pure ⟨_ :: (taken ++ [⟨.closing, closing⟩]), ?_, .parenthesized opening closing derives⟩
      -- The expression inside derives the whole only with the closing parenthesis behind it.
      simp only [same, List.cons_append, List.append_assoc, List.nil_append]
    · exact refused_of_parse rfl
  | ⟨.closing, _⟩ :: _ | ⟨.comma, _⟩ :: _ | ⟨.operator, _⟩ :: _ =>
    rw [primary]
    exact refused_of_parse rfl
termination_by 8 * ts.length
decreasing_by all_goals simp only [List.length_cons] at *; omega

/-- The arguments of a function are read from what derives the call. -/
theorem argumentList_derives (name : String) (ts : List Token) :
    ReadCalled name (argumentList name ts) := by
  have within : ∀ us : List Token, us.length < ts.length → ReadListed (arguments us) :=
    fun us _ => arguments_derives us
  rw [argumentList.eq_def]
  split
  · -- A closing parenthesis right behind the opening one means no arguments.
    rename_i opening closing rest
    exact .pure ⟨[_, _], rfl, .constant name opening closing⟩
  · rename_i opening after unclosed
    have listed := within after (Nat.lt_succ_self _)
    refine Delivers.bind (listed.fails fun _ refused => refused.cons _) ?_
    rintro ⟨es, rest, shorter⟩ ⟨taken, same, listed⟩
    dsimp only at same ⊢
    -- Otherwise the arguments have to end in front of a closing parenthesis.
    split
    · rename_i closing rest _
      refine .pure ⟨_ :: (taken ++ [⟨.closing, closing⟩]), ?_, .call name opening closing listed⟩
      simp only [same, List.cons_append, List.append_assoc, List.nil_append]
    · exact refused_of_parse rfl
  · exact refused_of_parse rfl
termination_by 8 * ts.length + 1
decreasing_by omega

/-- Expressions with commas between them are read from what derives them. -/
theorem arguments_derives (ts : List Token) : ReadListed (arguments ts) := by
  rw [arguments]
  -- An argument is a whole expression, with operators of every level.
  refine (chain_derives 0 ts (Nat.zero_le _)).bind ?_
  rintro ⟨e, rest, shorter⟩ ⟨taken, same, derives⟩
  dsimp only at same ⊢
  split
  · -- Behind a comma there are further arguments.
    rename_i comma after shorter
    have fewer : after.length < ts.length := Nat.lt_of_succ_lt shorter
    have others := arguments_derives after
    refine (others.fails fun _ refused => (refused.cons _).behind same).bind ?_
    rintro ⟨es, rest, _⟩ ⟨others, more, listed⟩
    refine .pure ⟨taken ++ ⟨.comma, comma⟩ :: others, ?_, .cons comma derives listed⟩
    simp only [same, more, List.append_assoc, List.cons_append]
  · -- Without a comma the argument is the last one.
    exact .pure ⟨taken, same, .single derives⟩
termination_by 8 * ts.length + 8
decreasing_by all_goals omega
end

/-- Tokens are read as an expression that they derive, or they are refused. -/
theorem ofTokens_derives (ts : List Token) : Delivers (Derives 0 ts) (Refused ts) (ofTokens ts) := by
  -- What is left over is no more than a failure.
  refine (chain_derives 0 ts (Nat.zero_le _)).bind ?_
  rintro ⟨e, rest, _⟩ ⟨taken, same, derives⟩
  dsimp only at same ⊢
  split
  · rw [List.append_nil] at same
    exact .pure (same ▸ derives)
  · split
    · exact refused_of_parse rfl
    · exact refused_of_parse rfl

end Spreadsheet.Expr
