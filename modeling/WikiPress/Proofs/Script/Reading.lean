import WikiPress.Script.Expr
import Mathlib.Data.List.Basic

/-!
# Proofs/Script/Reading — the tokens of an expression are read back

    sum         operand + operand + …        left-associative
    operand     primary .name(…) .name …     methods bind tighter than sums
    primary     literal   name   name(…)   ( sum )

For each way to put an expression together there is one lemma that puts its tokens together: if the
parts are read as their expressions, whatever follows them, so is the whole (`IsOperand.method`,
`IsSum.add`, `IsOperand.call`, …).  Reading a token lowers the fuel by five at most, which is what
the reader of a program allows for.
-/

namespace WikiPress.Script

/-- **Tokens that are read as an operand**: the reader gets to the methods called on it. -/
def IsOperand (ts : List Token) (e : Expr) : Prop :=
  ∀ (fuel : Nat) (rest : List Token), 5 * ts.length ≤ fuel → rest.head? ≠ some .lparen →
    ∃ left, fuel ≤ left + 5 * ts.length ∧ readOperand fuel (ts ++ rest) = readMethods left e rest

/-- **Tokens that are read as a sum**: the reader gets to the terms added to it. -/
def IsSum (ts : List Token) (e : Expr) : Prop :=
  ∀ (fuel : Nat) (rest : List Token), 5 * ts.length < fuel → rest.head? ≠ some .lparen →
    rest.head? ≠ some .dot →
    ∃ left, fuel ≤ left + 5 * ts.length + 1 ∧ readSum fuel (ts ++ rest) = readTerms left e rest

/-- **Tokens that are read as a list of arguments.** -/
def AreArgs (ts : List Token) (es : List Expr) : Prop :=
  ∀ (fuel : Nat) (rest : List Token), 5 * ts.length + 2 < fuel →
    readArgs fuel (ts ++ .rparen :: rest) = .ok (es, rest)

variable {ts args : List Token} {e : Expr} {es : List Expr}

/-! ## Where reading ends -/

theorem readMethods_of_ne_dot {rest : List Token} (h : rest.head? ≠ some .dot) (left : Nat) :
    readMethods left e rest = .ok (e, rest) := by
  rw [readMethods.eq_def]
  split
  · exact absurd rfl h
  · exact absurd rfl h
  · exact absurd rfl h
  · rfl

theorem readTerms_of_ne_plus {rest : List Token} (h : rest.head? ≠ some .plus) (left : Nat) :
    readTerms left e rest = .ok (e, rest) := by
  rw [readTerms.eq_def]
  split
  · exact absurd rfl h
  · rfl

/-- A sum ends where neither a term nor a method follows. -/
theorem IsSum.readSum_eq (h : IsSum ts e) {fuel : Nat} (hfuel : 5 * ts.length < fuel)
    (rest : List Token) (hrest : ∀ t ∈ [Token.lparen, .dot, .plus], rest.head? ≠ some t) :
    readSum fuel (ts ++ rest) = .ok (e, rest) := by
  obtain ⟨left, -, hread⟩ := h fuel rest hfuel (hrest _ (by simp)) (hrest _ (by simp))
  rw [hread, readTerms_of_ne_plus (hrest _ (by simp))]

/-- No sum begins with a closing parenthesis. -/
theorem IsSum.readArgs_eq (h : IsSum ts e) {rest : List Token}
    (hrest : ∀ t ∈ [Token.lparen, .dot, .plus], rest.head? ≠ some t) (fuel : Nat) :
    readArgs (fuel + 1) (ts ++ rest) = readArgList fuel (ts ++ rest) := by
  have hread : readSum (5 * ts.length + 3) (ts ++ rest) = .ok (e, rest) :=
    h.readSum_eq (by omega) rest hrest
  rw [readArgs]
  intro behind hts
  rw [hts] at hread
  exact absurd hread (by simp [readSum, readOperand, readPrimary, bind, Except.bind])

/-! ## Operands -/

/-- An operand is a sum of one term. -/
theorem IsOperand.sum (h : IsOperand ts e) : IsSum ts e := by
  intro fuel rest hfuel hparen hdot
  obtain ⟨fuel, rfl⟩ : ∃ n, fuel = n + 1 := ⟨fuel - 1, by omega⟩
  obtain ⟨left, hleft, hread⟩ := h fuel rest (by omega) hparen
  rw [readMethods_of_ne_dot hdot] at hread
  refine ⟨fuel, by omega, ?_⟩
  rw [readSum, hread]
  rfl

/-- A literal or a name is an operand. -/
theorem isOperand_str (text : Text) : IsOperand [.str text] (.str text) := by
  intro fuel rest hfuel _
  obtain ⟨fuel, rfl⟩ : ∃ n, fuel = n + 2 := ⟨fuel - 2, by simp at hfuel; omega⟩
  exact ⟨fuel + 1, by simp, rfl⟩

theorem isOperand_int (value : Nat) : IsOperand [.int value] (.int value) := by
  intro fuel rest hfuel _
  obtain ⟨fuel, rfl⟩ : ∃ n, fuel = n + 2 := ⟨fuel - 2, by simp at hfuel; omega⟩
  exact ⟨fuel + 1, by simp, rfl⟩

theorem isOperand_ident (name : Text) : IsOperand [.ident name] (.ident name) := by
  intro fuel rest hfuel hparen
  obtain ⟨fuel, rfl⟩ : ∃ n, fuel = n + 2 := ⟨fuel - 2, by simp at hfuel; omega⟩
  refine ⟨fuel + 1, by simp, ?_⟩
  have hprimary : readPrimary (fuel + 1) (.ident name :: rest) = .ok (.ident name, rest) := by
    cases rest with
    | nil => rfl
    | cons t rest =>
      cases t <;> first
        | rfl
        | exact absurd rfl hparen
  rw [List.singleton_append, readOperand, hprimary]
  rfl

/-- A sum in parentheses is an operand. -/
theorem IsSum.parens (h : IsSum ts e) : IsOperand (.lparen :: (ts ++ [.rparen])) e := by
  intro fuel rest hfuel _
  rw [List.length_cons, List.length_append, List.length_singleton] at hfuel ⊢
  obtain ⟨fuel, rfl⟩ : ∃ n, fuel = n + 2 := ⟨fuel - 2, by omega⟩
  refine ⟨fuel + 1, by omega, ?_⟩
  have hsum : readSum fuel (ts ++ .rparen :: rest) = .ok (e, .rparen :: rest) :=
    h.readSum_eq (by omega) _ (by simp)
  have hprimary : readPrimary (fuel + 1) (.lparen :: (ts ++ .rparen :: rest)) = .ok (e, rest) := by
    rw [readPrimary]
    simp only [hsum, bind, Except.bind, pure, Except.pure]
  rw [List.cons_append, List.append_assoc, List.singleton_append, readOperand, hprimary]
  rfl

/-- A call of a host function is an operand. -/
theorem AreArgs.call (h : AreArgs args es) (name : Text) :
    IsOperand (.ident name :: .lparen :: (args ++ [.rparen])) (.call name es) := by
  intro fuel rest hfuel _
  rw [List.length_cons, List.length_cons, List.length_append, List.length_singleton] at hfuel ⊢
  obtain ⟨fuel, rfl⟩ : ∃ n, fuel = n + 2 := ⟨fuel - 2, by omega⟩
  refine ⟨fuel + 1, by omega, ?_⟩
  have hargs := h fuel rest (by omega)
  have hprimary : readPrimary (fuel + 1) (.ident name :: .lparen :: (args ++ .rparen :: rest)) =
      .ok (.call name es, rest) := by
    rw [readPrimary]
    simp only [hargs, bind, Except.bind, pure, Except.pure]
  rw [List.cons_append, List.cons_append, List.append_assoc, List.singleton_append, readOperand,
    hprimary]
  rfl

/-- A call of a method of an operand is an operand. -/
theorem IsOperand.method (h : IsOperand ts e) (hargs : AreArgs args es) (name : Text) :
    IsOperand (ts ++ .dot :: .ident name :: .lparen :: (args ++ [.rparen]))
      (.method e name es) := by
  intro fuel rest hfuel _
  simp only [List.length_append, List.length_cons, List.length_nil] at hfuel ⊢
  obtain ⟨left, hleft, hread⟩ := h fuel
    (.dot :: .ident name :: .lparen :: (args ++ .rparen :: rest)) (by omega) (by simp)
  obtain ⟨left, rfl⟩ : ∃ n, left = n + 1 := ⟨left - 1, by omega⟩
  refine ⟨left, by omega, ?_⟩
  have hargs := hargs left rest (by omega)
  have htokens : (ts ++ .dot :: .ident name :: .lparen :: (args ++ [.rparen])) ++ rest =
      ts ++ .dot :: .ident name :: .lparen :: (args ++ .rparen :: rest) := by simp
  rw [htokens, hread, readMethods, hargs]
  rfl

/-- …and so is one without an argument list. -/
theorem IsOperand.bare (h : IsOperand ts e) (name : Text) :
    IsOperand (ts ++ [.dot, .ident name]) (.method e name []) := by
  intro fuel rest hfuel hparen
  simp only [List.length_append, List.length_cons, List.length_nil] at hfuel ⊢
  obtain ⟨left, hleft, hread⟩ := h fuel (.dot :: .ident name :: rest) (by omega) (by simp)
  obtain ⟨left, rfl⟩ : ∃ n, left = n + 1 := ⟨left - 1, by omega⟩
  refine ⟨left, by omega, ?_⟩
  have hmethod : readMethods (left + 1) e (.dot :: .ident name :: rest) =
      readMethods left (.method e name []) rest := by
    cases rest with
    | nil => rfl
    | cons t rest =>
      cases t <;> first
        | rfl
        | exact absurd rfl hparen
  rw [List.append_assoc, List.cons_append, List.singleton_append, hread, hmethod]

/-! ## Sums -/

/-- **A sum and one more operand** is a sum, whose left side is the sum before. -/
theorem IsSum.add {left right : List Token} {a b : Expr} (hleft : IsSum left a)
    (hright : IsOperand right b) : IsSum (left ++ .plus :: right) (.add a b) := by
  intro fuel rest hfuel hparen hdot
  simp only [List.length_append, List.length_cons] at hfuel ⊢
  obtain ⟨fuel', hfuel', hread⟩ :=
    hleft fuel (.plus :: (right ++ rest)) (by omega) (by simp) (by simp)
  obtain ⟨fuel', rfl⟩ : ∃ n, fuel' = n + 1 := ⟨fuel' - 1, by omega⟩
  obtain ⟨_, -, hoperand⟩ := hright fuel' rest (by omega) hparen
  rw [readMethods_of_ne_dot hdot] at hoperand
  refine ⟨fuel', by omega, ?_⟩
  rw [List.append_assoc, List.cons_append, hread, readTerms, hoperand]
  rfl

/-! ## Arguments -/

theorem areArgs_nil : AreArgs [] [] := by
  intro fuel rest hfuel
  obtain ⟨fuel, rfl⟩ : ∃ n, fuel = n + 1 := ⟨fuel - 1, by omega⟩
  rfl

/-- Tokens of arguments behind one another. -/
def AreMoreArgs (ts : List Token) (es : List Expr) : Prop :=
  ∀ (fuel : Nat) (rest : List Token), 5 * ts.length + 1 < fuel →
    readArgList fuel (ts ++ .rparen :: rest) = .ok (es, rest)

theorem IsSum.last (h : IsSum ts e) : AreMoreArgs ts [e] := by
  intro fuel rest hfuel
  obtain ⟨fuel, rfl⟩ : ∃ n, fuel = n + 1 := ⟨fuel - 1, by omega⟩
  have hsum : readSum fuel (ts ++ .rparen :: rest) = .ok (e, .rparen :: rest) :=
    h.readSum_eq (by omega) _ (by simp)
  rw [readArgList, hsum]
  rfl

theorem IsSum.more (h : IsSum ts e) (hargs : AreMoreArgs args es) :
    AreMoreArgs (ts ++ .comma :: args) (e :: es) := by
  intro fuel rest hfuel
  simp only [List.length_append, List.length_cons] at hfuel
  obtain ⟨fuel, rfl⟩ : ∃ n, fuel = n + 1 := ⟨fuel - 1, by omega⟩
  have hsum : readSum fuel (ts ++ .comma :: (args ++ .rparen :: rest)) =
      .ok (e, .comma :: (args ++ .rparen :: rest)) := h.readSum_eq (by omega) _ (by simp)
  have hmore := hargs fuel rest (by omega)
  rw [List.append_assoc, List.cons_append, readArgList, hsum]
  simp only [bind, Except.bind, hmore]
  rfl

/-- An argument list that is not empty. -/
theorem IsSum.areArgs (h : IsSum ts e) {behind : List Token}
    (hbehind : behind = [] ∨ behind.head? = some .comma) (hargs : AreMoreArgs (ts ++ behind) es) :
    AreArgs (ts ++ behind) es := by
  intro fuel rest hfuel
  obtain ⟨fuel, rfl⟩ : ∃ n, fuel = n + 1 := ⟨fuel - 1, by omega⟩
  have hends : ∀ t ∈ [Token.lparen, .dot, .plus], (behind ++ .rparen :: rest).head? ≠ some t := by
    rcases hbehind with rfl | hbehind
    · simp
    · obtain ⟨behind, rfl⟩ := List.head?_eq_some_iff.1 hbehind
      simp
  rw [List.append_assoc, h.readArgs_eq hends, ← List.append_assoc]
  exact hargs fuel rest (by omega)

end WikiPress.Script
