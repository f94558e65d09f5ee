import Mathlib.Algebra.Ring.Nat
import WikiPress.Proofs.Script.Lexing
import WikiPress.Proofs.Script.Reading
import WikiPress.Script.Engine

/-!
# Proofs/Script/Sums — sums are exact

    text          (7 + 04)+ 9223372036854775807       3 + 9223372036854775808 + (1
    tokens     (  7  +  4  )  +  9223372036854775807     the numeral is too large
    value              11  +  9223372036854775807
                    the sum is too large

A sum can be too large for a number of 64 bits in a numeral or in any of its partial sums.  Neither
happens unless the whole is too large, for nothing is negative: so a script that writes a sum
evaluates to its decimal form exactly if that fits, and fails with a fault of its own kind otherwise
(`evaluate_sum`).
-/

namespace WikiPress.Script

/-- **A text that writes a sum**, and the number it comes to: numerals of any length, joined by plus
signs, with parentheses around any part and blanks around any part. -/
inductive WritesSum : Text → Nat → Prop
  | numeral {digits : Text} (hne : digits ≠ []) (hdigits : digits.all Text.isDigit = true) :
      WritesSum digits (Text.decimalValue digits)
  | plus {s t : Text} {m n : Nat} (hs : WritesSum s m) (ht : WritesSum t n) :
      WritesSum (s ++ '+' :: t) (m + n)
  | parens {s : Text} {n : Nat} (hs : WritesSum s n) : WritesSum ('(' :: (s ++ [')'])) n
  | blanks {b s b' : Text} {n : Nat} (hb : Text.allBlank b = true) (hs : WritesSum s n)
      (hb' : Text.allBlank b' = true) : WritesSum (b ++ s ++ b') n

/-! ## Evaluation -/

/-- **An expression that comes to a number**, or to an overflow if that is too large. -/
def ComesTo (e : Expr) (n : Nat) : Prop :=
  ∀ functions scope, e.eval functions scope =
    if n ≤ Text.maxSigned then .ok (.int n) else .error .overflow

theorem comesTo_int {n : Nat} (h : n ≤ Text.maxSigned) : ComesTo (.int n) n :=
  fun _ _ => (if_pos h).symm

/-- A partial sum that overflows is part of a sum that does. -/
theorem ComesTo.add {a b : Expr} {m n : Nat} (ha : ComesTo a m) (hb : ComesTo b n) :
    ComesTo (.add a b) (m + n) := by
  intro functions scope
  rw [Expr.eval, ha functions scope]
  by_cases hm : m ≤ Text.maxSigned
  · rw [if_pos hm, hb functions scope]
    by_cases hn : n ≤ Text.maxSigned
    · rw [if_pos hn]
      simp only [bind, Except.bind, Script.add, Bool.and_eq_true, decide_eq_true_eq]
      split_ifs
      all_goals first | rfl | omega
    · rw [if_neg hn, if_neg (by omega)]
      rfl
  · rw [if_neg hm, if_neg (by omega)]
    rfl

/-! ## Reading -/

/-- **Tokens that are read as a sum**, by themselves and behind another sum. -/
structure AreSum (ts : List Token) (n : Nat) : Prop where
  head_ne : ∀ name, ts.head? ≠ some (.ident name)
  alone : ∃ e, IsSum ts e ∧ ComesTo e n
  behind : ∀ {left : List Token} {a : Expr} {m : Nat}, IsSum left a → ComesTo a m →
    ∃ e, IsSum (left ++ .plus :: ts) e ∧ ComesTo e (m + n)

section Tokens

variable {ts left right : List Token} {e : Expr} {m n : Nat}

theorem IsOperand.areSum (h : IsOperand ts e) (he : ComesTo e n)
    (hhead : ∀ name, ts.head? ≠ some (.ident name)) : AreSum ts n where
  head_ne := hhead
  alone := ⟨e, h.sum, he⟩
  behind hleft ha := ⟨_, hleft.add h, ha.add he⟩

theorem areSum_int (h : n ≤ Text.maxSigned) : AreSum [.int n] n :=
  (isOperand_int n).areSum (comesTo_int h) (by simp)

theorem AreSum.parens (h : AreSum ts n) : AreSum (.lparen :: (ts ++ [.rparen])) n := by
  obtain ⟨e, he, hn⟩ := h.alone
  exact he.parens.areSum hn (by simp)

/-- Sums are read from left to right, so that the terms of the right one are added one by one. -/
theorem AreSum.plus (hleft : AreSum left m) (hright : AreSum right n) :
    AreSum (left ++ .plus :: right) (m + n) where
  head_ne name := by
    have hhead := hleft.head_ne name
    cases left with
    | nil => simp
    | cons => exact hhead
  alone := by
    obtain ⟨a, ha, hm⟩ := hleft.alone
    exact hright.behind ha hm
  behind hfirst hk := by
    obtain ⟨a, ha, hm⟩ := hleft.behind hfirst hk
    obtain ⟨e, he, hn⟩ := hright.behind ha hm
    rw [List.append_assoc, List.cons_append] at he
    exact ⟨e, he, by rwa [← Nat.add_assoc]⟩

/-- A sum is a program. -/
theorem IsSum.readProgram_eq (h : IsSum ts e) (hhead : ∀ name, ts.head? ≠ some (.ident name)) :
    readProgram ts = .ok e := by
  have hbound : 5 * ts.length < nestingBound ts := by
    rw [nestingBound]
    omega
  have hread := h.readSum_eq hbound [] (by simp)
  rw [List.append_nil] at hread
  unfold readProgram
  split
  · exact absurd rfl (hhead _)
  · simp only [hread, bind, Except.bind, pure, Except.pure]

end Tokens

/-! ## Cutting -/

/-- Whether a text does not go on with a digit. -/
def EndsNumeral (rest : Text) : Prop := ∀ c ∈ rest.head?, Text.isDigit c = false

/-- **What a part of a script is cut into**: tokens, in front of those of the rest, or a fault. -/
def Cuts (s : Text) (cut : Except SyntaxFault (List Token)) : Prop :=
  ∀ rest, EndsNumeral rest → tokens (s ++ rest) = do
    let ts ← cut
    return ts ++ (← tokens rest)

theorem endsNumeral_cons {c : Char} (hc : Text.isDigit c = false) (s : Text) :
    EndsNumeral (c :: s) := by
  intro d hd
  obtain rfl : c = d := Option.some.inj hd
  exact hc

theorem EndsNumeral.blanks {b rest : Text} (hb : Text.allBlank b = true) (hrest : EndsNumeral rest) :
    EndsNumeral (b ++ rest) := by
  cases b with
  | nil => exact hrest
  | cons c b =>
    refine endsNumeral_cons (Bool.eq_false_iff.2 fun hdigit => ?_) _
    have hblank := List.all_eq_true.1 hb c List.mem_cons_self
    rw [isBlank_eq_false (.inr (.inl hdigit))] at hblank
    exact absurd hblank (by decide)

section Parts

variable {s t : Text} {cut cut' : Except SyntaxFault (List Token)}

/-- A numeral is one token, unless it is too large. -/
theorem cuts_numeral {digits : Text} (hne : digits ≠ [])
    (hdigits : digits.all Text.isDigit = true) :
    Cuts digits (if Text.decimalValue digits ≤ Text.maxSigned then
      .ok [.int (Text.decimalValue digits)] else .error (.integerTooLarge digits)) := by
  intro rest hrest
  obtain ⟨c, digits, rfl⟩ := List.exists_cons_of_ne_nil hne
  obtain ⟨hc, hdigits⟩ := Bool.and_eq_true_iff.1 (List.all_cons ▸ hdigits)
  have hstart := Text.trimStart_cons_of_not_blank (isBlank_eq_false (.inr (.inl hc)))
  rw [List.cons_append, tokens_eq_of_trimStart (hstart _), token_numeral hc hdigits hrest]
  split
  · rfl
  · rfl

theorem Cuts.plus (hs : Cuts s cut) (ht : Cuts t cut') :
    Cuts (s ++ '+' :: t) (do return (← cut) ++ .plus :: (← cut')) := by
  intro rest hrest
  rw [List.append_assoc, List.cons_append, hs _ (endsNumeral_cons rfl _), tokens_mark rfl,
    ht rest hrest]
  cases cut with
  | error => rfl
  | ok =>
    cases cut' with
    | error => rfl
    | ok =>
      cases tokens rest with
      | error => rfl
      | ok => simp [bind, Except.bind, pure, Except.pure, Except.map]

theorem Cuts.parens (hs : Cuts s cut) :
    Cuts ('(' :: (s ++ [')'])) (do return .lparen :: ((← cut) ++ [.rparen])) := by
  intro rest _
  rw [List.cons_append, List.append_assoc, List.singleton_append, tokens_mark rfl,
    hs _ (endsNumeral_cons rfl _), tokens_mark rfl]
  cases cut with
  | error => rfl
  | ok =>
    cases tokens rest with
    | error => rfl
    | ok => simp [bind, Except.bind, pure, Except.pure, Except.map]

theorem Cuts.blanks {b b' : Text} (hb : Text.allBlank b = true) (hs : Cuts s cut)
    (hb' : Text.allBlank b' = true) : Cuts (b ++ s ++ b') cut := by
  intro rest hrest
  rw [List.append_assoc, List.append_assoc, tokens_blanks hb, hs _ (hrest.blanks hb'),
    tokens_blanks hb']

end Parts

/-- Tokens of a sum, or a numeral that makes the sum too large. -/
def CutOfSum (n : Nat) : Except SyntaxFault (List Token) → Prop
  | .ok ts => AreSum ts n
  | .error fault => Text.maxSigned < n ∧ ∃ digits, fault = .integerTooLarge digits

/-- **A text that writes a sum is cut into tokens that are read as this sum**, unless a numeral in it
is too large. -/
theorem WritesSum.exists_cuts {s : Text} {n : Nat} (h : WritesSum s n) :
    ∃ cut, Cuts s cut ∧ CutOfSum n cut := by
  induction h with
  | @numeral digits hne hdigits =>
    refine ⟨_, cuts_numeral hne hdigits, ?_⟩
    split
    · next hsize => exact areSum_int hsize
    · next hsize => exact ⟨Nat.lt_of_not_le hsize, digits, rfl⟩
  | @plus s t m n _ _ ihs iht =>
    obtain ⟨cut, hs, hm⟩ := ihs
    obtain ⟨cut', ht, hn⟩ := iht
    refine ⟨_, hs.plus ht, ?_⟩
    cases cut with
    | error => exact ⟨Nat.lt_add_right n hm.1, hm.2⟩
    | ok left =>
      cases cut' with
      | error => exact ⟨Nat.lt_add_left m hn.1, hn.2⟩
      | ok right => exact AreSum.plus hm hn
  | parens _ ih =>
    obtain ⟨cut, hs, hn⟩ := ih
    refine ⟨_, hs.parens, ?_⟩
    cases cut with
    | error => exact hn
    | ok ts => exact AreSum.parens hn
  | blanks hb _ hb' ih =>
    obtain ⟨cut, hs, hn⟩ := ih
    exact ⟨cut, hs.blanks hb hb', hn⟩

/-! ## Scripts -/

/-- A script that writes a sum evaluates to it, or fails in a sum or in a numeral. -/
theorem evaluate_of_writesSum {s : Text} {n : Nat} (h : WritesSum s n) (functions : Functions)
    (scope : Scope) :
    if n ≤ Text.maxSigned then evaluate functions s scope = .ok (Text.ofNat n)
    else evaluate functions s scope = .error .overflow ∨
      ∃ digits, evaluate functions s scope = .error (.notScript (.integerTooLarge digits)) := by
  obtain ⟨cut, hs, hn⟩ := h.exists_cuts
  have hend : EndsNumeral [] := nofun
  have hcut := hs [] hend
  rw [List.append_nil] at hcut
  cases cut with
  | ok ts =>
    have hread : AreSum ts n := hn
    obtain ⟨e, he, hvalue⟩ := hread.alone
    have htokens : tokens s = .ok ts := hcut.trans (congrArg Except.ok (List.append_nil ts))
    have hparse : parse s = .ok e := by
      rw [parse, htokens]
      exact he.readProgram_eq hread.head_ne
    rw [evaluate, hparse]
    dsimp only
    rw [hvalue functions scope]
    split
    · rfl
    · exact .inl rfl
  | error fault =>
    obtain ⟨hlarge, digits, rfl⟩ := hn
    have hparse : parse s = .error (.integerTooLarge digits) := by
      rw [parse, hcut]
      rfl
    rw [if_neg (Nat.not_le.2 hlarge), evaluate, hparse]
    exact .inr ⟨digits, rfl⟩

/-- **Sums are exact.**  A script that writes a sum gives its decimal form exactly if that is a
signed number of 64 bits, and fails with a fault of ranges exactly if it is not. -/
theorem evaluate_sum {s : Text} {n : Nat} (h : WritesSum s n) (functions : Functions)
    (scope : Scope) :
    (evaluate functions s scope = .ok (Text.ofNat n) ↔ n ≤ 2 ^ 63 - 1) ∧
      ((∃ fault, evaluate functions s scope = .error fault ∧ fault.name = lit "RangeError") ↔
        2 ^ 63 - 1 < n) := by
  have hbound : 2 ^ 63 - 1 = Text.maxSigned := rfl
  have heval := evaluate_of_writesSum h functions scope
  rw [hbound]
  split at heval
  · next hfits =>
    rw [heval]
    exact ⟨iff_of_true rfl hfits, iff_of_false (by simp) (Nat.not_lt.2 hfits)⟩
  · next hlarge =>
    have hlt := Nat.lt_of_not_le hlarge
    rcases heval with heval | ⟨digits, heval⟩
    · rw [heval]
      exact ⟨iff_of_false nofun hlarge, iff_of_true ⟨_, rfl, rfl⟩ hlt⟩
    · rw [heval]
      exact ⟨iff_of_false nofun hlarge, iff_of_true ⟨_, rfl, rfl⟩ hlt⟩

/-- The largest sum there is, and one more. -/
theorem evaluate_sum_at_bound :
    evaluate [] (lit "(007 + 9223372036854775800)") ⟨lit "/a.md", []⟩ =
        .ok (lit "9223372036854775807") ∧
      ∃ fault, evaluate [] (lit "1+(007 + 9223372036854775800)") ⟨lit "/a.md", []⟩ =
        .error fault ∧ fault.name = lit "RangeError" := by
  have hsum : WritesSum (lit "(007 + 9223372036854775800)") 9223372036854775807 := by
    have hleft : WritesSum (lit "007") 7 := .numeral (by decide) (by decide)
    have hright : WritesSum (lit "9223372036854775800") 9223372036854775800 :=
      .numeral (by decide) (by decide)
    have hspace : Text.allBlank [' '] = true := rfl
    have hnone : Text.allBlank [] = true := rfl
    exact .parens (.plus (.blanks hnone hleft hspace) (.blanks hspace hright hnone))
  have hone : WritesSum (lit "1") 1 := .numeral (by decide) (by decide)
  exact ⟨(evaluate_sum hsum [] ⟨lit "/a.md", []⟩).1.2 (by decide),
    (evaluate_sum (hone.plus hsum) [] ⟨lit "/a.md", []⟩).2.2 (by decide)⟩

end WikiPress.Script
