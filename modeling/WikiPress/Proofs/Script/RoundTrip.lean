import WikiPress.Proofs.Script.Lexing
import WikiPress.Proofs.Script.Reading
import WikiPress.Script.Engine

/-!
# Proofs/Script/RoundTrip — printed scripts are read back

    phrase      a + (b + 'c').trim        how an expression may be written
    tokens      a  +  (  b  +  'c'  )  .  trim
    text        return a+( b +'c' ).trim ;

An expression may be written in several ways: with parentheses where none are needed, and with or
without the empty argument list of a method (`Phrase`).  Whichever is chosen, its tokens are read as
the expression, and so is every text that spells them (`parse_of_written`); the plain way to write
it is one of them (`parse_print`).
-/

namespace WikiPress.Script

/-! ## Lexical expressions -/

mutual

/-- **Expressions that can be written**: their names are names, and their integers fit. -/
def Expr.isLexical : Expr → Bool
  | .str _ => true
  | .int value => decide (value ≤ Text.maxSigned)
  | .ident name => isName name
  | .call name args => isName name && allLexical args
  | .method target name args => target.isLexical && (isName name && allLexical args)
  | .add left right => left.isLexical && right.isLexical

/-- The same of the arguments of a call. -/
def allLexical : List Expr → Bool
  | [] => true
  | e :: es => e.isLexical && allLexical es

end

/-! ## Phrases -/

/-- A way to write an expression. -/
inductive Phrase
  | str (text : Text)
  | int (value : Nat)
  | ident (name : Text)
  | call (name : Text) (args : List Phrase)
  /-- A method with its argument list. -/
  | method (target : Phrase) (name : Text) (args : List Phrase)
  /-- A method without one. -/
  | bare (target : Phrase) (name : Text)
  | add (left right : Phrase)
  /-- Parentheses that are not needed. -/
  | parens (inner : Phrase)

namespace Phrase

/-- Induction on phrases, where the arguments are covered. -/
@[elab_as_elim]
theorem ind {motive : Phrase → Prop} (str : ∀ text, motive (.str text))
    (int : ∀ value, motive (.int value)) (ident : ∀ name, motive (.ident name))
    (call : ∀ name args, (∀ a ∈ args, motive a) → motive (.call name args))
    (method : ∀ target name args, motive target → (∀ a ∈ args, motive a) →
      motive (.method target name args))
    (bare : ∀ target name, motive target → motive (.bare target name))
    (add : ∀ left right, motive left → motive right → motive (.add left right))
    (parens : ∀ inner, motive inner → motive (.parens inner)) : ∀ p, motive p
  | .str text => str text
  | .int value => int value
  | .ident name => ident name
  | .call name args =>
    call name args fun a _ => ind str int ident call method bare add parens a
  | .method target name args =>
    method target name args (ind str int ident call method bare add parens target)
      fun a _ => ind str int ident call method bare add parens a
  | .bare target name => bare target name (ind str int ident call method bare add parens target)
  | .add left right =>
    add left right (ind str int ident call method bare add parens left)
      (ind str int ident call method bare add parens right)
  | .parens inner => parens inner (ind str int ident call method bare add parens inner)

mutual

/-- The expression that is written. -/
def expr : Phrase → Expr
  | str text => .str text
  | int value => .int value
  | ident name => .ident name
  | call name args => .call name (exprs args)
  | method target name args => .method target.expr name (exprs args)
  | bare target name => .method target.expr name []
  | add left right => .add left.expr right.expr
  | parens inner => inner.expr

/-- The expressions that are written. -/
def exprs : List Phrase → List Expr
  | [] => []
  | p :: ps => p.expr :: exprs ps

end

/-- Whether a phrase is a sum, which needs parentheses as an operand. -/
def isSum : Phrase → Bool
  | add .. => true
  | _ => false

/-- Tokens in parentheses if there is need for them. -/
def grouped (needed : Bool) (ts : List Token) : List Token :=
  if needed then .lparen :: (ts ++ [.rparen]) else ts

mutual

/-- **The tokens of a phrase.** -/
def tokens : Phrase → List Token
  | str text => [.str text]
  | int value => [.int value]
  | ident name => [.ident name]
  | call name args => .ident name :: .lparen :: (argTokens args ++ [.rparen])
  | method target name args =>
    grouped target.isSum target.tokens ++
      .dot :: .ident name :: .lparen :: (argTokens args ++ [.rparen])
  | bare target name => grouped target.isSum target.tokens ++ [.dot, .ident name]
  | add left right => left.tokens ++ .plus :: grouped right.isSum right.tokens
  | parens inner => .lparen :: (inner.tokens ++ [.rparen])

/-- The tokens of arguments, with commas between them. -/
def argTokens : List Phrase → List Token
  | [] => []
  | [p] => p.tokens
  | p :: q :: rest => p.tokens ++ .comma :: argTokens (q :: rest)

end

/-- The tokens of a phrase as an operand. -/
def operand (p : Phrase) : List Token := grouped p.isSum p.tokens

/-! ## Reading -/

/-- Where the arguments behind the first one begin. -/
theorem argTokens_cons (p : Phrase) (ps : List Phrase) : ∃ behind,
    (behind = [] ∨ behind.head? = some .comma) ∧ argTokens (p :: ps) = p.tokens ++ behind := by
  cases ps with
  | nil => exact ⟨[], .inl rfl, (List.append_nil _).symm⟩
  | cons q ps => exact ⟨_, .inr rfl, rfl⟩

theorem areMoreArgs_argTokens {p : Phrase} {ps : List Phrase}
    (h : ∀ a ∈ p :: ps, IsSum a.tokens a.expr) :
    AreMoreArgs (argTokens (p :: ps)) (exprs (p :: ps)) := by
  induction ps generalizing p with
  | nil => exact (h p List.mem_cons_self).last
  | cons q ps ih =>
    exact (h p List.mem_cons_self).more (ih fun a ha => h a (List.mem_cons_of_mem _ ha))

/-- Arguments are read one after the other. -/
theorem areArgs_argTokens {args : List Phrase} (h : ∀ a ∈ args, IsSum a.tokens a.expr) :
    AreArgs (argTokens args) (exprs args) := by
  cases args with
  | nil => exact areArgs_nil
  | cons p ps =>
    obtain ⟨behind, hbehind, htokens⟩ := argTokens_cons p ps
    have hmore := areMoreArgs_argTokens h
    rw [htokens] at hmore ⊢
    exact (h p List.mem_cons_self).areArgs hbehind hmore

/-- **The tokens of a phrase are read as its expression.** -/
theorem isSum_and_isOperand (p : Phrase) : IsSum p.tokens p.expr ∧ IsOperand p.operand p.expr := by
  have hoperand : ∀ p : Phrase, p.isSum = false → IsOperand p.tokens p.expr →
      IsSum p.tokens p.expr ∧ IsOperand p.operand p.expr := fun p hp h =>
    ⟨h.sum, by rwa [operand, grouped, hp, if_neg Bool.false_ne_true]⟩
  induction p using Phrase.ind with
  | str text => exact hoperand _ rfl (isOperand_str text)
  | int value => exact hoperand _ rfl (isOperand_int value)
  | ident name => exact hoperand _ rfl (isOperand_ident name)
  | call name args ih =>
    exact hoperand _ rfl ((areArgs_argTokens fun a ha => (ih a ha).1).call name)
  | method target name args ih ihargs =>
    exact hoperand _ rfl (ih.2.method (areArgs_argTokens fun a ha => (ihargs a ha).1) name)
  | bare target name ih => exact hoperand _ rfl (ih.2.bare name)
  | add left right ihleft ihright =>
    have hsum := ihleft.1.add ihright.2
    exact ⟨hsum, hsum.parens⟩
  | parens inner ih => exact hoperand _ rfl ih.1.parens

/-- **A program is read as its expression**, with a semicolon at the end or without. -/
theorem readProgram_tokens (p : Phrase) {ts : List Token}
    (hts : ts = p.tokens ∨ ts = p.tokens ++ [.semi]) :
    readProgram (.ident (lit "return") :: ts) = .ok p.expr := by
  have hsum := (isSum_and_isOperand p).1
  have hbound : 5 * p.tokens.length < nestingBound ts := by
    rcases hts with rfl | rfl
    · rw [nestingBound]
      omega
    · rw [nestingBound, List.length_append]
      omega
  rw [readProgram]
  simp only [beq_self_eq_true, if_true]
  rcases hts with rfl | rfl
  · have hread := hsum.readSum_eq hbound [] (by simp)
    rw [List.append_nil] at hread
    simp only [hread, bind, Except.bind]
    rfl
  · simp only [hsum.readSum_eq hbound [.semi] (by simp), bind, Except.bind]
    rfl

/-- **Every text that spells a program is read as its expression.** -/
theorem parse_of_written (p : Phrase) {ts : List Token}
    (hts : ts = p.tokens ∨ ts = p.tokens ++ [.semi]) {s : Text}
    (hs : Written (.ident (lit "return") :: ts) s) : parse s = .ok p.expr := by
  rw [parse, tokens_of_written hs]
  exact readProgram_tokens p hts

/-! ## Printing -/

/-- A character as it is printed between quotes. -/
def printChar (quote c : Char) : Text := if c == quote || c == '\\' then ['\\', c] else [c]

/-- A string literal. -/
def printString (quote : Char) (text : Text) : Text :=
  quote :: (text.flatMap (printChar quote) ++ [quote])

/-- A text in parentheses if there is need for them. -/
def enclosed (needed : Bool) (s : Text) : Text := if needed then '(' :: (s ++ [')']) else s

mutual

/-- **A phrase in print**, with its string literals between quotes of one kind. -/
def print (quote : Char) : Phrase → Text
  | str text => printString quote text
  | int value => Text.ofNat value
  | ident name => name
  | call name args => name ++ '(' :: (printArgs quote args ++ [')'])
  | method target name args =>
    enclosed target.isSum (target.print quote) ++
      '.' :: (name ++ '(' :: (printArgs quote args ++ [')']))
  | bare target name => enclosed target.isSum (target.print quote) ++ '.' :: name
  | add left right =>
    left.print quote ++ ' ' :: '+' :: ' ' :: enclosed right.isSum (right.print quote)
  | parens inner => '(' :: (inner.print quote ++ [')'])

/-- Arguments in print. -/
def printArgs (quote : Char) : List Phrase → Text
  | [] => []
  | [p] => p.print quote
  | p :: q :: rest => p.print quote ++ ',' :: ' ' :: printArgs quote (q :: rest)

end

/-! ## What is printed is written -/

theorem quoted_flatMap {quote : Char} (hquote : isQuote quote = true) (text : Text) :
    Quoted quote text (text.flatMap (printChar quote)) := by
  induction text with
  | nil => exact .nil
  | cons c text ih =>
    rw [List.flatMap_cons, printChar]
    split
    · next hc =>
      have hd : unescape c = c := by
        rcases Bool.or_eq_true_iff.1 hc with hc | hc
        · rw [beq_iff_eq.1 hc]
          simp only [isQuote, Bool.or_eq_true, beq_iff_eq] at hquote
          rcases hquote with (rfl | rfl) | rfl <;> rfl
        · rw [beq_iff_eq.1 hc]
          rfl
      exact .escaped hd ih
    · next hc =>
      rw [Bool.or_eq_true, not_or, beq_iff_eq, beq_iff_eq] at hc
      exact .raw hc.1 hc.2 ih

/-- A printed sum in parentheses where it needs them. -/
theorem written_enclosed {quote : Char} {p : Phrase} (ih : ∀ {ts : List Token} {s : Text},
      Written ts s → (∀ c ∈ s.head?, continuesIdent c = false) →
      Written (p.tokens ++ ts) (p.print quote ++ s))
    {ts : List Token} {s : Text} (h : Written ts s)
    (hs : ∀ c ∈ s.head?, continuesIdent c = false) :
    Written (p.operand ++ ts) (enclosed p.isSum (p.print quote) ++ s) := by
  rw [operand, grouped, enclosed]
  split
  · have hclosed : Written (.rparen :: ts) (')' :: s) := .mark rfl h
    have hinner := ih hclosed (continuesIdent_of_mark? rfl _)
    rw [List.cons_append, List.cons_append, List.append_assoc, List.append_assoc]
    exact .mark rfl hinner
  · exact ih h hs

theorem spells_ofNat {value : Nat} (h : value ≤ Text.maxSigned) :
    Spells (.int value) (Text.ofNat value) := by
  have hne : Text.ofNat value ≠ [] := fun hnil => by
    have hvalue := Text.decimalValue_ofNat value
    rw [hnil] at hvalue
    rw [← hvalue] at hnil
    exact absurd hnil (by decide)
  have hspells := Spells.int hne (Text.all_isDigit_ofNat value)
    (by rwa [Text.decimalValue_ofNat])
  rwa [Text.decimalValue_ofNat] at hspells

theorem isLexical_of_mem {args : List Phrase} (h : allLexical (exprs args) = true) {a : Phrase}
    (ha : a ∈ args) : a.expr.isLexical = true := by
  induction args with
  | nil => exact absurd ha List.not_mem_nil
  | cons p ps ih =>
    obtain ⟨hp, hps⟩ := Bool.and_eq_true_iff.1 h
    rcases List.mem_cons.1 ha with rfl | ha
    · exact hp
    · exact ih hps ha

/-- Arguments in print, in front of the parenthesis that ends them. -/
theorem written_printArgs {quote : Char} {args : List Phrase}
    (ih : ∀ a ∈ args, ∀ {ts : List Token} {s : Text}, Written ts s →
      (∀ c ∈ s.head?, continuesIdent c = false) →
      Written (a.tokens ++ ts) (a.print quote ++ s))
    {ts : List Token} {s : Text} (h : Written ts s) :
    Written (argTokens args ++ .rparen :: ts) (printArgs quote args ++ ')' :: s) := by
  induction args with
  | nil => exact .mark rfl h
  | cons p ps ihargs =>
    cases ps with
    | nil => exact ih p List.mem_cons_self (.mark rfl h) (continuesIdent_of_mark? rfl _)
    | cons q ps =>
      have hrest := ihargs fun a ha => ih a (List.mem_cons_of_mem _ ha)
      have hblank : Text.allBlank [' '] = true := rfl
      have hcomma : Written (.comma :: (argTokens (q :: ps) ++ .rparen :: ts))
          (',' :: ([' '] ++ (printArgs quote (q :: ps) ++ ')' :: s))) :=
        .mark rfl (hrest.blanks hblank)
      rw [argTokens, printArgs, List.append_assoc, List.append_assoc]
      exact ih p List.mem_cons_self hcomma (continuesIdent_of_mark? rfl _)

/-- A name and its arguments in print. -/
theorem written_call {quote : Char} {name : Text} (hname : isName name = true)
    {args : List Phrase} (ih : ∀ a ∈ args, ∀ {ts : List Token} {s : Text}, Written ts s →
      (∀ c ∈ s.head?, continuesIdent c = false) →
      Written (a.tokens ++ ts) (a.print quote ++ s))
    {ts : List Token} {s : Text} (h : Written ts s) :
    Written (.ident name :: .lparen :: (argTokens args ++ .rparen :: ts))
      (name ++ '(' :: (printArgs quote args ++ ')' :: s)) :=
  .cons (.ident hname) (.mark rfl (written_printArgs ih h)) (continuesIdent_of_mark? rfl _)

/-- **A phrase in print is written**, whatever is written behind it that does not go on with a
name. -/
theorem written_print {quote : Char} (hquote : isQuote quote = true) (p : Phrase)
    (hp : p.expr.isLexical = true) {ts : List Token} {s : Text} (h : Written ts s)
    (hs : ∀ c ∈ s.head?, continuesIdent c = false) :
    Written (p.tokens ++ ts) (p.print quote ++ s) := by
  induction p using Phrase.ind generalizing ts s with
  | str text =>
    exact .cons (.str hquote (quoted_flatMap hquote text)) h fun _ _ => rfl
  | int value =>
    have hvalue : value ≤ Text.maxSigned := of_decide_eq_true hp
    refine .cons (spells_ofNat hvalue) h fun c hc => ?_
    exact Bool.eq_false_iff.2 fun hdigit =>
      absurd (hs c hc) (by simp [continuesIdent_of_isDigit hdigit])
  | ident name => exact .cons (.ident hp) h hs
  | call name args ih =>
    obtain ⟨hname, hargs⟩ := Bool.and_eq_true_iff.1 hp
    have hcall := written_call hname (fun a ha => ih a ha (isLexical_of_mem hargs ha)) h
    simpa [tokens, print] using hcall
  | method target name args ih ihargs =>
    obtain ⟨htarget, hcalled⟩ := Bool.and_eq_true_iff.1 hp
    obtain ⟨hname, hargs⟩ := Bool.and_eq_true_iff.1 hcalled
    have hcall := written_call hname (fun a ha => ihargs a ha (isLexical_of_mem hargs ha)) h
    have hdot : Written (.dot :: .ident name :: .lparen :: (argTokens args ++ .rparen :: ts))
        ('.' :: (name ++ '(' :: (printArgs quote args ++ ')' :: s))) := .mark rfl hcall
    have hmethod := written_enclosed (ih htarget) hdot (continuesIdent_of_mark? rfl _)
    simpa [tokens, print, operand] using hmethod
  | bare target name ih =>
    obtain ⟨htarget, hname⟩ := Bool.and_eq_true_iff.1 hp
    obtain ⟨hname, -⟩ := Bool.and_eq_true_iff.1 hname
    have hdot : Written (.dot :: .ident name :: ts) ('.' :: (name ++ s)) :=
      .mark rfl (.cons (.ident hname) h hs)
    have hmethod := written_enclosed (ih htarget) hdot (continuesIdent_of_mark? rfl _)
    simpa [tokens, print, operand] using hmethod
  | add left right ihleft ihright =>
    obtain ⟨hleft, hright⟩ := Bool.and_eq_true_iff.1 hp
    have hblank : Text.allBlank [' '] = true := rfl
    have hoperand := written_enclosed (ihright hright) h hs
    have hplus : Written (.plus :: (right.operand ++ ts))
        ('+' :: ([' '] ++ (enclosed right.isSum (right.print quote) ++ s))) :=
      .mark rfl (hoperand.blanks hblank)
    have hends : ∀ c ∈ ([' '] ++ '+' :: ([' '] ++ (enclosed right.isSum (right.print quote) ++
        s))).head?, continuesIdent c = false := fun c hc => by
      obtain rfl : ' ' = c := Option.some.inj hc
      decide
    have hsum := ihleft hleft (hplus.blanks hblank) hends
    simpa [tokens, print, operand] using hsum
  | parens inner ih =>
    have hclosed : Written (.rparen :: ts) (')' :: s) := .mark rfl h
    have hinner := ih hp hclosed (continuesIdent_of_mark? rfl _)
    have hparens : Written (.lparen :: (inner.tokens ++ .rparen :: ts))
        ('(' :: (inner.print quote ++ ')' :: s)) := .mark rfl hinner
    simpa [tokens, print] using hparens

end Phrase

/-! ## Expressions -/

mutual

/-- **The plain way to write an expression**, with argument lists and without parentheses that are
not needed. -/
def Expr.phrase : Expr → Phrase
  | .str text => .str text
  | .int value => .int value
  | .ident name => .ident name
  | .call name args => .call name (phrases args)
  | .method target name args => .method target.phrase name (phrases args)
  | .add left right => .add left.phrase right.phrase

/-- The same for the arguments of a call. -/
def phrases : List Expr → List Phrase
  | [] => []
  | e :: es => e.phrase :: phrases es

end

mutual

theorem expr_phrase : ∀ e : Expr, e.phrase.expr = e
  | .str _ => rfl
  | .int _ => rfl
  | .ident _ => rfl
  | .call name args => by rw [Expr.phrase, Phrase.expr, exprs_phrases args]
  | .method target name args => by
    rw [Expr.phrase, Phrase.expr, expr_phrase target, exprs_phrases args]
  | .add left right => by rw [Expr.phrase, Phrase.expr, expr_phrase left, expr_phrase right]

theorem exprs_phrases : ∀ es : List Expr, Phrase.exprs (phrases es) = es
  | [] => rfl
  | e :: es => by rw [phrases, Phrase.exprs, expr_phrase e, exprs_phrases es]

end

/-- The word in front of a program. -/
theorem written_return {ts : List Token} {s : Text} (h : Written ts s) :
    Written (.ident (lit "return") :: ts) (lit "return " ++ s) := by
  have hname : isName (lit "return") = true := by decide +kernel
  have hblank : Text.allBlank [' '] = true := rfl
  have hapart : ∀ c ∈ ([' '] ++ s).head?, (Token.ident (lit "return")).absorbs c = false :=
    fun c hc => by
      obtain rfl : ' ' = c := Option.some.inj hc
      decide
  have hlit : lit "return " = lit "return" ++ [' '] := rfl
  rw [hlit, List.append_assoc]
  exact .cons (.ident hname) (h.blanks hblank) hapart

/-- **Scripts are read back.**  An expression in print, behind `return`, is read as this expression,
whichever quotes are used.  So is every text that spells the tokens of a way to write it, with
parentheses that are not needed, without empty argument lists, with a semicolon at the end and with
blanks anywhere between the tokens. -/
theorem parse_print {e : Expr} (h : e.isLexical = true) :
    (∀ quote, isQuote quote = true → parse (lit "return " ++ e.phrase.print quote) = .ok e) ∧
    ∀ p : Phrase, p.expr = e → ∀ ts, (ts = p.tokens ∨ ts = p.tokens ++ [.semi]) →
      ∀ s, Written (.ident (lit "return") :: ts) s → parse s = .ok e := by
  constructor
  · intro quote hquote
    have hend : Written [] [] := .blank rfl
    have hprint := Phrase.written_print hquote e.phrase (by rwa [expr_phrase]) hend nofun
    rw [List.append_nil, List.append_nil] at hprint
    rw [Phrase.parse_of_written e.phrase (.inl rfl) (written_return hprint), expr_phrase]
  · rintro p rfl ts hts s hs
    exact p.parse_of_written hts hs

/-- A sum as a method target, in print and with a method that has no argument list. -/
theorem parse_print_method :
    parse (lit "return a + (1 + 'it\\'s').trim()") = .ok (.add (.ident (lit "a"))
      (.method (.add (.int 1) (.str (lit "it's"))) (lit "trim") [])) ∧
    parse (lit "return a + (1 + \"it's\").trim;") = .ok (.add (.ident (lit "a"))
      (.method (.add (.int 1) (.str (lit "it's"))) (lit "trim") [])) := by
  have hlexical : (Expr.add (.ident (lit "a"))
      (.method (.add (.int 1) (.str (lit "it's"))) (lit "trim") [])).isLexical = true := by
    decide +kernel
  obtain ⟨hprint, hwritten⟩ := parse_print hlexical
  constructor
  · have htext : lit "return " ++ (Expr.add (.ident (lit "a"))
        (.method (.add (.int 1) (.str (lit "it's"))) (lit "trim") [])).phrase.print '\'' =
          lit "return a + (1 + 'it\\'s').trim()" := by decide +kernel
    rw [← htext]
    exact hprint '\'' rfl
  · have hphrase : (Phrase.add (.ident (lit "a")) (.bare (.parens (.add (.int 1)
        (.str (lit "it's")))) (lit "trim"))).expr.isLexical = true := hlexical
    have hsemi : Written [.semi] [';'] := .mark rfl (.blank rfl)
    have hwords := Phrase.written_print (rfl : isQuote '"' = true) _ hphrase hsemi
      (continuesIdent_of_mark? rfl _)
    have htext : lit "return " ++ (Phrase.print '"' (.add (.ident (lit "a")) (.bare (.parens
        (.add (.int 1) (.str (lit "it's")))) (lit "trim"))) ++ [';']) =
          lit "return a + (1 + \"it's\").trim;" := by decide +kernel
    rw [← htext]
    exact hwritten _ rfl _ (.inr rfl) _ (written_return hwords)

end WikiPress.Script
