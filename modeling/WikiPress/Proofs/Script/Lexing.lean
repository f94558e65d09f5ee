import WikiPress.Proofs.Text.Basic
import WikiPress.Script.Token

/-!
# Proofs/Script/Lexing — the tokens of a written script

    'it\'s'  name  (  42  )      ⟶      .str "it's"   .ident name   .lparen   .int 42   .rparen
    spelled  └ apart ┘

Every token has spellings: a string in any of three quotes, with a backslash in front of the
characters that need one and of any others, an integer by its digits, a name by itself
(`Spells`).  A text in which the tokens stand one after the other, with blanks between them where
two would run together, is cut into these tokens (`tokens_of_written`).
-/

namespace WikiPress.Script

/-! ## Classes of characters -/

/-- The characters that open and close a string literal. -/
def isQuote (c : Char) : Bool := c == '"' || c == '\'' || c == '`'

/-- A name: a character that may begin an identifier, and others that may continue it. -/
def isName : Text → Bool
  | [] => false
  | c :: rest => startsIdent c && rest.all continuesIdent

/-- The blanks, by number. -/
def blankNumbers : List Nat :=
  [9, 10, 11, 12, 13, 32, 0x85, 0xA0, 0x1680, 0x2000, 0x2001, 0x2002, 0x2003, 0x2004, 0x2005,
    0x2006, 0x2007, 0x2008, 0x2009, 0x200A, 0x2028, 0x2029, 0x202F, 0x205F, 0x3000]

theorem mem_blankNumbers {c : Char} (h : Text.isBlank c = true) : c.toNat ∈ blankNumbers := by
  simp only [Text.isBlank, Bool.or_eq_true, Bool.and_eq_true, decide_eq_true_eq, beq_iff_eq] at h
  simp only [blankNumbers, List.mem_cons, List.not_mem_nil, or_false]
  omega

/-- No token begins with a blank. -/
theorem isBlank_eq_false {c : Char} (h : isQuote c = true ∨ Text.isDigit c = true ∨
    startsIdent c = true ∨ (mark? c).isSome = true) : Text.isBlank c = false := by
  have hall : ∀ n ∈ blankNumbers, isQuote (Char.ofNat n) = false ∧
      Text.isDigit (Char.ofNat n) = false ∧ startsIdent (Char.ofNat n) = false ∧
      (mark? (Char.ofNat n)).isSome = false := by decide +kernel
  rw [Bool.eq_false_iff]
  intro hblank
  have hc := hall _ (mem_blankNumbers hblank)
  rw [Char.ofNat_toNat] at hc
  simp [hc] at h

theorem toNat_lt_of_isQuote {c : Char} (h : isQuote c = true) : c.toNat < 128 := by
  simp only [isQuote, Bool.or_eq_true, beq_iff_eq] at h
  rcases h with (rfl | rfl) | rfl <;> decide

theorem toNat_lt_of_mark? {c : Char} (h : (mark? c).isSome = true) : c.toNat < 128 := by
  obtain ⟨t, ht⟩ := Option.isSome_iff_exists.1 h
  rw [mark?] at ht
  split_ifs at ht with hc hc hc hc hc hc
  all_goals
    rw [beq_iff_eq.1 hc]
    decide

/-- A character begins tokens of one kind only. -/
theorem kinds_disjoint (c : Char) : (Text.isDigit c = true → isQuote c = false) ∧
    (startsIdent c = true → isQuote c = false ∧ Text.isDigit c = false) ∧
    ((mark? c).isSome = true →
      isQuote c = false ∧ Text.isDigit c = false ∧ startsIdent c = false) := by
  by_cases hc : c.toNat < 128
  · have hall : ∀ n < 128, (Text.isDigit (Char.ofNat n) = true → isQuote (Char.ofNat n) = false) ∧
        (startsIdent (Char.ofNat n) = true →
          isQuote (Char.ofNat n) = false ∧ Text.isDigit (Char.ofNat n) = false) ∧
        ((mark? (Char.ofNat n)).isSome = true → isQuote (Char.ofNat n) = false ∧
          Text.isDigit (Char.ofNat n) = false ∧ startsIdent (Char.ofNat n) = false) := by
      decide +kernel
    have h := hall _ hc
    rwa [Char.ofNat_toNat] at h
  · have hquote := Bool.eq_false_iff.2 fun h => hc (toNat_lt_of_isQuote h)
    have hdigit := Bool.eq_false_iff.2 fun h => hc (Text.toNat_lt_of_isDigit h)
    have hmark := Bool.eq_false_iff.2 fun h => hc (toNat_lt_of_mark? h)
    rw [hquote, hdigit, hmark]
    exact ⟨fun _ => rfl, fun _ => ⟨rfl, rfl⟩, nofun⟩

/-- A digit may continue an identifier. -/
theorem continuesIdent_of_isDigit {c : Char} (h : Text.isDigit c = true) :
    continuesIdent c = true := by
  rw [continuesIdent, Text.isAlphanumeric, Text.isNumeral, if_pos (Text.toNat_lt_of_isDigit h), h,
    Bool.or_true]
  rfl

/-- A mark continues no identifier. -/
theorem continuesIdent_of_mark? {c : Char} {t : Token} (h : mark? c = some t) (s : Text) :
    ∀ d ∈ (c :: s).head?, continuesIdent d = false := by
  intro d hd
  obtain rfl : c = d := Option.some.inj hd
  rw [mark?] at h
  split_ifs at h with hc hc hc hc hc hc
  all_goals
    rw [beq_iff_eq.1 hc]
    decide

/-! ## String literals -/

/-- **A text between quotes**: each character as it stands, or behind a backslash. -/
inductive Quoted (quote : Char) : Text → Text → Prop
  | nil : Quoted quote [] []
  | raw {c : Char} {t s : Text} (hquote : c ≠ quote) (hbackslash : c ≠ '\\')
      (hrest : Quoted quote t s) : Quoted quote (c :: t) (c :: s)
  | escaped {c d : Char} {t s : Text} (hd : unescape d = c) (hrest : Quoted quote t s) :
      Quoted quote (c :: t) ('\\' :: d :: s)

theorem ne_backslash_of_isQuote {quote : Char} (h : isQuote quote = true) : quote ≠ '\\' := by
  rintro rfl
  exact absurd h (by decide)

/-- What is spelled between quotes is read up to the closing one. -/
theorem stringBody?_of_quoted {quote : Char} (hquote : isQuote quote = true) {text s : Text}
    (h : Quoted quote text s) (seen rest : Text) :
    stringBody? quote seen (s ++ quote :: rest) = some (seen.reverse ++ text, rest) := by
  induction h generalizing seen with
  | nil =>
    rw [List.nil_append, stringBody?.eq_def]
    simp
  | @raw c t s hc hbackslash _ ih =>
    rw [List.cons_append, stringBody?.eq_def]
    simp [hc, hbackslash, ih]
  | @escaped c d t s hd _ ih =>
    have hne := (ne_backslash_of_isQuote hquote).symm
    rw [List.cons_append, List.cons_append, stringBody?.eq_def]
    simp [hne, hd, ih]

/-! ## Tokens -/

/-- **The spellings of a token.** -/
inductive Spells : Token → Text → Prop
  | str {quote : Char} {text s : Text} (hquote : isQuote quote = true)
      (hbody : Quoted quote text s) : Spells (.str text) (quote :: (s ++ [quote]))
  | int {digits : Text} (hne : digits ≠ []) (hdigits : digits.all Text.isDigit = true)
      (hsize : Text.decimalValue digits ≤ Text.maxSigned) :
      Spells (.int (Text.decimalValue digits)) digits
  | ident {name : Text} (hname : isName name = true) : Spells (.ident name) name
  | mark {c : Char} {token : Token} (hmark : mark? c = some token) : Spells token [c]

/-- Whether a character behind a token would be read as part of it. -/
def Token.absorbs : Token → Char → Bool
  | .int _, c => Text.isDigit c
  | .ident _, c => continuesIdent c
  | _, _ => false

/-- A mark absorbs nothing. -/
theorem absorbs_of_mark? {c : Char} {t : Token} (h : mark? c = some t) (d : Char) :
    t.absorbs d = false := by
  rw [mark?] at h
  split_ifs at h
  all_goals
    obtain rfl := Option.some.inj h
    rfl

/-- Digits are one token, unless their value is too large. -/
theorem token_numeral {c : Char} {digits rest : Text} (hc : Text.isDigit c = true)
    (hdigits : digits.all Text.isDigit = true) (hrest : ∀ d ∈ rest.head?, Text.isDigit d = false) :
    token c (digits ++ rest) =
      if Text.decimalValue (c :: digits) ≤ Text.maxSigned then
        .ok (.int (Text.decimalValue (c :: digits)), rest)
      else .error (.integerTooLarge (c :: digits)) := by
  have hquote := (kinds_disjoint c).1 hc
  rw [isQuote] at hquote
  obtain ⟨htake, hdrop⟩ := Text.takeWhile_append_of_all hdigits hrest
  rw [token, if_neg (by simp [hquote]), if_pos hc, htake, hdrop]

/-- **A token is read from each of its spellings**, whatever follows that it does not absorb. -/
theorem token_of_spells {t : Token} {s : Text} (h : Spells t s) {rest : Text}
    (hrest : ∀ c ∈ rest.head?, t.absorbs c = false) :
    ∃ c s', s = c :: s' ∧ Text.isBlank c = false ∧ token c (s' ++ rest) = .ok (t, rest) := by
  cases h with
  | @str quote text s hquote hbody =>
    refine ⟨quote, s ++ [quote], rfl, isBlank_eq_false (.inl hquote), ?_⟩
    rw [isQuote] at hquote
    rw [token, if_pos hquote, List.append_assoc, List.singleton_append,
      stringBody?_of_quoted hquote hbody]
    rfl
  | @int digits hne hdigits hsize =>
    obtain ⟨c, digits, rfl⟩ := List.exists_cons_of_ne_nil hne
    obtain ⟨hc, hdigits⟩ := Bool.and_eq_true_iff.1 (List.all_cons ▸ hdigits)
    refine ⟨c, digits, rfl, isBlank_eq_false (.inr (.inl hc)), ?_⟩
    rw [token_numeral hc hdigits hrest, if_pos hsize]
  | ident hname =>
    obtain _ | ⟨c, name⟩ := s
    · exact absurd hname (by simp [isName])
    · obtain ⟨hc, hname⟩ := Bool.and_eq_true_iff.1 hname
      obtain ⟨hquote, hdigit⟩ := (kinds_disjoint c).2.1 hc
      rw [isQuote] at hquote
      obtain ⟨htake, hdrop⟩ := Text.takeWhile_append_of_all hname hrest
      refine ⟨c, name, rfl, isBlank_eq_false (.inr (.inr (.inl hc))), ?_⟩
      rw [token, if_neg (by simp [hquote]), if_neg (by simp [hdigit]), if_pos hc, htake, hdrop]
  | @mark c t hmark =>
    have hsome : (mark? c).isSome = true := by rw [hmark]; rfl
    obtain ⟨hquote, hdigit, hstart⟩ := (kinds_disjoint c).2.2 hsome
    rw [isQuote] at hquote
    refine ⟨c, [], rfl, isBlank_eq_false (.inr (.inr (.inr hsome))), ?_⟩
    rw [token, if_neg (by simp [hquote]), if_neg (by simp [hdigit]), if_neg (by simp [hstart]),
      hmark]
    rfl

/-! ## Texts -/

/-- **A text in which the tokens stand one after the other**, with blanks around them.  What follows
a token is none of its own characters. -/
inductive Written : List Token → Text → Prop
  | blank {s : Text} (hblank : Text.allBlank s = true) : Written [] s
  | token {t : Token} {ts : List Token} {blanks s rest : Text}
      (hblanks : Text.allBlank blanks = true) (hspells : Spells t s) (hrest : Written ts rest)
      (hapart : ∀ c ∈ rest.head?, t.absorbs c = false) : Written (t :: ts) (blanks ++ s ++ rest)

/-- A token without blanks in front. -/
theorem Written.cons {t : Token} {ts : List Token} {s rest : Text} (hspells : Spells t s)
    (hrest : Written ts rest) (hapart : ∀ c ∈ rest.head?, t.absorbs c = false) :
    Written (t :: ts) (s ++ rest) := by
  have hblanks : Text.allBlank [] = true := rfl
  exact .token hblanks hspells hrest hapart

theorem Written.mark {c : Char} {t : Token} {ts : List Token} {rest : Text}
    (hmark : mark? c = some t) (hrest : Written ts rest) : Written (t :: ts) (c :: rest) :=
  .cons (.mark hmark) hrest fun d _ => absorbs_of_mark? hmark d

/-- Blanks in front make no difference. -/
theorem Written.blanks {ts : List Token} {b s : Text} (hb : Text.allBlank b = true)
    (h : Written ts s) : Written ts (b ++ s) := by
  cases h with
  | blank hs => exact .blank (by rw [Text.allBlank_append, hb, hs]; rfl)
  | token hblanks hspells hrest hapart =>
    rw [List.append_assoc, ← List.append_assoc b, ← List.append_assoc]
    exact .token (by rw [Text.allBlank_append, hb, hblanks]; rfl) hspells hrest hapart

theorem ne_nil_of_spells {t : Token} {s : Text} (h : Spells t s) : s ≠ [] := by
  have hend : ∀ c ∈ ([] : Text).head?, t.absorbs c = false := nofun
  obtain ⟨c, s, rfl, -⟩ := token_of_spells h hend
  exact List.cons_ne_nil _ _

/-- A written text has a character for every token. -/
theorem Written.length_le {ts : List Token} {s : Text} (h : Written ts s) :
    ts.length ≤ s.length := by
  induction h with
  | blank => exact Nat.zero_le _
  | token _ hspells _ _ ih =>
    have hpos := List.length_pos_of_ne_nil (ne_nil_of_spells hspells)
    rw [List.length_cons, List.length_append, List.length_append]
    omega

theorem tokensWithin_of_written {ts : List Token} {s : Text} (h : Written ts s) {fuel : Nat}
    (hfuel : ts.length ≤ fuel) : tokensWithin fuel s = .ok ts := by
  induction h generalizing fuel with
  | blank hblank =>
    cases fuel with
    | zero => rfl
    | succ fuel => rw [tokensWithin, Text.trimStart_of_allBlank hblank]
  | @token t ts blanks s rest hblanks hspells _ hapart ih =>
    obtain ⟨fuel, rfl⟩ : ∃ n, fuel = n + 1 := ⟨fuel - 1, by rw [List.length_cons] at hfuel; omega⟩
    obtain ⟨c, s, rfl, hc, htoken⟩ := token_of_spells hspells hapart
    rw [tokensWithin, List.append_assoc, Text.trimStart_append_of_allBlank hblanks,
      List.cons_append, Text.trimStart_cons_of_not_blank hc]
    simp only [htoken, bind, Except.bind, ih (Nat.le_of_succ_le_succ hfuel)]
    rfl

/-- **A written text is cut into its tokens.** -/
theorem tokens_of_written {ts : List Token} {s : Text} (h : Written ts s) : tokens s = .ok ts :=
  tokensWithin_of_written h h.length_le

/-!
## Tokens one after the other

Every token takes a character at least, so the bound of `tokens` is never met: the tokens of a text
are the first of them and those of what it leaves (`tokens_eq_of_trimStart`).
-/

theorem length_of_stringBody? {quote : Char} {seen t text rest : Text}
    (h : stringBody? quote seen t = some (text, rest)) : rest.length ≤ t.length := by
  fun_induction stringBody? quote seen t with
  | case1 => exact absurd h nofun
  | case2 =>
    obtain ⟨-, rfl⟩ := Prod.mk.inj (Option.some.inj h)
    exact Nat.le_succ _
  | case3 => exact absurd h nofun
  | case4 seen c _ _ d t ih =>
    have hrest := ih h
    rw [List.length_cons, List.length_cons]
    omega
  | case5 seen c t _ _ ih => exact (ih h).trans (Nat.le_succ _)

/-- A token leaves no more than stands behind its first character. -/
theorem length_of_token {c : Char} {t rest : Text} {first : Token}
    (h : token c t = .ok (first, rest)) : rest.length ≤ t.length := by
  rw [token] at h
  split_ifs at h
  · split at h
    · next hbody =>
      obtain ⟨-, rfl⟩ := Prod.mk.inj (Except.ok.inj h)
      exact length_of_stringBody? hbody
    · exact absurd h nofun
  · dsimp only at h
    split_ifs at h
    obtain ⟨-, rfl⟩ := Prod.mk.inj (Except.ok.inj h)
    exact (List.dropWhile_suffix _).length_le
  · obtain ⟨-, rfl⟩ := Prod.mk.inj (Except.ok.inj h)
    exact (List.dropWhile_suffix _).length_le
  · split at h
    · obtain ⟨-, rfl⟩ := Prod.mk.inj (Except.ok.inj h)
      exact le_rfl
    · exact absurd h nofun

/-- The bound makes no difference once there is one for every character. -/
theorem tokensWithin_eq {fuel : Nat} {t : Text} (h : t.length ≤ fuel) :
    tokensWithin fuel t = tokens t := by
  suffices ∀ fuel fuel' t, t.length ≤ fuel → t.length ≤ fuel' →
      tokensWithin fuel t = tokensWithin fuel' t from this _ _ _ h le_rfl
  intro fuel
  induction fuel with
  | zero =>
    intro fuel' t hfuel _
    obtain rfl := List.length_eq_zero_iff.1 (Nat.le_zero.1 hfuel)
    cases fuel' <;> rfl
  | succ fuel ih =>
    intro fuel' t hfuel hfuel'
    obtain _ | ⟨d, t⟩ := t
    · cases fuel' <;> rfl
    · obtain ⟨fuel', rfl⟩ : ∃ n, fuel' = n + 1 :=
        ⟨fuel' - 1, by rw [List.length_cons] at hfuel'; omega⟩
      have hstart := (Text.trimStart_suffix (d :: t)).length_le
      rw [tokensWithin, tokensWithin]
      cases htrim : Text.trimStart (d :: t) with
      | nil => rfl
      | cons c s =>
        cases htoken : token c s with
        | error => simp only [htoken, bind, Except.bind]
        | ok read =>
          have hrest : read.2.length ≤ s.length := length_of_token htoken
          rw [htrim, List.length_cons] at hstart
          simp only [htoken, bind, Except.bind,
            ih fuel' read.2 (by omega) (by omega)]

/-- **The tokens of a text are its first token and those of the rest.** -/
theorem tokens_eq_of_trimStart {c : Char} {s t : Text} (h : Text.trimStart t = c :: s) :
    tokens t = do
      let (first, rest) ← token c s
      return first :: (← tokens rest) := by
  have hlength := (Text.trimStart_suffix t).length_le
  rw [h, List.length_cons] at hlength
  rw [← tokensWithin_eq (Nat.le_succ t.length), tokensWithin, h]
  cases htoken : token c s with
  | error => simp only [htoken, bind, Except.bind]
  | ok read =>
    have hrest : read.2.length ≤ s.length := length_of_token htoken
    have hfuel : read.2.length ≤ t.length := by omega
    simp only [htoken, bind, Except.bind, tokensWithin_eq hfuel]

/-- Blanks in front are no tokens. -/
theorem tokens_blanks {b : Text} (hb : Text.allBlank b = true) (t : Text) :
    tokens (b ++ t) = tokens t := by
  have htrim := Text.trimStart_append_of_allBlank hb t
  cases hstart : Text.trimStart t with
  | nil =>
    have hnone : ∀ t : Text, Text.trimStart t = [] → tokens t = .ok [] := fun t ht => by
      rw [← tokensWithin_eq (Nat.le_succ t.length), tokensWithin, ht]
    rw [hnone t hstart, hnone _ (htrim.trans hstart)]
  | cons c s => rw [tokens_eq_of_trimStart hstart, tokens_eq_of_trimStart (htrim.trans hstart)]

/-- A mark is a token. -/
theorem tokens_mark {c : Char} {first : Token} (h : mark? c = some first) (t : Text) :
    tokens (c :: t) = (tokens t).map (first :: ·) := by
  have hmark : Spells first [c] := .mark h
  have hapart : ∀ d ∈ t.head?, first.absorbs d = false := fun d _ => absorbs_of_mark? h d
  obtain ⟨d, s, hcons, hblank, htoken⟩ := token_of_spells hmark hapart
  obtain ⟨rfl, rfl⟩ := List.cons.inj hcons
  rw [List.nil_append] at htoken
  rw [tokens_eq_of_trimStart (Text.trimStart_cons_of_not_blank hblank t), htoken]
  rfl

end WikiPress.Script
