import Mathlib.Algebra.Ring.Nat
import WikiPress.Marks
import WikiPress.Proofs.Text.Basic

/-!
# Proofs/Marks — characters written by their code point are read as they were meant

    written    \u00E9  1  U+01f600  2  \uD800  u+110000  b
    read       é       1  😀        2  \uD800  u+110000  b

A text is spelled character by character (`Escape.Spells`): a character stands as it is or as an
escape, and in between stand escapes that name nothing.  No character that stands as it is begins an
escape, and the digits of an escape are as many as it may have, or end where no digit follows
(`Escape.EndsBefore`).  So an escape is read as far as it was written (`escapeDigits?_text`), in
front of whatever follows, and the reading of the whole is an induction on the spelling.
-/

namespace WikiPress

/-! ## Code points -/

theorem charOfCode?_toNat (c : Char) : charOfCode? c.toNat = some c := by
  have hvalid : c.toNat.isValidChar := c.valid
  have hchar : Char.ofNat c.toNat = Char.ofNatAux c.toNat hvalid := dif_pos hvalid
  rw [charOfCode?, dif_pos hvalid, ← hchar, Char.ofNat_toNat]

/-- A code point without a character: a surrogate, or a number beyond U+10FFFF. -/
def IsVoidCode (n : Nat) : Prop := 0xD800 ≤ n ∧ n ≤ 0xDFFF ∨ 0x10FFFF < n

instance (n : Nat) : Decidable (IsVoidCode n) := inferInstanceAs (Decidable (_ ∨ _))

theorem charOfCode?_of_isVoidCode {n : Nat} (h : IsVoidCode n) : charOfCode? n = none := by
  have hinvalid : ¬ n.isValidChar := by
    rw [IsVoidCode] at h
    rw [Nat.isValidChar]
    omega
  rw [charOfCode?, dif_neg hinvalid]

/-! ## Hexadecimal digits -/

/-- Whether a character is a hexadecimal digit, in either case. -/
def isHexDigit (d : Char) : Bool := (Text.hexDigit? d).isSome

/-- The hexadecimal digit for a value below sixteen. -/
def hexDigitOf (upper : Bool) (value : Nat) : Char :=
  (lit (if upper then "0123456789ABCDEF" else "0123456789abcdef")).getD value '0'

/-- The last `width` digits of a number; `upper` gives the case of each, by its place. -/
def hexDigits (upper : Nat → Bool) : (width : Nat) → Nat → Text
  | 0, _ => []
  | width + 1, n => hexDigits upper width (n / 16) ++ [hexDigitOf (upper width) (n % 16)]

theorem hexDigit?_hexDigitOf (upper : Bool) {value : Nat} (h : value < 16) :
    Text.hexDigit? (hexDigitOf upper value) = some value := by
  have hall : ∀ upper, ∀ value < 16, Text.hexDigit? (hexDigitOf upper value) = some value := by
    decide
  exact hall upper value h

@[simp] theorem length_hexDigits (upper : Nat → Bool) (width n : Nat) :
    (hexDigits upper width n).length = width := by
  induction width generalizing n with
  | zero => rfl
  | succ width ih => rw [hexDigits, List.length_append, ih, List.length_singleton]

theorem all_isHexDigit_hexDigits (upper : Nat → Bool) (width n : Nat) :
    (hexDigits upper width n).all isHexDigit = true := by
  induction width generalizing n with
  | zero => rfl
  | succ width ih =>
    have hdigit : isHexDigit (hexDigitOf (upper width) (n % 16)) = true := by
      rw [isHexDigit, hexDigit?_hexDigitOf _ (Nat.mod_lt n (by decide))]
      rfl
    rw [hexDigits, List.all_append, ih, List.all_cons, hdigit, List.all_nil]
    rfl

/-- **The digits of a number are read back**, whatever their case. -/
theorem hexValue_hexDigits (upper : Nat → Bool) {width n : Nat} (h : n < 16 ^ width) :
    hexValue (hexDigits upper width n) = n := by
  induction width generalizing n with
  | zero => exact (Nat.lt_one_iff.1 h).symm
  | succ width ih =>
    have hfront : n / 16 < 16 ^ width := Nat.div_lt_of_lt_mul (by rwa [Nat.pow_succ'] at h)
    rw [hexDigits, hexValue, List.foldl_append, ← hexValue, ih hfront, List.foldl_cons,
      List.foldl_nil, hexDigit?_hexDigitOf _ (Nat.mod_lt n (by decide)), Option.getD_some]
    omega

/-! ## Escapes -/

/-- How an escape announces its digits. -/
inductive Escape.Sign
  /-- `\u`, in front of four digits. -/
  | backslash
  /-- `u+`, in front of four to six. -/
  | plus
deriving DecidableEq, Repr

/-- What stands in front of the digits; `letter` is the letter u in either case. -/
def Escape.Sign.text (letter : Char) : Escape.Sign → Text
  | backslash => ['\\', letter]
  | plus => [letter, '+']

/-- The largest number of digits. -/
def Escape.Sign.width : Escape.Sign → Nat
  | backslash => 4
  | plus => 6

/-- **An escape**, as it is written. -/
structure Escape where
  sign : Escape.Sign
  letter : Char
  digits : Text
  letter_eq : letter = 'u' ∨ letter = 'U'
  four_le : 4 ≤ digits.length
  length_le : digits.length ≤ sign.width
  allHex : digits.all isHexDigit = true

namespace Escape

/-- The text of an escape. -/
def text (e : Escape) : Text := e.sign.text e.letter ++ e.digits

/-- The code point that an escape names. -/
def code (e : Escape) : Nat := hexValue e.digits

/-- In front of `t` an escape ends where it was meant to: it has all the digits it may have, or none
follows. -/
def EndsBefore (e : Escape) (t : Text) : Prop :=
  e.digits.length = e.sign.width ∨ ∀ d ∈ t.head?, isHexDigit d = false

/-- A character that may stand as it is, whatever follows: neither a backslash nor the letter u. -/
def IsPlain (c : Char) : Prop := c ≠ '\\' ∧ c ≠ 'u' ∧ c ≠ 'U'

instance (c : Char) : Decidable (IsPlain c) := inferInstanceAs (Decidable (_ ∧ _ ∧ _))

/-- **What is meant, and a spelling of it.** -/
inductive Spells : Text → Text → Prop
  | nil : Spells [] []
  /-- A character that stands as it is. -/
  | plain {c : Char} {s t : Text} (hc : IsPlain c) (h : Spells s t) : Spells (c :: s) (c :: t)
  /-- A character that is written by its code point. -/
  | escaped {c : Char} {s t : Text} (e : Escape) (hc : e.code = c.toNat) (hend : e.EndsBefore t)
      (h : Spells s t) : Spells (c :: s) (e.text ++ t)
  /-- An escape that names no character and means itself. -/
  | void {s t : Text} (e : Escape) (hcode : IsVoidCode e.code) (hend : e.EndsBefore t)
      (h : Spells s t) : Spells (e.text ++ s) (e.text ++ t)

/-! ## Choices -/

/-- How a character is written. -/
inductive Form
  /-- As it is. -/
  | plain
  /-- As an escape with all the digits it may have; `capital` is the case of the letter u, `upper`
  that of the digits. -/
  | escaped (sign : Sign) (capital : Bool) (upper : Nat → Bool)

namespace Form

/-- The forms a character has: only some may stand as they are, and four digits do not reach every
code point. -/
def Fits (c : Char) : Form → Prop
  | plain => IsPlain c
  | escaped sign _ _ => c.toNat < 16 ^ sign.width

instance (c : Char) : (form : Form) → Decidable (form.Fits c)
  | plain => inferInstanceAs (Decidable (IsPlain c))
  | escaped .. => inferInstanceAs (Decidable (_ < _))

/-- A character in a form. -/
def write (c : Char) : Form → Text
  | plain => [c]
  | escaped sign capital upper =>
    sign.text (if capital then 'U' else 'u') ++ hexDigits upper sign.width c.toNat

end Form

theorem four_le_width (sign : Sign) : 4 ≤ sign.width := by
  cases sign <;> decide

/-- An escape with all its digits for a code point. -/
def ofCode (sign : Sign) (capital : Bool) (upper : Nat → Bool) (n : Nat) : Escape where
  sign := sign
  letter := if capital then 'U' else 'u'
  digits := hexDigits upper sign.width n
  letter_eq := by cases capital <;> decide
  four_le := by rw [length_hexDigits]; exact four_le_width sign
  length_le := by rw [length_hexDigits]
  allHex := all_isHexDigit_hexDigits upper sign.width n

/-- **Every choice of forms is a spelling.** -/
theorem spells_flatMap_write {l : List (Char × Form)} (h : ∀ p ∈ l, p.2.Fits p.1) :
    Spells (l.map Prod.fst) (l.flatMap fun p => p.2.write p.1) := by
  induction l with
  | nil => exact .nil
  | cons p l ih =>
    obtain ⟨hp, hl⟩ := List.forall_mem_cons.1 h
    obtain ⟨c, form⟩ := p
    rw [List.map_cons, List.flatMap_cons]
    cases form with
    | plain => exact .plain hp (ih hl)
    | escaped sign capital upper =>
      have hcode : (ofCode sign capital upper c.toNat).code = c.toNat :=
        hexValue_hexDigits upper hp
      exact .escaped (ofCode sign capital upper c.toNat) hcode (.inl (length_hexDigits _ _ _))
        (ih hl)

end Escape

/-! ## Reading -/

section Reading

variable {t : Text} {n : Nat}

/-- Digits are read to their end. -/
theorem hexRun_append {digits : Text} (hall : digits.all isHexDigit = true)
    (hlen : digits.length ≤ n) (hend : digits.length = n ∨ ∀ d ∈ t.head?, isHexDigit d = false) :
    hexRun n (digits ++ t) = digits := by
  induction digits generalizing n with
  | nil =>
    rcases n with _ | n
    · rfl
    · have hhead := hend.resolve_left (by simp)
      rcases t with _ | ⟨d, t⟩
      · rfl
      · have hd : ¬ (Text.hexDigit? d).isSome = true := Bool.eq_false_iff.1 (hhead d rfl)
        rw [List.nil_append, hexRun, if_neg hd]
  | cons d digits ih =>
    rw [List.all_cons, Bool.and_eq_true] at hall
    obtain ⟨n, rfl⟩ : ∃ m, n = m + 1 := ⟨n - 1, by rw [List.length_cons] at hlen; omega⟩
    rw [List.length_cons] at hlen hend
    have hd : (Text.hexDigit? d).isSome = true := hall.1
    rw [List.cons_append, hexRun, if_pos hd, ih hall.2 (by omega) (hend.imp_left Nat.succ_inj.1)]

/-- **An escape is read as far as it was written.** -/
theorem escapeDigits?_text (e : Escape) (h : e.EndsBefore t) :
    escapeDigits? (e.text ++ t) = some e.digits := by
  obtain ⟨sign, letter, digits, hletter, hfour, hlen, hall⟩ := e
  have hrun : hexRun sign.width (digits ++ t) = digits := hexRun_append hall hlen h
  have hu : (letter == 'u' || letter == 'U') = true := by
    rwa [Bool.or_eq_true, beq_iff_eq, beq_iff_eq]
  cases sign with
  | backslash =>
    have hfull : (digits.length == 4) = true := beq_iff_eq.2 (Nat.le_antisymm hlen hfour)
    rw [Escape.Sign.width] at hrun
    simp only [Escape.text, Escape.Sign.text, List.cons_append, List.nil_append, escapeDigits?, hu,
      if_true, hrun, hfull]
  | plus =>
    have hne : letter ≠ '\\' := by
      rcases hletter with rfl | rfl <;> decide
    rw [Escape.Sign.width] at hrun
    simp only [Escape.text, Escape.Sign.text, List.cons_append, List.nil_append, escapeDigits?, hu,
      if_true, hrun, hfour]

/-- A character that may stand as it is begins no escape. -/
theorem escapeDigits?_plain {c : Char} (hc : Escape.IsPlain c) (t : Text) :
    escapeDigits? (c :: t) = none := by
  have hu : (c == 'u' || c == 'U') = false := by
    rw [Bool.or_eq_false_iff, beq_eq_false_iff_ne, beq_eq_false_iff_ne]
    exact hc.2
  rw [escapeDigits?.eq_def]
  split
  · next heq => exact absurd (List.cons.inj heq).1 hc.1
  · next heq =>
    obtain ⟨rfl, -⟩ := List.cons.inj heq
    rw [hu, if_neg Bool.false_ne_true]
  · rfl

/-- What is left of an escape is passed over. -/
theorem decodeFrom_append (s t : Text) : decodeFrom s.length (s ++ t) = decodeFrom 0 t := by
  induction s with
  | nil => rfl
  | cons c s ih => exact ih

/-- **An escape gives its character, or itself**, and what follows is read for itself. -/
theorem decodeFrom_text (e : Escape) (h : e.EndsBefore t) :
    decodeFrom 0 (e.text ++ t) = (charOfCode? e.code).elim e.text ([·]) ++ decodeFrom 0 t := by
  have hdigits := escapeDigits?_text e h
  obtain ⟨a, b, htext⟩ : ∃ a b, e.text = a :: b :: e.digits := by
    rw [Escape.text]
    cases e.sign <;> exact ⟨_, _, rfl⟩
  rw [htext, List.cons_append, List.cons_append] at hdigits ⊢
  have htake : (a :: b :: (e.digits ++ t)).take (e.digits.length + 2) = a :: b :: e.digits := by
    change (a :: b :: e.digits ++ t).take (a :: b :: e.digits).length = a :: b :: e.digits
    exact List.take_left
  have hrest : decodeFrom (e.digits.length + 2 - 1) (b :: (e.digits ++ t)) = decodeFrom 0 t :=
    decodeFrom_append (b :: e.digits) t
  simp only [decodeFrom, hdigits, htake, hrest, Escape.code]
  cases charOfCode? (hexValue e.digits) <;> rfl

end Reading

/-- A text that is spelled in some way is decoded to what was meant. -/
theorem decodeFrom_of_spells {s t : Text} (h : Escape.Spells s t) : decodeFrom 0 t = s := by
  induction h with
  | nil => rfl
  | plain hc h ih => rw [decodeFrom, escapeDigits?_plain hc, ih]
  | escaped e hc hend h ih =>
    rw [decodeFrom_text e hend, hc, charOfCode?_toNat, ih]
    rfl
  | void e hcode hend h ih =>
    rw [decodeFrom_text e hend, charOfCode?_of_isVoidCode hcode, ih]
    rfl

/-- **Escapes decode what they encode**: characters in any forms give back the characters, and
between them, or next to each other, escapes that name no character stay as they were written. -/
theorem decodeEscapes_spelling :
    (∀ l : List (Char × Escape.Form), (∀ p ∈ l, p.2.Fits p.1) →
      decodeEscapes (l.flatMap fun p => p.2.write p.1) = l.map Prod.fst) ∧
    ∀ s t : Text, Escape.Spells s t → decodeEscapes t = s :=
  ⟨fun _ hl => decodeFrom_of_spells (Escape.spells_flatMap_write hl),
    fun _ _ h => decodeFrom_of_spells h⟩

/-- Escapes next to each other and next to digits, and three that name no character. -/
theorem decodeEscapes_spelling_mixed :
    (∀ p ∈ [('é', Escape.Form.escaped .backslash false fun _ => true), ('1', .plain),
        ('😀', .escaped .plus true fun _ => false), ('2', .plain)], p.2.Fits p.1) ∧
      decodeEscapes (lit "\\u00E91U+01f6002") = lit "é1😀2" ∧
      Escape.Spells (lit "A\\ud8001u+1100002U+d800g") (lit "\\u0041\\ud8001u+1100002U+d800g") ∧
      decodeEscapes (lit "\\u0041\\ud8001u+1100002U+d800g") = lit "A\\ud8001u+1100002U+d800g" := by
  have hforms : ∀ p ∈ [('é', Escape.Form.escaped .backslash false fun _ => true), ('1', .plain),
      ('😀', .escaped .plus true fun _ => false), ('2', .plain)], p.2.Fits p.1 := by decide
  have hvoid : Escape.Spells (lit "A\\ud8001u+1100002U+d800g")
      (lit "\\u0041\\ud8001u+1100002U+d800g") :=
    .escaped ⟨.backslash, 'u', lit "0041", .inl rfl, by decide, by decide, by decide⟩ rfl (.inl rfl)
      (.void ⟨.backslash, 'u', lit "d800", .inl rfl, by decide, by decide, by decide⟩ (by decide)
        (.inl rfl) (.plain (by decide)
          (.void ⟨.plus, 'u', lit "110000", .inl rfl, by decide, by decide, by decide⟩ (by decide)
            (.inl rfl) (.plain (by decide)
              (.void ⟨.plus, 'U', lit "d800", .inr rfl, by decide, by decide, by decide⟩ (by decide)
                (.inr (by rintro _ ⟨⟩; rfl)) (.plain (by decide) .nil))))))
  exact ⟨hforms, decodeEscapes_spelling.1 _ hforms, hvoid, decodeEscapes_spelling.2 _ _ hvoid⟩

end WikiPress
