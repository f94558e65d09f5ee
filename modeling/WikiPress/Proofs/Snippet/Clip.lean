import WikiPress.Proofs.Excerpt.MaximalRuns
import WikiPress.Proofs.Text.Basic
import WikiPress.Snippet.Transclusion
import WikiPress.Text.Number

/-!
# Proofs/Snippet/Clip — which slice a clip parameter names

    clip     -12   …   -1    0    1    2    3   …   12345678901234567890123
    slice      0   …    0    0    1    2    2   …     2           of three

A number is read digit by digit and stops growing at the largest signed number of 64 bits; that is
the integer that is written, clamped once (`leadingInt?_text`).  No text in memory has so many
slices, so the slice it names is the one that the integer names itself, clamped to the slices there
are (`clip_clamps`).  The word `random` asks for a choice, once, and nothing else does.
-/

namespace WikiPress.Text

/-! ## Written integers -/

/-- **A text that begins with an integer**: blanks, a sign, digits, and what follows them. -/
structure Numeral where
  blanks : Text
  sign : Text
  digits : Text
  rest : Text
  allBlank : blanks.all isBlank = true
  sign_eq : sign = [] ∨ sign = ['+'] ∨ sign = ['-']
  digits_ne : digits ≠ []
  allDigit : digits.all isDigit = true
  rest_head : ∀ c ∈ rest.head?, isDigit c = false

namespace Numeral

/-- The text as it is written. -/
def text (n : Numeral) : Text := n.blanks ++ (n.sign ++ (n.digits ++ n.rest))

/-- **The integer it begins with.** -/
def value (n : Numeral) : Int :=
  if n.sign = ['-'] then -(Nat.ofDigitChars 10 n.digits 0 : Int) else Nat.ofDigitChars 10 n.digits 0

end Numeral

/-! ## Saturation -/

/-- **Saturating at every digit is clamping once.** -/
theorem foldl_pushDigit (digits : Text) (n : Nat) :
    digits.foldl pushDigit (min maxSigned n) =
      min maxSigned (digits.foldl (fun n c => n * 10 + digitValue c) n) := by
  induction digits generalizing n with
  | nil => rfl
  | cons c digits ih =>
    have hpush : pushDigit (min maxSigned n) c = min maxSigned (n * 10 + digitValue c) := by
      rw [pushDigit]
      omega
    rw [List.foldl_cons, List.foldl_cons, hpush, ih]

theorem saturatingValue_eq {digits : Text} (h : digits.all isDigit = true) :
    saturatingValue digits = min maxSigned (Nat.ofDigitChars 10 digits 0) := by
  have hfold := foldl_pushDigit digits 0
  rwa [foldl_digitValue h, Nat.min_zero] at hfold

/-- The value of digits never passes the bound. -/
theorem saturatingValue_le (digits : Text) : saturatingValue digits ≤ maxSigned := by
  have hfold := foldl_pushDigit digits 0
  rw [Nat.min_zero] at hfold
  rw [saturatingValue, hfold]
  exact Nat.min_le_left _ _

/-! ## The integer a text begins with -/

theorem isBlank_eq_false_of_isDigit {c : Char} (h : isDigit c = true) : isBlank c = false := by
  rw [isDigit, Bool.and_eq_true, decide_eq_true_eq, decide_eq_true_eq] at h
  have hlow : 48 ≤ c.toNat := h.1
  have hhigh : c.toNat ≤ 57 := h.2
  simp only [isBlank, Bool.or_eq_false_iff, Bool.and_eq_false_iff, decide_eq_false_iff_not,
    beq_eq_false_iff_ne]
  omega

/-- The blanks in front of a written integer are the blanks in front of the text. -/
theorem Numeral.trimStart_text (n : Numeral) :
    trimStart n.text = n.sign ++ (n.digits ++ n.rest) := by
  obtain ⟨d, digits, hdigits⟩ := List.exists_cons_of_ne_nil n.digits_ne
  have hd : isBlank d = false :=
    isBlank_eq_false_of_isDigit (List.all_eq_true.1 n.allDigit d (hdigits ▸ List.mem_cons_self))
  rw [text, trimStart_append_of_allBlank n.allBlank]
  rcases n.sign_eq with hsign | hsign | hsign
  · rw [hsign, hdigits]
    exact trimStart_cons_of_not_blank hd _
  · rw [hsign]
    exact trimStart_cons_of_not_blank (by decide) _
  · rw [hsign]
    exact trimStart_cons_of_not_blank (by decide) _

theorem Numeral.takeWhile_digits (n : Numeral) : (n.digits ++ n.rest).takeWhile isDigit = n.digits :=
  (takeWhile_append_of_all n.allDigit n.rest_head).1

/-- What stands in front of a text is its sign: without one it does not begin like one. -/
def IsSign (sign t : Text) : Prop :=
  sign = ['+'] ∨ sign = ['-'] ∨ sign = [] ∧ ∀ c ∈ t.head?, c ≠ '+' ∧ c ≠ '-'

theorem exists_isSign (t : Text) : ∃ sign rest, t = sign ++ rest ∧ IsSign sign rest := by
  rcases t with _ | ⟨c, t⟩
  · exact ⟨[], [], rfl, .inr (.inr ⟨rfl, by simp⟩)⟩
  · by_cases hplus : c = '+'
    · subst hplus
      exact ⟨['+'], t, rfl, .inl rfl⟩
    · by_cases hminus : c = '-'
      · subst hminus
        exact ⟨['-'], t, rfl, .inr (.inl rfl)⟩
      · exact ⟨[], c :: t, rfl, .inr (.inr ⟨rfl, by simp [hplus, hminus]⟩)⟩

/-- The reading of a text by its sign and its digits. -/
theorem leadingInt?_of_isSign {t sign rest : Text} (h : trimStart t = sign ++ rest)
    (hsign : IsSign sign rest) :
    leadingInt? t = if rest.takeWhile isDigit = [] then none
      else some (if sign = ['-'] then -(saturatingValue (rest.takeWhile isDigit) : Int)
        else saturatingValue (rest.takeWhile isDigit)) := by
  rw [leadingInt?, h]
  rcases hsign with rfl | rfl | ⟨rfl, hhead⟩
  · cases hdigits : rest.takeWhile isDigit <;> simp [hdigits]
  · cases hdigits : rest.takeWhile isDigit <;> simp [hdigits]
  · rcases rest with _ | ⟨c, rest⟩
    · rfl
    · obtain ⟨hplus, hminus⟩ := hhead c rfl
      cases hdigits : (c :: rest).takeWhile isDigit <;> simp [hplus, hminus, hdigits]

theorem Numeral.isSign (n : Numeral) : IsSign n.sign (n.digits ++ n.rest) := by
  rcases n.sign_eq with hsign | hsign | hsign
  · refine .inr (.inr ⟨hsign, fun c hc => ?_⟩)
    rw [List.head?_append_of_ne_nil _ n.digits_ne] at hc
    have hdigit := List.all_eq_true.1 n.allDigit c (List.mem_of_mem_head? hc)
    constructor <;> rintro rfl <;> exact absurd hdigit (by decide)
  · exact .inl hsign
  · exact .inr (.inl hsign)

/-- **The integer that is written is read, clamped to 64 bits**, -/
theorem leadingInt?_text (n : Numeral) :
    leadingInt? n.text = some (max (-(maxSigned : Int)) (min n.value maxSigned)) := by
  rw [leadingInt?_of_isSign n.trimStart_text n.isSign, n.takeWhile_digits, if_neg n.digits_ne,
    saturatingValue_eq n.allDigit, Numeral.value]
  split <;> congr 1 <;> omega

/-- …and where none is written, none is read. -/
theorem leadingInt?_eq_none_iff {t : Text} :
    leadingInt? t = none ↔ ∀ n : Numeral, n.text ≠ t := by
  constructor
  · rintro h n rfl
    rw [leadingInt?_text] at h
    exact absurd h (by simp)
  · intro hnone
    obtain ⟨sign, rest, hrest, hsign⟩ := exists_isSign (trimStart t)
    rw [leadingInt?_of_isSign hrest hsign]
    refine if_pos ?_
    by_contra hdigits
    refine hnone ⟨t.takeWhile isBlank, sign, rest.takeWhile isDigit, rest.dropWhile isDigit,
      List.all_takeWhile, ?_, hdigits, List.all_takeWhile, ?_⟩ ?_
    · rcases hsign with hsign | hsign | ⟨hsign, -⟩
      · exact .inr (.inl hsign)
      · exact .inr (.inr hsign)
      · exact .inl hsign
    · intro c hc
      have hhead := List.head?_dropWhile_not isDigit rest
      rw [Option.mem_def.1 hc] at hhead
      exact hhead
    · rw [Numeral.text, List.takeWhile_append_dropWhile, ← hrest, trimStart,
        List.takeWhile_append_dropWhile]

end WikiPress.Text

namespace WikiPress.Snippet

/-! ## Slices -/

theorem length_splitTextWithin_le (sep : Text) (fuel : Nat) (t : Text) :
    (Text.splitTextWithin sep fuel t).length ≤ fuel + 1 := by
  induction fuel generalizing t with
  | zero => exact le_rfl
  | succ fuel ih =>
    rw [Text.splitTextWithin]
    split
    · exact Nat.le_add_left _ _
    · exact Nat.succ_le_succ (ih _)

theorem length_le_byteLength (t : Text) : t.length ≤ Text.byteLength t := by
  induction t with
  | nil => exact le_rfl
  | cons c t ih =>
    have hsize := c.utf8Size_pos
    rw [Excerpt.byteLength_cons, List.length_cons]
    omega

/-- **A text that fits into memory has no more slices than there are signed numbers.** -/
theorem length_splitText_le {sep t : Text} (h : Text.byteLength t ≤ Text.maxSigned) :
    (Text.splitText sep t).length ≤ Text.maxSigned + 1 := by
  have hslices := length_splitTextWithin_le sep t.length t
  have hlength := length_le_byteLength t
  rw [Text.splitText]
  omega

section Clip

variable {m : Type → Type} [Monad m] (pick : Nat → m Nat) {parameter snippet : Text}

/-- A snippet in one piece is not clipped. -/
theorem clip_of_whole (h : (Text.splitText sliceMark snippet).length ≤ 1) :
    clip pick parameter snippet = pure snippet := by
  simp only [clip, if_pos h]

variable [LawfulMonad m] (h : 2 ≤ (Text.splitText sliceMark snippet).length)

include h

/-- A parameter that begins with an integer names a slice, -/
theorem clip_of_number {n : Int} (hn : Text.leadingInt? parameter = some n) :
    clip pick parameter snippet = pure (Text.trim ((Text.splitText sliceMark snippet).getD
      (min n.toNat ((Text.splitText sliceMark snippet).length - 1)) [])) := by
  simp only [clip, if_neg (Nat.not_le.2 h), hn, pure_bind]

/-- …and in memory a written integer names the slice whose number is nearest to it, -/
theorem clip_of_numeral (hfits : Text.byteLength snippet ≤ Text.maxSigned) (n : Text.Numeral) :
    ∃ slice, (Text.splitText sliceMark snippet)[(max 0 (min n.value
        (((Text.splitText sliceMark snippet).length : Int) - 1))).toNat]? = some slice ∧
      clip pick n.text snippet = pure (Text.trim slice) := by
  -- the clamp to 64 bits comes before the clamp to the slices, and changes nothing of it
  have hmany : (Text.splitText sliceMark snippet).length ≤ Text.maxSigned + 1 :=
    length_splitText_le hfits
  have hindex : (max 0 (min n.value
      (((Text.splitText sliceMark snippet).length : Int) - 1))).toNat =
        min (max (-(Text.maxSigned : Int)) (min n.value Text.maxSigned)).toNat
          ((Text.splitText sliceMark snippet).length - 1) := by
    omega
  have hlt : (max 0 (min n.value
      (((Text.splitText sliceMark snippet).length : Int) - 1))).toNat <
        (Text.splitText sliceMark snippet).length := by
    omega
  refine ⟨_, List.getElem?_eq_getElem hlt, ?_⟩
  rw [clip_of_number pick h (Text.leadingInt?_text n), ← hindex,
    List.getD_eq_getElem?_getD, List.getElem?_eq_getElem hlt, Option.getD_some]

omit [LawfulMonad m] in
/-- …the word `random` asks for a choice, -/
theorem clip_random :
    clip pick (lit "random") snippet = pick (Text.splitText sliceMark snippet).length >>= fun i =>
      pure (Text.trim ((Text.splitText sliceMark snippet).getD
        (min i ((Text.splitText sliceMark snippet).length - 1)) [])) := by
  have hnone : Text.leadingInt? (lit "random") = none := by decide
  simp only [clip, if_neg (Nat.not_le.2 h), hnone, BEq.rfl, if_true]

/-- …and anything else names the first slice. -/
theorem clip_of_word (hnone : Text.leadingInt? parameter = none)
    (hword : parameter ≠ lit "random") :
    clip pick parameter snippet =
      pure (Text.trim ((Text.splitText sliceMark snippet).getD 0 [])) := by
  simp only [clip, if_neg (Nat.not_le.2 h), hnone, if_neg (mt eq_of_beq hword), pure_bind,
    Nat.zero_min]

end Clip

/-- **Clips clamp.**  A text that begins with an integer is read as that integer, clamped to the
signed numbers of 64 bits; any other is read as none, and digits never add up to more.

A snippet of less than two slices is not clipped.  Of two or more, an integer names the slice whose
number is nearest to it, wherever the snippet fits into memory; `random` asks for a choice among
them, once, and the choice is clamped; and anything else names the first.  A slice that is named is
there, whatever is chosen. -/
theorem clip_clamps :
    (∀ n : Text.Numeral, Text.leadingInt? n.text =
      some (max (-(Text.maxSigned : Int)) (min n.value Text.maxSigned))) ∧
    (∀ t, Text.leadingInt? t = none ↔ ∀ n : Text.Numeral, n.text ≠ t) ∧
    (∀ digits, Text.saturatingValue digits ≤ Text.maxSigned) ∧
    ∀ (m : Type → Type) [Monad m] [LawfulMonad m] (pick : Nat → m Nat) (snippet : Text)
      (slices : List Text), Text.splitText sliceMark snippet = slices →
      (slices.length ≤ 1 → ∀ parameter, clip pick parameter snippet = pure snippet) ∧
      (2 ≤ slices.length →
        (Text.byteLength snippet ≤ Text.maxSigned → ∀ n : Text.Numeral, ∃ slice,
          slices[(max 0 (min n.value (slices.length - 1))).toNat]? = some slice ∧
            clip pick n.text snippet = pure (Text.trim slice)) ∧
        (∀ i, ∃ slice, slices[min i (slices.length - 1)]? = some slice) ∧
        clip pick (lit "random") snippet = (do
          let i ← pick slices.length
          pure (Text.trim (slices.getD (min i (slices.length - 1)) []))) ∧
        ∀ parameter, (∀ n : Text.Numeral, n.text ≠ parameter) → parameter ≠ lit "random" →
          ∃ slice, slices[0]? = some slice ∧
            clip pick parameter snippet = pure (Text.trim slice)) := by
  refine ⟨Text.leadingInt?_text, fun t => Text.leadingInt?_eq_none_iff, Text.saturatingValue_le,
    fun m _ _ pick snippet slices hslices => ?_⟩
  subst hslices
  refine ⟨fun hwhole parameter => clip_of_whole pick hwhole, fun htwo =>
    ⟨clip_of_numeral pick htwo, fun i => ?_, clip_random pick htwo, fun parameter hnone hword => ?_⟩⟩
  · have hlt : min i ((Text.splitText sliceMark snippet).length - 1) <
        (Text.splitText sliceMark snippet).length := by omega
    exact ⟨_, List.getElem?_eq_getElem hlt⟩
  · have hlt : 0 < (Text.splitText sliceMark snippet).length := by omega
    refine ⟨_, List.getElem?_eq_getElem hlt, ?_⟩
    rw [clip_of_word pick htwo (Text.leadingInt?_eq_none_iff.2 hnone) hword,
      List.getD_eq_getElem?_getD, List.getElem?_eq_getElem hlt, Option.getD_some]

/-- A number of many digits names the last slice of three, and one below zero the first. -/
theorem clip_clamps_of_three :
    (clip (m := Id) (fun _ => 7) (lit " 99999999999999999999x") (lit "a --8<-- b --8<-- c")).run =
        lit "c" ∧
      (clip (m := Id) (fun _ => 7) (lit "-1") (lit "a --8<-- b --8<-- c")).run = lit "a" := by
  have hslices : Text.splitText sliceMark (lit "a --8<-- b --8<-- c") =
      [lit "a ", lit " b ", lit " c"] := by decide +kernel
  obtain ⟨hnumber, -⟩ := (clip_clamps.2.2.2 Id (fun _ => 7) _ _ hslices).2 (by decide)
  obtain ⟨last, hlast, hclip⟩ := hnumber (by decide)
    ⟨[' '], [], lit "99999999999999999999", ['x'], by decide, .inl rfl, by decide, by decide,
      by rintro _ ⟨⟩; decide⟩
  obtain ⟨first, hfirst, hclip'⟩ := hnumber (by decide)
    ⟨[], ['-'], ['1'], [], by decide, .inr (.inr rfl), by decide, by decide, by simp⟩
  obtain rfl : lit " c" = last := Option.some.inj hlast
  obtain rfl : lit "a " = first := Option.some.inj hfirst
  exact ⟨congrArg Id.run hclip, congrArg Id.run hclip'⟩

end WikiPress.Snippet
