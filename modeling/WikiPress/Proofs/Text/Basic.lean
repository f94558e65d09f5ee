import WikiPress.Text.Number
import Mathlib.Data.List.DropRight
import Mathlib.Data.List.TakeWhile

/-!
# Proofs/Text/Basic — what trimming and stripping do

Stripping a known beginning or end succeeds exactly on the texts that have it (`strip?_eq_some_iff`,
`stripEnd?_eq_some_iff`).  Trimming in front goes through a text that is all blank and stops inside
any other.
-/

namespace WikiPress.Text

/-- What holds of every character of a known text can be computed. -/
theorem forall_mem_of_all {p : Char → Prop} [DecidablePred p] {t : Text}
    (h : t.all (fun c => decide (p c)) = true) : ∀ c ∈ t, p c :=
  fun c hc => of_decide_eq_true (List.all_eq_true.1 h c hc)

/-! ## Known beginnings and ends -/

theorem strip?_eq_some_iff {p t rest : Text} : strip? p t = some rest ↔ t = p ++ rest := by
  induction p generalizing t with
  | nil => simp [strip?]
  | cons a p ih =>
    cases t with
    | nil => simp [strip?]
    | cons b t =>
      by_cases hab : a = b
      · subst hab
        simp [strip?, ih]
      · simp [strip?, hab, Ne.symm hab]

theorem stripEnd?_eq_some_iff {s t rest : Text} : stripEnd? s t = some rest ↔ t = rest ++ s := by
  rw [stripEnd?, Option.map_eq_some_iff]
  constructor
  · rintro ⟨r, hr, rfl⟩
    rw [strip?_eq_some_iff] at hr
    rw [← List.reverse_reverse t, hr]
    simp
  · rintro rfl
    exact ⟨rest.reverse, by rw [strip?_eq_some_iff, List.reverse_append], rest.reverse_reverse⟩

/-! ## Trimming -/

theorem trimEnd_eq_reverse (t : Text) : trimEnd t = (trimStart t.reverse).reverse := rfl

theorem trimStart_of_allBlank {t : Text} (h : allBlank t) : trimStart t = [] :=
  List.dropWhile_eq_nil_iff.2 fun c hc => List.all_eq_true.1 h c hc

theorem allBlank_append (s t : Text) : allBlank (s ++ t) = (allBlank s && allBlank t) :=
  List.all_append

theorem allBlank_reverse (t : Text) : allBlank t.reverse = allBlank t := List.all_reverse

/-- Nothing is dropped from a text whose last character is to stay. -/
theorem dropEndWhile_append_singleton {p : Char → Bool} {d : Char} (h : p d = false) (t : Text) :
    dropEndWhile p (t ++ [d]) = t ++ [d] := by
  rw [dropEndWhile, List.reverse_append, List.reverse_singleton, List.singleton_append,
    List.dropWhile_cons_of_neg (by simp [h])]
  simp

/-- A text that does not begin with a blank has none to lose in front. -/
theorem trimStart_cons_of_not_blank {d : Char} (h : isBlank d = false) (t : Text) :
    trimStart (d :: t) = d :: t := List.dropWhile_cons_of_neg (by simp [h])

@[simp] theorem trimStart_trimStart (t : Text) : trimStart (trimStart t) = trimStart t :=
  List.dropWhile_idempotent isBlank t

theorem trimStart_suffix (t : Text) : trimStart t <:+ t := List.dropWhile_suffix _

/-- Trimming in front stops inside a text that is not all blank. -/
theorem trimStart_append_of_not_allBlank {s : Text} (h : allBlank s = false) (t : Text) :
    trimStart (s ++ t) = trimStart s ++ t := by
  have hne : (trimStart s).isEmpty = false := by
    rw [List.isEmpty_eq_false_iff]
    intro hnil
    have hall : ∀ c ∈ s, isBlank c = true := List.dropWhile_eq_nil_iff.1 hnil
    rw [allBlank, List.all_eq_true.2 hall] at h
    exact absurd h (by decide)
  rw [trimStart, List.dropWhile_append]
  exact if_neg (by simpa [trimStart] using hne)

theorem trimStart_append_of_allBlank {s : Text} (h : allBlank s) (t : Text) :
    trimStart (s ++ t) = trimStart t :=
  List.dropWhile_append_of_pos (List.all_eq_true.1 h)

/-- …and trimming at the end stops inside one, too. -/
theorem trimEnd_append_of_not_allBlank {t : Text} (h : allBlank t = false) (s : Text) :
    trimEnd (s ++ t) = s ++ trimEnd t := by
  rw [trimEnd_eq_reverse, List.reverse_append,
    trimStart_append_of_not_allBlank (by rwa [allBlank_reverse]), List.reverse_append,
    List.reverse_reverse, trimEnd_eq_reverse]

theorem trimEnd_of_allBlank {t : Text} (h : allBlank t) : trimEnd t = [] := by
  rw [trimEnd_eq_reverse, trimStart_of_allBlank (by rwa [allBlank_reverse]), List.reverse_nil]

theorem trimEnd_append_of_allBlank {t : Text} (h : allBlank t) (s : Text) :
    trimEnd (s ++ t) = trimEnd s := by
  rw [trimEnd_eq_reverse, List.reverse_append,
    trimStart_append_of_allBlank (by rwa [allBlank_reverse]), trimEnd_eq_reverse]

/-- Trimming at the end keeps the first character of a text that is not all blank. -/
theorem head?_trimEnd {t : Text} (h : allBlank t = false) : (trimEnd t).head? = t.head? := by
  cases t with
  | nil => rfl
  | cons c t =>
    rw [← List.singleton_append]
    by_cases hblank : allBlank t = true
    · have hc : isBlank c = false := by
        rw [allBlank, List.all_cons] at h
        exact (Bool.and_eq_false_iff.1 h).resolve_right (ne_false_of_eq_true hblank)
      rw [trimEnd_append_of_allBlank hblank, trimEnd, ← List.nil_append [c],
        dropEndWhile_append_singleton hc]
      rfl
    · rw [trimEnd_append_of_not_allBlank (Bool.eq_false_iff.2 hblank)]
      rfl

theorem trimEnd_prefix_self (t : Text) : trimEnd t <+: t := by
  rw [trimEnd_eq_reverse, ← List.reverse_suffix, List.reverse_reverse]
  exact trimStart_suffix _

/-- A text has no blanks around it exactly if it has none at either end. -/
theorem trim_eq_self_iff {t : Text} : trim t = t ↔ trimStart t = t ∧ trimEnd t = t := by
  constructor
  · intro h
    have hlength := (trimEnd_prefix_self (trimStart t)).length_le
    rw [← trim, h] at hlength
    have hstart : trimStart t = t :=
      (trimStart_suffix t).eq_of_length (Nat.le_antisymm (trimStart_suffix t).length_le hlength)
    exact ⟨hstart, by rwa [trim, hstart] at h⟩
  · rintro ⟨hstart, hend⟩
    rw [trim, hstart, hend]

/-- A text that trimming in front keeps is not all blank, unless it is empty. -/
theorem allBlank_eq_false_of_trimStart {t : Text} (hne : t ≠ []) (h : trimStart t = t) :
    allBlank t = false := by
  rw [← Bool.not_eq_true]
  exact fun hblank => hne (h.symm.trans (trimStart_of_allBlank hblank))

/-- A text is what trimming leaves at its end, and blanks. -/
theorem exists_eq_trimEnd_append (t : Text) :
    ∃ blanks, t = trimEnd t ++ blanks ∧ allBlank blanks = true := by
  refine ⟨(t.reverse.takeWhile isBlank).reverse, ?_, ?_⟩
  · rw [trimEnd_eq_reverse, trimStart, ← List.reverse_append, List.takeWhile_append_dropWhile,
      List.reverse_reverse]
  · rw [allBlank_reverse]
    exact List.all_eq_true.2 fun c hc => List.mem_takeWhile_imp hc

/-- Trimming takes blanks only. -/
theorem count_trim {c : Char} (hc : isBlank c = false) (t : Text) : (trim t).count c = t.count c := by
  have hstart : ∀ t : Text, (trimStart t).count c = t.count c := by
    intro t
    have hblanks : (t.takeWhile isBlank).count c = 0 := by
      rw [List.count_eq_zero]
      intro hmem
      rw [List.mem_takeWhile_imp hmem] at hc
      exact absurd hc (by decide)
    calc (trimStart t).count c
      _ = (t.takeWhile isBlank ++ t.dropWhile isBlank).count c := by
          rw [List.count_append, hblanks, Nat.zero_add, trimStart]
      _ = t.count c := by rw [List.takeWhile_append_dropWhile]
  rw [trim, trimEnd_eq_reverse, List.count_reverse, hstart, List.count_reverse, hstart]

/-! ## Runs of a character -/

/-- What follows a text without the characters that are looked for stays where it is. -/
theorem takeWhile_append_of_neg {p : Char → Bool} {t b : Text} (hp : ∀ c ∈ b.head?, p c = false) :
    (t ++ b).takeWhile p = t.takeWhile p ∧ (t ++ b).dropWhile p = t.dropWhile p ++ b := by
  have hb : b.takeWhile p = [] ∧ b.dropWhile p = b := by
    cases b with
    | nil => exact ⟨rfl, rfl⟩
    | cons c b =>
      have hc := hp c rfl
      exact ⟨List.takeWhile_cons_of_neg (by simp [hc]), List.dropWhile_cons_of_neg (by simp [hc])⟩
  induction t with
  | nil => exact hb
  | cons d t ih =>
    by_cases hd : p d = true
    · rw [List.cons_append, List.takeWhile_cons_of_pos hd, List.takeWhile_cons_of_pos hd,
        List.dropWhile_cons_of_pos hd, List.dropWhile_cons_of_pos hd, ih.1, ih.2]
      exact ⟨rfl, rfl⟩
    · rw [List.cons_append, List.takeWhile_cons_of_neg hd, List.takeWhile_cons_of_neg hd,
        List.dropWhile_cons_of_neg hd, List.dropWhile_cons_of_neg hd]
      exact ⟨rfl, rfl⟩

/-- What follows a text that holds another character stays where it is, too. -/
theorem takeWhile_append_of_dropWhile_ne_nil {p : Char → Bool} {t : Text} (h : t.dropWhile p ≠ [])
    (b : Text) :
    (t ++ b).takeWhile p = t.takeWhile p ∧ (t ++ b).dropWhile p = t.dropWhile p ++ b := by
  have hlength : (t.takeWhile p).length ≠ t.length := by
    intro heq
    have hsplit := congrArg List.length (List.takeWhile_append_dropWhile (p := p) (l := t))
    rw [List.length_append, heq] at hsplit
    exact h (List.eq_nil_of_length_eq_zero (by omega))
  rw [List.takeWhile_append, if_neg hlength, List.dropWhile_append, if_neg (by simpa using h)]
  exact ⟨rfl, rfl⟩

/-- Characters that are looked for end where another one follows. -/
theorem takeWhile_append_of_all {p : Char → Bool} {t rest : Text} (ht : t.all p = true)
    (hrest : ∀ c ∈ rest.head?, p c = false) :
    (t ++ rest).takeWhile p = t ∧ (t ++ rest).dropWhile p = rest := by
  obtain ⟨htake, hdrop⟩ := takeWhile_append_of_neg (t := t) hrest
  rw [htake, hdrop, List.takeWhile_eq_self_iff.2 (List.all_eq_true.1 ht),
    List.dropWhile_eq_nil_iff.2 (List.all_eq_true.1 ht)]
  exact ⟨rfl, rfl⟩

/-- A run of a character ends where something else follows. -/
theorem takeWhile_replicate_append {c : Char} (n : Nat) {rest : Text} (h : rest.head? ≠ some c) :
    (List.replicate n c ++ rest).takeWhile (· == c) = List.replicate n c ∧
      (List.replicate n c ++ rest).dropWhile (· == c) = rest := by
  refine takeWhile_append_of_all (List.all_eq_true.2 fun d hd => ?_) fun d hd => ?_
  · exact beq_iff_eq.2 (List.eq_of_mem_replicate hd)
  · exact beq_eq_false_iff_ne.2 fun heq => h (heq ▸ hd)

/-- Every text begins with a run of a character, as long as it can be. -/
theorem exists_replicate_append (c : Char) (t : Text) :
    ∃ n rest, t = List.replicate n c ++ rest ∧ rest.head? ≠ some c := by
  refine ⟨(t.takeWhile (· == c)).length, t.dropWhile (· == c), ?_, fun hhead => ?_⟩
  · have hrun : t.takeWhile (· == c) = List.replicate (t.takeWhile (· == c)).length c :=
      List.eq_replicate_of_mem fun d hd => by simpa using List.mem_takeWhile_imp hd
    rw [← hrun, List.takeWhile_append_dropWhile]
  · have hstop := List.head?_dropWhile_not (· == c) t
    rw [hhead] at hstop
    simp at hstop

/-! ## What stands around a text -/

/-- A text is blanks, what is left of it when they are dropped on both sides, and blanks. -/
theorem exists_blanks_around (p : Char → Bool) (t : Text) :
    ∃ front back, t = front ++ (dropEndWhile p (t.dropWhile p) ++ back) ∧
      front.all p = true ∧ back.all p = true := by
  refine ⟨t.takeWhile p, ((t.dropWhile p).reverse.takeWhile p).reverse, ?_, ?_, ?_⟩
  · rw [dropEndWhile, ← List.reverse_append, List.takeWhile_append_dropWhile,
      List.reverse_reverse, List.takeWhile_append_dropWhile]
  · exact List.all_takeWhile
  · rw [List.all_reverse]
    exact List.all_takeWhile

theorem head?_dropEndWhile (p : Char → Bool) (t : Text) :
    ∀ c ∈ (dropEndWhile p (t.dropWhile p)).head?, p c = false := by
  intro c hc
  have hprefix : dropEndWhile p (t.dropWhile p) <+: t.dropWhile p := by
    rw [dropEndWhile, ← List.reverse_suffix, List.reverse_reverse]
    exact List.dropWhile_suffix p
  have hhead : c ∈ (t.dropWhile p).head? := by
    obtain ⟨back, hback⟩ := hprefix
    rw [← hback, List.head?_append, hc]
    rfl
  have hstop := List.head?_dropWhile_not p t
  rw [hhead] at hstop
  simpa using hstop

theorem getLast?_dropEndWhile (p : Char → Bool) (t : Text) :
    ∀ c ∈ (dropEndWhile p t).getLast?, p c = false := by
  intro c hc
  rw [dropEndWhile, List.getLast?_reverse] at hc
  have hstop := List.head?_dropWhile_not p t.reverse
  rw [hc] at hstop
  simpa using hstop

/-- A text is what is left of it without what stands around it. -/
theorem dropEndWhile_dropWhile_around {p : Char → Bool} {front t back : Text}
    (hfront : front.all p = true) (hback : back.all p = true) (hhead : ∀ c ∈ t.head?, p c = false)
    (hlast : ∀ c ∈ t.getLast?, p c = false) :
    dropEndWhile p ((front ++ (t ++ back)).dropWhile p) = t := by
  by_cases hnil : t = []
  · subst hnil
    have hall : (front ++ ([] ++ back)).dropWhile p = [] :=
      List.dropWhile_eq_nil_iff.2 fun c hc => by
        rcases List.mem_append.1 hc with hc | hc
        · exact List.all_eq_true.1 hfront c hc
        · exact List.all_eq_true.1 hback c hc
    rw [hall]
    rfl
  · have hstart : ∀ c ∈ (t ++ back).head?, p c = false := by
      rwa [List.head?_append_of_ne_nil _ hnil]
    have hend : ∀ c ∈ t.reverse.head?, p c = false := by
      rwa [List.head?_reverse]
    rw [(takeWhile_append_of_all hfront hstart).2, dropEndWhile, List.reverse_append,
      (takeWhile_append_of_all (by rwa [List.all_reverse]) hend).2, List.reverse_reverse]

/-- A text is blanks, what trimming leaves, and blanks. -/
theorem exists_eq_append_trim (t : Text) : ∃ front back, t = front ++ (trim t ++ back) ∧
    allBlank front = true ∧ allBlank back = true := exists_blanks_around isBlank t

/-- **Blanks around a text** do not matter to trimming. -/
theorem trim_around {front back : Text} (hfront : allBlank front = true)
    (hback : allBlank back = true) (t : Text) : trim (front ++ (t ++ back)) = trim t := by
  obtain ⟨before, after, ht, hbefore, hafter⟩ := exists_eq_append_trim t
  have hsplit : front ++ (t ++ back) = (front ++ before) ++ (trim t ++ (after ++ back)) := by
    conv_lhs => rw [ht]
    simp only [List.append_assoc]
  rw [hsplit]
  refine dropEndWhile_dropWhile_around (List.all_append.trans ?_) (List.all_append.trans ?_)
    (head?_dropEndWhile isBlank t) (getLast?_dropEndWhile isBlank _)
  · exact Bool.and_eq_true_iff.2 ⟨hfront, hbefore⟩
  · exact Bool.and_eq_true_iff.2 ⟨hafter, hback⟩

theorem trim_eq_nil_iff {t : Text} : trim t = [] ↔ allBlank t = true := by
  constructor
  · intro h
    obtain ⟨front, back, ht, hfront, hback⟩ := exists_eq_append_trim t
    rw [ht, h, List.nil_append, allBlank_append, hfront, hback]
    rfl
  · intro h
    rw [trim, trimStart_of_allBlank h]
    rfl

theorem trim_trim (t : Text) : trim (trim t) = trim t := by
  obtain ⟨front, back, ht, hfront, hback⟩ := exists_eq_append_trim t
  calc trim (trim t)
    _ = trim (front ++ (trim t ++ back)) := (trim_around hfront hback _).symm
    _ = trim t := by rw [← ht]

/-! ## Decimal numbers -/

theorem toNat_lt_of_isDigit {c : Char} (h : isDigit c = true) : c.toNat < 128 := by
  rw [isDigit, Bool.and_eq_true, decide_eq_true_eq, decide_eq_true_eq] at h
  exact Nat.lt_of_le_of_lt (show c.toNat ≤ 57 from h.2) (by decide)

theorem ofNat_injective : Function.Injective ofNat := by
  have hread : Function.LeftInverse (Nat.ofDigitChars 10 · 0) ofNat := fun n => by
    rw [ofNat, Nat.toList_repr]
    exact Nat.ofDigitChars_ten_toDigits
  exact hread.injective

/-- The decimal form of a number is a numeral. -/
theorem all_isDigit_ofNat (n : Nat) : (ofNat n).all isDigit = true := by
  rw [List.all_eq_true]
  intro d hd
  rw [ofNat, Nat.toList_repr] at hd
  exact Nat.isDigit_of_mem_toDigits (by decide) (by decide) hd

theorem ofNat_ne_nil (n : Nat) : ofNat n ≠ [] := by
  rw [ofNat, Nat.toList_repr]
  exact Nat.toDigits_ne_nil

theorem foldl_digitValue {digits : Text} (h : digits.all isDigit = true) (n : Nat) :
    digits.foldl (fun n c => n * 10 + digitValue c) n = Nat.ofDigitChars 10 digits n := by
  induction digits generalizing n with
  | nil => rfl
  | cons c digits ih =>
    obtain ⟨hc, hdigits⟩ : isDigit c = true ∧ digits.all isDigit = true := by
      simpa [List.all_cons, Bool.and_eq_true] using h
    rw [List.foldl_cons, ih hdigits, digitValue, if_pos hc, Nat.ofDigitChars_cons, Nat.mul_comm]
    rfl

/-- **The decimal form of a number is read back.** -/
theorem decimalValue_ofNat (n : Nat) : decimalValue (ofNat n) = n := by
  rw [decimalValue, foldl_digitValue (all_isDigit_ofNat n), ofNat, Nat.toList_repr]
  exact Nat.ofDigitChars_ten_toDigits

end WikiPress.Text
