import WikiPress.Proofs.Text.Case
import WikiPress.Proofs.Text.Lines

/-!
# Proofs/Text/Separators — lower case, piece by piece

    ΟΔΟΣ / ΣΑ     ──lower──▸     οδος / σα

A blank or a slash is its own lower case, is the lower case of nothing else, and ends a word, so that
no sigma looks past it.  What stands on its two sides is therefore put in lower case by itself
(`toLower_append_separator`): the pieces between slashes (`splitOn_toLower`), and what is left without
the blanks around it (`trim_toLower`).
-/

namespace WikiPress.Text

/-- A blank or a slash. -/
def separates (c : Char) : Bool := isBlank c || c == '/'

/-- The code points of blanks. -/
def blankPoints : List Nat :=
  [9, 10, 11, 12, 13, 32, 0x85, 0xA0, 0x1680, 0x2000, 0x2001, 0x2002, 0x2003, 0x2004, 0x2005,
    0x2006, 0x2007, 0x2008, 0x2009, 0x200A, 0x2028, 0x2029, 0x202F, 0x205F, 0x3000]

section Separators

variable {c d x : Char} {t : Text}

theorem separates_of_isBlank (h : isBlank c = true) : separates c = true := by
  rw [separates, h, Bool.true_or]

theorem toNat_mem_blankPoints (h : isBlank c = true) : c.toNat ∈ blankPoints := by
  simp only [isBlank, Bool.or_eq_true, Bool.and_eq_true, decide_eq_true_eq, beq_iff_eq] at h
  simp only [blankPoints, List.mem_cons, List.not_mem_nil, or_false]
  omega

/-- **A separator** is its own lower case and ends words. -/
theorem separates_spec (h : separates c = true) :
    isCased c = false ∧ isCaseIgnorable c = false ∧ lowerChar c = [c] := by
  have hpoints : ∀ n ∈ 0x2F :: blankPoints, isCased (Char.ofNat n) = false ∧
      isCaseIgnorable (Char.ofNat n) = false ∧ lowerChar (Char.ofNat n) = [Char.ofNat n] := by
    decide +kernel
  have hmem : c.toNat ∈ 0x2F :: blankPoints := by
    rw [separates, Bool.or_eq_true, beq_iff_eq] at h
    rcases h with h | rfl
    · exact List.mem_cons_of_mem _ (toNat_mem_blankPoints h)
    · exact List.mem_cons_self
  have hc := hpoints c.toNat hmem
  rwa [Char.ofNat_toNat] at hc

/-- …and comes from nothing else. -/
theorem separates_lowerChar (h : separates c = false) : ∀ d ∈ lowerChar c, separates d = false := by
  have hascii : ∀ n < 128, separates (Char.ofNat n) = false →
      separates (lowerLetter (Char.ofNat n)) = false := by decide +kernel
  have hruns : lowerRuns.all (fun r => r.chars.all fun n => !separates (Char.ofNat (r.image n))) =
      true := by decide +kernel
  intro d hd
  rw [lowerChar] at hd
  split at hd
  · next hlt =>
    obtain rfl := List.mem_singleton.1 hd
    have hletter := hascii c.toNat hlt
    rw [Char.ofNat_toNat] at hletter
    exact hletter h
  · split at hd
    · have hdotted : ∀ e ∈ ['i', Char.ofNat 0x307], separates e = false :=
        forall_mem_of_all (by decide +kernel)
      exact hdotted d hd
    · obtain rfl := List.mem_singleton.1 hd
      cases hshift : shiftBy lowerRuns c.toNat with
      | none =>
        rw [mapByRuns_of_none hshift]
        exact h
      | some m =>
        obtain ⟨r, hr, hchars, -, -, rfl⟩ := exists_run_of_shiftBy hshift
        have hrun := List.all_eq_true.1 (List.all_eq_true.1 hruns r hr) c.toNat hchars
        rw [mapByRuns, hshift]
        simpa using hrun

/-- What one character becomes in a text: something, and a separator only if it is that separator. -/
theorem exists_lower_cons (before : Text) (c : Char) (t : Text) :
    ∃ lower, lowerAfter before (c :: t) = lower ++ lowerAfter (c :: before) t ∧ lower ≠ [] ∧
      ∀ d ∈ lower, separates d = true → d = c := by
  have hsigma : ∀ d ∈ ['ς', 'σ'], separates d = false := forall_mem_of_all (by decide +kernel)
  refine ⟨_, rfl, ?_, fun d hd hsep => ?_⟩
  · split
    · split <;> exact List.cons_ne_nil _ _
    · rw [lowerChar]
      split
      · exact List.cons_ne_nil _ _
      · split <;> exact List.cons_ne_nil _ _
  · by_cases hc : separates c = true
    · have hne : (c == 'Σ') = false := beq_eq_false_iff_ne.2 fun heq => by
        rw [heq] at hc
        exact absurd hc (by decide +kernel)
      rw [hne, if_neg Bool.false_ne_true, (separates_spec hc).2.2] at hd
      exact List.mem_singleton.1 hd
    · have hnone : separates d = false := by
        split at hd
        · split at hd
          · exact hsigma d (List.mem_cons.2 (.inl (List.mem_singleton.1 hd)))
          · exact hsigma d (List.mem_cons_of_mem _ hd)
        · exact separates_lowerChar (Bool.eq_false_iff.2 hc) d hd
      rw [hsep] at hnone
      exact absurd hnone (by decide)

/-- Separators of the lower case stand in the text. -/
theorem mem_of_mem_lowerAfter (hd : separates d = true) {before : Text}
    (h : d ∈ lowerAfter before t) : d ∈ t := by
  induction t generalizing before with
  | nil => exact absurd h List.not_mem_nil
  | cons c t ih =>
    obtain ⟨lower, hlower, -, hsep⟩ := exists_lower_cons before c t
    rw [hlower, List.mem_append] at h
    rcases h with h | h
    · rw [hsep d h hd]
      exact List.mem_cons_self
    · exact List.mem_cons_of_mem _ (ih h)

/-! ## What a separator divides -/

/-- No word goes beyond a separator… -/
theorem meetsCased_append_separator (hx : separates x = true) (s t : Text) :
    meetsCased (s ++ x :: t) = meetsCased s := by
  obtain ⟨hcased, hignorable, -⟩ := separates_spec hx
  have hstop : ∀ c ∈ (x :: t).head?, isCaseIgnorable c = false := fun c hc => by
    obtain rfl : x = c := by simpa using hc
    exact hignorable
  rw [meetsCased, meetsCased, (takeWhile_append_of_neg hstop).2]
  cases s.dropWhile isCaseIgnorable with
  | nil => exact hcased
  | cons c rest => rfl

/-- …so what is behind one does not depend on what was in front of it. -/
theorem lowerAfter_append_separator (hx : separates x = true) (near far t : Text) :
    lowerAfter (near ++ x :: far) t = lowerAfter near t := by
  induction t generalizing near with
  | nil => rfl
  | cons c t ih =>
    rw [lowerAfter, lowerAfter, meetsCased_append_separator hx, ← List.cons_append, ih (c :: near)]

/-- **Both sides of a separator** are put in lower case by themselves. -/
theorem toLower_append_separator (hx : separates x = true) (s t : Text) :
    toLower (s ++ x :: t) = toLower s ++ x :: toLower t := by
  suffices hbefore : ∀ before, lowerAfter before (s ++ x :: t) = lowerAfter before s ++ x :: toLower t
    from hbefore []
  induction s with
  | nil =>
    intro before
    have hne : (x == 'Σ') = false := beq_eq_false_iff_ne.2 fun heq => by
      rw [heq] at hx
      exact absurd hx (by decide +kernel)
    have hafter : lowerAfter (x :: before) t = toLower t :=
      lowerAfter_append_separator hx [] before t
    have hfirst : lowerAfter before (x :: t) = [x] ++ lowerAfter (x :: before) t := by
      rw [lowerAfter, hne, if_neg Bool.false_ne_true, (separates_spec hx).2.2]
    rw [List.nil_append, hfirst, hafter]
    rfl
  | cons c s ih =>
    intro before
    rw [List.cons_append, lowerAfter, meetsCased_append_separator hx, ih (c :: before), lowerAfter,
      List.append_assoc]

theorem toLower_join (hx : separates x = true) (ts : List Text) :
    toLower (join [x] ts) = join [x] (ts.map toLower) := by
  induction ts with
  | nil => rfl
  | cons s ts ih =>
    by_cases hnil : ts = []
    · subst hnil
      rfl
    · rw [join_cons_of_ne_nil _ _ hnil, List.append_assoc, List.singleton_append,
        toLower_append_separator hx, ih, List.map_cons, join_cons_of_ne_nil _ _ (by simpa using hnil),
        List.append_assoc, List.singleton_append]

/-- **The pieces of the lower case** are the pieces in lower case. -/
theorem splitOn_toLower (hx : separates x = true) (t : Text) :
    splitOn x (toLower t) = (splitOn x t).map toLower := by
  have hpieces : ∀ piece ∈ (splitOn x t).map toLower, x ∉ piece := fun piece hpiece hmem => by
    obtain ⟨s, hs, rfl⟩ := List.mem_map.1 hpiece
    exact not_mem_of_mem_splitOn hs (mem_of_mem_lowerAfter hx hmem)
  calc splitOn x (toLower t)
    _ = splitOn x (join [x] ((splitOn x t).map toLower)) := by
        rw [← toLower_join hx, join_splitOn]
    _ = (splitOn x t).map toLower :=
        splitOn_join_of_not_mem (by simpa using splitOn_ne_nil x t) hpieces

/-! ## Blanks around a text -/

theorem toLower_append_of_allBlank {front : Text} (h : allBlank front = true) (t : Text) :
    toLower (front ++ t) = front ++ toLower t := by
  induction front with
  | nil => rfl
  | cons c front ih =>
    rw [allBlank, List.all_cons, Bool.and_eq_true] at h
    have hc := toLower_append_separator (separates_of_isBlank h.1) [] (front ++ t)
    rw [List.cons_append, ← List.nil_append (c :: (front ++ t)), hc, ih h.2]
    rfl

theorem toLower_append_allBlank {back : Text} (h : allBlank back = true) (t : Text) :
    toLower (t ++ back) = toLower t ++ back := by
  cases back with
  | nil => rw [List.append_nil, List.append_nil]
  | cons c back =>
    rw [allBlank, List.all_cons, Bool.and_eq_true] at h
    have hback := toLower_append_of_allBlank h.2 []
    rw [List.append_nil, show toLower [] = [] from rfl, List.append_nil] at hback
    rw [toLower_append_separator (separates_of_isBlank h.1), hback]

theorem head?_toLower (h : ∀ c ∈ t.head?, isBlank c = false) :
    ∀ c ∈ (toLower t).head?, isBlank c = false := by
  cases t with
  | nil => exact h
  | cons c t =>
    obtain ⟨lower, hlower, hne, hsep⟩ := exists_lower_cons [] c t
    intro d hd
    rw [toLower, hlower, List.head?_append_of_ne_nil _ hne] at hd
    rw [← Bool.not_eq_true]
    intro hblank
    have hmem : d ∈ lower := List.mem_of_head? hd
    have hc := h c rfl
    rw [← hsep d hmem (separates_of_isBlank hblank), hblank] at hc
    exact absurd hc (by decide)

theorem getLast?_toLower (h : ∀ c ∈ t.getLast?, isBlank c = false) :
    ∀ c ∈ (toLower t).getLast?, isBlank c = false := by
  rcases List.eq_nil_or_concat t with rfl | ⟨s, c, rfl⟩
  · exact h
  · rw [List.concat_eq_append] at h ⊢
    obtain ⟨first, hfirst, -⟩ := exists_lowerAfter_append [] s [c]
    obtain ⟨lower, hlower, hne, hsep⟩ := exists_lower_cons (s.reverse ++ []) c []
    intro d hd
    rw [toLower, hfirst, hlower, lowerAfter, List.append_nil,
      List.getLast?_append_of_ne_nil _ hne] at hd
    rw [← Bool.not_eq_true]
    intro hblank
    have hmem : d ∈ lower := List.mem_of_getLast? hd
    have hc := h c (by simp)
    rw [← hsep d hmem (separates_of_isBlank hblank), hblank] at hc
    exact absurd hc (by decide)

/-- Blanks around a text stay around its lower case. -/
theorem exists_toLower_eq_append (t : Text) : ∃ front back, t = front ++ (trim t ++ back) ∧
    toLower t = front ++ (toLower (trim t) ++ back) ∧ allBlank front = true ∧ allBlank back = true := by
  obtain ⟨front, back, ht, hfront, hback⟩ := exists_eq_append_trim t
  refine ⟨front, back, ht, ?_, hfront, hback⟩
  conv_lhs => rw [ht]
  rw [toLower_append_of_allBlank hfront, toLower_append_allBlank hback]

/-- **Trimming and lower case** do not mind each other. -/
theorem trim_toLower (t : Text) : trim (toLower t) = toLower (trim t) := by
  obtain ⟨front, back, -, hlower, hfront, hback⟩ := exists_toLower_eq_append t
  rw [hlower]
  exact dropEndWhile_dropWhile_around hfront hback (head?_toLower (head?_dropEndWhile isBlank t))
    (getLast?_toLower (getLast?_dropEndWhile isBlank _))

/-- A text has no blanks around it if its lower case has none. -/
theorem trim_eq_self_of_toLower (h : trim (toLower t) = toLower t) : trim t = t := by
  obtain ⟨front, back, ht, hlower, -, -⟩ := exists_toLower_eq_append t
  rw [trim_toLower] at h
  have hlength := congrArg List.length (h.trans hlower)
  simp only [List.length_append] at hlength
  obtain rfl : front = [] := List.eq_nil_of_length_eq_zero (by omega)
  obtain rfl : back = [] := List.eq_nil_of_length_eq_zero (by omega)
  rw [List.nil_append, List.append_nil] at ht
  exact ht.symm

theorem toLower_eq_nil_iff : toLower t = [] ↔ t = [] := by
  cases t with
  | nil => exact iff_of_true rfl rfl
  | cons c t =>
    obtain ⟨lower, hlower, hne, -⟩ := exists_lower_cons [] c t
    rw [toLower, hlower]
    simp [hne]

end Separators

end WikiPress.Text
