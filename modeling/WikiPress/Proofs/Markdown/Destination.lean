import Mathlib.Data.List.Infix
import Mathlib.Tactic.Common
import WikiPress.Markdown.Link

/-!
# Proofs/Markdown/Destination — the texts that stand for themselves in a link

    (/notes/a.md "#")          the target is `/notes/a.md`
    (/notes/a b.md "#")        no target: the destination ends at the blank
    (/notes/a&amp;b.md "#")    the target is `/notes/a&b.md`

A destination is written without angle brackets here, behind it a blank and a title.  It is read back
as it was written (`inlineTarget?_hashTarget_iff`) precisely if it has no blank or control character,
its parentheses are balanced and at most 32 deep, and nothing in it is an escape or the reference to
a character (`IsDestination`).  For a text that is none, the target is never longer than what was
written (`length_le_of_inlineTarget?`), so that the text does not come back from any part of it.
-/

namespace WikiPress.Markdown

variable {t p rest : Text} {depth : Nat}

/-! ## The rule -/

/-- **Balanced parentheses**, at most 32 deep, where `depth` of them are open before the text. -/
def Nested : (depth : Nat) → Text → Prop
  | depth, [] => depth = 0
  | depth, c :: t =>
    if c = '(' then depth < 32 ∧ Nested (depth + 1) t
    else if c = ')' then 0 < depth ∧ Nested (depth - 1) t
    else Nested depth t

/-- A character that does not end a destination. -/
def IsVisible (c : Char) : Prop := 32 < c.toNat ∧ c.toNat ≠ 127

/-- **A text that is read as it is written** where it is the destination of a link. -/
structure IsDestination (p : Text) : Prop where
  visible : ∀ c ∈ p, IsVisible c
  nested : Nested 0 p
  /-- No backslash is an escape. -/
  unescaped : ∀ behind, '\\' :: behind <:+ p → beginsPunctuated behind = false
  /-- No ampersand begins the reference to a character. -/
  unreferenced : ∀ behind, '&' :: behind <:+ p → reference? behind = none

instance decidableNested : (depth : Nat) → (t : Text) → Decidable (Nested depth t)
  | depth, [] => inferInstanceAs (Decidable (depth = 0))
  | depth, c :: t =>
    have := decidableNested (depth + 1) t
    have := decidableNested (depth - 1) t
    have := decidableNested depth t
    inferInstanceAs (Decidable (if c = '(' then depth < 32 ∧ Nested (depth + 1) t
      else if c = ')' then 0 < depth ∧ Nested (depth - 1) t else Nested depth t))

instance (c : Char) : Decidable (IsVisible c) := inferInstanceAs (Decidable (_ ∧ _))

instance (p : Text) : Decidable (IsDestination p) :=
  decidable_of_iff (p.all (fun c => decide (IsVisible c)) = true ∧ Nested 0 p ∧
      (∀ s ∈ p.tails, s.head? = some '\\' → beginsPunctuated s.tail = false) ∧
      ∀ s ∈ p.tails, s.head? = some '&' → reference? s.tail = none) <| by
    have htails : ∀ (c : Char) (q : Text → Prop), (∀ s ∈ p.tails, s.head? = some c → q s.tail) ↔
        ∀ behind, c :: behind <:+ p → q behind := by
      intro c q
      constructor
      · exact fun h behind hbehind => h _ ((List.mem_tails _ _).2 hbehind) rfl
      · intro h s hs hhead
        obtain ⟨behind, rfl⟩ := List.head?_eq_some_iff.1 hhead
        exact h behind ((List.mem_tails _ _).1 hs)
    simp only [List.all_eq_true, decide_eq_true_eq]
    rw [htails '\\' (beginsPunctuated · = false), htails '&' (reference? · = none)]
    exact ⟨fun ⟨hvisible, hnested, hplain, hnone⟩ => ⟨hvisible, hnested, hplain, hnone⟩,
      fun ⟨hvisible, hnested, hplain, hnone⟩ => ⟨hvisible, hnested, hplain, hnone⟩⟩

/-! ## What is read is a part of what is written -/

theorem eq_append_of_plainDestination? {escaped : Bool} {url : Text}
    (h : plainDestination? depth escaped t = some (url, rest)) : t = url ++ rest := by
  induction t generalizing depth escaped url with
  | nil => cases escaped <;> cases h
  | cons c t ih =>
    -- whatever is read of the rest, the character stands before it
    have hread : ∀ depth' escaped', (plainDestination? depth' escaped' t).map
        (fun p => (c :: p.1, p.2)) = some (url, rest) → c :: t = url ++ rest := by
      intro depth' escaped' h
      obtain ⟨⟨url', rest'⟩, hread, hpair⟩ := Option.map_eq_some_iff.1 h
      cases hpair
      exact congrArg (c :: ·) (ih hread)
    have hends : some (([] : Text), c :: t) = some (url, rest) → c :: t = url ++ rest := by
      rintro h
      cases h
      rfl
    cases escaped with
    | true => exact hread _ _ h
    | false =>
      unfold plainDestination? at h
      repeat' split at h
      all_goals first | exact hread _ _ h | exact hends h | cases h

theorem length_of_angledDestination? {url : Text} (h : angledDestination? t = some (url, rest)) :
    url.length + rest.length < t.length := by
  fun_induction angledDestination? t generalizing url with
  | case1 => cases h
  | case2 => cases h
  | case3 t => cases h; simp
  | case4 c t ih =>
    obtain ⟨⟨url', rest'⟩, hread, hpair⟩ := Option.map_eq_some_iff.1 h
    cases hpair
    have := ih hread
    simp only [List.length_cons]
    omega
  | case5 => cases h
  | case6 c t _ _ _ ih =>
    obtain ⟨⟨url', rest'⟩, hread, hpair⟩ := Option.map_eq_some_iff.1 h
    cases hpair
    have := ih hread
    simp only [List.length_cons]
    omega

theorem length_of_destination? {url : Text} (h : destination? t = some (url, rest)) :
    url.length + rest.length ≤ t.length := by
  unfold destination? at h
  split at h
  · have := length_of_angledDestination? h
    simp only [List.length_cons]
    omega
  · split at h
    · cases h
    · rw [eq_append_of_plainDestination? h, List.length_append]
  · cases h

/-- A title is read up to a closing delimiter. -/
theorem exists_of_titleEnd? {opener closer before : Char} {title : Text}
    (h : titleEnd? opener closer before t = some (title, rest)) :
    ∃ inner, title = inner ++ [closer] ∧ t = title ++ rest := by
  induction t generalizing before title rest with
  | nil => cases h
  | cons c t ih =>
    have hread : ∀ title', titleEnd? opener closer c t = some (title', rest) → title = c :: title' →
        ∃ inner, title = inner ++ [closer] ∧ c :: t = title ++ rest := by
      rintro title' hread rfl
      obtain ⟨inner, rfl, htext⟩ := ih hread
      exact ⟨c :: inner, rfl, congrArg (c :: ·) htext⟩
    unfold titleEnd? at h
    split at h
    next hcloser =>
      split at h
      next title' rest' hlater =>
        cases h
        split at hlater
        · exact hread _ hlater rfl
        · cases hlater
      next =>
        cases h
        exact ⟨[], by rw [eq_of_beq hcloser]; rfl, rfl⟩
    next =>
      split at h
      · cases h
      · obtain ⟨⟨title', rest'⟩, hlater, hpair⟩ := Option.map_eq_some_iff.1 h
        cases hpair
        exact hread _ hlater rfl

/-- A title is read with its delimiters. -/
theorem exists_of_title? {title : Text} (h : title? t = some (title, rest)) :
    ∃ opener inner closer, title = opener :: inner ++ [closer] ∧ t = title ++ rest ∧
      ((opener = '\'' ∧ closer = '\'') ∨ (opener = '(' ∧ closer = ')') ∨
        (opener = '"' ∧ closer = '"')) := by
  unfold title? at h
  split at h
  next c r =>
    -- the title ends with the delimiter that belongs to its first one
    have hread : ∀ closer, (titleEnd? c closer c r).map (fun p => (c :: p.1, p.2))
        = some (title, rest) → ∃ inner, title = c :: inner ++ [closer] ∧ c :: r = title ++ rest := by
      intro closer h
      obtain ⟨⟨title', rest'⟩, hlater, hpair⟩ := Option.map_eq_some_iff.1 h
      cases hpair
      obtain ⟨inner, rfl, htext⟩ := exists_of_titleEnd? hlater
      exact ⟨inner, rfl, congrArg (c :: ·) htext⟩
    split at h
    next hquote =>
      obtain ⟨inner, htitle, htext⟩ := hread c h
      refine ⟨c, inner, c, htitle, htext, ?_⟩
      rcases Bool.or_eq_true _ _ ▸ hquote with hc | hc
      · exact .inr (.inr ⟨eq_of_beq hc, eq_of_beq hc⟩)
      · exact .inl ⟨eq_of_beq hc, eq_of_beq hc⟩
    next =>
      split at h
      next hc =>
        have hopener := eq_of_beq hc
        subst hopener
        obtain ⟨inner, htitle, htext⟩ := hread ')' h
        exact ⟨'(', inner, ')', htitle, htext, .inr (.inl ⟨rfl, rfl⟩)⟩
      next => cases h
  next => cases h

/-! ## Escapes and references only shorten -/

/-- No name stands for more than two characters. -/
theorem namesBeginning_small (c : Char) :
    (Text.namesBeginning c).all (fun entry => entry.2.length ≤ 2) = true := by
  unfold Text.namesBeginning
  split
  all_goals decide +kernel

theorem length_of_nameIn? {name chars : Text} {names : List (String × List Nat)}
    (hnames : names.all (fun entry => entry.2.length ≤ 2) = true)
    (h : Text.nameIn? name names = some chars) : chars.length ≤ 2 := by
  induction names with
  | nil => cases h
  | cons entry names ih =>
    obtain ⟨key, codes⟩ := entry
    rw [List.all_cons, Bool.and_eq_true, decide_eq_true_eq] at hnames
    unfold Text.nameIn? at h
    split at h
    · cases h
      rw [List.length_map]
      exact hnames.1
    · exact ih hnames.2 h

theorem length_of_named? {name chars : Text} (h : Text.named? name = some chars) :
    chars.length ≤ name.length + 1 := by
  unfold Text.named? at h
  split at h
  · have := length_of_nameIn? (namesBeginning_small _) h
    simp only [List.length_cons]
    omega
  · cases h

/-- What a predicate takes from a text, the character behind it, and the rest. -/
theorem length_of_takeWhile {q : Char → Bool} {c : Char} {after : Text}
    (h : t.drop (t.takeWhile q).length = c :: after) :
    (t.takeWhile q).length + 1 + after.length = t.length := by
  have hlength := congrArg List.length h
  have hprefix := (List.takeWhile_prefix q (l := t)).length_le
  rw [List.length_drop, List.length_cons] at hlength
  omega

theorem length_of_numericReference? {chars : Text}
    (h : numericReference? t = some (chars, rest)) : chars.length + rest.length ≤ t.length := by
  -- whichever digits are read, one character stands for them and the semicolon
  have hread : ∀ (digits : Text) (value limit : Nat) (after : Text), after.length + 1 ≤ t.length →
      (if digits.isEmpty || limit < digits.length then none
        else some ([referencedChar value], after)) = some (chars, rest) →
      chars.length + rest.length ≤ t.length := by
    intro digits value limit after hafter h
    split at h
    · cases h
    · cases h
      rw [List.length_singleton]
      omega
  unfold numericReference? at h
  rcases t with _ | ⟨x, r⟩
  · cases h
  · cases hx : (x == 'x' || x == 'X') with
    | true =>
      simp only [hx, if_true] at h
      split at h
      next after hafter =>
        exact hread _ _ _ _ (by have := length_of_takeWhile hafter; rw [List.length_cons]; omega) h
      next => cases h
    | false =>
      simp only [hx, Bool.false_eq_true, if_false] at h
      split at h
      next after hafter => exact hread _ _ _ _ (by have := length_of_takeWhile hafter; omega) h
      next => cases h

/-- A reference is not shorter than the characters it stands for. -/
theorem length_of_reference? {chars : Text} (h : reference? t = some (chars, rest)) :
    chars.length + rest.length ≤ t.length := by
  unfold reference? at h
  split at h
  next r =>
    have := length_of_numericReference? h
    rw [List.length_cons]
    omega
  next =>
    unfold namedReference? at h
    dsimp only at h
    split at h
    next after hafter =>
      split at h
      · obtain ⟨chars', hnamed, hpair⟩ := Option.map_eq_some_iff.1 h
        cases hpair
        have hchars := length_of_named? hnamed
        have htext := length_of_takeWhile hafter
        omega
      · cases h
    next => cases h

theorem length_resolveWithin_le (fuel : Nat) (t : Text) :
    (resolveWithin fuel t).length ≤ t.length := by
  fun_induction resolveWithin fuel t with
  | case1 => exact le_rfl
  | case2 => exact le_rfl
  | case3 fuel t chars rest hreference ih =>
    have := length_of_reference? hreference
    rw [List.length_append, List.length_cons]
    omega
  | case4 fuel t hreference ih => exact Nat.succ_le_succ ih
  | case5 fuel c t _ ih => exact Nat.succ_le_succ ih

theorem resolveWithin_of_unreferenced (fuel : Nat)
    (h : ∀ behind, '&' :: behind <:+ t → reference? behind = none) : resolveWithin fuel t = t := by
  fun_induction resolveWithin fuel t with
  | case1 => rfl
  | case2 => rfl
  | case3 fuel t chars rest hreference ih =>
    rw [h t List.suffix_rfl] at hreference
    cases hreference
  | case4 fuel t hreference ih =>
    exact congrArg _ (ih fun behind hbehind => h behind (hbehind.trans (List.suffix_cons _ _)))
  | case5 fuel c t _ ih =>
    exact congrArg _ (ih fun behind hbehind => h behind (hbehind.trans (List.suffix_cons _ _)))

/-- **A text keeps its length only without references.** -/
theorem unreferenced_of_length {fuel : Nat} (hfuel : t.length ≤ fuel)
    (h : (resolveWithin fuel t).length = t.length) :
    ∀ behind, '&' :: behind <:+ t → reference? behind = none := by
  fun_induction resolveWithin fuel t with
  | case1 t =>
    rw [List.length_eq_zero_iff.1 (Nat.le_zero.1 hfuel)]
    exact fun behind hbehind => by simp at hbehind
  | case2 => exact fun behind hbehind => by simp at hbehind
  | case3 fuel t chars rest hreference ih =>
    have hlength := length_of_reference? hreference
    have := length_resolveWithin_le fuel rest
    rw [List.length_append, List.length_cons] at h
    omega
  | case4 fuel t hreference ih =>
    intro behind hbehind
    rcases List.suffix_cons_iff.1 hbehind with heq | hlater
    · cases heq
      exact hreference
    · exact ih (Nat.le_of_succ_le_succ hfuel) (Nat.succ.inj h) behind hlater
  | case5 fuel c t hc ih =>
    intro behind hbehind
    rcases List.suffix_cons_iff.1 hbehind with heq | hlater
    · cases heq
      exact absurd rfl hc
    · exact ih (Nat.le_of_succ_le_succ hfuel) (Nat.succ.inj h) behind hlater

theorem length_dropBackslashesAfter_le (escaped : Bool) (t : Text) :
    (dropBackslashesAfter escaped t).length ≤ t.length := by
  fun_induction dropBackslashesAfter escaped t with
  | case1 => exact le_rfl
  | case2 escaped c t _ ih => exact ih.trans (Nat.le_succ _)
  | case3 escaped c t _ ih => exact Nat.succ_le_succ ih

theorem dropBackslashes_of_unescaped
    (h : ∀ behind, '\\' :: behind <:+ t → beginsPunctuated behind = false) :
    dropBackslashes t = t := by
  unfold dropBackslashes
  induction t with
  | nil => rfl
  | cons c t ih =>
    have hrest := ih fun behind hbehind => h behind (hbehind.trans (List.suffix_cons _ _))
    unfold dropBackslashesAfter
    split
    next hc =>
      simp only [Bool.not_false, Bool.true_and, Bool.and_eq_true, beq_iff_eq] at hc
      obtain ⟨rfl, hpunctuated⟩ := hc
      rw [h t List.suffix_rfl] at hpunctuated
      cases hpunctuated
    next => exact congrArg _ hrest

/-- **A text keeps its length only without escapes.** -/
theorem unescaped_of_length (h : (dropBackslashes t).length = t.length) :
    ∀ behind, '\\' :: behind <:+ t → beginsPunctuated behind = false := by
  unfold dropBackslashes at h
  induction t with
  | nil => exact fun behind hbehind => by simp at hbehind
  | cons c t ih =>
    intro behind hbehind
    unfold dropBackslashesAfter at h
    split at h
    next =>
      have := length_dropBackslashesAfter_le true t
      rw [List.length_cons] at h
      omega
    next hc =>
      rcases List.suffix_cons_iff.1 hbehind with heq | hlater
      · cases heq
        simpa using hc
      · exact ih (Nat.succ.inj h) behind hlater

theorem trimSpace_isInfix (t : Text) : trimSpace t <:+: t := by
  have hend : trimSpace t <+: t.dropWhile isSpace := by
    have h := List.dropWhile_suffix isSpace (l := (t.dropWhile isSpace).reverse)
    rw [← List.reverse_prefix, List.reverse_reverse] at h
    exact h
  exact hend.isInfix.trans (List.dropWhile_suffix _).isInfix

theorem length_dropBackslashes_resolveReferences_le (t : Text) :
    (dropBackslashes (resolveReferences t)).length ≤ t.length :=
  (length_dropBackslashesAfter_le _ _).trans (length_resolveWithin_le _ _)

theorem length_cleanUrl_le (t : Text) : (cleanUrl t).length ≤ t.length :=
  (length_dropBackslashes_resolveReferences_le _).trans (trimSpace_isInfix t).length_le

theorem isSpace_of_isVisible {c : Char} (h : IsVisible c) : isSpace c = false := by
  unfold isSpace
  rw [Bool.or_eq_false_iff, Bool.and_eq_false_iff, beq_eq_false_iff_ne, decide_eq_false_iff_not,
    decide_eq_false_iff_not]
  refine ⟨?_, .inr fun hle => ?_⟩
  · rintro rfl
    exact absurd h.1 (by decide)
  · have : c.toNat ≤ 13 := hle
    exact absurd h.1 (by omega)

theorem trimSpace_of_visible (h : ∀ c ∈ t, IsVisible c) : trimSpace t = t := by
  have hkept : ∀ s : Text, (∀ c ∈ s, IsVisible c) → s.dropWhile isSpace = s := by
    intro s hs
    rcases s with _ | ⟨c, s⟩
    · rfl
    · exact List.dropWhile_cons_of_neg (by rw [isSpace_of_isVisible (hs c (by simp))]; simp)
  unfold trimSpace Text.dropEndWhile
  rw [hkept t h, hkept _ fun c hc => h c (List.mem_reverse.1 hc), List.reverse_reverse]

/-- **A destination is cleaned to itself** if it has no white space around it, no escapes and no
references. -/
theorem cleanUrl_eq_self_iff : cleanUrl p = p ↔ trimSpace p = p ∧
    (∀ behind, '\\' :: behind <:+ p → beginsPunctuated behind = false) ∧
      ∀ behind, '&' :: behind <:+ p → reference? behind = none := by
  constructor
  · intro h
    have hlength := congrArg List.length h
    have htrim : trimSpace p = p := (trimSpace_isInfix p).eq_of_length
      ((trimSpace_isInfix p).length_le.antisymm
        (hlength.ge.trans (length_dropBackslashes_resolveReferences_le _)))
    rw [cleanUrl, htrim] at hlength
    have hunreferenced := unreferenced_of_length le_rfl
      ((length_resolveWithin_le p.length p).antisymm
        (hlength.ge.trans (length_dropBackslashesAfter_le false _)))
    rw [resolveReferences, resolveWithin_of_unreferenced _ hunreferenced] at hlength
    exact ⟨htrim, unescaped_of_length hlength, hunreferenced⟩
  · rintro ⟨htrim, hunescaped, hunreferenced⟩
    rw [cleanUrl, htrim, resolveReferences, resolveWithin_of_unreferenced _ hunreferenced,
      dropBackslashes_of_unescaped hunescaped]

/-! ## Destinations without angle brackets -/

theorem beginsPunctuated_append (p rest : Text) :
    beginsPunctuated (p ++ ' ' :: rest) = beginsPunctuated p := by
  cases p <;> rfl

theorem map_cons_eq_some_iff {found : Option (Text × Text)} {c : Char} {url : Text} :
    found.map (fun (url, rest) => (c :: url, rest)) = some (c :: url, rest) ↔
      found = some (url, rest) := by
  rcases found with _ | ⟨url', rest'⟩ <;> simp

/-- **A text is read up to the blank behind it** precisely if it is visible and its parentheses are
balanced. -/
theorem plainDestination?_eq_some_iff (rest : Text) (hdepth : depth ≤ 32)
    (hunescaped : ∀ behind, '\\' :: behind <:+ p → beginsPunctuated behind = false) :
    plainDestination? depth false (p ++ ' ' :: rest) = some (p, ' ' :: rest) ↔
      (∀ c ∈ p, IsVisible c) ∧ Nested depth p := by
  induction p generalizing depth with
  | nil =>
    have hread : plainDestination? depth false (' ' :: rest) =
        if depth == 0 then some ([], ' ' :: rest) else none := by
      rfl
    rw [List.nil_append, hread]
    simp [Nested]
  | cons c p ih =>
    have hp : ∀ behind, '\\' :: behind <:+ p → beginsPunctuated behind = false :=
      fun behind hbehind => hunescaped behind (hbehind.trans (List.suffix_cons _ _))
    have hescape : (c == '\\' && beginsPunctuated (p ++ ' ' :: rest)) = false := by
      rw [beginsPunctuated_append, Bool.and_eq_false_iff, beq_eq_false_iff_ne]
      by_cases hc : c = '\\'
      · subst hc
        exact .inr (hunescaped p List.suffix_rfl)
      · exact .inl hc
    rw [List.cons_append, plainDestination?, hescape, if_neg Bool.false_ne_true,
      List.forall_mem_cons, Nested]
    by_cases hopen : c = '('
    · subst hopen
      have hvisible : IsVisible '(' := by decide
      by_cases hfull : depth = 32
      · simp [hfull]
      · rw [if_pos (by rfl), if_neg (by simpa using hfull), map_cons_eq_some_iff,
          ih (by omega) hp, if_pos rfl]
        constructor
        · exact fun h => ⟨⟨hvisible, h.1⟩, by omega, h.2⟩
        · exact fun h => ⟨h.1.2, h.2.2⟩
    · rw [if_neg (by simpa using hopen), if_neg hopen]
      by_cases hclose : c = ')'
      · subst hclose
        have hvisible : IsVisible ')' := by decide
        rw [if_pos (by rfl), if_pos rfl]
        by_cases hnone : depth = 0
        · simp [hnone]
        · rw [if_neg (by simpa using hnone), map_cons_eq_some_iff, ih (by omega) hp]
          constructor
          · exact fun h => ⟨⟨hvisible, h.1⟩, by omega, h.2⟩
          · exact fun h => ⟨h.1.2, h.2.2⟩
      · rw [if_neg (by simpa using hclose), if_neg hclose]
        by_cases hvisible : IsVisible c
        · have hreads : ¬ (c.toNat ≤ 32 || c.toNat == 127) = true := by
            simpa [IsVisible] using hvisible
          rw [if_neg hreads, map_cons_eq_some_iff, ih hdepth hp, and_assoc,
            iff_true_intro hvisible |>.and Iff.rfl, true_and]
        · have hends : (c.toNat ≤ 32 || c.toNat == 127) = true := by
            simpa [IsVisible, imp_iff_not_or, not_lt] using hvisible
          rw [if_pos hends]
          simp only [hvisible, false_and, iff_false]
          split <;> simp

/-! ## Targets in parentheses -/

/-- A title loses its delimiters. -/
theorem length_cleanTitle_le {opener closer : Char} (inner : Text)
    (h : (opener = '\'' ∧ closer = '\'') ∨ (opener = '(' ∧ closer = ')') ∨
      (opener = '"' ∧ closer = '"')) :
    (cleanTitle (opener :: inner ++ [closer])).length ≤ inner.length := by
  have hinner : cleanTitle (opener :: inner ++ [closer]) =
      dropBackslashes (resolveReferences inner) := by
    rcases h with ⟨rfl, rfl⟩ | ⟨rfl, rfl⟩ | ⟨rfl, rfl⟩ <;>
      simp [cleanTitle, List.getLast?_cons, List.getLast?_append]
  rw [hinner]
  exact length_dropBackslashes_resolveReferences_le inner

/-- A title is read behind white space. -/
theorem length_of_titleAfter (htitle : cleanTitle (titleAfter t).1 ≠ []) :
    (cleanTitle (titleAfter t).1).length + 3 + (titleAfter t).2.length ≤ t.length := by
  have hskipped := (List.dropWhile_suffix isSpace (l := t)).length_le
  unfold titleAfter at htitle ⊢
  dsimp only at htitle ⊢
  split at htitle
  next => exact absurd rfl htitle
  next hsome =>
    rw [if_neg hsome]
    have hblank : (t.dropWhile isSpace).length < t.length := by
      rw [beq_iff_eq] at hsome
      omega
    rcases hread : title? (t.dropWhile isSpace) with _ | ⟨title, rest⟩
    · rw [hread] at htitle
      exact absurd rfl htitle
    · obtain ⟨opener, inner, closer, rfl, htext, hdelimited⟩ := exists_of_title? hread
      have hclean := length_cleanTitle_le inner hdelimited
      have hlength := congrArg List.length htext
      simp only [List.cons_append, List.append_assoc, List.length_cons,
        List.length_append] at hlength
      dsimp only [Option.getD]
      omega

/-- What is read for a target with a title: a destination, and room for the title, its delimiters,
the blank before it and the closing parenthesis. -/
theorem exists_of_inlineTarget? {target : Target} (h : inlineTarget? t = some (target, rest)) :
    ∃ r url behind, t = '(' :: r ∧ destination? (r.dropWhile isSpace) = some (url, behind) ∧
      cleanUrl url = target.url ∧
      (target.title ≠ [] → target.title.length + 4 + rest.length ≤ behind.length) := by
  unfold inlineTarget? at h
  split at h
  next r =>
    split at h
    next url behind hread =>
      dsimp only at h
      split at h
      next after hafter =>
        cases h
        refine ⟨r, url, behind, rfl, hread, rfl, fun htitle => ?_⟩
        have hlength := length_of_titleAfter htitle
        have hskipped := (List.dropWhile_suffix isSpace (l := (titleAfter behind).2)).length_le
        rw [hafter, List.length_cons] at hskipped
        dsimp only
        omega
      next => cases h
    next => cases h
  next => cases h

/-- **A target is no longer than what is written for it.** -/
theorem length_le_of_inlineTarget? {target : Target} (h : inlineTarget? t = some (target, rest))
    (htitle : target.title ≠ []) :
    target.url.length + target.title.length + 5 + rest.length ≤ t.length := by
  obtain ⟨r, url, behind, rfl, hread, hurl, hbehind⟩ := exists_of_inlineTarget? h
  have hlength := length_of_destination? hread
  have hskipped := (List.dropWhile_suffix isSpace (l := r)).length_le
  have hclean := length_cleanUrl_le url
  have := hbehind htitle
  rw [hurl] at hclean
  rw [List.length_cons]
  omega

/-- A destination, and behind it a blank and a title that is a number sign, in parentheses. -/
def hashTarget (p : Text) : Text := '(' :: p ++ lit " \"#\")"

/-- A destination is read as it is written, to the end of what is written behind it. -/
theorem IsDestination.inlineTarget? (h : IsDestination p) (hp : p.head? = some '/') :
    inlineTarget? (hashTarget p) = some (⟨p, ['#']⟩, []) := by
  obtain ⟨path, rfl⟩ : ∃ path, p = '/' :: path := by
    rcases p with _ | ⟨c, path⟩
    · cases hp
    · cases hp
      exact ⟨path, rfl⟩
  have hplain := (plainDestination?_eq_some_iff (lit "\"#\")") (Nat.zero_le _) h.unescaped).2
    ⟨h.visible, h.nested⟩
  have hclean := cleanUrl_eq_self_iff.2
    ⟨trimSpace_of_visible h.visible, h.unescaped, h.unreferenced⟩
  have hread : destination? ((('/' :: path) ++ lit " \"#\")").dropWhile isSpace) =
      some ('/' :: path, lit " \"#\")") := hplain
  have htitle : titleAfter (lit " \"#\")") = (lit "\"#\"", [')']) := by decide
  have hshown : cleanTitle (lit "\"#\"") = ['#'] := by decide
  have htarget : Markdown.inlineTarget? (hashTarget ('/' :: path)) =
      some (⟨cleanUrl ('/' :: path), cleanTitle (lit "\"#\"")⟩, []) := by
    unfold hashTarget Markdown.inlineTarget?
    dsimp only [List.cons_append] at hread ⊢
    simp only [hread, htitle]
    rfl
  rw [htarget, hclean, hshown]

/-- **A path is read back as the target it was written for** precisely if it is a destination. -/
theorem inlineTarget?_hashTarget_iff (hp : p.head? = some '/') :
    (∃ rest, inlineTarget? (hashTarget p) = some (⟨p, ['#']⟩, rest)) ↔ IsDestination p := by
  refine ⟨?_, fun h => ⟨[], h.inlineTarget? hp⟩⟩
  rintro ⟨rest, h⟩
  obtain ⟨r, url, behind, htext, hread, hurl, hbehind⟩ := exists_of_inlineTarget? h
  obtain ⟨path, rfl⟩ : ∃ path, p = '/' :: path := by
    rcases p with _ | ⟨c, path⟩
    · cases hp
    · cases hp
      exact ⟨path, rfl⟩
  cases htext
  have hplain : plainDestination? 0 false ('/' :: path ++ lit " \"#\")") = some (url, behind) := hread
  -- the destination is not shorter than the path, and has no room to be longer
  have htext := eq_append_of_plainDestination? hplain
  have hclean := length_cleanUrl_le url
  have htail : 5 + rest.length ≤ behind.length := hbehind (List.cons_ne_nil _ _)
  have hlength : path.length + 1 + 5 = url.length + behind.length := by
    rw [← List.length_append, ← htext, List.length_append]
    rfl
  rw [hurl, List.length_cons] at hclean
  obtain ⟨rfl, rfl⟩ := List.append_inj' htext (by
    change 5 = behind.length
    omega)
  obtain ⟨-, hunescaped, hunreferenced⟩ := cleanUrl_eq_self_iff.1 hurl
  obtain ⟨hvisible, hnested⟩ := (plainDestination?_eq_some_iff _ (Nat.zero_le _) hunescaped).1 hplain
  exact ⟨hvisible, hnested, hunescaped, hunreferenced⟩

end WikiPress.Markdown
