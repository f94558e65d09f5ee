import WikiPress.Proofs.Text.Basic
import WikiPress.Text.Case
import WikiPress.Text.Split

/-!
# Proofs/Text/Case — lower case under case folding

        S  ──lower──▸  s         İ  ──lower──▸  i ̇
         ╲           ╱            ╲           ╱
        fold       fold          fold   ≠   fold
           ╲       ╱                ╲       ╱
               s                    İ     i ̇

Folding forgets case: a character and its lower case fold alike, but for the dotted capital I, whose
lower case is two characters (`map_simpleFold_lowerChar`).  So a part of the lower case of a text
folds like a part of the text, unless it has something of such a capital
(`infix_of_infix_lowerAfter`).  The way back is lower case again, for characters that are the lower
case of what they fold to (`infix_lowerAfter_of_isInfix`).
-/

namespace WikiPress.Text

/-! ## Runs -/

/-- A run has characters between two others. -/
def CaseRun.meets (lo hi : Nat) (r : CaseRun) : Bool := Nat.ble r.first hi && Nat.ble lo r.last

/-- The characters of a run. -/
def CaseRun.chars (r : CaseRun) : List Nat :=
  (List.range ((r.last - r.first) / r.step + 1)).map fun k => r.first + r.step * k

/-- What a run shifts a character to. -/
def CaseRun.image (r : CaseRun) (n : Nat) : Nat := (Int.ofNat n + r.shift).toNat

/-- The image of a character under a folding given by runs outside ASCII. -/
def foldBy (runs : List CaseRun) (c : Char) : Char :=
  if c.toNat < 128 then lowerLetter c else mapByRuns runs c

/-- A run of a lower-case mapping keeps a folding: what it shifts a character to folds like it.  Of
the folding, only the runs near the two characters are looked at. -/
def CaseRun.keeps (folding : List CaseRun) (r : CaseRun) : Bool :=
  let lo := r.image r.first
  let hi := r.image r.last
  r.chars.all fun n =>
    let c := Char.ofNat (r.image n)
    Nat.ble lo c.toNat && Nat.ble c.toNat hi &&
      foldBy (folding.filter (CaseRun.meets lo hi)) c ==
        mapByRuns (folding.filter (CaseRun.meets r.first r.last)) (Char.ofNat n)

section Runs

variable {runs : List CaseRun} {c : Char} {lo hi n m : Nat}

/-- Only the runs around a character matter to it. -/
theorem shiftBy_filter_meets (hlo : lo ≤ n) (hhi : n ≤ hi) :
    shiftBy (runs.filter (CaseRun.meets lo hi)) n = shiftBy runs n := by
  rw [shiftBy, shiftBy, List.find?_filter]
  congr 2
  funext r
  rw [Bool.eq_iff_iff, decide_eq_true_iff, and_iff_right_iff_imp, CaseRun.meets]
  intro h
  simp only [Bool.and_eq_true, decide_eq_true_eq] at h
  simp only [Bool.and_eq_true, Nat.ble_eq]
  omega

theorem mapByRuns_filter_meets (hlo : lo ≤ c.toNat) (hhi : c.toNat ≤ hi) :
    mapByRuns (runs.filter (CaseRun.meets lo hi)) c = mapByRuns runs c := by
  rw [mapByRuns, mapByRuns, shiftBy_filter_meets hlo hhi]

theorem foldBy_filter_meets (hlo : lo ≤ c.toNat) (hhi : c.toNat ≤ hi) :
    foldBy (runs.filter (CaseRun.meets lo hi)) c = foldBy runs c := by
  rw [foldBy, foldBy, mapByRuns_filter_meets hlo hhi]

theorem mapByRuns_of_none (h : shiftBy runs c.toNat = none) : mapByRuns runs c = c := by
  rw [mapByRuns, h]

/-- A character that is mapped belongs to a run, which shifts it. -/
theorem exists_run_of_shiftBy (h : shiftBy runs n = some m) :
    ∃ r ∈ runs, n ∈ r.chars ∧ r.first ≤ n ∧ n ≤ r.last ∧ m = r.image n := by
  rw [shiftBy, Option.map_eq_some_iff] at h
  obtain ⟨r, hfind, rfl⟩ := h
  have hrun := List.find?_some hfind
  simp only [Bool.and_eq_true, decide_eq_true_eq, beq_iff_eq] at hrun
  obtain ⟨⟨hfirst, hlast⟩, hmod⟩ := hrun
  refine ⟨r, List.mem_of_find?_eq_some hfind, List.mem_map.2
    ⟨(n - r.first) / r.step, List.mem_range.2 (Nat.lt_succ_of_le ?_), ?_⟩, hfirst, hlast, rfl⟩
  · exact Nat.div_le_div_right (by omega)
  · have hdiv := Nat.div_add_mod (n - r.first) r.step
    omega

/-- **Runs that keep a folding map every character to one that folds like it.** -/
theorem foldBy_mapByRuns {folding : List CaseRun} (h : runs.all (CaseRun.keeps folding) = true)
    (hc : 128 ≤ c.toNat) : foldBy folding (mapByRuns runs c) = foldBy folding c := by
  cases hshift : shiftBy runs c.toNat with
  | none => rw [mapByRuns_of_none hshift]
  | some m =>
    obtain ⟨r, hr, hchars, hfirst, hlast, rfl⟩ := exists_run_of_shiftBy hshift
    have hkeeps := List.all_eq_true.1 (List.all_eq_true.1 h r hr) c.toNat hchars
    simp only [Bool.and_eq_true, Nat.ble_eq, beq_iff_eq, Char.ofNat_toNat] at hkeeps
    obtain ⟨⟨hlo, hhi⟩, hsame⟩ := hkeeps
    rw [foldBy_filter_meets hlo hhi, mapByRuns_filter_meets hfirst hlast] at hsame
    have hascii : ¬ c.toNat < 128 := Nat.not_lt.2 hc
    rw [mapByRuns, hshift, foldBy.eq_def folding c, if_neg hascii]
    exact hsame

end Runs

/-! ## Lower case and folding -/

section Fold

variable {c : Char} {t : Text}

theorem lowerRuns_keeps : lowerRuns.all (CaseRun.keeps foldRuns) = true := by decide +kernel

theorem lowerLetter_ascii (hc : c.toNat < 128) :
    (lowerLetter c).toNat < 128 ∧ lowerLetter (lowerLetter c) = lowerLetter c := by
  have hall : ∀ n < 128, (lowerLetter (Char.ofNat n)).toNat < 128 ∧
      lowerLetter (lowerLetter (Char.ofNat n)) = lowerLetter (Char.ofNat n) := by decide +kernel
  have h := hall c.toNat hc
  rwa [Char.ofNat_toNat] at h

/-- **A character but the dotted capital I folds like its lower case.** -/
theorem map_simpleFold_lowerChar (hc : c ≠ 'İ') : (lowerChar c).map simpleFold = [simpleFold c] := by
  rw [lowerChar]
  split
  · next hascii =>
    obtain ⟨hlt, hidem⟩ := lowerLetter_ascii hascii
    rw [List.map_singleton, simpleFold, if_pos hlt, hidem, simpleFold, if_pos hascii]
  · next hascii =>
    have hdotted : (c.toNat == 0x130) = false := by
      rw [beq_eq_false_iff_ne]
      intro heq
      exact hc (by rw [← Char.ofNat_toNat c, heq])
    rw [hdotted, if_neg Bool.false_ne_true, List.map_singleton]
    exact congrArg (fun d => [d]) (foldBy_mapByRuns lowerRuns_keeps (Nat.not_lt.1 hascii))

theorem lowerChar_dotted : lowerChar 'İ' = ['i', '\u0307'] := by decide +kernel

/-- What a character becomes in a text: its lower case, or a form of sigma. -/
theorem exists_lowerAfter_cons (before : Text) (c : Char) (t : Text) :
    ∃ lower, lowerAfter before (c :: t) = lower ++ lowerAfter (c :: before) t ∧
      (c = 'İ' ∧ lower = lowerChar 'İ' ∨
        c ≠ 'İ' ∧ ∃ d, lower = [d] ∧ simpleFold d = simpleFold c) := by
  have hfinal : simpleFold 'ς' = simpleFold 'Σ' := by decide +kernel
  have hinner : simpleFold 'σ' = simpleFold 'Σ' := by decide +kernel
  refine ⟨_, rfl, ?_⟩
  split
  · next hsigma =>
    obtain rfl := beq_iff_eq.1 hsigma
    refine .inr ⟨by decide, ?_⟩
    split
    · exact ⟨_, rfl, hfinal⟩
    · exact ⟨_, rfl, hinner⟩
  · by_cases hc : c = 'İ'
    · exact .inl ⟨hc, by rw [hc]⟩
    · refine .inr ⟨hc, ?_⟩
      have hfold := map_simpleFold_lowerChar hc
      obtain ⟨d, hlower, hd⟩ := List.map_eq_singleton_iff.1 hfold
      exact ⟨d, hlower, hd⟩

/-- **What a part of a text becomes in lower case**, which folds like it if it does not hold the dotted
capital I. -/
theorem exists_lowerAfter_append (before s t : Text) :
    ∃ lower, lowerAfter before (s ++ t) = lower ++ lowerAfter (s.reverse ++ before) t ∧
      ('İ' ∉ s → lower.map simpleFold = s.map simpleFold) := by
  induction s generalizing before with
  | nil => exact ⟨[], rfl, fun _ => rfl⟩
  | cons c s ih =>
    obtain ⟨first, hfirst, hcases⟩ := exists_lowerAfter_cons before c (s ++ t)
    obtain ⟨lower, hlower, hfold⟩ := ih (c :: before)
    refine ⟨first ++ lower, ?_, fun hs => ?_⟩
    · rw [List.cons_append, hfirst, hlower, List.reverse_cons, List.append_assoc, List.append_assoc,
        List.singleton_append]
    · rw [List.mem_cons, not_or] at hs
      obtain ⟨hc, -⟩ | ⟨-, d, rfl, hd⟩ := hcases
      · exact absurd hc.symm hs.1
      · rw [List.singleton_append, List.map_cons, List.map_cons, hd, hfold hs.2]

/-! ### Parts of a text in lower case -/

/-- A part that has nothing of a dotted capital I does not begin in one. -/
theorem eq_nil_of_prefix_dotted {part : Text} {d : Char} (hpart : ∀ c ∈ part, c ∉ lowerChar 'İ')
    (hd : d ∈ lowerChar 'İ') (h : part <+: d :: t) : part = [] := by
  cases part with
  | nil => rfl
  | cons a part =>
    rw [(List.cons_prefix_cons.1 h).1] at hpart
    exact absurd hd (hpart d List.mem_cons_self)

/-- A beginning of a text in lower case folds like a beginning of the text if it holds nothing of a
dotted capital I, -/
theorem prefix_of_prefix_lowerAfter {part before : Text}
    (hpart : 'İ' ∈ t → ∀ c ∈ part, c ∉ lowerChar 'İ') (h : part <+: lowerAfter before t) :
    part.map simpleFold <+: t.map simpleFold := by
  induction t generalizing part before with
  | nil =>
    rw [lowerAfter, List.prefix_nil] at h
    subst h
    exact List.nil_prefix
  | cons c t ih =>
    obtain ⟨lower, hlower, ⟨rfl, rfl⟩ | ⟨-, d, rfl, hd⟩⟩ := exists_lowerAfter_cons before c t
    · rw [hlower, lowerChar_dotted] at h
      rw [eq_nil_of_prefix_dotted (hpart List.mem_cons_self) (by decide +kernel) h]
      exact List.nil_prefix
    · cases part with
      | nil => exact List.nil_prefix
      | cons a part =>
        rw [hlower, List.singleton_append, List.cons_prefix_cons] at h
        obtain ⟨rfl, h⟩ := h
        rw [List.map_cons, List.map_cons, hd, List.cons_prefix_cons]
        exact ⟨rfl, ih (fun hdotted e he => hpart (List.mem_cons_of_mem _ hdotted) e
          (List.mem_cons_of_mem _ he)) h⟩

/-- **…and so does every part.** -/
theorem infix_of_infix_lowerAfter {part before : Text}
    (hpart : 'İ' ∈ t → ∀ c ∈ part, c ∉ lowerChar 'İ') (h : part <:+: lowerAfter before t) :
    part.map simpleFold <:+: t.map simpleFold := by
  induction t generalizing before with
  | nil =>
    rw [lowerAfter, List.infix_nil] at h
    subst h
    exact List.nil_infix
  | cons c t ih =>
    have hrest : part <:+: lowerAfter (c :: before) t →
        part.map simpleFold <:+: (c :: t).map simpleFold := fun hpart' =>
      List.infix_cons (ih (fun hdotted => hpart (List.mem_cons_of_mem _ hdotted)) hpart')
    obtain ⟨lower, hlower, ⟨rfl, rfl⟩ | ⟨-, d, rfl, hd⟩⟩ := exists_lowerAfter_cons before c t
    · have hnone := hpart List.mem_cons_self
      rw [hlower, lowerChar_dotted, List.cons_append, List.infix_cons_iff, List.cons_append,
        List.infix_cons_iff] at h
      rcases h with h | h | h
      · rw [eq_nil_of_prefix_dotted hnone (by decide +kernel) h]
        exact List.nil_infix
      · rw [eq_nil_of_prefix_dotted hnone (by decide +kernel) h]
        exact List.nil_infix
      · exact hrest h
    · rw [hlower, List.singleton_append, List.infix_cons_iff] at h
      rcases h with h | h
      · rw [← List.singleton_append, ← hlower] at h
        exact (prefix_of_prefix_lowerAfter hpart h).isInfix
      · exact hrest h

/-! ## The way back -/

/-- **A character is settled** if it is the lower case of what it folds to. -/
def Settled (c : Char) : Prop := lowerChar (simpleFold c) = [c]

instance (c : Char) : Decidable (Settled c) := inferInstanceAs (Decidable (_ = _))

/-- Settled characters are known by their foldings. -/
theorem flatMap_lowerChar_of_settled (ht : ∀ c ∈ t, Settled c) :
    (t.map simpleFold).flatMap lowerChar = t := by
  induction t with
  | nil => rfl
  | cons c t ih =>
    obtain ⟨hc, ht⟩ := List.forall_mem_cons.1 ht
    rw [List.map_cons, List.flatMap_cons, ih ht, hc, List.singleton_append]

/-- A settled character does not fold to the dotted capital I. -/
theorem Settled.ne_dotted {d : Char} (hd : Settled d) (h : simpleFold c = simpleFold d) :
    c ≠ 'İ' := by
  have hdotted : simpleFold 'İ' = 'İ' := by decide +kernel
  rintro rfl
  rw [Settled, ← h, hdotted, lowerChar_dotted] at hd
  exact absurd (congrArg List.length hd) (by simp)

/-- **A settled part of what a text folds to is a part of its lower case**, if that is settled. -/
theorem infix_lowerAfter_of_isInfix {part before : Text} (hpart : ∀ c ∈ part, Settled c)
    (ht : ∀ c ∈ lowerAfter before t, Settled c)
    (h : part.map simpleFold <:+: t.map simpleFold) : part <:+: lowerAfter before t := by
  obtain ⟨u, v, huv⟩ := h
  obtain ⟨us, w, rfl, hus, -⟩ := List.map_eq_append_iff.1 huv.symm
  obtain ⟨x, s, rfl, -, hs⟩ := List.map_eq_append_iff.1 hus
  have hdotted : 'İ' ∉ s := fun hmem => by
    obtain ⟨d, hd, hfold⟩ := List.mem_map.1 (hs ▸ List.mem_map_of_mem hmem)
    exact (hpart d hd).ne_dotted hfold.symm rfl
  obtain ⟨before', hbefore, -⟩ := exists_lowerAfter_append before x (s ++ w)
  obtain ⟨lower, hlower, hfold⟩ := exists_lowerAfter_append (x.reverse ++ before) s w
  rw [List.append_assoc, hbefore, hlower] at ht ⊢
  have hsettled : ∀ c ∈ lower, Settled c := fun c hc =>
    ht c (List.mem_append_right _ (List.mem_append_left _ hc))
  have hsame : lower = part := by
    rw [← flatMap_lowerChar_of_settled hsettled, hfold hdotted, hs,
      flatMap_lowerChar_of_settled hpart]
  rw [hsame]
  exact ⟨before', _, List.append_assoc _ _ _⟩

end Fold

/-! ## Occurrences -/

theorem cut?_isSome_iff {part t : Text} : (cut? part t).isSome ↔ part <:+: t := by
  have hstrip : ∀ t, (strip? part t).isSome ↔ part <+: t := fun t => by
    rw [Option.isSome_iff_exists]
    exact exists_congr fun rest => strip?_eq_some_iff.trans eq_comm
  induction t with
  | nil =>
    rw [cut?, Option.isSome_map, hstrip, List.prefix_nil, List.infix_nil]
  | cons c t ih =>
    refine Iff.trans ?_ (List.infix_cons_iff.trans (or_congr (hstrip _).symm ih.symm)).symm
    rw [cut?]
    cases strip? part (c :: t) with
    | some rest => simp
    | none => simp [Option.isSome_map]

/-- A text contains what stands in it. -/
theorem contains_iff_isInfix {part t : Text} : contains part t = true ↔ part <:+: t := cut?_isSome_iff

end WikiPress.Text
