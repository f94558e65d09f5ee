import WikiPress.Proofs.Fence
import WikiPress.Proofs.Snippet.Demote
import WikiPress.Proofs.Snippet.Scan

/-!
# Proofs/Snippet/Headings — no heading is left above the marker line

A heading line is one to six marks at the beginning of a line, followed by a blank or by nothing
(`atxLevel?`).  Below the heading of a directive of level `n`, the headings outside fenced code have
at least `n` marks (`atxLevel?_underHeading`), the marks of directive lines included.  What shifting
passes over are the lines of fenced code, and marks that are followed by a blank which is neither a
space nor a tab (`hasOddBlank`).
-/

namespace WikiPress.Snippet

/-! ## Heading lines -/

/-- **The level of a heading line**: one to six marks, followed by a blank or by nothing. -/
def atxLevel? (line : Text) : Option Nat :=
  let level := (line.takeWhile (· == '#')).length
  if 1 ≤ level && level ≤ 6 && (line.dropWhile (· == '#')).head?.all Text.isBlank then some level
  else none

/-- Whether the marks of a line are followed by a blank that is neither a space nor a tab. -/
def hasOddBlank (line : Text) : Bool :=
  (line.dropWhile (· == '#')).head?.any fun c => Text.isBlank c && !Text.isSpaceOrTab c

variable {line rest : Text} {n k : Nat}

/-- The level of a line is the number of its marks. -/
theorem atxLevel?_marks (h : rest.head? ≠ some '#') :
    atxLevel? (List.replicate n '#' ++ rest) =
      if 1 ≤ n && n ≤ 6 && rest.head?.all Text.isBlank then some n else none := by
  obtain ⟨hmarks, hbehind⟩ := Text.takeWhile_replicate_append n h
  rw [atxLevel?, hmarks, hbehind, List.length_replicate]

theorem atxLevel?_marks_eq_some_iff (h : rest.head? ≠ some '#') :
    atxLevel? (List.replicate n '#' ++ rest) = some k ↔
      n = k ∧ 1 ≤ n ∧ n ≤ 6 ∧ rest.head?.all Text.isBlank = true := by
  rw [atxLevel?_marks h]
  simp [and_assoc, and_comm]

theorem hasOddBlank_marks (h : rest.head? ≠ some '#') :
    hasOddBlank (List.replicate n '#' ++ rest) =
      rest.head?.any fun c => Text.isBlank c && !Text.isSpaceOrTab c := by
  rw [hasOddBlank, (Text.takeWhile_replicate_append n h).2]

@[simp] theorem atxLevel?_nil : atxLevel? [] = none := rfl

theorem pos_of_atxLevel? (h : atxLevel? line = some k) : 1 ≤ k := by
  obtain ⟨n, rest, rfl, hrest⟩ := Text.exists_replicate_append '#' line
  obtain ⟨rfl, hpos, -⟩ := (atxLevel?_marks_eq_some_iff hrest).1 h
  exact hpos

/-- **Blanks at the end of a heading line do not count.** -/
theorem atxLevel?_trimEnd (line : Text) : atxLevel? (Text.trimEnd line) = atxLevel? line := by
  obtain ⟨n, rest, rfl, hrest⟩ := Text.exists_replicate_append '#' line
  by_cases hblank : Text.allBlank rest = true
  · -- nothing is left but the marks
    have hmarks : Text.trimEnd (List.replicate n '#') = List.replicate n '#' := by
      cases n with
      | zero => rfl
      | succ n =>
        rw [List.replicate_succ']
        exact Text.dropEndWhile_append_singleton (by decide) _
    have hhead : rest.head?.all Text.isBlank = true := by
      cases rest with
      | nil => rfl
      | cons c rest => exact List.all_eq_true.1 hblank c List.mem_cons_self
    have hnil : ([] : Text).head? ≠ some '#' := by decide
    have hlevel := atxLevel?_marks (n := n) hnil
    rw [List.append_nil] at hlevel
    rw [Text.trimEnd_append_of_allBlank hblank, hmarks, hlevel, atxLevel?_marks hrest, hhead]
    rfl
  · have hhead := Text.head?_trimEnd (Bool.eq_false_iff.2 hblank)
    rw [Text.trimEnd_append_of_not_allBlank (Bool.eq_false_iff.2 hblank),
      atxLevel?_marks (hhead ▸ hrest), atxLevel?_marks hrest, hhead]

/-- A directive line with a heading mark is a heading line of that level. -/
theorem atxLevel?_of_read? {d : Directive} (h : Directive.read? line = some d)
    (hlevel : d.level ≠ 0) :
    2 ≤ d.level ∧ d.level ≤ 6 ∧ atxLevel? line = some d.level ∧ hasOddBlank line = false := by
  obtain ⟨rest, -, -, -, -, hmark, -⟩ := Directive.read?_eq_some h
  rcases Directive.headingMark?_eq_some hmark with ⟨hzero, -⟩ | ⟨hmin, hmax, rfl⟩
  · exact absurd hzero hlevel
  · have hspace : (' ' :: rest).head? ≠ some '#' := by simp
    refine ⟨hmin, hmax, ?_, ?_⟩
    · rw [atxLevel?_marks hspace]
      simp [hmax, show 1 ≤ d.level by omega, Text.isBlank]
    · rw [hasOddBlank_marks hspace]
      rfl

/-! ## Directive lines and fences -/

/-- A directive line begins with no fence. -/
theorem fence_of_read? {d : Directive} (h : Directive.read? line = some d) :
    Fence.read? line = none := by
  rw [Option.eq_none_iff_forall_ne_some]
  intro found hfound
  obtain ⟨c, rest, hstart, hmark⟩ := Fence.trimStart_of_read? hfound
  obtain ⟨behind, after, -, -, -, hhead, hafter, -⟩ := Directive.read?_eq_some h
  have hc : c = '#' ∨ c = '[' := by
    rcases Directive.headingMark?_eq_some hhead with ⟨-, rfl, -⟩ | ⟨hmin, -, rfl⟩
    · rw [hafter] at hstart
      exact .inr (List.cons.inj hstart).1.symm
    · obtain ⟨n, hn⟩ : ∃ n, d.level = n + 1 := ⟨d.level - 1, by omega⟩
      rw [hn, List.replicate_succ, List.cons_append,
        Text.trimStart_cons_of_not_blank (by decide)] at hstart
      exact .inl (List.cons.inj hstart).1.symm
  rcases hc with rfl | rfl <;> exact absurd hmark (by decide)

/-- A line that is kept or emptied opens and closes the same fences. -/
theorem fence_keptLine (visited : Visited) (line : Text) :
    Fence.read? (keptLine visited line) = Fence.read? line := by
  rw [keptLine]
  split
  · next d hread =>
    split
    · rw [fence_of_read? hread]
      rfl
    · rfl
  · rfl

/-! ## Shifted lines -/

/-- A shifted heading has as many marks as the shift asks for. -/
theorem atxLevel?_demoteLine {shift : Nat} (h : atxLevel? (demoteLine shift line) = some k) :
    min (shift + 1) 6 ≤ k ∨ hasOddBlank (demoteLine shift line) = true := by
  rw [demoteLine, heading?] at h ⊢
  dsimp only at h ⊢
  obtain ⟨n, rest, rfl, hrest⟩ := Text.exists_replicate_append '#' line
  obtain ⟨hmarks, hbehind⟩ := Text.takeWhile_replicate_append n hrest
  rw [hmarks, hbehind, List.length_replicate] at h ⊢
  split at h
  · next level title hheading =>
    -- the line was a heading of level one to five
    split at hheading
    · next hcond =>
      obtain ⟨rfl, -⟩ := Prod.mk.inj (Option.some.inj hheading)
      have hlevel : 1 ≤ n := by simp only [Bool.and_eq_true, decide_eq_true_eq] at hcond; omega
      have htitle : (if title.isEmpty then [] else ' ' :: title : Text).head? ≠ some '#' := by
        split <;> simp
      obtain ⟨rfl, -⟩ := (atxLevel?_marks_eq_some_iff htitle).1 h
      exact .inl (by omega)
    · exact absurd hheading (by simp)
  · next hnone =>
    split at hnone
    · exact absurd hnone (by simp)
    · next hcond =>
      -- the line was none, so it has six marks, or its blank is odd
      obtain ⟨rfl, hmin, hmax, hblank⟩ := (atxLevel?_marks_eq_some_iff hrest).1 h
      rw [hasOddBlank_marks hrest]
      rcases Nat.lt_or_ge n 6 with hn | hn
      · simp only [Bool.and_eq_true, decide_eq_true_eq, not_and] at hcond
        have hrest' := hcond ⟨hmin, by omega⟩
        cases rest with
        | nil => exact absurd rfl hrest'
        | cons c rest =>
          have hspace : Text.isSpaceOrTab c = false := by simpa using hrest'
          have hc : Text.isBlank c = true := hblank
          exact .inr (by simp [hspace, hc])
      · exact .inl (by omega)

/-- A shifted line opens no fence if the line itself opens none. -/
theorem open?_demoteLine {shift : Nat} (h : Fence.open? line = none) :
    Fence.open? (demoteLine shift line) = none := by
  rw [demoteLine]
  split
  · next level title hheading =>
    rw [heading?] at hheading
    dsimp only at hheading
    split at hheading
    · next hcond =>
      obtain ⟨rfl, -⟩ := Prod.mk.inj (Option.some.inj hheading)
      rw [Bool.and_eq_true, Bool.and_eq_true, decide_eq_true_eq] at hcond
      obtain ⟨m, hm⟩ : ∃ m, min ((line.takeWhile (· == '#')).length + shift) 6 = m + 1 :=
        ⟨min ((line.takeWhile (· == '#')).length + shift) 6 - 1, by omega⟩
      rw [hm]
      rfl
    · exact absurd hheading (by simp)
  · exact h

/-- **Shifting changes the lines outside fenced code.** -/
theorem outside_demoteLines (shift : Nat) (fence : Option Fence) (lines : List Text) :
    Fence.outside fence (demoteLines shift fence lines) =
      (Fence.outside fence lines).map (demoteLine shift) := by
  induction lines generalizing fence with
  | nil => rfl
  | cons line lines ih =>
    cases fence with
    | some fence => exact ih _
    | none =>
      rw [demoteLines]
      cases hopen : Fence.open? line with
      | some fence =>
        have hcovers : Fence.covers none line = true := by
          rw [Fence.covers, hopen]
          rfl
        dsimp only
        rw [Fence.outside_cons_of_covers hcovers, Fence.outside_cons_of_covers hcovers, Fence.next,
          hopen]
        exact ih _
      | none =>
        have hcovers : ∀ l, Fence.open? l = none → Fence.covers none l = false := fun l hl => by
          rw [Fence.covers, hl]
          rfl
        dsimp only
        rw [Fence.outside_cons_of_not_covers (hcovers _ hopen),
          Fence.outside_cons_of_not_covers (hcovers _ (open?_demoteLine hopen)), ih, List.map_cons]

/-- **The headings below the heading of a directive** have as many marks as the directive, but for
those in fenced code and those with odd blanks. -/
theorem atxLevel?_underHeading {d : Directive} (hlevel : 2 ≤ d.level) (hmax : d.level ≤ 6)
    (htarget : '\n' ∉ d.target) {snippet : Text}
    (hline : line ∈ Fence.outside none (Text.splitOn '\n' (underHeading d snippet)))
    (h : atxLevel? line = some k) : d.level ≤ k ∨ hasOddBlank line = true := by
  have hcovers : Fence.covers none (markerLine d.level d.target) = false := by
    obtain ⟨m, hm⟩ : ∃ m, min d.level 6 = m + 1 := ⟨min d.level 6 - 1, by omega⟩
    rw [markerLine, hm]
    rfl
  rw [splitOn_underHeading hlevel htarget, Fence.outside_cons_of_not_covers hcovers] at hline
  rcases List.mem_cons.1 hline with rfl | hline
  · have hspace : (' ' :: '[' :: ']' :: '(' :: d.target ++ lit " \"#\")").head? ≠ some '#' := by
      simp
    rw [markerLine, List.append_assoc] at h
    obtain ⟨rfl, -⟩ := (atxLevel?_marks_eq_some_iff hspace).1 h
    exact .inl (by omega)
  · split at hline
    · exact absurd hline List.not_mem_nil
    · rw [Fence.outside_cons_of_not_covers rfl, outside_demoteLines] at hline
      rcases List.mem_cons.1 hline with rfl | hline
      · exact absurd h (by simp)
      · obtain ⟨line, -, rfl⟩ := List.mem_map.1 hline
        exact (atxLevel?_demoteLine h).imp_left fun hle => by omega

end WikiPress.Snippet
