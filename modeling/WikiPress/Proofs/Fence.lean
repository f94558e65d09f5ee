import WikiPress.Fence
import WikiPress.Proofs.Text.Basic

/-!
# Proofs/Fence — the lines outside fenced code

A scanner that respects fences carries the open fence from line to line (`Fence.next`) and looks at
the lines that are not covered (`Fence.outside`).  Both are read off texts piece by piece
(`after_append`, `outside_append`), and blanks at the end of a line make no difference to them
(`next_trimEnd`).  Lines may be put in place of a line outside fenced code without a change to what
is code around them, if they close every fence they open (`outside_flatMap`).
-/

namespace WikiPress.Fence

/-- The fence that is open behind a line. -/
def next : Option Fence → Text → Option Fence
  | some fence, line => if fence.closedBy line then none else some fence
  | none, line => open? line

/-- The fence that is open behind some lines. -/
def after (fence : Option Fence) (lines : List Text) : Option Fence := lines.foldl next fence

/-- Whether a line belongs to fenced code, the lines that open and close it included. -/
def covers (fence : Option Fence) (line : Text) : Bool := fence.isSome || (open? line).isSome

/-- **The lines outside fenced code**; `fence` is the fence that is open in front of them. -/
def outside : (fence : Option Fence) → List Text → List Text
  | _, [] => []
  | fence, line :: rest =>
    if covers fence line then outside (next fence line) rest
    else line :: outside (next fence line) rest

/-- **The lines of fenced code.** -/
def inside : (fence : Option Fence) → List Text → List Text
  | _, [] => []
  | fence, line :: rest =>
    if covers fence line then line :: inside (next fence line) rest
    else inside (next fence line) rest

variable {fence : Option Fence} {line : Text} {lines : List Text}

theorem after_cons (fence : Option Fence) (line : Text) (rest : List Text) :
    after fence (line :: rest) = after (next fence line) rest := rfl

theorem after_append (fence : Option Fence) (first rest : List Text) :
    after fence (first ++ rest) = after (after fence first) rest := List.foldl_append

/-- A line that is not covered is read with no fence open, and opens none. -/
theorem covers_eq_false_iff : covers fence line = false ↔ fence = none ∧ open? line = none := by
  rw [covers, Bool.or_eq_false_iff, Option.isSome_eq_false_iff, Option.isSome_eq_false_iff,
    Option.isNone_iff_eq_none, Option.isNone_iff_eq_none]

theorem next_of_not_covers (h : covers fence line = false) : next fence line = none := by
  obtain ⟨rfl, hopen⟩ := covers_eq_false_iff.1 h
  exact hopen

theorem outside_cons_of_covers (h : covers fence line = true) (rest : List Text) :
    outside fence (line :: rest) = outside (next fence line) rest := by
  rw [outside, if_pos h]

theorem outside_cons_of_not_covers (h : covers fence line = false) (rest : List Text) :
    outside fence (line :: rest) = line :: outside none rest := by
  rw [outside, if_neg (by simp [h]), next_of_not_covers h]

/-- **The lines outside fenced code, piece by piece.** -/
theorem outside_append (fence : Option Fence) (first rest : List Text) :
    outside fence (first ++ rest) = outside fence first ++ outside (after fence first) rest := by
  induction first generalizing fence with
  | nil => rfl
  | cons line first ih =>
    rw [List.cons_append, outside, outside, after_cons]
    split
    · exact ih _
    · rw [ih, List.cons_append]

/-- A line stands outside fenced code, or it belongs to it. -/
theorem mem_outside_or_mem_inside (h : line ∈ lines) :
    line ∈ outside fence lines ∨ line ∈ inside fence lines := by
  induction lines generalizing fence with
  | nil => exact absurd h List.not_mem_nil
  | cons first rest ih =>
    rw [outside, inside]
    split
    · rcases List.mem_cons.1 h with rfl | h
      · exact .inr List.mem_cons_self
      · exact (ih h).imp_right (List.mem_cons_of_mem _)
    · rcases List.mem_cons.1 h with rfl | h
      · exact .inl List.mem_cons_self
      · exact (ih h).imp_left (List.mem_cons_of_mem _)

theorem mem_of_mem_outside (h : line ∈ outside fence lines) : line ∈ lines := by
  induction lines generalizing fence with
  | nil => exact absurd h List.not_mem_nil
  | cons first rest ih =>
    rw [outside] at h
    split at h
    · exact List.mem_cons_of_mem _ (ih h)
    · rcases List.mem_cons.1 h with rfl | h
      · exact List.mem_cons_self
      · exact List.mem_cons_of_mem _ (ih h)

theorem mem_of_mem_inside (h : line ∈ inside fence lines) : line ∈ lines := by
  induction lines generalizing fence with
  | nil => exact absurd h List.not_mem_nil
  | cons first rest ih =>
    rw [inside] at h
    split at h
    · rcases List.mem_cons.1 h with rfl | h
      · exact List.mem_cons_self
      · exact List.mem_cons_of_mem _ (ih h)
    · exact List.mem_cons_of_mem _ (ih h)

/-- A line outside fenced code opens none. -/
theorem open?_of_mem_outside (h : line ∈ outside fence lines) : open? line = none := by
  induction lines generalizing fence with
  | nil => exact absurd h List.not_mem_nil
  | cons first rest ih =>
    rw [outside] at h
    split at h
    · exact ih h
    · next hcovers =>
      rcases List.mem_cons.1 h with rfl | h
      · exact (covers_eq_false_iff.1 (Bool.eq_false_iff.2 hcovers)).2
      · exact ih h

/-! ## Blanks in front of a fence and behind it -/

theorem isBlank_eq_false_of_mark {c : Char} (h : (c == '`' || c == '~') = true) :
    Text.isBlank c = false := by
  rcases Bool.or_eq_true_iff.1 h with h | h <;> rw [beq_iff_eq.1 h] <;> decide

/-- A line that begins with a fence begins, after blanks, with a backtick or a tilde. -/
theorem trimStart_of_read? {found : Fence × Text} (h : read? line = some found) :
    ∃ c rest, Text.trimStart line = c :: rest ∧ (c == '`' || c == '~') = true := by
  rw [read?] at h
  split at h
  · next c rest hrest =>
    dsimp only at h
    split at h
    · next hcond =>
      have hmark : (c == '`' || c == '~') = true := (Bool.and_eq_true_iff.1 hcond).1
      have hspaces : ∀ d ∈ line.takeWhile (· == ' '), Text.isBlank d = true := fun d hd => by
        obtain rfl : d = ' ' := by simpa using List.mem_takeWhile_imp hd
        rfl
      have hdrop : line.dropWhile (· == ' ') = c :: rest := by
        rw [unindent?] at hrest
        split at hrest
        · exact Option.some.inj hrest
        · exact absurd hrest (by simp)
      refine ⟨c, rest, ?_, hmark⟩
      rw [← List.takeWhile_append_dropWhile (p := (· == ' ')) (l := line), hdrop,
        Text.trimStart_append_of_allBlank (List.all_eq_true.2 hspaces),
        Text.trimStart_cons_of_not_blank (isBlank_eq_false_of_mark hmark)]
    · exact absurd h (by simp)
  · exact absurd h (by simp)

/-- A blank line begins with no fence. -/
theorem read?_of_allBlank (h : Text.allBlank line = true) : read? line = none := by
  rw [Option.eq_none_iff_forall_ne_some]
  intro found hfound
  obtain ⟨c, rest, hstart, -⟩ := trimStart_of_read? hfound
  rw [Text.trimStart_of_allBlank h] at hstart
  exact absurd hstart.symm (List.cons_ne_nil _ _)

/-- Blanks behind a line are behind the fence it begins with. -/
theorem read?_append_blanks {t b : Text} (ht : Text.allBlank t = false)
    (hb : Text.allBlank b = true) :
    read? (t ++ b) = (read? t).map fun found => (found.1, found.2 ++ b) := by
  -- the indentation ends inside `t`
  have hne : t.dropWhile (· == ' ') ≠ [] := by
    intro hnil
    have hall : Text.allBlank t = true := List.all_eq_true.2 fun c hc => by
      rw [beq_iff_eq.1 (List.dropWhile_eq_nil_iff.1 hnil c hc)]
      rfl
    rw [hall] at ht
    exact absurd ht (by decide)
  obtain ⟨htake, hdrop⟩ := Text.takeWhile_append_of_dropWhile_ne_nil hne b
  obtain ⟨c, rest, hrest⟩ := List.exists_cons_of_ne_nil hne
  rw [read?, read?, unindent?, unindent?, htake, hdrop, hrest]
  by_cases hthree : (t.takeWhile (· == ' ')).length ≤ 3
  · simp only [if_pos hthree, List.cons_append]
    by_cases hmark : (c == '`' || c == '~') = true
    · have hrun : ∀ d ∈ b.head?, (d == c) = false := fun d hd =>
        beq_eq_false_iff_ne.2 fun heq => by
          have hblank := isBlank_eq_false_of_mark hmark
          rw [← heq, List.all_eq_true.1 hb d (List.mem_of_head? hd)] at hblank
          exact absurd hblank (by decide)
      obtain ⟨htakeRun, hdropRun⟩ := Text.takeWhile_append_of_neg (t := rest) hrun
      rw [htakeRun, hdropRun]
      split_ifs <;> rfl
    · simp [hmark]
  · simp only [if_neg hthree]
    rfl

/-- **Trimming a line at its end keeps the fence it begins with.** -/
theorem read?_trimEnd (line : Text) :
    (read? line = none ∧ read? (Text.trimEnd line) = none) ∨
      ∃ run rest blanks, read? line = some (run, rest ++ blanks) ∧
        read? (Text.trimEnd line) = some (run, rest) ∧ Text.allBlank blanks = true := by
  obtain ⟨blanks, hline, hblanks⟩ := Text.exists_eq_trimEnd_append line
  by_cases hblank : Text.allBlank (Text.trimEnd line) = true
  · have hall : Text.allBlank line = true := by
      rw [hline, Text.allBlank_append, hblank, hblanks, Bool.and_self]
    exact .inl ⟨read?_of_allBlank hall, read?_of_allBlank hblank⟩
  · have hread := read?_append_blanks (Bool.eq_false_iff.2 hblank) hblanks
    rw [← hline] at hread
    cases htrimmed : read? (Text.trimEnd line) with
    | none =>
      rw [htrimmed] at hread
      exact .inl ⟨hread, rfl⟩
    | some found =>
      rw [htrimmed] at hread
      exact .inr ⟨found.1, found.2, blanks, hread, rfl, hblanks⟩

theorem open?_trimEnd (line : Text) : open? (Text.trimEnd line) = open? line := by
  rw [open?, open?]
  obtain ⟨hline, htrimmed⟩ | ⟨run, rest, blanks, hline, htrimmed, -⟩ := read?_trimEnd line
  · rw [hline, htrimmed]
  · rw [hline, htrimmed]
    rfl

theorem closedBy_trimEnd (fence : Fence) (line : Text) :
    fence.closedBy (Text.trimEnd line) = fence.closedBy line := by
  rw [closedBy, closedBy]
  obtain ⟨hline, htrimmed⟩ | ⟨run, rest, blanks, hline, htrimmed, hblanks⟩ := read?_trimEnd line
  · rw [hline, htrimmed]
  · have hrest : Text.allBlank (rest ++ blanks) = Text.allBlank rest := by
      rw [Text.allBlank_append, hblanks, Bool.and_true]
    rw [hline, htrimmed]
    dsimp only
    rw [hrest]

/-- **…and so the fence that is open behind the line.** -/
theorem next_trimEnd (fence : Option Fence) (line : Text) :
    next fence (Text.trimEnd line) = next fence line := by
  cases fence with
  | none => exact open?_trimEnd line
  | some fence => rw [next, next, closedBy_trimEnd]

theorem covers_trimEnd (fence : Option Fence) (line : Text) :
    covers fence (Text.trimEnd line) = covers fence line := by
  rw [covers, covers, open?_trimEnd]

theorem after_map_trimEnd (fence : Option Fence) (lines : List Text) :
    after fence (lines.map Text.trimEnd) = after fence lines := by
  induction lines generalizing fence with
  | nil => rfl
  | cons line rest ih => rw [List.map_cons, after_cons, after_cons, next_trimEnd, ih]

theorem outside_map_trimEnd (fence : Option Fence) (lines : List Text) :
    outside fence (lines.map Text.trimEnd) = (outside fence lines).map Text.trimEnd := by
  induction lines generalizing fence with
  | nil => rfl
  | cons line rest ih =>
    rw [List.map_cons, outside, outside, covers_trimEnd, next_trimEnd]
    split
    · exact ih _
    · rw [List.map_cons, ih]

/-- A line that begins with no fence opens and closes nothing. -/
theorem next_of_read?_eq_none (fence : Option Fence) (h : read? line = none) :
    next fence line = fence := by
  cases fence with
  | none => rw [next, open?, h, Option.map_none]
  | some fence =>
    rw [next, closedBy, h]
    rfl

theorem after_replicate_nil (fence : Option Fence) (n : Nat) :
    after fence (List.replicate n []) = fence := by
  induction n with
  | zero => rfl
  | succ n ih => rw [List.replicate_succ, after_cons, next_of_read?_eq_none fence rfl, ih]

/-! ## Lines replaced by lines -/

/-- Lines that begin with the same fence open and close the same. -/
theorem next_congr {line' : Text} (h : read? line' = read? line) (fence : Option Fence) :
    next fence line' = next fence line := by
  cases fence with
  | none => rw [next, next, open?, open?, h]
  | some fence => rw [next, next, closedBy, closedBy, h]

theorem covers_congr {line' : Text} (h : read? line' = read? line) (fence : Option Fence) :
    covers fence line' = covers fence line := by
  rw [covers, covers, open?, open?, h]

/-- **Lines put in place of lines** that close every fence they open leave the fences around them
alone, if they are put outside fenced code only. -/
theorem outside_flatMap {pieces : Text → List Text}
    (hinside : ∀ line ∈ inside fence lines, ∃ kept, pieces line = [kept] ∧ read? kept = read? line)
    (houtside : ∀ line ∈ outside fence lines, after none (pieces line) = none) :
    after fence (lines.flatMap pieces) = after fence lines ∧
      outside fence (lines.flatMap pieces) =
        (outside fence lines).flatMap fun line => outside none (pieces line) := by
  induction lines generalizing fence with
  | nil => exact ⟨rfl, rfl⟩
  | cons line rest ih =>
    rw [List.flatMap_cons, after_append, outside_append, after_cons]
    rw [inside] at hinside
    rw [outside] at houtside ⊢
    split at hinside
    · next hcovers =>
      rw [if_pos hcovers] at houtside ⊢
      obtain ⟨⟨kept, hpiece, hkept⟩, hinside⟩ := List.forall_mem_cons.1 hinside
      have hafter : after fence (pieces line) = next fence line := by
        rw [hpiece]
        exact next_congr hkept fence
      have hnone : outside fence (pieces line) = [] := by
        rw [hpiece, outside, covers_congr hkept, if_pos hcovers]
        rfl
      rw [hafter, hnone, List.nil_append]
      exact ih hinside houtside
    · next hcovers =>
      rw [if_neg hcovers] at houtside ⊢
      obtain ⟨hpiece, houtside⟩ := List.forall_mem_cons.1 houtside
      obtain ⟨rfl, -⟩ := covers_eq_false_iff.1 (Bool.eq_false_iff.2 hcovers)
      have hnext : next none line = none := next_of_not_covers (Bool.eq_false_iff.2 hcovers)
      rw [hnext] at hinside houtside ⊢
      obtain ⟨hafter, hrest⟩ := ih hinside houtside
      rw [hpiece, hrest, List.flatMap_cons]
      exact ⟨hafter, rfl⟩

end WikiPress.Fence
