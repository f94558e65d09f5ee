import WikiPress.Proofs.Path
import WikiPress.Proofs.Text.Lines
import WikiPress.Snippet.Directive

/-!
# Proofs/Snippet/Directive — what a line must be to be read as a directive

A directive line begins with its heading mark, or with the blanks before `[+`, and ends with the
parenthesis that closes its target.  So blanks in front of a directive without a mark do not matter
(`isSome_read?_trimStart`), blanks behind any directive do (`ends_of_read?`), and the target, which
is the canonical form of a text without blanks, is a text without blanks (`not_isBlank_target`).
-/

namespace WikiPress

namespace Path

/-- A canonical path holds slashes and characters of the path it stands for. -/
theorem mem_of_normalize?_eq_some {path out : Text} (h : normalize? path = some out) {c : Char}
    (hc : c ∈ out) : c = '/' ∨ c ∈ path := by
  obtain ⟨trail, htrail, rfl⟩ := Option.map_eq_some_iff.1 h
  have hjoined : c ∈ '/' :: Text.join ['/'] trail.reverse → c = '/' ∨ c ∈ path := by
    intro hc
    rcases List.mem_cons.1 hc with rfl | hc
    · exact .inl rfl
    · obtain hc | ⟨segment, hseg, hc⟩ := Text.mem_join hc
      · exact .inl (by simpa using hc)
      · rcases mem_of_walk?_eq_some htrail (List.mem_reverse.1 hseg) with hmem | hmem
        · exact absurd hmem List.not_mem_nil
        · exact .inr (Text.mem_of_mem_splitOn hmem hc)
  dsimp only at hc
  split at hc
  · rcases List.mem_append.1 hc with hc | hc
    · exact hjoined hc
    · exact .inl (by simpa using hc)
  · exact hjoined hc

end Path

namespace Snippet.Directive

/-! ## The parts of a directive line -/

/-- The heading mark of a line: none, or two to six marks and a space. -/
theorem headingMark?_eq_some {line rest : Text} {level : Nat}
    (h : headingMark? line = some (level, rest)) :
    (level = 0 ∧ rest = line ∧ line.head? ≠ some '#') ∨
      (2 ≤ level ∧ level ≤ 6 ∧ line = List.replicate level '#' ++ ' ' :: rest) := by
  have hsplit : line.takeWhile (· == '#') ++ line.dropWhile (· == '#') = line :=
    List.takeWhile_append_dropWhile
  have hmarks : ∀ c ∈ line.takeWhile (· == '#'), c = '#' := fun c hc => by
    simpa using List.mem_takeWhile_imp hc
  rw [headingMark?] at h
  split at h
  · next hnil =>
    rw [Option.some.injEq, Prod.mk.injEq] at h
    refine .inl ⟨h.1.symm, h.2.symm, fun hhead => ?_⟩
    obtain ⟨t, rfl⟩ := List.head?_eq_some_iff.1 hhead
    simp at hnil
  · split at h
    · next marks hmarks' rest' hrest =>
      split at h
      · next hlevel =>
        rw [Option.some.injEq, Prod.mk.injEq] at h
        obtain ⟨rfl, rfl⟩ := h
        rw [Bool.and_eq_true, decide_eq_true_eq, decide_eq_true_eq] at hlevel
        refine .inr ⟨hlevel.1, hlevel.2, ?_⟩
        rw [← List.eq_replicate_of_mem hmarks, ← hrest, hsplit]
      · exact absurd h (by simp)
    · exact absurd h (by simp)

theorem longestLabel?_suffix {seen t body target : Text}
    (h : longestLabel? seen t = some (body, target)) : target <:+ t := by
  induction t generalizing seen with
  | nil => exact absurd h (by simp [longestLabel?])
  | cons c t ih =>
    rw [longestLabel?.eq_def] at h
    dsimp only at h
    split at h
    · next found hfound =>
      rw [h] at hfound
      exact (ih hfound).trans (List.suffix_cons c t)
    · split at h
      · next target' =>
        split at h
        · rw [Option.some.injEq, Prod.mk.injEq] at h
          exact h.2 ▸ List.suffix_cons _ _
        · exact absurd h (by simp)
      · exact absurd h (by simp)

theorem splitLabel?_suffix {t target : Text} {body : Option Text}
    (h : splitLabel? t = some (body, target)) : target <:+ t := by
  rw [splitLabel?.eq_def] at h
  split at h
  · rw [Option.some.injEq, Prod.mk.injEq] at h
    exact h.2 ▸ List.suffix_cons _ _
  · obtain ⟨⟨label, found⟩, hlong, heq⟩ := Option.map_eq_some_iff.1 h
    rw [Prod.mk.injEq] at heq
    exact heq.2 ▸ (longestLabel?_suffix hlong).trans (List.suffix_cons _ _)
  · exact absurd h (by simp)

/-- A link target ends with its closing parenthesis, and the path in it holds no blank. -/
theorem linkPath?_eq_some {target path : Text} (h : linkPath? target = some path) :
    (∃ before, target = before ++ [')']) ∧ ∀ c ∈ path, Text.isBlank c = false := by
  rw [linkPath?] at h
  split at h
  · exact absurd h (by simp)
  · next inner hinner =>
    obtain ⟨opened, hopen, hclose⟩ := Option.bind_eq_some_iff.1 hinner
    rw [Text.strip?_eq_some_iff] at hopen
    rw [Text.stripEnd?_eq_some_iff] at hclose
    have hpath : path = inner.takeWhile (!Text.isBlank ·) := by
      dsimp only at h
      split at h
      · exact absurd h (by simp)
      · split at h
        · split at h
          · exact (Option.some.inj h).symm
          · exact absurd h (by simp)
        · split at h
          · split at h
            · exact absurd h (by simp)
            · exact (Option.some.inj h).symm
          · exact absurd h (by simp)
    refine ⟨⟨'(' :: inner, by rw [hopen, hclose]; rfl⟩, fun c hc => ?_⟩
    rw [hpath] at hc
    simpa using List.mem_takeWhile_imp hc

theorem mem_of_documentPath?_eq_some {path target : Text} (h : documentPath? path = some target)
    {c : Char} (hc : c ∈ target) : c = '/' ∨ c ∈ path := by
  rw [documentPath?] at h
  split at h
  · exact absurd h (by simp)
  · dsimp only at h
    split at h
    · rcases Path.mem_of_normalize?_eq_some h hc with hc | hc
      · exact .inl hc
      · exact .inr ((List.takeWhile_sublist _).subset hc)
    · exact absurd h (by simp)

/-- **What a directive line is made of.** -/
theorem read?_eq_some {line : Text} {d : Directive} (h : read? line = some d) :
    ∃ rest after body target path,
      headingMark? line = some (d.level, rest) ∧
      Text.trimStart rest = lit "[+" ++ after ∧
      splitLabel? after = some (body, target) ∧ linkPath? target = some path ∧
      documentPath? path = some d.target ∧
      d = ⟨line, d.target, d.level, (body.map Bindings.read).getD []⟩ := by
  rw [read?] at h
  obtain ⟨⟨level, rest⟩, hmark, h⟩ := Option.bind_eq_some_iff.1 h
  obtain ⟨after, hstrip, h⟩ := Option.bind_eq_some_iff.1 h
  obtain ⟨⟨body, target⟩, hlabel, h⟩ := Option.bind_eq_some_iff.1 h
  obtain ⟨path, hpath, h⟩ := Option.bind_eq_some_iff.1 h
  obtain ⟨document, hdoc, h⟩ := Option.bind_eq_some_iff.1 h
  obtain rfl := Option.some.inj h
  exact ⟨rest, after, body, target, path, hmark, Text.strip?_eq_some_iff.1 hstrip, hlabel, hpath,
    hdoc, rfl⟩

/-! ## What every directive line has -/

theorem line_of_read? {line : Text} {d : Directive} (h : read? line = some d) : d.line = line := by
  obtain ⟨rest, after, body, target, path, -, -, -, -, -, hd⟩ := read?_eq_some h
  rw [hd]

/-- The target of a directive holds no blank. -/
theorem not_isBlank_target {line : Text} {d : Directive} (h : read? line = some d) {c : Char}
    (hc : c ∈ d.target) : Text.isBlank c = false := by
  obtain ⟨rest, after, body, target, path, -, -, -, hpath, hdoc, -⟩ := read?_eq_some h
  rcases mem_of_documentPath?_eq_some hdoc hc with rfl | hmem
  · decide
  · exact (linkPath?_eq_some hpath).2 c hmem

theorem newline_not_mem_target {line : Text} {d : Directive} (h : read? line = some d) :
    '\n' ∉ d.target := fun hmem => absurd (not_isBlank_target h hmem) (by decide)

/-- **A directive line ends with a parenthesis.** -/
theorem ends_of_read? {line : Text} {d : Directive} (h : read? line = some d) :
    ∃ before, line = before ++ [')'] := by
  obtain ⟨rest, after, body, target, path, hmark, hafter, hlabel, hpath, -, -⟩ := read?_eq_some h
  have hrest : rest <:+ line := by
    rcases headingMark?_eq_some hmark with ⟨-, rfl, -⟩ | ⟨-, -, hline⟩
    · exact List.suffix_rfl
    · rw [hline]
      exact (List.suffix_cons ' ' rest).trans (List.suffix_append _ _)
  have hbody : after <:+ rest :=
    (List.suffix_append (lit "[+") after).trans (hafter ▸ Text.trimStart_suffix rest)
  obtain ⟨front, hfront⟩ := ((splitLabel?_suffix hlabel).trans hbody).trans hrest
  obtain ⟨before, rfl⟩ := (linkPath?_eq_some hpath).1
  exact ⟨front ++ before, by rw [← hfront, List.append_assoc]⟩

/-- …so it has no blanks at its end, -/
theorem trimEnd_of_read? {line : Text} {d : Directive} (h : read? line = some d) :
    Text.trimEnd line = line := by
  obtain ⟨before, rfl⟩ := ends_of_read? h
  exact Text.dropEndWhile_append_singleton (by decide) before

/-- …and a blank line is no directive. -/
theorem allBlank_of_read? {line : Text} {d : Directive} (h : read? line = some d) :
    Text.allBlank line = false := by
  obtain ⟨before, rfl⟩ := ends_of_read? h
  rw [Text.allBlank, List.all_append, Bool.and_eq_false_iff]
  exact .inr (by decide)

theorem read?_nil : read? [] = none := by
  cases h : read? [] with
  | none => rfl
  | some d => exact absurd (allBlank_of_read? h) (by decide)

/-- **A directive stays one without the blanks in front of it.** -/
theorem isSome_read?_trimStart {line : Text} (h : (read? line).isSome) :
    (read? (Text.trimStart line)).isSome := by
  obtain ⟨d, hd⟩ := Option.isSome_iff_exists.1 h
  obtain ⟨rest, after, body, target, path, hmark, hafter, hlabel, hpath, hdoc, -⟩ :=
    read?_eq_some hd
  rcases headingMark?_eq_some hmark with ⟨-, rfl, -⟩ | ⟨hlevel, -, hline⟩
  · have hmark' : headingMark? (Text.trimStart rest) = some (0, Text.trimStart rest) := by
      rw [hafter]
      rfl
    simp only [read?, hmark', Option.bind_eq_bind, Option.bind_some, Text.trimStart_trimStart,
      Text.strip?_eq_some_iff.2 hafter, hlabel, hpath, hdoc]
    rfl
  · have hstart : Text.trimStart line = line := by
      obtain ⟨n, hn⟩ : ∃ n, d.level = n + 1 := ⟨d.level - 1, by omega⟩
      rw [hline, hn, List.replicate_succ, List.cons_append]
      exact Text.trimStart_cons_of_not_blank (by decide) _
    rwa [hstart]

/-- A line whose heading mark is followed by an opening bracket, and that by something else than
a plus sign, is no directive. -/
theorem read?_marks_bracket {n : Nat} (hn : n ≠ 0) {c : Char} (hc : c ≠ '+') (t : Text) :
    read? (List.replicate n '#' ++ ' ' :: '[' :: c :: t) = none := by
  cases h : read? (List.replicate n '#' ++ ' ' :: '[' :: c :: t) with
  | none => rfl
  | some d =>
    obtain ⟨rest, after, -, -, -, hmark, hafter, -⟩ := read?_eq_some h
    obtain ⟨m, rfl⟩ := Nat.exists_eq_succ_of_ne_zero hn
    have hrest : rest = '[' :: c :: t := by
      rcases headingMark?_eq_some hmark with ⟨-, -, hhead⟩ | ⟨-, -, hline⟩
      · exact absurd (by simp [List.replicate_succ]) hhead
      · have hdrop := congrArg (List.dropWhile (· == '#')) hline
        simpa [List.dropWhile_append_of_pos] using hdrop.symm
    rw [hrest, Text.trimStart_cons_of_not_blank (by decide),
      show lit "[+" = ['[', '+'] from rfl] at hafter
    simp [hc] at hafter

end Snippet.Directive

end WikiPress
