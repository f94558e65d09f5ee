import WikiPress.Collapsible.Marker
import WikiPress.Proofs.Text.Basic

/-!
# Proofs/Collapsible/Ways — a marker is read in the way that is preferred to all others

    ␣.a␣b␣c      classes a      summary b␣c      the first way
                 classes a␣b    summary c
                 no classes     summary .a␣b␣c

The parts of a marker can be cut off its text in several ways.  They are listed by preference
(`ways`): blanks and the summary as long as possible, the word `open` and the classes rather than
nothing, a class list as short as possible.  The reader does not go through them.  It always takes all
blanks, and it takes the word without asking whether a summary can be found behind it; where none is
found, a newline is in the way, and it is in the way of every later reading too
(`head?_flatMap_behindBlanks`).  So what it finds is the first way (`parts?_eq_head?_ways`).
-/

namespace WikiPress.Collapsible

/-! ## Ways to cut a text -/

/-- What is left of a text behind blanks, at least one; behind as many as possible first. -/
def behindBlanks : Text → List Text
  | [] => []
  | c :: t => if Text.isBlank c then behindBlanks t ++ [t] else []

/-- The beginnings of a text that stay on its line, the shortest first, with what follows them. -/
def lineCuts : Text → List (Text × Text)
  | [] => [([], [])]
  | c :: t => ([], c :: t) ::
    if c == '\n' then [] else (lineCuts t).map fun cut => (c :: cut.1, cut.2)

/-!
## Ways to read a marker

Every part is cut off what the parts before it have left.
-/

/-- A summary, up to the end of the text. -/
def summaryWays (t : Text) : List Text :=
  (lineCuts t).reverse.filterMap fun cut => if cut.2.isEmpty then some cut.1 else none

/-- A class list with its dot and the blanks behind it, or nothing, and the summary. -/
def classWays (t : Text) : List (Option Text × Text) :=
  (match t with
    | '.' :: t => (lineCuts t).flatMap fun cut =>
      (behindBlanks cut.2).flatMap fun t => (summaryWays t).map (some cut.1, ·)
    | _ => []) ++ (summaryWays t).map (none, ·)

/-- The word `open` with the blanks behind it, or nothing, and the parts behind them. -/
def openWays (t : Text) : List (Bool × Option Text × Text) :=
  (match Text.strip? (lit "open") t with
    | some t => (behindBlanks t).flatMap fun t => (classWays t).map (true, ·)
    | none => []) ++ (classWays t).map (false, ·)

/-- **The ways to read a marker**, in order of preference. -/
def ways (t : Text) : List (Bool × Option Text × Text) := (behindBlanks t).flatMap openWays

section Ways

variable {t : Text}

theorem summary?_eq_none_iff : summary? t = none ↔ '\n' ∈ t := by
  rw [summary?]
  split
  · next h => exact iff_of_true rfl (List.elem_iff.1 h)
  · next h => exact iff_of_false (Option.some_ne_none t) fun hmem => h (List.elem_iff.2 hmem)

theorem summary?_cons {c : Char} (hc : c ≠ '\n') (t : Text) :
    summary? (c :: t) = (summary? t).map (c :: ·) := by
  have helem : List.elem '\n' (c :: t) = List.elem '\n' t := by
    rw [List.elem_cons, beq_eq_false_iff_ne.2 hc.symm]
  rw [summary?, summary?, helem]
  split <;> rfl

/-- There is one way to take the whole rest as a summary, if it is one line. -/
theorem summaryWays_eq (t : Text) : summaryWays t = (summary? t).toList := by
  suffices hcuts : (lineCuts t).filterMap (fun cut => if cut.2.isEmpty then some cut.1 else none) =
      (summary? t).toList by
    rw [summaryWays, List.filterMap_reverse, hcuts]
    cases summary? t <;> rfl
  induction t with
  | nil => rfl
  | cons c t ih =>
    by_cases hc : c = '\n'
    · subst hc
      rw [summary?_eq_none_iff.2 List.mem_cons_self]
      rfl
    · rw [summary?_cons hc, Option.toList_map, ← ih, lineCuts, if_neg (by simpa using hc)]
      simp [List.filterMap_map, List.map_filterMap, apply_ite]

theorem summaryWays_eq_nil_iff : summaryWays t = [] ↔ '\n' ∈ t := by
  rw [summaryWays_eq, Option.toList_eq_nil_iff, summary?_eq_none_iff]

theorem behindBlanks_of_not_blank {c : Char} (hc : Text.isBlank c = false) (t : Text) :
    behindBlanks (c :: t) = [] := by
  rw [behindBlanks, if_neg (by simp [hc])]

/-- **All blanks are tried, and that is enough**: where there is no way on behind all blanks of a
text, there is none behind some of them. -/
theorem head?_flatMap_behindBlanks {α : Type} {f : Text → List α}
    (h : ∀ c t, Text.isBlank c = true → f (Text.trimStart t) = [] → f (c :: t) = []) {c : Char}
    (hc : Text.isBlank c = true) (t : Text) :
    ((behindBlanks (c :: t)).flatMap f).head? = (f (Text.trimStart t)).head? := by
  induction t generalizing c with
  | nil => rw [behindBlanks, if_pos hc, List.flatMap_append, List.flatMap_singleton]; rfl
  | cons d t ih =>
    rw [behindBlanks, if_pos hc, List.flatMap_append, List.flatMap_singleton, List.head?_append]
    by_cases hd : Text.isBlank d = true
    · have htrim : Text.trimStart (d :: t) = Text.trimStart t := List.dropWhile_cons_of_pos hd
      rw [ih hd, htrim]
      cases hfound : f (Text.trimStart t) with
      | cons a rest => rfl
      | nil => rw [h d t hd hfound]; rfl
    · rw [behindBlanks_of_not_blank (Bool.eq_false_iff.2 hd),
        Text.trimStart_cons_of_not_blank (Bool.eq_false_iff.2 hd)]
      rfl

/-- Blanks do not make one line of several. -/
theorem summaryWays_cons_of_blank (c : Char) (h : summaryWays (Text.trimStart t) = []) :
    summaryWays (c :: t) = [] := by
  rw [summaryWays_eq_nil_iff] at h ⊢
  exact List.mem_cons_of_mem c ((Text.trimStart_suffix t).subset h)

theorem classWays_of_head (h : t.head? ≠ some '.') :
    classWays t = (summaryWays t).map (none, ·) := by
  rw [classWays.eq_def]
  split
  · exact absurd rfl h
  · rfl

theorem classesAndSummary?_of_head (h : t.head? ≠ some '.') :
    classesAndSummary? t = (summary? t).map (none, ·) := by
  rw [classesAndSummary?.eq_def]
  split
  · next rest => exact absurd rfl h
  · rfl

theorem summaryWays_of_classWays (h : classWays t = []) : summaryWays t = [] :=
  List.map_eq_nil_iff.1 (List.append_eq_nil_iff.1 h).2

theorem classWays_cons_of_blank {c : Char} (hc : Text.isBlank c = true)
    (h : classWays (Text.trimStart t) = []) : classWays (c :: t) = [] := by
  have hne : (c :: t).head? ≠ some '.' := by
    rintro hdot
    obtain rfl := Option.some.inj hdot
    exact absurd hc (by decide)
  rw [classWays_of_head hne, summaryWays_cons_of_blank c (summaryWays_of_classWays h)]
  rfl

/-- The blanks behind a class list, and the summary. -/
theorem head?_summaryWays_behindBlanks {α : Type} (part : Text → α) (c : Char) (t : Text) :
    ((behindBlanks (c :: t)).flatMap fun t => (summaryWays t).map part).head? =
      (if Text.isBlank c then summary? (Text.trimStart t) else none).map part := by
  rw [← List.map_flatMap, List.head?_map]
  split
  · next hc =>
    rw [head?_flatMap_behindBlanks (fun c _ _ => summaryWays_cons_of_blank c) hc, summaryWays_eq,
      Option.head?_toList]
  · next hc =>
    rw [behindBlanks_of_not_blank (Bool.eq_false_iff.2 hc)]
    rfl

-- The equations of `classList?` are stated by hand: those Lean derives time out on the test of `c`.
theorem classList?_nil (seen : Text) : classList? seen [] = none := by
  delta classList?
  rfl

theorem classList?_cons (seen : Text) (c : Char) (t : Text) : classList? seen (c :: t) =
    match (if Text.isBlank c then summary? (Text.trimStart t) else none) with
    | some summary => some (seen.reverse, summary)
    | none => if c == '\n' then none else classList? (c :: seen) t := by
  delta classList?
  rfl

/-- The reader of class lists finds the first way to cut one off. -/
theorem classList?_eq_head? (seen t : Text) :
    classList? seen t = ((lineCuts t).flatMap fun cut =>
      (behindBlanks cut.2).flatMap fun t => (summaryWays t).map (seen.reverse ++ cut.1, ·)).head? := by
  induction t generalizing seen with
  | nil =>
    rw [classList?_nil, lineCuts, List.flatMap_singleton]
    rfl
  | cons c t ih =>
    rw [lineCuts, List.flatMap_cons, List.head?_append, head?_summaryWays_behindBlanks,
      List.append_nil, classList?_cons]
    cases if Text.isBlank c then summary? (Text.trimStart t) else none with
    | some summary => rfl
    | none =>
      by_cases hc : c = '\n'
      · subst hc
        rfl
      · have hline : (c == '\n') = false := beq_eq_false_iff_ne.2 hc
        simp only [hline, Bool.false_eq_true, if_false, ih (c :: seen), List.flatMap_map,
          List.reverse_cons, List.append_assoc, List.singleton_append, Option.map_none, Option.none_or]

theorem head?_classWays (t : Text) : (classWays t).head? = classesAndSummary? t := by
  have hlast : ((summaryWays t).map ((none : Option Text), ·)).head? = (summary? t).map (none, ·) := by
    rw [List.head?_map, summaryWays_eq, Option.head?_toList]
  by_cases hdot : t.head? = some '.'
  · obtain ⟨rest, rfl⟩ := List.head?_eq_some_iff.1 hdot
    have hlist : ((lineCuts rest).flatMap fun cut =>
        (behindBlanks cut.2).flatMap fun t => (summaryWays t).map (some cut.1, ·)).head? =
        (classList? [] rest).map fun found => (some found.1, found.2) := by
      rw [classList?_eq_head?, ← List.head?_map]
      simp only [List.map_flatMap, List.map_map]
      rfl
    rw [classWays, List.head?_append, hlast, hlist, classesAndSummary?]
    cases classList? [] rest <;> rfl
  · rw [classWays_of_head hdot, classesAndSummary?_of_head hdot, hlast]

theorem newline_mem_of_classesAndSummary? (h : classesAndSummary? t = none) : '\n' ∈ t := by
  rw [← head?_classWays, List.head?_eq_none_iff] at h
  exact summaryWays_eq_nil_iff.1 (summaryWays_of_classWays h)

theorem head?_openWays (t : Text) : (openWays t).head? = match afterOpen? t with
    | some rest => (classesAndSummary? rest).map (true, ·)
    | none => (classesAndSummary? t).map (false, ·) := by
  rw [openWays, List.head?_append, List.head?_map, head?_classWays, afterOpen?]
  cases hword : Text.strip? (lit "open") t with
  | none => rfl
  | some rest =>
    rcases rest with _ | ⟨c, rest⟩
    · rfl
    · by_cases hc : Text.isBlank c = true
      · have hopen : ((behindBlanks (c :: rest)).flatMap fun t => (classWays t).map (true, ·)).head? =
            (classesAndSummary? (Text.trimStart rest)).map (true, ·) := by
          rw [← List.map_flatMap, List.head?_map,
            head?_flatMap_behindBlanks (fun _ _ => classWays_cons_of_blank) hc, head?_classWays]
        simp only [hopen, hc, if_true]
        cases hfound : classesAndSummary? (Text.trimStart rest) with
        | some found => rfl
        | none =>
          -- The newline that is in the way behind the word is in the way of the word itself.
          have hnewline : '\n' ∈ lit "open" ++ c :: rest := List.mem_append_right _
            (List.mem_cons_of_mem _ ((Text.trimStart_suffix rest).subset
              (newline_mem_of_classesAndSummary? hfound)))
          have hdot : (lit "open" ++ c :: rest).head? ≠ some '.' := by
            rw [List.head?_append_of_ne_nil _ (by decide)]
            decide
          rw [Text.strip?_eq_some_iff.1 hword, classesAndSummary?_of_head hdot,
            summary?_eq_none_iff.2 hnewline]
          rfl
      · simp only [behindBlanks_of_not_blank (Bool.eq_false_iff.2 hc), hc]
        rfl

theorem openWays_cons_of_blank {c : Char} (hc : Text.isBlank c = true)
    (h : openWays (Text.trimStart t) = []) : openWays (c :: t) = [] := by
  have hclasses : classWays (Text.trimStart t) = [] :=
    List.map_eq_nil_iff.1 (List.append_eq_nil_iff.1 h).2
  have hword : Text.strip? (lit "open") (c :: t) = none := by
    rw [Option.eq_none_iff_forall_ne_some]
    intro rest hrest
    obtain ⟨rfl, -⟩ := List.cons.inj (Text.strip?_eq_some_iff.1 hrest)
    exact absurd hc (by decide)
  rw [openWays, hword, classWays_cons_of_blank hc hclasses]
  rfl

theorem parts?_cons_of_blank {c : Char} (hc : Text.isBlank c = true) (t : Text) :
    parts? (c :: t) = match afterOpen? (Text.trimStart t) with
      | some rest => (classesAndSummary? rest).map (true, ·)
      | none => (classesAndSummary? (Text.trimStart t)).map (false, ·) := if_pos hc

/-- **The first way counts**: a marker is read in the way that is preferred to all others. -/
theorem parts?_eq_head?_ways (t : Text) : parts? t = (ways t).head? := by
  rcases t with _ | ⟨c, t⟩
  · rfl
  · by_cases hc : Text.isBlank c = true
    · rw [ways, head?_flatMap_behindBlanks (fun _ _ => openWays_cons_of_blank) hc, head?_openWays,
        parts?_cons_of_blank hc]
    · have hnone : parts? (c :: t) = none := if_neg hc
      rw [hnone, ways, behindBlanks_of_not_blank (Bool.eq_false_iff.2 hc)]
      rfl

end Ways

example : ways (lit " .a b c") = [(false, some (lit "a"), lit "b c"),
    (false, some (lit "a b"), lit "c"), (false, none, lit ".a b c")] := by decide

end WikiPress.Collapsible
