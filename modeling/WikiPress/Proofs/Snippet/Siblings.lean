import WikiPress.Proofs.Snippet.Schedule

/-!
# Proofs/Snippet/Siblings — what a directive has to do with the others of its text

    [+](/a.md) ──▸ … ──▸ [+](/b.md)          entered on the way to its own expansion
    [+](/b.md)                               …and beside it: the line above is emptied

The documents of a text are entered before any of them is expanded.  So a directive expands as it
would alone if the documents beside it were entered already (`lineByLine_alone`), and as it would
alone without them exactly as long as its own expansion does not ask for one of them: what is never
asked for may be entered or not (`lineByLine_congr`).
-/

namespace WikiPress.Snippet

variable {source : Source}

/-! ## The documents a text asks for -/

/-- **A text asks for a document**, in some order of steps, itself or through one of its
expansions. -/
def Source.Asks (source : Source) (visited : Visited) (text path : Text) : Prop :=
  ∃ events c, Run source.outside (.ready visited text) events c ∧
    path ∈ events.flatMap Event.fetched

/-- **The documents entered for a text**: its own, and those of the texts its directives turn
into. -/
inductive Source.Enters (source : Source) : Visited → Text → Text → Prop
  | own {visited text path} (h : path ∈ (scan visited text).targets) :
      source.Enters visited text path
  | inner {visited text d path} (hd : d ∈ (scan visited text).directives)
      (hsnippet : (source.snippet d).isEmpty = false)
      (h : source.Enters (visited.entering text) (underHeading d (source.snippet d)) path) :
      source.Enters visited text path

/-- A transclusion under way may yet ask for a document. -/
inductive MayAsk (source : Source) (path : Text) : Progress → Prop
  | ready {visited text} (h : source.Enters visited text path) :
      MayAsk source path (.ready visited text)
  | fetching {visited text files d} (hd : d ∈ (scan visited text).directives)
      (h : MayAsk source path (.waiting (visited.entering text) d (source.file d.target))) :
      MayAsk source path (.fetching visited text files)
  | waiting {visited d file} (hsnippet : (source.snippet d).isEmpty = false)
      (h : source.Enters visited (underHeading d (source.snippet d)) path) :
      MayAsk source path (.waiting visited d file)
  | splicing {visited text file parts d} (hd : d ∈ (scan visited text).directives)
      (h : MayAsk source path (parts d)) :
      MayAsk source path (.splicing visited text file parts)

theorem not_mayAsk_done {path out : Text} : ¬ MayAsk source path (.done out) := nofun

theorem mayAsk_ready_iff {path text : Text} {visited : Visited} :
    MayAsk source path (.ready visited text) ↔ source.Enters visited text path := by
  constructor
  · rintro (h | _)
    exact h
  · exact .ready

/-- What an expansion may ask for, the text of its snippet asks for. -/
theorem mayAsk_waiting_iff {path : Text} {visited : Visited} {d : Directive} {file : Fetched} :
    MayAsk source path (.waiting visited d file) ↔
      (source.snippet d).isEmpty = false ∧
        source.Enters visited (underHeading d (source.snippet d)) path := by
  constructor
  · rintro (_ | _ | ⟨hsnippet, h⟩)
    exact ⟨hsnippet, h⟩
  · rintro ⟨hsnippet, h⟩
    exact .waiting hsnippet h

theorem mayAsk_splicing_iff {path text : Text} {visited : Visited} {file : Text → Fetched}
    {parts : Directive → Progress} :
    MayAsk source path (.splicing visited text file parts) ↔
      ∃ d ∈ (scan visited text).directives, MayAsk source path (parts d) := by
  constructor
  · intro h
    cases h with
    | splicing hd h => exact ⟨_, hd, h⟩
  · rintro ⟨d, hd, h⟩
    exact .splicing hd h

/-- **What a step asks for might be asked for before it**, and what may be asked for after it. -/
theorem Step.mayAsk {a b : Progress} {events : List Event} {path : Text} (ha : Answered source a)
    (h : Step source.outside a events b)
    (hpath : path ∈ events.flatMap Event.fetched ∨ MayAsk source path b) :
    MayAsk source path a := by
  induction h with
  | plain => exact hpath.elim (absurd · List.not_mem_nil) (absurd · not_mayAsk_done)
  | start =>
    rw [List.flatMap_singleton] at hpath
    rcases hpath with hpath | hpath
    · exact .ready (.own hpath)
    · cases hpath with
      | fetching hd h =>
        obtain ⟨hsnippet, h⟩ := mayAsk_waiting_iff.1 h
        exact .ready (.inner hd hsnippet h)
  | arrive =>
    rcases hpath with hpath | hpath
    · exact absurd hpath List.not_mem_nil
    · cases hpath with
      | fetching hd h => exact .fetching hd h
  | expand =>
    rcases hpath with hpath | hpath
    · exact absurd hpath List.not_mem_nil
    · obtain ⟨d, hd, h⟩ := mayAsk_splicing_iff.1 hpath
      exact .fetching hd (mayAsk_waiting_iff.2 (mayAsk_waiting_iff.1 h))
  | take hchoose =>
    cases ha
    rw [snippet_outside hchoose, Progress.taken] at hpath
    rcases hpath with hpath | hpath
    · exact absurd hpath List.not_mem_nil
    · split at hpath
      · exact absurd hpath not_mayAsk_done
      · next hsnippet =>
        exact .waiting (Bool.eq_false_iff.2 hsnippet) (mayAsk_ready_iff.1 hpath)
  | @inner _ _ _ parts d _ next hd _ ih =>
    cases ha with
    | splicing _ hparts =>
      rw [Event.flatMap_fetched_below, mayAsk_splicing_iff] at hpath
      rcases hpath with hpath | ⟨e, he, hpath⟩
      · exact .splicing hd (ih (hparts d hd) (.inl hpath))
      · rw [Function.update_apply] at hpath
        split at hpath
        · exact .splicing hd (ih (hparts d hd) (.inr hpath))
        · exact .splicing he hpath
  | finish =>
    rcases hpath with hpath | hpath
    · rw [List.flatMap_singleton] at hpath
      exact absurd hpath List.not_mem_nil
    · exact absurd hpath not_mayAsk_done

/-- …and so for a run. -/
theorem Run.mayAsk {a b : Progress} {events : List Event} {path : Text} (ha : Answered source a)
    (h : Run source.outside a events b) (hpath : path ∈ events.flatMap Event.fetched) :
    MayAsk source path a := by
  induction h with
  | refl => exact absurd hpath List.not_mem_nil
  | step hstep _ ih =>
    rw [List.flatMap_append, List.mem_append] at hpath
    exact hstep.mayAsk ha (hpath.imp_right (ih (hstep.answered ha)))

/-- A run of the text a directive turns into, below the text of the directive. -/
theorem Run.inside {visited : Visited} {text : Text} {d : Directive} {events : List Event}
    {c : Progress} (hd : d ∈ (scan visited text).directives)
    (hsnippet : (source.snippet d).isEmpty = false)
    (h : Run source.outside (.ready (visited.entering text)
      (underHeading d (source.snippet d))) events c) :
    ∃ events' c', Run source.outside (.ready visited text) events' c' ∧
      events.flatMap Event.fetched ⊆ events'.flatMap Event.fetched := by
  have htargets : (scan visited text).targets ≠ [] :=
    List.ne_nil_of_mem (target_mem_targets_scan hd)
  have hnone : ∀ path file, (fun _ => none : Text → Option Fetched) path = some file →
      file = source.file path := nofun
  obtain ⟨files, harrivals, -, hthere⟩ := arrivals_run visited text hnone fun _ hpath => hpath
  have htake : Step source.outside
      (.waiting (visited.entering text) d (source.file d.target)) []
      (.taken (visited.entering text) d (source.snippet d)) := .take fun _ => rfl
  rw [Progress.taken, if_neg (Bool.eq_false_iff.1 hsnippet)] at htake
  have hexpanded : Run source.outside (.fetching visited text files) [] _ :=
    .single (.expand hthere)
  refine ⟨_, _, .step (.start htargets) (harrivals.trans (hexpanded.trans
    (Run.inner hd (.step htake h)))), fun path hpath => ?_⟩
  simp only [List.nil_append, List.flatMap_append, Event.flatMap_fetched_below]
  exact List.mem_append_right _ hpath

/-- **A text asks for the documents that are entered for it.** -/
theorem asks_iff_enters {visited : Visited} {text path : Text} :
    source.Asks visited text path ↔ source.Enters visited text path := by
  constructor
  · rintro ⟨events, c, hrun, hpath⟩
    exact mayAsk_ready_iff.1 (hrun.mayAsk .ready hpath)
  · intro h
    induction h with
    | own h =>
      refine ⟨_, _, .single (.start (List.ne_nil_of_mem h)), ?_⟩
      rwa [List.flatMap_singleton]
    | inner hd hsnippet _ ih =>
      obtain ⟨events, c, hrun, hpath⟩ := ih
      obtain ⟨events', c', hrun', hmem⟩ := hrun.inside hd hsnippet
      exact ⟨events', c', hrun', hmem hpath⟩

/-- Nothing is entered for a text without directive lines. -/
theorem not_enters_of_plain {visited : Visited} {text path : Text}
    (h : ∀ line ∈ Text.splitOn '\n' text, Directive.read? line = none) :
    ¬ source.Enters visited text path := by
  have htargets : (scan visited text).targets = [] := targets_eq_nil h
  rintro (hpath | ⟨hd, -, -⟩)
  · rw [htargets] at hpath
    exact absurd hpath List.not_mem_nil
  · have htarget := target_mem_targets_scan hd
    rw [htargets] at htarget
    exact absurd htarget List.not_mem_nil

/-- What was entered before a text is not entered for it. -/
theorem Source.Enters.not_mem {visited : Visited} {text path : Text}
    (h : source.Enters visited text path) : path ∉ visited.toList := by
  induction h with
  | own h => exact not_mem_of_mem_targets_scan h
  | inner _ _ _ ih => exact fun hmem => ih (Visited.mem_entering.2 (.inl hmem))

/-! ## Documents that are not asked for -/

/-- **These documents are entered besides**, and a text enters none of them. -/
structure Idle (source : Source) (extra : List Text) (visited visited' : Visited) (text : Text) :
    Prop where
  mem_iff : ∀ path, path ∈ visited'.toList ↔ path ∈ visited.toList ∨ path ∈ extra
  not_enters : ∀ path ∈ extra, ¬ source.Enters visited text path

namespace Idle

variable {extra : List Text} {visited visited' : Visited} {text : Text}

/-- Nothing more is entered, in whatever order. -/
theorem nil (h : ∀ path, path ∈ visited'.toList ↔ path ∈ visited.toList) :
    Idle source [] visited visited' text where
  mem_iff := fun path => by rw [h path, or_iff_left List.not_mem_nil]
  not_enters := fun _ hpath => absurd hpath List.not_mem_nil

/-- The same lines are open, -/
theorem contains_target (h : Idle source extra visited visited' text) {line : Text} {d : Directive}
    (hline : line ∈ Text.splitOn '\n' text) (hread : Directive.read? line = some d) :
    visited'.contains d.target = visited.contains d.target := by
  rw [Bool.eq_iff_iff, Visited.contains_iff, Visited.contains_iff, h.mem_iff]
  refine or_iff_left_of_imp fun hextra => ?_
  by_contra hnew
  obtain rfl := Directive.line_of_read? hread
  have hopen : d ∈ openDirectives visited text := mem_openDirectives.2 ⟨hline, hread, hnew⟩
  exact h.not_enters _ hextra (.own (target_mem_targets_scan (mem_directives_scan.2 hopen)))

/-- …so the same is found, -/
theorem scan_eq (h : Idle source extra visited visited' text) :
    scan visited' text = scan visited text := by
  have hkept : (Text.splitOn '\n' text).map (keptLine visited') =
      (Text.splitOn '\n' text).map (keptLine visited) := by
    refine List.map_congr_left fun line hline => ?_
    cases hread : Directive.read? line with
    | none => rw [keptLine_of_read?_eq_none hread, keptLine_of_read?_eq_none hread]
    | some d => simp only [keptLine, hread, h.contains_target hline hread]
  have hopen : (Text.splitOn '\n' text).filterMap (openDirective? visited') =
      (Text.splitOn '\n' text).filterMap (openDirective? visited) := by
    refine List.filterMap_congr fun line hline => ?_
    cases hread : Directive.read? line with
    | none => simp only [openDirective?, hread, Option.filter_none]
    | some d =>
      simp only [openDirective?, hread, Option.filter_some, h.contains_target hline hread]
  rw [scan, scan, scanLines_eq, scanLines_eq, hkept, hopen]

/-- …and the documents stay idle below. -/
theorem inner (h : Idle source extra visited visited' text) {d : Directive}
    (hd : d ∈ (scan visited text).directives) (hsnippet : (source.snippet d).isEmpty = false) :
    Idle source extra (visited.entering text) (visited'.entering text)
      (underHeading d (source.snippet d)) where
  mem_iff := fun path => by
    rw [Visited.mem_entering, Visited.mem_entering, h.mem_iff, h.scan_eq, or_right_comm]
  not_enters := fun path hpath henters => h.not_enters path hpath (.inner hd hsnippet henters)

/-- **Idle documents change nothing of what a text means**, -/
theorem lineByLine_congr (h : Idle source extra visited visited' text) (depth : Nat) :
    lineByLine source depth visited' text = lineByLine source depth visited text := by
  induction depth generalizing visited visited' text with
  | zero => rfl
  | succ depth ih =>
    by_cases hnone : (scan visited text).targets = []
    · rw [lineByLine_of_closed source hnone, lineByLine_of_closed source (h.scan_eq ▸ hnone),
        h.scan_eq]
    · have hinside : ∀ d ∈ (scan visited text).directives,
          source.inside (lineByLine source depth (visited'.entering text)) d =
            source.inside (lineByLine source depth (visited.entering text)) d := by
        intro d hd
        rw [Source.inside, Source.inside]
        cases hsnippet : (source.snippet d).isEmpty with
        | true => rfl
        | false => exact ih (h.inner hd hsnippet)
      refine Option.ext fun out => ?_
      rw [lineByLine_eq_some_iff source hnone, lineByLine_eq_some_iff source (h.scan_eq ▸ hnone),
        h.scan_eq]
      refine exists_congr fun outs => and_congr_left fun _ => forall₂_congr fun d hd => ?_
      rw [hinside d hd]

/-- …and nothing of what is entered for it. -/
theorem enters_iff (h : Idle source extra visited visited' text) {path : Text} :
    source.Enters visited' text path ↔ source.Enters visited text path := by
  constructor
  · intro henters
    induction henters generalizing visited with
    | own hpath => exact .own (h.scan_eq ▸ hpath)
    | inner hd hsnippet _ ih =>
      rw [h.scan_eq] at hd
      exact .inner hd hsnippet (ih (h.inner hd hsnippet))
  · intro henters
    induction henters generalizing visited' with
    | own hpath => exact .own (h.scan_eq ▸ hpath)
    | inner hd hsnippet _ ih =>
      have hd' := hd
      rw [← h.scan_eq] at hd'
      exact .inner hd' hsnippet (ih (h.inner hd hsnippet))

end Idle

/-! ## A directive alone -/

/-- **The documents beside a directive**: the others its text enters. -/
def siblings (visited : Visited) (text : Text) (d : Directive) : List Text :=
  (openTargets visited text).filter (· ≠ d.target)

section Alone

variable {visited : Visited} {text : Text} {d : Directive}

/-- An open line as a text of its own is its expansion, trimmed. -/
theorem lineByLine_line (hd : d ∈ openDirectives visited text) (depth : Nat) :
    lineByLine source (depth + 1) visited d.line =
      (source.expansion (lineByLine source depth (visited.insert d.target)) d).map Text.trim := by
  obtain ⟨hline, hread, hnew⟩ := mem_openDirectives.1 hd
  have hlines : Text.splitOn '\n' d.line = [d.line] :=
    Text.splitOn_of_not_mem (Text.not_mem_of_mem_splitOn hline)
  have htargets : openTargets visited d.line = [d.target] := by
    rw [openTargets, openDirectives, hlines,
      List.filterMap_cons_some (openDirective?_eq_some_iff.2 ⟨hread, hnew⟩)]
    rfl
  have hcontains : visited.contains d.target = false :=
    Bool.eq_false_iff.2 (mt Visited.contains_iff.1 hnew)
  have hentered : visited.insertAll [d.target] = visited.insert d.target := rfl
  have hpiece (expansion : Directive → Option Text) :
      linePiece visited expansion d.line = expansion d := by
    rw [linePiece, hread]
    exact if_neg (mt Visited.contains_iff.1 hnew)
  simp only [lineByLine, htargets, hlines, hentered, List.isEmpty_cons, List.mapM_cons,
    List.mapM_nil, hpiece]
  cases source.expansion (lineByLine source depth (visited.insert d.target)) d with
  | none => rfl
  | some content => exact congrArg (some <| Text.trim ·) (Text.join_singleton ['\n'] content)

theorem mem_siblings_iff {path : Text} :
    path ∈ siblings visited text d ↔ path ∈ openTargets visited text ∧ path ≠ d.target := by
  rw [siblings, List.mem_filter, decide_eq_true_iff]

/-- A directive alone is as open as in its text, also if the documents beside it are entered. -/
theorem mem_openDirectives_line (hd : d ∈ openDirectives visited text) {extra : List Text}
    (hextra : d.target ∉ extra) : d ∈ openDirectives (visited.insertAll extra) d.line := by
  obtain ⟨hline, hread, hnew⟩ := mem_openDirectives.1 hd
  rw [mem_openDirectives, Visited.mem_insertAll, not_or,
    Text.splitOn_of_not_mem (Text.not_mem_of_mem_splitOn hline)]
  exact ⟨List.mem_cons_self, hread, hnew, hextra⟩

/-- **A directive expands as it does alone with the documents beside it entered.** -/
theorem lineByLine_alone (hd : d ∈ openDirectives visited text) (depth : Nat) :
    lineByLine source (depth + 1) (visited.insertAll (siblings visited text d)) d.line =
      (source.expansion (lineByLine source depth (visited.entering text)) d).map Text.trim := by
  have hself : d.target ∉ siblings visited text d := fun h => (mem_siblings_iff.1 h).2 rfl
  have htarget : d.target ∈ openTargets visited text := List.mem_map_of_mem hd
  have hmem (path : Text) :
      path ∈ (visited.entering text).toList ↔
        path ∈ ((visited.insertAll (siblings visited text d)).insert d.target).toList := by
    rw [Visited.mem_entering, mem_targets_scan, Visited.mem_insert, Visited.mem_insertAll,
      mem_siblings_iff, or_assoc]
    by_cases heq : path = d.target
    · simp only [heq, htarget, or_true]
    · simp only [ne_eq, heq, not_false_eq_true, and_true, or_false]
  have hsame : lineByLine source depth (visited.entering text) =
      lineByLine source depth ((visited.insertAll (siblings visited text d)).insert d.target) :=
    funext fun inner => (Idle.nil hmem).lineByLine_congr depth
  rw [lineByLine_line (mem_openDirectives_line hd hself), hsame]

/-- **The documents beside a directive, entered besides.** -/
theorem idle_siblings
    (h : ∀ path ∈ siblings visited text d, ¬ source.Asks visited d.line path) :
    Idle source (siblings visited text d) visited
      (visited.insertAll (siblings visited text d)) d.line where
  mem_iff := fun _ => Visited.mem_insertAll
  not_enters := fun path hpath => mt asks_iff_enters.2 (h path hpath)

/-- **What the other directives of a text are to a directive: documents that are entered already.**
It expands, by any host that answers like the source, to what its line alone does after those
documents were entered.  It expands to what its line alone does, if its line alone does not ask for
one of them; and exactly then the documents it asks for are those its line alone asks for. -/
theorem expansion_eq_alone_iff (source : Source) (hd : d ∈ openDirectives visited text) :
    (∀ (σ : Type) (host : Host σ), host.AnswersAs source → ∀ depth s s',
      (expand host (transclude host depth (visited.entering text)) (source.file d.target)
          (content host.evaluate d.target (source.file d.target)) d s).1.map Text.trim =
        (transclude host (depth + 1) (visited.insertAll (siblings visited text d)) d.line s').1) ∧
    ((∀ path ∈ siblings visited text d, ¬ source.Asks visited d.line path) →
      ∀ (σ : Type) (host : Host σ), host.AnswersAs source → ∀ depth s s',
        (expand host (transclude host depth (visited.entering text)) (source.file d.target)
            (content host.evaluate d.target (source.file d.target)) d s).1.map Text.trim =
          (transclude host (depth + 1) visited d.line s').1) ∧
    ((∀ path ∈ siblings visited text d, ¬ source.Asks visited d.line path) ↔
      ∀ path, source.Asks (visited.insertAll (siblings visited text d)) d.line path ↔
        source.Asks visited d.line path) := by
  have hbeside (σ : Type) (host : Host σ) (hsource : host.AnswersAs source) (depth : Nat)
      (s s' : σ) :
      (expand host (transclude host depth (visited.entering text)) (source.file d.target)
          (content host.evaluate d.target (source.file d.target)) d s).1.map Text.trim =
        (transclude host (depth + 1) (visited.insertAll (siblings visited text d)) d.line s').1 := by
    rw [fst_expand hsource (fst_transclude hsource depth (visited.entering text)),
      fst_transclude hsource, lineByLine_alone hd]
  refine ⟨hbeside, fun hidle σ host hsource depth s s' => ?_, fun hidle path => ?_,
    fun hsame path hpath hasks => ?_⟩
  · rw [hbeside σ host hsource depth s s', fst_transclude hsource, fst_transclude hsource,
      (idle_siblings hidle).lineByLine_congr]
  · rw [asks_iff_enters, asks_iff_enters, (idle_siblings hidle).enters_iff]
  · have henters := asks_iff_enters.1 ((hsame path).2 hasks)
    exact henters.not_mem (Visited.mem_insertAll.2 (.inr hpath))

end Alone

/-- Two documents that share a third do not meet: each expands as it does alone. -/
theorem expansion_eq_alone_of_shared :
    ∃ source : Source, ∃ d ∈ openDirectives .empty (lit "[+](/a.md)\n[+](/b.md)"),
      source.host.AnswersAs source ∧ d.line = lit "[+](/a.md)" ∧
      (∀ path ∈ siblings .empty (lit "[+](/a.md)\n[+](/b.md)") d,
        ¬ source.Asks .empty d.line path) ∧
      ((expand source.host (transclude source.host 2
          (Visited.empty.entering (lit "[+](/a.md)\n[+](/b.md)"))) (source.file d.target)
          (content source.host.evaluate d.target (source.file d.target)) d []).1.map Text.trim =
        some (lit "shared")) ∧
      (transclude source.host 3 .empty d.line []).1 = some (lit "shared") := by
  set source := Source.ofDocuments [(lit "/a.md", lit "[+](/shared.md)"),
    (lit "/b.md", lit "[+](/shared.md)"), (lit "/shared.md", lit "shared")] with hsource
  set text := lit "[+](/a.md)\n[+](/b.md)" with htext
  set d : Directive := ⟨lit "[+](/a.md)", lit "/a.md", 0, []⟩ with hd
  have hopen : d ∈ openDirectives .empty text := by
    rw [htext, hd]
    decide +kernel
  have hsiblings : siblings .empty text d = [lit "/b.md"] := by
    rw [htext, hd]
    decide +kernel
  have halone : (transclude source.host 3 .empty d.line []).1 = some (lit "shared") := by
    rw [hsource, hd]
    decide +kernel
  have hidle : ∀ path ∈ siblings .empty text d, ¬ source.Asks .empty d.line path := by
    have hshared : ∀ e ∈ (scan .empty d.line).directives,
        underHeading e (source.snippet e) = lit "[+](/shared.md)" := by
      rw [hsource, hd]
      decide +kernel
    have hplain : ∀ e ∈ (scan (Visited.empty.entering d.line) (lit "[+](/shared.md)")).directives,
        underHeading e (source.snippet e) = lit "shared" := by
      rw [hsource, hd]
      decide +kernel
    rw [hsiblings, List.forall_mem_singleton, asks_iff_enters]
    rintro (hown | ⟨he, -, hinner⟩)
    · exact absurd hown (by rw [hd]; decide +kernel)
    · rw [hshared _ he] at hinner
      rcases hinner with hown | ⟨he, -, hinner⟩
      · exact absurd hown (by rw [hd]; decide +kernel)
      · rw [hplain _ he] at hinner
        exact not_enters_of_plain (by decide +kernel) hinner
  obtain ⟨-, hsame, -⟩ := expansion_eq_alone_iff source hopen
  refine ⟨source, d, hopen, source.answersAs_host, rfl, hidle, ?_, halone⟩
  rw [hsame hidle _ _ source.answersAs_host 2 [] [], halone]

/-- A document beside a directive that the directive's own expansion asks for is not had there: the
directive expands to less than it does alone. -/
theorem expansion_ne_alone_of_sibling :
    ∃ source : Source, ∃ d ∈ openDirectives .empty (lit "[+](/a.md)\n[+](/b.md)"),
      d.line = lit "[+](/a.md)" ∧
      (expand source.host (transclude source.host 2
          (Visited.empty.entering (lit "[+](/a.md)\n[+](/b.md)"))) (source.file d.target)
          (content source.host.evaluate d.target (source.file d.target)) d []).1.map Text.trim =
        some (lit "A") ∧
      (transclude source.host 3 .empty d.line []).1 = some (lit "A\nB") := by
  refine ⟨Source.ofDocuments [(lit "/a.md", lit "A\n[+](/b.md)"), (lit "/b.md", lit "B")],
    ⟨lit "[+](/a.md)", lit "/a.md", 0, []⟩, ?_, rfl, ?_, ?_⟩ <;> decide +kernel

end WikiPress.Snippet
