import WikiPress.Proofs.Snippet.Scan

/-!
# Proofs/Snippet/LineByLine — a transclusion read one line at a time

With a source whose answers depend on the question alone, a text has a plain meaning: every line
stays, or becomes empty, or becomes the expansion of its own directive (`lineByLine`).  Grouping by
target, fetching once for a group, expanding equal lines once and looking expansions up by line
changes nothing of it: a transclusion by any host that answers like the source is the line-by-line
meaning, at every depth (`fst_transclude`).
-/

namespace WikiPress.Snippet

/-! ## The meaning of a text -/

/-- A source of documents, script values and choices that answers the same question always in the
same way. -/
structure Source where
  /-- The document at a path, or the message why it cannot be had. -/
  file : Text → Fetched
  evaluate : Text → Script.Scope → Except Script.Fault Text
  /-- The slice chosen among so many. -/
  pick : Nat → Nat

/-- The source of some documents, where others are missing and scripts have empty values. -/
def Source.ofDocuments (documents : List (Text × Text)) : Source where
  file path := match documents.lookup path with
    | some text => ⟨path, text, false⟩
    | none => ⟨path, lit "404 Not Found", true⟩
  evaluate _ _ := .ok []
  pick _ := 0

/-- The host that answers like a source and notes what it is asked for. -/
def Source.host (source : Source) : Host (List Text) where
  fetch path := fun asked => (source.file path, asked ++ [path])
  evaluate := source.evaluate
  pick count := pure (source.pick count)

/-- The snippet a directive takes from its document. -/
def Source.snippet (source : Source) (d : Directive) : Text :=
  (Snippet.snippet (m := Id) source.pick d
    (content source.evaluate d.target (source.file d.target))).run

/-- What the snippet of a directive turns into, by the meaning `inner` of the text it is made of. -/
def Source.inside (source : Source) (inner : Text → Option Text) (d : Directive) : Option Text :=
  let snippet := source.snippet d
  let text := underHeading d snippet
  if snippet.isEmpty then some text else inner text

/-- **The expansion of a directive.** -/
def Source.expansion (source : Source) (inner : Text → Option Text) (d : Directive) :
    Option Text :=
  (source.inside inner d).map (shown (source.file d.target).isError)

theorem Source.expansion_of_inside {source : Source} {inner : Text → Option Text} {d : Directive}
    {out : Text} (h : source.inside inner d = some out) :
    source.expansion inner d = some (shown (source.file d.target).isError out) := by
  rw [Source.expansion, h, Option.map_some]

/-- What a line becomes: itself, or nothing if it names an entered document, or else the expansion
of its directive. -/
def linePiece (visited : Visited) (expansion : Directive → Option Text) (line : Text) :
    Option Text :=
  match Directive.read? line with
  | none => some line
  | some d => if visited.contains d.target then some [] else expansion d

/-- **The line-by-line meaning of a text**, where documents are entered at most `depth` deep.  A
text that enters none is not trimmed; otherwise its documents are entered for all expansions
alike. -/
def lineByLine (source : Source) : (depth : Nat) → Visited → Text → Option Text
  | 0, _, _ => none
  | depth + 1, visited, text =>
    let targets := openTargets visited text
    let expansion := source.expansion (lineByLine source depth (visited.insertAll targets))
    let pieces := (Text.splitOn '\n' text).mapM (linePiece visited expansion)
    if targets.isEmpty then pieces.map (Text.join ['\n'])
    else pieces.map fun pieces => Text.trim (Text.join ['\n'] pieces)

/-- What stands for a failure, as lines: its content between two marker lines. -/
theorem failureBlock_eq_join (content : Text) :
    failureBlock content = Text.join ['\n'] [lit "::: .danger.empty .", content, lit ":::"] := by
  have hopen : lit "::: .danger.empty .\n" = lit "::: .danger.empty ." ++ ['\n'] := by
    decide +kernel
  have hclose : lit "\n:::" = ['\n'] ++ lit ":::" := by decide +kernel
  rw [Text.join_cons_of_ne_nil _ _ (List.cons_ne_nil _ _),
    Text.join_cons_of_ne_nil _ _ (List.cons_ne_nil _ _), Text.join_singleton, ← hopen,
    List.append_assoc content, ← hclose, ← List.append_assoc]
  rfl

/-! ## Lists of partial results -/

section Partial

variable {α β : Type}

theorem mapM_eq_some_iff {f : α → Option β} {l : List α} {r : List β} :
    l.mapM f = some r ↔ l.map f = r.map some := by
  induction l generalizing r with
  | nil => cases r <;> simp
  | cons a l ih =>
    rw [List.mapM_cons, Option.bind_eq_bind, Option.bind_eq_some_iff]
    cases r with
    | nil => simp [Option.bind_eq_some_iff]
    | cons b r => simp [Option.bind_eq_some_iff, ih]

theorem mapM_eq_map {f : α → Option β} {g : α → β} {l : List α} (h : ∀ a ∈ l, f a = some (g a)) :
    l.mapM f = some (l.map g) := by
  rw [mapM_eq_some_iff, List.map_map]
  exact List.map_congr_left h

theorem mapM_eq_none {f : α → Option β} {l : List α} {a : α} (ha : a ∈ l) (h : f a = none) :
    l.mapM f = none := by
  cases hr : l.mapM f with
  | none => rfl
  | some r =>
    have hmem : f a ∈ r.map some := mapM_eq_some_iff.1 hr ▸ List.mem_map_of_mem ha
    simp [h] at hmem

end Partial

/-! ## Pieces -/

/-- **Splicing by line gives every line its own piece.** -/
theorem mapM_linePiece {visited : Visited} {text : Text} {expansion : Directive → Option Text}
    {contents : Directive → Text}
    (h : ∀ d ∈ openDirectives visited text, expansion d = some (contents d)) :
    (Text.splitOn '\n' text).mapM (linePiece visited expansion) =
      some (splice ((scan visited text).directives.map fun d => (d.line, contents d))
        (scan visited text).lines) := by
  rw [splice_scan]
  refine mapM_eq_map fun line hline => ?_
  rw [linePiece]
  cases hread : Directive.read? line with
  | none =>
    have hclosed : openDirective? visited line = none := by simp [openDirective?, hread]
    rw [splicedLine_of_closed hclosed, keptLine_of_read?_eq_none hread]
  | some d =>
    by_cases hd : d.target ∈ visited.toList
    · have hclosed : openDirective? visited line = none := by
        simp [openDirective?, hread, Visited.contains_iff.2 hd]
      simp only [Visited.contains_iff.2 hd, if_true, splicedLine_of_closed hclosed,
        keptLine_of_mem hread hd]
    · have hopen : openDirective? visited line = some d :=
        openDirective?_eq_some_iff.2 ⟨hread, hd⟩
      obtain rfl := Directive.line_of_read? hread
      simp only [mt Visited.contains_iff.1 hd, splicedLine_of_open hopen,
        h d (mem_openDirectives.2 ⟨hline, hread, hd⟩)]
      rfl

/-- A text has no meaning if one of its open directives has none. -/
theorem mapM_linePiece_eq_none {visited : Visited} {text : Text}
    {expansion : Directive → Option Text} {d : Directive} (hd : d ∈ openDirectives visited text)
    (h : expansion d = none) :
    (Text.splitOn '\n' text).mapM (linePiece visited expansion) = none := by
  obtain ⟨hline, hread, hnew⟩ := mem_openDirectives.1 hd
  refine mapM_eq_none hline ?_
  simp only [linePiece, hread, mt Visited.contains_iff.1 hnew, h]
  rfl

/-! ## The meaning by directives -/

section Meaning

variable (source : Source) {visited : Visited} {text : Text}

/-- A text that enters no document keeps all its lines but those that name an entered one. -/
theorem lineByLine_of_closed (h : (scan visited text).targets = []) (depth : Nat) :
    lineByLine source (depth + 1) visited text =
      some (Text.join ['\n'] (scan visited text).lines) := by
  have htargets : openTargets visited text = [] := targets_scan_eq_nil_iff.1 h
  have hopen : openDirectives visited text = [] := List.map_eq_nil_iff.1 htargets
  have hdirectives : (scan visited text).directives = [] := by
    rw [List.eq_nil_iff_forall_not_mem]
    intro d hd
    rw [mem_directives_scan, hopen] at hd
    exact absurd hd List.not_mem_nil
  have hsplice : splice [] (scan visited text).lines = (scan visited text).lines :=
    List.map_id _
  have hexpansions : ∀ d ∈ openDirectives visited text, source.expansion
      (lineByLine source depth (visited.insertAll [])) d = some (Directive.line d) := by
    rw [hopen]
    exact fun d hd => absurd hd List.not_mem_nil
  have hlines := mapM_linePiece hexpansions
  rw [hdirectives, List.map_nil, hsplice] at hlines
  simp only [lineByLine, htargets, hlines, List.isEmpty_nil, if_true, Option.map_some]

/-- …and any other text is spliced from the expansions of its directives. -/
theorem lineByLine_of_open (h : (scan visited text).targets ≠ []) (depth : Nat) :
    lineByLine source (depth + 1) visited text =
      ((scan visited text).directives.mapM fun d =>
        (source.expansion (lineByLine source depth
          (visited.entering text)) d).map
            (d.line, ·)).map
        fun replacements =>
          Text.trim (Text.join ['\n'] (splice replacements (scan visited text).lines)) := by
  have htargets : (openTargets visited text).isEmpty = false := by
    simpa using mt targets_scan_eq_nil_iff.2 h
  rw [entering_eq_insertAll]
  simp only [lineByLine, htargets]
  set expansion := source.expansion
    (lineByLine source depth (visited.insertAll (openTargets visited text)))
  by_cases hall : ∀ d ∈ openDirectives visited text, expansion d ≠ none
  · have hcontents : ∀ d ∈ openDirectives visited text,
        expansion d = some ((expansion d).getD []) := fun d hd => by
      obtain ⟨content, hcontent⟩ := Option.ne_none_iff_exists'.1 (hall d hd)
      rw [hcontent, Option.getD_some]
    have hreplacements : (scan visited text).directives.mapM
        (fun d => (expansion d).map (d.line, ·)) =
          some ((scan visited text).directives.map
            fun d => (d.line, (expansion d).getD [])) :=
      mapM_eq_map fun d hd => by
        rw [hcontents d (mem_directives_scan.1 hd), Option.map_some, Option.getD_some]
    rw [mapM_linePiece hcontents, hreplacements]
    rfl
  · obtain ⟨d, hd⟩ := not_forall.1 hall
    obtain ⟨hopen, hnone⟩ := Classical.not_imp.1 hd
    rw [mapM_linePiece_eq_none hopen (not_not.1 hnone),
      mapM_eq_none (mem_directives_scan.2 hopen) (by simp [not_not.1 hnone])]
    rfl

/-- The expansions of directives whose snippets have a meaning. -/
theorem mapM_expansion {meaning : Text → Option Text} {outs : Directive → Text}
    {ds : List Directive} (h : ∀ d ∈ ds, source.inside meaning d = some (outs d)) :
    ds.mapM (fun d => (source.expansion meaning d).map (d.line, ·)) =
      some (ds.map fun d => (d.line, shown (source.file d.target).isError (outs d))) :=
  mapM_eq_map fun d hd => by rw [Source.expansion_of_inside (h d hd), Option.map_some]

/-- **The meaning of a text that enters documents**, by those of its snippets. -/
theorem lineByLine_eq_some_iff (h : (scan visited text).targets ≠ []) {depth : Nat} {out : Text} :
    lineByLine source (depth + 1) visited text = some out ↔
      ∃ outs : Directive → Text,
        (∀ d ∈ (scan visited text).directives, source.inside (lineByLine source depth
          (visited.entering text)) d = some (outs d)) ∧
        out = Text.trim ((scan visited text).spliced
          fun d => shown (source.file d.target).isError (outs d)) := by
  rw [lineByLine_of_open source h, Option.map_eq_some_iff]
  set meaning := lineByLine source depth (visited.entering text)
  constructor
  · rintro ⟨replacements, hmapM, rfl⟩
    have houts : ∀ d ∈ (scan visited text).directives,
        source.inside meaning d = some ((source.inside meaning d).getD []) := by
      intro d hd
      cases hinside : source.inside meaning d with
      | some out => rfl
      | none =>
        rw [mapM_eq_none hd (by rw [Source.expansion, hinside]; rfl)] at hmapM
        exact absurd hmapM (by simp)
    refine ⟨_, houts, ?_⟩
    rw [mapM_expansion source houts] at hmapM
    obtain rfl := Option.some.inj hmapM
    rfl
  · rintro ⟨outs, houts, rfl⟩
    exact ⟨_, mapM_expansion source houts, rfl⟩

theorem inside_mono {inner inner' : Text → Option Text}
    (h : ∀ text out, inner text = some out → inner' text = some out) {d : Directive} {out : Text}
    (hout : source.inside inner d = some out) : source.inside inner' d = some out := by
  simp only [Source.inside] at hout ⊢
  split
  · next hempty => rwa [if_pos hempty] at hout
  · next hempty =>
    rw [if_neg hempty] at hout
    exact h _ _ hout

/-- **A meaning stays the same at greater depths.** -/
theorem lineByLine_mono {m n : Nat} (hle : m ≤ n) {out : Text}
    (h : lineByLine source m visited text = some out) :
    lineByLine source n visited text = some out := by
  induction m generalizing n visited text out with
  | zero => exact absurd h (by simp [lineByLine])
  | succ m ih =>
    obtain ⟨n, rfl⟩ : ∃ k, n = k + 1 := ⟨n - 1, by omega⟩
    by_cases hnone : (scan visited text).targets = []
    · rw [lineByLine_of_closed source hnone] at h ⊢
      exact h
    · rw [lineByLine_eq_some_iff source hnone] at h ⊢
      obtain ⟨outs, houts, rfl⟩ := h
      exact ⟨outs, fun d hd => inside_mono source (fun text out => ih (by omega)) (houts d hd), rfl⟩

end Meaning

/-! ## Hosts that answer like a source -/

section Host

variable {σ : Type} {host : Host σ} {source : Source}

theorem stateM_bind_apply {α β : Type} (x : StateM σ α) (f : α → StateM σ β) (s : σ) :
    (x >>= f) s = f (x s).1 (x s).2 := rfl

theorem stateM_pure_apply {α : Type} (a : α) (s : σ) : (pure a : StateM σ α) s = (a, s) := rfl

/-- **A host answers like a source** in every state, whatever it notes down on the way. -/
structure Host.AnswersAs (host : Host σ) (source : Source) : Prop where
  fetch : ∀ path s, (host.fetch path s).1 = source.file path
  evaluate : host.evaluate = source.evaluate
  pick : ∀ count s, (host.pick count s).1 = source.pick count

/-- A slice depends on the state through the choice only, and changes it by choosing only. -/
theorem clip_apply (pick : Nat → StateM σ Nat) (parameter snippet : Text) (s : σ) :
    (clip pick parameter snippet s).1 =
        (clip (m := Id) (fun count => (pick count s).1) parameter snippet).run ∧
      ((clip pick parameter snippet s).2 = s ∨
        ∃ count, (clip pick parameter snippet s).2 = (pick count s).2) := by
  rw [clip, clip]
  by_cases hlength : (Text.splitText sliceMark snippet).length ≤ 1
  · simp only [if_pos hlength]
    exact ⟨rfl, .inl rfl⟩
  · simp only [if_neg hlength]
    cases Text.leadingInt? parameter with
    | some n => exact ⟨rfl, .inl rfl⟩
    | none =>
      by_cases hrandom : (parameter == lit "random") = true
      · simp only [if_pos hrandom]
        exact ⟨rfl, .inr ⟨_, rfl⟩⟩
      · simp only [if_neg hrandom]
        exact ⟨rfl, .inl rfl⟩

/-- …and so does a snippet. -/
theorem snippet_apply (pick : Nat → StateM σ Nat) (d : Directive) (data : Text) (s : σ) :
    (snippet pick d data s).1 =
        (snippet (m := Id) (fun count => (pick count s).1) d data).run ∧
      ((snippet pick d data s).2 = s ∨ ∃ count, (snippet pick d data s).2 = (pick count s).2) := by
  rw [snippet, snippet]
  by_cases hdata : data.isEmpty = true
  · simp only [if_pos hdata]
    exact ⟨rfl, .inl rfl⟩
  · simp only [if_neg hdata]
    cases d.params.get? (lit "clip") with
    | none => exact ⟨rfl, .inl rfl⟩
    | some parameter => exact clip_apply pick parameter _ s

theorem fst_snippet (h : host.AnswersAs source) (d : Directive) (s : σ) :
    (snippet host.pick d (content host.evaluate d.target (source.file d.target)) s).1
      = source.snippet d := by
  have hpick : (fun count => (host.pick count s).1) = source.pick :=
    funext fun count => h.pick count s
  rw [(snippet_apply host.pick d _ s).1, hpick, h.evaluate]
  rfl

theorem expand_apply (inner : Text → StateM σ (Option Text)) (file : Fetched) (data : Text)
    (d : Directive) (s : σ) :
    expand host inner file data d s =
      let taken := snippet host.pick d data s
      let text := underHeading d taken.1
      if taken.1.isEmpty then (some (shown file.isError text), taken.2)
      else ((inner text taken.2).1.map (shown file.isError), (inner text taken.2).2) := by
  simp only [expand, stateM_bind_apply]
  by_cases hempty : (snippet host.pick d data s).1.isEmpty = true
  · simp only [if_pos hempty]
    rfl
  · simp only [if_neg hempty]
    rfl

/-- An expansion by such a host is the expansion by its source. -/
theorem fst_expand (h : host.AnswersAs source) {inner : Text → StateM σ (Option Text)}
    {meaning : Text → Option Text} (hinner : ∀ text s, (inner text s).1 = meaning text)
    (d : Directive) (s : σ) :
    (expand host inner (source.file d.target)
      (content host.evaluate d.target (source.file d.target)) d s).1
      = source.expansion meaning d := by
  simp only [expand_apply, fst_snippet h d s, Source.expansion, Source.inside]
  by_cases hempty : (source.snippet d).isEmpty = true
  · simp only [if_pos hempty, Option.map_some]
  · simp only [if_neg hempty, hinner]

theorem fst_fetchAll (h : host.AnswersAs source) (groups : List Group) (s : σ) :
    (fetchAll host groups s).1 = groups.map fun g => (g, source.file g.target) := by
  induction groups generalizing s with
  | nil => rfl
  | cons g rest ih =>
    simp only [fetchAll, stateM_bind_apply, stateM_pure_apply, h.fetch, ih, List.map_cons]

theorem fst_expandLines (h : host.AnswersAs source) {inner : Text → StateM σ (Option Text)}
    {meaning : Text → Option Text} (hinner : ∀ text s, (inner text s).1 = meaning text)
    (target : Text) {ds : List Directive} (hds : ∀ d ∈ ds, d.target = target) (s : σ) :
    (expandLines host inner (source.file target)
      (content host.evaluate target (source.file target)) ds s).1
      = ds.mapM fun d => (source.expansion meaning d).map (d.line, ·) := by
  induction ds generalizing s with
  | nil => rfl
  | cons d rest ih =>
    obtain ⟨rfl, hrest⟩ := List.forall_mem_cons.1 hds
    simp only [expandLines, stateM_bind_apply, stateM_pure_apply, fst_expand h hinner, ih hrest,
      List.mapM_cons]
    cases source.expansion meaning d with
    | none => rfl
    | some content =>
      simp only [Option.map_some, Option.bind_eq_bind, Option.bind_some]
      cases rest.mapM fun d => (source.expansion meaning d).map (d.line, ·) <;> rfl

/-- The expansions by such a host, group by group, are those by its source, one by one. -/
theorem fst_expandAll (h : host.AnswersAs source) {inner : Text → StateM σ (Option Text)}
    {meaning : Text → Option Text} (hinner : ∀ text s, (inner text s).1 = meaning text)
    {groups : List Group} (hgroups : ∀ g ∈ groups, ∀ d ∈ g.directives, d.target = g.target)
    (s : σ) :
    (expandAll host inner (groups.map fun g => (g, source.file g.target)) s).1
      = (groups.flatMap Group.directives).mapM fun d =>
          (source.expansion meaning d).map (d.line, ·) := by
  induction groups generalizing s with
  | nil => rfl
  | cons g rest ih =>
    obtain ⟨hg, hrest⟩ := List.forall_mem_cons.1 hgroups
    simp only [List.map_cons, expandAll, stateM_bind_apply, stateM_pure_apply,
      fst_expandLines h hinner g.target hg, ih hrest, List.flatMap_cons, List.mapM_append]
    cases g.directives.mapM fun d => (source.expansion meaning d).map (d.line, ·) with
    | none => rfl
    | some lines =>
      simp only [Option.bind_eq_bind, Option.bind_some]
      cases (rest.flatMap Group.directives).mapM
        fun d => (source.expansion meaning d).map (d.line, ·) <;> rfl

/-- **A transclusion is the line-by-line meaning of its text.** -/
theorem fst_transclude (h : host.AnswersAs source) (depth : Nat) (visited : Visited) (text : Text)
    (s : σ) : (transclude host depth visited text s).1 = lineByLine source depth visited text := by
  induction depth generalizing visited text s with
  | zero => rfl
  | succ depth ih =>
    by_cases hnone : (scan visited text).targets = []
    · rw [transclude_of_closed host hnone, lineByLine_of_closed source hnone]
      rfl
    · have htargets := (collected_scan visited text).target_eq
      rw [transclude_of_open host hnone, lineByLine_of_open source hnone]
      simp only [stateM_bind_apply, stateM_pure_apply, fst_fetchAll h,
        fst_expandAll h (ih _) htargets]
      rfl

end Host

theorem Source.answersAs_host (source : Source) : source.host.AnswersAs source where
  fetch := fun _ _ => rfl
  evaluate := rfl
  pick := fun _ _ => rfl

end WikiPress.Snippet
