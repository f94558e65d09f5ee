import WikiPress.Proofs.Snippet.Demote
import WikiPress.Proofs.Snippet.Schedule

/-!
# Proofs/Snippet/Residue — directives that trimming uncovers

A line is read before the text is trimmed.  Blanks in front of a heading mark, or behind the target,
make a line no directive; when such a line comes to stand first or last among the expansions, it is
trimmed, and then it is one (`Bares`).  Nothing else leaves a directive in a result: it holds one
exactly if some text was bared on the way (`Run.residue_iff`), and without one, transcluding it
again changes nothing and asks for nothing.
-/

namespace WikiPress.Snippet

/-! ## Directive lines -/

/-- Some line of the text is a directive. -/
def HoldsDirective (text : Text) : Prop :=
  ∃ line ∈ Text.splitOn '\n' text, (Directive.read? line).isSome

/-- **Trimming the text bares a directive**: one of its lines was no line of the text before. -/
def Bares (text : Text) : Prop :=
  ∃ line ∈ Text.splitOn '\n' (Text.trim text), (Directive.read? line).isSome ∧
    line ∉ Text.splitOn '\n' text

theorem not_holdsDirective_of_line {line : Text} (hline : '\n' ∉ line)
    (hread : Directive.read? line = none) : ¬ HoldsDirective line := by
  rintro ⟨line', hmem, hread'⟩
  rw [Text.splitOn_of_not_mem hline, List.mem_singleton] at hmem
  rw [hmem, hread] at hread'
  exact absurd hread' (by decide)

/-- The lines of joined texts are the lines of the texts. -/
theorem holdsDirective_join_iff {texts : List Text} (h : texts ≠ []) :
    HoldsDirective (Text.join ['\n'] texts) ↔ ∃ text ∈ texts, HoldsDirective text := by
  simp only [HoldsDirective, Text.splitOn_join h, List.mem_flatMap]
  constructor
  · rintro ⟨line, ⟨text, htext, hline⟩, hread⟩
    exact ⟨text, htext, line, hline, hread⟩
  · rintro ⟨text, htext, line, hline, hread⟩
    exact ⟨line, ⟨text, htext, hline⟩, hread⟩

/-- **Trimming keeps directives, and may bare one.** -/
theorem holdsDirective_trim_iff {text : Text} :
    HoldsDirective (Text.trim text) ↔ HoldsDirective text ∨ Bares text := by
  constructor
  · rintro ⟨line, hline, hread⟩
    by_cases hmem : line ∈ Text.splitOn '\n' text
    · exact .inl ⟨line, hmem, hread⟩
    · exact .inr ⟨line, hline, hread, hmem⟩
  · rintro (⟨line, hline, hread⟩ | ⟨line, hline, hread, -⟩)
    · obtain ⟨front, hfront, hfrontRead⟩ : ∃ front ∈ Text.trimFront (Text.splitOn '\n' text),
          (Directive.read? front).isSome := by
        obtain ⟨d, hd⟩ := Option.isSome_iff_exists.1 hread
        rcases Text.mem_trimFront (Directive.allBlank_of_read? hd) hline with hmem | hmem
        · exact ⟨_, hmem, hread⟩
        · exact ⟨_, hmem, Directive.isSome_read?_trimStart hread⟩
      refine ⟨front, ?_, hfrontRead⟩
      obtain ⟨d, hd⟩ := Option.isSome_iff_exists.1 hfrontRead
      rw [Text.splitOn_trim]
      rcases Text.mem_trimBack (Directive.allBlank_of_read? hd) hfront with hmem | hmem
      · exact hmem
      · rwa [Directive.trimEnd_of_read? hd] at hmem
    · exact ⟨line, hline, hread⟩

/-- What stands for a failure holds the directives of its content. -/
theorem holdsDirective_shown_iff {failed : Bool} {content : Text} :
    HoldsDirective (shown failed content) ↔ HoldsDirective content := by
  cases failed with
  | false => exact Iff.rfl
  | true =>
    have hfirst : ¬ HoldsDirective (lit "::: .danger.empty .") :=
      not_holdsDirective_of_line (by decide +kernel) (by decide +kernel)
    have hlast : ¬ HoldsDirective (lit ":::") :=
      not_holdsDirective_of_line (by decide +kernel) (by decide +kernel)
    rw [shown, if_pos rfl, failureBlock_eq_join,
      holdsDirective_join_iff (List.cons_ne_nil _ _)]
    simp only [List.mem_cons, List.not_mem_nil, or_false, exists_eq_or_imp, exists_eq_left, hfirst,
      hlast, false_or]

/-- The heading of a directive without a snippet is no directive. -/
theorem not_holdsDirective_underHeading {d : Directive} (h : '\n' ∉ d.target) :
    ¬ HoldsDirective (underHeading d []) := by
  by_cases hlevel : d.level ≤ 1
  · rw [underHeading_of_level_le hlevel]
    exact not_holdsDirective_of_line List.not_mem_nil Directive.read?_nil
  · rintro ⟨line, hline, hread⟩
    rw [splitOn_underHeading (by omega) h, List.isEmpty_nil, if_pos rfl,
      List.mem_singleton] at hline
    rw [hline, read?_markerLine (by omega)] at hread
    exact absurd hread (by decide)

/-! ## Directive lines of a scanned text -/

/-- A line that is kept holds no directive. -/
theorem not_holdsDirective_keptLine {visited : Visited} {text line : Text}
    (hline : line ∈ Text.splitOn '\n' text) (h : openDirective? visited line = none) :
    ¬ HoldsDirective (keptLine visited line) := by
  refine not_holdsDirective_of_line ?_ (read?_keptLine h)
  rw [keptLine]
  split
  · split
    · exact List.not_mem_nil
    · exact Text.not_mem_of_mem_splitOn hline
  · exact Text.not_mem_of_mem_splitOn hline

/-- **A text with contents in place holds the directives of the contents.** -/
theorem holdsDirective_spliced_iff {visited : Visited} {text : Text}
    {contents : Directive → Text} :
    HoldsDirective ((scan visited text).spliced contents) ↔
      ∃ d ∈ (scan visited text).directives, HoldsDirective (contents d) := by
  have hlines : (Text.splitOn '\n' text).map (splicedLine visited contents) ≠ [] :=
    mt List.map_eq_nil_iff.1 (Text.splitOn_ne_nil _ text)
  rw [Scan.spliced, splice_scan, holdsDirective_join_iff hlines]
  constructor
  · rintro ⟨_, hmem, hholds⟩
    obtain ⟨line, hline, rfl⟩ := List.mem_map.1 hmem
    cases hopen : openDirective? visited line with
    | none =>
      rw [splicedLine_of_closed hopen] at hholds
      exact absurd hholds (not_holdsDirective_keptLine hline hopen)
    | some d =>
      rw [splicedLine_of_open hopen] at hholds
      exact ⟨d, mem_directives_scan.2 (List.mem_filterMap.2 ⟨line, hline, hopen⟩), hholds⟩
  · rintro ⟨d, hd, hholds⟩
    obtain ⟨line, hline, hopen⟩ := List.mem_filterMap.1 (mem_directives_scan.1 hd)
    refine ⟨_, List.mem_map_of_mem hline, ?_⟩
    rwa [splicedLine_of_open hopen]

/-- …and a text that enters no document comes to hold none. -/
theorem not_holdsDirective_lines {visited : Visited} {text : Text}
    (h : (scan visited text).targets = []) :
    ¬ HoldsDirective (Text.join ['\n'] (scan visited text).lines) := by
  have hlines : (Text.splitOn '\n' text).map (keptLine visited) ≠ [] :=
    mt List.map_eq_nil_iff.1 (Text.splitOn_ne_nil _ text)
  rw [lines_scan, holdsDirective_join_iff hlines]
  rintro ⟨_, hmem, hholds⟩
  obtain ⟨line, hline, rfl⟩ := List.mem_map.1 hmem
  refine not_holdsDirective_keptLine hline ?_ hholds
  rw [Option.eq_none_iff_forall_ne_some]
  intro d hopen
  have hd := mem_directives_scan.2 (List.mem_filterMap.2 ⟨line, hline, hopen⟩)
  have htarget := target_mem_targets_scan hd
  rw [h] at htarget
  exact absurd htarget List.not_mem_nil

/-! ## What a run leaves behind -/

/-- Expansions under way belong to directives that were read. -/
inductive WellRead : Progress → Prop
  | ready {visited text} : WellRead (.ready visited text)
  | fetching {visited text files} : WellRead (.fetching visited text files)
  | waiting {visited d file} (h : '\n' ∉ d.target) : WellRead (.waiting visited d file)
  | splicing {visited text file parts}
      (h : ∀ d ∈ (scan visited text).directives, WellRead (parts d)) :
      WellRead (.splicing visited text file parts)
  | done {out} : WellRead (.done out)

/-- **Some finished expansion holds a directive.** -/
inductive Residue : Progress → Prop
  | inner {visited text file parts d} (hd : d ∈ (scan visited text).directives)
      (h : Residue (parts d)) : Residue (.splicing visited text file parts)
  | done {out} (h : HoldsDirective out) : Residue (.done out)

theorem residue_splicing_iff {visited : Visited} {text : Text} {file : Text → Fetched}
    {parts : Directive → Progress} :
    Residue (.splicing visited text file parts) ↔
      ∃ d ∈ (scan visited text).directives, Residue (parts d) := by
  constructor
  · rintro (@⟨_, _, _, _, d, hd, h⟩)
    exact ⟨d, hd, h⟩
  · rintro ⟨d, hd, h⟩
    exact .inner hd h

theorem not_residue_ready {visited : Visited} {text : Text} :
    ¬ Residue (.ready visited text) := by
  intro h
  cases h

theorem not_residue_fetching {visited : Visited} {text : Text} {files : Text → Option Fetched} :
    ¬ Residue (.fetching visited text files) := by
  intro h
  cases h

theorem not_residue_waiting {visited : Visited} {d : Directive} {file : Fetched} :
    ¬ Residue (.waiting visited d file) := by
  intro h
  cases h

theorem residue_done_iff {out : Text} : Residue (.done out) ↔ HoldsDirective out := by
  constructor
  · rintro (_ | h)
    exact h
  · exact .done

/-- Some text that was put together was bared. -/
def Bared (events : List Event) : Prop := ∃ text, Event.splice text ∈ events ∧ Bares text

theorem not_bared_nil : ¬ Bared [] := by
  rintro ⟨text, hmem, -⟩
  exact absurd hmem List.not_mem_nil

theorem not_bared_fetch {callers : List Caller} {entered : Visited} {targets : List Text} :
    ¬ Bared [.fetch callers entered targets] := by
  rintro ⟨text, hmem, -⟩
  cases List.mem_singleton.1 hmem

theorem bared_splice_iff {text : Text} : Bared [.splice text] ↔ Bares text := by
  simp [Bared]

theorem bared_append_iff {events later : List Event} :
    Bared (events ++ later) ↔ Bared events ∨ Bared later := by
  simp only [Bared, List.mem_append, or_and_right, exists_or]

theorem bared_below_iff {caller : Caller} {events : List Event} :
    Bared (events.map (Event.below caller)) ↔ Bared events := by
  have hmem (text : Text) : Event.splice text ∈ events.map (Event.below caller) ↔
      Event.splice text ∈ events := by
    rw [List.mem_map]
    constructor
    · rintro ⟨e, he, heq⟩
      cases e with
      | fetch => exact absurd heq nofun
      | splice text' =>
        obtain rfl := Event.splice.inj heq
        exact he
    · exact fun h => ⟨_, h, rfl⟩
  simp only [Bared, hmem]

theorem Step.wellRead {o : Outside} {a b : Progress} {events : List Event} (ha : WellRead a)
    (h : Step o a events b) : WellRead b := by
  induction h with
  | plain => exact .done
  | start => exact .fetching
  | arrive => exact .fetching
  | expand =>
    exact .splicing fun d hd =>
      .waiting (Directive.newline_not_mem_target (read?_of_mem_directives_scan hd))
  | take => exact Progress.taken_cases .done .ready
  | inner hd _ ih =>
    cases ha with
    | splicing hparts => exact .splicing (forall_update hparts (ih (hparts _ hd)))
  | finish => exact .done

/-- An expansion that advances leaves behind what it left before and what it bares. -/
theorem residue_update_iff {visited : Visited} {text : Text} {file : Text → Fetched}
    {parts : Directive → Progress} {d : Directive} (hd : d ∈ (scan visited text).directives)
    {next : Progress} {bared : Prop} (h : Residue next ↔ Residue (parts d) ∨ bared) :
    Residue (.splicing visited text file (Function.update parts d next)) ↔
      Residue (.splicing visited text file parts) ∨ bared := by
  rw [residue_splicing_iff, residue_splicing_iff]
  constructor
  · rintro ⟨e, he, hresidue⟩
    by_cases heq : e = d
    · rw [heq, Function.update_self, h] at hresidue
      exact hresidue.imp_left fun hresidue => ⟨d, hd, hresidue⟩
    · rw [Function.update_of_ne heq] at hresidue
      exact .inl ⟨e, he, hresidue⟩
  · rintro (⟨e, he, hresidue⟩ | hbared)
    · refine ⟨e, he, ?_⟩
      rw [Function.update_apply]
      split
      · next heq => exact h.2 (.inl (heq ▸ hresidue))
      · exact hresidue
    · refine ⟨d, hd, ?_⟩
      rw [Function.update_self]
      exact h.2 (.inr hbared)

/-- Finished expansions leave behind what their text holds when it is put together. -/
theorem residue_splicing_done_iff {visited : Visited} {text : Text} {file : Text → Fetched}
    {parts : Directive → Progress} {outs : Directive → Text}
    (hdone : ∀ d ∈ (scan visited text).directives, parts d = .done (outs d)) :
    Residue (.splicing visited text file parts) ↔
      HoldsDirective (Progress.assembled visited text file outs) := by
  rw [residue_splicing_iff, Progress.assembled, holdsDirective_spliced_iff]
  refine exists_congr fun d => and_congr_right fun hd => ?_
  rw [hdone d hd, residue_done_iff, holdsDirective_shown_iff]

/-- **A step leaves a directive behind exactly if it bares one.** -/
theorem Step.residue_iff {o : Outside} {a b : Progress} {events : List Event} (ha : WellRead a)
    (h : Step o a events b) : Residue b ↔ Residue a ∨ Bared events := by
  induction h with
  | plain hnone =>
    refine iff_of_false ?_ (not_or.2 ⟨not_residue_ready, not_bared_nil⟩)
    rw [residue_done_iff]
    exact not_holdsDirective_lines hnone
  | start =>
    exact iff_of_false not_residue_fetching (not_or.2 ⟨not_residue_ready, not_bared_fetch⟩)
  | arrive =>
    exact iff_of_false not_residue_fetching (not_or.2 ⟨not_residue_fetching, not_bared_nil⟩)
  | expand =>
    refine iff_of_false ?_ (not_or.2 ⟨not_residue_fetching, not_bared_nil⟩)
    rw [residue_splicing_iff]
    rintro ⟨d, -, h⟩
    exact not_residue_waiting h
  | take =>
    cases ha with
    | waiting htarget =>
      refine iff_of_false ?_ (not_or.2 ⟨not_residue_waiting, not_bared_nil⟩)
      have hdone := mt residue_done_iff.1 (not_holdsDirective_underHeading htarget)
      exact Progress.taken_cases (P := fun c => ¬ Residue c) hdone not_residue_ready
  | inner hd _ ih =>
    cases ha with
    | splicing hparts =>
      rw [bared_below_iff]
      exact residue_update_iff hd (ih (hparts _ hd))
  | finish hdone =>
    rw [residue_done_iff, residue_splicing_done_iff hdone, bared_splice_iff,
      holdsDirective_trim_iff]

/-- …and so does a run. -/
theorem Run.residue_iff {o : Outside} {a b : Progress} {events : List Event} (ha : WellRead a)
    (h : Run o a events b) : Residue b ↔ Residue a ∨ Bared events := by
  induction h with
  | refl => exact (or_iff_left not_bared_nil).symm
  | step hstep _ ih =>
    rw [ih (hstep.wellRead ha), hstep.residue_iff ha, bared_append_iff, or_assoc]

/-! ## Results that are transcluded again -/

/-- **Transcluding the text again changes nothing and asks for nothing**, with whatever documents
entered. -/
def Settled (text : Text) : Prop :=
  ∀ visited, (∀ (σ : Type) (host : Host σ) depth,
      transclude host (depth + 1) visited text = pure (some text)) ∧
    ∀ o events c, Run o (.ready visited text) events c →
      events = [] ∧ (c = .ready visited text ∨ c = .done text)

/-- A text is settled exactly if it holds no directive. -/
theorem settled_iff {text : Text} : Settled text ↔ ¬ HoldsDirective text := by
  constructor
  · rintro hsettled ⟨line, hline, hread⟩
    obtain ⟨d, hd⟩ := Option.isSome_iff_exists.1 hread
    obtain rfl := Directive.line_of_read? hd
    have hmem : d ∈ (scan .empty text).directives :=
      mem_directives_scan.2 (mem_openDirectives.2 ⟨hline, hd, List.not_mem_nil⟩)
    have htargets : (scan .empty text).targets ≠ [] :=
      List.ne_nil_of_mem (target_mem_targets_scan hmem)
    have hnone := ((hsettled .empty).2 ⟨fun _ _ => True, fun _ _ => .ok [], fun _ _ => True⟩ _ _
      (.single (.start htargets))).1
    exact absurd hnone (by simp)
  · intro h visited
    have hread : ∀ line ∈ Text.splitOn '\n' text, Directive.read? line = none :=
      fun line hline => Option.not_isSome_iff_eq_none.1 fun hread => h ⟨line, hline, hread⟩
    have htargets : (scan visited text).targets = [] := targets_eq_nil hread
    refine ⟨fun σ host depth => ?_, fun o events c hrun => ?_⟩
    · rw [transclude_of_closed host htargets, join_lines_scan hread]
    · cases hrun with
      | refl => exact ⟨rfl, .inl rfl⟩
      | step hstep hlater =>
        cases hstep with
        | plain =>
          rw [join_lines_scan hread] at hlater
          obtain ⟨rfl, rfl⟩ := hlater.of_done
          exact ⟨rfl, .inr rfl⟩
        | start hopen => exact absurd htargets hopen

/-- **A result holds a directive exactly if some text was bared on the way to it**, in every order
of steps, and is settled otherwise; and a host's result is that of such a run. -/
theorem result_holdsDirective_iff_bared (visited : Visited) (text : Text) :
    (∀ o events out, Run o (.ready visited text) events (.done out) →
      (HoldsDirective out ↔ Bared events) ∧ (Settled out ↔ ¬ Bared events)) ∧
    ∀ (σ : Type) (host : Host σ) depth s out,
      (transclude host depth visited text s).1 = some out →
        ∃ events, Run host.outside (.ready visited text) events (.done out) := by
  refine ⟨fun o events out hrun => ?_, fun σ host depth s out hout => ?_⟩
  · have hresidue := hrun.residue_iff .ready
    rw [residue_done_iff, or_iff_right not_residue_ready] at hresidue
    exact ⟨hresidue, settled_iff.trans (not_congr hresidue)⟩
  · obtain ⟨c, hfollows⟩ := transclude_run host depth visited text s
    obtain ⟨events, hrun, -⟩ := hfollows.run
    rw [hfollows.done out hout] at hrun
    exact ⟨events, hrun⟩

/-- A heading mark behind blanks is no directive, until the first line of the text is trimmed; then
the result asks for the document of that line. -/
theorem result_bared_by_blanks :
    (transclude (Source.ofDocuments [(lit "/a.md", lit "A"), (lit "/b.md", lit "b")]).host 3 .empty
      (lit "  ## [+](/a.md)\n[+](/b.md)") []).1 = some (lit "## [+](/a.md)\nb") ∧
    ∃ events, Run (Source.ofDocuments [(lit "/a.md", lit "A"), (lit "/b.md", lit "b")]).host.outside
        (.ready .empty (lit "  ## [+](/a.md)\n[+](/b.md)")) events
        (.done (lit "## [+](/a.md)\nb")) ∧
      Bared events ∧ ¬ Settled (lit "## [+](/a.md)\nb") := by
  have hout : (transclude
      (Source.ofDocuments [(lit "/a.md", lit "A"), (lit "/b.md", lit "b")]).host 3 .empty
      (lit "  ## [+](/a.md)\n[+](/b.md)") []).1 = some (lit "## [+](/a.md)\nb") := by
    decide +kernel
  have hholds : HoldsDirective (lit "## [+](/a.md)\nb") :=
    ⟨lit "## [+](/a.md)", by decide +kernel, by decide +kernel⟩
  obtain ⟨hresults, hhosts⟩ :=
    result_holdsDirective_iff_bared .empty (lit "  ## [+](/a.md)\n[+](/b.md)")
  obtain ⟨events, hrun⟩ := hhosts _ _ _ _ _ hout
  obtain ⟨hbared, hsettled⟩ := hresults _ _ _ hrun
  have h := hbared.1 hholds
  exact ⟨hout, events, hrun, h, fun hstays => hsettled.1 hstays h⟩

end WikiPress.Snippet
