import WikiPress.Proofs.Snippet.Ancestors

/-!
# Proofs/Snippet/Schedule — every order of steps has the line-by-line meaning

With a source, what a transclusion under way comes to is settled (`Yields`), and no step changes it
(`Step.yields_iff`): the documents may arrive and the expansions may advance in any order.  So a
transclusion ends with the line-by-line meaning of its text or not at all, and from wherever it got
to, it can be brought to that end (`Yields.completes`).
-/

namespace WikiPress.Snippet

variable {source : Source}

/-! ## What a transclusion under way comes to -/

/-- **All that arrived is what the source has.** -/
inductive Answered (source : Source) : Progress → Prop
  | ready {visited text} : Answered source (.ready visited text)
  | fetching {visited text} {files : Text → Option Fetched}
      (htargets : (scan visited text).targets ≠ [])
      (h : ∀ path file, files path = some file → file = source.file path) :
      Answered source (.fetching visited text files)
  | waiting {visited} {d : Directive} : Answered source (.waiting visited d (source.file d.target))
  | splicing {visited text file parts}
      (hfile : ∀ path ∈ (scan visited text).targets, file path = source.file path)
      (h : ∀ d ∈ (scan visited text).directives, Answered source (parts d)) :
      Answered source (.splicing visited text file parts)
  | done {out} : Answered source (.done out)

/-- **What a transclusion under way comes to**, by the meaning of the texts that are still ready. -/
inductive Yields (source : Source) : Progress → Text → Prop
  | ready {visited text out} (depth : Nat) (h : lineByLine source depth visited text = some out) :
      Yields source (.ready visited text) out
  | fetching {visited text files out} (depth : Nat)
      (h : lineByLine source depth visited text = some out) :
      Yields source (.fetching visited text files) out
  | waiting {visited d file out} (depth : Nat)
      (h : source.inside (lineByLine source depth visited) d = some out) :
      Yields source (.waiting visited d file) out
  | splicing {visited text file parts} {outs : Directive → Text}
      (h : ∀ d ∈ (scan visited text).directives, Yields source (parts d) (outs d)) :
      Yields source (.splicing visited text file parts)
        (Text.trim (Progress.assembled visited text file outs))
  | done {out} : Yields source (.done out) out

theorem yields_ready_iff {visited : Visited} {text out : Text} :
    Yields source (.ready visited text) out ↔
      ∃ depth, lineByLine source depth visited text = some out := by
  constructor
  · rintro ⟨depth, h⟩
    exact ⟨depth, h⟩
  · rintro ⟨depth, h⟩
    exact .ready depth h

theorem yields_fetching_iff {visited : Visited} {text out : Text}
    {files : Text → Option Fetched} :
    Yields source (.fetching visited text files) out ↔
      ∃ depth, lineByLine source depth visited text = some out := by
  constructor
  · rintro (_ | ⟨depth, h⟩)
    exact ⟨depth, h⟩
  · rintro ⟨depth, h⟩
    exact .fetching depth h

theorem yields_waiting_iff {visited : Visited} {d : Directive} {file : Fetched} {out : Text} :
    Yields source (.waiting visited d file) out ↔
      ∃ depth, source.inside (lineByLine source depth visited) d = some out := by
  constructor
  · rintro (_ | _ | ⟨depth, h⟩)
    exact ⟨depth, h⟩
  · rintro ⟨depth, h⟩
    exact .waiting depth h

theorem yields_splicing_iff {visited : Visited} {text out : Text} {file : Text → Fetched}
    {parts : Directive → Progress} :
    Yields source (.splicing visited text file parts) out ↔
      ∃ outs : Directive → Text,
        (∀ d ∈ (scan visited text).directives, Yields source (parts d) (outs d)) ∧
        out = Text.trim (Progress.assembled visited text file outs) := by
  constructor
  · intro h
    cases h with
    | @splicing _ _ _ _ outs h => exact ⟨outs, h, rfl⟩
  · rintro ⟨outs, h, rfl⟩
    exact .splicing h

theorem yields_done_iff {out out' : Text} : Yields source (.done out) out' ↔ out' = out := by
  constructor
  · intro h
    cases h
    rfl
  · rintro rfl
    exact .done

/-- An expansion comes to the same when its snippet is taken. -/
theorem yields_taken_iff {visited : Visited} {d : Directive} {out : Text} :
    Yields source (.taken visited d (source.snippet d)) out ↔
      ∃ depth, source.inside (lineByLine source depth visited) d = some out := by
  simp only [Progress.taken, Source.inside]
  split
  · rw [yields_done_iff]
    constructor
    · rintro rfl
      exact ⟨0, rfl⟩
    · rintro ⟨-, h⟩
      exact (Option.some.inj h).symm
  · exact yields_ready_iff

/-- Texts that differ in nothing but contents of other directives are assembled alike. -/
theorem assembled_congr {visited : Visited} {text : Text} {file file' : Text → Fetched}
    {outs outs' : Directive → Text}
    (hfile : ∀ path ∈ (scan visited text).targets, file path = file' path)
    (houts : ∀ d ∈ (scan visited text).directives, outs d = outs' d) :
    Progress.assembled visited text file outs = Progress.assembled visited text file' outs' := by
  rw [Progress.assembled, Progress.assembled, Scan.spliced, Scan.spliced]
  refine congrArg (fun bindings => Text.join _ (splice bindings _))
    (List.map_congr_left fun d hd => ?_)
  rw [hfile _ (target_mem_targets_scan hd), houts d hd]

/-- A depth that is enough for each of some directives, for all of them. -/
theorem exists_depth {visited : Visited} {outs : Directive → Text} {ds : List Directive}
    (h : ∀ d ∈ ds, ∃ depth, source.inside (lineByLine source depth visited) d = some (outs d)) :
    ∃ depth, ∀ d ∈ ds, source.inside (lineByLine source depth visited) d = some (outs d) := by
  induction ds with
  | nil => exact ⟨0, fun d hd => absurd hd List.not_mem_nil⟩
  | cons d rest ih =>
    obtain ⟨⟨m, hm⟩, hrest⟩ := List.forall_mem_cons.1 h
    obtain ⟨n, hn⟩ := ih hrest
    refine ⟨max m n, List.forall_mem_cons.2 ⟨?_, fun e he => ?_⟩⟩
    · exact inside_mono source (fun _ _ => lineByLine_mono source (le_max_left m n)) hm
    · exact inside_mono source (fun _ _ => lineByLine_mono source (le_max_right m n)) (hn e he)

/-- The expansions of a text come to its meaning. -/
theorem yields_waitings_iff {visited : Visited} {text out : Text} {file : Text → Fetched}
    (htargets : (scan visited text).targets ≠ [])
    (hfile : ∀ path ∈ (scan visited text).targets, file path = source.file path) :
    Yields source (.splicing visited text file fun d =>
        .waiting (visited.entering text) d (file d.target)) out ↔
      ∃ depth, lineByLine source depth visited text = some out := by
  have hassembled (outs : Directive → Text) :
      Progress.assembled visited text file outs = (scan visited text).spliced
        fun d => shown (source.file d.target).isError (outs d) :=
    assembled_congr hfile fun _ _ => rfl
  rw [yields_splicing_iff]
  simp only [yields_waiting_iff, hassembled]
  constructor
  · rintro ⟨outs, houts, rfl⟩
    obtain ⟨depth, hdepth⟩ := exists_depth houts
    exact ⟨depth + 1, (lineByLine_eq_some_iff source htargets).2 ⟨outs, hdepth, rfl⟩⟩
  · rintro ⟨depth, h⟩
    cases depth with
    | zero => exact absurd h (by simp [lineByLine])
    | succ depth =>
      obtain ⟨outs, houts, rfl⟩ := (lineByLine_eq_some_iff source htargets).1 h
      exact ⟨outs, fun d hd => ⟨depth, houts d hd⟩, rfl⟩

/-! ## No step changes it -/

/-- What a directive takes from the document of the source. -/
theorem snippet_outside {choose : Nat → Nat}
    (h : ∀ count, source.outside.picks count (choose count)) (d : Directive) :
    source.outside.snippet choose d (source.file d.target) = source.snippet d := by
  obtain rfl : choose = source.pick := funext h
  rfl

/-- **What arrives is what the source has.** -/
theorem Step.answered {a b : Progress} {events : List Event} (ha : Answered source a)
    (h : Step source.outside a events b) : Answered source b := by
  induction h with
  | plain => exact .done
  | start htargets => exact .fetching htargets fun _ _ h => absurd h (by simp)
  | arrive _ _ hanswer =>
    cases ha with
    | fetching htargets hfiles => exact .fetching htargets (forall_arrived hfiles hanswer)
  | expand harrived =>
    cases ha with
    | fetching _ hfiles =>
      have hfile := fun path hpath => hfiles path _ (harrived path hpath)
      refine .splicing hfile fun d hd => ?_
      rw [hfile _ (target_mem_targets_scan hd)]
      exact .waiting
  | take => exact Progress.taken_cases .done .ready
  | inner hd _ ih =>
    cases ha with
    | splicing hfile hparts => exact .splicing hfile (forall_update hparts (ih (hparts _ hd)))
  | finish => exact .done

/-- A text that enters no document comes to its kept lines. -/
theorem yields_of_closed {visited : Visited} {text out : Text}
    (h : (scan visited text).targets = []) :
    Yields source (.ready visited text) out ↔
      out = Text.join ['\n'] (scan visited text).lines := by
  rw [yields_ready_iff]
  constructor
  · rintro ⟨depth, hout⟩
    cases depth with
    | zero => exact absurd hout (by simp [lineByLine])
    | succ depth =>
      rw [lineByLine_of_closed source h] at hout
      exact (Option.some.inj hout).symm
  · rintro rfl
    exact ⟨1, lineByLine_of_closed source h 0⟩

/-- Expansions that come to the same make the text come to the same. -/
theorem yields_splicing_congr {visited : Visited} {text out : Text} {file : Text → Fetched}
    {parts parts' : Directive → Progress}
    (h : ∀ d out, Yields source (parts d) out ↔ Yields source (parts' d) out) :
    Yields source (.splicing visited text file parts) out ↔
      Yields source (.splicing visited text file parts') out := by
  simp only [yields_splicing_iff, h]

/-- Finished expansions come to their results. -/
theorem yields_splicing_done_iff {visited : Visited} {text out : Text} {file : Text → Fetched}
    {parts : Directive → Progress} {outs : Directive → Text}
    (hdone : ∀ d ∈ (scan visited text).directives, parts d = .done (outs d)) :
    Yields source (.splicing visited text file parts) out ↔
      out = Text.trim (Progress.assembled visited text file outs) := by
  rw [yields_splicing_iff]
  constructor
  · rintro ⟨outs', houts', rfl⟩
    refine congrArg Text.trim (assembled_congr (fun _ _ => rfl) fun d hd => ?_)
    have h := houts' d hd
    rwa [hdone d hd, yields_done_iff] at h
  · rintro rfl
    refine ⟨outs, fun d hd => ?_, rfl⟩
    rw [hdone d hd]
    exact .done

/-- **No step changes what a transclusion comes to.** -/
theorem Step.yields_iff {a b : Progress} {events : List Event} (ha : Answered source a)
    (h : Step source.outside a events b) (out : Text) :
    Yields source a out ↔ Yields source b out := by
  induction h generalizing out with
  | plain hnone => rw [yields_of_closed hnone, yields_done_iff]
  | start => rw [yields_ready_iff, yields_fetching_iff]
  | arrive => rw [yields_fetching_iff, yields_fetching_iff]
  | expand harrived =>
    cases ha with
    | fetching htargets hfiles =>
      rw [yields_fetching_iff, yields_waitings_iff htargets fun path hpath =>
        hfiles path _ (harrived path hpath)]
  | take hchoose =>
    cases ha
    rw [snippet_outside hchoose, yields_waiting_iff, yields_taken_iff]
  | @inner _ _ _ parts d _ next hd _ ih =>
    cases ha with
    | splicing _ hparts =>
      refine yields_splicing_congr fun e out => ?_
      rw [Function.update_apply]
      split
      · next heq =>
        rw [heq]
        exact ih (hparts d hd) out
      · rfl
  | finish hdone => rw [yields_splicing_done_iff hdone, yields_done_iff]

/-- …and no run. -/
theorem Run.yields {a b : Progress} {events : List Event} (ha : Answered source a)
    (h : Run source.outside a events b) :
    Answered source b ∧ ∀ out, Yields source a out ↔ Yields source b out := by
  induction h with
  | refl => exact ⟨ha, fun _ => Iff.rfl⟩
  | step hstep _ ih =>
    obtain ⟨hc, hlater⟩ := ih (hstep.answered ha)
    exact ⟨hc, fun out => (hstep.yields_iff ha out).trans (hlater out)⟩

/-! ## It is reached from everywhere -/

/-- A text that has a meaning is transcluded to it by some run: the one of a host. -/
theorem ready_completes {visited : Visited} {text out : Text} {depth : Nat}
    (h : lineByLine source depth visited text = some out) :
    ∃ events, Run source.outside (.ready visited text) events (.done out) := by
  obtain ⟨c, hfollows⟩ := transclude_run source.host depth visited text []
  obtain ⟨events, hrun, -⟩ := hfollows.run
  rw [hfollows.done out ((fst_transclude source.answersAs_host ..).trans h),
    source.outside_host] at hrun
  exact ⟨events, hrun⟩

theorem waiting_completes {visited : Visited} {d : Directive} {out : Text} {depth : Nat}
    (h : source.inside (lineByLine source depth visited) d = some out) :
    ∃ events,
      Run source.outside (.waiting visited d (source.file d.target)) events (.done out) := by
  have htake : Step source.outside (.waiting visited d (source.file d.target)) []
      (.taken visited d (source.snippet d)) := .take fun _ => rfl
  simp only [Source.inside] at h
  by_cases hempty : (source.snippet d).isEmpty = true
  · rw [if_pos hempty] at h
    rw [Progress.taken, if_pos hempty, Option.some.inj h] at htake
    exact ⟨_, .single htake⟩
  · rw [if_neg hempty] at h
    rw [Progress.taken, if_neg hempty] at htake
    obtain ⟨events, hrun⟩ := ready_completes h
    exact ⟨_, .step htake hrun⟩

/-- Documents arrive until all are there. -/
theorem arrivals_run (visited : Visited) (text : Text) {files : Text → Option Fetched}
    (hfiles : ∀ path file, files path = some file → file = source.file path) {paths : List Text}
    (hpaths : ∀ path ∈ paths, path ∈ (scan visited text).targets) :
    ∃ files', Run source.outside (.fetching visited text files) [] (.fetching visited text files') ∧
      (∀ path file, files' path = some file → file = source.file path) ∧
      ∀ path ∈ paths, files' path = some (source.file path) := by
  induction paths with
  | nil => exact ⟨files, .refl, hfiles, fun path hpath => absurd hpath List.not_mem_nil⟩
  | cons path rest ih =>
    obtain ⟨hpath, hrest⟩ := List.forall_mem_cons.1 hpaths
    obtain ⟨files', hrun, hsource, hthere⟩ := ih hrest
    cases hfile : files' path with
    | some file =>
      obtain rfl := hsource path file hfile
      exact ⟨files', hrun, hsource, List.forall_mem_cons.2 ⟨hfile, hthere⟩⟩
    | none =>
      refine ⟨Function.update files' path (some (source.file path)),
        hrun.trans (.single (.arrive hpath hfile rfl)), forall_arrived hsource rfl,
        List.forall_mem_cons.2 ⟨Function.update_self .., fun path' hpath' => ?_⟩⟩
      rw [Function.update_apply]
      split
      · next heq => rw [heq]
      · exact hthere path' hpath'

/-- Expansions that can be completed are completed one after the other, -/
theorem parts_complete {o : Outside} {visited : Visited} {text : Text} (file : Text → Fetched)
    {parts : Directive → Progress} {outs : Directive → Text} {ds : List Directive}
    (hds : ∀ d ∈ ds, d ∈ (scan visited text).directives ∧
      ∃ events, Run o (parts d) events (.done (outs d))) :
    ∃ events parts', Run o (.splicing visited text file parts) events
        (.splicing visited text file parts') ∧
      (∀ d ∈ ds, parts' d = .done (outs d)) ∧ ∀ d ∉ ds, parts' d = parts d := by
  induction ds with
  | nil => exact ⟨[], parts, .refl, fun d hd => absurd hd List.not_mem_nil, fun d _ => rfl⟩
  | cons d rest ih =>
    obtain ⟨⟨hmem, events, hrun⟩, hrest⟩ := List.forall_mem_cons.1 hds
    obtain ⟨before, parts', hbefore, hdone, hframe⟩ := ih hrest
    by_cases hd : d ∈ rest
    · refine ⟨before, parts', hbefore, List.forall_mem_cons.2 ⟨hdone d hd, hdone⟩, fun e he => ?_⟩
      exact hframe e fun hmem => he (List.mem_cons_of_mem _ hmem)
    · rw [← hframe d hd] at hrun
      refine ⟨_, Function.update parts' d (.done (outs d)), hbefore.trans (hrun.inner hmem),
        List.forall_mem_cons.2 ⟨Function.update_self .., fun e he => ?_⟩, fun e he => ?_⟩
      · rw [Function.update_of_ne (ne_of_mem_of_not_mem he hd)]
        exact hdone e he
      · rw [List.mem_cons, not_or] at he
        rw [Function.update_of_ne he.1]
        exact hframe e he.2

/-- …and then put in their places. -/
theorem splicing_completes {o : Outside} {visited : Visited} {text : Text}
    (file : Text → Fetched) {parts : Directive → Progress} {outs : Directive → Text}
    (h : ∀ d ∈ (scan visited text).directives, ∃ events, Run o (parts d) events (.done (outs d))) :
    ∃ events, Run o (.splicing visited text file parts) events
      (.done (Text.trim (Progress.assembled visited text file outs))) := by
  obtain ⟨events, parts', hrun, hdone, -⟩ := parts_complete file
    fun d hd => ⟨hd, h d hd⟩
  exact ⟨_, hrun.trans (.single (.finish hdone))⟩

/-- **What a transclusion comes to, it can be brought to.** -/
theorem Yields.completes {c : Progress} {out : Text} (hanswered : Answered source c)
    (h : Yields source c out) : ∃ events, Run source.outside c events (.done out) := by
  induction h with
  | ready depth h => exact ready_completes h
  | @fetching visited text files out depth h =>
    cases hanswered with
    | fetching htargets hfiles =>
      obtain ⟨files', hrun, -, hthere⟩ := arrivals_run visited text hfiles
        fun path hpath => hpath
      have hexpand : Step source.outside (.fetching visited text files') [] _ := .expand hthere
      have hyields := (yields_waitings_iff htargets fun path _ => rfl).2 ⟨depth, h⟩
      obtain ⟨outs, houts, rfl⟩ := yields_splicing_iff.1 hyields
      obtain ⟨events, hsplice⟩ := splicing_completes source.file fun d hd => by
        obtain ⟨n, hn⟩ := yields_waiting_iff.1 (houts d hd)
        exact waiting_completes hn
      exact ⟨_, hrun.trans (.step hexpand hsplice)⟩
  | waiting depth h =>
    cases hanswered
    exact waiting_completes h
  | splicing _ ih =>
    cases hanswered with
    | splicing hfile hparts => exact splicing_completes _ fun d hd => ih d hd (hparts d hd)
  | done => exact ⟨[], .refl⟩

/-! ## The line-by-line meaning, in every order -/

/-- **A transclusion is the line-by-line meaning of its text.**  A host that answers like a source
finds that meaning, at every depth, and when it does, it has asked for every document of the text
once.  In whatever order documents arrive and expansions advance, the runs that end are those of a
text that has a meaning, they end with it, and they ask for every document of the text once; and no
order of steps, however far it got, cannot be brought to that end. -/
theorem transclusion_eq_lineByLine (source : Source) (visited : Visited) (text : Text) :
    (∀ (σ : Type) (host : Host σ) (asked : σ → List Text), host.AnswersAs source →
      host.Notes asked → ∀ depth s,
        (transclude host depth visited text s).1 = lineByLine source depth visited text ∧
        ∀ out, lineByLine source depth visited text = some out →
          ∃ paths, asked (transclude host depth visited text s).2 = asked s ++ paths ∧
            ∀ path ∈ openTargets visited text, paths.count path = 1) ∧
    (∀ out, (∃ events, Run source.outside (.ready visited text) events (.done out)) ↔
      ∃ depth, lineByLine source depth visited text = some out) ∧
    (∀ out events, Run source.outside (.ready visited text) events (.done out) →
      ∀ path ∈ openTargets visited text, (events.flatMap Event.fetched).count path = 1) ∧
    ∀ depth out, lineByLine source depth visited text = some out →
      ∀ events c, Run source.outside (.ready visited text) events c →
        ∃ later, Run source.outside c later (.done out) := by
  refine ⟨fun σ host asked hsource hnotes depth s =>
      ⟨fst_transclude hsource .., fun out hout => ?_⟩,
    fun out => ⟨fun ⟨events, hrun⟩ => ?_, fun ⟨depth, h⟩ => ready_completes h⟩,
    fun out events hrun path hpath => hrun.count_fetched hpath,
    fun depth out h events c hrun => ?_⟩
  · obtain ⟨c, hfollows⟩ := transclude_run host depth visited text s
    obtain ⟨events, hrun, hasked⟩ := hfollows.run
    obtain rfl := hfollows.done out ((fst_transclude hsource ..).trans hout)
    exact ⟨_, hasked asked hnotes, fun path hpath => hrun.count_fetched hpath⟩
  · exact yields_ready_iff.1 (((hrun.yields .ready).2 out).2 .done)
  · obtain ⟨hc, hsame⟩ := hrun.yields .ready
    exact ((hsame out).1 (.ready depth h)).completes hc

/-- Two documents, one of which transcludes the other and itself, in three lines of a text. -/
theorem transclusion_eq_lineByLine_of_cycle :
    ∃ source : Source, source.host.AnswersAs source ∧ source.host.Notes id ∧
      (transclude source.host 3 .empty (lit "[+](/a.md)\n[+](/b.md)\n[+](/a.md)") []).1 =
        some (lit "A\n\n\nB\nA") ∧
      (∃ paths, (transclude source.host 3 .empty
          (lit "[+](/a.md)\n[+](/b.md)\n[+](/a.md)") []).2 = paths ∧
        ∀ path ∈ [lit "/a.md", lit "/b.md"], paths.count path = 1) ∧
      ∃ events, Run source.outside (.ready .empty (lit "[+](/a.md)\n[+](/b.md)\n[+](/a.md)"))
          events (.done (lit "A\n\n\nB\nA")) ∧
        ∀ path ∈ [lit "/a.md", lit "/b.md"], (events.flatMap Event.fetched).count path = 1 := by
  set source := Source.ofDocuments
    [(lit "/a.md", lit "A\n[+](/b.md)\n[+](/a.md)"), (lit "/b.md", lit "B")] with hsource
  set text := lit "[+](/a.md)\n[+](/b.md)\n[+](/a.md)" with htext
  have hout : lineByLine source 3 .empty text = some (lit "A\n\n\nB\nA") := by
    rw [hsource, htext]
    decide +kernel
  have htargets : ∀ path ∈ [lit "/a.md", lit "/b.md"], path ∈ openTargets .empty text := by
    rw [htext]
    decide +kernel
  obtain ⟨hhosts, hruns, hcount, hends⟩ := transclusion_eq_lineByLine source .empty text
  obtain ⟨hresult, hasked⟩ := hhosts _ _ id source.answersAs_host source.notes_host 3 []
  obtain ⟨paths, hpaths, honce⟩ := hasked _ hout
  obtain ⟨events, hrun⟩ := hends 3 _ hout [] _ .refl
  exact ⟨source, source.answersAs_host, source.notes_host, hresult.trans hout,
    ⟨paths, hpaths, fun path hpath => honce path (htargets path hpath)⟩,
    events, hrun, fun path hpath => hcount _ _ hrun path (htargets path hpath)⟩

end WikiPress.Snippet
