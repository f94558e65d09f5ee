import WikiPress.Proofs.Snippet.LineByLine
import WikiPress.Proofs.Snippet.Progress

/-!
# Proofs/Snippet/Sequential — a host runs a transclusion in order

Fetching one document after the other and expanding one directive after the other is one of the
orders in which a transclusion may advance.  So a host's transclusion is a run (`transclude_run`):
if it has a result, the run ends with that result, and if it has none, the run stops under way with
calls nested to the given depth.  The documents the run asks for are the documents the host notes.
-/

namespace WikiPress.Snippet

/-- What may be met outside by asking a host. -/
def Host.outside {σ : Type} (host : Host σ) : Outside where
  answers path file := ∃ s, (host.fetch path s).1 = file
  evaluate := host.evaluate
  picks count index := ∃ s, (host.pick count s).1 = index

/-- **A host notes the documents it is asked for**, in order. -/
structure Host.Notes {σ : Type} (host : Host σ) (asked : σ → List Text) : Prop where
  fetch : ∀ path s, asked (host.fetch path s).2 = asked s ++ [path]
  pick : ∀ count s, asked (host.pick count s).2 = asked s

/-- Between two states, a host is asked for these documents: whatever notes them, notes these. -/
def Host.Asked {σ : Type} (host : Host σ) (s : σ) (paths : List Text) (s' : σ) : Prop :=
  ∀ asked : σ → List Text, host.Notes asked → asked s' = asked s ++ paths

namespace Host.Asked

variable {σ : Type} {host : Host σ} {s s' s'' : σ} {paths later : List Text}

theorem refl : host.Asked s [] s := fun _ _ => (List.append_nil _).symm

theorem trans (h : host.Asked s paths s') (h' : host.Asked s' later s'') :
    host.Asked s (paths ++ later) s'' := fun asked hnotes => by
  rw [h' asked hnotes, h asked hnotes, List.append_assoc]

theorem fetch (path : Text) : host.Asked s [path] (host.fetch path s).2 :=
  fun _ hnotes => hnotes.fetch path s

/-- Taking a snippet asks for no document. -/
theorem snippet (d : Directive) (data : Text) :
    host.Asked s [] (snippet host.pick d data s).2 := by
  intro asked hnotes
  rcases (snippet_apply host.pick d data s).2 with hsame | ⟨count, hpick⟩
  · rw [hsame, List.append_nil]
  · rw [hpick, hnotes.pick, List.append_nil]

end Host.Asked

/-- The result of a transclusion that has one. -/
def Progress.result : Progress → Text
  | .done out => out
  | _ => []

section Host

variable {σ : Type} {host : Host σ}

/-! ## Documents arrive in order -/

/-- **Fetching documents in order is a run**, and only the documents of these groups arrive. -/
theorem fetchAll_run {visited : Visited} {text : Text} {groups : List Group}
    (files : Text → Option Fetched)
    (hgroups : ∀ g ∈ groups, g.target ∈ (scan visited text).targets ∧ files g.target = none)
    (hnodup : (groups.map Group.target).Nodup) (s : σ) :
    ∃ (file : Text → Fetched) (files' : Text → Option Fetched),
      Run host.outside (.fetching visited text files) [] (.fetching visited text files') ∧
      (fetchAll host groups s).1 = groups.map (fun g => (g, file g.target)) ∧
      (∀ g ∈ groups, files' g.target = some (file g.target)) ∧
      (∀ path ∉ groups.map Group.target, files' path = files path) ∧
      host.Asked s (groups.map Group.target) (fetchAll host groups s).2 := by
  induction groups generalizing files s with
  | nil =>
    exact ⟨fun path => ⟨path, [], true⟩, files, .refl, rfl, fun g hg => absurd hg List.not_mem_nil,
      fun path _ => rfl, .refl⟩
  | cons g rest ih =>
    obtain ⟨⟨htarget, hnew⟩, hrest⟩ := List.forall_mem_cons.1 hgroups
    obtain ⟨hg, hnodup⟩ := List.nodup_cons.1 hnodup
    have hne : ∀ g' ∈ rest, g'.target ≠ g.target := fun g' hg' heq =>
      hg (heq ▸ List.mem_map_of_mem hg')
    have hstep : Step host.outside (.fetching visited text files) [] _ :=
      .arrive htarget hnew ⟨s, rfl⟩
    obtain ⟨file, files', hrun, hfiles, hthere, helse, hasked⟩ :=
      @ih (Function.update files g.target (some (host.fetch g.target s).1))
        (fun g' hg' => ⟨(hrest g' hg').1, by
          rw [Function.update_of_ne (hne g' hg')]
          exact (hrest g' hg').2⟩) hnodup (host.fetch g.target s).2
    refine ⟨Function.update file g.target (host.fetch g.target s).1, files', .step hstep hrun,
      ?_, ?_, ?_, (Host.Asked.fetch g.target).trans hasked⟩
    · have hmap : rest.map (fun g' =>
          (g', Function.update file g.target (host.fetch g.target s).1 g'.target)) =
          rest.map fun g' => (g', file g'.target) :=
        List.map_congr_left fun g' hg' => by rw [Function.update_of_ne (hne g' hg')]
      rw [List.map_cons, hmap, Function.update_self, ← hfiles]
      rfl
    · refine List.forall_mem_cons.2 ⟨?_, fun g' hg' => ?_⟩
      · rw [helse _ hg, Function.update_self, Function.update_self]
      · rw [Function.update_of_ne (hne g' hg')]
        exact hthere g' hg'
    · intro path hpath
      rw [List.map_cons, List.mem_cons, not_or] at hpath
      rw [helse path hpath.2, Function.update_of_ne hpath.1]

/-! ## Expansions one after the other -/

/-- **A computation follows a run** from `start` to `c`: a result it has is the result of the run,
without one the run nests calls to the given depth, and between the states of the host, the
documents are asked for that the run asks for. -/
structure Follows (host : Host σ) (depth : Nat) (start c : Progress) (s : σ)
    (result : Option Text) (s' : σ) : Prop where
  run : ∃ events, Run host.outside start events c ∧ host.Asked s (events.flatMap Event.fetched) s'
  done : ∀ out, result = some out → c = .done out
  deep : result = none → c.Reaches depth

/-- A step that asks for nothing comes before a run. -/
theorem Follows.of_step {depth : Nat} {start b c : Progress} {s s' s'' : σ}
    {result : Option Text} (hstep : Step host.outside start [] b) (hasked : host.Asked s [] s')
    (h : Follows host depth b c s' result s'') : Follows host depth start c s result s'' where
  run := by
    obtain ⟨events, hrun, hlater⟩ := h.run
    exact ⟨_, .step hstep hrun, hasked.trans hlater⟩
  done := h.done
  deep := h.deep

theorem Follows.of_done {depth : Nat} {out : Text} {s : σ} :
    Follows host depth (.done out) (.done out) s (some out) s where
  run := ⟨[], .refl, .refl⟩
  done := by
    rintro _ ⟨⟩
    rfl
  deep := nofun

/-- **An expansion follows a run** from the state in which it has its document. -/
theorem expand_run {depth : Nat} {inner : Text → StateM σ (Option Text)} {visited : Visited}
    (hinner : ∀ text s, ∃ c,
      Follows host depth (.ready visited text) c s (inner text s).1 (inner text s).2)
    (d : Directive) (file : Fetched) (s : σ) :
    ∃ c inside,
      Follows host depth (.waiting visited d file) c s inside
        (expand host inner file (content host.evaluate d.target file) d s).2 ∧
      (expand host inner file (content host.evaluate d.target file) d s).1 =
        inside.map (shown file.isError) := by
  set data := content host.evaluate d.target file with hdata
  have htake : Step host.outside (.waiting visited d file) []
      (.taken visited d (snippet host.pick d data s).1) := by
    rw [(snippet_apply host.pick d data s).1]
    exact .take fun count => ⟨s, rfl⟩
  have hasked : host.Asked s [] _ := .snippet d data
  rw [expand_apply]
  dsimp only
  rw [Progress.taken] at htake
  split
  · next hempty =>
    rw [if_pos hempty] at htake
    exact ⟨_, some _, .of_step htake hasked .of_done, rfl⟩
  · next hempty =>
    rw [if_neg hempty] at htake
    obtain ⟨c, hc⟩ := hinner (underHeading d (snippet host.pick d data s).1)
      (snippet host.pick d data s).2
    exact ⟨c, _, .of_step htake hasked hc, rfl⟩

/-- **Directives have been expanded** so far that `replacements` are had, or one of them down to the
given depth, and the other expansions are where they were. -/
structure Expanded (host : Host σ) (depth : Nat) (visited : Visited) (text : Text)
    (file : Text → Fetched) (ds : List Directive) (parts parts' : Directive → Progress) (s : σ)
    (replacements : Option (List (Text × Text))) (s' : σ) : Prop where
  run : ∃ events, Run host.outside (.splicing visited text file parts) events
      (.splicing visited text file parts') ∧
    host.Asked s (events.flatMap Event.fetched) s'
  frame : ∀ d ∉ ds, parts' d = parts d
  replaced : ∀ lines, replacements = some lines →
    (∀ d ∈ ds, parts' d = .done (parts' d).result) ∧
      lines = ds.map fun d => (d.line, shown (file d.target).isError (parts' d).result)
  deep : replacements = none → ∃ d ∈ ds, (parts' d).Reaches depth

section Expanded

variable {depth : Nat} {visited : Visited} {text : Text} {file : Text → Fetched}
  {ds ds' : List Directive} {parts parts' parts'' : Directive → Progress} {s s' s'' : σ}

theorem Expanded.nil : Expanded host depth visited text file [] parts parts s (some []) s where
  run := ⟨[], .refl, .refl⟩
  frame := fun _ _ => rfl
  replaced := by
    rintro lines ⟨⟩
    exact ⟨fun d hd => absurd hd List.not_mem_nil, rfl⟩
  deep := nofun

theorem Expanded.single {d : Directive} {c : Progress} {inside : Option Text}
    (hd : d ∈ (scan visited text).directives)
    (h : Follows host depth (parts d) c s inside s') :
    Expanded host depth visited text file [d] parts (Function.update parts d c) s
      (inside.map fun out => [(d.line, shown (file d.target).isError out)]) s' where
  run := by
    obtain ⟨events, hrun, hasked⟩ := h.run
    refine ⟨_, hrun.inner hd, ?_⟩
    rwa [Event.flatMap_fetched_below]
  frame := fun e he => Function.update_of_ne (by simpa using he) _ _
  replaced := fun lines hlines => by
    obtain ⟨out, hout, rfl⟩ := Option.map_eq_some_iff.1 hlines
    obtain rfl := h.done out hout
    simp only [List.forall_mem_singleton, Function.update_self, List.map_cons, List.map_nil,
      Progress.result, and_self]
  deep := fun hnone => by
    refine ⟨d, List.mem_cons_self, ?_⟩
    rw [Function.update_self]
    exact h.deep (Option.map_eq_none_iff.1 hnone)

/-- Expanding more directives leaves those that were expanded as they are. -/
theorem Expanded.append {first others : Option (List (Text × Text))}
    (h : Expanded host depth visited text file ds parts parts' s first s')
    (h' : Expanded host depth visited text file ds' parts' parts'' s' others s'')
    (hdisjoint : ∀ d ∈ ds, d ∉ ds') :
    Expanded host depth visited text file (ds ++ ds') parts parts'' s
      (first.bind fun lines => others.map (lines ++ ·)) s'' where
  run := by
    obtain ⟨events, hrun, hasked⟩ := h.run
    obtain ⟨later, hrun', hasked'⟩ := h'.run
    refine ⟨_, hrun.trans hrun', ?_⟩
    rw [List.flatMap_append]
    exact hasked.trans hasked'
  frame := fun d hd => by
    rw [List.mem_append, not_or] at hd
    rw [h'.frame d hd.2, h.frame d hd.1]
  replaced := fun lines hlines => by
    obtain ⟨lines₁, hfirst, hlines⟩ := Option.bind_eq_some_iff.1 hlines
    obtain ⟨lines₂, hothers, rfl⟩ := Option.map_eq_some_iff.1 hlines
    obtain ⟨hdone₁, rfl⟩ := h.replaced lines₁ hfirst
    obtain ⟨hdone₂, rfl⟩ := h'.replaced lines₂ hothers
    have hkept : ∀ d ∈ ds, parts'' d = parts' d := fun d hd => h'.frame d (hdisjoint d hd)
    refine ⟨List.forall_mem_append.2 ⟨fun d hd => ?_, hdone₂⟩, ?_⟩
    · rw [hkept d hd]
      exact hdone₁ d hd
    · rw [List.map_append]
      exact congrArg (· ++ _) (List.map_congr_left fun d hd => by rw [hkept d hd])
  deep := fun hnone => by
    cases hfirst : first with
    | none =>
      obtain ⟨d, hd, hdeep⟩ := h.deep hfirst
      refine ⟨d, List.mem_append_left _ hd, ?_⟩
      rwa [h'.frame d (hdisjoint d hd)]
    | some lines =>
      rw [hfirst, Option.bind_some, Option.map_eq_none_iff] at hnone
      obtain ⟨d, hd, hdeep⟩ := h'.deep hnone
      exact ⟨d, List.mem_append_right _ hd, hdeep⟩

end Expanded

section Inner

variable {depth : Nat} {visited : Visited} {text : Text} {inner : Text → StateM σ (Option Text)}

/-- The directives of one target are expanded in order, -/
theorem expandLines_run (hinner : ∀ text' s, ∃ c, Follows host depth
      (.ready (visited.entering text) text') c s (inner text' s).1 (inner text' s).2)
    (file : Text → Fetched) {target : Text} {ds : List Directive} {parts : Directive → Progress}
    (hds : ∀ d ∈ ds, d ∈ (scan visited text).directives ∧ d.target = target)
    (hparts : ∀ d ∈ ds, parts d = .waiting (visited.entering text) d (file d.target))
    (hnodup : ds.Nodup) (s : σ) :
    ∃ parts', Expanded host depth visited text file ds parts parts' s
      (expandLines host inner (file target) (content host.evaluate target (file target)) ds s).1
      (expandLines host inner (file target)
        (content host.evaluate target (file target)) ds s).2 := by
  induction ds generalizing parts s with
  | nil => exact ⟨parts, .nil⟩
  | cons d rest ih =>
    obtain ⟨⟨hmem, rfl⟩, hrest⟩ := List.forall_mem_cons.1 hds
    obtain ⟨hpart, hparts⟩ := List.forall_mem_cons.1 hparts
    obtain ⟨hd, hnodup⟩ := List.nodup_cons.1 hnodup
    obtain ⟨c, inside, hc, hinside⟩ := expand_run hinner d (file d.target) s
    rw [← hpart] at hc
    have hsame : ∀ e ∈ rest, Function.update parts d c e = parts e := fun e he =>
      Function.update_of_ne (ne_of_mem_of_not_mem he hd) _ _
    obtain ⟨parts', hothers⟩ := @ih (Function.update parts d c) hrest
      (fun e he => (hsame e he).trans (hparts e he)) hnodup
      (expand host inner (file d.target) (content host.evaluate d.target (file d.target)) d s).2
    have happend := (Expanded.single hmem hc).append hothers fun e he => by
      rw [List.mem_singleton.1 he]
      exact hd
    refine ⟨parts', ?_⟩
    simp only [expandLines, stateM_bind_apply, stateM_pure_apply, hinside, Option.bind_map]
    rw [Option.bind_map] at happend
    exact happend

/-- …and one target after the other. -/
theorem expandAll_run (hinner : ∀ text' s, ∃ c, Follows host depth
      (.ready (visited.entering text) text') c s (inner text' s).1 (inner text' s).2)
    (file : Text → Fetched) {groups : List Group} {parts : Directive → Progress}
    (hgroups : ∀ g ∈ groups, ∀ d ∈ g.directives,
      d ∈ (scan visited text).directives ∧ d.target = g.target)
    (hparts : ∀ d ∈ groups.flatMap Group.directives,
      parts d = .waiting (visited.entering text) d (file d.target))
    (hnodup : (groups.flatMap Group.directives).Nodup) (s : σ) :
    ∃ parts', Expanded host depth visited text file (groups.flatMap Group.directives) parts parts'
      s (expandAll host inner (groups.map fun g => (g, file g.target)) s).1
      (expandAll host inner (groups.map fun g => (g, file g.target)) s).2 := by
  induction groups generalizing parts s with
  | nil => exact ⟨parts, .nil⟩
  | cons g rest ih =>
    obtain ⟨hg, hrest⟩ := List.forall_mem_cons.1 hgroups
    rw [List.flatMap_cons] at hparts hnodup ⊢
    obtain ⟨hfirst, hothers, hdisjoint⟩ := List.nodup_append.1 hnodup
    have happart : ∀ d ∈ g.directives, d ∉ rest.flatMap Group.directives := fun d hd hd' =>
      hdisjoint d hd d hd' rfl
    obtain ⟨parts₁, hlines⟩ := expandLines_run hinner file hg
      (fun d hd => hparts d (List.mem_append_left _ hd)) hfirst s
    have hlater : ∀ d ∈ rest.flatMap Group.directives,
        parts₁ d = .waiting (visited.entering text) d (file d.target) := fun d hd => by
      rw [hlines.frame d fun hd' => happart d hd' hd]
      exact hparts d (List.mem_append_right _ hd)
    obtain ⟨parts₂, hexpanded⟩ := ih hrest hlater hothers _
    exact ⟨parts₂, hlines.append hexpanded happart⟩

end Inner

/-! ## The whole transclusion -/

/-- A text that enters documents is fetched, expanded and put together. -/
theorem transclude_run_of_open {depth : Nat} {visited : Visited} {text : Text}
    (hinner : ∀ text' s, ∃ c, Follows host depth (.ready (visited.entering text) text') c s
      (transclude host depth (visited.entering text) text' s).1
      (transclude host depth (visited.entering text) text' s).2)
    (htargets : (scan visited text).targets ≠ []) (s : σ) :
    ∃ c, Follows host (depth + 1) (.ready visited text) c s
      (transclude host (depth + 1) visited text s).1
      (transclude host (depth + 1) visited text s).2 := by
  have hscan := collected_scan visited text
  obtain ⟨file, files, hfetch, hfiles, hthere, -, hasked⟩ := fetchAll_run (fun _ => none)
    (fun g hg => ⟨List.mem_map_of_mem hg, rfl⟩) (nodup_targets_scan visited text) s
  have harrived : ∀ path ∈ (scan visited text).targets, files path = some (file path) := by
    intro path hpath
    obtain ⟨g, hg, rfl⟩ := List.mem_map.1 hpath
    exact hthere g hg
  obtain ⟨parts, hexpanded⟩ := expandAll_run hinner file
    (fun g hg d hd => ⟨List.mem_flatMap.2 ⟨g, hg, hd⟩, hscan.target_eq g hg d hd⟩)
    (fun d _ => rfl) hscan.nodup_directives (fetchAll host (scan visited text).groups s).2
  obtain ⟨events, hsplicing, hlater⟩ := hexpanded.run
  have hrun := Run.step (.start htargets) (hfetch.trans (.step (.expand harrived) hsplicing))
  rw [transclude_of_open host htargets]
  simp only [stateM_bind_apply, stateM_pure_apply, hfiles]
  cases hreplaced : (expandAll host (transclude host depth (visited.entering text))
      ((scan visited text).groups.map fun g => (g, file g.target))
      (fetchAll host (scan visited text).groups s).2).1 with
  | none =>
    obtain ⟨d, hd, hdeep⟩ := hexpanded.deep hreplaced
    exact ⟨_, ⟨_, hrun, hasked.trans hlater⟩, nofun, fun _ => hdeep.inner hd⟩
  | some replacements =>
    obtain ⟨hdone, rfl⟩ := hexpanded.replaced _ hreplaced
    refine ⟨_, ⟨_, hrun.trans (.single (.finish hdone)), ?_⟩, ?_, nofun⟩
    · rw [List.flatMap_append, List.flatMap_singleton, Event.fetched, List.append_nil]
      exact hasked.trans hlater
    · rintro out ⟨⟩
      rfl

/-- **A transclusion by a host is a run.** -/
theorem transclude_run (host : Host σ) (depth : Nat) (visited : Visited) (text : Text) (s : σ) :
    ∃ c, Follows host depth (.ready visited text) c s (transclude host depth visited text s).1
      (transclude host depth visited text s).2 := by
  induction depth generalizing visited text s with
  | zero => exact ⟨_, ⟨[], .refl, .refl⟩, nofun, fun _ => ⟨[], visited, .ready, Nat.le_refl 0⟩⟩
  | succ depth ih =>
    by_cases hnone : (scan visited text).targets = []
    · rw [transclude_of_closed host hnone]
      exact ⟨_, .of_step (.plain hnone) .refl .of_done⟩
    · exact transclude_run_of_open (ih _) hnone s

end Host

/-! ## Sources -/

namespace Source

/-- What may be met outside by asking a source. -/
def outside (source : Source) : Outside where
  answers path file := file = source.file path
  evaluate := source.evaluate
  picks count index := index = source.pick count

theorem notes_host (source : Source) : source.host.Notes id where
  fetch := fun _ _ => rfl
  pick := fun _ _ => rfl

theorem outside_host (source : Source) : source.host.outside = source.outside := by
  have hanswers : source.host.outside.answers = source.outside.answers := by
    funext path file
    exact propext ⟨fun ⟨_, h⟩ => h.symm, fun h => ⟨[], h.symm⟩⟩
  have hpicks : source.host.outside.picks = source.outside.picks := by
    funext count index
    exact propext ⟨fun ⟨_, h⟩ => h.symm, fun h => ⟨[], h.symm⟩⟩
  rw [Host.outside, outside, Outside.mk.injEq]
  exact ⟨hanswers, rfl, hpicks⟩

end Source

end WikiPress.Snippet
