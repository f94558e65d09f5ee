import WikiPress.Proofs.Snippet.Sequential

/-!
# Proofs/Snippet/Ancestors — no document is entered below itself

A nested transclusion is entered with the documents its caller was entered with and all those its
caller asks for (`Chain`).  Every step keeps that (`Step.enteredWith`), so no document is asked for
by a transclusion below one that was entered with it or that asked for it, whatever the snippets are
made of.
-/

namespace WikiPress.Snippet

/-! ## Chains of callers -/

/-- **A chain of callers**, from the transclusion entered with the first documents to the one
entered with the last. -/
inductive Chain : Visited → List Caller → Visited → Prop
  | nil {visited} : Chain visited [] visited
  | cons {visited text d callers entered} (hd : d ∈ (scan visited text).directives)
      (h : Chain (visited.entering text) callers entered) :
      Chain visited (.of visited text d :: callers) entered

namespace Chain

variable {visited entered : Visited} {callers : List Caller}

/-- What was entered stays entered along a chain, -/
theorem mem (h : Chain visited callers entered) {path : Text} (hpath : path ∈ visited.toList) :
    path ∈ entered.toList := by
  induction h with
  | nil => exact hpath
  | cons _ _ ih => exact ih (Visited.mem_entering.2 (.inl hpath))

/-- …what a caller asks for is entered below it, -/
theorem mem_of_target (h : Chain visited callers entered) {path : Text}
    (hpath : path ∈ callers.flatMap Caller.targets) : path ∈ entered.toList := by
  induction h with
  | nil => exact absurd hpath List.not_mem_nil
  | cons _ h ih =>
    rw [List.flatMap_cons, List.mem_append] at hpath
    rcases hpath with hpath | hpath
    · exact h.mem (Visited.mem_entering.2 (.inr hpath))
    · exact ih hpath

/-- …and so is what a caller was entered with, and the document of the nested transclusion. -/
theorem mem_of_caller (h : Chain visited callers entered) {caller : Caller}
    (hcaller : caller ∈ callers) :
    caller.visited.toList ⊆ entered.toList ∧ caller.entered ∈ entered.toList := by
  induction h with
  | nil => exact absurd hcaller List.not_mem_nil
  | @cons visited text d _ _ hd h ih =>
    rcases List.mem_cons.1 hcaller with rfl | hcaller
    · refine ⟨fun path hpath => h.mem (Visited.mem_entering.2 (.inl hpath)), ?_⟩
      exact h.mem (Visited.mem_entering.2 (.inr (target_mem_targets_scan hd)))
    · exact ih hcaller

/-- **Along a chain no document is asked for twice**, nor one that was entered before. -/
theorem nodup (h : Chain visited callers entered) :
    (callers.flatMap Caller.targets).Nodup ∧
      ∀ path ∈ callers.flatMap Caller.targets, path ∉ visited.toList := by
  induction h with
  | nil => exact ⟨List.nodup_nil, fun path hpath => absurd hpath List.not_mem_nil⟩
  | @cons visited text d callers _ _ _ ih =>
    obtain ⟨hnodup, hnew⟩ := ih
    rw [List.flatMap_cons]
    refine ⟨List.nodup_append.2 ⟨nodup_targets_scan visited text, hnodup, ?_⟩, ?_⟩
    · rintro path hpath _ hlater rfl
      exact hnew path hlater (Visited.mem_entering.2 (.inr hpath))
    · intro path hpath hmem
      rcases List.mem_append.1 hpath with hpath | hpath
      · exact not_mem_of_mem_targets_scan hpath hmem
      · exact hnew path hpath (Visited.mem_entering.2 (.inl hmem))

end Chain

/-! ## The invariant -/

/-- **A transclusion was entered with these documents**, and each expansion in it with those and
the ones it asked for. -/
inductive EnteredWith : Visited → Progress → Prop
  | ready {visited text} : EnteredWith visited (.ready visited text)
  | fetching {visited text files} : EnteredWith visited (.fetching visited text files)
  | waiting {visited d file} : EnteredWith visited (.waiting visited d file)
  | splicing {visited text file parts}
      (h : ∀ d ∈ (scan visited text).directives,
        EnteredWith (visited.entering text) (parts d)) :
      EnteredWith visited (.splicing visited text file parts)
  | done {visited out} : EnteredWith visited (.done out)

/-- A fetch below a transclusion that was entered with `visited`: its callers are a chain, and it
asks for the documents of some text. -/
def Event.Below (visited : Visited) : Event → Prop
  | .fetch callers entered targets =>
    Chain visited callers entered ∧ ∃ text, targets = (scan entered text).targets
  | .splice _ => True

theorem Event.Below.cons {visited : Visited} {text : Text} {d : Directive} {e : Event}
    (hd : d ∈ (scan visited text).directives)
    (h : e.Below (visited.entering text)) :
    (e.below (.of visited text d)).Below visited := by
  cases e with
  | fetch callers entered targets => exact ⟨.cons hd h.1, h.2⟩
  | splice text => exact trivial

/-- **A step keeps what a transclusion was entered with.** -/
theorem Step.enteredWith {o : Outside} {a b : Progress} {events : List Event} {visited : Visited}
    (ha : EnteredWith visited a) (h : Step o a events b) :
    EnteredWith visited b ∧ ∀ e ∈ events, e.Below visited := by
  induction h generalizing visited with
  | plain => exact ⟨.done, fun e he => absurd he List.not_mem_nil⟩
  | start =>
    cases ha
    refine ⟨.fetching, fun e he => ?_⟩
    obtain rfl := List.mem_singleton.1 he
    exact ⟨.nil, _, rfl⟩
  | arrive =>
    cases ha
    exact ⟨.fetching, fun e he => absurd he List.not_mem_nil⟩
  | expand =>
    cases ha
    exact ⟨.splicing fun d _ => .waiting, fun e he => absurd he List.not_mem_nil⟩
  | take =>
    cases ha
    exact ⟨Progress.taken_cases .done .ready, fun e he => absurd he List.not_mem_nil⟩
  | @inner _ _ _ parts d _ next hd _ ih =>
    cases ha with
    | splicing hparts =>
      obtain ⟨hnext, hevents⟩ := ih (hparts d hd)
      refine ⟨.splicing (forall_update hparts hnext), fun e he => ?_⟩
      obtain ⟨e', he', rfl⟩ := List.mem_map.1 he
      exact .cons hd (hevents e' he')
  | finish =>
    refine ⟨.done, fun e he => ?_⟩
    obtain rfl := List.mem_singleton.1 he
    exact trivial

theorem Run.enteredWith {o : Outside} {a b : Progress} {events : List Event} {visited : Visited}
    (ha : EnteredWith visited a) (h : Run o a events b) :
    EnteredWith visited b ∧ ∀ e ∈ events, e.Below visited := h.keeps Step.enteredWith ha

/-- The callers of a call under way are a chain. -/
theorem EnteredWith.chain {visited entered : Visited} {c : Progress} {callers : List Caller}
    (h : EnteredWith visited c) (hlive : Live c callers entered) :
    Chain visited callers entered := by
  induction hlive generalizing visited with
  | inner hd _ ih =>
    cases h with
    | splicing hparts => exact .cons hd (ih (hparts _ hd))
  | _ =>
    cases h
    exact .nil

/-! ## No document below itself -/

/-- **What is asked for was not entered**: not with the whole text, not with the transclusion that
asks for it, and no document is asked for twice along a chain of callers. -/
theorem Event.Below.fresh {visited entered : Visited} {callers : List Caller} {targets : List Text}
    (h : (Event.fetch callers entered targets).Below visited) :
    (∀ path ∈ targets, path ∉ visited.toList ∧ path ∉ entered.toList) ∧
      (callers.flatMap Caller.targets ++ targets).Nodup := by
  obtain ⟨hchain, text, rfl⟩ := h
  refine ⟨fun path hpath => ?_, List.nodup_append.2 ⟨hchain.nodup.1, nodup_targets_scan _ _, ?_⟩⟩
  · have hnew := not_mem_of_mem_targets_scan hpath
    exact ⟨fun hmem => hnew (hchain.mem hmem), hnew⟩
  · rintro path hpath _ htarget rfl
    exact not_mem_of_mem_targets_scan htarget (hchain.mem_of_target hpath)

/-! ## The documents of a text, once -/

/-- The documents of the text were asked for. -/
inductive Underway (visited : Visited) (text : Text) : Progress → Prop
  | fetching {files} : Underway visited text (.fetching visited text files)
  | splicing {file parts} : Underway visited text (.splicing visited text file parts)
  | done {out} : Underway visited text (.done out)

/-- If the event asks for documents, it does so for an expansion of the text. -/
def Event.Within (visited : Visited) (text : Text) : Event → Prop
  | .fetch callers _ _ => ∃ d rest, callers = .of visited text d :: rest
  | .splice _ => True

theorem Event.within_below (visited : Visited) (text : Text) (d : Directive) (e : Event) :
    (e.below (.of visited text d)).Within visited text := by
  cases e with
  | fetch callers entered targets => exact ⟨d, callers, rfl⟩
  | splice text => exact trivial

/-- A text whose documents were asked for asks for no more: its expansions do. -/
theorem Step.within {o : Outside} {a b : Progress} {events : List Event} {visited : Visited}
    {text : Text} (ha : Underway visited text a) (h : Step o a events b) :
    Underway visited text b ∧ ∀ e ∈ events, e.Within visited text := by
  cases ha with
  | fetching =>
    cases h with
    | arrive => exact ⟨.fetching, fun e he => absurd he List.not_mem_nil⟩
    | expand => exact ⟨.splicing, fun e he => absurd he List.not_mem_nil⟩
  | splicing =>
    cases h with
    | inner =>
      refine ⟨.splicing, fun e he => ?_⟩
      obtain ⟨e, -, rfl⟩ := List.mem_map.1 he
      exact e.within_below visited text _
    | finish =>
      refine ⟨.done, fun e he => ?_⟩
      obtain rfl := List.mem_singleton.1 he
      exact trivial
  | done => exact absurd h not_step_done

/-- An expansion of a text asks for none of the documents of the text. -/
theorem Event.Below.not_mem_fetched {visited : Visited} {text path : Text} {e : Event}
    (h : e.Below visited) (hwithin : e.Within visited text)
    (hpath : path ∈ (scan visited text).targets) : path ∉ e.fetched := by
  intro hfetched
  cases e with
  | fetch callers entered targets =>
    obtain ⟨d, rest, rfl⟩ := hwithin
    have hnodup := h.fresh.2
    rw [List.flatMap_cons, List.append_assoc] at hnodup
    exact List.disjoint_of_nodup_append hnodup hpath (List.mem_append_right _ hfetched)
  | splice text => exact absurd hfetched List.not_mem_nil

/-- **Every document of a text is asked for once** in a run to its end. -/
theorem Run.count_fetched {o : Outside} {visited : Visited} {text out : Text} {events : List Event}
    (h : Run o (.ready visited text) events (.done out)) {path : Text}
    (hpath : path ∈ openTargets visited text) : (events.flatMap Event.fetched).count path = 1 := by
  have htarget := mem_targets_scan.2 hpath
  have hbelow := (h.enteredWith .ready).2
  cases h with
  | @step _ _ _ _ later hstep hrun =>
    cases hstep with
    | plain hnone =>
      rw [hnone] at htarget
      exact absurd htarget List.not_mem_nil
    | start =>
      have hlater : path ∉ later.flatMap Event.fetched := by
        intro hmem
        obtain ⟨e, he, hfetched⟩ := List.mem_flatMap.1 hmem
        have hnew := (hbelow e (List.mem_append_right _ he)).not_mem_fetched
          ((hrun.keeps Step.within .fetching).2 e he) htarget
        exact hnew hfetched
      rw [List.flatMap_append, List.count_append, List.count_eq_zero.2 hlater,
        List.flatMap_singleton]
      exact List.count_eq_one_of_mem (nodup_targets_scan visited text) htarget

/-! ## No document below itself, in any run -/

/-- **No document is entered below itself**, in any order of steps and whatever is met outside: what
a text is transcluded with is not asked for at any depth; a nested transclusion asks for nothing it
was entered with and nothing that one of its callers asks for; and it is entered with all that its
callers were entered with and the documents they enter.  So a host that transcludes a text notes
none of the documents the text was given with. -/
theorem enters_nothing_twice (visited : Visited) (text : Text) :
    (∀ o events c, Run o (.ready visited text) events c →
      (∀ callers entered targets, Event.fetch callers entered targets ∈ events →
        (∀ path ∈ targets, path ∉ visited.toList ∧ path ∉ entered.toList) ∧
          (callers.flatMap Caller.targets ++ targets).Nodup) ∧
      ∀ callers entered, Live c callers entered → ∀ caller ∈ callers,
        caller.visited.toList ⊆ entered.toList ∧ caller.entered ∈ entered.toList) ∧
    ∀ (σ : Type) (host : Host σ) (asked : σ → List Text), host.Notes asked → ∀ depth s,
      ∃ paths, asked (transclude host depth visited text s).2 = asked s ++ paths ∧
        ∀ path ∈ paths, path ∉ visited.toList := by
  refine ⟨fun o events c hrun => ?_, fun σ host asked hnotes depth s => ?_⟩
  · obtain ⟨hc, hevents⟩ := hrun.enteredWith .ready
    exact ⟨fun callers entered targets he => (hevents _ he).fresh,
      fun callers entered hlive caller hcaller => (hc.chain hlive).mem_of_caller hcaller⟩
  · obtain ⟨c, hfollows⟩ := transclude_run host depth visited text s
    obtain ⟨events, hrun, hasked⟩ := hfollows.run
    refine ⟨_, hasked asked hnotes, fun path hpath => ?_⟩
    obtain ⟨e, he, hfetched⟩ := List.mem_flatMap.1 hpath
    cases e with
    | fetch callers entered targets =>
      exact (((hrun.enteredWith .ready).2 _ he).fresh.1 path hfetched).1
    | splice text => exact absurd hfetched List.not_mem_nil

/-- A document that transcludes itself and another one: both are asked for once. -/
theorem enters_nothing_twice_of_cycle :
    ∃ events c,
      Run (Source.ofDocuments [(lit "/a.md", lit "[+](/a.md)\n[+](/b.md)")]).host.outside
        (.ready .empty (lit "[+](/a.md)")) events c ∧
      events.flatMap Event.fetched = [lit "/a.md", lit "/b.md"] ∧
      (∀ callers entered targets, Event.fetch callers entered targets ∈ events →
        (∀ path ∈ targets, path ∉ Visited.empty.toList ∧ path ∉ entered.toList) ∧
          (callers.flatMap Caller.targets ++ targets).Nodup) ∧
      ∀ callers entered, Live c callers entered → ∀ caller ∈ callers,
        caller.visited.toList ⊆ entered.toList ∧ caller.entered ∈ entered.toList := by
  set source := Source.ofDocuments [(lit "/a.md", lit "[+](/a.md)\n[+](/b.md)")] with hsource
  have hpaths : (transclude source.host 3 .empty (lit "[+](/a.md)") []).2 =
      [lit "/a.md", lit "/b.md"] := by
    rw [hsource]
    decide +kernel
  obtain ⟨c, hfollows⟩ := transclude_run source.host 3 .empty (lit "[+](/a.md)") []
  obtain ⟨events, hrun, hasked⟩ := hfollows.run
  have hfetched := hasked id source.notes_host
  rw [id_eq, hpaths] at hfetched
  obtain ⟨hevents, hlive⟩ := (enters_nothing_twice .empty (lit "[+](/a.md)")).1 _ events c hrun
  exact ⟨events, c, hrun, hfetched.symm, hevents, hlive⟩

end WikiPress.Snippet
