import WikiPress.Proofs.Snippet.Demote
import WikiPress.Proofs.Snippet.Schedule
import Mathlib.Data.Finset.Card

/-!
# Proofs/Snippet/Depth — a transclusion comes to an end

Let finitely many documents be served, whatever they hold, and any other be answered with the
message that it is missing.  Entering a served document leaves one served document fewer to enter,
and the message holds no directive, below a heading or not (`targets_missing`).  So calls nest no
deeper than the served documents that were not entered at the start, and two more (`Bounded`), and
no order of steps goes on for ever (`Bounded.acc`).
-/

namespace WikiPress.Snippet

/-! ## Missing documents -/

/-- The message in place of a document that is not served. -/
def Missing (file : Fetched) : Prop := file.isError = true ∧ file.data = lit "404 Not Found"

/-- **Only these documents are served**; any other is answered with the message. -/
def Outside.Serves (o : Outside) (served : Finset Text) : Prop :=
  ∀ path file, path ∉ served → o.answers path file → Missing file

theorem content_missing {file : Fetched} (h : Missing file)
    (evaluate : Text → Script.Scope → Except Script.Fault Text) (path : Text) :
    content evaluate path file = lit "404 Not Found" :=
  inert_notFound.content_eq evaluate path h.1 h.2

/-- The message has no placeholders and no slices. -/
theorem snippet_missing {o : Outside} {file : Fetched} (h : Missing file) (choose : Nat → Nat)
    (d : Directive) : o.snippet choose d file = lit "404 Not Found" := by
  rw [Outside.snippet, content_missing h]
  exact inert_notFound.snippet_eq choose d

/-- **The message enters nothing**, below a heading or not. -/
theorem targets_missing (visited : Visited) {d : Directive} (hd : '\n' ∉ d.target) :
    (scan visited (underHeading d (lit "404 Not Found"))).targets = [] :=
  inert_notFound.targets visited hd

/-! ## How deep calls are nested -/

/-- The number of served documents that were not entered. -/
def unentered (served : Finset Text) (visited : Visited) : Nat :=
  (served \ visited.toList.toFinset).card

/-- **Entering a served document leaves fewer to enter.** -/
theorem unentered_entering_lt {served : Finset Text} {visited : Visited} {text path : Text}
    (hserved : path ∈ served) (hpath : path ∈ (scan visited text).targets) :
    unentered served (visited.entering text) < unentered served visited := by
  refine Finset.card_lt_card (Finset.ssubset_iff_of_subset ?_ |>.2 ⟨path, ?_, ?_⟩)
  · refine Finset.sdiff_subset_sdiff Finset.Subset.rfl fun q hq => ?_
    rw [List.mem_toFinset] at hq ⊢
    exact Visited.mem_entering.2 (.inl hq)
  · rw [Finset.mem_sdiff, List.mem_toFinset]
    exact ⟨hserved, not_mem_of_mem_targets_scan hpath⟩
  · rw [Finset.mem_sdiff, List.mem_toFinset, not_and_not_right]
    exact fun _ => Visited.mem_entering.2 (.inr hpath)

/-- **Calls nest at most this deep** from here on: a call that may enter documents leaves room for
those that are served and not entered yet, and for two more. -/
inductive Bounded (o : Outside) (served : Finset Text) : Nat → Progress → Prop
  | ready {depth visited text}
      (h : unentered served visited + 2 ≤ depth ∨
        1 ≤ depth ∧ (scan visited text).targets = []) :
      Bounded o served depth (.ready visited text)
  | fetching {depth visited text files} (h : unentered served visited + 2 ≤ depth)
      (hfiles : ∀ path file, files path = some file → o.answers path file) :
      Bounded o served depth (.fetching visited text files)
  | waiting {depth visited d file}
      (h : unentered served visited + 2 ≤ depth ∨ 1 ≤ depth ∧ Missing file ∧ '\n' ∉ d.target) :
      Bounded o served depth (.waiting visited d file)
  | splicing {depth visited text file parts}
      (h : ∀ d ∈ (scan visited text).directives, Bounded o served depth (parts d)) :
      Bounded o served (depth + 1) (.splicing visited text file parts)
  | done {depth out} : Bounded o served depth (.done out)

variable {o : Outside} {served : Finset Text}

/-- The bound is one on the calls under way. -/
theorem Bounded.length_lt {depth : Nat} {c : Progress} (h : Bounded o served depth c)
    {callers : List Caller} {entered : Visited} (hlive : Live c callers entered) :
    callers.length + 1 ≤ depth := by
  induction hlive generalizing depth with
  | inner hd _ ih =>
    cases h with
    | splicing hparts => exact Nat.succ_le_succ (ih (hparts _ hd))
  | ready =>
    cases h with
    | ready h => exact h.elim (fun h => by simp only [List.length_nil]; omega) fun h => h.1
  | fetching =>
    cases h with
    | fetching h => simp only [List.length_nil]; omega
  | splicing =>
    cases h with
    | splicing => exact Nat.succ_le_succ (Nat.zero_le _)

/-- The expansions of a text nest one call less deep than the text itself. -/
theorem Bounded.expanded (hserves : o.Serves served) {depth : Nat} {visited : Visited} {text : Text}
    {file : Text → Fetched} (h : unentered served visited + 2 ≤ depth + 1)
    (hfile : ∀ path ∈ (scan visited text).targets, o.answers path (file path))
    {d : Directive} (hd : d ∈ (scan visited text).directives) :
    Bounded o served depth
      (.waiting (visited.entering text) d (file d.target)) := by
  have htarget := target_mem_targets_scan hd
  refine .waiting ?_
  by_cases hmem : d.target ∈ served
  · have hlt := unentered_entering_lt hmem htarget
    exact .inl (by omega)
  · exact .inr ⟨by omega, hserves _ _ hmem (hfile _ htarget),
      Directive.newline_not_mem_target (read?_of_mem_directives_scan hd)⟩

/-- **A step keeps the bound.** -/
theorem Step.bounded (hserves : o.Serves served) {depth : Nat} {a b : Progress}
    {events : List Event} (ha : Bounded o served depth a) (h : Step o a events b) :
    Bounded o served depth b := by
  induction h generalizing depth with
  | plain => exact .done
  | start htargets =>
    cases ha with
    | ready h =>
      have hroom := h.resolve_right fun hnone => htargets hnone.2
      exact .fetching hroom fun _ _ hfile => absurd hfile (by simp)
  | arrive _ _ hanswer =>
    cases ha with
    | fetching h hfiles => exact .fetching h (forall_arrived hfiles hanswer)
  | expand harrived =>
    cases ha with
    | fetching h hfiles =>
      obtain ⟨depth, rfl⟩ : ∃ n, depth = n + 1 := ⟨depth - 1, by omega⟩
      exact .splicing fun d hd => .expanded hserves h
        (fun path hpath => hfiles path _ (harrived path hpath)) hd
  | take =>
    cases ha with
    | waiting h =>
      refine Progress.taken_cases .done
        (.ready (h.imp_right fun ⟨hdepth, hmissing, htarget⟩ => ⟨hdepth, ?_⟩))
      rw [snippet_missing hmissing]
      exact targets_missing _ htarget
  | @inner _ _ _ _ d _ _ hd _ ih =>
    cases ha with
    | splicing hparts =>
      exact .splicing (forall_update hparts (ih (hparts d hd)))
  | finish => exact .done

theorem Run.bounded (hserves : o.Serves served) {depth : Nat} {a b : Progress}
    {events : List Event} (ha : Bounded o served depth a) (h : Run o a events b) :
    Bounded o served depth b :=
  (h.keeps (Q := fun _ => True)
    (fun ha hstep => ⟨hstep.bounded hserves ha, fun _ _ => trivial⟩) ha).1

/-! ## Every order of steps ends -/

/-- The first state is a step further than the second. -/
def Further (o : Outside) (b a : Progress) : Prop := ∃ events, Step o a events b

theorem acc_done (out : Text) : Acc (Further o) (.done out) :=
  ⟨_, fun _ ⟨_, h⟩ => absurd h not_step_done⟩

/-- Values that come to an end each come to an end together, one changing at a time. -/
theorem acc_update {ι α : Type} [DecidableEq ι] {r : α → α → Prop} {s : Finset ι} {f : ι → α}
    (h : ∀ i ∈ s, Acc r (f i)) :
    Acc (fun g' g => ∃ i ∈ s, ∃ a, r a (g i) ∧ g' = Function.update g i a) f := by
  induction s using Finset.induction_on generalizing f with
  | empty => exact ⟨_, fun g ⟨i, hi, _⟩ => absurd hi (Finset.notMem_empty i)⟩
  | insert i s hi ih =>
    have hs := ih fun j hj => h j (Finset.mem_insert_of_mem hj)
    have hvalue := h i (Finset.mem_insert_self i s)
    generalize ha : f i = a at hvalue
    -- The value at `i` first, and for one value of it the others.
    induction hvalue generalizing f with
    | intro a _ ihvalue =>
      induction hs with
      | intro f _ ihs =>
        refine ⟨_, ?_⟩
        rintro g ⟨j, hj, b, hb, rfl⟩
        have hg : ∀ k ∈ insert i s, Acc r (Function.update f j b k) := fun k hk => by
          by_cases heq : k = j
          · rw [heq, Function.update_self]
            exact (h j hj).inv hb
          · rw [Function.update_of_ne heq]
            exact h k hk
        have hgs := ih fun k hk => hg k (Finset.mem_insert_of_mem hk)
        rcases Finset.mem_insert.1 hj with rfl | hj
        · exact ihvalue b (ha ▸ hb) hg hgs (Function.update_self ..)
        · refine ihs _ ⟨j, hj, b, hb, rfl⟩ hg ?_
          rw [Function.update_of_ne (ne_of_mem_of_not_mem hj hi).symm]
          exact ha

/-- A text comes to an end if the expansions of its directives do. -/
theorem acc_splicing {visited : Visited} {text : Text} {file : Text → Fetched}
    {parts : Directive → Progress}
    (h : ∀ d ∈ (scan visited text).directives, Acc (Further o) (parts d)) :
    Acc (Further o) (.splicing visited text file parts) := by
  have hparts := acc_update (s := (scan visited text).directives.toFinset) (f := parts)
    fun d hd => h d (List.mem_toFinset.1 hd)
  clear h
  induction hparts with
  | intro parts _ ih =>
    refine ⟨_, fun b ⟨events, hstep⟩ => ?_⟩
    cases hstep with
    | inner hd hnext => exact ih _ ⟨_, List.mem_toFinset.2 hd, _, ⟨_, hnext⟩, rfl⟩
    | finish => exact acc_done _

/-- The documents that have not arrived. -/
def missing (visited : Visited) (text : Text) (files : Text → Option Fetched) : Finset Text :=
  (scan visited text).targets.toFinset.filter fun path => files path = none

theorem card_missing_update_lt {visited : Visited} {text path : Text}
    {files : Text → Option Fetched} (hpath : path ∈ (scan visited text).targets)
    (hnew : files path = none) (file : Fetched) :
    (missing visited text (Function.update files path (some file))).card <
      (missing visited text files).card := by
  have hsub : missing visited text (Function.update files path (some file)) ⊆
      (missing visited text files).erase path := by
    intro q hq
    rw [missing, Finset.mem_filter] at hq
    have hne : q ≠ path := by
      rintro rfl
      rw [Function.update_self] at hq
      exact absurd hq.2 (by simp)
    rw [Function.update_of_ne hne] at hq
    rw [Finset.mem_erase, missing, Finset.mem_filter]
    exact ⟨hne, hq⟩
  have hmem : path ∈ missing visited text files := by
    rw [missing, Finset.mem_filter, List.mem_toFinset]
    exact ⟨hpath, hnew⟩
  exact (Finset.card_le_card hsub).trans_lt (Finset.card_erase_lt_of_mem hmem)

/-- Fetching ends, as every document arrives once. -/
theorem Bounded.acc_fetching (hserves : o.Serves served) {depth : Nat} {visited : Visited}
    {text : Text} (hsplicing : ∀ file parts,
      Bounded o served depth (.splicing visited text file parts) →
        Acc (Further o) (.splicing visited text file parts))
    {files : Text → Option Fetched} (h : Bounded o served depth (.fetching visited text files)) :
    Acc (Further o) (.fetching visited text files) := by
  induction hn : (missing visited text files).card using Nat.strong_induction_on
    generalizing files with
  | _ n ih =>
    refine ⟨_, fun b ⟨events, hstep⟩ => ?_⟩
    have hb := hstep.bounded hserves h
    cases hstep with
    | @arrive _ _ _ _ file hpath hnew =>
      exact ih _ (hn ▸ card_missing_update_lt hpath hnew file) hb rfl
    | expand => exact hsplicing _ _ hb

/-- A text ends when its fetching does. -/
theorem Bounded.acc_ready (hserves : o.Serves served) {depth : Nat} {visited : Visited}
    {text : Text} (hfetching : ∀ files, Bounded o served depth (.fetching visited text files) →
      Acc (Further o) (.fetching visited text files))
    (h : Bounded o served depth (.ready visited text)) : Acc (Further o) (.ready visited text) := by
  refine ⟨_, fun b ⟨events, hstep⟩ => ?_⟩
  have hb := hstep.bounded hserves h
  cases hstep with
  | plain => exact acc_done _
  | start => exact hfetching _ hb

/-- An expansion ends when the text it is made of does. -/
theorem Bounded.acc_waiting (hserves : o.Serves served) {depth : Nat} {visited : Visited}
    {d : Directive} {file : Fetched} (hready : ∀ text,
      Bounded o served depth (.ready visited text) → Acc (Further o) (.ready visited text))
    (h : Bounded o served depth (.waiting visited d file)) :
    Acc (Further o) (.waiting visited d file) := by
  refine ⟨_, fun b ⟨events, hstep⟩ => ?_⟩
  have hb := hstep.bounded hserves h
  cases hstep with
  | take =>
    rw [Progress.taken] at hb ⊢
    split
    · exact acc_done _
    · next hempty =>
      rw [if_neg hempty] at hb
      exact hready _ hb

/-- **Within a bound, every order of steps ends.** -/
theorem Bounded.acc (hserves : o.Serves served) {depth : Nat} {c : Progress}
    (h : Bounded o served depth c) : Acc (Further o) c := by
  -- The expansions of a text have a smaller bound; within one bound, the states follow each other.
  induction depth using Nat.strong_induction_on generalizing c with
  | _ depth ih =>
    have hsplicing : ∀ visited text file parts,
        Bounded o served depth (.splicing visited text file parts) →
          Acc (Further o) (.splicing visited text file parts) := by
      intro visited text file parts h
      cases h with
      | splicing hparts => exact acc_splicing fun d hd => ih _ (Nat.lt_succ_self _) (hparts d hd)
    have hfetching : ∀ visited text files, Bounded o served depth (.fetching visited text files) →
        Acc (Further o) (.fetching visited text files) := fun visited text files h =>
      h.acc_fetching hserves (hsplicing visited text)
    have hready := fun visited text => Bounded.acc_ready hserves (hfetching visited text)
    cases c with
    | ready visited text => exact hready visited text h
    | fetching visited text files => exact hfetching visited text files h
    | waiting visited d file => exact h.acc_waiting hserves (hready visited)
    | splicing visited text file parts => exact hsplicing visited text file parts h
    | done out => exact acc_done out

/-! ## …and with a result -/

/-- **The outside answers**: every fetch, and every choice of a slice. -/
structure Outside.Total (o : Outside) : Prop where
  answers : ∀ path, ∃ file, o.answers path file
  picks : ∀ count, ∃ index, o.picks count index

/-- A text whose documents were asked for goes on: another one arrives, or all are there. -/
theorem exists_step_fetching (htotal : o.Total) (visited : Visited) (text : Text)
    (files : Text → Option Fetched) : ∃ b, Further o b (.fetching visited text files) := by
  by_cases hall : ∀ path ∈ (scan visited text).targets, files path ≠ none
  · have harrived : ∀ path ∈ (scan visited text).targets,
        files path = some ((files path).getD ⟨path, [], true⟩) := fun path hpath => by
      obtain ⟨file, hfile⟩ := Option.ne_none_iff_exists'.1 (hall path hpath)
      rw [hfile, Option.getD_some]
    exact ⟨_, _, .expand harrived⟩
  · simp only [not_forall, not_not] at hall
    obtain ⟨path, hpath, hnew⟩ := hall
    obtain ⟨file, hfile⟩ := htotal.answers path
    exact ⟨_, _, .arrive hpath hnew hfile⟩

/-- A transclusion without a result goes on. -/
theorem exists_step (htotal : o.Total) (c : Progress) :
    (∃ out, c = .done out) ∨ ∃ b, Further o b c := by
  induction c with
  | ready visited text =>
    by_cases hnone : (scan visited text).targets = []
    · exact .inr ⟨_, _, .plain hnone⟩
    · exact .inr ⟨_, _, .start hnone⟩
  | fetching visited text files => exact .inr (exists_step_fetching htotal visited text files)
  | waiting visited d file =>
    obtain ⟨choose, hchoose⟩ := Classical.axiomOfChoice htotal.picks
    exact .inr ⟨_, _, .take hchoose⟩
  | splicing visited text file parts ih =>
    by_cases hall : ∀ d ∈ (scan visited text).directives, parts d = .done (parts d).result
    · exact .inr ⟨_, _, .finish hall⟩
    · simp only [not_forall] at hall
      obtain ⟨d, hd, hresult⟩ := hall
      rcases ih d with ⟨out, hout⟩ | ⟨b, events, hstep⟩
      · rw [hout] at hresult
        exact absurd rfl hresult
      · exact .inr ⟨_, _, .inner hd hstep⟩
  | done out => exact .inl ⟨out, rfl⟩

/-- …until it has one. -/
theorem exists_run_done (htotal : o.Total) {c : Progress} (h : Acc (Further o) c) :
    ∃ events out, Run o c events (.done out) := by
  induction h with
  | intro c _ ih =>
    rcases exists_step htotal c with ⟨out, rfl⟩ | ⟨b, events, hstep⟩
    · exact ⟨[], out, .refl⟩
    · obtain ⟨later, out, hrun⟩ := ih b ⟨events, hstep⟩
      exact ⟨_, out, .step hstep hrun⟩

/-- **A transclusion terminates**, whatever the served documents hold.  In every order of steps,
calls are nested no deeper than the served documents that were not entered at the start, and two
more; no order of steps goes on for ever, and if all that is asked for is answered, each leads to a
result.  So a host finds a result at that depth and at every greater one. -/
theorem transclusion_terminates (served : Finset Text) (visited : Visited) (text : Text) :
    (∀ o : Outside, o.Serves served →
      (∀ events c, Run o (.ready visited text) events c → ∀ callers entered,
        Live c callers entered →
          callers.length + 1 ≤ (served \ visited.toList.toFinset).card + 2) ∧
      Acc (Further o) (.ready visited text) ∧
      (o.Total → ∀ events c, Run o (.ready visited text) events c →
        ∃ later out, Run o c later (.done out))) ∧
    ∀ (σ : Type) (host : Host σ), host.outside.Serves served →
      ∀ depth, (served \ visited.toList.toFinset).card + 2 ≤ depth →
        ∀ s, ∃ out, (transclude host depth visited text s).1 = some out := by
  have hbounded (o : Outside) :
      Bounded o served (unentered served visited + 2) (.ready visited text) :=
    .ready (.inl le_rfl)
  refine ⟨fun o hserves => ⟨fun events c hrun callers entered hlive => ?_, ?_,
    fun htotal events c hrun => ?_⟩, fun σ host hserves depth hdepth s => ?_⟩
  · exact (hrun.bounded hserves (hbounded o)).length_lt hlive
  · exact (hbounded o).acc hserves
  · exact exists_run_done htotal ((hrun.bounded hserves (hbounded o)).acc hserves)
  · obtain ⟨c, hfollows⟩ := transclude_run host depth visited text s
    obtain ⟨events, hrun, -⟩ := hfollows.run
    refine Option.ne_none_iff_exists'.1 fun hnone => ?_
    obtain ⟨callers, entered, hlive, hlength⟩ := hfollows.deep hnone
    have hlt := (hrun.bounded hserves (hbounded host.outside)).length_lt hlive
    rw [unentered] at hlt
    omega

/-- A document that transcludes itself and a missing one is served alone. -/
theorem transclusion_terminates_of_cycle :
    ∃ source : Source, source.outside.Serves {lit "/a.md"} ∧ source.outside.Total ∧
      Acc (Further source.outside) (.ready .empty (lit "[+](/a.md)")) ∧
      (∃ events out, Run source.outside (.ready .empty (lit "[+](/a.md)")) events (.done out)) ∧
      ∃ out, (transclude source.host 3 .empty (lit "[+](/a.md)") []).1 = some out := by
  set source := Source.ofDocuments [(lit "/a.md", lit "[+](/a.md)\n## [+](/b.md)")] with hsource
  have hserves : source.outside.Serves {lit "/a.md"} := by
    rintro path file hpath rfl
    have hlookup : [(lit "/a.md", lit "[+](/a.md)\n## [+](/b.md)")].lookup path = none :=
      lookup_eq_none (by simpa using hpath)
    rw [hsource]
    simp only [Source.ofDocuments, hlookup]
    exact ⟨rfl, rfl⟩
  have htotal : source.outside.Total := ⟨fun path => ⟨_, rfl⟩, fun count => ⟨_, rfl⟩⟩
  obtain ⟨horders, hhosts⟩ :=
    transclusion_terminates {lit "/a.md"} .empty (lit "[+](/a.md)")
  obtain ⟨-, hacc, hends⟩ := horders source.outside hserves
  refine ⟨source, hserves, htotal, hacc, hends htotal [] _ .refl, ?_⟩
  exact hhosts _ source.host (source.outside_host ▸ hserves) 3 (by decide) []

end WikiPress.Snippet
