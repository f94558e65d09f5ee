import WikiPress.Proofs.Snippet.Scan
import Mathlib.Logic.Function.Basic

/-!
# Proofs/Snippet/Progress — a transclusion while it is under way

    ready ──▸ fetching ──▸ splicing ──▸ done
                           │      ▴
                           ▾      │
                 waiting ──▸ ready ──▸ … ──▸ done        one for each directive

A host runs a transclusion in one order.  What a text turns into does not ask for that order: its
documents may arrive one after the other in any order, and the expansions of its directives advance
independently of each other.  Here a transclusion is a state that advances in single steps, any of
those that are possible, where the outside may answer in several ways.  Every step that asks for
documents, or puts a text together, is an event.
-/

namespace WikiPress.Snippet

/-! ## States and events -/

/-- What a transclusion meets outside: the answers a fetch may have, the values of scripts and the
slices that may be chosen. -/
structure Outside where
  answers : Text → Fetched → Prop
  evaluate : Text → Script.Scope → Except Script.Fault Text
  picks : Nat → Nat → Prop

/-- **A transclusion under way.** -/
inductive Progress where
  /-- Nothing was done for the text yet. -/
  | ready (visited : Visited) (text : Text)
  /-- The documents of the text were asked for; some may have arrived. -/
  | fetching (visited : Visited) (text : Text) (files : Text → Option Fetched)
  /-- An expansion has its document and is about to take its snippet. -/
  | waiting (visited : Visited) (d : Directive) (file : Fetched)
  /-- The documents are there, and each directive of the text has an expansion under way. -/
  | splicing (visited : Visited) (text : Text) (file : Text → Fetched)
      (parts : Directive → Progress)
  /-- The transclusion has its result. -/
  | done (out : Text)

/-- A transclusion in which another one is nested: the documents it was entered with and those it
asks for, among them the one it enters for the nested one. -/
structure Caller where
  visited : Visited
  targets : List Text
  entered : Text

/-- What can be seen of a step. -/
inductive Event where
  /-- Documents are asked for by the innermost transclusion of a chain, the outermost caller
  first. -/
  | fetch (callers : List Caller) (visited : Visited) (targets : List Text)
  /-- All expansions are in the place of their directives. -/
  | splice (text : Text)

namespace Event

/-- What is seen of an event of a nested transclusion. -/
def below (caller : Caller) : Event → Event
  | fetch callers visited targets => fetch (caller :: callers) visited targets
  | splice text => splice text

/-- The documents that are asked for. -/
def fetched : Event → List Text
  | fetch _ _ targets => targets
  | splice _ => []

@[simp] theorem fetched_below (caller : Caller) (e : Event) :
    (e.below caller).fetched = e.fetched := by
  cases e <;> rfl

theorem flatMap_fetched_below (caller : Caller) (events : List Event) :
    (events.map (below caller)).flatMap fetched = events.flatMap fetched := by
  rw [List.flatMap_map]
  exact congrArg (events.flatMap ·) (funext (fetched_below caller))

end Event

/-! ## Steps -/

/-- The snippet a directive may take, where `choose` chooses the slice. -/
def Outside.snippet (o : Outside) (choose : Nat → Nat) (d : Directive) (file : Fetched) : Text :=
  (Snippet.snippet (m := Id) choose d (content o.evaluate d.target file)).run

/-- An expansion that has its snippet. -/
def Progress.taken (visited : Visited) (d : Directive) (snippet : Text) : Progress :=
  if snippet.isEmpty then .done (underHeading d snippet)
  else .ready visited (underHeading d snippet)

/-- The text with the results of its expansions in place. -/
def Progress.assembled (visited : Visited) (text : Text) (file : Text → Fetched)
    (outs : Directive → Text) : Text :=
  (scan visited text).spliced fun d => shown (file d.target).isError (outs d)

/-- The transclusion of a text as the caller of the expansion of one of its directives. -/
def Caller.of (visited : Visited) (text : Text) (d : Directive) : Caller :=
  ⟨visited, (scan visited text).targets, d.target⟩

open Progress in
/-- **A step of a transclusion.** -/
inductive Step (o : Outside) : Progress → List Event → Progress → Prop
  | plain {visited text} (h : (scan visited text).targets = []) :
      Step o (ready visited text) [] (done (Text.join ['\n'] (scan visited text).lines))
  | start {visited text} (h : (scan visited text).targets ≠ []) :
      Step o (ready visited text) [.fetch [] visited (scan visited text).targets]
        (fetching visited text fun _ => none)
  | arrive {visited text files path file} (hpath : path ∈ (scan visited text).targets)
      (hnew : files path = none) (h : o.answers path file) :
      Step o (fetching visited text files) []
        (fetching visited text (Function.update files path (some file)))
  | expand {visited text files} {file : Text → Fetched}
      (h : ∀ path ∈ (scan visited text).targets, files path = some (file path)) :
      Step o (fetching visited text files) []
        (splicing visited text file fun d =>
          waiting (visited.entering text) d (file d.target))
  | take {visited d file} {choose : Nat → Nat} (h : ∀ count, o.picks count (choose count)) :
      Step o (waiting visited d file) [] (taken visited d (o.snippet choose d file))
  | inner {visited text file parts d events next} (hd : d ∈ (scan visited text).directives)
      (h : Step o (parts d) events next) :
      Step o (splicing visited text file parts) (events.map (Event.below (.of visited text d)))
        (splicing visited text file (Function.update parts d next))
  | finish {visited text file parts} {outs : Directive → Text}
      (h : ∀ d ∈ (scan visited text).directives, parts d = done (outs d)) :
      Step o (splicing visited text file parts) [.splice (assembled visited text file outs)]
        (done (Text.trim (assembled visited text file outs)))

/-- **A run**: steps one after the other, and what was seen of them. -/
inductive Run (o : Outside) : Progress → List Event → Progress → Prop
  | refl {c} : Run o c [] c
  | step {a b c events later} (h : Step o a events b) (run : Run o b later c) :
      Run o a (events ++ later) c

section Run

variable {o : Outside} {a b c : Progress} {events later : List Event}

theorem Run.single (h : Step o a events b) : Run o a events b := by
  have hrun := Run.step h .refl
  rwa [List.append_nil] at hrun

theorem Run.trans (h : Run o a events b) (h' : Run o b later c) : Run o a (events ++ later) c := by
  induction h with
  | refl => exact h'
  | step hstep _ ih =>
    rw [List.append_assoc]
    exact .step hstep (ih h')

/-- **What every step keeps and shows, a run keeps and shows.** -/
theorem Run.keeps {P : Progress → Prop} {Q : Event → Prop}
    (hstep : ∀ {a events b}, P a → Step o a events b → P b ∧ ∀ e ∈ events, Q e)
    (h : Run o a events b) (ha : P a) : P b ∧ ∀ e ∈ events, Q e := by
  induction h with
  | refl => exact ⟨ha, fun e he => absurd he List.not_mem_nil⟩
  | step h _ ih =>
    obtain ⟨hb, hevents⟩ := hstep ha h
    obtain ⟨hc, hlater⟩ := ih hb
    exact ⟨hc, fun e he => (List.mem_append.1 he).elim (hevents e) (hlater e)⟩

/-- A run of one expansion, among the others. -/
theorem Run.inner {visited : Visited} {text : Text} {file : Text → Fetched}
    {parts : Directive → Progress} {d : Directive} {next : Progress}
    (hd : d ∈ (scan visited text).directives) (h : Run o (parts d) events next) :
    Run o (.splicing visited text file parts)
      (events.map (Event.below (.of visited text d)))
      (.splicing visited text file (Function.update parts d next)) := by
  generalize hpart : parts d = part at h
  induction h generalizing parts with
  | refl =>
    rw [← hpart, Function.update_eq_self]
    exact .refl
  | @step _ b _ _ _ hstep _ ih =>
    subst hpart
    have hrest := @ih (Function.update parts d b) (Function.update_self d b parts)
    rw [Function.update_idem] at hrest
    rw [List.map_append]
    exact .step (.inner hd hstep) hrest

/-- A transclusion that has its result does nothing more. -/
theorem not_step_done {out : Text} : ¬ Step o (.done out) events c := nofun

theorem Run.of_done {out : Text} (h : Run o (.done out) events c) :
    events = [] ∧ c = .done out := by
  cases h with
  | refl => exact ⟨rfl, rfl⟩
  | step hstep _ => exact absurd hstep not_step_done

end Run

/-! ## What the steps change -/

/-- What holds of every expansion still does when it holds of the one that advanced. -/
theorem forall_update {P : Progress → Prop} {ds : List Directive} {parts : Directive → Progress}
    {d : Directive} {next : Progress} (hparts : ∀ e ∈ ds, P (parts e)) (hnext : P next) :
    ∀ e ∈ ds, P (Function.update parts d next e) := by
  intro e he
  rw [Function.update_apply]
  split
  · exact hnext
  · exact hparts e he

/-- What holds of every document that arrived still does when it holds of the new one. -/
theorem forall_arrived {P : Text → Fetched → Prop} {files : Text → Option Fetched} {path : Text}
    {file : Fetched} (hfiles : ∀ p f, files p = some f → P p f) (hfile : P path file) :
    ∀ p f, Function.update files path (some file) p = some f → P p f := by
  intro p f h
  rw [Function.update_apply] at h
  split at h
  · next heq =>
    obtain rfl := Option.some.inj h
    exact heq ▸ hfile
  · exact hfiles p f h

/-- An expansion with its snippet has a result if the snippet is empty, and is a text otherwise. -/
theorem Progress.taken_cases {P : Progress → Prop} {visited : Visited} {d : Directive}
    {snippet : Text} (hdone : P (.done (underHeading d [])))
    (hready : P (.ready visited (underHeading d snippet))) : P (.taken visited d snippet) := by
  rw [taken]
  split
  · next hempty =>
    rw [List.isEmpty_iff.1 hempty]
    exact hdone
  · exact hready

/-! ## Calls under way -/

/-- **A call under way**, below its callers, and the documents it was entered with. -/
inductive Live : Progress → List Caller → Visited → Prop
  | ready {visited text} : Live (.ready visited text) [] visited
  | fetching {visited text files} : Live (.fetching visited text files) [] visited
  | splicing {visited text file parts} : Live (.splicing visited text file parts) [] visited
  | inner {visited text file parts d callers entered} (hd : d ∈ (scan visited text).directives)
      (h : Live (parts d) callers entered) :
      Live (.splicing visited text file parts) (.of visited text d :: callers) entered

/-- Calls are nested in each other to this depth. -/
def Progress.Reaches (depth : Nat) (c : Progress) : Prop :=
  ∃ callers entered, Live c callers entered ∧ depth ≤ callers.length

theorem Progress.Reaches.inner {depth : Nat} {visited : Visited} {text : Text}
    {file : Text → Fetched} {parts : Directive → Progress} {d : Directive}
    (hd : d ∈ (scan visited text).directives) (h : (parts d).Reaches depth) :
    (Progress.splicing visited text file parts).Reaches (depth + 1) := by
  obtain ⟨callers, entered, hlive, hdepth⟩ := h
  exact ⟨_, entered, .inner hd hlive, Nat.succ_le_succ hdepth⟩

end WikiPress.Snippet
