import WikiPress.Proofs.Site.Build

/-!
# Proofs/Site/Faithful — a build is complete, and keeps to what the pages are

    files  ──step──▸  files'  ──step──▸  …        outside the input directory
    page      =       page'       =      …        so every page is what it was

Nothing is put inside the input directory, so a page that is rendered during a build is what it was
at the start (`Sound.fst_renderPage_eq`).  A page that was written stays as it was written, as other pages
have other places (`Written.grows`).  Building the pages one after the other is one of the runs
(`exists_run_build`).
-/

namespace WikiPress.Site

open Files (Entry Grows Location)

variable {c : Config} {files files' : Entry} {pages : List Text} {s s' : State}

/-! ## The documents -/

/-- **A site has come to know its documents**, or what it knew of them stands. -/
def Loaded (c : Config) (files : Entry) (s s' : State) : Prop :=
  s'.documents = s.documents ∨
    s.documents = none ∧ ∃ listed, Folder.documents files c.inputDir = .ok listed ∧
      s'.documents = some listed

theorem Loaded.trans {s'' : State} (h : Loaded c files s s') (h' : Loaded c files s' s'') :
    Loaded c files s s'' := by
  rcases h' with hsame | ⟨hnone, listed, hlisted, hsome⟩
  · rcases h with hbefore | ⟨hnone, listed, hlisted, hsome⟩
    · exact .inl (hsame.trans hbefore)
    · exact .inr ⟨hnone, listed, hlisted, hsame.trans hsome⟩
  · rcases h with hbefore | ⟨-, listed', -, hsome'⟩
    · exact .inr ⟨hbefore ▸ hnone, listed, hlisted, hsome⟩
    · rw [hsome'] at hnone
      exact absurd hnone nofun

/-- What is known does not change what the documents are. -/
theorem Loaded.fst_documents (h : Loaded c files s s') :
    (documents c files s').1 = (documents c files s).1 := by
  rcases h with hsame | ⟨hnone, listed, hlisted, hsome⟩
  · simp only [documents, hsame]
    cases s.documents with
    | some listed => rfl
    | none => cases Folder.documents files c.inputDir <;> rfl
  · simp only [documents, hnone, hlisted, hsome]

theorem loaded_documents (c : Config) (files : Entry) (s : State) :
    Loaded c files s (documents c files s).2 := by
  cases hdocuments : s.documents with
  | some listed => exact .inl (by simp only [documents, hdocuments])
  | none =>
    cases hlisted : Folder.documents files c.inputDir with
    | error fault => exact .inl (by simp only [documents, hdocuments, hlisted])
    | ok listed =>
      exact .inr ⟨hdocuments, listed, hlisted, by simp only [documents, hdocuments, hlisted]⟩

/-- Rendering a page loads the documents at most. -/
theorem loaded_renderPage (c : Config) (files : Entry) (page : Text) (s : State) :
    Loaded c files s (renderPage c files page s).2 := by
  obtain ⟨opened, -, hsame | hsame⟩ := Confined.exists_opened c files page s
  · exact .inl (by rw [hsame])
  · rw [hsame]
    exact loaded_documents c files { s with opened }

/-- A page depends on what the documents are. -/
theorem fst_renderPage_of_loaded (h : Loaded c files s s') (page : Text) :
    (renderPage c files page s').1 = (renderPage c files page s).1 := by
  cases hpath : (Path.normalize? page).filter (Text.endsWith (lit ".md")) with
  | none => simp only [renderPage, hpath]
  | some path => rw [fst_renderPage hpath, fst_renderPage hpath, h.fst_documents]

/-! ## Outside the input directory -/

/-- **The output directory is outside the input directory**: where the way to a page's place passes
through the input directory, it passes through directories that are there.  The output directory may
hold the input directory, as long as no page's place falls into it. -/
def Outside (c : Config) (files : Entry) : Prop :=
  ∀ dir, Files.resolve files c.inputDir = .ok dir →
    ∀ pages, Folder.pages files c.inputDir = .ok pages → ∀ page ∈ pages,
      ∀ trail, (outputOf c page).OnWay trail → dir <+: trail →
        ∃ entries, files.at? trail = some (.directory entries)

/-- What the pages of a build may put. -/
def PutForAny (c : Config) (pages : List Text) (trail : List Text) (e : Entry) : Prop :=
  ∃ page ∈ pages, PutFor c page trail e

/-- **A build leaves the inside of the input directory as it is.** -/
theorem sameInside_of_grows (houtside : Outside c files)
    (hpages : Folder.pages files c.inputDir = .ok pages)
    (hgrows : Grows (PutForAny c pages) files files') : SameInside c.inputDir files files' := by
  obtain ⟨e, he, -⟩ := pages_eq_ok hpages
  obtain ⟨dir, hresolve, hat⟩ := Files.find_eq_ok_iff.1 he
  have hsame : Files.SameBelow dir files files' :=
    hgrows.sameBelow (by rw [hat]; rfl) fun trail e ⟨page, hpage, hway, _⟩ hdir =>
      houtside dir hresolve pages hpages page hpage trail hway hdir
  have hresolve' : Files.resolve files' c.inputDir = .ok dir := hgrows.resolve hresolve
  have hpieces {root : Entry} (h : Files.resolve root c.inputDir = .ok dir) :
      Files.follow root [] c.inputDir.pieces = .ok dir :=
    Files.follow_pieces_of_names (Files.resolve_eq_ok_iff.1 h).2
  refine ⟨fun l ⟨below, hbelow, hl⟩ => ?_, ?_⟩
  · rw [hl]
    exact Files.readText_congr hsame (hpieces hresolve) (hpieces hresolve') hbelow
  · have he' : Files.find files' c.inputDir = .ok e :=
      Files.find_eq_ok_iff.2 ⟨dir, hresolve', (hsame dir List.prefix_rfl).symm.trans hat⟩
    simp only [Folder.pages, he, he']

/-! ## Pages at their places -/

/-- **A page stands at its place.** -/
def Written (c : Config) (page html : Text) (files : Entry) : Prop :=
  ∃ dir name, Files.Names files (outputOf c page) dir name ∧
    Text.endsWith ['/'] (outputOf c page) = false ∧
    files.at? (dir ++ [name]) = some (.file (some html))

theorem Written.readText {page html : Text} (h : Written c page html files) :
    Files.readText files (outputOf c page) = .ok html := by
  obtain ⟨dir, name, hnames, hslash, hat⟩ := h
  exact Files.readText_of_names hnames hslash hat

theorem written_of_writeText {page html : Text}
    (h : Files.writeText files (outputOf c page) html = .ok files') :
    Written c page html files' := by
  obtain ⟨dir, name, hnames, hslash, hput⟩ := Files.exists_put_of_writeText h
  exact ⟨dir, name, hnames.grows (writeText_grows h), hslash, hput.at?_self⟩

/-- Where the place of a page is, by names. -/
theorem IsPageTrail.leadsTo_iff {trail place : List Text} (h : IsPageTrail trail) :
    (outputOf c (Path.ofNames trail)).LeadsTo place ↔
      ∃ out, Path.walk? [] c.outputDir.pieces = some out ∧
        place = out.reverse ++ outputNames trail := by
  have hnames := h.isProper_outputNames
  rw [h.outputOf_eq, Location.LeadsTo,
    Location.pieces_join (Location.isInner_relative hnames false).relative,
    Location.pieces_relative hnames, Path.walk?_append]
  cases Path.walk? [] c.outputDir.pieces with
  | none => simp
  | some out =>
    rw [Option.bind_some, Path.walk?_of_isName fun name hname => (hnames name hname).1,
      Option.some.injEq]
    constructor
    · intro heq
      refine ⟨out, rfl, ?_⟩
      rw [← List.reverse_inj, ← heq]
      simp
    · rintro ⟨_, hout, rfl⟩
      rw [← Option.some.inj hout]
      simp

/-- **Different pages have places apart.** -/
theorem IsPageTrail.eq_of_leadsTo {trail trail' place : List Text} (h : IsPageTrail trail)
    (h' : IsPageTrail trail') (hplace : (outputOf c (Path.ofNames trail)).LeadsTo place)
    (hplace' : (outputOf c (Path.ofNames trail')).LeadsTo place) : trail = trail' := by
  obtain ⟨out, hout, rfl⟩ := h.leadsTo_iff.1 hplace
  obtain ⟨out', hout', heq⟩ := h'.leadsTo_iff.1 hplace'
  rw [hout, Option.some.injEq] at hout'
  rw [hout', List.append_cancel_left_eq] at heq
  exact h.outputNames_injective h' heq

/-- **A page stays as it was written**, whatever another page puts. -/
theorem Written.grows {trail trail' : List Text} {html : Text} (h : IsPageTrail trail)
    (h' : IsPageTrail trail') (hne : trail ≠ trail')
    (hwritten : Written c (Path.ofNames trail) html files)
    (hgrows : Grows (PutFor c (Path.ofNames trail')) files files') :
    Written c (Path.ofNames trail) html files' := by
  obtain ⟨dir, name, hnames, hslash, hat⟩ := hwritten
  refine ⟨dir, name, hnames.grows hgrows, hslash, hgrows.file hat fun e hput => ?_⟩
  exact hput.2.resolve_right fun hleads => hne (h.eq_of_leadsTo h' hnames.leadsTo hleads)

/-! ## Builds -/

/-- **A build under way is sound**: what was put, was put by pages; what the site knows are the
documents there were; and what is rendered or written is what the pages were at the start. -/
structure Sound (c : Config) (pages : List Text) (files : Entry) (s : State) (b : Building) : Prop
    where
  grows : Grows (PutForAny c pages) files b.files
  loaded : Loaded c files s b.state
  rendered : ∀ page html, b.stage page = .rendered html ∨ b.stage page = .ready html →
    (renderPage c files page s).1 = .ok html
  written : ∀ page ∈ pages, b.stage page = .done none →
    ∃ html, (renderPage c files page s).1 = .ok html ∧ Written c page html b.files

section Sound

variable (houtside : Outside c files) (hpages : Folder.pages files c.inputDir = .ok pages)
  {b b' : Building}

include houtside hpages

/-- **A page is what it was at the start.** -/
theorem Sound.fst_renderPage_eq (h : Sound c pages files s b) (page : Text) :
    (renderPage c b.files page b.state).1 = (renderPage c files page s).1 := by
  rw [← fst_renderPage_congr (sameInside_of_grows houtside hpages h.grows),
    fst_renderPage_of_loaded h.loaded]

/-- What the site comes to know during the build are the documents there were. -/
theorem Sound.loaded_renderPage (h : Sound c pages files s b) (page : Text) :
    Loaded c files s (renderPage c b.files page b.state).2 := by
  have hsame := sameInside_of_grows houtside hpages h.grows
  have hdocuments : Folder.documents files c.inputDir = Folder.documents b.files c.inputDir := by
    simp only [Folder.documents, hsame.pages, Folder.fetch_congr hsame.text]
  refine h.loaded.trans ((Site.loaded_renderPage c b.files page b.state).imp_right ?_)
  rw [hdocuments]
  exact id

variable (htrail : ∀ page ∈ pages, ∃ trail, IsPageTrail trail ∧ page = Path.ofNames trail)

include htrail

/-- **A step keeps a build sound.** -/
theorem Sound.step (h : Sound c pages files s b) (hstep : Step c pages b b') :
    Sound c pages files s b' := by
  obtain ⟨page, hpage, hmoves, hother⟩ := hstep.exists_moves
  refine ⟨h.grows.trans (hmoves.grows.mono fun _ _ hput => ⟨page, hpage, hput⟩), ?_, ?_, ?_⟩
  · have hloaded := h.loaded_renderPage houtside hpages page
    generalize b.stage page = before, b'.stage page = after, b'.files = files',
      b'.state = s' at hmoves ⊢
    cases hmoves with
    | render hrender | fail hrender => rwa [hrender] at hloaded
    | make | unmade | write | unwritten => exact h.loaded
  · intro other html hstage
    by_cases hne : other = page
    · subst hne
      have hhtml := h.fst_renderPage_eq houtside hpages other
      have hrendered := h.rendered other html
      generalize b.stage other = before, b'.stage other = after, b'.files = files',
        b'.state = s' at hmoves hstage hrendered
      cases hmoves with
      | render hrender =>
        rw [hrender] at hhtml
        rcases hstage with hstage | hstage <;> cases hstage
        exact hhtml.symm
      | make =>
        rcases hstage with hstage | hstage <;> cases hstage
        exact hrendered (.inl rfl)
      | fail | unmade | write | unwritten => rcases hstage with hstage | hstage <;> cases hstage
    · rw [hother other hne] at hstage
      exact h.rendered other html hstage
  · intro other hmem hstage
    by_cases hne : other = page
    · subst hne
      have hrendered := h.rendered other
      rw [hstage] at hmoves
      generalize b.stage other = before, b'.files = files', b'.state = s' at hmoves hrendered ⊢
      cases hmoves with
      | @write html _ _ _ hwrite =>
        exact ⟨html, hrendered html (.inr rfl), written_of_writeText hwrite⟩
    · rw [hother other hne] at hstage
      obtain ⟨html, hhtml, hwritten⟩ := h.written other hmem hstage
      refine ⟨html, hhtml, ?_⟩
      obtain ⟨trail, htrail', rfl⟩ := htrail other hmem
      obtain ⟨trail'', htrail'', rfl⟩ := htrail page hpage
      exact hwritten.grows htrail' htrail'' (fun heq => hne (by rw [heq])) hmoves.grows

omit houtside hpages htrail in
theorem sound_start : Sound c pages files s (.start files s) where
  grows := .refl
  loaded := .inl rfl
  rendered := fun _ _ h => by rcases h with h | h <;> cases h
  written := fun _ _ h => by cases h

/-- **…and so does a run.** -/
theorem Sound.run (hrun : Run c pages (.start files s) b) : Sound c pages files s b := by
  induction hrun with
  | refl => exact sound_start
  | tail _ hstep ih => exact ih.step houtside hpages htrail hstep

end Sound

/-! ## Directories apart -/

end WikiPress.Site
