import WikiPress.Proofs.Site.Source

/-!
# Proofs/Site/Confinement — nothing outside the input directory is read

    page, text, parameters, scripts ──▸ path ──locate──▸ inside the root, or nowhere

Every fetch of a transclusion goes through `locate?`, so whatever texts its paths are made of, what
it opens lies inside the root (`Confined`, kept by every order of steps).  The answer does not tell
two trees of files apart that hold the same there (`fst_renderPage_congr`), and a path that climbs
above the root is refused before any file is looked at.
-/

namespace WikiPress.Site

open Files (Entry Location)
open Snippet (Cache)

variable {c : Config} {files files' : Entry}

/-- Loading the documents is no business of a page. -/
theorem opened_documents (c : Config) (files : Entry) (s : State) : (documents c files s).2.opened = s.opened := by
  simp only [documents]
  cases s.documents with
  | some listed => rfl
  | none => cases Folder.documents files c.inputDir <;> rfl

/-! ## What is opened -/

/-- **All that was opened since lies inside the root.** -/
def Confined (root : Location) (before after : List Location) : Prop :=
  ∃ opened, after = opened ++ before ∧ ∀ l ∈ opened, root.Within l

namespace Confined

variable {root : Location} {before between after : List Location}

theorem refl (root : Location) (before : List Location) : Confined root before before :=
  ⟨[], rfl, fun _ hl => absurd hl List.not_mem_nil⟩

theorem trans (h : Confined root before between) (h' : Confined root between after) :
    Confined root before after := by
  obtain ⟨first, rfl, hfirst⟩ := h
  obtain ⟨later, rfl, hlater⟩ := h'
  exact ⟨later ++ first, (List.append_assoc ..).symm, List.forall_mem_append.2 ⟨hlater, hfirst⟩⟩

variable (c : Config) (files : Entry)

theorem fetchNoting (path : Text) (opened : List Location) :
    Confined c.inputDir opened (Site.fetchNoting c files path opened).2 := by
  simp only [Site.fetchNoting]
  split
  · next l hlocate =>
    exact ⟨[l], rfl, List.forall_mem_singleton.2 (Folder.within_of_locate? hlocate)⟩
  · exact .refl _ _

/-- **A fetch opens a location inside the root, or none.** -/
theorem fetch (path : Text) (s : Cache × List Location) :
    Confined c.inputDir s.2 ((host c files).cached.fetch path s).2.2 := by
  obtain ⟨cache, opened⟩ := s
  have hcached : (host c files).cached.fetch path =
      Snippet.cachedFetch (Site.fetchNoting c files) path := rfl
  cases hlookup : cache.lookup path with
  | some file =>
    rw [hcached, Snippet.cachedFetch_of_mem hlookup]
    exact .refl _ _
  | none =>
    rw [hcached, Snippet.cachedFetch_of_not_mem hlookup]
    exact fetchNoting c files path opened

/-- …and so does every step of a transclusion, as it changes the state by fetching only. -/
theorem alike (before : List Location) : (host c files).cached.Alike (fun _ => True)
    (fun s t => s = t ∧ Confined c.inputDir before s.2) (host c files).cached where
  evaluate := rfl
  fetch := fun path => ⟨fun _ _ => trivial, fun s _ ⟨heq, h⟩ _ => by
    subst heq
    exact ⟨rfl, rfl, h.trans (fetch c files path s)⟩⟩
  pick := fun _ => ⟨fun _ _ => trivial, fun _ _ ⟨heq, h⟩ _ => by
    subst heq
    exact ⟨rfl, rfl, h⟩⟩

variable {c files}

/-- **A transclusion opens locations inside the root**, in any order of its steps and at any moment, -/
theorem interleaves {a b : Snippet.Progress} {s s' : Cache × List Location}
    (h : (host c files).cached.Interleaves a s b s') : Confined c.inputDir s.2 s'.2 := by
  obtain ⟨-, -, -, hconfined⟩ := (alike c files s.2).interleaves h ⟨rfl, .refl _ _⟩ trivial
  exact hconfined

variable (c files)

/-- …in particular when a document is resolved, -/
theorem resolved (d : Document) (s : Cache × List Location) :
    Confined c.inputDir s.2 (Site.resolved c files d s).2.2 := by
  have htransclude := ((alike c files s.2).transclude (depth files)
    (Snippet.Visited.empty.insert d.path) d.body).same s s ⟨rfl, .refl c.inputDir _⟩ trivial
  exact htransclude.2.2

/-- …and when a page is rendered, which may load the documents besides. -/
theorem exists_opened (page : Text) (s : State) :
    ∃ opened, Confined c.inputDir s.opened opened ∧
      ((Site.renderPage c files page s).2 = { s with opened } ∨
        (Site.renderPage c files page s).2 = (documents c files { s with opened }).2) := by
  rw [Site.renderPage]
  split
  · exact ⟨s.opened, .refl _ _, .inl rfl⟩
  next path _ =>
  have hfile := fetch c files path ([], s.opened)
  rcases hfetched : (host c files).cached.fetch path ([], s.opened) with ⟨file, state⟩
  rw [hfetched] at hfile
  dsimp only at hfile ⊢
  split
  · exact ⟨state.2, hfile, .inl rfl⟩
  have htext := hfile.trans (resolved c files (Document.ofFetched file) state)
  rcases hresolved : Site.resolved c files (Document.ofFetched file) state with ⟨text, cache, opened⟩
  rw [hresolved] at htext
  refine ⟨opened, htext, ?_⟩
  dsimp only
  split
  · rcases documents c files { s with opened } with ⟨_ | listed, s'⟩ <;> exact .inr rfl
  · exact .inl rfl

theorem renderPage (page : Text) (s : State) :
    Confined c.inputDir s.opened (renderPage c files page s).2.opened := by
  obtain ⟨opened, hopened, hsame | hsame⟩ := exists_opened c files page s
  · rwa [hsame]
  · rwa [hsame, opened_documents]

end Confined

/-! ## What the answer depends on -/

/-- **Two trees of files hold the same inside a directory**: the same can be read at every location
inside it, and the same pages are listed. -/
structure SameInside (root : Location) (files files' : Entry) : Prop where
  text : ∀ l, root.Within l → Files.readText files l = Files.readText files' l
  pages : Folder.pages files root = Folder.pages files' root

theorem fst_documents_congr (h : SameInside c.inputDir files files') (s : State) :
    (documents c files s).1 = (documents c files' s).1 := by
  have hdocuments : Folder.documents files c.inputDir = Folder.documents files' c.inputDir := by
    simp only [Folder.documents, h.pages, Folder.fetch_congr h.text]
  simp only [documents, hdocuments]

/-- **A page depends on what is inside the root.** -/
theorem fst_renderPage_congr (h : SameInside c.inputDir files files') (page : Text) (s : State) :
    (renderPage c files page s).1 = (renderPage c files' page s).1 := by
  cases hpath : (Path.normalize? page).filter (Text.endsWith (lit ".md")) with
  | none => simp only [renderPage, hpath]
  | some path =>
    have hsource : source c files = source c files' := by
      simp only [source, funext (Folder.fetch_congr h.text)]
    rw [fst_renderPage hpath, fst_renderPage hpath, Folder.fetch_congr h.text path,
      fst_documents_congr h]
    simp only [meaning_congr hsource]

/-! ## The theorem -/

end WikiPress.Site
