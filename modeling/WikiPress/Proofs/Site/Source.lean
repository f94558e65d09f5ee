import WikiPress.Proofs.Files.Tree
import WikiPress.Proofs.Snippet.Alike
import WikiPress.Proofs.Snippet.Demote
import WikiPress.Proofs.Snippet.Depth
import WikiPress.Proofs.Snippet.Session
import WikiPress.Site.Basic
import WikiPress.Site.Folder

/-!
# Proofs/Site/Source — what a page means

    files ──▸ source c files ──▸ line by line ──▸ page

The documents of a wiki are a source: what a path is answered with depends on the files alone, and
so the cache in front of it changes nothing (`fst_transclude_cached`).  Only the files of the tree
are served, so every text has a meaning at the depth that a page is resolved with
(`isSome_lineByLine_depth`).
-/

namespace WikiPress.Folder

/-!
## Where the documents of a directory are

    path  ──normalize──▸  /a/b.md  ──▸  root ⋅ a/b.md        inside the root
          ──normalize──▸  nowhere                            403 Forbidden

A path that is located at all is located inside the root (`within_of_locate?`), and paths without a
slash at the end are at the same place only if they have the same canonical form
(`normalize?_eq_of_same`).  Every document that is handed out is the text of a file below the root,
and every other answer is an inert message (`fetch_cases`).
-/

open Files (Entry Location)

variable {root : Location} {files : Entry} {path : Text}

/-! ## Locations -/

/-- **Where a path is located**: along proper names below the root. -/
theorem locate?_eq_some {l : Location} (h : locate? root path = some l) :
    ∃ names, (∀ name ∈ names, Path.IsProper name) ∧
      Path.normalize? path = some ('/' :: Path.relative names (Text.endsWith ['/'] path)) ∧
      l = root.join (Path.relative names (Text.endsWith ['/'] path)) := by
  obtain ⟨out, hout, rfl⟩ := Option.map_eq_some_iff.1 h
  obtain ⟨names, hnames, rfl⟩ := Path.normalize?_eq_some hout
  exact ⟨names, hnames, hout, by rw [Location.dropWhile_relative hnames]⟩

theorem locate?_ofNames {names : List Text} (hnames : ∀ name ∈ names, Path.IsProper name) :
    locate? root (Path.ofNames names) = some (root.join (Text.join ['/'] names)) := by
  rw [locate?, Path.normalize?_ofNames hnames, Option.map_some, Path.ofNames,
    ← Path.relative_false, Location.dropWhile_relative hnames]

/-- **A path is located inside the root.** -/
theorem within_of_locate? {l : Location} (h : locate? root path = some l) : root.Within l := by
  obtain ⟨names, hnames, -, rfl⟩ := locate?_eq_some h
  exact ⟨_, Location.isInner_relative hnames _, rfl⟩

/-- **Paths at the same place have the same canonical form.** -/
theorem normalize?_eq_of_same {path' : Text} {l l' : Location} (h : locate? root path = some l)
    (h' : locate? root path' = some l') (hslash : Text.endsWith ['/'] path = false)
    (hslash' : Text.endsWith ['/'] path' = false) (hsame : Location.same l l' = true) :
    Path.normalize? path = Path.normalize? path' := by
  obtain ⟨names, hnames, hpath, rfl⟩ := locate?_eq_some h
  obtain ⟨names', hnames', hpath', rfl⟩ := locate?_eq_some h'
  have heq := Location.pieces_eq_of_same (Location.isInner_relative hnames _)
    (Location.isInner_relative hnames' _) hsame
  rw [Location.pieces_relative hnames, Location.pieces_relative hnames'] at heq
  rw [hpath, hpath', heq, hslash, hslash']

/-! ## Documents -/

/-- **What a path is answered with**: the text at its location, or an inert message. -/
theorem fetch_cases (files : Entry) (root : Location) (path : Text) :
    (∃ l data, locate? root path = some l ∧ Files.readText files l = .ok data ∧
      fetch files root path = ⟨path, data, false⟩) ∨
    (fetch files root path).isError = true ∧ Snippet.Inert (fetch files root path).data := by
  rw [fetch]
  cases hlocate : locate? root path with
  | none => exact .inr ⟨rfl, Snippet.inert_forbidden⟩
  | some l =>
    simp only [readDocument]
    split
    · next data hdata => exact .inl ⟨l, data, rfl, hdata, rfl⟩
    · exact .inr ⟨rfl, Snippet.inert_notFound⟩
    · next fault _ _ => exact .inr ⟨rfl, Snippet.inert_message fault⟩

/-- The answer depends on what can be read inside the root. -/
theorem fetch_congr {files' : Entry}
    (h : ∀ l, root.Within l → Files.readText files l = Files.readText files' l) (path : Text) :
    fetch files root path = fetch files' root path := by
  rw [fetch, fetch]
  cases hlocate : locate? root path with
  | none => rfl
  | some l =>
    simp only [readDocument]
    rw [h l (within_of_locate? hlocate)]

end WikiPress.Folder

namespace WikiPress.Snippet

open Files (Entry Location)

/-! ## A depth that is enough -/

/-- **Only these documents are served by a source**; a directive that names another one gets a
message. -/
def Source.Serves (source : Source) (served : Finset Text) : Prop :=
  ∀ line d, Directive.read? line = some d → d.target ∉ served →
    (source.file d.target).isError = true ∧ Inert (source.file d.target).data

/-- **A text has a meaning at a depth** that leaves room for the served documents that were not
entered, and for two more. -/
theorem isSome_lineByLine {source : Source} {served : Finset Text} (hserves : source.Serves served)
    {depth : Nat} {visited : Visited} {text : Text}
    (h : unentered served visited + 2 ≤ depth ∨ 1 ≤ depth ∧ (scan visited text).targets = []) :
    (lineByLine source depth visited text).isSome := by
  induction depth generalizing visited text with
  | zero => omega
  | succ depth ih =>
    by_cases hnone : (scan visited text).targets = []
    · rw [lineByLine_of_closed source hnone]
      rfl
    have hroom : unentered served visited + 2 ≤ depth + 1 :=
      h.resolve_right fun hclosed => hnone hclosed.2
    have hinside : ∀ d ∈ (scan visited text).directives,
        (source.inside (lineByLine source depth (visited.entering text)) d).isSome := by
      intro d hd
      simp only [Source.inside]
      split
      · rfl
      refine ih ?_
      by_cases hserved : d.target ∈ served
      · have hlt := unentered_entering_lt hserved (target_mem_targets_scan hd)
        exact .inl (by omega)
      · have hread := read?_of_mem_directives_scan hd
        obtain ⟨herror, hinert⟩ := hserves _ d hread hserved
        refine .inr ⟨by omega, ?_⟩
        rw [Source.snippet, hinert.content_eq source.evaluate d.target herror rfl,
          hinert.snippet_eq]
        exact hinert.targets _ (Directive.newline_not_mem_target hread)
    set meaning := lineByLine source depth (visited.entering text)
    have houts : ∀ d ∈ (scan visited text).directives,
        source.inside meaning d = some ((source.inside meaning d).getD []) := fun d hd => by
      obtain ⟨out, hout⟩ := Option.isSome_iff_exists.1 (hinside d hd)
      rw [hout, Option.getD_some]
    exact Option.isSome_iff_exists.2 ⟨_, (lineByLine_eq_some_iff source hnone).2 ⟨_, houts, rfl⟩⟩

end WikiPress.Snippet

namespace WikiPress.Site

open Files (Entry Location)
open Snippet (Cache Source Visited lineByLine)

variable {c : Config} {files : Entry}

/-! ## The documents of a wiki as a source -/

/-- **The source of the documents of a wiki.** -/
def source (c : Config) (files : Entry) : Source where
  file := Folder.fetch files c.inputDir
  evaluate := Script.evaluate []
  pick _ := 0

/-- What is cached is what the source has. -/
def Coherent (c : Config) (files : Entry) (s : Cache × List Location) : Prop :=
  ∀ path file, s.1.lookup path = some file → file = Folder.fetch files c.inputDir path

theorem fst_fetchNoting (path : Text) (opened : List Location) :
    (fetchNoting c files path opened).1 = Folder.fetch files c.inputDir path := rfl

theorem Coherent.fetch {s : Cache × List Location} (h : Coherent c files s) (path : Text) :
    ((host c files).cached.fetch path s).1 = Folder.fetch files c.inputDir path ∧
      Coherent c files ((host c files).cached.fetch path s).2 := by
  obtain ⟨cache, opened⟩ := s
  have hcached : (host c files).cached.fetch path = Snippet.cachedFetch (fetchNoting c files) path :=
    rfl
  cases hlookup : cache.lookup path with
  | some file =>
    rw [hcached, Snippet.cachedFetch_of_mem hlookup]
    exact ⟨h path file hlookup, h⟩
  | none =>
    rw [hcached, Snippet.cachedFetch_of_not_mem hlookup, fst_fetchNoting]
    refine ⟨rfl, fun p file hp => ?_⟩
    rw [Snippet.lookup_cons] at hp
    split at hp
    · next heq => rw [heq, ← Option.some.inj hp]
    · exact h p file hp

/-- **Behind the cache, the files answer like the source.** -/
theorem cached_alike : (host c files).cached.Alike (fun _ => True)
    (fun s (_ : List Text) => Coherent c files s) (source c files).host where
  evaluate := rfl
  fetch := fun path => ⟨fun _ _ => trivial, fun _ _ h _ => h.fetch path⟩
  pick := fun _ => ⟨fun _ _ => trivial, fun _ _ h _ => ⟨rfl, h⟩⟩

/-- A transclusion through the cache is the line-by-line meaning of its text. -/
theorem fst_transclude_cached {s : Cache × List Location} (h : Coherent c files s) (depth : Nat)
    (visited : Visited) (text : Text) :
    (Snippet.transclude (host c files).cached depth visited text s).1 =
      lineByLine (source c files) depth visited text := by
  rw [((cached_alike.transclude depth visited text).same s [] h trivial).1,
    Snippet.fst_transclude (Source.answersAs_host _)]

/-! ## The documents that are served -/

/-- The paths of the files below the directory of the wiki. -/
def served (c : Config) (files : Entry) : Finset Text :=
  let dir := (Files.follow files [] c.inputDir.pieces).toOption.getD []
  ((files.files []).map fun file => Path.ofNames (file.1.drop dir.length)).toFinset

theorem card_served_le : (served c files).card ≤ (files.files []).length := by
  refine (List.toFinset_card_le _).trans ?_
  rw [List.length_map]

/-- **A document that can be had is a file of the wiki.** -/
theorem mem_served {names : List Text} (hnames : ∀ name ∈ names, Path.IsProper name)
    (h : (Folder.fetch files c.inputDir (Path.ofNames names)).isError = false) :
    Path.ofNames names ∈ served c files := by
  rcases Folder.fetch_cases files c.inputDir (Path.ofNames names) with
    ⟨l, data, hlocate, hdata, -⟩ | ⟨herror, -⟩
  · rw [Folder.locate?_ofNames hnames, Option.some.injEq, ← Path.relative_false] at hlocate
    obtain ⟨-, dir, hdir, hat⟩ :=
      Files.exists_of_readText (Location.isInner_relative hnames false) (hlocate ▸ hdata)
    rw [Location.pieces_relative hnames] at hat
    have hfile := @Files.Entry.mem_files_of_at? [] _ _ _ hat
    rw [served, hdir, List.mem_toFinset]
    refine List.mem_map.2 ⟨_, hfile, ?_⟩
    rw [List.nil_append]
    exact congrArg _ (List.drop_left' rfl)
  · rw [h] at herror
    exact absurd herror Bool.false_ne_true

/-- The path of a document leads along proper names. -/
theorem exists_names_of_documentPath? {path target : Text}
    (h : Snippet.Directive.documentPath? path = some target) :
    ∃ names, (∀ name ∈ names, Path.IsProper name) ∧ target = Path.ofNames names := by
  have hdocument := Snippet.Directive.isSome_documentPath?_iff.1 (Option.isSome_of_eq_some h)
  rw [Snippet.Directive.documentPath?_of_isDocument hdocument] at h
  obtain ⟨names, hnames, rfl⟩ := Path.normalize?_eq_some h
  have hslash : Text.endsWith ['/'] (Snippet.Directive.withoutQuery path) = false := by
    obtain ⟨front, hfront⟩ := hdocument.extension
    have hproper : Path.IsProper (lit ".md") := ⟨by decide, by decide⟩
    rw [← hfront, hproper.not_endsWith]
  exact ⟨names, hnames, by rw [hslash, Path.relative_false, Path.ofNames]⟩

theorem source_serves : (source c files).Serves (served c files) := by
  intro line d hread hserved
  obtain ⟨-, -, -, -, path, -, -, -, -, hpath, -⟩ := Snippet.Directive.read?_eq_some hread
  obtain ⟨names, hnames, htarget⟩ := exists_names_of_documentPath? hpath
  rcases Folder.fetch_cases files c.inputDir d.target with ⟨l, data, -, -, hfetch⟩ | hmessage
  · refine absurd (htarget ▸ mem_served hnames ?_) hserved
    rw [← htarget, hfetch]
  · exact hmessage

/-- **The depth of a page is enough** for every text. -/
theorem isSome_lineByLine_depth (visited : Visited) (text : Text) :
    (lineByLine (source c files) (depth files) visited text).isSome := by
  refine Snippet.isSome_lineByLine source_serves (.inl ?_)
  have hunentered : Snippet.unentered (served c files) visited ≤ (files.files []).length :=
    (Finset.card_le_card Finset.sdiff_subset).trans card_served_le
  rw [depth]
  omega

/-! ## Pages -/

/-- **The text of a document with everything transcluded.** -/
def meaning (c : Config) (files : Entry) (d : Document) : Text :=
  (lineByLine (source c files) (depth files) (Visited.empty.insert d.path) d.body).getD []

/-- The meaning of a document depends on the answers of its source. -/
theorem meaning_congr {files' : Entry} (h : source c files = source c files') (d : Document) :
    meaning c files d = meaning c files' d := by
  obtain ⟨text, htext⟩ := Option.isSome_iff_exists.1
    (@isSome_lineByLine_depth c files (Visited.empty.insert d.path) d.body)
  obtain ⟨text', htext'⟩ := Option.isSome_iff_exists.1
    (@isSome_lineByLine_depth c files' (Visited.empty.insert d.path) d.body)
  have hmax := Snippet.lineByLine_mono (source c files) (le_max_left (depth files) (depth files'))
    htext
  have hmax' := Snippet.lineByLine_mono (source c files') (le_max_right (depth files) (depth files'))
    htext'
  rw [h, hmax', Option.some.injEq] at hmax
  rw [meaning, meaning, htext, htext', hmax]

/-- The documents of a wiki do not depend on what was opened. -/
theorem fst_documents_opened (s : State) (opened : List Location) :
    (documents c files { s with opened }).1 = (documents c files s).1 := by
  simp only [documents]
  cases s.documents with
  | some listed => rfl
  | none => cases Folder.documents files c.inputDir <;> rfl

/-- **A page, by the meaning of its document.** -/
theorem fst_renderPage {page path : Text}
    (h : (Path.normalize? page).filter (Text.endsWith (lit ".md")) = some path) (s : State) :
    (renderPage c files page s).1 =
      let file := Folder.fetch files c.inputDir path
      let d := Document.ofFetched file
      let text := meaning c files d
      if file.isError then .error (.pageMissing path file.data)
      else if TagIndex.hasListLine text then
        (documents c files s).1.map fun listed =>
          compose c d (TagIndex.expand text listed c.messages.untagged)
      else .ok (compose c d text) := by
  have hempty : Coherent c files ([], s.opened) := fun _ _ hlookup => absurd hlookup (by simp)
  obtain ⟨hfetch, hcoherent⟩ := hempty.fetch path
  rcases hfetched : (host c files).cached.fetch path ([], s.opened) with ⟨file, state⟩
  rw [hfetched] at hfetch hcoherent
  dsimp only at hfetch hcoherent
  subst hfetch
  have htext (d : Document) : (resolved c files d state).1 = meaning c files d := by
    rw [meaning, ← fst_transclude_cached hcoherent]
    rfl
  specialize htext (Document.ofFetched (Folder.fetch files c.inputDir path))
  rcases hresolved : resolved c files (Document.ofFetched (Folder.fetch files c.inputDir path)) state
    with ⟨text, cache, opened⟩
  rw [hresolved] at htext
  dsimp only at htext
  subst htext
  simp only [renderPage, h, hfetched, hresolved]
  split
  · rfl
  · split
    · rw [← fst_documents_opened s opened]
      rcases documents c files { s with opened } with ⟨_ | listed, s'⟩ <;> rfl
    · rfl

end WikiPress.Site
