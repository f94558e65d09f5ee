import WikiPress.Proofs.Path.Removal
import WikiPress.Proofs.Site.Source
import WikiPress.Proofs.Snippet.Ancestors

/-!
# Proofs/Site/SameDocument — a document has one name

    page  b.md  ──seed──▸  /b.md  ◂──target──  [+](/a/../b.md)
                              ▲
                              └───────target──  [+](./b.md?x)         both lines are emptied

A page and a directive may be written in many ways.  What is kept of them is a canonical path, and
nothing else is ever entered below a page (`Chain.isCanonicalDocument`).  So two spellings name the
same document exactly if their targets are equal texts (`target_eq_iff`), and comparing texts is
enough to empty the lines that lead back (`keptLine_eq_nil_iff`).
-/

namespace WikiPress.Snippet

open Files (Entry Location)

/-! ## Written paths -/

namespace Directive

/-- **The path that a directive line is written with**, up to its query or fragment. -/
def Writes (line path : Text) : Prop :=
  ∃ s : Spelling, s.line = line ∧ ¬ s.Ambiguous ∧ path = withoutQuery s.target.path

variable {line line' path path' : Text} {d d' : Directive}

theorem exists_writes (h : read? line = some d) : ∃ path, Writes line path := by
  obtain ⟨s, hline, hs⟩ := exists_spelling_of_read? h
  exact ⟨_, s, hline, hs, rfl⟩

theorem Writes.extension (h : Writes line path) : lit ".md" <:+ path := by
  obtain ⟨s, -, -, rfl⟩ := h
  exact s.isDocument.extension

/-- **The target of a directive is the canonical form of the path it is written with.** -/
theorem Writes.normalize?_eq (h : Writes line path) (hread : read? line = some d) :
    Path.normalize? path = some d.target := by
  obtain ⟨s, rfl, hs, rfl⟩ := h
  obtain ⟨document, hdocument, hline⟩ := read?_line_of_not_ambiguous hs
  rw [hread, Option.some.injEq] at hline
  subst hline
  rwa [documentPath?_of_isDocument s.isDocument] at hdocument

/-- The target of a directive is canonical. -/
theorem isCanonicalDocument_target (hread : read? line = some d) :
    Path.IsCanonicalDocument d.target := by
  obtain ⟨path, h⟩ := exists_writes hread
  exact Path.isCanonicalDocument_of_normalize? (h.normalize?_eq hread) h.extension

/-- **Two directives name the same document exactly if their targets are equal.** -/
theorem target_eq_iff (h : Writes line path) (hread : read? line = some d)
    (h' : Writes line' path') (hread' : read? line' = some d') :
    d.target = d'.target ↔ Path.SameDocument path path' :=
  (Path.sameDocument_iff (h.normalize?_eq hread) (h'.normalize?_eq hread')
    (Path.endsWith_slash_of_extension h.extension)
    (Path.endsWith_slash_of_extension h'.extension)).symm

/-- …and exactly if they are at the same place below a root. -/
theorem target_eq_iff_same_location (h : Writes line path) (hread : read? line = some d)
    (h' : Writes line' path') (hread' : read? line' = some d') (root : Location) :
    d.target = d'.target ↔ ∃ l l', Folder.locate? root path = some l ∧
      Folder.locate? root path' = some l' ∧ Location.same l l' = true := by
  have hpath := h.normalize?_eq hread
  have hpath' := h'.normalize?_eq hread'
  constructor
  · intro heq
    have hboth : Folder.locate? root path = Folder.locate? root path' := by
      rw [Folder.locate?, Folder.locate?, hpath, hpath', heq]
    have hsome : (Folder.locate? root path).isSome = true := by
      rw [Folder.locate?, hpath]
      rfl
    obtain ⟨l, hl⟩ := Option.isSome_iff_exists.1 hsome
    exact ⟨l, l, hl, hboth ▸ hl, beq_self_eq_true _⟩
  · rintro ⟨l, l', hl, hl', hsame⟩
    have hnormal := Folder.normalize?_eq_of_same hl hl'
      (Path.endsWith_slash_of_extension h.extension)
      (Path.endsWith_slash_of_extension h'.extension) hsame
    rwa [hpath, hpath', Option.some.injEq] at hnormal

end Directive

/-! ## Entered documents -/

variable {visited entered : Visited}

/-- **Below canonical paths only canonical paths are entered.** -/
theorem Chain.isCanonicalDocument {callers : List Caller} (h : Chain visited callers entered)
    (hvisited : ∀ path ∈ visited.toList, Path.IsCanonicalDocument path) :
    ∀ path ∈ entered.toList, Path.IsCanonicalDocument path := by
  induction h with
  | nil => exact hvisited
  | cons hd _ ih =>
    refine ih fun path hpath => ?_
    rcases Visited.mem_entering.1 hpath with hpath | hpath
    · exact hvisited path hpath
    · obtain ⟨d, hopen, rfl⟩ := List.mem_map.1 (mem_targets_scan.1 hpath)
      exact Directive.isCanonicalDocument_target (mem_openDirectives.1 hopen).2.1

/-- **A directive line is emptied exactly if it names a document that was entered**, however it is
written. -/
theorem keptLine_eq_nil_iff (hentered : ∀ path ∈ entered.toList, Path.IsCanonicalDocument path)
    {line path : Text} {d : Directive} (h : Directive.Writes line path)
    (hread : Directive.read? line = some d) :
    keptLine entered line = [] ↔ ∃ p ∈ entered.toList, Path.SameDocument p path := by
  have hsame : ∀ p ∈ entered.toList, Path.SameDocument p path ↔ p = d.target := fun p hp =>
    Path.sameDocument_iff (hentered p hp).normalized (h.normalize?_eq hread)
      (Path.endsWith_slash_of_extension (hentered p hp).extension)
      (Path.endsWith_slash_of_extension h.extension)
  by_cases htarget : d.target ∈ entered.toList
  · exact iff_of_true (keptLine_of_mem hread htarget) ⟨_, htarget, (hsame _ htarget).2 rfl⟩
  · refine iff_of_false ?_ ?_
    · rw [keptLine_of_open (openDirective?_eq_some_iff.2 ⟨hread, htarget⟩)]
      rintro rfl
      rw [Directive.read?_nil] at hread
      exact absurd hread (by simp)
    · rintro ⟨p, hp, hpath⟩
      exact htarget ((hsame p hp).1 hpath ▸ hp)

end WikiPress.Snippet

namespace WikiPress.Site

open Files (Entry Location)
open Snippet (Visited Outside Run Live Caller Event Progress Directive keptLine)

variable {c : Config} {files : Entry} {page path : Text}

/-! ## Pages -/

/-- **A page is entered under a canonical path.** -/
theorem isCanonicalDocument_of_page
    (h : (Path.normalize? page).filter (Text.endsWith (lit ".md")) = some path) :
    Path.IsCanonicalDocument path := by
  rw [Option.filter_eq_some_iff, Directive.endsWith_iff] at h
  exact ⟨Path.normalize?_of_normalize? h.1, h.2⟩

theorem path_ofFetched (c : Config) (files : Entry) (path : Text) :
    (Document.ofFetched (Folder.fetch files c.inputDir path)).path = path := by
  rw [Document.ofFetched, Folder.fetch]
  split
  · rfl
  · rw [Folder.readDocument]
    split <;> rfl

/-- The same of everything that is entered below a page. -/
theorem isCanonicalDocument_of_live {o : Outside} {text : Text} {events : List Event} {b : Progress}
    (hpath : Path.IsCanonicalDocument path)
    (hrun : Run o (.ready (Visited.empty.insert path) text) events b) {callers : List Caller}
    {entered : Visited} (hlive : Live b callers entered) :
    ∀ p ∈ entered.toList, Path.IsCanonicalDocument p := by
  refine ((hrun.enteredWith .ready).1.chain hlive).isCanonicalDocument fun p hp => ?_
  obtain hp | rfl := Visited.mem_insert.1 hp
  · exact absurd hp List.not_mem_nil
  · exact hpath

/-- **Canonical paths name documents.**  A path has no canonical form exactly if some beginning of it
climbs more often than it descends.  Otherwise the canonical form is a slash and the names that are
left after every two dots have removed the nearest name before them that is left, with slashes
between them, and one behind them if the path ends with one and there are any; no two slashes follow
each other in it, none of its segments is a dot or two dots, it is its own canonical form, and every
path that goes on from it has the canonical form of the one that goes on from what was written.

So the target of a directive is canonical, the path a page is entered under is, and so is everything
that is entered below a page in any run.  Two directives have equal targets exactly if the paths they
are written with leave the same names, and exactly if these are at the same place below any root; and
the lines that are emptied are those whose path names a document that was entered. -/
theorem canonical_paths :
    (∀ path, Path.normalize? path = none ↔ Path.EscapesRoot path) ∧
    (∀ path out, Path.normalize? path = some out →
      (∃ names, Path.Leaves (Text.splitOn '/' path) names ∧
        out = '/' :: Path.relative names (Text.endsWith ['/'] path)) ∧
      ¬ ['/', '/'] <:+: out ∧
      (∀ segment ∈ Text.splitOn '/' out, segment ≠ ['.'] ∧ segment ≠ ['.', '.']) ∧
      Path.normalize? out = some out ∧
      ∀ rest, Path.normalize? (path ++ '/' :: rest) = Path.normalize? (out ++ '/' :: rest)) ∧
    (∀ line d, Directive.read? line = some d → Path.IsCanonicalDocument d.target ∧
      ∃ path, Directive.Writes line path ∧ Path.normalize? path = some d.target) ∧
    (∀ (c : Config) (files : Entry) (page path : Text),
      (Path.normalize? page).filter (Text.endsWith (lit ".md")) = some path →
      Path.IsCanonicalDocument path ∧
        (Document.ofFetched (Folder.fetch files c.inputDir path)).path = path) ∧
    (∀ line line' d d' path path', Directive.read? line = some d → Directive.Writes line path →
      Directive.read? line' = some d' → Directive.Writes line' path' →
      (d.target = d'.target ↔ Path.SameDocument path path') ∧
      ∀ root : Location, d.target = d'.target ↔ ∃ l l', Folder.locate? root path = some l ∧
        Folder.locate? root path' = some l' ∧ Location.same l l' = true) ∧
    ∀ (o : Outside) (seed text : Text) (events : List Event) (b : Progress),
      Path.IsCanonicalDocument seed →
      Run o (.ready (Visited.empty.insert seed) text) events b →
      ∀ (callers : List Caller) (entered : Visited), Live b callers entered →
        (∀ p ∈ entered.toList, Path.IsCanonicalDocument p) ∧
        ∀ line d path, Directive.read? line = some d → Directive.Writes line path →
          (keptLine entered line = [] ↔ ∃ p ∈ entered.toList, Path.SameDocument p path) := by
  refine ⟨fun path => Path.normalize?_eq_none_iff, fun path out hout => ?_, fun line d hread => ?_,
    fun c files page path hpage => ⟨isCanonicalDocument_of_page hpage, path_ofFetched c files path⟩,
    fun line line' d d' path path' hread h hread' h' =>
      ⟨Directive.target_eq_iff h hread h' hread',
        Directive.target_eq_iff_same_location h hread h' hread'⟩,
    fun o seed text events b hseed hrun callers entered hlive => ?_⟩
  · obtain ⟨names, hleaves, hnames, rfl⟩ := Path.leaves_of_normalize? hout
    exact ⟨⟨names, hleaves, rfl⟩, Path.not_infix_relative hnames _,
      fun segment => Path.ne_dots_of_mem_relative hnames _,
      Path.normalize?_of_normalize? hout, Path.normalize?_continue hout⟩
  · obtain ⟨path, h⟩ := Directive.exists_writes hread
    exact ⟨Directive.isCanonicalDocument_target hread, path, h, h.normalize?_eq hread⟩
  · have hentered := isCanonicalDocument_of_live hseed hrun hlive
    exact ⟨hentered, fun line d path hread h => Snippet.keptLine_eq_nil_iff hentered h hread⟩

/-- A path that climbs and one that leads there at once: the line with the one is emptied below the
page with the other. -/
theorem canonical_paths_of_climb :
    Path.IsCanonicalDocument (lit "/b.md") ∧
    keptLine (Visited.empty.insert (lit "/b.md")) (lit "[+](/a/../b.md)") = [] ∧
    ∃ p ∈ (Visited.empty.insert (lit "/b.md")).toList, ∃ path,
      Directive.Writes (lit "[+](/a/../b.md)") path ∧ Path.SameDocument p path := by
  have hread : Directive.read? (lit "[+](/a/../b.md)") =
      some ⟨lit "[+](/a/../b.md)", lit "/b.md", 0, []⟩ := by decide +kernel
  have hline : keptLine (Visited.empty.insert (lit "/b.md")) (lit "[+](/a/../b.md)") = [] := by
    decide +kernel
  obtain ⟨hpage, path, hpath, -⟩ := canonical_paths.2.2.1 _ _ hread
  obtain ⟨-, hblank⟩ := canonical_paths.2.2.2.2.2
    ⟨fun _ _ => True, fun _ _ => .ok [], fun _ _ => True⟩ (lit "/b.md") [] [] _ hpage .refl [] _
    .ready
  obtain ⟨p, hp, hsame⟩ := (hblank _ _ path hread hpath).1 hline
  exact ⟨hpage, hline, p, hp, path, hpath, hsame⟩

end WikiPress.Site
