import WikiPress.Proofs.TagIndex.Completeness
import Mathlib.Data.Finset.Card

/-!
# Proofs/TagIndex/Counts — what the number in a heading counts

    d: lang, lang/lean      ## lang - ( 3 )   d           three links, but two documents
    e: lang/lean            ### lean - ( 2 )  d, e

The number in the heading of a tag is that of the links at the tag and below it, so it counts a
document once for each of its tags there (`sum_tagged_eq`).  It is the number of documents exactly if
none of them has two such tags (`shownCount_eq_iff`).
-/

namespace WikiPress.TagIndex

/-- **The tags of a document** at a tag and below it. -/
def tagsFrom (p : List Text) (d : Document) : Finset (List Text) :=
  ((d.flags.tags.map (Text.splitOn '/')).filter p.isPrefixOf).toFinset

/-- The heading of a section: hashes, its label and its count. -/
def headingLine (level : Nat) (label : Text) (count : Nat) : Text :=
  List.replicate (min level 6) '#' ++ ' ' :: label ++ lit " - ( " ++ Text.ofNat count ++ lit " )"

variable {documents : List Document} {p q : List Text} {d : Document}

theorem headingLine_prefix_render (s : Section) :
    headingLine s.level s.label s.count <+: s.render := by
  rw [Section.render]
  split
  · exact List.prefix_rfl
  · exact (List.prefix_append _ _).trans (List.prefix_append _ _)

/-! ## The tags of a document -/

theorem mem_tagsFrom : q ∈ tagsFrom p d ↔
    (∃ tag ∈ d.flags.tags, Text.splitOn '/' tag = q) ∧ p <+: q := by
  rw [tagsFrom, List.mem_toFinset, List.mem_filter, List.mem_map, List.isPrefixOf_iff_prefix]

/-- Different tags have different segments. -/
theorem splitOn_injective (c : Char) : Function.Injective (Text.splitOn c) :=
  Function.LeftInverse.injective (Text.join_splitOn c)

theorem reaches_iff : reaches p d = true ↔ (tagsFrom p d).Nonempty := by
  rw [reaches, List.any_eq_true]
  constructor
  · rintro ⟨tag, htag, hp⟩
    exact ⟨_, mem_tagsFrom.2 ⟨⟨tag, htag, rfl⟩, List.isPrefixOf_iff_prefix.1 hp⟩⟩
  · rintro ⟨_, hq⟩
    obtain ⟨⟨tag, htag, rfl⟩, hp⟩ := mem_tagsFrom.1 hq
    exact ⟨tag, htag, List.isPrefixOf_iff_prefix.2 hp⟩

theorem card_tagsFrom_le_one_iff : (tagsFrom p d).card ≤ 1 ↔
    ∀ tag ∈ d.flags.tags, ∀ tag' ∈ d.flags.tags,
      p <+: Text.splitOn '/' tag → p <+: Text.splitOn '/' tag' → tag = tag' := by
  rw [Finset.card_le_one]
  constructor
  · intro hall tag htag tag' htag' hp hp'
    exact splitOn_injective '/' (hall _ (mem_tagsFrom.2 ⟨⟨tag, htag, rfl⟩, hp⟩) _
      (mem_tagsFrom.2 ⟨⟨tag', htag', rfl⟩, hp'⟩))
  · intro hall _ hq _ hq'
    obtain ⟨⟨tag, htag, rfl⟩, hp⟩ := mem_tagsFrom.1 hq
    obtain ⟨⟨tag', htag', rfl⟩, hp'⟩ := mem_tagsFrom.1 hq'
    rw [hall tag htag tag' htag' hp hp']

/-! ## Links counted by document -/

theorem sum_length_filter_cons {α β : Type} (r : α → β → Bool) (as : List α) (b : β) (bs : List β) :
    (as.map fun a => ((b :: bs).filter (r a)).length).sum =
      (as.filter (r · b)).length + (as.map fun a => (bs.filter (r a)).length).sum := by
  induction as with
  | nil => rfl
  | cons a as ih =>
    rw [List.map_cons, List.sum_cons, ih, List.map_cons, List.sum_cons, List.filter_cons,
      List.filter_cons]
    split
    · rw [List.length_cons, List.length_cons]
      omega
    · omega

/-- Pairs counted by their first part are as many as counted by their second. -/
theorem sum_length_filter_comm {α β : Type} (r : α → β → Bool) (as : List α) (bs : List β) :
    (as.map fun a => (bs.filter (r a)).length).sum =
      (bs.map fun b => (as.filter (r · b)).length).sum := by
  induction bs with
  | nil => simp
  | cons b bs ih => rw [sum_length_filter_cons, ih, List.map_cons, List.sum_cons]

/-- The sections at a tag and below it that link a document are those of its tags there. -/
theorem length_filter_tagPaths (h : (documents.map Document.path).Nodup)
    (hd : d ∈ available documents) :
    (((tagPaths documents).filter p.isPrefixOf).filter (carries · d)).length =
      (tagsFrom p d).card := by
  have hnodup : (((tagPaths documents).filter p.isPrefixOf).filter (carries · d)).Nodup :=
    ((nodup_tagPaths documents).filter _).filter _
  rw [← List.toFinset_card_of_nodup hnodup]
  congr 1
  ext q
  rw [List.mem_toFinset, List.mem_filter, List.mem_filter, List.isPrefixOf_iff_prefix,
    mem_tagsFrom, carries, List.any_eq_true]
  simp only [beq_iff_eq]
  constructor
  · rintro ⟨⟨-, hp⟩, htag⟩
    exact ⟨htag, hp⟩
  · rintro ⟨⟨tag, htag, rfl⟩, hp⟩
    have hmem : Text.splitOn '/' tag ∈ tagPaths documents :=
      (mem_tagPaths h).2 ⟨Text.splitOn_ne_nil _ _, d, (mem_available.1 hd).1,
        (mem_available.1 hd).2, tag, htag, List.prefix_rfl⟩
    exact ⟨⟨hmem, hp⟩, tag, htag, rfl⟩

/-- **The links at a tag and below it are as many as the tags there that documents carry.** -/
theorem sum_tagged_eq (h : (documents.map Document.path).Nodup) (p : List Text) :
    (((tagPaths documents).filter p.isPrefixOf).map fun q => (tagged documents q).length).sum =
      ((available documents).map fun d => (tagsFrom p d).card).sum := by
  have hlength : ∀ q ∈ (tagPaths documents).filter p.isPrefixOf, (tagged documents q).length =
      ((available documents).filter (carries q)).length := fun q _ => length_sorted _
  rw [List.map_congr_left hlength, sum_length_filter_comm,
    List.map_congr_left fun d hd => length_filter_tagPaths h hd]

/-- That is at least the number of documents that have one of these tags, -/
theorem length_filter_reaches_le (p : List Text) (ds : List Document) :
    (ds.filter (reaches p)).length ≤ (ds.map fun d => (tagsFrom p d).card).sum := by
  induction ds with
  | nil => exact Nat.zero_le _
  | cons d ds ih =>
    rw [List.map_cons, List.sum_cons, List.filter_cons]
    split
    · next hreaches =>
      have hpos := Finset.card_pos.2 (reaches_iff.1 hreaches)
      rw [List.length_cons]
      omega
    · omega

/-- …and equal to it exactly if no document has two of them. -/
theorem sum_card_eq_iff (p : List Text) (ds : List Document) :
    (ds.map fun d => (tagsFrom p d).card).sum = (ds.filter (reaches p)).length ↔
      ∀ d ∈ ds, (tagsFrom p d).card ≤ 1 := by
  induction ds with
  | nil => simp
  | cons d ds ih =>
    have hle := length_filter_reaches_le p ds
    rw [List.map_cons, List.sum_cons, List.filter_cons, List.forall_mem_cons, ← ih]
    split
    · next hreaches =>
      have hpos := Finset.card_pos.2 (reaches_iff.1 hreaches)
      rw [List.length_cons]
      omega
    · next hreaches =>
      have hnone : (tagsFrom p d).card = 0 :=
        Finset.card_eq_zero.2 (Finset.not_nonempty_iff_eq_empty.1 (mt reaches_iff.2 hreaches))
      omega

/-! ## The number in a heading -/

/-- **What the number in the heading of a tag counts**: each document that could be had as often as
it has tags at this one and below it.  So it is never less than the number of documents that have
such a tag, and is this number exactly if none of them has two such tags. -/
theorem shownCount_eq_iff (h : (documents.map Document.path).Nodup) (untagged : Text) {i : Nat}
    (hp : (tagPaths documents)[i]? = some p) :
    ∃ s n, (index documents untagged)[i]? = some s ∧
      headingLine (1 + p.length) (p.getLastD []) n <+: s.render ∧
      n = ((available documents).map fun d => (tagsFrom p d).card).sum ∧
      ((available documents).filter (reaches p)).length ≤ n ∧
      (n = ((available documents).filter (reaches p)).length ↔
        ∀ d ∈ documents, d.isError = false → ∀ tag ∈ d.flags.tags, ∀ tag' ∈ d.flags.tags,
          p <+: Text.splitOn '/' tag → p <+: Text.splitOn '/' tag' → tag = tag') := by
  have hcount : (tagSection documents (tagPaths documents) p).count =
      ((available documents).map fun d => (tagsFrom p d).card).sum := sum_tagged_eq h p
  have hsection : (index documents untagged)[i]? =
      some (tagSection documents (tagPaths documents) p) := by
    have hmap : ((tagPaths documents).map (tagSection documents (tagPaths documents)))[i]? =
        some (tagSection documents (tagPaths documents) p) := by
      rw [List.getElem?_map, hp, Option.map_some]
    rw [index_eq h untagged, List.getElem?_append_left (List.getElem?_eq_some_iff.1 hmap).1, hmap]
  have hheading := headingLine_prefix_render (tagSection documents (tagPaths documents) p)
  refine ⟨tagSection documents (tagPaths documents) p, _, hsection, hheading, hcount, ?_, ?_⟩
  · rw [hcount]
    exact length_filter_reaches_le p _
  · rw [hcount, sum_card_eq_iff]
    simp only [card_tagsFrom_le_one_iff, mem_available, and_imp]

/-- Two documents, one of them below the tag of the other. -/
theorem shownCount_eq_of_two :
    let documents : List Document :=
      [⟨lit "/a.md", [], { title := [], tags := [lit "lang/lean"] }, false⟩,
        ⟨lit "/b.md", [], { title := [], tags := [lit "lang"] }, false⟩]
    (documents.map Document.path).Nodup ∧ (tagPaths documents)[0]? = some [lit "lang"] ∧
      ∃ s, (index documents (lit "Untagged"))[0]? = some s ∧
        headingLine 2 (lit "lang") 2 <+: s.render ∧
        ((available documents).filter (reaches [lit "lang"])).length = 2 := by
  intro documents
  have hdistinct : (documents.map Document.path).Nodup := by decide +kernel
  have hp : (tagPaths documents)[0]? = some [lit "lang"] := by decide +kernel
  obtain ⟨s, n, hs, hheading, hn, -, -⟩ := shownCount_eq_iff hdistinct (lit "Untagged") hp
  obtain rfl : n = 2 := hn.trans (by decide +kernel)
  exact ⟨hdistinct, hp, s, hs, hheading, by decide +kernel⟩

/-- **A document under two tags of one branch counts twice** in the heading above both. -/
theorem shownCount_ne_of_nested_tags :
    let documents := [Document.ofFetched ⟨lit "/a.md", lit "@tags: a, a/b", false⟩]
    (documents.map Document.path).Nodup ∧ (tagPaths documents)[0]? = some [lit "a"] ∧
      ((available documents).filter (reaches [lit "a"])).length = 1 ∧
      render documents (lit "Untagged")
        = lit "## a - ( 2 )\n\n- [](/a.md \"#\")\n\n### b - ( 1 )\n\n- [](/a.md \"#\")" := by
  decide +kernel

end WikiPress.TagIndex
