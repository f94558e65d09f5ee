import WikiPress.Proofs.TagIndex.Completeness
import WikiPress.Proofs.Text.Order
import WikiPress.Search
import Mathlib.Data.List.Nodup
import Mathlib.Order.Defs.Unbundled

/-!
# Proofs/Listing — listings do not depend on the order of loading

    /b.md                  /c.md  2021-03-04
    /a.md  2020-05-01   ⟶  /a.md  2020-05-01, 20-5-1      however the three were loaded
    /c.md  2021-03-04      /b.md

Of the dates of a document that can be read the latest counts (`lastUpdated_eq_some_iff`), and a
document with a later one stands before the others, with the lesser path among equals
(`compare_eq_lt_iff`).  Documents of different paths have only one order, so whatever is listed from
them is the same from all permutations of them (`listings_of_perm`).
-/

namespace WikiPress

/-! ## The latest date -/

instance : Std.LawfulEqCmp Date.compare where
  eq_of_compare {a b} h := by
    obtain ⟨year, month, day, hvalid⟩ := a
    obtain ⟨year', month', day', hvalid'⟩ := b
    simp only [Date.compare, Ordering.then_eq_eq, Std.compare_eq_iff_eq] at h
    obtain ⟨rfl, rfl, rfl⟩ := h
    rfl

/-- A date that is the latest of some dates. -/
def Date.IsLatest (dates : List Date) (x : Date) : Prop :=
  x ∈ dates ∧ ∀ y ∈ dates, (Date.compare y x).isLE = true

theorem Date.isLE_self (x : Date) : (Date.compare x x).isLE = true := by
  have hself : Date.compare x x = .eq := Std.ReflCmp.compare_self
  rw [hself]
  rfl

/-- The later of two dates is neither before the one nor the other. -/
theorem Date.isLE_later (x y : Date) :
    (Date.compare x (x.later y)).isLE = true ∧ (Date.compare y (x.later y)).isLE = true := by
  rw [Date.later]
  cases hcompare : Date.compare x y with
  | lt => exact ⟨by simp [hcompare], isLE_self y⟩
  | eq =>
    rw [Std.LawfulEqCmp.eq_of_compare hcompare]
    exact ⟨isLE_self y, isLE_self y⟩
  | gt =>
    have hswap : Date.compare y x = .lt := Std.OrientedCmp.lt_of_gt hcompare
    exact ⟨isLE_self x, by simp [hswap]⟩

theorem Date.isLatest_foldl_later (x : Date) (dates : List Date) :
    Date.IsLatest (x :: dates) (dates.foldl Date.later x) := by
  induction dates generalizing x with
  | nil => exact ⟨List.mem_cons_self, fun y hy => List.mem_singleton.1 hy ▸ isLE_self x⟩
  | cons y dates ih =>
    obtain ⟨hmem, hall⟩ := ih (x.later y)
    obtain ⟨hx, hy⟩ := Date.isLE_later x y
    have hlater : x.later y = x ∨ x.later y = y := by
      rw [Date.later]
      split
      · exact .inr rfl
      · exact .inl rfl
    have hfirst := hall _ List.mem_cons_self
    refine ⟨?_, ?_⟩
    · rw [List.foldl_cons]
      rcases List.mem_cons.1 hmem with hmem | hmem
      · rw [hmem]
        rcases hlater with h | h <;> simp [h]
      · exact List.mem_cons_of_mem _ (List.mem_cons_of_mem _ hmem)
    · intro z hz
      rcases List.mem_cons.1 hz with rfl | hz
      · exact Std.TransCmp.isLE_trans hx hfirst
      · rcases List.mem_cons.1 hz with rfl | hz
        · exact Std.TransCmp.isLE_trans hy hfirst
        · exact hall z (List.mem_cons_of_mem _ hz)

theorem Date.IsLatest.unique {dates : List Date} {x y : Date} (hx : Date.IsLatest dates x)
    (hy : Date.IsLatest dates y) : x = y :=
  Std.LawfulEqCmp.eq_of_compare (Std.OrientedCmp.isLE_antisymm (hy.2 x hx.1) (hx.2 y hy.1))

namespace Document

variable {a b d : Document}

/-- **The date of a document is the latest of those that can be read.** -/
theorem lastUpdated_eq_some_iff {x : Date} :
    d.lastUpdated = some x ↔ Date.IsLatest (d.flags.updated.filterMap Date.read?) x := by
  rw [lastUpdated]
  cases d.flags.updated.filterMap Date.read? with
  | nil => exact iff_of_false nofun fun h => List.not_mem_nil h.1
  | cons y dates =>
    rw [Option.some.injEq]
    have hlatest := Date.isLatest_foldl_later y dates
    exact ⟨fun h => h ▸ hlatest, fun h => hlatest.unique h⟩

/-! ## The order of documents -/

/-- Whether a document was updated later than another one: at all, where the other has no date. -/
def Newer (a b : Document) : Prop :=
  ∃ x, a.lastUpdated = some x ∧ ∀ y, b.lastUpdated = some y → Date.compare y x = .lt

/-- **A newer document stands before an older one**, and the lesser path first among documents of one
date or none. -/
theorem compare_eq_lt_iff : compare a b = .lt ↔
    Newer a b ∨ a.lastUpdated = b.lastUpdated ∧ Text.bytes a.path < Text.bytes b.path := by
  rw [compare, Newer, ← Text.compare_eq_lt_iff_bytes]
  cases a.lastUpdated with
  | none => cases b.lastUpdated <;> simp
  | some x =>
    cases b.lastUpdated with
    | none => simp
    | some y =>
      rw [Ordering.then_eq_lt, Std.LawfulEqCmp.compare_eq_iff_eq]
      simp [eq_comm]

theorem compare_eq_lt_trans {a b c : Document} (hab : compare a b = .lt)
    (hbc : compare b c = .lt) : compare a c = .lt := Std.TransCmp.lt_trans hab hbc

/-- **Among documents of different paths the order is strict and total.** -/
theorem isStrictTotalOrder {documents : List Document} (h : (documents.map path).Nodup) :
    IsStrictTotalOrder {d // d ∈ documents} fun a b => compare a.1 b.1 = .lt where
  irrefl a hlt := absurd (Std.ReflCmp.compare_self.symm.trans hlt) (by decide)
  trans _ _ _ := compare_eq_lt_trans
  trichotomous := by
    rintro ⟨a, ha⟩ ⟨b, hb⟩ hab hba
    have hpath : a.path = b.path := by
      cases hcompare : compare a b with
      | lt => exact absurd hcompare hab
      | eq => exact path_eq_of_compare_eq hcompare
      | gt => exact absurd (Std.OrientedCmp.lt_of_gt hcompare) hba
    exact Subtype.ext (List.inj_on_of_nodup_map h ha hb hpath)

/-! ## Sorting -/

/-- **What stands for documents of different paths has one order.** -/
theorem mergeSort_eq_of_perm {α : Type} (document : α → Document) {found found' : List α}
    (h : (found.map fun x => (document x).path).Nodup) (hperm : found.Perm found') :
    (found.mergeSort fun x y => listedBefore (document x) (document y)) =
      found'.mergeSort fun x y => listedBefore (document x) (document y) := by
  have hsorted (found : List α) :
      (found.mergeSort fun x y => listedBefore (document x) (document y)).Pairwise
        fun x y => listedBefore (document x) (document y) = true := by
    refine List.pairwise_mergeSort ?_ ?_ found
    · exact fun x y z => listedBefore_trans
    · exact fun x y => listedBefore_total _ _
  refine List.Perm.eq_of_pairwise ?_ (hsorted found) (hsorted found')
    ((List.mergeSort_perm _ _).trans (hperm.trans (List.mergeSort_perm _ _).symm))
  intro x y hx hy hxy hyx
  rw [List.mem_mergeSort] at hx hy
  rw [listedBefore_iff] at hxy hyx
  have hpath := path_eq_of_compare_eq (Std.OrientedCmp.isLE_antisymm hxy hyx)
  exact List.inj_on_of_nodup_map h hx (hperm.mem_iff.2 hy) hpath

theorem sorted_eq_of_perm {documents documents' : List Document} (h : (documents.map path).Nodup)
    (hperm : documents.Perm documents') : sorted documents = sorted documents' :=
  mergeSort_eq_of_perm id h hperm

end Document

/-! ## Listings -/

section Listings

variable {documents documents' : List Document}

/-- **A search finds the same hits in the same order.** -/
theorem search_eq_of_perm (h : (documents.map Document.path).Nodup)
    (hperm : documents.Perm documents') (query : Query) :
    search documents query = search documents' query := by
  have hfound : (((documents.filter (!·.isError)).filterMap fun d =>
      (query.answer? d).map (d, ·)).map fun x => x.1.path).Nodup := by
    rw [List.Nodup, List.pairwise_map, List.pairwise_filterMap]
    refine (List.pairwise_map.1 (h.sublist (List.filter_sublist.map _))).imp ?_
    intro d d' hne x hx x' hx'
    obtain ⟨excerpt, -, rfl⟩ := Option.map_eq_some_iff.1 hx
    obtain ⟨excerpt', -, rfl⟩ := Option.map_eq_some_iff.1 hx'
    exact hne
  rw [search, search, Document.mergeSort_eq_of_perm Prod.fst hfound
    ((hperm.filter _).filterMap _)]

namespace TagIndex

theorem sorted_filter_eq_of_perm (h : (documents.map Document.path).Nodup)
    (hperm : documents.Perm documents') (p : Document → Bool) :
    Document.sorted ((available documents).filter p) =
      Document.sorted ((available documents').filter p) :=
  Document.sorted_eq_of_perm ((nodup_available h).sublist (List.filter_sublist.map _))
    ((hperm.filter _).filter _)

/-- The same tags have sections. -/
theorem tagPaths_eq_of_perm (h : (documents.map Document.path).Nodup)
    (hperm : documents.Perm documents') : tagPaths documents = tagPaths documents' := by
  have h' : (documents'.map Document.path).Nodup := (hperm.map _).nodup_iff.1 h
  have hmem : (tagPaths documents).Perm (tagPaths documents') := by
    rw [List.perm_ext_iff_of_nodup (nodup_tagPaths _) (nodup_tagPaths _)]
    intro p
    simp only [mem_tagPaths h, mem_tagPaths h', hperm.mem_iff]
  exact hmem.eq_of_pairwise (fun p q _ _ hpq hqp => absurd hqp hpq.not_precedes)
    (pairwise_tagPaths _) (pairwise_tagPaths _)

/-- **The index has the same sections in the same order.** -/
theorem index_eq_of_perm (h : (documents.map Document.path).Nodup)
    (hperm : documents.Perm documents') (untagged : Text) :
    index documents untagged = index documents' untagged := by
  have h' : (documents'.map Document.path).Nodup := (hperm.map _).nodup_iff.1 h
  have htagged (p : List Text) : tagged documents p = tagged documents' p :=
    sorted_filter_eq_of_perm h hperm _
  have hloose : loose documents = loose documents' := sorted_filter_eq_of_perm h hperm _
  have hsection (paths : List (List Text)) :
      tagSection documents paths = tagSection documents' paths := by
    funext p
    simp only [tagSection, htagged]
  rw [index_eq h, index_eq h', tagPaths_eq_of_perm h hperm, hsection, looseSection, looseSection,
    hloose]

end TagIndex

end Listings

/-- **Listings do not depend on the order of loading.**  Documents of different paths are ordered by
their latest dates and then by the bytes of their paths, and this order is strict and total; so a
sorted list, the hits of a search and the index of tags are the same from every permutation. -/
theorem listings_of_perm {documents documents' : List Document}
    (h : (documents.map Document.path).Nodup) (hperm : documents.Perm documents') :
    IsStrictTotalOrder {d // d ∈ documents} (fun a b => Document.compare a.1 b.1 = .lt) ∧
    (∀ a b, Document.compare a b = .lt ↔ Document.Newer a b ∨
      a.lastUpdated = b.lastUpdated ∧ Text.bytes a.path < Text.bytes b.path) ∧
    (∀ d x, Document.lastUpdated d = some x ↔
      Date.IsLatest (d.flags.updated.filterMap Date.read?) x) ∧
    Document.sorted documents = Document.sorted documents' ∧
    (∀ query, search documents query = search documents' query) ∧
    ∀ untagged, TagIndex.render documents untagged = TagIndex.render documents' untagged := by
  refine ⟨Document.isStrictTotalOrder h, fun a b => Document.compare_eq_lt_iff,
    fun d x => Document.lastUpdated_eq_some_iff, Document.sorted_eq_of_perm h hperm,
    search_eq_of_perm h hperm, fun untagged => ?_⟩
  rw [TagIndex.render, TagIndex.render, TagIndex.index_eq_of_perm h hperm]

/-- Three documents, of which one has a date that cannot be read beside another one. -/
theorem listings_of_perm_of_three :
    let a : Document := ⟨lit "/a.md", [], { updated := [lit "2020-05-01", lit "20-5-1"] }, false⟩
    let b : Document := ⟨lit "/b.md", [], {}, false⟩
    let c : Document := ⟨lit "/c.md", [], { updated := [lit "2021-03-04"] }, false⟩
    ([c, a, b].map Document.path).Nodup ∧ [c, a, b].Perm [b, a, c] ∧
      Document.sorted [c, a, b] = [c, a, b] ∧ Document.sorted [b, a, c] = [c, a, b] := by
  intro a b c
  have hdistinct : ([c, a, b].map Document.path).Nodup := by decide +kernel
  have hperm : [c, a, b].Perm [b, a, c] := by decide +kernel
  have hsorted : Document.sorted [c, a, b] = [c, a, b] :=
    List.mergeSort_of_pairwise (by decide +kernel)
  obtain ⟨-, -, -, heq, -⟩ := listings_of_perm hdistinct hperm
  exact ⟨hdistinct, hperm, hsorted, heq.symm.trans hsorted⟩

end WikiPress
