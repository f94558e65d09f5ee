import WikiPress.Proofs.Excerpt.MaximalRuns
import WikiPress.Proofs.Text.Case
import WikiPress.Search
import Mathlib.Data.List.Infix

/-!
# Proofs/Search/Agreement — the two matchers of a text search

    query  ⊑  lower case of the body              is the document found?
    folded query  ⊑  folded body                  has it an excerpt?

A search looks for the query in the lower case of a body, and the excerpt is made of the places where
it occurs up to case.  Lower case and folding do not always agree.  A document found by its body has
an excerpt unless the query was found in a dotted capital I (`excerpt?_isSome_of_isInfix`), and a
document with an excerpt is found if neither the query nor the body in lower case has characters that
fold to what has another lower case (`infix_of_excerpt?_isSome`).
-/

namespace WikiPress

open Text Excerpt

/-! ## Occurrences are parts of the folded text -/

namespace Excerpt

variable {text query : Text}

/-- A query occurs if it is a part of the text, both folded. -/
theorem exists_occurs_iff :
    (∃ p, Occurs query text p) ↔ query.map simpleFold <:+: text.map simpleFold := by
  constructor
  · rintro ⟨p, hp⟩
    rw [← hp, slice_add]
    exact ((List.take_prefix _ _).isInfix.trans (List.drop_suffix _ _).isInfix).map _
  · rintro ⟨u, v, huv⟩
    obtain ⟨us, w, rfl, hus, -⟩ := List.map_eq_append_iff.1 huv.symm
    obtain ⟨x, s, rfl, hx, hs⟩ := List.map_eq_append_iff.1 hus
    have hlength : query.length = s.length := by
      rw [← List.length_map simpleFold, ← hs, List.length_map]
    refine ⟨x.length, ?_⟩
    rw [Occurs, slice_add, List.append_assoc, List.drop_left, hlength, List.take_left, hs]

/-- **There is an excerpt if the query is a part of the text, both folded.** -/
theorem excerpt?_isSome_iff (hquery : query ≠ []) :
    (excerpt? text query).isSome ↔ query.map simpleFold <:+: text.map simpleFold := by
  rw [← exists_occurs_iff, Option.isSome_iff_ne_none, Ne, excerpt?_eq_none_iff hquery,
    fragments_eq_nil_iff hquery, occurrences_eq_nil_iff hquery, not_forall_not]

/-- **What stands in the lower case of a text has an excerpt**, if it has nothing of a dotted
capital I, -/
theorem excerpt?_isSome_of_isInfix (hquery : query ≠ [])
    (hdotted : 'İ' ∈ text → ∀ c ∈ query, c ∉ lowerChar 'İ') (h : query <:+: toLower text) :
    (excerpt? text query).isSome :=
  (excerpt?_isSome_iff hquery).2 (infix_of_infix_lowerAfter hdotted h)

/-- …and what has an excerpt stands in the lower case, if both are settled. -/
theorem infix_of_excerpt?_isSome (hquery : query ≠ []) (hsettled : ∀ c ∈ query, Settled c)
    (htext : ∀ c ∈ toLower text, Settled c) (h : (excerpt? text query).isSome) :
    query <:+: toLower text :=
  infix_lowerAfter_of_isInfix hsettled htext ((excerpt?_isSome_iff hquery).1 h)

end Excerpt

/-! ## Queries -/

namespace Query

theorem flagQuery?_ne_text {seen t content : Text} : flagQuery? seen t ≠ some (.text content) := by
  induction t generalizing seen with
  | nil => nofun
  | cons c t ih =>
    rw [flagQuery?]
    split
    · nofun
    · split
      · nofun
      · exact ih

/-- A text query is the input in lower case, and not blank. -/
theorem eq_of_read?_eq_text {input content : Text} (h : read? input = some (.text content)) :
    content = toLower (trim input) ∧ content ≠ [] := by
  rw [read?] at h
  split at h
  · contradiction
  · next t heq =>
    cases hflag : flagQuery? [] t with
    | some query =>
      rw [hflag, Option.getD_some] at h
      exact absurd (hflag.trans h) flagQuery?_ne_text
    | none =>
      rw [hflag, Option.getD_none] at h
      obtain rfl := Query.text.inj (Option.some.inj h)
      exact ⟨heq.symm, List.cons_ne_nil _ _⟩
  · next hnil _ =>
    obtain rfl := Query.text.inj (Option.some.inj h)
    exact ⟨rfl, hnil⟩

end Query

/-! ## Searches -/

section Search

variable {d : Document} {query : Query}

/-- A search among one document that is no error. -/
theorem search_singleton (query : Query) (hd : d.isError = false) :
    search [d] query = ((query.answer? d).map (Hit.ofDocument d)).toList := by
  have hfilter : [d].filter (!·.isError) = [d] := by simp [hd]
  rw [search, hfilter]
  cases hanswer : query.answer? d with
  | none => simp [hanswer]
  | some excerpt => simp [hanswer]

theorem search_singleton_of_isError (query : Query) (hd : d.isError = true) :
    search [d] query = [] := by
  have hfilter : [d].filter (!·.isError) = [] := by simp [hd]
  rw [search, hfilter, List.filterMap_nil, List.mergeSort_nil, List.map_nil]

/-- **A search finds each document by itself**; only the order is that of listings. -/
theorem search_perm (documents : List Document) (query : Query) :
    (search documents query).Perm (documents.flatMap fun d => search [d] query) := by
  have hsorted := (List.mergeSort_perm ((documents.filter (!·.isError)).filterMap fun d =>
    (query.answer? d).map (d, ·)) fun a b => Document.listedBefore a.1 b.1).map
      fun found => Hit.ofDocument found.1 found.2
  refine hsorted.trans (List.Perm.of_eq ?_)
  clear hsorted
  induction documents with
  | nil => rfl
  | cons d documents ih =>
    rw [List.flatMap_cons, ← ih]
    cases hd : d.isError with
    | true =>
      rw [search_singleton_of_isError query hd, List.filter_cons_of_neg (by simp [hd]),
        List.nil_append]
    | false =>
      rw [search_singleton query hd, List.filter_cons_of_pos (by simp [hd]), List.filterMap_cons]
      cases query.answer? d <;> rfl

/-- A document whose title does not hold the query is found by its body, with the excerpt of it. -/
theorem search_singleton_text {content : Text} (hd : d.isError = false)
    (htitle : Text.contains content (toLower d.flags.title) = false) :
    search [d] (.text content) =
      if content <:+: toLower d.body then [Hit.ofDocument d (excerpt? d.body content)] else [] := by
  rw [search_singleton _ hd, Query.answer?, htitle, if_neg Bool.false_ne_true]
  by_cases hbody : content <:+: toLower d.body
  · rw [if_pos hbody, if_pos (contains_iff_isInfix.2 hbody)]
    rfl
  · rw [if_neg hbody, if_neg (mt contains_iff_isInfix.1 hbody)]
    rfl

end Search

/-! ## Agreement -/

/-- **Where the matchers of a text search agree.**  A document that is no error, and whose title in
lower case does not hold the query, is found exactly if the lower case of its body holds it, and its
hit has the excerpt of the body, whatever that is.

1. There is an excerpt if the body is found and has no dotted capital I, or the query nothing of its
   lower case.
2. The body is found if there is an excerpt and all characters of the query, and of the body in
   lower case, are the lower case of what they fold to.
3. With both the document is found exactly if there is an excerpt, and the hit has that.

Among other documents, a document is found as it is by itself. -/
theorem search_text_agrees {input content : Text} (hread : Query.read? input = some (.text content))
    {d : Document} (hd : d.isError = false)
    (htitle : Text.contains content (toLower d.flags.title) = false) :
    search [d] (.text content) =
      (if content <:+: toLower d.body then [Hit.ofDocument d (excerpt? d.body content)] else []) ∧
    (('İ' ∈ d.body → ∀ c ∈ content, c ∉ lowerChar 'İ') → content <:+: toLower d.body →
      (excerpt? d.body content).isSome) ∧
    ((∀ c ∈ content ++ toLower d.body, Settled c) → (excerpt? d.body content).isSome →
      content <:+: toLower d.body) ∧
    (('İ' ∈ d.body → ∀ c ∈ content, c ∉ lowerChar 'İ') →
      (∀ c ∈ content ++ toLower d.body, Settled c) → search [d] (.text content) =
        ((excerpt? d.body content).map fun excerpt => Hit.ofDocument d (some excerpt)).toList) ∧
    ∀ documents : List Document, (search documents (.text content)).Perm
      (documents.flatMap fun d => search [d] (.text content)) := by
  have hcontent := (Query.eq_of_read?_eq_text hread).2
  have hsearch := search_singleton_text hd htitle
  have hfound : ('İ' ∈ d.body → ∀ c ∈ content, c ∉ lowerChar 'İ') → content <:+: toLower d.body →
      (excerpt? d.body content).isSome := excerpt?_isSome_of_isInfix hcontent
  have hback : (∀ c ∈ content ++ toLower d.body, Settled c) → (excerpt? d.body content).isSome →
      content <:+: toLower d.body := fun hsettled =>
    infix_of_excerpt?_isSome hcontent (fun c hc => hsettled c (List.mem_append_left _ hc))
      fun c hc => hsettled c (List.mem_append_right _ hc)
  refine ⟨hsearch, hfound, hback, fun hdotted hsettled => ?_, fun documents => search_perm _ _⟩
  rw [hsearch]
  cases hexcerpt : excerpt? d.body content with
  | some excerpt => exact if_pos (hback hsettled (by rw [hexcerpt]; rfl))
  | none =>
    refine if_neg fun hbody => ?_
    have hsome := hfound hdotted hbody
    rw [hexcerpt] at hsome
    contradiction

/-- …as they do for a word in capitals. -/
theorem search_text_agrees_in_capitals :
    Query.read? (lit " CAFÉ ") = some (.text (lit "café")) ∧
    (Document.ofFetched ⟨lit "/a.md", lit "@title: x\nDas Café", false⟩).isError = false ∧
    Text.contains (lit "café")
      (toLower (Document.ofFetched ⟨lit "/a.md", lit "@title: x\nDas Café", false⟩).flags.title) =
        false ∧
    search [Document.ofFetched ⟨lit "/a.md", lit "@title: x\nDas Café", false⟩]
      (.text (lit "café")) = [⟨lit "/a.md", lit "x", [], none,
        some (lit "Das <span class=\"highlight\">Café</span>")⟩] := by
  have hread : Query.read? (lit " CAFÉ ") = some (.text (lit "café")) := by decide +kernel
  have herror : (Document.ofFetched ⟨lit "/a.md", lit "@title: x\nDas Café", false⟩).isError =
      false := by decide +kernel
  have htitle : Text.contains (lit "café")
      (toLower (Document.ofFetched ⟨lit "/a.md", lit "@title: x\nDas Café", false⟩).flags.title) =
        false := by decide +kernel
  have hbody : (Document.ofFetched ⟨lit "/a.md", lit "@title: x\nDas Café", false⟩).body =
      lit "Das Café" := by decide +kernel
  have hdotted : 'İ' ∉ (Document.ofFetched ⟨lit "/a.md", lit "@title: x\nDas Café", false⟩).body := by
    rw [hbody]
    decide +kernel
  have hsettled : ∀ c ∈ lit "café" ++ toLower
      (Document.ofFetched ⟨lit "/a.md", lit "@title: x\nDas Café", false⟩).body, Settled c := by
    have hlower : lit "café" ++ toLower (lit "Das Café") = lit "cafédas café" := by decide +kernel
    have hall : (lit "cafédas café").all (fun c => decide (Settled c)) = true := by decide +kernel
    rw [hbody, hlower]
    exact fun c hc => of_decide_eq_true (List.all_eq_true.mp hall c hc)
  have hexcerpt : excerpt?
      (Document.ofFetched ⟨lit "/a.md", lit "@title: x\nDas Café", false⟩).body (lit "café") =
        some (lit "Das <span class=\"highlight\">Café</span>") := by decide +kernel
  have hflags : (Document.ofFetched ⟨lit "/a.md", lit "@title: x\nDas Café", false⟩).flags =
      { title := lit "x" } := by decide +kernel
  obtain ⟨-, -, -, hagrees, -⟩ := search_text_agrees hread herror htitle
  refine ⟨hread, herror, htitle, (hagrees (fun h => absurd h hdotted) hsettled).trans ?_⟩
  rw [hexcerpt, Option.map_some, Option.toList_some, Hit.ofDocument, hflags]
  rfl

/-- **Where they do not agree.**  A dotted capital I has an i in lower case, so a search for one finds
it, but an i does not occur in it; and a long s is an s up to case, but not in lower case. -/
theorem search_text_disagrees :
    (Query.read? (lit "i") = some (.text (lit "i")) ∧
      excerpt? (Document.ofFetched ⟨lit "/a.md", lit "@title: x\nİ", false⟩).body (lit "i") = none ∧
      search [Document.ofFetched ⟨lit "/a.md", lit "@title: x\nİ", false⟩] (.text (lit "i")) =
        [⟨lit "/a.md", lit "x", [], none, none⟩]) ∧
    Query.read? (lit "s") = some (.text (lit "s")) ∧
      excerpt? (Document.ofFetched ⟨lit "/a.md", lit "@title: x\nſ", false⟩).body (lit "s") =
        some (lit "<span class=\"highlight\">ſ</span>") ∧
      search [Document.ofFetched ⟨lit "/a.md", lit "@title: x\nſ", false⟩] (.text (lit "s")) = [] := by
  refine ⟨⟨by decide +kernel, by decide +kernel, ?_⟩, by decide +kernel, by decide +kernel, ?_⟩
  · rw [search_singleton _ (by decide +kernel)]
    decide +kernel
  · rw [search_singleton _ (by decide +kernel)]
    decide +kernel

end WikiPress
