import WikiPress.Proofs.Text.Lines
import WikiPress.Proofs.Text.Order
import WikiPress.TagIndex

/-!
# Proofs/TagIndex/Hierarchy — what is entered in the tag hierarchy

    a/b of d, a of e      ⟶      root ── a ⟨e⟩ ── b ⟨d⟩

A path of segments leads to a node, or to none (`documentsAt?`).  Entering a document under a path
makes sure that there is a node at every prefix of it, and changes the documents at its end only
(`documentsAt?_insert`).  So after all documents of different paths were entered, there are nodes
at the prefixes of their tags, and each holds the documents that carry precisely its tag
(`documentsAt?_hierarchy`).  The children of every node stand in byte order (`Ordered`), which is
what makes a search among them find what was entered.
-/

namespace WikiPress.TagIndex

namespace Node

/-- Induction on nodes, where the children are covered. -/
@[elab_as_elim]
theorem ind {motive : Node → Prop} (node : ∀ documents children,
      (∀ child ∈ children, motive child.2) → motive (.node documents children)) : ∀ n, motive n
  | .node documents children => node documents children fun child h =>
    have : sizeOf child.2 < sizeOf children := by
      have hmem := List.sizeOf_lt_of_mem h
      cases child
      simp at hmem ⊢
      omega
    ind node child.2

/-- Children by segment, in strict byte order. -/
def Ascending (children : List (Text × Node)) : Prop :=
  (children.map Prod.fst).Pairwise (Text.compare · · = .lt)

/-- **A node all of whose children stand in byte order**, and theirs. -/
inductive Ordered : Node → Prop
  | node {documents : List Document} {children : List (Text × Node)}
      (hascending : Ascending children) (hchildren : ∀ child ∈ children, Ordered child.2) :
      Ordered (.node documents children)

/-- **The documents at the end of a path**, if there is a node. -/
def documentsAt? : Node → List Text → Option (List Document)
  | n, [] => some n.documents
  | n, segment :: rest => (n.children.lookup segment).bind fun child => child.documentsAt? rest

/-! ## One child changed -/

section Children

variable {segment : Text} {change : Node → Node} {children : List (Text × Node)}

theorem mem_map_fst_updateChild {s : Text} :
    s ∈ (updateChild segment change children).map Prod.fst ↔
      s = segment ∨ s ∈ children.map Prod.fst := by
  induction children with
  | nil => simp [updateChild]
  | cons first rest ih =>
    obtain ⟨s', child⟩ := first
    rw [updateChild]
    cases hcompare : Text.compare segment s' with
    | lt => simp
    | eq =>
      obtain rfl : segment = s' := Std.LawfulEqCmp.eq_of_compare hcompare
      simp
    | gt =>
      simp only [List.map_cons, List.mem_cons, ih]
      exact or_left_comm

/-- The children stay in byte order. -/
theorem Ascending.updateChild (h : Ascending children) :
    Ascending (updateChild segment change children) := by
  induction children with
  | nil => exact List.pairwise_singleton _ _
  | cons first rest ih =>
    obtain ⟨s, child⟩ := first
    obtain ⟨hfirst, hrest⟩ := List.pairwise_cons.1 h
    rw [Node.updateChild]
    cases hcompare : Text.compare segment s with
    | lt =>
      refine List.pairwise_cons.2 ⟨fun s' hs' => ?_, h⟩
      rcases List.mem_cons.1 hs' with rfl | hs'
      · exact hcompare
      · exact Text.compare_eq_lt_trans hcompare (hfirst s' hs')
    | eq => exact h
    | gt =>
      refine List.pairwise_cons.2 ⟨fun s' hs' => ?_, ih hrest⟩
      rcases mem_map_fst_updateChild.1 hs' with rfl | hs'
      · exact Std.OrientedCmp.lt_of_gt hcompare
      · exact hfirst s' hs'

/-- A child that is there after the change was there before, or is the changed one. -/
theorem mem_updateChild {c : Text × Node} (h : c ∈ updateChild segment change children) :
    c ∈ children ∨ c.2 = change empty ∨
      ∃ child, (segment, child) ∈ children ∧ c.2 = change child := by
  induction children with
  | nil =>
    obtain rfl : c = (segment, change empty) := by simpa [updateChild] using h
    exact .inr (.inl rfl)
  | cons first rest ih =>
    obtain ⟨s, child⟩ := first
    rw [updateChild] at h
    cases hcompare : Text.compare segment s with
    | lt =>
      rw [hcompare] at h
      rcases List.mem_cons.1 h with rfl | h
      · exact .inr (.inl rfl)
      · exact .inl h
    | eq =>
      rw [hcompare] at h
      obtain rfl : segment = s := Std.LawfulEqCmp.eq_of_compare hcompare
      rcases List.mem_cons.1 h with rfl | h
      · exact .inr (.inr ⟨child, List.mem_cons_self, rfl⟩)
      · exact .inl (List.mem_cons_of_mem _ h)
    | gt =>
      rw [hcompare] at h
      rcases List.mem_cons.1 h with rfl | h
      · exact .inl List.mem_cons_self
      · rcases ih h with h | h | ⟨child', hmem, h⟩
        · exact .inl (List.mem_cons_of_mem _ h)
        · exact .inr (.inl h)
        · exact .inr (.inr ⟨child', List.mem_cons_of_mem _ hmem, h⟩)

theorem lookup_cons (s s' : Text) (child : Node) (rest : List (Text × Node)) :
    ((s', child) :: rest).lookup s = if s = s' then some child else rest.lookup s := by
  rw [List.lookup_cons]
  by_cases h : s = s'
  · rw [if_pos h, beq_iff_eq.2 h]
  · rw [if_neg h, beq_eq_false_iff_ne.2 h]

theorem lookup_eq_none (h : segment ∉ children.map Prod.fst) : children.lookup segment = none := by
  rw [List.lookup_eq_none_iff]
  rintro ⟨s, child⟩ hmem
  refine bne_iff_ne.2 fun heq => h (List.mem_map.2 ⟨_, hmem, heq.symm⟩)

/-- **The child that is changed is the one at the segment**, and no other. -/
theorem lookup_updateChild (h : Ascending children) (s : Text) :
    (updateChild segment change children).lookup s =
      if s = segment then some (change ((children.lookup segment).getD empty))
      else children.lookup s := by
  induction children with
  | nil => rw [updateChild, lookup_cons, List.lookup_nil, List.lookup_nil, Option.getD_none]
  | cons first rest ih =>
    obtain ⟨s', child⟩ := first
    obtain ⟨hfirst, hrest⟩ := List.pairwise_cons.1 h
    rw [updateChild]
    cases hcompare : Text.compare segment s' with
    | lt =>
      have hmissing : segment ∉ ((s', child) :: rest).map Prod.fst := by
        rw [List.map_cons, List.mem_cons, not_or]
        exact ⟨Text.ne_of_compare_eq_lt hcompare, fun hmem =>
          Text.ne_of_compare_eq_lt (Text.compare_eq_lt_trans hcompare (hfirst _ hmem)) rfl⟩
      rw [lookup_eq_none hmissing, Option.getD_none, lookup_cons]
    | eq =>
      obtain rfl : segment = s' := Std.LawfulEqCmp.eq_of_compare hcompare
      rw [lookup_cons, lookup_cons, lookup_cons, if_pos rfl, Option.getD_some]
      split <;> rfl
    | gt =>
      have hne : segment ≠ s' := fun heq =>
        Text.ne_of_compare_eq_lt (Std.OrientedCmp.lt_of_gt hcompare) heq.symm
      rw [lookup_cons, lookup_cons, lookup_cons, if_neg hne, ih hrest]
      by_cases hs : s = s'
      · rw [if_pos hs, if_pos hs, if_neg fun heq => hne (heq.symm.trans hs)]
      · rw [if_neg hs, if_neg hs]

end Children

/-! ## One document entered -/

theorem ordered_empty : Ordered empty := .node .nil nofun

theorem Ordered.insert {n : Node} (h : Ordered n) (d : Document) (path : List Text) :
    Ordered (n.insert d path) := by
  induction path generalizing n with
  | nil =>
    obtain ⟨hascending, hchildren⟩ := h
    exact .node hascending hchildren
  | cons segment rest ih =>
    obtain ⟨hascending, hchildren⟩ := h
    refine .node hascending.updateChild fun c hc => ?_
    rcases mem_updateChild hc with hmem | hchanged | ⟨child, hmem, hchanged⟩
    · exact hchildren c hmem
    · rw [hchanged]
      exact ih ordered_empty
    · rw [hchanged]
      exact ih (hchildren _ hmem)

theorem Ordered.of_lookup {n child : Node} {segment : Text} (h : Ordered n)
    (hchild : n.children.lookup segment = some child) : Ordered child := by
  obtain ⟨-, hchildren⟩ := h
  obtain ⟨before, after, hmem, -⟩ := List.lookup_eq_some_iff.1 hchild
  refine hchildren (segment, child) ?_
  rw [children] at hmem
  rw [hmem]
  exact List.mem_append_right _ List.mem_cons_self

theorem documentsAt?_empty {path : List Text} (h : path ≠ []) : empty.documentsAt? path = none := by
  cases path with
  | nil => exact absurd rfl h
  | cons => rfl

/-- **Entering a document** changes the documents at the end of its path, and puts nodes without
documents at the prefixes that have none. -/
theorem documentsAt?_insert {n : Node} (h : Ordered n) (d : Document) (path p : List Text) :
    (n.insert d path).documentsAt? p =
      if p = path then some (addDocument ((n.documentsAt? p).getD []) d)
      else if p <+: path then some ((n.documentsAt? p).getD [])
      else n.documentsAt? p := by
  induction path generalizing n p with
  | nil =>
    obtain ⟨hascending, hchildren⟩ := h
    cases p with
    | nil => rfl
    | cons s p => rfl
  | cons segment rest ih =>
    cases p with
    | nil =>
      obtain ⟨hascending, hchildren⟩ := h
      rw [if_neg (List.cons_ne_nil _ _).symm, if_pos List.nil_prefix]
      rfl
    | cons s p =>
      have hlookup : (n.insert d (segment :: rest)).children.lookup s =
          if s = segment then some (((n.children.lookup segment).getD empty).insert d rest)
          else n.children.lookup s := by
        obtain ⟨hascending, hchildren⟩ := h
        exact lookup_updateChild hascending s
      rw [documentsAt?, hlookup, documentsAt?]
      by_cases hs : s = segment
      · subst hs
        simp only [if_true, Option.bind_some, List.cons_inj_right, List.prefix_cons_inj]
        cases hchild : n.children.lookup s with
        | some child => exact ih (h.of_lookup hchild) p
        | none =>
          -- what is missing is like an empty node, which has nothing below it
          rw [Option.getD_none, ih ordered_empty, Option.bind_none]
          by_cases hp : p = []
          · subst hp
            rw [if_pos List.nil_prefix, if_pos List.nil_prefix]
            rfl
          · rw [documentsAt?_empty hp]
      · have hne : s :: p ≠ segment :: rest := fun heq => hs (List.cons.inj heq).1
        have hprefix : ¬ s :: p <+: segment :: rest := fun hpre =>
          hs (List.cons_prefix_cons.1 hpre).1
        rw [if_neg hs, if_neg hne, if_neg hprefix]

theorem addDocument_addDocument (documents : List Document) (d : Document) :
    addDocument (addDocument documents d) d = addDocument documents d := by
  by_cases h : documents.any (·.path == d.path) = true
  · rw [addDocument, addDocument, if_pos h, if_pos h]
  · have hadded : (documents ++ [d]).any (·.path == d.path) = true := by simp
    rw [addDocument, addDocument, if_neg h, if_pos hadded]

/-- A document of a new path comes last. -/
theorem addDocument_of_not_mem {documents : List Document} {d : Document}
    (h : d.path ∉ documents.map Document.path) : addDocument documents d = documents ++ [d] := by
  rw [addDocument, if_neg]
  rw [List.any_eq_true]
  rintro ⟨other, hother, hpath⟩
  exact h (List.mem_map.2 ⟨other, hother, beq_iff_eq.1 hpath⟩)

end Node

open Node

/-! ## All documents entered -/

/-- Whether a document carries precisely the tag of these segments. -/
def carries (p : List Text) (d : Document) : Bool :=
  d.flags.tags.any fun tag => Text.splitOn '/' tag == p

/-- Whether a document carries that tag or one below it. -/
def reaches (p : List Text) (d : Document) : Bool :=
  d.flags.tags.any fun tag => p.isPrefixOf (Text.splitOn '/' tag)

/-- A document entered under each of some tags. -/
def enterTags (d : Document) (tags : List Text) (root : Node) : Node :=
  tags.foldl (fun root tag => root.insert d (Text.splitOn '/' tag)) root

theorem reaches_of_carries {p : List Text} {d : Document} (h : carries p d = true) :
    reaches p d = true := by
  obtain ⟨tag, htag, hp⟩ := List.any_eq_true.1 h
  obtain rfl := beq_iff_eq.1 hp
  exact List.any_eq_true.2 ⟨tag, htag, List.isPrefixOf_iff_prefix.2 List.prefix_rfl⟩

theorem ordered_enterTags {n : Node} (h : Ordered n) (d : Document) (tags : List Text) :
    Ordered (enterTags d tags n) := by
  induction tags generalizing n with
  | nil => exact h
  | cons tag tags ih => exact ih (h.insert d _)

theorem documentsAt?_enterTags {n : Node} (h : Ordered n) (d : Document) (tags : List Text)
    (p : List Text) : (enterTags d tags n).documentsAt? p =
      if tags.any fun tag => Text.splitOn '/' tag == p then
        some (addDocument ((n.documentsAt? p).getD []) d)
      else if tags.any fun tag => p.isPrefixOf (Text.splitOn '/' tag) then
        some ((n.documentsAt? p).getD [])
      else n.documentsAt? p := by
  induction tags generalizing n with
  | nil => rfl
  | cons tag tags ih =>
    have hstep := ih (h.insert d (Text.splitOn '/' tag))
    rw [documentsAt?_insert h] at hstep
    rw [enterTags, List.foldl_cons, ← enterTags, hstep]
    simp only [List.any_cons, Bool.or_eq_true, beq_iff_eq, List.isPrefixOf_iff_prefix]
    by_cases hp : p = Text.splitOn '/' tag
    · subst hp
      simp only [if_true, true_or, Option.getD_some, addDocument_addDocument, ite_self]
    · by_cases hprefix : p <+: Text.splitOn '/' tag
      · simp only [if_neg hp, Option.getD_some, Ne.symm hp, hprefix, false_or, true_or, if_true,
          ite_self]
      · simp only [if_neg hp, Ne.symm hp, hprefix, false_or, if_false]

theorem ordered_hierarchy (documents : List Document) : Ordered (hierarchy documents) := by
  induction documents using List.reverseRecOn with
  | nil => exact ordered_empty
  | append_singleton documents d ih =>
    have happend : hierarchy (documents ++ [d]) = enterTags d d.flags.tags (hierarchy documents) :=
      List.foldl_append
    rw [happend]
    exact ordered_enterTags ih d _

/-- **The hierarchy of documents of different paths**: there is a node at each prefix of a tag, and
it holds the documents that carry precisely this tag, in the order given. -/
theorem documentsAt?_hierarchy {documents : List Document}
    (h : (documents.map Document.path).Nodup) (p : List Text) :
    (hierarchy documents).documentsAt? p =
      if p = [] ∨ documents.any (reaches p) then some (documents.filter (carries p)) else none := by
  induction documents using List.reverseRecOn with
  | nil =>
    by_cases hp : p = []
    · rw [if_pos (.inl hp), hp]
      rfl
    · rw [if_neg (by simp [hp])]
      exact documentsAt?_empty hp
  | append_singleton documents d ih =>
    rw [List.map_append, List.nodup_append] at h
    have hnew : d.path ∉ documents.map Document.path := fun hmem =>
      h.2.2 _ hmem _ (by simp) rfl
    have happend : hierarchy (documents ++ [d]) = enterTags d d.flags.tags (hierarchy documents) :=
      List.foldl_append
    have hbefore :
        ((hierarchy documents).documentsAt? p).getD [] = documents.filter (carries p) := by
      rw [ih h.1]
      split
      · rfl
      · next hnone =>
        refine (List.filter_eq_nil_iff.2 fun other hother hcarries => hnone (.inr ?_)).symm
        exact List.any_eq_true.2 ⟨other, hother, reaches_of_carries hcarries⟩
    rw [happend, documentsAt?_enterTags (ordered_hierarchy documents), hbefore, ← carries,
      ← reaches, List.filter_append, List.any_append]
    cases hcarries : carries p d with
    | true =>
      have hpath : d.path ∉ (documents.filter (carries p)).map Document.path := fun hmem =>
        hnew ((List.filter_sublist.map Document.path).subset hmem)
      simp [hcarries, reaches_of_carries hcarries, addDocument_of_not_mem hpath]
    | false =>
      cases hreaches : reaches p d with
      | true => simp [hcarries, hreaches]
      | false => simp [hcarries, hreaches, ih h.1]

end WikiPress.TagIndex
