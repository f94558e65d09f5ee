import Mathlib.Data.List.Forall2
import WikiPress.Proofs.Html.Paragraph
import WikiPress.Proofs.Page.Anchors
import WikiPress.Proofs.Page.Numbering

/-!
# Proofs/Page/Notes — which footnotes of a page get their label

    ⟨details⟩ ── ⟨section.footnotes⟩ ── ⟨ol⟩         ⟨p⟩ label, ⟨ol.footnotes-list⟩
    ⟨section.footnotes⟩ ── ⟨ol⟩              ──▸      ⟨ol⟩

The elements that satisfy a condition are found in the order of the page (`found`).  Replacing the
first of them changes that one and what is found inside it, and nothing else that is found
(`found_replaceFirst`).  So of all sections of footnotes the first is labelled (`Labelled`), and the
others begin as they did before (`LabelsFirst`).
-/

namespace WikiPress.Page

open Html

/-! ## Elements in the order of the page -/

mutual

/-- The elements in a node, itself included, that satisfy `p`; what a template holds belongs to no
page. -/
def foundIn (p : Node → Bool) : Node → List Node
  | .element space name attributes children =>
    (if p (.element space name attributes children) then [.element space name attributes children]
      else []) ++
      if space == .html && name == lit "template" then [] else found p children
  | _ => []

/-- **The elements among and in nodes that satisfy `p`**, in the order of the page. -/
def found (p : Node → Bool) : List Node → List Node
  | [] => []
  | node :: rest => foundIn p node ++ found p rest

end

/-- Whether an element satisfies `p` is told by its tag. -/
def IsTagged (p : Node → Bool) : Prop :=
  ∀ space name attributes children children',
    p (.element space name attributes children) = p (.element space name attributes children')

section Found

variable {p q : Node → Bool} {f : Node → Node} {nodes more : List Node} {node : Node}

theorem found_append (p : Node → Bool) (nodes more : List Node) :
    found p (nodes ++ more) = found p nodes ++ found p more := by
  induction nodes with
  | nil => rfl
  | cons node nodes ih => rw [List.cons_append, found, found, ih, List.append_assoc]

theorem found_singleton (p : Node → Bool) (node : Node) : found p [node] = foundIn p node :=
  List.append_nil _

mutual

theorem forall_foundIn (p : Node → Bool) : ∀ node : Node, ∀ s ∈ foundIn p node, p s = true
  | .text _ | .comment _ | .doctype _ => fun _ h => nomatch h
  | .element space name attributes children => by
    have hinside : ∀ s ∈ if space == .html && name == lit "template" then [] else found p children,
        p s = true := by
      split
      · exact fun _ h => nomatch h
      · exact forall_found p children
    intro s h
    rw [foundIn] at h
    rcases List.mem_append.1 h with hself | h
    · split at hself
      · next hnode => rwa [List.mem_singleton.1 hself]
      · exact absurd hself List.not_mem_nil
    · exact hinside s h

/-- What is found satisfies the condition. -/
theorem forall_found (p : Node → Bool) : ∀ nodes : List Node, ∀ s ∈ found p nodes, p s = true
  | [] => fun _ h => nomatch h
  | node :: rest => fun s h => by
    rw [found] at h
    rcases List.mem_append.1 h with h | h
    · exact forall_foundIn p node s h
    · exact forall_found p rest s h

end

theorem isTagged_isNamed (name : Text) : IsTagged (Node.isNamed name) := fun _ _ _ _ _ => rfl

theorem isTagged_isNotes : IsTagged isNotes := fun _ _ _ _ _ => rfl

/-! ## The first one replaced -/

mutual

theorem foundIn_eq_nil_of_replaceFirst? (g : Node → List Node) : ∀ node : Node,
    replaceFirst? p g node = none → foundIn p node = []
  | .text _, _ | .comment _, _ | .doctype _, _ => rfl
  | .element space name attributes children, h => by
    rw [replaceFirst?] at h
    split at h
    · contradiction
    · next hp =>
      rw [foundIn, if_neg hp, List.nil_append]
      split at h
      · next htemplate => rw [if_pos htemplate]
      · next htemplate =>
        rw [if_neg htemplate]
        exact found_eq_nil_of_replaceFirstAmong? g children (Option.map_eq_none_iff.1 h)

/-- Where nothing is replaced nothing is found. -/
theorem found_eq_nil_of_replaceFirstAmong? (g : Node → List Node) : ∀ nodes : List Node,
    replaceFirstAmong? p g nodes = none → found p nodes = []
  | [], _ => rfl
  | node :: rest, h => by
    rw [replaceFirstAmong?] at h
    split at h
    · contradiction
    · next hnode =>
      rw [found, foundIn_eq_nil_of_replaceFirst? g node hnode,
        found_eq_nil_of_replaceFirstAmong? g rest (Option.map_eq_none_iff.1 h)]
      rfl

end

/-- Changing an element keeps it among those that satisfy `p`, and what is found inside it is
related. -/
def Changes (p : Node → Bool) (f : Node → Node) (R : Node → Node → Prop) : Prop :=
  ∀ node, p node = true → ∃ inside inside', foundIn p node = node :: inside ∧
    foundIn p (f node) = f node :: inside' ∧ List.Forall₂ R inside inside'

variable {R : Node → Node → Prop}

theorem forall₂_refl (hR : ∀ node, R node node) (nodes : List Node) : List.Forall₂ R nodes nodes :=
  List.forall₂_same.2 fun node _ => hR node

mutual

theorem foundIn_replaceFirst? (hp : IsTagged p) (hf : Changes p f R) (hR : ∀ node, R node node) :
    ∀ (node : Node) (nodes : List Node), replaceFirst? p (fun node => [f node]) node = some nodes →
      ∃ first rest rest', p first = true ∧ foundIn p node = first :: rest ∧
        found p nodes = f first :: rest' ∧ List.Forall₂ R rest rest'
  | .text _, _, h | .comment _, _, h | .doctype _, _, h => nomatch h
  | .element space name attributes children, nodes, h => by
    rw [replaceFirst?] at h
    split at h
    · next hnode =>
      obtain rfl := Option.some.inj h
      obtain ⟨inside, inside', hinside, hinside', hrelated⟩ := hf _ hnode
      exact ⟨_, inside, inside', hnode, hinside, by rw [found_singleton, hinside'], hrelated⟩
    · next hnode =>
      split at h
      · contradiction
      · next htemplate =>
        obtain ⟨children', hchildren, rfl⟩ := Option.map_eq_some_iff.1 h
        obtain ⟨first, rest, rest', hfirst, hrest, hrest', hrelated⟩ :=
          found_replaceFirstAmong? hp hf hR children children' hchildren
        refine ⟨first, rest, rest', hfirst, ?_, ?_, hrelated⟩
        · rw [foundIn, if_neg hnode, if_neg htemplate, List.nil_append, hrest]
        · rw [found_singleton, foundIn, hp _ _ _ children' children, if_neg hnode, if_neg htemplate,
            List.nil_append, hrest']

/-- **Replacing the first element** changes the first one that is found. -/
theorem found_replaceFirstAmong? (hp : IsTagged p) (hf : Changes p f R) (hR : ∀ node, R node node) :
    ∀ nodes nodes' : List Node, replaceFirstAmong? p (fun node => [f node]) nodes = some nodes' →
      ∃ first rest rest', p first = true ∧ found p nodes = first :: rest ∧
        found p nodes' = f first :: rest' ∧ List.Forall₂ R rest rest'
  | [], _, h => nomatch h
  | node :: more, nodes', h => by
    rw [replaceFirstAmong?] at h
    split at h
    · next replaced hreplaced =>
      obtain rfl := Option.some.inj h
      obtain ⟨first, rest, rest', hfirst, hrest, hrest', hrelated⟩ :=
        foundIn_replaceFirst? hp hf hR node replaced hreplaced
      refine ⟨first, rest ++ found p more, rest' ++ found p more, hfirst, ?_, ?_,
        List.rel_append hrelated (forall₂_refl hR _)⟩
      · rw [found, hrest, List.cons_append]
      · rw [found_append, hrest', List.cons_append]
    · next hnone =>
      obtain ⟨more', hmore, rfl⟩ := Option.map_eq_some_iff.1 h
      obtain ⟨first, rest, rest', hfirst, hrest, hrest', hrelated⟩ :=
        found_replaceFirstAmong? hp hf hR more more' hmore
      refine ⟨first, rest, rest', hfirst, ?_, ?_, hrelated⟩
      · rw [found, foundIn_eq_nil_of_replaceFirst? _ node hnone, List.nil_append, hrest]
      · rw [found, foundIn_eq_nil_of_replaceFirst? _ node hnone, List.nil_append, hrest']

end

/-- **What is found once the first element is replaced**: that one, changed, and the others as they
are related. -/
theorem found_replaceFirst (hp : IsTagged p) (hf : Changes p f R) (hR : ∀ node, R node node)
    (nodes : List Node) :
    found p nodes = [] ∧ replaceFirst p (fun node => [f node]) nodes = nodes ∨
      ∃ first rest rest', p first = true ∧ found p nodes = first :: rest ∧
        found p (replaceFirst p (fun node => [f node]) nodes) = f first :: rest' ∧
        List.Forall₂ R rest rest' := by
  rw [replaceFirst]
  cases h : replaceFirstAmong? p (fun node => [f node]) nodes with
  | none => exact .inl ⟨found_eq_nil_of_replaceFirstAmong? _ nodes h, rfl⟩
  | some nodes' => exact .inr (found_replaceFirstAmong? hp hf hR nodes nodes' h)

end Found

/-! ## Classes -/

section Classes

variable {blank : Char → Bool} {c d : Char} {name : Text}

theorem wordsBy_cons_of_blank (hc : blank c = true) (t : Text) :
    wordsBy blank (c :: t) = wordsBy blank t := by
  cases t <;> simp [wordsBy, hc]

theorem wordsBy_singleton (hc : blank c = false) : wordsBy blank [c] = [[c]] := by
  simp [wordsBy, hc]

/-- A blank ends a word… -/
theorem wordsBy_cons_blank (hc : blank c = false) (hd : blank d = true) (t : Text) :
    wordsBy blank (c :: d :: t) = [c] :: wordsBy blank (d :: t) := by
  rw [wordsBy.eq_def]
  simp [hc, hd]

/-- …and any other character goes on with it. -/
theorem wordsBy_cons_cons (hc : blank c = false) (hd : blank d = false) {t word : Text}
    {rest : List Text} (h : wordsBy blank (d :: t) = word :: rest) :
    wordsBy blank (c :: d :: t) = (c :: word) :: rest := by
  rw [wordsBy.eq_def]
  simp [hc, hd, h]

theorem wordsBy_of_all (hne : name ≠ []) (hname : ∀ c ∈ name, blank c = false) :
    wordsBy blank name = [name] := by
  induction name with
  | nil => exact absurd rfl hne
  | cons c name ih =>
    obtain ⟨hc, hname⟩ := List.forall_mem_cons.1 hname
    cases name with
    | nil => exact wordsBy_singleton hc
    | cons d name =>
      exact wordsBy_cons_cons hc (hname d List.mem_cons_self) (ih (List.cons_ne_nil _ _) hname)

/-- A word behind a blank is one of the words, and not the first one if a word stands in front. -/
theorem mem_wordsBy_append (hc : blank c = true) (hne : name ≠ [])
    (hname : ∀ c ∈ name, blank c = false) (t : Text) :
    name ∈ wordsBy blank (t ++ c :: name) ∧
      ((∃ d ∈ t.head?, blank d = false) → name ∈ (wordsBy blank (t ++ c :: name)).tail) := by
  induction t with
  | nil =>
    refine ⟨?_, fun ⟨_, hd, _⟩ => nomatch hd⟩
    rw [List.nil_append, wordsBy_cons_of_blank hc, wordsBy_of_all hne hname]
    exact List.mem_singleton_self name
  | cons d t ih =>
    cases hd : blank d with
    | true =>
      rw [List.cons_append, wordsBy_cons_of_blank hd]
      refine ⟨ih.1, fun ⟨e, he, hblank⟩ => ?_⟩
      obtain rfl : d = e := by simpa using he
      rw [hd] at hblank
      exact absurd hblank (by decide)
    | false =>
      -- the word that begins here is another one
      have htail : name ∈ (wordsBy blank (d :: t ++ c :: name)).tail := by
        cases t with
        | nil =>
          rw [List.cons_append, List.nil_append, wordsBy_cons_blank hd hc]
          exact ih.1
        | cons e t =>
          rw [List.cons_append, List.cons_append] at *
          cases he : blank e with
          | true =>
            rw [wordsBy_cons_blank hd he]
            exact ih.1
          | false =>
            have hrest := ih.2 ⟨e, rfl, he⟩
            cases hwords : wordsBy blank (e :: (t ++ c :: name)) with
            | nil =>
              rw [hwords] at hrest
              exact absurd hrest List.not_mem_nil
            | cons word rest =>
              rw [hwords] at hrest
              rw [wordsBy_cons_cons hd he hwords]
              exact hrest
      exact ⟨List.mem_of_mem_tail htail, fun _ => htail⟩

/-- **An element that is put into a class belongs to it.** -/
theorem inClass_addClass (hne : name ≠ []) (hname : ∀ c ∈ name, Text.isBlank c = false)
    (attributes : List Attribute) : inClass name (addClass name attributes) = true := by
  rw [addClass]
  split
  · next h => exact h
  · split
    · rw [inClass, get?_set_self]
      dsimp only
      rw [words, wordsBy_of_all hne hname]
      simp
    · rw [inClass, get?_set_self]
      have hblank : Text.isBlank ' ' = true := by decide
      simpa only [words, List.contains_iff_mem] using (mem_wordsBy_append hblank hne hname _).1

end Classes

/-! ## Lists and sections -/

/-- An element of the class of lists of footnotes. -/
def classed : Node → Node := mapAttributes (addClass (lit "footnotes-list"))

/-- An element with the first list in it put into that class. -/
def listed : Node → Node
  | .element space name attributes children =>
    .element space name attributes
      (replaceFirst (Node.isNamed (lit "ol")) (fun list => [classed list]) children)
  | node => node

/-- A section before and after: at most the class of a list in it is new. -/
def SameSection (s s' : Node) : Prop := s' = s ∨ s' = listed s

/-- **A labelled section**: it begins with the label in a paragraph, and its first list is of the
class of lists of footnotes. -/
def Labelled (label : Text) (s : Node) : Prop :=
  ∃ behind, s.children = paragraph (Source.seen label) :: behind ∧
    ∀ list ∈ (found (Node.isNamed (lit "ol")) behind).head?,
      hasClass (lit "footnotes-list") list = true

section Sections

variable {label : Text} {s s' : Node}

theorem foundIn_element {p : Node → Bool} {space : Namespace} {name : Text}
    {attributes : List Attribute} {children : List Node} (hname : name ≠ lit "template") :
    foundIn p (.element space name attributes children) =
      (if p (.element space name attributes children) then
        [.element space name attributes children] else []) ++ found p children := by
  have htemplate : (space == .html && name == lit "template") = false := by
    rw [beq_eq_false_iff_ne.2 hname, Bool.and_false]
  rw [foundIn, htemplate, if_neg Bool.false_ne_true]

/-- An element of a name is an element. -/
theorem eq_element_of_isNamed {name : Text} {node : Node} (h : node.isNamed name = true) :
    ∃ space attributes children, node = .element space name attributes children := by
  cases node with
  | element space other attributes children =>
    exact ⟨space, attributes, children, by rw [eq_of_beq h]⟩
  | _ => cases h

theorem hasClass_classed (h : s.isNamed (lit "ol") = true) :
    hasClass (lit "footnotes-list") (classed s) = true := by
  obtain ⟨space, attributes, children, rfl⟩ := eq_element_of_isNamed h
  exact inClass_addClass (by decide) (Text.forall_mem_of_all (by decide)) attributes

/-- A list with its class is a list with the same content… -/
theorem changes_classed : Changes (Node.isNamed (lit "ol")) classed Eq := by
  intro node hnode
  obtain ⟨space, attributes, children, rfl⟩ := eq_element_of_isNamed hnode
  refine ⟨found (Node.isNamed (lit "ol")) children, _, ?_, ?_, forall₂_refl (fun _ => rfl) _⟩
  · rw [foundIn_element (by decide), if_pos hnode]
    rfl
  · rw [classed, mapAttributes, foundIn_element (by decide)]
    simp only [Node.isNamed, beq_self_eq_true, if_true]
    rfl

/-- …and it is no section. -/
theorem foundIn_classed (h : s.isNamed (lit "ol") = true) :
    foundIn isNotes (classed s) = foundIn isNotes s := by
  obtain ⟨space, attributes, children, rfl⟩ := eq_element_of_isNamed h
  rw [classed, mapAttributes, foundIn_element (by decide), foundIn_element (by decide)]
  rfl

/-- **The first list among nodes** is put into the class. -/
theorem hasClass_head?_found (nodes : List Node) :
    ∀ list ∈ (found (Node.isNamed (lit "ol"))
      (replaceFirst (Node.isNamed (lit "ol")) (fun list => [classed list]) nodes)).head?,
        hasClass (lit "footnotes-list") list = true := by
  rcases found_replaceFirst (isTagged_isNamed _) changes_classed (fun _ => rfl) nodes with
    ⟨hnone, hsame⟩ | ⟨first, rest, rest', hfirst, -, hfound, -⟩
  · rw [hsame, hnone]
    nofun
  · rw [hfound]
    intro list hlist
    obtain rfl : classed first = list := by simpa using hlist
    exact hasClass_classed hfirst

mutual

theorem foundIn_isNotes_list : ∀ (node : Node) (nodes : List Node),
    replaceFirst? (Node.isNamed (lit "ol")) (fun list => [classed list]) node = some nodes →
      List.Forall₂ SameSection (foundIn isNotes node) (found isNotes nodes)
  | .text _, _, h | .comment _, _, h | .doctype _, _, h => nomatch h
  | .element space name attributes children, nodes, h => by
    rw [replaceFirst?] at h
    split at h
    · next hlist =>
      obtain rfl := Option.some.inj h
      rw [found_singleton, foundIn_classed hlist]
      exact forall₂_refl (fun _ => .inl rfl) _
    · split at h
      · contradiction
      · next htemplate =>
        obtain ⟨children', hchildren, rfl⟩ := Option.map_eq_some_iff.1 h
        have hinside := found_isNotes_list children children' hchildren
        rw [found_singleton, foundIn, foundIn, if_neg htemplate, if_neg htemplate,
          isTagged_isNotes _ _ _ children' children]
        refine List.rel_append ?_ hinside
        split
        · refine .cons (.inr ?_) .nil
          rw [listed, replaceFirst, hchildren, Option.getD_some]
        · exact .nil

/-- **Where a list is put into the class**, the sections are the same. -/
theorem found_isNotes_list : ∀ nodes nodes' : List Node,
    replaceFirstAmong? (Node.isNamed (lit "ol")) (fun list => [classed list]) nodes = some nodes' →
      List.Forall₂ SameSection (found isNotes nodes) (found isNotes nodes')
  | [], _, h => nomatch h
  | node :: more, nodes', h => by
    rw [replaceFirstAmong?] at h
    split at h
    · next replaced hreplaced =>
      obtain rfl := Option.some.inj h
      rw [found, found_append]
      exact List.rel_append (foundIn_isNotes_list node replaced hreplaced)
        (forall₂_refl (fun _ => .inl rfl) _)
    · obtain ⟨more', hmore, rfl⟩ := Option.map_eq_some_iff.1 h
      rw [found, found]
      exact List.rel_append (forall₂_refl (fun _ => .inl rfl) _)
        (found_isNotes_list more more' hmore)

end

/-! ## The label -/

theorem labelNotes_element (label : Text) (space : Namespace) (name : Text)
    (attributes : List Attribute) (children : List Node) :
    labelNotes label (.element space name attributes children) =
      .element space name attributes (paragraph (Source.seen label) ::
        replaceFirst (Node.isNamed (lit "ol")) (fun list => [classed list]) children) := by
  rw [labelNotes, fragment_paragraph]
  rfl

theorem eq_element_of_isNotes (h : isNotes s = true) : ∃ space attributes children,
    s = .element space (lit "section") attributes children :=
  eq_element_of_isNamed (Bool.and_eq_true_iff.1 h).1

theorem foundIn_isNotes_paragraph (t : Text) : foundIn isNotes (paragraph t) = [] := by
  cases t <;> rfl

/-- A section with its label holds the sections it held. -/
theorem changes_labelNotes (label : Text) : Changes isNotes (labelNotes label) SameSection := by
  intro node hnode
  obtain ⟨space, attributes, children, rfl⟩ := eq_element_of_isNotes hnode
  refine ⟨found isNotes children, found isNotes (replaceFirst (Node.isNamed (lit "ol"))
    (fun list => [classed list]) children), ?_, ?_, ?_⟩
  · rw [foundIn_element (by decide), if_pos hnode]
    rfl
  · rw [labelNotes_element, foundIn_element (by decide), found, foundIn_isNotes_paragraph,
      isTagged_isNotes _ _ _ _ children, if_pos hnode]
    rfl
  · rw [replaceFirst]
    rcases hlist : replaceFirstAmong? (Node.isNamed (lit "ol")) (fun list => [classed list])
      children with _ | children'
    · exact forall₂_refl (fun _ => .inl rfl) _
    · exact found_isNotes_list children children' hlist

/-- **A section that is labelled is labelled.** -/
theorem labelled_labelNotes (label : Text) (h : isNotes s = true) :
    Labelled label (labelNotes label s) := by
  obtain ⟨space, attributes, children, rfl⟩ := eq_element_of_isNotes h
  rw [labelNotes_element]
  exact ⟨_, rfl, hasClass_head?_found children⟩

theorem foundIn_isNamed_paragraph (t : Text) :
    foundIn (Node.isNamed (lit "ol")) (paragraph t) = [] := by
  cases t <;> rfl

theorem eq_singleton_of_replaceFirst? {p : Node → Bool} {f : Node → Node} {node : Node}
    {nodes : List Node} (h : replaceFirst? p (fun node => [f node]) node = some nodes) :
    ∃ node', nodes = [node'] := by
  cases node with
  | element space name attributes children =>
    rw [replaceFirst?] at h
    split at h
    · exact ⟨_, (Option.some.inj h).symm⟩
    · split at h
      · contradiction
      · obtain ⟨children', -, rfl⟩ := Option.map_eq_some_iff.1 h
        exact ⟨_, rfl⟩
  | _ => nomatch h

/-- **A section begins as before**: no paragraph of text comes to stand there. -/
theorem SameSection.head?_children (h : SameSection s s') {t : Text}
    (hs : s'.children.head? = some (paragraph t)) : s.children.head? = some (paragraph t) := by
  rcases h with rfl | rfl
  · exact hs
  cases s with
  | element space name attributes children =>
    rw [listed, Node.children, replaceFirst] at hs
    cases children with
    | nil => exact hs
    | cons node rest =>
      rw [replaceFirstAmong?] at hs
      split at hs
      · next replaced hreplaced =>
        -- an element with a list in it is no paragraph of text
        obtain ⟨node', rfl⟩ := eq_singleton_of_replaceFirst? hreplaced
        obtain ⟨first, -, rest', -, -, hfound, -⟩ := foundIn_replaceFirst? (isTagged_isNamed _)
          changes_classed (fun _ => rfl) node _ hreplaced
        obtain rfl : node' = paragraph t := by simpa using hs
        rw [found_singleton, foundIn_isNamed_paragraph] at hfound
        exact absurd hfound.symm (List.cons_ne_nil _ _)
      · cases hrest : replaceFirstAmong? _ _ rest <;> rw [hrest] at hs <;> exact hs
  | _ => exact hs

/-- A labelled section is written with the escaped label in a paragraph behind its tag. -/
theorem Labelled.exists_markup (h : Labelled label s) (hs : isNotes s = true) :
    ∃ attributes behind, s.markup false = lit "<section" ++ attributes ++ lit "><p>" ++
      escapeText (Source.seen label) ++ lit "</p>" ++ behind := by
  obtain ⟨space, attributes, children, rfl⟩ := eq_element_of_isNotes hs
  obtain ⟨behind, hchildren, -⟩ := h
  obtain rfl : children = paragraph (Source.seen label) :: behind := hchildren
  have hvoid : isIn (lit "section") voidNames = false := by decide +kernel
  have hraw : isIn (lit "section") rawNames = false := by decide +kernel
  unfold Node.markup
  dsimp only
  rw [hvoid, hraw, Bool.and_false, if_neg Bool.false_ne_true, markup, markup_paragraph]
  simp only [List.append_assoc]
  exact ⟨_, _, rfl⟩

end Sections

/-! ## Headings hold what they held -/

theorem found_takeFold (children : List Node) :
    found isNotes (takeFold children).1 = found isNotes children := by
  unfold takeFold
  split
  · split <;> rfl
  · rfl

theorem foundIn_badge (level : Nat) : foundIn isNotes (badge level) = [] := by
  unfold badge
  rw [foundIn_element (by decide)]
  rfl

theorem foundIn_anchor : foundIn isNotes anchor = [] := by decide

theorem foundIn_decorateHeading (level number : Nat) {node : Node}
    (h : (headingLevel? node).isSome = true) :
    foundIn isNotes (decorateHeading level number node).1 = foundIn isNotes node := by
  unfold headingLevel? at h
  split at h
  next space c attributes children =>
    unfold decorateHeading
    dsimp only [Node.children]
    rw [foundIn_element (by simp [lit]), foundIn_element (by simp [lit]), List.cons_append, found,
      foundIn_badge, found_append, found_takeFold, found_singleton, foundIn_anchor, List.append_nil]
    rfl
  next => cases h

/-- Decorating the headings of a page leaves its sections of footnotes as they are. -/
theorem found_decorateHeadings (nodes : List Node) (counts : HeadingCounts) :
    found isNotes (decorateHeadings nodes counts).1 = found isNotes nodes := by
  induction nodes generalizing counts with
  | nil => rfl
  | cons node nodes ih =>
    unfold decorateHeadings
    split
    next => exact congrArg (foundIn isNotes node ++ ·) (ih counts)
    next level hlevel =>
      dsimp only
      rw [found, found, ih, foundIn_decorateHeading _ _ (by rw [hlevel]; rfl)]

/-! ## The page -/

/-- **Of sections before and after, the first is labelled** and the others are the same. -/
def FirstLabelled (label : Text) (before after : List Node) : Prop :=
  before = [] ∧ after = [] ∨
    ∃ first rest first' rest', before = first :: rest ∧ after = first' :: rest' ∧
      Labelled label first' ∧ List.Forall₂ SameSection rest rest'

theorem firstLabelled_labelFirstNotes (label : Text) (nodes : List Node) :
    FirstLabelled label (found isNotes nodes) (found isNotes (labelFirstNotes label nodes)) := by
  rw [labelFirstNotes]
  rcases found_replaceFirst isTagged_isNotes (changes_labelNotes label) (fun _ => .inl rfl) nodes
    with ⟨hnone, hsame⟩ | ⟨first, rest, rest', hnotes, hbefore, hafter, hrest⟩
  · exact .inl ⟨hnone, by rw [hsame, hnone]⟩
  · exact .inr ⟨first, rest, _, rest', hbefore, hafter, labelled_labelNotes label hnotes, hrest⟩

/-- Where no section brings the label itself, all are labelled exactly if there is no second one. -/
theorem FirstLabelled.forall_labelled_iff {label : Text} {before after : List Node}
    (h : FirstLabelled label before after)
    (hnew : ∀ s ∈ before, s.children.head? ≠ some (paragraph (Source.seen label))) :
    (∀ s ∈ after, Labelled label s) ↔ after.length ≤ 1 := by
  obtain ⟨-, rfl⟩ | ⟨first, rest, first', rest', rfl, rfl, hlabelled, hrest⟩ := h
  · simp
  cases hrest with
  | nil => simpa using hlabelled
  | @cons second second' rest rest' hsame _ =>
    have hsecond : ¬ Labelled label second' := fun ⟨behind, hchildren, _⟩ => by
      refine hnew second (by simp) (hsame.head?_children ?_)
      rw [hchildren, List.head?_cons]
    exact iff_of_false (fun hall => hsecond (hall second' (by simp))) (by simp)

/-- The nodes of a text before its footnotes are labelled: links and tables are completed. -/
def Options.connected (o : Options) (t : Text) : List Node :=
  hideEmptyHeads (connectAll o.deployment (fragment (o.renderBlocks (Text.trim t) []).1))

/-- **Only the first section is labelled**: what a text is rendered as, against its nodes before. -/
structure LabelsFirst (o : Options) (t html : Text) : Prop where
  /-- The sections are those of the nodes that are written. -/
  written : html = Text.trim (Html.render (o.nodes t))
  /-- The first of them is labelled, and the others are left as they were. -/
  first : FirstLabelled o.footnotesLabel (found isNotes (o.connected t)) (found isNotes (o.nodes t))
  /-- A labelled section shows the escaped label. -/
  shown : ∀ s ∈ found isNotes (o.nodes t), Labelled o.footnotesLabel s → ∃ attributes behind,
    s.markup false = lit "<section" ++ attributes ++ lit "><p>" ++
      escapeText (Source.seen o.footnotesLabel) ++ lit "</p>" ++ behind
  /-- All of them are labelled exactly if there is no second one, unless a text brings the label
  itself. -/
  all_iff : (∀ s ∈ found isNotes (o.connected t),
      s.children.head? ≠ some (paragraph (Source.seen o.footnotesLabel))) →
    ((∀ s ∈ found isNotes (o.nodes t), Labelled o.footnotesLabel s) ↔
      (found isNotes (o.nodes t)).length ≤ 1)

theorem labelsFirst_nodes (o : Options) (t : Text) :
    LabelsFirst o t (Text.trim (Html.render (o.nodes t))) := by
  have hfirst : FirstLabelled o.footnotesLabel (found isNotes (o.connected t))
      (found isNotes (o.nodes t)) := by
    rw [Options.nodes, found_decorateHeadings]
    exact firstLabelled_labelFirstNotes o.footnotesLabel (o.connected t)
  exact ⟨rfl, hfirst, fun s hs h => h.exists_markup (forall_found _ _ s hs),
    hfirst.forall_labelled_iff⟩

/-- **The first section of footnotes is labelled, and no other one**, in a text and in a page. -/
theorem render_labels_first (o : Options) (t : Text) :
    LabelsFirst o t (o.render t).html ∧ LabelsFirst o (applyMarks t) (o.renderPage t).html := by
  rw [Options.renderPage, html_render, html_render]
  exact ⟨labelsFirst_nodes o t, labelsFirst_nodes o (applyMarks t)⟩

/-- Behind a collapsible block with footnotes, those of the page have no label. -/
theorem render_two_notes : ¬ ∀ s ∈ found isNotes (Options.nodes { footnotesLabel := lit "Notes" }
    (lit "::: a\nx[^1]\n\n[^1]: n\n:::\n\ny[^1]\n\n[^1]: m")), Labelled (lit "Notes") s := by
  intro h
  have hbegin : ∀ s, Labelled (lit "Notes") s →
      s.children.head?.map (Node.markup false) = some (lit "<p>Notes</p>") := by
    rintro s ⟨behind, hchildren, -⟩
    rw [hchildren, List.head?_cons, Option.map_some, markup_paragraph]
    decide
  have hnone : ∃ s ∈ found isNotes (Options.nodes { footnotesLabel := lit "Notes" }
      (lit "::: a\nx[^1]\n\n[^1]: n\n:::\n\ny[^1]\n\n[^1]: m")),
      s.children.head?.map (Node.markup false) ≠ some (lit "<p>Notes</p>") := by
    decide +kernel
  obtain ⟨s, hs, hne⟩ := hnone
  exact hne (hbegin s (h s hs))

end WikiPress.Page
