import WikiPress.Page.Render

/-!
# Proofs/Page/Anchors — the links of a finished page

    <a href="/b.md" title="#"> ──▸ <a href="#/b.md">        <h2>x</h2> ──▸ <h2>…x…</h2>

When a page is completed, every link leads where its own attributes say under the deployment of the
wiki, and no link comes or goes: the icon behind a link to another host, the heads of tables, and the
badges and icons of headings are no links (`anchors_complete`).
-/

namespace WikiPress.Page

open Html

/-! ## The links of nodes -/

mutual

/-- The attributes of the links that a node is and holds, in order; what a template holds belongs to
no page. -/
def nodeAnchors : Node → List (List Attribute)
  | .element space name attributes children =>
    if space == .html && name == lit "template" then []
    else (if name == lit "a" then [attributes] else []) ++ anchors children
  | _ => []

/-- **The links among and in nodes**, by their attributes. -/
def anchors : List Node → List (List Attribute)
  | [] => []
  | node :: rest => nodeAnchors node ++ anchors rest

end

theorem anchors_append (nodes more : List Node) :
    anchors (nodes ++ more) = anchors nodes ++ anchors more := by
  induction nodes with
  | nil => rfl
  | cons node nodes ih => rw [List.cons_append, anchors, anchors, ih, List.append_assoc]

theorem anchors_singleton (node : Node) : anchors [node] = nodeAnchors node := List.append_nil _

theorem nodeAnchors_element {space : Namespace} {name : Text} {attributes : List Attribute}
    {children : List Node} (h : (space == .html && name == lit "template") = false) :
    nodeAnchors (.element space name attributes children) =
      (if name == lit "a" then [attributes] else []) ++ anchors children := by
  rw [nodeAnchors, h, if_neg Bool.false_ne_true]

/-! ## Where links lead -/

/-- The attributes of a link under the deployment of a wiki. -/
def linked (site : Deployment) (attributes : List Attribute) : List Attribute :=
  match Attribute.get? (lit "href") attributes with
  | none => attributes
  | some href =>
    if Path.isExternal href then externalLink attributes else internalLink site href attributes

theorem nodeAnchors_externalIcon : nodeAnchors externalIcon = [] := by decide

theorem anchors_linkNodes (site : Deployment) (space : Namespace) (attributes : List Attribute)
    (children : List Node) :
    anchors (linkNodes site space attributes children) =
      linked site attributes :: anchors children := by
  have hlink : ∀ attributes children,
      nodeAnchors (.element space (lit "a") attributes children) = attributes :: anchors children :=
    fun _ _ => nodeAnchors_element (by cases space <;> decide)
  rcases hhref : Attribute.get? (lit "href") attributes with _ | href
  · simp only [linkNodes, linked, hhref, anchors_singleton, hlink]
  · cases hexternal : Path.isExternal href with
    | true =>
      simp only [linkNodes, linked, hhref, hexternal, if_true, anchors, hlink,
        nodeAnchors_externalIcon, List.append_nil]
    | false =>
      simp only [linkNodes, linked, hhref, hexternal, Bool.false_eq_true, if_false,
        anchors_singleton, hlink]
      split
      next hempty =>
        rw [Bool.and_eq_true, List.isEmpty_iff] at hempty
        rw [hempty.1]
        rfl
      next => rfl

mutual

/-- **Connecting a page changes its links one by one.** -/
theorem anchors_connect (site : Deployment) : ∀ node : Node,
    anchors (connect site node) = (nodeAnchors node).map (linked site)
  | .text _ | .comment _ | .doctype _ => rfl
  | .element space name attributes children => by
    unfold connect
    cases htemplate : (space == .html && name == lit "template") with
    | true =>
      rw [if_pos rfl, anchors_singleton, nodeAnchors, htemplate]
      rfl
    | false =>
      have hchildren := anchors_connectAll site children
      rw [if_neg Bool.false_ne_true, nodeAnchors_element htemplate, List.map_append]
      dsimp only
      split
      next hlink => rw [anchors_linkNodes, hchildren]; rfl
      next hlink =>
        have hkept : ∀ attributes, anchors [.element space name attributes (connectAll site children)]
            = (anchors children).map (linked site) := by
          intro attributes
          rw [anchors_singleton, nodeAnchors_element htemplate, if_neg hlink, hchildren]
          rfl
        split <;> exact hkept _

theorem anchors_connectAll (site : Deployment) : ∀ nodes : List Node,
    anchors (connectAll site nodes) = (anchors nodes).map (linked site)
  | [] => rfl
  | node :: rest => by
    rw [connectAll, anchors_append, anchors_connect site node, anchors_connectAll site rest, anchors,
      List.map_append]

end

/-! ## What does not touch the links -/

mutual

theorem nodeAnchors_hideEmptyHead : ∀ node : Node, nodeAnchors (hideEmptyHead node) = nodeAnchors node
  | .text _ | .comment _ | .doctype _ => rfl
  | .element space name attributes children => by
    unfold hideEmptyHead
    cases htemplate : (space == .html && name == lit "template") with
    | true => rfl
    | false =>
      rw [if_neg Bool.false_ne_true]
      dsimp only
      rw [nodeAnchors_element htemplate, nodeAnchors_element htemplate,
        anchors_hideEmptyHeads children]
      cases hlink : name == lit "a" with
      | false => rfl
      | true =>
        have hhead : (name == lit "thead") = false := by
          rw [eq_of_beq hlink]
          decide
        rw [hhead]
        rfl

theorem anchors_hideEmptyHeads : ∀ nodes : List Node, anchors (hideEmptyHeads nodes) = anchors nodes
  | [] => rfl
  | node :: rest => by
    rw [hideEmptyHeads, anchors, anchors, nodeAnchors_hideEmptyHead node, anchors_hideEmptyHeads rest]

end

theorem nodeAnchors_badge (level : Nat) : nodeAnchors (badge level) = [] := by
  unfold badge
  rw [nodeAnchors_element (by decide)]
  rfl

theorem nodeAnchors_anchor : nodeAnchors anchor = [] := by decide

theorem anchors_takeFold (children : List Node) :
    anchors (takeFold children).1 = anchors children := by
  unfold takeFold
  split
  · split <;> rfl
  · rfl

/-- A heading is no link, and its badge and its icon are none. -/
theorem nodeAnchors_decorateHeading (level number : Nat) {node : Node}
    (h : (headingLevel? node).isSome = true) :
    nodeAnchors (decorateHeading level number node).1 = nodeAnchors node := by
  unfold headingLevel? at h
  split at h
  next space c attributes children =>
    have htemplate : (space == .html && ['h', c] == lit "template") = false := by
      rw [Bool.and_eq_false_iff]
      exact .inr rfl
    have hlink : (['h', c] == lit "a") = false := rfl
    unfold decorateHeading
    dsimp only [Node.children]
    rw [nodeAnchors_element htemplate, nodeAnchors_element htemplate, hlink, if_neg Bool.false_ne_true,
      List.cons_append, anchors, nodeAnchors_badge, anchors_append, anchors_takeFold,
      anchors_singleton, nodeAnchors_anchor, List.append_nil]
    rfl
  next => cases h

theorem anchors_decorateHeadings (nodes : List Node) (counts : HeadingCounts) :
    anchors (decorateHeadings nodes counts).1 = anchors nodes := by
  induction nodes generalizing counts with
  | nil => rfl
  | cons node nodes ih =>
    unfold decorateHeadings
    split
    next => exact congrArg (nodeAnchors node ++ ·) (ih counts)
    next level hlevel =>
      dsimp only
      rw [anchors, anchors, ih, nodeAnchors_decorateHeading _ _ (by rw [hlevel]; rfl)]

/-! ## Pages without footnotes -/

mutual

/-- Whether a node is a section or holds one. -/
def hasSection : Node → Bool
  | .element _ name _ children => name == lit "section" || anySection children
  | _ => false

/-- Whether there is a section among and in nodes. -/
def anySection : List Node → Bool
  | [] => false
  | node :: rest => hasSection node || anySection rest

end

theorem anySection_append (nodes more : List Node) :
    anySection (nodes ++ more) = (anySection nodes || anySection more) := by
  induction nodes with
  | nil => rfl
  | cons node nodes ih => rw [List.cons_append, anySection, anySection, ih, Bool.or_assoc]

theorem anySection_singleton (node : Node) : anySection [node] = hasSection node := Bool.or_false _

theorem anySection_linkNodes (site : Deployment) (space : Namespace) (attributes : List Attribute)
    {children : List Node} (h : anySection children = false) :
    anySection (linkNodes site space attributes children) = false := by
  have hlink : ∀ attributes children, anySection children = false →
      hasSection (.element space (lit "a") attributes children) = false := by
    intro attributes children h
    rw [hasSection, h]
    rfl
  have hicon : hasSection externalIcon = false := by decide
  unfold linkNodes
  dsimp only
  split
  · rw [anySection_singleton, hlink _ _ h]
  · split
    · rw [anySection, hlink _ _ h, anySection_singleton, hicon]
      rfl
    · rw [anySection_singleton]
      refine hlink _ _ ?_
      split
      · rfl
      · exact h

mutual

theorem anySection_connect (site : Deployment) : ∀ node : Node, hasSection node = false →
    anySection (connect site node) = false
  | .text _, _ | .comment _, _ | .doctype _, _ => rfl
  | .element space name attributes children, h => by
    have hnode := h
    rw [hasSection, Bool.or_eq_false_iff] at h
    obtain ⟨hname, hchildren⟩ := h
    have hconnected := anySection_connectAll site children hchildren
    have hkept : ∀ attributes, anySection [.element space name attributes (connectAll site children)] =
        false := by
      intro attributes
      rw [anySection_singleton, hasSection, hname, hconnected]
      rfl
    unfold connect
    split
    · rw [anySection_singleton, hnode]
    · dsimp only
      split
      · exact anySection_linkNodes site space attributes hconnected
      · split <;> exact hkept _

/-- Connecting a page adds no section… -/
theorem anySection_connectAll (site : Deployment) : ∀ nodes : List Node, anySection nodes = false →
    anySection (connectAll site nodes) = false
  | [], _ => rfl
  | node :: rest, h => by
    rw [anySection, Bool.or_eq_false_iff] at h
    rw [connectAll, anySection_append, anySection_connect site node h.1,
      anySection_connectAll site rest h.2]
    rfl

end

mutual

theorem hasSection_hideEmptyHead : ∀ node : Node, hasSection (hideEmptyHead node) = hasSection node
  | .text _ | .comment _ | .doctype _ => rfl
  | .element space name attributes children => by
    unfold hideEmptyHead
    split
    · rfl
    · rw [hasSection, hasSection, anySection_hideEmptyHeads children]

/-- …and hiding the heads of tables does not, either. -/
theorem anySection_hideEmptyHeads : ∀ nodes : List Node,
    anySection (hideEmptyHeads nodes) = anySection nodes
  | [] => rfl
  | node :: rest => by
    rw [hideEmptyHeads, anySection, anySection, hasSection_hideEmptyHead node,
      anySection_hideEmptyHeads rest]

end

mutual

theorem replaceFirst?_isNotes (f : Node → List Node) : ∀ node : Node, hasSection node = false →
    replaceFirst? isNotes f node = none
  | .text _, _ | .comment _, _ | .doctype _, _ => rfl
  | .element space name attributes children, h => by
    rw [hasSection, Bool.or_eq_false_iff] at h
    obtain ⟨hname, hchildren⟩ := h
    have hnotes : isNotes (.element space name attributes children) = false := by
      rw [isNotes, Node.isNamed, hname]
      rfl
    rw [replaceFirst?, hnotes, if_neg Bool.false_ne_true,
      replaceFirstAmong?_isNotes f children hchildren]
    split <;> rfl

/-- A page without sections has no footnotes. -/
theorem replaceFirstAmong?_isNotes (f : Node → List Node) : ∀ nodes : List Node,
    anySection nodes = false → replaceFirstAmong? isNotes f nodes = none
  | [], _ => rfl
  | node :: rest, h => by
    rw [anySection, Bool.or_eq_false_iff] at h
    rw [replaceFirstAmong?, replaceFirst?_isNotes f node h.1, replaceFirstAmong?_isNotes f rest h.2]
    rfl

end

/-- **The links of a completed page** without sections are those of its source, each connected; there
are no further ones. -/
theorem anchors_complete (o : Options) {nodes : List Node} (counts : HeadingCounts)
    (hnotes : anySection nodes = false) :
    anchors (decorateHeadings (o.complete nodes) counts).1 =
      (anchors nodes).map (linked o.deployment) := by
  have hnone := replaceFirstAmong?_isNotes (fun node => [labelNotes o.footnotesLabel node])
    (hideEmptyHeads (connectAll o.deployment nodes))
    (by rw [anySection_hideEmptyHeads, anySection_connectAll o.deployment nodes hnotes])
  rw [anchors_decorateHeadings, Options.complete, labelFirstNotes, replaceFirst, hnone,
    Option.getD_none, anchors_hideEmptyHeads, anchors_connectAll]

/-! ## The nodes of a rendered text -/

/-- **The nodes that a text is rendered as.** -/
def Options.nodes (o : Options) (t : Text) : List Node :=
  (decorateHeadings (o.complete (fragment (o.renderBlocks (Text.trim t) []).1)) []).1

/-- A rendered text is the source of its nodes. -/
theorem html_render (o : Options) (t : Text) :
    (o.render t).html = Text.trim (Html.render (o.nodes t)) := by
  unfold Options.render Options.renderOn Options.nodes Options.finish
  dsimp only
  split
  · next hempty =>
    have hnil : fragment [] = [] := rfl
    have hnothing : Text.trim (Html.render (decorateHeadings (o.complete []) []).1) = [] := rfl
    rw [List.isEmpty_iff.1 hempty, hnil, hnothing]
  · generalize decorateHeadings _ _ = decorated
    rfl

end WikiPress.Page
