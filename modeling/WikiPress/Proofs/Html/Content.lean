import WikiPress.Html.Page
import WikiPress.Proofs.Html.Forest

/-!
# Proofs/Html/Content — reading the headings, lists and links of a body

While the content of a page is read, the open elements and what is finished in them are all there is
to know (`Reading`).  One lemma for each kind of tag tells what it does to them; where no other
formatting is open, a link is put at the end of the innermost element as it is written.
-/

namespace WikiPress.Html

namespace Builder

/-- **A page whose content is being read**, with its open elements of HTML and the formatting elements
that are to be restored. -/
structure Reading (b : Builder) (ls : List Forest.Level) (formatting : List (Option Nat)) : Prop where
  mode : b.mode = .inBody
  content : b.content = .markup
  foster : b.foster = false
  skipNewline : b.skipNewline = false
  templateModes : b.templateModes = []
  formatting : b.formatting = formatting
  spine : b.forest.Spine b.opened ls b.forest.nextId []

variable {b b' : Builder} {l l' : Forest.Level} {ls : List Forest.Level}
  {formatting : List (Option Nat)} {t : Token}

/-- The search for an element in scope, by the names of the open elements of HTML. -/
def namesInScope (scope : Scope) (target : Text → Bool) : List Text → Bool
  | [] => false
  | name :: rest =>
    if target name then true
    else if scope.endsAt .html name then false
    else namesInScope scope target rest

theorem elements_of_spine {opened : List Nat} {next : Nat} {inner : List Nat}
    (h : b.forest.Spine opened ls next inner) :
    opened.map b.element = ls.map fun l => (Namespace.html, l.name) := by
  induction h with
  | page => rfl
  | level houter h hdone ih =>
    rw [List.map_cons, List.map_cons, ih, element, Forest.kind_of_slot? h]

namespace Reading

theorem elements (h : Reading b ls formatting) :
    b.opened.map b.element = ls.map fun l => (Namespace.html, l.name) := elements_of_spine h.spine

theorem exists_cons (h : Reading b (l :: ls) formatting) : ∃ id outer, b.opened = id :: outer ∧
    b.element id = (.html, l.name) ∧
      outer.map b.element = ls.map fun l => (Namespace.html, l.name) := by
  have helements := h.elements
  rcases hopened : b.opened with _ | ⟨id, outer⟩
  · rw [hopened] at helements
    cases helements
  · rw [hopened, List.map_cons, List.map_cons] at helements
    obtain ⟨hid, houter⟩ := List.cons.inj helements
    exact ⟨id, outer, rfl, hid, houter⟩

/-- A token of the content is read by its rules. -/
theorem readToken (h : Reading b (l :: ls) formatting) (hstep : b.inBodyStep t = .done b') :
    b.readToken t = b' := by
  obtain ⟨id, outer, hopened, helement, -⟩ := h.exists_cons
  have hforeign : b.isForeign t = false := by
    unfold isForeign current?
    rw [hopened, List.head?_cons]
    dsimp only
    rw [helement]
    rfl
  have hread : ∀ fuel, b.read t (fuel + 1) = b' := by
    intro fuel
    rw [read, hforeign, if_neg Bool.false_ne_true, htmlStep, h.mode]
    dsimp only
    rw [hstep]
  have hself : { b with skipNewline := false } = b := by
    have := h.skipNewline
    cases b
    cases this
    rfl
  unfold Builder.readToken
  rw [h.skipNewline, hself]
  exact hread _

/-! ## What the rules are made of -/

theorem noFrameset (h : Reading b ls formatting) : Reading b.noFrameset ls formatting :=
  ⟨h.mode, h.content, h.foster, h.skipNewline, h.templateModes, h.formatting, h.spine⟩

theorem place (h : Reading b (l :: ls) formatting) :
    ∃ id outer, b.opened = id :: outer ∧ b.place = .inside id := by
  obtain ⟨id, outer, hopened, -⟩ := h.exists_cons
  refine ⟨id, outer, hopened, ?_⟩
  unfold Builder.place placeIn current?
  rw [hopened, h.foster]
  rfl

/-- **An element is opened** inside the innermost one. -/
theorem insertElement (h : Reading b (l :: ls) formatting) (name : Text)
    (attributes : List Attribute) :
    Reading (b.insertElement .html name attributes) (⟨name, attributes, []⟩ :: l :: ls)
      formatting := by
  obtain ⟨id, outer, hopened, hplace⟩ := h.place
  have hspine := h.spine
  rw [hopened] at hspine
  have hinserted : b.insertElement .html name attributes =
      { b with
        forest := b.forest.addChild id (.element .html name attributes)
        opened := b.forest.nextId :: b.opened } := by
    unfold Builder.insertElement
    dsimp only
    rw [hplace]
    rfl
  rw [hinserted, hopened]
  refine ⟨h.mode, h.content, h.foster, h.skipNewline, h.templateModes, h.formatting, ?_⟩
  dsimp only
  rw [Forest.nextId_addChild]
  exact hspine.open name attributes

/-- **The innermost element ends.** -/
theorem pop (h : Reading b (l :: l' :: ls) formatting) :
    Reading b.pop (l'.add l.close :: ls) formatting := by
  have hspine := h.spine
  rcases hopened : b.opened with _ | ⟨id, _ | ⟨j, outer⟩⟩
  · rw [hopened] at hspine
    cases hspine
  · rw [hopened] at hspine
    cases hspine with
    | level houter => cases houter
  · rw [hopened] at hspine
    refine ⟨h.mode, h.content, h.foster, h.skipNewline, h.templateModes, h.formatting, ?_⟩
    unfold Builder.pop
    rw [hopened]
    exact hspine.close

/-- **Text is added** at the end of the innermost element. -/
theorem insertText (h : Reading b (l :: ls) formatting) {s : Text} (hs : s ≠ []) :
    Reading (b.insertText s) ({ l with done := Forest.joinText l.done s } :: ls) formatting := by
  obtain ⟨id, outer, hopened, hplace⟩ := h.place
  have hspine := h.spine
  rw [hopened] at hspine
  have htext : b.insertText s = { b with forest := b.forest.appendText id s } := by
    unfold Builder.insertText
    rw [if_neg (by simpa using hs), hplace]
  rw [htext]
  exact ⟨h.mode, h.content, h.foster, h.skipNewline, h.templateModes, h.formatting,
    hopened ▸ hspine.appendText hs⟩

/-- Ending elements up to the innermost one ends just that. -/
theorem popThrough (h : Reading b (l :: ls) formatting) {p : Nat → Bool}
    (hp : ∀ id, b.element id = (.html, l.name) → p id = true) : b.popThrough p = b.pop := by
  obtain ⟨id, outer, hopened, helement, -⟩ := h.exists_cons
  unfold Builder.popThrough Builder.pop
  rw [hopened, List.dropWhile_cons_of_neg (by rw [hp id helement]; decide)]

theorem popNamed (h : Reading b (l :: ls) formatting) : b.popNamed l.name = b.pop :=
  h.popThrough fun id helement => by
    unfold isNamed
    rw [helement]
    exact beq_self_eq_true _

theorem role_of_element {id : Nat} {name : Text} (h : b.element id = (.html, name)) :
    b.role id = Role.ofName name := by
  unfold role
  rw [h]

/-- An element whose end tag is needed does not end without it. -/
theorem impliedEnds (h : Reading b (l :: ls) formatting) (keep : Text)
    (hkeep : l.name = keep ∨ ¬ [Role.definition, .listItem, .optionGroup, .option, .paragraph,
      .rubyBase, .rubyText].contains (Role.ofName l.name)) : b.impliedEnds keep = b := by
  obtain ⟨id, outer, hopened, helement, -⟩ := h.exists_cons
  have hstays : (b.hasImpliedEnd false id && !b.isNamed keep id) = false := by
    rw [Bool.and_eq_false_iff]
    rcases hkeep with rfl | hrole
    · refine .inr ?_
      unfold isNamed
      rw [helement, beq_self_eq_true]
      rfl
    · refine .inl ?_
      unfold hasImpliedEnd
      rw [helement, role_of_element helement]
      dsimp only
      revert hrole
      cases Role.ofName l.name <;> decide
  unfold Builder.impliedEnds
  rw [hopened, List.dropWhile_cons_of_neg (by rw [hstays]; exact Bool.false_ne_true), ← hopened]

theorem inScope (h : Reading b ls formatting) (scope : Scope) (target : Text → Bool) :
    b.inScope scope target = namesInScope scope target (ls.map Forest.Level.name) := by
  have helements := h.elements
  unfold Builder.inScope
  generalize b.opened = opened at helements
  clear h
  induction opened generalizing ls with
  | nil =>
    rcases ls with _ | ⟨l, ls⟩
    · rfl
    · cases helements
  | cons id opened ih =>
    rcases ls with _ | ⟨l, ls⟩
    · cases helements
    · obtain ⟨hid, hrest⟩ := List.cons.inj helements
      rw [findInScope, List.map_cons, namesInScope, hid, ih hrest]
      rfl

theorem closeOpenParagraph (h : Reading b ls formatting)
    (hp : namesInScope .button (· == lit "p") (ls.map Forest.Level.name) = false) :
    b.closeOpenParagraph = b := by
  unfold Builder.closeOpenParagraph hasInScope
  rw [h.inScope, hp, if_neg Bool.false_ne_true]

theorem restoreFormatting (h : Reading b ls []) : b.restoreFormatting = b := by
  unfold Builder.restoreFormatting
  rw [h.formatting]
  rfl

/-! ## Texts, headings, lists and links -/

theorem readToken_text (h : Reading b (l :: ls) []) {s : Text} (hs : s ≠ []) :
    Reading (b.readToken (.text s)) ({ l with done := Forest.joinText l.done s } :: ls) [] := by
  have hread : Reading (if isWhite s then b.insertText s else (b.insertText s).noFrameset)
      ({ l with done := Forest.joinText l.done s } :: ls) [] := by
    split
    · exact h.insertText hs
    · exact (h.insertText hs).noFrameset
  have hstep : b.inBodyStep (.text s) =
      .done (if isWhite s then b.insertText s else (b.insertText s).noFrameset) := by
    unfold inBodyStep textInBody
    dsimp only
    rw [if_neg (by simpa using hs), h.restoreFormatting]
  rw [h.readToken hstep]
  exact hread

/-- The levels of the body of a page. -/
def bodyLevels (nodes : List Node) : List Forest.Level :=
  [⟨lit "body", [], nodes⟩, ⟨lit "html", [], [.element .html (lit "head") [] []]⟩]

variable {nodes items : List Node} {name : Text}

/-- The opening tag of a heading. -/
theorem openHeading (h : Reading b (bodyLevels nodes) []) (hname : Role.ofName name = .heading) :
    Reading (b.readToken (.opening ⟨name, [], false⟩)) (⟨name, [], []⟩ :: bodyLevels nodes) [] := by
  have hstep : b.inBodyStep (.opening ⟨name, [], false⟩) = .done (b.insert ⟨name, [], false⟩) := by
    obtain ⟨id, outer, hopened, helement, -⟩ := h.exists_cons
    have hcurrent : b.currentIs [.heading] = false := by
      unfold currentIs current?
      rw [hopened, List.head?_cons]
      dsimp only
      rw [role_of_element helement]
      exact Bool.and_false _
    unfold inBodyStep openInBody
    dsimp only
    rw [hname, h.closeOpenParagraph rfl]
    dsimp only
    rw [hcurrent]
    rfl
  rw [h.readToken hstep]
  exact h.insertElement _ _

/-- The closing tag of a heading. -/
theorem closeHeading (h : Reading b (l :: l' :: ls) []) (hname : Role.ofName l.name = .heading) :
    Reading (b.readToken (.closing ⟨l.name, [], false⟩)) (l'.add l.close :: ls) [] := by
  have hstep : b.inBodyStep (.closing ⟨l.name, [], false⟩) = .done b.pop := by
    have hscope : b.inScope .standard (Role.ofName · == .heading) = true := by
      rw [h.inScope, List.map_cons, namesInScope, hname]
      rfl
    unfold inBodyStep closeInBody
    dsimp only
    rw [hname]
    dsimp only
    rw [hscope, if_pos rfl, h.impliedEnds [] (.inr (by rw [hname]; decide)), h.popThrough]
    intro id helement
    rw [helement, role_of_element helement, hname]
    rfl
  rw [h.readToken hstep]
  exact h.pop

theorem role_list : Role.ofName (lit "ul") = .block := by decide

theorem role_item : Role.ofName (lit "li") = .listItem := by decide

theorem role_link : Role.ofName (lit "a") = .anchor := by decide

/-- The opening tag of a list. -/
theorem openList (h : Reading b (bodyLevels nodes) []) :
    Reading (b.readToken (.opening ⟨lit "ul", [], false⟩))
      (⟨lit "ul", [], []⟩ :: bodyLevels nodes) [] := by
  have hstep : b.inBodyStep (.opening ⟨lit "ul", [], false⟩) =
      .done (b.insert ⟨lit "ul", [], false⟩) := by
    unfold inBodyStep openInBody
    dsimp only
    rw [role_list, h.closeOpenParagraph rfl]
  rw [h.readToken hstep]
  exact h.insertElement _ _

/-- The closing tag of a list. -/
theorem closeList (h : Reading b (⟨lit "ul", [], items⟩ :: l' :: ls) []) :
    Reading (b.readToken (.closing ⟨lit "ul", [], false⟩))
      (l'.add (.element .html (lit "ul") [] items) :: ls) [] := by
  have hstep : b.inBodyStep (.closing ⟨lit "ul", [], false⟩) = .done b.pop := by
    have hscope : b.hasInScope .standard (lit "ul") = true := by
      rw [hasInScope, h.inScope]
      rfl
    unfold inBodyStep closeInBody closeNamed
    dsimp only
    rw [role_list]
    dsimp only
    rw [hscope, if_pos rfl, h.impliedEnds [] (.inr (by rw [role_list]; decide))]
    exact congrArg Step.done h.popNamed
  rw [h.readToken hstep]
  exact h.pop

/-- The opening tag of an item. -/
theorem openItem (h : Reading b (⟨lit "ul", [], items⟩ :: bodyLevels nodes) []) :
    Reading (b.readToken (.opening ⟨lit "li", [], false⟩))
      (⟨lit "li", [], []⟩ :: ⟨lit "ul", [], items⟩ :: bodyLevels nodes) [] := by
  have hopened := h.noFrameset
  have hstep : b.inBodyStep (.opening ⟨lit "li", [], false⟩) =
      .done (b.noFrameset.insert ⟨lit "li", [], false⟩) := by
    obtain ⟨id, outer, hids, helement, -⟩ := hopened.exists_cons
    have hitem : b.noFrameset.closeItem .listItem = b.noFrameset := by
      have hlist : b.noFrameset.isSpecial id = true := by
        unfold isSpecial
        rw [helement]
        rfl
      unfold Builder.closeItem
      rw [hids, closeItem.go, helement, role_of_element helement, hlist]
      rfl
    unfold inBodyStep openInBody
    dsimp only
    rw [role_item]
    dsimp only
    rw [hitem, hopened.closeOpenParagraph rfl]
  rw [h.readToken hstep]
  exact hopened.insertElement _ _

/-- The closing tag of an item. -/
theorem closeItem (h : Reading b (⟨lit "li", [], items⟩ :: l' :: ls) []) :
    Reading (b.readToken (.closing ⟨lit "li", [], false⟩))
      (l'.add (.element .html (lit "li") [] items) :: ls) [] := by
  have hstep : b.inBodyStep (.closing ⟨lit "li", [], false⟩) = .done b.pop := by
    have hscope : b.hasInScope .listItem (lit "li") = true := by
      rw [hasInScope, h.inScope]
      rfl
    unfold inBodyStep closeInBody
    dsimp only
    rw [role_item]
    dsimp only
    rw [hscope, if_pos rfl, h.impliedEnds (lit "li") (.inl rfl)]
    exact congrArg Step.done h.popNamed
  rw [h.readToken hstep]
  exact h.pop

/-- The opening tag of a link, which is restored in the next block unless it is closed. -/
theorem openLink (h : Reading b (l :: ls) []) (attributes : List Attribute) :
    Reading (b.readToken (.opening ⟨lit "a", attributes, false⟩))
      (⟨lit "a", attributes, []⟩ :: l :: ls)
      [(b.readToken (.opening ⟨lit "a", attributes, false⟩)).current?] := by
  have hstep : b.inBodyStep (.opening ⟨lit "a", attributes, false⟩) =
      .done (b.insert ⟨lit "a", attributes, false⟩).pushFormatting := by
    have hanchor : b.closeAnchor = b := by
      unfold closeAnchor formattingNamed?
      rw [h.formatting]
      rfl
    unfold inBodyStep openInBody insertFormatted
    dsimp only
    rw [role_link]
    dsimp only
    rw [hanchor, h.restoreFormatting]
  have hinserted : Reading (b.insert ⟨lit "a", attributes, false⟩)
      (⟨lit "a", attributes, []⟩ :: l :: ls) [] := h.insertElement (lit "a") attributes
  obtain ⟨id, outer, hids, -⟩ := hinserted.exists_cons
  have hcurrent : (b.insert ⟨lit "a", attributes, false⟩).current? = some id := by
    rw [current?, hids]
    rfl
  have hpushed : (b.insert ⟨lit "a", attributes, false⟩).pushFormatting =
      { b.insert ⟨lit "a", attributes, false⟩ with formatting := [some id] } := by
    unfold pushFormatting
    rw [hcurrent]
    dsimp only
    rw [hinserted.formatting]
    rfl
  rw [h.readToken hstep, hpushed]
  exact ⟨hinserted.mode, hinserted.content, hinserted.foster, hinserted.skipNewline,
    hinserted.templateModes, congrArg (fun id => [id]) hcurrent.symm, hinserted.spine⟩

/-- A link that is open is the innermost element, and the only one that would be restored. -/
theorem exists_link {attributes : List Attribute}
    (h : Reading b (⟨lit "a", attributes, items⟩ :: l' :: ls) [b.current?]) :
    ∃ id outer, b.opened = id :: outer ∧ b.current? = some id ∧ b.formatting = [some id] ∧
      b.isNamed (lit "a") id = true := by
  obtain ⟨id, outer, hids, helement, -⟩ := h.exists_cons
  have hcurrent : b.current? = some id := by rw [current?, hids]; rfl
  refine ⟨id, outer, hids, hcurrent, by rw [h.formatting, hcurrent], ?_⟩
  unfold isNamed
  rw [helement]
  exact beq_self_eq_true _

/-- …so it ends without another one in its place. -/
theorem adoptOnce_link {attributes : List Attribute}
    (h : Reading b (⟨lit "a", attributes, items⟩ :: l' :: ls) [b.current?]) :
    b.adoptOnce (lit "a") = ({ b.pop with formatting := [] }, false) := by
  obtain ⟨id, outer, hids, -, hformatting, hnamed⟩ := h.exists_link
  have hfound : b.formattingNamed? (lit "a") = some id := by
    unfold formattingNamed?
    rw [hformatting]
    simp [hnamed]
  have hpop : b.popThrough (· == id) = b.pop := by
    unfold Builder.popThrough Builder.pop
    rw [hids, List.dropWhile_cons_of_neg (by simp)]
  have hpopped : b.pop.formatting = [some id] := hformatting
  unfold adoptOnce
  rw [hfound]
  dsimp only
  rw [hpop, hids, hpopped]
  simp [adoptOnce.elementInScope]

/-- The closing tag of a link. -/
theorem closeLink {attributes : List Attribute}
    (h : Reading b (⟨lit "a", attributes, items⟩ :: l' :: ls) [b.current?]) :
    Reading (b.readToken (.closing ⟨lit "a", [], false⟩))
      (l'.add (.element .html (lit "a") attributes items) :: ls) [] := by
  have hstep : b.inBodyStep (.closing ⟨lit "a", [], false⟩) =
      .done { b.pop with formatting := [] } := by
    obtain ⟨id, outer, -, hcurrent, hformatting, -⟩ := h.exists_link
    have hkept : (b.isNamed (lit "a") id && !b.formatting.contains (some id)) = false := by
      rw [hformatting]
      simp
    unfold inBodyStep closeInBody
    dsimp only
    rw [role_link]
    dsimp only
    unfold closeFormatting
    rw [hcurrent]
    dsimp only
    rw [hkept, if_neg Bool.false_ne_true, adoptRounds, h.adoptOnce_link]
  rw [h.readToken hstep]
  have hpopped := h.pop
  exact ⟨hpopped.mode, hpopped.content, hpopped.foster, hpopped.skipNewline, hpopped.templateModes,
    rfl, hpopped.spine⟩

end Reading

end Builder

end WikiPress.Html
