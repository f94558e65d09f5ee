import WikiPress.Proofs.Html.Listing

/-!
# Proofs/Html/Paragraph — a text in a paragraph of its own

    <p>Notes &amp; more</p>   ──read──▸   ⟨p⟩ ── Notes & more   ──written──▸   <p>Notes &amp; more</p>

Whatever a text is, escaped between the tags of a paragraph it is read as one paragraph that holds the
text as a reader of HTML sees it (`fragment_paragraph`): with newlines as line ends and without null
characters (`Source.seen`).
-/

namespace WikiPress.Html

namespace Source

/-- A text as a reader of HTML sees it. -/
def seen (t : Text) : Text := (normalize.lineEnds t).filter (·.toNat != 0)

section LineEnds

variable {c : Char} {s t : Text}

theorem lineEnds_cons (h : c ≠ '\r') (t : Text) :
    normalize.lineEnds (c :: t) = c :: normalize.lineEnds t :=
  normalize.lineEnds.eq_4 _ _ fun heq => h heq

theorem lineEnds_append_of_not_mem (hs : '\r' ∉ s) (t : Text) :
    normalize.lineEnds (s ++ t) = s ++ normalize.lineEnds t := by
  induction s with
  | nil => rfl
  | cons c s ih =>
    rw [List.mem_cons, not_or] at hs
    rw [List.cons_append, lineEnds_cons (Ne.symm hs.1), ih hs.2, List.cons_append]

/-- What a character is written as: it begins no line and ends none, unless the character does. -/
theorem escapeChar_spec (c : Char) :
    (∃ d rest, Text.escapeChar c = d :: rest ∧ (d = c ∨ d = '&')) ∧
      (c ≠ '\r' → '\r' ∉ Text.escapeChar c) := by
  unfold Text.escapeChar
  split
  · exact ⟨⟨_, _, rfl, .inr rfl⟩, fun _ => by decide⟩
  · exact ⟨⟨_, _, rfl, .inr rfl⟩, fun _ => by decide⟩
  · exact ⟨⟨_, _, rfl, .inr rfl⟩, fun _ => by decide⟩
  · exact ⟨⟨_, _, rfl, .inl rfl⟩, fun h => by simpa using Ne.symm h⟩

theorem escape_cons (c : Char) (s : Text) :
    Text.escape (c :: s) = Text.escapeChar c ++ Text.escape s := rfl

/-- **Line ends of an escaped text** are those of the text. -/
theorem lineEnds_escape_append (s : Text) {t : Text} (ht : t.head? ≠ some '\n') :
    normalize.lineEnds (Text.escape s ++ t) =
      Text.escape (normalize.lineEnds s) ++ normalize.lineEnds t := by
  have hreturn : ∀ s : Text, Text.escape ('\r' :: s) ++ t = '\r' :: (Text.escape s ++ t) := fun _ => rfl
  have hnewline : ∀ s : Text, Text.escape ('\n' :: s) = '\n' :: Text.escape s := fun _ => rfl
  induction s using normalize.lineEnds.induct with
  | case1 => rfl
  | case2 s ih =>
    rw [hreturn, hnewline, List.cons_append, normalize.lineEnds.eq_2, normalize.lineEnds.eq_2,
      ← List.cons_append, ← hnewline, ih]
  | case3 s h ih =>
    -- what is escaped begins with no newline, either
    have hstop : ∀ tail, Text.escape s ++ t = '\n' :: tail → False := by
      intro tail heq
      cases s with
      | nil =>
        rw [show Text.escape [] ++ t = t from rfl] at heq
        exact ht (by rw [heq]; rfl)
      | cons c s =>
        obtain ⟨⟨d, rest, hd, hcases⟩, -⟩ := escapeChar_spec c
        rw [escape_cons, hd, List.cons_append, List.cons_append] at heq
        rcases hcases with rfl | rfl
        · exact h s (by rw [(List.cons.inj heq).1])
        · exact absurd (List.cons.inj heq).1 (by decide)
    rw [hreturn, normalize.lineEnds.eq_3 _ hstop, normalize.lineEnds.eq_3 _ h, ih, hnewline,
      List.cons_append]
  | case4 c s h ih =>
    rw [escape_cons, List.append_assoc, lineEnds_append_of_not_mem ((escapeChar_spec c).2 h), ih,
      lineEnds_cons h, escape_cons, List.append_assoc]

end LineEnds

theorem ofMarkup_openParagraph {rest : Text} :
    ofMarkup false (lit "<p>" ++ rest) = (.opening ⟨lit "p", [], false⟩, rest) := rfl

theorem ofMarkup_closeParagraph {rest : Text} :
    ofMarkup false (lit "</p>" ++ rest) = (.closing ⟨lit "p", [], false⟩, rest) := rfl

end Source

/-! ## The paragraph -/

namespace Builder.Reading

variable {b : Builder} {l : Forest.Level} {ls : List Forest.Level} {nodes items : List Node}

theorem role_paragraph : Role.ofName (lit "p") = .paragraph := by decide

/-- The opening tag of a paragraph. -/
theorem openParagraph (h : Reading b (bodyLevels nodes) []) :
    Reading (b.readToken (.opening ⟨lit "p", [], false⟩)) (⟨lit "p", [], []⟩ :: bodyLevels nodes)
      [] := by
  have hstep : b.inBodyStep (.opening ⟨lit "p", [], false⟩) =
      .done (b.insert ⟨lit "p", [], false⟩) := by
    unfold inBodyStep openInBody
    dsimp only
    rw [role_paragraph, h.closeOpenParagraph rfl]
  rw [h.readToken hstep]
  exact h.insertElement _ _

/-- The closing tag of a paragraph. -/
theorem closeParagraph (h : Reading b (⟨lit "p", [], items⟩ :: l :: ls) []) :
    Reading (b.readToken (.closing ⟨lit "p", [], false⟩))
      (l.add (.element .html (lit "p") [] items) :: ls) [] := by
  have hstep : b.inBodyStep (.closing ⟨lit "p", [], false⟩) = .done b.pop := by
    have hscope : b.hasInScope .button (lit "p") = true := by
      rw [hasInScope, h.inScope]
      rfl
    unfold inBodyStep closeInBody
    dsimp only
    rw [role_paragraph]
    dsimp only
    rw [hscope, if_pos rfl, Builder.closeParagraph, h.impliedEnds (lit "p") (.inl rfl)]
    exact congrArg Step.done h.popNamed
  rw [h.readToken hstep]
  exact h.pop

end Builder.Reading

/-- A paragraph that holds a text. -/
def paragraph (t : Text) : Node := .element .html (lit "p") [] (Forest.joinText [] t)

/-- **A text escaped in a paragraph** is read as a paragraph that holds the text as it is seen. -/
theorem fragment_paragraph (t : Text) :
    fragment (lit "<p>" ++ Text.escape t ++ lit "</p>") = [paragraph (Source.seen t)] := by
  have hnormal : Source.normalize (lit "<p>" ++ Text.escape t ++ lit "</p>") =
      lit "<p>" ++ (Text.escape (Source.normalize.lineEnds t) ++ lit "</p>") := by
    have hlines : Source.normalize (lit "<p>" ++ Text.escape t ++ lit "</p>") =
        Source.normalize.lineEnds (lit "<p>" ++ (Text.escape t ++ lit "</p>")) := by
      rw [List.append_assoc]
      rfl
    rw [hlines, Source.lineEnds_append_of_not_mem (by decide),
      Source.lineEnds_escape_append t (by decide)]
    rfl
  have hnext : Source.ofMarkup false (Source.normalize (lit "<p>" ++ Text.escape t ++ lit "</p>")) =
      (.opening ⟨lit "p", [], false⟩, Text.escape (Source.normalize.lineEnds t) ++ lit "</p>") := by
    rw [hnormal]
    exact Source.ofMarkup_openParagraph
  have hopen : Builder.initial.readToken (.opening ⟨lit "p", [], false⟩) =
      Builder.atContent.readToken (.opening ⟨lit "p", [], false⟩) := rfl
  have hopened := Builder.reading_atContent.openParagraph
  obtain ⟨b, hreach, hwritten⟩ := hopened.reaches_written
    (Source.writes_escape (Source.normalize.lineEnds t)) (lit "/p>")
  have hclosed : Builder.Reading (b.readToken (.closing ⟨lit "p", [], false⟩))
      (Builder.Reading.bodyLevels [paragraph (Source.seen t)]) [] := hwritten.closeParagraph
  refine fragment_of_reaches hnext hopen ?_ hclosed
  rw [hnormal]
  exact (Builder.reading_atContent.reaches_tag Source.ofMarkup_openParagraph (by simp)
    (by decide)).trans <| hreach.trans <|
      hwritten.reaches Source.ofMarkup_closeParagraph (by simp) (by decide)

/-- An element without attributes is written between its tags. -/
theorem markup_element {name : Text} (nodes : List Node)
    (hvoid : (Namespace.html == .html && isIn name voidNames) = false)
    (hraw : (Namespace.html == .html && isIn name rawNames) = false) :
    (Node.element .html name [] nodes).markup false =
      '<' :: name ++ '>' :: (markup false nodes ++ (lit "</" ++ name ++ ['>'])) := by
  unfold Node.markup
  dsimp only
  rw [hvoid, hraw]
  simp

/-- **Written again**, it is the text, escaped, between the tags of a paragraph. -/
theorem markup_paragraph (t : Text) :
    (paragraph t).markup false = lit "<p>" ++ (escapeText t ++ lit "</p>") := by
  have htext : markup false (Forest.joinText [] t) = escapeText t := by
    cases t with
    | nil => rfl
    | cons c t =>
      rw [Forest.joinText_of_getLast? (List.cons_ne_nil c t) (by simp)]
      exact List.append_nil _
  rw [paragraph, markup_element _ (by decide +kernel) (by decide +kernel), htext]
  rfl

end WikiPress.Html
