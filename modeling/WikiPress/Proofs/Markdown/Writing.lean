import WikiPress.Proofs.Markdown.Swap

/-!
# Proofs/Markdown/Writing — swapped blocks are written as swapped HTML

    html  s    ──▸  …⏎ s  ⏎ …          code  t    ──▸  <pre><code>escape t </code></pre>
    html  s'   ──▸  …⏎ s' ⏎ …          code  t'   ──▸  <pre><code>escape t'</code></pre>

The writer reads of what it has written only whether a line has just begun.  Pieces that end alike do
not change that, so blocks that differ in raw HTML and code are written as texts that differ in the
pieces of these (`swap_blockMarkup`).
-/

namespace WikiPress.Markdown

variable {C Q : Text → Text → Prop}

/-! ## Sheets -/

/-- **Sheets that are the same but for pieces.** -/
structure Sheet.Swap (Q : Text → Text → Prop) (s s' : Sheet) : Prop where
  out : Text.Swap Q s.out.reverse s'.out.reverse
  notes : s.notes = s'.notes
  returned : s.returned = s'.returned

/-- Pieces that end with the same character. -/
def EndsAlike (Q : Text → Text → Prop) : Prop :=
  ∀ p p', Q p p' → ∃ c, p.getLast? = some c ∧ p'.getLast? = some c

namespace Sheet.Swap

variable {s s' : Sheet} {t t' : Text}

theorem put (h : s.Swap Q s') (ht : Text.Swap Q t t') : (s.put t).Swap Q (s'.put t') where
  out := by
    simpa only [Sheet.put, List.reverse_append, List.reverse_reverse] using h.out.append ht
  notes := h.notes
  returned := h.returned

theorem write (h : s.Swap Q s') (t : Text) : (s.put t).Swap Q (s'.put t) := h.put (.refl t)

theorem newLine (hQ : EndsAlike Q) (h : s.Swap Q s') : s.newLine.Swap Q s'.newLine := by
  have hhead : s.out.head? = s'.out.head? := by
    simpa only [List.getLast?_reverse] using h.out.getLast?_eq hQ
  have hline : ∀ {s : Sheet}, s.newLine =
      if s.out.head? = none ∨ s.out.head? = some '\n' then s else s.put ['\n'] := by
    intro s
    unfold Sheet.newLine
    split
    · next h => simp [h]
    · next h => simp [h]
    · next hnil hbreak =>
      cases hout : s.out with
      | nil => exact absurd hout hnil
      | cons c out =>
        have hc : c ≠ '\n' := fun hc => hbreak out (hc ▸ hout)
        simp [hc, Sheet.put, hout]
  rw [hline, hline, ← hhead]
  split
  · exact h
  · exact h.write _

theorem lacksReturn (h : s.Swap Q s') : s.lacksReturn = s'.lacksReturn := by
  rw [Sheet.lacksReturn, Sheet.lacksReturn, h.notes, h.returned]

theorem putReturn (h : s.Swap Q s') (note : OpenNote) :
    (s.putReturn note).Swap Q (s'.putReturn note) where
  out := by
    unfold Sheet.putReturn
    rw [← h.notes]
    exact (h.write _).out
  notes := h.notes
  returned := h.notes

/-- A note begins, with the section before the first one. -/
theorem beginNote (h : s.Swap Q s') :
    let begun := fun (s : Sheet) =>
      if s.notes == 0 then s.put (lit "<section class=\"footnotes\" data-footnotes>\n<ol>\n") else s
    Sheet.Swap Q { begun s with notes := (begun s).notes + 1 }
      { begun s' with notes := (begun s').notes + 1 } := by
  dsimp only
  rw [← h.notes]
  split
  · exact ⟨(h.write _).out, congrArg (· + 1) h.notes, h.returned⟩
  · exact ⟨h.out, congrArg (· + 1) h.notes, h.returned⟩

/-- A note ends, with the ways back that are still missing. -/
theorem endNote (h : s.Swap Q s') (note : OpenNote) :
    Sheet.Swap Q (if s.lacksReturn then (s.putReturn note).put ['\n'] else s)
      (if s'.lacksReturn then (s'.putReturn note).put ['\n'] else s') := by
  rw [← h.lacksReturn]
  split
  · exact (h.putReturn note).write _
  · exact h

end Sheet.Swap

/-! ## Blocks -/

mutual

theorem swap_write (hQ : EndsAlike Q)
    (hC : ∀ t t', C t t' → Text.Swap Q (Text.escapeAttribute t) (Text.escapeAttribute t'))
    (g : Setting) : ∀ (b b' : Block (List Inline)) (s s' : Sheet),
      Block.Swap (Text.Swap Q) C b b' → s.Swap Q s' → (b.write g s).Swap Q (b'.write g s')
  | .paragraph content, b', s, s', h, hs => by
    cases h
    by_cases htight : g.tight = true
    · simp only [Block.write, htight, if_true]
      exact hs.write _
    · simp only [Block.write, htight]
      have hbody := ((hs.newLine hQ).write (lit "<p>")).write (markup g.hardBreaks content)
      refine Sheet.Swap.write ?_ _
      cases g.ends with
      | none => exact hbody
      | some note =>
        have hspaced := hbody.write [' ']
        dsimp only
        rw [← hspaced.lacksReturn]
        split
        · exact hspaced.putReturn note
        · exact hspaced
  | .heading level content, b', s, s', h, hs => by
    cases h
    exact (hs.newLine hQ).write _
  | .rule, b', s, s', h, hs => by
    cases h
    exact (hs.newLine hQ).write _
  | .quote body, b', s, s', h, hs => by
    obtain ⟨body', rfl, hbody⟩ := h.of_quote
    exact ((swap_writeAll hQ hC _ body body' _ _ hbody ((hs.newLine hQ).write _)).newLine hQ).write _
  | .list marker tight items, b', s, s', h, hs => by
    obtain ⟨items', rfl, hitems⟩ := h.of_list
    exact (swap_writeAll hQ hC _ items items' _ _ hitems ((hs.newLine hQ).write _)).write _
  | .item body, b', s, s', h, hs => by
    obtain ⟨body', rfl, hbody⟩ := h.of_item
    exact (swap_writeAll hQ hC _ body body' _ _ hbody ((hs.newLine hQ).write _)).write _
  | .checkbox checked, b', s, s', h, hs => by
    cases h
    exact hs.write _
  | .code info text, b', s, s', h, hs => by
    cases h with
    | same => exact (hs.newLine hQ).write _
    | code _ h =>
      exact (hs.newLine hQ).put (((Text.Swap.refl _).append ((hC _ _ h).char '>')).append (.refl _))
  | .html source, b', s, s', h, hs => by
    cases h with
    | same => exact ((hs.newLine hQ).write source).newLine hQ
    | html h => exact ((hs.newLine hQ).put h).newLine hQ
  | .table columns head rows, b', s, s', h, hs => by
    cases h
    exact (hs.newLine hQ).write _
  | .definitions entries, b', s, s', h, hs => by
    obtain ⟨entries', rfl, hentries⟩ := h.of_definitions
    exact (swap_writeAll hQ hC _ entries entries' _ _ hentries ((hs.newLine hQ).write _)).write _
  | .term content, b', s, s', h, hs => by
    cases h
    exact hs.write _
  | .details tight body, b', s, s', h, hs => by
    obtain ⟨body', rfl, hbody⟩ := h.of_details
    exact (swap_writeAll hQ hC _ body body' _ _ hbody (hs.write _)).write _
  | .footnote label references body, b', s, s', h, hs => by
    obtain ⟨body', rfl, hbody⟩ := h.of_footnote
    exact ((swap_writeAll hQ hC { g with tight := false, ends := some ⟨label, references⟩ } body body'
      _ _ hbody (hs.beginNote.write _)).endNote _).write _

theorem swap_writeAll (hQ : EndsAlike Q)
    (hC : ∀ t t', C t t' → Text.Swap Q (Text.escapeAttribute t) (Text.escapeAttribute t'))
    (g : Setting) : ∀ (bs bs' : List (Block (List Inline))) (s s' : Sheet),
      SwapAll (Text.Swap Q) C bs bs' → s.Swap Q s' → (writeAll g bs s).Swap Q (writeAll g bs' s')
  | [], _, s, s', .nil, hs => hs
  | b :: bs, _ :: bs', s, s', .cons h hrest, hs => by
    have hlast : bs.isEmpty = bs'.isEmpty := by cases hrest <;> rfl
    rw [writeAll, writeAll, ← hlast]
    exact swap_writeAll hQ hC g bs bs' _ _ hrest (swap_write hQ hC _ b _ _ _ h hs)

end

/-- **Swapped blocks are written as swapped HTML.** -/
theorem swap_blockMarkup (hQ : EndsAlike Q)
    (hC : ∀ t t', C t t' → Text.Swap Q (Text.escapeAttribute t) (Text.escapeAttribute t'))
    (hardBreaks : Bool) {bs bs' : List (Block (List Inline))}
    (h : SwapAll (Text.Swap Q) C bs bs') :
    Text.Swap Q (blockMarkup hardBreaks bs) (blockMarkup hardBreaks bs') := by
  have hs := swap_writeAll hQ hC ⟨hardBreaks, false, none⟩ bs bs' ⟨[], 0, 0⟩ ⟨[], 0, 0⟩ h
    ⟨.nil, rfl, rfl⟩
  unfold blockMarkup
  dsimp only
  rw [← hs.notes]
  split
  · exact (hs.write _).out
  · exact hs.out

end WikiPress.Markdown
