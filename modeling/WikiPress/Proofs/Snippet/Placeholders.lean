import WikiPress.Proofs.Excerpt.MaximalRuns
import WikiPress.Proofs.Text.Case
import WikiPress.Snippet.Template

/-!
# Proofs/Snippet/Placeholders — every hole is found, and nothing else is filled

    x {{y|z}} {{}} {{a {{b}} c}} {{{d}}}
      ╰──┬──╯      ╰───┬───╯     ╰─┬──╯
        y│z          a {{b         {d

A hole is told without a scan: two opening braces and an inner text in one line up to the first
closing braces (`IsHole`).  The scan goes on behind an opening that is none, and no hole begins
between its two braces, since it would have the same line end in it (`skip_opening`); so every hole
begins in a range that is found (`Scans.exists_range`), and every range is one of a hole
(`Scans.exists_isHole`).
-/

namespace WikiPress.Text

/-! ## First occurrences -/

variable {sep t before after : Text}

/-- **A cut is at the first occurrence.** -/
theorem length_le_of_cut? (h : cut? sep t = some (before, after)) {before' after' : Text}
    (h' : t = before' ++ (sep ++ after')) : before.length ≤ before'.length := by
  induction t generalizing before after before' with
  | nil =>
    rw [cut?, Option.map_eq_some_iff] at h
    obtain ⟨rest, -, h⟩ := h
    rw [← (Prod.mk.inj h).1]
    exact Nat.zero_le _
  | cons c t ih =>
    rw [cut?] at h
    split at h
    · rw [← (Prod.mk.inj (Option.some.inj h)).1]
      exact Nat.zero_le _
    · next hnone =>
      obtain ⟨⟨front, back⟩, hcut, h⟩ := Option.map_eq_some_iff.1 h
      rw [← (Prod.mk.inj h).1]
      rcases before' with _ | ⟨d, before'⟩
      · have hbegins : strip? sep (c :: t) = some after' := strip?_eq_some_iff.2 h'
        rw [hbegins] at hnone
        exact absurd hnone (by simp)
      · exact Nat.succ_le_succ (ih hcut (List.cons.inj h').2)

theorem ne_of_cut?_eq_none (h : cut? sep t = none) (before after : Text) :
    t ≠ before ++ (sep ++ after) := by
  rintro rfl
  have hsome : (cut? sep (before ++ (sep ++ after))).isSome :=
    cut?_isSome_iff.2 ⟨before, after, List.append_assoc _ _ _⟩
  rw [h] at hsome
  exact absurd hsome (by decide)

end WikiPress.Text

namespace WikiPress.Snippet

/-! ## Holes -/

/-- **A hole of a text**: two opening braces, an inner text that is not empty, stands in one line
and runs to the first closing braces behind them, and these. -/
structure IsHole (t before inner after : Text) : Prop where
  text_eq : t = before ++ (openBraces ++ (inner ++ (closeBraces ++ after)))
  first : ∀ inner' after', inner ++ (closeBraces ++ after) = inner' ++ (closeBraces ++ after') →
    inner.length ≤ inner'.length
  ne_nil : inner ≠ []
  one_line : '\n' ∉ inner

namespace IsHole

variable {t before inner after : Text}

theorem append (h : IsHole t before inner after) (front : Text) :
    IsHole (front ++ t) (front ++ before) inner after where
  text_eq := by rw [h.text_eq, List.append_assoc]
  first := h.first
  ne_nil := h.ne_nil
  one_line := h.one_line

theorem of_append {front : Text} (h : IsHole (front ++ t) (front ++ before) inner after) :
    IsHole t before inner after where
  text_eq := List.append_cancel_left (h.text_eq.trans (List.append_assoc _ _ _))
  first := h.first
  ne_nil := h.ne_nil
  one_line := h.one_line

/-- A hole behind an opening is one of what follows the opening, up to what it shares with it. -/
theorem exists_gap {front inside : Text} (h : IsHole (front ++ (openBraces ++ inside)) before inner after)
    (hle : front.length ≤ before.length) :
    ∃ gap, inside = gap ++ (inner ++ (closeBraces ++ after)) ∧
      front ++ (openBraces ++ gap) = before ++ openBraces := by
  have htext := h.text_eq
  rw [← List.append_assoc, ← List.append_assoc] at htext
  have hprefix : front ++ openBraces <+: before ++ openBraces := by
    refine List.prefix_of_prefix_length_le (List.prefix_append _ inside)
      ⟨inner ++ (closeBraces ++ after), htext.symm⟩ ?_
    rw [List.length_append, List.length_append]
    omega
  obtain ⟨gap, hgap⟩ := hprefix
  rw [← hgap, List.append_assoc (front ++ openBraces)] at htext
  exact ⟨gap, List.append_cancel_left htext, by rw [← hgap, List.append_assoc]⟩

end IsHole

/-! ## Scans -/

/-- **A text is scanned into parts**: up to where it has no hole, skipping a front without holes, or
taking its first hole. -/
inductive Scans : Text → List Part → Prop
  | stop {t} (h : ∀ before inner after, ¬ IsHole t before inner after) : Scans t [.plain t]
  | skip {front inside parts}
      (hskip : ∀ before inner after, IsHole (front ++ inside) before inner after → front <+: before)
      (h : Scans inside parts) : Scans (front ++ inside) (.plain front :: parts)
  | hole {t before inner after parts} (hhole : IsHole t before inner after)
      (hfirst : ∀ before' inner' after', IsHole t before' inner' after' →
        before.length ≤ before'.length)
      (h : Scans after parts) : Scans t (.plain before :: .hole inner :: parts)

/-- What begins at an opening, and not behind it, begins at one of its braces. -/
theorem eq_of_not_prefix {front gap before : Text}
    (hfront : front ++ (openBraces ++ gap) = before ++ openBraces)
    (hnot : ¬ front ++ openBraces <+: before) : gap = [] ∨ gap = ['{'] := by
  have hnear : before.length < (front ++ openBraces).length := by
    by_contra hfar
    exact hnot (List.prefix_of_prefix_length_le ⟨gap, by rw [List.append_assoc, hfront]⟩
      (List.prefix_append _ _) (Nat.le_of_not_lt hfar))
  have hlength := congrArg List.length hfront
  simp only [List.length_append, openBraces, List.length_cons, List.length_nil] at hlength hnear
  rcases gap with _ | ⟨c, _ | ⟨d, gap⟩⟩
  · exact .inl rfl
  · have hlast := congrArg List.getLast? hfront
    simp only [openBraces, List.getLast?_append, List.cons_append, List.nil_append,
      List.getLast?_cons_cons, List.getLast?_singleton, Option.some_or, Option.some.injEq] at hlast
    exact .inr (by rw [hlast])
  · simp only [List.length_cons] at hlength
    omega

/-- A hole that begins at an opening has the same closing braces, so its inner text is the rest of
what they close. -/
theorem IsHole.append_inner_eq {t before inner after gap inner' after' : Text}
    (h : IsHole t before inner after)
    (hclose : Text.cut? closeBraces (inner' ++ (closeBraces ++ after')) = some (inner', after'))
    (hgap : inner' ++ (closeBraces ++ after') = gap ++ (inner ++ (closeBraces ++ after)))
    (hshort : gap = [] ∨ gap = ['{']) : gap ++ inner = inner' := by
  have hmin : inner'.length ≤ (gap ++ inner).length :=
    Text.length_le_of_cut? hclose (by rw [hgap, List.append_assoc])
  have hprefix : gap <+: inner' := by
    refine List.prefix_of_prefix_length_le ⟨_, hgap.symm⟩ (List.prefix_append _ _) ?_
    rcases hshort with rfl | rfl
    · exact Nat.zero_le _
    · rcases inner' with _ | ⟨c, inner'⟩
      · exact absurd (List.cons.inj hgap).1 (by decide)
      · exact Nat.succ_le_succ (Nat.zero_le _)
  obtain ⟨rest, rfl⟩ := hprefix
  rw [List.append_assoc] at hgap
  have hrest := List.append_cancel_left hgap
  have hmax := h.first _ _ hrest.symm
  rw [List.length_append, List.length_append] at hmin
  rw [(List.append_inj hrest (by omega)).1]

/-- An opening whose inner text is empty or has more than one line is skipped, and no hole begins
inside it. -/
theorem skip_opening {front inner after before' inner' after' : Text}
    (hopen : Text.cut? openBraces (front ++ (openBraces ++ (inner ++ (closeBraces ++ after)))) =
      some (front, inner ++ (closeBraces ++ after)))
    (hclose : Text.cut? closeBraces (inner ++ (closeBraces ++ after)) = some (inner, after))
    (hinner : inner = [] ∨ '\n' ∈ inner)
    (h : IsHole (front ++ (openBraces ++ (inner ++ (closeBraces ++ after)))) before' inner' after') :
    front ++ openBraces <+: before' := by
  have hle := Text.length_le_of_cut? hopen h.text_eq
  by_contra hnot
  -- otherwise the hole begins at the opening or at its second brace
  obtain ⟨gap, hgap, hfront⟩ := h.exists_gap hle
  have hshort := eq_of_not_prefix hfront hnot
  have hwhole := h.append_inner_eq hclose hgap hshort
  rcases hinner with hnil | hline
  · rw [hnil] at hwhole
    exact h.ne_nil (List.append_eq_nil_iff.1 hwhole).2
  · rw [← hwhole, List.mem_append] at hline
    refine h.one_line (hline.resolve_left ?_)
    rcases hshort with rfl | rfl <;> decide

/-- **The parts of a text are a scan of it.** -/
theorem scans_placeholderPartsWithin {fuel : Nat} {t : Text} (h : t.length ≤ fuel) :
    Scans t (placeholderPartsWithin fuel t) := by
  induction fuel generalizing t with
  | zero =>
    obtain rfl := List.eq_nil_of_length_eq_zero (Nat.le_zero.1 h)
    refine .stop fun before inner after hhole => ?_
    have hlength := congrArg List.length hhole.text_eq
    simp [openBraces] at hlength
  | succ fuel ih =>
    rw [placeholderPartsWithin]
    split
    · next hopen =>
      exact .stop fun before inner after hhole =>
        Text.ne_of_cut?_eq_none hopen _ _ hhole.text_eq
    · next front inside hopen =>
      have htext := Text.eq_of_cut? hopen
      subst htext
      split
      · next hclose =>
        refine .stop fun before inner after hhole => ?_
        obtain ⟨gap, hgap, -⟩ := hhole.exists_gap (Text.length_le_of_cut? hopen hhole.text_eq)
        rw [← List.append_assoc] at hgap
        exact Text.ne_of_cut?_eq_none hclose _ _ hgap
      · next inner after hclose =>
        have hinside := Text.eq_of_cut? hclose
        subst hinside
        simp only [List.length_append, openBraces, closeBraces, List.length_cons, List.length_nil]
          at h
        split
        · next hinner =>
          rw [← List.append_assoc]
          refine .skip (fun before' inner' after' hhole => ?_) (ih ?_)
          · refine skip_opening hopen hclose ?_ (by rwa [← List.append_assoc])
            simpa using hinner
          · simp only [List.length_append, closeBraces, List.length_cons, List.length_nil]
            omega
        · next hinner =>
          rw [Bool.or_eq_true, not_or, List.isEmpty_iff, List.elem_iff] at hinner
          refine .hole ⟨rfl, fun inner' after' => Text.length_le_of_cut? hclose, hinner.1, hinner.2⟩
            (fun before' inner' after' hhole => Text.length_le_of_cut? hopen hhole.text_eq) (ih ?_)
          omega

theorem scans_placeholderParts (t : Text) : Scans t (placeholderParts t) :=
  scans_placeholderPartsWithin le_rfl

/-! ## Ranges -/

/-- A hole as it is written. -/
def braced (inner : Text) : Text := openBraces ++ (inner ++ closeBraces)

/-- A part as it is written. -/
def Part.source : Part → Text
  | .plain t => t
  | .hole inner => braced inner

theorem byteLength_braced (inner : Text) :
    Text.byteLength (braced inner) = Text.byteLength inner + 4 := by
  have hopen : Text.byteLength openBraces = 2 := by decide
  have hclose : Text.byteLength closeBraces = 2 := by decide
  rw [braced, Excerpt.byteLength_append, Excerpt.byteLength_append, hopen, hclose]
  omega

theorem IsHole.eq_braced {t before inner after : Text} (h : IsHole t before inner after) :
    t = before ++ (braced inner ++ after) := by
  rw [h.text_eq, braced, List.append_assoc, List.append_assoc]

/-- The text between two texts is what stands between their lengths. -/
theorem byteSlice?_append (a b c : Text) :
    Excerpt.byteSlice? (a ++ (b ++ c)) (Text.byteLength a) (Text.byteLength a + Text.byteLength b) =
      some b := by
  rw [Excerpt.byteSlice?, if_pos (Nat.le_add_right _ _), Excerpt.dropBytes?_byteLength,
    Option.bind_some, Nat.add_sub_cancel_left, Excerpt.takeBytes?_byteLength]

section Ranges

variable {t : Text} {parts : List Part}

/-- The parts are the text. -/
theorem Scans.flatMap_source (h : Scans t parts) : parts.flatMap Part.source = t := by
  induction h with
  | stop => exact List.append_nil _
  | skip _ _ ih => rw [List.flatMap_cons, ih, Part.source]
  | hole hhole _ _ ih =>
    rw [List.flatMap_cons, List.flatMap_cons, ih, Part.source, Part.source, ← hhole.eq_braced]

/-- **Every range is one of a hole.** -/
theorem Scans.exists_isHole (h : Scans t parts) {start : Nat} {r : Nat × Nat × Text}
    (hr : r ∈ holeRanges start parts) :
    ∃ before after, IsHole t before r.2.2 after ∧ r.1 = start + Text.byteLength before ∧
      r.2.1 = r.1 + Text.byteLength (braced r.2.2) := by
  induction h generalizing start with
  | stop => exact absurd hr List.not_mem_nil
  | @skip front inside parts _ _ ih =>
    rw [holeRanges] at hr
    obtain ⟨before, after, hhole, hstart, hstop⟩ := ih hr
    refine ⟨front ++ before, after, hhole.append front, ?_, hstop⟩
    rw [hstart, Excerpt.byteLength_append, Nat.add_assoc]
  | @hole t before inner after parts hhole _ _ ih =>
    rw [holeRanges, holeRanges] at hr
    rcases List.mem_cons.1 hr with rfl | hr
    · exact ⟨before, after, hhole, rfl, by rw [byteLength_braced]; rfl⟩
    · obtain ⟨before', after', hhole', hstart, hstop⟩ := ih hr
      refine ⟨before ++ (braced inner ++ before'), after', ?_, ?_, hstop⟩
      · rw [hhole.eq_braced, ← List.append_assoc, ← List.append_assoc]
        exact hhole'.append _
      · rw [hstart, Excerpt.byteLength_append, Excerpt.byteLength_append, byteLength_braced]
        omega

theorem le_of_mem_holeRanges {start : Nat} {r : Nat × Nat × Text}
    (hr : r ∈ holeRanges start parts) : start ≤ r.1 := by
  induction parts generalizing start with
  | nil => exact absurd hr List.not_mem_nil
  | cons part parts ih =>
    cases part with
    | plain t => exact (Nat.le_add_right _ _).trans (ih hr)
    | hole inner =>
      rw [holeRanges] at hr
      rcases List.mem_cons.1 hr with rfl | hr
      · exact le_rfl
      · have hle := ih hr
        omega

/-- **Ranges follow each other**, without overlap. -/
theorem pairwise_holeRanges (start : Nat) (parts : List Part) :
    (holeRanges start parts).Pairwise fun r r' => r.2.1 ≤ r'.1 := by
  induction parts generalizing start with
  | nil => exact .nil
  | cons part parts ih =>
    cases part with
    | plain t => exact ih _
    | hole inner => exact .cons (fun r hr => le_of_mem_holeRanges hr) (ih _)

/-- **No hole begins outside the ranges.** -/
theorem Scans.exists_range (h : Scans t parts) {before inner after : Text}
    (hhole : IsHole t before inner after) (start : Nat) :
    ∃ r ∈ holeRanges start parts, r.1 ≤ start + Text.byteLength before ∧
      start + Text.byteLength before < r.2.1 := by
  induction h generalizing before start with
  | stop hnone => exact absurd hhole (hnone _ _ _)
  | @skip front inside parts hskip _ ih =>
    obtain ⟨rest, rfl⟩ := hskip _ _ _ hhole
    obtain ⟨r, hr, hlow, hhigh⟩ := ih hhole.of_append (start + Text.byteLength front)
    rw [Excerpt.byteLength_append]
    exact ⟨r, hr, by omega, by omega⟩
  | @hole t first inner' after' parts hfirst hmin _ ih =>
    have hprefix : first <+: before :=
      List.prefix_of_prefix_length_le ⟨_, hfirst.eq_braced.symm⟩ ⟨_, hhole.eq_braced.symm⟩
        (hmin _ _ _ hhole)
    obtain ⟨rest, rfl⟩ := hprefix
    rw [Excerpt.byteLength_append]
    have hrest : IsHole (braced inner' ++ after') rest inner after := by
      have hwhole : IsHole (first ++ (braced inner' ++ after')) (first ++ rest) inner after :=
        hfirst.eq_braced ▸ hhole
      exact hwhole.of_append
    by_cases hinside : (braced inner').length ≤ rest.length
    · obtain ⟨behind, rfl⟩ : braced inner' <+: rest :=
        List.prefix_of_prefix_length_le (List.prefix_append _ _) ⟨_, hrest.eq_braced.symm⟩ hinside
      obtain ⟨r, hr, hlow, hhigh⟩ := ih hrest.of_append
        (start + Text.byteLength first + Text.byteLength (braced inner'))
      rw [byteLength_braced] at hr
      rw [Excerpt.byteLength_append]
      exact ⟨r, List.mem_cons_of_mem _ hr, by omega, by omega⟩
    · obtain ⟨behind, hbehind⟩ : rest <+: braced inner' :=
        List.prefix_of_prefix_length_le ⟨_, hrest.eq_braced.symm⟩ (List.prefix_append _ _)
          (Nat.le_of_not_le hinside)
      have hne : behind ≠ [] := by
        rintro rfl
        rw [List.append_nil] at hbehind
        exact hinside (hbehind ▸ le_rfl)
      obtain ⟨c, behind, rfl⟩ := List.exists_cons_of_ne_nil hne
      have hlength := congrArg Text.byteLength hbehind
      have hc := c.utf8Size_pos
      rw [Excerpt.byteLength_append, Excerpt.byteLength_cons, byteLength_braced] at hlength
      refine ⟨_, List.mem_cons_self, ?_, ?_⟩ <;> dsimp only <;> omega

end Ranges

/-! ## Filling -/

/-- **A text with ranges replaced**: from `cursor` on, what stands between them is kept; none if a
slice cannot be taken. -/
def fillRanges? (value : Text → Text) (t : Text) : (cursor : Nat) → List (Nat × Nat × Text) →
    Option Text
  | cursor, [] => Excerpt.byteSlice? t cursor (Text.byteLength t)
  | cursor, (start, stop, inner) :: rest => do
    let kept ← Excerpt.byteSlice? t cursor start
    let behind ← fillRanges? value t stop rest
    return kept ++ (value inner ++ behind)

theorem fillRanges?_holeRanges (value : Text → Text) (front gap : Text) (parts : List Part) :
    fillRanges? value (front ++ (gap ++ parts.flatMap Part.source)) (Text.byteLength front)
        (holeRanges (Text.byteLength front + Text.byteLength gap) parts) =
      some (gap ++ parts.flatMap (Part.fill value)) := by
  induction parts generalizing front gap with
  | nil =>
    have hend := byteSlice?_append front gap []
    rw [List.append_nil] at hend
    rw [holeRanges, fillRanges?, List.flatMap_nil, List.flatMap_nil, List.append_nil,
      Excerpt.byteLength_append, hend]
  | cons part parts ih =>
    cases part with
    | plain t =>
      have hrest := ih front (gap ++ t)
      rw [Excerpt.byteLength_append, ← Nat.add_assoc] at hrest
      rw [List.flatMap_cons, List.flatMap_cons, Part.source, Part.fill, holeRanges,
        ← List.append_assoc gap, ← List.append_assoc gap, hrest]
    | hole inner =>
      have hkept := byteSlice?_append front gap (braced inner ++ parts.flatMap Part.source)
      have hrest := ih (front ++ (gap ++ braced inner)) []
      have hstop : Text.byteLength front + Text.byteLength gap + Text.byteLength inner + 4 =
          Text.byteLength (front ++ (gap ++ braced inner)) := by
        rw [Excerpt.byteLength_append, Excerpt.byteLength_append, byteLength_braced]
        omega
      rw [List.nil_append, List.nil_append, List.append_assoc, List.append_assoc] at hrest
      rw [List.flatMap_cons, List.flatMap_cons, Part.source, Part.fill, holeRanges, fillRanges?,
        hkept, Option.bind_eq_bind, Option.bind_some, hstop]
      exact (congrArg (Option.bind · _) hrest).trans rfl

/-! ## Values -/

/-- **A text with its escaped newlines unescaped.** -/
def unescape : Text → Text
  | [] => []
  | '\\' :: 'n' :: t => '\n' :: unescape t
  | c :: t => c :: unescape t

theorem unescape_of_cut? {t before after : Text}
    (h : Text.cut? ['\\', 'n'] t = some (before, after)) :
    unescape t = before ++ '\n' :: unescape after := by
  induction t generalizing before with
  | nil => exact absurd h (by simp [Text.cut?, Text.strip?])
  | cons c t ih =>
    rw [Text.cut?] at h
    split at h
    · next rest hrest =>
      obtain ⟨rfl, rfl⟩ := Prod.mk.inj (Option.some.inj h)
      rw [Text.strip?_eq_some_iff.1 hrest]
      rfl
    · next hnone =>
      obtain ⟨⟨front, back⟩, hcut, h⟩ := Option.map_eq_some_iff.1 h
      obtain ⟨rfl, rfl⟩ := Prod.mk.inj h
      rw [unescape, ih hcut]
      · rfl
      · rintro rest rfl rfl
        exact absurd hnone (by simp [Text.strip?])

theorem unescape_of_cut?_eq_none {t : Text} (h : Text.cut? ['\\', 'n'] t = none) :
    unescape t = t := by
  induction t with
  | nil => rfl
  | cons c t ih =>
    rw [Text.cut?] at h
    split at h
    · exact absurd h (by simp)
    · next hnone =>
      rw [unescape, ih (Option.map_eq_none_iff.1 h)]
      rintro rest rfl rfl
      exact absurd hnone (by simp [Text.strip?])

theorem splitTextWithin_ne_nil (sep : Text) (fuel : Nat) (t : Text) :
    Text.splitTextWithin sep fuel t ≠ [] := by
  cases fuel with
  | zero => exact List.cons_ne_nil _ _
  | succ fuel =>
    rw [Text.splitTextWithin]
    split <;> exact List.cons_ne_nil _ _

/-- The pieces between escaped newlines, put together with newlines, are the text unescaped. -/
theorem join_splitTextWithin_newline {fuel : Nat} {t : Text} (h : t.length ≤ fuel) :
    Text.join ['\n'] (Text.splitTextWithin ['\\', 'n'] fuel t) = unescape t := by
  induction fuel generalizing t with
  | zero =>
    obtain rfl := List.eq_nil_of_length_eq_zero (Nat.le_zero.1 h)
    rfl
  | succ fuel ih =>
    rw [Text.splitTextWithin]
    split
    · next hnone => rw [Text.join_singleton, unescape_of_cut?_eq_none hnone]
    · next before after hcut =>
      have hlength := congrArg List.length (Text.eq_of_cut? hcut)
      simp only [List.length_append, List.length_cons, List.length_nil] at hlength
      rw [Text.join_cons_of_ne_nil _ _ (splitTextWithin_ne_nil _ _ _), ih (by omega),
        unescape_of_cut? hcut, List.append_assoc]
      rfl

/-- **Replacing the escaped newlines is unescaping them.** -/
theorem replaceAll_newline (t : Text) : Text.replaceAll ['\\', 'n'] ['\n'] t = unescape t :=
  join_splitTextWithin_newline le_rfl

/-- **What an inner text says**: a name, with a default behind a bar. -/
inductive Placeholder.Reads : Text → Placeholder → Prop
  | bare {name} (h : '|' ∉ name) : Reads name ⟨name, none⟩
  | withDefault {name default} (h : '|' ∉ name) :
      Reads (name ++ '|' :: default) ⟨Text.trimEnd name, some (Text.trimStart default)⟩

theorem Placeholder.reads_read (inner : Text) : Reads inner (read inner) := by
  rw [Placeholder.read, Text.chop]
  simp only [Bool.false_eq_true, if_false, if_true]
  cases hcut : Text.cut? ['|'] inner with
  | none =>
    refine .bare fun hmem => ?_
    obtain ⟨before, after, rfl⟩ := List.append_of_mem hmem
    exact Text.ne_of_cut?_eq_none hcut before after rfl
  | some cut =>
    obtain ⟨name, default⟩ := cut
    have hname : '|' ∉ name := by
      intro hmem
      obtain ⟨before, after, rfl⟩ := List.append_of_mem hmem
      have hearlier : inner = before ++ (['|'] ++ (after ++ '|' :: default)) := by
        rw [Text.eq_of_cut? hcut]
        simp
      have hshort := Text.length_le_of_cut? hcut hearlier
      rw [List.length_append, List.length_cons] at hshort
      omega
    obtain rfl := Text.eq_of_cut? hcut
    exact .withDefault hname

theorem Placeholder.value_eq (p : Placeholder) (bindings : Bindings) :
    p.value bindings =
      (((bindings.get? p.name).or p.default).map unescape).getD (lit "undefined") := by
  rw [Placeholder.value]
  split
  · next value hvalue => rw [hvalue, Option.map_some, Option.getD_some, replaceAll_newline]
  · next hnone => rw [hnone, Option.map_none, Option.getD_none]

/-! ## Placeholders -/

/-- **Placeholders are found and filled exactly.**  Every range that is found is the one of a hole: it
begins where the hole does, cuts no character, and holds the braces and the inner text between them;
and the ranges follow each other without overlap.  No hole begins outside of them.  Whatever is
bound, the text is filled by putting for each range what its inner text says, the bound value or the
default with escaped newlines unescaped or `undefined`, and keeping all bytes between the ranges; so
what was put in is not read again. -/
theorem placeholders_exact (t : Text) :
    (∀ r ∈ holeRanges 0 (placeholderParts t), ∃ before after,
      IsHole t before r.2.2 after ∧ r.1 = Text.byteLength before ∧
        r.2.1 = Text.byteLength before + Text.byteLength (braced r.2.2) ∧
        r.2.1 ≤ Text.byteLength t ∧ Excerpt.byteSlice? t r.1 r.2.1 = some (braced r.2.2)) ∧
    (holeRanges 0 (placeholderParts t)).Pairwise (fun r r' => r.2.1 ≤ r'.1) ∧
    (∀ before inner after, IsHole t before inner after →
      ∃ r ∈ holeRanges 0 (placeholderParts t),
        r.1 ≤ Text.byteLength before ∧ Text.byteLength before < r.2.1) ∧
    ∀ bindings : Bindings, ∃ value : Text → Text,
      (∀ inner, ∃ p, Placeholder.Reads inner p ∧ value inner =
        (((bindings.get? p.name).or p.default).map unescape).getD (lit "undefined")) ∧
      fillRanges? value t 0 (holeRanges 0 (placeholderParts t)) = some (substitute bindings t) := by
  have hscan := scans_placeholderParts t
  refine ⟨fun r hr => ?_, pairwise_holeRanges 0 _, fun before inner after hhole => ?_,
    fun bindings => ⟨fun inner => (Placeholder.read inner).value bindings, fun inner =>
      ⟨_, Placeholder.reads_read inner, Placeholder.value_eq _ bindings⟩, ?_⟩⟩
  · obtain ⟨before, after, hhole, hstart, hstop⟩ := hscan.exists_isHole hr
    rw [Nat.zero_add] at hstart
    rw [hstart] at hstop
    have htext := congrArg Text.byteLength hhole.eq_braced
    rw [Excerpt.byteLength_append, Excerpt.byteLength_append] at htext
    refine ⟨before, after, hhole, hstart, hstop, by omega, ?_⟩
    conv_lhs => rw [hhole.eq_braced]
    rw [hstart, hstop, byteSlice?_append]
  · obtain ⟨r, hr, hlow, hhigh⟩ := hscan.exists_range hhole 0
    exact ⟨r, hr, by omega, by omega⟩
  · have hfill := fillRanges?_holeRanges (fun inner => (Placeholder.read inner).value bindings) [] []
      (placeholderParts t)
    rw [hscan.flatMap_source] at hfill
    exact hfill

/-- Of three braces the second two open a hole as well; it begins in the range of the first. -/
theorem placeholders_exact_of_three_braces :
    IsHole (lit "x \x7b\x7b\x7by\x7d\x7d") (lit "x \x7b") (lit "y") [] ∧
      (∃ r ∈ holeRanges 0 (placeholderParts (lit "x \x7b\x7b\x7by\x7d\x7d")), r.1 ≤ 3 ∧ 3 < r.2.1) ∧
      ∃ value : Text → Text, fillRanges? value (lit "x \x7b\x7b\x7by\x7d\x7d") 0
        (holeRanges 0 (placeholderParts (lit "x \x7b\x7b\x7by\x7d\x7d"))) =
          some (lit "x undefined") := by
  have hcut : Text.cut? closeBraces (lit "y\x7d\x7d") = some (lit "y", []) := by decide
  have hhole : IsHole (lit "x \x7b\x7b\x7by\x7d\x7d") (lit "x \x7b") (lit "y") [] :=
    ⟨by decide, fun _ _ h => Text.length_le_of_cut? hcut h, by decide, by decide⟩
  have hsubstitute : substitute [] (lit "x \x7b\x7b\x7by\x7d\x7d") = lit "x undefined" := by
    decide +kernel
  obtain ⟨-, -, hmissed, hfilled⟩ := placeholders_exact (lit "x \x7b\x7b\x7by\x7d\x7d")
  obtain ⟨value, -, hvalue⟩ := hfilled []
  exact ⟨hhole, hmissed _ _ _ hhole, value, hsubstitute ▸ hvalue⟩

end WikiPress.Snippet
