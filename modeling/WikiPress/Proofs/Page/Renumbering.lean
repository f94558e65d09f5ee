import WikiPress.Proofs.Markdown.Reading
import WikiPress.Proofs.Markdown.Writing
import WikiPress.Proofs.Page.Places
import WikiPress.Proofs.Text.Lines

/-!
# Proofs/Page/Renumbering — the numbers of places do not matter to Markdown

    a⏎              ──lines──▸  ⟨2⟩  ──blocks──▸  html ⟨2⟩  ──markup──▸  <p>a</p>⏎⟨2⟩⏎
    ⏎⟨2⟩⏎           ~           ~                 ~                      ~
    a⏎ ⏎⟨5⟩⏎        ──lines──▸  ⟨5⟩  ──blocks──▸  html ⟨5⟩  ──markup──▸  <p>a</p>⏎⟨5⟩⏎

Markdown with places and the same Markdown with other numbers in them are converted to the same HTML,
with the other numbers in the places, wherever these end up (`swap_convert`).
-/

namespace WikiPress.Page

open List (Forall₂)
open Text (SwapLine)
open Markdown

variable {numbers : List Nat}

/-! ## Lines -/

/-- **The lines of two places**, with a line end before them. -/
def RenumbersLine (numbers : List Nat) (p p' : Text) : Prop :=
  ∃ l l', Renumbers numbers l l' ∧ p = '\n' :: l ++ ['\n'] ∧ p' = '\n' :: l' ++ ['\n']

theorem normalizeChars_cons {c : Char} (h : c ≠ '\r') (t : Text) :
    normalizeChars (c :: t) = (if c.toNat == 0 then '\uFFFD' else c) :: normalizeChars t := by
  rw [normalizeChars]
  exact h

theorem normalizeChars_return (t : Text) : normalizeChars ('\r' :: t) =
    if t.head? = some '\n' then normalizeChars t else '\n' :: normalizeChars t := by
  rw [normalizeChars.eq_def]
  simp only
  split
  · rfl
  · next hnot =>
    rw [if_neg]
    cases t with
    | nil => nofun
    | cons c t => exact fun hc => hnot t (Option.some.inj hc ▸ rfl)

/-- Characters that the lines of a text are made of. -/
def IsKept (t : Text) : Prop := ∀ c ∈ t, c ≠ '\r' ∧ c.toNat ≠ 0

theorem normalizeChars_append {s : Text} (h : IsKept s) (t : Text) :
    normalizeChars (s ++ t) = s ++ normalizeChars t := by
  induction s with
  | nil => rfl
  | cons c s ih =>
    obtain ⟨hc, hs⟩ := List.forall_mem_cons.1 h
    rw [List.cons_append, normalizeChars_cons hc.1, ih hs, if_neg (by simpa using hc.2)]
    rfl

theorem isKept_placeLine (index : Nat) : IsKept ('\n' :: placeMark index ++ ['\n']) := by
  intro c hc
  rw [List.cons_append, List.mem_cons, List.mem_append, List.mem_singleton] at hc
  obtain rfl | hc | rfl := hc
  · decide
  · refine ⟨?_, fun hnull => ?_⟩
    · rintro rfl
      exact not_mem_placeMark (by decide) index hc
    · obtain rfl : c = Char.ofNat 0 := by rw [← hnull, Char.ofNat_toNat]
      exact not_mem_placeMark (by decide) index hc
  · decide

theorem swap_normalizeChars {t t' : Text} (h : Text.Swap (RenumbersLine numbers) t t') :
    Text.Swap (RenumbersLine numbers) (normalizeChars t) (normalizeChars t') := by
  induction h with
  | nil => exact .nil
  | @char c t t' h ih =>
    by_cases hc : c = '\r'
    · subst hc
      have hhead : t.head? = t'.head? := h.head?_eq fun p p' hp => by
        obtain ⟨l, l', -, rfl, rfl⟩ := hp
        exact ⟨'\n', rfl, rfl⟩
      rw [normalizeChars_return, normalizeChars_return, ← hhead]
      split
      · exact ih
      · exact ih.char '\n'
    · rw [normalizeChars_cons hc, normalizeChars_cons hc]
      exact ih.char _
  | piece hp _ ih =>
    obtain ⟨l, l', ⟨index, hindex, index', rfl, rfl⟩, rfl, rfl⟩ := hp
    rw [normalizeChars_append (isKept_placeLine index), normalizeChars_append (isKept_placeLine index')]
    exact ih.piece ⟨_, _, ⟨index, hindex, index', rfl, rfl⟩, rfl, rfl⟩

/-- The lines of a text without their line ends. -/
def bareLines (t : Text) : List Text := (Text.completeLines t).map (·.takeWhile (· != '\n'))

theorem bareLines_cons {c : Char} (h : c ≠ '\n') (t : Text) :
    bareLines (c :: t) = (c :: (bareLines t).headD []) :: (bareLines t).tail := by
  rw [bareLines, bareLines, Text.completeLines.eq_3 _ _ h]
  cases Text.completeLines t with
  | nil => simp [h]
  | cons line rest => simp [h]

theorem bareLines_placeLine (index : Nat) (t : Text) :
    bareLines ('\n' :: placeMark index ++ ['\n'] ++ t) = [] :: placeMark index :: bareLines t := by
  have hline : '\n' ∉ placeMark index := not_mem_placeMark (by decide) index
  have htake : (placeMark index ++ ['\n']).takeWhile (· != '\n') = placeMark index :=
    (Text.takeWhile_append_of_all (List.all_eq_true.2 fun c hc => by
      rw [bne_iff_ne]
      rintro rfl
      exact hline hc) (fun c hc => by obtain rfl := Option.some.inj hc; rfl)).1
  rw [bareLines, List.cons_append, List.cons_append, Text.completeLines_newline_cons,
    Text.completeLines_append (List.getLast?_concat), Text.completeLines_of_not_mem hline]
  simp only [List.map_cons, List.singleton_append, htake]
  rfl

theorem swapLine_bareLines {t t' : Text} (h : Text.Swap (RenumbersLine numbers) t t') :
    Forall₂ (SwapLine (Renumbers numbers)) (bareLines t) (bareLines t') ∧
      (bareLines t).head? = (bareLines t').head? := by
  induction h with
  | nil => exact ⟨.nil, rfl⟩
  | @char c t t' _ ih =>
    by_cases hc : c = '\n'
    · subst hc
      exact ⟨.cons (.inl rfl) ih.1, rfl⟩
    · rw [bareLines_cons hc, bareLines_cons hc, List.headD_eq_head?_getD, List.headD_eq_head?_getD,
        ih.2]
      refine ⟨.cons (.inl rfl) ?_, rfl⟩
      rw [← List.drop_one, ← List.drop_one]
      exact List.forall₂_drop 1 ih.1
  | piece hp _ ih =>
    obtain ⟨l, l', ⟨index, hindex, index', rfl, rfl⟩, rfl, rfl⟩ := hp
    rw [bareLines_placeLine, bareLines_placeLine]
    exact ⟨.cons (.inl rfl) (.cons (.inr ⟨index, hindex, index', rfl, rfl⟩) ih.1), rfl⟩

theorem sourceLines_cons {c : Char} (h : c ≠ '\uFEFF') (t : Text) :
    sourceLines (c :: t) = bareLines (normalizeChars (c :: t)) := by
  rw [sourceLines]
  · rfl
  · exact fun r heq => h (List.cons.inj heq).1

/-- **Texts with other numbers in their places have the same lines**, but for those of the places. -/
theorem swapLine_sourceLines {t t' : Text} (h : Text.Swap (RenumbersLine numbers) t t') :
    Forall₂ (SwapLine (Renumbers numbers)) (sourceLines t) (sourceLines t') := by
  have hlines := fun {s s' : Text} (h : Text.Swap (RenumbersLine numbers) s s') =>
    (swapLine_bareLines (swap_normalizeChars h)).1
  cases h with
  | nil => exact .nil
  | @char c t t' h =>
    by_cases hc : c = '\uFEFF'
    · subst hc
      exact hlines h
    · rw [sourceLines_cons hc, sourceLines_cons hc]
      exact hlines (h.char c)
  | piece hp h =>
    have hpiece := hp
    obtain ⟨l, l', -, rfl, rfl⟩ := hp
    exact hlines (h.piece hpiece)

/-! ## Markup -/

theorem escape_append (s t : Text) : Text.escape (s ++ t) = Text.escape s ++ Text.escape t :=
  List.flatMap_append

/-- A place holds no quotes, so it is the same in an attribute. -/
theorem escapeAttribute_placeMark (index : Nat) :
    Text.escapeAttribute (placeMark index) = Text.escape (placeMark index) := by
  refine List.flatMap_congr fun c hc => if_neg ?_
  rw [beq_iff_eq]
  rintro rfl
  exact not_mem_placeMark (by decide) index hc

theorem endsAlike_renumbersShown : EndsAlike (RenumbersShown numbers) := by
  have hlast : ∀ index, (placeMark index).getLast? = some '>' := fun index => by
    rw [placeMark, List.getLast?_append]
    rfl
  have hshown : ∀ index, (Text.escape (placeMark index)).getLast? = some ';' := fun index => by
    rw [placeMark, escape_append, List.getLast?_append]
    rfl
  rintro p p' ⟨index, -, index', ⟨rfl, rfl⟩ | ⟨rfl, rfl⟩⟩
  · exact ⟨'>', hlast index, hlast index'⟩
  · exact ⟨';', hshown index, hshown index'⟩

theorem swap_escape {t t' : Text} (h : Text.Swap (Renumbers numbers) t t') :
    Text.Swap (RenumbersShown numbers) (Text.escape t) (Text.escape t') :=
  h.flatMap fun p p' hp => by
    obtain ⟨index, hindex, index', rfl, rfl⟩ := hp
    exact .single ⟨index, hindex, index', .inr ⟨rfl, rfl⟩⟩

theorem swap_escapeAttribute {t t' : Text} (h : Text.Swap (Renumbers numbers) t t') :
    Text.Swap (RenumbersShown numbers) (Text.escapeAttribute t) (Text.escapeAttribute t') :=
  h.flatMap fun p p' hp => by
    obtain ⟨index, hindex, index', rfl, rfl⟩ := hp
    exact .single ⟨index, hindex, index',
      .inr ⟨escapeAttribute_placeMark index, escapeAttribute_placeMark index'⟩⟩

/-- **Markdown with other numbers in its places is converted alike.** -/
theorem swap_convert (o : Options) {t t' : Text} (h : Text.Swap (RenumbersLine numbers) t t') :
    Text.Swap (RenumbersShown numbers) (o.convert t) (o.convert t') := by
  obtain ⟨hblocks, htargets⟩ := finish_swap areComments_renumbers (swapLine_sourceLines h)
  have hread : SwapAll (Text.Swap (Renumbers numbers)) (Text.Swap (Renumbers numbers))
      (Markdown.blocks o.dialect t) (Markdown.blocks o.dialect t') := by
    unfold Markdown.blocks
    dsimp only
    rw [← htargets]
    have hinlines := swapAll_readTasks (swapAll_mapContent joinTexts
      (swapAll_gatherNotes (swapAll_mapContent (Span.inlines o.dialect
        ((sourceLines t).foldl Draft.readLine Draft.initial).finish.2) hblocks)))
    split
    · exact swapAll_mapContent linkEmails hinlines
    · exact hinlines
  have hmono : ∀ s s', Text.Swap (Renumbers numbers) s s' → Text.Swap (RenumbersShown numbers) s s' :=
    fun s s' hs => hs.mono fun p p' hp => by
      obtain ⟨index, hindex, index', rfl, rfl⟩ := hp
      exact ⟨index, hindex, index', .inl ⟨rfl, rfl⟩⟩
  exact swap_blockMarkup endsAlike_renumbersShown (fun _ _ => swap_escapeAttribute) o.hardBreaks
    (swapAll_highlightBlocks hmono (fun _ _ => swap_escape) (swapAll_mapContent (mapTexts o.reword) hread))

end WikiPress.Page
