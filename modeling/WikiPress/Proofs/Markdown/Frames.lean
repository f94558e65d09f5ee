import WikiPress.Markdown.Draft
import WikiPress.Proofs.Markdown.Swap

/-!
# Proofs/Markdown/Frames — drafts that differ in their raw lines

    document ─ quote ─ html                document ─ quote ─ html
                       │ <script>                              │ <script>
                       │ <!-- one -->      ~                   │ <!-- two -->

Two drafts are swapped if they have the same open blocks, with the same lines but for comments among
the raw lines of an innermost block.  Ending blocks and opening blocks keep this (`Draft.Swap.close`,
`Draft.Swap.openBlock`): no lines but those of paragraphs and headings are read when a block ends.
-/

namespace WikiPress.Markdown

open List (Forall₂)
open Text (SwapLine)

variable {P : Text → Text → Prop}

/-! ## Frames -/

/-- Finished blocks that are the same but for raw HTML and code. -/
structure Finished.Swap (P : Text → Text → Prop) (b b' : Finished) : Prop where
  block : Block.Swap (Text.Swap P) (Text.Swap P) b.block b'.block
  endsBlank : b.endsBlank = b'.endsBlank
  separated : b.separated = b'.separated

@[refl] theorem Finished.Swap.refl (b : Finished) : b.Swap P b := ⟨.same _, rfl, rfl⟩

section

variable {done done' : List Finished} (h : Forall₂ (Finished.Swap P) done done')

include h

theorem lastEndsBlank_eq_of_swap : Frame.lastEndsBlank done = Frame.lastEndsBlank done' := by
  cases h with
  | nil => rfl
  | cons hb _ => exact hb.endsBlank

theorem any_separated_eq_of_swap : done.any Finished.separated = done'.any Finished.separated := by
  induction h with
  | nil => rfl
  | cons hb _ ih => rw [List.any_cons, List.any_cons, hb.separated, ih]

theorem any_endsBlank_eq_of_swap : done.any Finished.endsBlank = done'.any Finished.endsBlank := by
  induction h with
  | nil => rfl
  | cons hb _ ih => rw [List.any_cons, List.any_cons, hb.endsBlank, ih]

theorem separatedBy_eq_of_swap : Frame.separatedBy done = Frame.separatedBy done' := by
  cases h with
  | nil => rfl
  | cons _ hrest => exact any_endsBlank_eq_of_swap hrest

end

/-- The endings of the blocks of raw HTML that a line can open. -/
def RawHtml.endings : List RawHtml.Ending :=
  [.closingTag, .blankLine, .mark (lit "-->"), .mark (lit "?>"), .mark ['>'], .mark (lit "]]>")]

theorem RawHtml.mem_endings_of_element {t : Text} {ending : RawHtml.Ending}
    (h : RawHtml.elementEnding? t = some ending) : ending ∈ RawHtml.endings := by
  unfold RawHtml.elementEnding? at h
  dsimp only at h
  split_ifs at h
  · cases h
    exact List.mem_cons_self
  · cases h
    exact List.mem_cons_of_mem _ List.mem_cons_self

theorem RawHtml.mem_endings {inParagraph : Bool} {line : Text} {ending : RawHtml.Ending}
    (h : RawHtml.ending? inParagraph line = some ending) : ending ∈ RawHtml.endings := by
  unfold RawHtml.ending? at h
  split at h
  · split at h
    · cases h
      simp [RawHtml.endings]
    · cases h
      simp [RawHtml.endings]
    · split_ifs at h <;> cases h <;> simp [RawHtml.endings]
    · split at h
      · next helement => exact RawHtml.mem_endings_of_element (helement.trans h)
      · split at h
        · split_ifs at h
          cases h
          simp [RawHtml.endings]
        · cases h
  · cases h

/-- A kind of block that lines can open. -/
def FrameKind.IsUsual : FrameKind → Prop
  | .html ending => ending ∈ RawHtml.endings
  | _ => True

/-- **Frames that are the same but for raw HTML and code.** -/
structure Frame.Swap (P : Text → Text → Prop) (f f' : Frame) : Prop where
  kind : f.kind = f'.kind
  done : Forall₂ (Finished.Swap P) f.done f'.done
  lines : Forall₂ (SwapLine P) f.lines f'.lines
  text : f.kind.isVerbatim = false → f.lines = f'.lines
  blank : f.blank = f'.blank
  usual : f.kind.IsUsual

/-- **Partners that are comments**, which end a block of raw HTML alike. -/
structure AreComments (P : Text → Text → Prop) : Prop where
  opens : ∀ l l', P l l' →
    ∃ r r', l = '<' :: '!' :: '-' :: '-' :: r ∧ l' = '<' :: '!' :: '-' :: '-' :: r'
  met : ∀ l l', P l l' → ∀ ending ∈ RawHtml.endings, ending.metBy l = ending.metBy l'

namespace Frame.Swap

variable {f f' : Frame} {b b' : Finished}

theorem empty (kind : FrameKind) (hkind : kind.IsUsual) : (Frame.empty kind).Swap P (.empty kind) :=
  ⟨rfl, .nil, .nil, fun _ => rfl, rfl, hkind⟩

theorem addBlock (h : f.Swap P f') (hb : b.Swap P b') : (f.addBlock b).Swap P (f'.addBlock b') :=
  { h with done := .cons hb h.done }

theorem addLine (h : f.Swap P f') (line : Text) : (f.addLine line).Swap P (f'.addLine line) :=
  { h with
    lines := .cons (.inl rfl) h.lines
    text := fun hkind => congrArg (line :: ·) (h.text hkind) }

/-- A raw line. -/
theorem addRaw (h : f.Swap P f') (hkind : f.kind.isVerbatim = true) {line line' : Text}
    (hline : SwapLine P line line') : (f.addLine line).Swap P (f'.addLine line') :=
  { h with
    lines := .cons hline h.lines
    text := fun hnot => absurd hkind (ne_of_eq_of_ne hnot Bool.false_ne_true) }

theorem note (h : f.Swap P f') (blank : Bool) :
    Frame.Swap P { f with blank := blank } { f' with blank := blank } :=
  { h with blank := rfl }

theorem withLines (h : f.Swap P f') (lines : List Text) :
    Frame.Swap P { f with lines := lines } { f' with lines := lines } :=
  { h with lines := SwapLine.refl_all lines, text := fun _ => rfl }

/-- A block that holds no raw lines, as a block of another kind. -/
theorem withKind (h : f.Swap P f') (hplain : f.kind.isVerbatim = false) (kind : FrameKind)
    (hkind : kind.IsUsual) : Frame.Swap P { f with kind := kind } { f' with kind := kind } :=
  { h with kind := rfl, usual := hkind, text := fun _ => h.text hplain }

/-- Finished blocks that come last. -/
theorem precede (h : f.Swap P f') (blocks : List Finished) :
    Frame.Swap P { f with done := blocks ++ f.done } { f' with done := blocks ++ f'.done } :=
  { h with done := List.rel_append (List.forall₂_same.2 fun b _ => .refl b) h.done }

theorem isEmpty_done (h : f.Swap P f') : f.done.isEmpty = f'.done.isEmpty := by
  rw [Bool.eq_iff_iff, List.isEmpty_iff_length_eq_zero, List.isEmpty_iff_length_eq_zero,
    h.done.length_eq]

theorem markLastBlank (h : f.Swap P f') : f.markLastBlank.Swap P f'.markLastBlank := by
  obtain ⟨kind, done, lines, blank⟩ := f
  obtain ⟨kind', done', lines', blank'⟩ := f'
  obtain ⟨hkind, hdone, hlines, htext, hblank, husual⟩ := h
  cases hdone with
  | nil => exact ⟨hkind, .nil, hlines, htext, hblank, husual⟩
  | cons hlast hrest =>
    exact ⟨hkind, .cons ⟨hlast.block, rfl, hlast.separated⟩ hrest, hlines, htext, hblank, husual⟩

theorem blocks (h : f.Swap P f') : SwapAll (Text.Swap P) (Text.Swap P) f.blocks f'.blocks := by
  rw [Frame.blocks, Frame.blocks, SwapAll, List.forall₂_map_left_iff, List.forall₂_map_right_iff,
    List.forall₂_reverse_iff]
  exact h.done.imp fun _ _ hb => hb.block

theorem textOf (h : f.Swap P f') : Text.Swap P f.text f'.text :=
  SwapLine.joined (List.forall₂_reverse_iff.2 h.lines)

/-- Comments are not blank, so the same lines are left of indented code. -/
theorem codeLines (hP : AreComments P) {lines lines' : List Text}
    (h : Forall₂ (SwapLine P) lines lines') :
    Forall₂ (SwapLine P) (Frame.codeLines lines) (Frame.codeLines lines') := by
  induction h with
  | nil => exact .nil
  | cons hline hrest ih =>
    unfold Frame.codeLines at ih ⊢
    obtain rfl | hline := hline
    · rw [List.dropWhile_cons, List.dropWhile_cons]
      split
      · exact ih
      · exact .cons (.inl rfl) hrest
    · obtain ⟨r, r', rfl, rfl⟩ := hP.opens _ _ hline
      exact .cons (.inr hline) hrest

/-- **Frames that are the same but for raw lines end alike.** -/
theorem finish (hP : AreComments P) (h : f.Swap P f') :
    f.finish.1 = f'.finish.1 ∧ Option.Rel (Finished.Swap P) f.finish.2 f'.finish.2 := by
  have hblocks := h.blocks
  have hraw := h.textOf
  have htext : f.kind.isVerbatim = false → f.text = f'.text := fun hkind => by
    rw [Frame.text, Frame.text, h.text hkind]
  have hplain : ∀ {b b'}, Block.Swap (Text.Swap P) (Text.Swap P) b b' →
      Option.Rel (Finished.Swap P) (some ⟨b, f.blank, false⟩) (some ⟨b', f'.blank, false⟩) :=
    fun hb => .some ⟨hb, h.blank, rfl⟩
  unfold Frame.finish
  rw [← h.kind]
  dsimp only
  split
  · exact ⟨rfl, hplain (.quote hblocks)⟩
  · exact ⟨rfl, hplain (.quote hblocks)⟩
  · exact ⟨rfl, hplain (.footnote _ _ hblocks)⟩
  · rw [any_separated_eq_of_swap h.done, separatedBy_eq_of_swap h.done,
      lastEndsBlank_eq_of_swap h.done, h.blank]
    exact ⟨rfl, .some ⟨.list _ _ hblocks, rfl, rfl⟩⟩
  · rw [separatedBy_eq_of_swap h.done, lastEndsBlank_eq_of_swap h.done, h.blank]
    exact ⟨rfl, .some ⟨.item hblocks, rfl, rfl⟩⟩
  · exact ⟨rfl, hplain (.definitions hblocks)⟩
  · exact ⟨rfl, hplain (.details _ hblocks)⟩
  · next hkind =>
    rw [htext (by rw [hkind]; rfl)]
    refine ⟨rfl, ?_⟩
    split
    · exact .none
    · exact hplain (.same _)
  · next hkind =>
    rw [htext (by rw [hkind]; rfl)]
    exact ⟨rfl, hplain (.same _)⟩
  · exact ⟨rfl, hplain (.same _)⟩
  · exact ⟨rfl, hplain (.code _
      (SwapLine.joined (List.forall₂_reverse_iff.2 (codeLines hP h.lines))))⟩
  · exact ⟨rfl, hplain (.code _ hraw)⟩
  · exact ⟨rfl, hplain (.html hraw)⟩
  · exact ⟨rfl, hplain (.same _)⟩

end Frame.Swap

/-! ## Drafts -/

/-- **Frames inside each other**, from the outside in, as they stand inside a block: only the last of
them holds raw lines. -/
def HoldsRawLast (top : Frame) (inside : List Frame) : Prop :=
  ∀ f ∈ (top :: inside).dropLast, f.kind.isVerbatim = false

theorem HoldsRawLast.nil (top : Frame) : HoldsRawLast top [] := fun _ hf => absurd hf List.not_mem_nil

theorem holdsRawLast_cons {top f : Frame} {inside : List Frame} :
    HoldsRawLast top (f :: inside) ↔ top.kind.isVerbatim = false ∧ HoldsRawLast f inside := by
  rw [HoldsRawLast, HoldsRawLast, List.dropLast_cons_cons, List.forall_mem_cons]

/-- The block around them may take another form. -/
theorem HoldsRawLast.within {top top' : Frame} {inside : List Frame} (h : HoldsRawLast top inside)
    (htop' : top'.kind.isVerbatim = false) : HoldsRawLast top' inside := by
  cases inside with
  | nil => exact .nil top'
  | cons f inside => exact holdsRawLast_cons.2 ⟨htop', (holdsRawLast_cons.1 h).2⟩

theorem HoldsRawLast.congr {top top' f f' : Frame} {inside : List Frame}
    (h : HoldsRawLast top (f :: inside)) (htop : top'.kind = top.kind) (hf : f'.kind = f.kind) :
    HoldsRawLast top' (f' :: inside) := by
  obtain ⟨hplain, hinside⟩ := holdsRawLast_cons.1 h
  refine holdsRawLast_cons.2 ⟨htop ▸ hplain, ?_⟩
  cases inside with
  | nil => exact .nil f'
  | cons g inside => exact hinside.within (hf ▸ (holdsRawLast_cons.1 hinside).1)

/-- **Drafts that are the same but for raw HTML and code**: only the innermost block may hold raw
lines, and not if it is the whole text. -/
structure Draft.Swap (P : Text → Text → Prop) (d d' : Draft) : Prop where
  top : d.top.Swap P d'.top
  outer : Forall₂ (Frame.Swap P) d.outer d'.outer
  targets : d.targets = d'.targets
  around : ∀ f ∈ d.outer, f.kind.isVerbatim = false
  root : d.outer = [] → d.top.kind.isVerbatim = false

namespace Draft.Swap

variable {d d' : Draft}

theorem close (hP : AreComments P) (h : d.Swap P d') : d.close.Swap P d'.close := by
  obtain ⟨top, outer, targets⟩ := d
  obtain ⟨top', outer', targets'⟩ := d'
  obtain ⟨htop, houter, rfl, haround, hroot⟩ := h
  cases houter with
  | nil => exact ⟨htop, .nil, rfl, haround, hroot⟩
  | cons hparent houter =>
    obtain ⟨hfound, hblock⟩ := htop.finish hP
    have haround := List.forall_mem_cons.1 haround
    dsimp only [Draft.close]
    rw [hfound]
    generalize top.finish.2 = block, top'.finish.2 = block' at hblock ⊢
    cases hblock with
    | none => exact ⟨hparent, houter, rfl, haround.2, fun _ => haround.1⟩
    | some hb => exact ⟨hparent.addBlock hb, houter, rfl, haround.2, fun _ => haround.1⟩

/-- Open a block inside one that holds no raw lines. -/
theorem push (h : d.Swap P d') (htop : d.top.kind.isVerbatim = false) (kind : FrameKind)
    (hkind : kind.IsUsual) :
    (d.push kind).Swap P (d'.push kind) where
  top := .empty kind hkind
  outer := .cons h.top h.outer
  targets := h.targets
  around := List.forall_mem_cons.2 ⟨htop, h.around⟩
  root := nofun

theorem isVerbatim_of_holds {outer inner : FrameKind} (h : outer.holds inner = true) :
    outer.isVerbatim = false := by
  cases outer <;> first | rfl | exact absurd h (by simp [FrameKind.holds])

theorem closeMany (hP : AreComments P) (n : Nat) (h : d.Swap P d') :
    (d.closeMany n).Swap P (d'.closeMany n) := by
  induction n generalizing d d' with
  | zero => exact h
  | succ n ih => exact ih (h.close hP)

/-- There is room for a block in the end: the whole text holds no raw lines. -/
theorem makeRoom (hP : AreComments P) (kind : FrameKind) (fuel : Nat) (h : d.Swap P d')
    (hfuel : d.outer.length ≤ fuel) :
    (d.makeRoom kind fuel).Swap P (d'.makeRoom kind fuel) ∧
      (d.makeRoom kind fuel).top.kind.isVerbatim = false := by
  induction fuel generalizing d d' with
  | zero => exact ⟨h, h.root (List.length_eq_zero_iff.1 (Nat.le_zero.1 hfuel))⟩
  | succ fuel ih =>
    rw [Draft.makeRoom, Draft.makeRoom, ← h.top.kind]
    split
    · next hholds => exact ⟨h, isVerbatim_of_holds hholds⟩
    · refine ih (h.close hP) ?_
      unfold Draft.close
      split
      · next hnil => simp [hnil]
      · next houter =>
        rw [houter, List.length_cons] at hfuel
        exact Nat.le_of_succ_le_succ hfuel

/-- **A block opened where it can stand.** -/
theorem openBlock (hP : AreComments P) (h : d.Swap P d') (kind : FrameKind) (hkind : kind.IsUsual) :
    (d.openBlock kind).Swap P (d'.openBlock kind) := by
  obtain ⟨hroom, htop⟩ := h.makeRoom hP kind _ Nat.le.refl
  rw [Draft.openBlock, Draft.openBlock, ← h.outer.length_eq]
  exact hroom.push htop kind hkind

theorem resume {pending pending' : List Frame} (h : d.Swap P d')
    (hpending : Forall₂ (Frame.Swap P) pending pending') (hraw : HoldsRawLast d.top pending) :
    (d.resume pending).Swap P (d'.resume pending') := by
  induction hpending generalizing d d' with
  | nil => exact h
  | cons hf _ ih =>
    obtain ⟨htop, hrest⟩ := holdsRawLast_cons.1 hraw
    exact ih ⟨hf, .cons h.top h.outer, h.targets, List.forall_mem_cons.2 ⟨htop, h.around⟩, nofun⟩
      hrest

theorem closePending (hP : AreComments P) {pending pending' : List Frame} (h : d.Swap P d')
    (hpending : Forall₂ (Frame.Swap P) pending pending') (hraw : HoldsRawLast d.top pending) :
    (d.closePending pending).Swap P (d'.closePending pending') := by
  rw [Draft.closePending, Draft.closePending, ← hpending.length_eq]
  exact (h.resume hpending hraw).closeMany hP _

/-- A line of text, or a line that is the same for both. -/
theorem addLine (h : d.Swap P d') (line : Text) :
    (LineState.addLine line d).Swap P (LineState.addLine line d') :=
  { h with top := h.top.addLine line }

/-- A raw line. -/
theorem addRaw (h : d.Swap P d') (hraw : d.top.kind.isVerbatim = true) {line line' : Text}
    (hline : SwapLine P line line') : (LineState.addLine line d).Swap P (LineState.addLine line' d') :=
  { h with top := h.top.addRaw hraw hline }

/-- No line but that of the innermost block was blank. -/
theorem noteBlank (h : d.Swap P d') {top top' : Frame} (htop : top.Swap P top')
    (hkind : top.kind = d.top.kind) (blank : Bool) :
    Draft.Swap P
      { d with top := { top with blank := blank }, outer := d.outer.map ({ · with blank := false }) }
      { d' with
        top := { top' with blank := blank }
        outer := d'.outer.map ({ · with blank := false }) } where
  top := htop.note blank
  outer := by
    rw [List.forall₂_map_left_iff, List.forall₂_map_right_iff]
    exact h.outer.imp fun _ _ hf => hf.note false
  targets := h.targets
  around := by
    intro f hf
    obtain ⟨g, hg, rfl⟩ := List.mem_map.1 hf
    exact h.around g hg
  root := fun houter => by
    rw [hkind]
    exact h.root (List.map_eq_nil_iff.1 houter)

end Draft.Swap

end WikiPress.Markdown
