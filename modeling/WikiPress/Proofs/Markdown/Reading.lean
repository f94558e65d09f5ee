import WikiPress.Proofs.Markdown.Frames

/-!
# Proofs/Markdown/Reading — a comment is read without being looked into

    ⏎                     ⏎
    <!-- one -->    ~     <!-- two -->        ──▸   the same blocks, with the comments in them
    ⏎                     ⏎

A line that is nothing but a comment opens a block of raw HTML or is a raw line of the block that is
open; either way it says nothing but where it stands.  So texts whose lines differ in such comments
have the same blocks, with the comments in place (`finish_swap`).  Each recogniser of an opening
keeps the relation between drafts, which gives the step (`Draft.Swap.readLine`); the rest is an
induction on the lines.
-/

namespace WikiPress.Markdown

open List (Forall₂)
open Text (SwapLine)

variable {P : Text → Text → Prop}

/-! ## States of a line -/

/-- **States of a line that are the same but for raw HTML and code.** -/
structure LineState.Swap (P : Text → Text → Prop) (s s' : LineState) : Prop where
  draft : s.draft.Swap P s'.draft
  pending : Forall₂ (Frame.Swap P) s.pending s'.pending
  raw : HoldsRawLast s.draft.top s.pending
  place : s.place = s'.place
  spent : s.spent = s'.spent

/-! ## Raw lines -/

/-- A raw line is added to a block, and ends a block of raw HTML if it meets its ending. -/
def Draft.addRawLine (content body : Text) (d : Draft) : Draft :=
  let d := LineState.addLine content d
  match d.top.kind with
  | .html ending => if ending.metBy body then d.close else d
  | _ => d

theorem Draft.Swap.addRawLine (hP : AreComments P) {d d' : Draft} (h : d.Swap P d')
    (hraw : d.top.kind.isVerbatim = true) {content content' body body' : Text}
    (hcontent : SwapLine P content content')
    (hmet : ∀ ending ∈ RawHtml.endings, RawHtml.Ending.metBy ending body = ending.metBy body') :
    (d.addRawLine content body).Swap P (d'.addRawLine content' body') := by
  have hadded := h.addRaw hraw hcontent
  have husual := hadded.top.usual
  unfold Draft.addRawLine
  dsimp only
  rw [← hadded.top.kind]
  generalize (LineState.addLine content d).top.kind = kind at husual ⊢
  cases kind with
  | html ending =>
    dsimp only
    rw [hmet ending husual]
    split
    · exact hadded.close hP
    · exact hadded
  | _ => exact hadded

/-! ## Details -/

/-- The details that a line adds to the last block inside the innermost one. -/
def LineState.addDetails? (width : Nat) (place : Cursor) (s : LineState) : Option LineState :=
  match s.lastInside with
  | some (.inr (.details tight _)) => some (s.opening (.details tight width) place)
  | some (.inl (.details tight _)) => some (s.opening (.details tight width) place)
  | some (.inl (.paragraph term)) =>
    let parent := { s.draft.top with done := s.draft.top.done.tail }
    some (openDetails false width term place { s.draft with top := parent })
  | _ => none

theorem LineState.details?_eq_none {s : LineState} (h : Opening.details? s.place.body = none) :
    s.details? = none := by
  rw [details?, h]

/-- A line of details under a paragraph makes it their term. -/
theorem LineState.details?_of_paragraph {s : LineState} {padding : Nat}
    (h : Opening.details? s.place.body = some padding) {noTable : Bool}
    (hkind : s.draft.top.kind = .paragraph noTable) {parent : Frame} {outer : List Frame}
    (houter : s.draft.outer = parent :: outer) :
    s.details? = some (openDetails true (s.place.indent + padding) s.draft.top.text
      (s.place.skipIndent.advance 1).skipIndent ⟨parent, outer, s.draft.targets⟩) := by
  simp only [details?, h, hkind, houter]

/-- …and other ones follow the last block. -/
theorem LineState.details?_of_not_paragraph {s : LineState} {padding : Nat}
    (h : Opening.details? s.place.body = some padding)
    (hkind : ∀ noTable, s.draft.top.kind = .paragraph noTable → s.draft.outer = []) :
    s.details? = s.addDetails? (s.place.indent + padding) (s.place.skipIndent.advance 1).skipIndent := by
  rw [details?, h]
  dsimp only
  split
  · next hparagraph houter => exact absurd (hkind _ hparagraph) (by simp [houter])
  · rfl

namespace LineState.Swap

variable {s s' : LineState}

theorem opening (hP : AreComments P) (h : s.Swap P s') (kind : FrameKind) (hkind : kind.IsUsual)
    (place : Cursor) : (s.opening kind place).Swap P (s'.opening kind place) where
  draft := (h.draft.closePending hP h.pending h.raw).openBlock hP kind hkind
  pending := .nil
  raw := .nil _
  place := rfl
  spent := rfl

theorem spend (h : s.Swap P s') : LineState.Swap P { s with spent := true } { s' with spent := true } :=
  { h with spent := rfl }

/-- The innermost block in another form, with the same blocks around it. -/
theorem withTop (h : s.Swap P s') {top top' : Frame} (htop : top.Swap P top')
    (hkind : top.kind.isVerbatim = false) :
    LineState.Swap P { s with draft := { s.draft with top := top } }
      { s' with draft := { s'.draft with top := top' } } where
  draft := { h.draft with top := htop, root := fun _ => hkind }
  pending := h.pending
  raw := h.raw.within hkind
  place := h.place
  spent := h.spent

theorem withTargets (h : s.Swap P s') (targets : List (Text × Target)) :
    LineState.Swap P { s with draft := { s.draft with targets := targets } }
      { s' with draft := { s'.draft with targets := targets } } :=
  { h with draft := { h.draft with targets := rfl } }

/-! ## What a line opens -/

theorem quote? (hP : AreComments P) (h : s.Swap P s') :
    Option.Rel (LineState.Swap P) s.quote? s'.quote? := by
  unfold LineState.quote?
  rw [← h.place]
  split
  · exact .some (h.opening hP .quote trivial _)
  · exact .none

theorem heading? (hP : AreComments P) (h : s.Swap P s') :
    Option.Rel (LineState.Swap P) s.heading? s'.heading? := by
  unfold LineState.heading?
  rw [← h.place]
  cases Opening.heading? s.place.body with
  | none => exact .none
  | some heading =>
    obtain ⟨level, text⟩ := heading
    have hopened := h.opening hP (.heading level) trivial s.place
    exact .some (hopened.withTop (hopened.draft.top.addLine text) rfl).spend

theorem fence? (hP : AreComments P) (h : s.Swap P s') :
    Option.Rel (LineState.Swap P) s.fence? s'.fence? := by
  unfold LineState.fence?
  rw [← h.place]
  cases Opening.fence? s.place.body with
  | none => exact .none
  | some fence =>
    obtain ⟨fence, info⟩ := fence
    exact .some (h.opening hP (.fencedCode fence s.place.indentLength info) trivial s.place).spend

theorem html? (hP : AreComments P) (h : s.Swap P s') :
    Option.Rel (LineState.Swap P) s.html? s'.html? := by
  unfold LineState.html?
  rw [← h.place, ← h.draft.top.kind]
  cases hending : RawHtml.ending? s.draft.top.kind.isParagraph s.place.body with
  | none => exact .none
  | some ending => exact .some (h.opening hP (.html ending) (RawHtml.mem_endings hending) s.place)

/-- Raw lines stand in no block inside a paragraph or a heading, so its lines are the same. -/
theorem textOf_eq (h : s.Swap P s') (hkind : s.draft.top.kind.isVerbatim = false) :
    s.draft.top.text = s'.draft.top.text := by
  rw [Frame.text, Frame.text, h.draft.top.text hkind]

theorem body_eq (h : s.Swap P s') : s'.place.body = s.place.body := by rw [h.place]

theorem underline? (h : s.Swap P s') : Option.Rel (LineState.Swap P) s.underline? s'.underline? := by
  unfold LineState.underline?
  rw [h.body_eq, ← h.draft.top.kind]
  cases hkind : s.draft.top.kind with
  | paragraph noTable =>
    have hplain : s.draft.top.kind.isVerbatim = false := by rw [hkind]; rfl
    cases Opening.underline? s.place.body with
    | none => exact .none
    | some level =>
      dsimp only
      rw [← h.textOf_eq hplain, ← h.draft.targets]
      generalize definitions s.draft.top.text = found
      have htargets := h.withTargets (found.1.reverse ++ s.draft.targets)
      split
      · exact .some (htargets.withTop (h.draft.top.withLines []) hplain)
      · exact .some (htargets.withTop
          ((h.draft.top.withLines [found.2]).withKind hplain (.heading level) trivial) rfl).spend
  | _ => exact .none

theorem rule? (hP : AreComments P) (h : s.Swap P s') :
    Option.Rel (LineState.Swap P) s.rule? s'.rule? := by
  unfold LineState.rule?
  rw [← h.place]
  split
  · exact .some (h.opening hP .rule trivial _).spend
  · exact .none

theorem footnote? (hP : AreComments P) (h : s.Swap P s') :
    Option.Rel (LineState.Swap P) s.footnote? s'.footnote? := by
  unfold LineState.footnote?
  rw [← h.place]
  cases Opening.footnote? s.place.body with
  | none => exact .none
  | some label => exact .some (h.opening hP (.footnote label.1) trivial _)

theorem choose {t t' : LineState} (b : Bool) (hs : s.Swap P s') (ht : t.Swap P t') :
    LineState.Swap P (if b then s else t) (if b then s' else t') := by
  cases b with
  | true => exact hs
  | false => exact ht

theorem item? (hP : AreComments P) (h : s.Swap P s') :
    Option.Rel (LineState.Swap P) s.item? s'.item? := by
  unfold LineState.item?
  rw [← h.place, ← h.draft.top.kind]
  cases Opening.item? s.draft.top.kind.isParagraph s.place.body with
  | none => exact .none
  | some item =>
    obtain ⟨marker, length⟩ := item
    dsimp only
    exact .some ((choose _ h (h.opening hP (.list marker) trivial _)).opening hP (.item _) trivial _)

theorem table? (h : s.Swap P s') : Option.Rel (LineState.Swap P) s.table? s'.table? := by
  unfold LineState.table?
  rw [h.body_eq, ← h.draft.top.kind]
  cases hkind : s.draft.top.kind with
  | paragraph noTable =>
    have hplain : s.draft.top.kind.isVerbatim = false := by rw [hkind]; rfl
    rw [← h.draft.top.text hplain]
    cases noTable with
    | true => exact .none
    | false =>
      cases s.draft.top.lines with
      | nil => exact .none
      | cons last earlier =>
        have houter := h.draft.outer
        have haround := h.draft.around
        generalize s.draft.outer = outer, s'.draft.outer = outer' at houter haround ⊢
        cases houter with
        | nil => exact .none
        | cons hparent houter =>
          dsimp only
          split
          · split
            · exact .some (h.withTop (h.draft.top.withKind hplain (.paragraph true) trivial) rfl)
            · exact .some ⟨⟨.empty _ trivial, .cons (hparent.precede _) houter, h.draft.targets,
                List.forall_mem_cons.2 (List.forall_mem_cons.1 haround), nofun⟩, h.pending,
                h.raw.within rfl, h.place, rfl⟩
          · exact .none
  | table columns head rows =>
    have hplain : s.draft.top.kind.isVerbatim = false := by rw [hkind]; rfl
    dsimp only
    split
    · exact .none
    · exact .some (h.withTop (h.draft.top.withKind hplain (.table _ _ _) trivial) rfl).spend
  | _ => exact .none

/-! ## Terms and their details -/

theorem openDefinitions (hP : AreComments P) {d d' : Draft} (h : d.Swap P d')
    (hplain : d.top.kind.isVerbatim = false) :
    (LineState.openDefinitions d).Swap P (LineState.openDefinitions d') := by
  have hopened := h.openBlock hP .definitions trivial
  have hdone := h.top.done
  unfold LineState.openDefinitions
  generalize hd : d.top.done = done, hd' : d'.top.done = done' at hdone ⊢
  cases hdone with
  | nil => exact hopened
  | @cons last last' rest rest' hlast hrest =>
    obtain ⟨block, blank, separated⟩ := last
    obtain ⟨block', blank', separated'⟩ := last'
    obtain ⟨hblock, hblank, -⟩ := hlast
    by_cases hlist : ∃ entries, block = .definitions entries
    · -- the list that stands last is taken up again, its entries as blocks in it
      obtain ⟨entries, rfl⟩ := hlist
      obtain ⟨entries', rfl, hentries⟩ := Block.Swap.of_definitions hblock
      refine ⟨⟨rfl, ?_, .nil, fun _ => rfl, hblank, trivial⟩, .cons { h.top with done := hrest } h.outer,
        h.targets, List.forall_mem_cons.2 ⟨hplain, h.around⟩, nofun⟩
      rw [List.forall₂_map_left_iff, List.forall₂_map_right_iff, List.forall₂_reverse_iff]
      exact hentries.imp fun _ _ hentry => ⟨hentry, rfl, rfl⟩
    · split
      · next heq => exact absurd ⟨_, (Finished.mk.inj (List.cons.inj heq).1).1⟩ hlist
      · split
        · next heq =>
          obtain rfl := (Finished.mk.inj (List.cons.inj heq).1).1
          cases hblock <;> exact absurd ⟨_, rfl⟩ hlist
        · exact hopened

theorem openDetails (hP : AreComments P) {d d' : Draft} (h : d.Swap P d')
    (hplain : d.top.kind.isVerbatim = false) (tight : Bool) (width : Nat) (term : Text)
    (place : Cursor) :
    (LineState.openDetails tight width term place d).Swap P
      (LineState.openDetails tight width term place d') := by
  have hlist := openDefinitions hP h hplain
  have hterm : Draft.Swap P
      { LineState.openDefinitions d with
        top := (LineState.openDefinitions d).top.addBlock ⟨.term term, false, false⟩ }
      { LineState.openDefinitions d' with
        top := (LineState.openDefinitions d').top.addBlock ⟨.term term, false, false⟩ } :=
    { hlist with top := hlist.top.addBlock (.refl _) }
  exact ⟨hterm.openBlock hP (.details tight width) trivial, .nil, .nil _, rfl, rfl⟩

theorem addDetails? (hP : AreComments P) (h : s.Swap P s')
    (hplain : s.draft.top.kind.isVerbatim = false) (width : Nat) (place : Cursor) :
    Option.Rel (LineState.Swap P) (s.addDetails? width place) (s'.addDetails? width place) := by
  have hopening := fun tight => h.opening hP (.details tight width) trivial place
  have hparent := fun rest rest' (hrest : Forall₂ (Finished.Swap P) rest rest') term =>
    openDetails hP (show Draft.Swap P
      { s.draft with top := { s.draft.top with done := rest } }
      { s'.draft with top := { s'.draft.top with done := rest' } } from
      { h.draft with top := { h.draft.top with done := hrest } }) hplain false width term place
  have hpending := h.pending
  have hdone := h.draft.top.done
  unfold LineState.addDetails? LineState.lastInside
  generalize s.pending = pending, s'.pending = pending' at hpending ⊢
  cases hpending with
  | @cons f f' rest rest' hf _ =>
    -- an open block inside comes after the finished ones
    dsimp only
    rw [← hf.kind]
    cases f.kind <;> first | exact .none | exact .some (hopening _)
  | nil =>
    generalize s.draft.top.done = done, s'.draft.top.done = done' at hdone ⊢
    cases hdone with
    | nil => exact .none
    | @cons last last' rest rest' hlast hrest =>
      have hblock := hlast.block
      dsimp only [List.tail_cons]
      generalize last.block = block, last'.block = block' at hblock ⊢
      cases hblock with
      | same =>
        cases block <;>
          first | exact .none | exact .some (hopening _) | exact .some (hparent _ _ hrest _)
      | details tight _ => exact .some (hopening _)
      | _ => exact .none

theorem details? (hP : AreComments P) (h : s.Swap P s')
    (hplain : s.draft.top.kind.isVerbatim = false) :
    Option.Rel (LineState.Swap P) s.details? s'.details? := by
  cases hpadding : Opening.details? s.place.body with
  | none =>
    rw [LineState.details?_eq_none hpadding, LineState.details?_eq_none (h.body_eq ▸ hpadding)]
    exact .none
  | some padding =>
    have hpadding' : Opening.details? s'.place.body = some padding := h.body_eq ▸ hpadding
    have houter := h.draft.outer
    by_cases hterm : ∃ noTable, s.draft.top.kind = .paragraph noTable ∧ s.draft.outer ≠ []
    · obtain ⟨noTable, hkind, hne⟩ := hterm
      cases hd : s.draft.outer with
      | nil => exact absurd hd hne
      | cons parent outer =>
        obtain ⟨parent', outer', hparent, hrest, hd'⟩ := List.forall₂_cons_left_iff.1 (hd ▸ houter)
        have haround := List.forall_mem_cons.1 (hd ▸ h.draft.around)
        rw [LineState.details?_of_paragraph hpadding hkind hd,
          LineState.details?_of_paragraph hpadding' (h.draft.top.kind ▸ hkind) hd',
          ← h.textOf_eq hplain, ← h.place]
        have hinner : Draft.Swap P ⟨parent, outer, s.draft.targets⟩
            ⟨parent', outer', s'.draft.targets⟩ :=
          ⟨hparent, hrest, h.draft.targets, haround.2, fun _ => haround.1⟩
        exact .some (openDetails hP hinner haround.1 _ _ _ _)
    · have hnot : ∀ noTable, s.draft.top.kind = .paragraph noTable → s.draft.outer = [] :=
        fun noTable hkind => by_contra fun hne => hterm ⟨noTable, hkind, hne⟩
      have hnot' : ∀ noTable, s'.draft.top.kind = .paragraph noTable → s'.draft.outer = [] :=
        fun noTable hkind => List.forall₂_nil_left_iff.1
          (hnot noTable (h.draft.top.kind.trans hkind) ▸ houter)
      rw [LineState.details?_of_not_paragraph hpadding hnot,
        LineState.details?_of_not_paragraph hpadding' hnot', ← h.place]
      exact h.addDetails? hP hplain _ _

/-! ## Opening blocks -/

theorem rel_or {α : Type} {R : α → α → Prop} {a a' b b' : Option α} (ha : Option.Rel R a a')
    (hb : Option.Rel R b b') : Option.Rel R (a.or b) (a'.or b') := by
  cases ha with
  | none => exact hb
  | some h => exact .some h

/-- **What a line opens next.** -/
theorem open? (hP : AreComments P) (h : s.Swap P s') (hplain : s.draft.top.kind.isVerbatim = false)
    (lazy mayNest : Bool) :
    Option.Rel (LineState.Swap P) (s.open? lazy mayNest) (s'.open? lazy mayNest) := by
  unfold LineState.open?
  rw [← h.place]
  split
  · split
    · exact .none
    · exact .some (h.opening hP .indentedCode trivial _)
  · refine rel_or (h.quote? hP) <| rel_or (h.heading? hP) <| rel_or (h.fence? hP) <|
      rel_or (h.html? hP) <| rel_or h.underline? <| rel_or (h.rule? hP) <| rel_or ?_ <|
      rel_or (h.details? hP hplain) <| rel_or ?_ h.table?
    · cases mayNest with
      | true => exact h.footnote? hP
      | false => exact .none
    · cases mayNest with
      | true => exact h.item? hP
      | false => exact .none

theorem openAll (hP : AreComments P) (h : s.Swap P s') (fuel : Nat) (lazy : Bool) (depth : Nat) :
    (LineState.openAll fuel lazy depth s).Swap P (LineState.openAll fuel lazy depth s') := by
  induction fuel generalizing s s' lazy depth with
  | zero => exact h
  | succ fuel ih =>
    rw [LineState.openAll, LineState.openAll, ← h.draft.top.kind]
    split
    · exact h
    · next hplain =>
      have hopen := h.open? hP (Bool.eq_false_iff.2 hplain) lazy (depth < LineState.nestingLimit)
      generalize s.open? lazy _ = t, s'.open? lazy _ = t' at hopen ⊢
      cases hopen with
      | none => exact h
      | some ht =>
        dsimp only
        rw [← ht.draft.top.kind, ← ht.spent]
        split
        · exact ht
        · exact ih ht false (depth + 1)

/-! ## Text -/

theorem countsBlank_eq {f f' : Frame} (hf : f.Swap P f') (hasChild : Bool) :
    LineState.countsBlank f hasChild = LineState.countsBlank f' hasChild := by
  rw [LineState.countsBlank, LineState.countsBlank, hf.kind]

theorem kind_markLastBlank (f : Frame) : f.markLastBlank.kind = f.kind := by
  unfold Frame.markLastBlank
  split <;> rfl

theorem noteBlank (h : s.Swap P s') : s.noteBlank.Swap P s'.noteBlank := by
  obtain ⟨⟨⟨kind, done, lines, blank⟩, outer, targets⟩, pending, place, spent⟩ := s
  obtain ⟨⟨⟨kind', done', lines', blank'⟩, outer', targets'⟩, pending', place', spent'⟩ := s'
  obtain ⟨hdraft, hpending, hraw, rfl, rfl⟩ := h
  obtain rfl : kind = kind' := hdraft.top.kind
  have hnoted := hdraft.noteBlank hdraft.top rfl
  have hinside : ∀ top : Frame, top.kind = kind → HoldsRawLast top pending := fun top hkind => by
    cases hpending with
    | nil => exact .nil top
    | cons _ _ => exact hraw.congr hkind rfl
  unfold LineState.noteBlank
  dsimp only
  split
  · exact ⟨hnoted _, hpending, hinside _ rfl, rfl, rfl⟩
  · split
    · cases hpending with
      | nil =>
        have hmarked := hdraft.top.markLastBlank
        dsimp only at hmarked ⊢
        rw [countsBlank_eq hmarked, hmarked.isEmpty_done]
        exact ⟨hdraft.noteBlank hmarked (kind_markLastBlank _) _, .nil, .nil _, rfl, rfl⟩
      | cons hf hrest =>
        have hblank := hdraft.top.isEmpty_done
        dsimp only at hblank ⊢
        rw [countsBlank_eq hdraft.top, hblank]
        exact ⟨hnoted _, .cons (hf.note true) hrest, hraw.congr rfl rfl, rfl, rfl⟩
    · exact ⟨hnoted _, hpending, hinside _ rfl, rfl, rfl⟩

theorem endsInParagraph_eq (h : s.Swap P s') : s.endsInParagraph = s'.endsInParagraph := by
  have hkinds : s.pending.map Frame.kind = s'.pending.map Frame.kind := by
    rw [← List.forall₂_eq_eq_eq, List.forall₂_map_left_iff, List.forall₂_map_right_iff]
    exact h.pending.imp fun _ _ hf => hf.kind
  have hlast : ∀ s : LineState, s.endsInParagraph =
      ((s.pending.map Frame.kind).getLast?.getD s.draft.top.kind).isParagraph := fun s => by
    rw [LineState.endsInParagraph, List.getLast?_map]
    cases s.pending.getLast? <;> rfl
  rw [hlast, hlast, hkinds, h.draft.top.kind]

/-- **What a line has opened takes what is left of it.** -/
theorem addText (hP : AreComments P) (h : s.Swap P s') : s.addText.Swap P s'.addText := by
  have hnoted := h.noteBlank
  unfold LineState.addText
  generalize s.noteBlank = t, s'.noteBlank = t' at hnoted ⊢
  have hempty : t.pending.isEmpty = t'.pending.isEmpty := by
    rw [Bool.eq_iff_iff, List.isEmpty_iff_length_eq_zero, List.isEmpty_iff_length_eq_zero,
      hnoted.pending.length_eq]
  have hclosed := hnoted.draft.closePending hP hnoted.pending hnoted.raw
  dsimp only
  rw [← hnoted.place, ← hnoted.spent, ← hnoted.endsInParagraph_eq, ← hempty]
  generalize t.draft.closePending t.pending = d, t'.draft.closePending t'.pending = d' at hclosed ⊢
  split
  · exact (hnoted.draft.resume hnoted.pending hnoted.raw).addLine _
  · rw [← hclosed.top.kind]
    split
    · exact hclosed
    · split
      · next hraw => exact hclosed.addRawLine hP hraw (.inl rfl) fun _ _ => rfl
      · split
        · exact hclosed
        · split
          · exact hclosed.addLine _
          · exact (hclosed.openBlock hP (.paragraph false) trivial).addLine _

end LineState.Swap

/-! ## Comments -/

/-- A line that begins with a comment opens a block of raw HTML wherever it stands. -/
theorem LineState.open?_of_comment {s : LineState} {r : Text}
    (h : s.place = .start ('<' :: '!' :: '-' :: '-' :: r)) (lazy mayNest : Bool) :
    s.open? lazy mayNest = some (s.opening (.html (.mark (lit "-->"))) s.place) := by
  have hindent : s.place.indent = 0 := by rw [h]; rfl
  have hbody : s.place.body = '<' :: '!' :: '-' :: '-' :: r := by rw [h]; rfl
  have hquote : s.quote? = none := by simp [LineState.quote?, hbody]
  have hheading : s.heading? = none := by simp [LineState.heading?, hbody, Opening.heading?]
  have hfence : s.fence? = none := by simp [LineState.fence?, hbody, Opening.fence?]
  have hhtml : s.html? = some (s.opening (.html (.mark (lit "-->"))) s.place) := by
    simp [LineState.html?, hbody, RawHtml.ending?]
  rw [LineState.open?, if_neg (by omega), hquote, hheading, hfence, hhtml]
  rfl

/-- A raw line says nothing but what it is. -/
theorem LineState.addText_of_raw {s : LineState} (hpending : s.pending = []) (hspent : s.spent = false)
    (hraw : s.draft.top.kind.isVerbatim = true) (hblank : s.place.isBlank = false) :
    s.addText = Draft.addRawLine s.place.content s.place.body
      { s.draft with
        top := { s.draft.top with blank := false }
        outer := s.draft.outer.map ({ · with blank := false }) } := by
  obtain ⟨⟨⟨kind, done, lines, blank⟩, outer, targets⟩, pending, place, spent⟩ := s
  dsimp only at hpending hspent hraw hblank
  subst hpending hspent
  have hnoted : LineState.noteBlank ⟨⟨⟨kind, done, lines, blank⟩, outer, targets⟩, [], place, false⟩ =
      ⟨⟨⟨kind, done, lines, false⟩, outer.map ({ · with blank := false }), targets⟩, [], place, false⟩ := by
    rw [LineState.noteBlank]
    simp only [hblank, Bool.false_eq_true, if_false]
  rw [LineState.addText, hnoted]
  dsimp only
  rw [if_neg (by simp), if_neg Bool.false_ne_true]
  exact if_pos hraw

/-- Whether an open block takes a line that begins with a comment. -/
def FrameKind.takesComment : FrameKind → Bool
  | .document | .list _ | .definitions | .rule | .paragraph _ | .fencedCode .. | .html _
  | .table .. => true
  | .item width | .details _ width => width == 0
  | .quote | .footnote _ | .heading _ | .indentedCode => false

theorem Cursor.dropColumns_start (t : Text) (n : Nat) :
    Cursor.dropColumns n (.start ('<' :: t)) = .start ('<' :: t) := by
  induction n with
  | zero => rfl
  | succ n ih => exact ih

theorem Opening.closes_comment (fence : Fence) (r : Text) :
    Opening.closes fence ('<' :: '!' :: r) = false := by
  obtain ⟨mark, size⟩ := fence
  rw [Opening.closes, Bool.and_eq_false_iff]
  right
  by_cases hmark : '<' = mark
  · subst hmark
    rfl
  · rw [List.dropWhile_cons_of_neg (by simpa using hmark)]
    rfl

theorem Row.cells_comment (t : Text) : Row.cells ('<' :: t) ≠ [] := by
  have hcell : (Row.cellRest ' ' ('<' :: t)).1 ≠ [] := by simp [Row.cellRest]
  rw [Row.cells]
  · rw [Row.cellsWithin]
    dsimp only
    split
    · exact List.cons_ne_nil _ _
    · rw [if_neg (by simpa using hcell)]
      exact List.cons_ne_nil _ _
  · nofun

theorem Frame.continuation_of_comment (f : Frame) (hasChild : Bool) (r : Text) :
    let line := '<' :: '!' :: '-' :: '-' :: r
    f.continuation hasChild line (.start line) =
      if f.kind.takesComment then .yes (.start line) else .no := by
  dsimp only
  unfold Frame.continuation
  cases f.kind with
  | fencedCode fence indentation info =>
    have hcloses : Opening.closes fence (Cursor.start ('<' :: '!' :: '-' :: '-' :: r)).body = false :=
      Opening.closes_comment fence _
    simp only [hcloses, Bool.and_false, Cursor.dropColumns_start]
    rfl
  | html ending => cases ending <;> rfl
  | table =>
    have hcells : (Row.cells (Cursor.start ('<' :: '!' :: '-' :: '-' :: r)).body).isEmpty = false :=
      List.isEmpty_eq_false_iff.2 (Row.cells_comment _)
    simp only [hcells]
    rfl
  | item width => cases width <;> rfl
  | details tight width => cases width <;> rfl
  | _ => rfl

/-! ## Matching the open blocks -/

/-- **What two lines do to the open blocks**, with the places they leave off at related by `R`. -/
inductive Matched.Swap (P : Text → Text → Prop) (R : Cursor → Cursor → Prop) : Matched → Matched → Prop
  | line {s s' : LineState} (h : s.Swap P { s' with place := s.place }) (hspent : s.spent = false)
      (hplace : R s.place s'.place) : Matched.Swap P R (.line s) (.line s')
  | ends : Matched.Swap P R .ends .ends

/-- What they do to one of them. -/
inductive Frame.Continuation.Swap (R : Cursor → Cursor → Prop) :
    Frame.Continuation → Frame.Continuation → Prop
  | no : Frame.Continuation.Swap R .no .no
  | ends : Frame.Continuation.Swap R .ends .ends
  | yes {c c' : Cursor} (h : R c c') : Frame.Continuation.Swap R (.yes c) (.yes c')

/-- Lines that do the same to every kind of block do the same to all open blocks. -/
theorem matchFrames_swap {R : Cursor → Cursor → Prop} {line line' : Text}
    (hR : ∀ (f f' : Frame) (hasChild : Bool) (c c' : Cursor), f.kind = f'.kind → R c c' →
      (f.continuation hasChild line c).Swap R (f'.continuation hasChild line' c'))
    {d d' : Draft} {inside inside' : List Frame} {c c' : Cursor} (hc : R c c') (h : d.Swap P d')
    (hinside : Forall₂ (Frame.Swap P) inside inside') (hraw : HoldsRawLast d.top inside) :
    (matchFrames line d c inside).Swap P R (matchFrames line' d' c' inside') := by
  induction hinside generalizing d d' c c' with
  | nil => exact .line ⟨h, .nil, .nil _, rfl, rfl⟩ rfl hc
  | @cons f f' rest rest' hf hrest ih =>
    obtain ⟨htop, hinner⟩ := holdsRawLast_cons.1 hraw
    have hchild : (!f.done.isEmpty || !rest.isEmpty) = (!f'.done.isEmpty || !rest'.isEmpty) := by
      have hempty : rest.isEmpty = rest'.isEmpty := by cases hrest <;> rfl
      rw [hf.isEmpty_done, hempty]
    have hcontinues := hR f f' (!f.done.isEmpty || !rest.isEmpty) c c' hf.kind hc
    rw [matchFrames, matchFrames, ← hchild]
    generalize f.continuation _ line c = k, f'.continuation _ line' c' = k' at hcontinues ⊢
    cases hcontinues with
    | no => exact .line ⟨h, .cons hf hrest, hraw, rfl, rfl⟩ rfl hc
    | ends => exact .ends
    | yes hplace =>
      exact ih hplace
        ⟨hf, .cons h.top h.outer, h.targets, List.forall_mem_cons.2 ⟨htop, h.around⟩, nofun⟩ hinner

/-- The same line does the same… -/
theorem continuation_swap_same (line : Text) (f f' : Frame) (hasChild : Bool) (c c' : Cursor)
    (hkind : f.kind = f'.kind) (hc : c = c') :
    (f.continuation hasChild line c).Swap Eq (f'.continuation hasChild line c') := by
  have heq : f'.continuation hasChild line c' = f.continuation hasChild line c := by
    rw [Frame.continuation, Frame.continuation, hkind, hc]
  rw [heq]
  cases f.continuation hasChild line c with
  | no => exact .no
  | ends => exact .ends
  | yes place => exact .yes rfl

/-- …and so do a comment and its partner, each as a whole line. -/
theorem continuation_swap_comment (hP : AreComments P) {l l' : Text} (hl : P l l') (f f' : Frame)
    (hasChild : Bool) (c c' : Cursor) (hkind : f.kind = f'.kind) (hc : c = .start l ∧ c' = .start l') :
    (f.continuation hasChild l c).Swap (fun c c' => c = .start l ∧ c' = .start l')
      (f'.continuation hasChild l' c') := by
  obtain ⟨r, r', rfl, rfl⟩ := hP.opens l l' hl
  rw [hc.1, hc.2, Frame.continuation_of_comment, Frame.continuation_of_comment, hkind]
  split
  · exact .yes ⟨rfl, rfl⟩
  · exact .no

/-! ## Lines -/

theorem LineState.openAll_of_comment {s : LineState} {r : Text}
    (h : s.place = .start ('<' :: '!' :: '-' :: '-' :: r)) (fuel : Nat) (lazy : Bool) (depth : Nat) :
    LineState.openAll (fuel + 1) lazy depth s =
      if s.draft.top.kind.isVerbatim then s else s.opening (.html (.mark (lit "-->"))) s.place := by
  rw [LineState.openAll, LineState.open?_of_comment h]
  rfl

/-- Partners as raw lines. -/
theorem addText_of_raw_comment (hP : AreComments P) {l l' : Text} (hl : P l l') {s s' : LineState}
    (h : s.draft.Swap P s'.draft) (hraw : s.draft.top.kind.isVerbatim = true)
    (hpending : s.pending = [] ∧ s'.pending = []) (hspent : s.spent = false ∧ s'.spent = false)
    (hplace : s.place = .start l) (hplace' : s'.place = .start l') :
    s.addText.Swap P s'.addText := by
  obtain ⟨r, r', rfl, rfl⟩ := hP.opens l l' hl
  rw [LineState.addText_of_raw hpending.1 hspent.1 hraw (hplace ▸ rfl),
    LineState.addText_of_raw hpending.2 hspent.2 (h.top.kind ▸ hraw) (hplace' ▸ rfl), hplace, hplace']
  exact (h.noteBlank h.top rfl false).addRawLine hP hraw (.inr hl) (hP.met _ _ hl)

/-- **A comment opens a block of raw HTML or is a raw line.** -/
theorem addText_of_comment (hP : AreComments P) {l l' : Text} (hl : P l l') {s s' : LineState}
    (h : s.Swap P { s' with place := s.place }) (hspent : s.spent = false)
    (hplace : s.place = .start l) (hplace' : s'.place = .start l') (fuel fuel' : Nat)
    (lazy lazy' : Bool) (depth : Nat) :
    (LineState.openAll (fuel + 1) lazy depth s).addText.Swap P
      (LineState.openAll (fuel' + 1) lazy' depth s').addText := by
  obtain ⟨r, r', rfl, rfl⟩ := hP.opens l l' hl
  have hkind : s.draft.top.kind = s'.draft.top.kind := h.draft.top.kind
  rw [LineState.openAll_of_comment hplace, LineState.openAll_of_comment hplace', ← hkind]
  split
  · next hraw =>
    have hpending : s.pending = [] := by
      cases hp : s.pending with
      | nil => rfl
      | cons f rest =>
        have hplain := (holdsRawLast_cons.1 (hp ▸ h.raw)).1
        exact absurd hraw (ne_of_eq_of_ne hplain Bool.false_ne_true)
    have hpending' : s'.pending = [] := List.forall₂_nil_left_iff.1 (hpending ▸ h.pending)
    exact addText_of_raw_comment hP hl h.draft hraw ⟨hpending, hpending'⟩
      ⟨hspent, h.spent ▸ hspent⟩ hplace hplace'
  · have husual : FrameKind.IsUsual (.html (.mark (lit "-->"))) :=
      List.mem_cons_of_mem _ (List.mem_cons_of_mem _ List.mem_cons_self)
    exact addText_of_raw_comment hP hl (h.opening hP _ husual s.place).draft rfl ⟨rfl, rfl⟩ ⟨rfl, rfl⟩
      hplace hplace'

/-- The open blocks of a draft from the outside in: the whole text, and what is open inside it. -/
theorem Draft.Swap.stack {d d' : Draft} (h : d.Swap P d') : ∃ root root' inside inside',
    (d.top :: d.outer).reverse = root :: inside ∧ (d'.top :: d'.outer).reverse = root' :: inside' ∧
      Draft.Swap P ⟨root, [], d.targets⟩ ⟨root', [], d'.targets⟩ ∧
      Forall₂ (Frame.Swap P) inside inside' ∧ HoldsRawLast root inside := by
  have hstack : Forall₂ (Frame.Swap P) (d.top :: d.outer).reverse (d'.top :: d'.outer).reverse :=
    List.forall₂_reverse_iff.2 (.cons h.top h.outer)
  have hplain : ∀ f ∈ (d.top :: d.outer).reverse.dropLast, f.kind.isVerbatim = false := by
    rw [List.dropLast_reverse, List.tail_cons]
    exact fun f hf => h.around f (List.mem_reverse.1 hf)
  cases hd : (d.top :: d.outer).reverse with
  | nil => exact absurd hd (by simp)
  | cons root inside =>
    obtain ⟨root', inside', hroot, hinside, hd'⟩ := List.forall₂_cons_left_iff.1 (hd ▸ hstack)
    rw [hd] at hplain
    refine ⟨root, root', inside, inside', rfl, hd',
      ⟨hroot, .nil, h.targets, fun _ hf => absurd hf List.not_mem_nil, fun _ => ?_⟩, hinside, hplain⟩
    cases inside with
    | nil =>
      obtain ⟨htop, houter⟩ := List.cons.inj (List.reverse_eq_iff.1 hd)
      exact htop ▸ h.root houter
    | cons f inside => exact (holdsRawLast_cons.1 hplain).1

/-- **A line is read alike in both drafts**, whether it is the same or the one a comment and the other
its partner. -/
theorem Draft.Swap.readLine (hP : AreComments P) {d d' : Draft} (h : d.Swap P d') {l l' : Text}
    (hl : SwapLine P l l') : (d.readLine l).Swap P (d'.readLine l') := by
  obtain ⟨root, root', inside, inside', hd, hd', hbegin, hinside, hraw⟩ := h.stack
  rw [Draft.readLine, Draft.readLine, hd, hd']
  dsimp only
  obtain rfl | hl := hl
  · -- the same line leaves off at the same place, so all recognisers see the same
    have hmatched := matchFrames_swap (continuation_swap_same l) (Eq.refl (Cursor.start l)) hbegin
      hinside hraw
    generalize matchFrames l ⟨root, [], d.targets⟩ _ inside = m,
      matchFrames l ⟨root', [], d'.targets⟩ _ inside' = m' at hmatched ⊢
    cases hmatched with
    | ends => exact h.close hP
    | @line s s' hs hspent hplace =>
      have hs : s.Swap P s' := by
        rw [hplace] at hs
        exact hs
      dsimp only
      rw [← hs.endsInParagraph_eq]
      exact (hs.openAll hP _ _ _).addText hP
  · -- a comment leaves off where it begins, so it is still whole when it is looked at
    have hmatched := matchFrames_swap (continuation_swap_comment hP hl) ⟨rfl, rfl⟩ hbegin hinside hraw
    generalize matchFrames l ⟨root, [], d.targets⟩ _ inside = m,
      matchFrames l' ⟨root', [], d'.targets⟩ _ inside' = m' at hmatched ⊢
    cases hmatched with
    | ends => exact h.close hP
    | line hs hspent hplace =>
      exact addText_of_comment hP hl hs hspent hplace.1 hplace.2 _ _ _ _ _

/-! ## Whole texts -/

/-- **Texts whose lines differ in comments have the same blocks**, but for the comments in them, and
the same definitions of labels. -/
theorem finish_swap (hP : AreComments P) {lines lines' : List Text}
    (h : Forall₂ (SwapLine P) lines lines') :
    SwapAll (Text.Swap P) (Text.Swap P) (lines.foldl Draft.readLine .initial).finish.1
        (lines'.foldl Draft.readLine .initial).finish.1 ∧
      (lines.foldl Draft.readLine .initial).finish.2 =
        (lines'.foldl Draft.readLine .initial).finish.2 := by
  have hbegin : Draft.Swap P .initial .initial :=
    ⟨.empty .document trivial, .nil, rfl, fun _ hf => absurd hf List.not_mem_nil, fun _ => rfl⟩
  have hread := List.rel_foldl (fun _ _ hd _ _ hl => hd.readLine hP hl) hbegin h
  have hclosed := hread.closeMany hP (lines.foldl Draft.readLine .initial).outer.length
  rw [Draft.finish, Draft.finish, ← hread.outer.length_eq]
  exact ⟨hclosed.top.blocks, congrArg List.reverse hclosed.targets⟩

end WikiPress.Markdown
