import WikiPress.Proofs.Markdown.Reading

/-!
# Proofs/Markdown/OpenBlocks — the kinds of the open blocks, and what a line makes of them

    open blocks        line       opened          open behind it
    document           > - a      quote, item     paragraph, item, list, quote, document
    document           # a        heading         heading, document

A line closes the blocks it does not go on with, opens blocks of its own, and its rest is the text of
the innermost one.  What a line can open is one of five things (`Opened`); a box among them stays open
behind the line, whatever its text is (`IsFresh.exists_box`), and a line that opens no fence leaves
none open (`codeFence?_addText`).
-/

namespace WikiPress.Markdown

/-! ## The open blocks -/

namespace FrameKind

/-- The fence of fenced code. -/
def fence? : FrameKind → Option Fence
  | .fencedCode fence _ _ => some fence
  | _ => none

/-- Whether a block is a quote, a footnote, an item or the details of a term, which hold other
blocks. -/
def isBox : FrameKind → Bool
  | .quote | .footnote _ | .item _ | .details _ _ => true
  | _ => false

/-- Whether a block is a part of a list, which stands in no box. -/
def isPart : FrameKind → Bool
  | .item _ | .details _ _ => true
  | _ => false

/-- A box holds every block but the parts of lists. -/
theorem holds_of_isBox {box kind : FrameKind} (hbox : box.isBox = true) (hpart : kind.isPart = false) :
    box.holds kind = true := by
  cases box <;>
    first
    | exact absurd hbox Bool.false_ne_true
    | cases kind <;> first | rfl | exact absurd hpart.symm Bool.false_ne_true

/-- Whether a block holds no other blocks and no HTML. -/
def isLeaf : FrameKind → Bool
  | .paragraph _ | .heading _ | .rule | .indentedCode | .fencedCode .. | .table .. => true
  | _ => false

end FrameKind

namespace Draft

/-- The kinds of the open blocks, from the inside out. -/
def kinds (d : Draft) : List FrameKind := d.top.kind :: d.outer.map Frame.kind

/-- The fence of the innermost block, if that is fenced code. -/
def codeFence? (d : Draft) : Option Fence := d.top.kind.fence?

/-- **A draft at top level**: no block is open in the text but a leaf that is no HTML. -/
def IsFlat (d : Draft) : Prop :=
  d.kinds = [.document] ∨ d.top.kind.isLeaf = true ∧ d.outer.map Frame.kind = [.document]

instance (d : Draft) : Decidable d.IsFlat := inferInstanceAs (Decidable (_ ∨ _))

variable {d : Draft}

theorem IsFlat.isBox_eq_false (h : d.IsFlat) : ∀ kind ∈ d.kinds, kind.isBox = false := by
  rcases h with h | ⟨hleaf, houter⟩
  · rw [h]
    exact List.forall_mem_singleton.2 rfl
  · rw [kinds, houter]
    refine List.forall_mem_cons.2 ⟨?_, List.forall_mem_singleton.2 rfl⟩
    generalize d.top.kind = leaf at hleaf ⊢
    cases leaf <;> first | rfl | exact absurd hleaf Bool.false_ne_true

theorem codeFence?_of_kinds {kind : FrameKind} {around : List FrameKind}
    (h : d.kinds = kind :: around) : d.codeFence? = kind.fence? :=
  congrArg FrameKind.fence? (List.cons.inj h).1

theorem kinds_close (d : Draft) : d.close.kinds = d.kinds.tail ∨ d.close.kinds = d.kinds := by
  rw [close]
  split
  · exact .inr rfl
  · next parent outer houter =>
    refine .inl ?_
    cases hblock : d.top.finish.2 <;> simp [kinds, houter, hblock, Frame.addBlock]

theorem kinds_close_suffix (d : Draft) : d.close.kinds <:+ d.kinds := by
  rcases kinds_close d with h | h
  · exact h ▸ List.tail_suffix d.kinds
  · exact h ▸ List.suffix_rfl

theorem kinds_close_of_ne_nil (h : d.outer ≠ []) : d.close.kinds = d.kinds.tail := by
  rw [close]
  split
  · next hnil => exact absurd hnil h
  · next parent outer houter =>
    cases hblock : d.top.finish.2 <;> simp [kinds, houter, hblock, Frame.addBlock]

theorem kinds_closeMany {n : Nat} (h : n ≤ d.outer.length) :
    (d.closeMany n).kinds = d.kinds.drop n := by
  induction n generalizing d with
  | zero => rfl
  | succ n ih =>
    have hne : d.outer ≠ [] := by
      intro hnil
      rw [hnil] at h
      exact absurd h (by simp)
    have hclose := kinds_close_of_ne_nil hne
    have hlength : d.close.outer.length + 1 = d.outer.length := by
      have hkinds := congrArg List.length hclose
      simp only [kinds, List.length_cons, List.length_map, List.tail_cons] at hkinds
      exact hkinds
    rw [closeMany, ih (by omega), hclose, List.drop_tail]

theorem kinds_resume (d : Draft) (pending : List Frame) :
    (d.resume pending).kinds = (pending.map Frame.kind).reverse ++ d.kinds := by
  induction pending generalizing d with
  | nil => rfl
  | cons f pending ih =>
    rw [resume, ih, List.map_cons, List.reverse_cons, List.append_assoc]
    rfl

/-- Pending blocks leave no trace among the open ones. -/
theorem kinds_closePending (d : Draft) (pending : List Frame) :
    (d.closePending pending).kinds = d.kinds := by
  have hkinds := kinds_resume d pending
  have hlength : pending.length ≤ (d.resume pending).outer.length := by
    have hsame := congrArg List.length hkinds
    simp only [kinds, List.length_cons, List.length_map, List.length_append, List.length_reverse]
      at hsame
    omega
  rw [closePending, kinds_closeMany hlength, hkinds, List.drop_left' (by simp)]

theorem kinds_makeRoom (kind : FrameKind) (fuel : Nat) (d : Draft) :
    (d.makeRoom kind fuel).kinds <:+ d.kinds := by
  induction fuel generalizing d with
  | zero => exact List.suffix_rfl
  | succ fuel ih =>
    rw [makeRoom]
    split
    · exact List.suffix_rfl
    · exact (ih d.close).trans (kinds_close_suffix d)

/-- **A block is opened inside some of the open blocks**… -/
theorem kinds_openBlock (kind : FrameKind) (d : Draft) :
    ∃ around, around <:+ d.kinds ∧ (d.openBlock kind).kinds = kind :: around :=
  ⟨_, kinds_makeRoom kind _ d, rfl⟩

/-- …and inside all of them if the innermost one can hold it. -/
theorem kinds_openBlock_of_holds {kind : FrameKind} (h : d.top.kind.holds kind = true) :
    (d.openBlock kind).kinds = kind :: d.kinds := by
  have hroom : d.makeRoom kind d.outer.length = d := by
    cases d.outer.length with
    | zero => rfl
    | succ n => rw [makeRoom, if_pos h]
  rw [openBlock, hroom]
  rfl

end Draft

namespace LineState

variable {s s' : LineState}

theorem kinds_opening (kind : FrameKind) (place : Cursor) (s : LineState) :
    ∃ around, around <:+ s.draft.kinds ∧ (s.opening kind place).draft.kinds = kind :: around := by
  obtain ⟨around, haround, hkinds⟩ := Draft.kinds_openBlock kind (s.draft.closePending s.pending)
  rw [Draft.kinds_closePending] at haround
  exact ⟨around, haround, hkinds⟩

theorem kinds_opening_of_holds {kind : FrameKind} (hpending : s.pending = [])
    (h : s.draft.top.kind.holds kind = true) (place : Cursor) :
    (s.opening kind place).draft.kinds = kind :: s.draft.kinds := by
  rw [opening, hpending]
  exact Draft.kinds_openBlock_of_holds h

/-! ## What a line opens -/

/-- **A box that has just been opened.** -/
structure IsFresh (s : LineState) : Prop where
  pending : s.pending = []
  box : ∃ kind : FrameKind, kind.isBox = true ∧ s.draft.top = .empty kind

/-- A block that takes the rest of the line. -/
def TakesLine (s : LineState) : Prop := s.draft.top.kind.takesText = true ∨ s.spent = true

/-- **What a line can open**: fenced code, another block inside the open ones, an item, details, or
what the innermost paragraph or table becomes. -/
inductive Opened (s s' : LineState) : Prop
  | fence (hindent : s.place.indent ≤ 3) (h : s.fence? = some s')
  | block (kind : FrameKind) (place : Cursor) (hpart : kind.isPart = false)
      (hfence : kind.fence? = none)
      (hkinds : s'.draft.kinds = (s.opening kind place).draft.kinds) (hpending : s'.pending = [])
      (h : s'.IsFresh ∨ s'.TakesLine)
  | item (h : s.item? = some s')
  | details (h : s.details? = some s')
  | change (hbox : s.draft.top.kind.isBox = false) (h : s'.TakesLine)
      (hkinds : ∀ kind ∈ s'.draft.kinds, kind ∈ s.draft.kinds ∨ kind.fence? = none)
      (hpending : s'.pending = s.pending)

theorem opened_of_quote? (h : s.quote? = some s') : Opened s s' := by
  rw [quote?] at h
  split at h
  · obtain rfl := Option.some.inj h
    exact .block .quote _ rfl rfl rfl rfl (.inl ⟨rfl, .quote, rfl, rfl⟩)
  · exact absurd h (by simp)

theorem opened_of_heading? (h : s.heading? = some s') : Opened s s' := by
  obtain ⟨⟨level, text⟩, -, rfl⟩ := Option.map_eq_some_iff.1 h
  exact .block (.heading level) s.place rfl rfl rfl rfl (.inr (.inr rfl))

theorem opened_of_html? (h : s.html? = some s') : Opened s s' := by
  obtain ⟨ending, -, rfl⟩ := Option.map_eq_some_iff.1 h
  exact .block (.html ending) s.place rfl rfl rfl rfl (.inr (.inl rfl))

theorem opened_of_rule? (h : s.rule? = some s') : Opened s s' := by
  rw [rule?] at h
  split at h
  · obtain rfl := Option.some.inj h
    exact .block .rule s.place rfl rfl rfl rfl (.inr (.inr rfl))
  · exact absurd h (by simp)

theorem opened_of_footnote? (h : s.footnote? = some s') : Opened s s' := by
  obtain ⟨found, -, rfl⟩ := Option.map_eq_some_iff.1 h
  exact .block (.footnote found.1) _ rfl rfl rfl rfl (.inl ⟨rfl, .footnote found.1, rfl, rfl⟩)

/-- What the innermost block becomes is the only kind that is new. -/
theorem mem_kinds_of_becomes {kind : FrameKind} (h : s'.draft.kinds = kind :: s.draft.kinds.tail)
    (hfence : kind.fence? = none) :
    ∀ k ∈ s'.draft.kinds, k ∈ s.draft.kinds ∨ k.fence? = none := by
  intro k hk
  rw [h] at hk
  rcases List.mem_cons.1 hk with rfl | hk
  · exact .inr hfence
  · exact .inl (List.mem_of_mem_tail hk)

theorem opened_of_underline? (h : s.underline? = some s') : Opened s s' := by
  rw [underline?] at h
  split at h
  · next hkind _ =>
    have hbox : s.draft.top.kind.isBox = false := by rw [hkind]; rfl
    dsimp only at h
    split at h
    · obtain rfl := Option.some.inj h
      exact .change hbox (.inl (by simp [hkind, FrameKind.takesText])) (fun k hk => .inl hk) rfl
    · obtain rfl := Option.some.inj h
      exact .change hbox (.inr rfl) (mem_kinds_of_becomes rfl rfl) rfl
  · exact absurd h (by simp)

theorem opened_of_table? (h : s.table? = some s') : Opened s s' := by
  rw [table?] at h
  dsimp only at h
  split at h
  · next last earlier parent outer hkind _ houter =>
    have hbox : s.draft.top.kind.isBox = false := by rw [hkind]; rfl
    split at h
    · split at h
      · obtain rfl := Option.some.inj h
        exact .change hbox (.inl rfl) (mem_kinds_of_becomes rfl rfl) rfl
      · obtain rfl := Option.some.inj h
        have hkinds : s.draft.kinds.tail = (parent :: outer).map Frame.kind := by
          rw [Draft.kinds, houter, List.tail_cons]
        exact .change hbox (.inr rfl) (mem_kinds_of_becomes (by rw [hkinds]; rfl) rfl) rfl
    · exact absurd h (by simp)
  · next hkind =>
    have hbox : s.draft.top.kind.isBox = false := by rw [hkind]; rfl
    split at h
    · exact absurd h (by simp)
    · obtain rfl := Option.some.inj h
      exact .change hbox (.inr rfl) (mem_kinds_of_becomes rfl rfl) rfl
  · exact absurd h (by simp)

theorem opened_of_open? {lazy mayNest : Bool} (h : s.open? lazy mayNest = some s') : Opened s s' := by
  rw [open?] at h
  split at h
  · split at h
    · exact absurd h (by simp)
    · obtain rfl := Option.some.inj h
      exact .block .indentedCode (s.place.dropColumns 4) rfl rfl rfl rfl (.inr (.inl rfl))
  · simp only [Option.or_eq_some_iff] at h
    rcases h with h | ⟨-, h | ⟨-, h | ⟨-, h | ⟨-, h | ⟨-, h | ⟨-, h | ⟨-, h | ⟨-, h | ⟨-, h⟩⟩⟩⟩⟩⟩⟩⟩⟩
    · exact opened_of_quote? h
    · exact opened_of_heading? h
    · exact .fence (by omega) h
    · exact opened_of_html? h
    · exact opened_of_underline? h
    · exact opened_of_rule? h
    · split at h
      · exact opened_of_footnote? h
      · exact absurd h (by simp)
    · exact .details h
    · split at h
      · exact .item h
      · exact absurd h (by simp)
    · exact opened_of_table? h

theorem isFresh_of_details? (h : s.details? = some s') : s'.IsFresh := by
  rw [details?] at h
  split at h
  · exact absurd h (by simp)
  · dsimp only at h
    split at h
    · obtain rfl := Option.some.inj h
      exact ⟨rfl, .details true _, rfl, rfl⟩
    · split at h
      · next tight _ _ =>
        obtain rfl := Option.some.inj h
        exact ⟨rfl, .details tight _, rfl, rfl⟩
      · next tight _ _ =>
        obtain rfl := Option.some.inj h
        exact ⟨rfl, .details tight _, rfl, rfl⟩
      · obtain rfl := Option.some.inj h
        exact ⟨rfl, .details false _, rfl, rfl⟩
      · exact absurd h (by simp)

/-- In a box that has just been opened there is no paragraph to become a term. -/
theorem IsFresh.details?_eq_none (hs : s.IsFresh) : s.details? = none := by
  obtain ⟨hpending, box, hbox, htop⟩ := hs
  have hkind : s.draft.top.kind = box := by rw [htop]; rfl
  have hlast : s.lastInside = none := by rw [lastInside, hpending, htop]; rfl
  rw [details?]
  split
  · rfl
  · dsimp only
    rw [hkind, hlast]
    split
    · exact absurd hbox Bool.false_ne_true
    · rfl

/-- An item stands in the list that is open, or in a new one. -/
theorem exists_of_item? (h : s.item? = some s') :
    ∃ (list : LineState) (width : Nat) (place : Cursor), s' = list.opening (.item width) place ∧
      ((list = s ∧ ∃ other, s.draft.top.kind = .list other) ∨
        ∃ marker place', list = s.opening (.list marker) place') := by
  rw [item?] at h
  split at h
  · exact absurd h (by simp)
  · obtain rfl := Option.some.inj h
    refine ⟨_, _, _, rfl, ?_⟩
    split
    · next other hother =>
      split
      · exact .inl ⟨rfl, other, hother⟩
      · exact .inr ⟨_, _, rfl⟩
    · exact .inr ⟨_, _, rfl⟩

/-- **A line that opens a block** opens fenced code, or a box, or a leaf or a block of HTML, which
takes the rest of the line. -/
theorem open?_cases {lazy mayNest : Bool} (h : s.open? lazy mayNest = some s') :
    (s.place.indent ≤ 3 ∧ s.fence? = some s') ∨ s'.IsFresh ∨
      (s'.TakesLine ∧ (∀ kind ∈ s'.draft.kinds, kind ∈ s.draft.kinds ∨ kind.fence? = none) ∧
        (s'.pending = [] ∨ s'.pending = s.pending)) := by
  cases opened_of_open? h with
  | fence hindent h => exact .inl ⟨hindent, h⟩
  | block kind place hpart hfence hkinds hpending h =>
    rcases h with hfresh | htakes
    · exact .inr (.inl hfresh)
    · refine .inr (.inr ⟨htakes, fun k hk => ?_, .inl hpending⟩)
      obtain ⟨around, haround, hopening⟩ := kinds_opening kind place s
      rw [hkinds, hopening] at hk
      rcases List.mem_cons.1 hk with rfl | hk
      · exact .inr hfence
      · exact .inl (haround.mem hk)
  | item h =>
    obtain ⟨list, width, place, rfl, -⟩ := exists_of_item? h
    exact .inr (.inl ⟨rfl, .item width, rfl, rfl⟩)
  | details h => exact .inr (.inl (isFresh_of_details? h))
  | change hbox h hkinds hpending => exact .inr (.inr ⟨h, hkinds, .inr hpending⟩)

/-- **Inside a box that has just been opened** a line opens another box, or a block that takes the rest
of the line. -/
theorem IsFresh.open? (hs : s.IsFresh) {lazy mayNest : Bool} (h : s.open? lazy mayNest = some s') :
    s'.pending = [] ∧ (s'.IsFresh ∨ s'.TakesLine) ∧
      ∃ kind ∈ s'.draft.outer.map Frame.kind, kind.isBox = true := by
  have hdetails := hs.details?_eq_none
  obtain ⟨hpending, box, hbox, htop⟩ := hs
  have hkind : s.draft.top.kind = box := by rw [htop]; rfl
  have houter : ∀ kind place, kind.isPart = false →
      (s.opening kind place).draft.kinds = kind :: box :: s.draft.outer.map Frame.kind := by
    intro kind place hpart
    rw [kinds_opening_of_holds hpending (hkind ▸ FrameKind.holds_of_isBox hbox hpart) place,
      Draft.kinds, hkind]
  cases opened_of_open? h with
  | fence _ h =>
    obtain ⟨⟨fence, info⟩, -, rfl⟩ := Option.map_eq_some_iff.1 h
    have hkinds := houter (.fencedCode fence s.place.indentLength info) s.place rfl
    refine ⟨rfl, .inr (.inr rfl), box, ?_, hbox⟩
    exact (List.cons.inj hkinds).2 ▸ List.mem_cons_self
  | block kind place hpart _ hkinds hpending h =>
    refine ⟨hpending, h, box, ?_, hbox⟩
    exact (List.cons.inj (hkinds.trans (houter kind place hpart))).2 ▸ List.mem_cons_self
  | item h =>
    obtain ⟨list, width, place, rfl, ⟨-, other, hother⟩ | ⟨marker, place', rfl⟩⟩ := exists_of_item? h
    · rw [← hkind, hother] at hbox
      exact absurd hbox Bool.false_ne_true
    · refine ⟨rfl, .inl ⟨rfl, .item width, rfl, rfl⟩, box, ?_, hbox⟩
      have hitem : ((s.opening (.list marker) place').opening (.item width) place).draft.kinds =
          .item width :: (s.opening (.list marker) place').draft.kinds :=
        kinds_opening_of_holds rfl rfl place
      rw [(List.cons.inj hitem).2, houter (.list marker) place' rfl]
      exact List.mem_cons_of_mem _ List.mem_cons_self
  | details h => exact absurd h (by simp [hdetails])
  | change hnone =>
    rw [hkind, hbox] at hnone
    cases hnone

/-- **A line that goes on inside a box** leaves the box open. -/
theorem IsFresh.openAll (hs : s.IsFresh) (fuel : Nat) (lazy : Bool) (depth : Nat) :
    (openAll fuel lazy depth s).pending = [] ∧
      ((openAll fuel lazy depth s).IsFresh ∨
        (openAll fuel lazy depth s).TakesLine ∧
          ∃ kind ∈ (openAll fuel lazy depth s).draft.outer.map Frame.kind, kind.isBox = true) := by
  induction fuel generalizing lazy depth s with
  | zero => exact ⟨hs.pending, .inl hs⟩
  | succ fuel ih =>
    rw [LineState.openAll]
    split
    · exact ⟨hs.pending, .inl hs⟩
    · split
      · exact ⟨hs.pending, .inl hs⟩
      · next s' hopen =>
        obtain ⟨hpending, hnext, hbox⟩ := hs.open? hopen
        split
        · next htakes =>
          exact ⟨hpending, .inr ⟨by simpa [TakesLine] using htakes, hbox⟩⟩
        · next htakes =>
          have hfresh : s'.IsFresh := hnext.resolve_right (by simpa [TakesLine] using htakes)
          exact ih hfresh false (depth + 1)

/-! ## The text of a line -/

theorem kinds_noteBlank (s : LineState) : s.noteBlank.draft.kinds = s.draft.kinds ∧
    s.noteBlank.pending.map Frame.kind = s.pending.map Frame.kind ∧
    s.noteBlank.spent = s.spent ∧ s.noteBlank.place = s.place := by
  have houter : (s.draft.outer.map ({ · with blank := false })).map Frame.kind =
      s.draft.outer.map Frame.kind := by
    rw [List.map_map]
    rfl
  rw [noteBlank]
  dsimp only
  split
  · exact ⟨congrArg (s.draft.top.kind :: ·) houter, rfl, rfl, rfl⟩
  · split
    · cases hpending : s.pending with
      | nil =>
        refine ⟨?_, rfl, rfl, rfl⟩
        rw [Draft.kinds, houter]
        exact congrArg (· :: s.draft.outer.map Frame.kind) (Swap.kind_markLastBlank s.draft.top)
      | cons f pending => exact ⟨congrArg (s.draft.top.kind :: ·) houter, rfl, rfl, rfl⟩
    · exact ⟨congrArg (s.draft.top.kind :: ·) houter, rfl, rfl, rfl⟩

/-- **What the rest of a line does to the open blocks**: it resumes the pending ones, adds to the open
ones, ends a block of HTML, or is a paragraph of its own. -/
theorem kinds_addText (s : LineState) :
    s.addText.kinds = (s.pending.map Frame.kind).reverse ++ s.draft.kinds ∨
    s.addText.kinds = s.draft.kinds ∨
    ((∃ ending, s.draft.top.kind = .html ending) ∧ s.addText.kinds = s.draft.kinds.tail) ∨
    (s.spent = false ∧ s.draft.top.kind.takesText = false ∧
      ∃ around, around <:+ s.draft.kinds ∧ s.addText.kinds = .paragraph false :: around ∧
        (s.draft.top.kind.holds (.paragraph false) = true → around = s.draft.kinds)) := by
  obtain ⟨hkinds, hpending, hspent, -⟩ := kinds_noteBlank s
  rw [addText]
  dsimp only
  split
  · refine .inl ?_
    rw [← hkinds, ← hpending]
    exact Draft.kinds_resume _ _
  · refine .inr ?_
    have hclosed := Draft.kinds_closePending s.noteBlank.draft s.noteBlank.pending
    rw [hkinds] at hclosed
    rw [hspent]
    generalize s.noteBlank.draft.closePending s.noteBlank.pending = d at hclosed ⊢
    rw [← hclosed]
    have htop : d.top.kind = s.draft.top.kind := (List.cons.inj hclosed).1
    rw [← htop]
    split
    · exact .inl rfl
    · next hunspent =>
      split
      · split
        · next ending hending =>
          split
          · exact (Draft.kinds_close _).symm.imp id fun h => .inl ⟨⟨ending, hending⟩, h⟩
          · exact .inl rfl
        · exact .inl rfl
      · split
        · exact .inl rfl
        · split
          · exact .inl rfl
          · next htakes =>
            obtain ⟨around, haround, hopened⟩ := Draft.kinds_openBlock (.paragraph false) d
            refine .inr (.inr ⟨Bool.eq_false_iff.2 hunspent, Bool.eq_false_iff.2 htakes, around,
              haround, hopened, fun hholds => ?_⟩)
            exact (List.cons.inj (hopened.symm.trans (Draft.kinds_openBlock_of_holds hholds))).2

/-- **A box that a line opens stays open behind it.** -/
theorem IsFresh.exists_box (hs : s.IsFresh) (fuel : Nat) (lazy : Bool) (depth : Nat) :
    ∃ kind ∈ (LineState.openAll fuel lazy depth s).addText.kinds, kind.isBox = true := by
  obtain ⟨hpending, hafter⟩ := hs.openAll fuel lazy depth
  generalize LineState.openAll fuel lazy depth s = s' at hpending hafter ⊢
  have hbox : ∃ kind ∈ s'.draft.kinds, kind.isBox = true := by
    rcases hafter with ⟨-, box, hbox, htop⟩ | ⟨-, kind, hkind, hbox⟩
    · exact ⟨box, by rw [Draft.kinds, htop]; exact List.mem_cons_self, hbox⟩
    · exact ⟨kind, List.mem_cons_of_mem _ hkind, hbox⟩
  rcases kinds_addText s' with h | h | ⟨⟨ending, hending⟩, h⟩ | ⟨hunspent, htext, around, -, h, hholds⟩
  · rw [h, hpending]
    exact hbox
  · rw [h]
    exact hbox
  · -- the block of HTML stands inside the box
    obtain ⟨kind, hkind, hbox⟩ := hbox
    rw [Draft.kinds, hending] at hkind
    rcases List.mem_cons.1 hkind with rfl | hkind
    · exact absurd hbox Bool.false_ne_true
    · exact ⟨kind, by rw [h]; exact hkind, hbox⟩
  · rcases hafter with ⟨-, box, hisBox, htop⟩ | ⟨htakes, -⟩
    · have htop' : s'.draft.top.kind = box := by rw [htop]; rfl
      rw [h, hholds (by rw [htop']; exact FrameKind.holds_of_isBox hisBox rfl)]
      obtain ⟨kind, hkind, hbox⟩ := hbox
      exact ⟨kind, List.mem_cons_of_mem _ hkind, hbox⟩
    · rcases htakes with htakes | htakes
      · exact absurd (htext.symm.trans htakes) Bool.false_ne_true
      · exact absurd (hunspent.symm.trans htakes) Bool.false_ne_true

/-- A line that opens no fence leaves none open. -/
theorem codeFence?_addText (hkinds : ∀ kind ∈ s.draft.kinds, kind.fence? = none)
    (hpending : ∀ f ∈ s.pending, f.kind.fence? = none) : s.addText.codeFence? = none := by
  have hall : ∀ kind ∈ s.addText.kinds, kind.fence? = none := by
    intro kind hkind
    rcases kinds_addText s with h | h | ⟨-, h⟩ | ⟨-, -, around, haround, h, -⟩ <;> rw [h] at hkind
    · rcases List.mem_append.1 hkind with hkind | hkind
      · obtain ⟨f, hf, rfl⟩ := List.mem_map.1 (List.mem_reverse.1 hkind)
        exact hpending f hf
      · exact hkinds kind hkind
    · exact hkinds kind hkind
    · exact hkinds kind (List.mem_of_mem_tail hkind)
    · rcases List.mem_cons.1 hkind with rfl | hkind
      · rfl
      · exact hkinds kind (haround.mem hkind)
  exact hall _ List.mem_cons_self

end LineState

end WikiPress.Markdown
