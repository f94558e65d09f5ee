import WikiPress.Proofs.Markdown.FencedCode
import WikiPress.Proofs.Markdown.OpenBlocks

/-!
# Proofs/Markdown/TopLevel — the fenced code of the renderer is that of the rule

    line           ```rust   # a   ```   # b        ``` a`b   # c
    open blocks    code      code  none  heading    text      heading

While a text stands at top level, with no block open but a leaf (`IsFlat`), the innermost block behind
every line is fenced code exactly if the rule says so (`codeFence?_foldl_readLine`).  A line is read
with nothing open, in fenced code, or behind another leaf, and the rule is met in each case.
-/

namespace WikiPress.Markdown

/-! ## Lines at top level -/

section TopLevel

variable {s : LineState} {line : Text}

/-- What opens a fence begins with a mark. -/
theorem exists_mark_of_fence? {t : Text} {found : Fence × Text} (h : Opening.fence? t = some found) :
    ∃ c r, t = c :: r ∧ (c = '`' ∨ c = '~') := by
  unfold Opening.fence? at h
  split at h
  · next c r =>
    refine ⟨c, r, rfl, ?_⟩
    dsimp only at h
    split at h
    · next hcond =>
      simp only [Bool.and_eq_true, Bool.or_eq_true, beq_iff_eq] at hcond
      exact hcond.1.imp And.left id
    · exact absurd h (by simp)
  · exact absurd h (by simp)

/-- **What opens a fence opens nothing else**: a fence is looked for before anything else that begins
with its marks. -/
theorem open?_of_fence? {fence : Fence} {info : Text} (hindent : s.place.indent ≤ 3)
    (h : Opening.fence? s.place.body = some (fence, info)) (lazy mayNest : Bool) :
    s.open? lazy mayNest = some
      { s.opening (.fencedCode fence s.place.indentLength info) s.place with spent := true } := by
  obtain ⟨c, r, hbody, hmark⟩ := exists_mark_of_fence? h
  have hquote : s.quote? = none := by
    rw [LineState.quote?, hbody]
    rcases hmark with rfl | rfl <;> rfl
  have hheading : s.heading? = none := by
    rw [LineState.heading?, hbody, Opening.heading?]
    rcases hmark with rfl | rfl <;> simp
  rw [LineState.open?, if_neg (by omega), hquote, hheading, Option.none_or, Option.none_or,
    LineState.fence?, h]
  rfl

/-- Fenced code that a line opens stays open behind it. -/
theorem codeFence?_addText_of_spent {fence : Fence} {indentation : Nat} {info : Text}
    (hpending : s.pending = []) (hspent : s.spent = true)
    (hkind : s.draft.top.kind = .fencedCode fence indentation info) :
    s.addText.codeFence? = some fence := by
  have hkinds : s.draft.kinds = .fencedCode fence indentation info :: s.draft.outer.map Frame.kind := by
    rw [Draft.kinds, hkind]
  rcases LineState.kinds_addText s with h | h | ⟨⟨ending, hending⟩, -⟩ | ⟨hunspent, -⟩
  · rw [hpending, hkinds] at h
    exact Draft.codeFence?_of_kinds h
  · rw [hkinds] at h
    exact Draft.codeFence?_of_kinds h
  · exact absurd (hkind.symm.trans hending) (by simp)
  · exact absurd (hunspent.symm.trans hspent) Bool.false_ne_true

/-- **A line that opens fenced code by the rule does so in the renderer.** -/
theorem codeFence?_of_open? {fence : Fence} (hopen : FencedCode.open? line = some fence)
    (hplace : s.place = .start line) (hverbatim : s.draft.top.kind.isVerbatim = false)
    (fuel : Nat) (lazy : Bool) (depth : Nat) :
    (LineState.openAll (fuel + 1) lazy depth s).addText.codeFence? = some fence := by
  rcases FencedCode.indent_start line with ⟨k, hk, t, rfl, ht, hindent, hbody⟩ | ⟨-, hread⟩
  · rw [FencedCode.open?_replicate_append hk ht] at hopen
    obtain ⟨⟨fence, info⟩, hfence, rfl⟩ := Option.map_eq_some_iff.1 hopen
    rw [← hplace] at hindent hbody
    rw [LineState.openAll, if_neg (by simp [hverbatim]),
      open?_of_fence? (by omega) (hbody.symm ▸ hfence)]
    dsimp only
    rw [if_pos (by rfl)]
    exact codeFence?_addText_of_spent rfl rfl rfl
  · rw [FencedCode.open?, hread] at hopen
    exact absurd hopen (by simp)

/-- **…and a line that opens none by the rule opens none there**, if it leaves the text at top level. -/
theorem codeFence?_of_open?_eq_none (hopen : FencedCode.open? line = none)
    (hplace : s.place = .start line) (hkinds : ∀ kind ∈ s.draft.kinds, kind.fence? = none)
    (hpending : ∀ f ∈ s.pending, f.kind.fence? = none) (fuel : Nat) (lazy : Bool) (depth : Nat)
    (hflat : (LineState.openAll fuel lazy depth s).addText.IsFlat) :
    (LineState.openAll fuel lazy depth s).addText.codeFence? = none := by
  have hnothing := LineState.codeFence?_addText hkinds hpending
  cases fuel with
  | zero => exact hnothing
  | succ fuel =>
    rw [LineState.openAll] at hflat ⊢
    split at hflat
    · next hverbatim =>
      rw [if_pos hverbatim]
      exact hnothing
    · next hverbatim =>
      rw [if_neg hverbatim]
      split at hflat
      · exact hnothing
      · next s' hsome =>
        rcases LineState.open?_cases hsome with ⟨hindent, hfence⟩ | hfresh | ⟨htakes, hkinds', hpending'⟩
        · -- the rule would open this fence, too
          obtain ⟨found, hfound, -⟩ := Option.map_eq_some_iff.1 hfence
          rw [hplace] at hindent hfound
          rcases FencedCode.indent_start line with ⟨k, hk, t, rfl, ht, -, hbody⟩ | ⟨hindent', -⟩
          · rw [FencedCode.open?_replicate_append hk ht, ← hbody, hfound] at hopen
            exact absurd hopen (by simp)
          · exact absurd hindent (by omega)
        · -- a box would stay open
          obtain ⟨kind, hkind, hbox⟩ : ∃ kind ∈ (if (s'.draft.top.kind.takesText || s'.spent) = true
              then s' else LineState.openAll fuel false (depth + 1) s').addText.kinds,
              kind.isBox = true := by
            split
            · exact hfresh.exists_box 0 false 0
            · exact hfresh.exists_box fuel false (depth + 1)
          exact absurd (hflat.isBox_eq_false kind hkind) (by simp [hbox])
        · rw [if_pos (by simpa [LineState.TakesLine] using htakes)]
          refine LineState.codeFence?_addText (fun kind hkind => ?_) ?_
          · exact (hkinds' kind hkind).elim (hkinds kind) id
          · rcases hpending' with h | h
            · rw [h]
              exact fun f hf => absurd hf List.not_mem_nil
            · rwa [h]

/-- **Outside fenced code, a line is read by the rule.** -/
theorem codeFence?_openAll (hplace : s.place = .start line)
    (hverbatim : s.draft.top.kind.isVerbatim = false)
    (hkinds : ∀ kind ∈ s.draft.kinds, kind.fence? = none)
    (hpending : ∀ f ∈ s.pending, f.kind.fence? = none) (fuel : Nat) (lazy : Bool) (depth : Nat)
    (hflat : (LineState.openAll (fuel + 1) lazy depth s).addText.IsFlat) :
    (LineState.openAll (fuel + 1) lazy depth s).addText.codeFence? = FencedCode.open? line := by
  cases hopen : FencedCode.open? line with
  | some fence => exact codeFence?_of_open? hopen hplace hverbatim fuel lazy depth
  | none => exact codeFence?_of_open?_eq_none hopen hplace hkinds hpending _ lazy depth hflat

/-- Lines of fenced code are added to it. -/
theorem kinds_addText_of_verbatim (hpending : s.pending = []) {fence : Fence} {indentation : Nat}
    {info : Text} (hkind : s.draft.top.kind = .fencedCode fence indentation info) :
    s.addText.kinds = s.draft.kinds := by
  rcases LineState.kinds_addText s with h | h | ⟨⟨ending, hending⟩, -⟩ | ⟨-, htext, -⟩
  · rw [h, hpending]
    rfl
  · exact h
  · exact absurd (hkind.symm.trans hending) (by simp)
  · rw [hkind] at htext
    exact absurd htext.symm Bool.false_ne_true

/-- What is indented like code, or blank, opens no fence. -/
theorem FencedCode.open?_eq_none_of_indented
    (h : 4 ≤ (Cursor.start line).indent ∨ (Cursor.start line).isBlank = true) :
    FencedCode.open? line = none := by
  rcases FencedCode.indent_start line with ⟨k, hk, t, rfl, ht, hindent, hbody⟩ | ⟨-, hread⟩
  · have hnil : t = [] := by
      rcases h with h | h
      · exact absurd h (by omega)
      · rwa [Cursor.isBlank, hbody, List.isEmpty_iff] at h
    rw [FencedCode.open?_replicate_append hk ht, hnil]
    rfl
  · rw [FencedCode.open?, hread]

/-- The renderer ends fenced code by the rule. -/
theorem FencedCode.endedBy_eq {fence : Fence} (hrun : FencedCode.IsRun fence) (line : Text) :
    FencedCode.endedBy fence line =
      ((Cursor.start line).indent ≤ 3 && Opening.closes fence (Cursor.start line).body) := by
  rcases FencedCode.indent_start line with ⟨k, hk, t, rfl, ht, hindent, hbody⟩ | ⟨hindent, hread⟩
  · rw [FencedCode.endedBy_replicate_append hk ht hrun, hindent, hbody]
    simp [hk]
  · have hnot : ¬ (Cursor.start line).indent ≤ 3 := by omega
    rw [FencedCode.endedBy, hread]
    simp [hnot]

end TopLevel

namespace Draft

variable {d : Draft} {line : Text}

/-- A line behind a leaf is matched against it. -/
theorem readLine_of_leaf (top root : Frame) (targets : List (Text × Target)) (line : Text) :
    readLine ⟨top, [root], targets⟩ line =
      match top.continuation (!top.done.isEmpty || !([] : List Frame).isEmpty) line (.start line) with
      | .no => (LineState.openAll (line.length + 2)
          (LineState.endsInParagraph ⟨⟨root, [], targets⟩, [top], .start line, false⟩) 1
            ⟨⟨root, [], targets⟩, [top], .start line, false⟩).addText
      | .yes place => (LineState.openAll (line.length + 2)
          (LineState.endsInParagraph ⟨⟨top, [root], targets⟩, [], place, false⟩) 1
            ⟨⟨top, [root], targets⟩, [], place, false⟩).addText
      | .ends => close ⟨top, [root], targets⟩ := by
  unfold readLine
  simp only [List.reverse_cons, List.reverse_nil, List.nil_append, List.singleton_append, matchFrames]
  cases top.continuation (!top.done.isEmpty || !([] : List Frame).isEmpty) line (.start line) <;> rfl

/-- A leaf other than fenced code takes a line from its beginning or not at all, or is indented code
that takes what is indented or blank. -/
theorem continuation_of_leaf {f : Frame} (hleaf : f.kind.isLeaf = true) (hfence : f.kind.fence? = none)
    (hasChild : Bool) (line : Text) :
    f.continuation hasChild line (.start line) = .no ∨
      (f.continuation hasChild line (.start line) = .yes (.start line) ∧ f.kind.isVerbatim = false) ∨
      ∃ place, f.continuation hasChild line (.start line) = .yes place ∧ f.kind.isVerbatim = true ∧
        (4 ≤ (Cursor.start line).indent ∨ (Cursor.start line).isBlank = true) := by
  rw [Frame.continuation]
  dsimp only
  cases hkind : f.kind with
  | paragraph noTable =>
    dsimp only
    split
    · exact .inl rfl
    · exact .inr (.inl ⟨rfl, rfl⟩)
  | heading level => exact .inl rfl
  | rule => exact .inr (.inl ⟨rfl, rfl⟩)
  | indentedCode =>
    dsimp only
    split
    · next h => exact .inr (.inr ⟨_, rfl, rfl, .inl h⟩)
    · split
      · next h => exact .inr (.inr ⟨_, rfl, rfl, .inr (by simpa using h)⟩)
      · exact .inl rfl
  | fencedCode fence indentation info =>
    rw [hkind] at hfence
    exact absurd hfence (by simp [FrameKind.fence?])
  | table columns head rows =>
    dsimp only
    split
    · exact .inl rfl
    · exact .inr (.inl ⟨rfl, rfl⟩)
  | _ =>
    rw [hkind] at hleaf
    exact absurd hleaf Bool.false_ne_true

variable {top root : Frame} {targets : List (Text × Target)}

/-- With nothing open a line is read by the rule… -/
theorem codeFence?_readLine_of_document (hkind : top.kind = .document)
    (hnext : (readLine ⟨top, [], targets⟩ line).IsFlat) :
    (readLine ⟨top, [], targets⟩ line).codeFence? = FencedCode.open? line := by
  have hread : readLine ⟨top, [], targets⟩ line = (LineState.openAll (line.length + 2)
      (LineState.endsInParagraph ⟨⟨top, [], targets⟩, [], .start line, false⟩) 1
        ⟨⟨top, [], targets⟩, [], .start line, false⟩).addText := rfl
  rw [hread] at hnext ⊢
  refine codeFence?_openAll rfl (by rw [hkind]; rfl) (fun kind hmem => ?_)
    (fun f hf => absurd hf List.not_mem_nil) _ _ _ hnext
  rw [kinds, hkind] at hmem
  rw [List.mem_singleton.1 hmem]
  rfl

/-- …in fenced code it ends the code or belongs to it… -/
theorem codeFence?_readLine_of_fencedCode {fence : Fence} {indentation : Nat} {info : Text}
    (hkind : top.kind = .fencedCode fence indentation info) (hrun : FencedCode.IsRun fence) :
    (readLine ⟨top, [root], targets⟩ line).codeFence? =
      if FencedCode.endedBy fence line then (close ⟨top, [root], targets⟩).codeFence?
      else some fence := by
  have hended := FencedCode.endedBy_eq hrun line
  have hcontinuation : ∀ hasChild, top.continuation hasChild line (.start line) =
      if FencedCode.endedBy fence line then .ends
      else .yes ((Cursor.start line).dropColumns indentation) := by
    intro hasChild
    rw [Frame.continuation, hkind, hended]
  rw [readLine_of_leaf, hcontinuation]
  by_cases hends : FencedCode.endedBy fence line = true
  · rw [if_pos hends, if_pos hends]
  · rw [if_neg hends, if_neg hends]
    dsimp only
    rw [LineState.openAll, if_pos (by rw [hkind]; rfl)]
    have hadded := kinds_addText_of_verbatim (s := ⟨⟨top, [root], targets⟩, [],
      (Cursor.start line).dropColumns indentation, false⟩) rfl hkind
    exact codeFence?_of_kinds (hadded.trans (congrArg (· :: [root.kind]) hkind))

/-- …and behind another leaf it is read by the rule again. -/
theorem codeFence?_readLine_of_leaf (hleaf : top.kind.isLeaf = true) (hfence : top.kind.fence? = none)
    (hroot : root.kind = .document) (hnext : (readLine ⟨top, [root], targets⟩ line).IsFlat) :
    (readLine ⟨top, [root], targets⟩ line).codeFence? = FencedCode.open? line := by
  have hall : ∀ kind ∈ kinds ⟨top, [root], targets⟩, kind.fence? = none := by
    rw [show kinds ⟨top, [root], targets⟩ = [top.kind, .document] from
      congrArg (fun kind => [top.kind, kind]) hroot]
    exact List.forall_mem_cons.2 ⟨hfence, List.forall_mem_singleton.2 rfl⟩
  rw [readLine_of_leaf] at hnext ⊢
  rcases continuation_of_leaf hleaf hfence (!top.done.isEmpty || !([] : List Frame).isEmpty) line with
    h | ⟨h, hplain⟩ | ⟨place, h, hverbatim, hindented⟩ <;> rw [h] at hnext ⊢
  · -- the leaf ends, and the line is read with nothing open
    refine codeFence?_openAll rfl (by rw [hroot]; rfl) ?_ (fun f hf => ?_) _ _ _ hnext
    · rw [kinds, hroot]
      exact List.forall_mem_singleton.2 rfl
    · rwa [List.mem_singleton.1 hf]
  · exact codeFence?_openAll rfl hplain hall (fun f hf => absurd hf List.not_mem_nil) _ _ _ hnext
  · dsimp only
    rw [LineState.openAll, if_pos hverbatim, FencedCode.open?_eq_none_of_indented hindented]
    exact LineState.codeFence?_addText hall fun f hf => absurd hf List.not_mem_nil

/-- **A line at top level is read by the rule of fenced code.** -/
theorem codeFence?_readLine (hflat : d.IsFlat) (hnext : (d.readLine line).IsFlat)
    (hrun : ∀ fence ∈ d.codeFence?, FencedCode.IsRun fence) :
    (d.readLine line).codeFence? = FencedCode.next d.codeFence? line := by
  obtain ⟨top, outer, targets⟩ := d
  rcases hflat with hkinds | ⟨hleaf, houter⟩
  · obtain ⟨hkind, houter⟩ := List.cons.inj hkinds
    dsimp only at hkind houter
    obtain rfl := List.map_eq_nil_iff.1 houter
    have hnone : codeFence? ⟨top, [], targets⟩ = none := by rw [codeFence?, hkind]; rfl
    rw [codeFence?_readLine_of_document hkind hnext, hnone, FencedCode.next]
  · dsimp only at hleaf houter
    obtain ⟨root, rfl, hroot⟩ := List.map_eq_singleton_iff.1 houter
    cases hfence : top.kind.fence? with
    | none =>
      have hnone : codeFence? ⟨top, [root], targets⟩ = none := hfence
      rw [codeFence?_readLine_of_leaf hleaf hfence hroot hnext, hnone, FencedCode.next]
    | some fence =>
      have hsome : codeFence? ⟨top, [root], targets⟩ = some fence := hfence
      obtain ⟨indentation, info, hkind⟩ : ∃ indentation info,
          top.kind = .fencedCode fence indentation info := by
        cases hkind : top.kind <;> rw [hkind] at hfence <;>
          first
          | exact ⟨_, _, by rw [Option.some.inj hfence]⟩
          | exact absurd hfence (by simp [FrameKind.fence?])
      have hclose := kinds_close_of_ne_nil (d := ⟨top, [root], targets⟩) (List.cons_ne_nil _ _)
      have hended : (close ⟨top, [root], targets⟩).codeFence? = none :=
        codeFence?_of_kinds (hclose.trans (congrArg (fun kind => [kind]) hroot))
      rw [codeFence?_readLine_of_fencedCode hkind (hrun fence (by rw [hsome]; rfl)), hsome,
        FencedCode.next, hended]

/-- **The renderer's fenced code at top level is that of the rule.** -/
theorem codeFence?_foldl_readLine {lines : List Text}
    (hflat : ∀ before, before <+: lines → (before.foldl readLine initial).IsFlat) :
    (lines.foldl readLine initial).codeFence? = FencedCode.after none lines := by
  induction lines using List.reverseRecOn with
  | nil => rfl
  | append_singleton lines line ih =>
    have hbefore := ih fun before h => hflat before (h.trans (List.prefix_append _ _))
    have hline := hflat (lines ++ [line]) List.prefix_rfl
    rw [List.foldl_append] at hline ⊢
    rw [List.foldl_cons, List.foldl_nil] at hline ⊢
    rw [codeFence?_readLine (hflat lines (List.prefix_append _ _)) hline, hbefore,
      FencedCode.after_append]
    · rfl
    · rw [hbefore]
      exact FencedCode.isRun_of_after (fun f hf => absurd hf (by simp)) lines

end Draft

end WikiPress.Markdown
