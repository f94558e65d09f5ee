import WikiPress.Proofs.Collapsible.Frames

/-!
# Proofs/Collapsible/Insertion — lines that are one block wherever they stand

    ⟨f⟩ ⟨parent⟩ …    ──lines──▸    ⟨f, block⟩ ⟨parent⟩ …

Lines that the scan reads as one finished block (`IsBlock`) may be put into a text at any place
outside fenced code: the passages of the longer text are those of the shorter one with the block put
in (`inserted_passages`).  Two scans of the lines behind them differ in one frame only, until that
frame is a passage, and then in one passage only.
-/

namespace WikiPress.Collapsible

/-- **A block put into passages**, at whatever depth: between two of them, or inside a run, which is
two runs then. -/
inductive Inserted (block : Passage) : List Passage → List Passage → Prop
  | between (before after : List Passage) :
      Inserted block (before ++ after) (before ++ block :: after)
  | split (before after : List Passage) (first second : Text) :
      Inserted block (before ++ .run (first ++ second) :: after)
        (before ++ .run first :: block :: .run second :: after)
  | inside (before after : List Passage) {marker : Text} {body body' : List Passage}
      (hbody : Inserted block body body') :
      Inserted block (before ++ .block marker body :: after)
        (before ++ .block marker body' :: after)

/-- **Lines that are a block**: the scan adds the block to whatever frame is the innermost one. -/
def IsBlock (lines : List Text) (block : Passage) : Prop :=
  ∀ (f : Frame) (outer : List Frame),
    lines.foldl Scan.step ⟨f, outer, none⟩ = ⟨f.addBlock block, outer, none⟩

section Insertion

variable {block : Passage}

theorem Inserted.append_right {ps qs : List Passage} (h : Inserted block ps qs)
    (rest : List Passage) : Inserted block (ps ++ rest) (qs ++ rest) := by
  cases h with
  | between before after =>
    rw [List.append_assoc, List.append_assoc]
    exact .between before (after ++ rest)
  | split before after first second =>
    rw [List.append_assoc, List.append_assoc]
    exact .split before (after ++ rest) first second
  | inside before after hbody =>
    rw [List.append_assoc, List.append_assoc]
    exact .inside before (after ++ rest) hbody

/-- A block put into a single run, with no run in front of it, comes first. -/
theorem Inserted.of_run {text : Text} {qs : List Passage} (h : Inserted block [.run text] qs)
    (hfirst : ∀ p ∈ qs.head?, p.isRun = false) : qs = [block, .run text] := by
  have hrun : (Passage.run text).isRun = true := rfl
  generalize hps : [Passage.run text] = ps at h
  cases h with
  | between before after =>
    cases before with
    | nil =>
      obtain rfl : [Passage.run text] = after := hps
      rfl
    | cons p before =>
      obtain ⟨rfl, -⟩ := List.cons.inj hps
      exact absurd (hfirst _ rfl) (by simp [hrun])
  | split before after first second =>
    cases before with
    | nil => exact absurd (hfirst _ rfl) (by simp [Passage.isRun])
    | cons p before =>
      obtain ⟨rfl, -⟩ := List.cons.inj hps
      exact absurd (hfirst _ rfl) (by simp [hrun])
  | inside before after =>
    cases before with
    | nil => exact absurd (List.cons.inj hps).1 (by simp)
    | cons p before =>
      obtain ⟨rfl, -⟩ := List.cons.inj hps
      exact absurd (hfirst _ rfl) (by simp [hrun])

/-! ## Frames with one block more -/

/-- **A frame with one block more**: in front of some of the lines that are pending, or among the
finished passages. -/
inductive Wider (block : Passage) : Frame → Frame → Prop
  | pending (f : Frame) (lines : List Text) :
      Wider block { f with pending := lines ++ f.pending }
        { f.addBlock block with pending := lines }
  | done (f : Frame) {done : List Passage} (h : Inserted block f.done.reverse done.reverse) :
      Wider block f { f with done := done }

namespace Wider

variable {f g : Frame}

theorem colons_eq (h : Wider block f g) : f.colons = g.colons := by
  cases h with
  | pending f lines => exact (f.colons_addBlock block).symm
  | done => rfl

theorem marker_eq (h : Wider block f g) : f.marker = g.marker := by
  cases h with
  | pending f lines => exact (f.marker_addBlock block).symm
  | done => rfl

theorem addBlock (f : Frame) (block : Passage) : Wider block f (f.addBlock block) := by
  have h : Wider block _ _ := .pending f []
  rwa [List.nil_append, ← f.pending_addBlock block] at h

theorem addLine (h : Wider block f g) (line : Text) :
    Wider block (f.addLine line) (g.addLine line) := by
  cases h with
  | pending f lines => exact .pending f (line :: lines)
  | done f h => exact .done (f.addLine line) h

/-- A block in front of the lines that are pending. -/
theorem inserted_pending (f : Frame) (block : Passage) (lines : List Text) :
    Inserted block { f with pending := lines ++ f.pending }.passages
      { f.addBlock block with pending := lines }.passages := by
  by_cases hlines : lines = []
  · have hwider : { f.addBlock block with pending := [] }.passages = f.passages ++ [block] := by
      rw [← f.pending_addBlock block]
      exact f.passages_addBlock block
    have h : Inserted block _ _ := .between f.passages []
    rw [List.append_nil] at h
    rwa [hlines, hwider]
  · have hwider : { f.addBlock block with pending := lines }.passages =
        f.passages ++ [block] ++ [.run lines.reverse.flatten] := by
      rw [← f.passages_addBlock block]
      exact Frame.passages_of_pending (f.pending_addBlock block) hlines
    rw [hwider, List.append_assoc]
    by_cases hpending : f.pending = []
    · rw [hpending, List.append_nil, Frame.passages_of_pending hpending hlines]
      exact .between _ _
    · have hnarrow : { f with pending := lines ++ f.pending }.passages =
          f.done.reverse ++ [.run (f.pending.reverse.flatten ++ lines.reverse.flatten)] := by
        rw [Frame.passages, Frame.flush_of_pending_ne_nil (by simp [hpending]),
          List.reverse_cons, List.reverse_append, List.flatten_append]
      have hdone : f.passages = f.done.reverse ++ [.run f.pending.reverse.flatten] := by
        rw [Frame.passages, Frame.flush_of_pending_ne_nil hpending, List.reverse_cons]
      rw [hnarrow, hdone, List.append_assoc]
      exact .split _ [] _ _

/-- **The passages of a frame with one block more** are those of the frame with the block put in. -/
theorem passages (h : Wider block f g) : Inserted block f.passages g.passages := by
  cases h with
  | pending f lines => exact inserted_pending f block lines
  | @done f done h =>
    by_cases hpending : f.pending = []
    · rwa [Frame.passages, Frame.passages, Frame.flush_of_pending hpending,
        Frame.flush_of_pending (f := { f with done := done }) hpending]
    · rw [Frame.passages, Frame.passages, Frame.flush_of_pending_ne_nil hpending,
        Frame.flush_of_pending_ne_nil (f := { f with done := done }) hpending, List.reverse_cons,
        List.reverse_cons]
      exact h.append_right _

theorem of_passages (hcolons : f.colons = g.colons) (hmarker : f.marker = g.marker)
    (hf : f.pending = []) (hg : g.pending = []) (h : Inserted block f.passages g.passages) :
    Wider block f g := by
  obtain ⟨colons, marker, done, pending⟩ := f
  obtain ⟨colons', marker', done', pending'⟩ := g
  dsimp only at hcolons hmarker hf hg
  subst hcolons hmarker hf hg
  exact .done ⟨colons, marker, done, []⟩ h

theorem flush (h : Wider block f g) : Wider block f.flush g.flush :=
  of_passages (by simpa using h.colons_eq) (by simpa using h.marker_eq) f.pending_flush
    g.pending_flush (by simpa using h.passages)

/-- A block behind. -/
theorem addBlock_right (h : Wider block f g) (other : Passage) :
    Wider block (f.addBlock other) (g.addBlock other) := by
  refine of_passages (by simpa using h.colons_eq) (by simpa using h.marker_eq)
    (f.pending_addBlock other) (g.pending_addBlock other) ?_
  rw [Frame.passages_addBlock, Frame.passages_addBlock]
  exact h.passages.append_right _

/-- **A frame that ends**: the block is put into its passages, and so into those of its parent. -/
theorem toBlock (h : Wider block f g) (parent : Frame) :
    Wider block (parent.addBlock f.toBlock) (parent.addBlock g.toBlock) := by
  refine of_passages (by simp) (by simp) (parent.pending_addBlock _) (parent.pending_addBlock _) ?_
  rw [Frame.passages_addBlock, Frame.passages_addBlock, Frame.toBlock, Frame.toBlock, h.marker_eq]
  exact .inside _ [] h.passages

end Wider

/-! ## Scans with one block more -/

/-- **One of the open frames has one block more**, and all others are the same. -/
inductive WiderAt (block : Passage) : List Frame → List Frame → Prop
  | here {f g : Frame} (h : Wider block f g) (outer : List Frame) :
      WiderAt block (f :: outer) (g :: outer)
  | outside (f : Frame) {outer outer' : List Frame} (h : WiderAt block outer outer') :
      WiderAt block (f :: outer) (f :: outer')

/-- The frames of a scan, the innermost first. -/
def Scan.frames (s : Scan) : List Frame := s.top :: s.outer

/-- When the innermost frame ends, the block is in its parent or further out. -/
theorem WiderAt.close {f g parent : Frame} {outer outer' : List Frame}
    (h : WiderAt block (f :: parent :: outer) (g :: outer')) :
    ∃ parent' rest, outer' = parent' :: rest ∧
      WiderAt block (parent.addBlock f.toBlock :: outer) (parent'.addBlock g.toBlock :: rest) := by
  cases h with
  | here h => exact ⟨parent, outer, rfl, .here (h.toBlock parent) outer⟩
  | outside _ h =>
    cases h with
    | here h => exact ⟨_, outer, rfl, .here (h.addBlock_right _) outer⟩
    | outside _ h => exact ⟨parent, _, rfl, .outside _ h⟩

theorem WiderAt.closeAll {f g : Frame} {outer outer' : List Frame}
    (h : WiderAt block (f :: outer) (g :: outer')) :
    Inserted block (closeAll f outer) (closeAll g outer') := by
  induction outer generalizing f g outer' with
  | nil =>
    cases h with
    | here h => exact h.passages
    | outside _ h => cases h
  | cons parent outer ih =>
    obtain ⟨parent', rest, rfl, hclosed⟩ := h.close
    rw [Collapsible.closeAll, Collapsible.closeAll]
    exact ih hclosed

/-- **A line keeps the difference to one block.** -/
theorem WiderAt.step {s t : Scan} (h : WiderAt block s.frames t.frames) (hfence : s.fence = t.fence)
    (line : Text) : WiderAt block (s.step line).frames (t.step line).frames := by
  obtain ⟨f, outer, fence⟩ := s
  obtain ⟨g, outer', fence'⟩ := t
  obtain rfl : fence = fence' := hfence
  rw [Scan.frames, Scan.frames] at h
  rcases plain_or_marker fence line with hplain | ⟨rfl, hcovers, colons, rest, hmarker⟩
  · rw [step_of_plain hplain, step_of_plain hplain]
    cases h with
    | here h => exact .here (h.addLine line) outer
    | outside _ h => exact .outside _ h
  have henclosing : enclosing f outer = enclosing g outer' := by
    cases h with
    | here h =>
      cases outer with
      | nil => rfl
      | cons parent outer => exact congrArg some h.colons_eq
    | outside _ h => cases h <;> rfl
  cases hcloses : closes (enclosing f outer) colons rest with
  | false =>
    rw [step_of_opening hcovers hmarker hcloses,
      step_of_opening hcovers hmarker (henclosing ▸ hcloses)]
    cases h with
    | here h => exact .outside _ (.here h.flush outer)
    | outside _ h => exact .outside _ (.outside _ h)
  | true =>
    cases outer with
    | nil => exact absurd hcloses Bool.false_ne_true
    | cons parent outer =>
      obtain ⟨parent', outer', rfl, hclosed⟩ := h.close
      have hcolons : some f.colons = some g.colons := henclosing
      have hcloses' : closes (some g.colons) colons rest = true := hcolons ▸ hcloses
      rw [step_of_closing hcovers hmarker hcloses, step_of_closing hcovers hmarker hcloses']
      exact hclosed

theorem WiderAt.foldl (lines : List Text) {s t : Scan} (h : WiderAt block s.frames t.frames)
    (hfence : s.fence = t.fence) :
    WiderAt block (lines.foldl Scan.step s).frames (lines.foldl Scan.step t).frames := by
  induction lines generalizing s t with
  | nil => exact h
  | cons line lines ih => exact ih (h.step hfence line) (by rw [fence_step, fence_step, hfence])

theorem fence_foldl (lines : List Text) (s : Scan) :
    (lines.foldl Scan.step s).fence = Fence.after s.fence (lines.map withoutLineEnd) := by
  induction lines generalizing s with
  | nil => rfl
  | cons line lines ih => rw [List.foldl_cons, ih, fence_step, List.map_cons, Fence.after_cons]

/-- **Lines that are a block, put into a text** outside fenced code, put the block into its
passages. -/
theorem inserted_passages {lines before after : List Text} {t t' : Text} (h : IsBlock lines block)
    (ht : Text.completeLines t = before ++ after)
    (ht' : Text.completeLines t' = before ++ (lines ++ after))
    (hfence : Fence.after none (before.map withoutLineEnd) = none) :
    Inserted block (passages t) (passages t') := by
  rw [passages, passages, ht, ht', List.foldl_append, List.foldl_append, List.foldl_append]
  rcases hs : before.foldl Scan.step ⟨.empty 0 [], [], none⟩ with ⟨f, outer, fence⟩
  obtain rfl : fence = none := by
    have hbefore := fence_foldl before ⟨.empty 0 [], [], none⟩
    rwa [hs, hfence] at hbefore
  rw [h f outer]
  have hwider : WiderAt block (Scan.frames ⟨f, outer, none⟩)
      (Scan.frames ⟨f.addBlock block, outer, none⟩) := .here (.addBlock f block) outer
  exact (hwider.foldl after rfl).closeAll

end Insertion

end WikiPress.Collapsible
