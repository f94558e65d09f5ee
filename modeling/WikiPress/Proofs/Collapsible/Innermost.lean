import WikiPress.Proofs.Collapsible.Conservation

/-!
# Proofs/Collapsible/Innermost — which block a closing line ends

    open blocks, inside out     ⟨4 colons⟩ ⟨3 colons⟩       and a line of three colons
    by the rule                 ends ⟨3⟩, and with it ⟨4⟩
    by the scan                 ⟨new⟩ ⟨4⟩ ⟨3⟩

By the rule, a marker line with nothing after its colons ends the innermost block that was not opened
with more colons (`endInnermost?`), and it opens a block only where there is none.  The scan asks the
innermost block alone: a line that could end a block further out only is *overlooked*
(`Scan.Overlooks`) and opens a block.  Every other line does what the rule says, and a text is read by
the rule exactly if none of its lines is overlooked (`closes_innermost_iff`): what an
overlooked line opens stands deeper than anything the rule puts in its place, whatever follows.
-/

namespace WikiPress.Collapsible

/-! ## The rule -/

/-- The colons of the open blocks, from the inside out.  The outermost frame is the whole text. -/
def openColons (top : Frame) (outer : List Frame) : List Nat :=
  (top :: outer).dropLast.map Frame.colons

/-- **End the innermost block that has at most so many colons**, and the blocks inside it. -/
def endInnermost? (colons : Nat) : (top : Frame) → (outer : List Frame) →
    Option (Frame × List Frame)
  | _, [] => none
  | top, parent :: outer =>
    if top.colons ≤ colons then some (parent.addBlock top.toBlock, outer)
    else endInnermost? colons (parent.addBlock top.toBlock) outer

namespace Scan

/-- The state behind a line that opens a block. -/
def opened (s : Scan) (colons : Nat) (rest : Text) : Scan :=
  ⟨.empty colons rest, s.top.flush :: s.outer, none⟩

/-- **Read one line by the rule.** -/
def ruledStep (s : Scan) (line : Text) : Scan :=
  match row s.fence line with
  | .plain _ => ⟨s.top.addLine line, s.outer, Fence.next s.fence (withoutLineEnd line)⟩
  | .marker colons rest =>
    match (if Text.allBlank rest then endInnermost? colons s.top s.outer else none) with
    | some (top, outer) => ⟨top, outer, none⟩
    | none => s.opened colons rest

/-- **A line is overlooked**: it has nothing after its colons and fewer of them than the innermost
block, but no fewer than another open block. -/
def Overlooks (s : Scan) (line : Text) : Prop :=
  ∃ colons rest, row s.fence line = .marker colons rest ∧ Text.allBlank rest = true ∧
    colons < s.top.colons ∧ ∃ n ∈ openColons s.top s.outer, n ≤ colons

/-- The passages of a scan that ends. -/
def finish (s : Scan) : List Passage := closeAll s.top s.outer

end Scan

/-- The scan of no lines. -/
def startScan : Scan := ⟨.empty 0 [], [], none⟩

/-- The scan of some lines. -/
def scanned (lines : List Text) : Scan := lines.foldl Scan.step startScan

/-- **The passages of a text by the rule.** -/
def ruledPassages (t : Text) : List Passage :=
  ((Text.completeLines t).foldl Scan.ruledStep startScan).finish

section Rule

variable {colons : Nat} {top : Frame} {outer : List Frame} {ended : Frame × List Frame}

theorem openColons_cons (top parent : Frame) (outer : List Frame) :
    openColons top (parent :: outer) = top.colons :: openColons parent outer := rfl

@[simp] theorem openColons_addBlock (f : Frame) (block : Passage) (outer : List Frame) :
    openColons (f.addBlock block) outer = openColons f outer := by
  cases outer with
  | nil => rfl
  | cons parent outer => rw [openColons_cons, openColons_cons, Frame.colons_addBlock]

/-- No block is ended where all have more colons. -/
theorem endInnermost?_eq_none_iff :
    endInnermost? colons top outer = none ↔ ∀ n ∈ openColons top outer, colons < n := by
  induction outer generalizing top with
  | nil => exact iff_of_true rfl nofun
  | cons parent outer ih =>
    rw [endInnermost?, openColons_cons, List.forall_mem_cons]
    split
    · next hle => exact iff_of_false (by simp) fun h => absurd h.1 (Nat.not_lt.2 hle)
    · next hlt => rw [ih, openColons_addBlock, and_iff_right (Nat.lt_of_not_le hlt)]

/-- **The block that is ended is the innermost one with few enough colons**, and what is left open are
the blocks around it. -/
theorem exists_endInnermost? {inner around : List Nat} {n : Nat}
    (h : openColons top outer = inner ++ n :: around) (hinner : ∀ m ∈ inner, colons < m)
    (hle : n ≤ colons) :
    ∃ ended, endInnermost? colons top outer = some ended ∧
      openColons ended.1 ended.2 = around := by
  induction outer generalizing top inner with
  | nil => exact absurd h (by simp [openColons])
  | cons parent outer ih =>
    rw [openColons_cons] at h
    rw [endInnermost?]
    cases inner with
    | nil =>
      obtain ⟨rfl, rfl⟩ := List.cons.inj h
      exact ⟨_, if_pos hle, openColons_addBlock _ _ _⟩
    | cons m inner =>
      obtain ⟨rfl, hrest⟩ := List.cons.inj h
      obtain ⟨hlt, hinner⟩ := List.forall_mem_cons.1 hinner
      rw [if_neg (Nat.not_le.2 hlt)]
      exact ih (by rwa [openColons_addBlock]) hinner

theorem length_lt_of_endInnermost? (h : endInnermost? colons top outer = some ended) :
    ended.2.length < outer.length := by
  induction outer generalizing top with
  | nil => exact absurd h (by simp [endInnermost?])
  | cons parent outer ih =>
    rw [endInnermost?] at h
    split at h
    · obtain rfl := Option.some.inj h
      exact Nat.lt_succ_self _
    · exact (ih h).trans (Nat.lt_succ_self _)

/-- A frame that a block was added to has no pending lines. -/
theorem pending_of_endInnermost? (h : endInnermost? colons top outer = some ended) :
    ended.1.pending = [] := by
  induction outer generalizing top with
  | nil => exact absurd h (by simp [endInnermost?])
  | cons parent outer ih =>
    rw [endInnermost?] at h
    split at h
    · obtain rfl := Option.some.inj h
      exact Frame.pending_addBlock _ _
    · exact ih h

end Rule

/-! ## One line -/

namespace Scan

variable {s : Scan} {line : Text} {colons : Nat} {rest : Text}

/-- Every line is plain, or a marker line outside fenced code. -/
theorem row_cases (s : Scan) (line : Text) :
    row s.fence line = .plain line ∨ s.fence = none ∧ ∃ colons rest,
      row none line = .marker colons rest ∧
      Fence.covers none (withoutLineEnd line) = false ∧
      markerLine? (withoutLineEnd line) = some (colons, rest) := by
  rcases plain_or_marker s.fence line with hplain | ⟨hfence, hcovers, colons, rest, hmarker⟩
  · exact .inl (row_eq_plain_iff.2 hplain)
  · exact .inr ⟨hfence, colons, rest, row_eq_marker_iff.2 ⟨hcovers, hmarker⟩, hcovers, hmarker⟩

theorem step_of_plain_row (h : row s.fence line = .plain line) :
    s.step line = ⟨s.top.addLine line, s.outer, Fence.next s.fence (withoutLineEnd line)⟩ :=
  step_of_plain (row_eq_plain_iff.1 h)

theorem ruledStep_of_plain_row (h : row s.fence line = .plain line) :
    s.ruledStep line = ⟨s.top.addLine line, s.outer, Fence.next s.fence (withoutLineEnd line)⟩ := by
  rw [ruledStep, h]

theorem Overlooks.exists_row (h : s.Overlooks line) :
    ∃ colons rest, row s.fence line = .marker colons rest :=
  let ⟨colons, rest, hrow, _⟩ := h
  ⟨colons, rest, hrow⟩

/-- An overlooked line opens a block. -/
theorem step_of_overlooks (h : s.Overlooks line) (hrow : row s.fence line = .marker colons rest) :
    s.step line = s.opened colons rest := by
  obtain ⟨top, outer, fence⟩ := s
  obtain ⟨colons', rest', hrow', hblank, hlt, -⟩ := h
  obtain ⟨rfl, rfl⟩ := Row.marker.inj (hrow.symm.trans hrow')
  obtain ⟨hcovers, hmarker⟩ := row_eq_marker_iff.1 hrow
  obtain ⟨rfl, -⟩ := Fence.covers_eq_false_iff.1 hcovers
  refine step_of_opening hcovers hmarker ?_
  cases outer with
  | nil => rfl
  | cons parent outer => simpa [closes, enclosing] using fun _ => hlt

theorem ruledStep_of_ended {ended : Frame × List Frame}
    (hrow : row s.fence line = .marker colons rest) (hblank : Text.allBlank rest = true)
    (hended : endInnermost? colons s.top s.outer = some ended) :
    s.ruledStep line = ⟨ended.1, ended.2, none⟩ := by
  rw [ruledStep, hrow]
  dsimp only
  rw [if_pos hblank, hended]

/-- …and by the rule it ends one. -/
theorem ruledStep_of_overlooks (h : s.Overlooks line) :
    ∃ colons ended, endInnermost? colons s.top s.outer = some ended ∧
      s.ruledStep line = ⟨ended.1, ended.2, none⟩ := by
  obtain ⟨colons, rest, hrow, hblank, -, n, hn, hle⟩ := h
  obtain ⟨ended, hended⟩ := Option.ne_none_iff_exists'.1 fun hnone =>
    absurd (endInnermost?_eq_none_iff.1 hnone n hn) (Nat.not_lt.2 hle)
  exact ⟨colons, ended, hended, ruledStep_of_ended hrow hblank hended⟩

/-- What is overlooked is the innermost block that could be ended, where there are blocks inside
it. -/
theorem overlooks_iff {inner around : List Nat} {n : Nat}
    (hrow : row s.fence line = .marker colons rest) (hblank : Text.allBlank rest = true)
    (hcolons : openColons s.top s.outer = inner ++ n :: around) (hinner : ∀ m ∈ inner, colons < m)
    (hle : n ≤ colons) : s.Overlooks line ↔ inner ≠ [] := by
  have htop : (inner ++ n :: around).head? = some s.top.colons := by
    rw [← hcolons]
    cases houter : s.outer with
    | nil =>
      rw [houter] at hcolons
      exact absurd hcolons (by simp [openColons])
    | cons parent outer => rfl
  cases inner with
  | nil =>
    obtain rfl : n = s.top.colons := Option.some.inj htop
    refine iff_of_false (fun h => ?_) (fun h => h rfl)
    obtain ⟨colons', rest', hrow', -, hlt, -⟩ := h
    obtain ⟨rfl, -⟩ := Row.marker.inj (hrow.symm.trans hrow')
    exact absurd hle (Nat.not_le.2 hlt)
  | cons m inner =>
    obtain rfl : m = s.top.colons := Option.some.inj htop
    exact iff_of_true ⟨colons, rest, hrow, hblank, hinner _ List.mem_cons_self, n,
      by simp [hcolons], hle⟩ (List.cons_ne_nil _ _)

/-- **A line does what the rule says exactly if it is not overlooked.** -/
theorem step_eq_ruledStep_iff (s : Scan) (line : Text) :
    s.step line = s.ruledStep line ↔ ¬ s.Overlooks line := by
  by_cases hoverlooks : s.Overlooks line
  · refine iff_of_false (fun heq => ?_) (not_not_intro hoverlooks)
    obtain ⟨colons, rest, hrow⟩ := hoverlooks.exists_row
    obtain ⟨colons', ended, hended, hruled⟩ := ruledStep_of_overlooks hoverlooks
    rw [step_of_overlooks hoverlooks hrow, hruled, opened] at heq
    have hlength := congrArg (fun s : Scan => s.outer.length) heq
    have hlt := length_lt_of_endInnermost? hended
    simp only [List.length_cons] at hlength
    omega
  · refine iff_of_true ?_ hoverlooks
    rcases row_cases s line with hplain | ⟨hfence, colons, rest, hrow, hcovers, hmarker⟩
    · rw [step_of_plain_row hplain, ruledStep_of_plain_row hplain]
    · obtain ⟨top, outer, fence⟩ := s
      obtain rfl : fence = none := hfence
      rw [ruledStep, hrow]
      dsimp only
      cases hcloses : closes (enclosing top outer) colons rest with
      | true =>
        cases outer with
        | nil => exact absurd hcloses Bool.false_ne_true
        | cons parent outer =>
          obtain ⟨hblank, hle⟩ : Text.allBlank rest = true ∧ top.colons ≤ colons := by
            simpa [closes, enclosing] using hcloses
          rw [step_of_closing hcovers hmarker hcloses, if_pos hblank, endInnermost?, if_pos hle]
      | false =>
        rw [step_of_opening hcovers hmarker hcloses]
        by_cases hblank : Text.allBlank rest = true
        · -- what the rule would end is overlooked
          have hnone : endInnermost? colons top outer = none := by
            refine endInnermost?_eq_none_iff.2 fun n hn => Nat.lt_of_not_le fun hle => ?_
            cases outer with
            | nil => exact absurd hn List.not_mem_nil
            | cons parent outer =>
              have hlt : colons < top.colons := by simpa [closes, enclosing, hblank] using hcloses
              exact hoverlooks ⟨colons, rest, hrow, hblank, hlt, n, hn, hle⟩
          rw [if_pos hblank, hnone]
          rfl
        · rw [if_neg hblank]
          rfl

/-- A line opens a block where all open blocks have more colons. -/
theorem step_of_no_shorter (hrow : row s.fence line = .marker colons rest)
    (hall : ∀ n ∈ openColons s.top s.outer, colons < n) : s.step line = s.opened colons rest := by
  have hnone : ¬ s.Overlooks line := by
    rintro ⟨colons', rest', hrow', -, -, n, hn, hle⟩
    obtain ⟨rfl, -⟩ := Row.marker.inj (hrow.symm.trans hrow')
    exact absurd (hall n hn) (Nat.not_lt.2 hle)
  rw [(step_eq_ruledStep_iff s line).2 hnone, ruledStep, hrow]
  dsimp only
  rw [endInnermost?_eq_none_iff.2 hall, ite_self]

end Scan

/-! ## How deep the parts of a text stand -/

mutual

/-- The depths of a passage and of the passages in it, in document order. -/
def depths (d : Nat) : Passage → List Nat
  | .run _ => [d]
  | .block _ body => d :: depthsAll (d + 1) body

/-- The depths of passages and of those in them, in document order. -/
def depthsAll (d : Nat) : List Passage → List Nat
  | [] => []
  | p :: ps => depths d p ++ depthsAll d ps

end

/-- The depths of what stands in front of the innermost frame. -/
def depthsAround : List Frame → List Nat
  | [] => []
  | f :: outer => depthsAround outer ++ depthsAll outer.length f.passages ++ [outer.length]

/-- **The depths of what a scan has read.** -/
def Scan.depths (s : Scan) : List Nat :=
  depthsAround s.outer ++ depthsAll s.outer.length s.top.passages

theorem depthsAll_append (d : Nat) (ps qs : List Passage) :
    depthsAll d (ps ++ qs) = depthsAll d ps ++ depthsAll d qs := by
  induction ps with
  | nil => rfl
  | cons p ps ih => rw [List.cons_append, depthsAll, ih, depthsAll, List.append_assoc]

theorem depthsAll_run (d : Nat) (ps : List Passage) (text : Text) :
    depthsAll d (ps ++ [.run text]) = depthsAll d ps ++ [d] := depthsAll_append d ps _

theorem depthsAll_block (d : Nat) (ps : List Passage) (marker : Text) (body : List Passage) :
    depthsAll d (ps ++ [.block marker body]) =
      depthsAll d ps ++ d :: depthsAll (d + 1) body := by
  rw [depthsAll_append, depthsAll, depthsAll, List.append_nil, depths]

namespace Scan

variable {top parent : Frame} {outer : List Frame} {fence fence' : Option Fence} {s : Scan}
  {line : Text}

/-- Ending a block moves nothing. -/
theorem depths_ended :
    depths ⟨parent.addBlock top.toBlock, outer, fence⟩ = depths ⟨top, parent :: outer, fence'⟩ := by
  rw [depths, depths, Frame.passages_addBlock, Frame.toBlock, depthsAll_block, depthsAround,
    List.length_cons, List.append_assoc, List.append_assoc, List.singleton_append]

theorem depths_finish (s : Scan) : depthsAll 0 s.finish = s.depths := by
  obtain ⟨top, outer, fence⟩ := s
  rw [finish]
  induction outer generalizing top with
  | nil => rfl
  | cons parent outer ih => rw [closeAll, ih, depths_ended]

theorem depths_endInnermost {colons : Nat} {ended : Frame × List Frame}
    (h : endInnermost? colons top outer = some ended) :
    depths ⟨ended.1, ended.2, fence⟩ = depths ⟨top, outer, fence'⟩ := by
  induction outer generalizing top with
  | nil => exact absurd h (by simp [endInnermost?])
  | cons parent outer ih =>
    rw [endInnermost?] at h
    split at h
    · obtain rfl := Option.some.inj h
      exact depths_ended
    · rw [ih h, depths_ended]

/-- A block that is opened stands at the depth of the frame it is opened in. -/
theorem depths_opened (s : Scan) (colons : Nat) (rest : Text) :
    (s.opened colons rest).depths = s.depths ++ [s.outer.length] := by
  rw [opened, depths, depthsAround, Frame.passages_flush]
  exact List.append_nil _

/-- A plain line begins a run there, -/
theorem depths_addLine (h : top.pending = []) :
    depths ⟨top.addLine line, outer, fence⟩ = depths ⟨top, outer, fence'⟩ ++ [outer.length] := by
  have hpassages : (top.addLine line).passages = top.passages ++ [.run [line].reverse.flatten] := by
    rw [← Frame.passages_of_pending h (List.cons_ne_nil line []), Frame.addLine, h]
  rw [depths, hpassages, depthsAll_run, ← List.append_assoc, depths]

/-- …or belongs to the run before it. -/
theorem depths_addLine_of_pending (h : top.pending ≠ []) :
    depths ⟨top.addLine line, outer, fence⟩ = depths ⟨top, outer, fence'⟩ := by
  have hadded : (top.addLine line).pending ≠ [] := List.cons_ne_nil _ _
  rw [depths, depths, Frame.passages, Frame.passages, Frame.flush_of_pending_ne_nil h,
    Frame.flush_of_pending_ne_nil hadded, List.reverse_cons, List.reverse_cons, depthsAll_run,
    depthsAll_run]
  rfl

theorem depths_prefix_addLine :
    depths ⟨top, outer, fence'⟩ <+: depths ⟨top.addLine line, outer, fence⟩ := by
  by_cases h : top.pending = []
  · have hadded : depths ⟨top.addLine line, outer, fence⟩ =
        depths ⟨top, outer, fence'⟩ ++ [outer.length] := depths_addLine h
    rw [hadded]
    exact List.prefix_append _ _
  · exact (depths_addLine_of_pending h).symm ▸ List.prefix_rfl

/-- **A line adds to what has been read**, by the rule, -/
theorem depths_prefix_ruledStep (s : Scan) (line : Text) :
    s.depths <+: (s.ruledStep line).depths := by
  obtain ⟨top, outer, fence⟩ := s
  rw [ruledStep]
  split
  · exact depths_prefix_addLine
  · next colons rest _ =>
    split
    · next ended hended =>
      split at hended
      · exact (depths_endInnermost hended).symm ▸ List.prefix_rfl
      · exact absurd hended (by simp)
    · rw [depths_opened]
      exact List.prefix_append _ _

/-- …and by the scan. -/
theorem depths_prefix_step (s : Scan) (line : Text) : s.depths <+: (s.step line).depths := by
  by_cases hoverlooks : s.Overlooks line
  · obtain ⟨colons, rest, hrow⟩ := hoverlooks.exists_row
    rw [step_of_overlooks hoverlooks hrow, depths_opened]
    exact List.prefix_append _ _
  · rw [(step_eq_ruledStep_iff s line).2 hoverlooks]
    exact depths_prefix_ruledStep s line

theorem depths_prefix_foldl {step : Scan → Text → Scan}
    (h : ∀ s line, s.depths <+: (step s line).depths) (lines : List Text) (s : Scan) :
    s.depths <+: (lines.foldl step s).depths := by
  induction lines generalizing s with
  | nil => exact List.prefix_rfl
  | cons line lines ih => exact (h s line).trans (ih _)

/-- **Behind a block that ended, nothing stands deeper than that block**: what comes next stands in
the frame around it or further out. -/
theorem depths_foldl_ruledStep (h : s.top.pending = []) (lines : List Text) :
    (lines.foldl ruledStep s).depths = s.depths ∨
      ∃ d ≤ s.outer.length, s.depths ++ [d] <+: (lines.foldl ruledStep s).depths := by
  induction lines generalizing s with
  | nil => exact .inl rfl
  | cons line lines ih =>
    have hnext : (s.ruledStep line).depths = s.depths ++ [s.outer.length] →
        ∃ d ≤ s.outer.length, s.depths ++ [d] <+: ((line :: lines).foldl ruledStep s).depths :=
      fun heq => ⟨_, le_rfl, heq ▸ depths_prefix_foldl depths_prefix_ruledStep lines _⟩
    obtain ⟨top, outer, fence⟩ := s
    cases hrow : row fence line with
    | plain text =>
      refine .inr (hnext ?_)
      rw [ruledStep, hrow]
      exact depths_addLine h
    | marker colons rest =>
      cases hended : (if Text.allBlank rest then endInnermost? colons top outer else none) with
      | none =>
        refine .inr (hnext ?_)
        rw [ruledStep, hrow]
        dsimp only
        rw [hended]
        exact depths_opened _ colons rest
      | some ended =>
        have hstep : ruledStep ⟨top, outer, fence⟩ line = ⟨ended.1, ended.2, none⟩ := by
          rw [ruledStep, hrow]
          dsimp only
          rw [hended]
        split at hended
        · have hsame : depths ⟨ended.1, ended.2, none⟩ = depths ⟨top, outer, fence⟩ :=
            depths_endInnermost hended
          rw [List.foldl_cons, hstep, ← hsame]
          refine (ih (pending_of_endInnermost? hended)).imp_right ?_
          rintro ⟨d, hd, hprefix⟩
          exact ⟨d, hd.trans (length_lt_of_endInnermost? hended).le, hprefix⟩
        · exact absurd hended (by simp)

/-- **Behind an overlooked line the scan and the rule never agree again.** -/
theorem finish_ne_of_overlooks (h : s.Overlooks line) (lines : List Text) :
    (lines.foldl step (s.step line)).finish ≠ (lines.foldl ruledStep (s.ruledStep line)).finish := by
  intro heq
  obtain ⟨colons, rest, hrow⟩ := h.exists_row
  obtain ⟨colons', ended, hended, hruled⟩ := ruledStep_of_overlooks h
  have hdepths := congrArg (depthsAll 0) heq
  rw [depths_finish, depths_finish] at hdepths
  have hscan : s.depths ++ [s.outer.length] <+: (lines.foldl step (s.step line)).depths := by
    have hprefix := depths_prefix_foldl depths_prefix_step lines (s.step line)
    rw [step_of_overlooks h hrow, depths_opened] at hprefix
    rwa [step_of_overlooks h hrow]
  have hsame : depths ⟨ended.1, ended.2, none⟩ = s.depths :=
    depths_endInnermost hended
  have hlt := length_lt_of_endInnermost? hended
  rw [hdepths, hruled] at hscan
  rcases depths_foldl_ruledStep (s := ⟨ended.1, ended.2, none⟩) (pending_of_endInnermost? hended)
    lines with hnone | ⟨d, hd, hrule⟩
  · rw [hnone, hsame] at hscan
    have hlength := hscan.length_le
    rw [List.length_append, List.length_singleton] at hlength
    omega
  · rw [hsame] at hrule
    have hlists := List.prefix_of_prefix_length_le hscan hrule (by simp)
    have hd' : s.outer.length = d := by simpa using hlists
    dsimp only at hd
    omega

theorem finish_foldl_eq_iff (s : Scan) (lines : List Text) :
    (lines.foldl step s).finish = (lines.foldl ruledStep s).finish ↔
      ∀ before line behind, lines = before ++ line :: behind →
        ¬ (before.foldl step s).Overlooks line := by
  induction lines generalizing s with
  | nil => exact iff_of_true rfl fun before line behind h => absurd h (by simp)
  | cons line lines ih =>
    rw [List.foldl_cons, List.foldl_cons]
    by_cases hoverlooks : s.Overlooks line
    · exact iff_of_false (finish_ne_of_overlooks hoverlooks lines) fun h =>
        h [] line lines rfl hoverlooks
    · rw [← (step_eq_ruledStep_iff s line).2 hoverlooks, ih]
      constructor
      · intro h before line' behind hlines
        cases before with
        | nil =>
          obtain ⟨rfl, -⟩ := List.cons.inj hlines
          exact hoverlooks
        | cons first before =>
          obtain ⟨rfl, hrest⟩ := List.cons.inj hlines
          exact h before line' behind hrest
      · rintro h before line' behind rfl
        exact h (line :: before) line' behind rfl

end Scan

/-! ## Whole texts -/

/-- **When a closing line follows the rule.**  A marker line with nothing after its colons opens a
block where all open blocks have more colons.  Otherwise it ends the innermost block that has not,
with the blocks inside it, exactly if there are none inside it; where there are, it opens a block.  A
text is read by the rule exactly if none of its lines is overlooked in this way. -/
theorem closes_innermost_iff (t : Text) :
    (∀ before line behind, Text.completeLines t = before ++ line :: behind →
      ∀ colons rest, row (scanned before).fence line = .marker colons rest →
        Text.allBlank rest = true →
      ((∀ n ∈ openColons (scanned before).top (scanned before).outer, colons < n) →
        (scanned before).step line = (scanned before).opened colons rest) ∧
      ∀ inner n around,
        openColons (scanned before).top (scanned before).outer = inner ++ n :: around →
        (∀ m ∈ inner, colons < m) → n ≤ colons →
          ∃ ended, endInnermost? colons (scanned before).top (scanned before).outer = some ended ∧
            openColons ended.1 ended.2 = around ∧
            ((scanned before).step line = ⟨ended.1, ended.2, none⟩ ↔ inner = []) ∧
            (inner ≠ [] → (scanned before).step line = (scanned before).opened colons rest)) ∧
    (passages t = ruledPassages t ↔
      ∀ before line behind, Text.completeLines t = before ++ line :: behind →
        ¬ (scanned before).Overlooks line) := by
  refine ⟨fun before line behind _ colons rest hrow hblank => ⟨fun hall => ?_, ?_⟩,
    Scan.finish_foldl_eq_iff startScan (Text.completeLines t)⟩
  · exact Scan.step_of_no_shorter hrow hall
  · intro inner n around hcolons hinner hle
    obtain ⟨ended, hended, haround⟩ := exists_endInnermost? hcolons hinner hle
    have hruled := Scan.ruledStep_of_ended hrow hblank hended
    have hoverlooks := Scan.overlooks_iff hrow hblank hcolons hinner hle
    refine ⟨ended, hended, haround, ?_, fun hne => ?_⟩
    · rw [← hruled, Scan.step_eq_ruledStep_iff, hoverlooks, not_not]
    · exact Scan.step_of_overlooks (hoverlooks.2 hne) hrow

/-- **A block that was opened with more colons hides the block around it** from its closing line. -/
theorem passages_ne_ruledPassages :
    passages (lit "::: a\n:::: b\n:::\nx\n") =
      [.block (lit " a") [.block (lit " b") [.block [] [.run (lit "x\n")]]]] ∧
    ruledPassages (lit "::: a\n:::: b\n:::\nx\n") =
      [.block (lit " a") [.block (lit " b") []], .run (lit "x\n")] ∧
    passages (lit "::: a\n:::: b\n:::\nx\n") ≠ ruledPassages (lit "::: a\n:::: b\n:::\nx\n") := by
  have hscan : passages (lit "::: a\n:::: b\n:::\nx\n") =
      [.block (lit " a") [.block (lit " b") [.block [] [.run (lit "x\n")]]]] := rfl
  have hrule : ruledPassages (lit "::: a\n:::: b\n:::\nx\n") =
      [.block (lit " a") [.block (lit " b") []], .run (lit "x\n")] := rfl
  refine ⟨hscan, hrule, fun heq => ?_⟩
  rw [hscan, hrule] at heq
  exact absurd (congrArg List.length heq) (by decide)

end WikiPress.Collapsible
