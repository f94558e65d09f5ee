import WikiPress.Collapsible.Passage
import WikiPress.Proofs.Fence
import WikiPress.Proofs.Text.Lines

/-!
# Proofs/Collapsible/Frames — what one line does to the open blocks

    plain line      pending in the innermost frame        ⟨f⟩ …          ⟶  ⟨f, line⟩ …
    opening line    a new frame inside the others         ⟨f⟩ …          ⟶  ⟨new⟩ ⟨f⟩ …
    closing line    the innermost frame is a passage      ⟨f⟩ ⟨g⟩ …      ⟶  ⟨g, block⟩ …

A marker line outside fenced code closes the innermost block if it can (`closes`) and opens one
otherwise; every other line is plain.  Whatever the line does, the fence that is open behind it is
the one the fence rule gives (`fence_step`).
-/

namespace WikiPress.Collapsible

/-- Whether a passage is a run of plain text. -/
def Passage.isRun : Passage → Bool
  | .run _ => true
  | .block .. => false

/-! ## Frames -/

namespace Frame

@[simp] theorem flush_flush (f : Frame) : f.flush.flush = f.flush := by
  rw [flush.eq_def f]
  split
  · next h => rw [flush, h]
  · rfl

theorem flush_of_pending {f : Frame} (h : f.pending = []) : f.flush = f := by
  rw [flush, h]

theorem flush_of_pending_ne_nil {f : Frame} (h : f.pending ≠ []) :
    f.flush = { f with done := .run f.pending.reverse.flatten :: f.done, pending := [] } := by
  rw [flush]
  split
  · next hnil => exact absurd hnil h
  · rfl

@[simp] theorem addBlock_flush (f : Frame) (block : Passage) :
    f.flush.addBlock block = f.addBlock block := by
  rw [addBlock, flush_flush, addBlock]

@[simp] theorem colons_flush (f : Frame) : f.flush.colons = f.colons := by
  rw [flush]
  split <;> rfl

@[simp] theorem marker_flush (f : Frame) : f.flush.marker = f.marker := by
  rw [flush]
  split <;> rfl

@[simp] theorem pending_flush (f : Frame) : f.flush.pending = [] := by
  rw [flush]
  split
  · assumption
  · rfl

@[simp] theorem passages_flush (f : Frame) : f.flush.passages = f.passages := by
  rw [passages, flush_flush, passages]

@[simp] theorem colons_addBlock (f : Frame) (block : Passage) :
    (f.addBlock block).colons = f.colons := f.colons_flush

@[simp] theorem marker_addBlock (f : Frame) (block : Passage) :
    (f.addBlock block).marker = f.marker := f.marker_flush

@[simp] theorem pending_addBlock (f : Frame) (block : Passage) :
    (f.addBlock block).pending = [] := f.pending_flush

/-- A block is one more passage. -/
theorem passages_addBlock (f : Frame) (block : Passage) :
    (f.addBlock block).passages = f.passages ++ [block] := by
  rw [passages, flush_of_pending (f.pending_addBlock block), passages, addBlock, List.reverse_cons]

/-- Lines that are pending behind a finished passage are one more passage. -/
theorem passages_of_pending {f : Frame} (h : f.pending = []) {lines : List Text}
    (hne : lines ≠ []) :
    passages { f with pending := lines } = f.passages ++ [.run lines.reverse.flatten] := by
  rw [passages, passages, flush_of_pending h, flush_of_pending_ne_nil hne, List.reverse_cons]

end Frame

/-! ## Lines -/

/-- Whether a marker line closes the block around it; `enclosing` is the number of colons that block
was opened with, if there is one. -/
def closes (enclosing : Option Nat) (colons : Nat) (rest : Text) : Bool :=
  match enclosing with
  | some opening => Text.allBlank rest && opening ≤ colons
  | none => false

/-- The colons of the innermost block: none where the innermost frame is the whole text. -/
def enclosing (top : Frame) : (outer : List Frame) → Option Nat
  | [] => none
  | _ :: _ => some top.colons

section Lines

variable {f : Frame} {outer : List Frame} {fence : Option Fence} {line : Text}

/-- A line is plain, or a marker line outside fenced code. -/
theorem plain_or_marker (fence : Option Fence) (line : Text) :
    (Fence.covers fence (withoutLineEnd line) = true ∨
      markerLine? (withoutLineEnd line) = none) ∨
    fence = none ∧ Fence.covers none (withoutLineEnd line) = false ∧
      ∃ colons rest, markerLine? (withoutLineEnd line) = some (colons, rest) := by
  refine or_iff_not_imp_left.2 fun hplain => ?_
  obtain ⟨hcovers, hmarker⟩ := not_or.1 hplain
  obtain ⟨⟨colons, rest⟩, hmarker⟩ := Option.ne_none_iff_exists'.1 hmarker
  rw [Bool.not_eq_true] at hcovers
  obtain ⟨rfl, -⟩ := Fence.covers_eq_false_iff.1 hcovers
  exact ⟨rfl, hcovers, colons, rest, hmarker⟩

/-- A line of fenced code, or one that is no marker line, is plain text. -/
theorem step_of_plain (h : Fence.covers fence (withoutLineEnd line) = true ∨
      markerLine? (withoutLineEnd line) = none) :
    Scan.step ⟨f, outer, fence⟩ line =
      ⟨f.addLine line, outer, Fence.next fence (withoutLineEnd line)⟩ := by
  cases fence with
  | some fence => rfl
  | none =>
    rw [Scan.step, Fence.next]
    cases hopen : Fence.open? (withoutLineEnd line) with
    | some fence => rfl
    | none =>
      have hplain : markerLine? (withoutLineEnd line) = none :=
        h.resolve_left (by simp [Fence.covers, hopen])
      simp only [hplain]

/-- **Plain lines are pending** in the innermost frame. -/
theorem foldl_step_plain {lines : List Text}
    (h : ∀ line ∈ Fence.outside fence (lines.map withoutLineEnd), markerLine? line = none) :
    lines.foldl Scan.step ⟨f, outer, fence⟩ =
      ⟨{ f with pending := lines.reverse ++ f.pending }, outer,
        Fence.after fence (lines.map withoutLineEnd)⟩ := by
  induction lines generalizing f fence with
  | nil => rfl
  | cons line lines ih =>
    rw [List.map_cons, Fence.outside] at h
    have hline : Fence.covers fence (withoutLineEnd line) = true ∨
        markerLine? (withoutLineEnd line) = none := by
      split at h
      · next hcovers => exact .inl hcovers
      · exact .inr (h _ List.mem_cons_self)
    have hlines : ∀ line' ∈ Fence.outside (Fence.next fence (withoutLineEnd line))
        (lines.map withoutLineEnd), markerLine? line' = none := by
      split at h
      · exact h
      · exact fun line' hmem => h line' (List.mem_cons_of_mem _ hmem)
    rw [List.foldl_cons, step_of_plain hline, ih hlines, List.map_cons, Fence.after_cons,
      List.reverse_cons, List.append_assoc]
    rfl

/-- A text without marker lines outside fenced code is one run. -/
theorem passages_of_plain {t : Text}
    (h : ∀ line ∈ Fence.outside none ((Text.completeLines t).map withoutLineEnd),
      markerLine? line = none) :
    t = [] ∧ passages t = [] ∨ passages t = [.run t] := by
  have hread : passages t =
      Frame.passages { Frame.empty 0 [] with pending := (Text.completeLines t).reverse } := by
    rw [passages, foldl_step_plain h]
    exact congrArg (fun lines => Frame.passages { Frame.empty 0 [] with pending := lines })
      (List.append_nil _)
  by_cases ht : t = []
  · subst ht
    exact .inl ⟨rfl, rfl⟩
  · have hlines : (Text.completeLines t).reverse ≠ [] :=
      mt List.reverse_eq_nil_iff.1 (Text.completeLines_ne_nil ht)
    refine .inr ?_
    rw [hread, Frame.passages_of_pending rfl hlines, List.reverse_reverse, Text.flatten_completeLines]
    rfl

variable {colons : Nat} {rest : Text}

/-- **A marker line that closes nothing opens a block.** -/
theorem step_of_opening (hcovers : Fence.covers none (withoutLineEnd line) = false)
    (hmarker : markerLine? (withoutLineEnd line) = some (colons, rest))
    (hopens : closes (enclosing f outer) colons rest = false) :
    Scan.step ⟨f, outer, none⟩ line = ⟨.empty colons rest, f.flush :: outer, none⟩ := by
  rw [Scan.step]
  simp only [(Fence.covers_eq_false_iff.1 hcovers).2, hmarker]
  cases outer with
  | nil => rfl
  | cons parent outer => exact if_neg (by simpa [closes, enclosing] using hopens)

/-- **…and one that closes the innermost block** makes it a passage of the frame around it. -/
theorem step_of_closing {parent : Frame} (hcovers : Fence.covers none (withoutLineEnd line) = false)
    (hmarker : markerLine? (withoutLineEnd line) = some (colons, rest))
    (hcloses : closes (some f.colons) colons rest = true) :
    Scan.step ⟨f, parent :: outer, none⟩ line = ⟨parent.addBlock f.toBlock, outer, none⟩ := by
  rw [Scan.step]
  simp only [(Fence.covers_eq_false_iff.1 hcovers).2, hmarker]
  exact if_pos hcloses

/-- **The fence behind a line** does not depend on the blocks. -/
theorem fence_step (s : Scan) (line : Text) :
    (s.step line).fence = Fence.next s.fence (withoutLineEnd line) := by
  obtain ⟨top, outer, fence⟩ := s
  rcases plain_or_marker fence line with hplain | ⟨rfl, hcovers, colons, rest, hmarker⟩
  · rw [step_of_plain hplain]
  · rw [Fence.next_of_not_covers hcovers]
    cases hcloses : closes (enclosing top outer) colons rest with
    | false => rw [step_of_opening hcovers hmarker hcloses]
    | true =>
      cases outer with
      | nil => exact absurd hcloses Bool.false_ne_true
      | cons parent outer => rw [step_of_closing hcovers hmarker hcloses]

end Lines

end WikiPress.Collapsible
