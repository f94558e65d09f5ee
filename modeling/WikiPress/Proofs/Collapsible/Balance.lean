import WikiPress.Proofs.Collapsible.Conservation
import WikiPress.Proofs.Collapsible.Insertion
import WikiPress.Proofs.Collapsible.RoundTrip

/-!
# Proofs/Collapsible/Balance — texts that stay inside the block they are put in

    ::: marker       opens a block
    content          balanced: closes what it opens, and nothing else
    :::              closes that block

A text is balanced inside a block if its lines spell passages with every block closed, none of them
closing the block around, and if it leaves no code fence open (`Balanced`).  Put between the marker
lines of the block it is the content of that block and ends there (`Balanced.isBlock`); a text that
is not balanced closes the block too early or lets it run on (`balanced_of_passages`).
-/

namespace WikiPress.Collapsible

/-- **A text that is balanced inside a block** opened with `colons` colons, where it is read as
`body`. -/
def Balanced (colons : Nat) (t : Text) (body : List Passage) : Prop :=
  Fence.after none (contents t) = none ∧
    ∃ events : List Event, events.map Event.row = rows t ∧ Closed (some colons) events body

/-! ## Lines behind rows -/

section Rows

variable {fence : Option Fence} {lines : List Text}

theorem exists_lines_append {first rest : List Row} (h : rowsFrom fence lines = first ++ rest) :
    ∃ l r, lines = l ++ r ∧ rowsFrom fence l = first ∧
      rowsFrom (Fence.after fence (l.map withoutLineEnd)) r = rest := by
  induction first generalizing fence lines with
  | nil => exact ⟨[], lines, rfl, rfl, h⟩
  | cons row first ih =>
    cases lines with
    | nil => exact absurd h.symm (List.cons_ne_nil _ _)
    | cons line lines =>
      obtain ⟨hrow, hrows⟩ := List.cons.inj h
      obtain ⟨l, r, rfl, hl, hr⟩ := ih hrows
      exact ⟨line :: l, r, rfl, by rw [rowsFrom, hrow, hl], hr⟩

theorem exists_lines_cons {first : Row} {rest : List Row}
    (h : rowsFrom fence lines = first :: rest) :
    ∃ line r, lines = line :: r ∧ row fence line = first ∧
      rowsFrom (Fence.next fence (withoutLineEnd line)) r = rest := by
  cases lines with
  | nil => exact absurd h.symm (List.cons_ne_nil _ _)
  | cons line r =>
    obtain ⟨hrow, hrows⟩ := List.cons.inj h
    exact ⟨line, r, rfl, hrow, hrows⟩

theorem eq_nil_of_rowsFrom (h : rowsFrom fence lines = []) : lines = [] := by
  cases lines with
  | nil => rfl
  | cons line lines => exact absurd h (List.cons_ne_nil _ _)

/-- A plain row is the line it was found in. -/
theorem eq_of_row_eq_plain {line text : Text} (h : row fence line = .plain text) : line = text := by
  rw [row] at h
  split at h
  · exact Row.plain.inj h
  · split at h
    · exact absurd h (by simp)
    · exact Row.plain.inj h

/-- A marker row is found outside fenced code, and leaves no fence open. -/
theorem of_row_eq_marker {line : Text} {colons : Nat} {rest : Text}
    (h : row fence line = .marker colons rest) :
    fence = none ∧ Fence.covers none (withoutLineEnd line) = false ∧
      markerLine? (withoutLineEnd line) = some (colons, rest) ∧
      Fence.next none (withoutLineEnd line) = none := by
  obtain ⟨hcovers, hmarker⟩ := row_eq_marker_iff.1 h
  obtain ⟨rfl, hopen⟩ := Fence.covers_eq_false_iff.1 hcovers
  exact ⟨rfl, hcovers, hmarker, hopen⟩

/-- The opening line of a block. -/
theorem row_opening {colons : Nat} {marker : Text} (hcolons : 3 ≤ colons)
    (hmarker : IsMarker marker) :
    row none (List.replicate colons ':' ++ marker ++ ['\n']) = .marker colons marker :=
  row_eq_marker_iff.2 (markerLine?_opening hcolons hmarker)

/-- Plain rows are pending lines. -/
theorem foldl_step_of_plain_rows {texts : List Text}
    (h : rowsFrom fence lines = texts.map .plain) (f : Frame) (outer : List Frame) :
    lines = texts ∧ lines.foldl Scan.step ⟨f, outer, fence⟩ =
      ⟨{ f with pending := lines.reverse ++ f.pending }, outer,
        Fence.after fence (lines.map withoutLineEnd)⟩ := by
  induction texts generalizing fence lines f with
  | nil =>
    obtain rfl := eq_nil_of_rowsFrom h
    exact ⟨rfl, rfl⟩
  | cons text texts ih =>
    obtain ⟨line, rest, rfl, hrow, hrows⟩ := exists_lines_cons h
    obtain rfl := eq_of_row_eq_plain hrow
    have hplain := row_eq_plain_iff.1 hrow
    obtain ⟨htexts, hfold⟩ := ih hrows (f.addLine line)
    refine ⟨by rw [htexts], ?_⟩
    rw [List.foldl_cons, step_of_plain hplain, hfold, List.map_cons, Fence.after_cons,
      List.reverse_cons, List.append_assoc]
    rfl

end Rows

/-! ## The scan follows what is spelled -/

/-- Where no run is the last passage, nothing is pending. -/
theorem Frame.pending_eq_nil {f : Frame} (h : ∀ p ∈ f.passages.getLast?, p.isRun = false) :
    f.pending = [] := by
  by_contra hpending
  rw [Frame.passages, Frame.flush_of_pending_ne_nil hpending, List.reverse_cons,
    List.getLast?_concat] at h
  exact absurd (h _ rfl) (by simp [Passage.isRun])

/-- **Lines between the marker lines of a block** are read into a frame of their own, which the
closing line adds to the frame around. -/
theorem foldl_step_enclosed {f held : Frame} {outer : List Frame} {lines : List Text}
    {openingLine closingLine marker rest : Text} {opening closing : Nat}
    (hopening : row none openingLine = .marker opening marker)
    (hopens : closes (enclosing f outer) opening marker = false)
    (hlines : lines.foldl Scan.step ⟨.empty opening marker, f.flush :: outer, none⟩ =
      ⟨held, f.flush :: outer, none⟩)
    (hclosing : row none closingLine = .marker closing rest)
    (hcloses : closes (some held.colons) closing rest = true) :
    (openingLine :: (lines ++ [closingLine])).foldl Scan.step ⟨f, outer, none⟩ =
      ⟨f.addBlock held.toBlock, outer, none⟩ := by
  obtain ⟨-, hcovers, hmarker, -⟩ := of_row_eq_marker hopening
  obtain ⟨-, hcovers', hmarker', -⟩ := of_row_eq_marker hclosing
  rw [List.foldl_cons, step_of_opening hcovers hmarker hopens, List.foldl_append, hlines,
    List.foldl_cons, step_of_closing hcovers' hmarker' hcloses, Frame.addBlock_flush]
  rfl

/-- **Lines that spell passages** are read as these passages, in a frame of their own. -/
theorem Closed.foldl_step {e : Option Nat} {events : List Event} {ps : List Passage}
    (h : Closed e events ps) {lines : List Text}
    (hrows : rowsFrom none lines = events.map Event.row) (marker : Text) {colons : Nat} {outer : List Frame}
    (he : enclosing (.empty colons marker) outer = e) :
    ∃ g : Frame, lines.foldl Scan.step ⟨.empty colons marker, outer, none⟩ =
        ⟨g, outer, Fence.after none (lines.map withoutLineEnd)⟩ ∧
      g.colons = colons ∧ g.marker = marker ∧ g.passages = ps := by
  induction h generalizing lines colons marker outer with
  | nil =>
    obtain rfl := eq_nil_of_rowsFrom hrows
    exact ⟨.empty colons marker, rfl, rfl, rfl, rfl⟩
  | @run _ events ps texts _ hlast hne ih =>
    have hplain : (texts.map Event.line).map Event.row = texts.map .plain := List.map_map
    rw [List.map_append, hplain] at hrows
    obtain ⟨l, r, rfl, hl, hr⟩ := exists_lines_append hrows
    obtain ⟨g, hfold, hcolons, hmarker, rfl⟩ := ih hl marker he
    obtain ⟨rfl, hrun⟩ := foldl_step_of_plain_rows hr g outer
    have hpending : g.pending = [] := Frame.pending_eq_nil hlast
    have hlines : r ≠ [] := fun hnil => hne (by rw [hnil, List.flatten_nil])
    refine ⟨{ g with pending := r.reverse }, ?_, hcolons, hmarker, ?_⟩
    · rw [List.foldl_append, hfold, hrun, hpending, List.append_nil, List.map_append,
        Fence.after_append]
    · rw [Frame.passages_of_pending hpending (List.reverse_ne_nil_iff.2 hlines),
        List.reverse_reverse]
  | @block _ events inner ps body opening closing blockMarker rest _ hopens _ hcloses ih ihbody =>
    rw [List.map_append, List.map_cons, List.map_append] at hrows
    obtain ⟨l, r, rfl, hl, hr⟩ := exists_lines_append hrows
    obtain ⟨openingLine, r, rfl, hopening, hr⟩ := exists_lines_cons hr
    obtain ⟨hfence, -, -, hnext⟩ := of_row_eq_marker hopening
    rw [hfence] at hopening hr
    rw [hnext] at hr
    obtain ⟨m, r, rfl, hm, hr⟩ := exists_lines_append hr
    obtain ⟨closingLine, r, rfl, hclosing, hr⟩ := exists_lines_cons hr
    obtain ⟨hfence', -, -, -⟩ := of_row_eq_marker hclosing
    rw [hfence'] at hclosing
    obtain rfl := eq_nil_of_rowsFrom hr
    obtain ⟨g, hfold, hcolons, hmarker, rfl⟩ := ih hl marker he
    have hinside : enclosing (.empty opening blockMarker) (g.flush :: outer) = some opening := rfl
    obtain ⟨held, hheld, hopened, hmarked, hbody⟩ := ihbody hm blockMarker hinside
    have henclosing : enclosing g outer = enclosing (.empty colons marker) outer :=
      enclosing_congr hcolons outer
    have htoBlock : held.toBlock = .block blockMarker body := by
      rw [Frame.toBlock, hmarked, hbody]
    refine ⟨g.addBlock held.toBlock, ?_, by simpa using hcolons, by simpa using hmarker, ?_⟩
    · have hopens' : closes (enclosing g outer) opening blockMarker = false := by
        rw [henclosing, he]
        exact hopens
      have hcloses' : closes (some held.colons) closing rest = true := hopened ▸ hcloses
      have hwhole : (l ++ openingLine :: (m ++ [closingLine])).foldl Scan.step
          ⟨.empty colons marker, outer, none⟩ = ⟨g.addBlock held.toBlock, outer, none⟩ := by
        rw [hfence'] at hheld
        rw [List.foldl_append, hfold, hfence]
        exact foldl_step_enclosed hopening hopens' hheld hclosing hcloses'
      have hafter := fence_foldl (l ++ openingLine :: (m ++ [closingLine]))
        ⟨.empty colons marker, outer, none⟩
      rw [hwhole] at hafter
      rw [hwhole, ← hafter]
    · rw [Frame.passages_addBlock, htoBlock]

/-- **A balanced text between the marker lines of its block is that block.** -/
theorem Balanced.isBlock {colons closing : Nat} {marker t closingLine rest : Text}
    {body : List Passage} (h : Balanced colons t body) (hcolons : 3 ≤ colons)
    (hmarker : IsMarker marker) (hclosing : row none closingLine = .marker closing rest)
    (hcloses : closes (some colons) closing rest = true) :
    IsBlock ((List.replicate colons ':' ++ marker ++ ['\n']) ::
      (Text.completeLines t ++ [closingLine])) (.block marker body) := by
  intro f outer
  obtain ⟨hfence, events, hrows, hclosed⟩ := h
  have hinside : enclosing (.empty colons marker) (f.flush :: outer) = some colons := rfl
  obtain ⟨held, hheld, hopened, hmarked, hbody⟩ := hclosed.foldl_step hrows.symm marker hinside
  have hcloses' : closes (some held.colons) closing rest = true := hopened ▸ hcloses
  have htoBlock : held.toBlock = .block marker body := by rw [Frame.toBlock, hmarked, hbody]
  rw [← contents, hfence] at hheld
  rw [← htoBlock]
  exact foldl_step_enclosed (row_opening hcolons hmarker) (hmarker.closes_eq_false _ _)
    hheld hclosing hcloses'

/-- Lines without marker lines outside fenced code are plain rows. -/
theorem rowsFrom_of_plain {fence : Option Fence} {lines : List Text}
    (h : ∀ line ∈ Fence.outside fence (lines.map withoutLineEnd), markerLine? line = none) :
    rowsFrom fence lines = lines.map .plain := by
  induction lines generalizing fence with
  | nil => rfl
  | cons line lines ih =>
    rw [List.map_cons] at h
    rw [rowsFrom, List.map_cons]
    cases hcovers : Fence.covers fence (withoutLineEnd line) with
    | true =>
      rw [Fence.outside_cons_of_covers hcovers] at h
      rw [ih h, row_eq_plain_iff.2 (.inl hcovers)]
    | false =>
      rw [Fence.outside_cons_of_not_covers hcovers] at h
      obtain ⟨hline, hlines⟩ := List.forall_mem_cons.1 h
      rw [Fence.next_of_not_covers hcovers, ih hlines, row_eq_plain_iff.2 (.inr hline)]

/-- **A run is balanced**, inside any block. -/
theorem IsRun.balanced {t : Text} (h : IsRun t) {colons : Nat} : Balanced colons t [.run t] := by
  have hne : (Text.completeLines t).flatten ≠ [] := by
    rw [Text.flatten_completeLines]
    rintro rfl
    exact absurd h.complete (by decide)
  have hclosed : Closed (some colons) _ _ := .run .nil nofun hne
  rw [Text.flatten_completeLines] at hclosed
  refine ⟨h.closed, _, ?_, hclosed⟩
  rw [List.nil_append, List.map_map, rows, rowsFrom_of_plain h.plain]
  rfl

/-! ## The first and the last passage of what is spelled -/

section Ends

variable {e : Option Nat} {events : List Event} {ps : List Passage}

theorem Closed.eq_nil (h : Closed e events []) : events = [] := by
  generalize hps : ([] : List Passage) = ps at h
  cases h with
  | nil => rfl
  | run => exact absurd hps.symm (List.append_ne_nil_of_right_ne_nil _ (List.cons_ne_nil _ _))
  | block => exact absurd hps.symm (List.append_ne_nil_of_right_ne_nil _ (List.cons_ne_nil _ _))

/-- A run at the end is some plain lines at the end. -/
theorem Closed.of_run {text : Text} (h : Closed e events (ps ++ [.run text])) :
    ∃ (before : List Event) (lines : List Text), events = before ++ lines.map .line ∧
      lines.flatten = text ∧ Closed e before ps := by
  generalize hps : ps ++ [.run text] = qs at h
  cases h with
  | nil => exact absurd hps (List.append_ne_nil_of_right_ne_nil _ (List.cons_ne_nil _ _))
  | run hbefore =>
    obtain ⟨rfl, hrun⟩ := List.append_inj' hps rfl
    obtain rfl : text = _ := by simpa using hrun
    exact ⟨_, _, rfl, rfl, hbefore⟩
  | block =>
    obtain ⟨-, hblock⟩ := List.append_inj' hps rfl
    exact absurd hblock (by simp)

/-- A block at the end is its two marker lines and what is spelled between them. -/
theorem Closed.of_block {marker : Text} {body : List Passage}
    (h : Closed e events (ps ++ [.block marker body])) :
    ∃ before inner opening closing rest,
      events = before ++ .opening opening marker :: (inner ++ [.closing closing rest]) ∧
      Closed e before ps ∧ Closed (some opening) inner body := by
  generalize hps : ps ++ [.block marker body] = qs at h
  cases h with
  | nil => exact absurd hps (List.append_ne_nil_of_right_ne_nil _ (List.cons_ne_nil _ _))
  | run =>
    obtain ⟨-, hrun⟩ := List.append_inj' hps rfl
    exact absurd hrun (by simp)
  | block hbefore _ hbody _ =>
    obtain ⟨rfl, hblock⟩ := List.append_inj' hps rfl
    obtain ⟨rfl, rfl⟩ : marker = _ ∧ body = _ := by simpa using hblock
    exact ⟨_, _, _, _, _, rfl, hbefore, hbody⟩

/-- Where the last passage is a run, every block is closed. -/
theorem Reads.closed_of_run {text : Text} (h : Reads e events (ps ++ [.run text])) :
    Closed e events (ps ++ [.run text]) := by
  generalize hps : ps ++ [.run text] = qs at h
  cases h with
  | closed h => exact h
  | unclosed =>
    obtain ⟨-, hblock⟩ := List.append_inj' hps rfl
    exact absurd hblock (by simp)

/-- A run at the beginning is a plain line at the beginning. -/
theorem Closed.head_eq_line (h : Closed e events ps) {p : Passage} (hp : p ∈ ps.head?)
    (hrun : p.isRun = true) : ∃ text rest, events = .line text :: rest := by
  induction h with
  | nil => exact absurd hp (by simp)
  | @run _ events ps lines hbefore _ hne ih =>
    cases ps with
    | nil =>
      obtain rfl := hbefore.eq_nil
      obtain ⟨line, lines, rfl⟩ := List.exists_cons_of_ne_nil
        fun hnil : lines = [] => hne (by rw [hnil, List.flatten_nil])
      exact ⟨line, _, rfl⟩
    | cons first ps =>
      obtain ⟨text, rest, rfl⟩ := ih hp
      exact ⟨text, _, rfl⟩
  | @block _ events _ ps _ _ _ _ _ _ _ _ _ ih =>
    cases ps with
    | nil =>
      obtain rfl := Option.some.inj hp
      exact absurd hrun (by simp [Passage.isRun])
    | cons first ps =>
      obtain ⟨text, rest, rfl⟩ := ih hp
      exact ⟨text, _, rfl⟩

theorem Reads.head_eq_line (h : Reads e events ps) {p : Passage} (hp : p ∈ ps.head?)
    (hrun : p.isRun = true) : ∃ text rest, events = .line text :: rest := by
  cases h with
  | closed h => exact h.head_eq_line hp hrun
  | @unclosed _ events _ ps _ _ _ hbefore _ _ =>
    cases ps with
    | nil =>
      obtain rfl := Option.some.inj hp
      exact absurd hrun (by simp [Passage.isRun])
    | cons first ps =>
      obtain ⟨text, rest, rfl⟩ := hbefore.head_eq_line hp hrun
      exact ⟨text, _, rfl⟩

end Ends

/-- **A block that ends where it should holds a balanced text**: if the line behind the block is the
run behind it, no line of the text has closed the block before, and none keeps it open. -/
theorem balanced_of_passages {colons : Nat} {marker t closingLine line whole : Text}
    {body : List Passage} (hcolons : 3 ≤ colons) (hmarker : IsMarker marker)
    (hclosing : closingLine ≠ []) (hline : line ≠ []) (hwhole : Text.completeLines whole =
      (List.replicate colons ':' ++ marker ++ ['\n']) ::
        (Text.completeLines t ++ [closingLine] ++ [line]))
    (h : passages whole = [.block marker body, .run line]) : Balanced colons t body := by
  obtain ⟨events, hrows, hreads⟩ := exists_reads whole
  rw [h] at hreads
  rw [← List.singleton_append] at hreads
  obtain ⟨before, lines, rfl, hlines, hbefore⟩ := hreads.closed_of_run.of_run
  rw [← List.nil_append [_]] at hbefore
  obtain ⟨first, inner, opening, closing, rest, rfl, hfirst, hbody⟩ := hbefore.of_block
  obtain rfl := hfirst.eq_nil
  have hopening := row_opening hcolons hmarker
  obtain ⟨-, -, -, hnext⟩ := of_row_eq_marker hopening
  set behind : Option Fence := Fence.after none (contents t) with hbehind
  have hplain : (lines.map Event.line).map Event.row = lines.map .plain := List.map_map
  rw [rows, hwhole, rowsFrom, hopening, hnext, rowsFrom_append, rowsFrom_append, ← contents,
    ← hbehind, List.map_append, List.nil_append, List.map_cons, hplain, List.map_append,
    List.cons_append] at hrows
  obtain ⟨hmark, hbehindOpening⟩ := List.cons.inj hrows
  obtain ⟨rfl, -⟩ := Row.marker.inj hmark
  -- the run behind the block is the last line alone: the line before it is not empty
  obtain rfl | ⟨init, last, rfl⟩ := List.eq_nil_or_concat' lines
  · exact absurd hlines.symm hline
  rw [List.map_append, ← List.append_assoc] at hbehindOpening
  obtain ⟨hblock, hlast⟩ := List.append_inj' hbehindOpening rfl
  obtain rfl := eq_of_row_eq_plain (List.cons.inj hlast).1.symm
  have hinit : init.flatten = [] := by simpa using hlines
  obtain rfl | ⟨init, z, rfl⟩ := List.eq_nil_or_concat' init
  · rw [List.map_nil, List.append_nil] at hblock
    obtain ⟨hinner, hclose⟩ := List.append_inj' hblock rfl
    obtain ⟨hfence, -⟩ := of_row_eq_marker (List.cons.inj hclose).1.symm
    exact ⟨hfence, inner, hinner, hbody⟩
  · rw [List.map_append, ← List.append_assoc] at hblock
    obtain ⟨-, hz⟩ := List.append_inj' hblock rfl
    obtain rfl := eq_of_row_eq_plain (List.cons.inj hz).1.symm
    exact absurd (List.flatten_eq_nil_iff.1 hinit _ (by simp)) hclosing

/-! ## Blocks in a text -/

/-- **A block on its own.** -/
theorem passages_of_isBlock {lines : List Text} {block : Passage} (h : IsBlock lines block)
    {t : Text} (ht : Text.completeLines t = lines) : passages t = [block] := by
  rw [passages, ht, h]
  rfl

/-- **A block whose lines stand between blank ones.** -/
theorem passages_between_blanks {lines : List Text} {block : Passage} (h : IsBlock lines block)
    {t : Text} (ht : Text.completeLines t = [['\n'], ['\n']] ++ (lines ++ [['\n']])) :
    passages t = [.run (lit "\n\n"), block, .run (lit "\n")] := by
  have hblanks : lit "\n\n" = [['\n'], ['\n']].flatten := rfl
  have hblank : lit "\n" = [['\n']].flatten := rfl
  rw [passages, ht, List.foldl_append, List.foldl_append, hblanks, hblank]
  have hfront : [['\n'], ['\n']].foldl Scan.step ⟨.empty 0 [], [], none⟩ =
      ⟨{ Frame.empty 0 [] with pending := [['\n'], ['\n']] }, [], none⟩ := rfl
  rw [hfront, h]
  rfl

/-- Where the first line of a text is a marker line, no run comes first. -/
theorem isRun_head?_eq_false {t line : Text} {rest : List Text} {colons : Nat} {marker : Text}
    (ht : Text.completeLines t = line :: rest) (hline : row none line = .marker colons marker) :
    ∀ p ∈ (passages t).head?, p.isRun = false := by
  intro p hp
  obtain ⟨events, hrows, hreads⟩ := exists_reads t
  rw [Bool.eq_false_iff]
  intro hrun
  obtain ⟨text, events, rfl⟩ := hreads.head_eq_line hp hrun
  rw [rows, ht, rowsFrom, hline] at hrows
  exact absurd (List.cons.inj hrows).1 (by simp [Event.row])

end WikiPress.Collapsible
