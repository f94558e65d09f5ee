import WikiPress.Proofs.Collapsible.Frames

/-!
# Proofs/Collapsible/Conservation — every line of a text is in its passages exactly once

    rows        plain  ::: a  plain  ::: b  plain  :::    plain
    events      line   open   line   open   line   close  line
    passages    run    a[     run    b[     run    ]      run         ] at the end of the text

Each line of a text is given one part: plain text, the opening line of a block, or the closing line
of the block that is then the innermost one.  Read with these parts the lines spell the passages
(`Reads`): nothing is lost, nothing is told twice, and no order changes, on malformed texts as on
well-formed ones (`passages_conserve`).  The scan reaches this with several blocks pending at once,
so what holds in between is said of the whole stack of frames (`Follows`).
-/

namespace WikiPress.Collapsible

/-! ## Passages in document order -/

mutual

/-- A passage in document order: the texts of its runs on the left, the markers of its blocks on the
right, every block in front of what it holds. -/
def inOrder : Passage → List (Text ⊕ Text)
  | .run text => [.inl text]
  | .block marker body => .inr marker :: inOrderAll body

/-- Passages in document order. -/
def inOrderAll : List Passage → List (Text ⊕ Text)
  | [] => []
  | p :: ps => inOrder p ++ inOrderAll ps

end

/-- The texts of the runs, at whatever depth. -/
def leaves (ps : List Passage) : List Text := (inOrderAll ps).filterMap Sum.getLeft?

/-- The markers of the blocks, every block in front of those it holds. -/
def markers (ps : List Passage) : List Text := (inOrderAll ps).filterMap Sum.getRight?

/-- **No run is empty and no two runs are neighbours**, at whatever depth. -/
inductive Separated : List Passage → Prop
  | nil : Separated []
  | run {text : Text} {rest : List Passage} (hne : text ≠ [])
      (hnext : ∀ p ∈ rest.head?, p.isRun = false) (hrest : Separated rest) :
      Separated (.run text :: rest)
  | block {marker : Text} {body rest : List Passage} (hbody : Separated body)
      (hrest : Separated rest) : Separated (.block marker body :: rest)

theorem inOrderAll_append (ps qs : List Passage) :
    inOrderAll (ps ++ qs) = inOrderAll ps ++ inOrderAll qs := by
  induction ps with
  | nil => rfl
  | cons p ps ih => rw [List.cons_append, inOrderAll, ih, inOrderAll, List.append_assoc]

theorem inOrderAll_run (ps : List Passage) (text : Text) :
    inOrderAll (ps ++ [.run text]) = inOrderAll ps ++ [.inl text] := inOrderAll_append ps _

theorem inOrderAll_block (ps : List Passage) (marker : Text) (body : List Passage) :
    inOrderAll (ps ++ [.block marker body]) = inOrderAll ps ++ .inr marker :: inOrderAll body := by
  rw [inOrderAll_append, inOrderAll, inOrder, inOrderAll, List.append_nil]

/-- Passages stay separated in front of a block, and a run in front of which there is none. -/
theorem Separated.append_singleton {ps : List Passage} (h : Separated ps) {p : Passage}
    (hp : Separated [p]) (hjoin : p.isRun = true → ∀ q ∈ ps.getLast?, q.isRun = false) :
    Separated (ps ++ [p]) := by
  induction h with
  | nil => exact hp
  | @run text rest hne hnext _ ih =>
    refine .run hne ?_ (ih ?_)
    · cases rest with
      | nil =>
        rintro q hq
        obtain rfl : p = q := by simpa using hq
        exact Bool.eq_false_iff.2 fun hrun => absurd (hjoin hrun _ rfl) (by simp [Passage.isRun])
      | cons first rest => exact hnext
    · cases rest with
      | nil => exact fun _ q hq => absurd hq (by simp)
      | cons first rest => simpa using hjoin
  | @block marker body rest hbody _ _ ih =>
    refine .block hbody (ih ?_)
    cases rest with
    | nil => exact fun _ q hq => absurd hq (by simp)
    | cons first rest => simpa using hjoin

/-! ## The lines of a text -/

/-- What the scan finds in a line: plain text, or the colons of a marker line and what follows
them. -/
inductive Row
  | plain (line : Text)
  | marker (colons : Nat) (rest : Text)
deriving DecidableEq

/-- A line behind lines that leave `fence` open.  A line of fenced code is plain text. -/
def row (fence : Option Fence) (line : Text) : Row :=
  if Fence.covers fence (withoutLineEnd line) then .plain line
  else match markerLine? (withoutLineEnd line) with
    | some (colons, rest) => .marker colons rest
    | none => .plain line

/-- Lines behind lines that leave `fence` open. -/
def rowsFrom : (fence : Option Fence) → List Text → List Row
  | _, [] => []
  | fence, line :: rest =>
    row fence line :: rowsFrom (Fence.next fence (withoutLineEnd line)) rest

/-- **The lines of a text**, each with its line end. -/
def rows (t : Text) : List Row := rowsFrom none (Text.completeLines t)

/-- A plain line, as it stands in the text. -/
def Row.plain? : Row → Option Text
  | .plain line => some line
  | .marker .. => none

theorem rowsFrom_append (fence : Option Fence) (first rest : List Text) :
    rowsFrom fence (first ++ rest) =
      rowsFrom fence first ++ rowsFrom (Fence.after fence (first.map withoutLineEnd)) rest := by
  induction first generalizing fence with
  | nil => rfl
  | cons line first ih =>
    rw [List.cons_append, rowsFrom, ih, rowsFrom, List.map_cons, Fence.after_cons, List.cons_append]

theorem row_eq_plain_iff {fence : Option Fence} {line : Text} :
    row fence line = .plain line ↔ Fence.covers fence (withoutLineEnd line) = true ∨
      markerLine? (withoutLineEnd line) = none := by
  rw [row]
  split
  · next h => exact iff_of_true rfl (.inl h)
  · next h =>
    cases hmarker : markerLine? (withoutLineEnd line) with
    | none => exact iff_of_true rfl (.inr rfl)
    | some found => exact iff_of_false (by simp) (by simp [h])

theorem row_eq_marker_iff {fence : Option Fence} {line : Text} {colons : Nat} {rest : Text} :
    row fence line = .marker colons rest ↔ Fence.covers fence (withoutLineEnd line) = false ∧
      markerLine? (withoutLineEnd line) = some (colons, rest) := by
  rw [row]
  split
  · next h => simp [h]
  · next h =>
    cases hmarker : markerLine? (withoutLineEnd line) with
    | none => simp
    | some found => simp [h, Prod.ext_iff]

/-! ## Lines with the part they play -/

/-- A line with its part: plain text, or a marker line that opens or that closes a block. -/
inductive Event
  | line (text : Text)
  | opening (colons : Nat) (marker : Text)
  | closing (colons : Nat) (rest : Text)

namespace Event

/-- The line without its part. -/
def row : Event → Row
  | line text => .plain text
  | opening colons marker => .marker colons marker
  | closing colons rest => .marker colons rest

/-- What follows the colons of a line that opens a block. -/
def opened? : Event → Option Text
  | opening _ marker => some marker
  | _ => none

end Event

/-- **The lines spell the passages**, with every block closed; `enclosing` is the number of colons
of the block they stand in.  A run is some plain lines on end, a block an opening line, what it holds
and a closing line that closes it. -/
inductive Closed : (enclosing : Option Nat) → List Event → List Passage → Prop
  | nil {enclosing : Option Nat} : Closed enclosing [] []
  | run {enclosing : Option Nat} {events : List Event} {ps : List Passage} {lines : List Text}
      (hbefore : Closed enclosing events ps) (hlast : ∀ p ∈ ps.getLast?, p.isRun = false)
      (hne : lines.flatten ≠ []) :
      Closed enclosing (events ++ lines.map .line) (ps ++ [.run lines.flatten])
  | block {enclosing : Option Nat} {events inner : List Event} {ps body : List Passage}
      {opening closing : Nat} {marker rest : Text} (hbefore : Closed enclosing events ps)
      (hopens : closes enclosing opening marker = false) (hbody : Closed (some opening) inner body)
      (hcloses : closes (some opening) closing rest = true) :
      Closed enclosing (events ++ .opening opening marker :: (inner ++ [.closing closing rest]))
        (ps ++ [.block marker body])

/-- **The lines spell the passages**, where the last block may be open, and the last block in it. -/
inductive Reads : (enclosing : Option Nat) → List Event → List Passage → Prop
  | closed {enclosing : Option Nat} {events : List Event} {ps : List Passage}
      (h : Closed enclosing events ps) : Reads enclosing events ps
  | unclosed {enclosing : Option Nat} {events inner : List Event} {ps body : List Passage}
      {opening : Nat} {marker : Text} (hbefore : Closed enclosing events ps)
      (hopens : closes enclosing opening marker = false) (hbody : Reads (some opening) inner body) :
      Reads enclosing (events ++ .opening opening marker :: inner) (ps ++ [.block marker body])

section Spelled

variable {e : Option Nat} {events : List Event} {ps : List Passage}

/-! ## What is spelled -/

/-- The plain lines among some lines, one after the other. -/
def plainText (events : List Event) : Text :=
  ((events.map Event.row).filterMap Row.plain?).flatten

theorem plainText_append (first rest : List Event) :
    plainText (first ++ rest) = plainText first ++ plainText rest := by
  rw [plainText, List.map_append, List.filterMap_append, List.flatten_append]
  rfl

theorem plainText_lines (lines : List Text) : plainText (lines.map .line) = lines.flatten := by
  have hrow : (Row.plain? ∘ Event.row) ∘ Event.line = some := rfl
  rw [plainText, List.filterMap_map, List.filterMap_map, hrow, List.filterMap_some]

theorem filterMap_opened?_lines (lines : List Text) :
    (lines.map Event.line).filterMap Event.opened? = [] := by
  rw [List.filterMap_map]
  exact List.filterMap_eq_nil_iff.2 fun _ _ => rfl

theorem filterMap_opened?_opening (colons : Nat) (marker : Text) (rest : List Event) :
    (Event.opening colons marker :: rest).filterMap Event.opened? =
      marker :: rest.filterMap Event.opened? := rfl

theorem leaves_run (ps : List Passage) (text : Text) :
    leaves (ps ++ [.run text]) = leaves ps ++ [text] := by
  rw [leaves, inOrderAll_run, List.filterMap_append]
  rfl

theorem leaves_block (ps : List Passage) (marker : Text) (body : List Passage) :
    leaves (ps ++ [.block marker body]) = leaves ps ++ leaves body := by
  rw [leaves, inOrderAll_block, List.filterMap_append]
  rfl

theorem markers_run (ps : List Passage) (text : Text) :
    markers (ps ++ [.run text]) = markers ps := by
  rw [markers, inOrderAll_run, List.filterMap_append]
  exact List.append_nil _

theorem markers_block (ps : List Passage) (marker : Text) (body : List Passage) :
    markers (ps ++ [.block marker body]) = markers ps ++ marker :: markers body := by
  rw [markers, inOrderAll_block, List.filterMap_append]
  rfl

/-- The runs hold the plain lines, and nothing else. -/
theorem Closed.flatten_leaves (h : Closed e events ps) :
    (leaves ps).flatten = plainText events := by
  induction h with
  | nil => rfl
  | run _ _ _ ih =>
    rw [leaves_run, List.flatten_append, ih, plainText_append, plainText_lines,
      List.flatten_singleton]
  | @block _ _ inner _ _ opening closing marker rest _ _ _ _ ih ihbody =>
    have hopening : plainText [.opening opening marker] = [] := rfl
    have hclosing : plainText [.closing closing rest] = [] := rfl
    rw [leaves_block, List.flatten_append, ih, ihbody, plainText_append, ← List.singleton_append,
      plainText_append, plainText_append, hopening, hclosing, List.nil_append, List.append_nil]

theorem Reads.flatten_leaves (h : Reads e events ps) : (leaves ps).flatten = plainText events := by
  induction h with
  | closed h => exact h.flatten_leaves
  | @unclosed _ _ _ _ _ opening marker hbefore _ _ ih =>
    have hopening : plainText [.opening opening marker] = [] := rfl
    rw [leaves_block, List.flatten_append, hbefore.flatten_leaves, ih, plainText_append,
      ← List.singleton_append, plainText_append, hopening, List.nil_append]

/-- **The blocks are the opening lines**, in the same order. -/
theorem Closed.filterMap_opened? (h : Closed e events ps) :
    events.filterMap Event.opened? = markers ps := by
  induction h with
  | nil => rfl
  | run _ _ _ ih =>
    rw [markers_run, List.filterMap_append, ih, filterMap_opened?_lines, List.append_nil]
  | block _ _ _ _ ih ihbody =>
    rw [markers_block, List.filterMap_append, filterMap_opened?_opening, List.filterMap_append,
      ih, ihbody]
    exact congrArg (_ ++ _ :: ·) (List.append_nil _)

theorem Reads.filterMap_opened? (h : Reads e events ps) :
    events.filterMap Event.opened? = markers ps := by
  induction h with
  | closed h => exact h.filterMap_opened?
  | unclosed hbefore _ _ ih =>
    rw [markers_block, List.filterMap_append, filterMap_opened?_opening,
      hbefore.filterMap_opened?, ih]

theorem Closed.separated (h : Closed e events ps) : Separated ps := by
  induction h with
  | nil => exact .nil
  | run _ hlast hne ih =>
    exact ih.append_singleton (.run hne (fun p hp => absurd hp (by simp)) .nil) fun _ => hlast
  | block _ _ _ _ ih ihbody => exact ih.append_singleton (.block ihbody .nil) nofun

theorem Reads.separated (h : Reads e events ps) : Separated ps := by
  induction h with
  | closed h => exact h.separated
  | unclosed hbefore _ _ ih => exact hbefore.separated.append_singleton (.block ih .nil) nofun

end Spelled

/-! ## What holds in between -/

/-- **A frame holds some lines**: its finished passages are spelled by the lines in front of those
that are pending. -/
structure Holds (e : Option Nat) (f : Frame) (events : List Event) : Prop where
  spelled : ∃ finished, events = finished ++ f.pending.reverse.map .line ∧
    Closed e finished f.done.reverse
  /-- A pending line begins a new run. -/
  fresh : ∀ p ∈ f.done.head?, p.isRun = false
  complete : ∀ line ∈ f.pending, line ≠ []

/-- **The lines in front of the innermost frame**: for every frame around it what it holds, and the
line that opened the next one. -/
inductive Around : (colons : Nat) → (marker : Text) → List Frame → List Event → Prop
  | text {colons : Nat} {marker : Text} : Around colons marker [] []
  | block {colons : Nat} {marker : Text} {parent : Frame} {outer : List Frame}
      {before events : List Event} (hparent : Around parent.colons parent.marker outer before)
      (hpending : parent.pending = [])
      (hheld : Closed (enclosing parent outer) events parent.done.reverse)
      (hopens : closes (enclosing parent outer) colons marker = false) :
      Around colons marker (parent :: outer) (before ++ events ++ [.opening colons marker])

/-- **The lines read so far** are those in front of the innermost frame and those it holds. -/
def Follows (s : Scan) (events : List Event) : Prop :=
  ∃ before held, events = before ++ held ∧ Around s.top.colons s.top.marker s.outer before ∧
    Holds (enclosing s.top s.outer) s.top held

section Frames

variable {e : Option Nat} {f : Frame} {outer : List Frame} {events before : List Event}

theorem Holds.empty (e : Option Nat) (colons : Nat) (marker : Text) :
    Holds e (.empty colons marker) [] :=
  ⟨⟨[], rfl, .nil⟩, nofun, nofun⟩

/-- The passages of a frame are spelled by the lines it holds. -/
theorem Holds.passages (h : Holds e f events) : Closed e events f.passages := by
  obtain ⟨finished, rfl, hfinished⟩ := h.spelled
  by_cases hpending : f.pending = []
  · rw [Frame.passages, Frame.flush_of_pending hpending, hpending]
    simpa using hfinished
  · have hne : f.pending.reverse.flatten ≠ [] := by
      obtain ⟨line, rest, hlines⟩ := List.exists_cons_of_ne_nil hpending
      have hline : line ≠ [] := h.complete line (hlines ▸ List.mem_cons_self)
      simp [hlines, hline]
    rw [Frame.passages, Frame.flush_of_pending_ne_nil hpending, List.reverse_cons]
    exact .run hfinished (by simpa using h.fresh) hne

theorem Holds.addLine (h : Holds e f events) {line : Text} (hline : line ≠ []) :
    Holds e (f.addLine line) (events ++ [.line line]) := by
  obtain ⟨finished, rfl, hfinished⟩ := h.spelled
  refine ⟨⟨finished, ?_, hfinished⟩, h.fresh, List.forall_mem_cons.2 ⟨hline, h.complete⟩⟩
  simp [Frame.addLine]

/-- A finished frame takes a block in. -/
theorem Holds.addBlock (hpending : f.pending = []) {marker : Text} {body : List Passage}
    (h : Closed e events (f.done.reverse ++ [.block marker body])) :
    Holds e (f.addBlock (.block marker body)) events := by
  have hdone : (f.addBlock (.block marker body)).done = .block marker body :: f.done := by
    rw [Frame.addBlock, Frame.flush_of_pending hpending]
  refine ⟨⟨events, ?_, ?_⟩, ?_, ?_⟩
  · rw [Frame.pending_addBlock]
    exact (List.append_nil _).symm
  · rwa [hdone, List.reverse_cons]
  · intro p hp
    rw [hdone, List.head?_cons, Option.mem_some_iff] at hp
    rw [← hp]
    rfl
  · rw [Frame.pending_addBlock]
    exact fun line hline => absurd hline List.not_mem_nil

theorem enclosing_congr {g : Frame} (h : f.colons = g.colons) (outer : List Frame) :
    enclosing f outer = enclosing g outer := by
  cases outer with
  | nil => rfl
  | cons parent outer => rw [enclosing, enclosing, h]

/-! ## One line, and all of them -/

/-- **A line plays one part.** -/
theorem Follows.step {s : Scan} (h : Follows s events) {line : Text} (hline : line ≠ []) :
    ∃ event : Event, event.row = row s.fence line ∧ Follows (s.step line) (events ++ [event]) := by
  obtain ⟨top, outer, fence⟩ := s
  obtain ⟨before, held, rfl, haround, hheld⟩ := h
  dsimp only at haround hheld
  rcases plain_or_marker fence line with hplain | ⟨rfl, hcovers, colons, rest, hmarker⟩
  · refine ⟨.line line, (row_eq_plain_iff.2 hplain).symm, ?_⟩
    rw [step_of_plain hplain, List.append_assoc]
    have hsame : enclosing (top.addLine line) outer = enclosing top outer :=
      enclosing_congr rfl outer
    exact ⟨before, held ++ [.line line], rfl, haround, hsame ▸ hheld.addLine hline⟩
  · have hrow : row none line = .marker colons rest := row_eq_marker_iff.2 ⟨hcovers, hmarker⟩
    cases hcloses : closes (enclosing top outer) colons rest with
    | false =>
      refine ⟨.opening colons rest, hrow.symm, ?_⟩
      rw [step_of_opening hcovers hmarker hcloses]
      refine ⟨_, [], (List.append_nil _).symm, ?_, .empty _ _ _⟩
      refine .block (by simpa using haround) top.pending_flush ?_ ?_
      · rw [enclosing_congr top.colons_flush]
        exact hheld.passages
      · rwa [enclosing_congr top.colons_flush]
    | true =>
      refine ⟨.closing colons rest, hrow.symm, ?_⟩
      cases haround with
      | text => exact absurd hcloses Bool.false_ne_true
      | @block _ _ parent outer before events hparent hpending hdone hopens =>
        rw [step_of_closing hcovers hmarker hcloses]
        refine ⟨before,
          events ++ .opening top.colons top.marker :: (held ++ [.closing colons rest]), by simp,
          by simpa using hparent, ?_⟩
        dsimp only
        rw [enclosing_congr (parent.colons_addBlock top.toBlock)]
        exact Holds.addBlock hpending (.block hdone hopens hheld.passages hcloses)

theorem Follows.foldl {lines : List Text} {s : Scan} (h : Follows s events)
    (hlines : ∀ line ∈ lines, line ≠ []) :
    ∃ more : List Event, more.map Event.row = rowsFrom s.fence lines ∧
      Follows (lines.foldl Scan.step s) (events ++ more) := by
  induction lines generalizing s events with
  | nil => exact ⟨[], rfl, by rwa [List.append_nil]⟩
  | cons line lines ih =>
    obtain ⟨hline, hlines⟩ := List.forall_mem_cons.1 hlines
    obtain ⟨event, hevent, hstep⟩ := h.step hline
    obtain ⟨more, hmore, hfoldl⟩ := ih hstep hlines
    refine ⟨event :: more, ?_, ?_⟩
    · rw [List.map_cons, hevent, hmore, fence_step, rowsFrom]
    · rwa [List.append_assoc] at hfoldl

/-- **Blocks that are still open** end with the text. -/
theorem Around.reads (h : Around f.colons f.marker outer before) {held : List Event}
    (hheld : Reads (enclosing f outer) held f.passages) :
    Reads none (before ++ held) (closeAll f outer) := by
  induction outer generalizing f before held with
  | nil =>
    cases h
    exact hheld
  | cons parent outer ih =>
    cases h with
    | @block _ _ _ _ before events hparent hpending hdone hopens =>
      have hpassages : parent.passages = parent.done.reverse := by
        rw [Frame.passages, Frame.flush_of_pending hpending]
      rw [closeAll, List.append_assoc, List.append_assoc]
      refine ih (by simpa using hparent) ?_
      rw [enclosing_congr (parent.colons_addBlock f.toBlock), Frame.passages_addBlock, hpassages]
      exact .unclosed hdone hopens hheld

end Frames

theorem ne_nil_of_mem_completeLines {t line : Text} (h : line ∈ Text.completeLines t) :
    line ≠ [] := by
  fun_induction Text.completeLines t with
  | case1 => exact absurd h List.not_mem_nil
  | case2 t ih =>
    rcases List.mem_cons.1 h with rfl | h
    · exact List.cons_ne_nil _ _
    · exact ih h
  | case3 d t _ hnil ih =>
    obtain rfl : line = [d] := by simpa using h
    exact List.cons_ne_nil _ _
  | case4 d t first rest hlines _ ih =>
    rcases List.mem_cons.1 h with rfl | h
    · exact List.cons_ne_nil _ _
    · exact ih (by simp [*])

/-- **The passages of a text are spelled by its lines**, each in one part. -/
theorem exists_reads (t : Text) :
    ∃ events : List Event, events.map Event.row = rows t ∧ Reads none events (passages t) := by
  have hstart : Follows ⟨.empty 0 [], [], none⟩ [] :=
    ⟨[], [], rfl, .text, .empty _ _ _⟩
  obtain ⟨events, hrows, before, held, rfl, haround, hheld⟩ :=
    hstart.foldl fun line => ne_nil_of_mem_completeLines (t := t)
  exact ⟨before ++ held, hrows, haround.reads (.closed hheld.passages)⟩

/-- **Nothing is lost and nothing is told twice.**  The runs hold the plain lines of the text, byte
for byte and in order; no run is empty, and no two are neighbours.  Every marker line opens one
block or closes the innermost open one; those that open a block are, in order, the blocks, each with
what follows its colons as its marker. -/
theorem passages_conserve (t : Text) :
    (leaves (passages t)).flatten = ((rows t).filterMap Row.plain?).flatten ∧
      Separated (passages t) ∧
      ∃ events : List Event, events.map Event.row = rows t ∧ Reads none events (passages t) ∧
        markers (passages t) = events.filterMap Event.opened? := by
  obtain ⟨events, hrows, hreads⟩ := exists_reads t
  refine ⟨?_, hreads.separated, events, hrows, hreads, hreads.filterMap_opened?.symm⟩
  rw [← hrows]
  exact hreads.flatten_leaves

end WikiPress.Collapsible
