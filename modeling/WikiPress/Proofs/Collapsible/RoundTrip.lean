import WikiPress.Proofs.Collapsible.Frames

/-!
# Proofs/Collapsible/RoundTrip — printed blocks are read back

    :::: outer      opens a block                    ⟨outer⟩
    ::: inner       opens a block inside it          ⟨inner⟩ ⟨outer⟩
    text            is pending in the innermost      ⟨inner⟩ ⟨outer⟩
    :::::           closes the innermost             ⟨outer⟩
    ::::            …and then the one around it

A block may be opened with any number of colons and closed with any number that is not smaller,
whatever the blocks around it and inside it use.  Reading a printed list of passages
(`foldl_step_printAll`) leaves the frames around it alone, adds the passages to the innermost one
and ends outside fenced code, so a closing line always meets the frame of its own block.
-/

namespace WikiPress.Collapsible

/-! ## Printing -/

/-- A passage to be printed: every block with the colons of its opening and of its closing line. -/
inductive Draft
  /-- A run of plain text. -/
  | run (text : Text)
  /-- A block: its colons, what follows them on the opening line, and what it holds. -/
  | block (opening closing : Nat) (marker : Text) (body : List Draft)

namespace Draft

mutual

/-- The text of a passage: a run as it is, a block between its two marker lines. -/
def print : Draft → Text
  | run text => text
  | block opening closing marker body =>
    List.replicate opening ':' ++ marker ++ ['\n'] ++ printAll body
      ++ List.replicate closing ':' ++ ['\n']

/-- The texts of some passages, one after the other. -/
def printAll : List Draft → Text
  | [] => []
  | d :: ds => print d ++ printAll ds

end

mutual

/-- The passage that is printed. -/
def passage : Draft → Passage
  | run text => .run text
  | block _ _ marker body => .block marker (passages body)

/-- The passages that are printed. -/
def passages : List Draft → List Passage
  | [] => []
  | d :: ds => passage d :: passages ds

end

/-- Whether a passage is a run of plain text. -/
def isRun : Draft → Bool
  | run _ => true
  | block .. => false

end Draft

/-- The lines of a text without their line ends. -/
def contents (t : Text) : List Text := (Text.completeLines t).map withoutLineEnd

/-- A run: complete lines that close every fence they open, without marker lines outside fenced
code. -/
structure IsRun (t : Text) : Prop where
  complete : t.getLast? = some '\n'
  closed : Fence.after none (contents t) = none
  plain : ∀ line ∈ Fence.outside none (contents t), markerLine? line = none

/-- What may follow the colons of an opening line: something that is not blank, on one line, and
that is neither taken for a colon nor for a part of the line end. -/
structure IsMarker (t : Text) : Prop where
  notBlank : Text.allBlank t = false
  oneLine : '\n' ∉ t
  noColon : t.head? ≠ some ':'
  noReturn : t.getLast? ≠ some '\r'

/-- **Passages that can be told apart in print**: no two runs stand side by side, and a block is
closed with at least as many colons as it is opened with, which are three or more. -/
inductive WellFormed : List Draft → Prop
  | nil : WellFormed []
  | run {text : Text} {rest : List Draft} (htext : IsRun text)
      (hnext : ∀ d ∈ rest.head?, d.isRun = false) (hrest : WellFormed rest) :
      WellFormed (.run text :: rest)
  | block {opening closing : Nat} {marker : Text} {body rest : List Draft} (hopening : 3 ≤ opening)
      (hclosing : opening ≤ closing) (hmarker : IsMarker marker) (hbody : WellFormed body)
      (hrest : WellFormed rest) : WellFormed (.block opening closing marker body :: rest)

/-! ## Lines -/

section Lines

variable {f : Frame} {outer : List Frame}

/-- A run is pending in the innermost frame. -/
theorem foldl_step_run {t : Text} (h : IsRun t) :
    (Text.completeLines t).foldl Scan.step ⟨f, outer, none⟩ =
      ⟨{ f with pending := (Text.completeLines t).reverse ++ f.pending }, outer, none⟩ := by
  rw [foldl_step_plain h.plain]
  exact congrArg (Scan.mk _ outer) h.closed

/-! ## Marker lines -/

theorem withoutLineEnd_newline {t : Text} (hnewline : '\n' ∉ t) (hreturn : t.getLast? ≠ some '\r') :
    withoutLineEnd (t ++ ['\n']) = t := by
  rw [withoutLineEnd, Text.dropEndWhile, List.reverse_append, List.reverse_singleton,
    List.singleton_append, List.dropWhile_cons_of_pos rfl]
  obtain rfl | ⟨t, d, rfl⟩ := List.eq_nil_or_concat' t
  · rfl
  · have hd : (d == '\n' || d == '\r') = false := by
      rw [Bool.or_eq_false_iff, beq_eq_false_iff_ne, beq_eq_false_iff_ne]
      constructor
      · rintro rfl
        exact hnewline (by simp)
      · rintro rfl
        exact hreturn (by simp)
    exact Text.dropEndWhile_append_singleton hd t

theorem unindent?_colon (t : Text) : Fence.unindent? (':' :: t) = some (':' :: t) := rfl

/-- A line of colons opens no fence. -/
theorem open?_colon (t : Text) : Fence.open? (':' :: t) = none := by
  rw [Fence.open?, Fence.read?, unindent?_colon]
  rfl

/-- The colons of a marker line end where something else follows them. -/
theorem markerLine?_colons {n : Nat} (hn : 3 ≤ n) {rest : Text} (hrest : rest.head? ≠ some ':') :
    markerLine? (List.replicate n ':' ++ rest) = some (n, rest) := by
  obtain ⟨m, rfl⟩ : ∃ m, n = m + 1 := ⟨n - 1, by omega⟩
  have hindent : Fence.unindent? (List.replicate (m + 1) ':' ++ rest) =
      some (List.replicate (m + 1) ':' ++ rest) := rfl
  obtain ⟨hcolons, hbehind⟩ := Text.takeWhile_replicate_append (m + 1) hrest
  rw [markerLine?, hindent]
  dsimp only
  rw [hcolons, hbehind, List.length_replicate, if_pos hn]

/-- What the scan finds in an opening line. -/
theorem markerLine?_opening {opening : Nat} {marker : Text} (hopening : 3 ≤ opening)
    (hmarker : IsMarker marker) :
    Fence.covers none (withoutLineEnd (List.replicate opening ':' ++ marker ++ ['\n'])) = false ∧
      markerLine? (withoutLineEnd (List.replicate opening ':' ++ marker ++ ['\n'])) =
        some (opening, marker) := by
  have hne : marker ≠ [] := fun hnil => by
    have hblank := hmarker.notBlank
    rw [hnil] at hblank
    exact absurd hblank (by decide)
  have hcontent : withoutLineEnd (List.replicate opening ':' ++ marker ++ ['\n']) =
      List.replicate opening ':' ++ marker := by
    refine withoutLineEnd_newline ?_ ?_
    · rw [List.mem_append, List.mem_replicate]
      rintro (⟨-, hcolon⟩ | hmem)
      · exact absurd hcolon (by decide)
      · exact hmarker.oneLine hmem
    · rw [List.getLast?_append_of_ne_nil _ hne]
      exact hmarker.noReturn
  have hfence : Fence.open? (List.replicate opening ':' ++ marker) = none := by
    obtain ⟨n, rfl⟩ : ∃ n, opening = n + 1 := ⟨opening - 1, by omega⟩
    exact open?_colon _
  rw [hcontent, Fence.covers, hfence]
  exact ⟨rfl, markerLine?_colons hopening hmarker.noColon⟩

/-- A marker closes no block. -/
theorem IsMarker.closes_eq_false {marker : Text} (h : IsMarker marker) (enclosing : Option Nat)
    (colons : Nat) : closes enclosing colons marker = false := by
  cases enclosing with
  | none => rfl
  | some opening => rw [closes, h.notBlank, Bool.false_and]

/-- **An opening line opens a block**, whatever is open. -/
theorem step_opening {opening : Nat} {marker : Text} (hopening : 3 ≤ opening)
    (hmarker : IsMarker marker) :
    Scan.step ⟨f, outer, none⟩ (List.replicate opening ':' ++ marker ++ ['\n']) =
      ⟨.empty opening marker, f.flush :: outer, none⟩ := by
  obtain ⟨hcovers, hline⟩ := markerLine?_opening hopening hmarker
  exact step_of_opening hcovers hline (hmarker.closes_eq_false _ _)

/-- **A closing line closes the innermost block**, if it has as many colons as its opening line. -/
theorem step_closing {closing : Nat} (hclosing : 3 ≤ closing) (hcolons : f.colons ≤ closing)
    (parent : Frame) :
    Scan.step ⟨f, parent :: outer, none⟩ (List.replicate closing ':' ++ ['\n']) =
      ⟨parent.addBlock f.toBlock, outer, none⟩ := by
  obtain ⟨n, rfl⟩ : ∃ n, closing = n + 1 := ⟨closing - 1, by omega⟩
  have hcontent : withoutLineEnd (List.replicate (n + 1) ':' ++ ['\n']) =
      List.replicate (n + 1) ':' := by
    refine withoutLineEnd_newline ?_ ?_
    · rw [List.mem_replicate]
      exact fun h => absurd h.2 (by decide)
    · rw [List.getLast?_replicate, if_neg n.succ_ne_zero]
      decide
  have hmarker : markerLine? (List.replicate (n + 1) ':') = some (n + 1, []) := by
    have hnil : ([] : Text).head? ≠ some ':' := by decide
    have h := markerLine?_colons hclosing hnil
    rwa [List.append_nil] at h
  have hfence : Fence.open? (List.replicate (n + 1) ':') = none := open?_colon _
  refine step_of_closing ?_ (hcontent ▸ hmarker) ?_
  · rw [hcontent, Fence.covers, hfence]
    rfl
  · simpa [closes, Text.allBlank] using hcolons

end Lines

/-! ## Printed passages -/

/-- The complete lines of a printed block. -/
theorem completeLines_block {opening closing : Nat} {marker inner rest : Text}
    (hmarker : '\n' ∉ marker) (hinner : inner = [] ∨ inner.getLast? = some '\n') :
    Text.completeLines (List.replicate opening ':' ++ marker ++ ['\n'] ++ inner
        ++ List.replicate closing ':' ++ ['\n'] ++ rest) =
      (List.replicate opening ':' ++ marker ++ ['\n']) :: (Text.completeLines inner
        ++ (List.replicate closing ':' ++ ['\n']) :: Text.completeLines rest) := by
  have hcolons : ∀ n, '\n' ∉ List.replicate n ':' := fun n h =>
    absurd (List.eq_of_mem_replicate h) (by decide)
  have hopening : '\n' ∉ List.replicate opening ':' ++ marker := fun h =>
    (List.mem_append.1 h).elim (hcolons opening) hmarker
  have hlast : ∀ t : Text, (t ++ ['\n']).getLast? = some '\n' := fun t => List.getLast?_concat
  have hbody : ∀ t, Text.completeLines (inner ++ t) =
      Text.completeLines inner ++ Text.completeLines t := by
    intro t
    rcases hinner with rfl | hinner
    · rfl
    · exact Text.completeLines_append hinner t
  rw [List.append_assoc _ inner, List.append_assoc _ (inner ++ _), List.append_assoc _ _ rest,
    Text.completeLines_append (hlast _), Text.completeLines_of_not_mem hopening,
    List.append_assoc inner, List.append_assoc inner, hbody,
    Text.completeLines_append (hlast _), Text.completeLines_of_not_mem (hcolons closing)]
  rfl

/-- A printed list of passages is made of complete lines. -/
theorem WellFormed.complete {ds : List Draft} (h : WellFormed ds) :
    Draft.printAll ds = [] ∨ (Draft.printAll ds).getLast? = some '\n' := by
  have hlast : ∀ {s t : Text}, s.getLast? = some '\n' → (t = [] ∨ t.getLast? = some '\n') →
      (s ++ t).getLast? = some '\n' := by
    rintro s t hs (rfl | ht)
    · rwa [List.append_nil]
    · rw [List.getLast?_append, ht]
      rfl
  induction h with
  | nil => exact .inl rfl
  | run htext _ _ ih => exact .inr (hlast htext.complete ih)
  | block _ _ _ _ _ _ ih => exact .inr (hlast List.getLast?_concat ih)

/-- **Reading printed passages** adds them to the innermost frame; the frames around it and the
fence stay as they are.  A run that is still pending has to be ended by a block. -/
theorem foldl_step_printAll {ds : List Draft} (h : WellFormed ds) (f : Frame) (outer : List Frame)
    (hf : f.pending = [] ∨ ∀ d ∈ ds.head?, d.isRun = false) :
    ∃ g, (Text.completeLines (Draft.printAll ds)).foldl Scan.step ⟨f, outer, none⟩ =
        ⟨g, outer, none⟩ ∧ g.colons = f.colons ∧ g.marker = f.marker ∧
      g.passages = f.passages ++ Draft.passages ds := by
  induction h generalizing f outer with
  | nil => exact ⟨f, rfl, rfl, rfl, (List.append_nil _).symm⟩
  | @run text rest htext hnext _ ih =>
    have hpending : f.pending = [] := hf.resolve_right fun hrun =>
      absurd (hrun _ rfl) (by simp [Draft.isRun])
    have hne : Text.completeLines text ≠ [] := Text.completeLines_ne_nil fun hnil => by
      have hcomplete := htext.complete
      rw [hnil] at hcomplete
      exact absurd hcomplete (by decide)
    obtain ⟨g, hfold, hcolons, hmarker, hpassages⟩ :=
      ih { f with pending := (Text.completeLines text).reverse } outer (.inr hnext)
    refine ⟨g, ?_, hcolons, hmarker, ?_⟩
    · rw [Draft.printAll, Draft.print, Text.completeLines_append htext.complete, List.foldl_append,
        foldl_step_run htext, hpending, List.append_nil, hfold]
    · rw [hpassages, Frame.passages_of_pending hpending (List.reverse_ne_nil_iff.2 hne),
        List.reverse_reverse, Text.flatten_completeLines, List.append_assoc]
      rfl
  | @block opening closing marker body rest hopening hclosing hmarker hbody _ ihbody ihrest =>
    -- the block is read into a frame of its own, which its closing line adds to `f`
    obtain ⟨inner, hinner, hcolons, hmarked, hheld⟩ :=
      ihbody (.empty opening marker) (f.flush :: outer) (.inl rfl)
    have htoBlock : inner.toBlock = .block marker (Draft.passages body) := by
      rw [Frame.toBlock, hmarked, hheld]
      rfl
    obtain ⟨g, hfold, hcolons', hmarked', hpassages⟩ :=
      ihrest (f.addBlock inner.toBlock) outer (.inl f.pending_flush)
    refine ⟨g, ?_, hcolons'.trans f.colons_flush, hmarked'.trans f.marker_flush, ?_⟩
    · have hthree : inner.colons ≤ closing := hcolons ▸ hclosing
      rw [Draft.printAll, Draft.print, completeLines_block hmarker.oneLine hbody.complete,
        List.foldl_cons, step_opening hopening hmarker, List.foldl_append, hinner, List.foldl_cons,
        step_closing (hopening.trans hclosing) hthree, Frame.addBlock_flush, hfold]
    · rw [hpassages, Frame.passages_addBlock, htoBlock, List.append_assoc]
      rfl

/-- **Printed blocks are read back**: the passages of a printed text are the passages that were
printed, however many colons each block was opened and closed with. -/
theorem passages_printAll {ds : List Draft} (h : WellFormed ds) :
    passages (Draft.printAll ds) = Draft.passages ds := by
  obtain ⟨g, hfold, -, -, hpassages⟩ := foldl_step_printAll h (.empty 0 []) [] (.inl rfl)
  rw [passages, hfold]
  exact hpassages

/-- An outer block that uses fewer colons than the one inside it. -/
theorem passages_printAll_nested :
    WellFormed [.block 3 4 (lit " outer") [.block 5 5 (lit " inner")
        [.run (lit "```\n::: code\n```\n")], .run (lit "between\n")], .run (lit "behind\n")] ∧
      passages (lit "::: outer\n::::: inner\n```\n::: code\n```\n:::::\nbetween\n::::\nbehind\n") =
        [.block (lit " outer") [.block (lit " inner") [.run (lit "```\n::: code\n```\n")],
          .run (lit "between\n")], .run (lit "behind\n")] := by
  have hcode : IsRun (lit "```\n::: code\n```\n") := ⟨by decide, by decide, by decide⟩
  have hbetween : IsRun (lit "between\n") := ⟨by decide, by decide, by decide⟩
  have hbehind : IsRun (lit "behind\n") := ⟨by decide, by decide, by decide⟩
  have houter : IsMarker (lit " outer") := ⟨by decide, by decide, by decide, by decide⟩
  have hinner : IsMarker (lit " inner") := ⟨by decide, by decide, by decide, by decide⟩
  have hwell : WellFormed [.block 3 4 (lit " outer") [.block 5 5 (lit " inner")
      [.run (lit "```\n::: code\n```\n")], .run (lit "between\n")], .run (lit "behind\n")] :=
    .block (by decide) (by decide) houter
      (.block (by decide) (by decide) hinner (.run hcode (by simp) .nil)
        (.run hbetween (by simp) .nil))
      (.run hbehind (by simp) .nil)
  exact ⟨hwell, passages_printAll hwell⟩

end WikiPress.Collapsible
