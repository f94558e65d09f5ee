import WikiPress.Markdown.Document
import WikiPress.Proofs.Markdown.LinkTargets
import WikiPress.Proofs.Text.Lines
import Mathlib.Tactic.IntervalCases

/-!
# Proofs/Markdown/Listing — headings with lists of links, line by line

    ## lang - ( 2 )               heading
                                  list
    - [](/a.md "#")       ──▸       item ─ paragraph
    - [](/b.md "#")                 item ─ paragraph
                                  heading
    ## work - ( 0 )

A listing is a heading and, behind a blank line, links as the items of a list.  While listings are
read, the last line is a heading or a link; a blank line ends either of them, and the next heading
ends the list.  So the blocks of listings are those of one after the other (`finish_foldl_lines`).
-/

namespace WikiPress.Markdown

open Markdown.Span (hashLink)

/-- The content of a block of one line. -/
def ofLine (line : Text) : Text := [line].flatMap fun line => line ++ ['\n']

theorem ofLine_eq (line : Text) : ofLine line = line ++ ['\n'] := List.append_nil _

/-- A heading and the paths linked under it. -/
structure Listing where
  level : Nat
  title : Text
  paths : List Text

namespace Listing

/-- A heading as a line. -/
def headLine (level : Nat) (title : Text) : Text := List.replicate level '#' ++ ' ' :: title

/-- A link as a line. -/
def linkLine (p : Text) : Text := '-' :: ' ' :: hashLink p

/-- **The lines of a listing.** -/
def lines (l : Listing) : List Text :=
  headLine l.level l.title ::
    match l.paths with
    | [] => []
    | paths => [] :: paths.map linkLine

/-- The lines of listings, with a blank line between them. -/
def allLines : List Listing → List Text
  | [] => []
  | [l] => l.lines
  | l :: rest => l.lines ++ [] :: allLines rest

/-- The text of a heading. -/
def heading (l : Listing) : Text := ofLine (Opening.headingText (' ' :: l.title))

/-- The text of a link. -/
def link (p : Text) : Text := ofLine (hashLink p)

variable {ι : Type}

/-- A paragraph as an item. -/
def item (content : ι) : Block ι := .item [.paragraph content]

/-- **The blocks of a listing**, with the content of its heading and of its links. -/
def blocks (heading : Listing → ι) (link : Text → ι) (l : Listing) : List (Block ι) :=
  .heading l.level (heading l) ::
    match l.paths with
    | [] => []
    | paths => [.list (.bullet '-') true (paths.map fun p => item (link p))]

/-- **A pass that goes block by block** changes the contents of listings, if it goes into lists and
changes the contents of headings and items. -/
theorem map_blocks {κ : Type} {F : Block ι → Block κ} {heading : Listing → ι} {heading' : Listing → κ}
    {link : Text → ι} {link' : Text → κ}
    (hheading : ∀ l : Listing, F (.heading l.level (heading l)) = .heading l.level (heading' l))
    (hlist : ∀ items, F (.list (.bullet '-') true items) = .list (.bullet '-') true (items.map F))
    (hitem : ∀ p, F (item (link p)) = item (link' p)) (ls : List Listing) :
    (ls.flatMap (blocks heading link)).map F = ls.flatMap (blocks heading' link') := by
  rw [List.map_flatMap]
  refine List.flatMap_congr fun l _ => ?_
  have hitems : ((l.paths.map fun p => item (link p)).map F) = l.paths.map fun p => item (link' p) := by
    rw [List.map_map]
    exact List.map_congr_left fun p _ => hitem p
  unfold blocks
  rw [List.map_cons, hheading]
  rcases hpaths : l.paths with _ | ⟨p, paths⟩
  · rfl
  · rw [hpaths] at hitems
    dsimp only
    rw [List.map_singleton, hlist, hitems]

end Listing

namespace Draft

variable {done : List Finished} {before : List Text} {p q : Text} {blank : Bool}

/-! ## Between two lines -/

/-- The draft with nothing open. -/
def inDocument (done : List Finished) (blank : Bool) : Draft := ⟨⟨.document, done, [], blank⟩, [], []⟩

/-- The draft behind a heading. -/
def inHeading (level : Nat) (text : Text) (done : List Finished) : Draft :=
  ⟨⟨.heading level, [], [text], false⟩, [⟨.document, done, [], false⟩], []⟩

/-- The items of links, each behind another one. -/
def items (before : List Text) : List Finished :=
  before.map fun p => ⟨Listing.item (Listing.link p), false, false⟩

/-- The list that holds the links before the last one. -/
def linkList (before : List Text) : Frame := ⟨.list (.bullet '-'), items before, [], false⟩

/-- The draft behind a link, with the links before it in the same list. -/
def inLink (p : Text) (before : List Text) (done : List Finished) : Draft :=
  ⟨⟨.paragraph false, [], [hashLink p], false⟩,
    [⟨.item 2, [], [], false⟩, linkList before, ⟨.document, done, [], false⟩], []⟩

/-- The draft behind a link and a blank line. -/
def afterLink (p : Text) (before : List Text) (done : List Finished) : Draft :=
  ⟨⟨.item 2, [⟨.paragraph (Listing.link p), true, false⟩], [], true⟩,
    [linkList before, ⟨.document, done, [], false⟩], []⟩

/-! ## Line after line -/

theorem readLine_blank_inHeading (level : Nat) (text : Text) :
    (inHeading level text done).readLine [] =
      inDocument (⟨.heading level (ofLine text), true, false⟩ :: done) true := rfl

theorem readLine_headLine {level : Nat} (hlow : 1 ≤ level) (hhigh : level ≤ 6) (title : Text) :
    (inDocument done blank).readLine (Listing.headLine level title) =
      inHeading level (Opening.headingText (' ' :: title)) done := by
  interval_cases level <;> rfl

theorem readLine_blank_inLink : (inLink p before done).readLine [] = afterLink p before done := rfl

/-- The state behind the marker of an item. -/
def atItem (q : Text) (before : List Text) (done : List Finished) (blank : Bool) : LineState :=
  ⟨⟨.empty (.item 2), [linkList before, ⟨.document, done, [], blank⟩], []⟩, [], ⟨2, 0, hashLink q⟩,
    false⟩

theorem openAll_atItem (fuel : Nat) (lazy : Bool) (depth : Nat) :
    (atItem q before done blank).openAll fuel lazy depth = atItem q before done blank := by
  cases fuel with
  | zero => rfl
  | succ fuel =>
    have hopen : (atItem q before done blank).open? lazy (depth < LineState.nestingLimit) = none := by
      cases decide (depth < LineState.nestingLimit) <;> rfl
    rw [LineState.openAll, hopen]
    rfl

theorem addText_atItem : (atItem q before done blank).addText = inLink q before done := rfl

/-- **A line that opens an item** goes on with the link. -/
theorem addText_openAll {s : LineState} {lazy : Bool} (hplain : s.draft.top.kind.isVerbatim = false)
    (hopen : s.open? lazy true = some (atItem q before done blank)) (fuel : Nat) :
    (LineState.openAll (fuel + 1) lazy 1 s).addText = inLink q before done := by
  have hnest : decide (1 < LineState.nestingLimit) = true := rfl
  have hgo : ((atItem q before done blank).draft.top.kind.takesText
      || (atItem q before done blank).spent) = false := rfl
  rw [LineState.openAll, hplain, if_neg Bool.false_ne_true, hnest, hopen]
  dsimp only
  rw [hgo, if_neg Bool.false_ne_true, openAll_atItem, addText_atItem]

theorem readLine_linkLine :
    (inDocument done blank).readLine (Listing.linkLine q) = inLink q [] done := by
  have hread : (inDocument done blank).readLine (Listing.linkLine q) =
      (LineState.openAll ((Listing.linkLine q).length + 2) false 1
        ⟨inDocument done blank, [], .start (Listing.linkLine q), false⟩).addText := rfl
  have hopen : LineState.open? false true
      ⟨inDocument done blank, [], .start (Listing.linkLine q), false⟩ =
        some (atItem q [] done blank) := rfl
  rw [hread, addText_openAll rfl hopen]

/-- **A further link** ends the item before it. -/
theorem readLine_linkLine_inLink :
    (inLink p before done).readLine (Listing.linkLine q) = inLink q (p :: before) done := by
  have hread : (inLink p before done).readLine (Listing.linkLine q) =
      (LineState.openAll ((Listing.linkLine q).length + 2) true 1
        ⟨⟨linkList before, [⟨.document, done, [], false⟩], []⟩,
          [⟨.item 2, [], [], false⟩, ⟨.paragraph false, [], [hashLink p], false⟩],
          .start (Listing.linkLine q), false⟩).addText := rfl
  have hopen : LineState.open? true true
      ⟨⟨linkList before, [⟨.document, done, [], false⟩], []⟩,
        [⟨.item 2, [], [], false⟩, ⟨.paragraph false, [], [hashLink p], false⟩],
        .start (Listing.linkLine q), false⟩ = some (atItem q (p :: before) done false) := rfl
  rw [hread, addText_openAll rfl hopen]

/-- **Links one after another** are in one list. -/
theorem foldl_linkLine (paths : List Text) (p : Text) (before : List Text) (done : List Finished) :
    ∃ q earlier, (q :: earlier).reverse = (p :: before).reverse ++ paths ∧
      (paths.map Listing.linkLine).foldl readLine (inLink p before done) = inLink q earlier done := by
  induction paths generalizing p before with
  | nil => exact ⟨p, before, (List.append_nil _).symm, rfl⟩
  | cons path paths ih =>
    obtain ⟨q, earlier, hpaths, hread⟩ := ih path (p :: before)
    refine ⟨q, earlier, ?_, ?_⟩
    · rw [hpaths, List.reverse_cons, List.append_assoc]
      rfl
    · rw [List.map_cons, List.foldl_cons, readLine_linkLine_inLink, hread]

/-! ## The list of links -/

/-- No blank line stands between the items of a list of links. -/
theorem isTight (last : Finished) (hlast : last.separated = false) (before : List Text) :
    (!((last :: items before).any Finished.separated
      || Frame.separatedBy (last :: items before))) = true := by
  have hnone : ∀ f : Finished → Bool, (∀ p, f ⟨Listing.item (Listing.link p), false, false⟩ = false) →
      (items before).any f = false := by
    intro f hf
    rw [items, List.any_map, List.any_eq_false]
    exact fun p _ => by simp [hf p]
  rw [List.any_cons, hlast, Frame.separatedBy, List.tail_cons, hnone _ fun _ => rfl,
    hnone _ fun _ => rfl]
  rfl

theorem map_block_items (blank : Bool) :
    (⟨Listing.item (Listing.link p), blank, false⟩ :: items before).reverse.map Finished.block =
      (p :: before).reverse.map fun p => Listing.item (Listing.link p) := by
  rw [List.map_reverse, List.map_reverse, List.map_cons, List.map_cons, items, List.map_map]
  rfl

/-- The list that ends with a link. -/
def listBlock (p : Text) (before : List Text) : Block Text :=
  .list (.bullet '-') true ((p :: before).reverse.map fun p => Listing.item (Listing.link p))

/-- The end of the text ends the list. -/
theorem finish_inLink : (inLink p before done).finish =
    (done.reverse.map Finished.block ++ [listBlock p before], []) := by
  have hfinish : (inLink p before done).finish =
      (((⟨.list (.bullet '-')
        (!((⟨Listing.item (Listing.link p), false, false⟩ :: items before).any Finished.separated
          || Frame.separatedBy (⟨Listing.item (Listing.link p), false, false⟩ :: items before)))
        ((⟨Listing.item (Listing.link p), false, false⟩ :: items before).reverse.map Finished.block),
          false, false⟩ : Finished) :: done).reverse.map Finished.block, []) := rfl
  rw [hfinish, isTight _ rfl, map_block_items, List.reverse_cons, List.map_append]
  rfl

/-- …and so does a heading behind a blank line. -/
theorem readLine_headLine_afterLink {level : Nat} (hlow : 1 ≤ level) (hhigh : level ≤ 6)
    (title : Text) :
    (afterLink p before done).readLine (Listing.headLine level title) =
      inHeading level (Opening.headingText (' ' :: title))
        (⟨listBlock p before, true, false⟩ :: done) := by
  have hread : (afterLink p before done).readLine (Listing.headLine level title) =
      inHeading level (Opening.headingText (' ' :: title))
        (⟨.list (.bullet '-')
          (!((⟨Listing.item (Listing.link p), true, false⟩ :: items before).any Finished.separated
            || Frame.separatedBy (⟨Listing.item (Listing.link p), true, false⟩ :: items before)))
          ((⟨Listing.item (Listing.link p), true, false⟩ :: items before).reverse.map Finished.block),
            true, false⟩ :: done) := by
    interval_cases level <;> rfl
  rw [hread, isTight _ rfl, map_block_items]
  rfl

/-! ## Listing after listing -/

/-- **A draft that a heading makes a draft of given blocks**, with the heading open. -/
def Expects (d : Draft) (bs : List (Block Text)) : Prop :=
  ∀ level title, 1 ≤ level → level ≤ 6 → ∃ done, done.reverse.map Finished.block = bs ∧
    d.readLine (Listing.headLine level title) =
      inHeading level (Opening.headingText (' ' :: title)) done

/-- **A draft of given blocks**, whether the text ends or goes on behind a blank line. -/
structure Holds (d : Draft) (bs : List (Block Text)) : Prop where
  finish : d.finish = (bs, [])
  readLine : (d.readLine []).Expects bs

theorem expects_inDocument (done : List Finished) (blank : Bool) :
    (inDocument done blank).Expects (done.reverse.map Finished.block) :=
  fun _ title hlow hhigh => ⟨done, rfl, readLine_headLine hlow hhigh title⟩

theorem holds_inHeading (level : Nat) (text : Text) (done : List Finished) :
    (inHeading level text done).Holds
      (done.reverse.map Finished.block ++ [.heading level (ofLine text)]) := by
  have hblocks : ∀ blank,
      ((⟨.heading level (ofLine text), blank, false⟩ : Finished) :: done).reverse.map Finished.block =
        done.reverse.map Finished.block ++ [.heading level (ofLine text)] := by
    intro blank
    rw [List.reverse_cons, List.map_append]
    rfl
  constructor
  · rw [← hblocks false]
    rfl
  · rw [readLine_blank_inHeading, ← hblocks true]
    exact expects_inDocument _ _

theorem holds_inLink (p : Text) (before : List Text) (done : List Finished) :
    (inLink p before done).Holds (done.reverse.map Finished.block ++ [listBlock p before]) := by
  refine ⟨finish_inLink, fun level title hlow hhigh => ?_⟩
  refine ⟨⟨listBlock p before, true, false⟩ :: done, ?_, ?_⟩
  · rw [List.reverse_cons, List.map_append]
    rfl
  · rw [readLine_blank_inLink, readLine_headLine_afterLink hlow hhigh]

/-- **The lines of a listing** add its blocks. -/
theorem Expects.foldl_lines {d : Draft} {bs : List (Block Text)} (h : d.Expects bs) {l : Listing}
    (hlow : 1 ≤ l.level) (hhigh : l.level ≤ 6) : (l.lines.foldl Draft.readLine d).Holds
      (bs ++ l.blocks Listing.heading Listing.link) := by
  obtain ⟨done, rfl, hread⟩ := h l.level l.title hlow hhigh
  unfold Listing.lines Listing.blocks
  rw [List.foldl_cons, hread]
  rcases l.paths with _ | ⟨path, paths⟩
  · exact holds_inHeading ..
  · obtain ⟨q, earlier, hpaths, hlinks⟩ :=
      foldl_linkLine paths path [] (⟨.heading l.level l.heading, true, false⟩ :: done)
    have hheld := holds_inLink q earlier (⟨.heading l.level l.heading, true, false⟩ :: done)
    rw [listBlock, hpaths, List.reverse_cons, List.map_append, List.append_assoc] at hheld
    dsimp only
    rw [List.foldl_cons, readLine_blank_inHeading, List.map_cons, List.foldl_cons, readLine_linkLine]
    exact hlinks ▸ hheld

/-- **The blocks of listings** are those of one after the other. -/
theorem finish_foldl_lines {ls : List Listing} (hls : ∀ l ∈ ls, 1 ≤ l.level ∧ l.level ≤ 6) :
    ((Listing.allLines ls).foldl Draft.readLine initial).finish =
      (ls.flatMap (Listing.blocks Listing.heading Listing.link), []) := by
  have hall : ∀ ls, ls ≠ [] → (∀ l ∈ ls, 1 ≤ l.level ∧ l.level ≤ 6) → ∀ {d bs}, Expects d bs →
      ((Listing.allLines ls).foldl Draft.readLine d).finish =
        (bs ++ ls.flatMap (Listing.blocks Listing.heading Listing.link), []) := by
    intro ls hne hls d bs h
    induction ls generalizing d bs with
    | nil => exact absurd rfl hne
    | cons l ls ih =>
      obtain ⟨⟨hlow, hhigh⟩, hls⟩ := List.forall_mem_cons.1 hls
      have hheld := h.foldl_lines hlow hhigh
      cases ls with
      | nil => rw [List.flatMap_cons, List.flatMap_nil, List.append_nil]; exact hheld.finish
      | cons l' ls =>
        have hrest := ih (List.cons_ne_nil _ _) hls hheld.readLine
        rw [List.append_assoc] at hrest
        rw [Listing.allLines, List.foldl_append, List.foldl_cons, hrest]
        · rfl
        · exact List.cons_ne_nil _ _
  cases ls with
  | nil => rfl
  | cons l ls => exact hall _ (List.cons_ne_nil _ _) hls (expects_inDocument [] false)

end Draft

/-! ## From stage to stage -/

section

variable {ι κ σ : Type} {f : ι → σ → κ × σ} {s : σ}

mutual

theorem Block.mapState_of_fixed (h : ∀ content, (f content s).2 = s) : ∀ b : Block ι,
    b.mapState f s = ((b.mapState (fun content (u : Unit) => ((f content s).1, u)) ()).1, s)
  | .paragraph content | .heading _ content | .term content => by
    simp only [Block.mapState, h content]
  | .rule | .checkbox _ | .code _ _ | .html _ => rfl
  | .quote body | .list _ _ body | .item body | .definitions body | .details _ body
  | .footnote _ _ body => by
    simp only [Block.mapState, mapStates_of_fixed h body, mapContent]
  | .table columns head rows => by
    have hcells : ∀ cells : List ι, Block.mapState.mapCells f cells s =
        ((Block.mapState.mapCells (fun content (u : Unit) => ((f content s).1, u)) cells ()).1, s) := by
      intro cells
      induction cells with
      | nil => rfl
      | cons cell cells ih => simp only [Block.mapState.mapCells, h cell, ih]
    have hrows : ∀ rows : List (List ι), Block.mapState.mapRows f rows s =
        ((Block.mapState.mapRows (fun content (u : Unit) => ((f content s).1, u)) rows ()).1, s) := by
      intro rows
      induction rows with
      | nil => rfl
      | cons row rows ih => simp only [Block.mapState.mapRows, hcells row, ih]
    simp only [Block.mapState, hcells head, hrows rows]

/-- **A state that no content changes** stays, and the contents are changed one by one. -/
theorem mapStates_of_fixed (h : ∀ content, (f content s).2 = s) : ∀ blocks : List (Block ι),
    mapStates f blocks s = (mapContent (fun content => (f content s).1) blocks, s)
  | [] => rfl
  | block :: rest => by
    simp only [mapStates, mapContent, Block.mapState_of_fixed h block, mapStates_of_fixed h rest]

end

theorem mapContent_eq_map (g : ι → κ) (blocks : List (Block ι)) : mapContent g blocks =
    blocks.map fun b => (b.mapState (fun content (s : Unit) => (g content, s)) ()).1 := by
  induction blocks with
  | nil => rfl
  | cons block blocks ih => exact congrArg _ ih

/-- **The contents of listings**, changed one by one. -/
theorem mapContent_listings (g : ι → κ) (heading : Listing → ι) (link : Text → ι) (ls : List Listing) :
    mapContent g (ls.flatMap (Listing.blocks heading link)) =
      ls.flatMap (Listing.blocks (fun l => g (heading l)) fun p => g (link p)) := by
  rw [mapContent_eq_map]
  refine Listing.map_blocks ?_ (fun items => ?_) ?_ ls
  · exact fun _ => rfl
  · rw [← mapContent_eq_map]
    rfl
  · exact fun _ => rfl

theorem noteLabels_eq_flatMap (blocks : List (Block ι)) :
    noteLabels blocks = blocks.flatMap Block.noteLabels := by
  induction blocks with
  | nil => rfl
  | cons block blocks ih => rw [noteLabels, List.flatMap_cons, ih]

/-- Listings have no notes. -/
theorem noteLabels_listings (heading : Listing → ι) (link : Text → ι) (ls : List Listing) :
    noteLabels (ls.flatMap (Listing.blocks heading link)) = [] := by
  have hitems : ∀ paths : List Text, noteLabels (paths.map fun p => Listing.item (link p)) = [] := by
    intro paths
    rw [noteLabels_eq_flatMap, List.flatMap_eq_nil_iff]
    rintro block hblock
    obtain ⟨p, -, rfl⟩ := List.mem_map.1 hblock
    rfl
  rw [noteLabels_eq_flatMap, List.flatMap_assoc, List.flatMap_eq_nil_iff]
  intro l _
  unfold Listing.blocks
  rcases l.paths with _ | ⟨p, paths⟩
  · rfl
  · exact (List.append_nil _).trans (hitems (p :: paths))

mutual

theorem Block.takeNotes_of_noteLabels (keys : List Text) : ∀ b : Block ι,
    b.noteLabels = [] → b.takeNotes keys = (b, [])
  | .quote body, h | .list _ _ body, h | .item body, h | .definitions body, h | .details _ body, h => by
    rw [Block.noteLabels] at h
    rw [Block.takeNotes, takeNotes_of_noteLabels keys body h]
  | .footnote _ _ _, h => by cases h
  | .paragraph _, _ | .heading _ _, _ | .term _, _ | .rule, _ | .checkbox _, _ | .code _ _, _
  | .html _, _ | .table _ _ _, _ => rfl

/-- **Blocks without notes** stay as they are. -/
theorem takeNotes_of_noteLabels (keys : List Text) : ∀ blocks : List (Block ι),
    noteLabels blocks = [] → takeNotes keys blocks = (blocks, [])
  | [], _ => rfl
  | block :: rest, h => by
    rw [noteLabels, List.append_eq_nil_iff] at h
    obtain ⟨hblock, hrest⟩ := h
    rw [takeNotes, Block.takeNotes_of_noteLabels keys block hblock,
      takeNotes_of_noteLabels _ rest hrest]
    · rfl
    · rintro label references body rfl
      cases hblock

end

end

/-! ## The content of a page -/

mutual

/-- Without notes nothing is counted… -/
theorem Inline.numberNotes_empty : ∀ i : Inline, (i.numberNotes ⟨[], 0⟩).2 = ⟨[], 0⟩
  | .text _ | .softBreak | .hardBreak | .code _ | .html _ | .note _ _ => rfl
  | .emphasis body | .strong body | .deleted body | .link _ body | .image _ body => by
    simp only [Inline.numberNotes, numberNotes_empty body]

/-- …among inlines. -/
theorem numberNotes_empty : ∀ inlines : List Inline, (numberNotes inlines ⟨[], 0⟩).2 = ⟨[], 0⟩
  | [] => rfl
  | inline :: rest => by
    simp only [numberNotes, Inline.numberNotes_empty inline, numberNotes_empty rest]

end

theorem gatherNotes_of_noteLabels {blocks : List (Block (List Inline))}
    (h : noteLabels blocks = [])
    (h' : noteLabels (mapContent (fun inlines => (numberNotes inlines ⟨[], 0⟩).1) blocks) = []) :
    gatherNotes blocks = mapContent (fun inlines => (numberNotes inlines ⟨[], 0⟩).1) blocks := by
  have hnumber : mapStates numberNotes blocks (NoteTable.ofLabels []) =
      (mapContent (fun inlines => (numberNotes inlines ⟨[], 0⟩).1) blocks, ⟨[], 0⟩) :=
    mapStates_of_fixed numberNotes_empty blocks
  unfold gatherNotes
  dsimp only
  rw [h, hnumber]
  dsimp only
  rw [takeNotes_of_noteLabels _ _ h']
  exact List.append_nil _

theorem readTasks_eq_map (blocks : List (Block (List Inline))) :
    readTasks blocks = blocks.map Block.readTasks := by
  induction blocks with
  | nil => rfl
  | cons block blocks ih => exact congrArg _ ih

/-- Listings have no boxes. -/
theorem readTasks_listings (heading : Listing → List Inline) {link : Text → List Inline}
    (hlink : ∀ p t rest, link p ≠ .text t :: rest) (ls : List Listing) :
    readTasks (ls.flatMap (Listing.blocks heading link)) =
      ls.flatMap (Listing.blocks heading link) := by
  rw [readTasks_eq_map]
  refine Listing.map_blocks ?_ (fun items => ?_) (fun p => congrArg Block.item ?_) ls
  · exact fun _ => rfl
  · rw [← readTasks_eq_map]
    rfl
  · unfold readCheckbox
    split
    · next heq => exact absurd (Block.paragraph.inj (List.cons.inj heq).1) (hlink p _ _)
    · rfl

/-- The inlines of a text without definitions and notes. -/
def content (dialect : Dialect) (t : Text) : List Inline :=
  let inlines := joinTexts (numberNotes (Span.inlines dialect [] t) ⟨[], 0⟩).1
  if dialect.autolink then linkEmails inlines else inlines

/-- The inlines of a link. -/
def linkTo (p : Text) : List Inline := [.link ⟨p, ['#']⟩ []]

theorem inlines_link (dialect : Dialect) {p : Text} (hp : p.head? = some '/') (h : IsDestination p) :
    Span.inlines dialect [] (Listing.link p) = linkTo p := by
  have htrim : Text.dropEndWhile isSpace (Listing.link p) = Text.dropEndWhile isSpace (hashLink p) := by
    rw [Listing.link, ofLine_eq, Text.dropEndWhile, Text.dropEndWhile, List.reverse_append]
    rfl
  have hsame : Span.inlines dialect [] (Listing.link p) = Span.inlines dialect [] (hashLink p) := by
    unfold Span.inlines
    rw [htrim]
  rw [hsame, Span.inlines_hashLink h hp, linkTo]

theorem blocks_congr {ι : Type} (heading : Listing → ι) {link link' : Text → ι} {ls : List Listing}
    (h : ∀ l ∈ ls, ∀ p ∈ l.paths, link p = link' p) :
    ls.flatMap (Listing.blocks heading link) = ls.flatMap (Listing.blocks heading link') := by
  refine List.flatMap_congr fun l hl => ?_
  have hitems : (l.paths.map fun p => Listing.item (link p)) =
      l.paths.map fun p => Listing.item (link' p) :=
    List.map_congr_left fun p hp => congrArg Listing.item (h l hl p hp)
  unfold Listing.blocks
  rcases hpaths : l.paths with _ | ⟨p, paths⟩
  · rfl
  · rw [hpaths] at hitems
    exact congrArg (fun items => [_, Block.list _ true items]) hitems

/-- **The blocks of a text of listings** whose paths are destinations. -/
theorem blocks_of_allLines {dialect : Dialect} {t : Text} {ls : List Listing}
    (ht : sourceLines t = Listing.allLines ls) (hlevels : ∀ l ∈ ls, 1 ≤ l.level ∧ l.level ≤ 6)
    (hpaths : ∀ l ∈ ls, ∀ p ∈ l.paths, p.head? = some '/' ∧ IsDestination p) :
    blocks dialect t = ls.flatMap (Listing.blocks (fun l => content dialect l.heading) linkTo) := by
  have hread : mapContent (Span.inlines dialect [])
      (ls.flatMap (Listing.blocks Listing.heading Listing.link)) =
        ls.flatMap (Listing.blocks (fun l => Span.inlines dialect [] l.heading) linkTo) := by
    rw [mapContent_listings]
    exact blocks_congr _ fun l hl p hp => inlines_link dialect (hpaths l hl p hp).1 (hpaths l hl p hp).2
  have hlinked : ∀ p t rest, joinTexts (numberNotes (linkTo p) ⟨[], 0⟩).1 ≠ .text t :: rest := by
    rintro p t rest h
    cases h
  have hnotes := gatherNotes_of_noteLabels
    (noteLabels_listings (fun l => Span.inlines dialect [] l.heading) linkTo ls)
    (by rw [mapContent_listings]; exact noteLabels_listings _ _ ls)
  unfold blocks
  rw [ht, Draft.finish_foldl_lines hlevels]
  dsimp only
  rw [hread, hnotes, mapContent_listings, mapContent_listings, readTasks_listings _ hlinked]
  unfold content
  split
  · rw [mapContent_listings]
    rfl
  · rfl

end WikiPress.Markdown
