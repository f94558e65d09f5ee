import WikiPress.Page.Render
import WikiPress.Proofs.Collapsible.Frames
import WikiPress.Proofs.Page.Renumbering

/-!
# Proofs/Page/Isolation — what is rendered on a context and what was rendered before

    a context with blocks  b₀ b₁ b₂      a ⟨5⟩ c      ⟨5⟩ = … ⟨3⟩ … ⟨4⟩ …
    an empty context                     a ⟨2⟩ c      ⟨2⟩ = … ⟨0⟩ … ⟨1⟩ …

The blocks of a text are numbered from the number of blocks that the context has already.  The text
and the bodies of its blocks are converted one by one, with a place for each block directly inside.
Where these conversions hold exactly the places that belong there (`Options.KeepsPlaces`), each place
is filled with its own block, and what is rendered does not depend on the blocks of the context
(`renderOn_isolated`).  A comment that is written like a place, and a place that is taken for code,
are what makes a difference (`renderOn_not_isolated`).
-/

namespace WikiPress.Page

open List (Forall₂)
open Collapsible (Passage)

/-! ## Levels -/

mutual

/-- The number of blocks that a passage is and has inside. -/
def blockCount : Passage → Nat
  | .run _ => 0
  | .block _ body => blockCounts body + 1

/-- The number of blocks among and inside passages. -/
def blockCounts : List Passage → Nat
  | [] => 0
  | passage :: rest => blockCount passage + blockCounts rest

end

/-- A text with places: its runs, and the numbers of the blocks between them. -/
abbrev Level := List (Text ⊕ Nat)

namespace Level

/-- The text of passages, where `before` blocks were rendered before them. -/
def ofPassages : List Passage → (before : Nat) → Level
  | [], _ => []
  | .run text :: rest, before => .inl text :: ofPassages rest before
  | .block _ body :: rest, before =>
    .inr (before + blockCounts body) :: ofPassages rest (before + blockCounts body + 1)

/-- The Markdown of a text with places. -/
def markdown (level : Level) : Text := level.flatMap (Sum.elim id placeOf)

/-- The numbers of the places. -/
def numbers (level : Level) : List Nat := level.filterMap Sum.getRight?

/-- The same text, where `n` more blocks were rendered before. -/
def later (n : Nat) (level : Level) : Level := level.map (Sum.map id (· + n))

end Level

mutual

/-- The texts of the blocks that a passage is and has inside, from the inside out. -/
def levelsInside : Passage → (before : Nat) → List Level
  | .run _, _ => []
  | .block _ body, before => levelsAmong body before ++ [Level.ofPassages body before]

/-- The texts of the blocks among and inside passages. -/
def levelsAmong : List Passage → (before : Nat) → List Level
  | [], _ => []
  | passage :: rest, before =>
    levelsInside passage before ++ levelsAmong rest (before + blockCount passage)

end

/-- **The texts with places that a text consists of**: those of its blocks, and its own. -/
def levels (t : Text) (before : Nat) : List Level :=
  levelsAmong (Collapsible.passages t) before ++ [Level.ofPassages (Collapsible.passages t) before]

/-- **The places of a text are kept**: its HTML holds them in order and no other ones, and it shows
none of them as text. -/
def Options.KeepsPlaces (o : Options) (level : Level) : Prop :=
  (places (o.convert level.markdown)).map (Text.unsigned? Text.bound64) = level.numbers.map some ∧
    ∀ index ∈ level.numbers, ¬ Text.escape (placeMark index) <:+: o.convert level.markdown

instance (o : Options) (level : Level) : Decidable (o.KeepsPlaces level) :=
  inferInstanceAs (Decidable (_ ∧ _))

/-! ## Markdown with places -/

theorem Level.ofPassages_add (ps : List Passage) (before n : Nat) :
    ofPassages ps (before + n) = (ofPassages ps before).later n := by
  induction ps generalizing before with
  | nil => rfl
  | cons p ps ih =>
    cases p with
    | run text => exact congrArg _ (ih before)
    | block marker body =>
      have hfirst : before + n + blockCounts body = before + blockCounts body + n := by omega
      have hnext : before + n + blockCounts body + 1 = before + blockCounts body + 1 + n := by omega
      rw [ofPassages, ofPassages, hnext, ih, hfirst]
      rfl

theorem Level.markdown_append (level level' : Level) :
    markdown (level ++ level') = level.markdown ++ level'.markdown := List.flatMap_append

theorem Level.numbers_later (n : Nat) (level : Level) :
    (level.later n).numbers = level.numbers.map (· + n) := by
  induction level with
  | nil => rfl
  | cons part level ih =>
    cases part with
    | inl text => exact ih
    | inr index => exact congrArg _ ih

theorem Level.ofPassages_cons (p : Passage) (rest : List Passage) (before : Nat) :
    ofPassages (p :: rest) before = ofPassages [p] before ++ ofPassages rest (before + blockCount p) := by
  cases p <;> rfl

mutual

/-- A passage is assembled to its Markdown with places, and adds its blocks. -/
theorem assemblePassage_eq (o : Options) : ∀ (p : Passage) (blocks : List Text),
    (o.assemblePassage p blocks).1 = (Level.ofPassages [p] blocks.length).markdown ∧
      (o.assemblePassage p blocks).2.length = blocks.length + blockCount p
  | .run text, blocks => ⟨(List.append_nil text).symm, rfl⟩
  | .block marker body, blocks => by
    obtain ⟨-, hlength⟩ := assemble_eq o body blocks
    unfold Options.assemblePassage
    dsimp only
    rw [hlength, List.length_append, hlength]
    exact ⟨(List.append_nil (placeOf _)).symm, rfl⟩

theorem assemble_eq (o : Options) : ∀ (ps : List Passage) (blocks : List Text),
    (o.assemble ps blocks).1 = (Level.ofPassages ps blocks.length).markdown ∧
      (o.assemble ps blocks).2.length = blocks.length + blockCounts ps
  | [], blocks => ⟨rfl, rfl⟩
  | p :: rest, blocks => by
    obtain ⟨hfirst, hlength⟩ := assemblePassage_eq o p blocks
    obtain ⟨hrest, hend⟩ := assemble_eq o rest (o.assemblePassage p blocks).2
    unfold Options.assemble
    dsimp only
    rw [hfirst, hrest, hend, hlength, Level.ofPassages_cons p rest, Level.markdown_append]
    exact ⟨rfl, Nat.add_assoc _ _ _⟩

end

/-- Markdown with places is the same before and after more blocks, but for their numbers. -/
theorem swap_markdown {own : List Nat} (level : Level) (n n' : Nat)
    (hown : ∀ index ∈ (level.later n).numbers, index ∈ own) :
    Text.Swap (RenumbersLine own) (level.later n).markdown (level.later n').markdown := by
  induction level with
  | nil => exact .nil
  | cons part level ih =>
    cases part with
    | inl text => exact (Text.Swap.refl text).append (ih hown)
    | inr index =>
      obtain ⟨hindex, hrest⟩ := List.forall_mem_cons.1 hown
      have hplace : Text.Swap (RenumbersLine own) (placeOf (index + n)) (placeOf (index + n')) := by
        rw [placeOf_eq, placeOf_eq]
        exact (Text.Swap.single ⟨_, _, ⟨_, hindex, _, rfl, rfl⟩, rfl, rfl⟩).append (.refl _)
      exact hplace.append (ih hrest)

/-! ## Filling the places -/

/-- **The places of a text are filled alike** after any blocks, if these places are kept. -/
theorem fillPlaces_isolated (o : Options) (ps : List Passage) (blocks blocks' new : List Text)
    (h : o.KeepsPlaces (.ofPassages ps blocks.length))
    (h' : o.KeepsPlaces (.ofPassages ps blocks'.length)) :
    fillPlaces (blocks ++ new) (o.convert (Level.ofPassages ps blocks.length).markdown) =
      fillPlaces (blocks' ++ new) (o.convert (Level.ofPassages ps blocks'.length).markdown) := by
  have hlater : ∀ n, Level.ofPassages ps n = (Level.ofPassages ps 0).later n := fun n => by
    rw [← Level.ofPassages_add, Nat.zero_add]
  -- the `i`-th of the new blocks has a place with the number `n + i`
  have hblocks : ∀ bs : List Text, o.KeepsPlaces (.ofPassages ps bs.length) →
      (places (o.convert (Level.ofPassages ps bs.length).markdown)).map (blockAt (bs ++ new)) =
        (Level.ofPassages ps 0).numbers.map fun index => new[index]?.getD [] := by
    intro bs hkeeps
    calc (places (o.convert (Level.ofPassages ps bs.length).markdown)).map (blockAt (bs ++ new))
        = ((places (o.convert (Level.ofPassages ps bs.length).markdown)).map
            (Text.unsigned? Text.bound64)).map fun index? =>
              (index?.bind fun index => (bs ++ new)[index]?).getD [] := by
          rw [List.map_map]
          rfl
      _ = (Level.ofPassages ps bs.length).numbers.map fun index => (bs ++ new)[index]?.getD [] := by
          rw [hkeeps.1, List.map_map]
          rfl
      _ = (Level.ofPassages ps 0).numbers.map fun index => new[index]?.getD [] := by
          rw [hlater bs.length, Level.numbers_later, List.map_map]
          refine List.map_congr_left fun index _ => ?_
          rw [Function.comp_apply, List.getElem?_append_right (Nat.le_add_left _ _),
            Nat.add_sub_cancel]
  have hconvert : Text.Swap (RenumbersShown (Level.ofPassages ps blocks.length).numbers)
      (o.convert (Level.ofPassages ps blocks.length).markdown)
      (o.convert (Level.ofPassages ps blocks'.length).markdown) := by
    refine swap_convert o ?_
    rw [hlater blocks.length, hlater blocks'.length]
    exact swap_markdown _ _ _ fun _ hindex => hindex
  exact fillPlaces_eq_of_alike (alike_reading hconvert h.2) ((hblocks _ h).trans (hblocks _ h').symm)

mutual

theorem assemblePassage_isolated (o : Options) : ∀ (p : Passage) (blocks blocks' : List Text),
    (∀ level ∈ levelsInside p blocks.length, o.KeepsPlaces level) →
    (∀ level ∈ levelsInside p blocks'.length, o.KeepsPlaces level) →
      ∃ new, (o.assemblePassage p blocks).2 = blocks ++ new ∧
        (o.assemblePassage p blocks').2 = blocks' ++ new
  | .run text, blocks, blocks', _, _ => ⟨[], (List.append_nil _).symm, (List.append_nil _).symm⟩
  | .block marker body, blocks, blocks', h, h' => by
    rw [levelsInside, List.forall_mem_append] at h h'
    obtain ⟨new, hnew, hnew'⟩ := assemble_isolated o body blocks blocks' h.1 h'.1
    have hfill := fillPlaces_isolated o body blocks blocks' new (h.2 _ (List.mem_singleton_self _))
      (h'.2 _ (List.mem_singleton_self _))
    refine ⟨new ++ [o.detailsMarkup (Collapsible.Marker.read marker) (fillPlaces (blocks ++ new)
      (o.convert (Level.ofPassages body blocks.length).markdown))], ?_, ?_⟩
    · unfold Options.assemblePassage
      dsimp only
      rw [hnew, (assemble_eq o body blocks).1, List.append_assoc]
    · unfold Options.assemblePassage
      dsimp only
      rw [hnew', (assemble_eq o body blocks').1, List.append_assoc, hfill]

theorem assemble_isolated (o : Options) : ∀ (ps : List Passage) (blocks blocks' : List Text),
    (∀ level ∈ levelsAmong ps blocks.length, o.KeepsPlaces level) →
    (∀ level ∈ levelsAmong ps blocks'.length, o.KeepsPlaces level) →
      ∃ new, (o.assemble ps blocks).2 = blocks ++ new ∧ (o.assemble ps blocks').2 = blocks' ++ new
  | [], blocks, blocks', _, _ => ⟨[], (List.append_nil _).symm, (List.append_nil _).symm⟩
  | p :: rest, blocks, blocks', h, h' => by
    rw [levelsAmong, List.forall_mem_append] at h h'
    obtain ⟨first, hfirst, hfirst'⟩ := assemblePassage_isolated o p blocks blocks' h.1 h'.1
    have hlength := (assemblePassage_eq o p blocks).2
    have hlength' := (assemblePassage_eq o p blocks').2
    obtain ⟨new, hnew, hnew'⟩ := assemble_isolated o rest (o.assemblePassage p blocks).2
      (o.assemblePassage p blocks').2 (hlength ▸ h.2) (hlength' ▸ h'.2)
    refine ⟨first ++ new, ?_, ?_⟩
    · unfold Options.assemble
      dsimp only
      rw [hnew, hfirst, List.append_assoc]
    · unfold Options.assemble
      dsimp only
      rw [hnew', hfirst', List.append_assoc]

end

/-! ## Rendering -/

/-- **A text is the same HTML after any blocks** in which its places and those of its blocks are
kept, and the same blocks are added to them. -/
theorem renderBlocks_isolated (o : Options) (t : Text) (blocks blocks' : List Text)
    (h : ∀ level ∈ levels t blocks.length, o.KeepsPlaces level)
    (h' : ∀ level ∈ levels t blocks'.length, o.KeepsPlaces level) :
    (o.renderBlocks t blocks).1 = (o.renderBlocks t blocks').1 ∧
      ∃ new, (o.renderBlocks t blocks).2 = blocks ++ new ∧
        (o.renderBlocks t blocks').2 = blocks' ++ new := by
  rw [levels, List.forall_mem_append] at h h'
  obtain ⟨new, hnew, hnew'⟩ := assemble_isolated o (Collapsible.passages t) blocks blocks' h.1 h'.1
  have hfill := fillPlaces_isolated o (Collapsible.passages t) blocks blocks' new
    (h.2 _ (List.mem_singleton_self _)) (h'.2 _ (List.mem_singleton_self _))
  unfold Options.renderBlocks
  dsimp only
  rw [hnew, hnew', (assemble_eq o _ blocks).1, (assemble_eq o _ blocks').1]
  exact ⟨hfill, new, rfl, rfl⟩

/-- A text without marker lines outside fenced code is assembled to itself. -/
theorem assemble_of_plain (o : Options) {t : Text}
    (h : ∀ line ∈ Fence.outside none ((Text.completeLines t).map Collapsible.withoutLineEnd),
      Collapsible.markerLine? line = none) (blocks : List Text) :
    o.assemble (Collapsible.passages t) blocks = (t, blocks) ∧
      (Level.ofPassages (Collapsible.passages t) blocks.length).numbers = [] := by
  obtain ⟨rfl, hpassages⟩ | hpassages := Collapsible.passages_of_plain h
  · rw [hpassages]
    exact ⟨rfl, rfl⟩
  · rw [hpassages]
    exact ⟨congrArg (·, blocks) (List.append_nil t), rfl⟩

/-- Rendering converts the text, adding to the blocks, and completes the HTML, adding to the counts. -/
theorem renderOn_eq (o : Options) (t : Text) (c : Context) :
    o.renderOn t c =
      ((o.finish (o.renderBlocks (Text.trim t) c.blocks).1 c.counts).1,
        ⟨(o.finish (o.renderBlocks (Text.trim t) c.blocks).1 c.counts).2,
          (o.renderBlocks (Text.trim t) c.blocks).2⟩) := by
  unfold Options.renderOn
  dsimp only

/-- **What is rendered on a context does not depend on what was rendered before**: on two contexts
with the same counts a text gives the same HTML, headings and counts and adds the same blocks, if on
both its places and those of its blocks are kept.  Without a marker line there is nothing to fill, so
that all its comments stay. -/
theorem renderOn_isolated (o : Options) (t : Text) (c c' : Context) (hcounts : c.counts = c'.counts)
    (h : ∀ level ∈ levels (Text.trim t) c.blocks.length, o.KeepsPlaces level)
    (h' : ∀ level ∈ levels (Text.trim t) c'.blocks.length, o.KeepsPlaces level) :
    (o.renderOn t c).1 = (o.renderOn t c').1 ∧
      (o.renderOn t c).2.counts = (o.renderOn t c').2.counts ∧
      (∃ new, (o.renderOn t c).2.blocks = c.blocks ++ new ∧
        (o.renderOn t c').2.blocks = c'.blocks ++ new) ∧
      ((∀ line ∈ Fence.outside none
          ((Text.completeLines (Text.trim t)).map Collapsible.withoutLineEnd),
          Collapsible.markerLine? line = none) →
        (o.renderOn t c).1 = (o.finish (o.convert (Text.trim t)) c.counts).1) := by
  obtain ⟨hhtml, hblocks⟩ := renderBlocks_isolated o (Text.trim t) c.blocks c'.blocks h h'
  rw [renderOn_eq, renderOn_eq, hhtml, hcounts]
  refine ⟨rfl, rfl, hblocks, fun hplain => ?_⟩
  obtain ⟨hassemble, hnumbers⟩ := assemble_of_plain o hplain c.blocks
  have hkeeps := h _ (List.mem_append_right _ (List.mem_singleton_self _))
  have hmarkdown := (assemble_eq o (Collapsible.passages (Text.trim t)) c.blocks).1
  rw [hassemble] at hmarkdown
  have hplaces : places (o.convert (Text.trim t)) = [] := by
    have hread := hkeeps.1
    rw [hnumbers, ← hmarkdown] at hread
    exact List.map_eq_nil_iff.1 hread
  have hkept : (o.renderBlocks (Text.trim t) c.blocks).1 = o.convert (Text.trim t) := by
    unfold Options.renderBlocks
    rw [hassemble]
    exact fillPlaces_of_places hplaces c.blocks
  rw [← hhtml, hkept]

/-- A text with a comment and a block, on an empty context and after another text with a block. -/
theorem renderOn_isolated_after_block :
    let text := lit "x <!--y--> z\n\n::: s\nb\n:::"
    let after := (({} : Options).renderOn (lit "::: a\nb\n:::") {}).2
    ({} : Context).counts = after.counts ∧ after.blocks.length = 1 ∧
      (({} : Options).renderOn text {}).1 = (({} : Options).renderOn text after).1 := by
  refine ⟨by decide +kernel, by decide +kernel, ?_⟩
  exact (renderOn_isolated {} _ {} _ (by decide +kernel) (by decide +kernel) (by decide +kernel)).1

/-- **A comment written like a place is taken for one**: on its own it is removed, though the text has
no marker line, and after a text with a block it shows that block.  **A place that is taken for code**
shows how many blocks there were. -/
theorem renderOn_not_isolated :
    let comment := lit "<!--snipwiki-block:0-->"
    let code := lit "- a\n  ```\n```\n:::\n:::"
    let after := (({} : Options).renderOn (lit "::: a\nb\n:::") {}).2
    after.counts = ({} : Context).counts ∧
      (({} : Options).renderOn comment {}).1.html = [] ∧
      (({} : Options).renderOn comment after).1.html =
        lit "<details><summary>a</summary>\n<p>b</p>\n</details>" ∧
      (({} : Options).renderOn code {}).1.html ≠ (({} : Options).renderOn code after).1.html := by
  have hafter : (({} : Options).renderOn (lit "::: a\nb\n:::") {}).2 =
      ⟨[], [lit "<details><summary>a</summary>\n<p>b</p>\n</details>"]⟩ := by decide +kernel
  dsimp only
  rw [hafter]
  decide +kernel

end WikiPress.Page
