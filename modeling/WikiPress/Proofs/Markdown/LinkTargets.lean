import WikiPress.Markdown.Span
import WikiPress.Proofs.Markdown.Destination
import WikiPress.Proofs.Text.Basic

/-!
# Proofs/Markdown/LinkTargets — where the links of a text lead

A link comes into a text at a closing bracket, with the target written behind it, or as an address,
which has no title.  What is read afterwards may enclose it, but makes no other target of it
(`Avoids.pairRuns`).  So a target with a title is among the links only if some part of the text
was read as that target (`avoids_run`).

For an empty text with a path as its target and `#` as the title, the link leads to the path if the
path is a destination; otherwise there is no link to it at all (`mem_linkTargets_hashLink_iff`).
-/

namespace WikiPress.Markdown

/-! ## The targets of links -/

mutual

/-- The targets of the links that an inline is and holds; an image shows its text only. -/
def Inline.linkTargets : Inline → List Target
  | .link target body => target :: linkTargets body
  | .emphasis body => linkTargets body
  | .strong body => linkTargets body
  | .deleted body => linkTargets body
  | _ => []

/-- **The targets of the links** among and in inlines. -/
def linkTargets : List Inline → List Target
  | [] => []
  | i :: rest => i.linkTargets ++ linkTargets rest

end

/-- The targets of the links in a piece. -/
def Piece.linkTargets : Piece → List Target
  | .done i => i.linkTargets
  | .run _ => []

variable {target : Target}

theorem mem_linkTargets {inlines : List Inline} :
    target ∈ linkTargets inlines ↔ ∃ i ∈ inlines, target ∈ i.linkTargets := by
  induction inlines with
  | nil => simp [linkTargets]
  | cons i inlines ih => simp [linkTargets, ih]

/-- No link among pieces leads to the target. -/
def Avoids (target : Target) (pieces : List Piece) : Prop :=
  ∀ piece ∈ pieces, target ∉ piece.linkTargets

namespace Avoids

variable {pieces more : List Piece}

theorem nil : Avoids target [] := fun _ h => absurd h List.not_mem_nil

theorem cons_iff {piece : Piece} :
    Avoids target (piece :: pieces) ↔ target ∉ piece.linkTargets ∧ Avoids target pieces :=
  List.forall_mem_cons

theorem append_iff :
    Avoids target (pieces ++ more) ↔ Avoids target pieces ∧ Avoids target more :=
  List.forall_mem_append

theorem reverse (h : Avoids target pieces) : Avoids target pieces.reverse :=
  fun piece hpiece => h piece (List.mem_reverse.1 hpiece)

theorem settle (h : Avoids target pieces) : target ∉ linkTargets (pieces.map Piece.settle) := by
  rw [mem_linkTargets]
  rintro ⟨i, hi, htarget⟩
  obtain ⟨piece, hpiece, rfl⟩ := List.mem_map.1 hi
  refine h piece hpiece ?_
  cases piece with
  | done i => exact htarget
  | run r => cases htarget

end Avoids

/-- The partner of a closing run divides the pieces before it. -/
theorem eq_of_partner? {closer opener : DelimiterRun} {seen pieces between outer : List Piece}
    (h : partner? closer seen pieces = some (between, opener, outer)) :
    seen.reverse ++ pieces = between ++ .run opener :: outer := by
  induction pieces generalizing seen with
  | nil => cases h
  | cons piece pieces ih =>
    have hlater : partner? closer (piece :: seen) pieces = some (between, opener, outer) →
        seen.reverse ++ piece :: pieces = between ++ .run opener :: outer := by
      intro h
      rw [← ih h, List.reverse_cons, List.append_assoc, List.singleton_append]
    cases piece with
    | done i => exact hlater h
    | run r =>
      unfold partner? at h
      split at h
      · cases h
        rfl
      · exact hlater h

/-- **Pairing the runs makes no targets.** -/
theorem Avoids.pairWithin (fuel : Nat) {before pieces : List Piece} (hbefore : Avoids target before)
    (hpieces : Avoids target pieces) : Avoids target (pairWithin fuel before pieces) := by
  induction fuel generalizing before pieces with
  | zero => exact append_iff.2 ⟨hbefore.reverse, hpieces⟩
  | succ fuel ih =>
    rcases pieces with _ | ⟨piece, pieces⟩
    · exact hbefore.reverse
    · obtain ⟨hpiece, hrest⟩ := cons_iff.1 hpieces
      cases piece with
      | done i => exact ih (cons_iff.2 ⟨hpiece, hbefore⟩) hrest
      | run c =>
        unfold Markdown.pairWithin
        split
        next => exact ih (cons_iff.2 ⟨hpiece, hbefore⟩) hrest
        next =>
          dsimp only
          split
          next =>
            refine ih (cons_iff.2 ⟨?_, hbefore⟩) hrest
            split <;> exact List.not_mem_nil
          next between opener outer hpartner =>
            have hdivided : Avoids target (between ++ .run opener :: outer) :=
              eq_of_partner? hpartner ▸ hbefore
            obtain ⟨hbetween, houter⟩ := append_iff.1 hdivided
            have houter := (cons_iff.1 houter).2
            split
            next =>
              exact ih (cons_iff.2 ⟨List.not_mem_nil, append_iff.2 ⟨hbetween,
                cons_iff.2 ⟨List.not_mem_nil, houter⟩⟩⟩) hrest
            next =>
              generalize (if 2 ≤ opener.left && 2 ≤ c.left then 2 else 1) = used
              split
              next => exact append_iff.2 ⟨hbefore.reverse, hpieces⟩
              next =>
                have henclosed := hbetween.reverse.settle
                refine ih (cons_iff.2 ⟨?_, ?_⟩) ?_
                · unfold DelimiterRun.enclose
                  split
                  · exact henclosed
                  · split <;> exact henclosed
                · split
                  · exact houter
                  · exact cons_iff.2 ⟨List.not_mem_nil, houter⟩
                · split
                  · exact hrest
                  · exact cons_iff.2 ⟨List.not_mem_nil, hrest⟩

theorem Avoids.pairRuns {pieces : List Piece} (h : Avoids target pieces) :
    target ∉ Markdown.linkTargets (Markdown.pairRuns pieces) :=
  (nil.pairWithin _ h).settle

/-! ## Reading a text -/

namespace Span

/-- No link that has been read leads to the target. -/
def Scan.Avoids (target : Target) (s : Scan) : Prop :=
  Markdown.Avoids target s.pieces ∧ ∀ b ∈ s.brackets, Markdown.Avoids target b.outer

/-- **A step of the reading without the target**: it goes on in the text, and adds no link to it. -/
structure Scan.Passes (target : Target) (s s' : Scan) : Prop where
  rest : s'.rest <:+ s.rest
  avoids : s.Avoids target → s'.Avoids target

namespace Scan.Passes

variable {s s' s'' : Scan}

theorem trans (h : s.Passes target s') (h' : s'.Passes target s'') : s.Passes target s'' :=
  ⟨h'.rest.trans h.rest, h'.avoids ∘ h.avoids⟩

theorem advance (n : Nat) : s.Passes target (s.advance n) :=
  ⟨List.drop_suffix n s.rest, id⟩

theorem push {piece : Piece} (hpiece : target ∉ piece.linkTargets) :
    s.Passes target (s.push piece) :=
  ⟨List.suffix_rfl, fun h => ⟨Avoids.cons_iff.2 ⟨hpiece, h.1⟩, h.2⟩⟩

theorem add {i : Inline} (hi : target ∉ i.linkTargets) : s.Passes target (s.add i) := push hi

theorem choose {b : Bool} (h : s.Passes target s') (h' : s.Passes target s'') :
    s.Passes target (if b then s' else s'') := by
  cases b <;> assumption

theorem read (n : Nat) {i : Inline} (hi : target ∉ i.linkTargets) : s.Passes target (s.read n i) :=
  (advance n).trans (add hi)

theorem readText (n : Nat) (t : Text) : s.Passes target (s.readText n t) := read n List.not_mem_nil

theorem takeBack (n : Nat) {pieces : List Piece} (h : Markdown.Avoids target pieces) :
    Markdown.Avoids target (Span.takeBack n pieces) := by
  fun_induction Span.takeBack n pieces with
  | case1 => exact h
  | case2 => exact Avoids.cons_iff.2 ⟨List.not_mem_nil, (Avoids.cons_iff.1 h).2⟩
  | case3 _ _ _ _ _ ih => exact ih (Avoids.cons_iff.1 h).2
  | case4 => exact h

/-- An address has no title. -/
theorem address (htitle : target.title ≠ []) (found : Option Address.Found) (mark : Char) :
    s.Passes target (Span.address found mark s) := by
  unfold Span.address
  split
  next a _ =>
    have hback : s.Passes target { s with pieces := Span.takeBack a.rewound s.pieces } :=
      ⟨List.suffix_rfl, fun h => ⟨takeBack _ h.1, h.2⟩⟩
    refine (hback.trans (advance _)).trans (add ?_)
    simp only [Address.Found.link, Inline.linkTargets, Markdown.linkTargets, List.mem_cons,
      List.append_nil, List.not_mem_nil, or_false]
    rintro rfl
    exact htitle rfl
  next => exact readText _ _

/-- Every step that begins with no bracket. -/
theorem angle (htitle : target.title ≠ []) : s.Passes target (Span.angle s) := by
  have huntitled : ∀ url shown : Text,
      target ∉ (Inline.link ⟨url, []⟩ [.text shown]).linkTargets := by
    intro url shown
    simp only [Inline.linkTargets, Markdown.linkTargets, List.mem_cons, List.append_nil,
      List.not_mem_nil, or_false]
    rintro rfl
    exact htitle rfl
  unfold Span.angle
  dsimp only
  split
  · exact (advance _).trans (add (huntitled _ _))
  · split
    · exact (advance _).trans (add (huntitled _ _))
    · split
      · exact (advance _).trans (add List.not_mem_nil)
      · exact readText _ _

theorem delimiters (mark : Char) : s.Passes target (Span.delimiters mark s) := by
  unfold Span.delimiters
  dsimp only
  exact choose ((advance _).trans (push List.not_mem_nil))
    ((advance _).trans (add List.not_mem_nil))

theorem openBracket (image : Bool) : s.Passes target (Span.openBracket image s) := by
  refine ⟨List.drop_suffix _ s.rest, fun h => ⟨Avoids.nil, ?_⟩⟩
  unfold Span.openBracket
  dsimp only
  refine List.forall_mem_cons.2 ⟨h.1, ?_⟩
  have hbrackets := h.2
  dsimp only [Scan.advance]
  split
  next => exact fun b hb => absurd hb List.not_mem_nil
  next b outer heq =>
    rw [heq, List.forall_mem_cons] at hbrackets
    exact List.forall_mem_cons.2 hbrackets

/-- Without labels a target is written behind its bracket. -/
theorem inlineTarget?_of_target? {b : Bracket} {inside after rest : Text}
    (h : target? [] b inside after = some (target, rest)) :
    inlineTarget? after = some (target, rest) := by
  unfold target? at h
  split at h
  next found hfound => rw [hfound, h]
  next =>
    dsimp only at h
    split at h
    · cases h
    · cases h

/-- A closing bracket, unless the target is written behind it. -/
theorem closeBracket (htarget : ∀ rest, inlineTarget? (s.rest.drop 1) ≠ some (target, rest)) :
    s.Passes target (Span.closeBracket [] s) := by
  -- the pieces of the innermost bracket and those around it, put together in whatever way
  have hclose : ∀ {b outer pieces} (inBrackets linkEnded : Bool), s.brackets = b :: outer →
      (Markdown.Avoids target s.pieces → Markdown.Avoids target b.outer →
        Markdown.Avoids target pieces) →
      s.Passes target ⟨s.before, s.rest, pieces, outer, inBrackets, linkEnded⟩ := by
    intro b outer pieces inBrackets linkEnded hbrackets hpieces
    refine ⟨List.suffix_rfl, fun h => ?_⟩
    have hopen := h.2
    rw [hbrackets, List.forall_mem_cons] at hopen
    exact ⟨hpieces h.1 hopen.1, hopen.2⟩
  unfold Span.closeBracket
  dsimp only
  split
  next =>
    have hleft : s.Passes target { s with inBrackets := false } := ⟨List.suffix_rfl, id⟩
    exact hleft.trans (readText 1 [']'])
  next b outer hbrackets =>
    have hasText : s.Passes target (Scan.readText 1 [']']
        ⟨s.before, s.rest, b.reopen s.pieces, outer, false, s.linkEnded⟩) :=
      (hclose false s.linkEnded hbrackets fun hpieces houter => Avoids.append_iff.2
        ⟨hpieces, Avoids.cons_iff.2 ⟨List.not_mem_nil, houter⟩⟩).trans (readText 1 [']'])
    refine choose hasText ?_
    split
    next target' rest hread =>
      have hne : target ≠ target' := by
        rintro rfl
        exact htarget rest (inlineTarget?_of_target? hread)
      refine ⟨List.drop_suffix _ s.rest, fun h => ?_⟩
      have hbody : target ∉ Markdown.linkTargets (Markdown.pairRuns s.pieces.reverse) :=
        h.1.reverse.pairRuns
      have houter := (hclose false (s.linkEnded || !b.image) hbrackets fun _ houter => houter).avoids h
      refine ⟨Avoids.cons_iff.2 ⟨?_, houter.1⟩, houter.2⟩
      split
      · exact List.not_mem_nil
      · exact List.not_mem_cons_of_ne_of_not_mem hne hbody
    next =>
      split
      next label _ =>
        exact (hclose false s.linkEnded hbrackets fun hpieces houter => Avoids.append_iff.2
          ⟨fun piece hpiece => hpieces piece (List.mem_filter.1 hpiece).1,
            Avoids.cons_iff.2 ⟨List.not_mem_nil, houter⟩⟩).trans (advance 1)
      next => exact hasText

theorem lineBreak : s.Passes target (Span.lineBreak s) := by
  refine (read 1 ?_).trans (advance _)
  split <;> exact List.not_mem_nil

theorem backticks : s.Passes target (Span.backticks s) := by
  unfold Span.backticks
  dsimp only
  split
  · exact read _ List.not_mem_nil
  · exact readText _ _

theorem hyphens : s.Passes target (Span.hyphens s) := choose (readText _ _) (readText _ _)

theorem dots : s.Passes target (Span.dots s) := by
  unfold Span.dots
  split <;> exact readText _ _

theorem backslash : s.Passes target (Span.backslash s) := by
  unfold Span.backslash
  split
  · exact read _ List.not_mem_nil
  · exact choose (readText _ _) (readText _ _)
  · exact readText _ _

theorem ampersand : s.Passes target (Span.ampersand s) := by
  unfold Span.ampersand
  split
  · exact (advance _).trans (add List.not_mem_nil)
  · exact readText _ _

theorem exclamation : s.Passes target (Span.exclamation s) := by
  unfold Span.exclamation
  split
  · exact readText _ _
  · exact openBracket true
  · exact readText _ _

theorem plain (dialect : Dialect) : s.Passes target (Span.plain dialect s) := readText _ _

/-- **One step**, unless the target is written behind the next character. -/
theorem step (htitle : target.title ≠ []) (dialect : Dialect) (c : Char)
    (htarget : ∀ rest, inlineTarget? (s.rest.drop 1) ≠ some (target, rest)) :
    s.Passes target (Span.step dialect [] c s) := by
  unfold Span.step
  split
  · exact lineBreak
  · exact backticks
  · exact backslash
  · exact ampersand
  · exact angle htitle
  · exact delimiters _
  · exact delimiters _
  · exact delimiters _
  · exact openBracket false
  · exact closeBracket htarget
  · exact exclamation
  · exact choose (address htitle _ _) (plain dialect)
  · exact choose (address htitle _ _) (plain dialect)
  · exact choose (delimiters _) (plain dialect)
  · exact choose (delimiters _) (plain dialect)
  · exact choose hyphens (plain dialect)
  · exact choose dots (plain dialect)
  · exact plain dialect

end Scan.Passes

/-- **A text is read without a target** that is not written anywhere behind its next character. -/
theorem avoids_run (htitle : target.title ≠ []) (dialect : Dialect) (fuel : Nat) {s : Scan}
    (htarget : ∀ t, t <:+ s.rest.tail → ∀ rest, inlineTarget? t ≠ some (target, rest))
    (h : s.Avoids target) : (run dialect [] fuel s).Avoids target := by
  induction fuel generalizing s with
  | zero => exact h
  | succ fuel ih =>
    unfold run
    split
    next => exact h
    next c rest hrest =>
      have hstep : s.Passes target (step dialect [] c s) :=
        .step htitle dialect c (htarget _ (List.drop_one ▸ List.suffix_rfl))
      have htail : (step dialect [] c s).rest.tail <:+ s.rest.tail := by
        obtain ⟨before, hbefore⟩ := hstep.rest
        rw [← hbefore]
        rcases before with _ | ⟨d, before⟩
        · exact List.suffix_rfl
        · exact (List.tail_suffix _).trans (List.suffix_append _ _)
      exact ih (fun t ht => htarget t (ht.trans htail)) (hstep.avoids h)

theorem avoids_allPieces {pieces : List Piece} {brackets : List Bracket}
    (hpieces : Markdown.Avoids target pieces)
    (hbrackets : ∀ b ∈ brackets, Markdown.Avoids target b.outer) :
    Markdown.Avoids target (allPieces pieces brackets) := by
  induction brackets generalizing pieces with
  | nil => exact hpieces
  | cons b brackets ih =>
    rw [List.forall_mem_cons] at hbrackets
    exact ih (Avoids.append_iff.2 ⟨hpieces, Avoids.cons_iff.2 ⟨List.not_mem_nil, hbrackets.1⟩⟩)
      hbrackets.2

/-! ## The link line of a path -/

/-- A link without a text to a path, with a number sign as its title. -/
def hashLink (p : Text) : Text := lit "[]" ++ hashTarget p

variable {p : Text}

/-- The reading of a link behind its opening bracket. -/
def opened (p : Text) : Scan :=
  ⟨['['], ']' :: hashTarget p, [], [⟨false, 1, false, []⟩], true, false⟩

/-- Behind its opening bracket a link is read in as many steps as it has characters. -/
theorem inlines_hashLink_eq (dialect : Dialect) (p : Text) :
    inlines dialect [] (hashLink p) =
      let s := run dialect [] ((hashTarget p).length + 1) (opened p)
      pairRuns (allPieces s.pieces s.brackets).reverse := by
  have hclosed : hashLink p = ('[' :: ']' :: '(' :: p ++ lit " \"#\"") ++ [')'] := by
    rw [List.append_assoc]
    rfl
  have htrim : Text.dropEndWhile isSpace (hashLink p) = hashLink p := by
    rw [hclosed]
    exact Text.dropEndWhile_append_singleton (by decide) _
  unfold inlines
  rw [htrim]
  rfl

/-- **A path that is a destination is where its link leads**, and nothing else is read. -/
theorem inlines_hashLink (h : IsDestination p) (hp : p.head? = some '/') (dialect : Dialect) :
    inlines dialect [] (hashLink p) = [.link ⟨p, ['#']⟩ []] := by
  have htarget : target? [] ⟨false, 1, false, []⟩ [] (hashTarget p) = some (⟨p, ['#']⟩, []) := by
    unfold target?
    rw [h.inlineTarget? hp]
  have hclose : closeBracket [] (opened p) =
      ⟨(']' :: hashTarget p).reverse ++ ['['], [], [.done (.link ⟨p, ['#']⟩ [])], [], false, true⟩ := by
    unfold closeBracket opened
    simp [htarget, Scan.add, Scan.push, Scan.advanceTo, Scan.advance, pairRuns, pairWithin]
  rw [inlines_hashLink_eq]
  have hrun : run dialect [] ((hashTarget p).length + 1) (opened p) =
      run dialect [] (hashTarget p).length (closeBracket [] (opened p)) := rfl
  rw [hrun, hclose]
  cases (hashTarget p).length <;> rfl

/-- **A link leads to its path** if the path is a destination, and otherwise no link does. -/
theorem mem_linkTargets_hashLink_iff (hp : p.head? = some '/') (dialect : Dialect) :
    ⟨p, ['#']⟩ ∈ linkTargets (inlines dialect [] (hashLink p)) ↔ IsDestination p := by
  constructor
  · intro hmem
    by_contra hno
    -- the whole of what is written would be a destination, and a part of it is too short
    have htarget : ∀ t, t <:+ hashTarget p → ∀ rest, inlineTarget? t ≠ some (⟨p, ['#']⟩, rest) := by
      intro t ht rest hread
      have hlength := length_le_of_inlineTarget? hread (List.cons_ne_nil _ _)
      have hwhole : (hashTarget p).length ≤ t.length := by
        refine le_trans (le_of_eq ?_) (Nat.le_of_add_right_le hlength)
        rw [hashTarget, List.length_append]
        rfl
      rw [ht.eq_of_length (ht.length_le.antisymm hwhole)] at hread
      exact hno ((inlineTarget?_hashTarget_iff hp).1 ⟨rest, hread⟩)
    have hopened : (opened p).Avoids ⟨p, ['#']⟩ :=
      ⟨Avoids.nil, List.forall_mem_singleton.2 Avoids.nil⟩
    have hrun := avoids_run (s := opened p) (List.cons_ne_nil _ _) dialect ((hashTarget p).length + 1)
      htarget hopened
    rw [inlines_hashLink_eq] at hmem
    exact (avoids_allPieces hrun.1 hrun.2).reverse.pairRuns hmem
  · intro h
    rw [inlines_hashLink h hp]
    exact List.mem_cons_self

end Span

end WikiPress.Markdown
