import Mathlib.Data.List.Infix
import WikiPress.Proofs.Collapsible.Conservation
import WikiPress.Proofs.Collapsible.RoundTrip
import WikiPress.Proofs.Markdown.TopLevel
import WikiPress.Proofs.Page.Renumbering
import WikiPress.Proofs.Snippet.Shift

/-!
# Proofs/Markdown/Scanners — what the line scanners take for fenced code

    line               ```x    # a    ```    ``` a`b    # b    ::: c
    renderer           code    code   code   text       text   text
    scanners           code    code   code   code       code   code

The scanners that shift headings and find collapsible blocks open fenced code at every run of marks,
and end it at every run with blanks of any kind behind it.  A line with a fence that the rule judges
otherwise is misjudged; the scanners and the renderer agree on the code of a text at top level exactly
if it has no such line (`sees_same_code_iff`).
-/

namespace WikiPress

open Markdown Collapsible

namespace Markdown.FencedCode

variable {behind : Option Fence} {line : Text}

/-! ## Misjudged lines -/

/-- **A line whose fence the scanners judge otherwise than the rule**: a run of backticks with a
backtick behind it, which opens no code, or a run that would end the code but for blanks that are
neither spaces nor tabs. -/
def Misjudged : Option Fence → Text → Prop
  | none, line => ∃ fence info, Begins line fence info ∧ fence.mark = '`' ∧ '`' ∈ info
  | some fence, line => ∃ run blanks, Begins line run blanks ∧ run.mark = fence.mark ∧
      fence.size ≤ run.size ∧ Text.allBlank blanks = true ∧ blanks.all Text.isSpaceOrTab = false

theorem allBlank_of_all_isSpaceOrTab {t : Text} (h : t.all Text.isSpaceOrTab = true) :
    Text.allBlank t = true := by
  refine List.all_eq_true.2 fun c hc => ?_
  have hblank := List.all_eq_true.1 h c hc
  rw [Text.isSpaceOrTab, Bool.or_eq_true, beq_iff_eq, beq_iff_eq] at hblank
  rcases hblank with rfl | rfl <;> decide

/-- A line begins with one fence at most. -/
theorem exists_begins_iff {P : Fence → Text → Prop} {fence : Fence} {info : Text}
    (h : Begins line fence info) :
    (∃ fence info, Begins line fence info ∧ P fence info) ↔ P fence info := by
  constructor
  · rintro ⟨fence', info', h', hP⟩
    have heq := (read?_eq_some_iff.2 h').symm.trans (read?_eq_some_iff.2 h)
    obtain ⟨rfl, rfl⟩ := Prod.mk.inj (Option.some.inj heq)
    exact hP
  · exact fun hP => ⟨fence, info, h, hP⟩

theorem not_misjudged_of_read? (h : Fence.read? line = none) : ¬ Misjudged behind line := by
  cases behind with
  | none =>
    rintro ⟨fence, info, hbegins, -⟩
    exact absurd (h.symm.trans (read?_eq_some_iff.2 hbegins)) (by simp)
  | some fence =>
    rintro ⟨run, blanks, hbegins, -⟩
    exact absurd (h.symm.trans (read?_eq_some_iff.2 hbegins)) (by simp)

/-- **The scanners follow the rule on every line that is not misjudged**… -/
theorem next_eq_iff (behind : Option Fence) (line : Text) :
    Fence.next behind line = next behind line ↔ ¬ Misjudged behind line := by
  cases hread : Fence.read? line with
  | none =>
    refine iff_of_true ?_ (not_misjudged_of_read? hread)
    cases behind with
    | none => rw [Fence.next, next, Fence.open?, open?, hread]; rfl
    | some fence => rw [Fence.next, next, Fence.closedBy, endedBy, hread]
  | some found =>
    obtain ⟨run, rest⟩ := found
    have hbegins := read?_eq_some_iff.1 hread
    cases behind with
    | none =>
      rw [Fence.next, next, Fence.open?, open?, Misjudged, exists_begins_iff hbegins, hread]
      by_cases h : run.mark = '`' ∧ '`' ∈ rest <;> simp [h]
    | some fence =>
      rw [Fence.next, next, Fence.closedBy, endedBy, Misjudged, exists_begins_iff hbegins, hread]
      dsimp only
      by_cases hends : run.mark = fence.mark ∧ fence.size ≤ run.size
      · obtain ⟨hmark, hsize⟩ := hends
        by_cases hall : rest.all Text.isSpaceOrTab = true
        · simp [allBlank_of_all_isSpaceOrTab hall, hall]
        · by_cases hblank : Text.allBlank rest = true <;> simp [hmark, hsize, hall, hblank]
      · by_cases hmark : run.mark = fence.mark
        · have hsize : ¬ fence.size ≤ run.size := fun h => hends ⟨hmark, h⟩
          simp [hsize]
        · simp [hmark]

/-- **…and behind every part of the lines exactly if none of them is misjudged.** -/
theorem after_eq_iff (behind : Option Fence) (lines : List Text) :
    (∀ before, before <+: lines → Fence.after behind before = after behind before) ↔
      ∀ before line rest, lines = before ++ line :: rest → ¬ Misjudged (after behind before) line := by
  constructor
  · rintro h before line rest rfl
    have hbefore := h before (List.prefix_append _ _)
    have hline := h (before ++ [line]) ⟨rest, by simp⟩
    rw [Fence.after_append, after_append, hbefore] at hline
    exact (next_eq_iff _ line).1 hline
  · intro h before
    induction before using List.reverseRecOn with
    | nil => exact fun _ => rfl
    | append_singleton before line ih =>
      rintro ⟨rest, hrest⟩
      have hbefore := ih ⟨line :: rest, by rw [← hrest]; simp⟩
      have hline := h before line rest (by rw [← hrest]; simp)
      rw [Fence.after_append, after_append, hbefore]
      exact (next_eq_iff _ line).2 hline

/-- Lines that are not misjudged are covered alike. -/
theorem covers_eq (h : ¬ Misjudged behind line) : Fence.covers behind line = covers behind line := by
  cases behind with
  | none =>
    have hopen : Fence.open? line = open? line := (next_eq_iff none line).2 h
    rw [Fence.covers, covers, hopen]
  | some fence => rfl

/-- Whether the renderer reads the line at an index into fenced code, the lines that open and end it
included. -/
def shownAsCode (lines : List Text) (i : Nat) : Bool :=
  match lines[i]? with
  | some line =>
    let before := (lines.take i).foldl Draft.readLine Draft.initial
    before.codeFence?.isSome || (before.readLine line).codeFence?.isSome
  | none => false

/-- **Lines at top level**: behind each of them no quote, no list, no HTML and no other block that holds
blocks is open. -/
def IsTopLevel (lines : List Text) : Prop :=
  ∀ before, before <+: lines → (before.foldl Draft.readLine Draft.initial).IsFlat

instance (lines : List Text) : Decidable (IsTopLevel lines) :=
  decidable_of_iff (∀ before ∈ lines.inits, (before.foldl Draft.readLine Draft.initial).IsFlat)
    (forall_congr' fun before => by rw [List.mem_inits])

theorem covers_eq_isSome (behind : Option Fence) (line : Text) :
    covers behind line = (behind.isSome || (next behind line).isSome) := by
  cases behind with
  | none => rfl
  | some fence => rfl

theorem IsTopLevel.codeFence?_eq {lines before : List Text} (htop : IsTopLevel lines)
    (h : before <+: lines) :
    (before.foldl Draft.readLine Draft.initial).codeFence? = after none before :=
  Draft.codeFence?_foldl_readLine fun first hfirst => htop first (hfirst.trans h)

/-- **What the renderer shows as code at top level** is what the rule covers. -/
theorem shownAsCode_eq {lines : List Text} (htop : IsTopLevel lines) {i : Nat} {line : Text}
    (hline : lines[i]? = some line) :
    shownAsCode lines i = covers (after none (lines.take i)) line := by
  have hprefix : lines.take i ++ [line] <+: lines := by
    obtain ⟨hi, rfl⟩ := List.getElem?_eq_some_iff.1 hline
    rw [← List.take_succ_eq_append_getElem hi]
    exact List.take_prefix _ _
  have hbefore := htop.codeFence?_eq (List.take_prefix i lines)
  have hbehind := htop.codeFence?_eq hprefix
  rw [List.foldl_append, List.foldl_cons, List.foldl_nil, after_append] at hbehind
  rw [shownAsCode, hline]
  dsimp only
  rw [hbefore, hbehind, covers_eq_isSome]
  rfl

end Markdown.FencedCode

/-! ## The lines of the two scanners -/

namespace Text

/-- Texts that are trimmed alike are so behind a character, too. -/
theorem trimEnd_cons_congr (d : Char) {s t : Text} (h : trimEnd s = trimEnd t) :
    trimEnd (d :: s) = trimEnd (d :: t) := by
  have hcons : ∀ u : Text, trimEnd (d :: u) =
      if trimEnd u = [] then trimEnd [d] else d :: trimEnd u := by
    intro u
    rw [← List.singleton_append]
    split
    · next hnil =>
      obtain ⟨blanks, hu, hblanks⟩ := exists_eq_trimEnd_append u
      rw [hnil, List.nil_append] at hu
      rw [hu, trimEnd_append_of_allBlank hblanks]
    · next hne =>
      exact trimEnd_append_of_not_allBlank
        (Bool.eq_false_iff.2 fun hblank => hne (trimEnd_of_allBlank hblank)) [d]
  rw [hcons s, hcons t, h]

/-- A line and what is left of it without its line end are trimmed alike. -/
theorem trimEnd_withoutLineEnd (line : Text) : trimEnd (withoutLineEnd line) = trimEnd line := by
  have hdrop : ∀ r : Text, trimStart (r.dropWhile fun c => c == '\n' || c == '\r') = trimStart r := by
    intro r
    induction r with
    | nil => rfl
    | cons c r ih =>
      rw [List.dropWhile_cons]
      split
      · next hend =>
        have hblank : isBlank c = true := by
          rw [Bool.or_eq_true, beq_iff_eq, beq_iff_eq] at hend
          rcases hend with rfl | rfl <;> decide
        rw [ih, trimStart, trimStart, List.dropWhile_cons_of_pos hblank]
      · rfl
  rw [trimEnd_eq_reverse, trimEnd_eq_reverse, withoutLineEnd, dropEndWhile, List.reverse_reverse, hdrop]

/-- **The pieces between line ends are the lines of a text**, with an empty one behind the last line
end. -/
theorem map_trimEnd_splitOn_eq (t : Text) : ∃ tail, (tail = [] ∨ tail = [[]]) ∧
    (splitOn '\n' t).map trimEnd = (contents t).map trimEnd ++ tail := by
  have hcontents : ∀ u, (contents u).map trimEnd = (completeLines u).map trimEnd := by
    intro u
    rw [contents, List.map_map]
    exact List.map_congr_left fun line _ => trimEnd_withoutLineEnd line
  rw [hcontents]
  induction t with
  | nil => exact ⟨[[]], .inr rfl, rfl⟩
  | cons d t ih =>
    obtain ⟨tail, htail, hlines⟩ := ih
    by_cases hd : d = '\n'
    · subst hd
      refine ⟨tail, htail, ?_⟩
      rw [splitOn_cons_self, completeLines_newline_cons, List.map_cons, List.map_cons, hlines]
      rfl
    · by_cases hnil : t = []
      · subst hnil
        refine ⟨[], .inl rfl, ?_⟩
        rw [splitOn_cons_of_ne hd splitOn_nil, completeLines.eq_3 _ _ hd]
        rfl
      · obtain ⟨piece, rest, hsplit⟩ := List.exists_cons_of_ne_nil (splitOn_ne_nil '\n' t)
        obtain ⟨line, behind, hcomplete⟩ := List.exists_cons_of_ne_nil (completeLines_ne_nil hnil)
        rw [hsplit, hcomplete, List.map_cons, List.map_cons, List.cons_append] at hlines
        obtain ⟨hfirst, hrest⟩ := List.cons.inj hlines
        refine ⟨tail, htail, ?_⟩
        rw [splitOn_cons_of_ne hd hsplit, completeLines_cons_of_ne hd hcomplete, List.map_cons,
          List.map_cons, List.cons_append, trimEnd_cons_congr d hfirst, hrest]

/-- What stands behind the last line end is blank. -/
theorem allBlank_of_splitOn {t line : Text} {i : Nat} (hline : (splitOn '\n' t)[i]? = some line)
    (hi : (contents t).length ≤ i) : allBlank line = true := by
  obtain ⟨tail, htail, hlines⟩ := map_trimEnd_splitOn_eq t
  have htrim := congrArg (·[i]?) hlines
  rw [List.getElem?_map, hline, List.getElem?_append_right (by simpa using hi)] at htrim
  have hnil : trimEnd line = [] := by
    have hmem := List.mem_of_getElem? htrim.symm
    rcases htail with rfl | rfl
    · exact absurd hmem List.not_mem_nil
    · exact List.mem_singleton.1 hmem
  obtain ⟨blanks, hsplit, hblanks⟩ := exists_eq_trimEnd_append line
  rw [hsplit, hnil]
  exact hblanks

end Text

namespace Snippet

/-- A blank line is no heading. -/
theorem demoteLine_of_allBlank (shift : Nat) {line : Text} (h : Text.allBlank line = true) :
    demoteLine shift line = line := by
  refine demoteLine_of_not_isHeading shift fun level _ title hheading => ?_
  obtain ⟨front, back, rfl, -⟩ := hheading.spelled
  have hmark : '#' ∈ List.replicate level '#' ++ (front ++ (title ++ back)) :=
    List.mem_append_left _ (List.mem_replicate.2 ⟨by have := hheading.pos; omega, rfl⟩)
  exact absurd (List.all_eq_true.1 h _ hmark) (by decide)

/-- Blanks at the end of lines make no difference to what is code. -/
theorem inCode_map_trimEnd (lines : List Text) (i : Nat) :
    inCode (lines.map Text.trimEnd) i = inCode lines i := by
  rw [inCode, inCode, List.getElem?_map]
  cases lines[i]? with
  | none => rfl
  | some line =>
    dsimp only [Option.map_some]
    rw [← List.map_take, Fence.after_map_trimEnd, Fence.covers_trimEnd]

/-- Lines that follow make no difference to what is code. -/
theorem inCode_append {lines : List Text} {i : Nat} (h : i < lines.length) (behind : List Text) :
    inCode (lines ++ behind) i = inCode lines i := by
  rw [inCode, inCode, List.getElem?_append_left h, List.take_append_of_le_length h.le]

/-- **The two scanners find the same code.** -/
theorem inCode_splitOn {t : Text} {i : Nat} (h : i < (contents t).length) :
    inCode (Text.splitOn '\n' t) i = inCode (contents t) i := by
  obtain ⟨tail, -, hlines⟩ := Text.map_trimEnd_splitOn_eq t
  rw [← inCode_map_trimEnd, hlines, inCode_append (by simpa using h), inCode_map_trimEnd]

end Snippet

namespace Collapsible

/-- The row of a line by its index. -/
theorem getElem?_rowsFrom (fence : Option Fence) (lines : List Text) (i : Nat) :
    (rowsFrom fence lines)[i]? = lines[i]?.map
      (row (Fence.after fence ((lines.take i).map withoutLineEnd))) := by
  induction lines generalizing fence i with
  | nil => rfl
  | cons line lines ih =>
    cases i with
    | zero => rfl
    | succ i => rw [rowsFrom, List.getElem?_cons_succ, List.getElem?_cons_succ, ih,
        List.take_succ_cons, List.map_cons, Fence.after_cons]

end Collapsible

namespace Markdown.FencedCode

/-! ## Texts at top level -/

/-- Whether no line of a text is misjudged at its place. -/
def IsWellJudged (lines : List Text) : Prop :=
  ∀ before line behind, lines = before ++ line :: behind →
    ¬ Misjudged (before.foldl Draft.readLine Draft.initial).codeFence? line

/-- At top level a line is judged by the fence of the rule. -/
theorem IsTopLevel.isWellJudged_iff {lines : List Text} (htop : IsTopLevel lines) :
    IsWellJudged lines ↔ ∀ before line behind, lines = before ++ line :: behind →
      ¬ Misjudged (after none before) line := by
  refine forall₃_congr fun before line behind => forall_congr' fun h => ?_
  rw [htop.codeFence?_eq (h ▸ List.prefix_append _ _)]

/-- **Where no line is misjudged** the scanners find the code that the renderer shows. -/
theorem IsTopLevel.inCode_eq_shownAsCode {lines : List Text} (htop : IsTopLevel lines)
    (hjudged : IsWellJudged lines) (i : Nat) : Snippet.inCode lines i = shownAsCode lines i := by
  rw [htop.isWellJudged_iff] at hjudged
  cases hline : lines[i]? with
  | none => rw [Snippet.inCode, shownAsCode, hline]
  | some line =>
    have hsplit : lines = lines.take i ++ line :: lines.drop (i + 1) := by
      obtain ⟨hi, rfl⟩ := List.getElem?_eq_some_iff.1 hline
      rw [← List.drop_eq_getElem_cons hi, List.take_append_drop]
    have hafter := (after_eq_iff none lines).2 hjudged _ (List.take_prefix i lines)
    rw [shownAsCode_eq htop hline, Snippet.inCode, hline]
    dsimp only
    rw [hafter, covers_eq (hjudged _ _ _ hsplit)]

/-- **The scanners and the renderer see the same fenced code.**  At top level the renderer shows the
lines as code that belong to it by the rule.  The scanners have the same fence open as the renderer
behind every part of the text exactly if no line is misjudged; then headings are shifted and marker
lines are read exactly where the renderer shows no code. -/
theorem sees_same_code_iff (t : Text) (hlines : sourceLines t = contents t)
    (htop : IsTopLevel (contents t)) :
    (∃ code, Blocks (contents t) code ∧ ∀ i, shownAsCode (contents t) i = code[i]?.getD false) ∧
    ((∀ before, before <+: sourceLines t →
        Fence.after none before = (before.foldl Draft.readLine Draft.initial).codeFence?) ↔
      IsWellJudged (sourceLines t)) ∧
    (IsWellJudged (sourceLines t) →
      (∀ i, Snippet.inCode (contents t) i = shownAsCode (contents t) i) ∧
      (∀ n ≠ 0, ∀ i line, (Text.splitOn '\n' t)[i]? = some line →
        (Text.splitOn '\n' (Snippet.demote n t))[i]? =
          some (if shownAsCode (contents t) i then line else Snippet.demoteLine n line)) ∧
      ∀ i line, (Text.completeLines t)[i]? = some line → ∀ colons rest,
        (rows t)[i]? = some (.marker colons rest) ↔
          shownAsCode (contents t) i = false ∧
            markerLine? (withoutLineEnd line) = some (colons, rest)) := by
  rw [hlines]
  refine ⟨⟨covered none (contents t), blocks_covered _, fun i => ?_⟩, ?_, fun hjudged => ?_⟩
  · rw [getElem?_covered]
    cases hline : (contents t)[i]? with
    | none => rw [shownAsCode, hline]; rfl
    | some line => exact shownAsCode_eq htop hline
  · rw [htop.isWellJudged_iff, ← after_eq_iff]
    exact forall₂_congr fun before h => by rw [htop.codeFence?_eq h]
  · have hcode := htop.inCode_eq_shownAsCode hjudged
    refine ⟨hcode, fun n hn i line hline => ?_, fun i line hline colons rest => ?_⟩
    · rw [Snippet.splitOn_demote hn, Snippet.getElem?_demoteLines, hline, Option.map_some]
      have hcovers : Fence.covers (Fence.after none ((Text.splitOn '\n' t).take i)) line =
          Snippet.inCode (Text.splitOn '\n' t) i := by rw [Snippet.inCode, hline]
      rw [hcovers]
      rcases Nat.lt_or_ge i (contents t).length with hi | hi
      · rw [Snippet.inCode_splitOn hi, hcode]
      · -- behind the last line end nothing stands that could be shifted
        rw [Snippet.demoteLine_of_allBlank n (Text.allBlank_of_splitOn hline hi), ite_self, ite_self]
    · have hcontents : (contents t)[i]? = some (withoutLineEnd line) := by
        rw [contents, List.getElem?_map, hline]
        rfl
      rw [rows, getElem?_rowsFrom, hline, Option.map_some, Option.some.injEq, row_eq_marker_iff,
        ← hcode, Snippet.inCode, hcontents, List.map_take, ← contents]

/-- Ordinary code is well judged. -/
theorem sees_same_code_ordinary :
    (sourceLines (lit "```\n# a\n```\n# b\n") = contents (lit "```\n# a\n```\n# b\n") ∧
      IsTopLevel (contents (lit "```\n# a\n```\n# b\n"))) ∧
    IsWellJudged (sourceLines (lit "```\n# a\n```\n# b\n")) := by
  have hlines : sourceLines (lit "```\n# a\n```\n# b\n") = contents (lit "```\n# a\n```\n# b\n") := by
    decide
  have htop : IsTopLevel (contents (lit "```\n# a\n```\n# b\n")) := by decide +kernel
  have hagree : ∀ before ∈ (sourceLines (lit "```\n# a\n```\n# b\n")).inits, Fence.after none before =
      (before.foldl Draft.readLine Draft.initial).codeFence? := by decide +kernel
  exact ⟨⟨hlines, htop⟩, (sees_same_code_iff _ hlines htop).2.1.1 fun before h =>
    hagree before ((List.mem_inits _ _).2 h)⟩

/-- **A backtick behind backticks**: the renderer shows text and a heading, and the scanners take both
lines for code, so that the heading is not shifted. -/
theorem takes_heading_for_code :
    sourceLines (lit "``` a`b\n# x") = contents (lit "``` a`b\n# x") ∧
      IsTopLevel (contents (lit "``` a`b\n# x")) ∧
      shownAsCode (contents (lit "``` a`b\n# x")) 1 = false ∧
      Snippet.inCode (contents (lit "``` a`b\n# x")) 1 = true ∧
      Snippet.demote 1 (lit "``` a`b\n# x") = lit "``` a`b\n# x" ∧
      Snippet.demoteLine 1 (lit "# x") = lit "## x" :=
  ⟨by decide, by decide +kernel, by decide +kernel, by decide, by decide, by decide⟩

end Markdown.FencedCode

end WikiPress
