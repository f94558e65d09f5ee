import WikiPress.Files.Tree
import WikiPress.Proofs.Snippet.Directive
import WikiPress.Proofs.Snippet.Scan
import WikiPress.Snippet.Transclusion

/-!
# Proofs/Snippet/Demote — moving headings down goes line by line

Demoting changes lines and never their number, so the lines of a demoted text are the demoted lines
(`splitOn_demote`).  A snippet below the heading of its directive is the marker line of that
directive, an empty line and the demoted snippet (`splitOn_underHeading`).
-/

namespace WikiPress.Snippet

/-! ## Lines stay lines -/

theorem not_mem_demoteLine {shift : Nat} {line : Text} (h : '\n' ∉ line) :
    '\n' ∉ demoteLine shift line := by
  rw [demoteLine]
  split
  · next level title hheading =>
    rw [heading?] at hheading
    dsimp only at hheading
    split at hheading
    · rw [Option.some.injEq, Prod.mk.injEq] at hheading
      have htitle : '\n' ∉ title := by
        rw [← hheading.2]
        intro hmem
        have hrev := (List.dropWhile_sublist Text.isSpaceOrTab).subset (List.mem_reverse.1 hmem)
        have hrest := (List.dropWhile_sublist Text.isSpaceOrTab).subset (List.mem_reverse.1 hrev)
        exact h ((List.dropWhile_sublist _).subset hrest)
      rw [List.mem_append, not_or]
      refine ⟨fun hmem => absurd (List.eq_of_mem_replicate hmem) (by decide), ?_⟩
      split
      · exact List.not_mem_nil
      · rw [List.mem_cons, not_or]
        exact ⟨by decide, htitle⟩
    · exact absurd hheading (by simp)
  · exact h

theorem length_demoteLines (shift : Nat) (fence : Option Fence) (lines : List Text) :
    (demoteLines shift fence lines).length = lines.length := by
  induction lines generalizing fence with
  | nil => rfl
  | cons line rest ih =>
    cases fence with
    | some fence => simp [demoteLines, ih]
    | none =>
      rw [demoteLines]
      split <;> simp [ih]

theorem not_mem_of_mem_demoteLines {shift : Nat} {fence : Option Fence} {lines : List Text}
    (h : ∀ line ∈ lines, '\n' ∉ line) : ∀ line ∈ demoteLines shift fence lines, '\n' ∉ line := by
  induction lines generalizing fence with
  | nil => exact fun line hline => absurd hline List.not_mem_nil
  | cons first rest ih =>
    have hrest : ∀ line ∈ rest, '\n' ∉ line := fun line hline => h line (.tail _ hline)
    have hfirst : '\n' ∉ first := h first List.mem_cons_self
    cases fence with
    | some fence => exact List.forall_mem_cons.2 ⟨hfirst, ih hrest⟩
    | none =>
      rw [demoteLines]
      split
      · exact List.forall_mem_cons.2 ⟨hfirst, ih hrest⟩
      · exact List.forall_mem_cons.2 ⟨not_mem_demoteLine hfirst, ih hrest⟩

/-- **The lines of a demoted text are the demoted lines.** -/
theorem splitOn_demote {shift : Nat} (h : shift ≠ 0) (t : Text) :
    Text.splitOn '\n' (demote shift t) = demoteLines shift none (Text.splitOn '\n' t) := by
  rw [demote, if_neg (by simpa using h)]
  refine Text.splitOn_join_of_not_mem (List.ne_nil_of_length_pos ?_) ?_
  · rw [length_demoteLines]
    exact List.length_pos_of_ne_nil (Text.splitOn_ne_nil _ t)
  · exact not_mem_of_mem_demoteLines fun line hline => Text.not_mem_of_mem_splitOn hline

/-! ## The heading of a directive -/

/-- The line that a directive with a heading mark puts in front of its snippet. -/
def markerLine (level : Nat) (target : Text) : Text :=
  List.replicate (min level 6) '#' ++ ' ' :: '[' :: ']' :: '(' :: target ++ lit " \"#\")"

theorem demoteLine_marker (shift : Nat) (target : Text) :
    demoteLine shift (lit "# [](" ++ target ++ lit " \"#\")") = markerLine (1 + shift) target := by
  have hline : lit "# [](" ++ target ++ lit " \"#\")"
      = '#' :: ' ' :: '[' :: ']' :: '(' :: (target ++ [' ', '"', '#', '"', ')']) := by
    simp [lit]
  have hend : Text.dropEndWhile Text.isSpaceOrTab
      ('[' :: ']' :: '(' :: (target ++ [' ', '"', '#', '"', ')']))
      = '[' :: ']' :: '(' :: (target ++ [' ', '"', '#', '"', ')']) := by
    have hlast := Text.dropEndWhile_append_singleton (p := Text.isSpaceOrTab) (d := ')') (by decide)
      ('[' :: ']' :: '(' :: (target ++ [' ', '"', '#', '"']))
    simpa using hlast
  have hblank : Text.isSpaceOrTab '[' = false := by decide
  have hspace : Text.isSpaceOrTab ' ' = true := by decide
  rw [hline, demoteLine, heading?, markerLine,
    show lit " \"#\")" = [' ', '"', '#', '"', ')'] from rfl]
  simp [hend, hblank, hspace]

/-- A marker line is no directive. -/
theorem read?_markerLine {level : Nat} (h : level ≠ 0) (target : Text) :
    Directive.read? (markerLine level target) = none := by
  rw [markerLine, List.append_assoc, List.cons_append]
  exact Directive.read?_marks_bracket (by omega) (by decide) _

theorem underHeading_of_level_le {d : Directive} (h : d.level ≤ 1) (snippet : Text) :
    underHeading d snippet = snippet := if_neg (by omega)

/-- **The lines of a snippet below the heading of its directive.** -/
theorem splitOn_underHeading {d : Directive} (h : 1 < d.level) (htarget : '\n' ∉ d.target)
    (snippet : Text) :
    Text.splitOn '\n' (underHeading d snippet) = markerLine d.level d.target ::
      (if snippet.isEmpty then []
        else [] :: demoteLines (d.level - 1) none (Text.splitOn '\n' snippet)) := by
  have hfence : Fence.open? (lit "# [](" ++ d.target ++ lit " \"#\")") = none := rfl
  have hline : '\n' ∉ lit "# [](" ++ d.target ++ lit " \"#\")" := by
    rw [List.mem_append, List.mem_append, not_or, not_or]
    exact ⟨⟨by decide, htarget⟩, by decide⟩
  have hmark : demoteLine (d.level - 1) (lit "# [](" ++ d.target ++ lit " \"#\")")
      = markerLine d.level d.target := by
    rw [demoteLine_marker, show 1 + (d.level - 1) = d.level by omega]
  have hempty : demoteLine (d.level - 1) [] = [] := rfl
  rw [underHeading, if_pos h, splitOn_demote (by omega)]
  split
  · rw [Text.splitOn_of_not_mem hline, demoteLines, hfence]
    exact congrArg (· :: []) hmark
  · rw [show lit "\n\n" = '\n' :: '\n' :: [] from rfl, List.append_assoc, List.cons_append,
      Text.splitOn_append_cons, Text.splitOn_of_not_mem hline, List.cons_append, List.nil_append,
      List.cons_append, Text.splitOn_cons_self, List.nil_append, demoteLines, hfence]
    exact congrArg₂ _ hmark (congrArg₂ _ hempty rfl)

/-!
## Messages stand for themselves

A document that cannot be had is answered with a message, which goes the way of every text: its
scripts are run, its placeholders filled, a slice of it is taken, and the headings in it are moved
down.  Nothing of that finds anything in a message (`Inert`), so it arrives as it is and enters no
document, below a heading or not (`Inert.targets`).
-/

/-- **A message stands for itself**: nothing in it is run, filled, cut or read. -/
structure Inert (message : Text) : Prop where
  ne_nil : message ≠ []
  trim : Text.trim message = message
  scripts : scriptParts message = [.plain message]
  placeholders : placeholderParts message = [.plain message]
  slices : (Text.splitText sliceMark message).length ≤ 1
  line : Text.splitOn '\n' message = [message]
  plain : heading? message = none ∧ Fence.open? message = none
  directive : Directive.read? message = none

/-- The message of a document that is not there is inert, -/
theorem inert_notFound : Inert (lit "404 Not Found") := by
  constructor <;> decide +kernel

/-- …that of a path that climbs above the root -/
theorem inert_forbidden : Inert (lit "403 Forbidden") := by
  constructor <;> decide +kernel

/-- …and that of any fault. -/
theorem inert_message (fault : Files.Fault) : Inert fault.message := by
  cases fault <;> constructor <;> decide +kernel

namespace Inert

variable {message : Text} (h : Inert message)

include h

/-- **A message is the content** of the document it stands for. -/
theorem content_eq (evaluate : Text → Script.Scope → Except Script.Fault Text) (path : Text)
    {file : Fetched} (herror : file.isError = true) (hdata : file.data = message) :
    content evaluate path file = message := by
  simp only [content, herror, if_true, hdata]
  rw [if_neg (by simpa using h.ne_nil), runScripts, h.scripts, List.flatMap_singleton, Part.fill,
    h.trim]

/-- …and what a directive takes from it. -/
theorem snippet_eq (pick : Nat → Nat) (d : Directive) :
    (snippet (m := Id) pick d message).run = message := by
  rw [snippet, if_neg (by simpa using h.ne_nil), substitute, h.placeholders,
    List.flatMap_singleton, Part.fill, h.trim]
  split
  · rw [clip, if_pos h.slices]
    rfl
  · rfl

/-- **A message enters nothing**, below a heading or not. -/
theorem targets (visited : Visited) {d : Directive} (hd : '\n' ∉ d.target) :
    (scan visited (underHeading d message)).targets = [] := by
  refine targets_eq_nil fun line hline => ?_
  by_cases hlevel : d.level ≤ 1
  · rw [underHeading_of_level_le hlevel, h.line, List.mem_singleton] at hline
    rw [hline, h.directive]
  · have hdemoted : demoteLines (d.level - 1) none [message] = [message] := by
      rw [demoteLines, h.plain.2, demoteLine, h.plain.1]
      rfl
    rw [splitOn_underHeading (by omega) hd, h.line, if_neg (by simpa using h.ne_nil),
      hdemoted] at hline
    simp only [List.mem_cons, List.not_mem_nil, or_false] at hline
    rcases hline with rfl | rfl | rfl
    · exact read?_markerLine (by omega) d.target
    · exact Directive.read?_nil
    · exact h.directive

end Inert

end WikiPress.Snippet
