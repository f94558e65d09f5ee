import WikiPress.Proofs.Path.Canonical
import WikiPress.Proofs.Snippet.Demote
import WikiPress.Proofs.Snippet.LineByLine
import Mathlib.Algebra.Order.BigOperators.Group.List
import Mathlib.Algebra.Order.Group.Nat

/-!
# Proofs/Snippet/LineEnds — a transclusion sees carriage returns

    [+](/a.md)␍␤        stays as it is
    [+](/b.md)␍␤        stays as it is
    [+](/c.md)          becomes the document

A directive line ends with its parenthesis, and the carriage return in front of a newline stands
behind it.  So of a text with such line ends only what follows the last newline can be a directive
(`openDirectives_crlf`).  The line ends of a text do not matter exactly if no line that a newline
ends is a directive (`crlf_alike_iff`): for any other text a source of empty documents tells the two
apart, by the plus signs of the directives.
-/

namespace WikiPress.Snippet

variable {visited : Visited} {text line : Text}

/-! ## Line ends -/

/-- **A text with a carriage return in front of every newline.** -/
def crlf (t : Text) : Text := t.flatMap fun c => if c == '\n' then ['\r', '\n'] else [c]

/-- A text without its carriage returns. -/
def withoutReturns (t : Text) : Text := t.filter (· != '\r')

/-- The lines that a newline ends. -/
def endedLines (t : Text) : List Text := (Text.splitOn '\n' t).dropLast

/-- What stands behind the last newline. -/
def lastLine (t : Text) : Text := (Text.splitOn '\n' t).getLast (Text.splitOn_ne_nil _ _)

theorem splitOn_eq_endedLines (t : Text) : Text.splitOn '\n' t = endedLines t ++ [lastLine t] :=
  (List.dropLast_append_getLast _).symm

theorem newline_not_mem_lastLine (t : Text) : '\n' ∉ lastLine t :=
  Text.not_mem_of_mem_splitOn (List.getLast_mem (Text.splitOn_ne_nil '\n' t))

theorem newline_not_mem_endedLines {t : Text} (h : line ∈ endedLines t) : '\n' ∉ line :=
  Text.not_mem_of_mem_splitOn (List.dropLast_subset _ h)

theorem crlf_of_not_mem {t : Text} (h : '\n' ∉ t) : crlf t = t := by
  have hsame : (t.flatMap fun c => if c == '\n' then ['\r', '\n'] else [c]) =
      t.flatMap fun c => [c] :=
    List.flatMap_congr fun c hc => if_neg (by simpa using ne_of_mem_of_not_mem hc h)
  rw [crlf, hsame, List.flatMap_singleton']

theorem crlf_join {lines : List Text} {last : Text} (hlines : ∀ line ∈ lines, '\n' ∉ line)
    (hlast : '\n' ∉ last) : crlf (Text.join ['\n'] (lines ++ [last])) =
      Text.join ['\n'] (lines.map (· ++ ['\r']) ++ [last]) := by
  induction lines with
  | nil => exact crlf_of_not_mem hlast
  | cons line rest ih =>
    obtain ⟨hline, hrest⟩ := List.forall_mem_cons.1 hlines
    have happend : crlf (line ++ ['\n'] ++ Text.join ['\n'] (rest ++ [last])) =
        crlf line ++ crlf ['\n'] ++ crlf (Text.join ['\n'] (rest ++ [last])) := by
      simp only [crlf, List.flatMap_append]
    have hnewline : crlf ['\n'] = ['\r'] ++ ['\n'] := rfl
    have hright : Text.join ['\n'] ((line :: rest).map (· ++ ['\r']) ++ [last]) =
        line ++ ['\r'] ++ ['\n'] ++ Text.join ['\n'] (rest.map (· ++ ['\r']) ++ [last]) :=
      Text.join_cons_of_ne_nil _ _ (by simp)
    rw [hright, List.cons_append, Text.join_cons_of_ne_nil _ _ (by simp), happend, ih hrest,
      hnewline, crlf_of_not_mem hline]
    simp only [List.append_assoc]

/-- **The lines between carriage returns and newlines** end with the carriage return. -/
theorem splitOn_crlf (t : Text) :
    Text.splitOn '\n' (crlf t) = (endedLines t).map (· ++ ['\r']) ++ [lastLine t] := by
  have hjoin := crlf_join (fun line => newline_not_mem_endedLines (t := t)) (newline_not_mem_lastLine t)
  rw [← splitOn_eq_endedLines, Text.join_splitOn] at hjoin
  rw [hjoin]
  refine Text.splitOn_join_of_not_mem (by simp) fun line hline => ?_
  rcases List.mem_append.1 hline with hline | hline
  · obtain ⟨bare, hbare, rfl⟩ := List.mem_map.1 hline
    simpa using newline_not_mem_endedLines hbare
  · rw [List.mem_singleton.1 hline]
    exact newline_not_mem_lastLine t

/-! ## Without carriage returns -/

theorem withoutReturns_append (s t : Text) :
    withoutReturns (s ++ t) = withoutReturns s ++ withoutReturns t := List.filter_append _ _

theorem withoutReturns_join (ts : List Text) :
    withoutReturns (Text.join ['\n'] ts) = Text.join ['\n'] (ts.map withoutReturns) := by
  induction ts with
  | nil => rfl
  | cons t ts ih =>
    by_cases hts : ts = []
    · subst hts
      rfl
    · rw [Text.join_cons_of_ne_nil _ _ hts, List.map_cons,
        Text.join_cons_of_ne_nil _ _ (by simpa using hts), withoutReturns_append,
        withoutReturns_append, ih]
      rfl

theorem withoutReturns_reverse (t : Text) : withoutReturns t.reverse = (withoutReturns t).reverse :=
  List.filter_reverse

/-- A carriage return is a blank, so trimming does not tell whether there was one… -/
theorem withoutReturns_trimStart (t : Text) :
    withoutReturns (Text.trimStart t) = Text.trimStart (withoutReturns t) := by
  induction t with
  | nil => rfl
  | cons c t ih =>
    cases hblank : Text.isBlank c with
    | false =>
      have hc : (c != '\r') = true := by
        rw [bne_iff_ne]
        rintro rfl
        exact absurd hblank (by decide)
      have hcons : withoutReturns (c :: t) = c :: withoutReturns t := List.filter_cons_of_pos hc
      rw [Text.trimStart_cons_of_not_blank hblank, hcons, Text.trimStart_cons_of_not_blank hblank]
    | true =>
      have hskip : ∀ s : Text, Text.trimStart (c :: s) = Text.trimStart s := fun s =>
        List.dropWhile_cons_of_pos hblank
      rw [hskip, ih, withoutReturns, withoutReturns, List.filter_cons]
      split
      · rw [hskip]
      · rfl

/-- …at either end. -/
theorem withoutReturns_trim (t : Text) :
    withoutReturns (Text.trim t) = Text.trim (withoutReturns t) := by
  rw [Text.trim, Text.trim, Text.trimEnd_eq_reverse, Text.trimEnd_eq_reverse,
    withoutReturns_reverse, withoutReturns_trimStart, withoutReturns_reverse,
    withoutReturns_trimStart]

/-! ## What is put for directive lines -/

section Host

variable {σ : Type} (host : Host σ)

theorem keys_expandLines {inner : Text → StateM σ (Option Text)} {file : Fetched} {data : Text}
    {ds : List Directive} {s : σ} {put : List (Text × Text)}
    (h : (expandLines host inner file data ds s).1 = some put) :
    put.map Prod.fst = ds.map Directive.line := by
  induction ds generalizing s put with
  | nil =>
    obtain rfl := Option.some.inj h
    rfl
  | cons d ds ih =>
    simp only [expandLines, stateM_bind_apply, stateM_pure_apply] at h
    obtain ⟨content, -, hothers⟩ := Option.bind_eq_some_iff.1 h
    obtain ⟨others, hsome, rfl⟩ := Option.map_eq_some_iff.1 hothers
    rw [List.map_cons, List.map_cons, ih hsome]

theorem keys_expandAll {inner : Text → StateM σ (Option Text)} {files : List (Group × Fetched)}
    {s : σ} {put : List (Text × Text)} (h : (expandAll host inner files s).1 = some put) :
    put.map Prod.fst = (files.map Prod.fst).flatMap fun g => g.directives.map Directive.line := by
  induction files generalizing s put with
  | nil =>
    obtain rfl := Option.some.inj h
    rfl
  | cons file files ih =>
    simp only [expandAll, stateM_bind_apply, stateM_pure_apply] at h
    obtain ⟨lines, hfirst, hothers⟩ := Option.bind_eq_some_iff.1 h
    obtain ⟨others, hsome, rfl⟩ := Option.map_eq_some_iff.1 hothers
    rw [List.map_append, keys_expandLines host hfirst, ih hsome, List.map_cons, List.flatMap_cons]

theorem groups_fetchAll (groups : List Group) (s : σ) :
    (fetchAll host groups s).1.map Prod.fst = groups := by
  induction groups generalizing s with
  | nil => rfl
  | cons g groups ih =>
    simp only [fetchAll, stateM_bind_apply, stateM_pure_apply, List.map_cons, ih]

/-- **What is put for the directive lines** of some groups. -/
def replacements (depth : Nat) (visited : Visited) (groups : List Group) :
    StateM σ (Option (List (Text × Text))) := do
  let files ← fetchAll host groups
  expandAll host (transclude host depth (visited.insertAll (groups.map Group.target))) files

/-- The lines of a text put together; they are trimmed if there were directives among them. -/
def assemble (groups : List Group) (lines : List Text) : Text :=
  if groups.isEmpty then Text.join ['\n'] lines else Text.trim (Text.join ['\n'] lines)

theorem withoutReturns_assemble (groups : List Group) (lines : List Text) :
    withoutReturns (assemble groups lines) = assemble groups (lines.map withoutReturns) := by
  rw [assemble, assemble]
  split
  · exact withoutReturns_join lines
  · rw [withoutReturns_trim, withoutReturns_join]

/-- **A transclusion splices what is put for its directive lines.** -/
theorem transclude_eq_assemble (depth : Nat) (visited : Visited) (text : Text) (s : σ) :
    transclude host (depth + 1) visited text s =
      ((replacements host depth visited (scan visited text).groups s).1.map fun put =>
          assemble (scan visited text).groups (splice put (scan visited text).lines),
        (replacements host depth visited (scan visited text).groups s).2) := by
  cases hgroups : (scan visited text).groups with
  | nil =>
    have hsplice : splice [] (scan visited text).lines = (scan visited text).lines := List.map_id _
    simp only [transclude, hgroups]
    exact Prod.ext (congrArg (fun lines => some (Text.join ['\n'] lines)) hsplice.symm) rfl
  | cons g groups =>
    simp only [transclude, hgroups]
    rfl

/-- What something is put for is a directive line of the text. -/
theorem isSome_read?_of_replacement {depth : Nat} {s : σ} {replaced : List (Text × Text)}
    (h : (replacements host depth visited (scan visited text).groups s).1 = some replaced)
    (hline : line ∈ replaced.map Prod.fst) : (Directive.read? line).isSome := by
  rw [replacements, stateM_bind_apply] at h
  rw [keys_expandAll host h, groups_fetchAll] at hline
  obtain ⟨g, hg, hline⟩ := List.mem_flatMap.1 hline
  obtain ⟨d, hd, rfl⟩ := List.mem_map.1 hline
  rw [read?_of_mem_directives_scan (List.mem_flatMap.2 ⟨g, hg, hd⟩)]
  rfl

end Host

/-- **Nothing is spliced into plain lines**, where only directives are replaced. -/
theorem splice_of_plain {put : List (Text × Text)} {lines : List Text}
    (hput : ∀ line ∈ put.map Prod.fst, (Directive.read? line).isSome)
    (hplain : ∀ line ∈ lines, Directive.read? line = none) : splice put lines = lines := by
  refine (List.map_congr_left fun line hline => ?_).trans (List.map_id _)
  have hnone : line ∉ put.map Prod.fst := by
    intro hmem
    have hread := hput line hmem
    rw [hplain line hline] at hread
    exact absurd hread (by decide)
  rw [lookup_eq_none hnone, Option.getD_none, id]

/-! ## Plain lines in front -/

section Plain

variable {front : List Text} {last : Text}

/-- Of a text with plain lines in front only the last line is open. -/
theorem openDirectives_of_plain (hlines : Text.splitOn '\n' text = front ++ [last])
    (h : ∀ line ∈ front, Directive.read? line = none) :
    openDirectives visited text = (openDirective? visited last).toList := by
  have hfront : front.filterMap (openDirective? visited) = [] := by
    rw [List.filterMap_eq_nil_iff]
    intro line hline
    rw [openDirective?, h line hline, Option.filter_none]
  rw [openDirectives, hlines, List.filterMap_append, hfront, List.nil_append]
  cases hlast : openDirective? visited last with
  | none => rw [List.filterMap_cons_none hlast]; rfl
  | some d => rw [List.filterMap_cons_some hlast]; rfl

theorem lines_scan_of_plain (hlines : Text.splitOn '\n' text = front ++ [last])
    (h : ∀ line ∈ front, Directive.read? line = none) :
    (scan visited text).lines = front ++ [keptLine visited last] := by
  rw [lines_scan, hlines, List.map_append, List.map_singleton]
  exact congrArg (· ++ _) ((List.map_congr_left fun line hline =>
    keptLine_of_read?_eq_none (h line hline)).trans (List.map_id _))

end Plain

/-- Groups are made of the open directives alone. -/
theorem groups_scan_congr {text' : Text}
    (h : openDirectives visited text = openDirectives visited text') :
    (scan visited text).groups = (scan visited text').groups := by
  rw [openDirectives, openDirectives] at h
  rw [scan, scan, scanLines_eq, scanLines_eq, h]

/-! ## Texts with carriage returns -/

/-- **No line that ends in a carriage return is a directive.** -/
theorem read?_append_return (line : Text) : Directive.read? (line ++ ['\r']) = none := by
  rw [Option.eq_none_iff_forall_ne_some]
  intro d hread
  obtain ⟨before, hline⟩ := Directive.ends_of_read? hread
  exact absurd (List.append_inj_right' hline rfl) (by decide)

theorem read?_of_mem_returns {lines : List Text} (h : line ∈ lines.map (· ++ ['\r'])) :
    Directive.read? line = none := by
  obtain ⟨bare, -, rfl⟩ := List.mem_map.1 h
  exact read?_append_return bare

/-- Of a text with such line ends only the last line can be a directive. -/
theorem openDirectives_crlf (visited : Visited) (text : Text) :
    openDirectives visited (crlf text) = (openDirective? visited (lastLine text)).toList :=
  openDirectives_of_plain (splitOn_crlf text) fun _ => read?_of_mem_returns

theorem openDirectives_lastLine (visited : Visited) (text : Text) :
    openDirectives visited (lastLine text) = (openDirective? visited (lastLine text)).toList := by
  have hlines : Text.splitOn '\n' (lastLine text) = [] ++ [lastLine text] :=
    Text.splitOn_of_not_mem (newline_not_mem_lastLine text)
  exact openDirectives_of_plain hlines fun _ h => absurd h List.not_mem_nil

theorem lines_scan_crlf (visited : Visited) (text : Text) :
    (scan visited (crlf text)).lines =
      (endedLines text).map (· ++ ['\r']) ++ [keptLine visited (lastLine text)] :=
  lines_scan_of_plain (splitOn_crlf text) fun _ => read?_of_mem_returns

section Host

variable {σ : Type} (host : Host σ)

/-- **With carriage returns a text is resolved like its last line**: the same is asked of the host,
and every other line stays as it is. -/
theorem transclude_crlf (depth : Nat) (visited : Visited) (text : Text) (s : σ) :
    (transclude host depth visited (crlf text) s).2 =
        (transclude host depth visited (lastLine text) s).2 ∧
      ∀ out, (transclude host depth visited (crlf text) s).1 = some out →
        ∃ last, out = assemble (scan visited (lastLine text)).groups
          ((endedLines text).map (· ++ ['\r']) ++ [last]) := by
  cases depth with
  | zero => exact ⟨rfl, fun out hout => absurd hout (by simp [transclude, stateM_pure_apply])⟩
  | succ depth =>
    have hgroups : (scan visited (crlf text)).groups = (scan visited (lastLine text)).groups :=
      groups_scan_congr ((openDirectives_crlf visited text).trans
        (openDirectives_lastLine visited text).symm)
    rw [transclude_eq_assemble, transclude_eq_assemble, hgroups]
    refine ⟨rfl, fun out hout => ?_⟩
    obtain ⟨replaced, hreplaced, rfl⟩ := Option.map_eq_some_iff.1 hout
    have hkeys : ∀ line ∈ replaced.map Prod.fst, (Directive.read? line).isSome := fun _ =>
      isSome_read?_of_replacement host hreplaced
    refine ⟨(replaced.lookup (keptLine visited (lastLine text))).getD
      (keptLine visited (lastLine text)), congrArg _ ?_⟩
    rw [lines_scan_crlf, splice, List.map_append]
    exact congrArg (· ++ _) (splice_of_plain hkeys fun _ => read?_of_mem_returns)

theorem map_withoutReturns_returns (lines : List Text) :
    (lines.map (· ++ ['\r'])).map withoutReturns = lines.map withoutReturns := by
  rw [List.map_map]
  refine List.map_congr_left fun line _ => ?_
  rw [Function.comp_apply, withoutReturns_append]
  exact List.append_nil _

/-- **Where no line that a newline ends is a directive, the line ends do not matter**: the same is
asked of the host, and the results are the same without carriage returns. -/
theorem transclude_crlf_of_plain (h : ∀ line ∈ endedLines text, Directive.read? line = none)
    (depth : Nat) (visited : Visited) (s : σ) :
    (transclude host depth visited (crlf text) s).2 = (transclude host depth visited text s).2 ∧
      (transclude host depth visited (crlf text) s).1.map withoutReturns =
        (transclude host depth visited text s).1.map withoutReturns := by
  cases depth with
  | zero => exact ⟨rfl, rfl⟩
  | succ depth =>
    have hgroups : (scan visited (crlf text)).groups = (scan visited text).groups :=
      groups_scan_congr ((openDirectives_crlf visited text).trans
        (openDirectives_of_plain (splitOn_eq_endedLines text) h).symm)
    rw [transclude_eq_assemble, transclude_eq_assemble, hgroups]
    refine ⟨rfl, ?_⟩
    dsimp only
    cases hreplaced : (replacements host depth visited (scan visited text).groups s).1 with
    | none => rfl
    | some replaced =>
      have hkeys : ∀ line ∈ replaced.map Prod.fst, (Directive.read? line).isSome := fun _ =>
        isSome_read?_of_replacement host hreplaced
      have hsplice : ∀ (front : List Text) (last : Text), splice replaced (front ++ [last]) =
          splice replaced front ++ splice replaced [last] := fun front last => List.map_append
      rw [Option.map_some, Option.map_some, Option.map_some, Option.map_some,
        withoutReturns_assemble, withoutReturns_assemble, lines_scan_crlf,
        lines_scan_of_plain (splitOn_eq_endedLines text) h, hsplice, hsplice,
        splice_of_plain hkeys fun _ => read?_of_mem_returns, splice_of_plain hkeys h,
        List.map_append, List.map_append, map_withoutReturns_returns]

end Host

/-! ## A source of empty documents -/

/-- **The source whose documents are all empty.** -/
def Source.empty : Source where
  file path := ⟨path, [], false⟩
  evaluate _ _ := .ok []
  pick _ := 0

theorem expansion_empty (inner : Text → Option Text) (d : Directive) :
    Source.empty.expansion inner d = some (underHeading d []) := rfl

/-- What stands for a line where the documents are empty. -/
def emptied (visited : Visited) (line : Text) : Text :=
  ((Directive.read? line).map fun d =>
    if visited.contains d.target then [] else underHeading d []).getD line

theorem linePiece_empty (inner : Text → Option Text) (line : Text) :
    linePiece visited (Source.empty.expansion inner) line = some (emptied visited line) := by
  rw [linePiece, emptied]
  split
  · next hread => rw [hread, Option.map_none, Option.getD_none]
  · next d hread =>
    rw [hread, Option.map_some, Option.getD_some, expansion_empty]
    split <;> rfl

/-- A text has a meaning there, with the plus signs of what stands for its lines. -/
theorem exists_lineByLine_empty (visited : Visited) (text : Text) :
    ∃ out, lineByLine Source.empty 1 visited text = some out ∧
      out.count '+' = (((Text.splitOn '\n' text).map (emptied visited)).flatten).count '+' := by
  simp only [lineByLine, mapM_eq_map fun line _ => linePiece_empty _ line]
  split
  · exact ⟨_, rfl, Text.count_join (by decide) _⟩
  · exact ⟨_, rfl, (Text.count_trim (by decide) _).trans (Text.count_join (by decide) _)⟩

/-- **A directive holds more plus signs than its target**: the one behind its bracket. -/
theorem count_target_lt {d : Directive} (hread : Directive.read? line = some d) :
    d.target.count '+' < line.count '+' := by
  obtain ⟨s, rfl, hs⟩ := Directive.exists_spelling_of_read? hread
  obtain ⟨document, hdocument, hline⟩ := Directive.read?_line_of_not_ambiguous hs
  rw [hread, Option.some.injEq] at hline
  subst hline
  rw [Directive.documentPath?_of_isDocument s.isDocument] at hdocument
  have hbracket : (lit "[+").count '+' = 1 := by decide
  calc document.count '+'
    _ ≤ (Directive.withoutQuery s.target.path).count '+' :=
        Path.count_normalize?_le hdocument (by decide)
    _ ≤ s.target.path.count '+' := (List.takeWhile_sublist _).count_le _
    _ ≤ s.target.text.count '+' := by
        rw [Directive.LinkTarget.text, List.count_cons, List.count_append, List.count_append]
        omega
    _ < s.line.count '+' := by
        rw [Directive.Spelling.line, List.count_append, List.count_append, List.count_append,
          List.count_append, hbracket]
        omega

theorem count_markerLine (level : Nat) (target : Text) :
    (markerLine level target).count '+' = target.count '+' := by
  simp [markerLine, List.count_replicate, lit]

/-- …so it loses one where the documents are empty. -/
theorem count_emptied_lt {d : Directive} (hread : Directive.read? line = some d) :
    (emptied visited line).count '+' < line.count '+' := by
  have htarget := count_target_lt hread
  rw [emptied, hread, Option.map_some, Option.getD_some]
  split
  · rw [List.count_nil]
    omega
  · by_cases hlevel : d.level ≤ 1
    · rw [underHeading_of_level_le hlevel, List.count_nil]
      omega
    · have hlines := splitOn_underHeading (Nat.lt_of_not_le hlevel)
        (Directive.newline_not_mem_target hread) []
      rw [List.isEmpty_nil, if_pos rfl] at hlines
      rwa [← Text.join_splitOn '\n' (underHeading d []), hlines, Text.join_singleton,
        count_markerLine]

theorem count_emptied_le (visited : Visited) (line : Text) :
    (emptied visited line).count '+' ≤ line.count '+' := by
  cases hread : Directive.read? line with
  | none => rw [emptied, hread, Option.map_none, Option.getD_none]
  | some d => exact (count_emptied_lt hread).le

theorem count_withoutReturns (t : Text) : (withoutReturns t).count '+' = t.count '+' :=
  List.count_filter (by decide)

/-- **Two texts are resolved alike** by a source, up to carriage returns: to the same text, with the
same documents fetched. -/
def Source.ResolvesAlike (source : Source) (visited : Visited) (text text' : Text) : Prop :=
  ∀ depth out out', lineByLine source depth visited text = some out →
    lineByLine source depth visited text' = some out' →
      withoutReturns out' = withoutReturns out ∧
        ∀ path, path ∈ (transclude source.host depth visited text' []).2 ↔
          path ∈ (transclude source.host depth visited text []).2

/-- **The empty documents tell a directive that a newline ends.** -/
theorem plain_of_resolvesAlike (h : Source.empty.ResolvesAlike visited text (crlf text)) :
    ∀ line ∈ endedLines text, Directive.read? line = none := by
  obtain ⟨out, hout, hcount⟩ := exists_lineByLine_empty visited text
  obtain ⟨out', hout', hcount'⟩ := exists_lineByLine_empty visited (crlf text)
  have hsame := congrArg (List.count '+') (h 1 out out' hout hout').1
  rw [count_withoutReturns, count_withoutReturns, hcount, hcount', splitOn_crlf,
    splitOn_eq_endedLines] at hsame
  have hreturns : ((endedLines text).map (· ++ ['\r'])).map (emptied visited) =
      (endedLines text).map (· ++ ['\r']) := by
    rw [List.map_map]
    refine List.map_congr_left fun line _ => ?_
    rw [Function.comp_apply, emptied, read?_append_return, Option.map_none, Option.getD_none]
  have hplain : ((endedLines text).map (List.count '+')).sum =
      ((endedLines text).map fun line => (emptied visited line).count '+').sum := by
    simpa [hreturns, List.count_flatten, Function.comp_def] using hsame
  intro line hline
  rw [Option.eq_none_iff_forall_ne_some]
  intro d hread
  exact (List.sum_lt_sum _ _ (fun line _ => count_emptied_le visited line)
    ⟨line, hline, count_emptied_lt hread⟩).ne' hplain

/-- **Line ends matter to a transclusion.**  A line that ends in a carriage return is no directive,
so with carriage returns in front of its newlines a text is resolved like its last line, between the
other lines as they are.  The line ends of a text do not matter, for every source of documents,
exactly if no line that a newline ends is a directive; and then they matter to no host at all. -/
theorem crlf_alike_iff (visited : Visited) (text : Text) :
    (∀ line, Directive.read? (line ++ ['\r']) = none) ∧
    (∀ (σ : Type) (host : Host σ) (depth : Nat) (s : σ),
      (transclude host depth visited (crlf text) s).2 =
        (transclude host depth visited (lastLine text) s).2 ∧
      ∀ out, (transclude host depth visited (crlf text) s).1 = some out →
        ∃ last, out = assemble (scan visited (lastLine text)).groups
          ((endedLines text).map (· ++ ['\r']) ++ [last])) ∧
    ((∀ source : Source, source.ResolvesAlike visited text (crlf text)) ↔
      ∀ line ∈ endedLines text, Directive.read? line = none) ∧
    ((∀ line ∈ endedLines text, Directive.read? line = none) →
      ∀ (σ : Type) (host : Host σ) (depth : Nat) (s : σ),
        (transclude host depth visited (crlf text) s).2 =
          (transclude host depth visited text s).2 ∧
        (transclude host depth visited (crlf text) s).1.map withoutReturns =
          (transclude host depth visited text s).1.map withoutReturns) := by
  refine ⟨read?_append_return, fun σ host depth s => transclude_crlf host depth visited text s,
    ⟨fun h => plain_of_resolvesAlike (h .empty), fun hplain source depth out out' hout hout' => ?_⟩,
    fun hplain σ host depth s => transclude_crlf_of_plain host hplain depth visited s⟩
  obtain ⟨hasked, hresult⟩ := transclude_crlf_of_plain source.host hplain depth visited []
  rw [fst_transclude source.answersAs_host, fst_transclude source.answersAs_host, hout, hout',
    Option.map_some, Option.map_some, Option.some.injEq] at hresult
  exact ⟨hresult, fun path => by rw [hasked]⟩

/-- A directive in front of a newline: with a carriage return between them its document is not
fetched, and the line stays. -/
theorem crlf_not_alike :
    '\r' ∉ lit "[+](/a.md)\n" ∧
    ¬ (Source.ofDocuments [(lit "/a.md", lit "A")]).ResolvesAlike Visited.empty (lit "[+](/a.md)\n")
      (crlf (lit "[+](/a.md)\n")) := by
  refine ⟨by decide, fun h => ?_⟩
  have hout : lineByLine (Source.ofDocuments [(lit "/a.md", lit "A")]) 2 Visited.empty
      (lit "[+](/a.md)\n") = some (lit "A") := by decide +kernel
  have hout' : lineByLine (Source.ofDocuments [(lit "/a.md", lit "A")]) 2 Visited.empty
      (crlf (lit "[+](/a.md)\n")) = some (lit "[+](/a.md)\r\n") := by decide +kernel
  exact absurd (h 2 _ _ hout hout').1 (by decide)

end WikiPress.Snippet
