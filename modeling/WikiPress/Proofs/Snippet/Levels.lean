import WikiPress.Proofs.Snippet.Headings
import WikiPress.Proofs.Snippet.LineByLine

/-!
# Proofs/Snippet/Levels — the headings an expansion brings in

    ### [+](/a.md)     a.md:  # A            ──▸  ### [](/a.md "#")
                              ## [+](/b.md)       ### A
                       b.md:  # B                 #### [](/b.md "#")
                                                  #### B

Headings are shifted before the directives among them are expanded, and a directive with a heading
mark is itself a heading, so at every depth the headings end up with at least the marks of the
directive they come in through.  What is not shifted is told by where it comes from: it came through
a directive that has fewer marks itself, for it has none or stands in fenced code, or it has an odd
blank (`Source.Unshifted`), or it stood in fenced code of its own text (`Source.InCode`).  Such code
is code in the result as well, as long as the texts on the way close the fences they open
(`Source.ClosesFences`).

Both are carried from the contents of the directives to the text they are spliced into
(`Source.Splices`, `traced_of_inner`, `fenced_of_inner`), so they hold at every depth
(`traced_inside`, `fenced_inside`).
-/

namespace WikiPress.Snippet

variable {source : Source}

/-! ## Lines that are not shifted -/

/-- **The line comes in unshifted**, below the text: its marks are followed by an odd blank, or it
comes through a directive with fewer than `n` marks. -/
inductive Source.Unshifted (source : Source) (n : Nat) : Visited → Text → Text → Prop
  /-- A line of the text itself. -/
  | odd {visited text line} (hline : line ∈ Text.splitOn '\n' text)
      (hblank : hasOddBlank line = true) : source.Unshifted n visited text line
  /-- A line of the content of a directive that is spliced as it is. -/
  | through {visited text d depth content line} (hd : d ∈ (scan visited text).directives)
      (hlevel : d.level < n)
      (hplace : d.level = 0 ∨ d.line ∈ Fence.inside none (Text.splitOn '\n' text))
      (hcontent : source.expansion (lineByLine source depth (visited.entering text)) d =
        some content)
      (hline : line ∈ Text.splitOn '\n' content) : source.Unshifted n visited text line
  /-- A line below the text of a directive with enough marks. -/
  | inner {visited text d line} (hd : d ∈ (scan visited text).directives) (hlevel : n ≤ d.level)
      (h : source.Unshifted n (visited.entering text) (underHeading d (source.snippet d)) line) :
      source.Unshifted n visited text line

/-- **The line stands in fenced code** of the text, or of a text below it that comes through
directives with at least `n` marks. -/
inductive Source.InCode (source : Source) (n : Nat) : Visited → Text → Text → Prop
  | own {visited text line} (hline : line ∈ Fence.inside none (Text.splitOn '\n' text)) :
      source.InCode n visited text line
  | inner {visited text d line} (hd : d ∈ (scan visited text).directives) (hlevel : n ≤ d.level)
      (h : source.InCode n (visited.entering text) (underHeading d (source.snippet d)) line) :
      source.InCode n visited text line

/-- **Every fence is closed** by the text that opens it, for the text and the texts below it, and no
directive is expanded in fenced code.  What comes through a directive without marks is taken as it
is spliced. -/
inductive Source.ClosesFences (source : Source) : Visited → Text → Prop
  | intro {visited text} (hclosed : Fence.after none (Text.splitOn '\n' text) = none)
      (hplace : ∀ d ∈ (scan visited text).directives,
        d.line ∉ Fence.inside none (Text.splitOn '\n' text))
      (hspliced : ∀ d ∈ (scan visited text).directives, d.level = 0 → ∀ depth content,
        source.expansion (lineByLine source depth (visited.entering text)) d = some content →
          Fence.after none (Text.splitOn '\n' content) = none)
      (hinner : ∀ d ∈ (scan visited text).directives, d.level ≠ 0 →
        source.ClosesFences (visited.entering text) (underHeading d (source.snippet d))) :
      source.ClosesFences visited text

/-- The line is one of these, but for blanks at its end. -/
def UpToBlanks (these : Text → Prop) (line : Text) : Prop :=
  ∃ origin, these origin ∧ Text.trimEnd origin = Text.trimEnd line

theorem UpToBlanks.of_trimEnd {these : Text → Prop} {piece line : Text}
    (h : UpToBlanks these piece) (htrim : Text.trimEnd piece = Text.trimEnd line) :
    UpToBlanks these line := by
  obtain ⟨origin, horigin, heq⟩ := h
  exact ⟨origin, horigin, heq.trans htrim⟩

theorem UpToBlanks.imp {these those : Text → Prop} (himp : ∀ origin, these origin → those origin)
    {line : Text} (h : UpToBlanks these line) : UpToBlanks those line := by
  obtain ⟨origin, horigin, heq⟩ := h
  exact ⟨origin, himp origin horigin, heq⟩

/-! ## The lines of a result -/

/-- The lines that stand in place of a line. -/
def pieces (visited : Visited) (contents : Directive → Text) (line : Text) : List Text :=
  Text.splitOn '\n' (splicedLine visited contents line)

theorem pieces_of_closed {visited : Visited} {contents : Directive → Text} {line : Text}
    (hline : '\n' ∉ line) (h : openDirective? visited line = none) :
    pieces visited contents line = [keptLine visited line] := by
  rw [pieces, splicedLine_of_closed h]
  refine Text.splitOn_of_not_mem ?_
  rw [keptLine]
  split
  · split
    · exact List.not_mem_nil
    · exact hline
  · exact hline

/-- **A line stays or is emptied, or the lines of its content stand in its place.** -/
theorem pieces_cases {visited : Visited} {text line : Text} (contents : Directive → Text)
    (hline : line ∈ Text.splitOn '\n' text) :
    pieces visited contents line = [keptLine visited line] ∨
      ∃ d ∈ (scan visited text).directives, d.line = line ∧
        pieces visited contents line = Text.splitOn '\n' (contents d) := by
  cases hopen : openDirective? visited line with
  | none => exact .inl (pieces_of_closed (Text.not_mem_of_mem_splitOn hline) hopen)
  | some d =>
    have hd := mem_directives_scan.2 (List.mem_filterMap.2 ⟨line, hline, hopen⟩)
    refine .inr ⟨d, hd, Directive.line_of_read? (openDirective?_eq_some_iff.1 hopen).1, ?_⟩
    rw [pieces, splicedLine_of_open hopen]

/-- The lines of a text with contents in place. -/
theorem splitOn_spliced (visited : Visited) (text : Text) (contents : Directive → Text) :
    Text.splitOn '\n' ((scan visited text).spliced contents) =
      (Text.splitOn '\n' text).flatMap (pieces visited contents) := by
  have hne : (Text.splitOn '\n' text).map (splicedLine visited contents) ≠ [] :=
    mt List.map_eq_nil_iff.1 (Text.splitOn_ne_nil _ text)
  rw [Scan.spliced, splice_scan, Text.splitOn_join hne, List.flatMap_map]
  rfl

/-- A first line that stays, and is not trimmed, keeps the text from being trimmed at its beginning. -/
theorem trimStart_spliced (visited : Visited) {text first : Text} {rest : List Text}
    (contents : Directive → Text) (hlines : Text.splitOn '\n' text = first :: rest)
    (hread : Directive.read? first = none) (hfirst : Text.allBlank first = false)
    (htrim : Text.trimStart first = first) :
    Text.trimStart ((scan visited text).spliced contents) = (scan visited text).spliced contents := by
  have hclosed : openDirective? visited first = none := by simp [openDirective?, hread]
  have hnewline : '\n' ∉ first :=
    Text.not_mem_of_mem_splitOn (hlines ▸ List.mem_cons_self : first ∈ Text.splitOn '\n' text)
  have hspliced : Text.splitOn '\n' ((scan visited text).spliced contents) =
      first :: rest.flatMap (pieces visited contents) := by
    rw [splitOn_spliced, hlines, List.flatMap_cons, pieces_of_closed hnewline hclosed,
      keptLine_of_read?_eq_none hread]
    rfl
  have hfront : Text.splitOn '\n' (Text.trimStart ((scan visited text).spliced contents)) =
      Text.splitOn '\n' ((scan visited text).spliced contents) := by
    rw [Text.splitOn_trimStart, hspliced, Text.trimFront_cons_of_trimStart hfirst htrim]
  rw [← Text.join_splitOn '\n' (Text.trimStart _), hfront, Text.join_splitOn]

/-- **The pieces of a meaning**: what the directives of a text turn into, and the lines with that in
place, which are those of the meaning but for blanks at the end. -/
structure Source.Splices (source : Source) (visited : Visited) (text : Text) (shallower : Nat)
    (outs : Directive → Text) (out : Text) : Prop where
  inner : ∀ d ∈ (scan visited text).directives,
    source.inside (lineByLine source shallower (visited.entering text)) d = some (outs d)
  lines : ∃ k, ((Text.splitOn '\n' text).flatMap (pieces visited fun d =>
      shown (source.file d.target).isError (outs d))).map Text.trimEnd =
    (Text.splitOn '\n' out).map Text.trimEnd ++ List.replicate k []

/-- **A meaning is put together from its pieces**, if the text begins with a line that stays and is not
trimmed. -/
theorem exists_spliced {visited : Visited} {text out first : Text} {rest : List Text} {depth : Nat}
    (hlines : Text.splitOn '\n' text = first :: rest) (hread : Directive.read? first = none)
    (hfirst : Text.allBlank first = false) (htrim : Text.trimStart first = first)
    (h : lineByLine source depth visited text = some out) :
    ∃ (shallower : Nat) (outs : Directive → Text), depth = shallower + 1 ∧
      source.Splices visited text shallower outs out := by
  obtain _ | shallower := depth
  · exact absurd h (by simp [lineByLine])
  by_cases hnone : (scan visited text).targets = []
  · -- nothing is trimmed, and there are no directives
    rw [lineByLine_of_closed source hnone] at h
    obtain rfl := Option.some.inj h
    have hdirectives : ∀ d, d ∉ (scan visited text).directives := fun d hd => by
      have htarget := target_mem_targets_scan hd
      rw [hnone] at htarget
      exact absurd htarget List.not_mem_nil
    refine ⟨shallower, fun _ => [], rfl, fun d hd => absurd hd (hdirectives d), 0, ?_⟩
    have hspliced : Text.join ['\n'] (scan visited text).lines =
        (scan visited text).spliced fun d => shown (source.file d.target).isError [] := by
      rw [Scan.spliced, List.eq_nil_iff_forall_not_mem.2 hdirectives]
      exact congrArg _ (List.map_id _).symm
    rw [← splitOn_spliced, ← hspliced, List.replicate_zero, List.append_nil]
  · rw [lineByLine_eq_some_iff source hnone] at h
    obtain ⟨outs, houts, rfl⟩ := h
    set contents : Directive → Text := fun d => shown (source.file d.target).isError (outs d)
    -- the first line stays, so trimming takes blanks at the end only
    have hstart := trimStart_spliced visited contents hlines hread hfirst htrim
    obtain ⟨k, hk⟩ := Text.map_trimEnd_splitOn ((scan visited text).spliced contents)
    refine ⟨shallower, outs, rfl, houts, k, ?_⟩
    rw [← splitOn_spliced, hk, Text.trim, hstart]

/-- What stands for a failure adds two lines that are neither headings nor fences. -/
theorem splitOn_shown (failed : Bool) (content : Text) :
    Text.splitOn '\n' (shown failed content) =
      if failed then lit "::: .danger.empty ." :: (Text.splitOn '\n' content ++ [lit ":::"])
      else Text.splitOn '\n' content := by
  cases failed with
  | false => rfl
  | true =>
    have hfirst : '\n' ∉ lit "::: .danger.empty ." := by decide +kernel
    have hlast : '\n' ∉ lit ":::" := by decide +kernel
    rw [shown, if_pos rfl, failureBlock_eq_join,
      Text.splitOn_join (List.cons_ne_nil _ _), List.flatMap_cons, List.flatMap_cons,
      List.flatMap_singleton, Text.splitOn_of_not_mem hfirst, Text.splitOn_of_not_mem hlast]
    rfl

/-- A heading in what is shown is a heading of the content. -/
theorem mem_of_mem_shown {failed : Bool} {content line : Text} {k : Nat}
    (hline : line ∈ Text.splitOn '\n' (shown failed content)) (hk : atxLevel? line = some k) :
    line ∈ Text.splitOn '\n' content := by
  rw [splitOn_shown] at hline
  cases failed with
  | false => exact hline
  | true =>
    rw [if_pos rfl] at hline
    rcases List.mem_cons.1 hline with rfl | hline
    · exact absurd hk nofun
    · rcases List.mem_append.1 hline with hline | hline
      · exact hline
      · obtain rfl := List.mem_singleton.1 hline
        exact absurd hk nofun

/-- …and outside fenced code, if it is there, -/
theorem mem_outside_of_mem_shown {failed : Bool} {content line : Text} {k : Nat}
    (hline : line ∈ Fence.outside none (Text.splitOn '\n' (shown failed content)))
    (hk : atxLevel? line = some k) : line ∈ Fence.outside none (Text.splitOn '\n' content) := by
  rw [splitOn_shown] at hline
  cases failed with
  | false => exact hline
  | true =>
    rw [if_pos rfl, Fence.outside_cons_of_not_covers rfl, Fence.outside_append] at hline
    rcases List.mem_cons.1 hline with rfl | hline
    · exact absurd hk nofun
    · rcases List.mem_append.1 hline with hline | hline
      · exact hline
      · obtain rfl := List.mem_singleton.1 (Fence.mem_of_mem_outside hline)
        exact absurd hk nofun

/-- …and the fences of the content are closed where it ends, or not. -/
theorem after_shown (failed : Bool) (content : Text) :
    Fence.after none (Text.splitOn '\n' (shown failed content)) =
      Fence.after none (Text.splitOn '\n' content) := by
  rw [splitOn_shown]
  cases failed with
  | false => rfl
  | true =>
    rw [if_pos rfl, Fence.after_cons, Fence.next_of_read?_eq_none none rfl, Fence.after_append]
    exact Fence.next_of_read?_eq_none _ rfl

/-! ## Where headings come from -/

section Origin

variable {visited : Visited} {d : Directive} {n k : Nat} {line : Text}

/-- A directive below a heading that has fewer marks has none, or it stands in fenced code. -/
theorem place_of_level_lt (hread : Directive.read? d.line = some d) (hlevel : 2 ≤ d.level)
    {inner : Directive}
    (hinner : inner ∈ (scan visited (underHeading d (source.snippet d))).directives)
    (hlt : inner.level < d.level) :
    inner.level = 0 ∨ inner.line ∈
      Fence.inside none (Text.splitOn '\n' (underHeading d (source.snippet d))) := by
  obtain ⟨hline, hinnerRead, -⟩ := mem_openDirectives.1 (mem_directives_scan.1 hinner)
  refine Classical.or_iff_not_imp_left.2 fun hzero => ?_
  refine (Fence.mem_outside_or_mem_inside hline).resolve_left fun houtside => ?_
  obtain ⟨-, -, hatx, hodd⟩ := atxLevel?_of_read? hinnerRead hzero
  have hmax := (atxLevel?_of_read? hread (by omega)).2.1
  have htarget := Directive.newline_not_mem_target hread
  rcases atxLevel?_underHeading hlevel hmax htarget houtside hatx with hle | hblank
  · omega
  · rw [hodd] at hblank
    exact absurd hblank (by decide)

/-- **Where a heading of the text itself comes from**, if it has too few marks. -/
theorem own_origin (hread : Directive.read? d.line = some d) (hlevel : 2 ≤ d.level)
    (hn : n ≤ d.level) (hk : atxLevel? line = some k) (hlt : k < n)
    (hline : line ∈ Fence.outside none (Text.splitOn '\n' (underHeading d (source.snippet d)))) :
    source.Unshifted n visited (underHeading d (source.snippet d)) line := by
  have hmax := (atxLevel?_of_read? hread (by omega)).2.1
  have htarget := Directive.newline_not_mem_target hread
  rcases atxLevel?_underHeading hlevel hmax htarget hline hk with hle | hblank
  · omega
  · exact .odd (Fence.mem_of_mem_outside hline) hblank

/-- …and of one that comes through a directive with too few marks. -/
theorem through_origin (hread : Directive.read? d.line = some d) (hlevel : 2 ≤ d.level)
    (hn : n ≤ d.level) {shallower : Nat} {outs : Directive → Text} {out : Text}
    (hspliced : source.Splices visited (underHeading d (source.snippet d)) shallower outs out)
    {inner : Directive}
    (hinner : inner ∈ (scan visited (underHeading d (source.snippet d))).directives)
    (hless : inner.level < n)
    (hline : line ∈ Text.splitOn '\n' (shown (source.file inner.target).isError (outs inner))) :
    source.Unshifted n visited (underHeading d (source.snippet d)) line :=
  .through hinner hless (place_of_level_lt hread hlevel hinner (by omega))
    (Source.expansion_of_inside (hspliced.inner inner hinner)) hline

/-- The text below a heading begins with a line that stays. -/
theorem exists_spliced_underHeading (hread : Directive.read? d.line = some d)
    (hlevel : 2 ≤ d.level) {depth : Nat} {out : Text}
    (h : lineByLine source depth visited (underHeading d (source.snippet d)) = some out) :
    ∃ (shallower : Nat) (outs : Directive → Text), depth = shallower + 1 ∧
      source.Splices visited (underHeading d (source.snippet d)) shallower outs out := by
  have hlines := splitOn_underHeading hlevel (Directive.newline_not_mem_target hread)
    (source.snippet d)
  obtain ⟨m, hm⟩ : ∃ m, min d.level 6 = m + 1 := ⟨min d.level 6 - 1, by omega⟩
  refine exists_spliced hlines (read?_markerLine (by omega) _) ?_ ?_ h
  · rw [markerLine, hm]
    rfl
  · rw [markerLine, hm]
    exact Text.trimStart_cons_of_not_blank (by decide) _

/-- The lines of a result are lines of what is spliced, -/
theorem exists_eq_trimEnd {out : Text} {spliced : List Text} {m : Nat}
    (h : spliced.map Text.trimEnd =
      (Text.splitOn '\n' out).map Text.trimEnd ++ List.replicate m [])
    (hline : line ∈ Text.splitOn '\n' out) : UpToBlanks (· ∈ spliced) line := by
  have hmem : Text.trimEnd line ∈ spliced.map Text.trimEnd :=
    h ▸ List.mem_append_left _ (List.mem_map_of_mem hline)
  exact List.mem_map.1 hmem

/-- …and those outside fenced code stand outside it there. -/
theorem exists_outside_eq_trimEnd {out : Text} {spliced : List Text} {m : Nat}
    (h : spliced.map Text.trimEnd =
      (Text.splitOn '\n' out).map Text.trimEnd ++ List.replicate m [])
    (hline : line ∈ Fence.outside none (Text.splitOn '\n' out)) :
    UpToBlanks (· ∈ Fence.outside none spliced) line := by
  have hmem : Text.trimEnd line ∈ (Fence.outside none spliced).map Text.trimEnd := by
    rw [← Fence.outside_map_trimEnd, h, Fence.outside_append, Fence.outside_map_trimEnd]
    exact List.mem_append_left _ (List.mem_map_of_mem hline)
  exact List.mem_map.1 hmem

/-- A heading is no emptied line. -/
theorem eq_of_eq_keptLine {own : Text} (hline : line = keptLine visited own)
    (hk : atxLevel? line = some k) : line = own := by
  rw [hline, keptLine] at hk ⊢
  split
  · split
    · next hread hvisited =>
      simp only [hread, hvisited, if_true, atxLevel?_nil] at hk
      exact absurd hk (by simp)
    · rfl
  · rfl

/-- **Every heading of a result has enough marks**, or comes in unshifted, or stood in code. -/
def Source.Traced (source : Source) (visited : Visited) (d : Directive) (out : Text) : Prop :=
  ∀ line ∈ Text.splitOn '\n' out, ∀ k n, atxLevel? line = some k → n ≤ d.level → n ≤ k ∨
    UpToBlanks (fun origin =>
      source.Unshifted n visited (underHeading d (source.snippet d)) origin ∨
        source.InCode n visited (underHeading d (source.snippet d)) origin) line

/-- The text itself is traced, -/
theorem traced_self (hread : Directive.read? d.line = some d) (hlevel : 2 ≤ d.level) :
    source.Traced visited d (underHeading d (source.snippet d)) := by
  intro line hline k n hk hn
  refine (Nat.lt_or_ge k n).symm.imp_right fun hlt => ⟨line, ?_, rfl⟩
  rcases Fence.mem_outside_or_mem_inside hline with houtside | hinside
  · exact .inl (own_origin hread hlevel hn hk hlt houtside)
  · exact .inr (.own hinside)

/-- …and so is what it turns into, if the contents that are spliced for its directives are. -/
theorem traced_of_inner (hread : Directive.read? d.line = some d) (hlevel : 2 ≤ d.level)
    {shallower : Nat} {outs : Directive → Text} {out : Text}
    (hspliced : source.Splices visited (underHeading d (source.snippet d)) shallower outs out)
    (hinner : ∀ inner ∈ (scan visited (underHeading d (source.snippet d))).directives,
      2 ≤ inner.level → source.Traced
        (visited.entering (underHeading d (source.snippet d))) inner (outs inner)) :
    source.Traced visited d out := by
  intro line hline k n hk hn
  obtain ⟨_, hlines⟩ := hspliced.lines
  obtain ⟨piece, hpiece, htrim⟩ := exists_eq_trimEnd hlines hline
  rw [← atxLevel?_trimEnd, ← htrim, atxLevel?_trimEnd] at hk
  obtain ⟨own, hown, hpiece⟩ := List.mem_flatMap.1 hpiece
  rcases pieces_cases _ hown with hkept | ⟨inner, hmem, -, hcontent⟩
  · rw [hkept, List.mem_singleton] at hpiece
    obtain rfl := eq_of_eq_keptLine hpiece hk
    have hself : source.Traced visited d (underHeading d (source.snippet d)) :=
      traced_self hread hlevel
    exact (hself piece hown k n hk hn).imp_right (·.of_trimEnd htrim)
  · rw [hcontent] at hpiece
    refine (Nat.lt_or_ge k n).symm.imp_right fun hlt => ?_
    rcases Nat.lt_or_ge inner.level n with hless | hge
    · exact ⟨piece, .inl (through_origin hread hlevel hn hspliced hmem hless hpiece), htrim⟩
    · have hpos := pos_of_atxLevel? hk
      have hbelow := (hinner inner hmem (by omega) piece (mem_of_mem_shown hpiece hk) k n hk
        hge).resolve_left (by omega)
      exact (hbelow.imp fun origin => Or.imp (.inner hmem hge) (.inner hmem hge)).of_trimEnd htrim

/-- **The headings of a result are traced**, at every depth. -/
theorem traced_inside {depth : Nat} (hread : Directive.read? d.line = some d)
    (hlevel : 2 ≤ d.level) {out : Text}
    (hout : source.inside (lineByLine source depth visited) d = some out) :
    source.Traced visited d out := by
  induction depth using Nat.strong_induction_on generalizing visited d out with
  | _ depth ih =>
  rw [Source.inside] at hout
  split at hout
  · obtain rfl := Option.some.inj hout
    exact traced_self hread hlevel
  · obtain ⟨shallower, outs, rfl, hspliced⟩ := exists_spliced_underHeading hread hlevel hout
    exact traced_of_inner hread hlevel hspliced fun inner hmem hmarked =>
      ih shallower (Nat.lt_succ_self _) (read?_of_mem_directives_scan hmem) hmarked
        (hspliced.inner inner hmem)

/-! ## Fences that are closed -/

/-- The lines in place of a line outside fenced code close every fence they open. -/
theorem after_pieces {text : Text} {shallower : Nat} {outs : Directive → Text} {out own : Text}
    (hspliced : source.Splices visited text shallower outs out)
    (hcloses : source.ClosesFences visited text)
    (hinner : ∀ inner ∈ (scan visited text).directives, inner.level ≠ 0 →
      Fence.after none (Text.splitOn '\n' (outs inner)) = none)
    (hown : own ∈ Fence.outside none (Text.splitOn '\n' text)) :
    Fence.after none (pieces visited
      (fun inner => shown (source.file inner.target).isError (outs inner)) own) = none := by
  obtain ⟨-, -, hcontents, -⟩ := hcloses
  rcases pieces_cases _ (Fence.mem_of_mem_outside hown) with hkept | ⟨inner, hmem, -, hcontent⟩
  · rw [hkept]
    exact (Fence.next_congr (fence_keptLine visited own) none).trans
      (Fence.open?_of_mem_outside hown)
  · rw [hcontent]
    by_cases hzero : inner.level = 0
    · exact hcontents inner hmem hzero shallower _
        (Source.expansion_of_inside (hspliced.inner inner hmem))
    · rw [after_shown, hinner inner hmem hzero]

/-- …and a line of fenced code stays, or is emptied. -/
theorem pieces_of_mem_inside {text : Text} {contents : Directive → Text} {own : Text}
    (hcloses : source.ClosesFences visited text)
    (hown : own ∈ Fence.inside none (Text.splitOn '\n' text)) :
    ∃ kept, pieces visited contents own = [kept] ∧ Fence.read? kept = Fence.read? own := by
  obtain ⟨-, hplace, -, -⟩ := hcloses
  rcases pieces_cases contents (Fence.mem_of_mem_inside hown) with hkept | ⟨inner, hmem, rfl, -⟩
  · exact ⟨_, hkept, fence_keptLine visited own⟩
  · exact absurd hown (hplace inner hmem)

/-- **Every heading of a result outside fenced code has enough marks**, or comes in unshifted; and
the result closes every fence it opens. -/
structure Source.Fenced (source : Source) (visited : Visited) (d : Directive) (out : Text) :
    Prop where
  closed : Fence.after none (Text.splitOn '\n' out) = none
  traced : ∀ line ∈ Fence.outside none (Text.splitOn '\n' out), ∀ k n, atxLevel? line = some k →
    n ≤ d.level → n ≤ k ∨
      UpToBlanks (source.Unshifted n visited (underHeading d (source.snippet d))) line

/-- The text itself is fenced, if it closes every fence, -/
theorem fenced_self (hread : Directive.read? d.line = some d) (hlevel : 2 ≤ d.level)
    (hcloses : source.ClosesFences visited (underHeading d (source.snippet d))) :
    source.Fenced visited d (underHeading d (source.snippet d)) := by
  obtain ⟨hclosed, -⟩ := hcloses
  refine ⟨hclosed, fun line hline k n hk hn => ?_⟩
  refine (Nat.lt_or_ge k n).symm.imp_right fun hlt => ?_
  exact ⟨line, own_origin hread hlevel hn hk hlt hline, rfl⟩

/-- …and so is what it turns into, if the contents that are spliced for its directives are. -/
theorem fenced_of_inner (hread : Directive.read? d.line = some d) (hlevel : 2 ≤ d.level)
    {shallower : Nat} {outs : Directive → Text} {out : Text}
    (hspliced : source.Splices visited (underHeading d (source.snippet d)) shallower outs out)
    (hcloses : source.ClosesFences visited (underHeading d (source.snippet d)))
    (hinner : ∀ inner ∈ (scan visited (underHeading d (source.snippet d))).directives,
      inner.level ≠ 0 → source.Fenced
        (visited.entering (underHeading d (source.snippet d))) inner (outs inner)) :
    source.Fenced visited d out := by
  obtain ⟨hafter, houtside⟩ := Fence.outside_flatMap
    (fun own hown => pieces_of_mem_inside hcloses hown)
    (fun own hown => after_pieces hspliced hcloses
      (fun inner hmem hmarked => (hinner inner hmem hmarked).closed) hown)
  obtain ⟨hclosed, hown⟩ := fenced_self hread hlevel hcloses
  obtain ⟨_, hlines⟩ := hspliced.lines
  constructor
  · have hends := congrArg (Fence.after none) hlines
    rw [Fence.after_map_trimEnd, hafter, hclosed, Fence.after_append, Fence.after_replicate_nil,
      Fence.after_map_trimEnd] at hends
    exact hends.symm
  · intro line hline k n hk hn
    obtain ⟨piece, hpiece, htrim⟩ := exists_outside_eq_trimEnd hlines hline
    rw [← atxLevel?_trimEnd, ← htrim, atxLevel?_trimEnd] at hk
    rw [houtside] at hpiece
    obtain ⟨own, hmemOwn, hpiece⟩ := List.mem_flatMap.1 hpiece
    rcases pieces_cases _ (Fence.mem_of_mem_outside hmemOwn) with
      hkept | ⟨inner, hmem, -, hcontent⟩
    · rw [hkept] at hpiece
      obtain rfl := eq_of_eq_keptLine (List.mem_singleton.1 (Fence.mem_of_mem_outside hpiece)) hk
      exact (hown piece hmemOwn k n hk hn).imp_right (·.of_trimEnd htrim)
    · rw [hcontent] at hpiece
      refine (Nat.lt_or_ge k n).symm.imp_right fun hlt => ?_
      rcases Nat.lt_or_ge inner.level n with hless | hge
      · have hpiece := Fence.mem_of_mem_outside hpiece
        exact ⟨piece, through_origin hread hlevel hn hspliced hmem hless hpiece, htrim⟩
      · have hpos := pos_of_atxLevel? hk
        have hbelow := ((hinner inner hmem (by omega)).traced piece
          (mem_outside_of_mem_shown hpiece hk) k n hk hge).resolve_left (by omega)
        exact (hbelow.imp fun origin => .inner hmem hge).of_trimEnd htrim

/-- **A result is fenced**, at every depth, if every fence is closed. -/
theorem fenced_inside {depth : Nat} (hread : Directive.read? d.line = some d)
    (hlevel : 2 ≤ d.level) {out : Text}
    (hout : source.inside (lineByLine source depth visited) d = some out)
    (hcloses : source.ClosesFences visited (underHeading d (source.snippet d))) :
    source.Fenced visited d out := by
  induction depth using Nat.strong_induction_on generalizing visited d out with
  | _ depth ih =>
  rw [Source.inside] at hout
  split at hout
  · obtain rfl := Option.some.inj hout
    exact fenced_self hread hlevel hcloses
  · obtain ⟨shallower, outs, rfl, hspliced⟩ := exists_spliced_underHeading hread hlevel hout
    refine fenced_of_inner hread hlevel hspliced hcloses fun inner hmem hmarked => ?_
    have hinnerRead := read?_of_mem_directives_scan hmem
    obtain ⟨-, -, -, hbelow⟩ := hcloses
    exact ih shallower (Nat.lt_succ_self _) hinnerRead
      (atxLevel?_of_read? hinnerRead hmarked).1 (hspliced.inner inner hmem)
      (hbelow inner hmem hmarked)

end Origin

/-! ## Expansions -/

/-- **The headings of an expansion have at least the marks of its directive**, at every depth, but
for those that come in unshifted and those that stand in fenced code; and the latter do not count
where every fence is closed. -/
theorem expansion_level_le {σ : Type} {host : Host σ} (h : host.AnswersAs source)
    {visited : Visited} {text : Text} {d : Directive} (hd : d ∈ openDirectives visited text)
    (hlevel : 2 ≤ d.level) {depth : Nat} {s : σ} {out : Text}
    (hout : (expand host (transclude host depth (visited.entering text)) (source.file d.target)
      (content host.evaluate d.target (source.file d.target)) d s).1 = some out) :
    (∀ line ∈ Text.splitOn '\n' out, ∀ k, atxLevel? line = some k → d.level ≤ k ∨
      UpToBlanks (fun origin =>
        source.Unshifted d.level (visited.entering text)
            (underHeading d (source.snippet d)) origin ∨
          source.InCode d.level (visited.entering text)
            (underHeading d (source.snippet d)) origin) line) ∧
    (source.ClosesFences (visited.entering text) (underHeading d (source.snippet d)) →
      ∀ line ∈ Fence.outside none (Text.splitOn '\n' out), ∀ k, atxLevel? line = some k →
        d.level ≤ k ∨ UpToBlanks (source.Unshifted d.level (visited.entering text)
          (underHeading d (source.snippet d))) line) := by
  have hread := (mem_openDirectives.1 hd).2.1
  rw [fst_expand h (fun text s => fst_transclude h depth _ text s), Source.expansion,
    Option.map_eq_some_iff] at hout
  obtain ⟨inner, hinner, rfl⟩ := hout
  refine ⟨fun line hline k hk => ?_, fun hcloses line hline k hk => ?_⟩
  · exact traced_inside hread hlevel hinner line (mem_of_mem_shown hline hk) k d.level hk
      (Nat.le_refl _)
  · exact (fenced_inside hread hlevel hinner hcloses).traced line
      (mem_outside_of_mem_shown hline hk) k d.level hk (Nat.le_refl _)

/-- The expansion of a directive that is a text of its own. -/
def Source.expandAlone (source : Source) (depth : Nat) (d : Directive) : Option Text :=
  (expand source.host (transclude source.host depth (Visited.empty.entering d.line))
    (source.file d.target) (content source.evaluate d.target (source.file d.target)) d []).1

/-- A heading that comes in two documents deep has the marks of both directives; the code beside it
is no heading. -/
theorem expansion_level_le_of_nested :
    ∃ (source : Source) (d : Directive) (out : Text),
      source = Source.ofDocuments
        [(lit "/a.md", lit "# A\n## [+](/b.md)\n```\n# code\n```"), (lit "/b.md", lit "# B")] ∧
      d.line = lit "### [+](/a.md)" ∧ d ∈ openDirectives .empty d.line ∧ d.level = 3 ∧
      source.expandAlone 3 d = some out ∧
      out = lit "### [](/a.md \"#\")\n\n### A\n#### [](/b.md \"#\")\n\n#### B\n```\n# code\n```" ∧
      source.ClosesFences (Visited.empty.entering d.line) (underHeading d (source.snippet d)) ∧
      ∀ line ∈ Fence.outside none (Text.splitOn '\n' out), ∀ k, atxLevel? line = some k →
        d.level ≤ k ∨ UpToBlanks (source.Unshifted d.level (Visited.empty.entering d.line)
          (underHeading d (source.snippet d))) line := by
  set source := Source.ofDocuments
    [(lit "/a.md", lit "# A\n## [+](/b.md)\n```\n# code\n```"), (lit "/b.md", lit "# B")]
    with hsource
  set d : Directive := ⟨lit "### [+](/a.md)", lit "/a.md", 3, []⟩ with hd
  set inner : Directive := ⟨lit "#### [+](/b.md)", lit "/b.md", 4, []⟩ with hinner
  set text := underHeading d (source.snippet d) with htext
  have hopen : d ∈ openDirectives .empty d.line := by decide +kernel
  have hout : source.expandAlone 3 d = some
      (lit "### [](/a.md \"#\")\n\n### A\n#### [](/b.md \"#\")\n\n#### B\n```\n# code\n```") := by
    decide +kernel
  have hscan : (scan (Visited.empty.entering d.line) text).directives = [inner] := by
    decide +kernel
  have hscanInner : (scan ((Visited.empty.entering d.line).entering text)
      (underHeading inner (source.snippet inner))).directives = [] := by decide +kernel
  have hclosesInner : source.ClosesFences ((Visited.empty.entering d.line).entering text)
      (underHeading inner (source.snippet inner)) := by
    refine .intro (by decide +kernel) ?_ ?_ ?_ <;> rw [hscanInner] <;>
      exact fun d hd => absurd hd List.not_mem_nil
  have hcloses : source.ClosesFences (Visited.empty.entering d.line) text := by
    refine .intro (by decide +kernel) ?_ ?_ ?_ <;> rw [hscan] <;>
      refine List.forall_mem_singleton.2 ?_
    · decide +kernel
    · exact fun hzero => absurd hzero (by decide)
    · exact fun _ => hclosesInner
  exact ⟨source, d, _, rfl, rfl, hopen, rfl, hout, rfl, hcloses,
    (expansion_level_le source.answersAs_host hopen (by decide) hout).2 hcloses⟩

/-- The headings of a text outside fenced code that have fewer than `n` marks. -/
def shallowHeadings (n : Nat) (text : Text) : List Text :=
  (Fence.outside none (Text.splitOn '\n' text)).filter fun line => (atxLevel? line).any (· < n)

/-- **Four ways past the shift**: a directive without marks, a fence that is left open, a directive
that is expanded in fenced code, and an odd blank. -/
theorem exists_shallowHeading :
    ∃ d : Directive, Directive.read? (lit "### [+](/a.md)") = some d ∧ d.level = 3 ∧
      ((Source.ofDocuments [(lit "/a.md", lit "[+](/b.md)"), (lit "/b.md", lit "# B")]).expandAlone
        3 d).map (shallowHeadings 3) = some [lit "# B"] ∧
      ((Source.ofDocuments [(lit "/a.md", lit "## [+](/b.md)\n```\n# code\n```"),
        (lit "/b.md", lit "```")]).expandAlone 3 d).map (shallowHeadings 3) =
          some [lit "# code"] ∧
      ((Source.ofDocuments [(lit "/a.md", lit "A\n```\n## [+](/b.md)\n```"),
        (lit "/b.md", lit "```\n# B\n```")]).expandAlone 3 d).map (shallowHeadings 3) =
          some [lit "# B"] ∧
      ((Source.ofDocuments [(lit "/a.md", lit "A\n#\r\nA")]).expandAlone 3 d).map
        (shallowHeadings 3) = some [lit "#\r"] := by
  refine ⟨⟨lit "### [+](/a.md)", lit "/a.md", 3, []⟩, ?_, rfl, ?_, ?_, ?_, ?_⟩ <;>
    decide +kernel

end WikiPress.Snippet
