import WikiPress.Collapsible.Marker
import WikiPress.Proofs.Collapsible.Balance
import WikiPress.Proofs.Snippet.LineByLine

/-!
# Proofs/Snippet/Failures — when a failure stays inside its block

    ::: open .danger.readonly **name: message**        ::: .danger.empty .
    ```                                                message, transcluded
    source                                             :::
    ```
    :::

A script that fails is shown as its source in fenced code, a document that cannot be had as its
message, each between the marker lines of a block.  Neither is escaped.  A source is one piece of
fenced code exactly if none of its lines closes the fence (`faultBlock_contained_iff`), and a message
stays in its block exactly if it is balanced there (`failureBlock_contained_iff`); then the text
around the block is read as if the block were not there.
-/

namespace WikiPress.Fence

variable {fence : Fence} {lines : List Text}

/-- A fence stays open behind lines that do not close it. -/
theorem after_of_not_closedBy (h : ∀ line ∈ lines, fence.closedBy line = false) :
    after (some fence) lines = some fence := by
  induction lines with
  | nil => rfl
  | cons line rest ih =>
    obtain ⟨hline, hrest⟩ := List.forall_mem_cons.1 h
    rw [after_cons, next, hline, if_neg Bool.false_ne_true, ih hrest]

/-- Every line behind an open fence is code, until one closes the fence. -/
theorem outside_of_not_closedBy (h : ∀ line ∈ lines, fence.closedBy line = false) :
    outside (some fence) lines = [] := by
  induction lines with
  | nil => rfl
  | cons line rest ih =>
    obtain ⟨hline, hrest⟩ := List.forall_mem_cons.1 h
    rw [outside_cons_of_covers rfl, next, hline, if_neg Bool.false_ne_true, ih hrest]

end WikiPress.Fence

namespace WikiPress.Snippet

open Collapsible

/-! ## The parts of the two blocks -/

/-- What follows the colons in front of a script that failed. -/
def faultMarker (fault : Script.Fault) : Text :=
  lit " open .danger.readonly **" ++ fault.name ++ lit ": " ++ fault.message ++ lit "**"

/-- What follows the colons in front of a document that could not be had. -/
def failureMarker : Text := lit " .danger.empty ."

/-- The fence around the source of a script that failed. -/
def sourceFence : Fence := ⟨'`', 3⟩

/-- The source of a script that failed, in its fence. -/
def codeText (source : Text) : Text := lit "```\n" ++ source ++ lit "\n```\n"

/-- **One piece of fenced code**: a line that opens the fence, lines that do not close it, and one
that does. -/
def IsCodeBlock (lines : List Text) : Prop :=
  ∃ first inside last fence, lines = first :: (inside ++ [last]) ∧
    Fence.open? first = some fence ∧ (∀ line ∈ inside, fence.closedBy line = false) ∧
    fence.closedBy last = true

theorem isMarker_faultMarker {fault : Script.Fault} (hname : '\n' ∉ fault.name)
    (hmessage : '\n' ∉ fault.message) : IsMarker (faultMarker fault) := by
  have hfirst : lit " open .danger.readonly **" = ' ' :: lit "open .danger.readonly **" := rfl
  have hlast : lit "**" = ['*'] ++ ['*'] := rfl
  unfold faultMarker
  refine ⟨?_, ?_, ?_, ?_⟩
  · rw [hlast, ← List.append_assoc, Text.allBlank, List.all_append]
    exact Bool.and_eq_false_iff.2 (.inr (by decide))
  · simp only [List.mem_append, not_or]
    exact ⟨⟨⟨⟨by decide +kernel, hname⟩, by decide +kernel⟩, hmessage⟩, by decide +kernel⟩
  · rw [hfirst]
    simp
  · rw [hlast, ← List.append_assoc, List.getLast?_concat]
    decide

theorem isMarker_failureMarker : IsMarker failureMarker :=
  ⟨by decide +kernel, by decide +kernel, by decide +kernel, by decide +kernel⟩

/-- The line that ends both blocks. -/
theorem row_closing : row none (lit ":::\n") = .marker 3 [] ∧ row none (lit ":::") = .marker 3 [] :=
  ⟨by decide +kernel, by decide +kernel⟩

theorem faultBlock_eq (fault : Script.Fault) (source : Text) :
    faultBlock fault source = lit "\n\n" ++ (List.replicate 3 ':' ++ faultMarker fault ++ ['\n']) ++
      codeText source ++ lit ":::\n" ++ lit "\n" := by
  have hfirst : lit "\n\n::: open .danger.readonly **" =
      lit "\n\n" ++ List.replicate 3 ':' ++ lit " open .danger.readonly **" := rfl
  have hfence : lit "**\n```\n" = lit "**" ++ ['\n'] ++ lit "```\n" := rfl
  have hlast : lit "\n```\n:::\n\n" = lit "\n```\n" ++ lit ":::\n" ++ lit "\n" := rfl
  unfold faultBlock faultMarker codeText
  rw [hfirst, hfence, hlast]
  simp only [List.append_assoc]

theorem failureBlock_eq (content : Text) :
    failureBlock content = List.replicate 3 ':' ++ failureMarker ++ ['\n'] ++
      (content ++ ['\n']) ++ lit ":::" := by
  have hfirst : lit "::: .danger.empty .\n" = List.replicate 3 ':' ++ failureMarker ++ ['\n'] := rfl
  have hlast : lit "\n:::" = ['\n'] ++ lit ":::" := rfl
  unfold failureBlock
  rw [hfirst, hlast]
  simp only [List.append_assoc]

/-! ## The source of a script -/

theorem getLast?_codeText {source : Text} : (codeText source).getLast? = some '\n' := by
  have hlast : lit "\n```\n" = lit "\n```" ++ ['\n'] := rfl
  unfold codeText
  rw [hlast, ← List.append_assoc, List.getLast?_concat]

theorem completeLines_codeText (source : Text) :
    Text.completeLines (codeText source) =
      lit "```\n" :: (Text.completeLines (source ++ ['\n']) ++ [lit "```\n"]) := by
  have hopen : lit "```\n" = lit "```" ++ ['\n'] := rfl
  have hclose : lit "\n```\n" = ['\n'] ++ lit "```\n" := rfl
  have hfence : Text.completeLines (lit "```\n") = [lit "```\n"] := rfl
  have hlines : codeText source = lit "```\n" ++ ((source ++ ['\n']) ++ lit "```\n") := by
    unfold codeText
    rw [hclose]
    simp only [List.append_assoc]
  rw [hlines, Text.completeLines_append (s := lit "```\n") rfl,
    Text.completeLines_append List.getLast?_concat, hfence, List.singleton_append]

theorem contents_codeText (source : Text) :
    contents (codeText source) = lit "```" :: (contents (source ++ ['\n']) ++ [lit "```"]) := by
  have hfence : withoutLineEnd (lit "```\n") = lit "```" := rfl
  rw [contents, completeLines_codeText, List.map_cons, List.map_append, List.map_singleton, hfence,
    contents]

theorem open?_sourceFence : Fence.open? (lit "```") = some sourceFence := rfl

theorem closedBy_sourceFence : sourceFence.closedBy (lit "```") = true := rfl

/-- **The source of a script is one piece of fenced code** exactly if no line of it closes the
fence. -/
theorem isCodeBlock_codeText_iff {source : Text} : IsCodeBlock (contents (codeText source)) ↔
    ∀ line ∈ contents (source ++ ['\n']), sourceFence.closedBy line = false := by
  rw [contents_codeText]
  constructor
  · rintro ⟨first, inside, last, fence, hlines, hopen, hinside, -⟩
    obtain ⟨rfl, hrest⟩ := List.cons.inj hlines
    obtain ⟨rfl, -⟩ := List.append_inj' hrest rfl
    obtain rfl : sourceFence = fence := Option.some.inj (open?_sourceFence.symm.trans hopen)
    exact hinside
  · exact fun h => ⟨_, _, _, _, rfl, open?_sourceFence, h, closedBy_sourceFence⟩

theorem isRun_codeText {source : Text}
    (h : ∀ line ∈ contents (source ++ ['\n']), sourceFence.closedBy line = false) :
    IsRun (codeText source) := by
  refine ⟨getLast?_codeText, ?_, ?_⟩
  · rw [contents_codeText, Fence.after_cons, Fence.next, open?_sourceFence, Fence.after_append,
      Fence.after_of_not_closedBy h, Fence.after_cons, Fence.next, closedBy_sourceFence, if_pos rfl]
    rfl
  · have hopen : Fence.covers none (lit "```") = true := rfl
    have hclose : Fence.covers (some sourceFence) (lit "```") = true := rfl
    have hcode : Fence.outside none (contents (codeText source)) = [] := by
      rw [contents_codeText, Fence.outside_cons_of_covers hopen, Fence.next, open?_sourceFence,
        Fence.outside_append, Fence.outside_of_not_closedBy h, Fence.after_of_not_closedBy h,
        Fence.outside_cons_of_covers hclose]
      rfl
    rw [hcode]
    exact fun line hline => absurd hline List.not_mem_nil

/-! ## The block of a script -/

section Fault

variable {fault : Script.Fault} {source : Text}

/-- The lines of the block of a script that failed. -/
def faultLines (fault : Script.Fault) (source : Text) : List Text :=
  (List.replicate 3 ':' ++ faultMarker fault ++ ['\n']) ::
    (Text.completeLines (codeText source) ++ [lit ":::\n"])

theorem completeLines_faultBlock (hname : '\n' ∉ fault.name) (hmessage : '\n' ∉ fault.message)
    (before after : Text) : Text.completeLines (before ++ faultBlock fault source ++ after) =
      Text.completeLines (before ++ ['\n']) ++ [['\n']] ++
        (faultLines fault source ++ ['\n'] :: Text.completeLines after) := by
  have hblanks : lit "\n\n" = ['\n'] ++ ['\n'] := rfl
  have hblank : lit "\n" = ['\n'] := rfl
  have hclosing : Text.completeLines (lit ":::\n") = [lit ":::\n"] := rfl
  have hopening : '\n' ∉ List.replicate 3 ':' ++ faultMarker fault := fun h =>
    (List.mem_append.1 h).elim (by decide) (isMarker_faultMarker hname hmessage).oneLine
  have hlines : before ++ faultBlock fault source ++ after = (before ++ ['\n']) ++ (['\n'] ++
      ((List.replicate 3 ':' ++ faultMarker fault ++ ['\n']) ++ (codeText source ++
        (lit ":::\n" ++ (['\n'] ++ after))))) := by
    rw [faultBlock_eq, hblanks, hblank]
    simp only [List.append_assoc]
  rw [hlines, Text.completeLines_append (s := before ++ ['\n']) List.getLast?_concat,
    Text.completeLines_append (s := ['\n']) rfl,
    Text.completeLines_append (s := List.replicate 3 ':' ++ _ ++ _) List.getLast?_concat,
    Text.completeLines_of_not_mem hopening, Text.completeLines_append getLast?_codeText,
    Text.completeLines_append (s := lit ":::\n") rfl, hclosing,
    Text.completeLines_append (s := ['\n']) rfl, faultLines]
  simp only [Text.completeLines_newline_cons, Text.completeLines, List.append_assoc,
    List.cons_append, List.nil_append]

/-- **A script that failed stays in its block** if no line of its source closes the fence, and only
then is the source one piece of fenced code: the callout is its block between blank lines, and the
text around it is read as if the block were not there. -/
theorem faultBlock_contained_iff (hname : '\n' ∉ fault.name) (hmessage : '\n' ∉ fault.message) :
    (∀ line ∈ contents (source ++ ['\n']), sourceFence.closedBy line = false) ↔
      IsCodeBlock (contents (codeText source)) ∧
      passages (faultBlock fault source) = [.run (lit "\n\n"),
        .block (faultMarker fault) [.run (codeText source)], .run (lit "\n")] ∧
      ∀ before after, Fence.after none (contents (before ++ ['\n'])) = none →
        Inserted (.block (faultMarker fault) [.run (codeText source)])
          (passages (before ++ lit "\n\n\n" ++ after))
          (passages (before ++ faultBlock fault source ++ after)) := by
  refine ⟨fun h => ?_, fun h => isCodeBlock_codeText_iff.1 h.1⟩
  have hcloses : closes (some 3) 3 [] = true := rfl
  have hblock : IsBlock (faultLines fault source)
      (.block (faultMarker fault) [.run (codeText source)]) :=
    (isRun_codeText h).balanced.isBlock le_rfl (isMarker_faultMarker hname hmessage)
      row_closing.1 hcloses
  refine ⟨isCodeBlock_codeText_iff.2 h, passages_between_blanks hblock ?_, ?_⟩
  · have hlines : Text.completeLines (faultBlock fault source ++ []) = _ :=
      completeLines_faultBlock hname hmessage [] []
    rwa [List.append_nil] at hlines
  · intro before after hfence
    have hblanks : Text.completeLines (before ++ lit "\n\n\n" ++ after) =
        (Text.completeLines (before ++ ['\n']) ++ [['\n']]) ++
          ['\n'] :: Text.completeLines after := by
      have hlines : before ++ lit "\n\n\n" ++ after =
          (before ++ ['\n']) ++ '\n' :: '\n' :: after := by
        have hlit : lit "\n\n\n" = ['\n', '\n', '\n'] := rfl
        simp [hlit]
      rw [hlines, Text.completeLines_append List.getLast?_concat, Text.completeLines_newline_cons,
        Text.completeLines_newline_cons, List.append_assoc]
      rfl
    refine inserted_passages hblock hblanks
      (completeLines_faultBlock hname hmessage before after) ?_
    rw [List.map_append, Fence.after_append, ← contents, hfence]
    rfl

end Fault

/-! ## The block of a document -/

section Failure

variable {content : Text} {body : List Passage}

/-- The lines of the block of a document that could not be had. -/
def failureLines (content closing : Text) : List Text :=
  (List.replicate 3 ':' ++ failureMarker ++ ['\n']) ::
    (Text.completeLines (content ++ ['\n']) ++ [closing])

/-- The block stands on lines of its own: it ends with the text, or a line end follows. -/
theorem completeLines_failureBlock (content : Text) {behind : Text}
    (hbehind : behind = [] ∨ behind.head? = some '\n') :
    ∃ closing, row none closing = .marker 3 [] ∧
      Text.completeLines (failureBlock content ++ behind) =
        failureLines content closing ++ Text.completeLines (behind.drop 1) := by
  have hopening : '\n' ∉ List.replicate 3 ':' ++ failureMarker := by decide +kernel
  have hlines : failureBlock content ++ behind =
      (List.replicate 3 ':' ++ failureMarker ++ ['\n']) ++
        ((content ++ ['\n']) ++ (lit ":::" ++ behind)) := by
    rw [failureBlock_eq]
    simp only [List.append_assoc]
  rw [hlines, Text.completeLines_append (s := List.replicate 3 ':' ++ _ ++ _) List.getLast?_concat,
    Text.completeLines_of_not_mem hopening,
    Text.completeLines_append (s := content ++ _) List.getLast?_concat, List.singleton_append]
  rcases hbehind with rfl | hbehind
  · have hclosing : Text.completeLines (lit ":::" ++ []) = [lit ":::"] := rfl
    refine ⟨lit ":::", row_closing.2, ?_⟩
    rw [hclosing]
    exact (List.append_nil _).symm
  · obtain ⟨rest, rfl⟩ := List.head?_eq_some_iff.1 hbehind
    have hclosing : lit ":::" ++ '\n' :: rest = lit ":::\n" ++ rest := by
      have hlit : lit ":::\n" = lit ":::" ++ ['\n'] := rfl
      rw [hlit, List.append_assoc, List.singleton_append]
    have hline : Text.completeLines (lit ":::\n") = [lit ":::\n"] := rfl
    refine ⟨lit ":::\n", row_closing.1, ?_⟩
    rw [hclosing, Text.completeLines_append (s := lit ":::\n") rfl, hline]
    simp [failureLines]

/-- A balanced message is a block wherever it is put between lines outside fenced code. -/
theorem inserted_failureBlock (h : Balanced 3 (content ++ ['\n']) body) {before behind : Text}
    (hbefore : before = [] ∨ before.getLast? = some '\n')
    (hfence : Fence.after none (contents before) = none)
    (hbehind : behind = [] ∨ behind.head? = some '\n') :
    Inserted (.block failureMarker body) (passages (before ++ behind.drop 1))
      (passages (before ++ failureBlock content ++ behind)) := by
  obtain ⟨closing, hclosing, hlines⟩ := completeLines_failureBlock content hbehind
  have hblock : IsBlock (failureLines content closing) (.block failureMarker body) :=
    h.isBlock le_rfl isMarker_failureMarker hclosing rfl
  have happend : ∀ t, Text.completeLines (before ++ t) =
      Text.completeLines before ++ Text.completeLines t := by
    rcases hbefore with rfl | hbefore
    · exact fun t => rfl
    · exact Text.completeLines_append hbefore
  refine inserted_passages hblock (happend _) ?_ hfence
  rw [List.append_assoc, happend, hlines]

/-- A line behind the block tells whether the block has ended in front of it. -/
theorem balanced_of_inserted (h : Inserted (.block failureMarker body) [.run (lit "x")]
      (passages (failureBlock content ++ lit "\nx"))) : Balanced 3 (content ++ ['\n']) body := by
  have hnext : lit "\nx" = [] ∨ (lit "\nx").head? = some '\n' := .inr rfl
  obtain ⟨closing, hclosing, hlines⟩ := completeLines_failureBlock content hnext
  have hline : Text.completeLines ((lit "\nx").drop 1) = [lit "x"] := rfl
  have hne : closing ≠ [] := by
    rintro rfl
    exact absurd hclosing (by decide)
  rw [hline] at hlines
  exact balanced_of_passages le_rfl isMarker_failureMarker hne (by decide) hlines
    (h.of_run (isRun_head?_eq_false hlines (row_opening le_rfl isMarker_failureMarker)))

/-- **A message stays in its block** exactly if it is balanced there: then the expansion is that
block and nothing else, and the lines around it are read as if it were not there. -/
theorem failureBlock_contained_iff : Balanced 3 (content ++ ['\n']) body ↔
    passages (failureBlock content) = [.block failureMarker body] ∧
    ∀ before behind, (before = [] ∨ before.getLast? = some '\n') →
      Fence.after none (contents before) = none → (behind = [] ∨ behind.head? = some '\n') →
      Inserted (.block failureMarker body) (passages (before ++ behind.drop 1))
        (passages (before ++ failureBlock content ++ behind)) := by
  constructor
  · intro h
    refine ⟨?_, fun before behind hbefore hfence hbehind =>
      inserted_failureBlock h hbefore hfence hbehind⟩
    obtain ⟨closing, hclosing, hlines⟩ := completeLines_failureBlock content (.inl rfl)
    have hblock : IsBlock (failureLines content closing) (.block failureMarker body) :=
      h.isBlock le_rfl isMarker_failureMarker hclosing rfl
    rw [List.append_nil] at hlines
    exact passages_of_isBlock hblock (hlines.trans (List.append_nil _))
  · rintro ⟨-, hinserted⟩
    exact balanced_of_inserted (hinserted [] (lit "\nx") (.inl rfl) rfl (.inr rfl))

end Failure

/-! ## Failures -/

/-- The expansion of a directive whose document could not be had. -/
theorem expand_of_isError {σ : Type} {host : Host σ} {inner : Text → StateM σ (Option Text)}
    {file : Fetched} {data : Text} {d : Directive} {s : σ} {out : Text}
    (herror : file.isError = true) (hlevel : d.level = 0)
    (h : (expand host inner file data d s).1 = some out) :
    ∃ content, out = failureBlock content ∧
      let taken := snippet host.pick d data s
      if taken.1.isEmpty then content = [] else (inner taken.1 taken.2).1 = some content := by
  rw [expand_apply] at h
  have hunder : ∀ t, underHeading d t = t := fun t => by
    rw [underHeading, hlevel, if_neg (by decide)]
  have hshown : shown file.isError = failureBlock := funext fun t => by
    rw [shown, herror, if_pos rfl]
  simp only [hunder, hshown] at h ⊢
  split at h
  · next hempty =>
    obtain rfl := Option.some.inj h
    exact ⟨_, rfl, by rw [if_pos hempty]; exact List.isEmpty_iff.1 hempty⟩
  · next hempty =>
    obtain ⟨content, hcontent, rfl⟩ := Option.map_eq_some_iff.1 h
    exact ⟨content, rfl, by rwa [if_neg hempty]⟩

/-- **When failures stay inside their blocks.**  The callout of a script that failed is its block
between blank lines, with the source as one piece of fenced code, exactly if no line of the source
closes the fence; the expansion of a directive whose document could not be had is the block of class
`danger` and `empty` around what its message is transcluded to, exactly if that is balanced.  The
text around such a block is read as if the block were not there. -/
theorem failures_contained (fault : Script.Fault) (source : Text) {σ : Type} (host : Host σ)
    (inner : Text → StateM σ (Option Text)) (file : Fetched) (d : Directive) (s : σ) :
    ('\n' ∉ fault.name → '\n' ∉ fault.message →
      ((∀ line ∈ contents (source ++ ['\n']), sourceFence.closedBy line = false) ↔
        IsCodeBlock (contents (codeText source)) ∧
        passages (faultBlock fault source) = [.run (lit "\n\n"),
          .block (faultMarker fault) [.run (codeText source)], .run (lit "\n")] ∧
        ∀ before after, Fence.after none (contents (before ++ ['\n'])) = none →
          Inserted (.block (faultMarker fault) [.run (codeText source)])
            (passages (before ++ lit "\n\n\n" ++ after))
            (passages (before ++ faultBlock fault source ++ after)))) ∧
    ∀ out, file.isError = true → d.level = 0 →
      (expand host inner file (content host.evaluate d.target file) d s).1 = some out →
      (Marker.read failureMarker).classes = [lit "danger", lit "empty"] ∧
      ∃ content, out = failureBlock content ∧
        (let taken := snippet host.pick d (Snippet.content host.evaluate d.target file) s
        if taken.1.isEmpty then content = [] else (inner taken.1 taken.2).1 = some content) ∧
        ∀ body, Balanced 3 (content ++ ['\n']) body ↔
        passages out = [.block failureMarker body] ∧
        ∀ before behind, (before = [] ∨ before.getLast? = some '\n') →
          Fence.after none (contents before) = none →
          (behind = [] ∨ behind.head? = some '\n') →
          Inserted (.block failureMarker body) (passages (before ++ behind.drop 1))
            (passages (before ++ out ++ behind)) := by
  constructor
  · exact fun hname hmessage => faultBlock_contained_iff hname hmessage
  · intro out herror hlevel hout
    obtain ⟨content, rfl, hcontent⟩ := expand_of_isError herror hlevel hout
    exact ⟨by decide +kernel, content, rfl, hcontent, fun body => failureBlock_contained_iff⟩

/-- A script of one line, and a document that is missing. -/
theorem failures_contained_one_line :
    passages (faultBlock (.undefined (lit "x")) (lit "x.y")) = [.run (lit "\n\n"),
      .block (lit " open .danger.readonly **ReferenceError: x is not defined**")
        [.run (lit "```\nx.y\n```\n")], .run (lit "\n")] ∧
    (Source.ofDocuments []).expansion (lineByLine (Source.ofDocuments []) 1 .empty)
      ⟨lit "[+](/x.md)", lit "/x.md", 0, []⟩ =
        some (lit "::: .danger.empty .\n404 Not Found\n:::") ∧
    passages (lit "::: .danger.empty .\n404 Not Found\n:::") =
      [.block failureMarker [.run (lit "404 Not Found" ++ ['\n'])]] := by
  -- the source and the directive are kept closed: their texts are evaluated by `decide` alone
  obtain ⟨source, hsource⟩ : ∃ source, source = Source.ofDocuments [] := ⟨_, rfl⟩
  obtain ⟨d, hd⟩ : ∃ d : Directive, d = ⟨lit "[+](/x.md)", lit "/x.md", 0, []⟩ := ⟨_, rfl⟩
  obtain ⟨hfault, hfailure⟩ := failures_contained (.undefined (lit "x")) (lit "x.y") source.host
    (transclude source.host 1 .empty) (source.file d.target) d []
  refine ⟨?_, by decide +kernel, ?_⟩
  · have hname : '\n' ∉ (Script.Fault.undefined (lit "x")).name := by decide +kernel
    have hmessage : '\n' ∉ (Script.Fault.undefined (lit "x")).message := by decide +kernel
    have hfence : ∀ line ∈ contents (lit "x.y" ++ ['\n']), sourceFence.closedBy line = false := by
      decide +kernel
    have hmarker : faultMarker (.undefined (lit "x")) =
        lit " open .danger.readonly **ReferenceError: x is not defined**" := by decide +kernel
    have hcode : codeText (lit "x.y") = lit "```\nx.y\n```\n" := by decide +kernel
    have h := ((hfault hname hmessage).1 hfence).2.1
    rwa [hmarker, hcode] at h
  · have herror : (source.file d.target).isError = true := by rw [hsource, hd]; decide +kernel
    have hlevel : d.level = 0 := by rw [hd]
    have hexpansion : source.expansion (lineByLine source 1 .empty) d =
        some (lit "::: .danger.empty .\n404 Not Found\n:::") := by
      rw [hsource, hd]
      decide +kernel
    have htaken : source.snippet d = lit "404 Not Found" := by rw [hsource, hd]; decide +kernel
    have hmeaning :
        lineByLine source 1 .empty (lit "404 Not Found") = some (lit "404 Not Found") := by
      rw [hsource]
      decide +kernel
    have hhost := source.answersAs_host
    have hinner := fst_transclude hhost 1 .empty
    obtain ⟨-, message, -, hmessage, hcontained⟩ :=
      hfailure _ herror hlevel ((fst_expand hhost hinner d []).trans hexpansion)
    have hnonempty : ¬ (lit "404 Not Found").isEmpty = true := Bool.false_ne_true
    simp only [fst_snippet hhost, htaken, if_neg hnonempty, hinner, hmeaning] at hmessage
    obtain rfl := Option.some.inj hmessage
    have hrun : IsRun (lit "404 Not Found" ++ ['\n']) :=
      ⟨by decide +kernel, by decide +kernel, by decide +kernel⟩
    exact ((hcontained _).1 hrun.balanced).1

/-- **A source with a line that closes the fence, and a message with a closing line**, end their
blocks too early: what follows is text of the page around them. -/
theorem exists_failure_escapes :
    Script.parse (lit "```\n:::\nx") = .error .unterminatedString ∧
    leaves (passages (faultBlock (.notScript .unterminatedString) (lit "```\n:::\nx"))) =
      [lit "\n\n", lit "```\n```\n", lit "x\n```\n:::\n\n"] ∧
    passages (faultBlock (.notScript .unterminatedString) (lit "```\n:::\nx")) ≠ [.run (lit "\n\n"),
      .block (faultMarker (.notScript .unterminatedString)) [.run (codeText (lit "```\n:::\nx"))],
      .run (lit "\n")] ∧
    leaves (passages (failureBlock (lit ":::\nx"))) = [lit "x\n"] ∧
    (passages (failureBlock (lit ":::\nx"))).length = 3 := by
  have htokens : Script.tokens (lit "```\n:::\nx") = .error .unterminatedString := by
    decide +kernel
  have hleaves : leaves (passages (faultBlock (.notScript .unterminatedString)
      (lit "```\n:::\nx"))) = [lit "\n\n", lit "```\n```\n", lit "x\n```\n:::\n\n"] := by
    decide +kernel
  refine ⟨by rw [Script.parse, htokens]; rfl, hleaves, fun h => ?_, by decide +kernel,
    by decide +kernel⟩
  rw [h] at hleaves
  exact absurd hleaves (by decide +kernel)

end WikiPress.Snippet
