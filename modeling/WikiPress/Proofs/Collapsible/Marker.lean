import WikiPress.Proofs.Collapsible.Ways
import WikiPress.Proofs.Document.Header

/-!
# Proofs/Collapsible/Marker — the opening line of a block is read as it was written

    ␣ open ␣ .note.wide ␣ Click *me*
      ────   ──────────   ──────────
      flag   classes      summary, to the end of the line

Each part but the last may be missing, and what follows could be taken for it.  A summary that stands
behind a class list may look like anything; one that stands first must not look like a part that is
missing (`Marker.IsWritable`).  Then every part is found where it was written
(`Marker.IsWritable.parts?_write`), and the marker is read back (`Marker.read_written`).
-/

namespace WikiPress.Collapsible

/-! ## Writing -/

/-- Blanks, at least one. -/
structure Gap where
  text : Text
  ne_nil : text ≠ []
  allBlank : Text.allBlank text = true

/-- A class that a marker can name. -/
structure IsClassName (name : Text) : Prop where
  ne_nil : name ≠ []
  notBlank : ∀ c ∈ name, Text.isBlank c = false
  noDot : '.' ∉ name

/-- A summary that a marker can hold: one line, not the mark for no summary, without blanks in
front. -/
structure IsSummary (t : Text) : Prop where
  oneLine : '\n' ∉ t
  ne_backslash : t ≠ ['\\']
  head : ∀ c ∈ t.head?, Text.isBlank c = false

/-- Whether a text begins like a class list: with a dot, and with a blank somewhere behind it. -/
def LooksLikeClasses (t : Text) : Prop := ∃ rest, t = '.' :: rest ∧ ∃ c ∈ rest, Text.isBlank c = true

/-- Whether a text begins with the word `open` and a blank. -/
def LooksLikeOpen (t : Text) : Prop :=
  ∃ c rest, t = lit "open" ++ c :: rest ∧ Text.isBlank c = true

/-- **A marker that can be written**: what stands first, the summary if there are no classes, must
not look like a part that is missing. -/
structure Marker.IsWritable (m : Marker) : Prop where
  names : ∀ name ∈ m.classes, IsClassName name
  nodup : m.classes.Nodup
  summary : ∀ t ∈ m.summary, IsSummary t
  noClasses : m.classes = [] → ∀ t ∈ m.summary, ¬ LooksLikeClasses t
  noOpen : m.classes = [] → m.isOpen = false → ∀ t ∈ m.summary, ¬ LooksLikeOpen t

namespace Marker

variable (m : Marker) (front behindOpen behindClasses : Gap)

/-- The summary as it is written. -/
def writtenSummary : Text := m.summary.getD ['\\']

/-- The class list as it is written, if there is one, and the summary. -/
def writtenClasses : Text :=
  if m.classes = [] then m.writtenSummary
  else '.' :: (Text.join ['.'] m.classes ++ (behindClasses.text ++ m.writtenSummary))

/-- **A marker as it is written.** -/
def write : Text :=
  front.text ++ ((if m.isOpen then lit "open" ++ behindOpen.text else []) ++
    m.writtenClasses behindClasses)

end Marker

/-! ## Reading -/

section Reading

variable {m : Marker} {t : Text}

/-- Blanks are passed over. -/
theorem Gap.exists_cons (g : Gap) : ∃ c blanks, g.text = c :: blanks ∧ Text.isBlank c = true ∧
    Text.allBlank blanks = true := by
  obtain ⟨c, blanks, htext⟩ := List.exists_cons_of_ne_nil g.ne_nil
  have hall := g.allBlank
  rw [htext, Text.allBlank, List.all_cons, Bool.and_eq_true] at hall
  exact ⟨c, blanks, htext, hall⟩

theorem trimStart_of_head (h : ∀ c ∈ t.head?, Text.isBlank c = false) : Text.trimStart t = t := by
  rcases t with _ | ⟨c, t⟩
  · rfl
  · exact Text.trimStart_cons_of_not_blank (h c rfl) t

theorem trimStart_blanks_append {blanks : Text} (hblanks : Text.allBlank blanks = true)
    (h : ∀ c ∈ t.head?, Text.isBlank c = false) : Text.trimStart (blanks ++ t) = t := by
  rw [Text.trimStart_append_of_allBlank hblanks, trimStart_of_head h]

theorem afterOpen?_open (g : Gap) (h : ∀ c ∈ t.head?, Text.isBlank c = false) :
    afterOpen? (lit "open" ++ (g.text ++ t)) = some t := by
  obtain ⟨c, blanks, htext, hc, hblanks⟩ := g.exists_cons
  rw [htext, List.cons_append, afterOpen?, Text.strip?_eq_some_iff.2 rfl]
  simp only [hc, if_true, trimStart_blanks_append hblanks h]

/-- Where the word with a blank behind it does not stand, it is not read. -/
theorem afterOpen?_of_not_looksLikeOpen (h : ¬ LooksLikeOpen t) : afterOpen? t = none := by
  rw [afterOpen?]
  split
  · next c rest hword =>
    split
    · next hc => exact absurd ⟨c, rest, Text.strip?_eq_some_iff.1 hword, hc⟩ h
    · rfl
  · rfl

theorem summary?_of_line (h : '\n' ∉ t) : summary? t = some t := by
  rw [summary?, if_neg (by simpa using h)]

/-- A class list ends at its first blank, if one line follows. -/
theorem classList?_append {list : Text} (hlist : ∀ c ∈ list, Text.isBlank c = false) (g : Gap)
    (h : ∀ c ∈ t.head?, Text.isBlank c = false) (hline : '\n' ∉ t) (seen : Text) :
    classList? seen (list ++ (g.text ++ t)) = some (seen.reverse ++ list, t) := by
  induction list generalizing seen with
  | nil =>
    obtain ⟨c, blanks, htext, hc, hblanks⟩ := g.exists_cons
    rw [List.nil_append, htext, List.cons_append, classList?_cons, if_pos hc,
      trimStart_blanks_append hblanks h, summary?_of_line hline, List.append_nil]
  | cons c list ih =>
    obtain ⟨hc, hlist⟩ := List.forall_mem_cons.1 hlist
    have hnewline : (c == '\n') = false := by
      rw [beq_eq_false_iff_ne]
      rintro rfl
      exact absurd hc (by decide)
    simp only [List.cons_append, classList?_cons, hc, hnewline, Bool.false_eq_true, if_false,
      ih hlist (c :: seen), List.reverse_cons, List.append_assoc, List.nil_append]

/-- Without a blank there is no class list. -/
theorem classList?_eq_none (h : ∀ c ∈ t, Text.isBlank c = false) (seen : Text) :
    classList? seen t = none := by
  induction t generalizing seen with
  | nil => exact classList?_nil seen
  | cons c t ih =>
    obtain ⟨hc, ht⟩ := List.forall_mem_cons.1 h
    simp only [classList?_cons, hc, Bool.false_eq_true, if_false, ih ht, ite_self]

theorem classesAndSummary?_append {list : Text} (hlist : ∀ c ∈ list, Text.isBlank c = false)
    (g : Gap) (h : ∀ c ∈ t.head?, Text.isBlank c = false) (hline : '\n' ∉ t) :
    classesAndSummary? ('.' :: (list ++ (g.text ++ t))) = some (some list, t) := by
  simp only [classesAndSummary?, classList?_append hlist g h hline, List.reverse_nil,
    List.nil_append]

theorem classesAndSummary?_of_not_looksLikeClasses (h : ¬ LooksLikeClasses t) (hline : '\n' ∉ t) :
    classesAndSummary? t = some (none, t) := by
  by_cases hdot : t.head? = some '.'
  · obtain ⟨rest, rfl⟩ := List.head?_eq_some_iff.1 hdot
    have hrest : ∀ c ∈ rest, Text.isBlank c = false := fun c hc =>
      Bool.eq_false_iff.2 fun hblank => h ⟨rest, rfl, c, hc, hblank⟩
    simp only [classesAndSummary?, classList?_eq_none hrest, summary?_of_line hline, Option.map_some]
  · rw [classesAndSummary?_of_head hdot, summary?_of_line hline, Option.map_some]

/-! ## The parts put together -/

/-- The names in a class list. -/
def listed : Option Text → List Text
  | some list => Text.distinctItems (Text.splitOn '.' list)
  | none => []

theorem Marker.read_of_parts?_eq_none (h : parts? t = none) :
    Marker.read t = ⟨true, [emptyClass], none⟩ := by
  rw [Marker.read, h]

theorem Marker.read_of_parts? {isOpen : Bool} {list : Option Text} {summary : Text}
    (h : parts? t = some (isOpen, list, summary)) : Marker.read t =
      if emptyClass ∈ listed list then ⟨true, listed list, none⟩
      else ⟨isOpen, listed list, if summary == ['\\'] then none else some summary⟩ := by
  have hread : Marker.read t = if (listed list).contains emptyClass then ⟨true, listed list, none⟩
      else ⟨isOpen, listed list, if summary == ['\\'] then none else some summary⟩ := by
    rw [Marker.read, h]
    cases list <;> rfl
  by_cases hempty : emptyClass ∈ listed list
  · rw [hread, if_pos (List.contains_iff_mem.2 hempty), if_pos hempty]
  · rw [hread, if_neg (mt List.contains_iff_mem.1 hempty), if_neg hempty]

/-! ## What is written -/

/-- The summary that is written is one line without blanks in front, also where there is none. -/
theorem Marker.IsWritable.writtenSummary (h : m.IsWritable) : '\n' ∉ m.writtenSummary ∧
    ∀ c ∈ m.writtenSummary.head?, Text.isBlank c = false := by
  rw [Marker.writtenSummary]
  cases hsummary : m.summary with
  | none => exact ⟨by decide, by rintro _ ⟨⟩; rfl⟩
  | some t => exact ⟨(h.summary t hsummary).oneLine, (h.summary t hsummary).head⟩

/-- What looks like a missing part is not written. -/
theorem Marker.IsWritable.not_looksLike (h : m.IsWritable) (hclasses : m.classes = []) :
    ¬ LooksLikeClasses m.writtenSummary ∧ (m.isOpen = false → ¬ LooksLikeOpen m.writtenSummary) := by
  rw [Marker.writtenSummary]
  cases hsummary : m.summary with
  | none =>
    refine ⟨?_, fun _ => ?_⟩
    · rintro ⟨rest, heq, -⟩
      exact absurd (List.cons.inj heq).1 (by decide)
    · rintro ⟨c, rest, heq, -⟩
      exact absurd (List.cons.inj heq).1 (by decide)
  | some t =>
    exact ⟨h.noClasses hclasses t hsummary, fun hopen => h.noOpen hclasses hopen t hsummary⟩

theorem Marker.IsWritable.notBlank_join (h : m.IsWritable) :
    ∀ c ∈ Text.join ['.'] m.classes, Text.isBlank c = false := by
  intro c hc
  rcases Text.mem_join hc with hdot | ⟨name, hname, hc⟩
  · rw [List.mem_singleton.1 hdot]
    decide
  · exact (h.names name hname).notBlank c hc

theorem Marker.IsWritable.head?_writtenClasses (h : m.IsWritable) (g : Gap) :
    ∀ c ∈ (m.writtenClasses g).head?, Text.isBlank c = false := by
  rw [Marker.writtenClasses]
  split
  · exact h.writtenSummary.2
  · intro c hc
    obtain rfl : '.' = c := Option.some.inj hc
    decide

/-- The classes and the summary are found where they were written. -/
theorem Marker.IsWritable.classesAndSummary?_written (h : m.IsWritable) (g : Gap) :
    classesAndSummary? (m.writtenClasses g) =
      some (if m.classes = [] then none else some (Text.join ['.'] m.classes), m.writtenSummary) := by
  obtain ⟨hline, hhead⟩ := h.writtenSummary
  rw [Marker.writtenClasses]
  split
  · next hnil =>
    exact classesAndSummary?_of_not_looksLikeClasses (h.not_looksLike hnil).1 hline
  · exact classesAndSummary?_append h.notBlank_join g hhead hline

/-- A class list does not begin with the word `open`, and no summary does that stands alone. -/
theorem Marker.IsWritable.afterOpen?_written (h : m.IsWritable) (hopen : m.isOpen = false) (g : Gap) :
    afterOpen? (m.writtenClasses g) = none := by
  refine afterOpen?_of_not_looksLikeOpen ?_
  rw [Marker.writtenClasses]
  split
  · next hnil => exact (h.not_looksLike hnil).2 hopen
  · rintro ⟨c, rest, heq, -⟩
    exact absurd (List.cons.inj heq).1 (by decide)

/-- **Every part is found where it was written.** -/
theorem Marker.IsWritable.parts?_write (h : m.IsWritable) (front behindOpen behindClasses : Gap) :
    parts? (m.write front behindOpen behindClasses) = some (m.isOpen,
      if m.classes = [] then none else some (Text.join ['.'] m.classes), m.writtenSummary) := by
  have hclasses := h.classesAndSummary?_written behindClasses
  have hhead := h.head?_writtenClasses behindClasses
  obtain ⟨c, blanks, htext, hc, hblanks⟩ := front.exists_cons
  rw [Marker.write, htext, List.cons_append, parts?_cons_of_blank hc]
  cases hopen : m.isOpen with
  | true =>
    have hword : ∀ c ∈ (lit "open" ++ (behindOpen.text ++ m.writtenClasses behindClasses)).head?,
        Text.isBlank c = false := by
      intro c hc
      obtain rfl : 'o' = c := Option.some.inj hc
      rfl
    simp only [if_true, List.append_assoc, trimStart_blanks_append hblanks hword,
      afterOpen?_open behindOpen hhead, hclasses, Option.map_some]
  | false =>
    simp only [Bool.false_eq_true, if_false, List.nil_append, trimStart_blanks_append hblanks hhead,
      h.afterOpen?_written hopen behindClasses, hclasses, Option.map_some]

theorem trim_of_notBlank (h : ∀ c ∈ t, Text.isBlank c = false) : Text.trim t = t := by
  have hstart : Text.trimStart t = t := trimStart_of_head fun c hc => h c (List.mem_of_mem_head? hc)
  have hreverse : Text.trimStart t.reverse = t.reverse := trimStart_of_head fun c hc =>
    h c (List.mem_reverse.1 (List.mem_of_mem_head? hc))
  refine Text.trim_eq_self_iff.2 ⟨hstart, ?_⟩
  rw [Text.trimEnd_eq_reverse, hreverse, List.reverse_reverse]

/-- **The names between the dots are the classes.** -/
theorem Marker.IsWritable.listed_join (h : m.IsWritable) :
    listed (if m.classes = [] then none else some (Text.join ['.'] m.classes)) = m.classes := by
  by_cases hne : m.classes = []
  · rw [if_pos hne, hne]
    rfl
  have htrim : m.classes.map Text.trim = m.classes :=
    (List.map_congr_left fun name hname => trim_of_notBlank (h.names name hname).notBlank).trans
      (List.map_id _)
  have hkept : m.classes.foldl Flags.addPiece [] = [] ++ m.classes :=
    Flags.foldl_addPiece_of_nodup htrim (fun name hname => (h.names name hname).ne_nil) h.nodup
  rw [if_neg hne, listed,
    Text.splitOn_join_of_not_mem hne fun name hname => (h.names name hname).noDot,
    Flags.distinctItems_eq_foldl, hkept, List.nil_append]

/-- What is read of a written marker. -/
theorem Marker.IsWritable.read_write (h : m.IsWritable) (front behindOpen behindClasses : Gap) :
    Marker.read (m.write front behindOpen behindClasses) =
      if emptyClass ∈ m.classes then ⟨true, m.classes, none⟩ else m := by
  have hsummary : (if m.writtenSummary == ['\\'] then none else some m.writtenSummary) =
      m.summary := by
    rw [Marker.writtenSummary]
    cases hsummary : m.summary with
    | none => rfl
    | some t => exact if_neg (by simpa using (h.summary t hsummary).ne_backslash)
  rw [Marker.read_of_parts? (h.parts?_write front behindOpen behindClasses), h.listed_join, hsummary]

end Reading

/-- **A written marker is read back**, whatever blanks stand between its parts.  With the class
`empty` among its classes it is an expanded block without a summary, and so is every marker with it,
however written. -/
theorem Marker.read_written :
    (∀ (m : Marker) (front behindOpen behindClasses : Gap), m.IsWritable → emptyClass ∉ m.classes →
      Marker.read (m.write front behindOpen behindClasses) = m) ∧
    (∀ (m : Marker) (front behindOpen behindClasses : Gap), m.IsWritable → emptyClass ∈ m.classes →
      Marker.read (m.write front behindOpen behindClasses) = ⟨true, m.classes, none⟩) ∧
    ∀ t : Text, emptyClass ∈ (Marker.read t).classes →
      (Marker.read t).isOpen = true ∧ (Marker.read t).summary = none := by
  refine ⟨fun m front behindOpen behindClasses h hempty => ?_,
    fun m front behindOpen behindClasses h hempty => ?_, fun t hempty => ?_⟩
  · rw [h.read_write, if_neg hempty]
  · rw [h.read_write, if_pos hempty]
  · cases hparts : parts? t with
    | none =>
      rw [Marker.read_of_parts?_eq_none hparts]
      exact ⟨rfl, rfl⟩
    | some parts =>
      obtain ⟨isOpen, list, summary⟩ := parts
      rw [Marker.read_of_parts? hparts] at hempty ⊢
      split at hempty
      · next h =>
        rw [if_pos h]
        exact ⟨rfl, rfl⟩
      · next h => exact absurd hempty h

/-- A summary that begins like a second word `open`, one that begins like more classes behind a class
`empty`, and a text that is no marker. -/
theorem Marker.read_written_of_three :
    Marker.IsWritable ⟨true, [], some (lit "open .x y")⟩ ∧
      Marker.read (lit " open open .x y") = ⟨true, [], some (lit "open .x y")⟩ ∧
      Marker.IsWritable ⟨false, [lit "tip", emptyClass], some (lit ".x y")⟩ ∧
      Marker.read (lit "\t.tip.empty \n.x y") = ⟨true, [lit "tip", emptyClass], none⟩ ∧
      emptyClass ∈ (Marker.read (lit "x")).classes ∧
      (Marker.read (lit "x")).isOpen = true ∧ (Marker.read (lit "x")).summary = none := by
  have hopen : Marker.IsWritable ⟨true, [], some (lit "open .x y")⟩ := by
    refine ⟨by simp, List.nodup_nil, ?_, ?_, fun _ h => absurd h (by decide)⟩
    · rintro _ ⟨⟩
      exact ⟨by decide, by decide, by rintro _ ⟨⟩; rfl⟩
    · rintro - _ ⟨⟩ ⟨rest, heq, -⟩
      exact absurd (List.cons.inj heq).1 (by decide)
  have hempty : Marker.IsWritable ⟨false, [lit "tip", emptyClass], some (lit ".x y")⟩ := by
    refine ⟨?_, by decide, ?_, fun h => absurd h (by decide), fun h => absurd h (by decide)⟩
    · intro name hname
      rcases List.mem_pair.1 hname with rfl | rfl
      · exact ⟨by decide, Text.forall_mem_of_all (by decide), by decide⟩
      · exact ⟨by decide, Text.forall_mem_of_all (by decide), by decide⟩
    · rintro _ ⟨⟩
      exact ⟨by decide, by decide, by rintro _ ⟨⟩; rfl⟩
  have hnone : emptyClass ∈ (Marker.read (lit "x")).classes := by decide
  let space : Gap := ⟨[' '], by decide, rfl⟩
  exact ⟨hopen, Marker.read_written.1 _ space space space hopen (by decide), hempty,
    Marker.read_written.2.1 _ ⟨['\t'], by decide, rfl⟩ space ⟨[' ', '\n'], by decide, rfl⟩ hempty
      (by decide), hnone, Marker.read_written.2.2 _ hnone⟩

end WikiPress.Collapsible
