import WikiPress.Document.Basic
import WikiPress.Proofs.Text.Lines

/-!
# Proofs/Document/Header — flag lines are read as they were written, and go

    @tags:  rust , wiki/notes ␣␍␊      tags     rust | wiki/notes
    @title: My page␊                   title    My page
    @author:someone␊                   author   someone
    @updated:␍␊                        updated  —
    body                               body

A header is one line for each flag (`WritesHeader`), in any order.  Two things read it: the lines give
the description of the document, and they go from its body.  Both cut the text at its newlines and
ask the same question of each line (`line?`), so a header and a body are told by the lines of the
header and the lines of the body (`WritesHeader.exists_lines`).  Each line of the header sets one field,
fields are set in any order (`foldl_copy`), and what is left of the header is line ends, which the
trimming takes (`read_header`).
-/

namespace WikiPress

/-- The name of a flag as it stands behind the `@`, with its colon. -/
def FlagName.key : FlagName → Text
  | .title => lit "title:"
  | .tags => lit "tags:"
  | .updated => lit "updated:"
  | .author => lit "author:"

namespace Flags

/-! ## Values -/

/-- A value of a flag line: one line, without spaces and tabs around it and without a carriage return
at its end. -/
structure IsValue (value : Text) : Prop where
  one_line : '\n' ∉ value
  head : ∀ c ∈ value.head?, Text.isSpaceOrTab c = false
  last : ∀ c ∈ value.getLast?, Text.isSpaceOrTab c = false ∧ c ≠ '\r'

/-- An item of a list: not empty, without blanks around it, and without commas and newlines. -/
structure IsItem (item : Text) : Prop where
  ne_nil : item ≠ []
  trim_eq : Text.trim item = item
  comma_not_mem : ',' ∉ item
  one_line : '\n' ∉ item

instance (value : Text) : Decidable (IsValue value) :=
  decidable_of_iff ('\n' ∉ value ∧ value.head?.toList.all (fun c => !Text.isSpaceOrTab c) = true ∧
      value.getLast?.toList.all (fun c => !Text.isSpaceOrTab c && c != '\r') = true)
    ⟨fun ⟨hone, hhead, hlast⟩ => ⟨hone, by simpa using hhead, by simpa using hlast⟩,
      fun ⟨hone, hhead, hlast⟩ => ⟨hone, by simpa using hhead, by simpa using hlast⟩⟩

instance (item : Text) : Decidable (IsItem item) :=
  decidable_of_iff (item ≠ [] ∧ Text.trim item = item ∧ ',' ∉ item ∧ '\n' ∉ item)
    ⟨fun ⟨hne, htrim, hcomma, hone⟩ => ⟨hne, htrim, hcomma, hone⟩,
      fun ⟨hne, htrim, hcomma, hone⟩ => ⟨hne, htrim, hcomma, hone⟩⟩

/-- **Items in a row**: between two of them a comma, and any blanks around the comma that keep the
line a line. -/
inductive Lists : List Text → Text → Prop
  | none : Lists [] []
  | last (item : Text) : Lists [item] item
  | cons (item : Text) {items : List Text} {before after value : Text}
      (hbefore : Text.allBlank before = true ∧ '\n' ∉ before)
      (hafter : Text.allBlank after = true ∧ '\n' ∉ after)
      (hitems : items ≠ []) (hvalue : Lists items value) :
      Lists (item :: items) (item ++ (before ++ ',' :: (after ++ value)))

/-- What a description has for a flag, as a value. -/
inductive Says (flags : Flags) : FlagName → Text → Prop
  | title : Says flags .title flags.title
  | tags {value : Text} (h : Lists flags.tags value) : Says flags .tags value
  | updated {value : Text} (h : Lists flags.updated value) : Says flags .updated value
  | author {value : Text} (h : flags.author = some value) : Says flags .author value

section Values

variable {value item : Text} {items : List Text}

theorem isSpaceOrTab_of_not_isBlank {c : Char} (h : Text.isBlank c = false) :
    Text.isSpaceOrTab c = false ∧ c ≠ '\r' := by
  constructor
  · rw [Text.isSpaceOrTab, Bool.or_eq_false_iff, beq_eq_false_iff_ne, beq_eq_false_iff_ne]
    constructor <;> rintro rfl <;> exact absurd h (by decide)
  · rintro rfl
    exact absurd h (by decide)

theorem IsItem.head (h : IsItem item) : ∀ c ∈ item.head?, Text.isBlank c = false := by
  have hhead := Text.head?_dropEndWhile Text.isBlank item
  rwa [show Text.dropEndWhile Text.isBlank (item.dropWhile Text.isBlank) = item from h.trim_eq]
    at hhead

theorem IsItem.getLast (h : IsItem item) : ∀ c ∈ item.getLast?, Text.isBlank c = false := by
  have hlast := Text.getLast?_dropEndWhile Text.isBlank (item.dropWhile Text.isBlank)
  rwa [show Text.dropEndWhile Text.isBlank (item.dropWhile Text.isBlank) = item from h.trim_eq]
    at hlast

/-- An item between blanks is what trimming leaves. -/
theorem IsItem.trim_around (h : IsItem item) {front back : Text} (hfront : Text.allBlank front = true)
    (hback : Text.allBlank back = true) : Text.trim (front ++ (item ++ back)) = item :=
  (Text.trim_around hfront hback item).trans h.trim_eq

theorem Lists.ne_nil (h : Lists items value) (hitems : ∀ i ∈ items, IsItem i) (hne : items ≠ []) :
    value ≠ [] := by
  cases h with
  | none => exact absurd rfl hne
  | last => exact (hitems _ List.mem_cons_self).ne_nil
  | cons =>
    exact List.append_ne_nil_of_left_ne_nil (hitems _ List.mem_cons_self).ne_nil _

/-- **Items in a row are a value.** -/
theorem Lists.isValue (h : Lists items value) (hitems : ∀ i ∈ items, IsItem i) : IsValue value := by
  induction h with
  | none => exact ⟨List.not_mem_nil, by simp, by simp⟩
  | last item =>
    have hitem := hitems item List.mem_cons_self
    exact ⟨hitem.one_line, fun c hc => (isSpaceOrTab_of_not_isBlank (hitem.head c hc)).1,
      fun c hc => isSpaceOrTab_of_not_isBlank (hitem.getLast c hc)⟩
  | @cons item items before after value hbefore hafter hne hvalue ih =>
    obtain ⟨hitem, hitems⟩ := List.forall_mem_cons.1 hitems
    have ih := ih hitems
    refine ⟨?_, ?_, ?_⟩
    · simp [hitem.one_line, hbefore.2, hafter.2, ih.one_line]
    · rw [List.head?_append_of_ne_nil _ hitem.ne_nil]
      exact fun c hc => (isSpaceOrTab_of_not_isBlank (hitem.head c hc)).1
    · have hnil := hvalue.ne_nil hitems hne
      rw [← List.append_assoc, ← List.cons_append, ← List.append_assoc,
        List.getLast?_append_of_ne_nil _ hnil]
      exact ih.last

/-- Cut at the commas, a row gives its items with blanks around them. -/
theorem Lists.map_trim_splitOn (h : Lists items value) (hitems : ∀ i ∈ items, IsItem i)
    (hne : items ≠ []) {front : Text} (hfront : Text.allBlank front = true) :
    (Text.splitOn ',' (front ++ value)).map Text.trim = items := by
  have hcomma : ∀ {blanks : Text}, Text.allBlank blanks = true → ',' ∉ blanks := fun hblanks hmem =>
    absurd (List.all_eq_true.1 hblanks _ hmem) (by decide)
  induction h generalizing front with
  | none => exact absurd rfl hne
  | last item =>
    have hitem := hitems item List.mem_cons_self
    have htrim : Text.trim (front ++ (item ++ [])) = item := hitem.trim_around hfront rfl
    rw [List.append_nil] at htrim
    rw [Text.splitOn_of_not_mem (by simp [hcomma hfront, hitem.comma_not_mem]), List.map_singleton,
      htrim]
  | @cons item items before after value hbefore hafter hnext hvalue ih =>
    obtain ⟨hitem, hitems⟩ := List.forall_mem_cons.1 hitems
    have hfirst : ',' ∉ front ++ (item ++ before) := by
      simp [hcomma hfront, hitem.comma_not_mem, hcomma hbefore.1]
    have hsplit : front ++ (item ++ (before ++ ',' :: (after ++ value))) =
        (front ++ (item ++ before)) ++ ',' :: (after ++ value) := by
      simp only [List.append_assoc]
    rw [hsplit, Text.splitOn_append_cons, Text.splitOn_of_not_mem hfirst, List.map_append,
      List.map_singleton, hitem.trim_around hfront hbefore.1, ih hitems hnext hafter.1,
      List.singleton_append]

/-- The items kept so far with one more piece. -/
def addPiece (kept : List Text) (piece : Text) : List Text :=
  if (Text.trim piece).isEmpty || kept.contains (Text.trim piece) then kept
  else kept ++ [Text.trim piece]

theorem distinctItems_eq_foldl (pieces : List Text) :
    Text.distinctItems pieces = pieces.foldl addPiece [] := rfl

/-- Different items are all kept. -/
theorem foldl_addPiece_of_nodup {pieces kept : List Text} (hpieces : pieces.map Text.trim = items)
    (hne : ∀ i ∈ items, i ≠ []) (hnodup : (kept ++ items).Nodup) :
    pieces.foldl addPiece kept = kept ++ items := by
  induction pieces generalizing items kept with
  | nil =>
    rw [← hpieces]
    exact (List.append_nil kept).symm
  | cons piece pieces ih =>
    rw [List.map_cons] at hpieces
    subst hpieces
    obtain ⟨hpiece, hne⟩ := List.forall_mem_cons.1 hne
    have hnew : Text.trim piece ∉ kept := fun hmem =>
      (List.nodup_append.1 hnodup).2.2 _ hmem _ List.mem_cons_self rfl
    rw [List.foldl_cons, addPiece, if_neg (by simp [hpiece, hnew]), ih rfl hne (by simpa using hnodup),
      List.append_assoc, List.singleton_append]

/-- **A row of different items is read as these items.** -/
theorem Lists.listItems_eq (h : Lists items value) (hitems : ∀ i ∈ items, IsItem i)
    (hnodup : items.Nodup) : listItems value = items := by
  by_cases hne : items = []
  · subst hne
    cases h
    rfl
  · have hpieces : (Text.splitOn ',' value).map Text.trim = items :=
      h.map_trim_splitOn hitems hne (show Text.allBlank [] = true from rfl)
    rw [listItems, distinctItems_eq_foldl]
    exact foldl_addPiece_of_nodup hpieces (fun i hi => (hitems i hi).ne_nil) hnodup

end Values

/-! ## Flag lines -/

/-- **A header**: flag lines one after the other, of these flags and with what the description has in
their fields.  Spaces and tabs may stand around a value and a carriage return in front of the
newline. -/
inductive WritesHeader (flags : Flags) : List FlagName → Text → Prop
  | nil : WritesHeader flags [] []
  | cons {name : FlagName} {value front back lineEnd : Text} {names : List FlagName} {rest : Text}
      (hvalue : flags.Says name value) (hfront : front.all Text.isSpaceOrTab = true)
      (hback : back.all Text.isSpaceOrTab = true)
      (hend : lineEnd = ['\n'] ∨ lineEnd = ['\r', '\n']) (hrest : WritesHeader flags names rest) :
      WritesHeader flags (name :: names)
        ('@' :: (name.key ++ (front ++ (value ++ (back ++ (lineEnd ++ rest))))))

section Lines

variable {flags : Flags} {name : FlagName} {value line : Text}

theorem name?_key_append (name : FlagName) (rest : Text) :
    name? (name.key ++ rest) = some (name, rest) := by
  cases name <;> rfl

/-- A flag line begins with an `@` and the name of its flag… -/
theorem exists_of_line? (h : line? line = some (name, value)) :
    ∃ rest, line = '@' :: (name.key ++ rest) ∧ Flags.value rest = value := by
  rw [line?.eq_def] at h
  split at h
  · next rest =>
    obtain ⟨⟨found, behind⟩, hname, heq⟩ := Option.map_eq_some_iff.1 h
    obtain ⟨rfl, rfl⟩ := Prod.mk.inj heq
    obtain ⟨⟨key, flag⟩, hmem, hpair⟩ := List.exists_of_findSome?_eq_some hname
    obtain ⟨tail, hstrip, heq⟩ := Option.map_eq_some_iff.1 hpair
    obtain ⟨rfl, rfl⟩ := Prod.mk.inj heq
    have hkey : key = FlagName.key flag := by
      simp only [List.mem_cons, Prod.mk.injEq, List.not_mem_nil, or_false] at hmem
      rcases hmem with ⟨rfl, rfl⟩ | ⟨rfl, rfl⟩ | ⟨rfl, rfl⟩ | ⟨rfl, rfl⟩ <;> rfl
    exact ⟨tail, by rw [Text.strip?_eq_some_iff.1 hstrip, hkey], rfl⟩
  · contradiction

/-- …**and no other line is one.** -/
theorem line?_eq_none_iff : line? line = none ↔ ∀ name : FlagName, ¬ '@' :: name.key <+: line := by
  constructor
  · rintro h name ⟨rest, rfl⟩
    rw [List.cons_append, line?, name?_key_append] at h
    exact absurd h (by simp)
  · intro h
    rw [Option.eq_none_iff_forall_ne_some]
    rintro ⟨name, value⟩ hline
    obtain ⟨rest, rfl, -⟩ := exists_of_line? hline
    exact h name ⟨rest, rfl⟩

/-- One carriage return at the end is dropped, if there is one. -/
theorem stripEnd?_getD_append {t ending : Text} (ht : t.getLast? ≠ some '\r')
    (hend : ending = [] ∨ ending = ['\r']) :
    (Text.stripEnd? ['\r'] (t ++ ending)).getD (t ++ ending) = t := by
  rcases hend with rfl | rfl
  · rw [List.append_nil]
    cases hs : Text.stripEnd? ['\r'] t with
    | none => rfl
    | some rest =>
      rw [Text.stripEnd?_eq_some_iff.1 hs, List.getLast?_append] at ht
      exact absurd rfl ht
  · rw [Text.stripEnd?_eq_some_iff.2 rfl]
    rfl

/-- A value between spaces and tabs ends with no carriage return. -/
theorem getLast?_around (h : IsValue value) {front back : Text}
    (hfront : front.all Text.isSpaceOrTab = true) (hback : back.all Text.isSpaceOrTab = true) :
    (front ++ (value ++ back)).getLast? ≠ some '\r' := by
  have hblank : ∀ {blanks : Text}, blanks.all Text.isSpaceOrTab = true →
      blanks.getLast? ≠ some '\r' := fun hblanks hc =>
    absurd (List.all_eq_true.1 hblanks _ (List.mem_of_getLast? hc)) (by decide)
  intro hlast
  rw [List.getLast?_append, List.getLast?_append, Option.or_eq_some_iff, Option.or_eq_some_iff]
    at hlast
  rcases hlast with (hlast | ⟨-, hlast⟩) | ⟨-, hlast⟩
  · exact hblank hback hlast
  · exact (h.last _ hlast).2 rfl
  · exact hblank hfront hlast

/-- **A value is read without what stands around it.** -/
theorem value_around (h : IsValue value) {front back ending : Text}
    (hfront : front.all Text.isSpaceOrTab = true) (hback : back.all Text.isSpaceOrTab = true)
    (hend : ending = [] ∨ ending = ['\r']) :
    Flags.value (front ++ (value ++ (back ++ ending))) = value := by
  have hstop : ∀ c ∈ ending.head?, Text.isSpaceOrTab c = false := by
    rcases hend with rfl | rfl <;> simp [Text.isSpaceOrTab]
  have hdrop : (front ++ (value ++ (back ++ ending))).dropWhile Text.isSpaceOrTab =
      (front ++ (value ++ back)).dropWhile Text.isSpaceOrTab ++ ending := by
    rw [← (Text.takeWhile_append_of_neg hstop).2]
    simp only [List.append_assoc]
  have hlast : ((front ++ (value ++ back)).dropWhile Text.isSpaceOrTab).getLast? ≠ some '\r' := by
    intro hreturn
    obtain ⟨dropped, hdropped⟩ :=
      List.dropWhile_suffix (l := front ++ (value ++ back)) Text.isSpaceOrTab
    refine getLast?_around h hfront hback ?_
    rw [← hdropped, List.getLast?_append, hreturn]
    rfl
  rw [Flags.value, hdrop, stripEnd?_getD_append hlast hend]
  exact Text.dropEndWhile_dropWhile_around hfront hback h.head fun c hc => (h.last c hc).1

theorem line?_written (h : IsValue value) (name : FlagName) {front back ending : Text}
    (hfront : front.all Text.isSpaceOrTab = true) (hback : back.all Text.isSpaceOrTab = true)
    (hend : ending = [] ∨ ending = ['\r']) :
    line? ('@' :: (name.key ++ (front ++ (value ++ (back ++ ending))))) = some (name, value) := by
  rw [line?, name?_key_append, Option.map_some]
  exact congrArg (fun v => some (name, v)) (value_around h hfront hback hend)

end Lines

/-! ## Headers -/

/-- A description that a header can give: everything there is, and nothing that would be read
otherwise. -/
structure IsFull (flags : Flags) : Prop where
  title : flags.title ≠ [] ∧ IsValue flags.title
  tags : (∀ t ∈ flags.tags, IsItem t) ∧ flags.tags.Nodup
  updated : (∀ d ∈ flags.updated, IsItem d) ∧ flags.updated.Nodup
  author : ∃ a ∈ flags.author, a ≠ [] ∧ IsValue a

/-- A line that is read as a flag, with what the description has for it. -/
def Tells (flags : Flags) (name : FlagName) (line : Text) : Prop :=
  ∃ value, flags.Says name value ∧ line? line = some (name, value)

/-- A description with one field taken over. -/
def copy (flags start : Flags) : FlagName → Flags
  | .title => { start with title := flags.title }
  | .tags => { start with tags := flags.tags }
  | .updated => { start with updated := flags.updated }
  | .author => { start with author := flags.author }

section Header

variable {flags : Flags} {name : FlagName} {names : List FlagName} {value line header : Text}

theorem Says.isValue (h : flags.Says name value) (hfull : flags.IsFull) : IsValue value := by
  cases h with
  | title => exact hfull.title.2
  | tags h => exact h.isValue hfull.tags.1
  | updated h => exact h.isValue hfull.updated.1
  | author h =>
    obtain ⟨a, ha, -, hvalue⟩ := hfull.author
    obtain rfl : a = value := Option.some.inj (ha.symm.trans h)
    exact hvalue

/-- **A line sets its field.** -/
theorem addLine_of_tells (h : flags.Tells name line) (hfull : flags.IsFull) (start : Flags) :
    addLine start line = flags.copy start name := by
  obtain ⟨value, hsays, hline⟩ := h
  rw [addLine, hline]
  cases hsays with
  | title => rfl
  | tags h => rw [copy, ← h.listItems_eq hfull.tags.1 hfull.tags.2]
  | updated h => rw [copy, ← h.listItems_eq hfull.updated.1 hfull.updated.2]
  | author h =>
    obtain ⟨a, ha, hne, -⟩ := hfull.author
    obtain rfl : a = value := Option.some.inj (ha.symm.trans h)
    dsimp only
    rw [if_neg (by simpa using hne), copy, ha]

/-- **Fields are set in any order.** -/
theorem foldl_copy (flags : Flags) (h : names.Perm [.title, .tags, .updated, .author]) :
    names.foldl flags.copy {} = flags := by
  rw [h.foldl_eq' (fun a _ b _ start => by cases a <;> cases b <;> rfl)]
  rfl

/-- **The lines of a header and a body.** -/
theorem WritesHeader.exists_lines (h : flags.WritesHeader names header) (hfull : flags.IsFull) :
    ∃ lines : List Text,
      (∀ body, Text.splitOn '\n' (header ++ body) = lines ++ Text.splitOn '\n' body) ∧
      List.Forall₂ flags.Tells names lines := by
  induction h with
  | nil => exact ⟨[], fun _ => rfl, .nil⟩
  | @cons name value front back lineEnd names rest hvalue hfront hback hend _ ih =>
    obtain ⟨lines, hsplit, hlines⟩ := ih
    have hone := (hvalue.isValue hfull).one_line
    have hnewline : ∀ {blanks : Text}, blanks.all Text.isSpaceOrTab = true → '\n' ∉ blanks :=
      fun hblanks hmem => absurd (List.all_eq_true.1 hblanks _ hmem) (by decide)
    have hkey : '\n' ∉ name.key := by cases name <;> decide
    -- the line end in two, what belongs to the line and the newline
    obtain ⟨ending, hending, rfl⟩ :
        ∃ ending : Text, (ending = [] ∨ ending = ['\r']) ∧ lineEnd = ending ++ ['\n'] := by
      rcases hend with rfl | rfl
      · exact ⟨[], .inl rfl, rfl⟩
      · exact ⟨['\r'], .inr rfl, rfl⟩
    have hline : '\n' ∉ '@' :: (name.key ++ (front ++ (value ++ (back ++ ending)))) := by
      have hsame : '\n' ∉ ending := by rcases hending with rfl | rfl <;> decide
      simp [hkey, hnewline hfront, hone, hnewline hback, hsame]
    refine ⟨('@' :: (name.key ++ (front ++ (value ++ (back ++ ending))))) :: lines, fun body => ?_,
      .cons ⟨value, hvalue, line?_written (hvalue.isValue hfull) name hfront hback hending⟩ hlines⟩
    have hcut :
        '@' :: (name.key ++ (front ++ (value ++ (back ++ (ending ++ ['\n'] ++ rest))))) ++ body =
        ('@' :: (name.key ++ (front ++ (value ++ (back ++ ending))))) ++ '\n' :: (rest ++ body) := by
      simp only [List.append_assoc, List.cons_append, List.nil_append]
    rw [hcut, Text.splitOn_append_cons, Text.splitOn_of_not_mem hline, hsplit body]
    rfl

/-- The lines of a header set the fields of their flags… -/
theorem foldl_addLine_lines {lines : List Text} (hfull : flags.IsFull)
    (h : List.Forall₂ flags.Tells names lines) (start : Flags) :
    lines.foldl addLine start = names.foldl flags.copy start := by
  induction h generalizing start with
  | nil => rfl
  | cons hline _ ih =>
    rw [List.foldl_cons, List.foldl_cons, addLine_of_tells hline hfull, ih]

/-- …those of a body set none. -/
theorem foldl_addLine_of_none {lines : List Text} (h : ∀ line ∈ lines, line? line = none)
    (start : Flags) : lines.foldl addLine start = start := by
  induction lines with
  | nil => rfl
  | cons line lines ih =>
    obtain ⟨hline, hlines⟩ := List.forall_mem_cons.1 h
    rw [List.foldl_cons, addLine, hline]
    exact ih hlines

/-- The lines of a header are emptied… -/
theorem map_lines_eq_replicate {lines : List Text} (h : List.Forall₂ flags.Tells names lines) :
    (lines.map fun line => if (line? line).isSome then [] else line) =
      List.replicate names.length [] := by
  induction h with
  | nil => rfl
  | cons hline _ ih =>
    obtain ⟨value, -, hline⟩ := hline
    rw [List.map_cons, hline, ih]
    rfl

/-- …those of a body stay. -/
theorem map_lines_of_none {lines : List Text} (h : ∀ line ∈ lines, line? line = none) :
    (lines.map fun line => if (line? line).isSome then [] else line) = lines := by
  have hkept : ∀ line ∈ lines, (if (line? line).isSome then [] else line) = id line :=
    fun line hline => by rw [h line hline]; rfl
  rw [List.map_congr_left hkept, List.map_id]

/-- Empty lines in front are blanks in front. -/
theorem trim_join_replicate_append (n : Nat) {lines : List Text} (hne : lines ≠ []) :
    Text.trim (Text.join ['\n'] (List.replicate n [] ++ lines)) =
      Text.trim (Text.join ['\n'] lines) := by
  induction n with
  | zero => rfl
  | succ n ih =>
    rw [List.replicate_succ, List.cons_append, Text.join_cons_of_ne_nil _ _ (by simp [hne]),
      List.nil_append, Text.trim, Text.trimStart_append_of_allBlank (by decide), ← Text.trim, ih]

/-- **A header is read as it was written, and goes.**  In front of a body in which no line begins like a
flag line, a header with a line for each flag, in any order, gives its description, for every path,
and what is left of the text is the body without the blanks around it. -/
theorem read_header {body : Text} (hfull : flags.IsFull)
    (hnames : names.Perm [.title, .tags, .updated, .author]) (hheader : flags.WritesHeader names header)
    (hbody : ∀ line ∈ Text.splitOn '\n' body, ∀ name : FlagName, ¬ '@' :: name.key <+: line)
    (path : Text) :
    read path (header ++ body) = flags ∧ strip (header ++ body) = Text.trim body := by
  obtain ⟨lines, hsplit, hlines⟩ := hheader.exists_lines hfull
  have hnone : ∀ line ∈ Text.splitOn '\n' body, line? line = none := fun line hline =>
    line?_eq_none_iff.2 (hbody line hline)
  constructor
  · have hfold : (Text.splitOn '\n' (header ++ body)).foldl addLine {} = flags := by
      rw [hsplit, List.foldl_append, foldl_addLine_lines hfull hlines, foldl_copy flags hnames,
        foldl_addLine_of_none hnone]
    rw [read, hfold]
    exact if_neg (by simpa using hfull.title.1)
  · rw [strip, hsplit, List.map_append, map_lines_eq_replicate hlines, map_lines_of_none hnone,
      trim_join_replicate_append _ (Text.splitOn_ne_nil _ _), Text.join_splitOn]

/-- A header out of order, with blanks around its values and both kinds of line ends. -/
theorem read_header_out_of_order :
    read (lit "/a.md") (lit "@tags: a ,\u00a0b\t\r\n@author:me\n@updated:\n@title: X Y\n\nz ") =
        ⟨lit "X Y", [lit "a", lit "b"], [], some (lit "me")⟩ ∧
      strip (lit "@tags: a ,\u00a0b\t\r\n@author:me\n@updated:\n@title: X Y\n\nz ") = lit "z" := by
  have hfull : IsFull ⟨lit "X Y", [lit "a", lit "b"], [], some (lit "me")⟩ :=
    ⟨by decide, by decide, by decide, ⟨lit "me", rfl, by decide⟩⟩
  have hbefore : Text.allBlank [' '] = true ∧ '\n' ∉ [' '] := by decide
  have hafter : Text.allBlank ['\u00a0'] = true ∧ '\n' ∉ ['\u00a0'] := by decide
  have htags : Lists [lit "a", lit "b"] (lit "a ,\u00a0b") :=
    .cons (lit "a") hbefore hafter (List.cons_ne_nil _ _) (.last (lit "b"))
  have hspace : List.all [' '] Text.isSpaceOrTab = true := rfl
  have htab : List.all ['\t'] Text.isSpaceOrTab = true := rfl
  have hnone : List.all [] Text.isSpaceOrTab = true := rfl
  have hbody : ∀ line ∈ Text.splitOn '\n' (lit "\nz "), ∀ name : FlagName,
      ¬ '@' :: name.key <+: line := by
    have hhead : ∀ line ∈ Text.splitOn '\n' (lit "\nz "), line.head? ≠ some '@' := by decide
    rintro line hline name ⟨rest, rfl⟩
    exact hhead _ hline rfl
  exact read_header hfull (by decide) (.cons (.tags htags) hspace htab (.inr rfl)
    (.cons (.author rfl) hnone hnone (.inl rfl) (.cons (.updated .none) hnone hnone (.inl rfl)
      (.cons .title hspace hnone (.inl rfl) .nil)))) hbody (lit "/a.md")

end Header

end Flags

end WikiPress
