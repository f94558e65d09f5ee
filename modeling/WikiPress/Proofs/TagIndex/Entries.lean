import WikiPress.Proofs.TagIndex.Hierarchy
import Mathlib.Algebra.Ring.Nat

/-!
# Proofs/TagIndex/Entries — a hierarchy read in order

    root ── a ⟨e⟩ ── b ⟨d⟩        a        ⟨e⟩        ## a
         └─ c ⟨d⟩             ⟶   a, b     ⟨d⟩    ⟶   ### b
                                  c        ⟨d⟩        ## c

The nodes of a hierarchy in the order in which their sections are written: each in front of the
nodes below it, and these in byte order.  The entries are those of the paths that lead to a node
(`mem_entries_iff`), in the order of the paths (`pairwise_entries`), and the sections are the
entries with their counts (`sectionsBelow_eq`).
-/

namespace WikiPress.TagIndex

open Node

/-- A node with the path that leads to it. -/
structure Entry where
  path : List Text
  documents : List Document

/-- An entry seen from the node above. -/
def Entry.under (segment : Text) (e : Entry) : Entry := ⟨segment :: e.path, e.documents⟩

mutual

/-- **The entries of a node**: itself and those below it. -/
def entries : Node → List Entry
  | .node documents children => ⟨[], documents⟩ :: entriesBelow children

/-- The entries of nodes by segment. -/
def entriesBelow : List (Text × Node) → List Entry
  | [] => []
  | (segment, child) :: rest => (entries child).map (Entry.under segment) ++ entriesBelow rest

end

/-- **The order of paths**: a path stands in front of those that it leads to, and before those that
leave it for a later segment. -/
def Precedes : List Text → List Text → Prop := List.Lex (Text.compare · · = .lt)

theorem not_precedes_self (p : List Text) : ¬ Precedes p p :=
  List.lex_irrefl (fun _ h => Text.ne_of_compare_eq_lt h rfl) p

theorem Precedes.ne {p q : List Text} (h : Precedes p q) : p ≠ q := fun heq =>
  not_precedes_self q (heq ▸ h)

theorem Precedes.not_precedes {p q : List Text} (h : Precedes p q) : ¬ Precedes q p := fun h' =>
  not_precedes_self p (List.lex_trans (fun h h' => Text.compare_eq_lt_trans h h') h h')

variable {children : List (Text × Node)} {n : Node} {e : Entry}

/-! ## Which entries there are -/

theorem mem_entriesBelow : e ∈ entriesBelow children ↔
    ∃ segment child, (segment, child) ∈ children ∧ ∃ e' ∈ entries child, e = e'.under segment := by
  induction children with
  | nil => simp [entriesBelow]
  | cons first rest ih =>
    obtain ⟨segment, child⟩ := first
    rw [entriesBelow, List.mem_append, List.mem_map, ih]
    constructor
    · rintro (⟨e', he', rfl⟩ | ⟨s, c, hmem, h⟩)
      · exact ⟨segment, child, List.mem_cons_self, e', he', rfl⟩
      · exact ⟨s, c, List.mem_cons_of_mem _ hmem, h⟩
    · rintro ⟨s, c, hmem, e', he', rfl⟩
      rcases List.mem_cons.1 hmem with heq | hmem
      · obtain ⟨rfl, rfl⟩ := Prod.ext_iff.1 heq
        exact .inl ⟨e', he', rfl⟩
      · exact .inr ⟨s, c, hmem, e', he', rfl⟩

/-- An entry below begins with the segment of a child. -/
theorem exists_path_eq_cons (h : e ∈ entriesBelow children) :
    ∃ segment ∈ children.map Prod.fst, ∃ rest, e.path = segment :: rest := by
  obtain ⟨segment, child, hmem, e', -, rfl⟩ := mem_entriesBelow.1 h
  exact ⟨segment, List.mem_map.2 ⟨_, hmem, rfl⟩, e'.path, rfl⟩

/-- The entries below a node are all but its own. -/
theorem mem_entriesBelow_children : e ∈ entriesBelow n.children ↔ e ∈ entries n ∧ e.path ≠ [] := by
  obtain ⟨documents, children⟩ := n
  rw [entries, List.mem_cons, Node.children]
  constructor
  · intro h
    obtain ⟨_, -, _, hpath⟩ := exists_path_eq_cons h
    exact ⟨.inr h, by simp [hpath]⟩
  · rintro ⟨rfl | h, hne⟩
    · exact absurd rfl hne
    · exact h

theorem lookup_eq_some_iff (h : Ascending children) {segment : Text} {child : Node} :
    children.lookup segment = some child ↔ (segment, child) ∈ children := by
  induction children with
  | nil => simp
  | cons first rest ih =>
    obtain ⟨s, c⟩ := first
    obtain ⟨hfirst, hrest⟩ := List.pairwise_cons.1 h
    rw [lookup_cons, List.mem_cons, Prod.mk.injEq]
    by_cases hs : segment = s
    · subst hs
      have hnot : (segment, child) ∉ rest := fun hmem =>
        Text.ne_of_compare_eq_lt (hfirst segment (List.mem_map.2 ⟨_, hmem, rfl⟩)) rfl
      rw [if_pos rfl, Option.some.injEq]
      simp [hnot, eq_comm]
    · rw [if_neg hs, ih hrest]
      simp [hs]

/-- **The entries are the nodes that paths lead to.** -/
theorem mem_entries_iff (h : Ordered n) :
    e ∈ entries n ↔ n.documentsAt? e.path = some e.documents := by
  induction n using Node.ind generalizing e with
  | node documents children ih =>
    obtain ⟨hascending, hchildren⟩ := h
    obtain ⟨path, own⟩ := e
    rw [entries, List.mem_cons, Entry.mk.injEq]
    cases path with
    | nil =>
      have hnot : (⟨[], own⟩ : Entry) ∉ entriesBelow children := fun hmem => by
        obtain ⟨_, -, _, hpath⟩ := exists_path_eq_cons hmem
        exact absurd hpath (by simp)
      simp [hnot, documentsAt?, Node.documents, eq_comm]
    | cons segment rest =>
      rw [documentsAt?, Option.bind_eq_some_iff, mem_entriesBelow]
      constructor
      · rintro (⟨hpath, -⟩ | ⟨s, child, hmem, e', he', heq⟩)
        · exact absurd hpath (by simp)
        · obtain ⟨⟨rfl, rfl⟩, rfl⟩ : (segment = s ∧ rest = e'.path) ∧ own = e'.documents := by
            simpa [Entry.under] using heq
          exact ⟨child, (lookup_eq_some_iff hascending).2 hmem,
            (ih _ hmem (hchildren _ hmem)).1 he'⟩
      · rintro ⟨child, hlookup, hdocuments⟩
        have hmem := (lookup_eq_some_iff hascending).1 hlookup
        exact .inr ⟨segment, child, hmem, ⟨rest, own⟩,
          (ih _ hmem (hchildren _ hmem)).2 hdocuments, rfl⟩

/-! ## In which order -/

/-- **The entries stand in the order of their paths.** -/
theorem pairwise_entries (h : Ordered n) :
    (entries n).Pairwise fun e e' => Precedes e.path e'.path := by
  induction n using Node.ind with
  | node documents children ih =>
    obtain ⟨hascending, hchildren⟩ := h
    rw [entries, List.pairwise_cons]
    constructor
    · intro e he
      obtain ⟨segment, -, rest, hpath⟩ := exists_path_eq_cons he
      rw [hpath]
      exact .nil
    · induction children with
      | nil => exact .nil
      | cons first rest ihrest =>
        obtain ⟨segment, child⟩ := first
        obtain ⟨hfirst, hrest⟩ := List.pairwise_cons.1 hascending
        rw [entriesBelow, List.pairwise_append, List.pairwise_map]
        refine ⟨?_, ihrest (fun c hc => ih c (List.mem_cons_of_mem _ hc)) hrest
          (fun c hc => hchildren c (List.mem_cons_of_mem _ hc)), ?_⟩
        · exact (ih _ List.mem_cons_self (hchildren _ List.mem_cons_self)).imp .cons
        · intro e he e' he'
          obtain ⟨own, -, rfl⟩ := List.mem_map.1 he
          obtain ⟨s, hs, rest', hpath⟩ := exists_path_eq_cons he'
          rw [hpath]
          exact .rel (hfirst s hs)

/-! ## The sections -/

/-- The number of documents at some entries. -/
def documentCount (es : List Entry) : Nat := (es.map (·.documents.length)).sum

/-- The entries at a path and below it. -/
def entriesFrom (p : List Text) (es : List Entry) : List Entry :=
  es.filter fun e => p.isPrefixOf e.path

/-- The section of an entry among others, below a heading of `level`. -/
def Entry.toSection (level : Nat) (es : List Entry) (e : Entry) : Section where
  label := e.path.getLastD []
  level := level + e.path.length
  count := documentCount (entriesFrom e.path es)
  documents := Document.sorted e.documents

theorem documentCount_append (es es' : List Entry) :
    documentCount (es ++ es') = documentCount es + documentCount es' := by
  rw [documentCount, List.map_append, List.sum_append]
  rfl

theorem documentCount_map_under (segment : Text) (es : List Entry) :
    documentCount (es.map (Entry.under segment)) = documentCount es := by
  rw [documentCount, List.map_map]
  rfl

/-- The number of documents at a node and below it. -/
theorem total_eq (n : Node) : total n = documentCount (entries n) := by
  induction n using Node.ind with
  | node documents children ih =>
    have hbelow : totalBelow children = documentCount (entriesBelow children) := by
      induction children with
      | nil => rfl
      | cons first rest ihrest =>
        obtain ⟨segment, child⟩ := first
        rw [totalBelow, entriesBelow, documentCount_append, documentCount_map_under,
          ih _ List.mem_cons_self, ihrest fun c hc => ih c (List.mem_cons_of_mem _ hc)]
    rw [total, entries, hbelow]
    rfl

theorem entriesFrom_append (p : List Text) (es es' : List Entry) :
    entriesFrom p (es ++ es') = entriesFrom p es ++ entriesFrom p es' := List.filter_append ..

theorem entriesFrom_eq_nil {es : List Entry} {p : List Text}
    (h : ∀ e ∈ es, ¬ p <+: e.path) : entriesFrom p es = [] :=
  List.filter_eq_nil_iff.2 fun e he hprefix => h e he (List.isPrefixOf_iff_prefix.1 hprefix)

/-- Entries that are not below another do not count for it, whether they stand behind… -/
theorem toSection_append_left {es es' : List Entry} (h : ∀ e' ∈ es', ¬ e.path <+: e'.path)
    (level : Nat) : e.toSection level (es ++ es') = e.toSection level es := by
  rw [Entry.toSection, Entry.toSection, entriesFrom_append, entriesFrom_eq_nil h, List.append_nil]

/-- …or in front. -/
theorem toSection_append_right {es es' : List Entry} (h : ∀ e' ∈ es, ¬ e.path <+: e'.path)
    (level : Nat) : e.toSection level (es ++ es') = e.toSection level es' := by
  rw [Entry.toSection, Entry.toSection, entriesFrom_append, entriesFrom_eq_nil h, List.nil_append]

/-- Below a child: one segment more, and one level less above. -/
theorem toSection_under (segment : Text) (documents : List Document) (hne : e.path ≠ [])
    (level : Nat) : (e.under segment).toSection level
        ((entries (.node documents children)).map (Entry.under segment)) =
      e.toSection (level + 1) (entriesBelow children) := by
  have hfrom : entriesFrom (segment :: e.path)
      ((entries (.node documents children)).map (Entry.under segment)) =
        (entriesFrom e.path (entriesBelow children)).map (Entry.under segment) := by
    have hroot : e.path.isPrefixOf [] = false := by
      obtain ⟨s, rest, hpath⟩ := List.exists_cons_of_ne_nil hne
      rw [hpath]
      rfl
    rw [entries, entriesFrom, List.filter_map, List.filter_cons]
    simp [Entry.under, hroot, entriesFrom, Function.comp_def]
  obtain ⟨first, rest, hpath⟩ := List.exists_cons_of_ne_nil hne
  rw [Entry.toSection, Entry.toSection]
  simp only [Entry.under] at hfrom ⊢
  rw [hfrom, documentCount_map_under, hpath, List.getLastD_cons, List.getLastD_cons,
    List.getLastD_cons, List.length_cons, Nat.add_assoc level 1, Nat.add_comm 1]

/-- The sections of a child, by those below it. -/
theorem sections_eq {segment : Text} {level : Nat} (h : sectionsBelow (level + 1 + 1) n.children =
      (entriesBelow n.children).map (Entry.toSection (level + 1) (entriesBelow n.children))) :
    sections segment (level + 1) n = ((entries n).map (Entry.under segment)).map
      (Entry.toSection level ((entries n).map (Entry.under segment))) := by
  obtain ⟨documents, children⟩ := n
  have hall : entriesFrom [segment] ((entries (.node documents children)).map
      (Entry.under segment)) = (entries (.node documents children)).map (Entry.under segment) := by
    rw [entriesFrom, List.filter_eq_self]
    intro e he
    obtain ⟨own, -, rfl⟩ := List.mem_map.1 he
    exact List.isPrefixOf_iff_prefix.2 (List.cons_prefix_cons.2 ⟨rfl, List.nil_prefix⟩)
  have hfirst : (Entry.under segment ⟨[], documents⟩).toSection level
      ((entries (.node documents children)).map (Entry.under segment)) =
        ⟨segment, level + 1, total (.node documents children), Document.sorted documents⟩ := by
    rw [Entry.toSection, Entry.under]
    simp only [hall]
    rw [documentCount_map_under, ← total_eq]
    rfl
  have hbelow : ∀ e ∈ entriesBelow children, (e.under segment).toSection level
      ((entries (.node documents children)).map (Entry.under segment)) =
        e.toSection (level + 1) (entriesBelow children) := by
    intro e he
    obtain ⟨s, -, rest, hpath⟩ := exists_path_eq_cons he
    exact toSection_under segment documents (by simp [hpath]) level
  rw [Node.children] at h
  have hentries :
      entries (.node documents children) = ⟨[], documents⟩ :: entriesBelow children := by
    rw [entries]
  calc sections segment (level + 1) (.node documents children)
      = ⟨segment, level + 1, total (.node documents children), Document.sorted documents⟩ ::
          (entriesBelow children).map (Entry.toSection (level + 1) (entriesBelow children)) := by
        rw [sections, h]
    _ = (⟨[], documents⟩ :: entriesBelow children).map fun e => (e.under segment).toSection level
          ((entries (.node documents children)).map (Entry.under segment)) := by
        rw [List.map_cons, hfirst, List.map_congr_left hbelow]
    _ = ((entries (.node documents children)).map (Entry.under segment)).map
          (Entry.toSection level ((entries (.node documents children)).map (Entry.under segment))) := by
        rw [List.map_map, ← hentries]
        rfl

/-- **The sections are the entries**, each with the number of documents at and below it. -/
theorem sectionsBelow_eq (h : Ordered n) (level : Nat) :
    sectionsBelow (level + 1) n.children =
      (entriesBelow n.children).map (Entry.toSection level (entriesBelow n.children)) := by
  induction n using Node.ind generalizing level with
  | node documents children ih =>
    obtain ⟨hascending, hchildren⟩ := h
    rw [Node.children]
    induction children with
    | nil => rfl
    | cons first rest ihrest =>
      obtain ⟨segment, child⟩ := first
      obtain ⟨hfirst, hrest⟩ := List.pairwise_cons.1 hascending
      have hordered := hchildren _ List.mem_cons_self
      have htail := ihrest (fun c hc => ih c (List.mem_cons_of_mem _ hc)) hrest
        (fun c hc => hchildren c (List.mem_cons_of_mem _ hc))
      -- the entries of the child and those of the other children do not count for each other
      have hown : ∀ e ∈ (entries child).map (Entry.under segment),
          e.toSection level ((entries child).map (Entry.under segment) ++ entriesBelow rest) =
            e.toSection level ((entries child).map (Entry.under segment)) := by
        intro e he
        refine toSection_append_left (fun e' he' hprefix => ?_) level
        obtain ⟨own, -, rfl⟩ := List.mem_map.1 he
        obtain ⟨s, hs, rest', hpath⟩ := exists_path_eq_cons he'
        rw [hpath] at hprefix
        exact Text.ne_of_compare_eq_lt (hfirst s hs) (List.cons_prefix_cons.1 hprefix).1
      have hother : ∀ e ∈ entriesBelow rest,
          e.toSection level ((entries child).map (Entry.under segment) ++ entriesBelow rest) =
            e.toSection level (entriesBelow rest) := by
        intro e he
        refine toSection_append_right (fun e' he' hprefix => ?_) level
        obtain ⟨s, hs, rest', hpath⟩ := exists_path_eq_cons he
        obtain ⟨own, -, rfl⟩ := List.mem_map.1 he'
        rw [hpath] at hprefix
        exact Text.ne_of_compare_eq_lt (hfirst s hs) (List.cons_prefix_cons.1 hprefix).1.symm
      rw [sectionsBelow, entriesBelow, List.map_append, List.map_congr_left hown,
        List.map_congr_left hother, htail,
        sections_eq (ih _ List.mem_cons_self hordered (level + 1))]

end WikiPress.TagIndex
