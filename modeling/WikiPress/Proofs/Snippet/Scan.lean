import WikiPress.Proofs.Snippet.Directive
import WikiPress.Snippet.Transclusion
import Mathlib.Data.List.Basic
import Mathlib.Data.List.Nodup

/-!
# Proofs/Snippet/Scan — what a scan finds

Scanning keeps every line but those that name an entered document (`keptLine`), and collects the
directives that are to be expanded (`openDirective?`).  Grouping them by target neither loses nor
invents one: a directive stands in the groups exactly if it is read from an open line
(`mem_directives_scan`), and the targets are the targets of the open lines in order of first
occurrence (`targets_scan`).
-/

namespace WikiPress.Snippet

/-! ## Entering paths -/

namespace Visited

theorem contains_iff {path : Text} {v : Visited} : v.contains path = true ↔ path ∈ v.toList :=
  List.contains_iff_mem

theorem insert_of_mem {path : Text} {v : Visited} (h : path ∈ v.toList) : v.insert path = v :=
  dif_pos h

theorem toList_insert_of_not_mem {path : Text} {v : Visited} (h : path ∉ v.toList) :
    (v.insert path).toList = v.toList ++ [path] := by
  rw [insert, dif_neg h]

theorem mem_insert {path p : Text} {v : Visited} :
    p ∈ (v.insert path).toList ↔ p ∈ v.toList ∨ p = path := by
  by_cases h : path ∈ v.toList
  · rw [insert_of_mem h]
    constructor
    · exact .inl
    · rintro (hp | rfl)
      · exact hp
      · exact h
  · rw [toList_insert_of_not_mem h, List.mem_append, List.mem_singleton]

theorem insertAll_append (ps qs : List Text) (v : Visited) :
    v.insertAll (ps ++ qs) = (v.insertAll ps).insertAll qs := List.foldl_append

theorem insertAll_concat (ps : List Text) (p : Text) (v : Visited) :
    v.insertAll (ps ++ [p]) = (v.insertAll ps).insert p := insertAll_append ps [p] v

/-- **What is entered after entering paths.** -/
theorem mem_insertAll {p : Text} {ps : List Text} {v : Visited} :
    p ∈ (v.insertAll ps).toList ↔ p ∈ v.toList ∨ p ∈ ps := by
  induction ps generalizing v with
  | nil => simp [insertAll]
  | cons q ps ih =>
    change p ∈ ((v.insert q).insertAll ps).toList ↔ _
    rw [ih, mem_insert, List.mem_cons, or_assoc]

theorem mem_ofList {p : Text} {ps : List Text} : p ∈ (ofList ps).toList ↔ p ∈ ps := by
  rw [ofList, mem_insertAll]
  simp [empty]

theorem ofList_concat (ps : List Text) (p : Text) :
    ofList (ps ++ [p]) = (ofList ps).insert p := insertAll_concat ps p empty

/-- Entering a list of paths is entering each of them once. -/
theorem insertAll_ofList (ps : List Text) (v : Visited) :
    v.insertAll (ofList ps).toList = v.insertAll ps := by
  induction ps using List.reverseRecOn with
  | nil => rfl
  | append_singleton ps p ih =>
    rw [ofList_concat, insertAll_concat, ← ih]
    by_cases h : p ∈ (ofList ps).toList
    · rw [insert_of_mem h, insert_of_mem (mem_insertAll.2 (.inr h))]
    · rw [toList_insert_of_not_mem h, insertAll_concat]

end Visited

/-! ## Open lines -/

/-- The directive of a line that is to be expanded: its target is not entered yet. -/
def openDirective? (visited : Visited) (line : Text) : Option Directive :=
  (Directive.read? line).filter fun d => !visited.contains d.target

/-- A line as a scan keeps it: empty if it names an entered document. -/
def keptLine (visited : Visited) (line : Text) : Text :=
  match Directive.read? line with
  | some d => if visited.contains d.target then [] else line
  | none => line

/-- The directives of a text that are to be expanded, line by line. -/
def openDirectives (visited : Visited) (text : Text) : List Directive :=
  (Text.splitOn '\n' text).filterMap (openDirective? visited)

/-- **The documents a text enters**, one for each open line. -/
def openTargets (visited : Visited) (text : Text) : List Text :=
  (openDirectives visited text).map Directive.target

theorem openDirective?_eq_some_iff {visited : Visited} {line : Text} {d : Directive} :
    openDirective? visited line = some d ↔
      Directive.read? line = some d ∧ d.target ∉ visited.toList := by
  rw [openDirective?, Option.filter_eq_some_iff, ← Visited.contains_iff]
  simp

theorem keptLine_of_read?_eq_none {visited : Visited} {line : Text}
    (h : Directive.read? line = none) : keptLine visited line = line := by
  simp [keptLine, h]

theorem keptLine_of_mem {visited : Visited} {line : Text} {d : Directive}
    (h : Directive.read? line = some d) (hd : d.target ∈ visited.toList) :
    keptLine visited line = [] := by
  simp [keptLine, h, Visited.contains_iff.2 hd]

theorem keptLine_of_open {visited : Visited} {line : Text} {d : Directive}
    (h : openDirective? visited line = some d) : keptLine visited line = line := by
  obtain ⟨hread, hd⟩ := openDirective?_eq_some_iff.1 h
  rw [← Visited.contains_iff] at hd
  simp [keptLine, hread, hd]

/-- What is left of a line that is not to be expanded is no directive. -/
theorem read?_keptLine {visited : Visited} {line : Text}
    (h : openDirective? visited line = none) : Directive.read? (keptLine visited line) = none := by
  cases hread : Directive.read? line with
  | none => rwa [keptLine_of_read?_eq_none hread]
  | some d =>
    have hd : d.target ∈ visited.toList := by
      by_contra hd
      rw [openDirective?_eq_some_iff.2 ⟨hread, hd⟩] at h
      exact absurd h (by simp)
    rw [keptLine_of_mem hread hd, Directive.read?_nil]

theorem openDirective?_keptLine {visited : Visited} {line : Text}
    (h : openDirective? visited line = none) :
    openDirective? visited (keptLine visited line) = none := by
  rw [openDirective?, read?_keptLine h, Option.filter_none]

theorem mem_openDirectives {visited : Visited} {text : Text} {d : Directive} :
    d ∈ openDirectives visited text ↔ d.line ∈ Text.splitOn '\n' text ∧
      Directive.read? d.line = some d ∧ d.target ∉ visited.toList := by
  rw [openDirectives, List.mem_filterMap]
  constructor
  · rintro ⟨line, hline, hopen⟩
    obtain ⟨hread, hd⟩ := openDirective?_eq_some_iff.1 hopen
    obtain rfl := Directive.line_of_read? hread
    exact ⟨hline, hread, hd⟩
  · rintro ⟨hline, hread, hd⟩
    exact ⟨d.line, hline, openDirective?_eq_some_iff.2 ⟨hread, hd⟩⟩

/-! ## Grouping -/

/-- **Groups hold directives**: exactly these, each in the group of its target, and a group for
each target in order of first occurrence. -/
structure Collected (ds : List Directive) (groups : List Group) : Prop where
  reads : ∀ d ∈ ds, Directive.read? d.line = some d
  mem_iff : ∀ d, d ∈ groups.flatMap Group.directives ↔ d ∈ ds
  nodup : ∀ g ∈ groups, g.directives.Nodup
  target_eq : ∀ g ∈ groups, ∀ d ∈ g.directives, d.target = g.target
  targets_eq : groups.map Group.target = (Visited.ofList (ds.map Directive.target)).toList

theorem map_target_addDirective (d : Directive) (groups : List Group) :
    (addDirective d groups).map Group.target =
      if d.target ∈ groups.map Group.target then groups.map Group.target
      else groups.map Group.target ++ [d.target] := by
  induction groups with
  | nil => rfl
  | cons g rest ih =>
    rw [addDirective]
    by_cases h : g.target = d.target
    · have hmem : d.target ∈ (g :: rest).map Group.target := h ▸ List.mem_cons_self
      rw [if_pos (beq_iff_eq.2 h), if_pos hmem]
      split <;> rfl
    · have hmem : d.target ∈ (g :: rest).map Group.target ↔ d.target ∈ rest.map Group.target := by
        rw [List.map_cons, List.mem_cons]
        exact or_iff_right (Ne.symm h)
      rw [if_neg (by simpa using h), List.map_cons, ih]
      simp only [hmem]
      split <;> rfl

/-- A group of the new list is an old one, perhaps with the new directive at its end, or holds
nothing else. -/
theorem mem_addDirective {d : Directive} {groups : List Group} {g : Group}
    (h : g ∈ addDirective d groups) :
    g ∈ groups ∨ (g.target = d.target ∧ ∀ e ∈ g.directives, e = d ∨
      ∃ g' ∈ groups, g'.target = g.target ∧ e ∈ g'.directives) := by
  induction groups with
  | nil =>
    obtain rfl : g = ⟨d.target, [d]⟩ := by simpa [addDirective] using h
    exact .inr ⟨rfl, fun e he => .inl (by simpa using he)⟩
  | cons first rest ih =>
    rw [addDirective] at h
    split at h
    · next htarget =>
      rcases List.mem_cons.1 h with rfl | h
      · split
        · exact .inl List.mem_cons_self
        · refine .inr ⟨by simpa using htarget, fun e he => ?_⟩
          rcases List.mem_append.1 he with he | he
          · exact .inr ⟨first, List.mem_cons_self, rfl, he⟩
          · exact .inl (by simpa using he)
      · exact .inl (List.mem_cons_of_mem _ h)
    · rcases List.mem_cons.1 h with rfl | h
      · exact .inl List.mem_cons_self
      · rcases ih h with hmem | ⟨htarget, hall⟩
        · exact .inl (List.mem_cons_of_mem _ hmem)
        · refine .inr ⟨htarget, fun e he => ?_⟩
          rcases hall e he with rfl | ⟨g', hg', heq, hmem⟩
          · exact .inl rfl
          · exact .inr ⟨g', List.mem_cons_of_mem _ hg', heq, hmem⟩

/-- No directive is lost, and the line of the new one is there. -/
theorem flatMap_directives_addDirective (d : Directive) (groups : List Group) :
    (∀ e ∈ groups.flatMap Group.directives, e ∈ (addDirective d groups).flatMap Group.directives) ∧
      ∃ e ∈ (addDirective d groups).flatMap Group.directives, e.line = d.line := by
  induction groups with
  | nil => exact ⟨fun e he => absurd he (by simp), d, by simp [addDirective], rfl⟩
  | cons g rest ih =>
    rw [addDirective]
    split
    · split
      · next hany =>
        obtain ⟨e, he, hline⟩ := List.any_eq_true.1 hany
        exact ⟨fun e he => he, e, by simp [he], by simpa using hline⟩
      · refine ⟨fun e he => ?_, d, by simp, rfl⟩
        simp only [List.flatMap_cons, List.mem_append] at he ⊢
        rcases he with he | he
        · exact .inl (.inl he)
        · exact .inr he
    · obtain ⟨hkeep, e, he, hline⟩ := ih
      refine ⟨fun e he => ?_, e, by simpa using .inr (by simpa using he), hline⟩
      simp only [List.flatMap_cons, List.mem_append] at he ⊢
      rcases he with he | he
      · exact .inl he
      · exact .inr (hkeep e he)

theorem nodup_addDirective {d : Directive} {groups : List Group}
    (h : ∀ g ∈ groups, g.directives.Nodup) : ∀ g ∈ addDirective d groups, g.directives.Nodup := by
  induction groups with
  | nil =>
    intro g hg
    obtain rfl : g = ⟨d.target, [d]⟩ := by simpa [addDirective] using hg
    exact List.nodup_singleton d
  | cons first rest ih =>
    obtain ⟨hfirst, hrest⟩ := List.forall_mem_cons.1 h
    rw [addDirective]
    split
    · refine List.forall_mem_cons.2 ⟨?_, hrest⟩
      split
      · exact hfirst
      · next hany =>
        have hnew : d ∉ first.directives := fun hd => hany (List.any_eq_true.2 ⟨d, hd, by simp⟩)
        rw [← List.concat_eq_append]
        exact List.Nodup.concat hnew hfirst
    · exact List.forall_mem_cons.2 ⟨hfirst, ih hrest⟩

theorem Collected.nil : Collected [] [] where
  reads := fun d hd => absurd hd List.not_mem_nil
  mem_iff := fun d => by simp
  nodup := fun g hg => absurd hg List.not_mem_nil
  target_eq := fun g hg => absurd hg List.not_mem_nil
  targets_eq := rfl

theorem Collected.reads_add {ds : List Directive} {groups : List Group} (h : Collected ds groups)
    {d : Directive} (hd : Directive.read? d.line = some d) :
    ∀ e ∈ ds ++ [d], Directive.read? e.line = some e := by
  rw [List.forall_mem_append, List.forall_mem_singleton]
  exact ⟨h.reads, hd⟩

/-- Nothing is invented by adding a directive. -/
theorem Collected.mem_of_mem_add {ds : List Directive} {groups : List Group}
    (h : Collected ds groups) {d e : Directive}
    (he : e ∈ (addDirective d groups).flatMap Group.directives) : e ∈ ds ++ [d] := by
  obtain ⟨g, hg, he⟩ := List.mem_flatMap.1 he
  rcases mem_addDirective hg with hmem | ⟨-, hall⟩
  · exact List.mem_append_left _ ((h.mem_iff e).1 (List.mem_flatMap.2 ⟨g, hmem, he⟩))
  · rcases hall e he with rfl | ⟨g', hg', -, he'⟩
    · exact List.mem_append_right _ List.mem_cons_self
    · exact List.mem_append_left _ ((h.mem_iff e).1 (List.mem_flatMap.2 ⟨g', hg', he'⟩))

/-- …and nothing is lost. -/
theorem Collected.mem_add {ds : List Directive} {groups : List Group} (h : Collected ds groups)
    {d e : Directive} (hd : Directive.read? d.line = some d) (he : e ∈ ds ++ [d]) :
    e ∈ (addDirective d groups).flatMap Group.directives := by
  obtain ⟨hkeep, twin, htwin, hline⟩ := flatMap_directives_addDirective d groups
  rcases List.mem_append.1 he with he | he
  · exact hkeep e ((h.mem_iff e).2 he)
  · obtain rfl : e = d := by simpa using he
    -- The line alone decides the directive, so the one found under its line is the new one itself.
    have hread := h.reads_add hd twin (h.mem_of_mem_add htwin)
    rw [hline, hd] at hread
    exact Option.some.inj hread ▸ htwin

theorem Collected.target_eq_add {ds : List Directive} {groups : List Group}
    (h : Collected ds groups) {d e : Directive} {g : Group} (hg : g ∈ addDirective d groups)
    (he : e ∈ g.directives) : e.target = g.target := by
  rcases mem_addDirective hg with hmem | ⟨htarget, hall⟩
  · exact h.target_eq g hmem e he
  · rcases hall e he with rfl | ⟨g', hg', heq, he'⟩
    · exact htarget.symm
    · exact (h.target_eq g' hg' e he').trans heq

/-- **Adding a directive collects it.** -/
theorem Collected.add {ds : List Directive} {groups : List Group} (h : Collected ds groups)
    {d : Directive} (hd : Directive.read? d.line = some d) :
    Collected (ds ++ [d]) (addDirective d groups) where
  reads := h.reads_add hd
  mem_iff := fun _ => ⟨h.mem_of_mem_add, h.mem_add hd⟩
  nodup := nodup_addDirective h.nodup
  target_eq := fun _ hg _ he => h.target_eq_add hg he
  targets_eq := by
    rw [map_target_addDirective, h.targets_eq, List.map_append, List.map_singleton,
      Visited.ofList_concat]
    split
    · next hmem => rw [Visited.insert_of_mem hmem]
    · next hmem => rw [Visited.toList_insert_of_not_mem hmem]

theorem Collected.foldl {ds : List Directive} {groups : List Group} (h : Collected ds groups)
    {new : List Directive} (hnew : ∀ d ∈ new, Directive.read? d.line = some d) :
    Collected (ds ++ new) (new.foldl (fun groups d => addDirective d groups) groups) := by
  induction new generalizing ds groups with
  | nil => simpa using h
  | cons d new ih =>
    have hstep := ih (h.add (hnew d List.mem_cons_self)) fun e he => hnew e (.tail _ he)
    rwa [List.append_assoc, List.singleton_append] at hstep

/-- Groups hold every directive once. -/
theorem Collected.nodup_directives {ds : List Directive} {groups : List Group}
    (h : Collected ds groups) : (groups.flatMap Group.directives).Nodup := by
  have htargets : groups.Pairwise fun g g' => g.target ≠ g'.target :=
    List.pairwise_map.1 (h.targets_eq ▸ (Visited.ofList _).nodup)
  refine List.nodup_flatMap.2 ⟨h.nodup, htargets.imp_of_mem fun {g g'} hg hg' hne d hd hd' => ?_⟩
  exact hne ((h.target_eq g hg d hd).symm.trans (h.target_eq g' hg' d hd'))

/-! ## The scan -/

/-- The directives to be expanded, group by group. -/
def Scan.directives (s : Scan) : List Directive := s.groups.flatMap Group.directives

/-- The documents to be fetched. -/
def Scan.targets (s : Scan) : List Text := s.groups.map Group.target

/-- **What is entered below a text**, in the expansions of its directives. -/
def Visited.entering (visited : Visited) (text : Text) : Visited :=
  visited.insertAll (scan visited text).targets

theorem Visited.mem_entering {p text : Text} {visited : Visited} :
    p ∈ (visited.entering text).toList ↔
      p ∈ visited.toList ∨ p ∈ (scan visited text).targets := mem_insertAll

theorem scanLines_eq (visited : Visited) (lines : List Text) (groups : List Group) :
    scanLines visited lines groups =
      ⟨lines.map (keptLine visited), (lines.filterMap (openDirective? visited)).foldl
        (fun groups d => addDirective d groups) groups⟩ := by
  induction lines generalizing groups with
  | nil => rfl
  | cons line rest ih =>
    rw [scanLines]
    split
    · next hread =>
      have hopen : openDirective? visited line = none := by simp [openDirective?, hread]
      rw [ih, List.map_cons, List.filterMap_cons_none hopen, keptLine_of_read?_eq_none hread]
    · next d hread =>
      split
      · next hv =>
        have hopen : openDirective? visited line = none := by simp [openDirective?, hread, hv]
        rw [ih, List.map_cons, List.filterMap_cons_none hopen,
          keptLine_of_mem hread (Visited.contains_iff.1 hv)]
      · next hv =>
        have hopen : openDirective? visited line = some d := by simp [openDirective?, hread, hv]
        rw [ih, List.map_cons, List.filterMap_cons_some hopen, keptLine_of_open hopen,
          List.foldl_cons]

/-- **The lines of a scan.** -/
theorem lines_scan (visited : Visited) (text : Text) :
    (scan visited text).lines = (Text.splitOn '\n' text).map (keptLine visited) := by
  rw [scan, scanLines_eq]

theorem collected_scan (visited : Visited) (text : Text) :
    Collected (openDirectives visited text) (scan visited text).groups := by
  rw [scan, scanLines_eq]
  exact Collected.nil.foldl fun d hd => (mem_openDirectives.1 hd).2.1

/-- **The directives of a scan** are those of the open lines. -/
theorem mem_directives_scan {visited : Visited} {text : Text} {d : Directive} :
    d ∈ (scan visited text).directives ↔ d ∈ openDirectives visited text :=
  (collected_scan visited text).mem_iff d

/-- **The targets of a scan**, each once. -/
theorem targets_scan (visited : Visited) (text : Text) :
    (scan visited text).targets =
      (Visited.ofList (openTargets visited text)).toList :=
  (collected_scan visited text).targets_eq

theorem mem_targets_scan {visited : Visited} {text p : Text} :
    p ∈ (scan visited text).targets ↔ p ∈ openTargets visited text := by
  rw [targets_scan, Visited.mem_ofList]

theorem nodup_targets_scan (visited : Visited) (text : Text) :
    (scan visited text).targets.Nodup := by
  rw [targets_scan]
  exact (Visited.ofList _).nodup

theorem nodup_directives_scan (visited : Visited) (text : Text) :
    (scan visited text).directives.Nodup := (collected_scan visited text).nodup_directives

theorem read?_of_mem_directives_scan {visited : Visited} {text : Text} {d : Directive}
    (h : d ∈ (scan visited text).directives) : Directive.read? d.line = some d :=
  (mem_openDirectives.1 (mem_directives_scan.1 h)).2.1

theorem target_mem_targets_scan {visited : Visited} {text : Text} {d : Directive}
    (h : d ∈ (scan visited text).directives) : d.target ∈ (scan visited text).targets :=
  mem_targets_scan.2 (List.mem_map_of_mem (mem_directives_scan.1 h))

theorem entering_eq_insertAll (visited : Visited) (text : Text) :
    visited.entering text = visited.insertAll (openTargets visited text) := by
  rw [Visited.entering, targets_scan, Visited.insertAll_ofList]

theorem targets_scan_eq_nil_iff {visited : Visited} {text : Text} :
    (scan visited text).targets = [] ↔ openTargets visited text = [] := by
  rw [List.eq_nil_iff_forall_not_mem, List.eq_nil_iff_forall_not_mem]
  simp only [mem_targets_scan]

/-- No document is entered twice. -/
theorem not_mem_of_mem_targets_scan {visited : Visited} {text p : Text}
    (h : p ∈ (scan visited text).targets) : p ∉ visited.toList := by
  obtain ⟨d, hd, rfl⟩ := List.mem_map.1 (mem_targets_scan.1 h)
  exact (mem_openDirectives.1 hd).2.2

/-- A text without directive lines enters nothing. -/
theorem targets_eq_nil {visited : Visited} {text : Text}
    (h : ∀ line ∈ Text.splitOn '\n' text, Directive.read? line = none) :
    (scan visited text).targets = [] := by
  rw [List.eq_nil_iff_forall_not_mem]
  intro path hpath
  obtain ⟨d, hd, -⟩ := List.mem_map.1 (mem_targets_scan.1 hpath)
  obtain ⟨hline, hread, -⟩ := mem_openDirectives.1 hd
  rw [h _ hline] at hread
  exact absurd hread (by simp)

/-- …and is kept as it is. -/
theorem join_lines_scan {visited : Visited} {text : Text}
    (h : ∀ line ∈ Text.splitOn '\n' text, Directive.read? line = none) :
    Text.join ['\n'] (scan visited text).lines = text := by
  have hkept : (Text.splitOn '\n' text).map (keptLine visited) = Text.splitOn '\n' text :=
    (List.map_congr_left fun line hline => keptLine_of_read?_eq_none (h line hline)).trans
      (List.map_id _)
  rw [lines_scan, hkept, Text.join_splitOn]

/-! ## Splicing by line -/

/-- A key that stands once in a list of bindings is bound to the value beside it. -/
theorem lookup_of_mem {bindings : List (Text × Text)} (hkeys : (bindings.map Prod.fst).Nodup)
    {key value : Text} (h : (key, value) ∈ bindings) : bindings.lookup key = some value := by
  induction bindings with
  | nil => exact absurd h List.not_mem_nil
  | cons b rest ih =>
    rw [List.map_cons, List.nodup_cons] at hkeys
    rw [List.lookup_cons]
    rcases List.mem_cons.1 h with rfl | h
    · simp
    · have hne : key ≠ b.1 := by
        rintro rfl
        exact hkeys.1 (List.mem_map.2 ⟨_, h, rfl⟩)
      simp [beq_eq_false_iff_ne.2 hne, ih hkeys.2 h]

theorem lookup_eq_none {bindings : List (Text × Text)} {key : Text}
    (h : key ∉ bindings.map Prod.fst) : bindings.lookup key = none := by
  rw [List.lookup_eq_none_iff]
  intro b hb
  rw [bne_iff_ne]
  rintro rfl
  exact h (List.mem_map_of_mem hb)

/-- Directives of a scan stand on different lines. -/
theorem nodup_lines_scan (visited : Visited) (text : Text) :
    ((scan visited text).directives.map Directive.line).Nodup := by
  refine List.Nodup.map_on (fun d hd e he hline => ?_) (nodup_directives_scan visited text)
  have hread := read?_of_mem_directives_scan hd
  rw [hline, read?_of_mem_directives_scan he] at hread
  exact (Option.some.inj hread).symm

/-- What stands in place of a line: the content of its directive if that is to be expanded. -/
def splicedLine (visited : Visited) (contents : Directive → Text) (line : Text) : Text :=
  (openDirective? visited line).elim (keptLine visited line) contents

theorem splicedLine_of_open {visited : Visited} {contents : Directive → Text} {line : Text}
    {d : Directive} (h : openDirective? visited line = some d) :
    splicedLine visited contents line = contents d := by
  rw [splicedLine, h, Option.elim_some]

theorem splicedLine_of_closed {visited : Visited} {contents : Directive → Text} {line : Text}
    (h : openDirective? visited line = none) :
    splicedLine visited contents line = keptLine visited line := by
  rw [splicedLine, h, Option.elim_none]

/-- **Looking contents up by line gives every line its own.** -/
theorem splice_scan (visited : Visited) (text : Text) (contents : Directive → Text) :
    splice ((scan visited text).directives.map fun d => (d.line, contents d))
        (scan visited text).lines =
      (Text.splitOn '\n' text).map (splicedLine visited contents) := by
  set bindings := (scan visited text).directives.map fun d => (d.line, contents d) with hbindings
  have hkeys : bindings.map Prod.fst = (scan visited text).directives.map Directive.line := by
    rw [hbindings, List.map_map]
    rfl
  have hnodup : (bindings.map Prod.fst).Nodup := hkeys ▸ nodup_lines_scan visited text
  have hclosed {line : Text} (hline : openDirective? visited line = none) :
      bindings.lookup line = none := by
    refine lookup_eq_none (hkeys ▸ fun hmem => ?_)
    obtain ⟨d, hd, rfl⟩ := List.mem_map.1 hmem
    obtain ⟨-, hread, hnew⟩ := mem_openDirectives.1 (mem_directives_scan.1 hd)
    rw [openDirective?_eq_some_iff.2 ⟨hread, hnew⟩] at hline
    exact absurd hline (by simp)
  rw [splice, lines_scan, List.map_map]
  refine List.map_congr_left fun line hline => ?_
  rw [Function.comp_apply]
  cases hopen : openDirective? visited line with
  | none =>
    have hkept : openDirective? visited (keptLine visited line) = none :=
      openDirective?_keptLine hopen
    rw [hclosed hkept, Option.getD_none, splicedLine_of_closed hopen]
  | some d =>
    obtain ⟨hread, hd⟩ := openDirective?_eq_some_iff.1 hopen
    obtain rfl := Directive.line_of_read? hread
    have hmem : d ∈ openDirectives visited text := mem_openDirectives.2 ⟨hline, hread, hd⟩
    have hbound : bindings.lookup d.line = some (contents d) :=
      lookup_of_mem hnodup (List.mem_map.2 ⟨d, mem_directives_scan.2 hmem, rfl⟩)
    rw [keptLine_of_open hopen, hbound, Option.getD_some, splicedLine_of_open hopen]

/-- The text with the contents of its directives in place, before it is trimmed. -/
def Scan.spliced (s : Scan) (contents : Directive → Text) : Text :=
  Text.join ['\n'] (splice (s.directives.map fun d => (d.line, contents d)) s.lines)

/-! ## The two kinds of text -/

/-- A text that enters no document is not trimmed. -/
theorem transclude_of_closed {σ : Type} (host : Host σ) {visited : Visited} {text : Text}
    (h : (scan visited text).targets = []) (depth : Nat) :
    transclude host (depth + 1) visited text =
      pure (some (Text.join ['\n'] (scan visited text).lines)) := by
  simp only [transclude, List.map_eq_nil_iff.1 h]

/-- …and for any other text, documents are fetched, expanded and spliced in. -/
theorem transclude_of_open {σ : Type} (host : Host σ) {visited : Visited} {text : Text}
    (h : (scan visited text).targets ≠ []) (depth : Nat) :
    transclude host (depth + 1) visited text = do
      let files ← fetchAll host (scan visited text).groups
      let replacements ← expandAll host (transclude host depth
        (visited.entering text)) files
      return replacements.map fun replacements =>
        Text.trim (Text.join ['\n'] (splice replacements (scan visited text).lines)) := by
  obtain ⟨first, rest, hgroups⟩ := List.exists_cons_of_ne_nil (mt List.map_eq_nil_iff.2 h)
  simp only [transclude, Visited.entering, Scan.targets, hgroups]

end WikiPress.Snippet
