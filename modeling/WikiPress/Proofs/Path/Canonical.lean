import WikiPress.Proofs.Path
import WikiPress.Proofs.Snippet.Grammar
import Mathlib.Data.List.Flatten

/-!
# Proofs/Path/Canonical — the shape of canonical paths

    /a/./b//../c.md  ──walk──▸  a, c.md  ──▸  /a/c.md

A canonical path leads along proper names from the root (`normalize?_eq_some`): none of them is
empty, a dot or two dots, and none holds a slash.  The path along proper names is its own canonical
form (`normalize?_ofNames`).
-/

namespace WikiPress.Path

/-- **A proper name**: a segment that leads to a child, and only one segment. -/
def IsProper (name : Text) : Prop := isName name = true ∧ '/' ∉ name

namespace IsProper

variable {name : Text} (h : IsProper name)

include h

theorem ne_nil : name ≠ [] := (isName_iff.1 h.1).1

theorem ne_dot : name ≠ ['.'] := (isName_iff.1 h.1).2.1

theorem ne_climb : name ≠ ['.', '.'] := (isName_iff.1 h.1).2.2

/-- A text that ends with a name ends with no slash. -/
theorem not_endsWith (s : Text) : Text.endsWith ['/'] (s ++ name) = false := by
  rw [← Bool.not_eq_true, Snippet.Directive.endsWith_iff]
  intro hend
  have hsuffix : ['/'] <:+ name :=
    List.suffix_of_suffix_length_le hend (List.suffix_append _ _)
      (List.length_pos_of_ne_nil h.ne_nil)
  exact h.2 (hsuffix.subset List.mem_cons_self)

end IsProper

/-! ## Canonical paths -/

/-- **The path along names** from the root. -/
def ofNames (names : List Text) : Text := '/' :: Text.join ['/'] names

/-- The path along names as it is written below the root; a slash at its end may be asked for, but
does not stand alone. -/
def relative (names : List Text) (slash : Bool) : Text :=
  Text.join ['/'] names ++ if slash && !names.isEmpty then ['/'] else []

theorem relative_false (names : List Text) : relative names false = Text.join ['/'] names :=
  List.append_nil _

/-- A canonical path leads along what the walk along the path keeps. -/
theorem exists_trail_of_normalize? {path out : Text} (h : normalize? path = some out) :
    ∃ trail, walk? [] (Text.splitOn '/' path) = some trail ∧
      (∀ name ∈ trail.reverse, IsProper name) ∧
        out = '/' :: relative trail.reverse (Text.endsWith ['/'] path) := by
  obtain ⟨trail, htrail, rfl⟩ := Option.map_eq_some_iff.1 h
  refine ⟨trail, htrail, fun name hname => ⟨?_, fun hslash => ?_⟩, ?_⟩
  · exact isName_of_walk? htrail (by simp) name (List.mem_reverse.1 hname)
  · rcases mem_of_walk?_eq_some htrail (List.mem_reverse.1 hname) with hmem | hmem
    · exact absurd hmem List.not_mem_nil
    · exact Text.not_mem_of_mem_splitOn hmem hslash
  · rw [relative, List.isEmpty_reverse]
    dsimp only
    split <;> simp

/-- **The shape of a canonical path.** -/
theorem normalize?_eq_some {path out : Text} (h : normalize? path = some out) :
    ∃ names, (∀ name ∈ names, IsProper name) ∧
      out = '/' :: relative names (Text.endsWith ['/'] path) := by
  obtain ⟨trail, -, hnames, hout⟩ := exists_trail_of_normalize? h
  exact ⟨trail.reverse, hnames, hout⟩

/-- A canonical path holds nothing more often than the path, but slashes. -/
theorem count_normalize?_le {path out : Text} (h : normalize? path = some out) {c : Char}
    (hc : c ≠ '/') : out.count c ≤ path.count c := by
  obtain ⟨trail, htrail, -, rfl⟩ := exists_trail_of_normalize? h
  have hslash : ∀ slash : Bool, (if slash then ['/'] else []).count c = 0 := by
    intro slash
    rw [List.count_eq_zero]
    split <;> simp [hc]
  calc ('/' :: relative trail.reverse (Text.endsWith ['/'] path)).count c
    _ = trail.reverse.flatten.count c := by
        rw [List.count_cons_of_ne (Ne.symm hc), relative, List.count_append, hslash, Nat.add_zero,
          Text.count_join hc]
    _ ≤ (Text.splitOn '/' path).flatten.count c := (sublist_of_walk? htrail).flatten.count_le c
    _ = path.count c := by rw [← Text.count_join hc, Text.join_splitOn]

section Names

variable {names : List Text}

/-- A path along names ends with the last of them. -/
theorem exists_join_eq_append (hnames : names ≠ []) :
    ∃ front, ∃ name ∈ names, Text.join ['/'] names = front ++ name := by
  obtain ⟨front, name, rfl⟩ := List.eq_nil_or_concat names |>.resolve_left hnames
  refine ⟨if front = [] then [] else Text.join ['/'] front ++ ['/'], name, by simp, ?_⟩
  rw [List.concat_eq_append]
  split
  · next hfront => rw [hfront]; rfl
  · next hfront => rw [Text.join_append_singleton _ _ hfront]

variable (h : ∀ name ∈ names, IsProper name)

include h

theorem splitOn_join_names : (Text.splitOn '/' (Text.join ['/'] names)).filter (!·.isEmpty) =
    names := by
  by_cases hnames : names = []
  · subst hnames
    rfl
  · rw [Text.splitOn_join_of_not_mem hnames fun name hname => (h name hname).2]
    exact List.filter_eq_self.2 fun name hname => by simpa using (h name hname).ne_nil

omit h in
/-- Paths along proper names are told apart by their names. -/
theorem ofNames_injective {names' : List Text} (h : ∀ name ∈ names, IsProper name)
    (h' : ∀ name ∈ names', IsProper name) (heq : ofNames names = ofNames names') :
    names = names' := by
  rw [← splitOn_join_names h, ← splitOn_join_names h', (List.cons.inj heq).2]

/-- **The path along proper names is canonical.** -/
theorem normalize?_ofNames : normalize? (ofNames names) = some (ofNames names) := by
  have hwalk : walk? [] (Text.splitOn '/' (ofNames names)) = some names.reverse := by
    rw [ofNames, Text.splitOn_cons_self]
    by_cases hnames : names = []
    · subst hnames
      rfl
    · rw [Text.splitOn_join_of_not_mem hnames fun name hname => (h name hname).2, walk?,
        if_pos (by simp), walk?_of_isName fun name hname => (h name hname).1, List.append_nil]
  rw [normalize?, hwalk, Option.map_some, List.reverse_reverse, List.isEmpty_reverse]
  refine congrArg some (if_neg ?_)
  by_cases hnames : names = []
  · rw [hnames, List.isEmpty_nil, Bool.not_true, Bool.and_false]
    exact Bool.false_ne_true
  · obtain ⟨front, name, hname, hjoin⟩ := exists_join_eq_append hnames
    rw [ofNames, hjoin, ← List.cons_append, (h name hname).not_endsWith, Bool.false_and]
    exact Bool.false_ne_true

end Names

end WikiPress.Path
