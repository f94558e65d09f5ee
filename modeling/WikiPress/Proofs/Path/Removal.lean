import WikiPress.Proofs.Path.Canonical
import Mathlib.Data.List.Sort

/-!
# Proofs/Path/Removal — the names that a path leaves

    a   b   ..   .   c   ..   ..   d.md
    │   └───┘        └───┘    │             ──▸   /d.md
    └─────────────────────────┘

A path can be read as it stands, without a walk: two dots remove the nearest name before them that
was not removed before (`Removes`), and the path leads along the names that are left (`Leaves`).
A walk keeps what the climbs met so far leave (`leaves_of_walk?`), so the canonical form is the path
along the names that are left (`leaves_of_normalize?`).  Nothing in it leads nowhere or back: it is
its own canonical form (`normalize?_of_normalize?`), and a path goes on from it as it goes on from
where it was written (`normalize?_continue`).
-/

namespace WikiPress.Path

/-! ## Removed names -/

/-- At this position a path leads to a child. -/
def NameAt (segments : List Text) (i : Nat) : Prop := ∃ s, segments[i]? = some s ∧ isName s = true

/-- At this position a path leads to the parent. -/
def ClimbAt (segments : List Text) (i : Nat) : Prop := segments[i]? = some ['.', '.']

/-- **A climb removes a name**: the nearest one before it that no earlier climb removes. -/
def Removes (segments : List Text) (climb name : Nat) : Prop :=
  ClimbAt segments climb ∧ NameAt segments name ∧ name < climb ∧
    (∀ earlier, earlier < climb → ¬ Removes segments earlier name) ∧
    ∀ between, name < between → between < climb → NameAt segments between →
      ∃ earlier, ∃ _ : earlier < climb, Removes segments earlier between
termination_by climb

/-- **The names that segments leave**, in order: those that no climb removes. -/
def Leaves (segments names : List Text) : Prop :=
  ∃ kept : List Nat, kept.Pairwise (· < ·) ∧
    (∀ i, i ∈ kept ↔ NameAt segments i ∧ ∀ climb, ¬ Removes segments climb i) ∧
    names = kept.map fun i => segments.getD i []

variable {segments : List Text} {n : Nat} {kept : List Nat}

theorem NameAt.lt {i : Nat} (h : NameAt segments i) : i < segments.length := by
  obtain ⟨s, hs, -⟩ := h
  exact (List.getElem?_eq_some_iff.1 hs).1

theorem NameAt.not_climbAt {i : Nat} (h : NameAt segments i) : ¬ ClimbAt segments i := by
  obtain ⟨s, hs, hname⟩ := h
  rw [ClimbAt, hs, Option.some.injEq]
  exact (isName_iff.1 hname).2.2

theorem Removes.climbAt {climb name : Nat} (h : Removes segments climb name) :
    ClimbAt segments climb := by
  rw [Removes] at h
  exact h.1

theorem Removes.lt {climb name : Nat} (h : Removes segments climb name) : name < climb := by
  rw [Removes] at h
  exact h.2.2.1

/-- Positions in ascending order are told by their members. -/
theorem eq_of_pairwise_lt {kept kept' : List Nat} (h : kept.Pairwise (· < ·))
    (h' : kept'.Pairwise (· < ·)) (hmem : ∀ i, i ∈ kept ↔ i ∈ kept') : kept = kept' :=
  List.Perm.eq_of_pairwise (fun _ _ _ _ hab hba => absurd hab (Nat.lt_asymm hba)) h h'
    ((List.perm_ext_iff_of_nodup (h.imp Nat.ne_of_lt) (h'.imp Nat.ne_of_lt)).2 hmem)

/-- Segments leave one list of names. -/
theorem Leaves.unique {names names' : List Text} (h : Leaves segments names)
    (h' : Leaves segments names') : names = names' := by
  obtain ⟨kept, hkept, hmem, rfl⟩ := h
  obtain ⟨kept', hkept', hmem', rfl⟩ := h'
  rw [eq_of_pairwise_lt hkept hkept' fun i => (hmem i).trans (hmem' i).symm]

/-! ## The names left so far -/

/-- **The positions of the names that stand in front of a position** and that the climbs in front of
it leave. -/
structure KeptBefore (segments : List Text) (n : Nat) (kept : List Nat) : Prop where
  ascending : kept.Pairwise (· < ·)
  mem_iff : ∀ i, i ∈ kept ↔
    i < n ∧ NameAt segments i ∧ ∀ climb, climb < n → ¬ Removes segments climb i

namespace KeptBefore

theorem zero : KeptBefore segments 0 [] where
  ascending := .nil
  mem_iff := fun i => by simp

/-- At the end nothing else is removed. -/
theorem leaves (h : KeptBefore segments segments.length kept) :
    Leaves segments (kept.map fun i => segments.getD i []) := by
  refine ⟨kept, h.ascending, fun i => ?_, rfl⟩
  rw [h.mem_iff]
  constructor
  · rintro ⟨-, hname, hkept⟩
    exact ⟨hname, fun climb hremoves =>
      hkept climb (List.getElem?_eq_some_iff.1 hremoves.climbAt).1 hremoves⟩
  · rintro ⟨hname, hkept⟩
    exact ⟨hname.lt, hname, fun climb _ => hkept climb⟩

/-- A position that is no climb removes nothing. -/
theorem forall_lt_succ_iff (hclimb : ¬ ClimbAt segments n) (i : Nat) :
    (∀ climb, climb < n + 1 → ¬ Removes segments climb i) ↔
      ∀ climb, climb < n → ¬ Removes segments climb i := by
  refine ⟨fun h climb hlt => h climb (by omega), fun h climb hlt hremoves => ?_⟩
  obtain hlt | rfl : climb < n ∨ climb = n := by omega
  · exact h climb hlt hremoves
  · exact hclimb hremoves.climbAt

/-- **A segment that leads nowhere** leaves what was left. -/
theorem stay (h : KeptBefore segments n kept) (hname : ¬ NameAt segments n)
    (hclimb : ¬ ClimbAt segments n) : KeptBefore segments (n + 1) kept where
  ascending := h.ascending
  mem_iff := fun i => by
    rw [h.mem_iff, forall_lt_succ_iff hclimb]
    constructor
    · rintro ⟨hlt, hi⟩
      exact ⟨by omega, hi⟩
    · rintro ⟨hlt, hi, hkept⟩
      have hne : i ≠ n := by
        rintro rfl
        exact hname hi
      exact ⟨by omega, hi, hkept⟩

/-- **A name** is left itself. -/
theorem name (h : KeptBefore segments n kept) (hname : NameAt segments n) :
    KeptBefore segments (n + 1) (kept ++ [n]) where
  ascending := by
    refine List.pairwise_append.2 ⟨h.ascending, List.pairwise_singleton _ _, fun i hi j hj => ?_⟩
    rw [List.mem_singleton.1 hj]
    exact ((h.mem_iff i).1 hi).1
  mem_iff := fun i => by
    rw [List.mem_append, List.mem_singleton, h.mem_iff, forall_lt_succ_iff hname.not_climbAt]
    constructor
    · rintro (⟨hlt, hi⟩ | rfl)
      · exact ⟨by omega, hi⟩
      · refine ⟨by omega, hname, fun climb hlt hremoves => ?_⟩
        exact absurd hremoves.lt (by omega)
    · rintro ⟨hlt, hi⟩
      obtain hlt | rfl : i < n ∨ i = n := by omega
      · exact .inl ⟨hlt, hi⟩
      · exact .inr rfl

/-- **A climb removes the last name that is left**, and no other. -/
theorem removes_iff {last : Nat} (h : KeptBefore segments n (kept ++ [last]))
    (hclimb : ClimbAt segments n) {i : Nat} : Removes segments n i ↔ i = last := by
  obtain ⟨hlast, hlastName, hlastKept⟩ := (h.mem_iff last).1 (by simp)
  have hmax : ∀ j ∈ kept ++ [last], j ≤ last := by
    intro j hj
    rcases List.mem_append.1 hj with hj | hj
    · exact ((List.pairwise_append.1 h.ascending).2.2 j hj last List.mem_cons_self).le
    · exact (List.mem_singleton.1 hj).le
  constructor
  · intro hremoves
    rw [Removes] at hremoves
    obtain ⟨-, hname, hlt, hnew, hbetween⟩ := hremoves
    have hle := hmax i ((h.mem_iff i).2 ⟨hlt, hname, hnew⟩)
    by_contra hne
    obtain ⟨earlier, hearlier, hremoved⟩ := hbetween last (by omega) hlast hlastName
    exact hlastKept earlier hearlier hremoved
  · rintro rfl
    rw [Removes]
    refine ⟨hclimb, hlastName, hlast, hlastKept, fun between hafter hbefore hname => ?_⟩
    by_contra hnone
    simp only [not_exists] at hnone
    exact absurd (hmax between ((h.mem_iff between).2 ⟨hbefore, hname, hnone⟩)) (by omega)

/-- …so the others are left. -/
theorem climb {last : Nat} (h : KeptBefore segments n (kept ++ [last]))
    (hclimb : ClimbAt segments n) : KeptBefore segments (n + 1) kept where
  ascending := (List.pairwise_append.1 h.ascending).1
  mem_iff := fun i => by
    have hlast : i ∈ kept → i ≠ last := fun hi =>
      ((List.pairwise_append.1 h.ascending).2.2 i hi last List.mem_cons_self).ne
    have hmem := h.mem_iff i
    rw [List.mem_append, List.mem_singleton] at hmem
    constructor
    · intro hi
      obtain ⟨hlt, hname, hkept⟩ := hmem.1 (.inl hi)
      refine ⟨by omega, hname, fun climb hclimbLt hremoves => ?_⟩
      obtain hclimbLt | rfl : climb < n ∨ climb = n := by omega
      · exact hkept climb hclimbLt hremoves
      · exact hlast hi ((h.removes_iff hclimb).1 hremoves)
    · rintro ⟨hlt, hname, hkept⟩
      have hne : i ≠ n := by
        rintro rfl
        exact hname.not_climbAt hclimb
      refine (hmem.2 ⟨by omega, hname, fun climb hclimbLt => hkept climb (by omega)⟩).resolve_right ?_
      rintro rfl
      exact hkept n (by omega) ((h.removes_iff hclimb).2 rfl)

end KeptBefore

/-! ## Walks -/

/-- **A walk keeps the names that the climbs leave**, the last in front. -/
theorem leaves_of_walk? {front rest trail out : List Text} (hsegments : segments = front ++ rest)
    (hkept : KeptBefore segments front.length kept)
    (htrail : trail.reverse = kept.map fun i => segments.getD i [])
    (h : walk? trail rest = some out) : Leaves segments out.reverse := by
  induction rest generalizing front trail kept with
  | nil =>
    rw [walk?_nil] at h
    obtain rfl := Option.some.inj h
    obtain rfl : segments = front := by rw [hsegments, List.append_nil]
    exact htrail ▸ hkept.leaves
  | cons segment rest ih =>
    have hhere : segments[front.length]? = some segment := by rw [hsegments]; simp
    have hnext : segments = (front ++ [segment]) ++ rest := by rw [hsegments]; simp
    have hlength : (front ++ [segment]).length = front.length + 1 := by simp
    have hisName : NameAt segments front.length ↔ isName segment = true := by
      simp [NameAt, hhere]
    have hisClimb : ClimbAt segments front.length ↔ segment = ['.', '.'] := by
      simp [ClimbAt, hhere]
    rcases segment_cases segment with hstay | rfl | hname
    · rw [walk?_of_stay hstay] at h
      refine ih hnext (hlength ▸ hkept.stay ?_ ?_) htrail h
      · rw [hisName]
        rcases hstay with rfl | rfl <;> exact Bool.false_ne_true
      · rw [hisClimb]
        rcases hstay with rfl | rfl <;> decide
    · cases trail with
      | nil => exact absurd h (by rw [walk?_root]; simp)
      | cons parent parents =>
        have hne : kept ≠ [] := by
          rintro rfl
          simp at htrail
        obtain ⟨earlier, last, rfl⟩ := List.eq_nil_or_concat kept |>.resolve_left hne
        rw [List.concat_eq_append] at hkept htrail
        rw [List.map_append, List.reverse_cons] at htrail
        refine ih hnext (hlength ▸ hkept.climb (hisClimb.2 rfl)) ?_ h
        exact List.append_inj_left' htrail rfl
    · rw [walk?_name hname] at h
      refine ih hnext (hlength ▸ hkept.name (hisName.2 hname)) ?_ h
      rw [List.reverse_cons, htrail, List.map_append]
      simp [List.getD, hhere]

/-! ## Canonical forms -/

section Canonical

variable {names : List Text} (h : ∀ name ∈ names, IsProper name) (slash : Bool)

include h

/-- The segments of a canonical path are its names, between empty ones. -/
theorem splitOn_relative : Text.splitOn '/' ('/' :: relative names slash) =
    [] :: (names ++ if slash || names.isEmpty then [[]] else []) := by
  rw [Text.splitOn_cons_self]
  rcases names with _ | ⟨name, rest⟩
  · cases slash <;> rfl
  · have hjoin : Text.splitOn '/' (Text.join ['/'] (name :: rest)) = name :: rest :=
      Text.splitOn_join_of_not_mem (List.cons_ne_nil _ _) fun name hname => (h name hname).2
    cases slash with
    | false => rw [relative_false, hjoin]; simp
    | true =>
      have hrelative : relative (name :: rest) true = Text.join ['/'] (name :: rest) ++ ['/'] := rfl
      rw [hrelative, Text.splitOn_append_cons, hjoin]
      rfl

/-- **A canonical path has no empty segment** between two slashes, -/
theorem not_infix_relative : ¬ ['/', '/'] <:+: '/' :: relative names slash := by
  rintro ⟨before, after, hpath⟩
  have hsegments := congrArg (Text.splitOn '/') hpath
  rw [List.append_assoc, List.cons_append, Text.splitOn_append_cons, List.singleton_append,
    Text.splitOn_cons_self, splitOn_relative h] at hsegments
  obtain ⟨first, firsts, hfirst⟩ := List.exists_cons_of_ne_nil (Text.splitOn_ne_nil '/' before)
  rw [hfirst, List.cons_append] at hsegments
  have hmem : [] ∈ (firsts ++ [] :: Text.splitOn '/' after).dropLast := by
    rw [List.dropLast_append_of_ne_nil (List.cons_ne_nil _ _),
      List.dropLast_cons_of_ne_nil (Text.splitOn_ne_nil _ _)]
    exact List.mem_append_right _ List.mem_cons_self
  rw [(List.cons.inj hsegments).2] at hmem
  have hname : [] ∈ names := by
    split at hmem
    · rwa [List.dropLast_concat] at hmem
    · rw [List.append_nil] at hmem
      exact List.dropLast_subset _ hmem
  exact (h _ hname).ne_nil rfl

/-- …no dot and no two dots. -/
theorem ne_dots_of_mem_relative {segment : Text}
    (hsegment : segment ∈ Text.splitOn '/' ('/' :: relative names slash)) :
    segment ≠ ['.'] ∧ segment ≠ ['.', '.'] := by
  rw [splitOn_relative h, List.mem_cons, List.mem_append] at hsegment
  obtain rfl | hname | hlast := hsegment
  · decide
  · exact ⟨(h _ hname).ne_dot, (h _ hname).ne_climb⟩
  · split at hlast
    · rw [List.mem_singleton.1 hlast]
      decide
    · exact absurd hlast List.not_mem_nil

/-- A walk along a canonical path keeps its names. -/
theorem walk?_relative :
    walk? [] (Text.splitOn '/' ('/' :: relative names slash)) = some names.reverse := by
  have hnames : walk? [] names = some names.reverse :=
    (walk?_of_isName fun name hname => (h name hname).1).trans (by rw [List.append_nil])
  have hlast : walk? names.reverse (if slash || names.isEmpty then [[]] else []) =
      some names.reverse := by
    split <;> rfl
  rw [splitOn_relative h, walk?, if_pos (by simp), walk?_append, hnames, Option.bind_some, hlast]

end Canonical

variable {path out : Text}

/-- **The canonical form of a path leads along the names that the path leaves.** -/
theorem leaves_of_normalize? (h : normalize? path = some out) :
    ∃ names, Leaves (Text.splitOn '/' path) names ∧ (∀ name ∈ names, IsProper name) ∧
      out = '/' :: relative names (Text.endsWith ['/'] path) := by
  obtain ⟨trail, htrail, hnames, hout⟩ := exists_trail_of_normalize? h
  exact ⟨trail.reverse, leaves_of_walk? (List.nil_append _).symm .zero rfl htrail, hnames, hout⟩

/-- A path ends with a slash if what follows a slash in it does, or if nothing follows. -/
theorem endsWith_slash_append (s t : Text) :
    Text.endsWith ['/'] (s ++ '/' :: t) = Text.endsWith ['/'] ('/' :: t) := by
  rw [Bool.eq_iff_iff, Snippet.Directive.endsWith_iff, Snippet.Directive.endsWith_iff]
  constructor
  · intro h
    exact List.suffix_of_suffix_length_le h (List.suffix_append _ _) (by simp)
  · intro h
    exact h.trans (List.suffix_append _ _)

theorem endsWith_relative {names : List Text} (h : ∀ name ∈ names, IsProper name) (slash : Bool) :
    (Text.endsWith ['/'] ('/' :: relative names slash) && !names.isEmpty) =
      (slash && !names.isEmpty) := by
  rcases names with _ | ⟨name, rest⟩
  · simp
  · cases slash with
    | true =>
      have hend : '/' :: relative (name :: rest) true =
          ('/' :: Text.join ['/'] (name :: rest)) ++ '/' :: [] := rfl
      rw [hend, endsWith_slash_append]
      rfl
    | false =>
      obtain ⟨front, last, hlast, hjoin⟩ := exists_join_eq_append (List.cons_ne_nil name rest)
      rw [relative_false, hjoin, ← List.cons_append, (h last hlast).not_endsWith]

/-- **A canonical path is its own canonical form.** -/
theorem normalize?_of_normalize? (h : normalize? path = some out) : normalize? out = some out := by
  obtain ⟨names, hnames, rfl⟩ := normalize?_eq_some h
  rw [normalize?, walk?_relative hnames, Option.map_some, List.reverse_reverse,
    List.isEmpty_reverse]
  dsimp only
  rw [endsWith_relative hnames, relative]
  split <;> simp

/-- **A path goes on** from its canonical form as it goes on from what was written. -/
theorem normalize?_continue (h : normalize? path = some out) (rest : Text) :
    normalize? (path ++ '/' :: rest) = normalize? (out ++ '/' :: rest) := by
  obtain ⟨trail, htrail, hnames, rfl⟩ := exists_trail_of_normalize? h
  have hout := walk?_relative hnames (Text.endsWith ['/'] path)
  rw [List.reverse_reverse] at hout
  rw [normalize?, normalize?, Text.splitOn_append_cons, Text.splitOn_append_cons, walk?_append,
    walk?_append, htrail, hout, endsWith_slash_append path, endsWith_slash_append]

/-! ## Documents -/

/-- **A canonical path of a document.** -/
structure IsCanonicalDocument (path : Text) : Prop where
  normalized : normalize? path = some path
  extension : lit ".md" <:+ path

theorem isProper_extension : IsProper (lit ".md") := ⟨by decide, by decide⟩

/-- A path that ends like a document names no directory. -/
theorem endsWith_slash_of_extension (h : lit ".md" <:+ path) :
    Text.endsWith ['/'] path = false := by
  obtain ⟨front, rfl⟩ := h
  exact isProper_extension.not_endsWith front

theorem isName_append_extension (front : Text) : isName (front ++ lit ".md") = true := by
  have hlength : 3 ≤ (front ++ lit ".md").length := by
    rw [List.length_append]
    exact Nat.le_add_left _ _
  rw [isName_iff]
  refine ⟨?_, ?_, ?_⟩ <;> intro heq <;> rw [heq] at hlength <;> exact absurd hlength (by decide)

/-- **The canonical form of a document's path** is one. -/
theorem isCanonicalDocument_of_normalize? (h : normalize? path = some out)
    (hextension : lit ".md" <:+ path) : IsCanonicalDocument out := by
  refine ⟨normalize?_of_normalize? h, ?_⟩
  obtain ⟨front, rfl⟩ := hextension
  obtain ⟨trail, htrail, -, rfl⟩ := exists_trail_of_normalize? h
  -- the last segment is a name, so the walk ends with it
  obtain ⟨init, last, hsegments⟩ :=
    Text.exists_splitOn_append (c := '/') isProper_extension.2 front
  rw [hsegments, walk?_append] at htrail
  obtain ⟨parents, -, hlast⟩ := Option.bind_eq_some_iff.1 htrail
  rw [walk?_of_isName (by simp [isName_append_extension]), Option.some.injEq] at hlast
  rw [isProper_extension.not_endsWith, relative_false, ← hlast, List.reverse_append,
    List.reverse_reverse]
  by_cases hparents : parents.reverse = []
  · rw [hparents]
    exact (List.suffix_append last _).trans (List.suffix_cons '/' _)
  · rw [Text.join_append_singleton _ _ hparents]
    exact ((List.suffix_append last _).trans (List.suffix_append _ _)).trans (List.suffix_cons _ _)

/-- **Two paths name the same document**: both stay below the root, and they leave the same names. -/
def SameDocument (path path' : Text) : Prop :=
  ¬ EscapesRoot path ∧ ¬ EscapesRoot path' ∧
    ∃ names, Leaves (Text.splitOn '/' path) names ∧ Leaves (Text.splitOn '/' path') names

/-- **Two paths name the same document exactly if their canonical forms are equal**, where no slash
at the end tells a directory from a document. -/
theorem sameDocument_iff {path' out' : Text} (h : normalize? path = some out)
    (h' : normalize? path' = some out') (hslash : Text.endsWith ['/'] path = false)
    (hslash' : Text.endsWith ['/'] path' = false) : SameDocument path path' ↔ out = out' := by
  have hbelow : ¬ EscapesRoot path := by
    rw [← normalize?_eq_none_iff, h]
    exact Option.some_ne_none _
  have hbelow' : ¬ EscapesRoot path' := by
    rw [← normalize?_eq_none_iff, h']
    exact Option.some_ne_none _
  obtain ⟨names, hleaves, hnames, rfl⟩ := leaves_of_normalize? h
  obtain ⟨names', hleaves', hnames', rfl⟩ := leaves_of_normalize? h'
  rw [hslash, hslash', relative_false, relative_false]
  constructor
  · rintro ⟨-, -, common, hcommon, hcommon'⟩
    rw [hleaves.unique hcommon, hleaves'.unique hcommon']
  · intro heq
    obtain rfl := ofNames_injective hnames hnames' heq
    exact ⟨hbelow, hbelow', names, hleaves, hleaves'⟩

end WikiPress.Path
