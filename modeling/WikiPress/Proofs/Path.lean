import WikiPress.Path
import Mathlib.Data.List.Basic

/-!
# Proofs/Path — walks along the segments of a path

    segment            a     .     b      ..    ..    ..
    kept behind it     a     a     a b    a     —     the walk fails

A path is walked segment by segment: an empty segment or a dot leads nowhere, two dots lead back to the
parent, and a name leads to a child (`walk?_of_stay`, `walk?_climb`, `walk?_name`).  So a walk keeps
names, some of those it meets, in order (`isName_of_walk?`, `sublist_of_walk?`), and it fails exactly
on the paths that climb above the place they start from, at some beginning of theirs
(`normalize?_eq_none_iff`).
-/

namespace WikiPress.Path

/-- A segment that leads to the parent. -/
def isClimb (segment : Text) : Bool := segment == ['.', '.']

/-- A segment that leads to a child. -/
def isName (segment : Text) : Bool :=
  !(segment == [] || segment == ['.'] || segment == ['.', '.'])

/-- **A path escapes the root**: some beginning of it climbs more often than it descends. -/
def EscapesRoot (path : Text) : Prop :=
  ∃ walked, walked <+: Text.splitOn '/' path ∧ walked.countP isName < walked.countP isClimb

theorem isName_iff {name : Text} :
    isName name = true ↔ name ≠ [] ∧ name ≠ ['.'] ∧ name ≠ ['.', '.'] := by
  simp only [isName, Bool.not_eq_true', Bool.or_eq_false_iff, beq_eq_false_iff_ne, and_assoc]

theorem eq_dot_or_climb_or_isName {name : Text} (hne : name ≠ []) :
    name = ['.'] ∨ name = ['.', '.'] ∨ isName name = true := by
  rw [isName_iff]
  by_contra hnone
  rw [not_or, not_or] at hnone
  exact hnone.2.2 ⟨hne, hnone.1, hnone.2.1⟩

/-! ## The steps of a walk -/

variable {segment : Text} {trail segments rest out : List Text}

/-- **A segment leads nowhere, to the parent or to a child.** -/
theorem segment_cases (segment : Text) :
    (segment = [] ∨ segment = ['.']) ∨ segment = ['.', '.'] ∨ isName segment = true := by
  by_cases hnil : segment = []
  · exact .inl (.inl hnil)
  · exact (eq_dot_or_climb_or_isName hnil).imp_left .inr

theorem walk?_nil (trail : List Text) : walk? trail [] = some trail := rfl

theorem walk?_of_stay (h : segment = [] ∨ segment = ['.']) :
    walk? trail (segment :: rest) = walk? trail rest := by
  rcases h with rfl | rfl <;> rfl

/-- There is no way above the root… -/
theorem walk?_root (rest : List Text) : walk? [] (['.', '.'] :: rest) = none := rfl

/-- …and from below it two dots lead back… -/
theorem walk?_climb (parent : Text) (trail rest : List Text) :
    walk? (parent :: trail) (['.', '.'] :: rest) = walk? trail rest := rfl

/-- …and a name leads on. -/
theorem walk?_name (h : isName segment = true) :
    walk? trail (segment :: rest) = walk? (segment :: trail) rest := by
  obtain ⟨hnil, hdot, hclimb⟩ := isName_iff.1 h
  rw [walk?.eq_def]
  exact (if_neg (by simp [hnil, hdot])).trans (if_neg (by simp [hclimb]))

theorem walk?_append (trail segments rest : List Text) :
    walk? trail (segments ++ rest) = (walk? trail segments).bind fun trail => walk? trail rest := by
  induction segments generalizing trail with
  | nil => rfl
  | cons segment segments ih =>
    rw [List.cons_append]
    rcases segment_cases segment with hstay | rfl | hname
    · rw [walk?_of_stay hstay, walk?_of_stay hstay, ih]
    · cases trail with
      | nil => rfl
      | cons parent trail => rw [walk?_climb, walk?_climb, ih]
    · rw [walk?_name hname, walk?_name hname, ih]

/-- A walk keeps names only, -/
theorem isName_of_walk? (h : walk? trail segments = some out)
    (htrail : ∀ name ∈ trail, isName name = true) : ∀ name ∈ out, isName name = true := by
  induction segments generalizing trail with
  | nil =>
    rw [walk?_nil] at h
    obtain rfl := Option.some.inj h
    exact htrail
  | cons segment rest ih =>
    rcases segment_cases segment with hstay | rfl | hname
    · rw [walk?_of_stay hstay] at h
      exact ih h htrail
    · cases trail with
      | nil => exact absurd h (by rw [walk?_root]; simp)
      | cons parent trail => exact ih h fun name hname => htrail name (.tail _ hname)
    · rw [walk?_name hname] at h
      exact ih h (List.forall_mem_cons.2 ⟨hname, htrail⟩)

/-- …some of those it meets, in order, -/
theorem sublist_of_walk? (h : walk? trail segments = some out) :
    out.reverse.Sublist (trail.reverse ++ segments) := by
  induction segments generalizing trail with
  | nil =>
    rw [walk?_nil] at h
    obtain rfl := Option.some.inj h
    rw [List.append_nil]
  | cons segment rest ih =>
    have hskip : (trail.reverse ++ rest).Sublist (trail.reverse ++ segment :: rest) :=
      List.Sublist.append_left (List.sublist_cons_self _ _) _
    rcases segment_cases segment with hstay | rfl | hname
    · rw [walk?_of_stay hstay] at h
      exact (ih h).trans hskip
    · cases trail with
      | nil => exact absurd h (by rw [walk?_root]; simp)
      | cons parent trail =>
        refine (ih h).trans (.trans ?_ hskip)
        rw [List.reverse_cons, List.append_assoc]
        exact List.Sublist.append_left (List.sublist_cons_self _ _) _
    · rw [walk?_name hname] at h
      have hnext := ih h
      rwa [List.reverse_cons, List.append_assoc, List.singleton_append] at hnext

theorem mem_of_walk?_eq_some (h : walk? trail segments = some out) {s : Text} (hs : s ∈ out) :
    s ∈ trail ∨ s ∈ segments := by
  have hmem := (sublist_of_walk? h).subset (List.mem_reverse.2 hs)
  rwa [List.mem_append, List.mem_reverse] at hmem

/-- …and along names it keeps all of them. -/
theorem walk?_of_isName (h : ∀ name ∈ segments, isName name = true) :
    walk? trail segments = some (segments.reverse ++ trail) := by
  induction segments generalizing trail with
  | nil => rfl
  | cons segment rest ih =>
    obtain ⟨hsegment, hrest⟩ := List.forall_mem_cons.1 h
    rw [walk?_name hsegment, ih hrest, List.reverse_cons, List.append_assoc, List.singleton_append]

/-! ## Walks that fail -/

theorem exists_prefix_cons_iff {α : Type} {a : α} {l : List α} {p : List α → Prop} :
    (∃ walked, walked <+: a :: l ∧ p walked) ↔ p [] ∨ ∃ walked, walked <+: l ∧ p (a :: walked) := by
  simp only [List.prefix_cons_iff]
  constructor
  · rintro ⟨walked, rfl | ⟨t, rfl, ht⟩, hp⟩
    · exact .inl hp
    · exact .inr ⟨t, ht, hp⟩
  · rintro (hp | ⟨t, ht, hp⟩)
    · exact ⟨[], .inl rfl, hp⟩
    · exact ⟨_, .inr ⟨t, rfl, ht⟩, hp⟩

/-- **A walk fails** where it climbs more often than it went down, the segments kept before
included. -/
theorem walk?_eq_none_iff :
    walk? trail segments = none ↔ ∃ walked, walked <+: segments ∧
      trail.length + walked.countP isName < walked.countP isClimb := by
  induction segments generalizing trail with
  | nil => simp [walk?]
  | cons segment rest ih =>
    rw [exists_prefix_cons_iff]
    -- the segments behind this one are counted from where it leads
    have hbehind : ∀ kept : List Text, (∀ walked : List Text,
        kept.length + walked.countP isName < walked.countP isClimb ↔
          trail.length + (segment :: walked).countP isName < (segment :: walked).countP isClimb) →
        (walk? kept rest = none ↔
          trail.length + List.countP isName [] < List.countP isClimb [] ∨
            ∃ walked, walked <+: rest ∧ trail.length + (segment :: walked).countP isName <
              (segment :: walked).countP isClimb) := fun kept hkept =>
      (ih.trans (exists_congr fun walked => and_congr_right fun _ => hkept walked)).trans
        (or_iff_right (Nat.not_lt_zero _)).symm
    rcases segment_cases segment with hstay | rfl | hname
    · obtain ⟨hname, hclimb⟩ : isName segment = false ∧ isClimb segment = false := by
        rcases hstay with rfl | rfl <;> exact ⟨rfl, rfl⟩
      rw [walk?_of_stay hstay]
      exact hbehind trail fun walked => by simp [hname, hclimb]
    · have hname : isName ['.', '.'] = false := rfl
      have hclimb : isClimb ['.', '.'] = true := rfl
      cases trail with
      | nil => exact iff_of_true rfl (.inr ⟨[], List.nil_prefix, by simp [hname, hclimb]⟩)
      | cons parent trail =>
        rw [walk?_climb]
        refine hbehind trail fun walked => ?_
        simp only [List.countP_cons, hname, hclimb, List.length_cons, if_true, Bool.false_eq_true,
          if_false]
        omega
    · have hclimb : isClimb segment = false := beq_eq_false_iff_ne.2 (isName_iff.1 hname).2.2
      rw [walk?_name hname]
      refine hbehind (segment :: trail) fun walked => ?_
      simp only [List.countP_cons, hname, hclimb, List.length_cons, if_true, Bool.false_eq_true,
        if_false]
      omega

/-- **A path has no canonical form exactly if it escapes the root.** -/
theorem normalize?_eq_none_iff {path : Text} : normalize? path = none ↔ EscapesRoot path := by
  rw [normalize?, Option.map_eq_none_iff, walk?_eq_none_iff, EscapesRoot]
  simp only [List.length_nil, Nat.zero_add]

end WikiPress.Path
