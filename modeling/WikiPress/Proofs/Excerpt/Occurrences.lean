import WikiPress.Excerpt
import Mathlib.Data.List.Basic

/-!
# Proofs/Excerpt/Occurrences — the occurrences of a query, found from the left

A query occurs where the characters of the text are its own up to case.  Going through the text once
and skipping what an occurrence takes up finds the leftmost occurrences that do not overlap
(`leftmost_occurrences`): each is one, they stand apart, and no occurrence begins outside of them.
-/

namespace WikiPress.Excerpt

variable {query text : Text} {start : Nat}

/-! ## Slices -/

theorem slice_add (text : Text) (p n : Nat) : slice text p (p + n) = (text.drop p).take n := by
  rw [slice, Nat.add_sub_cancel_left]

theorem length_slice {a b : Nat} (hb : b ≤ text.length) : (slice text a b).length = b - a := by
  rw [slice, List.length_take, List.length_drop]
  omega

/-- A slice in two parts. -/
theorem slice_append_slice {a b c : Nat} (hab : a ≤ b) (hbc : b ≤ c) :
    slice text a b ++ slice text b c = slice text a c := by
  have hdrop : text.drop b = (text.drop a).drop (b - a) := by
    rw [List.drop_drop, Nat.add_sub_cancel' hab]
  have hsize : c - a = (b - a) + (c - b) := by omega
  rw [slice, slice, slice, hdrop, hsize, List.take_add]

/-! ## Where a query occurs -/

/-- **A query occurs** at a position: the characters there are its own up to case. -/
def Occurs (query text : Text) (p : Nat) : Prop :=
  (slice text p (p + query.length)).map Text.simpleFold = query.map Text.simpleFold

instance (query text : Text) (p : Nat) : Decidable (Occurs query text p) :=
  inferInstanceAs (Decidable (_ = _))

theorem matchesHere_iff {t : Text} :
    matchesHere query t = true ↔
      (t.take query.length).map Text.simpleFold = query.map Text.simpleFold := by
  induction query generalizing t with
  | nil => simp [matchesHere]
  | cons q qs ih =>
    cases t with
    | nil => simp [matchesHere]
    | cons c t =>
      rw [matchesHere, Bool.and_eq_true, ih, List.length_cons, List.take_succ_cons, List.map_cons,
        List.map_cons, List.cons.injEq, beq_iff_eq, eq_comm]

theorem matchesHere_drop_iff {p : Nat} :
    matchesHere query (text.drop p) = true ↔ Occurs query text p := by
  rw [matchesHere_iff, Occurs, slice_add]

/-- An occurrence lies within the text. -/
theorem Occurs.add_length_le {p : Nat} (hquery : query ≠ []) (h : Occurs query text p) :
    p + query.length ≤ text.length := by
  have hlength := congrArg List.length h
  rw [List.length_map, List.length_map, slice_add, List.length_take, List.length_drop] at hlength
  have hpos := List.length_pos_of_ne_nil hquery
  omega

/-! ## The leftmost occurrences -/

/-- **These are the occurrences from `start` on that a search from the left finds** when it goes on
behind each: they stand apart, and no occurrence begins outside of them. -/
structure Leftmost (query text : Text) (start : Nat) (hits : List Nat) : Prop where
  occurs : ∀ p ∈ hits, start ≤ p ∧ Occurs query text p
  apart : hits.Pairwise fun p r => p + query.length ≤ r
  covers : ∀ r, start ≤ r → Occurs query text r → ∃ p ∈ hits, p ≤ r ∧ r < p + query.length

namespace Leftmost

variable {hits : List Nat}

/-- Behind the text nothing occurs. -/
theorem nil (hquery : query ≠ []) (hstart : text.length ≤ start) :
    Leftmost query text start [] where
  occurs := fun p hp => absurd hp List.not_mem_nil
  apart := .nil
  covers := fun r hr hoccurs => by
    have hle := hoccurs.add_length_le hquery
    have hpos := List.length_pos_of_ne_nil hquery
    omega

/-- A position without an occurrence is passed over, -/
theorem pass (hstart : ¬ Occurs query text start) (h : Leftmost query text (start + 1) hits) :
    Leftmost query text start hits where
  occurs := fun p hp => ⟨by have := (h.occurs p hp).1; omega, (h.occurs p hp).2⟩
  apart := h.apart
  covers := fun r hr hoccurs => by
    have hne : r ≠ start := fun heq => hstart (heq ▸ hoccurs)
    exact h.covers r (by omega) hoccurs

/-- …and an occurrence is taken, together with all that begins inside of it. -/
theorem take (hstart : Occurs query text start)
    (h : Leftmost query text (start + query.length) hits) :
    Leftmost query text start (start :: hits) where
  occurs := by
    refine List.forall_mem_cons.2 ⟨⟨Nat.le_refl _, hstart⟩, fun p hp => ?_⟩
    have hp' := h.occurs p hp
    exact ⟨by omega, hp'.2⟩
  apart := List.pairwise_cons.2 ⟨fun p hp => (h.occurs p hp).1, h.apart⟩
  covers := fun r hr hoccurs => by
    by_cases hinside : r < start + query.length
    · exact ⟨start, List.mem_cons_self, hr, hinside⟩
    · obtain ⟨p, hp, hle⟩ := h.covers r (by omega) hoccurs
      exact ⟨p, List.mem_cons_of_mem _ hp, hle⟩

/-- Behind the first of them, the others are the leftmost. -/
theorem tail {p : Nat} (h : Leftmost query text start (p :: hits)) :
    Leftmost query text (p + query.length) hits where
  occurs := fun r hr =>
    ⟨(List.pairwise_cons.1 h.apart).1 r hr, (h.occurs r (List.mem_cons_of_mem _ hr)).2⟩
  apart := (List.pairwise_cons.1 h.apart).2
  covers := fun r hr hoccurs => by
    have hp := (h.occurs p List.mem_cons_self).1
    obtain ⟨q, hq, hle, hlt⟩ := h.covers r (by omega) hoccurs
    rcases List.mem_cons.1 hq with rfl | hq
    · omega
    · exact ⟨q, hq, hle, hlt⟩

/-- The first of them is the first occurrence. -/
theorem head_le {p r : Nat} (h : Leftmost query text start (p :: hits)) (hr : start ≤ r)
    (hoccurs : Occurs query text r) : p ≤ r := by
  obtain ⟨q, hq, hle, -⟩ := h.covers r hr hoccurs
  rcases List.mem_cons.1 hq with rfl | hq
  · exact hle
  · have hafter := (List.pairwise_cons.1 h.apart).1 q hq
    omega

/-- **There is one such list only.** -/
theorem unique {hits' : List Nat} (h : Leftmost query text start hits)
    (h' : Leftmost query text start hits') : hits = hits' := by
  induction hits generalizing start hits' with
  | nil =>
    cases hits' with
    | nil => rfl
    | cons p' _ =>
      obtain ⟨hp', hoccurs⟩ := h'.occurs p' List.mem_cons_self
      obtain ⟨p, hp, -⟩ := h.covers p' hp' hoccurs
      exact absurd hp List.not_mem_nil
  | cons p hits ih =>
    obtain ⟨hp, hoccurs⟩ := h.occurs p List.mem_cons_self
    cases hits' with
    | nil =>
      obtain ⟨p', hp', -⟩ := h'.covers p hp hoccurs
      exact absurd hp' List.not_mem_nil
    | cons p' hits' =>
      obtain ⟨hp', hoccurs'⟩ := h'.occurs p' List.mem_cons_self
      obtain rfl : p = p' := Nat.le_antisymm (h.head_le hp' hoccurs') (h'.head_le hp hoccurs)
      rw [ih h.tail h'.tail]

end Leftmost

/-- **Going through a text once finds the leftmost occurrences**, from behind what the one before
takes up. -/
theorem leftmost_occurrences_drop (hquery : query ≠ []) (position skip : Nat) :
    Leftmost query text (position + skip)
      (occurrences query position skip (text.drop position)) := by
  have hpos := List.length_pos_of_ne_nil hquery
  generalize ht : text.drop position = t
  induction t generalizing position skip with
  | nil =>
    have hend : text.length ≤ position := List.drop_eq_nil_iff.1 ht
    exact .nil hquery (by omega)
  | cons c t ih =>
    have htail : text.drop (position + 1) = t := by
      rw [← List.drop_drop, ht, List.drop_one, List.tail_cons]
    cases skip with
    | succ skip =>
      have hrest := ih (position + 1) skip htail
      rwa [occurrences, Nat.add_comm skip 1, ← Nat.add_assoc]
    | zero =>
      rw [occurrences, Nat.add_zero, ← ht]
      split
      · next hmatch =>
        have hrest := ih (position + 1) (query.length - 1) htail
        rw [show position + 1 + (query.length - 1) = position + query.length by omega] at hrest
        exact .take (matchesHere_drop_iff.1 hmatch) hrest
      · next hmatch => exact .pass (mt matchesHere_drop_iff.2 hmatch) (ih (position + 1) 0 htail)

theorem leftmost_occurrences (hquery : query ≠ []) (text : Text) :
    Leftmost query text 0 (occurrences query 0 0 text) :=
  leftmost_occurrences_drop hquery 0 0

/-- Nothing is found exactly if the query occurs nowhere. -/
theorem occurrences_eq_nil_iff (hquery : query ≠ []) :
    occurrences query 0 0 text = [] ↔ ∀ p, ¬ Occurs query text p := by
  have hleftmost := leftmost_occurrences hquery text
  constructor
  · intro hnil p hoccurs
    rw [hnil] at hleftmost
    obtain ⟨q, hq, -⟩ := hleftmost.covers p (Nat.zero_le p) hoccurs
    exact absurd hq List.not_mem_nil
  · intro hnone
    refine List.eq_nil_iff_forall_not_mem.2 fun p hp => ?_
    exact hnone p (hleftmost.occurs p hp).2

end WikiPress.Excerpt
